import Storybind.Text.Pieces

/-!
The part of the player that mounts components.
-/

namespace Storybind.Player.Stock

/-- The lines of this part. -/
def componentsLines : List String := [
  "class VNComponent \x7b",
  "  constructor(config, context) \x7b",
  "    this.config = config || \x7b\x7d;",
  "    this.context = context || \x7b\x7d;",
  "    this.container = null;",
  "  \x7d",
  "",
  "  mount(container) \x7b",
  "    this.container = container;",
  "    const node = this.render();",
  "    if (node) container.appendChild(node);",
  "    if (typeof this.onMount === 'function') this.onMount();",
  "  \x7d",
  "",
  "  unmount() \x7b",
  "    if (typeof this.onUnmount === 'function') this.onUnmount();",
  "    if (this.container) this.container.innerHTML = '';",
  "    this.container = null;",
  "  \x7d",
  "",
  "  update(config) \x7b",
  "    this.config = Object.assign(\x7b\x7d, this.config, config || \x7b\x7d);",
  "    if (typeof this.onUpdate === 'function') this.onUpdate();",
  "  \x7d",
  "",
  "  render() \x7b",
  "    return null;",
  "  \x7d",
  "",
  "  emit(eventName, detail) \x7b",
  "    window.dispatchEvent(new CustomEvent('vn-component-' + eventName, \x7b detail: detail \x7d));",
  "  \x7d",
  "\x7d",
  "",
  "class ComponentManager \x7b",
  "  constructor(directives) \x7b",
  "    this.directives = directives || [];",
  "    this.instances = new Map();",
  "  \x7d",
  "",
  "  lookupClass(name) \x7b",
  "    if (typeof window[name] === 'function') return window[name];",
  "    try \x7b",
  "      return new Function('return typeof ' + name + \" === 'function' ? \" + name + ' : null;')();",
  "    \x7d catch (error) \x7b",
  "      return null;",
  "    \x7d",
  "  \x7d",
  "",
  "  directivesFor(sceneId, instructionIndex) \x7b",
  "    return this.directives.filter(function (d) \x7b",
  "      return d.sceneId === sceneId && d.instructionIndex === instructionIndex;",
  "    \x7d);",
  "  \x7d",
  "",
  "  mountPending(root, state) \x7b",
  "    const placeholders = root.querySelectorAll('[data-vn-component]:not([data-vn-mounted])');",
  "    placeholders.forEach((el) => \x7b",
  "      const directive = this.directives.find(function (d) \x7b return d.id === el.dataset.vnComponent; \x7d);",
  "      el.dataset.vnMounted = 'true';",
  "      if (!directive) return;",
  "      const ComponentClass = this.lookupClass(directive.componentName);",
  "      if (!ComponentClass) \x7b",
  "        el.className = 'vn-component-missing';",
  "        el.textContent = 'Component not found: ' + directive.componentName;",
  "        return;",
  "      \x7d",
  "      const existing = this.instances.get(directive.instanceId);",
  "      if (existing) existing.unmount();",
  "      const instance = new ComponentClass(directive.config, \x7b state: state, directive: directive \x7d);",
  "      instance.mount(el);",
  "      this.instances.set(directive.instanceId, instance);",
  "    \x7d);",
  "  \x7d",
  "",
  "  unmountAll() \x7b",
  "    this.instances.forEach(function (instance) \x7b instance.unmount(); \x7d);",
  "    this.instances.clear();",
  "  \x7d",
  "\x7d",
  "",
  "window.VNComponent = VNComponent;",
  ""]

/-- The part of the player that mounts components. -/
def components : String := Text.join "\n" componentsLines

end Storybind.Player.Stock
