import Storybind.Text.Pieces

/-!
The part of the player that runs the instructions of scenes.
-/

namespace Storybind.Player.Stock

/-- The lines of this part. -/
def scenesLines : List String := [
  "class SceneManager \x7b",
  "  constructor(scenes, variables, assetManager, componentManager) \x7b",
  "    this.scenes = \x7b\x7d;",
  "    (scenes || []).forEach((scene) => \x7b this.scenes[scene.name] = scene.instructions || []; \x7d);",
  "    this.sceneOrder = (scenes || []).map(function (scene) \x7b return scene.name; \x7d);",
  "    this.initialVariables = Object.assign(\x7b\x7d, variables || \x7b\x7d);",
  "    this.assets = assetManager;",
  "    this.components = componentManager;",
  "    this.stage = null;",
  "    this.state = null;",
  "    this.reset();",
  "  \x7d",
  "",
  "  reset() \x7b",
  "    this.state = \x7b",
  "      scene: this.sceneOrder[0] || null,",
  "      index: 0,",
  "      variables: Object.assign(\x7b\x7d, this.initialVariables),",
  "      flags: \x7b\x7d,",
  "      lists: \x7b\x7d,",
  "      minutes: 0,",
  "      history: []",
  "    \x7d;",
  "  \x7d",
  "",
  "  attach(stage) \x7b",
  "    this.stage = stage;",
  "    stage.addEventListener('click', (event) => \x7b",
  "      if (event.target.closest('.vn-choice, input, textarea, select, button')) return;",
  "      if (this.waiting === 'advance') this.next();",
  "    \x7d);",
  "  \x7d",
  "",
  "  start(sceneName) \x7b",
  "    if (sceneName) this.jump(sceneName);",
  "    this.render();",
  "  \x7d",
  "",
  "  jump(sceneName) \x7b",
  "    if (!this.scenes[sceneName]) \x7b",
  "      console.warn('Unknown scene:', sceneName);",
  "      return;",
  "    \x7d",
  "    this.state.history.push(this.state.scene);",
  "    this.state.scene = sceneName;",
  "    this.state.index = 0;",
  "    if (this.stage) this.stage.innerHTML = '';",
  "    window.dispatchEvent(new CustomEvent('vn-scene-changed', \x7b detail: \x7b scene: sceneName \x7d \x7d));",
  "  \x7d",
  "",
  "  lookup(path) \x7b",
  "    return path.split('.').reduce(function (value, part) \x7b",
  "      return value == null ? undefined : value[part];",
  "    \x7d, this.state.variables);",
  "  \x7d",
  "",
  "  interpolate(text) \x7b",
  "    const assets = this.assets;",
  "    return String(text)",
  "      .replace(/\\\x7b\\\x7bshowImage\\s+['\"]([^'\"]+)['\"]\\s*\\\x7d\\\x7d/g, function (_m, key) \x7b return assets.renderImage(key); \x7d)",
  "      .replace(/\\\x7b\\\x7bplayAudio\\s+['\"]([^'\"]+)['\"]\\s*\\\x7d\\\x7d/g, function (_m, key) \x7b return assets.renderAudio(key); \x7d)",
  "      .replace(/\\\x7b\\\x7bplayVideo\\s+['\"]([^'\"]+)['\"]\\s*\\\x7d\\\x7d/g, function (_m, key) \x7b return assets.renderVideo(key); \x7d)",
  "      .replace(/\\\x7b\\\x7binput:([^:\x7d]+):([^:\x7d]*):([^:\x7d]*):?([^\x7d]*)\\\x7d\\\x7d/g, function (_m, name, placeholder, type) \x7b",
  "        return '<input class=\"vn-input\" data-vn-var=\"' + assets.escape(name.trim()) + '\" type=\"' +",
  "          assets.escape(type || 'text') + '\" placeholder=\"' + assets.escape(placeholder) + '\">';",
  "      \x7d)",
  "      .replace(/\\\x7b\\\x7bcomponent\\s+[^\x7d]*\\\x7d\\\x7d/g, '')",
  "      .replace(/\\\x7b\\\x7b\\s*([\\w.]+)\\s*\\\x7d\\\x7d/g, (_m, name) => \x7b",
  "        const value = this.lookup(name);",
  "        return value == null ? '' : assets.escape(value);",
  "      \x7d);",
  "  \x7d",
  "",
  "  evaluate(condition) \x7b",
  "    const match = /^\\s*([\\w.]+)\\s+(eq|ne|gt|lt|gte|lte)\\s+(.+?)\\s*$/.exec(condition || '');",
  "    if (/^\\s*hasFlag\\(\\s*['\"]?([\\w.-]+)['\"]?\\s*\\)\\s*$/.test(condition || '')) \x7b",
  "      return !!this.state.flags[RegExp.$1];",
  "    \x7d",
  "    if (!match) return !!this.lookup(String(condition || '').trim());",
  "    const left = this.lookup(match[1]);",
  "    let right = match[3].replace(/^['\"]|['\"]$/g, '');",
  "    if (!isNaN(Number(right))) right = Number(right);",
  "    switch (match[2]) \x7b",
  "      case 'eq': return left == right;",
  "      case 'ne': return left != right;",
  "      case 'gt': return left > right;",
  "      case 'lt': return left < right;",
  "      case 'gte': return left >= right;",
  "      case 'lte': return left <= right;",
  "    \x7d",
  "    return false;",
  "  \x7d",
  "",
  "  applyActions(actions) \x7b",
  "    (actions || []).forEach((action) => \x7b",
  "      const vars = this.state.variables;",
  "      switch (action.type) \x7b",
  "        case 'setVar': vars[action.key] = action.value; break;",
  "        case 'addVar': vars[action.key] = (Number(vars[action.key]) || 0) + (Number(action.value) || 0); break;",
  "        case 'setFlag': this.state.flags[action.flag] = true; break;",
  "        case 'clearFlag': delete this.state.flags[action.flag]; break;",
  "        case 'addToList': (this.state.lists[action.list] = this.state.lists[action.list] || []).push(action.item); break;",
  "        case 'addTime': this.state.minutes += Number(action.minutes) || 0; break;",
  "      \x7d",
  "    \x7d);",
  "  \x7d",
  "",
  "  current() \x7b",
  "    const instructions = this.scenes[this.state.scene] || [];",
  "    return instructions[this.state.index];",
  "  \x7d",
  "",
  "  next() \x7b",
  "    this.state.index += 1;",
  "    this.render();",
  "  \x7d",
  "",
  "  show(instruction, index) \x7b",
  "    const block = document.createElement('div');",
  "    block.className = 'vn-dialogue';",
  "    let html = '';",
  "    if (typeof instruction === 'string') \x7b",
  "      html = this.interpolate(instruction);",
  "    \x7d else \x7b",
  "      if (instruction.speaker) html += '<div class=\"vn-speaker\">' + this.interpolate(instruction.speaker) + '</div>';",
  "      const text = instruction.say || instruction.text || instruction.content || instruction.message;",
  "      if (text) html += '<div class=\"vn-text\">' + this.interpolate(text) + '</div>';",
  "    \x7d",
  "    this.components.directivesFor(this.state.scene, index).forEach(function (directive) \x7b",
  "      html += '<div data-vn-component=\"' + directive.id + '\"></div>';",
  "    \x7d);",
  "    block.innerHTML = html;",
  "    this.stage.appendChild(block);",
  "    this.components.mountPending(block, this.state);",
  "    return block;",
  "  \x7d",
  "",
  "  render() \x7b",
  "    const instruction = this.current();",
  "    this.waiting = null;",
  "    if (instruction === undefined) \x7b",
  "      window.dispatchEvent(new CustomEvent('vn-scene-ended', \x7b detail: \x7b scene: this.state.scene \x7d \x7d));",
  "      return;",
  "    \x7d",
  "    const index = this.state.index;",
  "    if (instruction && typeof instruction === 'object') \x7b",
  "      if (instruction.if !== undefined || instruction.condition !== undefined) \x7b",
  "        const branch = this.evaluate(instruction.if || instruction.condition) ? instruction.then : instruction.else;",
  "        (Array.isArray(branch) ? branch : []).forEach((nested) => \x7b this.show(nested, index); \x7d);",
  "        return this.next();",
  "      \x7d",
  "      if (instruction.actions) this.applyActions(instruction.actions);",
  "      if (instruction.goto || instruction.jump) \x7b",
  "        this.jump(instruction.goto || instruction.jump);",
  "        return this.render();",
  "      \x7d",
  "      if (Array.isArray(instruction.choices)) \x7b",
  "        const block = this.show(instruction, index);",
  "        instruction.choices.forEach((choice) => \x7b",
  "          if (choice.condition && !this.evaluate(choice.condition)) return;",
  "          const button = document.createElement('button');",
  "          button.className = 'vn-choice';",
  "          button.innerHTML = this.interpolate(choice.text);",
  "          button.addEventListener('click', () => \x7b",
  "            this.applyActions(choice.actions);",
  "            if (choice.goto) \x7b",
  "              this.jump(choice.goto);",
  "              this.render();",
  "            \x7d else \x7b",
  "              this.next();",
  "            \x7d",
  "          \x7d);",
  "          block.appendChild(button);",
  "        \x7d);",
  "        this.waiting = 'choice';",
  "        return;",
  "      \x7d",
  "      if (!instruction.speaker && !instruction.say && !instruction.text && !instruction.content && !instruction.message) \x7b",
  "        return this.next();",
  "      \x7d",
  "    \x7d",
  "    this.show(instruction, index);",
  "    this.collectInputs();",
  "    this.waiting = 'advance';",
  "  \x7d",
  "",
  "  collectInputs() \x7b",
  "    this.stage.querySelectorAll('input[data-vn-var]').forEach((input) => \x7b",
  "      input.addEventListener('change', () => \x7b",
  "        this.state.variables[input.dataset.vnVar] = input.type === 'number' ? Number(input.value) : input.value;",
  "      \x7d);",
  "    \x7d);",
  "  \x7d",
  "\x7d",
  ""]

/-- The part of the player that runs the instructions of scenes. -/
def scenes : String := Text.join "\n" scenesLines

end Storybind.Player.Stock
