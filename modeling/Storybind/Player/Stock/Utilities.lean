import Storybind.Text.Pieces

/-!
What older browsers lack, and help for authors who look at a running game.
-/

namespace Storybind.Player.Stock

/-- The lines of what older browsers lack. -/
def polyfillsLines : List String := [
  "(function () \x7b",
  "  'use strict';",
  "",
  "  if (!Object.entries) \x7b",
  "    Object.entries = function (obj) \x7b",
  "      return Object.keys(obj).map(function (key) \x7b return [key, obj[key]]; \x7d);",
  "    \x7d;",
  "  \x7d",
  "",
  "  if (!Array.prototype.includes) \x7b",
  "    Array.prototype.includes = function (value) \x7b",
  "      return this.indexOf(value) !== -1;",
  "    \x7d;",
  "  \x7d",
  "",
  "  if (!String.prototype.startsWith) \x7b",
  "    String.prototype.startsWith = function (search, position) \x7b",
  "      position = position || 0;",
  "      return this.substr(position, search.length) === search;",
  "    \x7d;",
  "  \x7d",
  "",
  "  if (typeof window.CustomEvent !== 'function') \x7b",
  "    window.CustomEvent = function (event, params) \x7b",
  "      params = params || \x7b bubbles: false, cancelable: false, detail: null \x7d;",
  "      var evt = document.createEvent('CustomEvent');",
  "      evt.initCustomEvent(event, params.bubbles, params.cancelable, params.detail);",
  "      return evt;",
  "    \x7d;",
  "  \x7d",
  "\x7d)();",
  ""]

/-- What older browsers lack. -/
def polyfills : String := Text.join "\n" polyfillsLines

/-- The lines of the help for authors. -/
def debuggingLines : List String := [
  "(function () \x7b",
  "  'use strict';",
  "",
  "  window.vnDebug = \x7b",
  "    state: function () \x7b",
  "      return window.vnGame ? window.vnGame.scenes.state : null;",
  "    \x7d,",
  "    jump: function (scene) \x7b",
  "      if (!window.vnGame) return;",
  "      window.vnGame.scenes.jump(scene);",
  "      window.vnGame.scenes.render();",
  "    \x7d,",
  "    setVar: function (key, value) \x7b",
  "      if (window.vnGame) window.vnGame.scenes.state.variables[key] = value;",
  "    \x7d,",
  "    assets: function () \x7b",
  "      return window.vnGame ? Object.keys(window.vnGame.assets.assets) : [];",
  "    \x7d,",
  "    dependencies: function () \x7b",
  "      const data = window.VN_RUNTIME_DATA;",
  "      return data && data.config ? data.config.dependencies : null;",
  "    \x7d,",
  "    info: function () \x7b",
  "      const data = window.VN_RUNTIME_DATA || \x7b\x7d;",
  "      const config = data.config || \x7b\x7d;",
  "      console.log('vn-compiler', config.version, 'generated', config.generated, 'theme', config.theme);",
  "    \x7d",
  "  \x7d;",
  "\x7d)();",
  ""]

/-- Help for authors who look at a running game. -/
def debugging : String := Text.join "\n" debuggingLines

end Storybind.Player.Stock
