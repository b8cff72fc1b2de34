import Storybind.Text.Pieces

/-!
The parts of the player that keep saved games and that start a game.
-/

namespace Storybind.Player.Stock

/-- The lines of the part that keeps saved games. -/
def savesLines : List String := [
  "class SaveManager \x7b",
  "  constructor(gameTitle) \x7b",
  "    this.key = 'vn-save:' + (gameTitle || 'game');",
  "  \x7d",
  "",
  "  save(state) \x7b",
  "    try \x7b",
  "      const payload = JSON.stringify(\x7b savedAt: new Date().toISOString(), state: state \x7d);",
  "      window.localStorage.setItem(this.key, payload);",
  "      return true;",
  "    \x7d catch (error) \x7b",
  "      console.error('Save failed:', error);",
  "      return false;",
  "    \x7d",
  "  \x7d",
  "",
  "  load() \x7b",
  "    try \x7b",
  "      const raw = window.localStorage.getItem(this.key);",
  "      return raw ? JSON.parse(raw).state : null;",
  "    \x7d catch (error) \x7b",
  "      console.error('Load failed:', error);",
  "      return null;",
  "    \x7d",
  "  \x7d",
  "",
  "  clear() \x7b",
  "    window.localStorage.removeItem(this.key);",
  "  \x7d",
  "\x7d",
  ""]

/-- The part of the player that keeps saved games. -/
def saves : String := Text.join "\n" savesLines

/-- The lines of the part that starts a game. -/
def startLines : List String := [
  "(function () \x7b",
  "  'use strict';",
  "",
  "  function boot() \x7b",
  "    const data = window.VN_RUNTIME_DATA;",
  "    if (!data || !data.gameData) \x7b",
  "      console.error('VN runtime data missing');",
  "      return;",
  "    \x7d",
  "    const game = data.gameData;",
  "    const stage = document.getElementById('vn-stage');",
  "    const loading = document.getElementById('vn-loading');",
  "    if (loading) loading.remove();",
  "",
  "    const assets = new AssetManager(game.assets);",
  "    const components = new ComponentManager(game.components);",
  "    const scenes = new SceneManager(game.scenes, game.variables, assets, components);",
  "    const saves = new SaveManager(game.metadata && game.metadata.title);",
  "",
  "    scenes.attach(stage);",
  "",
  "    document.querySelectorAll('[data-vn-action]').forEach(function (button) \x7b",
  "      button.addEventListener('click', function () \x7b",
  "        const action = button.dataset.vnAction;",
  "        if (action === 'save') \x7b",
  "          saves.save(scenes.state);",
  "        \x7d else if (action === 'load') \x7b",
  "          const restored = saves.load();",
  "          if (restored) \x7b",
  "            scenes.state = restored;",
  "            stage.innerHTML = '';",
  "            components.unmountAll();",
  "            scenes.render();",
  "          \x7d",
  "        \x7d else if (action === 'restart') \x7b",
  "          components.unmountAll();",
  "          stage.innerHTML = '';",
  "          scenes.reset();",
  "          scenes.render();",
  "        \x7d",
  "      \x7d);",
  "    \x7d);",
  "",
  "    window.vnGame = \x7b data: data, assets: assets, components: components, scenes: scenes, saves: saves \x7d;",
  "    scenes.start();",
  "    window.dispatchEvent(new CustomEvent('vn-game-ready', \x7b detail: \x7b title: game.metadata && game.metadata.title \x7d \x7d));",
  "  \x7d",
  "",
  "  if (document.readyState === 'loading') \x7b",
  "    document.addEventListener('DOMContentLoaded', boot);",
  "  \x7d else \x7b",
  "    boot();",
  "  \x7d",
  "\x7d)();",
  ""]

/-- The part of the player that starts a game. -/
def start : String := Text.join "\n" startLines

end Storybind.Player.Stock
