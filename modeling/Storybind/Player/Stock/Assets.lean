import Storybind.Text.Pieces

/-!
The part of the player that finds and shows media assets.
-/

namespace Storybind.Player.Stock

/-- The lines of this part. -/
def assetsLines : List String := [
  "class AssetManager \x7b",
  "  constructor(manifest) \x7b",
  "    this.assets = manifest || \x7b\x7d;",
  "    this.loaded = new Map();",
  "  \x7d",
  "",
  "  getAsset(key) \x7b",
  "    return this.assets[key] || null;",
  "  \x7d",
  "",
  "  source(key) \x7b",
  "    const asset = this.getAsset(key);",
  "    if (!asset) return null;",
  "    return asset.embeddedData || asset.referenceURL || null;",
  "  \x7d",
  "",
  "  escape(value) \x7b",
  "    return String(value == null ? '' : value)",
  "      .replace(/&/g, '&amp;')",
  "      .replace(/</g, '&lt;')",
  "      .replace(/>/g, '&gt;')",
  "      .replace(/\"/g, '&quot;');",
  "  \x7d",
  "",
  "  renderImage(key, alt, className) \x7b",
  "    const src = this.source(key);",
  "    if (!src) return '<!-- Asset not found: ' + this.escape(key) + ' -->';",
  "    const cls = className ? ' class=\"' + this.escape(className) + '\"' : '';",
  "    const label = alt || this.getAsset(key).name;",
  "    return '<img src=\"' + this.escape(src) + '\" alt=\"' + this.escape(label) + '\"' + cls + ' data-asset=\"' + this.escape(key) + '\">';",
  "  \x7d",
  "",
  "  renderAudio(key, autoplay, loop) \x7b",
  "    const src = this.source(key);",
  "    if (!src) return '<!-- Asset not found: ' + this.escape(key) + ' -->';",
  "    return '<audio src=\"' + this.escape(src) + '\" controls' + (autoplay ? ' autoplay' : '') + (loop ? ' loop' : '') +",
  "      ' data-asset=\"' + this.escape(key) + '\"></audio>';",
  "  \x7d",
  "",
  "  renderVideo(key, autoplay, loop) \x7b",
  "    const src = this.source(key);",
  "    if (!src) return '<!-- Asset not found: ' + this.escape(key) + ' -->';",
  "    return '<video src=\"' + this.escape(src) + '\" controls' + (autoplay ? ' autoplay' : '') + (loop ? ' loop' : '') +",
  "      ' data-asset=\"' + this.escape(key) + '\"></video>';",
  "  \x7d",
  "",
  "  async preload(key) \x7b",
  "    if (this.loaded.has(key)) return this.loaded.get(key);",
  "    const src = this.source(key);",
  "    if (!src) \x7b",
  "      console.warn('Asset not found:', key);",
  "      return null;",
  "    \x7d",
  "    const promise = src.startsWith('data:')",
  "      ? Promise.resolve(src)",
  "      : fetch(src).then(function (response) \x7b",
  "          if (!response.ok) throw new Error('HTTP ' + response.status);",
  "          return response.blob();",
  "        \x7d).then(function (blob) \x7b return URL.createObjectURL(blob); \x7d);",
  "    this.loaded.set(key, promise);",
  "    return promise;",
  "  \x7d",
  "\x7d",
  ""]

/-- The part of the player that finds and shows media assets. -/
def assets : String := Text.join "\n" assetsLines

end Storybind.Player.Stock
