import Storybind.Text.Pieces

/-!
The files that new projects hold beside their story and their project file.
-/

namespace Storybind.Project

/-- The style sheet of an author to start from. -/
def customStyle : String := Text.join "\n" [
  "/* Custom styles, applied after the theme */",
  ".vn-dialogue \x7b",
  "  box-shadow: 0 4px 12px rgba(0, 0, 0, 0.25);",
  "\x7d",
  ""]

/-- The script of an author to start from. -/
def customScript : String := Text.join "\n" [
  "// Custom script, runs after the runtime and components are loaded",
  "window.addEventListener('vn-game-ready', function () \x7b",
  "  console.log('Game ready:', window.VN_RUNTIME_DATA.gameData.metadata.title);",
  "\x7d);",
  ""]

/-- Notes on the directory of assets. -/
def assetNotes : String := Text.join "\n" [
  "# Assets",
  "",
  "- images/: .jpg .jpeg .png .gif .webp .svg .bmp (images up to 1 MB are embedded)",
  "- audio/: .mp3 .wav .ogg .m4a .aac .flac",
  "- video/: .mp4 .webm .avi .mov .wmv .flv",
  "",
  "Assets are addressed by key: the path inside this directory without its",
  "extension, with separators and other punctuation replaced by `_`.",
  "`images/hero.png` becomes `images_hero`.",
  ""]

/-- An image that stands for one to come. -/
def placeholderImage : String := Text.join "\n" [
  "<svg width=\"400\" height=\"300\" xmlns=\"http://www.w3.org/2000/svg\">",
  "  <rect width=\"100%\" height=\"100%\" fill=\"#f0f0f0\"/>",
  "  <text x=\"50%\" y=\"50%\" font-family=\"Arial\" font-size=\"16\" fill=\"#666\" text-anchor=\"middle\" dy=\"0.3em\">",
  "    Placeholder Image",
  "  </text>",
  "</svg>",
  ""]

/-- A component that shows a badge. -/
def badgeScript : String := Text.join "\n" [
  "class SceneBadge extends VNComponent \x7b",
  "  render() \x7b",
  "    const badge = document.createElement('div');",
  "    badge.className = 'scene-badge';",
  "    badge.textContent = this.config.label + ' ' + this.config.chapter;",
  "    return badge;",
  "  \x7d",
  "\x7d",
  "",
  "export default SceneBadge;",
  ""]

/-- The style sheet of the badge. -/
def badgeStyle : String := Text.join "\n" [
  ".scene-badge \x7b",
  "  display: inline-block;",
  "  padding: 4px 10px;",
  "  border-radius: 999px;",
  "  background: var(--accent-color);",
  "  color: var(--background-color);",
  "  font-size: 0.8rem;",
  "\x7d",
  ""]

/-- Notes on a new project. -/
def notes (name title starter : String) : String := Text.join "\n" [
  "# " ++ title,
  "",
  "Created from the `" ++ starter ++ "` template.",
  "",
  "## Layout",
  "",
  "- `story.yaml`: scenes, variables and assets",
  "- `assets/`: images, audio and video",
  "- `styles/custom.css`: stylesheet applied after the theme",
  "- `scripts/custom.js`: script appended after everything else",
  "- `vn-config.json`: compile defaults",
  "",
  "## Build",
  "",
  "```bash",
  "cd " ++ name,
  "vn-compiler validate story.yaml",
  "vn-compiler compile story.yaml",
  "```",
  "",
  "Open `dist/index.html` in a browser.",
  ""]

end Storybind.Project
