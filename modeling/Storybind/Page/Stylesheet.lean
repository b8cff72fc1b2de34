import Storybind.Minify.Style
import Storybind.Page.Theme

/-!
The style sheet of a page: sections under headings, the variables of the theme and the base rules
among them, with the theme applied to all of it. Sections that hold nothing but blanks are left out.
-/

namespace Storybind.Page

/-- The rules that every page has. -/
def baseRules : String := Text.join "\n" [
  "* \x7b box-sizing: border-box; margin: 0; padding: 0; \x7d",
  "body \x7b",
  "  font-family: -apple-system, BlinkMacSystemFont, 'Segoe UI', Roboto, sans-serif;",
  "  line-height: 1.6;",
  "  background: var(--background-color);",
  "  color: var(--text-color);",
  "\x7d",
  "#vn-container \x7b max-width: 800px; margin: 0 auto; padding: 20px; min-height: 100vh; \x7d",
  ".vn-dialogue \x7b border: 1px solid var(--border-color); border-radius: 8px; padding: 20px; " ++
    "margin: 20px 0; \x7d",
  ".vn-speaker \x7b color: var(--accent-color); font-weight: 600; margin-bottom: 6px; \x7d",
  ".vn-choice \x7b",
  "  display: block; width: 100%; text-align: left;",
  "  background: var(--primary-color); color: var(--text-color);",
  "  border: none; padding: 12px 20px; border-radius: 6px; cursor: pointer; margin: 5px 0;",
  "\x7d",
  ".vn-choice:hover \x7b background: var(--primary-dark); \x7d",
  ".vn-input \x7b padding: 10px 12px; border: 1px solid var(--border-color); border-radius: 4px; " ++
    "width: 100%; \x7d",
  ".vn-input:focus \x7b outline: none; border-color: var(--primary-color); \x7d",
  ".vn-muted \x7b color: var(--text-muted); \x7d",
  ".vn-component-missing \x7b border: 1px dashed var(--border-color); color: var(--text-muted); " ++
    "padding: 8px; \x7d"]

/-- The style texts that a page takes in. -/
structure Styles where
  dependencies : String
  player : String
  components : String
  custom : String

/-- A section with its heading. -/
def styleSection (label body : String) : String := "/* " ++ label ++ " */\n" ++ body

/-- A section that is left out if it is blank. -/
def filledSection (label body : String) : List String :=
  if Text.isBlankText body then [] else [styleSection label body]

/-- The sections of a style sheet, in order. -/
def styleSections (theme : Theme) (styles : Styles) : List String :=
  styleSection "Theme Variables" theme.rule :: filledSection "Dependency CSS" styles.dependencies ++
    styleSection "Base CSS" baseRules :: filledSection "Theme CSS" styles.player ++
    filledSection "Component CSS" styles.components ++ filledSection "Custom CSS" styles.custom

/-- The style sheet of a page. -/
def stylesheet (theme : Theme) (styles : Styles) (minify : Bool) : String :=
  let css := theme.apply (Text.join "\n\n" (styleSections theme styles))
  if minify then Minify.Style.minify css else css

end Storybind.Page
