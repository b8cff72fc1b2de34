import Storybind.Text.Pieces

/-!
The document of a page, with a slot for every part that a compile fills in, and the style sheet of
the player itself.
-/

namespace Storybind.Player.Stock

/-- The lines of the template. -/
def templateLines : List String := [
  "<!DOCTYPE html>",
  "<html lang=\"en\">",
  "<head>",
  "  <meta charset=\"UTF-8\">",
  "  <meta name=\"viewport\" content=\"width=device-width, initial-scale=1.0\">",
  "  <meta name=\"description\" content=\"\x7b\x7bMETA_DESCRIPTION\x7d\x7d\">",
  "  <meta name=\"author\" content=\"\x7b\x7bMETA_AUTHOR\x7d\x7d\">",
  "  <meta name=\"keywords\" content=\"\x7b\x7bMETA_KEYWORDS\x7d\x7d\">",
  "  <meta name=\"generator\" content=\"vn-compiler\">",
  "  <meta name=\"vn-generated\" content=\"\x7b\x7bGENERATION_TIMESTAMP\x7d\x7d\">",
  "  <meta name=\"vn-scene-count\" content=\"\x7b\x7bSCENE_COUNT\x7d\x7d\">",
  "  <meta name=\"vn-theme\" content=\"\x7b\x7bTHEME_NAME\x7d\x7d\">",
  "  <title>\x7b\x7bVN_TITLE\x7d\x7d</title>",
  "  \x7b\x7bDEPENDENCY_SCRIPTS\x7d\x7d",
  "  <style>",
  "\x7b\x7bBUNDLED_CSS\x7d\x7d",
  "  </style>",
  "</head>",
  "<body>",
  "  <div id=\"vn-container\">",
  "    <header class=\"vn-header\">",
  "      <h1 class=\"vn-title\">\x7b\x7bVN_TITLE\x7d\x7d</h1>",
  "      <nav class=\"vn-menu\">",
  "        <button type=\"button\" data-vn-action=\"save\">Save</button>",
  "        <button type=\"button\" data-vn-action=\"load\">Load</button>",
  "        <button type=\"button\" data-vn-action=\"restart\">Restart</button>",
  "      </nav>",
  "    </header>",
  "    <main id=\"vn-stage\" aria-live=\"polite\">",
  "      <div id=\"vn-loading\" class=\"vn-muted\">Loading...</div>",
  "    </main>",
  "  </div>",
  "  <noscript>This game needs JavaScript enabled.</noscript>",
  "  <script>",
  "\x7b\x7bRUNTIME_DATA\x7d\x7d",
  "  </script>",
  "  \x7b\x7bRUNTIME_SCRIPTS\x7d\x7d",
  "</body>",
  "</html>",
  ""]

/-- The document of a page, with a slot for every part that a compile fills in. -/
def template : String := Text.join "\n" templateLines

/-- The lines of the style sheet. -/
def lookLines : List String := [
  ".vn-header \x7b",
  "  display: flex;",
  "  align-items: center;",
  "  justify-content: space-between;",
  "  padding-bottom: 12px;",
  "  border-bottom: 1px solid var(--border-color);",
  "\x7d",
  ".vn-title \x7b font-size: 1.4rem; color: var(--primary-color); \x7d",
  ".vn-menu button \x7b",
  "  background: var(--secondary-color);",
  "  color: var(--text-color);",
  "  border: 1px solid var(--border-color);",
  "  border-radius: 4px;",
  "  padding: 6px 12px;",
  "  cursor: pointer;",
  "\x7d",
  ".vn-menu button:hover \x7b border-color: var(--accent-color); \x7d",
  "#vn-stage \x7b padding-top: 12px; \x7d",
  ".vn-dialogue img, .vn-dialogue video \x7b max-width: 100%; border-radius: 6px; \x7d",
  ".vn-notice \x7b",
  "  position: fixed;",
  "  bottom: 16px;",
  "  right: 16px;",
  "  background: var(--secondary-color);",
  "  color: var(--text-color);",
  "  border-left: 4px solid var(--accent-color);",
  "  padding: 8px 14px;",
  "  border-radius: 4px;",
  "\x7d",
  ""]

/-- The style sheet of the player itself. -/
def look : String := Text.join "\n" lookLines

end Storybind.Player.Stock
