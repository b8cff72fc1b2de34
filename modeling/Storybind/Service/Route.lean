import Storybind.Web.Url

/-!
What the service answers to. The path of a request comes from the address it is made for, with `.`
and `..` resolved and escapes decoded; a path that differs from a known one only by a slash at its
end is redirected.
-/

namespace Storybind.Service

/-- What is asked for. -/
inductive Route where
  | home
  | health
  | status
  | compile
  | check
  | game (name : String)
deriving DecidableEq, Repr

namespace Route

/-- The method of a route. -/
def method : Route → String
  | .compile | .check => "POST"
  | _ => "GET"

/-- The routes with a path of their own. -/
def fixed : List (String × Route) :=
  [("/", .home), ("/health", .health), ("/api/status", .status), ("/api/compile", .compile),
    ("/api/validate", .check)]

def gamesDirectory : String := "/api/games/"

/-- The route of a path. One line break after the path of a fixed route does not count. -/
def ofPath? (path : String) : Option Route :=
  match fixed.find? fun r => path = r.1 || path = r.1 ++ "\n" with
  | some r => some r.2
  | none =>
    if Text.startsWith path gamesDirectory then
      let name := Text.drop gamesDirectory.length path
      if name.isEmpty || name.toList.contains '/' then none else some (.game name)
    else none

/-- The path with a slash more at its end, or with none. -/
def otherPath (path : String) : String :=
  if Text.endsWith path "/" then
    String.ofList ((path.toList.reverse.dropWhile (· = '/')).reverse)
  else path ++ "/"

/-- What a path leads to. -/
inductive Way where
  | here (r : Route)
  | redirected
  | nowhere
deriving DecidableEq, Repr

def wayOf (path : String) : Way :=
  match ofPath? path with
  | some r => .here r
  | none =>
    if path ≠ "/" && (ofPath? (otherPath path)).isSome then .redirected else .nowhere

end Route

/-- The site of the service. -/
def site : Web.Parts := ⟨"http".toList, "localhost".toList, [], none, none⟩

/-- The path of a request for an address; without a host it is a path of the service. -/
def pathOf (address : String) : Except Web.UrlError String := do
  let u ← (Web.Url.ofString address).bind (Web.Url.within site)
  pure (if u.path.isEmpty then "/" else Web.percentDecode (String.ofList u.path))

end Storybind.Service
