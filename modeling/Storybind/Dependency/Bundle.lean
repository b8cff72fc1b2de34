import Storybind.Dependency.Download
import Storybind.Dependency.Shorthand
import Storybind.Dependency.Tag
import Storybind.Minify.Script
import Storybind.Minify.Style

/-!
Resolving declarations: in ascending priority, equal priorities in the order of declaration. Remote
libraries become load tags, bundled ones are fetched and put into one text for scripts and one for
style sheets, inline ones are put together as they are. A bundled library that cannot be fetched is
dropped with a warning.
-/

namespace Storybind

/-- A library after resolution; bundled ones have content. -/
structure Resolved where
  declaration : Declaration
  content : Option String
  size : Int
  minified : Bool
  hash : Option String
deriving DecidableEq, Repr

/-- Counts of resolved libraries. -/
structure BundleStats where
  total : Int
  remote : Int
  bundled : Int
  inlined : Int
  dropped : Int
  bundledSize : Int
  cacheEntries : Int
deriving DecidableEq, Repr

/-- What a page needs of its libraries. -/
structure Bundle where
  markup : String
  script : String
  style : String
  inlineScript : String
  resolved : List Resolved
  dropped : List String
  warnings : List String
  stats : BundleStats
deriving DecidableEq, Repr

namespace Resolved

/-- A library that is not fetched. -/
def plain (d : Declaration) : Resolved := ⟨d, none, 0, false, none⟩

/-- The content of a fetched library under a heading with its name and size. -/
def sectionText (r : Resolved) : String :=
  "/* " ++ r.declaration.name ++ " (" ++ sizeText r.size.toNat ++ ") */\n" ++ r.content.getD "" ++
    "\n"

/-- A fetched library, minified if that is asked for. -/
def ofContent (d : Declaration) (minify : Bool) (content : String) : Resolved :=
  let minified := d.minify.getD minify
  let content := if minified then
      match d.format with
      | .stylesheet => Minify.Style.minify content
      | .script => Minify.Script.minify content
    else content
  let bytes := Text.encode content
  ⟨d, some content, bytes.length, minified, some (Digest.hex (Digest.digest Digest.sha256 bytes))⟩

end Resolved

namespace Declaration

/-- Declarations in ascending priority, equal ones in their order. -/
def byPriority (ds : List Declaration) : List Declaration :=
  ds.mergeSort fun a b => a.priority ≤ b.priority

/-- A library given as text, under a heading with its name. -/
def inlineSection (d : Declaration) : String :=
  "/* Inline: " ++ d.name ++ " */\n" ++ d.content.getD "None" ++ "\n"

end Declaration

namespace Bundle

/-- A library after fetching, if it was not given up. -/
def resolvedOf (minify : Bool) (d : Declaration) : Outcome → Option Resolved
  | .unfetched => some (.plain d)
  | .content text => some (.ofContent d minify text)
  | .givenUp _ => none

/-- The complaint for which a library was given up. -/
def complaint? : Outcome → Option String
  | .givenUp complaint => some complaint
  | _ => none

/-- The warning about a library that was given up. -/
def dropWarning (d : Declaration) (complaint : String) : String :=
  "Failed to bundle " ++ d.name ++ ": " ++ complaint

/-- The number of resolved libraries of a kind. -/
def countKind (kind : DependencyKind) (rs : List Resolved) : Nat :=
  (rs.filter fun r => r.declaration.kind = kind).length

/-- The counts of resolved and dropped libraries. -/
def statsOf (rs : List Resolved) (dropped : List String) (cache : Cache) : BundleStats where
  total := rs.length + dropped.length
  remote := countKind .remote rs
  bundled := countKind .bundled rs
  inlined := countKind .inlined rs
  dropped := dropped.length
  bundledSize := ((rs.filter fun r => r.declaration.kind = .bundled).map (·.size)).foldr Int.add 0
  cacheEntries := cache.size

/-- The sections of bundled libraries of a format. -/
def sections (format : DependencyFormat) (rs : List Resolved) : List String :=
  (rs.filter fun r => r.declaration.kind = .bundled && r.declaration.format = format).map
    Resolved.sectionText

/-- The bundle of libraries in order, each with what fetching gave for it. -/
def ofOutcomes (minify : Bool) (cache : Cache) (xs : List (Declaration × Outcome)) : Bundle :=
  let resolved := xs.filterMap fun (d, o) => resolvedOf minify d o
  let dropped := xs.filterMap fun (d, o) => (complaint? o).map fun _ => d.name
  let ofKind (kind : DependencyKind) : List Declaration :=
    (resolved.map (·.declaration)).filter fun d => d.kind = kind
  { markup := Text.join "\n" ((ofKind .remote).map Declaration.tag)
    script := Text.join "\n" (sections .script resolved)
    style := Text.join "\n" (sections .stylesheet resolved)
    inlineScript := Text.join "\n" ((ofKind .inlined).map Declaration.inlineSection)
    resolved := resolved
    dropped := dropped
    warnings := xs.filterMap fun (d, o) => (complaint? o).map (dropWarning d)
    stats := statsOf resolved dropped cache }

/-- Resolves declarations. -/
def resolve (w : Workspace) (settings : Settings) (base : Option Path) (minify : Bool)
    (ds : List Declaration) (state : Fetch.State) : Except Fetch.Breakdown Bundle × Fetch.State :=
  let ordered := Declaration.byPriority ds
  let (outcomes, state) := Download.fetchAll w settings base ordered state
  (outcomes.map fun os => ofOutcomes minify state.cache (ordered.zip os), state)

/-- A bundle without libraries. -/
def empty : Bundle := ⟨"", "", "", "", [], [], [], ⟨0, 0, 0, 0, 0, 0, 0⟩⟩

/-! ### As values -/

def statsFields (s : BundleStats) : List (String × Value) :=
  [("total", .int s.total), ("remote", .int s.remote), ("bundled", .int s.bundled),
    ("inline", .int s.inlined), ("dropped", .int s.dropped),
    ("total_bundled_size", .int s.bundledSize)]

def statsValue (s : BundleStats) : Value :=
  .record (statsFields s ++ [("cache_entries", .int s.cacheEntries)])

def resolvedValue (r : Resolved) : Value :=
  .record [("declaration", r.declaration.toValue), ("content", .ofOption r.content),
    ("size_bytes", .int r.size), ("minified", .bool r.minified),
    ("content_hash", .ofOption r.hash)]

def textList (xs : List String) : Value := .ofList (xs.map Value.text)

def toValue (b : Bundle) : Value :=
  .record [("cdn_markup", .text b.markup), ("bundled_script", .text b.script),
    ("bundled_style", .text b.style), ("inline_script", .text b.inlineScript),
    ("resolved", .ofList (b.resolved.map resolvedValue)), ("dropped", textList b.dropped),
    ("warnings", textList b.warnings), ("stats", statsValue b.stats)]

/-- The line of the manifest about a library. -/
def manifestEntry (r : Resolved) : Value :=
  let d := r.declaration
  .record [("name", .text d.name), ("kind", .text d.kind.word), ("format", .text d.format.word),
    ("url", .ofOption d.url), ("version", .ofOption d.version), ("priority", .int d.priority),
    ("sizeBytes", .int r.size), ("minified", .bool r.minified), ("hash", .ofOption r.hash)]

/-- What the page is told about its libraries, the declared names and the known presets among it. -/
def manifest (b : Bundle) (declared presets : List String) : Value :=
  .record [("stats", .record (statsFields b.stats)),
    ("dependencies", .ofList (b.resolved.map manifestEntry)), ("dropped", textList b.dropped),
    ("declared", textList declared), ("presets", textList presets)]

/-! ### From values -/

def statsForm : Value → Form BundleStats :=
  Form.record "DependencyStats" fun es =>
    let count (name : String) : Form Int := Form.withDefault es [name] 0 Form.int
    BundleStats.mk <$> count "total" <*> count "remote" <*> count "bundled" <*> count "inline"
      <*> count "dropped" <*> count "total_bundled_size" <*> count "cache_entries"

def resolvedForm : Value → Form Resolved :=
  Form.record "ResolvedDependency" fun es =>
    Resolved.mk <$> Form.required es ["declaration"] Declaration.ofValue
      <*> Form.maybe es "content" Form.text
      <*> Form.withDefault es ["size_bytes"] 0 Form.int
      <*> Form.withDefault es ["minified"] false Form.bool
      <*> Form.maybe es "content_hash" Form.text

/-- Reads a bundle. -/
def ofValue : Value → Form Bundle :=
  Form.record "ResolvedBundle" fun es =>
    let text (name : String) : Form String := Form.withDefault es [name] "" Form.text
    let list (name : String) : Form (List String) :=
      Form.withDefault es [name] [] (Form.list Form.text)
    mk <$> text "cdn_markup" <*> text "bundled_script" <*> text "bundled_style"
      <*> text "inline_script" <*> Form.withDefault es ["resolved"] [] (Form.list resolvedForm)
      <*> list "dropped" <*> list "warnings"
      <*> Form.withDefault es ["stats"] empty.stats statsForm

end Bundle
end Storybind
