import Storybind.Dependency.Declaration
import Storybind.Text.Slots
import Storybind.Web.Address
import Storybind.Yaml.Dump

/-!
Declarations in short: `name@version` loads a package from the address for packages, `bundle:` with
an address or a path bundles a file named after its last segment, `preset:` names a preset. The
entries of a script are collected one by one; an entry that is wrong adds a warning and nothing
else.
-/

namespace Storybind

/-- Why an entry gives no declarations. -/
inductive EntryError where
  | empty
  | namesPreset (text : String)
  | nothingToBundle
  | presetMissing (name : String)
  | address (e : Web.AddressError)
  | slot (e : Slots.SlotError)
  | form (e : FormError)
  | overlong
deriving DecidableEq, Repr

namespace EntryError

/-- The complaint of an error; of several flaws that of the first. -/
def message : EntryError → String
  | .empty => "empty dependency shorthand"
  | .namesPreset text => "'" ++ text ++ "' names a preset; use expand_shorthand()"
  | .nothingToBundle => "bundle: shorthand requires a url or path"
  | .presetMissing name => "Preset not found: " ++ name
  | .address e => e.message
  | .slot e => e.message
  | .form e => e.firstMessage
  | .overlong => overlongMessage

/-- Whether an error is about the entry, so that the entry is left out with a warning. -/
def isComplaint : EntryError → Bool
  | .slot (.malformed _) => true
  | .slot _ => false
  | .form (.flaws _) => true
  | .form _ => false
  | _ => true

end EntryError

/-- Presets by name, in the order in which they were first registered. -/
abbrev Presets := List (String × Preset)

/-- Registers a preset, in place of one of the same name. -/
def Presets.register (preset : Preset) : Presets → Presets
  | [] => [(preset.name, preset)]
  | (n, p) :: rest =>
    if n = preset.name then (n, preset) :: rest else (n, p) :: Presets.register preset rest

/-- The names of presets in ascending order. -/
def Presets.names (presets : Presets) : List String := Text.sort (presets.map (·.1))

namespace Shorthand

/-- The declaration of given fields. -/
def declare (name : String) (kind : DependencyKind) (version : Option String) (url : String) :
    Except EntryError Declaration :=
  (Declaration.ofValue (.record [("name", .text name), ("kind", .text kind.word),
    ("version", .ofOption version), ("url", .text url)])).outcome.mapError .form

/-- The last segment of the path of a location, the location if there is none. -/
def lastSegment (location : String) : Except EntryError String := do
  let address ← (Web.Address.ofString location).mapError .address
  let path := (address.path.toList.reverse.dropWhile (· = '/')).reverse
  let segment := match Text.cutAtLast? '/' path with
    | some (_, s) => s
    | none => path
  pure (if segment.isEmpty then location else String.ofList segment)

/-- A name without its extension. -/
def stem (segment : String) : String :=
  match Text.cutAtLast? '.' segment.toList with
  | some (s, _) => String.ofList s
  | none => segment

/-- A bundled file. -/
def bundle (location : String) : Except EntryError Declaration := do
  if location.isEmpty then throw .nothingToBundle
  let name := stem (← lastSegment location)
  declare (if name.isEmpty then "unnamed" else name) .bundled none location

/-- The name and the version of a package, cut at the last `@`. One at the start belongs to the
name, and so does one at the end, which is dropped. -/
def package (text : String) : String × Option String :=
  match Text.cutAtLast? '@' text.toList with
  | some (name, version) =>
    if name.isEmpty || version.isEmpty then
      (String.ofList (text.toList.reverse.dropWhile (· = '@')).reverse, none)
    else (String.ofList name, some (String.ofList version))
  | none => (text, none)

/-- The declaration of one entry in short; `pattern` is the address of packages. -/
def one (pattern text : String) : Except EntryError Declaration := do
  let text := Text.trim text
  if text.isEmpty then throw .empty
  if Text.startsWith text "preset:" then throw (.namesPreset text)
  if Text.startsWith text "bundle:" then bundle (Text.trim (Text.drop 7 text))
  else
    let (name, version) := package text
    let full := match version with
      | some v => name ++ "@" ++ v
      | none => name
    let url ← (Slots.fill [("package", full)] pattern).mapError .slot
    declare name .remote version url

/-- The declarations of a preset. -/
def ofPreset (presets : Presets) (name : String) : Except EntryError (List Declaration) :=
  match presets.lookup name with
  | some p => .ok p.dependencies
  | none => .error (.presetMissing name)

/-- The declarations of one entry in short, that of a preset included. -/
def expand (presets : Presets) (pattern text : String) : Except EntryError (List Declaration) :=
  let text := Text.trim text
  if Text.startsWith text "preset:" then ofPreset presets (Text.trim (Text.drop 7 text))
  else (one pattern text).map ([·])

end Shorthand

/-- Declarations with the warnings on the way. -/
structure Declared where
  declarations : List Declaration
  warnings : List String

namespace Declared

def empty : Declared := ⟨[], []⟩

def warn (message : String) (d : Declared) : Declared :=
  { d with warnings := d.warnings ++ [message] }

/-- The text of a value that stands alone. A number of too many digits has none. -/
def shown (v : Value) : Except EntryError String :=
  if Yaml.holdsUnwritable v then .error .overlong else .ok v.display

/-- The text of a value that may be missing. -/
def shownOr (default : String) : Option Value → Except EntryError String
  | some v => shown v
  | none => .ok default

/-- Takes in what an entry gives; a complaint becomes a warning under the entry's name. -/
def take (name : Except EntryError String) (about : String)
    (given : Except EntryError (List Declaration)) (d : Declared) : Declared × Option EntryError :=
  match given with
  | .ok ds => ({ d with declarations := d.declarations ++ ds }, none)
  | .error e =>
    if e.isComplaint then
      match name with
      | .ok name => (d.warn (about ++ " '" ++ name ++ "': " ++ e.message), none)
      | .error e => (d, some e)
    else (d, some e)

/-- The declarations of a mapping: those of the preset that it names, or the one that it declares. -/
def ofMapping (presets : Presets) (entries : Entries) : Except EntryError (List Declaration) := do
  let type ← shownOr "" (Entries.get? "type" entries)
  if Text.lower type = "preset" then
    let name ← shownOr "" ((Value.truthy? "preset" entries).or (Value.truthy? "name" entries))
    Shorthand.ofPreset presets name
  else ((Declaration.ofValue (.ofEntries entries)).outcome.mapError .form).map ([·])

/-- Takes in one entry of the list of declarations: an entry in short, or a mapping that declares a
library or names a preset. -/
def entry (presets : Presets) (pattern : String) (v : Value) (d : Declared) :
    Declared × Option EntryError :=
  match v with
  | .text s => d.take (.ok s) "Invalid dependency" (Shorthand.expand presets pattern s)
  | .mapping _ entries =>
    d.take (shownOr "?" (Entries.get? "name" entries)) "Invalid dependency" (ofMapping presets entries)
  | v =>
    if Yaml.holdsUnwritable v then (d, some .overlong)
    else (d.warn ("Unsupported dependency entry: " ++ v.quoted), none)

/-- Takes in one entry of the quick list, which must be in short. -/
def quickEntry (presets : Presets) (pattern : String) (v : Value) (d : Declared) :
    Declared × Option EntryError :=
  match v with
  | .text s => d.take (.ok s) "Invalid quick dependency" (Shorthand.expand presets pattern s)
  | v =>
    let kind := match v with
      | .scalar (.day _ _) => "date"
      | .scalar (.moment _ _) => "datetime"
      | v => v.kindName
    (d.warn ("Quick dependency must be a string, got " ++ kind ++ "; dropped"), none)

/-- Takes in entries until one fails. -/
def entries (step : Value → Declared → Declared × Option EntryError) :
    List Value → Declared → Declared × Option EntryError
  | [], d => (d, none)
  | v :: rest, d =>
    match step v d with
    | (d, none) => entries step rest d
    | r => r

/-- The items of a section that must be a list, or a warning. -/
def section_ (label : String) (v : Value) (d : Declared) : List Value × Declared :=
  match v with
  | .null => ([], d)
  | .list _ items => (items, d)
  | _ => ([], d.warn ("Script '" ++ label ++ "' must be a list; ignoring it"))

/-- The declarations of a script: those of the quick list, then the others. -/
def ofScript (presets : Presets) (pattern : String) (dependencies quick : Value) :
    Declared × Option EntryError :=
  let (items, d) := section_ "dependencies_quick" quick empty
  match entries (quickEntry presets pattern) items d with
  | (d, some e) => (d, some e)
  | (d, none) =>
    let (items, d) := section_ "dependencies" dependencies d
    entries (entry presets pattern) items d

end Declared

namespace Declaration

/-- Puts a declaration in place of one of the same name, else at the end. -/
def place (d : Declaration) : List Declaration → List Declaration
  | [] => [d]
  | x :: rest => if x.name = d.name then d :: rest else x :: place d rest

/-- Declarations with one of each name: the last one, at the place of the first. -/
def merge (lists : List (List Declaration)) : List Declaration :=
  lists.flatten.foldl (fun merged d => place d merged) []

end Declaration
end Storybind
