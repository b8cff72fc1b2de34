import Storybind.Asset.Basic
import Storybind.Text.Base64
import Storybind.Volume

/-!
Collecting assets: every supported file below a directory, in the order of paths, and the assets
that a script lists. Images up to a limit are embedded. Two files with one key add a warning that
names them both.
-/

namespace Storybind

/-- Assets with the warnings on the way. -/
structure Collected where
  assets : List Asset
  warnings : List String

namespace Collected

def empty : Collected := ⟨[], []⟩

def warn (message : String) (c : Collected) : Collected :=
  { c with warnings := c.warnings ++ [message] }

def add (a : Asset) (c : Collected) : Collected := { c with assets := c.assets ++ [a] }

end Collected

namespace Asset

/-- The limit for embedded images: the one asked for, at most the greatest. -/
def embedLimit (asked : Int) : Int := min asked maxEmbedded

/-- The data address of a file's content. -/
def dataAddress (extension : String) (content : Bytes) : String :=
  let media := match AssetKind.extensions.lookup extension with
    | some (_, media) => media
    | none => "application/octet-stream"
  "data:" ++ media ++ ";base64," ++ Text.base64 content

/-- The asset of a file, `names` leading to it from the directory of assets; `none` if its extension
is not supported. -/
def ofFile? (limit : Int) (names : List String) (content : Bytes) : Option Asset :=
  let path : Path := ⟨"", names⟩
  let kind := AssetKind.ofExtension path.suffix
  if kind = .unknown then none
  else
    let extension := Text.lower path.suffix
    let size : Int := content.length
    let source : AssetSource :=
      if kind = .image && size ≤ limit then .embedded (dataAddress extension content)
      else .referenced path.toText
    let format := Text.upper (String.ofList (extension.toList.dropWhile (· = '.')))
    some ⟨keyOf path.toText, path.name, path.toText, kind, size, source,
      [(.text "format", .text format)]⟩

/-- Takes in the asset of a file. -/
def takeFile (limit : Int) (c : Collected) (file : List String × Bytes) : Collected :=
  match ofFile? limit file.1 file.2 with
  | none => c
  | some a =>
    match find? a.key c.assets with
    | none => c.add a
    | some earlier =>
      (c.warn ("Asset key '" ++ a.key ++ "' is shared by " ++ earlier.name ++ " and " ++ a.name ++
        "; the later file wins")).add a

/-- The assets below a directory. -/
def fromDirectory (w : Workspace) (limit : Int) (directory : String) :
    Except FileError Collected := do
  let p := Path.ofString directory
  if directory.isEmpty then pure .empty
  else if !(← w.existsAt p) then
    pure (Collected.empty.warn ("Assets directory not found: " ++ directory))
  else if !(← w.isDirectory p) then
    pure (Collected.empty.warn ("Asset path is not a directory: " ++ directory))
  else
    match w.volume.locate w.cwd p with
    | .error _ => pure .empty
    | .ok names => pure ((w.volume.filesBelow names).foldl (takeFile limit) .empty)

/-- The first of two values that counts as present, as text. -/
def firstText (entries : Entries) (first second default : String) : String :=
  match (Value.truthy? first entries).or (Value.truthy? second entries) with
  | some v => v.display
  | none => default

/-- The asset that an entry of a script describes. -/
def ofEntry (entries : Entries) : Form Asset :=
  let key := firstText entries "key" "name" "unknown"
  let name := firstText entries "name" "key" "unnamed"
  let location := firstText entries "url" "path" ""
  let type := firstText entries "type" "type" ""
  let kind := (AssetKind.spellings.lookup (Text.lower type)).getD .unknown
  let metadata := match Entries.get? "metadata" entries with
    | some (.mapping _ es) => es
    | _ =>
      match Value.truthy? "description" entries with
      | some d => [(.text "description", d)]
      | none => []
  (fun metadata => ⟨key, name, location, kind, 0, .referenced location, metadata⟩) <$>
    Form.under (.field "metadata") (Form.textKeyed metadata)

/-- Takes in an entry of a script, with its position. -/
def takeEntry (c : Collected) (entry : Value × Nat) : Collected :=
  match entry with
  | (.mapping _ entries, _) =>
    match (ofEntry entries).outcome with
    | .ok a => c.add a
    | .error e =>
      c.warn ("Script asset '" ++ firstText entries "key" "name" "unknown" ++ "' is invalid: " ++
        e.firstMessage)
  | (_, index) => c.warn ("Script asset #" ++ toString index ++ " is not a mapping; skipped")

/-- The assets that a script lists. -/
def fromScript (entries : Value) : Collected :=
  if !entries.isTruthy then .empty
  else
    match entries with
    | .list _ items => items.zipIdx.foldl takeEntry .empty
    | _ => Collected.empty.warn "Script 'assets' must be a list; ignoring it"

end Asset
end Storybind
