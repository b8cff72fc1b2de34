import Storybind.Form
import Storybind.Path
import Storybind.Text.Case

/-!
Media assets: kinds by extension, keys by path, and the record of an asset. An asset is either
embedded, with its data, or referenced, with a location; only images up to a size limit are
embedded.
-/

namespace Storybind

/-- The kinds of media. -/
inductive AssetKind where
  | image
  | audio
  | video
  | unknown
deriving DecidableEq, Repr

namespace AssetKind

def word : AssetKind → String
  | .image => "image"
  | .audio => "audio"
  | .video => "video"
  | .unknown => "unknown"

/-- All kinds. -/
def all : List AssetKind := [.image, .audio, .video, .unknown]

/-- The extensions of supported files, with their kind and media type. -/
def extensions : List (String × AssetKind × String) := [
  (".jpg", .image, "image/jpeg"), (".jpeg", .image, "image/jpeg"), (".png", .image, "image/png"),
  (".gif", .image, "image/gif"), (".webp", .image, "image/webp"),
  (".svg", .image, "image/svg+xml"), (".bmp", .image, "image/bmp"),
  (".mp3", .audio, "audio/mpeg"), (".wav", .audio, "audio/wav"), (".ogg", .audio, "audio/ogg"),
  (".m4a", .audio, "audio/mp4"), (".aac", .audio, "audio/aac"), (".flac", .audio, "audio/flac"),
  (".mp4", .video, "video/mp4"), (".webm", .video, "video/webm"), (".avi", .video, "video/avi"),
  (".mov", .video, "video/quicktime"), (".wmv", .video, "video/x-ms-wmv"),
  (".flv", .video, "video/x-flv")]

/-- The kind of files with an extension, in any letter case. -/
def ofExtension (extension : String) : AssetKind :=
  match extensions.lookup (Text.lower extension) with
  | some (kind, _) => kind
  | none => .unknown

/-- The words for kinds in the assets of a script. -/
def spellings : List (String × AssetKind) := [
  ("image", .image), ("img", .image), ("picture", .image), ("photo", .image), ("audio", .audio),
  ("sound", .audio), ("music", .audio), ("video", .video), ("movie", .video), ("film", .video)]

end AssetKind

/-- Where the data of an asset are. -/
inductive AssetSource where
  | embedded (data : String)
  | referenced (location : String)
deriving DecidableEq, Repr

/-- A media asset. -/
structure Asset where
  key : String
  name : String
  path : String
  kind : AssetKind
  size : Int
  source : AssetSource
  metadata : Entries

namespace Asset

/-- The greatest size of an embedded image, in bytes. -/
def maxEmbedded : Int := 1048576

/-- The character of a key for a character of a path. -/
def keyChar (c : Char) : Char := if Text.isAsciiAlnum c || c = '_' then c.toLower else '_'

/-- The key of the asset at a path: the path without its extension, in lower case, with an
underscore for everything but letters and digits. -/
def keyOf (path : String) : String :=
  String.ofList ((Path.ofString path).withoutSuffix.toText.toList.map keyChar)

def isEmbedded (a : Asset) : Bool :=
  match a.source with
  | .embedded _ => true
  | .referenced _ => false

/-- The address under which a page finds an asset. -/
def address (a : Asset) : String :=
  match a.source with
  | .embedded data => data
  | .referenced location => location

def embeddedData? (a : Asset) : Option String :=
  match a.source with
  | .embedded data => some data
  | .referenced _ => none

def location? (a : Asset) : Option String :=
  match a.source with
  | .embedded _ => none
  | .referenced location => some location

/-- The source of an asset that names data, a location, or both or neither. -/
def sourceOf (key : String) (kind : AssetKind) (size : Int) :
    Option String → Option String → Except String AssetSource
  | some data, none =>
    if kind = .image && size ≤ maxEmbedded then .ok (.embedded data)
    else .error ("asset '" ++ key ++ "' may only embed images of at most " ++
      toString maxEmbedded ++ " bytes")
  | none, some location => .ok (.referenced location)
  | _, _ => .error ("asset '" ++ key ++
      "' must have exactly one of embedded_data / reference_url")

/-- Reads an asset. -/
def ofValue : Value → Form Asset :=
  Form.record "ProcessedAsset" fun es =>
    Form.andThen
      ((fun key name path kind size data location metadata =>
          (data, location, Asset.mk key name path kind size (.referenced "") metadata))
        <$> Form.required es ["key"] Form.text
        <*> Form.required es ["name"] Form.text
        <*> Form.required es ["relative_path"] Form.text
        <*> Form.required es ["kind"]
          (Form.choice (AssetKind.all.map fun k => (k.word, k)) .kindOf)
        <*> Form.withDefault es ["size_bytes"] 0 Form.int
        <*> Form.maybe es "embedded_data" Form.text
        <*> Form.maybe es "reference_url" Form.text
        <*> Form.withDefault es ["metadata"] [] Form.textMapping)
      fun (data, location, a) =>
        match sourceOf a.key a.kind a.size data location with
        | .ok source => Form.ok { a with source := source }
        | .error complaint => Form.flaw (.rule complaint)

def toValue (a : Asset) : Value :=
  .record [("key", .text a.key), ("name", .text a.name), ("relative_path", .text a.path),
    ("kind", .text a.kind.word), ("size_bytes", .int a.size),
    ("embedded_data", .ofOption a.embeddedData?), ("reference_url", .ofOption a.location?),
    ("metadata", .ofEntries a.metadata)]

/-- The last asset with a key. -/
def find? (key : String) (assets : List Asset) : Option Asset :=
  assets.reverse.find? fun a => a.key = key

end Asset
end Storybind
