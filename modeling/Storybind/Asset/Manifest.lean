import Storybind.Asset.Basic
import Storybind.Text.Element

/-!
What is told about assets: the manifest of all of them, the map from keys to assets that a page
reads, and the elements that show them. Of two assets with one key the later is shown.
-/

namespace Storybind.Asset

/-- The number of assets of a kind. -/
def countKind (assets : List Asset) (kind : AssetKind) : Nat :=
  (assets.filter fun a => a.kind = kind).length

/-- The line of the manifest about an asset. -/
def manifestEntry (a : Asset) : Value :=
  .record [("key", .text a.key), ("name", .text a.name), ("kind", .text a.kind.word),
    ("size", .int a.size), ("embedded", .bool a.isEmbedded), ("url", .ofOption a.location?),
    ("metadata", .ofEntries a.metadata)]

/-- The manifest of assets. -/
def manifest (assets : List Asset) : Value :=
  let embedded := (assets.filter isEmbedded).length
  .record [("version", .text "1.0"), ("total", .int assets.length),
    ("by_kind", .record (AssetKind.all.map fun k => (k.word, .int (countKind assets k)))),
    ("embedded", .int embedded), ("referenced", .int (assets.length - embedded : Nat)),
    ("total_size_bytes", .int ((assets.map (·.size)).foldr Int.add 0)),
    ("assets", .ofList (assets.map manifestEntry))]

/-- What a page reads about an asset. -/
def pageEntry (a : Asset) : Value :=
  .record ([("key", .text a.key), ("name", .text a.name), ("type", .text a.kind.word),
    ("size", .int a.size), ("metadata", .ofEntries a.metadata)] ++
    match a.source with
    | .embedded data => [("embeddedData", .text data)]
    | .referenced location => [("referenceURL", .text location)])

/-- The assets by key, as a page reads them. -/
def pageMap (assets : List Asset) : Entries :=
  assets.foldl (fun es a => Entries.set a.key (pageEntry a) es) []

/-- What an element is chosen from: a list of assets, or a map of assets by key, in which every key is
that of one asset. -/
inductive Assortment where
  | listed (assets : List Asset)
  | mapped (entries : List (String × Asset))

instance : Coe (List Asset) Assortment := ⟨.listed⟩

/-- The asset that is shown for a key. -/
def Assortment.find? (key : String) : Assortment → Option Asset
  | .listed assets => Asset.find? key assets
  | .mapped entries => entries.lookup key

/-- The markup of the asset with a key, or a comment that there is none. -/
def markup (assets : Assortment) (key : String) (element : Asset → Element) : String :=
  match assets.find? key with
  | none => Element.comment ("Asset not found: " ++ Text.escapeMarkup key)
  | some a => (element a).render

/-- The element that shows an image. -/
def image (assets : Assortment) (key : String) (alternative style : Option String) : String :=
  markup assets key fun a =>
    let alternative := match alternative with
      | some s => if s.isEmpty then a.name else s
      | none => a.name
    ⟨"img", [.valued "src" a.address, .valued "alt" alternative] ++
      Attribute.ofFilled "class" style ++ [.valued "data-asset" key], false⟩

/-- The attributes of media that play. -/
def playing (autoplay loop : Bool) : List Attribute :=
  .flag "controls" :: Attribute.flagIf autoplay "autoplay" ++ Attribute.flagIf loop "loop"

/-- The element that plays sound. -/
def sound (assets : Assortment) (key : String) (autoplay loop : Bool) : String :=
  markup assets key fun a =>
    ⟨"audio", .valued "src" a.address :: playing autoplay loop ++ [.valued "data-asset" key], true⟩

/-- The element that plays a film. -/
def film (assets : Assortment) (key : String) (autoplay loop : Bool) (style : Option String) :
    String :=
  markup assets key fun a =>
    ⟨"video", .valued "src" a.address :: playing autoplay loop ++ Attribute.ofFilled "class" style ++
      [.valued "data-asset" key], true⟩

end Storybind.Asset
