import Storybind.Form

/-!
Metadata of a game: the fields that pages know and whatever else an author adds.
-/

namespace Storybind

/-- Metadata of a game. -/
structure Metadata where
  title : Option String
  author : Option String
  description : Option String
  version : Option String
  created : Option String
  tags : List String
  others : Entries

namespace Metadata

def empty : Metadata := ⟨none, none, none, none, none, [], []⟩

/-- The names of the fields that pages know. -/
def fieldNames : List String := ["title", "author", "description", "version", "created", "tags"]

/-- Reads metadata. -/
def ofValue : Value → Form Metadata :=
  Form.record "GameMetadata" fun es =>
    (fun title author description version created tags =>
        ⟨title, author, description, version, created, tags, Form.extras es fieldNames⟩)
      <$> Form.maybe es "title" Form.text
      <*> Form.maybe es "author" Form.text
      <*> Form.maybe es "description" Form.text
      <*> Form.maybe es "version" Form.text
      <*> Form.maybe es "created" Form.text
      <*> Form.withDefault es ["tags"] [] (Form.list Form.text)

/-- All entries, those that are not set being null. -/
def entries (m : Metadata) : Entries :=
  [(.text "title", .ofOption m.title), (.text "author", .ofOption m.author),
    (.text "description", .ofOption m.description), (.text "version", .ofOption m.version),
    (.text "created", .ofOption m.created), (.text "tags", .ofList (m.tags.map Value.text))] ++ m.others

def toValue (m : Metadata) : Value := .ofEntries m.entries

/-- The entries that are set. -/
def setEntries (m : Metadata) : Entries :=
  m.entries.filter fun e =>
    match e.2 with
    | .null => false
    | _ => true

end Metadata
end Storybind
