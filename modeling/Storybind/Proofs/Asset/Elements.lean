import Mathlib.Tactic
import Storybind.Asset.Manifest
import Storybind.Dependency.Tag
import Storybind.Proofs.Text.MarkupReader

/-!
The elements that show assets and load libraries, as a reader of markup finds them: one element with
the attributes that are meant, whatever keys, names, addresses and styles hold.
-/

namespace Storybind.Markup

open Asset (Assortment image sound film)

variable {refs : References} {e : Element} {names : List String}

/-- Whether a text is read as an element and as nothing else. -/
def ReadsElement (refs : References) (s : String) (e : Element) : Prop :=
  State.run refs .data s.toList = (.data, tokens e)

/-- Whether a text is read as a comment, which ends at the end of the text and not before. -/
def ReadsComment (refs : References) (s text : String) : Prop :=
  State.run refs .data s.toList = (.data, [.comment text]) ∧
    ∀ p, p <+: s.toList → p ≠ s.toList → (State.run refs .data p).2 = []

/-! ### Names of attributes -/

/-- An element can be read again if its attributes are among some with good names. -/
theorem isPlain_of_sublist (names : List String) {name : String} {attributes : List Attribute}
    {paired : Bool} (hname : State.IsNameOf State.isSmall name)
    (h : (attributes.map Attribute.name).Sublist names) (hdistinct : names.Nodup)
    (hnames : ∀ n ∈ names, State.IsNameOf State.isNameChar n) :
    IsPlain ⟨name, attributes, paired⟩ where
  name := hname
  names a ha := hnames a.name (h.subset (List.mem_map_of_mem ha))
  distinct := hdistinct.sublist h

theorem names_ofFilled (name : String) (value : Option String) :
    ((Attribute.ofFilled name value).map Attribute.name).Sublist [name] := by
  unfold Attribute.ofFilled
  split
  · exact List.nil_sublist _
  · split
    · exact List.nil_sublist _
    · exact List.Sublist.refl _

theorem names_flagIf (condition : Bool) (name : String) :
    ((Attribute.flagIf condition name).map Attribute.name).Sublist [name] := by
  unfold Attribute.flagIf
  split
  · exact List.Sublist.refl _
  · exact List.nil_sublist _

/-! ### Assets -/

/-- The element of an image. -/
def imageElement (a : Asset) (key : String) (alternative style : Option String) : Element :=
  ⟨"img", [.valued "src" a.address, .valued "alt" ((alternative.filter (· ≠ "")).getD a.name)] ++
    Attribute.ofFilled "class" style ++ [.valued "data-asset" key], false⟩

/-- The element of media that play. -/
def playerElement (name : String) (a : Asset) (key : String) (autoplay loop : Bool)
    (style : Option String) : Element :=
  ⟨name, [.valued "src" a.address, .flag "controls"] ++ Attribute.flagIf autoplay "autoplay" ++
    Attribute.flagIf loop "loop" ++ Attribute.ofFilled "class" style ++ [.valued "data-asset" key],
    true⟩

theorem isPlain_imageElement (a : Asset) (key : String) (alternative style : Option String) :
    IsPlain (imageElement a key alternative style) := by
  refine isPlain_of_sublist (["src", "alt"] ++ ["class"] ++ ["data-asset"]) (by decide) ?_
    (by decide) (by decide)
  simp only [List.map_append]
  exact ((List.Sublist.refl _).append (names_ofFilled "class" style)).append (List.Sublist.refl _)

theorem isPlain_playerElement {name : String} (hname : State.IsNameOf State.isSmall name) (a : Asset)
    (key : String) (autoplay loop : Bool) (style : Option String) :
    IsPlain (playerElement name a key autoplay loop style) := by
  refine isPlain_of_sublist (["src", "controls"] ++ ["autoplay"] ++ ["loop"] ++ ["class"] ++
    ["data-asset"]) hname ?_ (by decide) (by decide)
  simp only [List.map_append]
  exact ((((List.Sublist.refl _).append (names_flagIf autoplay "autoplay")).append
    (names_flagIf loop "loop")).append (names_ofFilled "class" style)).append (List.Sublist.refl _)

section

variable {assets : Assortment} {key : String} {alternative style : Option String} {autoplay loop : Bool}
  {a : Asset}

theorem image_of_find? (h : assets.find? key = some a) :
    image assets key alternative style = (imageElement a key alternative style).render := by
  unfold image Asset.markup imageElement
  rw [h]
  cases alternative with
  | none => rfl
  | some s => by_cases hs : s = "" <;> simp [hs, Option.filter]

theorem sound_of_find? (h : assets.find? key = some a) :
    sound assets key autoplay loop = (playerElement "audio" a key autoplay loop none).render := by
  unfold sound Asset.markup playerElement
  rw [h]
  simp [Asset.playing, Attribute.ofFilled]

theorem film_of_find? (h : assets.find? key = some a) :
    film assets key autoplay loop style = (playerElement "video" a key autoplay loop style).render := by
  unfold film Asset.markup playerElement
  rw [h]
  simp [Asset.playing]

/-- For a key that is not there, all of the markup is a comment that names it. -/
theorem readsComment_missing (refs : References) (key : String) :
    ReadsComment refs (Element.comment ("Asset not found: " ++ Text.escapeMarkup key))
      (" Asset not found: " ++ Text.escapeMarkup key ++ " ") := by
  have hgreater : '>' ∉ ("Asset not found: " ++ Text.escapeMarkup key).toList := by
    rw [String.toList_append, List.mem_append, not_or]
    exact ⟨by decide, not_mem_escaped (by decide) key⟩
  have hread := run_comment refs hgreater
  rwa [← String.append_assoc] at hread

end

/-! ### Libraries -/

/-- The element that loads a library. -/
def libraryElement (d : Declaration) : Element :=
  let safety := Attribute.ofFilled "integrity" d.integrity ++
    (d.crossorigin.map fun c => Attribute.valued "crossorigin" c.word).toList
  match d.format with
  | .stylesheet =>
    ⟨"link", [.valued "rel" "stylesheet", .valued "href" (d.url.getD "")] ++ safety, false⟩
  | .script =>
    ⟨"script", [.valued "src" (d.url.getD "")] ++ safety ++ Attribute.flagIf d.defer "defer" ++
      Attribute.flagIf d.async "async" ++ (if d.isModule then [.valued "type" "module"] else []) ++
      Attribute.flagIf d.noModule "nomodule", true⟩

theorem isPlain_libraryElement (d : Declaration) : IsPlain (libraryElement d) := by
  have horigin : ((d.crossorigin.map fun c => Attribute.valued "crossorigin" c.word).toList.map
      Attribute.name).Sublist ["crossorigin"] := by
    cases d.crossorigin with
    | none => exact List.nil_sublist _
    | some c => exact List.Sublist.refl _
  have htype : ((if d.isModule then [Attribute.valued "type" "module"] else []).map
      Attribute.name).Sublist ["type"] := by
    split
    · exact List.Sublist.refl _
    · exact List.nil_sublist _
  unfold libraryElement
  cases d.format with
  | stylesheet =>
    refine isPlain_of_sublist (["rel", "href"] ++ (["integrity"] ++ ["crossorigin"]))
      (by decide) ?_ (by decide) (by decide)
    simp only [List.map_append]
    exact (List.Sublist.refl _).append ((names_ofFilled "integrity" d.integrity).append horigin)
  | script =>
    refine isPlain_of_sublist (["src"] ++ (["integrity"] ++ ["crossorigin"]) ++ ["defer"] ++
      ["async"] ++ ["type"] ++ ["nomodule"]) (by decide) ?_ (by decide) (by decide)
    simp only [List.map_append]
    exact (((((List.Sublist.refl _).append
      ((names_ofFilled "integrity" d.integrity).append horigin)).append
      (names_flagIf d.defer "defer")).append (names_flagIf d.async "async")).append htype).append
      (names_flagIf d.noModule "nomodule")

theorem tag_of_unconditional {d : Declaration} (h : d.condition.getD "" = "") :
    d.tag = (libraryElement d).render := by
  have htag : d.tag = d.element.render := by
    unfold Declaration.tag
    cases hcondition : d.condition with
    | none => rfl
    | some c =>
      rw [hcondition] at h
      obtain rfl : c = "" := h
      rfl
  rw [htag]
  unfold Declaration.element libraryElement Declaration.safetyAttributes
  cases d.crossorigin with
  | none => rfl
  | some c => rfl

/-- The markup of an asset and of a library that is loaded in any case is read as the one element that
is meant, with the attributes that are meant and the values as they are. For a key that is not there it
is read as one comment. -/
theorem reads_as_meant (refs : References) (assets : Assortment) (key : String)
    (alternative style : Option String) (autoplay loop : Bool) (d : Declaration)
    (hcondition : d.condition.getD "" = "") :
    (∀ a, assets.find? key = some a →
      ReadsElement refs (image assets key alternative style) (imageElement a key alternative style) ∧
      ReadsElement refs (sound assets key autoplay loop)
        (playerElement "audio" a key autoplay loop none) ∧
      ReadsElement refs (film assets key autoplay loop style)
        (playerElement "video" a key autoplay loop style)) ∧
    (assets.find? key = none → ∀ s ∈ [image assets key alternative style,
        sound assets key autoplay loop, film assets key autoplay loop style],
      ReadsComment refs s (" Asset not found: " ++ Text.escapeMarkup key ++ " ")) ∧
    ReadsElement refs d.tag (libraryElement d) := by
  have hreads {s : String} {e : Element} (hs : s = e.render) (he : IsPlain e) :
      ReadsElement refs s e := hs ▸ run_render refs he
  refine ⟨fun a ha => ⟨?_, ?_, ?_⟩, fun hnone s hs => ?_, ?_⟩
  · exact hreads (image_of_find? ha) (isPlain_imageElement a key alternative style)
  · exact hreads (sound_of_find? ha) (isPlain_playerElement (by decide) a key autoplay loop none)
  · exact hreads (film_of_find? ha) (isPlain_playerElement (by decide) a key autoplay loop style)
  · have hcomment : s = Element.comment ("Asset not found: " ++ Text.escapeMarkup key) := by
      simp only [image, sound, film, Asset.markup, hnone, List.mem_cons, List.not_mem_nil, or_false,
        or_self] at hs
      exact hs
    rw [hcomment]
    exact readsComment_missing refs key
  · exact hreads (tag_of_unconditional hcondition) (isPlain_libraryElement d)

/-- An asset whose key, name and address look like markup. -/
def poster : Asset :=
  ⟨"x\"><!--", "Tea & \"Rain\" &lt;1&gt;", "art/tea.png", .image, 4, .referenced "a.png?x=1&amp=2'>", []⟩

/-- A library whose address and integrity look like markup. -/
def posted : Declaration :=
  ⟨"x", .remote, some "https://cdn.example/a.js?\"></script>", none, some "sha\"'&#x27;", 50, true, false,
    true, false, some .anonymous, some "", .script, none, none⟩

theorem reads_as_meant_poster : posted.condition.getD "" = "" ∧
    State.run References.basic .data (image [poster] poster.key none (some "a<b")).toList =
      (.data, [.opening "img" [.valued "src" "a.png?x=1&amp=2'>", .valued "alt" "Tea & \"Rain\" &lt;1&gt;",
        .valued "class" "a<b", .valued "data-asset" "x\"><!--"] false]) ∧
    ReadsComment References.basic (sound (.mapped [("tea", poster)]) "-->" true false)
      " Asset not found: --&gt; " ∧
    ReadsElement References.basic posted.tag (libraryElement posted) := by
  have hcondition : posted.condition.getD "" = "" := rfl
  have hlisted := reads_as_meant References.basic [poster] poster.key none (some "a<b") false false
    posted hcondition
  have hmapped := reads_as_meant References.basic (.mapped [("tea", poster)]) "-->" none none true false
    posted hcondition
  exact ⟨hcondition, (hlisted.1 poster rfl).1, hmapped.2.1 rfl _ (by simp), hlisted.2.2⟩

end Storybind.Markup
