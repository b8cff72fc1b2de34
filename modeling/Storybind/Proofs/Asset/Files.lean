import Mathlib.Tactic
import Storybind.Asset.Collect
import Storybind.Proofs.Dependency.Fields
import Storybind.Proofs.Distinct
import Storybind.Proofs.Entries
import Storybind.Proofs.Path
import Storybind.Proofs.Text.Base64
import Storybind.Proofs.Text.Case

/-!
The asset of a file. Which files are media is told by their names alone, and what an asset says of its
file is enough to get the content back where it is embedded, and to find the file where it is not.
-/

namespace Storybind

/-! ### Names of media -/

/-- Whether a file of a name holds media of a kind: an extension of that kind stands at its end, in any
letter case, with something before it. -/
def NamesMedia (name : String) (kind : AssetKind) (media : String) : Prop :=
  ∃ stem spelled extension, stem ≠ [] ∧ name.toList = stem ++ spelled ∧
    spelled.map Char.toLower = String.toList extension ∧
    (extension, kind, media) ∈ AssetKind.extensions

variable {name extension media : String} {kind : AssetKind} {limit : Int}

theorem Path.cutSuffix?_eq_some {stem : String} : Path.cutSuffix? name = some (stem, extension) ↔
    ∃ before rest, name.toList = before ++ '.' :: rest ∧ '.' ∉ rest ∧ before ≠ [] ∧ rest ≠ [] ∧
      stem = String.ofList before ∧ extension = String.ofList ('.' :: rest) := by
  unfold Path.cutSuffix?
  constructor
  · intro h
    split at h
    · next before rest hcut =>
      obtain ⟨hname, hrest⟩ := Text.cutAtLast?_eq_some.mp hcut
      split at h
      · cases h
      · next hfilled =>
        simp only [Bool.or_eq_true, List.isEmpty_iff, not_or] at hfilled
        obtain ⟨rfl, rfl⟩ := Prod.mk.inj (Option.some.inj h)
        exact ⟨before, rest, hname, hrest, hfilled.1, hfilled.2, rfl, rfl⟩
    · cases h
  · rintro ⟨before, rest, hname, hrest, hbefore, hfilled, rfl, rfl⟩
    rw [hname, Text.cutAtLast?_append before hrest]
    simp [hbefore, hfilled]

namespace AssetKind

/-- Every supported extension is a point and a word without points, which is its own lower case, and it
is listed once. -/
theorem extension_facts : ∀ x ∈ extensions, Text.IsKelvinless x.1.toList ∧
    x.1.toList.head? = some '.' ∧ x.1.toList.tail ≠ [] ∧ '.' ∉ x.1.toList.tail ∧
    extensions.lookup x.1 = some x.2 ∧ x.2.1 ≠ .unknown := by
  decide +kernel

theorem point_of_toLower {c : Char} (h : c.toLower = '.') : c = '.' :=
  Page.eq_of_toLower h (Or.inl (by decide))

/-- The table is asked for the suffix of a name, in lower case, and finds it exactly if the name is one
of media. -/
theorem lookup_suffix {p : Path} :
    extensions.lookup (Text.lower p.suffix) = some (kind, media) ↔ NamesMedia p.name kind media := by
  constructor
  · intro h
    -- no extension of the table is empty, so there was a suffix to cut off
    have hmem := Distinct.mem_of_lookup h
    obtain ⟨hascii, -, hfilled, -⟩ := extension_facts _ hmem
    have hlower := (Text.lower_eq_iff hascii).mp rfl
    unfold Path.suffix at h hmem hfilled hlower
    cases hcut : Path.cutSuffix? p.name with
    | none =>
      rw [hcut] at hfilled
      exact absurd rfl hfilled
    | some cut =>
      obtain ⟨stem, spelled⟩ := cut
      rw [hcut] at hmem hlower
      obtain ⟨before, rest, hname, -, hbefore, -, -, rfl⟩ := Path.cutSuffix?_eq_some.mp hcut
      refine ⟨before, '.' :: rest, _, hbefore, hname, ?_, hmem⟩
      simpa using hlower
  · rintro ⟨stem, spelled, extension, hstem, hname, hspelled, hmem⟩
    obtain ⟨hascii, hhead, hfilled, hpoints, hlookup, -⟩ := extension_facts _ hmem
    -- what is spelled is a point and a word without points, as the extension is
    obtain ⟨c, rest, rfl⟩ : ∃ c rest, spelled = c :: rest := by
      cases spelled with
      | nil =>
        rw [← hspelled] at hhead
        cases hhead
      | cons c rest => exact ⟨c, rest, rfl⟩
    rw [← hspelled] at hhead hfilled hpoints
    obtain rfl : c = '.' := point_of_toLower (Option.some.inj hhead)
    have hrest : '.' ∉ rest := fun hmem => hpoints (List.mem_map.mpr ⟨'.', hmem, by decide⟩)
    have hnonempty : rest ≠ [] := fun hnil => hfilled (by rw [hnil]; rfl)
    have hsuffix : p.suffix = String.ofList ('.' :: rest) := by
      have hcut : Path.cutSuffix? p.name = some (String.ofList stem, String.ofList ('.' :: rest)) :=
        Path.cutSuffix?_eq_some.mpr ⟨stem, rest, hname, hrest, hstem, hnonempty, rfl, rfl⟩
      rw [Path.suffix, hcut]
      rfl
    have hlower : Text.lower p.suffix = extension := by
      rw [Text.lower_eq_iff hascii, hsuffix, String.toList_ofList, hspelled]
    rw [hlower, hlookup]

end AssetKind

/-! ### Keys -/

namespace Asset

/-- The characters that keys are made of. -/
def IsKeyChar (c : Char) : Prop := 'a' ≤ c ∧ c ≤ 'z' ∨ '0' ≤ c ∧ c ≤ '9' ∨ c = '_'

theorem isKeyChar_keyChar (c : Char) : IsKeyChar (keyChar c) := by
  have hle (a b : Char) : a ≤ b ↔ a.toNat ≤ b.toNat := Iff.rfl
  have hn := Page.toNat_toLower c
  unfold keyChar
  split
  · next h =>
    by_cases hmark : c = '_'
    · subst hmark
      exact Or.inr (Or.inr (by decide))
    · simp only [Text.isAsciiAlnum, Text.isAsciiLetter, Text.isAsciiDigit, hmark, decide_false,
        Bool.or_false, Bool.or_eq_true, Bool.and_eq_true, decide_eq_true_eq] at h
      simp only [IsKeyChar, hle, Char.reduceToNat]
      split at hn
      · left
        omega
      · omega
  · exact Or.inr (Or.inr rfl)

end Asset

theorem Text.join_ne {names : List String} (hne : names ≠ []) (h : ∀ n ∈ names, n ≠ "") :
    Text.join "/" names ≠ "" := by
  cases names with
  | nil => exact absurd rfl hne
  | cons n rest =>
    have hn : n ≠ "" := h n List.mem_cons_self
    cases rest with
    | nil => rwa [Text.join, String.intercalate_singleton]
    | cons m rest =>
      rw [Text.join, String.intercalate_cons_cons]
      intro hempty
      apply hn
      simp only [String.append_eq_empty_iff] at hempty
      exact hempty.1.1

namespace Path

theorem toText_ne_empty {p : Path} (h : ∀ n ∈ p.names, n ≠ "") : p.toText ≠ "" := by
  unfold toText
  split
  · decide
  · next hfilled =>
    intro hempty
    obtain ⟨hanchor, hjoin⟩ := String.append_eq_empty_iff.mp hempty
    have hnames : p.names ≠ [] := by
      intro hnil
      apply hfilled
      simp [hanchor, hnil]
    exact Text.join_ne hnames h hjoin

theorem withoutSuffix_names {p : Path} (h : ∀ n ∈ p.names, n ≠ "") :
    ∀ n ∈ p.withoutSuffix.names, n ≠ "" := by
  unfold withoutSuffix
  split
  · next stem extension hcut =>
    obtain ⟨before, rest, -, -, hbefore, -, rfl, -⟩ := cutSuffix?_eq_some.mp hcut
    intro n hn
    rcases List.mem_append.mp hn with hn | hn
    · exact h n (List.mem_of_mem_dropLast hn)
    · rw [List.mem_singleton.mp hn]
      exact fun hempty => hbefore (String.ofList_eq_empty_iff.mp hempty)
  · exact h

end Path

namespace Asset

/-- A key is never empty, and a path of any characters gives one of a few. -/
theorem keyOf_made (path : String) : keyOf path ≠ "" ∧ ∀ c ∈ (keyOf path).toList, IsKeyChar c := by
  have hnames : ∀ n ∈ (Path.ofString path).names, n ≠ "" :=
    fun n hn => ((Path.normal_ofString path).names n hn).1
  have htext := Path.toText_ne_empty (Path.withoutSuffix_names hnames)
  rw [keyOf]
  constructor
  · intro hempty
    rw [String.ofList_eq_empty_iff, List.map_eq_nil_iff, String.toList_eq_nil_iff] at hempty
    exact htext hempty
  · intro c hc
    rw [String.toList_ofList] at hc
    obtain ⟨d, -, rfl⟩ := List.mem_map.mp hc
    exact isKeyChar_keyChar d

/-! ### Reading an asset again -/

variable {a : Asset}

/-- An asset whose source is allowed and whose metadata stand under texts passes its own check. -/
theorem ofValue_toValue
    (hsource : sourceOf a.key a.kind a.size a.embeddedData? a.location? = .ok a.source)
    (hmetadata : (Form.textKeyed a.metadata).outcome = .ok a.metadata) :
    (ofValue a.toValue).outcome = .ok a := by
  let fields : List (String × Value) := [("key", .text a.key), ("name", .text a.name),
    ("relative_path", .text a.path), ("kind", .text a.kind.word), ("size_bytes", .int a.size),
    ("embedded_data", .ofOption a.embeddedData?), ("reference_url", .ofOption a.location?),
    ("metadata", .ofEntries a.metadata)]
  have hfield {name : String} {v : Value} (h : fields.lookup name = some v) :
      Form.lookupFirst (Entries.ofTexts fields) [name] = some v := by
    rw [Form.lookupFirst, Entries.get?_ofTexts, h, Option.some_or]
  have htext (name : String) {value : String} (h : fields.lookup name = some (.text value)) :
      (Form.required (Entries.ofTexts fields) [name] Form.text).outcome = .ok value :=
    Form.required_of_some (hfield h) rfl
  have hkind : (Form.required (Entries.ofTexts fields) ["kind"]
      (Form.choice (AssetKind.all.map fun k => (k.word, k)) .kindOf)).outcome = .ok a.kind := by
    refine Form.required_of_some (hfield rfl) ?_
    cases a.kind <;> decide +kernel
  have hsize : (Form.withDefault (Entries.ofTexts fields) ["size_bytes"] 0 Form.int).outcome =
      .ok a.size := Form.withDefault_of_some (hfield rfl) rfl
  have hdata : (Form.maybe (Entries.ofTexts fields) "embedded_data" Form.text).outcome =
      .ok a.embeddedData? :=
    Form.withDefault_of_some (hfield rfl) (Form.optional_text_ofOption a.embeddedData?)
  have hlocation : (Form.maybe (Entries.ofTexts fields) "reference_url" Form.text).outcome =
      .ok a.location? :=
    Form.withDefault_of_some (hfield rfl) (Form.optional_text_ofOption a.location?)
  have hrest : (Form.withDefault (Entries.ofTexts fields) ["metadata"] [] Form.textMapping).outcome =
      .ok a.metadata := Form.withDefault_of_some (hfield rfl) hmetadata
  -- the fields are read one after the other, and the source last, from two of them
  have hread := Form.seq_of_ok (Form.seq_of_ok (Form.seq_of_ok (Form.seq_of_ok (Form.seq_of_ok
    (Form.seq_of_ok (Form.seq_of_ok (Form.map_of_ok (f := fun key name path kind size data location
      metadata => (data, location, Asset.mk key name path kind size (.referenced "") metadata))
      (htext "key" rfl)) (htext "name" rfl)) (htext "relative_path" rfl))
      hkind) hsize) hdata) hlocation) hrest
  refine (congrArg Form.outcome (Form.andThen_of_ok hread)).trans ?_
  simp only [hsource]
  rfl

end Asset

/-! ### Data addresses -/

/-- The first place where a text can be cut is the first one in a longer text, too. -/
theorem Text.cutAt?_append_right {piece s before rest : List Char}
    (h : Text.cutAt? piece s = some (before, rest)) (more : List Char) :
    Text.cutAt? piece (s ++ more) = some (before, rest ++ more) := by
  induction s generalizing before with
  | nil =>
    rw [cutAt?] at h
    split at h
    · next hempty =>
      obtain rfl := List.isEmpty_iff.mp hempty
      obtain ⟨rfl, rfl⟩ := Prod.mk.inj (Option.some.inj h)
      cases more <;> rfl
    · cases h
  | cons c cs ih =>
    rw [cutAt?] at h
    split at h
    · next found hafter =>
      obtain ⟨rfl, rfl⟩ := Prod.mk.inj (Option.some.inj h)
      have hmore : after? piece (c :: (cs ++ more)) = some (found ++ more) := by
        rw [after?_eq_some, ← List.append_assoc, ← after?_eq_some.mp hafter, List.cons_append]
      rw [List.cons_append, cutAt?, hmore]
    · next hnone =>
      obtain ⟨⟨b, r⟩, hcut, heq⟩ := Option.map_eq_some_iff.mp h
      obtain ⟨rfl, rfl⟩ := Prod.mk.inj heq
      -- what would begin here with the help of the longer text ends where the piece is found
      have hshort : piece.length ≤ (c :: cs).length := by
        have hlength := congrArg List.length (cutAt?_first hcut).1
        simp only [List.length_append, List.length_cons] at hlength ⊢
        omega
      have hlater : after? piece (c :: (cs ++ more)) = none := by
        rw [Option.eq_none_iff_forall_ne_some]
        intro found hfound
        have hbegins : piece <+: c :: cs := List.prefix_of_prefix_length_le
          ⟨found, (after?_eq_some.mp hfound).symm⟩ (List.prefix_append (c :: cs) more) hshort
        obtain ⟨r', hr'⟩ := hbegins
        rw [after?_eq_some.mpr hr'.symm] at hnone
        cases hnone
      rw [List.cons_append, cutAt?, hlater, ih hcut]
      rfl

namespace Asset

/-- No media type holds the mark behind which the digits stand. -/
theorem cutAt?_media : ∀ x ∈ AssetKind.extensions,
    Text.cutAt? "base64,".toList ("data:" ++ x.2.2 ++ ";base64,").toList =
      some (("data:" ++ x.2.2 ++ ";").toList, []) := by
  decide +kernel

theorem cutAt?_dataAddress (h : (extension, kind, media) ∈ AssetKind.extensions) (content : Bytes) :
    ∃ before, Text.cutAt? "base64,".toList (dataAddress extension content).toList =
      some (before, (Text.base64 content).toList) := by
  have hlookup : AssetKind.extensions.lookup extension = some (kind, media) :=
    (AssetKind.extension_facts _ h).2.2.2.2.1
  have hcut := Text.cutAt?_append_right (cutAt?_media _ h) (Text.base64 content).toList
  rw [List.nil_append, ← String.toList_append] at hcut
  refine ⟨("data:" ++ media ++ ";").toList, ?_⟩
  rw [dataAddress, hlookup]
  exact hcut

/-! ### The asset of a file -/

/-- What an asset tells of a file, which is given by its names from the directory of assets and its
content. -/
structure Describes (asked : Int) (file : List String × Bytes) (a : Asset) : Prop where
  name : file.1.getLast? = some a.name
  path : a.path = Text.join "/" file.1
  kind : ∃ media, NamesMedia a.name a.kind media
  size : a.size = file.2.length
  embedded : a.isEmbedded = true ↔ a.kind = .image ∧ a.size ≤ min asked 1048576
  data : ∀ data, a.source = .embedded data → ∃ before digits,
    Text.cutAt? "base64,".toList data.toList = some (before, digits) ∧
      Text.unbase64 (String.ofList digits) = .ok file.2
  location : ∀ location, a.source = .referenced location → location = a.path
  key : a.key ≠ "" ∧ ∀ c ∈ a.key.toList, IsKeyChar c
  valid : (ofValue a.toValue).outcome = .ok a

variable {names : List String} {content : Bytes} {asked : Int}

theorem ofExtension_eq {spelled : String} : AssetKind.ofExtension spelled = .unknown ↔
    AssetKind.extensions.lookup (Text.lower spelled) = none := by
  unfold AssetKind.ofExtension
  cases h : AssetKind.extensions.lookup (Text.lower spelled) with
  | none => simp
  | some found =>
    obtain ⟨kind, media⟩ := found
    simpa using (AssetKind.extension_facts _ (Distinct.mem_of_lookup h)).2.2.2.2.2

/-- A file gives an asset exactly if its name is one of media. -/
theorem isSome_ofFile? (limit : Int) : (ofFile? limit names content).isSome = true ↔
    ∃ kind media, NamesMedia (names.getLast?.getD "") kind media := by
  have hname : (Path.mk "" names).name = names.getLast?.getD "" := rfl
  simp only [← hname, ← AssetKind.lookup_suffix]
  unfold ofFile?
  by_cases h : AssetKind.ofExtension (Path.mk "" names).suffix = .unknown
  · rw [if_pos h, ofExtension_eq.mp h]
    simp
  · rw [if_neg h]
    refine iff_of_true rfl ?_
    obtain ⟨⟨kind, media⟩, hfound⟩ := Option.ne_none_iff_exists'.mp (mt ofExtension_eq.mpr h)
    exact ⟨kind, media, hfound⟩

/-- The asset of a file tells what there is to know about it. -/
theorem describes_of_ofFile? (hnames : names ≠ [])
    (h : ofFile? (embedLimit asked) names content = some a) : Describes asked (names, content) a := by
  have hname : names.getLast? = some (Path.mk "" names).name := by
    rw [Path.name, List.getLast?_eq_some_getLast hnames]
    rfl
  have hpath : (Path.mk "" names).toText = Text.join "/" names := by
    simp [Path.toText, hnames]
  have hmost : embedLimit asked ≤ maxEmbedded := min_le_right asked maxEmbedded
  simp only [ofFile?, hpath] at h
  split at h
  · cases h
  · next hknown =>
    obtain ⟨⟨kind, media⟩, hfound⟩ := Option.ne_none_iff_exists'.mp (mt ofExtension_eq.mpr hknown)
    have hkind : AssetKind.ofExtension (Path.mk "" names).suffix = kind := by
      rw [AssetKind.ofExtension, hfound]
    have hmedia := AssetKind.lookup_suffix.mp hfound
    rw [hkind] at h
    by_cases hembed : kind = .image ∧ (content.length : Int) ≤ embedLimit asked
    · -- a small image: its data can be cut off and read
      rw [if_pos (by simpa using hembed)] at h
      obtain rfl := Option.some.inj h
      obtain ⟨rfl, hsize⟩ := hembed
      obtain ⟨before, hcut⟩ := cutAt?_dataAddress (Distinct.mem_of_lookup hfound) content
      refine ⟨hname, rfl, ⟨media, hmedia⟩, rfl, iff_of_true rfl ⟨rfl, hsize⟩, ?_, ?_, keyOf_made _,
        ofValue_toValue ?_ rfl⟩
      · intro data hdata
        obtain rfl := AssetSource.embedded.inj hdata
        refine ⟨before, _, hcut, ?_⟩
        rw [String.ofList_toList, Text.unbase64_base64]
      · intro location hlocation
        cases hlocation
      · have hallowed : (content.length : Int) ≤ maxEmbedded := hsize.trans hmost
        simp [sourceOf, embeddedData?, location?, hallowed]
    · -- anything else: it is found at its path
      rw [if_neg (by simpa using hembed)] at h
      obtain rfl := Option.some.inj h
      refine ⟨hname, rfl, ⟨media, hmedia⟩, rfl, iff_of_false Bool.false_ne_true hembed, ?_, ?_,
        keyOf_made _, ofValue_toValue rfl rfl⟩
      · intro data hdata
        cases hdata
      · intro location hlocation
        exact (AssetSource.referenced.inj hlocation).symm

end Asset
end Storybind
