import Mathlib.Tactic
import Storybind.Proofs.Dependency.Valid
import Storybind.Proofs.Text.Trim

/-!
Declarations that are written as values and read again. What reading puts in order is in order by
then, so the same declaration is read, whichever names its fields are written under.
-/

namespace Storybind.Declaration

/-- The names under which the fields are written that have two. -/
structure FieldNames where
  kind : String
  async : String
  isModule : String
  noModule : String

def FieldNames.own : FieldNames := ⟨"kind", "async_", "is_module", "no_module"⟩

def FieldNames.alias : FieldNames := ⟨"type", "async", "module", "nomodule"⟩

/-- What a declaration is written as, field by field. -/
def writtenFields (names : FieldNames) (d : Declaration) : List (String × Value) :=
  [("name", .text d.name), (names.kind, .text d.kind.word), ("url", .ofOption d.url),
    ("version", .ofOption d.version), ("integrity", .ofOption d.integrity),
    ("priority", .int d.priority), ("defer", .bool d.defer), (names.async, .bool d.async),
    (names.isModule, .bool d.isModule), (names.noModule, .bool d.noModule),
    ("crossorigin", .ofOption (d.crossorigin.map Crossorigin.word)),
    ("condition", .ofOption d.condition), ("format", .text d.format.word),
    ("content", .ofOption d.content),
    ("minify", match d.minify with
      | some b => .bool b
      | none => .null)]

/-- A declaration as a value, under given names. -/
def written (names : FieldNames) (d : Declaration) : Value := .record (writtenFields names d)

theorem toValue_eq_written (d : Declaration) : d.toValue = d.written .own := rfl

variable {d : Declaration} {v : Value} {value : String}

/-! ### Fields that are read again -/

theorem optional_crossorigin (c : Option Crossorigin) :
    (Form.optional (Form.choice crossoriginNames .oneOf)
      (.ofOption (c.map Crossorigin.word))).outcome = .ok c := by
  rcases c with _ | c
  · rfl
  · cases c <;> decide +kernel

theorem isBlank_of_isDigestChar {c : Char} (h : isDigestChar c = true) : Text.isBlank c = false := by
  have hc := toNat_of_isDigestChar h
  simp only [Text.isBlank, Bool.or_eq_false_iff, Bool.and_eq_false_iff, decide_eq_false_iff_not,
    beq_eq_false_iff_ne]
  omega

/-- No blank stands around an integrity value. -/
theorem trim_of_isIntegrity (h : isIntegrity value) : Text.trim value = value := by
  refine Text.trim_eq_self.mpr (Text.trimmed_of_forall fun c hc => ?_)
  rcases mem_of_isIntegrity h hc with hc | rfl | rfl
  · exact isBlank_of_isDigestChar hc
  · decide
  · decide

theorem readIntegrity_ofOption {integrity : Option String}
    (h : ∀ value, integrity = some value → isIntegrity value) :
    (readIntegrity (.ofOption integrity)).outcome = .ok integrity := by
  have htrim : integrity.map Text.trim = integrity := by
    cases integrity with
    | none => rfl
    | some value => exact congrArg some (trim_of_isIntegrity (h value rfl))
  have hrule : integrityComplaint? integrity = none := by
    cases integrity with
    | none => rfl
    | some value =>
      rw [integrityComplaint?, trim_of_isIntegrity (h value rfl)]
      exact if_pos (h value rfl)
  have hread := Form.map_of_ok (f := Option.map Text.trim)
    (Form.ruled_of_ok (Form.optional_text_ofOption integrity) hrule)
  rwa [htrim] at hread

/-! ### Declarations that are read again -/

/-- What is written of a declaration gives all its fields. -/
theorem reads_written {names : FieldNames} (hnames : names = .own ∨ names = .alias)
    (hd : IsValid d) : Reads (Entries.ofTexts (writtenFields names d)) d := by
  have hpriority : (readPriority (.int d.priority)).outcome = .ok d.priority :=
    Form.ruled_of_ok rfl hd.priority
  have hminify : (Form.optional Form.bool (match d.minify with
      | some b => .bool b
      | none => .null)).outcome = .ok d.minify := by
    cases d.minify <;> rfl
  -- under either names each field is found as it stands, and what is found is read
  rcases hnames with rfl | rfl
  all_goals exact
    { name := Form.required_of_some (v := .text d.name) rfl rfl
      kind := Form.withDefault_of_some rfl (readKind_word d.kind)
      url := Form.withDefault_of_some rfl (Form.optional_text_ofOption d.url)
      version := Form.withDefault_of_some rfl (Form.optional_text_ofOption d.version)
      integrity := Form.withDefault_of_some rfl (readIntegrity_ofOption hd.integrity)
      priority := Form.withDefault_of_some rfl hpriority
      defer := Form.withDefault_of_some (v := .bool d.defer) rfl rfl
      async := Form.withDefault_of_some (v := .bool d.async) rfl rfl
      isModule := Form.withDefault_of_some (v := .bool d.isModule) rfl rfl
      noModule := Form.withDefault_of_some (v := .bool d.noModule) rfl rfl
      crossorigin := Form.withDefault_of_some rfl (optional_crossorigin d.crossorigin)
      condition := Form.withDefault_of_some rfl (Form.optional_text_ofOption d.condition)
      format := Form.withDefault_of_some rfl (readFormat_word d.format)
      content := Form.withDefault_of_some rfl (Form.optional_text_ofOption d.content)
      minify := Form.withDefault_of_some rfl hminify }

/-- A valid declaration is read again from what is written of it. -/
theorem ofValue_written {names : FieldNames} (hnames : names = .own ∨ names = .alias)
    (hd : IsValid d) : (ofValue (d.written names)).outcome = .ok d := by
  have hget : Entries.get? "format" (Entries.ofTexts (writtenFields names d)) =
      some (.text d.format.word) := by
    rcases hnames with rfl | rfl <;> rfl
  have hword : (Value.text d.format.word).isTruthy = true := by
    cases d.format <;> rfl
  have hformat : Value.truthy? "format" (Entries.ofTexts (writtenFields names d)) =
      some (.text d.format.word) := Option.filter_eq_some_iff.mpr ⟨hget, hword⟩
  exact ofValue_eq_ok.mpr
    ⟨0, _, _, rfl, .given hformat, reads_written hnames hd, hd.complete⟩

/-- A declaration that is accepted has a name, a priority within bounds and what its kind needs; its
format is the one that is given or the one that its address suggests; its integrity value can be
compared with any content; and it is accepted as it is once more from what it is written as. -/
theorem accepted_again {label : Nat} {es : Entries}
    (h : (ofValue (.mapping label es)).outcome = .ok d) :
    (∃ c ∈ d.name.toList, Text.isBlank c = false) ∧
      (0 ≤ d.priority ∧ d.priority ≤ 100) ∧
      ((∀ given, Value.truthy? "format" es = some given →
          (readFormat given).outcome = .ok d.format) ∧
        (Value.truthy? "format" es = none → d.format = .ofAddress (d.url.getD ""))) ∧
      (d.kind = .remote ∨ d.kind = .bundled → ∃ url, d.url = some url ∧ url ≠ "") ∧
      (d.kind = .inlined → ∃ content, d.content = some content ∧ content ≠ "") ∧
      (∀ integrity, d.integrity = some integrity →
        ∀ bytes, ∃ ok, Digest.verify bytes integrity = .ok ok) ∧
      (ofValue d.toValue).outcome = .ok d ∧ (ofValue (d.written .alias)).outcome = .ok d := by
  have hd := isValid_of_ofValue h
  obtain ⟨_, _, es', hmapping, hinfer, hreads, -⟩ := ofValue_eq_ok.mp h
  obtain ⟨-, rfl⟩ := Value.mapping.inj hmapping
  obtain ⟨hname, hurl, hcontent⟩ := complete_of_complaint? hd.complete
  have hown : (ofValue d.toValue).outcome = .ok d := by
    rw [toValue_eq_written]
    exact ofValue_written (.inl rfl) hd
  have halias : (ofValue (d.written .alias)).outcome = .ok d := ofValue_written (.inr rfl) hd
  refine ⟨hname, priority_of_priorityComplaint? hd.priority, format_of_reads hinfer hreads, ?_,
    hcontent, ?_, hown, halias⟩
  · intro hkind
    apply hurl
    rcases hkind with hkind | hkind
    · rw [hkind]
      decide
    · rw [hkind]
      decide
  · intro integrity hintegrity bytes
    exact exists_verify_of_isIntegrity (hd.integrity integrity hintegrity) bytes

/-- A library under mixed names, with blanks around words and texts for other values. -/
def mixedEntries : Entries := .ofTexts
  [("name", .text "kit"), ("type", .text " CDN "), ("url", .text "https://a.example/kit.css?v=1"),
    ("integrity", .text " sha256-AAAA== "), ("priority", .text "60"), ("async_", .text "yes"),
    ("module", .int 1)]

def mixed : Declaration :=
  { plain "kit" .remote none "https://a.example/kit.css?v=1" with
    integrity := some "sha256-AAAA=="
    priority := 60
    async := true
    isModule := true }

theorem accepted_again_mixed :
    (ofValue (.mapping 0 mixedEntries)).outcome = .ok mixed ∧
      mixed.format = .ofAddress "https://a.example/kit.css?v=1" ∧
      (ofValue mixed.toValue).outcome = .ok mixed ∧
      (ofValue (mixed.written .alias)).outcome = .ok mixed := by
  have haccepted : (ofValue (.mapping 0 mixedEntries)).outcome = .ok mixed := by decide +kernel
  have hagain := accepted_again haccepted
  have hnone : Value.truthy? "format" mixedEntries = none := by decide +kernel
  exact ⟨haccepted, hagain.2.2.1.2 hnone, hagain.2.2.2.2.2.2⟩

end Storybind.Declaration
