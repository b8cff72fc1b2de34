import Mathlib.Tactic
import Storybind.Dependency.Declaration
import Storybind.Proofs.Entries
import Storybind.Proofs.Form

/-!
Reading a declaration, field by field. A declaration is read exactly where its format can be told,
every field is read, and nothing is lacking that its kind needs.
-/

namespace Storybind

/-- A value that may be null is read as nothing, or as what it is read as. -/
theorem Form.optional_ok {α : Type} {read : Value → Form α} {v : Value} {a : Option α}
    (h : (Form.optional read v).outcome = .ok a) :
    v = .null ∧ a = none ∨ ∃ b, (read v).outcome = .ok b ∧ a = some b := by
  unfold Form.optional at h
  split at h
  · exact .inl ⟨rfl, (Except.ok.inj h).symm⟩
  · obtain ⟨b, hb, rfl⟩ := Form.map_ok h
    exact .inr ⟨b, hb, rfl⟩

theorem Form.optional_text_ofOption (s : Option String) :
    (Form.optional Form.text (.ofOption s)).outcome = .ok s := by
  cases s <;> rfl

namespace Declaration

/-! ### The format -/

/-- The entries whose fields are read: those that are given, or with the format that the address
suggests where none is given. -/
inductive Infers (es : Entries) : Entries → Prop
  | given {v : Value} (hformat : Value.truthy? "format" es = some v) : Infers es es
  | inferred {address : String} (hformat : Value.truthy? "format" es = none)
      (haddress : Value.truthy? "url" es = some (.text address) ∨
        Value.truthy? "url" es = none ∧ address = "") :
      Infers es (Entries.set "format" (.text (DependencyFormat.ofAddress address).word) es)

variable {es es' : Entries} {d : Declaration}

theorem inferFormat_eq_ok : (inferFormat es).outcome = .ok es' ↔ Infers es es' := by
  constructor
  · intro h
    unfold inferFormat at h
    split at h
    · next v hformat =>
      cases h
      exact .given hformat
    · next hformat =>
      split at h
      · next hurl =>
        cases h
        exact .inferred hformat (.inr ⟨hurl, rfl⟩)
      · next s hurl =>
        cases h
        exact .inferred hformat (.inl hurl)
      · cases h
      · cases h
  · intro h
    cases h with
    | given hformat =>
      rw [inferFormat, hformat]
      rfl
    | inferred hformat haddress =>
      rw [inferFormat, hformat]
      rcases haddress with hurl | ⟨hurl, rfl⟩
      · rw [hurl]
        rfl
      · rw [hurl]
        rfl

/-- Why a format cannot be told: none is given, and the address counts as present but is no text. -/
inductive FormatUnknown (es : Entries) : FormError → Prop
  | bytes {b : Bytes} (hformat : Value.truthy? "format" es = none)
      (haddress : Value.truthy? "url" es = some (.scalar (.bytes b))) : FormatUnknown es .bytesAddress
  | noLetters {v : Value} (hformat : Value.truthy? "format" es = none)
      (haddress : Value.truthy? "url" es = some v) (htext : ∀ s, v ≠ .text s)
      (hbytes : ∀ b, v ≠ .scalar (.bytes b)) : FormatUnknown es (.noLetters v.kindName)

theorem inferFormat_eq_error {e : FormError} :
    (inferFormat es).outcome = .error e ↔ FormatUnknown es e := by
  constructor
  · intro h
    unfold inferFormat at h
    split at h
    · cases h
    · next hformat =>
      split at h
      · cases h
      · cases h
      · next b haddress =>
        cases h
        exact .bytes hformat haddress
      · next v htext hbytes haddress =>
        cases h
        exact .noLetters hformat haddress htext hbytes
  · intro h
    cases h with
    | bytes hformat haddress =>
      rw [inferFormat, hformat, haddress]
    | @noLetters v hformat haddress htext hbytes =>
      rw [inferFormat, hformat, haddress]
      dsimp only
      split
      · next hnone => cases hnone
      · next s hs => exact absurd (Option.some.inj hs) (htext s)
      · next b hb => exact absurd (Option.some.inj hb) (hbytes b)
      · next hv =>
        cases hv
        rfl

/-! ### The fields -/

def readKind (v : Value) : Form DependencyKind :=
  Form.choice kindNames .kindOf (normalWord kindAliases v)

def readFormat (v : Value) : Form DependencyFormat :=
  Form.choice formatNames .kindOf (normalWord formatAliases v)

def readIntegrity (v : Value) : Form (Option String) :=
  Option.map Text.trim <$> (Form.optional Form.text v).ruled integrityComplaint?

def readPriority (v : Value) : Form Int := (Form.int v).ruled priorityComplaint?

/-- What entries give for each field of a declaration. -/
structure Reads (es : Entries) (d : Declaration) : Prop where
  name : (Form.required es ["name"] Form.text).outcome = .ok d.name
  kind : (Form.withDefault es ["type", "kind"] .remote readKind).outcome = .ok d.kind
  url : (Form.maybe es "url" Form.text).outcome = .ok d.url
  version : (Form.maybe es "version" Form.text).outcome = .ok d.version
  integrity : (Form.withDefault es ["integrity"] none readIntegrity).outcome = .ok d.integrity
  priority : (Form.withDefault es ["priority"] 50 readPriority).outcome = .ok d.priority
  defer : (Form.withDefault es ["defer"] false Form.bool).outcome = .ok d.defer
  async : (Form.withDefault es ["async", "async_"] false Form.bool).outcome = .ok d.async
  isModule : (Form.withDefault es ["module", "is_module"] false Form.bool).outcome = .ok d.isModule
  noModule :
    (Form.withDefault es ["nomodule", "no_module"] false Form.bool).outcome = .ok d.noModule
  crossorigin :
    (Form.maybe es "crossorigin" (Form.choice crossoriginNames .oneOf)).outcome = .ok d.crossorigin
  condition : (Form.maybe es "condition" Form.text).outcome = .ok d.condition
  format : (Form.withDefault es ["format"] .script readFormat).outcome = .ok d.format
  content : (Form.maybe es "content" Form.text).outcome = .ok d.content
  minify : (Form.maybe es "minify" Form.bool).outcome = .ok d.minify

theorem reads_of_fields (h : (fields es).outcome = .ok d) : Reads es d := by
  obtain ⟨_, minify, h, hminify, eMinify⟩ := Form.seq_ok h
  obtain ⟨_, content, h, hcontent, eContent⟩ := Form.seq_ok h
  obtain ⟨_, format, h, hformat, eFormat⟩ := Form.seq_ok h
  obtain ⟨_, condition, h, hcondition, eCondition⟩ := Form.seq_ok h
  obtain ⟨_, crossorigin, h, hcrossorigin, eCrossorigin⟩ := Form.seq_ok h
  obtain ⟨_, noModule, h, hnoModule, eNoModule⟩ := Form.seq_ok h
  obtain ⟨_, isModule, h, hisModule, eIsModule⟩ := Form.seq_ok h
  obtain ⟨_, async, h, hasync, eAsync⟩ := Form.seq_ok h
  obtain ⟨_, defer, h, hdefer, eDefer⟩ := Form.seq_ok h
  obtain ⟨_, priority, h, hpriority, ePriority⟩ := Form.seq_ok h
  obtain ⟨_, integrity, h, hintegrity, eIntegrity⟩ := Form.seq_ok h
  obtain ⟨_, version, h, hversion, eVersion⟩ := Form.seq_ok h
  obtain ⟨_, url, h, hurl, eUrl⟩ := Form.seq_ok h
  obtain ⟨_, kind, h, hkind, eKind⟩ := Form.seq_ok h
  obtain ⟨name, hname, eName⟩ := Form.map_ok h
  subst_vars
  exact ⟨hname, hkind, hurl, hversion, hintegrity, hpriority, hdefer, hasync, hisModule, hnoModule,
    hcrossorigin, hcondition, hformat, hcontent, hminify⟩

theorem fields_of_reads (h : Reads es d) : (fields es).outcome = .ok d := by
  have hname := Form.map_of_ok (f := mk) h.name
  have hkind := Form.seq_of_ok hname h.kind
  have hurl := Form.seq_of_ok hkind h.url
  have hversion := Form.seq_of_ok hurl h.version
  have hintegrity := Form.seq_of_ok hversion h.integrity
  have hpriority := Form.seq_of_ok hintegrity h.priority
  have hdefer := Form.seq_of_ok hpriority h.defer
  have hasync := Form.seq_of_ok hdefer h.async
  have hisModule := Form.seq_of_ok hasync h.isModule
  have hnoModule := Form.seq_of_ok hisModule h.noModule
  have hcrossorigin := Form.seq_of_ok hnoModule h.crossorigin
  have hcondition := Form.seq_of_ok hcrossorigin h.condition
  have hformat := Form.seq_of_ok hcondition h.format
  have hcontent := Form.seq_of_ok hformat h.content
  exact Form.seq_of_ok hcontent h.minify

/-- What fails about fields are flaws. -/
theorem flawsOnly_fields : (fields es).FlawsOnly := by
  have htext : ∀ v, (Form.text v).FlawsOnly := Form.flawsOnly_text
  have hbool : ∀ v, (Form.bool v).FlawsOnly := Form.flawsOnly_bool
  have hpriority (v : Value) : (readPriority v).FlawsOnly := (Form.flawsOnly_int v).ruled _
  have hintegrity (v : Value) : (readIntegrity v).FlawsOnly :=
    ((Form.flawsOnly_optional htext v).ruled _).map _
  have hkind (v : Value) : (readKind v).FlawsOnly := Form.flawsOnly_choice _ _ _
  have hformat (v : Value) : (readFormat v).FlawsOnly := Form.flawsOnly_choice _ _ _
  have hcrossorigin (v : Value) : (Form.choice crossoriginNames .oneOf v).FlawsOnly :=
    Form.flawsOnly_choice _ _ _
  refine Form.FlawsOnly.seq ?_ (Form.flawsOnly_maybe hbool "minify")
  refine Form.FlawsOnly.seq ?_ (Form.flawsOnly_maybe htext "content")
  refine Form.FlawsOnly.seq ?_ (Form.flawsOnly_withDefault hformat _ _)
  refine Form.FlawsOnly.seq ?_ (Form.flawsOnly_maybe htext "condition")
  refine Form.FlawsOnly.seq ?_ (Form.flawsOnly_maybe hcrossorigin "crossorigin")
  refine Form.FlawsOnly.seq ?_ (Form.flawsOnly_withDefault hbool _ _)
  refine Form.FlawsOnly.seq ?_ (Form.flawsOnly_withDefault hbool _ _)
  refine Form.FlawsOnly.seq ?_ (Form.flawsOnly_withDefault hbool _ _)
  refine Form.FlawsOnly.seq ?_ (Form.flawsOnly_withDefault hbool _ _)
  refine Form.FlawsOnly.seq ?_ (Form.flawsOnly_withDefault hpriority _ _)
  refine Form.FlawsOnly.seq ?_ (Form.flawsOnly_withDefault hintegrity _ _)
  refine Form.FlawsOnly.seq ?_ (Form.flawsOnly_maybe htext "version")
  refine Form.FlawsOnly.seq ?_ (Form.flawsOnly_maybe htext "url")
  refine Form.FlawsOnly.seq ?_ (Form.flawsOnly_withDefault hkind _ _)
  exact (Form.flawsOnly_required htext ["name"]).map mk

/-- A declaration is read from the entries of a mapping, and is complete. -/
theorem ofValue_eq_ok {v : Value} : (ofValue v).outcome = .ok d ↔
    ∃ label es es', v = .mapping label es ∧ Infers es es' ∧ Reads es' d ∧ complaint? d = none := by
  constructor
  · intro h
    unfold ofValue Form.record at h
    split at h
    · next label es =>
      obtain ⟨es', hinfer, h⟩ := Form.andThen_ok h
      obtain ⟨hfields, hcomplete⟩ := Form.ruled_ok h
      exact ⟨label, es, es', rfl, inferFormat_eq_ok.mp hinfer, reads_of_fields hfields, hcomplete⟩
    · cases h
  · rintro ⟨label, es, es', rfl, hinfer, hreads, hcomplete⟩
    have hruled := Form.ruled_of_ok (fields_of_reads hreads) hcomplete
    rw [ofValue, Form.record, Form.andThen, inferFormat_eq_ok.mpr hinfer]
    exact hruled

/-- What fails about a mapping are flaws, or its format cannot be told. -/
theorem formatUnknown_iff {label : Nat} {e : FormError} : FormatUnknown es e ↔
    (ofValue (.mapping label es)).outcome = .error e ∧ ∀ fs, e ≠ .flaws fs := by
  constructor
  · intro h
    refine ⟨?_, fun fs hfs => ?_⟩
    · rw [ofValue, Form.record, Form.andThen, inferFormat_eq_error.mpr h]
    · subst hfs
      cases h
  · rintro ⟨h, hflaws⟩
    rw [ofValue, Form.record, Form.andThen] at h
    split at h
    · next es' _ =>
      obtain ⟨fs, hfs⟩ := (flawsOnly_fields.ruled complaint?) e h
      exact absurd hfs (hflaws fs)
    · next e' he' =>
      cases h
      exact inferFormat_eq_error.mp he'

/-! ### Where the format comes from -/

theorem lookupFirst_set (name : String) (v : Value) (es : Entries) :
    Form.lookupFirst (Entries.set name v es) [name] = some v := by
  rw [Form.lookupFirst, Entries.get?_set, if_pos rfl]
  rfl

theorem readKind_word (k : DependencyKind) : (readKind (.text k.word)).outcome = .ok k := by
  cases k <;> decide +kernel

theorem readFormat_word (f : DependencyFormat) : (readFormat (.text f.word)).outcome = .ok f := by
  cases f <;> decide +kernel

/-- A value that counts as absent is read as no text, or as the empty one. -/
theorem getD_of_not_isTruthy {v : Value} {s : Option String} (hv : v.isTruthy = false)
    (h : (Form.optional Form.text v).outcome = .ok s) : s.getD "" = "" := by
  rcases Form.optional_ok h with ⟨-, rfl⟩ | ⟨t, ht, rfl⟩
  · rfl
  · unfold Form.text at ht
    split at ht
    · next u =>
      obtain rfl : u = t := Except.ok.inj ht
      have hempty : u.isEmpty = true := by simpa [Value.isTruthy] using hv
      simpa using hempty
    · next b =>
      have hempty : b = [] := by simpa [Value.isTruthy] using hv
      subst hempty
      have hdecode : Text.decode [] = .ok "" := rfl
      rw [hdecode] at ht
      exact (Except.ok.inj ht).symm
    · cases ht

/-- The format is the one that is given, or the one that the address suggests. -/
theorem format_of_reads (hinfer : Infers es es') (hreads : Reads es' d) :
    (∀ v, Value.truthy? "format" es = some v → (readFormat v).outcome = .ok d.format) ∧
      (Value.truthy? "format" es = none → d.format = .ofAddress (d.url.getD "")) := by
  cases hinfer with
  | @given v hformat =>
    have hthere : Entries.get? "format" es = some v := (Option.filter_eq_some_iff.mp hformat).1
    have hlookup : Form.lookupFirst es ["format"] = some v := by
      rw [Form.lookupFirst, hthere]
      rfl
    have hread := hreads.format
    rw [Form.withDefault, hlookup] at hread
    rw [hformat]
    constructor
    · intro w hw
      rw [← Option.some.inj hw]
      exact Form.under_ok hread
    · intro hnone
      cases hnone
  | @inferred address hformat haddress =>
    refine ⟨fun v hv => absurd (hformat.symm.trans hv) (Option.some_ne_none v).symm, fun _ => ?_⟩
    have hread := hreads.format
    rw [Form.withDefault, lookupFirst_set] at hread
    have hword := (Form.under_ok hread).symm.trans (readFormat_word _)
    rw [Except.ok.inj hword]
    -- the address is the one that is read
    have hurl := hreads.url
    rw [Form.maybe, Form.withDefault, Form.lookupFirst, Entries.get?_set,
      if_neg (by decide), Form.lookupFirst, Option.or_none] at hurl
    rcases haddress with haddress | ⟨hnone, rfl⟩
    · rw [(Option.filter_eq_some_iff.mp haddress).1] at hurl
      rw [← Except.ok.inj (Form.under_ok hurl)]
      rfl
    · cases hthere : Entries.get? "url" es with
      | none =>
        rw [hthere] at hurl
        rw [← Except.ok.inj hurl]
        rfl
      | some v =>
        rw [hthere] at hurl
        rw [Value.truthy?, hthere, Option.filter_eq_none_iff] at hnone
        have hv : v.isTruthy = false := by simpa using hnone v rfl
        rw [getD_of_not_isTruthy hv (Form.under_ok hurl)]

/-! ### Declarations of few fields -/

/-- A library of nothing but a name, a kind, a version and an address. -/
def plain (name : String) (kind : DependencyKind) (version : Option String) (url : String) :
    Declaration where
  name := name
  kind := kind
  url := some url
  version := version
  integrity := none
  priority := 50
  defer := false
  async := false
  isModule := false
  noModule := false
  crossorigin := none
  condition := none
  format := .ofAddress url
  content := none
  minify := none

section

variable (name url : String) (kind : DependencyKind) (version : Option String)

@[simp] theorem plain_name : (plain name kind version url).name = name := rfl

@[simp] theorem plain_kind : (plain name kind version url).kind = kind := rfl

@[simp] theorem plain_version : (plain name kind version url).version = version := rfl

end

end Declaration
end Storybind
