import Mathlib.Tactic
import Storybind.Proofs.Json.Double
import Storybind.Proofs.Json.Reading

/-!
What is written for a JSON value spells it, so it reads as that value. Labels, which tell by which
document node a container came in, are not written.
-/

namespace Storybind

namespace Value

mutual

/-- A value whose containers carry no labels. -/
def unlabelled : Value → Value
  | .scalar s => .scalar s
  | .list _ xs => .list 0 (unlabelledItems xs)
  | .mapping _ es => .mapping 0 (unlabelledFields es)
  | .set _ members => .set 0 members
  | .pair a b => .pair a.unlabelled b.unlabelled
  | .back _ => .back 0

def unlabelledItems : List Value → List Value
  | [] => []
  | x :: xs => x.unlabelled :: unlabelledItems xs

def unlabelledFields : List (Scalar × Value) → List (Scalar × Value)
  | [] => []
  | (k, x) :: es => (k, x.unlabelled) :: unlabelledFields es

end

end Value

namespace Json

/-- The values that JSON has, below containers with the labels of a path: null, truth values, finite
numbers, texts, lists, and mappings with texts for names, each name once. -/
inductive IsJson : List Nat → Value → Prop
  | null {path : List Nat} : IsJson path .null
  | bool {path : List Nat} (b : Bool) : IsJson path (.bool b)
  | int {path : List Nat} {n : Int} (h : isOverlong n = false) : IsJson path (.int n)
  | float {path : List Nat} {x : Float} {negative : Bool} {b : Binary}
      (h : floatView x = .finite negative b) : IsJson path (.float x)
  | text {path : List Nat} (s : String) : IsJson path (.text s)
  | list {path : List Nat} {label : Nat} {xs : List Value} (hlabel : label ≠ 0 → label ∉ path)
      (h : ∀ x ∈ xs, IsJson (label :: path) x) : IsJson path (.list label xs)
  | mapping {path : List Nat} {label : Nat} {fields : List (String × Value)}
      (hlabel : label ≠ 0 → label ∉ path) (hnames : (fields.map Prod.fst).Nodup)
      (h : ∀ f ∈ fields, IsJson (label :: path) f.2) :
      IsJson path (.mapping label (fields.map fun f => (.text f.1, f.2)))

/-- Whether what is written for a value spells it. -/
def WritesSpelled (layout : Layout) (path : List Nat) (v : Value) : Prop :=
  ∃ t, value layout path v = .ok t ∧ Spells t v.unlabelled

variable {path : List Nat}

theorem items_spelled {layout : Layout} {xs : List Value}
    (h : ∀ x ∈ xs, WritesSpelled layout path x) :
    ∃ parts : List (List Char × Value), items layout path xs = .ok (parts.map Prod.fst) ∧
      parts.map Prod.snd = Value.unlabelledItems xs ∧ ∀ p ∈ parts, Spells p.1 p.2 := by
  induction xs with
  | nil => exact ⟨[], rfl, rfl, nofun⟩
  | cons x xs ih =>
    obtain ⟨t, hvalue, hspells⟩ := h x List.mem_cons_self
    obtain ⟨parts, hitems, hvalues, hparts⟩ := ih fun y hy => h y (List.mem_cons_of_mem x hy)
    refine ⟨(t, x.unlabelled) :: parts, ?_, ?_, List.forall_mem_cons.mpr ⟨hspells, hparts⟩⟩
    · rw [items, hvalue, hitems]
      rfl
    · rw [List.map_cons, hvalues, Value.unlabelledItems]

theorem fields_spelled {layout : Layout} {fs : List (String × Value)}
    (h : ∀ f ∈ fs, WritesSpelled layout path f.2) :
    ∃ spelled : List SpelledField,
      fields layout path (fs.map fun f => (.text f.1, f.2)) =
        .ok (spelled.map SpelledField.text) ∧
      SpelledField.entries spelled =
        Value.unlabelledFields (fs.map fun f => (.text f.1, f.2)) ∧
      spelled.map SpelledField.name = fs.map Prod.fst ∧
      ∀ g ∈ spelled, Literal g.literal g.name ∧ Spells g.body g.value := by
  induction fs with
  | nil => exact ⟨[], rfl, rfl, rfl, nofun⟩
  | cons f fs ih =>
    obtain ⟨t, hvalue, hspells⟩ := h f List.mem_cons_self
    obtain ⟨spelled, hfields, hentries, hnames, hspelled⟩ :=
      ih fun g hg => h g (List.mem_cons_of_mem f hg)
    refine ⟨⟨string layout.ascii f.1, f.1, t, f.2.unlabelled⟩ :: spelled, ?_, ?_, ?_,
      List.forall_mem_cons.mpr ⟨⟨literal_string layout.ascii f.1, hspells⟩, hspelled⟩⟩
    · rw [List.map_cons, fields, hvalue, hfields]
      rfl
    · rw [List.map_cons, Value.unlabelledFields, ← hentries]
      rfl
    · rw [List.map_cons, List.map_cons, hnames]

theorem not_circular {label : Nat} (h : label ≠ 0 → label ∉ path) :
    ¬(label ≠ 0 && path.contains label) := by
  simpa using h

/-- What is written for a JSON value spells it, in any layout. -/
theorem writesSpelled_of_isJson {layout : Layout} {v : Value} (h : IsJson path v) :
    WritesSpelled layout path v := by
  induction h with
  | null => exact ⟨_, rfl, Spells.null⟩
  | bool b =>
    cases b with
    | true => exact ⟨_, rfl, Spells.true⟩
    | false => exact ⟨_, rfl, Spells.false⟩
  | @int path n h =>
    refine ⟨(toString n).toList, ?_, ?_⟩
    · rw [value, scalar, intText, h]
      rfl
    · have hspells := Spells.number (Numeral.isWellFormed_ofInt h)
      rwa [Numeral.text_ofInt, Numeral.value_ofInt] at hspells
  | float h =>
    obtain ⟨n, hn, htext, hvalue⟩ := Numeral.exists_of_view h
    have hspells := Spells.number hn
    rw [htext, hvalue] at hspells
    exact ⟨_, rfl, hspells⟩
  | text s => exact ⟨_, rfl, Spells.text (literal_string layout.ascii s)⟩
  -- a label below itself would break writing down
  | @list path label xs hlabel _ ih =>
    obtain ⟨parts, hitems, hvalues, hparts⟩ := items_spelled ih
    refine ⟨enclose layout path.length '[' ']' (parts.map Prod.fst), ?_, ?_⟩
    · rw [value, if_neg (not_circular hlabel), hitems]
      rfl
    · rw [Value.unlabelled, ← hvalues]
      exact Spells.list hparts
  | @mapping path label fs hlabel hnames _ ih =>
    obtain ⟨spelled, hfields, hentries, hkeys, hspelled⟩ := fields_spelled ih
    refine ⟨enclose layout path.length '\x7b' '\x7d' (spelled.map SpelledField.text),
      ?_, ?_⟩
    · rw [value, if_neg (not_circular hlabel), hfields]
      rfl
    · rw [Value.unlabelled, ← hentries]
      exact Spells.mapping (by rwa [hkeys]) (fun g hg => (hspelled g hg).1)
        fun g hg => (hspelled g hg).2

theorem isJson_record {path : List Nat} {fields : List (String × Value)}
    (hnames : (fields.map Prod.fst).Nodup) (h : ∀ f ∈ fields, IsJson (0 :: path) f.2) :
    IsJson path (.record fields) := by
  have hlabel : (0 : Nat) ≠ 0 → 0 ∉ path := fun h => absurd rfl h
  exact IsJson.mapping hlabel hnames h

theorem isJson_ofList {path : List Nat} {xs : List Value} (h : ∀ x ∈ xs, IsJson (0 :: path) x) :
    IsJson path (.ofList xs) := by
  have hlabel : (0 : Nat) ≠ 0 → 0 ∉ path := fun h => absurd rfl h
  exact IsJson.list hlabel h

theorem isJson_nothing {path : List Nat} : IsJson path (.ofEntries []) := by
  have hempty : IsJson path (.record []) := isJson_record List.nodup_nil nofun
  exact hempty

theorem ten_le_pow {m : Nat} (hm : m ≠ 0) : 10 ≤ Nat.pow 10 m := Nat.le_self_pow hm 10

theorem isOverlong_of_digit {n : Int} (h : n.natAbs < 10) : isOverlong n = false := by
  have hpow : 10 ≤ Nat.pow 10 maxDigits := ten_le_pow (by decide)
  unfold isOverlong digitBound
  exact decide_eq_false (not_le.mpr (h.trans_le hpow))

end Json
end Storybind
