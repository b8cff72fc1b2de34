import Mathlib.Tactic
import Storybind.Proofs.Json.Literal
import Storybind.Proofs.Json.Numeral

/-!
JSON texts and the values they spell. A text reads as the value that it spells, and goes on spelling it
when a pair of characters is replaced that only texts between quotes hold.
-/

namespace Storybind.Json

/-- A field of an object with the texts of its name and of its value. -/
structure SpelledField where
  literal : List Char
  name : String
  body : List Char
  value : Value

namespace SpelledField

def text (f : SpelledField) : List Char := f.literal ++ ':' :: ' ' :: f.body

/-- The entries that fields spell. -/
def entries (fs : List SpelledField) : Entries := fs.map fun f => (.text f.name, f.value)

end SpelledField

/-- The JSON texts of values, in any layout. -/
inductive Spells : List Char → Value → Prop
  | null : Spells "null".toList .null
  | true : Spells "true".toList (.bool true)
  | false : Spells "false".toList (.bool false)
  | number {n : Numeral} (h : n.IsWellFormed) : Spells n.text n.value
  | text {t : List Char} {s : String} (h : Literal t s) : Spells t (.text s)
  | list {layout : Layout} {depth : Nat} {parts : List (List Char × Value)}
      (h : ∀ p ∈ parts, Spells p.1 p.2) :
      Spells (enclose layout depth '[' ']' (parts.map Prod.fst)) (.ofList (parts.map Prod.snd))
  | mapping {layout : Layout} {depth : Nat} {fields : List SpelledField}
      (hnames : (fields.map SpelledField.name).Nodup)
      (hliterals : ∀ f ∈ fields, Literal f.literal f.name)
      (h : ∀ f ∈ fields, Spells f.body f.value) :
      Spells (enclose layout depth '\x7b' '\x7d' (fields.map SpelledField.text))
        (.ofEntries (SpelledField.entries fields))

/-! ### First characters -/

/-- The characters that a value begins with. -/
def openings : List Char := "[\x7b\x22-0123456789tfn".toList

/-- Whether a text begins with a character of a class. -/
def StartsIn (among : List Char) (t : List Char) : Prop := ∃ c ∈ among, t.head? = some c

theorem startsIn_numeral {n : Numeral} (h : n.IsWellFormed) : StartsIn openings n.text := by
  obtain ⟨d, ds, hd⟩ := List.exists_cons_of_ne_nil h.nonempty
  rw [Numeral.text, hd]
  cases n.negative with
  | true => exact ⟨'-', by decide, rfl⟩
  | false =>
    refine ⟨d, ?_, rfl⟩
    have hdigit := h.whole d (by rw [hd]; exact List.mem_cons_self)
    simp only [Text.isAsciiDigit, Bool.and_eq_true, decide_eq_true_eq] at hdigit
    have hall : ∀ k < 58, 48 ≤ k → Char.ofNat k ∈ openings := by decide
    have hmem := hall d.toNat (by omega) hdigit.1
    rwa [Char.ofNat_toNat] at hmem

theorem startsIn_literal {t : List Char} {s : String} (h : Literal t s) : StartsIn ['\x22'] t := by
  cases h
  exact ⟨'\x22', by decide, rfl⟩

theorem head?_enclose (layout : Layout) (depth : Nat) (opening closing : Char)
    (items : List (List Char)) : (enclose layout depth opening closing items).head? = some opening := by
  unfold enclose
  split <;> rfl

theorem startsIn_spells {t : List Char} {v : Value} (h : Spells t v) : StartsIn openings t := by
  cases h with
  | null => exact ⟨'n', by decide, rfl⟩
  | true => exact ⟨'t', by decide, rfl⟩
  | false => exact ⟨'f', by decide, rfl⟩
  | number h => exact startsIn_numeral h
  | text h =>
    obtain ⟨c, hc, hhead⟩ := startsIn_literal h
    obtain rfl := List.mem_singleton.mp hc
    exact ⟨'\x22', by decide, hhead⟩
  | list h => exact ⟨'[', by decide, head?_enclose _ _ _ _ _⟩
  | mapping _ _ h => exact ⟨'\x7b', by decide, head?_enclose _ _ _ _ _⟩

/-! ### Blanks -/

/-- Whether a text holds only the blanks that are written. -/
def AllBlanks (t : List Char) : Prop := ∀ c ∈ t, c = ' ' ∨ c = '\n'

theorem allBlanks_breakAt (layout : Layout) (depth : Nat) : AllBlanks (breakAt layout depth) := by
  intro c hc
  unfold breakAt at hc
  split at hc
  · cases hc
  · rcases List.mem_cons.mp hc with rfl | hc
    · exact Or.inr rfl
    · exact Or.inl (List.eq_of_mem_replicate hc)

theorem exists_itemMark (layout : Layout) (depth : Nat) :
    ∃ ws, itemMark layout depth = ',' :: ws ∧ AllBlanks ws := by
  unfold itemMark
  split
  · exact ⟨[' '], rfl, by simp [AllBlanks]⟩
  · exact ⟨breakAt layout depth, rfl, allBlanks_breakAt layout depth⟩

/-- The characters that end the blanks before them. -/
def solids : List Char := openings ++ [']', '\x7d', ',', ':']

theorem blanks_append {ws t : List Char} (hws : AllBlanks ws) (ht : StartsIn solids t)
    (position : Nat) : Cursor.blanks ⟨ws ++ t, position⟩ = ⟨t, position + ws.length⟩ := by
  obtain ⟨c, hc, hhead⟩ := ht
  obtain ⟨cs, rfl⟩ : ∃ cs, t = c :: cs := by
    cases t with
    | nil => cases hhead
    | cons d ds =>
      obtain rfl := Option.some.inj hhead
      exact ⟨ds, rfl⟩
  have hall : (solids.all fun c => !(c = ' ' || c = '\t' || c = '\n' || c = '\r')) = true := by decide
  have hsolid : (c = ' ' || c = '\t' || c = '\n' || c = '\r' : Bool) = false := by
    simpa using List.all_eq_true.mp hall c hc
  -- blanks are read up to the first character that is none
  have hscan : (ws ++ c :: cs).takeWhile (fun x => x = ' ' || x = '\t' || x = '\n' || x = '\r') =
      ws := by
    rw [List.takeWhile_append_of_pos, List.takeWhile_cons_of_neg, List.append_nil]
    · rw [hsolid]
      exact Bool.false_ne_true
    · intro x hx
      rcases hws x hx with rfl | rfl <;> rfl
  rw [Cursor.blanks, hscan, Cursor.skip, List.drop_left]

theorem blanks_of_solid {t : List Char} (ht : StartsIn solids t) (position : Nat) :
    Cursor.blanks ⟨t, position⟩ = ⟨t, position⟩ := by
  have hnone : AllBlanks [] := nofun
  exact blanks_append hnone ht position

theorem solid_of_opening {t : List Char} (h : StartsIn openings t) : StartsIn solids t := by
  obtain ⟨c, hc, hhead⟩ := h
  exact ⟨c, List.mem_append_left _ hc, hhead⟩

theorem StartsIn.append {among t : List Char} (h : StartsIn among t) (rest : List Char) :
    StartsIn among (t ++ rest) := by
  obtain ⟨c, hc, hhead⟩ := h
  exact ⟨c, hc, by rw [List.head?_append, hhead]; rfl⟩

theorem delimited_append {ws t : List Char} (hws : AllBlanks ws) (ht : Delimited t) :
    Delimited (ws ++ t) := by
  intro c hc
  cases ws with
  | nil => exact ht c hc
  | cons d ds =>
    obtain rfl := Option.some.inj hc
    rcases hws d List.mem_cons_self with rfl | rfl <;> decide

theorem delimited_cons {c : Char} (hc : c ∈ [',', ']', '\x7d', ' ', '\n']) (cs : List Char) :
    Delimited (c :: cs) := by
  intro d hd
  rwa [← Option.some.inj hd]

/-! ### Containers -/

theorem joinItems_cons (mark t u : List Char) (us : List (List Char)) :
    joinItems mark (t :: u :: us) = t ++ (mark ++ joinItems mark (u :: us)) := by
  rw [← List.append_assoc]
  rfl

theorem startsIn_joinItems {among t : List Char} (h : StartsIn among t) (mark : List Char)
    (ts : List (List Char)) : StartsIn among (joinItems mark (t :: ts)) := by
  cases ts with
  | nil => exact h
  | cons u us =>
    rw [joinItems_cons]
    exact h.append _

theorem enclose_cons (layout : Layout) (depth : Nat) (opening closing : Char) (t : List Char)
    (ts : List (List Char)) (rest : List Char) :
    enclose layout depth opening closing (t :: ts) ++ rest =
      opening :: (breakAt layout (depth + 1) ++ (joinItems (itemMark layout (depth + 1)) (t :: ts) ++
        (breakAt layout depth ++ closing :: rest))) := by
  simp [enclose]

theorem length_enclose_cons (layout : Layout) (depth : Nat) (opening closing : Char)
    (t : List Char) (ts : List (List Char)) :
    (enclose layout depth opening closing (t :: ts)).length =
      (breakAt layout (depth + 1)).length +
        (joinItems (itemMark layout (depth + 1)) (t :: ts)).length +
          (breakAt layout depth).length + 2 := by
  simp [enclose]
  omega

end Storybind.Json
