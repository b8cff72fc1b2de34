import Mathlib.Tactic
import Storybind.Proofs.Page.Closing
import Storybind.Text.Case

/-!
Lower case and ASCII. Of the letters outside ASCII only the sign of the unit kelvin has a small letter
inside, so a text without a `k` is the lower case of nothing but its own spellings in other letter cases.
-/

namespace Storybind.Text

variable {c : Char} {n : Nat}

theorem toNat_ofNat (h : n.isValidChar) : (Char.ofNat n).toNat = n := by
  rw [Char.ofNat, dif_pos h]
  rfl

/-- Whether the small letters of a run lie outside ASCII, or the run is that of the kelvin sign. -/
def CaseRun.StaysOutside (r : CaseRun) : Prop :=
  128 ≤ r.first + r.shift ∧
      (r.last + r.shift < 0xd800 ∨ 0xe000 ≤ r.first + r.shift ∧ r.last + r.shift < 0x110000) ∨
    r.first = 8490 ∧ r.last = 8490 ∧ r.shift = -8383

instance (r : CaseRun) : Decidable r.StaysOutside := by
  unfold CaseRun.StaysOutside
  infer_instance

theorem staysOutside_lowerRuns : ∀ r ∈ lowerRuns.toList, r.StaysOutside := by
  decide +kernel

theorem lowerChar_of_ascii (h : c.toNat < 128) : lowerChar c = c.toLower := by
  refine Char.toNat_inj.mp ?_
  rw [lowerChar, if_pos h, Page.toNat_toLower]
  by_cases hcapital : 65 ≤ c.toNat ∧ c.toNat ≤ 90
  · have hsmall : (c.toNat + 32).isValidChar := Or.inl (by omega)
    rw [if_pos hcapital, if_pos (by simpa using hcapital), toNat_ofNat hsmall]
  · rw [if_neg hcapital, if_neg (by simpa using hcapital)]

/-- A letter outside ASCII stays outside, the kelvin sign apart. -/
theorem lowerChar_of_outside (h : 128 ≤ c.toNat) :
    lowerChar c = 'k' ∨ 128 ≤ (lowerChar c).toNat := by
  rw [lowerChar, if_neg (Nat.not_lt.mpr h), shifted?]
  cases hfind : lowerRuns.find? fun r =>
      r.first ≤ c.toNat && c.toNat ≤ r.last && (c.toNat - r.first) % r.step == 0 with
  | none => exact Or.inr h
  | some r =>
    have hrange := Array.find?_some hfind
    simp only [Bool.and_eq_true, decide_eq_true_eq] at hrange
    obtain ⟨⟨hfirst, hlast⟩, -⟩ := hrange
    rw [Option.map_some, Option.getD_some]
    -- of all runs that end in ASCII there is only the one of the kelvin sign
    rcases staysOutside_lowerRuns r (Array.mem_def.mp (Array.mem_of_find?_eq_some hfind)) with
      ⟨hlow, hvalid⟩ | ⟨hone, honly, hshift⟩
    · right
      have hchar : (Int.toNat (c.toNat + r.shift)).isValidChar := by
        unfold Nat.isValidChar
        omega
      rw [toNat_ofNat hchar]
      omega
    · left
      have hkelvin : Int.toNat (c.toNat + r.shift) = 107 := by omega
      rw [hkelvin]

/-- Whether a text holds ASCII characters only, none of them a `k`. -/
def IsKelvinless (t : List Char) : Prop := ∀ d ∈ t, d.toNat < 128 ∧ d ≠ 'k'

theorem isKelvinless_iff {t : List Char} :
    t.all (fun d => d.toNat < 128 && d ≠ 'k') = true ↔ IsKelvinless t := by
  simp [IsKelvinless, List.all_eq_true]

instance (t : List Char) : Decidable (IsKelvinless t) := decidable_of_iff _ isKelvinless_iff

theorem lowerFrom_of_map_toLower {s t : List Char} (ht : IsKelvinless t)
    (h : s.map Char.toLower = t) (before : List Char) : lowerFrom before s = t := by
  induction s generalizing t before with
  | nil => exact h
  | cons c s ih =>
    subst h
    obtain ⟨hc, hs⟩ := List.forall_mem_cons.mp ht
    -- only letters of ASCII have small letters of ASCII in this reading
    have hn := Page.toNat_toLower c
    have hascii : c.toNat < 128 := by
      split at hn <;> omega
    rw [lowerFrom, if_neg (by omega), if_neg (by omega), lowerChar_of_ascii hascii, ih hs rfl]
    rfl

theorem map_toLower_of_lowerFrom {s t before : List Char} (ht : IsKelvinless t)
    (h : lowerFrom before s = t) : s.map Char.toLower = t := by
  induction s generalizing t before with
  | nil => exact h
  | cons c s ih =>
    subst h
    rw [lowerFrom] at ht ⊢
    obtain ⟨hlow, hs⟩ := List.forall_mem_append.mp ht
    -- the marks that are no single letters have small letters outside ASCII
    have hsigma : ¬c.toNat = 0x3a3 := by
      intro hsigma
      rw [if_pos hsigma] at hlow
      split at hlow
      · exact absurd (hlow _ List.mem_cons_self).1 (by decide)
      · exact absurd (hlow _ List.mem_cons_self).1 (by decide)
    have hdotted : ¬c.toNat = 0x130 := by
      intro hdotted
      rw [if_neg hsigma, if_pos hdotted] at hlow
      exact absurd (hlow (Char.ofNat 0x307) (by simp)).1 (by decide)
    rw [if_neg hsigma, if_neg hdotted] at hlow ⊢
    obtain ⟨hascii, hk⟩ := hlow (lowerChar c) List.mem_cons_self
    have hc : c.toNat < 128 := by
      by_contra houtside
      rcases lowerChar_of_outside (Nat.not_lt.mp houtside) with hkelvin | hstays
      · exact hk hkelvin
      · omega
    rw [List.map_cons, ih hs rfl, lowerChar_of_ascii hc]
    rfl

/-- A text is the lower case of its spellings in other letter cases, and of nothing else. -/
theorem lower_eq_iff {s t : String} (ht : IsKelvinless t.toList) :
    lower s = t ↔ s.toList.map Char.toLower = t.toList := by
  rw [lower, ← String.toList_inj, String.toList_ofList]
  exact ⟨map_toLower_of_lowerFrom ht, fun h => lowerFrom_of_map_toLower ht h []⟩

end Storybind.Text
