import Mathlib.Tactic
import Storybind.Json.Reader
import Storybind.Json.Writer
import Storybind.Proofs.Text.Replace
import Storybind.Proofs.Text.Utf8

/-!
Texts between quotes. Each character may be spelled in several ways; whatever the spellings are, the
text reads as its characters. Replacing a pair of characters by the first and another spelling of the
second leaves the characters as they are.
-/

namespace Storybind.Json

/-- The spellings of a character between quotes: itself, a short escape, or the escapes of its one or
two UTF-16 units. -/
inductive SpellsChar : List Char → Char → Prop
  | plain {c : Char} (hquote : c ≠ '\x22') (hslash : c ≠ '\\') (hcontrol : 32 ≤ c.toNat) :
      SpellsChar [c] c
  | short {e c : Char} (h : shortEscape? e = some c) : SpellsChar ['\\', e] c
  | code {p q r s : Char} {n : Nat} (h : unit? [p, q, r, s] = some n)
      (hn : n < 0xd800 ∨ 0xe000 ≤ n) : SpellsChar ['\\', 'u', p, q, r, s] (Char.ofNat n)
  | pair {p q r s p' q' r' s' : Char} {high low : Nat} (hhigh : unit? [p, q, r, s] = some high)
      (hlow : unit? [p', q', r', s'] = some low) (hfirst : 0xd800 ≤ high ∧ high < 0xdc00)
      (hsecond : 0xdc00 ≤ low ∧ low < 0xe000) :
      SpellsChar ['\\', 'u', p, q, r, s, '\\', 'u', p', q', r', s']
        (Char.ofNat (0x10000 + (high - 0xd800) * 1024 + (low - 0xdc00)))

theorem stringFrom_skip (start position : Nat) (front rest : List Char) :
    stringFrom start front.length position (front ++ rest) =
      stringFrom start 0 (position + front.length) rest := by
  induction front generalizing position with
  | nil => rfl
  | cons c front ih =>
    rw [List.length_cons, List.cons_append, stringFrom, ih]
    congr 1
    omega

theorem stringFrom_short (start position : Nat) {e c : Char} {cs : List Char}
    (h : shortEscape? e = some c) :
    stringFrom start 0 position ('\\' :: e :: cs) =
      (stringFrom start 0 (position + 2) cs).map fun r => (c :: r.1, r.2) := by
  -- the letter of the other kind of escape is none of the short ones
  have he : e ≠ 'u' := by
    rintro rfl
    have hnone : shortEscape? 'u' = none := by decide
    rw [hnone] at h
    cases h
  have hskip : stringFrom start 1 (position + 1) (e :: cs) = stringFrom start 0 (position + 2) cs :=
    stringFrom_skip start (position + 1) [e] cs
  rw [stringFrom, if_neg (by decide), if_neg (by decide), if_neg (by decide)]
  · simp only [h, hskip]
  · exact he

/-- The escape of a UTF-16 unit that is a character reads as that character. -/
theorem stringFrom_code (start position : Nat) {n : Nat} {ds : List Char}
    (h : unit? ds = some n) (hn : n < 0xd800 ∨ 0xe000 ≤ n) (hrest : ds.drop 4 ≠ []) :
    stringFrom start 0 position ('\\' :: 'u' :: ds) =
      (stringFrom start 5 (position + 1) ('u' :: ds)).map fun r => (Char.ofNat n :: r.1, r.2) := by
  -- apart from the surrogates a unit is a character by itself
  have hfirst : (decide (0xd800 ≤ n) && decide (n < 0xdc00)) = false := by
    rw [← Bool.not_eq_true, Bool.and_eq_true, decide_eq_true_eq, decide_eq_true_eq]
    omega
  have halone : (decide (0xd800 ≤ n) && decide (n < 0xe000)) = false := by
    rw [← Bool.not_eq_true, Bool.and_eq_true, decide_eq_true_eq, decide_eq_true_eq]
    omega
  rw [stringFrom.eq_def start 0 position ('\\' :: 'u' :: ds)]
  simp only
  rw [if_neg (by decide), if_neg (by decide), if_neg (by decide), h]
  split
  · next hnone => cases hnone
  · next hnil _ => exact absurd hnil hrest
  · next high es hhigh _ =>
    obtain rfl := Option.some.inj hhigh
    simp only [hfirst, halone, Bool.false_and, Bool.false_eq_true, if_false]
  · next n' hn' _ _ =>
    obtain rfl := Option.some.inj hn'
    simp only [halone, Bool.false_eq_true, if_false]

/-- The escapes of two UTF-16 units that are one character read as that character. -/
theorem stringFrom_pair (start position : Nat) {high low : Nat} {ds es : List Char}
    (hhigh : unit? ds = some high) (hlow : unit? es = some low) (hes : ds.drop 4 = '\\' :: 'u' :: es)
    (hfirst : 0xd800 ≤ high ∧ high < 0xdc00) (hsecond : 0xdc00 ≤ low ∧ low < 0xe000)
    (hrest : 4 < es.length) :
    stringFrom start 0 position ('\\' :: 'u' :: ds) =
      (stringFrom start 11 (position + 1) ('u' :: ds)).map fun r =>
        (Char.ofNat (0x10000 + (high - 0xd800) * 1024 + (low - 0xdc00)) :: r.1, r.2) := by
  rw [stringFrom.eq_def start 0 position ('\\' :: 'u' :: ds)]
  simp only
  rw [if_neg (by decide), if_neg (by decide), if_neg (by decide), hhigh, hes]
  simp [hfirst, hsecond, hrest, hlow]

/-- A spelled character reads as that character. -/
theorem stringFrom_spellsChar {u rest : List Char} {c : Char} (h : SpellsChar u c)
    (hrest : rest ≠ []) (start position : Nat) :
    stringFrom start 0 position (u ++ rest) =
      (stringFrom start 0 (position + u.length) rest).map fun r => (c :: r.1, r.2) := by
  cases h with
  | plain hquote hslash hcontrol =>
    rw [List.singleton_append, stringFrom.eq_def]
    simp only
    rw [if_neg hquote, if_neg (by omega), if_pos hslash]
    rfl
  | short h => exact stringFrom_short start position h
  | @code p q r s n h hn =>
    have hunit : unit? (p :: q :: r :: s :: rest) = some n := h
    have hskip : stringFrom start 5 (position + 1) ('u' :: p :: q :: r :: s :: rest) =
        stringFrom start 0 (position + 6) rest :=
      stringFrom_skip start (position + 1) ['u', p, q, r, s] rest
    have hcode := stringFrom_code start position hunit hn hrest
    rw [hskip] at hcode
    exact hcode
  | @pair p q r s p' q' r' s' high low hhigh hlow hfirst hsecond =>
    have hskip := stringFrom_skip start (position + 1) ['u', p, q, r, s, '\\', 'u', p', q', r', s'] rest
    -- the second escape counts only where something stands behind it
    have hlength : 4 < (p' :: q' :: r' :: s' :: rest).length := by
      have hpos := List.length_pos_of_ne_nil hrest
      simp only [List.length_cons]
      omega
    have hhigh : unit? (p :: q :: r :: s :: '\\' :: 'u' :: p' :: q' :: r' :: s' :: rest) = some high := hhigh
    have hlow : unit? (p' :: q' :: r' :: s' :: rest) = some low := hlow
    have hpair := stringFrom_pair start position hhigh hlow rfl hfirst hsecond hlength
    exact hpair.trans (congrArg (Except.map _) hskip)

/-- The texts between quotes that spell a text. -/
inductive Literal : List Char → String → Prop
  | quoted {us : List (List Char)} {s : String} (h : List.Forall₂ SpellsChar us s.toList) :
      Literal ('\x22' :: (us.flatten ++ ['\x22'])) s

theorem stringFrom_flatten {us : List (List Char)} {cs : List Char}
    (h : List.Forall₂ SpellsChar us cs) (start position : Nat) (rest : List Char) :
    stringFrom start 0 position (us.flatten ++ '\x22' :: rest) =
      .ok (cs, position + us.flatten.length + 1) := by
  induction h generalizing position with
  | nil => rfl
  | @cons u c us cs hu _ ih =>
    rw [List.flatten_cons, List.append_assoc, stringFrom_spellsChar hu (by simp), ih,
      List.length_append, Nat.add_assoc position]
    rfl

/-- A text between quotes reads as the text that it spells. -/
theorem stringAt_literal {t : List Char} {s : String} (h : Literal t s) (rest : List Char)
    (position : Nat) :
    stringAt ⟨t ++ rest, position⟩ = .ok (s, ⟨rest, position + t.length⟩) := by
  cases h with
  | @quoted us _ h =>
    have hbody := stringFrom_flatten h position (position + 1) rest
    have hlength : position + 1 + us.flatten.length + 1 - position =
        ('\x22' :: (us.flatten ++ ['\x22'])).length := by
      rw [List.length_cons, List.length_append, List.length_singleton]
      omega
    have hdrop : (('\x22' :: (us.flatten ++ ['\x22'])) ++ rest).drop 1 =
        us.flatten ++ '\x22' :: rest := by simp
    rw [stringAt, hdrop, hbody]
    change Except.ok (String.ofList s.toList, Cursor.skip _ _) = _
    rw [String.ofList_toList, hlength, Cursor.skip, List.drop_left]

theorem hexValue?_hexDigit {n : Nat} (h : n < 16) : Text.hexValue? (Text.hexDigit n) = some n := by
  have hall : ∀ n < 16, Text.hexValue? (Text.hexDigit n) = some n := by decide
  exact hall n h

theorem unit?_hexPad {n : Nat} (h : n < 0x10000) : unit? (Text.hexPad 4 n) = some n := by
  have hdigits : Text.hexPad 4 n = [Text.hexDigit (n / 16 / 16 / 16 % 16),
      Text.hexDigit (n / 16 / 16 % 16), Text.hexDigit (n / 16 % 16), Text.hexDigit (n % 16)] := rfl
  have hvalue (m : Nat) : Text.hexValue? (Text.hexDigit (m % 16)) = some (m % 16) :=
    hexValue?_hexDigit (Nat.mod_lt m (by decide))
  have hsum : n / 16 / 16 / 16 % 16 * 4096 + n / 16 / 16 % 16 * 256 + n / 16 % 16 * 16 + n % 16 = n := by
    omega
  simp only [hdigits, unit?, hvalue, Option.bind_eq_bind, Option.bind_some, Option.pure_def, hsum]

theorem spellsChar_unitEscape {n : Nat} (h : n < 0x10000) (hn : n < 0xd800 ∨ 0xe000 ≤ n) :
    SpellsChar (unitEscape n) (Char.ofNat n) :=
  .code (unit?_hexPad h) hn

/-- The number of a character is none of a surrogate. -/
theorem toNat_not_surrogate (c : Char) : c.toNat < 0xd800 ∨ 0xe000 ≤ c.toNat := by
  rcases c.valid with h | h
  · exact .inl h
  · exact .inr (Nat.le_of_lt_succ (Nat.succ_lt_succ h.1))

theorem spellsChar_pairEscape {n : Nat} (hlow : 0x10000 ≤ n) (h : n < 0x110000) :
    SpellsChar (unitEscape (0xd800 + (n - 0x10000) / 1024) ++
      unitEscape (0xdc00 + (n - 0x10000) % 1024)) (Char.ofNat n) := by
  have hsum : 0x10000 + (0xd800 + (n - 0x10000) / 1024 - 0xd800) * 1024 +
      (0xdc00 + (n - 0x10000) % 1024 - 0xdc00) = n := by omega
  have hpair := SpellsChar.pair (unit?_hexPad (n := 0xd800 + (n - 0x10000) / 1024) (by omega))
    (unit?_hexPad (n := 0xdc00 + (n - 0x10000) % 1024) (by omega)) (by omega) (by omega)
  rwa [hsum] at hpair

/-- What is written for a character spells it. -/
theorem spellsChar_escapeChar (ascii : Bool) (c : Char) : SpellsChar (escapeChar ascii c) c := by
  simp only [escapeChar]
  split
  · next hc => exact SpellsChar.short (by rw [hc]; rfl)
  split
  · next hc => exact SpellsChar.short (by rw [hc]; rfl)
  split
  · next hc => exact SpellsChar.short (by rw [hc]; rfl)
  split
  · next hc => exact SpellsChar.short (by rw [hc]; rfl)
  split
  · next hc => exact SpellsChar.short (by rw [hc]; rfl)
  split
  · next hc => exact SpellsChar.short (by rw [← Char.ofNat_toNat c, hc]; rfl)
  split
  · next hc => exact SpellsChar.short (by rw [← Char.ofNat_toNat c, hc]; rfl)
  split
  · next hc =>
    have hcode := spellsChar_unitEscape (n := c.toNat) (by omega) (.inl (by omega))
    rwa [Char.ofNat_toNat] at hcode
  · next hquote hslash _ _ _ _ _ hcontrol =>
    split
    · split
      · next hplane =>
        have hcode := spellsChar_unitEscape hplane (toNat_not_surrogate c)
        rwa [Char.ofNat_toNat] at hcode
      · next hplane =>
        have hpair := spellsChar_pairEscape (n := c.toNat) (by omega) (Text.toNat_lt c)
        rwa [Char.ofNat_toNat] at hpair
    · exact SpellsChar.plain hquote hslash (by omega)

/-- What is written for a text spells it. -/
theorem literal_string (ascii : Bool) (s : String) : Literal (string ascii s) s := by
  have hspells : List.Forall₂ SpellsChar (s.toList.map (escapeChar ascii)) s.toList := by
    rw [List.forall₂_map_left_iff, List.forall₂_same]
    exact fun c _ => spellsChar_escapeChar ascii c
  have hwritten : string ascii s =
      '\x22' :: ((s.toList.map (escapeChar ascii)).flatten ++ ['\x22']) := rfl
  rw [hwritten]
  exact Literal.quoted hspells

/-- The characters of escapes. -/
def escapes : List Char := "\\\x22/bfnrtu0123456789abcdefABCDEF".toList

/-- The characters outside texts between quotes, but for the opening brace. -/
def frame : List Char := "[]\x7d\x22,: \n0123456789+-.eEtrufalsn".toList

/-- A pair of characters that only stands in texts between quotes, and another spelling of the second
of them. -/
structure IsGuard (a b : Char) (spelling : List Char) : Prop where
  first : a ∉ frame
  second : b ∉ frame
  escape : a ∉ escapes
  unescaped : b ≠ '\\'
  spells : SpellsChar spelling b

theorem mem_escapes_of_shortEscape? {e c : Char} (h : shortEscape? e = some c) : e ∈ escapes := by
  unfold shortEscape? at h
  split at h
  · next he =>
    simp only [Bool.or_eq_true, decide_eq_true_eq] at he
    rcases he with (rfl | rfl) | rfl <;> decide
  repeat' split at h
  all_goals first | (subst_vars; decide) | cases h

theorem mem_escapes_of_hexValue? {d : Char} {n : Nat} (h : Text.hexValue? d = some n) :
    d ∈ escapes := by
  have hall : ∀ n < 103, Text.hexValue? (Char.ofNat n) ≠ none → Char.ofNat n ∈ escapes := by decide
  have hd : d.toNat < 103 := by
    simp only [Text.hexValue?] at h
    split at h
    · next hd => simp at hd; omega
    split at h
    · next hd => simp at hd; omega
    split at h
    · next hd => simp at hd; omega
    · cases h
  have hmem := hall d.toNat hd
  rw [Char.ofNat_toNat] at hmem
  exact hmem (by rw [h]; exact Option.some_ne_none n)

theorem mem_escapes_of_unit? {p q r s : Char} {n : Nat} (h : unit? [p, q, r, s] = some n) :
    ∀ d ∈ [p, q, r, s], d ∈ escapes := by
  simp only [unit?, Option.bind_eq_bind, Option.bind_eq_some_iff] at h
  obtain ⟨_, hp, _, hq, _, hr, _, hs, -⟩ := h
  simp only [List.mem_cons, List.not_mem_nil, or_false]
  rintro d (rfl | rfl | rfl | rfl)
  · exact mem_escapes_of_hexValue? hp
  · exact mem_escapes_of_hexValue? hq
  · exact mem_escapes_of_hexValue? hr
  · exact mem_escapes_of_hexValue? hs

theorem mem_escapes_of_unitEscape {p q r s : Char} {n : Nat} (h : unit? [p, q, r, s] = some n) :
    ∀ d ∈ ['\\', 'u', p, q, r, s], d ∈ escapes := by
  intro d hd
  rcases List.mem_cons.mp hd with rfl | hd
  · decide
  rcases List.mem_cons.mp hd with rfl | hd
  · decide
  · exact mem_escapes_of_unit? h d hd

section Guard

variable {a b : Char} {spelling u t : List Char} {us : List (List Char)} {c : Char}

theorem eq_singleton_of_mem (hg : IsGuard a b spelling) (h : SpellsChar u c) (ha : a ∈ u) :
    u = [a] := by
  cases h with
  | plain _ _ _ => rw [List.mem_singleton.mp ha]
  | short h =>
    refine absurd ?_ hg.escape
    rcases List.mem_cons.mp ha with rfl | ha
    · decide
    · rw [List.mem_singleton.mp ha]
      exact mem_escapes_of_shortEscape? h
  | code h _ =>
    refine absurd ?_ hg.escape
    exact mem_escapes_of_unitEscape h a ha
  | @pair p q r s p' q' r' s' _ _ hhigh hlow _ _ =>
    refine absurd ?_ hg.escape
    have hunits : a ∈ ['\\', 'u', p, q, r, s] ++ ['\\', 'u', p', q', r', s'] := ha
    rcases List.mem_append.mp hunits with ha | ha
    · exact mem_escapes_of_unitEscape hhigh a ha
    · exact mem_escapes_of_unitEscape hlow a ha

theorem eq_singleton_of_head? (hg : IsGuard a b spelling) (h : SpellsChar u c)
    (hb : u.head? = some b) : u = [b] := by
  cases h with
  | plain _ _ _ => rw [Option.some.inj hb]
  | short _ => exact absurd (Option.some.inj hb).symm hg.unescaped
  | code _ _ => exact absurd (Option.some.inj hb).symm hg.unescaped
  | pair _ _ _ _ => exact absurd (Option.some.inj hb).symm hg.unescaped

theorem spellsChar_ne_nil (h : SpellsChar u c) : u ≠ [] := by
  cases h <;> exact List.cons_ne_nil _ _

/-- Spellings in which the second character of a pair has another one. -/
def pairUnits (a b : Char) (spelling : List Char) : List (List Char) → List (List Char)
  | [] => []
  | [u] => [u]
  | u :: u' :: us =>
    if u = [a] ∧ u' = [b] then [a] :: spelling :: pairUnits a b spelling us
    else u :: pairUnits a b spelling (u' :: us)

theorem spellsChar_pairUnits (hg : IsGuard a b spelling) {cs : List Char}
    (h : List.Forall₂ SpellsChar us cs) :
    List.Forall₂ SpellsChar (pairUnits a b spelling us) cs := by
  induction us using pairUnits.induct a b generalizing cs with
  | case1 => exact h
  | case2 u => exact h
  | case3 u u' us hpair ih =>
    obtain ⟨rfl, rfl⟩ := hpair
    cases h with
    | cons ha h =>
      cases h with
      -- the second character stands for itself, and its other spelling for it too
      | @cons _ c _ _ hb h =>
        have hc : c = b := by
          cases hb
          rfl
        rw [pairUnits, if_pos ⟨rfl, rfl⟩]
        exact List.Forall₂.cons ha (List.Forall₂.cons (hc ▸ hg.spells) (ih h))
  | case4 u u' us hpair ih =>
    cases h with
    | cons hu h =>
      rw [pairUnits, if_neg hpair]
      exact List.Forall₂.cons hu (ih h)

/-- Replacing the pair in spelled characters spells the second one otherwise. -/
theorem replacePair_flatten (hg : IsGuard a b spelling) {cs : List Char}
    (h : List.Forall₂ SpellsChar us cs) :
    Text.replacePair a b (a :: spelling) us.flatten = (pairUnits a b spelling us).flatten := by
  induction us using pairUnits.induct a b generalizing cs with
  | case1 => rfl
  | case2 u =>
    cases h with
    | cons hu h =>
      rw [pairUnits, List.flatten_singleton]
      by_cases ha : a ∈ u
      · rw [eq_singleton_of_mem hg hu ha]
        rfl
      · exact Text.replacePair_of_not_mem ha
  | case3 u u' us hpair ih =>
    obtain ⟨rfl, rfl⟩ := hpair
    cases h with
    | cons ha h =>
      cases h with
      | cons hb h =>
        rw [pairUnits, if_pos ⟨rfl, rfl⟩]
        simp only [List.flatten_cons, List.cons_append, List.nil_append]
        rw [Text.replacePair, if_pos ⟨rfl, rfl⟩, ih h, List.cons_append]
  | case4 u u' us hpair ih =>
    cases h with
    | cons hu h =>
      have hflat : (u :: pairUnits a b spelling (u' :: us)).flatten =
          u ++ Text.replacePair a b (a :: spelling) (u' :: us).flatten := by
        rw [List.flatten_cons, ih h]
      rw [pairUnits, if_neg hpair, hflat]
      change Text.replacePair a b (a :: spelling) (u ++ (u' :: us).flatten) = _
      by_cases ha : a ∈ u
      -- Where the first character of the pair ends a spelling, it is all of it.
      · obtain rfl := eq_singleton_of_mem hg hu ha
        cases h with
        | cons hu' h =>
          have hhead : (u' :: us).flatten.head? ≠ some b := by
            obtain ⟨d, ds, rfl⟩ := List.exists_cons_of_ne_nil (spellsChar_ne_nil hu')
            intro hd
            exact hpair ⟨rfl, eq_singleton_of_head? hg hu' hd⟩
          rw [Text.replacePair_append hhead]
          rfl
      · exact Text.replacePair_append_of_not_mem ha

/-- Guarding a text between quotes leaves what it spells. -/
theorem literal_replacePair (hg : IsGuard a b spelling) {s : String} (h : Literal t s) :
    Literal (Text.replacePair a b (a :: spelling) t) s := by
  cases h with
  | @quoted us _ h =>
    have hquote : '\x22' ≠ a := fun hq => hg.first (hq ▸ by decide)
    have hend : ['\x22'].head? ≠ some b := by
      intro hq
      exact hg.second (Option.some.inj hq ▸ by decide)
    rw [Text.replacePair_cons_of_ne hquote, Text.replacePair_append hend, replacePair_flatten hg h]
    exact Literal.quoted (spellsChar_pairUnits hg h)

end Guard

end Storybind.Json
