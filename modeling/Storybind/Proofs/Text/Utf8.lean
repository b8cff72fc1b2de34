import Mathlib.Tactic
import Storybind.Text.Utf8

/-!
The encoder agrees with the one that measures strings, and decoding undoes it, with replacement or
without.
-/

namespace Storybind.Text

theorem toNat_lt (c : Char) : c.toNat < 0x110000 := by
  rcases c.valid with h | h
  · exact Nat.lt_trans h (by decide)
  · exact h.2

theorem encodeChar_eq (c : Char) : encodeChar c = String.utf8EncodeChar c := by
  have hc := toNat_lt c
  unfold encodeChar String.utf8EncodeChar
  rw [show c.val.toNat = c.toNat from rfl]
  generalize c.toNat = n at hc
  have e1 : (n < 0x80) = (n ≤ 0x7f) := propext ⟨by omega, by omega⟩
  have e2 : (n < 0x800) = (n ≤ 0x7ff) := propext ⟨by omega, by omega⟩
  have e3 : (n < 0x10000) = (n ≤ 0xffff) := propext ⟨by omega, by omega⟩
  simp only [e1, e2, e3]
  split
  · rfl
  split
  · rw [Nat.mod_eq_of_lt (by omega : n / 64 < 0x20), Nat.add_comm 0xc0, Nat.add_comm 0x80]
  split
  · rw [Nat.mod_eq_of_lt (by omega : n / 4096 < 0x10), Nat.add_comm 0xe0,
      Nat.add_comm 0x80 (n / 64 % 64), Nat.add_comm 0x80]
  · rw [Nat.mod_eq_of_lt (by omega : n / 262144 < 0x08), Nat.add_comm 0xf0,
      Nat.add_comm 0x80 (n / 4096 % 64), Nat.add_comm 0x80 (n / 64 % 64), Nat.add_comm 0x80]

/-- A text has as many bytes as its measured size says. -/
theorem length_encode (s : String) : (encode s).length = s.utf8ByteSize := by
  have h : s.toByteArray.size = (s.toList.flatMap String.utf8EncodeChar).length := by
    rw [← String.utf8Encode_toList, List.utf8Encode, List.size_toByteArray]
  have he : encodeChar = String.utf8EncodeChar := funext encodeChar_eq
  rw [← String.size_toByteArray, h, encode, he]

theorem ofNat_eq {n : Nat} (c : Char) (h : n = c.toNat) : Char.ofNat n = c := by
  subst h
  exact Char.ofNat_toNat c

theorem toNat_toUInt8 {n : Nat} (h : n < 256) : n.toUInt8.toNat = n := by
  simpa using Nat.mod_eq_of_lt h

/-- The bytes of a character at the head of a byte string are read as that character. -/
theorem utf8Head_encodeChar (c : Char) :
    ∃ b tail, encodeChar c = b :: tail ∧ ∀ more : List Nat,
      utf8Head b.toNat (tail.map UInt8.toNat ++ more) = .char c (tail.length + 1) := by
  have hc := toNat_lt c
  -- no character is a surrogate, so no three bytes are turned down
  have hsur : ¬(0xd800 ≤ c.toNat ∧ c.toNat < 0xe000) := by
    rcases c.valid with h | h
    · exact fun hn => absurd (show c.toNat < 0xd800 from h) (by omega)
    · exact fun hn => absurd (show 0xdfff < c.toNat from h.1) (by omega)
  simp only [encodeChar]
  split
  · next h1 =>
    refine ⟨_, [], rfl, fun more => ?_⟩
    rw [toNat_toUInt8 (by omega)]
    simp [utf8Head, h1]
  split
  · next h1 h2 =>
    refine ⟨_, [_], rfl, fun more => ?_⟩
    rw [List.map_singleton, toNat_toUInt8 (by omega), toNat_toUInt8 (by omega)]
    unfold utf8Head
    rw [if_neg (by omega), if_neg (by simp; omega), if_pos (by omega)]
    simp only [List.cons_append]
    rw [if_pos (by simp [isContinuation]; omega), ofNat_eq c (by omega)]
    rfl
  split
  · next h1 h2 h3 =>
    refine ⟨_, [_, _], rfl, fun more => ?_⟩
    rw [List.map_cons, List.map_singleton, toNat_toUInt8 (by omega), toNat_toUInt8 (by omega),
      toNat_toUInt8 (by omega)]
    unfold utf8Head
    rw [if_neg (by omega), if_neg (by simp; omega), if_neg (by omega), if_pos (by omega)]
    simp only [List.cons_append]
    rw [if_neg (by simp [secondFits, isContinuation]; omega),
      if_pos (by simp [isContinuation]; omega), ofNat_eq c (by omega)]
    rfl
  · next h1 h2 h3 =>
    refine ⟨_, [_, _, _], rfl, fun more => ?_⟩
    rw [List.map_cons, List.map_cons, List.map_singleton, toNat_toUInt8 (by omega),
      toNat_toUInt8 (by omega), toNat_toUInt8 (by omega), toNat_toUInt8 (by omega)]
    unfold utf8Head
    rw [if_neg (by omega), if_neg (by simp; omega), if_neg (by omega), if_neg (by omega)]
    simp only [List.cons_append]
    rw [if_neg (by simp [secondFits, isContinuation]; omega),
      if_neg (by simp [isContinuation]; omega), if_pos (by simp [isContinuation]; omega),
      ofNat_eq c (by omega)]
    rfl

theorem decodeLossyFrom_skip (front rest : Bytes) :
    decodeLossyFrom front.length (front ++ rest) = decodeLossyFrom 0 rest := by
  induction front with
  | nil => rfl
  | cons b front ih => simpa only [List.length_cons, List.cons_append, decodeLossyFrom] using ih

theorem length_encodeChar_le (c : Char) : (encodeChar c).length ≤ 4 := by
  simp only [encodeChar]
  split
  · simp
  split
  · simp
  split <;> simp

theorem decodeLossyFrom_encodeChar (c : Char) (rest : Bytes) :
    decodeLossyFrom 0 (encodeChar c ++ rest) = c :: decodeLossyFrom 0 rest := by
  obtain ⟨b, tail, hbt, hread⟩ := utf8Head_encodeChar c
  have hlen : tail.length ≤ 3 := by
    have := length_encodeChar_le c
    rw [hbt, List.length_cons] at this
    omega
  -- three bytes behind the first are looked at, whatever belongs to the character
  have htake : ((tail ++ rest).take 3).map UInt8.toNat =
      tail.map UInt8.toNat ++ (rest.take (3 - tail.length)).map UInt8.toNat := by
    rw [List.take_append, List.take_of_length_le hlen, List.map_append]
  rw [hbt, List.cons_append, decodeLossyFrom, htake, hread]
  simpa using decodeLossyFrom_skip tail rest

/-- Decoding with replacement gives an encoded text back. -/
theorem decodeLossy_encode (s : String) : decodeLossy (encode s) = s := by
  have h (cs : List Char) : decodeLossyFrom 0 (cs.flatMap encodeChar) = cs := by
    induction cs with
    | nil => rfl
    | cons c cs ih => rw [List.flatMap_cons, decodeLossyFrom_encodeChar, ih]
  rw [decodeLossy, encode, h, String.ofList_toList]

theorem decodeFrom_skip (front rest : Bytes) (pos : Nat) :
    decodeFrom pos front.length (front ++ rest) = decodeFrom (pos + front.length) 0 rest := by
  induction front generalizing pos with
  | nil => rfl
  | cons b front ih =>
    rw [List.length_cons, List.cons_append, decodeFrom, ih, Nat.add_right_comm]
    rfl

/-- What encodes characters is decoded as them, wherever it stands. -/
theorem decodeFrom_encode (cs : List Char) (pos : Nat) :
    decodeFrom pos 0 (cs.flatMap encodeChar) = .ok cs := by
  induction cs generalizing pos with
  | nil => rfl
  | cons c cs ih =>
    obtain ⟨b, tail, hbt, hread⟩ := utf8Head_encodeChar c
    have hlen : tail.length ≤ 3 := by
      have := length_encodeChar_le c
      rw [hbt, List.length_cons] at this
      omega
    have htake : ((tail ++ cs.flatMap encodeChar).take 3).map UInt8.toNat = tail.map UInt8.toNat ++
        ((cs.flatMap encodeChar).take (3 - tail.length)).map UInt8.toNat := by
      rw [List.take_append, List.take_of_length_le hlen, List.map_append]
    rw [List.flatMap_cons, hbt, List.cons_append, decodeFrom, htake, hread]
    simp only [Nat.add_sub_cancel, decodeFrom_skip, ih]
    rfl

theorem unifyLineEnds_of_not_mem {cs : List Char} (h : '\r' ∉ cs) : unifyLineEnds cs = cs := by
  induction cs with
  | nil => rfl
  | cons c cs ih =>
    obtain ⟨hc, hcs⟩ := not_or.mp (mt List.mem_cons.mpr h)
    rw [unifyLineEnds.eq_def]
    split
    · next heq => cases heq
    · next heq => exact absurd (List.cons.inj heq).1.symm hc
    · next heq => exact absurd (List.cons.inj heq).1.symm hc
    · next heq =>
      cases heq
      rw [ih hcs]

/-- A text file without carriage returns is read as it was written. -/
theorem decodeFile_encode {s : String} (h : '\r' ∉ s.toList) : decodeFile (encode s) = .ok s := by
  rw [decodeFile, encode, decodeFrom_encode, Except.map, unifyLineEnds_of_not_mem h,
    String.ofList_toList]

end Storybind.Text
