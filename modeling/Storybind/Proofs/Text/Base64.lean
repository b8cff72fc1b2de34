import Mathlib.Tactic
import Storybind.Text.Base64

/-!
Base 64 text reads back as the bytes it was written for. Groups of three bytes are read one after the
other, and the last group ends where its padding says.
-/

namespace Storybind.Text

theorem value_digit : ∀ n ∈ List.range 64,
    base64Value? (base64Digit n) = some n ∧ base64Digit n ≠ '=' := by
  decide

section

variable {n quad left digits pads : Nat} {cs : List Char}

/-- What a digit adds, by its place in the group: the first one gives no byte yet, and each other one
completes a byte with the bits that are left. -/
theorem unbase64From_digit (h : n < 64) :
    unbase64From quad left digits pads (base64Digit n :: cs) =
      match quad with
      | 0 => unbase64From 1 n (digits + 1) 0 cs
      | 1 => (unbase64From 2 (n % 16) (digits + 1) 0 cs).map ((left * 4 + n / 16).toUInt8 :: ·)
      | 2 => (unbase64From 3 (n % 4) (digits + 1) 0 cs).map ((left * 16 + n / 4).toUInt8 :: ·)
      | _ => (unbase64From 0 0 (digits + 1) 0 cs).map ((left * 64 + n).toUInt8 :: ·) := by
  obtain ⟨hvalue, hpad⟩ := value_digit n (List.mem_range.mpr h)
  rw [unbase64From, if_neg hpad, hvalue]
  match quad with
  | 0 => rfl
  | 1 => rfl
  | 2 => rfl
  | k + 3 => rfl

theorem toUInt8_of_eq {byte : UInt8} (h : n = byte.toNat) : n.toUInt8 = byte := by
  subst h
  exact UInt8.ofNat_toNat

/-- Two digits give a byte, and the bits that the second one holds besides. -/
theorem unbase64From_byte (a : UInt8) {low : Nat} (hlow : low < 16) :
    unbase64From 0 left digits pads
        (base64Digit (a.toNat / 4) :: base64Digit (a.toNat % 4 * 16 + low) :: cs) =
      (unbase64From 2 low (digits + 2) 0 cs).map (a :: ·) := by
  have ha : a.toNat < 256 := a.toNat_lt
  have hbyte : (a.toNat / 4 * 4 + (a.toNat % 4 * 16 + low) / 16).toUInt8 = a :=
    toUInt8_of_eq (by omega)
  have hleft : (a.toNat % 4 * 16 + low) % 16 = low := by omega
  simp only [unbase64From_digit (show a.toNat / 4 < 64 by omega),
    unbase64From_digit (show a.toNat % 4 * 16 + low < 64 by omega), hbyte, hleft]

theorem unbase64From_nextByte (b : UInt8) {low : Nat} (hlow : low < 4) :
    unbase64From 2 (b.toNat / 16) digits pads (base64Digit (b.toNat % 16 * 4 + low) :: cs) =
      (unbase64From 3 low (digits + 1) 0 cs).map (b :: ·) := by
  have hb : b.toNat < 256 := b.toNat_lt
  have hbyte : (b.toNat / 16 * 16 + (b.toNat % 16 * 4 + low) / 4).toUInt8 = b :=
    toUInt8_of_eq (by omega)
  have hleft : (b.toNat % 16 * 4 + low) % 4 = low := by omega
  simp only [unbase64From_digit (show b.toNat % 16 * 4 + low < 64 by omega), hbyte, hleft]

theorem unbase64From_lastByte (c : UInt8) :
    unbase64From 3 (c.toNat / 64) digits pads (base64Digit (c.toNat % 64) :: cs) =
      (unbase64From 0 0 (digits + 1) 0 cs).map (c :: ·) := by
  have hbyte : (c.toNat / 64 * 64 + c.toNat % 64).toUInt8 = c := toUInt8_of_eq (by omega)
  simp only [unbase64From_digit (show c.toNat % 64 < 64 by omega), hbyte]

end

/-- The base 64 characters of a byte string, group by group. -/
def base64Chars : Bytes → List Char
  | [] => []
  | [a] => base64Group a.toNat none none
  | [a, b] => base64Group a.toNat (some b.toNat) none
  | a :: b :: c :: rest => base64Group a.toNat (some b.toNat) (some c.toNat) ++ base64Chars rest

theorem reverse_base64Onto (bytes : Bytes) (done : List Char) :
    (base64Onto done bytes).reverse = done.reverse ++ base64Chars bytes := by
  induction bytes using base64Chars.induct generalizing done with
  | case1 => rw [base64Onto, base64Chars, List.append_nil]
  | case2 a => rw [base64Onto, base64Chars, List.reverse_append, List.reverse_reverse]
  | case3 a b => rw [base64Onto, base64Chars, List.reverse_append, List.reverse_reverse]
  | case4 a b c rest ih =>
    rw [base64Onto, ih, base64Chars, List.reverse_append, List.reverse_reverse, List.append_assoc]

theorem unbase64From_base64Chars (bytes : Bytes) (digits pads : Nat) :
    unbase64From 0 0 digits pads (base64Chars bytes) = .ok bytes := by
  -- the induction goes over whole groups, so the counts of digits and padding are arbitrary
  induction bytes using base64Chars.induct generalizing digits pads with
  | case1 => rfl
  | case2 a =>
    have hgroup : base64Chars [a] = base64Digit (a.toNat / 4) ::
        base64Digit (a.toNat % 4 * 16 + 0) :: ['=', '='] := rfl
    rw [hgroup, unbase64From_byte a (by omega)]
    rfl
  | case3 a b =>
    have hb : b.toNat < 256 := b.toNat_lt
    have hgroup : base64Chars [a, b] = base64Digit (a.toNat / 4) ::
        base64Digit (a.toNat % 4 * 16 + b.toNat / 16) ::
        base64Digit (b.toNat % 16 * 4 + 0) :: ['='] := rfl
    rw [hgroup, unbase64From_byte a (by omega), unbase64From_nextByte b (by omega)]
    rfl
  | case4 a b c rest ih =>
    have hb : b.toNat < 256 := b.toNat_lt
    have hc : c.toNat < 256 := c.toNat_lt
    have hgroup : base64Chars (a :: b :: c :: rest) = base64Digit (a.toNat / 4) ::
        base64Digit (a.toNat % 4 * 16 + b.toNat / 16) ::
        base64Digit (b.toNat % 16 * 4 + c.toNat / 64) ::
        base64Digit (c.toNat % 64) :: base64Chars rest := rfl
    rw [hgroup, unbase64From_byte a (by omega), unbase64From_nextByte b (by omega),
      unbase64From_lastByte, ih]
    rfl

/-- Base 64 text reads back as the bytes it was written for. -/
theorem unbase64_base64 (bytes : Bytes) : unbase64 (base64 bytes) = .ok bytes := by
  rw [unbase64, base64, String.toList_ofList, reverse_base64Onto, List.reverse_nil, List.nil_append]
  exact unbase64From_base64Chars bytes 0 0

end Storybind.Text
