/-
  Base64 read back: the bytes that a text was written for are read from it.

  What is written has whole groups of four digits, and then the two or three digits of the bytes
  that are left over. Padding fills up the last group; the reading ends where it is full.
-/
import Weblog.Bytes.Base64Url
import Weblog.Proofs.Bytes.Utf8

namespace Weblog.Bytes.Base64Url

/-! ## Digits -/

/-- The byte of a digit. -/
def digitByte (n : Nat) : UInt8 := byte (digit n).toNat

theorem value?_digitByte {n : Nat} (h : n < 64) : value? (digitByte n) = some n := by
  have table : ∀ d < 64, value? (digitByte d) = some d := by decide
  exact table n h

theorem digitByte_ne_pad {n : Nat} (h : n < 64) : (digitByte n).toNat ≠ '='.toNat := by
  have table : ∀ d < 64, (digitByte d).toNat ≠ '='.toNat := by decide
  exact table n h

theorem utf8Char_digit {n : Nat} (h : n < 64) : utf8Char (digit n) = [digitByte n] := by
  have table : ∀ d < 64, utf8Char (digit d) = [digitByte d] := by decide
  exact table n h

theorem toNat_lt (a : UInt8) : a.toNat < 256 := a.toNat_lt

/-- All that is written is digits. -/
theorem exists_digit {bs : Bytes} {c : Char} (h : c ∈ encode bs) : ∃ n < 64, c = digit n := by
  induction bs using encode.induct with
  | case1 => cases h
  | case2 a =>
    have ha := toNat_lt a
    simp only [encode, List.mem_cons, List.not_mem_nil, or_false] at h
    rcases h with rfl | rfl
    · exact ⟨_, by omega, rfl⟩
    · exact ⟨_, by omega, rfl⟩
  | case3 a b =>
    have ha := toNat_lt a
    have hb := toNat_lt b
    simp only [encode, List.mem_cons, List.not_mem_nil, or_false] at h
    rcases h with rfl | rfl | rfl
    · exact ⟨_, by omega, rfl⟩
    · exact ⟨_, by omega, rfl⟩
    · exact ⟨_, by omega, rfl⟩
  | case4 a b c rest ih =>
    have ha := toNat_lt a
    have hb := toNat_lt b
    have hc := toNat_lt c
    simp only [encode, List.mem_cons] at h
    rcases h with rfl | rfl | rfl | rfl | h
    · exact ⟨_, by omega, rfl⟩
    · exact ⟨_, by omega, rfl⟩
    · exact ⟨_, by omega, rfl⟩
    · exact ⟨_, by omega, rfl⟩
    · exact ih h

/-! ## Padding -/

/-- Padding looks at the length beyond whole groups only. -/
theorem padded_group (a b c d : UInt8) (rest : Bytes) :
    padded (a :: b :: c :: d :: rest) = a :: b :: c :: d :: padded rest := by
  have same : (a :: b :: c :: d :: rest).length % 4 = rest.length % 4 := by
    rw [List.length_cons, List.length_cons, List.length_cons, List.length_cons]
    omega
  unfold padded
  rw [same]
  split
  · rfl
  · rfl

/-! ## Reading digits -/

section Reading

variable {v : Nat} (rest : Bytes) (bits pads : Nat)

theorem decodeFrom_first (h : v < 64) :
    decodeFrom ⟨0, bits, pads⟩ (digitByte v :: rest) = decodeFrom ⟨1, v, 0⟩ rest := by
  rw [decodeFrom, if_neg (digitByte_ne_pad h), value?_digitByte h]
  rfl

theorem decodeFrom_second (h : v < 64) :
    decodeFrom ⟨1, bits, pads⟩ (digitByte v :: rest) =
      (decodeFrom ⟨2, v % 16, 0⟩ rest).map (byte (bits * 4 + v / 16) :: ·) := by
  rw [decodeFrom, if_neg (digitByte_ne_pad h), value?_digitByte h]
  rfl

theorem decodeFrom_third (h : v < 64) :
    decodeFrom ⟨2, bits, pads⟩ (digitByte v :: rest) =
      (decodeFrom ⟨3, v % 4, 0⟩ rest).map (byte (bits * 16 + v / 4) :: ·) := by
  rw [decodeFrom, if_neg (digitByte_ne_pad h), value?_digitByte h]
  rfl

theorem decodeFrom_fourth (h : v < 64) :
    decodeFrom ⟨3, bits, pads⟩ (digitByte v :: rest) =
      (decodeFrom ⟨0, 0, 0⟩ rest).map (byte (bits * 64 + v) :: ·) := by
  rw [decodeFrom, if_neg (digitByte_ne_pad h), value?_digitByte h]
  rfl

end Reading

theorem byte_of_eq {a : UInt8} {n : Nat} (h : n = a.toNat) : byte n = a := by
  rw [h, byte, UInt8.ofNat_toNat]

/-- A whole group gives its three bytes. -/
theorem decodeFrom_group (a b c : UInt8) (rest : Bytes) :
    decodeFrom ⟨0, 0, 0⟩ (digitByte (a.toNat / 4) ::
        digitByte (a.toNat % 4 * 16 + b.toNat / 16) ::
        digitByte (b.toNat % 16 * 4 + c.toNat / 64) :: digitByte (c.toNat % 64) :: rest) =
      (decodeFrom ⟨0, 0, 0⟩ rest).map fun bs => a :: b :: c :: bs := by
  have ha := toNat_lt a
  have hb := toNat_lt b
  have hc := toNat_lt c
  rw [decodeFrom_first _ _ _ (by omega), decodeFrom_second _ _ _ (by omega),
    decodeFrom_third _ _ _ (by omega), decodeFrom_fourth _ _ _ (by omega), byte_of_eq (a := a) (by omega),
    byte_of_eq (a := b) (by omega), byte_of_eq (a := c) (by omega), Option.map_map, Option.map_map]
  rfl

/-! ## Round trip -/

/-- The bytes that a text was written for are read from it. -/
theorem decode?_encode (bs : Bytes) : decode? (utf8 (encode bs)) = some bs := by
  induction bs using encode.induct with
  | case1 => rfl
  | case2 a =>
    have ha := toNat_lt a
    rw [encode, utf8_cons, utf8_cons, utf8_nil, utf8Char_digit (by omega),
      utf8Char_digit (by omega), decode?]
    have filled : padded ([digitByte (a.toNat / 4)] ++ ([digitByte (a.toNat % 4 * 16)] ++ [])) =
      [digitByte (a.toNat / 4), digitByte (a.toNat % 4 * 16), byte '='.toNat, byte '='.toNat] := rfl
    have ends : decodeFrom ⟨2, a.toNat % 4 * 16 % 16, 0⟩ [byte '='.toNat, byte '='.toNat] =
      some [] := rfl
    rw [filled, decodeFrom_first _ _ _ (by omega), decodeFrom_second _ _ _ (by omega), ends,
      byte_of_eq (a := a) (by omega)]
    rfl
  | case3 a b =>
    have ha := toNat_lt a
    have hb := toNat_lt b
    rw [encode, utf8_cons, utf8_cons, utf8_cons, utf8_nil, utf8Char_digit (by omega),
      utf8Char_digit (by omega), utf8Char_digit (by omega), decode?]
    have filled : padded ([digitByte (a.toNat / 4)] ++ ([digitByte (a.toNat % 4 * 16 +
        b.toNat / 16)] ++ ([digitByte (b.toNat % 16 * 4)] ++ []))) =
      [digitByte (a.toNat / 4), digitByte (a.toNat % 4 * 16 + b.toNat / 16),
        digitByte (b.toNat % 16 * 4), byte '='.toNat] := rfl
    have ends : decodeFrom ⟨3, b.toNat % 16 * 4 % 4, 0⟩ [byte '='.toNat] = some [] := rfl
    rw [filled, decodeFrom_first _ _ _ (by omega), decodeFrom_second _ _ _ (by omega),
      decodeFrom_third _ _ _ (by omega), ends, byte_of_eq (a := a) (by omega),
      byte_of_eq (a := b) (by omega)]
    rfl
  | case4 a b c rest ih =>
    have ha := toNat_lt a
    have hb := toNat_lt b
    have hc := toNat_lt c
    rw [encode, utf8_cons, utf8_cons, utf8_cons, utf8_cons, utf8Char_digit (by omega),
      utf8Char_digit (by omega), utf8Char_digit (by omega), utf8Char_digit (by omega), decode?]
    simp only [List.cons_append, List.nil_append]
    rw [padded_group, decodeFrom_group]
    rw [decode?] at ih
    rw [ih]
    rfl

/-! ## Texts without padding -/

/-- A text without padding: letters, digits, `-` and `_` only, of a length that some bytes have. -/
def IsUnpadded (cs : List Char) : Prop :=
  (∀ c ∈ cs, c.isAlphanum = true ∨ c = '-' ∨ c = '_') ∧ cs.length % 4 ≠ 1

theorem length_encode_mod (bs : Bytes) : (encode bs).length % 4 ≠ 1 := by
  induction bs using encode.induct with
  | case1 => decide
  | case2 a => exact (by decide : 2 % 4 ≠ 1)
  | case3 a b => exact (by decide : 3 % 4 ≠ 1)
  | case4 a b c rest ih =>
    simp only [encode, List.length_cons]
    omega

theorem isUnpadded_encode (bs : Bytes) : IsUnpadded (encode bs) := by
  refine ⟨fun c hc => ?_, length_encode_mod bs⟩
  obtain ⟨n, hn, rfl⟩ := exists_digit hc
  have table : ∀ d < 64, (digit d).isAlphanum = true ∨ digit d = '-' ∨ digit d = '_' := by decide
  exact table n hn

end Weblog.Bytes.Base64Url
