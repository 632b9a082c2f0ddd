/-
  UTF-8 read back: the bytes of a text are read as that text.

  The argument goes character by character. A first byte announces how many bytes follow and within
  which bounds (`lead?`), and the bytes of a character keep to what its first byte announces. The
  bounds differ for the first bytes 0xE0, 0xED, 0xF0 and 0xF4, which is where a character could be
  written too long, be a surrogate, or lie past U+10FFFF.
-/
import Weblog.Bytes.Encoding

namespace Weblog.Bytes

variable {surrogates : Bool}

theorem toNat_byte {n : Nat} (h : n < 256) : (byte n).toNat = n := by
  rw [byte, UInt8.toNat_ofNat', Nat.mod_eq_of_lt h]

/-! ## Characters as code points -/

/-- A character is no surrogate and lies below the end of the code space. -/
theorem charValid (c : Char) :
    c.toNat < 0xD800 ∨ 0xDFFF < c.toNat ∧ c.toNat < 0x110000 := c.valid

theorem charOf_toNat (c : Char) : charOf c.toNat = c := by
  have valid := charValid c
  rw [charOf, if_neg (by omega), Char.ofNat_toNat]

/-! ## Following bytes -/

/-- A byte that follows carries six bits. -/
theorem takeFollow_byte {n low high v x : Nat} (rest : Bytes) (hx : x < 0x40)
    (hlow : low ≤ 0x80 + x) (hhigh : 0x80 + x ≤ high) :
    takeFollow (n + 1) low high v (byte (0x80 + x) :: rest) =
      takeFollow n 0x80 0xBF (v * 0x40 + x) rest := by
  rw [takeFollow, toNat_byte (by omega), if_pos ⟨hlow, hhigh⟩]
  congr 1
  omega

theorem takeFollow_zero {low high v : Nat} (rest : Bytes) :
    takeFollow 0 low high v rest = (some v, rest) := rfl

/-! ## First bytes -/

theorem takeCode_of_lead {b follow low high bits : Nat} (rest : Bytes) (hb : b < 256)
    (h : lead? surrogates b = some ⟨follow, low, high, bits⟩) :
    takeCode surrogates (byte b) rest = takeFollow follow low high bits rest := by
  rw [takeCode, toNat_byte hb, h]

theorem lead?_one {b : Nat} (h : b < 0x80) : lead? surrogates b = some ⟨0, 0x80, 0xBF, b⟩ := by
  rw [lead?, if_pos h]

theorem lead?_two {x : Nat} (low : 2 ≤ x) (high : x < 0x20) :
    lead? surrogates (0xC0 + x) = some ⟨1, 0x80, 0xBF, x⟩ := by
  rw [lead?, if_neg (by omega), if_neg (by omega), if_pos (by omega), Nat.add_sub_cancel_left]

/-- The bounds of the byte after the first of three. -/
theorem lead?_three (surrogates : Bool) {x : Nat} (h : x < 0x10) : ∃ low high,
    lead? surrogates (0xE0 + x) = some ⟨2, low, high, x⟩ ∧
      (x = 0 → low = 0xA0) ∧ (x ≠ 0 → low = 0x80) ∧
      (x = 0xD → 0x9F ≤ high) ∧ (x ≠ 0xD → high = 0xBF) := by
  by_cases zero : x = 0
  · subst zero
    exact ⟨0xA0, 0xBF, rfl, by simp⟩
  by_cases gap : x = 0xD
  · subst gap
    cases surrogates with
    | false => exact ⟨0x80, 0x9F, rfl, by simp⟩
    | true => exact ⟨0x80, 0xBF, rfl, by simp⟩
  refine ⟨0x80, 0xBF, ?_, by simp [zero, gap]⟩
  rw [lead?, if_neg (by omega), if_neg (by omega), if_neg (by omega), if_neg (by omega),
    if_neg (by omega), if_pos (by omega), Nat.add_sub_cancel_left]

/-- The bounds of the byte after the first of four. -/
theorem lead?_four (surrogates : Bool) {x : Nat} (h : x ≤ 4) : ∃ low high,
    lead? surrogates (0xF0 + x) = some ⟨3, low, high, x⟩ ∧
      (x = 0 → low = 0x90) ∧ (x ≠ 0 → low = 0x80) ∧
      (x = 4 → high = 0x8F) ∧ (x ≠ 4 → high = 0xBF) := by
  by_cases zero : x = 0
  · subst zero
    exact ⟨0x90, 0xBF, rfl, by simp⟩
  by_cases last : x = 4
  · subst last
    exact ⟨0x80, 0x8F, rfl, by simp⟩
  refine ⟨0x80, 0xBF, ?_, by simp [zero, last]⟩
  rw [lead?, if_neg (by omega), if_neg (by omega), if_neg (by omega), if_neg (by omega),
    if_neg (by omega), if_neg (by omega), if_neg (by omega), if_pos (by omega),
    Nat.add_sub_cancel_left]

/-! ## Characters -/

section Characters

variable {n : Nat} (rest : Bytes)

theorem takeCode_one (h : n < 0x80) : takeCode surrogates (byte n) rest = (some n, rest) := by
  rw [takeCode_of_lead rest (by omega) (lead?_one h), takeFollow_zero]

theorem takeCode_two (low : 0x80 ≤ n) (high : n < 0x800) :
    takeCode surrogates (byte (0xC0 + n / 0x40)) (byte (0x80 + n % 0x40) :: rest) =
      (some n, rest) := by
  rw [takeCode_of_lead _ (by omega) (lead?_two (by omega) (by omega)),
    takeFollow_byte rest (by omega) (by omega) (by omega), takeFollow_zero]
  have whole : n / 0x40 * 0x40 + n % 0x40 = n := by omega
  rw [whole]

theorem takeCode_three (low : 0x800 ≤ n) (high : n < 0x10000)
    (valid : n < 0xD800 ∨ 0xDFFF < n) :
    takeCode surrogates (byte (0xE0 + n / 0x1000))
      (byte (0x80 + n / 0x40 % 0x40) :: byte (0x80 + n % 0x40) :: rest) = (some n, rest) := by
  obtain ⟨least, greatest, lead, zero, other, gap, free⟩ :=
    lead?_three surrogates (x := n / 0x1000) (by omega)
  rw [takeCode_of_lead _ (by omega) lead, takeFollow_byte _ (by omega) (by omega) (by omega),
    takeFollow_byte rest (by omega) (by omega) (by omega), takeFollow_zero]
  have whole : (n / 0x1000 * 0x40 + n / 0x40 % 0x40) * 0x40 + n % 0x40 = n := by omega
  rw [whole]

theorem takeCode_four (low : 0x10000 ≤ n) (high : n < 0x110000) :
    takeCode surrogates (byte (0xF0 + n / 0x40000)) (byte (0x80 + n / 0x1000 % 0x40) ::
      byte (0x80 + n / 0x40 % 0x40) :: byte (0x80 + n % 0x40) :: rest) = (some n, rest) := by
  obtain ⟨least, greatest, lead, zero, other, last, free⟩ :=
    lead?_four surrogates (x := n / 0x40000) (by omega)
  rw [takeCode_of_lead _ (by omega) lead, takeFollow_byte _ (by omega) (by omega) (by omega),
    takeFollow_byte _ (by omega) (by omega) (by omega),
    takeFollow_byte rest (by omega) (by omega) (by omega), takeFollow_zero]
  have whole : ((n / 0x40000 * 0x40 + n / 0x1000 % 0x40) * 0x40 + n / 0x40 % 0x40) * 0x40 +
      n % 0x40 = n := by omega
  rw [whole]

end Characters

/-- The bytes of a character are one piece, which is its code point. -/
theorem pieces_utf8Char (c : Char) (rest : Bytes) :
    pieces surrogates (utf8Char c ++ rest) = some c.toNat :: pieces surrogates rest := by
  have valid := charValid c
  unfold utf8Char
  simp only
  split
  · rename_i high
    rw [List.cons_append, List.nil_append, pieces, takeCode_one rest high]
  · rename_i low
    split
    · rename_i high
      rw [List.cons_append, List.cons_append, List.nil_append, pieces,
        takeCode_two rest (by omega) high]
    · split
      · rename_i _ high
        rw [List.cons_append, List.cons_append, List.cons_append, List.nil_append, pieces,
          takeCode_three rest (by omega) high (by omega)]
      · rw [List.cons_append, List.cons_append, List.cons_append, List.cons_append,
          List.nil_append, pieces, takeCode_four rest (by omega) (by omega)]

theorem pieces_utf8 (cs : List Char) :
    pieces surrogates (utf8 cs) = cs.map fun c => some c.toNat := by
  induction cs with
  | nil =>
    rw [utf8_nil, pieces]
    rfl
  | cons c cs ih => rw [utf8_cons, pieces_utf8Char, ih, List.map_cons]

/-- The bytes of a text are read as that text. -/
theorem toChars?_utf8 (surrogates : Bool) (cs : List Char) :
    toChars? surrogates (utf8 cs) = some cs := by
  rw [toChars?, pieces_utf8]
  induction cs with
  | nil => rfl
  | cons c cs ih =>
    rw [List.map_cons, List.mapM_cons, ih, Option.map_some, charOf_toNat]
    rfl

/-- In the bytes of a text nothing has to be replaced. -/
theorem toTextLossy_ofText (s : String) : toTextLossy (ofText s) = s := by
  have whole : (pieces false (ofText s)).map (fun p => (p.map charOf).getD '\uFFFD') = s.toList := by
    rw [ofText, pieces_utf8, List.map_map]
    exact (List.map_congr_left fun c _ => charOf_toNat c).trans (List.map_id _)
  rw [toTextLossy, whole, String.ofList_toList]

/-- Different texts have different bytes. -/
theorem ofText_injective : Function.Injective ofText := by
  intro a b same
  have read := congrArg (toChars? false) same
  rw [ofText, ofText, toChars?_utf8, toChars?_utf8] at read
  exact String.toList_inj.mp (Option.some.inj read)

/-! ## Bytes of JSON -/

/-- Bytes that begin with an open brace and a quote are told to be UTF-8. -/
theorem detect_object (rest : Bytes) :
    detect (0x7B :: 0x22 :: rest) = (.utf8, 0x7B :: 0x22 :: rest) := by
  rcases rest with _ | ⟨c, _ | ⟨d, rest⟩⟩
  · rfl
  · rfl
  · rfl

/-- The text of an object with a field is read from its bytes. -/
theorem jsonChars?_object (cs : List Char) :
    jsonChars? (utf8 ('\x7b' :: '"' :: cs)) = some ('\x7b' :: '"' :: cs) := by
  have written : utf8 ('\x7b' :: '"' :: cs) = 0x7B :: 0x22 :: utf8 cs := rfl
  have told : detect (utf8 ('\x7b' :: '"' :: cs)) = (.utf8, utf8 ('\x7b' :: '"' :: cs)) := by
    rw [written, detect_object]
  rw [jsonChars?, told]
  exact toChars?_utf8 true _

end Weblog.Bytes
