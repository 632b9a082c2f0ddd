/-
  Texts in quotes: every character is read back from the way it was written.

  `Escapes c w` says what is needed of a way `w` to write a character `c`: the reader takes one
  step for it, and the measure of depth passes over it. Both ways of writing characters have it.
  The reader looks one character beyond an escape of four digits, so that something has to follow;
  in a written text that is at least the closing quote.
-/
import Weblog.Json.Reader
import Weblog.Json.Writer

namespace Weblog

/-! ## Hexadecimal digits -/

namespace Text

theorem hexDigitValue?_of_lt {n : Nat} (h : n < 16) : hexDigitValue? (hexDigit n) = some n := by
  rw [hexDigitValue?_hexDigit, Nat.mod_eq_of_lt h]

theorem hexPadded_four (n : Nat) : hexPadded 4 n =
    [hexDigit (n / 16 / 16 / 16), hexDigit (n / 16 / 16), hexDigit (n / 16), hexDigit n] := rfl

/-- A hexadecimal digit is neither a quote nor a backslash. -/
theorem hexDigit_ne (n : Nat) : hexDigit n ≠ '"' ∧ hexDigit n ≠ '\\' := by
  have table : ∀ d < 16, hexDigit d ≠ '"' ∧ hexDigit d ≠ '\\' := by decide
  have h := table (n % 16) (Nat.mod_lt _ (by decide))
  simpa [hexDigit] using h

end Text

namespace Json

open Text (hexDigit hexPadded)

/-! ## Reading escapes -/

/-- Four digits are read as their number. -/
theorem readHex4_hexPadded {n : Nat} (h : n < 0x10000) {rest : List Char} (more : rest ≠ []) :
    readHex4 (hexPadded 4 n ++ rest) = some (n, rest) := by
  obtain ⟨c, cs, rfl⟩ := List.exists_cons_of_ne_nil more
  rw [Text.hexPadded_four]
  simp only [List.cons_append, List.nil_append, readHex4, Text.hexDigitValue?_hexDigit]
  have whole : ((n / 16 / 16 / 16 % 16 * 16 + n / 16 / 16 % 16) * 16 + n / 16 % 16) * 16 + n % 16 =
    n := by omega
  rw [whole]

/-- A character is no half of a surrogate pair. -/
theorem not_surrogate (c : Char) :
    isHighSurrogate c.toNat = false ∧ isLowSurrogate c.toNat = false := by
  have valid : c.toNat < 0xD800 ∨ 0xDFFF < c.toNat ∧ c.toNat < 0x110000 := c.valid
  simp only [isHighSurrogate, isLowSurrogate, Bool.and_eq_false_iff, decide_eq_false_iff_not]
  omega

theorem unitChar_toNat (c : Char) : unitChar c.toNat = c := by
  rw [unitChar, (not_surrogate c).1, (not_surrogate c).2, Bool.or_false, if_neg Bool.false_ne_true,
    Char.ofNat_toNat]

/-- A character of the basic plane is read from its one escape. -/
theorem readUnicode_unit {c : Char} (h : c.toNat < 0x10000) (start : List Char) {rest : List Char}
    (more : rest ≠ []) : readUnicode start (hexPadded 4 c.toNat ++ rest) = .ok (c, rest) := by
  rw [readUnicode, readHex4_hexPadded h more]
  simp only
  rw [if_neg (by rw [(not_surrogate c).1]; exact Bool.false_ne_true), unitChar_toNat]

/-- The halves of the pair that stands for a character. -/
def highHalf (c : Char) : Nat := 0xD800 + (c.toNat - 0x10000) / 0x400

def lowHalf (c : Char) : Nat := 0xDC00 + (c.toNat - 0x10000) % 0x400

theorem pairChar_halves {c : Char} (h : 0x10000 ≤ c.toNat) :
    pairChar (highHalf c) (lowHalf c) = c := by
  have whole : 0x10000 + (highHalf c - 0xD800) * 0x400 + (lowHalf c - 0xDC00) = c.toNat := by
    simp only [highHalf, lowHalf]
    omega
  rw [pairChar, whole, Char.ofNat_toNat]

/-- A character outside the basic plane is read from the two escapes of its pair. -/
theorem readUnicode_pair {c : Char} (h : 0x10000 ≤ c.toNat) (start : List Char) {rest : List Char}
    (more : rest ≠ []) :
    readUnicode start (hexPadded 4 (highHalf c) ++ (unitEscape (lowHalf c) ++ rest)) =
      .ok (c, rest) := by
  have valid : c.toNat < 0xD800 ∨ 0xDFFF < c.toNat ∧ c.toNat < 0x110000 := c.valid
  have high : isHighSurrogate (highHalf c) = true := by
    rw [isHighSurrogate, Bool.and_eq_true, decide_eq_true_eq, decide_eq_true_eq, highHalf]
    omega
  have low : isLowSurrogate (lowHalf c) = true := by
    rw [isLowSurrogate, Bool.and_eq_true, decide_eq_true_eq, decide_eq_true_eq, lowHalf]
    omega
  have highFits : highHalf c < 0x10000 := by
    simp only [highHalf]
    omega
  have lowFits : lowHalf c < 0x10000 := by
    simp only [lowHalf]
    omega
  have long : ((hexPadded 4 (lowHalf c) ++ rest).drop 4).isEmpty = false := by
    rw [Text.hexPadded_four]
    simpa using more
  rw [readUnicode, readHex4_hexPadded highFits (by simp [unitEscape])]
  simp only [high, if_true, unitEscape, List.cons_append, long, Bool.false_eq_true, if_false,
    readHex4_hexPadded lowFits more, low, pairChar_halves h]

/-! ## Steps of the reader -/

theorem readText_quote {start done : List Char} {fuel : Nat} (rest : List Char) :
    readText start (fuel + 1) done ('"' :: rest) = .ok (String.ofList done.reverse, rest) := by
  cases rest with
  | nil => rfl
  | cons d rest => rfl

theorem readText_self {start done : List Char} {fuel : Nat} {c : Char} (quote : c ≠ '"')
    (slash : c ≠ '\\') (printed : 0x20 ≤ c.toNat) (rest : List Char) :
    readText start (fuel + 1) done (c :: rest) = readText start fuel (c :: done) rest := by
  cases rest with
  | nil => rw [readText, if_neg quote, if_neg slash, if_neg (Nat.not_lt.mpr printed)]
  | cons d rest => rw [readText, if_neg quote, if_neg slash, if_neg (Nat.not_lt.mpr printed)]

/-! ## Written characters -/

/-- A way to write a character that is read back and holds no quote of its own. -/
structure Escapes (c : Char) (w : List Char) : Prop where
  read : ∀ start fuel done rest, rest ≠ [] →
    readText start (fuel + 1) done (w ++ rest) = readText start fuel (c :: done) rest
  passed : ∀ room before rest, rest ≠ [] →
    tooDeep? room before false (w ++ rest) = tooDeep? room (before + w.length) false rest
  nonempty : 0 < w.length

section Characters

variable {c e : Char}

/-- Inside quotes a character that is no quote and no backslash is passed. -/
theorem tooDeep?_inside {room before : Nat} {rest : List Char} (quote : c ≠ '"') (slash : c ≠ '\\')
    (more : rest ≠ []) :
    tooDeep? room before false (c :: rest) = tooDeep? room (before + 1) false rest := by
  obtain ⟨d, cs, rfl⟩ := List.exists_cons_of_ne_nil more
  rw [tooDeep?, if_neg slash, decide_eq_false quote]

theorem tooDeep?_escape {room before : Nat} {rest : List Char} :
    tooDeep? room before false ('\\' :: e :: rest) = tooDeep? room (before + 2) false rest := by
  rw [tooDeep?, if_pos rfl]

theorem tooDeep?_unit {room before n : Nat} {rest : List Char} (more : rest ≠ []) :
    tooDeep? room before false (unitEscape n ++ rest) = tooDeep? room (before + 6) false rest := by
  rw [unitEscape, Text.hexPadded_four]
  simp only [List.cons_append, List.nil_append]
  rw [tooDeep?_escape, tooDeep?_inside (Text.hexDigit_ne _).1 (Text.hexDigit_ne _).2 (by simp),
    tooDeep?_inside (Text.hexDigit_ne _).1 (Text.hexDigit_ne _).2 (by simp),
    tooDeep?_inside (Text.hexDigit_ne _).1 (Text.hexDigit_ne _).2 (by simp),
    tooDeep?_inside (Text.hexDigit_ne _).1 (Text.hexDigit_ne _).2 more]

/-- A character that stands for itself. -/
theorem escapes_self (quote : c ≠ '"') (slash : c ≠ '\\') (printed : 0x20 ≤ c.toNat) :
    Escapes c [c] where
  read _ _ _ rest _ := readText_self quote slash printed rest
  passed _ _ _ more := tooDeep?_inside quote slash more
  nonempty := Nat.one_pos

/-- A character with an escape of one letter. -/
theorem escapes_short (h : shortEscape? c = some e) : Escapes c ['\\', e] := by
  have letter : e ≠ 'u' ∧ escaped? e = some c := by
    unfold shortEscape? at h
    repeat' split at h
    all_goals cases h
    all_goals
      rename_i hc
      subst hc
      decide
  refine ⟨fun start fuel done rest _ => ?_, fun room before rest _ => tooDeep?_escape,
    Nat.succ_pos _⟩
  rw [List.cons_append, List.cons_append, List.nil_append, readText, if_neg (by decide), if_pos rfl]
  simp only [if_neg letter.1, letter.2]

/-- A character of the basic plane as its code unit. -/
theorem escapes_unit (h : c.toNat < 0x10000) : Escapes c (unitEscape c.toNat) where
  read start fuel done rest more := by
    rw [unitEscape, List.cons_append, List.cons_append, readText, if_neg (by decide), if_pos rfl]
    simp only [if_true, readUnicode_unit h _ more]
  passed _ _ _ more := tooDeep?_unit more
  nonempty := Nat.succ_pos _

/-- A character outside the basic plane as a pair of code units. -/
theorem escapes_pair (h : 0x10000 ≤ c.toNat) :
    Escapes c (unitEscape (highHalf c) ++ unitEscape (lowHalf c)) where
  read start fuel done rest more := by
    rw [List.append_assoc, unitEscape, List.cons_append, List.cons_append, readText,
      if_neg (by decide), if_pos rfl]
    simp only [if_true, readUnicode_pair h _ more]
  passed room before rest more := by
    rw [List.append_assoc, tooDeep?_unit (by simp [more]), tooDeep?_unit more]
    rfl
  nonempty := Nat.succ_pos _

theorem ne_of_shortEscape?_eq_none (h : shortEscape? c = none) : c ≠ '"' ∧ c ≠ '\\' := by
  constructor
  · rintro rfl
    cases h
  · rintro rfl
    cases h

end Characters

/-! ## Both ways of writing -/

/-- A format whose characters can be read back. -/
def Format.Readable (f : Format) : Prop := ∀ c, Escapes c (f.escape c)

theorem escapes_escapeAscii (c : Char) : Escapes c (escapeAscii c) := by
  unfold escapeAscii
  split
  · rename_i e he
    exact escapes_short he
  · rename_i he
    obtain ⟨quote, slash⟩ := ne_of_shortEscape?_eq_none he
    split
    · rename_i printable
      exact escapes_self quote slash printable.1
    · split
      · rename_i basic
        exact escapes_unit basic
      · rename_i outside
        exact escapes_pair (Nat.not_lt.mp outside)

theorem escapes_escapePlain (c : Char) : Escapes c (escapePlain c) := by
  unfold escapePlain
  split
  · rename_i e he
    exact escapes_short he
  · rename_i he
    obtain ⟨quote, slash⟩ := ne_of_shortEscape?_eq_none he
    split
    · rename_i control
      exact escapes_unit (Nat.lt_trans control (by decide))
    · rename_i printed
      exact escapes_self quote slash (Nat.not_lt.mp printed)

theorem readable_compactAscii : compactAscii.Readable := escapes_escapeAscii

theorem readable_indentedAscii : indentedAscii.Readable := escapes_escapeAscii

theorem readable_compact : compact.Readable := escapes_escapePlain

/-! ## Texts -/

section Texts

variable {f : Format}

/-- A written text is read back. -/
theorem readText_written (hf : f.Readable) {start : List Char} {fuel : Nat} {done cs : List Char}
    (enough : cs.length < fuel) (rest : List Char) :
    readText start fuel done (cs.flatMap f.escape ++ '"' :: rest) =
      .ok (String.ofList (done.reverse ++ cs), rest) := by
  induction cs generalizing fuel done with
  | nil =>
    obtain ⟨fuel, rfl⟩ := Nat.exists_eq_succ_of_ne_zero (Nat.ne_of_gt enough)
    rw [List.flatMap_nil, List.nil_append, readText_quote, List.append_nil]
  | cons c cs ih =>
    obtain ⟨fuel, rfl⟩ := Nat.exists_eq_succ_of_ne_zero (Nat.ne_zero_of_lt enough)
    rw [List.flatMap_cons, List.append_assoc, (hf c).read _ _ _ _ (by simp),
      ih (Nat.lt_of_succ_lt_succ enough), List.reverse_cons, List.append_assoc]
    rfl

theorem length_le_flatMap (hf : f.Readable) (cs : List Char) :
    cs.length ≤ (cs.flatMap f.escape).length := by
  induction cs with
  | nil => exact Nat.le_refl 0
  | cons c cs ih =>
    have := (hf c).nonempty
    rw [List.flatMap_cons, List.length_append, List.length_cons]
    omega

/-- A written text holds no bracket that counts. -/
theorem tooDeep?_written (hf : f.Readable) (room before : Nat) (cs rest : List Char) :
    tooDeep? room before false (cs.flatMap f.escape ++ '"' :: rest) =
      tooDeep? room (before + (cs.flatMap f.escape).length) false ('"' :: rest) := by
  induction cs generalizing before with
  | nil => rfl
  | cons c cs ih =>
    rw [List.flatMap_cons, List.append_assoc, (hf c).passed _ _ _ (by simp), ih,
      List.length_append, Nat.add_assoc]

end Texts

end Json

end Weblog
