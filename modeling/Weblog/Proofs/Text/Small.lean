/-
  Small letters and digits of ASCII: what the tables of the character database and the rules that
  read them say of these characters.

  A table is read from its front, and these characters stand in its first line, so that the facts
  of tables are decided code point by code point once `Runs.label?_ofText` has replaced the
  bisection.
-/
import Weblog.Proofs.Text.Runs
import Weblog.Text.Blank
import Weblog.Text.Category
import Weblog.Text.Direction
import Weblog.Text.Normal

namespace Weblog.Text

/-- A small letter or a digit of ASCII. -/
def isSmall (c : Char) : Bool := c.isLower || c.isDigit

/-- The code points of small letters and digits. -/
def IsSmallCode (n : Nat) : Prop := 0x61 ≤ n ∧ n ≤ 0x7A ∨ 0x30 ≤ n ∧ n ≤ 0x39

instance : DecidablePred IsSmallCode := fun n =>
  inferInstanceAs (Decidable (0x61 ≤ n ∧ n ≤ 0x7A ∨ 0x30 ≤ n ∧ n ≤ 0x39))

variable {c d : Char} {cs : List Char}

theorem isSmall_iff : isSmall c = true ↔ IsSmallCode c.toNat := by
  show ((decide (c.val ≥ 'a'.val) && decide (c.val ≤ 'z'.val)) ||
    (decide (c.val ≥ '0'.val) && decide (c.val ≤ '9'.val))) = true ↔ _
  simp [IsSmallCode, UInt32.le_iff_toNat_le]

theorem isSmallCode_lt {n : Nat} (h : IsSmallCode n) : n < 0x80 := by
  unfold IsSmallCode at h
  omega

theorem toNat_lt_of_isSmall (h : isSmall c = true) : c.toNat < 0x80 :=
  isSmallCode_lt (isSmall_iff.mp h)

/-- A small letter or digit is no other sign. -/
theorem ne_of_isSmall (h : isSmall c = true) (hd : isSmall d = false) : c ≠ d := by
  rintro rfl
  rw [h] at hd
  cases hd

theorem isAlphanum_of_isSmall (h : isSmall c = true) : c.isAlphanum = true := by
  show (c.isUpper || c.isLower || c.isDigit) = true
  rw [Bool.or_assoc]
  exact Bool.or_eq_true_iff.mpr (.inr h)

theorem toLower_of_isSmall (h : isSmall c = true) : c.toLower = c := by
  rw [isSmall_iff] at h
  refine dif_neg fun capital => ?_
  have hmin : 0x41 ≤ c.toNat := capital.1
  have hmax : c.toNat ≤ 0x5A := capital.2
  unfold IsSmallCode at h
  omega

theorem map_toLower_of_isSmall (h : ∀ c ∈ cs, isSmall c = true) : cs.map Char.toLower = cs := by
  rw [List.map_congr_left fun c hc => toLower_of_isSmall (h c hc)]
  exact List.map_id' cs

/-! ## Blanks -/

theorem isBlankChar_of_isSmall (h : isSmall c = true) : isBlankChar c = false := by
  rw [isSmall_iff] at h
  have hall : ∀ n < 0x80, IsSmallCode n → blankRanges.has n = false := by decide
  exact hall c.toNat (isSmallCode_lt h) h

/-! ## Normal form -/

theorem normal_of_ascii (h : ∀ c ∈ cs, c.toNat < 0x80) : normal cs = cs := by
  unfold normal
  exact if_pos (by simpa using h)

/-- In ASCII nothing combines with what follows. -/
theorem combines_of_ascii (h : ∀ d ∈ c :: cs, d.toNat < 0x80) : combines c cs = false := by
  have hnone : cs.takeWhile mayJoin = [] := by
    cases cs with
    | nil => rfl
    | cons d ds =>
      have hd : ¬0x80 ≤ d.toNat := Nat.not_le.mpr (h d (by simp))
      exact List.takeWhile_cons_of_neg (by rw [mayJoin, decide_eq_false hd]; simp)
  unfold combines
  rw [hnone, normal_of_ascii fun d hd => h d (by simp_all)]
  simp

/-! ## Categories and directions -/

/-- Printed signs of ASCII are letters, numbers, punctuation or symbols. -/
theorem category_ofLabel : ∀ n < 0x7F, 0x20 < n →
    Category.ofLabel (categoryRuns.label? n) = .letterOrNumber ∨
      Category.ofLabel (categoryRuns.label? n) = .punctuationOrSymbol := by
  unfold categoryRuns
  simp only [Runs.label?_ofText, String.toList_join]
  decide +kernel

theorem category_of_printed (hmin : 0x20 < c.toNat) (hmax : c.toNat < 0x7F) :
    category c = .letterOrNumber ∨ category c = .punctuationOrSymbol :=
  category_ofLabel c.toNat hmax hmin

theorem direction_ofLabel : ∀ n < 0x80, IsSmallCode n →
    Direction.ofLabel (directionRuns.label? n) = .left ∨
      Direction.ofLabel (directionRuns.label? n) = .europeanNumber := by
  unfold directionRuns
  simp only [Runs.label?_ofText, String.toList_join]
  decide +kernel

theorem direction_of_isSmall (h : isSmall c = true) :
    direction c = .left ∨ direction c = .europeanNumber := by
  rw [isSmall_iff] at h
  exact direction_ofLabel c.toNat (isSmallCode_lt h) h

end Weblog.Text
