/-
  Sets of code points, written as the binary digits of a number: what whole tables say is then
  compared by a few operations on numbers.
-/
import Mathlib.Algebra.Group.Nat.Defs
import Weblog.Proofs.Text.Runs
import Weblog.Text.Runs

namespace Weblog.Text

variable {n m : Nat} {ns : List Nat}

/-- The bound of all code points. -/
def codeBound : Nat := 0x110000

theorem toNat_lt_codeBound (c : Char) : c.toNat < codeBound := by
  have valid : c.toNat < 0xD800 ∨ 0xDFFF < c.toNat ∧ c.toNat < 0x110000 := c.valid
  unfold codeBound
  omega

/-! ## Members -/

/-- The set of the members of a list. -/
def bitsOf (ns : List Nat) : Nat := ns.foldr (fun n bits => bits ||| 1 <<< n) 0

theorem testBit_bitsOf : (bitsOf ns).testBit n = true ↔ n ∈ ns := by
  induction ns with
  | nil => simp [bitsOf]
  | cons m ns ih =>
    have step : bitsOf (m :: ns) = bitsOf ns ||| 1 <<< m := rfl
    rw [step, Nat.testBit_or, Bool.or_eq_true, ih, Nat.one_shiftLeft, Nat.testBit_two_pow,
      decide_eq_true_eq, List.mem_cons, or_comm, eq_comm]

/-- Sets without a common digit have no common member. -/
theorem testBit_eq_false_of_and {a b : Nat} (apart : a &&& b = 0) (ha : a.testBit n = true) :
    b.testBit n = false := by
  have none : (a &&& b).testBit n = false := by rw [apart, Nat.zero_testBit]
  rwa [Nat.testBit_and, ha, Bool.true_and] at none

/-- A set that adds nothing to another lies in it. -/
theorem testBit_of_or {a b : Nat} (inside : a ||| b = b) (ha : a.testBit n = true) :
    b.testBit n = true := by
  rw [← inside, Nat.testBit_or, ha, Bool.true_or]

/-! ## Ranges -/

/-- The set of the numbers from `first` on and below `bound`. -/
def spanBits (first bound : Nat) : Nat := (2 ^ (bound - first) - 1) <<< first

theorem testBit_spanBits {first bound : Nat} :
    (spanBits first bound).testBit n = decide (first ≤ n ∧ n < bound) := by
  rw [spanBits, Nat.testBit_shiftLeft, Nat.testBit_two_pow_sub_one, ← Bool.decide_and]
  exact decide_eq_decide.mpr (by omega)

def Ranges.bits (rs : Ranges) : Nat :=
  rs.foldr (fun r bits => bits ||| spanBits r.1 (r.2 + 1)) 0

theorem Ranges.testBit_bits (rs : Ranges) (n : Nat) : (Ranges.bits rs).testBit n = rs.has n := by
  induction rs with
  | nil => simp [bits, has]
  | cons r rs ih =>
    have step : bits (r :: rs) = bits rs ||| spanBits r.1 (r.2 + 1) := rfl
    rw [step, Nat.testBit_or, ih, testBit_spanBits, has_cons, Bool.or_comm, Bool.decide_and]
    simp only [Nat.lt_succ_iff]

/-! ## Runs -/

namespace Runs

variable {rs : List (Nat × Char)}

/-- Where the first of the runs starts; no runs start beyond all code points. -/
def startOf (rs : List (Nat × Char)) : Nat := (rs.head?.map (·.1)).getD codeBound

/-- The set of the code points whose labels satisfy `p`. -/
def bits (p : Char → Bool) : List (Nat × Char) → Nat
  | [] => 0
  | r :: rs => (if p r.2 then spanBits r.1 (startOf rs) else 0) ||| bits p rs

theorem labelFrom_before (a : Option Char) (h : n < startOf rs) : labelFrom a n rs = a := by
  cases rs with
  | nil => rfl
  | cons r rs => exact labelFrom_of_lt h

theorem labelFrom_beyond (a : Option Char) (below : n < codeBound) (h : startOf rs ≤ n) :
    labelFrom a n rs = labelFrom none n rs := by
  cases rs with
  | nil => exact absurd below (Nat.not_lt.mpr h)
  | cons r rs =>
    have reached : r.1 ≤ n := h
    rw [labelFrom_of_le reached, labelFrom_of_le reached]

theorem testBit_bits {p : Char → Bool} (sorted : rs.Pairwise (·.1 ≤ ·.1)) (below : n < codeBound) :
    (bits p rs).testBit n = (labelFrom none n rs).any p := by
  induction rs with
  | nil => simp [bits, labelFrom]
  | cons r rs ih =>
    obtain ⟨first, sorted⟩ := List.pairwise_cons.mp sorted
    have start : r.1 ≤ startOf rs ∨ startOf rs = codeBound := by
      cases rs with
      | nil => exact .inr rfl
      | cons s rs => exact .inl (first s List.mem_cons_self)
    have here : (if p r.2 then spanBits r.1 (startOf rs) else 0).testBit n =
        (p r.2 && decide (r.1 ≤ n ∧ n < startOf rs)) := by
      cases p r.2 with
      | true => rw [if_pos rfl, testBit_spanBits, Bool.true_and]
      | false => rw [if_neg Bool.false_ne_true, Nat.zero_testBit, Bool.false_and]
    rw [bits, Nat.testBit_or, here, ih sorted]
    rcases Nat.lt_or_ge n r.1 with late | reached
    · have before : n < startOf rs := by omega
      rw [labelFrom_of_lt late, labelFrom_before none before, decide_eq_false (by omega)]
      simp
    · rw [labelFrom_of_le reached]
      rcases Nat.lt_or_ge n (startOf rs) with before | beyond
      · rw [labelFrom_before _ before, labelFrom_before _ before, decide_eq_true ⟨reached, before⟩]
        simp
      · rw [labelFrom_beyond (some r.2) below beyond, decide_eq_false (by omega)]
        simp

/-- What is checked of a table is checked of the literals that it is written in. -/
theorem check_ofText (check : List (Nat × Char) → Bool) {ss : List String} {cs : List Char}
    (hs : ss.flatMap String.toList = cs) (h : check (written 0 0 cs) = true) :
    check (ofText (String.join ss)).toList = true := by
  rw [toList_ofText, String.toList_join, hs, h]

/-- A table that is read from a text. -/
def IsWritten (rs : Runs) : Prop := ∃ s, rs = ofText s

theorem IsWritten.testBit_bits {rs : Runs} (written : rs.IsWritten) {p : Char → Bool}
    (below : n < codeBound) : (bits p rs.toList).testBit n = (rs.label? n).any p := by
  obtain ⟨s, rfl⟩ := written
  rw [label?_eq_labelFrom, toList_ofText]
  exact Runs.testBit_bits (pairwise_written 0 0 s.toList) below

end Runs

end Weblog.Text
