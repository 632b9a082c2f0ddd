/-
  The order of marks. Marks of different classes may change places (`SameOrder.swap`), and a text
  whose marks ascend stays as it is (`Ascending.orderAfter_eq`).
-/
import Weblog.Text.Normal

namespace Weblog.Text

variable {c d : Char} {marks cs ds es : List Char} {k last : Nat}

/-! ## Inserting marks -/

theorem insertMark_behind (h : combiningClass d ≤ combiningClass c) :
    insertMark c (d :: ds) = d :: insertMark c ds := if_pos h

theorem insertMark_before (h : combiningClass c < combiningClass d) :
    insertMark c (d :: ds) = c :: d :: ds := if_neg (Nat.not_le.mpr h)

theorem mem_insertMark {e : Char} : e ∈ insertMark c marks ↔ e = c ∨ e ∈ marks := by
  induction marks with
  | nil => simp [insertMark]
  | cons d ds ih =>
    rcases Nat.lt_or_ge (combiningClass c) (combiningClass d) with before | behind
    · rw [insertMark_before before, List.mem_cons]
    · rw [insertMark_behind behind, List.mem_cons, ih, List.mem_cons, or_left_comm]

/-- The lower mark of two stands in front, whichever was put in first. -/
theorem insertMark_comm_of_lt (h : combiningClass c < combiningClass d) (marks : List Char) :
    insertMark d (insertMark c marks) = insertMark c (insertMark d marks) := by
  induction marks with
  | nil => rw [insertMark, insertMark, insertMark_behind (Nat.le_of_lt h), insertMark,
      insertMark_before h]
  | cons m ms ih =>
    rcases Nat.lt_or_ge (combiningClass c) (combiningClass m) with before | behind
    · rw [insertMark_before before, insertMark_behind (Nat.le_of_lt h)]
      rcases Nat.lt_or_ge (combiningClass d) (combiningClass m) with before' | behind'
      · rw [insertMark_before before', insertMark_before h]
      · rw [insertMark_behind behind', insertMark_before before]
    · have behind' := Nat.le_trans behind (Nat.le_of_lt h)
      rw [insertMark_behind behind, insertMark_behind behind', insertMark_behind behind',
        insertMark_behind behind, ih]

theorem insertMark_comm (h : combiningClass c ≠ combiningClass d) (marks : List Char) :
    insertMark d (insertMark c marks) = insertMark c (insertMark d marks) := by
  rcases Nat.lt_or_gt_of_ne h with lt | gt
  · exact insertMark_comm_of_lt lt marks
  · exact (insertMark_comm_of_lt gt marks).symm

theorem insertMark_of_le (h : ∀ m ∈ marks, combiningClass m ≤ combiningClass c) :
    insertMark c marks = marks ++ [c] := by
  induction marks with
  | nil => rfl
  | cons m ms ih =>
    rw [insertMark_behind (h m List.mem_cons_self), ih fun d hd => h d (List.mem_cons_of_mem m hd),
      List.cons_append]

/-! ## Ordering -/

theorem orderAfter_starter (h : combiningClass c = 0) :
    orderAfter marks (c :: cs) = marks ++ c :: orderAfter [] cs := if_pos h

theorem orderAfter_mark (h : combiningClass c ≠ 0) :
    orderAfter marks (c :: cs) = orderAfter (insertMark c marks) cs := if_neg h

theorem mem_orderAfter : c ∈ orderAfter marks cs ↔ c ∈ marks ∨ c ∈ cs := by
  induction cs generalizing marks with
  | nil => simp [orderAfter]
  | cons d ds ih =>
    by_cases hd : combiningClass d = 0
    · rw [orderAfter_starter hd, List.mem_append, List.mem_cons, ih, List.mem_cons]
      simp
    · rw [orderAfter_mark hd, ih, mem_insertMark, List.mem_cons, or_assoc, or_left_comm]

/-- A starter cuts the order. -/
theorem orderAfter_append_starter (h : combiningClass c = 0) :
    orderAfter marks (cs ++ c :: ds) = orderAfter marks cs ++ c :: orderAfter [] ds := by
  induction cs generalizing marks with
  | nil => exact orderAfter_starter h
  | cons d es ih =>
    rw [List.cons_append]
    by_cases hd : combiningClass d = 0
    · rw [orderAfter_starter hd, orderAfter_starter hd, ih, List.append_assoc, List.cons_append]
    · rw [orderAfter_mark hd, orderAfter_mark hd, ih]

/-- Two texts that are brought into the same order behind whatever marks. -/
def SameOrder (cs ds : List Char) : Prop := ∀ marks, orderAfter marks cs = orderAfter marks ds

namespace SameOrder

theorem refl (cs : List Char) : SameOrder cs cs := fun _ => rfl

theorem trans (h : SameOrder cs ds) (h' : SameOrder ds es) : SameOrder cs es :=
  fun marks => (h marks).trans (h' marks)

theorem append_left (h : SameOrder cs ds) (front : List Char) :
    SameOrder (front ++ cs) (front ++ ds) := by
  induction front with
  | nil => exact h
  | cons c front ih =>
    intro marks
    rw [List.cons_append, List.cons_append]
    by_cases hc : combiningClass c = 0
    · rw [orderAfter_starter hc, orderAfter_starter hc, ih []]
    · rw [orderAfter_mark hc, orderAfter_mark hc, ih]

/-- Marks of different classes change places. -/
theorem swap (hc : combiningClass c ≠ 0) (hd : combiningClass d ≠ 0)
    (apart : combiningClass c ≠ combiningClass d) (cs : List Char) :
    SameOrder (c :: d :: cs) (d :: c :: cs) := by
  intro marks
  rw [orderAfter_mark hc, orderAfter_mark hd, orderAfter_mark hd, orderAfter_mark hc,
    insertMark_comm apart]

/-- A mark moves behind marks of other classes. -/
theorem pass (hc : combiningClass c ≠ 0)
    (h : ∀ m ∈ marks, combiningClass m ≠ 0 ∧ combiningClass m ≠ combiningClass c)
    (cs : List Char) : SameOrder (c :: (marks ++ cs)) (marks ++ c :: cs) := by
  induction marks with
  | nil => exact refl _
  | cons m ms ih =>
    obtain ⟨hm, apart⟩ := h m List.mem_cons_self
    have rest := ih fun d hd => h d (List.mem_cons_of_mem m hd)
    exact (swap hc hm (Ne.symm apart) (ms ++ cs)).trans (rest.append_left [m])

end SameOrder

/-! ## Texts in order -/

/-- Marks ascend between starters; `last` is the class of the character in front. -/
inductive Ascending : (last : Nat) → List Char → Prop
  | nil (last : Nat) : Ascending last []
  | cons {last : Nat} {c : Char} {cs : List Char}
      (next : combiningClass c = 0 ∨ last ≤ combiningClass c)
      (rest : Ascending (combiningClass c) cs) : Ascending last (c :: cs)

theorem Ascending.of_le (h : Ascending k cs) (hle : last ≤ k) : Ascending last cs := by
  cases h with
  | nil => exact .nil last
  | cons next rest => exact .cons (next.imp_right (Nat.le_trans hle)) rest

/-- A text whose marks ascend is in order. -/
theorem orderAfter_of_ascending (h : Ascending last cs)
    (low : ∀ m ∈ marks, combiningClass m ≤ last) : orderAfter marks cs = marks ++ cs := by
  induction h generalizing marks with
  | nil => exact (List.append_nil marks).symm
  | @cons last c cs next rest ih =>
    by_cases hc : combiningClass c = 0
    · rw [orderAfter_starter hc, ih fun m hm => by cases hm]
      rfl
    · have low' : ∀ m ∈ marks, combiningClass m ≤ combiningClass c :=
        fun m hm => Nat.le_trans (low m hm) (next.resolve_left hc)
      rw [orderAfter_mark hc, insertMark_of_le low', ih, List.append_assoc]
      · rfl
      · intro m hm
        rcases List.mem_append.mp hm with hm | hm
        · exact low' m hm
        · exact Nat.le_of_eq (congrArg combiningClass (List.mem_singleton.mp hm))

theorem Ascending.orderAfter_eq (h : Ascending last cs) : orderAfter [] cs = cs :=
  orderAfter_of_ascending h fun m hm => by cases hm

/-- Marks that ascend, in front of a text that begins with a starter. -/
theorem ascending_append (sorted : marks.Pairwise (combiningClass · ≤ combiningClass ·))
    (high : ∀ m ∈ marks, last ≤ combiningClass m) (h : ∀ k, Ascending k cs) :
    Ascending last (marks ++ cs) := by
  induction marks generalizing last with
  | nil => exact h last
  | cons m ms ih =>
    obtain ⟨first, sorted⟩ := List.pairwise_cons.mp sorted
    exact .cons (.inr (high m List.mem_cons_self)) (ih sorted first)

theorem pairwise_insertMark (sorted : marks.Pairwise (combiningClass · ≤ combiningClass ·)) :
    (insertMark c marks).Pairwise (combiningClass · ≤ combiningClass ·) := by
  induction marks with
  | nil => exact List.pairwise_singleton ..
  | cons m ms ih =>
    obtain ⟨first, rest⟩ := List.pairwise_cons.mp sorted
    rcases Nat.lt_or_ge (combiningClass c) (combiningClass m) with before | behind
    · rw [insertMark_before before, List.pairwise_cons]
      refine ⟨fun d hd => ?_, sorted⟩
      rcases List.mem_cons.mp hd with rfl | hd
      · exact Nat.le_of_lt before
      · exact Nat.le_trans (Nat.le_of_lt before) (first d hd)
    · rw [insertMark_behind behind, List.pairwise_cons]
      refine ⟨fun d hd => ?_, ih rest⟩
      rcases mem_insertMark.mp hd with rfl | hd
      · exact behind
      · exact first d hd

/-- What has been brought into order ascends. -/
theorem ascending_orderAfter (sorted : marks.Pairwise (combiningClass · ≤ combiningClass ·)) :
    Ascending 0 (orderAfter marks cs) := by
  induction cs generalizing marks with
  | nil =>
    have ascending := ascending_append sorted (fun m _ => Nat.zero_le (combiningClass m)) .nil
    rwa [List.append_nil] at ascending
  | cons c cs ih =>
    by_cases hc : combiningClass c = 0
    · have rest : Ascending (combiningClass c) (orderAfter [] cs) := hc ▸ ih .nil
      rw [orderAfter_starter hc]
      exact ascending_append sorted (fun m _ => Nat.zero_le (combiningClass m)) fun k =>
        .cons (.inl hc) rest
    · rw [orderAfter_mark hc]
      exact ih (pairwise_insertMark sorted)

end Weblog.Text
