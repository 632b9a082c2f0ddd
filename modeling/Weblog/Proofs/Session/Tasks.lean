/-
  The tasks of taking out rows of one kind, where nothing else is to be written.

  Of all that is scheduled, only the links of what goes are taken out, and then the rows
  (`Task.schedule_takesOut`). Every other task does nothing (`Work.perform_idle`), so that the tasks
  come down to these (`Work.perform_takesOut`).
-/
import Mathlib
import Weblog.Proofs.Session.Going
import Weblog.Session.Transaction

namespace Weblog

namespace Task

open Session (Plan)

/-- Whether a task has anything to do where rows of a kind are taken out. -/
def takesOut (k : Kind) : Task → Bool
  | .save _ => false
  | .remove k' => k' = k
  | .relate k' rel going => k' = k && going && Plan.isLinking k rel

/-- The tasks of taking out rows are to take out their links, if the relation takes part, and then
the rows. -/
theorem schedule_takesOut (k : Kind) (rels : List Relation) (h : rels.Sublist k.relations) :
    (schedule [k] (rels.map fun rel => (k, rel))).filter (takesOut k) =
      (rels.filter (Plan.isLinking k)).map (fun rel => .relate k rel true) ++ [.remove k] := by
  have all : ∀ rels ∈ k.relations.sublists,
      (schedule [k] (rels.map fun rel => (k, rel))).filter (takesOut k) =
        (rels.filter (Plan.isLinking k)).map (fun rel => .relate k rel true) ++ [.remove k] := by
    refine of_decide_eq_true ?_
    cases k <;> cbv
  exact all rels (List.mem_sublists.mpr h)

end Task

namespace Session.Work

variable {s : Session} {r : Ref} {k : Kind} {t : Task} {ts : List Task} {p : Plan}
  {done : Progress} {now : Instant}

/-- Work that is followed by the same as far as its results go. -/
theorem bind_congr_of {α β : Type} {m : Work α} {f g : α → Work β} {C : α → Prop}
    (hm : Triple (fun _ => True) m (fun a _ => C a) fun _ _ => True)
    (h : ∀ a, C a → f a = g a) : m >>= f = m >>= g := by
  refine ExceptT.ext (StateT.ext fun s => ?_)
  have ends := hm s trivial
  rw [ExceptT.run_bind, ExceptT.run_bind, StateT.run_bind, StateT.run_bind]
  rcases hrun : m.run.run s with ⟨_ | a, s'⟩
  · rfl
  · rw [hrun] at ends
    exact congrArg (fun m : Work β => m.run.run s') (h a ends)

/-! ## Tasks without entities -/

theorem inOrder_nil : inOrder [] = pure [] := by
  unfold inOrder
  simp only [List.filter_nil, List.mergeSort_nil]
  rfl

/-- Where nothing of a kind stays, nothing is put in or changed. -/
theorem save_nil (h : p.staying k = []) : save now k p = pure p := by
  unfold save
  rw [h, inOrder_nil]
  cases k <;> rfl

/-- Where nothing of a kind goes, nothing is taken out. -/
theorem remove_nil (h : p.going k = []) : remove k p = pure () := by
  unfold remove
  rw [h, inOrder_nil]
  cases k <;> rfl

theorem relateAll_nil {rel : Relation} {going : Bool} (h : done.plan.having k ⟨going, false⟩ = []) :
    relateAll k rel going done = pure done := by
  unfold relateAll
  rw [h]
  unfold relateLinks
  split
  · obtain ⟨p, linked⟩ := done
    simp only [List.mapM_nil, pure_bind, List.flatMap_nil, List.append_nil, writeLinks]
    rfl
  · cases going <;> cases rel <;> rfl

/-! ## The tasks that are left -/

/-- A task that has nothing to do. -/
theorem perform_idle (only : done.plan.roles = [(r, k, ⟨true, false⟩)])
    (idle : t.takesOut k = false) : perform now done t = pure done := by
  have having : ∀ k' role, ¬(k' = k ∧ role = ⟨true, false⟩) → done.plan.having k' role = [] := by
    intro k' role other
    rw [Plan.having_of_roles only, if_neg other]
  cases t with
  | save k' =>
    rw [perform, save_nil (having k' _ (by simp))]
    rfl
  | remove k' =>
    have other : k' ≠ k := of_decide_eq_false idle
    rw [perform, remove_nil (having k' _ fun here => other here.1)]
    rfl
  | relate k' rel going =>
    rw [perform]
    by_cases here : k' = k ∧ (⟨going, false⟩ : Role) = ⟨true, false⟩
    · obtain ⟨rfl, same⟩ := here
      obtain rfl : going = true := congrArg Role.goes same
      have idle : Plan.isLinking k' rel = false := by simpa [Task.takesOut] using idle
      rw [relateAll, idle]
      rfl
    · exact relateAll_nil (having k' _ here)

/-- What takes rows out keeps to its plan. -/
theorem plan_perform (works : t.takesOut k = true) :
    Triple (fun _ => True) (perform now done t) (fun done' _ => done'.plan = done.plan)
      fun _ _ => True := by
  cases t with
  | save k' => cases works
  | remove k' => exact Triple.bind (.any _) fun _ => Triple.pure fun _ _ => rfl
  | relate k' rel going =>
    simp only [Task.takesOut, Bool.and_eq_true, decide_eq_true_eq] at works
    obtain ⟨⟨rfl, rfl⟩, linking⟩ := works
    rw [perform, relateAll, if_pos linking]
    exact Triple.bind (.any _) fun _ => Triple.bind (.any _) fun _ => Triple.bind (.any _) fun _ =>
      Triple.pure fun _ _ => rfl

theorem perform_takesOut (only : done.plan.roles = [(r, k, ⟨true, false⟩)]) :
    ts.foldlM (perform now) done = (ts.filter (Task.takesOut k)).foldlM (perform now) done := by
  induction ts generalizing done with
  | nil => rfl
  | cons t ts ih =>
    rw [List.foldlM_cons]
    cases works : t.takesOut k with
    | false =>
      rw [perform_idle only works, pure_bind, List.filter_cons_of_neg (by simp [works]), ih only]
    | true =>
      rw [List.filter_cons_of_pos works, List.foldlM_cons]
      exact bind_congr_of (plan_perform works) fun done' same => ih (same ▸ only)

end Session.Work

end Weblog
