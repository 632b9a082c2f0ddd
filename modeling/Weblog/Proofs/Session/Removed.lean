/-
  What is left when a row was taken out and that was committed.
-/
import Weblog.Proofs.Session.Presence
import Weblog.Proofs.Session.Removal
import Weblog.Proofs.Session.Viewing

namespace Weblog.Session

variable {s s' s₀ s₁ : Session} {r : Ref} {row : Row} {now later : Instant}
  {E : Error → Session → Prop}

theorem Removing.unclean (h : s.Removing row r) : s.isClean ≠ true := by
  intro clean
  obtain ⟨e, he, -⟩ := h.stored
  have still := List.all_eq_true.mp clean e (List.mem_of_getElem? he)
  rw [h.doomed e he, Bool.not_true, Bool.and_false] at still
  cases still

/-- The entity of a row is to be taken out once it is marked. -/
theorem AtRest.removing (rest : s.AtRest []) (h : s.StoredAs row r) :
    (s.modifyEntity r fun e =>
      { e with isMapped := true, isAttached := true, isDoomed := true }).Removing row r := by
  have stands : ∀ e, s.entity? r = some e → e.Stands s.tables
      { e with isMapped := true, isAttached := true, isDoomed := true } :=
    fun e he => ⟨rfl, rfl, rfl, .inl (h.mapped he).symm⟩
  refine ⟨(rest.mono (List.nil_subset _)).modifyEntity stands
    (fun _ _ _ => .inr (List.mem_singleton_self r)) fun e he _ => ?_, h.modifyEntity stands,
      fun e he => ?_⟩
  · have mirrors := rest.mirrors r e he (h.mapped he)
    exact ⟨⟨⟨rfl, mirrors.keyed, mirrors.untouched, mirrors.unremoved⟩, mirrors.unset, mirrors.held,
      mirrors.known⟩, rest.leads r e he (h.mapped he)⟩
  · rw [entity?_modifyEntity, if_pos rfl] at he
    obtain ⟨e, -, rfl⟩ := Option.map_eq_some_iff.mp he
    rfl

namespace Work

/-! ## Flushing -/

/-- Flushing takes out the row, or fails and takes the tables back to what was committed. -/
theorem flush_removing (now : Instant) (h : s₀.Removing row r) :
    Triple (· = s₀) (flush now) (fun _ s => s₀.store.mayRemove row = true ∧
        ∃ s', TakenOut s₀ row r s' ∧ s = s'.parted r)
      (fun err s => Stuck s₀ row err s ∧ s.tables = s₀.tables) := by
  refine Triple.bind (Q := fun s' s => s' = s ∧ s = s₀) (Triple.get fun _ h => ⟨rfl, h⟩) fun s' => ?_
  rintro s ⟨rfl, rfl⟩
  rw [if_neg h.unclean, h.rest.pending_dirty]
  refine Triple.bind (P := (· = s')) (Q := fun _ s => s = s') (Triple.pure fun _ h => h)
    (fun _ => ?_) s' rfl
  refine Triple.bind (Triple.reaching fun s same => same ▸ h.rest.whole) fun t => ?_
  rintro s ⟨rfl, rfl⟩
  refine Triple.tryCatch (P := (· = t)) (run_carryOut now h) (fun err => ?_) t rfl
  refine Triple.bind (Q := fun _ s => Stuck t row err s ∧ s.tables = t.tables)
    (Triple.modify fun s stuck => ?_) fun _ => Triple.throw fun _ h => h
  obtain ⟨store, committed⟩ := same_restored
    ({ s with store := { s.store with tables := s.committed } } : Session)
  exact ⟨⟨stuck.1, stuck.2.1, committed.trans stuck.2.2⟩,
    (congrArg Store.tables store).trans stuck.2.2⟩

/-- Committing takes out the row and leaves the session at rest. Where that fails, the tables are
as they were. -/
theorem commit_removing (now : Instant) (h : s₀.Removing row r) :
    Triple (· = s₀) (commit now) (fun _ s => s₀.store.mayRemove row = true ∧ s.AtRest [] ∧
        Tables.Cut s₀.store.enforces row s₀.tables s.tables)
      (fun err s => Stuck s₀ row err s ∧ s.tables = s₀.tables) := by
  refine Triple.bind (Triple.reaching fun s same => same ▸ h.rest.whole) fun _ => ?_
  rintro s ⟨-, rfl⟩
  refine Triple.bind (P := (· = s)) (Q := fun _ s' => s.store.mayRemove row = true ∧
    ∃ t, TakenOut s row r t ∧ s' = t.parted r) ?_ (fun _ => Triple.modify fun s' hs => ?_) s rfl
  · refine Triple.bind (Q := fun s' t => s' = s ∧ t = s) (Triple.get fun _ h => ⟨h, h⟩)
      fun s' => Triple.of_known fun same => ?_
    subst same
    rw [Bool.eq_false_iff.mpr h.unclean]
    refine Triple.bind (flush_removing now h) fun _ => flushAll_clean now 99 fun t ht => ?_
    obtain ⟨-, t, taken, rfl⟩ := ht
    exact (isWritten_of_takenOut taken).isClean
  · obtain ⟨may, t, taken, rfl⟩ := hs
    refine ⟨may, (isWritten_of_takenOut taken).atRest_sealed, ?_⟩
    obtain ⟨s₁, t, log, hs₁, cut, rfl⟩ := taken
    exact cut

/-- What is to be deleted is marked, and nothing else is done. -/
theorem delete_atRest (rest : s₀.AtRest []) (h : s₀.StoredAs row r) :
    Triple (· = s₀) (delete r) (fun _ s => s.Removing row r ∧ s.store = s₀.store) E := by
  obtain ⟨e, he, mapped, hrow⟩ := h
  obtain ⟨key, id, hkey, -⟩ := (rest.mirrors r e he mapped).keyed
  have stays : e.isDoomed ≠ true := fun doomed =>
    List.not_mem_nil ((rest.unwritten r e he).2 doomed)
  have marked : ∀ s, s = s₀ → (s.modifyEntity r fun e =>
      { e with isMapped := true, isAttached := true, isDoomed := true }).Removing row r ∧
        s.store = s₀.store := by
    rintro _ rfl
    exact ⟨rest.removing ⟨e, he, mapped, hrow⟩, rfl⟩
  refine Triple.look_at he ?_
  rw [hkey]
  simp only [if_neg stays]
  refine Triple.bind (Q := fun s s' => s = s₀ ∧ s' = s₀) (Triple.get fun _ h => ⟨h, h⟩)
    fun s => Triple.of_known fun same => ?_
  subst same
  split
  · rename_i q found
    obtain ⟨e', he', here⟩ := isAt_of_mapped? found
    obtain rfl : q = r := rest.apart r e key q e' he mapped hkey he' here
    rw [if_neg (fun other => other rfl)]
    exact Triple.modify marked
  · exact Triple.modify marked

end Work

/-! ## Steps -/

theorem Removing.logged (h : s.Removing row r) (log : List LogRecord) :
    ({ s with log := log } : Session).Removing row r := ⟨h.rest.logged log, h.stored, h.doomed⟩

theorem step_delete (now : Instant) (rest : s.AtRest []) (stored : s.StoredAs row r) :
    (s.step now (.delete r)).result = .ok .done ∧
      (s.step now (.delete r)).session.Removing row r ∧
      (s.step now (.delete r)).session.store = s.store := by
  have marks : Work.Triple (· = { s with log := [] }) (Work.take now (.delete r))
      (fun v s' => v = .done ∧ s'.Removing row r ∧ s'.store = s.store) fun _ _ => False :=
    Work.Triple.bind (Work.delete_atRest (rest.logged []) stored) fun _ =>
      Work.Triple.pure fun _ h => ⟨rfl, h⟩
  obtain ⟨v, s', result, session, rfl, removing, store⟩ := exists_result marks
  rw [session]
  exact ⟨result, removing.logged [], store⟩

theorem step_commit (now : Instant) (h : s.Removing row r) :
    if s.store.mayRemove row then
      (s.step now .commit).result = .ok .done ∧ (s.step now .commit).session.AtRest [] ∧
        Tables.Cut s.store.enforces row s.tables (s.step now .commit).session.tables
    else
      (s.step now .commit).result = .error (.constraint .reference) ∧
        (s.step now .commit).session.tables = s.tables ∧
        (s.step now .commit).session.committed = s.tables := by
  have ends : Work.Triple (· = { s with log := [] }) (Work.take now .commit)
      (fun v s' => v = .done ∧ s.store.mayRemove row = true ∧ s'.AtRest [] ∧
        Tables.Cut s.store.enforces row s.tables s'.tables)
      (fun err s' => Stuck s row err s' ∧ s'.tables = s.tables) :=
    Work.Triple.bind (Work.commit_removing now (h.logged [])) fun _ =>
      Work.Triple.pure fun _ h => ⟨rfl, h⟩
  obtain ⟨s', session, ends⟩ := exists_ends ends
  rw [session]
  cases result : (s.step now .commit).result with
  | error err =>
    rw [result] at ends
    obtain ⟨⟨stays, rfl, committed⟩, tables⟩ := ends
    rw [if_neg (Bool.eq_false_iff.mp stays)]
    exact ⟨rfl, tables, committed⟩
  | ok v =>
    rw [result] at ends
    obtain ⟨rfl, may, rest, cut⟩ := ends
    rw [if_pos may]
    exact ⟨rfl, rest.logged [], cut⟩

instance (s : Session) (row : Row) (r : Ref) : Decidable (s.StoredAs row r) :=
  decidable_of_iff ((s.entity? r).any fun e => e.isMapped && e.row? s.tables = some row) (by
    simp [StoredAs, Option.any_eq_true])

/-- Tables with a post that carries a tag, and a link between the post and a tag that is gone. -/
def tagged : Tables where
  users := []
  posts := [⟨"p", "u", some "t", some "b", ⟨0⟩, ⟨0⟩⟩]
  comments := [⟨"c", "p", "u", some "b", ⟨0⟩, ⟨0⟩⟩]
  tags := [⟨"g", "red", none, "u", ⟨0⟩, ⟨0⟩⟩]
  links := [⟨"p", "g"⟩, ⟨"p", "h"⟩]
  documents := [⟨"posts", "p", "t b"⟩]

theorem isKeyed_tagged : tagged.IsKeyed := by
  intro k
  cases k <;> decide

/-- A session that was opened on these tables. -/
def opened : Session :=
  { start false with store := { Store.fresh false with tables := tagged }, committed := tagged }

/-- A session that read the post and its tags. -/
def browsed : Session :=
  opened.run [(⟨0⟩, .find .post (.text "p")), (⟨0⟩, .listRelated 0 "tags")]

/-- A run after which a post carries a tag under the identifier that the tag had before. -/
def renamed : Session :=
  after [recorded .post [("id", "p"), ("user_id", "u"), ("title", "t"), ("body", "b")],
    recorded .tag [("id", "g"), ("name", "red"), ("user_id", "u")],
    .assign 0 "tags" (.entities [1]), .add [0], .commit, .assign 1 "id" (.value (.str "h")), .commit]

end Weblog.Session
