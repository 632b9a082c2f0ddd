/-
  Steps after which a session is still at rest.

  A session opened on any tables is at rest (`AtRest.opened`). It stays so whatever is shown of it,
  found in it and searched for (`AtRest.step_shows`), and when what was read is given up or read
  anew, or nothing is committed (`AtRest.step`), and so after all of this in any order
  (`AtRest.run`).
-/
import Weblog.Proofs.Session.Recall

namespace Weblog.Session

variable {s s' s₀ : Session} {r : Ref} {e : Entity} {row : Row} {going : List Ref} {x : Step}
  {now : Instant} {Q : Result → Session → Prop} {E : Error → Session → Prop}

/-! ## Outcomes of steps -/

/-- What is known of the work of a step is known of what the step gives. -/
theorem exists_ends (h : Work.Triple (· = { s with log := [] }) (Work.take now x) Q E) :
    ∃ s', (s.step now x).session = { s' with log := [] } ∧
      Work.Ends Q E ((s.step now x).result, s') := by
  have ends := h _ rfl
  unfold step
  rcases hrun : (Work.take now x).run.run { s with log := [] } with ⟨res, s'⟩
  rw [hrun] at ends
  exact ⟨s', rfl, ends⟩

/-- A step whose work cannot fail gives a result. -/
theorem exists_result
    (h : Work.Triple (· = { s with log := [] }) (Work.take now x) Q fun _ _ => False) :
    ∃ v s', (s.step now x).result = .ok v ∧ (s.step now x).session = { s' with log := [] } ∧
      Q v s' := by
  obtain ⟨s', session, ends⟩ := exists_ends h
  cases hres : (s.step now x).result with
  | error err =>
    rw [hres] at ends
    exact ends.elim
  | ok v =>
    rw [hres] at ends
    exact ⟨v, s', rfl, session, ends⟩

/-! ## Sessions without entities -/

theorem entity?_of_nil (none : s.entities = []) : s.entity? r ≠ some e := by
  intro he
  rw [entity?, none] at he
  cases he

/-- A session that has read nothing is at rest. -/
theorem AtRest.opened (keyed : s.tables.IsKeyed) (committed : s.committed = s.tables)
    (none : s.entities = []) (whole : s.broken = false) : s.AtRest [] :=
  ⟨keyed, committed, whole, fun _ _ he => (entity?_of_nil none he).elim,
    fun _ _ _ _ _ he => (entity?_of_nil none he).elim, fun _ _ he => (entity?_of_nil none he).elim,
    fun _ _ he => (entity?_of_nil none he).elim⟩

/-! ## Showing -/

/-- What stands for a row after reading stood for it before, if it was there. -/
theorem Reading.stored_before (h : Reading going s₀ s) (he : s₀.entity? r = some e)
    (stored : s.StoredAs row r) : s₀.StoredAs row r := by
  obtain ⟨e', he', reads⟩ := h.entities r e he
  have found := stored.row? he'
  rw [h.tables_eq, reads.row?_eq] at found
  exact ⟨e, he, reads.mapped_of (stored.mapped he'), found⟩

/-- An entity that stands for no row may be lost sight of. -/
theorem Reading.lost (h : Reading going s₀ s) (absent : ∀ row, ¬s.StoredAs row r) :
    Reading going s₀ (s.modifyEntity r fun e =>
      { e with isMapped := false, isDoomed := false, isGone := true, wasRemoved := true }) := by
  have stands : ∀ e, s.entity? r = some e → e.Stands s.tables
      { e with isMapped := false, isDoomed := false, isGone := true, wasRemoved := true } := by
    refine fun e he => ⟨rfl, rfl, rfl, ?_⟩
    cases mapped : e.isMapped with
    | false => exact .inl rfl
    | true =>
      refine .inr ⟨rfl, Option.eq_none_iff_forall_ne_some.mpr fun row hrow => ?_⟩
      exact absent row ⟨e, he, mapped, hrow⟩
  refine h.modifyEntity (fun e he => ⟨stands e he, fun goes => ?_, fun mapped => ?_, fun mapped => ?_⟩)
    fun e he mapped => ?_
  · cases goes
  · cases mapped
  · cases mapped
  · cases mapped

namespace Work

theorem reading_mapped? (k : Kind) (id : Cell) :
    Keeps (Reading going s₀) (mapped? k id) fun _ => True := by
  refine Keeps.bind (Keeps.identifier id) fun id _ => ?_
  refine Triple.bind (Q := fun s' s => s' = s ∧ Reading going s₀ s) (Triple.get fun _ h => ⟨rfl, h⟩)
    fun s' => ?_
  rintro s ⟨rfl, hs⟩
  split
  · exact ⟨hs, trivial⟩
  · rename_i r found
    obtain ⟨e, he, -⟩ := isAt_of_mapped? found
    refine Triple.look_at he ?_ s' rfl
    split
    · -- Only an entity that stands for no row is lost sight of.
      refine Triple.bind (Q := fun _ => Reading going s₀) (Triple.tryCatch
        (show Triple _ _ _ fun err s => Reading going s₀ s ∧ err.isInvalid = false ∧
          ∀ row, ¬s.StoredAs row r from ?_) fun err => ?_) fun o => ?_
      · refine Triple.bind (Q := fun _ => Reading going s₀) (Triple.weaken (reading_revive
          fun err s'' hs'' calm absent => ?_) (fun _ same => .of_eq hs.toAtRest same)
            (fun _ _ h => hs.trans h.1) fun _ _ h => h) fun _ => Triple.pure fun _ h => h
        exact ⟨hs.trans hs'', calm, fun row stored => absent row (hs''.stored_before he stored)⟩
      · split
        · refine Triple.bind (Q := fun _ => Reading going s₀)
            (Triple.modify fun s h => h.1.lost h.2.2) fun _ => Triple.pure fun _ h => h
        · exact Triple.bind (Q := fun _ _ => False) (Triple.throw fun s h => ⟨h.1, h.2.1⟩)
            fun _ _ h => h.elim
      · cases o <;> exact Triple.pure fun _ h => ⟨h, trivial⟩
    · exact Triple.pure fun s same => ⟨same ▸ hs, trivial⟩

theorem keptByShowing_reading (going : List Ref) (s₀ : Session) :
    KeptByShowing (Reading going s₀) := by
  have excused : ∀ r, Excused going s₀ r fun err s => Reading going s₀ s ∧ err.isInvalid = false :=
    fun r err s hs calm _ => ⟨hs, calm⟩
  refine ⟨⟨⟨fun r => ?_, fun r rel o => ?_⟩, reading_mapped?, fun {s k row} hs hrow => ?_⟩,
    fun r rel => ?_⟩
  · exact Triple.weaken (reading_revive (excused r)) (fun _ h => h) (fun _ _ h => ⟨h.1, trivial⟩)
      fun _ _ h => h
  · exact Keeps.alter fun s hs => hs.setOwner rel o
  · have found := hs.keyed.row?_of_mem hrow
    rw [hs.tables_eq, ← Tables.kind_of_mem hrow] at found
    exact Triple.weaken (reading_adopt found) (fun _ h => h) (fun _ _ h => ⟨h.1, trivial⟩)
      fun _ _ h => h
  · exact Triple.weaken (reading_members (excused r) rel) (fun _ h => h)
      (fun _ _ h => ⟨h, trivial⟩) fun _ _ h => h

end Work

/-- Steps that only show something leave a session at rest, with what was there. -/
theorem AtRest.step_shows (rest : s.AtRest going) (now : Instant) (shows : x.shows = true) :
    Reading going s (s.step now x).session := by
  obtain ⟨s', session, ends⟩ := exists_ends fun _ same =>
    (Work.keptByShowing_reading going { s with log := [] }).take now shows _
      (.of_eq (rest.logged []) same)
  have read : Reading going { s with log := [] } s' := by
    cases hres : (s.step now x).result <;> (rw [hres] at ends; exact ends.1)
  rw [session]
  exact ⟨read.toAtRest.logged [], read.store, read.entities⟩

/-! ## Reading anew -/

namespace Work

/-- An entity that is read anew holds what its row holds. -/
theorem refresh_atRest (rest : s.AtRest going) (r : Ref) :
    Triple (· = s) (refresh r) (fun _ s' => s'.AtRest going ∧ s'.store = s.store)
      fun _ s' => s'.AtRest going ∧ s'.store = s.store := by
  have unchanged : ∀ s', s' = s → s'.AtRest going ∧ s'.store = s.store := by
    rintro _ rfl
    exact ⟨rest, rfl⟩
  refine Triple.look (fun s' same _ => unchanged s' same) fun s' e same he => ?_
  subst same
  split
  · rename_i key mapped hkey
    have expired : (s'.modifyEntity r Entity.expired).AtRest going :=
      rest.modifyEntity (fun e _ => ⟨rfl, rfl, rfl, .inl rfl⟩) (fun _ _ => .inl) fun e he mapped =>
        ⟨.expired (rest.mirrors r e he mapped).toIsSettled _, fun _ => .inl rfl⟩
    refine Triple.bind (Q := fun _ s => s = s'.modifyEntity r Entity.expired)
      (Triple.modify fun s same => same ▸ rfl) fun _ => ?_
    refine Triple.bind (Triple.weaken (run_row? (s'.modifyEntity r Entity.expired) e.kind key)
      (fun _ h => h) (fun _ _ h => h) fun _ s h => ?_) fun o => ?_
    · exact h.1 ▸ ⟨expired, rfl⟩
    · split
      · exact Triple.throw fun s h => h.1 ▸ ⟨expired, rfl⟩
      · rename_i row
        refine Triple.modify fun s h => ?_
        obtain ⟨rfl, found⟩ := h
        have he := entity?_modifyEntity_self (f := Entity.expired) he
        exact ⟨((Reading.refl expired).filled he (fun _ => row?_of_rowAt hkey found)
          fun e => e.kind.columns).toAtRest, rfl⟩
  · exact Triple.throw unchanged

/-- Where nothing is to be written, nothing is. -/
theorem flush_clean {P : Session → Prop} {E : Error → Session → Prop} (now : Instant)
    (clean : ∀ s, P s → s.isClean = true) : Triple P (flush now) (fun _ => P) E := by
  refine Triple.bind (Q := fun s' s => s' = s ∧ P s) (Triple.get fun _ h => ⟨rfl, h⟩) fun s' => ?_
  rintro s ⟨rfl, hs⟩
  rw [if_pos (clean _ hs)]
  exact hs

theorem flushAll_clean {P : Session → Prop} {E : Error → Session → Prop} (now : Instant) (n : Nat)
    (clean : ∀ s, P s → s.isClean = true) : Triple P (flushAll now n) (fun _ => P) E := by
  cases n with
  | zero => exact Triple.pure fun _ h => h
  | succ n =>
    refine Triple.bind (Q := fun s' s => s' = s ∧ P s) (Triple.get fun _ h => ⟨rfl, h⟩) fun s' => ?_
    rintro s ⟨rfl, hs⟩
    rw [clean _ hs]
    exact hs

/-- Committing where nothing is to be written only seals the session. -/
theorem commit_sealed (now : Instant) (whole : s.broken = false) (clean : s.isClean = true)
    {E : Error → Session → Prop} :
    Triple (· = s) (commit now) (fun _ s' => s' = s.sealed) E := by
  refine Triple.bind (Triple.reaching fun s' same => same ▸ whole) fun _ => ?_
  rintro s' ⟨-, rfl⟩
  refine Triple.bind (P := (· = s')) (flushAll_clean now 100 fun s same => same ▸ clean)
    (fun _ => Triple.modify ?_) s' rfl
  rintro _ rfl
  rfl

/-- Committing where nothing is to be written gives up what was read. -/
theorem commit_clean (now : Instant) (rest : s.AtRest []) {E : Error → Session → Prop} :
    Triple (· = s) (commit now) (fun _ s' => s'.AtRest [] ∧ s'.store = s.store) E := by
  refine Triple.weaken (commit_sealed now rest.whole rest.isWritten.isClean) (fun _ h => h)
    (fun _ _ same => ?_) (fun _ _ h => h)
  subst same
  exact ⟨rest.isWritten.atRest_sealed, rfl⟩

end Work

/-- A step that shows something, gives up what was read or reads it anew, or writes what there is
to write. -/
def Step.isCalm : Step → Bool
  | .refresh _ | .expireAll | .flush | .commit => true
  | x => x.shows

/-- A session at rest stays at rest and keeps its tables, whatever is read. -/
theorem AtRest.step (rest : s.AtRest []) (now : Instant) (calm : x.isCalm = true) :
    (s.step now x).session.AtRest [] ∧ (s.step now x).session.store = s.store := by
  by_cases shows : x.shows = true
  · have read := rest.step_shows now shows
    exact ⟨read.toAtRest, read.store⟩
  · have kept : Work.Triple (· = { s with log := [] }) (Work.take now x)
        (fun _ s' => s'.AtRest [] ∧ s'.store = s.store)
        (fun _ s' => s'.AtRest [] ∧ s'.store = s.store) := by
      have logged := rest.logged []
      cases x with
      | refresh r =>
        exact Work.Triple.bind (Work.refresh_atRest logged r) fun _ => Work.Triple.pure fun _ h => h
      | expireAll =>
        refine Work.Triple.bind (P := (· = { s with log := [] })) (Q := fun _ s' =>
          s'.AtRest [] ∧ s'.store = s.store) (Work.Triple.modify fun s' same => ?_)
            fun _ => Work.Triple.pure fun _ h => h
        exact same ▸ ⟨logged.isWritten.atRest_expireAll logged.committed, rfl⟩
      | flush =>
        refine Work.Triple.bind (Work.flush_clean now fun s' same => ?_) fun _ =>
          Work.Triple.pure fun s' same => ?_
        · exact same ▸ logged.isWritten.isClean
        · exact same ▸ ⟨logged, rfl⟩
      | commit =>
        exact Work.Triple.bind (Work.commit_clean now logged) fun _ => Work.Triple.pure fun _ h => h
      | _ => exact absurd calm shows
    obtain ⟨s', session, ends⟩ := exists_ends kept
    rw [session]
    cases hres : (s.step now x).result <;> (rw [hres] at ends; exact ⟨ends.1.logged [], ends.2⟩)

/-- The session that steps lead to. -/
def run (s : Session) (xs : List (Instant × Step)) : Session :=
  xs.foldl (fun s x => (s.step x.1 x.2).session) s

/-- However much is read, one step after the other, a session at rest stays so. -/
theorem AtRest.run (rest : s.AtRest []) (xs : List (Instant × Step))
    (calm : ∀ x ∈ xs, x.2.isCalm = true) :
    (s.run xs).AtRest [] ∧ (s.run xs).store = s.store := by
  induction xs generalizing s with
  | nil => exact ⟨rest, rfl⟩
  | cons x xs ih =>
    obtain ⟨stays, store⟩ := rest.step x.1 (calm x List.mem_cons_self)
    obtain ⟨ends, kept⟩ := ih stays fun y hy => calm y (List.mem_cons_of_mem x hy)
    exact ⟨ends, kept.trans store⟩

end Weblog.Session
