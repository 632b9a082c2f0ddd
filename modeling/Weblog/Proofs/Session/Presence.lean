/-
  Presence validation over all runs of a session.

  A flush is refused if and only if an entity that is to be put in or was touched shows a blank
  required attribute, as long as what is validated can be read, and a refused flush changes nothing
  that matters. So no row with a blank required attribute is ever stored.

  A run may do anything but two things: set what rules validation itself (`Step.IsOrdinary`), and write
  while a record that is to be taken out with a blank required attribute is a new member of another
  one (`Session.Spares`): validation passes over the former, and a flush then writes it after all.
-/
import Mathlib
import Weblog.Proofs.Session.Flush

namespace Weblog.Session

variable {s s₀ : Session} {r : Ref} {e : Entity} {now : Instant} {x : Step}

/-! ## Steps -/

/-- A step that leaves presence validation alone. -/
def Step.IsOrdinary : Step → Prop
  | .create _ attributes => ∀ a ∈ attributes, a.2.IsOrdinary a.1
  | .assign _ name given => given.IsOrdinary name
  | _ => True

instance : DecidablePred Step.IsOrdinary
  | .create _ attributes => inferInstanceAs (Decidable (∀ a ∈ attributes, a.2.IsOrdinary a.1))
  | .assign _ name given => inferInstanceAs (Decidable (given.IsOrdinary name))
  | .add _ | .append .. | .discard .. | .delete _ | .refresh _ | .flush | .commit | .rollback
  | .expireAll | .display _ | .validate _ | .describe _ | .listRelated .. | .find .. | .readTables
  | .search .. | .reindex _ | .clearDocuments | .putDocument .. => inferInstanceAs (Decidable True)

/-- A step that flushes. -/
def Step.writes : Step → Bool
  | .flush | .commit | .reindex _ => true
  | _ => false

/-- The step was refused on account of a record that is not valid. -/
def Outcome.IsRefused (o : Outcome) : Prop := ∃ k cs, o.result = .error (.invalid k cs)

namespace Work

/-- Work of which only the session matters afterwards. -/
theorem anyway {α : Type} {m : Work α} {Q : α → Prop} (h : Keeps IsOrderly m Q) :
    Triple IsOrderly m (fun _ => IsOrderly) fun _ => IsOrderly :=
  Triple.weaken h (fun _ h => h) (fun _ _ h => h.1) fun _ _ h => h.1

theorem thenPure {α β : Type} {P : Session → Prop} {m : Work α} {f : α → β}
    (h : Triple P m (fun _ => IsOrderly) fun _ => IsOrderly) :
    Triple P (do return f (← m)) (fun _ => IsOrderly) fun _ => IsOrderly :=
  Triple.bind h fun _ => Triple.pure fun _ h => h

/-- Steps that do not flush keep entities in good order. -/
theorem orderly_take (now : Instant) (ordinary : x.IsOrdinary) (still : x.writes = false) :
    Triple IsOrderly (take now x) (fun _ => IsOrderly) fun _ => IsOrderly := by
  cases x with
  | create k attributes => exact thenPure (anyway (keeps_create k ordinary))
  | add rs => exact thenPure (anyway (Keeps.forM fun r _ => keptByRelating_orderly.add r))
  | assign r name given => exact thenPure (anyway (keeps_assign r ordinary))
  | append r name m =>
    exact anyway (Keeps.bind (keptByRelating_orderly.manyNamed r name "append") fun rel _ =>
      Keeps.bind (keptByRelating_orderly.append r rel m) fun _ _ => Keeps.pure (Q := fun _ => True) trivial)
  | discard r name m =>
    exact anyway (Keeps.bind (keptByRelating_orderly.manyNamed r name "remove") fun rel _ =>
      Keeps.bind (keptByRelating_orderly.discard r rel m) fun _ _ => Keeps.pure (Q := fun _ => True) trivial)
  | delete r => exact thenPure (anyway (keeps_delete r))
  | refresh r => exact thenPure (anyway (keeps_refresh r))
  | flush => cases still
  | commit => cases still
  | rollback => exact thenPure (Triple.modify fun _ h => orderly_rollback h)
  | expireAll => exact thenPure (Triple.modify fun _ h => orderly_expireAll h)
  | reindex k => cases still
  | clearDocuments => exact thenPure (anyway (keeps_dropDocuments _))
  | putDocument type id content => exact thenPure (anyway (keeps_putDocument type id content))
  | _ => exact anyway (keptByRelating_orderly.keptByShowing.take now rfl)

/-- Every ordinary step keeps entities in good order, if nothing can be spared when it flushes. -/
theorem orderly_after (now : Instant) (ordinary : x.IsOrdinary) (h : s.IsOrderly)
    (calm : x.writes = true → ¬s.Spares) : ((take now x).run.run s).2.IsOrderly := by
  have ends : Ends (fun _ => IsOrderly) (fun _ => IsOrderly) ((take now x).run.run s) := by
    cases writes : x.writes with
    | false => exact orderly_take now ordinary writes s h
    | true =>
      have quiet : s.Quiet := ⟨h, calm writes⟩
      cases x with
      | flush =>
        exact thenPure (Triple.weaken (quiet_flush now) (fun _ h => h) (fun _ _ h => h.1)
          fun _ _ h => h) s quiet
      | commit => exact thenPure (quiet_commit now) s quiet
      | reindex k => exact thenPure (quiet_reindex now k) s quiet
      | _ => cases writes
  rcases hrun : (take now x).run.run s with ⟨_ | _, s'⟩
  · rw [hrun] at ends
    exact ends
  · rw [hrun] at ends
    exact ends

end Work

/-! ## Runs -/

/-- The sessions that steps lead to: ordinary steps, none of which flushes while anything can be
spared. -/
inductive Reachable (enforces : Bool) : Session → Prop
  | start : Reachable enforces (.start enforces)
  | step {s : Session} (now : Instant) {x : Step} (before : Reachable enforces s)
      (ordinary : x.IsOrdinary) (calm : x.writes = true → ¬s.Spares) :
      Reachable enforces (s.step now x).session

theorem orderly_start (enforces : Bool) : (start enforces).IsOrderly := fun _ =>
  ⟨Tables.isFilled_empty, Tables.isFilled_empty, Nat.zero_le _, fun _ _ he => by cases he⟩

theorem Reachable.log_eq {enforces : Bool} (h : Reachable enforces s) : s.log = [] := by
  cases h <;> rfl

/-- What was logged does not matter. -/
theorem orderly_unlogged (h : s.IsOrderly) : ({ s with log := [] } : Session).IsOrderly :=
  h.of_same rfl (fun _ => id) rfl

theorem session_step (s : Session) (now : Instant) (x : Step) :
    (s.step now x).session =
      { ((Work.take now x).run.run { s with log := [] }).2 with log := [] } := rfl

/-- Entities are in good order along every run. -/
theorem Reachable.orderly {enforces : Bool} (h : Reachable enforces s) : s.IsOrderly := by
  induction h with
  | start => exact orderly_start enforces
  | step now before ordinary calm ih =>
    rw [session_step]
    exact orderly_unlogged (Work.orderly_after now ordinary (orderly_unlogged ih) calm)

theorem exists_of_isInvalid {err : Error} (h : err.isInvalid = true) :
    ∃ k cs, err = .invalid k cs := by
  cases err with
  | invalid k cs => exact ⟨k, cs, rfl⟩
  | _ => cases h

theorem ShowsBlank.not_passes (h : s.ShowsBlank r) : ¬s.Passes r := by
  obtain ⟨e, he, c, hc, v, shown, blank⟩ := h
  intro passes
  obtain ⟨w, shown', visible⟩ := passes e he c hc
  obtain rfl := Except.ok.inj (shown.symm.trans shown')
  rw [blank] at visible
  cases visible

/-- Along every run no stored row has a blank required attribute. A flush is refused only on account
of an entity to be put in or touched that shows one, and it is refused if there is such an entity and
all that is validated can be read. A refused flush leaves the tables, the identifiers used up and what
there is to write as they were. -/
theorem flush_refuses_blank {enforces : Bool} (h : Reachable enforces s) (now : Instant) :
    (s.tables.IsFilled ∧ s.committed.IsFilled) ∧
    ((s.step now .flush).IsRefused →
      (∃ r ∈ s.pending ++ s.dirty, s.ShowsBlank r) ∧
      (s.step now .flush).session.store = s.store ∧
      (s.step now .flush).session.committed = s.committed ∧
      (s.step now .flush).session.pending = s.pending ∧
      (s.step now .flush).session.dirty = s.dirty ∧
      (s.step now .flush).session.doomed = s.doomed) ∧
    ((∀ r ∈ s.pending ++ s.dirty, s.IsReadable r) →
      (∃ r ∈ s.pending ++ s.dirty, s.ShowsBlank r) → (s.step now .flush).IsRefused) := by
  have orderly := h.orderly
  have fresh : ({ s with log := [] } : Session) = s := by
    rw [← h.log_eq]
  obtain ⟨tables, committed, -, -⟩ := orderly trivial
  refine ⟨⟨tables, committed⟩, ?_⟩
  have ends := Work.run_flush now orderly s rfl
  unfold step Work.take
  rw [fresh, ExceptT.run_bind, StateT.run_bind]
  rcases hrun : (Work.flush now).run.run s with ⟨err | _, s'⟩
  · rw [hrun] at ends
    obtain ⟨-, refused, other⟩ := ends
    refine ⟨fun ⟨k, cs, invalid⟩ => ?_, fun readable blank => ?_⟩
    · obtain rfl := Except.error.inj invalid
      obtain ⟨looked, blank⟩ := refused rfl
      exact ⟨blank, looked.store, looked.committed, looked.standing⟩
    · obtain ⟨r, hr, blank⟩ := blank
      suffices invalid : err.isInvalid = true by
        obtain ⟨k, cs, rfl⟩ := exists_of_isInvalid invalid
        exact ⟨k, cs, rfl⟩
      refine Bool.of_not_eq_false fun valid => ?_
      rcases other valid with ⟨q, hq, unreadable⟩ | passes
      · exact unreadable (readable q hq)
      · exact blank.not_passes (passes r hr)
  · rw [hrun] at ends
    refine ⟨fun ⟨k, cs, invalid⟩ => ?_, fun _ ⟨r, hr, blank⟩ => ?_⟩
    · cases invalid
    · exact absurd (ends.1 r hr) blank.not_passes

/-! ## Single runs -/

theorem showsBlank_iff : s.ShowsBlank r ↔ (s.entity? r).any (fun e => e.kind.required.any fun c =>
    ((Work.value r c).run.run s).1.toOption.any Cell.isBlank) = true := by
  unfold ShowsBlank Shows
  rw [Option.any_eq_true]
  refine exists_congr fun e => and_congr_right fun _ => ?_
  rw [List.any_eq_true]
  refine exists_congr fun c => and_congr_right fun _ => ?_
  rw [Option.any_eq_true]
  refine exists_congr fun v => and_congr_left fun _ => ?_
  cases ((Work.value r c).run.run s).1 <;> simp [Except.toOption]

instance : Decidable (s.ShowsBlank r) := decidable_of_iff _ showsBlank_iff.symm

theorem isReadable_iff : s.IsReadable r ↔ ∀ e ∈ s.entity? r, e.kind.isValidated = true →
    ∀ c ∈ .id :: e.kind.required, ((Work.value r c).run.run s).1.toOption.isSome = true := by
  unfold IsReadable Shows
  refine forall₃_congr fun e _ _ => forall_congr' fun c => ?_
  rw [List.mem_cons]
  refine imp_congr_right fun _ => ?_
  cases ((Work.value r c).run.run s).1 <;> simp [Except.toOption]

instance : Decidable (s.IsReadable r) := decidable_of_iff _ isReadable_iff.symm

/-- The session after some steps at one instant. -/
def after (xs : List Step) : Session :=
  xs.foldl (fun s x => (s.step ⟨0⟩ x).session) (start false)

/-- A post with a title. -/
def titled (title : Json) : Step :=
  .create .post [("id", .value (.str "p")), ("user_id", .value (.str "u")), ("title", .value title),
    ("body", .value (.str "b"))]

/-- A run after which a post with a blank title is to be put in. -/
def drafted : Session := after [titled (.str " "), .add [0]]

theorem drafted_refused : Reachable false drafted ∧ drafted.pending ++ drafted.dirty = [0] ∧
    (drafted.step ⟨0⟩ .flush).IsRefused ∧ (drafted.step ⟨0⟩ .flush).session.pending = [0] := by
  have reachable : Reachable false drafted :=
    .step ⟨0⟩ (.step ⟨0⟩ .start (by decide) fun writes => by cases writes) (by decide)
      fun writes => by cases writes
  have written : drafted.pending ++ drafted.dirty = [0] := by decide +kernel
  obtain ⟨-, unchanged, refused⟩ := flush_refuses_blank reachable ⟨0⟩
  rw [written] at refused
  have refused := refused (by decide +kernel) ⟨0, by decide, by decide +kernel⟩
  obtain ⟨-, -, -, pending, -, -⟩ := unchanged refused
  refine ⟨reachable, written, refused, pending.trans ?_⟩
  decide +kernel

/-- A record of a kind with texts. -/
def recorded (k : Kind) (attributes : List (String × String)) : Step :=
  .create k (attributes.map fun a => (a.1, .value (.str a.2)))

/-- A run after which a stored comment is to be taken out, has a blank body, and is a new member of
a post that is to be put in. -/
def handedOver : Session :=
  after [recorded .post [("id", "p"), ("user_id", "u"), ("title", "t"), ("body", "b")],
    recorded .comment [("id", "c"), ("post_id", "p"), ("user_id", "u"), ("body", "b")],
    .add [1], .flush, .delete 1, .assign 1 "body" (.value (.str " ")), .add [0],
    .append 0 "comments" 1]

/-- The comment is spared and written with its blank body: validation passes over it, since it is
neither to be put in nor touched and to stay. -/
theorem handedOver_written :
    handedOver.pending ++ handedOver.dirty = [0] ∧ handedOver.doomed = [1] ∧
      (handedOver.step ⟨0⟩ .flush).result.toOption = some .done ∧
      (handedOver.step ⟨0⟩ .flush).session.tables.comments.map (fun c => (c.id, c.body)) =
        [("c", some " ")] := by
  -- All parts are read off one evaluation of the run.
  have seen : (fun s : Session => (s.pending ++ s.dirty, s.doomed,
      (s.step ⟨0⟩ .flush).result.toOption,
      (s.step ⟨0⟩ .flush).session.tables.comments.map fun c => (c.id, c.body))) handedOver =
      ([0], [1], some .done, [("c", some " ")]) := by cbv
  rw [Prod.mk.injEq, Prod.mk.injEq, Prod.mk.injEq] at seen
  exact seen

end Weblog.Session
