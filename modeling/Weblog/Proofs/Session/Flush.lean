/-
  A flush keeps the tables filled and entities in good order, and so does what begins with one.

  When the tasks are carried out, entities that go are lost sight of, and the others are settled with
  their rows. What may not be written went, so nothing with a blank required attribute is left in the
  session (`Clear`), and nothing can be spared when the session is flushed again.
-/
import Weblog.Proofs.Session.Writing

namespace Weblog

theorem Entity.orderly_settled {e : Entity} (h : e.Orderly) (filled : e.IsFilled) :
    e.settled.Orderly where
  plain := h.plain
  untouched := fun _ => filled
  keyed := h.keyed
  given := by
    intro c _ held stale
    obtain ⟨-, unheld⟩ := List.mem_filter.mp stale
    have held : (e.held? c).isSome = true := held
    rw [Option.isNone_iff_eq_none] at unheld
    rw [unheld] at held
    cases held
  ruled := h.ruled

namespace Session

variable {s s₀ : Session} {r : Ref} {e : Entity} {p : Plan} {now : Instant}

/-! ## Leaving entities with their rows -/

/-- An entity after the tasks were carried out: it is filled if it may be written, and if it is in the
session. -/
def Clear (s₀ : Session) (r : Ref) (e : Entity) : Prop :=
  e.Orderly ∧ (s₀.MayWrite r → e.IsFilled) ∧ (e.isContained = true → e.IsFilled)

theorem closed_clear (s₀ : Session) : Closed Entity.Steady 0 (Clear s₀) where
  step := by
    rintro r e e' ⟨orderly, written, kept⟩ steady
    exact ⟨steady.orderly orderly, fun may => steady.filled (written may),
      fun contained => steady.filled (kept (steady.contained contained))⟩
  new := by
    intro r row _ hrow
    obtain ⟨orderly, filled⟩ := Entity.orderly_ofRow hrow
    exact ⟨orderly, fun _ => filled, fun _ => filled⟩

/-- Entities since writing began, some of which went. -/
def Sunk (s₀ : Session) (rs : List Ref) (r : Ref) (e : Entity) : Prop :=
  Came Entity.Steady s₀ r e ∧ (r ∈ rs → e.isMapped = false)

/-- Once all went that the plan lets go, what is left in the session is filled. -/
theorem clear_of_sunk (prepared : s₀.Prepared) (hp : p.IsSound s₀) {rs : List Ref}
    (all : ∀ x ∈ p.roles, x.2.2.goes = true → x.1 ∈ rs) (h : Sunk s₀ rs r e) : Clear s₀ r e := by
  obtain ⟨came, gone⟩ := h
  obtain ⟨fair, covers⟩ := hp prepared
  refine ⟨came.orderly prepared, came.filled prepared, fun contained => ?_⟩
  rcases came with ⟨e₀, he₀, steady⟩ | ⟨-, row, hrow, steady⟩
  · suffices fit : e₀.IsFit from steady.filled fit.1
    refine Classical.byContradiction fun unfit => ?_
    have contained₀ := steady.contained contained
    obtain ⟨x, hx, rfl⟩ := covers r e₀ he₀ contained₀ unfit
    have goes : x.2.2.goes = true :=
      Bool.of_not_eq_false fun stays => unfit ((fair x hx e₀ he₀).2.2 stays)
    rw [Entity.isContained, gone (all x hx goes), Bool.or_false, Entity.isPending, steady.turn]
      at contained
    refine unfit (prepared.fit x.1 (List.mem_append_left _ ?_) e₀ he₀)
    exact List.mem_mergeSort.mpr ((mem_refs he₀).mpr contained)
  · exact steady.filled (Entity.orderly_ofRow hrow).2

namespace Work

theorem forM_markGone (gone : List (Ref × Kind × Role)) (rs : List Ref) :
    Triple (Holding s₀.Prepared s₀.entities.length (Sunk s₀ rs)) (gone.forM fun x => markGone x.1)
      (fun _ => Holding s₀.Prepared s₀.entities.length (Sunk s₀ (gone.map Prod.fst ++ rs)))
      fun _ _ => False := by
  induction gone generalizing rs with
  | nil => exact Triple.pure fun _ hs => hs
  | cons x gone ih =>
    refine Triple.bind (Q := fun _ => Holding s₀.Prepared s₀.entities.length (Sunk s₀ (x.1 :: rs)))
      (Triple.modify fun s hs prepared => ?_) fun _ => ?_
    · obtain ⟨tables, committed, enough, entities⟩ := hs prepared
      refine ⟨tables, committed, ?_, fun q e he => ?_⟩
      · rw [Session.modifyEntity, List.length_modify]
        exact enough
      · rw [entity?_modifyEntity] at he
        split at he
        · obtain ⟨e', he', rfl⟩ := Option.map_eq_some_iff.mp he
          exact ⟨(closed_underway s₀).calm.still.step (entities q e' he').1 e'.still_markGone,
            fun _ => rfl⟩
        · rename_i other
          obtain ⟨came, gone⟩ := entities q e he
          refine ⟨came, fun mem => gone ?_⟩
          exact (List.mem_cons.mp mem).resolve_left fun same => other same.symm
    · refine Triple.weaken (ih (x.1 :: rs)) (fun _ h => h) (fun _ s hs => ?_) fun _ _ h => h
      refine hs.mono (fun _ => Nat.le_refl _) fun _ r e sunk => ⟨sunk.1, fun mem => sunk.2 ?_⟩
      rcases List.mem_cons.mp mem with rfl | mem
      · exact List.mem_append_right _ List.mem_cons_self
      · rcases List.mem_append.mp mem with mem | mem
        · exact List.mem_append_left _ mem
        · exact List.mem_append_right _ (List.mem_cons_of_mem _ mem)

/-- A written entity is left with its row. -/
theorem keeps_settle (may : s₀.MayWrite r) :
    Keeps (Holding s₀.Prepared 0 (Clear s₀)) (settle r) fun _ => True := by
  refine Keeps.bind (keeps_look r) fun e _ =>
    Keeps.readied (keeps_revive (closed_clear s₀).calm.still) ?_
  refine Keeps.bind (keeps_look r) fun e _ => ?_
  split
  · exact Keeps.throw rfl
  · refine Triple.bind (Q := fun _ => Holding s₀.Prepared 0 fun q e =>
      Clear s₀ q e ∧ (q = r → e.key?.isSome = true)) (Triple.modify fun s hs prepared => ?_) fun _ => ?_
    · obtain ⟨tables, committed, enough, entities⟩ := hs prepared
      refine ⟨tables, committed, Nat.zero_le _, fun q e he => ?_⟩
      rw [entity?_modifyEntity] at he
      split at he
      · rename_i same
        subst same
        obtain ⟨e', he', rfl⟩ := Option.map_eq_some_iff.mp he
        obtain ⟨orderly, written, -⟩ := entities _ e' he'
        have filled := written may
        refine ⟨⟨orderly.restand rfl rfl rfl rfl rfl id fun mapped => ?_, fun _ => filled,
          fun _ => filled⟩, fun _ => rfl⟩
        cases mapped
      · rename_i other
        exact ⟨entities q e he, fun same => absurd same.symm other⟩
    · refine Triple.bind (Q := fun _ => Holding s₀.Prepared 0 (Clear s₀))
        (Triple.modify fun s hs => ?_) fun _ => ?_
      · refine (hs.occupy fun prepared q e m _ clear hm => ?_).mono
          (fun _ => Nat.le_refl _) fun _ _ _ => And.left
        obtain ⟨⟨orderly, written, kept⟩, keyed⟩ := clear
        have filled : m = true → e.IsFilled := fun mapped => by
          rcases hm mapped with old | rfl
          · exact kept (Bool.or_eq_true_iff.mpr (.inr old))
          · exact written may
        refine ⟨⟨orderly.restand rfl rfl rfl rfl rfl id fun mapped => ?_, written,
          fun contained => ?_⟩, keyed⟩
        · rcases hm mapped with old | same
          · exact orderly.keyed old
          · exact keyed same
        · rcases Bool.or_eq_true_iff.mp contained with pending | mapped
          · exact kept (Bool.or_eq_true_iff.mpr (.inl pending))
          · exact filled mapped
      · refine Keeps.alter fun s hs => hs.modifyEntity fun prepared e he => ?_
        obtain ⟨orderly, written, -⟩ := hs.entity he prepared
        have filled := written may
        exact ⟨e.orderly_settled orderly filled, fun _ => filled, fun _ => filled⟩

/-- Carrying out the plan of a flush never fails on account of a record that is not valid. -/
theorem keeps_carryOut (now : Instant) (s₀ : Session) :
    Triple (· = s₀) (carryOut now (.initial s₀)) (fun _ => Holding s₀.Prepared 0 (Clear s₀))
      fun err s => (s₀.Prepared → s.IsOrderly) ∧ err.isInvalid = false := by
  have sunk : ∀ rs s, Holding s₀.Prepared s₀.entities.length (Sunk s₀ rs) s → s₀.Prepared →
      s.IsOrderly := fun rs s hs prepared _ => hs.mono (fun _ => Nat.zero_le _)
    (fun prepared _ _ h => h.1.orderly prepared) prepared
  have underway : ∀ s, s₀.Underway s → s₀.Prepared → s.IsOrderly := fun s hs prepared _ =>
    hs.mono (fun _ => Nat.zero_le _) (fun prepared _ _ h => h.orderly prepared) prepared
  have atWork : ∀ s, Plan.AtWork s₀ s → s₀.Underway s := fun s hs =>
    hs.mono (fun _ => Nat.le_refl _) fun _ r e h => h.imp (fun ⟨e₀, he₀, calm⟩ =>
      ⟨e₀, he₀, calm.toSteady⟩) fun ⟨new, row, hrow, calm⟩ => ⟨new, row, hrow, calm.toSteady⟩
  have clear : ∀ s, Holding s₀.Prepared 0 (Clear s₀) s → s₀.Prepared → s.IsOrderly :=
    fun s hs prepared _ => hs.mono (fun _ => Nat.le_refl _) (fun _ _ _ h => h.1) prepared
  refine Triple.weaken (P := Plan.AtWork s₀) ?_ ?_ (fun _ _ h => h) fun _ _ h => h
  · unfold carryOut
    refine Keeps.andThen Keeps.get (fun err s hs he => ⟨underway s (atWork s hs), he⟩) fun s hs => ?_
    refine Keeps.andThen (Plan.keeps_complete _ Plan.initial_sound)
      (fun err s hs he => ⟨underway s (atWork s hs), he⟩) fun p hp => ?_
    refine Triple.weaken (P := Underway s₀) ?_ atWork (fun _ _ h => h) fun _ _ h => h
    refine Keeps.andThen (Keeps.foldlM (R := fun done => done.plan.IsSound s₀) hp
      fun t _ done hdone => keeps_perform now hdone t)
      (fun err s hs he => ⟨underway s hs, he⟩) fun done hdone => ?_
    rw [List.partition_eq_filter_filter]
    refine Triple.bind (Q := fun _ => Holding s₀.Prepared s₀.entities.length (Sunk s₀
        ((done.plan.roles.filter fun x => x.2.2.goes).map Prod.fst ++ [])))
      (Triple.weaken (forM_markGone _ []) (fun s hs => ?_) (fun _ _ h => h) fun _ _ h => h.elim)
      fun _ => ?_
    · exact hs.mono (fun _ => Nat.le_refl _) fun _ _ _ h => ⟨h, fun none => by cases none⟩
    · refine Triple.weaken (P := Holding s₀.Prepared 0 (Clear s₀)) ?_ (fun s hs => ?_)
        (fun _ _ h => h) fun _ _ h => h
      · refine Keeps.andThen (Keeps.forM fun x hx => keeps_settle fun prepared e he => ?_)
          (fun err s hs he => ⟨clear s hs, he⟩) fun _ _ => Triple.modify fun s hs => ?_
        · obtain ⟨hx, stays⟩ := List.mem_filter.mp hx
          exact ((hdone prepared).1 x hx e he).2.2 (Bool.not_eq_true' _ ▸ stays)
        · refine hs.mapEntities fun prepared r e he => ?_
          obtain ⟨orderly, written, kept⟩ := hs.entity he prepared
          split
          · rename_i touched
            have filled := kept (Bool.or_eq_true_iff.mpr (.inr (Bool.and_eq_true_iff.mp touched).1))
            exact ⟨e.orderly_settled orderly filled, fun _ => filled, fun _ => filled⟩
          · exact ⟨orderly, written, kept⟩
      · refine hs.mono (fun _ => Nat.zero_le _) fun prepared r e h =>
          clear_of_sunk prepared hdone (fun x hx goes => List.mem_append_left _ ?_) h
        exact List.mem_map_of_mem (List.mem_filter.mpr ⟨hx, goes⟩)
  · rintro _ rfl prepared
    obtain ⟨tables, committed, -, -⟩ := prepared.orderly trivial
    exact ⟨tables, committed, Nat.le_refl _, Plan.came_self _⟩

/-! ## Flushing -/

end Work

/-- Entities are in good order, and a flush would spare nothing. -/
def Quiet (s : Session) : Prop := s.IsOrderly ∧ ¬s.Spares

theorem quiet_of_clear (prepared : s₀.Prepared) (h : Holding s₀.Prepared 0 (Clear s₀) s) :
    s.Quiet := by
  refine ⟨fun _ => h.mono (fun _ => Nat.le_refl _) (fun _ _ _ h => h.1) prepared, ?_⟩
  rintro ⟨-, -, -, m, e, -, -, -, -, he, contained, -, blank⟩
  exact blank ((h.entity he prepared).2.2 contained)

theorem written_of_clean (clean : s.isClean = true) : s.pending ++ s.dirty = [] := by
  rw [List.append_eq_nil_iff]
  have clean := fun r e (he : s.entity? r = some e) =>
    List.all_eq_true.mp clean e (List.mem_of_getElem? he)
  constructor
  · rw [pending, refs_eq_nil fun r e he => ?_, List.mergeSort_nil]
    have still := clean r e he
    rw [Bool.and_assoc, Bool.and_eq_true_iff] at still
    exact Bool.not_eq_true' _ ▸ still.1
  · refine refs_eq_nil fun r e he => ?_
    have still := clean r e he
    rw [Bool.and_assoc, Bool.and_eq_true_iff, Bool.and_eq_true_iff] at still
    have untouched : (e.isMapped && e.isTouched) = false := Bool.not_eq_true' _ ▸ still.2.1
    rw [Entity.isDirty, untouched, Bool.false_and]

/-- Validated entities are prepared for being written. -/
theorem Looked.prepared (h : Looked s₀ s) (orderly : s₀.IsOrderly) (calm : ¬s₀.Spares)
    (passes : ∀ r ∈ s₀.pending ++ s₀.dirty, s₀.Passes r) : s.Prepared where
  orderly := h.orderly orderly
  fit := by
    intro r hr e he
    obtain ⟨pending, dirty, -⟩ := h.standing
    rw [pending, dirty] at hr
    exact h.fit orderly (passes r hr) he
  calm := fun spares => calm (spares_of_came (fun r e he =>
    (h.came (orderly trivial).tables he).imp (fun ⟨e₀, he₀, still⟩ => ⟨e₀, he₀, still.calm⟩)
      fun ⟨new, row, hrow, still⟩ => ⟨new, row, hrow, still.calm⟩) spares)

theorem exists_written (orderly : s.IsOrderly) (hr : r ∈ s.pending ++ s.dirty) :
    ∃ e, s.entity? r = some e ∧ e.Orderly := by
  have bound : r ∈ List.range s.entities.length := by
    rcases List.mem_append.mp hr with hr | hr
    · exact (List.mem_filter.mp (List.mem_mergeSort.mp hr)).1
    · exact (List.mem_filter.mp hr).1
  have he := List.getElem?_eq_getElem (List.mem_range.mp bound)
  exact ⟨_, he, orderly.entity he trivial⟩

namespace Work

/-- A flush that goes through validated everything, and leaves nothing to be spared. One that fails
on account of a record that is not valid changed nothing. -/
theorem run_flush (now : Instant) (orderly : s.IsOrderly) :
    Triple (· = s) (flush now)
      (fun _ s' => (∀ r ∈ s.pending ++ s.dirty, s.Passes r) ∧ (¬s.Spares → s'.Quiet))
      fun err s' => (¬s.Spares → s'.IsOrderly) ∧
        (err.isInvalid = true → Looked s s' ∧ ∃ r ∈ s.pending ++ s.dirty, s.ShowsBlank r) ∧
        (err.isInvalid = false → (∃ r ∈ s.pending ++ s.dirty, ¬s.IsReadable r) ∨
          ∀ r ∈ s.pending ++ s.dirty, s.Passes r) := by
  refine Triple.bind (Q := fun s' t => s' = s ∧ t = s) (Triple.get fun _ h => ⟨h, h⟩)
    fun s' => Triple.of_known fun hs => ?_
  subst hs
  by_cases clean : s'.isClean = true
  · rw [if_pos clean]
    refine Triple.pure ?_
    rintro _ rfl
    rw [written_of_clean clean]
    exact ⟨(fun _ h => by cases h), fun calm => ⟨orderly, calm⟩⟩
  · rw [if_neg clean]
    refine Triple.bind (Triple.weaken (forM_validate_looked fun r hr => exists_written orderly hr)
      (fun _ h => h ▸ .refl _) (fun _ _ h => h) fun err s h => ⟨fun _ => h.1.orderly orderly,
        fun invalid => ⟨h.1, h.2.1 invalid⟩, fun other => .inl (h.2.2 other)⟩) fun _ => ?_
    intro s₀ ⟨looked, passes⟩
    have prepared := fun calm => looked.prepared orderly calm passes
    refine Triple.bind (P := (· = s₀)) (Q := fun s'' t => s'' = s₀ ∧ t = s₀) ?_
      (fun s'' => Triple.of_known fun hs => ?_) s₀ rfl
    · refine Triple.bind (Q := fun s'' t => s'' = s₀ ∧ t = s₀) (Triple.get fun _ h => ⟨h, h⟩)
        fun s'' => Triple.of_known fun hs => ?_
      subst hs
      split
      · refine Triple.throw ?_
        rintro _ rfl
        refine ⟨fun _ => looked.orderly orderly, fun invalid => ?_, fun _ => .inr passes⟩
        cases invalid
      · exact Triple.pure fun _ h => ⟨rfl, h⟩
    · subst hs
      refine Triple.tryCatch (Triple.weaken (keeps_carryOut now s'') (fun _ h => h)
        (fun _ s h => ⟨passes, fun calm => quiet_of_clear (prepared calm) h⟩) fun _ _ h => h)
        fun err => ?_
      refine Triple.bind (Q := fun _ s => (s''.Prepared → s.IsOrderly) ∧ err.isInvalid = false)
        (Triple.modify fun s h => ⟨fun prepared => orderly_failed (h.1 prepared), h.2⟩) fun _ => ?_
      refine Triple.throw fun s h => ⟨fun calm => h.1 (prepared calm), fun invalid => ?_,
        fun _ => .inr passes⟩
      rw [h.2] at invalid
      cases invalid

/-- From a quiet session, a flush leads to a quiet one, or fails and leaves entities in good order. -/
theorem quiet_flush (now : Instant) :
    Triple Quiet (flush now) (fun _ => Quiet) fun _ => IsOrderly := fun s ⟨orderly, calm⟩ =>
  Triple.weaken (run_flush now orderly) (fun _ h => h) (fun _ _ h => h.2 calm)
    (fun _ _ h => h.1 calm) s rfl

theorem quiet_flushAll (now : Instant) (n : Nat) :
    Triple Quiet (flushAll now n) (fun _ => Quiet) fun _ => IsOrderly := by
  induction n with
  | zero => exact Triple.pure fun _ h => h
  | succ n ih =>
    refine Triple.bind (Q := fun _ => Quiet) (Triple.get fun _ h => h) fun s => ?_
    split
    · exact Triple.bind (quiet_flush now) fun _ => ih
    · exact Triple.pure fun _ h => h

theorem quiet_commit (now : Instant) :
    Triple Quiet (commit now) (fun _ => IsOrderly) fun _ => IsOrderly := by
  refine Keeps.andThen Keeps.reaching (fun _ _ h _ => h.1) fun _ _ => ?_
  refine Triple.bind (quiet_flushAll now 100) fun _ => Triple.modify fun s h => ?_
  exact orderly_sealed h.1

/-! ## Documents -/

theorem keeps_dropDocuments {C : Prop} {n : Nat} {P : Ref → Entity → Prop} (q : DocumentRow → Bool) :
    Keeps (Holding C n P) (dropDocuments q) fun _ => True := by
  refine keeps_storing fun store store' filled h => ?_
  obtain rfl := Except.ok.inj h
  exact filled.of_same rfl rfl rfl rfl

theorem keeps_insertDocument {C : Prop} {n : Nat} {P : Ref → Entity → Prop} (d : DocumentRow) :
    Keeps (Holding C n P) (insertDocument d) fun _ => True := by
  refine keeps_storing fun store store' filled h => ?_
  split at h
  · cases h
  · obtain rfl := Except.ok.inj h
    exact filled.of_same rfl rfl rfl rfl

theorem keeps_needText {I : Session → Prop} (c : Constraint) (v : Cell) :
    Keeps I (needText c v) fun _ => True := by
  unfold needText
  split
  · exact Keeps.pure trivial
  · exact Keeps.throw rfl

theorem keeps_putDocument (type id content : Cell) :
    Keeps IsOrderly (putDocument type id content) fun _ => True :=
  Keeps.bind Keeps.reaching fun _ _ => Keeps.bind (keeps_bindFrom 1 _) fun _ _ =>
    Keeps.bind (keeps_needText _ type) fun _ _ => Keeps.bind (keeps_needText _ id) fun _ _ =>
    Keeps.bind (keeps_needText _ content) fun _ _ => keeps_insertDocument _

/-- Entities since they were in a quiet session are in a quiet session. -/
theorem quiet_of_came (quiet : s₀.Quiet)
    (h : Holding True s₀.entities.length (Came Entity.Calm s₀) s) : s.Quiet := by
  obtain ⟨orderly, calm⟩ := quiet
  refine ⟨h.mono (fun _ => Nat.zero_le _) fun _ r e came => ?_,
    fun spares => calm (spares_of_came (h trivial).entities spares)⟩
  rcases came with ⟨e₀, he₀, calm⟩ | ⟨-, row, hrow, calm⟩
  · exact calm.orderly (orderly.entity he₀ trivial)
  · exact calm.orderly (Entity.orderly_ofRow hrow).1

theorem quiet_reindex (now : Instant) (k : Kind) :
    Triple Quiet (reindex now k) (fun _ => IsOrderly) fun _ => IsOrderly := by
  intro s₀ quiet
  have still := (Plan.closed_atWork s₀).still
  have fails : ∀ (err : Error) s, Holding True s₀.entities.length (Came Entity.Calm s₀) s →
      err.isInvalid = false → s.IsOrderly := fun _ s h _ => (quiet_of_came quiet h).1
  refine Triple.weaken (P := Holding True s₀.entities.length (Came Entity.Calm s₀)) ?_ ?_
    (fun _ _ h => h) (fun _ _ h => h) s₀ rfl
  · unfold reindex
    refine Triple.guard (fun _ s h => fails (.notSearchable k) s h rfl) fun _ => ?_
    refine Keeps.andThen (keeps_dropDocuments _) fails fun _ _ => ?_
    refine Keeps.andThen Keeps.reaching fails fun s hs => ?_
    refine Keeps.andThen (Keeps.mapM_all (R := fun _ => True) fun row hrow =>
      keeps_adopt still fun hC => (hs hC).tables k row hrow) fails fun rs _ => ?_
    refine Keeps.andThen (Keeps.forM fun r _ => Keeps.bind ((keptByReading still).document r)
      fun d _ => keeps_insertDocument d) fails fun _ _ => ?_
    refine Triple.bind (Triple.weaken (quiet_commit now) (fun _ h => quiet_of_came quiet h)
      (fun _ _ h => h) fun _ _ h => h) fun _ => ?_
    refine Triple.bind (Q := fun _ => IsOrderly) (Triple.modify fun s h => ?_) fun _ =>
      Triple.pure fun _ h => h
    exact h.of_same rfl (fun _ => id) rfl
  · rintro _ rfl _
    obtain ⟨tables, committed, -, -⟩ := quiet.1 trivial
    exact ⟨tables, committed, Nat.le_refl _, Plan.came_self _⟩

end Work

end Session

end Weblog
