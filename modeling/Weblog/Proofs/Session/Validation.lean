/-
  Validation of what is to be written.

  To validate entities is to look at them: what an entity gave up may be read again, and nothing
  else changes (`Looked`). So the first entity with a blank required attribute is found from the
  session in which validation begins, and a failed validation leaves the tables and what there is to
  write as they were.
-/
import Weblog.Proofs.Session.Undoing

namespace Weblog

theorem Column.text_injective {c d : Column} (h : c.text = d.text) : c = d := by
  cases c <;> cases d <;> first | rfl | exact absurd h (by decide)

theorem Kind.column?_text {k : Kind} {c : Column} (hc : c ∈ k.required) : k.column? c.text = some c := by
  revert hc
  cases k <;> cases c <;> decide

theorem Presence.complaintsOf_eq_nil {blank : List String} : complaintsOf blank = [] ↔ blank = [] := by
  unfold complaintsOf
  rw [List.map_eq_nil_iff]
  cases blank <;> simp [List.eraseDups_cons]

namespace Session

variable {s s₀ : Session} {r : Ref} {e : Entity} {c : Column} {v : Cell} {row : Row}

/-! ## What an attribute shows -/

/-- An attribute shows a value: it is held, or it is read from the row. -/
def Shows (s : Session) (r : Ref) (c : Column) (v : Cell) : Prop :=
  ((Work.value r c).run.run s).1 = .ok v

/-- An entity shows a blank required attribute. -/
def ShowsBlank (s : Session) (r : Ref) : Prop :=
  ∃ e, s.entity? r = some e ∧ ∃ c ∈ e.kind.required, ∃ v, s.Shows r c v ∧ v.isBlank = true

/-- What validation looks at in an entity can be read: the required attributes and the
identifier. -/
def IsReadable (s : Session) (r : Ref) : Prop :=
  ∀ e, s.entity? r = some e → e.kind.isValidated = true →
    ∀ c, c = .id ∨ c ∈ e.kind.required → ∃ v, s.Shows r c v

/-- No required attribute of an entity is blank. -/
def Passes (s : Session) (r : Ref) : Prop :=
  ∀ e, s.entity? r = some e → ∀ c ∈ e.kind.required, ∃ v, s.Shows r c v ∧ v.isBlank = false

/-- The value that a column of an entity shows. -/
def regarded (s : Session) (e : Entity) (c : Column) : Except Error Cell :=
  match e.held? c with
  | some v => .ok v
  | none =>
    if e.stale.contains c then (s.reread e).map fun row => ((e.revived row).held? c).getD .null
    else .ok .null

theorem isInvalid_of_regarded {err : Error} (h : s.regarded e c = .error err) :
    err.isInvalid = false := by
  unfold regarded at h
  split at h
  · cases h
  · split at h
    · cases failed : s.reread e with
      | error err' =>
        rw [failed] at h
        exact Except.error.inj h ▸ isInvalid_of_reread failed
      | ok row =>
        rw [failed] at h
        cases h
    · cases h

namespace Work

theorem run_value (s : Session) (he : s.entity? r = some e) (c : Column) :
    Triple (· = s) (value r c)
      (fun v s' => s.regarded e c = .ok v ∧
        (s' = s ∨ c ∈ e.stale ∧ ∃ row, s.reread e = .ok row ∧
          s' = s.modifyEntity r (·.revived row)))
      fun err s' => s' = s ∧ s.regarded e c = .error err := by
  refine Triple.look_at he ?_
  unfold regarded
  cases held : e.held? c with
  | some v => exact Triple.pure fun _ hs => ⟨rfl, .inl hs⟩
  | none =>
    dsimp only
    split
    · rename_i stale
      refine Triple.bind (Triple.weaken (run_revive s he) (fun _ h => h) (fun _ _ h => h) ?_)
        fun _ => ?_
      · rintro err s' ⟨same, failed⟩
        exact ⟨same, by rw [failed]; rfl⟩
      · intro s' ⟨row, hrow, hs'⟩
        have he' : s'.entity? r = some (e.revived row) := hs' ▸ entity?_modifyEntity_self he
        refine Triple.look_at he' ?_ s' rfl
        exact Triple.pure fun _ h => ⟨by rw [hrow]; rfl,
          .inr ⟨List.contains_iff_mem.mp stale, row, hrow, h.trans hs'⟩⟩
    · refine Triple.look_at he (Triple.pure fun _ hs => ⟨?_, .inl hs⟩)
      rw [held]
      rfl

end Work

theorem shows_iff (he : s.entity? r = some e) : s.Shows r c v ↔ s.regarded e c = .ok v := by
  have ends := Work.run_value s he c s rfl
  unfold Shows
  rcases hrun : (Work.value r c).run.run s with ⟨_ | w, s'⟩
  · rw [hrun] at ends
    rw [ends.2]
  · rw [hrun] at ends
    rw [ends.1]

/-! ## Looking -/

/-- A session after entities were looked at: the row of some of them was read again. -/
structure Looked (s₀ s : Session) : Prop where
  store : s.store = s₀.store
  committed : s.committed = s₀.committed
  broken : s.broken = s₀.broken
  length : s.entities.length = s₀.entities.length
  entities : ∀ r e, s₀.entity? r = some e → s.entity? r = some e ∨
    ∃ row, s₀.reread e = .ok row ∧ s.entity? r = some (e.revived row)

theorem Looked.refl (s : Session) : Looked s s := ⟨rfl, rfl, rfl, rfl, fun _ _ => .inl⟩

theorem Looked.revived (h : Looked s₀ s) (he : s₀.entity? r = some e) (hrow : s₀.reread e = .ok row)
    (he' : s.entity? r = some e) : Looked s₀ (s.modifyEntity r (·.revived row)) where
  store := h.store
  committed := h.committed
  broken := h.broken
  length := by
    rw [modifyEntity, List.length_modify]
    exact h.length
  entities := by
    intro q f hf
    by_cases same : r = q
    · subst same
      obtain rfl := Option.some.inj (he.symm.trans hf)
      exact .inr ⟨row, hrow, entity?_modifyEntity_self he'⟩
    · rw [entity?_modifyEntity, if_neg same]
      exact h.entities q f hf

/-- What a required column shows does not change when the row is read again. -/
theorem regarded_revived (orderly : e.Orderly) (hc : c ∈ e.kind.required)
    (hrow : s₀.reread e = .ok row) :
    s₀.regarded e c = .ok (((e.revived row).held? c).getD .null) := by
  unfold regarded
  cases held : e.held? c with
  | some v =>
    have kept : (e.revived row).held? c = some v := by
      refine (Entity.held?_fill e row _ c).trans ?_
      rw [if_neg, held]
      intro wanted
      obtain ⟨stale, unset⟩ := List.mem_filter.mp (List.contains_iff_mem.mp wanted)
      have set := orderly.given c hc (by rw [held]; rfl) stale
      rw [Option.isNone_iff_eq_none] at unset
      rw [unset] at set
      cases set
    rw [kept]
    rfl
  | none =>
    dsimp only
    split
    · rw [hrow]
      rfl
    · rename_i read
      have kept : (e.revived row).held? c = none := by
        refine (Entity.held?_fill e row _ c).trans ?_
        rw [if_neg, held]
        intro wanted
        exact read (List.contains_iff_mem.mpr
          (List.mem_filter.mp (List.contains_iff_mem.mp wanted)).1)
      rw [kept]
      rfl

namespace Work

variable (he : s₀.entity? r = some e) (orderly : e.Orderly)

include he orderly

/-- Looking at a column. -/
theorem value_looked (c : Column) :
    Triple (Looked s₀) (value r c)
      (fun v s => Looked s₀ s ∧ (c ∈ e.kind.required → s₀.Shows r c v))
      fun err s => Looked s₀ s ∧ err.isInvalid = false ∧ ¬∃ v, s₀.Shows r c v := by
  intro s hs
  rcases hs.entities r e he with he' | ⟨row, hrow, he'⟩
  · have again := reread_congr hs.store hs.broken e
    have same : s.regarded e c = s₀.regarded e c := by
      unfold regarded
      rw [again]
    refine Triple.weaken (run_value s he' c) (fun _ h => h) (fun v s' h => ?_) (fun err s' h => ?_)
      s rfl
    · refine ⟨?_, fun _ => (shows_iff he).mpr (same ▸ h.1)⟩
      rcases h.2 with rfl | ⟨-, row, hrow, rfl⟩
      · exact hs
      · exact hs.revived he (again ▸ hrow) he'
    · obtain ⟨rfl, failed⟩ := h
      rw [same] at failed
      refine ⟨hs, isInvalid_of_regarded failed, fun ⟨v, hv⟩ => ?_⟩
      rw [shows_iff he, failed] at hv
      cases hv
  · have known : s.regarded (e.revived row) c = .ok (((e.revived row).held? c).getD .null) := by
      unfold regarded
      split
      · rename_i held
        rw [held]
        rfl
      · rename_i held
        rw [held]
        rfl
    refine Triple.weaken (run_value s he' c) (fun _ h => h) (fun v s' h => ?_) (fun err s' h => ?_)
      s rfl
    · rcases h.2 with rfl | ⟨stale, -⟩
      · refine ⟨hs, fun hc => (shows_iff he).mpr ?_⟩
        rw [regarded_revived orderly hc hrow, ← known]
        exact h.1
      · cases stale
    · rw [known] at h
      cases h.2

omit orderly in
/-- The kind of an entity that was looked at, and the attributes besides. -/
theorem exists_looked (hs : Looked s₀ s) :
    ∃ e', s.entity? r = some e' ∧ e'.kind = e.kind ∧ e'.extras = e.extras := by
  rcases hs.entities r e he with he' | ⟨row, -, he'⟩
  · exact ⟨e, he', rfl, rfl⟩
  · exact ⟨e.revived row, he', rfl, rfl⟩

theorem isBlankNamed_looked (hc : c ∈ e.kind.required) :
    Triple (Looked s₀) (isBlankNamed r c.text)
      (fun b s => Looked s₀ s ∧ ∃ v, s₀.Shows r c v ∧ v.isBlank = b)
      fun err s => Looked s₀ s ∧ err.isInvalid = false ∧ ¬∃ v, s₀.Shows r c v := by
  intro s hs
  obtain ⟨e', he', kind, -⟩ := exists_looked he hs
  refine Triple.look_at he' ?_ s rfl
  rw [kind, Kind.column?_text hc]
  refine Triple.bind (Triple.weaken (value_looked he orderly c) (fun _ h => h ▸ hs)
    (fun _ _ h => h) fun _ _ h => h) fun v => Triple.pure fun _ h => ?_
  exact ⟨h.1, v, h.2 hc, rfl⟩

theorem complaints_looked (validated : e.kind.isValidated = true) :
    Triple (Looked s₀) (complaints r)
      (fun cs s => Looked s₀ s ∧ (cs = [] → s₀.Passes r) ∧ (cs ≠ [] → s₀.ShowsBlank r))
      fun err s => Looked s₀ s ∧ err.isInvalid = false ∧ ¬s₀.IsReadable r := by
  intro s hs
  obtain ⟨e', he', kind, extras⟩ := exists_looked he hs
  obtain ⟨required, question⟩ := orderly.ruled
  refine Triple.look_at he' ?_ s rfl
  rw [kind, extras, Presence.checkAskable, question, Presence.requiredNames, required]
  refine Triple.bind (Q := fun names s' => s' = s ∧ names = ()) (Triple.pure fun _ h => ⟨h, rfl⟩)
    fun _ => ?_
  refine Triple.bind (Q := fun names s' => names = e.kind.required.map Column.text ∧ s' = s)
    (Triple.pure fun _ h => ⟨rfl, h.1⟩) fun names => Triple.of_known fun hnames => ?_
  subst hnames
  refine Triple.weaken (P := Looked s₀) ?_ (fun _ h => h ▸ hs) (fun _ _ h => h) fun _ _ h => h
  refine Triple.bind (Triple.filterM (S := fun name b => ∃ c ∈ e.kind.required, c.text = name ∧
    ∃ v, s₀.Shows r c v ∧ v.isBlank = b) fun name hname => ?_) fun blank => Triple.pure fun s' h => ?_
  · obtain ⟨c, hc, rfl⟩ := List.mem_map.mp hname
    refine Triple.weaken (isBlankNamed_looked he orderly hc) (fun _ h => h)
      (fun b s' h => ⟨h.1, c, hc, rfl, h.2⟩) fun err s' h => ⟨h.1, h.2.1, fun readable => ?_⟩
    exact h.2.2 (readable e he validated c (.inr hc))
  · obtain ⟨hs', hnone, hsome⟩ := h
    refine ⟨hs', fun empty e₁ he₁ c hc => ?_, fun full => ?_⟩
    · obtain rfl := Option.some.inj (he.symm.trans he₁)
      obtain ⟨d, -, same, v, hv⟩ := hnone (Presence.complaintsOf_eq_nil.mp empty) c.text
        (List.mem_map_of_mem hc)
      exact ⟨v, Column.text_injective same ▸ hv⟩
    · obtain ⟨-, -, c, hc, -, v, hv⟩ := hsome fun empty => full (Presence.complaintsOf_eq_nil.mpr empty)
      exact ⟨e, he, c, hc, v, hv⟩

theorem validate_looked :
    Triple (Looked s₀) (validate r) (fun _ s => Looked s₀ s ∧ s₀.Passes r)
      fun err s => Looked s₀ s ∧ (err.isInvalid = true → s₀.ShowsBlank r) ∧
        (err.isInvalid = false → ¬s₀.IsReadable r) := by
  intro s hs
  obtain ⟨e', he', kind, -⟩ := exists_looked he hs
  refine Triple.look_at he' ?_ s rfl
  rw [kind]
  refine Triple.weaken (P := Looked s₀) ?_ (fun _ h => h ▸ hs) (fun _ _ h => h) fun _ _ h => h
  by_cases validated : e.kind.isValidated = true
  · rw [if_pos validated]
    refine Triple.bind (Triple.weaken (complaints_looked he orderly validated) (fun _ h => h)
      (fun _ _ h => h) fun err s' h => ⟨h.1, fun invalid => ?_, fun _ => h.2.2⟩) fun cs => ?_
    · rw [h.2.1] at invalid
      cases invalid
    · split
      · exact Triple.pure fun s' h => ⟨h.1, h.2.1 rfl⟩
      · rename_i full
        refine Triple.bind (Q := fun _ s' => Looked s₀ s' ∧ s₀.ShowsBlank r) ?_ fun id => ?_
        · intro s' h
          refine Triple.weaken (value_looked he orderly .id) (fun _ h => h)
            (fun _ _ h' => ⟨h'.1, h.2.2 full⟩) (fun err s'' h' => ⟨h'.1, fun invalid => ?_, fun _ => ?_⟩)
            s' h.1
          · rw [h'.2.1] at invalid
            cases invalid
          · exact fun readable => h'.2.2 (readable e he validated .id (.inl rfl))
        · refine Triple.bind (Q := fun _ s' => Looked s₀ s' ∧ s₀.ShowsBlank r)
            (Triple.modify fun s' h => ⟨⟨h.1.store, h.1.committed, h.1.broken, h.1.length,
              h.1.entities⟩, h.2⟩) fun _ => Triple.throw fun s' h => ⟨h.1, fun _ => h.2, fun h => ?_⟩
          cases h
  · rw [if_neg validated]
    refine Triple.pure fun s' h => ⟨h, fun e₁ he₁ c hc => ?_⟩
    obtain rfl := Option.some.inj (he.symm.trans he₁)
    cases hk : e.kind with
    | user =>
      rw [hk] at hc
      cases hc
    | _ => exact absurd (by rw [hk]; rfl) validated

omit he orderly in
/-- Entities are validated in turn until one of them is not valid, or cannot be read. -/
theorem forM_validate_looked {rs : List Ref}
    (orderly : ∀ r ∈ rs, ∃ e, s₀.entity? r = some e ∧ e.Orderly) :
    Triple (Looked s₀) (rs.forM validate) (fun _ s => Looked s₀ s ∧ ∀ r ∈ rs, s₀.Passes r)
      fun err s => Looked s₀ s ∧ (err.isInvalid = true → ∃ r ∈ rs, s₀.ShowsBlank r) ∧
        (err.isInvalid = false → ∃ r ∈ rs, ¬s₀.IsReadable r) := by
  induction rs with
  | nil => exact Triple.pure fun _ hs => ⟨hs, fun _ h => by cases h⟩
  | cons r rs ih =>
    obtain ⟨e, he, horderly⟩ := orderly r List.mem_cons_self
    refine Triple.bind (Triple.weaken (validate_looked he horderly) (fun _ h => h) (fun _ _ h => h)
      fun err s h => ⟨h.1, fun invalid => ?_, fun other => ?_⟩) fun _ s ⟨hs, passes⟩ => ?_
    · exact ⟨r, List.mem_cons_self, h.2.1 invalid⟩
    · exact ⟨r, List.mem_cons_self, h.2.2 other⟩
    · refine Triple.weaken (ih fun q hq => orderly q (List.mem_cons_of_mem r hq)) (fun _ h => h)
        (fun _ s' h => ⟨h.1, List.forall_mem_cons.mpr ⟨passes, h.2⟩⟩)
        (fun err s' h => ⟨h.1, fun invalid => ?_, fun other => ?_⟩) s hs
      · obtain ⟨q, hq, blank⟩ := h.2.1 invalid
        exact ⟨q, List.mem_cons_of_mem r hq, blank⟩
      · obtain ⟨q, hq, unread⟩ := h.2.2 other
        exact ⟨q, List.mem_cons_of_mem r hq, unread⟩

end Work

/-! ## After validation -/

namespace Looked

theorem refs_eq (h : Looked s₀ s) {p : Entity → Bool} (hp : ∀ e row, p (e.revived row) = p e) :
    s.refs p = s₀.refs p := by
  unfold refs
  rw [h.length]
  refine List.filter_congr fun r hr => ?_
  obtain ⟨e, he⟩ : ∃ e, s₀.entity? r = some e :=
    ⟨_, List.getElem?_eq_getElem (List.mem_range.mp hr)⟩
  rw [he]
  rcases h.entities r e he with he' | ⟨row, -, he'⟩
  · rw [he']
  · rw [he']
    exact hp e row

theorem turn_eq (h : Looked s₀ s) (r : Ref) :
    (s.entity? r).elim 0 Entity.turn = (s₀.entity? r).elim 0 Entity.turn := by
  cases he : s₀.entity? r with
  | none =>
    have gone : s.entity? r = none := by
      rw [entity?, List.getElem?_eq_none_iff, h.length]
      exact List.getElem?_eq_none_iff.mp he
    rw [gone]
  | some e =>
    rcases h.entities r e he with he' | ⟨row, -, he'⟩
    · rw [he']
    · rw [he']
      rfl

/-- What there is to write does not change when it is looked at. -/
theorem standing (h : Looked s₀ s) :
    s.pending = s₀.pending ∧ s.dirty = s₀.dirty ∧ s.doomed = s₀.doomed := by
  refine ⟨?_, h.refs_eq fun _ _ => rfl, h.refs_eq fun _ _ => rfl⟩
  unfold pending
  rw [h.refs_eq (p := Entity.isPending) fun _ _ => rfl]
  simp only [h.turn_eq]

/-- An entity that was looked at came from what it was. -/
theorem came (h : Looked s₀ s) (filled : s₀.tables.IsFilled) {e' : Entity}
    (he' : s.entity? r = some e') : Came Entity.Still s₀ r e' := by
  obtain ⟨e, he⟩ : ∃ e, s₀.entity? r = some e := by
    refine ⟨_, List.getElem?_eq_getElem ?_⟩
    rw [← h.length]
    exact (List.getElem?_eq_some_iff.mp he').1
  refine .inl ⟨e, he, ?_⟩
  rcases h.entities r e he with same | ⟨row, hrow, same⟩
  · rw [Option.some.inj (he'.symm.trans same)]
    exact .refl e
  · rw [Option.some.inj (he'.symm.trans same)]
    have mem := mem_of_reread hrow
    exact e.still_revived (filled _ row mem) (Tables.kind_of_mem mem)

theorem orderly (h : Looked s₀ s) (orderly : s₀.IsOrderly) : s.IsOrderly := by
  intro hC
  obtain ⟨tables, committed, -, entities⟩ := orderly hC
  refine ⟨?_, h.committed ▸ committed, Nat.zero_le _, fun r e' he' => ?_⟩
  · rw [Session.tables, h.store]
    exact tables
  · rcases h.came tables he' with ⟨e, he, still⟩ | ⟨-, row, hrow, still⟩
    · exact still.orderly (entities r e he)
    · exact still.orderly (Entity.orderly_ofRow hrow).1

end Looked

end Session

namespace Entity

/-- An entity that can be written: no required column is held with a blank value, and without a row
all are held. -/
def IsFit (e : Entity) : Prop := e.IsFilled ∧ (e.key? = none → e.IsComplete)

end Entity

namespace Session

/-- What passed validation can be written. -/
theorem Looked.fit {s₀ s : Session} {r : Ref} (h : Looked s₀ s) (orderly : s₀.IsOrderly)
    (passes : s₀.Passes r) {e' : Entity} (he' : s.entity? r = some e') : e'.IsFit := by
  obtain ⟨e, he⟩ : ∃ e, s₀.entity? r = some e := by
    refine ⟨_, List.getElem?_eq_getElem ?_⟩
    rw [← h.length]
    exact (List.getElem?_eq_some_iff.mp he').1
  have shown : ∀ c ∈ e.kind.required, ∀ v, s₀.regarded e c = .ok v → v.isBlank = false := by
    intro c hc v hv
    obtain ⟨w, hw, visible⟩ := passes e he c hc
    rw [shows_iff he, hv] at hw
    exact Except.ok.inj hw ▸ visible
  rcases h.entities r e he with same | ⟨row, hrow, same⟩
  · obtain rfl := Option.some.inj (he'.symm.trans same)
    refine ⟨fun c hc v hv => shown c hc v ?_, fun unkeyed c hc => ?_⟩
    · rw [regarded, hv]
    · cases held : e'.held? c with
      | some v => rfl
      | none =>
        obtain ⟨w, hw, visible⟩ := passes e' he c hc
        rw [shows_iff he, regarded, held] at hw
        dsimp only at hw
        split at hw
        · have lost : ∃ err, s₀.reread e' = .error err := by
            unfold reread
            rw [unkeyed]
            split
            · exact ⟨_, rfl⟩
            · exact ⟨_, rfl⟩
          obtain ⟨err, lost⟩ := lost
          rw [lost] at hw
          cases hw
        · rw [← Except.ok.inj hw] at visible
          cases visible
  · obtain rfl := Option.some.inj (he'.symm.trans same)
    refine ⟨fun c hc v hv => shown c hc v ?_, fun unkeyed => ?_⟩
    · rw [regarded_revived (orderly.entity he trivial) hc hrow, hv]
      rfl
    · have key : e.key? = none := unkeyed
      unfold reread at hrow
      rw [key] at hrow
      split at hrow <;> cases hrow

end Session

end Weblog
