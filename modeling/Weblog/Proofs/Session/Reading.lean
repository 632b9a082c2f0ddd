/-
  Reading keeps sessions watched: what is read into an entity comes from the tables, which are
  filled.

  Three pieces of work are opened in one session: finding a row (`run_row?`), reading again what an
  entity gave up (`run_revive`), and taking a row over into an entity (`adopt_at`). All others are put
  together from these.
-/
import Weblog.Proofs.Session.Watched
import Weblog.Session.Reading

namespace Weblog

open Session (Closed Holding)

namespace Entity

variable {e : Entity} {row : Row}

/-- An entity after its row was read again. -/
def revived (row : Row) (e : Entity) : Entity :=
  { e.fill row (e.stale.filter fun c => (e.formerCells.lookup c).isNone) with stale := [] }

theorem still_fill (e : Entity) (hrow : row.IsFilled) (kind : row.kind = e.kind)
    (cs : List Column) : Still e (e.fill row cs) :=
  ⟨steady_fill e hrow kind cs, rfl⟩

theorem still_revived (e : Entity) (hrow : row.IsFilled) (kind : row.kind = e.kind) :
    Still e (e.revived row) :=
  ⟨{ steady_fill e hrow kind _ with given := fun _ _ _ _ h => by cases h }, rfl⟩

/-- An entity whose row is gone is lost sight of. -/
theorem still_markGone (e : Entity) :
    Still e { e with isMapped := false, isDoomed := false, isGone := true, wasRemoved := true } :=
  ⟨.of_same rfl rfl rfl rfl id (fun h => by cases h) (fun h => by cases h) rfl rfl rfl, rfl⟩

/-- A former member leaves. -/
theorem calm_erase (e : Entity) {rel : Relation} {current : List Ref} {former : Option (List Ref)}
    (read : e.membersOf rel = .read current former) (m : Ref) :
    Calm e (e.setMembers rel (.read (current.erase m) former)) := by
  refine .of_assign (.of_same rfl rfl rfl rfl id id id rfl rfl rfl) rfl fun x hx => ?_
  rw [memberShift, membersOf_of_assign rfl, if_pos rfl] at hx
  rw [memberShift, read]
  cases former with
  | none => exact hx
  | some old =>
    obtain ⟨q, hq, rfl⟩ := List.mem_map.mp hx
    obtain ⟨hq, new⟩ := List.mem_filter.mp hq
    exact List.mem_map_of_mem (List.mem_filter.mpr ⟨List.mem_of_mem_erase hq, new⟩)

/-- Members are read that nothing was noted of. -/
theorem calm_read (e : Entity) {rel : Relation} (found : List Ref) :
    Calm e { e.setMembers rel (.read found none) with isExpired := false } := by
  refine .of_assign (.of_same rfl rfl rfl rfl id id id rfl rfl rfl) rfl fun x hx => ?_
  rw [memberShift, membersOf_of_assign rfl, if_pos rfl] at hx
  cases hx

/-- Members are read, and those join that were noted. -/
theorem calm_joined (e : Entity) {rel : Relation} {joining leaving : List Ref}
    (unread : e.membersOf rel = .unread joining leaving) (found : List Ref) :
    Calm e { e.setMembers rel (.read (found ++ joining) (some found)) with
      isExpired := false, isTouched := true } := by
  refine .of_assign (.of_same rfl rfl rfl rfl (fun _ => rfl) id id rfl rfl rfl) rfl fun x hx => ?_
  rw [memberShift, membersOf_of_assign rfl, if_pos rfl] at hx
  rw [memberShift, unread]
  obtain ⟨q, hq, rfl⟩ := List.mem_map.mp hx
  obtain ⟨hq, new⟩ := List.mem_filter.mp hq
  rcases List.mem_append.mp hq with hq | hq
  · rw [List.contains_iff_mem.mpr hq] at new
    cases new
  · exact List.mem_map_of_mem hq

end Entity

namespace Session

variable {C : Prop} {n : Nat} {P : Ref → Entity → Prop} {s s₀ : Session} {r : Ref} {k : Kind}
  {c : Column} {rel : Relation} {row : Row} {e : Entity} {id : Cell}

/-! ## Rows -/

/-- What stands under an identifier in the tables. -/
def rowAt (s : Session) (k : Kind) (id : Cell) : Except Error (Option Row) :=
  if s.broken then .error .needsRollback
  else match id.bindFault? with
    | none => .ok (id.text?.bind (s.tables.row? k))
    | some .tooLarge => .error .tooLarge
    | some (.unsupported type) => .error (.unsupported 1 type)

/-- The row that an entity is read from again. -/
def reread (s : Session) (e : Entity) : Except Error Row :=
  if !e.isAttached then .error .outOfReach
  else match e.key? with
    | none => .error .misplaced
    | some key =>
      match s.rowAt e.kind key with
      | .error err => .error err
      | .ok none => .error .vanished
      | .ok (some row) => .ok row

theorem mem_of_rowAt (h : s.rowAt k id = .ok (some row)) : row ∈ s.tables.rows k := by
  unfold rowAt at h
  split at h
  · cases h
  · split at h
    · obtain ⟨id, -, hid⟩ := Option.bind_eq_some_iff.mp (Except.ok.inj h)
      exact Tables.mem_of_row? hid
    · cases h
    · cases h

theorem isInvalid_of_rowAt {err : Error} (h : s.rowAt k id = .error err) : err.isInvalid = false := by
  unfold rowAt at h
  split at h
  · obtain rfl := Except.error.inj h
    rfl
  · split at h
    · cases h
    · obtain rfl := Except.error.inj h
      rfl
    · obtain rfl := Except.error.inj h
      rfl

theorem mem_of_reread (h : s.reread e = .ok row) : row ∈ s.tables.rows e.kind := by
  unfold reread at h
  split at h
  · cases h
  · split at h
    · cases h
    · split at h
      · cases h
      · cases h
      · rename_i hrow
        exact Except.ok.inj h ▸ mem_of_rowAt hrow

theorem isInvalid_of_reread {err : Error} (h : s.reread e = .error err) : err.isInvalid = false := by
  unfold reread at h
  split at h
  · obtain rfl := Except.error.inj h
    rfl
  · split at h
    · obtain rfl := Except.error.inj h
      rfl
    · split at h
      · rename_i failed
        exact Except.error.inj h ▸ isInvalid_of_rowAt failed
      · obtain rfl := Except.error.inj h
        rfl
      · cases h

theorem reread_congr (store : s.store = s₀.store) (broken : s.broken = s₀.broken) (e : Entity) :
    s.reread e = s₀.reread e := by
  unfold reread rowAt Session.tables
  rw [store, broken]

namespace Work

theorem run_row? (s : Session) (k : Kind) (id : Cell) :
    Triple (· = s) (row? k id) (fun o s' => s' = s ∧ s.rowAt k id = .ok o)
      fun err s' => s' = s ∧ s.rowAt k id = .error err := by
  unfold rowAt
  refine Triple.bind (Q := fun s' s'' => s' = s ∧ s'' = s ∧ s.broken = false) ?_ fun s' =>
    Triple.of_known fun hs => ?_
  · refine Triple.bind (Q := fun s' s'' => s' = s ∧ s'' = s) (Triple.get fun _ h => ⟨h, h⟩)
      fun s' => Triple.of_known fun hs => ?_
    subst hs
    cases hb : s'.broken with
    | true => exact Triple.throw fun _ h => ⟨h, rfl⟩
    | false => exact Triple.pure fun _ h => ⟨rfl, h, rfl⟩
  · subst hs
    refine Triple.bind (Q := fun _ s'' => s'' = s' ∧ s'.broken = false ∧ id.bindFault? = none) ?_
      fun _ => Triple.pure fun _ h => ?_
    · unfold Work.bind
      split
      · exact Triple.pure fun _ h => ⟨h.1, h.2, ‹_›⟩
      · refine Triple.throw fun _ h => ⟨h.1, ?_⟩
        simp only [h.2, ‹id.bindFault? = _›, Bool.false_eq_true, if_false]
      · refine Triple.throw fun _ h => ⟨h.1, ?_⟩
        simp only [h.2, ‹id.bindFault? = _›, Bool.false_eq_true, if_false]
    · obtain ⟨same, broken, fits⟩ := h
      exact ⟨same, by simp [broken, fits]⟩

theorem keeps_row? (k : Kind) (id : Cell) :
    Keeps (Holding C n P) (row? k id) fun o => ∀ row, o = some row →
      row.kind = k ∧ (C → row.IsFilled) := by
  intro s hs
  refine Triple.weaken (run_row? s k id) (fun _ h => h) (fun o s' h => ?_) (fun err s' h => ?_) s rfl
  · refine ⟨h.1 ▸ hs, fun row hrow => ?_⟩
    have mem := mem_of_rowAt (hrow ▸ h.2)
    exact ⟨Tables.kind_of_mem mem, fun hC => (hs hC).tables k row mem⟩
  · exact ⟨h.1 ▸ hs, isInvalid_of_rowAt h.2⟩

/-- An entity that a key leads to is the one of the kind with the key. -/
theorem isAt_of_mapped? {id : Cell} (h : s.mapped? k id = some r) :
    ∃ e, s.entity? r = some e ∧ isAt k id e = true := by
  obtain ⟨bound, found, -⟩ := List.findIdx?_eq_some_iff_getElem.mp h
  exact ⟨s.entities[r], List.getElem?_eq_getElem bound, found⟩

theorem kind_of_isAt (h : isAt k id e = true) : e.kind = k := by
  rw [isAt, Bool.and_assoc, Bool.and_eq_true_iff] at h
  exact of_decide_eq_true (Bool.and_eq_true_iff.mp h.2).1

/-- A row is read into the entity of its kind that has it, or into a new entity. -/
theorem adopt_at (s : Session) (row : Row) :
    Triple (· = s) (adopt row) (fun r s' =>
      (∃ e, s.entity? r = some e ∧ isAt row.kind (.text row.id) e = true ∧
        s' = s.modifyEntity r fun e => e.fill row e.missing) ∨
      (s.mapped? row.kind (.text row.id) = none ∧ r = s.entities.length ∧
        s' = { s with entities := s.entities ++ [.ofRow row] }))
      fun _ _ => False := by
  refine Triple.bind (Q := fun s' s'' => s' = s ∧ s'' = s) (Triple.get fun _ h => ⟨h, h⟩)
    fun s' => Triple.of_known fun hs => ?_
  subst hs
  split
  · rename_i r found
    obtain ⟨e, he, here⟩ := isAt_of_mapped? found
    refine Triple.bind (Triple.modify fun _ h => ?_) fun _ => Triple.pure fun _ h => h
    exact .inl ⟨e, he, here, h ▸ rfl⟩
  · rename_i free
    refine Triple.bind (Q := fun s'' t => s'' = s' ∧ t = s') (Triple.get fun _ h => ⟨h, h⟩)
      fun s'' => Triple.of_known fun hs => ?_
    subst hs
    refine Triple.bind (Triple.modify fun _ _ => ?_) fun _ => Triple.pure fun _ h => h
    exact .inr ⟨free, rfl, rfl⟩

theorem keeps_adopt (hP : Closed Entity.Still n P) (hrow : C → row.IsFilled) :
    Keeps (Holding C n P) (adopt row) fun _ => True := by
  intro s hs
  refine Triple.weaken (adopt_at s row) (fun _ h => h) (fun r s' h => ⟨?_, trivial⟩)
    (fun _ _ h => h.elim) s rfl
  rcases h with ⟨e, he, here, rfl⟩ | ⟨-, -, rfl⟩
  · refine hs.step hP fun hC e' he' => Entity.still_fill e' (hrow hC) ?_ _
    rw [← kind_of_isAt here, Option.some.inj (he.symm.trans he')]
  · exact hs.push fun hC => hP.new (hs hC).enough (hrow hC)

theorem run_revive (s : Session) (he : s.entity? r = some e) :
    Triple (· = s) (revive r)
      (fun _ s' => ∃ row, s.reread e = .ok row ∧ s' = s.modifyEntity r (·.revived row))
      fun err s' => s' = s ∧ s.reread e = .error err := by
  refine Triple.look_at he ?_
  unfold reread
  refine Triple.guard (fun detached _ hs => ⟨hs, if_pos detached⟩) fun attached => ?_
  rw [if_neg attached]
  cases hkey : e.key? with
  | none => exact Triple.throw fun _ hs => ⟨hs, rfl⟩
  | some key =>
    refine Triple.bind (Triple.weaken (run_row? s e.kind key) (fun _ h => h) (fun _ _ h => h) ?_)
      fun o => ?_
    · rintro err s' ⟨same, failed⟩
      exact ⟨same, by simp only [failed]⟩
    · cases o with
      | none => exact Triple.throw fun _ hs => ⟨hs.1, by simp only [hs.2]⟩
      | some row =>
        refine Triple.modify ?_
        rintro _ ⟨rfl, found⟩
        refine ⟨row, by simp only [found], modifyEntity_congr fun e' he' => ?_⟩
        rw [Option.some.inj (he.symm.trans he')]
        rfl

theorem keeps_revive (hP : Closed Entity.Still n P) :
    Keeps (Holding C n P) (revive r) fun _ => True := by
  intro s hs
  cases he : s.entity? r with
  | none =>
    refine Triple.look (P := (· = s)) (fun s' h _ => ⟨h ▸ hs, rfl⟩) (fun s' e h he' => ?_) s rfl
    rw [h, he] at he'
    cases he'
  | some e =>
    refine Triple.weaken (run_revive s he) (fun _ h => h) (fun _ s' h => ⟨?_, trivial⟩)
      (fun err s' h => ⟨h.1 ▸ hs, isInvalid_of_reread h.2⟩) s rfl
    obtain ⟨row, hrow, rfl⟩ := h
    refine hs.step hP fun hC e' he' => ?_
    obtain rfl := Option.some.inj (he.symm.trans he')
    have mem := mem_of_reread hrow
    exact Entity.still_revived e ((hs hC).tables _ row mem) (Tables.kind_of_mem mem)

theorem keeps_markGone (hP : Closed Entity.Still n P) (r : Ref) :
    Keeps (Holding C n P) (markGone r) fun _ => True :=
  Keeps.alter fun _ hs => hs.step hP fun _ e _ => Entity.still_markGone e

/-! ## Values -/

/-- Looking at an entity. -/
theorem keeps_look {I : Session → Prop} (r : Ref) : Keeps I (look r) fun _ => True :=
  Keeps.look fun _ _ _ _ => trivial

/-- A property of sessions that is kept when an entity reads again what it gave up and holds an owner
that was looked up. -/
structure KeptByReviving (I : Session → Prop) : Prop where
  revive : ∀ r, Keeps I (revive r) fun _ => True
  setOwner : ∀ r rel o, Keeps I (alter r fun e => e.setOwner rel o) fun _ => True

namespace KeptByReviving

variable {I : Session → Prop}

theorem value (h : KeptByReviving I) (r : Ref) (c : Column) :
    Keeps I (value r c) fun _ => True := by
  refine Keeps.bind (keeps_look r) fun e _ => ?_
  split
  · exact Keeps.pure trivial
  · refine Keeps.ite (fun _ => ?_) fun _ => ?_
    · exact Keeps.bind (h.revive r) fun _ _ =>
        Keeps.bind (keeps_look r) fun _ _ => Keeps.pure trivial
    · exact Keeps.bind (keeps_look r) fun _ _ => Keeps.pure trivial

theorem formerValue (h : KeptByReviving I) (r : Ref) (c : Column) :
    Keeps I (formerValue r c) fun _ => True := by
  refine Keeps.bind (keeps_look r) fun e _ => ?_
  split
  · exact Keeps.pure trivial
  · exact h.value r c

theorem glanceOwner (h : KeptByReviving I) (r : Ref) (rel : Relation) :
    Keeps I (glanceOwner r rel) fun _ => True := by
  refine Keeps.bind (keeps_look r) fun e _ => ?_
  split
  · exact Keeps.pure trivial
  · refine Keeps.ite (fun _ => Keeps.pure trivial) fun _ => ?_
    refine Keeps.ite (fun _ => Keeps.pure trivial) fun _ => ?_
    split
    · exact Keeps.pure trivial
    · exact Keeps.pure trivial
    · exact Keeps.bind (h.setOwner r rel none) fun _ _ => Keeps.pure trivial
    · refine Keeps.bind (Keeps.identifier _) fun id _ => ?_
      refine Keeps.bind Keeps.get fun s _ => ?_
      split
      · exact Keeps.pure trivial
      · refine Keeps.bind (keeps_look _) fun _ _ => ?_
        refine Keeps.ite (fun _ => Keeps.pure trivial) fun _ => ?_
        exact Keeps.bind (h.setOwner r rel _) fun _ _ => Keeps.pure trivial

theorem lookUpOwner (h : KeptByReviving I) (r : Ref) (rel : Relation) :
    Keeps I (lookUpOwner r rel) fun _ => True := by
  refine Keeps.bind (keeps_look r) fun e _ => ?_
  refine Keeps.ite (fun _ => Keeps.pure trivial) fun _ => Keeps.readied (h.revive r) ?_
  refine Keeps.bind (keeps_look r) fun e _ => ?_
  split
  · exact h.setOwner r rel none
  · refine Keeps.bind Keeps.get fun s _ => ?_
    refine Keeps.bind (Keeps.identifier _) fun id _ => ?_
    split
    · exact h.setOwner r rel _
    · exact Keeps.pure trivial
  · exact Keeps.pure trivial

end KeptByReviving

/-- Setting a column that is not required. -/
theorem keeps_setValue (hP : Closed Entity.Still n P) (r : Ref) (free : ∀ k : Kind, c ∉ k.required)
    (v : Cell) : Keeps (Holding C n P) (setValue r c v) fun _ => True := by
  refine Keeps.bind (keeps_look r) fun e _ => Keeps.readied (keeps_revive hP) ?_
  exact Keeps.alter fun _ hs => hs.step hP fun _ e _ => e.still_setCell free _ v

/-! ## Entities by identifier -/

theorem keeps_mapped? (hP : Closed Entity.Still n P) (k : Kind) (id : Cell) :
    Keeps (Holding C n P) (mapped? k id) fun _ => True := by
  refine Keeps.bind (Keeps.identifier id) fun id _ => ?_
  refine Keeps.bind Keeps.get fun s _ => ?_
  split
  · exact Keeps.pure trivial
  · rename_i r _
    refine Keeps.bind (keeps_look _) fun e _ => ?_
    refine Keeps.ite (fun _ => ?_) fun _ => Keeps.pure trivial
    refine Keeps.bind (Q := fun _ => True) (Keeps.tryCatch ?_ fun err herr => ?_) fun found _ => ?_
    · exact Keeps.bind (keeps_revive hP) fun _ _ => Keeps.pure trivial
    · split
      · exact Keeps.bind (keeps_markGone hP r) fun _ _ => Keeps.pure trivial
      · exact Keeps.bind (Q := fun _ => True) (Keeps.throw herr) fun _ _ => Keeps.pure trivial
    · cases found <;> exact Keeps.pure trivial

/-- A property of sessions that reading keeps: reading values, finding entities and owners, and
reading rows of the tables into entities. -/
structure KeptByReading (I : Session → Prop) : Prop extends KeptByReviving I where
  entity : ∀ k id, Keeps I (mapped? k id) fun _ => True
  adopt : ∀ {s k row}, I s → row ∈ s.tables.rows k → Keeps I (adopt row) fun _ => True

namespace KeptByReading

variable {I : Session → Prop}

theorem find (h : KeptByReading I) (k : Kind) (id : Cell) :
    Keeps I (find k id) fun _ => True := by
  refine Keeps.bind (h.entity k id) fun o _ => ?_
  split
  · exact Keeps.pure trivial
  · refine Keeps.bind (Q := fun o => ∀ row, o = some row → Keeps I (Work.adopt row) fun _ => True)
      (fun s hs => ?_) fun o hrow => ?_
    · refine Triple.weaken (run_row? s k id) (fun _ h => h) (fun o s' found => ?_)
        (fun err s' failed => ?_) s rfl
      · exact ⟨found.1 ▸ hs, fun row hrow => h.adopt hs (mem_of_rowAt (hrow ▸ found.2))⟩
      · exact ⟨failed.1 ▸ hs, isInvalid_of_rowAt failed.2⟩
    · split
      · rename_i row
        exact Keeps.bind (hrow row rfl) fun _ _ => Keeps.pure trivial
      · exact Keeps.pure trivial

theorem owner (h : KeptByReading I) (r : Ref) (rel : Relation) :
    Keeps I (owner r rel) fun _ => True := by
  refine Keeps.bind (keeps_look r) fun e _ => ?_
  split
  · exact Keeps.pure trivial
  · refine Keeps.ite (fun _ => Keeps.pure trivial) fun _ => ?_
    refine Keeps.ite (fun _ => Keeps.throw rfl) fun _ => ?_
    refine Keeps.bind (Q := fun _ => True) ?_ fun id _ => ?_
    · cases rel.column? with
      | none => exact Keeps.pure trivial
      | some c => exact h.value r c
    · have set : ∀ o, Keeps I (do
          alter r fun e => e.setOwner rel o
          return o) fun _ => True := fun o =>
        Keeps.bind (h.setOwner r rel o) fun _ _ => Keeps.pure trivial
      refine Keeps.ite (fun _ => set none) fun _ => ?_
      exact Keeps.bind (h.find _ id) fun o _ => set o

end KeptByReading

theorem keeps_holdOwner (hP : Closed Entity.Still n P) (r : Ref) (rel : Relation) (o : Option Ref) :
    Keeps (Holding C n P) (alter r fun e => e.setOwner rel o) fun _ => True := by
  refine Keeps.alter fun _ hs => hs.step hP fun _ e _ => ?_
  exact ⟨.of_same rfl rfl rfl rfl id id id rfl rfl rfl, rfl⟩

theorem keptByReading (hP : Closed Entity.Still n P) : KeptByReading (Holding C n P) where
  revive := fun _ => keeps_revive hP
  setOwner := keeps_holdOwner hP
  entity := keeps_mapped? hP
  adopt := fun hs hrow => keeps_adopt hP fun hC => (hs hC).tables _ _ hrow

/-! ## Members -/

section Members

variable {joining leaving : List Ref}

theorem keeps_leave (hP : Closed Entity.Calm n P) (r : Ref) (rel : Relation) (ms : List Ref) :
    Keeps (Holding C n P) (leave r rel ms) fun _ => True := by
  induction ms with
  | nil => exact Keeps.pure trivial
  | cons m ms ih =>
    refine Triple.look (fun s hs _ => ⟨hs, rfl⟩) fun s e hs he => ?_
    split
    · rename_i current former hread
      split
      · refine Triple.bind (Q := fun _ => Holding C n P) (Triple.modify ?_) fun _ => ih
        rintro _ rfl
        refine hs.step hP fun _ e' he' => ?_
        obtain rfl := Option.some.inj (he.symm.trans he')
        exact e.calm_erase hread m
      · exact Triple.throw fun _ h => ⟨h ▸ hs, rfl⟩
    · exact Triple.weaken ih (fun _ h => h ▸ hs) (fun _ _ h => h) fun _ _ h => h

/-- A property of entities, and that the members of one of them were not read yet. -/
def Awaiting (P : Ref → Entity → Prop) (r : Ref) (rel : Relation) (joining leaving : List Ref)
    (q : Ref) (e : Entity) : Prop :=
  P q e ∧ (q = r → e.membersOf rel = .unread joining leaving)

theorem closed_awaiting (hP : Closed Entity.Calm n P) :
    Closed Entity.Still (max n (r + 1)) (Awaiting P r rel joining leaving) where
  step := fun ⟨he, unread⟩ still =>
    ⟨hP.step he still.calm, fun same => (still.membersOf_eq rel).trans (unread same)⟩
  new := fun new hrow => by
    obtain ⟨new, other⟩ := Nat.max_le.mp new
    exact ⟨hP.new new hrow, fun same => absurd same (Nat.ne_of_gt other)⟩

theorem Awaiting.left (h : Holding C (max n (r + 1)) (Awaiting P r rel joining leaving) s) :
    Holding C n P s :=
  h.mono (fun _ => Nat.le_max_left _ _) fun _ _ _ => And.left

theorem readMembers_of_unread (hP : Closed Entity.Calm n P) (id : Cell) :
    Triple (Holding C (max n (r + 1)) (Awaiting P r rel joining leaving))
      (readMembers r rel id joining leaving) (fun _ => Holding C n P)
      fun e s => Holding C n P s ∧ e.isInvalid = false := by
  have fails : ∀ (e : Error) s, Holding C (max n (r + 1)) (Awaiting P r rel joining leaving) s →
      e.isInvalid = false → Holding C n P s ∧ e.isInvalid = false :=
    fun _ _ hs he => ⟨Awaiting.left hs, he⟩
  have known : Keeps (Holding C n P) (do return ((← look r).known? rel).getD []) fun _ => True :=
    Keeps.bind (keeps_look r) fun _ _ => Keeps.pure trivial
  refine Keeps.andThen (keeps_look r) fails fun e _ => ?_
  refine Keeps.andThen Keeps.reaching fails fun s₀ hs₀ => ?_
  refine Keeps.andThen (Keeps.bindCell 1 id) fails fun _ _ => ?_
  refine Keeps.andThen (Keeps.mapM_all (R := fun _ => True) fun row hrow => ?_) fails fun found _ => ?_
  · refine keeps_adopt (closed_awaiting hP) fun hC => ?_
    cases htext : id.text? with
    | none =>
      rw [htext] at hrow
      cases hrow
    | some key =>
      rw [htext] at hrow
      obtain ⟨k, hrow⟩ := Tables.exists_mem_of_related hrow
      exact (hs₀ hC).tables k row hrow
  · by_cases none : (joining.isEmpty && leaving.isEmpty) = true
    · rw [if_pos none]
      refine Triple.bind (Q := fun _ => Holding C n P) (Triple.modify fun s hs => ?_) fun _ =>
        Triple.weaken known (fun _ h => h) (fun _ _ h => h.1) fun _ _ h => h
      refine (Awaiting.left hs).step hP fun _ e _ => e.calm_read found
    · rw [if_neg none]
      refine Triple.bind (Q := fun _ => Holding C n P) (Triple.modify fun s hs => ?_) fun _ => ?_
      · refine (Awaiting.left hs).step hP fun hC e he => ?_
        exact e.calm_joined ((hs.entity he hC).2 rfl) found
      · exact Triple.weaken (Keeps.bind (keeps_leave hP r rel leaving) fun _ _ => known)
          (fun _ h => h) (fun _ _ h => h.1) fun _ _ h => h

/-- Members are read after work that leaves them alone. -/
theorem readMembers_after (hP : Closed Entity.Calm n P) {idOf : Work Cell} {e : Entity}
    (he : s.entity? r = some e) (unread : e.membersOf rel = .unread joining leaving)
    (hid : Keeps (Holding C (max n (r + 1)) (Awaiting P r rel joining leaving)) idOf fun _ => True)
    (hs : Holding C n P s) :
    Triple (· = s) (do readMembers r rel (← idOf) joining leaving)
      (fun _ s => Holding C n P s ∧ True) fun e s => Holding C n P s ∧ e.isInvalid = false := by
  refine Triple.weaken (Keeps.andThen hid (fun _ _ hs he => ⟨Awaiting.left hs, he⟩) fun id _ =>
    readMembers_of_unread hP id) ?_ (fun _ _ h => ⟨h, trivial⟩) fun _ _ h => h
  rintro _ rfl hC
  obtain ⟨tables, committed, enough, entities⟩ := hs hC
  obtain ⟨bound, -⟩ := List.getElem?_eq_some_iff.mp he
  refine ⟨tables, committed, Nat.max_le.mpr ⟨enough, bound⟩, fun q e' he' => ?_⟩
  refine ⟨entities q e' he', ?_⟩
  rintro rfl
  exact Option.some.inj (he.symm.trans he') ▸ unread

theorem keeps_members (hP : Closed Entity.Calm n P) (r : Ref) (rel : Relation) :
    Keeps (Holding C n P) (members r rel) fun _ => True := by
  refine Triple.look (fun s hs _ => ⟨hs, rfl⟩) fun s e hs he => ?_
  have stays : ∀ s', s' = s → Holding C n P s' := fun _ h => h ▸ hs
  split
  · exact Triple.pure fun s' h => ⟨stays s' h, trivial⟩
  · rename_i joining leaving unread
    split
    · exact Triple.pure fun s' h => ⟨stays s' h, trivial⟩
    · split
      · exact Triple.throw fun s' h => ⟨stays s' h, rfl⟩
      · exact readMembers_after hP he unread ((keptByReading (closed_awaiting hP)).value r .id) hs

theorem keeps_formerMembers (hP : Closed Entity.Calm n P) (r : Ref) (rel : Relation) :
    Keeps (Holding C n P) (formerMembers r rel) fun _ => True := by
  refine Triple.look (fun s hs _ => ⟨hs, rfl⟩) fun s e hs he => ?_
  split
  · exact Triple.pure fun s' h => ⟨h ▸ hs, trivial⟩
  · rename_i joining leaving unread
    exact readMembers_after hP he unread ((keptByReading (closed_awaiting hP)).formerValue r .id) hs

end Members

end Work

end Session

end Weblog
