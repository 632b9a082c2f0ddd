/-
  Reading keeps a session at rest.

  Whatever is read goes into entities that hold what their rows hold, or into new entities of rows
  (`Session.Reading`). Reading what stands for a row does not fail: the lemmas are about any ending
  `E` in which a failure is excused for entities that stand for no row (`Session.Excused`).
-/
import Weblog.Proofs.Session.AtRest
import Weblog.Session.Plan

namespace Weblog

theorem Kind.id_mem_columns (k : Kind) : Column.id ∈ k.columns := by
  cases k <;> decide

/-- A key that is the same as an identifier is stored as it. -/
theorem Cell.text_of_same {key : Cell} {id name : String} (h : key.same (.text id) = true)
    (stored : key.text? = some name) : name = id := by
  cases key with
  | text s =>
    obtain rfl := Option.some.inj stored
    simpa [Cell.same, Cell.value?, Json.alike] using h
  | flag b => simp [Cell.same, Cell.value?, Json.alike, Json.count?] at h
  | other v =>
    cases v with
    | int n => simp [Cell.same, Cell.value?, Json.alike, Json.count?] at h
    | float x => simp [Cell.same, Cell.value?, Json.alike, Json.count?] at h
    | _ => cases stored
  | _ => cases stored

/-- What a row holds can be an identifier. -/
theorem Row.cell_ne_other (row : Row) (c : Column) (v : Json) : row.cell c ≠ .other v := by
  cases row <;> cases c <;> simp [cell, Cell.ofText?, Cell.ofTime?] <;> split <;> simp

/-- The cell in which a row names an owner can be an identifier. -/
theorem Entity.Mirrors.ownerCell_ne_other {t : Tables} {e : Entity} {rel : Relation}
    (h : e.Mirrors t) (columns : ∀ c, rel.column? = some c → c ∈ e.kind.columns) {v : Json}
    (known : rel.column?.elim .absent e.formerCell = .known (.other v)) : False := by
  cases column : rel.column? with
  | none =>
    rw [column] at known
    cases known
  | some c =>
    rw [column, Option.elim_some, h.formerCell_eq (columns c column)] at known
    split at known
    · rename_i held
      obtain ⟨row, -, cell⟩ := h.held c _ held
      exact row.cell_ne_other c v ((Entity.Glance.known.inj known).symm.trans cell).symm
    · cases known

namespace Session

variable {s s' s₀ s₁ : Session} {q r : Ref} {e : Entity} {f : Entity → Entity} {row : Row}
  {rel : Relation} {c : Column} {v : Cell} {going : List Ref} {E : Error → Session → Prop}

/-! ## Sessions that were read from -/

/-- A session after reading, still at rest: what was there still is. -/
structure Reading (going : List Ref) (s₀ s : Session) : Prop extends s.AtRest going where
  store : s.store = s₀.store
  entities : ∀ q e, s₀.entity? q = some e → ∃ e', s.entity? q = some e' ∧ e.Reads s₀.tables e'

/-- Work may fail in some way where an entity stands for no row. -/
def Excused (going : List Ref) (s₀ : Session) (r : Ref) (E : Error → Session → Prop) : Prop :=
  ∀ err s, Reading going s₀ s → err.isInvalid = false → (∀ row, ¬s₀.StoredAs row r) → E err s

/-- If the session finds an entity by its key, the members that a relation leads to were read. -/
def KnowsMembers (s : Session) (r : Ref) (rel : Relation) : Prop :=
  ∀ e, s.entity? r = some e → e.isMapped = true → e.HasRead rel

/-- If the session finds an entity by its key, it holds a value of its row. -/
def HeldAs (s : Session) (r : Ref) (c : Column) (v : Cell) : Prop :=
  ∀ e, s.entity? r = some e → e.isMapped = true → c ∈ e.kind.columns →
    e.held? c = some v ∧ ∃ row, e.row? s.tables = some row ∧ v = row.cell c

namespace Reading

theorem tables_eq (h : Reading going s₀ s) : s.tables = s₀.tables := congrArg Store.tables h.store

theorem keyed_before (h : Reading going s₀ s) : s₀.tables.IsKeyed := h.tables_eq ▸ h.keyed

theorem refl (h : s.AtRest going) : Reading going s s :=
  ⟨h, rfl, fun _ e he => ⟨e, he, .refl _ e⟩⟩

theorem of_eq (h : s₀.AtRest going) (same : s = s₀) : Reading going s₀ s := by
  subst same
  exact refl h

theorem trans (h : Reading going s₀ s₁) (h' : Reading going s₁ s) : Reading going s₀ s where
  toAtRest := h'.toAtRest
  store := h'.store.trans h.store
  entities := by
    intro q e he
    obtain ⟨e₁, he₁, reads⟩ := h.entities q e he
    obtain ⟨e', he', reads'⟩ := h'.entities q e₁ he₁
    rw [h.tables_eq] at reads'
    exact ⟨e', he', reads.trans reads'⟩

theorem stored (h : Reading going s₀ s) (hq : s₀.StoredAs row q) : s.StoredAs row q :=
  hq.mono h.tables_eq fun e he =>
    (h.entities q e he).imp fun _ ⟨he', reads⟩ => ⟨he', reads.toStands⟩

/-- What is not there stands for no row. -/
theorem absent (h : Reading going s₀ s) (he : s.entity? r = none) (row : Row) :
    ¬s₀.StoredAs row r := by
  intro stored
  obtain ⟨e, he', -⟩ := h.stored stored
  rw [he] at he'
  cases he'

/-- What is found by its key now was found by it before. -/
theorem mapped_before (h : Reading going s₀ s) {e₀ : Entity} (he₀ : s₀.entity? r = some e₀)
    (he : s.entity? r = some e) (mapped : e.isMapped = true) : e₀.isMapped = true := by
  obtain ⟨e', he', reads⟩ := h.entities r e₀ he₀
  obtain rfl := Option.some.inj (he.symm.trans he')
  exact reads.mapped_of mapped

theorem modifyEntity (h : Reading going s₀ s)
    (reads : ∀ e, s.entity? r = some e → e.Reads s.tables (f e))
    (mirrors : ∀ e, s.entity? r = some e → (f e).isMapped = true →
      (f e).Mirrors s.tables ∧ ∀ rel, s.Leads (f e) rel) :
    Reading going s₀ (s.modifyEntity r f) where
  toAtRest := h.toAtRest.modifyEntity (fun e he => (reads e he).toStands)
    (fun e he doomed => .inl ((reads e he).doomed doomed)) mirrors
  store := h.store
  entities := by
    intro q e he
    obtain ⟨e', he', hreads⟩ := h.entities q e he
    by_cases same : r = q
    · subst same
      have reads := reads e' he'
      rw [h.tables_eq] at reads
      exact ⟨f e', entity?_modifyEntity_self he', hreads.trans reads⟩
    · exact ⟨e', by rw [entity?_modifyEntity, if_neg same, he'], hreads⟩

theorem push (h : Reading going s₀ s) (hrow : s.tables.row? row.kind row.id = some row)
    (free : s.mapped? row.kind (.text row.id) = none) :
    Reading going s₀ { s with entities := s.entities ++ [.ofRow row] } where
  toAtRest := h.toAtRest.push hrow free
  store := h.store
  entities := fun q e he => (h.entities q e he).imp fun _ ⟨he', reads⟩ => ⟨entity?_push he' _, reads⟩

/-- An entity of the session may read values from its row. -/
theorem revived (h : Reading going s₀ s) (he : s.entity? r = some e)
    (hrow : e.row? s.tables = some row) :
    Reading going s₀ (s.modifyEntity r (·.revived row)) := by
  refine h.modifyEntity (fun e _ => e.reads_revived _ row) fun e' he' mapped => ?_
  obtain rfl := Option.some.inj (he.symm.trans he')
  exact ⟨(h.mirrors r e he mapped).revived hrow, h.leads r e he mapped⟩

theorem filled (h : Reading going s₀ s) (he : s.entity? r = some e)
    (hrow : e.isMapped = true → e.row? s.tables = some row) (cs : Entity → List Column) :
    Reading going s₀ (s.modifyEntity r fun e => e.fill row (cs e)) := by
  refine h.modifyEntity (fun e _ => e.reads_fill _ row _) fun e' he' mapped => ?_
  obtain rfl := Option.some.inj (he.symm.trans he')
  exact ⟨(h.mirrors r e he mapped).fill (hrow mapped) _, h.leads r e he mapped⟩

theorem setOwner (h : Reading going s₀ s) (rel : Relation) (o : Option Ref) :
    Reading going s₀ (s.modifyEntity r fun e => e.setOwner rel o) :=
  h.modifyEntity (fun e _ => e.reads_setOwner _ rel o) fun e he mapped =>
    ⟨(h.mirrors r e he mapped).setOwner rel o, h.leads r e he mapped⟩

end Reading

namespace Excused

/-- What is excused at first is excused later. -/
theorem later (h : Excused going s₀ r E) (h₁ : Reading going s₀ s₁) : Excused going s₁ r E :=
  fun err s hs calm absent => h err s (h₁.trans hs) calm fun row stored =>
    absent row (h₁.stored stored)

theorem of_stored (stored : s₀.StoredAs row r) : Excused going s₀ r E :=
  fun _ _ _ _ absent => absurd stored (absent row)

end Excused

/-! ## What is known of the entity of a row -/

theorem StoredAs.kind (h : s.StoredAs row r) (he : s.entity? r = some e) : e.kind = row.kind := by
  obtain ⟨e', he', -, hrow⟩ := h
  obtain rfl := Option.some.inj (he.symm.trans he')
  exact (Tables.kind_of_mem (Entity.mem_of_row? hrow)).symm

theorem StoredAs.mem (h : s.StoredAs row r) : row ∈ s.tables.rows row.kind := by
  obtain ⟨e, he, mapped, hrow⟩ := h
  have mem := Entity.mem_of_row? hrow
  rwa [← Tables.kind_of_mem mem] at mem

theorem StoredAs.mapped (h : s.StoredAs row r) (he : s.entity? r = some e) : e.isMapped = true := by
  obtain ⟨e', he', mapped, -⟩ := h
  exact Option.some.inj (he'.symm.trans he) ▸ mapped

theorem StoredAs.row? (h : s.StoredAs row r) (he : s.entity? r = some e) :
    e.row? s.tables = some row := by
  obtain ⟨e', he', -, hrow⟩ := h
  exact Option.some.inj (he'.symm.trans he) ▸ hrow

/-- What an entity holds as the value of a column is what its row holds. -/
theorem HeldAs.eq_cell {c : Column} {v : Cell} (h : s.HeldAs r c v) (stored : s.StoredAs row r)
    (hc : c ∈ row.kind.columns) : v = row.cell c ∧ ∀ e, s.entity? r = some e →
      e.held? c = some v := by
  obtain ⟨e, he, mapped, hrow⟩ := stored
  have stored : s.StoredAs row r := ⟨e, he, mapped, hrow⟩
  obtain ⟨held, row', hrow', rfl⟩ := h e he mapped (stored.kind he ▸ hc)
  obtain rfl := Option.some.inj (hrow.symm.trans hrow')
  exact ⟨rfl, fun e' he' => Option.some.inj (he.symm.trans he') ▸ held⟩

/-- What is held stays held. -/
theorem HeldAs.later {c : Column} {v : Cell} (h : s.HeldAs r c v) (stored : s.StoredAs row r)
    (hs : Reading going s s') : s'.HeldAs r c v := by
  intro e' he' mapped hc
  obtain ⟨e, he, outset, hrow⟩ := stored
  obtain ⟨e'', he'', reads⟩ := hs.entities r e he
  obtain rfl := Option.some.inj (he'.symm.trans he'')
  obtain ⟨held, row', hrow', rfl⟩ := h e he outset (reads.kind ▸ hc)
  obtain rfl := Option.some.inj (hrow.symm.trans hrow')
  obtain ⟨v', held'⟩ := Option.isSome_iff_exists.mp
    (reads.holds mapped c (Option.isSome_iff_exists.mpr ⟨_, held⟩))
  have found : e'.row? s'.tables = some row := by rw [hs.tables_eq, reads.row?_eq, hrow]
  obtain ⟨row', hrow', rfl⟩ := (hs.mirrors r e' he' mapped).held c v' held'
  obtain rfl := Option.some.inj (found.symm.trans hrow')
  exact ⟨held', row, found, rfl⟩

theorem KnowsMembers.later (h : s.KnowsMembers r rel) (stored : s.StoredAs row r)
    (hs : Reading going s s') : s'.KnowsMembers r rel := by
  intro e' he' mapped
  obtain ⟨e, he, outset, -⟩ := stored
  obtain ⟨e'', he'', reads⟩ := hs.entities r e he
  obtain rfl := Option.some.inj (he'.symm.trans he'')
  exact reads.members mapped rel (h e he outset)

/-- Members that were read are the entities of the related rows. -/
theorem AtRest.members_of_known (h : s.AtRest going) (stored : s.StoredAs row r)
    (known : s.KnowsMembers r rel) (he : s.entity? r = some e) :
    ∃ ms, e.membersOf rel = .read ms none ∧
      List.Forall₂ s.StoredAs (s.tables.related row.kind row.id rel) ms := by
  have mapped := stored.mapped he
  obtain ⟨ms, read⟩ := known e he mapped
  rcases h.leads r e he mapped rel with unread | ⟨name, ms', key, read', related⟩
  · rw [read] at unread
    cases unread
  · have hrow := stored.row? he
    rw [Entity.row?, key, Option.bind_some] at hrow
    rw [← Tables.id_of_row? hrow, stored.kind he] at related
    exact ⟨ms', read', related⟩

/-! ## Reading values -/

theorem row?_of_rowAt {key : Cell} (hkey : e.key? = some key)
    (found : s.rowAt e.kind key = .ok (some row)) : e.row? s.tables = some row := by
  unfold rowAt at found
  split at found
  · cases found
  · split at found
    · rw [Entity.row?, hkey]
      exact Except.ok.inj found
    · cases found
    · cases found

theorem row?_of_reread (h : s.reread e = .ok row) : e.row? s.tables = some row := by
  unfold reread at h
  split at h
  · cases h
  · split at h
    · cases h
    · rename_i key hkey
      split at h
      · cases h
      · cases h
      · rename_i found
        obtain rfl := Except.ok.inj h
        exact row?_of_rowAt hkey found

/-- An entity at rest that stands for a row can be read again. -/
theorem AtRest.reread_eq (h : s.AtRest going) (he : s.entity? r = some e)
    (mapped : e.isMapped = true) (hrow : e.row? s.tables = some row) : s.reread e = .ok row := by
  obtain ⟨attached, ⟨key, id, hkey, bound, -⟩, -⟩ := (h.mirrors r e he mapped).toIsSettled
  rw [Entity.row?, hkey] at hrow
  have found : s.rowAt e.kind key = .ok (some row) := by
    simp only [rowAt, h.whole, Bool.false_eq_true, if_false, bound]
    exact congrArg Except.ok hrow
  simp only [reread, attached, Bool.not_true, Bool.false_eq_true, if_false, hkey, found]

namespace Work

theorem reading_look {β : Type} {g : Entity → Work β} {R : β → Session → Prop}
    (hE : Excused going s₀ r E)
    (h : ∀ s e, Reading going s₀ s → s.entity? r = some e → Triple (· = s) (g e) R E) :
    Triple (Reading going s₀) (look r >>= g) R E :=
  Triple.look (fun s hs he => hE _ s hs rfl (hs.absent he)) h

/-- When an entity was read again, nothing of it is still to be read. -/
theorem reading_revive (hE : Excused going s₀ r E) :
    Triple (Reading going s₀) (revive r) (fun _ s => Reading going s₀ s ∧
      ∀ e, s.entity? r = some e → e.stale = []) E := by
  intro s hs
  cases he : s.entity? r with
  | none =>
    refine Triple.look (P := (· = s)) (fun s' h _ => ?_) (fun s' e h he' => ?_) s rfl
    · exact hE _ s' (h ▸ hs) rfl (hs.absent he)
    · rw [h, he] at he'
      cases he'
  | some e =>
    refine Triple.weaken (run_revive s he) (fun _ h => h) (fun _ s' h => ?_) (fun err s' h => ?_)
      s rfl
    · obtain ⟨row, hrow, rfl⟩ := h
      refine ⟨hs.revived he (row?_of_reread hrow), fun e' he' => ?_⟩
      rw [entity?_modifyEntity_self he] at he'
      exact Option.some.inj he' ▸ rfl
    · obtain ⟨rfl, failed⟩ := h
      refine hE err s' hs (isInvalid_of_reread failed) fun row stored => ?_
      obtain ⟨e', he', mapped, hrow⟩ := hs.stored stored
      obtain rfl := Option.some.inj (he.symm.trans he')
      rw [hs.reread_eq he mapped hrow] at failed
      cases failed

/-- An entity at rest that holds a value holds that of its row. -/
theorem heldAs_of_held (rest : s.AtRest going) (he : s.entity? r = some e)
    (held : e.held? c = some v) : s.HeldAs r c v := by
  intro e' he' mapped _
  obtain rfl := Option.some.inj (he.symm.trans he')
  exact ⟨held, (rest.mirrors r e he mapped).held c v held⟩

theorem reading_value (hE : Excused going s₀ r E) (c : Column) :
    Triple (Reading going s₀) (value r c) (fun v s => Reading going s₀ s ∧ s.HeldAs r c v) E := by
  refine reading_look hE fun s e hs he => ?_
  cases held : e.held? c with
  | some v => exact Triple.pure fun _ h => h ▸ ⟨hs, heldAs_of_held hs.toAtRest he held⟩
  | none =>
    -- What is shown in the end is held, unless there is nothing to be read.
    have shown : ∀ s e, Reading going s₀ s → s.entity? r = some e →
        (e.held? c = none → c ∉ e.stale) → s.HeldAs r c ((e.held? c).getD .null) := by
      intro s e hs he read
      cases held : e.held? c with
      | some v => exact heldAs_of_held hs.toAtRest he held
      | none =>
        intro e' he' mapped hc
        obtain rfl := Option.some.inj (he.symm.trans he')
        exact absurd ((hs.mirrors r e he mapped).known c hc held) (read held)
    dsimp only
    split
    · refine Triple.bind (Triple.weaken (reading_revive hE) (fun _ h => h ▸ hs) (fun _ _ h => h)
        fun _ _ h => h) fun _ => ?_
      refine Triple.look (fun s' hs' he' => hE _ s' hs'.1 rfl (hs'.1.absent he')) ?_
      intro s' e' hs' he'
      refine Triple.pure fun s'' same => same ▸ ⟨hs'.1, shown s' e' hs'.1 he' fun _ stale => ?_⟩
      rw [hs'.2 e' he'] at stale
      cases stale
    · rename_i read
      refine Triple.look_at he (Triple.pure fun s' same => same ▸ ⟨hs, ?_⟩)
      exact shown s e hs he fun _ stale => read (List.contains_iff_mem.mpr stale)

theorem reading_formerValue (hE : Excused going s₀ r E) (c : Column) :
    Triple (Reading going s₀) (formerValue r c)
      (fun v s => Reading going s₀ s ∧ s.HeldAs r c v) E := by
  refine reading_look hE fun s e hs he => ?_
  split
  · rename_i v known
    refine Triple.pure fun s' same => same ▸ ⟨hs, fun e' he' mapped hc => ?_⟩
    obtain rfl := Option.some.inj (he.symm.trans he')
    have mirrors := hs.mirrors r e he mapped
    rw [mirrors.formerCell_eq hc] at known
    split at known
    · rename_i held
      obtain rfl := Entity.Glance.known.inj known
      exact ⟨held, mirrors.held c _ held⟩
    · cases known
  · exact Triple.weaken (reading_value hE c) (fun _ h => h ▸ hs) (fun _ _ h => h) fun _ _ h => h

/-! ## Reading rows -/

/-- The entity into which a row is read stands for it. -/
theorem reading_adopt (hrow : s₀.tables.row? row.kind row.id = some row) :
    Triple (Reading going s₀) (adopt row) (fun q s => Reading going s₀ s ∧ s.StoredAs row q) E := by
  intro s hs
  have hrow : s.tables.row? row.kind row.id = some row := hs.tables_eq ▸ hrow
  refine Triple.weaken (adopt_at s row) (fun _ h => h) (fun q s' h => ?_) (fun _ _ h => h.elim) s rfl
  rcases h with ⟨e, he, here, rfl⟩ | ⟨free, rfl, rfl⟩
  · rw [isAt, Bool.and_assoc, Bool.and_eq_true_iff, Bool.and_eq_true_iff] at here
    obtain ⟨mapped, kind, same⟩ := here
    obtain ⟨key, name, hkey, -, stored⟩ := (hs.mirrors q e he mapped).keyed
    have found : e.row? s.tables = some row := by
      rw [hkey] at same
      rw [Entity.row?, hkey, Option.bind_some, stored, Cell.text_of_same same stored,
        of_decide_eq_true kind]
      exact hrow
    refine ⟨hs.filled he (fun _ => found) _, _, entity?_modifyEntity_self he, mapped, ?_⟩
    exact found
  · refine ⟨hs.push hrow free, .ofRow row, ?_, rfl, hrow⟩
    exact (List.getElem?_append_right (Nat.le_refl _)).trans (by rw [Nat.sub_self]; rfl)

/-- The entities into which rows are read stand for them. -/
theorem reading_adoptAll {rows : List Row}
    (hrows : ∀ row ∈ rows, s₀.tables.row? row.kind row.id = some row) :
    Triple (Reading going s₀) (rows.mapM adopt)
      (fun ms s => Reading going s₀ s ∧ List.Forall₂ s.StoredAs rows ms) E := by
  induction rows generalizing s₀ with
  | nil => exact Triple.pure fun s hs => ⟨hs, .nil⟩
  | cons row rows ih =>
    rw [List.mapM_cons]
    refine Triple.bind (reading_adopt (hrows row List.mem_cons_self)) fun q => ?_
    rintro s₁ ⟨hs₁, stored⟩
    have rest : ∀ row ∈ rows, s₁.tables.row? row.kind row.id = some row := fun row hrow =>
      hs₁.tables_eq ▸ hrows row (List.mem_cons_of_mem _ hrow)
    refine Triple.bind (ih rest) (fun ms => Triple.pure fun s ⟨hs, found⟩ => ?_) s₁
      (.refl hs₁.toAtRest)
    exact ⟨hs₁.trans hs, .cons (hs.stored stored) found⟩

/-! ## Reading members -/

/-- What becomes of an entity that the session does not find by its key is all the same. -/
theorem reading_outside (hs : Reading going s₀ s) {e₀ : Entity} (he₀ : s₀.entity? r = some e₀)
    (outside : e₀.isMapped = false)
    (stands : ∀ e, s.entity? r = some e → e.Stands s.tables (f e))
    (doomed : ∀ e, (f e).isDoomed = e.isDoomed) : Reading going s₀ (s.modifyEntity r f) := by
  have lost : ∀ e, s.entity? r = some e → (f e).isMapped = true → False := by
    intro e he mapped
    rw [hs.mapped_before he₀ he ((stands e he).mapped_of mapped)] at outside
    cases outside
  exact hs.modifyEntity (fun e he => ⟨stands e he, fun goes => doomed e ▸ goes,
    fun mapped => (lost e he mapped).elim, fun mapped => (lost e he mapped).elim⟩)
    fun e he mapped => (lost e he mapped).elim

theorem not_storedAs {e₀ : Entity} (he₀ : s₀.entity? r = some e₀) (outside : e₀.isMapped = false)
    (row : Row) : ¬s₀.StoredAs row r := by
  rintro ⟨e, he, mapped, -⟩
  rw [Option.some.inj (he.symm.trans he₀), outside] at mapped
  cases mapped

variable {joining leaving : List Ref} {e₀ : Entity} {id : Cell}

theorem reading_leave (hE : Excused going s₀ r E) (he₀ : s₀.entity? r = some e₀)
    (outside : e₀.isMapped = false) (ms : List Ref) :
    Triple (Reading going s₀) (leave r rel ms) (fun _ => Reading going s₀) E := by
  induction ms with
  | nil => exact Triple.pure fun _ h => h
  | cons m ms ih =>
    refine reading_look hE fun s e hs he => ?_
    split
    · split
      · refine Triple.bind (Q := fun _ => Reading going s₀) (Triple.modify ?_) fun _ => ih
        rintro _ rfl
        exact reading_outside hs he₀ outside (fun e _ => ⟨rfl, rfl, rfl, .inl rfl⟩) fun _ => rfl
      · exact Triple.throw fun s' h => hE _ s' (h ▸ hs) rfl (not_storedAs he₀ outside)
    · exact Triple.weaken ih (fun _ h => h ▸ hs) (fun _ _ h => h) fun _ _ h => h

/-- Looking at an entity and going on as before. -/
theorem reading_lookAfter {β : Type} {P : Session → Prop} (hE : Excused going s₀ r E)
    (g : Entity → β) :
    Triple (fun s => Reading going s₀ s ∧ P s) (do return g (← look r))
      (fun _ s => Reading going s₀ s ∧ P s) E :=
  Triple.look (fun s hs he => hE _ s hs.1 rfl (hs.1.absent he)) fun _ _ hs _ =>
    Triple.pure fun _ h => h ▸ hs

/-- The identifier that an entity holds is the one that its key stands for. -/
theorem name_of_heldAs (shown : s.HeldAs r .id id) (he : s.entity? r = some e)
    (mapped : e.isMapped = true) :
    ∃ name, id = .text name ∧ e.key?.bind Cell.text? = some name := by
  obtain ⟨-, row, hrow, rfl⟩ := shown e he mapped e.kind.id_mem_columns
  obtain ⟨name, key, found⟩ := Option.bind_eq_some_iff.mp hrow
  refine ⟨row.id, by cases row <;> rfl, ?_⟩
  rw [key, Tables.id_of_row? found]

theorem reading_reaching :
    Triple (Reading going s₀) reaching (fun s' s => s'.tables = s₀.tables ∧ Reading going s₀ s) E :=
  Triple.weaken (Triple.reaching fun _ hs => hs.whole) (fun _ h => h)
    (fun _ _ h => ⟨h.1 ▸ h.2.tables_eq, h.2⟩) fun _ _ h => h

theorem reading_bind (n : Nat) (hE : id.bindFault? ≠ none →
    ∀ err s, Reading going s₀ s → err.isInvalid = false → E err s) :
    Triple (Reading going s₀) (bind n id) (fun _ => Reading going s₀) E := by
  unfold Work.bind
  split
  · exact Triple.pure fun _ h => h
  · rename_i fault
    exact Triple.throw fun s h => hE (by rw [fault]; exact nofun) _ s h rfl
  · rename_i fault
    exact Triple.throw fun s h => hE (by rw [fault]; exact nofun) _ s h rfl

/-- Members that stand for the related rows are known from then on. -/
theorem reading_found (hs : Reading going s₀ s) (he₀ : s₀.entity? r = some e₀)
    (shown : s₀.HeldAs r .id id) {found : List Ref}
    (related : List.Forall₂ s.StoredAs
      (id.text?.elim [] fun name => s₀.tables.related e₀.kind name rel) found) :
    let s' := s.modifyEntity r fun e =>
      { e.setMembers rel (.read found none) with isExpired := false }
    Reading going s₀ s' ∧ s'.KnowsMembers r rel := by
  have members : ∀ (e : Entity) rel', ({ e.setMembers rel (.read found none) with
      isExpired := false } : Entity).membersOf rel' =
        if rel' = rel then .read found none else e.membersOf rel' :=
    fun e rel' => Entity.membersOf_of_assign rfl
  constructor
  · refine hs.modifyEntity (fun e he => ⟨⟨rfl, rfl, rfl, .inl rfl⟩, fun goes => goes,
      fun _ _ held => held, fun _ rel' read => ?_⟩) fun e he mapped => ?_
    · rw [Entity.HasRead, members]
      split
      · exact ⟨found, rfl⟩
      · exact read
    · have mirrors := hs.mirrors r e he mapped
      refine ⟨⟨⟨mirrors.attached, mirrors.keyed, mirrors.untouched, mirrors.unremoved⟩,
        mirrors.unset, mirrors.held, mirrors.known⟩, fun rel' => ?_⟩
      by_cases same : rel' = rel
      · subst same
        obtain ⟨e', he', reads⟩ := hs.entities r e₀ he₀
        obtain rfl := Option.some.inj (he.symm.trans he')
        obtain ⟨name, rfl, key⟩ := name_of_heldAs shown he₀ (hs.mapped_before he₀ he mapped)
        refine .inr ⟨name, found, reads.key ▸ key, (members e rel').trans (if_pos rfl), ?_⟩
        rw [hs.tables_eq]
        exact reads.kind ▸ related
      · rcases hs.leads r e he mapped rel' with unread | ⟨name, ms, key, read, leads⟩
        · exact .inl ((members e rel').trans ((if_neg same).trans unread))
        · exact .inr ⟨name, ms, key, (members e rel').trans ((if_neg same).trans read), leads⟩
  · intro e he _
    rw [entity?_modifyEntity] at he
    rw [if_pos rfl] at he
    obtain ⟨e', -, rfl⟩ := Option.map_eq_some_iff.mp he
    exact ⟨found, (members e' rel).trans (if_pos rfl)⟩

theorem reading_readMembers (hE : Excused going s₀ r E) (he₀ : s₀.entity? r = some e₀)
    (shown : s₀.HeldAs r .id id)
    (calm : e₀.isMapped = true → joining = [] ∧ leaving = []) :
    Triple (Reading going s₀) (readMembers r rel id joining leaving)
      (fun _ s => Reading going s₀ s ∧ s.KnowsMembers r rel) E := by
  refine reading_look hE fun s e hs he => ?_
  obtain ⟨e', he', stands⟩ := hs.entities r e₀ he₀
  obtain rfl := Option.some.inj (he.symm.trans he')
  refine Triple.weaken (P := Reading going s₀) ?_ (fun _ h => h ▸ hs) (fun _ _ h => h) fun _ _ h => h
  refine Triple.bind reading_reaching fun s' => Triple.of_known fun tables => ?_
  rw [tables, stands.kind]
  refine Triple.bind (Q := fun _ => Reading going s₀) ?_ fun _ => ?_
  · refine reading_bind 1 fun fault err s hs calm => hE err s hs calm ?_
    rintro row ⟨e, he, mapped, -⟩
    obtain ⟨name, rfl, -⟩ := name_of_heldAs shown he mapped
    exact fault rfl
  refine Triple.bind (reading_adoptAll fun row hrow => ?_) fun found => ?_
  · cases name : id.text? with
    | none =>
      rw [name] at hrow
      cases hrow
    | some name =>
      rw [name] at hrow
      exact hs.keyed_before.row?_of_related hrow
  by_cases none : (joining.isEmpty && leaving.isEmpty) = true
  · rw [if_pos none]
    refine Triple.bind (Triple.modify fun s ⟨hs, related⟩ => ?_) fun _ => reading_lookAfter hE _
    exact reading_found hs he₀ shown related
  · rw [if_neg none]
    have outside : e₀.isMapped = false := by
      refine Bool.eq_false_iff.mpr fun mapped => none ?_
      obtain ⟨rfl, rfl⟩ := calm mapped
      rfl
    refine Triple.bind (Q := fun _ => Reading going s₀) (Triple.modify fun s ⟨hs, _⟩ =>
      reading_outside hs he₀ outside (fun e _ => ⟨rfl, rfl, rfl, .inl rfl⟩) fun _ => rfl)
      fun _ => ?_
    refine Triple.bind (reading_leave hE he₀ outside leaving) fun _ => ?_
    refine Triple.weaken (reading_lookAfter hE _) (fun s hs => ⟨hs, fun e he mapped => ?_⟩)
      (fun _ _ h => h) fun _ _ h => h
    rw [hs.mapped_before he₀ he mapped] at outside
    cases outside

/-- Members are read after the identifier was. -/
theorem reading_readAfter (hE : Excused going s₀ r E) {idOf : Work Cell}
    (hs : Reading going s₀ s) (he : s.entity? r = some e)
    (unread : e.membersOf rel = .unread joining leaving)
    (hid : Triple (Reading going s) idOf (fun v s' => Reading going s s' ∧ s'.HeldAs r .id v) E) :
    Triple (· = s) (do readMembers r rel (← idOf) joining leaving)
      (fun _ s' => Reading going s₀ s' ∧ s'.KnowsMembers r rel) E := by
  refine Triple.bind (Triple.weaken hid (fun _ h => .of_eq hs.toAtRest h) (fun _ _ h => h)
    fun _ _ h => h) fun id => ?_
  rintro s₁ ⟨hs₁, shown⟩
  obtain ⟨e₁, he₁, reads⟩ := hs₁.entities r e he
  have calm : e₁.isMapped = true → joining = [] ∧ leaving = [] := by
    intro mapped
    rcases hs.leads r e he (reads.mapped_of mapped) rel with none | ⟨_, ms, _, read, _⟩
    · rw [unread] at none
      cases none
      exact ⟨rfl, rfl⟩
    · rw [unread] at read
      cases read
  refine Triple.weaken (reading_readMembers (hE.later (hs.trans hs₁)) he₁ shown calm)
    (fun _ h => .of_eq hs₁.toAtRest h) (fun _ s' h => ?_) (fun _ _ h => h) s₁ rfl
  exact ⟨hs.trans (hs₁.trans h.1), h.2⟩

theorem reading_formerMembers (hE : Excused going s₀ r E) (rel : Relation) :
    Triple (Reading going s₀) (formerMembers r rel)
      (fun _ s => Reading going s₀ s ∧ s.KnowsMembers r rel) E := by
  refine reading_look hE fun s e hs he => ?_
  split
  · rename_i current former read
    refine Triple.pure fun s' same => same ▸ ⟨hs, fun e' he' mapped => ?_⟩
    obtain rfl := Option.some.inj (he.symm.trans he')
    rcases hs.leads r e he mapped rel with unread | ⟨_, ms, _, known, _⟩
    · rw [unread] at read
      cases read
    · exact ⟨ms, known⟩
  · rename_i unread
    exact reading_readAfter hE hs he unread (reading_formerValue (hE.later hs) .id)

theorem reading_members (hE : Excused going s₀ r E) (rel : Relation) :
    Triple (Reading going s₀) (members r rel) (fun _ => Reading going s₀) E := by
  refine reading_look hE fun s e hs he => ?_
  split
  · exact Triple.pure fun _ h => h ▸ hs
  · rename_i unread
    split
    · exact Triple.pure fun _ h => h ▸ hs
    · split
      · rename_i detached
        refine Triple.throw fun s' h => hE _ s' (h ▸ hs) rfl fun row stored => ?_
        obtain ⟨e', he', mapped, -⟩ := hs.stored stored
        obtain rfl := Option.some.inj (he.symm.trans he')
        rw [(hs.mirrors r e he mapped).attached] at detached
        cases detached
      · exact Triple.weaken (reading_readAfter hE hs he unread (reading_value (hE.later hs) .id))
          (fun _ h => h) (fun _ _ h => h.1) fun _ _ h => h

/-! ## Reading owners -/

theorem reading_holdOwner (r : Ref) (rel : Relation) (o : Option Ref) :
    Triple (Reading going s₀) (alter r fun e => e.setOwner rel o) (fun _ => Reading going s₀) E :=
  Triple.modify fun _ hs => hs.setOwner rel o

theorem reading_identifier (hE : ∀ v, id = .other v → ∀ err s, Reading going s₀ s →
      err.isInvalid = false → E err s) :
    Triple (Reading going s₀) (identifier id) (fun _ => Reading going s₀) E := by
  unfold identifier
  split
  · exact Triple.throw fun s h => hE _ rfl _ s h rfl
  · exact Triple.throw fun s h => hE _ rfl _ s h rfl
  · exact Triple.pure fun _ h => h

/-- Looking up the owner that a row names does not fail. -/
theorem reading_lookUpOwner (hE : Excused going s₀ r E) {e₀ : Entity}
    (he₀ : s₀.entity? r = some e₀) (columns : ∀ c, rel.column? = some c → c ∈ e₀.kind.columns) :
    Triple (Reading going s₀) (lookUpOwner r rel) (fun _ => Reading going s₀) E := by
  refine reading_look hE fun s e hs he => ?_
  refine Triple.weaken (P := Reading going s₀) ?_ (fun _ h => h ▸ hs) (fun _ _ h => h)
    fun _ _ h => h
  split
  · exact Triple.pure fun _ h => h
  · refine Triple.readied (fun _ => Triple.weaken (reading_revive hE) (fun _ h => h)
      (fun _ _ h => h.1) fun _ _ h => h) (fun _ h => h) ?_
    refine reading_look hE fun s e hs he => ?_
    refine Triple.weaken (P := Reading going s₀) ?_ (fun _ h => h ▸ hs) (fun _ _ h => h)
      fun _ _ h => h
    split
    · exact reading_holdOwner r rel none
    · rename_i id _ known
      refine Triple.bind (Q := fun _ => Reading going s₀) (Triple.get fun _ h => h) fun s' => ?_
      refine Triple.bind (reading_identifier fun v other err s'' hs'' calm => ?_) fun id => ?_
      · refine hE err s'' hs'' calm fun row stored => ?_
        obtain ⟨e', he', mapped, -⟩ := hs.stored stored
        obtain rfl := Option.some.inj (he.symm.trans he')
        obtain ⟨e₁, he₁, reads⟩ := hs.entities r e₀ he₀
        obtain rfl := Option.some.inj (he.symm.trans he₁)
        exact (hs.mirrors r e he mapped).ownerCell_ne_other
          (fun c hc => reads.kind ▸ columns c hc) (other ▸ known)
      · split
        · exact reading_holdOwner r rel _
        · exact Triple.pure fun _ h => h
    · exact Triple.pure fun _ h => h

end Work

end Session

end Weblog
