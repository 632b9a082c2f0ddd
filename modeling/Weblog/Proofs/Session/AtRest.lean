/-
  Sessions at rest: there is nothing to write, and what entities hold is what the tables hold.

  An entity that the session finds by its key holds what its row holds, apart from what it gave up
  (`Entity.Mirrors`), and members that were read are the entities of the related rows
  (`Session.Leads`). Nothing is asked of entities outside the session, and nothing of which values,
  owners and members were read. `AtRest going` makes room for entities that are to go.
-/
import Weblog.Proofs.Session.Validation
import Weblog.Proofs.Store.Cut
import Weblog.Session.Transaction

namespace Weblog

/-- Likeness with a text goes both ways. -/
theorem Cell.same_text (s : String) (v : Cell) : (Cell.text s).same v = v.same (.text s) := by
  cases v with
  | other j => cases j <;> simp [same, value?, Json.alike, Json.count?, eq_comm]
  | text s' => simp [same, value?, Json.alike, eq_comm]
  | _ => simp [same, value?, Json.alike, Json.count?]

/-! ## Entities -/

namespace Entity

variable {t : Tables} {e e' e'' : Entity} {row : Row} {c : Column} {v : Cell} {rel : Relation}

/-- The row of an entity. -/
def row? (e : Entity) (t : Tables) : Option Row := (e.key?.bind Cell.text?).bind (t.row? e.kind)

/-- An entity of the session that was not touched and stays under its key. -/
structure IsSettled (e : Entity) : Prop where
  attached : e.isAttached = true
  keyed : ∃ key id, e.key? = some key ∧ key.bindFault? = none ∧ key.text? = some id
  untouched : e.isTouched = false
  unremoved : e.wasRemoved = false

/-- Besides, it holds what its row holds, apart from what it gave up. -/
structure Mirrors (t : Tables) (e : Entity) : Prop extends e.IsSettled where
  unset : e.formerCells = []
  held : ∀ c v, e.held? c = some v → ∃ row, e.row? t = some row ∧ v = row.cell c
  known : ∀ c ∈ e.kind.columns, e.held? c = none → c ∈ e.stale

/-- The members that a relation leads to were read, and were not changed since. -/
def HasRead (e : Entity) (rel : Relation) : Prop := ∃ ms, e.membersOf rel = .read ms none

/-- An entity that stands as it did, or was lost sight of since its row is gone. -/
structure Stands (t : Tables) (e e' : Entity) : Prop where
  kind : e'.kind = e.kind
  key : e'.key? = e.key?
  turn : e'.turn? = e.turn?
  mapped : e'.isMapped = e.isMapped ∨ e'.isMapped = false ∧ e.row? t = none

/-- An entity after reading: besides, values that were held are still held, and members that were
read stay read. -/
structure Reads (t : Tables) (e e' : Entity) : Prop extends Stands t e e' where
  doomed : e'.isDoomed = true → e.isDoomed = true
  holds : e'.isMapped = true → ∀ c, (e.held? c).isSome = true → (e'.held? c).isSome = true
  members : e'.isMapped = true → ∀ rel, e.HasRead rel → e'.HasRead rel

theorem mem_of_row? (h : e.row? t = some row) : row ∈ t.rows e.kind := by
  obtain ⟨name, -, found⟩ := Option.bind_eq_some_iff.mp h
  rw [Tables.row?_eq_find?] at found
  exact List.mem_of_find?_eq_some found

theorem Stands.row?_eq (h : Stands t e e') : e'.row? t = e.row? t := by
  rw [row?, row?, h.kind, h.key]

theorem Stands.refl (t : Tables) (e : Entity) : Stands t e e := ⟨rfl, rfl, rfl, .inl rfl⟩

theorem Stands.trans (h : Stands t e e') (h' : Stands t e' e'') : Stands t e e'' where
  kind := h'.kind.trans h.kind
  key := h'.key.trans h.key
  turn := h'.turn.trans h.turn
  mapped := by
    rcases h'.mapped with same | ⟨lost, gone⟩
    · rw [same]
      exact h.mapped
    · exact .inr ⟨lost, h.row?_eq ▸ gone⟩

theorem Stands.mapped_of (h : Stands t e e') (mapped : e'.isMapped = true) :
    e.isMapped = true := by
  rcases h.mapped with same | ⟨lost, -⟩
  · rw [← same, mapped]
  · rw [mapped] at lost
    cases lost

theorem Reads.refl (t : Tables) (e : Entity) : Reads t e e :=
  ⟨.refl t e, id, fun _ _ => id, fun _ _ => id⟩

theorem Reads.trans (h : Reads t e e') (h' : Reads t e' e'') : Reads t e e'' where
  toStands := h.toStands.trans h'.toStands
  doomed := h.doomed ∘ h'.doomed
  holds := fun mapped c held => h'.holds mapped c (h.holds (h'.mapped_of mapped) c held)
  members := fun mapped rel read => h'.members mapped rel (h.members (h'.mapped_of mapped) rel read)

theorem reads_fill (t : Tables) (e : Entity) (row : Row) (cs : List Column) :
    Reads t e (e.fill row cs) where
  toStands := ⟨rfl, rfl, rfl, .inl rfl⟩
  doomed := id
  holds := by
    intro _ c held
    rw [held?_fill]
    split
    · rfl
    · exact held
  members := fun _ _ => id

theorem reads_revived (t : Tables) (e : Entity) (row : Row) : Reads t e (e.revived row) :=
  ⟨⟨rfl, rfl, rfl, .inl rfl⟩, id, (reads_fill t e row _).holds, fun _ _ => id⟩

theorem reads_setOwner (t : Tables) (e : Entity) (rel : Relation) (o : Option Ref) :
    Reads t e (e.setOwner rel o) :=
  ⟨⟨rfl, rfl, rfl, .inl rfl⟩, id, fun _ _ => id, fun _ _ => id⟩

namespace Mirrors

/-- What an entity reads from its row is what the row holds. -/
theorem fill (h : e.Mirrors t) (hrow : e.row? t = some row) (cs : List Column) :
    (e.fill row cs).Mirrors t where
  attached := h.attached
  keyed := h.keyed
  untouched := h.untouched
  unset := h.unset
  unremoved := h.unremoved
  held := by
    intro c v hv
    rw [held?_fill] at hv
    split at hv
    · exact ⟨row, hrow, (Option.some.inj hv).symm⟩
    · exact h.held c v hv
  known := by
    intro c hc hv
    rw [held?_fill] at hv
    split at hv
    · cases hv
    · rename_i unread
      exact List.mem_filter.mpr ⟨h.known c hc hv, by rw [Bool.eq_false_iff.mpr unread]; rfl⟩

theorem revived (h : e.Mirrors t) (hrow : e.row? t = some row) : (e.revived row).Mirrors t where
  attached := h.attached
  keyed := h.keyed
  untouched := h.untouched
  unset := h.unset
  unremoved := h.unremoved
  held := (h.fill hrow _).held
  known := by
    intro c hc hv
    have wanted := (e.held?_fill row (e.stale.filter fun c => (e.formerCells.lookup c).isNone)
      c).symm.trans hv
    split at wanted
    · cases wanted
    · rename_i unread
      refine absurd (List.contains_iff_mem.mpr (List.mem_filter.mpr ⟨h.known c hc wanted, ?_⟩)) unread
      rw [h.unset]
      rfl

/-- What an entity gives up is to be read again, whatever its row holds. -/
theorem expired (h : e.IsSettled) (t : Tables) : e.expired.Mirrors t where
  attached := h.attached
  keyed := h.keyed
  untouched := rfl
  unset := rfl
  unremoved := h.unremoved
  held := fun _ _ hv => by cases hv
  known := fun _ hc _ => hc

/-- The entity of a row holds what the row holds. -/
theorem ofRow (hrow : t.row? row.kind row.id = some row) : (ofRow row).Mirrors t where
  attached := rfl
  keyed := ⟨_, row.id, rfl, rfl, rfl⟩
  untouched := rfl
  unset := rfl
  unremoved := rfl
  held := by
    intro c v hv
    have found := (lookup_map row.cell row.kind.columns c).symm.trans hv
    split at found
    · exact ⟨row, hrow, (Option.some.inj found).symm⟩
    · cases found
  known := by
    intro c hc hv
    have hc : c ∈ row.kind.columns := hc
    have found := (lookup_map row.cell row.kind.columns c).symm.trans hv
    rw [if_pos (List.contains_iff_mem.mpr hc)] at found
    cases found

theorem setOwner (h : e.Mirrors t) (rel : Relation) (o : Option Ref) :
    (e.setOwner rel o).Mirrors t :=
  ⟨⟨h.attached, h.keyed, h.untouched, h.unremoved⟩, h.unset, h.held, h.known⟩

/-- What an entity shows as its row holds it is held, or is still to be read. -/
theorem formerCell_eq (h : e.Mirrors t) (hc : c ∈ e.kind.columns) :
    e.formerCell c = match e.held? c with
      | some v => .known v
      | none => .unread := by
  unfold formerCell
  rw [h.unset, List.lookup_nil]
  cases held : e.held? c with
  | some v => rfl
  | none => exact if_pos (List.contains_iff_mem.mpr (h.known c hc held))

end Mirrors

end Entity

/-! ## Sessions -/

namespace Session

variable {s s' s₀ : Session} {q r : Ref} {e : Entity} {f : Entity → Entity} {row : Row}
  {rel : Relation} {going : List Ref}

/-- An entity that the session finds by its key stands for a row. -/
def StoredAs (s : Session) (row : Row) (q : Ref) : Prop :=
  ∃ e, s.entity? q = some e ∧ e.isMapped = true ∧ e.row? s.tables = some row

/-- What is known of the members that a relation leads to: nothing yet, or that they stand for the
related rows, in their order. -/
def Leads (s : Session) (e : Entity) (rel : Relation) : Prop :=
  e.membersOf rel = .unread [] [] ∨
    ∃ id ms, e.key?.bind Cell.text? = some id ∧ e.membersOf rel = .read ms none ∧
      List.Forall₂ s.StoredAs (s.tables.related e.kind id rel) ms

/-- The session finds one entity by a key. -/
def KeysApart (s : Session) : Prop := ∀ q e key q' e', s.entity? q = some e →
  e.isMapped = true → e.key? = some key → s.entity? q' = some e' → isAt e.kind key e' = true → q' = q

/-- A session with nothing to write, but that some entities may be about to go. What was written is
committed, what the session knows of it is so, and it finds one entity by a key. -/
structure AtRest (going : List Ref) (s : Session) : Prop where
  keyed : s.tables.IsKeyed
  committed : s.committed = s.tables
  whole : s.broken = false
  unwritten : ∀ q e, s.entity? q = some e →
    e.isPending = false ∧ (e.isDoomed = true → q ∈ going)
  apart : s.KeysApart
  mirrors : ∀ q e, s.entity? q = some e → e.isMapped = true → e.Mirrors s.tables
  leads : ∀ q e, s.entity? q = some e → e.isMapped = true → ∀ rel, s.Leads e rel

/-! ### Rows that entities stand for -/

theorem StoredAs.mono (h : s.StoredAs row q) (tables : s'.tables = s.tables)
    (stands : ∀ e, s.entity? q = some e → ∃ e', s'.entity? q = some e' ∧ e.Stands s.tables e') :
    s'.StoredAs row q := by
  obtain ⟨e, he, mapped, hrow⟩ := h
  obtain ⟨e', he', stands⟩ := stands e he
  refine ⟨e', he', ?_, by rw [tables, stands.row?_eq, hrow]⟩
  rcases stands.mapped with same | ⟨-, gone⟩
  · rw [same, mapped]
  · rw [hrow] at gone
    cases gone

theorem Leads.mono (h : s.Leads e rel) (tables : s'.tables = s.tables)
    (stored : ∀ row q, s.StoredAs row q → s'.StoredAs row q) : s'.Leads e rel := by
  rcases h with unread | ⟨id, ms, key, read, related⟩
  · exact .inl unread
  · exact .inr ⟨id, ms, key, read, tables ▸ related.imp stored⟩

theorem StoredAs.modifyEntity (h : s.StoredAs row q)
    (stands : ∀ e, s.entity? r = some e → e.Stands s.tables (f e)) :
    (s.modifyEntity r f).StoredAs row q := by
  refine h.mono rfl fun e he => ?_
  by_cases same : r = q
  · subst same
    exact ⟨f e, entity?_modifyEntity_self he, stands e he⟩
  · exact ⟨e, by rw [entity?_modifyEntity, if_neg same, he], .refl _ e⟩

theorem entity?_push (he : s.entity? q = some e) (new : Entity) :
    ({ s with entities := s.entities ++ [new] } : Session).entity? q = some e := by
  obtain ⟨bound, -⟩ := List.getElem?_eq_some_iff.mp he
  exact (List.getElem?_append_left bound).trans he

theorem entity?_last (s : Session) (new : Entity) :
    ({ s with entities := s.entities ++ [new] } : Session).entity? s.entities.length = some new := by
  refine (List.getElem?_append_right (Nat.le_refl _)).trans ?_
  rw [Nat.sub_self]
  rfl

/-- An entity of a session with one more is an old one or the new one. -/
theorem of_entity?_push {new : Entity}
    (he : ({ s with entities := s.entities ++ [new] } : Session).entity? q = some e) :
    s.entity? q = some e ∨ q = s.entities.length ∧ e = new := by
  rcases Nat.lt_or_ge q s.entities.length with old | late
  · exact .inl ((List.getElem?_append_left old).symm.trans he)
  · have found : [new][q - s.entities.length]? = some e :=
      (List.getElem?_append_right late).symm.trans he
    obtain ⟨last, rfl⟩ := List.getElem?_eq_some_iff.mp found
    refine .inr ⟨Nat.le_antisymm (Nat.sub_eq_zero_iff_le.mp (Nat.lt_one_iff.mp last)) late, ?_⟩
    exact List.getElem_singleton ..

theorem StoredAs.push (h : s.StoredAs row q) (new : Entity) :
    ({ s with entities := s.entities ++ [new] } : Session).StoredAs row q :=
  h.mono rfl fun e he => ⟨e, entity?_push he new, .refl _ e⟩

/-! ### Staying at rest -/

/-- What is found by a key after a change was found by it before. -/
theorem isAt_of_stands {k : Kind} {key : Cell} {e' : Entity} {t : Tables} (h : e.Stands t e')
    (here : isAt k key e' = true) : isAt k key e = true := by
  simp only [isAt, Bool.and_eq_true] at here ⊢
  obtain ⟨⟨mapped, kind⟩, same⟩ := here
  exact ⟨⟨h.mapped_of mapped, h.kind ▸ kind⟩, h.key ▸ same⟩

/-- Where no entity is found by a key, none has it. -/
theorem isAt_eq_false {k : Kind} {key : Cell} (free : s.mapped? k key = none)
    (he : s.entity? q = some e) : isAt k key e = false :=
  List.findIdx?_eq_none_iff.mp free e (List.mem_of_getElem? he)

namespace AtRest

/-- What is logged has no part in it. -/
theorem logged (h : s.AtRest going) (log : List LogRecord) :
    ({ s with log := log } : Session).AtRest going :=
  ⟨h.keyed, h.committed, h.whole, h.unwritten, h.apart, h.mirrors, h.leads⟩

theorem mono {going' : List Ref} (h : s.AtRest going) (more : going ⊆ going') : s.AtRest going' :=
  ⟨h.keyed, h.committed, h.whole, fun q e he => (h.unwritten q e he).imp_right fun goes doomed =>
    more (goes doomed), h.apart, h.mirrors, h.leads⟩

/-- A changed entity leaves a session at rest if it stands as it did, and mirrors its row. -/
theorem modifyEntity (h : s.AtRest going)
    (stands : ∀ e, s.entity? r = some e → e.Stands s.tables (f e))
    (doomed : ∀ e, s.entity? r = some e → (f e).isDoomed = true → e.isDoomed = true ∨ r ∈ going)
    (mirrors : ∀ e, s.entity? r = some e → (f e).isMapped = true →
      (f e).Mirrors s.tables ∧ ∀ rel, s.Leads (f e) rel) : (s.modifyEntity r f).AtRest going := by
  have stored : ∀ row q, s.StoredAs row q → (s.modifyEntity r f).StoredAs row q :=
    fun _ _ h => h.modifyEntity stands
  have entity : ∀ q e', (s.modifyEntity r f).entity? q = some e' →
      s.entity? q = some e' ∨ ∃ e, s.entity? r = some e ∧ q = r ∧ e' = f e := by
    intro q e' he'
    rw [entity?_modifyEntity] at he'
    split at he'
    · rename_i same
      obtain ⟨e, he, rfl⟩ := Option.map_eq_some_iff.mp he'
      exact .inr ⟨e, same ▸ he, same.symm, rfl⟩
    · exact .inl he'
  have before : ∀ q e', (s.modifyEntity r f).entity? q = some e' →
      ∃ e, s.entity? q = some e ∧ e.Stands s.tables e' := by
    intro q e' he'
    rcases entity q e' he' with he | ⟨e, he, rfl, rfl⟩
    · exact ⟨e', he, .refl _ e'⟩
    · exact ⟨e, he, stands e he⟩
  refine ⟨h.keyed, h.committed, h.whole, fun q e' he' => ?_, fun q e key q' e' he mapped hkey he'
    here => ?_, fun q e' he' mapped => ?_, fun q e' he' mapped rel => ?_⟩
  · rcases entity q e' he' with he | ⟨e, he, rfl, rfl⟩
    · exact h.unwritten q e' he
    · obtain ⟨settled, goes⟩ := h.unwritten q e he
      refine ⟨?_, fun marked => (doomed e he marked).elim goes id⟩
      rw [Entity.isPending, (stands e he).turn]
      exact settled
  · obtain ⟨e₁, he₁, stands₁⟩ := before q e he
    obtain ⟨e₂, he₂, stands₂⟩ := before q' e' he'
    refine h.apart q e₁ key q' e₂ he₁ (stands₁.mapped_of mapped) (stands₁.key ▸ hkey) he₂ ?_
    exact isAt_of_stands stands₂ (stands₁.kind ▸ here)
  · rcases entity q e' he' with he | ⟨e, he, rfl, rfl⟩
    · exact h.mirrors q e' he mapped
    · exact (mirrors e he mapped).1
  · rcases entity q e' he' with he | ⟨e, he, rfl, rfl⟩
    · exact (h.leads q e' he mapped rel).mono rfl stored
    · exact ((mirrors e he mapped).2 rel).mono rfl stored

/-- The entity of a row may join a session at rest. -/
theorem push (h : s.AtRest going) (hrow : s.tables.row? row.kind row.id = some row)
    (free : s.mapped? row.kind (.text row.id) = none) :
    ({ s with entities := s.entities ++ [.ofRow row] } : Session).AtRest going where
  keyed := h.keyed
  committed := h.committed
  whole := h.whole
  unwritten := by
    intro q e he
    rcases of_entity?_push he with he | ⟨-, rfl⟩
    · exact h.unwritten q e he
    · exact ⟨rfl, fun doomed => by cases doomed⟩
  apart := by
    intro q e key q' e' he mapped hkey he' here
    rcases of_entity?_push he with he | ⟨rfl, rfl⟩
    · rcases of_entity?_push he' with he' | ⟨rfl, rfl⟩
      · exact h.apart q e key q' e' he mapped hkey he' here
      · -- The new entity would have the key of an old one.
        simp only [isAt, Bool.and_eq_true, decide_eq_true_eq] at here
        have taken : isAt row.kind (.text row.id) e = true := by
          simp only [isAt, Bool.and_eq_true, decide_eq_true_eq]
          refine ⟨⟨mapped, here.1.2.symm⟩, ?_⟩
          rw [hkey, Option.any_some, ← Cell.same_text]
          exact here.2
        rw [isAt_eq_false free he] at taken
        cases taken
    · rcases of_entity?_push he' with he' | ⟨rfl, -⟩
      · obtain rfl := Option.some.inj hkey
        exact absurd here (Bool.eq_false_iff.mp (isAt_eq_false free he'))
      · rfl
  mirrors := by
    intro q e he mapped
    rcases of_entity?_push he with he | ⟨-, rfl⟩
    · exact h.mirrors q e he mapped
    · exact .ofRow hrow
  leads := by
    intro q e he mapped rel
    rcases of_entity?_push he with he | ⟨-, rfl⟩
    · exact (h.leads q e he mapped rel).mono rfl fun _ _ h => h.push _
    · exact .inl rfl

end AtRest

/-! ### Coming to rest -/

/-- A session in which everything was written, whatever its entities hold. -/
structure IsWritten (s : Session) : Prop where
  keyed : s.tables.IsKeyed
  whole : s.broken = false
  unwritten : ∀ q e, s.entity? q = some e → e.isPending = false ∧ e.isDoomed = false
  settled : ∀ q e, s.entity? q = some e → e.isMapped = true → e.IsSettled
  apart : s.KeysApart

theorem AtRest.isWritten (h : s.AtRest []) : s.IsWritten where
  keyed := h.keyed
  whole := h.whole
  unwritten := fun q e he => ⟨(h.unwritten q e he).1,
    Bool.eq_false_iff.mpr fun doomed => List.not_mem_nil ((h.unwritten q e he).2 doomed)⟩
  settled := fun q e he mapped => (h.mirrors q e he mapped).toIsSettled
  apart := h.apart

namespace IsWritten

theorem isClean (h : s.IsWritten) : s.isClean = true := by
  refine List.all_eq_true.mpr fun e mem => ?_
  obtain ⟨q, he⟩ := List.mem_iff_getElem?.mp mem
  obtain ⟨pending, doomed⟩ := h.unwritten q e he
  cases mapped : e.isMapped with
  | false => simp [pending, doomed]
  | true => simp [pending, doomed, (h.settled q e he mapped).untouched]

/-- When everything is given up, a session is at rest. -/
theorem atRest_givenUp (h : s.IsWritten)
    (stands : ∀ q e, s.entity? q = some e → e.Stands s.tables (f e) ∧ (f e).isDoomed = e.isDoomed ∧
      (e.isMapped = true → (f e).Mirrors s.tables ∧ (f e).members = [])) :
    ({ s.mapEntities f with committed := s.tables } : Session).AtRest [] := by
  have before : ∀ q e', ({ s.mapEntities f with committed := s.tables } : Session).entity? q =
      some e' → ∃ e, s.entity? q = some e ∧ e' = f e := by
    intro q e' he'
    change (s.mapEntities f).entity? q = some e' at he'
    rw [entity?_mapEntities] at he'
    obtain ⟨e, he, rfl⟩ := Option.map_eq_some_iff.mp he'
    exact ⟨e, he, rfl⟩
  refine ⟨h.keyed, rfl, h.whole, fun q e' he' => ?_, fun q e₁ key q' e₂ he₁ mapped hkey he₂ here => ?_,
    fun q e' he' mapped => ?_, fun q e' he' mapped rel => ?_⟩
  · obtain ⟨e, he, rfl⟩ := before q e' he'
    obtain ⟨stands, doomed, -⟩ := stands q e he
    obtain ⟨pending, stays⟩ := h.unwritten q e he
    refine ⟨by rw [Entity.isPending, stands.turn]; exact pending, fun goes => ?_⟩
    rw [doomed, stays] at goes
    cases goes
  · obtain ⟨e, he, rfl⟩ := before q e₁ he₁
    obtain ⟨e', he', rfl⟩ := before q' e₂ he₂
    have stood := (stands q e he).1
    exact h.apart q e key q' e' he (stood.mapped_of mapped) (stood.key ▸ hkey) he'
      (isAt_of_stands (stands q' e' he').1 (stood.kind ▸ here))
  · obtain ⟨e, he, rfl⟩ := before q e' he'
    obtain ⟨stood, -, mirrors⟩ := stands q e he
    exact (mirrors (stood.mapped_of mapped)).1
  · obtain ⟨e, he, rfl⟩ := before q e' he'
    obtain ⟨stood, -, mirrors⟩ := stands q e he
    exact .inl (by rw [Entity.membersOf, (mirrors (stood.mapped_of mapped)).2]; rfl)

theorem atRest_expireAll (h : s.IsWritten) (committed : s.committed = s.tables) :
    s.expireAll.AtRest [] := by
  have same : s.expireAll = { s.expireAll with committed := s.tables } := by
    rw [← committed]
    rfl
  rw [same]
  refine h.atRest_givenUp fun q e he => ?_
  cases mapped : e.isMapped with
  | false => exact ⟨.refl _ e, rfl, fun h => by cases h⟩
  | true => exact ⟨⟨rfl, rfl, rfl, .inl rfl⟩, rfl, fun _ => ⟨.expired (h.settled q e he mapped) _, rfl⟩⟩

/-- What is made lasting is at rest: everything is to be read again. -/
theorem atRest_sealed (h : s.IsWritten) : s.sealed.AtRest [] := by
  have same : s.sealed = { s.mapEntities ((lasting ∘ fun e =>
      if e.wasRemoved then { e with isAttached := false } else e) ∘ fun e =>
        if e.isMapped then e.expired else e) with committed := s.tables } := by
    rw [mapEntities, ← List.map_map]
    rfl
  rw [same]
  refine h.atRest_givenUp fun q e he => ?_
  simp only [Function.comp_apply]
  cases mapped : e.isMapped with
  | false =>
    rw [if_neg Bool.false_ne_true]
    split <;> exact ⟨⟨rfl, rfl, rfl, .inl rfl⟩, rfl, fun h => by cases h⟩
  | true =>
    have settled := h.settled q e he mapped
    have stays : ¬e.expired.wasRemoved = true := Bool.eq_false_iff.mp settled.unremoved
    rw [if_pos rfl, if_neg stays]
    have mirrors := Entity.Mirrors.expired settled s.tables
    exact ⟨⟨rfl, rfl, rfl, .inl rfl⟩, rfl, fun _ => ⟨⟨⟨mirrors.attached, mirrors.keyed,
      mirrors.untouched, rfl⟩, rfl, mirrors.held, mirrors.known⟩, rfl⟩⟩

end IsWritten

end Session

end Weblog
