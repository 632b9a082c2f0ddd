/-
  Entities of posts beside their rows: what an entity knows of the title and the body that its row
  holds.

  An entity that was not set holds what its row holds (`Entity.Bears`); one that was set knows what
  its row held before, unless it was not read (`Entity.Follows`). Nothing that reads changes this
  (`Entity.Reread`), and neither does setting a value.
-/
import Weblog.Proofs.Session.Relating
import Weblog.Proofs.Session.Reindexing

namespace Weblog

/-! ## Values of posts -/

/-- A text, or nothing. -/
def Cell.IsText : Cell → Prop
  | .null | .text _ => True
  | _ => False

theorem Cell.IsText.eq_of_same {v w : Cell} (hv : v.IsText) (hw : w.IsText) (same : v.same w = true) :
    v = w := by
  cases v <;> cases w <;>
    first
    | exact hv.elim
    | exact hw.elim
    | simp_all [Cell.same, Cell.value?, Json.alike, Json.count?]

theorem Cell.isText_ofText? (o : Option String) : (Cell.ofText? o).IsText := by
  cases o <;> exact trivial

theorem Cell.IsText.eq_ofText? {v : Cell} (hv : v.IsText) : Cell.ofText? v.text? = v := by
  cases v <;> first | exact hv.elim | rfl

/-- The columns whose values a document is made of. -/
def Column.contents : List Column := [.title, .body]

theorem Column.mem_indexed_of_contents {c : Column} (hc : c ∈ contents) :
    c ∈ Entity.indexedColumns := List.mem_cons_of_mem _ hc

/-- What a post holds in the columns that documents are made of is text. -/
theorem PostRow.isText_cell (p : PostRow) {c : Column} (hc : c ∈ Entity.indexedColumns) :
    ((Row.post p).cell c).IsText := by
  simp only [Entity.indexedColumns, List.mem_cons, List.not_mem_nil, or_false] at hc
  rcases hc with rfl | rfl | rfl
  · exact trivial
  · exact Cell.isText_ofText? p.title
  · exact Cell.isText_ofText? p.body

namespace Entity

variable {e e' e'' : Entity} {c : Column} {v w : Cell} {p q : PostRow} {ps : List PostRow}
  {id : String}

/-! ## What an entity knows of its row -/

/-- What is held in a column is a value of the row; what is not held is to be read, or is nothing. -/
def BearsIn (e : Entity) (c : Column) (v : Cell) : Prop :=
  match e.held? c with
  | some w => v = w
  | none => c ∈ e.stale ∨ v = .null

/-- What is known of a column of the row is so. -/
def FollowsIn (e : Entity) (c : Column) (v : Cell) : Prop :=
  match e.formerCells.lookup c with
  | some (.known old) => v = old
  | some .unknown => True
  | none => e.BearsIn c v

/-- The entity holds the title and the body of a post. -/
def Bears (e : Entity) (p : PostRow) : Prop :=
  ∀ c ∈ Column.contents, e.BearsIn c ((Row.post p).cell c)

/-- What the entity knows of the title and the body of a post is so. -/
def Follows (e : Entity) (p : PostRow) : Prop :=
  ∀ c ∈ Column.contents, e.FollowsIn c ((Row.post p).cell c)

/-- Neither the title nor the body was set. -/
def IsUnset (e : Entity) : Prop := ∀ c ∈ Column.contents, e.formerCells.lookup c = none

theorem IsUnset.followsIn_iff (h : e.IsUnset) (hc : c ∈ Column.contents) :
    e.FollowsIn c v ↔ e.BearsIn c v := by
  rw [FollowsIn, h c hc]

theorem Follows.bears (h : e.Follows p) (unset : e.IsUnset) : e.Bears p :=
  fun c hc => (unset.followsIn_iff hc).mp (h c hc)

theorem Bears.follows (h : e.Bears p) (unset : e.IsUnset) : e.Follows p :=
  fun c hc => (unset.followsIn_iff hc).mpr (h c hc)

/-! ## Entities of posts -/

/-- What is always so of the entity of a post whose identifier is not changed once it has a row. -/
structure IsRecord (e : Entity) : Prop where
  texts : ∀ c ∈ indexedColumns, ∀ v, e.held? c = some v → v.IsText
  formers : ∀ c ∈ indexedColumns, ∀ v, e.formerCells.lookup c = some (.known v) → v.IsText
  /-- What was set is held. -/
  noted : ∀ c ∈ indexedColumns, (e.formerCells.lookup c).isSome = true → (e.held? c).isSome = true
  /-- An entity that is to be put in has no key. -/
  unkeyed : e.isPending = true → e.key? = none
  /-- A key is the identifier that is held or to be read, and is not set. -/
  key : ∀ key, e.key? = some key → (∃ id, key = .text id) ∧ e.formerCells.lookup .id = none ∧
    (e.held? .id = some key ∨ e.held? .id = none ∧ .id ∈ e.stale)
  /-- What an entity with a key holds and is to read was set. -/
  given : e.key?.isSome = true → ∀ c ∈ indexedColumns, (e.held? c).isSome = true → c ∈ e.stale →
    (e.formerCells.lookup c).isSome = true
  /-- An entity with a key is in the session, or its row is gone. -/
  found : e.key?.isSome = true → e.isMapped = true ∨ e.isGone = true
  keyed : e.isMapped = true → e.key?.isSome = true
  doomed : e.isDoomed = true → e.isMapped = true
  unrenamed : e.renamedFrom? = none

/-- The identifier of the row that an entity has or is to be put in as. -/
def rowId? (e : Entity) : Option String := (e.key?.or (e.held? .id)).bind Cell.text?

/-- The entity stands for a row that was there at the last commit. -/
def Holds (e : Entity) (id : String) : Prop :=
  e.key? = some (.text id) ∧ e.wasWritten = false ∧ (e.isMapped = true ∨ e.wasRemoved = true)

theorem rowId?_of_key (h : e.key? = some (.text id)) : e.rowId? = some id := by
  rw [rowId?, h]
  rfl

theorem rowId?_of_unkeyed (h : e.key? = none) : e.rowId? = (e.held? .id).bind Cell.text? := by
  rw [rowId?, h]
  rfl

theorem IsRecord.exists_key (h : e.IsRecord) (mapped : e.isMapped = true) :
    ∃ id, e.key? = some (.text id) ∧ e.rowId? = some id := by
  obtain ⟨key, hkey⟩ := Option.isSome_iff_exists.mp (h.keyed mapped)
  obtain ⟨⟨id, rfl⟩, -⟩ := h.key key hkey
  exact ⟨id, hkey, rowId?_of_key hkey⟩

theorem IsRecord.key_of_rowId? (h : e.IsRecord) (keyed : e.key?.isSome = true)
    (hid : e.rowId? = some id) : e.key? = some (.text id) := by
  obtain ⟨key, hkey⟩ := Option.isSome_iff_exists.mp keyed
  obtain ⟨⟨id', rfl⟩, -⟩ := h.key key hkey
  rw [rowId?_of_key hkey] at hid
  rw [hkey, Option.some.inj hid]

/-- The identifier that is held is that of the row. -/
theorem IsRecord.held_id (h : e.IsRecord) (hid : e.rowId? = some id) (hv : e.held? .id = some v) :
    v = .text id := by
  cases hkey : e.key? with
  | some key =>
    obtain ⟨⟨id', rfl⟩, -, held | ⟨unheld, -⟩⟩ := h.key key hkey
    · rw [rowId?_of_key hkey] at hid
      rw [held] at hv
      rw [← Option.some.inj hv, Option.some.inj hid]
    · rw [unheld] at hv
      cases hv
  | none =>
    rw [rowId?_of_unkeyed hkey, hv] at hid
    have text := h.texts .id (by decide) v hv
    cases v with
    | text s => exact congrArg Cell.text (Option.some.inj hid)
    | null => cases hid
    | _ => exact text.elim

/-! ## Reading -/

/-- A column after reading: as it was, or read from the row. -/
def RereadIn (ps : List PostRow) (e e' : Entity) (c : Column) : Prop :=
  (e'.held? c = e.held? c ∧ (c ∈ e'.stale → c ∈ e.stale) ∧
    (e.held? c = none → c ∈ e.stale → c ∈ e'.stale)) ∨
  (e.held? c = none ∧ e.formerCells.lookup c = none ∧ c ∉ e'.stale ∧
    ∃ p ∈ ps, e.key? = some (.text p.id) ∧ e'.held? c = some ((Row.post p).cell c))

/-- An entity of a post after work that only reads, or that only changes what posts are not made of:
it stands as it did, and what is new comes from its row. -/
structure Reread (ps : List PostRow) (e e' : Entity) : Prop where
  key : e'.key? = e.key?
  turn : e'.turn? = e.turn?
  mapped : e'.isMapped = e.isMapped
  doomed : e'.isDoomed = e.isDoomed
  gone : e'.isGone = e.isGone
  written : e'.wasWritten = e.wasWritten
  removed : e'.wasRemoved = e.wasRemoved
  renamed : e'.renamedFrom? = e.renamedFrom?
  touched : e.isTouched = true → e'.isTouched = true
  set : ∀ c ∈ indexedColumns, e'.formerCells.lookup c = e.formerCells.lookup c
  held : ∀ c ∈ indexedColumns, RereadIn ps e e' c

theorem RereadIn.of_same (held : e'.held? c = e.held? c) (stale : e'.stale = e.stale) :
    RereadIn ps e e' c := .inl ⟨held, fun h => stale ▸ h, fun _ h => stale ▸ h⟩

/-- Where relations change, no value does. -/
theorem Related.reread (h : e.Related e') (ps : List PostRow) : Reread ps e e' := by
  obtain ⟨_, _, _, _, _, _, touched, rfl⟩ := h
  exact ⟨rfl, rfl, rfl, rfl, rfl, rfl, rfl, rfl, touched, fun _ _ => rfl, fun _ _ => .of_same rfl rfl⟩

/-- Setting a column of another kind of value. -/
theorem reread_setCell (e : Entity) (hc : c ∉ indexedColumns) (old : Former Cell) (v : Cell) :
    Reread ps e (e.setCell c old v) where
  key := rfl
  turn := rfl
  mapped := rfl
  doomed := rfl
  gone := rfl
  written := rfl
  removed := rfl
  renamed := rfl
  touched := fun _ => rfl
  set := by
    intro d hd
    have other : d ≠ c := fun same => hc (same ▸ hd)
    show (if (e.formerCells.lookup c).isSome then e.formerCells
      else (c, old) :: e.formerCells).lookup d = _
    split
    · rfl
    · rw [List.lookup_cons, beq_false_of_ne other]
  held := by
    intro d hd
    have other : d ≠ c := fun same => hc (same ▸ hd)
    refine .of_same ?_ rfl
    rw [held?_setCell, if_neg other]

/-- Noting a value of a column that documents are not made of. -/
theorem reread_timed (e : Entity) (hc : c ∉ indexedColumns) (v : Cell) :
    Reread ps e { e.hold c v with formerCells := without e.formerCells [c] } where
  key := rfl
  turn := rfl
  mapped := rfl
  doomed := rfl
  gone := rfl
  written := rfl
  removed := rfl
  renamed := rfl
  touched := id
  set := by
    intro d hd
    have other : d ≠ c := fun same => hc (same ▸ hd)
    show (without e.formerCells [c]).lookup d = _
    rw [lookup_without, if_neg (by simpa using other)]
  held := by
    intro d hd
    have other : d ≠ c := fun same => hc (same ▸ hd)
    refine .of_same ?_ rfl
    exact (e.held?_hold c d v).trans (if_neg other)

/-- Reading columns of the own row that were neither held nor set. -/
theorem reread_fill (hp : p ∈ ps) (hkey : e.key? = some (.text p.id)) {cs : List Column}
    (unread : ∀ c ∈ indexedColumns, c ∈ cs → e.held? c = none ∧ e.formerCells.lookup c = none) :
    Reread ps e (e.fill (.post p) cs) where
  key := rfl
  turn := rfl
  mapped := rfl
  doomed := rfl
  gone := rfl
  written := rfl
  removed := rfl
  renamed := rfl
  touched := id
  set := fun _ _ => rfl
  held := by
    intro c hc
    by_cases read : c ∈ cs
    · obtain ⟨unheld, unset⟩ := unread c hc read
      refine .inr ⟨unheld, unset, fun stale => ?_, p, hp, hkey, ?_⟩
      · have kept := (List.mem_filter.mp stale).2
        simp [read] at kept
      · rw [held?_fill, if_pos (List.contains_iff_mem.mpr read)]
    · refine .inl ⟨?_, fun stale => (List.mem_filter.mp stale).1, fun _ stale => ?_⟩
      · rw [held?_fill, if_neg fun h => read (List.contains_iff_mem.mp h)]
      · exact List.mem_filter.mpr ⟨stale, by simpa using read⟩

theorem reread_adopted (hp : p ∈ ps) (hkey : e.key? = some (.text p.id)) :
    Reread ps e (e.fill (.post p) e.missing) := by
  refine reread_fill hp hkey fun c _ missing => ?_
  have unread := (List.mem_filter.mp missing).2
  rw [Bool.and_eq_true, Option.isNone_iff_eq_none, Option.isNone_iff_eq_none] at unread
  exact unread

theorem IsRecord.reread_revived (h : e.IsRecord) (hp : p ∈ ps) (hkey : e.key? = some (.text p.id)) :
    Reread ps e (e.revived (.post p)) := by
  have keyed : e.key?.isSome = true := by rw [hkey]; rfl
  have wanted : ∀ c, c ∈ e.stale.filter (fun c => (e.formerCells.lookup c).isNone) ↔
      c ∈ e.stale ∧ e.formerCells.lookup c = none := by
    intro c
    rw [List.mem_filter, Option.isNone_iff_eq_none]
  -- What is to be read and was not set is not held.
  have unheld : ∀ c ∈ indexedColumns, c ∈ e.stale → e.formerCells.lookup c = none →
      e.held? c = none := by
    intro c hc stale unset
    by_contra held
    have set := h.given keyed c hc (Option.isSome_iff_ne_none.mpr held) stale
    rw [unset] at set
    cases set
  have fill : Reread ps e (e.fill (.post p) (e.stale.filter fun c =>
      (e.formerCells.lookup c).isNone)) := reread_fill hp hkey fun c hc read =>
    ⟨unheld c hc ((wanted c).mp read).1 ((wanted c).mp read).2, ((wanted c).mp read).2⟩
  refine ⟨fill.key, fill.turn, fill.mapped, fill.doomed, fill.gone, fill.written, fill.removed,
    fill.renamed, fill.touched, fill.set, fun c hc => ?_⟩
  rcases fill.held c hc with ⟨same, -, unread⟩ | ⟨none, unset, -, read⟩
  · refine .inl ⟨same, fun stale => (by cases stale), fun none stale => ?_⟩
    -- A column to be read that was set is held.
    have set : (e.formerCells.lookup c).isSome = true := by
      by_contra unset
      have unset := Option.not_isSome_iff_eq_none.mp unset
      have kept := (List.mem_filter.mp (unread none stale)).2
      rw [List.contains_iff_mem.mpr ((wanted c).mpr ⟨stale, unset⟩)] at kept
      cases kept
    have held := h.noted c hc set
    rw [none] at held
    cases held
  · exact .inr ⟨none, unset, fun stale => (by cases stale), read⟩

namespace Reread

variable (h : Reread ps e e')

include h

theorem contained : e'.isContained = e.isContained := by
  rw [isContained, isPending, h.turn, h.mapped]
  rfl

theorem pending : e'.isPending = e.isPending := congrArg Option.isSome h.turn

theorem unset_iff : e'.IsUnset ↔ e.IsUnset := by
  unfold IsUnset
  exact forall₂_congr fun c hc => by rw [h.set c (Column.mem_indexed_of_contents hc)]

theorem holds_iff : e'.Holds id ↔ e.Holds id := by
  rw [Holds, Holds, h.key, h.written, h.mapped, h.removed]

theorem isRecord (he : e.IsRecord) : e'.IsRecord where
  texts := by
    intro c hc v hv
    rcases h.held c hc with ⟨same, -⟩ | ⟨-, -, -, p, -, -, read⟩
    · exact he.texts c hc v (same ▸ hv)
    · rw [read] at hv
      exact Option.some.inj hv ▸ p.isText_cell hc
  formers := fun c hc v hv => he.formers c hc v (h.set c hc ▸ hv)
  noted := by
    intro c hc set
    rw [h.set c hc] at set
    rcases h.held c hc with ⟨same, -⟩ | ⟨-, unset, -⟩
    · rw [same]
      exact he.noted c hc set
    · rw [unset] at set
      cases set
  unkeyed := fun pending => h.key ▸ he.unkeyed (h.pending ▸ pending)
  key := by
    intro key hkey
    rw [h.key] at hkey
    obtain ⟨text, unset, held⟩ := he.key key hkey
    refine ⟨text, (h.set .id (by decide)).trans unset, ?_⟩
    rcases h.held .id (by decide) with ⟨same, -, unread⟩ | ⟨-, -, -, p, -, hp, read⟩
    · rw [same]
      exact held.imp_right fun ⟨unheld, stale⟩ => ⟨unheld, unread unheld stale⟩
    · rw [read, ← hkey, hp]
      exact .inl rfl
  given := by
    intro keyed c hc held stale
    rw [h.set c hc]
    rcases h.held c hc with ⟨same, old, -⟩ | ⟨-, -, fresh, -⟩
    · exact he.given (h.key ▸ keyed) c hc (same ▸ held) (old stale)
    · exact absurd stale fresh
  found := fun keyed => by
    rw [h.mapped, h.gone]
    exact he.found (h.key ▸ keyed)
  keyed := fun mapped => h.key ▸ he.keyed (h.mapped ▸ mapped)
  doomed := fun doomed => h.mapped ▸ he.doomed (h.doomed ▸ doomed)
  unrenamed := h.renamed.trans he.unrenamed

theorem rowId?_eq (he : e.IsRecord) : e'.rowId? = e.rowId? := by
  cases hkey : e.key? with
  | some key =>
    obtain ⟨⟨id, rfl⟩, -⟩ := he.key key hkey
    rw [rowId?_of_key hkey, rowId?_of_key (h.key.trans hkey)]
  | none =>
    rw [rowId?_of_unkeyed hkey, rowId?_of_unkeyed (h.key.trans hkey)]
    rcases h.held .id (by decide) with ⟨same, -⟩ | ⟨-, -, -, p, -, hp, -⟩
    · rw [same]
    · rw [hkey] at hp
      cases hp

/-- What is read of a column is what the row holds in it. -/
theorem bearsIn (ids : (ps.map (·.id)).Nodup) (hp : p ∈ ps)
    (hkey : ∀ id, e.key? = some (.text id) → id = p.id) (hc : c ∈ Column.contents)
    (bears : e.BearsIn c ((Row.post p).cell c)) : e'.BearsIn c ((Row.post p).cell c) := by
  unfold BearsIn at bears ⊢
  rcases h.held c (Column.mem_indexed_of_contents hc) with ⟨same, -, unread⟩ | ⟨none, -, -, q, hq, hk, read⟩
  · rw [same]
    cases held : e.held? c with
    | some v =>
      rw [held] at bears
      exact bears
    | none =>
      rw [held] at bears
      exact bears.imp_left (unread held)
  · rw [read]
    obtain rfl := List.inj_on_of_nodup_map ids hq hp (hkey _ hk)
    rfl

theorem bears (ids : (ps.map (·.id)).Nodup) (hp : p ∈ ps)
    (hkey : ∀ id, e.key? = some (.text id) → id = p.id) (bears : e.Bears p) : e'.Bears p :=
  fun c hc => h.bearsIn ids hp hkey hc (bears c hc)

theorem follows (ids : (ps.map (·.id)).Nodup) (hp : p ∈ ps)
    (hkey : e.key? = some (.text p.id)) (follows : e.Follows p) : e'.Follows p := by
  intro c hc
  have known := follows c hc
  unfold FollowsIn at known ⊢
  rw [h.set c (Column.mem_indexed_of_contents hc)]
  split
  · rename_i old
    rw [old] at known
    exact known
  · trivial
  · rename_i unset
    rw [unset] at known
    refine h.bearsIn ids hp (fun id hid => ?_) hc known
    rw [hkey] at hid
    exact (Cell.text.inj (Option.some.inj hid)).symm

end Reread

end Entity

end Weblog
