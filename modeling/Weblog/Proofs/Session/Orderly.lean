/-
  Entities in good order: what an entity holds in its required columns, and how it stands.

  An entity that was not touched since it was written or read holds nothing blank in a required
  column, since the tables do not. `Orderly` says this and what goes with it. Work that reads, and
  most of what a flush does, leaves an entity as `Steady` describes it: what is new in a required
  column came from a row.
-/
import Weblog.Proofs.Store.Filled
import Weblog.Record.Attribute
import Weblog.Session.Entity

namespace Weblog.Entity

variable {e e' e'' : Entity} {c : Column} {v : Cell} {row : Row} {cs : List Column}

/-- No required column is held with a blank value. -/
def IsFilled (e : Entity) : Prop := ∀ c ∈ e.kind.required, ∀ v, e.held? c = some v → v.isBlank = false

/-- All required columns are held. -/
def IsComplete (e : Entity) : Prop := ∀ c ∈ e.kind.required, (e.held? c).isSome = true

/-- An entity in good order. -/
structure Orderly (e : Entity) : Prop where
  /-- What is held in required columns can be stored. -/
  plain : ∀ c ∈ e.kind.required, ∀ v, e.held? c = some v → v.IsPlain
  /-- What was not touched is not blank. -/
  untouched : e.isTouched = false → e.IsFilled
  /-- The session finds entities by their keys. -/
  keyed : e.isMapped = true → e.key?.isSome = true
  /-- What is held and still to be read was set. -/
  given : ∀ c ∈ e.kind.required, (e.held? c).isSome = true → c ∈ e.stale →
    (e.formerCells.lookup c).isSome = true
  /-- The entity lists no names of its own to be required. -/
  ruled : e.extras.lookup Attribute.presenceName = none ∧ e.extras.lookup "validate" = none

/-- An entity that holds the same and stands otherwise. -/
theorem Orderly.restand (h : e.Orderly) (kind : e'.kind = e.kind) (cells : e'.cells = e.cells)
    (formerCells : e'.formerCells = e.formerCells) (stale : e'.stale = e.stale)
    (extras : e'.extras = e.extras) (touched : e.isTouched = true → e'.isTouched = true)
    (keyed : e'.isMapped = true → e'.key?.isSome = true) : e'.Orderly where
  plain := by
    intro c hc v hv
    rw [held?, cells] at hv
    exact h.plain c (kind ▸ hc) v hv
  untouched := by
    intro untouched c hc v hv
    rw [held?, cells] at hv
    refine h.untouched (Bool.eq_false_iff.mpr fun old => ?_) c (kind ▸ hc) v hv
    rw [touched old] at untouched
    cases untouched
  keyed := keyed
  given := by
    intro c hc held old
    rw [held?, cells] at held
    rw [formerCells]
    exact h.given c (kind ▸ hc) held (stale ▸ old)
  ruled := extras ▸ h.ruled

/-- An entity after work that reads or writes no more than it may: its standing is as it was, or the
session lost sight of it, and what is new in a required column is not blank. -/
structure Steady (e e' : Entity) : Prop where
  kind : e'.kind = e.kind
  key : e'.key? = e.key?
  turn : e'.turn? = e.turn?
  extras : e'.extras = e.extras
  touched : e.isTouched = true → e'.isTouched = true
  mapped : e'.isMapped = true → e.isMapped = true
  doomed : e'.isDoomed = true → e.isDoomed = true
  /-- What is new in a required column is a text of a row. -/
  cells : ∀ c ∈ e.kind.required, ∀ v, e'.held? c = some v →
    e.held? c = some v ∨ v.isBlank = false ∧ v.IsPlain
  held : ∀ c ∈ e.kind.required, (e.held? c).isSome = true → (e'.held? c).isSome = true
  given : ∀ c ∈ e.kind.required,
    ((e.held? c).isSome = true → c ∈ e.stale → (e.formerCells.lookup c).isSome = true) →
    (e'.held? c).isSome = true → c ∈ e'.stale → (e'.formerCells.lookup c).isSome = true

namespace Steady

theorem refl (e : Entity) : Steady e e :=
  ⟨rfl, rfl, rfl, rfl, id, id, id, fun _ _ _ => .inl, fun _ _ => id, fun _ _ => id⟩

theorem trans (h : Steady e e') (h' : Steady e' e'') : Steady e e'' where
  kind := h'.kind.trans h.kind
  key := h'.key.trans h.key
  turn := h'.turn.trans h.turn
  extras := h'.extras.trans h.extras
  touched := h'.touched ∘ h.touched
  mapped := h.mapped ∘ h'.mapped
  doomed := h.doomed ∘ h'.doomed
  cells := by
    intro c hc v hv
    rcases h'.cells c (h.kind ▸ hc) v hv with old | new
    · exact h.cells c hc v old
    · exact .inr new
  held := fun c hc held => h'.held c (h.kind ▸ hc) (h.held c hc held)
  given := fun c hc given => h'.given c (h.kind ▸ hc) (h.given c hc given)

theorem contained (h : Steady e e') (contained : e'.isContained = true) : e.isContained = true := by
  rw [isContained, isPending, h.turn] at contained
  rcases Bool.or_eq_true_iff.mp contained with pending | mapped
  · exact Bool.or_eq_true_iff.mpr (.inl pending)
  · exact Bool.or_eq_true_iff.mpr (.inr (h.mapped mapped))

theorem filled (h : Steady e e') (filled : e.IsFilled) : e'.IsFilled := by
  intro c hc v hv
  rw [h.kind] at hc
  rcases h.cells c hc v hv with old | ⟨visible, -⟩
  · exact filled c hc v old
  · exact visible

theorem complete (h : Steady e e') (complete : e.IsComplete) : e'.IsComplete := by
  intro c hc
  rw [h.kind] at hc
  exact h.held c hc (complete c hc)

theorem orderly (h : Steady e e') (he : e.Orderly) : e'.Orderly where
  plain := by
    intro c hc v hv
    rw [h.kind] at hc
    rcases h.cells c hc v hv with old | ⟨-, plain⟩
    · exact he.plain c hc v old
    · exact plain
  untouched := by
    intro untouched
    refine h.filled (he.untouched ?_)
    refine Bool.eq_false_iff.mpr fun touched => ?_
    rw [h.touched touched] at untouched
    cases untouched
  keyed := by
    intro mapped
    rw [h.key]
    exact he.keyed (h.mapped mapped)
  given := by
    intro c hc
    rw [h.kind] at hc
    exact h.given c hc (he.given c hc)
  ruled := by
    rw [h.extras]
    exact he.ruled

/-- Nothing changed in what an entity holds and in how it stands. -/
theorem of_same (kind : e'.kind = e.kind) (key : e'.key? = e.key?) (turn : e'.turn? = e.turn?)
    (extras : e'.extras = e.extras) (touched : e.isTouched = true → e'.isTouched = true)
    (mapped : e'.isMapped = true → e.isMapped = true)
    (doomed : e'.isDoomed = true → e.isDoomed = true) (cells : e'.cells = e.cells)
    (formerCells : e'.formerCells = e.formerCells) (stale : e'.stale = e.stale) : Steady e e' where
  kind := kind
  key := key
  turn := turn
  extras := extras
  touched := touched
  mapped := mapped
  doomed := doomed
  cells := by
    intro c _ v hv
    rw [held?, cells] at hv
    exact .inl hv
  held := by
    intro c _ h
    rw [held?, cells]
    exact h
  given := by
    intro c _ h
    rw [held?, cells, formerCells, stale]
    exact h

end Steady

/-- An entity after work that moreover makes no member of an entity new. -/
structure Calm (e e' : Entity) : Prop extends Steady e e' where
  gained : ∀ rel, ∀ m ∈ (e'.memberShift rel).gained, m ∈ (e.memberShift rel).gained

/-- An entity after work that moreover leaves its members alone. -/
structure Still (e e' : Entity) : Prop extends Steady e e' where
  members : e'.members = e.members

theorem Calm.refl (e : Entity) : Calm e e := ⟨.refl e, fun _ _ => id⟩

theorem Calm.trans (h : Calm e e') (h' : Calm e' e'') : Calm e e'' :=
  ⟨h.toSteady.trans h'.toSteady, fun rel m hm => h.gained rel m (h'.gained rel m hm)⟩

theorem Still.refl (e : Entity) : Still e e := ⟨.refl e, rfl⟩

theorem Still.membersOf_eq (h : Still e e') (rel : Relation) : e'.membersOf rel = e.membersOf rel :=
  congrArg (fun ms : List (Relation × Members) => (ms.lookup rel).getD (.unread [] [])) h.members

theorem Still.calm (h : Still e e') : Calm e e' where
  toSteady := h.toSteady
  gained := by
    intro rel m hm
    rw [memberShift, h.membersOf_eq rel] at hm
    exact hm

/-! ## Looking up -/

section Lookup

variable {α β : Type} [DecidableEq α] (entries : List (α × β))

theorem lookup_filter (p : α → Bool) (k : α) :
    (entries.filter fun x => p x.1).lookup k = if p k then entries.lookup k else none := by
  induction entries with
  | nil => exact (ite_self none).symm
  | cons x entries ih =>
    obtain ⟨l, b⟩ := x
    by_cases same : k = l
    · subst same
      cases hp : p k with
      | true => simp [hp]
      | false => simp [hp, ih]
    · have other : (k == l) = false := beq_false_of_ne same
      cases hp : p l with
      | true => simp [hp, List.lookup_cons, other, ih]
      | false => simp [hp, List.lookup_cons, other, ih]

theorem lookup_assign (k l : α) (b : β) :
    (assign entries k b).lookup l = if l = k then some b else entries.lookup l := by
  unfold assign
  rw [List.lookup_cons, lookup_filter entries (fun x => !(x == k))]
  by_cases same : l = k
  · simp [same]
  · simp [same, beq_false_of_ne same]

theorem lookup_without (ks : List α) (l : α) :
    (without entries ks).lookup l = if ks.contains l then none else entries.lookup l := by
  unfold without
  rw [lookup_filter entries (fun x => !ks.contains x)]
  cases ks.contains l <;> rfl

theorem lookup_map (f : α → β) (ks : List α) (k : α) :
    (ks.map fun l => (l, f l)).lookup k = if ks.contains k then some (f k) else none := by
  induction ks with
  | nil => rfl
  | cons l ks ih =>
    rw [List.map_cons, List.lookup_cons, List.contains_cons, ih]
    by_cases same : k = l
    · simp [same]
    · simp [beq_false_of_ne same]

end Lookup

/-! ## Changes of entities -/

section Members

variable {rel rel' : Relation} {m : Members}

theorem membersOf_of_assign (members : e'.members = assign e.members rel m) :
    e'.membersOf rel' = if rel' = rel then m else e.membersOf rel' := by
  rw [membersOf, members, lookup_assign]
  by_cases same : rel' = rel
  · simp [same]
  · simp [same, membersOf]

/-- Work is calm if it makes no member new where it changes the members. -/
theorem Calm.of_assign (h : Steady e e') (members : e'.members = assign e.members rel m)
    (gained : ∀ x ∈ (e'.memberShift rel).gained, x ∈ (e.memberShift rel).gained) : Calm e e' where
  toSteady := h
  gained := by
    intro rel' x hx
    by_cases same : rel' = rel
    · subst same
      exact gained x hx
    · rw [memberShift, membersOf_of_assign members, if_neg same] at hx
      exact hx

end Members

theorem held?_hold (e : Entity) (c d : Column) (v : Cell) :
    (e.hold c v).held? d = if d = c then some v else e.held? d :=
  lookup_assign e.cells c d v

/-- What is held after reading. -/
theorem held?_fill (e : Entity) (row : Row) (cs : List Column) (c : Column) :
    (e.fill row cs).held? c = if cs.contains c then some (row.cell c) else e.held? c := by
  unfold held? fill
  rw [List.lookup_append, lookup_map, lookup_without]
  cases cs.contains c <;> rfl

theorem steady_fill (e : Entity) (hrow : row.IsFilled) (kind : row.kind = e.kind)
    (cs : List Column) : Steady e (e.fill row cs) where
  kind := rfl
  key := rfl
  turn := rfl
  extras := rfl
  touched := id
  mapped := id
  doomed := id
  cells := by
    intro c hc v hv
    rw [held?_fill] at hv
    split at hv
    · obtain rfl := Option.some.inj hv
      rw [← kind] at hc
      exact .inr ⟨hrow c hc, row.isPlain_cell c hc⟩
    · exact .inl hv
  held := by
    intro c _ h
    rw [held?_fill]
    split
    · rfl
    · exact h
  given := by
    intro c _ h held stale
    obtain ⟨stale, unread⟩ := List.mem_filter.mp stale
    refine h ?_ stale
    rw [held?_fill] at held
    split at held
    · rename_i read
      rw [read] at unread
      cases unread
    · exact held

theorem held?_setCell (e : Entity) (c d : Column) (old : Former Cell) (v : Cell) :
    (e.setCell c old v).held? d = if d = c then some v else e.held? d :=
  held?_hold e c d v

theorem lookup_formers_setCell (e : Entity) (c d : Column) (old : Former Cell) (v : Cell) :
    (e.setCell c old v).formerCells.lookup d =
      if d = c ∧ e.formerCells.lookup c = none then some old else e.formerCells.lookup d := by
  show (if (e.formerCells.lookup c).isSome then e.formerCells
    else (c, old) :: e.formerCells).lookup d = _
  cases set : e.formerCells.lookup c with
  | some former => simp
  | none =>
    rw [if_neg (by simp), List.lookup_cons]
    by_cases same : d = c
    · simp [same]
    · simp [same, beq_false_of_ne same]

theorem lookup_formerCells_setCell (e : Entity) (c d : Column) (old : Former Cell) (v : Cell) :
    ((e.setCell c old v).formerCells.lookup d).isSome =
      (decide (d = c) || (e.formerCells.lookup d).isSome) := by
  rw [lookup_formers_setCell]
  by_cases same : d = c
  · subst same
    cases e.formerCells.lookup d <;> simp
  · simp [same]

/-- Setting a column that is not required. -/
theorem still_setCell (e : Entity) (free : ∀ k : Kind, c ∉ k.required) (old : Former Cell)
    (v : Cell) : Still e (e.setCell c old v) where
  kind := rfl
  key := rfl
  turn := rfl
  extras := rfl
  touched := fun _ => rfl
  mapped := id
  doomed := id
  cells := by
    intro d hd w hw
    have other : d ≠ c := fun same => free e.kind (same ▸ hd)
    exact .inl (by rwa [held?_setCell, if_neg other] at hw)
  held := by
    intro d hd held
    have other : d ≠ c := fun same => free e.kind (same ▸ hd)
    rw [held?_setCell, if_neg other]
    exact held
  given := by
    intro d hd given held stale
    have other : d ≠ c := fun same => free e.kind (same ▸ hd)
    rw [lookup_formerCells_setCell, decide_eq_false other, Bool.false_or]
    rw [held?_setCell, if_neg other] at held
    exact given held stale
  members := rfl

/-- The entity of a row is in good order. -/
theorem orderly_ofRow (hrow : row.IsFilled) : (ofRow row).Orderly ∧ (ofRow row).IsFilled := by
  have cells : ∀ c ∈ row.kind.required, ∀ v, (ofRow row).held? c = some v → row.cell c = v := by
    intro c _ v hv
    have found : (row.cells).lookup c = some v := hv
    rw [Row.cells, lookup_map] at found
    split at found
    · exact Option.some.inj found
    · cases found
  have filled : (ofRow row).IsFilled := fun c hc v hv => cells c hc v hv ▸ hrow c hc
  refine ⟨⟨fun c hc v hv => ?_, fun _ => filled, fun _ => rfl, fun c _ _ h => (by cases h),
    rfl, rfl⟩, filled⟩
  exact cells c hc v hv ▸ row.isPlain_cell c hc

end Weblog.Entity
