/-
  Entities: records in memory, as a session works with them.

  An entity holds values, knows of some of them what its row holds instead, and may have given up
  others, which are read from the row when they are looked at. Relations are held on both of their
  sides. A relation to many that was not read yet still notes what is to join it and to leave it.
-/
import Weblog.Store.Cells

namespace Weblog

/-- An entity, by number. -/
abbrev Ref := Nat

/-- The entities that a relation to many leads to. -/
inductive Members
  /-- Not read, apart from what is to join and to leave. -/
  | unread (joining leaving : List Ref)
  /-- The entities as they are now, and as the tables have them if that is not the same. -/
  | read (current : List Ref) (former : Option (List Ref))
deriving DecidableEq, Repr

/-- What was known of a value before it was set. -/
inductive Former (α : Type)
  | unknown
  | known (value : α)
deriving DecidableEq, Repr

/-- A record in memory. -/
structure Entity where
  kind : Kind
  /-- The identifier under which the entity was written or read. -/
  key? : Option Cell
  /-- Whether the entity belongs to the session. -/
  isAttached : Bool
  /-- The place among the entities to be put in, if it is one of them. -/
  turn? : Option Nat
  /-- Whether the session finds the entity by its key. -/
  isMapped : Bool
  /-- Whether the row is to be taken out. -/
  isDoomed : Bool
  /-- Whether the row was found to be gone, or was taken out. -/
  isGone : Bool
  /-- The values held. -/
  cells : List (Column × Cell)
  /-- What the row holds in the columns that were set. -/
  formerCells : List (Column × Former Cell)
  /-- The columns to be read from the row when they are looked at. -/
  stale : List Column
  /-- Whether all values were given up and none was read since. -/
  isExpired : Bool
  /-- Whether anything was done to the entity since it was last written or read. -/
  isTouched : Bool
  owners : List (Relation × Option Ref)
  formerOwners : List (Relation × Former (Option Ref))
  members : List (Relation × Members)
  /-- The relations to many that nulls stand in before their members, once for every null. -/
  nulls : List Relation
  /-- What was set under names that are neither columns nor relations. -/
  extras : List (String × Json)
  /-- Whether the row was put in since the last commit. -/
  wasWritten : Bool
  /-- Whether the row was taken out since the last commit. -/
  wasRemoved : Bool
  /-- The key at the last commit, if another one was given since. -/
  renamedFrom? : Option Cell
deriving DecidableEq, Repr

/-- The entries of a table with the one of a key replaced. -/
def assign {α β : Type} [BEq α] (entries : List (α × β)) (key : α) (value : β) : List (α × β) :=
  (key, value) :: entries.filter fun x => !(x.1 == key)

/-- The entries of a table without those of some keys. -/
def without {α β : Type} [BEq α] (entries : List (α × β)) (keys : List α) : List (α × β) :=
  entries.filter fun x => !keys.contains x.1

namespace Entity

/-- An entity outside any session. -/
def fresh (k : Kind) : Entity :=
  ⟨k, none, false, none, false, false, false, [], [], [], false, false, [], [], [], [], [], false,
    false, none⟩

/-- The entity of a row. -/
def ofRow (row : Row) : Entity :=
  { fresh row.kind with
    key? := some (.text row.id)
    isAttached := true
    isMapped := true
    cells := row.cells }

/-! ## Standing -/

def isPending (e : Entity) : Bool := e.turn?.isSome

/-- The place among the entities to be put in. -/
def turn (e : Entity) : Nat := e.turn?.getD 0

/-- Whether the entity of a row was touched and stays. -/
def isDirty (e : Entity) : Bool := e.isMapped && e.isTouched && !e.isDoomed

/-- Whether the session works with the entity. -/
def isContained (e : Entity) : Bool := e.isPending || e.isMapped

/-! ## Values -/

/-- The value held in a column. -/
def held? (e : Entity) (c : Column) : Option Cell := e.cells.lookup c

/-- Holds a value in a column. -/
def hold (e : Entity) (c : Column) (v : Cell) : Entity := { e with cells := assign e.cells c v }

/-- What is known of a value without reading. -/
inductive Glance (α : Type)
  | known (value : α)
  /-- There is a row that was not read. -/
  | unread
  | absent
deriving DecidableEq, Repr

/-- The value of a column as the row holds it, as far as it is known. -/
def formerCell (e : Entity) (c : Column) : Glance Cell :=
  match e.formerCells.lookup c, e.held? c with
  | some (.known v), _ => .known v
  | some .unknown, _ => .known .null
  | none, some v => .known v
  | none, none => if e.stale.contains c then .unread else .absent

/-- The columns whose values differ from the row, or may differ from it, with their values. -/
def changes (e : Entity) : List (Column × Cell) :=
  e.kind.columns.filterMap fun c =>
    match e.formerCells.lookup c, e.held? c with
    | some (.known old), some v => if v.same old then none else some (c, v)
    | some .unknown, some v => some (c, v)
    | _, _ => none

/-- Whether the identifier is another than that of the row. -/
def isRenamed (e : Entity) : Bool :=
  match e.formerCells.lookup .id, e.held? .id with
  | some (.known old), some v => !v.same old
  | _, _ => false

/-- Sets a value of which a former value is known or not. -/
def setCell (e : Entity) (c : Column) (old : Former Cell) (v : Cell) : Entity :=
  { e.hold c v with
    formerCells := if (e.formerCells.lookup c).isSome then e.formerCells else (c, old) :: e.formerCells
    isTouched := true }

/-- Fills in values of the row. -/
def fill (e : Entity) (row : Row) (cs : List Column) : Entity :=
  { e with
    cells := cs.map (fun c => (c, row.cell c)) ++ without e.cells cs
    stale := e.stale.filter fun c => !cs.contains c
    isExpired := false }

/-- The columns of the row that are neither held nor set. -/
def missing (e : Entity) : List Column :=
  e.kind.columns.filter fun c => (e.held? c).isNone && (e.formerCells.lookup c).isNone

/-! ## Relations -/

def membersOf (e : Entity) (rel : Relation) : Members :=
  (e.members.lookup rel).getD (.unread [] [])

def setMembers (e : Entity) (rel : Relation) (m : Members) : Entity :=
  { e with members := assign e.members rel m }

/-- The members if they are known; those of an entity without a row are. -/
def known? (e : Entity) (rel : Relation) : Option (List Ref) :=
  match e.membersOf rel with
  | .read current _ => some current
  | .unread .. => if e.key?.isNone then some [] else none

/-- Knows the members of an entity without a row: there are none yet. -/
def opened (e : Entity) (rel : Relation) : Entity :=
  match e.membersOf rel with
  | .read .. => e
  | .unread .. => if e.key?.isNone then e.setMembers rel (.read [] none) else e

/-- One more member. -/
def gain (e : Entity) (rel : Relation) (r : Ref) : Entity :=
  let e := e.opened rel
  let m := match e.membersOf rel with
    | .read current former => Members.read (current ++ [r]) (some (former.getD current))
    | .unread joining leaving =>
      if leaving.contains r then .unread joining (leaving.erase r)
      else .unread (if joining.contains r then joining else joining ++ [r]) leaving
  { e.setMembers rel m with isTouched := true }

/-- One member less. -/
def lose (e : Entity) (rel : Relation) (r : Ref) : Entity :=
  let e := e.opened rel
  let m := match e.membersOf rel with
    | .read current former => Members.read (current.erase r) (some (former.getD current))
    | .unread joining leaving =>
      if joining.contains r then .unread (joining.erase r) leaving
      else .unread joining (if leaving.contains r then leaving else leaving ++ [r])
  { e.setMembers rel m with isTouched := true }

/-- Holds an owner that was looked up. -/
def setOwner (e : Entity) (rel : Relation) (o : Option Ref) : Entity :=
  { e with owners := assign e.owners rel o, isExpired := false }

/-- Sets an owner of which a former one is known or not. -/
def assignOwner (e : Entity) (rel : Relation) (old : Former (Option Ref)) (o : Option Ref) : Entity :=
  { e with
    owners := assign e.owners rel o
    formerOwners :=
      if (e.formerOwners.lookup rel).isSome then e.formerOwners else (rel, old) :: e.formerOwners
    isTouched := true }

/-- The entities that a relation leads to or led to, as far as they are at hand. -/
def reach (e : Entity) (rel : Relation) : List Ref :=
  if rel.isMany then
    match e.membersOf rel with
    | .unread .. => []
    | .read current former => current ++ (former.getD []).filter fun r => !current.contains r
  else
    match e.owners.lookup rel, e.formerOwners.lookup rel with
    | some o, some (.known old) => o.toList ++ if old = o then [] else old.toList
    | some o, _ => o.toList
    | none, _ => []

/-! ## What there is to write of a relation -/

/-- How a relation changed since it was written or read. -/
structure Shift where
  gained : List (Option Ref)
  kept : List (Option Ref)
  lost : List (Option Ref)
deriving DecidableEq, Repr

namespace Shift

def none : Shift := ⟨[], [], []⟩

def isNone (h : Shift) : Bool := h.gained.isEmpty && h.kept.isEmpty && h.lost.isEmpty

end Shift

/-- How a relation to many changed. -/
def memberShift (e : Entity) (rel : Relation) : Shift :=
  match e.membersOf rel with
  | .unread joining leaving => ⟨joining.map some, [], leaving.map some⟩
  | .read current Option.none => ⟨[], current.map some, []⟩
  | .read current (some old) =>
    ⟨(current.filter fun r => !old.contains r).map some,
      (current.filter fun r => old.contains r).map some,
      (old.filter fun r => !current.contains r).map some⟩

/-- How the owner changed. -/
def ownerShift (e : Entity) (rel : Relation) : Shift :=
  match e.owners.lookup rel with
  | Option.none => .none
  | some o =>
    match e.formerOwners.lookup rel with
    | Option.none => ⟨[], [o], []⟩
    | some .unknown => ⟨[o], [], []⟩
    | some (.known old) => if old = o then ⟨[], [o], []⟩ else ⟨[o], [], (old.map some).toList⟩

def shift (e : Entity) (rel : Relation) : Shift :=
  if rel.isMany then e.memberShift rel else e.ownerShift rel

/-- Whether there is anything in a relation, as far as it is known. -/
def isEngaged (e : Entity) (rel : Relation) : Bool :=
  e.nulls.contains rel || !(e.shift rel).isNone

/-! ## Writing and giving up -/

/-- The entity with nothing left to write. -/
def settled (e : Entity) : Entity :=
  { e with
    formerCells := []
    formerOwners := []
    members := e.members.filterMap fun p =>
      match p.2 with
      | .read current _ => some (p.1, .read current Option.none)
      | .unread .. => Option.none
    stale := e.stale.filter fun c => (e.held? c).isNone
    isExpired := false
    isTouched := false }

/-- The entity with everything given up. -/
def expired (e : Entity) : Entity :=
  { e with
    cells := []
    formerCells := []
    stale := e.kind.columns
    isExpired := true
    isTouched := false
    owners := []
    formerOwners := []
    members := []
    nulls := [] }

end Entity

end Weblog
