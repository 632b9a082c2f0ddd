/-
  Adding entities to a session, and relating them.

  An entity that is added brings along every entity that its relations lead to. A relation is
  changed on both of its sides, and an entity of the session brings along those that it is related
  to from its own side. The other side is changed without reading it.
-/
import Weblog.Session.Reading

namespace Weblog.Session.Work

/-! ## Adding -/

/-- Puts one entity into the session: one without a row among those to be put in, one with a row
among those that the session finds by their keys. A row that was to be taken out is spared. -/
def enlist (r : Ref) : Work Unit := do
  let e ← look r
  match e.key? with
  | none =>
    let turn := (← get).pending.length + 1
    if !e.isPending then alter r fun e => { e with turn? := some turn, isAttached := true }
  | some key =>
    if e.isGone then throw .misplaced
    alter r fun e => { e with isDoomed := false }
    match (← get).mapped? e.kind key with
    | some q => if q ≠ r then throw .misplaced
    | none => alter r fun e => { e with isMapped := true }
    alter r fun e => { e with isAttached := true }

/-- The entities that a relation leads to and that are neither in the session nor among those
seen. -/
def beyond (r : Ref) (rel : Relation) (seen : List Ref) : Work (List Ref) := do
  let e ← look r
  let s ← get
  return ((e.reach rel).filter fun c => !seen.contains c && !s.contains c).eraseDups

/-- Puts everything into the session that relations lead to from an entity, deepest first. No way
without repetition is longer than there are entities. -/
def bring : (fuel : Nat) → Ref → (seen : List Ref) → Work (List Ref)
  | 0, _, seen => return seen
  | n + 1, r, seen => do
    let e ← look r
    e.kind.relations.foldlM (fun seen rel => do
      let next ← beyond r rel seen
      next.foldlM (fun seen c => do
        enlist c
        bring n c seen) (seen ++ next)) seen

/-- Adds an entity to the session, with everything it leads to. -/
def add (r : Ref) : Work Unit := do
  enlist r
  let _ ← bring (← get).entities.length r []
  return

/-- Brings an entity into the session of the one that it is related to. -/
def follow (r c : Ref) : Work Unit := do
  if (← look r).isAttached && !(← get).contains c then add c

/-! ## The other side -/

/-- What a glance tells of a former owner. -/
def formerOwner : Entity.Glance (Option Ref) → Former (Option Ref)
  | .known o => .known o
  | _ => .unknown

/-- The other side of a relation, for an entity that is to be found there. One of another kind than
the relation leads to has no such side, or has one that leads elsewhere. -/
def otherSide (r : Ref) (rel : Relation) (c : Ref) : Work Relation := do
  let back := Kind.inverse (← look r).kind rel
  let k := (← look c).kind
  if k = rel.target then return back
  else if k.relations.contains back then throw .wrongSide
  else throw (.noSide back)

/-- Gives a new member the other side of the relation: its owner takes the place of the former one,
who loses it. -/
def attach (r : Ref) (rel : Relation) (c : Ref) : Work Unit := do
  let back ← otherSide r rel c
  if back.isMany then alter c fun e => e.gain back r
  else
    let old ← glanceOwner c back
    match old with
    | .known (some q) => if q ≠ r then alter q fun e => e.lose rel c
    | _ => pure ()
    alter c fun e => e.assignOwner back (formerOwner old) (some r)

/-- Takes the other side of the relation from a former member, unless it is known to have another
owner. -/
def detach (r : Ref) (rel : Relation) (c : Ref) : Work Unit := do
  let back ← otherSide r rel c
  if back.isMany then alter c fun e => e.lose back r
  else
    let old ← glanceOwner c back
    if old = .known (some r) || old = .unread then
      alter c fun e => e.assignOwner back (formerOwner old) none

/-! ## Relating -/

/-- Adds a member. -/
def append (r : Ref) (rel : Relation) (c : Ref) : Work Unit := do
  let _ ← members r rel
  alter r fun e => e.opened rel
  follow r c
  attach r rel c
  alter r fun e => e.gain rel c

/-- Takes out a member. One that is a member twice keeps the other side. -/
def discard (r : Ref) (rel : Relation) (c : Ref) : Work Unit := do
  let ms ← members r rel
  let back ← otherSide r rel c
  if back.isMany || ms.count c ≤ 1 then detach r rel c
  alter r fun e => e.lose rel c
  if !ms.contains c then throw .notMember

/-- Begins with no members anew. -/
def emptied (rel : Relation) (old : List Ref) (e : Entity) : Entity :=
  let former := match e.membersOf rel with
    | .read _ (some former) => former
    | _ => old
  { e.setMembers rel (.read [] (some former)) with
    nulls := e.nulls.filter (· ≠ rel)
    isTouched := true }

/-- Puts one of the new members in its place. -/
def install (r : Ref) (rel : Relation) (old : List Ref) (c : Ref) : Work Unit := do
  if !old.contains c then
    follow r c
    attach r rel c
  alter r fun e =>
    match e.membersOf rel with
    | .read current former => e.setMembers rel (.read (current ++ [c]) former)
    | .unread .. => e

/-- Sets all members. -/
def setMembers (r : Ref) (rel : Relation) (ms : List Ref) : Work Unit := do
  let old ← members r rel
  alter r (emptied rel old)
  ms.forM (install r rel old)
  (old.eraseDups.filter fun c => !ms.contains c).forM (detach r rel)

/-- Sets nulls in the place of all members. -/
def setNulls (r : Ref) (rel : Relation) (n : Nat) : Work (List Ref) := do
  let old ← members r rel
  alter r (emptied rel old)
  alter r fun e => { e with nulls := List.replicate n rel ++ e.nulls }
  return old

/-- Sets the owner. -/
def setOwner (r : Ref) (rel : Relation) (o : Option Ref) : Work Unit := do
  let back := Kind.inverse (← look r).kind rel
  let old ← glanceOwner r rel
  if old ≠ .known o then
    o.forM (follow r)
    match old with
    | .known (some q) => alter q fun e => e.lose back r
    | _ => pure ()
    o.forM fun p => do
      let back ← otherSide r rel p
      alter p fun e => e.gain back r
  alter r fun e => e.assignOwner rel (formerOwner old) o

/-- Sets a relation. -/
def relate (r : Ref) (rel : Relation) (ends : List Ref) : Work Unit :=
  if rel.isMany then setMembers r rel ends else setOwner r rel ends.head?

end Weblog.Session.Work
