/-
  The plan of a flush: which entities are written, which go, which relations take part, and in which
  order things are done.

  The entities to be put in, the touched ones and the doomed ones are planned for at first. A
  relation may bring in more of them, for which its own relations are looked at in turn, until
  nothing new comes up.

  Rows of a kind are put in and changed together, and taken out together; for each relation that
  takes part there is one task for the entities that stay and one for those that go. Some tasks
  come before others. All tasks that wait for nothing are done next, those that take out rows
  first, then relations by name, then those that put in and change rows.
-/
import Weblog.Record.Kind
import Weblog.Session.Reading

namespace Weblog

/-- A task. -/
inductive Task
  /-- Puts in and changes the rows of a kind. -/
  | save (k : Kind)
  /-- Takes out rows of a kind. -/
  | remove (k : Kind)
  /-- Carries a relation of a kind over to columns or links, for entities that go or that stay. -/
  | relate (k : Kind) (rel : Relation) (going : Bool)
deriving DecidableEq, Repr

namespace Task

/-- The place of a kind by name. -/
def kindRank : Kind → Nat
  | .comment => 0
  | .post => 1
  | .tag => 2
  | .user => 3

/-- The place of a relation by its name. -/
def relationRank : Relation → Nat
  | .comments => 0
  | .post => 1
  | .posts => 2
  | .tags => 3
  | .user => 4

/-- The place of a task among those that wait for nothing. -/
def rank : Task → Nat
  | .remove k => kindRank k
  | .relate k rel going => 4 + 10 * kindRank k + 2 * relationRank rel + going.toNat
  | .save k => 44 + kindRank k

/-- The tasks of a relation that takes part. -/
def ofRelation (k : Kind) (rel : Relation) : List Task :=
  [.relate k rel false, .relate k rel true, .save k, .remove k, .save rel.target, .remove rel.target]

/-- Which task comes before which, on account of a kind. -/
def orderOfKind (k : Kind) : List (Task × Task) := [(.save k, .remove k)]

/-- Which task comes before which, on account of a relation. -/
def orderOfRelation (k : Kind) (rel : Relation) : List (Task × Task) :=
  let stay := Task.relate k rel false
  let go := Task.relate k rel true
  let other := rel.target
  match rel.isMany, (Kind.inverse k rel).isMany with
  | true, false =>
    [(.save k, stay), (stay, .save other), (stay, .remove other), (.save other, .remove k),
      (.remove other, .remove k), (go, .save other), (go, .remove other)]
  | true, true =>
    [(.save k, stay), (.save other, stay), (stay, .remove other), (go, .save k), (go, .remove k),
      (go, .remove other), (go, .save other)]
  | false, _ =>
    [(.save other, stay), (stay, .save k), (.save k, .remove other), (.remove k, .remove other)]

/-- Tasks in the order of their doing: again and again all those that wait for none of the rest. -/
def arrange (order : List (Task × Task)) : (fuel : Nat) → List Task → List Task
  | 0, _ => []
  | n + 1, tasks =>
    let waits (t : Task) : Bool := order.any fun o => o.2 = t && tasks.contains o.1
    tasks.filter (fun t => !waits t) ++ arrange order n (tasks.filter waits)

/-- The tasks for some kinds and some relations, in the order of their doing. -/
def schedule (kinds : List Kind) (relations : List (Kind × Relation)) : List Task :=
  let tasks := (kinds.flatMap fun k => [.save k, .remove k])
    ++ relations.flatMap fun x => ofRelation x.1 x.2
  let order := kinds.flatMap orderOfKind ++ relations.flatMap fun x => orderOfRelation x.1 x.2
  let tasks := tasks.eraseDups.mergeSort fun a b => a.rank ≤ b.rank
  arrange order tasks.length tasks

end Task

end Weblog

namespace Weblog.Session

/-- What a flush does with an entity. -/
structure Role where
  /-- Whether the row is taken out. -/
  goes : Bool
  /-- Whether the entity is only noted, and nothing is done with it. -/
  isNoted : Bool
deriving DecidableEq, Repr

/-- A relation of a kind, the entities for which it was looked at, and whether it takes part. -/
structure Strand where
  kind : Kind
  rel : Relation
  seen : List Ref
  takesPart : Bool
deriving DecidableEq, Repr

/-- A plan. -/
structure Plan where
  roles : List (Ref × Kind × Role)
  kinds : List Kind
  strands : List Strand
deriving DecidableEq, Repr

namespace Plan

def empty : Plan := ⟨[], [], []⟩

/-- The role of an entity. -/
def role? (p : Plan) (r : Ref) : Option Role := (p.roles.lookup r).map Prod.snd

/-- The entities of a kind with a role. -/
def having (p : Plan) (k : Kind) (role : Role) : List Ref :=
  (p.roles.filter fun x => x.2.1 = k && x.2.2 = role).map Prod.fst

/-- The entities that are written. -/
def staying (p : Plan) (k : Kind) : List Ref := p.having k ⟨false, false⟩

/-- The entities whose rows are taken out. -/
def going (p : Plan) (k : Kind) : List Ref := p.having k ⟨true, false⟩

/-- Whether the row of an entity is taken out. -/
def goes (p : Plan) (r : Ref) : Bool := (p.role? r).any Role.goes

/-- Gives an entity a role in place of the one it had. -/
def setRole (p : Plan) (r : Ref) (role : Role) : Plan :=
  { p with roles := p.roles.map fun x => if x.1 = r then (x.1, x.2.1, role) else x }

/-- The plan with a kind, all of whose relations are to be looked at. -/
def addKind (p : Plan) (k : Kind) : Plan :=
  if p.kinds.contains k then p
  else { p with
    kinds := p.kinds ++ [k]
    strands := p.strands ++ k.relations.map fun rel => ⟨k, rel, [], false⟩ }

/-- Plans for an entity of the session, unless that is done. One that is planned to go is kept if
it is to be spared. -/
def register (p : Plan) (s : Session) (r : Ref) (role : Role) (spares : Bool) : Plan :=
  match s.entity? r with
  | none => p
  | some e =>
    if !e.isContained then p
    else if (p.role? r).isSome then if spares then p.setRole r ⟨false, false⟩ else p
    else
      let p := p.addKind e.kind
      { p with roles := p.roles ++ [(r, e.kind, role)] }

/-- The plan at first. -/
def initial (s : Session) : Plan :=
  let p := (s.pending ++ s.dirty).foldl (fun p r => p.register s r ⟨false, false⟩ false) empty
  s.doomed.foldl (fun p r => p.register s r ⟨true, false⟩ false) p

/-- The entities of a relation's kind with a role for which it was not looked at. -/
def unseen (p : Plan) (x : Strand) (role : Role) : List Ref :=
  (p.having x.kind role).filter fun r => !x.seen.contains r

/-- Whether a relation is one of an owner's to many. -/
def isOwning (k : Kind) (rel : Relation) : Bool := rel.isMany && !(Kind.inverse k rel).isMany

/-- Whether a relation is one of links. -/
def isLinking (k : Kind) (rel : Relation) : Bool := rel.isMany && (Kind.inverse k rel).isMany

/-- Plans for members. -/
def registerAll (p : Plan) (s : Session) (ms : List (Option Ref)) (role : Role) (spares : Bool) :
    Plan :=
  (ms.filterMap id).foldl (fun p m => p.register s m role spares) p

/-- Looks at a relation of an entity that goes. Links are read; of the members of an owner, those
that left are written. -/
def lookAtGoing (x : Strand) (p : Plan) (r : Ref) : Work Plan := do
  if isOwning x.kind x.rel then
    let e ← Work.look r
    let left := match e.membersOf x.rel with
      | .read .. => (e.memberShift x.rel).lost
      | .unread .. => []
    return p.registerAll (← get) left ⟨false, false⟩ false
  else if isLinking x.kind x.rel then
    let _ ← Work.formerMembers r x.rel
    return p
  else return p

/-- Looks at a relation of an entity that stays. The new members of an owner are written, and all
of them are noted if its identifier changes. -/
def lookAtStaying (x : Strand) (p : Plan) (r : Ref) : Work Plan := do
  if isOwning x.kind x.rel then
    let e ← Work.look r
    let h := e.memberShift x.rel
    let s ← get
    let p := p.registerAll s h.gained ⟨false, false⟩ true
    return if e.isRenamed then p.registerAll s h.kept ⟨false, true⟩ false else p
  else return p

/-- Whether there is anything in a relation of an entity that goes. -/
def hasGoing (x : Strand) (r : Ref) : Work Bool := do
  if !x.rel.isMany then Work.lookUpOwner r x.rel
  let e ← Work.look r
  match x.rel.isMany, e.membersOf x.rel with
  | true, .unread .. => return false
  | _, _ => return e.isEngaged x.rel

/-- Whether there is anything in a relation of an entity that stays. -/
def hasStaying (x : Strand) (r : Ref) : Work Bool :=
  return (← Work.look r).isEngaged x.rel

/-- Whether a relation takes part on account of some entities. -/
def takesPart (p : Plan) (x : Strand) (going staying : List Ref) : Work Bool := do
  if x.takesPart then return true
  if ← going.anyM (hasGoing x) then return true
  if !going.isEmpty && p.kinds.contains x.rel.target then return true
  if ← staying.anyM (hasStaying x) then return true
  return !staying.isEmpty && p.kinds.contains x.rel.target

/-- Looks at a relation of all entities for which that was not done, and tells whether there were
any. -/
def lookAt (done : Plan × Bool) (at? : Kind × Relation) : Work (Plan × Bool) := do
  let (p, any) := done
  match p.strands.find? fun x => x.kind = at?.1 && x.rel = at?.2 with
  | none => return (p, any)
  | some x =>
    let going := p.unseen x ⟨true, false⟩
    let staying := p.unseen x ⟨false, false⟩
    let p ← going.foldlM (lookAtGoing x) p
    let p ← staying.foldlM (lookAtStaying x) p
    let takes ← p.takesPart x going staying
    let y : Strand := { x with seen := x.seen ++ going ++ staying, takesPart := takes }
    return ({ p with strands := p.strands.map fun z =>
        if z.kind = x.kind && z.rel = x.rel then y else z },
      any || !(going.isEmpty && staying.isEmpty))

/-- Looks at all relations until nothing new comes up, which takes no more rounds than there are
relations of entities. -/
def complete : (fuel : Nat) → Plan → Work Plan
  | 0, p => return p
  | n + 1, p => do
    let (p, any) ← (p.strands.map fun x => (x.kind, x.rel)).foldlM lookAt (p, false)
    if any then complete n p else return p

/-- The tasks of a plan. -/
def tasks (p : Plan) : List Task :=
  Task.schedule p.kinds ((p.strands.filter Strand.takesPart).map fun x => (x.kind, x.rel))

end Plan

end Weblog.Session
