/-
  Carrying out the tasks of a flush: rows are put in, changed and taken out, and relations are
  carried over to the columns and links that stand for them.
-/
import Weblog.Session.Plan
import Weblog.Service.Done

namespace Weblog.Session

/-- A plan that is being carried out, and the links that were written from one side. -/
structure Progress where
  plan : Plan
  linked : List (Ref × Ref)

/-- Cells for the columns of a row. -/
abbrev Cells := List (Column × Cell)

namespace Work

/-! ## Statements -/

/-- Fails if a column cannot store its value. -/
def fitting (cs : Cells) : Work Unit :=
  if cs.all fun x => x.2.fits x.1 then return else throw .unfit

/-- Fails if one of the values that begin at some place of a statement cannot be bound. -/
def bindFrom (position : Nat) : List Cell → Work Unit
  | [] => return
  | v :: vs => do
    bind position v
    bindFrom (position + 1) vs

/-! ## Order of entities -/

/-- Whether all keys are of a sort that can be put in order. -/
def comparable (keys : List Cell) : Bool :=
  keys.all (fun k => match k with | .text _ => true | _ => false)
    || keys.all fun k => match k with
      | .flag _ | .other (.int _) | .other (.float _) => true
      | _ => false

/-- Whether a key comes no later than another one. -/
def keyLe : Cell → Cell → Bool
  | .text a, .text b => a ≤ b
  | a, b =>
    match a.value?, b.value? with
    | some v, some w => v.atMost w
    | _, _ => true

/-- Entities as they are written: those without a row in the order of their adding, then the others
by their keys. -/
def inOrder (rs : List Ref) : Work (List Ref) := do
  let s ← get
  let key (r : Ref) : Option Cell := (s.entity? r).bind Entity.key?
  let turn (r : Ref) : Nat := (s.entity? r).elim 0 Entity.turn
  let new := (rs.filter fun r => (key r).isNone).mergeSort fun a b => turn a ≤ turn b
  let old := rs.filter fun r => (key r).isSome
  if 1 < old.length && !comparable (old.filterMap key) then throw .misplaced
  return new ++ old.mergeSort fun a b => keyLe ((key a).getD .null) ((key b).getD .null)

/-! ## Documents -/

/-- The document of a post with the values that its entity holds. -/
def document (r : Ref) : Work DocumentRow := do
  let part (c : Column) : Work String := do
    let v ← value r c
    return Document.partOf (v.value?.getD .null)
  let id ← value r .id
  let content := Document.ofTexts [← part .title, ← part .body]
  bind 2 id
  match id.text? with
  | some id => return ⟨Kind.post.table, id, content⟩
  | none => throw (.constraint .documentWithoutRecord)

/-- Writes the document of a post. -/
def index (r : Ref) : Work Unit := do
  let d ← document r
  modify fun s => s.change (·.index d)
  note (indexedRecord (← value r .id).display)

/-- Takes out the document of a post. -/
def unindex (r : Ref) : Work Unit := do
  let id ← value r .id
  bind 2 id
  modify fun s => s.change (·.unindex Kind.post.table (id.text?.getD ""))
  note (unindexedRecord id.display)

/-! ## Changing rows -/

/-- A row to be changed: its entity, its identifier, and what changes. -/
structure Revision where
  ref : Ref
  id : Cell
  cells : Cells

/-- What of the row of an entity is to be changed, if anything is. -/
def revision? (r : Ref) : Work (Option Revision) := do
  let e ← look r
  if e.changes.isEmpty then return none
  let id ← value r .id
  let (id, cells) : Cell × Cells := match e.formerCells.lookup .id with
    | some .unknown => (id, e.changes.filter fun x => x.1 ≠ .id)
    | some (.known old) => (old, e.changes)
    | none => (id, e.changes)
  if id = .null then throw .noIdentifier
  return if cells.isEmpty then none else some ⟨r, id, cells⟩

/-- What changes in a row of a kind, with the time of the change unless one is given. -/
def stamped (now : Instant) (k : Kind) (cells : Cells) : Cells :=
  k.columns.filterMap fun c =>
    match cells.lookup c with
    | some v => some (c, v)
    | none => if c = .updatedAt then some (c, .time (.ofInstant now)) else none

/-- Changes a row, and tells whether it was there. -/
def revise (k : Kind) (x : Revision) (cells : Cells) : Work Bool := do
  bindFrom 1 (cells.map Prod.snd ++ [x.id])
  match x.id.text?.bind ((← reaching).tables.row? k) with
  | none => return false
  | some row =>
    storing fun s => do
      let row' ← row.overlaid cells
      s.replace row.id row'
    return true

/-- Changes rows in which the same columns change. -/
def reviseAll (now : Instant) (k : Kind) (xs : List Revision) : Work Unit := do
  xs.forM fun x => fitting x.cells
  let found ← xs.mapM fun x => revise k x (stamped now k x.cells)
  if found.contains false then throw .lostRows
  xs.forM fun x => alter x.ref fun e =>
    if k.columns.contains .updatedAt && (x.cells.lookup .updatedAt).isNone then
      { e.hold .updatedAt (.time (.ofInstant now)) with
        formerCells := without e.formerCells [.updatedAt] }
    else e

/-- Changes the rows of entities, together those that follow each other and in which the same
columns change: `ready` are such rows, waiting for the next one. -/
def reviseRest (now : Instant) (k : Kind) : (ready : List Revision) → List Ref → Work Unit
  | [], [] => return
  | ready, [] => reviseAll now k ready
  | ready, r :: rs => do
    match ← revision? r with
    | none => reviseRest now k ready rs
    | some x =>
      if ready.all fun y => y.cells.map Prod.fst = x.cells.map Prod.fst then
        reviseRest now k (ready ++ [x]) rs
      else
        reviseAll now k ready
        reviseRest now k [x] rs

/-! ## Putting in rows -/

/-- The columns that are filled in if nothing is given. -/
def defaults : Kind → List Column
  | .user => [.id, .createdAt, .isActive]
  | _ => [.id, .createdAt, .updatedAt]

/-- The columns to be filled in. -/
def ungiven (e : Entity) : List Column :=
  (defaults e.kind).filter fun c => (e.held? c).getD .null = .null

/-- A row to be put in: its entity, the columns that were filled in, and all values. -/
structure Addition where
  ref : Ref
  filled : List Column
  cells : Cells

/-- Fills in what is not given. An identifier is used up. -/
def fillIn (now : Instant) (r : Ref) : Work Addition := do
  let e ← look r
  let filled := ungiven e
  let s ← get
  let (id, store) := s.store.nextId e.kind
  if filled.contains .id then set { s with store := store }
  let cell (c : Column) : Cell :=
    if !filled.contains c then (e.held? c).getD .null
    else match c with
      | .id => .text id
      | .isActive => .flag true
      | _ => .time (.ofInstant now)
  return ⟨r, filled, e.kind.columns.map fun c => (c, cell c)⟩

/-- The row of an addition. -/
def Addition.row (k : Kind) (x : Addition) : Except Constraint Row :=
  Row.ofCells k fun c => (x.cells.lookup c).getD .null

/-- Puts in rows at once. -/
def insert (k : Kind) (xs : List Addition) : Work Unit := do
  bindFrom 1 (xs.flatMap fun x => x.cells.map Prod.snd)
  storing fun s => do
    let (rows, s) ← xs.foldlM (fun (rows, s) x => do
      let row ← x.row k
      return (rows ++ [row], ← s.insertUnchecked row)) (([] : List Row), s)
    if rows.all s.knowsOwner then .ok s else .error .reference

/-- Puts in rows of which the same columns are given: one by one if an identifier is given, and
otherwise at once. -/
def insertAll (now : Instant) (k : Kind) (rs : List Ref) : Work Unit := do
  let xs ← rs.mapM (fillIn now)
  xs.forM fun x => fitting x.cells
  if xs.any fun x => x.filled.contains .id then insert k xs else xs.forM fun x => insert k [x]
  xs.forM fun x => alter x.ref fun e =>
    { e with
      cells := x.cells.filter (fun y => x.filled.contains y.1) ++ without e.cells x.filled
      formerCells := without e.formerCells x.filled }

/-! ## Rows of a kind -/

/-- Whether a new entity takes over the row of one that goes, which then has nothing more to do.
An entity with the same identifier whose row is gone is no hindrance. -/
def takesOver (p : Plan) (k : Kind) (r : Ref) : Work (Option Plan) := do
  let e ← look r
  if e.held? .id = none && e.stale.contains .id then revive r
  match (← look r).held? .id with
  | none => return none
  | some id =>
    match ← mapped? k id with
    | none => return none
    | some q => return if p.goes q then some (p.setRole q ⟨true, true⟩) else none

/-- Tells the entities that are put in from those whose rows are changed. -/
def sortOut (k : Kind) : Plan → List Ref → Work (Plan × List Ref × List Ref)
  | p, [] => return (p, [], [])
  | p, r :: rs => do
    if (← look r).key?.isSome then
      let (p, new, old) ← sortOut k p rs
      return (p, new, r :: old)
    else
      match ← takesOver p k r with
      | some p =>
        let (p, new, old) ← sortOut k p rs
        return (p, new, r :: old)
      | none =>
        let (p, new, old) ← sortOut k p rs
        return (p, r :: new, old)

/-- Puts in and changes the rows of a kind, and then writes their documents. -/
def save (now : Instant) (k : Kind) (p : Plan) : Work Plan := do
  let (p, new, old) ← sortOut k p (← inOrder (p.staying k))
  reviseRest now k [] old
  let s ← get
  let given (r : Ref) : Option (List Column) := (s.entity? r).map ungiven
  (new.splitBy fun a b => given a = given b).forM (insertAll now k)
  if k = .post then (new ++ old).forM index
  return p

/-- Takes out rows of a kind, and then their documents. -/
def remove (k : Kind) (p : Plan) : Work Unit := do
  let rs ← inOrder (p.going k)
  let ids ← rs.mapM fun r => formerValue r .id
  if ids.contains .null then throw .noIdentifier
  ids.forM fun id => do
    bind 1 id
    storing fun s => s.remove k (id.text?.getD "")
  if k = .post then rs.forM unindex

/-! ## Relations -/

/-- Names an owner in the column of a member. -/
def nameOwner (owner member : Ref) (rel : Relation) : Work Unit := do
  let id ← value owner .id
  rel.column?.forM fun c => setValue member c id

/-- Names the owner of members that stay. -/
def nameForMembers (p : Plan) (rel : Relation) (r : Ref) (ms : List (Option Ref)) : Work Unit :=
  (ms.filterMap id).forM fun m => do
    if !p.goes m then nameOwner r m (Kind.inverse (← look r).kind rel)

/-- Fails if nulls stand among the members of an entity. -/
def refuseNulls (rel : Relation) (r : Ref) : Work Unit := do
  if (← look r).nulls.contains rel then throw .nullMember

/-- Names an entity in the columns of its members: of the new ones, and of all if its identifier
changed. -/
def relateMembers (p : Plan) (rel : Relation) (r : Ref) : Work Unit := do
  refuseNulls rel r
  let e ← look r
  let h := e.memberShift rel
  nameForMembers p rel r h.gained
  if (← look r).isRenamed then nameForMembers p rel r h.kept

/-- Names the owner of an entity in its column. An owner outside the session is passed over. -/
def relateOwner (p : Plan) (rel : Relation) (r : Ref) : Work Unit := do
  let h := (← look r).ownerShift rel
  if p.goes r then return
  match h.gained with
  | [some o] => if (← get).contains o then nameOwner o r rel
  | [none] => rel.column?.forM fun c => setValue r c .null
  | _ => return

/-- The identifiers of a post and a tag, told from either of them. -/
def endsOf (k : Kind) (r m : Ref) : Work (Cell × Cell) := do
  let own ← value r .id
  let other ← value m .id
  return if k = .post then (own, other) else (other, own)

/-- The link between a post and a tag. -/
def linkOf (ends : Cell × Cell) : Work Link := do
  bindFrom 1 [ends.1, ends.2]
  match ends.1.text?, ends.2.text? with
  | some post, some tag => return ⟨post, tag⟩
  | none, _ => throw (.constraint .linkWithoutPost)
  | _, none => throw (.constraint .linkWithoutTag)

/-- The links of an entity to some others in the session that were not written from their side. -/
def linksTo (linked : List (Ref × Ref)) (k : Kind) (r : Ref) (ms : List (Option Ref)) :
    Work (List (Cell × Cell)) :=
  (ms.filterMap id).filterMapM fun m => do
    if linked.contains (r, m) || !(← get).contains m then return none
    else return some (← endsOf k r m)

/-- Takes out a link, and tells whether it was there. -/
def takeOutLink (ends : Cell × Cell) : Work Bool := do
  bindFrom 1 [ends.1, ends.2]
  match ends.1.text?, ends.2.text? with
  | some post, some tag =>
    let there := (← reaching).tables.links.contains ⟨post, tag⟩
    storing fun s => .ok (s.dropLink ⟨post, tag⟩)
    return there
  | _, _ => return false

/-- Takes out links, all of which must be there, and puts in others. -/
def writeLinks (lost gained : List (Cell × Cell)) : Work Unit := do
  let found ← lost.mapM takeOutLink
  if found.contains false then throw .lostRows
  gained.forM fun ends => do
    let l ← linkOf ends
    storing fun s => s.addLink l

/-- Writes the links of entities that stay, or takes out those of entities that go. -/
def relateLinks (k : Kind) (rel : Relation) (going : Bool) (rs : List Ref) (p : Progress) :
    Work Progress := do
  let shifts ← rs.mapM fun r => do
    let h := (← look r).memberShift rel
    return (r, if going then ⟨[], [], h.kept ++ h.lost⟩ else h)
  let links ← shifts.mapM fun x => do
    if !going then refuseNulls rel x.1
    let gained ← linksTo p.linked k x.1 x.2.gained
    let lost ← linksTo p.linked k x.1 x.2.lost
    return (lost, gained)
  writeLinks (links.flatMap Prod.fst) (links.flatMap Prod.snd)
  let pairs := shifts.flatMap fun x =>
    ((x.2.gained ++ x.2.lost).filterMap id).map fun m => (m, x.1)
  return { p with linked := p.linked ++ pairs }

/-- Carries over a relation of a kind. -/
def relateAll (k : Kind) (rel : Relation) (going : Bool) (p : Progress) : Work Progress := do
  let rs := p.plan.having k ⟨going, false⟩
  if Plan.isLinking k rel then relateLinks k rel going rs p
  else if going then return p
  else
    if rel.isMany then rs.forM (relateMembers p.plan rel) else rs.forM (relateOwner p.plan rel)
    return p

/-! ## Tasks -/

/-- Carries out a task. -/
def perform (now : Instant) (p : Progress) : Task → Work Progress
  | .save k => return { p with plan := ← save now k p.plan }
  | .remove k => do
    remove k p.plan
    return p
  | .relate k rel going => relateAll k rel going p

/-- Leaves a written entity with its row. Another entity with the same key is lost sight of. -/
def settle (r : Ref) : Work Unit := do
  let e ← look r
  if (e.held? .id).isNone && e.stale.contains .id then revive r
  let e ← look r
  match (e.held? .id).getD .null with
  | .null => throw .noIdentifier
  | id =>
    let renamed := match e.key? with
      | some key => if key.same id then e.renamedFrom? else some (e.renamedFrom?.getD key)
      | none => e.renamedFrom?
    alter r fun e => { e with
      key? := some (if e.key?.any (·.same id) then e.key?.getD id else id)
      isMapped := false
      turn? := none
      wasWritten := e.wasWritten || e.isPending
      renamedFrom? := renamed }
    modify fun s => s.occupy r
    alter r Entity.settled

/-- Carries out a plan. -/
def carryOut (now : Instant) (p : Plan) : Work Unit := do
  let p ← p.complete (3 * (← get).entities.length + 1)
  let done ← p.tasks.foldlM (perform now) ⟨p, []⟩
  let (gone, kept) := done.plan.roles.partition fun x => x.2.2.goes
  gone.forM fun x => markGone x.1
  kept.forM fun x => settle x.1
  modify fun s => s.mapEntities fun e => if e.isMapped && e.isTouched then e.settled else e

end Work

end Weblog.Session
