/-
  Sessions: the store as an open transaction sees it, the tables as they were last committed, and
  the entities at work.

  A piece of work on a session goes on until it fails, and what it did until then stays done
  (`Work`). Whatever has to look at the tables fails in a broken session.
-/
import Weblog.Json.Whole
import Weblog.Log
import Weblog.Record.Presence
import Weblog.Search.Index
import Weblog.Session.Entity

namespace Weblog

/-- A session. -/
structure Session where
  /-- The store with everything that was written. -/
  store : Store
  /-- The tables without what was written since the last commit. -/
  committed : Tables
  entities : List Entity
  /-- Whether writing failed and nothing was rolled back since. -/
  broken : Bool
  /-- What was logged. -/
  log : List LogRecord
deriving DecidableEq, Repr

namespace Session

/-- Why a step of a session fails. -/
inductive Error
  /-- A record is not valid. -/
  | invalid (kind : Kind) (complaints : Complaints)
  | constraint (c : Constraint)
  | needsRollback
  /-- An entity that does not stand where the step needs it, or whose key another entity has. -/
  | misplaced
  /-- The row of an entity is gone. -/
  | vanished
  /-- Something was not read before the entity left the session. -/
  | outOfReach
  /-- Fewer rows than expected were changed or taken out. -/
  | lostRows
  /-- A null would be written as a member. -/
  | nullMember
  /-- A row would be written under no identifier. -/
  | noIdentifier
  /-- A column cannot store a value. -/
  | unfit
  /-- A value at some place of a statement that nothing can be done with. -/
  | unsupported (position : Nat) (type : String)
  | tooLarge
  /-- A value that cannot be an identifier. -/
  | unhashable (type : String)
  /-- An entity of a kind that does not have the other side of a relation. -/
  | noSide (rel : Relation)
  /-- An entity of a kind that has another relation under the name of the other side. -/
  | wrongSide
  /-- An entity that is no member. -/
  | notMember
  | notSearchable (kind : Kind)
  /-- A limit that is no whole number. -/
  | limit (e : Json.WholeError)
  | search (e : Search.Error)
  | attribute (e : AttributeError)
  | time (e : Moment.ReadError)
  /-- There is no such entity or relation. -/
  | unknown
deriving DecidableEq, Repr

/-- Work on a session. What was done before a failure stays. -/
abbrev Work := ExceptT Error (StateM Session)

/-- A session on empty tables. -/
def start (enforces : Bool) : Session := ⟨.fresh enforces, .empty, [], false, []⟩

/-- The tables as the transaction sees them. -/
def tables (s : Session) : Tables := s.store.tables

def entity? (s : Session) (r : Ref) : Option Entity := s.entities[r]?

/-- Changes an entity. -/
def modifyEntity (s : Session) (r : Ref) (f : Entity → Entity) : Session :=
  { s with entities := s.entities.modify r f }

/-- Changes every entity. -/
def mapEntities (s : Session) (f : Entity → Entity) : Session :=
  { s with entities := s.entities.map f }

/-- Changes the tables. -/
def change (s : Session) (f : Tables → Tables) : Session := { s with store := s.store.change f }

/-- The entities that a condition picks, by number. -/
def refs (s : Session) (p : Entity → Bool) : List Ref :=
  (List.range s.entities.length).filter fun r => (s.entity? r).any p

/-- The entities to be put in, in the order of their adding. -/
def pending (s : Session) : List Ref :=
  (s.refs Entity.isPending).mergeSort fun a b =>
    (s.entity? a).elim 0 Entity.turn ≤ (s.entity? b).elim 0 Entity.turn

/-- The entities of rows that were touched and stay. -/
def dirty (s : Session) : List Ref := s.refs Entity.isDirty

/-- The entities of rows to be taken out. -/
def doomed (s : Session) : List Ref := s.refs Entity.isDoomed

/-- Whether there is nothing to write. -/
def isClean (s : Session) : Bool :=
  s.entities.all fun e => !e.isPending && !(e.isMapped && e.isTouched) && !e.isDoomed

/-- Whether the session works with an entity. -/
def contains (s : Session) (r : Ref) : Bool := (s.entity? r).any Entity.isContained

/-- Whether an entity is the one of a kind with a key. -/
def isAt (k : Kind) (key : Cell) (e : Entity) : Bool :=
  e.isMapped && e.kind = k && e.key?.any (·.same key)

/-- The entity of a kind with a key. -/
def mapped? (s : Session) (k : Kind) (key : Cell) : Option Ref :=
  s.entities.findIdx? (isAt k key)

/-- Lets an entity be the one with its key. -/
def occupy (s : Session) (r : Ref) : Session :=
  match s.entity? r with
  | none => s
  | some e =>
    let s := match e.key? with
      | some key => s.mapEntities fun f => if isAt e.kind key f then { f with isMapped := false } else f
      | none => s
    s.modifyEntity r fun e => { e with isMapped := true }

/-! ## Work -/

namespace Work

/-- An entity. -/
def look (r : Ref) : Work Entity := do
  match (← get).entity? r with
  | some e => return e
  | none => throw .unknown

/-- Changes an entity. -/
def alter (r : Ref) (f : Entity → Entity) : Work Unit := modify fun s => s.modifyEntity r f

/-- One more entity. -/
def push (e : Entity) : Work Ref := do
  let s ← get
  set { s with entities := s.entities ++ [e] }
  return s.entities.length

/-- Writes to the log. -/
def note (record : LogRecord) : Work Unit := modify fun s => { s with log := s.log ++ [record] }

/-- The session, if its tables can be looked at. -/
def reaching : Work Session := do
  let s ← get
  if s.broken then throw .needsRollback else return s

/-- Changes the store, unless a constraint breaks. -/
def storing (f : Store → Except Constraint Store) : Work Unit := do
  let s ← reaching
  match f s.store with
  | .ok store => set { s with store := store }
  | .error c => throw (.constraint c)

/-- Fails if a value at some place of a statement cannot be bound. -/
def bind (position : Nat) (v : Cell) : Work Unit :=
  match v.bindFault? with
  | none => return
  | some .tooLarge => throw .tooLarge
  | some (.unsupported type) => throw (.unsupported position type)

/-- A value that can be an identifier. -/
def identifier (v : Cell) : Work Cell :=
  match v with
  | .other (.arr vs) => throw (.unhashable (Json.arr vs).typeName)
  | .other (.obj fs) => throw (.unhashable (Json.obj fs).typeName)
  | v => return v

end Work

end Session

end Weblog
