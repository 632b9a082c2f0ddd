/-
  Transactions: committing and rolling back, what a session looks at, and giving up what was read.
-/
import Weblog.Session.Flush

namespace Weblog.Session

/-- An entity with nothing left that a rollback would undo. -/
def lasting (e : Entity) : Entity :=
  { e with wasWritten := false, wasRemoved := false, renamedFrom? := none }

/-- Takes everything back to the last commit. -/
def rollback (s : Session) : Session :=
  let s := if s.broken && s.isClean then s else s.restored
  { s.mapEntities lasting with
    store := { s.store with tables := s.committed }
    broken := false }

/-- Gives up what all entities hold that the session finds by their keys. -/
def expireAll (s : Session) : Session :=
  s.mapEntities fun e => if e.isMapped then e.expired else e

/-- Makes everything lasting that was written. Entities whose rows were taken out leave. -/
def sealed (s : Session) : Session :=
  let leave (e : Entity) : Entity := if e.wasRemoved then { e with isAttached := false } else e
  { s.expireAll.mapEntities (lasting ∘ leave) with committed := s.tables }

namespace Work

/-- Flushes until there is nothing left to write. -/
def flushAll (now : Instant) : (fuel : Nat) → Work Unit
  | 0 => return
  | n + 1 => do
    if !(← get).isClean then
      flush now
      flushAll now n

/-- Writes everything and makes it lasting. -/
def commit (now : Instant) : Work Unit := do
  let _ ← reaching
  flushAll now 100
  modify sealed

/-- Gives up what an entity holds and reads its row anew. -/
def refresh (r : Ref) : Work Unit := do
  let e ← look r
  match e.isMapped, e.key? with
  | true, some key =>
    alter r Entity.expired
    match ← row? e.kind key with
    | none => throw .misplaced
    | some row => alter r fun e => e.fill row e.kind.columns
  | _, _ => throw .misplaced

/-- Marks an entity whose row is to be taken out. -/
def delete (r : Ref) : Work Unit := do
  let e ← look r
  match e.key? with
  | none => throw .misplaced
  | some key =>
    if e.isDoomed then return
    match (← get).mapped? e.kind key with
    | some q => if q ≠ r then throw .misplaced
    | none => pure ()
    alter r fun e => { e with isMapped := true, isAttached := true, isDoomed := true }

/-! ## Searching -/

/-- Reads the rows of a query, newest first. -/
def search (k : Kind) (query : String) (limit : Option Int) : Work (List Ref) := do
  let words := Search.terms query
  if words.isEmpty then return []
  let s ← reaching
  match Search.checkWords words with
  | .error e => throw (.search e)
  | .ok () => limit.forM fun n => bind (words.length + 2) (.other (.int n))
  match Search.found s.tables k.table Row.id Row.createdAt (s.tables.rows k) query limit with
  | .error e => throw (.search e)
  | .ok rows => rows.mapM adopt

/-- Whether records of a kind have documents. -/
def isSearchable (k : Kind) : Bool := k = .post

/-- Puts in a document that must not be there. -/
def insertDocument (d : DocumentRow) : Work Unit :=
  storing fun s =>
    if (s.tables.document? d.recordType d.recordId).isSome then .error .uniqueDocument
    else .ok (s.change fun t => { t with documents := t.documents ++ [d] })

/-- The text of a cell that must not be null. -/
def needText (c : Constraint) (v : Cell) : Work String :=
  match v.text? with
  | some s => return s
  | none => throw (.constraint c)

/-- Puts in a document made up of cells. -/
def putDocument (type id content : Cell) : Work Unit := do
  let _ ← reaching
  bindFrom 1 [type, id, content]
  let type ← needText .documentWithoutType type
  let id ← needText .documentWithoutRecord id
  let content ← needText .documentWithoutContent content
  insertDocument ⟨type, id, content⟩

/-- Takes out the documents that a condition picks. -/
def dropDocuments (p : DocumentRow → Bool) : Work Unit :=
  storing fun s => .ok (s.change fun t => { t with documents := t.documents.filter fun d => !p d })

/-- The record about documents that were renewed. -/
def reindexedRecord (k : Kind) (n : Nat) : LogRecord :=
  ⟨.info, .index, "Reindexed " ++ String.ofList (Number.digits n) ++ " " ++ k.table⟩

/-- Renews the documents of a kind from what its entities hold and commits; gives the number of
records. -/
def reindex (now : Instant) (k : Kind) : Work Nat := do
  if !isSearchable k then throw (.notSearchable k)
  dropDocuments fun d => d.recordType = k.table
  let rs ← ((← reaching).tables.rows k).mapM adopt
  rs.forM fun r => do insertDocument (← document r)
  commit now
  note (reindexedRecord k rs.length)
  return rs.length

end Work

end Weblog.Session
