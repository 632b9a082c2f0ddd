/-
  Reading rows into entities: values that were given up, owners and members that are not known,
  and the rows that a query finds.

  A row that an entity has already is read into that entity, but only where the entity holds
  nothing.
-/
import Weblog.Session.Basic

namespace Weblog.Session.Work

/-! ## Rows -/

/-- The row of a kind with an identifier. -/
def row? (k : Kind) (id : Cell) : Work (Option Row) := do
  let s ← reaching
  bind 1 id
  return id.text?.bind (s.tables.row? k)

/-- The entity of a row that was just read. -/
def adopt (row : Row) : Work Ref := do
  match (← get).mapped? row.kind (.text row.id) with
  | some r =>
    alter r fun e => e.fill row e.missing
    return r
  | none => push (.ofRow row)

/-- Marks an entity whose row was found to be gone. -/
def markGone (r : Ref) : Work Unit :=
  alter r fun e => { e with isMapped := false, isDoomed := false, isGone := true, wasRemoved := true }

/-! ## Values -/

/-- Reads the values that an entity gave up, but for those that were set since. -/
def revive (r : Ref) : Work Unit := do
  let e ← look r
  if !e.isAttached then throw .outOfReach
  match e.key? with
  | none => throw .misplaced
  | some key =>
    match ← row? e.kind key with
    | none => throw .vanished
    | some row =>
      let wanted := e.stale.filter fun c => (e.formerCells.lookup c).isNone
      alter r fun e => { e.fill row wanted with stale := [] }

/-- The value of a column. -/
def value (r : Ref) (c : Column) : Work Cell := do
  let e ← look r
  match e.held? c with
  | some v => return v
  | none =>
    if e.stale.contains c then revive r
    return ((← look r).held? c).getD .null

/-- The value of a column as the row holds it. -/
def formerValue (r : Ref) (c : Column) : Work Cell := do
  match (← look r).formerCell c with
  | .known v => return v
  | _ => value r c

/-- Sets a value. An identifier is read first. -/
def setValue (r : Ref) (c : Column) (v : Cell) : Work Unit := do
  let e ← look r
  if c = .id && (e.held? c).isNone && e.stale.contains c then revive r
  alter r fun e => e.setCell c (match e.held? c with | some old => .known old | none => .unknown) v

/-! ## Entities by identifier -/

/-- The entity of a kind with a key, if its row is still there. -/
def mapped? (k : Kind) (id : Cell) : Work (Option Ref) := do
  let id ← identifier id
  match (← get).mapped? k id with
  | none => return none
  | some r =>
    if (← look r).isExpired then
      try
        revive r
        return some r
      catch
        | .vanished =>
          markGone r
          return none
        | e => throw e
    else return some r

/-- The entity of a kind with an identifier. -/
def find (k : Kind) (id : Cell) : Work (Option Ref) := do
  match ← mapped? k id with
  | some r => return some r
  | none =>
    match ← row? k id with
    | some row => return some (← adopt row)
    | none => return none

/-! ## Owners -/

/-- The owner that a relation leads to, as far as it is known without reading. An owner that is
found at hand is kept. -/
def glanceOwner (r : Ref) (rel : Relation) : Work (Entity.Glance (Option Ref)) := do
  let e ← look r
  match e.owners.lookup rel with
  | some o => return .known o
  | none =>
    if e.key?.isNone then return .absent
    else if !e.isAttached then return .unread
    else
      match rel.column?.elim .absent e.formerCell with
      | .unread => return .unread
      | .absent => return .absent
      | .known .null =>
        alter r fun e => e.setOwner rel none
        return .known none
      | .known id =>
        let id ← identifier id
        match (← get).mapped? rel.target id with
        | none => return .unread
        | some o =>
          if (← look o).isExpired then return .unread
          else
            alter r fun e => e.setOwner rel (some o)
            return .known (some o)

/-- The owner that a relation leads to. -/
def owner (r : Ref) (rel : Relation) : Work (Option Ref) := do
  let e ← look r
  match e.owners.lookup rel with
  | some o => return o
  | none =>
    if e.key?.isNone then return none
    else if !e.isAttached then throw .outOfReach
    else
      let id ← rel.column?.elim (pure .null) (value r)
      let o ← if id = .null then pure none else find rel.target id
      alter r fun e => e.setOwner rel o
      return o

/-- Looks up the owner that the row of a stored entity names among the entities of the session. -/
def lookUpOwner (r : Ref) (rel : Relation) : Work Unit := do
  let e ← look r
  if (e.owners.lookup rel).isSome then return
  let name (e : Entity) : Entity.Glance Cell := rel.column?.elim .absent e.formerCell
  if name e = .unread then revive r
  match name (← look r) with
  | .known .null => alter r fun e => e.setOwner rel none
  | .known id =>
    match (← get).mapped? rel.target (← identifier id) with
    | some o => alter r fun e => e.setOwner rel (some o)
    | none => return
  | _ => return

/-! ## Members -/

/-- Takes the leaving members out of a relation that was just read. -/
def leave (r : Ref) (rel : Relation) : List Ref → Work Unit
  | [] => return
  | m :: ms => do
    match (← look r).membersOf rel with
    | .read current former =>
      if current.contains m then
        alter r fun e => e.setMembers rel (.read (current.erase m) former)
        leave r rel ms
      else throw .notMember
    | .unread .. => leave r rel ms

/-- Reads the members of a relation from the tables, and lets join and leave whom it was noted
of. -/
def readMembers (r : Ref) (rel : Relation) (id : Cell) (joining leaving : List Ref) :
    Work (List Ref) := do
  let e ← look r
  let s ← reaching
  bind 1 id
  let found ← (id.text?.elim [] fun id => s.tables.related e.kind id rel).mapM adopt
  if joining.isEmpty && leaving.isEmpty then
    alter r fun e => { e.setMembers rel (.read found none) with isExpired := false }
  else
    alter r fun e =>
      { e.setMembers rel (.read (found ++ joining) (some found)) with
        isExpired := false, isTouched := true }
    leave r rel leaving
  return ((← look r).known? rel).getD []

/-- The members that a relation leads to. -/
def members (r : Ref) (rel : Relation) : Work (List Ref) := do
  let e ← look r
  match e.membersOf rel with
  | .read current _ => return current
  | .unread joining leaving =>
    if e.key?.isNone then return []
    else if !e.isAttached then throw .outOfReach
    else
      let id ← value r .id
      readMembers r rel id joining leaving

/-- The members that a relation of a stored entity leads to, by the identifier of the row. -/
def formerMembers (r : Ref) (rel : Relation) : Work (List Ref) := do
  let e ← look r
  match e.membersOf rel with
  | .read current _ => return current
  | .unread joining leaving =>
    let id ← formerValue r .id
    readMembers r rel id joining leaving

end Weblog.Session.Work
