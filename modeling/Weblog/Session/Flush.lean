/-
  Flushing: everything that entities hold is written into the tables, or nothing is.

  Every entity that is to be put in or was touched is validated first, and one that is not valid
  stops everything before anything is written. Where writing fails, everything since the last
  commit is undone: entities whose rows are undone leave the session with their values, and the
  others come back to their rows. Identifiers that were used up stay used up.
-/
import Weblog.Session.Relating
import Weblog.Session.Writing

namespace Weblog.Session

/-! ## Undoing -/

/-- An entity that leaves the session, if its row was put in since the last commit or was to be. -/
def expelled (e : Entity) : Entity :=
  if e.isPending || e.wasWritten then
    { e with
      key? := none
      isAttached := false
      turn? := none
      isMapped := false
      isDoomed := e.isDoomed && !e.isMapped
      wasRemoved := e.wasRemoved && (e.isPending || e.isMapped) }
  else e

/-- Whether an entity leaves the session when everything is undone. -/
def isExpelled (e : Entity) : Bool := e.isPending || e.wasWritten

/-- Gives entities the keys back that they had at the last commit. -/
def restoreKeys (s : Session) (expelled : List Ref) : Session :=
  (s.refs fun e => e.renamedFrom?.isSome).foldl (fun s r =>
    let s := s.modifyEntity r fun e => { e with isMapped := false, key? := e.renamedFrom? }
    if expelled.contains r then s else s.occupy r) s

/-- Brings an entity back whose row was taken out or was to be. -/
def restoreRow (s : Session) (r : Ref) : Session :=
  match s.entity? r with
  | none => s
  | some e =>
    match e.key? with
    | none => s
    | some key =>
      if e.isGone && !e.isAttached then s
      else
        let s := s.modifyEntity r fun e => { e with isGone := false, isDoomed := false, isAttached := true }
        if (s.mapped? e.kind key).isNone then s.modifyEntity r fun e => { e with isMapped := true } else s

/-- Takes every entity back to the last commit. -/
def restored (s : Session) : Session :=
  let gone := s.refs isExpelled
  let s := (s.mapEntities expelled).restoreKeys gone
  let s := (s.refs fun e => e.wasRemoved || e.isDoomed).foldl restoreRow s
  s.mapEntities fun e => if e.isMapped then e.expired else e

/-- Takes tables and entities back to the last commit, after which only a rollback is of use. -/
def failed (s : Session) : Session :=
  { ({ s with store := { s.store with tables := s.committed } } : Session).restored with broken := true }

namespace Work

/-! ## Validation -/

/-- Goes on if nothing is wrong with an attribute. -/
def checked {α : Type} (x : Except AttributeError α) : Work α :=
  match x with
  | .ok a => return a
  | .error e => throw (.attribute e)

/-- Whether what an entity has under a name is blank. -/
def isBlankNamed (r : Ref) (name : String) : Work Bool := do
  let e ← look r
  match e.kind.column? name, e.kind.relation? name with
  | some c, _ => return (← value r c).isBlank
  | none, some rel =>
    if rel.isMany then
      let _ ← members r rel
      return false
    else return (← owner r rel).isNone
  | none, none => return Presence.isBlankName e.kind e.extras name

/-- The complaints about an entity. -/
def complaints (r : Ref) : Work Complaints := do
  let e ← look r
  checked (Presence.checkAskable e.extras "validate")
  let required ← checked (Presence.requiredNames e.kind e.extras)
  return Presence.complaintsOf (← required.filterM (isBlankNamed r))

/-- Validates an entity. -/
def validate (r : Ref) : Work Unit := do
  let e ← look r
  if e.kind.isValidated then
    match ← complaints r with
    | [] => return
    | cs =>
      note (Failure.invalidRecord e.kind (some (← value r .id).display) cs)
      throw (.invalid e.kind cs)

/-! ## Flushing -/

/-- Writes everything, unless something is not valid. -/
def flush (now : Instant) : Work Unit := do
  let s ← get
  if s.isClean then return
  (s.pending ++ s.dirty).forM validate
  let s ← reaching
  tryCatch (carryOut now (Plan.initial s)) fun e => do
    modify failed
    throw e

end Work

end Weblog.Session
