/-
  The steps of a session and what each of them gives: a result or a failure, what was logged, and
  the session to go on with.

  A step that fails leaves what it did before it failed, and later steps go on from there.
-/
import Weblog.Session.Asking

namespace Weblog.Session

/-- A step. -/
inductive Step
  | create (kind : Kind) (attributes : List (String × Given))
  | add (refs : List Ref)
  | assign (ref : Ref) (name : String) (given : Given)
  | append (ref : Ref) (name : String) (member : Ref)
  | discard (ref : Ref) (name : String) (member : Ref)
  | delete (ref : Ref)
  | refresh (ref : Ref)
  | flush
  | commit
  | rollback
  | expireAll
  | display (ref : Ref)
  | validate (ref : Ref)
  | describe (ref : Ref)
  | listRelated (ref : Ref) (name : String)
  | find (kind : Kind) (id : Cell)
  | readTables
  | search (kind : Kind) (query limit : Json)
  | reindex (kind : Kind)
  | clearDocuments
  | putDocument (type id content : Cell)
deriving DecidableEq, Repr

/-- What a step gives. -/
inductive Result
  | done
  | created (ref : Ref)
  | record (ref : Ref) (shown : Shown)
  | complaints (cs : Complaints)
  | text (s : String)
  | id (c : Cell)
  | ids (cs : List Cell)
  | count (n : Nat)
  | tables (t : Tables)
  | nothing
deriving DecidableEq, Repr

/-- What is left after a step. -/
structure Outcome where
  session : Session
  result : Except Error Result
  records : List LogRecord

namespace Work

/-- The identifiers of what a relation leads to. -/
def listRelated (r : Ref) (name : String) : Work Result := do
  let k := (← look r).kind
  match k.relation? name, k.column? name with
  | none, none => refuse (.missing k.text name)
  | none, some c =>
    let v ← value r c
    if v = .null then return .nothing else refuse (.missing (typeOf v) "id")
  | some rel, _ =>
    if rel.isMany then return .ids (← memberIds r rel)
    else
      match ← owner r rel with
      | none => return .nothing
      | some o => return .id (← value o .id)

/-- Does what a step asks for. -/
def take (now : Instant) : Step → Work Result
  | .create k attributes => return .created (← create k attributes)
  | .add rs => do
    rs.forM add
    return .done
  | .assign r name given => do
    assign r name given
    return .done
  | .append r name m => do
    append r (← manyNamed r name "append") m
    return .done
  | .discard r name m => do
    discard r (← manyNamed r name "remove") m
    return .done
  | .delete r => do
    delete r
    return .done
  | .refresh r => do
    refresh r
    return .done
  | .flush => do
    flush now
    return .done
  | .commit => do
    commit now
    return .done
  | .rollback => do
    modify Session.rollback
    return .done
  | .expireAll => do
    modify Session.expireAll
    return .done
  | .display r => return .record r (← display r)
  | .validate r => return .complaints (← ask r)
  | .describe r => return .text (← describe r)
  | .listRelated r name => listRelated r name
  | .find k id => do
    match ← find k id with
    | some r => return .record r (← display r)
    | none => return .nothing
  | .readTables => return .tables (← reaching).tables
  | .search k query limit => return .ids (← idsOf (← searchFor k query limit))
  | .reindex k => return .count (← reindex now k)
  | .clearDocuments => do
    dropDocuments fun _ => true
    return .done
  | .putDocument type id content => do
    putDocument type id content
    return .done

end Work

/-- Takes a step at an instant. -/
def step (s : Session) (now : Instant) (x : Step) : Outcome :=
  let (result, s) := (Work.take now x).run.run { s with log := [] }
  ⟨{ s with log := [] }, result, s.log⟩

end Weblog.Session
