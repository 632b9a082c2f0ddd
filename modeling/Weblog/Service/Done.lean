/-
  Successful requests, and the checks that more than one kind of request makes.
-/
import Weblog.Service.Answer

namespace Weblog

/-- What a successful request leaves behind. -/
structure Done where
  store : Store
  status : Nat
  view : View
  records : List LogRecord

namespace Done

/-- A request that only looked. -/
def read (s : Store) (v : View) : Done := ⟨s, 200, v, []⟩

/-- A request that changed something and shows it. -/
def changed (s : Store) (v : View) (records : List LogRecord) : Done := ⟨s, 200, v, records⟩

/-- A request that put something in and shows it. -/
def created (s : Store) (v : View) (records : List LogRecord) : Done := ⟨s, 201, v, records⟩

/-- A request that took something out. -/
def removed (s : Store) (records : List LogRecord) : Done := ⟨s, 204, .nothing, records⟩

end Done

/-- Refuses a request. -/
def refuse {α : Type} (r : Refusal) : Except Failure α := .error (.refused r)

/-- The row that was looked for, or a refusal. -/
def orRefuse {α : Type} (r : Refusal) : Option α → Except Failure α
  | some a => .ok a
  | none => refuse r

/-- Whether a text that may be missing is blank. -/
def isBlankText : Option String → Bool
  | none => true
  | some s => Text.isBlank s

/-- Refuses a record with blank attributes among the required ones. -/
def checkPresence (kind : Kind) (id : Option String) (blank : Column → Bool) :
    Except Failure Unit :=
  match Presence.complaints kind.required blank with
  | [] => .ok ()
  | cs => .error (.invalid kind id cs)

/-- The store after a change that constraints allow. -/
def commit (r : Except Constraint Store) : Except Failure Store := r.mapError Failure.ofConstraint

/-- The record about a document that was written. -/
def indexedRecord (postId : String) : LogRecord :=
  ⟨.debug, .index, "Indexed " ++ Kind.post.table ++ " " ++ postId⟩

/-- The record about a document that was taken out. -/
def unindexedRecord (postId : String) : LogRecord :=
  ⟨.debug, .index, "Removed " ++ Kind.post.table ++ " " ++ postId ++ " from index"⟩

/-! ## Submitted fields -/

/-- The submitted fields of a form that was checked. -/
abbrev Fields := List (String × Json)

namespace Fields

def text? (fs : Fields) (name : String) : Option String := (fs.lookup name).bind Json.text?

def text (fs : Fields) (name : String) : String := (fs.text? name).getD ""

def texts? (fs : Fields) (name : String) : Option (List String) :=
  match fs.lookup name with
  | some (.arr vs) => some (vs.filterMap Json.text?)
  | _ => none

end Fields

end Weblog
