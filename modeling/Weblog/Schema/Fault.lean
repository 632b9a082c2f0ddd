/-
  What can be wrong with submitted values, and where.
-/
import Weblog.Email.Error
import Weblog.Json.Reader

namespace Weblog

/-- One step on the way to a value. -/
inductive Place
  | name (s : String)
  | index (i : Nat)
deriving DecidableEq, Repr

def Place.toJson : Place → Json
  | .name s => .str s
  | .index i => .int i

/-- What is wrong with a value. -/
inductive Cause
  | missing
  | notText
  | notList
  | tooShort (least : Nat)
  | tooLong (greatest : Nat)
  /-- No object, where the named form is asked for by itself. -/
  | notForm (form : String)
  /-- No object, where a form is asked for in a request. -/
  | notObject
  | badEmail (e : Email.Error)
  | notWhole
  /-- A text that is too long to be read as a whole number. -/
  | wholeTooLong
  | lessThan (least : Int)
  | greaterThan (greatest : Int)
  | badJson (fault : Json.Fault)
deriving DecidableEq, Repr

/-- A value that is not as it should be. -/
structure Fault where
  cause : Cause
  place : List Place
  input : Json

namespace Cause

def decimal (n : Int) : String := String.ofList (Number.text n)

def characters (n : Nat) : String := decimal n ++ if n = 1 then " character" else " characters"

/-- The name of a cause. -/
def name : Cause → String
  | .missing => "missing"
  | .notText => "string_type"
  | .notList => "list_type"
  | .tooShort _ => "string_too_short"
  | .tooLong _ => "string_too_long"
  | .notForm _ => "model_type"
  | .notObject => "model_attributes_type"
  | .badEmail _ => "value_error"
  | .notWhole => "int_parsing"
  | .wholeTooLong => "int_parsing_size"
  | .lessThan _ => "greater_than_equal"
  | .greaterThan _ => "less_than_equal"
  | .badJson _ => "json_invalid"

/-- The words for a cause. -/
def message : Cause → String
  | .missing => "Field required"
  | .notText => "Input should be a valid string"
  | .notList => "Input should be a valid list"
  | .tooShort n => "String should have at least " ++ characters n
  | .tooLong n => "String should have at most " ++ characters n
  | .notForm form => "Input should be a valid dictionary or instance of " ++ form
  | .notObject => "Input should be a valid dictionary or object to extract fields from"
  | .badEmail e => "value is not a valid email address: " ++ e.message
  | .notWhole => "Input should be a valid integer, unable to parse string as an integer"
  | .wholeTooLong =>
    "Unable to parse input string as an integer, exceeded maximum size"
  | .lessThan n => "Input should be greater than or equal to " ++ decimal n
  | .greaterThan n => "Input should be less than or equal to " ++ decimal n
  | .badJson _ => "JSON decode error"

/-- The particulars of a cause, by name. -/
def particulars : Cause → Option (String × Json)
  | .tooShort n => some ("min_length", .int n)
  | .tooLong n => some ("max_length", .int n)
  | .notForm form => some ("class_name", .str form)
  | .badEmail e => some ("reason", .str e.message)
  | .lessThan n => some ("ge", .int n)
  | .greaterThan n => some ("le", .int n)
  | .badJson f => some ("error", .str f.message)
  | _ => none

end Cause

namespace Fault

/-- A fault as an object. -/
def toJson (f : Fault) : Json :=
  Json.record [("type", some (.str f.cause.name)), ("loc", some (.arr (f.place.map Place.toJson))),
    ("msg", some (.str f.cause.message)), ("input", some f.input),
    ("ctx", f.cause.particulars.map fun p => .obj [p])]

/-- The fault of a part as a fault of the whole. -/
def inside (p : Place) (f : Fault) : Fault := { f with place := p :: f.place }

end Fault

end Weblog
