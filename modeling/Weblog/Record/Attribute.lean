/-
  Attributes by name: what can be set in a record of a kind, and what a record has besides.

  Columns, relations and computed attributes are told apart from the names that every record has
  without holding anything in them. Those can be set to no effect, apart from three that guard
  themselves.
-/
import Weblog.Json.Alike
import Weblog.Record.Kind
import Weblog.Text.Quoted

namespace Weblog

/-- Why a record cannot be made up, changed or looked at by name. -/
inductive AttributeError
  | unknown (name : String) (kind : Kind)
  /-- A name that stands for the record itself. -/
  | taken (name : String)
  | computed (name : String) (kind : Kind)
  /-- A value of some type has no attribute of a name. -/
  | missing (type name : String)
  /-- A value that should be a list of records. -/
  | notList (type : String)
  | notCallable (type : String)
  | notIterable (type : String)
  /-- A value that should be the name of an attribute. -/
  | notName (type : String)
  /-- A value that should be a kind. -/
  | notKind (type : String)
  /-- A value that should be an object of attributes. -/
  | notFields (type : String)
  | fixed (name : String) (kind : Kind)
deriving DecidableEq, Repr

namespace AttributeError

/-- The words for an attribute error. -/
def message : AttributeError → String
  | unknown a k => Text.quoted a ++ " is an invalid keyword argument for " ++ k.text
  | taken a => "__init__() got multiple values for argument " ++ Text.quoted a
  | computed a k => "property '" ++ a ++ "' of '" ++ k.text ++ "' object has no setter"
  | missing t a => "'" ++ t ++ "' object has no attribute '" ++ a ++ "'"
  | notList t => "Incompatible collection type: " ++ t ++ " is not list-like"
  | notCallable t => "'" ++ t ++ "' object is not callable"
  | notIterable t => "'" ++ t ++ "' object is not iterable"
  | notName t => "attribute name must be string, not '" ++ t ++ "'"
  | notKind t => "__class__ must be set to a class, not '" ++ t ++ "' object"
  | notFields t => "__dict__ must be set to a dictionary, not a '" ++ t ++ "'"
  | fixed a k => "attribute '" ++ a ++ "' of '" ++ k.text ++ "' objects is not writable"

/-- Whether the attribute itself is at fault, and not what is given for it. -/
def isOfName : AttributeError → Bool
  | computed .. | missing .. | fixed .. => true
  | _ => false

end AttributeError

namespace Attribute

/-! ## Names -/

/-- The attribute that a related value must have to be a record. -/
def stateName : String := "_sa_instance_state"

/-- Names that every record has. -/
def inherited : List String :=
  ["metadata", "registry", "__tablename__", "__table__", "__mapper__", "__abstract__",
    "_sa_class_manager", "_sa_registry", "__annotations__", "__class__", "__delattr__", "__dict__",
    "__dir__", "__doc__", "__eq__", "__format__", "__ge__", "__getattribute__", "__getstate__",
    "__gt__", "__hash__", "__init__", "__init_subclass__", "__le__", "__lt__", "__module__",
    "__ne__", "__new__", "__reduce__", "__reduce_ex__", "__repr__", "__setattr__", "__sizeof__",
    "__str__", "__subclasshook__", "__weakref__"]

/-- Names that every kind has, and that can be set in a record, but that no record has otherwise. -/
def ofKinds : List String :=
  ["__base__", "__bases__", "__basicsize__", "__call__", "__dictoffset__", "__flags__",
    "__getattr__", "__instancecheck__", "__itemsize__", "__mro__", "__name__", "__or__",
    "__prepare__", "__qualname__", "__ror__", "__subclasscheck__", "__subclasses__",
    "__text_signature__", "__weakrefoffset__", "mro"]

/-- The name under which a record lists the attributes whose presence is required. -/
def presenceName : String := "__presence_of__"

/-- The names of what a validated record can be asked for. -/
def questions : List String := ["is_valid", "validate", "full_messages"]

/-- Names that the records of a kind have besides columns, relations and computed attributes. -/
def others (k : Kind) : List String :=
  inherited ++ if k.isValidated then presenceName :: questions else []

/-- Whether a name can be given when a record is made up. -/
def isKnown (k : Kind) (name : String) : Bool :=
  (k.column? name).isSome || (k.relation? name).isSome || k.computed.contains name
    || (others k).contains name || ofKinds.contains name

/-- Whether a record of a kind has an attribute. -/
def isHeld (k : Kind) (name : String) : Bool :=
  (k.column? name).isSome || (k.relation? name).isSome || k.computed.contains name
    || (others k).contains name || name = stateName

/-! ## Values -/

/-- The way in which nothing that is not a record can be related. -/
def notRecord (v : Json) : AttributeError := .missing v.typeName stateName

/-- Checks a value without records that is to be set for a relation. -/
def checkRelated (rel : Relation) (v : Json) : Except AttributeError Unit :=
  match rel.isMany, v with
  | true, .arr vs =>
    match vs.find? (· ≠ .null) with
    | some v => .error (notRecord v)
    | none => .ok ()
  | true, v => .error (.notList (if v = .null then "None" else v.typeName))
  | false, .null => .ok ()
  | false, v => .error (notRecord v)

/-- Checks a value that is to be set under a name. What a record does not have can be set to no
effect. -/
def check (k : Kind) (name : String) (v : Json) : Except AttributeError Unit :=
  match k.relation? name with
  | some rel => checkRelated rel v
  | none =>
    if k.computed.contains name then .error (.computed name k)
    else if name = "__class__" then .error (.notKind v.typeName)
    else if name = "__weakref__" then .error (.fixed name k)
    else
      match name, v with
      | "__dict__", .obj _ => .ok ()
      | "__dict__", v => .error (.notFields v.typeName)
      | _, _ => .ok ()

/-- Checks a value that is given under a name when a record is made up. -/
def checkGiven (k : Kind) (name : String) (v : Json) : Except AttributeError Unit :=
  if isKnown k name then check k name v else .error (.unknown name k)

/-- Checks names before anything is set. -/
def checkNames (names : List String) : Except AttributeError Unit :=
  if names.contains "self" then .error (.taken "self") else .ok ()

end Attribute

end Weblog
