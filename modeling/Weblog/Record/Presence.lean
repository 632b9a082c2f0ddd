/-
  Presence validation: a required attribute must not be blank.

  A blank attribute is null or a text of white space only. The complaints of a record name its
  blank attributes in the order in which its kind requires them.
-/
import Weblog.Record.Attribute
import Weblog.Text.Blank
import Weblog.Text.Case

namespace Weblog

/-- Messages per attribute, in order. -/
abbrev Complaints := List (String × List String)

namespace Complaints

/-- The one message of presence validation. -/
def blankMessage : String := "can't be blank"

/-- The words for an attribute: its name with spaces for underscores, as the start of a
sentence. -/
def label (name : String) : String :=
  Text.capitalize (String.ofList (name.toList.map fun c => if c = '_' then ' ' else c))

/-- All messages as sentences. -/
def sentences (cs : Complaints) : List String :=
  cs.flatMap fun c => c.2.map fun m => label c.1 ++ " " ++ m

/-- The sentences in one line. -/
def summary (cs : Complaints) : String :=
  "Validation failed: " ++ String.intercalate ", " cs.sentences

/-- The complaints as an object. -/
def toJson (cs : Complaints) : Json :=
  .obj (cs.map fun c => (c.1, .arr (c.2.map .str)))

/-- The complaints as the body of an answer. -/
def response (cs : Complaints) : Json :=
  .obj [("detail", .str cs.summary), ("errors", cs.toJson)]

end Complaints

namespace Presence

/-- The complaints about the required columns that are blank. -/
def complaints (required : List Column) (blank : Column → Bool) : Complaints :=
  (required.filter blank).map fun c => (c.text, [Complaints.blankMessage])

/-- Whether a value is blank: null, or a text of white space only. -/
def isBlankValue : Json → Bool
  | .null => true
  | .str s => Text.isBlank s
  | _ => false

theorem complaints_eq_nil_iff {required : List Column} {blank : Column → Bool} :
    complaints required blank = [] ↔ ∀ c ∈ required, blank c = false := by
  simp [complaints, List.filter_eq_nil_iff]

/-! ## Validity -/

/-- The names under which a record lists what is required: a list of names, the characters of a
text, or the fields of an object. -/
def names : Json → Except AttributeError (List Json)
  | .arr vs => .ok vs
  | .str s => .ok (s.toList.map fun c => .str c.toString)
  | .obj fs => .ok (fs.map fun f => .str f.1)
  | v => .error (.notIterable v.typeName)

/-- Whether what a record with the given attributes has under a name is blank. What is not given is
null in a column and no record in a relation to one. -/
def isBlankName (k : Kind) (given : List (String × Json)) (name : String) : Bool :=
  match given.lookup name with
  | some v => isBlankValue v
  | none =>
    match k.relation? name with
    | some rel => !rel.isMany
    | none => (k.column? name).isSome || !Attribute.isHeld k name

/-- The complaints about blank attributes; one that is required twice is complained about twice. -/
def complaintsOf (blank : List String) : Complaints :=
  blank.eraseDups.map fun a => (a, (blank.filter (· = a)).map fun _ => Complaints.blankMessage)

/-- The name that a value is. -/
def asName : Json → Except AttributeError String
  | .str s => .ok s
  | v => .error (.notName v.typeName)

/-- The names of the attributes that a record with the given ones requires. -/
def requiredNames (k : Kind) (given : List (String × Json)) : Except AttributeError (List String) :=
  match given.lookup Attribute.presenceName with
  | some v => do (← names v).mapM asName
  | none => .ok (k.required.map Column.text)

/-- Checks that nothing is given in place of a question to a record. -/
def checkAskable (given : List (String × Json)) (question : String) : Except AttributeError Unit :=
  match given.lookup question with
  | some v => .error (.notCallable v.typeName)
  | none => .ok ()

/-- The complaints about a record with the given attributes. -/
def check (k : Kind) (given : List (String × Json)) : Except AttributeError Complaints := do
  Attribute.checkNames (given.map Prod.fst)
  given.forM fun a => Attribute.checkGiven k a.1 a.2
  if k.isValidated then
    checkAskable given "is_valid"
    checkAskable given "validate"
    let required ← requiredNames k given
    checkAskable given "full_messages"
    .ok (complaintsOf (required.filter (isBlankName k given)))
  else .error (.missing k.text "is_valid")

end Presence

end Weblog
