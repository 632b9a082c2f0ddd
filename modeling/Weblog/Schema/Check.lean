/-
  Forms: which values a submitted object may hold, and the faults of one that does not fit.

  Every field is checked, so that all faults are found; they come in the order of the fields. What
  a form does not name is passed over, and an optional field that is missing is null.
-/
import Weblog.Email.Address
import Weblog.Schema.Fault

namespace Weblog

/-- Bounds on the number of characters of a text. -/
structure Bounds where
  least : Option Nat
  greatest : Option Nat
deriving DecidableEq, Repr

/-- No bounds. -/
def Bounds.none : Bounds := ⟨.none, .none⟩

/-- What a field may hold. -/
inductive FieldType
  | text (bounds : Bounds)
  | email
  | textList
deriving DecidableEq, Repr

/-- A field of a form. Optional fields may be null or missing. -/
structure Field where
  name : String
  type : FieldType
  isRequired : Bool
deriving DecidableEq, Repr

/-- A form. -/
structure Form where
  name : String
  fields : List Field
deriving DecidableEq, Repr

namespace Bounds

/-- The bound that a length breaks. -/
def broken? (b : Bounds) (length : Nat) : Option Cause :=
  match b.least, b.greatest with
  | some n, some m =>
    if length < n then some (.tooShort n) else if m < length then some (.tooLong m) else Option.none
  | some n, .none => if length < n then some (.tooShort n) else Option.none
  | .none, some m => if m < length then some (.tooLong m) else Option.none
  | .none, .none => Option.none

end Bounds

/-- All values, if there are no faults at all. -/
def collect {ε α : Type} : List (Except (List ε) α) → Except (List ε) (List α)
  | [] => .ok []
  | .ok a :: rest => (collect rest).map (a :: ·)
  | .error es :: rest =>
    match collect rest with
    | .ok _ => .error es
    | .error more => .error (es ++ more)

namespace FieldType

/-- A single fault at the value itself. -/
def refuse (cause : Cause) (v : Json) : Except (List Fault) Json := .error [⟨cause, [], v⟩]

/-- Checks an item of a list of texts. -/
def checkItem (i : Nat) (v : Json) : Except (List Fault) Json :=
  match v with
  | .str s => .ok (.str s)
  | _ => .error [⟨.notText, [.index i], v⟩]

/-- Checks items from an index on. -/
def checkItems (i : Nat) : List Json → List (Except (List Fault) Json)
  | [] => []
  | v :: vs => checkItem i v :: checkItems (i + 1) vs

/-- Checks a value that is not null, and gives what the field then holds. -/
def check (t : FieldType) (v : Json) : Except (List Fault) Json :=
  match t, v with
  | .text b, .str s =>
    match b.broken? s.length with
    | some cause => refuse cause v
    | none => .ok v
  | .email, .str s =>
    match Email.normalForm s with
    | .ok e => .ok (.str e)
    | .error e => refuse (.badEmail e) v
  | .textList, .arr vs => (collect (checkItems 0 vs)).map .arr
  | .textList, _ => refuse .notList v
  | _, _ => refuse .notText v

end FieldType

namespace Field

/-- Checks the field of a submitted object. -/
def check (f : Field) (fields : List (String × Json)) : Except (List Fault) (String × Json) :=
  match fields.lookup f.name with
  | none =>
    if f.isRequired then .error [⟨.missing, [.name f.name], .obj fields⟩] else .ok (f.name, .null)
  | some v =>
    if v == .null && !f.isRequired then .ok (f.name, .null)
    else
      match f.type.check v with
      | .ok w => .ok (f.name, w)
      | .error es => .error (es.map (Fault.inside (.name f.name)))

end Field

namespace Form

/-- Checks a submitted object. -/
def checkFields (form : Form) (fields : List (String × Json)) :
    Except (List Fault) (List (String × Json)) :=
  collect (form.fields.map (·.check fields))

/-- Checks a submitted value; `otherwise` is the fault of a value that is no object. -/
def checkValue (form : Form) (otherwise : Cause) (v : Json) :
    Except (List Fault) (List (String × Json)) :=
  match v with
  | .obj fields => form.checkFields fields
  | _ => .error [⟨otherwise, [], v⟩]

/-- Checks a value by itself. -/
def check (form : Form) (v : Json) : Except (List Fault) (List (String × Json)) :=
  form.checkValue (.notForm form.name) v

end Form

end Weblog
