/-
  The searchable text of a record: its indexed texts, the empty ones left out, joined by single
  spaces and put into lower case.
-/
import Weblog.Json.Display
import Weblog.Text.Case

namespace Weblog.Document

/-- The document of some texts. -/
def ofTexts (parts : List String) : String :=
  Text.lower (String.intercalate " " (parts.filter (· != "")))

/-- The document of a value that may be missing: nothing where there is nothing to say. -/
def partOf (value : Option Json) : String :=
  match value with
  | some v => if v.isNothing then "" else v.display
  | none => ""

/-- The document of the named fields of a record. -/
def build (record : Json) (fields : List String) : String :=
  ofTexts (fields.map fun f => partOf (record.field? f))

/-- The names of attributes that no index can do without. -/
inductive RegistrationError
  | noFields
deriving DecidableEq, Repr

def RegistrationError.message : RegistrationError → String
  | .noFields => "register_searchable needs at least one field"

/-- Checks the field list of an index. -/
def checkFields (fields : List String) : Except RegistrationError Unit :=
  if fields.isEmpty then .error .noFields else .ok ()

end Weblog.Document
