/-
  The whole number that a value stands for, whatever its type: numbers are cut, texts are read as
  numerals, and truth values count as one and zero.
-/
import Weblog.Json.Alike
import Weblog.Number.Numeral

namespace Weblog.Json

/-- Why a value stands for no whole number. -/
inductive WholeError
  /-- A text that is no numeral. -/
  | numeral (text : String) (e : Number.NumeralError)
  | infinite
  | undefined
  /-- A value of a type that is no number. -/
  | notANumber (type : String)
deriving DecidableEq, Repr

/-- The words for a value that stands for no whole number. -/
def WholeError.message : WholeError → String
  | .numeral text e => e.message text
  | .infinite => "cannot convert float infinity to integer"
  | .undefined => "cannot convert float NaN to integer"
  | .notANumber type =>
    "int() argument must be a string, a bytes-like object or a real number, not '" ++ type ++ "'"

/-- The whole number that a value stands for. -/
def whole : Json → Except WholeError Int
  | .int n => .ok n
  | .bool b => .ok (if b then 1 else 0)
  | .str s => (Number.readNumeral s).mapError (.numeral s)
  | .float (.infinite _) => .error .infinite
  | .float x =>
    match x.truncate? with
    | some n => .ok n
    | none => .error .undefined
  | v => .error (.notANumber v.typeName)

@[simp] theorem whole_int (n : Int) : (Json.int n).whole = .ok n := rfl

end Weblog.Json
