/-
  Likeness of values: numbers are compared by what they count, whether they are written as whole
  numbers, as floating-point numbers or as truth values, and objects without regard to the order
  of their fields.
-/
import Weblog.Json.Basic

namespace Weblog

namespace Number.Binary64

/-- Whether two numbers are equal: zeros of either sign are, and nothing equals what is no number. -/
def equals (x y : Binary64) : Bool :=
  match x, y with
  | .nan, _ | _, .nan => false
  | x, y => x.isZero && y.isZero || x = y

/-- Whether a number is a whole number. -/
def isWhole (x : Binary64) (n : Int) : Bool :=
  match x with
  | .finite _ m (.negSucc k) => m % Nat.pow 2 (k + 1) = 0 && x.truncate? = some n
  | x => x.truncate? = some n

end Number.Binary64

namespace Json

/-- The whole number that a whole number or a truth value counts. -/
def count? : Json → Option Int
  | .bool b => some (if b then 1 else 0)
  | .int n => some n
  | _ => none

mutual

/-- Whether two values are alike. -/
def alike : Json → Json → Bool
  | .null, .null => true
  | .str a, .str b => a == b
  | .float x, .float y => x.equals y
  | .float x, b => (count? b).any x.isWhole
  | a, .float y => (count? a).any y.isWhole
  | .arr as, .arr bs => alikeItems as bs
  | .obj as, .obj bs => as.length == bs.length && alikeFields as bs
  | a, b => (count? a).isSome && count? a == count? b

def alikeItems : List Json → List Json → Bool
  | [], [] => true
  | a :: as, b :: bs => alike a b && alikeItems as bs
  | _, _ => false

/-- Whether each field is alike to one of the same name. -/
def alikeFields : List (String × Json) → List (String × Json) → Bool
  | [], _ => true
  | (k, a) :: as, bs => (bs.lookup k).any (alike a) && alikeFields as bs

end

/-- A number as a fraction. -/
def ratio? : Json → Option (Int × Nat)
  | .float (.finite negative m e) =>
    let (num, den) : Nat × Nat := match e with
      | .ofNat k => (m * Nat.pow 2 k, 1)
      | .negSucc k => (m, Nat.pow 2 (k + 1))
    some (if negative then -(num : Int) else num, den)
  | v => (count? v).map (·, 1)

/-- Whether a number is at most as great as another. -/
def atMost (a b : Json) : Bool :=
  match ratio? a, ratio? b with
  | some (m, d), some (n, e) => m * e ≤ n * d
  | _, _ => true

/-- The name of a value's type. -/
def typeName : Json → String
  | .null => "NoneType"
  | .bool _ => "bool"
  | .int _ => "int"
  | .float _ => "float"
  | .str _ => "str"
  | .arr _ => "list"
  | .obj _ => "dict"

end Json

end Weblog
