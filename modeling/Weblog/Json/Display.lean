/-
  The text of a value inside running text: a text as it is, and any other value as a literal with
  quoted texts, `True`, `False` and `None`.
-/
import Weblog.Json.Basic
import Weblog.Number.Shortest
import Weblog.Text.Quoted

namespace Weblog.Json

/-- Whether a value counts as nothing: null, false, zero, or empty. -/
def isNothing : Json → Bool
  | .null => true
  | .bool b => !b
  | .int n => n == 0
  | .float x => x.isZero
  | .str s => s == ""
  | .arr vs => vs.isEmpty
  | .obj fs => fs.isEmpty

mutual

/-- A value as a literal. -/
def literal : Json → List Char
  | .null => "None".toList
  | .bool b => if b then "True".toList else "False".toList
  | .int n => Number.text n
  | .float x => x.text
  | .str s => (Text.quoted s).toList
  | .arr [] => ['[', ']']
  | .arr (v :: vs) => '[' :: literal v ++ itemLiterals vs ++ [']']
  | .obj [] => ['{', '}']
  | .obj ((k, v) :: fs) =>
    '{' :: (Text.quoted k).toList ++ ':' :: ' ' :: literal v ++ fieldLiterals fs ++ ['}']

/-- The items after the first. -/
def itemLiterals : List Json → List Char
  | [] => []
  | v :: vs => ',' :: ' ' :: literal v ++ itemLiterals vs

/-- The fields after the first. -/
def fieldLiterals : List (String × Json) → List Char
  | [] => []
  | (k, v) :: fs =>
    ',' :: ' ' :: (Text.quoted k).toList ++ ':' :: ' ' :: literal v ++ fieldLiterals fs

end

/-- The text of a value. -/
def display : Json → String
  | .str s => s
  | v => String.ofList (literal v)

end Weblog.Json
