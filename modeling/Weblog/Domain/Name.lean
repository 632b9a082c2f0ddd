/-
  Whole domain names: their labels in ASCII and in Unicode.
-/
import Weblog.Domain.Label

namespace Weblog.Domain

/-- The labels of a name. `label` holds the label being read, last character first. -/
def labelsAfter (label : List Char) : List Char → List (List Char)
  | [] => [label.reverse]
  | c :: cs => if c = '.' then label.reverse :: labelsAfter [] cs else labelsAfter (c :: label) cs

/-- The labels between the periods of a name. -/
def labels (name : List Char) : List (List Char) := labelsAfter [] name

/-- The name of labels. -/
def ofLabels (ls : List (List Char)) : List Char := List.intercalate ['.'] ls

/-- The ASCII form of a name, label by label. -/
def asciiLabels (name : List Char) : Except Error (List Char) :=
  ((labels name).mapM asciiLabel).map ofLabels

/-- The Unicode form of a name in ASCII. Where one label holds characters written from right to
left, all labels have to keep to the rules for writing directions. -/
def toUnicode (name : List Char) : Except Error (List Char) := do
  if nameLimit < name.length then .error .domainTooLong
  let decoded ← (labels name).mapM decodedLabel
  let mixed := (← decoded.mapM directions).any isRightToLeft
  decoded.forM (checkLabel mixed)
  .ok (ofLabels (decoded.map fun l => l.map standIn))

/-- The ASCII form of a name, which may not be too long. -/
def toAscii (name : List Char) : Except Error (List Char) := do
  if nameLimit < name.length then .error .domainTooLong
  let ascii ← asciiLabels name
  if nameLimit ≤ ascii.length then .error .domainTooLong else .ok ascii

end Weblog.Domain
