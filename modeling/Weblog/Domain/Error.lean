/-
  What can be wrong with a domain name and its labels.
-/
import Weblog.Number.Digits
import Weblog.Text.Hex
import Weblog.Text.Quoted

namespace Weblog.Domain

/-- Why a domain name or a label is refused. Names and labels are given as code points, and
positions in them count from one. -/
inductive Error
  | domainTooLong
  | labelTooLong
  | emptyDomain
  | emptyLabel
  /-- A character that no domain name may hold. -/
  | refusedCharacter (position : Nat) (domain : List Nat)
  | notNormal
  | doubleHyphen
  | hyphenAtEnd
  | initialMark
  /-- A joiner between neighbours that do not join. -/
  | refusedJoiner (position : Nat) (label : List Nat)
  /-- A joiner behind a code point without a name. -/
  | strangeNeighbour (position : Nat) (label : List Nat)
  | refusedInContext (position : Nat) (label : List Nat)
  | refusedInLabel (position : Nat) (label : List Nat)
  | unknownDirection (position : Nat) (label : List Nat)
  | badFirstDirection (label : List Nat)
  | badDirection (position : Nat) (rightToLeft : Bool)
  | mixedNumerals
  | badLastDirection
  | nothingEncoded
  | hyphenEndsEncoded
  | undecodable
  /-- An encoded label that is not what its decoded form is encoded as. -/
  | notCanonical
deriving DecidableEq, Repr

namespace Error

def decimal (n : Nat) : String := String.ofList (Number.digits n)

/-- The code point at a position of a text, as it is usually cited. -/
def cited (position : Nat) (text : List Nat) : String :=
  let n := text.getD (position - 1) 0
  let width := if n < 0x10000 then 4 else if n < 0x100000 then 5 else 6
  "U+" ++ String.ofList ((Text.hexPadded width n).map Char.toUpper)

/-- Where a code point stands. -/
def placed (position : Nat) (text : List Nat) : String :=
  cited position text ++ " at position " ++ decimal position ++ " of " ++ Text.quotedCodes text

/-- Where a code point may not stand. -/
def misplaced (position : Nat) (text : List Nat) : String :=
  cited position text ++ " not allowed at position " ++ decimal position ++ " in "
    ++ Text.quotedCodes text

/-- The words for an error. -/
def message : Error → String
  | domainTooLong => "Domain too long"
  | labelTooLong => "Label too long"
  | emptyDomain => "Empty domain"
  | emptyLabel => "Empty Label"
  | refusedCharacter i d => "Codepoint " ++ misplaced i d
  | notNormal => "Label must be in Normalization Form C"
  | doubleHyphen => "Label has disallowed hyphens in 3rd and 4th position"
  | hyphenAtEnd => "Label must not start or end with a hyphen"
  | initialMark => "Label begins with an illegal combining character"
  | refusedJoiner i l => "Joiner " ++ misplaced i l
  | strangeNeighbour i l =>
    "Unknown codepoint adjacent to joiner " ++ cited i l ++ " at position " ++ decimal i ++ " in "
      ++ Text.quotedCodes l
  | refusedInContext i l => "Codepoint " ++ misplaced i l
  | refusedInLabel i l => "Codepoint " ++ placed i l ++ " not allowed"
  | unknownDirection i l =>
    "Unknown directionality in label " ++ Text.quotedCodes l ++ " at position " ++ decimal i
  | badFirstDirection l =>
    "First codepoint in label " ++ Text.quotedCodes l ++ " must be directionality L, R or AL"
  | badDirection i rightToLeft =>
    "Invalid direction for codepoint at position " ++ decimal i ++ " in a "
      ++ (if rightToLeft then "right-to-left" else "left-to-right") ++ " label"
  | mixedNumerals => "Can not mix numeral types in a right-to-left label"
  | badLastDirection => "Label ends with illegal codepoint directionality"
  | nothingEncoded => "Malformed A-label, no Punycode eligible content found"
  | hyphenEndsEncoded => "A-label must not end with a hyphen"
  | undecodable => "Invalid A-label"
  | notCanonical => "A-label is not the canonical Punycode encoding of its U-label"

end Error

/-- The most characters that a text is looked at for. -/
def inputLimit : Nat := 1024

end Weblog.Domain
