/-
  What can be wrong with an e-mail address.
-/
import Weblog.Domain.Error
import Weblog.Domain.Literal
import Weblog.Text.Category
import Weblog.Text.Name

namespace Weblog.Email

/-! ## Showing characters -/

/-- A character as it is shown in a message: itself in quotes, or its name, or its code point. -/
def shown (c : Char) : String :=
  if c = '\\' then "\"\\\""
  else match Text.category c with
    | .letterOrNumber | .punctuationOrSymbol => Text.quoted (String.ofList [c])
    | _ =>
      match Text.name? c with
      | some name => name
      | none =>
        let width := if c.toNat < 0xFFFF then 4 else 8
        "U+" ++ String.ofList ((Text.hexPadded width c.toNat).map Char.toUpper)

/-- Characters as they are shown in a message, each once and in the order of the texts shown. -/
def shownList (cs : List Char) : String :=
  String.intercalate ", " ((cs.map shown).mergeSort fun a b => !decide (b < a)).eraseDups

/-! ## Errors -/

/-- The two sides of the at-sign. -/
inductive Side
  | localPart
  | domain
deriving DecidableEq, Repr

/-- What is wrong with periods and hyphens. -/
inductive DotFault
  | endsWith (hyphen : Bool)
  | startsWith (hyphen : Bool)
  | doublePeriod
  | periodAndHyphen
deriving DecidableEq, Repr

/-- In which of its forms an address is too long. -/
inductive Form
  | given
  | normalized
  | ascii
deriving DecidableEq, Repr

/-- Why a bracketed address is refused. -/
inductive BracketFault
  | octets (address : List Char) (e : Domain.Address4Error)
  | groups (address : List Char) (e : Domain.Address6Error)
  | noTag
  | characters (cs : List Char)
  | unknownTag
  | notPermitted
deriving DecidableEq, Repr

/-- Why a text is no e-mail address. -/
inductive Error
  | tooLongToRead
  | lineBreak
  | noAtSign
  | fullWidthAtSign
  | smallAtSign
  | unquotedName (cs : List Char)
  | afterCloseQuote (cs : List Char)
  | unsafeCharacters (cs : List Char)
  | unclosedBracket
  | afterBracket
  | nameNotPermitted
  | nothingBefore
  | nothingAfter
  | localCharacters (cs : List Char)
  | quotedCharacters (cs : List Char)
  | dots (side : Side) (fault : DotFault)
  | quotedLocalPart
  | bracket (fault : BracketFault)
  | domainCharacters (cs : List Char)
  | unmappable (e : Domain.Error)
  | mappedCharacters (cs : List Char)
  | reservedHyphens
  | badLabel (e : Domain.Error)
  /-- The domain has so many bytes too many; `encoded` if its ASCII form is not the one given. -/
  | domainTooLong (excess : Nat) (encoded : Bool)
  | labelTooLong (excess : Nat)
  | noPeriod
  | badTopLevel
  | reservedName
  | notDecodable (e : Domain.Error)
  | notReencodable (e : Domain.Error)
  /-- The address has so many bytes too many; of those at least `atLeast` are characters. -/
  | tooLong (form : Form) (atLeast excess : Nat)
  /-- An error of the local part in normal form. -/
  | afterNormalization (e : Error)
deriving DecidableEq, Repr

def decimal (n : Nat) : String := String.ofList (Number.digits n)

def plural (n : Nat) : String := if n = 1 then "" else "s"

/-- The words for a fault in periods and hyphens. -/
def DotFault.message (side : Side) : DotFault → String
  | .endsWith hyphen =>
    let mark := if hyphen then "hyphen" else "period"
    match side with
    | .localPart => "An email address cannot have a " ++ mark ++ " immediately before the @-sign."
    | .domain => "An email address cannot end with a " ++ mark ++ "."
  | .startsWith hyphen =>
    let mark := if hyphen then "hyphen" else "period"
    match side with
    | .localPart => "An email address cannot start with a " ++ mark ++ "."
    | .domain => "An email address cannot have a " ++ mark ++ " immediately after the @-sign."
  | .doublePeriod => "An email address cannot have two periods in a row."
  | .periodAndHyphen =>
    "An email address cannot have a period and a hyphen next to each other."

/-- The words for a fault in a bracketed address. -/
def BracketFault.message : BracketFault → String
  | .octets a e =>
    "The address in brackets after the @-sign is not valid: It is not an IPv4 address ("
      ++ e.message a ++ ") or is missing an address literal tag."
  | .groups a e =>
    "The IPv6 address in brackets after the @-sign is not valid ("
      ++ e.message a (Domain.beforeZone a) ++ ")."
  | .noTag =>
    "The part after the @-sign in brackets is not an IPv4 address and has no address literal tag."
  | .characters cs =>
    "The part after the @-sign contains invalid characters in brackets: " ++ shownList cs ++ "."
  | .unknownTag =>
    "The part after the @-sign contains an invalid address literal tag in brackets."
  | .notPermitted => "A bracketed IP address after the @-sign is not allowed here."

/-- The words for an address that is too long. -/
def tooLongMessage (form : Form) (atLeast excess : Nat) : String :=
  let reason := match form with
    | .given =>
      let range := if atLeast = excess then decimal excess
        else decimal atLeast ++ "-" ++ decimal excess
      "(" ++ range ++ " character" ++ plural excess ++ " too many)"
    | .normalized => "after normalization (" ++ decimal excess ++ " byte" ++ plural excess
      ++ " too many)"
    | .ascii =>
      "when the part after the @-sign is converted to IDNA ASCII (" ++ decimal excess ++ " byte"
        ++ plural excess ++ " too many)"
  "The email address is too long " ++ reason ++ "."

/-- The words for an error. -/
def Error.message : Error → String
  | .tooLongToRead => "Length must not exceed 2048 characters"
  | .lineBreak => "Carriage return and line feed characters are not allowed"
  | .noAtSign => "An email address must have an @-sign."
  | .fullWidthAtSign =>
    "The email address has the \"full-width\" at-sign (@) character instead of a regular at-sign."
  | .smallAtSign =>
    "The email address has the \"small commercial at\" character instead of a regular at-sign."
  | .unquotedName cs =>
    "The display name contains invalid characters when not quoted: " ++ shownList cs ++ "."
  | .afterCloseQuote cs =>
    "Extra character(s) found after close quote: " ++ String.intercalate ", " (cs.map shown)
  | .unsafeCharacters cs =>
    "The email address contains unsafe characters: "
      ++ String.intercalate ", " ((cs.mergeSort (· ≤ ·)).eraseDups.map shown) ++ "."
  | .unclosedBracket =>
    "An open angle bracket at the start of the email address has to be followed by a close angle bracket at the end."
  | .afterBracket => "There can't be anything after the email address."
  | .nameNotPermitted =>
    "A display name and angle brackets around the email address are not permitted here."
  | .nothingBefore => "There must be something before the @-sign."
  | .nothingAfter => "There must be something after the @-sign."
  | .localCharacters cs =>
    "The email address contains invalid characters before the @-sign: " ++ shownList cs ++ "."
  | .quotedCharacters cs =>
    "The email address contains invalid characters in quotes before the @-sign: "
      ++ shownList cs ++ "."
  | .dots side fault => fault.message side
  | .quotedLocalPart => "Quoting the part before the @-sign is not allowed here."
  | .bracket fault => fault.message
  | .domainCharacters cs =>
    "The part after the @-sign contains invalid characters: " ++ shownList cs ++ "."
  | .unmappable e => "The part after the @-sign contains invalid characters (" ++ e.message ++ ")."
  | .mappedCharacters cs =>
    "The part after the @-sign contains invalid characters after Unicode normalization: "
      ++ shownList cs ++ "."
  | .reservedHyphens =>
    "An email address cannot have two letters followed by two dashes immediately after the @-sign or after a period, except Punycode."
  | .badLabel e => "The part after the @-sign is invalid (" ++ e.message ++ ")."
  | .domainTooLong excess encoded =>
    "The email address is too long after the @-sign (" ++ decimal excess
      ++ (if encoded then " byte" ++ plural excess ++ " too many after IDNA encoding"
          else " character" ++ plural excess ++ " too many") ++ ")."
  | .labelTooLong excess =>
    "After the @-sign, periods cannot be separated by so many characters (" ++ decimal excess
      ++ " character" ++ plural excess ++ " too many)."
  | .noPeriod => "The part after the @-sign is not valid. It should have a period."
  | .badTopLevel =>
    "The part after the @-sign is not valid. It is not within a valid top-level domain."
  | .reservedName =>
    "The part after the @-sign is a special-use or reserved name that cannot be used with email."
  | .notDecodable e => "The part after the @-sign is not valid IDNA (" ++ e.message ++ ")."
  | .notReencodable e =>
    "The part after the @-sign became invalid after normalizing to international characters ("
      ++ e.message ++ ")."
  | .tooLong form atLeast excess => tooLongMessage form atLeast excess
  | .afterNormalization e => "After Unicode normalization: " ++ e.message

end Weblog.Email
