/-
  Internet addresses as texts: four octets with points between them, or eight groups of
  hexadecimal digits with colons between them. Only their validity matters here.
-/
import Weblog.Number.Digits
import Weblog.Text.Hex
import Weblog.Text.Quoted

namespace Weblog.Domain

def quotedChars (cs : List Char) : String := Text.quoted (String.ofList cs)

/-- The pieces of a text between separators. `piece` holds the piece being read, last character
first. -/
def piecesAfter (sep : Char) (piece : List Char) : List Char → List (List Char)
  | [] => [piece.reverse]
  | c :: cs =>
    if c = sep then piece.reverse :: piecesAfter sep [] cs else piecesAfter sep (c :: piece) cs

/-! ## Four octets -/

/-- Why an octet is refused. -/
inductive OctetError
  | empty
  | notDecimal (octet : List Char)
  | tooLong (octet : List Char)
  | leadingZero (octet : List Char)
  | tooGreat (value : Nat)
deriving DecidableEq, Repr

def OctetError.message : OctetError → String
  | .empty => "Empty octet not permitted"
  | .notDecimal o => "Only decimal digits permitted in " ++ quotedChars o
  | .tooLong o => "At most 3 characters permitted in " ++ quotedChars o
  | .leadingZero o => "Leading zeros are not permitted in " ++ quotedChars o
  | .tooGreat n => "Octet " ++ String.ofList (Number.digits n) ++ " (> 255) not permitted"

/-- Checks one octet. -/
def checkOctet (o : List Char) : Except OctetError Unit :=
  if o.isEmpty then .error .empty
  else if !o.all Char.isDigit then .error (.notDecimal o)
  else if 3 < o.length then .error (.tooLong o)
  else if o ≠ ['0'] ∧ o.head? = some '0' then .error (.leadingZero o)
  else if 255 < Number.ofDigits o then .error (.tooGreat (Number.ofDigits o))
  else .ok ()

/-- Why a text is no address of four octets. -/
inductive Address4Error
  | slash
  | empty
  | notFourOctets
  | octet (e : OctetError)
deriving DecidableEq, Repr

/-- The words for an error in an address. -/
def Address4Error.message (address : List Char) : Address4Error → String
  | .slash => "Unexpected '/' in " ++ quotedChars address
  | .empty => "Address cannot be empty"
  | .notFourOctets => "Expected 4 octets in " ++ quotedChars address
  | .octet e => e.message ++ " in " ++ quotedChars address

/-- Checks an address of four octets. -/
def checkAddress4 (address : List Char) : Except Address4Error Unit :=
  if address.contains '/' then .error .slash
  else if address.isEmpty then .error .empty
  else
    let octets := piecesAfter '.' [] address
    if octets.length ≠ 4 then .error .notFourOctets
    else (octets.forM checkOctet).mapError .octet

/-! ## Eight groups -/

/-- Why a text is no address of eight groups. -/
inductive Address6Error
  | slash
  | zone
  | empty
  | fewParts
  /-- The four octets at the end. -/
  | tail (octets : List Char) (e : Address4Error)
  | manyColons
  | manyGaps
  | leadingColon
  | trailingColon
  | manyParts
  | notEightParts
  | notHexadecimal (group : List Char)
  | longGroup (group : List Char)
deriving DecidableEq, Repr

/-- The words for an error in `address`, whose part in front of the zone is `body`. -/
def Address6Error.message (address body : List Char) : Address6Error → String
  | .slash => "Unexpected '/' in " ++ quotedChars address
  | .zone => "Invalid IPv6 address: \"" ++ quotedChars address ++ "\""
  | .empty => "Address cannot be empty"
  | .fewParts => "At least 3 parts expected in " ++ quotedChars body
  | .tail octets e => e.message octets ++ " in " ++ quotedChars body
  | .manyColons => "At most 8 colons permitted in " ++ quotedChars body
  | .manyGaps => "At most one '::' permitted in " ++ quotedChars body
  | .leadingColon => "Leading ':' only permitted as part of '::' in " ++ quotedChars body
  | .trailingColon => "Trailing ':' only permitted as part of '::' in " ++ quotedChars body
  | .manyParts => "Expected at most 7 other parts with '::' in " ++ quotedChars body
  | .notEightParts => "Exactly 8 parts expected without '::' in " ++ quotedChars body
  | .notHexadecimal g =>
    "Only hex digits permitted in " ++ quotedChars g ++ " in " ++ quotedChars body
  | .longGroup g => "At most 4 characters permitted in " ++ quotedChars g ++ " in "
    ++ quotedChars body

/-- Checks one group. -/
def checkGroup (g : List Char) : Except Address6Error Unit :=
  if !g.all (fun c => (Text.hexDigitValue? c).isSome) then .error (.notHexadecimal g)
  else if 4 < g.length then .error (.longGroup g)
  else .ok ()

/-- The parts of an address, four octets at its end counted as two groups. -/
def groups (body : List Char) : Except Address6Error (List (List Char)) :=
  let parts := piecesAfter ':' [] body
  if parts.length < 3 then .error .fewParts
  else
    let last := parts.getLastD []
    if last.contains '.' then
      match checkAddress4 last with
      | .error e => .error (.tail last e)
      | .ok () => .ok (parts.dropLast ++ [['0'], ['0']])
    else .ok parts

/-- The places of the parts between the first and the last that are empty. -/
def gaps (parts : List (List Char)) : List Nat :=
  (List.range parts.length).filter fun i =>
    0 < i && i + 1 < parts.length && (parts.getD i []).isEmpty

/-- Checks the parts of an address. -/
def checkParts (parts : List (List Char)) : Except Address6Error Unit :=
  let leads := (parts.headD []).isEmpty
  let trails := (parts.getLastD []).isEmpty
  if 9 < parts.length then .error .manyColons
  else match gaps parts with
    | _ :: _ :: _ => .error .manyGaps
    | [i] =>
      let high := if leads then i - 1 else i
      let low := if trails then parts.length - i - 2 else parts.length - i - 1
      if leads ∧ high ≠ 0 then .error .leadingColon
      else if trails ∧ low ≠ 0 then .error .trailingColon
      else if 8 ≤ high + low then .error .manyParts
      else (parts.take high ++ parts.drop (parts.length - low)).forM checkGroup
    | [] =>
      if parts.length ≠ 8 then .error .notEightParts
      else if leads then .error .leadingColon
      else if trails then .error .trailingColon
      else parts.forM checkGroup

/-- The part of an address in front of its zone. -/
def beforeZone (address : List Char) : List Char := address.takeWhile (· ≠ '%')

/-- Checks an address of eight groups, which may name a zone. -/
def checkAddress6 (address : List Char) : Except Address6Error Unit :=
  let zone := (address.dropWhile (· ≠ '%')).tail
  if address.contains '/' then .error .slash
  else if address.contains '%' ∧ (zone.isEmpty ∨ zone.contains '%') then .error .zone
  else if (beforeZone address).isEmpty then .error .empty
  else do checkParts (← groups (beforeZone address))

end Weblog.Domain
