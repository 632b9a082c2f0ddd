/-
  E-mail addresses: which ones are accepted, and their normal form.

  The part before the at-sign consists of atoms with single periods between them and is kept but
  for canonical composition. The domain is mapped, checked label by label in ASCII and given in
  Unicode. Quoted parts, bracketed addresses and reserved top-level names are refused.
-/
import Weblog.Bytes.Utf8
import Weblog.Domain.Mapping
import Weblog.Domain.Name
import Weblog.Email.Parts

namespace Weblog.Email

/-! ## Periods and hyphens -/

/-- Whether two characters stand side by side. -/
def adjacent (a b : Char) : List Char → Bool
  | c :: d :: cs => (c = a && d = b) || adjacent a b (d :: cs)
  | _ => false

/-- What is wrong with the periods of a text and, in host names, its hyphens. -/
def dotFault? (isHost : Bool) (cs : List Char) : Option DotFault :=
  if cs.getLast? = some '.' then some (.endsWith false)
  else if cs.head? = some '.' then some (.startsWith false)
  else if adjacent '.' '.' cs then some .doublePeriod
  else if !isHost then none
  else if cs.getLast? = some '-' then some (.endsWith true)
  else if cs.head? = some '-' then some (.startsWith true)
  else if adjacent '.' '-' cs || adjacent '-' '.' cs then some .periodAndHyphen
  else none

def checkDots (side : Side) (cs : List Char) : Except Error Unit :=
  match dotFault? (side = .domain) cs with
  | some fault => .error (.dots side fault)
  | none => .ok ()

/-! ## The part before the at-sign -/

/-- A character of an international atom. -/
def isLocalChar (c : Char) : Bool := isAtomChar c || 0x80 ≤ c.toNat

/-- Whether a text consists of atoms with single periods between them. -/
def isDotAtom (p : Char → Bool) (cs : List Char) : Bool :=
  !cs.isEmpty && cs.all (fun c => p c || c = '.') && (dotFault? false cs).isNone

/-- Puts quotes around a text. -/
def requoted (cs : List Char) : List Char :=
  '"' :: cs.flatMap (fun c => if c = '"' ∨ c = '\\' then ['\\', c] else [c]) ++ ['"']

/-- A character that may stand between quotes. -/
def isQuotedChar (c : Char) : Bool :=
  (0x20 ≤ c.toNat && c.toNat ≤ 0x7E) || 0x80 ≤ c.toNat

/-- Checks the part before the at-sign and gives the form in which it is written. -/
def checkLocal (isQuoted : Bool) (cs : List Char) : Except Error (List Char) := do
  if cs.isEmpty then .error .nothingBefore
  else if isDotAtom isAtomChar cs then .ok cs
  else if isDotAtom isLocalChar cs then do
    checkSafe false cs
    .ok cs
  else if isQuoted then do
    let bad := cs.filter (!isQuotedChar ·)
    if !bad.isEmpty then .error (.quotedCharacters bad)
    checkSafe true cs
    .ok (requoted cs)
  else do
    let bad := cs.filter fun c => !isLocalChar c && c ≠ '.'
    if !bad.isEmpty then .error (.localCharacters bad)
    checkDots .localPart cs
    .ok cs

/-- Mailboxes whose names are the same in all cases. -/
def commonMailboxes : List String :=
  ["info", "marketing", "sales", "support", "abuse", "noc", "security", "postmaster", "hostmaster",
    "usenet", "news", "webmaster", "www", "uucp", "ftp"]

/-- The normal form of the part before the at-sign. -/
def normalLocal (isQuoted : Bool) (cs : List Char) : Except Error (List Char) := do
  let written ← checkLocal isQuoted cs
  let composed := Text.normal written
  if composed ≠ written then
    match checkLocal isQuoted composed with
    | .error e => .error (.afterNormalization e)
    | .ok _ => .ok ()
  if isQuoted then .error .quotedLocalPart
  let small := composed.map Char.toLower
  .ok (if commonMailboxes.contains (String.ofList small) then small else composed)

/-! ## The domain -/

/-- A character of an international host name. -/
def isHostChar (c : Char) : Bool := c.isAlphanum || c = '-' || c = '.' || 0x80 ≤ c.toNat

/-- Characters that stand for a text with periods in it, but do not separate labels. -/
def hidesPeriod (c : Char) : Bool :=
  (0x2024 ≤ c.toNat && c.toNat ≤ 0x2026) || (0x2488 ≤ c.toNat && c.toNat ≤ 0x249B)
    || [0x33C2, 0x33C7, 0x33D8, 0xFE19, 0xFE30, 0xFE52, 0x1F100].contains c.toNat

/-- The tag of an address of eight groups, in any case. -/
def groupsTag : List Char := "ipv6:".toList

/-- Checks an address in brackets, which is refused in the end. -/
def bracketFault (cs : List Char) : BracketFault :=
  if !cs.isEmpty && cs.all (fun c => c.isDigit || c = '.') then
    match Domain.checkAddress4 cs with
    | .error e => .octets cs e
    | .ok () => .notPermitted
  else if groupsTag.isPrefixOf (cs.map Char.toLower) then
    let address := cs.drop groupsTag.length
    match Domain.checkAddress6 address with
    | .error e => .groups address e
    | .ok () => .notPermitted
  else if !cs.contains ':' then .noTag
  else
    let bad := cs.filter fun c => !(0x21 ≤ c.toNat && c.toNat ≤ 0xFA)
    if bad.isEmpty then .unknownTag else .characters bad

/-- Whether a label keeps its third and fourth place for hyphens without being encoded. -/
def isReserved (label : List Char) : Bool :=
  (label.drop 2).take 2 = ['-', '-'] && (label.take 2).map Char.toLower ≠ ['x', 'n']

/-- The most bytes of a domain. -/
def domainLimit : Nat := 253

/-- Names that no mail reaches, by themselves and at the end of a domain. -/
def reservedNames : List String := ["arpa", "invalid", "local", "localhost", "onion", "test"]

def isReservedName (ascii : List Char) : Bool :=
  reservedNames.any fun d => ascii = d.toList || ('.' :: d.toList).isSuffixOf ascii

/-- Checks the characters of a domain and maps it. -/
def mapDomain (domain : List Char) : Except Error (List Char) := do
  if domainLimit < domain.length then
    .error (.domainTooLong (domain.length - domainLimit) false)
  let bad := domain.filter fun c => !isHostChar c || hidesPeriod c
  if !bad.isEmpty then .error (.domainCharacters bad)
  checkSafe false domain
  let mapped ← (Domain.map domain).mapError Error.unmappable
  let bad := mapped.filter (!isHostChar ·)
  if !bad.isEmpty then .error (.mappedCharacters bad)
  checkDots .domain mapped
  if (Domain.labels mapped).any isReserved then .error .reservedHyphens
  .ok mapped

/-- Checks the ASCII form of a domain that was given as `domain`. -/
def checkAscii (domain ascii : List Char) : Except Error Unit := do
  if domainLimit < ascii.length then
    .error (.domainTooLong (ascii.length - domainLimit) (ascii ≠ domain))
  match (Domain.labels ascii).find? fun l => Domain.labelLimit < l.length with
  | some l => .error (.labelTooLong (l.length - Domain.labelLimit))
  | none => pure ()
  if !ascii.contains '.' then .error .noPeriod
  if !(ascii.getLast?.map Char.isAlpha).getD false then .error .badTopLevel
  if isReservedName ascii then .error .reservedName

/-- The Unicode form and the ASCII form of a domain. -/
def normalDomain (domain : List Char) : Except Error (List Char × List Char) := do
  let mapped ← mapDomain domain
  let ascii ←
    if mapped.all Domain.isAscii then pure mapped
    else (Domain.asciiLabels mapped).mapError Error.badLabel
  checkAscii domain ascii
  let unicode ← (Domain.toUnicode ascii).mapError Error.notDecodable
  checkSafe false unicode
  discard ((Domain.toAscii unicode).mapError Error.notReencodable)
  .ok (unicode, ascii)

/-! ## The whole address -/

/-- The most bytes of an address. -/
def addressLimit : Nat := 254

/-- Checks the length of one form of an address. -/
def checkLength (form : Form) (cs : List Char) : Except Error Unit :=
  let bytes := (Bytes.utf8 cs).length
  let excess := bytes - addressLimit
  if bytes ≤ addressLimit then .ok ()
  else
    let widest := (cs.map fun c => (Bytes.utf8Char c).length).foldl max 1
    .error (.tooLong form (if cs.length = bytes then excess else max 1 (excess / widest)) excess)

/-- The address of two parts. -/
def join (localPart domain : List Char) : List Char := localPart ++ '@' :: domain

/-- The normal form of an address without a name. -/
def normalAddress (cs : List Char) : Except Error (List Char) := do
  let p ← parts cs
  let localPart ← normalLocal p.quotedLocal p.localPart
  if p.domain.isEmpty then .error .nothingAfter
  if p.domain.head? = some '[' ∧ p.domain.getLast? = some ']' then
    .error (.bracket (bracketFault (p.domain.tail.dropLast)))
  let (unicode, ascii) ← normalDomain p.domain
  checkLength .given (join p.localPart p.domain)
  checkLength .normalized (join localPart unicode)
  checkLength .ascii (join localPart ascii)
  if p.named then .error .nameNotPermitted
  .ok (join localPart unicode)

/-! ## Addresses with names -/

/-- Whether a character may stand in a name in front of angle brackets without quotes. -/
def isNameChar (c : Char) : Bool :=
  isAtomChar c || c = '.' || (0x80 ≤ c.toNat && Text.category c = .letterOrNumber)

/-- What stands between the angle bracket at the front and the last one, with nothing but blanks
behind it. -/
def bracketed? (cs : List Char) : Option (List Char) :=
  match cs with
  | '<' :: rest =>
    match (rest.reverse.dropWhile Text.isBlankChar) with
    | '>' :: inner =>
      if inner.isEmpty then none else some inner.reverse
    | _ => none
  | _ => none

/-- What angle brackets hold behind the last closing quote that they directly follow; `seen`
tells whether something stands between the quotes. -/
def quotedName? (seen : Bool) : List Char → Option (List Char)
  | [] => none
  | c :: cs =>
    match quotedName? true cs with
    | some inner => some inner
    | none => if c = '"' ∧ seen then bracketed? (cs.dropWhile Text.isBlankChar) else none

/-- The address inside `name <address>`, where the name may be quoted or missing. -/
def inBrackets? (cs : List Char) : Option (List Char) :=
  let plain := cs.dropWhile fun c => isNameChar c || Text.isBlankChar c
  match bracketed? plain with
  | some inner => some inner
  | none =>
    match cs.dropWhile Text.isBlankChar with
    | '"' :: rest => quotedName? false rest
    | _ => none

/-- The most characters of a text that is read as an address. -/
def readLimit : Nat := 2048

/-- The normal form of an address, with or without a name. -/
def normalForm (s : String) : Except Error String :=
  let cs := s.toList
  if readLimit < cs.length then .error .tooLongToRead
  else if cs.contains '\r' || cs.contains '\n' then .error .lineBreak
  else
    let address := Text.trimBoth Text.isBlankChar ((inBrackets? cs).getD cs)
    (normalAddress address).map String.ofList

end Weblog.Email
