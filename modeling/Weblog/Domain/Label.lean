/-
  The labels of domain names: which ones are valid, and their ASCII and Unicode forms.

  A valid label is in normal form, keeps hyphens away from its ends and from its third and fourth
  place, does not begin with a mark, holds only characters that are valid where they stand, and
  keeps to the rules for writing directions. A label with other characters than ASCII is written
  in ASCII as `xn--` and its punycode. What is decoded from there is a list of code points.
-/
import Weblog.Domain.Error
import Weblog.Domain.LabelTable
import Weblog.Domain.Punycode
import Weblog.Text.Direction
import Weblog.Text.Normal

namespace Weblog.Domain

def isAscii (c : Char) : Bool := c.toNat < 0x80

/-- The code points of a text. -/
def codes (cs : List Char) : List Nat := cs.map Char.toNat

/-- The character of a code point. For half of a surrogate pair a private one stands in, which is
treated alike in all that follows. -/
def standIn (n : Nat) : Char := if h : n.isValidChar then Char.ofNatAux n h else '\ue000'

/-! ## Characters in their context -/

/-- Whether characters can join a joiner from one side: past the transparent ones, the nearest
character joins with the given label or on both sides. -/
def joinsFrom (label : Char) (cs : List Char) : Bool :=
  match cs.dropWhile fun c => joiningRuns.label? c.toNat = some 't' with
  | [] => false
  | c :: _ => joiningRuns.label? c.toNat = some label || joiningRuns.label? c.toNat = some 'h'

/-- The combining class of characters that vowels are cut off with. -/
def virama : Nat := 9

/-- Whether a joiner may stand after `before` (nearest first) and in front of `after`: behind a
virama, or between characters that it keeps apart. -/
def joinerFits (c : Char) (before after : List Char) : Bool :=
  (before.head?.map Text.combiningClass) = some virama
    || (c = '\u200c' && joinsFrom 'l' before && joinsFrom 'r' after)

def isArabicDigit (c : Char) : Bool := 0x660 ≤ c.toNat && c.toNat ≤ 0x669

def isExtendedDigit (c : Char) : Bool := 0x6F0 ≤ c.toNat && c.toNat ≤ 0x6F9

/-- Whether a character that is valid in a context only may stand after `before` (nearest first)
and in front of `after`. -/
def contextFits (c : Char) (before after : List Char) : Bool :=
  let label := before.reverse ++ c :: after
  if c = '\u00b7' then before.head? = some 'l' && after.head? = some 'l'
  else if c = '\u0375' then (after.head?.map fun d => greekRanges.has d.toNat).getD false
  else if c = '\u05f3' ∨ c = '\u05f4' then
    (before.head?.map fun d => hebrewRanges.has d.toNat).getD false
  else if c = '\u30fb' then
    label.any fun d => d ≠ c && (hiraganaRanges.has d.toNat || katakanaRanges.has d.toNat
      || hanRanges.has d.toNat)
  else if isArabicDigit c then !label.any isExtendedDigit
  else if isExtendedDigit c then !label.any isArabicDigit
  else false

/-- Ideographs that go without a name. -/
def namelessRanges : Text.Ranges := [(0x17000, 0x187F7), (0x18D00, 0x18D08)]

/-- Whether a code point has no character, or one without a name. -/
def isNameless (c : Char) : Bool :=
  Text.direction c = .unknown || namelessRanges.has c.toNat

/-- Where characters may stand in labels. -/
inductive Standing
  | anywhere
  /-- Between characters that it joins or keeps apart. -/
  | joining
  | inContext
  | nowhere
deriving DecidableEq, Repr

def Standing.ofLabel : Option Char → Standing
  | some 'p' => .anywhere
  | some 'j' => .joining
  | some 'o' => .inContext
  | _ => .nowhere

def standing (c : Char) : Standing := .ofLabel (labelRuns.label? c.toNat)

/-- Checks a character of some standing after `before`, nearest first, and in front of `after`. -/
def checkCharacter (label : List Nat) (before after : List Char) (c : Char) :
    Standing → Except Error Unit
  | .anywhere => .ok ()
  | .joining =>
    if before.head?.any isNameless then .error (.strangeNeighbour (before.length + 1) label)
    else if joinerFits c before after then .ok ()
    else .error (.refusedJoiner (before.length + 1) label)
  | .inContext =>
    if contextFits c before after then .ok ()
    else .error (.refusedInContext (before.length + 1) label)
  | .nowhere => .error (.refusedInLabel (before.length + 1) label)

/-- Checks the characters of a label after `before`, nearest first. -/
def checkCharacters (label : List Nat) (before : List Char) : List Char → Except Error Unit
  | [] => .ok ()
  | c :: cs => do
    checkCharacter label before cs c (standing c)
    checkCharacters label (c :: before) cs

/-! ## Writing directions -/

/-- The position of the first character whose direction is not among the given ones. -/
def firstOutside (allowed : List Text.Direction) (position : Nat) : List Text.Direction →
    Option Nat
  | [] => none
  | d :: ds => if allowed.contains d then firstOutside allowed (position + 1) ds else some position

/-- Whether the last direction, marks aside, is among the given ones. -/
def endsIn (allowed ds : List Text.Direction) : Bool :=
  match ds.reverse.dropWhile (· = .mark) with
  | [] => false
  | d :: _ => allowed.contains d

/-- The position at which a second kind of numerals appears; `seen` is the first kind. -/
def secondNumerals (seen : Option Text.Direction) (position : Nat) : List Text.Direction →
    Option Nat
  | [] => none
  | d :: ds =>
    if d = .arabicNumber ∨ d = .europeanNumber then
      if seen = none ∨ seen = some d then secondNumerals (some d) (position + 1) ds
      else some position
    else secondNumerals seen (position + 1) ds

/-- Checks the directions in a label of a name that holds characters written from right to left. -/
def checkMixed (label : List Nat) (ds : List Text.Direction) : Except Error Unit :=
  match ds with
  | [] => .ok ()
  | first :: _ =>
    if first = .right ∨ first = .arabicLetter then
      let outside := firstOutside
        [.right, .arabicLetter, .arabicNumber, .europeanNumber, .neutral, .mark] 1 ds
      let mixed := secondNumerals none 1 ds
      match outside, mixed with
      | some i, some j => if i < j then .error (.badDirection i true) else .error .mixedNumerals
      | some i, none => .error (.badDirection i true)
      | none, some _ => .error .mixedNumerals
      | none, none =>
        if endsIn [.right, .arabicLetter, .europeanNumber, .arabicNumber] ds then .ok ()
        else .error .badLastDirection
    else if first = .left then
      match firstOutside [.left, .europeanNumber, .neutral, .mark] 1 ds with
      | some i => .error (.badDirection i false)
      | none => if endsIn [.left, .europeanNumber] ds then .ok () else .error .badLastDirection
    else .error (.badFirstDirection label)

/-- The directions in a label, all of which must be known. -/
def directions (label : List Nat) : Except Error (List Text.Direction) :=
  let ds := label.map fun n => Text.direction (standIn n)
  match ds.findIdx? (· = .unknown) with
  | some i => .error (.unknownDirection (i + 1) label)
  | none => .ok ds

/-- Whether some of the directions lead from right to left. -/
def isRightToLeft (ds : List Text.Direction) : Bool :=
  ds.any fun d => d = .right || d = .arabicLetter || d = .arabicNumber

/-- Checks the writing directions in a label; `mixed` tells that some label of the name holds
characters written from right to left. -/
def checkDirections (mixed : Bool) (label : List Nat) : Except Error Unit := do
  let ds ← directions label
  if mixed || isRightToLeft ds then checkMixed label ds

/-! ## Labels -/

/-- The most bytes of a label. -/
def labelLimit : Nat := 63

/-- The most bytes of a domain name with a period at its end. -/
def nameLimit : Nat := 254

/-- Checks a label in Unicode. -/
def checkLabel (mixed : Bool) (codes : List Nat) : Except Error Unit := do
  let label := codes.map standIn
  if nameLimit < label.length then .error .labelTooLong
  if label.isEmpty then .error .emptyLabel
  if Text.normal label ≠ label then .error .notNormal
  if (label.drop 2).take 2 = ['-', '-'] then .error .doubleHyphen
  if label.head? = some '-' ∨ label.getLast? = some '-' then .error .hyphenAtEnd
  if (label.head?.map Text.category) = some .mark then .error .initialMark
  checkCharacters codes [] label
  checkDirections mixed codes

/-- What an encoded label starts with. -/
def encodedMark : List Char := ['x', 'n', '-', '-']

/-- The Unicode form of a label in ASCII, not checked. -/
def decodedLabel (label : List Char) : Except Error (List Nat) := do
  if inputLimit < label.length then .error .labelTooLong
  let label := label.map Char.toLower
  if encodedMark.isPrefixOf label then
    let digits := label.drop encodedMark.length
    if digits.isEmpty then .error .nothingEncoded
    if digits.getLast? = some '-' then .error .hyphenEndsEncoded
    match Punycode.decode? digits with
    | none => .error .undecodable
    | some decoded => if Punycode.encode decoded = digits then .ok decoded else .error .notCanonical
  else .ok (codes label)

/-- The ASCII form of a label. -/
def asciiLabel (label : List Char) : Except Error (List Char) := do
  if inputLimit < label.length then .error .labelTooLong
  let ascii ←
    if label.all isAscii then do
      checkLabel false (← decodedLabel label)
      pure label
    else do
      checkLabel false (codes label)
      pure (encodedMark ++ Punycode.encode (codes label))
  if labelLimit < ascii.length then .error .labelTooLong
  .ok ascii

end Weblog.Domain
