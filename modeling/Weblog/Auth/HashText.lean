/-
  The text of a password hash: `$2b$`, a cost of two digits, `$`, 22 characters of salt and 31 of
  digest.

  Each character stands for six bits; the bits that fill up the last character of the salt and of
  the digest count for nothing. The first mark has four accepted forms. The oldest, `$2$`, knows
  no end of the password: it goes on with the password from its start.
-/
import Weblog.Bytes.Blowfish
import Weblog.Number.Numeral

namespace Weblog

/-- A password hash that was read from its text. -/
structure HashText where
  /-- Whether the password is repeated instead of ended. -/
  repeats : Bool
  cost : Nat
  salt : Bytes
  digest : Bytes
deriving DecidableEq, Repr

namespace HashText

/-- Why a text with the mark of a hash is none. -/
inductive Malformed
  /-- The mark of a form that is not checked. -/
  | badMark
  | noSeparator
  | manySeparators
  | badCost (text : String) (e : Number.NumeralError)
  /-- The cost is not written in two digits. -/
  | costForm
  | digestLength
  | digestCharacter
  | saltCharacter
  | shortSalt
  | costTooLow (cost : Int)
  | costTooHigh (cost : Int)
  | noDigest
deriving DecidableEq, Repr

/-- The least and the greatest cost. -/
def minCost : Nat := 4

def maxCost : Nat := 31

/-- The characters of a salt. -/
def saltLength : Nat := 22

/-- The characters of a digest. -/
def digestLength : Nat := 31

/-- The words for a malformed hash. -/
def Malformed.message : Malformed → String
  | .badMark => "crypt_blowfish's buggy '2x' hashes are not currently supported"
  | .noSeparator => "not enough values to unpack (expected 2, got 1)"
  | .manySeparators => "too many values to unpack (expected 2)"
  | .badCost text e => e.message text
  | .costForm => "malformed bcrypt hash (malformed cost field)"
  | .digestLength => "malformed bcrypt hash (checksum must be exactly 31 chars)"
  | .digestCharacter => "invalid characters in bcrypt checksum"
  | .saltCharacter => "invalid characters in bcrypt salt"
  | .shortSalt => "salt too small (bcrypt requires exactly 22 chars)"
  | .costTooLow n =>
    "bcrypt: rounds (" ++ String.ofList (Number.text n) ++ ") is too low, must be at least "
      ++ String.ofList (Number.digits minCost)
  | .costTooHigh n =>
    "bcrypt: rounds (" ++ String.ofList (Number.text n) ++ ") is too large, cannot be more than "
      ++ String.ofList (Number.digits maxCost)
  | .noDigest => "expected bcrypt hash, got bcrypt config string instead"

/-! ## Reading -/

/-- The form of a hash and what follows its mark; `none` for a text that is no hash. -/
def splitMark : List Char → Option (Char × List Char)
  | '$' :: '2' :: '$' :: cs => some ('$', cs)
  | '$' :: '2' :: form :: '$' :: cs => if "axyb".toList.contains form then some (form, cs) else none
  | _ => none

/-- The six bits that a character stands for. -/
def sextet? (c : Char) : Option Nat :=
  if c = '.' then some 0
  else if c = '/' then some 1
  else if 'A' ≤ c ∧ c ≤ 'Z' then some (c.toNat - 'A'.toNat + 2)
  else if 'a' ≤ c ∧ c ≤ 'z' then some (c.toNat - 'a'.toNat + 28)
  else if '0' ≤ c ∧ c ≤ '9' then some (c.toNat - '0'.toNat + 54)
  else none

/-- The whole bytes in groups of six bits. -/
def bytesOf : List Nat → Bytes
  | a :: b :: c :: d :: rest =>
    Bytes.byte (4 * a + b / 16) :: Bytes.byte (b % 16 * 16 + c / 4)
      :: Bytes.byte (c % 4 * 64 + d) :: bytesOf rest
  | [a, b, c] => [Bytes.byte (4 * a + b / 16), Bytes.byte (b % 16 * 16 + c / 4)]
  | [a, b] => [Bytes.byte (4 * a + b / 16)]
  | _ => []

/-- The bytes that characters stand for. -/
def readBytes? (cs : List Char) : Option Bytes := (cs.mapM sextet?).map bytesOf

/-- A cost in at least two digits. -/
def readCost (cs : List Char) : Except Malformed Int :=
  let s := String.ofList cs
  match Number.readNumeral s with
  | .error e => .error (.badCost s e)
  | .ok n =>
    let shown := if 0 ≤ n then Number.padded 2 n.toNat else Number.text n
    if cs = shown then .ok n else .error .costForm

/-- The bytes of a digest, empty if there is none. -/
def readDigest (cs : List Char) : Except Malformed Bytes :=
  if cs.isEmpty then .ok []
  else if cs.length ≠ digestLength then .error .digestLength
  else match readBytes? cs with
    | some bytes => .ok bytes
    | none => .error .digestCharacter

/-- The bytes of a salt. -/
def readSalt (cs : List Char) : Except Malformed Bytes :=
  match readBytes? cs with
  | none => .error .saltCharacter
  | some bytes => if cs.length < saltLength then .error .shortSalt else .ok bytes

/-- The hash of a form whose text after the mark is given. The cost is read first, and its bounds
are looked at after digest and salt. -/
def readAfter (form : Char) (cs : List Char) : Except Malformed HashText := do
  if form = 'x' then .error .badMark
  match cs.count '$' with
  | 0 => .error .noSeparator
  | 1 =>
    let cost ← readCost (cs.takeWhile (· ≠ '$'))
    let data := (cs.dropWhile (· ≠ '$')).tail
    let digest ← readDigest (data.drop saltLength)
    let salt ← readSalt (data.take saltLength)
    if cost < minCost then .error (.costTooLow cost)
    else if maxCost < cost then .error (.costTooHigh cost)
    else if digest.isEmpty then .error .noDigest
    else .ok ⟨form = '$', cost.toNat, salt, digest⟩
  | _ => .error .manySeparators

/-- The hash that a text writes; `none` if it does not have the mark of a hash. -/
def read? (s : String) : Option (Except Malformed HashText) :=
  (splitMark s.toList).map fun (form, cs) => readAfter form cs

/-! ## Checking -/

/-- The bytes of a password that a hash depends on, with the zero that ends the password. -/
def keyBytes (h : HashText) (password : Bytes) (count : Nat) : Bytes :=
  if h.repeats && !password.isEmpty then ((List.replicate count password).flatten).take count
  else (password ++ [0]).take count

/-- Whether the first bytes of a password have the digest of a hash. -/
def fits (h : HashText) (password : Bytes) (count : Nat) : Bool :=
  Bytes.Blowfish.digest h.cost h.salt (h.keyBytes password count) == h.digest

end HashText

end Weblog
