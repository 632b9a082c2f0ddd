/-
  Writing JSON text, compact or indented, in ASCII or with all characters.

  The characters of a written text are told apart by `escapeAscii` and `escapePlain`: both write
  the quote, the backslash and the controls as escapes, and the first writes every character
  outside printable ASCII as one or two `\u` escapes of four digits.
-/
import Weblog.Json.Basic
import Weblog.Number.Numeral
import Weblog.Number.Shortest
import Weblog.Text.Hex

namespace Weblog.Json

/-! ## Texts -/

/-- A code unit as a `\u` escape. -/
def unitEscape (n : Nat) : List Char := '\\' :: 'u' :: Text.hexPadded 4 n

/-- The one-letter escape of a character. -/
def shortEscape? (c : Char) : Option Char :=
  if c = '"' then some '"'
  else if c = '\\' then some '\\'
  else if c = '\n' then some 'n'
  else if c = '\r' then some 'r'
  else if c = '\t' then some 't'
  else if c = '\x08' then some 'b'
  else if c = '\x0c' then some 'f'
  else none

/-- A character in ASCII: outside the basic plane as a surrogate pair. -/
def escapeAscii (c : Char) : List Char :=
  match shortEscape? c with
  | some e => ['\\', e]
  | none =>
    if 0x20 ≤ c.toNat ∧ c.toNat < 0x7F then [c]
    else if c.toNat < 0x10000 then unitEscape c.toNat
    else
      let n := c.toNat - 0x10000
      unitEscape (0xD800 + n / 0x400) ++ unitEscape (0xDC00 + n % 0x400)

/-- A character with only the necessary escapes. -/
def escapePlain (c : Char) : List Char :=
  match shortEscape? c with
  | some e => ['\\', e]
  | none => if c.toNat < 0x20 then unitEscape c.toNat else [c]

/-- How values are written. -/
structure Format where
  escape : Char → List Char
  /-- Spaces per level, and a line for each item; everything on one line without it. -/
  indent : Option Nat

/-- One line, printable ASCII only. -/
def compactAscii : Format := ⟨escapeAscii, none⟩

/-- One line, all characters. -/
def compact : Format := ⟨escapePlain, none⟩

/-- Two spaces per level, printable ASCII and line breaks only. -/
def indentedAscii : Format := ⟨escapeAscii, some 2⟩

def writeText (f : Format) (s : String) : List Char :=
  '"' :: s.toList.flatMap f.escape ++ ['"']

/-! ## Values -/

/-- The text of a floating-point number. -/
def writeFloat : Number.Binary64 → List Char
  | .nan => "NaN".toList
  | .infinite negative => if negative then "-Infinity".toList else "Infinity".toList
  | x => x.text

/-- The break in front of an item or a closing bracket at a level. -/
def lineBreak (f : Format) (level : Nat) : List Char :=
  match f.indent with
  | some width => '\n' :: List.replicate (width * level) ' '
  | none => []

/-- What stands between a name and its value. -/
def colon (f : Format) : List Char := if f.indent.isSome then [':', ' '] else [':']

mutual

/-- A value inside `level` arrays and objects. -/
def writeAt (f : Format) (level : Nat) : Json → List Char
  | .null => "null".toList
  | .bool b => if b then "true".toList else "false".toList
  | .int n => Number.text n
  | .float x => writeFloat x
  | .str s => writeText f s
  | .arr [] => ['[', ']']
  | .arr (v :: vs) =>
    '[' :: lineBreak f (level + 1) ++ writeAt f (level + 1) v ++ writeItems f (level + 1) vs
      ++ lineBreak f level ++ [']']
  | .obj [] => ['{', '}']
  | .obj ((k, v) :: fs) =>
    '{' :: lineBreak f (level + 1) ++ writeText f k ++ colon f ++ writeAt f (level + 1) v
      ++ writeFields f (level + 1) fs ++ lineBreak f level ++ ['}']

/-- The items after the first. -/
def writeItems (f : Format) (level : Nat) : List Json → List Char
  | [] => []
  | v :: vs => ',' :: lineBreak f level ++ writeAt f level v ++ writeItems f level vs

/-- The fields after the first. -/
def writeFields (f : Format) (level : Nat) : List (String × Json) → List Char
  | [] => []
  | (k, v) :: fs =>
    ',' :: lineBreak f level ++ writeText f k ++ colon f ++ writeAt f level v
      ++ writeFields f level fs

end

/-- The text of a value. -/
def write (f : Format) (v : Json) : String := String.ofList (writeAt f 0 v)

/-! ## Numbers that are not finite -/

mutual

/-- Whether every number in a value is finite, so that strict JSON can write it. -/
def isFinite : Json → Bool
  | .float (.finite ..) => true
  | .float _ => false
  | .arr vs => itemsFinite vs
  | .obj fs => fieldsFinite fs
  | _ => true

def itemsFinite : List Json → Bool
  | [] => true
  | v :: vs => isFinite v && itemsFinite vs

def fieldsFinite : List (String × Json) → Bool
  | [] => true
  | (_, v) :: fs => isFinite v && fieldsFinite fs

end

/-! ## Values without a text -/

/-- Why a value has no text. -/
inductive WriteFault
  /-- Arrays and objects stand too deep in each other. -/
  | tooDeep
  /-- A whole number has more digits than a numeral may have. -/
  | numeralTooLong
deriving DecidableEq, Repr

mutual

/-- Checks that a value has a text, in which `room` arrays and objects may stand in each other. The
first fault counts. -/
def checkWrite (room : Nat) : Json → Except WriteFault Unit
  | .int n =>
    if Number.maxDigits < (Number.digits n.natAbs).length then .error .numeralTooLong else .ok ()
  | .arr vs =>
    match room with
    | 0 => .error .tooDeep
    | room + 1 => checkItems room vs
  | .obj fs =>
    match room with
    | 0 => .error .tooDeep
    | room + 1 => checkFields room fs
  | _ => .ok ()

def checkItems (room : Nat) : List Json → Except WriteFault Unit
  | [] => .ok ()
  | v :: vs => do
    checkWrite room v
    checkItems room vs

def checkFields (room : Nat) : List (String × Json) → Except WriteFault Unit
  | [] => .ok ()
  | (_, v) :: fs => do
    checkWrite room v
    checkFields room fs

end

end Weblog.Json
