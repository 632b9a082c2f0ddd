/-
  Reading JSON text.

  The reader works on the characters that are left; where it stops, what is left there gives the
  position of the fault. It reads the usual JSON, and `NaN`, `Infinity` and `-Infinity` as well.
  Of a repeated field the last value counts. An escaped half of a surrogate pair without its
  other half has no character of its own and reads as U+FFFD. A reader may limit how deep arrays
  and objects stand in each other: it then reads no further than the first bracket beyond.
-/
import Weblog.Json.Basic
import Weblog.Number.Numeral
import Weblog.Text.Hex

namespace Weblog.Json

/-- A value that holds values. -/
inductive Container
  | array
  | object
deriving DecidableEq, Repr

def Container.text : Container → String
  | .array => "array"
  | .object => "object"

/-- What is wrong with a text that is no JSON. -/
inductive Fault
  | expectedValue
  | expectedName
  | expectedColon
  | expectedComma
  | extraText
  | unterminatedText
  | controlCharacter
  | badEscape
  | badUnicodeEscape
  /-- A whole number with more digits than a numeral may have. -/
  | numeralTooLong
  /-- A container stands too deep in others. -/
  | tooDeep (inner : Container)
deriving DecidableEq, Repr

/-- The words for a fault. -/
def Fault.message : Fault → String
  | .expectedValue => "Expecting value"
  | .expectedName => "Expecting property name enclosed in double quotes"
  | .expectedColon => "Expecting ':' delimiter"
  | .expectedComma => "Expecting ',' delimiter"
  | .extraText => "Extra data"
  | .unterminatedText => "Unterminated string starting at"
  | .controlCharacter => "Invalid control character at"
  | .badEscape => "Invalid \\escape"
  | .badUnicodeEscape => "Invalid \\uXXXX escape"
  | .numeralTooLong => "Numeral too long"
  | .tooDeep inner =>
    "maximum recursion depth exceeded while decoding a JSON " ++ inner.text
      ++ " from a unicode string"

/-- A fault and how many characters were left where it was found. -/
structure Stop where
  fault : Fault
  left : Nat
deriving DecidableEq, Repr

/-- Stops in front of `rest`. -/
def stop {α : Type} (f : Fault) (rest : List Char) : Except Stop α := .error ⟨f, rest.length⟩

/-! ## White space and numbers -/

def isSpace (c : Char) : Bool := c = ' ' || c = '\t' || c = '\n' || c = '\r'

def skipSpace (cs : List Char) : List Char := cs.dropWhile isSpace

def isDigit (c : Char) : Bool := '0' ≤ c && c ≤ '9'

/-- The digits of the whole part: a zero alone, or digits that do not start with a zero. -/
def takeWhole : List Char → List Char × List Char
  | [] => ([], [])
  | c :: cs =>
    if c = '0' then ([c], cs)
    else if isDigit c then (c :: cs.takeWhile isDigit, cs.dropWhile isDigit)
    else ([], c :: cs)

/-- The digits after a point, when a point with a digit follows. -/
def takeFraction : List Char → List Char × List Char
  | '.' :: cs =>
    let ds := cs.takeWhile isDigit
    if ds.isEmpty then ([], '.' :: cs) else (ds, cs.dropWhile isDigit)
  | cs => ([], cs)

/-- The exponent, when a mark with a digit follows. -/
def takeExponent (cs : List Char) : Option Int × List Char :=
  match cs with
  | c :: rest =>
    if c = 'e' ∨ c = 'E' then
      let (negative, after) := Number.takeSign rest
      let ds := after.takeWhile isDigit
      if ds.isEmpty then (none, cs)
      else
        let n : Int := Number.ofDigits ds
        (some (if negative then -n else n), after.dropWhile isDigit)
    else (none, cs)
  | [] => (none, [])

/-- A number at the front. -/
def readNumber (cs : List Char) : Except Stop (Json × List Char) :=
  let (negative, body) := match cs with
    | '-' :: rest => (true, rest)
    | _ => (false, cs)
  let (whole, rest) := takeWhole body
  if whole.isEmpty then stop .expectedValue cs
  else
    let (fraction, rest) := takeFraction rest
    let (exponent, rest) := takeExponent rest
    if fraction.isEmpty ∧ exponent.isNone then
      if Number.maxDigits < whole.length then stop .numeralTooLong cs
      else
        let n : Int := Number.ofDigits whole
        .ok (.int (if negative then -n else n), rest)
    else
      let coefficient := Number.ofDigits (whole ++ fraction)
      let scale : Int := exponent.getD 0 - fraction.length
      .ok (.float (Number.Binary64.ofDecimal negative coefficient scale), rest)

/-! ## Texts -/

/-- The character of a one-letter escape. -/
def escaped? : Char → Option Char
  | '"' => some '"'
  | '\\' => some '\\'
  | '/' => some '/'
  | 'b' => some '\x08'
  | 'f' => some '\x0c'
  | 'n' => some '\n'
  | 'r' => some '\r'
  | 't' => some '\t'
  | _ => none

/-- Four hexadecimal digits at the front that are followed by something. -/
def readHex4 : List Char → Option (Nat × List Char)
  | a :: b :: c :: d :: e :: rest =>
    match Text.hexDigitValue? a, Text.hexDigitValue? b, Text.hexDigitValue? c,
        Text.hexDigitValue? d with
    | some a, some b, some c, some d => some (((a * 16 + b) * 16 + c) * 16 + d, e :: rest)
    | _, _, _, _ => none
  | _ => none

def isHighSurrogate (n : Nat) : Bool := 0xD800 ≤ n && n < 0xDC00

def isLowSurrogate (n : Nat) : Bool := 0xDC00 ≤ n && n < 0xE000

/-- The character of a code unit by itself. -/
def unitChar (n : Nat) : Char :=
  if isHighSurrogate n || isLowSurrogate n then '\uFFFD' else Char.ofNat n

/-- The character of a surrogate pair. -/
def pairChar (high low : Nat) : Char :=
  Char.ofNat (0x10000 + (high - 0xD800) * 0x400 + (low - 0xDC00))

/-- The character of a `\u` escape whose digits are at the front; `start` is the text from the
letter `u` on. -/
def readUnicode (start cs : List Char) : Except Stop (Char × List Char) :=
  match readHex4 cs with
  | none => stop .badUnicodeEscape start
  | some (n, rest) =>
    if isHighSurrogate n then
      match rest with
      | '\\' :: 'u' :: more =>
        if (more.drop 4).isEmpty then .ok (unitChar n, rest)
        else match readHex4 more with
          | none => stop .badUnicodeEscape ('u' :: more)
          | some (m, rest') =>
            if isLowSurrogate m then .ok (pairChar n m, rest') else .ok (unitChar n, rest)
      | _ => .ok (unitChar n, rest)
    else .ok (unitChar n, rest)

/-- The rest of a text after its opening quote; `start` is the text from that quote on and `done`
holds the characters read, last one first. -/
def readText (start : List Char) : (fuel : Nat) → (done cs : List Char) →
    Except Stop (String × List Char)
  | 0, _, _ => stop .unterminatedText start
  | _ + 1, _, [] => stop .unterminatedText start
  | f + 1, done, c :: cs =>
    if c = '"' then .ok (String.ofList done.reverse, cs)
    else if c = '\\' then
      match cs with
      | [] => stop .unterminatedText start
      | e :: rest =>
        if e = 'u' then
          match readUnicode cs rest with
          | .error s => .error s
          | .ok (u, rest) => readText start f (u :: done) rest
        else match escaped? e with
          | some x => readText start f (x :: done) rest
          | none => stop .badEscape (c :: cs)
    else if c.toNat < 0x20 then stop .controlCharacter (c :: cs)
    else readText start f (c :: done) cs

/-! ## Values -/

/-- A fixed word at the front. -/
def readWord (word : String) (value : Json) (cs : List Char) : Except Stop (Json × List Char) :=
  if word.toList.isPrefixOf cs then .ok (value, cs.drop word.length)
  else stop .expectedValue cs

mutual

/-- A value at the front. -/
def readValue : (fuel : Nat) → List Char → Except Stop (Json × List Char)
  | 0, cs => stop .expectedValue cs
  | _ + 1, [] => stop .expectedValue []
  | f + 1, c :: cs =>
    match c with
    | '"' => (readText (c :: cs) f [] cs).map fun r => (.str r.1, r.2)
    | '{' =>
      match skipSpace cs with
      | '}' :: rest => .ok (.obj [], rest)
      | cs => readFields f [] cs
    | '[' =>
      match skipSpace cs with
      | ']' :: rest => .ok (.arr [], rest)
      | cs => readItems f [] cs
    | 'n' => readWord "null" .null (c :: cs)
    | 't' => readWord "true" (.bool true) (c :: cs)
    | 'f' => readWord "false" (.bool false) (c :: cs)
    | 'N' => readWord "NaN" (.float .nan) (c :: cs)
    | 'I' => readWord "Infinity" (.float (.infinite false)) (c :: cs)
    | '-' =>
      if cs.head? = some 'I' then readWord "-Infinity" (.float (.infinite true)) (c :: cs)
      else readNumber (c :: cs)
    | _ => readNumber (c :: cs)

/-- The fields of an object from the next name on, after the fields `done`. -/
def readFields : (fuel : Nat) → List (String × Json) → List Char →
    Except Stop (Json × List Char)
  | 0, _, cs => stop .expectedName cs
  | f + 1, done, cs =>
    match cs with
    | '"' :: rest =>
      match readText cs f [] rest with
      | .error s => .error s
      | .ok (name, rest) =>
        match skipSpace rest with
        | ':' :: rest =>
          match readValue f (skipSpace rest) with
          | .error s => .error s
          | .ok (value, rest) =>
            match skipSpace rest with
            | '}' :: rest => .ok (.obj (put done name value), rest)
            | ',' :: rest => readFields f (put done name value) (skipSpace rest)
            | rest => stop .expectedComma rest
        | rest => stop .expectedColon rest
    | _ => stop .expectedName cs

/-- The items of an array from the next one on; `done` holds the items read, last one first. -/
def readItems : (fuel : Nat) → List Json → List Char → Except Stop (Json × List Char)
  | 0, _, cs => stop .expectedValue cs
  | f + 1, done, cs =>
    match readValue f cs with
    | .error s => .error s
    | .ok (value, rest) =>
      match skipSpace rest with
      | ']' :: rest => .ok (.arr (value :: done).reverse, rest)
      | ',' :: rest => readItems f (value :: done) (skipSpace rest)
      | rest => stop .expectedComma rest

end

/-- A fault and the number of characters in front of it. -/
structure ReadError where
  fault : Fault
  position : Nat
deriving DecidableEq, Repr

/-- The value that makes up the whole of a text, but for white space. Every character takes at
most two steps. -/
def readAll (cs : List Char) : Except Stop Json :=
  match readValue (2 * cs.length + 2) (skipSpace cs) with
  | .error s => .error s
  | .ok (value, rest) =>
    let rest := skipSpace rest
    if rest.isEmpty then .ok value else stop .extraText rest

/-- The value that a text writes. -/
def read (cs : List Char) : Except ReadError Json :=
  match readAll cs with
  | .ok value => .ok value
  | .error s => .error ⟨s.fault, cs.length - s.left⟩

/-! ## Depth -/

/-- The container whose opening bracket is the first to stand in `room` open ones, and the
characters in front of that bracket, of which `before` have been passed; `outside` says whether
the text stands outside of quotes. -/
def tooDeep? (room before : Nat) : (outside : Bool) → List Char → Option (Container × Nat)
  | _, [] => none
  | false, [_] => none
  | false, c :: d :: cs =>
    if c = '\\' then tooDeep? room (before + 2) false cs
    else tooDeep? room (before + 1) (c = '"') (d :: cs)
  | true, c :: cs =>
    if c = '[' ∨ c = '{' then
      match room with
      | 0 => some (if c = '[' then .array else .object, before)
      | room + 1 => tooDeep? room (before + 1) true cs
    else
      let room := if c = ']' ∨ c = '}' then room + 1 else room
      tooDeep? room (before + 1) (c ≠ '"') cs

/-- The value that a text writes whose containers stand at most `limit` deep. A fault in front of
the first bracket that stands deeper counts before that bracket does. -/
def readWithin (limit : Nat) (cs : List Char) : Except ReadError Json :=
  match tooDeep? limit 0 true cs with
  | none => read cs
  | some (inner, position) =>
    match read (cs.take (position + 1)) with
    | .error e => .error (if e.position ≤ position then e else ⟨.tooDeep inner, position⟩)
    | .ok _ => .error ⟨.tooDeep inner, position⟩

end Weblog.Json
