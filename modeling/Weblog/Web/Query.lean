/-
  Query strings: names and values in the order of the address.

  Pieces are separated by `&` and empty pieces are passed over. A piece without `=` has an empty
  value. A plus sign is a space. Every byte of a query string is one character; escapes among them
  are read as UTF-8.

  A percent sign with two hexadecimal digits stands for a byte; any other percent sign stands for
  itself. The bytes are read as UTF-8, with U+FFFD for what is none. Characters outside ASCII are
  kept, and cut a text into stretches that are read one by one.
-/
import Weblog.Bytes.Utf8
import Weblog.Json.Basic
import Weblog.Text.Hex
import Weblog.Text.Split

namespace Weblog.Percent

/-! ## Reading -/

/-- The bytes of a text with escapes. -/
def toBytes : List Char → Bytes
  | '%' :: a :: b :: rest =>
    match Text.hexDigitValue? a, Text.hexDigitValue? b with
    | some x, some y => Bytes.byte (16 * x + y) :: toBytes rest
    | _, _ => Bytes.utf8Char '%' ++ toBytes (a :: b :: rest)
  | c :: cs => Bytes.utf8Char c ++ toBytes cs
  | [] => []

/-- The text that a text with escapes stands for. -/
def decode (cs : List Char) : String := Bytes.toTextLossy (toBytes cs)

def isAscii (c : Char) : Bool := c.toNat < 0x80

/-- The text that a text with escapes stands for, stretch by stretch. -/
def decodeStretches (cs : List Char) : String :=
  String.join ((cs.splitBy fun a b => isAscii a == isAscii b).map fun stretch =>
    if stretch.all isAscii then decode stretch else String.ofList stretch)

/-! ## Writing -/

/-- Characters that stand for themselves everywhere. -/
def isUnreserved (c : Char) : Bool := c.isAlphanum || "_.-~".toList.contains c

/-- Characters that stand for themselves in a whole address. -/
def isPlain (c : Char) : Bool := isUnreserved c || ":/%#?=@[]!$&'()*+,;".toList.contains c

/-- A byte as an escape. -/
def escape (b : UInt8) : List Char := '%' :: (Text.hexPadded 2 b.toNat).map Char.toUpper

/-- A text with escapes for all characters that do not stand for themselves. -/
def encodeWith (plain : Char → Bool) (s : String) : String :=
  String.ofList (s.toList.flatMap fun c =>
    if plain c then [c] else (Bytes.utf8Char c).flatMap escape)

/-- A whole address with escapes for all characters that need them. -/
def encode (s : String) : String := encodeWith isPlain s

end Weblog.Percent

namespace Weblog

/-- The parameters of a request in order, with repetitions. -/
abbrev Query := List (String × String)

namespace Query

/-- A name or a value. -/
def component (cs : List Char) : String :=
  Percent.decodeStretches (cs.map fun c => if c = '+' then ' ' else c)

/-- The name and the value of a piece. -/
def parameter (piece : List Char) : String × String :=
  (component (piece.takeWhile (· ≠ '=')), component (piece.dropWhile (· ≠ '=')).tail)

/-- The characters of a query string, one for each byte. -/
def byteChars (s : String) : List Char := (Bytes.ofText s).map fun b => Char.ofNat b.toNat

/-- The parameters of a query string. -/
def ofText (s : String) : Query :=
  ((Text.splitAll '&' (byteChars s)).filter (!·.isEmpty)).map parameter

/-- The last value of a name. -/
def last? (q : Query) (name : String) : Option String := q.reverse.lookup name

/-- The parameters as an object: of a repeated name the last value, at the first place. -/
def toJson (q : Query) : Json :=
  .obj (q.foldl (fun fields p => Json.put fields p.1 (.str p.2)) [])

end Query

end Weblog
