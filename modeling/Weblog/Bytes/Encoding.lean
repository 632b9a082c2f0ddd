/-
  The encoding of JSON bytes: UTF-8, UTF-16 or UTF-32, told by a byte order mark or by where the
  zero bytes of the first characters stand. Halves of surrogate pairs that stand alone are let
  through as U+FFFD.
-/
import Weblog.Bytes.Utf8

namespace Weblog.Bytes

/-- The order of the bytes of a unit. -/
inductive Order
  | bigEndian
  | littleEndian
deriving DecidableEq, Repr

/-- An encoding of text. -/
inductive Encoding
  | utf8
  | utf16 (order : Order)
  | utf32 (order : Order)
deriving DecidableEq, Repr

/-- The encoding of some bytes and the bytes after a byte order mark. -/
def detect (bs : Bytes) : Encoding × Bytes :=
  match bs with
  | 0x00 :: 0x00 :: 0xFE :: 0xFF :: rest => (.utf32 .bigEndian, rest)
  | 0xFF :: 0xFE :: 0x00 :: 0x00 :: rest => (.utf32 .littleEndian, rest)
  | 0xFE :: 0xFF :: rest => (.utf16 .bigEndian, rest)
  | 0xFF :: 0xFE :: rest => (.utf16 .littleEndian, rest)
  | 0xEF :: 0xBB :: 0xBF :: rest => (.utf8, rest)
  | a :: b :: c :: d :: _ =>
    if a = 0 then (if b = 0 then .utf32 .bigEndian else .utf16 .bigEndian, bs)
    else if b = 0 then
      (if c = 0 ∧ d = 0 then .utf32 .littleEndian else .utf16 .littleEndian, bs)
    else (.utf8, bs)
  | [a, b] =>
    if a = 0 then (.utf16 .bigEndian, bs)
    else if b = 0 then (.utf16 .littleEndian, bs)
    else (.utf8, bs)
  | _ => (.utf8, bs)

/-- The units of two bytes; `none` when a byte is left over. -/
def units16? (order : Order) : Bytes → Option (List Nat)
  | [] => some []
  | [_] => none
  | a :: b :: bs =>
    let unit := match order with
      | .bigEndian => a.toNat * 0x100 + b.toNat
      | .littleEndian => b.toNat * 0x100 + a.toNat
    (units16? order bs).map (unit :: ·)

/-- The units of four bytes; `none` when bytes are left over. -/
def units32? (order : Order) : Bytes → Option (List Nat)
  | [] => some []
  | a :: b :: c :: d :: bs =>
    let unit := match order with
      | .bigEndian => ((a.toNat * 0x100 + b.toNat) * 0x100 + c.toNat) * 0x100 + d.toNat
      | .littleEndian => ((d.toNat * 0x100 + c.toNat) * 0x100 + b.toNat) * 0x100 + a.toNat
    (units32? order bs).map (unit :: ·)
  | _ => none

/-- The characters of UTF-16 units. -/
def chars16 : List Nat → List Char
  | [] => []
  | [a] => [charOf a]
  | a :: b :: rest =>
    if 0xD800 ≤ a ∧ a < 0xDC00 ∧ 0xDC00 ≤ b ∧ b < 0xE000 then
      Char.ofNat (0x10000 + (a - 0xD800) * 0x400 + (b - 0xDC00)) :: chars16 rest
    else charOf a :: chars16 (b :: rest)

/-- The text that JSON bytes encode. -/
def jsonChars? (bs : Bytes) : Option (List Char) :=
  match detect bs with
  | (.utf8, rest) => toChars? true rest
  | (.utf16 order, rest) => (units16? order rest).map chars16
  | (.utf32 order, rest) =>
    (units32? order rest).bind fun us => us.mapM fun n => if n < 0x110000 then some (charOf n) else none

end Weblog.Bytes
