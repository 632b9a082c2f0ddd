/-
  Base64 with the URL alphabet: written without padding, read leniently.

  The lenient reading passes over every byte outside the alphabet, takes `+` and `/` for `-` and
  `_`, and ends at padding that completes a group of four.
-/
import Weblog.Bytes.Utf8

namespace Weblog.Bytes.Base64Url

/-! ## Writing -/

/-- The character of a number below 64. -/
def digit (n : Nat) : Char :=
  if n < 26 then Char.ofNat ('A'.toNat + n)
  else if n < 52 then Char.ofNat ('a'.toNat + (n - 26))
  else if n < 62 then Char.ofNat ('0'.toNat + (n - 52))
  else if n = 62 then '-'
  else '_'

/-- The text of bytes, three at a time. -/
def encode : Bytes → List Char
  | [] => []
  | [a] => [digit (a.toNat / 4), digit (a.toNat % 4 * 16)]
  | [a, b] =>
    [digit (a.toNat / 4), digit (a.toNat % 4 * 16 + b.toNat / 16), digit (b.toNat % 16 * 4)]
  | a :: b :: c :: rest =>
    digit (a.toNat / 4) :: digit (a.toNat % 4 * 16 + b.toNat / 16)
      :: digit (b.toNat % 16 * 4 + c.toNat / 64) :: digit (c.toNat % 64) :: encode rest

/-! ## Reading -/

/-- The number of a byte of the alphabet. -/
def value? (b : UInt8) : Option Nat :=
  let n := b.toNat
  if 'A'.toNat ≤ n ∧ n ≤ 'Z'.toNat then some (n - 'A'.toNat)
  else if 'a'.toNat ≤ n ∧ n ≤ 'z'.toNat then some (n - 'a'.toNat + 26)
  else if '0'.toNat ≤ n ∧ n ≤ '9'.toNat then some (n - '0'.toNat + 52)
  else if n = '-'.toNat ∨ n = '+'.toNat then some 62
  else if n = '_'.toNat ∨ n = '/'.toNat then some 63
  else none

/-- Where a reading stands inside a group of four: the number of digits read, the bits of the
last one that are not yet part of a byte, and the padding seen since. -/
structure Group where
  digits : Nat
  bits : Nat
  pads : Nat

/-- The bytes of the digits that are left; `none` unless the last group is complete. -/
def decodeFrom (g : Group) : Bytes → Option Bytes
  | [] => if g.digits = 0 then some [] else none
  | b :: bs =>
    if b.toNat = '='.toNat then
      if 2 ≤ g.digits ∧ 4 ≤ g.digits + g.pads + 1 then some []
      else decodeFrom { g with pads := if 2 ≤ g.digits then g.pads + 1 else g.pads } bs
    else match value? b with
      | none => decodeFrom g bs
      | some v =>
        match g.digits with
        | 0 => decodeFrom ⟨1, v, 0⟩ bs
        | 1 => (decodeFrom ⟨2, v % 16, 0⟩ bs).map (byte (g.bits * 4 + v / 16) :: ·)
        | 2 => (decodeFrom ⟨3, v % 4, 0⟩ bs).map (byte (g.bits * 16 + v / 4) :: ·)
        | _ => (decodeFrom ⟨0, 0, 0⟩ bs).map (byte (g.bits * 64 + v) :: ·)

/-- The bytes filled up with padding to a whole number of groups. -/
def padded (bs : Bytes) : Bytes :=
  match bs.length % 4 with
  | 0 => bs
  | r => bs ++ List.replicate (4 - r) (byte '='.toNat)

/-- The bytes that a text without padding stands for. -/
def decode? (bs : Bytes) : Option Bytes := decodeFrom ⟨0, 0, 0⟩ (padded bs)

end Weblog.Bytes.Base64Url
