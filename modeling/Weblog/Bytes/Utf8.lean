/-
  UTF-8: the bytes of a text, and the text of bytes.

  Bytes that are no UTF-8 are read in pieces: a first byte with as many of the bytes that it
  announces as are in order. A lossy reading puts U+FFFD for each such piece, a strict one fails, and
tells where the first bad piece stands and what is wrong with it.
-/
import Weblog.Number.Digits
import Weblog.Text.Hex

namespace Weblog

abbrev Bytes := List UInt8

namespace Bytes

/-! ## Writing -/

/-- The byte of a number below 256. -/
def byte (n : Nat) : UInt8 := UInt8.ofNat n

/-- The bytes of a character. -/
def utf8Char (c : Char) : Bytes :=
  let n := c.toNat
  if n < 0x80 then [byte n]
  else if n < 0x800 then [byte (0xC0 + n / 0x40), byte (0x80 + n % 0x40)]
  else if n < 0x10000 then
    [byte (0xE0 + n / 0x1000), byte (0x80 + n / 0x40 % 0x40), byte (0x80 + n % 0x40)]
  else
    [byte (0xF0 + n / 0x40000), byte (0x80 + n / 0x1000 % 0x40), byte (0x80 + n / 0x40 % 0x40),
      byte (0x80 + n % 0x40)]

/-- The bytes of characters. -/
def utf8 (cs : List Char) : Bytes := cs.flatMap utf8Char

/-- The bytes of a text. -/
def ofText (s : String) : Bytes := utf8 s.toList

@[simp] theorem utf8_nil : utf8 [] = [] := rfl

@[simp] theorem utf8_cons (c : Char) (cs : List Char) : utf8 (c :: cs) = utf8Char c ++ utf8 cs :=
  rfl

@[simp] theorem utf8_append (cs ds : List Char) : utf8 (cs ++ ds) = utf8 cs ++ utf8 ds := by
  simp [utf8]

/-! ## Reading -/

/-- What a first byte announces: the number of bytes that follow, the bounds of the first of
them, and the leading bits of the code point. -/
structure Lead where
  follow : Nat
  low : Nat
  high : Nat
  bits : Nat
deriving DecidableEq, Repr

/-- The announcement of a first byte. The bounds keep out longer forms than necessary, code
points past U+10FFFF and, unless `surrogates` is set, the surrogates. -/
def lead? (surrogates : Bool) (b : Nat) : Option Lead :=
  if b < 0x80 then some ⟨0, 0x80, 0xBF, b⟩
  else if b < 0xC2 then none
  else if b < 0xE0 then some ⟨1, 0x80, 0xBF, b - 0xC0⟩
  else if b = 0xE0 then some ⟨2, 0xA0, 0xBF, 0⟩
  else if b = 0xED then some ⟨2, 0x80, if surrogates then 0xBF else 0x9F, 0xD⟩
  else if b < 0xF0 then some ⟨2, 0x80, 0xBF, b - 0xE0⟩
  else if b = 0xF0 then some ⟨3, 0x90, 0xBF, 0⟩
  else if b < 0xF4 then some ⟨3, 0x80, 0xBF, b - 0xF0⟩
  else if b = 0xF4 then some ⟨3, 0x80, 0x8F, 4⟩
  else none

/-- The code point completed by `n` more bytes, the first of them between `low` and `high`, and
what is left after the bytes that are in order. -/
def takeFollow : (n low high bits : Nat) → Bytes → Option Nat × Bytes
  | 0, _, _, v, bs => (some v, bs)
  | _ + 1, _, _, _, [] => (none, [])
  | n + 1, low, high, v, b :: bs =>
    if low ≤ b.toNat ∧ b.toNat ≤ high then takeFollow n 0x80 0xBF (v * 0x40 + b.toNat % 0x40) bs
    else (none, b :: bs)

/-- The code point that starts with a byte, if the bytes are in order, and what is left. -/
def takeCode (surrogates : Bool) (b : UInt8) (bs : Bytes) : Option Nat × Bytes :=
  match lead? surrogates b.toNat with
  | none => (none, bs)
  | some l => takeFollow l.follow l.low l.high l.bits bs

theorem length_takeFollow_le (n low high v : Nat) (bs : Bytes) :
    (takeFollow n low high v bs).2.length ≤ bs.length := by
  induction n generalizing low high v bs with
  | zero => simp [takeFollow]
  | succ n ih =>
    cases bs with
    | nil => simp [takeFollow]
    | cons b bs =>
      rw [takeFollow]
      split
      · exact Nat.le_trans (ih _ _ _ bs) (by simp)
      · simp

theorem length_takeCode_le (s : Bool) (b : UInt8) (bs : Bytes) :
    (takeCode s b bs).2.length ≤ bs.length := by
  unfold takeCode
  split
  · exact Nat.le_refl _
  · exact length_takeFollow_le _ _ _ _ bs

/-- The pieces of bytes: code points, and `none` for each piece that is no UTF-8. -/
def pieces (surrogates : Bool) : Bytes → List (Option Nat)
  | [] => []
  | b :: bs => (takeCode surrogates b bs).1 :: pieces surrogates (takeCode surrogates b bs).2
termination_by bs => bs.length
decreasing_by
  have := length_takeCode_le surrogates b bs
  simp
  omega

/-- The character of a code point; a surrogate has none and gives U+FFFD. -/
def charOf (n : Nat) : Char := if 0xD800 ≤ n ∧ n < 0xE000 then '\uFFFD' else Char.ofNat n

/-- The text of bytes, with U+FFFD for each piece that is no UTF-8. -/
def toTextLossy (bs : Bytes) : String :=
  String.ofList ((pieces false bs).map fun p => (p.map charOf).getD '\uFFFD')

/-- The characters of bytes; `none` unless all are UTF-8. With `surrogates` the bytes of lone
surrogates are let through. -/
def toChars? (surrogates : Bool) (bs : Bytes) : Option (List Char) :=
  (pieces surrogates bs).mapM fun p => p.map charOf

/-! ## What is wrong -/

/-- The first piece that is no UTF-8, with the number of bytes in front of it and whether the
bytes end inside it. -/
def firstBad (position : Nat) : Bytes → Option (Nat × Bytes × Bool)
  | [] => none
  | b :: bs =>
    match _h : takeCode false b bs with
    | (some _, rest) => firstBad (position + ((b :: bs).length - rest.length)) rest
    | (none, rest) =>
      let piece := (b :: bs).take ((b :: bs).length - rest.length)
      some (position, piece, rest.isEmpty && (lead? false b.toNat).isSome)
termination_by bs => bs.length
decreasing_by
  have hle := length_takeCode_le false b bs
  rw [_h] at hle
  simp at hle ⊢
  omega

/-- The words for the first bad piece. -/
def decodeErrorMessage (bs : Bytes) : String :=
  let decimal := fun n => String.ofList (Number.digits n)
  match firstBad 0 bs with
  | none => ""
  | some (start, piece, ends) =>
    let reason :=
      if ends then "unexpected end of data"
      else match piece with
        | b :: _ =>
          if (lead? false b.toNat).isSome then "invalid continuation byte"
          else "invalid start byte"
        | [] => ""
    let place := match piece with
      | [b] =>
        "byte 0x" ++ String.ofList (Text.hexPadded 2 b.toNat) ++ " in position " ++ decimal start
      | _ => "bytes in position " ++ decimal start ++ "-" ++ decimal (start + piece.length - 1)
    "'utf-8' codec can't decode " ++ place ++ ": " ++ reason

end Bytes

end Weblog
