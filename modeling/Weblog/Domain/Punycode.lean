/-
  Punycode: code points outside ASCII written in ASCII.

  The ASCII characters come first; after a hyphen, each other character is a number that says how
  far the next insertion lies from the one before. Numbers are written in base 36 with the lowest
  digit first, and a digit below its threshold ends a number.
-/

namespace Weblog.Domain.Punycode

/-! ## Digits and thresholds -/

/-- The digit of a number below 36. -/
def digitChar (d : Nat) : Char :=
  if d < 26 then Char.ofNat ('a'.toNat + d) else Char.ofNat ('0'.toNat + (d - 26))

/-- The value of a digit, in either case. -/
def digitValue? (c : Char) : Option Nat :=
  if 'a' ≤ c ∧ c ≤ 'z' then some (c.toNat - 'a'.toNat)
  else if 'A' ≤ c ∧ c ≤ 'Z' then some (c.toNat - 'A'.toNat)
  else if '0' ≤ c ∧ c ≤ '9' then some (c.toNat - '0'.toNat + 26)
  else none

/-- The threshold of a digit: `position` is 36 for the lowest digit, 72 for the next, and so
on. -/
def threshold (position bias : Nat) : Nat :=
  if position ≤ bias + 1 then 1 else if bias + 26 ≤ position then 26 else position - bias

theorem threshold_pos (position bias : Nat) : 1 ≤ threshold position bias := by
  unfold threshold
  split
  · omega
  · split <;> omega

theorem threshold_le (position bias : Nat) : threshold position bias ≤ 26 := by
  unfold threshold
  split
  · omega
  · split <;> omega

/-- Divides a distance until it is at most 455, and counts the steps in units of 36. -/
def shrink (delta steps : Nat) : Nat × Nat :=
  if 455 < delta then shrink (delta / 35) (steps + 36) else (delta, steps)
termination_by delta

/-- The bias after a distance; `count` is the number of characters then present. -/
def adapt (delta count : Nat) (first : Bool) : Nat :=
  let d := if first then delta / 700 else delta / 2
  let (d, steps) := shrink (d + d / count) 0
  steps + 36 * d / (d + 38)

/-! ## Writing -/

/-- The digits of a distance. -/
def writeNumber (bias position q : Nat) : List Char :=
  let t := threshold position bias
  if q < t then [digitChar q]
  else digitChar (t + (q - t) % (36 - t)) :: writeNumber bias (position + 36) ((q - t) / (36 - t))
termination_by q
decreasing_by
  have h1 := threshold_pos position bias
  have h2 := Nat.div_le_self (q - threshold position bias) (36 - threshold position bias)
  omega

/-- How far the writing has come: the distance since the last insertion, the bias, the number of
characters written, and the digits, last one first. -/
structure Progress where
  delta : Nat
  bias : Nat
  count : Nat
  out : List Char

/-- Passes over the text once and inserts the code point `m` wherever it stands. -/
def insertAll (basic m : Nat) : List Nat → Progress → Progress
  | [], p => p
  | n :: ns, p =>
    if n < m then insertAll basic m ns { p with delta := p.delta + 1 }
    else if n = m then
      insertAll basic m ns ⟨0, adapt p.delta (p.count + 1) (p.count == basic), p.count + 1,
        (writeNumber p.bias 36 p.delta).reverse ++ p.out⟩
    else insertAll basic m ns p

/-- Inserts code points in ascending order; `next` is the least code point not yet treated. -/
def insertEach (basic : Nat) (text : List Nat) : (codes : List Nat) → (next : Nat) → Progress →
    Progress
  | [], _, p => p
  | m :: ms, next, p =>
    let q := insertAll basic m text { p with delta := p.delta + (m - next) * (p.count + 1) }
    insertEach basic text ms (m + 1) { q with delta := q.delta + 1 }

/-- The code points of a text outside ASCII, ascending and without repetition. -/
def highCodes (ns : List Nat) : List Nat :=
  ((ns.filter (0x80 ≤ ·)).mergeSort (· ≤ ·)).eraseDups

/-- The ASCII form of code points. -/
def encode (ns : List Nat) : List Char :=
  let basic := (ns.filter (· < 0x80)).map Char.ofNat
  let p := insertEach basic.length ns (highCodes ns) 0x80 ⟨0, 72, basic.length, []⟩
  basic ++ (if basic.isEmpty then [] else ['-']) ++ p.out.reverse

/-! ## Reading -/

/-- A number at the front: `weight` is the weight of the next digit and `value` what the digits
so far are worth. -/
def readNumber (bias : Nat) : (position weight value : Nat) → List Char →
    Option (Nat × List Char)
  | _, _, _, [] => none
  | position, weight, value, c :: cs =>
    match digitValue? c with
    | none => none
    | some d =>
      let t := threshold position bias
      if d < t then some (value + d * weight, cs)
      else readNumber bias (position + 36) (weight * (36 - t)) (value + d * weight) cs

/-- The greatest code point. -/
def codeLimit : Nat := 0x10FFFF

/-- Inserts the code points that digits stand for into a text; `next` is where and `code` what
could be inserted at the least. -/
def readInsertions : (fuel : Nat) → (bias code next : Nat) → (first : Bool) → (text : List Nat) →
    (digits : List Char) → Option (List Nat)
  | _, _, _, _, _, text, [] => some text
  | 0, _, _, _, _, _, _ => none
  | f + 1, bias, code, next, first, text, c :: cs =>
    match readNumber bias 36 1 0 (c :: cs) with
    | none => none
    | some (delta, rest) =>
      let count := text.length + 1
      let code := code + (next + delta) / count
      let place := (next + delta) % count
      if code ≤ codeLimit then
        readInsertions f (adapt delta count first) code (place + 1) false
          (text.take place ++ code :: text.drop place) rest
      else none

/-- The code points of an ASCII form, halves of surrogate pairs among them. -/
def decode? (cs : List Char) : Option (List Nat) :=
  let back := cs.reverse
  let digits := (back.takeWhile (· ≠ '-')).reverse
  let basic := ((back.dropWhile (· ≠ '-')).drop 1).reverse
  if basic.all (·.toNat < 0x80) then
    readInsertions digits.length 72 0x80 0 true (basic.map Char.toNat) digits
  else none

end Weblog.Domain.Punycode
