/-
  The shortest decimal text of a floating-point number: the fewest digits that read back as the
  number, and of those the ones nearest to it.
-/
import Weblog.Number.Binary64
import Weblog.Number.Digits

namespace Weblog.Number

/-- A positive decimal number `0.d₁d₂…dₙ * 10 ^ point`, given by its digits as one number. -/
structure Decimal where
  coefficient : Nat
  point : Int
deriving DecidableEq, Repr

namespace Binary64

/-- The fraction `significand * 2 ^ exponent`. -/
def fraction (m : Nat) (e : Int) : Nat × Nat :=
  match e with
  | .ofNat k => (m * Nat.pow 2 k, 1)
  | .negSucc k => (m, Nat.pow 2 (k + 1))

/-- Whether `num / den < 10 ^ k`. -/
def belowPower (num den : Nat) (k : Int) : Bool :=
  match k with
  | .ofNat j => num < den * Nat.pow 10 j
  | .negSucc j => num * Nat.pow 10 (j + 1) < den

/-- The least `k` from `start` on, within `fuel` steps, with `num / den < 10 ^ k`. -/
def pointFrom (num den : Nat) : (fuel : Nat) → (start : Int) → Int
  | 0, k => k
  | f + 1, k => if belowPower num den k then k else pointFrom num den f (k + 1)

/-- The position of the decimal point: the least `k` with `num / den < 10 ^ k`. The binary
logarithm places it within a few steps. -/
def point (num den : Nat) : Int :=
  pointFrom num den 6 (((Nat.log2 num : Int) - Nat.log2 den) * 30103 / 100000 - 1)

/-- The two neighbours of the number on the grid of decimals with `n` digits, the nearer one
first. -/
def neighbours (num den : Nat) (k : Int) (n : Nat) : List Nat :=
  let (a, b) := match (n : Int) - k with
    | .ofNat j => (num * Nat.pow 10 j, den)
    | .negSucc j => (num, den * Nat.pow 10 (j + 1))
  let q := a / b
  let r := a % b
  if 2 * r < b ∨ (2 * r = b ∧ q % 2 = 0) then [q, q + 1] else [q + 1, q]

/-- The first grid, from `n` digits on, with a neighbour that reads back as the number. -/
def shortestFrom (m : Nat) (e : Int) (num den : Nat) (k : Int) : (fuel n : Nat) → Decimal
  | 0, n => ⟨(neighbours num den k n).headD 0, k⟩
  | f + 1, n =>
    match (neighbours num den k n).find? fun c => ofDecimal false c (k - n) = .finite false m e with
    | some c => if c = Nat.pow 10 n then ⟨c / 10, k + 1⟩ else ⟨c, k⟩
    | none => shortestFrom m e num den k f (n + 1)

/-- The shortest decimal that reads back as a positive number. -/
def shortest (m : Nat) (e : Int) : Decimal :=
  let (num, den) := fraction m e
  shortestFrom m e num den (point num den) 16 1

/-! ## Text -/

/-- How a decimal is written: positionally while the point stands within these bounds. -/
structure DecimalStyle where
  leastPoint : Int
  greatestPoint : Int
  exponentDigits : Nat
  /-- Whether a digit follows the point of every mantissa. -/
  alwaysPointed : Bool

/-- Numbers are written positionally from 0.0001 to below 10^16, with at least one digit after
the point, and with an exponent of at least two digits otherwise. -/
def style : DecimalStyle := ⟨-3, 16, 2, false⟩

/-- A positive decimal in a style. -/
def Decimal.write (s : DecimalStyle) (d : Decimal) : List Char :=
  let ds := digits d.coefficient
  if s.leastPoint ≤ d.point ∧ d.point ≤ s.greatestPoint then
    if d.point ≤ 0 then '0' :: '.' :: List.replicate (-d.point).toNat '0' ++ ds
    else
      let p := d.point.toNat
      let whole := ds.take p ++ List.replicate (p - ds.length) '0'
      let rest := ds.drop p
      whole ++ '.' :: (if rest.isEmpty then ['0'] else rest)
  else
    let e := d.point - 1
    let mantissa := match ds with
      | [c] => if s.alwaysPointed then [c, '.', '0'] else [c]
      | c :: rest => c :: '.' :: rest
      | [] => []
    mantissa ++ 'e' :: (if e < 0 then '-' else '+') :: padded s.exponentDigits e.natAbs

/-- The shortest text of a number. -/
def text : Binary64 → List Char
  | .nan => "nan".toList
  | .infinite negative => if negative then "-inf".toList else "inf".toList
  | .finite negative m e =>
    let body := if m = 0 then "0.0".toList else Decimal.write style (shortest m e)
    if negative then '-' :: body else body

/-! ## A fixed number of digits -/

/-- A decimal without zeros at its end, of which there are at most `fuel`. -/
def Decimal.stripped : (fuel : Nat) → Decimal → Decimal
  | 0, d => d
  | f + 1, d => if d.coefficient % 10 = 0 then stripped f ⟨d.coefficient / 10, d.point⟩ else d

/-- The decimal of `n` digits nearest to a positive number, the greater one of two, without zeros
at its end. -/
def nearest (m : Nat) (e : Int) (n : Nat) : Decimal :=
  let (num, den) := fraction m e
  let k := point num den
  let c := match (n : Int) - k with
    | .ofNat j => (2 * num * Nat.pow 10 j + den) / (2 * den)
    | .negSucc j => (2 * num + den * Nat.pow 10 (j + 1)) / (2 * den * Nat.pow 10 (j + 1))
  Decimal.stripped n (if c = Nat.pow 10 n then ⟨c / 10, k + 1⟩ else ⟨c, k⟩)

/-- Stored numbers have fifteen digits at most, and always one after the point. -/
def storedStyle : DecimalStyle := ⟨-3, 15, 2, true⟩

/-- The text of a number in a column of texts; there is none of a number that is none. -/
def storedText : Binary64 → Option String
  | .nan => none
  | .infinite negative => some (if negative then "-Inf" else "Inf")
  | .finite negative m e =>
    if m = 0 then some "0.0"
    else
      let body := Decimal.write storedStyle (nearest m e 15)
      some (String.ofList (if negative then '-' :: body else body))

end Binary64

end Weblog.Number
