/-
  Binary floating-point numbers of 64 bits, in exact integer arithmetic.

  A finite number is a sign, a significand below 2^53 and an exponent of two; the exponent is the
  least one, -1074, unless the significand has all its 53 bits. Decimal numerals are read to the
  nearest number, an exact half to the even significand.
-/

namespace Weblog.Number

/-- A floating-point number. -/
inductive Binary64
  | nan
  | infinite (negative : Bool)
  /-- `significand * 2 ^ exponent`, with a sign. -/
  | finite (negative : Bool) (significand : Nat) (exponent : Int)
deriving DecidableEq, Repr

namespace Binary64

/-- The least exponent of two. -/
def minExponent : Int := -1074

/-- The greatest exponent of two. -/
def maxExponent : Int := 971

/-- The number zero without a sign. -/
def zero : Binary64 := .finite false 0 minExponent

/-- Whether the number is a zero of either sign. -/
def isZero : Binary64 → Bool
  | .finite _ m _ => m == 0
  | _ => false

/-- `num / den` divided by `2 ^ e`, as a fraction. -/
def scaled (num den : Nat) (e : Int) : Nat × Nat :=
  match e with
  | .ofNat k => (num, den * Nat.pow 2 k)
  | .negSucc k => (num * Nat.pow 2 (k + 1), den)

/-- The whole number nearest to `num / den`, the even one of two. -/
def roundHalfEven (num den : Nat) : Nat :=
  let q := num / den
  let r := num % den
  if den < 2 * r ∨ (2 * r = den ∧ q % 2 = 1) then q + 1 else q

/-- The exponent at which `num / den` has 53 significant bits, at least the least one. -/
def exponentOf (num den : Nat) : Int :=
  let guess : Int := (Nat.log2 num : Int) - Nat.log2 den - 52
  let (n, d) := scaled num den guess
  let e :=
    if n < d * Nat.pow 2 52 then guess - 1
    else if d * Nat.pow 2 53 ≤ n then guess + 1
    else guess
  max e minExponent

/-- The number nearest to the fraction `num / den`. -/
def ofFraction (negative : Bool) (num den : Nat) : Binary64 :=
  if num = 0 then .finite negative 0 minExponent
  else
    let e := exponentOf num den
    let (n, d) := scaled num den e
    let m := roundHalfEven n d
    let (m, e) := if m = Nat.pow 2 53 then (Nat.pow 2 52, e + 1) else (m, e)
    if maxExponent < e then .infinite negative else .finite negative m e

/-- The number nearest to `coefficient * 10 ^ exponent`. Exponents far outside the range are not
multiplied out. -/
def ofDecimal (negative : Bool) (coefficient : Nat) (exponent : Int) : Binary64 :=
  if coefficient = 0 then .finite negative 0 minExponent
  else
    let magnitude : Int := (Nat.log2 coefficient : Int) * 3 / 10 + exponent
    if 400 < magnitude then .infinite negative
    else if magnitude + (Nat.log2 coefficient : Int) / 20 + 2 < -400 then
      .finite negative 0 minExponent
    else match exponent with
      | .ofNat k => ofFraction negative (coefficient * Nat.pow 10 k) 1
      | .negSucc k => ofFraction negative coefficient (Nat.pow 10 (k + 1))

/-- The whole part, cut toward zero; `none` for numbers that are not finite. -/
def truncate? : Binary64 → Option Int
  | .finite negative m e =>
    let n : Nat := match e with
      | .ofNat k => m * Nat.pow 2 k
      | .negSucc k => m / Nat.pow 2 (k + 1)
    some (if negative then -(n : Int) else n)
  | _ => none

end Binary64

end Weblog.Number
