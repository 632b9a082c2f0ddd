/-
  Spans of time, in whole microseconds.

  A span may have at most 999999999 whole days either way; before that limit is looked at, the
  days have to be a number of 32 bits. A floating-point number of seconds is taken apart: its
  whole seconds count exactly, and what is left over is multiplied as a floating-point number and
  goes to the nearest microsecond, an exact half to the even one.
-/
import Weblog.Clock
import Weblog.Number.Binary64

namespace Weblog.Span

open Number (Binary64)

/-- Why a number of microseconds makes no span. -/
inductive Error
  /-- The days are no number of 32 bits. -/
  | uncounted
  | tooManyDays (days : Int)
deriving DecidableEq, Repr

/-- The most days that a span may have. -/
def maxDays : Int := 999999999

/-- The words for a span that there is not. -/
def Error.message : Error → String
  | .uncounted => "Python int too large to convert to C int"
  | .tooManyDays days =>
    "days=" ++ String.ofList (Number.text days) ++ "; must have magnitude <= "
      ++ String.ofList (Number.text maxDays)

/-- The whole days at or before the end of a span. -/
def days (micros : Int) : Int := micros.fdiv Instant.dayMicros

/-- Checks that a number of microseconds makes a span. -/
def check (micros : Int) : Except Error Unit :=
  let n := days micros
  if n < -0x80000000 ∨ 0x80000000 ≤ n then .error .uncounted
  else if n < -maxDays ∨ maxDays < n then .error (.tooManyDays n)
  else .ok ()

/-- The microseconds of whole seconds. -/
def ofSeconds (seconds : Int) : Int := seconds * 1000000

/-- The microseconds in a part `num / den` of a second that is a floating-point number. -/
def ofPart (num den : Nat) : Nat :=
  match Binary64.ofFraction false (num * 1000000) den with
  | .finite _ m e =>
    let (n, d) := Binary64.scaled m 1 (-e)
    Binary64.roundHalfEven n d
  | _ => 0

/-- The microseconds in a finite floating-point number of seconds. -/
def ofNumber? : Binary64 → Option Int
  | .finite negative m e =>
    let (num, den) := Binary64.scaled m 1 (-e)
    let micros : Int := num / den * 1000000 + ofPart (num % den) den
    some (if negative then -micros else micros)
  | _ => none

end Weblog.Span
