/-
  Instants and their calendar texts.

  An instant counts microseconds from the start of 1970, universal time. Its calendar fields
  follow the Gregorian calendar without leap seconds.
-/
import Weblog.Number.Digits

namespace Weblog

/-- A point in time. -/
structure Instant where
  micros : Int
deriving DecidableEq, Repr, Inhabited

namespace Instant

/-- The instant some microseconds later. -/
def later (t : Instant) (micros : Int) : Instant := ⟨t.micros + micros⟩

/-- The whole second at or before an instant. -/
def second (t : Instant) : Int := t.micros.fdiv 1000000

/-- Whether one instant comes before another. -/
def before (a b : Instant) : Bool := a.micros < b.micros

/-! ## Calendar -/

/-- The fields of a calendar date. -/
structure Date where
  year : Int
  month : Nat
  day : Nat
deriving DecidableEq, Repr

/-- The days from 1970-01-01 to a date. Years are counted from March, so that the leap day comes
last; 400 years have 146097 days. -/
def dayNumber (d : Date) : Int :=
  let y : Int := if d.month ≤ 2 then d.year - 1 else d.year
  let era := y.fdiv 400
  let yearOfEra := (y - era * 400).toNat
  let monthFromMarch := (d.month + 9) % 12
  let dayOfYear := (153 * monthFromMarch + 2) / 5 + d.day - 1
  let dayOfEra := yearOfEra * 365 + yearOfEra / 4 - yearOfEra / 100 + dayOfYear
  era * 146097 + dayOfEra - 719468

/-- The date some days after 1970-01-01. -/
def dateOfDay (n : Int) : Date :=
  let z := n + 719468
  let era := z.fdiv 146097
  let dayOfEra := (z - era * 146097).toNat
  let yearOfEra := (dayOfEra - dayOfEra / 1460 + dayOfEra / 36524 - dayOfEra / 146096) / 365
  let dayOfYear := dayOfEra - (365 * yearOfEra + yearOfEra / 4 - yearOfEra / 100)
  let monthFromMarch := (5 * dayOfYear + 2) / 153
  let day := dayOfYear - (153 * monthFromMarch + 2) / 5 + 1
  let month := if monthFromMarch < 10 then monthFromMarch + 3 else monthFromMarch - 9
  let year : Int := yearOfEra + era * 400
  ⟨if month ≤ 2 then year + 1 else year, month, day⟩

/-- Microseconds of a day. -/
def dayMicros : Int := 86400000000

/-- The first instant of the year 1. -/
def earliest : Instant := ⟨dayNumber ⟨1, 1, 1⟩ * dayMicros⟩

/-- The last instant of the year 9999. -/
def latest : Instant := ⟨dayNumber ⟨10000, 1, 1⟩ * dayMicros - 1⟩

/-- Whether the calendar has a text for the instant: the years 1 to 9999. -/
def isRepresentable (t : Instant) : Bool :=
  earliest.micros ≤ t.micros && t.micros ≤ latest.micros

/-! ## Texts -/

/-- The text up to the second, and the microseconds after it. -/
def textParts (t : Instant) : List Char × Nat :=
  let day := t.micros.fdiv dayMicros
  let rest := (t.micros - day * dayMicros).toNat
  let date := dateOfDay day
  let seconds := rest / 1000000
  (Number.padded 4 date.year.toNat ++ '-' :: Number.padded 2 date.month
      ++ '-' :: Number.padded 2 date.day ++ 'T' :: Number.padded 2 (seconds / 3600)
      ++ ':' :: Number.padded 2 (seconds / 60 % 60) ++ ':' :: Number.padded 2 (seconds % 60),
    rest % 1000000)

/-- The text with six digits of fraction. -/
def fullText (t : Instant) : String :=
  let (seconds, micros) := t.textParts
  String.ofList (seconds ++ '.' :: Number.padded 6 micros)

/-- The text with a fraction only where it is not zero. -/
def text (t : Instant) : String :=
  let (seconds, micros) := t.textParts
  String.ofList (seconds ++ if micros = 0 then [] else '.' :: Number.padded 6 micros)

/-- A number of exactly `width` digits at the front. -/
def takeNumber (width : Nat) (cs : List Char) : Option (Nat × List Char) :=
  let ds := cs.take width
  if ds.length = width ∧ ds.all Char.isDigit then some (Number.ofDigits ds, cs.drop width)
  else none

/-- What follows a given character. -/
def after (c : Char) : List Char → Option (List Char)
  | d :: cs => if c = d then some cs else none
  | [] => none

/-- The microseconds of a fraction of at most six digits; the text may end before it. -/
def takeFraction : List Char → Option (Nat × List Char)
  | '.' :: cs =>
    let ds := cs.takeWhile Char.isDigit
    if ds.isEmpty ∨ 6 < ds.length then none
    else some (Number.ofDigits ds * Nat.pow 10 (6 - ds.length), cs.dropWhile Char.isDigit)
  | cs => some (0, cs)

/-- The instant that a calendar text gives, its fields taken as universal time; a zone at the end
is passed over. -/
def ofText? (s : String) : Option Instant := do
  let (year, cs) ← takeNumber 4 s.toList
  let (month, cs) ← takeNumber 2 (← after '-' cs)
  let (day, cs) ← takeNumber 2 (← after '-' cs)
  let midnight := dayNumber ⟨year, month, day⟩ * dayMicros
  match cs with
  | [] => some ⟨midnight⟩
  | separator :: cs =>
    if separator ≠ 'T' ∧ separator ≠ ' ' then none
    else
      let (hour, cs) ← takeNumber 2 cs
      let (minute, cs) ← takeNumber 2 (← after ':' cs)
      let (sec, cs) ← match after ':' cs with
        | some cs => takeNumber 2 cs
        | none => some (0, cs)
      let (micros, _) ← takeFraction cs
      let seconds : Int := hour * 3600 + minute * 60 + sec
      some ⟨midnight + seconds * 1000000 + micros⟩

end Instant

end Weblog
