/-
  Moments: a date and a time of day, with the offset of a zone or without one.

  A text gives the date as `2024-01-31`, `20240131`, `2024-W05-3` or `2024W053`, and behind one
  separating character a time of day, a fraction of a second, and a zone. Two moments are the same
  if both have a zone and name one instant, or neither has a zone and they read alike.
-/
import Weblog.Clock
import Weblog.Text.Quoted

namespace Weblog

/-- A date and a time of day, read as if universal, and how far the zone is ahead of universal
time, in microseconds. -/
structure Moment where
  reading : Instant
  zone : Option Int
deriving DecidableEq, Repr

namespace Moment

/-- The moment of an instant, in universal time. -/
def ofInstant (t : Instant) : Moment := ⟨t, some 0⟩

/-- The moment that a stored reading gives: its zone is not stored. -/
def ofReading (t : Instant) : Moment := ⟨t, none⟩

/-- The instant that a moment names; without a zone it is universal time. -/
def instant (m : Moment) : Instant := m.reading.later (-(m.zone.getD 0))

/-- Whether two moments are the same. -/
def same (a b : Moment) : Bool :=
  match a.zone, b.zone with
  | none, none => a.reading = b.reading
  | some _, some _ => a.instant = b.instant
  | _, _ => false

/-! ## Faults of a text -/

/-- Why a text gives no moment. -/
inductive ReadError
  | malformed (text : String)
  | year (n : Nat)
  | month
  | day
  | hour
  | minute
  | second
  /-- A zone a day or more away from universal time, by so many microseconds. -/
  | zone (micros : Int)
deriving DecidableEq, Repr

/-- The words for a length of time. -/
def lengthWords (micros : Int) : String :=
  let days := micros.fdiv Instant.dayMicros
  let rest := micros - days * Instant.dayMicros
  let part (name : String) (n : Int) : List String :=
    if n = 0 then [] else [name ++ "=" ++ String.ofList (Number.text n)]
  let parts := part "days" days ++ part "seconds" (rest / 1000000)
    ++ part "microseconds" (rest % 1000000)
  "datetime.timedelta(" ++ (if parts.isEmpty then "0" else String.intercalate ", " parts) ++ ")"

/-- The words for a fault. -/
def ReadError.message : ReadError → String
  | .malformed s => "Invalid isoformat string: " ++ Text.quoted s
  | .year n => "year " ++ String.ofList (Number.digits n) ++ " is out of range"
  | .month => "month must be in 1..12"
  | .day => "day is out of range for month"
  | .hour => "hour must be in 0..23"
  | .minute => "minute must be in 0..59"
  | .second => "second must be in 0..59"
  | .zone micros => "offset must be a timedelta strictly between -timedelta(hours=24) and "
      ++ "timedelta(hours=24), not " ++ lengthWords micros ++ "."

/-! ## Dates -/

/-- Whether a year has 366 days. -/
def isLeap (year : Nat) : Bool := year % 4 = 0 && (year % 100 ≠ 0 || year % 400 = 0)

/-- The days of a month. -/
def daysOfMonth (year month : Nat) : Nat :=
  if month = 2 then if isLeap year then 29 else 28
  else if month = 4 || month = 6 || month = 9 || month = 11 then 30
  else 31

/-- The day of the week of a day number: 0 is Monday. -/
def weekday (day : Int) : Nat := ((day + 3) % 7).toNat

/-- The Monday of the first week of a year: the week that holds its first Thursday. -/
def firstMonday (year : Nat) : Int :=
  let first := Instant.dayNumber ⟨year, 1, 1⟩
  let w := weekday first
  if w ≤ 3 then first - w else first - w + 7

/-- Whether a year has a week with a number. -/
def hasWeek (year week : Nat) : Bool :=
  let w := weekday (Instant.dayNumber ⟨year, 1, 1⟩)
  0 < week && (week < 53 || week = 53 && (w = 3 || w = 2 && isLeap year))

/-- The date of a day of a week; `none` if there is none. Weeks before the year 1 have days, but
none of a month. -/
def dateOfWeek? (year week day : Nat) : Option (Nat × Nat × Nat) :=
  if !hasWeek year week || day = 0 || 7 < day then none
  else if year = 0 then some (1, 0, 0)
  else
    let d := Instant.dateOfDay (firstMonday year + (week - 1) * 7 + (day - 1))
    some (d.year.toNat, d.month, d.day)

/-- What follows a hyphen, if there has to be one. -/
def afterHyphen (hyphens : Bool) (cs : List Char) : Option (List Char) :=
  if hyphens then Instant.after '-' cs else some cs

/-- The year, the month and the day that the characters of a date give. -/
def readDate (cs : List Char) : Option (Nat × Nat × Nat) := do
  let (year, cs) ← Instant.takeNumber 4 cs
  let hyphens := cs.head? = some '-'
  let cs := if hyphens then cs.tail else cs
  match cs with
  | 'W' :: cs =>
    let (week, cs) ← Instant.takeNumber 2 cs
    if cs.isEmpty then dateOfWeek? year week 1
    else
      let (day, _) ← Instant.takeNumber 1 (← afterHyphen hyphens cs)
      dateOfWeek? year week day
  | cs =>
    let (month, cs) ← Instant.takeNumber 2 cs
    let (day, cs) ← Instant.takeNumber 2 (← afterHyphen hyphens cs)
    if cs.isEmpty then some (year, month, day) else none

/-- The character at a place, if it is a digit. -/
def isDigitAt (cs : List Char) (n : Nat) : Bool := (cs[n]?).any Char.isDigit

/-- How many characters the date takes. Where a week is written without hyphens, the digits behind
it tell whether they begin with the number of a day. -/
def dateLength (cs : List Char) : Nat :=
  if cs.length = 7 then 7
  else if cs[4]? = some '-' then
    if cs[5]? = some 'W' then
      if cs[8]? = some '-' && cs.length ≠ 9 then if isDigitAt cs 10 then 8 else 10
      else 8
    else 10
  else if cs[4]? = some 'W' then
    let n := 7 + ((cs.drop 7).takeWhile Char.isDigit).length
    if n < 9 then n else if n % 2 = 0 then 7 else 8
  else 8

/-! ## Times of day -/

/-- Hours, minutes, seconds and microseconds. -/
structure Time where
  hour : Nat
  minute : Nat
  second : Nat
  micros : Nat
deriving DecidableEq, Repr

/-- The first digits of a fraction, six at most, as microseconds. The digits end within the first
`n` characters; behind six digits any more are passed over. The rest comes last. -/
def readFraction (cs : List Char) (n : Nat) : Option (Nat × List Char) :=
  let taken := min n 6
  (Instant.takeNumber taken cs).map fun (value, rest) =>
    (value * Nat.pow 10 (6 - taken), rest.dropWhile Char.isDigit)

/-- The values of up to three numbers of two digits and of a fraction, which take the first `n`
characters, and whether characters are left behind them. `colons` tells whether numbers are
separated, which the first separator decides. -/
def readNumbers : (count n : Nat) → (colons : Option Bool) → List Char →
    Option (List Nat × Nat × Bool)
  | 0, n, _, cs => (readFraction cs n).map fun (micros, rest) => ([], micros, !rest.isEmpty)
  | count + 1, n, colons, cs => do
    let (value, rest) ← Instant.takeNumber 2 cs
    let separated := colons.getD (rest.head? = some ':')
    if n ≤ 3 then some ([value], 0, !rest.isEmpty)
    else if separated && rest.head? = some ':' then
      let (values, micros, more) ← readNumbers count (n - 3) (some separated) rest.tail
      some (value :: values, micros, more)
    else if rest.head? = some '.' || rest.head? = some ',' then
      let (micros, rest) ← readFraction rest.tail (n - 3)
      some ([value], micros, !rest.isEmpty)
    else if separated then none
    else
      let (values, micros, more) ← readNumbers count (n - 2) (some separated) rest
      some (value :: values, micros, more)

/-- The time in the first `n` characters, and whether characters are left behind it. -/
def readTime (cs : List Char) (n : Nat) : Option (Time × Bool) :=
  (readNumbers 3 n none cs).map fun (values, micros, more) =>
    (⟨values.getD 0 0, values.getD 1 0, values.getD 2 0, micros⟩, more)

/-- The length of time from midnight. -/
def Time.toMicros (t : Time) : Int :=
  (t.hour * 3600 + t.minute * 60 + t.second) * 1000000 + t.micros

/-- Whether a character begins a zone. -/
def isZoneSign (c : Char) : Bool := c = '+' || c = '-' || c = 'Z'

/-- The time of day, and the offset of the zone behind it. -/
def readClock (cs : List Char) : Option (Time × Option Int) := do
  let n := (cs.takeWhile fun c => !isZoneSign c).length
  let (time, more) ← readTime cs n
  match cs.drop n with
  | [] => if more then none else some (time, none)
  | 'Z' :: rest => if rest.isEmpty then some (time, some 0) else none
  | sign :: rest =>
    let (zone, more) ← readTime rest rest.length
    if more then none
    else some (time, some (if sign = '-' then -zone.toMicros else zone.toMicros))

/-! ## Whole texts -/

/-- The parts of a text. -/
def readParts (cs : List Char) : Option ((Nat × Nat × Nat) × Time × Option Int) := do
  let n := dateLength cs
  if cs.length < 7 then none
  else
    let date ← readDate (cs.take n)
    match cs.drop n with
    | [] => some (date, ⟨0, 0, 0, 0⟩, none)
    | _ :: rest =>
      let (time, zone) ← readClock rest
      some (date, time, zone)

/-- The moment that a text gives. -/
def read (s : String) : Except ReadError Moment :=
  match readParts s.toList with
  | none => .error (.malformed s)
  | some ((year, month, day), time, zone) =>
    if (zone.getD 0).natAbs ≥ Instant.dayMicros.natAbs then .error (.zone (zone.getD 0))
    else if year = 0 || 9999 < year then .error (.year year)
    else if month = 0 || 12 < month then .error .month
    else if day = 0 || daysOfMonth year month < day then .error .day
    else if 23 < time.hour then .error .hour
    else if 59 < time.minute then .error .minute
    else if 59 < time.second then .error .second
    else
      let midnight := Instant.dayNumber ⟨year, month, day⟩ * Instant.dayMicros
      .ok ⟨⟨midnight + time.toMicros⟩, zone⟩

end Moment

end Weblog
