/-
  Sets of code points, written as ascending lists of inclusive ranges, and run-length tables: a
  partition of the code points into consecutive runs, each with a one-letter label, written as
  hexadecimal lengths.
-/
import Weblog.Text.Hex

namespace Weblog.Text

/-- Inclusive ranges of code points, ascending. -/
abbrev Ranges := List (Nat × Nat)

/-- Whether a code point lies in one of the ranges. -/
def Ranges.has (rs : Ranges) (n : Nat) : Bool :=
  rs.any fun r => r.1 ≤ n && n ≤ r.2

theorem Ranges.has_nil (n : Nat) : Ranges.has [] n = false := rfl

theorem Ranges.has_cons (r : Nat × Nat) (rs : Ranges) (n : Nat) :
    Ranges.has (r :: rs) n = ((r.1 ≤ n && n ≤ r.2) || rs.has n) := rfl

end Weblog.Text

namespace Weblog.Text

/-- The first member and the label of each run, ascending. -/
abbrev Runs := Array (Nat × Char)

/-- Reads runs written as a hexadecimal length followed by a label that is no such digit. `start`
is where the next run starts and `length` the value of the digits read so far. -/
def runsAfter (start length : Nat) (done : Runs) : List Char → Runs
  | [] => done
  | c :: cs =>
    match hexDigitValue? c with
    | some d => runsAfter start (16 * length + d) done cs
    | none => runsAfter (start + length) 0 (done.push (start, c)) cs

/-- The runs written in a text. -/
def Runs.ofText (s : String) : Runs := runsAfter 0 0 #[] s.toList

/-- The last position in `[lo, hi)` whose run starts at or before `n`, or `lo` where none does. -/
def Runs.search (rs : Runs) (n lo hi : Nat) : Nat :=
  if lo + 1 < hi then
    let mid := (lo + hi) / 2
    match rs[mid]? with
    | some (start, _) => if start ≤ n then rs.search n mid hi else rs.search n lo mid
    | none => lo
  else lo
termination_by hi - lo

/-- The label of the run that holds a code point. -/
def Runs.label? (rs : Runs) (n : Nat) : Option Char :=
  rs[rs.search n 0 rs.size]?.map (·.2)

end Weblog.Text
