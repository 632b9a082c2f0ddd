/-
  Tables of mappings from code points to sequences of code points, written as families.

  A family is a single code point with its image, or a run of code points whose images run along
  with them.
-/
import Weblog.Text.Hex

namespace Weblog.Text

/-- The code points `first`, `first + stride`, … of which there are `count`, and their images. -/
structure Family where
  first : Nat
  count : Nat
  stride : Nat
  image : List Nat
deriving DecidableEq, Repr, Inhabited

/-- The last member of a family. -/
def Family.last (f : Family) : Nat := f.first + (f.count - 1) * f.stride

/-- The image of a member. -/
def Family.image? (f : Family) (n : Nat) : Option (List Nat) :=
  if f.first ≤ n ∧ n ≤ f.last ∧ (n - f.first) % f.stride = 0 then
    some (f.image.map (· + (n - f.first)))
  else none

/-- Families in ascending order, no two of them interleaved. -/
abbrev Families := Array Family

namespace Families

/-- What is known of the entry being read. -/
structure Entry where
  number : Nat
  first : Nat
  /-- The image so far, last code point first. -/
  image : List Nat

/-- Reads entries of hexadecimal numbers: the distance from the member before, `=`, the code
points of the image with points between them, and `;`. A run has a point and the number of its
members instead of `;`, and then `:` for neighbours or `~` for every second code point. -/
def ofChars (last : Nat) (e : Entry) (done : Families) : List Char → Families
  | [] => done
  | c :: cs =>
    match hexDigitValue? c with
    | some d => ofChars last { e with number := 16 * e.number + d } done cs
    | none =>
      match c with
      | '=' => ofChars last ⟨0, last + e.number, []⟩ done cs
      | '.' => ofChars last ⟨0, e.first, e.number :: e.image⟩ done cs
      | ';' =>
        ofChars e.first ⟨0, 0, []⟩ (done.push ⟨e.first, 1, 1, (e.number :: e.image).reverse⟩) cs
      | _ =>
        let f : Family := ⟨e.first, e.number, if c = '~' then 2 else 1, e.image.reverse⟩
        ofChars f.last ⟨0, 0, []⟩ (done.push f) cs

/-- The families written in a text. -/
def ofText (s : String) : Families := ofChars 0 ⟨0, 0, []⟩ #[] s.toList

/-- The last position in `[lo, hi)` whose family starts at or before `n`, or `lo` where none
does. -/
def search (fs : Families) (n lo hi : Nat) : Nat :=
  if lo + 1 < hi then
    let mid := (lo + hi) / 2
    match fs[mid]? with
    | some f => if f.first ≤ n then search fs n mid hi else search fs n lo mid
    | none => lo
  else lo
termination_by hi - lo

/-- The image of a code point. -/
def image? (fs : Families) (n : Nat) : Option (List Nat) :=
  fs[search fs n 0 fs.size]?.bind (·.image? n)

end Families

end Weblog.Text
