/-
  White space, blank texts, and the words between blanks.

  `isBlank` holds of the texts that consist of white space only, the empty text included;
  `words` are the maximal stretches without white space.
-/
import Weblog.Text.Runs

namespace Weblog.Text

/-! ## White space -/

/-- White space: the separators of the Unicode database, the line breaks and the four
information separators U+001C to U+001F. -/
def blankRanges : Ranges := [
  (0x9, 0xD), (0x1C, 0x20), (0x85, 0x85), (0xA0, 0xA0), (0x1680, 0x1680), (0x2000, 0x200A),
  (0x2028, 0x2029), (0x202F, 0x202F), (0x205F, 0x205F), (0x3000, 0x3000)]

def isBlankChar (c : Char) : Bool := blankRanges.has c.toNat

/-- A text that is empty or holds white space only. -/
def isBlank (s : String) : Bool := s.toList.all isBlankChar

theorem isBlank_iff {s : String} : isBlank s = true ↔ ∀ c ∈ s.toList, isBlankChar c = true := by
  simp [isBlank]

@[simp] theorem isBlank_empty : isBlank "" = true := rfl

/-! ## Trimming -/

/-- The list without the leading and trailing members of `p`. -/
def trimBoth (p : Char → Bool) (cs : List Char) : List Char :=
  ((cs.dropWhile p).reverse.dropWhile p).reverse

/-- The text without the white space at its two ends. -/
def trim (s : String) : String := String.ofList (trimBoth isBlankChar s.toList)

/-! ## Words -/

/-- The maximal stretches of characters outside `p`, none of them empty. `word` holds the
characters of the stretch being read, last one first. -/
def wordsAfter (p : Char → Bool) (word : List Char) : List Char → List (List Char)
  | [] => if word.isEmpty then [] else [word.reverse]
  | c :: cs =>
    if p c then
      if word.isEmpty then wordsAfter p [] cs else word.reverse :: wordsAfter p [] cs
    else wordsAfter p (c :: word) cs

/-- The words of a text: its maximal stretches without white space. -/
def words (cs : List Char) : List (List Char) := wordsAfter isBlankChar [] cs

end Weblog.Text
