/-
  Canonical composition of text: the normal form in which every character that can be put
  together from a starter and its marks is put together.

  The text is decomposed, the marks after each starter are put in order of their combining
  classes, and starters are put together again with the marks that nothing blocks.
-/
import Weblog.Text.NormalTable

namespace Weblog.Text

/-- The combining class of a character, zero for starters. -/
def combiningClass (c : Char) : Nat :=
  ((combiningRuns.label? c.toNat).bind fun l => combiningClasses.lookup l).getD 0

/-! ## Hangul syllables -/

/-- The numbers of the leading consonant, the vowel and the trailing consonant of a syllable; no
trailing consonant has the number zero. -/
def syllableParts? (n : Nat) : Option (Nat × Nat × Nat) :=
  if 0xAC00 ≤ n ∧ n < 0xAC00 + 11172 then
    let i := n - 0xAC00
    some (i / 588, i % 588 / 28, i % 28)
  else none

/-- The syllable of a leading consonant and a vowel, or of a syllable without a trailing
consonant and such a consonant. -/
def syllable? (a b : Nat) : Option Nat :=
  if 0x1100 ≤ a ∧ a < 0x1113 ∧ 0x1161 ≤ b ∧ b < 0x1176 then
    some (0xAC00 + ((a - 0x1100) * 21 + (b - 0x1161)) * 28)
  else if 0x11A7 < b ∧ b < 0x11C3 then
    match syllableParts? a with
    | some (_, _, 0) => some (a + (b - 0x11A7))
    | _ => none
  else none

/-! ## Decomposition -/

/-- The decomposition of a code point after a table, whose first part may decompose `depth` times
more. -/
def Families.decomposition (fs : Families) : (depth : Nat) → Nat → List Nat
  | 0, n => [n]
  | depth + 1, n =>
    match syllableParts? n with
    | some (l, v, t) => [0x1100 + l, 0x1161 + v] ++ if t = 0 then [] else [0x11A7 + t]
    | none =>
      match fs.image? n with
      | some (first :: rest) => fs.decomposition depth first ++ rest
      | _ => [n]

/-- The most steps that a canonical decomposition takes. -/
def decompositionDepth : Nat := 4

def decompose (cs : List Char) : List Char :=
  cs.flatMap fun c => (decompositions.decomposition decompositionDepth c.toNat).map Char.ofNat

/-! ## Order of marks -/

/-- Puts a mark behind all marks of its class and below. -/
def insertMark (c : Char) : List Char → List Char
  | [] => [c]
  | d :: ds => if combiningClass d ≤ combiningClass c then d :: insertMark c ds else c :: d :: ds

/-- The text with its marks in order; `marks` are the ones in front. -/
def orderAfter (marks : List Char) : List Char → List Char
  | [] => marks
  | c :: cs =>
    if combiningClass c = 0 then marks ++ c :: orderAfter [] cs
    else orderAfter (insertMark c marks) cs

/-! ## Composition -/

/-- Pairs that are put together, and what they make. -/
def composites : List ((Nat × Nat) × Nat) :=
  decompositions.toList.filterMap fun f =>
    match f.image with
    | [a, b] => if compositionExclusions.has f.first then none else some ((a, b), f.first)
    | _ => none

/-- The character that two characters make. -/
def composite? (a b : Char) : Option Char :=
  match syllable? a.toNat b.toNat with
  | some n => some (Char.ofNat n)
  | none => if b.toNat < 0x80 then none else (composites.lookup (a.toNat, b.toNat)).map Char.ofNat

/-- Puts the starter `s` together with what follows. `kept` are the marks after it that were not
taken up, last one first, and `last` is the class of the last of them. -/
def composeStarter (s : Char) (kept : List Char) (last : Nat) : List Char → List Char
  | [] => s :: kept.reverse
  | c :: cs =>
    let k := combiningClass c
    let made := if kept.isEmpty || last < k then composite? s c else none
    match made with
    | some t => composeStarter t kept last cs
    | none =>
      if k = 0 then s :: kept.reverse ++ composeStarter c [] 0 cs
      else composeStarter s (c :: kept) k cs

/-- Puts together a text that is decomposed and in order. -/
def compose : List Char → List Char
  | [] => []
  | c :: cs => if combiningClass c = 0 then composeStarter c [] 0 cs else c :: compose cs

/-- The normal form of a text. -/
def normal (cs : List Char) : List Char :=
  if cs.all (·.toNat < 0x80) then cs else compose (orderAfter [] (decompose cs))

/-- Whether a character may change together with a starter in front of it. -/
def mayJoin (c : Char) : Bool :=
  0x80 ≤ c.toNat && match decompose [c] with
    | [] => false
    | d :: _ => combiningClass d != 0 || (0x1161 ≤ d.toNat && d.toNat < 0x11C3)
        || composites.any fun p => p.1.2 = d.toNat

/-- Whether a character does not stay what it is when it is put together with what follows. -/
def combines (c : Char) (cs : List Char) : Bool :=
  (normal (c :: cs.takeWhile mayJoin)).head? != some c

end Weblog.Text
