/-
  Patterns with wildcards, and the texts that they match.

  In a pattern `%` stands for any text and `_` for any one character; an escape character makes
  the next character stand for itself, and matches nothing at the end. Letters of ASCII match in both cases. A text ends before
  its first U+0000, and the two last code points of the basic plane read as U+FFFD.
-/

namespace Weblog.Like

/-- One part of a pattern. -/
inductive Piece
  | anything
  | anyOne
  | literal (c : Char)
deriving DecidableEq, Repr

/-- The part of a text that counts. -/
def visible (cs : List Char) : List Char :=
  (cs.takeWhile (· ≠ '\x00')).map fun c => if c = '\ufffe' ∨ c = '\uffff' then '\ufffd' else c

/-- The parts of a pattern. -/
def pieces (escape : Char) : List Char → List Piece
  | [] => []
  | c :: cs =>
    if c = escape then
      match cs with
      | [] => [.literal '\x00']
      | d :: rest => .literal d :: pieces escape rest
    else (if c = '%' then .anything else if c = '_' then .anyOne else .literal c)
      :: pieces escape cs

/-- Whether a character matches a literal one. -/
def sameLetter (a b : Char) : Bool := a.toLower = b.toLower

/-- Whether a text matches the parts of a pattern. -/
def matchesPieces : List Piece → List Char → Bool
  | [], [] => true
  | [], _ :: _ => false
  | .anything :: ps, [] => matchesPieces ps []
  | .anything :: ps, c :: cs => matchesPieces ps (c :: cs) || matchesPieces (.anything :: ps) cs
  | .anyOne :: ps, _ :: cs => matchesPieces ps cs
  | .anyOne :: _, [] => false
  | .literal a :: ps, c :: cs => sameLetter a c && matchesPieces ps cs
  | .literal _ :: _, [] => false
termination_by ps cs => ps.length + cs.length

/-- Whether a text matches a pattern. -/
def «matches» (escape : Char) (pattern text : List Char) : Bool :=
  matchesPieces (pieces escape (visible pattern)) (visible text)

/-! ## Containment -/

/-- The escape character of the patterns made here. -/
def escapeChar : Char := '/'

/-- A text whose wildcards stand for themselves. -/
def escaped (cs : List Char) : List Char :=
  cs.flatMap fun c => if c = '/' ∨ c = '%' ∨ c = '_' then [escapeChar, c] else [c]

/-- The pattern of texts that contain a given one. -/
def containing (cs : List Char) : List Char := '%' :: escaped cs ++ ['%']

end Weblog.Like
