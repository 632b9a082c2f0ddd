/-
  The parts of an e-mail address as written: what stands before the at-sign and what stands after
  it, quotes and angle brackets taken into account.
-/
import Weblog.Email.Error
import Weblog.Text.Blank
import Weblog.Text.Normal

namespace Weblog.Email

/-! ## Characters -/

/-- Letters, digits and signs that stand without quotes in an address, all of them ASCII. -/
def isAtomChar (c : Char) : Bool := c.isAlphanum || "_!#$%&'*+-/=?^\x60\x7b|\x7d~".toList.contains c

/-- Characters that an address may hold but not where they stand: a mark in the first place, and
all spaces, separators, controls and code points without a character. Spaces are let through on
request. -/
def unsafeChars (spaces : Bool) (cs : List Char) : List Char :=
  let isUnsafe := fun c => match Text.category c with
    | .letterOrNumber | .punctuationOrSymbol | .mark => false
    | .space => !spaces
    | .lineSeparator | .other => true
  let first := match cs with
    | c :: _ => if Text.category c = .mark then [c] else []
    | [] => []
  first ++ cs.filter isUnsafe

/-- Refuses unsafe characters. -/
def checkSafe (spaces : Bool) (cs : List Char) : Except Error Unit :=
  match unsafeChars spaces cs with
  | [] => .ok ()
  | bad => .error (.unsafeCharacters bad)

/-! ## Cutting -/

/-- Cuts a text in front of the first of some signs that stands outside quotes and does not
combine with what follows. A backslash inside quotes escapes the next character. -/
def cutAt (signs : List Char) (inside escaped : Bool) : List Char → List Char × List Char
  | [] => ([], [])
  | c :: cs =>
    let continued := fun inside escaped =>
      let (left, right) := cutAt signs inside escaped cs
      (c :: left, right)
    if Text.combines c cs then continued inside escaped
    else if inside then
      if escaped then continued true false
      else if c = '\\' then continued true true
      else continued (c ≠ '"') false
    else if c = '"' then continued true escaped
    else if signs.contains c then ([], c :: cs)
    else continued false escaped

/-- Cuts a text in front of one of some signs, which must be there. -/
def cut (signs : List Char) (cs : List Char) : Except Error (List Char × List Char) :=
  match cutAt signs false false cs with
  | (_, []) =>
    if cs.contains '＠' then .error .fullWidthAtSign
    else if cs.contains '﹫' then .error .smallAtSign
    else .error .noAtSign
  | parts => .ok parts

/-- The rest of a quoted text without its quotes and escapes. -/
def unquoteRest : List Char → Except Error (List Char)
  | [] => .ok []
  | '\\' :: c :: cs => (unquoteRest cs).map (c :: ·)
  | ['\\'] => .ok []
  | '"' :: cs => if cs.isEmpty then .ok [] else .error (.afterCloseQuote cs)
  | c :: cs => (unquoteRest cs).map (c :: ·)

/-- A text without surrounding quotes, and whether it had them. -/
def unquote : List Char → Except Error (List Char × Bool)
  | '"' :: cs => (unquoteRest cs).map (·, true)
  | cs => .ok (cs, false)

/-! ## Parts -/

/-- The parts of an address. -/
structure Parts where
  /-- Whether a name or angle brackets surround the address. -/
  named : Bool
  localPart : List Char
  quotedLocal : Bool
  domain : List Char
deriving DecidableEq, Repr

/-- The parts of an address without angle brackets; `domain` begins with the at-sign. -/
def ofSides (named : Bool) (left domain : List Char) : Except Error Parts := do
  let (localPart, quotedLocal) ← unquote left
  .ok ⟨named, localPart, quotedLocal, if domain.head? = some '@' then domain.tail else domain⟩

/-- The list without the trailing members of `p`. -/
def dropEnd (p : Char → Bool) (cs : List Char) : List Char := (cs.reverse.dropWhile p).reverse

/-- Checks a name in front of angle brackets. -/
def checkName (left : List Char) : Except Error Unit := do
  let (name, isQuoted) ← unquote (dropEnd Text.isBlankChar left)
  let bad := name.filter fun c => !isAtomChar c && c ≠ ' '
  if !isQuoted && !bad.isEmpty then .error (.unquotedName bad)
  checkSafe true name

/-- The parts of a text. -/
def parts (cs : List Char) : Except Error Parts := do
  let (left, right) ← cut ['@', '<'] cs
  if right.head? = some '<' then
    checkName left
    if !right.contains '>' then .error .unclosedBracket
    let right := dropEnd (· = ' ') right
    if right.getLast? ≠ some '>' then .error .afterBracket
    let (left, domain) ← cut ['@'] (dropEnd (· = '>') right.tail)
    ofSides true left domain
  else ofSides false left right

end Weblog.Email
