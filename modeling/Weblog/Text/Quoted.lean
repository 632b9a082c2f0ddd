/-
  Quoted text: a text between quotes, with escapes for the quote, the backslash and every
  character that would not print.

  Single quotes are used unless the text holds a single quote and no double quote.
-/
import Weblog.Text.Category
import Weblog.Text.Hex

namespace Weblog.Text

/-- The quote that surrounds a text. -/
def quoteFor (cs : List Char) : Char :=
  if cs.contains '\'' && !cs.contains '"' then '"' else '\''

/-- A code point as an escape with as many digits as its size needs. -/
def escapedCode (n : Nat) : List Char :=
  if n < 0x100 then '\\' :: 'x' :: hexPadded 2 n
  else if n < 0x10000 then '\\' :: 'u' :: hexPadded 4 n
  else '\\' :: 'U' :: hexPadded 8 n

/-- One character inside the quotes `q`. -/
def quotedChar (q c : Char) : List Char :=
  if c = q ∨ c = '\\' then ['\\', c]
  else if c = '\t' then ['\\', 't']
  else if c = '\n' then ['\\', 'n']
  else if c = '\r' then ['\\', 'r']
  else if isPrintable c then [c]
  else escapedCode c.toNat

/-- One code point inside the quotes `q`; half of a surrogate pair is always escaped. -/
def quotedCode (q : Char) (n : Nat) : List Char :=
  if h : n.isValidChar then quotedChar q (Char.ofNatAux n h) else '\\' :: 'u' :: hexPadded 4 n

/-- Code points between quotes. -/
def quotedCodes (ns : List Nat) : String :=
  let q := quoteFor (ns.map Char.ofNat)
  String.ofList (q :: ns.flatMap (quotedCode q) ++ [q])

/-- The text between quotes. -/
def quoted (s : String) : String :=
  let q := quoteFor s.toList
  String.ofList (q :: s.toList.flatMap (quotedChar q) ++ [q])

end Weblog.Text
