/-
  Reading a whole number from a text that a person wrote: white space around it, a sign, digits
  of any script, and single underscores between digits.
-/
import Weblog.Number.Digits
import Weblog.Text.Blank
import Weblog.Text.Quoted

namespace Weblog.Number

/-- Why a text is no whole number. -/
inductive NumeralError
  | malformed
  /-- More digits than a numeral may have. -/
  | tooLong (digits : Nat)
deriving DecidableEq, Repr

/-- The most digits that a numeral may have. -/
def maxDigits : Nat := 4300

/-- The words for a text that is no whole number; a long text is quoted in part. -/
def NumeralError.message (text : String) : NumeralError → String
  | .malformed =>
    "invalid literal for int() with base 10: "
      ++ String.ofList ((Text.quoted text).toList.take 200)
  | .tooLong n =>
    "Exceeds the limit (" ++ String.ofList (digits maxDigits)
      ++ " digits) for integer string conversion: value has " ++ String.ofList (digits n)
      ++ " digits; use sys.set_int_max_str_digits() to increase the limit"

/-- White space that may surround a numeral: all of it but the information separators. -/
def isNumeralBlank (c : Char) : Bool :=
  Text.isBlankChar c && !(0x1C ≤ c.toNat && c.toNat ≤ 0x1F)

/-- The values of the digits at the front, with single underscores between them left out, and
the rest of the text; `none` where an underscore does not stand between digits. -/
def takeDigits : List Char → Option (List Nat × List Char)
  | [] => some ([], [])
  | c :: cs =>
    match decimalValue? c with
    | some d => (takeDigits cs).map fun r => (d :: r.1, r.2)
    | none =>
      if c = '_' then
        if (cs.head?.bind decimalValue?).isSome then takeDigits cs else none
      else some ([], c :: cs)

/-- The sign at the front and the rest. -/
def takeSign : List Char → Bool × List Char
  | '-' :: cs => (true, cs)
  | '+' :: cs => (false, cs)
  | cs => (false, cs)

/-- The whole number that a text stands for. -/
def readNumeral (s : String) : Except NumeralError Int :=
  let (negative, cs) := takeSign (s.toList.dropWhile isNumeralBlank)
  if cs.head? = some '_' then .error .malformed
  else
    match takeDigits cs with
    | none | some ([], _) => .error .malformed
    | some (ds, rest) =>
      if maxDigits < ds.length then .error (.tooLong ds.length)
      else if rest.all isNumeralBlank then
        let n : Nat := ds.foldl (fun n d => 10 * n + d) 0
        .ok (if negative then -(n : Int) else n)
      else .error .malformed

/-! ## Decimals -/

/-- The character of a digit of any script as a western digit, and other characters as they
are. -/
def westernDigit (c : Char) : Char := ((decimalValue? c).map digitChar).getD c

/-- A text without its underscores, if each of them stands between digits. -/
def withoutUnderscores? : List Char → Option (List Char)
  | [] => some []
  | ['_'] => none
  | c :: cs =>
    if c = '_' then none
    else if cs.head? = some '_' then
      let rest := cs.tail
      if c.isDigit && (rest.head?.map Char.isDigit).getD false then
        (withoutUnderscores? rest).map (c :: ·)
      else none
    else (withoutUnderscores? cs).map (c :: ·)
termination_by cs => cs.length

/-- An exponent, or nothing. -/
def isExponent : List Char → Bool
  | [] => true
  | c :: cs =>
    let ds := (takeSign cs).2
    (c = 'e' || c = 'E') && !ds.isEmpty && ds.all Char.isDigit

/-- Digits with a point before, between or after them, and an exponent. -/
def isPlainDecimal (cs : List Char) : Bool :=
  let whole := cs.takeWhile Char.isDigit
  match cs.dropWhile Char.isDigit with
  | '.' :: rest =>
    (!whole.isEmpty || !(rest.takeWhile Char.isDigit).isEmpty)
      && isExponent (rest.dropWhile Char.isDigit)
  | rest => !whole.isEmpty && isExponent rest

/-- Whether a text stands for a floating-point number: a decimal, an infinity or the undefined
number, with a sign and white space around it. -/
def isDecimal (s : String) : Bool :=
  let cs := (Text.trimBoth isNumeralBlank s.toList).map westernDigit
  let body := (takeSign cs).2
  ["inf", "infinity", "nan"].contains (String.ofList (body.map Char.toLower))
    || ((withoutUnderscores? body).map isPlainDecimal).getD false

end Weblog.Number
