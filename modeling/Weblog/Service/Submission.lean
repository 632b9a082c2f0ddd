/-
  What a request submits: its body, read as JSON if its content type says so, and its query
  parameters.
-/
import Weblog.Bytes.Encoding
import Weblog.Schema.Forms
import Weblog.Service.Done

namespace Weblog

/-- The body of a request. -/
inductive Submission
  | nothing
  | value (v : Json)
  /-- A body of another type than JSON. -/
  | bytes (b : Bytes)

namespace Submission

/-! ## Bodies -/

/-- A content type in lower case and without parameters. -/
def mediaType (contentType : String) : List Char :=
  let value := contentType.toList.takeWhile (· ≠ ';')
  (Text.lower (String.ofList (Text.trimBoth Text.isBlankChar value))).toList

/-- Whether a body with a content type is read as JSON: `application/json`, and a type of the
application family that ends in `+json`. -/
def isJson (contentType : Option String) : Bool :=
  match contentType with
  | none => false
  | some t =>
    let type := mediaType t
    let family := type.takeWhile (· ≠ '/')
    let subtype := (type.dropWhile (· ≠ '/')).tail
    family = "application".toList && !subtype.contains '/' && type.contains '/'
      && (subtype = "json".toList || "+json".toList.isSuffixOf subtype)

/-- How deep values may stand in each other in a body. -/
def maxDepth : Nat := 950

/-- The value of JSON bytes. -/
def readJson (bytes : Bytes) : Except Failure Json :=
  match Bytes.jsonChars? bytes with
  | none => refuse .unreadable
  | some cs =>
    match Json.readWithin maxDepth cs with
    | .ok v => .ok v
    | .error ⟨.numeralTooLong, _⟩ => refuse .unreadable
    | .error ⟨.tooDeep _, _⟩ => refuse .unreadable
    | .error ⟨fault, position⟩ =>
      .error (.faults [⟨.badJson fault, [.name "body", .index position], .obj []⟩])

/-- The body of a request. -/
def read (r : Request) : Except Failure Submission :=
  if r.body.isEmpty then .ok .nothing
  else if isJson r.contentType then (readJson r.body).map .value
  else .ok (.bytes r.body)

/-- A fault at the whole body. -/
def refuseBody (cause : Cause) (input : Json) : Except Failure Fields :=
  .error (.faults [⟨cause, [.name "body"], input⟩])

/-- The fields that a submission fills a form with. -/
def check (form : Form) : Submission → Except Failure Fields
  | .nothing => refuseBody .missing .null
  | .value v =>
    match form.checkValue .notObject v with
    | .ok fs => .ok fs
    | .error es => .error (.faults (es.map (Fault.inside (.name "body"))))
  | .bytes b =>
    match Bytes.toChars? false b with
    | some cs => refuseBody .notObject (.str (String.ofList cs))
    | none => .error (.escaped (.unreadableBody b))

end Submission

/-! ## Query parameters -/

namespace Parameter

/-- The most digits of a number in a query. -/
def numeralLimit : Nat := 4300

/-- The whole number of a sign and digits that begin with a zero only if that is all. -/
def plainNumber (cs : List Char) : Except Cause Int :=
  let (negative, digits) := match cs with
    | '-' :: ds => (true, ds)
    | ds => (false, ds)
  let front := digits.takeWhile Char.isDigit
  if digits = ['0'] then .ok 0
  else if front.isEmpty || front.head? = some '0' then .error .notWhole
  else if numeralLimit < front.length then .error .wholeTooLong
  else if front ≠ digits then .error .notWhole
  else
    let n : Int := Number.ofDigits digits
    .ok (if negative then -n else n)

/-- What follows zeros and underscores at the front: a digit, a sign, or the last of them where a
point or the end follows. -/
def afterZeros? (last : Char) : List Char → Option (List Char)
  | [] => some [last]
  | c :: cs =>
    if c = '0' || c = '_' then afterZeros? c cs
    else if c.isDigit || c = '-' then some (c :: cs)
    else if c = '.' then some (last :: c :: cs)
    else none

/-- A text without zeros in front of its number. -/
def withoutZeros? : List Char → Option (List Char)
  | [] => none
  | c :: cs =>
    if c = '0' then afterZeros? c cs
    else if c.isDigit || c = '-' then some (c :: cs)
    else none

/-- A text without a point and zeros at its end. -/
def withoutFraction (cs : List Char) : List Char :=
  let zeros := (cs.dropWhile (· ≠ '.')).tail
  if !zeros.isEmpty && zeros.all (· = '0') then cs.takeWhile (· ≠ '.') else cs

/-- A text without its underscores, if they are single and stand at neither end. -/
def withoutUnderscores (cs : List Char) : List Char :=
  let isDouble := (cs.zip cs.tail).contains ('_', '_')
  if cs.head? = some '_' || cs.getLast? = some '_' || isDouble then cs else cs.filter (· ≠ '_')

/-- A text without a plus sign at its front, in front of which no minus sign may stand. -/
def withoutPlus? : List Char → Option (List Char)
  | '+' :: '-' :: _ => none
  | '+' :: cs => some cs
  | cs => some cs

/-- A text without all that a number does not need: blanks around it, a plus sign, zeros in front,
a point with zeros, and underscores. -/
def cleaned? (cs : List Char) : Option (List Char) := do
  let cs ← withoutPlus? (Text.trimBoth Number.isNumeralBlank cs)
  let cs ← withoutZeros? cs
  return withoutUnderscores (withoutFraction cs)

/-- The whole number that a parameter gives, as it stands or cleaned. -/
def wholeNumber (s : String) : Except Cause Int :=
  match plainNumber s.toList with
  | .error .notWhole =>
    match cleaned? s.toList with
    | some cs => plainNumber cs
    | none => .error .notWhole
  | r => r

/-- A whole number between two bounds. -/
def boundedNumber (least greatest : Int) (s : String) : Except Cause Int := do
  let n ← wholeNumber s
  if n < least then .error (.lessThan least)
  else if greatest < n then .error (.greaterThan greatest)
  else .ok n

/-- A fault at a parameter. -/
def fault (name : String) (cause : Cause) (input : Json) : Fault :=
  ⟨cause, [.name "query", .name name], input⟩

/-- What a search asks for. -/
structure SearchRequest where
  query : String
  limit : Option Int
deriving DecidableEq, Repr

/-- The words to search for. -/
def checkQuery (q : Query) : Except (List Fault) String :=
  match q.last? "q" with
  | none => .error [fault "q" .missing .null]
  | some s => if s.isEmpty then .error [fault "q" (.tooShort 1) (.str s)] else .ok s

/-- The most posts to show. -/
def checkLimit (q : Query) : Except (List Fault) (Option Int) :=
  match q.last? "limit" with
  | none => .ok none
  | some s =>
    match boundedNumber 1 100 s with
    | .ok n => .ok (some n)
    | .error cause => .error [fault "limit" cause (.str s)]

/-- What the parameters of a search ask for. -/
def searchRequest (q : Query) : Except (List Fault) SearchRequest :=
  match checkQuery q, checkLimit q with
  | .ok s, .ok n => .ok ⟨s, n⟩
  | .error es, .ok _ => .error es
  | .ok _, .error es => .error es
  | .error es, .error fs => .error (es ++ fs)

end Parameter

end Weblog
