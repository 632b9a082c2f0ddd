/-
  Access tokens: claims in a signed, compact text of three segments.

  A token is a header, a payload and a signature, each in URL base64 and joined by dots. It is
  accepted when the signature is the keyed digest of the text before it, the header names the one
  algorithm, and the claims hold at the given time.
-/
import Weblog.Bytes.Base64Url
import Weblog.Bytes.Sha256
import Weblog.Clock.Span
import Weblog.Json.Reader
import Weblog.Json.Whole
import Weblog.Json.Writer
import Weblog.Text.Split

namespace Weblog.Token

/-- The one algorithm of signatures. -/
def algorithm : String := "HS256"

/-- The header of every token that is issued. -/
def header : Json := .obj [("alg", .str algorithm), ("typ", .str "JWT")]

/-- The digest of a text under a secret. -/
def digest (secret : String) (text : List Char) : Bytes :=
  Bytes.Sha256.hmac (Bytes.ofText secret) (Bytes.utf8 text)

/-- How deep values may stand in each other in a segment. -/
def maxDepth : Nat := 980

/-! ## Issuing -/

/-- The segment of a value. -/
def segment (v : Json) : List Char :=
  Bytes.Base64Url.encode (Bytes.utf8 (v.writeAt Json.compactAscii 0))

/-- The text of a payload with its header and signature. -/
def sign (secret : String) (payload : Json) : String :=
  let text := segment header ++ '.' :: segment payload
  String.ofList (text ++ '.' :: Bytes.Base64Url.encode (digest secret text))

/-- Fifteen minutes, the lifetime in microseconds of a token for which none is given. -/
def defaultLifetime : Int := 900000000

/-- The lifetime in force: a lifetime of zero counts as none. -/
def lifetimeOr (lifetime : Option Int) : Int :=
  match lifetime with
  | some l => if l = 0 then defaultLifetime else l
  | none => defaultLifetime

/-- Why no token can be issued. -/
inductive IssueError
  /-- The lifetime is a value of a type that is no number, named by its type. -/
  | notANumber (type : String)
  /-- The lifetime is no number of seconds at all. -/
  | undefinedNumber
  | infiniteNumber
  | span (e : Span.Error)
  /-- The calendar has no date for the end of the lifetime. -/
  | dateOutOfRange
  /-- The claims have no text. -/
  | claims (e : Json.WriteFault)
deriving DecidableEq, Repr

def IssueError.message : IssueError → String
  | .notANumber type => "unsupported type for timedelta seconds component: " ++ type
  | .undefinedNumber => "cannot convert float NaN to integer"
  | .infiniteNumber => "cannot convert float infinity to integer"
  | .span e => e.message
  | .dateOutOfRange => "date value out of range"
  | .claims .tooDeep => "maximum recursion depth exceeded while encoding a JSON object"
  -- Claims with such a number are signed as they are, and they are no bytes.
  | .claims .numeralTooLong => "a bytes-like object is required, not 'dict'"

/-- A lifetime in microseconds from a number of seconds; null is none. -/
def readLifetime : Json → Except IssueError (Option Int)
  | .null => .ok none
  | .int n => .ok (some (Span.ofSeconds n))
  | .bool b => .ok (some (Span.ofSeconds (if b then 1 else 0)))
  | .float (.infinite _) => .error .infiniteNumber
  | .float x => match Span.ofNumber? x with
    | some micros => .ok (some micros)
    | none => .error .undefinedNumber
  | .str _ => .error (.notANumber "str")
  | .arr _ => .error (.notANumber "list")
  | .obj _ => .error (.notANumber "dict")

/-- A token for claims: they expire in the whole second at the end of the lifetime, whatever
expiry they named before. -/
def issue (secret : String) (now : Instant) (lifetime : Option Int)
    (claims : List (String × Json)) : Except IssueError String :=
  match Span.check (lifetimeOr lifetime) with
  | .error e => .error (.span e)
  | .ok () =>
    let expiry := now.later (lifetimeOr lifetime)
    if expiry.isRepresentable then
      let payload := Json.obj (Json.put claims "exp" (.int expiry.second))
      match payload.checkWrite maxDepth with
      | .error e => .error (.claims e)
      | .ok () => .ok (sign secret payload)
    else .error .dateOutOfRange

/-! ## Reading -/

/-- Why a token is not accepted. -/
inductive Refusal
  /-- The token is not one of ours, or its claims do not hold. -/
  | refused
  /-- A time claim stands for no whole number, and not because its text is none. -/
  | noNumber (e : Json.WholeError)
  /-- A segment holds values that stand too deep in each other. -/
  | tooDeep (inner : Json.Container)
deriving DecidableEq, Repr

/-- The object that a segment writes. -/
def readSegment (cs : List Char) : Except Refusal Json :=
  match (Bytes.Base64Url.decode? (Bytes.utf8 cs)).bind (Bytes.toChars? false) with
  | none => .error .refused
  | some chars =>
    match Json.readWithin maxDepth chars with
    | .ok (.obj fields) => .ok (.obj fields)
    | .error ⟨.tooDeep inner, _⟩ => .error (.tooDeep inner)
    | _ => .error .refused

/-- The text of a token that is signed, and its three segments. -/
def segments? (token : String) : Option (List Char × List Char × List Char × List Char) := do
  let (text, signature) ← Text.splitLast '.' token.toList
  let (head, body) ← Text.splitFirst '.' text
  return (text, head, body, signature)

/-- The payload of a token whose header and signature are in order. -/
def payload (secret token : String) : Except Refusal Json :=
  match segments? token with
  | none => .error .refused
  | some (text, head, body, signature) => do
    let head ← readSegment head
    if head.field? "alg" == some (.str algorithm)
        ∧ Bytes.Base64Url.decode? (Bytes.utf8 signature) = some (digest secret text) then
      readSegment body
    else .error .refused

/-! ## Claims -/

/-- What a time claim that stands for no whole number leads to. -/
def refusalOf : Json.WholeError → Refusal
  | .numeral .. | .undefined => .refused
  | e => .noNumber e

/-- A claim as a whole number. -/
def wholeNumber (v : Json) : Except Refusal Int := v.whole.mapError refusalOf

/-- Checks a time claim, if there is one. -/
def checkTime (claims : Json) (name : String) (holds : Int → Bool) : Except Refusal Unit :=
  match claims.field? name with
  | none => .ok ()
  | some v => do
    let n ← wholeNumber v
    if holds n then .ok () else .error .refused

/-- Checks that a claim, if there is one, is a text. -/
def checkText (claims : Json) (name : String) : Except Refusal Unit :=
  match claims.field? name with
  | none => .ok ()
  | some (.str _) => .ok ()
  | some _ => .error .refused

/-- Checks that a claim is not made. -/
def checkAbsent (claims : Json) (name : String) : Except Refusal Unit :=
  if (claims.field? name).isSome then .error .refused else .ok ()

/-- Checks all claims in a whole second: the time of issue is a number, the token is valid
already and not expired, no audience and no digest is named, subject and identity are texts. -/
def checkClaims (claims : Json) (second : Int) : Except Refusal Unit := do
  checkTime claims "iat" fun _ => true
  checkTime claims "nbf" fun n => n ≤ second
  checkTime claims "exp" fun n => second ≤ n
  checkAbsent claims "aud"
  checkText claims "sub"
  checkText claims "jti"
  checkAbsent claims "at_hash"

/-- The claims of a token that is accepted at a time. -/
def accept (secret : String) (now : Instant) (token : String) : Except Refusal Json :=
  match payload secret token with
  | .error r => .error r
  | .ok claims => (checkClaims claims now.second).map fun _ => claims

/-- The subject of a token that is accepted at a time. -/
def subject (secret : String) (now : Instant) (token : String) : Except Refusal String := do
  match (← accept secret now token).field? "sub" with
  | some (.str s) => .ok s
  | _ => .error .refused

end Weblog.Token
