/-
  Requests and answers.

  Texts of headers are sent in one byte a character, so they can hold the first 256 characters only.
-/
import Weblog.Number.Digits
import Weblog.Text.Case
import Weblog.Text.Quoted
import Weblog.Text.Split
import Weblog.Web.Query

namespace Weblog.Latin

/-- Whether a character has a byte of its own. -/
def hasByte (c : Char) : Bool := c.toNat < 0x100

/-- A stretch of characters that have no bytes: the number of characters in front of it, and the
stretch. -/
structure Error where
  position : Nat
  stretch : List Char
deriving DecidableEq, Repr

/-- The words for characters that cannot be sent. -/
def Error.message (e : Error) : String :=
  let decimal := fun n => String.ofList (Number.digits n)
  let place := match e.stretch with
    | [c] =>
      "character '" ++ String.ofList (Text.escapedCode c.toNat) ++ "' in position "
        ++ decimal e.position
    | _ =>
      "characters in position " ++ decimal e.position ++ "-"
        ++ decimal (e.position + e.stretch.length - 1)
  "'latin-1' codec can't encode " ++ place ++ ": ordinal not in range(256)"

/-- Checks that every character of a text has a byte. -/
def check (s : String) : Except Error Unit :=
  let front := s.toList.takeWhile hasByte
  match s.toList.dropWhile hasByte with
  | [] => .ok ()
  | rest => .error ⟨front.length, rest.takeWhile fun c => !hasByte c⟩

end Weblog.Latin

namespace Weblog

/-- A request. -/
structure Request where
  /-- Scheme and host of the address. -/
  origin : String
  method : String
  /-- The path, its escapes resolved. -/
  path : String
  /-- The query string as received. -/
  query : String
  contentType : Option String
  authorization : Option String
  body : Bytes
deriving DecidableEq, Repr

namespace Request

/-- The path of a target, its escapes resolved, and the query string as it stands. -/
def splitTarget (target : String) : String × String :=
  let cs := target.toList
  (Percent.decode (cs.takeWhile (· ≠ '?')), String.ofList (cs.dropWhile (· ≠ '?')).tail)

/-- A path as it stands in an address: what would end it there is escaped. -/
def shownPath (path : String) : String :=
  String.ofList (path.toList.flatMap fun c =>
    if c = '?' || c = '#' then Percent.escape (Bytes.byte c.toNat) else [c])

/-- An address with a path and a query string. -/
def address (origin path query : String) : String :=
  origin ++ shownPath path ++ if query.isEmpty then "" else "?" ++ query

/-- The whole address of a request. -/
def url (r : Request) : String := address r.origin r.path r.query

/-- The path of the address as it is read from there: tabs and line breaks are left out. -/
def addressPath (r : Request) : String :=
  String.ofList ((shownPath r.path).toList.filter fun c => c ≠ '\t' && c ≠ '\n' && c ≠ '\r')

/-- The parameters of a request. -/
def parameters (r : Request) : Query := Query.ofText r.query

end Request

/-- Headers in order; a name may stand more than once. -/
abbrev Headers := List (String × String)

namespace Headers

/-- The name in lower case, as names are compared. -/
def key (name : String) : String := name.map Char.toLower

/-- The headers of a name. -/
def named (hs : Headers) (name : String) : Headers := hs.filter fun h => key h.1 = name

/-- One header per name, spelt alike: the last value, at the first place. -/
def merged (hs : Headers) : Headers :=
  hs.foldl (fun done h =>
    if done.any (·.1 = h.1) then done.map fun d => if d.1 = h.1 then h else d
    else done ++ [h]) []

end Headers

/-- An answer whose body comes in chunks. -/
structure Reply where
  status : Nat
  headers : Headers
  chunks : List Bytes
deriving DecidableEq, Repr

namespace Reply

/-- The whole body. -/
def body (r : Reply) : Bytes := r.chunks.flatten

/-- The content type header for a media type: texts name their encoding. -/
def contentType (mediaType : String) : String :=
  let named := Text.occurs "charset=".toList (mediaType.toList.map Char.toLower)
  if "text/".toList.isPrefixOf mediaType.toList && !named then mediaType ++ "; charset=utf-8"
  else mediaType

/-- The headers of an answer with a media type, unless the headers give a content type
themselves. All of them have to be texts that can be sent. -/
def headersWith (mediaType : Option String) (headers : Headers) : Except Latin.Error Headers := do
  let headers := headers.map fun h => (Text.lower h.1, h.2)
  headers.forM fun h => do
    Latin.check h.1
    Latin.check h.2
  match mediaType with
  | some t =>
    if (Headers.named headers "content-type").isEmpty then
      Latin.check t
      return headers ++ [("content-type", contentType t)]
    else return headers
  | none => return headers

/-- An answer that is sent chunk by chunk. -/
def stream (status : Nat) (mediaType : Option String) (headers : Headers)
    (chunks : List Bytes) : Except Latin.Error Reply :=
  (headersWith mediaType headers).map fun headers => ⟨status, headers, chunks⟩

/-- The answer to a request that an error ended. -/
def internalError : Reply :=
  ⟨500, [("content-type", contentType "text/plain")], [Bytes.ofText "Internal Server Error"]⟩

end Reply

end Weblog
