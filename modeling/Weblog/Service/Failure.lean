/-
  What keeps a request from success: a refusal, faults in what was submitted, a record that is not
  valid, or an error that no answer covers and that escapes.
-/
import Weblog.Auth.Token
import Weblog.Bytes.Utf8
import Weblog.Json.Display
import Weblog.Log
import Weblog.Record.Presence
import Weblog.Schema.Check
import Weblog.Search.Index
import Weblog.Store.Constraint
import Weblog.Web.Message

namespace Weblog

/-! ## Escaping errors -/

/-- An error that no answer covers. -/
inductive Escape
  /-- A record does not fit the form of its answer. -/
  | unfitAnswer (faults : List Fault)
  /-- An answer would have to write a number that is not finite. -/
  | notFinite
  /-- A body that is no text would have to be shown. -/
  | unreadableBody (body : Bytes)
  | password (e : PasswordError)
  | noNumber (e : Json.WholeError)
  /-- A token holds values that stand too deep in each other. -/
  | tooDeep (inner : Json.Container)
  | token (e : Token.IssueError)
  | search (e : Search.Error)
  | constraint (c : Constraint)
  /-- A tag that was found cannot be found again. -/
  | lostTag (id : String)
  /-- A row that was loaded is there no more. -/
  | lostRow

/-- The words for an escaping error. -/
def Escape.message : Escape → String
  | .unfitAnswer fs =>
    String.ofList (Number.digits fs.length) ++ " validation errors:\n"
      ++ String.join (fs.map fun f => "  " ++ f.toJson.display ++ "\n")
  | .notFinite => "Out of range float values are not JSON compliant"
  | .unreadableBody bytes => Bytes.decodeErrorMessage bytes
  | .password e => e.message
  | .noNumber e => e.message
  | .tooDeep inner => (Json.Fault.tooDeep inner).message
  | .token e => e.message
  | .search e => e.message
  | .constraint c => c.message
  | .lostTag id => Text.quoted id
  | .lostRow => "UPDATE statement on table 'posts' expected to update 1 row(s); 0 were matched."

/-! ## Refusals -/

/-- Why a request is refused. -/
inductive Refusal
  | noRoute
  /-- The path is known, and the method of its first route is named. -/
  | wrongMethod (allowed : String)
  | unreadable
  | notAuthenticated
  | badCredentials
  | inactiveUser
  | usernameTaken
  | emailTaken
  | wrongLogin
  | noPost
  | noComment
  | noTag
  | noSuchTags
  | notOwner
  | notOwnerOfPost
  | tagNameTaken
deriving DecidableEq, Repr

namespace Refusal

def status : Refusal → Nat
  | .noRoute | .noPost | .noComment | .noTag | .noSuchTags => 404
  | .wrongMethod _ => 405
  | .unreadable | .inactiveUser | .usernameTaken | .emailTaken | .tagNameTaken => 400
  | .notAuthenticated | .badCredentials | .wrongLogin => 401
  | .notOwner | .notOwnerOfPost => 403

/-- The words for a refusal. -/
def detail : Refusal → String
  | .noRoute => "Not Found"
  | .wrongMethod _ => "Method Not Allowed"
  | .unreadable => "There was an error parsing the body"
  | .notAuthenticated => "Not authenticated"
  | .badCredentials => "Could not validate credentials"
  | .inactiveUser => "Inactive user"
  | .usernameTaken => "Username already exists"
  | .emailTaken => "Email already registered"
  | .wrongLogin => "Incorrect username or password"
  | .noPost => "Post not found"
  | .noComment => "Comment not found"
  | .noTag => "Tag not found"
  | .noSuchTags => "Some tags not found"
  | .notOwner => "Not enough permissions"
  | .notOwnerOfPost => "You don't have permission to delete this post"
  | .tagNameTaken => "Tag name already exists"

/-- The headers that go with a refusal. -/
def headers : Refusal → Headers
  | .notAuthenticated | .badCredentials | .wrongLogin => [("WWW-Authenticate", "Bearer")]
  | .wrongMethod allowed => [("Allow", allowed)]
  | _ => []

end Refusal

/-! ## Failures -/

/-- What ends a request before its success. -/
inductive Failure
  | refused (r : Refusal)
  | faults (fs : List Fault)
  /-- A record that is not valid; a new one has no identifier yet. -/
  | invalid (kind : Kind) (id : Option String) (complaints : Complaints)
  | escaped (e : Escape)

/-- A broken constraint escapes. -/
def Failure.ofConstraint (c : Constraint) : Failure := .escaped (.constraint c)

/-- A JSON answer. -/
def Reply.json (status : Nat) (headers : Headers) (v : Json) : Reply :=
  let body := Bytes.ofText (v.write Json.compact)
  ⟨status, headers.map (fun h => (Headers.key h.1, h.2))
    ++ [("content-length", String.ofList (Number.digits body.length)),
      ("content-type", "application/json")], [body]⟩

namespace Failure

/-- The answer to a failed request. -/
def reply : Failure → Except Escape Reply
  | .refused r => .ok (Reply.json r.status r.headers (.obj [("detail", .str r.detail)]))
  | .faults fs =>
    let detail := fs.map Fault.toJson
    if Json.itemsFinite detail then .ok (Reply.json 422 [] (.obj [("detail", .arr detail)]))
    else .error .notFinite
  | .invalid _ _ cs => .ok (Reply.json 422 [] cs.response)
  | .escaped e => .error e

/-- The record about a record that is not valid. -/
def invalidRecord (kind : Kind) (id : Option String) (cs : Complaints) : LogRecord :=
  ⟨.warning, .validation, kind.text ++ " " ++ id.getD "None" ++ " is invalid: "
    ++ cs.toJson.display⟩

/-- The log records about a failure of a request on a path. -/
def records (path : String) : Failure → List LogRecord
  | .invalid kind id cs =>
    [invalidRecord kind id cs,
      ⟨.warning, .refusals, "Record invalid on " ++ path ++ ": " ++ cs.toJson.display⟩]
  | _ => []

end Failure

end Weblog
