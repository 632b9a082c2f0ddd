/-
  The service: from a request to its answer, the changed store, and the log records.

  A body is read first, then the caller is looked up, then the submitted fields are checked, and
  only then does the endpoint act. A request that fails leaves the store as it was.
-/
import Weblog.Service.Comments
import Weblog.Service.Endpoint
import Weblog.Service.Tags
import Weblog.Service.Users
import Weblog.Web.RequestLog

namespace Weblog.Service

/-- The user who makes a request. -/
def caller (settings : Settings) (now : Instant) (s : Store) (r : Request) :
    Except Failure UserRow :=
  Caller.ofHeader settings.secret now s.tables r.authorization

/-- The active user who makes a request. -/
def activeCaller (settings : Settings) (now : Instant) (s : Store) (r : Request) :
    Except Failure UserRow := do
  Caller.active (← caller settings now s r)

/-- Checks the parameters of a search and searches. -/
def search (s : Store) (r : Request) : Except Failure Done :=
  match Parameter.searchRequest r.parameters with
  | .error es => .error (.faults es)
  | .ok sr => Posts.search s sr.query sr.limit

/-- Which posts a request asks for. -/
def selection (r : Request) : Posts.Selection :=
  ⟨r.parameters.last? "user_id", r.parameters.last? "tag_id"⟩

/-- Runs an endpoint that anyone may call with a filled form. -/
def withForm (form : Form) (r : Request) (act : Fields → Except Failure Done) :
    Except Failure Done := do
  let submission ← Submission.read r
  let fields ← submission.check form
  act fields

/-- Runs an endpoint for its caller. -/
def withCaller (settings : Settings) (now : Instant) (s : Store) (r : Request)
    (act : UserRow → Except Failure Done) : Except Failure Done := do
  act (← caller settings now s r)

/-- Runs an endpoint for its caller with a filled form. -/
def withBoth (settings : Settings) (now : Instant) (s : Store) (form : Form) (r : Request)
    (act : UserRow → Fields → Except Failure Done) : Except Failure Done := do
  let submission ← Submission.read r
  let user ← caller settings now s r
  let fields ← submission.check form
  act user fields

/-- Runs an endpoint. -/
def run (settings : Settings) (now : Instant) (s : Store) (r : Request) :
    Endpoint → Except Failure Done
  | .register => withForm .userCreate r fun fs =>
      Users.register s now (.ofFields fs)
  | .login => withForm .userLogin r fun fs =>
      Users.login settings s now (.ofFields fs)
  | .showMe => do
      let user ← activeCaller settings now s r
      .ok (Users.display s user)
  | .updateMe => do
      let submission ← Submission.read r
      let user ← activeCaller settings now s r
      let fields ← submission.check .userUpdate
      .ok (Users.update s user (fields.text? "bio"))
  | .createPost => withBoth settings now s .postCreate r fun user fs =>
      Posts.create s now user (.ofFields fs)
  | .listPosts => .ok (Posts.list s (selection r))
  | .searchPosts => search s r
  | .showPost id => Posts.display s id
  | .updatePost id => withBoth settings now s .postUpdate r fun user fs =>
      Posts.update s now user id (.ofFields fs)
  | .deletePost id => withCaller settings now s r fun user => Posts.delete s user id
  | .createComment postId => withBoth settings now s .commentCreate r fun user fs =>
      Comments.create s now user postId (fs.text "body")
  | .listComments postId => Comments.list s postId
  | .showComment postId id => Comments.display s postId id
  | .updateComment postId id => withBoth settings now s .commentUpdate r fun user fs =>
      Comments.update s now user postId id (fs.text "body")
  | .deleteComment postId id => withCaller settings now s r fun user =>
      Comments.delete s user postId id
  | .createTag => withBoth settings now s .tagCreate r fun user fs =>
      Tags.create s now user (fs.text "name") (fs.text? "description")
  | .listTags => .ok (Tags.list s)
  | .showTag id => Tags.display s id
  | .listTagPosts id => Tags.posts s id
  | .updateTag id => withBoth settings now s .tagUpdate r fun user fs =>
      Tags.update s now user id (.ofFields fs)
  | .deleteTag id => withCaller settings now s r fun user => Tags.delete s user id

/-- The answer to a path that is known but for slashes at its end. -/
def redirect (r : Request) (path : String) : Reply :=
  ⟨307, [("content-length", "0"),
    ("location", Percent.encode (Request.address r.origin path r.query))], []⟩

/-- What a request leads to behind the request log: the store, the outcome, and the records. -/
def respond (settings : Settings) (now : Instant) (s : Store) (r : Request) :
    Store × Except Escape Reply × List LogRecord :=
  match Endpoint.route r.method r.path with
  | .refused refusal => (s, (Failure.refused refusal).reply, [])
  | .redirected path => (s, .ok (redirect r path), [])
  | .found e =>
    match run settings now s r e with
    | .error f => (s, f.reply, f.records r.addressPath)
    | .ok d => (d.store, d.view.reply d.status, d.records)

/-- Handles a request. -/
def handle (settings : Settings) (now : Instant) (s : Store) (r : Request) :
    Store × Except Escape Reply × List LogRecord :=
  let (s, outcome, records) := respond settings now s r
  let (outcome, more) := RequestLog.observe Escape.message r outcome
  (s, outcome, records ++ more)

end Weblog.Service
