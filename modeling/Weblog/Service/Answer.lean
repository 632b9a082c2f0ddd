/-
  What successful requests answer: records as objects, checked against the forms of answers.
-/
import Weblog.Schema.Forms
import Weblog.Service.Failure

namespace Weblog

/-- A post with what is counted and listed beside it. -/
structure PostView where
  post : PostRow
  tagIds : List String
  commentsCount : Nat
deriving DecidableEq, Repr

/-- A post as it is shown. -/
def Tables.view (t : Tables) (p : PostRow) : PostView :=
  ⟨p, (t.tagsOf p.id).map (·.id), (t.commentsOf p.id).length⟩

/-- What a successful request shows. -/
inductive View
  | user (u : UserRow)
  | post (p : PostView)
  | posts (ps : List PostView)
  | comment (c : CommentRow)
  | comments (cs : List CommentRow)
  | tag (g : TagRow)
  | tags (gs : List TagRow)
  | token (issued : Except Token.IssueError String)
  | nothing

namespace View

/-- A record as an object: the fields that its form checks, and the rest. -/
def checked (form : Form) (fields rest : List (String × Json)) : Except Escape Json :=
  match form.checkFields fields with
  | .ok fs => .ok (.obj (fs ++ rest))
  | .error es => .error (.unfitAnswer es)

def time (t : Instant) : Json := .str t.text

def userJson (u : UserRow) : Except Escape Json :=
  checked .userAnswer
    [("username", .str u.username), ("email", .str u.email), ("bio", Json.ofText? u.bio)]
    [("id", .str u.id), ("created_at", time u.createdAt),
      ("last_login", (u.lastLogin.map time).getD .null), ("is_active", .bool u.isActive)]

def postJson (p : PostView) : Except Escape Json :=
  checked .postAnswer
    [("title", Json.ofText? p.post.title), ("body", Json.ofText? p.post.body)]
    [("id", .str p.post.id), ("user_id", .str p.post.userId),
      ("created_at", time p.post.createdAt), ("updated_at", time p.post.updatedAt),
      ("tag_ids", .arr (p.tagIds.map .str)), ("comments_count", .int p.commentsCount)]

def commentJson (c : CommentRow) : Except Escape Json :=
  checked .commentAnswer [("body", Json.ofText? c.body)]
    [("id", .str c.id), ("post_id", .str c.postId), ("user_id", .str c.userId),
      ("created_at", time c.createdAt), ("updated_at", time c.updatedAt)]

def tagJson (g : TagRow) : Except Escape Json :=
  checked .tagAnswer [("name", .str g.name), ("description", Json.ofText? g.description)]
    [("id", .str g.id), ("user_id", .str g.userId), ("created_at", time g.createdAt),
      ("updated_at", time g.updatedAt)]

def tokenJson (token : String) : Json :=
  .obj [("access_token", .str token), ("token_type", .str "bearer")]

/-- What is shown, as a value; `none` where nothing is. -/
def toJson? : View → Except Escape (Option Json)
  | .user u => (userJson u).map some
  | .post p => (postJson p).map some
  | .posts ps => (ps.mapM postJson).map fun vs => some (.arr vs)
  | .comment c => (commentJson c).map some
  | .comments cs => (cs.mapM commentJson).map fun vs => some (.arr vs)
  | .tag g => (tagJson g).map some
  | .tags gs => (gs.mapM tagJson).map fun vs => some (.arr vs)
  | .token (.ok t) => .ok (some (tokenJson t))
  | .token (.error e) => .error (.token e)
  | .nothing => .ok none

/-- The answer that shows something with a status. -/
def reply (status : Nat) (v : View) : Except Escape Reply :=
  v.toJson?.map fun
    | some j => Reply.json status [] j
    | none => ⟨status, [], []⟩

end View

end Weblog
