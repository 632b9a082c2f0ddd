/-
  Requests about comments. Each goes through the post that the comment is on.
-/
import Weblog.Service.Posts

namespace Weblog.Comments

/-- The comment with an identifier on a post. -/
def find (t : Tables) (postId id : String) : Except Failure CommentRow :=
  orRefuse .noComment (t.comments.find? fun c => c.id = id && c.postId = postId)

/-- Refuses a comment whose body is blank. -/
def checkBody (id : Option String) (body : Option String) : Except Failure Unit :=
  checkPresence .comment id fun
    | .body => isBlankText body
    | _ => false

/-- Adds a comment of the caller on a post. -/
def create (s : Store) (now : Instant) (caller : UserRow) (postId body : String) :
    Except Failure Done := do
  let post ← Posts.find s.tables postId
  checkBody none (some body)
  let (id, s) := s.nextId .comment
  let row : CommentRow := ⟨id, post.id, caller.id, some body, now, now⟩
  let s ← commit (s.addComment row)
  .ok (Done.created s (.comment row) [])

/-- Lists the comments on a post, oldest first. -/
def list (s : Store) (postId : String) : Except Failure Done := do
  let post ← Posts.find s.tables postId
  .ok (Done.read s (.comments (s.tables.commentsOf post.id)))

/-- Shows a comment. -/
def display (s : Store) (postId id : String) : Except Failure Done := do
  discard (Posts.find s.tables postId)
  .ok (Done.read s (.comment (← find s.tables postId id)))

/-- A comment with another body. -/
def revised (now : Instant) (c : CommentRow) (body : String) : CommentRow :=
  { c with body := some body, updatedAt := if c.body = some body then c.updatedAt else now }

/-- Changes a comment of the caller. -/
def update (s : Store) (now : Instant) (caller : UserRow) (postId id body : String) :
    Except Failure Done := do
  discard (Posts.find s.tables postId)
  let c ← find s.tables postId id
  if c.userId ≠ caller.id then refuse .notOwner
  checkBody (some c.id) (some body)
  let row := revised now c body
  .ok (Done.changed (s.change (·.setComment c.id row)) (.comment row) [])

/-- Takes out a comment of the caller. -/
def delete (s : Store) (caller : UserRow) (postId id : String) : Except Failure Done := do
  discard (Posts.find s.tables postId)
  let c ← find s.tables postId id
  if c.userId ≠ caller.id then refuse .notOwner
  .ok (Done.removed (s.change (·.removeComment c.id)) [])

end Weblog.Comments
