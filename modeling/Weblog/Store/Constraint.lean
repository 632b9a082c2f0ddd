/-
  The constraints of the tables, and the store that keeps to them: the tables, the numbers used up
  for identifiers, and whether references are enforced.
-/
import Weblog.Number.Digits
import Weblog.Store.Tables

namespace Weblog

/-- A constraint that a change would break. -/
inductive Constraint
  | notNull (kind : Kind) (column : Column)
  | unique (kind : Kind) (column : Column)
  | uniqueLink
  | uniqueDocument
  | linkWithoutPost
  | linkWithoutTag
  | documentWithoutType
  | documentWithoutRecord
  | documentWithoutContent
  | reference
deriving DecidableEq, Repr

/-- The words for a broken constraint. -/
def Constraint.message : Constraint → String
  | .notNull k c => "NOT NULL constraint failed: " ++ k.table ++ "." ++ c.text
  | .unique k c => "UNIQUE constraint failed: " ++ k.table ++ "." ++ c.text
  | .uniqueLink => "UNIQUE constraint failed: posts_tags.post_id, posts_tags.tag_id"
  | .uniqueDocument =>
    "UNIQUE constraint failed: search_documents.record_type, search_documents.record_id"
  | .linkWithoutPost => "NOT NULL constraint failed: posts_tags.post_id"
  | .linkWithoutTag => "NOT NULL constraint failed: posts_tags.tag_id"
  | .documentWithoutType => "NOT NULL constraint failed: search_documents.record_type"
  | .documentWithoutRecord => "NOT NULL constraint failed: search_documents.record_id"
  | .documentWithoutContent => "NOT NULL constraint failed: search_documents.content"
  | .reference => "FOREIGN KEY constraint failed"

/-- How many identifiers of each kind have been given out. -/
structure Counters where
  users : Nat
  posts : Nat
  comments : Nat
  tags : Nat
deriving DecidableEq, Repr

namespace Counters

def zero : Counters := ⟨0, 0, 0, 0⟩

def used (c : Counters) : Kind → Nat
  | .user => c.users
  | .post => c.posts
  | .comment => c.comments
  | .tag => c.tags

def bump (c : Counters) : Kind → Counters
  | .user => { c with users := c.users + 1 }
  | .post => { c with posts := c.posts + 1 }
  | .comment => { c with comments := c.comments + 1 }
  | .tag => { c with tags := c.tags + 1 }

end Counters

/-- The identifier with a number. -/
def Kind.identifier (k : Kind) (n : Nat) : String :=
  let stem := match k with
    | .user => "user-"
    | .post => "post-"
    | .comment => "comment-"
    | .tag => "tag-"
  stem ++ String.ofList (Number.digits n)

/-- The database with what belongs to it. -/
structure Store where
  tables : Tables
  counters : Counters
  /-- Whether references to users, posts and tags must name rows that are there. -/
  enforces : Bool
deriving DecidableEq, Repr

namespace Store

/-- A store with empty tables. -/
def fresh (enforces : Bool) : Store := ⟨.empty, .zero, enforces⟩

/-- The store with a changed database. -/
def change (s : Store) (f : Tables → Tables) : Store := { s with tables := f s.tables }

/-- The next identifier of a kind, which is used up. -/
def nextId (s : Store) (k : Kind) : String × Store :=
  (k.identifier (s.counters.used k + 1), { s with counters := s.counters.bump k })

/-! ## References -/

/-- Whether a user may be named. -/
def knowsUser (s : Store) (id : String) : Bool :=
  !s.enforces || (s.tables.user? id).isSome

/-- Whether a link may be put in. -/
def knowsBoth (s : Store) (l : Link) : Bool :=
  !s.enforces || ((s.tables.post? l.postId).isSome && (s.tables.tag? l.tagId).isSome)

/-- Whether no row names a user. -/
def isUnnamed (t : Tables) (userId : String) : Bool :=
  !t.posts.any (·.userId = userId) && !t.comments.any (·.userId = userId)
    && !t.tags.any (·.userId = userId)

/-! ## Adding rows -/

def addUser (s : Store) (u : UserRow) : Except Constraint Store :=
  if (s.tables.userMailed? u.email).isSome then .error (.unique .user .email)
  else if (s.tables.userNamed? u.username).isSome then .error (.unique .user .username)
  else if (s.tables.user? u.id).isSome then .error (.unique .user .id)
  else .ok (s.change (·.addUser u))

/-- Adds a post and its document. -/
def addPost (s : Store) (p : PostRow) : Except Constraint Store :=
  if (s.tables.post? p.id).isSome then .error (.unique .post .id)
  else if s.knowsUser p.userId then .ok (s.change (·.addPost p))
  else .error .reference

def addComment (s : Store) (c : CommentRow) : Except Constraint Store :=
  if (s.tables.comment? c.id).isSome then .error (.unique .comment .id)
  else if s.knowsUser c.userId then .ok (s.change (·.addComment c))
  else .error .reference

def addTag (s : Store) (g : TagRow) : Except Constraint Store :=
  if (s.tables.tagNamed? g.name).isSome then .error (.unique .tag .name)
  else if (s.tables.tag? g.id).isSome then .error (.unique .tag .id)
  else if s.knowsUser g.userId then .ok (s.change (·.addTag g))
  else .error .reference

/-- Adds one link. -/
def addLink (s : Store) (l : Link) : Except Constraint Store :=
  if s.tables.links.contains l then .error .uniqueLink
  else if s.knowsBoth l then .ok (s.change fun t => { t with links := t.links ++ [l] })
  else .error .reference

/-- Lets a post carry exactly the given tags. -/
def setTags (s : Store) (postId : String) (tagIds : List String) : Except Constraint Store :=
  let added := (tagIds.filter fun g => !s.tables.carries postId g).eraseDups
  if added.all fun g => s.knowsBoth ⟨postId, g⟩ then .ok (s.change (·.setTags postId tagIds))
  else .error .reference

/-! ## Changing rows -/

/-- Changes the name of a tag and whatever else its row holds. -/
def setTag (s : Store) (g : TagRow) : Except Constraint Store :=
  if s.tables.tags.any fun h => h.id ≠ g.id && h.name = g.name then .error (.unique .tag .name)
  else .ok (s.change (·.setTag g.id g))

end Store

end Weblog
