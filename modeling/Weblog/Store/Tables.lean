/-
  The six tables: what they hold, how rows are found, and how rows are put in, changed and taken
  out.

  A post and its document are written together and taken out together. Nothing here checks
  whether a change is allowed; `Store.Constraint` does.
-/
import Weblog.Store.Row

namespace Weblog

/-- The contents of the database. Rows stand in the order in which they were put in. -/
structure Tables where
  users : List UserRow
  posts : List PostRow
  comments : List CommentRow
  tags : List TagRow
  links : List Link
  documents : List DocumentRow
deriving DecidableEq, Repr

namespace Tables

def empty : Tables := ⟨[], [], [], [], [], []⟩

/-! ## Finding rows -/

def user? (t : Tables) (id : String) : Option UserRow := t.users.find? (·.id = id)

def userNamed? (t : Tables) (name : String) : Option UserRow := t.users.find? (·.username = name)

def userMailed? (t : Tables) (email : String) : Option UserRow := t.users.find? (·.email = email)

def post? (t : Tables) (id : String) : Option PostRow := t.posts.find? (·.id = id)

def comment? (t : Tables) (id : String) : Option CommentRow := t.comments.find? (·.id = id)

def tag? (t : Tables) (id : String) : Option TagRow := t.tags.find? (·.id = id)

def tagNamed? (t : Tables) (name : String) : Option TagRow := t.tags.find? (·.name = name)

def document? (t : Tables) (type id : String) : Option DocumentRow :=
  t.documents.find? fun d => d.recordType = type && d.recordId = id

/-! ## Relations -/

/-- Whether a post carries a tag. -/
def carries (t : Tables) (postId tagId : String) : Bool := t.links.contains ⟨postId, tagId⟩

/-- The tags that a post carries. -/
def tagsOf (t : Tables) (postId : String) : List TagRow :=
  t.tags.filter fun g => t.carries postId g.id

/-- The posts that carry a tag. -/
def postsOf (t : Tables) (tagId : String) : List PostRow :=
  t.posts.filter fun p => t.carries p.id tagId

/-- The posts beside the tags that they carry, once for each link that joins them. -/
def taggings (t : Tables) : List (PostRow × TagRow) :=
  t.posts.flatMap fun p => (t.links.filter (·.postId = p.id)).flatMap fun l =>
    (t.tags.filter (·.id = l.tagId)).map fun g => (p, g)

/-- The comments on a post, oldest first. -/
def commentsOf (t : Tables) (postId : String) : List CommentRow :=
  (t.comments.filter (·.postId = postId)).mergeSort fun a b =>
    a.createdAt.micros ≤ b.createdAt.micros

/-- Rows by a time, newest first. -/
def newestFirst {α : Type} (time : α → Instant) (rows : List α) : List α :=
  rows.mergeSort fun a b => (time b).micros ≤ (time a).micros

/-! ## Documents -/

/-- Takes out the document of a record. -/
def unindex (t : Tables) (type id : String) : Tables :=
  { t with documents := t.documents.filter fun d => !(d.recordType = type && d.recordId = id) }

/-- Writes a document in place of the one that its record had. -/
def index (t : Tables) (d : DocumentRow) : Tables :=
  let cleared := t.unindex d.recordType d.recordId
  { cleared with documents := cleared.documents ++ [d] }

/-! ## Users -/

def addUser (t : Tables) (u : UserRow) : Tables := { t with users := t.users ++ [u] }

/-- Puts a row in the place of the one with the given key. -/
def setUser (t : Tables) (id : String) (u : UserRow) : Tables :=
  { t with users := t.users.map fun v => if v.id = id then u else v }

def removeUser (t : Tables) (id : String) : Tables :=
  { t with users := t.users.filter (·.id ≠ id) }

/-! ## Posts -/

/-- Puts in a post without its document. -/
def addPostRow (t : Tables) (p : PostRow) : Tables := { t with posts := t.posts ++ [p] }

def setPostRow (t : Tables) (id : String) (p : PostRow) : Tables :=
  { t with posts := t.posts.map fun q => if q.id = id then p else q }

/-- Puts in a post and its document. -/
def addPost (t : Tables) (p : PostRow) : Tables := (t.addPostRow p).index p.document

/-- Takes out the links of a post. -/
def unlinkPost (t : Tables) (id : String) : Tables :=
  { t with links := t.links.filter (·.postId ≠ id) }

/-- Takes out a post and its document. -/
def removePostRow (t : Tables) (id : String) : Tables :=
  { t with posts := t.posts.filter (·.id ≠ id) }.unindex Kind.post.table id

/-- Takes out a post, its document and its links; its comments stay. -/
def removePost (t : Tables) (id : String) : Tables := (t.unlinkPost id).removePostRow id

/-- Lets a post carry exactly the given tags. -/
def setTags (t : Tables) (postId : String) (tagIds : List String) : Tables :=
  let kept := t.links.filter fun l => l.postId ≠ postId || tagIds.contains l.tagId
  let added := (tagIds.filter fun g => !t.carries postId g).eraseDups
  { t with links := kept ++ added.map fun g => ⟨postId, g⟩ }

/-! ## Comments -/

def addComment (t : Tables) (c : CommentRow) : Tables := { t with comments := t.comments ++ [c] }

def setComment (t : Tables) (id : String) (c : CommentRow) : Tables :=
  { t with comments := t.comments.map fun d => if d.id = id then c else d }

def removeComment (t : Tables) (id : String) : Tables :=
  { t with comments := t.comments.filter (·.id ≠ id) }

/-! ## Tags -/

def addTag (t : Tables) (g : TagRow) : Tables := { t with tags := t.tags ++ [g] }

def setTag (t : Tables) (id : String) (g : TagRow) : Tables :=
  { t with tags := t.tags.map fun h => if h.id = id then g else h }

/-- Takes out the links of a tag. -/
def unlinkTag (t : Tables) (id : String) : Tables :=
  { t with links := t.links.filter (·.tagId ≠ id) }

def removeTagRow (t : Tables) (id : String) : Tables :=
  { t with tags := t.tags.filter (·.id ≠ id) }

/-- Takes out a tag and its links. -/
def removeTag (t : Tables) (id : String) : Tables := (t.unlinkTag id).removeTagRow id

end Tables

end Weblog
