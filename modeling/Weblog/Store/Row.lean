/-
  Rows of the tables.
-/
import Weblog.Auth.Password
import Weblog.Clock
import Weblog.Record.Kind
import Weblog.Search.Document

namespace Weblog

structure UserRow where
  id : String
  username : String
  email : String
  passwordHash : PasswordHash
  bio : Option String
  createdAt : Instant
  lastLogin : Option Instant
  isActive : Bool
deriving DecidableEq, Repr

structure PostRow where
  id : String
  userId : String
  title : Option String
  body : Option String
  createdAt : Instant
  updatedAt : Instant
deriving DecidableEq, Repr

/-- A comment names its post, which may be gone. -/
structure CommentRow where
  id : String
  postId : String
  userId : String
  body : Option String
  createdAt : Instant
  updatedAt : Instant
deriving DecidableEq, Repr

structure TagRow where
  id : String
  name : String
  description : Option String
  userId : String
  createdAt : Instant
  updatedAt : Instant
deriving DecidableEq, Repr

/-- A post carries a tag. -/
structure Link where
  postId : String
  tagId : String
deriving DecidableEq, Repr

/-- The searchable text of a record. -/
structure DocumentRow where
  recordType : String
  recordId : String
  content : String
deriving DecidableEq, Repr

/-- The searchable text of a post. -/
def PostRow.content (title body : Option String) : String :=
  Document.ofTexts [title.getD "", body.getD ""]

/-- The document of a post. -/
def PostRow.document (p : PostRow) : DocumentRow :=
  ⟨Kind.post.table, p.id, PostRow.content p.title p.body⟩

end Weblog
