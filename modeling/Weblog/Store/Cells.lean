/-
  Rows of any kind, and their values column by column.

  A row gives a cell for each column of its kind, and the cells of a kind make up a row unless a
  column that must not be null is (`Row.ofCells_cell`: a row is made up by its own cells).
-/
import Weblog.Store.Cell
import Weblog.Store.Constraint

namespace Weblog

/-! ## Rows -/

/-- A row of any kind. -/
inductive Row
  | user (u : UserRow)
  | post (p : PostRow)
  | comment (c : CommentRow)
  | tag (g : TagRow)
deriving DecidableEq, Repr

namespace Row

def kind : Row → Kind
  | .user _ => .user
  | .post _ => .post
  | .comment _ => .comment
  | .tag _ => .tag

def id : Row → String
  | .user u => u.id
  | .post p => p.id
  | .comment c => c.id
  | .tag g => g.id

def createdAt : Row → Instant
  | .user u => u.createdAt
  | .post p => p.createdAt
  | .comment c => c.createdAt
  | .tag g => g.createdAt

/-- The value in a column; null in a column that the kind does not have. -/
def cell : Row → Column → Cell
  | .user u, .id => .text u.id
  | .user u, .username => .text u.username
  | .user u, .email => .text u.email
  | .user u, .passwordHash => .hash u.passwordHash
  | .user u, .bio => .ofText? u.bio
  | .user u, .createdAt => .time (.ofReading u.createdAt)
  | .user u, .lastLogin => .ofTime? u.lastLogin
  | .user u, .isActive => .flag u.isActive
  | .post p, .id => .text p.id
  | .post p, .userId => .text p.userId
  | .post p, .title => .ofText? p.title
  | .post p, .body => .ofText? p.body
  | .post p, .createdAt => .time (.ofReading p.createdAt)
  | .post p, .updatedAt => .time (.ofReading p.updatedAt)
  | .comment c, .id => .text c.id
  | .comment c, .postId => .text c.postId
  | .comment c, .userId => .text c.userId
  | .comment c, .body => .ofText? c.body
  | .comment c, .createdAt => .time (.ofReading c.createdAt)
  | .comment c, .updatedAt => .time (.ofReading c.updatedAt)
  | .tag g, .id => .text g.id
  | .tag g, .name => .text g.name
  | .tag g, .description => .ofText? g.description
  | .tag g, .userId => .text g.userId
  | .tag g, .createdAt => .time (.ofReading g.createdAt)
  | .tag g, .updatedAt => .time (.ofReading g.updatedAt)
  | _, _ => .null

/-- The values in all columns of the kind. -/
def cells (row : Row) : List (Column × Cell) := row.kind.columns.map fun c => (c, row.cell c)

/-- A value that must be there. -/
def need {α : Type} (k : Kind) (c : Column) : Option α → Except Constraint α
  | some a => .ok a
  | none => .error (.notNull k c)

/-- The row of a kind with the given cells. Columns are looked at in table order. -/
def ofCells (k : Kind) (f : Column → Cell) : Except Constraint Row :=
  match k with
  | .user => do
    let id ← need k .id (f .id).text?
    let username ← need k .username (f .username).text?
    let email ← need k .email (f .email).text?
    let hash ← need k .passwordHash (f .passwordHash).hash?
    let created ← need k .createdAt (f .createdAt).time?
    let active ← need k .isActive (f .isActive).flag?
    .ok (.user ⟨id, username, email, hash, (f .bio).text?, created, (f .lastLogin).time?, active⟩)
  | .post => do
    let id ← need k .id (f .id).text?
    let userId ← need k .userId (f .userId).text?
    let created ← need k .createdAt (f .createdAt).time?
    let updated ← need k .updatedAt (f .updatedAt).time?
    .ok (.post ⟨id, userId, (f .title).text?, (f .body).text?, created, updated⟩)
  | .comment => do
    let id ← need k .id (f .id).text?
    let postId ← need k .postId (f .postId).text?
    let userId ← need k .userId (f .userId).text?
    let created ← need k .createdAt (f .createdAt).time?
    let updated ← need k .updatedAt (f .updatedAt).time?
    .ok (.comment ⟨id, postId, userId, (f .body).text?, created, updated⟩)
  | .tag => do
    let id ← need k .id (f .id).text?
    let name ← need k .name (f .name).text?
    let userId ← need k .userId (f .userId).text?
    let created ← need k .createdAt (f .createdAt).time?
    let updated ← need k .updatedAt (f .updatedAt).time?
    .ok (.tag ⟨id, name, (f .description).text?, userId, created, updated⟩)

/-- A row is made up by its own cells. -/
theorem ofCells_cell (row : Row) : ofCells row.kind row.cell = .ok row := by
  cases row <;> simp [ofCells, kind, cell, need, bind, Except.bind, Moment.ofReading]

/-- A row with some of its values changed. -/
def overlaid (row : Row) (cells : List (Column × Cell)) : Except Constraint Row :=
  ofCells row.kind fun c => (cells.lookup c).getD (row.cell c)

/-- A row with nothing changed. -/
theorem overlaid_nil (row : Row) : row.overlaid [] = .ok row := by
  simpa [overlaid] using ofCells_cell row

end Row

/-! ## Finding rows -/

namespace Tables

/-- The rows of a kind. -/
def rows (t : Tables) : Kind → List Row
  | .user => t.users.map .user
  | .post => t.posts.map .post
  | .comment => t.comments.map .comment
  | .tag => t.tags.map .tag

/-- The row of a kind with an identifier. -/
def row? (t : Tables) (k : Kind) (id : String) : Option Row :=
  match k with
  | .user => (t.user? id).map .user
  | .post => (t.post? id).map .post
  | .comment => (t.comment? id).map .comment
  | .tag => (t.tag? id).map .tag

/-- The rows that a relation leads to from a row. -/
def related (t : Tables) (k : Kind) (id : String) (rel : Relation) : List Row :=
  match k, rel with
  | .user, .posts => (t.posts.filter (·.userId = id)).map .post
  | .user, .comments => (t.comments.filter (·.userId = id)).map .comment
  | .post, .comments => (t.commentsOf id).map .comment
  | .post, .tags => (t.tagsOf id).map .tag
  | .tag, .posts => (t.postsOf id).map .post
  | _, _ => []

/-- Puts in a row. -/
def putIn (t : Tables) : Row → Tables
  | .user u => t.addUser u
  | .post p => t.addPostRow p
  | .comment c => t.addComment c
  | .tag g => t.addTag g

/-- Puts a row in the place of the one with a key. -/
def putRow (t : Tables) (key : String) : Row → Tables
  | .user u => t.setUser key u
  | .post p => t.setPostRow key p
  | .comment c => t.setComment key c
  | .tag g => t.setTag key g

/-- Takes out the row with a key. -/
def dropRow (t : Tables) (k : Kind) (key : String) : Tables :=
  match k with
  | .user => t.removeUser key
  | .post => { t with posts := t.posts.filter (·.id ≠ key) }
  | .comment => t.removeComment key
  | .tag => t.removeTagRow key

end Tables

/-! ## Changing rows -/

namespace Store

/-- The constraint on identifiers and names that a row breaks beside the rows of its kind, the one
with the given key left out. -/
def clash? (t : Tables) (key : Option String) : Row → Option Constraint
  | .user u =>
    let others := t.users.filter fun v => some v.id ≠ key
    if others.any (·.email = u.email) then some (.unique .user .email)
    else if others.any (·.username = u.username) then some (.unique .user .username)
    else if others.any (·.id = u.id) then some (.unique .user .id)
    else none
  | .post p =>
    if (t.posts.filter fun q => some q.id ≠ key).any (·.id = p.id) then some (.unique .post .id)
    else none
  | .comment c =>
    if (t.comments.filter fun d => some d.id ≠ key).any (·.id = c.id) then
      some (.unique .comment .id)
    else none
  | .tag g =>
    let others := t.tags.filter fun h => some h.id ≠ key
    if others.any (·.name = g.name) then some (.unique .tag .name)
    else if others.any (·.id = g.id) then some (.unique .tag .id)
    else none

/-- Whether the user whom a row names may be named. -/
def knowsOwner (s : Store) : Row → Bool
  | .user _ => true
  | .post p => s.knowsUser p.userId
  | .comment c => s.knowsUser c.userId
  | .tag g => s.knowsUser g.userId

/-- Puts in a row, whomever it names. -/
def insertUnchecked (s : Store) (row : Row) : Except Constraint Store :=
  match clash? s.tables none row with
  | some c => .error c
  | none => .ok (s.change (·.putIn row))

/-- Puts in rows at once: whom they name is looked at when all are in. -/
def insert (s : Store) (rows : List Row) : Except Constraint Store := do
  let s ← rows.foldlM insertUnchecked s
  if rows.all s.knowsOwner then .ok s else .error .reference

/-- Whether a row with a key may get another identifier. -/
def mayRename (s : Store) (k : Kind) (key id : String) : Bool :=
  !s.enforces || id = key || match k with
    | .user => isUnnamed s.tables key
    | .post => !s.tables.links.any (·.postId = key)
    | .comment => true
    | .tag => !s.tables.links.any (·.tagId = key)

/-- Puts a row in the place of the one with a key. -/
def replace (s : Store) (key : String) (row : Row) : Except Constraint Store :=
  match clash? s.tables (some key) row with
  | some c => .error c
  | none =>
    if s.knowsOwner row && s.mayRename row.kind key row.id then .ok (s.change (·.putRow key row))
    else .error .reference

/-- Takes out a row. Where references are enforced, its links go with it, and a user goes only if
no row names him. -/
def remove (s : Store) (k : Kind) (key : String) : Except Constraint Store :=
  if !s.enforces then .ok (s.change (·.dropRow k key))
  else
    match k with
    | .user =>
      if isUnnamed s.tables key then .ok (s.change (·.removeUser key)) else .error .reference
    | .post => .ok (s.change fun t => (t.unlinkPost key).dropRow k key)
    | .comment => .ok (s.change (·.removeComment key))
    | .tag => .ok (s.change (·.removeTag key))

/-- Takes out a link, if it is there. -/
def dropLink (s : Store) (l : Link) : Store :=
  s.change fun t => { t with links := t.links.filter (· ≠ l) }

end Store

end Weblog
