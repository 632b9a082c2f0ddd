/-
  Requests about posts.

  A change of a post has two phases: the row is loaded, and later the changed columns are written
  back and the document is made anew from what was loaded and changed.
-/
import Weblog.Service.Caller

namespace Weblog.Posts

/-! ## Finding posts and tags -/

/-- The post with an identifier. -/
def find (t : Tables) (id : String) : Except Failure PostRow := orRefuse .noPost (t.post? id)

/-- The tags with the given identifiers, each once and in the order of first mention. That all
are there is told from their number. -/
def loadTags (rows : List TagRow) (ids : List String) : Except Failure (List TagRow) :=
  let ids := ids.eraseDups
  let found := rows.filter fun g => ids.contains g.id
  if found.length ≠ ids.length then refuse .noSuchTags
  else ids.mapM fun id =>
    match found.find? (·.id = id) with
    | some g => .ok g
    | none => .error (.escaped (.lostTag id))

/-- Refuses a post whose title or body is blank. -/
def checkTexts (id : Option String) (title body : Option String) : Except Failure Unit :=
  checkPresence .post id fun
    | .title => isBlankText title
    | .body => isBlankText body
    | _ => false

/-! ## Creation -/

/-- What the creation of a post submits. -/
structure Draft where
  title : String
  body : String
  tagIds : List String
deriving DecidableEq, Repr

def Draft.ofFields (fs : Fields) : Draft :=
  ⟨fs.text "title", fs.text "body", (fs.texts? "tag_ids").getD []⟩

/-- Adds a post of the caller. -/
def create (s : Store) (now : Instant) (caller : UserRow) (d : Draft) : Except Failure Done := do
  let tags ← loadTags s.tables.tags d.tagIds
  checkTexts none (some d.title) (some d.body)
  let (id, s) := s.nextId .post
  let row : PostRow := ⟨id, caller.id, some d.title, some d.body, now, now⟩
  let s ← commit (s.addPost row)
  let s ← commit (s.setTags id (tags.map (·.id)))
  .ok (Done.created s (.post (s.tables.view row)) [indexedRecord id])

/-! ## Looking -/

/-- Which posts are listed. Empty texts ask for nothing. -/
structure Selection where
  author : Option String
  tag : Option String
deriving DecidableEq, Repr

/-- Whether something is asked for, and what. -/
def asked (s : Option String) : Option String := s.filter (· ≠ "")

/-- The posts that a listing goes through: all of them, or those beside a tag. -/
def candidates (t : Tables) (tag : Option String) : List PostRow :=
  match asked tag with
  | none => t.posts
  | some g => (t.taggings.filter fun row => row.2.id = g).map fun row => row.1

/-- Whether a post is by whom is asked for. -/
def isBy (author : Option String) (p : PostRow) : Bool :=
  match asked author with
  | none => true
  | some u => p.userId = u

/-- Lists posts, newest first. -/
def list (s : Store) (sel : Selection) : Done :=
  let rows := (candidates s.tables sel.tag).filter (isBy sel.author)
  Done.read s (.posts ((Tables.newestFirst PostRow.createdAt rows).map s.tables.view))

/-- Lists the posts that a query finds. -/
def search (s : Store) (query : String) (limit : Option Int) : Except Failure Done :=
  match Search.posts s.tables query limit with
  | .error e => .error (.escaped (.search e))
  | .ok rows => .ok (Done.read s (.posts (rows.map s.tables.view)))

/-- Shows a post. -/
def display (s : Store) (id : String) : Except Failure Done := do
  .ok (Done.read s (.post (s.tables.view (← find s.tables id))))

/-! ## Change -/

/-- What a change of a post submits; what is missing stays. -/
structure Edit where
  title : Option String
  body : Option String
  tagIds : Option (List String)
deriving DecidableEq, Repr

namespace Edit

def ofFields (fs : Fields) : Edit := ⟨fs.text? "title", fs.text? "body", fs.texts? "tag_ids"⟩

/-- Whether anything is given at all. -/
def isTouching (e : Edit) : Bool := e.title.isSome || e.body.isSome || e.tagIds.isSome

/-- The title of a changed post. -/
def titleOf (e : Edit) (loaded : PostRow) : Option String := e.title.or loaded.title

/-- The body of a changed post. -/
def bodyOf (e : Edit) (loaded : PostRow) : Option String := e.body.or loaded.body

/-- The row with the columns that differ from what was loaded. -/
def write (e : Edit) (now : Instant) (loaded row : PostRow) : PostRow :=
  let title := e.titleOf loaded
  let body := e.bodyOf loaded
  { row with
    title := if title = loaded.title then row.title else title
    body := if body = loaded.body then row.body else body
    updatedAt := if title = loaded.title ∧ body = loaded.body then row.updatedAt else now }

end Edit

/-- The second phase of a change: checks what was loaded and changed, writes the columns that
differ, the tags if they are given, and the document. -/
def finishUpdate (s : Store) (now : Instant) (loaded : PostRow) (e : Edit) :
    Except Failure Store := do
  if !e.isTouching then .ok s
  else
    let tags ← e.tagIds.mapM (loadTags s.tables.tags)
    checkTexts (some loaded.id) (e.titleOf loaded) (e.bodyOf loaded)
    match s.tables.post? loaded.id with
    | none => .error (.escaped .lostRow)
    | some row =>
      let s := s.change (·.setPostRow row.id (e.write now loaded row))
      let s := s.change (·.index
        ⟨Kind.post.table, row.id, PostRow.content (e.titleOf loaded) (e.bodyOf loaded)⟩)
      match tags with
      | none => .ok s
      | some tags => commit (s.setTags row.id (tags.map (·.id)))

/-- Changes a post of the caller. -/
def update (s : Store) (now : Instant) (caller : UserRow) (id : String) (e : Edit) :
    Except Failure Done := do
  let loaded ← find s.tables id
  if loaded.userId ≠ caller.id then refuse .notOwner
  let s ← finishUpdate s now loaded e
  let row ← find s.tables id
  .ok (Done.changed s (.post (s.tables.view row)) (if e.isTouching then [indexedRecord id] else []))

/-! ## Removal -/

/-- Takes out a post of the caller. Its comments stay. -/
def delete (s : Store) (caller : UserRow) (id : String) : Except Failure Done := do
  let row ← find s.tables id
  if row.userId ≠ caller.id then refuse .notOwnerOfPost
  .ok (Done.removed (s.change (·.removePost id)) [unindexedRecord id])

end Weblog.Posts
