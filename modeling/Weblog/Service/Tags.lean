/-
  Requests about tags.
-/
import Weblog.Service.Caller

namespace Weblog.Tags

/-- The tag with an identifier. -/
def find (t : Tables) (id : String) : Except Failure TagRow := orRefuse .noTag (t.tag? id)

/-- Refuses a tag whose name is blank. -/
def checkName (id : Option String) (name : String) : Except Failure Unit :=
  checkPresence .tag id fun
    | .name => Text.isBlank name
    | _ => false

/-- Refuses a name that a tag has already. -/
def checkFree (t : Tables) (name : String) : Except Failure Unit :=
  if (t.tagNamed? name).isSome then refuse .tagNameTaken else .ok ()

/-- Adds a tag of the caller. -/
def create (s : Store) (now : Instant) (caller : UserRow) (name : String)
    (description : Option String) : Except Failure Done := do
  checkFree s.tables name
  checkName none name
  let (id, s) := s.nextId .tag
  let row : TagRow := ⟨id, name, description, caller.id, now, now⟩
  let s ← commit (s.addTag row)
  .ok (Done.created s (.tag row) [])

/-- Lists all tags by name. -/
def list (s : Store) : Done :=
  Done.read s (.tags (s.tables.tags.mergeSort fun a b => a.name ≤ b.name))

/-- Shows a tag. -/
def display (s : Store) (id : String) : Except Failure Done := do
  .ok (Done.read s (.tag (← find s.tables id)))

/-- Lists the posts that carry a tag. -/
def posts (s : Store) (id : String) : Except Failure Done := do
  let g ← find s.tables id
  .ok (Done.read s (.posts ((s.tables.postsOf g.id).map s.tables.view)))

/-- What a change of a tag submits; what is missing stays. -/
structure Edit where
  name : Option String
  description : Option String
deriving DecidableEq, Repr

namespace Edit

def ofFields (fs : Fields) : Edit := ⟨fs.text? "name", fs.text? "description"⟩

/-- The new name, if one is given that is not the name already. -/
def newName? (e : Edit) (g : TagRow) : Option String :=
  e.name.filter fun n => n ≠ "" && n ≠ g.name

/-- Whether the tag is changed or at least set anew. -/
def isTouching (e : Edit) (g : TagRow) : Bool := (e.newName? g).isSome || e.description.isSome

/-- The changed tag. -/
def apply (e : Edit) (now : Instant) (g : TagRow) : TagRow :=
  let name := (e.newName? g).getD g.name
  let description := e.description.or g.description
  { g with
    name := name
    description := description
    updatedAt := if name = g.name ∧ description = g.description then g.updatedAt else now }

end Edit

/-- Changes a tag of the caller. -/
def update (s : Store) (now : Instant) (caller : UserRow) (id : String) (e : Edit) :
    Except Failure Done := do
  let g ← find s.tables id
  if g.userId ≠ caller.id then refuse .notOwner
  match e.newName? g with
  | some name => checkFree s.tables name
  | none => pure ()
  let row := e.apply now g
  if e.isTouching g then checkName (some g.id) row.name
  let s ← commit (s.setTag row)
  .ok (Done.changed s (.tag row) [])

/-- Takes out a tag of the caller with all its links. -/
def delete (s : Store) (caller : UserRow) (id : String) : Except Failure Done := do
  let g ← find s.tables id
  if g.userId ≠ caller.id then refuse .notOwner
  .ok (Done.removed (s.change (·.removeTag g.id)) [])

end Weblog.Tags
