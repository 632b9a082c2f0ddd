/-
  Requests about users: registration, login, and one's own record.
-/
import Weblog.Service.Caller

namespace Weblog.Users

/-! ## Registration -/

/-- What a registration submits. -/
structure Registration where
  username : String
  email : String
  bio : Option String
  password : String
deriving DecidableEq, Repr

def Registration.ofFields (fs : Fields) : Registration :=
  ⟨fs.text "username", fs.text "email", fs.text? "bio", fs.text "password"⟩

/-- Adds a user whose name and address are not taken. -/
def register (s : Store) (now : Instant) (r : Registration) : Except Failure Done := do
  if (s.tables.userNamed? r.username).isSome then refuse .usernameTaken
  if (s.tables.userMailed? r.email).isSome then refuse .emailTaken
  let hash ← (Password.hash r.password).mapError fun e => Failure.escaped (.password e)
  let (id, s) := s.nextId .user
  let row : UserRow := ⟨id, r.username, r.email, hash, r.bio, now, none, true⟩
  let s ← commit (s.addUser row)
  .ok (Done.created s (.user row) [])

/-! ## Login -/

/-- What a login submits. -/
structure Login where
  username : String
  password : String
deriving DecidableEq, Repr

def Login.ofFields (fs : Fields) : Login := ⟨fs.text "username", fs.text "password"⟩

/-- The user whose name and password a login gives. -/
def checkLogin (t : Tables) (l : Login) : Except Failure UserRow := do
  let u ← orRefuse .wrongLogin (t.userNamed? l.username)
  let fits ← (Password.verify l.password u.passwordHash).mapError fun e =>
    Failure.escaped (.password e)
  if fits then .ok u else refuse .wrongLogin

/-- The claims of a user's token. -/
def claims (username : String) : List (String × Json) := [("sub", .str username)]

/-- Notes the time of a login and gives a token. -/
def login (settings : Settings) (s : Store) (now : Instant) (l : Login) : Except Failure Done := do
  let u ← checkLogin s.tables l
  let s := s.change (·.setUser u.id { u with lastLogin := some now })
  let issued := Token.issue settings.secret now (some settings.tokenLifetime) (claims u.username)
  .ok (Done.changed s (.token issued) [])

/-! ## One's own record -/

/-- Shows the caller. -/
def display (s : Store) (caller : UserRow) : Done := Done.read s (.user caller)

/-- Changes what the caller says about himself, if anything is given. -/
def update (s : Store) (caller : UserRow) (bio : Option String) : Done :=
  match bio with
  | none => Done.read s (.user caller)
  | some b =>
    let row := { caller with bio := some b }
    Done.changed (s.change (·.setUser caller.id row)) (.user row) []

end Weblog.Users
