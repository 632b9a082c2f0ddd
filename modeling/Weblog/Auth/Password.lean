/-
  Passwords as the check sees them.

  A hash keeps the first 72 bytes of a password and nothing else that a later check could tell;
  the text of a hash that is made here is of no concern. A text that was stored as it is may be
  the text of a hash or none at all.
-/
import Weblog.Auth.HashText
import Weblog.Json.Alike

namespace Weblog

/-- Why a password can be neither hashed nor checked. -/
inductive PasswordError
  /-- A value of a type that is no text. -/
  | notText (type : String)
  | tooLong
  | nulCharacter
  /-- The stored text is no hash. -/
  | unknownHash
  /-- The stored text has the mark of a hash and is none. -/
  | malformedHash (e : HashText.Malformed)
deriving DecidableEq, Repr

/-- The words for a password error. -/
def PasswordError.message : PasswordError → String
  | .notText type => "secret must be unicode or bytes, not " ++ type
  | .tooLong => "password exceeds maximum allowed size"
  | .nulCharacter => "bcrypt does not allow NULL bytes in password"
  | .unknownHash => "hash could not be identified"
  | .malformedHash e => e.message

/-- A stored password hash. -/
inductive PasswordHash
  /-- The hash of a password with these first bytes. -/
  | ofBytes (bytes : Bytes)
  /-- A text that was stored as it is. -/
  | written (text : String)
deriving DecidableEq, Repr, Inhabited

namespace Password

/-- The password that a value is. -/
def read : Json → Except PasswordError String
  | .str s => .ok s
  | .null => .error (.notText "None")
  | v => .error (.notText v.typeName)

/-- The most bytes that a password may have. -/
def maxLength : Nat := 4096

/-- The number of bytes that a hash depends on. -/
def significantBytes : Nat := 72

/-- The bytes of a password that a hash depends on. -/
def significant (password : String) : Bytes :=
  (Bytes.ofText password).take significantBytes

/-- Checks that a password can be hashed. -/
def check (password : String) : Except PasswordError Unit :=
  if maxLength < (Bytes.ofText password).length then .error .tooLong
  else if password.toList.contains '\x00' then .error .nulCharacter
  else .ok ()

/-- The hash of a password. -/
def hash (password : String) : Except PasswordError PasswordHash :=
  (check password).map fun _ => .ofBytes (significant password)

/-- Whether a password fits a text that was stored. A password of too many characters is refused
before the text is read, one of too many bytes after that. -/
def verifyText (password text : String) : Except PasswordError Bool :=
  match HashText.read? text with
  | none => .error .unknownHash
  | some read =>
    if maxLength < password.length then .error .tooLong
    else match read with
      | .error e => .error (.malformedHash e)
      | .ok h => (check password).map fun _ => h.fits (Bytes.ofText password) significantBytes

/-- Whether a password fits a hash. -/
def verify (password : String) (hash : PasswordHash) : Except PasswordError Bool :=
  match hash with
  | .written text => verifyText password text
  | .ofBytes bytes => (check password).map fun _ => significant password = bytes

end Password

end Weblog
