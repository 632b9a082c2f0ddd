/-
  Who makes a request: the user whom the token in the authorization header names.
-/
import Weblog.Service.Done
import Weblog.Settings

namespace Weblog.Caller

/-- The token of an authorization header: what follows the first space, trimmed, after the word
`Bearer` in any case. -/
def token? (authorization : Option String) : Option String :=
  match authorization with
  | none => none
  | some header =>
    let cs := header.toList
    let scheme := cs.takeWhile (· ≠ ' ')
    if scheme.map Char.toLower = "bearer".toList then
      some (String.ofList (Text.trimBoth Text.isBlankChar ((cs.dropWhile (· ≠ ' ')).drop 1)))
    else none

/-- What a refused token leads to. -/
def failureOf : Token.Refusal → Failure
  | .refused => .refused .badCredentials
  | .noNumber e => .escaped (.noNumber e)
  | .tooDeep inner => .escaped (.tooDeep inner)

/-- The user whom a token names. -/
def ofToken (secret : String) (now : Instant) (t : Tables) (token : String) :
    Except Failure UserRow :=
  match Token.subject secret now token with
  | .error r => .error (failureOf r)
  | .ok name => orRefuse .badCredentials (t.userNamed? name)

/-- Refuses a user who is not active. -/
def active (u : UserRow) : Except Failure UserRow :=
  if u.isActive then .ok u else refuse .inactiveUser

/-- The user who makes a request with an authorization header. -/
def ofHeader (secret : String) (now : Instant) (t : Tables) (authorization : Option String) :
    Except Failure UserRow :=
  match token? authorization with
  | none => refuse .notAuthenticated
  | some token => ofToken secret now t token

end Weblog.Caller
