/-
  Settings from environment variables.
-/
import Weblog.Number.Numeral
import Weblog.Text.Case
import Weblog.Text.Quoted

namespace Weblog

/-- The variables that are set. -/
abbrev Environment := List (String × String)

/-- The value of a variable, or its default. -/
def Environment.getD (env : Environment) (name default : String) : String :=
  (env.lookup name).getD default

/-! ## Settings -/

/-- The settings of the service. -/
structure Settings where
  stage : String
  secret : String
  /-- How long an access token lives, in minutes. -/
  tokenMinutes : Int
  logLevel : String
deriving DecidableEq, Repr

namespace Settings

/-- The settings of an empty environment. -/
def default : Settings := ⟨"development", "your-secret-key", 10080, "INFO"⟩

/-- Why a text is no number of minutes. -/
structure Error where
  text : String
  cause : Number.NumeralError
deriving DecidableEq, Repr

/-- The words for a bad number. -/
def Error.message (e : Error) : String := e.cause.message e.text

/-- The settings that an environment gives. -/
def load (env : Environment) : Except Error Settings :=
  let minutes := env.getD "ACCESS_TOKEN_EXPIRE_MINUTES" "10080"
  match Number.readNumeral minutes with
  | .error cause => .error ⟨minutes, cause⟩
  | .ok n =>
    .ok ⟨env.getD "APP_ENV" default.stage, env.getD "SECRET_KEY" default.secret, n,
      Text.upper (env.getD "LOG_LEVEL" default.logLevel)⟩

/-- The lifetime of an access token in microseconds. -/
def tokenLifetime (s : Settings) : Int := s.tokenMinutes * 60000000

end Settings

end Weblog
