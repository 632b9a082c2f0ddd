/-
  Log records: how grave, which part of the service speaks, and what it says.
-/

namespace Weblog

/-- How grave a log record is. -/
inductive LogLevel
  | debug
  | info
  | warning
  | error
deriving DecidableEq, Repr

def LogLevel.text : LogLevel → String
  | .debug => "DEBUG"
  | .info => "INFO"
  | .warning => "WARNING"
  | .error => "ERROR"

/-- The parts of the service that write log records. -/
inductive LogSource
  | requests
  | validation
  | refusals
  | index
deriving DecidableEq, Repr

/-- One log record. -/
structure LogRecord where
  level : LogLevel
  source : LogSource
  message : String
deriving DecidableEq, Repr

end Weblog
