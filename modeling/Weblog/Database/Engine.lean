/-
  The choice of the database, and the engine for its address.

  The kind of a database and its driver come from the scheme of the address. Only file databases
  have a driver here; other kinds are known, and the search for their driver fails.
-/
import Weblog.Database.Address
import Weblog.Settings

namespace Weblog.Database

/-- The address of the database: a file of its own for tests, the configured one in production,
and the development file in every other stage. -/
def url (env : Environment) : String :=
  match env.getD "APP_ENV" "development" with
  | "test" => "sqlite:///./test.db"
  | "production" => env.getD "DATABASE_URL" "sqlite:///./prod.db"
  | _ => "sqlite:///./dev.db"

/-- Why no engine can be made for an address. -/
inductive EngineError
  | address (e : AddressError)
  /-- The address asks for an extension, and there is none. -/
  | noExtension
  /-- The scheme names more than one driver. -/
  | manyDrivers
  | unknownScheme
  /-- The driver of the kind of database is not there. -/
  | noDriver
  /-- The address of a file names a host, a port or someone who logs in. -/
  | fileOnHost
  /-- An option has a value of another type. -/
  | badOption (name : String)
  /-- An option that is one number is given twice. -/
  | repeatedOption (name : String)
  /-- Options are to be added to the name of a file, and the address has none. -/
  | noFileName
deriving DecidableEq, Repr

/-! ## Drivers -/

/-- Drivers of the kinds of databases that are known and whose drivers are not there. The empty
name and `base` are the driver of choice. -/
def missingDrivers : List (String × List String) := [
  ("sqlite", ["aiosqlite", "pysqlcipher"]),
  ("postgresql", ["", "base", "psycopg2", "psycopg", "psycopg_async", "psycopg2cffi", "asyncpg",
    "pg8000"]),
  ("mysql", mysqlDrivers),
  ("mariadb", mysqlDrivers),
  ("oracle", ["", "base", "cx_oracle", "oracledb", "oracledb_async"]),
  ("mssql", ["", "base", "pyodbc", "pymssql", "aioodbc"])]
where
  mysqlDrivers := ["", "base", "mysqldb", "pymysql", "mysqlconnector", "mariadbconnector",
    "aiomysql", "asyncmy", "cymysql", "pyodbc"]

/-- Drivers for file databases. -/
def fileDrivers : List String := ["", "base", "pysqlite"]

/-- The kind and the driver that a scheme names; a driver of choice has no name. A plus sign at
the end names no driver, and that is none that there is. -/
def splitScheme (scheme : String) : Except EngineError (String × Option String) :=
  match (Text.splitAll '+' scheme.toList).map String.ofList with
  | [kind] => .ok (kind, some "")
  | [kind, driver] => .ok (kind, if driver.isEmpty then none else some driver)
  | _ => .error .manyDrivers

/-- Finds the driver for file databases. -/
def findDriver (scheme : String) : Except EngineError Unit := do
  let (kind, driver) ← splitScheme scheme
  match driver with
  | none => .error .unknownScheme
  | some driver =>
    if kind = "sqlite" ∧ fileDrivers.contains driver then .ok ()
    else if ((missingDrivers.lookup kind).getD []).contains driver then .error .noDriver
    else .error .unknownScheme

/-! ## Options -/

/-- What the value of an option has to be. -/
inductive OptionType
  | flag
  | decimal
  | whole
  | text
deriving DecidableEq, Repr

/-- The options of the driver, in the order in which they are looked at. -/
def driverOptions : List (String × OptionType) := [
  ("uri", .flag), ("timeout", .decimal), ("isolation_level", .text), ("detect_types", .whole),
  ("check_same_thread", .flag), ("cached_statements", .whole)]

/-- The flag that a text stands for. -/
def flag? (s : String) : Option Bool :=
  let word := Text.lower (Text.trim s)
  if ["true", "yes", "on", "y", "t", "1"].contains word then some true
  else if ["false", "no", "off", "n", "f", "0"].contains word then some false
  else none

/-- Whether a text is a value of a type. -/
def OptionType.accepts : OptionType → String → Bool
  | .flag, s => (flag? s).isSome
  | .decimal, s => Number.isDecimal s
  | .whole, s => (Number.readNumeral s).toOption.isSome
  | .text, _ => true

/-- The values of an option. -/
def valuesOf (options : Query) (name : String) : List String :=
  (options.filter (·.1 == name)).map (·.2)

/-- Checks the values of an option. Several flags are a flag, several numbers no number. -/
def checkOption (options : Query) (name : String) (type : OptionType) : Except EngineError Unit :=
  match valuesOf options name with
  | [] => .ok ()
  | [s] => if type.accepts s then .ok () else .error (.badOption name)
  | _ => if type = .decimal ∨ type = .whole then .error (.repeatedOption name) else .ok ()

/-- Checks the options of the driver. -/
def checkOptions (options : Query) : Except EngineError Unit :=
  driverOptions.forM fun (name, type) => checkOption options name type

/-- Whether options that are not for the driver go to the name of the file. -/
def extendsName (options : Query) : Bool :=
  let wanted := match valuesOf options "uri" with
    | [] => false
    | [s] => flag? s = some true
    | _ => true
  wanted && options.any fun o => (driverOptions.lookup o.1).isNone

/-! ## Engines -/

/-- Whether a part of an address is there and says something. -/
def isGiven (part : Option String) : Bool := (part.getD "") ≠ ""

/-- Whether an address names more than a file. -/
def Address.namesHost (a : Address) : Bool :=
  isGiven a.user || isGiven a.host || isGiven a.password || a.port.getD 0 ≠ 0

/-- The address without what asks for extensions. -/
def Address.withoutExtensions (a : Address) : Address :=
  { a with options := a.options.filter fun o => o.1 ≠ "plugin" && o.1 ≠ "plugins" }

/-- The address of the engine for an address. -/
def engine (text : String) : Except EngineError Address := do
  let given ← (Address.read text).mapError .address
  if given.options.any (·.1 = "plugin") then .error .noExtension
  let a := given.withoutExtensions
  findDriver a.scheme
  if a.namesHost then .error .fileOnHost
  checkOptions a.options
  if a.name.isNone && extendsName a.options then .error .noFileName
  return a

end Weblog.Database
