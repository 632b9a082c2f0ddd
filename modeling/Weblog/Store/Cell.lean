/-
  Values of single columns, as a record in memory holds them, and what of them is stored.

  A record may hold anything in any column. A column of texts stores the text of whatever can be
  bound to it, a column of times only times, and a column of truth values what counts as one.
-/
import Weblog.Auth.Password
import Weblog.Clock.Moment
import Weblog.Json.Alike
import Weblog.Json.Display
import Weblog.Number.Shortest
import Weblog.Record.Kind
import Weblog.Text.Blank

namespace Weblog

/-- A value of some column. -/
inductive Cell
  | null
  | text (s : String)
  | time (m : Moment)
  | flag (b : Bool)
  | hash (h : PasswordHash)
  /-- A number, a list or an object. -/
  | other (v : Json)
deriving DecidableEq, Repr

/-- What a column stores. -/
inductive ColumnType
  | text
  | time
  | flag
  | hash
deriving DecidableEq, Repr

/-- What a column stores. -/
def Column.type : Column → ColumnType
  | .createdAt | .updatedAt | .lastLogin => .time
  | .isActive => .flag
  | .passwordHash => .hash
  | _ => .text

namespace Cell

def ofText? : Option String → Cell
  | some s => .text s
  | none => .null

def ofTime? : Option Instant → Cell
  | some t => .time (.ofReading t)
  | none => .null

/-- The cell of a column that a value stands for. Texts in a column of times are read. -/
def read (c : Column) (v : Json) : Except Moment.ReadError Cell :=
  match c.type, v with
  | _, .null => .ok .null
  | .time, .str s => (Moment.read s).map .time
  | .hash, .str s => .ok (.hash (.written s))
  | _, .str s => .ok (.text s)
  | _, .bool b => .ok (.flag b)
  | _, v => .ok (.other v)

/-- Whether a cell is blank: null, or a text of white space only. -/
def isBlank : Cell → Bool
  | .null => true
  | .text s => Text.isBlank s
  | _ => false

/-! ## Likeness -/

/-- The value that a cell holds, unless it is a time or a hash. -/
def value? : Cell → Option Json
  | .null => some .null
  | .text s => some (.str s)
  | .flag b => some (.bool b)
  | .other v => some v
  | .time _ | .hash _ => none

/-- Whether two cells hold the same. -/
def same : Cell → Cell → Bool
  | .time a, .time b => a.same b
  | .hash a, .hash b => a = b
  | a, b =>
    match a.value?, b.value? with
    | some v, some w => v.alike w
    | _, _ => false

/-- A cell inside running text. -/
def display : Cell → String
  | .time m => m.reading.text
  | .hash (.written s) => s
  | .hash (.ofBytes _) => ""
  | c => (c.value?.getD .null).display

/-- A cell as a literal. -/
def literal (c : Cell) : String :=
  match c.value? with
  | some v => String.ofList v.literal
  | none => c.display

/-! ## Storing -/

/-- The least whole number that cannot be bound. -/
def bindLimit : Nat := 0x8000000000000000

/-- Why a cell cannot be bound. -/
inductive BindFault
  | tooLarge
  | unsupported (type : String)
deriving DecidableEq, Repr

/-- Why a cell cannot be bound, if it cannot. -/
def bindFault? : Cell → Option BindFault
  | .other (.int n) =>
    if -(bindLimit : Int) ≤ n ∧ n < bindLimit then none else some .tooLarge
  | .other (.arr vs) => some (.unsupported (Json.arr vs).typeName)
  | .other (.obj fs) => some (.unsupported (Json.obj fs).typeName)
  | _ => none

/-- The text that a column of texts stores. -/
def text? : Cell → Option String
  | .text s => some s
  | .flag b => some (if b then "1" else "0")
  | .other (.int n) => some (String.ofList (Number.text n))
  | .other (.float x) => x.storedText
  | _ => none

/-- The time that a column of times stores. -/
def time? : Cell → Option Instant
  | .time m => some m.reading
  | _ => none

/-- The truth value that a column of truth values stores. -/
def flag? : Cell → Option Bool
  | .flag b => some b
  | .other v => if v.alike (.int 1) then some true else if v.alike (.int 0) then some false else none
  | _ => none

/-- The hash that a column of hashes stores. -/
def hash? : Cell → Option PasswordHash
  | .hash h => some h
  | c => c.text?.map .written

/-- Whether a column can store a cell at all. -/
def fits (c : Column) (v : Cell) : Bool :=
  v = .null || match c.type with
    | .time => v.time?.isSome
    | .flag => v.flag?.isSome
    | _ => true

@[simp] theorem text?_text (s : String) : (Cell.text s).text? = some s := rfl

@[simp] theorem time?_time (m : Moment) : (Cell.time m).time? = some m.reading := rfl

@[simp] theorem flag?_flag (b : Bool) : (Cell.flag b).flag? = some b := rfl

@[simp] theorem hash?_hash (h : PasswordHash) : (Cell.hash h).hash? = some h := rfl

@[simp] theorem text?_ofText? (s : Option String) : (ofText? s).text? = s := by
  cases s <;> rfl

@[simp] theorem time?_ofTime? (t : Option Instant) : (ofTime? t).time? = t := by
  cases t <;> rfl

end Cell

end Weblog
