/-
  What a session is asked to do with entities by the names of their attributes: making them up,
  setting, joining and taking apart, and showing what they hold.

  Where something is given that an attribute cannot be, what was set before it stays.
-/
import Weblog.Session.Transaction

namespace Weblog.Session

/-- What is given for an attribute. -/
inductive Given
  | value (v : Json)
  | entity (r : Ref)
  | entities (rs : List Ref)
deriving DecidableEq, Repr

/-- The columns of times. -/
def timeColumns : List Column := [.createdAt, .updatedAt, .lastLogin]

/-- Why a text that is given under the name of a column of times gives no time, if it does not. -/
def Given.timeFault? (name : String) : Given → Option Moment.ReadError
  | .value (.str s) =>
    if (timeColumns.map Column.text).contains name then
      match Moment.read s with
      | .ok _ => none
      | .error e => some e
    else none
  | _ => none

/-- What an entity shows: its columns, and of a post its tags and the number of its comments. -/
structure Shown where
  cells : List (Column × Cell)
  tagIds : Option (List Cell)
  commentsCount : Option Nat
deriving DecidableEq, Repr

namespace Work

/-- Fails on account of an attribute. -/
def refuse {α : Type} (e : AttributeError) : Work α := throw (.attribute e)

/-! ## Setting -/

/-- Fails if a text under the name of a column of times gives no time. -/
def readable (name : String) (g : Given) : Work Unit :=
  match g.timeFault? name with
  | some e => throw (.time e)
  | none => return

/-- Sets a column. -/
def assignColumn (r : Ref) (c : Column) : Given → Work Unit
  | .value v =>
    match Cell.read c v with
    | .ok v => setValue r c v
    | .error e => throw (.time e)
  | _ => throw .unfit

/-- Sets a relation. A list with something else than records in it leaves no members, apart from the
nulls at its front. -/
def assignRelation (r : Ref) (rel : Relation) (g : Given) : Work Unit := do
  match rel.isMany, g with
  | true, .entities ms => setMembers r rel ms
  | true, .entity m => refuse (.notList (← look m).kind.text)
  | true, .value (.arr vs) =>
    let old ← setNulls r rel (vs.takeWhile (· = .null)).length
    checked (Attribute.checkRelated rel (.arr vs))
    old.eraseDups.forM (detach r rel)
  | true, .value v => checked (Attribute.checkRelated rel v)
  | false, .entity o => setOwner r rel (some o)
  | false, .entities _ =>
    let _ ← glanceOwner r rel
    refuse (Attribute.notRecord (.arr []))
  | false, .value .null => setOwner r rel none
  | false, .value v =>
    let _ ← glanceOwner r rel
    refuse (Attribute.notRecord v)

/-- Sets an attribute by name. -/
def assign (r : Ref) (name : String) (g : Given) : Work Unit := do
  readable name g
  let k := (← look r).kind
  match k.column? name, k.relation? name, g with
  | some c, _, g => assignColumn r c g
  | none, some rel, g => assignRelation r rel g
  | none, none, .value v => do
    checked (Attribute.check k name v)
    alter r fun e => { e with extras := Json.put e.extras name v }
  | none, none, _ => checked (Attribute.check k name (.arr []))

/-- Makes up an entity. All times are read before anything is set. -/
def create (k : Kind) (attributes : List (String × Given)) : Work Ref := do
  attributes.forM fun a => readable a.1 a.2
  checked (Attribute.checkNames (attributes.map Prod.fst))
  let r ← push (.fresh k)
  attributes.forM fun a => do
    if !Attribute.isKnown k a.1 then refuse (.unknown a.1 k)
    assign r a.1 a.2
  return r

/-! ## Joining and taking apart -/

/-- The name of the type of a value. -/
def typeOf : Cell → String
  | .time _ => "datetime.datetime"
  | .hash _ => (Json.str "").typeName
  | v => (v.value?.getD .null).typeName

/-- The relation to many of a name, whose members can be asked to do something. -/
def manyNamed (r : Ref) (name verb : String) : Work Relation := do
  let k := (← look r).kind
  match k.relation? name, k.column? name with
  | some rel, _ =>
    if rel.isMany then return rel
    else
      match ← owner r rel with
      | some o => refuse (.missing (← look o).kind.text verb)
      | none => refuse (.missing Json.null.typeName verb)
  | none, some c => refuse (.missing (typeOf (← value r c)) verb)
  | none, none => refuse (.missing k.text name)

/-! ## Searching -/

/-- The text of a query; a value that counts as nothing is an empty one. -/
def queryText (v : Json) : Work String :=
  match v with
  | .str s => return s
  | v => if v.isNothing then return "" else refuse (.missing v.typeName "lower")

/-- The limit that a value sets, if it is not null. -/
def limitOf (v : Json) : Work (Option Int) :=
  if v = .null then return none
  else match v.whole with
    | .ok n => return some n
    | .error e => throw (.limit e)

/-- Searches by a query and with a limit that may be of any type. The limit is looked at only if
there is anything to search for. -/
def searchFor (k : Kind) (query limit : Json) : Work (List Ref) := do
  let query ← queryText query
  if (Search.terms query).isEmpty then return []
  search k query (← limitOf limit)

/-! ## Showing -/

/-- The identifiers of entities. -/
def idsOf (rs : List Ref) : Work (List Cell) := rs.mapM fun r => value r .id

/-- The identifiers of what a relation to many leads to. -/
def memberIds (r : Ref) (rel : Relation) : Work (List Cell) := do
  let ms ← members r rel
  if (← look r).nulls.contains rel then refuse (.missing Json.null.typeName "id")
  idsOf ms

/-- Shows an entity. -/
def display (r : Ref) : Work Shown := do
  let k := (← look r).kind
  let cells ← k.columns.mapM fun c => return (c, ← value r c)
  if k = .post then
    let tagIds ← memberIds r .tags
    let comments ← members r .comments
    return ⟨cells, some tagIds, some ((← look r).nulls.count .comments + comments.length)⟩
  else return ⟨cells, none, none⟩

/-- A line about a post. -/
def describe (r : Ref) : Work String := do
  let id ← value r .id
  let title ← value r .title
  return "<" ++ (← look r).kind.text ++ " " ++ id.display ++ " " ++ title.literal ++ ">"

/-- The complaints about an entity, if it can be asked for them. -/
def ask (r : Ref) : Work Complaints := do
  let e ← look r
  if !e.kind.isValidated then refuse (.missing e.kind.text "is_valid")
  checked (Presence.checkAskable e.extras "is_valid")
  let cs ← complaints r
  checked (Presence.checkAskable e.extras "full_messages")
  return cs

end Work

end Weblog.Session
