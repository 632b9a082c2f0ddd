/-
  Search: the records whose document contains every word of a query, newest first.

  The query is put into lower case as a whole and cut into words. A query without words finds
  nothing, and one with too many words is refused.
-/
import Weblog.Bytes.Utf8
import Weblog.Search.Like
import Weblog.Store.Tables
import Weblog.Text.Blank

namespace Weblog.Search

/-- Why a search fails. -/
inductive Error
  | tooManyWords
  /-- A word makes a longer pattern than can be matched. -/
  | patternTooLong
deriving DecidableEq, Repr

def Error.message : Error → String
  | .tooManyWords => "Expression tree is too large (maximum depth 1000)"
  | .patternTooLong => "LIKE or GLOB pattern too complex"

/-- The most words of a query. Every word takes one level of a condition that has 1000 of them, and
four are taken by what surrounds the words. -/
def wordLimit : Nat := 996

/-- The most bytes of a pattern. -/
def patternLimit : Nat := 50000

/-- The words of a query. -/
def terms (query : String) : List (List Char) := Text.words (Text.lower query).toList

/-- Checks that a query has not too many words. -/
def checkWords (words : List (List Char)) : Except Error Unit :=
  if wordLimit < words.length then .error .tooManyWords else .ok ()

/-- Whether a document contains every one of some words. -/
def containsAll (content : List Char) : List (List Char) → Except Error Bool
  | [] => .ok true
  | w :: ws =>
    let pattern := Like.containing w
    if patternLimit < (Bytes.utf8 pattern).length then .error .patternTooLong
    else if Like.matches Like.escapeChar pattern content then containsAll content ws
    else .ok false

/-- The rows with a document of a type that contains every one of some words. -/
def hits {α : Type} (t : Tables) (type : String) (id : α → String) (words : List (List Char)) :
    List α → Except Error (List α)
  | [] => .ok []
  | p :: ps =>
    match t.document? type (id p) with
    | none => hits t type id words ps
    | some d =>
      match containsAll d.content.toList words with
      | .error e => .error e
      | .ok found => (hits t type id words ps).map fun rest => if found then p :: rest else rest

/-- The first rows of a list, all of them without a limit or with a negative one. -/
def limited {α : Type} (limit : Option Int) (rows : List α) : List α :=
  match limit with
  | some (.ofNat n) => rows.take n
  | _ => rows

/-- Rows by a text. -/
def inOrder {α : Type} (id : α → String) (rows : List α) : List α :=
  rows.mergeSort fun a b => id a ≤ id b

/-- The rows that a query finds, newest first and those of one instant by their identifiers. -/
def found {α : Type} (t : Tables) (type : String) (id : α → String) (time : α → Instant)
    (rows : List α) (query : String) (limit : Option Int) : Except Error (List α) :=
  match terms query with
  | [] => .ok []
  | words => do
    checkWords words
    let rs ← hits t type id words rows
    .ok (limited limit (Tables.newestFirst time (inOrder id rs)))

/-- The posts that a query finds. -/
def posts (t : Tables) (query : String) (limit : Option Int) : Except Error (List PostRow) :=
  found t Kind.post.table PostRow.id PostRow.createdAt t.posts query limit

end Weblog.Search
