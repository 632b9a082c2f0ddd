/-
  The request log: every failed request is written down with its answer.

  An answer with an error status, and an error that escapes, make one log record each; other
  answers make none. The answer goes on with the same status and the same bytes. The body of a
  failed request's answer is put together first, and its headers are sent once per name.
-/
import Weblog.Json.Writer
import Weblog.Log
import Weblog.Number.Digits
import Weblog.Web.Message

namespace Weblog.RequestLog

/-- The least status of a failed request. -/
def leastFailure : Nat := 400

/-- What is written down about a request. -/
def description (r : Request) : Json :=
  .obj [("url", .str r.url), ("method", .str r.method),
    ("body", if r.body.isEmpty then .null else .str (Bytes.toTextLossy r.body)),
    ("path_params", .obj []), ("query_params", r.parameters.toJson)]

/-- The text of what is written down about a request. -/
def descriptionText (r : Request) : String := (description r).write Json.indentedAscii

def decimal (n : Nat) : String := String.ofList (Number.digits n)

/-- The record of an answer with an error status. -/
def failureRecord (request : Request) (status : Nat) (body : Bytes) : LogRecord :=
  ⟨.error, .requests, "Request failed with status " ++ decimal status ++ "\nRequest: "
    ++ descriptionText request ++ "\nResponse: " ++ Bytes.toTextLossy body ++ "\n"⟩

/-- The record of an error that escapes. -/
def escapeRecord (request : Request) (words : String) : LogRecord :=
  ⟨.error, .requests, "Request failed with exception\nRequest: " ++ descriptionText request
    ++ "\nError: " ++ words ++ "\n"⟩

/-- Whether answers with a status have a length header. -/
def hasLength (status : Nat) : Bool := !(status < 200 || status = 204 || status = 304)

/-- An answer put together: its headers once per name, with the length of the body that is
sent. -/
def whole (r : Reply) : Reply :=
  let kept := (r.headers.merged.filter fun h => Headers.key h.1 ≠ "content-length").map
    fun h => (Headers.key h.1, h.2)
  let length := if hasLength r.status then [("content-length", decimal r.body.length)] else []
  ⟨r.status, kept ++ length, [r.body]⟩

/-- The bytes of chunks, put together one chunk after another. -/
def gather (chunks : List Bytes) : Bytes := chunks.foldl (fun body chunk => body ++ chunk) []

/-- An answer that was read to its end. -/
def gathered (r : Reply) : Reply := { r with chunks := [gather r.chunks] }

/-- What becomes of the outcome of a request, and the records about it. An error goes on as it
is; `words` says what it means. -/
def observe {ε : Type} (words : ε → String) (request : Request) :
    Except ε Reply → Except ε Reply × List LogRecord
  | .error e => (.error e, [escapeRecord request (words e)])
  | .ok r =>
    if leastFailure ≤ r.status then
      let read := gathered r
      (.ok (whole read), [failureRecord request r.status read.body])
    else (.ok r, [])

/-! ## Chunks -/

/-- Putting chunks together behind what is there already. -/
theorem foldl_append_flatten (chunks : List Bytes) (body : Bytes) :
    chunks.foldl (fun body chunk => body ++ chunk) body = body ++ chunks.flatten := by
  induction chunks generalizing body with
  | nil => simp
  | cons chunk chunks ih => rw [List.foldl_cons, ih, List.flatten_cons, List.append_assoc]

theorem gather_eq_flatten (chunks : List Bytes) : gather chunks = chunks.flatten :=
  foldl_append_flatten chunks []

@[simp] theorem body_gathered (r : Reply) : (gathered r).body = r.body := by
  simp [gathered, Reply.body, gather_eq_flatten]

@[simp] theorem whole_gathered (r : Reply) : whole (gathered r) = whole r := by
  simp only [whole, body_gathered]
  rfl

end Weblog.RequestLog
