/-
  The request log over every outcome: what goes on to the client, and what is written down.

  Behind the log stands anything at all: an answer of any status with a body in any chunks, or an
  error of any kind. How a body is cut is told neither to the client nor to the log, since a body
  is put together before it is read as text; a cut may fall inside a character.
-/
import Weblog.Web.RequestLog

namespace Weblog

/-- What a client gets of an answer. -/
structure Received where
  status : Nat
  headers : Headers
  body : Bytes
deriving DecidableEq, Repr

def Reply.received (r : Reply) : Received := ⟨r.status, r.headers, r.body⟩

/-- An error record of the request log. -/
def LogRecord.IsFailure (record : LogRecord) : Prop :=
  record.level = .error ∧ record.source = .requests

namespace RequestLog

theorem isFailure_failureRecord (request : Request) (status : Nat) (body : Bytes) :
    (failureRecord request status body).IsFailure := ⟨rfl, rfl⟩

theorem isFailure_escapeRecord (request : Request) (words : String) :
    (escapeRecord request words).IsFailure := ⟨rfl, rfl⟩

/-! ## Answers -/

theorem status_whole (r : Reply) : (whole r).status = r.status := rfl

theorem body_whole (r : Reply) : (whole r).body = r.body := by
  simp [whole, Reply.body]

/-- An answer that is put together has lost the cuts of its body. -/
theorem whole_eq_of_received {r r' : Reply} (same : r.received = r'.received) :
    whole r = whole r' := by
  obtain ⟨status, headers, body⟩ := Received.mk.inj same
  simp only [whole, status, headers, body]

section Outcomes

variable {ε : Type} (words : ε → String) (request : Request) {r : Reply}

theorem observe_failed (failed : leastFailure ≤ r.status) :
    observe words request (.ok r) = (.ok (whole r), [failureRecord request r.status r.body]) := by
  simp only [observe, body_gathered, whole_gathered]
  rw [if_pos failed]

theorem observe_passed (passed : ¬leastFailure ≤ r.status) :
    observe words request (.ok r) = (.ok r, []) := by
  simp only [observe]
  rw [if_neg passed]

/-- Two answers that only differ in the cuts of their bodies are sent on alike and written down
alike. -/
theorem observe_received {r' : Reply} (same : r.received = r'.received) :
    (observe words request (.ok r)).1.map Reply.received =
        (observe words request (.ok r')).1.map Reply.received ∧
      (observe words request (.ok r)).2 = (observe words request (.ok r')).2 := by
  obtain ⟨status, -, body⟩ := Received.mk.inj same
  by_cases failed : leastFailure ≤ r.status
  · have failed' : leastFailure ≤ r'.status := status ▸ failed
    rw [observe_failed words request failed, observe_failed words request failed',
      whole_eq_of_received same, status, body]
    exact ⟨rfl, rfl⟩
  · have passed' : ¬leastFailure ≤ r'.status := status ▸ failed
    rw [observe_passed words request failed, observe_passed words request passed']
    exact ⟨congrArg Except.ok same, rfl⟩

/-- What the log does with the outcome of any request:

1. an error goes on as it is, with one error record;
2. an answer goes on with its status and the bytes of its chunks, with one error record if the
   status is 400 or more, and with no record otherwise;
3. the answer that the client gets and the records are the same for all ways to cut a body. -/
theorem observe_outcome :
    (∀ e : ε, ∃ record, observe words request (.error e) = (.error e, [record]) ∧
      record.IsFailure) ∧
    (∀ r : Reply, ∃ sent records, observe words request (.ok r) = (.ok sent, records) ∧
      sent.status = r.status ∧ sent.chunks.flatten = r.chunks.flatten ∧
      (∀ record ∈ records, record.IsFailure) ∧
      records.length = if 400 ≤ r.status then 1 else 0) ∧
    ∀ (status : Nat) (headers : Headers) (chunks chunks' : List Bytes),
      chunks.flatten = chunks'.flatten →
      (observe words request (.ok ⟨status, headers, chunks⟩)).1.map Reply.received =
          (observe words request (.ok ⟨status, headers, chunks'⟩)).1.map Reply.received ∧
        (observe words request (.ok ⟨status, headers, chunks⟩)).2 =
          (observe words request (.ok ⟨status, headers, chunks'⟩)).2 := by
  refine ⟨fun e => ?_, fun r => ?_, fun status headers chunks chunks' same => ?_⟩
  · exact ⟨_, rfl, isFailure_escapeRecord request (words e)⟩
  · by_cases failed : leastFailure ≤ r.status
    · refine ⟨_, _, observe_failed words request failed, status_whole r, body_whole r, ?_, ?_⟩
      · intro record hrecord
        rw [List.mem_singleton.mp hrecord]
        exact isFailure_failureRecord request r.status r.body
      · exact (if_pos failed).symm
    · refine ⟨_, _, observe_passed words request failed, rfl, rfl, ?_, (if_neg failed).symm⟩
      intro record hrecord
      cases hrecord
  · exact observe_received words request (congrArg (Received.mk status headers) same)

end Outcomes

/-- A body of one character, cut inside it, and a body that is no text, cut or not: what is sent and
what is written down is the same. -/
theorem observe_cut :
    let request : Request := ⟨"http://testserver", "GET", "/x", "", none, none, []⟩
    let outcome (chunks : List Bytes) := observe (ε := String) id request (.ok ⟨404, [], chunks⟩)
    (outcome [[0xC3], [0xA9]]).2 = (outcome [[0xC3, 0xA9]]).2 ∧
      (outcome [[0xC3, 0xA9]]).2 = [failureRecord request 404 (Bytes.ofText "é")] ∧
      (outcome [[0xFF], [], [0xC3]]).1.map Reply.received =
        (outcome [[0xFF, 0xC3]]).1.map Reply.received ∧
      (outcome []).1.map Reply.received = (outcome [[], []]).1.map Reply.received := by
  intro request outcome
  obtain ⟨-, -, cut⟩ := observe_outcome (ε := String) id request
  exact ⟨(cut 404 [] [[0xC3], [0xA9]] [[0xC3, 0xA9]] rfl).2, by decide +kernel,
    (cut 404 [] [[0xFF], [], [0xC3]] [[0xFF, 0xC3]] rfl).1, (cut 404 [] [] [[], []] rfl).1⟩

end RequestLog

end Weblog
