/-
  Runs of the service: visits handled one after another, and the stores they lead to.

  A visit is a request with the time at which it comes. Nothing is asked of the times: a later
  visit may come with an earlier time. `Reachable` is the least set of stores that holds the empty
  ones and is closed under visits, and `reachable_serve` says that these are the ends of runs.
-/
import Weblog.Service.Handle

namespace Weblog.Service

/-- A request with the time at which it comes. -/
structure Visit where
  now : Instant
  request : Request

/-- The store after one visit. -/
def visit (settings : Settings) (s : Store) (v : Visit) : Store :=
  (handle settings v.now s v.request).1

/-- The store after visits, one after another. -/
def serve (settings : Settings) (s : Store) (vs : List Visit) : Store :=
  vs.foldl (visit settings) s

/-- The status of an outcome. An error that escapes is answered like any error. -/
def statusOf : Except Escape Reply → Nat
  | .ok r => r.status
  | .error _ => Reply.internalError.status

/-- The stores that visits lead to from empty tables. -/
inductive Reachable (settings : Settings) : Store → Prop
  | fresh (enforces : Bool) : Reachable settings (.fresh enforces)
  | visit {s : Store} (v : Visit) : Reachable settings s →
      Reachable settings (Service.visit settings s v)

variable {settings : Settings} {s : Store}

theorem visit_mk (settings : Settings) (s : Store) (now : Instant) (r : Request) :
    visit settings s ⟨now, r⟩ = (handle settings now s r).1 := rfl

theorem serve_cons (settings : Settings) (s : Store) (v : Visit) (vs : List Visit) :
    serve settings s (v :: vs) = serve settings (visit settings s v) vs := rfl

theorem serve_append (settings : Settings) (s : Store) (vs ws : List Visit) :
    serve settings s (vs ++ ws) = serve settings (serve settings s vs) ws := List.foldl_append

theorem Reachable.serve (h : Reachable settings s) (vs : List Visit) :
    Reachable settings (serve settings s vs) := by
  induction vs generalizing s with
  | nil => exact h
  | cons v vs ih => exact ih (h.visit v)

theorem reachable_serve (settings : Settings) (enforces : Bool) (vs : List Visit) :
    Reachable settings (serve settings (.fresh enforces) vs) :=
  (Reachable.fresh enforces).serve vs

/-- What a visit keeps, a run keeps. -/
theorem serve_induction {P : Store → Prop} (step : ∀ s v, P s → P (visit settings s v))
    (h : P s) (vs : List Visit) : P (serve settings s vs) := by
  induction vs generalizing s with
  | nil => exact h
  | cons v vs ih => exact ih (step s v h)

end Weblog.Service
