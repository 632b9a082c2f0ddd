/-
  Sessions whose tables are filled and whose entities are watched.

  A property of entities that calm work keeps, and that the entities of rows have, is kept by all
  work that only reads. Some properties are asked for under a condition only: without it nothing is
  claimed of the session, and what is left is how the work may fail.
-/
import Weblog.Proofs.Session.Orderly
import Weblog.Proofs.Session.Work

namespace Weblog.Session

variable {s : Session} {r q : Ref} {f g : Entity → Entity} {e : Entity}

/-! ## Entities by number -/

theorem entity?_modifyEntity (s : Session) (r q : Ref) (f : Entity → Entity) :
    (s.modifyEntity r f).entity? q = if r = q then (s.entity? q).map f else s.entity? q := by
  unfold modifyEntity entity?
  rw [List.getElem?_modify]
  by_cases h : r = q
  · simp only [h, if_true]
    rfl
  · simp only [h, if_false]
    exact Option.map_id'

theorem modifyEntity_congr (h : ∀ e, s.entity? r = some e → f e = g e) :
    s.modifyEntity r f = s.modifyEntity r g := by
  unfold modifyEntity
  congr 1
  refine List.ext_getElem? fun q => ?_
  show (s.modifyEntity r f).entity? q = (s.modifyEntity r g).entity? q
  rw [entity?_modifyEntity, entity?_modifyEntity]
  by_cases hq : r = q
  · subst hq
    rw [if_pos rfl, if_pos rfl]
    cases he : s.entity? r with
    | none => rfl
    | some e => exact congrArg some (h e he)
  · rw [if_neg hq, if_neg hq]

theorem entity?_mapEntities (s : Session) (f : Entity → Entity) (q : Ref) :
    (s.mapEntities f).entity? q = (s.entity? q).map f := List.getElem?_map

/-! ## Watched sessions -/

/-- The tables are filled, and a property holds of all entities, of which there are at least some
number. -/
structure Watched (n : Nat) (P : Ref → Entity → Prop) (s : Session) : Prop where
  tables : s.tables.IsFilled
  committed : s.committed.IsFilled
  enough : n ≤ s.entities.length
  entities : ∀ r e, s.entity? r = some e → P r e

/-- A property of entities that is kept by some changes, and that new entities of rows have. -/
structure Closed (R : Entity → Entity → Prop) (n : Nat) (P : Ref → Entity → Prop) : Prop where
  step : ∀ {r e e'}, P r e → R e e' → P r e'
  new : ∀ {r row}, n ≤ r → row.IsFilled → P r (.ofRow row)

theorem Closed.calm {n : Nat} {P : Ref → Entity → Prop} (h : Closed Entity.Steady n P) :
    Closed Entity.Calm n P :=
  ⟨fun he calm => h.step he calm.toSteady, h.new⟩

theorem Closed.still {n : Nat} {P : Ref → Entity → Prop} (h : Closed Entity.Calm n P) :
    Closed Entity.Still n P :=
  ⟨fun he still => h.step he still.calm, h.new⟩

/-- How entities came about since a session: by changes from what they were then, or from the row
with which they are new. -/
def Came (R : Entity → Entity → Prop) (s : Session) (r : Ref) (e : Entity) : Prop :=
  (∃ e₀, s.entity? r = some e₀ ∧ R e₀ e) ∨
    s.entities.length ≤ r ∧ ∃ row : Row, row.IsFilled ∧ R (.ofRow row) e

theorem Closed.came {R : Entity → Entity → Prop} (refl : ∀ e, R e e)
    (trans : ∀ {e e' e''}, R e e' → R e' e'' → R e e'') (s : Session) :
    Closed R s.entities.length (Came R s) where
  step := by
    rintro r e e' (⟨e₀, he₀, h⟩ | ⟨new, row, hrow, h⟩) h'
    · exact .inl ⟨e₀, he₀, trans h h'⟩
    · exact .inr ⟨new, row, hrow, trans h h'⟩
  new := fun {r row} new hrow => .inr ⟨new, row, hrow, refl _⟩

/-- What was there came from what it was. -/
theorem Came.of_entity {R : Entity → Entity → Prop} {e₀ : Entity} (h : Came R s r e)
    (he₀ : s.entity? r = some e₀) : R e₀ e := by
  rcases h with ⟨e₁, he₁, h⟩ | ⟨new, -⟩
  · rw [he₀] at he₁
    exact Option.some.inj he₁ ▸ h
  · rw [entity?, List.getElem?_eq_none new] at he₀
    cases he₀

/-- The invariant of work: sessions that are watched, if a condition holds. -/
def Holding (C : Prop) (n : Nat) (P : Ref → Entity → Prop) (s : Session) : Prop :=
  C → s.Watched n P

namespace Holding

variable {C : Prop} {n : Nat} {P : Ref → Entity → Prop} {R : Entity → Entity → Prop} {row : Row}

theorem mono {m : Nat} {P' : Ref → Entity → Prop} (h : Holding C n P s) (less : C → m ≤ n)
    (hP : C → ∀ r e, P r e → P' r e) : Holding C m P' s := by
  intro hC
  obtain ⟨tables, committed, enough, entities⟩ := h hC
  exact ⟨tables, committed, Nat.le_trans (less hC) enough, fun r e he => hP hC r e (entities r e he)⟩

theorem entity (h : Holding C n P s) (he : s.entity? r = some e) : C → P r e :=
  fun hC => (h hC).entities r e he

theorem modifyEntity (h : Holding C n P s)
    (hf : C → ∀ e, s.entity? r = some e → P r (f e)) : Holding C n P (s.modifyEntity r f) := by
  intro hC
  obtain ⟨tables, committed, enough, entities⟩ := h hC
  refine ⟨tables, committed, ?_, fun q e he => ?_⟩
  · rw [Session.modifyEntity, List.length_modify]
    exact enough
  · rw [entity?_modifyEntity] at he
    split at he
    · rename_i hq
      subst hq
      obtain ⟨e', he', rfl⟩ := Option.map_eq_some_iff.mp he
      exact hf hC e' he'
    · exact entities q e he

theorem step (hP : Closed R n P) (h : Holding C n P s)
    (hf : C → ∀ e, s.entity? r = some e → R e (f e)) : Holding C n P (s.modifyEntity r f) :=
  h.modifyEntity fun hC e he => hP.step (h.entity he hC) (hf hC e he)

theorem push (h : Holding C n P s) (he : C → P s.entities.length e) :
    Holding C n P { s with entities := s.entities ++ [e] } := by
  intro hC
  obtain ⟨tables, committed, enough, entities⟩ := h hC
  refine ⟨tables, committed, ?_, fun q e' he' => ?_⟩
  · rw [List.length_append]
    exact Nat.le_add_right_of_le enough
  · rcases Nat.lt_or_ge q s.entities.length with old | new
    · exact entities q e' ((List.getElem?_append_left old).symm.trans he')
    · have found : [e][q - s.entities.length]? = some e' :=
        (List.getElem?_append_right new).symm.trans he'
      obtain ⟨last, rfl⟩ := List.getElem?_eq_some_iff.mp found
      obtain rfl : q = s.entities.length :=
        Nat.le_antisymm (Nat.sub_eq_zero_iff_le.mp (Nat.lt_one_iff.mp last)) new
      rw [List.getElem_singleton]
      exact he hC

theorem mapEntities (h : Holding C n P s) (hf : C → ∀ r e, s.entity? r = some e → P r (f e)) :
    Holding C n P (s.mapEntities f) := by
  intro hC
  obtain ⟨tables, committed, enough, -⟩ := h hC
  refine ⟨tables, committed, ?_, fun q e he => ?_⟩
  · rw [Session.mapEntities, List.length_map]
    exact enough
  · rw [entity?_mapEntities] at he
    obtain ⟨e', he', rfl⟩ := Option.map_eq_some_iff.mp he
    exact hf hC q e' he'

/-- What is not part of the tables and the entities does not matter. -/
theorem of_same {s' : Session} (h : Holding C n P s) (entities : s'.entities = s.entities)
    (tables : C → s.tables.IsFilled → s'.tables.IsFilled) (committed : s'.committed = s.committed) :
    Holding C n P s' := by
  intro hC
  obtain ⟨filled, kept, enough, all⟩ := h hC
  refine ⟨tables hC filled, committed ▸ kept, entities ▸ enough, fun r e he => all r e ?_⟩
  rw [entity?, ← entities]
  exact he

end Holding

end Weblog.Session
