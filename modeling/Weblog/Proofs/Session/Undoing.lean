/-
  Undoing and making lasting keep entities in good order: an entity that comes back to its row gives
  up what it holds, and one that leaves the session keeps it.
-/
import Weblog.Proofs.Session.Asking

namespace Weblog

open Session (IsOrderly Holding)

namespace Entity

variable {e : Entity}

theorem orderly_expelled (h : e.Orderly) : (Session.expelled e).Orderly := by
  unfold Session.expelled
  split
  · exact h.restand rfl rfl rfl rfl rfl id fun mapped => by cases mapped
  · exact h

theorem orderly_lasting (h : e.Orderly) : (Session.lasting e).Orderly :=
  h.restand rfl rfl rfl rfl rfl id h.keyed

end Entity

namespace Session

variable {s : Session} {r : Ref}

theorem entity?_modifyEntity_self {e : Entity} {f : Entity → Entity} (h : s.entity? r = some e) :
    (s.modifyEntity r f).entity? r = some (f e) := by
  rw [entity?_modifyEntity, if_pos rfl, h]
  rfl

/-- The session where no entity is in the place of an entity. -/
def vacated (s : Session) (e : Entity) : Session :=
  match e.key? with
  | some key => s.mapEntities fun f => if isAt e.kind key f then { f with isMapped := false } else f
  | none => s

/-- An entity that takes its place by its key is mapped, and others may not be any more. -/
theorem entity?_occupy {q : Ref} {e' : Entity} (h : (s.occupy r).entity? q = some e') :
    ∃ e m, s.entity? q = some e ∧ e' = { e with isMapped := m } ∧
      (m = true → e.isMapped = true ∨ q = r) := by
  unfold occupy at h
  split at h
  · exact ⟨e', e'.isMapped, h, rfl, .inl⟩
  · rename_i e₀ he₀
    rw [entity?_modifyEntity] at h
    have others : ∀ e₁ : Entity,
        (s.vacated e₀).entity? q = some e₁ →
        ∃ e m, s.entity? q = some e ∧ e₁ = { e with isMapped := m } ∧ (m = true → e.isMapped = true) := by
      intro e₁ he₁
      unfold vacated at he₁
      split at he₁
      · rw [entity?_mapEntities] at he₁
        obtain ⟨e, he, rfl⟩ := Option.map_eq_some_iff.mp he₁
        split
        · exact ⟨e, false, he, rfl, fun h => by cases h⟩
        · exact ⟨e, e.isMapped, he, rfl, id⟩
      · exact ⟨e₁, e₁.isMapped, he₁, rfl, id⟩
    split at h
    · rename_i same
      obtain ⟨e₁, he₁, rfl⟩ := Option.map_eq_some_iff.mp h
      obtain ⟨e, m, he, rfl, -⟩ := others e₁ he₁
      exact ⟨e, true, he, rfl, fun _ => .inr same.symm⟩
    · obtain ⟨e, m, he, rfl, hm⟩ := others e' h
      exact ⟨e, m, he, rfl, fun h => .inl (hm h)⟩

theorem length_occupy (s : Session) (r : Ref) : (s.occupy r).entities.length = s.entities.length := by
  unfold occupy
  split
  · rfl
  · rw [modifyEntity, List.length_modify]
    split
    · exact List.length_map ..
    · rfl

theorem same_occupy (s : Session) (r : Ref) :
    (s.occupy r).store = s.store ∧ (s.occupy r).committed = s.committed := by
  unfold occupy
  split
  · exact ⟨rfl, rfl⟩
  · split <;> exact ⟨rfl, rfl⟩

theorem same_restoreRow (s : Session) (r : Ref) :
    (s.restoreRow r).store = s.store ∧ (s.restoreRow r).committed = s.committed := by
  unfold restoreRow
  split
  · exact ⟨rfl, rfl⟩
  · split
    · exact ⟨rfl, rfl⟩
    · split
      · exact ⟨rfl, rfl⟩
      · dsimp only
        split <;> exact ⟨rfl, rfl⟩

theorem same_foldl {f : Session → Ref → Session}
    (h : ∀ s r, (f s r).store = s.store ∧ (f s r).committed = s.committed) (rs : List Ref)
    (s : Session) : (rs.foldl f s).store = s.store ∧ (rs.foldl f s).committed = s.committed := by
  induction rs generalizing s with
  | nil => exact ⟨rfl, rfl⟩
  | cons r rs ih =>
    rw [List.foldl_cons, (ih _).1, (ih _).2]
    exact h s r

theorem same_restoreKeys (s : Session) (gone : List Ref) :
    (s.restoreKeys gone).store = s.store ∧ (s.restoreKeys gone).committed = s.committed := by
  refine same_foldl (fun s r => ?_) _ _
  dsimp only
  split
  · exact ⟨rfl, rfl⟩
  · exact same_occupy _ r

/-- Taking entities back leaves the tables as they are. -/
theorem same_restored (s : Session) :
    s.restored.store = s.store ∧ s.restored.committed = s.committed := by
  obtain ⟨store, committed⟩ := same_restoreKeys (s.mapEntities expelled) (s.refs isExpelled)
  obtain ⟨store', committed'⟩ := same_foldl same_restoreRow
    (((s.mapEntities expelled).restoreKeys (s.refs isExpelled)).refs fun e =>
      e.wasRemoved || e.isDoomed) ((s.mapEntities expelled).restoreKeys (s.refs isExpelled))
  exact ⟨store'.trans store, committed'.trans committed⟩

theorem Holding.occupy {C : Prop} {n : Nat} {P : Ref → Entity → Prop} (h : Holding C n P s)
    (hP : C → ∀ q e m, s.entity? q = some e → P q e → (m = true → e.isMapped = true ∨ q = r) →
      P q { e with isMapped := m }) : Holding C n P (s.occupy r) := by
  intro hC
  obtain ⟨tables, committed, enough, entities⟩ := h hC
  obtain ⟨store, kept⟩ := s.same_occupy r
  refine ⟨?_, kept ▸ committed, s.length_occupy r ▸ enough, fun q e' he' => ?_⟩
  · rw [Session.tables, store]
    exact tables
  · obtain ⟨e, m, he, rfl, hm⟩ := entity?_occupy he'
    exact hP hC q e m he (entities q e he) hm

/-! ## Undoing -/

theorem orderly_occupy (h : s.IsOrderly) (keyed : ∀ e, s.entity? r = some e → e.key?.isSome = true) :
    (s.occupy r).IsOrderly := by
  refine h.occupy fun _ q e m he orderly hm => ?_
  refine orderly.restand rfl rfl rfl rfl rfl id fun mapped => ?_
  rcases hm mapped with old | rfl
  · exact orderly.keyed old
  · exact keyed e he

/-- Entities keep what they are to be renamed to. -/
theorem orderly_restoreKeys (h : s.IsOrderly) (gone : List Ref) : (s.restoreKeys gone).IsOrderly := by
  unfold restoreKeys
  have all : ∀ r ∈ s.refs fun e => e.renamedFrom?.isSome, ∀ e, s.entity? r = some e →
      e.renamedFrom?.isSome = true := by
    intro r hr e he
    have found := (List.mem_filter.mp hr).2
    rw [he] at found
    exact found
  generalize s.refs (fun e => e.renamedFrom?.isSome) = rs at all
  induction rs generalizing s with
  | nil => exact h
  | cons r rs ih =>
    rw [List.foldl_cons]
    have named : (s.modifyEntity r fun e =>
        { e with isMapped := false, key? := e.renamedFrom? }).IsOrderly :=
      h.modifyEntity fun hC e he => (h.entity he hC).restand rfl rfl rfl rfl rfl id
        fun mapped => by cases mapped
    have keeps : ∀ q e', (s.modifyEntity r fun e =>
        { e with isMapped := false, key? := e.renamedFrom? }).entity? q = some e' →
        ∃ e, s.entity? q = some e ∧ e'.renamedFrom? = e.renamedFrom? ∧
          (r = q → e'.key? = e.renamedFrom?) := by
      intro q e' he'
      rw [entity?_modifyEntity] at he'
      split at he'
      · obtain ⟨e, he, rfl⟩ := Option.map_eq_some_iff.mp he'
        exact ⟨e, he, rfl, fun _ => rfl⟩
      · exact ⟨e', he', rfl, fun same => absurd same ‹_›⟩
    refine ih ?_ fun q hq e' he' => ?_
    · dsimp only
      split
      · exact named
      · refine orderly_occupy named fun e' he' => ?_
        obtain ⟨e, he, -, key⟩ := keeps r e' he'
        rw [key rfl]
        exact all r List.mem_cons_self e he
    · have found : ∃ e, s.entity? q = some e ∧ e'.renamedFrom? = e.renamedFrom? := by
        dsimp only at he'
        split at he'
        · obtain ⟨e, he, same, -⟩ := keeps q e' he'
          exact ⟨e, he, same⟩
        · obtain ⟨e₁, m, he₁, rfl, -⟩ := entity?_occupy he'
          obtain ⟨e, he, same, -⟩ := keeps q e₁ he₁
          exact ⟨e, he, same⟩
      obtain ⟨e, he, same⟩ := found
      rw [same]
      exact all q (List.mem_cons_of_mem r hq) e he

theorem orderly_restoreRow (h : s.IsOrderly) (r : Ref) : (restoreRow s r).IsOrderly := by
  unfold restoreRow
  split
  · exact h
  · rename_i e he
    split
    · exact h
    · rename_i key hkey
      split
      · exact h
      · have back : (s.modifyEntity r fun e =>
            { e with isGone := false, isDoomed := false, isAttached := true }).IsOrderly :=
          h.modifyEntity fun hC e he => by
            have orderly := h.entity he hC
            exact orderly.restand rfl rfl rfl rfl rfl id orderly.keyed
        dsimp only
        split
        · refine back.modifyEntity fun hC e' he' => ?_
          refine (back.entity he' hC).restand rfl rfl rfl rfl rfl id fun _ => ?_
          rw [entity?_modifyEntity_self he] at he'
          obtain rfl := Option.some.inj he'
          exact hkey ▸ rfl
        · exact back

theorem orderly_expireAll (h : s.IsOrderly) : s.expireAll.IsOrderly := by
  refine h.mapEntities fun hC r e he => ?_
  have orderly := h.entity he hC
  split
  · exact e.orderly_expired orderly
  · exact orderly

theorem orderly_restored (h : s.IsOrderly) : s.restored.IsOrderly := by
  unfold restored
  refine orderly_expireAll (s := List.foldl restoreRow _ _) ?_
  have keys := orderly_restoreKeys (s := s.mapEntities expelled)
    (h.mapEntities fun hC r e he => Entity.orderly_expelled (h.entity he hC)) (s.refs isExpelled)
  generalize (s.mapEntities expelled).restoreKeys (s.refs isExpelled) = t at keys
  generalize t.refs (fun e => e.wasRemoved || e.isDoomed) = rs
  induction rs generalizing t with
  | nil => exact keys
  | cons r rs ih => exact ih _ (orderly_restoreRow keys r)

/-- Tables that are taken back are filled. -/
theorem orderly_back (h : s.IsOrderly) :
    ({ s with store := { s.store with tables := s.committed } } : Session).IsOrderly :=
  h.of_same rfl (fun hC _ => (h hC).committed) rfl

theorem orderly_failed (h : s.IsOrderly) : s.failed.IsOrderly :=
  (orderly_restored (orderly_back h)).of_same rfl (fun _ => id) rfl

theorem orderly_rollback (h : s.IsOrderly) : s.rollback.IsOrderly := by
  unfold rollback
  have undone : (if s.broken && s.isClean then s else s.restored).IsOrderly := by
    split
    · exact h
    · exact orderly_restored h
  have lasts := undone.mapEntities (f := lasting) fun hC r e he =>
    Entity.orderly_lasting (undone.entity he hC)
  exact lasts.of_same rfl (fun hC _ => (undone hC).committed) rfl

theorem orderly_sealed (h : s.IsOrderly) : s.sealed.IsOrderly := by
  intro hC
  have left : (s.expireAll.mapEntities (lasting ∘ fun e =>
      if e.wasRemoved then { e with isAttached := false } else e)).IsOrderly := by
    refine (orderly_expireAll h).mapEntities fun hC r e he => Entity.orderly_lasting ?_
    have orderly := (orderly_expireAll h).entity he hC
    dsimp only
    split
    · exact orderly.restand rfl rfl rfl rfl rfl id orderly.keyed
    · exact orderly
  obtain ⟨tables, -, enough, entities⟩ := left hC
  exact ⟨tables, (h hC).tables, enough, entities⟩

end Session

end Weblog
