/-
  Going back to the last commit and making it anew.

  Whatever was done since the last commit, the entities that stand for rows of then are brought back
  to them, and the others leave (`Recoverable.restored`). So a session that is rolled back keeps track
  of the posts of the last commit, and one that commits keeps track of its own.
-/
import Weblog.Proofs.Session.Stepping

namespace Weblog

namespace Entity

variable {e : Entity} {id : String}

/-- An entity that leaves the session has no key. -/
theorem IsRecord.expelled (h : e.IsRecord) : (Session.expelled e).IsRecord := by
  unfold Session.expelled
  split
  · refine ⟨h.texts, h.formers, h.noted, fun pending => (by cases pending), fun key hkey => (by cases hkey),
      fun keyed => (by cases keyed), fun keyed => (by cases keyed), fun mapped => (by cases mapped),
      fun doomed => ?_, h.unrenamed⟩
    have both : (e.isDoomed && !e.isMapped) = true := doomed
    rw [Bool.and_eq_true] at both
    rw [h.doomed both.1] at both
    cases both.2
  · exact h

/-- What stands for a row of the last commit does not leave. -/
theorem IsRecord.holds_expelled (h : e.IsRecord) : (Session.expelled e).Holds id ↔ e.Holds id := by
  unfold Session.expelled
  split
  · rename_i leaves
    refine ⟨fun ⟨hkey, _⟩ => (by cases hkey), fun ⟨hkey, unwritten, _⟩ => ?_⟩
    rw [unwritten, Bool.or_false] at leaves
    rw [h.unkeyed leaves] at hkey
    cases hkey
  · rfl

theorem kind_expelled (e : Entity) : (Session.expelled e).kind = e.kind := by
  unfold Session.expelled
  split <;> rfl

/-- What has a key still was not written since the last commit. -/
theorem unwritten_expelled (e : Entity) (keyed : (Session.expelled e).key?.isSome = true) :
    (Session.expelled e).wasWritten = false := by
  unfold Session.expelled at keyed ⊢
  split
  · rename_i leaves
    rw [if_pos leaves] at keyed
    cases keyed
  · rename_i stays
    rw [Bool.or_eq_true, not_or] at stays
    exact Bool.eq_false_iff.mpr stays.2

theorem IsRecord.lasting (h : e.IsRecord) : (Session.lasting e).IsRecord :=
  h.restand rfl rfl rfl rfl h.unrenamed.symm h.unkeyed h.found h.keyed h.doomed

end Entity

namespace Session

variable {s s' t : Session} {r q : Ref} {e f : Entity} {c : Tables} {ps : List PostRow}

theorem Altered.trans {R : Entity → Entity → Prop} (hR : ∀ e f g, R e f → R f g → R e g)
    (h : Altered R s s') (h' : Altered R s' t) : Altered R s t := by
  refine ⟨h'.length.trans h.length, fun r e he => ?_⟩
  obtain ⟨e', he', kind, change⟩ := h.entities r e he
  obtain ⟨e'', he'', kind', change'⟩ := h'.entities r e' he'
  exact ⟨e'', he'', kind'.trans kind, fun post => hR _ _ _ (change post) (change' (kind.trans post))⟩

/-- Entities of posts stay as they are. -/
def Spared : Session → Session → Prop := Altered fun e e' => e' = e

theorem Spared.refl (s : Session) : Spared s s :=
  Altered.refl (R := fun e e' => e' = e) (fun _ => rfl) s

theorem Spared.trans (h : Spared s s') (h' : Spared s' t) : Spared s t :=
  Altered.trans (fun _ _ _ same same' => same'.trans same) h h'

theorem spared_modifyEntity {g : Entity → Entity}
    (hg : ∀ e, s.entity? r = some e → e.kind ≠ .post ∧ (g e).kind = e.kind) :
    Spared s (s.modifyEntity r g) :=
  Altered.modifyEntity (R := fun e e' => e' = e) (fun _ => rfl) fun e he => ⟨(hg e he).2, fun post => absurd post (hg e he).1⟩

theorem Spared.back (h : Spared s s') (he : s'.PostAt r e) : s.PostAt r e := by
  obtain ⟨e', he', rfl⟩ := Altered.back h he
  exact he'

theorem modifyEntity_twice (s : Session) (r : Ref) (f g : Entity → Entity) :
    (s.modifyEntity r f).modifyEntity r g = s.modifyEntity r (g ∘ f) :=
  congrArg (fun es => { s with entities := es }) (List.modify_modify_eq ..)

/-- The entity takes its place by its key, and others with the same key lose it. -/
theorem entity?_occupied (he : s.entity? r = some e) (q : Ref) :
    (s.occupy r).entity? q = (s.entity? q).map fun f =>
      { f with isMapped := r = q || f.isMapped && !(e.key?.any fun key => isAt e.kind key f) } := by
  have others : (s.vacated e).entity? q = (s.entity? q).map fun f =>
      { f with isMapped := f.isMapped && !(e.key?.any fun key => isAt e.kind key f) } := by
    unfold vacated
    split
    · rename_i key hkey
      rw [entity?_mapEntities, hkey]
      refine Option.map_congr fun f _ => ?_
      rw [Option.any_some]
      cases isAt e.kind key f <;> simp
    · rename_i hkey
      rw [hkey]
      cases s.entity? q <;> simp
  have placed : (s.occupy r).entity? q =
      ((s.vacated e).modifyEntity r fun f => { f with isMapped := true }).entity? q := by
    unfold occupy
    rw [he]
    rfl
  rw [placed, entity?_modifyEntity, others]
  by_cases same : r = q
  · rw [if_pos same, Option.map_map]
    simp [same, Function.comp_def]
  · rw [if_neg same]
    simp [same]

theorem spared_occupy (other : ∀ e, s.entity? r = some e → e.kind ≠ .post) :
    Spared s (s.occupy r) := by
  refine ⟨length_occupy s r, fun q f hf => ?_⟩
  cases he : s.entity? r with
  | none =>
    refine ⟨f, ?_, rfl, fun _ => rfl⟩
    unfold occupy
    rw [he]
    exact hf
  | some e =>
    have found := entity?_occupied he q
    rw [hf] at found
    refine ⟨_, found, rfl, fun post => ?_⟩
    have apart : r ≠ q := by
      rintro rfl
      exact other f hf post
    have away : (e.key?.any fun key => isAt e.kind key f) = false := by
      cases e.key? with
      | none => rfl
      | some key =>
        refine Bool.eq_false_iff.mpr fun here => other e he ?_
        exact (Work.kind_of_isAt here).symm.trans post
    simp [apart, away]

/-- No key of a post is given back. -/
theorem spared_restoreKeys (unrenamed : ∀ r e, s.PostAt r e → e.renamedFrom? = none)
    (gone : List Ref) : Spared s (s.restoreKeys gone) := by
  unfold restoreKeys
  have all : ∀ r ∈ s.refs fun e => e.renamedFrom?.isSome, ∀ e, s.entity? r = some e →
      e.kind ≠ .post := by
    intro r hr e he post
    have found := (List.mem_filter.mp hr).2
    rw [he, Option.any_some, unrenamed r e ⟨he, post⟩] at found
    cases found
  generalize s.refs (fun e => e.renamedFrom?.isSome) = rs at all
  have kept : ∀ (rs : List Ref) (t : Session), (∀ r ∈ rs, ∀ e, t.entity? r = some e → e.kind ≠ .post) →
      Spared t (rs.foldl (fun s r =>
        let s := s.modifyEntity r fun e => { e with isMapped := false, key? := e.renamedFrom? }
        if gone.contains r then s else s.occupy r) t) := by
    intro rs
    induction rs with
    | nil => exact fun t _ => .refl t
    | cons r rs ih =>
      intro t others
      rw [List.foldl_cons]
      have named : Spared t (t.modifyEntity r fun e =>
          { e with isMapped := false, key? := e.renamedFrom? }) :=
        spared_modifyEntity fun e he => ⟨others r List.mem_cons_self e he, rfl⟩
      have kinds : ∀ {t' : Session}, Spared t t' → ∀ q ∈ r :: rs, ∀ e, t'.entity? q = some e →
          e.kind ≠ .post :=
        fun spared q hq e he post => others q hq e (spared.back ⟨he, post⟩).1 post
      have placed : Spared t (if gone.contains r then t.modifyEntity r fun e =>
            { e with isMapped := false, key? := e.renamedFrom? }
          else (t.modifyEntity r fun e =>
            { e with isMapped := false, key? := e.renamedFrom? }).occupy r) := by
        split
        · exact named
        · exact named.trans (spared_occupy (kinds named r List.mem_cons_self))
      exact placed.trans (ih _ fun q hq => kinds placed q (List.mem_cons_of_mem r hq))
  exact kept rs s all

/-! ## Taking back -/

/-- What was written since the last commit has no key any more. -/
structure Cleared (c : Tables) (s : Session) : Prop extends Recoverable c s where
  unwritten : ∀ r e, s.PostAt r e → e.key?.isSome = true → e.wasWritten = false

theorem Recoverable.cleared (h : s.Recoverable c) : (s.mapEntities expelled).Cleared c := by
  have alt : Altered (fun e e' => e' = expelled e) s (s.mapEntities expelled) :=
    ⟨List.length_map .., fun r e he =>
      ⟨expelled e, by rw [entity?_mapEntities, he]; rfl, e.kind_expelled, fun _ => rfl⟩⟩
  refine ⟨h.altered rfl alt ?_, fun r e' he' keyed => ?_⟩
  · rintro r e _ he rfl
    have record := h.records r e he
    exact ⟨record.expelled, fun _ => record.holds_expelled.mp⟩
  · obtain ⟨e, -, rfl⟩ := alt.back he'
    exact e.unwritten_expelled keyed

/-- An entity that is back with its row. -/
def returned (e : Entity) : Entity :=
  { e with isGone := false, isDoomed := false, isAttached := true, isMapped := true }

/-- An entity that stays as it is, or that is back with a row that it stood for. -/
def Returns (e e' : Entity) : Prop :=
  e' = e ∨ e' = returned e ∧ e.key?.isSome = true ∧ (e.isMapped = true ∨ e.wasRemoved = true)

theorem Cleared.altered (h : s.Cleared c) (committed : s'.committed = s.committed)
    (alt : Altered Returns s s') : s'.Cleared c := by
  refine ⟨h.toRecoverable.altered committed alt ?_, fun r e' he' keyed => ?_⟩
  · rintro r e e' he (rfl | ⟨rfl, keyed, standing⟩)
    · exact ⟨h.records r e' he, fun _ => id⟩
    · have record := h.records r e he
      exact ⟨record.restand rfl rfl rfl rfl rfl record.unkeyed (fun _ => .inl rfl) (fun _ => keyed)
        (fun doomed => by cases doomed), fun _ ⟨hkey, unwritten, _⟩ =>
          ⟨hkey, unwritten, standing⟩⟩
  · obtain ⟨e, he, rfl | ⟨rfl, keyed, -⟩⟩ := alt.back he'
    · exact h.unwritten r e' he keyed
    · exact h.unwritten r e he keyed

theorem returned_of_mapped (mapped : e.isMapped = true) :
    { e with isGone := false, isDoomed := false, isAttached := true } = returned e := by
  cases e
  cases mapped
  rfl

theorem Spared.returns (h : Spared s s') : Altered Returns s s' :=
  Altered.mono h fun _ _ _ _ => .inl

/-- The entity of a post is back with its row: no other one can have taken its place. -/
theorem Cleared.returns (h : s.Cleared c)
    (standing : ∀ e, s.PostAt r e → e.key?.isSome = true → e.isMapped = true ∨ e.wasRemoved = true) :
    Altered Returns s (restoreRow s r) := by
  have stays : Altered Returns s s := (Spared.refl s).returns
  unfold restoreRow
  split
  · exact stays
  rename_i e he
  split
  · exact stays
  rename_i key hkey
  split
  · exact stays
  dsimp only
  by_cases post : e.kind = .post
  · have stands := standing e ⟨he, post⟩ (by rw [hkey]; rfl)
    have record := h.records r e ⟨he, post⟩
    obtain ⟨⟨id, rfl⟩, -⟩ := record.key key hkey
    have keyed : e.key?.isSome = true := by rw [hkey]; rfl
    have came : ∀ {g : Entity → Entity}, g e = returned e → Altered Returns s (s.modifyEntity r g) := by
      intro g same
      refine .modifyEntity (fun _ => .inl rfl) fun e' he' => ?_
      obtain rfl := Option.some.inj (he.symm.trans he')
      rw [same]
      exact ⟨rfl, fun _ => .inr ⟨rfl, keyed, stands⟩⟩
    split
    · rw [modifyEntity_twice]
      exact came rfl
    · rename_i taken
      refine came (returned_of_mapped ?_)
      obtain ⟨q, found⟩ := Option.isSome_iff_exists.mp (Option.isSome_iff_ne_none.mpr
        fun free => taken (Option.isNone_iff_eq_none.mpr free))
      obtain ⟨f, hf, here⟩ := Work.isAt_of_mapped? found
      have kind : f.kind = .post := (Work.kind_of_isAt here).trans post
      rw [entity?_modifyEntity] at hf
      split at hf
      · rename_i same
        rw [← same, he] at hf
        obtain rfl := Option.some.inj hf
        rw [isAt, Bool.and_eq_true, Bool.and_eq_true] at here
        exact here.1.1
      · -- Two entities would stand for one row of the last commit.
        rename_i apart
        obtain ⟨mapped, hkey'⟩ := key_of_isAt (h.records q f ⟨hf, kind⟩) here
        have unwritten := h.unwritten r e ⟨he, post⟩ keyed
        have unwritten' := h.unwritten q f ⟨hf, kind⟩ (by rw [hkey']; rfl)
        exact absurd (h.alone r q e f id ⟨he, post⟩ ⟨hf, kind⟩ ⟨hkey, unwritten, stands⟩
          ⟨hkey', unwritten', .inl mapped⟩) apart
  · have spared : ∀ {g : Entity → Entity}, (∀ f : Entity, (g f).kind = f.kind) →
        Spared s (s.modifyEntity r g) := fun same => spared_modifyEntity fun f hf => by
      obtain rfl := Option.some.inj (he.symm.trans hf)
      exact ⟨post, same e⟩
    split
    · rw [modifyEntity_twice]
      refine (spared fun _ => ?_).returns
      rfl
    · refine (spared fun _ => ?_).returns
      rfl

theorem Cleared.restoreRows (rs : List Ref) : ∀ {s : Session}, s.Cleared c →
    (∀ r ∈ rs, ∀ e, s.PostAt r e → e.key?.isSome = true → e.isMapped = true ∨ e.wasRemoved = true) →
    (rs.foldl restoreRow s).Cleared c := by
  induction rs with
  | nil => exact fun h _ => h
  | cons r rs ih =>
    intro s h standing
    have returns := h.returns (standing r List.mem_cons_self)
    refine ih (h.altered (same_restoreRow s r).2 returns) fun q hq e' he' keyed => ?_
    obtain ⟨e, he, rfl | ⟨rfl, -, -⟩⟩ := returns.back he'
    · exact standing q (List.mem_cons_of_mem r hq) e' he keyed
    · exact .inl rfl

/-- A session that was taken back: what it finds of posts by their keys is known not to be written,
and holds nothing. -/
structure Restored (c : Tables) (s : Session) : Prop extends Recoverable c s where
  given : ∀ r e, s.PostAt r e → e.isMapped = true →
    e.wasWritten = false ∧ e.IsUnset ∧ ∀ p, e.Follows p

theorem altered_expireAll (s : Session) :
    Altered (fun e e' => e' = if e.isMapped then e.expired else e) s s.expireAll :=
  .mapEntities fun r e he => by
    split
    · exact ⟨rfl, fun _ => rfl⟩
    · exact ⟨rfl, fun _ => rfl⟩

/-- What is found by its key gave up what it held. -/
theorem given_of_expireAll (he : s.expireAll.PostAt r e) (mapped : e.isMapped = true) :
    ∃ f, s.PostAt r f ∧ f.isMapped = true ∧ e = f.expired := by
  obtain ⟨f, hf, rfl⟩ := (altered_expireAll s).back he
  by_cases here : f.isMapped = true
  · exact ⟨f, hf, here, if_pos here⟩
  · rw [if_neg here] at mapped
    exact absurd mapped here

theorem Cleared.givenUp (h : s.Cleared c) : s.expireAll.Restored c := by
  refine ⟨h.toRecoverable.altered rfl (altered_expireAll s) ?_, fun r e he mapped => ?_⟩
  · rintro r e _ he rfl
    have record := h.records r e he
    split
    · have abides : e.Abides [] e.expired := Entity.abides_expired he.2
      exact ⟨abides.record record, fun _ => abides.holds.mp⟩
    · exact ⟨record, fun _ => id⟩
  · obtain ⟨f, hf, here, rfl⟩ := given_of_expireAll he mapped
    exact ⟨h.unwritten r f hf ((h.records r f hf).keyed here), fun _ _ => rfl,
      Entity.follows_expired hf.2⟩

theorem Recoverable.restored (h : s.Recoverable c) : s.restored.Restored c := by
  have cleared := h.cleared
  have keys := spared_restoreKeys (s := s.mapEntities expelled)
    (fun r e he => (cleared.records r e he).unrenamed) (s.refs isExpelled)
  have named := cleared.altered (same_restoreKeys _ _).2 keys.returns
  have rows := named.restoreRows (((s.mapEntities expelled).restoreKeys (s.refs isExpelled)).refs
    fun e => e.wasRemoved || e.isDoomed) fun r hr e he _ => by
      have found := (List.mem_filter.mp hr).2
      rw [he.1, Option.any_some, Bool.or_eq_true] at found
      exact found.symm.imp_left (named.records r e he).doomed
  exact rows.givenUp

theorem Restored.of_entities (h : s.Restored c) (entities : s'.entities = s.entities)
    (committed : s'.committed = s.committed) : s'.Restored c := by
  have alt : Spared s s' := Altered.of_entities (R := fun e e' => e' = e) (fun _ => rfl) entities
  refine ⟨h.toRecoverable.altered committed alt ?_, fun r e he => h.given r e (alt.back he)⟩
  rintro r e _ he rfl
  exact ⟨h.records r _ he, fun _ => id⟩

theorem Recoverable.of_entities (h : s.Recoverable c) (entities : s'.entities = s.entities)
    (committed : s'.committed = s.committed) : s'.Recoverable c :=
  h.altered committed (Altered.of_entities (R := fun e e' => e' = e) (fun _ => rfl) entities) <| by
    rintro r e _ he rfl
    exact ⟨h.records r _ he, fun _ => id⟩

/-- Where writing fails, tables and posts are those of the last commit. -/
theorem Recoverable.failed (h : s.Recoverable c) : s.failed.Restored c ∧ s.failed.tables = c := by
  have back : ({ s with store := { s.store with tables := s.committed } } : Session).Recoverable c :=
    h.of_entities rfl rfl
  refine ⟨back.restored.of_entities rfl rfl, ?_⟩
  exact (congrArg Store.tables (same_restored _).1).trans h.committed

/-! ## Rolling back and committing -/

/-- A session in which nothing was written or taken out since the last commit keeps track of its
posts, if the entities that it finds do so. -/
theorem tracks_of_lasting (committed : s.committed = c) (posts : s.tables.posts = c.posts)
    (whole : s.broken = false) (ids : (c.posts.map (·.id)).Nodup)
    (records : ∀ r e, s.PostAt r e → e.IsRecord)
    (lasting : ∀ r e, s.PostAt r e → e.wasRemoved = false)
    (follows : ∀ r e, s.PostAt r e → e.isMapped = true →
      e.IsUnset ∧ ∃ p ∈ c.posts, e.key? = some (.text p.id) ∧ e.Follows p)
    (single : ∀ r q e f, s.PostAt r e → s.PostAt q f → e.isMapped = true → f.isMapped = true →
      e.key? = f.key? → r = q) : s.Tracks c.posts c := by
  have mapped : ∀ {r e id}, s.PostAt r e → e.Holds id → e.isMapped = true := by
    rintro r e id he ⟨-, -, here | removed⟩
    · exact here
    · rw [lasting r e he] at removed
      cases removed
  refine ⟨⟨committed, ids, records, fun r e id he holds => ?_, fun r q e f id he hf holds holds' => ?_⟩,
    posts, whole, ids, fun r e he here => (follows r e he here).2,
    fun r e he here _ => (follows r e he here).1, single, fun p hp => ?_⟩
  · obtain ⟨-, p, hp, hkey, -⟩ := follows r e he (mapped he holds)
    obtain rfl := Cell.text.inj (Option.some.inj (holds.1.symm.trans hkey))
    exact List.mem_map_of_mem hp
  · exact single r q e f he hf (mapped he holds) (mapped hf holds') (holds.1.trans holds'.1.symm)
  · by_cases found : ∃ r e, s.PostAt r e ∧ e.isMapped = true ∧ e.key? = some (.text p.id)
    · exact .inl found
    · exact .inr ⟨List.mem_map_of_mem hp, fun r e he holds => found ⟨r, e, he, mapped he holds, holds.1⟩⟩

theorem tracks_rollback (h : s.Recoverable c) (restored : s.broken = true → s.Restored c) :
    s.rollback.Tracks c.posts c ∧ s.rollback.tables = c := by
  have undone : (if s.broken && s.isClean then s else s.restored).Restored c := by
    split
    · rename_i broken
      exact restored ((Bool.and_eq_true _ _).mp broken).1
    · exact h.restored
  unfold rollback
  generalize (if s.broken && s.isClean then s else s.restored) = t at undone
  have tables : t.committed = c := undone.committed
  -- What is found by the key of a post stood for it at the last commit.
  have holds : ∀ {r e}, t.PostAt r e → e.isMapped = true → ∃ id, e.Holds id := by
    intro r e he mapped
    obtain ⟨id, hkey, -⟩ := (undone.records r e he).exists_key mapped
    exact ⟨id, hkey, (undone.given r e he mapped).1, .inl mapped⟩
  have alt : Altered (fun e e' => e' = lasting e) t (t.mapEntities lasting) :=
    .mapEntities fun r e he => ⟨rfl, fun _ => rfl⟩
  refine ⟨tracks_of_lasting tables (congrArg Tables.posts tables) rfl undone.ids (fun r e' he' => ?_)
    (fun r e' he' => ?_) (fun r e' he' mapped => ?_)
    fun r q e' f' he' hf' mapped mapped' same => ?_, tables⟩
  · obtain ⟨e, he, rfl⟩ := alt.back he'
    exact (undone.records r e he).lasting
  · obtain ⟨e, -, rfl⟩ := alt.back he'
    rfl
  · obtain ⟨e, he, rfl⟩ := alt.back he'
    obtain ⟨-, unset, follows⟩ := undone.given r e he mapped
    obtain ⟨id, hold⟩ := holds he mapped
    obtain ⟨p, hp, rfl⟩ := List.mem_map.mp (undone.stored r e id he hold)
    exact ⟨unset, p, hp, hold.1, follows p⟩
  · obtain ⟨e, he, rfl⟩ := alt.back he'
    obtain ⟨f, hf, rfl⟩ := alt.back hf'
    obtain ⟨id, hold⟩ := holds he mapped
    obtain ⟨id', hold'⟩ := holds hf mapped'
    obtain rfl := Cell.text.inj (Option.some.inj (hold.1.symm.trans (same.trans hold'.1)))
    exact undone.alone r q e f id he hf hold hold'

theorem Tracks.sealed (h : s.Tracks ps c) : s.sealed.Tracks ps s.tables := by
  have given : s.expireAll.Tracks ps c := (Tracking.refl h).expireAll.toTracks
  have left : Altered (fun e e' => ∃ attached, e' = lasting { e with isAttached := attached })
      s.expireAll (s.expireAll.mapEntities (lasting ∘ fun e =>
        if e.wasRemoved then { e with isAttached := false } else e)) := by
    refine .mapEntities fun r e he => ⟨?_, fun _ => ?_⟩
    · simp only [Function.comp_apply]
      split <;> rfl
    · simp only [Function.comp_apply]
      split
      · exact ⟨false, rfl⟩
      · exact ⟨e.isAttached, rfl⟩
  have alt : Altered (fun e e' => ∃ attached, e' = lasting { e with isAttached := attached })
      s.expireAll s.sealed := ⟨left.length, left.entities⟩
  have posts : ps = s.tables.posts := h.posts.symm
  subst posts
  refine tracks_of_lasting rfl rfl given.whole h.distinct (fun r e' he' => ?_) (fun r e' he' => ?_)
    (fun r e' he' mapped => ?_) fun r q e' f' he' hf' mapped mapped' same => ?_
  · obtain ⟨e, he, attached, rfl⟩ := alt.back he'
    have record := given.records r e he
    exact record.restand rfl rfl rfl rfl record.unrenamed.symm record.unkeyed record.found record.keyed
      record.doomed
  · obtain ⟨e, -, attached, rfl⟩ := alt.back he'
    rfl
  · obtain ⟨e, he, attached, rfl⟩ := alt.back he'
    refine ⟨?_, given.follows r e he mapped⟩
    obtain ⟨f, -, -, rfl⟩ := given_of_expireAll he mapped
    exact fun _ _ => rfl
  · obtain ⟨e, he, attached, rfl⟩ := alt.back he'
    obtain ⟨f, hf, attached', rfl⟩ := alt.back hf'
    exact given.single r q e f he hf mapped mapped' same

end Session

end Weblog
