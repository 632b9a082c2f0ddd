/-
  Unique names: no two users share a name or an address, and no two tags share a name.

  A registration and a new tag bring a name that was free. A tag that is renamed may take any name
  that no other tag has, its own included (`nodup_map_put`).
-/
import Weblog.Proofs.Service.Sound

namespace Weblog

/-! ## Keys of rows -/

section Keys

variable {α : Type} {key id : α → String} {rows : List α} {a : α}

theorem nodup_map_concat (h : (rows.map key).Nodup) (free : ∀ v ∈ rows, key v ≠ key a) :
    ((rows ++ [a]).map key).Nodup := by
  rw [List.map_append, List.map_singleton, ← List.concat_eq_append]
  refine h.concat fun taken => ?_
  obtain ⟨v, hv, same⟩ := List.mem_map.mp taken
  exact free v hv same

/-- A row is replaced, and only the row that it replaces may have had its key. -/
theorem nodup_map_put (h : (rows.map key).Nodup) (distinct : (rows.map id).Nodup)
    (free : ∀ v ∈ rows, key v = key a → id v = id a) :
    ((rows.map fun v => if id v = id a then a else v).map key).Nodup := by
  rw [List.map_map]
  refine List.Nodup.map_on (fun v hv w hw same => ?_) h.of_map
  simp only [Function.comp_apply] at same
  -- Two rows with one key: both are replaced, or one of them has the key of the new row.
  split at same
  · rename_i hv'
    split at same
    · rename_i hw'
      exact List.inj_on_of_nodup_map distinct hv hw (hv'.trans hw'.symm)
    · rename_i other
      exact absurd (free w hw same.symm) other
  · rename_i other
    split at same
    · exact absurd (free v hv same) other
    · exact List.inj_on_of_nodup_map h hv hw same

theorem nodup_map_filter {p : α → Bool} (h : (rows.map key).Nodup) :
    ((rows.filter p).map key).Nodup := h.sublist (List.filter_sublist.map _)

end Keys

/-! ## Tables -/

/-- Names and addresses of users, and names of tags, are there only once. -/
structure Tables.Unique (t : Tables) : Prop where
  usernames : (t.users.map (·.username)).Nodup
  emails : (t.users.map (·.email)).Nodup
  tagNames : (t.tags.map (·.name)).Nodup

namespace Tables

variable {t : Tables} {name : String}

theorem unique_empty : empty.Unique := ⟨List.nodup_nil, List.nodup_nil, List.nodup_nil⟩

theorem userNamed?_eq_none : t.userNamed? name = none ↔ ∀ u ∈ t.users, u.username ≠ name := by
  simp [userNamed?]

theorem userMailed?_eq_none : t.userMailed? name = none ↔ ∀ u ∈ t.users, u.email ≠ name := by
  simp [userMailed?]

theorem tagNamed?_eq_none : t.tagNamed? name = none ↔ ∀ g ∈ t.tags, g.name ≠ name := by
  simp [tagNamed?]

theorem isSome_userNamed? :
    (t.userNamed? name).isSome = true ↔ name ∈ t.users.map (·.username) := by
  simp [userNamed?]

theorem isSome_userMailed? :
    (t.userMailed? name).isSome = true ↔ name ∈ t.users.map (·.email) := by
  simp [userMailed?]

theorem isSome_tagNamed? :
    (t.tagNamed? name).isSome = true ↔ name ∈ t.tags.map (·.name) := by
  simp [tagNamed?]

namespace Unique

/-- A user keeps his name and his address. -/
theorem setUser (h : t.Unique) {u v : UserRow} (hu : u ∈ t.users)
    (distinct : (t.users.map (·.id)).Nodup) (hid : v.id = u.id)
    (name : v.username = u.username) (mail : v.email = u.email) : (t.setUser u.id v).Unique := by
  have usernames := nodup_map_put (a := v) h.usernames distinct fun w hw same => by
    rw [List.inj_on_of_nodup_map h.usernames hw hu (same.trans name), hid]
  have emails := nodup_map_put (a := v) h.emails distinct fun w hw same => by
    rw [List.inj_on_of_nodup_map h.emails hw hu (same.trans mail), hid]
  simp only [hid] at usernames emails
  exact ⟨usernames, emails, h.tagNames⟩

end Unique

end Tables

/-! ## Visits -/

namespace Service

variable {settings : Settings} {now : Instant} {s : Store} {r : Request} {e : Endpoint} {d : Done}

theorem Effect.unique (h : Effect settings now s r e d) (hs : Sound s) (unique : s.tables.Unique) :
    d.store.tables.Unique := by
  have ⟨usernames, emails, tagNames⟩ := unique
  cases h with
  | look same => exact same ▸ unique
  | register _ _ nameFree mailFree =>
    exact ⟨nodup_map_concat usernames (Tables.userNamed?_eq_none.mp nameFree),
      nodup_map_concat emails (Tables.userMailed?_eq_none.mp mailFree), tagNames⟩
  | login _ known =>
    exact unique.setUser (mem_of_checkLogin known) hs.users.distinct rfl rfl rfl
  | updateMe called => exact unique.setUser (mem_of_caller called) hs.users.distinct rfl rfl rfl
  | createPost _ _ _ _ _ _ _ left =>
    subst left
    exact ⟨usernames, emails, tagNames⟩
  | @updatePost _ _ _ _ _ _ tags _ _ _ _ _ _ _ _ _ _ left =>
    subst left
    cases tags <;> exact ⟨usernames, emails, tagNames⟩
  | createTag _ _ _ nameFree =>
    exact ⟨usernames, emails, nodup_map_concat tagNames (Tables.tagNamed?_eq_none.mp nameFree)⟩
  | @updateTag _ _ f _ g _ _ _ _ _ nameFree =>
    exact ⟨usernames, emails,
      nodup_map_put (a := f.apply now g) tagNames hs.tags.distinct nameFree⟩
  | deleteTag => exact ⟨usernames, emails, nodup_map_filter tagNames⟩
  | _ => exact ⟨usernames, emails, tagNames⟩

/-- In every run from empty tables, names and addresses are unique. -/
theorem Reachable.unique (h : Reachable settings s) : s.tables.Unique := by
  induction h with
  | fresh enforces => exact Tables.unique_empty
  | @visit s v reach ih =>
    unfold Service.visit
    obtain h | ⟨e, d, -, heffect, h, -⟩ := handle_cases settings v.now s v.request
    · rw [h]
      exact ih
    · rw [h]
      exact heffect.unique reach.sound ih

end Service

end Weblog
