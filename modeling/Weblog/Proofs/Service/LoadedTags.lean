/-
  The tags of a post as they are loaded: one tag for each identifier that is mentioned, in the order
  of first mention, however the rows of the table are ordered.

  That all are there is told from their number alone. Identifiers of rows are distinct, and so are
  those that are looked for once repetitions are erased, so there are as many rows as identifiers
  only if each identifier has its row (`Posts.length_found_iff`). What is loaded is determined by the
  identifiers (`Posts.Loaded.eq`), and so the order of the rows plays no part in it.
-/
import Mathlib.Data.List.Induction
import Weblog.Proofs.Service.Refused

namespace Weblog

/-- Erasing repetitions leaves the values in the order of first mention. -/
theorem pairwise_idxOf_eraseDups (l : List String) :
    l.eraseDups.Pairwise fun a b => l.idxOf a < l.idxOf b := by
  induction l using List.reverseRecOn with
  | nil => exact List.Pairwise.nil
  | append_singleton l c ih =>
    -- A value that was there before keeps the place of its first mention.
    have kept : l.eraseDups.Pairwise fun a b => (l ++ [c]).idxOf a < (l ++ [c]).idxOf b := by
      refine ih.imp_of_mem fun ha hb earlier => ?_
      rw [List.idxOf_append_of_mem (List.mem_eraseDups.mp ha),
        List.idxOf_append_of_mem (List.mem_eraseDups.mp hb)]
      exact earlier
    by_cases known : c ∈ l
    · have erased : (l ++ [c]).eraseDups = l.eraseDups := by
        simp [List.eraseDups_append, List.removeAll, known]
      rw [erased]
      exact kept
    · have erased : (l ++ [c]).eraseDups = l.eraseDups ++ [c] := by
        have added : [c].removeAll l = [c] := by simp [List.removeAll, known]
        rw [List.eraseDups_append, added]
        rfl
      rw [erased]
      refine List.pairwise_append.mpr ⟨kept, List.pairwise_singleton _ _, fun a ha b hb => ?_⟩
      have mem : a ∈ l := List.mem_eraseDups.mp ha
      rw [List.mem_singleton.mp hb, List.idxOf_append_of_mem mem,
        List.idxOf_append_of_notMem known]
      exact Nat.lt_of_lt_of_le (List.idxOf_lt_length_of_mem mem) (Nat.le_add_right _ _)

namespace Posts

variable {rows rows' tags tags' : List TagRow} {ids : List String}

/-- Tags as they are loaded for identifiers: rows of the table, one for each identifier, in the
order of first mention. -/
structure Loaded (rows : List TagRow) (ids : List String) (tags : List TagRow) : Prop where
  stored : ∀ g ∈ tags, g ∈ rows
  each : ∀ id, id ∈ tags.map (·.id) ↔ id ∈ ids
  ordered : (tags.map (·.id)).Pairwise fun a b => ids.idxOf a < ids.idxOf b

theorem loaded_of_loadTags (h : loadTags rows ids = .ok tags) : Loaded rows ids tags where
  stored := mem_of_loadTags h
  each id := by rw [ids_of_loadTags h, List.mem_eraseDups]
  ordered := ids_of_loadTags h ▸ pairwise_idxOf_eraseDups ids

theorem Loaded.nodup (h : Loaded rows ids tags) : (tags.map (·.id)).Nodup := by
  refine h.ordered.imp fun earlier same => ?_
  rw [same] at earlier
  exact Nat.lt_irrefl _ earlier

theorem Loaded.perm (p : rows'.Perm rows) (h : Loaded rows' ids tags) : Loaded rows ids tags where
  stored g hg := p.mem_iff.mp (h.stored g hg)
  each := h.each
  ordered := h.ordered

/-- Tags are the rows with their identifiers. -/
theorem Loaded.eq_found (distinct : (rows.map (·.id)).Nodup) (h : Loaded rows ids tags) :
    tags = (tags.map (·.id)).filterMap fun id => rows.find? (·.id = id) := by
  have found : ∀ g ∈ tags, rows.find? (·.id = g.id) = some g := fun g hg =>
    find?_of_only (h.stored g hg) (decide_eq_true rfl) fun _ hv same =>
      List.inj_on_of_nodup_map distinct hv (h.stored g hg) (of_decide_eq_true same)
  rw [List.filterMap_map]
  exact ((List.filterMap_congr found).trans List.filterMap_some).symm

/-- Of rows with distinct identifiers only one list is loaded. -/
theorem Loaded.eq (distinct : (rows.map (·.id)).Nodup) (h : Loaded rows ids tags)
    (h' : Loaded rows ids tags') : tags = tags' := by
  have perm : (tags.map (·.id)).Perm (tags'.map (·.id)) :=
    (List.perm_ext_iff_of_nodup h.nodup h'.nodup).mpr fun id => (h.each id).trans (h'.each id).symm
  have same : tags.map (·.id) = tags'.map (·.id) :=
    perm.eq_of_pairwise (fun a b _ _ before after => absurd before (Nat.lt_asymm after)) h.ordered
      h'.ordered
  rw [h.eq_found distinct, h'.eq_found distinct, same]

/-- Whoever is mentioned by what is loaded has a row. -/
theorem Loaded.known (h : Loaded rows ids tags) : ∀ id ∈ ids, id ∈ rows.map (·.id) := by
  intro id hid
  obtain ⟨g, hg, rfl⟩ := List.mem_map.mp ((h.each id).mpr hid)
  exact List.mem_map_of_mem (h.stored g hg)

/-! ## Loading -/

/-- Tags are loaded, or refused as not found; no tag is lost in between. -/
theorem loadTags_cases (distinct : (rows.map (·.id)).Nodup) (ids : List String) :
    (∃ tags, loadTags rows ids = .ok tags) ∨ loadTags rows ids = refuse .noSuchTags := by
  by_cases known : ∀ id ∈ ids, id ∈ rows.map (·.id)
  · exact .inl (loadTags_ok distinct known)
  · simp only [not_forall, exists_prop] at known
    exact .inr (loadTags_refused distinct known)

/-- What is loaded is all that can be. -/
theorem loadTags_eq_ok_iff (distinct : (rows.map (·.id)).Nodup) :
    loadTags rows ids = .ok tags ↔ Loaded rows ids tags := by
  constructor
  · exact loaded_of_loadTags
  · intro h
    obtain ⟨tags', loaded⟩ := loadTags_ok distinct h.known
    rw [loaded, (loaded_of_loadTags loaded).eq distinct h]

/-- Rows in another order give the same tags, or the same refusal. -/
theorem loadTags_perm (distinct : (rows.map (·.id)).Nodup) (p : rows'.Perm rows)
    (ids : List String) : loadTags rows' ids = loadTags rows ids := by
  have distinct' : (rows'.map (·.id)).Nodup := (p.map (·.id)).nodup_iff.mpr distinct
  rcases loadTags_cases distinct ids with ⟨tags, loaded⟩ | refused
  · rw [loaded, loadTags_eq_ok_iff distinct']
    exact (loaded_of_loadTags loaded).perm p.symm
  · rcases loadTags_cases distinct' ids with ⟨tags, loaded⟩ | refused'
    · have loaded' := (loadTags_eq_ok_iff distinct).mpr ((loaded_of_loadTags loaded).perm p)
      rw [refused] at loaded'
      exact absurd loaded' refuse_ne_ok
    · rw [refused, refused']

/-- What loading tags gives, from any table and for any identifiers, repeated or not:

1. tags are loaded if and only if each identifier has its row;
2. they are then one tag for each identifier, in the order of first mention, and no other list is;
3. otherwise the request is refused with status 404;
4. no tag that was counted is missing afterwards;
5. the order in which the rows are found plays no part. -/
theorem loadTags_outcome (distinct : (rows.map (·.id)).Nodup) (ids : List String) :
    ((∃ tags, loadTags rows ids = .ok tags) ↔ ∀ id ∈ ids, id ∈ rows.map (·.id)) ∧
    (∀ tags, loadTags rows ids = .ok tags ↔ Loaded rows ids tags) ∧
    ((∃ id ∈ ids, id ∉ rows.map (·.id)) → loadTags rows ids = refuse .noSuchTags ∧
      Refusal.status .noSuchTags = 404 ∧ Refusal.detail .noSuchTags = "Some tags not found") ∧
    (∀ id, loadTags rows ids ≠ .error (.escaped (.lostTag id))) ∧
    ∀ rows', rows'.Perm rows → loadTags rows' ids = loadTags rows ids := by
  refine ⟨⟨fun ⟨tags, loaded⟩ => (loaded_of_loadTags loaded).known, loadTags_ok distinct⟩,
    fun tags => loadTags_eq_ok_iff distinct,
    fun unknown => ⟨loadTags_refused distinct unknown, rfl, rfl⟩, fun id lost => ?_,
    fun rows' p => loadTags_perm distinct p ids⟩
  rcases loadTags_cases distinct ids with ⟨tags, loaded⟩ | refused
  · rw [loaded] at lost
    cases lost
  · rw [refused] at lost
    cases lost

/-- Two tags. -/
def colours : List TagRow :=
  [⟨"tag-1", "red", none, "user-1", ⟨0⟩, ⟨0⟩⟩, ⟨"tag-2", "blue", none, "user-1", ⟨0⟩, ⟨0⟩⟩]

/-- Three mentions of both tags, the second tag first, give both, the second first; and so they do if
the rows are turned around. With one more tag that is not there, nothing is loaded. -/
theorem loadTags_colours :
    (colours.map (·.id)).Nodup ∧
    Loaded colours ["tag-2", "tag-1", "tag-2"] colours.reverse ∧
    loadTags colours.reverse ["tag-2", "tag-1", "tag-2"] = .ok colours.reverse ∧
    loadTags colours ["tag-2", "tag-1", "tag-3"] = refuse .noSuchTags := by
  have distinct : (colours.map (·.id)).Nodup := by decide
  obtain ⟨-, result, -, -, order⟩ := loadTags_outcome distinct ["tag-2", "tag-1", "tag-2"]
  obtain ⟨-, -, missing, -, -⟩ := loadTags_outcome distinct ["tag-2", "tag-1", "tag-3"]
  have loaded : loadTags colours ["tag-2", "tag-1", "tag-2"] = .ok colours.reverse := rfl
  exact ⟨distinct, (result _).mp loaded, (order _ (List.reverse_perm _)).trans loaded,
    (missing ⟨"tag-3", by decide, by decide⟩).1⟩

end Posts

end Weblog
