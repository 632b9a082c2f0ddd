/-
  A post that is written anew with its document and its tags: what its links then are, and that
  writing the same once more leaves the tables alone.

  Nothing is asked of the tables here. A row is put in the place of all rows with its key, so that it
  is found under whatever one of them was found by.
-/
import Weblog.Proofs.Store.References
import Weblog.Proofs.Store.Indexed

namespace Weblog

section Rows

variable {α : Type} {rows : List α} (key : α → String) {k : String} {a b : α}

/-- A row that took the place of those with its key takes no other place. -/
theorem map_put_again (ha : key a = k) :
    (rows.map fun v => if key v = k then a else v).map (fun v => if key v = k then a else v) =
      rows.map fun v => if key v = k then a else v := by
  rw [List.map_map]
  refine List.map_congr_left fun v _ => ?_
  by_cases hv : key v = k
  · rw [Function.comp_apply, if_pos hv, if_pos ha]
  · rw [Function.comp_apply, if_neg hv, if_neg hv]

/-- A row is found by what the row was found by whose place it took. -/
theorem find?_put {p : α → Bool} (found : rows.find? p = some b) (hb : key b = k) (ha : p a = true) :
    (rows.map fun v => if key v = k then a else v).find? p = some a := by
  induction rows with
  | nil => cases found
  | cons v rows ih =>
    rw [List.map_cons, List.find?_cons]
    by_cases hv : key v = k
    · rw [if_pos hv, ha]
    · rw [if_neg hv]
      rw [List.find?_cons] at found
      cases hp : p v with
      | true =>
        rw [hp] at found
        exact absurd (Option.some.inj found ▸ hb) hv
      | false =>
        rw [hp] at found
        exact ih found

end Rows

namespace Tables

variable {t : Tables} {p : PostRow} {d : DocumentRow} {l : Link} {id : String}
  {ids : List String}

/-! ## Links -/

/-- A post that was given tags has links to these; the links of other posts stay. -/
theorem mem_links_setTags :
    l ∈ (t.setTags id ids).links ↔ if l.postId = id then l.tagId ∈ ids else l ∈ t.links := by
  obtain ⟨postId, tagId⟩ := l
  have added : (⟨postId, tagId⟩ : Link) ∈
      ((ids.filter fun g => !t.carries id g).eraseDups.map fun g => (⟨id, g⟩ : Link)) ↔
        postId = id ∧ tagId ∈ ids ∧ ⟨id, tagId⟩ ∉ t.links := by
    simp only [List.mem_map, List.mem_eraseDups, List.mem_filter, carries, Link.mk.injEq]
    constructor
    · rintro ⟨g, ⟨hg, absent⟩, rfl, rfl⟩
      exact ⟨rfl, hg, by simpa using absent⟩
    · rintro ⟨rfl, hg, absent⟩
      exact ⟨tagId, ⟨hg, by simpa using absent⟩, rfl, rfl⟩
  simp only [setTags, List.mem_append, List.mem_filter, added, Bool.or_eq_true, decide_eq_true_eq,
    List.contains_iff_mem]
  by_cases own : postId = id
  · subst own
    by_cases there : (⟨postId, tagId⟩ : Link) ∈ t.links
    · simp [there]
    · simp [there]
  · simp [own]

/-- A post that has links to the given tags and to no others is left alone. -/
theorem setTags_eq_self (linked : ∀ g, (⟨id, g⟩ : Link) ∈ t.links ↔ g ∈ ids) :
    t.setTags id ids = t := by
  have kept : t.links.filter (fun l => l.postId ≠ id || ids.contains l.tagId) = t.links := by
    refine List.filter_eq_self.mpr fun l hl => ?_
    by_cases own : l.postId = id
    · subst own
      simp [(linked l.tagId).mp hl]
    · simp [own]
  have none : (ids.filter fun g => !t.carries id g) = [] :=
    List.filter_eq_nil_iff.mpr fun g hg => by simp [carries, (linked g).mpr hg]
  rw [setTags, kept, none]
  simp only [List.eraseDups_nil, List.map_nil, List.append_nil]

/-- Tags that a post was given are given it again without a change. -/
theorem setTags_again : (t.setTags id ids).setTags id ids = t.setTags id ids :=
  setTags_eq_self fun g => by rw [mem_links_setTags, if_pos rfl]

theorem otherLinks_setTags : (t.setTags id ids).links.filter (·.postId ≠ id) =
    t.links.filter (·.postId ≠ id) := by
  have kept : ∀ l : Link, (decide (l.postId ≠ id) && (decide (l.postId ≠ id) ||
      ids.contains l.tagId)) = decide (l.postId ≠ id) := fun l => by
    by_cases h : l.postId = id
    · simp [h]
    · simp [h]
  have added : ∀ gs : List String,
      (gs.map fun g => (⟨id, g⟩ : Link)).filter (·.postId ≠ id) = [] := by
    intro gs
    refine List.filter_eq_nil_iff.mpr fun l hl => ?_
    obtain ⟨g, -, rfl⟩ := List.mem_map.mp hl
    simp
  simp only [setTags, List.filter_append, List.filter_filter, kept, added, List.append_nil]

/-- The order and the repetitions of the given tags play no part in which links there are. -/
theorem links_setTags_perm {ids' : List String} (same : ∀ g, g ∈ ids ↔ g ∈ ids') :
    (t.setTags id ids).links.Perm (t.setTags id ids').links := by
  have listed : ∀ g, ids.contains g = ids'.contains g := fun g => by
    rw [Bool.eq_iff_iff, List.contains_iff_mem, List.contains_iff_mem, same]
  have added : (ids.filter fun g => !t.carries id g).eraseDups.Perm
      (ids'.filter fun g => !t.carries id g).eraseDups := by
    refine (List.perm_ext_iff_of_nodup (nodup_eraseDups _) (nodup_eraseDups _)).mpr fun g => ?_
    simp only [List.mem_eraseDups, List.mem_filter, same]
  simp only [setTags, listed]
  exact List.Perm.append (List.Perm.refl _) (added.map _)

/-! ## Documents -/

theorem otherDocuments_index : (t.index d).documents.filter (·.recordId ≠ d.recordId) =
    t.documents.filter (·.recordId ≠ d.recordId) := by
  have kept : ∀ e : DocumentRow, (decide (e.recordId ≠ d.recordId) &&
      !(decide (e.recordType = d.recordType) && decide (e.recordId = d.recordId))) =
        decide (e.recordId ≠ d.recordId) := fun e => by
    by_cases h : e.recordId = d.recordId
    · simp [h]
    · simp [h]
  have last : ([d] : List DocumentRow).filter (·.recordId ≠ d.recordId) = [] := by simp
  simp only [index, unindex, List.filter_append, List.filter_filter, kept, last, List.append_nil]

/-- A document that was written last is written again without a change. -/
theorem index_again : (t.index d).index d = t.index d := by
  have out : ([d] : List DocumentRow).filter (fun e =>
      !(e.recordType = d.recordType && e.recordId = d.recordId)) = [] := by
    simp
  simp only [index, unindex, List.filter_append, List.filter_filter, Bool.and_self, out,
    List.append_nil]

/-! ## Rows -/

theorem setUser_again {u : UserRow} (hid : u.id = id) :
    (t.setUser id u).setUser u.id u = t.setUser id u := by
  simp only [setUser, hid, map_put_again UserRow.id hid]

theorem setPostRow_again (hid : p.id = id) :
    (t.setPostRow id p).setPostRow p.id p = t.setPostRow id p := by
  simp only [setPostRow, hid, map_put_again PostRow.id hid]

theorem setComment_again {c : CommentRow} (hid : c.id = id) :
    (t.setComment id c).setComment c.id c = t.setComment id c := by
  simp only [setComment, hid, map_put_again CommentRow.id hid]

theorem setTag_again {g : TagRow} (hid : g.id = id) :
    (t.setTag id g).setTag g.id g = t.setTag id g := by
  simp only [setTag, hid, map_put_again TagRow.id hid]

/-- A post that was written with its document and its tags is written again without a change. -/
theorem rewritePost_again (p : PostRow) (ids : Option (List String)) :
    (t.rewritePost p ids).rewritePost p ids = t.rewritePost p ids := by
  have written : ∀ t : Tables, (((t.setPostRow p.id p).index p.document).setPostRow p.id p).index
      p.document = (t.setPostRow p.id p).index p.document := by
    intro t
    have apart : ((t.setPostRow p.id p).index p.document).setPostRow p.id p =
        ((t.setPostRow p.id p).setPostRow p.id p).index p.document := rfl
    rw [apart, setPostRow_again rfl]
    exact index_again
  cases ids with
  | none => exact written t
  | some ids =>
    -- The links have no part in the row and the document, which are written first both times.
    have apart : (((((t.setPostRow p.id p).index p.document).setTags p.id ids).setPostRow p.id
        p).index p.document).setTags p.id ids = (((((t.setPostRow p.id p).index
        p.document).setPostRow p.id p).index p.document).setTags p.id ids).setTags p.id ids := rfl
    exact apart.trans ((congrArg (fun t : Tables => (t.setTags p.id ids).setTags p.id ids)
      (written t)).trans setTags_again)

end Tables

end Weblog
