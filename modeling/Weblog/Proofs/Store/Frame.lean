/-
  Frames: what a change of a user's own rows leaves as it is.

  `Frame u t t'` says that nothing but the rows of `u` differs between two tables, with one
  exception. A tag of `u` that is lost takes all its links with it, those of other users' posts
  included. There is one lemma for each kind of change.
-/
import Weblog.Proofs.Store.Indexed

namespace Weblog

namespace Tables

/-- Whether a tag was there and is there no more. -/
def lost (t t' : Tables) (tagId : String) : Bool :=
  (t.tag? tagId).isSome && (t'.tag? tagId).isNone

/-- All but the rows of a user is as it was: rows of others in every column, the documents of
others' posts, and their links but for those to tags that were lost. A lost tag was the user's. -/
structure Frame (u : UserRow) (t t' : Tables) : Prop where
  users : t'.users.filter (·.id ≠ u.id) = t.users.filter (·.id ≠ u.id)
  posts : t'.posts.filter (·.userId ≠ u.id) = t.posts.filter (·.userId ≠ u.id)
  comments : t'.comments.filter (·.userId ≠ u.id) = t.comments.filter (·.userId ≠ u.id)
  tags : t'.tags.filter (·.userId ≠ u.id) = t.tags.filter (·.userId ≠ u.id)
  documents : ∀ p ∈ t.posts, p.userId ≠ u.id →
    t'.documents.filter (·.recordId = p.id) = t.documents.filter (·.recordId = p.id)
  links : ∀ p ∈ t.posts, p.userId ≠ u.id →
    t'.links.filter (·.postId = p.id) =
      (t.links.filter (·.postId = p.id)).filter fun l => !lost t t' l.tagId
  lost_tags : ∀ g ∈ t.tags, lost t t' g.id = true →
    g.userId = u.id ∧ ∀ l ∈ t'.links, l.tagId ≠ g.id

variable {t t' : Tables} {u : UserRow}

/-! ## Rows of others -/

section Rows

variable {α : Type} {l : List α} {q : α → Bool} {c : α → Prop} [DecidablePred c] {a : α}

theorem filter_concat (ha : q a = false) : (l ++ [a]).filter q = l.filter q := by
  rw [List.filter_append, List.filter_cons_of_neg (by simp [ha]), List.filter_nil, List.append_nil]

theorem filter_put (ha : q a = false) (own : ∀ v ∈ l, c v → q v = false) :
    (l.map fun v => if c v then a else v).filter q = l.filter q := by
  induction l with
  | nil => rfl
  | cons v l ih =>
    have rest := ih fun w hw => own w (List.mem_cons_of_mem v hw)
    rw [List.map_cons]
    by_cases hv : c v
    · rw [if_pos hv, List.filter_cons_of_neg (by simp [ha]), rest,
        List.filter_cons_of_neg (by simp [own v List.mem_cons_self hv])]
    · rw [if_neg hv, List.filter_cons, List.filter_cons, rest]

theorem filter_drop {p : α → Bool} (own : ∀ v ∈ l, p v = false → q v = false) :
    (l.filter p).filter q = l.filter q := by
  rw [List.filter_filter]
  refine List.filter_congr fun v hv => ?_
  cases hp : p v with
  | false => simp [own v hv hp]
  | true => simp

end Rows

/-! ## Tags that stay -/

theorem tag?_isSome {id : String} : (t.tag? id).isSome = true ↔ ∃ g ∈ t.tags, g.id = id := by
  simp [tag?]

/-- No tag is lost if all identifiers stay. -/
theorem lost_eq_false (kept : ∀ g ∈ t.tags, ∃ h ∈ t'.tags, h.id = g.id) (id : String) :
    lost t t' id = false := by
  unfold lost
  cases hid : (t.tag? id).isSome with
  | false => rfl
  | true =>
    obtain ⟨g, hg, rfl⟩ := tag?_isSome.mp hid
    have hkept := tag?_isSome.mpr (kept g hg)
    simpa using hkept

/-- Where all tags stay, links are compared as they are. -/
theorem Frame.of_kept (kept : ∀ g ∈ t.tags, ∃ h ∈ t'.tags, h.id = g.id)
    (users : t'.users.filter (·.id ≠ u.id) = t.users.filter (·.id ≠ u.id))
    (posts : t'.posts.filter (·.userId ≠ u.id) = t.posts.filter (·.userId ≠ u.id))
    (comments : t'.comments.filter (·.userId ≠ u.id) = t.comments.filter (·.userId ≠ u.id))
    (tags : t'.tags.filter (·.userId ≠ u.id) = t.tags.filter (·.userId ≠ u.id))
    (documents : ∀ p ∈ t.posts, p.userId ≠ u.id →
      t'.documents.filter (·.recordId = p.id) = t.documents.filter (·.recordId = p.id))
    (links : ∀ p ∈ t.posts, p.userId ≠ u.id →
      t'.links.filter (·.postId = p.id) = t.links.filter (·.postId = p.id)) : Frame u t t' where
  users := users
  posts := posts
  comments := comments
  tags := tags
  documents := documents
  links p hp hu := by
    rw [links p hp hu]
    exact (List.filter_eq_self.mpr fun l _ => by rw [lost_eq_false kept]; rfl).symm
  lost_tags g _ hlost := by
    rw [lost_eq_false kept] at hlost
    cases hlost

theorem tags_stay : ∀ g ∈ t.tags, ∃ h ∈ t.tags, h.id = g.id := fun g hg => ⟨g, hg, rfl⟩

theorem Frame.refl (u : UserRow) (t : Tables) : Frame u t t :=
  .of_kept tags_stay rfl rfl rfl rfl (fun _ _ _ => rfl) fun _ _ _ => rfl

/-! ## Users -/

theorem frame_setUser {v : UserRow} (hv : v.id = u.id) : Frame u t (t.setUser u.id v) :=
  .of_kept tags_stay (filter_put (by simp [hv]) fun w _ hw => by simp [hw]) rfl rfl rfl
    (fun _ _ _ => rfl) fun _ _ _ => rfl

/-! ## Posts -/

/-- Other posts have other identifiers than a post of the user. -/
theorem id_ne_of_other (nodup : (t.posts.map (·.id)).Nodup) {p q : PostRow} (hp : p ∈ t.posts)
    (own : p.userId = u.id) (hq : q ∈ t.posts) (other : q.userId ≠ u.id) : q.id ≠ p.id :=
  fun hid => other (List.inj_on_of_nodup_map nodup hq hp hid ▸ own)

theorem filter_documents_unindex {id id' : String} (hne : id' ≠ id) :
    (t.unindex Kind.post.table id).documents.filter (·.recordId = id') =
      t.documents.filter (·.recordId = id') := by
  refine filter_drop fun d _ hd => ?_
  simp only [Bool.not_eq_false', Bool.and_eq_true, decide_eq_true_eq] at hd
  simp [hd.2, hne.symm]

theorem filter_documents_index {p : PostRow} {id : String} (hne : id ≠ p.id) :
    (t.index p.document).documents.filter (·.recordId = id) =
      t.documents.filter (·.recordId = id) := by
  have hother : decide (p.document.recordId = id) = false := decide_eq_false hne.symm
  exact (filter_concat (q := fun d : DocumentRow => d.recordId = id) hother).trans
    (filter_documents_unindex hne)

theorem filter_links_setTags {postId id : String} {tagIds : List String} (hne : id ≠ postId) :
    (t.setTags postId tagIds).links.filter (·.postId = id) = t.links.filter (·.postId = id) := by
  unfold setTags
  simp only
  rw [List.filter_append]
  have hkept : ∀ l ∈ t.links, (decide (l.postId ≠ postId) || tagIds.contains l.tagId) = false →
      decide (l.postId = id) = false := by
    intro l _ hl
    simp only [Bool.or_eq_false_iff, decide_eq_false_iff_not, not_not] at hl
    exact decide_eq_false (hl.1 ▸ hne.symm)
  have hadded : ∀ gs : List String,
      (gs.map fun g => (⟨postId, g⟩ : Link)).filter (·.postId = id) = [] := by
    intro gs
    refine List.filter_eq_nil_iff.mpr fun l hl => ?_
    obtain ⟨g, -, rfl⟩ := List.mem_map.mp hl
    simpa using hne.symm
  rw [filter_drop hkept, hadded, List.append_nil]

theorem frame_addPost {p : PostRow} (own : p.userId = u.id) (hfree : t.post? p.id = none)
    (tagIds : List String) : Frame u t ((t.addPost p).setTags p.id tagIds) := by
  have hne : ∀ q ∈ t.posts, q.id ≠ p.id := post?_eq_none.mp hfree
  exact .of_kept tags_stay rfl (filter_concat (by simp [own])) rfl rfl
    (fun q hq _ => filter_documents_index (t := t.addPostRow p) (hne q hq))
    fun q hq _ => filter_links_setTags (t := t.addPost p) (hne q hq)

theorem frame_rewritePost (nodup : (t.posts.map (·.id)).Nodup) {p q : PostRow} (hq : q ∈ t.posts)
    (own : q.userId = u.id) (hid : q.id = p.id) (hown : p.userId = u.id)
    (tagIds : Option (List String)) : Frame u t (t.rewritePost p tagIds) := by
  have hposts : (t.setPostRow p.id p).posts.filter (·.userId ≠ u.id) =
      t.posts.filter (·.userId ≠ u.id) := by
    refine filter_put (by simp [hown]) fun v hv hvid => ?_
    rw [List.inj_on_of_nodup_map nodup hv hq (hvid.trans hid.symm)]
    simp [own]
  have hne : ∀ v ∈ t.posts, v.userId ≠ u.id → v.id ≠ p.id := fun v hv other =>
    hid ▸ id_ne_of_other nodup hq own hv other
  cases tagIds with
  | none =>
    exact .of_kept tags_stay rfl hposts rfl rfl
      (fun v hv other => filter_documents_index (t := t.setPostRow p.id p) (hne v hv other))
      fun _ _ _ => rfl
  | some ids =>
    exact .of_kept tags_stay rfl hposts rfl rfl
      (fun v hv other => filter_documents_index (t := t.setPostRow p.id p) (hne v hv other))
      fun v hv other =>
        filter_links_setTags (t := (t.setPostRow p.id p).index p.document) (hne v hv other)

theorem frame_removePost (nodup : (t.posts.map (·.id)).Nodup) {p : PostRow} (hp : p ∈ t.posts)
    (own : p.userId = u.id) : Frame u t (t.removePost p.id) := by
  have hne : ∀ v ∈ t.posts, v.userId ≠ u.id → v.id ≠ p.id := fun v hv other =>
    id_ne_of_other nodup hp own hv other
  refine .of_kept tags_stay rfl (filter_drop fun v hv hvid => ?_) rfl rfl
    (fun v hv other => filter_documents_unindex (hne v hv other))
    fun v hv other => filter_drop fun l _ hl => ?_
  · simp only [decide_eq_false_iff_not, not_not] at hvid
    rw [List.inj_on_of_nodup_map nodup hv hp hvid]
    simp [own]
  · simp only [decide_eq_false_iff_not, not_not] at hl
    simpa [hl] using (hne v hv other).symm

/-! ## Comments -/

theorem frame_addComment {c : CommentRow} (own : c.userId = u.id) :
    Frame u t (t.addComment c) :=
  .of_kept tags_stay rfl rfl (filter_concat (by simp [own])) rfl (fun _ _ _ => rfl)
    fun _ _ _ => rfl

theorem frame_setComment (nodup : (t.comments.map (·.id)).Nodup) {c c' : CommentRow}
    (hc : c ∈ t.comments) (own : c.userId = u.id) (hown : c'.userId = u.id) :
    Frame u t (t.setComment c.id c') := by
  refine .of_kept tags_stay rfl rfl (filter_put (by simp [hown]) fun v hv hvid => ?_) rfl
    (fun _ _ _ => rfl) fun _ _ _ => rfl
  rw [List.inj_on_of_nodup_map nodup hv hc hvid]
  simp [own]

theorem frame_removeComment (nodup : (t.comments.map (·.id)).Nodup) {c : CommentRow}
    (hc : c ∈ t.comments) (own : c.userId = u.id) : Frame u t (t.removeComment c.id) := by
  refine .of_kept tags_stay rfl rfl (filter_drop fun v hv hvid => ?_) rfl
    (fun _ _ _ => rfl) fun _ _ _ => rfl
  simp only [decide_eq_false_iff_not, not_not] at hvid
  rw [List.inj_on_of_nodup_map nodup hv hc hvid]
  simp [own]

/-! ## Tags -/

theorem frame_addTag {g : TagRow} (own : g.userId = u.id) : Frame u t (t.addTag g) :=
  .of_kept (fun h hh => ⟨h, List.mem_append_left _ hh, rfl⟩) rfl rfl rfl
    (filter_concat (by simp [own])) (fun _ _ _ => rfl) fun _ _ _ => rfl

theorem frame_setTag (nodup : (t.tags.map (·.id)).Nodup) {g g' : TagRow} (hg : g ∈ t.tags)
    (own : g.userId = u.id) (hown : g'.userId = u.id) (hid : g'.id = g.id) :
    Frame u t (t.setTag g.id g') := by
  have kept : ∀ h ∈ t.tags, ∃ h' ∈ (t.setTag g.id g').tags, h'.id = h.id := by
    intro h hh
    refine ⟨_, List.mem_map_of_mem hh, ?_⟩
    split
    · rename_i heq
      rw [hid, heq]
    · rfl
  refine .of_kept kept rfl rfl rfl (filter_put (by simp [hown]) fun v hv hvid => ?_)
    (fun _ _ _ => rfl) fun _ _ _ => rfl
  rw [List.inj_on_of_nodup_map nodup hv hg hvid]
  simp [own]

/-- The tag that is taken out is lost, and no other. -/
theorem lost_removeTag {g : TagRow} (hg : g ∈ t.tags) (id : String) :
    lost t (t.removeTag g.id) id = decide (id = g.id) := by
  have mem : ∀ h, h ∈ (t.removeTag g.id).tags ↔ h ∈ t.tags ∧ h.id ≠ g.id := by
    simp [removeTag, removeTagRow, unlinkTag]
  by_cases hid : id = g.id
  · have before : (t.tag? id).isSome = true := tag?_isSome.mpr ⟨g, hg, hid.symm⟩
    have after : (t.removeTag g.id).tag? id = none :=
      List.find?_eq_none.mpr fun h hh => by simpa [hid] using ((mem h).mp hh).2
    rw [lost, before, after, decide_eq_true hid]
    rfl
  · have stays : (t.tag? id).isSome = true → ((t.removeTag g.id).tag? id).isSome = true := by
      intro before
      obtain ⟨h, hh, rfl⟩ := tag?_isSome.mp before
      exact tag?_isSome.mpr ⟨h, (mem h).mpr ⟨hh, hid⟩, rfl⟩
    rw [lost, decide_eq_false hid, Bool.and_eq_false_imp]
    intro before
    simpa using stays before

theorem frame_removeTag (nodup : (t.tags.map (·.id)).Nodup) {g : TagRow} (hg : g ∈ t.tags)
    (own : g.userId = u.id) : Frame u t (t.removeTag g.id) where
  users := rfl
  posts := rfl
  comments := rfl
  tags := by
    refine filter_drop fun v hv hvid => ?_
    simp only [decide_eq_false_iff_not, not_not] at hvid
    rw [List.inj_on_of_nodup_map nodup hv hg hvid]
    simp [own]
  documents _ _ _ := rfl
  links p _ _ := by
    rw [List.filter_filter]
    refine (List.filter_filter ..).trans (List.filter_congr fun l _ => ?_)
    rw [lost_removeTag hg, Bool.and_comm]
    simp
  lost_tags h hh hlost := by
    rw [lost_removeTag hg, decide_eq_true_eq] at hlost
    rw [List.inj_on_of_nodup_map nodup hh hg hlost]
    refine ⟨own, fun l hl => ?_⟩
    simpa using (List.mem_filter.mp hl).2

end Tables

end Weblog
