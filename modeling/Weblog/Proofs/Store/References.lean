/-
  References between the tables: whoever is named as an author is in the table of users, and a link
  joins a post and a tag that are there, once.

  A comment may outlive its post, so that its post is no reference. There is one lemma for each
  kind of change. A post or a tag is taken out after its links are: without its links gone first,
  the row could not go either (`Referenced.removePostRow`).

  So the posts beside one tag are those that carry it (`besideTag_perm`). Without the distinctness
  of the links a post would be listed once for each of them.
-/
import Mathlib.Data.List.Nodup
import Weblog.Proofs.Service.Effect

namespace Weblog.Tables

variable {t : Tables} {id : String}

/-- Every reference names a row that is there, and no link is there twice. -/
structure Referenced (t : Tables) : Prop where
  posts : ∀ p ∈ t.posts, p.userId ∈ t.users.map (·.id)
  comments : ∀ c ∈ t.comments, c.userId ∈ t.users.map (·.id)
  tags : ∀ g ∈ t.tags, g.userId ∈ t.users.map (·.id)
  links : ∀ l ∈ t.links, l.postId ∈ t.posts.map (·.id) ∧ l.tagId ∈ t.tags.map (·.id)
  distinct : t.links.Nodup

theorem referenced_empty : empty.Referenced :=
  ⟨fun _ h => (by cases h), fun _ h => (by cases h), fun _ h => (by cases h),
    fun _ h => (by cases h), List.nodup_nil⟩

/-! ## Finding by identifier -/

theorem user?_isSome : (t.user? id).isSome = true ↔ id ∈ t.users.map (·.id) := by
  simp [user?]

theorem post?_isSome : (t.post? id).isSome = true ↔ id ∈ t.posts.map (·.id) := by
  simp [post?]

theorem tag?_isSome_iff : (t.tag? id).isSome = true ↔ id ∈ t.tags.map (·.id) := by
  simp [tag?]

theorem tag?_eq_none : t.tag? id = none ↔ ∀ g ∈ t.tags, g.id ≠ id := by
  simp [tag?]

/-! ## Keys of changed rows -/

section Keys

variable {α : Type} {key : α → String} {rows : List α} {a : α} {k : String}

/-- A row replaced under its key leaves the keys as they are. -/
theorem map_key_put (ha : key a = k) :
    (rows.map fun v => if key v = k then a else v).map key = rows.map key := by
  rw [List.map_map]
  refine List.map_congr_left fun v _ => ?_
  rw [Function.comp_apply]
  split
  · rename_i hv
    rw [ha, hv]
  · rfl

theorem mem_keys_concat (h : k ∈ rows.map key) : k ∈ (rows ++ [a]).map key := by
  rw [List.map_append]
  exact List.mem_append_left _ h

theorem mem_keys_filter {k' : String} (h : k ∈ rows.map key) (hne : k ≠ k') :
    k ∈ (rows.filter fun v => key v ≠ k').map key := by
  obtain ⟨v, hv, rfl⟩ := List.mem_map.mp h
  exact List.mem_map_of_mem (List.mem_filter.mpr ⟨hv, decide_eq_true hne⟩)

end Keys

/-- Erasing repetitions leaves each value once: a value that stands in front is gone behind. -/
theorem nodup_eraseDups {α : Type} [BEq α] [LawfulBEq α] (l : List α) : l.eraseDups.Nodup := by
  induction hn : l.length using Nat.strongRecOn generalizing l with
  | ind n ih =>
    cases l with
    | nil => exact List.nodup_nil
    | cons a as =>
      rw [List.eraseDups_cons, List.nodup_cons]
      have shorter : (as.filter fun b => !b == a).length < n := by
        have := List.length_filter_le (fun b => !b == a) as
        rw [List.length_cons] at hn
        omega
      refine ⟨fun ha => ?_, ih _ shorter _ rfl⟩
      have gone := (List.mem_filter.mp (List.mem_eraseDups.mp ha)).2
      simp at gone

namespace Referenced

/-! ## Users -/

theorem addUser (h : t.Referenced) (u : UserRow) : (t.addUser u).Referenced where
  posts p hp := mem_keys_concat (h.posts p hp)
  comments c hc := mem_keys_concat (h.comments c hc)
  tags g hg := mem_keys_concat (h.tags g hg)
  links := h.links
  distinct := h.distinct

theorem setUser (h : t.Referenced) {u : UserRow} (hid : u.id = id) :
    (t.setUser id u).Referenced := by
  have keys : (t.setUser id u).users.map (·.id) = t.users.map (·.id) := map_key_put hid
  refine ⟨fun p hp => ?_, fun c hc => ?_, fun g hg => ?_, h.links, h.distinct⟩
  · rw [keys]
    exact h.posts p hp
  · rw [keys]
    exact h.comments c hc
  · rw [keys]
    exact h.tags g hg

/-! ## Links -/

/-- The links of a post are set to tags that are there. -/
theorem setTags (h : t.Referenced) {tagIds : List String} (post : id ∈ t.posts.map (·.id))
    (known : ∀ g ∈ tagIds, g ∈ t.tags.map (·.id)) : (t.setTags id tagIds).Referenced := by
  refine ⟨h.posts, h.comments, h.tags, fun l hl => ?_, ?_⟩
  · rcases List.mem_append.mp hl with hl | hl
    · exact h.links l (List.mem_of_mem_filter hl)
    · obtain ⟨g, hg, rfl⟩ := List.mem_map.mp hl
      exact ⟨post, known g (List.mem_of_mem_filter (List.mem_eraseDups.mp hg))⟩
  · have kept := h.distinct.filter fun l => l.postId ≠ id || tagIds.contains l.tagId
    have added : (((tagIds.filter fun g => !t.carries id g).eraseDups).map fun g =>
        (⟨id, g⟩ : Link)).Nodup :=
      (nodup_eraseDups _).map fun g g' hg => congrArg Link.tagId hg
    -- What is added was not there: only tags that the post does not carry yet are linked.
    refine kept.append added fun l hl hl' => ?_
    obtain ⟨g, hg, rfl⟩ := List.mem_map.mp hl'
    have fresh := (List.mem_filter.mp (List.mem_eraseDups.mp hg)).2
    have there : t.carries id g = true := List.contains_iff_mem.mpr (List.mem_of_mem_filter hl)
    rw [there] at fresh
    cases fresh

theorem unlinkPost (h : t.Referenced) (id : String) : (t.unlinkPost id).Referenced where
  posts := h.posts
  comments := h.comments
  tags := h.tags
  links l hl := h.links l (List.mem_of_mem_filter hl)
  distinct := h.distinct.filter _

theorem unlinkTag (h : t.Referenced) (id : String) : (t.unlinkTag id).Referenced where
  posts := h.posts
  comments := h.comments
  tags := h.tags
  links l hl := h.links l (List.mem_of_mem_filter hl)
  distinct := h.distinct.filter _

/-! ## Posts -/

theorem addPost (h : t.Referenced) {p : PostRow} (author : p.userId ∈ t.users.map (·.id)) :
    (t.addPost p).Referenced where
  posts q hq := by
    rcases List.mem_append.mp hq with hq | hq
    · exact h.posts q hq
    · rw [List.mem_singleton.mp hq]
      exact author
  comments := h.comments
  tags := h.tags
  links l hl := ⟨mem_keys_concat (h.links l hl).1, (h.links l hl).2⟩
  distinct := h.distinct

theorem setPostRow (h : t.Referenced) {p : PostRow} (hid : p.id = id)
    (author : p.userId ∈ t.users.map (·.id)) : (t.setPostRow id p).Referenced := by
  have keys : (t.setPostRow id p).posts.map (·.id) = t.posts.map (·.id) := map_key_put hid
  refine ⟨fun q hq => ?_, h.comments, h.tags, fun l hl => ?_, h.distinct⟩
  · obtain ⟨v, hv, rfl⟩ := List.mem_map.mp hq
    split
    · exact author
    · exact h.posts v hv
  · rw [keys]
    exact h.links l hl

theorem index (h : t.Referenced) (d : DocumentRow) : (t.index d).Referenced :=
  ⟨h.posts, h.comments, h.tags, h.links, h.distinct⟩

theorem rewritePost (h : t.Referenced) {p : PostRow} (there : p.id ∈ t.posts.map (·.id))
    (author : p.userId ∈ t.users.map (·.id)) {tagIds : Option (List String)}
    (known : ∀ ids, tagIds = some ids → ∀ g ∈ ids, g ∈ t.tags.map (·.id)) :
    (t.rewritePost p tagIds).Referenced := by
  have written : ((t.setPostRow p.id p).index p.document).Referenced :=
    (h.setPostRow rfl author).index p.document
  cases tagIds with
  | none => exact written
  | some ids =>
    have keys : (t.setPostRow p.id p).posts.map (·.id) = t.posts.map (·.id) := map_key_put rfl
    have post : p.id ∈ ((t.setPostRow p.id p).index p.document).posts.map (·.id) := by
      rw [← keys] at there
      exact there
    exact written.setTags post (known ids rfl)

/-- A post can go that no link names. -/
theorem removePostRow (h : t.Referenced) (unlinked : ∀ l ∈ t.links, l.postId ≠ id) :
    (t.removePostRow id).Referenced where
  posts p hp := h.posts p (List.mem_of_mem_filter hp)
  comments := h.comments
  tags := h.tags
  links l hl := ⟨mem_keys_filter (h.links l hl).1 (unlinked l hl), (h.links l hl).2⟩
  distinct := h.distinct

theorem removePost (h : t.Referenced) (id : String) : (t.removePost id).Referenced :=
  (h.unlinkPost id).removePostRow fun _ hl => of_decide_eq_true (List.mem_filter.mp hl).2

/-! ## Comments -/

theorem addComment (h : t.Referenced) {c : CommentRow}
    (author : c.userId ∈ t.users.map (·.id)) : (t.addComment c).Referenced where
  posts := h.posts
  comments d hd := by
    rcases List.mem_append.mp hd with hd | hd
    · exact h.comments d hd
    · rw [List.mem_singleton.mp hd]
      exact author
  tags := h.tags
  links := h.links
  distinct := h.distinct

theorem setComment (h : t.Referenced) {c : CommentRow}
    (author : c.userId ∈ t.users.map (·.id)) : (t.setComment id c).Referenced where
  posts := h.posts
  comments d hd := by
    obtain ⟨v, hv, rfl⟩ := List.mem_map.mp hd
    split
    · exact author
    · exact h.comments v hv
  tags := h.tags
  links := h.links
  distinct := h.distinct

theorem removeComment (h : t.Referenced) (id : String) : (t.removeComment id).Referenced where
  posts := h.posts
  comments c hc := h.comments c (List.mem_of_mem_filter hc)
  tags := h.tags
  links := h.links
  distinct := h.distinct

/-! ## Tags -/

theorem addTag (h : t.Referenced) {g : TagRow} (owner : g.userId ∈ t.users.map (·.id)) :
    (t.addTag g).Referenced where
  posts := h.posts
  comments := h.comments
  tags g' hg := by
    rcases List.mem_append.mp hg with hg | hg
    · exact h.tags g' hg
    · rw [List.mem_singleton.mp hg]
      exact owner
  links l hl := ⟨(h.links l hl).1, mem_keys_concat (h.links l hl).2⟩
  distinct := h.distinct

theorem setTag (h : t.Referenced) {g : TagRow} (hid : g.id = id)
    (owner : g.userId ∈ t.users.map (·.id)) : (t.setTag id g).Referenced := by
  have keys : (t.setTag id g).tags.map (·.id) = t.tags.map (·.id) := map_key_put hid
  refine ⟨h.posts, h.comments, fun g' hg => ?_, fun l hl => ?_, h.distinct⟩
  · obtain ⟨v, hv, rfl⟩ := List.mem_map.mp hg
    split
    · exact owner
    · exact h.tags v hv
  · rw [keys]
    exact h.links l hl

/-- A tag can go that no link names. -/
theorem removeTagRow (h : t.Referenced) (unlinked : ∀ l ∈ t.links, l.tagId ≠ id) :
    (t.removeTagRow id).Referenced where
  posts := h.posts
  comments := h.comments
  tags g hg := h.tags g (List.mem_of_mem_filter hg)
  links l hl := ⟨(h.links l hl).1, mem_keys_filter (h.links l hl).2 (unlinked l hl)⟩
  distinct := h.distinct

theorem removeTag (h : t.Referenced) (id : String) : (t.removeTag id).Referenced :=
  (h.unlinkTag id).removeTagRow fun _ hl => of_decide_eq_true (List.mem_filter.mp hl).2

end Referenced

end Weblog.Tables

namespace Weblog.Tables

variable {t : Tables} {row : PostRow × TagRow} {tag : String}

theorem carries_iff {postId : String} : t.carries postId tag = true ↔ ⟨postId, tag⟩ ∈ t.links :=
  List.contains_iff_mem

/-- A post stands beside a tag if it carries it. -/
theorem mem_taggings : row ∈ t.taggings ↔
    row.1 ∈ t.posts ∧ row.2 ∈ t.tags ∧ t.carries row.1.id row.2.id = true := by
  obtain ⟨p, g⟩ := row
  simp only [taggings, List.mem_flatMap, List.mem_filter, List.mem_map, Prod.mk.injEq, carries_iff,
    decide_eq_true_eq]
  constructor
  · rintro ⟨p', hp, l, ⟨hl, on⟩, g', ⟨hg, under⟩, rfl, rfl⟩
    refine ⟨hp, hg, ?_⟩
    rwa [← on, under]
  · rintro ⟨hp, hg, hl⟩
    exact ⟨p, hp, ⟨p.id, g.id⟩, ⟨hl, rfl⟩, g, ⟨hg, rfl⟩, rfl, rfl⟩

/-- The join of distinct rows has distinct rows. -/
theorem nodup_taggings (posts : t.posts.Nodup) (tags : t.tags.Nodup) (links : t.links.Nodup) :
    t.taggings.Nodup := by
  have beside : ∀ (p : PostRow) (l : Link),
      ((t.tags.filter (·.id = l.tagId)).map fun g => (p, g)).Nodup := fun p l =>
    (tags.filter _).map fun g g' same => congrArg Prod.snd same
  refine List.nodup_flatMap.mpr ⟨fun p _ => List.nodup_flatMap.mpr ⟨fun l _ => beside p l, ?_⟩, ?_⟩
  · -- Two links of one post that meet in a tag are the same link.
    refine List.Pairwise.imp_of_mem ?_ (links.filter _)
    intro l l' hl hl' ne row hrow hrow'
    obtain ⟨g, hg, rfl⟩ := List.mem_map.mp hrow
    obtain ⟨g', hg', same⟩ := List.mem_map.mp hrow'
    obtain rfl := congrArg Prod.snd same
    have on := of_decide_eq_true (List.mem_filter.mp hl).2
    have on' := of_decide_eq_true (List.mem_filter.mp hl').2
    have under := of_decide_eq_true (List.mem_filter.mp hg).2
    have under' := of_decide_eq_true (List.mem_filter.mp hg').2
    cases l
    cases l'
    simp only at on on' under under'
    exact ne (by rw [on, on', ← under, ← under'])
  · refine posts.imp fun {p p'} ne row hrow hrow' => ?_
    obtain ⟨l, -, hl⟩ := List.mem_flatMap.mp hrow
    obtain ⟨l', -, hl'⟩ := List.mem_flatMap.mp hrow'
    obtain ⟨g, -, rfl⟩ := List.mem_map.mp hl
    obtain ⟨g', -, same⟩ := List.mem_map.mp hl'
    exact ne (congrArg Prod.fst same).symm

/-- The posts beside a tag are those that carry it, each once. -/
theorem besideTag_perm (posts : (t.posts.map (·.id)).Nodup) (tags : (t.tags.map (·.id)).Nodup)
    (referenced : t.Referenced) (tag : String) :
    ((t.taggings.filter fun row => row.2.id = tag).map fun row => row.1).Perm (t.postsOf tag) := by
  have joined := nodup_taggings posts.of_map tags.of_map referenced.distinct
  have once : ((t.taggings.filter fun row => row.2.id = tag).map fun row => row.1).Nodup := by
    refine List.Nodup.map_on ?_ (joined.filter _)
    intro row h row' h' post
    obtain ⟨h, under⟩ := List.mem_filter.mp h
    obtain ⟨h', under'⟩ := List.mem_filter.mp h'
    have same : row.2.id = row'.2.id :=
      (of_decide_eq_true under).trans (of_decide_eq_true under').symm
    have tag := List.inj_on_of_nodup_map tags (mem_taggings.mp h).2.1 (mem_taggings.mp h').2.1 same
    exact Prod.ext post tag
  refine (List.perm_ext_iff_of_nodup once (posts.of_map.filter _)).mpr fun p => ?_
  constructor
  · intro h
    obtain ⟨⟨p', g⟩, hrow, rfl⟩ := List.mem_map.mp h
    obtain ⟨hrow, under⟩ := List.mem_filter.mp hrow
    obtain ⟨hp, -, carried⟩ := mem_taggings.mp hrow
    rw [of_decide_eq_true under] at carried
    exact List.mem_filter.mpr ⟨hp, carried⟩
  · intro h
    obtain ⟨hp, carried⟩ := List.mem_filter.mp h
    obtain ⟨g, hg, rfl⟩ := List.mem_map.mp (referenced.links _ (carries_iff.mp carried)).2
    exact List.mem_map.mpr ⟨(p, g),
      List.mem_filter.mpr ⟨mem_taggings.mpr ⟨hp, hg, carried⟩, decide_eq_true rfl⟩, rfl⟩

/-- The tags shown with a post are those that it carries. -/
theorem mem_tagsOf_ids (referenced : t.Referenced) {postId : String} :
    tag ∈ (t.tagsOf postId).map (·.id) ↔ t.carries postId tag = true := by
  constructor
  · intro h
    obtain ⟨g, hg, rfl⟩ := List.mem_map.mp h
    exact (List.mem_filter.mp hg).2
  · intro carried
    obtain ⟨g, hg, rfl⟩ := List.mem_map.mp (referenced.links _ (carries_iff.mp carried)).2
    exact List.mem_map_of_mem (List.mem_filter.mpr ⟨hg, carried⟩)

end Weblog.Tables
