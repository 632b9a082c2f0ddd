/-
  Sound stores: what holds of every store that visits lead to.

  Each table is revised in one of the four ways of a shelf (`Effect.users` and so on), the index
  follows the posts, and only valid rows are written. `Sound.visit` puts these together for one
  visit, and `Reachable.sound` for all: whatever is requested, and in whatever order, the documents
  are those of the posts.
-/
import Weblog.Proofs.Service.Valid
import Weblog.Proofs.Store.Indexed
import Weblog.Proofs.Store.Shelf

namespace Weblog

/-! ## Tables as shelves -/

namespace Store

def users (s : Store) : Shelf UserRow := ⟨s.counters.users, s.tables.users⟩

def posts (s : Store) : Shelf PostRow := ⟨s.counters.posts, s.tables.posts⟩

def comments (s : Store) : Shelf CommentRow := ⟨s.counters.comments, s.tables.comments⟩

def tags (s : Store) : Shelf TagRow := ⟨s.counters.tags, s.tables.tags⟩

end Store

namespace Service

open Weblog.Shelf (Revises Tidy)

/-- A store whose identifiers are in order, whose index is that of its posts and whose rows are
valid. -/
structure Sound (s : Store) : Prop where
  users : Tidy UserRow.identity .user s.users
  posts : Tidy PostRow.identity .post s.posts
  comments : Tidy CommentRow.identity .comment s.comments
  tags : Tidy TagRow.identity .tag s.tags
  indexed : s.tables.Indexed
  valid : s.tables.Valid

variable {settings : Settings} {now : Instant} {s : Store} {r : Request} {e : Endpoint} {d : Done}

/-! ## Found rows -/

theorem mem_of_caller {u : UserRow} (h : caller settings now s r = .ok u) :
    u ∈ s.tables.users := by
  unfold caller Caller.ofHeader at h
  split at h
  · cases h
  · unfold Caller.ofToken at h
    split at h
    · cases h
    · exact List.mem_of_find?_eq_some (orRefuse_eq_ok.mp h)

theorem mem_of_checkLogin {t : Tables} {l : Users.Login} {u : UserRow}
    (h : Users.checkLogin t l = .ok u) : u ∈ t.users := by
  simp only [Users.checkLogin, bind_eq_ok, orRefuse_eq_ok] at h
  obtain ⟨v, hv, fits, -, h⟩ := h
  split at h
  · rw [← Except.ok.inj h]
    exact List.mem_of_find?_eq_some hv
  · cases h

theorem mem_of_find_comment {t : Tables} {postId id : String} {c : CommentRow}
    (h : Comments.find t postId id = .ok c) : c ∈ t.comments :=
  List.mem_of_find?_eq_some (orRefuse_eq_ok.mp h)

/-! ## Revised shelves -/

theorem Effect.users (h : Effect settings now s r e d) :
    Revises UserRow.identity .user s.users d.store.users := by
  cases h with
  | look same => exact same ▸ .same
  | register => exact .add _ rfl
  | @login _ u _ known =>
    have same : { u with lastLogin := some now }.identity = u.identity := rfl
    exact .put _ u (mem_of_checkLogin known) same
  | @updateMe u _ bio called =>
    have same : { u with bio := some bio }.identity = u.identity := rfl
    exact .put _ u (mem_of_caller called) same
  | createPost _ _ _ _ _ _ _ left =>
    subst left
    exact .same
  | @updatePost _ _ _ _ _ _ tags _ _ _ _ _ _ _ _ _ _ left =>
    subst left
    cases tags <;> exact .same
  | _ => exact .same

theorem Effect.posts (h : Effect settings now s r e d) :
    Revises PostRow.identity .post s.posts d.store.posts := by
  cases h with
  | look same => exact same ▸ .same
  | @createPost u _ f _ _ _ _ _ _ _ _ _ left =>
    subst left
    exact .add (f.row s now u) rfl
  | @updatePost _ _ f _ p _ tags _ _ _ found _ _ _ _ _ _ left =>
    subst left
    cases tags <;> exact .put (f.write now p p) p (Tables.post?_mem found) rfl
  | @deletePost _ id => exact .drop id
  | _ => exact .same

theorem Effect.comments (h : Effect settings now s r e d) :
    Revises CommentRow.identity .comment s.comments d.store.comments := by
  cases h with
  | look same => exact same ▸ .same
  | createPost _ _ _ _ _ _ _ left =>
    subst left
    exact .same
  | @updatePost _ _ _ _ _ _ tags _ _ _ _ _ _ _ _ _ _ left =>
    subst left
    cases tags <;> exact .same
  | createComment => exact .add _ rfl
  | @updateComment _ fs _ _ _ c _ _ _ found =>
    exact .put (Comments.revised now c (fs.text "body")) c (mem_of_find_comment found) rfl
  | @deleteComment _ _ _ _ c => exact .drop c.id
  | _ => exact .same

theorem Effect.tags (h : Effect settings now s r e d) :
    Revises TagRow.identity .tag s.tags d.store.tags := by
  cases h with
  | look same => exact same ▸ .same
  | createPost _ _ _ _ _ _ _ left =>
    subst left
    exact .same
  | @updatePost _ _ _ _ _ _ tags _ _ _ _ _ _ _ _ _ _ left =>
    subst left
    cases tags <;> exact .same
  | createTag _ _ made =>
    subst made
    exact .add _ rfl
  | @updateTag _ _ f _ g _ _ _ found =>
    exact .put (f.apply now g) g (List.mem_of_find?_eq_some found) rfl
  | @deleteTag _ _ g => exact .drop g.id
  | _ => exact .same

/-! ## The index and the rows -/

theorem Effect.indexed (h : Effect settings now s r e d) (hs : Sound s) :
    d.store.tables.Indexed := by
  have nodup : (s.tables.posts.map (·.id)).Nodup := hs.posts.distinct
  cases h with
  | look same => exact same ▸ hs.indexed
  | createPost _ _ _ _ _ _ idFree left =>
    subst left
    exact hs.indexed.addPost idFree
  | @updatePost _ _ f _ p _ _ _ _ _ found _ _ _ _ _ _ left =>
    subst left
    have hid : p.id = (f.write now p p).id := rfl
    exact hs.indexed.rewritePost nodup (Tables.post?_mem found) hid _
  | @deletePost _ id => exact hs.indexed.removePost id
  | _ => exact hs.indexed

theorem Effect.valid (h : Effect settings now s r e d) (hs : Sound s) :
    d.store.tables.Valid := by
  have ⟨users, posts, comments, tags⟩ := hs.valid
  cases h with
  | look same => exact same ▸ hs.valid
  | register form filled =>
    subst filled
    exact ⟨forall_mem_concat users (valid_registered form _), posts, comments, tags⟩
  | login _ known =>
    have hu := users _ (mem_of_checkLogin known)
    exact ⟨forall_mem_put users ⟨hu.username, hu.email⟩, posts, comments, tags⟩
  | updateMe called =>
    have hu := users _ (mem_of_caller called)
    exact ⟨forall_mem_put users ⟨hu.username, hu.email⟩, posts, comments, tags⟩
  | createPost _ form filled _ titled bodied _ left =>
    subst filled left
    exact ⟨users, forall_mem_concat posts (valid_draft form titled bodied), comments, tags⟩
  | @updatePost _ _ _ _ _ _ tagIds _ form filled found _ _ _ titled bodied _ left =>
    subst filled left
    have written := valid_write now (posts _ (Tables.post?_mem found)) form titled bodied
    cases tagIds <;> exact ⟨users, forall_mem_put posts written, comments, tags⟩
  | deletePost => exact ⟨users, forall_mem_filter posts, comments, tags⟩
  | createComment _ _ _ bodied =>
    exact ⟨users, posts, forall_mem_concat comments ⟨bodied⟩, tags⟩
  | updateComment _ _ _ _ _ bodied => exact ⟨users, posts, forall_mem_put comments ⟨bodied⟩, tags⟩
  | deleteComment => exact ⟨users, posts, forall_mem_filter comments, tags⟩
  | createTag _ form made =>
    subst made
    exact ⟨users, posts, comments, forall_mem_concat tags (valid_tag form)⟩
  | updateTag _ form filled found =>
    subst filled
    exact ⟨users, posts, comments,
      forall_mem_put tags (valid_apply (tags _ (List.mem_of_find?_eq_some found)) form)⟩
  | deleteTag => exact ⟨users, posts, comments, forall_mem_filter tags⟩

/-! ## Visits -/

theorem sound_fresh (enforces : Bool) : Sound (.fresh enforces) where
  users := ⟨List.nodup_nil, by simp [Store.users, Store.fresh, Tables.empty]⟩
  posts := ⟨List.nodup_nil, by simp [Store.posts, Store.fresh, Tables.empty]⟩
  comments := ⟨List.nodup_nil, by simp [Store.comments, Store.fresh, Tables.empty]⟩
  tags := ⟨List.nodup_nil, by simp [Store.tags, Store.fresh, Tables.empty]⟩
  indexed := Tables.indexed_empty
  valid := Tables.valid_empty

theorem Sound.effect (hs : Sound s) (h : Effect settings now s r e d) : Sound d.store where
  users := hs.users.revises h.users
  posts := hs.posts.revises h.posts
  comments := hs.comments.revises h.comments
  tags := hs.tags.revises h.tags
  indexed := h.indexed hs
  valid := h.valid hs

theorem Sound.visit (hs : Sound s) (v : Visit) : Sound (visit settings s v) := by
  unfold Service.visit
  obtain h | ⟨e, d, -, heffect, h, -⟩ := handle_cases settings v.now s v.request
  · rw [h]
    exact hs
  · rw [h]
    exact hs.effect heffect

theorem Reachable.sound (h : Reachable settings s) : Sound s := by
  induction h with
  | fresh enforces => exact sound_fresh enforces
  | visit v _ ih => exact ih.visit v

/-! ## Documents

Since presence is checked before a post is written, a stored post has a title and a body, none of
them empty, and its document is made of both with a space between them. -/

/-- The document of a valid post holds its title and its body. -/
theorem document_of_valid {p : PostRow} (h : p.Valid) :
    ∃ title body, p.title = some title ∧ p.body = some body ∧
      p.document = ⟨"posts", p.id, Text.lower (title ++ " " ++ body)⟩ := by
  obtain ⟨title, htitle, hne⟩ := exists_of_not_isBlankText h.title
  obtain ⟨body, hbody, hne'⟩ := exists_of_not_isBlankText h.body
  have content : PostRow.content p.title p.body = Text.lower (title ++ " " ++ body) := by
    simp only [PostRow.content, Document.ofTexts, htitle, hbody, Option.getD_some]
    rw [List.filter_cons_of_pos (by simpa using hne), List.filter_cons_of_pos (by simpa using hne'),
      List.filter_nil]
    rfl
  exact ⟨title, body, htitle, hbody, by rw [PostRow.document, content]; rfl⟩

/-- After any run from empty tables, the documents with the identifier of a stored post are one,
made of its title and its body, and every document has the identifier of a stored post. -/
theorem documents_after_serve (settings : Settings) (enforces : Bool) (vs : List Visit) :
    let t := (serve settings (.fresh enforces) vs).tables
    (t.posts.map (·.id)).Nodup ∧
    (∀ p ∈ t.posts, ∃ title body, p.title = some title ∧ p.body = some body ∧
      t.documents.filter (·.recordId = p.id) =
        [⟨"posts", p.id, Text.lower (title ++ " " ++ body)⟩]) ∧
    ∀ d ∈ t.documents, ∃ p ∈ t.posts, d.recordId = p.id := by
  intro t
  have sound := (reachable_serve settings enforces vs).sound
  refine ⟨sound.posts.distinct, fun p hp => ?_, fun d hd => ?_⟩
  · obtain ⟨title, body, htitle, hbody, hdocument⟩ := document_of_valid (sound.valid.posts p hp)
    refine ⟨title, body, htitle, hbody, ?_⟩
    rw [← hdocument]
    exact sound.indexed.documents_of sound.posts.distinct hp
  · obtain ⟨p, hp, rfl⟩ := sound.indexed.mem_documents.mp hd
    exact ⟨p, hp, rfl⟩

end Service

end Weblog
