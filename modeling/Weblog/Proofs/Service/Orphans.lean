/-
  Orphans: the comments of a post that was taken out.

  They stay as they are in every run, and nobody reaches them: each request about comments goes
  through its post, and the identifier of the post is not given out again. `Orphaned` is what one
  visit keeps. The comments of a post that is there are found by their identifier and that of the
  post.
-/
import Weblog.Proofs.Service.Bearer
import Weblog.Proofs.Service.Owned

namespace Weblog

/-! ## Lists with a row replaced or taken out -/

section Filter

variable {α : Type} {l : List α} {p : α → Bool} {c : α → Prop} [DecidablePred c] {a : α}

theorem filter_concat_of_neg (ha : p a = false) : (l ++ [a]).filter p = l.filter p := by
  rw [List.filter_append, List.filter_cons_of_neg (Bool.eq_false_iff.mp ha), List.filter_nil,
    List.append_nil]

/-- What is replaced by a row of the other side leaves a selection as it is. -/
theorem filter_map_of_neg (out : ∀ v ∈ l, c v → p v = false) (ha : p a = false) :
    (l.map fun v => if c v then a else v).filter p = l.filter p := by
  induction l with
  | nil => rfl
  | cons v l ih =>
    have rest := ih fun w hw => out w (List.mem_cons_of_mem v hw)
    rw [List.map_cons]
    by_cases hc : c v
    · rw [if_pos hc, List.filter_cons_of_neg (Bool.eq_false_iff.mp ha),
        List.filter_cons_of_neg (Bool.eq_false_iff.mp (out v List.mem_cons_self hc)), rest]
    · rw [if_neg hc, List.filter_cons, List.filter_cons, rest]

/-- What is taken out of the other side leaves a selection as it is. -/
theorem filter_filter_of_neg {q : α → Bool} (out : ∀ v ∈ l, p v = true → q v = true) :
    (l.filter q).filter p = l.filter p := by
  rw [List.filter_filter]
  refine List.filter_congr fun v hv => ?_
  cases hp : p v with
  | false => rfl
  | true => rw [out v hv hp, Bool.true_and]

end Filter

/-- The comments on a post, in the order of the table. -/
def Tables.commentsWith (t : Tables) (postId : String) : List CommentRow :=
  t.comments.filter fun c => c.postId = postId

namespace Service

variable {settings : Settings} {now : Instant} {s : Store} {r : Request} {e : Endpoint} {d : Done}
  {id : String} {cs : List CommentRow}

/-! ## Visits -/

/-- A post was taken out, and these are the comments on it. -/
structure Orphaned (s : Store) (id : String) (cs : List CommentRow) : Prop where
  given : ∃ m ≤ s.counters.posts, id = Kind.post.identifier m
  gone : id ∉ s.tables.posts.map (·.id)
  comments : s.tables.commentsWith id = cs

theorem post?_eq_none : s.tables.post? id = none ↔ id ∉ s.tables.posts.map (·.id) := by
  simp [Tables.post?]

/-- A request leaves the comments on a post as they are that is not there. -/
theorem Effect.commentsWith (h : Effect settings now s r e d) (hs : Sound s)
    (gone : id ∉ s.tables.posts.map (·.id)) :
    d.store.tables.commentsWith id = s.tables.commentsWith id := by
  have other : ∀ {postId p}, s.tables.post? postId = some p → p.id ≠ id := by
    rintro postId p found rfl
    exact gone (List.mem_map_of_mem (Tables.post?_mem found))
  -- A comment that is found is on a post that is there.
  have apart : ∀ {postId cid p c}, s.tables.post? postId = some p →
      Comments.find s.tables postId cid = .ok c → ∀ v ∈ s.tables.comments, v.id = c.id →
        decide (v.postId = id) = false := by
    intro postId cid p c foundPost found v hv same
    obtain rfl := hs.comments.eq_of_id hv (mem_of_find_comment found) same
    have on : v.postId = postId := by
      have both := List.find?_some (orRefuse_eq_ok.mp found)
      simp only [Bool.and_eq_true, decide_eq_true_eq] at both
      exact both.2
    rw [on, ← Tables.post?_id foundPost]
    exact decide_eq_false (other foundPost)
  cases h with
  | look same => exact same ▸ rfl
  | createPost _ _ _ _ _ _ _ left =>
    subst left
    rfl
  | @updatePost _ _ _ _ _ _ tags _ _ _ _ _ _ _ _ _ _ left =>
    subst left
    cases tags <;> rfl
  | createComment _ _ found => exact filter_concat_of_neg (decide_eq_false (other found))
  | @updateComment _ fs _ _ _ c _ _ foundPost found =>
    have mem := mem_of_find_comment found
    exact filter_map_of_neg (apart foundPost found) (apart foundPost found c mem rfl)
  | @deleteComment _ _ _ _ c _ foundPost found =>
    refine filter_filter_of_neg fun v hv on => decide_eq_true fun same => ?_
    rw [apart foundPost found v hv same] at on
    cases on
  | _ => rfl

theorem Orphaned.effect (h : Orphaned s id cs) (hs : Sound s) (heffect : Effect settings now s r e d) :
    Orphaned d.store id cs := by
  obtain ⟨given, gone, comments⟩ := h
  obtain ⟨m, hm, rfl⟩ := given
  exact ⟨⟨m, Nat.le_trans hm heffect.posts.used_le, rfl⟩, heffect.posts.absent hm gone,
    (heffect.commentsWith hs gone).trans comments⟩

theorem Orphaned.visit (h : Orphaned s id cs) (hs : Sound s) (v : Visit) :
    Orphaned (visit settings s v) id cs := by
  unfold Service.visit
  obtain same | ⟨e, d, -, heffect, left, -⟩ := handle_cases settings v.now s v.request
  · rw [same]
    exact h
  · rw [left]
    exact h.effect hs heffect

theorem Orphaned.serve (h : Orphaned s id cs) (hs : Sound s) (vs : List Visit) :
    Orphaned (serve settings s vs) id cs := by
  have kept : Sound (Service.serve settings s vs) ∧ Orphaned (Service.serve settings s vs) id cs := by
    refine serve_induction (P := fun s => Sound s ∧ Orphaned s id cs) ?_ ⟨hs, h⟩ vs
    rintro s v ⟨hs, h⟩
    exact ⟨hs.visit v, h.visit hs v⟩
  exact kept.2

/-- A post goes with the request that takes it out, and its comments stay. -/
theorem Effect.orphaned (h : Effect settings now s r e d) (hs : Sound s) {p : PostRow}
    (there : p ∈ s.tables.posts) (gone : p.id ∉ d.store.tables.posts.map (·.id)) :
    Orphaned d.store p.id (s.tables.commentsWith p.id) := by
  obtain ⟨m, hm, hid⟩ := hs.posts.numbered p there
  refine ⟨⟨m, Nat.le_trans hm h.posts.used_le, hid⟩, gone, ?_⟩
  cases h with
  | look same => exact same ▸ rfl
  | createPost _ _ _ _ _ _ _ left =>
    subst left
    rfl
  | @updatePost _ _ _ _ _ _ tags _ _ _ _ _ _ _ _ _ _ left =>
    subst left
    cases tags <;> rfl
  | createComment => exact absurd (List.mem_map_of_mem there) gone
  | updateComment => exact absurd (List.mem_map_of_mem there) gone
  | deleteComment => exact absurd (List.mem_map_of_mem there) gone
  | _ => rfl

theorem orphaned_visit (hs : Sound s) {p : PostRow} (there : p ∈ s.tables.posts) (v : Visit)
    (gone : p.id ∉ (visit settings s v).tables.posts.map (·.id)) :
    Orphaned (visit settings s v) p.id (s.tables.commentsWith p.id) := by
  unfold visit at gone ⊢
  obtain same | ⟨e, d, -, heffect, left, -⟩ := handle_cases settings v.now s v.request
  · rw [same] at gone
    exact absurd (List.mem_map_of_mem there) gone
  · rw [left] at gone ⊢
    exact heffect.orphaned hs there gone

/-! ## Requests about comments -/

/-- A request asks for comments on a post, or for one of them. The caller is known and the form is
filled where this is needed. -/
inductive AsksComment (settings : Settings) (now : Instant) (s : Store) (r : Request) :
    String → Option String → Prop
  | create {postId : String} {u : UserRow} {fs : Fields}
      (route : Endpoint.route r.method r.path = .found (.createComment postId))
      (called : caller settings now s r = .ok u) (form : submitted .commentCreate r = .ok fs) :
      AsksComment settings now s r postId none
  | list {postId : String}
      (route : Endpoint.route r.method r.path = .found (.listComments postId)) :
      AsksComment settings now s r postId none
  | display {postId id : String}
      (route : Endpoint.route r.method r.path = .found (.showComment postId id)) :
      AsksComment settings now s r postId (some id)
  | update {postId id : String} {u : UserRow} {fs : Fields}
      (route : Endpoint.route r.method r.path = .found (.updateComment postId id))
      (called : caller settings now s r = .ok u) (form : submitted .commentUpdate r = .ok fs) :
      AsksComment settings now s r postId (some id)
  | delete {postId id : String} {u : UserRow}
      (route : Endpoint.route r.method r.path = .found (.deleteComment postId id))
      (called : caller settings now s r = .ok u) : AsksComment settings now s r postId (some id)

theorem AsksComment.noPost {postId : String} {id? : Option String}
    (h : AsksComment settings now s r postId id?) (absent : s.tables.post? postId = none) :
    Refuses settings now s r 404 .noPost := by
  have unknown : Posts.find s.tables postId = refuse .noPost := by rw [Posts.find, absent]; rfl
  refine ⟨rfl, ?_⟩
  cases h with
  | create route called form =>
    refine fails_of_run route ((withBoth_of_submitted called form).trans ?_)
    rw [Comments.create, unknown]
    rfl
  | list route =>
    refine fails_of_run route ?_
    rw [run, Comments.list, unknown]
    rfl
  | display route =>
    refine fails_of_run route ?_
    rw [run, Comments.display, unknown]
    rfl
  | update route called form =>
    refine fails_of_run route ((withBoth_of_submitted called form).trans ?_)
    rw [Comments.update, unknown]
    rfl
  | delete route called =>
    refine fails_of_run route ?_
    rw [run, withCaller, called, bind_ok, Comments.delete, unknown]
    rfl

/-! ## Comments that are found -/

/-- A request reaches a comment: it is shown, its owner changes it or takes it out, or the request
fails on account of the owner or of a blank body. -/
inductive Reaches (settings : Settings) (now : Instant) (s : Store) (r : Request) (c : CommentRow) :
    Prop
  | shown {j : Json} (json : View.commentJson c = .ok j)
      (answered : (handle settings now s r).2.1 = .ok (Reply.json 200 [] j)) : Reaches ..
  | changed {body : String}
      (left : (handle settings now s r).1 = s.change (·.setComment c.id (Comments.revised now c body))) :
      Reaches ..
  | removed (left : (handle settings now s r).1 = s.change (·.removeComment c.id)) : Reaches ..
  | notOwner (refused : Refuses settings now s r 403 .notOwner) : Reaches ..
  | blank (failed : Fails settings now s r (.invalid .comment (some c.id) (.about ["body"]))) :
      Reaches ..

variable {postId : String} {p : PostRow} {c : CommentRow}

theorem AsksComment.noComment (h : AsksComment settings now s r postId (some id))
    (post : s.tables.post? postId = some p)
    (unknown : Comments.find s.tables postId id = refuse .noComment) :
    Refuses settings now s r 404 .noComment := by
  refine ⟨rfl, ?_⟩
  cases h with
  | display route =>
    refine fails_of_run route ?_
    rw [run, Comments.display, Posts.find_eq_ok.mpr post, unknown]
    rfl
  | update route called form =>
    refine fails_of_run route ((withBoth_of_submitted called form).trans ?_)
    exact Comments.update_unknown post unknown
  | delete route called =>
    refine fails_of_run route ((withCaller_of_called called).trans ?_)
    exact Comments.delete_unknown post unknown

theorem AsksComment.reaches (h : AsksComment settings now s r postId (some id)) (hs : Sound s)
    (post : s.tables.post? postId = some p) (found : Comments.find s.tables postId id = .ok c) :
    Reaches settings now s r c := by
  cases h with
  | display route =>
    obtain ⟨j, hj⟩ := commentJson_ok (hs.valid.comments c (mem_of_find_comment found))
    have hrun : run settings now s r (.showComment postId id) = .ok (Done.read s (.comment c)) := by
      rw [run, Comments.display, Posts.find_eq_ok.mpr post, found]
      rfl
    have shown : (View.comment c).reply 200 = .ok (Reply.json 200 [] j) := by
      rw [View.reply, View.toJson?, hj]
      rfl
    have success : (Reply.json 200 [] j).status < 400 := by
      show 200 < 400
      decide
    exact .shown hj (handle_reply route hrun shown success)
  | @update _ u fs route called form =>
    have hrun : run settings now s r (.updateComment postId id) =
        Comments.update s now u postId id (fs.text "body") := withBoth_of_submitted called form
    by_cases own : c.userId = u.id
    · cases full : Text.isBlank (fs.text "body") with
      | true =>
        exact .blank (fails_of_run route (hrun.trans (Comments.update_blank post found own full)))
      | false =>
        have done := hrun.trans (Comments.update_own post found own full)
        exact .changed (handle_of_run route done).1
    · exact .notOwner ⟨rfl, fails_of_run route (hrun.trans (Comments.update_notOwner post found own))⟩
  | @delete _ u route called =>
    have hrun : run settings now s r (.deleteComment postId id) =
        Comments.delete s u postId id := withCaller_of_called called
    by_cases own : c.userId = u.id
    · exact .removed (handle_of_run route (hrun.trans (Comments.delete_own post found own))).1
    · exact .notOwner ⟨rfl, fails_of_run route (hrun.trans (Comments.delete_notOwner post found own))⟩

/-- In every store that visits lead to:

1. when a post is taken out, its comments stay as they are in every later store, and every request
   about comments on it is told that there is no such post;
2. a request about a comment and a post that is there reaches the comment if it is on that post,
   and is told that there is no such comment otherwise. -/
theorem orphans_stay (reach : Reachable settings s) :
    (∀ (p : PostRow) (v : Visit), p ∈ s.tables.posts →
      p.id ∉ (visit settings s v).tables.posts.map (·.id) →
      ∀ (vs : List Visit) (s' : Store), serve settings (visit settings s v) vs = s' →
        s'.tables.commentsWith p.id = s.tables.commentsWith p.id ∧
        ∀ now r id?, AsksComment settings now s' r p.id id? →
          Refuses settings now s' r 404 .noPost) ∧
    ∀ p ∈ s.tables.posts, ∀ now r id, AsksComment settings now s r p.id (some id) →
      (∀ c ∈ s.tables.comments, c.id = id → c.postId = p.id → Reaches settings now s r c) ∧
      ((∀ c ∈ s.tables.comments, c.id = id → c.postId ≠ p.id) →
        Refuses settings now s r 404 .noComment) := by
  have hs := reach.sound
  constructor
  · rintro p v there gone vs s' rfl
    obtain ⟨-, gone, comments⟩ := (orphaned_visit hs there v gone).serve (hs.visit v) vs
    exact ⟨comments, fun now r id? asks => asks.noPost (post?_eq_none.mpr gone)⟩
  · intro p there now r id asks
    have post : s.tables.post? p.id = some p := hs.posts.find?_of_mem there
    refine ⟨fun c hc hid on => ?_, fun others => ?_⟩
    · exact asks.reaches hs post ((Comments.find_eq_ok hs.comments.distinct).mpr ⟨hc, hid, on⟩)
    · refine asks.noComment post (Comments.find_refused ?_)
      rintro ⟨c, found⟩
      obtain ⟨hc, hid, on⟩ := (Comments.find_eq_ok hs.comments.distinct).mp found
      exact others c hc hid on

/-! ## A comment without its post -/

def removeAnnPost : Request :=
  bearing "ann" ⟨"http://testserver", "DELETE", "/api/posts/post-1", "", none, none, []⟩

def askAnnComment : Request :=
  ⟨"http://testserver", "GET", "/api/posts/post-1/comments/comment-1", "", none, none, []⟩

/-- The first user takes out a post with a comment on it. The comment stays, and nobody finds it. -/
theorem comment_outlives_post :
    (serve .default (posted [annComment]) [⟨⟨0⟩, removeAnnPost⟩]).tables.commentsWith annPost.id =
        [annComment] ∧
      Reaches .default ⟨0⟩ (posted [annComment]) askAnnComment annComment ∧
      Refuses .default ⟨0⟩ (serve .default (posted [annComment]) [⟨⟨0⟩, removeAnnPost⟩]) askAnnComment 404
        .noPost := by
  have routeRemove : Endpoint.route removeAnnPost.method removeAnnPost.path =
      .found (.deletePost annPost.id) := by decide +kernel
  have routeAsk : Endpoint.route askAnnComment.method askAnnComment.path =
      .found (.showComment annPost.id annComment.id) := by decide +kernel
  have called : caller .default ⟨0⟩ (posted [annComment]) removeAnnPost = .ok (ann ⟨0⟩) :=
    caller_bearing rfl _ (by decide)
  have found := reachable_posted.sound.posts.find?_of_mem List.mem_cons_self
  have hrun : run .default ⟨0⟩ (posted [annComment]) removeAnnPost (.deletePost annPost.id) =
      .ok (Done.removed ((posted [annComment]).change (·.removePost annPost.id))
        [unindexedRecord annPost.id]) :=
    (withCaller_of_called called).trans (Posts.delete_own found rfl)
  have gone : annPost.id ∉ (visit .default (posted [annComment]) ⟨⟨0⟩, removeAnnPost⟩).tables.posts.map
      (·.id) := by
    rw [visit_mk, (handle_of_run routeRemove hrun).1]
    decide +kernel
  obtain ⟨orphaned, conversely⟩ := orphans_stay reachable_posted
  obtain ⟨comments, asked⟩ := orphaned annPost ⟨⟨0⟩, removeAnnPost⟩ List.mem_cons_self gone []
    (serve .default (posted [annComment]) [⟨⟨0⟩, removeAnnPost⟩]) (serve_cons _ _ _ _).symm
  have on : (posted [annComment]).tables.commentsWith annPost.id = [annComment] := by decide +kernel
  refine ⟨comments.trans on, ?_, asked ⟨0⟩ askAnnComment _ (.display routeAsk)⟩
  exact (conversely annPost List.mem_cons_self ⟨0⟩ askAnnComment annComment.id
    (.display routeAsk)).1 annComment List.mem_cons_self rfl rfl

end Service

end Weblog
