/-
  Changes that succeed: the rows that they were made of, what they leave behind and what they show.

  `Posts.Edit.applied` is all that a change of a post does to the tables. It writes nothing where
  nothing is given, and this is why what it leaves is said with the same row either way: a post that
  is given what it has is written as it was.
-/
import Weblog.Proofs.Service.Decided
import Weblog.Proofs.Service.Listings
import Weblog.Proofs.Store.Rewritten

namespace Weblog

variable {settings : Settings} {now : Instant} {s : Store} {u : UserRow} {d : Done} {r : Request}
  {e : Endpoint} {id postId : String}

/-! ## Posts -/

namespace Posts

variable {f : Edit} {p : PostRow} {t : Tables}

/-- The tables after a change of a post. -/
def Edit.applied (f : Edit) (now : Instant) (p : PostRow) (t : Tables) : Tables :=
  if f.isTouching then t.rewritePost (f.write now p p) (f.tagIds.map List.eraseDups) else t

/-- A post that has what is given is left alone, whatever the time. -/
theorem write_eq_self (title : f.titleOf p = p.title) (body : f.bodyOf p = p.body) :
    f.write now p p = p := by
  simp only [Edit.write, title, body, if_true, and_self]

theorem write_untouched (untouched : f.isTouching = false) : f.write now p p = p := by
  simp only [Edit.isTouching, Bool.or_eq_false_iff, Option.isSome_eq_false_iff,
    Option.isNone_iff_eq_none] at untouched
  refine write_eq_self ?_ ?_
  · rw [Edit.titleOf, untouched.1.1, Option.none_or]
  · rw [Edit.bodyOf, untouched.1.2, Option.none_or]

theorem post?_applied (found : t.post? p.id = some p) :
    (f.applied now p t).post? p.id = some (f.write now p p) := by
  unfold Edit.applied
  cases touching : f.isTouching with
  | false => exact found.trans (congrArg some (write_untouched touching).symm)
  | true => exact post?_rewritePost found f _

/-- Tags that may be left out are loaded as they were asked for, each once. -/
theorem ids_of_mapM_loadTags {rows : List TagRow} {o : Option (List String)}
    {tags : Option (List TagRow)} (h : o.mapM (loadTags rows) = .ok tags) :
    (tags.map fun gs => gs.map (·.id)) = o.map List.eraseDups := by
  cases o with
  | none =>
    obtain rfl := Except.ok.inj h
    rfl
  | some ids =>
    obtain ⟨gs, loaded, rfl⟩ := map_eq_ok.mp h
    exact congrArg some (ids_of_loadTags loaded)

theorem finishUpdate_applied {s' : Store} (found : s.tables.post? p.id = some p)
    (h : finishUpdate s now p f = .ok s') : s' = s.change (f.applied now p) := by
  cases touching : f.isTouching with
  | false =>
    simp only [finishUpdate, touching, Bool.not_false, if_true, Except.ok.injEq] at h
    simp only [← h, Store.change, Edit.applied, touching, Bool.false_eq_true, if_false]
  | true =>
    obtain ⟨tags, loaded, -, -, rfl⟩ := Service.finishUpdate_ok found touching h
    have ids := ids_of_mapM_loadTags loaded
    simp only [Store.change, Edit.applied, touching, if_true, ids]

/-- What a change of a post leaves and shows if it is allowed. -/
theorem update_ok (h : update s now u id f = .ok d) : ∃ p, s.tables.post? id = some p ∧
    p.userId = u.id ∧
    d = Done.changed (s.change (f.applied now p))
      (.post ((f.applied now p s.tables).view (f.write now p p)))
      (if f.isTouching then [indexedRecord id] else []) := by
  simp only [update, find, guard_eq_ok, bind_eq_ok, orRefuse_eq_ok, Except.ok.injEq, not_not] at h
  obtain ⟨p, found, own, s', left, p', shown, rfl⟩ := h
  obtain rfl : p.id = id := Tables.post?_id found
  obtain rfl := finishUpdate_applied found left
  obtain rfl := Option.some.inj (shown.symm.trans (post?_applied found))
  exact ⟨p, found, own, rfl⟩

/-- What the creation of a post leaves and shows if it is allowed. -/
theorem create_ok {f : Draft} (h : create s now u f = .ok d) : ∃ (tags : List TagRow) (t : Store),
    loadTags s.tables.tags f.tagIds = .ok tags ∧ (t = (s.nextId .post).2.change fun t =>
      (t.addPost (f.row s now u)).setTags (f.row s now u).id (tags.map (·.id))) ∧
    d = Done.created t (.post (t.tables.view (f.row s now u)))
      [indexedRecord (f.row s now u).id] := by
  simp only [create, bind_eq_ok, commit_eq_ok, Store.addPost_eq_ok, Except.ok.injEq] at h
  obtain ⟨tags, loaded, -, -, t, ⟨-, -, rfl⟩, t', linked, rfl⟩ := h
  obtain rfl := Store.setTags_ok linked
  exact ⟨tags, _, loaded, rfl, rfl⟩

end Posts

/-! ## Comments -/

namespace Comments

/-- What the creation of a comment leaves and shows if it is allowed. -/
theorem create_ok {body : String} (h : create s now u postId body = .ok d) : ∃ p,
    s.tables.post? postId = some p ∧ s.tables.comment? (s.nextId .comment).1 = none ∧
    d = Done.created ((s.nextId .comment).2.change (·.addComment (row s now u p.id body)))
      (.comment (row s now u p.id body)) [] := by
  simp only [create, Posts.find, bind_eq_ok, orRefuse_eq_ok, commit_eq_ok, Store.addComment_eq_ok,
    Except.ok.injEq] at h
  obtain ⟨p, found, -, -, t, ⟨free, -, rfl⟩, rfl⟩ := h
  exact ⟨p, found, free, rfl⟩

/-- What a change of a comment leaves and shows if it is allowed. -/
theorem update_ok {body : String} (h : update s now u postId id body = .ok d) : ∃ p c,
    s.tables.post? postId = some p ∧ find s.tables postId id = .ok c ∧ c.userId = u.id ∧
    d = Done.changed (s.change (·.setComment c.id (revised now c body)))
      (.comment (revised now c body)) [] := by
  simp only [update, Posts.find, guard_eq_ok, bind_eq_ok, discard_eq_ok, orRefuse_eq_ok, not_not,
    Except.ok.injEq] at h
  obtain ⟨-, ⟨p, post⟩, c, found, own, -, -, rfl⟩ := h
  exact ⟨p, c, post, found, own, rfl⟩

end Comments

/-! ## Tags -/

namespace Tags

variable {f : Edit}

/-- What the creation of a tag leaves and shows if it is allowed. -/
theorem create_ok {name : String} {description : Option String}
    (h : create s now u name description = .ok d) : s.tables.tag? (s.nextId .tag).1 = none ∧
    d = Done.created ((s.nextId .tag).2.change (·.addTag (row s now u name description)))
      (.tag (row s now u name description)) [] := by
  simp only [create, bind_eq_ok, commit_eq_ok, Store.addTag_eq_ok, Except.ok.injEq] at h
  obtain ⟨-, -, -, -, t, ⟨-, free, -, rfl⟩, rfl⟩ := h
  exact ⟨free, rfl⟩

/-- What a change of a tag leaves behind if it is allowed. -/
theorem update_ok (h : update s now u id f = .ok d) : ∃ g, s.tables.tag? id = some g ∧
    g.userId = u.id ∧
    d = Done.changed (s.change (·.setTag g.id (f.apply now g))) (.tag (f.apply now g)) [] := by
  simp only [update, find, guard_eq_ok, bind_eq_ok, orRefuse_eq_ok, not_not] at h
  obtain ⟨g, found, own, h⟩ := h
  refine ⟨g, found, own, ?_⟩
  have written : ∃ t, commit (s.setTag (f.apply now g)) = .ok t ∧
      Done.changed t (.tag (f.apply now g)) [] = d := by
    split at h
    · simp only [bind_eq_ok, check_when_eq_ok, Except.ok.injEq] at h
      obtain ⟨-, -, -, h⟩ := h
      exact h
    · simp only [bind_eq_ok, check_when_eq_ok, Except.ok.injEq] at h
      exact h.2
  obtain ⟨t, set, rfl⟩ := written
  obtain ⟨-, rfl⟩ := Store.setTag_eq_ok.mp (commit_eq_ok.mp set)
  rfl

end Tags

/-! ## Requests -/

namespace Service

/-- A request that is answered with success has an endpoint that succeeds. -/
theorem exists_run (h : statusOf (handle settings now s r).2.1 < 300) :
    ∃ e d, Endpoint.route r.method r.path = .found e ∧ run settings now s r e = .ok d := by
  cases hroute : Endpoint.route r.method r.path with
  | found e =>
    obtain ⟨d, hrun⟩ := run_of_success hroute (Nat.lt_trans h (by decide))
    exact ⟨e, d, rfl, hrun⟩
  | redirected path =>
    simp only [handle, statusOf_observe, respond, hroute] at h
    exact absurd h (by show ¬307 < 300; decide)
  | refused refusal =>
    simp only [handle, statusOf_observe, respond, hroute] at h
    have failed := statusOf_failure (.refused refusal)
    omega

/-- What an endpoint that succeeds shows goes through the request log. -/
theorem outcome_of_run (hroute : Endpoint.route r.method r.path = .found e)
    (hrun : run settings now s r e = .ok d) : (handle settings now s r).2.1 =
      (RequestLog.observe Escape.message r (d.view.reply d.status)).1 := by
  simp only [handle, respond, hroute, hrun]

/-! ## A post with another title -/

/-- The store with two posts. -/
def blogged : Store := blog [redPost, bothPost] blogLinks [wordOfBob]

/-- A request of the second user to give his post another title, and tags. -/
def retag (ids : List String) : Request :=
  bearing "bob" (send "PUT" "/api/posts/post-2"
    (.obj [("title", .str "Another title"), ("tag_ids", .arr (ids.map .str))]))

theorem route_retag (ids : List String) :
    Endpoint.route (retag ids).method (retag ids).path = .found (.updatePost bothPost.id) := by
  have hroute : Endpoint.route "PUT" "/api/posts/post-2" = .found (.updatePost bothPost.id) := by
    decide +kernel
  exact hroute

/-- What a request submits does not depend on who makes it. -/
theorem read_bearing (name : String) (r : Request) :
    Submission.read (bearing name r) = Submission.read r := rfl

theorem flat_texts (ts : List String) :
    Json.ItemsExact (ts.map .str) ∧ Json.itemsDepth (ts.map .str) = 0 := by
  induction ts with
  | nil => exact ⟨trivial, rfl⟩
  | cons t ts ih =>
    refine ⟨⟨trivial, ih.1⟩, ?_⟩
    rw [List.map_cons, Json.itemsDepth, ih.2]
    rfl

theorem read_retag (ids : List String) : Submission.read (retag ids) = .ok (.value
    (.obj [("title", .str "Another title"), ("tag_ids", .arr (ids.map .str))])) := by
  obtain ⟨exact, flat⟩ := flat_texts ids
  have shallow : Submission.maxDepth ≥
      (Json.obj [("title", .str "Another title"), ("tag_ids", .arr (ids.map .str))]).depth := by
    simp only [Json.depth, Json.fieldsDepth, flat]
    decide
  rw [retag, read_bearing]
  exact read_send ⟨by simp, trivial, exact, trivial⟩ shallow

/-- The second user may give his post the tags that are there. -/
theorem done_retag {ids : List String} (tags : List TagRow)
    (filled : (submitted .postUpdate (retag ids)).toOption.map Posts.Edit.ofFields =
      some ⟨some "Another title", none, some ids⟩)
    (loaded : (Posts.loadTags blogged.tables.tags ids).toOption = some tags) :
    statusOf (handle .default ⟨4⟩ blogged (retag ids)).2.1 = 200 := by
  obtain ⟨fs, form, edit⟩ := Option.map_eq_some_iff.mp filled
  have form := ok_of_toOption form
  have called : caller .default ⟨4⟩ blogged (retag ids) = .ok bob := caller_bearing rfl _ (by decide)
  have found : blogged.tables.post? bothPost.id = some bothPost := by decide +kernel
  have tagged : (Posts.Edit.ofFields fs).tagIds.mapM (Posts.loadTags blogged.tables.tags) =
      .ok (some tags) := by
    rw [edit, Option.mapM_some, ok_of_toOption loaded]
    rfl
  have full : isBlankText (some "Another title") = false ∧ isBlankText (some "A body") = false := by
    decide
  have titled : isBlankText ((Posts.Edit.ofFields fs).titleOf bothPost) = false := edit ▸ full.1
  have bodied : isBlankText ((Posts.Edit.ofFields fs).bodyOf bothPost) = false := edit ▸ full.2
  have valid := valid_write ⟨4⟩ (reachable_blog.sound.valid.posts bothPost (by simp [blog])) form
    titled bodied
  exact (leaves_of_run (route_retag ids) ((withBoth_of_submitted called form).trans
    (Posts.update_done found rfl (by rw [edit]; rfl) tagged titled bodied rfl))
    (toJson?_of_ok rfl (postJson_ok _ valid))).1

end Service

end Weblog
