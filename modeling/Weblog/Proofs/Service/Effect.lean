/-
  What a request that succeeds does: one constructor of `Effect` for each endpoint that changes
  the store, and one for all that only look.

  A constructor has what was checked on the way and what is left behind. `effect_of_run` is the
  only place that opens the endpoints; what is proved of all requests splits on `Effect`.
-/
import Weblog.Proofs.Run
import Weblog.Proofs.Service.Success

namespace Weblog

/-! ## Written rows -/

/-- The row of a registration. -/
def Users.Registration.row (f : Users.Registration) (s : Store) (now : Instant)
    (hash : PasswordHash) : UserRow :=
  ⟨(s.nextId .user).1, f.username, f.email, hash, f.bio, now, none, true⟩

/-- The row of a draft. -/
def Posts.Draft.row (f : Posts.Draft) (s : Store) (now : Instant) (author : UserRow) : PostRow :=
  ⟨(s.nextId .post).1, author.id, some f.title, some f.body, now, now⟩

/-- The row of a new comment. -/
def Comments.row (s : Store) (now : Instant) (author : UserRow) (postId body : String) :
    CommentRow :=
  ⟨(s.nextId .comment).1, postId, author.id, some body, now, now⟩

/-- The row of a new tag. -/
def Tags.row (s : Store) (now : Instant) (author : UserRow) (name : String)
    (description : Option String) : TagRow :=
  ⟨(s.nextId .tag).1, name, description, author.id, now, now⟩

/-- Writes a changed post with its document, and its tags if they are given. -/
def Tables.rewritePost (t : Tables) (p : PostRow) (tagIds : Option (List String)) : Tables :=
  let written := (t.setPostRow p.id p).index p.document
  match tagIds with
  | none => written
  | some ids => written.setTags p.id ids

namespace Service

/-- The fields that a request fills a form with. -/
def submitted (form : Form) (r : Request) : Except Failure Fields := do
  let submission ← Submission.read r
  submission.check form

/-! ## Effects -/

variable (settings : Settings) (now : Instant) (s : Store) (r : Request)

/-- What an endpoint leaves behind when it succeeds, and what it checked before. -/
inductive Effect : Endpoint → Done → Prop
  | look {e : Endpoint} {d : Done} (same : d.store = s) : Effect e d
  | register {fs : Fields} {f : Users.Registration} {hash : PasswordHash}
      (form : submitted .userCreate r = .ok fs) (filled : f = .ofFields fs)
      (nameFree : s.tables.userNamed? f.username = none)
      (mailFree : s.tables.userMailed? f.email = none)
      (idFree : s.tables.user? (s.nextId .user).1 = none)
      (hashed : Password.hash f.password = .ok hash) :
      Effect .register (Done.created ((s.nextId .user).2.change (·.addUser (f.row s now hash)))
        (.user (f.row s now hash)) [])
  | login {fs : Fields} {u : UserRow}
      (form : submitted .userLogin r = .ok fs)
      (known : Users.checkLogin s.tables (.ofFields fs) = .ok u) :
      Effect .login (Done.changed (s.change (·.setUser u.id { u with lastLogin := some now }))
        (.token (Token.issue settings.secret now (some settings.tokenLifetime)
          (Users.claims u.username))) [])
  | updateMe {u : UserRow} {fs : Fields} {bio : String}
      (called : caller settings now s r = .ok u)
      (form : submitted .userUpdate r = .ok fs) (given : fs.text? "bio" = some bio) :
      Effect .updateMe (Done.changed (s.change (·.setUser u.id { u with bio := some bio }))
        (.user { u with bio := some bio }) [])
  | createPost {u : UserRow} {fs : Fields} {f : Posts.Draft} {tags : List TagRow}
      (called : caller settings now s r = .ok u)
      (form : submitted .postCreate r = .ok fs) (filled : f = .ofFields fs)
      (loaded : Posts.loadTags s.tables.tags f.tagIds = .ok tags)
      (titled : Text.isBlank f.title = false) (bodied : Text.isBlank f.body = false)
      (idFree : s.tables.post? (s.nextId .post).1 = none) {s' : Store}
      (left : s' = (s.nextId .post).2.change fun t =>
        (t.addPost (f.row s now u)).setTags (f.row s now u).id (tags.map (·.id))) :
      Effect .createPost (Done.created s' (.post (s'.tables.view (f.row s now u)))
        [indexedRecord (f.row s now u).id])
  | updatePost {u : UserRow} {fs : Fields} {f : Posts.Edit} {id : String} {p p' : PostRow}
      {tags : Option (List TagRow)}
      (called : caller settings now s r = .ok u)
      (form : submitted .postUpdate r = .ok fs) (filled : f = .ofFields fs)
      (found : s.tables.post? id = some p) (own : p.userId = u.id)
      (touching : f.isTouching)
      (loaded : f.tagIds.mapM (Posts.loadTags s.tables.tags) = .ok tags)
      (titled : isBlankText (f.titleOf p) = false) (bodied : isBlankText (f.bodyOf p) = false)
      {s' : Store}
      (left : s' = s.change (·.rewritePost (f.write now p p) (tags.map fun gs => gs.map (·.id))))
      (shown : s'.tables.post? id = some p') :
      Effect (.updatePost id) (Done.changed s' (.post (s'.tables.view p')) [indexedRecord id])
  | deletePost {u : UserRow} {id : String} {p : PostRow}
      (called : caller settings now s r = .ok u)
      (found : s.tables.post? id = some p) (own : p.userId = u.id) :
      Effect (.deletePost id) (Done.removed (s.change (·.removePost id)) [unindexedRecord id])
  | createComment {u : UserRow} {fs : Fields} {postId : String} {p : PostRow}
      (called : caller settings now s r = .ok u)
      (form : submitted .commentCreate r = .ok fs)
      (found : s.tables.post? postId = some p)
      (bodied : Text.isBlank (fs.text "body") = false)
      (idFree : s.tables.comment? (s.nextId .comment).1 = none) :
      Effect (.createComment postId) (Done.created
        ((s.nextId .comment).2.change (·.addComment (Comments.row s now u p.id (fs.text "body"))))
        (.comment (Comments.row s now u p.id (fs.text "body"))) [])
  | updateComment {u : UserRow} {fs : Fields} {postId id : String} {p : PostRow} {c : CommentRow}
      (called : caller settings now s r = .ok u)
      (form : submitted .commentUpdate r = .ok fs)
      (foundPost : s.tables.post? postId = some p)
      (found : Comments.find s.tables postId id = .ok c) (own : c.userId = u.id)
      (bodied : Text.isBlank (fs.text "body") = false) :
      Effect (.updateComment postId id) (Done.changed
        (s.change (·.setComment c.id (Comments.revised now c (fs.text "body"))))
        (.comment (Comments.revised now c (fs.text "body"))) [])
  | deleteComment {u : UserRow} {postId id : String} {p : PostRow} {c : CommentRow}
      (called : caller settings now s r = .ok u)
      (foundPost : s.tables.post? postId = some p)
      (found : Comments.find s.tables postId id = .ok c) (own : c.userId = u.id) :
      Effect (.deleteComment postId id) (Done.removed (s.change (·.removeComment c.id)) [])
  | createTag {u : UserRow} {fs : Fields} {g : TagRow}
      (called : caller settings now s r = .ok u)
      (form : submitted .tagCreate r = .ok fs)
      (made : g = Tags.row s now u (fs.text "name") (fs.text? "description"))
      (nameFree : s.tables.tagNamed? g.name = none) (named : Text.isBlank g.name = false)
      (idFree : s.tables.tag? g.id = none) :
      Effect .createTag (Done.created ((s.nextId .tag).2.change (·.addTag g)) (.tag g) [])
  | updateTag {u : UserRow} {fs : Fields} {f : Tags.Edit} {id : String} {g : TagRow}
      (called : caller settings now s r = .ok u)
      (form : submitted .tagUpdate r = .ok fs) (filled : f = .ofFields fs)
      (found : s.tables.tag? id = some g) (own : g.userId = u.id)
      (nameFree : ∀ h ∈ s.tables.tags, h.name = (f.apply now g).name → h.id = g.id)
      (named : f.isTouching g → Text.isBlank (f.apply now g).name = false) :
      Effect (.updateTag id) (Done.changed (s.change (·.setTag g.id (f.apply now g)))
        (.tag (f.apply now g)) [])
  | deleteTag {u : UserRow} {id : String} {g : TagRow}
      (called : caller settings now s r = .ok u)
      (found : s.tables.tag? id = some g) (own : g.userId = u.id) :
      Effect (.deleteTag id) (Done.removed (s.change (·.removeTag g.id)) [])

/-! ## Endpoints that succeed -/

variable {settings now s r} {form : Form} {d : Done} {e : Endpoint}

theorem withForm_ok {act : Fields → Except Failure Done} (h : withForm form r act = .ok d) :
    ∃ fs, submitted form r = .ok fs ∧ act fs = .ok d := by
  simp only [withForm, bind_eq_ok] at h
  obtain ⟨submission, hread, fs, hcheck, hact⟩ := h
  exact ⟨fs, by simp [submitted, hread, hcheck], hact⟩

theorem withCaller_ok {act : UserRow → Except Failure Done}
    (h : withCaller settings now s r act = .ok d) :
    ∃ u, caller settings now s r = .ok u ∧ act u = .ok d := by
  simpa only [withCaller, bind_eq_ok] using h

theorem withBoth_ok {act : UserRow → Fields → Except Failure Done}
    (h : withBoth settings now s form r act = .ok d) :
    ∃ u fs, caller settings now s r = .ok u ∧ submitted form r = .ok fs ∧ act u fs = .ok d := by
  simp only [withBoth, bind_eq_ok] at h
  obtain ⟨submission, hread, u, hcaller, fs, hcheck, hact⟩ := h
  exact ⟨u, fs, hcaller, by simp [submitted, hread, hcheck], hact⟩

theorem activeCaller_ok {u : UserRow} (h : activeCaller settings now s r = .ok u) :
    caller settings now s r = .ok u := by
  simp only [activeCaller, bind_eq_ok, Caller.active] at h
  obtain ⟨v, hv, h⟩ := h
  split at h
  · rw [hv, h]
  · exact absurd h refuse_ne_ok

theorem effect_register {fs : Fields} (form : submitted .userCreate r = .ok fs)
    (h : Users.register s now (.ofFields fs) = .ok d) : Effect settings now s r .register d := by
  simp only [Users.register, guard_eq_ok, bind_eq_ok, mapError_eq_ok, commit_eq_ok, not_isSome,
    Store.addUser_eq_ok] at h
  obtain ⟨hname, hmail, hash, hhash, s', ⟨-, -, hid, rfl⟩, hd⟩ := h
  rw [← Except.ok.inj hd]
  exact .register form rfl hname hmail hid hhash

theorem effect_login {fs : Fields} (form : submitted .userLogin r = .ok fs)
    (h : Users.login settings s now (.ofFields fs) = .ok d) : Effect settings now s r .login d := by
  simp only [Users.login, bind_eq_ok] at h
  obtain ⟨u, hu, hd⟩ := h
  rw [← Except.ok.inj hd]
  exact .login form hu

theorem effect_updateMe {u : UserRow} {fs : Fields} (called : caller settings now s r = .ok u)
    (form : submitted .userUpdate r = .ok fs) :
    Effect settings now s r .updateMe (Users.update s u (fs.text? "bio")) := by
  unfold Users.update
  cases hbio : fs.text? "bio" with
  | none => exact .look rfl
  | some bio => exact .updateMe called form hbio

theorem effect_createPost {u : UserRow} {fs : Fields} (called : caller settings now s r = .ok u)
    (form : submitted .postCreate r = .ok fs)
    (h : Posts.create s now u (.ofFields fs) = .ok d) : Effect settings now s r .createPost d := by
  simp only [Posts.create, bind_eq_ok, commit_eq_ok, Posts.checkTexts_eq_ok,
    Store.addPost_eq_ok] at h
  obtain ⟨tags, hload, -, ⟨htitle, hbody⟩, s₁, ⟨hid, -, rfl⟩, s₂, htags, hd⟩ := h
  obtain rfl := Store.setTags_ok htags
  rw [← Except.ok.inj hd]
  exact .createPost called form rfl hload htitle hbody hid rfl

theorem write_title (f : Posts.Edit) (p : PostRow) : (f.write now p p).title = f.titleOf p := by
  simp only [Posts.Edit.write]
  split
  · rename_i h
    exact h.symm
  · rfl

theorem write_body (f : Posts.Edit) (p : PostRow) : (f.write now p p).body = f.bodyOf p := by
  simp only [Posts.Edit.write]
  split
  · rename_i h
    exact h.symm
  · rfl

theorem write_document (now : Instant) (f : Posts.Edit) (p : PostRow) :
    (f.write now p p).document =
      ⟨Kind.post.table, p.id, PostRow.content (f.titleOf p) (f.bodyOf p)⟩ := by
  rw [PostRow.document, write_title, write_body]
  rfl

theorem finishUpdate_ok {f : Posts.Edit} {p : PostRow} {s' : Store}
    (found : s.tables.post? p.id = some p) (touching : f.isTouching)
    (h : Posts.finishUpdate s now p f = .ok s') :
    ∃ tags, f.tagIds.mapM (Posts.loadTags s.tables.tags) = .ok tags ∧
      isBlankText (f.titleOf p) = false ∧ isBlankText (f.bodyOf p) = false ∧
      s' = s.change (·.rewritePost (f.write now p p) (tags.map fun gs => gs.map (·.id))) := by
  simp only [Posts.finishUpdate, touching, Bool.not_true, Bool.false_eq_true, if_false, found,
    bind_eq_ok, Posts.checkTexts_eq_ok, ← write_document now] at h
  obtain ⟨tags, hload, -, ⟨htitle, hbody⟩, hs⟩ := h
  refine ⟨tags, hload, htitle, hbody, ?_⟩
  cases tags with
  | none => exact (Except.ok.inj hs).symm
  | some gs => exact (Store.setTags_ok (commit_eq_ok.mp hs)).symm

theorem effect_updatePost {u : UserRow} {fs : Fields} {id : String}
    (called : caller settings now s r = .ok u) (form : submitted .postUpdate r = .ok fs)
    (h : Posts.update s now u id (.ofFields fs) = .ok d) :
    Effect settings now s r (.updatePost id) d := by
  simp only [Posts.update, Posts.find, guard_eq_ok, bind_eq_ok, orRefuse_eq_ok, not_not] at h
  obtain ⟨p, hp, hown, s', hs, p', hp', hd⟩ := h
  rw [← Except.ok.inj hd]
  cases touching : (Posts.Edit.ofFields fs).isTouching with
  | false =>
    simp only [Posts.finishUpdate, touching, Bool.not_false, if_true, Except.ok.injEq] at hs
    exact .look hs.symm
  | true =>
    have hid : p.id = id := by simpa using List.find?_some hp
    obtain ⟨tags, hload, htitle, hbody, rfl⟩ := finishUpdate_ok (hid ▸ hp) touching hs
    exact .updatePost called form rfl hp hown touching hload htitle hbody rfl hp'

theorem effect_deletePost {u : UserRow} {id : String} (called : caller settings now s r = .ok u)
    (h : Posts.delete s u id = .ok d) : Effect settings now s r (.deletePost id) d := by
  simp only [Posts.delete, Posts.find, guard_eq_ok, bind_eq_ok, orRefuse_eq_ok, not_not] at h
  obtain ⟨p, hp, hown, hd⟩ := h
  rw [← Except.ok.inj hd]
  exact .deletePost called hp hown

theorem effect_createComment {u : UserRow} {fs : Fields} {postId : String}
    (called : caller settings now s r = .ok u) (form : submitted .commentCreate r = .ok fs)
    (h : Comments.create s now u postId (fs.text "body") = .ok d) :
    Effect settings now s r (.createComment postId) d := by
  simp only [Comments.create, Posts.find, bind_eq_ok, orRefuse_eq_ok, commit_eq_ok,
    Comments.checkBody_eq_ok, Store.addComment_eq_ok] at h
  obtain ⟨p, hp, -, hbody, s', ⟨hid, -, rfl⟩, hd⟩ := h
  rw [← Except.ok.inj hd]
  exact .createComment called form hp hbody hid

theorem effect_updateComment {u : UserRow} {fs : Fields} {postId id : String}
    (called : caller settings now s r = .ok u) (form : submitted .commentUpdate r = .ok fs)
    (h : Comments.update s now u postId id (fs.text "body") = .ok d) :
    Effect settings now s r (.updateComment postId id) d := by
  simp only [Comments.update, Posts.find, guard_eq_ok, bind_eq_ok, discard_eq_ok, orRefuse_eq_ok,
    Comments.checkBody_eq_ok, not_not] at h
  obtain ⟨-, ⟨p, hp⟩, c, hc, hown, -, hbody, hd⟩ := h
  rw [← Except.ok.inj hd]
  exact .updateComment called form hp hc hown hbody

theorem effect_deleteComment {u : UserRow} {postId id : String}
    (called : caller settings now s r = .ok u) (h : Comments.delete s u postId id = .ok d) :
    Effect settings now s r (.deleteComment postId id) d := by
  simp only [Comments.delete, Posts.find, guard_eq_ok, bind_eq_ok, discard_eq_ok, orRefuse_eq_ok,
    not_not] at h
  obtain ⟨-, ⟨p, hp⟩, c, hc, hown, hd⟩ := h
  rw [← Except.ok.inj hd]
  exact .deleteComment called hp hc hown

theorem effect_createTag {u : UserRow} {fs : Fields} (called : caller settings now s r = .ok u)
    (form : submitted .tagCreate r = .ok fs)
    (h : Tags.create s now u (fs.text "name") (fs.text? "description") = .ok d) :
    Effect settings now s r .createTag d := by
  simp only [Tags.create, bind_eq_ok, commit_eq_ok, Tags.checkFree_eq_ok, Tags.checkName_eq_ok,
    Store.addTag_eq_ok] at h
  obtain ⟨-, hfree, -, hname, s', ⟨-, hid, -, rfl⟩, hd⟩ := h
  rw [← Except.ok.inj hd]
  exact .createTag called form rfl hfree hname hid

theorem effect_updateTag {u : UserRow} {fs : Fields} {id : String}
    (called : caller settings now s r = .ok u) (form : submitted .tagUpdate r = .ok fs)
    (h : Tags.update s now u id (.ofFields fs) = .ok d) :
    Effect settings now s r (.updateTag id) d := by
  simp only [Tags.update, Tags.find, guard_eq_ok, bind_eq_ok, orRefuse_eq_ok, not_not] at h
  obtain ⟨g, hg, hown, h⟩ := h
  have tail : ((Tags.Edit.ofFields fs).isTouching g →
        Text.isBlank ((Tags.Edit.ofFields fs).apply now g).name = false) ∧
      ∃ s', s.setTag ((Tags.Edit.ofFields fs).apply now g) = .ok s' ∧
        Done.changed s' (.tag ((Tags.Edit.ofFields fs).apply now g)) [] = d := by
    split at h
    · simp only [bind_eq_ok, check_when_eq_ok, Tags.checkName_eq_ok, commit_eq_ok,
        Except.ok.injEq] at h
      obtain ⟨-, -, h⟩ := h
      exact h
    · simpa only [bind_eq_ok, check_when_eq_ok, Tags.checkName_eq_ok, commit_eq_ok,
        Except.ok.injEq] using h
  obtain ⟨hname, s', hs, rfl⟩ := tail
  obtain ⟨hfree, rfl⟩ := Store.setTag_eq_ok.mp hs
  exact .updateTag called form rfl hg hown hfree hname

theorem effect_deleteTag {u : UserRow} {id : String} (called : caller settings now s r = .ok u)
    (h : Tags.delete s u id = .ok d) : Effect settings now s r (.deleteTag id) d := by
  simp only [Tags.delete, Tags.find, guard_eq_ok, bind_eq_ok, orRefuse_eq_ok, not_not] at h
  obtain ⟨g, hg, hown, hd⟩ := h
  rw [← Except.ok.inj hd]
  exact .deleteTag called hg hown

/-- Whatever an endpoint does when it succeeds is one of the effects. -/
theorem effect_of_run (h : run settings now s r e = .ok d) : Effect settings now s r e d := by
  cases e with
  | register =>
    obtain ⟨fs, form, h⟩ := withForm_ok h
    exact effect_register form h
  | login =>
    obtain ⟨fs, form, h⟩ := withForm_ok h
    exact effect_login form h
  | showMe =>
    simp only [run, bind_eq_ok, Except.ok.injEq] at h
    obtain ⟨u, -, rfl⟩ := h
    exact .look rfl
  | updateMe =>
    simp only [run, bind_eq_ok, Except.ok.injEq] at h
    obtain ⟨submission, hread, u, hu, fs, hcheck, rfl⟩ := h
    exact effect_updateMe (activeCaller_ok hu) (by simp [submitted, hread, hcheck])
  | createPost =>
    obtain ⟨u, fs, called, form, h⟩ := withBoth_ok h
    exact effect_createPost called form h
  | listPosts =>
    rw [← Except.ok.inj h]
    exact .look rfl
  | searchPosts =>
    simp only [run, search, Posts.search] at h
    split at h
    · cases h
    · split at h
      · cases h
      · rw [← Except.ok.inj h]
        exact .look rfl
  | showPost id =>
    simp only [run, Posts.display, bind_eq_ok, Except.ok.injEq] at h
    obtain ⟨p, -, rfl⟩ := h
    exact .look rfl
  | updatePost id =>
    obtain ⟨u, fs, called, form, h⟩ := withBoth_ok h
    exact effect_updatePost called form h
  | deletePost id =>
    obtain ⟨u, called, h⟩ := withCaller_ok h
    exact effect_deletePost called h
  | createComment postId =>
    obtain ⟨u, fs, called, form, h⟩ := withBoth_ok h
    exact effect_createComment called form h
  | listComments postId =>
    simp only [run, Comments.list, bind_eq_ok, Except.ok.injEq] at h
    obtain ⟨p, -, rfl⟩ := h
    exact .look rfl
  | showComment postId id =>
    simp only [run, Comments.display, bind_eq_ok, Except.ok.injEq] at h
    obtain ⟨-, -, c, -, rfl⟩ := h
    exact .look rfl
  | updateComment postId id =>
    obtain ⟨u, fs, called, form, h⟩ := withBoth_ok h
    exact effect_updateComment called form h
  | deleteComment postId id =>
    obtain ⟨u, called, h⟩ := withCaller_ok h
    exact effect_deleteComment called h
  | createTag =>
    obtain ⟨u, fs, called, form, h⟩ := withBoth_ok h
    exact effect_createTag called form h
  | listTags =>
    rw [← Except.ok.inj h]
    exact .look rfl
  | showTag id =>
    simp only [run, Tags.display, bind_eq_ok, Except.ok.injEq] at h
    obtain ⟨g, -, rfl⟩ := h
    exact .look rfl
  | listTagPosts id =>
    simp only [run, Tags.posts, bind_eq_ok, Except.ok.injEq] at h
    obtain ⟨g, -, rfl⟩ := h
    exact .look rfl
  | updateTag id =>
    obtain ⟨u, fs, called, form, h⟩ := withBoth_ok h
    exact effect_updateTag called form h
  | deleteTag id =>
    obtain ⟨u, called, h⟩ := withCaller_ok h
    exact effect_deleteTag called h

/-! ## Requests -/

theorem statusOf_observe (o : Except Escape Reply) :
    statusOf (RequestLog.observe Escape.message r o).1 = statusOf o := by
  cases o with
  | error e => rfl
  | ok reply =>
    simp only [RequestLog.observe]
    split <;> rfl

/-- A request leaves the store as it was, or its endpoint succeeds and leaves its effect. -/
theorem handle_cases (settings : Settings) (now : Instant) (s : Store) (r : Request) :
    (handle settings now s r).1 = s ∨
      ∃ e d, Endpoint.route r.method r.path = .found e ∧ Effect settings now s r e d ∧
        (handle settings now s r).1 = d.store ∧
        statusOf (handle settings now s r).2.1 = statusOf (d.view.reply d.status) := by
  simp only [handle, statusOf_observe, respond]
  split
  · exact .inl rfl
  · exact .inl rfl
  · rename_i e hroute
    split
    · exact .inl rfl
    · rename_i d hrun
      exact .inr ⟨e, d, hroute, effect_of_run hrun, rfl, rfl⟩

end Service

end Weblog
