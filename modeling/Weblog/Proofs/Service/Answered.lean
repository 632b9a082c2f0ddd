/-
  Answers can be made: every row that is stored fits the form of its answer, so that no endpoint
  that is done fails when its answer is made.

  What is shown are rows of the tables that are left (`run_answers`), and rows are only written if a
  form let them through. A title that is submitted as null counts as not submitted. The normal form
  of an address is checked again when its user is shown, and it is taken here that the addresses in
  the table are normal forms of themselves (`Settled`). A login shows no row, and its token may fail
  on account of the calendar.
-/
import Weblog.Proofs.Service.Listings

namespace Weblog

/-! ## Rows that fit their answers -/

/-- A length keeps to bounds if it is between them. -/
theorem Bounds.broken?_eq_none {b : Bounds} {n : Nat} : b.broken? n = Option.none ↔
    (∀ m, b.least = some m → m ≤ n) ∧ ∀ m, b.greatest = some m → n ≤ m := by
  obtain ⟨least, greatest⟩ := b
  cases least with
  | none => cases greatest <;> simp [broken?]
  | some n =>
    cases greatest with
    | none => simp [broken?]
    | some m =>
      simp only [broken?, Option.some.injEq, forall_eq']
      split
      · simp; omega
      · split
        · simp; omega
        · simp; omega

structure UserRow.Fits (u : UserRow) : Prop where
  username : 3 ≤ u.username.length ∧ u.username.length ≤ 50
  email : Email.normalForm u.email = .ok u.email

structure PostRow.Fits (p : PostRow) : Prop where
  title : ∃ title, p.title = some title ∧ title.length ≤ 255
  body : ∃ body, p.body = some body

structure CommentRow.Fits (c : CommentRow) : Prop where
  body : ∃ body, c.body = some body

structure TagRow.Fits (g : TagRow) : Prop where
  name : 1 ≤ g.name.length ∧ g.name.length ≤ 50

/-- All rows keep to the constraints on their answers: what must be there is there, lengths are
within bounds, and addresses are accepted as they stand. -/
structure Tables.Fits (t : Tables) : Prop where
  users : ∀ u ∈ t.users, u.Fits
  posts : ∀ p ∈ t.posts, p.Fits
  comments : ∀ c ∈ t.comments, c.Fits
  tags : ∀ g ∈ t.tags, g.Fits

/-- The addresses in the table that are normal forms of something are normal forms of themselves. -/
def Tables.Settled (t : Tables) : Prop :=
  ∀ u ∈ t.users, ∀ typed, Email.normalForm typed = .ok u.email →
    Email.normalForm u.email = .ok u.email

namespace Tables.Valid

variable {t : Tables}

theorem mail (valid : t.Valid) (settled : t.Settled) {u : UserRow} (hu : u ∈ t.users) :
    Email.normalForm u.email = .ok u.email := by
  obtain ⟨typed, normal⟩ := (valid.users u hu).email
  exact settled u hu typed normal

theorem fits (valid : t.Valid) (settled : t.Settled) : t.Fits where
  users u hu := by
    have bounds := Bounds.broken?_eq_none.mp (valid.users u hu).username
    exact ⟨⟨bounds.1 3 rfl, bounds.2 50 rfl⟩, valid.mail settled hu⟩
  posts p hp := by
    obtain ⟨title, htitle, -⟩ := exists_of_not_isBlankText (valid.posts p hp).title
    obtain ⟨body, hbody, -⟩ := exists_of_not_isBlankText (valid.posts p hp).body
    have bounds := Bounds.broken?_eq_none.mp ((valid.posts p hp).length title htitle)
    exact ⟨⟨title, htitle, bounds.2 255 rfl⟩, body, hbody⟩
  comments c hc := by
    obtain ⟨body, hbody, -⟩ := exists_of_not_isBlankText (valid.comments c hc).body
    exact ⟨body, hbody⟩
  tags g hg := by
    have bounds := Bounds.broken?_eq_none.mp (valid.tags g hg).name
    exact ⟨bounds.1 1 rfl, bounds.2 50 rfl⟩

end Tables.Valid

/-! ## Rows that are shown -/

/-- What is shown are rows of the tables, and no token. -/
def View.IsOf (t : Tables) : View → Prop
  | .user u => u ∈ t.users
  | .post p => ∃ row ∈ t.posts, p = t.view row
  | .posts ps => ∃ rows ⊆ t.posts, ps = rows.map t.view
  | .comment c => c ∈ t.comments
  | .comments cs => cs ⊆ t.comments
  | .tag g => g ∈ t.tags
  | .tags gs => gs ⊆ t.tags
  | .token _ => False
  | .nothing => True

/-- Rows of tables that are valid can be shown. -/
theorem View.toJson?_isOf {t : Tables} {v : View} (valid : t.Valid) (settled : t.Settled)
    (h : v.IsOf t) : ∃ o, v.toJson? = .ok o := by
  have listed : ∀ {α : Type} {f : α → Except Escape Json} {rows : List α},
      (∀ a ∈ rows, ∃ j, f a = .ok j) →
      ∃ o, ((rows.mapM f).map fun js => some (Json.arr js)) = .ok o := by
    intro α f rows each
    obtain ⟨js, hjs⟩ := exists_mapM_ok each
    exact ⟨_, map_eq_ok.mpr ⟨js, hjs, rfl⟩⟩
  cases v with
  | user u => exact Service.toJson?_of_ok rfl (userJson_ok (valid.users u h) (valid.mail settled h))
  | post p =>
    obtain ⟨row, hrow, rfl⟩ := h
    exact Service.toJson?_of_ok rfl (postJson_ok t (valid.posts row hrow))
  | posts ps =>
    obtain ⟨rows, sub, rfl⟩ := h
    refine listed fun p hp => ?_
    obtain ⟨row, hrow, rfl⟩ := List.mem_map.mp hp
    exact postJson_ok t (valid.posts row (sub hrow))
  | comment c => exact Service.toJson?_of_ok rfl (commentJson_ok (valid.comments c h))
  | comments cs => exact listed fun c hc => commentJson_ok (valid.comments c (h hc))
  | tag g => exact Service.toJson?_of_ok rfl (tagJson_ok (valid.tags g h))
  | tags gs => exact listed fun g hg => tagJson_ok (valid.tags g (h hg))
  | token issued => exact h.elim
  | nothing => exact ⟨none, rfl⟩

/-- An endpoint is done with success, and what it shows are rows of the tables that it leaves. -/
structure Done.Answers (d : Done) : Prop where
  status : d.status < 400
  shown : d.view.IsOf d.store.tables

/-- If a part of a request succeeds, its answer can be made. -/
def Answering (x : Except Failure Done) : Prop := ∀ d, x = .ok d → d.Answers

namespace Answering

variable {α : Type} {x : Except Failure α} {k : α → Except Failure Done} {d : Done}

theorem ok (h : d.Answers) : Answering (.ok d) := fun _ same => Except.ok.inj same ▸ h

theorem bind (hk : ∀ a, x = .ok a → Answering (k a)) : Answering (x >>= k) := by
  intro d h
  obtain ⟨a, ha, h⟩ := bind_eq_ok.mp h
  exact hk a ha d h

theorem guard {c : Prop} [Decidable c] {refusal : Refusal} {k : PUnit → Except Failure Done}
    (h : ¬c → Answering (k ⟨⟩)) : Answering (if c then refuse refusal >>= k else k ⟨⟩) := by
  intro d hd
  obtain ⟨hc, hd⟩ := guard_eq_ok.mp hd
  exact h hc d hd

/-- A check that is made under a condition. -/
theorem when {c : Prop} [Decidable c] {x : Except Failure PUnit} {y : Except Failure Done}
    (h : Answering y) : Answering (if c then x >>= fun _ => y else y) := by
  by_cases hc : c
  · rw [if_pos hc]
    exact bind fun _ _ => h
  · rw [if_neg hc]
    exact h

theorem read {s : Store} {v : View} (h : v.IsOf s.tables) : Answering (.ok (Done.read s v)) :=
  ok ⟨by show 200 < 400; decide, h⟩

theorem changed {s : Store} {v : View} {records : List LogRecord} (h : v.IsOf s.tables) :
    Answering (.ok (Done.changed s v records)) :=
  ok ⟨by show 200 < 400; decide, h⟩

theorem created {s : Store} {v : View} {records : List LogRecord} (h : v.IsOf s.tables) :
    Answering (.ok (Done.created s v records)) :=
  ok ⟨by show 201 < 400; decide, h⟩

theorem removed (s : Store) (records : List LogRecord) :
    Answering (.ok (Done.removed s records)) :=
  ok ⟨by show 204 < 400; decide, trivial⟩

end Answering

namespace Service

variable {settings : Settings} {now : Instant} {s : Store} {r : Request} {form : Form}
  {e : Endpoint} {u : UserRow} {id postId : String}

/-! ## Endpoints -/

theorem answering_register (f : Users.Registration) : Answering (Users.register s now f) := by
  unfold Users.register
  refine Answering.guard fun _ => ?_
  refine Answering.guard fun _ => ?_
  refine Answering.bind fun hash _ => Answering.bind fun t added => Answering.created ?_
  obtain ⟨-, -, -, rfl⟩ := Store.addUser_eq_ok.mp (commit_eq_ok.mp added)
  exact List.mem_concat_self

theorem answers_updateMe (hu : u ∈ s.tables.users) (bio : Option String) :
    (Users.update s u bio).Answers := by
  cases bio with
  | none => exact ⟨by show 200 < 400; decide, hu⟩
  | some b => exact ⟨by show 200 < 400; decide, mem_put UserRow.id { u with bio := some b } hu⟩

theorem answering_createPost (f : Posts.Draft) : Answering (Posts.create s now u f) := by
  refine Answering.bind fun tags _ => Answering.bind fun _ _ => Answering.bind fun t added => ?_
  refine Answering.bind fun t' linked => Answering.created ⟨_, ?_, rfl⟩
  obtain ⟨-, -, rfl⟩ := Store.addPost_eq_ok.mp (commit_eq_ok.mp added)
  obtain rfl := Store.setTags_ok (commit_eq_ok.mp linked)
  exact List.mem_concat_self

theorem answers_listPosts (hs : Sound s) (referenced : s.tables.Referenced)
    (sel : Posts.Selection) : (Posts.list s sel).Answers := by
  refine ⟨by show 200 < 400; decide, _, ?_, rfl⟩
  intro p hp
  have hp := List.mem_of_mem_filter (List.mem_mergeSort.mp hp)
  exact List.mem_of_mem_filter ((candidates_perm hs referenced sel.tag).mem_iff.mp hp)

theorem answering_search : Answering (search s r) := by
  intro d h
  unfold search Posts.search at h
  split at h
  · cases h
  split at h
  · cases h
  · rename_i rows found
    have shown : (View.posts (rows.map s.tables.view)).IsOf s.tables :=
      ⟨rows, Search.subset_of_found found, rfl⟩
    exact Answering.read shown d h

theorem answering_displayPost : Answering (Posts.display s id) :=
  Answering.bind fun p found => Answering.read ⟨p, Tables.post?_mem (Posts.find_eq_ok.mp found), rfl⟩

theorem answering_updatePost (f : Posts.Edit) : Answering (Posts.update s now u id f) := by
  refine Answering.bind fun loaded _ => ?_
  dsimp only
  refine Answering.guard fun _ => Answering.bind fun t _ => Answering.bind fun p found => ?_
  exact Answering.changed ⟨p, Tables.post?_mem (Posts.find_eq_ok.mp found), rfl⟩

theorem answering_deletePost : Answering (Posts.delete s u id) := by
  refine Answering.bind fun p _ => ?_
  dsimp only
  exact Answering.guard fun _ => Answering.removed _ _

theorem answering_createComment (body : String) :
    Answering (Comments.create s now u postId body) := by
  refine Answering.bind fun p _ => Answering.bind fun _ _ => Answering.bind fun t added => ?_
  refine Answering.created ?_
  obtain ⟨-, -, rfl⟩ := Store.addComment_eq_ok.mp (commit_eq_ok.mp added)
  exact List.mem_concat_self

theorem answering_listComments : Answering (Comments.list s postId) := by
  refine Answering.bind fun p _ => Answering.read fun _ hc => ?_
  exact List.mem_of_mem_filter (List.mem_mergeSort.mp hc)

theorem answering_displayComment : Answering (Comments.display s postId id) :=
  Answering.bind fun _ _ => Answering.bind fun _ found => Answering.read (mem_of_find_comment found)

theorem answering_updateComment (body : String) :
    Answering (Comments.update s now u postId id body) := by
  refine Answering.bind fun _ _ => Answering.bind fun c found => ?_
  dsimp only
  refine Answering.guard fun _ => Answering.bind fun _ _ => Answering.changed ?_
  exact mem_put CommentRow.id (Comments.revised now c body) (mem_of_find_comment found)

theorem answering_deleteComment : Answering (Comments.delete s u postId id) := by
  refine Answering.bind fun _ _ => Answering.bind fun c _ => ?_
  dsimp only
  exact Answering.guard fun _ => Answering.removed _ _

theorem answering_createTag (name : String) (description : Option String) :
    Answering (Tags.create s now u name description) := by
  refine Answering.bind fun _ _ => Answering.bind fun _ _ => Answering.bind fun t added => ?_
  refine Answering.created ?_
  obtain ⟨-, -, -, rfl⟩ := Store.addTag_eq_ok.mp (commit_eq_ok.mp added)
  exact List.mem_concat_self

theorem answering_displayTag : Answering (Tags.display s id) :=
  Answering.bind fun _ found => Answering.read (List.mem_of_find?_eq_some (orRefuse_eq_ok.mp found))

theorem answering_tagPosts : Answering (Tags.posts s id) :=
  Answering.bind fun _ _ => Answering.read ⟨_, List.filter_subset_self _, rfl⟩

theorem answering_updateTag (f : Tags.Edit) : Answering (Tags.update s now u id f) := by
  refine Answering.bind fun g found => ?_
  dsimp only
  refine Answering.guard fun _ => ?_
  have hg := List.mem_of_find?_eq_some (orRefuse_eq_ok.mp found)
  have written : Answering (commit (s.setTag (f.apply now g)) >>= fun t =>
      .ok (Done.changed t (.tag (f.apply now g)) [])) := by
    refine Answering.bind fun t set => Answering.changed ?_
    obtain ⟨-, rfl⟩ := Store.setTag_eq_ok.mp (commit_eq_ok.mp set)
    have there := mem_put TagRow.id (f.apply now g) hg
    exact there
  split
  · exact Answering.bind fun _ _ => written.when
  · exact written.when

theorem answering_deleteTag : Answering (Tags.delete s u id) := by
  refine Answering.bind fun g _ => ?_
  dsimp only
  exact Answering.guard fun _ => Answering.removed _ _

/-- An endpoint that is done and is no login can be answered. -/
theorem run_answers (hs : Sound s) (referenced : s.tables.Referenced) (other : e ≠ .login) :
    Answering (run settings now s r e) := by
  have form : ∀ {form act}, (∀ fs, Answering (act fs)) → Answering (withForm form r act) :=
    fun h => Answering.bind fun _ _ => Answering.bind fun fs _ => h fs
  have alone : ∀ {act}, (∀ u, Answering (act u)) → Answering (withCaller settings now s r act) :=
    fun h => Answering.bind fun u _ => h u
  have both : ∀ {form act}, (∀ u fs, Answering (act u fs)) →
      Answering (withBoth settings now s form r act) :=
    fun h => Answering.bind fun _ _ => Answering.bind fun u _ => Answering.bind fun fs _ => h u fs
  cases e with
  | register => exact form fun _ => answering_register _
  | login => exact absurd rfl other
  | showMe =>
    exact Answering.bind fun u called => Answering.read (mem_of_caller (activeCaller_ok called))
  | updateMe =>
    refine Answering.bind fun _ _ => Answering.bind fun u called => Answering.bind fun fs _ => ?_
    exact Answering.ok (answers_updateMe (mem_of_caller (activeCaller_ok called)) _)
  | createPost => exact both fun _ _ => answering_createPost _
  | listPosts => exact Answering.ok (answers_listPosts hs referenced _)
  | searchPosts => exact answering_search
  | showPost id => exact answering_displayPost
  | updatePost id => exact both fun _ _ => answering_updatePost _
  | deletePost id => exact alone fun _ => answering_deletePost
  | createComment postId => exact both fun _ _ => answering_createComment _
  | listComments postId => exact answering_listComments
  | showComment postId id => exact answering_displayComment
  | updateComment postId id => exact both fun _ _ => answering_updateComment _
  | deleteComment postId id => exact alone fun _ => answering_deleteComment
  | createTag => exact both fun _ _ => answering_createTag _ _
  | listTags =>
    exact Answering.read fun _ hg => List.mem_mergeSort.mp hg
  | showTag id => exact answering_displayTag
  | listTagPosts id => exact answering_tagPosts
  | updateTag id => exact both fun _ _ => answering_updateTag _
  | deleteTag id => exact alone fun _ => answering_deleteTag

/-! ## Requests -/

theorem exists_reply {v : View} {o : Option Json} (status : Nat) (h : v.toJson? = .ok o) :
    ∃ reply, v.reply status = .ok reply ∧ reply.status = status := by
  rw [View.reply, h]
  cases o with
  | none => exact ⟨_, rfl, rfl⟩
  | some j => exact ⟨_, rfl, rfl⟩

/-- The answer to a login may fail on account of its token only. -/
theorem fit_login {d : Done} (hrun : run settings now s r .login = .ok d) (faults : List Fault) :
    d.view.reply d.status ≠ .error (.unfitAnswer faults) := by
  obtain ⟨fs, -, hlogin⟩ := withForm_ok hrun
  simp only [Users.login, bind_eq_ok, Except.ok.injEq] at hlogin
  obtain ⟨u, -, rfl⟩ := hlogin
  intro fault
  simp only [Done.changed, View.reply] at fault
  cases issued : Token.issue settings.secret now (some settings.tokenLifetime)
      (Users.claims u.username) with
  | error e =>
    rw [issued] at fault
    cases fault
  | ok token =>
    rw [issued] at fault
    cases fault

/-- A store that an endpoint leaves is sound again. -/
theorem sound_of_run {d : Done} (hs : Sound s) (hrun : run settings now s r e = .ok d) :
    Sound d.store := hs.effect (effect_of_run hrun)

/-- In every store that visits lead to, and whose addresses are normal forms of themselves, all rows
keep to the constraints on their answers. If this holds of the addresses after a request, too, then
the request does not fail because a record does not fit the form of its answer, and an endpoint that
is done and is no login is answered with its status of success. -/
theorem answers_fit (reach : Reachable settings s) (settled : s.tables.Settled) :
    s.tables.Fits ∧ ∀ (now : Instant) (r : Request),
      (handle settings now s r).1.tables.Settled →
      (∀ faults, (handle settings now s r).2.1 ≠ .error (.unfitAnswer faults)) ∧
      ∀ e d, Endpoint.route r.method r.path = .found e → e ≠ .login →
        run settings now s r e = .ok d → ∃ reply,
          (handle settings now s r).2.1 = .ok reply ∧ reply.status = d.status ∧ d.status < 400 := by
  have hs := reach.sound
  refine ⟨hs.valid.fits settled, fun now r after => ?_⟩
  -- What an endpoint that is no login shows can be shown, since it is in the store that it leaves.
  have shown : ∀ e d, Endpoint.route r.method r.path = .found e → e ≠ .login →
      run settings now s r e = .ok d → d.status < 400 ∧ ∃ o, d.view.toJson? = .ok o := by
    intro e d hroute other hrun
    obtain ⟨status, rows⟩ := run_answers hs reach.referenced other d hrun
    rw [(handle_of_run hroute hrun).1] at after
    exact ⟨status, View.toJson?_isOf (sound_of_run hs hrun).valid after rows⟩
  refine ⟨fun faults unfit => ?_, fun e d hroute other hrun => ?_⟩
  · obtain records | ⟨e, d, hroute, hrun, fault⟩ := handle_error hs reach.unique unfit
    · cases records
    · by_cases login : e = .login
      · subst login
        exact fit_login hrun faults fault
      · obtain ⟨-, o, ho⟩ := shown e d hroute login hrun
        rw [View.reply, ho] at fault
        cases fault
  · obtain ⟨success, o, ho⟩ := shown e d hroute other hrun
    obtain ⟨reply, hreply, status⟩ := exists_reply d.status ho
    exact ⟨reply, handle_reply hroute hrun hreply (status ▸ success), status, success⟩

/-- The addresses of the two users are normal forms of themselves. -/
theorem settled_blog : (blog [redPost, bothPost] blogLinks [wordOfBob]).tables.Settled := by
  intro u hu _ _
  have users : (blog [redPost, bothPost] blogLinks [wordOfBob]).tables.users = [ann ⟨0⟩, bob] := rfl
  rw [users] at hu
  rcases List.mem_cons.mp hu with rfl | hu
  · exact normalForm_ann ⟨0⟩
  · rw [List.mem_singleton.mp hu]
    exact normalForm_bob

/-- The second user asks for his own record, and gets it. -/
theorem bob_is_shown :
    (blog [redPost, bothPost] blogLinks [wordOfBob]).tables.Fits ∧
      (handle .default ⟨9⟩ (blog [redPost, bothPost] blogLinks [wordOfBob])
        (bearing "bob" (look "/api/users/me" ""))).1.tables.Settled ∧
      ∃ reply, (handle .default ⟨9⟩ (blog [redPost, bothPost] blogLinks [wordOfBob])
        (bearing "bob" (look "/api/users/me" ""))).2.1 = .ok reply ∧ reply.status = 200 := by
  have hroute : Endpoint.route (bearing "bob" (look "/api/users/me" "")).method
      (bearing "bob" (look "/api/users/me" "")).path = .found .showMe := by
    have hroute : Endpoint.route "GET" "/api/users/me" = .found .showMe := by decide +kernel
    exact hroute
  have called : caller .default ⟨9⟩ (blog [redPost, bothPost] blogLinks [wordOfBob])
      (bearing "bob" (look "/api/users/me" "")) = .ok bob := caller_bearing rfl _ (by decide)
  have hrun : run .default ⟨9⟩ (blog [redPost, bothPost] blogLinks [wordOfBob])
      (bearing "bob" (look "/api/users/me" "")) .showMe =
        .ok (Users.display (blog [redPost, bothPost] blogLinks [wordOfBob]) bob) := by
    rw [run, activeCaller, called]
    rfl
  have settled : (handle .default ⟨9⟩ (blog [redPost, bothPost] blogLinks [wordOfBob])
      (bearing "bob" (look "/api/users/me" ""))).1.tables.Settled := by
    rw [get_unchanged _ _ _ _ rfl]
    exact settled_blog
  obtain ⟨fits, answers⟩ := answers_fit reachable_blog settled_blog
  have other : Endpoint.showMe ≠ .login := by decide
  obtain ⟨reply, answered, status, -⟩ :=
    (answers ⟨9⟩ (bearing "bob" (look "/api/users/me" "")) settled).2 .showMe _ hroute other hrun
  exact ⟨fits, settled, reply, answered, status⟩

end Service

end Weblog
