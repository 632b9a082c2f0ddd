/-
  Requests that bear a token: the caller is the user of that name, and what a well-formed request
  adds is its row.

  The token is written down as what a login on 1 January 1970 gives, so that nothing has to be
  computed to see whose it is.
-/
import Weblog.Proofs.Service.Login
import Weblog.Proofs.Service.Refused

namespace Weblog.Service

variable {settings : Settings} {now : Instant} {s : Store} {r : Request} {e : Endpoint} {form : Form}
  {fs : Fields} {u : UserRow} {name : String}

/-! ## Tokens -/

/-- The token of a user who logged in when time began. -/
def weekToken (name : String) : String :=
  Token.sign Settings.default.secret (.obj (Json.put (Users.claims name) "exp"
    (.int (Instant.later ⟨0⟩ week).second)))

/-- A request on behalf of a user. -/
def bearing (name : String) (r : Request) : Request :=
  { r with authorization := some ("Bearer " ++ weekToken name) }

theorem issue_weekToken (name : String) :
    Token.issue Settings.default.secret ⟨0⟩ (some week) (Users.claims name) =
      .ok (weekToken name) := by
  have span : Span.check week = .ok () := by decide
  have calendar : (Instant.later ⟨0⟩ week).isRepresentable = true := by decide
  exact Token.issue_eq_ok span calendar (Token.checkWrite_claims name calendar)

/-- For a week, a token stands for the user of its name. -/
theorem caller_bearing (known : s.tables.userNamed? name = some u) (r : Request)
    (early : now.second ≤ (Instant.later ⟨0⟩ week).second) :
    caller .default now s (bearing name r) = .ok u := by
  have presents : Caller.token? (bearing name r).authorization = some (weekToken name) :=
    Caller.token?_bearer fun c hc => Token.isBlankChar_of_mem_sign hc
  have lifetime : Token.lifetimeOr (some week) = week := by decide
  rw [caller, Caller.ofHeader, presents]
  simp only [Caller.ofToken, Token.subject_issue (issue_weekToken name), lifetime]
  rw [if_pos early]
  simp only [known, orRefuse]

/-! ## Written rows -/

theorem withCaller_of_called {act : UserRow → Except Failure Done}
    (called : caller settings now s r = .ok u) : withCaller settings now s r act = act u := by
  rw [withCaller, called, bind_ok]

theorem withBoth_of_submitted {act : UserRow → Fields → Except Failure Done}
    (called : caller settings now s r = .ok u) (h : submitted form r = .ok fs) :
    withBoth settings now s form r act = act u fs := by
  simp only [submitted, bind_eq_ok] at h
  obtain ⟨b, hread, hcheck⟩ := h
  simp only [withBoth, hread, called, hcheck, bind_ok]

/-- A tag with a free name is written. -/
theorem handle_createTag (hs : Sound s)
    (hroute : Endpoint.route r.method r.path = .found .createTag)
    (called : caller settings now s r = .ok u) (form : submitted .tagCreate r = .ok fs)
    (nameFree : s.tables.tagNamed? (fs.text "name") = none)
    (named : Text.isBlank (fs.text "name") = false) :
    (handle settings now s r).1 = (s.nextId .tag).2.change
      (·.addTag (Tags.row s now u (fs.text "name") (fs.text? "description"))) := by
  have idFree : s.tables.tag? (s.nextId .tag).1 = none := hs.tags.find?_next
  have known := Store.knowsUser_of_mem (id_of_caller called)
  have hrun : Tags.create s now u (fs.text "name") (fs.text? "description") =
      .ok (Done.created ((s.nextId .tag).2.change
        (·.addTag (Tags.row s now u (fs.text "name") (fs.text? "description"))))
        (.tag (Tags.row s now u (fs.text "name") (fs.text? "description"))) []) := by
    simp only [Tags.create, bind_eq_ok, commit_eq_ok, Tags.checkFree_eq_ok, Tags.checkName_eq_ok,
      Store.addTag_eq_ok]
    exact ⟨(), nameFree, (), named, _, ⟨nameFree, idFree, known, rfl⟩, rfl⟩
  exact (handle_of_run hroute ((withBoth_of_submitted called form).trans hrun)).1

/-- A post with tags that are there is written with its document. -/
theorem handle_createPost (hs : Sound s)
    (hroute : Endpoint.route r.method r.path = .found .createPost)
    (called : caller settings now s r = .ok u) (form : submitted .postCreate r = .ok fs)
    {f : Posts.Draft} (filled : .ofFields fs = f) {tags : List TagRow}
    (loaded : Posts.loadTags s.tables.tags f.tagIds = .ok tags)
    (titled : Text.isBlank f.title = false) (bodied : Text.isBlank f.body = false) :
    (handle settings now s r).1 = (s.nextId .post).2.change fun t =>
      (t.addPost (f.row s now u)).setTags (f.row s now u).id (tags.map (·.id)) := by
  subst filled
  have idFree : s.tables.post? (s.nextId .post).1 = none := hs.posts.find?_next
  have known := Store.knowsUser_of_mem (id_of_caller called)
  have hrun : ∃ d, Posts.create s now u (.ofFields fs) = .ok d ∧
      d.store = (s.nextId .post).2.change fun t =>
        (t.addPost ((Posts.Draft.ofFields fs).row s now u)).setTags
          ((Posts.Draft.ofFields fs).row s now u).id (tags.map (·.id)) := by
    simp only [Posts.create, bind_eq_ok, commit_eq_ok, Posts.checkTexts_eq_ok, Store.addPost_eq_ok]
    refine ⟨_, ⟨tags, loaded, (), ⟨titled, bodied⟩, _, ⟨idFree, known, rfl⟩, _, ?_, rfl⟩, rfl⟩
    exact setTags_loaded (List.mem_map_of_mem List.mem_concat_self) rfl loaded
  obtain ⟨d, hrun, left⟩ := hrun
  exact (handle_of_run hroute ((withBoth_of_submitted called form).trans hrun)).1.trans left

/-- A comment on a post that is there is written. -/
theorem handle_createComment (hs : Sound s) {p : PostRow}
    (hroute : Endpoint.route r.method r.path = .found (.createComment p.id))
    (called : caller settings now s r = .ok u) (form : submitted .commentCreate r = .ok fs)
    (there : p ∈ s.tables.posts) (bodied : Text.isBlank (fs.text "body") = false) :
    (handle settings now s r).1 = (s.nextId .comment).2.change
      (·.addComment (Comments.row s now u p.id (fs.text "body"))) := by
  have idFree : s.tables.comment? (s.nextId .comment).1 = none := hs.comments.find?_next
  have found : s.tables.post? p.id = some p := hs.posts.find?_of_mem there
  have known := Store.knowsUser_of_mem (id_of_caller called)
  have hrun : ∃ d, Comments.create s now u p.id (fs.text "body") = .ok d ∧
      d.store = (s.nextId .comment).2.change
        (·.addComment (Comments.row s now u p.id (fs.text "body"))) := by
    simp only [Comments.create, Posts.find, bind_eq_ok, orRefuse_eq_ok, commit_eq_ok,
      Comments.checkBody_eq_ok, Store.addComment_eq_ok]
    exact ⟨_, ⟨p, found, (), bodied, _, ⟨idFree, known, rfl⟩, rfl⟩, rfl⟩
  obtain ⟨d, hrun, left⟩ := hrun
  exact (handle_of_run hroute ((withBoth_of_submitted called form).trans hrun)).1.trans left

/-! ## A post of the first user -/

def writing (title body : String) : Request :=
  bearing "ann" (send "POST" "/api/posts" (.obj [("title", .str title), ("body", .str body)]))

def writtenPost (title body : String) : PostRow :=
  ⟨Kind.post.identifier 1, (ann ⟨0⟩).id, some title, some body, ⟨0⟩, ⟨0⟩⟩

/-- The store in which the first user has written a post. -/
def written (title body : String) : Store :=
  ⟨{ Tables.empty with
      users := [ann ⟨0⟩], posts := [writtenPost title body],
      documents := [(writtenPost title body).document] },
    ⟨1, 1, 0, 0⟩, false⟩

theorem visit_writing {title body : String}
    (filled : (submitted .postCreate (writing title body)).toOption.map Posts.Draft.ofFields =
      some ⟨title, body, []⟩)
    (titled : Text.isBlank title = false) (bodied : Text.isBlank body = false) :
    visit .default (signedUp false ⟨0⟩) ⟨⟨0⟩, writing title body⟩ = written title body := by
  obtain ⟨fs, form, filled⟩ := Option.map_eq_some_iff.mp filled
  have hroute : Endpoint.route (writing title body).method (writing title body).path =
      .found .createPost := by
    change Endpoint.route "POST" "/api/posts" = .found .createPost
    decide
  have called : caller .default ⟨0⟩ (signedUp false ⟨0⟩) (writing title body) = .ok (ann ⟨0⟩) :=
    caller_bearing rfl _ (by decide)
  have sound := (reachable_signedUp .default false ⟨0⟩).sound
  rw [visit_mk, handle_createPost sound hroute called (ok_of_toOption form) filled rfl titled bodied]
  rfl

theorem reachable_written {title body : String}
    (filled : (submitted .postCreate (writing title body)).toOption.map Posts.Draft.ofFields =
      some ⟨title, body, []⟩)
    (titled : Text.isBlank title = false) (bodied : Text.isBlank body = false) :
    Reachable .default (written title body) :=
  visit_writing filled titled bodied ▸
    (reachable_signedUp .default false ⟨0⟩).visit ⟨⟨0⟩, writing title body⟩

/-! ## A post with a comment -/

def annPost : PostRow :=
  ⟨Kind.post.identifier 1, (ann ⟨0⟩).id, some "A title", some "A body", ⟨0⟩, ⟨0⟩⟩

theorem id_annPost : annPost.id = "post-1" := by
  show "post-" ++ String.ofList (Number.digits 1) = "post-1"
  rw [Number.digits]
  rfl

def annComment : CommentRow :=
  ⟨Kind.comment.identifier 1, annPost.id, (ann ⟨0⟩).id, some "A word", ⟨0⟩, ⟨0⟩⟩

/-- The store in which the first user has written a post, and comments on it. -/
def posted (comments : List CommentRow) : Store :=
  ⟨{ Tables.empty with
      users := [ann ⟨0⟩], posts := [annPost], documents := [annPost.document],
      comments := comments },
    ⟨1, 1, comments.length, 0⟩, false⟩

def writePost : Request :=
  bearing "ann" (send "POST" "/api/posts" (.obj [("title", .str "A title"), ("body", .str "A body")]))

def writeComment : Request :=
  bearing "ann" (send "POST" "/api/posts/post-1/comments" (.obj [("body", .str "A word")]))

theorem visit_writePost : visit .default (signedUp false ⟨0⟩) ⟨⟨0⟩, writePost⟩ = posted [] :=
  visit_writing (by decide +kernel) (by decide) (by decide)

theorem visit_writeComment : visit .default (posted []) ⟨⟨0⟩, writeComment⟩ = posted [annComment] := by
  have hroute : Endpoint.route writeComment.method writeComment.path =
      .found (.createComment annPost.id) := by
    rw [id_annPost]
    decide
  have form : (submitted .commentCreate writeComment).toOption = some [("body", .str "A word")] := by
    decide +kernel
  have called : caller .default ⟨0⟩ (posted []) writeComment = .ok (ann ⟨0⟩) :=
    caller_bearing rfl _ (by decide)
  have sound : Sound (posted []) :=
    visit_writePost ▸ ((reachable_signedUp .default false ⟨0⟩).visit ⟨⟨0⟩, writePost⟩).sound
  rw [visit_mk, handle_createComment sound hroute called (ok_of_toOption form) List.mem_cons_self
    (by decide)]
  rfl

theorem reachable_posted : Reachable .default (posted [annComment]) := by
  have written := (reachable_signedUp .default false ⟨0⟩).visit ⟨⟨0⟩, writePost⟩
  rw [visit_writePost] at written
  exact visit_writeComment ▸ written.visit ⟨⟨0⟩, writeComment⟩

end Weblog.Service
