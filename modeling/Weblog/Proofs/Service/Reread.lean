/-
  Answers to changes: what a request that wrote a row answers is what the row is shown as from then
  on, and it says what was submitted.

  A change shows the row that it wrote, and so does whoever asks for the row afterwards, since the
  object of a row depends on the tables alone. The texts in it are those of the submitted object, and
  where a change leaves something out, those that were there.
-/
import Weblog.Proofs.Service.Places
import Weblog.Proofs.Service.Revised

namespace Weblog

/-! ## Objects -/

/-- An object has a field with a text, or with null. -/
def Json.Tells (j : Json) (name : String) (o : Option String) : Prop :=
  j.field? name = some (Json.ofText? o)

section Objects

variable {form : Form} {fields rest : List (String × Json)} {f : Field} {j : Json}

/-- What an object shows under a name of its form is what was to be shown. -/
theorem tells_of_form (h : View.checked form fields rest = .ok j)
    (nodup : (form.fields.map (·.name)).Nodup) (hf : f ∈ form.fields) (other : f.type ≠ .email)
    {o : Option String} (given : fields.lookup f.name = some (Json.ofText? o)) :
    j.Tells f.name o := by
  unfold View.checked at h
  split at h
  · rename_i fs checked
    obtain rfl := Except.ok.inj h
    rw [Json.Tells, Json.field?, List.lookup_append,
      Fields.lookup_given checked nodup hf other, given]
    rfl
  · cases h

end Objects

/-- The object of a post says what its row says, and lists its tags. -/
theorem tells_of_postJson {v : PostView} {j : Json} (h : View.postJson v = .ok j) :
    j.Tells "title" v.post.title ∧ j.Tells "body" v.post.body ∧ j.Tells "id" (some v.post.id) ∧
      j.Tells "user_id" (some v.post.userId) ∧
      ∀ tag, j.listsText "tag_ids" tag = true ↔ tag ∈ v.tagIds := by
  have nodup : (Form.postAnswer.fields.map (·.name)).Nodup := by decide
  have title : Form.requiredText "title" Form.titleBounds ∈ Form.postAnswer.fields := by decide
  have body : Form.requiredText "body" .none ∈ Form.postAnswer.fields := by decide
  refine ⟨tells_of_form h nodup title (by decide) rfl, tells_of_form h nodup body (by decide) rfl,
    field?_of_checked h (by decide), field?_of_checked h (by decide), fun tag => ?_⟩
  have listed : j.field? "tag_ids" = some (.arr (v.tagIds.map .str)) :=
    field?_of_checked h (by decide)
  rw [Json.listsText, listed]
  simp [List.any_eq_true]

theorem tells_of_commentJson {c : CommentRow} {j : Json} (h : View.commentJson c = .ok j) :
    j.Tells "body" c.body ∧ j.Tells "id" (some c.id) ∧ j.Tells "post_id" (some c.postId) ∧
      j.Tells "user_id" (some c.userId) := by
  have nodup : (Form.commentAnswer.fields.map (·.name)).Nodup := by decide
  have body : Form.requiredText "body" .none ∈ Form.commentAnswer.fields := by decide
  exact ⟨tells_of_form h nodup body (by decide) rfl, field?_of_checked h (by decide),
    field?_of_checked h (by decide), field?_of_checked h (by decide)⟩

theorem comment_of_json {c : CommentRow} {o : Option Json} (h : (View.comment c).toJson? = .ok o) :
    ∃ j, View.commentJson c = .ok j ∧ some j = o := map_eq_ok.mp h

theorem tells_of_tagJson {g : TagRow} {j : Json} (h : View.tagJson g = .ok j) :
    j.Tells "name" (some g.name) ∧ j.Tells "description" g.description ∧ j.Tells "id" (some g.id) ∧
      j.Tells "user_id" (some g.userId) := by
  have nodup : (Form.tagAnswer.fields.map (·.name)).Nodup := by decide
  have name : Form.requiredText "name" Form.tagNameBounds ∈ Form.tagAnswer.fields := by decide
  have description : Form.optionalText "description" .none ∈ Form.tagAnswer.fields := by decide
  exact ⟨tells_of_form h nodup name (by decide) rfl,
    tells_of_form h nodup description (by decide) rfl,
    field?_of_checked h (by decide), field?_of_checked h (by decide)⟩

theorem tells_of_userJson {u : UserRow} {j : Json} (h : View.userJson u = .ok j) :
    j.Tells "username" (some u.username) ∧ j.Tells "bio" u.bio ∧ j.Tells "id" (some u.id) := by
  have nodup : (Form.userAnswer.fields.map (·.name)).Nodup := by decide
  have username : Form.requiredText "username" Form.usernameBounds ∈ Form.userAnswer.fields := by
    decide
  have bio : Form.optionalText "bio" .none ∈ Form.userAnswer.fields := by decide
  exact ⟨tells_of_form h nodup username (by decide) rfl, tells_of_form h nodup bio (by decide) rfl,
    field?_of_checked h (by decide)⟩

/-- Whether an endpoint writes a row and shows it, and the row can be looked at. -/
def Endpoint.isWriting : Endpoint → Bool
  | .createPost | .updatePost _ | .createComment _ | .updateComment _ _ | .createTag | .updateTag _
  | .updateMe => true
  | _ => false

/-- The name that is given becomes that of the tag. -/
theorem Tags.name_apply {f : Edit} {now : Instant} {g : TagRow} (full : f.name ≠ some "") :
    some (f.apply now g).name = f.name.or (some g.name) := by
  unfold Edit.apply Edit.newName?
  cases given : f.name with
  | none => rfl
  | some n =>
    have some : n ≠ "" := fun empty => full (given.trans (congrArg Option.some empty))
    by_cases same : n = g.name
    · simp [Option.filter, same]
    · simp [Option.filter, some, same]

/-- What a change of one's own record leaves and shows. -/
theorem Users.update_ok {s : Store} {u : UserRow} (hu : u ∈ s.tables.users) (bio : Option String) :
    ∃ t, update s u bio = Done.changed t (.user { u with bio := bio.or u.bio }) [] ∧
      { u with bio := bio.or u.bio } ∈ t.tables.users := by
  cases bio with
  | none => exact ⟨s, rfl, hu⟩
  | some b => exact ⟨_, rfl, Service.mem_put UserRow.id { u with bio := some b } hu⟩

namespace Service

variable {settings : Settings} {now later : Instant} {s : Store} {r g : Request} {e e' : Endpoint}
  {d : Done} {u : UserRow} {id postId : String}

/-- What the answer to a change says, of the tables before, the caller, and the submitted object. -/
def Answered (t : Tables) (u : UserRow) (fields : Fields) (j : Json) : Endpoint → Prop
  | .createPost =>
    j.Tells "title" (fields.text? "title") ∧ j.Tells "body" (fields.text? "body") ∧
      j.Tells "user_id" (some u.id) ∧
      ∀ tag, j.listsText "tag_ids" tag = true ↔ tag ∈ (fields.texts? "tag_ids").getD []
  | .updatePost id => ∃ p, t.post? id = some p ∧
      j.Tells "title" ((fields.text? "title").or p.title) ∧
      j.Tells "body" ((fields.text? "body").or p.body) ∧ j.Tells "user_id" (some u.id) ∧
      ∀ tag, j.listsText "tag_ids" tag = true ↔
        tag ∈ (fields.texts? "tag_ids").getD ((t.tagsOf id).map (·.id))
  | .createComment postId | .updateComment postId _ =>
    j.Tells "body" (fields.text? "body") ∧ j.Tells "post_id" (some postId) ∧
      j.Tells "user_id" (some u.id)
  | .createTag =>
    j.Tells "name" (fields.text? "name") ∧ j.Tells "description" (fields.text? "description") ∧
      j.Tells "user_id" (some u.id)
  | .updateTag id => ∃ g, t.tag? id = some g ∧
      j.Tells "name" ((fields.text? "name").or (some g.name)) ∧
      j.Tells "description" ((fields.text? "description").or g.description) ∧
      j.Tells "user_id" (some u.id)
  | .updateMe =>
    j.Tells "username" (some u.username) ∧ j.Tells "bio" ((fields.text? "bio").or u.bio) ∧
      j.Tells "id" (some u.id)
  | _ => False

/-! ## Shown again -/

/-- What can be shown is all that is answered with success. -/
theorem toJson?_of_success (hroute : Endpoint.route r.method r.path = .found e)
    (hrun : run settings now s r e = .ok d)
    (success : statusOf (handle settings now s r).2.1 < 300) : ∃ o, d.view.toJson? = .ok o := by
  rw [(handle_of_run hroute hrun).2] at success
  cases shown : d.view.toJson? with
  | ok o => exact ⟨o, rfl⟩
  | error escape =>
    rw [View.reply, shown] at success
    exact absurd success (by show ¬500 < 300; decide)

/-- What an endpoint shows is answered, and whoever is shown the same by the store that it leaves is
answered the same. -/
theorem answered_and_shown {j : Json} (hroute : Endpoint.route r.method r.path = .found e)
    (hrun : run settings now s r e = .ok d) (shown : d.view.toJson? = .ok (some j))
    (status : d.status < 400) :
    (handle settings now s r).2.1 = .ok (Reply.json d.status [] j) ∧
      ∀ later g e', Endpoint.route g.method g.path = .found e' →
        run settings later d.store g e' = .ok (Done.read d.store d.view) →
        Shows settings later (handle settings now s r).1 g j := by
  have reply : d.view.reply d.status = .ok (Reply.json d.status [] j) := by
    rw [View.reply, shown]
    rfl
  refine ⟨handle_reply hroute hrun reply status, fun later g e' hroute' hrun' => ?_⟩
  rw [(handle_of_run hroute hrun).1]
  exact shows_of_run hroute' hrun' shown

theorem run_showPost {p : PostRow} (found : s.tables.post? id = some p) :
    run settings now s r (.showPost id) = .ok (Done.read s (.post (s.tables.view p))) := by
  rw [run, Posts.display, Posts.find_eq_ok.mpr found]
  rfl

theorem run_showComment {p : PostRow} {c : CommentRow} (post : s.tables.post? postId = some p)
    (found : Comments.find s.tables postId id = .ok c) :
    run settings now s r (.showComment postId id) = .ok (Done.read s (.comment c)) := by
  rw [run, Comments.display, Posts.find_eq_ok.mpr post, found]
  rfl

theorem run_showTag {t : TagRow} (found : s.tables.tag? id = some t) :
    run settings now s r (.showTag id) = .ok (Done.read s (.tag t)) := by
  rw [run, Tags.display, show Tags.find s.tables id = .ok t from orRefuse_eq_ok.mpr found]
  rfl

/-! ## Changes -/

/-- The answer to a change: it shows what was submitted, and the row that was written is shown like
that from then on, to anyone, and one's own record to the user whose it is. -/
structure Reread (settings : Settings) (now : Instant) (s : Store) (r : Request) (e : Endpoint)
    (u : UserRow) (fields : Fields) (j : Json) (id : String) : Prop where
  called : caller settings now s r = .ok u
  submits : Submission.read r = .ok (.value (.obj fields))
  answer : (handle settings now s r).2.1 =
    .ok (Reply.json (if e.method = "POST" then 201 else 200) [] j)
  identified : j.Tells "id" (some id)
  tells : Answered s.tables u fields j e
  shown : ∀ later g, g.method = "GET" → g.path = e.place id →
    (e = .updateMe → ∃ v, activeCaller settings later (handle settings now s r).1 g = .ok v ∧
      v.id = u.id) →
    Shows settings later (handle settings now s r).1 g j

/-- What is to be proved of an endpoint that succeeds, besides that it is its caller who submits what
he does: that it shows what was submitted, and that it is shown again. -/
theorem reread_of_run {fields : Fields} (id : String)
    (hroute : Endpoint.route r.method r.path = .found e)
    (success : statusOf (handle settings now s r).2.1 < 300) (hrun : run settings now s r e = .ok d)
    (called : caller settings now s r = .ok u)
    (submits : Submission.read r = .ok (.value (.obj fields)))
    (status : d.status = if e.method = "POST" then 201 else 200)
    (shown : ∀ o, d.view.toJson? = .ok o →
      ∃ j, o = some j ∧ j.Tells "id" (some id) ∧ Answered s.tables u fields j e)
    (again : ∀ later g, g.method = "GET" → g.path = e.place id →
      (e = .updateMe → ∃ v, activeCaller settings later d.store g = .ok v ∧ v.id = u.id) →
      ∃ e', Endpoint.route g.method g.path = .found e' ∧
        run settings later d.store g e' = .ok (Done.read d.store d.view)) :
    ∃ u fields j id, Reread settings now s r e u fields j id := by
  obtain ⟨o, json⟩ := toJson?_of_success hroute hrun success
  obtain ⟨j, rfl, own, tells⟩ := shown o json
  have below : d.status < 400 := by
    rw [status]
    split <;> decide
  have left := (handle_of_run hroute hrun).1
  obtain ⟨answer, looks⟩ := answered_and_shown hroute hrun json below
  refine ⟨u, fields, j, id, called, submits, status ▸ answer, own, tells, ?_⟩
  intro later g get path mine
  obtain ⟨e', hroute', hrun'⟩ := again later g get path (left ▸ mine)
  exact looks later g e' hroute' hrun'

/-- The store that an endpoint leaves when a request succeeds. -/
theorem exists_left (reach : Reachable settings s)
    (hroute : Endpoint.route r.method r.path = .found e)
    (success : statusOf (handle settings now s r).2.1 < 300) :
    ∃ d, run settings now s r e = .ok d ∧ Reachable settings d.store := by
  obtain ⟨d, hrun⟩ := run_of_success hroute (Nat.lt_trans success (by decide))
  have after := reach.visit ⟨now, r⟩
  rw [visit_mk, (handle_of_run hroute hrun).1] at after
  exact ⟨d, hrun, after⟩

/-- A post is looked at under its path. -/
theorem looks_at_post (hs : Sound s) {p : PostRow} (hp : p ∈ s.tables.posts) (get : g.method = "GET")
    (path : g.path = "/api/posts/" ++ p.id) :
    ∃ e, Endpoint.route g.method g.path = .found e ∧
      run settings later s g e = .ok (Done.read s (.post (s.tables.view p))) := by
  obtain ⟨n, -, numbered⟩ := hs.posts.numbered p hp
  have numbered : p.id = Kind.post.identifier n := numbered
  refine ⟨.showPost p.id, ?_, run_showPost (hs.posts.find?_of_mem hp)⟩
  rw [get, path, numbered]
  exact Endpoint.route_showPost n

theorem looks_at_comment (hs : Sound s) {p : PostRow} {c : CommentRow} (hp : p ∈ s.tables.posts)
    (hc : c ∈ s.tables.comments) (on : c.postId = p.id) (get : g.method = "GET")
    (path : g.path = "/api/posts/" ++ p.id ++ "/comments/" ++ c.id) :
    ∃ e, Endpoint.route g.method g.path = .found e ∧
      run settings later s g e = .ok (Done.read s (.comment c)) := by
  obtain ⟨m, -, numberedPost⟩ := hs.posts.numbered p hp
  obtain ⟨n, -, numbered⟩ := hs.comments.numbered c hc
  have numberedPost : p.id = Kind.post.identifier m := numberedPost
  have numbered : c.id = Kind.comment.identifier n := numbered
  refine ⟨.showComment p.id c.id, ?_, run_showComment (hs.posts.find?_of_mem hp)
    ((Comments.find_eq_ok hs.comments.distinct).mpr ⟨hc, rfl, on⟩)⟩
  rw [get, path, numberedPost, numbered]
  exact Endpoint.route_showComment m n

theorem looks_at_tag (hs : Sound s) {t : TagRow} (ht : t ∈ s.tables.tags) (get : g.method = "GET")
    (path : g.path = "/api/tags/" ++ t.id) :
    ∃ e, Endpoint.route g.method g.path = .found e ∧
      run settings later s g e = .ok (Done.read s (.tag t)) := by
  obtain ⟨n, -, numbered⟩ := hs.tags.numbered t ht
  have numbered : t.id = Kind.tag.identifier n := numbered
  refine ⟨.showTag t.id, ?_, run_showTag (hs.tags.find?_of_mem ht)⟩
  rw [get, path, numbered]
  exact Endpoint.route_showTag n

/-- The tags that are shown with a post are those that it was given. -/
theorem mem_shown_tags {t : Tables} (referenced : t.Referenced) {tag : String} :
    tag ∈ (t.tagsOf id).map (·.id) ↔ (⟨id, tag⟩ : Link) ∈ t.links :=
  (Tables.mem_tagsOf_ids referenced).trans Tables.carries_iff

variable (reach : Reachable settings s) (success : statusOf (handle settings now s r).2.1 < 300)

include reach success

theorem reread_createPost (hroute : Endpoint.route r.method r.path = .found .createPost) :
    ∃ u fields j id, Reread settings now s r .createPost u fields j id := by
  obtain ⟨d, hrun, after⟩ := exists_left reach hroute success
  obtain ⟨u, fs, called, form, h⟩ := withBoth_ok hrun
  obtain ⟨fields, submits, checked⟩ := read_of_submitted form
  obtain ⟨tags, t, loaded, ht, rfl⟩ := Posts.create_ok h
  have there : (Posts.Draft.ofFields fs).row s now u ∈ t.tables.posts := by
    rw [ht]
    exact List.mem_concat_self
  refine reread_of_run _ hroute success hrun called submits rfl (fun o json => ?_)
    fun later g get path _ => looks_at_post after.sound there get path
  obtain ⟨j, object, rfl⟩ := map_eq_ok.mp json
  obtain ⟨title, body, own, owner, listed⟩ := tells_of_postJson object
  obtain ⟨givenTitle, givenBody, givenTags⟩ := draft_given checked
  refine ⟨j, rfl, own, givenTitle ▸ title, givenBody ▸ body, owner, fun tag => ?_⟩
  have linked : (⟨((Posts.Draft.ofFields fs).row s now u).id, tag⟩ : Link) ∈ t.tables.links ↔
      tag ∈ (fs.texts? "tag_ids").getD [] := by
    rw [ht]
    refine Tables.mem_links_setTags.trans ?_
    rw [if_pos rfl, Posts.ids_of_loadTags loaded, List.mem_eraseDups]
    rfl
  rw [listed, givenTags]
  exact (mem_shown_tags after.referenced).trans linked

theorem reread_updatePost (hroute : Endpoint.route r.method r.path = .found (.updatePost id)) :
    ∃ u fields j id', Reread settings now s r (.updatePost id) u fields j id' := by
  obtain ⟨d, hrun, after⟩ := exists_left reach hroute success
  obtain ⟨u, fs, called, form, h⟩ := withBoth_ok hrun
  obtain ⟨fields, submits, checked⟩ := read_of_submitted form
  rw [edit_given checked] at h
  obtain ⟨p, found, hown, rfl⟩ := Posts.update_ok h
  obtain rfl : p.id = id := Tables.post?_id found
  have there : Posts.Edit.write (.ofFields fields) now p p ∈
      (Posts.Edit.applied (.ofFields fields) now p s.tables).posts :=
    Tables.post?_mem (Posts.post?_applied found)
  refine reread_of_run _ hroute success hrun called submits rfl (fun o json => ?_)
    fun later g get path _ => looks_at_post after.sound there get path
  obtain ⟨j, object, rfl⟩ := map_eq_ok.mp json
  obtain ⟨title, body, own, owner, listed⟩ := tells_of_postJson object
  have title : j.Tells "title" ((Posts.Edit.ofFields fields).write now p p).title := title
  have body : j.Tells "body" ((Posts.Edit.ofFields fields).write now p p).body := body
  rw [write_title] at title
  rw [write_body] at body
  refine ⟨j, rfl, own, p, found, title, body, hown ▸ owner,
    fun tag => (listed tag).trans ((mem_shown_tags after.referenced).trans ?_)⟩
  have linked := Posts.links_applied (.ofFields fields) now p s.tables
  have given : (Posts.Edit.ofFields fields).tagIds = Fields.texts? fields "tag_ids" := rfl
  rw [given] at linked
  show (⟨p.id, tag⟩ : Link) ∈ (Posts.Edit.applied (.ofFields fields) now p s.tables).links ↔ _
  rw [linked]
  cases Fields.texts? fields "tag_ids" with
  | none => exact (mem_shown_tags reach.referenced).symm
  | some ids =>
    refine Tables.mem_links_setTags.trans ?_
    rw [if_pos rfl, List.mem_eraseDups, Option.getD_some]

theorem reread_createComment
    (hroute : Endpoint.route r.method r.path = .found (.createComment postId)) :
    ∃ u fields j id, Reread settings now s r (.createComment postId) u fields j id := by
  obtain ⟨d, hrun, after⟩ := exists_left reach hroute success
  obtain ⟨u, fs, called, form, h⟩ := withBoth_ok hrun
  obtain ⟨fields, submits, checked⟩ := read_of_submitted form
  obtain ⟨p, found, -, rfl⟩ := Comments.create_ok h
  obtain rfl : p.id = postId := Tables.post?_id found
  have there : Comments.row s now u p.id (fs.text "body") ∈
      (s.tables.addComment (Comments.row s now u p.id (fs.text "body"))).comments :=
    List.mem_concat_self
  refine reread_of_run _ hroute success hrun called submits rfl (fun o json => ?_)
    fun later g get path _ =>
      looks_at_comment after.sound (Tables.post?_mem found) there rfl get path
  obtain ⟨j, object, rfl⟩ := comment_of_json json
  obtain ⟨body, own, post, owner⟩ := tells_of_commentJson object
  exact ⟨j, rfl, own, word_given checked ▸ body, post, owner⟩

theorem reread_updateComment
    (hroute : Endpoint.route r.method r.path = .found (.updateComment postId id)) :
    ∃ u fields j id', Reread settings now s r (.updateComment postId id) u fields j id' := by
  obtain ⟨d, hrun, after⟩ := exists_left reach hroute success
  obtain ⟨u, fs, called, form, h⟩ := withBoth_ok hrun
  obtain ⟨fields, submits, checked⟩ := read_of_submitted form
  obtain ⟨p, c, found, foundHere, hown, rfl⟩ := Comments.update_ok h
  obtain rfl : p.id = postId := Tables.post?_id found
  obtain ⟨hc, rfl, on⟩ := (Comments.find_eq_ok reach.sound.comments.distinct).mp foundHere
  have there : Comments.revised now c (fs.text "body") ∈
      (s.tables.setComment c.id (Comments.revised now c (fs.text "body"))).comments :=
    mem_put CommentRow.id _ hc
  refine reread_of_run _ hroute success hrun called submits rfl (fun o json => ?_)
    fun later g get path _ =>
      looks_at_comment after.sound (Tables.post?_mem found) there on get path
  obtain ⟨j, object, rfl⟩ := comment_of_json json
  obtain ⟨body, own, post, owner⟩ := tells_of_commentJson object
  exact ⟨j, rfl, own, word_given checked ▸ body, on ▸ post, hown ▸ owner⟩

theorem reread_createTag (hroute : Endpoint.route r.method r.path = .found .createTag) :
    ∃ u fields j id, Reread settings now s r .createTag u fields j id := by
  obtain ⟨d, hrun, after⟩ := exists_left reach hroute success
  obtain ⟨u, fs, called, form, h⟩ := withBoth_ok hrun
  obtain ⟨fields, submits, checked⟩ := read_of_submitted form
  obtain ⟨-, rfl⟩ := Tags.create_ok h
  have there : Tags.row s now u (fs.text "name") (fs.text? "description") ∈
      (s.tables.addTag (Tags.row s now u (fs.text "name") (fs.text? "description"))).tags :=
    List.mem_concat_self
  refine reread_of_run _ hroute success hrun called submits rfl (fun o json => ?_)
    fun later g get path _ => looks_at_tag after.sound there get path
  obtain ⟨j, object, rfl⟩ := map_eq_ok.mp json
  obtain ⟨name, description, own, owner⟩ := tells_of_tagJson object
  obtain ⟨givenName, givenDescription⟩ := tag_given checked
  exact ⟨j, rfl, own, givenName ▸ name, givenDescription ▸ description, owner⟩

theorem reread_updateTag (hroute : Endpoint.route r.method r.path = .found (.updateTag id)) :
    ∃ u fields j id', Reread settings now s r (.updateTag id) u fields j id' := by
  obtain ⟨d, hrun, after⟩ := exists_left reach hroute success
  obtain ⟨u, fs, called, form, h⟩ := withBoth_ok hrun
  obtain ⟨fields, submits, checked⟩ := read_of_submitted form
  obtain ⟨givenEdit, bounded⟩ := tagEdit_given checked
  rw [givenEdit] at h
  obtain ⟨t, found, hown, rfl⟩ := Tags.update_ok h
  have ht := List.mem_of_find?_eq_some found
  obtain rfl : t.id = id := by simpa using List.find?_some found
  have there : (Tags.Edit.ofFields fields).apply now t ∈
      (s.tables.setTag t.id ((Tags.Edit.ofFields fields).apply now t)).tags :=
    mem_put TagRow.id _ ht
  refine reread_of_run _ hroute success hrun called submits rfl (fun o json => ?_)
    fun later g get path _ => looks_at_tag after.sound there get path
  obtain ⟨j, object, rfl⟩ := map_eq_ok.mp json
  obtain ⟨name, description, own, owner⟩ := tells_of_tagJson object
  rw [Tags.name_apply bounded] at name
  exact ⟨j, rfl, own, t, found, name, description, hown ▸ owner⟩

theorem reread_updateMe (hroute : Endpoint.route r.method r.path = .found .updateMe) :
    ∃ u fields j id, Reread settings now s r .updateMe u fields j id := by
  obtain ⟨d, hrun, after⟩ := exists_left reach hroute success
  have opened := hrun
  simp only [run, bind_eq_ok, Except.ok.injEq] at opened
  obtain ⟨b, hread, u, hu, fs, hcheck, hd⟩ := opened
  have called := activeCaller_ok hu
  have form : submitted .userUpdate r = .ok fs := by simp [submitted, hread, hcheck]
  obtain ⟨fields, submits, checked⟩ := read_of_submitted form
  rw [bio_given checked] at hd
  obtain ⟨t, changed, there⟩ := Users.update_ok (mem_of_caller called) (Fields.text? fields "bio")
  obtain rfl := changed.symm.trans hd
  refine reread_of_run u.id hroute success hrun called submits rfl (fun o json => ?_)
    fun later g get path mine => ?_
  · obtain ⟨j, object, rfl⟩ := map_eq_ok.mp json
    obtain ⟨username, bio, own⟩ := tells_of_userJson object
    exact ⟨j, rfl, own, username, bio, own⟩
  · obtain ⟨v, active, same⟩ := mine rfl
    have hv := mem_of_caller (activeCaller_ok active)
    obtain rfl := after.sound.users.eq_of_id hv there same
    have hroute' : Endpoint.route "GET" "/api/users/me" = .found .showMe := by decide
    refine ⟨.showMe, by rw [get, path]; exact hroute', ?_⟩
    rw [run, active]
    rfl

omit success in
/-- In every store that visits lead to, a request that writes a post, a comment, a tag or what its
caller says about himself, and is answered with success, is answered with an object that the row is
shown as from then on. The object has the texts that were submitted as they are, and those that were
there where none is submitted; and its owner is the caller. -/
theorem answer_reread (now : Instant) (r : Request)
    (hroute : Endpoint.route r.method r.path = .found e) (writes : e.isWriting = true)
    (success : statusOf (handle settings now s r).2.1 < 300) :
    ∃ u fields j id, Reread settings now s r e u fields j id := by
  cases e with
  | createPost => exact reread_createPost reach success hroute
  | updatePost id => exact reread_updatePost reach success hroute
  | createComment postId => exact reread_createComment reach success hroute
  | updateComment postId id => exact reread_updateComment reach success hroute
  | createTag => exact reread_createTag reach success hroute
  | updateTag id => exact reread_updateTag reach success hroute
  | updateMe => exact reread_updateMe reach success hroute
  | _ => cases writes

omit reach success in
/-- A post gets another title and other tags, and is shown with them. -/
theorem retag_reread : Reachable .default blogged ∧
    Endpoint.route (retag ["tag-2"]).method (retag ["tag-2"]).path =
      .found (.updatePost bothPost.id) ∧
    statusOf (handle .default ⟨4⟩ blogged (retag ["tag-2"])).2.1 < 300 ∧
    ∃ u fields j id,
      Reread .default ⟨4⟩ blogged (retag ["tag-2"]) (.updatePost bothPost.id) u fields j id := by
  have success : statusOf (handle .default ⟨4⟩ blogged (retag ["tag-2"])).2.1 < 300 := by
    rw [done_retag [tagOfAnn 2 "blue"] (by decide +kernel) (by decide +kernel)]
    decide
  exact ⟨reachable_blog, route_retag _, success,
    answer_reread reachable_blog ⟨4⟩ _ (route_retag _) rfl success⟩

end Service

end Weblog
