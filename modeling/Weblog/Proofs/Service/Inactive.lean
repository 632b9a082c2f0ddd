/-
  Inactive users: where it is looked at whether a user is active.

  Only the two endpoints of one's own record look at it. To all others an inactive user is as good
  as an active one. This is said by a switch that makes all users active (`Store.reactivated`): there
  is one lemma for each function that takes a store, which says that the function commutes with the
  switch, and hence a request is answered alike and leaves the same rows (`handle_reactivated`). Of a
  caller these functions take the identifier and the name, which the switch leaves alone.
-/
import Weblog.Proofs.Service.Bearer

namespace Weblog

/-- Whether an endpoint is about one's own record. -/
def Endpoint.isOwnRecord : Endpoint → Bool
  | .showMe | .updateMe => true
  | _ => false

/-! ## The switch -/

def UserRow.reactivated (u : UserRow) : UserRow := { u with isActive := true }

def Tables.reactivated (t : Tables) : Tables := { t with users := t.users.map (·.reactivated) }

/-- The store with all users active. -/
def Store.reactivated (s : Store) : Store := { s with tables := s.tables.reactivated }

def Done.reactivated (d : Done) : Done := { d with store := d.store.reactivated }

namespace Tables

variable {t : Tables} {id name email : String}

/-- A user is found by what the switch leaves alone. -/
theorem user?_reactivated : t.reactivated.user? id = (t.user? id).map (·.reactivated) :=
  List.find?_map

theorem userNamed?_reactivated :
    t.reactivated.userNamed? name = (t.userNamed? name).map (·.reactivated) := List.find?_map

theorem userMailed?_reactivated :
    t.reactivated.userMailed? email = (t.userMailed? email).map (·.reactivated) := List.find?_map

theorem addUser_reactivated {u : UserRow} (active : u.isActive = true) :
    t.reactivated.addUser u = (t.addUser u).reactivated := by
  have same : u.reactivated = u := by rw [UserRow.reactivated, ← active]
  rw [addUser, addUser, reactivated, reactivated, List.map_append, List.map_singleton, same]

theorem setUser_reactivated (u : UserRow) :
    t.reactivated.setUser id u.reactivated = (t.setUser id u).reactivated := by
  unfold setUser reactivated
  simp only [List.map_map]
  congr 1
  refine List.map_congr_left fun v _ => ?_
  by_cases h : v.id = id
  · have h' : v.reactivated.id = id := h
    simp only [Function.comp_apply, if_pos h, if_pos h']
  · have h' : v.reactivated.id ≠ id := h
    simp only [Function.comp_apply, if_neg h, if_neg h']

end Tables

namespace Store

variable {s : Store}

@[simp] theorem tables_reactivated : s.reactivated.tables = s.tables.reactivated := rfl

@[simp] theorem nextId_reactivated (k : Kind) :
    s.reactivated.nextId k = ((s.nextId k).1, (s.nextId k).2.reactivated) := rfl

theorem change_reactivated {f g : Tables → Tables}
    (h : g s.tables.reactivated = (f s.tables).reactivated) :
    s.reactivated.change g = (s.change f).reactivated := by
  rw [change, tables_reactivated, h]
  rfl

theorem knowsUser_reactivated (id : String) : s.reactivated.knowsUser id = s.knowsUser id := by
  simp only [knowsUser, tables_reactivated, Tables.user?_reactivated, Option.isSome_map]
  rfl

/-! ### Guarded changes -/

theorem addUser_reactivated {u : UserRow} (active : u.isActive = true) :
    s.reactivated.addUser u = (s.addUser u).map (·.reactivated) := by
  have added : s.reactivated.change (·.addUser u) = (s.change (·.addUser u)).reactivated :=
    change_reactivated (f := (·.addUser u)) (Tables.addUser_reactivated active)
  simp only [addUser, tables_reactivated, Tables.user?_reactivated, Tables.userNamed?_reactivated,
    Tables.userMailed?_reactivated, Option.isSome_map, map_ite, map_error, map_ok,
    added]

theorem addPost_reactivated (p : PostRow) :
    s.reactivated.addPost p = (s.addPost p).map (·.reactivated) := by
  simp only [addPost, knowsUser_reactivated, map_ite, map_error, map_ok]
  rfl

theorem addComment_reactivated (c : CommentRow) :
    s.reactivated.addComment c = (s.addComment c).map (·.reactivated) := by
  simp only [addComment, knowsUser_reactivated, map_ite, map_error, map_ok]
  rfl

theorem addTag_reactivated (g : TagRow) :
    s.reactivated.addTag g = (s.addTag g).map (·.reactivated) := by
  simp only [addTag, knowsUser_reactivated, map_ite, map_error, map_ok]
  rfl

theorem setTag_reactivated (g : TagRow) :
    s.reactivated.setTag g = (s.setTag g).map (·.reactivated) := by
  simp only [setTag, map_ite, map_error, map_ok]
  rfl

theorem setTags_reactivated (id : String) (tagIds : List String) :
    s.reactivated.setTags id tagIds = (s.setTags id tagIds).map (·.reactivated) := by
  simp only [setTags, map_ite, map_error, map_ok]
  rfl

end Store

/-! ## Endpoints -/

section Endpoints

variable {s : Store} {now : Instant} {author : UserRow}

open Store (tables_reactivated nextId_reactivated)

/-! ### Users -/

theorem Users.register_reactivated (f : Users.Registration) :
    Users.register s.reactivated now f = (Users.register s now f).map (·.reactivated) := by
  have added : ∀ {hash : PasswordHash}, (s.nextId .user).2.reactivated.addUser (f.row s now hash) =
      ((s.nextId .user).2.addUser (f.row s now hash)).map (·.reactivated) :=
    Store.addUser_reactivated rfl
  simp only [Users.Registration.row] at added
  simp only [Users.register, tables_reactivated, nextId_reactivated, Tables.userNamed?_reactivated,
    Tables.userMailed?_reactivated, Option.isSome_map, added, commit_map, map_bind, bind_map,
    map_ite, map_ok]
  rfl

theorem Users.login_reactivated {settings : Settings} (l : Users.Login) :
    Users.login settings s.reactivated now l =
      (Users.login settings s now l).map (·.reactivated) := by
  have found : Users.checkLogin s.tables.reactivated l =
      (Users.checkLogin s.tables l).map (·.reactivated) := by
    simp only [Users.checkLogin, Tables.userNamed?_reactivated]
    cases s.tables.userNamed? l.username with
    | none => rfl
    | some u =>
      simp only [Option.map_some, orRefuse, bind_ok, map_bind, map_ite, map_ok]
      rfl
  simp only [Users.login, tables_reactivated, found, map_bind, bind_map, map_ok]
  refine bind_congr_ok fun u _ => ?_
  have noted : s.reactivated.change
      (·.setUser u.id { u.reactivated with lastLogin := some now }) =
        (s.change (·.setUser u.id { u with lastLogin := some now })).reactivated :=
    Store.change_reactivated (Tables.setUser_reactivated { u with lastLogin := some now })
  exact congrArg (fun t => Except.ok (Done.changed t _ [])) noted

/-! ### Posts -/

theorem Search.hits_reactivated {α : Type} (t : Tables) (type : String) (id : α → String)
    (words : List (List Char)) (rows : List α) :
    hits t.reactivated type id words rows = hits t type id words rows := by
  induction rows with
  | nil => rfl
  | cons row rows ih =>
    have same : t.reactivated.document? type (id row) = t.document? type (id row) := rfl
    simp only [hits, ih, same]

theorem Search.posts_reactivated (t : Tables) (query : String) (limit : Option Int) :
    posts t.reactivated query limit = posts t query limit := by
  have same : t.reactivated.posts = t.posts := rfl
  simp only [posts, found, hits_reactivated, same]

theorem Posts.create_reactivated (f : Posts.Draft) :
    Posts.create s.reactivated now author.reactivated f =
      (Posts.create s now author f).map (·.reactivated) := by
  simp only [Posts.create, nextId_reactivated, Store.addPost_reactivated,
    Store.setTags_reactivated, commit_map, map_bind, bind_map, map_ok]
  rfl

theorem Posts.finishUpdate_reactivated {p : PostRow} (f : Posts.Edit) :
    Posts.finishUpdate s.reactivated now p f =
      (Posts.finishUpdate s now p f).map (·.reactivated) := by
  cases touching : f.isTouching with
  | false => simp only [Posts.finishUpdate, touching, Bool.not_false, if_true, map_ok]
  | true =>
    simp only [Posts.finishUpdate, touching, Bool.not_true, Bool.false_eq_true, if_false, map_bind]
    refine bind_congr_ok fun tags _ => bind_congr_ok fun _ _ => ?_
    have same : s.reactivated.tables.post? p.id = s.tables.post? p.id := rfl
    rw [same]
    cases s.tables.post? p.id with
    | none => rfl
    | some row =>
      cases tags with
      | none => rfl
      | some tags =>
        let t := (s.change (·.setPostRow row.id (f.write now p row))).change (·.index
          ⟨Kind.post.table, row.id, PostRow.content (f.titleOf p) (f.bodyOf p)⟩)
        have linked := Store.setTags_reactivated (s := t) row.id (tags.map (·.id))
        exact (congrArg commit linked).trans commit_map

theorem Posts.update_reactivated (id : String) (f : Posts.Edit) :
    Posts.update s.reactivated now author.reactivated id f =
      (Posts.update s now author id f).map (·.reactivated) := by
  simp only [Posts.update, Posts.finishUpdate_reactivated, map_bind, bind_map, map_ite, map_ok]
  rfl

theorem Posts.delete_reactivated (id : String) :
    Posts.delete s.reactivated author.reactivated id =
      (Posts.delete s author id).map (·.reactivated) := by
  simp only [Posts.delete, map_bind, map_ite, map_ok]
  rfl

/-! ### Comments -/

theorem Comments.create_reactivated (postId body : String) :
    Comments.create s.reactivated now author.reactivated postId body =
      (Comments.create s now author postId body).map (·.reactivated) := by
  simp only [Comments.create, nextId_reactivated, Store.addComment_reactivated, commit_map,
    map_bind, bind_map, map_ok]
  rfl

theorem Comments.update_reactivated (postId id body : String) :
    Comments.update s.reactivated now author.reactivated postId id body =
      (Comments.update s now author postId id body).map (·.reactivated) := by
  simp only [Comments.update, map_bind, map_ite, map_ok]
  rfl

theorem Comments.delete_reactivated (postId id : String) :
    Comments.delete s.reactivated author.reactivated postId id =
      (Comments.delete s author postId id).map (·.reactivated) := by
  simp only [Comments.delete, map_bind, map_ite, map_ok]
  rfl

/-! ### Tags -/

theorem Tags.create_reactivated (name : String) (description : Option String) :
    Tags.create s.reactivated now author.reactivated name description =
      (Tags.create s now author name description).map (·.reactivated) := by
  simp only [Tags.create, nextId_reactivated, Store.addTag_reactivated, commit_map, map_bind,
    bind_map, map_ok]
  rfl

theorem Tags.update_reactivated (id : String) (f : Tags.Edit) :
    Tags.update s.reactivated now author.reactivated id f =
      (Tags.update s now author id f).map (·.reactivated) := by
  simp only [Tags.update, Store.setTag_reactivated, commit_map, map_bind, bind_map, map_ite]
  refine bind_congr_ok fun g _ => ?_
  cases f.newName? g with
  | none =>
    simp only [map_bind, map_ite, map_ok]
    rfl
  | some name =>
    simp only [map_bind, map_ite, map_ok]
    rfl

theorem Tags.delete_reactivated (id : String) :
    Tags.delete s.reactivated author.reactivated id =
      (Tags.delete s author id).map (·.reactivated) := by
  simp only [Tags.delete, map_bind, map_ite, map_ok]
  rfl

end Endpoints

/-! ## Requests -/

namespace Service

variable {settings : Settings} {now : Instant} {s : Store} {r : Request} {e : Endpoint}
  {u : UserRow}

/-- A token stands for the same user. -/
theorem caller_reactivated (settings : Settings) (now : Instant) (s : Store) (r : Request) :
    caller settings now s.reactivated r = (caller settings now s r).map (·.reactivated) := by
  unfold caller Caller.ofHeader
  cases Caller.token? r.authorization with
  | none => rfl
  | some token =>
    simp only [Caller.ofToken, Store.tables_reactivated, Tables.userNamed?_reactivated]
    cases Token.subject settings.secret now token with
    | error refusal => rfl
    | ok name =>
      simp only
      cases s.tables.userNamed? name with
      | none => rfl
      | some u => rfl

theorem withForm_reactivated {form : Form} {act act' : Fields → Except Failure Done}
    (h : ∀ fs, act' fs = (act fs).map (·.reactivated)) :
    withForm form r act' = (withForm form r act).map (·.reactivated) := by
  simp only [withForm, map_bind, h]

theorem withCaller_reactivated {act act' : UserRow → Except Failure Done}
    (h : ∀ u, act' u.reactivated = (act u).map (·.reactivated)) :
    withCaller settings now s.reactivated r act' =
      (withCaller settings now s r act).map (·.reactivated) := by
  simp only [withCaller, caller_reactivated, bind_map, map_bind, h]

theorem withBoth_reactivated {form : Form} {act act' : UserRow → Fields → Except Failure Done}
    (h : ∀ u fs, act' u.reactivated fs = (act u fs).map (·.reactivated)) :
    withBoth settings now s.reactivated form r act' =
      (withBoth settings now s form r act).map (·.reactivated) := by
  simp only [withBoth, caller_reactivated, bind_map, map_bind, h]

/-- An endpoint that is not about one's own record does not see who is active. -/
theorem run_reactivated (settings : Settings) (now : Instant) (s : Store) (r : Request)
    (other : e.isOwnRecord = false) :
    run settings now s.reactivated r e = (run settings now s r e).map (·.reactivated) := by
  cases e with
  | register => exact withForm_reactivated fun _ => Users.register_reactivated _
  | login => exact withForm_reactivated fun _ => Users.login_reactivated _
  | showMe => cases other
  | updateMe => cases other
  | createPost => exact withBoth_reactivated fun _ _ => Posts.create_reactivated _
  | listPosts => rfl
  | searchPosts =>
    simp only [run, search, Posts.search]
    cases Parameter.searchRequest r.parameters with
    | error es => rfl
    | ok sr =>
      simp only [Store.tables_reactivated, Search.posts_reactivated]
      cases Search.posts s.tables sr.query sr.limit with
      | error e => rfl
      | ok rows => rfl
  | showPost id =>
    simp only [run, Posts.display, map_bind]
    rfl
  | updatePost id => exact withBoth_reactivated fun _ _ => Posts.update_reactivated id _
  | deletePost id => exact withCaller_reactivated fun _ => Posts.delete_reactivated id
  | createComment postId =>
    exact withBoth_reactivated fun _ _ => Comments.create_reactivated postId _
  | listComments postId =>
    simp only [run, Comments.list, map_bind]
    rfl
  | showComment postId id =>
    simp only [run, Comments.display, map_bind]
    rfl
  | updateComment postId id =>
    exact withBoth_reactivated fun _ _ => Comments.update_reactivated postId id _
  | deleteComment postId id =>
    exact withCaller_reactivated fun _ => Comments.delete_reactivated postId id
  | createTag => exact withBoth_reactivated fun _ _ => Tags.create_reactivated _ _
  | listTags => rfl
  | showTag id =>
    simp only [run, Tags.display, map_bind]
    rfl
  | listTagPosts id =>
    simp only [run, Tags.posts, map_bind]
    rfl
  | updateTag id => exact withBoth_reactivated fun _ _ => Tags.update_reactivated id _
  | deleteTag id => exact withCaller_reactivated fun _ => Tags.delete_reactivated id

/-- A request that is not about one's own record is answered as if all users were active, and
leaves the rows that it would leave then. -/
theorem handle_reactivated (settings : Settings) (now : Instant) (s : Store) (r : Request)
    (other : ∀ e, Endpoint.route r.method r.path = .found e → e.isOwnRecord = false) :
    handle settings now s.reactivated r =
      ((handle settings now s r).1.reactivated, (handle settings now s r).2) := by
  simp only [handle, respond]
  cases hroute : Endpoint.route r.method r.path with
  | refused refusal => rfl
  | redirected path => rfl
  | found e =>
    simp only [run_reactivated settings now s r (other e hroute)]
    cases run settings now s r e with
    | error f => rfl
    | ok d => rfl

/-! ## Inactive callers -/

/-- On one's own record, an inactive caller fails. He is refused as inactive if the body, where one
is taken, can be read. -/
theorem run_own_record (called : caller settings now s r = .ok u) (inactive : u.isActive = false)
    (own : e.isOwnRecord = true) :
    (∃ f, run settings now s r e = .error f) ∧
      ((e.takesBody = true → ∃ b, Submission.read r = .ok b) →
        run settings now s r e = refuse .inactiveUser) := by
  have refused : activeCaller settings now s r = refuse .inactiveUser := by
    rw [activeCaller, called, bind_ok, Caller.active, inactive]
    rfl
  cases e with
  | showMe =>
    have hrun : run settings now s r .showMe = refuse .inactiveUser := by
      rw [run, refused]
      rfl
    exact ⟨⟨_, hrun⟩, fun _ => hrun⟩
  | updateMe =>
    have hrun : ∀ b, Submission.read r = .ok b →
        run settings now s r .updateMe = refuse .inactiveUser := by
      intro b hb
      rw [run, hb, bind_ok, refused]
      rfl
    constructor
    · cases hread : Submission.read r with
      | error f =>
        refine ⟨f, ?_⟩
        rw [run, hread]
        rfl
      | ok b => exact ⟨_, hrun b hread⟩
    · intro readable
      obtain ⟨b, hb⟩ := readable rfl
      exact hrun b hb
  | _ => cases own

/-- A request on behalf of an inactive user leaves all rows as they are if it is about his own
record, and is then refused as that of an inactive user, if the body, where one is taken, can be
read. All other requests on his behalf are served like those of an active user: they are answered
alike, with the same log, and leave the same rows. -/
theorem inactive_caller (auth : Authenticates settings now s r u) (inactive : u.isActive = false)
    (hroute : Endpoint.route r.method r.path = .found e) :
    (e.isOwnRecord = true → (handle settings now s r).1 = s ∧
      ((e.takesBody = true → ∃ b, Submission.read r = .ok b) →
        Refuses settings now s r 400 .inactiveUser)) ∧
    (e.isOwnRecord = false →
      Authenticates settings now s.reactivated r u.reactivated ∧ u.reactivated.isActive = true ∧
      handle settings now s.reactivated r =
        ((handle settings now s r).1.reactivated, (handle settings now s r).2)) := by
  obtain ⟨e', hroute', asks, called⟩ := auth
  obtain rfl : e' = e := Endpoint.Routing.found.inj (hroute'.symm.trans hroute)
  constructor
  · intro own
    obtain ⟨⟨f, failed⟩, refused⟩ := run_own_record called inactive own
    exact ⟨(fails_of_run hroute failed).unchanged, fun readable =>
      ⟨rfl, fails_of_run hroute (refused readable)⟩⟩
  · intro other
    have called' : caller settings now s.reactivated r = .ok u.reactivated := by
      rw [caller_reactivated, called, map_ok]
    refine ⟨⟨e', hroute, asks, called'⟩, rfl, handle_reactivated settings now s r ?_⟩
    intro e hfound
    obtain rfl : e' = e := Endpoint.Routing.found.inj (hroute.symm.trans hfound)
    exact other

/-! ## The first user, inactive -/

def dormantAnn : UserRow := { ann ⟨0⟩ with isActive := false }

/-- The store after the first registration, with its user made inactive. -/
def dormant : Store := (signedUp false ⟨0⟩).change fun t => { t with users := [dormantAnn] }

theorem reactivated_dormant : dormant.reactivated = signedUp false ⟨0⟩ := rfl

theorem caller_dormant (r : Request) :
    caller .default ⟨0⟩ dormant (bearing "ann" r) = .ok dormantAnn :=
  caller_bearing rfl r (by decide)

theorem authenticates_dormant : Authenticates .default ⟨0⟩ dormant writePost dormantAnn :=
  ⟨.createPost, by decide, rfl, caller_dormant _⟩

/-- A pair is known from another one by its second part, without a look at the first. -/
theorem snd_eq_of_eq {α β : Type} {x y : α × β} {a : α} (h : x = (a, y.2)) : x.2 = y.2 := by
  rw [h]

/-- The inactive user may not see her own record. What she writes is answered as if she were
active. -/
theorem ann_is_inactive :
    Refuses .default ⟨0⟩ dormant (bearing "ann" (askMe "")) 400 .inactiveUser ∧
      (handle .default ⟨0⟩ dormant writePost).2 =
        (handle .default ⟨0⟩ (signedUp false ⟨0⟩) writePost).2 := by
  have hshow : Endpoint.route "GET" "/api/users/me" = .found .showMe := by decide
  have hwrite : Endpoint.route writePost.method writePost.path = .found .createPost := by decide
  have own := (inactive_caller (r := bearing "ann" (askMe "")) ⟨_, hshow, rfl, caller_dormant _⟩ rfl
    hshow).1 rfl
  obtain ⟨-, -, served⟩ := (inactive_caller authenticates_dormant rfl hwrite).2 rfl
  rw [reactivated_dormant] at served
  exact ⟨own.2 (fun takes => by cases takes), (snd_eq_of_eq served).symm⟩

/-- The inactive user writes a post, and it is there. -/
theorem dormant_writes :
    Authenticates .default ⟨0⟩ dormant writePost dormantAnn ∧
      dormantAnn ∈ dormant.tables.users ∧ dormantAnn.isActive = false ∧
      dormant.tables.posts = [] ∧ dormant.tables.documents = [] ∧
      (handle .default ⟨0⟩ dormant writePost).1.tables.posts = [annPost] ∧
      (handle .default ⟨0⟩ dormant writePost).1.tables.documents = [annPost.document] := by
  have other : ∀ e, Endpoint.route writePost.method writePost.path = .found e →
      e.isOwnRecord = false := by
    intro e hfound
    have hwrite : Endpoint.route writePost.method writePost.path = .found .createPost := by decide
    obtain rfl : Endpoint.createPost = e := Endpoint.Routing.found.inj (hwrite.symm.trans hfound)
    rfl
  have left : (handle .default ⟨0⟩ dormant writePost).1.reactivated = posted [] := by
    have served := handle_reactivated .default ⟨0⟩ dormant writePost other
    rw [reactivated_dormant] at served
    rw [← visit_writePost, visit_mk, served]
  have posts : ∀ t : Store, t.tables.posts = t.reactivated.tables.posts := fun _ => rfl
  have documents : ∀ t : Store, t.tables.documents = t.reactivated.tables.documents := fun _ => rfl
  refine ⟨authenticates_dormant, List.mem_singleton_self _, rfl, rfl, rfl, ?_, ?_⟩
  · rw [posts, left]
    rfl
  · rw [documents, left]
    rfl

end Service

end Weblog
