/-
  Enforced references: they change nothing.

  References are enforced only where a store is asked to. The requests keep all references by
  themselves (`Effect.referenced`), so that a check of a reference never fails; a run with the
  checks and one without then have the same tables after every request and give the same answers.

  `Store.enforcing` turns the checks on or off. There is one lemma for each function that takes a
  store, which says that the function commutes with the switch. Where a row is put in, the lemma
  asks that the named user is there. He is: he makes the request.
-/
import Weblog.Proofs.Service.Sound
import Weblog.Proofs.Store.References

namespace Weblog

/-! ## The references of what is written -/

/-- All tags that are loaded are there. -/
theorem Posts.mem_of_loadTags {rows : List TagRow} {ids : List String} {tags : List TagRow}
    (h : loadTags rows ids = .ok tags) : ∀ g ∈ tags, g ∈ rows := by
  unfold loadTags at h
  simp only at h
  split at h
  · exact absurd h refuse_ne_ok
  · intro g hg
    obtain ⟨id, -, hid⟩ := mem_of_mapM h g hg
    split at hid
    · rename_i g' hfound
      rw [← Except.ok.inj hid]
      exact List.mem_of_mem_filter (List.mem_of_find?_eq_some hfound)
    · cases hid

theorem Posts.mem_ids_of_loadTags {rows : List TagRow} {ids : List String} {tags : List TagRow}
    (h : loadTags rows ids = .ok tags) :
    ∀ id ∈ tags.map (·.id), id ∈ rows.map (·.id) := by
  intro id hid
  obtain ⟨g, hg, rfl⟩ := List.mem_map.mp hid
  exact List.mem_map_of_mem (mem_of_loadTags h g hg)

theorem Posts.loadTags_of_mapM {rows : List TagRow} {ids : Option (List String)}
    {tags : List TagRow} (h : ids.mapM (loadTags rows) = .ok (some tags)) :
    loadTags rows (ids.getD []) = .ok tags := by
  cases ids with
  | none => cases h
  | some ids =>
    obtain ⟨gs, hgs, h⟩ := map_eq_ok.mp h
    rw [← Option.some.inj h]
    exact hgs

namespace Service

variable {settings : Settings} {now : Instant} {s : Store} {r : Request} {e : Endpoint} {d : Done}

theorem id_of_caller {u : UserRow} (h : caller settings now s r = .ok u) :
    u.id ∈ s.tables.users.map (·.id) := List.mem_map_of_mem (mem_of_caller h)

/-- What a request leaves behind has its references in order if what it found had. -/
theorem Effect.referenced (h : Effect settings now s r e d) (hs : s.tables.Referenced) :
    d.store.tables.Referenced := by
  cases h with
  | look same => exact same ▸ hs
  | register => exact hs.addUser _
  | login => exact hs.setUser rfl
  | updateMe => exact hs.setUser rfl
  | @createPost u _ f tags called _ _ loaded _ _ _ _ left =>
    subst left
    have post : (f.row s now u).id ∈ ((s.tables.addPost (f.row s now u)).posts.map (·.id)) :=
      List.mem_map_of_mem List.mem_concat_self
    exact (hs.addPost (id_of_caller called)).setTags post (Posts.mem_ids_of_loadTags loaded)
  | @updatePost u _ f _ p _ tags called _ _ found own _ loaded _ _ _ left =>
    subst left
    have there : (f.write now p p).id ∈ s.tables.posts.map (·.id) :=
      List.mem_map_of_mem (f := fun q => q.id) (Tables.post?_mem found)
    have author : (f.write now p p).userId ∈ s.tables.users.map (·.id) := by
      have same : (f.write now p p).userId = u.id := own
      rw [same]
      exact id_of_caller called
    refine hs.rewritePost there author fun ids hids g hg => ?_
    obtain ⟨gs, hgs, rfl⟩ := Option.map_eq_some_iff.mp hids
    subst hgs
    exact Posts.mem_ids_of_loadTags (Posts.loadTags_of_mapM loaded) g hg
  | deletePost => exact hs.removePost _
  | createComment called => exact hs.addComment (id_of_caller called)
  | @updateComment _ _ _ _ _ c _ _ _ found =>
    have author := hs.comments c (mem_of_find_comment found)
    exact hs.setComment author
  | deleteComment => exact hs.removeComment _
  | createTag called _ made =>
    subst made
    exact hs.addTag (id_of_caller called)
  | @updateTag _ _ _ _ g _ _ _ found =>
    have owner := hs.tags g (List.mem_of_find?_eq_some found)
    exact hs.setTag rfl owner
  | deleteTag => exact hs.removeTag _

/-- In every run from empty tables, the references are in order. -/
theorem Reachable.referenced (h : Reachable settings s) : s.tables.Referenced := by
  induction h with
  | fresh enforces => exact Tables.referenced_empty
  | @visit s v _ ih =>
    unfold Service.visit
    obtain h | ⟨e, d, -, heffect, h, -⟩ := handle_cases settings v.now s v.request
    · rw [h]
      exact ih
    · rw [h]
      exact heffect.referenced ih

end Service

/-! ## The switch -/

/-- The store with references enforced or not. -/
def Store.enforcing (s : Store) (b : Bool) : Store := { s with enforces := b }

def Done.enforcing (d : Done) (b : Bool) : Done := { d with store := d.store.enforcing b }

namespace Store

variable {s : Store} {b : Bool}

@[simp] theorem tables_enforcing : (s.enforcing b).tables = s.tables := rfl

@[simp] theorem change_enforcing (f : Tables → Tables) :
    (s.enforcing b).change f = (s.change f).enforcing b := rfl

@[simp] theorem nextId_enforcing (k : Kind) :
    (s.enforcing b).nextId k = ((s.nextId k).1, (s.nextId k).2.enforcing b) := rfl

/-- A user who is there may be named. -/
theorem knowsUser_of_mem {id : String} (h : id ∈ s.tables.users.map (·.id)) :
    s.knowsUser id = true := by
  rw [knowsUser, Tables.user?_isSome.mpr h, Bool.or_true]

theorem knowsBoth_of_mem {l : Link} (post : l.postId ∈ s.tables.posts.map (·.id))
    (tag : l.tagId ∈ s.tables.tags.map (·.id)) : s.knowsBoth l = true := by
  rw [knowsBoth, Tables.post?_isSome.mpr post, Tables.tag?_isSome_iff.mpr tag, Bool.and_true,
    Bool.or_true]

/-! ### Guarded changes -/

theorem addUser_enforcing (u : UserRow) :
    (s.enforcing b).addUser u = (s.addUser u).map (·.enforcing b) := by
  simp only [addUser, tables_enforcing, change_enforcing, map_ite, map_error, map_ok]
  rfl

theorem addPost_enforcing {p : PostRow} (h : p.userId ∈ s.tables.users.map (·.id)) :
    (s.enforcing b).addPost p = (s.addPost p).map (·.enforcing b) := by
  have known : (s.enforcing b).knowsUser p.userId = true := knowsUser_of_mem h
  simp only [addPost, known, knowsUser_of_mem h, tables_enforcing, change_enforcing, map_ite,
    map_error, map_ok]

theorem addComment_enforcing {c : CommentRow} (h : c.userId ∈ s.tables.users.map (·.id)) :
    (s.enforcing b).addComment c = (s.addComment c).map (·.enforcing b) := by
  have known : (s.enforcing b).knowsUser c.userId = true := knowsUser_of_mem h
  simp only [addComment, known, knowsUser_of_mem h, tables_enforcing, change_enforcing, map_ite,
    map_error, map_ok]

theorem addTag_enforcing {g : TagRow} (h : g.userId ∈ s.tables.users.map (·.id)) :
    (s.enforcing b).addTag g = (s.addTag g).map (·.enforcing b) := by
  have known : (s.enforcing b).knowsUser g.userId = true := knowsUser_of_mem h
  simp only [addTag, known, knowsUser_of_mem h, tables_enforcing, change_enforcing, map_ite,
    map_error, map_ok]

theorem setTag_enforcing (g : TagRow) :
    (s.enforcing b).setTag g = (s.setTag g).map (·.enforcing b) := by
  simp only [setTag, tables_enforcing, change_enforcing, map_ite, map_error, map_ok]
  rfl

theorem setTags_enforcing {id : String} {tagIds : List String}
    (post : id ∈ s.tables.posts.map (·.id)) (known : ∀ g ∈ tagIds, g ∈ s.tables.tags.map (·.id)) :
    (s.enforcing b).setTags id tagIds = (s.setTags id tagIds).map (·.enforcing b) := by
  have all : ∀ s' : Store, s'.tables = s.tables →
      (((tagIds.filter fun g => !s.tables.carries id g).eraseDups).all fun g =>
        s'.knowsBoth ⟨id, g⟩) = true := by
    intro s' hs'
    refine List.all_eq_true.mpr fun g hg => knowsBoth_of_mem ?_ ?_
    · rw [hs']
      exact post
    · rw [hs']
      exact known g (List.mem_of_mem_filter (List.mem_eraseDups.mp hg))
  simp only [setTags, tables_enforcing, all (s.enforcing b) rfl, all s rfl, if_true,
    change_enforcing, map_ok]

end Store

theorem commit_map {r : Except Constraint Store} {f : Store → Store} :
    commit (r.map f) = (commit r).map f := mapError_map

theorem map_refuse {α β : Type} {r : Refusal} {f : α → β} : (refuse r).map f = refuse r := rfl

/-! ## Endpoints -/

section Endpoints

variable {s : Store} {b : Bool} {now : Instant} {author : UserRow}

open Store (tables_enforcing change_enforcing nextId_enforcing)

/-! ### Users -/

theorem Users.register_enforcing (f : Users.Registration) :
    Users.register (s.enforcing b) now f = (Users.register s now f).map (·.enforcing b) := by
  simp only [Users.register, tables_enforcing, nextId_enforcing, Store.addUser_enforcing,
    commit_map, map_bind, bind_map, map_ite, map_ok]
  rfl

theorem Users.login_enforcing {settings : Settings} (l : Users.Login) :
    Users.login settings (s.enforcing b) now l =
      (Users.login settings s now l).map (·.enforcing b) := by
  simp only [Users.login, tables_enforcing, change_enforcing, map_bind, map_ok]
  rfl

theorem Users.update_enforcing (bio : Option String) :
    Users.update (s.enforcing b) author bio = (Users.update s author bio).enforcing b := by
  cases bio with
  | none => rfl
  | some bio => rfl

/-! ### Posts -/

theorem Posts.create_enforcing (known : author.id ∈ s.tables.users.map (·.id)) (f : Posts.Draft) :
    Posts.create (s.enforcing b) now author f =
      (Posts.create s now author f).map (·.enforcing b) := by
  simp only [Posts.create, tables_enforcing, nextId_enforcing, map_bind]
  refine bind_congr_ok fun tags loaded => bind_congr_ok fun _ _ => ?_
  have hauthor : (f.row s now author).userId ∈ (s.nextId .post).2.tables.users.map (·.id) := known
  have hadd := Store.addPost_enforcing (b := b) hauthor
  rw [Posts.Draft.row] at hadd
  rw [hadd, commit_map, bind_map]
  refine bind_congr_ok fun s' added => ?_
  obtain ⟨-, -, rfl⟩ := Store.addPost_eq_ok.mp (commit_eq_ok.mp added)
  have post : (f.row s now author).id ∈
      ((s.nextId .post).2.change (·.addPost (f.row s now author))).tables.posts.map (·.id) :=
    List.mem_map_of_mem List.mem_concat_self
  have htags := Store.setTags_enforcing (b := b) post (Posts.mem_ids_of_loadTags loaded)
  rw [Posts.Draft.row] at htags
  rw [htags, commit_map, bind_map]
  rfl

theorem Posts.finishUpdate_enforcing {p : PostRow} (f : Posts.Edit) :
    Posts.finishUpdate (s.enforcing b) now p f =
      (Posts.finishUpdate s now p f).map (·.enforcing b) := by
  cases touching : f.isTouching with
  | false => simp only [Posts.finishUpdate, touching, Bool.not_false, if_true, map_ok]
  | true =>
    simp only [Posts.finishUpdate, touching, Bool.not_true, Bool.false_eq_true, if_false,
      tables_enforcing, change_enforcing, map_bind]
    refine bind_congr_ok fun tags loaded => bind_congr_ok fun _ _ => ?_
    cases found : s.tables.post? p.id with
    | none => rfl
    | some row =>
      cases tags with
      | none => rfl
      | some tags =>
        have post : row.id ∈ ((s.change (·.setPostRow row.id (f.write now p row))).change (·.index
            ⟨Kind.post.table, row.id, PostRow.content (f.titleOf p) (f.bodyOf p)⟩)).tables.posts.map
              (·.id) := by
          have keys : (s.tables.posts.map fun q => if q.id = row.id then f.write now p row else q).map
              (·.id) = s.tables.posts.map (·.id) := Tables.map_key_put rfl
          exact keys ▸ List.mem_map_of_mem (f := fun q => q.id) (Tables.post?_mem found)
        have known := Posts.mem_ids_of_loadTags (Posts.loadTags_of_mapM loaded)
        exact (congrArg commit (Store.setTags_enforcing post known)).trans commit_map

theorem Posts.update_enforcing (id : String) (f : Posts.Edit) :
    Posts.update (s.enforcing b) now author id f =
      (Posts.update s now author id f).map (·.enforcing b) := by
  simp only [Posts.update, tables_enforcing, Posts.finishUpdate_enforcing, map_bind, bind_map,
    map_ite, map_ok]
  rfl

theorem Posts.delete_enforcing (id : String) :
    Posts.delete (s.enforcing b) author id = (Posts.delete s author id).map (·.enforcing b) := by
  simp only [Posts.delete, tables_enforcing, change_enforcing, map_bind, map_ite, map_ok]
  rfl

/-! ### Comments -/

theorem Comments.create_enforcing (known : author.id ∈ s.tables.users.map (·.id))
    (postId body : String) :
    Comments.create (s.enforcing b) now author postId body =
      (Comments.create s now author postId body).map (·.enforcing b) := by
  simp only [Comments.create, tables_enforcing, nextId_enforcing, map_bind]
  refine bind_congr_ok fun p _ => bind_congr_ok fun _ _ => ?_
  have hauthor : (Comments.row s now author p.id body).userId ∈
      (s.nextId .comment).2.tables.users.map (·.id) := known
  have hadd := Store.addComment_enforcing (b := b) hauthor
  rw [Comments.row] at hadd
  rw [hadd, commit_map, bind_map]
  rfl

theorem Comments.update_enforcing (postId id body : String) :
    Comments.update (s.enforcing b) now author postId id body =
      (Comments.update s now author postId id body).map (·.enforcing b) := by
  simp only [Comments.update, tables_enforcing, change_enforcing, map_bind, map_ite, map_ok]
  rfl

theorem Comments.delete_enforcing (postId id : String) :
    Comments.delete (s.enforcing b) author postId id =
      (Comments.delete s author postId id).map (·.enforcing b) := by
  simp only [Comments.delete, tables_enforcing, change_enforcing, map_bind, map_ite, map_ok]
  rfl

/-! ### Tags -/

theorem Tags.create_enforcing (known : author.id ∈ s.tables.users.map (·.id)) (name : String)
    (description : Option String) :
    Tags.create (s.enforcing b) now author name description =
      (Tags.create s now author name description).map (·.enforcing b) := by
  simp only [Tags.create, tables_enforcing, nextId_enforcing, map_bind]
  refine bind_congr_ok fun _ _ => bind_congr_ok fun _ _ => ?_
  have howner : (Tags.row s now author name description).userId ∈
      (s.nextId .tag).2.tables.users.map (·.id) := known
  have hadd := Store.addTag_enforcing (b := b) howner
  rw [Tags.row] at hadd
  rw [hadd, commit_map, bind_map]
  rfl

theorem Tags.update_enforcing (id : String) (f : Tags.Edit) :
    Tags.update (s.enforcing b) now author id f =
      (Tags.update s now author id f).map (·.enforcing b) := by
  simp only [Tags.update, tables_enforcing, Store.setTag_enforcing, commit_map, map_bind, bind_map,
    map_ite]
  refine bind_congr_ok fun g _ => ?_
  cases f.newName? g with
  | none =>
    simp only [map_bind, map_ite, map_ok]
    rfl
  | some name =>
    simp only [map_bind, map_ite, map_ok]
    rfl

theorem Tags.delete_enforcing (id : String) :
    Tags.delete (s.enforcing b) author id = (Tags.delete s author id).map (·.enforcing b) := by
  simp only [Tags.delete, tables_enforcing, change_enforcing, map_bind, map_ite, map_ok]
  rfl

end Endpoints

/-! ## Requests -/

namespace Service

variable {settings : Settings} {now : Instant} {s : Store} {b : Bool} {r : Request} {e : Endpoint}

/-- A form is filled by the request alone. -/
theorem withForm_enforcing {form : Form} {act act' : Fields → Except Failure Done}
    (h : ∀ fs, act' fs = (act fs).map (·.enforcing b)) :
    withForm form r act' = (withForm form r act).map (·.enforcing b) := by
  simp only [withForm, map_bind, h]

/-- The caller is looked up in the tables alone, and is there. -/
theorem withCaller_enforcing {act act' : UserRow → Except Failure Done}
    (h : ∀ u, u.id ∈ s.tables.users.map (·.id) → act' u = (act u).map (·.enforcing b)) :
    withCaller settings now (s.enforcing b) r act' =
      (withCaller settings now s r act).map (·.enforcing b) := by
  simp only [withCaller, map_bind]
  exact bind_congr_ok fun u called => h u (id_of_caller called)

theorem withBoth_enforcing {form : Form} {act act' : UserRow → Fields → Except Failure Done}
    (h : ∀ u fs, u.id ∈ s.tables.users.map (·.id) → act' u fs = (act u fs).map (·.enforcing b)) :
    withBoth settings now (s.enforcing b) form r act' =
      (withBoth settings now s form r act).map (·.enforcing b) := by
  simp only [withBoth, map_bind]
  refine bind_congr_ok fun submission _ => bind_congr_ok fun u called => ?_
  exact bind_congr_ok fun fs _ => h u fs (id_of_caller called)

/-- An endpoint does not see whether references are enforced. -/
theorem run_enforcing (settings : Settings) (now : Instant) (s : Store) (b : Bool) (r : Request)
    (e : Endpoint) :
    run settings now (s.enforcing b) r e = (run settings now s r e).map (·.enforcing b) := by
  cases e with
  | register => exact withForm_enforcing fun _ => Users.register_enforcing _
  | login => exact withForm_enforcing fun _ => Users.login_enforcing _
  | showMe =>
    simp only [run, map_bind]
    rfl
  | updateMe =>
    simp only [run, map_bind, Users.update_enforcing]
    rfl
  | createPost => exact withBoth_enforcing fun _ _ known => Posts.create_enforcing known _
  | listPosts => rfl
  | searchPosts =>
    simp only [run, search, Posts.search, Store.tables_enforcing]
    cases Parameter.searchRequest r.parameters with
    | error es => rfl
    | ok sr =>
      simp only
      cases Search.posts s.tables sr.query sr.limit with
      | error e => rfl
      | ok rows => rfl
  | showPost id =>
    simp only [run, Posts.display, map_bind]
    rfl
  | updatePost id => exact withBoth_enforcing fun _ _ _ => Posts.update_enforcing id _
  | deletePost id => exact withCaller_enforcing fun _ _ => Posts.delete_enforcing id
  | createComment postId =>
    exact withBoth_enforcing fun _ _ known => Comments.create_enforcing known postId _
  | listComments postId =>
    simp only [run, Comments.list, map_bind]
    rfl
  | showComment postId id =>
    simp only [run, Comments.display, map_bind]
    rfl
  | updateComment postId id =>
    exact withBoth_enforcing fun _ _ _ => Comments.update_enforcing postId id _
  | deleteComment postId id =>
    exact withCaller_enforcing fun _ _ => Comments.delete_enforcing postId id
  | createTag => exact withBoth_enforcing fun _ _ known => Tags.create_enforcing known _ _
  | listTags => rfl
  | showTag id =>
    simp only [run, Tags.display, map_bind]
    rfl
  | listTagPosts id =>
    simp only [run, Tags.posts, map_bind]
    rfl
  | updateTag id => exact withBoth_enforcing fun _ _ _ => Tags.update_enforcing id _
  | deleteTag id => exact withCaller_enforcing fun _ _ => Tags.delete_enforcing id

/-- A request is answered alike, and leaves the same tables. -/
theorem handle_enforcing (settings : Settings) (now : Instant) (s : Store) (b : Bool)
    (r : Request) : handle settings now (s.enforcing b) r =
      ((handle settings now s r).1.enforcing b, (handle settings now s r).2) := by
  simp only [handle, respond]
  cases Endpoint.route r.method r.path with
  | refused refusal => rfl
  | redirected path => rfl
  | found e =>
    simp only [run_enforcing]
    cases run settings now s r e with
    | error f => rfl
    | ok d => rfl

theorem serve_enforcing (settings : Settings) (s : Store) (b : Bool) (vs : List Visit) :
    serve settings (s.enforcing b) vs = (serve settings s vs).enforcing b := by
  induction vs generalizing s with
  | nil => rfl
  | cons v vs ih =>
    have first : visit settings (s.enforcing b) v = (visit settings s v).enforcing b :=
      congrArg Prod.fst (handle_enforcing settings v.now s b v.request)
    rw [serve, List.foldl_cons, first]
    exact ih (visit settings s v)

/-! ## Two runs -/

/-- Two runs of the same visits from empty tables, one with references enforced and one without.
After any number of visits the references are in order in both, both have the same tables and have
given out the same identifiers, and the next visit is answered alike in both, with the same log. -/
theorem enforcement_unseen (settings : Settings) (vs : List Visit) :
    (serve settings (.fresh true) vs).tables.Referenced ∧
    (serve settings (.fresh false) vs).tables.Referenced ∧
    (serve settings (.fresh true) vs).enforces = true ∧
    (serve settings (.fresh false) vs).enforces = false ∧
    (serve settings (.fresh true) vs).tables = (serve settings (.fresh false) vs).tables ∧
    (serve settings (.fresh true) vs).counters = (serve settings (.fresh false) vs).counters ∧
    ∀ v : Visit, (handle settings v.now (serve settings (.fresh true) vs) v.request).2 =
      (handle settings v.now (serve settings (.fresh false) vs) v.request).2 := by
  have strict : serve settings (.fresh true) vs =
      (serve settings (.fresh false) vs).enforcing true :=
    serve_enforcing settings (.fresh false) true vs
  have lax : (serve settings (.fresh false) vs).enforces = false :=
    congrArg Store.enforces (serve_enforcing settings (.fresh false) false vs)
  have referenced : (serve settings (.fresh false) vs).tables.Referenced :=
    (reachable_serve settings false vs).referenced
  rw [strict]
  refine ⟨referenced, referenced, rfl, lax, rfl, rfl, fun v => ?_⟩
  rw [handle_enforcing]

end Service

end Weblog
