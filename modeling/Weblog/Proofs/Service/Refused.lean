/-
  Requests that fail: the store stays as it was, and the answer is that of the failure.

  No failure comes from the tables. What a request writes it has checked before: names are free,
  identifiers are new, and whoever is named is there. `Sane` says so of one part of a request, and
  `sane_run` puts the parts together. That a record does not fit the form of its answer is found
  out only when the answer is made, hence never while an endpoint runs.
-/
import Mathlib.Data.List.Perm.Subperm
import Weblog.Proofs.Service.Accounts
import Weblog.Proofs.Service.Enforcement
import Weblog.Proofs.Service.Unique

namespace Weblog

/-! ## Loaded tags -/

namespace Posts

variable {rows : List TagRow} {ids : List String}

/-- Of rows with distinct identifiers, as many are found as are asked for only if all are there. -/
theorem length_found_iff (distinct : (rows.map (·.id)).Nodup) (nodup : ids.Nodup) :
    (rows.filter fun g => ids.contains g.id).length = ids.length ↔
      ∀ id ∈ ids, id ∈ rows.map (·.id) := by
  have keys : (rows.filter fun g => ids.contains g.id).map (·.id) ⊆ ids := by
    intro id hid
    obtain ⟨g, hg, rfl⟩ := List.mem_map.mp hid
    exact List.contains_iff_mem.mp (List.mem_filter.mp hg).2
  have once : ((rows.filter fun g => ids.contains g.id).map (·.id)).Nodup :=
    distinct.sublist (List.filter_sublist.map _)
  have few := List.subperm_of_subset once keys
  rw [← List.length_map (fun g : TagRow => g.id)]
  constructor
  · intro same id hid
    have perm := few.perm_of_length_le (Nat.le_of_eq same.symm)
    obtain ⟨g, hg, rfl⟩ := List.mem_map.mp (perm.mem_iff.mpr hid)
    exact List.mem_map_of_mem (List.mem_of_mem_filter hg)
  · intro known
    have many : ids ⊆ (rows.filter fun g => ids.contains g.id).map (·.id) := by
      intro id hid
      obtain ⟨g, hg, rfl⟩ := List.mem_map.mp (known id hid)
      exact List.mem_map_of_mem (List.mem_filter.mpr ⟨hg, List.contains_iff_mem.mpr hid⟩)
    exact Nat.le_antisymm few.length_le (List.subperm_of_subset nodup many).length_le

/-- Tags are loaded if all are there. -/
theorem loadTags_ok (distinct : (rows.map (·.id)).Nodup)
    (known : ∀ id ∈ ids, id ∈ rows.map (·.id)) : ∃ tags, loadTags rows ids = .ok tags := by
  have all : ∀ id ∈ ids.eraseDups, id ∈ rows.map (·.id) := fun id hid =>
    known id (List.mem_eraseDups.mp hid)
  have counted := (length_found_iff distinct (Tables.nodup_eraseDups ids)).mpr all
  simp only [loadTags]
  rw [if_neg (not_not.mpr counted)]
  refine exists_mapM_ok fun id hid => ?_
  obtain ⟨g, hg, rfl⟩ := List.mem_map.mp (all id hid)
  have found : ((rows.filter fun g => ids.eraseDups.contains g.id).find?
      fun v => v.id = g.id).isSome := by
    rw [List.find?_isSome]
    exact ⟨g, List.mem_filter.mpr ⟨hg, List.contains_iff_mem.mpr hid⟩, decide_eq_true rfl⟩
  obtain ⟨g', hg'⟩ := Option.isSome_iff_exists.mp found
  exact ⟨g', by rw [hg']⟩

/-- Tags are refused if one is not there. -/
theorem loadTags_refused (distinct : (rows.map (·.id)).Nodup)
    (unknown : ∃ id ∈ ids, id ∉ rows.map (·.id)) : loadTags rows ids = refuse .noSuchTags := by
  obtain ⟨id, hid, absent⟩ := unknown
  have short : (rows.filter fun g => ids.eraseDups.contains g.id).length ≠ ids.eraseDups.length :=
    fun counted => absent ((length_found_iff distinct (Tables.nodup_eraseDups ids)).mp counted id
      (List.mem_eraseDups.mpr hid))
  simp only [loadTags]
  rw [if_pos short]

/-- Loaded tags are those that were asked for, each once. -/
theorem ids_of_loadTags {tags : List TagRow} (h : loadTags rows ids = .ok tags) :
    tags.map (·.id) = ids.eraseDups := by
  unfold loadTags at h
  simp only at h
  split at h
  · exact absurd h refuse_ne_ok
  · refine map_of_mapM (fun id g found => ?_) h
    split at found
    · rename_i g' hfound
      rw [← Except.ok.inj found]
      simpa using List.find?_some hfound
    · cases found

/-- Tags that may be left out are loaded if none is unknown. -/
theorem exists_mapM_loadTags (distinct : (rows.map (·.id)).Nodup) {o : Option (List String)}
    (known : ¬∃ ids, o = some ids ∧ ∃ id ∈ ids, id ∉ rows.map (·.id)) :
    ∃ tags, o.mapM (loadTags rows) = .ok tags ∧
      tags.map (fun gs => gs.map (·.id)) = o.map List.eraseDups := by
  cases o with
  | none => exact ⟨none, rfl, rfl⟩
  | some ids =>
    obtain ⟨tags, loaded⟩ := loadTags_ok distinct fun id hid => by
      by_contra absent
      exact known ⟨ids, rfl, id, hid, absent⟩
    refine ⟨some tags, ?_, congrArg some (ids_of_loadTags loaded)⟩
    rw [Option.mapM_some, loaded]
    rfl

end Posts

/-! ## Failures of the tables -/

/-- An error that comes from the tables: a broken constraint, or a row that is gone. -/
def Escape.isOfTables : Escape → Bool
  | .constraint _ | .lostTag _ | .lostRow => true
  | _ => false

/-- An error about records: one that comes from the tables, or a record that does not fit the form
of its answer. -/
def Escape.isOfRecords : Escape → Bool
  | .unfitAnswer _ => true
  | e => e.isOfTables

def Failure.isOfRecords : Failure → Bool
  | .escaped e => e.isOfRecords
  | _ => false

theorem Escape.isOfTables_of_isOfRecords {e : Escape} (h : e.isOfRecords = false) :
    e.isOfTables = false := by
  cases e with
  | unfitAnswer fs => rfl
  | _ => exact h

/-- A part of a request does not fail on account of records. -/
def Sane {α : Type} (x : Except Failure α) : Prop := ∀ f, x = .error f → f.isOfRecords = false

namespace Sane

variable {α β : Type} {x : Except Failure α} {k : α → Except Failure β}

theorem ok (a : α) : Sane (.ok a : Except Failure α) := fun f h => by cases h

theorem error {f : Failure} (h : f.isOfRecords = false) : Sane (.error f : Except Failure α) :=
  fun _ same => Except.error.inj same ▸ h

theorem bind (hx : Sane x) (hk : ∀ a, x = .ok a → Sane (k a)) : Sane (x >>= k) := by
  cases x with
  | error f => exact error (hx f rfl)
  | ok a => exact hk a rfl

/-- A check whose result is not looked at. -/
theorem discarded {y : PUnit → Except Failure β} (hx : Sane x) (hy : Sane (y ⟨⟩)) :
    Sane (discard x >>= y) := by
  cases x with
  | error f => exact error (hx f rfl)
  | ok a => exact hy

theorem map (h : Sane x) {g : α → β} : Sane (x.map g) := by
  cases x with
  | error f => exact error (h f rfl)
  | ok a => exact ok (g a)

theorem of_eq {a : α} (h : x = .ok a) : Sane x := h ▸ ok a

theorem refused (refusal : Refusal) : Sane (refuse refusal : Except Failure α) := error rfl

theorem orRefused (refusal : Refusal) (o : Option α) : Sane (orRefuse refusal o) := by
  cases o with
  | none => exact refused refusal
  | some a => exact ok a

/-- A guard is sane if what comes behind it is. -/
theorem guard {c : Prop} [Decidable c] {refusal : Refusal} {k : PUnit → Except Failure β}
    (h : ¬c → Sane (k ⟨⟩)) : Sane (if c then refuse refusal >>= k else k ⟨⟩) := by
  by_cases hc : c
  · rw [if_pos hc]
    exact refused refusal
  · rw [if_neg hc]
    exact h hc

theorem checked (kind : Kind) (id : Option String) (blank : Column → Bool) :
    Sane (checkPresence kind id blank) := by
  unfold checkPresence
  split
  · exact ok ()
  · exact error rfl

theorem free (t : Tables) (name : String) : Sane (Tags.checkFree t name) := by
  unfold Tags.checkFree
  split
  · exact refused _
  · exact ok ()

theorem escaping {ε : Type} {y : Except ε α} {g : ε → Escape}
    (h : ∀ e, (Failure.escaped (g e)).isOfRecords = false) :
    Sane (y.mapError fun e => Failure.escaped (g e)) := by
  cases y with
  | error e => exact error (h e)
  | ok a => exact ok a

end Sane

/-! ## Rows that can be written -/

namespace Service

variable {settings : Settings} {now : Instant} {s : Store} {r : Request} {e : Endpoint}

theorem sane_register (hs : Sound s) (f : Users.Registration) : Sane (Users.register s now f) := by
  simp only [Users.register]
  split
  · exact .refused _
  rename_i named
  split
  · exact .refused _
  rename_i mailed
  refine (Sane.escaping fun _ => rfl).bind fun hash _ => ?_
  have idFree : s.tables.user? (s.nextId .user).1 = none := hs.users.find?_next
  have added : (s.nextId .user).2.addUser (f.row s now hash) = .ok _ :=
    Store.addUser_eq_ok.mpr ⟨not_isSome.mp mailed, not_isSome.mp named, idFree, rfl⟩
  exact (Sane.of_eq (commit_eq_ok.mpr added)).bind fun _ _ => .ok _

theorem sane_loadTags (hs : Sound s) (ids : List String) :
    Sane (Posts.loadTags s.tables.tags ids) := by
  by_cases all : ∀ id ∈ ids, id ∈ s.tables.tags.map (·.id)
  · obtain ⟨tags, htags⟩ := Posts.loadTags_ok hs.tags.distinct all
    exact .of_eq htags
  · have unknown : ∃ id ∈ ids, id ∉ s.tables.tags.map (·.id) := by
      simpa only [not_forall, exists_prop] using all
    have refused : Posts.loadTags s.tables.tags ids = refuse .noSuchTags :=
      Posts.loadTags_refused hs.tags.distinct unknown
    exact refused ▸ .refused _

/-- Tags that were loaded can be linked to a post that is there. -/
theorem setTags_loaded {t : Store} {id : String} {ids : List String} {tags : List TagRow}
    (post : id ∈ t.tables.posts.map (·.id)) (same : t.tables.tags = s.tables.tags)
    (loaded : Posts.loadTags s.tables.tags ids = .ok tags) :
    t.setTags id (tags.map (·.id)) = .ok (t.change (·.setTags id (tags.map (·.id)))) := by
  unfold Store.setTags
  refine if_pos (List.all_eq_true.mpr fun g hg => Store.knowsBoth_of_mem post ?_)
  have mem := List.mem_of_mem_filter (List.mem_eraseDups.mp hg)
  exact same ▸ Posts.mem_ids_of_loadTags loaded g mem

theorem sane_createPost (hs : Sound s) {u : UserRow} (known : u.id ∈ s.tables.users.map (·.id))
    (f : Posts.Draft) : Sane (Posts.create s now u f) := by
  refine (sane_loadTags hs f.tagIds).bind fun tags loaded => ?_
  refine (Sane.checked _ _ _).bind fun _ _ => ?_
  have idFree : s.tables.post? (s.nextId .post).1 = none := hs.posts.find?_next
  have added : (s.nextId .post).2.addPost (f.row s now u) = .ok _ :=
    Store.addPost_eq_ok.mpr ⟨idFree, Store.knowsUser_of_mem known, rfl⟩
  refine (Sane.of_eq (commit_eq_ok.mpr added)).bind fun t ht => ?_
  obtain rfl := Except.ok.inj ((commit_eq_ok.mpr added).symm.trans ht)
  have post : (f.row s now u).id ∈ ((s.tables.addPost (f.row s now u)).posts.map (·.id)) :=
    List.mem_map_of_mem List.mem_concat_self
  have linked := setTags_loaded (t := (s.nextId .post).2.change (·.addPost (f.row s now u)))
    post rfl loaded
  exact (Sane.of_eq (commit_eq_ok.mpr linked)).bind fun _ _ => .ok _

/-- The tags of a post that is written anew can be set. -/
theorem setTags_rewritten (now : Instant) {p : PostRow}
    (found : s.tables.post? p.id = some p) (f : Posts.Edit)
    (doc : DocumentRow) {ids : List String} {tags : List TagRow}
    (loaded : Posts.loadTags s.tables.tags ids = .ok tags) :
    let t := (s.change (·.setPostRow p.id (f.write now p p))).change (·.index doc)
    t.setTags p.id (tags.map (·.id)) = .ok (t.change (·.setTags p.id (tags.map (·.id)))) := by
  have keys : (s.tables.setPostRow p.id (f.write now p p)).posts.map (·.id) =
      s.tables.posts.map (·.id) := Tables.map_key_put rfl
  have post : p.id ∈ (s.tables.setPostRow p.id (f.write now p p)).posts.map (·.id) :=
    keys ▸ List.mem_map_of_mem (f := fun q => q.id) (Tables.post?_mem found)
  exact setTags_loaded post rfl loaded

theorem sane_finishUpdate (hs : Sound s) {p : PostRow} (found : s.tables.post? p.id = some p)
    (f : Posts.Edit) : Sane (Posts.finishUpdate s now p f) := by
  unfold Posts.finishUpdate
  split
  · exact .ok _
  have loading : Sane (f.tagIds.mapM (Posts.loadTags s.tables.tags)) := by
    cases f.tagIds with
    | none => exact .ok _
    | some ids => exact (sane_loadTags hs ids).bind fun _ _ => .ok _
  refine loading.bind fun tags loaded => (Sane.checked _ _ _).bind fun _ _ => ?_
  rw [found]
  cases tags with
  | none => exact .ok _
  | some tags =>
    have linked := setTags_rewritten now found f
      ⟨Kind.post.table, p.id, PostRow.content (f.titleOf p) (f.bodyOf p)⟩
      (Posts.loadTags_of_mapM loaded)
    exact Sane.of_eq (commit_eq_ok.mpr linked)

theorem sane_updatePost (hs : Sound s) {u : UserRow} (id : String) (f : Posts.Edit) :
    Sane (Posts.update s now u id f) := by
  refine (Sane.orRefused _ _).bind fun p found => ?_
  have there := orRefuse_eq_ok.mp found
  dsimp only
  split
  · exact .refused _
  have written : Sane (Posts.finishUpdate s now p f) :=
    sane_finishUpdate hs (Tables.post?_id there ▸ there) f
  exact written.bind fun t _ => (Sane.orRefused _ _).bind fun _ _ => .ok _

theorem sane_createComment (hs : Sound s) {u : UserRow} (known : u.id ∈ s.tables.users.map (·.id))
    (postId body : String) : Sane (Comments.create s now u postId body) := by
  refine (Sane.orRefused _ _).bind fun p _ => (Sane.checked _ _ _).bind fun _ _ => ?_
  have idFree : s.tables.comment? (s.nextId .comment).1 = none := hs.comments.find?_next
  have added : (s.nextId .comment).2.addComment (Comments.row s now u p.id body) = .ok _ :=
    Store.addComment_eq_ok.mpr ⟨idFree, Store.knowsUser_of_mem known, rfl⟩
  exact (Sane.of_eq (commit_eq_ok.mpr added)).bind fun _ _ => .ok _

theorem sane_updateComment {u : UserRow} (postId id body : String) :
    Sane (Comments.update s now u postId id body) := by
  refine (Sane.orRefused _ _).discarded ((Sane.orRefused _ _).bind fun c _ => ?_)
  dsimp only
  split
  · exact .refused _
  · exact (Sane.checked _ _ _).bind fun _ _ => .ok _

theorem sane_deleteComment {u : UserRow} (postId id : String) :
    Sane (Comments.delete s u postId id) := by
  refine (Sane.orRefused _ _).discarded ((Sane.orRefused _ _).bind fun c _ => ?_)
  dsimp only
  split
  · exact .refused _
  · exact .ok _

theorem sane_deletePost {u : UserRow} (id : String) : Sane (Posts.delete s u id) := by
  refine (Sane.orRefused _ _).bind fun p _ => ?_
  dsimp only
  split
  · exact .refused _
  · exact .ok _

theorem sane_createTag (hs : Sound s) {u : UserRow} (known : u.id ∈ s.tables.users.map (·.id))
    (name : String) (description : Option String) : Sane (Tags.create s now u name description) := by
  refine (Sane.free _ _).bind fun _ free => (Sane.checked _ _ _).bind fun _ _ => ?_
  have nameFree := Tags.checkFree_eq_ok.mp free
  have idFree : s.tables.tag? (s.nextId .tag).1 = none := hs.tags.find?_next
  have added : (s.nextId .tag).2.addTag (Tags.row s now u name description) = .ok _ :=
    Store.addTag_eq_ok.mpr ⟨nameFree, idFree, Store.knowsUser_of_mem known, rfl⟩
  exact (Sane.of_eq (commit_eq_ok.mpr added)).bind fun _ _ => .ok _

/-- A tag can be renamed to its own name, and to a name that is free. -/
theorem nameFree_apply (unique : s.tables.Unique) {g : TagRow} (hg : g ∈ s.tables.tags)
    (f : Tags.Edit) (free : ∀ name, f.newName? g = some name → s.tables.tagNamed? name = none) :
    ∀ h ∈ s.tables.tags, h.name = (f.apply now g).name → h.id = (f.apply now g).id := by
  intro h hh same
  cases hnew : f.newName? g with
  | none =>
    have kept : (f.apply now g).name = g.name := by rw [Tags.Edit.apply, hnew, Option.getD_none]
    have own : h = g := List.inj_on_of_nodup_map unique.tagNames hh hg (same.trans kept)
    rw [own]
    rfl
  | some name =>
    have renamed : (f.apply now g).name = name := by
      rw [Tags.Edit.apply, hnew, Option.getD_some]
    exact absurd (same.trans renamed) (Tables.tagNamed?_eq_none.mp (free name hnew) h hh)

theorem sane_updateTag (unique : s.tables.Unique) {u : UserRow} (id : String) (f : Tags.Edit) :
    Sane (Tags.update s now u id f) := by
  refine (Sane.orRefused _ _).bind fun g found => ?_
  have hg := List.mem_of_find?_eq_some (orRefuse_eq_ok.mp found)
  dsimp only
  split
  · exact .refused _
  have written : (∀ name, f.newName? g = some name → s.tables.tagNamed? name = none) →
      Sane (commit (s.setTag (f.apply now g)) >>= fun t =>
        .ok (Done.changed t (.tag (f.apply now g)) [])) := fun free =>
    (Sane.of_eq (commit_eq_ok.mpr (Store.setTag_eq_ok.mpr
      ⟨nameFree_apply unique hg f free, rfl⟩))).bind fun _ _ => .ok _
  split
  · rename_i name hnew
    refine (Sane.free _ _).bind fun _ free => ?_
    have known : ∀ other, f.newName? g = some other → s.tables.tagNamed? other = none := by
      intro other hother
      rw [Option.some.inj (hother.symm.trans hnew)]
      exact Tags.checkFree_eq_ok.mp free
    split
    · exact (Sane.checked _ _ _).bind fun _ _ => written known
    · exact written known
  · rename_i hnew
    have known : ∀ other, f.newName? g = some other → s.tables.tagNamed? other = none := by
      intro other hother
      rw [hnew] at hother
      cases hother
    split
    · exact (Sane.checked _ _ _).bind fun _ _ => written known
    · exact written known

theorem sane_deleteTag {u : UserRow} (id : String) : Sane (Tags.delete s u id) := by
  refine (Sane.orRefused _ _).bind fun p _ => ?_
  dsimp only
  split
  · exact .refused _
  · exact .ok _

/-! ## Requests -/

theorem sane_read (r : Request) : Sane (Submission.read r) := by
  have value : Sane (Submission.readJson r.body) := by
    unfold Submission.readJson
    split
    · exact .refused _
    · split
      · exact .ok _
      · exact .refused _
      · exact .refused _
      · exact .error rfl
  unfold Submission.read
  split
  · exact .ok _
  split
  · exact value.map
  · exact .ok _

theorem sane_check (form : Form) (b : Submission) : Sane (b.check form) := by
  unfold Submission.check
  split
  · exact .error rfl
  · split
    · exact .ok _
    · exact .error rfl
  · split
    · exact .error rfl
    · exact .error rfl

theorem sane_caller : Sane (caller settings now s r) := by
  unfold caller Caller.ofHeader Caller.ofToken
  split
  · exact .refused _
  split
  · rename_i refusal _
    cases refusal <;> exact .error rfl
  · exact .orRefused _ _

theorem sane_withForm {form : Form} {act : Fields → Except Failure Done}
    (h : ∀ fs, Sane (act fs)) : Sane (withForm form r act) :=
  (sane_read r).bind fun b _ => (sane_check form b).bind fun fs _ => h fs

theorem sane_withCaller {act : UserRow → Except Failure Done}
    (h : ∀ u, caller settings now s r = .ok u → Sane (act u)) :
    Sane (withCaller settings now s r act) :=
  sane_caller.bind h

theorem sane_withBoth {form : Form} {act : UserRow → Fields → Except Failure Done}
    (h : ∀ u fs, caller settings now s r = .ok u → Sane (act u fs)) :
    Sane (withBoth settings now s form r act) :=
  (sane_read r).bind fun b _ => sane_caller.bind fun u called =>
    (sane_check form b).bind fun fs _ => h u fs called

theorem sane_activeCaller : Sane (activeCaller settings now s r) := by
  refine sane_caller.bind fun u _ => ?_
  unfold Caller.active
  split
  · exact .ok _
  · exact .refused _

theorem sane_search (s : Store) (r : Request) : Sane (search s r) := by
  unfold search Posts.search
  split
  · exact .error rfl
  · split
    · exact .error rfl
    · exact .ok _

/-- No endpoint fails on account of records. -/
theorem sane_run (hs : Sound s) (unique : s.tables.Unique) (r : Request) (e : Endpoint) :
    Sane (run settings now s r e) := by
  cases e with
  | register => exact sane_withForm fun _ => sane_register hs _
  | login =>
    refine sane_withForm fun fs => Sane.bind ?_ fun _ _ => .ok _
    refine (Sane.orRefused _ _).bind fun u _ => (Sane.escaping fun _ => rfl).bind fun fits _ => ?_
    split
    · exact .ok _
    · exact .refused _
  | showMe => exact sane_activeCaller.bind fun _ _ => .ok _
  | updateMe =>
    exact (sane_read r).bind fun b _ => sane_activeCaller.bind fun _ _ =>
      (sane_check _ b).bind fun _ _ => .ok _
  | createPost => exact sane_withBoth fun _ _ called => sane_createPost hs (id_of_caller called) _
  | listPosts => exact .ok _
  | searchPosts => exact sane_search s r
  | showPost id => exact (Sane.orRefused _ _).bind fun _ _ => .ok _
  | updatePost id => exact sane_withBoth fun _ _ _ => sane_updatePost hs id _
  | deletePost id => exact sane_withCaller fun _ _ => sane_deletePost id
  | createComment postId =>
    exact sane_withBoth fun _ _ called => sane_createComment hs (id_of_caller called) postId _
  | listComments postId => exact (Sane.orRefused _ _).bind fun _ _ => .ok _
  | showComment postId id =>
    exact (Sane.orRefused _ _).discarded ((Sane.orRefused _ _).bind fun _ _ => .ok _)
  | updateComment postId id => exact sane_withBoth fun _ _ _ => sane_updateComment postId id _
  | deleteComment postId id => exact sane_withCaller fun _ _ => sane_deleteComment postId id
  | createTag => exact sane_withBoth fun _ _ called => sane_createTag hs (id_of_caller called) _ _
  | listTags => exact .ok _
  | showTag id => exact (Sane.orRefused _ _).bind fun _ _ => .ok _
  | listTagPosts id => exact (Sane.orRefused _ _).bind fun _ _ => .ok _
  | updateTag id => exact sane_withBoth fun _ _ _ => sane_updateTag unique id _
  | deleteTag id => exact sane_withCaller fun _ _ => sane_deleteTag id

/-! ## Answers -/

/-- An answer that cannot be written is no fault of the tables. -/
theorem reply_sane {v : View} {status : Nat} {e : Escape} (h : v.reply status = .error e) :
    e.isOfTables = false := by
  have checked : ∀ {form fields rest}, View.checked form fields rest = .error e →
      e.isOfTables = false := by
    intro form fields rest h
    unfold View.checked at h
    split at h
    · cases h
    · exact Except.error.inj h ▸ rfl
  have mapped : ∀ {α β : Type} {x : Except Escape α} {g : α → β}, x.map g = .error e →
      x = .error e := by
    intro α β x g h
    cases x with
    | error e' => exact congrArg _ (Except.error.inj h)
    | ok a => cases h
  have fault := mapped h
  cases v with
  | user u => exact checked (mapped fault)
  | post p => exact checked (mapped fault)
  | posts ps =>
    obtain ⟨p, -, hp⟩ := exists_of_mapM_error (mapped fault)
    exact checked hp
  | comment c => exact checked (mapped fault)
  | comments cs =>
    obtain ⟨c, -, hc⟩ := exists_of_mapM_error (mapped fault)
    exact checked hc
  | tag g => exact checked (mapped fault)
  | tags gs =>
    obtain ⟨g, -, hg⟩ := exists_of_mapM_error (mapped fault)
    exact checked hg
  | token issued =>
    cases issued with
    | error x => exact Except.error.inj fault ▸ rfl
    | ok t => cases fault
  | nothing => cases fault

theorem failure_sane {f : Failure} {e : Escape} (hf : f.isOfRecords = false)
    (h : f.reply = .error e) : e.isOfRecords = false := by
  cases f with
  | refused refusal => cases h
  | faults fs =>
    unfold Failure.reply at h
    dsimp only at h
    split at h
    · cases h
    · exact Except.error.inj h ▸ rfl
  | invalid kind id cs => cases h
  | escaped e' => exact Except.error.inj h ▸ hf

/-- An error that ends a request is that of a failure which is not on account of records, or it comes
from the answer of an endpoint that succeeds. -/
theorem handle_error (hs : Sound s) (unique : s.tables.Unique) {e : Escape}
    (h : (handle settings now s r).2.1 = .error e) : e.isOfRecords = false ∨
      ∃ endpoint d, Endpoint.route r.method r.path = .found endpoint ∧
        run settings now s r endpoint = .ok d ∧ d.view.reply d.status = .error e := by
  have observed : ∀ {o : Except Escape Reply}, (RequestLog.observe Escape.message r o).1 = .error e →
      o = .error e := by
    intro o h
    cases o with
    | error e' => exact h
    | ok reply =>
      simp only [RequestLog.observe] at h
      split at h <;> cases h
  have outcome := observed h
  split at outcome
  · cases outcome
  · cases outcome
  · rename_i endpoint hroute
    split at outcome
    · rename_i f hrun
      exact .inl (failure_sane (sane_run hs unique r endpoint f hrun) outcome)
    · rename_i d hrun
      exact .inr ⟨endpoint, d, hroute, hrun, outcome⟩

/-- No request ends in an error of the tables. -/
theorem handle_sane (hs : Sound s) (unique : s.tables.Unique) (now : Instant) (r : Request)
    {e : Escape} (h : (handle settings now s r).2.1 = .error e) : e.isOfTables = false := by
  obtain sane | ⟨_, _, -, -, fault⟩ := handle_error hs unique h
  · exact e.isOfTables_of_isOfRecords sane
  · exact reply_sane fault

/-! ## Failing requests -/

/-- A request fails: the store stays as it was, and the answer is that of the failure. -/
structure Fails (settings : Settings) (now : Instant) (s : Store) (r : Request) (f : Failure) :
    Prop where
  unchanged : (handle settings now s r).1 = s
  answered : (handle settings now s r).2.1 = f.reply.map RequestLog.whole

/-- A request is refused with a status: nothing changes, and the answer says why. -/
def Refuses (settings : Settings) (now : Instant) (s : Store) (r : Request) (status : Nat)
    (refusal : Refusal) : Prop :=
  refusal.status = status ∧ Fails settings now s r (.refused refusal)

theorem fails_of_run {f : Failure} (hroute : Endpoint.route r.method r.path = .found e)
    (hrun : run settings now s r e = .error f) : Fails settings now s r f := by
  refine ⟨?_, ?_⟩
  · simp only [handle, respond, hroute, hrun]
  · simp only [handle, respond, hroute, hrun]
    have failed := statusOf_failure f
    cases hreply : f.reply with
    | error x => rfl
    | ok reply =>
      rw [hreply] at failed
      have noted : RequestLog.leastFailure ≤ reply.status := failed
      simp only [RequestLog.observe, RequestLog.whole_gathered]
      rw [if_pos noted]
      rfl

end Service

end Weblog
