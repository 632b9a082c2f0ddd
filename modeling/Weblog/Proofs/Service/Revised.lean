/-
  The tables after a change of a post: what the post then says, which tags it carries, and what its
  document is, for every change that succeeds. All other rows of all tables stay.

  A change of a post depends on the tags that are given as a set. The tables come out alike for other
  orders and for repetitions, where links stand in no order.
-/
import Weblog.Proofs.Schema.Given
import Weblog.Proofs.Service.Changed

namespace Weblog

/-! ## Revised tables -/

/-- The same rows in every table. -/
structure Tables.Alike (t t' : Tables) : Prop where
  users : t'.users = t.users
  posts : t'.posts = t.posts
  comments : t'.comments = t.comments
  tags : t'.tags = t.tags
  documents : t'.documents = t.documents
  links : t'.links.Perm t.links

namespace Posts

/-- What a change at a time makes of the tables, and of a post. Texts that are not given stay, and so
do links if no tags are given. -/
structure Edit.Revises (e : Edit) (now : Instant) (p p' : PostRow) (t t' : Tables) : Prop where
  title : p'.title = e.title.or p.title
  body : p'.body = e.body.or p.body
  updatedAt : p'.updatedAt = if p'.title = p.title ∧ p'.body = p.body then p.updatedAt else now
  stays : p'.id = p.id ∧ p'.userId = p.userId ∧ p'.createdAt = p.createdAt
  posts : t'.posts = t.posts.map fun q => if q.id = p.id then p' else q
  linked : ∀ ids, e.tagIds = some ids → ∀ tag, (⟨p.id, tag⟩ : Link) ∈ t'.links ↔ tag ∈ ids
  unlinked : e.tagIds = none → t'.links = t.links
  otherLinks : t'.links.filter (·.postId ≠ p.id) = t.links.filter (·.postId ≠ p.id)
  distinct : t'.links.Nodup
  document : ∃ title body, p'.title = some title ∧ p'.body = some body ∧
    t'.documents.filter (·.recordId = p.id) =
      [⟨"posts", p.id, Text.lower (title ++ " " ++ body)⟩]
  otherDocuments : t'.documents.filter (·.recordId ≠ p.id) =
    t.documents.filter (·.recordId ≠ p.id)
  users : t'.users = t.users
  comments : t'.comments = t.comments
  tags : t'.tags = t.tags

/-- Changes that give the same texts, and the same tags in some order, some of them several times. -/
structure Edit.Alike (e e' : Edit) : Prop where
  title : e.title = e'.title
  body : e.body = e'.body
  tagIds : Option.Rel (fun ids ids' => ∀ tag, tag ∈ ids ↔ tag ∈ ids') e.tagIds e'.tagIds

variable {e e' : Edit} {now : Instant} {p : PostRow} {t : Tables}

/-! ## Parts -/

theorem updatedAt_write (e : Edit) (now : Instant) (p : PostRow) : (e.write now p p).updatedAt =
    if (e.write now p p).title = p.title ∧ (e.write now p p).body = p.body then p.updatedAt
    else now := by
  rw [Service.write_title, Service.write_body]
  rfl

/-- A row that takes its own place leaves the table alone. -/
theorem map_put_self (distinct : (t.posts.map (·.id)).Nodup) (there : p ∈ t.posts) :
    (t.posts.map fun q => if q.id = p.id then p else q) = t.posts := by
  refine (List.map_congr_left fun q hq => ?_).trans (List.map_id _)
  by_cases same : q.id = p.id
  · rw [if_pos same, List.inj_on_of_nodup_map distinct hq there same]
    rfl
  · rw [if_neg same]
    rfl

theorem posts_applied (e : Edit) (now : Instant) (distinct : (t.posts.map (·.id)).Nodup)
    (there : p ∈ t.posts) :
    (e.applied now p t).posts = t.posts.map fun q => if q.id = p.id then e.write now p p else q := by
  unfold Edit.applied
  cases touching : e.isTouching with
  | false =>
    rw [write_untouched touching, map_put_self distinct there]
    rfl
  | true => cases e.tagIds <;> rfl

theorem links_applied (e : Edit) (now : Instant) (p : PostRow) (t : Tables) :
    (e.applied now p t).links = match e.tagIds with
      | none => t.links
      | some ids => (t.setTags p.id ids.eraseDups).links := by
  unfold Edit.applied
  cases touching : e.isTouching with
  | false =>
    have none : e.tagIds = none := by
      simp only [Edit.isTouching, Bool.or_eq_false_iff, Option.isSome_eq_false_iff,
        Option.isNone_iff_eq_none] at touching
      exact touching.2
    rw [none]
    rfl
  | true => cases e.tagIds <;> rfl

theorem otherDocuments_applied : (e.applied now p t).documents.filter (·.recordId ≠ p.id) =
    t.documents.filter (·.recordId ≠ p.id) := by
  unfold Edit.applied
  cases e.isTouching with
  | false => rfl
  | true =>
    have written : (t.rewritePost (e.write now p p) (e.tagIds.map List.eraseDups)).documents =
        (t.index (e.write now p p).document).documents := by
      cases e.tagIds <;> rfl
    have own : (e.write now p p).document.recordId = p.id := rfl
    rw [if_pos rfl, written, ← own]
    exact Tables.otherDocuments_index

theorem rest_applied (e : Edit) (now : Instant) (p : PostRow) (t : Tables) :
    (e.applied now p t).users = t.users ∧
    (e.applied now p t).comments = t.comments ∧ (e.applied now p t).tags = t.tags := by
  unfold Edit.applied
  cases e.isTouching with
  | false => exact ⟨rfl, rfl, rfl⟩
  | true => cases e.tagIds <;> exact ⟨rfl, rfl, rfl⟩

/-- Changes that are alike leave the same rows. -/
theorem applied_alike (same : e.Alike e') : (e.applied now p t).Alike (e'.applied now p t) := by
  obtain ⟨title, body, tagIds⟩ := e
  obtain ⟨title', body', tagIds'⟩ := e'
  obtain ⟨rfl, rfl, ids⟩ := same
  cases ids with
  | none => exact ⟨rfl, rfl, rfl, rfl, rfl, List.Perm.refl _⟩
  | @some ids ids' same =>
    have touching : Edit.isTouching ⟨title, body, some ids⟩ = true ∧
        Edit.isTouching ⟨title, body, some ids'⟩ = true := by simp [Edit.isTouching]
    have once : ∀ tag, tag ∈ ids'.eraseDups ↔ tag ∈ ids.eraseDups := fun tag => by
      rw [List.mem_eraseDups, List.mem_eraseDups, same]
    rw [Edit.applied, Edit.applied, if_pos touching.1, if_pos touching.2]
    exact ⟨rfl, rfl, rfl, rfl, rfl, Tables.links_setTags_perm once⟩

/-- A change that is allowed revises the tables, if they are sound before and after. -/
theorem revises_of_applied {s s' : Store} (hs : Service.Sound s) (hs' : Service.Sound s')
    (once : s'.tables.links.Nodup) (there : p ∈ s.tables.posts)
    (left : s'.tables = e.applied now p s.tables) :
    e.Revises now p (e.write now p p) s.tables s'.tables := by
  have found := hs.posts.find?_of_mem there
  have links := links_applied e now p s.tables
  obtain ⟨users, comments, tags⟩ := rest_applied e now p s.tables
  have written : e.write now p p ∈ s'.tables.posts := by
    rw [left]
    exact Tables.post?_mem (post?_applied found)
  obtain ⟨title, body, htitle, hbody, document⟩ :=
    Service.document_of_valid (hs'.valid.posts _ written)
  have documents := hs'.indexed.documents_of hs'.posts.distinct written
  rw [left] at once documents ⊢
  exact {
    title := Service.write_title e p
    body := Service.write_body e p
    updatedAt := updatedAt_write e now p
    stays := ⟨rfl, rfl, rfl⟩
    posts := posts_applied e now hs.posts.distinct there
    linked := fun ids given tag => by
      rw [links, given, Tables.mem_links_setTags, if_pos rfl, List.mem_eraseDups]
    unlinked := fun none => by rw [links, none]
    otherLinks := by
      rw [links]
      cases e.tagIds with
      | none => rfl
      | some ids => exact Tables.otherLinks_setTags
    distinct := once
    document := ⟨title, body, htitle, hbody, document ▸ documents⟩
    otherDocuments := otherDocuments_applied
    users := users
    comments := comments
    tags := tags }

end Posts

/-! ## Requests -/

namespace Service

variable {settings : Settings} {now : Instant} {s : Store} {r : Request} {id : String}

/-- A change of a post that is answered with success applies what is submitted. -/
theorem applied_of_success
    (hroute : Endpoint.route r.method r.path = .found (.updatePost id))
    (done : statusOf (handle settings now s r).2.1 = 200) : ∃ fields p,
      Submission.read r = .ok (.value (.obj fields)) ∧ s.tables.post? id = some p ∧
      (handle settings now s r).1.tables = (Posts.Edit.ofFields fields).applied now p s.tables := by
  obtain ⟨d, hrun⟩ := run_of_success hroute (by rw [done]; decide)
  obtain ⟨u, fs, -, form, hupdate⟩ := withBoth_ok hrun
  obtain ⟨fields, hread, checked⟩ := read_of_submitted form
  obtain ⟨p, found, -, rfl⟩ := Posts.update_ok hupdate
  refine ⟨fields, p, hread, found, ?_⟩
  rw [(handle_of_run hroute hrun).1, edit_given checked]
  rfl

/-- In every store that visits lead to, a change of a post that is answered with success revises the
tables as `Posts.Edit.Revises` says, with the texts and the tags of the object that was submitted. Two
changes that give the same texts, and tags in another order or several times, leave the same rows. -/
theorem post_revised (reach : Reachable settings s) (now : Instant) (id : String) :
    (∀ r, Endpoint.route r.method r.path = .found (.updatePost id) →
      statusOf (handle settings now s r).2.1 = 200 → ∃ fields p p',
        Submission.read r = .ok (.value (.obj fields)) ∧ s.tables.post? id = some p ∧
        (Posts.Edit.ofFields fields).Revises now p p' s.tables
          (handle settings now s r).1.tables) ∧
    ∀ r r' fields fields', Endpoint.route r.method r.path = .found (.updatePost id) →
      Endpoint.route r'.method r'.path = .found (.updatePost id) →
      statusOf (handle settings now s r).2.1 = 200 →
      statusOf (handle settings now s r').2.1 = 200 →
      Submission.read r = .ok (.value (.obj fields)) →
      Submission.read r' = .ok (.value (.obj fields')) →
      (Posts.Edit.ofFields fields).Alike (Posts.Edit.ofFields fields') →
      (handle settings now s r).1.tables.Alike (handle settings now s r').1.tables := by
  constructor
  · intro r hroute done
    obtain ⟨fields, p, hread, found, left⟩ := applied_of_success hroute done
    have after : Reachable settings (handle settings now s r).1 := reach.visit ⟨now, r⟩
    exact ⟨fields, p, _, hread, found, Posts.revises_of_applied reach.sound after.sound
      after.referenced.distinct (Tables.post?_mem found) left⟩
  · intro r r' fields fields' hroute hroute' done done' given given' same
    obtain ⟨_, p, hread, found, left⟩ := applied_of_success hroute done
    obtain ⟨_, q, hread', found', left'⟩ := applied_of_success hroute' done'
    obtain rfl := Option.some.inj (found.symm.trans found')
    cases given.symm.trans hread
    cases given'.symm.trans hread'
    rw [left, left']
    exact Posts.applied_alike same

/-- The second post gets the same tags whether they are given in order, or out of order and one of
them twice. -/
theorem retag_alike : Reachable .default blogged ∧
    statusOf (handle .default ⟨4⟩ blogged (retag ["tag-1", "tag-2"])).2.1 = 200 ∧
    statusOf (handle .default ⟨4⟩ blogged (retag ["tag-2", "tag-1", "tag-2"])).2.1 = 200 ∧
    (handle .default ⟨4⟩ blogged (retag ["tag-1", "tag-2"])).1.tables.Alike
      (handle .default ⟨4⟩ blogged (retag ["tag-2", "tag-1", "tag-2"])).1.tables := by
  have once : statusOf (handle .default ⟨4⟩ blogged (retag ["tag-1", "tag-2"])).2.1 = 200 :=
    done_retag [tagOfAnn 1 "red", tagOfAnn 2 "blue"] (by decide +kernel) (by decide +kernel)
  have twice : statusOf (handle .default ⟨4⟩ blogged (retag ["tag-2", "tag-1", "tag-2"])).2.1 = 200 :=
    done_retag [tagOfAnn 2 "blue", tagOfAnn 1 "red"] (by decide +kernel) (by decide +kernel)
  have same : ∀ tag : String, tag ∈ ["tag-1", "tag-2"] ↔ tag ∈ ["tag-2", "tag-1", "tag-2"] := by
    simp [or_comm]
  have alike : Posts.Edit.Alike ⟨some "Another title", none, some ["tag-1", "tag-2"]⟩
      ⟨some "Another title", none, some ["tag-2", "tag-1", "tag-2"]⟩ := ⟨rfl, rfl, .some same⟩
  refine ⟨reachable_blog, once, twice, ?_⟩
  exact (post_revised reachable_blog ⟨4⟩ bothPost.id).2 _ _ _ _ (route_retag _) (route_retag _)
    once twice (read_retag _) (read_retag _) alike

end Service

end Weblog
