/-
  Listings: all requests that read posts and comments give one picture of the tables.

  The picture is one list of objects, each post once and newest first. A listing by author and tag
  is the part of it that shows them, although it goes through the join of posts and tags. The posts
  of a tag, a single post and what a search finds come from the same objects, and the comments of a
  post are as many as its object counts. Times are distinct, so that the order is settled.
-/
import Weblog.Proofs.Search.Found
import Weblog.Proofs.Service.Orphans
import Weblog.Proofs.Service.Taken
import Weblog.Proofs.Store.References

namespace Weblog

/-! ## Fields of objects -/

/-- Whether a field is a text. -/
def Json.hasText (name value : String) (j : Json) : Bool := j.field? name = some (.str value)

/-- Whether a field is a list with a text in it. -/
def Json.listsText (name value : String) (j : Json) : Bool :=
  match j.field? name with
  | some (.arr items) => items.any fun item => item = .str value
  | _ => false

/-- Whether the object of a post shows the author and the tag that are asked for. -/
def Posts.Selection.admits (sel : Posts.Selection) (j : Json) : Bool :=
  ((Posts.asked sel.author).all fun u => j.hasText "user_id" u) &&
    (Posts.asked sel.tag).all fun g => j.listsText "tag_ids" g

/-! ## Comments -/

namespace Tables

variable {t : Tables} {postId : String}

theorem commentsOf_perm (t : Tables) (postId : String) :
    (t.commentsOf postId).Perm (t.commentsWith postId) := List.mergeSort_perm _ _

/-- Comments that were written at different times are listed oldest first. -/
theorem commentsOf_pairwise (distinct : (t.comments.map (·.createdAt)).Nodup) (postId : String) :
    (t.commentsOf postId).Pairwise fun c d => c.createdAt.micros < d.createdAt.micros :=
  Search.mergeSort_pairwise_lt (fun c : CommentRow => c.createdAt.micros)
    (Search.nodup_micros (distinct.sublist (List.filter_sublist.map _)))

end Tables

namespace Service

variable {settings : Settings} {now : Instant} {s : Store} {r : Request} {e : Endpoint}

/-! ## Answers -/

/-- A request is answered with a value, and with success. -/
def Shows (settings : Settings) (now : Instant) (s : Store) (r : Request) (j : Json) : Prop :=
  (handle settings now s r).2.1 = .ok (Reply.json 200 [] j)

theorem shows_of_run {s' : Store} {v : View} {j : Json}
    (hroute : Endpoint.route r.method r.path = .found e)
    (hrun : run settings now s r e = .ok (Done.read s' v)) (shown : v.toJson? = .ok (some j)) :
    Shows settings now s r j := by
  have reply : v.reply 200 = .ok (Reply.json 200 [] j) := by
    rw [View.reply, shown]
    rfl
  have success : (Reply.json 200 [] j).status < 400 := by
    show 200 < 400
    decide
  exact handle_reply hroute hrun reply success

/-! ## Posts -/

section Posts

open Posts (asked isBy candidates)

/-- The posts of a listing are those that carry the tag that is asked for, if one is. -/
theorem candidates_perm (hs : Sound s) (referenced : s.tables.Referenced) (tag : Option String) :
    (candidates s.tables tag).Perm
      (s.tables.posts.filter fun p => (asked tag).all fun g => s.tables.carries p.id g) := by
  unfold candidates
  cases asked tag with
  | none =>
    simp only [Option.all_none, List.filter_true]
    exact List.Perm.refl _
  | some g => exact Tables.besideTag_perm hs.posts.distinct hs.tags.distinct referenced g

-- The objects of posts; `shown` says that they are what is answered.
variable {object : PostRow → Json}
  (shown : ∀ p ∈ s.tables.posts, View.postJson (s.tables.view p) = .ok (object p))

include shown

/-- An object shows the tags that its post carries. -/
theorem listsText_object (referenced : s.tables.Referenced) {p : PostRow} (hp : p ∈ s.tables.posts)
    (tag : String) : (object p).listsText "tag_ids" tag = s.tables.carries p.id tag := by
  have tags : (object p).field? "tag_ids" =
      some (.arr (((s.tables.tagsOf p.id).map (·.id)).map .str)) :=
    field?_of_checked (shown p hp) (by decide)
  rw [Bool.eq_iff_iff, ← Tables.mem_tagsOf_ids referenced, Json.listsText, tags]
  simp [List.any_eq_true]

/-- A selection admits the objects of the posts that it selects. -/
theorem admits_object (referenced : s.tables.Referenced) (sel : Posts.Selection) {p : PostRow}
    (hp : p ∈ s.tables.posts) : sel.admits (object p) =
      (isBy sel.author p && (asked sel.tag).all fun g => s.tables.carries p.id g) := by
  have author : (object p).field? "user_id" = some (.str p.userId) :=
    field?_of_checked (shown p hp) (by decide)
  have written : ((asked sel.author).all fun u => (object p).hasText "user_id" u) =
      isBy sel.author p := by
    unfold isBy
    cases asked sel.author with
    | none => rfl
    | some u => simp [Json.hasText, author]
  simp only [Posts.Selection.admits, written, listsText_object shown referenced hp]

theorem toJson?_posts {rows : List PostRow} (sub : rows ⊆ s.tables.posts) :
    (View.posts (rows.map s.tables.view)).toJson? = .ok (some (.arr (rows.map object))) := by
  have shownRows : (rows.map s.tables.view).mapM View.postJson = .ok (rows.map object) := by
    rw [List.mapM_map]
    exact mapM_eq_ok fun p hp => shown p (sub hp)
  rw [View.toJson?, shownRows]
  rfl

/-- A listing is the selected part of all objects, newest first. -/
theorem list_shows (hs : Sound s) (referenced : s.tables.Referenced)
    (distinct : (s.tables.posts.map (·.createdAt)).Nodup)
    (hroute : Endpoint.route r.method r.path = .found .listPosts) :
    Shows settings now s r (.arr (((Tables.newestFirst PostRow.createdAt s.tables.posts).map
      object).filter (selection r).admits)) := by
  have chosen : ((candidates s.tables (selection r).tag).filter (isBy (selection r).author)).Perm
      (s.tables.posts.filter fun p => (selection r).admits (object p)) := by
    refine ((candidates_perm hs referenced _).filter _).trans (List.Perm.of_eq ?_)
    rw [List.filter_filter]
    exact List.filter_congr fun p hp => (admits_object shown referenced _ hp).symm
  have sub : (Tables.newestFirst PostRow.createdAt ((candidates s.tables (selection r).tag).filter
      (isBy (selection r).author))) ⊆ s.tables.posts := by
    intro p hp
    have hp := chosen.mem_iff.mp (List.mem_mergeSort.mp hp)
    exact (List.mem_filter.mp hp).1
  have ordered := Search.newestFirst_of_perm chosen distinct
  refine shows_of_run hroute rfl ((toJson?_posts shown sub).trans ?_)
  rw [ordered, List.filter_map]
  rfl

/-- The posts of a tag are the objects that show it, in some order. -/
theorem tagPosts_shows (hs : Sound s) {g : TagRow}
    (hg : g ∈ s.tables.tags) (hroute : Endpoint.route r.method r.path = .found (.listTagPosts g.id)) :
    Shows settings now s r (.arr ((s.tables.postsOf g.id).map object)) := by
  have found : Tags.find s.tables g.id = .ok g := orRefuse_eq_ok.mpr (hs.tags.find?_of_mem hg)
  have hrun : run settings now s r (.listTagPosts g.id) =
      .ok (Done.read s (.posts ((s.tables.postsOf g.id).map s.tables.view))) := by
    rw [run, Tags.posts, found]
    rfl
  exact shows_of_run hroute hrun (toJson?_posts shown (List.filter_subset_self _))

/-- A post is shown as in every list. -/
theorem display_shows (hs : Sound s) {p : PostRow} (hp : p ∈ s.tables.posts)
    (hroute : Endpoint.route r.method r.path = .found (.showPost p.id)) :
    Shows settings now s r (object p) := by
  have found : Posts.find s.tables p.id = .ok p := Posts.find_eq_ok.mpr (hs.posts.find?_of_mem hp)
  have hrun : run settings now s r (.showPost p.id) = .ok (Done.read s (.post (s.tables.view p))) := by
    rw [run, Posts.display, found]
    rfl
  refine shows_of_run hroute hrun ?_
  rw [View.toJson?, shown p hp]
  rfl

/-- What a search that succeeds finds are objects of posts. -/
theorem search_shows (hroute : Endpoint.route r.method r.path = .found .searchPosts) {reply : Reply}
    (answered : (handle settings now s r).2.1 = .ok reply) (success : reply.status < 400) :
    ∃ rows ⊆ s.tables.posts, reply = Reply.json 200 [] (.arr (rows.map object)) := by
  obtain ⟨d, hrun⟩ := run_of_success hroute (by rw [answered]; exact success)
  have found : ∃ rows ⊆ s.tables.posts, d = Done.read s (.posts (rows.map s.tables.view)) := by
    simp only [run, search, Posts.search] at hrun
    split at hrun
    · cases hrun
    split at hrun
    · cases hrun
    · rename_i rows hrows
      exact ⟨rows, Search.subset_of_found hrows, (Except.ok.inj hrun).symm⟩
  obtain ⟨rows, sub, rfl⟩ := found
  have same := shows_of_run hroute hrun (toJson?_posts shown sub)
  exact ⟨rows, sub, Except.ok.inj (answered.symm.trans same)⟩

end Posts

/-! ## Comments on a post -/

/-- The comments on a post are shown oldest first. -/
theorem comments_shows (hs : Sound s) {p : PostRow} (hp : p ∈ s.tables.posts)
    (hroute : Endpoint.route r.method r.path = .found (.listComments p.id)) :
    ∃ js, (s.tables.commentsOf p.id).mapM View.commentJson = .ok js ∧
      Shows settings now s r (.arr js) := by
  have valid : ∀ c ∈ s.tables.commentsOf p.id, ∃ j, View.commentJson c = .ok j := by
    intro c hc
    have hc := (Tables.commentsOf_perm s.tables p.id).mem_iff.mp hc
    exact commentJson_ok (hs.valid.comments c (List.mem_of_mem_filter hc))
  obtain ⟨js, hjs⟩ := exists_mapM_ok valid
  have found : Posts.find s.tables p.id = .ok p := Posts.find_eq_ok.mpr (hs.posts.find?_of_mem hp)
  have hrun : run settings now s r (.listComments p.id) =
      .ok (Done.read s (.comments (s.tables.commentsOf p.id))) := by
    rw [run, Comments.list, found]
    rfl
  refine ⟨js, hjs, shows_of_run hroute hrun ?_⟩
  rw [View.toJson?, hjs]
  rfl

/-! ## One picture -/

/-- A list of objects is what all requests that read posts and comments show. -/
structure Picture (settings : Settings) (s : Store) (all : List Json) : Prop where
  /-- Each post is there once, newest first. -/
  posts : ∃ rows : List PostRow, rows.Perm s.tables.posts ∧
    rows.Pairwise (fun p q => q.createdAt.micros < p.createdAt.micros) ∧
    rows.mapM (fun p => View.postJson (s.tables.view p)) = .ok all
  /-- A listing is the part of the list by the author and with the tag that are asked for. -/
  listed : ∀ now r, Endpoint.route r.method r.path = .found .listPosts →
    Shows settings now s r (.arr (all.filter (selection r).admits))
  /-- A post that is asked for by itself is shown as in the list. -/
  displayed : ∀ now r id, Endpoint.route r.method r.path = .found (.showPost id) →
    ∀ j ∈ all, j.hasText "id" id → Shows settings now s r j
  /-- The posts of a tag are those that show it, in some order. -/
  tagged : ∀ now r, ∀ g ∈ s.tables.tags,
    Endpoint.route r.method r.path = .found (.listTagPosts g.id) →
    ∃ js, js.Perm (all.filter (·.listsText "tag_ids" g.id)) ∧ Shows settings now s r (.arr js)
  /-- What a search finds is in the list. -/
  searched : ∀ now r reply, Endpoint.route r.method r.path = .found .searchPosts →
    (handle settings now s r).2.1 = .ok reply → reply.status = 200 →
    ∃ js ⊆ all, reply = Reply.json 200 [] (.arr js)
  /-- The comments on a post are those that name it, oldest first and as many as it counts. -/
  commented : ∀ now r, ∀ p ∈ s.tables.posts,
    Endpoint.route r.method r.path = .found (.listComments p.id) →
    ∃ (rows : List CommentRow) (js : List Json), rows.Perm (s.tables.commentsWith p.id) ∧
      rows.Pairwise (fun c d => c.createdAt.micros < d.createdAt.micros) ∧
      rows.mapM View.commentJson = .ok js ∧ Shows settings now s r (.arr js) ∧
      ∀ j ∈ all, j.hasText "id" p.id → j.field? "comments_count" = some (.int js.length)

theorem hasText_id {p : PostView} {j : Json} (h : View.postJson p = .ok j) {id : String} :
    j.hasText "id" id = true ↔ p.post.id = id := by
  have shown : j.field? "id" = some (.str p.post.id) := field?_of_checked h (by decide)
  simp [Json.hasText, shown]

/-- An object of the list is that of the post under its identifier. -/
theorem Picture.eq_of_id {all : List Json} (h : Picture settings s all) (hs : Sound s) {p : PostRow}
    (hp : p ∈ s.tables.posts) {j k : Json} (hj : View.postJson (s.tables.view p) = .ok j)
    (hk : k ∈ all) (same : k.hasText "id" p.id) : k = j := by
  obtain ⟨rows, perm, -, shown⟩ := h.posts
  obtain ⟨q, hq, hqk⟩ := mem_of_mapM shown k hk
  have id : q.id = p.id := (hasText_id hqk).mp same
  obtain rfl := hs.posts.eq_of_id (perm.mem_iff.mp hq) hp id
  exact Except.ok.inj (hqk.symm.trans hj)

/-- Among objects of the list that show a tag is that of a post if it shows the tag. -/
theorem Picture.has_iff {all : List Json} (h : Picture settings s all) (hs : Sound s) {p : PostRow}
    (hp : p ∈ s.tables.posts) {j : Json} (hj : View.postJson (s.tables.view p) = .ok j) (mem : j ∈ all)
    {tag : String} {chosen : List Json}
    (chosen_iff : ∀ k, k ∈ chosen ↔ k ∈ all ∧ k.listsText "tag_ids" tag) :
    j.listsText "tag_ids" tag ↔ ∃ k ∈ chosen, k.hasText "id" p.id := by
  constructor
  · exact fun lists => ⟨j, (chosen_iff j).mpr ⟨mem, lists⟩, (hasText_id hj).mpr rfl⟩
  · rintro ⟨k, hk, same⟩
    obtain ⟨hk, lists⟩ := (chosen_iff k).mp hk
    rwa [h.eq_of_id hs hp hj hk same] at lists

theorem picture (hs : Sound s) (referenced : s.tables.Referenced)
    (posts : (s.tables.posts.map (·.createdAt)).Nodup)
    (comments : (s.tables.comments.map (·.createdAt)).Nodup) : ∃ all, Picture settings s all := by
  have valid : ∀ p : PostRow, ∃ j, p ∈ s.tables.posts → View.postJson (s.tables.view p) = .ok j := by
    intro p
    by_cases hp : p ∈ s.tables.posts
    · obtain ⟨j, hj⟩ := postJson_ok s.tables (hs.valid.posts p hp)
      exact ⟨j, fun _ => hj⟩
    · exact ⟨.null, fun h => absurd h hp⟩
  choose object shown using valid
  have sorted : (Tables.newestFirst PostRow.createdAt s.tables.posts).Perm s.tables.posts :=
    List.mergeSort_perm _ _
  refine ⟨(Tables.newestFirst PostRow.createdAt s.tables.posts).map object, ?_⟩
  constructor
  case posts =>
    exact ⟨_, sorted, Search.newestFirst_pairwise _ _ posts,
      mapM_eq_ok fun p hp => shown p (sorted.mem_iff.mp hp)⟩
  case listed => exact fun now r hroute => list_shows shown hs referenced posts hroute
  case displayed =>
    intro now r id hroute j hj same
    obtain ⟨p, hp, rfl⟩ := List.mem_map.mp hj
    have hp := sorted.mem_iff.mp hp
    obtain rfl := (hasText_id (shown p hp)).mp same
    exact display_shows shown hs hp hroute
  case tagged =>
    intro now r g hg hroute
    refine ⟨_, ?_, tagPosts_shows shown hs hg hroute⟩
    rw [List.filter_map]
    refine (List.Perm.trans (List.Perm.of_eq ?_) (sorted.filter _).symm).map object
    exact List.filter_congr fun p hp => (listsText_object shown referenced hp g.id).symm
  case searched =>
    intro now r reply hroute answered status
    obtain ⟨rows, sub, rfl⟩ := search_shows shown hroute answered (by rw [status]; decide)
    refine ⟨_, List.map_subset object ?_, rfl⟩
    exact fun p hp => sorted.mem_iff.mpr (sub hp)
  case commented =>
    intro now r p hp hroute
    obtain ⟨js, hjs, answer⟩ := comments_shows hs hp hroute
    refine ⟨_, js, Tables.commentsOf_perm s.tables p.id,
      Tables.commentsOf_pairwise comments p.id, hjs, answer, fun j hj same => ?_⟩
    obtain ⟨q, hq, rfl⟩ := List.mem_map.mp hj
    have hq := sorted.mem_iff.mp hq
    have id : q.id = p.id := (hasText_id (shown q hq)).mp same
    rw [length_of_mapM hjs, field?_of_checked (shown q hq) (by decide), ← id]
    rfl

/-- In every store that visits lead to, and in which times are distinct, all requests that read posts
and comments give one picture. So a post shows a tag if and only if the posts of the tag have the
post, and if and only if the listing with the tag has it. -/
theorem one_picture (reach : Reachable settings s)
    (posts : (s.tables.posts.map (·.createdAt)).Nodup)
    (comments : (s.tables.comments.map (·.createdAt)).Nodup) :
    ∃ all, Picture settings s all ∧
      ∀ p ∈ s.tables.posts, ∀ g ∈ s.tables.tags, ∀ display ofTag listed : Visit,
        Endpoint.route display.request.method display.request.path = .found (.showPost p.id) →
        Endpoint.route ofTag.request.method ofTag.request.path = .found (.listTagPosts g.id) →
        Endpoint.route listed.request.method listed.request.path = .found .listPosts →
        Posts.asked (selection listed.request).author = none →
        Posts.asked (selection listed.request).tag = some g.id →
        ∃ j ∈ all, ∃ js ks, j.hasText "id" p.id ∧
          Shows settings display.now s display.request j ∧
          Shows settings ofTag.now s ofTag.request (.arr js) ∧
          Shows settings listed.now s listed.request (.arr ks) ∧
          (j.listsText "tag_ids" g.id ↔ ∃ k ∈ js, k.hasText "id" p.id) ∧
          (j.listsText "tag_ids" g.id ↔ ∃ k ∈ ks, k.hasText "id" p.id) := by
  have hs := reach.sound
  obtain ⟨all, h⟩ : ∃ all, Picture settings s all := picture hs reach.referenced posts comments
  refine ⟨all, h, ?_⟩
  intro p hp g hg display ofTag listed routeDisplay routeTagged routeListed anyone asks
  obtain ⟨rows, perm, -, shown⟩ := h.posts
  obtain ⟨j, mem, hj⟩ := exists_mem_of_mapM shown p (perm.mem_iff.mpr hp)
  obtain ⟨js, hjs, tagPosts⟩ := h.tagged ofTag.now ofTag.request g hg routeTagged
  have own : j.hasText "id" p.id := (hasText_id hj).mpr rfl
  refine ⟨j, mem, js, _, own, h.displayed display.now display.request p.id routeDisplay j mem own,
    tagPosts, h.listed listed.now listed.request routeListed, ?_, ?_⟩
  · exact h.has_iff hs hp hj mem fun k => hjs.mem_iff.trans List.mem_filter
  · refine h.has_iff hs hp hj mem fun k => List.mem_filter.trans ?_
    simp only [Posts.Selection.admits, anyone, asks, Option.all_none, Option.all_some, Bool.true_and]

/-! ## Two posts -/

/-- A request to write a post with tags. -/
def writeTagged (name : String) (tags : List String) : Request :=
  bearing name (send "POST" "/api/posts" (.obj [("title", .str "A title"), ("body", .str "A body"),
    ("tag_ids", .arr (tags.map .str))]))

/-- A post with the texts that `writeTagged` gives. -/
def taggedPost (number : Nat) (author : UserRow) (now : Instant) : PostRow :=
  ⟨Kind.post.identifier number, author.id, some "A title", some "A body", now, now⟩

/-- The store with two users, two tags, and posts beside them. -/
def blog (posts : List PostRow) (links : List Link) (comments : List CommentRow) : Store :=
  ⟨{ twoTags.tables with
      posts := posts, links := links, comments := comments, documents := posts.map (·.document) },
    ⟨2, posts.length, comments.length, 2⟩, false⟩

def redPost : PostRow := taggedPost 1 (ann ⟨0⟩) ⟨1⟩

def bothPost : PostRow := taggedPost 2 bob ⟨2⟩

/-- The links of the two posts: one has the first tag, the other has both. -/
def blogLinks : List Link :=
  [⟨redPost.id, (tagOfAnn 1 "red").id⟩, ⟨bothPost.id, (tagOfAnn 1 "red").id⟩,
    ⟨bothPost.id, (tagOfAnn 2 "blue").id⟩]

def wordOfBob : CommentRow :=
  ⟨Kind.comment.identifier 1, redPost.id, bob.id, some "A word", ⟨3⟩, ⟨3⟩⟩

theorem visit_writeTagged {name : String} {ids : List String} (hs : Sound s) (u : UserRow)
    (tags : List TagRow) (known : s.tables.userNamed? name = some u)
    (early : now.second ≤ (Instant.later ⟨0⟩ week).second)
    (filled : (submitted .postCreate (writeTagged name ids)).toOption.map Posts.Draft.ofFields =
      some ⟨"A title", "A body", ids⟩)
    (loaded : (Posts.loadTags s.tables.tags ids).toOption = some tags) :
    visit .default s ⟨now, writeTagged name ids⟩ = (s.nextId .post).2.change fun t =>
      (t.addPost (taggedPost (s.counters.posts + 1) u now)).setTags
        (taggedPost (s.counters.posts + 1) u now).id (tags.map (·.id)) := by
  have hroute : Endpoint.route "POST" "/api/posts" = .found .createPost := by decide
  obtain ⟨fs, form, filled⟩ := Option.map_eq_some_iff.mp filled
  have called : caller .default now s (writeTagged name ids) = .ok u := caller_bearing known _ early
  have full : Text.isBlank "A title" = false ∧ Text.isBlank "A body" = false := by decide
  rw [visit_mk, handle_createPost hs hroute called (ok_of_toOption form) filled
    (ok_of_toOption loaded) full.1 full.2]
  rfl

/-- A request of the second user to comment on the first post. -/
def writeWord : Request :=
  bearing "bob" (send "POST" "/api/posts/post-1/comments" (.obj [("body", .str "A word")]))

theorem reachable_blog : Reachable .default (blog [redPost, bothPost] blogLinks [wordOfBob]) := by
  have first : visit .default twoTags ⟨⟨1⟩, writeTagged "ann" ["tag-1"]⟩ =
      blog [redPost] (blogLinks.take 1) [] := by
    rw [visit_writeTagged reachable_twoTags.sound (ann ⟨0⟩) [tagOfAnn 1 "red"] rfl (by decide)
      (by decide +kernel) (by decide +kernel)]
    decide +kernel
  have one := reachable_twoTags.visit ⟨⟨1⟩, writeTagged "ann" ["tag-1"]⟩
  rw [first] at one
  have second : visit .default (blog [redPost] (blogLinks.take 1) [])
      ⟨⟨2⟩, writeTagged "bob" ["tag-1", "tag-2"]⟩ = blog [redPost, bothPost] blogLinks [] := by
    rw [visit_writeTagged one.sound bob [tagOfAnn 1 "red", tagOfAnn 2 "blue"] rfl (by decide)
      (by decide +kernel) (by decide +kernel)]
    decide +kernel
  have two := one.visit ⟨⟨2⟩, writeTagged "bob" ["tag-1", "tag-2"]⟩
  rw [second] at two
  have third : visit .default (blog [redPost, bothPost] blogLinks []) ⟨⟨3⟩, writeWord⟩ =
      blog [redPost, bothPost] blogLinks [wordOfBob] := by
    have hroute : Endpoint.route writeWord.method writeWord.path =
        .found (.createComment redPost.id) := by decide +kernel
    have form : (submitted .commentCreate writeWord).toOption = some [("body", .str "A word")] := by
      decide +kernel
    have called : caller .default ⟨3⟩ (blog [redPost, bothPost] blogLinks []) writeWord = .ok bob :=
      caller_bearing rfl _ (by decide)
    rw [visit_mk, handle_createComment two.sound hroute called (ok_of_toOption form)
      List.mem_cons_self (by decide)]
    rfl
  have three := two.visit ⟨⟨3⟩, writeWord⟩
  rwa [third] at three

/-- A request that anyone may make to look at something. -/
def look (path query : String) : Request :=
  ⟨"http://testserver", "GET", path, query, none, none, []⟩

/-- The second post shows the second tag, and is in both lists that the tag leads to. -/
theorem picture_of_blog :
    ∃ all, Picture .default (blog [redPost, bothPost] blogLinks [wordOfBob]) all ∧ all.length = 2 ∧
      ∃ js ks, Shows .default ⟨9⟩ (blog [redPost, bothPost] blogLinks [wordOfBob])
          (look "/api/tags/tag-2/posts" "") (.arr js) ∧
        Shows .default ⟨9⟩ (blog [redPost, bothPost] blogLinks [wordOfBob])
          (look "/api/posts" "tag_id=tag-2&user_id=") (.arr ks) ∧
        (∃ k ∈ js, k.hasText "id" bothPost.id) ∧ ∃ k ∈ ks, k.hasText "id" bothPost.id := by
  have posts : ([redPost, bothPost].map (·.createdAt)).Nodup := by decide
  have comments : ([wordOfBob].map (·.createdAt)).Nodup := by decide
  obtain ⟨all, h, agree⟩ := one_picture reachable_blog posts comments
  obtain ⟨rows, perm, -, shown⟩ := h.posts
  obtain ⟨j, mem, js, ks, own, -, ofTag, listed, inTag, inList⟩ :=
    agree bothPost (by simp [blog]) (tagOfAnn 2 "blue") (by simp [blog, twoTags, tagged])
      ⟨⟨9⟩, look "/api/posts/post-2" ""⟩ ⟨⟨9⟩, look "/api/tags/tag-2/posts" ""⟩
      ⟨⟨9⟩, look "/api/posts" "tag_id=tag-2&user_id="⟩ (by decide +kernel) (by decide +kernel)
      (by decide +kernel) (by decide +kernel) (by decide +kernel)
  have object : ((View.postJson ((blog [redPost, bothPost] blogLinks [wordOfBob]).tables.view
      bothPost)).toOption.map fun j => j.listsText "tag_ids" (tagOfAnn 2 "blue").id) = some true := by
    decide +kernel
  obtain ⟨k, hk, lists⟩ := Option.map_eq_some_iff.mp object
  have lists : j.listsText "tag_ids" (tagOfAnn 2 "blue").id := by
    rw [h.eq_of_id reachable_blog.sound (by simp [blog]) (ok_of_toOption hk) mem own]
    exact lists
  exact ⟨all, h, by rw [length_of_mapM shown, perm.length_eq]; rfl, js, ks, ofTag, listed,
    inTag.mp lists, inList.mp lists⟩

end Service

end Weblog
