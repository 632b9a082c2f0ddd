/-
  Edits that overlap: two changes of one post, each of which loads the row and commits later.

  A commit writes the columns that differ from what was loaded, but makes the document of all that
  was loaded and given (`commit_cases`). So the document is right if nobody has written the post
  between the two phases. `Step` lets two edits take their phases in any order, and `Course` is what
  is left of all orders: one edit commits first, and the other has loaded either what the first has
  loaded or what the first has left.
-/
import Mathlib.Logic.Function.Basic
import Mathlib.Logic.Relation
import Weblog.Proofs.Service.Bearer
import Weblog.Proofs.Service.Owned
import Weblog.Proofs.Store.Indexed

namespace Weblog

/-! ## One commit -/

namespace Posts.Edit

/-- The document that an edit of a loaded post writes. -/
def document (e : Edit) (loaded : PostRow) : DocumentRow :=
  ⟨Kind.post.table, loaded.id, PostRow.content (e.titleOf loaded) (e.bodyOf loaded)⟩

/-- An edit changes every text of a post that another edit changes. -/
def Covers (e f : Edit) (p : PostRow) : Prop :=
  (f.titleOf p ≠ p.title → e.titleOf p ≠ p.title) ∧ (f.bodyOf p ≠ p.body → e.bodyOf p ≠ p.body)

instance (e f : Edit) (p : PostRow) : Decidable (e.Covers f p) :=
  inferInstanceAs (Decidable (_ ∧ _))

variable {e f : Edit} {p row : PostRow} {now : Instant}

/-- An edit that gives nothing leaves the texts as they are. -/
theorem texts_of_idle (idle : e.isTouching = false) :
    e.titleOf p = p.title ∧ e.bodyOf p = p.body := by
  simp only [isTouching, Bool.or_eq_false_iff, Option.isSome_eq_false_iff,
    Option.isNone_iff_eq_none] at idle
  rw [titleOf, bodyOf, idle.1.1, idle.1.2]
  exact ⟨rfl, rfl⟩

/-- The title after two edits of the same loaded post: that of the second if it changes it, and
else that of the first. -/
def titleOver (e f : Edit) (p : PostRow) : Option String :=
  if e.titleOf p = p.title then f.titleOf p else e.titleOf p

/-- The body after two edits of the same loaded post. -/
def bodyOver (e f : Edit) (p : PostRow) : Option String :=
  if e.bodyOf p = p.body then f.bodyOf p else e.bodyOf p

theorem title_write (title : row.title = f.titleOf p) :
    (e.write now p row).title = e.titleOver f p := by
  rw [titleOver, ← title]
  rfl

theorem body_write (body : row.body = f.bodyOf p) :
    (e.write now p row).body = e.bodyOver f p := by
  rw [bodyOver, ← body]
  rfl

/-- An edit that covers another one leaves the texts that it means. -/
theorem Covers.texts (h : e.Covers f p) :
    e.titleOver f p = e.titleOf p ∧ e.bodyOver f p = e.bodyOf p := by
  constructor
  · by_cases kept : e.titleOf p = p.title
    · have untouched : f.titleOf p = p.title := by
        by_contra changed
        exact h.1 changed kept
      rw [titleOver, if_pos kept, untouched, kept]
    · rw [titleOver, if_neg kept]
  · by_cases kept : e.bodyOf p = p.body
    · have untouched : f.bodyOf p = p.body := by
        by_contra changed
        exact h.2 changed kept
      rw [bodyOver, if_pos kept, untouched, kept]
    · rw [bodyOver, if_neg kept]

end Posts.Edit

namespace Service

open Posts (finishUpdate)

variable {settings : Settings} {s s' : Store} {now : Instant} {p loaded : PostRow} {e : Posts.Edit}
  {id : String}

/-- The store after a commit: as it was if nothing is given. Otherwise the columns that differ from
what was loaded are written over the row that is there, and the document is made of what was loaded
and given. No other post and no other document is touched. -/
theorem commit_cases (h : finishUpdate s now loaded e = .ok s') :
    (e.isTouching = false ∧ s' = s) ∨
      (e.isTouching = true ∧ ∃ row, s.tables.post? loaded.id = some row ∧
        s'.tables.post? loaded.id = some (e.write now loaded row) ∧
        s'.tables.document? Kind.post.table loaded.id = some (e.document loaded) ∧
        ∀ other, other ≠ loaded.id → s'.tables.post? other = s.tables.post? other ∧
          s'.tables.document? Kind.post.table other = s.tables.document? Kind.post.table other) := by
  cases touching : e.isTouching with
  | false =>
    simp only [finishUpdate, touching, Bool.not_false, if_true, Except.ok.injEq] at h
    exact .inl ⟨rfl, h.symm⟩
  | true =>
    simp only [finishUpdate, touching, Bool.not_true, Bool.false_eq_true, if_false,
      bind_eq_ok] at h
    obtain ⟨tags, -, -, -, h⟩ := h
    cases found : s.tables.post? loaded.id with
    | none =>
      rw [found] at h
      cases h
    | some row =>
      rw [found] at h
      have hid : row.id = loaded.id := Tables.post?_id found
      -- Whatever tags are set, posts and documents are those of the two changes before.
      obtain ⟨posts, documents⟩ : s'.tables.posts =
            (s.tables.setPostRow row.id (e.write now loaded row)).posts ∧
          s'.tables.documents = (s.tables.index ⟨Kind.post.table, row.id,
            PostRow.content (e.titleOf loaded) (e.bodyOf loaded)⟩).documents := by
        cases tags with
        | none =>
          rw [← Except.ok.inj h]
          exact ⟨rfl, rfl⟩
        | some gs =>
          rw [← Store.setTags_ok (commit_eq_ok.mp h)]
          exact ⟨rfl, rfl⟩
      rw [hid] at posts documents
      have written : (e.write now loaded row).id = loaded.id := hid
      have looked : ∀ other, s'.tables.post? other =
          (s.tables.setPostRow loaded.id (e.write now loaded row)).post? other := by
        intro other
        rw [Tables.post?, posts]
        rfl
      have indexed : ∀ other, s'.tables.document? Kind.post.table other =
          (s.tables.index (e.document loaded)).document? Kind.post.table other := by
        intro other
        rw [Tables.document?, documents]
        rfl
      refine .inr ⟨rfl, row, rfl, ?_, ?_, fun other hne => ⟨?_, ?_⟩⟩
      · rw [looked, Tables.post?_setPostRow found written]
      · rw [indexed]
        exact Tables.document?_index
      · rw [looked, Tables.post?_setPostRow_of_ne written hne]
      · rw [indexed, Tables.document?_index_of_ne hne]

/-- The documents of other posts stay right. -/
theorem tracks_other (h : finishUpdate s now loaded e = .ok s') {other : String}
    (hne : other ≠ loaded.id) (tracks : s.tables.Tracks other) : s'.tables.Tracks other := by
  obtain ⟨-, rfl⟩ | ⟨-, row, -, -, -, others⟩ := commit_cases h
  · exact tracks
  · obtain ⟨post, document⟩ := others other hne
    rw [Tables.Tracks, post, document]
    exact tracks

/-- A commit to the row that was loaded leaves the post with its document. -/
theorem tracks_current (h : finishUpdate s now loaded e = .ok s')
    (current : s.tables.post? loaded.id = some loaded) (tracks : s.tables.Tracks loaded.id) :
    s'.tables.Tracks loaded.id := by
  obtain ⟨-, rfl⟩ | ⟨-, row, found, post, document, -⟩ := commit_cases h
  · exact tracks
  · obtain rfl := Option.some.inj (current.symm.trans found)
    rw [Tables.Tracks, post, document, Option.map_some, write_document]
    rfl

/-- What two edits that loaded the same row leave of it, the second over the first: the row has the
texts of both, and the document is made of what the second has loaded and gives, unless it gives
nothing. -/
structure Overwritten (e f : Posts.Edit) (p : PostRow) (t : Tables) : Prop where
  row : ∃ row, t.post? p.id = some row ∧ row.title = e.titleOver f p ∧ row.body = e.bodyOver f p
  document : t.document? Kind.post.table p.id =
    some (if e.isTouching then e.document p else f.document p)

theorem overwritten {f : Posts.Edit} {t : Store} {now' : Instant}
    (current : s.tables.post? p.id = some p) (tracks : s.tables.Tracks p.id)
    (first : finishUpdate s now p f = .ok t) (second : finishUpdate t now' p e = .ok s') :
    Overwritten e f p s'.tables := by
  -- What the first leaves.
  obtain ⟨row, post, title, body, document⟩ : ∃ row, t.tables.post? p.id = some row ∧
      row.title = f.titleOf p ∧ row.body = f.bodyOf p ∧
      t.tables.document? Kind.post.table p.id = some (f.document p) := by
    obtain ⟨idle, rfl⟩ | ⟨-, row, found, post, document, -⟩ := commit_cases first
    · obtain ⟨title, body⟩ := Posts.Edit.texts_of_idle (p := p) idle
      refine ⟨p, current, title.symm, body.symm, ?_⟩
      rw [tracks, current, Option.map_some, Posts.Edit.document, title, body]
      rfl
    · obtain rfl := Option.some.inj (current.symm.trans found)
      exact ⟨_, post, write_title f p, write_body f p, document⟩
  obtain ⟨idle, rfl⟩ | ⟨touching, row', found, post', document', -⟩ := commit_cases second
  · obtain ⟨title', body'⟩ := Posts.Edit.texts_of_idle (p := p) idle
    refine ⟨⟨row, post, ?_, ?_⟩, ?_⟩
    · rw [Posts.Edit.titleOver, if_pos title', title]
    · rw [Posts.Edit.bodyOver, if_pos body', body]
    · rw [idle, document]
      rfl
  · obtain rfl := Option.some.inj (post.symm.trans found)
    refine ⟨⟨_, post', Posts.Edit.title_write title, Posts.Edit.body_write body⟩, ?_⟩
    rw [touching, document']
    rfl

/-- The document is right if and only if the second edit gives nothing, or what it has loaded and
gives reads like what is stored. -/
theorem Overwritten.tracks_iff {f : Posts.Edit} {t : Tables} (h : Overwritten e f p t) :
    t.Tracks p.id ↔ (e.isTouching = true → PostRow.content (e.titleOf p) (e.bodyOf p) =
      PostRow.content (e.titleOver f p) (e.bodyOver f p)) := by
  obtain ⟨⟨row, post, title, body⟩, document⟩ := h
  have stored : (t.post? p.id).map PostRow.document = some ⟨Kind.post.table, p.id,
      PostRow.content (e.titleOver f p) (e.bodyOver f p)⟩ := by
    rw [post, Option.map_some, PostRow.document, Tables.post?_id post, title, body]
  rw [Tables.Tracks, document, stored, Option.some.injEq]
  cases touching : e.isTouching with
  | true => simp [Posts.Edit.document]
  | false =>
    obtain ⟨title', body'⟩ := Posts.Edit.texts_of_idle (p := p) touching
    simp [Posts.Edit.document, Posts.Edit.titleOver, Posts.Edit.bodyOver, title', body']

/-- The document is right if the second edit changes whatever the first does. -/
theorem Overwritten.tracks {f : Posts.Edit} {t : Tables} (h : Overwritten e f p t)
    (covers : e.Covers f p) : t.Tracks p.id := by
  obtain ⟨title, body⟩ := covers.texts
  rw [h.tracks_iff, title, body]
  exact fun _ => rfl

/-! ## Two edits -/

/-- An edit of a post: who makes it, what it gives, and when it is written. -/
structure Editor where
  caller : UserRow
  edit : Posts.Edit
  now : Instant

/-- How far an edit has come in its session. -/
inductive Phase
  | begun
  | holding (loaded : PostRow)
  | committed

/-- The store, and how far each of two edits has come. -/
structure World where
  store : Store
  phase : Bool → Phase

namespace World

def start (s : Store) : World := ⟨s, fun _ => .begun⟩

/-- One edit has come to a phase, and the store is this one. -/
def move (w : World) (i : Bool) (phase : Phase) (s : Store) : World :=
  ⟨s, Function.update w.phase i phase⟩

variable {w : World} {i j : Bool} {phase phase' : Phase} {s s' : Store}

@[simp] theorem store_move : (w.move i phase s).store = s := rfl

@[simp] theorem phase_move : (w.move i phase s).phase i = phase := Function.update_self i _ _

theorem phase_move_of_ne (h : j ≠ i) : (w.move i phase s).phase j = w.phase j :=
  Function.update_of_ne h _ _

theorem move_move : (w.move i phase s).move i phase' s' = w.move i phase' s' :=
  congrArg (World.mk s') (Function.update_idem _ _ _)

end World

/-- One of two edits of a post takes its next phase: it loads the row, whose owner is its caller, or
it commits what it has loaded and gives. -/
inductive Step (id : String) (editors : Bool → Editor) : World → World → Prop
  | load {w : World} {i : Bool} {p : PostRow} (begun : w.phase i = .begun)
      (found : w.store.tables.post? id = some p) (own : p.userId = (editors i).caller.id) :
      Step id editors w (w.move i (.holding p) w.store)
  | commit {w : World} {i : Bool} {p : PostRow} {s' : Store} (holding : w.phase i = .holding p)
      (finished : finishUpdate w.store (editors i).now p (editors i).edit = .ok s') :
      Step id editors w (w.move i .committed s')

variable {editors : Bool → Editor} {w w' : World} {i : Bool}

/-- A request that changes a post takes both phases with nothing in between. -/
theorem steps_of_update {d : Done} (begun : w.phase i = .begun)
    (h : Posts.update w.store (editors i).now (editors i).caller id (editors i).edit = .ok d) :
    Relation.ReflTransGen (Step id editors) w (w.move i .committed d.store) := by
  simp only [Posts.update, guard_eq_ok, bind_eq_ok, not_not] at h
  obtain ⟨p, found, own, s', finished, _, -, hd⟩ := h
  rw [← Except.ok.inj hd]
  have loaded : Step id editors w (w.move i (.holding p) w.store) :=
    .load begun (Posts.find_eq_ok.mp found) own
  have committed : Step id editors (w.move i (.holding p) w.store)
      ((w.move i (.holding p) w.store).move i .committed s') :=
    .commit World.phase_move finished
  rw [World.move_move] at committed
  exact (Relation.ReflTransGen.single loaded).tail committed

/-- The course of two edits of a post that was `p` when they began. -/
inductive Course (id : String) (editors : Bool → Editor) (s : Store) (p : PostRow) : World → Prop
  | early {w : World} (same : w.store = s)
      (phases : ∀ i, w.phase i = .begun ∨ w.phase i = .holding p) : Course id editors s p w
  | half {w : World} (i : Bool)
      (first : finishUpdate s (editors i).now p (editors i).edit = .ok w.store)
      (done : w.phase i = .committed)
      (other : w.phase (!i) = .begun ∨ ∃ q, w.phase (!i) = .holding q ∧
        (q = p ∨ w.store.tables.post? id = some q)) : Course id editors s p w
  | whole {w : World} (i : Bool) (between : Store) (q : PostRow)
      (first : finishUpdate s (editors i).now p (editors i).edit = .ok between)
      (second : finishUpdate between (editors !i).now q (editors !i).edit = .ok w.store)
      (loaded : q = p ∨ between.tables.post? id = some q)
      (done : ∀ j, w.phase j = .committed) : Course id editors s p w

theorem Course.step (h : Course id editors s p w) (stored : s.tables.post? id = some p)
    (step : Step id editors w w') : Course id editors s p w' := by
  have begins : Phase.committed ≠ .begun := by
    intro same
    cases same
  have holds : ∀ q, Phase.committed ≠ .holding q := by
    intro q same
    cases same
  have apart : ∀ i : Bool, (!i) ≠ i := fun _ => Bool.not_not_eq.mpr rfl
  cases h with
  | early same phases =>
    subst same
    cases step with
    | @load i q begun found =>
      obtain rfl : p = q := Option.some.inj (stored.symm.trans found)
      refine .early rfl fun j => ?_
      by_cases hj : j = i
      · subst hj
        exact .inr World.phase_move
      · rw [World.phase_move_of_ne hj]
        exact phases j
    | @commit i q s' holding finished =>
      -- Nobody has written the post yet, so that all have loaded the row of the beginning.
      have loaded : q = p := by
        rcases phases i with begun | first
        · rw [holding] at begun
          cases begun
        · exact Phase.holding.inj (holding.symm.trans first)
      subst loaded
      refine .half i finished World.phase_move ?_
      rw [World.phase_move_of_ne (apart i)]
      rcases phases (!i) with begun | held
      · exact .inl begun
      · exact .inr ⟨q, held, .inl rfl⟩
  | half i first done other =>
    cases step with
    | @load j q begun found =>
      have hj : j = !i := by
        rw [Bool.eq_not]
        rintro rfl
        exact begins (done.symm.trans begun)
      subst hj
      refine .half i first ?_ (.inr ⟨q, World.phase_move, .inr found⟩)
      rw [World.phase_move_of_ne (apart i).symm]
      exact done
    | @commit j q s' holding finished =>
      have hj : j = !i := by
        rw [Bool.eq_not]
        rintro rfl
        exact holds q (done.symm.trans holding)
      subst hj
      rcases other with begun | ⟨q', held, loaded⟩
      · rw [holding] at begun
        cases begun
      · obtain rfl : q = q' := Phase.holding.inj (holding.symm.trans held)
        refine .whole i _ q first finished loaded fun j => ?_
        by_cases hj : j = !i
        · subst hj
          exact World.phase_move
        · rw [World.phase_move_of_ne hj]
          rw [Bool.eq_not, not_not] at hj
          exact hj ▸ done
  | whole i between q first second loaded done =>
    cases step with
    | load begun => exact absurd ((done _).symm.trans begun) begins
    | commit holding => exact absurd ((done _).symm.trans holding) (holds _)

/-- Whatever order two edits take their phases in, it is one of these courses. -/
theorem course_of_steps (stored : s.tables.post? id = some p)
    (run : Relation.ReflTransGen (Step id editors) (.start s) w) : Course id editors s p w := by
  induction run with
  | refl => exact .early rfl fun _ => .inl rfl
  | tail _ step ih => exact ih.step stored step

/-- Two edits of a stored post have both committed, whatever order they took their phases in. One of
them committed first, and had loaded the row of the beginning. If the other one had loaded the row
that the first left, the document is that of the row. If it had loaded the row of the beginning,
too, the row has the texts of both, and the document what the second had loaded and gave; then it is
that of the row if the second changes every text that the first changes. The documents of other
posts are right in any case. -/
theorem documents_of_edits (reach : Reachable settings s) (stored : s.tables.post? id = some p)
    (run : Relation.ReflTransGen (Step id editors) (.start s) w)
    (both : ∀ i, w.phase i = .committed) :
    (∀ other, other ≠ id → w.store.tables.Tracks other) ∧
    ∃ i between loaded,
      finishUpdate s (editors i).now p (editors i).edit = .ok between ∧
      finishUpdate between (editors !i).now loaded (editors !i).edit = .ok w.store ∧
      (between.tables.post? id = some loaded ∨ loaded = p) ∧
      (between.tables.post? id = some loaded → w.store.tables.Tracks id) ∧
      (loaded = p → Overwritten (editors !i).edit (editors i).edit p w.store.tables ∧
        ((editors !i).edit.Covers (editors i).edit p → w.store.tables.Tracks id)) := by
  have tracks : ∀ other, s.tables.Tracks other :=
    reach.sound.indexed.tracks reach.sound.posts.distinct
  have hid : p.id = id := Tables.post?_id stored
  subst hid
  cases course_of_steps stored run with
  | early same phases =>
    rcases phases true with begun | held
    · rw [both] at begun
      cases begun
    · rw [both] at held
      cases held
  | half i first done other =>
    rcases other with begun | ⟨q, held, -⟩
    · rw [both] at begun
      cases begun
    · rw [both] at held
      cases held
  | whole i between loaded first second whence done =>
    have same : loaded.id = p.id := by
      rcases whence with rfl | found
      · rfl
      · exact Tables.post?_id found
    refine ⟨fun other hne => ?_, i, between, loaded, first, second, whence.symm, fun found => ?_,
      ?_⟩
    · exact tracks_other second (same ▸ hne) (tracks_other first hne (tracks other))
    · have left := tracks_current first stored (tracks p.id)
      rw [← same] at found left
      exact same ▸ tracks_current second found left
    · rintro rfl
      have result := overwritten stored (tracks loaded.id) first second
      exact ⟨result, result.tracks⟩

/-! ## Two edits of the first post -/

/-- An edit without tags is committed if the post is there and both texts are. -/
theorem exists_commit {row : PostRow} (found : s.tables.post? loaded.id = some row)
    (untagged : e.tagIds = none) (titled : isBlankText (e.titleOf loaded) = false)
    (bodied : isBlankText (e.bodyOf loaded) = false) :
    ∃ s', finishUpdate s now loaded e = .ok s' := by
  have checked : Posts.checkTexts (some loaded.id) (e.titleOf loaded) (e.bodyOf loaded) = .ok () :=
    Posts.checkTexts_eq_ok.mpr ⟨titled, bodied⟩
  cases touching : e.isTouching with
  | false => exact ⟨s, by simp only [finishUpdate, touching, Bool.not_false, if_true]⟩
  | true =>
    simp only [finishUpdate, touching, Bool.not_true, Bool.false_eq_true, if_false, untagged,
      checked, found]
    exact ⟨_, rfl⟩

/-- Both edits load the row, and then both commit. -/
theorem exists_overlap (editors : Bool → Editor) (stored : s.tables.post? p.id = some p)
    (own : ∀ i, p.userId = (editors i).caller.id) (untagged : ∀ i, (editors i).edit.tagIds = none)
    (titled : ∀ i, isBlankText ((editors i).edit.titleOf p) = false)
    (bodied : ∀ i, isBlankText ((editors i).edit.bodyOf p) = false) :
    ∃ w between, Relation.ReflTransGen (Step p.id editors) (.start s) w ∧
      (∀ i, w.phase i = .committed) ∧
      finishUpdate s (editors true).now p (editors true).edit = .ok between ∧
      finishUpdate between (editors false).now p (editors false).edit = .ok w.store := by
  obtain ⟨between, first⟩ : ∃ t, finishUpdate s (editors true).now p (editors true).edit = .ok t :=
    exists_commit stored (untagged true) (titled true) (bodied true)
  obtain ⟨row, there⟩ : ∃ row, between.tables.post? p.id = some row := by
    obtain ⟨-, rfl⟩ | ⟨-, row, -, there, -⟩ := commit_cases first
    · exact ⟨p, stored⟩
    · exact ⟨_, there⟩
  obtain ⟨s', second⟩ :
      ∃ t, finishUpdate between (editors false).now p (editors false).edit = .ok t :=
    exists_commit there (untagged false) (titled false) (bodied false)
  have apart : false ≠ true := Bool.false_ne_true
  let w₁ := (World.start s).move true (.holding p) s
  let w₂ := w₁.move false (.holding p) s
  let w₃ := w₂.move true .committed between
  have loads : Step p.id editors (.start s) w₁ := .load rfl stored (own true)
  have loads' : Step p.id editors w₁ w₂ := .load (World.phase_move_of_ne apart) stored (own false)
  have commits : Step p.id editors w₂ w₃ := .commit (World.phase_move_of_ne apart.symm) first
  have commits' : Step p.id editors w₃ (w₃.move false .committed s') :=
    .commit (World.phase_move_of_ne apart) second
  have run := (((Relation.ReflTransGen.single loads).tail loads').tail commits).tail commits'
  refine ⟨w₃.move false .committed s', between, run, ?_, first, second⟩
  intro i
  cases i with
  | false => exact World.phase_move
  | true => exact World.phase_move_of_ne apart.symm

/-- Two edits by the first user. -/
def edits (first second : Posts.Edit) : Bool → Editor :=
  fun i => ⟨ann ⟨0⟩, if i then first else second, ⟨1⟩⟩

theorem stored_annPost : (posted [annComment]).tables.post? annPost.id = some annPost :=
  reachable_posted.sound.posts.find?_of_mem (List.mem_singleton_self annPost)

/-- Two edits of the title overlap, and the document is right. -/
theorem titles_overlap :
    ∃ w, Relation.ReflTransGen (Step annPost.id (edits ⟨some "One", none, none⟩
        ⟨some "Two", none, none⟩)) (.start (posted [annComment])) w ∧
      (∀ i, w.phase i = .committed) ∧ w.store.tables.Tracks annPost.id := by
  obtain ⟨w, -, run, both, -⟩ := exists_overlap (edits ⟨some "One", none, none⟩
    ⟨some "Two", none, none⟩) stored_annPost (fun _ => rfl) (by decide) (by decide) (by decide)
  obtain ⟨-, i, between, loaded, -, -, whence, current, stale⟩ :=
    documents_of_edits reachable_posted stored_annPost run both
  refine ⟨w, run, both, ?_⟩
  rcases whence with found | same
  · exact current found
  · refine (stale same).2 ?_
    cases i with
    | false => decide
    | true => decide

/-- One edit gives another title, and the other one another body. Both load the row before one of
them commits. Then the row has both, and the document has the old title. -/
theorem title_and_body_overlap :
    Reachable .default (posted [annComment]) ∧
    ∃ w row, Relation.ReflTransGen (Step annPost.id (edits ⟨some "One", none, none⟩
        ⟨none, some "Two", none⟩)) (.start (posted [annComment])) w ∧
      (∀ i, w.phase i = .committed) ∧
      w.store.tables.post? annPost.id = some row ∧ row.title = some "One" ∧ row.body = some "Two" ∧
      w.store.tables.document? Kind.post.table annPost.id =
        some ⟨Kind.post.table, annPost.id, PostRow.content (some "A title") (some "Two")⟩ ∧
      ¬w.store.tables.Tracks annPost.id := by
  obtain ⟨w, between, run, both, first, second⟩ := exists_overlap
    (edits ⟨some "One", none, none⟩ ⟨none, some "Two", none⟩) stored_annPost
    (fun _ => rfl) (by decide) (by decide) (by decide)
  have sound := reachable_posted.sound
  have tracks : (posted [annComment]).tables.Tracks annPost.id :=
    sound.indexed.tracks sound.posts.distinct _
  have result := overwritten stored_annPost tracks first second
  obtain ⟨row, found, title, body⟩ := result.row
  refine ⟨reachable_posted, w, row, run, both, found, title, body, result.document, ?_⟩
  rw [result.tracks_iff]
  intro same
  have unlike : PostRow.content (some "A title") (some "Two") ≠
      PostRow.content (some "One") (some "Two") := by decide +kernel
  exact unlike (same rfl)

end Service

end Weblog
