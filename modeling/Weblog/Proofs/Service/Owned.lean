/-
  Requests that change or take out a stored row, one check after the other: what is not found, who
  is not the owner, what is not allowed, and what is left when all checks pass.

  There is one equation for each way that an endpoint goes. Together they open the endpoints, and
  what is proved of these requests does not look at the definitions again.
-/
import Weblog.Proofs.Service.Refused
import Weblog.Proofs.Store.Indexed

namespace Weblog

theorem discard_ok {α β ε : Type} {a : α} {f : PUnit → Except ε β} :
    discard (Except.ok a : Except ε α) >>= f = f ⟨⟩ := rfl

/-! ## Blank attributes -/

/-- The complaints about blank attributes of the given names. -/
def Complaints.about (names : List String) : Complaints :=
  names.map fun name => (name, [Complaints.blankMessage])

/-- The names of the blank ones among two texts. -/
def Posts.blanks (title body : Option String) : List String :=
  (if isBlankText title then ["title"] else []) ++ if isBlankText body then ["body"] else []

theorem Posts.checkTexts_blank {id title body : Option String} (h : blanks title body ≠ []) :
    checkTexts id title body = .error (.invalid .post id (.about (blanks title body))) := by
  cases htitle : isBlankText title with
  | true => cases hbody : isBlankText body <;> simp [checkTexts, checkPresence,
      Presence.complaints, Kind.required, htitle, hbody, blanks, Complaints.about, Column.text]
  | false => cases hbody : isBlankText body with
    | true => simp [checkTexts, checkPresence, Presence.complaints, Kind.required, htitle, hbody,
        blanks, Complaints.about, Column.text]
    | false => exact absurd (by simp [blanks, htitle, hbody]) h

theorem Posts.blanks_eq_nil {title body : Option String} :
    blanks title body = [] ↔ isBlankText title = false ∧ isBlankText body = false := by
  simp [blanks]

/-- A change that gives nothing leaves a valid post without blanks. -/
theorem Posts.blanks_untouched {p : PostRow} (valid : p.Valid) {f : Edit}
    (untouched : f.isTouching = false) : blanks (f.titleOf p) (f.bodyOf p) = [] := by
  simp only [Edit.isTouching, Bool.or_eq_false_iff, Option.isSome_eq_false_iff,
    Option.isNone_iff_eq_none] at untouched
  obtain ⟨⟨title, body⟩, -⟩ := untouched
  rw [blanks_eq_nil, Edit.titleOf, Edit.bodyOf, title, body]
  exact ⟨valid.title, valid.body⟩

theorem Comments.checkBody_blank {id body : Option String} (h : isBlankText body = true) :
    checkBody id body = .error (.invalid .comment id (.about ["body"])) := by
  simp [checkBody, checkPresence, Presence.complaints, Kind.required, h, Complaints.about,
    Column.text]

theorem Tags.checkName_blank {id : Option String} {name : String} (h : Text.isBlank name = true) :
    checkName id name = .error (.invalid .tag id (.about ["name"])) := by
  simp [checkName, checkPresence, Presence.complaints, Kind.required, h, Complaints.about,
    Column.text]

variable {s : Store} {now : Instant} {u : UserRow} {postId id body : String} {p : PostRow}
  {c : CommentRow} {g : TagRow}

/-! ## Posts -/

namespace Posts

theorem find_eq_ok : find s.tables id = .ok p ↔ s.tables.post? id = some p := orRefuse_eq_ok

theorem find_refused (absent : s.tables.post? id = none) : find s.tables id = refuse .noPost := by
  rw [find, absent]
  rfl

theorem update_unknown (absent : s.tables.post? id = none) (f : Edit) :
    update s now u id f = refuse .noPost := by
  rw [update, find_refused absent]
  rfl

theorem update_notOwner (found : s.tables.post? id = some p) (others : p.userId ≠ u.id) (f : Edit) :
    update s now u id f = refuse .notOwner := by
  simp only [update, find_eq_ok.mpr found, bind_ok]
  rw [if_pos others]
  rfl

theorem update_own (found : s.tables.post? id = some p) (own : p.userId = u.id) (f : Edit) :
    update s now u id f = (do
      let t ← finishUpdate s now p f
      let row ← find t.tables id
      .ok (Done.changed t (.post (t.tables.view row))
        (if f.isTouching then [indexedRecord id] else []))) := by
  simp only [update, find_eq_ok.mpr found, bind_ok]
  exact if_neg (not_not.mpr own)

theorem update_unloaded (found : s.tables.post? id = some p) (own : p.userId = u.id) {f : Edit}
    {ids : List String} (given : f.tagIds = some ids)
    (unknown : loadTags s.tables.tags ids = refuse .noSuchTags) :
    update s now u id f = refuse .noSuchTags := by
  have touching : f.isTouching = true := by simp [Edit.isTouching, given]
  have loading : f.tagIds.mapM (loadTags s.tables.tags) = refuse .noSuchTags := by
    rw [given, Option.mapM_some, unknown]
    rfl
  rw [update_own found own, finishUpdate, loading]
  simp only [touching, Bool.not_true, Bool.false_eq_true, if_false]
  rfl

theorem update_blank (found : s.tables.post? id = some p) (own : p.userId = u.id) {f : Edit}
    (touching : f.isTouching = true) {tags : Option (List TagRow)}
    (loaded : f.tagIds.mapM (loadTags s.tables.tags) = .ok tags)
    (blank : blanks (f.titleOf p) (f.bodyOf p) ≠ []) : update s now u id f =
      .error (.invalid .post (some p.id) (.about (blanks (f.titleOf p) (f.bodyOf p)))) := by
  have checked : checkTexts (some p.id) (f.titleOf p) (f.bodyOf p) = _ := checkTexts_blank blank
  rw [update_own found own, finishUpdate, loaded, checked]
  simp only [touching, Bool.not_true, Bool.false_eq_true, if_false]
  rfl

theorem update_untouched (found : s.tables.post? id = some p) (own : p.userId = u.id) {f : Edit}
    (untouched : f.isTouching = false) :
    update s now u id f = .ok (Done.changed s (.post (s.tables.view p)) []) := by
  rw [update_own found own, finishUpdate]
  simp only [untouched, Bool.not_false, if_true, bind_ok, find_eq_ok.mpr found]
  rfl

/-- A post that took the place of another is found under its identifier. -/
theorem post?_rewritePost {t : Tables} (found : t.post? p.id = some p) (f : Edit)
    (ids : Option (List String)) :
    (t.rewritePost (f.write now p p) ids).post? p.id = some (f.write now p p) := by
  have put : (t.setPostRow p.id (f.write now p p)).post? p.id = some (f.write now p p) :=
    Tables.post?_setPostRow found rfl
  cases ids with
  | none => exact put
  | some ids => exact put

theorem update_done (found : s.tables.post? p.id = some p) (own : p.userId = u.id) {f : Edit}
    (touching : f.isTouching = true) {tags : Option (List TagRow)}
    (loaded : f.tagIds.mapM (loadTags s.tables.tags) = .ok tags)
    (titled : isBlankText (f.titleOf p) = false) (bodied : isBlankText (f.bodyOf p) = false)
    {t : Store} (written : s.change
      (·.rewritePost (f.write now p p) (tags.map fun gs => gs.map (·.id))) = t) :
    update s now u p.id f =
      .ok (Done.changed t (.post (t.tables.view (f.write now p p))) [indexedRecord p.id]) := by
  have checked : checkTexts (some p.id) (f.titleOf p) (f.bodyOf p) = .ok () :=
    checkTexts_eq_ok.mpr ⟨titled, bodied⟩
  have finished : finishUpdate s now p f = .ok t := by
    simp only [finishUpdate, touching, Bool.not_true, Bool.false_eq_true, if_false, found, loaded,
      checked, bind_ok, ← Service.write_document now]
    cases tags with
    | none => exact congrArg Except.ok written
    | some gs =>
      have linked := Service.setTags_rewritten now found f (f.write now p p).document
        (loadTags_of_mapM loaded)
      exact (commit_eq_ok.mpr linked).trans (congrArg Except.ok written)
  have there : t.tables.post? p.id = some (f.write now p p) :=
    written ▸ post?_rewritePost found f _
  rw [update_own found own, finished]
  simp only [bind_ok, find_eq_ok.mpr there, touching, if_true]

theorem delete_unknown (absent : s.tables.post? id = none) :
    delete s u id = refuse .noPost := by
  rw [delete, find_refused absent]
  rfl

theorem delete_notOwner (found : s.tables.post? id = some p) (others : p.userId ≠ u.id) :
    delete s u id = refuse .notOwnerOfPost := by
  simp only [delete, find_eq_ok.mpr found, bind_ok]
  rw [if_pos others]
  rfl

theorem delete_own (found : s.tables.post? id = some p) (own : p.userId = u.id) :
    delete s u id = .ok (Done.removed (s.change (·.removePost id)) [unindexedRecord id]) := by
  simp only [delete, find_eq_ok.mpr found, bind_ok]
  exact if_neg (not_not.mpr own)

end Posts

/-! ## Comments -/

namespace Comments

theorem find_eq_ok (distinct : (s.tables.comments.map (·.id)).Nodup) :
    find s.tables postId id = .ok c ↔ c ∈ s.tables.comments ∧ c.id = id ∧ c.postId = postId := by
  constructor
  · intro found
    have found := orRefuse_eq_ok.mp found
    have fits := List.find?_some found
    simp only [Bool.and_eq_true, decide_eq_true_eq] at fits
    exact ⟨List.mem_of_find?_eq_some found, fits⟩
  · rintro ⟨hc, hid, hpost⟩
    refine orRefuse_eq_ok.mpr (find?_of_only hc (by simp [hid, hpost]) fun v hv fits => ?_)
    have same : v.id = id := of_decide_eq_true (Bool.and_eq_true_iff.mp fits).1
    exact List.inj_on_of_nodup_map distinct hv hc (same.trans hid.symm)

theorem find_refused (absent : ¬∃ c, find s.tables postId id = .ok c) :
    find s.tables postId id = refuse .noComment := by
  unfold find at absent ⊢
  cases h : s.tables.comments.find? fun c => c.id = id && c.postId = postId with
  | none => rfl
  | some c => exact absurd ⟨c, orRefuse_eq_ok.mpr h⟩ absent

theorem find_absent (distinct : (s.tables.comments.map (·.id)).Nodup)
    (absent : ∀ c ∈ s.tables.comments, ¬(c.id = id ∧ c.postId = postId)) :
    find s.tables postId id = refuse .noComment := by
  refine find_refused ?_
  rintro ⟨c, found⟩
  obtain ⟨hc, fits⟩ := (find_eq_ok distinct).mp found
  exact absent c hc fits

theorem update_postless (absent : s.tables.post? postId = none) :
    update s now u postId id body = refuse .noPost := by
  rw [update, Posts.find_refused absent]
  rfl

theorem delete_postless (absent : s.tables.post? postId = none) :
    delete s u postId id = refuse .noPost := by
  rw [delete, Posts.find_refused absent]
  rfl

variable (post : s.tables.post? postId = some p)

include post in
theorem update_unknown (unknown : find s.tables postId id = refuse .noComment) :
    update s now u postId id body = refuse .noComment := by
  rw [update, Posts.find_eq_ok.mpr post, unknown]
  rfl

include post in
theorem update_notOwner (found : find s.tables postId id = .ok c) (others : c.userId ≠ u.id) :
    update s now u postId id body = refuse .notOwner := by
  simp only [update, Posts.find_eq_ok.mpr post, found, discard_ok, bind_ok]
  rw [if_pos others]
  rfl

include post in
theorem update_blank (found : find s.tables postId id = .ok c) (own : c.userId = u.id)
    (blank : Text.isBlank body = true) : update s now u postId id body =
      .error (.invalid .comment (some c.id) (.about ["body"])) := by
  have checked : checkBody (some c.id) (some body) = _ := checkBody_blank blank
  simp only [update, Posts.find_eq_ok.mpr post, found, discard_ok, bind_ok, checked]
  exact if_neg (not_not.mpr own)

include post in
theorem update_own (found : find s.tables postId id = .ok c) (own : c.userId = u.id)
    (full : Text.isBlank body = false) : update s now u postId id body =
      .ok (Done.changed (s.change (·.setComment c.id (revised now c body)))
        (.comment (revised now c body)) []) := by
  have checked : checkBody (some c.id) (some body) = .ok () := checkBody_eq_ok.mpr full
  simp only [update, Posts.find_eq_ok.mpr post, found, discard_ok, bind_ok, checked]
  exact if_neg (not_not.mpr own)

include post in
theorem delete_unknown (unknown : find s.tables postId id = refuse .noComment) :
    delete s u postId id = refuse .noComment := by
  rw [delete, Posts.find_eq_ok.mpr post, unknown]
  rfl

include post in
theorem delete_notOwner (found : find s.tables postId id = .ok c) (others : c.userId ≠ u.id) :
    delete s u postId id = refuse .notOwner := by
  simp only [delete, Posts.find_eq_ok.mpr post, found, discard_ok, bind_ok]
  rw [if_pos others]
  rfl

include post in
theorem delete_own (found : find s.tables postId id = .ok c) (own : c.userId = u.id) :
    delete s u postId id = .ok (Done.removed (s.change (·.removeComment c.id)) []) := by
  simp only [delete, Posts.find_eq_ok.mpr post, found, discard_ok, bind_ok]
  exact if_neg (not_not.mpr own)

end Comments

/-! ## Tags -/

namespace Tags

/-- The name of another tag is a new name. -/
theorem newName?_of_other (hs : Service.Sound s) (unique : s.tables.Unique) {g h : TagRow}
    (hg : g ∈ s.tables.tags) (hh : h ∈ s.tables.tags) (other : h.id ≠ g.id) {f : Edit}
    (given : f.name = some h.name) : f.newName? g = some h.name := by
  have long : h.name ≠ "" := by
    intro empty
    have valid := (hs.valid.tags h hh).name
    rw [empty] at valid
    cases valid
  have differs : h.name ≠ g.name := fun same =>
    other (congrArg TagRow.id (List.inj_on_of_nodup_map unique.tagNames hh hg same))
  rw [Edit.newName?, given]
  simp [long, differs]

theorem find_eq_ok : find s.tables id = .ok g ↔ s.tables.tag? id = some g := orRefuse_eq_ok

theorem find_refused (absent : s.tables.tag? id = none) : find s.tables id = refuse .noTag := by
  rw [find, absent]
  rfl

theorem update_unknown (absent : s.tables.tag? id = none) (f : Edit) :
    update s now u id f = refuse .noTag := by
  rw [update, find_refused absent]
  rfl

theorem update_notOwner (found : s.tables.tag? id = some g) (others : g.userId ≠ u.id) (f : Edit) :
    update s now u id f = refuse .notOwner := by
  simp only [update, find_eq_ok.mpr found, bind_ok]
  rw [if_pos others]
  rfl

theorem update_taken (found : s.tables.tag? id = some g) (own : g.userId = u.id) {f : Edit}
    {name : String} (renamed : f.newName? g = some name)
    (taken : (s.tables.tagNamed? name).isSome = true) :
    update s now u id f = refuse .tagNameTaken := by
  simp only [update, find_eq_ok.mpr found, bind_ok, renamed, checkFree]
  rw [if_neg (not_not.mpr own), if_pos taken]
  rfl

/-- What is left of a change when the name is not taken. -/
theorem update_own (found : s.tables.tag? id = some g) (own : g.userId = u.id) {f : Edit}
    (free : ∀ name, f.newName? g = some name → s.tables.tagNamed? name = none) :
    update s now u id f = (do
      if f.isTouching g then checkName (some g.id) (f.apply now g).name
      let t ← commit (s.setTag (f.apply now g))
      .ok (Done.changed t (.tag (f.apply now g)) [])) := by
  simp only [update, find_eq_ok.mpr found, bind_ok]
  rw [if_neg (not_not.mpr own)]
  cases renamed : f.newName? g with
  | none => rfl
  | some name =>
    have checked : checkFree s.tables name = .ok () := checkFree_eq_ok.mpr (free name renamed)
    simp only [checked, bind_ok]

theorem update_blank (found : s.tables.tag? id = some g) (own : g.userId = u.id) {f : Edit}
    (free : ∀ name, f.newName? g = some name → s.tables.tagNamed? name = none)
    (touching : f.isTouching g = true) (blank : Text.isBlank (f.apply now g).name = true) :
    update s now u id f = .error (.invalid .tag (some g.id) (.about ["name"])) := by
  have checked : checkName (some g.id) (f.apply now g).name = _ := checkName_blank blank
  rw [update_own found own free, if_pos touching, checked]
  rfl

theorem update_done (found : s.tables.tag? id = some g) (own : g.userId = u.id) {f : Edit}
    (free : ∀ name, f.newName? g = some name → s.tables.tagNamed? name = none)
    (unique : s.tables.Unique) (named : Text.isBlank (f.apply now g).name = false) :
    update s now u id f = .ok (Done.changed (s.change (·.setTag g.id (f.apply now g)))
      (.tag (f.apply now g)) []) := by
  have checked : checkName (some g.id) (f.apply now g).name = .ok () := checkName_eq_ok.mpr named
  have written : s.setTag (f.apply now g) = .ok (s.change (·.setTag g.id (f.apply now g))) :=
    Store.setTag_eq_ok.mpr
      ⟨Service.nameFree_apply unique (List.mem_of_find?_eq_some found) f free, rfl⟩
  rw [update_own found own free, commit_eq_ok.mpr written, checked]
  split
  · rfl
  · rfl

theorem delete_unknown (absent : s.tables.tag? id = none) : delete s u id = refuse .noTag := by
  rw [delete, find_refused absent]
  rfl

theorem delete_notOwner (found : s.tables.tag? id = some g) (others : g.userId ≠ u.id) :
    delete s u id = refuse .notOwner := by
  simp only [delete, find_eq_ok.mpr found, bind_ok]
  rw [if_pos others]
  rfl

theorem delete_own (found : s.tables.tag? id = some g) (own : g.userId = u.id) :
    delete s u id = .ok (Done.removed (s.change (·.removeTag g.id)) []) := by
  simp only [delete, find_eq_ok.mpr found, bind_ok]
  exact if_neg (not_not.mpr own)

end Tags

end Weblog
