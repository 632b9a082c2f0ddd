/-
  Valid rows: what holds of a row because a form or a check of presence let it through, so that
  it can be shown again.

  A title or a body that is missing counts as blank, hence a valid post has both.
-/
import Weblog.Proofs.Schema.Form
import Weblog.Proofs.Service.Effect

namespace Weblog

/-! ## Rows -/

structure UserRow.Valid (u : UserRow) : Prop where
  username : Form.usernameBounds.broken? u.username.length = none
  email : ∃ typed, Email.normalForm typed = .ok u.email

structure PostRow.Valid (p : PostRow) : Prop where
  title : isBlankText p.title = false
  body : isBlankText p.body = false
  length : ∀ title, p.title = some title → Form.titleBounds.broken? title.length = none

structure CommentRow.Valid (c : CommentRow) : Prop where
  body : isBlankText c.body = false

structure TagRow.Valid (g : TagRow) : Prop where
  name : Form.tagNameBounds.broken? g.name.length = none

/-- All rows are valid. -/
structure Tables.Valid (t : Tables) : Prop where
  users : ∀ u ∈ t.users, u.Valid
  posts : ∀ p ∈ t.posts, p.Valid
  comments : ∀ c ∈ t.comments, c.Valid
  tags : ∀ g ∈ t.tags, g.Valid

theorem Tables.valid_empty : Tables.empty.Valid :=
  ⟨by simp [empty], by simp [empty], by simp [empty], by simp [empty]⟩

/-- A text that is not blank is there, and it is not empty. -/
theorem exists_of_not_isBlankText {o : Option String} (h : isBlankText o = false) :
    ∃ s, o = some s ∧ s ≠ "" := by
  cases o with
  | none => cases h
  | some s =>
    refine ⟨s, rfl, ?_⟩
    rintro rfl
    cases h

/-! ## Lists of rows -/

theorem forall_mem_concat {α : Type} {P : α → Prop} {l : List α} {a : α} (h : ∀ b ∈ l, P b)
    (ha : P a) : ∀ b ∈ l ++ [a], P b := by
  intro b hb
  rcases List.mem_append.mp hb with hb | hb
  · exact h b hb
  · exact List.mem_singleton.mp hb ▸ ha

theorem forall_mem_put {α : Type} {P : α → Prop} {l : List α} {c : α → Prop} [DecidablePred c]
    {a : α} (h : ∀ b ∈ l, P b) (ha : P a) : ∀ b ∈ l.map fun v => if c v then a else v, P b := by
  intro b hb
  obtain ⟨v, hv, rfl⟩ := List.mem_map.mp hb
  split
  · exact ha
  · exact h v hv

theorem forall_mem_filter {α : Type} {P : α → Prop} {l : List α} {q : α → Bool}
    (h : ∀ b ∈ l, P b) : ∀ b ∈ l.filter q, P b :=
  fun b hb => h b (List.mem_filter.mp hb).1

namespace Service

variable {settings : Settings} {now : Instant} {s : Store} {r : Request} {form : Form}
  {fs : Fields} {u : UserRow}

/-! ## Written rows -/

/-- A form is filled from an object. -/
theorem read_of_submitted (h : submitted form r = .ok fs) :
    ∃ fields, Submission.read r = .ok (.value (.obj fields)) ∧ form.checkFields fields = .ok fs := by
  simp only [submitted, bind_eq_ok] at h
  obtain ⟨submission, hread, h⟩ := h
  unfold Submission.check at h
  split at h
  · cases h
  · rename_i v
    split at h
    · rename_i fs' hfs
      obtain rfl := Except.ok.inj h
      unfold Form.checkValue at hfs
      split at hfs
      · exact ⟨_, hread, hfs⟩
      · cases hfs
    · cases h
  · split at h <;> cases h

theorem checkFields_of_submitted (h : submitted form r = .ok fs) :
    ∃ fields, form.checkFields fields = .ok fs :=
  let ⟨fields, _, checked⟩ := read_of_submitted h
  ⟨fields, checked⟩

theorem valid_registered (h : submitted .userCreate r = .ok fs) (hash : PasswordHash) :
    ((Users.Registration.ofFields fs).row s now hash).Valid := by
  obtain ⟨fields, h⟩ := checkFields_of_submitted h
  refine ⟨Fields.required_text h (by decide) ?_, Fields.email h (by decide) ?_⟩
  · simp [Form.userCreate, Form.userFields]
  · simp [Form.userCreate, Form.userFields]

theorem valid_draft (h : submitted .postCreate r = .ok fs)
    (titled : Text.isBlank (Posts.Draft.ofFields fs).title = false)
    (bodied : Text.isBlank (Posts.Draft.ofFields fs).body = false) :
    ((Posts.Draft.ofFields fs).row s now u).Valid := by
  obtain ⟨fields, h⟩ := checkFields_of_submitted h
  refine ⟨titled, bodied, fun title htitle => ?_⟩
  rw [← Option.some.inj htitle]
  exact Fields.required_text h (by decide) (by simp [Form.postCreate, Form.postFields])

theorem valid_write (now : Instant) {p : PostRow} (hp : p.Valid) (h : submitted .postUpdate r = .ok fs)
    (titled : isBlankText ((Posts.Edit.ofFields fs).titleOf p) = false)
    (bodied : isBlankText ((Posts.Edit.ofFields fs).bodyOf p) = false) :
    ((Posts.Edit.ofFields fs).write now p p).Valid := by
  obtain ⟨fields, h⟩ := checkFields_of_submitted h
  refine ⟨(write_title _ p).symm ▸ titled, (write_body _ p).symm ▸ bodied, fun title htitle => ?_⟩
  rw [write_title, Posts.Edit.titleOf, Option.or_eq_some_iff] at htitle
  rcases htitle with hgiven | ⟨-, hkept⟩
  · exact Fields.optional_text h (by decide) (by simp [Form.postUpdate]) hgiven
  · exact hp.length title hkept

theorem valid_tag (h : submitted .tagCreate r = .ok fs) :
    (Tags.row s now u (fs.text "name") (fs.text? "description")).Valid := by
  obtain ⟨fields, h⟩ := checkFields_of_submitted h
  exact ⟨Fields.required_text h (by decide) (by simp [Form.tagCreate, Form.tagFields])⟩

theorem valid_apply {g : TagRow} (hg : g.Valid) (h : submitted .tagUpdate r = .ok fs) :
    ((Tags.Edit.ofFields fs).apply now g).Valid := by
  obtain ⟨fields, h⟩ := checkFields_of_submitted h
  refine ⟨?_⟩
  simp only [Tags.Edit.apply]
  cases hnew : (Tags.Edit.ofFields fs).newName? g with
  | none => exact hg.name
  | some name =>
    have hgiven : fs.text? "name" = some name := (Option.filter_eq_some_iff.mp hnew).1
    exact Fields.optional_text h (by decide) (by simp [Form.tagUpdate]) hgiven

end Service

end Weblog
