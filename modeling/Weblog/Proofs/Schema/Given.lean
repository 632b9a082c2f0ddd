/-
  What a form leaves as it is: every field but an address is filled in as it was given, and a field
  that is missing is as good as one that is null.

  Hence what an endpoint takes out of a filled form can be taken out of the submitted object itself.
-/
import Weblog.Proofs.Service.Valid

namespace Weblog

variable {form : Form} {f : Field} {fields fs : Fields} {name : String} {b : Bounds}

/-! ## Fields -/

namespace FieldType

theorem eq_of_checkItems {i : Nat} {vs ws : List Json} (h : collect (checkItems i vs) = .ok ws) :
    ws = vs := by
  induction vs generalizing i ws with
  | nil => exact (Except.ok.inj h).symm
  | cons v vs ih =>
    cases ws with
    | nil => exact absurd (collect_eq_ok.mp h) (by simp [checkItems])
    | cons w ws =>
      rw [checkItems, collect_eq_ok, List.map_cons, List.cons.injEq] at h
      obtain ⟨hw, hws⟩ := h
      rw [ih (collect_eq_ok.mpr hws)]
      unfold checkItem at hw
      split at hw
      · rw [← Except.ok.inj hw]
      · cases hw

/-- A value that is no address is taken as it is. -/
theorem eq_of_check {t : FieldType} {v w : Json} (other : t ≠ .email) (h : t.check v = .ok w) :
    w = v := by
  unfold check at h
  split at h
  · split at h
    · cases h
    · exact (Except.ok.inj h).symm
  · exact absurd rfl other
  · obtain ⟨ws, hws, rfl⟩ := map_eq_ok.mp h
    rw [eq_of_checkItems hws]
  · cases h
  · cases h

end FieldType

/-- A checked field holds what was given, or null. -/
theorem Field.eq_of_check {w : Json} (other : f.type ≠ .email)
    (h : f.check fields = .ok (f.name, w)) : w = (fields.lookup f.name).getD .null := by
  unfold check at h
  split at h
  · rename_i missing
    split at h
    · cases h
    · rw [missing]
      exact (Prod.mk.inj (Except.ok.inj h)).2.symm
  · rename_i v given
    rw [given, Option.getD_some]
    split at h
    · rename_i null
      rw [← (Prod.mk.inj (Except.ok.inj h)).2]
      exact ((Json.same_iff v .null).mp (Bool.and_eq_true_iff.mp null).1).symm
    · split at h
      · rename_i w' hw
        rw [← (Prod.mk.inj (Except.ok.inj h)).2]
        exact FieldType.eq_of_check other hw
      · cases h

/-! ## Filled forms -/

namespace Fields

theorem lookup_given (h : form.checkFields fields = .ok fs)
    (nodup : (form.fields.map (·.name)).Nodup) (hf : f ∈ form.fields) (other : f.type ≠ .email) :
    fs.lookup f.name = some ((fields.lookup f.name).getD .null) := by
  obtain ⟨w, hlookup, hcheck⟩ := lookup_of_check (collect_eq_ok.mp h) nodup hf
  rw [hlookup, Field.eq_of_check other hcheck]

/-- A text is filled in as it was given. -/
theorem text?_given (h : form.checkFields fields = .ok fs)
    (nodup : (form.fields.map (·.name)).Nodup) (hf : f ∈ form.fields) (other : f.type ≠ .email) :
    fs.text? f.name = fields.text? f.name := by
  rw [text?, lookup_given h nodup hf other, text?]
  cases fields.lookup f.name with
  | none => rfl
  | some v => rfl

/-- A text that must be there was given. -/
theorem text?_required (h : form.checkFields fields = .ok fs)
    (nodup : (form.fields.map (·.name)).Nodup) (hf : Form.requiredText name b ∈ form.fields) :
    fields.text? name = some (fs.text name) := by
  have same : fs.text? name = Fields.text? fields name :=
    text?_given h nodup hf (by simp [Form.requiredText])
  obtain ⟨w, hlookup, ⟨s, rfl, -⟩ | ⟨optional, -⟩⟩ :=
    lookup_of_checks (collect_eq_ok.mp h) nodup hf
  · have held : fs.text? name = some s := by
      rw [text?, show fs.lookup name = _ from hlookup]
      rfl
    rw [← same, text, held, Option.getD_some]
  · cases optional

/-- A list of texts is filled in as it was given. -/
theorem texts?_given (h : form.checkFields fields = .ok fs)
    (nodup : (form.fields.map (·.name)).Nodup) (hf : f ∈ form.fields) (other : f.type ≠ .email) :
    fs.texts? f.name = fields.texts? f.name := by
  rw [texts?, lookup_given h nodup hf other, texts?]
  cases fields.lookup f.name with
  | none => rfl
  | some v => rfl

end Fields

/-! ## Requests -/

namespace Service

/-- What the creation of a post takes out of the submitted object. -/
theorem draft_given (h : Form.postCreate.checkFields fields = .ok fs) :
    some (fs.text "title") = Fields.text? fields "title" ∧
      some (fs.text "body") = Fields.text? fields "body" ∧
      Fields.texts? fields "tag_ids" = fs.texts? "tag_ids" := by
  have nodup : (Form.postCreate.fields.map (·.name)).Nodup := by decide
  have title : Form.requiredText "title" Form.titleBounds ∈ Form.postCreate.fields := by decide
  have body : Form.requiredText "body" .none ∈ Form.postCreate.fields := by decide
  have tags : Form.optionalList "tag_ids" ∈ Form.postCreate.fields := by decide
  exact ⟨(Fields.text?_required h nodup title).symm, (Fields.text?_required h nodup body).symm,
    (Fields.texts?_given h nodup tags (by decide)).symm⟩

/-- What a change of a post takes out of the submitted object. -/
theorem edit_given (h : Form.postUpdate.checkFields fields = .ok fs) :
    Posts.Edit.ofFields fs = Posts.Edit.ofFields fields := by
  have nodup : (Form.postUpdate.fields.map (·.name)).Nodup := by decide
  have title : Form.optionalText "title" Form.titleBounds ∈ Form.postUpdate.fields := by decide
  have body : Form.optionalText "body" .none ∈ Form.postUpdate.fields := by decide
  have tags : Form.optionalList "tag_ids" ∈ Form.postUpdate.fields := by decide
  have givenTitle : fs.text? "title" = Fields.text? fields "title" :=
    Fields.text?_given h nodup title (by decide)
  have givenBody : fs.text? "body" = Fields.text? fields "body" :=
    Fields.text?_given h nodup body (by decide)
  have givenTags : fs.texts? "tag_ids" = Fields.texts? fields "tag_ids" :=
    Fields.texts?_given h nodup tags (by decide)
  simp only [Posts.Edit.ofFields, givenTitle, givenBody, givenTags]

/-- What is taken out of the submitted object where a comment is written. -/
theorem word_given (h : Form.commentCreate.checkFields fields = .ok fs) :
    some (fs.text "body") = Fields.text? fields "body" := by
  have body : Form.requiredText "body" .none ∈ Form.commentCreate.fields := by decide
  exact (Fields.text?_required h (by decide) body).symm

/-- What the creation of a tag takes out of the submitted object. -/
theorem tag_given (h : Form.tagCreate.checkFields fields = .ok fs) :
    some (fs.text "name") = Fields.text? fields "name" ∧
      fs.text? "description" = Fields.text? fields "description" := by
  have nodup : (Form.tagCreate.fields.map (·.name)).Nodup := by decide
  have name : Form.requiredText "name" Form.tagNameBounds ∈ Form.tagCreate.fields := by decide
  have description : Form.optionalText "description" .none ∈ Form.tagCreate.fields := by decide
  exact ⟨(Fields.text?_required h nodup name).symm,
    Fields.text?_given h nodup description (by decide)⟩

/-- What a change of a tag takes out of the submitted object. The name that is given, if one is, is
not empty. -/
theorem tagEdit_given (h : Form.tagUpdate.checkFields fields = .ok fs) :
    Tags.Edit.ofFields fs = Tags.Edit.ofFields fields ∧ Fields.text? fields "name" ≠ some "" := by
  have nodup : (Form.tagUpdate.fields.map (·.name)).Nodup := by decide
  have name : Form.optionalText "name" Form.tagNameBounds ∈ Form.tagUpdate.fields := by decide
  have description : Form.optionalText "description" .none ∈ Form.tagUpdate.fields := by decide
  have givenName : fs.text? "name" = Fields.text? fields "name" :=
    Fields.text?_given h nodup name (by decide)
  have givenDescription : fs.text? "description" = Fields.text? fields "description" :=
    Fields.text?_given h nodup description (by decide)
  refine ⟨by simp only [Tags.Edit.ofFields, givenName, givenDescription], fun empty => ?_⟩
  have fits := Fields.optional_text h nodup name (givenName.trans empty)
  exact absurd fits (by decide)

/-- What a change of one's own record takes out of the submitted object. -/
theorem bio_given (h : Form.userUpdate.checkFields fields = .ok fs) :
    fs.text? "bio" = Fields.text? fields "bio" := by
  have bio : Form.optionalText "bio" .none ∈ Form.userUpdate.fields := by decide
  exact Fields.text?_given h (by decide) bio (by decide)

end Service

end Weblog
