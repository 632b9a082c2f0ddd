/-
  Answers of valid rows: a row that a form let through fits the form of its answer.

  For an address this takes that its normal form is its own normal form, which is asked of the
  row here.
-/
import Weblog.Proofs.Service.Valid

namespace Weblog

/-! ## Fields of answers -/

section Fields

variable {fields : List (String × Json)} {name s : String} {b : Bounds} {required : Bool}

theorem check_text (given : fields.lookup name = some (.str s))
    (fits : b.broken? s.length = none) :
    (Field.mk name (.text b) required).check fields = .ok (name, .str s) := by
  have hne : (Json.str s == .null) = false := rfl
  simp [Field.check, given, hne, FieldType.check, fits]

theorem check_ofText? {o : Option String} (given : fields.lookup name = some (Json.ofText? o)) :
    (Form.optionalText name .none).check fields = .ok (name, Json.ofText? o) := by
  cases o with
  | none =>
    have hnull : (Json.null == .null) = true := rfl
    simp [Field.check, Form.optionalText, given, Json.ofText?, hnull]
  | some s => exact check_text given rfl

theorem check_email {e : String} (given : fields.lookup name = some (.str s))
    (normal : Email.normalForm s = .ok e) :
    (Field.mk name .email required).check fields = .ok (name, .str e) := by
  have hne : (Json.str s == .null) = false := rfl
  simp [Field.check, given, hne, FieldType.check, normal]

/-- An object is shown when each field of its form is fit. -/
theorem exists_checked {form : Form} {rest : List (String × Json)}
    (fit : ∀ f ∈ form.fields, ∃ v, f.check fields = .ok v) :
    ∃ j, View.checked form fields rest = .ok j := by
  have collected : ∃ fs, collect (form.fields.map (·.check fields)) = .ok fs := by
    generalize form.fields = fds at fit
    induction fds with
    | nil => exact ⟨[], rfl⟩
    | cons f fds ih =>
      obtain ⟨v, hv⟩ := fit f List.mem_cons_self
      obtain ⟨fs, hfs⟩ := ih fun g hg => fit g (List.mem_cons_of_mem f hg)
      exact ⟨v :: fs, by simp [collect, hv, hfs]⟩
  obtain ⟨fs, hfs⟩ := collected
  exact ⟨.obj (fs ++ rest), by simp [View.checked, Form.checkFields, hfs]⟩

/-- What an object shows beside the fields of its form is found under its name. -/
theorem field?_of_checked {form : Form} {rest : List (String × Json)} {j : Json}
    (h : View.checked form fields rest = .ok j) (other : name ∉ form.fields.map (·.name)) :
    j.field? name = rest.lookup name := by
  unfold View.checked at h
  split at h
  · rename_i fs hfs
    obtain rfl := Except.ok.inj h
    have absent : fs.lookup name = none := by
      refine List.lookup_eq_none_iff.mpr fun f hf => bne_iff_ne.mpr ?_
      rintro rfl
      rw [← names_of_checks (collect_eq_ok.mp hfs)] at other
      exact other (List.mem_map_of_mem hf)
    rw [Json.field?, List.lookup_append, absent, Option.none_or]
  · cases h

end Fields

/-! ## Rows -/

theorem userJson_ok {u : UserRow} (h : u.Valid) (mail : Email.normalForm u.email = .ok u.email) :
    ∃ j, View.userJson u = .ok j := by
  refine exists_checked fun f hf => ?_
  simp only [Form.userAnswer, Form.userFields, List.mem_cons, List.not_mem_nil, or_false] at hf
  rcases hf with rfl | rfl | rfl
  · exact ⟨_, check_text rfl h.username⟩
  · exact ⟨_, check_email rfl mail⟩
  · exact ⟨_, check_ofText? rfl⟩

theorem postJson_ok (t : Tables) {p : PostRow} (h : p.Valid) :
    ∃ j, View.postJson (t.view p) = .ok j := by
  obtain ⟨title, htitle, -⟩ := exists_of_not_isBlankText h.title
  obtain ⟨body, hbody, -⟩ := exists_of_not_isBlankText h.body
  refine exists_checked fun f hf => ?_
  simp only [Form.postAnswer, Form.postFields, List.mem_cons, List.not_mem_nil, or_false] at hf
  rcases hf with rfl | rfl
  · have given : Json.ofText? (t.view p).post.title = .str title := congrArg Json.ofText? htitle
    exact ⟨_, check_text (by rw [given]; rfl) (h.length title htitle)⟩
  · have given : Json.ofText? (t.view p).post.body = .str body := congrArg Json.ofText? hbody
    exact ⟨_, check_text (s := body) (by rw [given]; rfl) rfl⟩

theorem commentJson_ok {c : CommentRow} (h : c.Valid) : ∃ j, View.commentJson c = .ok j := by
  obtain ⟨body, hbody, -⟩ := exists_of_not_isBlankText h.body
  refine exists_checked fun f hf => ?_
  simp only [Form.commentAnswer, Form.commentFields, List.mem_singleton] at hf
  subst hf
  exact ⟨_, check_text (s := body) (by rw [hbody]; rfl) rfl⟩

theorem tagJson_ok {g : TagRow} (h : g.Valid) : ∃ j, View.tagJson g = .ok j := by
  refine exists_checked fun f hf => ?_
  simp only [Form.tagAnswer, Form.tagFields, List.mem_cons, List.not_mem_nil, or_false] at hf
  rcases hf with rfl | rfl
  · exact ⟨_, check_text rfl h.name⟩
  · exact ⟨_, check_ofText? rfl⟩

end Weblog
