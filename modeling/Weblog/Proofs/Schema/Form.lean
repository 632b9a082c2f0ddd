/-
  What a form lets through: if a form checks fields, each of its own fields was checked and holds
  what its type admits, and a form whose fields are all fit checks them.
-/
import Weblog.Proofs.Service.Success

namespace Weblog

variable {form : Form} {f : Field} {fields fs : List (String × Json)} {name : String} {b : Bounds}

/-- All values are collected exactly when there are no faults. -/
theorem collect_eq_ok {ε α : Type} {rs : List (Except (List ε) α)} {as : List α} :
    collect rs = .ok as ↔ rs = as.map .ok := by
  induction rs generalizing as with
  | nil =>
    cases as with
    | nil => simp [collect]
    | cons a as => simp [collect]
  | cons r rs ih =>
    cases r with
    | error es =>
      have hne : collect (.error es :: rs) ≠ .ok as := by
        unfold collect
        split <;> simp
      cases as with
      | nil => simp [hne]
      | cons a as => simp [hne]
    | ok a =>
      cases as with
      | nil => simp [collect]
      | cons a' as =>
        simp only [collect, map_eq_ok, ih, List.map_cons, List.cons.injEq, Except.ok.injEq]
        constructor
        · rintro ⟨_, hrs, ha, rfl⟩
          exact ⟨ha, hrs⟩
        · rintro ⟨ha, hrs⟩
          exact ⟨as, hrs, ha, rfl⟩

/-! ## Fields -/

/-- The values that a checked field of a type holds. An address holds its normal form. -/
def FieldType.Holds : FieldType → Json → Prop
  | .text b, w => ∃ s, w = .str s ∧ b.broken? s.length = none
  | .email, w => ∃ typed e, w = .str e ∧ Email.normalForm typed = .ok e
  | .textList, w => ∃ ts : List String, w = .arr (ts.map .str)

/-- The values that a checked field holds: null where it may be missing. -/
def Field.Holds (f : Field) (w : Json) : Prop :=
  f.type.Holds w ∨ f.isRequired = false ∧ w = .null

theorem FieldType.texts_of_checkItems {i : Nat} {vs ws : List Json}
    (h : collect (checkItems i vs) = .ok ws) : ∃ ts : List String, ws = ts.map .str := by
  induction vs generalizing i ws with
  | nil => exact ⟨[], (Except.ok.inj h).symm⟩
  | cons v vs ih =>
    cases ws with
    | nil => exact ⟨[], rfl⟩
    | cons w ws =>
      rw [checkItems, collect_eq_ok, List.map_cons, List.cons.injEq] at h
      obtain ⟨hw, hws⟩ := h
      obtain ⟨ts, rfl⟩ := ih (collect_eq_ok.mpr hws)
      unfold checkItem at hw
      split at hw
      · rename_i s
        exact ⟨s :: ts, by rw [← Except.ok.inj hw]; rfl⟩
      · cases hw

theorem FieldType.holds_of_check {t : FieldType} {v w : Json} (h : t.check v = .ok w) :
    t.Holds w := by
  unfold check at h
  split at h
  · rename_i b s
    split at h
    · cases h
    · rename_i hb
      exact ⟨s, (Except.ok.inj h).symm, hb⟩
  · rename_i s
    split at h
    · rename_i e he
      exact ⟨s, e, (Except.ok.inj h).symm, he⟩
    · cases h
  · rw [map_eq_ok] at h
    obtain ⟨ws, hws, rfl⟩ := h
    obtain ⟨ts, rfl⟩ := texts_of_checkItems hws
    exact ⟨ts, rfl⟩
  · cases h
  · cases h

/-- A checked field keeps its name and holds what its type admits. -/
theorem Field.holds_of_check {v : String × Json} (h : f.check fields = .ok v) :
    v.1 = f.name ∧ f.Holds v.2 := by
  unfold check at h
  split at h
  · split at h
    · cases h
    · rename_i hopt
      rw [← Except.ok.inj h]
      exact ⟨rfl, .inr ⟨by simpa using hopt, rfl⟩⟩
  · split at h
    · rename_i hnull
      rw [← Except.ok.inj h]
      exact ⟨rfl, .inr ⟨by simpa using (Bool.and_eq_true_iff.mp hnull).2, rfl⟩⟩
    · split at h
      · rename_i w hw
        rw [← Except.ok.inj h]
        exact ⟨rfl, .inl (FieldType.holds_of_check hw)⟩
      · cases h

/-! ## Checked fields -/

/-- Every field of a form is found among what the form has checked, as it was checked. -/
theorem lookup_of_check {fds : List Field} (h : fds.map (·.check fields) = fs.map .ok)
    (nodup : (fds.map (·.name)).Nodup) (hf : f ∈ fds) :
    ∃ w, fs.lookup f.name = some w ∧ f.check fields = .ok (f.name, w) := by
  induction fds generalizing fs with
  | nil => cases hf
  | cons f' fds ih =>
    cases fs with
    | nil => cases h
    | cons v fs =>
      rw [List.map_cons, List.map_cons, List.cons.injEq] at h
      rw [List.map_cons, List.nodup_cons] at nodup
      have hname := (Field.holds_of_check h.1).1
      obtain ⟨n, w⟩ := v
      simp only at hname
      subst hname
      rcases List.mem_cons.mp hf with rfl | hf
      · exact ⟨w, List.lookup_cons_self, h.1⟩
      · have hne : f.name ≠ f'.name := fun heq =>
          nodup.1 (List.mem_map.mpr ⟨f, hf, heq⟩)
        obtain ⟨w', hlookup, hw'⟩ := ih h.2 nodup.2 hf
        exact ⟨w', by rw [List.lookup_cons, beq_false_of_ne hne, hlookup], hw'⟩

theorem lookup_of_checks {fds : List Field} (h : fds.map (·.check fields) = fs.map .ok)
    (nodup : (fds.map (·.name)).Nodup) (hf : f ∈ fds) :
    ∃ w, fs.lookup f.name = some w ∧ f.Holds w := by
  obtain ⟨w, hlookup, hcheck⟩ := lookup_of_check h nodup hf
  exact ⟨w, hlookup, (Field.holds_of_check hcheck).2⟩

/-- A form gives its own names, in their order. -/
theorem names_of_checks {fds : List Field} (h : fds.map (·.check fields) = fs.map .ok) :
    fs.map (·.1) = fds.map (·.name) := by
  induction fds generalizing fs with
  | nil =>
    obtain rfl := List.map_eq_nil_iff.mp h.symm
    rfl
  | cons f fds ih =>
    cases fs with
    | nil => cases h
    | cons v fs =>
      rw [List.map_cons, List.map_cons, List.cons.injEq] at h
      rw [List.map_cons, List.map_cons, (Field.holds_of_check h.1).1, ih h.2]

namespace Fields

variable {fs : Fields}

theorem required_text (h : form.checkFields fields = .ok fs)
    (nodup : (form.fields.map (·.name)).Nodup) (hf : Form.requiredText name b ∈ form.fields) :
    b.broken? (fs.text name).length = none := by
  obtain ⟨w, hlookup, ⟨s, rfl, hs⟩ | ⟨hreq, -⟩⟩ := lookup_of_checks (collect_eq_ok.mp h) nodup hf
  · simpa [text, text?, show fs.lookup name = _ from hlookup, Json.text?] using hs
  · cases hreq

/-- A required text that is given is filled in as it is. -/
theorem text_of_given (h : form.checkFields fields = .ok fs)
    (nodup : (form.fields.map (·.name)).Nodup) (hf : Form.requiredText name b ∈ form.fields)
    {s : String} (given : fields.lookup name = some (.str s)) : fs.text name = s := by
  obtain ⟨w, hlookup, hcheck⟩ := lookup_of_check (collect_eq_ok.mp h) nodup hf
  have hne : (Json.str s == .null) = false := rfl
  simp only [Field.check, Form.requiredText, given, hne, Bool.false_and, Bool.false_eq_true,
    if_false, FieldType.check] at hcheck
  have hw : w = .str s := by
    cases broken : b.broken? s.length with
    | none =>
      rw [broken] at hcheck
      exact (Prod.mk.inj (Except.ok.inj hcheck)).2.symm
    | some cause =>
      rw [broken] at hcheck
      cases hcheck
  have found : fs.lookup name = some (.str s) := hw ▸ hlookup
  rw [text, text?, found]
  rfl

theorem optional_text (h : form.checkFields fields = .ok fs)
    (nodup : (form.fields.map (·.name)).Nodup) (hf : Form.optionalText name b ∈ form.fields)
    {s : String} (hs : fs.text? name = some s) : b.broken? s.length = none := by
  obtain ⟨w, hlookup, ⟨s', rfl, hs'⟩ | ⟨-, rfl⟩⟩ :=
    lookup_of_checks (collect_eq_ok.mp h) nodup hf
  · simp only [text?, show fs.lookup name = _ from hlookup, Option.bind_some, Json.text?,
      Option.some.injEq] at hs
    exact hs ▸ hs'
  · simp [text?, show fs.lookup name = _ from hlookup, Json.text?] at hs

theorem email (h : form.checkFields fields = .ok fs)
    (nodup : (form.fields.map (·.name)).Nodup) (hf : ⟨name, .email, true⟩ ∈ form.fields) :
    ∃ typed, Email.normalForm typed = .ok (fs.text name) := by
  obtain ⟨w, hlookup, ⟨typed, e, rfl, he⟩ | ⟨hreq, -⟩⟩ :=
    lookup_of_checks (collect_eq_ok.mp h) nodup hf
  · exact ⟨typed, by simpa [text, text?, show fs.lookup name = _ from hlookup, Json.text?] using he⟩
  · cases hreq

end Fields

end Weblog
