/-
  Filling in a form again. What a form has filled in is accepted by it as it is, since the normal form
  of an address is its own normal form; and what else stands in an object makes no difference but
  that a missing field is reported with the whole object.
-/
import Weblog.Proofs.Email.NormalForm
import Weblog.Proofs.Schema.Faults
import Weblog.Proofs.Schema.Given

namespace Weblog

variable {form : Form} {f : Field} {fields fields' fs : List (String × Json)} {t : FieldType}
  {v w : Json}

/-! ## Filled fields -/

theorem FieldType.check_email (h : FieldType.email.check v = .ok w) :
    ∃ s e, v = .str s ∧ w = .str e ∧ Email.normalForm s = .ok e := by
  cases v with
  | str s =>
    cases found : Email.normalForm s with
    | ok e =>
      simp only [check, found, Except.ok.injEq] at h
      exact ⟨s, e, rfl, h.symm, found⟩
    | error e =>
      simp only [check, found] at h
      cases h
  | _ => cases h

/-- What a type has let through it lets through as it is. -/
theorem FieldType.check_again (h : t.check v = .ok w) : t.check w = .ok w := by
  by_cases email : t = .email
  · subst email
    obtain ⟨s, e, rfl, rfl, he⟩ := check_email h
    simp only [check, Email.normalForm_again he]
  · obtain rfl := FieldType.eq_of_check email h
    exact h

/-- A field that must be there was given, and its type let it through. -/
theorem Field.given_of_check (notNull : ¬(f.isRequired = false ∧ w = .null))
    (h : f.check fields = .ok (f.name, w)) :
    ∃ v, fields.lookup f.name = some v ∧ f.type.check v = .ok w := by
  cases given : fields.lookup f.name with
  | none =>
    cases required : f.isRequired with
    | true =>
      rw [check_missing required given] at h
      cases h
    | false =>
      rw [check_absent required given] at h
      exact absurd ⟨required, (Prod.mk.inj (Except.ok.inj h)).2.symm⟩ notNull
  | some v =>
    by_cases null : f.isRequired = false ∧ v = .null
    · obtain ⟨optional, rfl⟩ := null
      rw [check_null optional given] at h
      exact absurd ⟨optional, (Prod.mk.inj (Except.ok.inj h)).2.symm⟩ notNull
    · rw [check_given given null, mapError_eq_ok, map_eq_ok] at h
      obtain ⟨w', checked, same⟩ := h
      exact ⟨v, rfl, (Prod.mk.inj same).2 ▸ checked⟩

theorem Field.check_again (filled : fs.lookup f.name = some w)
    (h : f.check fields = .ok (f.name, w)) : f.check fs = .ok (f.name, w) := by
  by_cases null : f.isRequired = false ∧ w = .null
  · obtain ⟨optional, rfl⟩ := null
    exact check_null optional filled
  · obtain ⟨v, -, checked⟩ := given_of_check null h
    rw [check_given filled null, FieldType.check_again checked]
    rfl

/-! ## Other fields -/

/-- A fault as it is reported of another object: a missing field is reported with the whole object. -/
def Fault.reported (fields : List (String × Json)) (x : Fault) : Fault :=
  if x.cause = .missing then { x with input := .obj fields } else x

theorem Bounds.broken?_ne_missing {b : Bounds} {length : Nat} {cause : Cause}
    (h : b.broken? length = some cause) : cause ≠ .missing := by
  rintro rfl
  unfold broken? at h
  split at h
  · split at h
    · cases h
    · split at h <;> cases h
  · split at h <;> cases h
  · split at h <;> cases h
  · cases h

/-- No value is missing. -/
theorem FieldType.present_of_mem_failures {x : Fault} (hx : x ∈ failures (t.check v)) :
    x.cause ≠ .missing := by
  unfold check at hx
  split at hx
  · split at hx
    · rename_i cause broken
      rw [List.mem_singleton.mp hx]
      exact Bounds.broken?_ne_missing broken
    · cases hx
  · split at hx
    · cases hx
    · rw [List.mem_singleton.mp hx]
      exact nofun
  · rw [failures_map, failures_collect] at hx
    obtain ⟨i, w, -, -, rfl⟩ := mem_failures_checkItems.mp hx
    exact nofun
  · rw [List.mem_singleton.mp hx]
    exact nofun
  · rw [List.mem_singleton.mp hx]
    exact nofun

/-- A field is checked alike in objects that hold the same there. -/
theorem Field.check_congr (same : fields'.lookup f.name = fields.lookup f.name) :
    f.check fields' = (f.check fields).mapError (List.map (Fault.reported fields')) := by
  cases given : fields.lookup f.name with
  | none =>
    rw [given] at same
    cases required : f.isRequired with
    | true =>
      rw [check_missing required given, check_missing required same]
      rfl
    | false =>
      rw [check_absent required given, check_absent required same]
      rfl
  | some v =>
    rw [given] at same
    by_cases null : f.isRequired = false ∧ v = .null
    · obtain ⟨optional, rfl⟩ := null
      rw [check_null optional given, check_null optional same]
      rfl
    · rw [check_given given null, check_given same null]
      cases found : f.type.check v with
      | ok w => rfl
      | error es =>
        have present : ∀ x ∈ es, x.cause ≠ .missing := fun x hx =>
          FieldType.present_of_mem_failures (t := f.type) (v := v) (by rwa [found])
        refine congrArg Except.error ?_
        rw [List.map_map]
        exact List.map_congr_left fun x hx => (if_neg (present x hx)).symm

theorem collect_mapError {ε α : Type} {g : ε → ε} (rs : List (Except (List ε) α)) :
    collect (rs.map (·.mapError (List.map g))) = (collect rs).mapError (List.map g) := by
  induction rs with
  | nil => rfl
  | cons r rs ih =>
    cases r with
    | ok a =>
      show (collect _).map _ = ((collect rs).map _).mapError _
      rw [ih, mapError_map]
    | error es =>
      show collect (.error (es.map g) :: _) = _
      rw [collect, ih, collect]
      cases collect rs with
      | ok as => rfl
      | error more => exact congrArg Except.error List.map_append.symm

/-! ## Forms -/

namespace Form

/-- Objects that hold the same in the fields of a form, whatever else they hold. -/
def SameFields (form : Form) (fields fields' : List (String × Json)) : Prop :=
  ∀ f ∈ form.fields, fields'.lookup f.name = fields.lookup f.name

theorem check_congr (same : form.SameFields fields fields') : form.check (.obj fields') =
    (form.check (.obj fields)).mapError (List.map (Fault.reported fields')) := by
  have each : form.fields.map (·.check fields') =
      (form.fields.map (·.check fields)).map (·.mapError (List.map (Fault.reported fields'))) := by
    rw [List.map_map]
    exact List.map_congr_left fun f hf => Field.check_congr (same f hf)
  show collect _ = (collect _).mapError _
  rw [each, collect_mapError]

theorem checkFields_again (nodup : (form.fields.map (·.name)).Nodup)
    (h : form.checkFields fields = .ok fs) : form.checkFields fs = .ok fs := by
  have filled := collect_eq_ok.mp h
  refine collect_eq_ok.mpr (Eq.trans ?_ filled)
  refine List.map_congr_left fun f hf => ?_
  obtain ⟨w, found, checked⟩ := lookup_of_check filled nodup hf
  rw [checked, Field.check_again found checked]

theorem required_emails : ∀ form ∈ all, ∀ f ∈ form.fields, f.type = .email →
    f.isRequired = true := by decide

/-- A new user with a name in front of his address, and with a key that is no field. -/
def namedMail : List (String × Json) :=
  [("admin", .bool true), ("username", .str "bob"), ("email", .str "Bob <bob@example.com>"),
    ("password", .str "password")]

end Form

end Weblog
