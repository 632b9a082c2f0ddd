/-
  Which faults a form finds.

  What fits a form is said without its checks (`Form.Fits`), and so is where an object does not fit
  (`Field.Offends`). A form accepts what fits it; of an object that does not fit it reports each of
  the wrong places once, in the order of the fields and of the items (`Form.Report`), and of
  another value that it is no object.
-/
import Mathlib.Data.List.Infix
import Weblog.Proofs.Schema.Form

namespace Weblog

variable {form : Form} {f g : Field} {fields : List (String × Json)} {t : FieldType} {b : Bounds}
  {v : Json}

/-! ## Collected faults -/

section Collected

variable {ε α : Type} {rs : List (Except (List ε) α)} {es : List ε}

/-- The faults of an outcome. -/
def failures : Except (List ε) α → List ε
  | .ok _ => []
  | .error es => es

theorem failures_collect (rs : List (Except (List ε) α)) :
    failures (collect rs) = rs.flatMap failures := by
  induction rs with
  | nil => rfl
  | cons r rs ih =>
    rw [List.flatMap_cons, ← ih]
    cases r with
    | ok a =>
      rw [collect]
      cases collect rs with
      | ok as => rfl
      | error es => rfl
    | error es =>
      rw [collect]
      cases collect rs with
      | ok as => exact (List.append_nil es).symm
      | error more => rfl

/-- All is collected if and only if nothing failed. -/
theorem exists_collect_ok_iff :
    (∃ as, collect rs = .ok as) ↔ ∀ r ∈ rs, ∃ a, r = .ok a := by
  simp only [collect_eq_ok]
  constructor
  · rintro ⟨as, rfl⟩ r hr
    obtain ⟨a, -, rfl⟩ := List.mem_map.mp hr
    exact ⟨a, rfl⟩
  · intro h
    induction rs with
    | nil => exact ⟨[], rfl⟩
    | cons r rs ih =>
      obtain ⟨a, rfl⟩ := h r List.mem_cons_self
      obtain ⟨as, rfl⟩ := ih fun r hr => h r (List.mem_cons_of_mem _ hr)
      exact ⟨a :: as, rfl⟩

end Collected

/-! ## What fits -/

/-- A length within bounds. -/
def Bounds.Allow (b : Bounds) (length : Nat) : Prop :=
  (∀ n, b.least = some n → n ≤ length) ∧ ∀ n, b.greatest = some n → length ≤ n

theorem Bounds.broken?_eq_none_iff {length : Nat} : b.broken? length = Option.none ↔ b.Allow length := by
  obtain ⟨least, greatest⟩ := b
  cases least with
  | none => cases greatest <;> simp [broken?, Allow]
  | some n =>
    cases greatest with
    | none => simp [broken?, Allow]
    | some m =>
      simp only [broken?, Allow, Option.some.injEq, forall_eq']
      split
      · simp only [reduceCtorEq, false_iff]
        omega
      · split
        · simp only [reduceCtorEq, false_iff]
          omega
        · simp only [true_iff]
          omega

/-- The values that fit a type. -/
def FieldType.Admits : FieldType → Json → Prop
  | .text b, v => ∃ s, v = .str s ∧ b.Allow s.length
  | .email, v => ∃ s e, v = .str s ∧ Email.normalForm s = .ok e
  | .textList, v => ∃ ss : List String, v = .arr (ss.map .str)

/-- The values that fit a field, where one is given. -/
def Field.Admits (f : Field) (v : Json) : Prop :=
  f.isRequired = false ∧ v = .null ∨ f.type.Admits v

/-- The values that fit a form: objects with all required fields, where each field that is there
fits. -/
def Form.Fits (form : Form) (v : Json) : Prop :=
  ∃ fields, v = .obj fields ∧ ∀ f ∈ form.fields,
    (f.isRequired = true → ∃ w, fields.lookup f.name = some w) ∧
    ∀ w, fields.lookup f.name = some w → f.Admits w

/-! ## What does not fit -/

/-- The wrong places of a value, with what is found there: the wrong items of a list, or the value
itself. -/
inductive FieldType.Offends : FieldType → Json → List Place × Json → Prop
  | value {t : FieldType} {v : Json} (wrong : ¬t.Admits v)
    (whole : t = .textList → ∀ vs, v ≠ .arr vs) : Offends t v ([], v)
  | item {vs : List Json} {i : Nat} {v : Json} (here : vs[i]? = some v)
    (wrong : ∀ s, v ≠ .str s) : Offends .textList (.arr vs) ([.index i], v)

/-- The wrong places of a field in an object: the field itself if it must be there and is missing, for
which the object is found, and the wrong places of its value. -/
inductive Field.Offends (f : Field) (fields : List (String × Json)) : List Place × Json → Prop
  | missing (required : f.isRequired = true) (absent : fields.lookup f.name = none) :
    Offends f fields ([.name f.name], .obj fields)
  | wrong {v input : Json} {place : List Place} (given : fields.lookup f.name = some v)
    (wrong : ¬f.Admits v) (offends : f.type.Offends v (place, input)) :
    Offends f fields (.name f.name :: place, input)

/-- The order of places: that of the fields, and within a field that of the items. -/
inductive Form.Precedes (form : Form) : List Place → List Place → Prop
  | field {f g : Field} {place place' : List Place} (earlier : [f, g].Sublist form.fields) :
    Precedes form (.name f.name :: place) (.name g.name :: place')
  | item {name : String} {i j : Nat} (earlier : i < j) :
    Precedes form [.name name, .index i] [.name name, .index j]

/-- Where a fault is, and what is found there. -/
def Fault.spot (x : Fault) : List Place × Json := (x.place, x.input)

/-- The faults of an object are reported: exactly its wrong places, each once and in order. -/
structure Form.Report (form : Form) (fields : List (String × Json)) (faults : List Fault) :
    Prop where
  exact : ∀ spot, spot ∈ faults.map Fault.spot ↔ ∃ f ∈ form.fields, f.Offends fields spot
  once : (faults.map (·.place)).Nodup
  ordered : (faults.map (·.place)).Pairwise form.Precedes

/-! ## Items -/

namespace FieldType

theorem mem_checkItems {i : Nat} {vs : List Json} {r : Except (List Fault) Json} :
    r ∈ checkItems i vs ↔ ∃ j v, vs[j]? = some v ∧ r = checkItem (i + j) v := by
  induction vs generalizing i with
  | nil => simp [checkItems]
  | cons v vs ih =>
    rw [checkItems, List.mem_cons, ih]
    constructor
    · rintro (rfl | ⟨j, w, here, rfl⟩)
      · exact ⟨0, v, rfl, rfl⟩
      · exact ⟨j + 1, w, here, by rw [Nat.add_right_comm, Nat.add_assoc]⟩
    · rintro ⟨j, w, here, rfl⟩
      cases j with
      | zero => exact .inl (by rw [Option.some.inj here]; rfl)
      | succ j => exact .inr ⟨j, w, here, by rw [Nat.add_right_comm, Nat.add_assoc]⟩

theorem checkItem_ok_iff {i : Nat} : (∃ w, checkItem i v = .ok w) ↔ ∃ s, v = .str s := by
  cases v <;> simp [checkItem]

theorem failures_checkItem {i : Nat} {x : Fault} :
    x ∈ failures (checkItem i v) ↔ (∀ s, v ≠ .str s) ∧ x = ⟨.notText, [.index i], v⟩ := by
  cases v <;> simp [checkItem, failures]

theorem mem_failures_checkItems {vs : List Json} {x : Fault} :
    x ∈ (checkItems 0 vs).flatMap failures ↔
      ∃ i v, vs[i]? = some v ∧ (∀ s, v ≠ .str s) ∧ x = ⟨.notText, [.index i], v⟩ := by
  rw [List.mem_flatMap]
  constructor
  · rintro ⟨r, hr, hx⟩
    obtain ⟨i, v, here, rfl⟩ := mem_checkItems.mp hr
    rw [Nat.zero_add] at hx
    exact ⟨i, v, here, failures_checkItem.mp hx⟩
  · rintro ⟨i, v, here, wrong⟩
    refine ⟨checkItem i v, mem_checkItems.mpr ⟨i, v, here, by rw [Nat.zero_add]⟩, ?_⟩
    exact failures_checkItem.mpr wrong

/-- The wrong items of a list come one after the other. -/
theorem pairwise_checkItems (i : Nat) (vs : List Json) :
    ((checkItems i vs).flatMap failures).Pairwise fun x y =>
      ∃ j k, j < k ∧ x.place = [.index j] ∧ y.place = [.index k] := by
  induction vs generalizing i with
  | nil => exact .nil
  | cons v vs ih =>
    rw [checkItems, List.flatMap_cons, List.pairwise_append]
    refine ⟨?_, ih (i + 1), fun x hx y hy => ?_⟩
    · unfold checkItem
      split
      · exact .nil
      · exact List.pairwise_singleton ..
    · obtain ⟨-, rfl⟩ := failures_checkItem.mp hx
      obtain ⟨r, hr, hy⟩ := List.mem_flatMap.mp hy
      obtain ⟨j, w, -, rfl⟩ := mem_checkItems.mp hr
      obtain ⟨-, rfl⟩ := failures_checkItem.mp hy
      exact ⟨i, i + 1 + j, by omega, rfl, rfl⟩

/-- The items that are all texts. -/
theorem exists_texts_iff {vs : List Json} :
    (∀ (i : Nat) (v : Json), vs[i]? = some v → ∃ s, v = .str s) ↔ ∃ ss : List String, vs = ss.map .str := by
  constructor
  · intro h
    induction vs with
    | nil => exact ⟨[], rfl⟩
    | cons v vs ih =>
      obtain ⟨s, rfl⟩ := h 0 v rfl
      obtain ⟨ss, rfl⟩ := ih fun i => h (i + 1)
      exact ⟨s :: ss, rfl⟩
  · rintro ⟨ss, rfl⟩ i v here
    rw [List.getElem?_map] at here
    obtain ⟨s, -, rfl⟩ := Option.map_eq_some_iff.mp here
    exact ⟨s, rfl⟩

/-! ## Values -/

theorem failures_map {ε α β : Type} (x : Except (List ε) α) (h : α → β) :
    failures (x.map h) = failures x := by
  cases x <;> rfl

/-- A type lets through what fits it. -/
theorem check_ok_iff : (∃ w, t.check v = .ok w) ↔ t.Admits v := by
  cases t with
  | text b =>
    cases v with
    | str s =>
      rw [Admits, check]
      cases broken : b.broken? s.length with
      | none => simp [Bounds.broken?_eq_none_iff.mp broken]
      | some cause =>
        have out : ¬b.Allow s.length := fun fits => by
          rw [Bounds.broken?_eq_none_iff.mpr fits] at broken
          cases broken
        simp [refuse, out]
    | _ => simp [Admits, check, refuse]
  | email =>
    cases v with
    | str s =>
      rw [Admits, check]
      cases found : Email.normalForm s with
      | ok e => simp [found]
      | error e => simp [refuse, found]
    | _ => simp [Admits, check, refuse]
  | textList =>
    cases v with
    | arr vs =>
      have items : (∃ w, (collect (checkItems 0 vs)).map Json.arr = .ok w) ↔
          ∃ ws, collect (checkItems 0 vs) = .ok ws := by
        simp only [map_eq_ok]
        constructor
        · rintro ⟨_, ws, h, -⟩
          exact ⟨ws, h⟩
        · rintro ⟨ws, h⟩
          exact ⟨_, ws, h, rfl⟩
      have texts : (∀ r ∈ checkItems 0 vs, ∃ w, r = .ok w) ↔
          ∀ (i : Nat) (v : Json), vs[i]? = some v → ∃ s, v = .str s := by
        constructor
        · intro h i v here
          exact checkItem_ok_iff.mp (h _ (mem_checkItems.mpr ⟨i, v, here, rfl⟩))
        · rintro h r hr
          obtain ⟨i, v, here, rfl⟩ := mem_checkItems.mp hr
          exact checkItem_ok_iff.mpr (h i v here)
      rw [check, items, exists_collect_ok_iff, texts, exists_texts_iff]
      simp only [Admits, Json.arr.injEq]
    | _ => simp [Admits, check, refuse]

/-- What a type finds wrong: a whole value, or the items of a list. -/
theorem failures_check :
    (∃ cause, failures (t.check v) = [⟨cause, [], v⟩] ∧ ¬t.Admits v ∧
        (t = .textList → ∀ vs, v ≠ .arr vs)) ∨
      (∃ vs, t = .textList ∧ v = .arr vs ∧
        failures (t.check v) = (checkItems 0 vs).flatMap failures) ∨
      failures (t.check v) = [] ∧ t.Admits v := by
  by_cases list : t = .textList ∧ ∃ vs, v = .arr vs
  · obtain ⟨rfl, vs, rfl⟩ := list
    refine .inr (.inl ⟨vs, rfl, rfl, ?_⟩)
    rw [check, failures_map, failures_collect]
  · have whole : t = .textList → ∀ vs, v ≠ .arr vs := fun ht vs hv => list ⟨ht, vs, hv⟩
    cases found : t.check v with
    | ok w => exact .inr (.inr ⟨rfl, check_ok_iff.mp ⟨w, found⟩⟩)
    | error es =>
      have wrong : ¬t.Admits v := fun fits => by
        obtain ⟨w, hw⟩ := check_ok_iff.mpr fits
        rw [hw] at found
        cases found
      refine .inl ?_
      suffices h : ∃ cause, es = [⟨cause, [], v⟩] from
        h.imp fun cause hes => ⟨hes, wrong, whole⟩
      unfold check at found
      split at found
      · split at found
        · exact ⟨_, (Except.error.inj found).symm⟩
        · cases found
      · split at found
        · cases found
        · exact ⟨_, (Except.error.inj found).symm⟩
      · exact absurd rfl (whole rfl _)
      · exact ⟨_, (Except.error.inj found).symm⟩
      · exact ⟨_, (Except.error.inj found).symm⟩

/-- What a type finds wrong are the wrong places of the value. -/
theorem mem_spots_check {spot : List Place × Json} :
    spot ∈ (failures (t.check v)).map Fault.spot ↔ t.Offends v spot := by
  rw [List.mem_map]
  constructor
  · rintro ⟨x, hx, rfl⟩
    obtain ⟨cause, hcheck, wrong, whole⟩ | ⟨vs, rfl, rfl, hcheck⟩ | ⟨hcheck, -⟩ :=
      failures_check (t := t) (v := v)
    · rw [hcheck] at hx
      obtain rfl := List.mem_singleton.mp hx
      exact .value wrong whole
    · rw [hcheck] at hx
      obtain ⟨i, w, here, wrong, rfl⟩ := mem_failures_checkItems.mp hx
      exact .item here wrong
    · rw [hcheck] at hx
      cases hx
  · rintro (⟨wrong, whole⟩ | ⟨here, wrong⟩)
    · obtain ⟨cause, hcheck, -⟩ | ⟨vs, rfl, rfl, -⟩ | ⟨-, fits⟩ := failures_check (t := t) (v := v)
      · exact ⟨_, hcheck ▸ List.mem_singleton_self _, rfl⟩
      · exact absurd rfl (whole rfl vs)
      · exact absurd fits wrong
    · rename_i vs i w
      have hcheck : failures (check .textList (.arr vs)) = (checkItems 0 vs).flatMap failures := by
        rw [check, failures_map, failures_collect]
      exact ⟨_, hcheck ▸ mem_failures_checkItems.mpr ⟨i, w, here, wrong, rfl⟩, rfl⟩

/-- Two faults of a value are at items, the first at the earlier one. -/
theorem pairwise_check (t : FieldType) (v : Json) :
    (failures (t.check v)).Pairwise fun x y =>
      ∃ i j, i < j ∧ x.place = [.index i] ∧ y.place = [.index j] := by
  obtain ⟨cause, hcheck, -⟩ | ⟨vs, -, -, hcheck⟩ | ⟨hcheck, -⟩ := failures_check (t := t) (v := v)
  · rw [hcheck]
    exact List.pairwise_singleton ..
  · rw [hcheck]
    exact pairwise_checkItems 0 vs
  · rw [hcheck]
    exact .nil

end FieldType

/-! ## Fields -/

namespace Field

theorem check_missing (required : f.isRequired = true) (absent : fields.lookup f.name = none) :
    f.check fields = .error [⟨.missing, [.name f.name], .obj fields⟩] := by
  simp only [check, absent, required, if_true]

theorem check_absent (optional : f.isRequired = false) (absent : fields.lookup f.name = none) :
    f.check fields = .ok (f.name, .null) := by
  simp [check, absent, optional]

theorem check_null (optional : f.isRequired = false) (given : fields.lookup f.name = some .null) :
    f.check fields = .ok (f.name, .null) := by
  have null : (Json.null == .null) = true := rfl
  simp [check, given, optional, null]

/-- A value other than an optional null is checked by the type. -/
theorem check_given (given : fields.lookup f.name = some v)
    (notNull : ¬(f.isRequired = false ∧ v = .null)) :
    f.check fields = ((f.type.check v).map fun w => (f.name, w)).mapError
      (List.map (Fault.inside (.name f.name))) := by
  have other : ¬(v == .null && !f.isRequired) = true := by
    rw [Bool.and_eq_true, Bool.not_eq_true']
    exact fun ⟨null, optional⟩ => notNull ⟨optional, (Json.same_iff v .null).mp null⟩
  cases found : f.type.check v with
  | ok w => simp only [check, given, if_neg other, found, Except.map, Except.mapError]
  | error es => simp only [check, given, if_neg other, found, Except.map, Except.mapError]

theorem admits_iff (notNull : ¬(f.isRequired = false ∧ v = .null)) :
    f.Admits v ↔ f.type.Admits v := or_iff_right notNull

/-- A field lets through what fits it. -/
theorem check_ok_iff : (∃ w, f.check fields = .ok w) ↔
    (f.isRequired = true → ∃ w, fields.lookup f.name = some w) ∧
      ∀ w, fields.lookup f.name = some w → f.Admits w := by
  cases given : fields.lookup f.name with
  | none =>
    cases required : f.isRequired with
    | true => simp [check_missing required given]
    | false => simp [check_absent required given]
  | some v =>
    by_cases null : f.isRequired = false ∧ v = .null
    · obtain ⟨optional, rfl⟩ := null
      simp [check_null optional given, Admits, optional]
    · have outcome := FieldType.check_ok_iff (t := f.type) (v := v)
      rw [← admits_iff null] at outcome
      rw [check_given given null]
      cases found : f.type.check v with
      | ok w => simpa [found] using outcome
      | error es => simpa [found] using outcome

theorem failures_of_given (given : fields.lookup f.name = some v)
    (notNull : ¬(f.isRequired = false ∧ v = .null)) :
    failures (f.check fields) =
      (failures (f.type.check v)).map (Fault.inside (.name f.name)) := by
  rw [check_given given notNull]
  cases f.type.check v with
  | ok w => rfl
  | error es => rfl

/-- What is found wrong with a field are its wrong places. -/
theorem mem_spots_check {spot : List Place × Json} :
    spot ∈ (failures (f.check fields)).map Fault.spot ↔ f.Offends fields spot := by
  cases given : fields.lookup f.name with
  | none =>
    cases required : f.isRequired with
    | true =>
      rw [check_missing required given]
      constructor
      · intro h
        rw [List.mem_singleton.mp h]
        exact .missing required given
      · rintro (_ | ⟨given'⟩)
        · exact List.mem_singleton_self _
        · rw [given] at given'
          cases given'
    | false =>
      rw [check_absent required given]
      constructor
      · intro h
        cases h
      · rintro (⟨required'⟩ | ⟨given'⟩)
        · rw [required] at required'
          cases required'
        · rw [given] at given'
          cases given'
  | some v =>
    by_cases null : f.isRequired = false ∧ v = .null
    · rw [null.2] at given
      rw [check_null null.1 given]
      constructor
      · intro h
        cases h
      · rintro (⟨-, absent⟩ | ⟨given', wrong⟩)
        · rw [given] at absent
          cases absent
        · rw [given] at given'
          exact absurd (.inl ⟨null.1, (Option.some.inj given').symm⟩) wrong
    · rw [failures_of_given given null, List.map_map, List.mem_map]
      constructor
      · rintro ⟨x, hx, rfl⟩
        have offends : f.type.Offends v x.spot :=
          FieldType.mem_spots_check.mp (List.mem_map_of_mem hx)
        refine .wrong given ?_ offends
        rw [admits_iff null, ← FieldType.check_ok_iff]
        rintro ⟨w, hw⟩
        rw [hw] at hx
        cases hx
      · rintro (⟨-, absent⟩ | ⟨given', -, offends⟩)
        · rw [given] at absent
          cases absent
        · rw [given] at given'
          obtain rfl := Option.some.inj given'
          obtain ⟨x, hx, hspot⟩ := List.mem_map.mp (FieldType.mem_spots_check.mpr offends)
          obtain ⟨rfl, rfl⟩ := Prod.mk.inj hspot
          exact ⟨x, hx, rfl⟩

/-- The faults of a field are at the field, and of two the first is at an earlier item. -/
theorem pairwise_check (f : Field) (fields : List (String × Json)) :
    (failures (f.check fields)).Pairwise fun x y => ∃ i j, i < j ∧
      x.place = [.name f.name, .index i] ∧ y.place = [.name f.name, .index j] := by
  cases given : fields.lookup f.name with
  | none =>
    cases required : f.isRequired with
    | true =>
      rw [check_missing required given]
      exact List.pairwise_singleton ..
    | false =>
      rw [check_absent required given]
      exact .nil
  | some v =>
    by_cases null : f.isRequired = false ∧ v = .null
    · rw [null.2] at given
      rw [check_null null.1 given]
      exact .nil
    · rw [failures_of_given given null, List.pairwise_map]
      refine (FieldType.pairwise_check f.type v).imp fun ⟨i, j, earlier, hx, hy⟩ => ?_
      exact ⟨i, j, earlier, by rw [Fault.inside, hx], by rw [Fault.inside, hy]⟩

theorem place_of_mem_check {x : Fault} (hx : x ∈ failures (f.check fields)) :
    ∃ place, x.place = .name f.name :: place := by
  have offends : f.Offends fields x.spot := mem_spots_check.mp (List.mem_map_of_mem hx)
  generalize hspot : x.spot = spot at offends
  cases offends with
  | missing => exact ⟨[], congrArg Prod.fst hspot⟩
  | wrong => exact ⟨_, congrArg Prod.fst hspot⟩

end Field

/-! ## Forms -/

namespace Form

/-- The faults of an object are those of its fields. -/
theorem checkFields_eq_error {faults : List Fault} (h : form.checkFields fields = .error faults) :
    faults = form.fields.flatMap fun f => failures (f.check fields) := by
  have collected := failures_collect (form.fields.map (·.check fields))
  rw [List.flatMap_map] at collected
  exact (congrArg failures h).symm.trans collected

theorem checkFields_ok_iff :
    (∃ fs, form.checkFields fields = .ok fs) ↔ form.Fits (.obj fields) := by
  rw [checkFields, exists_collect_ok_iff, List.forall_mem_map]
  simp only [Field.check_ok_iff]
  constructor
  · exact fun h => ⟨fields, rfl, h⟩
  · rintro ⟨_, same, h⟩
    obtain rfl := Json.obj.inj same
    exact h

/-- Of fields with different names none precedes itself, nor does a place. -/
theorem Precedes.ne (nodup : (form.fields.map (·.name)).Nodup) {place place' : List Place}
    (h : form.Precedes place place') : place ≠ place' := by
  cases h with
  | field earlier =>
    intro same
    have names := (earlier.map (·.name)).nodup nodup
    have same := Place.name.inj (List.cons.inj same).1
    simp [same] at names
  | item earlier => simp [Nat.ne_of_lt earlier]

/-- All faults of an object are reported. -/
theorem report_of_error (nodup : (form.fields.map (·.name)).Nodup) {faults : List Fault}
    (h : form.checkFields fields = .error faults) : form.Report fields faults := by
  have all := checkFields_eq_error h
  have ordered : (faults.map (·.place)).Pairwise form.Precedes := by
    rw [all, List.pairwise_map, List.pairwise_flatMap]
    constructor
    · intro f hf
      refine (Field.pairwise_check f fields).imp fun ⟨i, j, earlier, hx, hy⟩ => ?_
      rw [hx, hy]
      exact .item earlier
    · refine List.pairwise_iff_forall_sublist.mpr fun earlier x hx y hy => ?_
      obtain ⟨place, hx⟩ := Field.place_of_mem_check hx
      obtain ⟨place', hy⟩ := Field.place_of_mem_check hy
      rw [hx, hy]
      exact .field earlier
  refine ⟨fun spot => ?_, ordered.imp (Precedes.ne nodup), ordered⟩
  rw [all, List.map_flatMap, List.mem_flatMap]
  exact exists_congr fun f => and_congr_right fun _ => Field.mem_spots_check

/-- The submitted forms that take over fields, with those. -/
def derived : List (Form × List Field) :=
  [(commentCreate, commentFields), (commentUpdate, commentFields), (tagCreate, tagFields),
    (postCreate, postFields), (userCreate, userFields)]

theorem distinct_fields : ∀ form ∈ all, (form.fields.map (·.name)).Nodup := by decide

theorem derived_first : ∀ d ∈ derived, d.2 <+: d.1.fields := by decide

/-- A field that is taken over precedes all those that are not. -/
theorem sublist_of_derived {base : List Field} (h : (form, base) ∈ derived) (hf : f ∈ base)
    (hg : g ∈ form.fields) (own : g ∉ base) : [f, g].Sublist form.fields := by
  obtain ⟨rest, hfields⟩ := derived_first (form, base) h
  rw [← hfields] at hg ⊢
  have later : g ∈ rest := (List.mem_append.mp hg).resolve_left own
  exact (List.singleton_sublist.mpr hf).append (List.singleton_sublist.mpr later)

theorem check_ok_iff : (∃ fs, form.check v = .ok fs) ↔ form.Fits v := by
  cases v with
  | obj fields => exact checkFields_ok_iff
  | _ => simp [check, checkValue, Fits]

/-- A post with a number for a title, without a body and with two wrong tags among three. -/
def illFilled : List (String × Json) :=
  [("tag_ids", .arr [.null, .str "tag-1", .int 2]), ("title", .int 1)]

end Form

end Weblog
