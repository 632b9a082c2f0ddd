/-
  Which values have a text: those whose arrays and objects stand no deeper in each other than there
  is room for and whose whole numbers have few digits.

  Both directions follow the value; the room shrinks by one with every array or object.
-/
import Weblog.Proofs.Chain
import Weblog.Proofs.Json.RoundTrip

namespace Weblog.Json

mutual

/-- A value that is read back from its text has one, if there is room for it. -/
theorem checkWrite_of_exact : (v : Json) → v.Exact → ∀ room, depth v ≤ room →
    checkWrite room v = .ok ()
  | .null, _, _, _ => rfl
  | .bool _, _, _, _ => rfl
  | .int _, few, _, _ => if_neg (Nat.not_lt.mpr few)
  | .str _, _, _, _ => rfl
  | .arr vs, exact, room, deep => by
    obtain ⟨room, rfl, inner⟩ := exists_fuel (n := itemsDepth vs) room deep
    exact checkItems_of_exact vs exact room inner
  | .obj fs, exact, room, deep => by
    obtain ⟨room, rfl, inner⟩ := exists_fuel (n := fieldsDepth fs) room deep
    exact checkFields_of_exact fs exact.2 room inner
  | .float _, exact, _, _ => exact.elim

theorem checkItems_of_exact : (vs : List Json) → ItemsExact vs → ∀ room, itemsDepth vs ≤ room →
    checkItems room vs = .ok ()
  | [], _, _, _ => rfl
  | v :: vs, ⟨first, others⟩, room, deep => by
    rw [itemsDepth] at deep
    rw [checkItems, checkWrite_of_exact v first room (by omega), bind_ok,
      checkItems_of_exact vs others room (by omega)]

theorem checkFields_of_exact : (fs : List (String × Json)) → FieldsExact fs → ∀ room,
    fieldsDepth fs ≤ room → checkFields room fs = .ok ()
  | [], _, _, _ => rfl
  | (k, v) :: fs, ⟨first, others⟩, room, deep => by
    rw [fieldsDepth] at deep
    rw [checkFields, checkWrite_of_exact v first room (by omega), bind_ok,
      checkFields_of_exact fs others room (by omega)]

end

mutual

/-- A value that has a text stands no deeper than there is room for. -/
theorem depth_le_of_checkWrite : (v : Json) → ∀ room, checkWrite room v = .ok () → depth v ≤ room
  | .null, _, _ => Nat.zero_le _
  | .bool _, _, _ => Nat.zero_le _
  | .int _, _, _ => Nat.zero_le _
  | .float _, _, _ => Nat.zero_le _
  | .str _, _, _ => Nat.zero_le _
  | .arr _, 0, h => by cases h
  | .arr vs, room + 1, h => Nat.succ_le_succ (itemsDepth_le_of_checkItems vs room h)
  | .obj _, 0, h => by cases h
  | .obj fs, room + 1, h => Nat.succ_le_succ (fieldsDepth_le_of_checkFields fs room h)

theorem itemsDepth_le_of_checkItems : (vs : List Json) → ∀ room, checkItems room vs = .ok () →
    itemsDepth vs ≤ room
  | [], _, _ => Nat.zero_le _
  | v :: vs, room, h => by
    obtain ⟨_, first, others⟩ := bind_eq_ok.mp h
    exact Nat.max_le.mpr ⟨depth_le_of_checkWrite v room first,
      itemsDepth_le_of_checkItems vs room others⟩

theorem fieldsDepth_le_of_checkFields : (fs : List (String × Json)) → ∀ room,
    checkFields room fs = .ok () → fieldsDepth fs ≤ room
  | [], _, _ => Nat.zero_le _
  | (k, v) :: fs, room, h => by
    obtain ⟨_, first, others⟩ := bind_eq_ok.mp h
    exact Nat.max_le.mpr ⟨depth_le_of_checkWrite v room first,
      fieldsDepth_le_of_checkFields fs room others⟩

end

/-! ## Fields put into an object -/

section Put

variable {fields : List (String × Json)} {k : String} {v : Json}

theorem mem_map_put {l : String} :
    l ∈ (put fields k v).map (·.1) ↔ l = k ∨ l ∈ fields.map (·.1) := by
  induction fields with
  | nil => simp [put]
  | cons p fields ih =>
    obtain ⟨l', w⟩ := p
    unfold put
    split
    · rename_i same
      simp [same]
    · rw [List.map_cons, List.mem_cons, ih, List.map_cons, List.mem_cons]
      exact or_left_comm

theorem nodup_put (h : (fields.map (·.1)).Nodup) : ((put fields k v).map (·.1)).Nodup := by
  induction fields with
  | nil => exact List.nodup_singleton k
  | cons p fields ih =>
    obtain ⟨l, w⟩ := p
    rw [List.map_cons, List.nodup_cons] at h
    unfold put
    split
    · exact List.nodup_cons.mpr h
    · rename_i other
      refine List.nodup_cons.mpr ⟨fun mem => ?_, ih h.2⟩
      rcases mem_map_put.mp mem with same | mem
      · exact other same
      · exact h.1 mem

theorem fieldsExact_put (h : FieldsExact fields) (hv : v.Exact) :
    FieldsExact (put fields k v) := by
  induction fields with
  | nil => exact ⟨hv, trivial⟩
  | cons p fields ih =>
    obtain ⟨l, w⟩ := p
    unfold put
    split
    · exact ⟨hv, h.2⟩
    · exact ⟨h.1, ih h.2⟩

theorem fieldsDepth_put_le : fieldsDepth (put fields k v) ≤ max (fieldsDepth fields) (depth v) := by
  induction fields with
  | nil => simp [put, fieldsDepth]
  | cons p fields ih =>
    obtain ⟨l, w⟩ := p
    unfold put
    split
    · simp only [fieldsDepth]
      omega
    · simp only [fieldsDepth]
      omega

/-- In an object with distinct names only the value of a name that is there is replaced. -/
theorem put_eq_map (names : (fields.map (·.1)).Nodup) (held : k ∈ fields.map (·.1)) :
    put fields k v = fields.map fun p => if p.1 = k then (p.1, v) else p := by
  induction fields with
  | nil => cases held
  | cons p fields ih =>
    obtain ⟨l, w⟩ := p
    rw [List.map_cons, List.nodup_cons] at names
    by_cases same : l = k
    · subst same
      have others : fields.map (fun p => if p.1 = l then (p.1, v) else p) = fields := by
        refine (List.map_congr_left fun p hp => if_neg fun same => ?_).trans (List.map_id fields)
        exact names.1 (List.mem_map.mpr ⟨p, hp, same⟩)
      rw [put, if_pos rfl, List.map_cons, if_pos rfl, others]
    · have later : k ∈ fields.map (·.1) := (List.mem_cons.mp held).resolve_left (Ne.symm same)
      rw [put, if_neg same, List.map_cons, if_neg same, ih names.2 later]

end Put

end Weblog.Json
