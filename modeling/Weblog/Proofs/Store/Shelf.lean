/-
  Tables whose rows are numbered: what requests can do to them, and what stays of a row.

  A shelf is a table with the number of identifiers that were given out for it. A request revises
  a shelf in one of four ways (`Revises`). Two things follow from that alone. The identifiers stay
  distinct and below the count (`Tidy`), so that the next one is new. And a row keeps its identity
  as long as it is there: after any revisions the identities are some of the former ones in their
  order, followed by those of new rows under numbers that were not given out before (`Descends`).
-/
import Mathlib.Data.List.Nodup
import Weblog.Store.Constraint

namespace Weblog

/-- The only row that fits is the one that is found. -/
theorem find?_of_only {α : Type} {p : α → Bool} {rows : List α} {a : α} (ha : a ∈ rows)
    (fits : p a = true) (only : ∀ b ∈ rows, p b = true → b = a) : rows.find? p = some a := by
  have found : (rows.find? p).isSome := List.find?_isSome.mpr ⟨a, ha, fits⟩
  obtain ⟨b, hb⟩ := Option.isSome_iff_exists.mp found
  rw [hb, only b (List.mem_of_find?_eq_some hb) (List.find?_some hb)]

/-! ## Identifiers -/

theorem Kind.identifier_injective {k : Kind} {m n : Nat} (h : k.identifier m = k.identifier n) :
    m = n := by
  unfold Kind.identifier at h
  have digits : Number.digits m = Number.digits n := by
    have := congrArg String.toList h
    simpa using this
  rw [← Number.ofDigits_digits m, digits, Number.ofDigits_digits]

/-- What stays of a row: its identifier, to whom it belongs, and the time of its creation. -/
structure Identity where
  id : String
  owner : String
  createdAt : Instant

def PostRow.identity (p : PostRow) : Identity := ⟨p.id, p.userId, p.createdAt⟩

def CommentRow.identity (c : CommentRow) : Identity := ⟨c.id, c.userId, c.createdAt⟩

def TagRow.identity (g : TagRow) : Identity := ⟨g.id, g.userId, g.createdAt⟩

/-- A user belongs to the name that he registered. -/
def UserRow.identity (u : UserRow) : Identity := ⟨u.id, u.username, u.createdAt⟩

/-- The rows of a table, and how many identifiers were given out for them. -/
structure Shelf (α : Type) where
  used : Nat
  rows : List α

namespace Shelf

variable {α : Type} (identity : α → Identity) (k : Kind)

/-- What one request does to a shelf: nothing, or it puts in a row under the next identifier,
replaces a row by one of the same identity, or takes out what has an identifier. -/
inductive Revises : Shelf α → Shelf α → Prop
  | same {l : Shelf α} : Revises l l
  | add {n : Nat} {rows : List α} (a : α) (numbered : (identity a).id = k.identifier (n + 1)) :
      Revises ⟨n, rows⟩ ⟨n + 1, rows ++ [a]⟩
  | put {n : Nat} {rows : List α} (a b : α) (mem : b ∈ rows) (same : identity a = identity b) :
      Revises ⟨n, rows⟩ ⟨n, rows.map fun v => if (identity v).id = (identity a).id then a else v⟩
  | drop {n : Nat} {rows : List α} (id : String) :
      Revises ⟨n, rows⟩ ⟨n, rows.filter fun v => (identity v).id ≠ id⟩

/-- The identifiers are distinct and were all given out. -/
structure Tidy (l : Shelf α) : Prop where
  distinct : (l.rows.map fun v => (identity v).id).Nodup
  numbered : ∀ v ∈ l.rows, ∃ m ≤ l.used, (identity v).id = k.identifier m

/-- What is left of a shelf stands in its order, and what was added has new identifiers. -/
structure Descends (l l' : Shelf α) : Prop where
  used_le : l.used ≤ l'.used
  parts : ∃ kept added, l'.rows.map identity = kept ++ added ∧
    kept.Sublist (l.rows.map identity) ∧
    ∀ i ∈ added, ∃ m, l.used < m ∧ m ≤ l'.used ∧ i.id = k.identifier m

/-- A row that is there before and after is of one identity, and the rest is in order. -/
structure Persists (l l' : Shelf α) : Prop extends Descends identity k l l' where
  same : ∀ a ∈ l.rows, ∀ b ∈ l'.rows, (identity b).id = (identity a).id →
    identity b = identity a

variable {identity k} {l l' l'' : Shelf α}

/-! ## Distinct identifiers -/

theorem Tidy.eq_of_id (h : Tidy identity k l) {a b : α} (ha : a ∈ l.rows) (hb : b ∈ l.rows)
    (hid : (identity a).id = (identity b).id) : a = b :=
  List.inj_on_of_nodup_map h.distinct ha hb hid

/-- The next identifier is new. -/
theorem Tidy.next_notMem (h : Tidy identity k l) :
    k.identifier (l.used + 1) ∉ l.rows.map fun v => (identity v).id := by
  intro hmem
  obtain ⟨v, hv, hid⟩ := List.mem_map.mp hmem
  obtain ⟨m, hm, hnum⟩ := h.numbered v hv
  have : m = l.used + 1 := Kind.identifier_injective (hnum.symm.trans hid)
  omega

/-- No row is found under the next identifier. -/
theorem Tidy.find?_next (h : Tidy identity k l) :
    l.rows.find? (fun v => (identity v).id = k.identifier (l.used + 1)) = none := by
  refine List.find?_eq_none.mpr fun v hv hid => h.next_notMem ?_
  exact List.mem_map.mpr ⟨v, hv, of_decide_eq_true hid⟩

/-- A row is found under its identifier. -/
theorem Tidy.find?_of_mem (h : Tidy identity k l) {a : α} (ha : a ∈ l.rows) :
    l.rows.find? (fun v => (identity v).id = (identity a).id) = some a :=
  find?_of_only ha (decide_eq_true rfl) fun _ hb same => h.eq_of_id hb ha (of_decide_eq_true same)

/-- A replaced row leaves all identities as they are. -/
theorem Tidy.map_identity_put {n : Nat} {rows : List α} (h : Tidy identity k ⟨n, rows⟩) {a b : α}
    (mem : b ∈ rows) (same : identity a = identity b) :
    (rows.map fun v => if (identity v).id = (identity a).id then a else v).map identity =
      rows.map identity := by
  rw [List.map_map]
  refine List.map_congr_left fun v hv => ?_
  simp only [Function.comp_apply]
  split
  · rename_i hid
    rw [same, h.eq_of_id hv mem (hid.trans (congrArg Identity.id same))]
  · rfl

theorem Tidy.revises (h : Tidy identity k l) (r : Revises identity k l l') :
    Tidy identity k l' := by
  cases r with
  | same => exact h
  | @add n rows a numbered =>
    refine ⟨?_, fun v hv => ?_⟩
    · rw [List.map_append, List.map_singleton, ← List.concat_eq_append, numbered]
      exact h.distinct.concat h.next_notMem
    · rcases List.mem_append.mp hv with hv | hv
      · obtain ⟨m, hm, hid⟩ := h.numbered v hv
        exact ⟨m, Nat.le_succ_of_le hm, hid⟩
      · rw [List.mem_singleton.mp hv]
        exact ⟨n + 1, Nat.le_refl _, numbered⟩
  | put a b mem same =>
    refine ⟨?_, fun v hv => ?_⟩
    · have := congrArg (List.map Identity.id) (h.map_identity_put mem same)
      simp only [List.map_map] at this ⊢
      exact this ▸ h.distinct
    · obtain ⟨w, hw, rfl⟩ := List.mem_map.mp hv
      split
      · rw [same]
        exact h.numbered b mem
      · exact h.numbered w hw
  | drop id =>
    refine ⟨h.distinct.sublist (List.filter_sublist.map _), fun v hv => ?_⟩
    exact h.numbered v (List.mem_of_mem_filter hv)

theorem Revises.used_le (r : Revises identity k l l') : l.used ≤ l'.used := by
  cases r with
  | add => exact Nat.le_succ _
  | _ => exact Nat.le_refl _

/-- An identifier that was given out does not come back. -/
theorem Revises.absent (r : Revises identity k l l') {m : Nat} (given : m ≤ l.used)
    (gone : k.identifier m ∉ l.rows.map fun v => (identity v).id) :
    k.identifier m ∉ l'.rows.map fun v => (identity v).id := by
  intro there
  cases r with
  | same => exact gone there
  | @add n rows a numbered =>
    rw [List.map_append, List.mem_append, List.map_singleton, List.mem_singleton, numbered] at there
    refine there.elim gone fun same => ?_
    obtain rfl : m = n + 1 := Kind.identifier_injective same
    exact Nat.not_succ_le_self n given
  | @put n rows a b mem same =>
    obtain ⟨v, hv, hid⟩ := List.mem_map.mp there
    obtain ⟨w, hw, rfl⟩ := List.mem_map.mp hv
    split at hid
    · exact gone (List.mem_map.mpr ⟨b, mem, same ▸ hid⟩)
    · exact gone (List.mem_map.mpr ⟨w, hw, hid⟩)
  | drop id =>
    obtain ⟨v, hv, hid⟩ := List.mem_map.mp there
    exact gone (List.mem_map.mpr ⟨v, List.mem_of_mem_filter hv, hid⟩)

/-! ## Kept identities -/

theorem Descends.refl (l : Shelf α) : Descends identity k l l :=
  ⟨Nat.le_refl _, l.rows.map identity, [], by simp, List.Sublist.refl _, by simp⟩

theorem Descends.revises (h : Descends identity k l l') (tidy : Tidy identity k l')
    (r : Revises identity k l' l'') : Descends identity k l l'' := by
  obtain ⟨hle, kept, added, hparts, hkept, hadded⟩ := h
  cases r with
  | same => exact ⟨hle, kept, added, hparts, hkept, hadded⟩
  | @add n rows a numbered =>
    refine ⟨Nat.le_succ_of_le hle, kept, added ++ [identity a], ?_, hkept, fun i hi => ?_⟩
    · rw [List.map_append, hparts, List.append_assoc, List.map_singleton]
    · rcases List.mem_append.mp hi with hi | hi
      · obtain ⟨m, hlt, hm, hid⟩ := hadded i hi
        exact ⟨m, hlt, Nat.le_succ_of_le hm, hid⟩
      · rw [List.mem_singleton.mp hi]
        exact ⟨n + 1, Nat.lt_succ_of_le hle, Nat.le_refl _, numbered⟩
  | put a b mem same =>
    exact ⟨hle, kept, added, (tidy.map_identity_put mem same).trans hparts, hkept, hadded⟩
  | @drop n rows id =>
    have filtered : (rows.filter fun v => (identity v).id ≠ id).map identity =
        kept.filter (·.id ≠ id) ++ added.filter (·.id ≠ id) := by
      rw [← List.filter_append, ← hparts, List.filter_map]
      rfl
    refine ⟨hle, _, _, filtered, List.filter_sublist.trans hkept, fun i hi => ?_⟩
    exact hadded i (List.mem_of_mem_filter hi)

theorem Descends.persists (h : Descends identity k l l') (tidy : Tidy identity k l) :
    Persists identity k l l' := by
  refine ⟨h, fun a ha b hb hid => ?_⟩
  obtain ⟨-, kept, added, hparts, hkept, hadded⟩ := h
  have hmem : identity b ∈ kept ++ added := hparts ▸ List.mem_map_of_mem hb
  rcases List.mem_append.mp hmem with hmem | hmem
  · obtain ⟨c, hc, hcb⟩ := List.mem_map.mp (hkept.subset hmem)
    rw [← hcb, tidy.eq_of_id hc ha ((congrArg Identity.id hcb).trans hid)]
  · obtain ⟨m, hlt, -, hm⟩ := hadded _ hmem
    obtain ⟨m', hle, hm'⟩ := tidy.numbered a ha
    have : m' = m := Kind.identifier_injective (hm'.symm.trans (hid.symm.trans hm))
    omega

end Shelf

end Weblog
