/-
  Required columns in the tables: a row is filled if none of them is null or blank.

  A row is made up of cells, and what is stored of a cell is not blank if the cell is not, with
  exceptions: nothing is stored of a time or of a hash in a column of texts, and nothing of the
  floating-point value that is no number (`IsPlain`). A list or an object cannot be bound at all.
-/
import Weblog.Proofs.Chain
import Weblog.Proofs.Text.Small
import Weblog.Store.Cells

namespace Weblog

open Number (Binary64 Decimal digits)

/-! ## What is stored of a cell -/

/-- Cells of which a column of texts stores the text, if they can be bound and are not null. -/
def Cell.IsPlain : Cell → Prop
  | .null | .text _ | .flag _ => True
  | .other (.int _) | .other (.arr _) | .other (.obj _) => True
  | .other (.float x) => x ≠ .nan
  | _ => False

theorem Text.isBlank_ofList {cs : List Char} {c : Char} (mem : c ∈ cs)
    (visible : isBlankChar c = false) : isBlank (String.ofList cs) = false := by
  refine Bool.eq_false_iff.mpr fun blank => ?_
  have h := isBlank_iff.mp blank c (by rw [String.toList_ofList]; exact mem)
  rw [visible] at h
  cases h

theorem Number.exists_visible_digit (n : Nat) :
    ∃ c ∈ digits n, Text.isBlankChar c = false := by
  have small : Text.isSmall (digitChar n) = true :=
    Bool.or_eq_true_iff.mpr (.inr (isDigit_digitChar n))
  refine ⟨digitChar n, ?_, Text.isBlankChar_of_isSmall small⟩
  rw [digits]
  split
  · exact List.mem_singleton_self _
  · exact List.mem_concat_self

theorem Number.exists_visible_text (n : Int) : ∃ c ∈ text n, Text.isBlankChar c = false := by
  cases n with
  | ofNat n => exact exists_visible_digit n
  | negSucc n =>
    obtain ⟨c, hc, visible⟩ := exists_visible_digit (n + 1)
    exact ⟨c, List.mem_cons_of_mem _ hc, visible⟩

/-- A written decimal has a point or an exponent. -/
theorem Number.Binary64.exists_visible_write (style : DecimalStyle) (d : Decimal) :
    ∃ c ∈ Decimal.write style d, Text.isBlankChar c = false := by
  have point : Text.isBlankChar '.' = false := by decide
  have exponent : Text.isBlankChar 'e' = false := by decide
  unfold Decimal.write
  split
  · split
    · exact ⟨'.', List.mem_cons_of_mem _ List.mem_cons_self, point⟩
    · exact ⟨'.', List.mem_append_right _ List.mem_cons_self, point⟩
  · exact ⟨'e', List.mem_append_right _ List.mem_cons_self, exponent⟩

theorem Number.Binary64.storedText_of_ne_nan {x : Binary64} (h : x ≠ .nan) :
    ∃ s, x.storedText = some s ∧ Text.isBlank s = false := by
  cases x with
  | nan => exact absurd rfl h
  | infinite negative => cases negative <;> exact ⟨_, rfl, by decide⟩
  | finite negative m e =>
    rw [storedText]
    split
    · exact ⟨_, rfl, by decide⟩
    · obtain ⟨c, hc, visible⟩ := exists_visible_write storedStyle (nearest m e 15)
      refine ⟨_, rfl, ?_⟩
      cases negative with
      | false => exact Text.isBlank_ofList hc visible
      | true => exact Text.isBlank_ofList (List.mem_cons_of_mem _ hc) visible

/-- What is stored of a cell that is not blank is not blank. -/
theorem Cell.text?_of_plain {v : Cell} (plain : v.IsPlain) (bound : v.bindFault? = none)
    (filled : v.isBlank = false) : ∃ s, v.text? = some s ∧ Text.isBlank s = false := by
  cases v with
  | null => cases filled
  | text s => exact ⟨s, rfl, filled⟩
  | time m => exact plain.elim
  | flag b => cases b <;> exact ⟨_, rfl, by decide⟩
  | hash h => exact plain.elim
  | other v =>
    cases v with
    | int n =>
      obtain ⟨c, hc, visible⟩ := Number.exists_visible_text n
      exact ⟨_, rfl, Text.isBlank_ofList hc visible⟩
    | float x => exact Number.Binary64.storedText_of_ne_nan plain
    | arr vs => cases bound
    | obj fs => cases bound
    | _ => exact plain.elim

/-! ## Rows -/

/-- No required column of a row is null or blank. -/
def Row.IsFilled (row : Row) : Prop := ∀ c ∈ row.kind.required, (row.cell c).isBlank = false

/-- The required columns of a row hold texts. -/
theorem Row.exists_text (row : Row) : ∀ c ∈ row.kind.required, ∃ o, row.cell c = .ofText? o := by
  intro c hc
  cases row with
  | user u => cases hc
  | post p =>
    rcases List.mem_cons.mp hc with rfl | hc
    · exact ⟨p.title, rfl⟩
    · obtain rfl := List.mem_singleton.mp hc
      exact ⟨p.body, rfl⟩
  | comment d =>
    obtain rfl := List.mem_singleton.mp hc
    exact ⟨d.body, rfl⟩
  | tag g =>
    obtain rfl := List.mem_singleton.mp hc
    exact ⟨some g.name, rfl⟩

theorem Row.isPlain_cell (row : Row) : ∀ c ∈ row.kind.required, (row.cell c).IsPlain := by
  intro c hc
  obtain ⟨o, ho⟩ := row.exists_text c hc
  rw [ho]
  cases o <;> trivial

theorem Row.need_eq_ok {α : Type} {k : Kind} {c : Column} {o : Option α} {a : α} :
    need k c o = .ok a ↔ o = some a := by
  cases o with
  | none => exact ⟨fun h => (by cases h), fun h => (by cases h)⟩
  | some b => exact ⟨fun h => congrArg some (Except.ok.inj h), fun h => congrArg Except.ok (Option.some.inj h)⟩

/-- A row that is made up of cells holds the texts of its required cells. -/
theorem Row.cell_of_ofCells {k : Kind} {f : Column → Cell} {row : Row} (h : ofCells k f = .ok row) :
    row.kind = k ∧ ∀ c ∈ k.required, row.cell c = .ofText? (f c).text? := by
  cases k with
  | user =>
    simp only [ofCells, bind_eq_ok] at h
    obtain ⟨_, -, _, -, _, -, _, -, _, -, _, -, h⟩ := h
    obtain rfl := Except.ok.inj h
    exact ⟨rfl, fun c hc => by cases hc⟩
  | post =>
    simp only [ofCells, bind_eq_ok] at h
    obtain ⟨_, -, _, -, _, -, _, -, h⟩ := h
    obtain rfl := Except.ok.inj h
    refine ⟨rfl, fun c hc => ?_⟩
    rcases List.mem_cons.mp hc with rfl | hc
    · rfl
    · obtain rfl := List.mem_singleton.mp hc
      rfl
  | comment =>
    simp only [ofCells, bind_eq_ok] at h
    obtain ⟨_, -, _, -, _, -, _, -, _, -, h⟩ := h
    obtain rfl := Except.ok.inj h
    refine ⟨rfl, fun c hc => ?_⟩
    obtain rfl := List.mem_singleton.mp hc
    rfl
  | tag =>
    simp only [ofCells, bind_eq_ok, need_eq_ok] at h
    obtain ⟨_, -, name, hname, _, -, _, -, _, -, h⟩ := h
    obtain rfl := Except.ok.inj h
    refine ⟨rfl, fun c hc => ?_⟩
    obtain rfl := List.mem_singleton.mp hc
    rw [hname]
    rfl

/-- A row is filled if the texts of its required cells are there and not blank. -/
theorem Row.isFilled_of_ofCells {k : Kind} {f : Column → Cell} {row : Row} (h : ofCells k f = .ok row)
    (texts : ∀ c ∈ k.required, ∃ s, (f c).text? = some s ∧ Text.isBlank s = false) :
    row.IsFilled := by
  obtain ⟨rfl, cells⟩ := cell_of_ofCells h
  intro c hc
  obtain ⟨s, text, visible⟩ := texts c hc
  rw [cells c hc, text]
  exact visible

/-- A filled row stays filled if what changes in its required columns is not blank. -/
theorem Row.isFilled_of_overlaid {row row' : Row} {cells : List (Column × Cell)}
    (h : row.overlaid cells = .ok row') (filled : row.IsFilled)
    (changes : ∀ c ∈ row.kind.required, ∀ v, cells.lookup c = some v →
      ∃ s, v.text? = some s ∧ Text.isBlank s = false) : row'.IsFilled := by
  refine isFilled_of_ofCells h fun c hc => ?_
  cases given : cells.lookup c with
  | some v => exact changes c hc v given
  | none =>
    obtain ⟨o, ho⟩ := row.exists_text c hc
    have visible := filled c hc
    rw [ho] at visible
    rw [Option.getD_none, ho]
    cases o with
    | none => cases visible
    | some s => exact ⟨s, rfl, visible⟩

/-! ## Tables -/

namespace Tables

variable {t t' : Tables} {k : Kind} {id : String} {row : Row}

/-- No required column of a stored row is null or blank. -/
def IsFilled (t : Tables) : Prop := ∀ k, ∀ row ∈ t.rows k, row.IsFilled

theorem isFilled_empty : empty.IsFilled := by
  intro k row hrow
  cases k <;> cases hrow

theorem mem_of_row? (h : t.row? k id = some row) : row ∈ t.rows k := by
  cases k with
  | user =>
    obtain ⟨u, hu, rfl⟩ := Option.map_eq_some_iff.mp h
    exact List.mem_map_of_mem (List.mem_of_find?_eq_some hu)
  | post =>
    obtain ⟨u, hu, rfl⟩ := Option.map_eq_some_iff.mp h
    exact List.mem_map_of_mem (List.mem_of_find?_eq_some hu)
  | comment =>
    obtain ⟨u, hu, rfl⟩ := Option.map_eq_some_iff.mp h
    exact List.mem_map_of_mem (List.mem_of_find?_eq_some hu)
  | tag =>
    obtain ⟨u, hu, rfl⟩ := Option.map_eq_some_iff.mp h
    exact List.mem_map_of_mem (List.mem_of_find?_eq_some hu)

theorem exists_mem_of_related {rel : Relation} (h : row ∈ t.related k id rel) :
    ∃ k', row ∈ t.rows k' := by
  unfold related at h
  split at h
  · obtain ⟨p, hp, rfl⟩ := List.mem_map.mp h
    exact ⟨.post, List.mem_map_of_mem ((List.mem_filter.mp hp).1)⟩
  · obtain ⟨c, hc, rfl⟩ := List.mem_map.mp h
    exact ⟨.comment, List.mem_map_of_mem ((List.mem_filter.mp hc).1)⟩
  · obtain ⟨c, hc, rfl⟩ := List.mem_map.mp h
    rw [commentsOf, List.mem_mergeSort] at hc
    exact ⟨.comment, List.mem_map_of_mem ((List.mem_filter.mp hc).1)⟩
  · obtain ⟨g, hg, rfl⟩ := List.mem_map.mp h
    exact ⟨.tag, List.mem_map_of_mem ((List.mem_filter.mp hg).1)⟩
  · obtain ⟨p, hp, rfl⟩ := List.mem_map.mp h
    exact ⟨.post, List.mem_map_of_mem ((List.mem_filter.mp hp).1)⟩
  · cases h

theorem kind_of_mem (h : row ∈ t.rows k) : row.kind = k := by
  cases k <;> (obtain ⟨_, -, rfl⟩ := List.mem_map.mp h; rfl)

/-- Tables whose rows were there before, but for one that is filled. -/
theorem IsFilled.of_mem (h : t.IsFilled) (hrow : row.IsFilled)
    (mem : ∀ k, ∀ row' ∈ t'.rows k, row' ∈ t.rows k ∨ row' = row) : t'.IsFilled := by
  intro k row' hrow'
  rcases mem k row' hrow' with hold | rfl
  · exact h k row' hold
  · exact hrow

/-- Tables whose rows were there before. -/
theorem IsFilled.of_subset (h : t.IsFilled) (users : t'.users ⊆ t.users) (posts : t'.posts ⊆ t.posts)
    (comments : t'.comments ⊆ t.comments) (tags : t'.tags ⊆ t.tags) : t'.IsFilled := by
  intro k row hrow
  cases k with
  | user => exact h .user row (List.map_subset _ users hrow)
  | post => exact h .post row (List.map_subset _ posts hrow)
  | comment => exact h .comment row (List.map_subset _ comments hrow)
  | tag => exact h .tag row (List.map_subset _ tags hrow)

/-- Tables in which only links and documents are others. -/
theorem IsFilled.of_same (h : t.IsFilled) (users : t'.users = t.users) (posts : t'.posts = t.posts)
    (comments : t'.comments = t.comments) (tags : t'.tags = t.tags) : t'.IsFilled :=
  h.of_subset (users ▸ List.Subset.refl _) (posts ▸ List.Subset.refl _)
    (comments ▸ List.Subset.refl _) (tags ▸ List.Subset.refl _)

theorem rows_putIn (t : Tables) (row : Row) (k : Kind) :
    (t.putIn row).rows k = t.rows k ++ if row.kind = k then [row] else [] := by
  cases row <;> cases k <;> simp [putIn, rows, addUser, addPostRow, addComment, addTag, Row.kind]

theorem IsFilled.putIn (h : t.IsFilled) (hrow : row.IsFilled) : (t.putIn row).IsFilled := by
  refine h.of_mem hrow fun k row' hrow' => ?_
  rw [rows_putIn] at hrow'
  rcases List.mem_append.mp hrow' with hold | hnew
  · exact .inl hold
  · split at hnew
    · exact .inr (List.mem_singleton.mp hnew)
    · cases hnew

/-- A member of a list in which some were replaced. -/
theorem mem_of_mem_put {α : Type} {rows : List α} {p : α → Prop} [DecidablePred p] {a b : α}
    (h : b ∈ rows.map fun v => if p v then a else v) : b ∈ rows ∨ b = a := by
  obtain ⟨v, hv, rfl⟩ := List.mem_map.mp h
  split
  · exact .inr rfl
  · exact .inl hv

theorem IsFilled.putRow (h : t.IsFilled) (key : String) (hrow : row.IsFilled) :
    (t.putRow key row).IsFilled := by
  refine h.of_mem hrow fun k row' hrow' => ?_
  cases row with
  | user u =>
    cases k with
    | user =>
      obtain ⟨v, hv, rfl⟩ := List.mem_map.mp hrow'
      exact (mem_of_mem_put hv).imp List.mem_map_of_mem (congrArg Row.user)
    | _ => exact .inl hrow'
  | post p =>
    cases k with
    | post =>
      obtain ⟨v, hv, rfl⟩ := List.mem_map.mp hrow'
      exact (mem_of_mem_put hv).imp List.mem_map_of_mem (congrArg Row.post)
    | _ => exact .inl hrow'
  | comment c =>
    cases k with
    | comment =>
      obtain ⟨v, hv, rfl⟩ := List.mem_map.mp hrow'
      exact (mem_of_mem_put hv).imp List.mem_map_of_mem (congrArg Row.comment)
    | _ => exact .inl hrow'
  | tag g =>
    cases k with
    | tag =>
      obtain ⟨v, hv, rfl⟩ := List.mem_map.mp hrow'
      exact (mem_of_mem_put hv).imp List.mem_map_of_mem (congrArg Row.tag)
    | _ => exact .inl hrow'

theorem IsFilled.dropRow (h : t.IsFilled) (k : Kind) (key : String) :
    (t.dropRow k key).IsFilled := by
  have same : ∀ {α : Type} (rows : List α), rows ⊆ rows := fun rows => List.Subset.refl rows
  cases k with
  | user => exact h.of_subset List.filter_sublist.subset (same _) (same _) (same _)
  | post => exact h.of_subset (same _) List.filter_sublist.subset (same _) (same _)
  | comment => exact h.of_subset (same _) (same _) List.filter_sublist.subset (same _)
  | tag => exact h.of_subset (same _) (same _) (same _) List.filter_sublist.subset

end Tables

/-! ## Changes of the store -/

namespace Store

variable {s s' : Store} {row : Row}

theorem isFilled_insertUnchecked (h : s.insertUnchecked row = .ok s') (filled : s.tables.IsFilled)
    (hrow : row.IsFilled) : s'.tables.IsFilled := by
  unfold insertUnchecked at h
  split at h
  · cases h
  · rw [← Except.ok.inj h]
    exact filled.putIn hrow

theorem isFilled_replace {key : String} (h : s.replace key row = .ok s') (filled : s.tables.IsFilled)
    (hrow : row.IsFilled) : s'.tables.IsFilled := by
  unfold replace at h
  split at h
  · cases h
  · obtain ⟨-, h⟩ := else_error_eq_ok.mp h
    rw [← Except.ok.inj h]
    exact filled.putRow key hrow

theorem isFilled_remove {k : Kind} {key : String} (h : s.remove k key = .ok s')
    (filled : s.tables.IsFilled) : s'.tables.IsFilled := by
  unfold remove at h
  split at h
  · rw [← Except.ok.inj h]
    exact filled.dropRow k key
  · cases k with
    | user =>
      obtain ⟨-, h⟩ := else_error_eq_ok.mp h
      rw [← Except.ok.inj h]
      exact filled.dropRow .user key
    | post =>
      rw [← Except.ok.inj h]
      have unlinked : (s.tables.unlinkPost key).IsFilled := filled.of_same rfl rfl rfl rfl
      exact unlinked.dropRow .post key
    | comment =>
      rw [← Except.ok.inj h]
      exact filled.dropRow .comment key
    | tag =>
      rw [← Except.ok.inj h]
      have unlinked : (s.tables.unlinkTag key).IsFilled := filled.of_same rfl rfl rfl rfl
      exact unlinked.dropRow .tag key

end Store

end Weblog
