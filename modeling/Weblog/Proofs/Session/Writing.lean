/-
  Carrying out the tasks of a flush keeps the tables filled.

  Rows come from two places: all columns of an entity without a row are put in, and the changed
  columns of one with a row are laid over it. Entities that the plan lets write hold nothing blank
  in a required column, and those without a row hold all of them.
-/
import Mathlib.Data.List.SplitBy
import Weblog.Proofs.Session.Planning
import Weblog.Session.Writing

namespace Weblog

/-! ## Values to be written -/

/-- What is to be written in required columns is not blank, and a column of texts can store it. -/
def Session.Cells.AreWritable (cs : Session.Cells) : Prop :=
  ∀ k : Kind, ∀ c ∈ k.required, ∀ v, cs.lookup c = some v → v.isBlank = false ∧ v.IsPlain

theorem Kind.required_of_column {k k' : Kind} {c : Column} (required : c ∈ k.required)
    (column : c ∈ k'.columns) : c ∈ k'.required := by
  revert required column
  cases k <;> cases k' <;> cases c <;> decide

theorem Entity.mem_of_lookup {α β : Type} [DecidableEq α] {l : List (α × β)} {a : α} {b : β}
    (h : l.lookup a = some b) : (a, b) ∈ l := by
  obtain ⟨before, after, rfl, -⟩ := List.lookup_eq_some_iff.mp h
  exact List.mem_append_right _ List.mem_cons_self

theorem Entity.mem_changes {e : Entity} {c : Column} {v : Cell} (h : (c, v) ∈ e.changes) :
    c ∈ e.kind.columns ∧ e.held? c = some v := by
  obtain ⟨d, hd, hv⟩ := List.mem_filterMap.mp h
  split at hv
  · rename_i w _ held
    split at hv
    · cases hv
    · cases hv
      exact ⟨hd, held⟩
  · rename_i w _ held
    cases hv
    exact ⟨hd, held⟩
  · cases hv

/-- The time of a change is held. -/
theorem Entity.steady_timed (e : Entity) (v : Cell) :
    Steady e { e.hold .updatedAt v with formerCells := without e.formerCells [.updatedAt] } := by
  have other : ∀ c ∈ e.kind.required, c ≠ .updatedAt := by
    intro c hc
    cases hk : e.kind <;> (rw [hk] at hc; revert hc; cases c <;> decide)
  have held : ∀ c ∈ e.kind.required,
      Entity.held? { e.hold .updatedAt v with formerCells := without e.formerCells [.updatedAt] } c =
        e.held? c := by
    intro c hc
    refine (held?_hold e .updatedAt c v).trans ?_
    rw [if_neg (other c hc)]
  refine ⟨rfl, rfl, rfl, rfl, id, id, id, fun c hc w hw => .inl (held c hc ▸ hw),
    fun c hc h => (held c hc).symm ▸ h, fun c hc given h stale => ?_⟩
  rw [held c hc] at h
  show ((without e.formerCells [.updatedAt]).lookup c).isSome = true
  rw [lookup_without, if_neg]
  · exact given h stale
  · rw [List.contains_iff_mem, List.mem_singleton]
    exact other c hc

/-- An entity that was put in holds what was filled in. -/
theorem Entity.steady_filledIn (e : Entity) {filled : List Column} (cells : List (Column × Cell))
    (free : ∀ k : Kind, ∀ c ∈ k.required, filled.contains c = false) :
    Steady e { e with
      cells := cells.filter (fun y => filled.contains y.1) ++ without e.cells filled
      formerCells := without e.formerCells filled } := by
  have held : ∀ c ∈ e.kind.required, Entity.held? { e with
      cells := cells.filter (fun y => filled.contains y.1) ++ without e.cells filled
      formerCells := without e.formerCells filled } c = e.held? c := by
    intro c hc
    show (cells.filter (fun y => filled.contains y.1) ++ without e.cells filled).lookup c = _
    rw [List.lookup_append, lookup_filter cells (fun c => filled.contains c), free _ c hc,
      lookup_without, free _ c hc]
    rfl
  refine ⟨rfl, rfl, rfl, rfl, id, id, id, fun c hc w hw => .inl (held c hc ▸ hw),
    fun c hc h => (held c hc).symm ▸ h, fun c hc given h stale => ?_⟩
  rw [held c hc] at h
  show ((without e.formerCells filled).lookup c).isSome = true
  rw [lookup_without, free _ c hc]
  exact given h stale

namespace Session

variable {C : Prop} {n : Nat} {P : Ref → Entity → Prop} {s s₀ : Session} {r : Ref} {e : Entity}
  {k : Kind} {c : Column} {rel : Relation} {row : Row} {now : Instant} {p : Plan}

/-- The changes of an entity in good order with nothing blank can be written. -/
theorem writable_changes (orderly : e.Orderly) (filled : e.IsFilled) {cs : Cells}
    (sub : ∀ y ∈ cs, y ∈ e.changes) : cs.AreWritable := by
  intro k c hc v hv
  obtain ⟨column, held⟩ := Entity.mem_changes (sub _ (Entity.mem_of_lookup hv))
  have required := Kind.required_of_column hc column
  exact ⟨filled c required v held, orderly.plain c required v held⟩

theorem writable_stamped {cs : Cells} (h : cs.AreWritable) (now : Instant) (k : Kind) :
    Cells.AreWritable (Work.stamped now k cs) := by
  intro k' c hc v hv
  obtain ⟨d, -, hd⟩ := List.mem_filterMap.mp (Entity.mem_of_lookup hv)
  split at hd
  · rename_i w hw
    cases hd
    exact h k' c hc v hw
  · split at hd
    · rename_i updated
      cases hd
      cases k' <;> simp [Kind.required, updated] at hc
    · cases hd

/-- What is bound of writable values are texts that are not blank. -/
theorem exists_text {cs : Cells} (h : cs.AreWritable) (bound : ∀ v ∈ cs.map Prod.snd, v.bindFault? = none)
    (hc : c ∈ k.required) {v : Cell} (hv : cs.lookup c = some v) :
    ∃ t, v.text? = some t ∧ Text.isBlank t = false := by
  obtain ⟨visible, plain⟩ := h k c hc v hv
  exact Cell.text?_of_plain plain (bound v (List.mem_map_of_mem (Entity.mem_of_lookup hv))) visible

namespace Work

/-! ## Statements -/

theorem keeps_fitting {I : Session → Prop} (cs : Cells) : Keeps I (fitting cs) fun _ => True :=
  Keeps.ite (fun _ => Keeps.pure trivial) fun _ => Keeps.throw rfl

theorem keeps_bindFrom {I : Session → Prop} (position : Nat) (vs : List Cell) :
    Keeps I (bindFrom position vs) fun _ => ∀ v ∈ vs, v.bindFault? = none := by
  induction vs generalizing position with
  | nil => exact Keeps.pure fun _ h => by cases h
  | cons v vs ih =>
    refine Keeps.bind (Keeps.bindCell position v) fun _ hv => ?_
    exact (ih (position + 1)).weaken fun _ hvs => List.forall_mem_cons.mpr ⟨hv, hvs⟩

theorem keeps_inOrder {I : Session → Prop} (rs : List Ref) :
    Keeps I (inOrder rs) fun rs' => rs'.Perm rs := by
  refine Keeps.bind Keeps.get fun s _ => Keeps.guard rfl fun _ => Keeps.pure ?_
  refine ((List.mergeSort_perm ..).append (List.mergeSort_perm ..)).trans ?_
  refine List.Perm.trans (.of_eq ?_)
    (List.filter_append_perm (fun r => ((s.entity? r).bind Entity.key?).isNone) rs)
  congr 1
  refine List.filter_congr fun r _ => ?_
  dsimp only
  cases (s.entity? r).bind Entity.key? <;> rfl

/-- A change of the store that keeps it filled. -/
theorem keeps_storing {g : Store → Except Constraint Store}
    (hg : ∀ store store', store.tables.IsFilled → g store = .ok store' → store'.tables.IsFilled) :
    Keeps (Holding C n P) (storing g) fun _ => True :=
  Keeps.storing fun _ _ hs hstore => hs.of_same rfl (fun _ filled => hg _ _ filled hstore) rfl

/-! ## Documents -/

theorem KeptByReviving.document {I : Session → Prop} (h : KeptByReviving I) (r : Ref) :
    Keeps I (Work.document r) fun _ => True := by
  have part : ∀ c, Keeps I (do
      let v ← Work.value r c
      return Document.partOf (v.value?.getD .null)) fun _ => True :=
    fun c => Keeps.bind (h.value r c) fun _ _ => Keeps.pure trivial
  refine Keeps.bind (h.value r .id) fun id _ => ?_
  refine Keeps.bind (part .title) fun _ _ => Keeps.bind (part .body) fun _ _ => ?_
  refine Keeps.bind (Keeps.bindCell 2 id) fun _ _ => ?_
  split
  · exact Keeps.pure trivial
  · exact Keeps.throw rfl

theorem keeps_note (record : LogRecord) : Keeps (Holding C n P) (note record) fun _ => True :=
  Triple.modify fun _ hs => ⟨hs.of_same rfl (fun _ => id) rfl, trivial⟩

/-- A change of documents. -/
theorem keeps_documents {f : Tables → Tables} (same : ∀ t : Tables, t.IsFilled → (f t).IsFilled) :
    Keeps (Holding C n P) (modify fun s => s.change f : Work Unit) fun _ => True :=
  Triple.modify fun _ hs => ⟨hs.of_same rfl (fun _ => same _) rfl, trivial⟩

theorem keeps_index (hP : Closed Entity.Still n P) (r : Ref) :
    Keeps (Holding C n P) (index r) fun _ => True :=
  have reviving := (keptByReading hP).toKeptByReviving
  Keeps.bind (reviving.document r) fun _ _ =>
    Keeps.bind (keeps_documents fun _ filled => filled.of_same rfl rfl rfl rfl) fun _ _ =>
    Keeps.bind (reviving.value r .id) fun _ _ => keeps_note _

theorem keeps_unindex (hP : Closed Entity.Still n P) (r : Ref) :
    Keeps (Holding C n P) (unindex r) fun _ => True :=
  Keeps.bind ((keptByReading hP).value r .id) fun id _ => Keeps.bind (Keeps.bindCell 2 id) fun _ _ =>
    Keeps.bind (keeps_documents fun _ filled => filled.of_same rfl rfl rfl rfl) fun _ _ =>
    keeps_note _

/-! ## Changing rows -/

theorem keeps_revise (k : Kind) (x : Revision) {cells : Cells} (writable : C → cells.AreWritable) :
    Keeps (Holding C n P) (revise k x cells) fun _ => True := by
  refine Keeps.bind (keeps_bindFrom 1 _) fun _ bound => ?_
  refine Keeps.bind Keeps.reaching fun s hs => ?_
  split
  · exact Keeps.pure trivial
  · rename_i row found
    obtain ⟨id, -, hrow⟩ := Option.bind_eq_some_iff.mp found
    refine Keeps.bind (Keeps.storing fun s' store hs' hstore => ?_) fun _ _ => Keeps.pure trivial
    refine hs'.of_same rfl (fun hC filled => ?_) rfl
    obtain ⟨row', hrow', hreplaced⟩ := bind_eq_ok.mp hstore
    refine Store.isFilled_replace hreplaced filled ?_
    refine Row.isFilled_of_overlaid hrow' ((hs hC).tables k row (Tables.mem_of_row? hrow))
      fun c hc v hv => exists_text (writable hC) (fun v hv => ?_) hc hv
    exact bound v (List.mem_append_left _ hv)

theorem keeps_reviseAll (hP : Closed Entity.Steady n P) (now : Instant) (k : Kind)
    {xs : List Revision} (writable : C → ∀ x ∈ xs, Cells.AreWritable x.cells) :
    Keeps (Holding C n P) (reviseAll now k xs) fun _ => True := by
  refine Keeps.bind (Keeps.forM fun x _ => keeps_fitting x.cells) fun _ _ => ?_
  refine Keeps.bind (Keeps.mapM_all (R := fun _ => True) fun x hx => ?_) fun found _ => ?_
  · exact keeps_revise k x fun hC => writable_stamped (writable hC x hx) now k
  · refine Keeps.guard rfl fun _ => Keeps.forM fun x _ => Keeps.alter fun s hs => ?_
    refine hs.step hP fun _ e _ => ?_
    split
    · exact e.steady_timed _
    · exact .refl e

end Work

/-! ## Entities underway -/

/-- Entities since writing began. -/
def Underway (s₀ : Session) : Session → Prop :=
  Holding s₀.Prepared s₀.entities.length (Came Entity.Steady s₀)

theorem closed_underway (s₀ : Session) :
    Closed Entity.Steady s₀.entities.length (Came Entity.Steady s₀) :=
  .came .refl .trans s₀

/-- An entity that may be written: if it was there before, it was fit. -/
def MayWrite (s₀ : Session) (r : Ref) : Prop :=
  s₀.Prepared → ∀ e, s₀.entity? r = some e → e.IsFit

/-- An entity that may be put in. -/
def MayPutIn (s₀ : Session) (k : Kind) (r : Ref) : Prop :=
  s₀.Prepared → ∃ e, s₀.entity? r = some e ∧ e.kind = k ∧ e.IsFilled ∧ e.IsComplete

theorem Came.orderly (h : Came Entity.Steady s₀ r e) (prepared : s₀.Prepared) : e.Orderly := by
  rcases h with ⟨e₀, he₀, steady⟩ | ⟨-, row, hrow, steady⟩
  · exact steady.orderly (prepared.orderly.entity he₀ trivial)
  · exact steady.orderly (Entity.orderly_ofRow hrow).1

theorem Came.filled (h : Came Entity.Steady s₀ r e) (prepared : s₀.Prepared)
    (may : s₀.MayWrite r) : e.IsFilled := by
  rcases h with ⟨e₀, he₀, steady⟩ | ⟨-, row, hrow, steady⟩
  · exact steady.filled (may prepared e₀ he₀).1
  · exact steady.filled (Entity.orderly_ofRow hrow).2

/-- An entity without a row was there before writing began. -/
theorem Came.mayPutIn (h : Came Entity.Steady s₀ r e) (unkeyed : e.key? = none)
    (may : ∀ e, s₀.entity? r = some e → e.IsFit ∧ e.kind = k) :
    ∃ e, s₀.entity? r = some e ∧ e.kind = k ∧ e.IsFilled ∧ e.IsComplete := by
  rcases h with ⟨e₀, he₀, steady⟩ | ⟨-, row, -, steady⟩
  · obtain ⟨⟨filled, complete⟩, kind⟩ := may e₀ he₀
    exact ⟨e₀, he₀, kind, filled, complete (steady.key ▸ unkeyed)⟩
  · rw [steady.key] at unkeyed
    cases unkeyed

namespace Work

theorem keeps_revision? (may : s₀.MayWrite r) :
    Keeps (Underway s₀) (revision? r) fun o =>
      s₀.Prepared → ∀ x ∈ o, Cells.AreWritable x.cells := by
  refine Keeps.bind (Keeps.look fun s hs e he => hs.entity he) fun e came => ?_
  refine Keeps.ite (fun _ => Keeps.pure fun _ _ h => by cases h) fun _ => ?_
  refine Keeps.bind ((keptByReading (closed_underway s₀).calm.still).value r .id) fun id _ => ?_
  refine Keeps.guard rfl fun _ => Keeps.pure fun prepared x hx => ?_
  have writable {id : Cell} {cs : Cells} (sub : ∀ y ∈ cs, y ∈ e.changes)
      (hx : (if cs.isEmpty then none else some (⟨r, id, cs⟩ : Revision)) = some x) :
      Cells.AreWritable x.cells := by
    split at hx
    · cases hx
    · cases hx
      exact writable_changes ((came prepared).orderly prepared)
        ((came prepared).filled prepared may) sub
  split at hx
  · exact writable (fun y hy => (List.mem_filter.mp hy).1) hx
  · exact writable (fun _ h => h) hx
  · exact writable (fun _ h => h) hx

theorem keeps_reviseRest (now : Instant) (k : Kind) {ready : List Revision} {rs : List Ref}
    (writable : s₀.Prepared → ∀ x ∈ ready, Cells.AreWritable x.cells)
    (may : ∀ r ∈ rs, s₀.MayWrite r) :
    Keeps (Underway s₀) (reviseRest now k ready rs) fun _ => True := by
  induction rs generalizing ready with
  | nil =>
    cases ready with
    | nil => exact Keeps.pure trivial
    | cons x ready => exact keeps_reviseAll (closed_underway s₀) now k writable
  | cons r rs ih =>
    have rest : ∀ q ∈ rs, s₀.MayWrite q := fun q hq => may q (List.mem_cons_of_mem r hq)
    rw [reviseRest]
    refine Keeps.bind (keeps_revision? (may r List.mem_cons_self)) fun o ho => ?_
    cases o with
    | none => exact ih writable rest
    | some x =>
      refine Keeps.ite (fun _ => ?_) fun _ => ?_
      · refine ih (fun prepared y hy => ?_) rest
        rcases List.mem_append.mp hy with old | new
        · exact writable prepared y old
        · exact List.mem_singleton.mp new ▸ ho prepared x rfl
      · refine Keeps.bind (keeps_reviseAll (closed_underway s₀) now k writable) fun _ _ => ?_
        refine ih (fun prepared y hy => ?_) rest
        exact List.mem_singleton.mp hy ▸ ho prepared x rfl

/-! ## Putting in rows -/

/-- An addition of which the required columns of a kind are given, and not blank. -/
def Addition.IsWritable (k : Kind) (x : Addition) : Prop :=
  ∀ c ∈ k.required, ∃ v, x.cells.lookup c = some v ∧ v.isBlank = false ∧ v.IsPlain

theorem Kind.required_subset (k : Kind) : k.required ⊆ k.columns := by
  cases k <;> decide

theorem unfilled {c : Column} (hc : c ∈ k.required) (k' : Kind) : c ∉ defaults k' := by
  revert hc
  cases k <;> cases k' <;> cases c <;> decide

/-- What is put into a column that was not given. -/
def defaultCell (id : String) (now : Instant) : Column → Cell
  | .id => .text id
  | .isActive => .flag true
  | _ => .time (.ofInstant now)

theorem keeps_fillIn (now : Instant) (r : Ref) :
    Keeps (Underway s₀) (fillIn now r) fun x =>
      (∀ k : Kind, ∀ c ∈ k.required, x.filled.contains c = false) ∧
        ∀ k, s₀.MayPutIn k r → s₀.Prepared → x.IsWritable k := by
  refine Keeps.bind (Keeps.look fun s hs e he => hs.entity he) fun e came => ?_
  refine Keeps.bind Keeps.get fun s hs => ?_
  have free : ∀ k : Kind, ∀ c ∈ k.required, (ungiven e).contains c = false := by
    intro k c hc
    refine Bool.eq_false_iff.mpr fun given => unfilled hc e.kind ?_
    exact (List.mem_filter.mp (List.contains_iff_mem.mp given)).1
  have result : ∀ I : Session → Prop, Keeps I (pure (⟨r, ungiven e, e.kind.columns.map fun c =>
      (c, if !(ungiven e).contains c then (e.held? c).getD .null
        else defaultCell (s.store.nextId e.kind).1 now c)⟩ : Addition)) fun x =>
      (∀ k : Kind, ∀ c ∈ k.required, x.filled.contains c = false) ∧
        ∀ k, s₀.MayPutIn k r → s₀.Prepared → x.IsWritable k := by
    refine fun I => Keeps.pure ⟨free, fun k may prepared c hc => ?_⟩
    obtain ⟨e₀, he₀, kind, filled, complete⟩ := may prepared
    have steady := (came prepared).of_entity he₀
    have same : e.kind = k := steady.kind.trans kind
    subst same
    obtain ⟨v, hv⟩ := Option.isSome_iff_exists.mp (steady.complete complete c hc)
    refine ⟨v, ?_, steady.filled filled c hc v hv, ((came prepared).orderly prepared).plain c hc v hv⟩
    rw [Entity.lookup_map, if_pos (List.contains_iff_mem.mpr (Kind.required_subset e.kind hc)),
      free e.kind c hc, hv]
    rfl
  refine Keeps.ite (fun _ => ?_) fun _ => result _
  exact Keeps.bind (Keeps.set (hs.of_same rfl (fun _ => id) rfl)) fun _ _ => result _

/-- Rows that are put in one after the other. -/
theorem isFilled_insertEach {xs : List Addition} {done : List Row × Store}
    {result : List Row × Store} (filled : done.2.tables.IsFilled)
    (hrows : ∀ x ∈ xs, ∀ row, x.row k = .ok row → row.IsFilled)
    (h : xs.foldlM (fun (done : List Row × Store) x => do
      let row ← x.row k
      return (done.1 ++ [row], ← done.2.insertUnchecked row)) done = .ok result) :
    result.2.tables.IsFilled := by
  induction xs generalizing done with
  | nil =>
    obtain rfl := Except.ok.inj h
    exact filled
  | cons x xs ih =>
    rw [List.foldlM_cons] at h
    obtain ⟨next, hnext, h⟩ := bind_eq_ok.mp h
    obtain ⟨row, hrow, hnext⟩ := bind_eq_ok.mp hnext
    obtain ⟨store, hstore, hnext⟩ := bind_eq_ok.mp hnext
    obtain rfl := Except.ok.inj hnext
    refine ih ?_ (fun y hy => hrows y (List.mem_cons_of_mem x hy)) h
    exact Store.isFilled_insertUnchecked hstore filled (hrows x List.mem_cons_self row hrow)

theorem keeps_insert (k : Kind) {xs : List Addition} (writable : C → ∀ x ∈ xs, x.IsWritable k) :
    Keeps (Holding C n P) (insert k xs) fun _ => True := by
  refine Keeps.bind (keeps_bindFrom 1 _) fun _ bound => ?_
  refine Keeps.storing fun s store hs hstore => hs.of_same rfl (fun hC filled => ?_) rfl
  obtain ⟨done, hdone, hstore⟩ := bind_eq_ok.mp hstore
  have same : done.2 = store := by
    dsimp only at hstore
    split at hstore
    · exact Except.ok.inj hstore
    · cases hstore
  rw [← same]
  have start : (([] : List Row), s.store).2.tables.IsFilled := filled
  refine isFilled_insertEach (k := k) start (fun x hx row hrow => ?_) hdone
  refine Row.isFilled_of_ofCells hrow fun c hc => ?_
  obtain ⟨v, hv, visible, plain⟩ := writable hC x hx c hc
  rw [hv, Option.getD_some]
  refine Cell.text?_of_plain plain (bound v ?_) visible
  exact List.mem_flatMap.mpr ⟨x, hx, List.mem_map_of_mem (Entity.mem_of_lookup hv)⟩

theorem keeps_insertAll (now : Instant) (k : Kind) {rs : List Ref}
    (may : ∀ r ∈ rs, s₀.MayPutIn k r) :
    Keeps (Underway s₀) (insertAll now k rs) fun _ => True := by
  refine Keeps.bind (Keeps.mapM_all (R := fun x => (∀ k : Kind, ∀ c ∈ k.required,
    x.filled.contains c = false) ∧ (s₀.Prepared → x.IsWritable k)) fun r hr => ?_) fun xs hxs => ?_
  · exact (keeps_fillIn now r).weaken fun x hx => ⟨hx.1, hx.2 k (may r hr)⟩
  · refine Keeps.bind (Keeps.forM fun x _ => keeps_fitting x.cells) fun _ _ => ?_
    have filled : Keeps (Underway s₀) (xs.forM fun x => alter x.ref fun e =>
        { e with
          cells := x.cells.filter (fun y => x.filled.contains y.1) ++ without e.cells x.filled
          formerCells := without e.formerCells x.filled }) fun _ => True :=
      Keeps.forM fun x hx => Keeps.alter fun _ hs => hs.step (closed_underway s₀) fun _ e _ =>
        e.steady_filledIn x.cells (hxs x hx).1
    refine Keeps.ite (fun _ => ?_) fun _ => ?_
    · exact Keeps.bind (keeps_insert k fun prepared x hx => (hxs x hx).2 prepared) fun _ _ => filled
    · refine Keeps.bind (Keeps.forM fun x hx => keeps_insert k fun prepared y hy => ?_)
        fun _ _ => filled
      exact List.mem_singleton.mp hy ▸ (hxs x hx).2 prepared

/-! ## Rows of a kind -/

theorem sound_setRole (hp : p.IsSound s₀) (r : Ref) (isNoted : Bool) :
    (p.setRole r ⟨true, isNoted⟩).IsSound s₀ := by
  intro prepared
  obtain ⟨fair, covers⟩ := hp prepared
  refine ⟨Plan.fair_setRole fair fun stays => ?_, fun q e he contained unfit => ?_⟩
  · cases stays
  · exact Plan.knows_setRole (covers q e he contained unfit)

theorem keeps_takesOver (hp : p.IsSound s₀) (k : Kind) (r : Ref) :
    Keeps (Underway s₀) (takesOver p k r) fun o => ∀ p' ∈ o, p'.IsSound s₀ := by
  have still := (closed_underway s₀).calm.still
  refine Keeps.bind (keeps_look r) fun e _ => Keeps.readied (keeps_revive still) ?_
  refine Keeps.bind (keeps_look r) fun e _ => ?_
  split
  · exact Keeps.pure fun _ h => by cases h
  · refine Keeps.bind (keeps_mapped? still k _) fun o _ => ?_
    split
    · exact Keeps.pure fun _ h => by cases h
    · refine Keeps.pure fun p' h => ?_
      split at h
      · cases h
        exact sound_setRole hp _ true
      · cases h

/-- Entities that are written, and their kind. -/
def MayStay (s₀ : Session) (k : Kind) (r : Ref) : Prop :=
  s₀.Prepared → ∀ e, s₀.entity? r = some e → e.IsFit ∧ e.kind = k

theorem mayStay_of_staying (hp : p.IsSound s₀) (hr : r ∈ p.staying k) : MayStay s₀ k r := by
  intro prepared e he
  obtain ⟨x, hx, rfl⟩ := List.mem_map.mp hr
  obtain ⟨hx, same⟩ := List.mem_filter.mp hx
  obtain ⟨kind, role⟩ := Bool.and_eq_true_iff.mp same
  obtain ⟨-, hkind, fit⟩ := (hp prepared).1 x hx e he
  exact ⟨fit (by rw [of_decide_eq_true role]), hkind.trans (of_decide_eq_true kind)⟩

theorem keeps_sortOut (k : Kind) (hp : p.IsSound s₀) {rs : List Ref}
    (may : ∀ r ∈ rs, MayStay s₀ k r) :
    Keeps (Underway s₀) (sortOut k p rs) fun x => x.1.IsSound s₀ ∧
      (∀ r ∈ x.2.1, s₀.MayPutIn k r) ∧ ∀ r ∈ x.2.2, s₀.MayWrite r := by
  induction rs generalizing p with
  | nil => exact Keeps.pure ⟨hp, (fun _ h => by cases h), (fun _ h => by cases h)⟩
  | cons r rs ih =>
    have first := may r List.mem_cons_self
    have rest : ∀ q ∈ rs, MayStay s₀ k q := fun q hq => may q (List.mem_cons_of_mem r hq)
    have writes : s₀.MayWrite r := fun prepared e he => (first prepared e he).1
    refine Keeps.bind (Keeps.look fun s hs e he => hs.entity he) fun e came => ?_
    refine Keeps.ite (fun _ => ?_) fun unkeyed => ?_
    · refine Keeps.bind (ih hp rest) fun x hx => Keeps.pure ⟨hx.1, hx.2.1, ?_⟩
      exact List.forall_mem_cons.mpr ⟨writes, hx.2.2⟩
    · refine Keeps.bind (keeps_takesOver hp k r) fun o ho => ?_
      split
      · rename_i p'
        refine Keeps.bind (ih (ho p' rfl) rest) fun x hx => Keeps.pure ⟨hx.1, hx.2.1, ?_⟩
        exact List.forall_mem_cons.mpr ⟨writes, hx.2.2⟩
      · refine Keeps.bind (ih hp rest) fun x hx => Keeps.pure ⟨hx.1, ?_, hx.2.2⟩
        refine List.forall_mem_cons.mpr ⟨fun prepared => ?_, hx.2.1⟩
        refine (came prepared).mayPutIn ?_ (first prepared)
        exact Option.not_isSome_iff_eq_none.mp unkeyed

theorem keeps_save (now : Instant) (k : Kind) (hp : p.IsSound s₀) :
    Keeps (Underway s₀) (save now k p) fun p' => p'.IsSound s₀ := by
  refine Keeps.bind (keeps_inOrder _) fun rs hrs => ?_
  refine Keeps.bind (keeps_sortOut k hp fun r hr => mayStay_of_staying hp (hrs.subset hr))
    fun x ⟨hp', new, old⟩ => ?_
  refine Keeps.bind (keeps_reviseRest now k (fun _ _ h => by cases h) old) fun _ _ => ?_
  refine Keeps.bind Keeps.get fun s _ => ?_
  refine Keeps.bind (Keeps.forM fun rs hrs => keeps_insertAll now k fun r hr => new r ?_) fun _ _ => ?_
  · have mem := List.mem_flatten_of_mem hrs hr
    rwa [List.flatten_splitBy] at mem
  · have done : Keeps (Underway s₀) (pure x.1 : Work Plan) fun p' => p'.IsSound s₀ :=
      Keeps.pure hp'
    refine Keeps.ite (fun _ => ?_) fun _ => done
    exact Keeps.bind (Keeps.forM fun r _ => keeps_index (closed_underway s₀).calm.still r)
      fun _ _ => done

theorem keeps_remove (hP : Closed Entity.Steady n P) (k : Kind) (p : Plan) :
    Keeps (Holding C n P) (remove k p) fun _ => True := by
  have still := hP.calm.still
  refine Keeps.bind (keeps_inOrder _) fun rs _ => ?_
  refine Keeps.bind (Keeps.mapM_all (R := fun _ => True) fun r _ =>
    (keptByReading still).formerValue r .id) fun ids _ => ?_
  refine Keeps.guard rfl fun _ => ?_
  refine Keeps.bind (Keeps.forM fun id _ => ?_) fun _ _ => ?_
  · refine Keeps.bind (Keeps.bindCell 1 id) fun _ _ => ?_
    exact keeps_storing fun _ _ filled removed => Store.isFilled_remove removed filled
  · refine Keeps.ite (fun _ => ?_) fun _ => Keeps.pure trivial
    exact Keeps.forM fun r _ => keeps_unindex still r

/-! ## Relations -/

/-- A property of sessions that is kept when relations are carried over: when an owner is named in a
column, and when links are written. -/
structure KeptByLinking (I : Session → Prop) : Prop extends KeptByReviving I where
  name : ∀ r {rel : Relation} {c}, rel.column? = some c → ∀ v, Keeps I (setValue r c v) fun _ => True
  link : ∀ {g : Store → Except Constraint Store},
    (∀ store store', g store = .ok store' →
      ∃ links, store' = store.change fun t => { t with links := links }) →
    Keeps I (storing g) fun _ => True

theorem keeps_refuseNulls {I : Session → Prop} (rel : Relation) (r : Ref) :
    Keeps I (refuseNulls rel r) fun _ => True :=
  Keeps.bind (keeps_look r) fun _ _ =>
    Keeps.ite (fun _ => Keeps.throw rfl) fun _ => Keeps.pure trivial

namespace KeptByLinking

variable {I : Session → Prop} (h : KeptByLinking I)

include h

theorem nameOwner (owner member : Ref) (rel : Relation) :
    Keeps I (nameOwner owner member rel) fun _ => True :=
  Keeps.bind (h.value owner .id) fun id _ => Keeps.optionForM fun _ hc => h.name member hc id

theorem nameForMembers (p : Plan) (rel : Relation) (r : Ref) (ms : List (Option Ref)) :
    Keeps I (nameForMembers p rel r ms) fun _ => True := by
  refine Keeps.forM fun m _ => Keeps.ite (fun _ => ?_) fun _ => Keeps.pure trivial
  exact Keeps.bind (keeps_look r) fun _ _ => h.nameOwner r m _

theorem relateMembers (p : Plan) (rel : Relation) (r : Ref) :
    Keeps I (relateMembers p rel r) fun _ => True := by
  refine Keeps.bind (keeps_refuseNulls rel r) fun _ _ => Keeps.bind (keeps_look r) fun e _ => ?_
  refine Keeps.bind (h.nameForMembers p rel r _) fun _ _ => ?_
  refine Keeps.bind (keeps_look r) fun _ _ => ?_
  exact Keeps.ite (fun _ => h.nameForMembers p rel r _) fun _ => Keeps.pure trivial

theorem relateOwner (p : Plan) (rel : Relation) (r : Ref) :
    Keeps I (relateOwner p rel r) fun _ => True := by
  refine Keeps.bind (keeps_look r) fun e _ => ?_
  refine Keeps.ite (fun _ => Keeps.pure trivial) fun _ => ?_
  split
  · refine Keeps.bind Keeps.get fun s _ => ?_
    exact Keeps.ite (fun _ => h.nameOwner _ r rel) fun _ => Keeps.pure trivial
  · exact Keeps.optionForM fun _ hc => h.name r hc .null
  · exact Keeps.pure trivial

theorem linksTo (linked : List (Ref × Ref)) (k : Kind) (r : Ref) (ms : List (Option Ref)) :
    Keeps I (linksTo linked k r ms) fun _ => True := by
  refine Keeps.filterMapM fun m _ => Keeps.bind Keeps.get fun s _ => ?_
  refine Keeps.ite (fun _ => Keeps.pure trivial) fun _ => ?_
  refine Keeps.bind (Q := fun _ => True) ?_ fun _ _ => Keeps.pure trivial
  exact Keeps.bind (h.value r .id) fun _ _ => Keeps.bind (h.value m .id) fun _ _ =>
    Keeps.pure trivial

theorem takeOutLink (ends : Cell × Cell) : Keeps I (takeOutLink ends) fun _ => True := by
  refine Keeps.bind (keeps_bindFrom 1 _) fun _ _ => ?_
  split
  · refine Keeps.bind Keeps.reaching fun s _ => ?_
    refine Keeps.bind (h.link fun store store' h => ?_) fun _ _ => Keeps.pure trivial
    obtain rfl := Except.ok.inj h
    exact ⟨_, rfl⟩
  · exact Keeps.pure trivial

theorem writeLinks (lost gained : List (Cell × Cell)) :
    Keeps I (writeLinks lost gained) fun _ => True := by
  refine Keeps.bind (Keeps.mapM_all (R := fun _ => True) fun ends _ => h.takeOutLink ends)
    fun found _ => ?_
  refine Keeps.guard rfl fun _ => Keeps.forM fun ends _ => ?_
  refine Keeps.bind (Q := fun _ => True) ?_ fun l _ => h.link fun store store' h => ?_
  · refine Keeps.bind (keeps_bindFrom 1 _) fun _ _ => ?_
    split
    · exact Keeps.pure trivial
    · exact Keeps.throw rfl
    · exact Keeps.throw rfl
  · unfold Store.addLink at h
    split at h
    · cases h
    · split at h
      · obtain rfl := Except.ok.inj h
        exact ⟨_, rfl⟩
      · cases h

theorem relateLinks (k : Kind) (rel : Relation) (going : Bool) (rs : List Ref) (p : Progress) :
    Keeps I (relateLinks k rel going rs p) fun p' => p'.plan = p.plan := by
  refine Keeps.bind (Keeps.mapM_all (R := fun _ => True) fun r _ => ?_) fun shifts _ => ?_
  · exact Keeps.bind (keeps_look r) fun _ _ => Keeps.pure trivial
  · refine Keeps.bind (Keeps.mapM_all (R := fun _ => True) fun x _ => ?_) fun links _ => ?_
    · have written : Keeps I (do
          let gained ← Work.linksTo p.linked k x.1 x.2.gained
          let lost ← Work.linksTo p.linked k x.1 x.2.lost
          return (lost, gained)) fun _ => True :=
        Keeps.bind (h.linksTo p.linked k x.1 _) fun _ _ =>
          Keeps.bind (h.linksTo p.linked k x.1 _) fun _ _ => Keeps.pure trivial
      refine Keeps.ite (fun _ => ?_) fun _ => written
      exact Keeps.bind (keeps_refuseNulls rel x.1) fun _ _ => written
    · exact Keeps.bind (h.writeLinks _ _) fun _ _ => Keeps.pure rfl

theorem relateAll (k : Kind) (rel : Relation) (going : Bool) (p : Progress) :
    Keeps I (relateAll k rel going p) fun p' => p'.plan = p.plan := by
  refine Keeps.ite (fun _ => h.relateLinks k rel going _ p) fun _ => ?_
  refine Keeps.ite (fun _ => Keeps.pure rfl) fun _ => ?_
  refine Keeps.ite (fun _ => ?_) fun _ => ?_
  · exact Keeps.bind (Keeps.forM fun r _ => h.relateMembers p.plan rel r) fun _ _ =>
      Keeps.pure rfl
  · exact Keeps.bind (Keeps.forM fun r _ => h.relateOwner p.plan rel r) fun _ _ =>
      Keeps.pure rfl

end KeptByLinking

theorem column?_free {rel : Relation} {c : Column} (h : rel.column? = some c) (k : Kind) :
    c ∉ k.required := by
  revert h
  cases rel <;> cases k <;> cases c <;> decide

theorem keptByLinking (hP : Closed Entity.Steady n P) : KeptByLinking (Holding C n P) where
  toKeptByReviving := (keptByReading hP.calm.still).toKeptByReviving
  name := fun r _ _ hc v => keeps_setValue hP.calm.still r (column?_free hc) v
  link := fun hg => keeps_storing fun store store' filled stored => by
    obtain ⟨links, rfl⟩ := hg store store' stored
    exact filled.of_same rfl rfl rfl rfl

/-! ## Tasks -/

/-- Every task keeps the tables filled, and the plan sound. -/
theorem keeps_perform (now : Instant) {done : Progress} (hp : done.plan.IsSound s₀) (t : Task) :
    Keeps (Underway s₀) (perform now done t) fun done' => done'.plan.IsSound s₀ := by
  cases t with
  | save k => exact Keeps.bind (keeps_save now k hp) fun p' hp' => Keeps.pure hp'
  | remove k =>
    exact Keeps.bind (keeps_remove (closed_underway s₀) k done.plan) fun _ _ => Keeps.pure hp
  | relate k rel going =>
    refine ((keptByLinking (closed_underway s₀)).relateAll k rel going done).weaken fun done' same => ?_
    rw [same]
    exact hp

end Work

end Session

end Weblog
