/-
  Putting in rows of posts in a flush.

  A row that is put in is made of what its entity holds and of what is filled in, and the entity takes
  over what was filled in (`Entity.noted`). From then on the entity has a row, and holds what the row
  holds (`Filing.put`), one after the other for all rows that are put in (`Work.insertGroups_post`).
-/
import Weblog.Proofs.Session.Revising

namespace Weblog

/-! ## What is put in of an entity -/

namespace Entity

variable {e e' : Entity} {c : Column} {v : Cell} {p : PostRow} {ps : List PostRow} {id : String}
  {y : Session.Work.Addition}

/-- A row to be put in holds what its entity holds, and an identifier if the entity has none. -/
structure FilledBy (e : Entity) (y : Session.Work.Addition) : Prop where
  filled : y.filled = Session.Work.ungiven e
  given : ∀ c ∈ indexedColumns, c ∉ y.filled → y.cells.lookup c = some ((e.held? c).getD .null)
  named : .id ∈ y.filled → ∃ id, y.cells.lookup .id = some (.text id)

/-- An entity that takes over what was filled in. -/
def noted (y : Session.Work.Addition) (e : Entity) : Entity :=
  { e with
    cells := y.cells.filter (fun z => y.filled.contains z.1) ++ without e.cells y.filled
    formerCells := without e.formerCells y.filled }

theorem held?_noted (y : Session.Work.Addition) (e : Entity) (c : Column) :
    (e.noted y).held? c = if c ∈ y.filled then y.cells.lookup c else e.held? c := by
  show (y.cells.filter (fun z => y.filled.contains z.1) ++ without e.cells y.filled).lookup c = _
  rw [List.lookup_append, lookup_filter y.cells (fun c => y.filled.contains c), lookup_without]
  by_cases mem : c ∈ y.filled
  · rw [if_pos mem, if_pos (List.contains_iff_mem.mpr mem), if_pos (List.contains_iff_mem.mpr mem),
      Option.or_none]
  · have none : ¬y.filled.contains c = true := fun h => mem (List.contains_iff_mem.mp h)
    rw [if_neg mem, if_neg none, if_neg none, Option.none_or]
    rfl

namespace FilledBy

variable (h : e.FilledBy y)

include h

/-- Neither title nor body is filled in. -/
theorem contents_given (post : e.kind = .post) (hc : c ∈ Column.contents) : c ∉ y.filled := by
  rw [h.filled]
  intro mem
  have default := (List.mem_filter.mp mem).1
  rw [post] at default
  revert default hc
  cases c <;> decide

theorem isRecord (record : e.IsRecord) (post : e.kind = .post) (unkeyed : e.key? = none) :
    (e.noted y).IsRecord where
  texts := by
    intro c hc v hv
    rw [held?_noted] at hv
    split at hv
    · rename_i filled
      have same : c = .id := by
        rcases List.mem_cons.mp hc with same | contents
        · exact same
        · exact absurd filled (h.contents_given post contents)
      subst same
      obtain ⟨id, found⟩ := h.named filled
      rw [found] at hv
      exact Option.some.inj hv ▸ trivial
    · exact record.texts c hc v hv
  formers := by
    intro c hc v hv
    rw [show (e.noted y).formerCells = without e.formerCells y.filled from rfl, lookup_without] at hv
    split at hv
    · cases hv
    · exact record.formers c hc v hv
  noted := by
    intro c hc set
    rw [show (e.noted y).formerCells = without e.formerCells y.filled from rfl, lookup_without] at set
    rw [held?_noted]
    split at set
    · cases set
    · rename_i given
      rw [if_neg fun mem => given (List.contains_iff_mem.mpr mem)]
      exact record.noted c hc set
  unkeyed := fun _ => unkeyed
  key := by
    intro key hkey
    rw [show (e.noted y).key? = e.key? from rfl, unkeyed] at hkey
    cases hkey
  given := by
    intro keyed
    rw [show (e.noted y).key? = e.key? from rfl, unkeyed] at keyed
    cases keyed
  found := record.found
  keyed := record.keyed
  doomed := record.doomed
  unrenamed := record.unrenamed

/-- The row that is put in is the one of the entity that took over what was filled in. -/
theorem houses (record : e.IsRecord) (post : e.kind = .post) (unkeyed : e.key? = none)
    (row : y.row .post = .ok (.post p)) : (e.noted y).rowId? = some p.id ∧ (e.noted y).Bears p := by
  obtain ⟨p', same, hid, cells⟩ := Row.post_of_ofCells row
  obtain rfl := Row.post.inj same
  constructor
  · rw [rowId?_of_unkeyed (show (e.noted y).key? = none from unkeyed), held?_noted]
    split
    · rename_i filled
      obtain ⟨id, found⟩ := h.named filled
      rw [found] at hid ⊢
      exact hid
    · rename_i given
      rw [h.given .id (by decide) given] at hid
      cases held : e.held? .id with
      | none =>
        rw [held] at hid
        cases hid
      | some v =>
        rw [held] at hid
        exact hid
  · intro c hc
    have indexed := Column.mem_indexed_of_contents hc
    have given := h.contents_given post hc
    have cell := cells c hc
    rw [h.given c indexed given] at cell
    unfold BearsIn
    rw [held?_noted, if_neg given]
    cases held : e.held? c with
    | none =>
      rw [held] at cell
      exact .inr (cell (by trivial))
    | some v =>
      rw [held] at cell
      exact cell (record.texts c indexed v held)

/-- The identifier that an entity has already stays. -/
theorem rowId?_noted (record : e.IsRecord) (unkeyed : e.key? = none) (hid : e.rowId? = some id) :
    (e.noted y).rowId? = some id := by
  have held : e.held? .id = some (.text id) := by
    rw [rowId?_of_unkeyed unkeyed] at hid
    obtain ⟨v, hv, -⟩ := Option.bind_eq_some_iff.mp hid
    rw [hv, record.held_id ((rowId?_of_unkeyed unkeyed).trans hid) hv]
  have given : .id ∉ y.filled := by
    rw [h.filled]
    intro mem
    have none := (List.mem_filter.mp mem).2
    rw [held] at none
    cases of_decide_eq_true none
  rw [rowId?_of_unkeyed (show (e.noted y).key? = none from unkeyed), held?_noted, if_neg given, held]
  rfl

end FilledBy

end Entity

namespace Session

variable {s s' s₀ : Session} {r q : Ref} {e f : Entity} {c : Tables} {p p' : PostRow} {row : Row}
  {now : Instant} {id : String} {x : Stage} {y : Work.Addition} {rs : List Ref}

/-! ## Putting in rows -/

/-- The stage when rows of some more entities were put in. -/
def Stage.entered (x : Stage) (rs : List Ref) : Stage :=
  { x with housed := fun q => x.housed q ∨ q ∈ rs, current := fun q => x.current q ∨ q ∈ rs }

theorem Stage.entered_nil (x : Stage) : x.entered [] = x := by
  simp [Stage.entered]

theorem Stage.entered_entered (x : Stage) (rs rs' : List Ref) :
    (x.entered rs).entered rs' = x.entered (rs ++ rs') := by
  simp [Stage.entered, or_assoc]

/-- The row of an entity was put in, and the entity takes over what was filled in. -/
theorem Filing.put (h : s.Filing x c) (he : s.PostAt r e) (unkeyed : e.key? = none)
    (pending : e.isPending = true) (busy : x.busy r) (homeless : ¬x.housed r) (behind : x.behind r)
    (filled : e.FilledBy y) (row : y.row .post = .ok (.post p))
    (free : ∀ q ∈ s.tables.posts, q.id ≠ p.id) {store : Store}
    (posts : store.tables.posts = s.tables.posts ++ [p])
    (documents : store.tables.documents = s.tables.documents) :
    (({ s with store := store } : Session).modifyEntity r (·.noted y)).Filing (x.entered [r]) c := by
  have record := h.records r e he
  obtain ⟨hid, bears⟩ := filled.houses record he.2 unkeyed row
  -- The entities of posts are as they were, but for the one whose row was put in.
  have own : (({ s with store := store } : Session).modifyEntity r (·.noted y)).PostAt r (e.noted y) :=
    ⟨entity?_modifyEntity_self he.1, he.2⟩
  have kept : ∀ {q f}, q ≠ r → s.PostAt q f →
      (({ s with store := store } : Session).modifyEntity r (·.noted y)).PostAt q f := by
    rintro q f other ⟨hf, post⟩
    exact ⟨by rw [entity?_modifyEntity, if_neg other.symm]; exact hf, post⟩
  have origin : ∀ {q f}, (({ s with store := store } : Session).modifyEntity r (·.noted y)).PostAt q f →
      q = r ∧ f = e.noted y ∨ q ≠ r ∧ s.PostAt q f := by
    rintro q f hf
    by_cases same : q = r
    · subst same
      exact .inl ⟨rfl, hf.eq own⟩
    · refine .inr ⟨same, ?_⟩
      rw [PostAt, entity?_modifyEntity, if_neg (Ne.symm same)] at hf
      exact hf
  have keyless : (e.noted y).key? = none := unkeyed
  have free' : ∀ {id}, ¬(e.noted y).Holds id := by
    rintro id ⟨hkey, -⟩
    rw [keyless] at hkey
    cases hkey
  -- No other entity has a row with the identifier of the new one.
  have apart : ∀ {q f id}, s.PostAt q f → x.housed q → f.rowId? = some id → id ≠ p.id := by
    intro q f id hf housed hid same
    obtain ⟨v, hv, hid', -⟩ := h.home q f hf housed
    exact free v hv (Option.some.inj ((hid'.symm.trans hid).trans (congrArg some same)))
  have there : ∀ v ∈ s.tables.posts, v ∈ store.tables.posts := fun v hv =>
    posts ▸ List.mem_append_left _ hv
  refine ⟨⟨h.committed, h.ids, ?_, ?_, ?_⟩, h.whole, ?_, ?_, ?_, ?_, ?_, ?_, ?_, ?_, ?_, ?_⟩
  · intro q f hf
    rcases origin hf with ⟨rfl, rfl⟩ | ⟨-, hf⟩
    · exact filled.isRecord record he.2 unkeyed
    · exact h.records q f hf
  · intro q f id hf holds
    rcases origin hf with ⟨rfl, rfl⟩ | ⟨-, hf⟩
    · exact absurd holds free'
    · exact h.stored q f id hf holds
  · intro q t f g id hf hg holds holds'
    rcases origin hf with ⟨rfl, rfl⟩ | ⟨-, hf⟩
    · exact absurd holds free'
    · rcases origin hg with ⟨rfl, rfl⟩ | ⟨-, hg⟩
      · exact absurd holds' free'
      · exact h.alone q t f g id hf hg holds holds'
  · -- distinct
    show (store.tables.posts.map (·.id)).Nodup
    rw [posts, List.map_append, List.nodup_append]
    refine ⟨h.distinct, List.nodup_singleton _, fun id hid id' hid' same => ?_⟩
    obtain ⟨v, hv, rfl⟩ := List.mem_map.mp hid
    exact free v hv (same.trans (List.mem_singleton.mp hid'))
  · -- home
    intro q f hf housed
    rcases origin hf with ⟨rfl, rfl⟩ | ⟨other, hf⟩
    · refine ⟨p, posts ▸ List.mem_append_right _ List.mem_cons_self, hid, fun _ => bears, fun keyed => ?_⟩
      rw [keyless] at keyed
      cases keyed
    · have housed := housed.resolve_right fun mem => other (List.mem_singleton.mp mem)
      obtain ⟨v, hv, hid', current, follows⟩ := h.home q f hf housed
      exact ⟨v, there v hv, hid', fun reached => current (reached.resolve_right fun mem =>
        other (List.mem_singleton.mp mem)), follows⟩
  · -- standing
    intro q f hf housed
    rcases origin hf with ⟨rfl, rfl⟩ | ⟨other, hf⟩
    · refine ⟨fun keyed => ?_, fun _ => pending⟩
      rw [keyless] at keyed
      cases keyed
    · exact h.standing q f hf (housed.resolve_right fun mem => other (List.mem_singleton.mp mem))
  · -- single
    intro q t f g id hf hg housed housed' hidf hidg
    rcases origin hf with ⟨rfl, rfl⟩ | ⟨other, hf₀⟩ <;> rcases origin hg with ⟨rfl, rfl⟩ | ⟨other', hg₀⟩
    · rfl
    · have housed' := housed'.resolve_right fun mem => other' (List.mem_singleton.mp mem)
      exact absurd (Option.some.inj (hidf.symm.trans hid)) (apart hg₀ housed' hidg)
    · have housed := housed.resolve_right fun mem => other (List.mem_singleton.mp mem)
      exact absurd (Option.some.inj (hidg.symm.trans hid)) (apart hf₀ housed hidf)
    · exact h.single q t f g id hf₀ hg₀ (housed.resolve_right fun mem => other (List.mem_singleton.mp mem))
        (housed'.resolve_right fun mem => other' (List.mem_singleton.mp mem)) hidf hidg
  · -- spare
    intro v hv
    rcases List.mem_append.mp (posts ▸ hv : v ∈ s.tables.posts ++ [p]) with hv | hv
    · refine (h.spare v hv).imp ?_ fun ⟨stored, unheld⟩ => ⟨stored, fun q f hf holds => ?_⟩
      · rintro ⟨q, f, hf, housed, hidf⟩
        have other : q ≠ r := fun same => homeless (same ▸ housed)
        exact ⟨q, f, kept other hf, .inl housed, hidf⟩
      · rcases origin hf with ⟨rfl, rfl⟩ | ⟨-, hf⟩
        · exact free' holds
        · exact unheld q f hf holds
    · obtain rfl := List.mem_singleton.mp hv
      exact .inl ⟨r, _, own, .inr List.mem_cons_self, hid⟩
  · -- named
    intro q
    refine (h.named q).trans ⟨fun ⟨f, hf⟩ => ?_, fun ⟨f, hf⟩ => ?_⟩
    · by_cases same : q = r
      · subst same
        exact ⟨_, own⟩
      · exact ⟨f, kept same hf⟩
    · rcases origin hf with ⟨rfl, -⟩ | ⟨-, hf⟩
      · exact ⟨e, he⟩
      · exact ⟨f, hf⟩
  · -- mapped
    intro q f hf mapped
    rcases origin hf with ⟨rfl, rfl⟩ | ⟨-, hf⟩
    · exact (h.mapped q e he mapped).imp_left .inl
    · exact (h.mapped q f hf mapped).imp_left .inl
  · -- idle
    intro q f hf away stays
    rcases origin hf with ⟨rfl, rfl⟩ | ⟨other, hf⟩
    · exact absurd busy away
    · obtain ⟨waits, housed, unset⟩ := h.idle q f hf away stays
      exact ⟨waits, fun entered => housed (entered.resolve_right fun mem =>
        other (List.mem_singleton.mp mem)), unset⟩
  · -- leaving
    intro q f hf leaves
    rcases origin hf with ⟨rfl, rfl⟩ | ⟨-, hf⟩
    · have keyed := (h.leaving q e he leaves).1
      rw [unkeyed] at keyed
      cases keyed
    · exact h.leaving q f hf leaves
  · -- indexed
    refine h.indexed.of_documents documents fun id upToDate => ⟨?_, ?_⟩
    · rintro ⟨q, f, hf, late, hidf⟩
      by_cases same : q = r
      · subst same
        obtain rfl := hf.eq he
        exact upToDate ⟨q, _, own, late, filled.rowId?_noted record unkeyed hidf⟩
      · exact upToDate ⟨q, f, kept same hf, late, hidf⟩
    · have other : p.id ≠ id := fun same => upToDate ⟨r, _, own, behind, same ▸ hid⟩
      show store.tables.posts.find? _ = _
      rw [posts, List.find?_append, List.find?_singleton, if_neg (by simpa using other), Option.or_none]
      rfl

namespace Work

/-- Rows of posts were put in one after the other. -/
def Entered : List Addition → Store → Store → Prop
  | [], store, store' => store' = store
  | y :: ys, store, store' => ∃ p, y.row .post = .ok (.post p) ∧
      (∀ q ∈ store.tables.posts, q.id ≠ p.id) ∧ Entered ys (store.change (·.addPostRow p)) store'

variable {ys : List Addition} {store store' : Store}

theorem entered_of_insertUnchecked (row : y.row .post = .ok (.post p))
    (h : store.insertUnchecked (.post p) = .ok store') : Entered [y] store store' := by
  unfold Store.insertUnchecked at h
  split at h
  · cases h
  · rename_i free
    refine ⟨p, row, fun q hq same => ?_, (Except.ok.inj h).symm⟩
    unfold Store.clash? at free
    dsimp only at free
    split at free
    · cases free
    · rename_i apart
      exact apart (List.any_eq_true.mpr ⟨q, List.mem_filter.mpr ⟨hq, rfl⟩, decide_eq_true same⟩)

theorem Entered.append {a b d : Store} {ys' : List Addition} (h : Entered ys a b)
    (h' : Entered ys' b d) : Entered (ys ++ ys') a d := by
  induction ys generalizing a with
  | nil =>
    obtain rfl : b = a := h
    exact h'
  | cons y ys ih =>
    obtain ⟨p, row, free, rest⟩ := h
    exact ⟨p, row, free, ih rest⟩

theorem entered_of_insertEach {done result : List Row × Store}
    (h : ys.foldlM (fun (done : List Row × Store) x => do
      let row ← x.row .post
      return (done.1 ++ [row], ← done.2.insertUnchecked row)) done = .ok result) :
    Entered ys done.2 result.2 := by
  induction ys generalizing done with
  | nil =>
    obtain rfl := Except.ok.inj h
    rfl
  | cons y ys ih =>
    rw [List.foldlM_cons] at h
    obtain ⟨next, hnext, h⟩ := bind_eq_ok.mp h
    obtain ⟨row, hrow, hnext⟩ := bind_eq_ok.mp hnext
    obtain ⟨store, hstore, hnext⟩ := bind_eq_ok.mp hnext
    obtain rfl := Except.ok.inj hnext
    obtain ⟨p, rfl, -⟩ := Row.post_of_ofCells hrow
    exact (entered_of_insertUnchecked hrow hstore).append (ih h)

/-- Rows that are put in at once. -/
theorem insert_post (whole : s.broken = false) (ys : List Addition) :
    Triple (· = s) (insert .post ys)
      (fun _ s' => ∃ store, Entered ys s.store store ∧ s' = { s with store := store })
      fun _ s' => s' = s := by
  refine Triple.bind (Triple.weaken (keeps_bindFrom (I := (· = s)) 1 _) (fun _ same => same)
    (fun _ _ h => h.1) fun _ _ h => h.1) fun _ => ?_
  refine Triple.storing (fun _ same => same ▸ whole) fun s' same => ?_
  subst same
  split
  · rename_i store stored
    obtain ⟨done, hdone, stored⟩ := bind_eq_ok.mp stored
    have same : done.2 = store := by
      dsimp only at stored
      split at stored
      · exact Except.ok.inj stored
      · cases stored
    exact ⟨store, same ▸ entered_of_insertEach hdone, rfl⟩
  · rfl

/-- Rows that are put in one by one. -/
theorem insertEach_post (whole : s.broken = false) (ys : List Addition) :
    Triple (· = s) (ys.forM fun y => insert .post [y])
      (fun _ s' => ∃ store, Entered ys s.store store ∧ s' = { s with store := store })
      fun _ s' => ∃ store, s' = { s with store := store } := by
  induction ys generalizing s with
  | nil => exact Triple.pure fun s' same => ⟨s.store, rfl, same⟩
  | cons y ys ih =>
    refine Triple.bind (Triple.weaken (insert_post whole [y]) (fun _ same => same) (fun _ _ h => h)
      fun _ s' same => ⟨s.store, same⟩) fun _ => ?_
    rintro s₁ ⟨store, entered, rfl⟩
    refine Triple.weaken (ih (s := { s with store := store }) whole) (fun _ h => h)
      (fun _ s' ⟨store', rest, same⟩ => ⟨store', entered.append rest, same⟩)
      (fun _ s' ⟨store', same⟩ => ⟨store', same⟩) _ rfl

/-- What is filled in for the entity of a post; an identifier is used up. -/
theorem fillIn_post (r : Ref) :
    Keeps (fun s' => ∃ counters, s' = { s with store := { s.store with counters := counters } })
      (fillIn now r) fun y => y.ref = r ∧ ∀ e, s.PostAt r e → e.FilledBy y := by
  refine Keeps.bind (Keeps.look (S := fun e => s.entity? r = some e) ?_) fun e he => ?_
  · rintro _ ⟨counters, rfl⟩ e he
    exact he
  · refine Keeps.bind Keeps.get fun s' hs' => ?_
    refine Keeps.readied (Keeps.set ?_) (Keeps.pure ⟨rfl, ?_⟩)
    · obtain ⟨counters, rfl⟩ := hs'
      exact ⟨_, rfl⟩
    · rintro e' ⟨he', post⟩
      obtain rfl := Option.some.inj (he.symm.trans he')
      have column : ∀ c ∈ Entity.indexedColumns, e.kind.columns.contains c = true := by
        rw [post]
        decide
      refine ⟨rfl, fun c hc given => ?_, fun mem => ⟨(s'.store.nextId e.kind).1, ?_⟩⟩
      · rw [Entity.lookup_map, if_pos (column c hc)]
        dsimp only at given ⊢
        rw [if_pos (by simpa using given)]
      · rw [Entity.lookup_map, if_pos (column .id (by decide))]
        dsimp only at mem ⊢
        rw [if_neg (by simpa using mem)]
        rfl

end Work

/-- Entities that take over what was filled in. -/
def notedAll (s : Session) (ys : List Work.Addition) : Session :=
  ys.foldl (fun s y => s.modifyEntity y.ref (·.noted y)) s

theorem entity?_notedAll {ys : List Work.Addition} (other : q ∉ ys.map Work.Addition.ref) :
    (s.notedAll ys).entity? q = s.entity? q := by
  induction ys generalizing s with
  | nil => rfl
  | cons y ys ih =>
    rw [List.map_cons, List.mem_cons, not_or] at other
    refine (ih other.2).trans ?_
    rw [entity?_modifyEntity, if_neg (Ne.symm other.1)]

/-- The entity of a post that has no row is to be put in. -/
def Arrives (s : Session) (r : Ref) : Prop :=
  ∃ e, s.PostAt r e ∧ e.key? = none ∧ e.isPending = true

/-- An entity is written that has no row. -/
def Stage.Waits (x : Stage) (r : Ref) : Prop := x.busy r ∧ ¬x.housed r ∧ x.behind r

/-- Rows were put in, and the entities take over what was filled in. -/
theorem Filing.enter {ys : List Work.Addition} {store : Store} (h : s.Filing x c)
    (entered : Work.Entered ys s.store store) (once : (ys.map Work.Addition.ref).Nodup)
    (arrive : ∀ y ∈ ys, s.Arrives y.ref ∧ x.Waits y.ref)
    (filled : ∀ y ∈ ys, ∀ e, s.PostAt y.ref e → e.FilledBy y) :
    (({ s with store := store } : Session).notedAll ys).Filing
      (x.entered (ys.map Work.Addition.ref)) c := by
  induction ys generalizing s x with
  | nil =>
    obtain rfl : store = s.store := entered
    rw [List.map_nil, Stage.entered_nil]
    exact h
  | cons y ys ih =>
    obtain ⟨p, row, free, rest⟩ := entered
    rw [List.map_cons, List.nodup_cons] at once
    obtain ⟨⟨e, he, unkeyed, pending⟩, busy, homeless, behind⟩ := arrive y List.mem_cons_self
    have put : (({ s with store := s.store.change (·.addPostRow p) } : Session).modifyEntity y.ref
        (·.noted y)).Filing (x.entered [y.ref]) c :=
      h.put he unkeyed pending busy homeless behind (filled y List.mem_cons_self e he) row free rfl rfl
    have other : ∀ z ∈ ys, z.ref ≠ y.ref := fun z hz same =>
      once.1 (same ▸ List.mem_map_of_mem hz)
    have kept : ∀ z ∈ ys, (({ s with store := s.store.change (·.addPostRow p) } : Session).modifyEntity
        y.ref (·.noted y)).entity? z.ref = s.entity? z.ref := by
      intro z hz
      rw [entity?_modifyEntity, if_neg (other z hz).symm]
      rfl
    have all := ih put rest once.2 (fun z hz => ?_) fun z hz f hf => ?_
    · rw [Stage.entered_entered] at all
      exact all
    · obtain ⟨⟨f, hf, standing⟩, busy', homeless', behind'⟩ := arrive z (List.mem_cons_of_mem y hz)
      refine ⟨⟨f, ⟨(kept z hz).trans hf.1, hf.2⟩, standing⟩, busy', ?_, behind'⟩
      rintro (housed | mem)
      · exact homeless' housed
      · exact other z hz (List.mem_singleton.mp mem)
    · exact filled z (List.mem_cons_of_mem y hz) f ⟨(kept z hz).symm.trans hf.1, hf.2⟩

namespace Work

theorem run_noted (ys : List Addition) :
    Triple (· = s) (ys.forM fun y => alter y.ref fun e =>
      { e with
        cells := y.cells.filter (fun z => y.filled.contains z.1) ++ without e.cells y.filled
        formerCells := without e.formerCells y.filled })
      (fun _ s' => s' = s.notedAll ys) fun _ _ => False := by
  induction ys generalizing s with
  | nil => exact Triple.pure fun _ same => same
  | cons y ys ih =>
    refine Triple.bind (Triple.modify fun s' same => ?_) fun _ => ih
    rw [same]
    rfl

/-- Rows of posts are put in together, and their entities take over what was filled in. -/
theorem placeAll_post {ys : List Addition} (h : s.Filing x c) (once : (ys.map Addition.ref).Nodup)
    (arrive : ∀ y ∈ ys, s.Arrives y.ref ∧ x.Waits y.ref)
    (filled : ∀ y ∈ ys, ∀ e, s.PostAt y.ref e → e.FilledBy y) :
    Triple (· = s) (do
      if ys.any fun y => y.filled.contains .id then insert .post ys else ys.forM fun y => insert .post [y]
      ys.forM fun y => alter y.ref fun e =>
        { e with
          cells := y.cells.filter (fun z => y.filled.contains z.1) ++ without e.cells y.filled
          formerCells := without e.formerCells y.filled })
      (fun _ s' => s'.Filing (x.entered (ys.map Addition.ref)) c ∧
        ∀ q, q ∉ ys.map Addition.ref → s'.entity? q = s.entity? q) fun _ => Recoverable c := by
  have taken : Triple (fun s' => ∃ store, Entered ys s.store store ∧ s' = { s with store := store })
      (ys.forM fun y => alter y.ref fun e =>
        { e with
          cells := y.cells.filter (fun z => y.filled.contains z.1) ++ without e.cells y.filled
          formerCells := without e.formerCells y.filled })
      (fun _ s' => s'.Filing (x.entered (ys.map Addition.ref)) c ∧
        ∀ q, q ∉ ys.map Addition.ref → s'.entity? q = s.entity? q) fun _ => Recoverable c := by
    rintro _ ⟨store, entered, rfl⟩
    refine Triple.weaken (run_noted ys) (fun _ h => h) (fun _ s' same => ?_) (fun _ _ h => h.elim) _ rfl
    subst same
    exact ⟨h.enter entered once arrive filled, fun q other => entity?_notedAll other⟩
  dsimp only
  split
  · exact Triple.bind (Triple.weaken (insert_post h.whole ys) (fun _ h => h) (fun _ _ h => h)
      fun _ _ same => same ▸ h.toRecoverable) fun _ => taken
  · refine Triple.bind (Triple.weaken (insertEach_post h.whole ys) (fun _ h => h) (fun _ _ h => h) ?_)
      fun _ => taken
    rintro - _ ⟨store, rfl⟩
    exact h.toRecoverable.of_entities rfl rfl

/-- Rows of posts that are put in together, with what is filled in. -/
theorem insertAll_post (h : s.Filing x c) (once : rs.Nodup)
    (arrive : ∀ r ∈ rs, s.Arrives r ∧ x.Waits r) :
    Triple (· = s) (insertAll now .post rs)
      (fun _ s' => s'.Filing (x.entered rs) c ∧ ∀ q, q ∉ rs → s'.entity? q = s.entity? q)
      fun _ => Recoverable c := by
  have failing : ∀ s' : Session,
      (∃ counters, s' = { s with store := { s.store with counters := counters } }) →
        s'.Recoverable c := by
    rintro _ ⟨counters, rfl⟩
    exact h.toRecoverable.of_entities rfl rfl
  refine Triple.bind (Triple.weaken (Keeps.mapM_forall₂ fun r _ => fillIn_post r)
    (fun s' same => ⟨s.store.counters, same⟩) (fun _ _ h => h)
    fun err s' h => failing s' h.1) fun ys => ?_
  rintro s' ⟨used, each⟩
  have refs : ys.map Addition.ref = rs := by
    clear once arrive
    induction each with
    | nil => rfl
    | cons first _ ih => rw [List.map_cons, first.1, ih]
  have filled : ∀ y ∈ ys, ∀ e, s.PostAt y.ref e → e.FilledBy y := by
    clear refs once arrive
    induction each with
    | nil => exact fun y hy => by cases hy
    | cons first _ ih => exact List.forall_mem_cons.mpr ⟨first.1 ▸ first.2, ih⟩
  subst refs
  obtain ⟨counters, rfl⟩ := used
  refine Triple.bind (Triple.weaken (Keeps.forM fun y _ => keeps_fitting y.cells) (fun _ same => same)
    (fun _ _ h => h.1) fun _ s' same => failing s' ⟨counters, same.1⟩) (fun _ => ?_) _ rfl
  exact placeAll_post (h.apart (apart_of_entities rfl rfl rfl rfl rfl)) once
    (fun y hy => arrive y.ref (List.mem_map_of_mem hy)) filled

/-- Rows of posts that are put in, those together of which the same columns are given. -/
theorem insertGroups_post {groups : List (List Ref)} (h : s.Filing x c) (once : groups.flatten.Nodup)
    (arrive : ∀ r ∈ groups.flatten, s.Arrives r ∧ x.Waits r) :
    Triple (· = s) (groups.forM (insertAll now .post))
      (fun _ s' => s'.Filing (x.entered groups.flatten) c) fun _ => Recoverable c := by
  induction groups generalizing s x with
  | nil =>
    rw [List.flatten_nil, Stage.entered_nil]
    exact Triple.pure fun _ same => same ▸ h
  | cons rs groups ih =>
    rw [List.flatten_cons] at once arrive ⊢
    obtain ⟨once, rest, apart⟩ := List.nodup_append.mp once
    refine Triple.bind (insertAll_post h once fun r hr => arrive r (List.mem_append_left _ hr)) fun _ => ?_
    rintro s' ⟨h', kept⟩
    refine Triple.weaken (ih h' rest fun r hr => ?_) (fun _ same => same) (fun _ _ done => ?_)
      (fun _ _ h => h) s' rfl
    · obtain ⟨⟨e, he, standing⟩, busy, homeless, behind⟩ := arrive r (List.mem_append_right _ hr)
      have away : r ∉ rs := fun mem => apart r mem r hr rfl
      exact ⟨⟨e, ⟨(kept r away).trans he.1, he.2⟩, standing⟩, busy,
        fun housed => housed.elim homeless away, behind⟩
    · rwa [Stage.entered_entered] at done

end Work

end Session

end Weblog
