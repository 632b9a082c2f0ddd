/-
  Planning to take out one row, where nothing else is to be written.

  The plan is about the entity of that row and about the relations of its kind, each of which is
  looked at. Where the relation is one of links, its members are read, and it takes part if there
  are any (`Plan.Removes`).
-/
import Weblog.Proofs.Session.Planning
import Weblog.Proofs.Session.Recall

namespace Weblog.Session

variable {s s' s₀ : Session} {r : Ref} {e : Entity} {row : Row} {rel : Relation} {p : Plan}
  {x : Strand} {going : List Ref} {left : List (Kind × Relation)} {E : Error → Session → Prop}

/-! ## An entity that is to go -/

/-- The row of an entity is to be taken out of a session that is at rest otherwise. -/
structure Removing (s : Session) (row : Row) (r : Ref) : Prop where
  rest : s.AtRest [r]
  stored : s.StoredAs row r
  doomed : ∀ e, s.entity? r = some e → e.isDoomed = true

/-! ## The plan at first -/

theorem refs_eq_singleton {q : Entity → Bool} (he : s.entity? r = some e) (picked : q e = true)
    (only : ∀ r' e', s.entity? r' = some e' → q e' = true → r' = r) : s.refs q = [r] := by
  have picks : s.refs q = (List.range s.entities.length).filter (· == r) := by
    refine List.filter_congr fun r' hr' => ?_
    have he' := List.getElem?_eq_getElem (List.mem_range.mp hr')
    rw [entity?, he', Option.any_some, Bool.eq_iff_iff, beq_iff_eq]
    refine ⟨only r' _ he', ?_⟩
    rintro rfl
    exact Option.some.inj (he.symm.trans he') ▸ picked
  have bound : r ∈ List.range s.entities.length :=
    List.mem_range.mpr (List.getElem?_eq_some_iff.mp he).1
  rw [picks, List.filter_beq, List.count_eq_one_of_mem List.nodup_range bound]
  rfl

/-- Nothing is to be put in or changed. -/
theorem AtRest.pending_dirty (h : s.AtRest going) : s.pending ++ s.dirty = [] := by
  rw [pending, refs_eq_nil fun q e he => (h.unwritten q e he).1, List.mergeSort_nil, List.nil_append]
  refine refs_eq_nil fun q e he => Bool.eq_false_iff.mpr fun dirty => ?_
  simp only [Entity.isDirty, Bool.and_eq_true] at dirty
  rw [(h.mirrors q e he dirty.1.1).untouched] at dirty
  cases dirty.1.2

namespace Plan

/-- Where only one entity has a role, no other is had under any. -/
theorem having_of_roles {k : Kind} {role : Role} (h : p.roles = [(r, k, role)]) (k' : Kind)
    (role' : Role) : p.having k' role' = if k' = k ∧ role' = role then [r] else [] := by
  rw [having, h]
  by_cases here : k' = k ∧ role' = role
  · obtain ⟨rfl, rfl⟩ := here
    simp
  · have other : ¬(k = k' ∧ role = role') := fun same => here ⟨same.1.symm, same.2.symm⟩
    simp [here, other]

/-- A plan to take out one row. What it was looked at for is known, but for what is left. -/
structure Removes (row : Row) (r : Ref) (left : List (Kind × Relation)) (p : Plan) (s : Session) :
    Prop where
  roles : p.roles = [(r, row.kind, ⟨true, false⟩)]
  kinds : p.kinds = [row.kind]
  strands : p.strands.map (fun x => (x.kind, x.rel)) =
    row.kind.relations.map fun rel => (row.kind, rel)
  seen : ∀ x ∈ p.strands, (x.kind, x.rel) ∈ left ∨ r ∈ x.seen
  linked : ∀ x ∈ p.strands, isLinking x.kind x.rel = true → r ∈ x.seen →
    s.KnowsMembers r x.rel ∧
      (x.takesPart = false → s.tables.related row.kind row.id x.rel = [])

/-- The relations that take part. -/
def taking (p : Plan) : List Relation := (p.strands.filter Strand.takesPart).map Strand.rel

/-- Where nothing is to be written and one row is to go, that is what is planned for. -/
theorem removes_initial (h : s.Removing row r) :
    (initial s).Removes row r ((initial s).strands.map fun x => (x.kind, x.rel)) s := by
  obtain ⟨e, he, mapped, hrow⟩ := h.stored
  have doomed : s.doomed = [r] :=
    refs_eq_singleton he (h.doomed e he) fun q e he doomed =>
      List.mem_singleton.mp ((h.rest.unwritten q e he).2 doomed)
  have contained : e.isContained = true := Bool.or_eq_true_iff.mpr (.inr mapped)
  have outset : initial s = ⟨[(r, row.kind, ⟨true, false⟩)], [row.kind],
      row.kind.relations.map fun rel => ⟨row.kind, rel, [], false⟩⟩ := by
    rw [initial, h.rest.pending_dirty, doomed, ← h.stored.kind he]
    simp [register, he, contained, role?, addKind, empty]
  rw [outset]
  refine ⟨rfl, rfl, ?_, fun x hx => .inl (List.mem_map_of_mem hx), fun x hx _ seen => ?_⟩
  · rw [List.map_map]
    rfl
  · obtain ⟨rel, -, rfl⟩ := List.mem_map.mp hx
    cases seen

/-- A kind has one relation of links at most. -/
theorem linking_relations (k : Kind) : k.relations.filter (isLinking k) = [] ∨
    ∃ rel, k.relations.filter (isLinking k) = [rel] := by
  cases k with
  | post => exact .inr ⟨.tags, rfl⟩
  | tag => exact .inr ⟨.posts, rfl⟩
  | _ => exact .inl rfl

namespace Removes

theorem of_mem (h : p.Removes row r left s) (hx : x ∈ p.strands) :
    x.kind = row.kind ∧ x.rel ∈ row.kind.relations := by
  have mem := List.mem_map_of_mem (f := fun x : Strand => (x.kind, x.rel)) hx
  rw [h.strands] at mem
  obtain ⟨rel, hrel, same⟩ := List.mem_map.mp mem
  obtain ⟨kind, rfl⟩ := Prod.mk.inj same
  exact ⟨kind.symm, hrel⟩

/-- The relations that take part are relations of the kind. -/
theorem relations (h : p.Removes row r left s) :
    (p.strands.filter Strand.takesPart).map (fun x => (x.kind, x.rel)) =
        p.taking.map (fun rel => (row.kind, rel)) ∧ p.taking.Sublist row.kind.relations := by
  constructor
  · rw [taking, List.map_map]
    refine List.map_congr_left fun x hx => ?_
    rw [(h.of_mem (List.mem_filter.mp hx).1).1]
    rfl
  · have all : p.strands.map Strand.rel = row.kind.relations := by
      have both := congrArg (List.map Prod.snd) h.strands
      rw [List.map_map, List.map_map] at both
      exact both.trans (List.map_id _)
    rw [← all]
    exact List.filter_sublist.map _

/-- A relation of links that takes no part leads nowhere. -/
theorem related_eq_nil (h : p.Removes row r [] s) (hrel : rel ∈ row.kind.relations)
    (linking : isLinking row.kind rel = true)
    (idle : rel ∉ p.taking) :
    s.tables.related row.kind row.id rel = [] := by
  have mem := List.mem_map_of_mem (f := fun rel => (row.kind, rel)) hrel
  rw [← h.strands] at mem
  obtain ⟨x, hx, same⟩ := List.mem_map.mp mem
  obtain ⟨kind, rfl⟩ := Prod.mk.inj same
  refine (h.linked x hx (kind ▸ linking) ((h.seen x hx).resolve_left List.not_mem_nil)).2 ?_
  refine Bool.eq_false_iff.mpr fun part => idle ?_
  exact List.mem_map_of_mem (List.mem_filter.mpr ⟨hx, part⟩)

/-- Where no relation of links takes part, no link joins the row to another one. -/
theorem not_joined (h : p.Removes row r [] s) (stored : s.StoredAs row r)
    (none : p.taking.filter (isLinking row.kind) = []) {l : Link} (hl : l ∈ s.tables.links) :
    ¬(row.isLinked l && s.tables.joins l) = true := by
  intro joined
  by_cases unlinked : ∀ rel ∈ row.kind.relations, isLinking row.kind rel = false
  · rw [Tables.isLinked_eq_false row l unlinked] at joined
    cases joined
  · simp only [not_forall, Bool.not_eq_false] at unlinked
    obtain ⟨rel, hrel, linking⟩ := unlinked
    have mem := (Tables.mem_links_related stored.mem hrel linking).mpr ⟨hl, joined⟩
    rw [h.related_eq_nil hrel linking fun part =>
      List.filter_eq_nil_iff.mp none rel part linking] at mem
    cases mem

/-- No second relation of links takes part. -/
theorem linking_alone (h : p.Removes row r left s) {rels : List Relation}
    (some : p.taking.filter (isLinking row.kind) = rel :: rels) : rels = [] := by
  have few := h.relations.2.filter (isLinking row.kind)
  rw [some] at few
  rcases linking_relations row.kind with none | ⟨rel', one⟩
  · rw [none] at few
    cases few
  · rw [one, List.sublist_singleton] at few
    rcases few with none | one
    · cases none
    · exact (List.cons.inj one).2

/-- The members of a relation of links that takes part are known. -/
theorem knows_members (h : p.Removes row r [] s) (part : rel ∈ p.taking)
    (linking : isLinking row.kind rel = true) : s.KnowsMembers r rel := by
  obtain ⟨x, hx, rfl⟩ := List.mem_map.mp part
  have hx := (List.mem_filter.mp hx).1
  exact (h.linked x hx ((h.of_mem hx).1 ▸ linking)
    ((h.seen x hx).resolve_left List.not_mem_nil)).1

end Removes

/-! ## Looking at relations -/

variable (x) in
/-- Nothing is planned for besides. Links are read. -/
theorem reading_lookAtGoing (h : s₀.StoredAs row r) :
    Work.Triple (Reading going s₀) (lookAtGoing x p r) (fun p' s => p' = p ∧ Reading going s₀ s ∧
      (isLinking x.kind x.rel = true → s.KnowsMembers r x.rel)) E := by
  unfold lookAtGoing
  split
  · rename_i owning
    have other : isLinking x.kind x.rel = true → False := by
      rw [isOwning, Bool.and_eq_true, Bool.not_eq_true'] at owning
      rw [isLinking, owning.2, Bool.and_false]
      exact Bool.false_ne_true
    refine Work.reading_look (.of_stored h) fun s e hs he => ?_
    refine Work.Triple.bind (Q := fun _ s' => s' = s) (Work.Triple.get fun _ h => h) fun s' => ?_
    refine Work.Triple.pure fun s'' same => ⟨?_, same ▸ hs, fun linking => (other linking).elim⟩
    -- Nobody left the members that were read.
    rcases hs.leads r e he ((hs.stored h).mapped he) x.rel with unread | ⟨_, ms, _, read, _⟩
    · rw [unread]
      rfl
    · rw [Entity.memberShift, read]
      rfl
  · rename_i owning
    split
    · exact Work.Triple.bind (Work.reading_formerMembers (.of_stored h) x.rel) fun _ =>
        Work.Triple.pure fun s hs => ⟨rfl, hs.1, fun _ => hs.2⟩
    · rename_i linking
      exact Work.Triple.pure fun s hs => ⟨rfl, hs, fun linked => absurd linked linking⟩

/-- Where links were read, whether there is anything in a relation tells whether there are any. -/
theorem reading_hasGoing (h : s₀.StoredAs row r) (hrel : x.rel ∈ row.kind.relations)
    (known : isLinking x.kind x.rel = true → s₀.KnowsMembers r x.rel) :
    Work.Triple (Reading going s₀) (hasGoing x r) (fun has s => Reading going s₀ s ∧
      (isLinking x.kind x.rel = true → has = false →
        s₀.tables.related row.kind row.id x.rel = [])) E := by
  obtain ⟨e₀, he₀, mapped, hrow⟩ := h
  have stored : s₀.StoredAs row r := ⟨e₀, he₀, mapped, hrow⟩
  refine Work.Triple.readied (fun _ => Work.reading_lookUpOwner (.of_stored stored) he₀
    fun c hc => ?_) (fun _ hs => hs) ?_
  · rw [stored.kind he₀]
    revert hrel hc
    generalize x.rel = rel
    cases row.kind <;> cases rel <;> cases c <;> decide
  · refine Work.reading_look (.of_stored stored) fun s e hs he => ?_
    by_cases linking : isLinking x.kind x.rel = true
    · obtain ⟨ms, read, related⟩ := hs.members_of_known (hs.stored stored)
        ((known linking).later stored hs) he
      have many : x.rel.isMany = true := (Bool.and_eq_true_iff.mp linking).1
      rw [many, read]
      refine Work.Triple.pure fun s' same => same ▸ ⟨hs, fun _ none => ?_⟩
      rw [Entity.isEngaged, Entity.shift, many, if_pos rfl, Entity.memberShift, read,
        Bool.or_eq_false_iff] at none
      obtain rfl : ms = [] := by
        cases ms with
        | nil => rfl
        | cons m ms => cases none.2
      rw [← hs.tables_eq]
      exact List.forall₂_nil_right_iff.mp related
    · split <;> exact Work.Triple.pure fun s' same => same ▸ ⟨hs, fun linked => absurd linked linking⟩

/-- The entities for which a relation was not looked at: the one that is to go, or none. -/
def unlooked (x : Strand) (r : Ref) : List Ref := if r ∈ x.seen then [] else [r]

theorem mem_seen_unlooked (x : Strand) (r : Ref) : r ∈ x.seen ++ unlooked x r := by
  unfold unlooked
  split
  · exact List.mem_append_left _ ‹_›
  · exact List.mem_append_right _ (List.mem_singleton_self r)

theorem Removes.unseen_eq (h : p.Removes row r left s) (hx : x ∈ p.strands) :
    p.unseen x ⟨true, false⟩ = unlooked x r ∧ p.unseen x ⟨false, false⟩ = [] := by
  have kind := (h.of_mem hx).1
  rw [unseen, unseen, having_of_roles h.roles, having_of_roles h.roles, if_pos ⟨kind, rfl⟩,
    if_neg (by simp)]
  refine ⟨?_, rfl⟩
  unfold unlooked
  split <;> simp [*]

theorem reading_lookAtUnlooked (h : s₀.StoredAs row r)
    (known : isLinking x.kind x.rel = true → r ∈ x.seen → s₀.KnowsMembers r x.rel) :
    Work.Triple (Reading going s₀) ((unlooked x r).foldlM (lookAtGoing x) p)
      (fun p' s => p' = p ∧ Reading going s₀ s ∧
        (isLinking x.kind x.rel = true → s.KnowsMembers r x.rel)) E := by
  unfold unlooked
  split
  · rename_i seen
    exact Work.Triple.pure fun s hs => ⟨rfl, hs, fun linking => (known linking seen).later h hs⟩
  · rw [List.foldlM_cons]
    exact Work.Triple.bind (reading_lookAtGoing x h) fun p' => Work.Triple.pure fun _ h => h

theorem reading_takesPart (h : s₀.StoredAs row r) (hrel : x.rel ∈ row.kind.relations)
    (known : isLinking x.kind x.rel = true → s₀.KnowsMembers r x.rel) :
    Work.Triple (Reading going s₀) (p.takesPart x (unlooked x r) []) (fun takes s =>
      Reading going s₀ s ∧ (isLinking x.kind x.rel = true → takes = false →
        x.takesPart = false ∧ (r ∈ x.seen ∨
          s₀.tables.related row.kind row.id x.rel = []))) E := by
  have taking : ∀ s, Reading going s₀ s → Reading going s₀ s ∧ (isLinking x.kind x.rel = true →
      true = false → x.takesPart = false ∧ (r ∈ x.seen ∨
        s₀.tables.related row.kind row.id x.rel = [])) :=
    fun s hs => ⟨hs, fun _ none => by cases none⟩
  unfold takesPart
  split
  · exact Work.Triple.pure taking
  · rename_i part
    rw [Bool.not_eq_true] at part
    refine Work.Triple.bind (Q := fun has s => Reading going s₀ s ∧
      (isLinking x.kind x.rel = true → has = false → r ∈ x.seen ∨
        s₀.tables.related row.kind row.id x.rel = [])) ?_ fun has => ?_
    · unfold unlooked
      split
      · rename_i seen
        exact Work.Triple.pure fun s hs => ⟨hs, fun _ _ => .inl seen⟩
      · refine Work.Triple.bind (reading_hasGoing h hrel known) fun has => ?_
        cases has with
        | true => exact Work.Triple.pure fun s hs => ⟨hs.1, fun _ none => by cases none⟩
        | false => exact Work.Triple.pure fun s hs => ⟨hs.1, fun linking _ => .inr (hs.2 linking rfl)⟩
    · cases has with
      | true => exact Work.Triple.pure fun s hs => taking s hs.1
      | false =>
        rw [if_neg Bool.false_ne_true]
        split
        · exact Work.Triple.pure fun s hs => taking s hs.1
        · exact Work.Triple.pure fun s hs => ⟨hs.1, fun linking _ => ⟨part, hs.2 linking rfl⟩⟩

/-- A plan in which a relation was looked at. -/
theorem Removes.looked {at? : Kind × Relation} {takes : Bool}
    (h : p.Removes row r (at? :: left) s) (stored : s.StoredAs row r) (hx : x ∈ p.strands)
    (here : (x.kind, x.rel) = at?) (hs : Reading going s s')
    (known : isLinking x.kind x.rel = true → s'.KnowsMembers r x.rel)
    (none : isLinking x.kind x.rel = true → takes = false → x.takesPart = false ∧
      (r ∈ x.seen ∨ s.tables.related row.kind row.id x.rel = [])) :
    ({ p with strands := p.strands.map fun z => if z.kind = x.kind && z.rel = x.rel then
      { x with seen := x.seen ++ unlooked x r ++ [], takesPart := takes } else z } : Plan).Removes
      row r left s' where
  roles := h.roles
  kinds := h.kinds
  strands := by
    rw [List.map_map, ← h.strands]
    refine List.map_congr_left fun z _ => ?_
    simp only [Function.comp_apply, Bool.and_eq_true, decide_eq_true_eq]
    split
    · rename_i same
      rw [same.1, same.2]
    · rfl
  seen := by
    intro z' hz'
    obtain ⟨z, hz, rfl⟩ := List.mem_map.mp hz'
    simp only [Bool.and_eq_true, decide_eq_true_eq]
    split
    · exact .inr (List.mem_append_left _ (mem_seen_unlooked x r))
    · rename_i other
      refine (h.seen z hz).imp_left fun mem => (List.mem_cons.mp mem).resolve_left ?_
      rintro same
      exact other (Prod.mk.inj (same.trans here.symm))
  linked := by
    intro z' hz'
    obtain ⟨z, hz, rfl⟩ := List.mem_map.mp hz'
    simp only [Bool.and_eq_true, decide_eq_true_eq]
    rw [hs.tables_eq]
    split
    · refine fun linking _ => ⟨known linking, fun idle => ?_⟩
      obtain ⟨before, seen | empty⟩ := none linking idle
      · exact (h.linked x hx linking seen).2 before
      · exact empty
    · intro linking seen
      obtain ⟨known, none⟩ := h.linked z hz linking seen
      exact ⟨known.later stored hs, none⟩

/-- Looking at a relation. -/
theorem lookAt_removes {done : Plan × Bool} (at? : Kind × Relation) (h : s₀.StoredAs row r) :
    Work.Triple (fun s => Reading going s₀ s ∧ done.1.Removes row r (at? :: left) s)
      (lookAt done at?) (fun done s => Reading going s₀ s ∧ done.1.Removes row r left s) E := by
  rintro s ⟨hs, hp⟩
  obtain ⟨p, any⟩ := done
  unfold lookAt
  dsimp only at hp ⊢
  split
  · rename_i absent
    refine Work.Triple.pure (P := (· = s)) (fun s' same => same ▸ ⟨hs, hp.roles, hp.kinds,
      hp.strands, fun x hx => (hp.seen x hx).imp_left fun mem => ?_, hp.linked⟩) s rfl
    refine (List.mem_cons.mp mem).resolve_left fun here => ?_
    have other := List.find?_eq_none.mp absent x hx
    rw [← here] at other
    simp at other
  · rename_i x found
    have hx := List.mem_of_find?_eq_some found
    have here : (x.kind, x.rel) = at? := by
      have found := List.find?_some found
      simp only [Bool.and_eq_true, decide_eq_true_eq] at found
      exact Prod.ext found.1 found.2
    have stored := hs.stored h
    obtain ⟨unlooked, staying⟩ := hp.unseen_eq hx
    rw [unlooked, staying]
    refine Work.Triple.weaken (P := Reading going s) (E := E) ?_ (fun _ h => h) (fun _ _ h => h)
      (fun _ _ h => h) s (.refl hs.toAtRest)
    refine Work.Triple.bind (reading_lookAtUnlooked stored fun linking seen =>
      (hp.linked x hx linking seen).1) fun p' => Work.Triple.of_known fun same => ?_
    subst same
    refine Work.Triple.bind (Q := fun q s' => q = p' ∧ Reading going s s' ∧
      (isLinking x.kind x.rel = true → s'.KnowsMembers r x.rel))
      (Work.Triple.pure fun s' h => ⟨rfl, h⟩) fun q => Work.Triple.of_known fun same => ?_
    subst same
    rintro s₁ ⟨hs₁, known⟩
    refine Work.Triple.bind (Work.Triple.weaken (reading_takesPart (hs₁.stored stored)
      (hp.of_mem hx).2 known) (fun _ h => .of_eq hs₁.toAtRest h) (fun _ _ h => h) fun _ _ h => h)
      (fun takes => Work.Triple.pure fun s' h => ?_) s₁ rfl
    refine ⟨hs.trans (hs₁.trans h.1), hp.looked stored hx here (hs₁.trans h.1)
      (fun linking => (known linking).later (hs₁.stored stored) h.1) ?_⟩
    rw [← hs₁.tables_eq]
    exact h.2

/-- Looking at relations, each of which is looked at. -/
theorem lookAtAll_removes (ats : List (Kind × Relation)) (done : Plan × Bool)
    (h : s₀.StoredAs row r) :
    Work.Triple (fun s => Reading going s₀ s ∧ done.1.Removes row r ats s)
      (ats.foldlM lookAt done)
      (fun done s => Reading going s₀ s ∧ done.1.Removes row r [] s) E := by
  induction ats generalizing done with
  | nil => exact Work.Triple.pure fun _ h => h
  | cons at? ats ih =>
    rw [List.foldlM_cons]
    exact Work.Triple.bind (lookAt_removes at? h) ih

theorem Removes.weaken (h : p.Removes row r [] s) (left : List (Kind × Relation)) :
    p.Removes row r left s :=
  ⟨h.roles, h.kinds, h.strands, fun x hx => .inr ((h.seen x hx).resolve_left List.not_mem_nil),
    h.linked⟩

/-- A complete plan to take out one row. -/
theorem complete_removes (n : Nat) (h : s₀.StoredAs row r) :
    Work.Triple (fun s => Reading going s₀ s ∧
        p.Removes row r (p.strands.map fun x => (x.kind, x.rel)) s)
      (complete (n + 1) p) (fun p s => Reading going s₀ s ∧ p.Removes row r [] s) E := by
  induction n generalizing p with
  | zero =>
    refine Work.Triple.bind (lookAtAll_removes _ (p, false) h) fun ⟨p', any⟩ => ?_
    cases any <;> exact Work.Triple.pure fun _ h => h
  | succ n ih =>
    refine Work.Triple.bind (lookAtAll_removes _ (p, false) h) fun ⟨p', any⟩ => ?_
    cases any with
    | true =>
      exact Work.Triple.weaken ih (fun _ h => ⟨h.1, h.2.weaken _⟩) (fun _ _ h => h) fun _ _ h => h
    | false => exact Work.Triple.pure fun _ h => h

end Plan

end Weblog.Session
