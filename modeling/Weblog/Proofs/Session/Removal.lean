/-
  Writing where one row is to be taken out and nothing else is to be written.

  What is read until then leaves the session at rest. Then the links that join the row to others are
  taken out, from the side of the row, and then the row with its document (`Work.run_carryOut`).
-/
import Weblog.Proofs.Session.Tasks

namespace Weblog

theorem Row.cell_id (row : Row) : row.cell .id = .text row.id := by
  cases row <;> rfl

/-- The ends of a link as they are written. -/
def Link.ends (l : Link) : Cell × Cell := (.text l.postId, .text l.tagId)

namespace Session

variable {s s₀ s₁ : Session} {q r : Ref} {row : Row} {rows : List Row} {rel : Relation}
  {going : List Ref} {ls : List Link} {p : Plan} {now : Instant} {E : Error → Session → Prop}

/-- A session after reading, in which links were taken out besides. If there were any, the
identifier of the row at their end was read. -/
def Unlinked (s₀ : Session) (row : Row) (r : Ref) (ls : List Link) (s : Session) : Prop :=
  ∃ s₁, Reading [r] s₀ s₁ ∧ (ls ≠ [] → s₁.HeldAs r .id (.text row.id)) ∧
    s = s₁.change (·.withoutLinks ls)

/-- A session after reading, in which a row was taken out besides. -/
def TakenOut (s₀ : Session) (row : Row) (r : Ref) (s : Session) : Prop :=
  ∃ s₁ t log, Reading [r] s₀ s₁ ∧ Tables.Cut s₀.store.enforces row s₀.tables t ∧
    s = { s₁ with store := { s₁.store with tables := t }, log := log }

/-- The row cannot be taken out, and what was committed is as it was. -/
def Stuck (s₀ : Session) (row : Row) (err : Error) (s : Session) : Prop :=
  s₀.store.mayRemove row = false ∧ err = .constraint .reference ∧ s.committed = s₀.tables

/-- A session in which an entity is lost sight of, and the others are left with their rows. -/
def parted (s : Session) (r : Ref) : Session :=
  (s.modifyEntity r fun e => { e with
      isMapped := false, isDoomed := false, isGone := true, wasRemoved := true }).mapEntities
    fun e => if e.isMapped && e.isTouched then e.settled else e

theorem TakenOut.before (h : TakenOut s₁ row r s) (hs : Reading [r] s₀ s₁) :
    TakenOut s₀ row r s := by
  obtain ⟨s', t, log, hs', cut, rfl⟩ := h
  rw [hs.store, hs.tables_eq] at cut
  exact ⟨s', t, log, hs.trans hs', cut, rfl⟩

theorem change_withoutLinks_nil (s : Session) : s.change (·.withoutLinks []) = s :=
  congrArg (fun t => { s with store := { s.store with tables := t } }) s.tables.withoutLinks_nil

namespace Work

/-! ## Links -/

theorem reading_id (h : s₀.StoredAs row q) :
    Triple (Reading going s₀) (value q .id) (fun v s => v = .text row.id ∧ Reading going s₀ s ∧
      s.HeldAs q .id (.text row.id)) E := by
  refine Triple.weaken (reading_value (.of_stored h) .id) (fun _ h => h) (fun v s hs => ?_)
    fun _ _ h => h
  obtain ⟨hs, held⟩ := hs
  obtain rfl := (held.eq_cell (hs.stored h) row.kind.id_mem_columns).1
  rw [row.cell_id] at held ⊢
  exact ⟨rfl, hs, held⟩

/-- The identifiers of two rows are the ends of their link. -/
theorem reading_endsOf {m : Ref} {row' : Row} (h : s₀.StoredAs row r) (hm : s₀.StoredAs row' m) :
    Triple (Reading going s₀) (endsOf row.kind r m) (fun ends s => ends = (row.linkTo row').ends ∧
      Reading going s₀ s ∧ s.HeldAs r .id (.text row.id)) E := by
  refine Triple.bind (reading_id h) fun own => Triple.of_known fun hown => ?_
  rintro s₁ ⟨hs₁, held⟩
  refine Triple.bind (P := (· = s₁)) (Triple.weaken (reading_id (hs₁.stored hm))
    (fun _ h => .of_eq hs₁.toAtRest h) (fun _ _ h => h) fun _ _ h => h) (fun other =>
      Triple.of_known fun hother => Triple.pure fun s hs => ?_) s₁ rfl
  refine ⟨?_, hs₁.trans hs.1, held.later (hs₁.stored h) hs.1⟩
  rw [hown, hother, Row.linkTo]
  split <;> rfl

/-- The links between a row and others whose entities are known. -/
theorem reading_linksTo {ms : List Ref} (h : s₀.StoredAs row r)
    (related : List.Forall₂ s₀.StoredAs rows ms) :
    Triple (Reading going s₀) (linksTo [] row.kind r (ms.map some)) (fun ends s =>
      ends = (rows.map row.linkTo).map Link.ends ∧ Reading going s₀ s ∧
        (rows ≠ [] → s.HeldAs r .id (.text row.id))) E := by
  have known : (ms.map some).filterMap id = ms := by
    rw [List.filterMap_map]
    exact List.filterMap_some
  unfold linksTo
  rw [known]
  clear known
  induction ms generalizing rows s₀ with
  | nil =>
    obtain rfl := List.forall₂_nil_right_iff.mp related
    rw [List.filterMapM_nil]
    exact Triple.pure fun s hs => ⟨rfl, hs, fun some => absurd rfl some⟩
  | cons m ms ih =>
    obtain ⟨row', rows, hm, others, rfl⟩ := List.forall₂_cons_right_iff.mp related
    rw [List.filterMapM_cons]
    refine Triple.bind (Q := fun ends s => ends = some (row.linkTo row').ends ∧
      Reading going s₀ s ∧ s.HeldAs r .id (.text row.id)) ?_ fun ends =>
        Triple.of_known fun here => ?_
    · refine Triple.bind (Q := fun s' s => s' = s ∧ Reading going s₀ s)
        (Triple.get fun _ h => ⟨rfl, h⟩) fun s' => ?_
      rintro s ⟨rfl, hs⟩
      obtain ⟨e, he, mapped, -⟩ := hs.stored hm
      have contained : s'.contains m = true := by
        rw [contains, he]
        exact Bool.or_eq_true_iff.mpr (.inr mapped)
      rw [contained]
      exact Triple.bind (reading_endsOf h hm) (fun ends => Triple.of_known fun here =>
        Triple.pure fun s hs => ⟨congrArg some here, hs⟩) s' hs
    · subst here
      rintro s₁ ⟨hs₁, held⟩
      refine Triple.bind (P := (· = s₁)) (Triple.weaken (ih (hs₁.stored h)
        (others.imp fun _ _ => hs₁.stored)) (fun _ h => .of_eq hs₁.toAtRest h) (fun _ _ h => h)
          fun _ _ h => h) (fun ends => Triple.of_known fun rest => Triple.pure fun s hs => ?_) s₁ rfl
      exact ⟨rest ▸ rfl, hs₁.trans hs.1, fun _ => held.later (hs₁.stored h) hs.1⟩

theorem run_takeOutLink (whole : s.broken = false) (l : Link) :
    (takeOutLink l.ends).run.run s =
      (.ok (s.tables.links.contains l), { s with store := s.store.dropLink l }) := by
  obtain ⟨store, committed, entities, broken, log⟩ := s
  cases whole
  rfl

/-- Links that are there can be taken out one by one. -/
theorem takeOutLinks (whole : s₁.broken = false) {gone : List Link} (distinct : (gone ++ ls).Nodup)
    (there : ∀ l ∈ ls, l ∈ s₁.tables.links) :
    Triple (· = s₁.change (·.withoutLinks gone)) ((ls.map Link.ends).mapM takeOutLink)
      (fun found s => found.contains false = false ∧
        s = s₁.change (·.withoutLinks (gone ++ ls))) E := by
  induction ls generalizing gone with
  | nil =>
    rw [List.append_nil]
    exact Triple.pure fun s hs => ⟨rfl, hs⟩
  | cons l ls ih =>
    rw [List.map_cons, List.mapM_cons]
    refine Triple.bind (Q := fun found s => found = true ∧
      s = s₁.change (·.withoutLinks (gone ++ [l]))) ?_ fun found => Triple.of_known fun here => ?_
    · rintro _ rfl
      rw [run_takeOutLink (s := s₁.change _) whole]
      have fresh : l ∉ gone := fun old =>
        (List.nodup_append.mp distinct).2.2 l old l List.mem_cons_self rfl
      refine ⟨List.contains_iff_mem.mpr (List.mem_filter.mpr
        ⟨there l List.mem_cons_self, decide_eq_true fresh⟩), ?_⟩
      exact congrArg (fun store => { s₁ with store := store })
        (s₁.store.dropLink_withoutLinks gone l)
    · subst here
      rw [List.append_cons gone l ls] at distinct ⊢
      refine Triple.bind (ih distinct fun l' hl' => there l' (List.mem_cons_of_mem l hl'))
        fun found => Triple.pure fun s hs => ⟨?_, hs.2⟩
      rw [List.contains_cons, hs.1]
      rfl

theorem writeLinks_lost (whole : s₁.broken = false) (distinct : ls.Nodup)
    (there : ∀ l ∈ ls, l ∈ s₁.tables.links) :
    Triple (· = s₁) (writeLinks (ls.map Link.ends) [])
      (fun _ s => s = s₁.change (·.withoutLinks ls)) E := by
  have taken : Triple (· = s₁.change (·.withoutLinks [])) ((ls.map Link.ends).mapM takeOutLink)
      (fun found s => found.contains false = false ∧ s = s₁.change (·.withoutLinks ls)) E :=
    takeOutLinks whole distinct there
  rw [change_withoutLinks_nil] at taken
  refine Triple.bind taken fun found => Triple.of_known fun all => ?_
  rw [all]
  exact Triple.pure fun _ h => h

/-- Members that were read are all to be parted from. -/
theorem reading_membersKept (h : s₀.StoredAs row r) (known : s₀.KnowsMembers r rel) :
    Triple (Reading [r] s₀) (do
        let h := (← look r).memberShift rel
        return (r, (⟨[], [], h.kept ++ h.lost⟩ : Entity.Shift))) (fun shift s => ∃ ms,
      shift = (r, ⟨[], [], ms.map some⟩) ∧ Reading [r] s₀ s ∧
        List.Forall₂ s.StoredAs (s₀.tables.related row.kind row.id rel) ms) E := by
  refine reading_look (.of_stored h) fun s e hs he => Triple.pure fun s' same => ?_
  obtain ⟨ms, read, related⟩ := hs.members_of_known (hs.stored h) (known.later h hs) he
  rw [hs.tables_eq] at related
  rw [Entity.memberShift, read]
  exact same ▸ ⟨ms, by simp, hs, related⟩

/-- Where all members are parted from, links are lost and none are gained. -/
theorem reading_linksLost {ms : List Ref} (h : s₀.StoredAs row r)
    (related : List.Forall₂ s₀.StoredAs rows ms) :
    Triple (Reading going s₀) (do
        let gained ← linksTo [] row.kind r []
        let lost ← linksTo [] row.kind r (ms.map some)
        return (lost, gained)) (fun ends s => ends = ((rows.map row.linkTo).map Link.ends, []) ∧
      Reading going s₀ s ∧ (rows ≠ [] → s.HeldAs r .id (.text row.id))) E := by
  refine Triple.bind (Q := fun gained s => gained = [] ∧ Reading going s₀ s)
    (Triple.pure fun _ h => ⟨rfl, h⟩) fun gained => Triple.of_known fun none => ?_
  subst none
  exact Triple.bind (reading_linksTo h related) fun lost => Triple.of_known fun here =>
    Triple.pure fun s hs => ⟨here ▸ rfl, hs⟩

/-- The links that join a row to others are taken out. -/
theorem relateLinks_going (h : s₀.StoredAs row r) (hrel : rel ∈ row.kind.relations)
    (linking : Plan.isLinking row.kind rel = true) (known : s₀.KnowsMembers r rel) :
    Triple (Reading [r] s₀) (relateLinks row.kind rel true [r] ⟨p, []⟩) (fun done s =>
      done.plan = p ∧
        Unlinked s₀ row r ((s₀.tables.related row.kind row.id rel).map row.linkTo) s) E := by
  unfold relateLinks
  rw [List.mapM_cons, List.mapM_nil]
  refine Triple.bind (Q := fun shifts s => ∃ ms, shifts = [(r, ⟨[], [], ms.map some⟩)] ∧
    Reading [r] s₀ s ∧
      List.Forall₂ s.StoredAs (s₀.tables.related row.kind row.id rel) ms) ?_ fun shifts => ?_
  · refine Triple.bind (reading_membersKept h known) fun shift => Triple.pure fun s hs => ?_
    obtain ⟨ms, rfl, hs⟩ := hs
    exact ⟨ms, rfl, hs⟩
  · rintro s ⟨ms, rfl, hs, related⟩
    rw [List.mapM_cons, List.mapM_nil]
    refine Triple.bind (P := Reading [r] s) (Q := fun links s' =>
      links = [(((s₀.tables.related row.kind row.id rel).map row.linkTo).map Link.ends, [])] ∧
        Reading [r] s s' ∧ (s₀.tables.related row.kind row.id rel ≠ [] →
          s'.HeldAs r .id (.text row.id))) ?_ (fun links => Triple.of_known fun here => ?_)
      s (.refl hs.toAtRest)
    · exact Triple.bind (reading_linksLost (hs.stored h) related) fun ends =>
        Triple.of_known fun here => Triple.pure fun s' hs' => ⟨here ▸ rfl, hs'⟩
    · subst here
      rintro s₁ ⟨hs₁, held⟩
      have hs₁ := hs.trans hs₁
      rw [List.flatMap_singleton, List.flatMap_singleton]
      refine Triple.bind (writeLinks_lost hs₁.whole (hs.keyed_before.nodup_links hrel linking)
        fun l hl => ?_) (fun _ => Triple.pure fun s' same =>
          ⟨rfl, s₁, hs₁, fun some => held fun none => ?_, same⟩) s₁ rfl
      · rw [hs₁.tables_eq]
        rw [Tables.mem_links_related h.mem hrel linking] at hl
        exact hl.1
      · rw [none] at some
        exact some rfl

/-! ## Rows -/

theorem inOrder_singleton {P : Session → Prop} (r : Ref) :
    Triple P (inOrder [r]) (fun rs s => rs = [r] ∧ P s) E := by
  refine Triple.bind (Q := fun _ => P) (Triple.get fun _ h => h) fun s => ?_
  refine Triple.guard (fun two _ _ => ?_) fun _ => Triple.pure fun _ h => ⟨?_, h⟩
  · have few := List.length_filter_le (fun r => ((s.entity? r).bind Entity.key?).isSome) [r]
    simp only [Bool.and_eq_true, decide_eq_true_eq] at two
    exact absurd (Nat.lt_of_lt_of_le two.1 few) (Nat.lt_irrefl 1)
  · cases key : ((s.entity? r).bind Entity.key?) <;> simp [key]

/-- The identifier of a row is known after links were taken out. -/
theorem formerId_unlinked (h : s₀.StoredAs row r) :
    Triple (Unlinked s₀ row r ls) (formerValue r .id) (fun v s => v = .text row.id ∧
      ∃ s₁, Reading [r] s₀ s₁ ∧ s₁.HeldAs r .id (.text row.id) ∧
        s = s₁.change (·.withoutLinks ls)) E := by
  rintro s ⟨s₁, hs₁, held, rfl⟩
  cases ls with
  | nil =>
    rw [change_withoutLinks_nil]
    refine Triple.weaken (reading_formerValue (.of_stored h) .id) (fun _ h => h) (fun v s hs => ?_)
      (fun _ _ h => h) s₁ hs₁
    obtain ⟨hs, held⟩ := hs
    obtain rfl := (held.eq_cell (hs.stored h) row.kind.id_mem_columns).1
    rw [row.cell_id] at held ⊢
    exact ⟨rfl, s, hs, held, (s.change_withoutLinks_nil).symm⟩
  | cons l ls =>
    obtain ⟨e, he, mapped, -⟩ := hs₁.stored h
    have held := held (List.cons_ne_nil l ls)
    refine Triple.look_at (s := s₁.change _) he ?_ _ rfl
    rw [(hs₁.mirrors r e he mapped).formerCell_eq e.kind.id_mem_columns,
      (held e he mapped e.kind.id_mem_columns).1]
    exact Triple.pure fun s same => ⟨rfl, s₁, hs₁, held, same⟩

theorem unindex_held {e : Entity} {id : String} (he : s.entity? r = some e)
    (held : e.held? .id = some (.text id)) :
    Triple (· = s) (unindex r) (fun _ s' => ∃ log, s' =
      { s.change (·.unindex Kind.post.table id) with log := log }) E := by
  refine Triple.bind (Q := fun v s' => v = .text id ∧ s' = s) ?_ fun v =>
    Triple.of_known fun here => ?_
  · refine Triple.look_at he ?_
    rw [held]
    exact Triple.pure fun _ same => ⟨rfl, same⟩
  · subst here
    refine Triple.bind (Q := fun _ s' => s' = s) (Triple.pure fun _ h => h) fun _ => ?_
    refine Triple.bind (Q := fun _ s' => s' = s.change (·.unindex Kind.post.table id))
      (Triple.modify fun s' same => same ▸ rfl) fun _ => Triple.modify fun s' same => ?_
    obtain rfl := same
    exact ⟨_, rfl⟩

/-- The row is taken out of the tables, unless it is a user who is named where that is not
allowed. -/
theorem storing_remove (hs₁ : Reading [r] s₀ s₁) :
    Triple (· = s₁.change (·.withoutLinks ls)) (storing fun s => s.remove row.kind row.id)
      (fun _ s => s₀.store.mayRemove row = true ∧
        s = (s₁.change (·.withoutLinks ls)).change (·.withoutRow s₀.store.enforces row))
      (Stuck s₀ row) := by
  have mayRemove : (s₁.change (·.withoutLinks ls)).store.mayRemove row =
      s₀.store.mayRemove row := by
    rw [← hs₁.store]
    rfl
  refine Triple.storing (fun s same => same ▸ hs₁.whole) ?_
  rintro _ rfl
  rw [Store.remove_eq, mayRemove]
  cases may : s₀.store.mayRemove row with
  | true => exact ⟨rfl, by rw [← hs₁.store]; rfl⟩
  | false => exact ⟨may, rfl, hs₁.committed.trans hs₁.tables_eq⟩

/-- The document of a row that was taken out goes as well. -/
theorem unindex_removed (h : s₀.StoredAs row r) (hs₁ : Reading [r] s₀ s₁)
    (held : s₁.HeldAs r .id (.text row.id))
    (linked : ∀ l ∈ s₀.tables.links, l ∈ ls ↔ (row.isLinked l && s₀.tables.joins l) = true) :
    Triple (· = (s₁.change (·.withoutLinks ls)).change (·.withoutRow s₀.store.enforces row))
      (if row.kind = .post then [r].forM unindex else pure ()) (fun _ => TakenOut s₀ row r) E := by
  have cut := Tables.cut_of_remove hs₁.keyed_before h.mem linked s₀.store.enforces
  have tables : s₁.store.tables = s₀.tables := hs₁.tables_eq
  obtain ⟨e, he, mapped, -⟩ := hs₁.stored h
  by_cases kind : row.kind = .post
  · simp only [if_pos kind] at cut ⊢
    refine Triple.bind (unindex_held (s := (s₁.change _).change _) he
      (held e he mapped e.kind.id_mem_columns).1) fun _ => Triple.pure fun s same => ?_
    obtain ⟨log, rfl⟩ := same
    refine ⟨s₁, _, log, hs₁, cut, ?_⟩
    rw [← tables]
    rfl
  · simp only [if_neg kind] at cut ⊢
    refine Triple.pure fun s same => ⟨s₁, _, s₁.log, hs₁, cut, same.trans ?_⟩
    rw [← tables]
    rfl

/-- The row is taken out with its document, or is stuck. -/
theorem remove_going (h : s₀.StoredAs row r) (roles : p.roles = [(r, row.kind, ⟨true, false⟩)])
    (linked : ∀ l ∈ s₀.tables.links, l ∈ ls ↔ (row.isLinked l && s₀.tables.joins l) = true) :
    Triple (Unlinked s₀ row r ls) (remove row.kind p) (fun _ s =>
      s₀.store.mayRemove row = true ∧ TakenOut s₀ row r s) (Stuck s₀ row) := by
  have going : p.going row.kind = [r] := by
    rw [Plan.going, Plan.having_of_roles roles, if_pos ⟨rfl, rfl⟩]
  unfold remove
  rw [going]
  refine Triple.bind (inOrder_singleton r) fun rs => Triple.of_known fun only => ?_
  subst only
  rw [List.mapM_cons, List.mapM_nil]
  refine Triple.bind (Q := fun ids s => ids = [.text row.id] ∧ ∃ s₁, Reading [r] s₀ s₁ ∧
    s₁.HeldAs r .id (.text row.id) ∧ s = s₁.change (·.withoutLinks ls)) ?_ fun ids =>
      Triple.of_known fun here => ?_
  · exact Triple.bind (formerId_unlinked h) fun id => Triple.of_known fun here =>
      Triple.pure fun s hs => ⟨here ▸ rfl, hs⟩
  · subst here
    rintro s ⟨s₁, hs₁, held, rfl⟩
    refine Triple.guard (P := (· = s₁.change _)) (fun null => ?_) (fun _ => ?_) _ rfl
    · simp at null
    · refine Triple.bind (Q := fun _ s => s₀.store.mayRemove row = true ∧
        s = (s₁.change (·.withoutLinks ls)).change (·.withoutRow s₀.store.enforces row))
          (Triple.bind (Triple.bind (Q := fun _ s => s = s₁.change (·.withoutLinks ls))
            (Triple.pure fun _ h => h) fun _ => storing_remove hs₁) fun _ => Triple.pure fun _ h => h)
              fun _ => Triple.of_known fun may => ?_
      exact Triple.weaken (unindex_removed h hs₁ held linked) (fun _ h => h)
        (fun _ _ hs => ⟨may, hs⟩) fun _ _ hs => hs

/-! ## Tasks -/

variable (now) in
/-- First, the links that join the row to others are taken out. -/
theorem relate_going (rest : s.AtRest [r]) (h : s.StoredAs row r) (hp : p.Removes row r [] s) :
    ∃ ls, (∀ l ∈ s.tables.links, l ∈ ls ↔ (row.isLinked l && s.tables.joins l) = true) ∧
      Triple (· = s) ((p.taking.filter (Plan.isLinking row.kind)).map
          (fun rel => Task.relate row.kind rel true) |>.foldlM (perform now) ⟨p, []⟩)
        (fun done s' => done.plan = p ∧ Unlinked s row r ls s') E := by
  cases links : p.taking.filter (Plan.isLinking row.kind) with
  | nil =>
    refine ⟨[], fun l hl => ⟨fun none => (List.not_mem_nil none).elim,
      fun joined => (hp.not_joined h links hl joined).elim⟩, ?_⟩
    exact Triple.pure fun s' same => ⟨rfl, s, .refl rest, fun some => absurd rfl some,
      same.trans s.change_withoutLinks_nil.symm⟩
  | cons rel rels =>
    obtain rfl := hp.linking_alone links
    obtain ⟨part, linking⟩ := List.mem_filter.mp (links ▸ List.mem_singleton_self rel)
    have hrel := hp.relations.2.subset part
    refine ⟨_, fun l hl => (Tables.mem_links_related h.mem hrel linking).trans
      (and_iff_right hl), ?_⟩
    refine Triple.bind (Q := fun done s' => done.plan = p ∧ Unlinked s row r
      ((s.tables.related row.kind row.id rel).map row.linkTo) s') ?_ fun done =>
        Triple.pure fun _ hs => hs
    rw [perform, relateAll, if_pos linking, Plan.having_of_roles hp.roles, if_pos ⟨rfl, rfl⟩]
    exact Triple.weaken (relateLinks_going h hrel linking (hp.knows_members part linking))
      (fun _ same => .of_eq rest same) (fun _ _ hs => hs) fun _ _ hs => hs

/-- The tasks take out the row with its links and its document. -/
theorem run_tasks (rest : s.AtRest [r]) (h : s.StoredAs row r) (hp : p.Removes row r [] s) :
    Triple (· = s) (p.tasks.foldlM (perform now) ⟨p, []⟩) (fun done s' => done.plan = p ∧
      s.store.mayRemove row = true ∧ TakenOut s row r s') (Stuck s row) := by
  obtain ⟨same, relations⟩ := hp.relations
  obtain ⟨ls, linked, related⟩ := relate_going now (E := Stuck s row) rest h hp
  rw [perform_takesOut hp.roles, Plan.tasks, hp.kinds, same,
    Task.schedule_takesOut row.kind _ relations, List.foldlM_append]
  refine Triple.bind related fun done => Triple.of_known fun here => ?_
  rw [List.foldlM_cons]
  subst here
  exact Triple.bind (Triple.bind (remove_going h hp.roles linked) fun _ =>
    Triple.pure (Q := fun done' s' => done' = done ∧ s.store.mayRemove row = true ∧
      TakenOut s row r s')
      fun _ hs => ⟨rfl, hs⟩) fun done' => Triple.pure fun s' hs => ⟨hs.1 ▸ rfl, hs.2⟩

/-! ## Carrying out -/

/-- Where a row was taken out and its entity is lost sight of, everything is written. -/
theorem isWritten_of_takenOut (taken : TakenOut s₀ row r s) : (s.parted r).IsWritten := by
  obtain ⟨s₁, t, log, hs₁, cut, rfl⟩ := taken
  have before : ∀ q e', (parted { s₁ with store := { s₁.store with tables := t }, log := log }
      r).entity? q = some e' →
      e'.isPending = false ∧ e'.isDoomed = false ∧
        (e'.isMapped = true → s₁.entity? q = some e') := by
    intro q e' he'
    rw [parted, entity?_mapEntities, entity?_modifyEntity] at he'
    obtain ⟨e₁, he₁, rfl⟩ := Option.map_eq_some_iff.mp he'
    split at he₁
    · obtain ⟨e, he, rfl⟩ := Option.map_eq_some_iff.mp he₁
      rename_i same
      subst same
      exact ⟨(hs₁.unwritten _ e he).1, rfl, fun mapped => by cases mapped⟩
    · rename_i other
      have he : s₁.entity? q = some e₁ := he₁
      obtain ⟨pending, doomed⟩ := hs₁.unwritten q e₁ he
      have untouched : ¬(e₁.isMapped && e₁.isTouched) = true := by
        rw [Bool.and_eq_true]
        rintro ⟨mapped, touched⟩
        rw [(hs₁.mirrors q e₁ he mapped).untouched] at touched
        cases touched
      rw [if_neg untouched]
      refine ⟨pending, Bool.eq_false_iff.mpr fun goes => other ?_, fun _ => he⟩
      exact (List.mem_singleton.mp (doomed goes)).symm
  refine ⟨cut.isKeyed hs₁.keyed_before, hs₁.whole, fun q e he =>
    ⟨(before q e he).1, (before q e he).2.1⟩, fun q e he mapped => ?_,
    fun q e key q' e' he mapped hkey he' here => ?_⟩
  · exact (hs₁.mirrors q e ((before q e he).2.2 mapped) mapped).toIsSettled
  · have mapped' : e'.isMapped = true := by
      rw [isAt, Bool.and_assoc, Bool.and_eq_true_iff] at here
      exact here.1
    exact hs₁.apart q e key q' e' ((before q e he).2.2 mapped) mapped hkey
      ((before q' e' he').2.2 mapped') here

/-- Carrying out the plan takes out the row, or fails and leaves what was committed. -/
theorem run_carryOut (now : Instant) (h : s₀.Removing row r) :
    Triple (· = s₀) (carryOut now (.initial s₀)) (fun _ s => s₀.store.mayRemove row = true ∧
      ∃ s', TakenOut s₀ row r s' ∧ s = s'.parted r) (Stuck s₀ row) := by
  refine Triple.bind (Q := fun s' s => s' = s ∧ s = s₀) (Triple.get fun _ h => ⟨rfl, h⟩) fun s' => ?_
  rintro s ⟨rfl, rfl⟩
  refine Triple.bind (P := fun s => Reading [r] s' s ∧ (Plan.initial s').Removes row r _ s)
    (Plan.complete_removes _ h.stored) (fun p => ?_) s' ⟨.refl h.rest, Plan.removes_initial h⟩
  rintro s ⟨hs, hp⟩
  refine Triple.bind (P := (· = s)) (Q := fun done s'' => done.plan = p ∧
    s'.store.mayRemove row = true ∧ TakenOut s' row r s'') ?_ (fun done =>
      Triple.of_known fun here => ?_) s rfl
  · refine Triple.weaken (run_tasks hs.toAtRest (hs.stored h.stored) hp) (fun _ h => h)
      (fun done s'' taken => ?_) fun err s'' stuck => ?_
    · rw [hs.store] at taken
      exact ⟨taken.1, taken.2.1, taken.2.2.before hs⟩
    · rw [Stuck, hs.store, hs.tables_eq] at stuck
      exact stuck
  · rw [here, hp.roles]
    refine Triple.of_known fun may => ?_
    let lost : Unit → Session → Prop := fun _ s => ∃ s'', TakenOut s' row r s'' ∧
      s = s''.modifyEntity r fun e => { e with
        isMapped := false, isDoomed := false, isGone := true, wasRemoved := true }
    refine Triple.bind (Q := lost) (Triple.bind (Q := lost)
      (Triple.modify fun s hs => ⟨s, hs, rfl⟩) fun _ => Triple.pure fun _ h => h) fun _ => ?_
    refine Triple.bind (Q := lost) (Triple.pure fun _ h => h) fun _ => Triple.modify ?_
    rintro _ ⟨s'', taken, rfl⟩
    exact ⟨may, s'', taken, rfl⟩

end Work

end Session

end Weblog
