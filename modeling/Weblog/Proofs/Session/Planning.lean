/-
  The plan of a flush spares nothing that may not be written.

  All that is to be put in or was touched passed validation, and what was not touched is filled
  since the tables are. What is left are records that are to be taken out although a required
  attribute is blank: they are planned to go, unless a record of the session has one of them as a
  new member (`Session.Spares`).
-/
import Weblog.Proofs.Session.Validation

namespace Weblog.Session

variable {s s₀ : Session} {p : Plan} {r : Ref} {e : Entity} {k : Kind} {x : Strand}

/-- A record that is to be taken out, with a blank required attribute, is a new member of a record
of the session, so that a flush writes it. -/
def Spares (s : Session) : Prop :=
  ∃ o e rel m e', s.entity? o = some e ∧ e.isContained = true ∧ Plan.isOwning e.kind rel = true ∧
    some m ∈ (e.memberShift rel).gained ∧
    s.entity? m = some e' ∧ e'.isContained = true ∧ e'.isDoomed = true ∧ ¬e'.IsFilled

theorem Came.gained (h : Came Entity.Calm s₀ r e) {rel : Relation} {m : Option Ref}
    (hm : m ∈ (e.memberShift rel).gained) :
    ∃ e₀, s₀.entity? r = some e₀ ∧ Entity.Calm e₀ e ∧ m ∈ (e₀.memberShift rel).gained := by
  rcases h with ⟨e₀, he₀, calm⟩ | ⟨-, row, -, calm⟩
  · exact ⟨e₀, he₀, calm, calm.gained rel m hm⟩
  · cases calm.gained rel m hm

/-- Calm work lets nothing be spared. -/
theorem spares_of_came (h : ∀ r e, s.entity? r = some e → Came Entity.Calm s₀ r e)
    (spares : s.Spares) : s₀.Spares := by
  obtain ⟨o, e, rel, m, e', he, contained, owning, hm, he', contained', doomed, blank⟩ := spares
  obtain ⟨e₀, he₀, calm, hm₀⟩ := (h o e he).gained hm
  rcases h m e' he' with ⟨e₁, he₁, calm'⟩ | ⟨-, row, -, calm'⟩
  · exact ⟨o, e₀, rel, m, e₁, he₀, calm.contained contained, calm.kind ▸ owning, hm₀, he₁,
      calm'.contained contained', calm'.doomed doomed, fun filled => blank (calm'.filled filled)⟩
  · cases calm'.doomed doomed

/-- A session whose entities were validated. -/
structure Prepared (s : Session) : Prop where
  orderly : s.IsOrderly
  fit : ∀ r ∈ s.pending ++ s.dirty, ∀ e, s.entity? r = some e → e.IsFit
  calm : ¬s.Spares

theorem mem_refs {q : Entity → Bool} (he : s.entity? r = some e) : r ∈ s.refs q ↔ q e = true := by
  unfold refs
  rw [List.mem_filter, List.mem_range, he]
  refine ⟨And.right, fun h => ⟨(List.getElem?_eq_some_iff.mp he).1, h⟩⟩

theorem refs_eq_nil {q : Entity → Bool} (h : ∀ r e, s.entity? r = some e → q e = false) :
    s.refs q = [] := by
  refine List.filter_eq_nil_iff.mpr fun r _ => ?_
  cases he : s.entity? r with
  | none => exact Bool.false_ne_true
  | some e => rw [Option.any_some, h r e he]; exact Bool.false_ne_true

/-- What may not be written is to be taken out. -/
theorem Prepared.doomed_of_unfit (h : s.Prepared) (he : s.entity? r = some e)
    (contained : e.isContained = true) (unfit : ¬e.IsFit) : e.isDoomed = true ∧ ¬e.IsFilled := by
  have orderly := h.orderly.entity he trivial
  have unwritten : r ∉ s.pending ++ s.dirty := fun written => unfit (h.fit r written e he)
  rw [List.mem_append, not_or] at unwritten
  have settled : e.isPending = false := by
    refine Bool.eq_false_iff.mpr fun pending => unwritten.1 ?_
    exact List.mem_mergeSort.mpr ((mem_refs he).mpr pending)
  have mapped : e.isMapped = true := by
    rw [Entity.isContained, settled, Bool.false_or] at contained
    exact contained
  have keyed : e.key? ≠ none := by
    intro unkeyed
    have key := orderly.keyed mapped
    rw [unkeyed] at key
    cases key
  have blank : ¬e.IsFilled := fun filled => unfit ⟨filled, fun unkeyed => absurd unkeyed keyed⟩
  have touched : e.isTouched = true :=
    Bool.of_not_eq_false fun untouched => blank (orderly.untouched untouched)
  refine ⟨Bool.of_not_eq_false fun stays => unwritten.2 ((mem_refs he).mpr ?_), blank⟩
  rw [Entity.isDirty, mapped, touched, stays]
  rfl

/-! ## Plans -/

namespace Plan

/-- An entity has a role. -/
def Knows (p : Plan) (r : Ref) : Prop := ∃ x ∈ p.roles, x.1 = r

/-- A plan that gives roles to entities of the session, each with its kind, and lets go what may not
be written. -/
def IsFair (s₀ : Session) (p : Plan) : Prop :=
  ∀ x ∈ p.roles, ∀ e, s₀.entity? x.1 = some e →
    e.isContained = true ∧ e.kind = x.2.1 ∧ (x.2.2.goes = false → e.IsFit)

/-- A plan that knows all of the session that may not be written. -/
def Covers (s₀ : Session) (p : Plan) : Prop :=
  ∀ r e, s₀.entity? r = some e → e.isContained = true → ¬e.IsFit → p.Knows r

theorem isSome_role? (p : Plan) (r : Ref) : (p.role? r).isSome = true ↔ p.Knows r := by
  unfold role? Knows
  rw [Option.isSome_map, List.lookup_isSome_iff]
  constructor
  · rintro ⟨x, hx, same⟩
    exact ⟨x, hx, (eq_of_beq same).symm⟩
  · rintro ⟨x, hx, rfl⟩
    exact ⟨x, hx, beq_self_eq_true x.1⟩

theorem roles_addKind (p : Plan) (k : Kind) : (p.addKind k).roles = p.roles := by
  unfold addKind
  split <;> rfl

theorem fair_setRole {role : Role} (hp : p.IsFair s₀)
    (fit : role.goes = false → ∀ e, s₀.entity? r = some e → e.isContained = true → e.IsFit) :
    (p.setRole r role).IsFair s₀ := by
  intro x hx e he
  obtain ⟨y, hy, rfl⟩ := List.mem_map.mp hx
  split at he
  · rename_i same
    rw [if_pos same]
    obtain ⟨contained, kind, -⟩ := hp y hy e he
    exact ⟨contained, kind, fun stays => fit stays e (same ▸ he) contained⟩
  · rename_i other
    rw [if_neg other]
    exact hp y hy e he

theorem knows_setRole {q : Ref} {role : Role} (h : p.Knows q) : (p.setRole r role).Knows q := by
  obtain ⟨x, hx, rfl⟩ := h
  refine ⟨_, List.mem_map_of_mem hx, ?_⟩
  split <;> rfl

section Register

variable {role : Role} {spares : Bool}

theorem knows_register {q : Ref} (h : p.Knows q) : (p.register s r role spares).Knows q := by
  unfold register
  split
  · exact h
  · split
    · exact h
    · split
      · split
        · exact knows_setRole h
        · exact h
      · obtain ⟨x, hx, same⟩ := h
        refine ⟨x, List.mem_append_left _ ?_, same⟩
        rw [roles_addKind]
        exact hx

theorem knows_registered (he : s.entity? r = some e) (contained : e.isContained = true) :
    (p.register s r role spares).Knows r := by
  unfold register
  rw [he]
  simp only [contained, Bool.not_true]
  split
  · rename_i known
    cases known
  · split
    · rename_i known
      rw [isSome_role?] at known
      split
      · exact knows_setRole known
      · exact known
    · exact ⟨_, List.mem_append_right _ (List.mem_singleton_self _), rfl⟩

/-- Planning for an entity is fair if what is to be written may be written. -/
theorem fair_register (hp : p.IsFair s₀)
    (hs : ∀ r e, s.entity? r = some e → Came Entity.Calm s₀ r e)
    (fit : spares = true ∨ ¬p.Knows r ∧ role.goes = false →
      ∀ e, s₀.entity? r = some e → e.isContained = true → e.IsFit) :
    (p.register s r role spares).IsFair s₀ := by
  unfold register
  split
  · exact hp
  · rename_i e he
    split
    · exact hp
    · rename_i contained
      split
      · split
        · rename_i spared
          exact fair_setRole hp fun _ => fit (.inl spared)
        · exact hp
      · rename_i unknown
        rw [isSome_role?] at unknown
        intro x hx e₀ he₀
        rcases List.mem_append.mp hx with old | new
        · rw [roles_addKind] at old
          exact hp x old e₀ he₀
        · obtain rfl := List.mem_singleton.mp new
          have calm := (hs r e he).of_entity he₀
          have contained₀ := calm.contained (by simpa using contained)
          exact ⟨contained₀, calm.kind.symm, fun stays => fit (.inr ⟨unknown, stays⟩) e₀ he₀ contained₀⟩

theorem knows_registerEach {q : Ref} {rs : List Ref} (h : p.Knows q) :
    (rs.foldl (fun p r => p.register s r role spares) p).Knows q := by
  induction rs generalizing p with
  | nil => exact h
  | cons r rs ih => exact ih (knows_register h)

theorem fair_registerEach {rs : List Ref} (hp : p.IsFair s₀)
    (hs : ∀ r e, s.entity? r = some e → Came Entity.Calm s₀ r e)
    (fit : ∀ r ∈ rs, spares = true ∨ ¬p.Knows r ∧ role.goes = false →
      ∀ e, s₀.entity? r = some e → e.isContained = true → e.IsFit) :
    (rs.foldl (fun p r => p.register s r role spares) p).IsFair s₀ := by
  induction rs generalizing p with
  | nil => exact hp
  | cons r rs ih =>
    refine ih (fair_register hp hs (fit r List.mem_cons_self)) fun q hq writes => ?_
    refine fit q (List.mem_cons_of_mem r hq) (writes.imp_right fun new => ?_)
    exact ⟨fun known => new.1 (knows_register known), new.2⟩

end Register

theorem came_self (s : Session) : ∀ r e, s.entity? r = some e → Came Entity.Calm s r e :=
  fun _ e he => .inl ⟨e, he, .refl e⟩

/-- The plan at first is fair, and covers all that may not be written. -/
theorem initial_sound (h : s.Prepared) : (initial s).IsFair s ∧ (initial s).Covers s := by
  unfold initial
  have first : ((s.pending ++ s.dirty).foldl (fun p r => p.register s r ⟨false, false⟩ false)
      empty).IsFair s := by
    refine fair_registerEach (fun x hx => by cases hx) (came_self s) fun r hr _ e he _ => ?_
    exact h.fit r hr e he
  refine ⟨fair_registerEach first (came_self s) fun r _ writes => ?_, fun r e he contained unfit => ?_⟩
  · rcases writes with spares | ⟨-, stays⟩
    · cases spares
    · cases stays
  · have doomed : r ∈ s.doomed := (mem_refs he).mpr (h.doomed_of_unfit he contained unfit).1
    generalize (s.pending ++ s.dirty).foldl (fun p r => p.register s r ⟨false, false⟩ false)
      empty = p
    generalize s.doomed = rs at doomed
    induction rs generalizing p with
    | nil => cases doomed
    | cons q rs ih =>
      rw [List.foldl_cons]
      rcases List.mem_cons.mp doomed with rfl | doomed
      · exact knows_registerEach (knows_registered he contained)
      · exact ih _ doomed

/-! ## Looking at relations -/

/-- A plan for a session that was prepared is sound. -/
def IsSound (s₀ : Session) (p : Plan) : Prop := s₀.Prepared → p.IsFair s₀ ∧ p.Covers s₀

/-- Entities at work since planning began. -/
def AtWork (s₀ : Session) : Session → Prop :=
  Holding s₀.Prepared s₀.entities.length (Came Entity.Calm s₀)

theorem closed_atWork (s₀ : Session) : Closed Entity.Calm s₀.entities.length (Came Entity.Calm s₀) :=
  .came .refl .trans s₀

/-- Members are planned for to be written or noted, and to be spared only if they may be written. -/
theorem sound_registerAll {ms : List (Option Ref)} {role : Role} {spares : Bool}
    (hp : p.IsSound s₀) (hs : AtWork s₀ s)
    (fit : spares = true → s₀.Prepared → ∀ m, some m ∈ ms → ∀ e, s₀.entity? m = some e →
      e.isContained = true → e.IsFit) : (p.registerAll s ms role spares).IsSound s₀ := by
  intro h
  obtain ⟨fair, covers⟩ := hp h
  refine ⟨fair_registerEach fair (hs h).entities fun m hm writes e he contained => ?_,
    fun r e he contained unfit => knows_registerEach (covers r e he contained unfit)⟩
  rcases writes with spared | ⟨unknown, -⟩
  · obtain ⟨o, ho, rfl⟩ := List.mem_filterMap.mp hm
    exact fit spared h m ho e he contained
  · exact Classical.byContradiction fun unfit => unknown (covers m e he contained unfit)

/-- The entities that a relation is looked at for are entities of the session, of its kind. -/
def Concerns (s₀ : Session) (x : Strand) (rs : List Ref) : Prop :=
  s₀.Prepared → ∀ r ∈ rs, ∀ e, s₀.entity? r = some e → e.isContained = true ∧ e.kind = x.kind

theorem concerns_unseen (hp : p.IsSound s₀) (role : Role) : Concerns s₀ x (p.unseen x role) := by
  intro h r hr e he
  obtain ⟨y, hy, rfl⟩ := List.mem_map.mp (List.mem_filter.mp hr).1
  obtain ⟨hy, same⟩ := List.mem_filter.mp hy
  obtain ⟨contained, kind, -⟩ := (hp h).1 y hy e he
  exact ⟨contained, kind.trans (of_decide_eq_true (Bool.and_eq_true_iff.mp same).1)⟩

theorem keeps_lookAtGoing (hp : p.IsSound s₀) (r : Ref) :
    Work.Keeps (AtWork s₀) (lookAtGoing x p r) (·.IsSound s₀) := by
  refine Work.Keeps.ite (fun _ => ?_) fun _ => ?_
  · refine Work.Keeps.bind (Work.keeps_look r) fun e _ => ?_
    refine Work.Keeps.bind Work.Keeps.get fun s hs => Work.Keeps.pure ?_
    exact sound_registerAll hp hs fun spares => by cases spares
  · refine Work.Keeps.ite (fun _ => ?_) fun _ => Work.Keeps.pure hp
    exact Work.Keeps.bind (Work.keeps_formerMembers (closed_atWork s₀) r x.rel) fun _ _ =>
      Work.Keeps.pure hp

theorem keeps_lookAtStaying (hp : p.IsSound s₀) {rs : List Ref} (concerns : Concerns s₀ x rs)
    (hr : r ∈ rs) : Work.Keeps (AtWork s₀) (lookAtStaying x p r) (·.IsSound s₀) := by
  refine Work.Keeps.ite (fun owning => ?_) fun _ => Work.Keeps.pure hp
  refine Work.Keeps.bind (Work.Keeps.look fun s hs e he => hs.entity he) fun e came => ?_
  refine Work.Keeps.bind Work.Keeps.get fun s hs => Work.Keeps.pure ?_
  have gained : (p.registerAll s (e.memberShift x.rel).gained ⟨false, false⟩ true).IsSound s₀ := by
    refine sound_registerAll hp hs fun _ h m hm e' he' contained' => ?_
    refine Classical.byContradiction fun unfit => h.calm ?_
    obtain ⟨doomed, blank⟩ := h.doomed_of_unfit he' contained' unfit
    obtain ⟨e₀, he₀, -, hm₀⟩ := (came h).gained hm
    obtain ⟨contained, kind⟩ := concerns h r hr e₀ he₀
    exact ⟨r, e₀, x.rel, m, e', he₀, contained, kind ▸ owning, hm₀, he', contained', doomed, blank⟩
  split
  · exact sound_registerAll gained hs fun spares => by cases spares
  · exact gained

theorem keeps_hasGoing {I : Session → Prop} (h : Work.KeptByReviving I) (x : Strand) (r : Ref) :
    Work.Keeps I (hasGoing x r) fun _ => True := by
  refine Work.Keeps.readied (h.lookUpOwner r x.rel) ?_
  refine Work.Keeps.bind (Work.keeps_look r) fun e _ => ?_
  split <;> exact Work.Keeps.pure trivial

theorem keeps_takesPart {I : Session → Prop} (h : Work.KeptByReviving I) (p : Plan) (x : Strand)
    (going staying : List Ref) : Work.Keeps I (p.takesPart x going staying) fun _ => True := by
  refine Work.Keeps.ite (fun _ => Work.Keeps.pure trivial) fun _ => ?_
  refine Work.Keeps.bind (Work.Keeps.anyM fun r _ => keeps_hasGoing h x r) fun _ _ => ?_
  refine Work.Keeps.ite (fun _ => Work.Keeps.pure trivial) fun _ => ?_
  refine Work.Keeps.ite (fun _ => Work.Keeps.pure trivial) fun _ => ?_
  refine Work.Keeps.bind (Work.Keeps.anyM fun r _ => ?_) fun _ _ => ?_
  · exact Work.Keeps.bind (Work.keeps_look r) fun _ _ => Work.Keeps.pure trivial
  · exact Work.Keeps.ite (fun _ => Work.Keeps.pure trivial) fun _ => Work.Keeps.pure trivial

theorem keeps_lookAt {done : Plan × Bool} (hp : done.1.IsSound s₀) (at? : Kind × Relation) :
    Work.Keeps (AtWork s₀) (lookAt done at?) fun done => done.1.IsSound s₀ := by
  obtain ⟨p, any⟩ := done
  unfold lookAt
  dsimp only
  split
  · exact Work.Keeps.pure hp
  · rename_i x _
    have concerns := concerns_unseen (x := x) hp ⟨false, false⟩
    refine Work.Keeps.bind (Work.Keeps.foldlM (R := (·.IsSound s₀)) hp fun r _ p hp =>
      keeps_lookAtGoing hp r) fun p hp => ?_
    refine Work.Keeps.bind (Work.Keeps.foldlM (R := (·.IsSound s₀)) hp fun r hr p hp =>
      keeps_lookAtStaying hp concerns hr) fun p hp => ?_
    exact Work.Keeps.bind (keeps_takesPart (Work.keptByReading (closed_atWork s₀).still).toKeptByReviving
      p x _ _) fun _ _ => Work.Keeps.pure hp

theorem keeps_complete (n : Nat) (hp : p.IsSound s₀) :
    Work.Keeps (AtWork s₀) (complete n p) (·.IsSound s₀) := by
  induction n generalizing p with
  | zero => exact Work.Keeps.pure hp
  | succ n ih =>
    refine Work.Keeps.bind (Work.Keeps.foldlM (R := fun done => done.1.IsSound s₀) hp
      fun at? _ done hdone => keeps_lookAt hdone at?) fun done hdone => ?_
    exact Work.Keeps.ite (fun _ => ih hdone) fun _ => Work.Keeps.pure hdone

end Plan

end Weblog.Session
