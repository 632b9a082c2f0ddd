/-
  The plan of a flush minds the posts.

  Every post that is to be put in is written, and a stored one that was set or is to be taken out is
  written or goes (`Plan.Minds`). Looking at relations brings in more entities and may spare some, but
  it never drops one. A flush may begin with documents that lag behind where posts were set
  (`Session.Awaits`), since the plan minds those.
-/
import Weblog.Proofs.Session.Restoring

namespace Weblog

namespace Entity

variable {e e' : Entity} {c : Column} {v : Cell} {ps : List PostRow}

theorem mem_changes_iff : (c, v) ∈ e.changes ↔ c ∈ e.kind.columns ∧ e.held? c = some v ∧
    (e.formerCells.lookup c = some .unknown ∨
      ∃ old, e.formerCells.lookup c = some (.known old) ∧ v.same old = false) := by
  unfold changes
  rw [List.mem_filterMap]
  constructor
  · rintro ⟨d, hd, found⟩
    split at found
    · rename_i old w former held
      split at found
      · cases found
      · rename_i differs
        obtain ⟨rfl, rfl⟩ := Prod.mk.inj (Option.some.inj found)
        exact ⟨hd, held, .inr ⟨old, former, Bool.eq_false_iff.mpr differs⟩⟩
    · rename_i w former held
      obtain ⟨rfl, rfl⟩ := Prod.mk.inj (Option.some.inj found)
      exact ⟨hd, held, .inl former⟩
    · cases found
  · rintro ⟨hc, held, former | ⟨old, former, differs⟩⟩
    · exact ⟨c, hc, by rw [former, held]⟩
    · exact ⟨c, hc, by rw [former, held]; exact if_neg (Bool.eq_false_iff.mp differs)⟩

/-- An entity without a key has no row to read from. -/
theorem Reread.held_of_unkeyed (h : Reread ps e e') (unkeyed : e.key? = none)
    (hc : c ∈ indexedColumns) : e'.held? c = e.held? c := by
  rcases h.held c hc with ⟨same, -⟩ | ⟨-, -, -, p, -, hkey, -⟩
  · exact same
  · rw [unkeyed] at hkey
    cases hkey

theorem Reread.mem_changes_iff (h : Reread ps e e') (kind : e'.kind = e.kind)
    (hc : c ∈ indexedColumns) : (c, v) ∈ e'.changes ↔ (c, v) ∈ e.changes := by
  rw [Entity.mem_changes_iff, Entity.mem_changes_iff, kind, h.set c hc]
  rcases h.held c hc with ⟨same, -⟩ | ⟨-, unset, -⟩
  · rw [same]
  · simp [unset]

end Entity

namespace Session

variable {s s' s₀ : Session} {r q : Ref} {e f : Entity} {k : Kind} {c : Tables} {ps : List PostRow}
  {docs : List DocumentRow} {id : String} {row : Row} {p : Plan}

/-! ## What is to be taken over -/

theorem Apart.back (h : s.Apart s') {e' : Entity} (he' : s'.PostAt r e') :
    ∃ e, s.PostAt r e ∧ e.Reread s.tables.posts e' := h.altered.back he'

theorem Apart.takesOver (records : ∀ r e, s.PostAt r e → e.IsRecord) (h : s.Apart s')
    (takes : s'.TakesOver r id) : s.TakesOver r id := by
  obtain ⟨⟨e', he', pending, held⟩, q, f', hf', mapped, doomed, hkey⟩ := takes
  obtain ⟨e, he, reread⟩ := h.back he'
  obtain ⟨f, hf, reread'⟩ := h.back hf'
  have pending := reread.pending ▸ pending
  have unkeyed := (records r e he).unkeyed pending
  refine ⟨⟨e, he, pending, (reread.held_of_unkeyed unkeyed (by decide)).symm.trans held⟩, q, f, hf, ?_⟩
  exact ⟨reread'.mapped ▸ mapped, reread'.doomed ▸ doomed, reread'.key ▸ hkey⟩

theorem Handover.apart (h : s.Handover) (records : ∀ r e, s.PostAt r e → e.IsRecord)
    (apart : s.Apart s') : s'.Handover where
  anew := by
    intro r e' id he' takes col hc
    obtain ⟨e, he, reread⟩ := apart.back he'
    have before := apart.takesOver records takes
    obtain ⟨v, hv⟩ := h.anew r e id he before col hc
    exact ⟨v, (reread.mem_changes_iff (he'.2.trans he.2.symm)
      (Column.mem_indexed_of_contents hc)).mpr hv⟩
  once := fun r q id takes takes' => h.once r q id (apart.takesOver records takes)
    (apart.takesOver records takes')

/-- The entity of a row takes over nothing. -/
theorem Handover.push (h : s.Handover) (row : Row) :
    ({ s with entities := s.entities ++ [.ofRow row] } : Session).Handover := by
  have old : ∀ {r e}, ({ s with entities := s.entities ++ [.ofRow row] } : Session).PostAt r e →
      s.PostAt r e ∨ e = .ofRow row := fun ⟨he, post⟩ =>
    (of_entity?_push he).imp (fun he => ⟨he, post⟩) And.right
  have before : ∀ {r id}, ({ s with entities := s.entities ++ [.ofRow row] } : Session).TakesOver r id →
      s.TakesOver r id := by
    rintro r id ⟨⟨e, he, pending, held⟩, q, f, hf, mapped, doomed, hkey⟩
    rcases old he with he | rfl
    · rcases old hf with hf | rfl
      · exact ⟨⟨e, he, pending, held⟩, q, f, hf, mapped, doomed, hkey⟩
      · cases doomed
    · cases pending
  refine ⟨fun r e id he takes => ?_, fun r q id takes takes' =>
    h.once r q id (before takes) (before takes')⟩
  have takes := before takes
  obtain ⟨e₁, he₁, -⟩ := takes.1
  rcases old he with he | rfl
  · exact h.anew r e id he takes
  · obtain rfl := Option.some.inj ((entity?_push he₁.1 _).symm.trans he.1)
    exact h.anew r _ id he₁ takes

/-! ## What is to be written -/

/-- The post with an identifier was set and not written. -/
def Awaits (s : Session) (id : String) : Prop :=
  ∃ r e, s.PostAt r e ∧ e.isMapped = true ∧ e.key? = some (.text id) ∧ ¬e.IsUnset

theorem Apart.awaits_iff (h : s.Apart s') : s'.Awaits id ↔ s.Awaits id := by
  constructor
  · rintro ⟨r, e', he', mapped, hkey, set⟩
    obtain ⟨e, he, reread⟩ := h.back he'
    exact ⟨r, e, he, reread.mapped ▸ mapped, reread.key ▸ hkey, mt reread.unset_iff.mpr set⟩
  · rintro ⟨r, e, he, mapped, hkey, set⟩
    obtain ⟨e', he', reread⟩ := h.altered.forth he
    exact ⟨r, e', he', reread.mapped.trans mapped, reread.key.trans hkey, mt reread.unset_iff.mp set⟩

theorem Awaits.push (h : s.Awaits id) (new : Entity) :
    ({ s with entities := s.entities ++ [new] } : Session).Awaits id := by
  obtain ⟨r, e, he, set⟩ := h
  exact ⟨r, e, ⟨entity?_push he.1 new, he.2⟩, set⟩

/-- A session that may be flushed: it keeps track of posts, rows are handed over as a whole, and
documents lag behind only where posts were set. -/
structure Primed (s₀ : Session) (ps : List PostRow) (c : Tables) (docs : List DocumentRow)
    (s : Session) : Prop extends s₀.Tracking ps c docs s where
  handover : s.Handover
  indexed : s.tables.IndexedBut s.Awaits

theorem Tables.post?_congr {t t' : Tables} (posts : t'.posts = t.posts) (id : String) :
    t'.post? id = t.post? id := by
  rw [Tables.post?, Tables.post?, posts]

namespace Work

theorem keptByTaking_primed : KeptByTaking (Primed s₀ ps c docs) where
  record := fun hs he => hs.records _ _ he
  apart := fun hs apart => ⟨keptByTaking_tracking.apart hs.toTracking apart,
    hs.handover.apart hs.records apart, hs.indexed.of_documents apart.documents fun id behind =>
      ⟨fun awaits => behind (apart.awaits_iff.mpr awaits), Tables.post?_congr apart.posts id⟩⟩
  posts := fun hs hs' => hs'.posts.trans hs.posts.symm
  there := fun hs he mapped => keptByTaking_tracking.there hs.toTracking he mapped
  push := fun hs stored free => ⟨keptByTaking_tracking.push hs.toTracking stored free,
    hs.handover.push _, hs.indexed.mono fun _ awaits => awaits.push _⟩

end Work

/-! ## Roles -/

namespace Plan

variable {role role' : Role} {spares : Bool} {rs : List Ref}

theorem role?_setRole (p : Plan) (r q : Ref) (role : Role) :
    (p.setRole r role).role? q = if q = r then (p.role? q).map fun _ => role else p.role? q := by
  unfold role? setRole
  dsimp only
  induction p.roles with
  | nil => by_cases same : q = r <;> simp [same]
  | cons x roles ih =>
    rw [List.map_cons]
    have key : (if x.1 = r then (x.1, x.2.1, role) else x).1 = x.1 := by split <;> rfl
    by_cases here : q = x.1
    · subst here
      by_cases same : x.1 = r
      · rw [if_pos same, if_pos same, List.lookup_cons, List.lookup_cons]
        simp
      · rw [if_neg same, if_neg same, List.lookup_cons, List.lookup_cons]
        simp
    · rw [List.lookup_cons, List.lookup_cons, key, beq_false_of_ne here]
      exact ih

theorem refs_setRole (p : Plan) (r : Ref) (role : Role) :
    (p.setRole r role).roles.map Prod.fst = p.roles.map Prod.fst := by
  rw [setRole, List.map_map]
  refine List.map_congr_left fun x _ => ?_
  rw [Function.comp_apply]
  split <;> rfl

theorem mem_roles_setRole {x : Ref × Kind × Role} (h : x ∈ (p.setRole r role).roles) :
    ∃ y ∈ p.roles, y.1 = x.1 ∧ y.2.1 = x.2.1 := by
  obtain ⟨y, hy, rfl⟩ := List.mem_map.mp h
  refine ⟨y, hy, ?_⟩
  split <;> exact ⟨rfl, rfl⟩

/-- What planning for an entity does. -/
theorem register_cases (p : Plan) (s : Session) (r : Ref) (role : Role) (spares : Bool) :
    p.register s r role spares = p ∧ (s.contains r = true → (p.role? r).isSome = true) ∨
    (spares = true ∧ (p.role? r).isSome = true ∧
      p.register s r role spares = p.setRole r ⟨false, false⟩) ∨
    ∃ e, s.entity? r = some e ∧ e.isContained = true ∧ p.role? r = none ∧
      p.register s r role spares =
        { p.addKind e.kind with roles := p.roles ++ [(r, e.kind, role)] } := by
  unfold register Session.contains
  cases he : s.entity? r with
  | none => exact .inl ⟨rfl, fun h => by cases h⟩
  | some e =>
    dsimp only
    cases contained : e.isContained with
    | false => exact .inl ⟨rfl, fun h => by simp [contained] at h⟩
    | true =>
      cases known : (p.role? r).isSome with
      | true =>
        cases spares with
        | true => exact .inr (.inl ⟨rfl, rfl, rfl⟩)
        | false => exact .inl ⟨rfl, fun _ => rfl⟩
      | false =>
        refine .inr (.inr ⟨e, rfl, contained, Option.not_isSome_iff_eq_none.mp ?_, ?_⟩)
        · rw [known]
          exact Bool.false_ne_true
        · exact congrArg (fun roles => ({ p.addKind e.kind with
            roles := roles ++ [(r, e.kind, role)] } : Plan)) (roles_addKind p e.kind)

theorem role?_add (p p' : Plan) (r q : Ref) (k : Kind) (role : Role)
    (roles : p'.roles = p.roles ++ [(r, k, role)]) :
    p'.role? q = (p.role? q).or (if q = r then some role else none) := by
  unfold role?
  rw [roles, List.lookup_append, Option.map_or, List.lookup_cons]
  by_cases same : q = r
  · simp [same]
  · simp [same, beq_false_of_ne same]

theorem mem_kinds_addKind (p : Plan) (k : Kind) :
    k ∈ (p.addKind k).kinds ∧ ∀ k' ∈ p.kinds, k' ∈ (p.addKind k).kinds := by
  unfold addKind
  split
  · rename_i known
    exact ⟨List.contains_iff_mem.mp known, fun _ => id⟩
  · exact ⟨List.mem_append_right _ List.mem_cons_self, fun _ => List.mem_append_left _⟩

theorem related_addKind (p : Plan) (h : ∀ x ∈ p.strands, x.rel ∈ x.kind.relations) (k : Kind) :
    ∀ x ∈ (p.addKind k).strands, x.rel ∈ x.kind.relations := by
  unfold addKind
  split
  · exact h
  · intro x hx
    rcases List.mem_append.mp hx with old | new
    · exact h x old
    · obtain ⟨rel, hrel, rfl⟩ := List.mem_map.mp new
      exact hrel

/-! ## Plans that mind the posts -/

/-- Entities have one role each, under their kinds, and posts go only if they are to be taken out. -/
structure IsSane (s : Session) (p : Plan) : Prop where
  once : (p.roles.map Prod.fst).Nodup
  placed : ∀ x ∈ p.roles, (∃ e, s.entity? x.1 = some e ∧ e.kind = x.2.1) ∧ x.2.1 ∈ p.kinds
  related : ∀ x ∈ p.strands, x.rel ∈ x.kind.relations
  contained : ∀ r e, s.PostAt r e → (p.role? r).isSome = true → e.isContained = true
  going : ∀ r e, s.PostAt r e → p.goes r = true →
    p.role? r = some ⟨true, false⟩ ∧ e.isMapped = true ∧ e.isDoomed = true

/-- What is to be put in is written, and what was set or is to be taken out is written or goes. -/
structure Minds (s : Session) (p : Plan) : Prop extends IsSane s p where
  pending : ∀ r e, s.PostAt r e → e.isPending = true → p.role? r = some ⟨false, false⟩
  awaited : ∀ r e, s.PostAt r e → e.isMapped = true → ¬e.IsUnset ∨ e.isDoomed = true →
    p.role? r = some ⟨false, false⟩ ∨ p.goes r = true

theorem goes_iff : p.goes r = true ↔ ∃ role, p.role? r = some role ∧ role.goes = true := by
  rw [goes, Option.any_eq_true]

/-- Planning for an entity that stays, or for one that is to be taken out. -/
theorem IsSane.register (h : p.IsSane s) (fit : role.goes = true → role = ⟨true, false⟩ ∧
    ∀ e, s.PostAt r e → e.isMapped = true ∧ e.isDoomed = true) :
    (p.register s r role spares).IsSane s := by
  rcases p.register_cases s r role spares with ⟨same, -⟩ | ⟨-, -, same⟩ | ⟨e, he, contained, new, same⟩
  · rw [same]
    exact h
  · rw [same]
    refine ⟨(p.refs_setRole r _).symm ▸ h.once, fun x hx => ?_, h.related, fun q f hf known => ?_,
      fun q f hf goes => ?_⟩
    · obtain ⟨y, hy, ref, kind⟩ := mem_roles_setRole hx
      rw [← ref, ← kind]
      exact h.placed y hy
    · refine h.contained q f hf ?_
      rw [role?_setRole] at known
      split at known
      · exact (Option.isSome_map ..).symm.trans known
      · exact known
    · obtain ⟨role', found, goes⟩ := goes_iff.mp goes
      rw [role?_setRole] at found ⊢
      split at found
      · obtain ⟨-, -, rfl⟩ := Option.map_eq_some_iff.mp found
        cases goes
      · rename_i other
        rw [if_neg other]
        exact h.going q f hf (goes_iff.mpr ⟨role', found, goes⟩)
  · rw [same]
    have roles := fun q => role?_add p _ r q e.kind role (rfl :
      ({ p.addKind e.kind with roles := p.roles ++ [(r, e.kind, role)] } : Plan).roles = _)
    refine ⟨?_, fun x hx => ?_, p.related_addKind h.related e.kind, fun q f hf known => ?_,
      fun q f hf goes => ?_⟩
    · rw [List.map_append, List.nodup_append]
      refine ⟨h.once, List.nodup_singleton _, fun q hq q' hq' same => ?_⟩
      obtain rfl : q' = r := List.mem_singleton.mp hq'
      obtain ⟨x, hx, rfl⟩ := List.mem_map.mp hq
      have known := (p.isSome_role? x.1).mpr ⟨x, hx, rfl⟩
      rw [same, new] at known
      cases known
    · rcases List.mem_append.mp hx with old | last
      · obtain ⟨here, kind⟩ := h.placed x old
        exact ⟨here, (p.mem_kinds_addKind e.kind).2 _ kind⟩
      · obtain rfl := List.mem_singleton.mp last
        exact ⟨⟨e, he, rfl⟩, (p.mem_kinds_addKind e.kind).1⟩
    · by_cases other : q = r
      · subst other
        obtain rfl := Option.some.inj (he.symm.trans hf.1)
        exact contained
      · rw [roles, if_neg other, Option.or_none] at known
        exact h.contained q f hf known
    · obtain ⟨role', found, goes⟩ := goes_iff.mp goes
      rw [roles] at found ⊢
      by_cases other : q = r
      · subst other
        rw [if_pos rfl, new, Option.none_or] at found ⊢
        obtain rfl := Option.some.inj found
        obtain ⟨rfl, doomed⟩ := fit goes
        exact ⟨rfl, doomed f hf⟩
      · rw [if_neg other, Option.or_none] at found ⊢
        exact h.going q f hf (goes_iff.mpr ⟨role', found, goes⟩)

/-- Planning for one more entity that stays. -/
theorem Minds.register (h : p.Minds s) (stays : role.goes = false) :
    (p.register s r role spares).Minds s := by
  have sane : (p.register s r role spares).IsSane s := h.toIsSane.register fun goes => by
    rw [stays] at goes
    cases goes
  refine ⟨sane, ?_, ?_⟩
  all_goals rcases p.register_cases s r role spares with
    ⟨same, -⟩ | ⟨-, -, same⟩ | ⟨e, he, contained, new, same⟩ <;> rw [same]
  · exact h.pending
  · intro q f hf pending
    rw [role?_setRole, h.pending q f hf pending]
    split <;> rfl
  · intro q f hf pending
    rw [role?_add p _ r q e.kind role rfl, h.pending q f hf pending]
    rfl
  · exact h.awaited
  · intro q f hf mapped awaits
    have before := h.awaited q f hf mapped awaits
    rw [goes_iff] at before ⊢
    rw [role?_setRole]
    by_cases other : q = r
    · rw [if_pos other]
      rcases before with found | ⟨role', found, -⟩ <;> exact .inl (by rw [found]; rfl)
    · rw [if_neg other]
      exact before
  · intro q f hf mapped awaits
    have before := h.awaited q f hf mapped awaits
    rw [goes_iff] at before ⊢
    rw [role?_add p _ r q e.kind role rfl]
    rcases before with found | ⟨role', found, goes⟩
    · exact .inl (by rw [found]; rfl)
    · exact .inr ⟨role', by rw [found]; rfl, goes⟩

/-! ### The plan at first -/

theorem role?_registerEach (p : Plan) (s : Session) (rs : List Ref) (role : Role) (q : Ref) :
    (rs.foldl (fun p r => p.register s r role false) p).role? q =
      (p.role? q).or (if q ∈ rs ∧ s.contains q = true then some role else none) := by
  induction rs generalizing p with
  | nil => simp
  | cons r rs ih =>
    rw [List.foldl_cons, ih]
    rcases p.register_cases s r role false with ⟨same, known⟩ | ⟨spares, -⟩ |
      ⟨e, he, contained, new, same⟩
    · rw [same]
      cases found : p.role? q with
      | some role' => rfl
      | none =>
        have other : ¬(q = r ∧ s.contains q = true) := by
          rintro ⟨rfl, here⟩
          rw [found] at known
          cases known here
        by_cases here : s.contains q = true
        · have apart : q ≠ r := fun same => other ⟨same, here⟩
          simp [here, apart]
        · simp [here]
    · cases spares
    · rw [same, role?_add p _ r q e.kind role rfl, Option.or_assoc]
      have here : s.contains r = true := by
        rw [Session.contains, he]
        exact contained
      by_cases other : q = r
      · subst other
        simp [here]
      · simp [other]

theorem sane_registerEach {rs : List Ref} (h : p.IsSane s)
    (fit : ∀ r ∈ rs, role.goes = true → role = ⟨true, false⟩ ∧
      ∀ e, s.PostAt r e → e.isMapped = true ∧ e.isDoomed = true) :
    (rs.foldl (fun p r => p.register s r role spares) p).IsSane s := by
  induction rs generalizing p with
  | nil => exact h
  | cons r rs ih =>
    exact ih (h.register (fit r List.mem_cons_self)) fun q hq => fit q (List.mem_cons_of_mem r hq)

theorem minds_registerEach {rs : List Ref} (h : p.Minds s) (stays : role.goes = false) :
    (rs.foldl (fun p r => p.register s r role spares) p).Minds s := by
  induction rs generalizing p with
  | nil => exact h
  | cons r rs ih => exact ih (h.register stays)

theorem minds_initial (h : s.Tracks ps c) : (initial s).Minds s := by
  have contained : ∀ {r e}, s.PostAt r e → s.contains r = e.isContained := fun he => by
    rw [Session.contains, he.1]
    rfl
  have role : ∀ q, (initial s).role? q =
      (if q ∈ s.pending ++ s.dirty ∧ s.contains q = true then some ⟨false, false⟩ else none).or
        (if q ∈ s.doomed ∧ s.contains q = true then some ⟨true, false⟩ else none) := fun q => by
    rw [initial, role?_registerEach, role?_registerEach]
    rfl
  refine ⟨?_, fun r e he pending => ?_, fun r e he mapped awaits => ?_⟩
  · have none : empty.IsSane s :=
      ⟨List.nodup_nil, fun x hx => (by cases hx), fun x hx => (by cases hx),
        fun r e _ h => (by cases h), fun r e _ h => (by cases h)⟩
    refine sane_registerEach (sane_registerEach none fun _ _ goes => by cases goes) fun r hr _ => ?_
    refine ⟨rfl, fun e he => ?_⟩
    have doomed := (mem_refs he.1).mp hr
    exact ⟨(h.records r e he).doomed doomed, doomed⟩
  · have first : r ∈ s.pending := List.mem_mergeSort.mpr ((mem_refs he.1).mpr pending)
    rw [role, if_pos ⟨List.mem_append_left _ first, by
      rw [contained he, Entity.isContained, pending]; rfl⟩]
    rfl
  · have here : s.contains r = true := by
      rw [contained he, Entity.isContained, mapped, Bool.or_true]
    rw [goes_iff, role]
    by_cases doomed : e.isDoomed = true
    · have last : r ∈ s.doomed := (mem_refs he.1).mpr doomed
      split
      · exact .inl rfl
      · rw [if_pos ⟨last, here⟩]
        exact .inr ⟨_, rfl, rfl⟩
    · have set := awaits.resolve_right doomed
      have touched : e.isTouched = true :=
        Bool.of_not_eq_false fun untouched => set (h.unset r e he mapped untouched)
      have dirty : r ∈ s.dirty := by
        refine (mem_refs he.1).mpr ?_
        rw [Entity.isDirty, mapped, touched, Bool.of_not_eq_true doomed]
        rfl
      rw [if_pos ⟨List.mem_append_right _ dirty, here⟩]
      exact .inl rfl

/-! ### Looking at relations -/

theorem Minds.of_same {p' : Plan} (h : p.Minds s) (roles : p'.roles = p.roles)
    (kinds : p'.kinds = p.kinds) (related : ∀ x ∈ p'.strands, x.rel ∈ x.kind.relations) :
    p'.Minds s := by
  have same : ∀ r, p'.role? r = p.role? r := fun r => by rw [role?, roles, role?]
  have goes : ∀ r, p'.goes r = p.goes r := fun r => by rw [Plan.goes, same, Plan.goes]
  refine ⟨⟨roles ▸ h.once, fun x hx => kinds ▸ h.placed x (roles ▸ hx), related, fun r e he known =>
    h.contained r e he (same r ▸ known), fun r e he going => same r ▸ h.going r e he (goes r ▸ going)⟩,
    fun r e he pending => same r ▸ h.pending r e he pending,
    fun r e he mapped awaits => same r ▸ goes r ▸ h.awaited r e he mapped awaits⟩

theorem Minds.apart (h : p.Minds s) (apart : s.Apart s') : p.Minds s' := by
  refine ⟨⟨h.once, fun x hx => ?_, h.related, fun r e' he' known => ?_, fun r e' he' goes => ?_⟩,
    fun r e' he' pending => ?_, fun r e' he' mapped awaits => ?_⟩
  · obtain ⟨⟨e, he, kind⟩, known⟩ := h.placed x hx
    obtain ⟨e', he', same, -⟩ := apart.altered.entities _ e he
    exact ⟨⟨e', he', same.trans kind⟩, known⟩
  all_goals obtain ⟨e, he, reread⟩ := apart.back he'
  · exact reread.contained ▸ h.contained r e he known
  · exact reread.mapped ▸ reread.doomed ▸ h.going r e he goes
  · exact h.pending r e he (reread.pending ▸ pending)
  · exact h.awaited r e he (reread.mapped ▸ mapped) (awaits.imp (mt reread.unset_iff.mpr)
      fun doomed => reread.doomed ▸ doomed)

theorem Minds.push (h : p.Minds s) (row : Row) :
    p.Minds { s with entities := s.entities ++ [.ofRow row] } := by
  -- The new entity has no role, and nothing is to be done with it.
  have fresh : p.role? s.entities.length = none := by
    refine Option.not_isSome_iff_eq_none.mp fun known => ?_
    obtain ⟨x, hx, same⟩ := (p.isSome_role? _).mp known
    obtain ⟨⟨e, he, -⟩, -⟩ := h.placed x hx
    exact absurd (List.getElem?_eq_some_iff.mp he).1 (same ▸ Nat.lt_irrefl _)
  have old : ∀ {r e}, ({ s with entities := s.entities ++ [.ofRow row] } : Session).PostAt r e →
      s.PostAt r e ∨ r = s.entities.length ∧ e = .ofRow row := fun ⟨he, post⟩ =>
    (of_entity?_push he).imp_left fun he => ⟨he, post⟩
  refine ⟨⟨h.once, fun x hx => ?_, h.related, fun r e he known => ?_, fun r e he goes => ?_⟩,
    fun r e he pending => ?_, fun r e he mapped awaits => ?_⟩
  · obtain ⟨⟨e, he, kind⟩, known⟩ := h.placed x hx
    exact ⟨⟨e, entity?_push he _, kind⟩, known⟩
  all_goals rcases old he with he | ⟨rfl, rfl⟩
  · exact h.contained r e he known
  · rfl
  · exact h.going r e he goes
  · obtain ⟨role, found, -⟩ := goes_iff.mp goes
    rw [fresh] at found
    cases found
  · exact h.pending r e he pending
  · cases pending
  · exact h.awaited r e he mapped awaits
  · rcases awaits with set | doomed
    · exact absurd (fun _ _ => rfl) set
    · cases doomed

end Plan

/-- A session that is being flushed, before anything is written. -/
structure Minding (s₀ : Session) (ps : List PostRow) (c : Tables) (docs : List DocumentRow)
    (p : Plan) (s : Session) : Prop extends Primed s₀ ps c docs s where
  minds : p.Minds s

theorem keptByTaking_minding : Work.KeptByTaking (Minding s₀ ps c docs p) where
  record := fun hs he => hs.records _ _ he
  apart := fun hs apart => ⟨Work.keptByTaking_primed.apart hs.toPrimed apart, hs.minds.apart apart⟩
  posts := fun hs hs' => hs'.posts.trans hs.posts.symm
  there := fun hs he mapped => Work.keptByTaking_primed.there hs.toPrimed he mapped
  push := fun hs stored free => ⟨Work.keptByTaking_primed.push hs.toPrimed stored free,
    hs.minds.push _⟩

namespace Plan

variable {x : Strand} {α : Type}

/-- What is done before anything is written may fail, and then nothing was. -/
theorem minding {m : Work α} (h : Work.Keeps (Minding s₀ ps c docs p) m fun _ => True) :
    Work.Triple (Minding s₀ ps c docs p) m (fun _ => Minding s₀ ps c docs p)
      fun _ => Primed s₀ ps c docs :=
  Work.Triple.weaken h (fun _ h => h) (fun _ _ h => h.1) fun _ _ h => h.1.toPrimed

theorem Minds.registerAll (h : p.Minds s) (ms : List (Option Ref)) {role : Role} (spares : Bool)
    (stays : role.goes = false) : (p.registerAll s ms role spares).Minds s :=
  minds_registerEach h stays

theorem minding_lookAtGoing (x : Strand) (p : Plan) (r : Ref) :
    Work.Triple (Minding s₀ ps c docs p) (lookAtGoing x p r) (Minding s₀ ps c docs)
      fun _ => Primed s₀ ps c docs := by
  unfold lookAtGoing
  split
  · refine Work.Triple.bind (minding (Work.keeps_look r)) fun e => ?_
    refine Work.Triple.bind (Q := fun s' s => s' = s ∧ Minding s₀ ps c docs p s)
      (Work.Triple.get fun s hs => ⟨rfl, hs⟩) fun s' => Work.Triple.pure ?_
    rintro s ⟨rfl, hs⟩
    exact ⟨hs.toPrimed, hs.minds.registerAll _ false rfl⟩
  · split
    · exact Work.Triple.bind (minding (keptByTaking_minding.formerMembers r x.rel)) fun _ =>
        Work.Triple.pure fun _ hs => hs
    · exact Work.Triple.pure fun _ hs => hs

theorem minding_lookAtStaying (x : Strand) (p : Plan) (r : Ref) :
    Work.Triple (Minding s₀ ps c docs p) (lookAtStaying x p r) (Minding s₀ ps c docs)
      fun _ => Primed s₀ ps c docs := by
  unfold lookAtStaying
  split
  · refine Work.Triple.bind (minding (Work.keeps_look r)) fun e => ?_
    refine Work.Triple.bind (Q := fun s' s => s' = s ∧ Minding s₀ ps c docs p s)
      (Work.Triple.get fun s hs => ⟨rfl, hs⟩) fun s' => Work.Triple.pure ?_
    rintro s ⟨rfl, hs⟩
    have gained : (p.registerAll s' (e.memberShift x.rel).gained ⟨false, false⟩ true).Minds s' :=
      hs.minds.registerAll _ true rfl
    split
    · exact ⟨hs.toPrimed, gained.registerAll _ false rfl⟩
    · exact ⟨hs.toPrimed, gained⟩
  · exact Work.Triple.pure fun _ hs => hs

theorem minding_lookAt (done : Plan × Bool) (at? : Kind × Relation) :
    Work.Triple (Minding s₀ ps c docs done.1) (lookAt done at?)
      (fun done => Minding s₀ ps c docs done.1) fun _ => Primed s₀ ps c docs := by
  obtain ⟨p, any⟩ := done
  unfold lookAt
  dsimp only
  split
  · exact Work.Triple.pure fun _ hs => hs
  · rename_i x found
    intro s hs
    have hx := hs.minds.related x (List.mem_of_find?_eq_some found)
    revert s
    refine Work.Triple.bind (Work.Triple.foldlM (fun r _ p => minding_lookAtGoing x p r) p) fun p => ?_
    refine Work.Triple.bind (Work.Triple.foldlM (fun r _ p => minding_lookAtStaying x p r) p)
      fun p => ?_
    refine Work.Triple.bind (minding (keeps_takesPart keptByTaking_minding.reviving p x _ _))
      fun takes => Work.Triple.pure fun s hs => ⟨hs.toPrimed, hs.minds.of_same rfl rfl fun z hz => ?_⟩
    obtain ⟨y, hy, rfl⟩ := List.mem_map.mp hz
    split
    · exact hx
    · exact hs.minds.related y hy

/-- A plan that was completed minds the posts still. -/
theorem minding_complete (n : Nat) (p : Plan) :
    Work.Triple (Minding s₀ ps c docs p) (complete n p) (Minding s₀ ps c docs)
      fun _ => Primed s₀ ps c docs := by
  induction n generalizing p with
  | zero => exact Work.Triple.pure fun _ hs => hs
  | succ n ih =>
    refine Work.Triple.bind (Work.Triple.foldlM (J := fun done => Minding s₀ ps c docs done.1)
      (fun at? _ done => minding_lookAt done at?) (p, false)) fun done => ?_
    dsimp only
    split
    · exact ih done.1
    · exact Work.Triple.pure fun _ hs => hs

end Plan

end Session

end Weblog
