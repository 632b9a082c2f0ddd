/-
  Posts while a flush is being carried out.

  Some entities of posts have a row, and of these some hold what it holds; the others know of it what
  they did before the flush. Documents lag behind for some of the rows. How far things have got with each
  entity is a `Stage`, and a session at a stage can be taken back still (`Filing`). Whatever is done aside
  from posts leaves a session at its stage. The first stage is reached when the posts that are put in have
  been told from those whose rows are changed (`Sorted.filing`).
-/
import Weblog.Proofs.Session.Aside

namespace Weblog

namespace Session

variable {s s' s₀ : Session} {r q : Ref} {e f : Entity} {c : Tables} {p p' : PostRow}
  {ps : List PostRow} {docs : List DocumentRow} {now : Instant} {id : String} {p₀ : Plan}

/-! ## Stages -/

/-- How far a flush has got with the entities of posts. -/
structure Stage where
  /-- The entity is one of a post. -/
  post : Ref → Prop
  /-- The entity is written. -/
  busy : Ref → Prop
  /-- The entity goes. -/
  leaves : Ref → Prop
  /-- The entity has a row. -/
  housed : Ref → Prop
  /-- The entity holds what its row holds. -/
  current : Ref → Prop
  /-- The document of the row is not written or taken out yet. -/
  behind : Ref → Prop

variable {x x' : Stage}

/-- A session at a stage of a flush. Every post but those that no entity stands for is the row of one
entity, which knows what the row holds, and documents lag behind for some rows only. -/
structure Filing (x : Stage) (c : Tables) (s : Session) : Prop extends Recoverable c s where
  whole : s.broken = false
  distinct : (s.tables.posts.map (·.id)).Nodup
  home : ∀ r e, s.PostAt r e → x.housed r → ∃ p ∈ s.tables.posts, e.rowId? = some p.id ∧
    (x.current r → e.Bears p) ∧ (e.key?.isSome = true → e.Follows p ∨ e.Bears p)
  standing : ∀ r e, s.PostAt r e → x.housed r →
    (e.key?.isSome = true → e.isMapped = true) ∧ (e.key? = none → e.isPending = true)
  single : ∀ r q e f id, s.PostAt r e → s.PostAt q f → x.housed r → x.housed q →
    e.rowId? = some id → f.rowId? = some id → r = q
  spare : ∀ p ∈ s.tables.posts, (∃ r e, s.PostAt r e ∧ x.housed r ∧ e.rowId? = some p.id) ∨
    p.id ∈ c.posts.map (·.id) ∧ ∀ r e, s.PostAt r e → ¬e.Holds p.id
  named : ∀ r, x.post r ↔ ∃ e, s.PostAt r e
  mapped : ∀ r e, s.PostAt r e → e.isMapped = true → x.housed r ∨ x.leaves r
  idle : ∀ r e, s.PostAt r e → ¬x.busy r → ¬x.leaves r → e.isPending = false ∧
    (x.housed r → e.isMapped = true) ∧ (e.isMapped = true → e.IsUnset)
  leaving : ∀ r e, s.PostAt r e → x.leaves r →
    e.key?.isSome = true ∧ (e.isMapped = true ∨ e.wasRemoved = true)
  indexed : s.tables.IndexedBut fun id => ∃ r e, s.PostAt r e ∧ x.behind r ∧ e.rowId? = some id

namespace Filing

theorem apart (h : s.Filing x c) (apart : s.Apart s') : s'.Filing x c where
  toRecoverable := h.toRecoverable.apart apart
  whole := apart.broken.trans h.whole
  distinct := apart.posts ▸ h.distinct
  home := by
    intro r e' he' housed
    obtain ⟨e, he, reread⟩ := apart.back he'
    have record := h.records r e he
    obtain ⟨p, hp, hid, bears, follows⟩ := h.home r e he housed
    have own : ∀ id, e.key? = some (.text id) → id = p.id := fun id hkey =>
      Option.some.inj ((Entity.rowId?_of_key hkey).symm.trans hid)
    refine ⟨p, apart.posts ▸ hp, (reread.rowId?_eq record).trans hid,
      fun current => reread.bears h.distinct hp own (bears current), fun keyed => ?_⟩
    rw [reread.key] at keyed
    exact (follows keyed).imp (reread.follows h.distinct hp (record.key_of_rowId? keyed hid))
      (reread.bears h.distinct hp own)
  standing := by
    intro r e' he' housed
    obtain ⟨e, he, reread⟩ := apart.back he'
    rw [reread.key, reread.mapped, reread.pending]
    exact h.standing r e he housed
  single := by
    intro r q e' f' id he' hf' housed housed' hid hid'
    obtain ⟨e, he, reread⟩ := apart.back he'
    obtain ⟨f, hf, reread'⟩ := apart.back hf'
    rw [reread.rowId?_eq (h.records r e he)] at hid
    rw [reread'.rowId?_eq (h.records q f hf)] at hid'
    exact h.single r q e f id he hf housed housed' hid hid'
  spare := by
    intro p hp
    refine (h.spare p (apart.posts ▸ hp)).imp ?_ fun ⟨old, free⟩ => ⟨old, fun r e' he' holds => ?_⟩
    · rintro ⟨r, e, he, housed, hid⟩
      obtain ⟨e', he', reread⟩ := apart.altered.forth he
      exact ⟨r, e', he', housed, (reread.rowId?_eq (h.records r e he)).trans hid⟩
    · obtain ⟨e, he, reread⟩ := apart.back he'
      exact free r e he (reread.holds_iff.mp holds)
  named := by
    intro r
    refine (h.named r).trans ⟨fun ⟨e, he⟩ => ?_, fun ⟨e', he'⟩ => ?_⟩
    · obtain ⟨e', he', -⟩ := apart.altered.forth he
      exact ⟨e', he'⟩
    · obtain ⟨e, he, -⟩ := apart.back he'
      exact ⟨e, he⟩
  mapped := by
    intro r e' he' mapped
    obtain ⟨e, he, reread⟩ := apart.back he'
    exact h.mapped r e he (reread.mapped ▸ mapped)
  idle := by
    intro r e' he' away stays
    obtain ⟨e, he, reread⟩ := apart.back he'
    obtain ⟨waits, housed, unset⟩ := h.idle r e he away stays
    rw [reread.pending, reread.mapped]
    exact ⟨waits, housed, fun mapped => reread.unset_iff.mpr (unset mapped)⟩
  leaving := by
    intro r e' he' leaves
    obtain ⟨e, he, reread⟩ := apart.back he'
    rw [reread.key, reread.mapped, reread.removed]
    exact h.leaving r e he leaves
  indexed := by
    refine h.indexed.of_documents apart.documents fun id upToDate => ⟨fun late => upToDate ?_, ?_⟩
    · obtain ⟨r, e, he, behind, hid⟩ := late
      obtain ⟨e', he', reread⟩ := apart.altered.forth he
      exact ⟨r, e', he', behind, (reread.rowId?_eq (h.records r e he)).trans hid⟩
    · exact Tables.post?_congr apart.posts id

theorem keptByTasks : Work.KeptByTasks x.post (Filing x c) where
  record := fun hs he => hs.records _ _ he
  apart := fun hs apart => hs.apart apart
  named := fun hs he => ⟨fun post => (hs.named _).mpr ⟨_, he, post⟩, fun post => by
    obtain ⟨e', he'⟩ := (hs.named _).mp post
    exact Option.some.inj (he.symm.trans he'.1) ▸ he'.2⟩

theorem keptAside : Work.KeptAside (Filing x c) := keptByTasks.toKeptAside

end Filing

/-! ## Rows that are taken over -/

/-- An entity without a row holds the identifier of another one that has one. -/
def Takes (s : Session) (r q : Ref) : Prop := ∃ e f id, s.PostAt r e ∧ s.PostAt q f ∧
  e.key? = none ∧ e.held? .id = some (.text id) ∧ f.isMapped = true ∧ f.key? = some (.text id)

theorem Reads.takes (h : s.Reads s') (takes : s.Takes r q) : s'.Takes r q := by
  obtain ⟨e, f, id, he, hf, unkeyed, held, mapped, hkey⟩ := takes
  obtain ⟨e', he', _, reread⟩ := Altered.forth h he
  obtain ⟨f', hf', _, reread'⟩ := Altered.forth h hf
  exact ⟨e', f', id, he', hf', reread.key.trans unkeyed,
    (reread.held_of_unkeyed unkeyed (by decide)).trans held, reread'.mapped.trans mapped,
    reread'.key.trans hkey⟩

/-- The entity of a post that has a row, or has none. -/
def HasKey (s : Session) (r : Ref) (keyed : Bool) : Prop := ∃ e, s.PostAt r e ∧ e.key?.isSome = keyed

theorem Reads.hasKey (h : s.Reads s') {keyed : Bool} (has : s.HasKey r keyed) : s'.HasKey r keyed := by
  obtain ⟨e, he, same⟩ := has
  obtain ⟨e', he', _, reread⟩ := Altered.forth h he
  exact ⟨e', he', reread.key ▸ same⟩

/-- Posts told apart: those that are put in, and those whose rows are changed, be they their own or
those of posts that go. -/
structure Sorted (p p' : Plan) (rs new old : List Ref) (s : Session) : Prop where
  perm : (new ++ old).Perm rs
  unkeyed : ∀ r ∈ new, s.HasKey r false
  seated : ∀ r ∈ old, s.HasKey r true ∨
    ∃ q, p.goes q = true ∧ p'.role? q = some ⟨true, true⟩ ∧ s.Takes r q
  goes : ∀ q, p'.goes q = p.goes q
  roles : ∀ q, p'.role? q = p.role? q ∨
    p.goes q = true ∧ p'.role? q = some ⟨true, true⟩ ∧ ∃ r ∈ old, s.Takes r q
  fits : ∀ {N R}, p.Fits N R → ∃ R', p'.Fits N R'

namespace Work

variable {J : Session → Prop} {p p' : Plan} {rs : List Ref}

theorem takesOver_post (h : KeptAside J)
    (there : ∀ {s r e}, J s → s.PostAt r e → e.isMapped = true →
      ∃ p ∈ s.tables.posts, e.key? = some (.text p.id))
    (unkeyed : ∀ {s}, J s → s.HasKey r false) :
    Triple J (takesOver p .post r)
      (fun o s => J s ∧ ∀ p' ∈ o, ∃ q, p.goes q = true ∧ p' = p.setRole q ⟨true, true⟩ ∧ s.Takes r q)
      fun _ => J := by
  refine Triple.look (fun _ hs _ => hs) fun s e hs he => ?_
  refine Triple.weaken (P := J) ?_ (fun _ same => same ▸ hs) (fun _ _ h => h) fun _ _ h => h
  have ready : Triple J (revive r) (fun _ => J) fun _ => J :=
    Triple.weaken (h.reviving.revive r) (fun _ h => h) (fun _ _ h => h.1) fun _ _ h => h.1
  refine Triple.readied (fun _ => ready) (fun _ h => h) ?_
  refine Triple.look (fun _ hs _ => hs) fun s e hs he => ?_
  obtain ⟨e', he', none⟩ := unkeyed hs
  obtain rfl := Option.some.inj (he.symm.trans he'.1)
  have none := Option.not_isSome_iff_eq_none.mp (Bool.eq_false_iff.mp none)
  split
  · exact Triple.pure fun _ same => ⟨same ▸ hs, fun _ h => by cases h⟩
  · rename_i id held
    have both := h.and (T := fun s => ∃ e, s.PostAt r e ∧ e.key? = Option.none ∧ e.held? .id = some id)
      fun _ apart ⟨e, he, none, held⟩ => by
        obtain ⟨e', he', reread⟩ := apart.altered.forth he
        exact ⟨e', he', reread.key.trans none,
          (reread.held_of_unkeyed none (by decide)).trans held⟩
    refine Triple.bind (Triple.weaken (both.entity .post id fun _ {_ _ _} hs => there hs.1)
      (fun _ same => same ▸ ⟨hs, e, he', none, held⟩) (fun _ _ h => h) fun _ _ h => h.1.1) fun o => ?_
    cases o with
    | none => exact Triple.pure fun _ h => ⟨h.1.1, fun _ h => by cases h⟩
    | some q =>
      refine Triple.pure fun s' done => ?_
      obtain ⟨⟨hs', e, he, none, held⟩, here⟩ := done
      refine ⟨hs', fun p' hp' => ?_⟩
      split at hp'
      · rename_i goes
        cases hp'
        obtain ⟨f, hf, here⟩ := here q rfl
        have post : s'.PostAt q f := ⟨hf, kind_of_isAt here⟩
        simp only [isAt, Bool.and_eq_true, Option.any_eq_true] at here
        obtain ⟨⟨mapped, -⟩, key, hkey, same⟩ := here
        obtain ⟨⟨name, rfl⟩, -⟩ := (h.record hs' post).key key hkey
        have equal := Cell.IsText.eq_of_same (by trivial)
          ((h.record hs' he).texts .id (by decide) id held) same
        exact ⟨q, goes, rfl, e, f, name, he, post, none, equal ▸ held, mapped, hkey⟩
      · cases hp'

theorem sortOut_post (h : KeptAside J)
    (there : ∀ {s r e}, J s → s.PostAt r e → e.isMapped = true →
      ∃ p ∈ s.tables.posts, e.key? = some (.text p.id))
    (posts : ∀ {s}, J s → ∀ r ∈ rs, ∃ e, s.PostAt r e) :
    Triple J (sortOut .post p rs) (fun x s => J s ∧ Sorted p x.1 rs x.2.1 x.2.2 s) fun _ => J := by
  induction rs generalizing J p with
  | nil => exact Triple.pure fun s hs => ⟨hs, .nil, fun _ h => (by cases h), fun _ h => (by cases h),
      fun _ => rfl, fun _ => .inl rfl, fun fits => ⟨_, fits⟩⟩
  | cons r rs ih =>
    refine Triple.look (fun _ hs _ => hs) fun s e hs he => ?_
    obtain ⟨e', he'⟩ := posts hs r List.mem_cons_self
    obtain rfl := Option.some.inj (he.symm.trans he'.1)
    have rest : ∀ {s}, J s → ∀ r ∈ rs, ∃ e, s.PostAt r e :=
      fun hs q hq => posts hs q (List.mem_cons_of_mem r hq)
    split
    · rename_i keyed
      have both := h.and (T := fun s => s.HasKey r true) fun _ apart has => apart.reads.hasKey has
      refine Triple.bind (Triple.weaken (ih (p := p) both (fun hs => there hs.1) fun hs => rest hs.1)
        (fun _ same => same ▸ ⟨hs, e, he', keyed⟩) (fun _ _ h => h) fun _ _ h => h.1) fun x => ?_
      refine Triple.pure fun s' done => ?_
      obtain ⟨⟨hs', has⟩, sorted⟩ := done
      refine ⟨hs', List.perm_middle.trans (sorted.perm.cons r), sorted.unkeyed,
        List.forall_mem_cons.mpr ⟨.inl has, sorted.seated⟩, sorted.goes, fun q => ?_, sorted.fits⟩
      refine (sorted.roles q).imp_right fun taken => ?_
      obtain ⟨goes, role, t, ht, takes⟩ := taken
      exact ⟨goes, role, t, List.mem_cons_of_mem r ht, takes⟩
    · rename_i unkeyed
      have both := h.and (T := fun s => s.HasKey r false) fun _ apart has => apart.reads.hasKey has
      refine Triple.bind (Triple.weaken (takesOver_post (p := p) (r := r) both (fun hs => there hs.1)
        fun hs => hs.2) (fun _ same => same ▸ ⟨hs, e, he', Bool.eq_false_iff.mpr unkeyed⟩)
        (fun _ _ h => h) fun _ _ h => h.1) fun o => ?_
      cases o with
      | none =>
        dsimp only
        refine Triple.bind (Triple.weaken (ih (p := p) both (fun hs => there hs.1) fun hs => rest hs.1)
          (fun _ h => h.1) (fun _ _ h => h) fun _ _ h => h.1) fun x => ?_
        refine Triple.pure fun s' done => ?_
        obtain ⟨⟨hs', has⟩, sorted⟩ := done
        exact ⟨hs', sorted.perm.cons r, List.forall_mem_cons.mpr ⟨has, sorted.unkeyed⟩, sorted.seated,
          sorted.goes, sorted.roles, sorted.fits⟩
      | some p₁ =>
        dsimp only
        rintro s₁ ⟨⟨hs₁, -⟩, took⟩
        obtain ⟨q, goes, rfl, takes⟩ := took p₁ rfl
        have taken := h.and (T := fun s => s.Takes r q) fun _ apart takes => apart.reads.takes takes
        refine Triple.bind (Triple.weaken (ih (p := p.setRole q ⟨true, true⟩) taken
          (fun hs => there hs.1) fun hs => rest hs.1) (fun _ h => h) (fun _ _ h => h) fun _ _ h => h.1)
          (fun x => ?_) s₁ ⟨hs₁, takes⟩
        refine Triple.pure fun s' done => ?_
        obtain ⟨⟨hs', takes⟩, sorted⟩ := done
        refine ⟨hs', ?_⟩
        have role : (p.setRole q ⟨true, true⟩).role? q = some ⟨true, true⟩ := by
          obtain ⟨role, known, -⟩ := Plan.goes_iff.mp goes
          rw [Plan.role?_setRole, if_pos rfl, known]
          rfl
        have before : ∀ t, (p.setRole q ⟨true, true⟩).goes t = p.goes t := by
          intro t
          by_cases same : t = q
          · rw [same, goes]
            exact Plan.goes_iff.mpr ⟨_, role, rfl⟩
          · rw [Plan.goes, Plan.role?_setRole, if_neg same, Plan.goes]
        have spent : x.1.role? q = some ⟨true, true⟩ := by
          rcases sorted.roles q with same | ⟨-, taken, -⟩
          · exact same.trans role
          · exact taken
        refine ⟨List.perm_middle.trans (sorted.perm.cons r), sorted.unkeyed,
          List.forall_mem_cons.mpr ⟨.inr ⟨q, goes, spent, takes⟩, fun t ht => ?_⟩,
          fun t => (sorted.goes t).trans (before t), fun t => ?_,
          fun fits => (fits.exists_setRole q _).elim fun _ fits => sorted.fits fits⟩
        · refine (sorted.seated t ht).imp_right fun seat => ?_
          obtain ⟨q', goes', h⟩ := seat
          exact ⟨q', before q' ▸ goes', h⟩
        · rcases sorted.roles t with same | ⟨goes', role', u, hu, takes'⟩
          · by_cases here : t = q
            · subst here
              exact .inr ⟨goes, spent, r, List.mem_cons_self, takes⟩
            · rw [Plan.role?_setRole, if_neg here] at same
              exact .inl same
          · exact .inr ⟨before t ▸ goes', role', u, List.mem_cons_of_mem r hu, takes'⟩

end Work

/-! ## The stage at first -/

variable {pl pl' : Plan} {rs new old : List Ref}

/-- The stage when posts were told apart: those that a session finds by their keys have rows, but for
those whose rows are taken over, and so have those that take them over. -/
def stageOf (s : Session) (pl' : Plan) (new old : List Ref) : Stage where
  post r := ∃ e, s.PostAt r e
  busy r := r ∈ new ++ old
  leaves r := pl'.goes r = true
  housed r := (∃ e, s.PostAt r e ∧ e.isMapped = true) ∧ pl'.role? r ≠ some ⟨true, true⟩ ∨ r ∈ old
  current r := r ∉ old ∧ pl'.goes r = false
  behind r := r ∈ new ++ old ∨ pl'.role? r = some ⟨true, false⟩

section Start

variable (h : Minding s₀ ps c docs p₀ s) (sorted : Sorted pl pl' rs new old s)
  (same : ∀ r e, s.PostAt r e → pl.role? r = p₀.role? r)
  (staying : ∀ r e, s.PostAt r e → (r ∈ rs ↔ p₀.role? r = some ⟨false, false⟩))

include sorted same

theorem Sorted.goes_eq (he : s.PostAt r e) : pl'.goes r = p₀.goes r := by
  rw [sorted.goes, Plan.goes, same r e he, Plan.goes]

include h

/-- An entity that is found by its key has its row, or another one takes it over. -/
theorem Sorted.housed_or_taken (he : s.PostAt r e) :
    pl'.role? r = p₀.role? r ∧ pl'.role? r ≠ some ⟨true, true⟩ ∨
      ∃ t ∈ old, ∃ f, s.PostAt t f ∧ f.rowId? = e.rowId? := by
  have known := same r e he
  rcases sorted.roles r with stays | ⟨-, -, t, ht, f, e', id, hf, he', unkeyed, held, -, hkey⟩
  · refine .inl ⟨stays.trans known, fun spent => ?_⟩
    have role := stays.symm.trans spent
    rw [known] at role
    obtain ⟨going, -⟩ := h.minds.going r e he (Plan.goes_iff.mpr ⟨_, role, rfl⟩)
    rw [role] at going
    cases going
  · obtain rfl := he.eq he'
    refine .inr ⟨t, ht, f, hf, ?_⟩
    rw [Entity.rowId?_of_unkeyed unkeyed, held, Entity.rowId?_of_key hkey]
    rfl

include staying

omit same in
/-- An entity that is written is found by its key, or is to be put in. -/
theorem Sorted.standing (he : s.PostAt r e) (written : r ∈ new ++ old) :
    e.key?.isSome = true ∧ e.isMapped = true ∨ e.key? = none ∧ e.isPending = true := by
  have role := (staying r e he).mp (sorted.perm.subset written)
  have contained := h.minds.contained r e he (by rw [role]; rfl)
  have record := h.records r e he
  rw [Entity.isContained, Bool.or_eq_true] at contained
  rcases contained with pending | mapped
  · exact .inr ⟨record.unkeyed pending, pending⟩
  · exact .inl ⟨record.keyed mapped, mapped⟩

/-- An entity with a row has its own, or takes over that of one that goes. -/
theorem Sorted.seat (he : s.PostAt r e) (housed : (stageOf s pl' new old).housed r)
    (hid : e.rowId? = some id) :
    (e.isMapped = true ∧ e.key? = some (.text id) ∧ pl'.role? r ≠ some ⟨true, true⟩) ∨
    (r ∈ old ∧ e.key? = none ∧ s.TakesOver r id ∧
      ∃ q f, s.PostAt q f ∧ f.isMapped = true ∧ f.key? = some (.text id) ∧
        pl'.role? q = some ⟨true, true⟩) := by
  have record := h.records r e he
  have own : e.isMapped = true → e.key? = some (.text id) := fun mapped =>
    record.key_of_rowId? (record.keyed mapped) hid
  rcases housed with ⟨⟨e', he', mapped⟩, stays⟩ | written
  · obtain rfl := he.eq he'
    exact .inl ⟨mapped, own mapped, stays⟩
  · have standing := sorted.standing h staying he (List.mem_append_right new written)
    rcases sorted.seated r written with ⟨e', he', keyed⟩ | ⟨q, goes, role, e', f, name, he', hf, unkeyed,
      held, mapped, hkey⟩
    · obtain rfl := he.eq he'
      have mapped : e.isMapped = true := by
        refine (standing.resolve_right fun unkeyed => ?_).2
        rw [unkeyed.1] at keyed
        cases keyed
      refine .inl ⟨mapped, own mapped, fun spent => ?_⟩
      have role := (staying r e he).mp (sorted.perm.subset (List.mem_append_right new written))
      have stays : p₀.goes r = false := by rw [Plan.goes, role]; rfl
      rw [← sorted.goes_eq same he, Plan.goes, spent] at stays
      cases stays
    · obtain rfl := he.eq he'
      have pending : e.isPending = true := by
        refine (standing.resolve_left fun keyed => ?_).2
        rw [unkeyed] at keyed
        cases keyed.1
      have equal : name = id := by
        rw [Entity.rowId?_of_unkeyed unkeyed, held] at hid
        exact Option.some.inj hid
      subst equal
      rw [← sorted.goes, sorted.goes_eq same hf] at goes
      obtain ⟨-, -, doomed⟩ := h.minds.going q f hf goes
      exact .inr ⟨written, unkeyed, ⟨⟨e, he, pending, held⟩, q, f, hf, mapped, doomed, hkey⟩, q, f, hf,
        mapped, hkey, role⟩

/-- What is neither written nor goes was not set. -/
theorem Sorted.unset (he : s.PostAt r e) (away : r ∉ new ++ old) (stays : ¬pl'.goes r = true)
    (mapped : e.isMapped = true) : e.IsUnset := by
  by_contra set
  rw [sorted.goes_eq same he] at stays
  rcases h.minds.awaited r e he mapped (.inl set) with role | goes
  · exact away (sorted.perm.symm.subset ((staying r e he).mpr role))
  · exact stays goes

theorem Sorted.filing : s.Filing (stageOf s pl' new old) c where
  toRecoverable := h.toRecoverable
  whole := h.whole
  distinct := h.posts ▸ h.distinct
  home := by
    intro r e he housed
    have record := h.records r e he
    have unset : (stageOf s pl' new old).current r → e.isMapped = true → e.IsUnset := by
      rintro ⟨away, stays⟩ mapped
      refine sorted.unset h same staying he (fun written => ?_) (Bool.eq_false_iff.mp stays) mapped
      rcases List.mem_append.mp written with new | old
      · obtain ⟨e', he', unkeyed⟩ := sorted.unkeyed r new
        obtain rfl := he.eq he'
        rw [record.keyed mapped] at unkeyed
        cases unkeyed
      · exact away old
    obtain ⟨id, hid⟩ : ∃ id, e.rowId? = some id := by
      rcases housed with ⟨⟨e', he', mapped⟩, -⟩ | written
      · obtain rfl := he.eq he'
        obtain ⟨id, -, hid⟩ := record.exists_key mapped
        exact ⟨id, hid⟩
      · rcases sorted.seated r written with ⟨e', he', keyed⟩ | ⟨q, -, -, e', f, name, he', hf, unkeyed,
          held, -⟩
        · obtain rfl := he.eq he'
          obtain ⟨key, hkey⟩ := Option.isSome_iff_exists.mp keyed
          obtain ⟨⟨id, rfl⟩, -⟩ := record.key key hkey
          exact ⟨id, Entity.rowId?_of_key hkey⟩
        · obtain rfl := he.eq he'
          exact ⟨name, by rw [Entity.rowId?_of_unkeyed unkeyed, held]; rfl⟩
    rcases sorted.seat h same staying he housed hid with ⟨mapped, hkey, -⟩ |
      ⟨written, unkeyed, -, q, f, hf, mapped, hkey, -⟩
    · obtain ⟨p, hp, hkey', follows⟩ := h.follows r e he mapped
      refine ⟨p, h.posts.symm ▸ hp, Entity.rowId?_of_key hkey', fun current => ?_, fun _ => .inl follows⟩
      exact follows.bears (unset current mapped)
    · obtain ⟨p, hp, hkey', -⟩ := h.follows q f hf mapped
      have equal : id = p.id := Cell.text.inj (Option.some.inj (hkey.symm.trans hkey'))
      refine ⟨p, h.posts.symm ▸ hp, equal ▸ hid, fun current => ?_, fun keyed => ?_⟩
      · exact absurd written current.1
      · rw [unkeyed] at keyed
        cases keyed
  standing := by
    intro r e he housed
    have standing : e.key?.isSome = true ∧ e.isMapped = true ∨ e.key? = none ∧ e.isPending = true := by
      rcases housed with ⟨⟨e', he', mapped⟩, -⟩ | written
      · obtain rfl := he.eq he'
        exact .inl ⟨(h.records r e he).keyed mapped, mapped⟩
      · exact sorted.standing h staying he (List.mem_append_right new written)
    rcases standing with ⟨keyed, mapped⟩ | ⟨unkeyed, pending⟩
    · refine ⟨fun _ => mapped, fun unkeyed => ?_⟩
      rw [unkeyed] at keyed
      cases keyed
    · refine ⟨fun keyed => ?_, fun _ => pending⟩
      rw [unkeyed] at keyed
      cases keyed
  single := by
    intro r q e f id he hf housed housed' hid hid'
    rcases sorted.seat h same staying he housed hid with ⟨mapped, hkey, stays⟩ |
      ⟨-, -, takes, t, g, ht, mapped, hkey, spent⟩ <;>
    rcases sorted.seat h same staying hf housed' hid' with ⟨mapped', hkey', stays'⟩ |
      ⟨-, -, takes', t', g', ht', mapped', hkey', spent'⟩
    · exact h.single r q e f he hf mapped mapped' (hkey.trans hkey'.symm)
    · obtain rfl := h.single r t' e g' he ht' mapped mapped' (hkey.trans hkey'.symm)
      exact absurd spent' stays
    · obtain rfl := h.single t q g f ht hf mapped mapped' (hkey.trans hkey'.symm)
      exact absurd spent stays'
    · exact h.handover.once r q id takes takes'
  spare := by
    intro p hp
    refine (h.spare p (h.posts ▸ hp)).imp_left ?_
    rintro ⟨r, e, he, mapped, hkey⟩
    have hid := Entity.rowId?_of_key hkey
    rcases sorted.housed_or_taken h same he with ⟨-, stays⟩ | ⟨t, ht, f, hf, equal⟩
    · exact ⟨r, e, he, .inl ⟨⟨e, he, mapped⟩, stays⟩, hid⟩
    · exact ⟨t, f, hf, .inr ht, equal.trans hid⟩
  mapped := by
    intro r e he mapped
    by_cases spent : pl'.role? r = some ⟨true, true⟩
    · exact .inr (Plan.goes_iff.mpr ⟨_, spent, rfl⟩)
    · exact .inl (.inl ⟨⟨e, he, mapped⟩, spent⟩)
  named := fun _ => Iff.rfl
  idle := by
    intro r e he away stays
    refine ⟨Bool.eq_false_iff.mpr fun pending => ?_, fun housed => ?_,
      sorted.unset h same staying he away stays⟩
    · exact away (sorted.perm.symm.subset ((staying r e he).mpr (h.minds.pending r e he pending)))
    · rcases housed with ⟨⟨e', he', mapped⟩, -⟩ | written
      · exact he.eq he' ▸ mapped
      · exact absurd (List.mem_append_right new written) away
  leaving := by
    intro r e he leaves
    rw [show (stageOf s pl' new old).leaves r ↔ pl'.goes r = true from Iff.rfl,
      sorted.goes_eq same he] at leaves
    obtain ⟨-, mapped, -⟩ := h.minds.going r e he leaves
    exact ⟨(h.records r e he).keyed mapped, .inl mapped⟩
  indexed := by
    refine h.indexed.mono ?_
    rintro id ⟨r, e, he, mapped, hkey, set⟩
    have hid := Entity.rowId?_of_key hkey
    rcases h.minds.awaited r e he mapped (.inl set) with role | goes
    · exact ⟨r, e, he, .inl (sorted.perm.symm.subset ((staying r e he).mpr role)), hid⟩
    · rcases sorted.housed_or_taken h same he with ⟨stays, -⟩ | ⟨t, ht, f, hf, equal⟩
      · exact ⟨r, e, he, .inr (stays.trans (h.minds.going r e he goes).1), hid⟩
      · exact ⟨t, f, hf, .inl (List.mem_append_right new ht), equal.trans hid⟩

end Start

end Session

end Weblog
