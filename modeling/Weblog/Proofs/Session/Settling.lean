/-
  The end of a flush, and commits.

  The entities that went are marked, and those that were written are left with their rows: they are
  found by the identifiers of these, and nothing of them is set any more (`Entity.settledAs`). From then
  on every post is followed by its entity again, and has its document (`Filing.settled`). A flush that
  fails leaves a session that can be taken back (`Undoable`).
-/
import Weblog.Proofs.Session.Saving

namespace Weblog

namespace Entity

variable {e e' : Entity} {c : Column} {p : PostRow} {id : String}

/-! ## Settled entities -/

theorem mem_stale_settled : c ∈ e.settled.stale ↔ c ∈ e.stale ∧ e.held? c = none := by
  show c ∈ e.stale.filter _ ↔ _
  rw [List.mem_filter, Option.isNone_iff_eq_none]

theorem notMem_stale_settled (held : (e.held? c).isSome = true) : c ∉ e.settled.stale := by
  intro stale
  rw [(mem_stale_settled.mp stale).2] at held
  cases held

theorem Bears.settled (h : e.Bears p) : e.settled.Bears p := by
  intro c hc
  have bears := h c hc
  unfold BearsIn at bears ⊢
  rw [show e.settled.held? c = e.held? c from rfl]
  cases held : e.held? c with
  | some v =>
    rw [held] at bears
    exact bears
  | none =>
    rw [held] at bears
    exact bears.imp_left fun stale => mem_stale_settled.mpr ⟨stale, held⟩

theorem IsRecord.settled (h : e.IsRecord) : e.settled.IsRecord where
  texts := h.texts
  formers := fun _ _ _ hv => by cases hv
  noted := fun _ _ set => by cases set
  unkeyed := h.unkeyed
  key := by
    intro key hkey
    obtain ⟨text, -, held⟩ := h.key key hkey
    exact ⟨text, rfl, held.imp_right fun ⟨unheld, stale⟩ =>
      ⟨unheld, mem_stale_settled.mpr ⟨stale, unheld⟩⟩⟩
  given := fun _ _ _ held stale => absurd stale (notMem_stale_settled held)
  found := h.found
  keyed := h.keyed
  doomed := h.doomed
  unrenamed := h.unrenamed

/-- An entity that is left with a row. -/
def settledAs (id : String) (e : Entity) : Entity :=
  { e.settled with
    key? := some (.text id)
    isMapped := true
    turn? := none
    wasWritten := e.wasWritten || e.isPending }

theorem IsRecord.settledAs (h : e.IsRecord) (held : e.held? .id = some (.text id)) :
    (e.settledAs id).IsRecord where
  texts := h.texts
  formers := fun _ _ _ hv => by cases hv
  noted := fun _ _ set => by cases set
  unkeyed := fun pending => by cases pending
  key := by
    intro key hkey
    obtain rfl := Option.some.inj hkey
    exact ⟨⟨id, rfl⟩, rfl, .inl held⟩
  given := fun _ _ _ held stale => absurd stale (notMem_stale_settled held)
  found := fun _ => .inl rfl
  keyed := fun _ => rfl
  doomed := fun _ => rfl
  unrenamed := h.unrenamed

/-- An entity that went. -/
def departed (e : Entity) : Entity :=
  { e with isMapped := false, isDoomed := false, isGone := true, wasRemoved := true }

theorem IsRecord.departed (h : e.IsRecord) : e.departed.IsRecord :=
  h.restand rfl rfl rfl rfl rfl h.unkeyed (fun _ => .inr rfl) (fun mapped => by cases mapped)
    fun doomed => by cases doomed

end Entity

namespace Session

variable {s s' s₀ : Session} {r q : Ref} {e e' f : Entity} {c : Tables} {p : PostRow} {id : String}
  {x : Stage} {G D : Ref → Prop}

/-! ## One entity -/

/-- An entity of a post may stand in place of another one at the end of a flush. -/
structure Stage.Suits (x : Stage) (r : Ref) (e e' : Entity) : Prop where
  record : e'.IsRecord
  row : e'.rowId? = e.rowId?
  holds : ∀ id, e'.Holds id → e.Holds id
  home : x.housed r → x.current r ∧ (∀ p, e.Bears p → e'.Bears p) ∧ e'.key?.isSome = true ∧
    e'.isMapped = true
  mapped : e'.isMapped = true → x.housed r
  idle : ¬x.leaves r → e'.isPending = false ∧ e'.IsUnset
  leaving : x.leaves r → e'.key?.isSome = true ∧ (e'.isMapped = true ∨ e'.wasRemoved = true)

/-- One entity of a post has changed. -/
structure Changes (r : Ref) (e e' : Entity) (s s' : Session) : Prop where
  tables : s'.tables = s.tables
  committed : s'.committed = s.committed
  broken : s'.broken = s.broken
  before : s.PostAt r e
  after : s'.PostAt r e'
  others : ∀ q f, q ≠ r → (s'.PostAt q f ↔ s.PostAt q f)

theorem Changes.origin (h : Changes r e e' s s') (hf : s'.PostAt q f) :
    q = r ∧ f = e' ∨ q ≠ r ∧ s.PostAt q f := by
  by_cases same : q = r
  · subst same
    exact .inl ⟨rfl, hf.eq h.after⟩
  · exact .inr ⟨same, (h.others q f same).mp hf⟩

/-- Whatever was there before is there, in the same place and with the same row. -/
theorem Changes.forth (h : Changes r e e' s s') (row : e'.rowId? = e.rowId?) (hf : s.PostAt q f) :
    ∃ f', s'.PostAt q f' ∧ f'.rowId? = f.rowId? := by
  by_cases same : q = r
  · subst same
    obtain rfl := hf.eq h.before
    exact ⟨e', h.after, row⟩
  · exact ⟨f, (h.others q f same).mpr hf, rfl⟩

theorem Filing.changes (h : s.Filing x c) (changes : Changes r e e' s s') (suits : x.Suits r e e') :
    s'.Filing x c := by
  have he := changes.before
  refine ⟨⟨changes.committed.trans h.committed, h.ids, ?_, ?_, ?_⟩, changes.broken.trans h.whole,
    changes.tables ▸ h.distinct, ?_, ?_, ?_, ?_, ?_, ?_, ?_, ?_, ?_⟩
  · intro q f hf
    rcases changes.origin hf with ⟨rfl, rfl⟩ | ⟨-, hf⟩
    · exact suits.record
    · exact h.records q f hf
  · intro q f id hf holds
    rcases changes.origin hf with ⟨rfl, rfl⟩ | ⟨-, hf⟩
    · exact h.stored q e id he (suits.holds id holds)
    · exact h.stored q f id hf holds
  · -- alone
    have origin : ∀ {q f id}, s'.PostAt q f → f.Holds id → ∃ g, s.PostAt q g ∧ g.Holds id := by
      intro q f id hf holds
      rcases changes.origin hf with ⟨rfl, rfl⟩ | ⟨-, hf⟩
      · exact ⟨e, he, suits.holds id holds⟩
      · exact ⟨f, hf, holds⟩
    intro q t f g id hf hg holds holds'
    obtain ⟨f', hf', holds⟩ := origin hf holds
    obtain ⟨g', hg', holds'⟩ := origin hg holds'
    exact h.alone q t f' g' id hf' hg' holds holds'
  · -- home
    intro q f hf housed
    rw [changes.tables]
    rcases changes.origin hf with ⟨rfl, rfl⟩ | ⟨-, hf⟩
    · obtain ⟨p, hp, hid, bears, -⟩ := h.home q e he housed
      obtain ⟨current, kept, -⟩ := suits.home housed
      exact ⟨p, hp, suits.row.trans hid, fun _ => kept p (bears current),
        fun _ => .inr (kept p (bears current))⟩
    · exact h.home q f hf housed
  · -- standing
    intro q f hf housed
    rcases changes.origin hf with ⟨rfl, rfl⟩ | ⟨-, hf⟩
    · obtain ⟨-, -, keyed, mapped⟩ := suits.home housed
      refine ⟨fun _ => mapped, fun unkeyed => ?_⟩
      rw [unkeyed] at keyed
      cases keyed
    · exact h.standing q f hf housed
  · -- single
    have origin : ∀ {q f id}, s'.PostAt q f → f.rowId? = some id →
        ∃ g, s.PostAt q g ∧ g.rowId? = some id := by
      intro q f id hf hid
      rcases changes.origin hf with ⟨rfl, rfl⟩ | ⟨-, hf⟩
      · exact ⟨e, he, suits.row.symm.trans hid⟩
      · exact ⟨f, hf, hid⟩
    intro q t f g id hf hg housed housed' hid hid'
    obtain ⟨f', hf', hid⟩ := origin hf hid
    obtain ⟨g', hg', hid'⟩ := origin hg hid'
    exact h.single q t f' g' id hf' hg' housed housed' hid hid'
  · -- spare
    intro p hp
    refine (h.spare p (changes.tables ▸ hp)).imp ?_ fun ⟨stored, free⟩ =>
      ⟨stored, fun q f hf holds => ?_⟩
    · rintro ⟨q, f, hf, housed, hid⟩
      obtain ⟨f', hf', row⟩ := changes.forth suits.row hf
      exact ⟨q, f', hf', housed, row.trans hid⟩
    · rcases changes.origin hf with ⟨rfl, rfl⟩ | ⟨-, hf⟩
      · exact free q e he (suits.holds _ holds)
      · exact free q f hf holds
  · -- named
    intro q
    refine (h.named q).trans ⟨fun ⟨f, hf⟩ => (changes.forth suits.row hf).imp fun _ => And.left,
      fun ⟨f, hf⟩ => ?_⟩
    rcases changes.origin hf with ⟨rfl, -⟩ | ⟨-, hf⟩
    · exact ⟨e, he⟩
    · exact ⟨f, hf⟩
  · intro q f hf mapped
    rcases changes.origin hf with ⟨rfl, rfl⟩ | ⟨-, hf⟩
    · exact .inl (suits.mapped mapped)
    · exact h.mapped q f hf mapped
  · intro q f hf away stays
    rcases changes.origin hf with ⟨rfl, rfl⟩ | ⟨-, hf⟩
    · obtain ⟨waits, unset⟩ := suits.idle stays
      exact ⟨waits, fun housed => (suits.home housed).2.2.2, fun _ => unset⟩
    · exact h.idle q f hf away stays
  · intro q f hf leaves
    rcases changes.origin hf with ⟨rfl, rfl⟩ | ⟨-, hf⟩
    · exact suits.leaving leaves
    · exact h.leaving q f hf leaves
  · rw [changes.tables]
    refine h.indexed.mono fun id ⟨q, f, hf, behind, hid⟩ => ?_
    obtain ⟨f', hf', row⟩ := changes.forth suits.row hf
    exact ⟨q, f', hf', behind, row.trans hid⟩

/-- An entity that goes is not left with a row, and was marked. -/
theorem Filing.suits_departed (h : s.Filing x c) (he : s.PostAt r e) (leaves : x.leaves r)
    (homeless : ¬x.housed r) : x.Suits r e e.departed where
  record := (h.records r e he).departed
  row := rfl
  holds := fun _ ⟨hkey, unwritten, _⟩ => ⟨hkey, unwritten, (h.leaving r e he leaves).2⟩
  home := fun housed => absurd housed homeless
  mapped := fun mapped => by cases mapped
  idle := fun stays => absurd leaves stays
  leaving := fun leaves => ⟨(h.leaving r e he leaves).1, .inr rfl⟩

/-- An entity that was written is left with its row. -/
theorem Filing.suits_settledAs (h : s.Filing x c) (he : s.PostAt r e) (housed : x.housed r)
    (current : x.current r) (stays : ¬x.leaves r) (hid : e.rowId? = some id)
    (held : e.held? .id = some (.text id)) : x.Suits r e (e.settledAs id) where
  record := (h.records r e he).settledAs held
  row := (Entity.rowId?_of_key rfl).trans hid.symm
  holds := by
    rintro id' ⟨hkey, unwritten, -⟩
    obtain ⟨unwritten, waits⟩ := (Bool.or_eq_false_iff.mp unwritten : _ ∧ e.isPending = false)
    obtain rfl := Cell.text.inj (Option.some.inj hkey)
    have keyed : e.key?.isSome = true := by
      by_contra unkeyed
      have pending := (h.standing r e he housed).2 (Option.not_isSome_iff_eq_none.mp unkeyed)
      rw [waits] at pending
      cases pending
    exact ⟨(h.records r e he).key_of_rowId? keyed hid, unwritten,
      .inl ((h.standing r e he housed).1 keyed)⟩
  home := fun _ => ⟨current, fun _ bears => bears.settled, rfl, rfl⟩
  mapped := fun _ => housed
  idle := fun _ => ⟨rfl, fun _ _ => rfl⟩
  leaving := fun leaves => absurd leaves stays

theorem changes_modifyEntity {g : Entity → Entity} (he : s.PostAt r e) (kind : (g e).kind = e.kind) :
    Changes r e (g e) s (s.modifyEntity r g) where
  tables := rfl
  committed := rfl
  broken := rfl
  before := he
  after := ⟨entity?_modifyEntity_self he.1, kind.trans he.2⟩
  others := by
    intro q f other
    rw [PostAt, entity?_modifyEntity, if_neg (Ne.symm other)]
    rfl

/-- What is so of the entities of posts at the end of a flush: those that went are not found by their
keys any more, and those that were left with their rows are not to be put in and hold what these hold. -/
def Ended (G D : Ref → Prop) (s : Session) : Prop :=
  ∀ q f, s.PostAt q f → (G q → f.isMapped = false) ∧ (D q → f.isPending = false ∧ f.IsUnset)

theorem Ended.apart (h : s.Ended G D) (apart : s.Apart s') : s'.Ended G D := by
  intro q f' hf'
  obtain ⟨f, hf, reread⟩ := apart.back hf'
  rw [reread.mapped, reread.pending, reread.unset_iff]
  exact h q f hf

theorem Ended.changes {G' D' : Ref → Prop} (h : s.Ended G D) (changes : Changes r e e' s s')
    (own : (G' r → e'.isMapped = false) ∧ (D' r → e'.isPending = false ∧ e'.IsUnset))
    (others : ∀ q, q ≠ r → (G' q → G q) ∧ (D' q → D q)) : s'.Ended G' D' := by
  intro q f hf
  rcases changes.origin hf with ⟨rfl, rfl⟩ | ⟨other, hf⟩
  · exact own
  · obtain ⟨gone, done⟩ := h q f hf
    obtain ⟨before, before'⟩ := others q other
    exact ⟨fun g => gone (before g), fun d => done (before' d)⟩

/-- What is no post plays no part. -/
theorem Ended.of_other {G' D' : Ref → Prop} (h : s.Ended G D) (filing : s.Filing x c)
    (others : ∀ q, x.post q → (G' q → G q) ∧ (D' q → D q)) : s.Ended G' D' := by
  intro q f hf
  obtain ⟨gone, done⟩ := h q f hf
  obtain ⟨before, before'⟩ := others q ((filing.named q).mpr ⟨f, hf⟩)
  exact ⟨fun g => gone (before g), fun d => done (before' d)⟩

theorem broken_occupy (s : Session) (r : Ref) : (s.occupy r).broken = s.broken := by
  unfold occupy
  split
  · rfl
  · split <;> rfl

/-- The session in which an entity was left with a row that has an identifier. -/
def leftWith (s : Session) (r : Ref) (g : Entity → Entity) : Session :=
  ((s.modifyEntity r g).occupy r).modifyEntity r Entity.settled

theorem apart_leftWith {g : Entity → Entity} (other : ∀ e, s.entity? r = some e → e.kind ≠ .post)
    (kind : ∀ e, (g e).kind = e.kind) : s.Apart (s.leftWith r g) := by
  have first : Spared s (s.modifyEntity r g) := spared_modifyEntity fun e he => ⟨other e he, kind e⟩
  have still : ∀ {t : Session}, Spared s t → t.entities.length = s.entities.length →
      ∀ e, t.entity? r = some e → e.kind ≠ .post := fun spared _ e he post => by
    have before := spared.back ⟨he, post⟩
    exact other e before.1 post
  have second := first.trans (spared_occupy (still first first.length))
  have third := second.trans (spared_modifyEntity (g := Entity.settled) fun e he =>
    ⟨still second second.length e he, rfl⟩)
  obtain ⟨store, committed⟩ := same_occupy (s.modifyEntity r g) r
  exact ⟨committed, broken_occupy _ r, congrArg (fun s => s.tables.posts) store,
    congrArg (fun s => s.tables.documents) store,
    third.mono fun _ _ _ _ same => by rw [same]; exact .refl _ _⟩

/-- The entity of a post is left with its row, and no other one is touched. -/
theorem changes_leftWith {g : Entity → Entity} (h : s.Filing x c) (ended : s.Ended x.leaves D)
    (he : s.PostAt r e) (housed : x.housed r) (hid : e.rowId? = some id)
    (left : ({ g e with isMapped := true } : Entity).settled = e.settledAs id) :
    Changes r e (e.settledAs id) s (s.leftWith r g) := by
  have kind : (g e).kind = .post := (congrArg Entity.kind left).trans he.2
  have key : (g e).key? = some (.text id) := congrArg Entity.key? left
  have own : (s.modifyEntity r g).entity? r = some (g e) := entity?_modifyEntity_self he.1
  obtain ⟨store, committed⟩ := same_occupy (s.modifyEntity r g) r
  -- No other entity is found by the same key.
  have alone : ∀ {q f}, q ≠ r → s.entity? q = some f → isAt .post (.text id) f = false := by
    intro q f other hf
    by_contra here
    have here : isAt .post (.text id) f = true := Bool.eq_true_of_not_eq_false here
    have post : s.PostAt q f := ⟨hf, Work.kind_of_isAt here⟩
    obtain ⟨mapped, hkey⟩ := key_of_isAt (h.records q f post) here
    have housed' : x.housed q := (h.mapped q f post mapped).resolve_right fun leaves => by
      rw [(ended q f post).1 leaves] at mapped
      cases mapped
    exact other (h.single q r f e id post he housed' housed (Entity.rowId?_of_key hkey) hid)
  have others : ∀ q, q ≠ r → (s.leftWith r g).entity? q = s.entity? q := by
    intro q other
    rw [leftWith, entity?_modifyEntity, if_neg (Ne.symm other), entity?_occupied own q,
      entity?_modifyEntity, if_neg (Ne.symm other)]
    cases hf : s.entity? q with
    | none => rfl
    | some f =>
      rw [Option.map_some, key, Option.any_some, kind, alone other hf]
      simp [Ne.symm other]
  refine ⟨congrArg Store.tables store, committed, broken_occupy _ r, he, ⟨?_, he.2⟩, fun q f other => ?_⟩
  · rw [leftWith, entity?_modifyEntity, if_pos rfl, entity?_occupied own r, own, Option.map_some,
      Option.map_some, ← left]
    simp
  · rw [PostAt, others q other]
    rfl

/-- Leaving an entity with its row keeps a session at its stage, and the entity is done with. -/
theorem Filing.leftWith {g : Entity → Entity} (h : s.Filing x c) (ended : s.Ended x.leaves D)
    (he : s.entity? r = some e) (held : (e.held? .id).isSome = true)
    (due : x.post r → x.housed r ∧ x.current r ∧ ¬x.leaves r) (kind : ∀ f, (g f).kind = f.kind)
    (left : ∀ id, s.PostAt r e → e.rowId? = some id → e.held? .id = some (.text id) →
      ({ g e with isMapped := true } : Entity).settled = e.settledAs id) :
    (s.leftWith r g).Filing x c ∧ (s.leftWith r g).Ended x.leaves fun q => D q ∨ q = r := by
  by_cases post : x.post r
  · obtain ⟨housed, current, stays⟩ := due post
    obtain ⟨e', he'⟩ := (h.named r).mp post
    obtain rfl := Option.some.inj (he.symm.trans he'.1)
    obtain ⟨p, -, hid, -⟩ := h.home r e he' housed
    obtain ⟨v, hv⟩ := Option.isSome_iff_exists.mp held
    have own : e.held? .id = some (.text p.id) :=
      hv.trans (congrArg some ((h.records r e he').held_id hid hv))
    have changes := changes_leftWith h ended he' housed hid (left p.id he' hid own)
    exact ⟨h.changes changes (h.suits_settledAs he' housed current stays hid own),
      ended.changes changes ⟨fun leaves => absurd leaves stays, fun _ => ⟨rfl, fun _ _ => rfl⟩⟩
        fun q other => ⟨id, fun d => d.resolve_right other⟩⟩
  · have apart : s.Apart (s.leftWith r g) := apart_leftWith (fun f hf kind =>
      post ((h.named r).mpr ⟨f, hf, kind⟩)) kind
    exact ⟨h.apart apart, (ended.apart apart).of_other (h.apart apart) fun q hq =>
      ⟨id, fun d => d.resolve_right fun same => post (same ▸ hq)⟩⟩

namespace Work

variable (x c G D) in
/-- What is done aside from posts plays no part at the end of a flush either. -/
theorem keptAside_ended : KeptAside fun s => s.Filing x c ∧ s.Ended G D :=
  Filing.keptAside.and fun _ apart ended => ended.apart apart

/-- An entity of a post that goes is not found any more; another one plays no part. -/
theorem markGone_post (due : x.post r → x.leaves r ∧ ¬x.housed r) :
    Triple (fun s => s.Filing x c ∧ s.Ended G D) (markGone r)
      (fun _ s => s.Filing x c ∧ s.Ended (fun q => G q ∨ q = r) D) fun _ => Recoverable c := by
  refine Triple.modify fun s ⟨h, ended⟩ => ?_
  by_cases post : x.post r
  · obtain ⟨leaves, homeless⟩ := due post
    obtain ⟨e, he⟩ := (h.named r).mp post
    have changes : Changes r e e.departed s (s.modifyEntity r Entity.departed) :=
      changes_modifyEntity he rfl
    exact ⟨h.changes changes (h.suits_departed he leaves homeless), ended.changes changes
      ⟨fun _ => rfl, (ended r e he).2⟩ fun q other => ⟨fun g => g.resolve_right other, id⟩⟩
  · have apart : s.Apart (s.modifyEntity r Entity.departed) := apart_modifyEntity fun e he =>
      ⟨rfl, fun kind => absurd ((h.named r).mpr ⟨e, he, kind⟩) post⟩
    exact ⟨h.apart apart, (ended.apart apart).of_other (h.apart apart) fun q hq =>
      ⟨fun g => g.resolve_right fun same => post (same ▸ hq), id⟩⟩

/-- An entity of a post that was written is left with its row; another one plays no part. -/
theorem settle_post (due : x.post r → x.housed r ∧ x.current r ∧ ¬x.leaves r) :
    Triple (fun s => s.Filing x c ∧ s.Ended x.leaves D) (settle r)
      (fun _ s => s.Filing x c ∧ s.Ended x.leaves fun q => D q ∨ q = r) fun _ => Recoverable c := by
  refine Triple.look (fun _ hs _ => hs.1.toRecoverable) fun s e hs he => ?_
  have ready : Triple (fun s => s.Filing x c ∧ s.Ended x.leaves D) (revive r)
      (fun _ s => s.Filing x c ∧ s.Ended x.leaves D) fun _ => Recoverable c :=
    Triple.weaken ((keptAside_ended c x x.leaves D).reviving.revive r) (fun _ h => h)
      (fun _ _ h => h.1) fun _ _ h => h.1.1.toRecoverable
  refine Triple.weaken (P := fun s => s.Filing x c ∧ s.Ended x.leaves D) ?_ (fun _ same => same ▸ hs)
    (fun _ _ h => h) fun _ _ h => h
  refine Triple.readied (fun _ => ready) (fun _ h => h) ?_
  refine Triple.look (fun _ hs _ => hs.1.toRecoverable) fun s e ⟨h, ended⟩ he => ?_
  split
  · exact Triple.throw fun _ same => same ▸ h.toRecoverable
  · rename_i full
    have held : (e.held? .id).isSome = true := Option.isSome_iff_ne_none.mpr fun none => full <| by
      rw [none]
      rfl
    rintro _ rfl
    refine h.leftWith ended he held due (fun _ => rfl) fun id post hid held => ?_
    -- The key of a post is its identifier, so it is not renamed.
    have own : ∀ key, e.key? = some key → key = .text id := fun key hkey => Option.some.inj
      (hkey.symm.trans ((h.records r e post).key_of_rowId? (by rw [hkey]; rfl) hid))
    cases hkey : e.key? with
    | none =>
      simp only [held, Option.getD_some, Option.any_none]
      rfl
    | some key =>
      obtain rfl := own key hkey
      have alike : (Cell.text id).same (.text id) = true := by simp [Cell.same, Cell.value?, Json.alike]
      simp only [held, Option.getD_some, Option.any_some, alike, if_true]
      rfl

/-- Entities that go are marked one after the other. -/
theorem markAll_post {rs : List (Ref × Kind × Role)}
    (due : ∀ y ∈ rs, x.post y.1 → x.leaves y.1 ∧ ¬x.housed y.1) :
    Triple (fun s => s.Filing x c ∧ s.Ended G D) (rs.forM fun y => markGone y.1)
      (fun _ s => s.Filing x c ∧ s.Ended (fun q => G q ∨ q ∈ rs.map Prod.fst) D)
      fun _ => Recoverable c := by
  induction rs generalizing G with
  | nil => exact Triple.pure fun s h => by simpa using h
  | cons y rs ih =>
    refine Triple.bind (markGone_post (due y List.mem_cons_self)) fun _ => ?_
    refine Triple.weaken (ih fun z hz => due z (List.mem_cons_of_mem y hz)) (fun _ h => h)
      (fun _ s h => ?_) fun _ _ h => h
    simpa [or_assoc] using h

/-- Entities that were written are left with their rows one after the other. -/
theorem settleAll_post {rs : List (Ref × Kind × Role)}
    (due : ∀ y ∈ rs, x.post y.1 → x.housed y.1 ∧ x.current y.1 ∧ ¬x.leaves y.1) :
    Triple (fun s => s.Filing x c ∧ s.Ended x.leaves D) (rs.forM fun y => settle y.1)
      (fun _ s => s.Filing x c ∧ s.Ended x.leaves fun q => D q ∨ q ∈ rs.map Prod.fst)
      fun _ => Recoverable c := by
  induction rs generalizing D with
  | nil => exact Triple.pure fun s h => by simpa using h
  | cons y rs ih =>
    refine Triple.bind (settle_post (due y List.mem_cons_self)) fun _ => ?_
    refine Triple.weaken (ih fun z hz => due z (List.mem_cons_of_mem y hz)) (fun _ h => h)
      (fun _ s h => ?_) fun _ _ h => h
    simpa [or_assoc] using h

end Work

/-! ## All entities -/

section All

variable {pl : Plan} {N : Ref → Prop} {R : List (Ref × Kind × Role)} {y : Ref × Kind × Role}

theorem Plan.Fits.role?_of_mem (h : pl.Fits N R) (mem : y ∈ pl.roles) : pl.role? y.1 = some y.2.2 := by
  obtain ⟨found, hfound⟩ := Option.isSome_iff_exists.mp
    (List.lookup_isSome_iff.mpr ⟨y, mem, beq_self_eq_true y.1⟩)
  have same := List.inj_on_of_nodup_map h.once (Entity.mem_of_lookup hfound) mem rfl
  rw [Plan.role?, hfound, Option.map_some]
  exact congrArg (fun z => some z.2.2) same

theorem Plan.Fits.exists_of_role? (h : pl.Fits N R) {role : Role} (known : pl.role? r = some role) :
    ∃ y ∈ pl.roles, y.1 = r ∧ y.2.2 = role := by
  obtain ⟨y, hy, rfl⟩ := (pl.isSome_role? r).mp (by rw [known]; rfl)
  exact ⟨y, hy, rfl, Option.some.inj ((h.role?_of_mem hy).symm.trans known)⟩

/-- A session after a flush: it keeps track of posts, all of which have their documents, and none is
to be put in. -/
structure Settled (c : Tables) (s : Session) : Prop where
  tracks : s.Tracks s.tables.posts c
  indexed : s.tables.IndexedBut fun _ => False
  idle : ∀ r e, s.PostAt r e → e.isPending = false

/-- At the end of a flush every post is followed by its entity, and has its document. -/
theorem Filing.settled (h : s.Filing x c) (filed : x.Filed x.post pl []) (ended : s.Ended x.leaves D)
    (done : ∀ r, x.post r → x.busy r → D r) :
    s.Settled c ∧ ∀ r e, s.PostAt r e → e.isMapped = true → e.IsUnset := by
  have post : ∀ {r e}, s.PostAt r e → x.post r := fun he => (h.named _).mpr ⟨_, he⟩
  have still : ∀ {r e}, s.PostAt r e → ¬x.leaves r →
      e.isPending = false ∧ (e.isMapped = true → e.IsUnset) := by
    intro r e he stays
    by_cases busy : x.busy r
    · obtain ⟨waits, unset⟩ := (ended r e he).2 (done r (post he) busy)
      exact ⟨waits, fun _ => unset⟩
    · obtain ⟨waits, -, unset⟩ := h.idle r e he busy stays
      exact ⟨waits, unset⟩
  have stays : ∀ {r e}, s.PostAt r e → e.isMapped = true → ¬x.leaves r := by
    intro r e he mapped leaves
    rw [(ended r e he).1 leaves] at mapped
    cases mapped
  have housed : ∀ {r e}, s.PostAt r e → e.isMapped = true → x.housed r := fun he mapped =>
    (h.mapped _ _ he mapped).resolve_right (stays he mapped)
  have unset : ∀ r e, s.PostAt r e → e.isMapped = true → e.IsUnset := fun r e he mapped =>
    (still he (stays he mapped)).2 mapped
  have mapped : ∀ {r e}, s.PostAt r e → x.housed r → e.isMapped = true := by
    intro r e he housed
    have left : pl.goes r = false := (filed.stays r (post he) housed).resolve_right List.not_mem_nil
    have stays : ¬x.leaves r := fun leaves => by
      rw [(filed.leaves r (post he)).mp leaves] at left
      cases left
    obtain ⟨keyed, unkeyed⟩ := h.standing r e he housed
    refine keyed (Option.isSome_iff_ne_none.mpr fun none => ?_)
    have waits := unkeyed none
    rw [(still he stays).1] at waits
    cases waits
  have key : ∀ {r e id}, s.PostAt r e → e.isMapped = true → e.rowId? = some id →
      e.key? = some (.text id) := fun he mapped hid =>
    (h.records _ _ he).key_of_rowId? ((h.records _ _ he).keyed mapped) hid
  refine ⟨⟨⟨h.toRecoverable, rfl, h.whole, h.distinct, fun r e he here => ?_, fun r e he here _ =>
    unset r e he here, fun r q e f he hf here there same => ?_, fun p hp => ?_⟩, ?_,
    fun r e he => ?_⟩, unset⟩
  · obtain ⟨p, hp, hid, bears, -⟩ := h.home r e he (housed he here)
    have current := (filed.current r (post he) (housed he here)).resolve_right List.not_mem_nil
    exact ⟨p, hp, key he here hid, (bears current).follows (unset r e he here)⟩
  · obtain ⟨id, hkey, hid⟩ := (h.records r e he).exists_key here
    exact h.single r q e f id he hf (housed he here) (housed hf there) hid
      (Entity.rowId?_of_key (same.symm.trans hkey))
  · refine (h.spare p hp).imp_left fun ⟨r, e, he, there, hid⟩ => ?_
    exact ⟨r, e, he, mapped he there, key he (mapped he there) hid⟩
  · refine h.indexed.mono fun id ⟨r, e, he, behind, _⟩ => ?_
    exact List.not_mem_nil ((filed.behind r (post he)).mp behind)
  · by_cases leaves : x.leaves r
    · refine Bool.eq_false_iff.mpr fun waits => ?_
      have keyed := (h.leaving r e he leaves).1
      rw [(h.records r e he).unkeyed waits] at keyed
      cases keyed
    · exact (still he leaves).1

/-- Where nothing is set, nothing is left to give up. -/
theorem Settled.settleTouched (h : s.Settled c)
    (unset : ∀ r e, s.PostAt r e → e.isMapped = true → e.IsUnset) :
    (s.mapEntities fun e => if e.isMapped && e.isTouched then e.settled else e).Settled c := by
  have alt : Altered (fun e e' => e' = if e.isMapped && e.isTouched then e.settled else e) s
      (s.mapEntities fun e => if e.isMapped && e.isTouched then e.settled else e) :=
    .mapEntities fun r e he => ⟨by split <;> rfl, fun _ => rfl⟩
  refine ⟨h.tracks.altered rfl rfl rfl (alt.mono fun r e e' he same => ?_), h.indexed,
    fun r e' he' => ?_⟩
  · subst same
    split
    · rename_i touched
      have mapped := (Bool.and_eq_true_iff.mp touched).1
      refine ⟨Entity.IsRecord.settled, rfl, rfl, rfl, rfl, fun p _ _ follows => ?_, fun _ _ _ _ => rfl⟩
      exact (follows.bears (unset r e he mapped)).settled.follows fun _ _ => rfl
    · exact .refl _ e
  · obtain ⟨e, he, rfl⟩ := alt.back he'
    have waits := h.idle r e he
    split <;> exact waits

theorem handover_of_none (none : ∀ r id, ¬s.TakesOver r id) : s.Handover :=
  ⟨fun r _ id _ takes => absurd takes (none r id), fun r _ id takes => absurd takes (none r id)⟩

/-- Nothing is taken over where no post is to be put in. -/
theorem Settled.handover (h : s.Settled c) : s.Handover := by
  refine handover_of_none fun r id takes => ?_
  obtain ⟨e, he, pending, -⟩ := takes.1
  rw [h.idle r e he] at pending
  cases pending

/-- A session in which nothing is to be written is as after a flush. -/
theorem Tracks.settled {ps : List PostRow} (h : s.Tracks ps c) (indexed : s.tables.IndexedBut s.Awaits)
    (clean : s.isClean = true) : s.Settled c := by
  have still : ∀ {r e}, s.PostAt r e → e.isPending = false ∧ (e.isMapped && e.isTouched) = false := by
    intro r e he
    have still := List.all_eq_true.mp clean e (List.mem_of_getElem? he.1)
    simp only [Bool.and_eq_true, Bool.not_eq_true'] at still
    exact still.1
  refine ⟨h.posts.symm ▸ h, indexed.mono fun id awaits => ?_, fun r e he => (still he).1⟩
  obtain ⟨r, e, he, mapped, -, set⟩ := awaits
  have untouched := (still he).2
  rw [mapped, Bool.true_and] at untouched
  exact set (h.unset r e he mapped untouched)

/-- A session that can be taken back to the last commit. -/
def Undoable (c : Tables) (s : Session) : Prop :=
  s.Recoverable c ∧ (s.broken = true → s.Restored c)

theorem Tracks.undoable {ps : List PostRow} (h : s.Tracks ps c) : Undoable c s := by
  refine ⟨h.toRecoverable, fun broken => ?_⟩
  rw [h.whole] at broken
  cases broken

namespace Work

/-- When all tasks were carried out, the entities of the plan are marked or left with their rows. -/
theorem settlePlan_post (filed : x.Filed x.post pl []) (fits : pl.Fits x.post R) :
    Triple (Filing x c) (do
        (pl.roles.filter fun y => y.2.2.goes).forM fun y => markGone y.1
        (pl.roles.filter fun y => !y.2.2.goes).forM fun y => settle y.1
        modify fun s => s.mapEntities fun e => if e.isMapped && e.isTouched then e.settled else e)
      (fun _ => Settled c) fun _ => Recoverable c := by
  have goes : ∀ {y}, y ∈ pl.roles → pl.goes y.1 = y.2.2.goes := fun mem => by
    rw [Plan.goes, fits.role?_of_mem mem]
    rfl
  have none : ∀ s : Session, s.Ended (fun _ => False) fun _ => False :=
    fun _ _ _ _ => ⟨False.elim, False.elim⟩
  refine Triple.bind (Triple.weaken (markAll_post (G := fun _ => False) (D := fun _ => False)
    fun y hy post => ?_) (fun s h => ⟨h, none s⟩) (fun _ _ h => h) fun _ _ h => h) fun _ => ?_
  · obtain ⟨mem, going⟩ := List.mem_filter.mp hy
    have leaves := (goes mem).trans going
    refine ⟨(filed.leaves y.1 post).mpr leaves, fun housed => ?_⟩
    rw [(filed.stays y.1 post housed).resolve_right List.not_mem_nil] at leaves
    cases leaves
  · refine Triple.bind (Triple.weaken (settleAll_post (D := fun _ => False) fun y hy post => ?_)
      (fun s marked => ⟨marked.1, marked.2.of_other marked.1 fun q post =>
        ⟨fun leaves => .inr ?_, id⟩⟩) (fun _ _ h => h) fun _ _ h => h) fun _ =>
      Triple.modify fun s left => ?_
    · obtain ⟨mem, staying⟩ := List.mem_filter.mp hy
      have stays : pl.goes y.1 = false := (goes mem).trans (Bool.not_eq_true' _ ▸ staying)
      have housed := filed.housed y.1 post (by rw [fits.role?_of_mem mem]; rfl) (.inl stays)
      refine ⟨housed, (filed.current y.1 post housed).resolve_right List.not_mem_nil, fun leaves => ?_⟩
      rw [(filed.leaves y.1 post).mp leaves] at stays
      cases stays
    · obtain ⟨role, known, going⟩ := Plan.goes_iff.mp ((filed.leaves q post).mp leaves)
      obtain ⟨y, hy, rfl, rfl⟩ := fits.exists_of_role? known
      exact List.mem_map_of_mem (List.mem_filter.mpr ⟨hy, going⟩)
    · obtain ⟨settled, unset⟩ := left.1.settled filed left.2 fun r post busy => .inr <| by
        obtain ⟨y, hy, rfl, role⟩ := fits.exists_of_role? (filed.busy r post busy)
        have stays : (!y.2.2.goes) = true := by rw [role]; rfl
        exact List.mem_map_of_mem (List.mem_filter.mpr ⟨hy, stays⟩)
      exact settled.settleTouched unset

/-- When a plan was carried out, every post is followed by its entity and has its document. -/
theorem carryOut_post {ps : List PostRow} {docs : List DocumentRow} {now : Instant}
    (h : Primed s₀ ps c docs s) :
    Triple (· = s) (carryOut now (.initial s)) (fun _ => Settled c) fun _ => Recoverable c := by
  refine Triple.bind (Q := fun _ t => t = s) (Triple.get fun _ same => same) fun _ => ?_
  have minding : Minding s₀ ps c docs (.initial s) s := ⟨h, Plan.minds_initial h.toTracks⟩
  refine Triple.bind (Triple.weaken (Plan.minding_complete _ _) (fun _ same => by rw [same]; exact minding)
    (fun _ _ h => h) fun _ _ h => h.toRecoverable) fun p s₁ hs₁ => ?_
  obtain ⟨N, named⟩ : ∃ N : Ref → Prop, ∀ r, N r ↔ ∃ e, s₁.PostAt r e := ⟨_, fun _ => Iff.rfl⟩
  refine Triple.bind (performAll_post hs₁ named) (fun done s₂ finished => ?_) s₁ rfl
  obtain ⟨⟨x, h₂, filed⟩, R, fits⟩ := finished
  obtain rfl := filed.post
  rw [List.partition_eq_filter_filter]
  exact settlePlan_post filed fits s₂ h₂

/-- Validating changes no more than what entities read. -/
theorem validateAll_kept {I : Session → Prop} (h : KeptByTaking I) (rs : List Ref) :
    Triple I (rs.forM validate) (fun _ => I) fun _ => I := by
  have shows : KeptByShowing I := ⟨h.reading, h.members⟩
  induction rs with
  | nil => exact Triple.pure fun _ hs => hs
  | cons r rs ih =>
    refine Triple.bind ?_ fun _ => ih
    refine Triple.look (fun _ hs _ => hs) fun s e hs he => ?_
    refine Triple.weaken (P := I) ?_ (fun _ same => same ▸ hs) (fun _ _ h => h) fun _ _ h => h
    have free : ∀ {α : Type} {m : Work α}, Keeps I m (fun _ => True) →
        Triple I m (fun _ => I) fun _ => I :=
      fun h => Triple.weaken h (fun _ h => h) (fun _ _ h => h.1) fun _ _ h => h.1
    split
    · refine Triple.bind (free (shows.complaints r)) fun cs => ?_
      split
      · exact Triple.pure fun _ hs => hs
      · exact Triple.bind (free (shows.value r .id)) fun v =>
          Triple.bind (free (h.toKeptAside.note _)) fun _ => Triple.throw fun _ hs => hs
    · exact Triple.pure fun _ hs => hs

/-- After a flush every post is followed by its entity and has its document. A session that could not
be flushed can be taken back. -/
theorem flush_post {ps : List PostRow} {now : Instant} (h : s.Tracks ps c) (handover : s.Handover)
    (indexed : s.tables.IndexedBut s.Awaits) :
    Triple (· = s) (flush now) (fun _ => Settled c) fun _ => Undoable c := by
  have start : Primed s ps c s.tables.documents s := ⟨.refl h, handover, indexed⟩
  refine Triple.bind (Q := fun s' t => s' = s ∧ t = s) (Triple.get fun _ h => ⟨h, h⟩)
    fun s' => Triple.of_known fun hs => ?_
  subst hs
  by_cases clean : s'.isClean = true
  · rw [if_pos clean]
    exact Triple.pure fun _ same => same ▸ h.settled indexed clean
  · rw [if_neg clean]
    refine Triple.bind (Triple.weaken (validateAll_kept keptByTaking_primed _)
      (fun _ same => by rw [same]; exact start)
      (fun _ _ h => h) fun _ _ h => h.toTracks.undoable) fun _ => ?_
    refine Triple.bind (Triple.reaching fun _ hs => hs.whole) fun s'' => ?_
    rintro _ ⟨rfl, hs⟩
    refine Triple.tryCatch (Triple.weaken (carryOut_post hs) (fun _ h => h) (fun _ _ h => h)
      fun _ _ h => h) (fun err => ?_) s'' rfl
    refine Triple.bind (Q := fun _ => Restored c) (Triple.modify fun s h => h.failed.1) fun _ => ?_
    exact Triple.throw fun s h => ⟨h.toRecoverable, fun _ => h⟩

theorem flushAll_settled (now : Instant) (n : Nat) :
    Triple (Settled c) (flushAll now n) (fun _ => Settled c) fun _ => Undoable c := by
  induction n with
  | zero => exact Triple.pure fun _ hs => hs
  | succ n ih =>
    refine Triple.bind (Q := fun _ => Settled c) (Triple.get fun _ hs => hs) fun _ => ?_
    split
    · refine Triple.bind (fun s hs => ?_) fun _ => ih
      exact flush_post hs.tracks hs.handover (hs.indexed.mono fun _ none => none.elim) s rfl
    · exact Triple.pure fun _ hs => hs

/-- After a commit every post is followed by its entity and has its document, and nothing is left to
be taken back. -/
theorem commit_post {ps : List PostRow} {now : Instant} (h : s.Tracks ps c) (handover : s.Handover)
    (indexed : s.tables.IndexedBut s.Awaits) :
    Triple (· = s) (commit now)
      (fun _ s' => s'.Tracks s'.tables.posts s'.tables ∧ s'.tables.IndexedBut fun _ => False)
      fun _ => Undoable c := by
  refine Triple.bind (Q := fun _ t => t = s) (Triple.weaken (Triple.reaching (P := (· = s))
    fun _ same => same ▸ h.whole) (fun _ h => h) (fun _ _ h => h.2) fun _ _ h => h) fun _ => ?_
  refine Triple.bind (Q := fun _ => Settled c) ?_ fun _ => Triple.modify fun s settled =>
    ⟨settled.tracks.sealed, settled.indexed⟩
  refine Triple.bind (Q := fun s' t => s' = s ∧ t = s) (Triple.get fun _ h => ⟨h, h⟩)
    fun s' => Triple.of_known fun hs => ?_
  subst hs
  by_cases clean : s'.isClean = true
  · rw [if_neg (by rw [clean]; decide)]
    exact Triple.pure fun _ same => same ▸ h.settled indexed clean
  · rw [if_pos (by rw [Bool.eq_false_iff.mpr clean]; rfl)]
    exact Triple.bind (flush_post h handover indexed) fun _ => flushAll_settled now 99

end Work

end All

end Session

end Weblog
