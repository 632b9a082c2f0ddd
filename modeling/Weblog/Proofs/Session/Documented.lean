/-
  Documents of posts over all runs of a session.

  Steps that are plain (`Step.IsPlain`), and a rollback after every one that fails, keep the documents of
  posts: every post has one that is made of its title and its body, and there is no other. Reindexing makes
  documents of what entities hold, be it stored or not; those that are ahead of their rows are written anew
  in the commit that follows.

  A post that takes over the row of a deleted one is written as far as its attributes were set since it
  was last written or undone, but its document is made of all of them. So a run is plain only if the title
  and the body were set of whatever takes over a row.
-/
import Weblog.Proofs.Session.Settling

namespace Weblog

/-- A document is put in for an identifier that has none. -/
theorem Tables.IndexedBut.append {t : Tables} {d : DocumentRow} {late late' : String → Prop}
    (h : t.IndexedBut late) (type : d.recordType = Kind.post.table)
    (fresh : t.document? d.recordType d.recordId = none)
    (own : ¬late' d.recordId → (t.post? d.recordId).map PostRow.document = some d)
    (fewer : ∀ id, id ≠ d.recordId → late id → late' id) :
    ({ t with documents := t.documents ++ [d] } : Tables).IndexedBut late' where
  typed := by
    intro d' hd'
    rcases List.mem_append.mp hd' with old | new
    · exact h.typed d' old
    · exact List.mem_singleton.mp new ▸ type
  once := by
    rw [List.map_append, List.nodup_append]
    refine ⟨h.once, List.nodup_singleton _, fun id old id' new same => ?_⟩
    obtain ⟨d', hd', rfl⟩ := List.mem_map.mp old
    obtain rfl : id' = d.recordId := List.mem_singleton.mp new
    have other := List.find?_eq_none.mp fresh d' hd'
    simp [h.typed d' hd', type, same] at other
  tracks := by
    intro id behind
    unfold Tables.Tracks Tables.document?
    rw [List.find?_append]
    by_cases same : id = d.recordId
    · subst same
      have none : t.documents.find? (fun e => e.recordType = Kind.post.table && e.recordId = d.recordId) =
          none := by
        rw [← type]
        exact fresh
      rw [none, Option.none_or]
      refine Eq.trans ?_ (own behind).symm
      simp [type]
    · have last : [d].find? (fun e => e.recordType = Kind.post.table && e.recordId = id) = none := by
        simp [Ne.symm same]
      rw [last, Option.or_none]
      exact h.tracks id fun was => behind (fewer id same was)

namespace Session

variable {s s' : Session} {r : Ref} {e : Entity} {c : Tables} {p : PostRow} {ps qs : List PostRow}
  {rs : List Ref} {id : String} {now : Instant} {late : String → Prop} {x : Step}

/-! ## Reindexing -/

/-- The entity is found by the identifier of a post. -/
def Stands (s : Session) (p : PostRow) (r : Ref) : Prop :=
  ∃ e, s.PostAt r e ∧ e.isMapped = true ∧ e.key? = some (.text p.id)

theorem Stands.apart (h : s.Stands p r) (apart : s.Apart s') : s'.Stands p r := by
  obtain ⟨e, he, mapped, hkey⟩ := h
  obtain ⟨e', he', reread⟩ := apart.altered.forth he
  exact ⟨e', he', reread.mapped.trans mapped, reread.key.trans hkey⟩

theorem Stands.push (h : s.Stands p r) (new : Entity) :
    ({ s with entities := s.entities ++ [new] } : Session).Stands p r := by
  obtain ⟨e, he, stands⟩ := h
  exact ⟨e, ⟨entity?_push he.1 new, he.2⟩, stands⟩

/-- A session while documents are made anew: they lag behind or are ahead where posts were set, and some
are not there yet. -/
structure Indexing (ps : List PostRow) (c : Tables) (late : String → Prop) (s : Session) : Prop
    extends Tracks ps c s where
  handover : s.Handover
  indexed : s.tables.IndexedBut fun id => s.Awaits id ∨ late id

namespace Work

theorem Triple.and {α : Type} {P : Session → Prop} {m : Work α} {Q Q' : α → Session → Prop}
    {E E' : Error → Session → Prop} (h : Triple P m Q E) (h' : Triple P m Q' E') :
    Triple P m (fun a s => Q a s ∧ Q' a s) fun err s => E err s ∧ E' err s := by
  intro s hs
  have first := h s hs
  have second := h' s hs
  rcases hrun : m.run.run s with ⟨_ | _, s'⟩
  all_goals
    rw [hrun] at first second
    exact ⟨first, second⟩

variable (ps c late) in
theorem keptByTaking_indexing : KeptByTaking (Indexing ps c late) where
  record := fun hs he => hs.records _ _ he
  apart := fun hs apart => ⟨hs.toTracks.apart apart, hs.handover.apart hs.records apart,
    hs.indexed.of_documents apart.documents fun id behind =>
      ⟨fun was => behind (was.imp_left apart.awaits_iff.mpr), Tables.post?_congr apart.posts id⟩⟩
  posts := fun hs hs' => hs'.posts.trans hs.posts.symm
  there := fun hs he mapped => by
    obtain ⟨p, hp, hkey, -⟩ := hs.follows _ _ he mapped
    exact ⟨p, hs.posts ▸ hp, hkey⟩
  push := fun hs stored free => ⟨hs.toTracks.push_row stored free, hs.handover.push _,
    hs.indexed.mono fun _ => Or.imp_left fun awaits => awaits.push _⟩

variable {I : Session → Prop}

theorem KeptByTaking.stands (h : KeptByTaking I) (p : PostRow) (r : Ref) :
    KeptByTaking fun s => I s ∧ s.Stands p r where
  record := fun hs he => h.record hs.1 he
  apart := fun hs apart => ⟨h.apart hs.1 apart, hs.2.apart apart⟩
  posts := fun hs hs' => h.posts hs.1 hs'.1
  there := fun hs he mapped => h.there hs.1 he mapped
  push := fun hs stored free => ⟨h.push hs.1 stored free, hs.2.push _⟩

theorem adopt_stands (h : KeptByTaking I) (stored : ∀ s, I s → p ∈ s.tables.posts) :
    Triple I (adopt (.post p)) (fun r s => I s ∧ s.Stands p r) fun _ => I := by
  intro s hs
  have row : Row.post p ∈ s.tables.rows .post := List.mem_map_of_mem (stored s hs)
  have kept : Keeps I (adopt (.post p)) fun _ => True := h.adopt hs row
  refine Triple.weaken (P := (· = s)) (Triple.and (Triple.weaken kept (fun _ same => same ▸ hs)
    (fun _ _ h => h.1) fun _ _ h => h.1) (adopt_at s (.post p))) (fun _ h => h)
    (fun r s' done => ⟨done.1, ?_⟩) (fun _ _ h => h.1) s rfl
  rcases done.2 with ⟨e, he, here, rfl⟩ | ⟨-, rfl, rfl⟩
  · have post := kind_of_isAt here
    obtain ⟨mapped, hkey⟩ := key_of_isAt (h.record hs ⟨he, post⟩) here
    exact ⟨_, ⟨entity?_modifyEntity_self he, post⟩, mapped, hkey⟩
  · exact ⟨_, ⟨entity?_last s _, rfl⟩, rfl, rfl⟩

/-- Every post is taken over into an entity that is found by its identifier. -/
theorem adoptAll_stands (h : KeptByTaking I) (qs : List PostRow)
    (stored : ∀ s, I s → ∀ p ∈ qs, p ∈ s.tables.posts) :
    Triple I ((qs.map Row.post).mapM adopt) (fun rs s => I s ∧ List.Forall₂ s.Stands qs rs)
      fun _ => I := by
  induction qs generalizing I with
  | nil => exact Triple.pure fun _ hs => ⟨hs, .nil⟩
  | cons p qs ih =>
    rw [List.map_cons, List.mapM_cons]
    refine Triple.bind (adopt_stands h fun s hs => stored s hs p List.mem_cons_self) fun r => ?_
    refine Triple.bind (Triple.weaken (ih (h.stands p r) fun s hs q hq =>
      stored s hs.1 q (List.mem_cons_of_mem p hq)) (fun _ h => h) (fun _ _ h => h) fun _ _ h => h.1)
      fun rs => Triple.pure fun s done => ?_
    exact ⟨done.1.1, .cons done.1.2 done.2⟩

/-- The document of an entity that is found by the identifier of a post has that identifier, and is the
one of the post if the entity holds what the post holds. -/
theorem document_stands (h : KeptAside I) (stands : ∀ s, I s → s.Stands p r) :
    Triple I (document r) (fun d s => I s ∧ d.recordType = Kind.post.table ∧ d.recordId = p.id ∧
      ((∀ s, I s → ∀ e, s.PostAt r e → e.Bears p) → d = p.document)) fun _ => I := by
  have read : ∀ col, Triple I (value r col) (fun v s => I s ∧ ∃ e, s.PostAt r e ∧
      (e.held? col).getD .null = v ∧ (e.held? col = none → col ∉ e.stale)) fun _ => I := fun col =>
    Triple.weaken (value_post h r col) (fun s hs => ⟨hs, (stands s hs).imp fun _ => And.left⟩)
      (fun _ _ h => h) fun _ _ h => h
  have part : ∀ {col} {o : Option String}, col ∈ Column.contents → (Row.post p).cell col = .ofText? o →
      Triple I (do
        let v ← value r col
        return Document.partOf (v.value?.getD .null))
      (fun t s => I s ∧ ((∀ s, I s → ∀ e, s.PostAt r e → e.Bears p) → t = o.getD "")) fun _ => I := by
    intro col o hcol cell
    refine Triple.bind (read col) fun v => Triple.pure fun s done => ⟨done.1, fun bears => ?_⟩
    obtain ⟨hs, e, he, rfl, fresh⟩ := done
    rw [(bears s hs e he).value hcol fresh, cell, Cell.value?_ofText?]
    exact Document.partOf_ofText o
  refine Triple.bind (Q := fun v s => I s ∧ v = .text p.id) (Triple.weaken (read .id) (fun _ h => h)
    (fun v s done => ⟨done.1, ?_⟩) fun _ _ h => h) fun id => ?_
  · obtain ⟨hs, e, he, rfl, fresh⟩ := done
    obtain ⟨e', he', -, hkey⟩ := stands s hs
    obtain rfl := he.eq he'
    rw [(h.record hs he).held_rowId (Entity.rowId?_of_key hkey) fresh]
    rfl
  · rintro s ⟨hs, rfl⟩
    refine Triple.bind (part (o := p.title) (by decide) rfl) (fun title => ?_) s hs
    rintro s ⟨hs, first⟩
    refine Triple.bind (part (o := p.body) (by decide) rfl) (fun body => ?_) s hs
    rintro s ⟨hs, second⟩
    exact ⟨hs, rfl, rfl, fun bears => by rw [first bears, second bears]; rfl⟩

end Work

theorem Indexing.bears (h : s.Indexing ps c late) (hp : p ∈ ps) (stands : s.Stands p r)
    (free : ¬s.Awaits p.id) (he : s.PostAt r e) : e.Bears p := by
  obtain ⟨e', he', mapped, hkey⟩ := stands
  obtain rfl := he.eq he'
  obtain ⟨q, hq, hkey', follows⟩ := h.follows r e he mapped
  have same : q.id = p.id := Cell.text.inj (Option.some.inj (hkey'.symm.trans hkey))
  obtain rfl := List.inj_on_of_nodup_map h.distinct hq hp same
  exact follows.bears (by_contra fun set => free ⟨r, e, he, mapped, hkey, set⟩)

theorem Tracks.change_documents (h : s.Tracks ps c) (f : Tables → List DocumentRow) :
    (s.change fun t => { t with documents := f t }).Tracks ps c :=
  h.altered rfl rfl rfl (.of_entities (Entity.Abides.refl ps) rfl)

namespace Work

/-- The documents of posts are put in, one after the other. -/
theorem insertDocuments_post (qs : List PostRow) (once : (qs.map (·.id)).Nodup)
    (stored : ∀ p ∈ qs, p ∈ ps) :
    Triple (fun s => s.Indexing ps c (· ∈ qs.map (·.id)) ∧ List.Forall₂ s.Stands qs rs)
      (rs.forM fun r => do insertDocument (← document r))
      (fun _ s => s.Indexing ps c fun _ => False) fun _ => Tracks ps c := by
  induction qs generalizing rs with
  | nil =>
    rintro s ⟨h, all⟩
    cases all
    exact ⟨h.toTracks, h.handover, h.indexed.mono fun _ => Or.imp_right List.not_mem_nil⟩
  | cons p qs ih =>
    rintro s ⟨h, all⟩
    obtain ⟨r, rs, first, others, rfl⟩ := List.forall₂_cons_left_iff.mp all
    rw [List.map_cons, List.nodup_cons] at once
    have hp := stored p List.mem_cons_self
    -- Whether the post was set does not change while its document is made.
    have aside : KeptAside fun t => t.Indexing ps c (· ∈ (p :: qs).map (·.id)) ∧ (t.Stands p r ∧
        List.Forall₂ t.Stands qs rs) ∧ (t.Awaits p.id ↔ s.Awaits p.id) :=
      (keptByTaking_indexing c ps _).toKeptAside.and fun _ apart known => ⟨⟨known.1.1.apart apart,
        known.1.2.imp fun _ _ stands => stands.apart apart⟩, apart.awaits_iff.trans known.2⟩
    have inserted : Triple (fun t => t.Indexing ps c (· ∈ (p :: qs).map (·.id)) ∧ (t.Stands p r ∧
        List.Forall₂ t.Stands qs rs) ∧ (t.Awaits p.id ↔ s.Awaits p.id))
        (do insertDocument (← document r))
        (fun _ t => t.Indexing ps c (· ∈ qs.map (·.id)) ∧ List.Forall₂ t.Stands qs rs)
        fun _ => Tracks ps c := by
      refine Triple.bind (Triple.weaken (document_stands aside fun _ hs => hs.2.1.1) (fun _ h => h)
        (fun _ _ h => h) fun _ _ h => h.1.toTracks) fun d => ?_
      refine Triple.storing (fun _ hs => hs.1.1.whole) fun t ht => ?_
      obtain ⟨⟨indexing, ⟨stands, others⟩, awaits⟩, type, own, same⟩ := ht
      by_cases found : (t.store.tables.document? d.recordType d.recordId).isSome = true
      · rw [if_pos found]
        exact indexing.toTracks
      · rw [if_neg found]
        dsimp only
        refine ⟨⟨indexing.toTracks.change_documents _, ⟨indexing.handover.anew, indexing.handover.once⟩,
          ?_⟩, others.imp fun _ _ stands => stands⟩
        refine indexing.indexed.append type (Option.not_isSome_iff_eq_none.mp found) (fun behind => ?_)
          fun id other late => ?_
        · have free : ¬s.Awaits p.id := fun set => behind (.inl (own ▸ awaits.mpr set))
          have post : t.tables.post? p.id = some p :=
            Tables.post?_of_mem (indexing.posts.symm ▸ indexing.distinct) (indexing.posts.symm ▸ hp)
          rw [own, post, same fun t' ht' e he => ht'.1.bears hp ht'.2.1.1 (mt ht'.2.2.mp free) he]
          rfl
        · rcases late with set | mem
          · exact .inl set
          · exact .inr ((List.mem_cons.mp mem).resolve_left fun same => other (same.trans own.symm))
    exact Triple.bind inserted (fun _ => ih once.2 fun q hq => stored q (List.mem_cons_of_mem p hq)) s
      ⟨h, ⟨first, others⟩, Iff.rfl⟩

/-- Where documents are made anew, posts have theirs after the commit. -/
theorem reindex_post {k : Kind} (h : s.Tracks ps c) (handover : s.Handover)
    (indexed : s.tables.IndexedBut fun _ => False) :
    Triple (· = s) (reindex now k)
      (fun _ s' => s'.Tracks s'.tables.posts s'.tables ∧ s'.tables.IndexedBut fun _ => False)
      fun _ => Undoable c := by
  unfold reindex
  refine Triple.guard (fun _ s' same => same ▸ h.undoable) fun searchable => ?_
  obtain rfl : k = .post := by simpa [isSearchable] using searchable
  refine Triple.bind (Q := fun _ s' => s'.Indexing ps c (· ∈ ps.map (·.id))) (Triple.storing
    (fun s' same => same ▸ h.whole) fun s' same => ?_) fun _ => ?_
  · subst same
    have none : s'.tables.documents.filter (fun d => !decide (d.recordType = Kind.post.table)) = [] :=
      List.filter_eq_nil_iff.mpr fun d hd => by simp [indexed.typed d hd]
    refine ⟨h.change_documents _, ⟨handover.anew, handover.once⟩, ?_⟩
    show ({ s'.tables with
      documents := s'.tables.documents.filter (fun d => !decide (d.recordType = Kind.post.table)) } :
        Tables).IndexedBut _
    rw [none]
    refine ⟨fun d hd => (by cases hd), List.nodup_nil, fun id behind => ?_⟩
    have free : s'.tables.post? id = Option.none := Tables.post?_eq_none.mpr fun q hq same =>
      behind (.inr (List.mem_map.mpr ⟨q, h.posts ▸ hq, same⟩))
    show Option.none = (s'.tables.post? id).map PostRow.document
    rw [free]
    rfl
  · refine Triple.bind (Triple.reaching fun _ hs => hs.whole) fun s' => ?_
    rintro _ ⟨rfl, hs⟩
    refine Triple.bind (Triple.weaken (adoptAll_stands
      (keptByTaking_indexing c ps (· ∈ ps.map (·.id))) s'.tables.posts fun t ht p hp => ?_)
      (fun _ h => h) (fun _ _ h => h) fun _ _ h => h.toTracks.undoable) (fun rs => ?_) s' hs
    · rw [ht.posts, ← hs.posts]
      exact hp
    · refine Triple.bind (Triple.weaken (insertDocuments_post s'.tables.posts
        (hs.posts ▸ hs.distinct) fun p hp => hs.posts ▸ hp) (fun t ht => ?_) (fun _ _ h => h)
        fun _ _ h => h.undoable) fun _ => ?_
      · rw [hs.posts] at ht ⊢
        exact ht
      · intro t ht
        refine Triple.bind (commit_post ht.toTracks ht.handover (ht.indexed.mono fun _ set =>
          set.resolve_right not_false)) (fun _ => ?_) t rfl
        refine Triple.bind (Q := fun _ s' => s'.Tracks s'.tables.posts s'.tables ∧
          s'.tables.IndexedBut fun _ => False) (Triple.modify fun t ht => ?_) fun _ =>
          Triple.pure fun _ h => h
        exact ⟨ht.1.altered rfl rfl rfl (.of_entities (Entity.Abides.refl _) rfl), ht.2⟩

end Work

/-! ## Steps -/

/-- A session that keeps track of its posts, all of which have their documents, and had them at the last
commit. -/
structure Sound (s : Session) : Prop where
  tracks : s.Tracks s.tables.posts s.committed
  indexed : s.tables.IndexedBut fun _ => False
  before : s.committed.IndexedBut fun _ => False

theorem Sound.unlogged (h : s.Sound) : ({ s with log := [] } : Session).Sound :=
  ⟨h.tracks.altered rfl rfl rfl (.of_entities (Entity.Abides.refl _) rfl), h.indexed, h.before⟩

theorem Tracking.sound {s₀ : Session} (h : s₀.Sound)
    (tracking : s₀.Tracking s₀.tables.posts s₀.committed s₀.tables.documents s) : s.Sound where
  tracks := by
    rw [tracking.posts, tracking.committed]
    exact tracking.toTracks
  indexed := h.indexed.of_documents tracking.documents fun id late =>
    ⟨late, Tables.post?_congr tracking.posts id⟩
  before := tracking.committed ▸ h.before

/-- A session that is taken back to the last commit has the documents of then. -/
theorem Undoable.rollback (h : Undoable c s) (before : c.IndexedBut fun _ => False) :
    s.rollback.Sound := by
  obtain ⟨tracks, tables⟩ := tracks_rollback h.1 h.2
  refine ⟨?_, tables ▸ before, tracks.committed ▸ before⟩
  rw [tracks.posts, tracks.committed]
  exact tracks

theorem Step.IsPlain.unlogged (h : x.IsPlain s) : x.IsPlain { s with log := [] } := by
  cases x with
  | flush | commit | reindex k => exact ⟨h.anew, h.once⟩
  | _ => exact h

namespace Work

/-- A plain step leaves every post with its document, or fails and can be undone. -/
theorem take_post (h : s.Sound) (plain : x.IsPlain s) :
    Triple (· = s) (take now x) (fun _ => Sound) fun _ => Undoable s.committed := by
  have awaiting : s.tables.IndexedBut s.Awaits := h.indexed.mono fun _ none => none.elim
  have last : ∀ {t : Session} {c : Tables}, t.Tracks t.tables.posts c →
      (t.tables.IndexedBut fun _ => False) → (c.IndexedBut fun _ => False) → t.Sound :=
    fun tracks indexed before => ⟨by rwa [tracks.committed], indexed, tracks.committed ▸ before⟩
  have then_pure : ∀ {α β : Type} {m : Work α} {f : α → β},
      Triple (· = s) m (fun _ => Sound) (fun _ => Undoable s.committed) →
      Triple (· = s) (do return f (← m)) (fun _ => Sound) fun _ => Undoable s.committed :=
    fun h => Triple.bind h fun _ => Triple.pure fun _ h => h
  by_cases writes : x.writes = true
  · cases x with
    | flush =>
      exact then_pure (Triple.weaken (flush_post h.tracks plain awaiting) (fun _ h => h)
        (fun _ t done => last done.tracks done.indexed h.before) fun _ _ h => h)
    | commit =>
      exact then_pure (Triple.weaken (commit_post h.tracks plain awaiting) (fun _ h => h)
        (fun _ t done => last done.1 done.2 done.2) fun _ _ h => h)
    | reindex k =>
      exact then_pure (Triple.weaken (reindex_post h.tracks plain h.indexed) (fun _ h => h)
        (fun _ t done => last done.1 done.2 done.2) fun _ _ h => h)
    | _ => cases writes
  · by_cases back : x = .rollback
    · subst back
      exact then_pure (Triple.modify fun t same => same ▸ h.tracks.undoable.rollback h.before)
    · exact Triple.weaken (tracking_take now h.tracks plain (Bool.eq_false_iff.mpr writes) back)
        (fun _ h => h) (fun _ _ done => Tracking.sound h done) fun _ _ failed => failed.toTracks.undoable

end Work

/-! ## Runs -/

/-- The session after a step, taken back if the step failed. -/
def Outcome.kept (o : Outcome) (now : Instant) : Session :=
  match o.result with
  | .ok _ => o.session
  | .error _ => (o.session.step now .rollback).session

/-- Takes a step, and takes everything back if it fails. -/
def attempt (s : Session) (x : Instant × Step) : Session := (s.step x.1 x.2).kept x.1

/-- The sessions that plain steps lead to, with a rollback after every step that fails. The first one has
read nothing yet, and the documents are those of the posts. -/
inductive Followed : Session → Prop
  | opened {s : Session} (unread : s.entities = []) (whole : s.broken = false)
      (committed : s.committed = s.tables) (ids : (s.tables.posts.map (·.id)).Nodup)
      (indexed : s.tables.Indexed) : Followed s
  | step {s : Session} {x : Instant × Step} (before : Followed s) (plain : x.2.IsPlain s) :
      Followed (s.attempt x)

theorem Sound.opened (unread : s.entities = []) (whole : s.broken = false)
    (committed : s.committed = s.tables) (ids : (s.tables.posts.map (·.id)).Nodup)
    (indexed : s.tables.Indexed) : s.Sound := by
  have none : ∀ {r e}, ¬s.PostAt r e := fun he => entity?_of_nil unread he.1
  have documents := indexed.indexedBut ids
  refine ⟨?_, documents, committed ▸ documents⟩
  rw [committed]
  exact tracks_of_lasting committed rfl whole ids (fun r e he => absurd he none)
    (fun r e he => absurd he none) (fun r e he => absurd he none) fun r q e f he => absurd he none

/-- A plain step, undone if it fails, leaves every post with its document. -/
theorem Sound.attempt (h : s.Sound) {x : Instant × Step} (plain : x.2.IsPlain s) :
    (s.attempt x).Sound := by
  obtain ⟨s', session, ends⟩ := exists_ends (Work.take_post h.unlogged plain.unlogged)
  unfold Session.attempt Outcome.kept
  cases result : (s.step x.1 x.2).result with
  | ok v =>
    rw [result] at ends
    rw [session]
    exact Sound.unlogged ends
  | error err =>
    rw [result] at ends
    have back : (({ s' with log := [] } : Session).rollback).Sound := Undoable.rollback
      ⟨ends.1.of_entities rfl rfl, fun broken => (ends.2 broken).of_entities rfl rfl⟩ h.before
    rw [session]
    exact back.unlogged

theorem Followed.sound (h : Followed s) : s.Sound := by
  induction h with
  | opened unread whole committed ids indexed => exact .opened unread whole committed ids indexed
  | step before plain ih => exact ih.attempt plain

/-- Whatever plain steps are taken, the documents are those of the posts, made of their titles and their
bodies: each post has one, and there is no other. -/
theorem documents_follow_posts (h : Followed s) : s.tables.documents.Perm
    (s.tables.posts.map fun p => ⟨"posts", p.id, Document.build p.indexed ["title", "body"]⟩) := by
  have indexed := h.sound.indexed.indexed h.sound.tracks.distinct
  rwa [Tables.Indexed, List.map_congr_left fun p _ => p.document_eq_build] at indexed

/-! ## Single runs -/

/-- Nothing is taken over where nothing is to be taken out. -/
theorem handover_of_all (spared : (s.entities.all fun e => !e.isDoomed) = true) : s.Handover := by
  refine handover_of_none fun r id takes => ?_
  obtain ⟨q, f, hf, -, doomed, -⟩ := takes.2
  have still := List.all_eq_true.mp spared f (List.mem_of_getElem? hf.1)
  rw [doomed] at still
  cases still

/-- What is given are texts. -/
theorem isPlain_recorded (k : Kind) (attributes : List (String × String)) :
    (recorded k attributes).IsPlain s := by
  intro a ha col _ _
  obtain ⟨x, -, rfl⟩ := List.mem_map.mp ha
  exact .inr ⟨x.2, rfl⟩

/-- A step at the beginning of time. -/
def thereupon (s : Session) (x : Step) : Session := s.attempt (⟨0⟩, x)

/-- A session that has read a stored post, the document of which is up to date. -/
def acquainted : Session :=
  (reading ((Store.fresh false).change fun _ => indexedFirst)).thereupon (.find .post (.text "p"))

/-- A session in which another post was refused, since it had no title. -/
def untitled : Session :=
  ((acquainted.thereupon (recorded .post [("id", "q"), ("user_id", "u"), ("body", "Body")])).thereupon
    (.add [1])).thereupon .flush

/-- A session in which the stored post was given another title. -/
def retitled : Session :=
  (untitled.thereupon (.assign 0 "title" (.value (.str "Second")))).thereupon .flush

theorem Followed.thereupon (h : Followed s) (plain : x.IsPlain s) : Followed (s.thereupon x) :=
  h.step (x := (⟨0⟩, x)) plain

theorem followed_acquainted : Followed acquainted := by
  refine Followed.thereupon (.opened rfl rfl rfl ?_ ?_) trivial
  · exact List.nodup_singleton _
  · exact List.Perm.of_eq (by cbv)

theorem followed_retitled : Followed retitled := by
  refine Followed.thereupon (Followed.thereupon (Followed.thereupon (Followed.thereupon
    (Followed.thereupon followed_acquainted ?_) ?_) ?_) ?_) ?_
  · exact isPlain_recorded _ _
  · trivial
  · exact handover_of_all (by cbv)
  · rintro e - col - same
    refine ⟨.inr ⟨_, rfl⟩, ?_⟩
    rintro rfl
    exact absurd same (by decide)
  · exact handover_of_all (by cbv)

theorem retitled_documents :
    retitled.tables.posts.map (fun p => (p.id, p.title, p.body)) = [("p", some "Second", some "Body")] ∧
      retitled.tables.documents.Perm (retitled.tables.posts.map fun p =>
        ⟨"posts", p.id, Document.build p.indexed ["title", "body"]⟩) :=
  ⟨by cbv, documents_follow_posts followed_retitled⟩

/-- A session in which a post was put in for the stored one, which was deleted, twice, with a rollback in
between. -/
def takenOver : Session :=
  let another := acquainted.thereupon
    (recorded .post [("id", "p"), ("user_id", "u"), ("title", "Second"), ("body", "Body")])
  let first := ((another.thereupon (.delete 0)).thereupon (.add [1])).thereupon .flush
  (((first.thereupon .rollback).thereupon (.delete 0)).thereupon (.add [1])).thereupon .flush

/-- The second time the row is not written, as no attribute was set since, but its document is. -/
theorem takenOver_documents :
    takenOver.tables.posts.map (fun p => (p.id, p.title, p.body)) = [("p", some "First", some "Body")] ∧
      takenOver.tables.documents = [⟨"posts", "p", "second body"⟩] ∧
      ¬takenOver.tables.documents.Perm (takenOver.tables.posts.map fun p =>
        ⟨"posts", p.id, Document.build p.indexed ["title", "body"]⟩) := by
  -- All parts are read off one evaluation of the run.
  have seen : (fun s : Session => (s.tables.posts.map (fun p => (p.id, p.title, p.body)),
      s.tables.documents, (s.tables.posts.map fun p =>
        (⟨"posts", p.id, Document.build p.indexed ["title", "body"]⟩ : DocumentRow)))) takenOver =
      ([("p", some "First", some "Body")], [⟨"posts", "p", "second body"⟩],
        [⟨"posts", "p", "first body"⟩]) := by cbv
  simp only [Prod.mk.injEq] at seen
  obtain ⟨posts, documents, built⟩ := seen
  refine ⟨posts, documents, ?_⟩
  rw [documents, built, List.singleton_perm_singleton]
  decide

end Session

end Weblog
