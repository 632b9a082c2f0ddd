/-
  Steps that write nothing keep track of posts.

  A session can be taken back to the last commit if the entities that stand for rows of then do so
  one by one (`Session.Recoverable`). It keeps track of the posts if besides, the entity that it finds
  by the key of a post is the only one and knows what the row holds, as far as it knows anything
  (`Session.Tracks`). Reading, setting and relating keep it so, and so do marking what is to be put in
  or taken out; an identifier is set only while there is no row.
-/
import Weblog.Proofs.Session.Tracking

namespace Weblog

namespace Entity

variable {e e' : Entity} {c d : Column} {v : Cell} {p : PostRow} {ps : List PostRow} {id : String}

/-! ## Changes that write nothing -/

/-- An entity of a post after a change that writes nothing: it has the same key and place, and still
knows what its row holds. -/
structure Abides (ps : List PostRow) (e e' : Entity) : Prop where
  record : e.IsRecord → e'.IsRecord
  key : e'.key? = e.key?
  mapped : e'.isMapped = e.isMapped
  written : e'.wasWritten = e.wasWritten
  removed : e'.wasRemoved = e.wasRemoved
  follows : ∀ p ∈ ps, e.key? = some (.text p.id) → e.Follows p → e'.Follows p
  unset : (e.isTouched = false → e.IsUnset) → e'.isTouched = false → e'.IsUnset

theorem Abides.holds (h : e.Abides ps e') : e'.Holds id ↔ e.Holds id := by
  rw [Holds, Holds, h.key, h.written, h.mapped, h.removed]

theorem Abides.refl (ps : List PostRow) (e : Entity) : e.Abides ps e :=
  ⟨id, rfl, rfl, rfl, rfl, fun _ _ _ => id, id⟩

theorem Reread.abides (h : e.Reread ps e') (ids : (ps.map (·.id)).Nodup) : e.Abides ps e' where
  record := h.isRecord
  key := h.key
  mapped := h.mapped
  written := h.written
  removed := h.removed
  follows := fun _ hp hkey => h.follows ids hp hkey
  unset := by
    intro before untouched
    refine h.unset_iff.mpr (before (Bool.eq_false_iff.mpr fun touched => ?_))
    rw [h.touched touched] at untouched
    cases untouched

/-- An entity that holds the same and stands otherwise. -/
theorem IsRecord.restand (h : e.IsRecord) (cells : e'.cells = e.cells)
    (formerCells : e'.formerCells = e.formerCells) (stale : e'.stale = e.stale)
    (key : e'.key? = e.key?) (renamed : e'.renamedFrom? = e.renamedFrom?)
    (unkeyed : e'.isPending = true → e.key? = none)
    (found : e.key?.isSome = true → e'.isMapped = true ∨ e'.isGone = true)
    (keyed : e'.isMapped = true → e.key?.isSome = true)
    (doomed : e'.isDoomed = true → e'.isMapped = true) : e'.IsRecord := by
  have held : ∀ c, e'.held? c = e.held? c := fun c => congrArg (List.lookup c) cells
  refine ⟨fun c hc v hv => h.texts c hc v (held c ▸ hv), fun c hc v hv => h.formers c hc v (formerCells ▸ hv),
    fun c hc set => ?_, fun pending => key ▸ unkeyed pending, fun name hname => ?_,
    fun keyed c hc value old => ?_, fun keyed => found (key ▸ keyed), fun mapped => key ▸ keyed mapped,
    doomed, renamed ▸ h.unrenamed⟩
  · rw [held c]
    exact h.noted c hc (formerCells ▸ set)
  · rw [held, formerCells, stale]
    exact h.key name (key ▸ hname)
  · rw [formerCells]
    exact h.given (key ▸ keyed) c hc (held c ▸ value) (stale ▸ old)

/-- Marking an entity that is to be put in, taken out or spared. -/
theorem abides_restand (cells : e'.cells = e.cells) (formerCells : e'.formerCells = e.formerCells)
    (stale : e'.stale = e.stale) (key : e'.key? = e.key?) (mapped : e'.isMapped = e.isMapped)
    (gone : e'.isGone = e.isGone) (written : e'.wasWritten = e.wasWritten)
    (removed : e'.wasRemoved = e.wasRemoved) (renamed : e'.renamedFrom? = e.renamedFrom?)
    (touched : e'.isTouched = e.isTouched) (unkeyed : e'.isPending = true → e.key? = none)
    (doomed : e.IsRecord → e'.isDoomed = true → e.isMapped = true) : e.Abides ps e' where
  record := fun h => by
    refine h.restand cells formerCells stale key renamed unkeyed ?_ ?_ ?_
    · rw [mapped, gone]
      exact h.found
    · rw [mapped]
      exact h.keyed
    · rw [mapped]
      exact doomed h
  key := key
  mapped := mapped
  written := written
  removed := removed
  follows := by
    intro p _ _ follows c hc
    have known := follows c hc
    unfold FollowsIn BearsIn held? at known ⊢
    rw [cells, formerCells, stale]
    exact known
  unset := by
    intro before untouched c hc
    rw [formerCells]
    exact before (touched ▸ untouched) c hc

/-- What was held before a value is set. -/
def formerOf (e : Entity) (c : Column) : Former Cell :=
  match e.held? c with
  | some old => .known old
  | none => .unknown

/-- Setting a value: a text where documents are made of it, and an identifier only without a row. -/
theorem abides_setCell (e : Entity) (text : c ∈ indexedColumns → v.IsText)
    (unkeyed : c = .id → e.key? = none) : e.Abides ps (e.setCell c (e.formerOf c) v) where
  record := fun h => by
    refine ⟨fun d hd w hw => ?_, fun d hd w hw => ?_, fun d hd set => ?_, h.unkeyed, fun key hkey => ?_,
      fun keyed d hd held old => ?_, h.found, h.keyed, h.doomed, h.unrenamed⟩
    · rw [held?_setCell] at hw
      split at hw
      · rename_i same
        subst same
        exact Option.some.inj hw ▸ text hd
      · exact h.texts d hd w hw
    · rw [lookup_formers_setCell] at hw
      split at hw
      · rename_i same
        have before := Option.some.inj hw
        unfold formerOf at before
        split at before
        · rename_i old hold
          obtain rfl := Former.known.inj before
          exact h.texts c (same.1 ▸ hd) old hold
        · cases before
      · exact h.formers d hd w hw
    · rw [held?_setCell]
      split
      · rfl
      · rename_i other
        rw [lookup_formers_setCell, if_neg fun same => other same.1] at set
        exact h.noted d hd set
    · have other : Column.id ≠ c := fun same => by
        have none := unkeyed same.symm
        rw [show e.key? = some key from hkey] at none
        cases none
      rw [held?_setCell, if_neg other, lookup_formers_setCell, if_neg fun same => other same.1]
      exact h.key key hkey
    · rw [lookup_formers_setCell]
      split
      · rfl
      · rename_i other
        rw [held?_setCell] at held
        split at held
        · rename_i same
          -- A column that was set already.
          have set : e.formerCells.lookup c ≠ none := fun none => other ⟨same, none⟩
          exact same ▸ Option.isSome_iff_ne_none.mpr set
        · exact h.given keyed d hd held old
  key := rfl
  mapped := rfl
  written := rfl
  removed := rfl
  follows := by
    intro p _ _ follows d hd
    have known := follows d hd
    unfold FollowsIn at known ⊢
    rw [lookup_formers_setCell]
    by_cases first : d = c ∧ e.formerCells.lookup c = none
    · obtain ⟨rfl, unset⟩ := first
      rw [if_pos ⟨rfl, unset⟩]
      rw [unset] at known
      unfold BearsIn at known
      unfold formerOf
      cases held : e.held? d with
      | some old =>
        rw [held] at known
        exact known
      | none => trivial
    · rw [if_neg first]
      by_cases same : d = c
      · cases set : e.formerCells.lookup d with
        | some former =>
          rw [set] at known
          cases former <;> exact known
        | none => exact absurd ⟨same, same ▸ set⟩ first
      · unfold BearsIn
        rw [held?_setCell, if_neg same]
        exact known
  unset := fun _ untouched => by cases untouched

/-- An entity that gave up what it held is to read everything. -/
theorem follows_expired (post : e.kind = .post) (p : PostRow) : e.expired.Follows p := by
  intro c hc
  refine .inl ?_
  show c ∈ e.kind.columns
  rw [post]
  revert c
  decide

theorem abides_expired (post : e.kind = .post) : e.Abides ps e.expired where
  record := fun h => by
    refine ⟨fun _ _ _ h => (by cases h), fun _ _ _ h => (by cases h), fun _ _ h => (by cases h),
      h.unkeyed, fun key hkey => ?_, fun _ _ _ h => (by cases h), h.found, h.keyed, h.doomed,
      h.unrenamed⟩
    refine ⟨(h.key key hkey).1, rfl, .inr ⟨rfl, ?_⟩⟩
    show Column.id ∈ e.kind.columns
    rw [post]
    decide
  key := rfl
  mapped := rfl
  written := rfl
  removed := rfl
  follows := fun p _ _ _ => follows_expired post p
  unset := fun _ _ _ _ => rfl

end Entity

namespace Session

variable {s s' : Session} {r q : Ref} {e f : Entity} {k : Kind} {c : Tables} {ps : List PostRow}
  {p : PostRow} {id : String} {docs : List DocumentRow}

/-! ## Sessions that can be taken back -/

/-- The entities of posts that stand for rows of the last commit do so one by one. -/
structure Recoverable (c : Tables) (s : Session) : Prop where
  committed : s.committed = c
  ids : (c.posts.map (·.id)).Nodup
  records : ∀ r e, s.PostAt r e → e.IsRecord
  stored : ∀ r e id, s.PostAt r e → e.Holds id → id ∈ c.posts.map (·.id)
  alone : ∀ r q e f id, s.PostAt r e → s.PostAt q f → e.Holds id → f.Holds id → r = q

theorem Recoverable.altered {R : Entity → Entity → Prop} (h : s.Recoverable c)
    (committed : s'.committed = s.committed) (alt : Altered R s s')
    (hR : ∀ r e e', s.PostAt r e → R e e' →
      e'.IsRecord ∧ ∀ id, e'.Holds id → e.Holds id) : s'.Recoverable c where
  committed := committed.trans h.committed
  ids := h.ids
  records := by
    intro r e' he'
    obtain ⟨e, he, change⟩ := alt.back he'
    exact (hR r e e' he change).1
  stored := by
    intro r e' id he' holds
    obtain ⟨e, he, change⟩ := alt.back he'
    exact h.stored r e id he ((hR r e e' he change).2 id holds)
  alone := by
    intro r q e' f' id he' hf' holds holds'
    obtain ⟨e, he, change⟩ := alt.back he'
    obtain ⟨f, hf, change'⟩ := alt.back hf'
    exact h.alone r q e f id he hf ((hR r e e' he change).2 id holds)
      ((hR q f f' hf change').2 id holds')

theorem Recoverable.apart (h : s.Recoverable c) (apart : s.Apart s') : s'.Recoverable c :=
  h.altered apart.committed apart.altered fun r e _ he reread =>
    ⟨reread.isRecord (h.records r e he), fun _ => reread.holds_iff.mp⟩

/-! ## Sessions that keep track of posts -/

/-- Every entity that the session finds by the key of a post is the only one, and knows what the row
holds as far as it knows anything. The posts without such an entity were there at the last commit. -/
structure Tracks (ps : List PostRow) (c : Tables) (s : Session) : Prop extends Recoverable c s where
  posts : s.tables.posts = ps
  whole : s.broken = false
  distinct : (ps.map (·.id)).Nodup
  follows : ∀ r e, s.PostAt r e → e.isMapped = true →
    ∃ p ∈ ps, e.key? = some (.text p.id) ∧ e.Follows p
  unset : ∀ r e, s.PostAt r e → e.isMapped = true → e.isTouched = false → e.IsUnset
  single : ∀ r q e f, s.PostAt r e → s.PostAt q f → e.isMapped = true → f.isMapped = true →
    e.key? = f.key? → r = q
  spare : ∀ p ∈ ps, (∃ r e, s.PostAt r e ∧ e.isMapped = true ∧ e.key? = some (.text p.id)) ∨
    p.id ∈ c.posts.map (·.id) ∧ ∀ r e, s.PostAt r e → ¬e.Holds p.id

namespace Tracks

theorem altered (h : s.Tracks ps c) (committed : s'.committed = s.committed)
    (posts : s'.tables.posts = s.tables.posts) (broken : s'.broken = s.broken)
    (alt : Altered (Entity.Abides ps) s s') : s'.Tracks ps c where
  toRecoverable := h.toRecoverable.altered committed alt fun r e _ he abides =>
    ⟨abides.record (h.records r e he), fun _ => abides.holds.mp⟩
  posts := posts.trans h.posts
  whole := broken.trans h.whole
  distinct := h.distinct
  follows := by
    intro r e' he' mapped
    obtain ⟨e, he, abides⟩ := alt.back he'
    obtain ⟨p, hp, hkey, follows⟩ := h.follows r e he (abides.mapped ▸ mapped)
    exact ⟨p, hp, abides.key.trans hkey, abides.follows p hp hkey follows⟩
  unset := by
    intro r e' he' mapped untouched
    obtain ⟨e, he, abides⟩ := alt.back he'
    exact abides.unset (h.unset r e he (abides.mapped ▸ mapped)) untouched
  single := by
    intro r q e' f' he' hf' mapped mapped' same
    obtain ⟨e, he, abides⟩ := alt.back he'
    obtain ⟨f, hf, abides'⟩ := alt.back hf'
    exact h.single r q e f he hf (abides.mapped ▸ mapped) (abides'.mapped ▸ mapped')
      (abides.key ▸ abides'.key ▸ same)
  spare := by
    intro p hp
    refine (h.spare p hp).imp ?_ fun ⟨old, free⟩ => ⟨old, fun r e' he' holds => ?_⟩
    · rintro ⟨r, e, he, mapped, hkey⟩
      obtain ⟨e', he', abides⟩ := alt.forth he
      exact ⟨r, e', he', abides.mapped.trans mapped, abides.key.trans hkey⟩
    · obtain ⟨e, he, abides⟩ := alt.back he'
      exact free r e he (abides.holds.mp holds)

theorem apart (h : s.Tracks ps c) (apart : s.Apart s') : s'.Tracks ps c :=
  h.altered apart.committed apart.posts apart.broken
    (apart.altered.mono fun _ _ _ _ reread => (h.posts ▸ reread).abides h.distinct)

/-- An entity joins: one that is not in the place of a row, or that of a post that none is found for. -/
theorem push (h : s.Tracks ps c) {new : Entity} (record : new.kind = .post → new.IsRecord)
    (place : new.kind = .post → (new.isMapped = false ∧ new.wasRemoved = false) ∨
      ∃ p ∈ ps, new.isMapped = true ∧ new.key? = some (.text p.id) ∧ new.Follows p ∧ new.IsUnset ∧
        ∀ r e, s.PostAt r e → e.isMapped = true → e.key? ≠ some (.text p.id)) :
    ({ s with entities := s.entities ++ [new] } : Session).Tracks ps c := by
  have old : ∀ {r e}, ({ s with entities := s.entities ++ [new] } : Session).PostAt r e →
      s.PostAt r e ∨ r = s.entities.length ∧ e = new ∧ new.kind = .post := by
    rintro r e ⟨he, post⟩
    rcases of_entity?_push he with he | ⟨rfl, rfl⟩
    · exact .inl ⟨he, post⟩
    · exact .inr ⟨rfl, rfl, post⟩
  have kept : ∀ {r e}, s.PostAt r e →
      ({ s with entities := s.entities ++ [new] } : Session).PostAt r e :=
    fun he => ⟨entity?_push he.1 new, he.2⟩
  have last : new.kind = .post →
      ({ s with entities := s.entities ++ [new] } : Session).PostAt s.entities.length new :=
    fun post => ⟨entity?_last s new, post⟩
  -- What the new entity stands for was there at the last commit, and nothing else stands for it.
  have holds : new.kind = .post → ∀ id, new.Holds id → id ∈ c.posts.map (·.id) ∧
      ∀ r e, s.PostAt r e → ¬e.Holds id := by
    rintro post id ⟨hkey, -, standing⟩
    rcases place post with ⟨unmapped, unremoved⟩ | ⟨p, hp, -, hkey', -, -, free⟩
    · rw [unmapped, unremoved] at standing
      cases standing <;> contradiction
    · obtain rfl := Cell.text.inj (Option.some.inj (hkey'.symm.trans hkey))
      refine (h.spare p hp).resolve_left ?_
      rintro ⟨r, e, he, mapped, found⟩
      exact free r e he mapped found
  refine ⟨⟨h.committed, h.ids, fun r e he => ?_, fun r e id he held => ?_,
    fun r q e f id he hf held held' => ?_⟩, h.posts, h.whole, h.distinct, fun r e he mapped => ?_,
    fun r e he mapped untouched => ?_, fun r q e f he hf mapped mapped' same => ?_, fun p hp => ?_⟩
  · rcases old he with he | ⟨-, rfl, post⟩
    · exact h.records r e he
    · exact record post
  · rcases old he with he | ⟨-, rfl, post⟩
    · exact h.stored r e id he held
    · exact (holds post id held).1
  · rcases old he with he₀ | ⟨rfl, rfl, post⟩ <;> rcases old hf with hf₀ | ⟨rfl, rfl, post'⟩
    · exact h.alone r q e f id he₀ hf₀ held held'
    · exact absurd held ((holds post' id held').2 r e he₀)
    · exact absurd held' ((holds post id held).2 q f hf₀)
    · rfl
  · rcases old he with he | ⟨-, rfl, post⟩
    · exact h.follows r e he mapped
    · rcases place post with ⟨unmapped, -⟩ | ⟨p, hp, -, hkey, follows, -⟩
      · rw [unmapped] at mapped
        cases mapped
      · exact ⟨p, hp, hkey, follows⟩
  · rcases old he with he | ⟨-, rfl, post⟩
    · exact h.unset r e he mapped untouched
    · rcases place post with ⟨unmapped, -⟩ | ⟨p, -, -, -, -, unset, -⟩
      · rw [unmapped] at mapped
        cases mapped
      · exact unset
  · have apart : ∀ {r e}, s.PostAt r e → e.isMapped = true → new.kind = .post →
        new.isMapped = true → e.key? ≠ new.key? := by
      intro r e he mapped post mapped' same
      rcases place post with ⟨unmapped, -⟩ | ⟨p, -, -, hkey, -, -, free⟩
      · rw [unmapped] at mapped'
        cases mapped'
      · exact free r e he mapped (same.trans hkey)
    rcases old he with he₀ | ⟨rfl, rfl, post⟩ <;> rcases old hf with hf₀ | ⟨rfl, rfl, post'⟩
    · exact h.single r q e f he₀ hf₀ mapped mapped' same
    · exact absurd same (apart he₀ mapped post' mapped')
    · exact absurd same.symm (apart hf₀ mapped' post mapped)
    · rfl
  · rcases h.spare p hp with ⟨r, e, he, mapped, hkey⟩ | ⟨stored, free⟩
    · exact .inl ⟨r, e, kept he, mapped, hkey⟩
    · by_cases taken : new.kind = .post ∧ new.isMapped = true ∧ new.key? = some (.text p.id)
      · exact .inl ⟨_, new, last taken.1, taken.2⟩
      · refine .inr ⟨stored, fun r e he held => ?_⟩
        rcases old he with he | ⟨-, rfl, post⟩
        · exact free r e he held
        · obtain ⟨hkey, -, standing⟩ := held
          rcases place post with ⟨unmapped, unremoved⟩ | ⟨-, -, mapped, -⟩
          · rw [unmapped, unremoved] at standing
            cases standing <;> contradiction
          · exact taken ⟨post, mapped, hkey⟩

end Tracks

end Session

/-! ## Entities of rows and new ones -/

namespace Entity

theorem isRecord_ofRow (p : PostRow) : (ofRow (.post p)).IsRecord where
  texts := by
    intro c hc v hv
    rw [shows_ofRow p c hc] at hv
    exact Option.some.inj hv ▸ p.isText_cell hc
  formers := fun _ _ _ h => by cases h
  noted := fun _ _ h => by cases h
  unkeyed := fun h => by cases h
  key := by
    intro key hkey
    obtain rfl := Option.some.inj hkey
    exact ⟨⟨p.id, rfl⟩, rfl, .inl (shows_ofRow p .id (by decide))⟩
  given := fun _ _ _ _ h => by cases h
  found := fun _ => .inl rfl
  keyed := fun _ => rfl
  doomed := fun h => by cases h
  unrenamed := rfl

theorem follows_ofRow (p : PostRow) : (ofRow (.post p)).Follows p := by
  intro c hc
  show BearsIn _ c _
  rw [BearsIn, shows_ofRow p c (Column.mem_indexed_of_contents hc)]

theorem isRecord_fresh (k : Kind) : (fresh k).IsRecord where
  texts := fun _ _ _ h => by cases h
  formers := fun _ _ _ h => by cases h
  noted := fun _ _ h => by cases h
  unkeyed := fun _ => rfl
  key := fun _ h => by cases h
  given := fun h => by cases h
  found := fun h => by cases h
  keyed := fun h => by cases h
  doomed := fun h => by cases h
  unrenamed := rfl

end Entity

namespace Session

variable {s s' s₀ : Session} {r q : Ref} {e f : Entity} {k : Kind} {c : Tables} {ps : List PostRow}
  {p : PostRow} {docs : List DocumentRow}

theorem Tracks.push_row (h : s.Tracks ps c) {row : Row}
    (stored : ∀ p, row = .post p → p ∈ s.tables.posts)
    (free : s.mapped? row.kind (.text row.id) = none) :
    ({ s with entities := s.entities ++ [.ofRow row] } : Session).Tracks ps c := by
  cases row with
  | post p =>
    refine h.push (fun _ => Entity.isRecord_ofRow p) fun _ => .inr ⟨p, h.posts ▸ stored p rfl, rfl, rfl,
      Entity.follows_ofRow p, fun _ _ => rfl, fun r e he mapped hkey => ?_⟩
    have taken : isAt .post (.text p.id) e = false := isAt_eq_false free he.1
    rw [isAt_of_key he.2 mapped hkey] at taken
    cases taken
  | _ => exact h.push (fun post => by cases post) fun post => by cases post

/-! ## Keeping track -/

/-- A session that keeps track of posts and has certain documents, and that came from another one in
which the entities of posts had the same keys. -/
structure Tracking (s₀ : Session) (ps : List PostRow) (c : Tables) (docs : List DocumentRow)
    (s : Session) : Prop extends Tracks ps c s where
  documents : s.tables.documents = docs
  longer : s₀.entities.length ≤ s.entities.length
  before : ∀ r e, s.PostAt r e → r < s₀.entities.length →
    ∃ e₀, s₀.PostAt r e₀ ∧ e.key? = e₀.key?

namespace Tracking

theorem refl (h : s.Tracks ps c) : s.Tracking ps c s.tables.documents s :=
  ⟨h, rfl, Nat.le_refl _, fun _ e he _ => ⟨e, he, rfl⟩⟩

theorem trans (h : s₀.Tracking ps c docs s) (h' : s.Tracking ps c docs s') :
    s₀.Tracking ps c docs s' where
  toTracks := h'.toTracks
  documents := h'.documents
  longer := Nat.le_trans h.longer h'.longer
  before := by
    intro r e' he' hr
    obtain ⟨e, he, key⟩ := h'.before r e' he' (Nat.lt_of_lt_of_le hr h.longer)
    obtain ⟨e₀, he₀, key₀⟩ := h.before r e he hr
    exact ⟨e₀, he₀, key.trans key₀⟩

theorem altered (h : s₀.Tracking ps c docs s) (committed : s'.committed = s.committed)
    (posts : s'.tables.posts = s.tables.posts) (documents : s'.tables.documents = s.tables.documents)
    (broken : s'.broken = s.broken) (alt : Altered (Entity.Abides ps) s s') :
    s₀.Tracking ps c docs s' where
  toTracks := h.toTracks.altered committed posts broken alt
  documents := documents.trans h.documents
  longer := alt.length ▸ h.longer
  before := by
    intro r e' he' hr
    obtain ⟨e, he, abides⟩ := alt.back he'
    obtain ⟨e₀, he₀, key⟩ := h.before r e he hr
    exact ⟨e₀, he₀, abides.key.trans key⟩

theorem modifyEntity (h : s₀.Tracking ps c docs s) {g : Entity → Entity}
    (hg : ∀ e, s.entity? r = some e → (g e).kind = e.kind ∧ (e.kind = .post → e.Abides ps (g e))) :
    s₀.Tracking ps c docs (s.modifyEntity r g) :=
  h.altered rfl rfl rfl rfl (.modifyEntity (.refl ps) hg)

theorem pushed (h : s₀.Tracking ps c docs s) {new : Entity}
    (tracks : ({ s with entities := s.entities ++ [new] } : Session).Tracks ps c) :
    s₀.Tracking ps c docs ({ s with entities := s.entities ++ [new] } : Session) where
  toTracks := tracks
  documents := h.documents
  longer := by
    rw [List.length_append]
    exact Nat.le_trans h.longer (Nat.le_add_right _ _)
  before := by
    rintro r e ⟨he, post⟩ hr
    rcases of_entity?_push he with he | ⟨rfl, -⟩
    · exact h.before r e ⟨he, post⟩ hr
    · exact absurd (Nat.lt_of_lt_of_le hr h.longer) (Nat.lt_irrefl _)

theorem fresh (h : s₀.Tracking ps c docs s) (k : Kind) :
    s₀.Tracking ps c docs ({ s with entities := s.entities ++ [.fresh k] } : Session) :=
  h.pushed (h.toTracks.push (fun _ => Entity.isRecord_fresh k) fun _ => .inl ⟨rfl, rfl⟩)

theorem expireAll (h : s₀.Tracking ps c docs s) : s₀.Tracking ps c docs s.expireAll :=
  h.altered rfl rfl rfl rfl (.mapEntities fun r e he => by
    split
    · exact ⟨rfl, Entity.abides_expired⟩
    · exact ⟨rfl, fun _ => .refl ps e⟩)

end Tracking

namespace Work

theorem keptByTaking_tracking : KeptByTaking (Tracking s₀ ps c docs) where
  record := fun hs he => hs.records _ _ he
  apart := fun hs apart => hs.altered apart.committed apart.posts apart.documents apart.broken
    (apart.altered.mono fun _ _ _ _ reread => (hs.posts ▸ reread).abides hs.distinct)
  posts := fun hs hs' => hs'.posts.trans hs.posts.symm
  there := fun hs he mapped => by
    obtain ⟨p, hp, hkey, -⟩ := hs.follows _ _ he mapped
    exact ⟨p, hs.posts ▸ hp, hkey⟩
  push := fun hs stored free => hs.pushed (hs.toTracks.push_row stored free)

/-- The entity of a post with a key whose row is not gone is found by its key. -/
theorem mapped?_ne_none (hs : s.Tracks ps c) (he : s.PostAt r e) {key : Cell}
    (hkey : e.key? = some key) (there : e.isGone = false) : s.mapped? e.kind key ≠ none := by
  intro free
  have record := hs.records r e he
  obtain ⟨⟨id, rfl⟩, -⟩ := record.key key hkey
  have mapped : e.isMapped = true := by
    refine (record.found (by rw [hkey]; rfl)).resolve_right fun gone => ?_
    rw [there] at gone
    cases gone
  have taken := isAt_eq_false free he.1
  rw [he.2, isAt_of_key he.2 mapped hkey] at taken
  cases taken

/-- Changes of an entity that leave its values alone, and its place if it is that of a post. -/
theorem tracking_alter {g : Entity → Entity} {P : Session → Prop}
    (hs : ∀ s, P s → s₀.Tracking ps c docs s)
    (hg : ∀ s, P s → ∀ e, s.entity? r = some e →
      (g e).kind = e.kind ∧ (e.kind = .post → e.Abides ps (g e))) :
    Triple P (alter r g) (fun _ s' => s₀.Tracking ps c docs s' ∧ True)
      fun err s' => s₀.Tracking ps c docs s' ∧ err.isInvalid = false :=
  Triple.modify fun s h => ⟨(hs s h).modifyEntity (hg s h), trivial⟩

/-- An entity is put into the session: one with a row is spared, and is in its place already. -/
theorem keeps_enlist_tracking (r : Ref) : Keeps (Tracking s₀ ps c docs) (enlist r) fun _ => True := by
  refine Triple.look (fun s hs _ => ⟨hs, rfl⟩) fun s e hs he => ?_
  have stays : ∀ s', s' = s → s₀.Tracking ps c docs s' := fun _ same => same ▸ hs
  split
  · rename_i unkeyed
    refine Triple.bind (Q := fun _ s' => s' = s) (Triple.get fun _ h => h) fun _ => ?_
    dsimp only
    split
    · refine tracking_alter stays fun s' same e' he' => ⟨rfl, fun _ => ?_⟩
      obtain rfl := Option.some.inj (he.symm.trans (same ▸ he'))
      exact Entity.abides_restand rfl rfl rfl rfl rfl rfl rfl rfl rfl rfl (fun _ => unkeyed)
        fun record => record.doomed
    · exact Triple.pure fun s' h => ⟨stays s' h, trivial⟩
  · rename_i key hkey
    refine Triple.guard (fun _ s' h => ⟨stays s' h, rfl⟩) fun there => ?_
    have there := Bool.eq_false_iff.mpr there
    have spared : s₀.Tracking ps c docs (s.modifyEntity r fun e => { e with isDoomed := false }) := by
      refine hs.modifyEntity fun e' he' => ⟨rfl, fun post => ?_⟩
      exact Entity.abides_restand rfl rfl rfl rfl rfl rfl rfl rfl rfl rfl
        (hs.records r e' ⟨he', post⟩).unkeyed fun _ h => by cases h
    have attached : Keeps (Tracking s₀ ps c docs) (alter r fun e => { e with isAttached := true })
        fun _ => True := by
      refine Keeps.alter fun s' hs' => hs'.modifyEntity fun e' he' => ⟨rfl, fun post => ?_⟩
      have record := hs'.records r e' ⟨he', post⟩
      exact Entity.abides_restand rfl rfl rfl rfl rfl rfl rfl rfl rfl rfl record.unkeyed
        fun record => record.doomed
    refine Triple.bind (Q := fun _ s' => s' = s.modifyEntity r fun e => { e with isDoomed := false })
      (Triple.modify fun _ h => by rw [h]) fun _ => ?_
    refine Triple.bind (Q := fun s₁ s' => s₁ = s' ∧
      s' = s.modifyEntity r fun e => { e with isDoomed := false }) (Triple.get fun _ h => ⟨rfl, h⟩)
      fun s₁ => ?_
    rintro s' ⟨rfl, same⟩
    have he' : s₁.entity? r = some { e with isDoomed := false } := by
      rw [same, entity?_modifyEntity_self he]
    have hs' : s₀.Tracking ps c docs s₁ := same ▸ spared
    split
    · split
      · exact ⟨hs', rfl⟩
      · exact attached s₁ hs'
    · rename_i free
      by_cases post : e.kind = .post
      · exact absurd free (mapped?_ne_none hs'.toTracks ⟨he', post⟩ hkey there)
      · refine Triple.bind (P := (· = s₁)) (Q := fun _ => Tracking s₀ ps c docs) ?_ (fun _ => attached)
          s₁ rfl
        refine Triple.modify fun s' same => ?_
        rw [same]
        refine hs'.modifyEntity fun e₁ he₁ => ⟨rfl, fun post' => ?_⟩
        obtain rfl := Option.some.inj (he'.symm.trans he₁)
        exact absurd post' post

theorem keptByRelating_tracking : KeptByRelating (Tracking s₀ ps c docs) where
  toKeptByReading := keptByTaking_tracking.reading
  members := keptByTaking_tracking.members
  relate := keptByTaking_tracking.relate
  enlist := keeps_enlist_tracking

end Work

/-! ### Setting -/

/-- What is set in a column of a post that documents are made of is text, and an identifier is set
only while there is no key. -/
def FitsIn (s₀ : Session) (r : Ref) (col : Column) (v : Cell) : Prop :=
  ∀ e, s₀.PostAt r e → (col ∈ Entity.indexedColumns → v.IsText) ∧ (col = .id → e.key? = none)

/-- What is given is text or null, if it is a value. -/
def Given.IsText : Given → Prop
  | .value v => v = .null ∨ ∃ t, v = .str t
  | _ => True

theorem Given.isText_read {col : Column} {v : Json} {w : Cell} (hc : col ∈ Entity.indexedColumns)
    (text : Given.IsText (.value v)) (read : Cell.read col v = .ok w) : w.IsText := by
  have type : ∀ d ∈ Entity.indexedColumns, d.type = .text := by decide
  unfold Cell.read at read
  rw [type col hc] at read
  rcases text with rfl | ⟨t, rfl⟩
  · obtain rfl := Except.ok.inj read
    exact trivial
  · obtain rfl := Except.ok.inj read
    exact trivial

/-- What is given for an attribute of an entity does not make a post unlike its row: titles, bodies
and identifiers are text, and an identifier is given only while there is no key. -/
def Fits (s₀ : Session) (r : Ref) (name : String) (g : Given) : Prop :=
  ∀ e, s₀.PostAt r e → ∀ col ∈ Entity.indexedColumns, name = col.text →
    g.IsText ∧ (col = .id → e.key? = none)

namespace Work

theorem keeps_setValue_tracking (bound : r < s₀.entities.length) {col : Column} {v : Cell}
    (fit : s₀.FitsIn r col v) : Keeps (Tracking s₀ ps c docs) (setValue r col v) fun _ => True := by
  refine Keeps.bind (keeps_look r) fun e _ =>
    Keeps.readied (keptByTaking_tracking.reviving.revive r) ?_
  refine Keeps.alter fun s hs => hs.modifyEntity fun e he => ⟨rfl, fun post => ?_⟩
  obtain ⟨e₀, he₀, key⟩ := hs.before r e ⟨he, post⟩ bound
  obtain ⟨text, unkeyed⟩ := fit e₀ he₀
  exact e.abides_setCell text fun same => key.trans (unkeyed same)

theorem keeps_assign_tracking (bound : r < s₀.entities.length) {name : String} {g : Given}
    (fit : s₀.Fits r name g) : Keeps (Tracking s₀ ps c docs) (assign r name g) fun _ => True := by
  refine Keeps.bind (keeps_readable name g) fun _ _ => ?_
  refine Keeps.bind (keeps_look r) fun e _ => ?_
  dsimp only
  split
  · rename_i col hc
    have named := Kind.text_of_column? hc
    unfold assignColumn
    split
    · rename_i v
      split
      · rename_i w read
        refine keeps_setValue_tracking bound fun e he => ⟨fun indexed => ?_, fun same => ?_⟩
        · exact Given.isText_read indexed (fit e he col indexed named.symm).1 read
        · exact (fit e he col (same ▸ by decide) named.symm).2 same
      · exact Keeps.throw rfl
    · exact Keeps.throw rfl
  · exact keptByRelating_tracking.assignRelation r _ _
  · refine Keeps.bind (keeps_checked _) fun _ _ => ?_
    refine keptByTaking_tracking.alter fun s hs e he => ⟨rfl, fun _ => ?_⟩
    exact ⟨rfl, rfl, rfl, rfl, rfl, rfl, rfl, rfl, id, fun _ _ => rfl, fun _ _ => .of_same rfl rfl⟩
  · exact keeps_checked _

/-- A new entity has no key while its attributes are given. -/
theorem tracking_create (k : Kind) {attributes : List (String × Given)}
    (text : ∀ a ∈ attributes, ∀ col ∈ Entity.indexedColumns, a.1 = col.text → a.2.IsText) :
    Keeps (Tracking s₀ ps c docs) (create k attributes) fun _ => True := by
  refine Keeps.bind (Keeps.forM fun a _ => keeps_readable a.1 a.2) fun _ _ => ?_
  refine Keeps.bind (keeps_checked _) fun _ _ => ?_
  refine Triple.bind (Q := fun r s => s₀.Tracking ps c docs s ∧ s.entity? r = some (.fresh k)) ?_
    fun r => ?_
  · refine Triple.bind (Q := fun s' s => s' = s ∧ s₀.Tracking ps c docs s)
      (Triple.get fun s hs => ⟨rfl, hs⟩) fun s => ?_
    rintro s' ⟨rfl, hs⟩
    exact ⟨hs.fresh k, entity?_last _ (.fresh k)⟩
  · rintro s ⟨hs, he⟩
    have bound : r < s.entities.length := (List.getElem?_eq_some_iff.mp he).1
    have fit : ∀ a ∈ attributes, s.Fits r a.1 a.2 := by
      intro a ha e he' col hc same
      refine ⟨text a ha col hc same, fun _ => ?_⟩
      obtain rfl := Option.some.inj (he.symm.trans he'.1)
      rfl
    have own : s.Tracking ps c docs s := hs.documents ▸ .refl hs.toTracks
    have given : Keeps (Tracking s ps c docs) (do
        attributes.forM fun a => do
          if !Attribute.isKnown k a.1 then refuse (.unknown a.1 k)
          assign r a.1 a.2
        return r) fun _ => True := by
      refine Keeps.bind (Keeps.forM fun a ha => ?_) fun _ _ => Keeps.pure trivial
      have set : Keeps (Tracking s ps c docs) (assign r a.1 a.2) fun _ => True :=
        keeps_assign_tracking bound (fit a ha)
      refine Keeps.ite (fun _ => ?_) fun _ => set
      exact Keeps.bind (Q := fun _ => True) (keeps_refuse _) fun _ _ => set
    exact Triple.weaken given (fun _ h => h) (fun _ _ h => ⟨hs.trans h.1, trivial⟩)
      (fun _ _ h => ⟨hs.trans h.1, h.2⟩) s own

/-! ### Rereading and deleting -/

theorem keeps_refresh_tracking (r : Ref) : Keeps (Tracking s₀ ps c docs) (refresh r) fun _ => True := by
  refine Triple.look (fun s hs _ => ⟨hs, rfl⟩) fun s e hs he => ?_
  split
  · rename_i key _ hkey
    have given : s₀.Tracking ps c docs (s.modifyEntity r Entity.expired) :=
      hs.modifyEntity fun e' he' => ⟨rfl, Entity.abides_expired⟩
    have he' := entity?_modifyEntity_self (f := Entity.expired) he
    refine Triple.bind (Q := fun _ s' => s' = s.modifyEntity r Entity.expired)
      (Triple.modify fun _ h => by rw [h]) fun _ => ?_
    refine Triple.bind (Triple.weaken (run_row? (s.modifyEntity r Entity.expired) e.kind key)
      (fun _ h => h) (fun _ _ h => h) fun err s' h => ⟨h.1 ▸ given, isInvalid_of_rowAt h.2⟩)
      fun o => ?_
    rintro s' ⟨rfl, found⟩
    split
    · exact ⟨given, rfl⟩
    · rename_i row
      refine ⟨keptByTaking_tracking.apart given (apart_modifyEntity fun e₁ he₁ => ⟨rfl, fun post => ?_⟩),
        trivial⟩
      obtain rfl := Option.some.inj (he'.symm.trans he₁)
      obtain ⟨p, hp, rfl, hkey'⟩ := post_of_row? (given.records r _ ⟨he', post⟩) post
        (row?_of_rowAt hkey found)
      exact Entity.reread_fill hp hkey' fun _ _ _ => ⟨rfl, rfl⟩
  · exact Triple.throw fun s' h => ⟨h ▸ hs, rfl⟩

theorem tracking_delete (hs : s₀.Tracking ps c docs s) (r : Ref)
    (there : ∀ e, s.PostAt r e → e.key?.isSome = true → e.isMapped = true) :
    Triple (· = s) (delete r) (fun _ s' => s₀.Tracking ps c docs s' ∧ True)
      fun err s' => s₀.Tracking ps c docs s' ∧ err.isInvalid = false := by
  refine Triple.look (fun s' h _ => ⟨h ▸ hs, rfl⟩) fun s' e same he => ?_
  subst same
  split
  · exact Triple.throw fun s' h => ⟨h ▸ hs, rfl⟩
  · rename_i key hkey
    have stays : ∀ s₁, s₁ = s' → s₀.Tracking ps c docs s₁ := fun _ same => same ▸ hs
    have doomed : Triple (· = s')
        (alter r fun e => { e with isMapped := true, isAttached := true, isDoomed := true })
        (fun _ s' => s₀.Tracking ps c docs s' ∧ True)
        fun err s' => s₀.Tracking ps c docs s' ∧ err.isInvalid = false := by
      refine tracking_alter stays fun s₁ same e' he' => ⟨rfl, fun post => ?_⟩
      obtain rfl := Option.some.inj (he.symm.trans (same ▸ he'))
      have record := hs.records r e ⟨he, post⟩
      have mapped : e.isMapped = true := there e ⟨he, post⟩ (by rw [hkey]; rfl)
      exact Entity.abides_restand rfl rfl rfl rfl mapped.symm rfl rfl rfl rfl rfl record.unkeyed
        fun _ _ => mapped
    split
    · exact Triple.pure fun s' h => ⟨stays s' h, trivial⟩
    · refine Triple.bind (Q := fun _ s₁ => s₁ = s') (Triple.get fun _ h => h) fun _ => ?_
      split
      · exact Triple.guard (fun _ s' h => ⟨stays s' h, rfl⟩) fun _ => doomed
      · exact doomed

end Work

/-! ## Plain steps -/

/-- A post is to be put in under the identifier of a row that is to be taken out. -/
def TakesOver (s : Session) (r : Ref) (id : String) : Prop :=
  (∃ e, s.PostAt r e ∧ e.isPending = true ∧ e.held? .id = some (.text id)) ∧
    ∃ q f, s.PostAt q f ∧ f.isMapped = true ∧ f.isDoomed = true ∧ f.key? = some (.text id)

/-- A post that is to take over a row sets its title and its body, and is the only one to do so. -/
structure Handover (s : Session) : Prop where
  anew : ∀ r e id, s.PostAt r e → s.TakesOver r id → ∀ col ∈ Column.contents,
    ∃ v, (col, v) ∈ e.changes
  once : ∀ r q id, s.TakesOver r id → s.TakesOver q id → r = q

/-- A step that leaves it to the session to write posts and their documents, and does nothing that the
documents of posts could not follow: titles, bodies and identifiers are text, the identifier of a
stored post stays, a post whose row is gone is not deleted, and rows are handed over as a whole. -/
def Step.IsPlain (s : Session) : Step → Prop
  | .create _ attributes => ∀ a ∈ attributes, ∀ col ∈ Entity.indexedColumns, a.1 = col.text →
      a.2.IsText
  | .assign r name g => s.Fits r name g
  | .delete r => ∀ e, s.PostAt r e → e.key?.isSome = true → e.isMapped = true
  | .flush | .commit | .reindex _ => s.Handover
  | .clearDocuments | .putDocument .. => False
  | _ => True

namespace Work

theorem tracking_take {x : Step} (now : Instant) (hs : s₀.Tracks ps c) (plain : x.IsPlain s₀)
    (still : x.writes = false) (forward : x ≠ .rollback) :
    Triple (· = s₀) (take now x) (fun _ => s₀.Tracking ps c s₀.tables.documents)
      fun _ => s₀.Tracking ps c s₀.tables.documents := by
  have start : ∀ s, s = s₀ → s₀.Tracking ps c s₀.tables.documents s := by
    rintro _ rfl
    exact .refl hs
  have anyway : ∀ {α : Type} {m : Work α},
      Keeps (Tracking s₀ ps c s₀.tables.documents) m (fun _ => True) →
      Triple (· = s₀) m (fun _ => s₀.Tracking ps c s₀.tables.documents)
        fun _ => s₀.Tracking ps c s₀.tables.documents :=
    fun h => Triple.weaken h start (fun _ _ h => h.1) fun _ _ h => h.1
  have then_pure : ∀ {α β : Type} {m : Work α} {f : α → β},
      Triple (· = s₀) m (fun _ => s₀.Tracking ps c s₀.tables.documents)
        (fun _ => s₀.Tracking ps c s₀.tables.documents) →
      Triple (· = s₀) (do return f (← m)) (fun _ => s₀.Tracking ps c s₀.tables.documents)
        fun _ => s₀.Tracking ps c s₀.tables.documents :=
    fun h => Triple.bind h fun _ => Triple.pure fun _ h => h
  by_cases shows : x.shows = true
  · exact anyway (keptByRelating_tracking.keptByShowing.take now shows)
  cases x with
  | create k attributes => exact then_pure (anyway (tracking_create k plain))
  | add rs =>
    exact then_pure (anyway (Keeps.forM fun r _ => keptByRelating_tracking.add r))
  | assign r name g =>
    by_cases bound : r < s₀.entities.length
    · exact then_pure (anyway (keeps_assign_tracking bound plain))
    · refine then_pure (Triple.bind (Q := fun _ s => s = s₀) (Triple.weaken (keeps_readable name g)
        (fun _ h => h) (fun _ _ h => h.1) fun _ s h => start s h.1) fun _ => ?_)
      refine Triple.look (fun s same _ => start s same) fun s e same he => ?_
      exact absurd (List.getElem?_eq_some_iff.mp (same ▸ he)).1 bound
  | append r name m =>
    exact anyway (Keeps.bind (keptByRelating_tracking.manyNamed r name _) fun rel _ =>
      Keeps.bind (keptByRelating_tracking.append r rel m) fun _ _ => Keeps.pure trivial)
  | discard r name m =>
    exact anyway (Keeps.bind (keptByRelating_tracking.manyNamed r name _) fun rel _ =>
      Keeps.bind (keptByRelating_tracking.discard r rel m) fun _ _ => Keeps.pure trivial)
  | delete r =>
    exact then_pure (Triple.weaken (tracking_delete (.refl hs) r plain) (fun _ h => h)
      (fun _ _ h => h.1) fun _ _ h => h.1)
  | refresh r => exact then_pure (anyway (keeps_refresh_tracking r))
  | rollback => exact absurd rfl forward
  | expireAll =>
    exact then_pure (Triple.modify fun s same => (start s same).expireAll)
  | flush | commit | reindex k => cases still
  | clearDocuments | putDocument _ _ _ => exact plain.elim
  | _ => exact absurd rfl shows

end Work

end Session

end Weblog
