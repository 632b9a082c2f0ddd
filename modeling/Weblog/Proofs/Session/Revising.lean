/-
  Changing the rows of posts in a flush.

  What is found to be changed in a row is what its entity holds in place of it (`Entity.Supplies`), and an
  entity that takes over a row writes its title and its body. So when all rows were changed, their entities
  hold what the rows hold (`Work.reviseRest_post`).
-/
import Weblog.Proofs.Session.Filing

namespace Weblog

/-! ## Values and rows -/

/-- The row of a post that is made up of cells. -/
theorem Row.post_of_ofCells {f : Column → Cell} {row : Row} (h : ofCells .post f = .ok row) :
    ∃ p, row = .post p ∧ (f .id).text? = some p.id ∧
      ∀ c ∈ Column.contents, (f c).IsText → (Row.post p).cell c = f c := by
  have cells := (cell_of_ofCells h).2
  simp only [ofCells, bind_eq_ok, need_eq_ok] at h
  obtain ⟨id, hid, userId, -, created, -, updated, -, same⟩ := h
  obtain rfl := Except.ok.inj same
  exact ⟨_, rfl, hid, fun c hc text => (cells c hc).trans text.eq_ofText?⟩

/-- The time of a change is all that is added to what changes. -/
theorem Session.Work.lookup_stamped (now : Instant) (cells : Cells) {c : Column}
    (hc : c ∈ Entity.indexedColumns) : (stamped now .post cells).lookup c = cells.lookup c := by
  have other : c ≠ .updatedAt := by
    revert hc
    cases c <;> decide
  have column : c ∈ Kind.post.columns := by
    revert hc
    cases c <;> decide
  have same : stamped now .post cells = Kind.post.columns.filterMap fun d =>
      (cells.lookup d).elim (if d = .updatedAt then some (d, .time (.ofInstant now)) else none)
        fun v => some (d, v) := by
    refine List.filterMap_congr fun d _ => ?_
    cases cells.lookup d <;> rfl
  have found : ∀ cs : List Column, (cs.filterMap fun d =>
      (cells.lookup d).elim (if d = .updatedAt then some (d, .time (.ofInstant now)) else none)
        fun v => some (d, v)).lookup c = if c ∈ cs then cells.lookup c else none := by
    intro cs
    induction cs with
    | nil => rfl
    | cons d cs ih =>
      rw [List.filterMap_cons]
      by_cases same : c = d
      · subst same
        cases held : cells.lookup c with
        | some v => simp
        | none =>
          simp only [if_neg other, Option.elim_none]
          rw [ih, held]
          simp
      · have skip : (c ∈ d :: cs) ↔ c ∈ cs := by simp [same]
        rw [if_congr skip rfl rfl, ← ih]
        cases cells.lookup d with
        | some v => simp [List.lookup_cons, beq_false_of_ne same]
        | none =>
          by_cases updated : d = .updatedAt
          · simp [updated, List.lookup_cons, beq_false_of_ne other]
          · simp [updated]
  rw [same]
  exact (found _).trans (if_pos column)

/-- A post is replaced by one whose identifier no other post has. -/
theorem Store.replaced_post {s s' : Store} {key : String} {p : PostRow}
    (h : s.replace key (.post p) = .ok s') :
    (∀ q ∈ s.tables.posts, q.id = p.id → q.id = key) ∧
      s'.tables.posts = (s.tables.setPostRow key p).posts ∧
      s'.tables.documents = s.tables.documents := by
  unfold replace at h
  split at h
  · cases h
  · rename_i free
    split at h
    · obtain rfl := Except.ok.inj h
      refine ⟨fun q hq same => ?_, rfl, rfl⟩
      unfold clash? at free
      dsimp only at free
      split at free
      · cases free
      · rename_i apart
        by_contra other
        refine apart (List.any_eq_true.mpr ⟨q, List.mem_filter.mpr ⟨hq, ?_⟩, decide_eq_true same⟩)
        exact decide_eq_true fun equal => other (Option.some.inj equal)
    · cases h

/-! ## What is written of an entity -/

namespace Entity

variable {e e' e'' : Entity} {c : Column} {v : Cell} {p : PostRow} {ps : List PostRow} {id : String}

theorem Reread.trans (h : e.Reread ps e') (h' : e'.Reread ps e'') : e.Reread ps e'' where
  key := h'.key.trans h.key
  turn := h'.turn.trans h.turn
  mapped := h'.mapped.trans h.mapped
  doomed := h'.doomed.trans h.doomed
  gone := h'.gone.trans h.gone
  written := h'.written.trans h.written
  removed := h'.removed.trans h.removed
  renamed := h'.renamed.trans h.renamed
  touched := fun touched => h'.touched (h.touched touched)
  set := fun c hc => (h'.set c hc).trans (h.set c hc)
  held := by
    intro c hc
    rcases h.held c hc with ⟨same, old, unread⟩ | ⟨unheld, unset, fresh, p, hp, hkey, read⟩ <;>
    rcases h'.held c hc with ⟨same', old', unread'⟩ | ⟨unheld', unset', fresh', p', hp', hkey', read'⟩
    · exact .inl ⟨same'.trans same, fun stale => old (old' stale),
        fun none stale => unread' (same.trans none) (unread none stale)⟩
    · exact .inr ⟨same ▸ unheld', h.set c hc ▸ unset', fresh', p', hp', h.key ▸ hkey', read'⟩
    · exact .inr ⟨unheld, unset, fun stale => fresh (old' stale), p, hp, hkey, same'.trans read⟩
    · rw [read] at unheld'
      cases unheld'

/-- The identifier of a row is held once it was read. -/
theorem IsRecord.held_rowId (h : e.IsRecord) (hid : e.rowId? = some id)
    (read : e.held? .id = none → .id ∉ e.stale) : e.held? .id = some (.text id) := by
  cases hkey : e.key? with
  | some key =>
    obtain ⟨⟨name, rfl⟩, -, held | ⟨unheld, stale⟩⟩ := h.key key hkey
    · rw [rowId?_of_key hkey] at hid
      rw [held, Option.some.inj hid]
    · exact absurd stale (read unheld)
  | none =>
    have found := hid
    rw [rowId?_of_unkeyed hkey] at found
    obtain ⟨v, hv, -⟩ := Option.bind_eq_some_iff.mp found
    rw [hv, h.held_id hid hv]

/-- What is known of a row is held where there is nothing to be written. -/
theorem IsRecord.bearsIn_of_unchanged (h : e.IsRecord) (post : e.kind = .post)
    (hc : c ∈ Column.contents) (known : e.FollowsIn c ((Row.post p).cell c))
    (unchanged : ∀ v, (c, v) ∉ e.changes) : e.BearsIn c ((Row.post p).cell c) := by
  have indexed := Column.mem_indexed_of_contents hc
  have column : c ∈ e.kind.columns := by
    rw [post]
    revert hc
    cases c <;> decide
  unfold FollowsIn at known
  split at known
  · rename_i old former
    obtain ⟨v, held⟩ := Option.isSome_iff_exists.mp (h.noted c indexed (by rw [former]; rfl))
    have same : v.same old = true := Bool.of_not_eq_false fun differs =>
      unchanged v (mem_changes_iff.mpr ⟨column, held, .inr ⟨old, former, differs⟩⟩)
    have equal := Cell.IsText.eq_of_same (h.texts c indexed v held) (h.formers c indexed old former) same
    rw [BearsIn, held, known, equal]
  · rename_i former
    obtain ⟨v, held⟩ := Option.isSome_iff_exists.mp (h.noted c indexed (by rw [former]; rfl))
    exact absurd (mem_changes_iff.mpr ⟨column, held, .inl former⟩) (unchanged v)
  · exact known

/-- What is to be changed in a row is what the entity holds in place of it; an entity without a row
changes title and body. -/
structure Supplies (e : Entity) (y : Session.Work.Revision) : Prop where
  own : ∃ id, e.rowId? = some id ∧ (y.cells.lookup .id).getD y.id = .text id
  given : ∀ c ∈ Column.contents, ∀ v, y.cells.lookup c = some v → e.held? c = some v
  left : ∀ c ∈ Column.contents, y.cells.lookup c = none →
    e.key?.isSome = true ∧ ∀ v, (c, v) ∉ e.changes

theorem Supplies.reread {y : Session.Work.Revision} (h : e.Supplies y) (record : e.IsRecord)
    (kind : e'.kind = e.kind) (reread : e.Reread ps e') : e'.Supplies y where
  own := by
    obtain ⟨id, hid, same⟩ := h.own
    exact ⟨id, (reread.rowId?_eq record).trans hid, same⟩
  given := by
    intro c hc v hv
    have held := h.given c hc v hv
    rcases reread.held c (Column.mem_indexed_of_contents hc) with ⟨same, -⟩ | ⟨unheld, -⟩
    · exact same.trans held
    · rw [held] at unheld
      cases unheld
  left := by
    intro c hc unwritten
    obtain ⟨keyed, unchanged⟩ := h.left c hc unwritten
    exact ⟨reread.key ▸ keyed, fun v hv => unchanged v
      ((reread.mem_changes_iff kind (Column.mem_indexed_of_contents hc)).mp hv)⟩

theorem lookup_changes_eq_none : e.changes.lookup c = none ↔ ∀ v, (c, v) ∉ e.changes := by
  rw [List.lookup_eq_none_iff]
  constructor
  · intro h v hv
    have other := h _ hv
    simp at other
  · rintro h ⟨d, v⟩ hv
    by_contra same
    simp only [bne_iff_ne, ne_eq, Decidable.not_not] at same
    exact h v (same ▸ hv)

/-- What is found to be changed in the row of an entity, whose identifier was read. -/
theorem IsRecord.supplies (h : e.IsRecord) (post : e.kind = .post) (hid : e.rowId? = some id)
    (full : e.changes ≠ []) (anew : e.key? = none → ∀ c ∈ Column.contents, ∃ v, (c, v) ∈ e.changes)
    {r : Ref} {key : Cell} {cells : Session.Cells}
    (found : (match e.formerCells.lookup .id with
      | some .unknown => (.text id, e.changes.filter fun x => x.1 ≠ .id)
      | some (.known old) => (old, e.changes)
      | none => (.text id, e.changes)) = (key, cells)) :
    e.Supplies ⟨r, key, cells⟩ ∧ cells ≠ [] := by
  have column : Column.id ∈ e.kind.columns := by
    rw [post]
    decide
  have lookups : (∀ c ∈ Column.contents, cells.lookup c = e.changes.lookup c) ∧
      (cells.lookup .id).getD key = .text id ∧ cells ≠ [] := by
    split at found
    · -- An identifier that was given first is not written.
      rename_i former
      obtain ⟨rfl, rfl⟩ := Prod.mk.inj found
      have unkeyed : e.key? = none := Option.eq_none_iff_forall_ne_some.mpr fun key hkey => by
        rw [(h.key key hkey).2.1] at former
        cases former
      obtain ⟨v, hv⟩ := anew unkeyed .title (by decide)
      refine ⟨fun c hc => ?_, ?_, List.ne_nil_of_mem (List.mem_filter.mpr
        ⟨hv, decide_eq_true (show Column.title ≠ .id by decide)⟩)⟩
      · rw [lookup_filter e.changes (fun c => decide (c ≠ .id)), if_pos]
        revert hc
        cases c <;> decide
      · rw [lookup_filter e.changes (fun c => decide (c ≠ .id)), if_neg (by decide)]
        rfl
    · rename_i old former
      obtain ⟨rfl, rfl⟩ := Prod.mk.inj found
      refine ⟨fun _ _ => rfl, ?_, full⟩
      obtain ⟨w, held⟩ := Option.isSome_iff_exists.mp (h.noted .id (by decide) (by rw [former]; rfl))
      obtain rfl := h.held_id hid held
      cases found : e.changes.lookup .id with
      | some v =>
        have held' := (mem_changes_iff.mp (mem_of_lookup found)).2.1
        rw [held] at held'
        exact (Option.some.inj held').symm
      | none =>
        have same : (Cell.text id).same old = true := Bool.of_not_eq_false fun differs =>
          lookup_changes_eq_none.mp found _ (mem_changes_iff.mpr ⟨column, held, .inr ⟨old, former, differs⟩⟩)
        exact (Cell.IsText.eq_of_same (by trivial) (h.formers .id (by decide) old former) same).symm
    · rename_i unset
      obtain ⟨rfl, rfl⟩ := Prod.mk.inj found
      refine ⟨fun _ _ => rfl, ?_, full⟩
      rw [lookup_changes_eq_none.mpr fun v hv => ?_]
      · rfl
      · rcases (mem_changes_iff.mp hv).2.2 with set | ⟨old, set, -⟩ <;>
        · rw [unset] at set
          cases set
  refine ⟨⟨⟨id, hid, lookups.2.1⟩, fun c hc v hv => ?_, fun c hc unwritten => ?_⟩, lookups.2.2⟩
  · change cells.lookup c = some v at hv
    rw [lookups.1 c hc] at hv
    exact (mem_changes_iff.mp (mem_of_lookup hv)).2.1
  · change cells.lookup c = none at unwritten
    rw [lookups.1 c hc, lookup_changes_eq_none] at unwritten
    refine ⟨Option.isSome_iff_ne_none.mpr fun unkeyed => ?_, unwritten⟩
    obtain ⟨v, hv⟩ := anew unkeyed c hc
    exact unwritten v hv

end Entity

namespace Session

variable {s s' s₀ : Session} {r q : Ref} {e f : Entity} {c : Tables} {p p' : PostRow} {row : Row}
  {ps : List PostRow} {now : Instant} {id : String} {x : Stage} {J : Session → Prop} {col : Column}

namespace Work

/-- A value that was read is held, or is nothing. -/
theorem value_post (h : KeptAside J) (r : Ref) (col : Column) :
    Triple (fun s => J s ∧ ∃ e, s.PostAt r e) (value r col)
      (fun v s => J s ∧ ∃ e, s.PostAt r e ∧ (e.held? col).getD .null = v ∧
        (e.held? col = none → col ∉ e.stale)) fun _ => J := by
  refine Triple.look (fun _ hs _ => hs.1) fun s e ⟨hs, e', he'⟩ he => ?_
  obtain rfl := Option.some.inj (he.symm.trans he'.1)
  split
  · rename_i v held
    refine Triple.pure fun _ same => ⟨same ▸ hs, e, same ▸ he', by rw [held]; rfl, fun unheld => ?_⟩
    rw [held] at unheld
    cases unheld
  · have read : Triple (fun s => J s ∧ ∃ e, s.PostAt r e ∧ (e.held? col = none → col ∉ e.stale))
        (do return ((← look r).held? col).getD .null)
        (fun v s => J s ∧ ∃ e, s.PostAt r e ∧ (e.held? col).getD .null = v ∧
          (e.held? col = none → col ∉ e.stale)) fun _ => J := by
      refine Triple.look (fun _ hs _ => hs.1) fun s₁ e₁ ⟨hs₁, f, hf, fresh⟩ he₁ => ?_
      obtain rfl := Option.some.inj (he₁.symm.trans hf.1)
      exact Triple.pure fun _ same => ⟨same ▸ hs₁, e₁, same ▸ hf, rfl, fresh⟩
    by_cases stale : e.stale.contains col = true
    · rw [if_pos stale]
      refine Triple.bind (Triple.weaken (run_revive s he) (fun _ same => same) (fun _ s' again => ?_)
        fun _ s' failed => failed.1 ▸ hs) fun _ => read
      obtain ⟨row, hrow, rfl⟩ := again
      exact ⟨h.kept_revived hs he hrow, _, ⟨entity?_modifyEntity_self he, he'.2⟩,
        fun _ stale => by cases stale⟩
    · rw [if_neg stale]
      refine Triple.weaken read (fun s' same => ?_) (fun _ _ h => h) fun _ _ h => h
      exact ⟨same ▸ hs, e, same ▸ he', fun _ stays => stale (List.contains_iff_mem.mpr stays)⟩

end Work

/-! ## Changing rows -/

/-- An entity without a row writes its title and its body. -/
def Anew (s : Session) (r : Ref) : Prop := ∃ e, s.PostAt r e ∧
  (e.key? = none → ∀ col ∈ Column.contents, ∃ v, (col, v) ∈ e.changes)

theorem Reads.anew (h : s.Reads s') (anew : s.Anew r) : s'.Anew r := by
  obtain ⟨e, he, anew⟩ := anew
  obtain ⟨e', he', _, reread⟩ := Altered.forth h he
  refine ⟨e', he', fun unkeyed col hc => ?_⟩
  obtain ⟨v, hv⟩ := anew (reread.key ▸ unkeyed) col hc
  exact ⟨v, (reread.mem_changes_iff (he'.2.trans he.2.symm)
    (Column.mem_indexed_of_contents hc)).mpr hv⟩

/-- What is to be changed in the row of an entity. -/
def Supplied (s : Session) (y : Work.Revision) : Prop := ∃ e, s.PostAt y.ref e ∧ e.Supplies y

theorem Reads.supplied (h : s.Reads s') (records : ∀ r e, s.PostAt r e → e.IsRecord)
    {y : Work.Revision} (supplied : s.Supplied y) : s'.Supplied y := by
  obtain ⟨e, he, supplies⟩ := supplied
  obtain ⟨e', he', _, reread⟩ := Altered.forth h he
  exact ⟨e', he', supplies.reread (records _ e he) (he'.2.trans he.2.symm) reread⟩

/-- What is so whatever else is read. -/
def Lasts (T : Session → Prop) : Prop :=
  ∀ {s s'}, (∀ r e, s.PostAt r e → e.IsRecord) → s.Reads s' → T s → T s'

/-- The stage when some more entities hold what their rows hold. -/
def Stage.reached (x : Stage) (rs : List Ref) : Stage :=
  { x with current := fun q => x.current q ∨ q ∈ rs }

theorem Stage.reached_reached (x : Stage) (rs rs' : List Ref) :
    (x.reached rs).reached rs' = x.reached (rs ++ rs') := by
  simp [Stage.reached, or_assoc]

theorem Stage.reached_nil (x : Stage) : x.reached [] = x := by
  simp [Stage.reached]

theorem Stage.reached_congr (x : Stage) {rs rs' : List Ref} (h : ∀ q, q ∈ rs ↔ q ∈ rs') :
    x.reached rs = x.reached rs' := by
  simp [Stage.reached, h]

theorem Filing.reached (h : s.Filing x c) {rs : List Ref}
    (bears : ∀ r ∈ rs, ∀ e p, s.PostAt r e → p ∈ s.tables.posts → e.rowId? = some p.id → e.Bears p) :
    s.Filing (x.reached rs) c where
  toRecoverable := h.toRecoverable
  whole := h.whole
  distinct := h.distinct
  home := by
    intro r e he housed
    obtain ⟨p, hp, hid, current, follows⟩ := h.home r e he housed
    exact ⟨p, hp, hid, fun reached => reached.elim current fun hr => bears r hr e p he hp hid, follows⟩
  standing := h.standing
  single := h.single
  spare := h.spare
  named := h.named
  mapped := h.mapped
  idle := h.idle
  leaving := h.leaving
  indexed := h.indexed

/-- What an entity does not change is held as the row has it. -/
theorem Filing.bearsIn_of_unchanged (h : s.Filing x c) (he : s.PostAt r e) (housed : x.housed r)
    (hp : p ∈ s.tables.posts) (hid : e.rowId? = some p.id) (hc : col ∈ Column.contents)
    (keyed : e.key?.isSome = true) (unchanged : ∀ v, (col, v) ∉ e.changes) :
    e.BearsIn col ((Row.post p).cell col) := by
  obtain ⟨q, hq, hid', -, known⟩ := h.home r e he housed
  obtain rfl := List.inj_on_of_nodup_map h.distinct hq hp (Option.some.inj (hid'.symm.trans hid))
  rcases known keyed with follows | bears
  · exact (h.records r e he).bearsIn_of_unchanged he.2 hc (follows col hc) unchanged
  · exact bears col hc

/-- The row of an entity was changed to what the entity holds. -/
theorem Filing.revised (h : s.Filing x c) (he : s.PostAt r e) (housed : x.housed r)
    (behind : x.behind r) (hp : p ∈ s.tables.posts) (hid : e.rowId? = some p.id) (same : p'.id = p.id)
    (bears : e.Bears p') {store : Store} (posts : store.tables.posts = (s.tables.setPostRow p.id p').posts)
    (documents : store.tables.documents = s.tables.documents) :
    ({ s with store := store } : Session).Filing (x.reached [r]) c := by
  have ids : store.tables.posts.map (·.id) = s.tables.posts.map (·.id) := by
    rw [posts, Tables.setPostRow, List.map_map]
    refine List.map_congr_left fun v _ => ?_
    rw [Function.comp_apply]
    split
    · rename_i here
      exact same.trans here.symm
    · rfl
  -- The rows of others stay.
  have others : ∀ v ∈ s.tables.posts, v.id ≠ p.id → v ∈ store.tables.posts := by
    intro v hv other
    rw [posts]
    exact List.mem_map.mpr ⟨v, hv, if_neg other⟩
  have own : p' ∈ store.tables.posts := by
    rw [posts]
    exact List.mem_map.mpr ⟨p, hp, if_pos rfl⟩
  refine ⟨h.toRecoverable.of_entities rfl rfl, h.whole, ids ▸ h.distinct, fun q f hf housed' => ?_,
    h.standing, h.single, fun v hv => ?_, h.named, h.mapped, h.idle, h.leaving, ?_⟩
  · obtain ⟨v, hv, hid', current, follows⟩ := h.home q f hf housed'
    by_cases here : q = r
    · subst here
      obtain rfl := PostAt.eq he hf
      exact ⟨p', own, same ▸ hid, fun _ => bears, fun _ => .inr bears⟩
    · have other : v.id ≠ p.id := fun equal =>
        here (h.single q r f e p.id hf he housed' housed (equal ▸ hid') hid)
      exact ⟨v, others v hv other, hid', fun reached => current (reached.resolve_right fun mem =>
        here (List.mem_singleton.mp mem)), follows⟩
  · have there : v.id ∈ store.tables.posts.map (·.id) := List.mem_map_of_mem hv
    obtain ⟨w, hw, equal⟩ := List.mem_map.mp (ids ▸ there)
    have spare := h.spare w hw
    rw [equal] at spare
    exact spare
  · refine h.indexed.of_documents documents fun id upToDate => ⟨upToDate, ?_⟩
    refine (Tables.post?_congr posts id).trans (Tables.post?_setPostRow_of_ne same fun equal => ?_)
    exact upToDate ⟨r, e, he, behind, equal ▸ hid⟩

namespace Work

/-- What is to be changed in the row of a post, or that nothing is. -/
theorem revision?_post {T : Session → Prop} (lasts : Lasts T) (housed : x.housed r) :
    Triple (fun s => s.Filing x c ∧ s.Anew r ∧ T s) (revision? r)
      (fun o s => s.Filing (x.reached (if o = none then [r] else [])) c ∧ T s ∧
        ∀ y ∈ o, y.ref = r ∧ s.Supplied y) fun _ => Recoverable c := by
  refine Triple.look (fun _ hs _ => hs.1.toRecoverable) fun s e ⟨hs, ⟨e', he', anew⟩, ht⟩ he => ?_
  obtain rfl := Option.some.inj (he.symm.trans he'.1)
  have record := hs.records r e he'
  split
  · -- Nothing is to be changed, so the entity holds what is in its row.
    rename_i empty
    have unchanged : ∀ col v, (col, v) ∉ e.changes := fun col v => by
      rw [List.isEmpty_iff.mp empty]
      exact List.not_mem_nil
    refine Triple.pure fun s' same => ⟨?_, same ▸ ht, fun _ h => by cases h⟩
    subst same
    refine hs.reached fun q hq e' p he'' hp hid => ?_
    obtain rfl := List.mem_singleton.mp hq
    obtain rfl := he'.eq he''
    have keyed : e.key?.isSome = true := Option.isSome_iff_ne_none.mpr fun unkeyed => by
      obtain ⟨v, hv⟩ := anew unkeyed .title (by decide)
      exact unchanged .title v hv
    exact fun col hc => hs.bearsIn_of_unchanged he' housed hp hid hc keyed (unchanged col)
  · rename_i full
    obtain ⟨p, hp, hid, -⟩ := hs.home r e he' housed
    -- What is read meanwhile changes nothing of what is written.
    have both := (Filing.keptAside (x := x) (c := c)).and (T := fun s' =>
        s'.tables.posts = s.tables.posts ∧ T s' ∧ ∃ e', s'.PostAt r e' ∧ e.Reread s.tables.posts e')
      fun hs apart ⟨posts, ht, e', he', reread⟩ => by
        obtain ⟨e'', he'', reread'⟩ := apart.altered.forth he'
        exact ⟨apart.posts.trans posts, lasts hs.records apart.reads ht, e'', he'',
          reread.trans (posts ▸ reread')⟩
    refine Triple.bind (Triple.weaken (value_post both r .id)
      (by rintro _ rfl; exact ⟨⟨hs, rfl, ht, e, he', .refl _ e⟩, e, he'⟩) (fun _ _ h => h)
      fun _ _ h => h.1.toRecoverable) fun v => ?_
    rintro s' ⟨⟨hs', posts, ht', f, hf, reread⟩, f', hf', held, read⟩
    obtain rfl := hf.eq hf'
    have own := (reread.isRecord record).held_rowId ((reread.rowId?_eq record).trans hid) read
    rw [own] at held
    obtain rfl : Cell.text p.id = v := held
    have supplied : ∀ y : Revision, y.ref = r → e.Supplies y → s'.Supplied y := fun y same supplies =>
      ⟨f, same ▸ hf, supplies.reread record (hf.2.trans he'.2.symm) reread⟩
    have reached : s'.Filing (x.reached []) c := hs'.reached fun _ h => by cases h
    split
    rename_i key cells found
    have written : e.Supplies ⟨r, key, cells⟩ ∧ cells ≠ [] :=
      record.supplies he'.2 hid (fun empty => full (List.isEmpty_iff.mpr empty)) anew found
    refine (?_ : Triple (· = s') _ _ fun _ => Recoverable c) s' rfl
    refine Triple.guard (fun _ _ same => same ▸ hs'.toRecoverable) fun _ => Triple.pure ?_
    rintro _ rfl
    rw [if_neg fun empty => written.2 (List.isEmpty_iff.mp empty)]
    refine ⟨reached, ht', fun y hy => ?_⟩
    obtain rfl := Option.some.inj hy
    exact ⟨rfl, supplied _ rfl written.1⟩

/-- A row is changed to what its entity holds, if it is there. -/
theorem revise_post (h : s.Filing x c) {y : Revision} (housed : x.housed y.ref)
    (behind : x.behind y.ref) (supplied : s.Supplied y) :
    Triple (· = s) (revise .post y (stamped now .post y.cells))
      (fun found s' => s'.entities = s.entities ∧ s'.Recoverable c ∧
        (found = true → s'.Filing (x.reached [y.ref]) c)) fun _ => Recoverable c := by
  have stays : ∀ s', s' = s → s'.Recoverable c := fun _ same => same ▸ h.toRecoverable
  refine Triple.bind (Triple.weaken (keeps_bindFrom (I := (· = s)) 1 _) (fun _ same => same)
    (fun _ _ h => h.1) fun _ s' h => stays s' h.1) fun _ => ?_
  refine Triple.bind (Triple.reaching fun _ same => same ▸ h.whole) fun s₁ => ?_
  rintro s₂ ⟨rfl, same⟩
  subst same
  split
  · exact ⟨rfl, h.toRecoverable, fun found => by cases found⟩
  · rename_i row found
    obtain ⟨key, hkey, hrow⟩ := Option.bind_eq_some_iff.mp found
    obtain ⟨e, he, supplies⟩ := supplied
    refine Triple.bind (P := (· = s₁))
      (Q := fun _ s' => s'.entities = s₁.entities ∧ s'.Filing (x.reached [y.ref]) c)
      (Triple.storing (fun _ same => same ▸ h.whole) fun s' same => ?_)
      (fun _ => Triple.pure fun s' h => ⟨h.1, h.2.toRecoverable, fun _ => h.2⟩) s₁ rfl
    subst same
    split
    · rename_i store stored
      refine ⟨rfl, ?_⟩
      obtain ⟨row', overlaid, replaced⟩ := bind_eq_ok.mp stored
      obtain ⟨p, hp, rfl⟩ := List.mem_map.mp (Tables.mem_of_row? hrow)
      obtain rfl : p.id = key := Tables.id_of_row? hrow
      obtain ⟨p', rfl, hid', cells⟩ := Row.post_of_ofCells overlaid
      obtain ⟨unique, posts, documents⟩ := Store.replaced_post replaced
      obtain ⟨id, hid, own⟩ := supplies.own
      have record := h.records _ e he
      -- The row is the one of the entity: no other has its identifier.
      obtain ⟨q, hq, hq', -⟩ := h.home _ e he housed
      have named : p'.id = id := by
        cases given : y.cells.lookup .id with
        | some v =>
          rw [given] at own
          rw [lookup_stamped now y.cells (by decide), given, show v = .text id from own] at hid'
          exact (Option.some.inj hid').symm
        | none =>
          rw [given] at own
          rw [lookup_stamped now y.cells (by decide), given] at hid'
          rw [show y.id = .text id from own] at hkey
          exact (Option.some.inj hid').symm.trans (Option.some.inj hkey).symm
      have equal : q.id = id := Option.some.inj (hq'.symm.trans hid)
      have same : p'.id = p.id := by
        rw [named, ← equal]
        exact unique q hq (equal.trans named.symm)
      have own := hid.trans (congrArg some (named.symm.trans same))
      refine h.revised he housed behind hp own same (fun col hc => ?_) posts documents
      have indexed := Column.mem_indexed_of_contents hc
      cases given : y.cells.lookup col with
      | some v =>
        have held := supplies.given col hc v given
        have cell := cells col hc
        rw [lookup_stamped now y.cells indexed, given] at cell
        rw [cell (record.texts col indexed v held), Entity.BearsIn, held]
        rfl
      | none =>
        obtain ⟨keyed, unchanged⟩ := supplies.left col hc given
        have cell := cells col hc
        rw [lookup_stamped now y.cells indexed, given] at cell
        rw [cell (p.isText_cell indexed)]
        exact h.bearsIn_of_unchanged he housed hp own hc keyed unchanged
    · exact h.toRecoverable

theorem keeps_revise_store {I : Session → Prop} (hI : ∀ s store, I s → I { s with store := store })
    (k : Kind) (y : Revision) (cells : Cells) : Keeps I (revise k y cells) fun _ => True := by
  refine Keeps.bind (keeps_bindFrom 1 _) fun _ _ => Keeps.bind Keeps.reaching fun s _ => ?_
  split
  · exact Keeps.pure trivial
  · exact Keeps.bind (Keeps.storing fun s store hs _ => hI s store hs) fun _ _ => Keeps.pure trivial

/-- If all rows are there, all entities hold what their rows hold. -/
theorem reviseEach_post {ys : List Revision} (h : s.Filing x c)
    (due : ∀ y ∈ ys, x.housed y.ref ∧ x.behind y.ref) (supplied : ∀ y ∈ ys, s.Supplied y) :
    Triple (· = s) (ys.mapM fun y => revise .post y (stamped now .post y.cells))
      (fun found s' => s'.entities = s.entities ∧ s'.Recoverable c ∧
        (found.contains false = false → s'.Filing (x.reached (ys.map Revision.ref)) c))
      fun _ => Recoverable c := by
  induction ys generalizing s x with
  | nil =>
    refine Triple.pure ?_
    rintro _ rfl
    exact ⟨rfl, h.toRecoverable, fun _ => h.reached fun _ h => by cases h⟩
  | cons y ys ih =>
    obtain ⟨housed, behind⟩ := due y List.mem_cons_self
    rw [List.mapM_cons]
    refine Triple.bind (revise_post h housed behind (supplied y List.mem_cons_self)) fun b => ?_
    rintro s₁ ⟨same, recoverable, revised⟩
    cases b with
    | false =>
      have undone : Keeps (fun s' => s'.entities = s.entities ∧ s'.Recoverable c)
          (ys.mapM fun y => revise .post y (stamped now .post y.cells)) fun _ => True :=
        (Keeps.mapM_all fun y _ => keeps_revise_store (fun s' store hs =>
          ⟨hs.1, hs.2.of_entities rfl rfl⟩) .post y _).done
      refine Triple.bind (Triple.weaken undone (fun _ h => h) (fun _ _ h => h.1) fun _ _ h => h.1.2)
        (fun bs => Triple.pure fun s' h => ⟨h.1, h.2, fun all => ?_⟩) s₁ ⟨same, recoverable⟩
      simp at all
    | true =>
      have rest := ih (revised rfl) (fun y' hy' => due y' (List.mem_cons_of_mem y hy'))
        fun y' hy' => (reads_of_entities same).supplied h.records
          (supplied y' (List.mem_cons_of_mem y hy'))
      refine Triple.bind rest (fun bs => Triple.pure fun s' h => ⟨h.1.trans same, h.2.1, fun all => ?_⟩)
        s₁ rfl
      have reached := h.2.2 (by simpa using all)
      rwa [Stage.reached_reached] at reached

theorem reviseAll_post {T : Session → Prop} (lasts : Lasts T) {ys : List Revision}
    (due : ∀ y ∈ ys, x.housed y.ref ∧ x.behind y.ref) :
    Triple (fun s => s.Filing x c ∧ (∀ y ∈ ys, s.Supplied y) ∧ T s) (reviseAll now .post ys)
      (fun _ s => s.Filing (x.reached (ys.map Revision.ref)) c ∧ T s) fun _ => Recoverable c := by
  rintro s ⟨h, supplied, ht⟩
  refine (?_ : Triple (· = s) _ _ fun _ => Recoverable c) s rfl
  refine Triple.bind (Triple.weaken (Keeps.forM (I := (· = s)) fun y _ => keeps_fitting y.cells)
    (fun _ same => same) (fun _ _ h => h.1) fun _ s' same => same.1 ▸ h.toRecoverable) fun _ => ?_
  refine Triple.bind (reviseEach_post h due supplied) fun found => ?_
  refine Triple.guard (fun _ _ h => h.2.1) fun all => ?_
  have both := (Filing.keptAside (x := x.reached (ys.map Revision.ref)) (c := c)).and (T := T)
    fun hs apart => lasts hs.records apart.reads
  refine Triple.weaken (both.timed now .post ys) (fun s' ⟨same, _, revised⟩ => ?_) (fun _ _ h => h.1)
    fun _ _ h => h.1.1.toRecoverable
  exact ⟨revised (Bool.eq_false_iff.mpr all), lasts h.records (reads_of_entities same) ht⟩

theorem reviseRest_post {T : Session → Prop} (lasts : Lasts T) {ready : List Revision} {rs : List Ref}
    (due : ∀ y ∈ ready, x.housed y.ref ∧ x.behind y.ref) (due' : ∀ r ∈ rs, x.housed r ∧ x.behind r) :
    Triple (fun s => s.Filing x c ∧ (∀ y ∈ ready, s.Supplied y) ∧ (∀ r ∈ rs, s.Anew r) ∧ T s)
      (reviseRest now .post ready rs)
      (fun _ s => s.Filing (x.reached (ready.map Revision.ref ++ rs)) c ∧ T s)
      fun _ => Recoverable c := by
  induction rs generalizing ready x with
  | nil =>
    cases ready with
    | nil => exact Triple.pure fun s h => ⟨x.reached_nil.symm ▸ h.1, h.2.2.2⟩
    | cons y ready =>
      refine Triple.weaken (reviseAll_post lasts due) (fun s h => ⟨h.1, h.2.1, h.2.2.2⟩) (fun _ s h => ?_)
        fun _ _ h => h
      rwa [List.append_nil]
  | cons r rs ih =>
    have rest : ∀ q ∈ rs, x.housed q ∧ x.behind q := fun q hq => due' q (List.mem_cons_of_mem r hq)
    have others : Lasts fun s => (∀ y ∈ ready, s.Supplied y) ∧ (∀ r ∈ rs, s.Anew r) ∧ T s :=
      fun records reads known =>
        ⟨fun y hy => reads.supplied records (known.1 y hy), fun q hq => reads.anew (known.2.1 q hq),
          lasts records reads known.2.2⟩
    rw [reviseRest]
    refine Triple.bind (Triple.weaken (revision?_post others (due' r List.mem_cons_self).1)
      (fun s known => ⟨known.1, known.2.2.1 r List.mem_cons_self, known.2.1,
        fun q hq => known.2.2.1 q (List.mem_cons_of_mem r hq), known.2.2.2⟩) (fun _ _ h => h)
      fun _ _ h => h)
      fun o => ?_
    cases o with
    | none =>
      refine Triple.weaken (ih (x := x.reached [r]) due rest) (fun s known => ⟨known.1, known.2.1⟩)
        (fun _ s done => ⟨?_, done.2⟩) fun _ _ h => h
      have same : (x.reached [r]).reached (ready.map Revision.ref ++ rs) =
          x.reached (ready.map Revision.ref ++ r :: rs) :=
        (x.reached_reached _ _).trans (x.reached_congr fun q => by simp [or_left_comm])
      exact same ▸ done.1
    | some y =>
      dsimp only
      rintro s ⟨h, ⟨supplied, anew, ht⟩, found⟩
      obtain ⟨rfl, own⟩ := found y rfl
      rw [if_neg (Option.some_ne_none y), Stage.reached_nil] at h
      have due₁ := due' y.ref List.mem_cons_self
      split
      · refine Triple.weaken (@ih x (ready ++ [y]) ?_ rest) (fun _ h => h)
          (fun _ s done => ⟨?_, done.2⟩) (fun _ _ h => h) s ⟨h, ?_, anew, ht⟩
        · exact List.forall_mem_append.mpr ⟨due, List.forall_mem_singleton.mpr due₁⟩
        · exact List.forall_mem_append.mpr ⟨supplied, List.forall_mem_singleton.mpr own⟩
        · have same : x.reached ((ready ++ [y]).map Revision.ref ++ rs) =
              x.reached (ready.map Revision.ref ++ y.ref :: rs) := x.reached_congr fun q => by simp
          exact same ▸ done.1
      · have after : Lasts fun s => s.Supplied y ∧ (∀ r ∈ rs, s.Anew r) ∧ T s :=
          fun records reads known => ⟨reads.supplied records known.1,
            fun q hq => reads.anew (known.2.1 q hq), lasts records reads known.2.2⟩
        refine Triple.bind (reviseAll_post after due) (fun _ => Triple.weaken
          (@ih (x.reached (ready.map Revision.ref)) [y] (List.forall_mem_singleton.mpr due₁) rest)
          (fun s known => ⟨known.1, List.forall_mem_singleton.mpr known.2.1, known.2.2⟩)
          (fun _ s done => ⟨?_, done.2⟩) fun _ _ h => h) s ⟨h, supplied, own, anew, ht⟩
        have same : (x.reached (ready.map Revision.ref)).reached ([y].map Revision.ref ++ rs) =
            x.reached (ready.map Revision.ref ++ y.ref :: rs) :=
          (x.reached_reached _ _).trans (x.reached_congr fun q => by simp)
        exact same ▸ done.1

end Work

end Session

end Weblog
