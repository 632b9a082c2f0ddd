/-
  Reindexing: the documents of posts are made anew.

  A document is made from what the entity of its post holds. If every entity that the session finds
  by the identifier of a post agrees with that post in all that documents are made of
  (`Session.IsCurrent`), the documents are those of the stored posts, whatever they were before. That
  is so in a session at rest, and in particular in one that was just opened on any tables. An entity
  that holds something else, though there is nothing of it to write, is indexed as it is.

  Rows are first taken over into entities (`Session.Taken`), which then hold all that their documents
  are made of (`Session.Displays`); after that only documents are written.
-/
import Weblog.Proofs.Search.Document
import Weblog.Proofs.Service.Bearer
import Weblog.Proofs.Session.Removed

namespace Weblog

/-! ## Documents of stored posts -/

/-- What is stored of a post under the names of the indexed fields. -/
def PostRow.indexed (p : PostRow) : Json :=
  .obj [("title", p.title.elim .null .str), ("body", p.body.elim .null .str)]

/-- The tables with the documents of all posts built anew from their stored fields. -/
def Tables.reindexed (t : Tables) : Tables :=
  { t with documents := (t.documents.filter fun d => d.recordType ≠ "posts") ++
      t.posts.map fun p => ⟨"posts", p.id, Document.build p.indexed ["title", "body"]⟩ }

theorem Document.partOf_ofText (o : Option String) :
    partOf (some (o.elim .null .str)) = o.getD "" := by
  cases o with
  | none => rfl
  | some s => exact partOf_of_text fun w hw => .inr ⟨s, (Option.some.inj hw).symm⟩

theorem PostRow.document_eq_build (p : PostRow) :
    p.document = ⟨"posts", p.id, Document.build p.indexed ["title", "body"]⟩ := by
  have parts : (["title", "body"].map fun f => Document.partOf (p.indexed.field? f)) =
      [p.title.getD "", p.body.getD ""] := by
    rw [List.map_cons, List.map_singleton, ← Document.partOf_ofText p.title,
      ← Document.partOf_ofText p.body]
    rfl
  rw [Document.build, parts]
  rfl

theorem Tables.reindexed_eq (t : Tables) : t.reindexed =
    { t with documents := (t.documents.filter fun d => d.recordType ≠ "posts") ++
        t.posts.map PostRow.document } := by
  rw [reindexed, List.map_congr_left fun p _ => p.document_eq_build.symm]

/-- Tables that were indexed are not changed by it any more. -/
theorem Tables.reindexed_again (t : Tables) : t.reindexed.reindexed = t.reindexed := by
  have own : ∀ d ∈ t.posts.map PostRow.document, ¬d.recordType ≠ "posts" := by
    intro d hd
    obtain ⟨p, -, rfl⟩ := List.mem_map.mp hd
    exact fun other => other rfl
  have cleared : (t.posts.map PostRow.document).filter (fun d => d.recordType ≠ "posts") = [] :=
    List.filter_eq_nil_iff.mpr fun d hd => by simpa using own d hd
  rw [reindexed_eq t, reindexed_eq]
  simp only [List.filter_append, cleared, List.append_nil, List.filter_filter, Bool.and_self]

/-- Where the documents are those of the posts, they stay as they are. -/
theorem Tables.Indexed.reindexed {t : Tables} (h : t.Indexed) :
    t.reindexed.documents.Perm t.documents := by
  have cleared : (t.documents.filter fun d => d.recordType ≠ "posts") = [] := by
    refine List.filter_eq_nil_iff.mpr fun d hd => ?_
    obtain ⟨p, -, rfl⟩ := h.mem_documents.mp hd
    simp [PostRow.document, Kind.table]
  rw [reindexed_eq, cleared]
  exact h.symm

/-! ## Entities of posts -/

theorem Cell.value?_ofText? (o : Option String) :
    (ofText? o).value? = some (o.elim .null .str) := by
  cases o with
  | none => rfl
  | some s => rfl

/-- A key is the same as one text only. -/
theorem Cell.eq_of_same_text {key : Cell} {a b : String} (ha : key.same (.text a) = true)
    (hb : key.same (.text b) = true) : a = b := by
  cases key with
  | text s =>
    simp only [same, value?, Json.alike, beq_iff_eq] at ha hb
    exact ha.symm.trans hb
  | other v =>
    cases v with
    | str s =>
      simp only [same, value?, Json.alike, beq_iff_eq] at ha hb
      exact ha.symm.trans hb
    | _ => simp [same, value?, Json.alike, Json.count?] at ha
  | _ => simp [same, value?, Json.alike, Json.count?] at ha

namespace Entity

variable {e : Entity} {p : PostRow}

/-- The columns that documents are made of. -/
def indexedColumns : List Column := [.id, .title, .body]

/-- An entity holds all of a post that its document is made of. -/
def Shows (e : Entity) (p : PostRow) : Prop :=
  ∀ c ∈ indexedColumns, e.held? c = some ((Row.post p).cell c)

/-- An entity holds nothing else than a post in the columns that documents are made of; what it does
not hold was not set either. -/
def Agrees (e : Entity) (p : PostRow) : Prop :=
  ∀ c ∈ indexedColumns, e.held? c = some ((Row.post p).cell c) ∨
    e.held? c = none ∧ e.formerCells.lookup c = none

theorem Shows.agrees (h : e.Shows p) : e.Agrees p := fun c hc => .inl (h c hc)

/-- What is missing is read from the row. -/
theorem Agrees.fill (h : e.Agrees p) (kind : e.kind = .post) :
    (e.fill (.post p) e.missing).Shows p := by
  intro c hc
  have column : c ∈ e.kind.columns := by
    rw [kind]
    revert c
    decide
  rw [held?_fill]
  split
  · rfl
  · rename_i held
    rcases h c hc with same | ⟨unread, unset⟩
    · exact same
    · refine absurd (List.contains_iff_mem.mpr (List.mem_filter.mpr ⟨column, ?_⟩)) held
      rw [unread, unset]
      rfl

/-- What is held is not missing, and stays. -/
theorem Shows.fill (h : e.Shows p) (row : Row) : (e.fill row e.missing).Shows p := by
  intro c hc
  have held := h c hc
  rw [held?_fill, if_neg, held]
  intro missing
  have unread := (List.mem_filter.mp (List.contains_iff_mem.mp missing)).2
  rw [held] at unread
  cases unread

theorem shows_ofRow (p : PostRow) : (ofRow (.post p)).Shows p := by
  intro c hc
  have column : Kind.post.columns.contains c = true := by
    revert c
    decide
  refine (lookup_map (Row.post p).cell Kind.post.columns c).trans ?_
  rw [if_pos column]

end Entity

namespace Session

variable {s s' s₀ : Session} {r q : Ref} {e : Entity} {p : PostRow} {ps : List PostRow}
  {rs : List Ref} {E : Error → Session → Prop}

/-! ## Sessions that agree with the stored posts -/

/-- A session with nothing to write in which the entities that it finds by the identifiers of posts
agree with them. -/
structure IsCurrent (s : Session) : Prop where
  whole : s.broken = false
  clean : s.isClean = true
  agrees : ∀ p ∈ s.tables.posts, ∀ q e, s.entity? q = some e →
    isAt .post (.text p.id) e = true → e.Agrees p

theorem isClean_iff : s.isClean = true ↔ ∀ q e, s.entity? q = some e →
    (!e.isPending && !(e.isMapped && e.isTouched) && !e.isDoomed) = true := by
  unfold isClean
  rw [List.all_eq_true]
  constructor
  · exact fun h q e he => h e (List.mem_of_getElem? he)
  · intro h e mem
    obtain ⟨q, he⟩ := List.mem_iff_getElem?.mp mem
    exact h q e he

/-- The session finds an entity by one identifier only. -/
theorem id_of_isAt {a b : String} {k : Kind} (ha : isAt k (.text a) e = true)
    (hb : isAt k (.text b) e = true) : a = b := by
  simp only [isAt, Bool.and_eq_true, Option.any_eq_true] at ha hb
  obtain ⟨-, key, hkey, ha⟩ := ha
  obtain ⟨-, key', hkey', hb⟩ := hb
  obtain rfl := Option.some.inj (hkey.symm.trans hkey')
  exact Cell.eq_of_same_text ha hb

/-- A session at rest agrees with its tables. -/
theorem AtRest.isCurrent (h : s.AtRest []) : s.IsCurrent where
  whole := h.whole
  clean := h.isWritten.isClean
  agrees := by
    intro p hp q e he here c hc
    have kind := Work.kind_of_isAt here
    simp only [isAt, Bool.and_eq_true, Option.any_eq_true] at here
    obtain ⟨⟨mapped, -⟩, key, hkey, same⟩ := here
    have mirrors := h.mirrors q e he mapped
    cases held : e.held? c with
    | none => exact .inr ⟨rfl, by rw [mirrors.unset]; rfl⟩
    | some v =>
      obtain ⟨row, hrow, rfl⟩ := mirrors.held c v held
      obtain ⟨key', id, hkey', -, stored⟩ := mirrors.keyed
      obtain rfl := Option.some.inj (hkey.symm.trans hkey')
      have mem : Row.post p ∈ s.tables.rows .post := List.mem_map_of_mem hp
      have found : s.tables.row? .post p.id = some (.post p) := h.keyed.row?_of_mem mem
      rw [Entity.row?, hkey, Option.bind_some, stored, Option.bind_some, kind,
        Cell.text_of_same same stored, found] at hrow
      obtain rfl := Option.some.inj hrow
      exact .inl rfl

/-- A session that has read nothing agrees with any tables. -/
theorem IsCurrent.opened (whole : s.broken = false) (none : s.entities = []) : s.IsCurrent :=
  ⟨whole, isClean_iff.mpr fun _ _ he => (entity?_of_nil none he).elim,
    fun _ _ _ _ he => (entity?_of_nil none he).elim⟩

/-- What documents there are is all the same. -/
theorem IsCurrent.change_documents (h : s.IsCurrent) (f : Tables → List DocumentRow) :
    (s.change fun t => { t with documents := f t }).IsCurrent := ⟨h.whole, h.clean, h.agrees⟩

/-- Committing gives up what was held of stored posts. -/
theorem IsCurrent.sealed (h : s.IsCurrent) : s.sealed.IsCurrent := by
  have before : ∀ q e', s.sealed.entity? q = some e' → ∃ e, s.entity? q = some e ∧
      e'.isPending = e.isPending ∧ e'.isMapped = e.isMapped ∧ e'.isDoomed = e.isDoomed ∧
      (e.isMapped = true → e'.isTouched = false ∧ e'.cells = [] ∧ e'.formerCells = []) := by
    intro q e' he'
    change (s.expireAll.mapEntities _).entity? q = some e' at he'
    rw [entity?_mapEntities, expireAll, entity?_mapEntities, Option.map_map] at he'
    obtain ⟨e, he, rfl⟩ := Option.map_eq_some_iff.mp he'
    refine ⟨e, he, ?_⟩
    simp only [Function.comp_apply]
    cases mapped : e.isMapped with
    | false =>
      rw [if_neg Bool.false_ne_true]
      split <;> exact ⟨rfl, mapped, rfl, fun h => by cases h⟩
    | true =>
      rw [if_pos rfl]
      split <;> exact ⟨rfl, mapped, rfl, fun _ => ⟨rfl, rfl, rfl⟩⟩
  refine ⟨h.whole, isClean_iff.mpr fun q e' he' => ?_, fun p hp q e' he' here c hc => ?_⟩
  · obtain ⟨e, he, pending, mapped, doomed, givenUp⟩ := before q e' he'
    have clean := isClean_iff.mp h.clean q e he
    rw [pending, mapped, doomed]
    cases hmapped : e.isMapped with
    | false => rwa [hmapped] at clean
    | true =>
      rw [(givenUp hmapped).1]
      simp only [Bool.and_eq_true] at clean
      simp [clean.1.1, clean.2]
  · obtain ⟨e, he, -, mapped, -, givenUp⟩ := before q e' he'
    have here' : e'.isMapped = true := by
      simp only [isAt, Bool.and_eq_true] at here
      exact here.1.1
    obtain ⟨-, cells, formerCells⟩ := givenUp (mapped.symm.trans here')
    exact .inr ⟨by rw [Entity.held?, cells]; rfl, by rw [formerCells]; rfl⟩

/-! ## Taking rows over -/

/-- An entity of the session holds all of a post that its document is made of. -/
def Displays (s : Session) (p : PostRow) (r : Ref) : Prop :=
  ∃ e, s.entity? r = some e ∧ e.Shows p

/-- A session after rows were taken over: it still agrees with the stored posts, and entities that
showed one still do. -/
structure Taken (s₀ s : Session) : Prop where
  current : s.IsCurrent
  store : s.store = s₀.store
  shown : ∀ p q, s₀.Displays p q → s.Displays p q

theorem Taken.refl (h : s.IsCurrent) : Taken s s := ⟨h, rfl, fun _ _ => id⟩

theorem Taken.trans (h : Taken s₀ s) (h' : Taken s s') : Taken s₀ s' :=
  ⟨h'.current, h'.store.trans h.store, fun p q shown => h'.shown p q (h.shown p q shown)⟩

theorem Taken.tables_eq (h : Taken s₀ s) : s.tables = s₀.tables := congrArg Store.tables h.store

/-- A post may be read into the entity that is found by its identifier. -/
theorem IsCurrent.taken_fill (h : s.IsCurrent) (ids : (s.tables.posts.map (·.id)).Nodup)
    (hp : p ∈ s.tables.posts) (he : s.entity? r = some e)
    (here : isAt .post (.text p.id) e = true) :
    Taken s (s.modifyEntity r fun e => e.fill (.post p) e.missing) ∧
      (s.modifyEntity r fun e => e.fill (.post p) e.missing).Displays p r := by
  have shows : (e.fill (.post p) e.missing).Shows p :=
    (h.agrees p hp r e he here).fill (Work.kind_of_isAt here)
  have entity : ∀ q e', (s.modifyEntity r fun e => e.fill (.post p) e.missing).entity? q = some e' →
      s.entity? q = some e' ∨ q = r ∧ e' = e.fill (.post p) e.missing := by
    intro q e' he'
    rw [entity?_modifyEntity] at he'
    split at he'
    · rename_i same
      subst same
      rw [he] at he'
      exact .inr ⟨rfl, (Option.some.inj he').symm⟩
    · exact .inl he'
  refine ⟨⟨⟨h.whole, isClean_iff.mpr fun q e' he' => ?_, fun p' hp' q e' he' here' => ?_⟩, rfl,
    fun p' q shown => ?_⟩, _, entity?_modifyEntity_self he, shows⟩
  · rcases entity q e' he' with he' | ⟨rfl, rfl⟩
    · exact isClean_iff.mp h.clean q e' he'
    · exact isClean_iff.mp h.clean q e he
  · rcases entity q e' he' with he' | ⟨rfl, rfl⟩
    · exact h.agrees p' hp' q e' he' here'
    · -- The entity is found by one identifier, and so it stands for one post.
      have same : p'.id = p.id := id_of_isAt (e := e) here' here
      obtain rfl := List.inj_on_of_nodup_map ids hp' hp same
      exact shows.agrees
  · obtain ⟨e', he', shows'⟩ := shown
    by_cases same : r = q
    · subst same
      exact ⟨_, entity?_modifyEntity_self he', shows'.fill _⟩
    · exact ⟨e', by rw [entity?_modifyEntity, if_neg same, he'], shows'⟩

/-- The entity of a post may join the session if none is found by its identifier. -/
theorem IsCurrent.taken_push (h : s.IsCurrent) (ids : (s.tables.posts.map (·.id)).Nodup)
    (hp : p ∈ s.tables.posts) :
    Taken s { s with entities := s.entities ++ [.ofRow (.post p)] } ∧
      ({ s with entities := s.entities ++ [.ofRow (.post p)] } : Session).Displays p
        s.entities.length := by
  refine ⟨⟨⟨h.whole, isClean_iff.mpr fun q e he => ?_, fun p' hp' q e he here => ?_⟩, rfl,
    fun p' q ⟨e, he, shows⟩ => ⟨e, entity?_push he _, shows⟩⟩, _, ?_, Entity.shows_ofRow p⟩
  · rcases of_entity?_push he with he | ⟨-, rfl⟩
    · exact isClean_iff.mp h.clean q e he
    · rfl
  · rcases of_entity?_push he with he | ⟨-, rfl⟩
    · exact h.agrees p' hp' q e he here
    · have own : isAt .post (.text p.id) (.ofRow (.post p)) = true := by
        simp [isAt, Entity.ofRow, Entity.fresh, Cell.same, Cell.value?, Json.alike, Row.kind, Row.id]
      obtain rfl := List.inj_on_of_nodup_map ids hp' hp (id_of_isAt here own)
      exact (Entity.shows_ofRow p').agrees
  · exact (List.getElem?_append_right (Nat.le_refl _)).trans (by rw [Nat.sub_self]; rfl)

namespace Work

theorem adopt_current (h : s₀.IsCurrent) (ids : (s₀.tables.posts.map (·.id)).Nodup)
    (hp : p ∈ s₀.tables.posts) :
    Triple (· = s₀) (adopt (.post p)) (fun r s => Taken s₀ s ∧ s.Displays p r) E := by
  refine Triple.weaken (adopt_at s₀ (.post p)) (fun _ h => h) (fun r s taken => ?_)
    fun _ _ h => h.elim
  rcases taken with ⟨e, he, here, rfl⟩ | ⟨-, rfl, rfl⟩
  · exact h.taken_fill ids hp he here
  · exact h.taken_push ids hp

/-- All posts are taken over, each into an entity that shows it. -/
theorem adopt_posts (h : s₀.IsCurrent) (ids : (s₀.tables.posts.map (·.id)).Nodup)
    (stored : ∀ p ∈ ps, p ∈ s₀.tables.posts) :
    Triple (· = s₀) ((ps.map Row.post).mapM adopt)
      (fun rs s => Taken s₀ s ∧ List.Forall₂ s.Displays ps rs) E := by
  induction ps generalizing s₀ with
  | nil =>
    refine Triple.pure fun s same => ?_
    subst same
    exact ⟨.refl h, .nil⟩
  | cons p ps ih =>
    rw [List.map_cons, List.mapM_cons]
    refine Triple.bind (adopt_current h ids (stored p List.mem_cons_self)) fun r => ?_
    rintro s₁ ⟨taken, shown⟩
    have tables := taken.tables_eq
    have rest := ih taken.current (tables ▸ ids) fun q hq =>
      tables ▸ stored q (List.mem_cons_of_mem p hq)
    refine Triple.bind rest (fun rs => Triple.pure fun s ⟨taken', all⟩ => ?_) s₁ rfl
    exact ⟨taken.trans taken', .cons (taken'.shown p r shown) all⟩

/-! ## Writing documents -/

theorem value_held {c : Column} {v : Cell} (he : s.entity? r = some e) (held : e.held? c = some v) :
    Triple (· = s) (value r c) (fun w s' => w = v ∧ s' = s) E := by
  refine Triple.look_at he ?_
  rw [held]
  exact Triple.pure fun _ same => ⟨rfl, same⟩

/-- The document of an entity that shows a post is the document of that post. -/
theorem document_shown (h : s.Displays p r) :
    Triple (· = s) (document r) (fun d s' => d = p.document ∧ s' = s) E := by
  obtain ⟨e, he, shows⟩ := h
  have part : ∀ c o, c ∈ Entity.indexedColumns → (Row.post p).cell c = .ofText? o →
      Triple (· = s) (do
        let v ← value r c
        return Document.partOf (v.value?.getD .null)) (fun t s' => t = o.getD "" ∧ s' = s) E := by
    intro c o hc cell
    refine Triple.bind (value_held he (shows c hc)) fun v => ?_
    rintro s' ⟨rfl, rfl⟩
    refine Triple.pure (P := (· = s')) (fun s'' same => ⟨?_, same⟩) s' rfl
    rw [cell, Cell.value?_ofText?]
    exact Document.partOf_ofText o
  refine Triple.bind (value_held he (shows .id (by decide))) fun id => ?_
  rintro s' ⟨rfl, rfl⟩
  refine Triple.bind (part .title p.title (by decide) rfl) (fun title => ?_) s' rfl
  rintro s' ⟨rfl, rfl⟩
  refine Triple.bind (part .body p.body (by decide) rfl) (fun body => ?_) s' rfl
  rintro s' ⟨rfl, rfl⟩
  exact ⟨rfl, rfl⟩

/-- A document is put in if there is none for its record. -/
theorem insertDocument_fresh {d : DocumentRow} (whole : s.broken = false)
    (fresh : s.tables.document? d.recordType d.recordId = none) :
    Triple (· = s) (insertDocument d)
      (fun _ s' => s' = s.change fun t => { t with documents := t.documents ++ [d] }) E := by
  refine Triple.storing (fun s' same => same ▸ whole) fun s' same => ?_
  subst same
  have absent : (s'.store.tables.document? d.recordType d.recordId).isSome = false := by
    rw [show s'.store.tables.document? d.recordType d.recordId = none from fresh]
    rfl
  rw [absent]
  rfl

/-- The documents of shown posts are put in, one after the other. -/
theorem insert_documents (whole : s.broken = false) (ids : (ps.map (·.id)).Nodup)
    (fresh : ∀ p ∈ ps, ∀ d ∈ s.tables.documents, ¬(d.recordType = "posts" ∧ d.recordId = p.id))
    (shown : List.Forall₂ s.Displays ps rs) :
    Triple (· = s) (rs.forM fun r => do insertDocument (← document r))
      (fun _ s' => s' = s.change fun t =>
        { t with documents := t.documents ++ ps.map PostRow.document }) E := by
  induction ps generalizing s rs with
  | nil =>
    cases shown
    refine Triple.pure fun s' same => ?_
    subst same
    simp [change, Store.change]
  | cons p ps ih =>
    obtain ⟨r, rs, first, others, rfl⟩ := List.forall₂_cons_left_iff.mp shown
    rw [List.map_cons, List.nodup_cons] at ids
    have absent : s.tables.document? p.document.recordType p.document.recordId = none := by
      refine List.find?_eq_none.mpr fun d hd own => ?_
      rw [Bool.and_eq_true, decide_eq_true_eq, decide_eq_true_eq] at own
      exact fresh p List.mem_cons_self d hd own
    have firstIn : Triple (· = s) (do insertDocument (← document r))
        (fun _ s' => s' = s.change fun t => { t with documents := t.documents ++ [p.document] }) E := by
      refine Triple.bind (document_shown first) fun d => ?_
      rintro s' ⟨rfl, rfl⟩
      exact insertDocument_fresh whole absent s' rfl
    rw [List.forM_eq_forM, List.forM_cons]
    refine Triple.bind firstIn fun _ => ?_
    rintro s' rfl
    have later : ∀ q ∈ ps, ∀ d ∈ s.tables.documents ++ [p.document],
        ¬(d.recordType = "posts" ∧ d.recordId = q.id) := by
      intro q hq d hd
      rcases List.mem_append.mp hd with hd | hd
      · exact fresh q (List.mem_cons_of_mem p hq) d hd
      · obtain rfl := List.mem_singleton.mp hd
        exact fun own => ids.1 (List.mem_map.mpr ⟨q, hq, own.2.symm⟩)
    refine Triple.weaken (ih (s := s.change fun t =>
      { t with documents := t.documents ++ [p.document] }) whole ids.2 later others)
        (fun _ h => h) (fun _ s' same => ?_) (fun _ _ h => h) _ rfl
    subst same
    simp [change, Store.change]

/-! ## Reindexing -/

/-- All documents of posts are made anew, and everything is committed. -/
theorem reindex_current (now : Instant) (h : s.IsCurrent)
    (ids : (s.tables.posts.map (·.id)).Nodup) :
    Triple (· = s) (reindex now .post) (fun n s' => n = s.tables.posts.length ∧ s'.IsCurrent ∧
      s'.store = s.store.change Tables.reindexed ∧ s'.committed = s.tables.reindexed) E := by
  let dropped := s.change fun t =>
    { t with documents := t.documents.filter fun d => !decide (d.recordType = Kind.post.table) }
  have others : dropped.IsCurrent := h.change_documents _
  have drop : Triple (· = s) (dropDocuments fun d => d.recordType = Kind.post.table)
      (fun _ s' => s' = dropped) E :=
    Triple.storing (fun s' same => same ▸ h.whole) fun s' same => by rw [same]; rfl
  unfold reindex
  refine Triple.guard (fun unsearchable => absurd unsearchable (by decide)) fun _ => ?_
  refine Triple.bind drop fun _ => ?_
  rintro s' rfl
  refine Triple.bind (P := (· = dropped)) (Triple.reaching fun s' same => same ▸ others.whole)
    (fun t => ?_) dropped rfl
  rintro t' ⟨rfl, rfl⟩
  refine Triple.bind (adopt_posts others ids fun _ hp => hp) (fun rs => ?_) dropped rfl
  rintro s₁ ⟨taken, shown⟩
  have fresh : ∀ p ∈ s.tables.posts, ∀ d ∈ s₁.tables.documents,
      ¬(d.recordType = "posts" ∧ d.recordId = p.id) := by
    intro p _ d hd own
    rw [taken.tables_eq] at hd
    have other := (List.mem_filter.mp hd).2
    rw [Bool.not_eq_true', decide_eq_false_iff_not] at other
    exact other own.1
  refine Triple.bind (insert_documents taken.current.whole ids fresh shown) (fun _ => ?_) s₁ rfl
  rintro s₂ rfl
  let written := s₁.change fun t =>
    { t with documents := t.documents ++ s.tables.posts.map PostRow.document }
  have current : written.IsCurrent := taken.current.change_documents _
  have store : written.store = s.store.change Tables.reindexed := by
    simp only [written, dropped, taken.store, change, Store.change, Tables.reindexed_eq, decide_not]
    rfl
  refine Triple.bind (commit_sealed now current.whole current.clean) (fun _ => ?_) written rfl
  rintro s₃ rfl
  refine Triple.bind (P := (· = written.sealed)) (Q := fun _ s' => s' =
      { written.sealed with log := written.sealed.log ++ [reindexedRecord .post rs.length] })
    (Triple.modify fun s' same => by rw [same]) (fun _ => Triple.pure fun s' same => ?_) _ rfl
  subst same
  have sealed := current.sealed
  exact ⟨shown.length_eq.symm, ⟨sealed.whole, sealed.clean, sealed.agrees⟩, store,
    congrArg Store.tables store⟩

end Work

/-! ## Steps -/

theorem step_reindex (now : Instant) (h : s.IsCurrent) (ids : (s.tables.posts.map (·.id)).Nodup) :
    (s.step now (.reindex .post)).result = .ok (.count s.tables.posts.length) ∧
      (s.step now (.reindex .post)).session.IsCurrent ∧
      (s.step now (.reindex .post)).session.tables = s.tables.reindexed ∧
      (s.step now (.reindex .post)).session.committed = s.tables.reindexed := by
  have unlogged : ({ s with log := [] } : Session).IsCurrent := ⟨h.whole, h.clean, h.agrees⟩
  have ends : Work.Triple (· = { s with log := [] }) (Work.take now (.reindex .post))
      (fun v s' => v = .count s.tables.posts.length ∧ s'.IsCurrent ∧
        s'.store = s.store.change Tables.reindexed ∧ s'.committed = s.tables.reindexed)
      fun _ _ => False :=
    Work.Triple.bind (Work.reindex_current now unlogged ids) fun _ =>
      Work.Triple.pure fun _ h => ⟨congrArg Result.count h.1, h.2⟩
  obtain ⟨v, s', result, session, rfl, current, store, committed⟩ := exists_result ends
  rw [session]
  exact ⟨result, ⟨current.whole, current.clean, current.agrees⟩, congrArg Store.tables store,
    committed⟩

/-- Reindexing leaves one document for each stored post, made of what is stored of it, whatever
documents there were before, and changes nothing else; it gives the number of posts. Done once more
it changes nothing, and neither where the tables are those that requests led to. -/
theorem reindex_rebuilds (h : s.IsCurrent) (ids : (s.tables.posts.map (·.id)).Nodup)
    (now later : Instant) :
    let first := s.step now (.reindex .post)
    let second := first.session.step later (.reindex .post)
    (first.result = .ok (.count s.tables.posts.length) ∧
      first.session.tables = s.tables.reindexed ∧ first.session.committed = s.tables.reindexed) ∧
    (second.result = first.result ∧ second.session.tables = first.session.tables ∧
      second.session.committed = first.session.committed) ∧
    ∀ settings store, Service.Reachable settings store → store.tables = s.tables →
      first.session.tables.documents.Perm s.tables.documents := by
  intro first second
  obtain ⟨counted, current, tables, committed⟩ := step_reindex now h ids
  have posts : first.session.tables.posts = s.tables.posts :=
    (congrArg Tables.posts tables).trans rfl
  obtain ⟨counted', -, tables', committed'⟩ := step_reindex later current (posts ▸ ids)
  have again : first.session.tables.reindexed = s.tables.reindexed :=
    (congrArg Tables.reindexed tables).trans s.tables.reindexed_again
  refine ⟨⟨counted, tables, committed⟩, ⟨?_, ?_, ?_⟩, fun settings store reach same => ?_⟩
  · exact counted'.trans (posts ▸ counted.symm)
  · exact tables'.trans (again.trans tables.symm)
  · exact committed'.trans (again.trans committed.symm)
  · rw [show first.session.tables = s.tables.reindexed from tables, ← same]
    exact reach.sound.indexed.reindexed

/-! ## Single runs -/

/-- Tables with a document that is out of date, one that is missing, one of no post, and one of
another record. -/
def unindexed : Tables where
  users := []
  posts := [⟨"p", "u", some "New", none, ⟨0⟩, ⟨0⟩⟩, ⟨"q", "u", some "T", some "B", ⟨0⟩, ⟨0⟩⟩]
  comments := []
  tags := []
  links := []
  documents := [⟨"posts", "p", "old"⟩, ⟨"comments", "p", "kept"⟩, ⟨"posts", "gone", "lost"⟩]

/-- A session that reads from a store. -/
def reading (store : Store) : Session :=
  { start false with store := store, committed := store.tables }

/-- A session that has read a post whose document is out of date. -/
def outdated : Session :=
  (reading ((Store.fresh false).change fun _ => unindexed)).run [(⟨0⟩, .find .post (.text "p"))]

theorem outdated_reindex :
    let first := outdated.step ⟨0⟩ (.reindex .post)
    let posted := (reading (Service.posted [Service.annComment])).step ⟨0⟩ (.reindex .post)
    first.result = .ok (.count 2) ∧ first.session.tables.documents =
        [⟨"comments", "p", "kept"⟩, ⟨"posts", "p", "new"⟩, ⟨"posts", "q", "t b"⟩] ∧
      posted.result = .ok (.count 1) ∧ posted.session.tables.documents.Perm
        (Service.posted [Service.annComment]).tables.documents := by
  have keyed : unindexed.IsKeyed := by
    intro k
    cases k <;> decide
  have outset : (reading ((Store.fresh false).change fun _ => unindexed)).AtRest [] :=
    .opened keyed rfl rfl rfl
  obtain ⟨rest, store⟩ := outset.run [(⟨0⟩, .find .post (.text "p"))] (by decide)
  have stored : outdated.tables = unindexed := congrArg Store.tables store
  obtain ⟨⟨counted, tables, -⟩, -, -⟩ :=
    reindex_rebuilds (s := outdated) rest.isCurrent (stored ▸ by decide) ⟨0⟩ ⟨0⟩
  obtain ⟨⟨counted', -, -⟩, -, same⟩ :=
    reindex_rebuilds (s := reading (Service.posted [Service.annComment]))
      (.opened rfl rfl) (by decide) ⟨0⟩ ⟨0⟩
  rw [stored] at counted tables
  refine ⟨counted, (congrArg Tables.documents tables).trans ?_, counted',
    same .default _ Service.reachable_posted rfl⟩
  decide +kernel

/-- Tables with one post and its document. -/
def indexedFirst : Tables where
  users := []
  posts := [⟨"p", "u", some "First", some "Body", ⟨0⟩, ⟨0⟩⟩]
  comments := []
  tags := []
  links := []
  documents := [⟨"posts", "p", "first body"⟩]

/-- A run after which a post was put in for one that was deleted, twice, with a rollback in between:
the second time its title is not written. -/
def replaced : Session :=
  (reading ((Store.fresh false).change fun _ => indexedFirst)).run
    ([.find .post (.text "p"),
      recorded .post [("id", "p"), ("user_id", "u"), ("title", "Second"), ("body", "Body")],
      .delete 0, .add [1], .flush, .rollback, .delete 0, .add [1], .flush].map fun x => (⟨0⟩, x))

/-- The document is that of the title that the entity holds. After that commit the stored title is
read, and reindexing once more makes another document. -/
theorem replaced_reindex :
    replaced.isClean = true ∧ replaced.broken = false ∧
      replaced.tables.posts.map (fun p => (p.id, p.title, p.body)) =
        [("p", some "First", some "Body")] ∧
      let first := replaced.step ⟨0⟩ (.reindex .post)
      let second := first.session.step ⟨0⟩ (.reindex .post)
      first.session.tables.posts = replaced.tables.posts ∧
        first.session.tables.documents = [⟨"posts", "p", "second body"⟩] ∧
        second.session.tables.documents = [⟨"posts", "p", "first body"⟩] := by
  -- All parts are read off one evaluation of the run.
  have seen : (fun s : Session => (s.isClean, s.broken,
      s.tables.posts.map (fun p => (p.id, p.title, p.body)),
      decide ((s.step ⟨0⟩ (.reindex .post)).session.tables.posts = s.tables.posts),
      (s.step ⟨0⟩ (.reindex .post)).session.tables.documents,
      ((s.step ⟨0⟩ (.reindex .post)).session.step ⟨0⟩ (.reindex .post)).session.tables.documents))
        replaced =
      (true, false, [("p", some "First", some "Body")], true, [⟨"posts", "p", "second body"⟩],
        [⟨"posts", "p", "first body"⟩]) := by cbv
  simp only [Prod.mk.injEq, decide_eq_true_eq] at seen
  exact seen

end Session

end Weblog
