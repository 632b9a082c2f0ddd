/-
  The tasks of a flush in which rows of posts are written and taken out, with their documents.

  When rows were changed and put in, the entities that are written hold what their rows hold, and so
  the documents made of them are those of the rows (`Work.save_post`). What goes is taken out together
  with its document (`Work.remove_post`).
-/
import Weblog.Proofs.Session.Housing

namespace Weblog

/-- What an entity that holds what a post holds gives as its title or its body. -/
theorem Entity.Bears.value {e : Entity} {p : PostRow} {col : Column} (h : e.Bears p)
    (contents : col ∈ Column.contents) (fresh : e.held? col = none → col ∉ e.stale) :
    (e.held? col).getD .null = (Row.post p).cell col := by
  have known := h col contents
  unfold BearsIn at known
  cases held : e.held? col with
  | some v =>
    rw [held] at known
    exact known.symm
  | none =>
    rw [held] at known
    exact (known.resolve_left (fresh held)).symm

/-- A stored post is found by its identifier. -/
theorem Tables.post?_of_mem {t : Tables} {p : PostRow} (ids : (t.posts.map (·.id)).Nodup)
    (hp : p ∈ t.posts) : t.post? p.id = some p := by
  obtain ⟨q, hq⟩ : ∃ q, t.post? p.id = some q :=
    Option.isSome_iff_exists.mp (List.find?_isSome.mpr ⟨p, hp, decide_eq_true rfl⟩)
  rw [hq, List.inj_on_of_nodup_map ids (post?_mem hq) hp (post?_id hq)]

namespace Session

variable {s s' s₀ : Session} {r q : Ref} {e f : Entity} {c : Tables} {p p' : PostRow} {now : Instant}
  {id : String} {x : Stage} {rs rs' : List Ref} {col : Column} {T : Session → Prop}

/-! ## Documents -/

/-- A post is the row of an entity. -/
def Houses (s : Session) (r : Ref) (p : PostRow) : Prop :=
  p ∈ s.tables.posts ∧ ∃ e, s.PostAt r e ∧ e.rowId? = some p.id

/-- The stage when the documents of some more rows were written or taken out. -/
def Stage.caughtUp (x : Stage) (rs : List Ref) : Stage :=
  { x with behind := fun q => x.behind q ∧ q ∉ rs }

theorem Stage.caughtUp_nil (x : Stage) : x.caughtUp [] = x := by
  simp [Stage.caughtUp]

theorem Stage.caughtUp_caughtUp (x : Stage) (rs rs' : List Ref) :
    (x.caughtUp rs).caughtUp rs' = x.caughtUp (rs ++ rs') := by
  simp [Stage.caughtUp, and_assoc]

theorem Filing.houses (h : s.Filing x c) (he : s.PostAt r e) (housed : x.housed r) :
    ∃ p, s.Houses r p := by
  obtain ⟨p, hp, hid, -⟩ := h.home r e he housed
  exact ⟨p, hp, e, he, hid⟩

theorem Filing.bears (h : s.Filing x c) (houses : s.Houses r p) (he : s.PostAt r e)
    (housed : x.housed r) (current : x.current r) : e.Bears p := by
  obtain ⟨hp, e', he', hid⟩ := houses
  obtain rfl := he.eq he'
  obtain ⟨q, hq, hid', bears, -⟩ := h.home r e he housed
  obtain rfl := List.inj_on_of_nodup_map h.distinct hq hp (Option.some.inj (hid'.symm.trans hid))
  exact bears current

/-- The document of a row was written. -/
theorem Filing.index (h : s.Filing x c) (houses : s.Houses r p) :
    (s.change (·.index p.document)).Filing (x.caughtUp [r]) c := by
  obtain ⟨hp, e, he, hid⟩ := houses
  have post := Tables.post?_of_mem h.distinct hp
  refine { h with indexed := (h.indexed.index post).mono ?_ }
  rintro id ⟨⟨q, f, hf, behind, hid'⟩, other⟩
  refine ⟨q, f, hf, ⟨behind, fun mem => other ?_⟩, hid'⟩
  obtain rfl := List.mem_singleton.mp mem
  obtain rfl := he.eq hf
  exact Option.some.inj (hid'.symm.trans hid)

namespace Work

theorem keptAside_houses (lasts : Lasts T) :
    KeptAside fun s => s.Filing x c ∧ s.Houses r p ∧ T s :=
  Filing.keptAside.and fun h apart ⟨⟨hp, e, he, hid⟩, known⟩ => by
    obtain ⟨e', he', reread⟩ := apart.altered.forth he
    exact ⟨⟨apart.posts ▸ hp, e', he', (reread.rowId?_eq (h.records _ e he)).trans hid⟩,
      lasts h.records apart.reads known⟩

/-- What an entity holds of its row is read. -/
theorem value_houses (lasts : Lasts T) (housed : x.housed r) (current : x.current r)
    (hcol : col ∈ Entity.indexedColumns) :
    Triple (fun s => s.Filing x c ∧ s.Houses r p ∧ T s) (value r col)
      (fun v s => (s.Filing x c ∧ s.Houses r p ∧ T s) ∧ v = (Row.post p).cell col)
      fun _ => Filing x c := by
  refine Triple.weaken (value_post (keptAside_houses lasts) r col)
    (fun s h => ⟨h, h.2.1.2.elim fun e h => ⟨e, h.1⟩⟩) ?_ fun _ _ h => h.1
  rintro v s ⟨⟨h, houses, known⟩, e, he, rfl, fresh⟩
  refine ⟨⟨h, houses, known⟩, ?_⟩
  have bears := h.bears houses he housed current
  rcases List.mem_cons.mp hcol with rfl | contents
  · obtain ⟨-, e', he', hid⟩ := houses
    obtain rfl := he.eq he'
    rw [(h.records r e he).held_rowId hid fresh]
    rfl
  · exact bears.value contents fresh

/-- The document of an entity that holds what its row holds is that of the row. -/
theorem document_post (lasts : Lasts T) (housed : x.housed r) (current : x.current r) :
    Triple (fun s => s.Filing x c ∧ s.Houses r p ∧ T s) (document r)
      (fun d s => (s.Filing x c ∧ s.Houses r p ∧ T s) ∧ d = p.document) fun _ => Filing x c := by
  have part : ∀ {col} {o : Option String}, col ∈ Entity.indexedColumns →
      (Row.post p).cell col = .ofText? o →
      Triple (fun s => s.Filing x c ∧ s.Houses r p ∧ T s)
        (do
          let v ← value r col
          return Document.partOf (v.value?.getD .null))
        (fun t s => (s.Filing x c ∧ s.Houses r p ∧ T s) ∧ t = o.getD "") fun _ => Filing x c := by
    intro col o hcol cell
    refine Triple.bind (value_houses lasts housed current hcol) fun v =>
      Triple.pure fun s ⟨h, same⟩ => ⟨h, ?_⟩
    rw [same, cell, Cell.value?_ofText?]
    exact Document.partOf_ofText o
  refine Triple.bind (value_houses lasts housed current (by decide)) fun id => ?_
  rintro s ⟨h, rfl⟩
  refine Triple.bind (part (o := p.title) (by decide) rfl) (fun title => ?_) s h
  rintro s ⟨h, rfl⟩
  refine Triple.bind (part (o := p.body) (by decide) rfl) (fun body => ?_) s h
  rintro s ⟨h, rfl⟩
  exact ⟨h, rfl⟩

/-- The document of a row is written. -/
theorem index_post (lasts : Lasts T) (housed : x.housed r) (current : x.current r) :
    Triple (fun s => s.Filing x c ∧ (∃ e, s.PostAt r e) ∧ T s) (index r)
      (fun _ s => s.Filing (x.caughtUp [r]) c ∧ T s) fun _ => Recoverable c := by
  rintro s ⟨h, ⟨e, he⟩, known⟩
  obtain ⟨p, houses⟩ := h.houses he housed
  have after : KeptAside fun s => s.Filing (x.caughtUp [r]) c ∧ T s :=
    Filing.keptAside.and fun h apart known => lasts h.records apart.reads known
  refine Triple.bind (Triple.weaken (document_post lasts housed current) (fun _ h => h)
    (fun _ _ h => h) fun _ _ h => h.toRecoverable) (fun d => ?_) s ⟨h, houses, known⟩
  refine Triple.bind (Q := fun _ s => s.Filing (x.caughtUp [r]) c ∧ T s) (Triple.modify ?_) fun _ => ?_
  · rintro s ⟨⟨h, houses, known⟩, rfl⟩
    exact ⟨h.index houses, lasts h.records (reads_of_entities rfl) known⟩
  · refine Triple.bind (Triple.weaken (after.reviving.value r .id) (fun _ h => h) (fun _ _ h => h.1)
      fun _ _ h => h.1.1.toRecoverable) fun id => ?_
    exact Triple.weaken (after.note _) (fun _ h => h) (fun _ _ h => h.1) fun _ _ h => h.1.1.toRecoverable

theorem indexAll_post (due : ∀ r ∈ rs, x.housed r ∧ x.current r) :
    Triple (fun s => s.Filing x c ∧ ∀ r ∈ rs, ∃ e, s.PostAt r e) (rs.forM index)
      (fun _ s => s.Filing (x.caughtUp rs) c) fun _ => Recoverable c := by
  induction rs generalizing x with
  | nil =>
    rw [Stage.caughtUp_nil]
    exact Triple.pure fun _ h => h.1
  | cons r rs ih =>
    have lasts : Lasts fun s => ∀ r ∈ rs, ∃ e, s.PostAt r e := fun _ reads there q hq => by
      obtain ⟨e, he⟩ := there q hq
      obtain ⟨e', he', -⟩ := reads.forth he
      exact ⟨e', he'⟩
    refine Triple.bind (Triple.weaken (index_post lasts (due r List.mem_cons_self).1
      (due r List.mem_cons_self).2) (fun s h => ?_) (fun _ _ h => h) fun _ _ h => h) fun _ => ?_
    · exact ⟨h.1, h.2 r List.mem_cons_self, fun q hq => h.2 q (List.mem_cons_of_mem r hq)⟩
    · have rest := ih (x := x.caughtUp [r]) fun q hq => due q (List.mem_cons_of_mem r hq)
      rwa [Stage.caughtUp_caughtUp] at rest

end Work

/-! ## Writing rows -/

/-- A stage when all is done for the posts of a plan, but that some are to be taken out yet. -/
structure Stage.Filed (x : Stage) (N : Ref → Prop) (p : Plan) (left : List Ref) : Prop where
  post : x.post = N
  busy : ∀ r, N r → x.busy r → p.role? r = some ⟨false, false⟩
  leaves : ∀ r, N r → (x.leaves r ↔ p.goes r = true)
  housed : ∀ r, N r → (p.role? r).isSome = true → p.goes r = false ∨ r ∈ left → x.housed r
  current : ∀ r, N r → x.housed r → x.current r ∨ r ∈ left
  stays : ∀ r, N r → x.housed r → p.goes r = false ∨ r ∈ left
  behind : ∀ r, N r → (x.behind r ↔ r ∈ left)

section Save

variable {ps : List PostRow} {docs : List DocumentRow} {p₀ pl pl' : Plan} {new old : List Ref}
  {N : Ref → Prop} {R R' : List (Ref × Kind × Role)}

/-- When the rows of those that are written were changed and put in and have their documents, all that
is left is to take out rows. -/
theorem Sorted.filed (h : Minding s₀ ps c docs p₀ s) (sorted : Sorted pl pl' rs new old s)
    (same : ∀ r e, s.PostAt r e → pl.role? r = p₀.role? r)
    (staying : ∀ r e, s.PostAt r e → (r ∈ rs ↔ p₀.role? r = some ⟨false, false⟩))
    (named : ∀ r, N r ↔ ∃ e, s.PostAt r e) (fits : pl'.Fits N R') :
    ((((stageOf s pl' new old).reached old).entered new).caughtUp (new ++ old)).Filed N pl'
      (pl'.going .post) where
  post := funext fun r => propext (named r).symm
  busy := by
    intro r post written
    obtain ⟨e, he⟩ := (named r).mp post
    have role := (staying r e he).mp (sorted.perm.subset written)
    rcases sorted.roles r with stays | ⟨goes, -⟩
    · exact stays.trans ((same r e he).trans role)
    · rw [Plan.goes, same r e he, role] at goes
      cases goes
  leaves := fun _ _ => Iff.rfl
  housed := by
    intro r post planned kept
    obtain ⟨e, he⟩ := (named r).mp post
    have stays : pl'.role? r ≠ some ⟨true, true⟩ := by
      intro spent
      rcases kept with stays | going
      · rw [Plan.goes, spent] at stays
        cases stays
      · rw [(fits.mem_having_post.mp going).2] at spent
        cases spent
    have role : (p₀.role? r).isSome = true := by
      rcases sorted.roles r with equal | ⟨-, spent, -⟩
      · rw [← same r e he, ← equal]
        exact planned
      · exact absurd spent stays
    have contained := h.minds.contained r e he role
    rw [Entity.isContained, Bool.or_eq_true] at contained
    rcases contained with pending | mapped
    · have written := sorted.perm.symm.subset ((staying r e he).mpr (h.minds.pending r e he pending))
      exact (List.mem_append.mp written).symm.imp_left .inr
    · exact .inl (.inl ⟨⟨e, he, mapped⟩, stays⟩)
  current := by
    rintro r post (housed | new)
    · by_cases goes : pl'.goes r = true
      · rcases housed with ⟨-, stays⟩ | old
        · obtain ⟨⟨_, spent⟩, role, rfl⟩ := Plan.goes_iff.mp goes
          refine .inr (fits.mem_having_post.mpr ⟨post, ?_⟩)
          cases spent with
          | true => exact absurd role stays
          | false => exact role
        · exact .inl (.inl (.inr old))
      · by_cases old : r ∈ old
        · exact .inl (.inl (.inr old))
        · exact .inl (.inl (.inl ⟨old, Bool.eq_false_iff.mpr goes⟩))
    · exact .inl (.inr new)
  stays := by
    rintro r post housed
    by_cases goes : pl'.goes r = true
    · obtain ⟨⟨_, spent⟩, role, rfl⟩ := Plan.goes_iff.mp goes
      refine .inr (fits.mem_having_post.mpr ⟨post, ?_⟩)
      cases spent with
      | false => exact role
      | true =>
        -- What is written does not go, and what is handed over is without a row.
        obtain ⟨e, he⟩ := (named r).mp post
        have written : r ∈ new ++ old := by
          rcases housed with (⟨-, stays⟩ | old) | new
          · exact absurd role stays
          · exact List.mem_append_right _ old
          · exact List.mem_append_left _ new
        rw [sorted.goes_eq same he, Plan.goes, (staying r e he).mp (sorted.perm.subset written)] at goes
        cases goes
    · exact .inl (Bool.eq_false_iff.mpr goes)
  behind := by
    intro r post
    refine Iff.trans ⟨fun late => ?_, fun going => ⟨.inr going, fun written => ?_⟩⟩
      (fits.mem_having_post.trans (and_iff_right post)).symm
    · exact late.1.resolve_left late.2
    · obtain ⟨e, he⟩ := (named r).mp post
      have goes := Plan.goes_iff.mpr ⟨_, going, rfl⟩
      rw [sorted.goes_eq same he, Plan.goes,
        (staying r e he).mp (sorted.perm.subset written)] at goes
      cases goes

/-- An entity whose row is changed had one before, or sets its title and its body. -/
theorem Sorted.anew (h : Minding s₀ ps c docs p₀ s) (sorted : Sorted pl pl' rs new old s)
    (same : ∀ r e, s.PostAt r e → pl.role? r = p₀.role? r)
    (staying : ∀ r e, s.PostAt r e → (r ∈ rs ↔ p₀.role? r = some ⟨false, false⟩)) (mem : r ∈ old) :
    s.Anew r := by
  rcases sorted.seated r mem with ⟨e, he, keyed⟩ | ⟨q, goes, -, e, f, id, he, hf, unkeyed, held, mapped, hkey⟩
  · refine ⟨e, he, fun unkeyed => ?_⟩
    rw [unkeyed] at keyed
    cases keyed
  · refine ⟨e, he, fun _ => ?_⟩
    have pending := ((sorted.standing h staying he (List.mem_append_right new mem)).resolve_left
      fun keyed => by rw [unkeyed] at keyed; cases keyed.1).2
    rw [← sorted.goes, sorted.goes_eq same hf] at goes
    obtain ⟨-, -, doomed⟩ := h.minds.going q f hf goes
    exact h.handover.anew r e id he ⟨⟨e, he, pending, held⟩, q, f, hf, mapped, doomed, hkey⟩

theorem Reads.arrives (h : s.Reads s') (arrives : s.Arrives r) : s'.Arrives r := by
  obtain ⟨e, he, unkeyed, pending⟩ := arrives
  obtain ⟨e', he', ps, reread⟩ := h.forth he
  exact ⟨e', he', reread.key.trans unkeyed, reread.pending.trans pending⟩

/-- A plan names the numbers of posts. -/
theorem Minding.fits (h : Minding s₀ ps c docs pl s) (named : ∀ r, N r ↔ ∃ e, s.PostAt r e) :
    ∃ R, pl.Fits N R ∧ (.post ∉ pl.kinds → R = []) := by
  refine ⟨_, ⟨h.minds.once, fun x hx => ?_, rfl⟩, fun none => List.filter_eq_nil_iff.mpr fun x hx post => ?_⟩
  · obtain ⟨⟨e, he, kind⟩, -⟩ := h.minds.placed x hx
    rw [named, ← kind]
    exact ⟨fun post => ⟨e, he, post⟩, fun ⟨f, hf⟩ => Option.some.inj (he.symm.trans hf.1) ▸ hf.2⟩
  · exact none (of_decide_eq_true post ▸ (h.minds.placed x hx).2)

/-- Nothing of what is done aside from posts changes which entities are those of posts. -/
theorem Work.keptByTasks_minding :
    KeptByTasks N fun s => Minding s₀ ps c docs pl s ∧ ∀ r, N r ↔ ∃ e, s.PostAt r e where
  toKeptAside := keptByTaking_minding.toKeptAside.and fun _ apart named r => (named r).trans
    ⟨fun ⟨e, he⟩ => (apart.altered.forth he).imp fun _ => And.left,
      fun ⟨e, he⟩ => (apart.back he).imp fun _ => And.left⟩
  named := fun hs he => ⟨fun post => (hs.2 _).mpr ⟨_, he, post⟩, fun post => by
    obtain ⟨e', he'⟩ := (hs.2 _).mp post
    exact Option.some.inj (he.symm.trans he'.1) ▸ he'.2⟩

/-- The rows of posts are changed and put in, and their documents are written. -/
theorem Work.save_post (fits₀ : p₀.Fits N R) (fits : pl.Fits N R) :
    Triple (fun s => Minding s₀ ps c docs p₀ s ∧ ∀ r, N r ↔ ∃ e, s.PostAt r e) (save now .post pl)
      (fun pl' s => (∃ x, s.Filing x c ∧ x.Filed N pl' (pl'.going .post)) ∧ ∃ R', pl'.Fits N R')
      fun _ => Recoverable c := by
  refine Triple.bind (Triple.weaken (keeps_inOrder _) (fun _ h => h) (fun _ _ h => h)
    fun _ _ h => h.1.1.toRecoverable) fun rs s₁ ⟨hs₁, perm⟩ => ?_
  have mem : ∀ {r}, r ∈ rs ↔ N r ∧ p₀.role? r = some ⟨false, false⟩ := by
    intro r
    rw [perm.mem_iff, Plan.staying, fits.mem_having_post]
    exact and_congr_right fun post => by rw [fits.role?_eq fits₀ post]
  refine Triple.bind (Triple.weaken (sortOut_post keptByTasks_minding.toKeptAside
    (fun hs => keptByTaking_minding.there hs.1) fun hs r hr => (hs.2 r).mp (mem.mp hr).1)
    (fun _ h => h) (fun _ _ h => h) fun _ _ h => h.1.toRecoverable) (fun x => ?_) s₁ hs₁
  obtain ⟨pl', new, old⟩ := x
  rintro s ⟨⟨h, named⟩, sorted⟩
  have post : ∀ {r e}, s.PostAt r e → N r := fun he => (named _).mpr ⟨_, he⟩
  have same : ∀ r e, s.PostAt r e → pl.role? r = p₀.role? r :=
    fun r e he => fits.role?_eq fits₀ (post he)
  have staying : ∀ r e, s.PostAt r e → (r ∈ rs ↔ p₀.role? r = some ⟨false, false⟩) :=
    fun r e he => mem.trans (and_iff_right (post he))
  obtain ⟨R', fits'⟩ := sorted.fits fits
  have once : (new ++ old).Nodup :=
    (sorted.perm.trans perm).nodup_iff.mpr (fits.once.sublist (List.filter_sublist.map _))
  have apart : ∀ {r}, r ∈ new → r ∉ old :=
    fun hn ho => (List.nodup_append.mp once).2.2 _ hn _ ho rfl
  have start := sorted.filing h same staying
  refine Triple.bind (Triple.weaken (reviseRest_post (x := stageOf s pl' new old) (c := c)
    (T := fun s => ∀ r ∈ new, s.Arrives r) (fun _ reads arrive r hr => reads.arrives (arrive r hr))
    (fun y hy => by cases hy) fun r hr => ⟨.inr hr, .inl (List.mem_append_right new hr)⟩)
    (fun _ h => h) (fun _ _ h => h) fun _ _ h => h) (fun _ => ?_) s ⟨start, ?_, ?_, ?_⟩
  · rintro s₂ ⟨h₂, arrive⟩
    refine Triple.bind (Q := fun s' t => s' = t ∧ t = s₂) (Triple.get fun _ same => ⟨rfl, same⟩)
      (fun s' => ?_) s₂ rfl
    rintro _ ⟨rfl, rfl⟩
    rw [List.map_nil, List.nil_append] at h₂
    have entered : ∀ groups : List (List Ref), groups.flatten = new → Triple (· = s')
        (groups.forM (insertAll now .post))
        (fun _ t => t.Filing (((stageOf s pl' new old).reached old).entered new) c)
        fun _ => Recoverable c := by
      rintro groups rfl
      refine insertGroups_post h₂ (List.nodup_append.mp once).1 fun r hr => ?_
      refine ⟨arrive r hr, List.mem_append_left old hr, ?_, .inl (List.mem_append_left old hr)⟩
      rintro (⟨⟨e, he, mapped⟩, -⟩ | mem)
      · obtain ⟨e', he', unkeyed⟩ := sorted.unkeyed r hr
        obtain rfl := he.eq he'
        rw [(h.records r e he).keyed mapped] at unkeyed
        cases unkeyed
      · exact apart hr mem
    refine Triple.bind (entered _ (List.flatten_splitBy ..)) (fun _ => ?_) s' rfl
    rw [if_pos rfl]
    have written := indexAll_post (c := c) (x := ((stageOf s pl' new old).reached old).entered new)
      fun r (hr : r ∈ new ++ old) => (List.mem_append.mp hr).elim (fun mem => ⟨.inr mem, .inr mem⟩)
        fun mem => ⟨.inl (.inr mem), .inl (.inr mem)⟩
    refine Triple.bind (Triple.weaken written (fun t done => ?_) (fun _ _ h => h) fun _ _ h => h) fun _ =>
      Triple.pure fun t done => ⟨⟨_, done, sorted.filed h same staying named fits'⟩, R', fits'⟩
    refine ⟨done, fun r hr => (done.named r).mp ?_⟩
    exact (named r).mp (mem.mp (sorted.perm.subset hr)).1
  · exact fun y hy => by cases hy
  · exact fun r hr => sorted.anew h same staying hr
  · intro r hr
    obtain ⟨e, he, unkeyed⟩ := sorted.unkeyed r hr
    have unkeyed := Option.not_isSome_iff_eq_none.mp (Bool.eq_false_iff.mp unkeyed)
    refine ⟨e, he, unkeyed, ((sorted.standing h staying he (List.mem_append_left old hr)).resolve_left
      fun keyed => ?_).2⟩
    rw [unkeyed] at keyed
    cases keyed.1

end Save

/-! ## Taking out rows -/

/-- The stage when the rows of some more entities were taken out. -/
def Stage.vacated (x : Stage) (rs : List Ref) : Stage :=
  { x with housed := fun q => x.housed q ∧ q ∉ rs }

theorem Stage.vacated_nil (x : Stage) : x.vacated [] = x := by
  simp [Stage.vacated]

theorem Stage.vacated_vacated (x : Stage) (rs rs' : List Ref) :
    (x.vacated rs).vacated rs' = x.vacated (rs ++ rs') := by
  simp [Stage.vacated, and_assoc]

/-- The row of an entity that goes was taken out. -/
theorem Filing.vacate (h : s.Filing x c) (he : s.PostAt r e) (hid : e.rowId? = some id)
    (housed : x.housed r) (leaves : x.leaves r) (behind : x.behind r) {store : Store}
    (posts : store.tables.posts = s.tables.posts.filter (·.id ≠ id))
    (documents : store.tables.documents = s.tables.documents) :
    ({ s with store := store } : Session).Filing (x.vacated [r]) c := by
  have kept : ∀ {p}, p ∈ store.tables.posts ↔ p ∈ s.tables.posts ∧ p.id ≠ id := by
    intro p
    rw [posts, List.mem_filter, decide_eq_true_eq]
  refine ⟨h.toRecoverable.of_entities rfl rfl, h.whole, ?_, ?_, ?_, ?_, ?_, h.named, ?_, ?_, h.leaving, ?_⟩
  · show (store.tables.posts.map (·.id)).Nodup
    rw [posts]
    exact h.distinct.sublist (List.filter_sublist.map _)
  · rintro q f hf ⟨housed', other⟩
    obtain ⟨p, hp, hid', known⟩ := h.home q f hf housed'
    refine ⟨p, kept.mpr ⟨hp, fun same => other ?_⟩, hid', known⟩
    exact List.mem_singleton.mpr (h.single q r f e id hf he housed' housed (same ▸ hid') hid)
  · exact fun q f hf housed' => h.standing q f hf housed'.1
  · exact fun q t f g id' hf hg housed' housed'' => h.single q t f g id' hf hg housed'.1 housed''.1
  · intro p hp
    obtain ⟨hp, other⟩ := kept.mp hp
    refine (h.spare p hp).imp_left ?_
    rintro ⟨q, f, hf, housed', hid'⟩
    refine ⟨q, f, hf, ⟨housed', fun mem => other ?_⟩, hid'⟩
    obtain rfl := List.mem_singleton.mp mem
    obtain rfl := he.eq hf
    exact Option.some.inj (hid'.symm.trans hid)
  · intro q f hf mapped
    by_cases same : q = r
    · exact .inr (same ▸ leaves)
    · exact (h.mapped q f hf mapped).imp_left fun housed' =>
        ⟨housed', fun mem => same (List.mem_singleton.mp mem)⟩
  · intro q f hf away stays
    obtain ⟨waits, standing, unset⟩ := h.idle q f hf away stays
    exact ⟨waits, fun housed' => standing housed'.1, unset⟩
  · refine h.indexed.of_documents documents fun id' upToDate => ⟨upToDate, ?_⟩
    have other : id' ≠ id := fun same => upToDate ⟨r, e, he, behind, same ▸ hid⟩
    show store.tables.posts.find? _ = s.tables.posts.find? _
    rw [posts, List.find?_filter]
    congr 1
    funext p
    by_cases same : p.id = id'
    · simp [same, other]
    · simp [same]

/-- The document of a row that was taken out was taken out. -/
theorem Filing.unindex (h : s.Filing x c) (he : s.PostAt r e) (hid : e.rowId? = some id)
    (gone : ∀ p ∈ s.tables.posts, p.id ≠ id) :
    (s.change (·.unindex Kind.post.table id)).Filing (x.caughtUp [r]) c := by
  refine { h with indexed := (h.indexed.unindex (Tables.post?_eq_none.mpr gone)).mono ?_ }
  rintro id' ⟨⟨q, f, hf, behind, hid'⟩, other⟩
  refine ⟨q, f, hf, ⟨behind, fun mem => other ?_⟩, hid'⟩
  obtain rfl := List.mem_singleton.mp mem
  obtain rfl := he.eq hf
  exact Option.some.inj (hid'.symm.trans hid)

/-- Entities of posts have certain keys. -/
def KeyedBy (name : Ref → String) (rs : List Ref) (s : Session) : Prop :=
  ∀ r ∈ rs, ∃ e, s.PostAt r e ∧ e.key? = some (.text (name r))

theorem KeyedBy.reads {name : Ref → String} (h : s.KeyedBy name rs) (reads : s.Reads s') :
    s'.KeyedBy name rs := by
  intro r hr
  obtain ⟨e, he, hkey⟩ := h r hr
  obtain ⟨e', he', ps, reread⟩ := reads.forth he
  exact ⟨e', he', reread.key.trans hkey⟩

namespace Work

variable {J : Session → Prop} {name : Ref → String}

/-- The identifier of an entity with a key is that. -/
theorem value_keyed (h : KeptAside J) (mem : r ∈ rs) :
    Triple (fun s => J s ∧ s.KeyedBy name rs) (value r .id)
      (fun v s => (J s ∧ s.KeyedBy name rs) ∧ v = .text (name r)) fun _ => J := by
  have both := h.and (T := (KeyedBy name rs ·)) fun _ apart keyed => keyed.reads apart.reads
  refine Triple.weaken (value_post both r .id) (fun s hs => ⟨hs, (hs.2 r mem).imp fun _ => And.left⟩)
    ?_ fun _ _ h => h.1
  rintro v s ⟨⟨hs, keyed⟩, e, he, rfl, fresh⟩
  refine ⟨⟨hs, keyed⟩, ?_⟩
  obtain ⟨e', he', hkey⟩ := keyed r mem
  obtain rfl := he.eq he'
  rw [(h.record hs he).held_rowId (Entity.rowId?_of_key hkey) fresh]
  rfl

theorem formerValue_keyed (h : KeptAside J) (mem : r ∈ rs) :
    Triple (fun s => J s ∧ s.KeyedBy name rs) (formerValue r .id)
      (fun v s => (J s ∧ s.KeyedBy name rs) ∧ v = .text (name r)) fun _ => J := by
  refine Triple.look (fun _ hs _ => hs.1) fun s e hs he => ?_
  obtain ⟨e', he', hkey⟩ := hs.2 r mem
  obtain rfl := Option.some.inj (he.symm.trans he'.1)
  obtain ⟨-, unset, held⟩ := (h.record hs.1 he').key _ hkey
  have glance : e.formerCell .id = .known (.text (name r)) ∨ e.formerCell .id = .unread := by
    rw [Entity.formerCell, unset]
    rcases held with held | ⟨unheld, stale⟩
    · rw [held]
      exact .inl rfl
    · rw [unheld]
      exact .inr (if_pos (List.contains_iff_mem.mpr stale))
  rcases glance with known | unread
  · rw [known]
    exact Triple.pure fun s' same => ⟨same ▸ hs, rfl⟩
  · rw [unread]
    exact Triple.weaken (value_keyed h mem) (fun s' same => same ▸ hs) (fun _ _ h => h) fun _ _ h => h

theorem formerValues_keyed (h : KeptAside J) (sub : ∀ r ∈ rs, r ∈ rs') :
    Triple (fun s => J s ∧ s.KeyedBy name rs') (rs.mapM fun r => formerValue r .id)
      (fun vs s => (J s ∧ s.KeyedBy name rs') ∧ vs = rs.map fun r => .text (name r)) fun _ => J := by
  induction rs with
  | nil => exact Triple.pure fun _ hs => ⟨hs, rfl⟩
  | cons r rs ih =>
    rw [List.mapM_cons]
    refine Triple.bind (formerValue_keyed h (sub r List.mem_cons_self)) fun v => ?_
    rintro s ⟨hs, rfl⟩
    refine Triple.bind (ih fun q hq => sub q (List.mem_cons_of_mem r hq)) (fun vs => ?_) s hs
    rintro s ⟨hs, rfl⟩
    exact ⟨hs, rfl⟩

/-- Rows of posts are taken out one after the other. -/
theorem removeEach_post (h : s.Filing x c) (keyed : s.KeyedBy name rs) (once : rs.Nodup)
    (due : ∀ r ∈ rs, x.housed r ∧ x.leaves r ∧ x.behind r) :
    Triple (· = s) ((rs.map fun r => Cell.text (name r)).forM fun id => do
        bind 1 id
        storing fun s => s.remove .post (id.text?.getD ""))
      (fun _ s' => s'.Filing (x.vacated rs) c ∧ s'.entities = s.entities ∧
        ∀ p ∈ s'.tables.posts, p ∈ s.tables.posts ∧ ∀ r ∈ rs, p.id ≠ name r)
      fun _ => Recoverable c := by
  induction rs generalizing s x with
  | nil =>
    rw [Stage.vacated_nil]
    exact Triple.pure fun s' same => ⟨same ▸ h, same ▸ rfl, fun p hp =>
      ⟨same ▸ hp, fun r hr => by cases hr⟩⟩
  | cons r rs ih =>
    rw [List.nodup_cons] at once
    obtain ⟨e, he, hkey⟩ := keyed r List.mem_cons_self
    obtain ⟨housed, leaves, behind⟩ := due r List.mem_cons_self
    rw [List.map_cons]
    refine Triple.bind (Q := fun _ s' => s'.Filing (x.vacated [r]) c ∧ s'.entities = s.entities ∧
      s'.tables.posts = s.tables.posts.filter (·.id ≠ name r)) ?_ fun _ => ?_
    · refine Triple.bind (Q := fun _ => (· = s)) (Triple.pure fun _ same => same) fun _ => ?_
      refine Triple.storing (fun s' same => same ▸ h.whole) fun s' same => ?_
      subst same
      split
      · rename_i store removed
        have posts : store.tables.posts = s'.tables.posts.filter (·.id ≠ name r) ∧
            store.tables.documents = s'.tables.documents := by
          unfold Store.remove at removed
          split at removed <;> obtain rfl := Except.ok.inj removed <;> exact ⟨rfl, rfl⟩
        exact ⟨h.vacate he (Entity.rowId?_of_key hkey) housed leaves behind posts.1 posts.2, rfl, posts.1⟩
      · exact h.toRecoverable
    · rintro s₁ ⟨h₁, entities, posts⟩
      have keyed₁ : s₁.KeyedBy name rs := fun q hq =>
        KeyedBy.reads keyed (reads_of_entities entities) q (List.mem_cons_of_mem r hq)
      have rest := ih h₁ keyed₁ once.2 fun q hq =>
        have ⟨housed, leaves, behind⟩ := due q (List.mem_cons_of_mem r hq)
        ⟨⟨housed, fun mem => once.1 (List.mem_singleton.mp mem ▸ hq)⟩, leaves, behind⟩
      rw [Stage.vacated_vacated] at rest
      refine Triple.weaken rest (fun _ same => same) (fun _ s' done => ?_) (fun _ _ h => h) s₁ rfl
      refine ⟨done.1, done.2.1.trans entities, fun p hp => ?_⟩
      obtain ⟨there, others⟩ := done.2.2 p hp
      rw [posts, List.mem_filter, decide_eq_true_eq] at there
      exact ⟨there.1, List.forall_mem_cons.mpr ⟨there.2, others⟩⟩

/-- The documents of rows that were taken out are taken out. -/
theorem unindexAll_post (sub : ∀ r ∈ rs, r ∈ rs') :
    Triple (fun s => (s.Filing x c ∧ ∀ r ∈ rs', ∀ p ∈ s.tables.posts, p.id ≠ name r) ∧
        s.KeyedBy name rs') (rs.forM unindex)
      (fun _ s => s.Filing (x.caughtUp rs) c) fun _ => Recoverable c := by
  induction rs generalizing x with
  | nil =>
    rw [Stage.caughtUp_nil]
    exact Triple.pure fun _ h => h.1.1
  | cons r rs ih =>
    have aside : ∀ x : Stage, KeptAside fun s => s.Filing x c ∧
        ∀ r ∈ rs', ∀ p ∈ s.tables.posts, p.id ≠ name r := fun x =>
      Filing.keptAside.and fun _ apart gone r hr p hp => gone r hr p (apart.posts ▸ hp)
    have mem := sub r List.mem_cons_self
    have rest := ih (x := x.caughtUp [r]) fun q hq => sub q (List.mem_cons_of_mem r hq)
    rw [Stage.caughtUp_caughtUp] at rest
    refine Triple.bind ?_ fun _ => rest
    refine Triple.bind (Triple.weaken (value_keyed (aside x) mem) (fun _ h => h) (fun _ _ h => h)
      fun _ _ h => h.1.toRecoverable) fun v => ?_
    rintro s ⟨⟨⟨h, gone⟩, keyed⟩, rfl⟩
    obtain ⟨e, he, hkey⟩ := keyed r mem
    have out := h.unindex he (Entity.rowId?_of_key hkey) (gone r mem)
    exact ⟨⟨out.apart (apart_of_entities rfl rfl rfl rfl rfl), gone⟩, keyed⟩

/-- Rows of posts are taken out with their documents. -/
theorem remove_post {pl : Plan} (once : (pl.going .post).Nodup)
    (due : ∀ r ∈ pl.going .post, x.post r ∧ x.housed r ∧ x.leaves r ∧ x.behind r) :
    Triple (Filing x c) (remove .post pl)
      (fun _ s => ∃ rs, rs.Perm (pl.going .post) ∧ s.Filing ((x.vacated rs).caughtUp rs) c)
      fun _ => Recoverable c := by
  refine Triple.bind (Triple.weaken (keeps_inOrder _) (fun _ h => h) (fun _ _ h => h)
    fun _ _ h => h.1.toRecoverable) fun rs s ⟨h, perm⟩ => ?_
  have due := fun r hr => due r (perm.subset hr)
  obtain ⟨name, keyed⟩ : ∃ name, s.KeyedBy name rs := by
    refine ⟨fun r => ((s.entity? r).bind Entity.rowId?).getD "", fun r hr => ?_⟩
    obtain ⟨post, -, leaves, -⟩ := due r hr
    obtain ⟨e, he⟩ := (h.named r).mp post
    obtain ⟨key, hkey⟩ := Option.isSome_iff_exists.mp (h.leaving r e he leaves).1
    obtain ⟨⟨id, rfl⟩, -⟩ := (h.records r e he).key key hkey
    refine ⟨e, he, ?_⟩
    dsimp only
    rw [he.1, Option.bind_some, Entity.rowId?_of_key hkey]
    exact hkey
  refine Triple.bind (Triple.weaken (formerValues_keyed Filing.keptAside fun _ hr => hr)
    (fun _ h => h) (fun _ _ h => h) fun _ _ h => h.toRecoverable) (fun vs => ?_) s ⟨h, keyed⟩
  rintro s ⟨⟨h, keyed⟩, rfl⟩
  refine Triple.guard (P := (· = s)) (fun _ s' same => same ▸ h.toRecoverable) (fun _ => ?_) s rfl
  refine Triple.bind (removeEach_post h keyed (perm.nodup_iff.mpr once) fun r hr => (due r hr).2)
    fun _ s' ⟨h', entities, gone⟩ => ?_
  exact Triple.weaken (unindexAll_post fun _ hr => hr) (fun _ h => h)
    (fun _ _ done => ⟨rs, perm, done⟩) (fun _ _ h => h) s'
    ⟨⟨h', fun r hr p hp => (gone p hp).2 r hr⟩, keyed.reads (reads_of_entities entities)⟩

end Work

/-! ## All tasks -/

section Tasks

variable {ps : List PostRow} {docs : List DocumentRow} {pl pl' : Plan} {N : Ref → Prop}
  {R : List (Ref × Kind × Role)} {left : List Ref}

/-- A stage is about the roles of posts only. -/
theorem Stage.Filed.congr (h : x.Filed N pl left) (fits : pl.Fits N R) (fits' : pl'.Fits N R) :
    x.Filed N pl' left where
  post := h.post
  busy := fun r post => fits.role?_eq fits' post ▸ h.busy r post
  leaves := by
    intro r post
    rw [Plan.goes, ← fits.role?_eq fits' post]
    exact h.leaves r post
  housed := by
    intro r post
    rw [Plan.goes, ← fits.role?_eq fits' post]
    exact h.housed r post
  current := h.current
  stays := by
    intro r post
    rw [Plan.goes, ← fits.role?_eq fits' post]
    exact h.stays r post
  behind := h.behind

/-- When the rows of those that go were taken out, all is done. -/
theorem Stage.Filed.emptied (h : x.Filed N pl left) (perm : rs.Perm left)
    (goes : ∀ r ∈ left, pl.goes r = true) : ((x.vacated rs).caughtUp rs).Filed N pl [] where
  post := h.post
  busy := h.busy
  leaves := h.leaves
  housed := by
    intro r post planned kept
    have stays := kept.resolve_right List.not_mem_nil
    refine ⟨h.housed r post planned (.inl stays), fun out => ?_⟩
    rw [goes r (perm.subset out)] at stays
    cases stays
  current := fun r post ⟨housed, here⟩ => .inl ((h.current r post housed).resolve_right fun out =>
    here (perm.symm.subset out))
  stays := fun r post ⟨housed, here⟩ => .inl ((h.stays r post housed).resolve_right fun out =>
    here (perm.symm.subset out))
  behind := fun r post => ⟨fun ⟨late, here⟩ => absurd (perm.symm.subset ((h.behind r post).mp late)) here,
    fun none => absurd none List.not_mem_nil⟩

namespace Work

/-- All tasks are carried out. -/
theorem performAll_post (h : Minding s₀ ps c docs pl s) (named : ∀ r, N r ↔ ∃ e, s.PostAt r e) :
    Triple (· = s) (pl.tasks.foldlM (perform now) ⟨pl, []⟩)
      (fun done s' => (∃ x, s'.Filing x c ∧ x.Filed N done.plan []) ∧ ∃ R, done.plan.Fits N R)
      fun _ => Recoverable c := by
  obtain ⟨R, fits, none⟩ := h.fits named
  have aside : KeptByTasks N fun s => Minding s₀ ps c docs pl s ∧ ∀ r, N r ↔ ∃ e, s.PostAt r e :=
    keptByTasks_minding
  by_cases planned : .post ∈ pl.kinds
  · have related : ∀ x ∈ (pl.strands.filter Strand.takesPart).map fun x => (x.kind, x.rel),
        x.2 ∈ x.1.relations := by
      intro x hx
      obtain ⟨y, hy, rfl⟩ := List.mem_map.mp hx
      exact h.minds.related y (List.mem_filter.mp hy).1
    obtain ⟨before, between, after, order, others⟩ := Task.exists_split planned related
    rw [List.forall_mem_append, List.forall_mem_append] at others
    obtain ⟨⟨others₁, others₂⟩, others₃⟩ := others
    rw [Plan.tasks, order, List.foldlM_append]
    refine Triple.bind (Triple.weaken (aside.performAll now fits (.inr others₁))
      (fun _ same => same ▸ ⟨h, named⟩) (fun _ _ h => h) fun _ _ h => h.1.1.toRecoverable) fun done₁ => ?_
    rintro s₁ ⟨hs₁, fits₁⟩
    rw [List.foldlM_cons]
    refine Triple.bind (Q := fun done s => (∃ x, s.Filing x c ∧ x.Filed N done.plan (done.plan.going .post)) ∧
      ∃ R', done.plan.Fits N R') (Triple.bind (save_post fits fits₁) fun pl' =>
        Triple.pure fun _ h => h) (fun done₂ => ?_) s₁ hs₁
    rintro s₂ ⟨⟨x, h₂, filed⟩, R', fits₂⟩
    obtain rfl := filed.post
    rw [List.foldlM_append]
    refine Triple.bind (Triple.weaken (Filing.keptByTasks.performAll now fits₂ (.inr others₂))
      (fun _ h => h) (fun _ _ h => h) fun _ _ h => h.1.toRecoverable) (fun done₃ => ?_) s₂ h₂
    rintro s₃ ⟨h₃, fits₃⟩
    have filed₃ : x.Filed x.post done₃.plan (done₃.plan.going .post) := by
      have filed := filed.congr fits₂ fits₃
      rwa [Plan.going, fits₂.having_post, ← fits₃.having_post] at filed
    have goes : ∀ r ∈ done₃.plan.going .post, x.post r ∧ done₃.plan.role? r = some ⟨true, false⟩ :=
      fun r hr => fits₃.mem_having_post.mp hr
    have isGoing : ∀ r ∈ done₃.plan.going .post, done₃.plan.goes r = true :=
      fun r hr => Plan.goes_iff.mpr ⟨_, (goes r hr).2, rfl⟩
    rw [List.foldlM_cons]
    refine Triple.bind (Q := fun done s => done = done₃ ∧ ∃ rs, rs.Perm (done₃.plan.going .post) ∧
      s.Filing ((x.vacated rs).caughtUp rs) c) (Triple.bind (remove_post ?_ fun r hr => ?_) fun _ =>
        Triple.pure fun _ h => ⟨rfl, h⟩) (fun done₄ => ?_) s₃ h₃
    · exact fits₃.once.sublist (List.filter_sublist.map _)
    · obtain ⟨post, role⟩ := goes r hr
      exact ⟨post, filed₃.housed r post (by rw [role]; rfl) (.inr hr),
        (filed₃.leaves r post).mpr (isGoing r hr), (filed₃.behind r post).mpr hr⟩
    · rintro s₄ ⟨rfl, rs, perm, h₄⟩
      have rest := (Filing.keptByTasks (x := (x.vacated rs).caughtUp rs) (c := c)).performAll now fits₃
        (.inr others₃)
      refine Triple.weaken rest (fun _ same => same) ?_ (fun _ _ h => h.1.toRecoverable) s₄ h₄
      intro done₅ s₅ done
      obtain ⟨h₅, fits₅⟩ := done
      exact ⟨⟨_, h₅, (filed₃.emptied perm isGoing).congr fits₃ fits₅⟩, _, fits₅⟩
  · -- No post takes part.
    obtain rfl := none planned
    refine Triple.weaken (aside.performAll now fits (.inl rfl))
      (fun _ same => same ▸ ⟨h, named⟩) ?_ fun _ _ h => h.1.1.toRecoverable
    rintro done s' ⟨⟨h, named⟩, fits'⟩
    have free : ∀ {r role}, N r → pl.role? r ≠ some role := fun post known => by
      have mem := (fits.role?_eq_some post).mp known
      cases mem
    have sorted : Sorted pl pl [] [] [] s' := ⟨.nil, fun _ h => (by cases h), fun _ h => (by cases h),
      fun _ => rfl, fun _ => .inl rfl, fun fits => ⟨_, fits⟩⟩
    have staying : ∀ r e, s'.PostAt r e → (r ∈ [] ↔ pl.role? r = some ⟨false, false⟩) :=
      fun r e he => ⟨fun h => (by cases h), fun known => absurd known (free ((named r).mpr ⟨e, he⟩))⟩
    have filed := sorted.filed h (fun _ _ _ => rfl) staying named fits
    rw [List.append_nil, Stage.reached_nil, Stage.entered_nil, Stage.caughtUp_nil, Plan.going,
      fits.having_post] at filed
    exact ⟨⟨_, sorted.filing h (fun _ _ _ => rfl) staying, filed.congr fits fits'⟩, [], fits'⟩

end Work

end Tasks

end Session

end Weblog
