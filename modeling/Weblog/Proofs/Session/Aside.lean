/-
  Tasks of a flush that leave posts alone.

  Rows of other kinds are written and taken out, and relations carried over, without a change to the
  rows, the documents or the entities of posts but for what these read: whatever such work keeps is
  kept by all tasks but the two that write posts and take them out (`KeptByTasks.perform`). Of those
  two the one that writes comes first, however many relations take part (`Task.exists_split`).
-/
import Mathlib.Data.Finset.Max
import Weblog.Proofs.Session.Minding
import Weblog.Proofs.Session.Tasks
import Weblog.Proofs.Store.References

namespace Weblog

/-! ## The order of tasks -/

namespace Task

variable {k : Kind} {rel : Relation} {order : List (Task × Task)} {tasks : List Task} {n : Nat}
  {t u : Task}

/-- How far back a task stands: it comes behind all those that stand further in front. -/
def depth : Task → Nat
  | .relate _ _ true => 0
  | .save .user => 1
  | .relate k rel false => if k = .user ∨ rel = .user then 2 else 4
  | .save .comment => 5
  | .save _ => 3
  | .remove .comment => 6
  | .remove .user => 8
  | .remove _ => 7

theorem depth_lt_of_kind : ∀ o ∈ orderOfKind k, depth o.1 < depth o.2 := by
  cases k <;> decide

theorem depth_lt_of_relation (h : rel ∈ k.relations) :
    ∀ o ∈ orderOfRelation k rel, depth o.1 < depth o.2 := by
  have all : ∀ k : Kind, ∀ rel ∈ k.relations, ∀ o ∈ orderOfRelation k rel, depth o.1 < depth o.2 := by
    intro k
    cases k <;> decide
  exact all k rel h

/-- Every task is done once: one of those that stand in front waits for none of the rest. -/
theorem arrange_perm (forward : ∀ o ∈ order, depth o.1 < depth o.2) (enough : tasks.length ≤ n) :
    (arrange order n tasks).Perm tasks := by
  induction n generalizing tasks with
  | zero =>
    rw [List.length_eq_zero_iff.mp (Nat.le_zero.mp enough)]
    exact .nil
  | succ n ih =>
    cases tasks with
    | nil => exact ih (Nat.zero_le n)
    | cons t tasks =>
      unfold arrange
      dsimp only
      generalize hall : t :: tasks = all at enough
      obtain ⟨first, there, front⟩ := all.toFinset.exists_min_image depth
        ⟨t, List.mem_toFinset.mpr (hall ▸ List.mem_cons_self)⟩
      have there := List.mem_toFinset.mp there
      have free : ¬(order.any fun o => o.2 = first && all.contains o.1) = true := by
        simp only [List.any_eq_true, Bool.and_eq_true, decide_eq_true_eq, List.contains_iff_mem]
        rintro ⟨o, ho, rfl, waits⟩
        exact absurd (forward o ho) (Nat.not_lt.mpr (front o.1 (List.mem_toFinset.mpr waits)))
      have fewer : (all.filter fun t => order.any fun o => o.2 = t && all.contains o.1).length ≤ n := by
        refine Nat.le_of_lt_succ (Nat.lt_of_lt_of_le ?_ enough)
        exact List.length_filter_lt_length_iff_exists.mpr ⟨first, there, free⟩
      refine ((ih fewer).append_left _).trans (List.perm_append_comm.trans ?_)
      exact List.filter_append_perm _ all

theorem mem_of_arrange (h : t ∈ arrange order n tasks) : t ∈ tasks := by
  induction n generalizing tasks with
  | zero => cases h
  | succ n ih =>
    rcases List.mem_append.mp h with free | waiting
    · exact List.mem_of_mem_filter free
    · exact List.mem_of_mem_filter (ih waiting)

/-- No task is done before one that it waits for. -/
theorem arrange_pairwise : (arrange order n tasks).Pairwise fun t u => (u, t) ∉ order := by
  induction n generalizing tasks with
  | zero => exact .nil
  | succ n ih =>
    have free : ∀ t ∈ tasks.filter (fun t => !order.any fun o => o.2 = t && tasks.contains o.1),
        ∀ u ∈ tasks, (u, t) ∉ order := by
      intro t ht u hu before
      have waits := (List.mem_filter.mp ht).2
      rw [Bool.not_eq_true', List.any_eq_false] at waits
      exact waits _ before (by simpa using hu)
    refine List.pairwise_append.mpr ⟨?_, ih, fun t ht u hu => free t ht u ?_⟩
    · exact List.pairwise_of_forall_mem_list fun t ht u hu => free t ht u (List.mem_of_mem_filter hu)
    · exact List.mem_of_mem_filter (mem_of_arrange hu)

variable {kinds : List Kind} {relations : List (Kind × Relation)}

/-- Of the tasks of a kind, the one that writes comes before the one that takes out. -/
theorem exists_split (known : k ∈ kinds) (related : ∀ x ∈ relations, x.2 ∈ x.1.relations) :
    ∃ before between after, schedule kinds relations =
        before ++ .save k :: (between ++ .remove k :: after) ∧
      ∀ t ∈ before ++ between ++ after, t ≠ .save k ∧ t ≠ .remove k := by
  unfold schedule
  dsimp only
  generalize horder : kinds.flatMap orderOfKind ++ relations.flatMap (fun x =>
    orderOfRelation x.1 x.2) = order
  generalize htasks : (((kinds.flatMap fun k => [Task.save k, .remove k]) ++ relations.flatMap fun x =>
    ofRelation x.1 x.2).eraseDups.mergeSort fun a b => a.rank ≤ b.rank) = tasks
  have forward : ∀ o ∈ order, depth o.1 < depth o.2 := by
    intro o ho
    rw [← horder, List.mem_append, List.mem_flatMap, List.mem_flatMap] at ho
    rcases ho with ⟨k, -, ho⟩ | ⟨x, hx, ho⟩
    · exact depth_lt_of_kind o ho
    · exact depth_lt_of_relation (related x hx) o ho
  have perm : (arrange order tasks.length tasks).Perm tasks := arrange_perm forward (Nat.le_refl _)
  have once : (arrange order tasks.length tasks).Nodup := by
    rw [perm.nodup_iff, ← htasks, (List.mergeSort_perm ..).nodup_iff]
    exact Tables.nodup_eraseDups _
  have there : ∀ t ∈ [Task.save k, .remove k], t ∈ arrange order tasks.length tasks := by
    intro t ht
    rw [perm.mem_iff, ← htasks, List.mem_mergeSort, List.mem_eraseDups]
    exact List.mem_append_left _ (List.mem_flatMap.mpr ⟨k, known, ht⟩)
  have inOrder : (Task.save k, Task.remove k) ∈ order := by
    rw [← horder]
    exact List.mem_append_left _ (List.mem_flatMap.mpr ⟨k, known, List.mem_singleton.mpr rfl⟩)
  have ordered : (arrange order tasks.length tasks).Pairwise fun t u => (u, t) ∉ order :=
    arrange_pairwise
  generalize arrange order tasks.length tasks = all at once there ordered
  obtain ⟨before, rest, rfl⟩ := List.append_of_mem (there (.save k) (by simp))
  have later : Task.remove k ∈ rest := by
    have here := there (.remove k) (by simp)
    rw [List.mem_append, List.mem_cons] at here
    rcases here with early | same | later
    · exact absurd inOrder ((List.pairwise_append.mp ordered).2.2 _ early _ List.mem_cons_self)
    · cases same
    · exact later
  obtain ⟨between, after, rfl⟩ := List.append_of_mem later
  refine ⟨before, between, after, rfl, fun t ht => ?_⟩
  simp only [List.nodup_append, List.nodup_cons, List.mem_append, List.mem_cons] at once ht
  constructor
  · rintro rfl
    grind
  · rintro rfl
    grind

end Task

/-! ## Rows of other kinds -/

/-- The posts and the documents of some tables are those of others. -/
def Tables.KeepsPosts (t t' : Tables) : Prop := t'.posts = t.posts ∧ t'.documents = t.documents

namespace Store

variable {s s' : Store} {row : Row} {k : Kind} {key : String}

theorem keepsPosts_replace (other : row.kind ≠ .post) (h : s.replace key row = .ok s') :
    s.tables.KeepsPosts s'.tables := by
  unfold replace at h
  split at h
  · cases h
  · split at h
    · obtain rfl := Except.ok.inj h
      cases row with
      | post p => exact absurd rfl other
      | _ => exact ⟨rfl, rfl⟩
    · cases h

theorem keepsPosts_insertUnchecked (other : row.kind ≠ .post) (h : s.insertUnchecked row = .ok s') :
    s.tables.KeepsPosts s'.tables := by
  unfold insertUnchecked at h
  split at h
  · cases h
  · obtain rfl := Except.ok.inj h
    cases row with
    | post p => exact absurd rfl other
    | _ => exact ⟨rfl, rfl⟩

theorem keepsPosts_remove (other : k ≠ .post) (h : s.remove k key = .ok s') :
    s.tables.KeepsPosts s'.tables := by
  unfold remove at h
  split at h
  · obtain rfl := Except.ok.inj h
    cases k with
    | post => exact absurd rfl other
    | _ => exact ⟨rfl, rfl⟩
  · split at h
    · split at h
      · obtain rfl := Except.ok.inj h
        exact ⟨rfl, rfl⟩
      · cases h
    · exact absurd rfl other
    · obtain rfl := Except.ok.inj h
      exact ⟨rfl, rfl⟩
    · obtain rfl := Except.ok.inj h
      exact ⟨rfl, rfl⟩

end Store

theorem Tables.KeepsPosts.trans {t t' t'' : Tables} (h : t.KeepsPosts t') (h' : t'.KeepsPosts t'') :
    t.KeepsPosts t'' := ⟨h'.1.trans h.1, h'.2.trans h.2⟩

theorem Row.kind_of_overlaid {row row' : Row} {cs : List (Column × Cell)}
    (h : row.overlaid cs = .ok row') : row'.kind = row.kind := (cell_of_ofCells h).1

namespace Session

variable {s s' s₀ : Session} {r q : Ref} {e f : Entity} {k : Kind} {row : Row} {p p' : Plan}
  {now : Instant} {N : Ref → Prop} {R : List (Ref × Kind × Role)} {J : Session → Prop}

/-! ## Plans with the roles of posts -/

namespace Plan

/-- A plan with certain roles of posts, of which the numbers are known. -/
structure Fits (N : Ref → Prop) (R : List (Ref × Kind × Role)) (p : Plan) : Prop where
  once : (p.roles.map Prod.fst).Nodup
  kinds : ∀ x ∈ p.roles, x.2.1 = .post ↔ N x.1
  posts : p.roles.filter (fun x => x.2.1 = .post) = R

/-- Giving an entity another role changes no more than that. -/
theorem Fits.exists_setRole (h : p.Fits N R) (q : Ref) (role : Role) :
    ∃ R', (p.setRole q role).Fits N R' := by
  refine ⟨_, (p.refs_setRole q role).symm ▸ h.once, fun x hx => ?_, rfl⟩
  obtain ⟨y, hy, ref, kind⟩ := mem_roles_setRole hx
  rw [← ref, ← kind]
  exact h.kinds y hy

theorem Fits.setRole (h : p.Fits N R) (other : ¬N q) (role : Role) : (p.setRole q role).Fits N R := by
  obtain ⟨R', once, kinds, -⟩ := h.exists_setRole q role
  refine ⟨once, kinds, ?_⟩
  rw [← h.posts, Plan.setRole, List.filter_map]
  have same : ∀ x ∈ p.roles.filter fun x => x.2.1 = .post,
      (if x.1 = q then (x.1, x.2.1, role) else x) = x := by
    intro x hx
    obtain ⟨mem, post⟩ := List.mem_filter.mp hx
    refine if_neg fun here => other ?_
    exact here ▸ (h.kinds x mem).mp (of_decide_eq_true post)
  refine Eq.trans ?_ ((List.map_congr_left same).trans (List.map_id' _))
  congr 1
  refine List.filter_congr fun x _ => ?_
  rw [Function.comp_apply]
  split <;> rfl

/-- The role of the entity of a post can be told from the roles of posts. -/
theorem Fits.role?_eq_some (h : p.Fits N R) (post : N r) {role : Role} :
    p.role? r = some role ↔ (r, .post, role) ∈ R := by
  have mem : ∀ k role, p.roles.lookup r = some (k, role) → (r, k, role) ∈ p.roles :=
    fun k role found => Entity.mem_of_lookup found
  rw [← h.posts, List.mem_filter, role?, Option.map_eq_some_iff]
  constructor
  · rintro ⟨⟨k, role'⟩, found, rfl⟩
    obtain rfl : k = .post := (h.kinds _ (mem k role' found)).mpr post
    exact ⟨mem _ role' found, decide_eq_true rfl⟩
  · rintro ⟨here, -⟩
    obtain ⟨⟨k, role'⟩, found⟩ := Option.isSome_iff_exists.mp
      (List.lookup_isSome_iff.mpr ⟨_, here, beq_self_eq_true r⟩)
    have same := List.inj_on_of_nodup_map h.once (mem k role' found) here rfl
    exact ⟨(k, role'), found, congrArg (fun x => x.2.2) same⟩

theorem Fits.role?_eq {p' : Plan} (h : p.Fits N R) (h' : p'.Fits N R) (post : N r) :
    p.role? r = p'.role? r := by
  ext role
  exact (h.role?_eq_some post).trans (h'.role?_eq_some post).symm

/-- The entities of posts with a role can be told from the roles of posts. -/
theorem Fits.having_post (h : p.Fits N R) (role : Role) :
    p.having .post role = (R.filter fun x => x.2.2 = role).map Prod.fst := by
  rw [having, ← h.posts, List.filter_filter]
  congr 2
  funext x
  rw [Bool.and_comm]

theorem Fits.mem_having_post (h : p.Fits N R) {role : Role} :
    r ∈ p.having .post role ↔ N r ∧ p.role? r = some role := by
  rw [h.having_post, List.mem_map]
  constructor
  · rintro ⟨⟨r, k, role'⟩, having, rfl⟩
    obtain ⟨mem, same⟩ := List.mem_filter.mp having
    obtain ⟨planned, kind⟩ := List.mem_filter.mp (h.posts.symm ▸ mem : _ ∈ p.roles.filter _)
    obtain rfl : role' = role := of_decide_eq_true same
    obtain rfl : k = .post := of_decide_eq_true kind
    have post := (h.kinds _ planned).mp rfl
    exact ⟨post, (h.role?_eq_some post).mpr mem⟩
  · rintro ⟨post, known⟩
    exact ⟨_, List.mem_filter.mpr ⟨(h.role?_eq_some post).mp known, decide_eq_true rfl⟩, rfl⟩

theorem Fits.having_other (h : p.Fits N R) (other : k ≠ .post) (role : Role) (hr : r ∈ p.having k role) :
    ¬N r := by
  obtain ⟨x, hx, rfl⟩ := List.mem_map.mp hr
  obtain ⟨mem, same⟩ := List.mem_filter.mp hx
  rw [Bool.and_eq_true, decide_eq_true_eq] at same
  exact fun post => other (same.1 ▸ (h.kinds x mem).mpr post)

end Plan

namespace Work

/-- Rows of another kind that are put in one after the other. -/
theorem keepsPosts_insertEach (other : k ≠ .post) (xs : List Addition) (done result : List Row × Store)
    (h : xs.foldlM (fun (done : List Row × Store) x => do
      let row ← x.row k
      return (done.1 ++ [row], ← done.2.insertUnchecked row)) done = .ok result) :
    done.2.tables.KeepsPosts result.2.tables := by
  induction xs generalizing done with
  | nil =>
    obtain rfl := Except.ok.inj h
    exact ⟨rfl, rfl⟩
  | cons x xs ih =>
    rw [List.foldlM_cons] at h
    obtain ⟨next, hnext, h⟩ := bind_eq_ok.mp h
    obtain ⟨row, hrow, hnext⟩ := bind_eq_ok.mp hnext
    obtain ⟨store, hstore, hnext⟩ := bind_eq_ok.mp hnext
    obtain rfl := Except.ok.inj hnext
    refine Tables.KeepsPosts.trans ?_ (ih _ h)
    exact Store.keepsPosts_insertUnchecked ((Row.cell_of_ofCells hrow).1 ▸ other) hstore

/-- The time of a change is held, unless another one was given. -/
theorem KeptAside.timed (h : KeptAside J) (now : Instant) (k : Kind) (xs : List Revision) :
    Keeps J (xs.forM fun x => Work.alter x.ref fun e =>
      if k.columns.contains .updatedAt && (x.cells.lookup .updatedAt).isNone then
        { e.hold .updatedAt (.time (.ofInstant now)) with
          formerCells := without e.formerCells [.updatedAt] }
      else e) fun _ => True := by
  refine Keeps.forM fun x _ => h.alter fun _ _ e _ => ?_
  split
  · exact ⟨rfl, fun _ => e.reread_timed (by decide) _⟩
  · exact ⟨rfl, fun _ => .refl _ e⟩

/-- A property of sessions that is kept by what is done aside from posts, and that knows which
entities those of posts are. -/
structure KeptByTasks (N : Ref → Prop) (J : Session → Prop) : Prop extends KeptAside J where
  named : ∀ {s r e}, J s → s.entity? r = some e → (e.kind = .post ↔ N r)

namespace KeptByTasks

variable (h : KeptByTasks N J)

include h

theorem storing {g : Store → Except Constraint Store}
    (same : ∀ store store', g store = .ok store' → store.tables.KeepsPosts store'.tables) :
    Keeps J (Work.storing g) fun _ => True :=
  h.toKeptAside.storing same

/-- An entity that is none of a post may change. -/
theorem alterOther (other : ¬N r) {g : Entity → Entity} (hg : ∀ e, (g e).kind = e.kind) :
    Keeps J (alter r g) fun _ => True :=
  h.alter fun _ hs e he => ⟨hg e, fun post => absurd ((h.named hs he).mp post) other⟩

/-! ### Writing -/

theorem revision? (r : Ref) : Keeps J (revision? r) fun _ => True := by
  refine Keeps.bind (keeps_look r) fun e _ => ?_
  refine Keeps.ite (fun _ => Keeps.pure trivial) fun _ => ?_
  refine Keeps.bind (h.reviving.value r .id) fun id _ => ?_
  exact Keeps.guard rfl fun _ => Keeps.pure trivial

theorem revise (other : k ≠ .post) (x : Revision) (cells : Cells) :
    Keeps J (revise k x cells) fun _ => True := by
  refine Keeps.bind (keeps_bindFrom 1 _) fun _ _ => Keeps.bind Keeps.reaching fun s _ => ?_
  split
  · exact Keeps.pure trivial
  · rename_i row found
    obtain ⟨id, -, found⟩ := Option.bind_eq_some_iff.mp found
    have kind : row.kind ≠ .post := Tables.kind_of_mem (Tables.mem_of_row? found) ▸ other
    refine Keeps.bind (h.storing fun store store' stored => ?_) fun _ _ => Keeps.pure trivial
    obtain ⟨row', overlaid, stored⟩ := bind_eq_ok.mp stored
    exact Store.keepsPosts_replace (Row.kind_of_overlaid overlaid ▸ kind) stored

theorem reviseAll (now : Instant) (other : k ≠ .post) (xs : List Revision) :
    Keeps J (reviseAll now k xs) fun _ => True := by
  refine Keeps.bind (Keeps.forM fun x _ => keeps_fitting x.cells) fun _ _ => ?_
  refine Keeps.bind (Keeps.mapM_all (R := fun _ => True) fun x _ => h.revise other x _) fun _ _ => ?_
  exact Keeps.guard rfl fun _ => h.timed now k xs

theorem reviseRest (now : Instant) (other : k ≠ .post) (ready : List Revision) (rs : List Ref) :
    Keeps J (reviseRest now k ready rs) fun _ => True := by
  induction rs generalizing ready with
  | nil =>
    cases ready with
    | nil => exact Keeps.pure trivial
    | cons x ready => exact h.reviseAll now other _
  | cons r rs ih =>
    rw [Work.reviseRest]
    refine Keeps.bind (h.revision? r) fun o _ => ?_
    cases o with
    | none => exact ih ready
    | some x =>
      refine Keeps.ite (fun _ => ih _) fun _ => ?_
      exact Keeps.bind (h.reviseAll now other ready) fun _ _ => ih _

theorem fillIn (now : Instant) (r : Ref) : Keeps J (fillIn now r) fun x => x.ref = r := by
  refine Keeps.bind (keeps_look r) fun e _ => Keeps.bind Keeps.get fun s hs => ?_
  refine Keeps.ite (fun _ => ?_) fun _ => Keeps.pure rfl
  refine Keeps.bind (Keeps.set ?_) fun _ _ => Keeps.pure rfl
  exact h.apart hs (apart_of_entities rfl rfl rfl rfl rfl)

theorem insert (other : k ≠ .post) (xs : List Addition) : Keeps J (insert k xs) fun _ => True := by
  refine Keeps.bind (keeps_bindFrom 1 _) fun _ _ => h.storing fun store store' stored => ?_
  obtain ⟨done, hdone, stored⟩ := bind_eq_ok.mp stored
  have same : done.2 = store' := by
    dsimp only at stored
    split at stored
    · exact Except.ok.inj stored
    · cases stored
  rw [← same]
  exact keepsPosts_insertEach other xs (([] : List Row), store) done hdone

theorem insertAll (now : Instant) (other : k ≠ .post) {rs : List Ref} (others : ∀ r ∈ rs, ¬N r) :
    Keeps J (insertAll now k rs) fun _ => True := by
  refine Keeps.bind (Keeps.mapM fun r _ => h.fillIn now r) fun xs hxs => ?_
  refine Keeps.bind (Keeps.forM fun x _ => keeps_fitting x.cells) fun _ _ => ?_
  have filled : Keeps J (xs.forM fun x => alter x.ref fun e =>
      { e with
        cells := x.cells.filter (fun y => x.filled.contains y.1) ++ without e.cells x.filled
        formerCells := without e.formerCells x.filled }) fun _ => True :=
    Keeps.forM fun x hx => by
      obtain ⟨r, hr, same⟩ := hxs x hx
      exact h.alterOther (same ▸ others r hr) fun _ => rfl
  refine Keeps.ite (fun _ => ?_) fun _ => ?_
  · exact Keeps.bind (h.insert other xs) fun _ _ => filled
  · exact Keeps.bind (Keeps.forM fun x _ => h.insert other [x]) fun _ _ => filled

/-! ### Rows of a kind -/

theorem takesOver (other : k ≠ .post) (hp : p.Fits N R) (r : Ref) :
    Keeps J (takesOver p k r) fun o => ∀ p' ∈ o, p'.Fits N R := by
  refine Keeps.bind (keeps_look r) fun e _ => Keeps.readied (h.reviving.revive r) ?_
  refine Keeps.bind (keeps_look r) fun e _ => ?_
  split
  · exact Keeps.pure fun _ h => by cases h
  · rename_i id _
    have found : Keeps J (mapped? k id) fun o => ∀ q ∈ o, ¬N q := by
      refine Triple.weaken (h.entity k id fun post => absurd post other) (fun _ h => h)
        (fun o s ⟨hs, here⟩ => ⟨hs, fun q hq post => ?_⟩) fun _ _ h => h
      obtain ⟨e, he, here⟩ := here q hq
      exact other ((kind_of_isAt here).symm.trans ((h.named hs he).mpr post))
    refine Keeps.bind found fun o ho => ?_
    split
    · exact Keeps.pure fun _ h => by cases h
    · rename_i q
      refine Keeps.pure fun p' h => ?_
      split at h
      · cases h
        exact hp.setRole (ho q rfl) _
      · cases h

theorem sortOut (other : k ≠ .post) (hp : p.Fits N R) {rs : List Ref} (others : ∀ r ∈ rs, ¬N r) :
    Keeps J (sortOut k p rs) fun x => x.1.Fits N R ∧ ∀ r ∈ x.2.1, ¬N r := by
  induction rs generalizing p with
  | nil => exact Keeps.pure ⟨hp, fun _ h => by cases h⟩
  | cons r rs ih =>
    have rest : ∀ q ∈ rs, ¬N q := fun q hq => others q (List.mem_cons_of_mem r hq)
    refine Keeps.bind (keeps_look r) fun e _ => ?_
    refine Keeps.ite (fun _ => ?_) fun _ => ?_
    · exact Keeps.bind (ih hp rest) fun x hx => Keeps.pure hx
    · refine Keeps.bind (h.takesOver other hp r) fun o ho => ?_
      split
      · rename_i p'
        exact Keeps.bind (ih (ho p' rfl) rest) fun x hx => Keeps.pure hx
      · refine Keeps.bind (ih hp rest) fun x hx => Keeps.pure ⟨hx.1, ?_⟩
        exact List.forall_mem_cons.mpr ⟨others r List.mem_cons_self, hx.2⟩

theorem save (now : Instant) (other : k ≠ .post) (hp : p.Fits N R) :
    Keeps J (save now k p) fun p' => p'.Fits N R := by
  refine Keeps.bind (keeps_inOrder _) fun rs hrs => ?_
  refine Keeps.bind (h.sortOut other hp fun r hr => hp.having_other other _ (hrs.subset hr))
    fun x ⟨hp', new⟩ => ?_
  refine Keeps.bind (h.reviseRest now other [] _) fun _ _ => Keeps.bind Keeps.get fun s _ => ?_
  refine Keeps.bind (Keeps.forM fun rs hrs => h.insertAll now other fun r hr => new r ?_) fun _ _ => ?_
  · have mem := List.mem_flatten_of_mem hrs hr
    rwa [List.flatten_splitBy] at mem
  · rw [if_neg other]
    exact Keeps.pure hp'

theorem remove (other : k ≠ .post) (p : Plan) : Keeps J (remove k p) fun _ => True := by
  refine Keeps.bind (keeps_inOrder _) fun rs _ => ?_
  refine Keeps.bind (Keeps.mapM_all (R := fun _ => True) fun r _ =>
    h.reviving.formerValue r .id) fun ids _ => ?_
  refine Keeps.guard rfl fun _ => ?_
  refine Keeps.bind (Keeps.forM fun id _ => ?_) fun _ _ => ?_
  · exact Keeps.bind (Keeps.bindCell 1 id) fun _ _ => h.storing fun _ _ removed =>
      Store.keepsPosts_remove other removed
  · rw [if_neg other]
    exact Keeps.pure trivial

/-! ### Tasks -/

/-- A task that is none of those that write posts and take them out, or for which no post is planned. -/
theorem perform (now : Instant) {done : Progress} (hp : done.plan.Fits N R) {t : Task}
    (aside : R = [] ∨ t ≠ .save .post ∧ t ≠ .remove .post) :
    Keeps J (perform now done t) fun done' => done'.plan.Fits N R := by
  have idle : ∀ role, R = [] → done.plan.having .post role = [] := by
    rintro role rfl
    exact hp.having_post role
  cases t with
  | save k =>
    by_cases post : k = .post
    · subst post
      rw [Work.perform, save_nil (idle _ (aside.resolve_right fun other => other.1 rfl))]
      exact Keeps.pure hp
    · exact Keeps.bind (h.save now post hp) fun p' hp' => Keeps.pure hp'
  | remove k =>
    by_cases post : k = .post
    · subst post
      rw [Work.perform, remove_nil (idle _ (aside.resolve_right fun other => other.2 rfl))]
      exact Keeps.pure hp
    · exact Keeps.bind (h.remove post done.plan) fun _ _ => Keeps.pure hp
  | relate k rel going =>
    refine (h.linking.relateAll k rel going done).weaken fun done' same => ?_
    rw [same]
    exact hp

theorem performAll (now : Instant) {done : Progress} (hp : done.plan.Fits N R) {ts : List Task}
    (aside : R = [] ∨ ∀ t ∈ ts, t ≠ .save .post ∧ t ≠ .remove .post) :
    Keeps J (ts.foldlM (Work.perform now) done) fun done' => done'.plan.Fits N R :=
  Keeps.foldlM hp fun t ht _ hp => h.perform now hp (aside.imp_right fun others => others t ht)

end KeptByTasks

end Work

end Session

end Weblog
