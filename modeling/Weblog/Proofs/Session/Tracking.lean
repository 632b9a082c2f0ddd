/-
  Sessions that keep track of posts.

  Much of what is done in a session does nothing to posts: it leaves their rows and documents as they
  are, and of their entities it changes no more than reading does (`Session.Apart`). A property that
  such work keeps is kept by all reading of values (`KeptAside`), and, if the entities of rows may
  join, by all reading (`KeptByTaking`).
-/
import Weblog.Proofs.Session.Record

namespace Weblog.Session

variable {s s' : Session} {r q : Ref} {e e' f : Entity} {k : Kind} {row : Row} {p : PostRow}

/-! ## Entities of posts -/

/-- An entity of a post. -/
def PostAt (s : Session) (r : Ref) (e : Entity) : Prop := s.entity? r = some e ∧ e.kind = .post

theorem PostAt.eq (h : s.PostAt r e) (h' : s.PostAt r f) : e = f :=
  Option.some.inj (h.1.symm.trans h'.1)

/-- The entities are those of a session before, and those of posts changed in some way. -/
structure Altered (R : Entity → Entity → Prop) (s s' : Session) : Prop where
  length : s'.entities.length = s.entities.length
  entities : ∀ r e, s.entity? r = some e → ∃ e', s'.entity? r = some e' ∧ e'.kind = e.kind ∧
    (e.kind = .post → R e e')

namespace Altered

variable {R : Entity → Entity → Prop}

theorem forth (h : Altered R s s') (he : s.PostAt r e) : ∃ e', s'.PostAt r e' ∧ R e e' := by
  obtain ⟨e', he', kind, change⟩ := h.entities r e he.1
  exact ⟨e', ⟨he', kind.trans he.2⟩, change he.2⟩

theorem origin (h : Altered R s s') (he' : s'.entity? r = some e') :
    ∃ e, s.entity? r = some e ∧ e'.kind = e.kind ∧ (e.kind = .post → R e e') := by
  obtain ⟨bound, -⟩ := List.getElem?_eq_some_iff.mp he'
  rw [h.length] at bound
  have he : s.entity? r = some s.entities[r] := List.getElem?_eq_getElem bound
  obtain ⟨e₁, he₁, changed⟩ := h.entities r _ he
  obtain rfl := Option.some.inj (he₁.symm.trans he')
  exact ⟨_, he, changed⟩

theorem back (h : Altered R s s') (he' : s'.PostAt r e') : ∃ e, s.PostAt r e ∧ R e e' := by
  obtain ⟨e, he, kind, change⟩ := h.origin he'.1
  have post := kind.symm.trans he'.2
  exact ⟨e, ⟨he, post⟩, change post⟩

theorem refl (hR : ∀ e, R e e) (s : Session) : Altered R s s :=
  ⟨rfl, fun _ e he => ⟨e, he, rfl, fun _ => hR e⟩⟩

theorem of_entities (hR : ∀ e, R e e) (same : s'.entities = s.entities) : Altered R s s' := by
  refine ⟨congrArg List.length same, fun r e he => ⟨e, ?_, rfl, fun _ => hR e⟩⟩
  rw [entity?, same]
  exact he

theorem modifyEntity (hR : ∀ e, R e e) {g : Entity → Entity}
    (hg : ∀ e, s.entity? r = some e → (g e).kind = e.kind ∧ (e.kind = .post → R e (g e))) :
    Altered R s (s.modifyEntity r g) := by
  refine ⟨List.length_modify .., fun q e he => ?_⟩
  rw [entity?_modifyEntity]
  by_cases same : r = q
  · subst same
    rw [if_pos rfl, he]
    exact ⟨g e, rfl, hg e he⟩
  · rw [if_neg same]
    exact ⟨e, he, rfl, fun _ => hR e⟩

theorem mapEntities {g : Entity → Entity}
    (hg : ∀ r e, s.entity? r = some e → (g e).kind = e.kind ∧ (e.kind = .post → R e (g e))) :
    Altered R s (s.mapEntities g) := by
  refine ⟨List.length_map .., fun q e he => ?_⟩
  rw [entity?_mapEntities, he]
  exact ⟨g e, rfl, hg q e he⟩

theorem mono {R' : Entity → Entity → Prop} (h : Altered R s s')
    (hR : ∀ r e e', s.PostAt r e → R e e' → R' e e') : Altered R' s s' := by
  refine ⟨h.length, fun r e he => ?_⟩
  obtain ⟨e', he', kind, change⟩ := h.entities r e he
  exact ⟨e', he', kind, fun post => hR r e e' ⟨he, post⟩ (change post)⟩

end Altered

/-! ## What is done aside from posts -/

/-- The rows and documents of posts are as they were, and so are the entities of posts apart from
what they read. -/
structure Apart (s s' : Session) : Prop where
  committed : s'.committed = s.committed
  broken : s'.broken = s.broken
  posts : s'.tables.posts = s.tables.posts
  documents : s'.tables.documents = s.tables.documents
  altered : Altered (Entity.Reread s.tables.posts) s s'

end Session

theorem Entity.Reread.refl (ps : List PostRow) (e : Entity) : e.Reread ps e :=
  (Related.refl e).reread ps

namespace Session

variable {s s' : Session} {r q : Ref} {e e' f : Entity} {k : Kind} {row : Row} {p : PostRow}

theorem apart_modifyEntity {g : Entity → Entity}
    (hg : ∀ e, s.entity? r = some e → (g e).kind = e.kind ∧
      (e.kind = .post → e.Reread s.tables.posts (g e))) : s.Apart (s.modifyEntity r g) :=
  ⟨rfl, rfl, rfl, rfl, .modifyEntity (.refl _) hg⟩

theorem apart_of_entities (entities : s'.entities = s.entities) (committed : s'.committed = s.committed)
    (broken : s'.broken = s.broken) (posts : s'.tables.posts = s.tables.posts)
    (documents : s'.tables.documents = s.tables.documents) : s.Apart s' :=
  ⟨committed, broken, posts, documents, .of_entities (.refl _) entities⟩

/-- Entities of posts are as they were apart from what they read. -/
def Reads : Session → Session → Prop := Altered fun e e' => ∃ ps, Entity.Reread ps e e'

theorem Apart.reads (h : s.Apart s') : s.Reads s' :=
  h.altered.mono fun _ _ _ _ reread => ⟨_, reread⟩

theorem reads_of_entities (same : s'.entities = s.entities) : s.Reads s' :=
  Altered.of_entities (fun e => ⟨[], .refl [] e⟩) same

/-- The row that the entity of a post is read from is a post with its key. -/
theorem post_of_row? (record : e.IsRecord) (post : e.kind = .post)
    (found : e.row? s.tables = some row) :
    ∃ p ∈ s.tables.posts, row = .post p ∧ e.key? = some (.text p.id) := by
  have mem := Entity.mem_of_row? found
  rw [post] at mem
  obtain ⟨p, hp, rfl⟩ := List.mem_map.mp mem
  refine ⟨p, hp, rfl, ?_⟩
  obtain ⟨id, hid, hrow⟩ := Option.bind_eq_some_iff.mp found
  obtain ⟨key, hkey, htext⟩ := Option.bind_eq_some_iff.mp hid
  obtain ⟨⟨name, rfl⟩, -⟩ := record.key key hkey
  obtain rfl := Option.some.inj htext
  rw [hkey, ← Tables.id_of_row? hrow]
  rfl

/-- The row of a post that is there does not vanish. -/
theorem reread_ne_vanished (post : e.kind = .post) (hp : p ∈ s.tables.posts)
    (hkey : e.key? = some (.text p.id)) : s.reread e ≠ .error .vanished := by
  have there : (s.tables.row? .post p.id).isSome = true := by
    rw [Tables.row?_eq_find?, List.find?_isSome]
    exact ⟨.post p, List.mem_map_of_mem hp, decide_eq_true rfl⟩
  obtain ⟨row, hrow⟩ := Option.isSome_iff_exists.mp there
  unfold reread
  split
  · exact fun h => by cases h
  · simp only [hkey, post, rowAt, Cell.text?_text, Option.bind_some, hrow]
    cases s.broken with
    | true => exact fun h => by cases h
    | false =>
      cases (Cell.text p.id).bindFault? with
      | none => exact fun h => by cases h
      | some fault => cases fault <;> exact fun h => by cases h

/-- The session finds the entity of a post by its key. -/
theorem key_of_isAt {id : String} (record : e.IsRecord) (here : isAt k (.text id) e = true) :
    e.isMapped = true ∧ e.key? = some (.text id) := by
  simp only [isAt, Bool.and_eq_true, Option.any_eq_true] at here
  obtain ⟨⟨mapped, -⟩, key, hkey, same⟩ := here
  obtain ⟨⟨name, rfl⟩, -⟩ := record.key key hkey
  exact ⟨mapped, hkey.trans (congrArg some ((Cell.IsText.eq_of_same (by trivial) (by trivial)) same))⟩

theorem isAt_of_key {id : String} (post : e.kind = .post) (mapped : e.isMapped = true)
    (hkey : e.key? = some (.text id)) : isAt .post (.text id) e = true := by
  simp [isAt, post, mapped, hkey, Cell.same, Cell.value?, Json.alike]

namespace Work

/-- A property of sessions that is kept by what is done aside from posts. -/
structure KeptAside (I : Session → Prop) : Prop where
  record : ∀ {s r e}, I s → s.PostAt r e → e.IsRecord
  apart : ∀ {s s'}, I s → s.Apart s' → I s'

namespace KeptAside

variable {I : Session → Prop} (h : KeptAside I)

include h

theorem alter {g : Entity → Entity} (hg : ∀ s, I s → ∀ e, s.entity? r = some e →
    (g e).kind = e.kind ∧ (e.kind = .post → e.Reread s.tables.posts (g e))) :
    Keeps I (alter r g) fun _ => True :=
  Keeps.alter fun s hs => h.apart hs (apart_modifyEntity (hg s hs))

theorem relate (r : Ref) (g : Entity → Entity) (hg : ∀ e, Entity.Related e (g e)) :
    Keeps I (Work.alter r g) fun _ => True :=
  h.alter fun _ _ e _ => by
    refine ⟨?_, fun _ => (hg e).reread _⟩
    obtain ⟨_, _, _, _, _, _, _, same⟩ := hg e
    rw [same]

theorem kept_revived {s : Session} (hs : I s) (he : s.entity? r = some e)
    (hrow : s.reread e = .ok row) : I (s.modifyEntity r (·.revived row)) := by
  refine h.apart hs (apart_modifyEntity fun e' he' => ⟨rfl, fun post => ?_⟩)
  obtain rfl := Option.some.inj (he.symm.trans he')
  have record := h.record hs ⟨he, post⟩
  obtain ⟨p, hp, rfl, hkey⟩ := post_of_row? record post (row?_of_reread hrow)
  exact record.reread_revived hp hkey

theorem revive (r : Ref) : Keeps I (revive r) fun _ => True := by
  intro s hs
  cases he : s.entity? r with
  | none =>
    refine Triple.look (P := (· = s)) (fun s' h _ => ⟨h ▸ hs, rfl⟩) (fun s' e h he' => ?_) s rfl
    rw [h, he] at he'
    cases he'
  | some e =>
    refine Triple.weaken (run_revive s he) (fun _ h => h) (fun _ s' again => ⟨?_, trivial⟩)
      (fun err s' h => ⟨h.1 ▸ hs, isInvalid_of_reread h.2⟩) s rfl
    obtain ⟨row, hrow, rfl⟩ := again
    exact h.kept_revived hs he hrow

theorem reviving : KeptByReviving I where
  revive := h.revive
  setOwner := fun r _ _ => h.relate r _ fun _ => Entity.related_of_same id rfl

theorem storing {g : Store → Except Constraint Store}
    (same : ∀ store store', g store = .ok store' → store'.tables.posts = store.tables.posts ∧
      store'.tables.documents = store.tables.documents) : Keeps I (storing g) fun _ => True :=
  Keeps.storing fun s store' hs stored => by
    obtain ⟨posts, documents⟩ := same s.store store' stored
    exact h.apart hs (apart_of_entities rfl rfl rfl posts documents)

theorem note (record : LogRecord) : Keeps I (note record) fun _ => True :=
  Triple.modify fun _ hs => ⟨h.apart hs (apart_of_entities rfl rfl rfl rfl rfl), trivial⟩

/-- Setting a column that documents are not made of. -/
theorem setValue (r : Ref) {c : Column} (hc : c ∉ Entity.indexedColumns) (v : Cell) :
    Keeps I (setValue r c v) fun _ => True := by
  refine Keeps.bind (keeps_look r) fun e _ => Keeps.readied (h.revive r) ?_
  exact h.alter fun _ _ e _ => ⟨rfl, fun _ => e.reread_setCell hc _ v⟩

/-- Links are written, and owners are named in columns that documents are not made of. -/
theorem linking : KeptByLinking I where
  toKeptByReviving := h.reviving
  name := fun r rel c hc v => by
    refine h.setValue r ?_ v
    revert hc
    cases rel <;> cases c <;> decide
  link := fun hg => h.storing fun store store' stored => by
    obtain ⟨links, rfl⟩ := hg store store' stored
    exact ⟨rfl, rfl⟩

/-- Finding an entity by its key, if the rows of entities of posts are there. -/
theorem entity (k : Kind) (id : Cell) (there : k = .post → ∀ {s r e}, I s → s.PostAt r e →
      e.isMapped = true → ∃ p ∈ s.tables.posts, e.key? = some (.text p.id)) :
    Triple I (mapped? k id)
      (fun o s => I s ∧ ∀ r ∈ o, ∃ e, s.entity? r = some e ∧ isAt k id e = true)
      fun err s => I s ∧ err.isInvalid = false := by
  refine Keeps.andThen (Keeps.identifier id) (fun _ _ h h' => ⟨h, h'⟩) fun key same => ?_
  rw [same]
  refine Triple.bind (Q := fun s' s => s' = s ∧ I s) (Triple.get fun _ h => ⟨rfl, h⟩) fun s' => ?_
  rintro s ⟨rfl, hs⟩
  split
  · exact ⟨hs, fun _ none => by cases none⟩
  · rename_i r found
    obtain ⟨e, he, here⟩ := isAt_of_mapped? found
    refine Triple.look_at he ?_ s' rfl
    split
    · -- What comes of this is an entity, or none if the row is gone.
      refine Triple.bind (Q := fun o s => I s ∧ ∀ a, o = .error a ∨ o = .ok a → ∀ q ∈ a,
          ∃ e, s.entity? q = some e ∧ isAt k id e = true)
        (Triple.tryCatch (F := fun err s => s = s' ∧ s'.reread e = .error err) ?_ fun err => ?_)
        fun o => ?_
      · refine Triple.bind (Q := fun _ s => I s ∧ ∃ e, s.entity? r = some e ∧ isAt k id e = true)
          (Triple.weaken (run_revive s' he) (fun _ h => h) (fun _ s'' again => ?_) fun _ _ h => h)
          fun _ => Triple.pure fun _ h => ⟨h.1, ?_⟩
        · obtain ⟨row, hrow, rfl⟩ := again
          exact ⟨h.kept_revived hs he hrow, _, entity?_modifyEntity_self he, here⟩
        · rintro a (same | same) q hq <;> cases same
          obtain rfl := Option.some.inj hq
          exact h.2
      · split
        · refine Triple.bind (Q := fun _ => I) (Triple.modify ?_) fun _ => Triple.pure fun _ h => ⟨h, ?_⟩
          · rintro s ⟨rfl, vanished⟩
            refine h.apart hs (apart_modifyEntity fun e' he' => ⟨rfl, fun post => ?_⟩)
            obtain rfl := Option.some.inj (he.symm.trans he')
            have mapped : e.isMapped = true := by
              simp only [isAt, Bool.and_eq_true] at here
              exact here.1.1
            obtain ⟨p, hp, hkey⟩ :=
              there ((kind_of_isAt here).symm.trans post) hs ⟨he, post⟩ mapped
            exact absurd vanished (reread_ne_vanished post hp hkey)
          · rintro a (same | same) q hq <;> cases same
            cases hq
        · refine Triple.bind (Q := fun _ _ => False) (Triple.throw fun s failed => ?_)
            fun _ _ h => h.elim
          exact ⟨failed.1 ▸ hs, isInvalid_of_reread failed.2⟩
      · cases o with
        | error a => exact Triple.pure fun _ h => ⟨h.1, h.2 a (.inl rfl)⟩
        | ok a => exact Triple.pure fun _ h => ⟨h.1, h.2 a (.inr rfl)⟩
    · refine Triple.pure fun s same => ⟨same ▸ hs, fun q hq => ?_⟩
      obtain rfl := Option.some.inj hq
      exact ⟨e, same ▸ he, here⟩

end KeptAside

/-- What else such work keeps can be said besides. -/
theorem KeptAside.and {I T : Session → Prop} (h : KeptAside I)
    (kept : ∀ {s s'}, I s → s.Apart s' → T s → T s') : KeptAside fun s => I s ∧ T s where
  record := fun hs he => h.record hs.1 he
  apart := fun hs apart => ⟨h.apart hs.1 apart, kept hs.1 apart hs.2⟩

/-- A property of sessions that moreover is kept when the entity of a row joins. It says which posts
there are. -/
structure KeptByTaking (I : Session → Prop) : Prop extends KeptAside I where
  posts : ∀ {s s'}, I s → I s' → s'.tables.posts = s.tables.posts
  there : ∀ {s r e}, I s → s.PostAt r e → e.isMapped = true →
    ∃ p ∈ s.tables.posts, e.key? = some (.text p.id)
  push : ∀ {s row}, I s → (∀ p, row = .post p → p ∈ s.tables.posts) →
    s.mapped? row.kind (.text row.id) = none → I { s with entities := s.entities ++ [.ofRow row] }

namespace KeptByTaking

variable {I : Session → Prop} (h : KeptByTaking I)

include h

theorem adopt {s : Session} (hs : I s) (hrow : row ∈ s.tables.rows k) :
    Keeps I (adopt row) fun _ => True := by
  intro s₁ hs₁
  have stored : ∀ p, row = .post p → p ∈ s₁.tables.posts := by
    rintro p rfl
    obtain rfl : Kind.post = k := Tables.kind_of_mem hrow
    obtain ⟨q, hq, same⟩ := List.mem_map.mp hrow
    obtain rfl := Row.post.inj same
    exact h.posts hs hs₁ ▸ hq
  refine Triple.weaken (adopt_at s₁ row) (fun _ h => h) (fun r s' taken => ⟨?_, trivial⟩)
    (fun _ _ h => h.elim) s₁ rfl
  rcases taken with ⟨e, he, here, rfl⟩ | ⟨free, -, rfl⟩
  · refine h.apart hs₁ (apart_modifyEntity fun e' he' => ⟨rfl, fun post => ?_⟩)
    obtain rfl := Option.some.inj (he.symm.trans he')
    have kind := (kind_of_isAt here).symm.trans post
    cases row with
    | post p =>
      have hkey := (key_of_isAt (h.record hs₁ ⟨he, post⟩) here).2
      exact Entity.reread_adopted (stored p rfl) hkey
    | _ => cases kind
  · exact h.push hs₁ stored free

theorem reading : KeptByReading I where
  toKeptByReviving := h.reviving
  entity := fun k id => Triple.weaken (h.entity k id fun _ {_ _ _} => h.there) (fun _ h => h)
    (fun _ _ h => ⟨h.1, trivial⟩) fun _ _ h => h
  adopt := h.adopt

/-! ### Members -/

theorem leave (r : Ref) (rel : Relation) (ms : List Ref) :
    Keeps I (leave r rel ms) fun _ => True := by
  induction ms with
  | nil => exact Keeps.pure trivial
  | cons m ms ih =>
    refine Keeps.bind (keeps_look r) fun e _ => ?_
    split
    · refine Keeps.ite (fun _ => ?_) fun _ => Keeps.throw rfl
      exact Keeps.bind (h.relate r _ fun _ => Entity.related_of_same id rfl) fun _ _ => ih
    · exact ih

theorem readMembers (r : Ref) (rel : Relation) (key : Cell) (joining leaving : List Ref) :
    Keeps I (readMembers r rel key joining leaving) fun _ => True := by
  have known : Keeps I (do return ((← look r).known? rel).getD []) fun _ => True :=
    Keeps.bind (keeps_look r) fun _ _ => Keeps.pure trivial
  refine Keeps.bind (keeps_look r) fun e _ => Keeps.bind Keeps.reaching fun s hs => ?_
  refine Keeps.bind (Keeps.bindCell 1 key) fun _ _ => ?_
  refine Keeps.bind (Keeps.mapM_all (R := fun _ => True) fun row hrow => ?_) fun found _ => ?_
  · cases htext : key.text? with
    | none =>
      rw [htext] at hrow
      cases hrow
    | some name =>
      rw [htext] at hrow
      obtain ⟨k, hrow⟩ := Tables.exists_mem_of_related hrow
      exact h.adopt hs hrow
  · refine Keeps.ite (fun _ => ?_) fun _ => ?_
    · exact Keeps.bind (h.relate r _ fun _ => Entity.related_of_same id rfl) fun _ _ => known
    · exact Keeps.bind (h.relate r _ fun _ => Entity.related_of_same (fun _ => rfl) rfl) fun _ _ =>
        Keeps.bind (h.leave r rel leaving) fun _ _ => known

theorem members (r : Ref) (rel : Relation) : Keeps I (members r rel) fun _ => True := by
  refine Keeps.bind (keeps_look r) fun e _ => ?_
  split
  · exact Keeps.pure trivial
  · refine Keeps.ite (fun _ => Keeps.pure trivial) fun _ => ?_
    refine Keeps.ite (fun _ => Keeps.throw rfl) fun _ => ?_
    exact Keeps.bind (h.reviving.value r .id) fun key _ => h.readMembers r rel key _ _

theorem formerMembers (r : Ref) (rel : Relation) : Keeps I (formerMembers r rel) fun _ => True := by
  refine Keeps.bind (keeps_look r) fun e _ => ?_
  split
  · exact Keeps.pure trivial
  · exact Keeps.bind (h.reviving.formerValue r .id) fun key _ => h.readMembers r rel key _ _

end KeptByTaking

end Work

end Session

end Weblog
