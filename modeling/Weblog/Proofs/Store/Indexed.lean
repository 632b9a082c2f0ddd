/-
  The index as a second copy of the posts: `Indexed` says that the documents are those of the
  posts, in some order and each once. Putting in, rewriting and taking out a post keeps it so.

  Order is not kept: a rewritten post stays at its place, and its document goes to the end.

  `Tracks` says of one identifier what `Indexed` says of all posts at once, so that it can still be
  said of the other posts where the document of one has gone wrong.
-/
import Mathlib.Data.List.Nodup
import Weblog.Proofs.Service.Effect

namespace Weblog.Tables

variable {t : Tables} {p : PostRow} {id : String}

/-- The documents are those of the posts. -/
def Indexed (t : Tables) : Prop := t.documents.Perm (t.posts.map PostRow.document)

theorem indexed_empty : empty.Indexed := List.Perm.nil

theorem post?_eq_none : t.post? id = none ↔ ∀ q ∈ t.posts, q.id ≠ id := by
  simp [post?]

theorem post?_mem (h : t.post? id = some p) : p ∈ t.posts := List.mem_of_find?_eq_some h

theorem post?_id (h : t.post? id = some p) : p.id = id := by
  simpa using List.find?_some h

/-! ## Documents of posts -/

/-- Whether a document is the one of a post with an identifier. -/
def isDocumentOf (id : String) (d : DocumentRow) : Bool :=
  d.recordType = Kind.post.table && d.recordId = id

@[simp] theorem isDocumentOf_document : isDocumentOf id p.document = true ↔ p.id = id := by
  rw [isDocumentOf, Bool.and_eq_true, decide_eq_true_eq, decide_eq_true_eq]
  simp [PostRow.document]

/-- What is left of the index of a table without the document of a post is the index of the table
without the post. -/
theorem Indexed.unindex (h : t.Indexed) (id : String) :
    (t.unindex Kind.post.table id).documents.Perm
      ((t.posts.filter (·.id ≠ id)).map PostRow.document) := by
  have hfilter := h.filter fun d => !isDocumentOf id d
  rw [List.filter_map] at hfilter
  refine hfilter.trans (List.Perm.of_eq ?_)
  congr 1
  refine List.filter_congr fun q _ => ?_
  rw [Bool.eq_iff_iff, decide_eq_true_eq, Function.comp_apply, Bool.not_eq_true',
    ← Bool.not_eq_true]
  exact not_congr isDocumentOf_document

/-- A post replaced at its place, but for the order the same as taken out and put in at the end. -/
theorem map_put_perm {rows : List PostRow} (nodup : (rows.map (·.id)).Nodup) {q : PostRow}
    (hq : q ∈ rows) (hid : q.id = p.id) :
    (rows.map fun v => if v.id = p.id then p else v).Perm
      (rows.filter (·.id ≠ p.id) ++ [p]) := by
  induction rows with
  | nil => cases hq
  | cons a rows ih =>
    rw [List.map_cons, List.nodup_cons] at nodup
    by_cases ha : a.id = p.id
    · have rest : ∀ b ∈ rows, b.id ≠ p.id := fun b hb heq =>
        nodup.1 (List.mem_map.mpr ⟨b, hb, heq.trans ha.symm⟩)
      have hmap : (rows.map fun v => if v.id = p.id then p else v) = rows :=
        (List.map_congr_left fun b hb => if_neg (rest b hb)).trans (List.map_id' rows)
      have hkeep : rows.filter (·.id ≠ p.id) = rows :=
        List.filter_eq_self.mpr fun b hb => by simp [rest b hb]
      rw [List.map_cons, if_pos ha, hmap, List.filter_cons_of_neg (by simp [ha]), hkeep]
      exact (List.perm_append_singleton p rows).symm
    · have hrows : q ∈ rows := by
        rcases List.mem_cons.mp hq with rfl | hq
        · exact absurd hid ha
        · exact hq
      rw [List.map_cons, if_neg ha, List.filter_cons_of_pos (by simp [ha]), List.cons_append]
      exact (ih nodup.2 hrows).cons a

/-! ## Changes of posts -/

theorem Indexed.addPost (h : t.Indexed) (hfree : t.post? p.id = none) : (t.addPost p).Indexed := by
  have hunindex := (h.unindex p.id).append_right [p.document]
  have hkeep : t.posts.filter (·.id ≠ p.id) = t.posts :=
    List.filter_eq_self.mpr fun q hq => by simp [post?_eq_none.mp hfree q hq]
  rw [hkeep, ← List.map_singleton (f := PostRow.document), ← List.map_append] at hunindex
  exact hunindex

theorem Indexed.index_setPostRow (h : t.Indexed) (nodup : (t.posts.map (·.id)).Nodup)
    {q : PostRow} (hq : q ∈ t.posts) (hid : q.id = p.id) :
    ((t.setPostRow p.id p).index p.document).Indexed := by
  have hunindex := (h.unindex p.id).append_right [p.document]
  rw [← List.map_singleton (f := PostRow.document), ← List.map_append] at hunindex
  exact hunindex.trans ((map_put_perm nodup hq hid).symm.map _)

theorem Indexed.rewritePost (h : t.Indexed) (nodup : (t.posts.map (·.id)).Nodup) {q : PostRow}
    (hq : q ∈ t.posts) (hid : q.id = p.id) (tagIds : Option (List String)) :
    (t.rewritePost p tagIds).Indexed := by
  cases tagIds with
  | none => exact h.index_setPostRow nodup hq hid
  | some ids => exact h.index_setPostRow nodup hq hid

theorem Indexed.removePost (h : t.Indexed) (id : String) : (t.removePost id).Indexed :=
  h.unindex id

/-! ## The document of a post -/

/-- A post has one document, if identifiers are distinct. -/
theorem Indexed.documents_of (h : t.Indexed) (nodup : (t.posts.map (·.id)).Nodup)
    (hp : p ∈ t.posts) : t.documents.filter (·.recordId = p.id) = [p.document] := by
  have hfilter := h.filter (·.recordId = p.id)
  rw [List.filter_map] at hfilter
  have hone : t.posts.filter ((fun d => decide (d.recordId = p.id)) ∘ PostRow.document) = [p] := by
    have hkey : ∀ q ∈ t.posts,
        ((fun d => decide (d.recordId = p.id)) ∘ PostRow.document) q = (q == p) := by
      intro q hq
      rw [Bool.eq_iff_iff, Function.comp_apply, decide_eq_true_eq, beq_iff_eq]
      exact ⟨List.inj_on_of_nodup_map nodup hq hp, congrArg PostRow.id⟩
    rw [List.filter_congr hkey, List.filter_beq, List.count_eq_one_of_mem nodup.of_map hp]
    rfl
  rw [hone] at hfilter
  exact List.perm_singleton.mp hfilter

/-- Every document is that of a post. -/
theorem Indexed.mem_documents (h : t.Indexed) {d : DocumentRow} :
    d ∈ t.documents ↔ ∃ p ∈ t.posts, p.document = d := by
  rw [h.mem_iff, List.mem_map]

/-! ## One document -/

variable {row : PostRow} {d : DocumentRow} {other type : String}

/-- The document under an identifier is that of the post under it. -/
def Tracks (t : Tables) (id : String) : Prop :=
  t.document? Kind.post.table id = (t.post? id).map PostRow.document

/-- If the documents are those of the posts, this is so under every identifier. -/
theorem Indexed.tracks (h : t.Indexed) (nodup : (t.posts.map (·.id)).Nodup) (id : String) :
    t.Tracks id := by
  unfold Tracks
  cases found : t.post? id with
  | none =>
    refine List.find?_eq_none.mpr fun d hd same => ?_
    obtain ⟨q, hq, rfl⟩ := h.mem_documents.mp hd
    exact post?_eq_none.mp found q hq (isDocumentOf_document.mp same)
  | some p =>
    have hp := post?_mem found
    have hid := post?_id found
    cases looked : t.document? Kind.post.table id with
    | none =>
      have other := List.find?_eq_none.mp looked _ (h.mem_documents.mpr ⟨p, hp, rfl⟩)
      exact absurd (isDocumentOf_document.mpr hid) other
    | some d =>
      obtain ⟨q, hq, rfl⟩ := h.mem_documents.mp (List.mem_of_find?_eq_some looked)
      have same : q.id = id := isDocumentOf_document.mp (List.find?_some looked)
      rw [List.inj_on_of_nodup_map nodup hq hp (same.trans hid.symm)]
      rfl

/-! ## Lookups after a change -/

/-- A post that took the place of another is found under its identifier. -/
theorem post?_setPostRow (found : t.post? id = some row) (hid : p.id = id) :
    (t.setPostRow id p).post? id = some p := by
  have same : (fun q : PostRow => decide (q.id = id)) ∘ (fun q => if q.id = id then p else q) =
      fun q => decide (q.id = id) := by
    funext q
    by_cases h : q.id = id
    · rw [Function.comp_apply, if_pos h, hid, decide_eq_true h, decide_eq_true rfl]
    · rw [Function.comp_apply, if_neg h]
  rw [post?] at found
  rw [post?, setPostRow, List.find?_map, same, found, Option.map_some,
    if_pos (by simpa using List.find?_some found)]

theorem post?_setPostRow_of_ne (hid : p.id = id) (hne : other ≠ id) :
    (t.setPostRow id p).post? other = t.post? other := by
  have same : (fun q : PostRow => decide (q.id = other)) ∘ (fun q => if q.id = id then p else q) =
      fun q => decide (q.id = other) := by
    funext q
    by_cases h : q.id = id
    · rw [Function.comp_apply, if_pos h, hid, h]
    · rw [Function.comp_apply, if_neg h]
  rw [post?, setPostRow, List.find?_map, same, post?]
  cases found : t.posts.find? fun q => decide (q.id = other) with
  | none => rfl
  | some q =>
    have hq : q.id = other := by simpa using List.find?_some found
    rw [Option.map_some, if_neg (hq ▸ hne)]

/-- A document that was written is found. -/
theorem document?_index : (t.index d).document? d.recordType d.recordId = some d := by
  have cleared : (t.unindex d.recordType d.recordId).documents.find? (fun e =>
      e.recordType = d.recordType && e.recordId = d.recordId) = none := by
    refine List.find?_eq_none.mpr fun e he same => ?_
    have other := (List.mem_filter.mp he).2
    rw [same] at other
    cases other
  rw [document?, index, List.find?_append, cleared]
  simp

theorem document?_unindex_of_ne (hne : other ≠ id) (out : String) :
    (t.unindex out id).document? type other = t.document? type other := by
  rw [document?, unindex, List.find?_filter, document?]
  congr 1
  funext d
  by_cases h : d.recordId = other
  · have stays : d.recordId ≠ id := h ▸ hne
    simp [stays]
  · simp [h]

theorem document?_index_of_ne (hne : id ≠ d.recordId) :
    (t.index d).document? type id = t.document? type id := by
  have last : [d].find? (fun e => e.recordType = type && e.recordId = id) = none := by
    simp [hne.symm]
  rw [document?, index, List.find?_append, last, Option.or_none]
  exact document?_unindex_of_ne hne d.recordType

/-! ## Tables whose documents lag behind -/

/-- Every identifier has at most one document, and that is the one of its post, but for some
identifiers. -/
structure IndexedBut (late : String → Prop) (t : Tables) : Prop where
  typed : ∀ d ∈ t.documents, d.recordType = Kind.post.table
  once : (t.documents.map (·.recordId)).Nodup
  tracks : ∀ id, ¬late id → t.Tracks id

variable {late late' : String → Prop} {t' : Tables}

theorem Indexed.indexedBut (h : t.Indexed) (ids : (t.posts.map (·.id)).Nodup) :
    t.IndexedBut fun _ => False where
  typed := by
    intro d hd
    obtain ⟨q, -, rfl⟩ := h.mem_documents.mp hd
    rfl
  once := by
    have keys := (h.map (·.recordId)).nodup_iff
    rw [List.map_map] at keys
    exact keys.mpr ids
  tracks := fun id _ => h.tracks ids id

theorem IndexedBut.indexed (h : t.IndexedBut fun _ => False) (ids : (t.posts.map (·.id)).Nodup) :
    t.Indexed := by
  have keys : ((t.posts.map PostRow.document).map (·.recordId)).Nodup := by
    rw [List.map_map]
    exact ids
  refine (List.perm_ext_iff_of_nodup h.once.of_map keys.of_map).mpr fun d => ?_
  have tracks : ∀ id, t.document? Kind.post.table id = (t.post? id).map PostRow.document :=
    fun id => h.tracks id not_false
  constructor
  · intro hd
    have found : t.document? Kind.post.table d.recordId = some d := by
      obtain ⟨d', hd'⟩ : ∃ d', t.document? Kind.post.table d.recordId = some d' := by
        refine Option.isSome_iff_exists.mp (List.find?_isSome.mpr ⟨d, hd, ?_⟩)
        simp [h.typed d hd]
      have same : d'.recordId = d.recordId := by
        have key := List.find?_some hd'
        simp only [Bool.and_eq_true, decide_eq_true_eq] at key
        exact key.2
      rw [hd', List.inj_on_of_nodup_map h.once (List.mem_of_find?_eq_some hd') hd same]
    rw [tracks] at found
    obtain ⟨q, hq, rfl⟩ := Option.map_eq_some_iff.mp found
    exact List.mem_map_of_mem (post?_mem hq)
  · intro hd
    obtain ⟨q, hq, rfl⟩ := List.mem_map.mp hd
    have post : t.post? q.id = some q := by
      obtain ⟨q', hq'⟩ : ∃ q', t.post? q.id = some q' :=
        Option.isSome_iff_exists.mp (List.find?_isSome.mpr ⟨q, hq, decide_eq_true rfl⟩)
      rw [hq', List.inj_on_of_nodup_map ids (post?_mem hq') hq (post?_id hq')]
    refine List.mem_of_find?_eq_some (?_ : t.document? Kind.post.table q.id = _)
    rw [tracks, post]
    rfl

/-- Where the documents stay, they lag behind for the identifiers whose posts change. -/
theorem IndexedBut.of_documents (h : t.IndexedBut late) (same : t'.documents = t.documents)
    (posts : ∀ id, ¬late' id → ¬late id ∧ t'.post? id = t.post? id) : t'.IndexedBut late' where
  typed := fun d hd => h.typed d (same ▸ hd)
  once := same ▸ h.once
  tracks := by
    intro id behind
    obtain ⟨upToDate, post⟩ := posts id behind
    have tracks := h.tracks id upToDate
    unfold Tracks document? at tracks ⊢
    rw [same, post]
    exact tracks

theorem IndexedBut.mono (h : t.IndexedBut late) (fewer : ∀ id, late id → late' id) :
    t.IndexedBut late' :=
  h.of_documents rfl fun id behind => ⟨fun was => behind (fewer id was), rfl⟩

/-- A document that is written is up to date if it is that of the post. -/
theorem IndexedBut.index (h : t.IndexedBut late) (post : t.post? p.id = some p) :
    (t.index p.document).IndexedBut fun id => late id ∧ id ≠ p.id where
  typed := by
    intro d hd
    rcases List.mem_append.mp hd with old | new
    · exact h.typed d (List.mem_of_mem_filter old)
    · rw [List.mem_singleton.mp new]
      rfl
  once := by
    show ((t.unindex p.document.recordType p.document.recordId).documents ++
      [p.document]).map (·.recordId) |>.Nodup
    rw [List.map_append, List.nodup_append]
    refine ⟨h.once.sublist (List.filter_sublist.map _), List.nodup_singleton _, ?_⟩
    intro id old id' new same
    obtain ⟨d, hd, rfl⟩ := List.mem_map.mp old
    obtain rfl : id' = p.id := List.mem_singleton.mp new
    have other := (List.mem_filter.mp hd).2
    have typed := h.typed d (List.mem_of_mem_filter hd)
    simp [typed, same, PostRow.document] at other
  tracks := by
    intro id behind
    unfold Tracks
    by_cases same : id = p.id
    · subst same
      rw [show (t.index p.document).post? p.id = t.post? p.id from rfl, post]
      exact document?_index
    · exact (document?_index_of_ne same).trans (h.tracks id fun was => behind ⟨was, same⟩)

/-- A document that is taken out is not missed if there is no post. -/
theorem IndexedBut.unindex (h : t.IndexedBut late) (post : t.post? id = none) :
    (t.unindex Kind.post.table id).IndexedBut fun other => late other ∧ other ≠ id where
  typed := fun d hd => h.typed d (List.mem_of_mem_filter hd)
  once := h.once.sublist (List.filter_sublist.map _)
  tracks := by
    intro other behind
    have kept : other ≠ id → ¬late other := fun apart was => behind ⟨was, apart⟩
    unfold Tracks
    by_cases same : other = id
    · subst same
      rw [show (t.unindex Kind.post.table other).post? other = t.post? other from rfl, post]
      refine List.find?_eq_none.mpr fun d hd here => ?_
      have out := (List.mem_filter.mp hd).2
      rw [here] at out
      cases out
    · exact (document?_unindex_of_ne same _).trans (h.tracks other (kept same))

end Weblog.Tables
