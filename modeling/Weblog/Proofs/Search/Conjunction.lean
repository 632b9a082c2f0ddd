/-
  A search asks for all words of its query: two queries with white space between them find what both
  of them find.

  A query is put into lower case before it is cut into words, which comes to the same as cutting it
  first (`Text.words_lowerAfter`). So the terms of two queries side by side are those of both
  (`terms_spaced`), and what a query finds depends on the set of its words only. Nothing is assumed of
  the documents, which may be missing, be out of date or hold characters that patterns cannot tell
  apart; times are distinct, so that the order is settled.
-/
import Mathlib
import Weblog.Proofs.Search.Found
import Weblog.Proofs.Text.Phrases
import Weblog.Record.Presence

namespace Weblog.Search

variable {t : Tables} {q r w query : String} {ws vs : List (List Char)}

/-! ## Terms -/

/-- The terms of a query are its words in lower case. -/
theorem terms_eq (query : String) :
    terms query = (Text.words query.toList).map (Text.lowerAfter []) := by
  rw [terms, Text.toList_lower, Text.words_lowerAfter]

theorem terms_spaced (q r : String) (nonempty : w ≠ "") (blank : Text.isBlank w = true) :
    terms (q ++ w ++ r) = terms q ++ terms r := by
  have someBlank : w.toList ≠ [] := fun h => nonempty (String.toList_eq_nil_iff.mp h)
  rw [terms_eq, terms_eq, terms_eq, String.toList_append, String.toList_append,
    Text.words_spaced (Text.isBlank_iff.mp blank) someBlank, List.map_append]

/-- A query has no terms if and only if it is blank. -/
theorem terms_eq_nil_iff : terms query = [] ↔ Text.isBlank query = true := by
  rw [terms_eq, List.map_eq_nil_iff, Text.words_eq_nil_iff, Text.isBlank_iff]

theorem terms_ne_nil (h : Text.isBlank query = false) : terms query ≠ [] := by
  intro none
  rw [terms_eq_nil_iff.mp none] at h
  cases h

theorem mem_terms_congr (h : ∀ word, word ∈ Text.words q.toList ↔ word ∈ Text.words r.toList)
    (w : List Char) : w ∈ terms q ↔ w ∈ terms r := by
  simp only [terms_eq, List.mem_map, h]

/-! ## Hits -/

theorem isHit_append (t : Tables) (type : String) (ws vs : List (List Char)) (id : String) :
    isHit t type (ws ++ vs) id = (isHit t type ws id && isHit t type vs id) := by
  unfold isHit matchesAll
  cases t.document? type id with
  | none => rfl
  | some d => exact List.all_append

theorem isHit_congr (h : ∀ w, w ∈ ws ↔ w ∈ vs) (type id : String) :
    isHit t type ws id = isHit t type vs id := by
  have all : ∀ content, matchesAll content ws = matchesAll content vs := by
    intro content
    rw [Bool.eq_iff_iff, matchesAll, matchesAll, List.all_eq_true, List.all_eq_true]
    exact forall_congr' fun w => imp_congr_left (h w)
  simp only [isHit, all]

/-! ## Searches -/

/-- A query that can be run: its words are no more and no longer than patterns allow. -/
structure Accepted (query : String) : Prop where
  few : (terms query).length ≤ wordLimit
  short : ∀ w ∈ terms query, (Bytes.utf8 (Like.containing w)).length ≤ patternLimit

theorem Accepted.of_sublist (h : Accepted query) (sub : (terms q).Sublist (terms query)) :
    Accepted q where
  few := Nat.le_trans sub.length_le h.few
  short w hw := h.short w (sub.subset hw)

theorem limited_nil {α : Type} (limit : Option Int) : limited limit ([] : List α) = [] := by
  unfold limited
  split
  · exact List.take_nil
  · rfl

/-- All posts that a query finds. -/
def ranked (t : Tables) (query : String) : List PostRow :=
  if terms query = [] then []
  else (Tables.newestFirst PostRow.createdAt t.posts).filter fun p =>
    isHit t Kind.post.table (terms query) p.id

theorem posts_eq_ranked (distinct : (t.posts.map (·.createdAt)).Nodup) (h : Accepted query)
    (limit : Option Int) : posts t query limit = .ok (limited limit (ranked t query)) := by
  have few : checkWords (terms query) = .ok () := if_neg (Nat.not_lt.mpr h.few)
  have hhits : hits t Kind.post.table PostRow.id (terms query) t.posts = .ok (t.posts.filter
      fun p => isHit t Kind.post.table (terms query) p.id) := hits_eq_filter _ h.short
  unfold posts found ranked
  split
  · rename_i none
    rw [if_pos none]
    exact congrArg Except.ok (limited_nil limit).symm
  · rename_i nonempty
    have sorted : Tables.newestFirst PostRow.createdAt (inOrder PostRow.id (t.posts.filter
        fun p => isHit t Kind.post.table (terms query) p.id)) =
          (Tables.newestFirst PostRow.createdAt t.posts).filter fun p =>
            isHit t Kind.post.table (terms query) p.id :=
      newestFirst_of_perm (List.mergeSort_perm _ _) distinct
    simp only [few, hhits, bind, Except.bind]
    rw [if_neg nonempty, sorted]

theorem ranked_of_terms (h : terms query ≠ []) :
    ranked t query = (Tables.newestFirst PostRow.createdAt t.posts).filter fun p =>
      isHit t Kind.post.table (terms query) p.id := if_neg h

/-- The posts that two queries both find are those that have the words of both. -/
theorem ranked_filter_mem (hq : terms q ≠ []) (hr : terms r ≠ []) :
    (ranked t q).filter (· ∈ ranked t r) =
      (Tables.newestFirst PostRow.createdAt t.posts).filter fun p =>
        isHit t Kind.post.table (terms q ++ terms r) p.id := by
  rw [ranked_of_terms hq, ranked_of_terms hr, List.filter_filter]
  refine List.filter_congr fun p hp => ?_
  rw [isHit_append, Bool.and_comm, Bool.eq_iff_iff, Bool.and_eq_true, Bool.and_eq_true,
    decide_eq_true_eq, List.mem_filter, and_iff_right hp]

/-- What two queries both find stands in the same order in what either of them finds. -/
theorem ranked_filter_comm (hq : terms q ≠ []) (hr : terms r ≠ []) :
    (ranked t q).filter (· ∈ ranked t r) = (ranked t r).filter (· ∈ ranked t q) := by
  rw [ranked_filter_mem hq hr, ranked_filter_mem hr hq]
  refine List.filter_congr fun p _ => ?_
  rw [isHit_append, isHit_append, Bool.and_comm]

theorem ranked_spaced (hq : Text.isBlank q = false) (hr : Text.isBlank r = false)
    (nonempty : w ≠ "") (blank : Text.isBlank w = true) :
    ranked t (q ++ w ++ r) = (ranked t q).filter (· ∈ ranked t r) := by
  have joined := terms_spaced q r nonempty blank
  have some : terms (q ++ w ++ r) ≠ [] := by
    rw [joined]
    exact List.append_ne_nil_of_left_ne_nil (terms_ne_nil hq) _
  rw [ranked_of_terms some, ranked_filter_mem (terms_ne_nil hq) (terms_ne_nil hr), joined]

theorem ranked_congr (h : ∀ word, word ∈ Text.words q.toList ↔ word ∈ Text.words r.toList) :
    ranked t q = ranked t r := by
  have same := mem_terms_congr h
  have empty : terms q = [] ↔ terms r = [] := by
    simp only [List.eq_nil_iff_forall_not_mem, same]
  simp only [ranked, empty, isHit_congr same]

/-- Two queries that are not blank, with white space between them, find the posts that both of them
find, in the order in which either finds them. What is found does not depend on the order of the
words or on how often they are given, and a query is blank if and only if it has no words, and then
nothing is found. -/
theorem posts_of_words (distinct : (t.posts.map (·.createdAt)).Nodup) :
    (∀ q r w : String, Text.isBlank q = false → Text.isBlank r = false → w ≠ "" →
      Text.isBlank w = true → Accepted (q ++ w ++ r) →
        ∃ found other : List PostRow, posts t q none = .ok found ∧ posts t r none = .ok other ∧
          posts t (q ++ w ++ r) none = .ok (found.filter (· ∈ other)) ∧
          posts t (q ++ w ++ r) none = .ok (other.filter (· ∈ found))) ∧
      (∀ q r : String, (∀ word, word ∈ Text.words q.toList ↔ word ∈ Text.words r.toList) →
        Accepted q → Accepted r → ∀ limit, posts t q limit = posts t r limit) ∧
      ∀ q : String, (Text.words q.toList = [] ↔ Presence.isBlankValue (.str q) = true) ∧
        (Presence.isBlankValue (.str q) = true → ∀ limit, posts t q limit = .ok []) := by
  refine ⟨fun q r w hq hr nonempty blank accepted => ?_, fun q r same hq hr limit => ?_,
    fun q => ⟨?_, fun blank limit => ?_⟩⟩
  · have joined := terms_spaced q r nonempty blank
    have first : Accepted q := accepted.of_sublist (by
      rw [joined]
      exact List.sublist_append_left _ _)
    have second : Accepted r := accepted.of_sublist (by
      rw [joined]
      exact List.sublist_append_right _ _)
    have both : posts t (q ++ w ++ r) none = .ok ((ranked t q).filter (· ∈ ranked t r)) := by
      rw [posts_eq_ranked distinct accepted none, ranked_spaced hq hr nonempty blank]
      rfl
    refine ⟨ranked t q, ranked t r, posts_eq_ranked distinct first none,
      posts_eq_ranked distinct second none, both, ?_⟩
    rw [both, ranked_filter_comm (terms_ne_nil hq) (terms_ne_nil hr)]
  · rw [posts_eq_ranked distinct hq, posts_eq_ranked distinct hr, ranked_congr same]
  · rw [Text.words_eq_nil_iff]
    exact Text.isBlank_iff.symm
  · have none : terms q = [] := terms_eq_nil_iff.mpr blank
    rw [posts, found, none]

/-- Two words with a tab between them find the post that both of them find, and the same one the
other way round. -/
theorem posts_tab :
    let a : PostRow := ⟨"1", "1", some "Rain in May", some "wet", ⟨1⟩, ⟨1⟩⟩
    let b : PostRow := ⟨"2", "1", some "May", some "Dry", ⟨2⟩, ⟨2⟩⟩
    let t := { Tables.empty with posts := [a, b], documents := [b.document, a.document] }
    posts t "May" none = .ok [b, a] ∧ posts t "rain" none = .ok [a] ∧
      posts t "May\train" none = .ok [a] ∧ posts t "rain May rain" none = .ok [a] := by
  intro a b t
  have first : posts t "May" none = .ok [b, a] := by cbv
  have second : posts t "rain" none = .ok [a] := by cbv
  have accepted : Accepted "May\train" := ⟨by decide +kernel, by decide +kernel⟩
  have repeated : Accepted "rain May rain" := ⟨by decide +kernel, by decide +kernel⟩
  obtain ⟨spaced, reordered, -⟩ := posts_of_words (t := t) (by decide +kernel)
  obtain ⟨found, other, hfound, hother, both, -⟩ :=
    spaced "May" "rain" "\t" (by decide) (by decide) (by decide) (by decide) accepted
  obtain rfl : [b, a] = found := Except.ok.inj (first.symm.trans hfound)
  obtain rfl : [a] = other := Except.ok.inj (second.symm.trans hother)
  have same : ∀ word, word ∈ Text.words "rain May rain".toList ↔
      word ∈ Text.words "May\train".toList := by
    have words : Text.words "rain May rain".toList = ["rain".toList, "May".toList, "rain".toList] ∧
      Text.words "May\train".toList = ["May".toList, "rain".toList] := by decide +kernel
    intro word
    simp only [words, List.mem_cons, List.not_mem_nil]
    tauto
  exact ⟨first, second, both, (reordered _ _ same repeated accepted none).trans both⟩

end Weblog.Search
