/-
  What a search finds: the posts whose document contains every word of the query, each once and
  newest first, cut to the limit.

  The words of a query and the documents are both in lower case, so that matching patterns is
  containment (`Like.matches_containing`). Times are distinct, so that the order is settled.
-/
import Mathlib.Data.List.Infix
import Mathlib.Data.List.Sort
import Weblog.Proofs.Chain
import Weblog.Proofs.Search.Like
import Weblog.Search.Index

namespace Weblog.Search

open Text (IsPlain)

/-- A post has every word of a query in its document. -/
def Finds (query : String) (p : PostRow) : Prop :=
  ∀ w ∈ terms query, w <:+: p.document.content.toList

instance (query : String) : DecidablePred (Finds query) := fun p =>
  inferInstanceAs (Decidable (∀ w ∈ terms query, w <:+: p.document.content.toList))

variable {t : Tables} {query : String}

/-! ## Matching -/

theorem plain_of_mem_terms (h : ∀ c ∈ query.toList, IsPlain c) {w : List Char}
    (hw : w ∈ terms query) : ∀ c ∈ w, IsPlain c :=
  fun _ hc => Text.plain_of_mem_lower h (Text.mem_of_mem_words hw hc)

theorem folded_of_mem_terms {w : List Char} (hw : w ∈ terms query) :
    ∀ c ∈ w, Text.IsFolded c :=
  fun _ hc => Text.folded_of_mem_lower (Text.mem_of_mem_words hw hc)

theorem folded_document (p : PostRow) : ∀ c ∈ p.document.content.toList, Text.IsFolded c :=
  fun _ hc => Text.folded_of_mem_lower hc

/-- Whether a text matches the patterns of all of some words. -/
def matchesAll (content : List Char) (ws : List (List Char)) : Bool :=
  ws.all fun w => Like.matches Like.escapeChar (Like.containing w) content

/-- Whether a text contains all of some words is found out if their patterns are short enough. -/
theorem containsAll_of_short {content : List Char} {ws : List (List Char)}
    (short : ∀ w ∈ ws, (Bytes.utf8 (Like.containing w)).length ≤ patternLimit) :
    containsAll content ws = .ok (matchesAll content ws) := by
  induction ws with
  | nil => rfl
  | cons w ws ih =>
    have rest := ih fun v hv => short v (List.mem_cons_of_mem w hv)
    unfold containsAll
    rw [if_neg (Nat.not_lt.mpr (short w List.mem_cons_self)), matchesAll, List.all_cons]
    split
    · rename_i matching
      rw [rest, matching, Bool.true_and, matchesAll]
    · rename_i other
      rw [eq_false_of_ne_true other, Bool.false_and]

/-- Whether there is a document under an identifier that matches the patterns of all of some
words. -/
def isHit (t : Tables) (type : String) (ws : List (List Char)) (id : String) : Bool :=
  (t.document? type id).any fun d => matchesAll d.content.toList ws

/-- The hits are the rows with documents that match the patterns of all words, in their order. -/
theorem hits_eq_filter {α : Type} {type : String} {id : α → String} {rows : List α}
    (ws : List (List Char))
    (short : ∀ w ∈ ws, (Bytes.utf8 (Like.containing w)).length ≤ patternLimit) :
    hits t type id ws rows = .ok (rows.filter fun p => isHit t type ws (id p)) := by
  induction rows with
  | nil => rfl
  | cons p rows ih =>
    unfold hits
    rw [List.filter_cons, isHit]
    cases t.document? type (id p) with
    | none => exact ih
    | some d => simp only [containsAll_of_short short, ih, Except.map, Option.any_some]

/-- If all rows have their documents, the hits are those whose documents match. -/
theorem hits_of_short {rows : List PostRow} (ws : List (List Char))
    (documented : ∀ p ∈ rows, t.document? Kind.post.table p.id = some p.document)
    (short : ∀ w ∈ ws, (Bytes.utf8 (Like.containing w)).length ≤ patternLimit) :
    hits t Kind.post.table PostRow.id ws rows =
      .ok (rows.filter fun p => matchesAll p.document.content.toList ws) := by
  rw [hits_eq_filter ws short]
  refine congrArg Except.ok (List.filter_congr fun p hp => ?_)
  rw [isHit, documented p hp, Option.any_some]

/-- A word whose pattern is too long makes the search fail if there is anything to search. -/
theorem hits_of_long {rows : List PostRow} {w : List Char} {ws : List (List Char)}
    (documented : ∀ p ∈ rows, t.document? Kind.post.table p.id = some p.document)
    (nonempty : rows ≠ []) (long : patternLimit < (Bytes.utf8 (Like.containing w)).length) :
    hits t Kind.post.table PostRow.id (w :: ws) rows = .error .patternTooLong := by
  cases rows with
  | nil => exact absurd rfl nonempty
  | cons p rows =>
    unfold hits containsAll
    rw [documented p List.mem_cons_self]
    simp only [if_pos long]

/-- In plain texts the hits are the rows whose documents contain all words. -/
theorem hits_eq_ok {rows : List PostRow}
    (documented : ∀ p ∈ rows, t.document? Kind.post.table p.id = some p.document)
    (plain : ∀ p ∈ rows, ∀ c ∈ p.document.content.toList, IsPlain c)
    (plainQuery : ∀ c ∈ query.toList, IsPlain c)
    (short : ∀ w ∈ terms query, (Bytes.utf8 (Like.containing w)).length ≤ patternLimit) :
    hits t Kind.post.table PostRow.id (terms query) rows =
      .ok (rows.filter fun p => Finds query p) := by
  rw [hits_of_short _ documented short]
  refine congrArg Except.ok (List.filter_congr fun p hp => Bool.eq_iff_iff.mpr ?_)
  rw [matchesAll, List.all_eq_true, decide_eq_true_eq]
  exact forall₂_congr fun w hw => Like.matches_containing (plain_of_mem_terms plainQuery hw)
    (plain p hp) (folded_of_mem_terms hw) (folded_document p)

/-! ## Order -/

section Order

variable {α : Type} {rows : List α}

/-- Rows sorted by a number that no two of them share are in strict order. -/
theorem mergeSort_pairwise_lt (number : α → Int) (distinct : (rows.map number).Nodup) :
    (rows.mergeSort fun a b => number a ≤ number b).Pairwise fun a b => number a < number b := by
  have trans : ∀ a b c : α, decide (number a ≤ number b) = true →
      decide (number b ≤ number c) = true → decide (number a ≤ number c) = true := by
    intro a b c hab hbc
    simp only [decide_eq_true_eq] at *
    omega
  have total : ∀ a b : α, (decide (number a ≤ number b) || decide (number b ≤ number a)) = true := by
    intro a b
    simp only [Bool.or_eq_true, decide_eq_true_eq]
    omega
  have ordered := List.pairwise_mergeSort trans total rows
  have nodup : ((rows.mergeSort fun a b => number a ≤ number b).map number).Nodup :=
    ((List.mergeSort_perm rows _).map number).nodup_iff.mpr distinct
  exact (ordered.and (List.pairwise_map.mp nodup)).imp fun ⟨hle, hne⟩ =>
    Int.lt_iff_le_and_ne.mpr ⟨of_decide_eq_true hle, hne⟩

theorem nodup_micros {time : α → Instant} (distinct : (rows.map time).Nodup) :
    (rows.map fun a => (time a).micros).Nodup := by
  have injective : Function.Injective Instant.micros := fun a b same => congrArg Instant.mk same
  have micros := distinct.map injective
  rwa [List.map_map] at micros

/-- Rows of distinct times, newest first, are in strict order. -/
theorem newestFirst_pairwise (time : α → Instant) (rows : List α)
    (distinct : (rows.map time).Nodup) :
    (Tables.newestFirst time rows).Pairwise fun a b => (time b).micros < (time a).micros := by
  have negated : (rows.map fun a => -(time a).micros).Nodup := by
    have injective : Function.Injective fun m : Int => -m := fun m n same => Int.neg_inj.mp same
    have negated := (nodup_micros distinct).map injective
    rwa [List.map_map] at negated
  have sorted := mergeSort_pairwise_lt (fun a => -(time a).micros) negated
  simp only [Int.neg_le_neg_iff, Int.neg_lt_neg_iff] at sorted
  exact sorted

/-- A selection of rows, newest first, is that selection from all rows, newest first. -/
theorem newestFirst_of_perm {time : α → Instant} {chosen : List α} {q : α → Bool}
    (perm : chosen.Perm (rows.filter q)) (distinct : (rows.map time).Nodup) :
    Tables.newestFirst time chosen = (Tables.newestFirst time rows).filter q := by
  have sorted : (Tables.newestFirst time rows).Perm rows := List.mergeSort_perm rows _
  have sortedChosen : (Tables.newestFirst time chosen).Perm chosen := List.mergeSort_perm chosen _
  have distinctChosen : (chosen.map time).Nodup :=
    (perm.map time).nodup_iff.mpr (distinct.sublist (List.filter_sublist.map time))
  refine ((sortedChosen.trans perm).trans (sorted.filter q).symm).eq_of_pairwise ?_
    (newestFirst_pairwise time chosen distinctChosen)
    ((newestFirst_pairwise time rows distinct).filter q)
  intro a b _ _ before after
  exact absurd after (Int.not_lt.mpr (Int.le_of_lt before))

end Order

/-! ## Rows that are found -/

section Rows

variable {α : Type} {type : String} {id : α → String} {words : List (List Char)}

theorem subset_of_hits {rows found : List α} (h : hits t type id words rows = .ok found) :
    found ⊆ rows := by
  induction rows generalizing found with
  | nil =>
    obtain rfl := Except.ok.inj h
    exact List.Subset.refl _
  | cons p rows ih =>
    unfold hits at h
    split at h
    · exact List.subset_cons_of_subset p (ih h)
    · split at h
      · cases h
      · rename_i hit _
        obtain ⟨rest, hrest, rfl⟩ := map_eq_ok.mp h
        cases hit with
        | true => exact List.cons_subset_cons p (ih hrest)
        | false => exact List.subset_cons_of_subset p (ih hrest)

/-- What a search finds was searched. -/
theorem subset_of_found {time : α → Instant} {rows rs : List α} {limit : Option Int}
    (h : found t type id time rows query limit = .ok rs) : rs ⊆ rows := by
  unfold found at h
  split at h
  · obtain rfl := Except.ok.inj h
    exact List.nil_subset _
  · obtain ⟨_, -, h⟩ := bind_eq_ok.mp h
    obtain ⟨hit, hhit, h⟩ := bind_eq_ok.mp h
    obtain rfl := Except.ok.inj h
    have cut : ∀ (limit : Option Int) (rows : List α), limited limit rows ⊆ rows := by
      intro limit rows
      unfold limited
      split
      · exact List.take_subset _ _
      · exact List.Subset.refl _
    intro r hr
    refine subset_of_hits hhit ?_
    have hr := cut _ _ hr
    rwa [Tables.newestFirst, List.mem_mergeSort, inOrder, List.mem_mergeSort] at hr

end Rows

/-! ## Searches -/

/-- A search of posts that all have their documents and were written at different times finds the
posts with every word of the query, each once and newest first, and gives the first of them if
there is a limit. A query without words finds nothing. Nothing here may hold a character that
patterns cannot tell apart from another, and the words may be no more and no longer than patterns
allow. -/
theorem posts_eq_ok (query : String) (limit : Option Nat)
    (documented : ∀ p ∈ t.posts, t.document? Kind.post.table p.id = some p.document)
    (distinct : (t.posts.map (·.createdAt)).Nodup)
    (plain : ∀ p ∈ t.posts, ∀ c ∈ p.document.content.toList, IsPlain c)
    (plainQuery : ∀ c ∈ query.toList, IsPlain c)
    (few : (terms query).length ≤ wordLimit)
    (short : ∀ w ∈ terms query, (Bytes.utf8 (Like.containing w)).length ≤ patternLimit) :
    ∃ rows : List PostRow, rows.Perm (t.posts.filter fun p => Finds query p) ∧
      rows.Pairwise (fun p q => q.createdAt.micros < p.createdAt.micros) ∧
      posts t query (limit.map Int.ofNat) = .ok (if terms query = [] then [] else
        match limit with
        | none => rows
        | some n => rows.take n) := by
  have hhits := hits_eq_ok documented plain plainQuery short
  let rs := t.posts.filter fun p => Finds query p
  have hperm : (inOrder PostRow.id rs).Perm rs := List.mergeSort_perm rs _
  have hdistinct : ((inOrder PostRow.id rs).map (·.createdAt)).Nodup :=
    (hperm.map _).nodup_iff.mpr (distinct.sublist (List.filter_sublist.map _))
  refine ⟨Tables.newestFirst PostRow.createdAt (inOrder PostRow.id rs),
    (List.mergeSort_perm _ _).trans hperm, newestFirst_pairwise _ _ hdistinct, ?_⟩
  unfold posts found
  cases hterms : terms query with
  | nil => rfl
  | cons w ws =>
    rw [hterms] at hhits few
    have hcheck : checkWords (w :: ws) = .ok () := if_neg (Nat.not_lt.mpr few)
    simp only [hcheck, hhits, bind, Except.bind, reduceCtorEq, if_false]
    cases limit with
    | none => rfl
    | some n => rfl

/-- The signs of patterns are searched for as they stand. -/
theorem posts_percent :
    let a : PostRow := ⟨"1", "1", some "A 100% match", some "of_a", ⟨1⟩, ⟨1⟩⟩
    let b : PostRow := ⟨"2", "1", some "1000 of/a", some "B", ⟨2⟩, ⟨2⟩⟩
    posts { Tables.empty with posts := [a, b], documents := [b.document, a.document] } "0% OF_"
      none = .ok [a] := by
  intro a b
  have plainAll : [a, b].all (fun p => p.document.content.toList.all fun c => IsPlain c) = true := by
    decide +kernel
  have plainQuery : "0% OF_".toList.all (fun c => IsPlain c) = true := by decide +kernel
  simp only [List.all_eq_true, decide_eq_true_eq] at plainAll plainQuery
  obtain ⟨rows, hperm, -, hposts⟩ := posts_eq_ok
    (t := { Tables.empty with posts := [a, b], documents := [b.document, a.document] }) "0% OF_"
    none (by decide +kernel) (by decide +kernel) plainAll plainQuery (by decide +kernel)
    (by decide +kernel)
  have hfound : [a, b].filter (fun p => Finds "0% OF_" p) = [a] := by decide +kernel
  have hterms : terms "0% OF_" ≠ [] := by decide +kernel
  rw [hfound] at hperm
  rw [if_neg hterms, List.perm_singleton.mp hperm] at hposts
  exact hposts

end Weblog.Search
