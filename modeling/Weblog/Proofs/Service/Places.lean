/-
  The paths of stored rows: a GET on the path of a row asks for that row.

  Identifiers that were given out are made of a word, a hyphen and digits, so that no slash cuts them
  and none of them is the word of another path.
-/
import Weblog.Proofs.Service.Endpoint
import Weblog.Proofs.Store.Shelf

namespace Weblog

/-! ## Pieces -/

namespace Text

variable {sep : Char} {piece cs acc : List Char}

theorem splitAfter_last (h : sep ∉ piece) : splitAfter sep acc piece = [acc.reverse ++ piece] := by
  induction piece generalizing acc with
  | nil => rw [splitAfter, List.append_nil]
  | cons c piece ih =>
    have hc : c ≠ sep := fun same => h (same ▸ List.mem_cons_self)
    rw [splitAfter, if_neg hc, ih fun hs => h (List.mem_cons_of_mem c hs), List.reverse_cons,
      List.append_assoc, List.singleton_append]

theorem splitAfter_piece (h : sep ∉ piece) :
    splitAfter sep acc (piece ++ sep :: cs) = (acc.reverse ++ piece) :: splitAll sep cs := by
  induction piece generalizing acc with
  | nil => rw [List.nil_append, splitAfter, if_pos rfl, List.append_nil, splitAll]
  | cons c piece ih =>
    have hc : c ≠ sep := fun same => h (same ▸ List.mem_cons_self)
    rw [List.cons_append, splitAfter, if_neg hc, ih fun hs => h (List.mem_cons_of_mem c hs),
      List.reverse_cons, List.append_assoc, List.singleton_append]

/-- Pieces that no separator cuts are found again where one stands in front of each. -/
theorem splitAll_pieces {pieces : List (List Char)} (first : sep ∉ piece)
    (plain : ∀ q ∈ pieces, sep ∉ q) :
    splitAll sep (piece ++ pieces.flatMap (sep :: ·)) = piece :: pieces := by
  induction pieces generalizing piece with
  | nil =>
    rw [List.flatMap_nil, List.append_nil]
    exact splitAfter_last first
  | cons q pieces ih =>
    have rest := ih (plain q List.mem_cons_self) fun p hp => plain p (List.mem_cons_of_mem q hp)
    rw [List.flatMap_cons, List.cons_append]
    exact (splitAfter_piece first).trans (congrArg (piece :: ·) rest)

end Text

/-! ## Identifiers -/

namespace Kind

/-- Identifiers begin with the word of their kind and hold no slash. -/
theorem identifier_cases (k : Kind) (n : Nat) : ∃ stem : String,
    stem ∈ ["user-", "post-", "comment-", "tag-"] ∧
      k.identifier n = stem ++ String.ofList (Number.digits n) := by
  cases k <;> exact ⟨_, by simp, rfl⟩

theorem slash_notMem_identifier (k : Kind) (n : Nat) : '/' ∉ (k.identifier n).toList := by
  obtain ⟨stem, hstem, written⟩ := k.identifier_cases n
  have plain : ∀ stem ∈ ["user-", "post-", "comment-", "tag-"], '/' ∉ stem.toList := by decide
  rw [written, String.toList_append, String.toList_ofList, List.mem_append, not_or]
  refine ⟨plain stem hstem, fun digit => ?_⟩
  have isDigit := Number.isDigit_of_mem_digits digit
  exact absurd isDigit (by decide)

theorem identifier_ne_empty (k : Kind) (n : Nat) : k.identifier n ≠ "" := by
  intro empty
  obtain ⟨stem, hstem, written⟩ := k.identifier_cases n
  have long : ∀ stem ∈ ["user-", "post-", "comment-", "tag-"], 0 < stem.length := by decide
  have length := congrArg String.length (written.symm.trans empty)
  rw [String.length_append] at length
  have positive := long stem hstem
  have none : "".length = 0 := rfl
  omega

/-- No identifier is the word of the search. -/
theorem identifier_not_search (k : Kind) (n : Nat) :
    Endpoint.isWord "search" (k.identifier n) = false := by
  obtain ⟨stem, hstem, written⟩ := k.identifier_cases n
  have hyphen : '-' ∈ (k.identifier n).toList := by
    have last : ∀ stem ∈ ["user-", "post-", "comment-", "tag-"], '-' ∈ stem.toList := by decide
    rw [written, String.toList_append]
    exact List.mem_append_left _ (last stem hstem)
  have word : '-' ∉ "search".toList ∧ '-' ∉ ("search" ++ "\n").toList := by decide
  simp only [Endpoint.isWord, Bool.or_eq_false_iff, decide_eq_false_iff_not]
  exact ⟨fun same => word.1 (same ▸ hyphen), fun same => word.2 (same ▸ hyphen)⟩

end Kind

/-! ## Paths -/

namespace Endpoint

/-- The path of what a request to an endpoint makes or changes. The identifier is that in its
answer; one's own record has a path of its own. -/
def place (e : Endpoint) (id : String) : String :=
  match e with
  | .createPost | .updatePost _ => "/api/posts/" ++ id
  | .createComment postId | .updateComment postId _ => "/api/posts/" ++ postId ++ "/comments/" ++ id
  | .createTag | .updateTag _ => "/api/tags/" ++ id
  | _ => "/api/users/me"

theorem segments_of_pieces {path : String} {pieces : List String}
    (plain : ∀ s ∈ pieces, '/' ∉ s.toList)
    (written : path.toList = (pieces.map String.toList).flatMap ('/' :: ·)) :
    segments path = "" :: pieces := by
  have cut : Text.splitAll '/' path.toList = [] :: pieces.map String.toList := by
    refine (congrArg (Text.splitAll '/') written).trans (Text.splitAll_pieces List.not_mem_nil ?_)
    intro q hq
    obtain ⟨s, hs, rfl⟩ := List.mem_map.mp hq
    exact plain s hs
  rw [segments, cut, List.map_cons, List.map_map]
  exact congrArg _ ((List.map_congr_left fun s _ => String.ofList_toList).trans (List.map_id _))

variable (m n : Nat)

theorem route_showPost : route "GET" ("/api/posts/" ++ Kind.post.identifier n) =
    .found (.showPost (Kind.post.identifier n)) := by
  have other := Kind.identifier_not_search .post n
  have some := Kind.identifier_ne_empty .post n
  have pieces : segments ("/api/posts/" ++ Kind.post.identifier n) =
      ["", "api", "posts", Kind.post.identifier n] :=
    segments_of_pieces (by simp [Kind.slash_notMem_identifier]) (by simp)
  simp [route, ofPath, pieces, ofSegments, ifWord, other, some]

theorem route_showTag : route "GET" ("/api/tags/" ++ Kind.tag.identifier n) =
    .found (.showTag (Kind.tag.identifier n)) := by
  have some := Kind.identifier_ne_empty .tag n
  have pieces : segments ("/api/tags/" ++ Kind.tag.identifier n) =
      ["", "api", "tags", Kind.tag.identifier n] :=
    segments_of_pieces (by simp [Kind.slash_notMem_identifier]) (by simp)
  simp [route, ofPath, pieces, ofSegments, some]

theorem route_showComment : route "GET" ("/api/posts/" ++ Kind.post.identifier m ++ "/comments/" ++
    Kind.comment.identifier n) =
      .found (.showComment (Kind.post.identifier m) (Kind.comment.identifier n)) := by
  have somePost := Kind.identifier_ne_empty .post m
  have some := Kind.identifier_ne_empty .comment n
  have pieces : segments ("/api/posts/" ++ Kind.post.identifier m ++ "/comments/" ++
      Kind.comment.identifier n) =
        ["", "api", "posts", Kind.post.identifier m, "comments", Kind.comment.identifier n] :=
    segments_of_pieces (by simp [Kind.slash_notMem_identifier]) (by simp)
  simp [route, ofPath, pieces, ofSegments, some, somePost]

end Endpoint

end Weblog
