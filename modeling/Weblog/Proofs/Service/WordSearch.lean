/-
  Searches for a word: what is found of a post whose title or body has the word.

  A word in lower case is one word, and it occurs in the document of the post where it stood in the
  text, since the text was put into lower case in the same way (`Text.lowerAfter_cut`). So the post
  is found, whatever characters there are, unless U+0000 comes before the word: a document is read
  up to its first U+0000 only. A word of more than 12499 characters can be refused as too long.
-/
import Weblog.Proofs.Service.Decided
import Weblog.Proofs.Service.Listings
import Weblog.Proofs.Store.Indexed
import Weblog.Proofs.Text.Words

namespace Weblog

/-! ## Places of words -/

namespace Text

variable {word text : List Char}

/-- A word that stands in a text with no U+0000 before it. -/
def Legible (word text : List Char) : Prop :=
  ∃ before after, text = before ++ word ++ after ∧ CutAt before word after ∧ '\x00' ∉ before

theorem legible_of_mem_words (h : word ∈ words text) (noNul : '\x00' ∉ text) :
    Legible word text := by
  obtain ⟨before, after, rfl, cut⟩ := exists_cut_of_mem_words h
  exact ⟨before, after, rfl, cut, fun nul => noNul (by simp [nul])⟩

/-- A word stays where it is when another text is put behind it. -/
theorem Legible.append_blank (h : Legible word text) (rest : List Char) :
    Legible word (text ++ ' ' :: rest) := by
  obtain ⟨before, after, rfl, cut, noNul⟩ := h
  refine ⟨before, after ++ ' ' :: rest, by simp, ?_, noNul⟩
  exact ⟨cut.nonempty, cut.unbroken, cut.opened, cut.closed.append (isClosed_cons rfl rest)⟩

theorem Legible.behind_blank (h : Legible word text) {front : List Char} (clear : '\x00' ∉ front) :
    Legible word (front ++ ' ' :: text) := by
  obtain ⟨before, after, rfl, cut, noNul⟩ := h
  refine ⟨front ++ ' ' :: before, after, by simp, ?_, ?_⟩
  · refine ⟨cut.nonempty, cut.unbroken, ?_, cut.closed⟩
    rw [List.reverse_append, List.reverse_cons, List.append_assoc]
    exact cut.opened.append (isClosed_cons rfl front.reverse)
  · simp [clear, noNul]

end Text

/-! ## Queries of one word -/

namespace Search

variable {t : Tables} {w : String} {p : PostRow}

/-- The bytes of the pattern of a word. -/
def patternBytes (w : String) : Nat := (Bytes.utf8 (Like.containing (Text.lower w).toList)).length

theorem length_utf8Char_le (c : Char) : (Bytes.utf8Char c).length ≤ 4 := by
  unfold Bytes.utf8Char
  dsimp only
  split
  · simp
  · split
    · simp
    · split <;> simp

theorem length_utf8_append (cs ds : List Char) :
    (Bytes.utf8 (cs ++ ds)).length = (Bytes.utf8 cs).length + (Bytes.utf8 ds).length := by
  rw [Bytes.utf8, List.flatMap_append, List.length_append]
  rfl

/-- An escaped character takes no more bytes than the longest one. -/
theorem length_escaped_le (c : Char) : (Bytes.utf8 (Like.escaped [c])).length ≤ 4 := by
  have single : Like.escaped [c] =
      if c = '/' ∨ c = '%' ∨ c = '_' then [Like.escapeChar, c] else [c] := List.append_nil _
  rw [single]
  split
  · rename_i sign
    rcases sign with rfl | rfl | rfl <;> decide
  · rw [Bytes.utf8_cons, Bytes.utf8_nil, List.append_nil]
    exact length_utf8Char_le c

theorem length_escaped_lowerChar_le (c : Char) :
    (Bytes.utf8 (Like.escaped (Text.lowerChar c))).length ≤ 4 := by
  unfold Text.lowerChar
  split
  · exact length_escaped_le _
  · split
    · decide
    · exact length_escaped_le _

theorem length_escaped_lowerAfter_le (before cs : List Char) :
    (Bytes.utf8 (Like.escaped (Text.lowerAfter before cs))).length ≤ 4 * cs.length := by
  induction cs generalizing before with
  | nil => exact Nat.le_refl 0
  | cons c cs ih =>
    have first : (Bytes.utf8 (Like.escaped (if c = 'Σ' then [Text.lowerSigma before cs]
        else Text.lowerChar c))).length ≤ 4 := by
      split
      · exact length_escaped_le _
      · exact length_escaped_lowerChar_le c
    have rest := ih (c :: before)
    rw [Text.lowerAfter_cons, Like.escaped_append, length_utf8_append, List.length_cons]
    omega

/-- A word of up to 12499 characters is not too long. -/
theorem patternBytes_le (w : String) : patternBytes w ≤ 4 * w.toList.length + 2 := by
  have wildcard : (Bytes.utf8 ['%']).length = 1 := by decide
  have pattern : Like.containing (Text.lower w).toList =
      ['%'] ++ (Like.escaped (Text.lowerAfter [] w.toList) ++ ['%']) := by
    rw [Text.toList_lower]
    rfl
  have inner := length_escaped_lowerAfter_le [] w.toList
  rw [patternBytes, pattern, length_utf8_append, length_utf8_append, wildcard]
  omega

theorem terms_of_word (solid : ∀ c ∈ w.toList, Text.isBlankChar c = false) (nonempty : w.toList ≠ []) :
    terms w = [(Text.lower w).toList] := Text.words_lower solid nonempty

/-- The posts that a word finds are those whose documents match its pattern. -/
theorem posts_of_word (hterms : terms w = [(Text.lower w).toList])
    (documented : ∀ p ∈ t.posts, t.document? Kind.post.table p.id = some p.document)
    (short : patternBytes w ≤ patternLimit) :
    ∃ rows, posts t w none = .ok rows ∧ ∀ p, p ∈ rows ↔ p ∈ t.posts ∧
      Like.matches Like.escapeChar (Like.containing (Text.lower w).toList)
        p.document.content.toList = true := by
  have hhits := hits_of_short [(Text.lower w).toList] documented
    fun v hv => List.mem_singleton.mp hv ▸ short
  have few : checkWords [(Text.lower w).toList] = .ok () := rfl
  refine ⟨Tables.newestFirst PostRow.createdAt (inOrder PostRow.id (t.posts.filter fun p =>
    matchesAll p.document.content.toList [(Text.lower w).toList])), ?_, fun p => ?_⟩
  · rw [posts, found, hterms]
    simp only [few, hhits, bind, Except.bind, limited]
  · rw [Tables.newestFirst, List.mem_mergeSort, inOrder, List.mem_mergeSort, List.mem_filter,
      matchesAll, List.all_cons, List.all_nil, Bool.and_true]

theorem posts_of_long_word (hterms : terms w = [(Text.lower w).toList])
    (documented : ∀ p ∈ t.posts, t.document? Kind.post.table p.id = some p.document)
    (nonempty : t.posts ≠ []) (long : patternLimit < patternBytes w) :
    posts t w none = .error .patternTooLong := by
  have few : checkWords [(Text.lower w).toList] = .ok () := rfl
  rw [posts, found, hterms]
  simp only [few, hits_of_long documented nonempty long, bind, Except.bind]

/-- A word that can be read in a text matches the text in lower case. -/
theorem matches_lower {text : String} (h : Text.Legible w.toList text.toList) :
    Like.matches Like.escapeChar (Like.containing (Text.lower w).toList)
      (Text.lower text).toList = true := by
  obtain ⟨before, after, same, cut, noNul⟩ := h
  have content : (Text.lower text).toList = Text.lowerAfter [] before ++ (Text.lower w).toList ++
      Text.lowerAfter (w.toList.reverse ++ before.reverse) after := by
    rw [Text.toList_lower, Text.toList_lower, same, Text.lowerAfter_cut cut]
  have folded : ∀ c ∈ (Text.lower text).toList, Text.IsFolded c :=
    fun _ hc => Text.folded_of_mem_lower hc
  rw [content] at folded ⊢
  exact Like.matches_of_occurs (fun nul => noNul (Text.nul_of_mem_lowerAfter nul))
    (fun _ hc => Text.folded_of_mem_lower hc) folded

end Search

/-! ## Searches for words of posts -/

namespace Service

variable {settings : Settings} {now : Instant} {s : Store} {r : Request} {p : PostRow}
  {title body w : String}

theorem searchRequest_of_word (asks : r.parameters.last? "q" = some w)
    (unlimited : r.parameters.last? "limit" = none) (nonempty : w.toList ≠ []) :
    Parameter.searchRequest r.parameters = .ok ⟨w, none⟩ := by
  have full : w.isEmpty = false := by simpa using nonempty
  simp [Parameter.searchRequest, Parameter.checkQuery, Parameter.checkLimit, asks, unlimited, full]

theorem run_searchPosts (asks : r.parameters.last? "q" = some w)
    (unlimited : r.parameters.last? "limit" = none) (nonempty : w.toList ≠ []) :
    run settings now s r .searchPosts = Posts.search s w none := by
  simp only [run, search, searchRequest_of_word asks unlimited nonempty]

/-- All posts have their documents. -/
theorem Sound.documented (hs : Sound s) :
    ∀ q ∈ s.tables.posts, s.tables.document? Kind.post.table q.id = some q.document := by
  intro q hq
  have found : s.tables.post? q.id = some q := hs.posts.find?_of_mem hq
  rw [hs.indexed.tracks hs.posts.distinct q.id, found]
  rfl

/-- The posts that a search finds are shown. -/
theorem shows_of_posts (hs : Sound s) (hroute : Endpoint.route r.method r.path = .found .searchPosts)
    (hrun : run settings now s r .searchPosts = Posts.search s w none) {rows : List PostRow}
    (hrows : Search.posts s.tables w none = .ok rows) (sub : rows ⊆ s.tables.posts) :
    ∃ js, rows.mapM (fun q => View.postJson (s.tables.view q)) = .ok js ∧
      Shows settings now s r (.arr js) := by
  have valid : ∀ q ∈ rows, ∃ j, View.postJson (s.tables.view q) = .ok j :=
    fun q hq => postJson_ok s.tables (hs.valid.posts q (sub hq))
  obtain ⟨js, hjs⟩ := exists_mapM_ok valid
  have read : run settings now s r .searchPosts =
      .ok (Done.read s (.posts (rows.map s.tables.view))) := by
    rw [hrun, Posts.search, hrows]
  refine ⟨js, hjs, shows_of_run hroute read ?_⟩
  have mapped : (rows.map s.tables.view).mapM View.postJson = .ok js := List.mapM_map.trans hjs
  rw [View.toJson?, mapped]
  rfl

/-- What can be read in the title, or behind a title without U+0000 in the body, matches the
document. -/
theorem matches_document (valid : p.Valid) (titled : p.title = some title)
    (bodied : p.body = some body)
    (legible : Text.Legible w.toList title.toList ∨
      '\x00' ∉ title.toList ∧ Text.Legible w.toList body.toList) :
    Like.matches Like.escapeChar (Like.containing (Text.lower w).toList)
      p.document.content.toList = true := by
  obtain ⟨title', body', titled', bodied', hdocument⟩ := document_of_valid valid
  obtain rfl := Option.some.inj (titled.symm.trans titled')
  obtain rfl := Option.some.inj (bodied.symm.trans bodied')
  have joined : (title ++ " " ++ body).toList = title.toList ++ ' ' :: body.toList := by simp
  have found : Text.Legible w.toList (title ++ " " ++ body).toList := by
    rw [joined]
    rcases legible with inTitle | ⟨clear, inBody⟩
    · exact inTitle.append_blank body.toList
    · exact inBody.behind_blank clear
  rw [hdocument]
  exact Search.matches_lower found

/-- After any visits, a search for a word of the title or the body of a post is answered with a list
of posts, or fails because the word makes too long a pattern. The list has the post if the word can
be read: no U+0000 is before it, neither in the same text nor, for a word of the body, in the
title. -/
theorem word_searched (reach : Reachable settings s) (hp : p ∈ s.tables.posts)
    (titled : p.title = some title) (bodied : p.body = some body)
    (word : w.toList ∈ Text.words title.toList ∨ w.toList ∈ Text.words body.toList)
    (hroute : Endpoint.route r.method r.path = .found .searchPosts)
    (asks : r.parameters.last? "q" = some w) (unlimited : r.parameters.last? "limit" = none) :
    (Search.patternLimit < Search.patternBytes w ∧
        FailsWith settings now s r 500 (.escaped (.search .patternTooLong))) ∨
      (Search.patternBytes w ≤ Search.patternLimit ∧
        ∃ js, Shows settings now s r (.arr js) ∧
          (Text.Legible w.toList title.toList ∨
              '\x00' ∉ title.toList ∧ Text.Legible w.toList body.toList →
            ∃ j ∈ js, View.postJson (s.tables.view p) = .ok j)) := by
  have hs := reach.sound
  obtain ⟨before, after, cut⟩ : ∃ before after, Text.CutAt before w.toList after := by
    rcases word with word | word
    · obtain ⟨before, after, -, cut⟩ := Text.exists_cut_of_mem_words word
      exact ⟨before, after, cut⟩
    · obtain ⟨before, after, -, cut⟩ := Text.exists_cut_of_mem_words word
      exact ⟨before, after, cut⟩
  have hterms := Search.terms_of_word cut.unbroken cut.nonempty
  have hrun : run settings now s r .searchPosts = Posts.search s w none :=
    run_searchPosts asks unlimited cut.nonempty
  rcases Nat.lt_or_ge Search.patternLimit (Search.patternBytes w) with long | short
  · refine .inl ⟨long, rfl, fails_of_run hroute ?_⟩
    rw [hrun, Posts.search,
      Search.posts_of_long_word hterms hs.documented (List.ne_nil_of_mem hp) long]
  · obtain ⟨rows, hrows, mem_rows⟩ := Search.posts_of_word hterms hs.documented short
    obtain ⟨js, hjs, shows⟩ :=
      shows_of_posts hs hroute hrun hrows fun q hq => ((mem_rows q).mp hq).1
    refine .inr ⟨short, js, shows, fun legible => ?_⟩
    have matching := matches_document (hs.valid.posts p hp) titled bodied legible
    exact exists_mem_of_mapM hjs p ((mem_rows p).mpr ⟨hp, matching⟩)

/-- The body of the first post is found by its second word. -/
theorem word_of_annPost :
    ∃ js, Shows .default ⟨9⟩ (posted [annComment]) (look "/api/posts/search" "q=body") (.arr js) ∧
      ∃ j ∈ js, View.postJson ((posted [annComment]).tables.view annPost) = .ok j := by
  have word : "body".toList ∈ Text.words "A body".toList := by decide
  have short : Search.patternBytes "body" ≤ Search.patternLimit :=
    (Search.patternBytes_le "body").trans (by decide)
  obtain ⟨long, -⟩ | ⟨-, js, shows, mem⟩ := @word_searched .default ⟨9⟩ (posted [annComment])
    (look "/api/posts/search" "q=body") annPost "A title" "A body" "body" reachable_posted
    (List.mem_singleton_self annPost) rfl rfl (.inr word) (by decide) (by decide +kernel)
    (by decide +kernel)
  · omega
  · exact ⟨js, shows, mem (.inr ⟨by decide, Text.legible_of_mem_words word (by decide)⟩)⟩

/-! ## A title with U+0000 -/

def nulTitle : String := "First\x00 word"

def nulPost : PostRow :=
  ⟨Kind.post.identifier 1, (ann ⟨0⟩).id, some nulTitle, some "A body", ⟨0⟩, ⟨0⟩⟩

/-- The store in which the first user has written a post with such a title. -/
def nulPosted : Store :=
  ⟨{ Tables.empty with users := [ann ⟨0⟩], posts := [nulPost], documents := [nulPost.document] },
    ⟨1, 1, 0, 0⟩, false⟩

def writeNul : Request :=
  bearing "ann" (send "POST" "/api/posts" (.obj [("title", .str nulTitle), ("body", .str "A body")]))

theorem reachable_nulPosted : Reachable .default nulPosted :=
  reachable_written (by decide +kernel) (by decide) (by decide)

/-- The second word of the title does not find the post: its document ends before the word. -/
theorem word_behind_nul :
    Reachable .default nulPosted ∧ nulPost ∈ nulPosted.tables.posts ∧
      "word".toList ∈ Text.words nulTitle.toList ∧
      Shows .default ⟨9⟩ nulPosted (look "/api/posts/search" "q=word") (.arr []) := by
  have hs := reachable_nulPosted.sound
  have word : "word".toList ∈ Text.words nulTitle.toList := by decide
  obtain ⟨_, _, -, cut⟩ := Text.exists_cut_of_mem_words word
  have hterms := Search.terms_of_word (w := "word") cut.unbroken cut.nonempty
  have short : Search.patternBytes "word" ≤ Search.patternLimit :=
    (Search.patternBytes_le "word").trans (by decide)
  obtain ⟨rows, hrows, mem_rows⟩ := Search.posts_of_word hterms hs.documented short
  have none : rows = [] := by
    refine List.eq_nil_iff_forall_not_mem.mpr fun p hp => ?_
    obtain ⟨mem, matching⟩ := (mem_rows p).mp hp
    obtain rfl := List.mem_singleton.mp mem
    rw [Like.matches_containing_iff (fun _ hc => Text.folded_of_mem_lower hc)
      (Search.folded_document nulPost)] at matching
    revert matching
    decide +kernel
  obtain rfl := none
  obtain ⟨js, hjs, shows⟩ := @shows_of_posts .default ⟨9⟩ nulPosted
    (look "/api/posts/search" "q=word") "word" hs (by decide)
    (run_searchPosts (by decide +kernel) (by decide +kernel) cut.nonempty) [] hrows
    (List.nil_subset _)
  obtain rfl := Except.ok.inj hjs
  exact ⟨reachable_nulPosted, List.mem_singleton_self nulPost, word, shows⟩

end Service

end Weblog
