/-
  Patterns of containment: escaping makes every character of a word stand for itself, so that the
  pattern made from a word is matched by the texts in which the word occurs.

  The matcher tries each suffix at a wildcard (`matchesPieces_anything`), and the last wildcard
  takes whatever is left, so that what remains in between is a prefix up to the case of ASCII.

  Word and text are matched as they are read, up to the first U+0000 (`visible_append`). If that is
  in the word, the last wildcard is not read (`pieces_visible_containing`).
-/
import Weblog.Proofs.Text.Lower
import Weblog.Search.Like

namespace Weblog.Like

open Text (IsFolded IsPlain)

variable {w text : List Char} {ps : List Piece}

/-! ## Patterns -/

theorem pieces_escape (c : Char) (cs : List Char) :
    pieces escapeChar (escapeChar :: c :: cs) = .literal c :: pieces escapeChar cs := by
  rw [pieces.eq_def]
  exact if_pos rfl

theorem pieces_cons {c : Char} (h : c ≠ escapeChar) (cs : List Char) :
    pieces escapeChar (c :: cs) =
      (if c = '%' then .anything else if c = '_' then .anyOne else .literal c) ::
        pieces escapeChar cs := by
  rw [pieces.eq_def]
  exact if_neg h

/-- An escaped word is read as its characters. -/
theorem pieces_escaped (w rest : List Char) :
    pieces escapeChar (escaped w ++ rest) = w.map .literal ++ pieces escapeChar rest := by
  induction w with
  | nil => rfl
  | cons c w ih =>
    have cons : escaped (c :: w) =
        (if c = '/' ∨ c = '%' ∨ c = '_' then [escapeChar, c] else [c]) ++ escaped w := rfl
    rw [cons, List.map_cons, List.cons_append, ← ih]
    split
    · exact pieces_escape c _
    · rename_i h
      simp only [not_or] at h
      rw [List.singleton_append, List.cons_append, pieces_cons h.1, if_neg h.2.1, if_neg h.2.2]

/-! ## Matching -/

/-- A wildcard is matched by any text in front of a match of the rest. -/
theorem matchesPieces_anything :
    matchesPieces (.anything :: ps) text = true ↔ ∃ t, t <:+ text ∧ matchesPieces ps t = true := by
  induction text with
  | nil =>
    rw [matchesPieces]
    constructor
    · intro h
      exact ⟨[], List.suffix_refl _, h⟩
    · rintro ⟨t, ht, h⟩
      exact List.suffix_nil.mp ht ▸ h
  | cons c cs ih =>
    rw [matchesPieces, Bool.or_eq_true, ih]
    constructor
    · rintro (h | ⟨t, ht, h⟩)
      · exact ⟨c :: cs, List.suffix_refl _, h⟩
      · exact ⟨t, ht.trans (List.suffix_cons c cs), h⟩
    · rintro ⟨t, ht, h⟩
      rcases List.suffix_cons_iff.mp ht with rfl | ht
      · exact .inl h
      · exact .inr ⟨t, ht, h⟩

theorem matchesPieces_last : matchesPieces [.anything] text = true :=
  matchesPieces_anything.mpr ⟨[], List.nil_suffix, by rw [matchesPieces]⟩

/-- Literal characters and a last wildcard are matched by the texts that begin alike. -/
theorem matchesPieces_literals :
    matchesPieces (w.map .literal ++ [.anything]) text = true ↔
      w.map Char.toLower <+: text.map Char.toLower := by
  induction w generalizing text with
  | nil => simp [matchesPieces_last]
  | cons a w ih =>
    cases text with
    | nil => simp [matchesPieces]
    | cons c cs =>
      rw [List.map_cons, List.cons_append, matchesPieces, Bool.and_eq_true, ih, List.map_cons,
        List.map_cons, List.cons_prefix_cons, sameLetter, decide_eq_true_eq]

/-- Literal characters alone are matched by the same text. -/
theorem matchesPieces_exact :
    matchesPieces (w.map .literal) text = true ↔ w.map Char.toLower = text.map Char.toLower := by
  induction w generalizing text with
  | nil =>
    cases text with
    | nil => simp [matchesPieces]
    | cons c cs => simp [matchesPieces]
  | cons a w ih =>
    cases text with
    | nil => simp [matchesPieces]
    | cons c cs =>
      rw [List.map_cons, matchesPieces, Bool.and_eq_true, ih, List.map_cons, List.map_cons,
        List.cons.injEq, sameLetter, decide_eq_true_eq]

/-! ## What is read of a text -/

/-- A character as it is read. -/
def legible (c : Char) : Char := if c = '\ufffe' ∨ c = '\uffff' then '\ufffd' else c

theorem visible_append (h : '\x00' ∉ w) (text : List Char) :
    visible (w ++ text) = w.map legible ++ visible text := by
  have keep : ∀ c ∈ w, decide (c ≠ '\x00') = true :=
    fun c hc => decide_eq_true fun hnul => h (hnul ▸ hc)
  rw [visible, List.takeWhile_append_of_pos keep, List.map_append]
  rfl

theorem visible_nul (text : List Char) : visible ('\x00' :: text) = [] := rfl

theorem visible_of_no_nul (h : '\x00' ∉ w) : visible w = w.map legible := by
  have whole := visible_append h []
  have empty : visible [] = [] := rfl
  rwa [List.append_nil, empty, List.append_nil] at whole

/-- A plain text is read as it is. -/
theorem visible_of_plain (h : ∀ c ∈ w, IsPlain c) : visible w = w := by
  rw [visible_of_no_nul fun nul => (h _ nul).1 rfl]
  refine (List.map_congr_left fun c hc => ?_).trans (List.map_id w)
  obtain ⟨-, hfffe, hffff⟩ := h c hc
  exact if_neg (by simp [hfffe, hffff])

/-- Nothing is read behind the first U+0000. -/
theorem visible_append_of_nul (h : '\x00' ∈ w) (text : List Char) :
    visible (w ++ text) = visible w := by
  obtain ⟨a, b, rfl, ha⟩ := List.eq_append_cons_of_mem h
  rw [List.append_assoc, visible_append ha, visible_append ha, List.cons_append, visible_nul,
    visible_nul]

theorem folded_visible {cs : List Char} (h : ∀ c ∈ cs, IsFolded c) :
    ∀ c ∈ visible cs, IsFolded c := by
  intro c hc
  obtain ⟨d, hd, rfl⟩ := List.mem_map.mp hc
  split
  · decide
  · exact h d ((List.takeWhile_prefix _).subset hd)

theorem nul_of_mem_escaped (h : '\x00' ∈ escaped w) : '\x00' ∈ w := by
  obtain ⟨c, hc, h⟩ := List.mem_flatMap.mp h
  split at h
  · simp only [List.mem_cons, List.not_mem_nil, or_false] at h
    rcases h with h | rfl
    · exact absurd h (by decide)
    · exact hc
  · rwa [List.mem_singleton.mp h]

theorem escaped_append (w text : List Char) : escaped (w ++ text) = escaped w ++ escaped text :=
  List.flatMap_append

/-- The signs that are escaped are read as themselves, and nothing else is read as one. -/
theorem map_legible_escaped (w : List Char) :
    (escaped w).map legible = escaped (w.map legible) := by
  induction w with
  | nil => rfl
  | cons c w ih =>
    have cons : ∀ (c : Char) (w : List Char), escaped (c :: w) =
        (if c = '/' ∨ c = '%' ∨ c = '_' then [escapeChar, c] else [c]) ++ escaped w :=
      fun _ _ => rfl
    rw [List.map_cons, cons, cons, List.map_append, ih]
    by_cases odd : c = '\ufffe' ∨ c = '\uffff'
    · rcases odd with rfl | rfl <;> rfl
    · have same : legible c = c := if_neg odd
      rw [same]
      split
      · rw [List.map_cons, List.map_singleton, same]
        rfl
      · rw [List.map_singleton, same]

/-- The pattern of a word is read as the visible part of the word, and its last wildcard is not
read if U+0000 comes before it. -/
theorem pieces_visible_containing (w : List Char) :
    pieces escapeChar (visible (containing w)) =
      .anything :: ((visible w).map .literal ++ if '\x00' ∈ w then [] else [.anything]) := by
  have wildcard : ∀ cs, pieces escapeChar ('%' :: cs) = .anything :: pieces escapeChar cs :=
    fun cs => pieces_cons (by decide) cs
  have first : ∀ cs, visible ('%' :: cs) = '%' :: visible cs :=
    fun cs => visible_append (w := ['%']) (by decide) cs
  rw [containing, List.cons_append, first, wildcard]
  by_cases nul : '\x00' ∈ w
  · obtain ⟨a, b, rfl, ha⟩ := List.eq_append_cons_of_mem nul
    have cut : escaped ('\x00' :: b) = '\x00' :: escaped b := rfl
    have noNul : '\x00' ∉ escaped a := fun h => ha (nul_of_mem_escaped h)
    have done : pieces escapeChar [] = [] := rfl
    rw [if_pos nul, escaped_append, cut, List.append_assoc, visible_append noNul, List.cons_append,
      visible_nul, visible_append ha, visible_nul, map_legible_escaped, pieces_escaped, done,
      List.append_nil, List.append_nil, List.append_nil]
  · have noNul : '\x00' ∉ escaped w := fun h => nul (nul_of_mem_escaped h)
    have last : visible ['%'] = ['%'] := rfl
    rw [if_neg nul, visible_append noNul, last, map_legible_escaped, pieces_escaped,
      visible_of_no_nul nul, wildcard]
    rfl

/-! ## Containment -/

theorem map_toLower_of_folded {cs : List Char} (h : ∀ c ∈ cs, IsFolded c) :
    cs.map Char.toLower = cs :=
  (List.map_congr_left h).trans (List.map_id cs)

/-- A text without capitals of ASCII matches the pattern of a word without them if and only if what
is read of the word occurs in what is read of the text, and at its end if U+0000 is in the word. -/
theorem matches_containing_iff (fw : ∀ c ∈ w, IsFolded c) (ftext : ∀ c ∈ text, IsFolded c) :
    «matches» escapeChar (containing w) text = true ↔
      if '\x00' ∈ w then visible w <:+ visible text else visible w <:+: visible text := by
  have same : ∀ {t}, t <:+ visible text → t.map Char.toLower = t := fun ht =>
    map_toLower_of_folded fun c hc => folded_visible ftext c (ht.subset hc)
  unfold «matches»
  rw [pieces_visible_containing, matchesPieces_anything]
  split
  · constructor
    · rintro ⟨t, ht, h⟩
      rw [List.append_nil, matchesPieces_exact, map_toLower_of_folded (folded_visible fw),
        same ht] at h
      rwa [h]
    · intro h
      refine ⟨visible w, h, ?_⟩
      rw [List.append_nil, matchesPieces_exact]
  · rw [List.infix_iff_prefix_suffix]
    refine exists_congr fun t => ?_
    rw [and_comm]
    refine and_congr_left fun ht => ?_
    rw [matchesPieces_literals, map_toLower_of_folded (folded_visible fw), same ht]

/-- A plain text without capitals of ASCII matches the pattern of a plain word without them if and
only if the word occurs in it. -/
theorem matches_containing (hw : ∀ c ∈ w, IsPlain c) (htext : ∀ c ∈ text, IsPlain c)
    (fw : ∀ c ∈ w, IsFolded c) (ftext : ∀ c ∈ text, IsFolded c) :
    «matches» escapeChar (containing w) text = true ↔ w <:+: text := by
  rw [matches_containing_iff fw ftext, if_neg fun h => (hw _ h).1 rfl, visible_of_plain hw,
    visible_of_plain htext]

/-- A word is found in a text if no U+0000 stands before it, whatever else is in both. -/
theorem matches_of_occurs {front back : List Char} (noNul : '\x00' ∉ front)
    (fw : ∀ c ∈ w, IsFolded c) (ftext : ∀ c ∈ front ++ w ++ back, IsFolded c) :
    «matches» escapeChar (containing w) (front ++ w ++ back) = true := by
  rw [matches_containing_iff fw ftext, List.append_assoc, visible_append noNul]
  split
  · rename_i nul
    rw [visible_append_of_nul nul]
    exact List.suffix_append _ _
  · rename_i nul
    rw [visible_append nul, visible_of_no_nul nul, ← List.append_assoc]
    exact List.infix_append _ _ _

end Weblog.Like
