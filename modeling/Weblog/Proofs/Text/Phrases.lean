/-
  Texts made up of pieces with blanks between them.

  A text can be cut at a blank before or after it is put into lower case (`lowerAfter_blank`), so
  that its words in lower case are the lower case of its words (`words_lowerAfter`). The words of two
  texts with white space between them are those of the first and then those of the second
  (`words_spaced`), and what has no blank in it stands inside one of the two
  (`infix_spaced_iff`).
-/
import Mathlib.Data.List.Infix
import Weblog.Proofs.Text.Words

namespace Weblog.Text

variable {c : Char} {cs before word after : List Char} {parts : List (List Char)}

/-! ## Blanks in lower case -/

/-- No run of the lower-case mapping holds a blank. -/
theorem lowerRuns_solid :
    lowerRuns.all (fun r => blankRanges.apart [(r.first, r.last)]) = true := by decide +kernel

theorem map?_of_blank (h : isBlankChar c = true) {r : CaseRun} (hr : r ∈ lowerRuns) :
    r.map? c.toNat = none := by
  have out := Ranges.has_eq_false_of_apart (List.all_eq_true.mp lowerRuns_solid r hr) h
  rw [Ranges.has_cons, Ranges.has_nil, Bool.or_false] at out
  rw [CaseRun.map?, out, Bool.false_and, if_neg Bool.false_ne_true]

/-- A blank has no other form in lower case. -/
theorem lowerChar_blank (h : isBlankChar c = true) : lowerChar c = [c] := by
  unfold lowerChar
  split
  · rename_i ascii
    have same : isBlankChar c = true → c.toLower = c :=
      of_ascii (P := fun c => isBlankChar c = true → c.toLower = c) ascii (by decide)
    rw [same h]
  · split
    · rename_i dotted
      rw [isBlankChar, dotted] at h
      exact absurd h (by decide)
    · have none : lowerRuns.findSome? (·.map? c.toNat) = none :=
        List.findSome?_eq_none_iff.mpr fun r hr => map?_of_blank h hr
      rw [mapByRuns, none]

theorem lowerAfter_cons_blank (h : isBlankChar c = true) (before cs : List Char) :
    lowerAfter before (c :: cs) = c :: lowerAfter [] cs := by
  have notSigma : c ≠ 'Σ' := by
    rintro rfl
    exact absurd h (by decide)
  have alone := lowerAfter_of_closed (isClosed_cons h before) [] cs
  rw [List.nil_append] at alone
  rw [lowerAfter_cons, if_neg notSigma, lowerChar_blank h, alone, List.singleton_append]

/-- The two sides of a blank are put into lower case one by one. -/
theorem lowerAfter_blank (h : isBlankChar c = true) (cs after : List Char) :
    lowerAfter [] (cs ++ c :: after) = lowerAfter [] cs ++ c :: lowerAfter [] after := by
  rw [lowerAfter_append (isClosed_cons h after), lowerAfter_cons_blank h]

/-! ## Words -/

theorem wordsAfter_nil (p : Char → Bool) (word : List Char) :
    wordsAfter p word [] = if word.isEmpty then [] else [word.reverse] := rfl

theorem wordsAfter_blank (h : isBlankChar c = true) (word cs : List Char) :
    wordsAfter isBlankChar word (c :: cs) = wordsAfter isBlankChar word [] ++ words cs := by
  have step : wordsAfter isBlankChar word (c :: cs) =
      if word.isEmpty then words cs else word.reverse :: words cs := by
    rw [wordsAfter, h]
    rfl
  rw [step, wordsAfter_nil]
  split
  · rfl
  · rfl

theorem words_cons_blank (h : isBlankChar c = true) (cs : List Char) : words (c :: cs) = words cs :=
  wordsAfter_blank h [] cs

/-- Behind a blank the words are read anew. -/
theorem wordsAfter_append (h : isBlankChar c = true) (word cs after : List Char) :
    wordsAfter isBlankChar word (cs ++ c :: after) =
      wordsAfter isBlankChar word cs ++ words after := by
  induction cs generalizing word with
  | nil => exact wordsAfter_blank h word after
  | cons d cs ih =>
    by_cases blank : isBlankChar d = true
    · rw [List.cons_append, wordsAfter_blank blank, wordsAfter_blank blank, List.append_assoc]
      exact congrArg _ (ih [])
    · rw [List.cons_append, wordsAfter, if_neg blank, wordsAfter, if_neg blank]
      exact ih (d :: word)

theorem words_append_blank (h : isBlankChar c = true) (cs after : List Char) :
    words (cs ++ c :: after) = words cs ++ words after := wordsAfter_append h [] cs after

/-- White space at the front of a text is no part of its words. -/
theorem words_blank_append {space : List Char} (h : ∀ c ∈ space, isBlankChar c = true)
    (cs : List Char) : words (space ++ cs) = words cs := by
  induction space with
  | nil => rfl
  | cons c space ih =>
    rw [List.cons_append, words_cons_blank (h c List.mem_cons_self)]
    exact ih fun d hd => h d (List.mem_cons_of_mem c hd)

/-- The words of two texts with white space between them are those of both. -/
theorem words_spaced {space : List Char} (h : ∀ c ∈ space, isBlankChar c = true)
    (nonempty : space ≠ []) (cs after : List Char) :
    words (cs ++ space ++ after) = words cs ++ words after := by
  obtain ⟨c, space, rfl⟩ := List.exists_cons_of_ne_nil nonempty
  rw [List.append_assoc, List.cons_append, words_append_blank (h c List.mem_cons_self),
    words_blank_append fun d hd => h d (List.mem_cons_of_mem c hd)]

/-- A text has no words if and only if there is nothing in it but blanks. -/
theorem wordsAfter_eq_nil_iff :
    wordsAfter isBlankChar word cs = [] ↔ word = [] ∧ ∀ c ∈ cs, isBlankChar c = true := by
  induction cs generalizing word with
  | nil =>
    rw [wordsAfter_nil]
    cases word with
    | nil => simp
    | cons c word => simp
  | cons c cs ih =>
    by_cases blank : isBlankChar c = true
    · rw [wordsAfter_blank blank, List.append_eq_nil_iff, wordsAfter_nil]
      have rest : words cs = [] ↔ _ := ih
      rw [rest, List.forall_mem_cons]
      cases word with
      | nil => simp [blank]
      | cons d word => simp
    · rw [wordsAfter, if_neg blank, ih, List.forall_mem_cons]
      simp [blank]

theorem words_eq_nil_iff : words cs = [] ↔ ∀ c ∈ cs, isBlankChar c = true :=
  wordsAfter_eq_nil_iff.trans (and_iff_right rfl)

/-! ### Words in lower case -/

/-- A text without blanks is one word, in lower case as well. -/
theorem words_lowerAfter_unbroken (h : ∀ c ∈ word, isBlankChar c = false) :
    words (lowerAfter [] word) = (words word).map (lowerAfter []) := by
  by_cases empty : word = []
  · subst empty
    rfl
  · have lowered := words_lower (s := String.ofList word) (by simpa using h) (by simpa using empty)
    rw [toList_lower, String.toList_ofList] at lowered
    rw [lowered, words_of_unbroken h empty, List.map_singleton]

/-- The words of a text in lower case are its words in lower case. -/
theorem words_lowerAfter (cs : List Char) :
    words (lowerAfter [] cs) = (words cs).map (lowerAfter []) := by
  -- The word in front of `cs` grows until a blank comes.
  suffices h : ∀ word, (∀ c ∈ word, isBlankChar c = false) →
      words (lowerAfter [] (word ++ cs)) = (words (word ++ cs)).map (lowerAfter []) from
    h [] (List.forall_mem_nil _)
  induction cs with
  | nil =>
    intro word solid
    rw [List.append_nil]
    exact words_lowerAfter_unbroken solid
  | cons c cs ih =>
    intro word solid
    by_cases blank : isBlankChar c = true
    · rw [lowerAfter_blank blank, words_append_blank blank, words_append_blank blank,
        List.map_append, words_lowerAfter_unbroken solid]
      exact congrArg _ (ih [] (List.forall_mem_nil _))
    · have longer : ∀ d ∈ word ++ [c], isBlankChar d = false := by
        intro d hd
        rcases List.mem_append.mp hd with hd | hd
        · exact solid d hd
        · exact List.mem_singleton.mp hd ▸ Bool.eq_false_iff.mpr blank
      have grown := ih (word ++ [c]) longer
      rwa [List.append_assoc, List.singleton_append] at grown

/-! ## Pieces joined by spaces -/

/-- What has no blank in it stands on one side of a blank. -/
theorem infix_spaced_iff (blank : isBlankChar c = true) (solid : ∀ d ∈ word, isBlankChar d = false)
    (nonempty : word ≠ []) : word <:+: cs ++ c :: after ↔ word <:+: cs ∨ word <:+: after := by
  have apart : c ∉ word := by
    intro h
    rw [solid c h] at blank
    cases blank
  constructor
  · rintro ⟨front, back, whole⟩
    rw [List.append_assoc] at whole
    rcases List.append_eq_append_iff.mp whole with ⟨mid, rfl, rest⟩ | ⟨mid, rfl, rest⟩
    · -- The word begins before the blank, and so it ends there.
      rcases List.append_eq_append_iff.mp rest with ⟨more, rfl, -⟩ | ⟨more, rfl, split⟩
      · exact .inl ⟨front, more, by rw [List.append_assoc]⟩
      · cases more with
        | nil => exact .inl ⟨front, [], by simp⟩
        | cons d more =>
          obtain ⟨rfl, -⟩ := List.cons_eq_cons.mp split
          exact absurd (List.mem_append_right mid List.mem_cons_self) apart
    · cases mid with
      | nil =>
        obtain ⟨d, word, rfl⟩ := List.exists_cons_of_ne_nil nonempty
        obtain ⟨rfl, -⟩ := List.cons_eq_cons.mp rest
        exact absurd List.mem_cons_self apart
      | cons d mid =>
        obtain ⟨rfl, rfl⟩ := List.cons_eq_cons.mp rest
        exact .inr ⟨mid, back, List.append_assoc ..⟩
  · rintro (h | h)
    · exact h.trans (List.prefix_append cs _).isInfix
    · exact h.trans ((List.suffix_cons c after).trans (List.suffix_append cs _)).isInfix

theorem infix_intercalate_iff (solid : ∀ d ∈ word, isBlankChar d = false) (nonempty : word ≠ []) :
    word <:+: [' '].intercalate parts ↔ ∃ part ∈ parts, word <:+: part := by
  induction parts with
  | nil => simpa using nonempty
  | cons part parts ih =>
    cases parts with
    | nil => simp
    | cons next parts =>
      rw [List.intercalate_cons_cons, List.append_assoc, List.singleton_append,
        infix_spaced_iff (by decide) solid nonempty, ih]
      exact (List.exists_mem_cons_iff _ part _).symm

/-- Pieces joined by spaces are put into lower case one by one. -/
theorem lowerAfter_intercalate (parts : List (List Char)) :
    lowerAfter [] ([' '].intercalate parts) = [' '].intercalate (parts.map (lowerAfter [])) := by
  induction parts with
  | nil => rfl
  | cons part parts ih =>
    cases parts with
    | nil => simp
    | cons next parts =>
      rw [List.intercalate_cons_cons, List.append_assoc, List.singleton_append,
        lowerAfter_blank (by decide), ih]
      simp only [List.map_cons, List.intercalate_cons_cons, List.append_assoc, List.singleton_append]

theorem lower_intercalate (parts : List String) :
    lower (String.intercalate " " parts) = String.intercalate " " (parts.map lower) := by
  have space : " ".toList = [' '] := by decide
  rw [← String.toList_inj, toList_lower, String.toList_intercalate, String.toList_intercalate, space,
    lowerAfter_intercalate, List.map_map, List.map_map]
  exact congrArg _ (List.map_congr_left fun s _ => (toList_lower s).symm)

end Weblog.Text
