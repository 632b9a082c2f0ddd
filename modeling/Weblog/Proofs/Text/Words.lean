/-
  Words in lower case: a word of a text is a word of the text in lower case, and its form there is
  the one that it has by itself.

  The only character whose lower case depends on its neighbours is the capital sigma, and it does
  not look across a blank (`lowerAfter_append`, `lowerAfter_of_closed`). So a text in lower case can
  be cut where the text itself was cut at one of its words, `CutAt`. Elsewhere it can be cut if each
  part is read with the others around it (`lowerAfter_between`).
-/
import Weblog.Proofs.Text.Lower

namespace Weblog.Text

/-! ## Ranges -/

/-- No range of one set meets a range of the other. -/
def Ranges.apart (rs qs : Ranges) : Bool :=
  rs.all fun r => qs.all fun q => r.2 < q.1 || q.2 < r.1

theorem Ranges.has_eq_false_of_apart {rs qs : Ranges} (h : rs.apart qs = true) {n : Nat}
    (hn : rs.has n = true) : qs.has n = false := by
  refine List.any_eq_false.mpr fun q hq held => ?_
  obtain ⟨r, hr, hn⟩ := List.any_eq_true.mp hn
  have out := List.all_eq_true.mp (List.all_eq_true.mp h r hr) q hq
  simp only [Bool.or_eq_true, Bool.and_eq_true, decide_eq_true_eq] at out hn held
  omega

variable {c d : Char} {cs before word after : List Char}

theorem not_isCased_of_blank (h : isBlankChar c = true) : isCased c = false :=
  Ranges.has_eq_false_of_apart (by decide +kernel) h

theorem not_isCaseIgnorable_of_blank (h : isBlankChar c = true) : isCaseIgnorable c = false :=
  Ranges.has_eq_false_of_apart (by decide +kernel) h

/-! ## Cuts -/

/-- A text that starts with a blank, if it goes on at all: no word reaches into it. -/
def IsClosed (cs : List Char) : Prop := ∀ c ∈ cs.head?, isBlankChar c = true

theorem isClosed_nil : IsClosed [] := by
  intro c h
  cases h

theorem isClosed_cons (h : isBlankChar c = true) (cs : List Char) : IsClosed (c :: cs) := by
  intro d hd
  rwa [← Option.some.inj hd]

theorem IsClosed.append (h : IsClosed cs) (hd : IsClosed after) : IsClosed (cs ++ after) := by
  cases cs with
  | nil => exact hd
  | cons c cs => exact h

/-- A word stands between `before` and `after`. -/
structure CutAt (before word after : List Char) : Prop where
  nonempty : word ≠ []
  unbroken : ∀ c ∈ word, isBlankChar c = false
  opened : IsClosed before.reverse
  closed : IsClosed after

/-- A word that is read stands somewhere in the text, which starts with what has been read of the
word. -/
theorem exists_cut_of_mem_wordsAfter {w : List Char} (solid : ∀ c ∈ word, isBlankChar c = false)
    (hw : w ∈ wordsAfter isBlankChar word cs) :
    ∃ before after, word.reverse ++ cs = before ++ w ++ after ∧ CutAt before w after := by
  induction cs generalizing word with
  | nil =>
    unfold wordsAfter at hw
    split at hw
    · cases hw
    · rename_i nonempty
      obtain rfl := List.mem_singleton.mp hw
      refine ⟨[], [], by simp, by simpa using nonempty, ?_, isClosed_nil, isClosed_nil⟩
      exact fun c hc => solid c (List.mem_reverse.mp hc)
  | cons c cs ih =>
    unfold wordsAfter at hw
    split at hw
    · rename_i blank
      -- Behind the blank the text is read anew, so that a cut of the rest is one of the whole.
      have later : ∀ before after, cs = before ++ w ++ after ∧ CutAt before w after →
          ∃ before after, word.reverse ++ c :: cs = before ++ w ++ after ∧
            CutAt before w after := by
        rintro before after ⟨rfl, cut⟩
        refine ⟨word.reverse ++ c :: before, after, by simp, ?_⟩
        refine ⟨cut.nonempty, cut.unbroken, ?_, cut.closed⟩
        rw [List.reverse_append, List.reverse_cons, List.append_assoc]
        exact cut.opened.append (isClosed_cons blank _)
      split at hw
      · obtain ⟨before, after, cut⟩ := ih (List.forall_mem_nil _) hw
        exact later before after cut
      · rename_i nonempty
        rcases List.mem_cons.mp hw with rfl | hw
        · refine ⟨[], c :: cs, rfl, by simpa using nonempty, ?_, isClosed_nil, isClosed_cons blank cs⟩
          exact fun d hd => solid d (List.mem_reverse.mp hd)
        · obtain ⟨before, after, cut⟩ := ih (List.forall_mem_nil _) hw
          exact later before after cut
    · rename_i solidChar
      have longer : ∀ d ∈ c :: word, isBlankChar d = false := by
        intro d hd
        rcases List.mem_cons.mp hd with rfl | hd
        · exact Bool.not_eq_true _ ▸ solidChar
        · exact solid d hd
      obtain ⟨before, after, same, cut⟩ := ih longer hw
      exact ⟨before, after, by rw [← same]; simp, cut⟩

theorem exists_cut_of_mem_words {w : List Char} (hw : w ∈ words cs) :
    ∃ before after, cs = before ++ w ++ after ∧ CutAt before w after :=
  exists_cut_of_mem_wordsAfter (List.forall_mem_nil _) hw

theorem wordsAfter_of_unbroken (h : ∀ c ∈ cs, isBlankChar c = false) (nonempty : cs ≠ [] ∨ word ≠ []) :
    wordsAfter isBlankChar word cs = [word.reverse ++ cs] := by
  induction cs generalizing word with
  | nil =>
    have nonempty : word ≠ [] := nonempty.resolve_left fun h => h rfl
    rw [wordsAfter, if_neg (by simpa using nonempty), List.append_nil]
  | cons c cs ih =>
    have solid : isBlankChar c = false := h c List.mem_cons_self
    rw [wordsAfter, if_neg (by simp [solid]),
      ih (fun d hd => h d (List.mem_cons_of_mem c hd)) (.inr (by simp))]
    simp

/-- A text without blanks is its only word. -/
theorem words_of_unbroken (h : ∀ c ∈ cs, isBlankChar c = false) (nonempty : cs ≠ []) :
    words cs = [cs] := wordsAfter_of_unbroken h (.inl nonempty)

/-! ## Sigma -/

theorem meetsCased_of_closed (h : IsClosed cs) : meetsCased cs = false := by
  cases cs with
  | nil => rfl
  | cons c cs =>
    have blank := h c rfl
    rw [meetsCased, List.dropWhile_cons_of_neg (by simp [not_isCaseIgnorable_of_blank blank])]
    exact not_isCased_of_blank blank

/-- Whether a cased character is met is decided before the next blank. -/
theorem meetsCased_append (h : IsClosed after) (cs : List Char) :
    meetsCased (cs ++ after) = meetsCased cs := by
  induction cs with
  | nil => exact (meetsCased_of_closed h).trans (meetsCased_of_closed isClosed_nil).symm
  | cons c cs ih =>
    rw [List.cons_append, meetsCased, meetsCased]
    by_cases ignored : isCaseIgnorable c = true
    · rw [List.dropWhile_cons_of_pos ignored, List.dropWhile_cons_of_pos ignored]
      exact ih
    · rw [List.dropWhile_cons_of_neg ignored, List.dropWhile_cons_of_neg ignored]

/-! ## Lower case -/

/-- What comes before a blank is put into lower case without what comes behind it. -/
theorem lowerAfter_append (h : IsClosed after) (before cs : List Char) :
    lowerAfter before (cs ++ after) =
      lowerAfter before cs ++ lowerAfter (cs.reverse ++ before) after := by
  induction cs generalizing before with
  | nil => rfl
  | cons c cs ih =>
    have sigma : lowerSigma before (cs ++ after) = lowerSigma before cs := by
      rw [lowerSigma, lowerSigma, meetsCased_append h]
    rw [List.cons_append, lowerAfter_cons, lowerAfter_cons, sigma, ih, List.append_assoc]
    simp

/-- What comes behind a blank is put into lower case without what comes before it. -/
theorem lowerAfter_of_closed (h : IsClosed after) (before cs : List Char) :
    lowerAfter (before ++ after) cs = lowerAfter before cs := by
  induction cs generalizing before with
  | nil => rfl
  | cons c cs ih =>
    have sigma : lowerSigma (before ++ after) cs = lowerSigma before cs := by
      rw [lowerSigma, lowerSigma, meetsCased_append h]
    rw [lowerAfter_cons, lowerAfter_cons, sigma, ← List.cons_append, ih]

/-- A word keeps its lower case in the text, and what is in front of it is what was there, in lower
case. -/
theorem lowerAfter_cut (cut : CutAt before word after) :
    lowerAfter [] (before ++ word ++ after) = lowerAfter [] before ++ lowerAfter [] word ++
      lowerAfter (word.reverse ++ before.reverse) after := by
  -- The text before the word ends in a blank, so that the word is not read together with it.
  have front : lowerAfter [] (before ++ (word ++ after)) =
      lowerAfter [] before ++ lowerAfter before.reverse (word ++ after) := by
    rcases List.eq_nil_or_concat before with rfl | ⟨xs, c, rfl⟩
    · rfl
    · have blank : isBlankChar c = true := cut.opened c (by simp)
      have closed : ∀ cs, IsClosed (c :: cs) := isClosed_cons blank
      have notSigma : c ≠ 'Σ' := by
        rintro rfl
        exact absurd blank (by decide)
      rw [List.concat_eq_append, List.append_assoc, List.singleton_append,
        lowerAfter_append (closed _), lowerAfter_append (closed []), lowerAfter_cons,
        lowerAfter_cons, if_neg notSigma, if_neg notSigma]
      simp
  have alone := lowerAfter_of_closed cut.opened [] word
  rw [List.nil_append] at alone
  rw [List.append_assoc, front, lowerAfter_append cut.closed, alone, List.append_assoc]

/-! ## U+0000 -/

theorem nul_of_mem_lowerChar (h : '\x00' ∈ lowerChar c) : c = '\x00' := by
  refine of_mem_lowerChar (P := fun d => d = '\x00' → c = '\x00') h (fun hc => ?_) (by simp)
    (fun _ => id) (fun n hn hnul => absurd hnul (isPlain_ofNat hn.tame).1) rfl
  exact of_ascii (P := fun c => c.toLower = '\x00' → c = '\x00') hc (by decide)

/-- Lower case brings no U+0000 into a text. -/
theorem nul_of_mem_lowerAfter (h : '\x00' ∈ lowerAfter before cs) : '\x00' ∈ cs := by
  obtain ⟨c, hc, hd⟩ | hsigma | hsigma := mem_lowerAfter h
  · rwa [nul_of_mem_lowerChar hd] at hc
  · exact absurd hsigma (by decide)
  · exact absurd hsigma (by decide)

/-! ## Words in lower case -/

theorem isBlankChar_of_mem_lowerChar (h : isBlankChar c = false) (hd : d ∈ lowerChar c) :
    isBlankChar d = false := by
  refine of_mem_lowerChar (P := fun d => isBlankChar d = false) hd (fun hc => ?_) (by decide)
    (fun _ => h) fun n hn => ?_
  · exact of_ascii (P := fun c => isBlankChar c = false → isBlankChar c.toLower = false) hc
      (by decide) h
  · rw [isBlankChar, toNat_ofNat_of_tame hn.tame]
    exact Ranges.has_eq_false_of_apart (by decide +kernel) hn.listed

theorem lowerChar_ne_nil (c : Char) : lowerChar c ≠ [] := by
  unfold lowerChar
  split
  · simp
  · split <;> simp

theorem lowerAfter_ne_nil (before : List Char) (nonempty : cs ≠ []) : lowerAfter before cs ≠ [] := by
  cases cs with
  | nil => exact absurd rfl nonempty
  | cons c cs =>
    rw [lowerAfter_cons]
    refine List.append_ne_nil_of_left_ne_nil ?_ _
    split
    · simp
    · exact lowerChar_ne_nil c

theorem isBlankChar_of_mem_lowerAfter (h : ∀ c ∈ cs, isBlankChar c = false)
    (hd : d ∈ lowerAfter before cs) : isBlankChar d = false := by
  obtain ⟨c, hc, hd⟩ | rfl | rfl := mem_lowerAfter hd
  · exact isBlankChar_of_mem_lowerChar (h c hc) hd
  · decide
  · decide

/-- A text without blanks is still one word in lower case. -/
theorem words_lower {s : String} (h : ∀ c ∈ s.toList, isBlankChar c = false)
    (nonempty : s.toList ≠ []) : words (lower s).toList = [(lower s).toList] := by
  rw [toList_lower]
  exact words_of_unbroken (fun _ hd => isBlankChar_of_mem_lowerAfter h hd)
    (lowerAfter_ne_nil [] nonempty)

/-! ## Fragments

A fragment may begin and end inside of a word. Put into lower case by itself, only its capital
sigmas can differ from what they are in the text, since their form depends on what stands around
them (`lowerBetween_congr`). A fragment that cuts no word in front of a sigma or behind one keeps
its form, and so does one without capital sigmas. -/

section Fragments

variable {fragment before' after' : List Char}

/-- The lower case that `cs` has between `before`, which stands nearest first, and `after`. -/
def lowerBetween (before after : List Char) : List Char → List Char
  | [] => []
  | c :: cs =>
    (if c = 'Σ' then [lowerSigma before (cs ++ after)] else lowerChar c) ++
      lowerBetween (c :: before) after cs

theorem lowerBetween_nil (before cs : List Char) : lowerBetween before [] cs = lowerAfter before cs := by
  induction cs generalizing before with
  | nil => rfl
  | cons c cs ih => rw [lowerBetween, lowerAfter_cons, List.append_nil, ih]

/-- A text in lower case can be cut anywhere if each part is read with the others around it. -/
theorem lowerAfter_between (before cs after : List Char) :
    lowerAfter before (cs ++ after) =
      lowerBetween before after cs ++ lowerAfter (cs.reverse ++ before) after := by
  induction cs generalizing before with
  | nil => rfl
  | cons c cs ih =>
    rw [List.cons_append, lowerAfter_cons, lowerBetween, ih, List.append_assoc, List.reverse_cons,
      List.append_assoc, List.singleton_append]

/-- Only the forms of capital sigmas depend on what stands around a fragment. -/
theorem lowerBetween_congr {cs : List Char}
    (alike : ∀ front back, cs = front ++ 'Σ' :: back →
      lowerSigma (front.reverse ++ before) (back ++ after) =
        lowerSigma (front.reverse ++ before') (back ++ after')) :
    lowerBetween before after cs = lowerBetween before' after' cs := by
  induction cs generalizing before before' with
  | nil => rfl
  | cons c cs ih =>
    have rest : lowerBetween (c :: before) after cs = lowerBetween (c :: before') after' cs := by
      refine ih fun front back split => ?_
      have same := alike (c :: front) back (by rw [split, List.cons_append])
      rwa [List.reverse_cons, List.append_assoc, List.append_assoc] at same
    rw [lowerBetween, lowerBetween, rest]
    by_cases sigma : c = 'Σ'
    · have same := alike [] cs (by rw [sigma, List.nil_append])
      rw [if_pos sigma, if_pos sigma]
      exact congrArg (fun form => [form] ++ _) same
    · rw [if_neg sigma, if_neg sigma]

/-- The capital sigmas of a fragment have the same forms between `before` and `after` as by
themselves. -/
def SigmasAlike (before fragment after : List Char) : Prop :=
  ∀ front back, fragment = front ++ 'Σ' :: back →
    lowerSigma (front.reverse ++ before) (back ++ after) = lowerSigma front.reverse back

theorem sigmasAlike_of_notMem (h : 'Σ' ∉ fragment) : SigmasAlike before fragment after := by
  rintro front back rfl
  exact absurd (List.mem_append_right front List.mem_cons_self) h

/-- Such a fragment stands in the text in lower case as it is by itself. -/
theorem infix_of_sigmasAlike (alike : SigmasAlike before.reverse fragment after) :
    lowerAfter [] fragment <:+: lowerAfter [] (before ++ fragment ++ after) := by
  have own : lowerBetween before.reverse after fragment = lowerAfter [] fragment := by
    rw [← lowerBetween_nil]
    refine lowerBetween_congr fun front back split => ?_
    rw [List.append_nil, List.append_nil]
    exact alike front back split
  rw [List.append_assoc, lowerAfter_between [] before, List.append_nil, lowerAfter_between, own,
    ← List.append_assoc]
  exact List.infix_append _ _ _

/-- A word that is cut off behind a sigma ends in a final one. -/
example : lowerAfter [] "ΑΣΑ".toList = "ασα".toList ∧ lowerAfter [] "ΑΣ".toList = "ας".toList := by
  decide +kernel

end Fragments

end Weblog.Text
