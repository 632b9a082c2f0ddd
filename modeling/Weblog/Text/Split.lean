/-
  Cutting a text at a separator, which then belongs to neither part, and looking for one text inside
  another.

  The laws say that the parts and the separator make up the whole again, and that no separator
  stands in the part before the first one or in the part after the last one; and that there are
  no other parts of which this is true.
-/

namespace Weblog.Text

/-- The text before the first separator and the text after it. -/
def splitFirst (sep : Char) (cs : List Char) : Option (List Char × List Char) :=
  if cs.contains sep then some (cs.takeWhile (· ≠ sep), (cs.dropWhile (· ≠ sep)).tail)
  else none

/-- The text before the last separator and the text after it. -/
def splitLast (sep : Char) (cs : List Char) : Option (List Char × List Char) :=
  (splitFirst sep cs.reverse).map fun parts => (parts.2.reverse, parts.1.reverse)

/-- The pieces of a text between separators. `piece` holds the piece being read, last character
first. -/
def splitAfter (sep : Char) (piece : List Char) : List Char → List (List Char)
  | [] => [piece.reverse]
  | c :: cs =>
    if c = sep then piece.reverse :: splitAfter sep [] cs else splitAfter sep (c :: piece) cs

/-- The pieces of a text between separators. -/
def splitAll (sep : Char) (cs : List Char) : List (List Char) := splitAfter sep [] cs

theorem eq_around {sep : Char} {cs : List Char} (h : sep ∈ cs) :
    cs = cs.takeWhile (· ≠ sep) ++ sep :: (cs.dropWhile (· ≠ sep)).tail := by
  induction cs with
  | nil => simp at h
  | cons c cs ih =>
    by_cases hc : c = sep
    · simp [hc]
    · have rest : sep ∈ cs := by simpa [Ne.symm hc] using h
      simpa [hc] using ih rest

theorem eq_of_splitFirst {sep : Char} {cs before after : List Char}
    (h : splitFirst sep cs = some (before, after)) : cs = before ++ sep :: after := by
  unfold splitFirst at h
  split at h
  next found =>
    injection h with h
    injection h with front back
    rw [← front, ← back]
    exact eq_around (by simpa using found)
  next => simp at h

theorem not_mem_takeWhile (sep : Char) (cs : List Char) : sep ∉ cs.takeWhile (· ≠ sep) := by
  induction cs with
  | nil => simp
  | cons c cs ih =>
    by_cases hc : c = sep
    · simp [hc]
    · simpa [hc, Ne.symm hc] using ih

theorem not_mem_of_splitFirst {sep : Char} {cs before after : List Char}
    (h : splitFirst sep cs = some (before, after)) : sep ∉ before := by
  unfold splitFirst at h
  split at h
  next =>
    injection h with h
    injection h with front _
    rw [← front]
    exact not_mem_takeWhile sep cs
  next => simp at h

theorem splitFirst_around {sep : Char} {before : List Char} (h : sep ∉ before)
    (after : List Char) : splitFirst sep (before ++ sep :: after) = some (before, after) := by
  have parts : (before ++ sep :: after).takeWhile (· ≠ sep) = before ∧
      (before ++ sep :: after).dropWhile (· ≠ sep) = sep :: after := by
    induction before with
    | nil => simp
    | cons c cs ih =>
      rw [List.mem_cons, not_or] at h
      simpa [Ne.symm h.1] using ih h.2
  have found : (before ++ sep :: after).contains sep = true := by simp
  rw [splitFirst, if_pos found, parts.1, parts.2, List.tail_cons]

theorem eq_of_splitLast {sep : Char} {cs before after : List Char}
    (h : splitLast sep cs = some (before, after)) : cs = before ++ sep :: after := by
  obtain ⟨⟨front, back⟩, hs, he⟩ := Option.map_eq_some_iff.1 h
  obtain ⟨rfl, rfl⟩ : back.reverse = before ∧ front.reverse = after := by simpa using he
  have := congrArg List.reverse (eq_of_splitFirst hs)
  simpa using this

theorem splitLast_around {sep : Char} {after : List Char} (h : sep ∉ after)
    (before : List Char) : splitLast sep (before ++ sep :: after) = some (before, after) := by
  have turned : (before ++ sep :: after).reverse = after.reverse ++ sep :: before.reverse := by
    simp
  rw [splitLast, turned, splitFirst_around (by simpa using h), Option.map_some,
    List.reverse_reverse, List.reverse_reverse]

theorem not_mem_of_splitLast {sep : Char} {cs before after : List Char}
    (h : splitLast sep cs = some (before, after)) : sep ∉ after := by
  obtain ⟨⟨front, back⟩, hs, he⟩ := Option.map_eq_some_iff.1 h
  obtain ⟨-, rfl⟩ : back.reverse = before ∧ front.reverse = after := by simpa using he
  simpa using not_mem_of_splitFirst hs

end Weblog.Text

namespace Weblog.Text

/-- Whether `needle` stands somewhere in a text, without a gap. -/
def occurs (needle : List Char) : List Char → Bool
  | [] => needle.isEmpty
  | c :: cs => needle.isPrefixOf (c :: cs) || occurs needle cs

theorem occurs_iff_infix {needle cs : List Char} : occurs needle cs = true ↔ needle <:+: cs := by
  induction cs with
  | nil => simp [occurs]
  | cons c cs ih => simp [occurs, ih, List.infix_cons_iff]

end Weblog.Text
