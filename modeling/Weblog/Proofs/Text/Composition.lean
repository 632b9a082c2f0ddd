/-
  Canonical composition. A text that is put together and taken apart again comes to the same order
  (`sameOrder_compose`), so that the normal form of a text is its own normal form (`normal_normal`).

  A period or an at-sign is put together with nothing, and the texts around it are brought into
  normal form apart (`normal_around`).
-/
import Weblog.Proofs.Text.Decomposition
import Weblog.Proofs.Text.Marks

namespace Weblog.Text

variable {s c t p : Char} {kept cs ds : List Char} {last : Nat}

/-! ## Composing -/

/-- What a starter and a character make when nothing stands in the way; `kept` and `last` are as in
`composeStarter`. -/
def taken? (s : Char) (kept : List Char) (last : Nat) (c : Char) : Option Char :=
  if kept.isEmpty || last < combiningClass c then composite? s c else none

theorem taken?_eq_some (h : taken? s kept last c = some t) :
    composite? s c = some t ∧ (kept = [] ∨ last < combiningClass c) := by
  unfold taken? at h
  split at h
  · rename_i free
    exact ⟨h, by simpa using free⟩
  · cases h

theorem taken?_eq_none (h : composite? s c = none) : taken? s kept last c = none := by
  unfold taken?
  rw [h, ite_self]

theorem composeStarter_nil : composeStarter s kept last [] = s :: kept.reverse := rfl

theorem composeStarter_cons : composeStarter s kept last (c :: cs) =
    match taken? s kept last c with
    | some t => composeStarter t kept last cs
    | none =>
      if combiningClass c = 0 then s :: kept.reverse ++ composeStarter c [] 0 cs
      else composeStarter s (c :: kept) (combiningClass c) cs := by
  rw [composeStarter]
  rfl

theorem composeStarter_taken (h : taken? s kept last c = some t) :
    composeStarter s kept last (c :: cs) = composeStarter t kept last cs := by
  rw [composeStarter_cons, h]

section Left

variable (h : taken? s kept last c = none)

include h

theorem composeStarter_starter (hc : combiningClass c = 0) : composeStarter s kept last (c :: cs) =
    s :: kept.reverse ++ composeStarter c [] 0 cs := by
  rw [composeStarter_cons, h]
  exact if_pos hc

theorem composeStarter_mark (hc : combiningClass c ≠ 0) : composeStarter s kept last (c :: cs) =
    composeStarter s (c :: kept) (combiningClass c) cs := by
  rw [composeStarter_cons, h]
  exact if_neg hc

end Left

theorem compose_starter (hc : combiningClass c = 0) :
    compose (c :: cs) = composeStarter c [] 0 cs := if_pos hc

theorem compose_mark (hc : combiningClass c ≠ 0) : compose (c :: cs) = c :: compose cs := if_neg hc

/-! ## Taking apart what was put together -/

theorem decompose_kept (h : IsDecomposed kept) :
    decompose (s :: kept.reverse) = decompose [s] ++ kept.reverse := by
  have same : IsDecomposed kept.reverse := fun m hm => h m (List.mem_reverse.mp hm)
  rw [decompose_cons, same.decompose_eq]

theorem isDecomposed_cons : IsDecomposed (c :: cs) ↔ decompose [c] = [c] ∧ IsDecomposed cs :=
  List.forall_mem_cons

/-- What a starter takes up is higher than the marks that it leaves in front, so that it passes
them. -/
theorem sameOrder_composeStarter (hcs : IsDecomposed cs) (hkept : IsDecomposed kept)
    (marks : ∀ m ∈ kept, combiningClass m ≠ 0 ∧ combiningClass m ≤ last)
    (free : kept = [] → last = 0) (ascending : Ascending last cs) :
    SameOrder (decompose (composeStarter s kept last cs))
      (decompose [s] ++ (kept.reverse ++ cs)) := by
  induction cs generalizing s kept last with
  | nil =>
    rw [composeStarter_nil, decompose_kept hkept, List.append_nil]
    exact .refl _
  | cons c cs ih =>
    obtain ⟨hc, hcs⟩ := isDecomposed_cons.mp hcs
    cases ascending with | cons next rest => ?_
    cases made : taken? s kept last c with
    | some t =>
      obtain ⟨made', way⟩ := taken?_eq_some made
      have low : last ≤ combiningClass c := by
        rcases way with hnil | lt
        · rw [free hnil]
          exact Nat.zero_le _
        · exact Nat.le_of_lt lt
      have passes : SameOrder (c :: (kept.reverse ++ cs)) (kept.reverse ++ c :: cs) := by
        rcases way with rfl | lt
        · exact .refl _
        · refine .pass (Nat.ne_of_gt (Nat.zero_lt_of_lt lt)) (fun m hm => ?_) cs
          obtain ⟨mark, le⟩ := marks m (List.mem_reverse.mp hm)
          exact ⟨mark, Nat.ne_of_lt (Nat.lt_of_le_of_lt le lt)⟩
      rw [composeStarter_taken made]
      refine (ih hcs hkept marks free (rest.of_le low)).trans ?_
      rw [decompose_composite made', List.append_assoc]
      exact passes.append_left (decompose [s])
    | none =>
      by_cases starter : combiningClass c = 0
      · have behind : SameOrder (decompose (composeStarter c [] 0 cs)) (decompose [c] ++ cs) :=
          ih hcs (fun m hm => by cases hm) (fun m hm => by cases hm) (fun _ => rfl)
            (rest.of_le (Nat.zero_le _))
        rw [hc] at behind
        rw [composeStarter_starter made starter, decompose_append, decompose_kept hkept,
          ← List.append_assoc (decompose [s])]
        exact behind.append_left (decompose [s] ++ kept.reverse)
      · have low : last ≤ combiningClass c := next.resolve_left starter
        have kept' : IsDecomposed (c :: kept) := isDecomposed_cons.mpr ⟨hc, hkept⟩
        have marks' : ∀ m ∈ c :: kept,
            combiningClass m ≠ 0 ∧ combiningClass m ≤ combiningClass c := by
          refine List.forall_mem_cons.mpr ⟨⟨starter, Nat.le_refl _⟩, fun m hm => ?_⟩
          exact ⟨(marks m hm).1, Nat.le_trans (marks m hm).2 low⟩
        have behind := ih (s := s) hcs kept' marks' (fun hnil => by cases hnil) rest
        rw [composeStarter_mark made starter]
        rwa [List.reverse_cons, List.append_assoc] at behind

theorem sameOrder_compose (hcs : IsDecomposed cs) (ascending : Ascending last cs) :
    SameOrder (decompose (compose cs)) cs := by
  induction ascending with
  | nil => exact .refl _
  | @cons last c cs next rest ih =>
    obtain ⟨hc, hcs⟩ := isDecomposed_cons.mp hcs
    by_cases starter : combiningClass c = 0
    · have behind : SameOrder (decompose (composeStarter c [] 0 cs)) (decompose [c] ++ cs) :=
        sameOrder_composeStarter hcs (fun m hm => by cases hm) (fun m hm => by cases hm)
          (fun _ => rfl) (rest.of_le (Nat.zero_le _))
      rw [compose_starter starter]
      rwa [hc] at behind
    · rw [compose_mark starter, decompose_cons, hc]
      exact (ih hcs).append_left [c]

/-! ## Normal form -/

/-- The starters among the first code points. -/
theorem combiningRuns_ascii : ∀ n < 0x80,
    (combiningRuns.label? n).bind (combiningClasses.lookup ·) = some 0 ∨
      (combiningRuns.label? n).bind (combiningClasses.lookup ·) = none := by
  unfold combiningRuns
  simp only [Runs.label?_ofText, String.toList_join]
  decide +kernel

theorem combiningClass_ascii (h : c.toNat < 0x80) : combiningClass c = 0 := by
  unfold combiningClass
  rcases combiningRuns_ascii c.toNat h with hc | hc
  · exact congrArg (Option.getD · 0) hc
  · exact congrArg (Option.getD · 0) hc

theorem composeStarter_ascii (h : ∀ c ∈ cs, c.toNat < 0x80) (s : Char) :
    composeStarter s [] 0 cs = s :: cs := by
  induction cs generalizing s with
  | nil => rfl
  | cons c cs ih =>
    obtain ⟨hc, hcs⟩ := List.forall_mem_cons.mp h
    rw [composeStarter_starter (taken?_eq_none (composite?_ascii hc s)) (combiningClass_ascii hc),
      ih hcs]
    rfl

theorem ascending_ascii (h : ∀ c ∈ cs, c.toNat < 0x80) (last : Nat) : Ascending last cs := by
  induction cs generalizing last with
  | nil => exact .nil last
  | cons c cs ih =>
    obtain ⟨hc, hcs⟩ := List.forall_mem_cons.mp h
    exact .cons (.inl (combiningClass_ascii hc)) (ih hcs _)

/-- What is done to a text is done to texts in ASCII too, and changes nothing. -/
theorem normal_eq (cs : List Char) : normal cs = compose (orderAfter [] (decompose cs)) := by
  unfold normal
  split
  · rename_i ascii
    have ascii : ∀ c ∈ cs, c.toNat < 0x80 := by simpa using ascii
    have same : IsDecomposed cs := fun c hc => decompose_ascii (ascii c hc)
    rw [same.decompose_eq, (ascending_ascii ascii 0).orderAfter_eq]
    cases cs with
    | nil => rfl
    | cons c cs =>
      obtain ⟨hc, hcs⟩ := List.forall_mem_cons.mp ascii
      rw [compose_starter (combiningClass_ascii hc), composeStarter_ascii hcs]
  · rfl

/-- The normal form of a text is its own normal form. -/
theorem normal_normal (cs : List Char) : normal (normal cs) = normal cs := by
  have decomposed : IsDecomposed (orderAfter [] (decompose cs)) := fun c hc =>
    isDecomposed_decompose cs c ((mem_orderAfter.mp hc).resolve_left List.not_mem_nil)
  have ascending : Ascending 0 (orderAfter [] (decompose cs)) := ascending_orderAfter .nil
  rw [normal_eq (normal cs), normal_eq cs, sameOrder_compose decomposed ascending [],
    ascending.orderAfter_eq]

/-! ## Periods and at-signs -/

/-- A character that is put together with nothing keeps the text behind it apart. -/
theorem composeStarter_aloof (h : ∀ c, composite? s c = none) :
    composeStarter s kept last cs = s :: kept.reverse ++ compose cs := by
  induction cs generalizing kept last with
  | nil => rw [composeStarter_nil, compose, List.append_nil]
  | cons c cs ih =>
    have left : taken? s kept last c = none := taken?_eq_none (h c)
    by_cases starter : combiningClass c = 0
    · rw [composeStarter_starter left starter, compose_starter starter]
    · rw [composeStarter_mark left starter, compose_mark starter, ih, List.reverse_cons]
      simp

section Around

variable (hp : p.toNat < 0x80)

include hp

theorem composeStarter_around : composeStarter s kept last (cs ++ p :: ds) =
    composeStarter s kept last cs ++ composeStarter p [] 0 ds := by
  induction cs generalizing s kept last with
  | nil =>
    exact composeStarter_starter (taken?_eq_none (composite?_ascii hp s)) (combiningClass_ascii hp)
  | cons c cs ih =>
    rw [List.cons_append]
    cases made : taken? s kept last c with
    | some t => rw [composeStarter_taken made, composeStarter_taken made, ih]
    | none =>
      by_cases starter : combiningClass c = 0
      · rw [composeStarter_starter made starter, composeStarter_starter made starter, ih,
          List.append_assoc]
      · rw [composeStarter_mark made starter, composeStarter_mark made starter, ih]

theorem compose_around : compose (cs ++ p :: ds) = compose cs ++ composeStarter p [] 0 ds := by
  induction cs with
  | nil => exact compose_starter (combiningClass_ascii hp)
  | cons c cs ih =>
    rw [List.cons_append]
    by_cases starter : combiningClass c = 0
    · rw [compose_starter starter, compose_starter starter, composeStarter_around hp]
    · rw [compose_mark starter, compose_mark starter, ih, List.cons_append]

end Around

theorem normal_around (hp : p = '.' ∨ p = '@') (cs ds : List Char) :
    normal (cs ++ p :: ds) = normal cs ++ p :: normal ds := by
  have ascii : p.toNat < 0x80 := by rcases hp with rfl | rfl <;> decide
  have aloof : ∀ es, composeStarter p [] 0 es = p :: compose es := fun es =>
    composeStarter_aloof (composite?_aloof hp)
  rw [normal_eq, normal_eq, normal_eq, decompose_append, decompose_cons, decompose_ascii ascii,
    List.singleton_append, orderAfter_append_starter (combiningClass_ascii ascii),
    compose_around ascii, aloof]

/-! ## Characters in ASCII -/

section Ascii

variable (ascii : c.toNat < 0x80)

include ascii

theorem mem_composeStarter (h : c ∈ composeStarter s kept last cs) : c = s ∨ c ∈ kept ∨ c ∈ cs := by
  induction cs generalizing s kept last with
  | nil =>
    rw [composeStarter_nil, List.mem_cons, List.mem_reverse] at h
    exact h.imp_right .inl
  | cons d ds ih =>
    rw [List.mem_cons]
    cases made : taken? s kept last d with
    | some t =>
      have high := (toNat_composite (taken?_eq_some made).1).1
      have other : c ≠ t := fun same => absurd (same ▸ ascii) (Nat.not_lt.mpr high)
      rw [composeStarter_taken made] at h
      exact .inr ((ih h).resolve_left other |>.imp_right .inr)
    | none =>
      by_cases starter : combiningClass d = 0
      · rw [composeStarter_starter made starter, List.mem_append, List.mem_cons,
          List.mem_reverse] at h
        rcases h with (h | h) | h
        · exact .inl h
        · exact .inr (.inl h)
        · exact .inr (.inr ((ih h).imp_right (Or.resolve_left · List.not_mem_nil)))
      · rw [composeStarter_mark made starter] at h
        have behind := ih h
        rw [List.mem_cons, or_assoc] at behind
        exact behind.imp_right fun later => or_left_comm.mp later

theorem mem_compose (h : c ∈ compose cs) : c ∈ cs := by
  induction cs with
  | nil => cases h
  | cons d ds ih =>
    rw [List.mem_cons]
    by_cases starter : combiningClass d = 0
    · rw [compose_starter starter] at h
      exact (mem_composeStarter ascii h).imp_right (Or.resolve_left · List.not_mem_nil)
    · rw [compose_mark starter, List.mem_cons] at h
      exact h.imp_right ih

/-- A character of ASCII in a normal form comes out of the decomposition of a character. -/
theorem mem_normal (h : c ∈ normal cs) : ∃ d ∈ cs, c ∈ decompose [d] := by
  rw [normal_eq] at h
  have h := (mem_orderAfter.mp (mem_compose ascii h)).resolve_left List.not_mem_nil
  obtain ⟨d, hd, h⟩ := List.mem_flatMap.mp h
  exact ⟨d, hd, by rwa [decompose_singleton]⟩

end Ascii

end Weblog.Text
