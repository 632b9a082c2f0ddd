/-
  Lower case for search: a text in lower case has no capitals of ASCII left, and it holds none of
  the characters that patterns cannot tell apart unless it held them before.

  Both follow from the images of single characters. Those of a run are known from its two ends.
-/
import Mathlib.Data.List.Basic
import Weblog.Text.Blank
import Weblog.Text.Case

namespace Weblog.Text

/-- A character that a pattern reads as itself. -/
def IsPlain (c : Char) : Prop := c ≠ '\x00' ∧ c ≠ '\ufffe' ∧ c ≠ '\uffff'

instance : DecidablePred IsPlain := fun c =>
  inferInstanceAs (Decidable (c ≠ '\x00' ∧ c ≠ '\ufffe' ∧ c ≠ '\uffff'))

/-- A character that folding the case of ASCII leaves alone. -/
def IsFolded (c : Char) : Prop := c.toLower = c

instance : DecidablePred IsFolded := fun c => inferInstanceAs (Decidable (c.toLower = c))

/-! ## Images of runs -/

/-- A code point behind the capitals of ASCII that is a character and no noncharacter of the basic
plane. -/
def IsTame (n : Nat) : Prop :=
  0x5A < n ∧ (n < 0xD800 ∨ 0xE000 ≤ n ∧ n < 0xFFFE ∨ 0x10000 ≤ n ∧ n < 0x110000)

theorem toNat_ofNat_of_tame {n : Nat} (h : IsTame n) : (Char.ofNat n).toNat = n := by
  have valid : n.isValidChar := by
    unfold IsTame at h
    unfold Nat.isValidChar
    omega
  rw [Char.ofNat, dif_pos valid]
  rfl

theorem isFolded_of_lt {c : Char} (h : 0x5A < c.toNat) : IsFolded c := by
  refine dif_neg fun capital => ?_
  have : c.toNat ≤ 0x5A := capital.2
  omega

theorem isFolded_ofNat {n : Nat} (h : IsTame n) : IsFolded (Char.ofNat n) := by
  apply isFolded_of_lt
  rw [toNat_ofNat_of_tame h]
  exact h.1

theorem isPlain_ofNat {n : Nat} (h : IsTame n) : IsPlain (Char.ofNat n) := by
  have hn := toNat_ofNat_of_tame h
  unfold IsTame at h
  refine ⟨fun heq => ?_, fun heq => ?_, fun heq => ?_⟩
  · have : n = 0 := by rw [← hn, heq]; rfl
    omega
  · have : n = 0xFFFE := by rw [← hn, heq]; rfl
    omega
  · have : n = 0xFFFF := by rw [← hn, heq]; rfl
    omega

/-- Whether a run is tame at both ends, and on the same side of the gaps. -/
def CaseRun.isTame (r : CaseRun) : Bool :=
  let last := r.image + (r.last - r.first)
  0x5A < r.image &&
    (last < 0xD800 || 0xE000 ≤ r.image && last < 0xFFFE || 0x10000 ≤ r.image && last < 0x110000)

theorem lowerRuns_tame : lowerRuns.all CaseRun.isTame = true := by decide +kernel

/-- All images of a tame run are tame. -/
theorem tame_of_map? {r : CaseRun} (hr : r.isTame = true) {n m : Nat} (h : r.map? n = some m) :
    IsTame m := by
  unfold CaseRun.map? at h
  split at h
  · rename_i hmem
    simp only [Bool.and_eq_true, decide_eq_true_eq] at hmem
    simp only [CaseRun.isTame, Bool.and_eq_true, Bool.or_eq_true, decide_eq_true_eq] at hr
    have := Option.some.inj h
    unfold IsTame
    omega
  · cases h

/-! ## Single characters -/

/-- A fact about the characters of ASCII is settled code point by code point. -/
theorem of_ascii {P : Char → Prop} {c : Char} (hc : c.toNat < 0x80)
    (h : ∀ n < 0x80, P (Char.ofNat n)) : P c := by
  have hn := h c.toNat hc
  rwa [Char.ofNat_toNat] at hn

/-- The code points that a run maps to. -/
def CaseRun.images (r : CaseRun) : Nat × Nat := (r.image, r.image + (r.last - r.first))

/-- A code point that characters beyond ASCII are mapped to. -/
structure IsImage (n : Nat) : Prop where
  tame : IsTame n
  listed : Ranges.has (lowerRuns.map CaseRun.images) n = true

theorem isImage_of_map? {r : CaseRun} {n m : Nat} (hr : r ∈ lowerRuns) (h : r.map? n = some m) :
    IsImage m := by
  refine ⟨tame_of_map? (List.all_eq_true.mp lowerRuns_tame r hr) h, ?_⟩
  unfold CaseRun.map? at h
  split at h
  · rename_i hmem
    obtain rfl := Option.some.inj h
    simp only [Bool.and_eq_true, decide_eq_true_eq] at hmem
    refine List.any_eq_true.mpr ⟨r.images, List.mem_map_of_mem hr, ?_⟩
    show (decide (r.image ≤ _) && decide (_ ≤ r.image + (r.last - r.first))) = true
    rw [Bool.and_eq_true, decide_eq_true_eq, decide_eq_true_eq]
    omega
  · cases h

/-- What characters are mapped to: a letter of ASCII, a dotted letter, the character itself, or an
image of a run. -/
theorem of_mem_lowerChar {P : Char → Prop} {c d : Char} (h : d ∈ lowerChar c)
    (ascii : c.toNat < 0x80 → P c.toLower) (dotted : P 'i' ∧ P '\u0307')
    (same : 0x80 ≤ c.toNat → P c) (image : ∀ n, IsImage n → P (Char.ofNat n)) : P d := by
  unfold lowerChar at h
  split at h
  · rename_i hc
    rw [List.mem_singleton.mp h]
    exact ascii hc
  · rename_i hc
    split at h
    · simp only [List.mem_cons, List.not_mem_nil, or_false] at h
      rcases h with rfl | rfl
      · exact dotted.1
      · exact dotted.2
    · rw [List.mem_singleton.mp h, mapByRuns]
      split
      · rename_i n hn
        obtain ⟨r, hr, hmap⟩ := List.exists_of_findSome?_eq_some hn
        exact image n (isImage_of_map? hr hmap)
      · exact same (Nat.le_of_not_lt hc)

theorem folded_of_mem_lowerChar {c d : Char} (h : d ∈ lowerChar c) : IsFolded d := by
  refine of_mem_lowerChar h (fun hc => ?_) (by decide) (fun hc => isFolded_of_lt (by omega))
    fun n hn => isFolded_ofNat hn.tame
  exact of_ascii (P := fun c => IsFolded c.toLower) hc (by decide)

theorem plain_of_mem_lowerChar {c d : Char} (hc : IsPlain c) (h : d ∈ lowerChar c) :
    IsPlain d := by
  refine of_mem_lowerChar h (fun hlt => ?_) (by decide) (fun _ => hc)
    fun n hn => isPlain_ofNat hn.tame
  exact of_ascii (P := fun c => c ≠ '\x00' → IsPlain c.toLower) hlt (by decide) hc.1

/-! ## Texts -/

/-- A character in lower case comes from one of the text, or is a small sigma. -/
theorem mem_lowerAfter {before cs : List Char} {d : Char} (h : d ∈ lowerAfter before cs) :
    (∃ c ∈ cs, d ∈ lowerChar c) ∨ d = 'ς' ∨ d = 'σ' := by
  induction cs generalizing before with
  | nil => cases h
  | cons c cs ih =>
    rw [lowerAfter_cons] at h
    rcases List.mem_append.mp h with h | h
    · split at h
      · right
        rw [List.mem_singleton.mp h]
        unfold lowerSigma
        split
        · exact .inl rfl
        · exact .inr rfl
      · exact .inl ⟨c, List.mem_cons_self, h⟩
    · obtain ⟨c', hc', hd⟩ | hsigma := ih h
      · exact .inl ⟨c', List.mem_cons_of_mem c hc', hd⟩
      · exact .inr hsigma

theorem folded_of_mem_lower {s : String} {d : Char} (h : d ∈ (lower s).toList) : IsFolded d := by
  rw [toList_lower] at h
  obtain ⟨c, -, hd⟩ | rfl | rfl := mem_lowerAfter h
  · exact folded_of_mem_lowerChar hd
  · decide
  · decide

theorem plain_of_mem_lower {s : String} (hs : ∀ c ∈ s.toList, IsPlain c) {d : Char}
    (h : d ∈ (lower s).toList) : IsPlain d := by
  rw [toList_lower] at h
  obtain ⟨c, hc, hd⟩ | rfl | rfl := mem_lowerAfter h
  · exact plain_of_mem_lowerChar (hs c hc) hd
  · decide
  · decide

/-! ## Words -/

/-- The characters of words come from the text. -/
theorem mem_of_mem_wordsAfter {p : Char → Bool} {word cs w : List Char} {c : Char}
    (hw : w ∈ wordsAfter p word cs) (hc : c ∈ w) : c ∈ word ∨ c ∈ cs := by
  induction cs generalizing word with
  | nil =>
    unfold wordsAfter at hw
    split at hw
    · cases hw
    · rw [List.mem_singleton.mp hw] at hc
      exact .inl (List.mem_reverse.mp hc)
  | cons d cs ih =>
    unfold wordsAfter at hw
    split at hw
    · split at hw
      · exact .inr (List.mem_cons_of_mem d ((ih hw).resolve_left (by simp)))
      · rcases List.mem_cons.mp hw with rfl | hw
        · exact .inl (List.mem_reverse.mp hc)
        · exact .inr (List.mem_cons_of_mem d ((ih hw).resolve_left (by simp)))
    · rcases ih hw with hmem | hmem
      · rcases List.mem_cons.mp hmem with rfl | hmem
        · exact .inr List.mem_cons_self
        · exact .inl hmem
      · exact .inr (List.mem_cons_of_mem d hmem)

theorem mem_of_mem_words {cs w : List Char} {c : Char} (hw : w ∈ words cs) (hc : c ∈ w) :
    c ∈ cs :=
  (mem_of_mem_wordsAfter hw hc).resolve_left (by simp)

end Weblog.Text
