/-
  Characters of domain names. Those that are valid in labels are kept by the mapping of names
  (`IsValid.mapChar?_eq`), and no mapped name holds a capital of ASCII (`toLower_of_mem_map`).

  A capital could come out of a decomposition only. `capitalBits` is a set of code points that holds
  the capitals and whatever has a decomposition that begins with a member; its members are neither
  kept nor in the image of a character. Each table is gone through by itself, since together they
  are long.
-/
import Weblog.Proofs.Domain.Simple
import Weblog.Proofs.Text.Composition

namespace Weblog.Domain

open Text (isSmall Ranges Runs Family Families)

variable {c d : Char} {cs : List Char} {n m : Nat}

/-! ## Tables -/

/-- Code points that no label holds: those of ASCII other than small letters, digits and the hyphen,
those that stand for texts with periods, and the one that stands in for halves of surrogate pairs. -/
def barredLabels : Ranges := [
  (0, 0x2C), (0x2E, 0x2F), (0x3A, 0x60), (0x7B, 0x7F), (0x2024, 0x2026), (0x2488, 0x249B),
  (0x33C2, 0x33C2), (0x33C7, 0x33C7), (0x33D8, 0x33D8), (0xE000, 0xE000), (0xFE19, 0xFE19),
  (0xFE30, 0xFE30), (0xFE52, 0xFE52), (0x1F100, 0x1F100)]

/-- The code points that are valid in labels. -/
def validBits (labels : List (Nat × Char)) : Nat :=
  Runs.bits (fun l => Standing.ofLabel (some l) != .nowhere) labels

/-- The code points that the mapping keeps. -/
def keptBits (mapping : List (Nat × Char)) : Nat := Runs.bits (· == 'v') mapping

/-- Capitals of ASCII, and letters that decompose into one and marks, in stretches. Beside these
letters they hold code points that no mapped name holds. -/
def capitalStretches : List Family := [
  ⟨0x41, 26, 1, []⟩, ⟨0xC0, 23, 1, []⟩, ⟨0xD9, 5, 1, []⟩, ⟨0x100, 28, 2, []⟩, ⟨0x139, 8, 2, []⟩,
  ⟨0x14C, 23, 2, []⟩, ⟨0x179, 3, 2, []⟩, ⟨0x1A0, 1, 1, []⟩, ⟨0x1AF, 1, 1, []⟩, ⟨0x1CD, 8, 2, []⟩,
  ⟨0x1DE, 8, 2, []⟩, ⟨0x1F4, 32, 2, []⟩, ⟨0x1E00, 75, 2, []⟩, ⟨0x1EA0, 45, 2, []⟩,
  ⟨0x212A, 2, 1, []⟩]

def capitalBits : Nat := Text.bitsOf (Text.keys (capitalStretches.flatMap Family.members))

/-- What is valid is kept and not barred, and what is kept is no capital. -/
def agree (labels mapping : List (Nat × Char)) : Bool :=
  let valid := validBits labels
  let kept := keptBits mapping
  valid ||| kept == kept && valid &&& Ranges.bits barredLabels == 0 && kept &&& capitalBits == 0

theorem agree_ofText {ls ms : List String} {l m : List Char} (hl : ls.flatMap String.toList = l)
    (hm : ms.flatMap String.toList = m)
    (h : agree (Runs.written 0 0 l) (Runs.written 0 0 m) = true) :
    agree (Runs.ofText (String.join ls)).toList (Runs.ofText (String.join ms)).toList = true := by
  rw [Runs.toList_ofText, Runs.toList_ofText, String.toList_join, String.toList_join, hl, hm, h]

theorem agree_tables : agree labelRuns.toList mappingRuns.toList = true := by
  unfold labelRuns mappingRuns
  apply agree_ofText
  iterate 2
    · repeat apply Text.flatMap_toList_cons rfl
      exact Text.flatMap_toList_nil
  · decide +kernel

/-- Whether no image holds a capital. -/
def sparesCapitals (fs : List Family) : Bool :=
  fs.all fun f => f.members.all fun e => e.2.all fun m => !capitalBits.testBit m

theorem sparesCapitals_images : sparesCapitals mappedImages.toList = true := by
  unfold mappedImages
  apply Families.check_ofText sparesCapitals
  · repeat apply Text.flatMap_toList_cons rfl
    exact Text.flatMap_toList_nil
  · decide +kernel

/-- Whether all that begins with a capital is one. -/
def closesCapitals (fs : List Family) : Bool :=
  fs.all fun f => f.members.all fun e => !e.2.head?.any capitalBits.testBit || capitalBits.testBit e.1

theorem closesCapitals_decompositions : closesCapitals Text.decompositions.toList = true := by
  unfold Text.decompositions
  apply Families.check_ofText closesCapitals
  · repeat apply Text.flatMap_toList_cons rfl
    exact Text.flatMap_toList_nil
  · decide +kernel

/-- What is found out about the tables of names by going through them. -/
structure Agree (labels mapping : Runs) : Prop where
  valid_kept : validBits labels.toList ||| keptBits mapping.toList = keptBits mapping.toList
  valid_plain : validBits labels.toList &&& Ranges.bits barredLabels = 0
  capital_dropped : keptBits mapping.toList &&& capitalBits = 0

theorem agree_of_check {labels mapping : Runs}
    (h : agree labels.toList mapping.toList = true) : Agree labels mapping := by
  simp only [agree, Bool.and_eq_true, beq_iff_eq] at h
  obtain ⟨⟨kept, plain⟩, dropped⟩ := h
  exact ⟨kept, plain, dropped⟩

theorem tables_agree : Agree labelRuns mappingRuns := agree_of_check agree_tables

theorem isWritten_labelRuns : labelRuns.IsWritten := ⟨_, rfl⟩

theorem isWritten_mappingRuns : mappingRuns.IsWritten := ⟨_, rfl⟩

/-! ## Valid characters -/

/-- Characters that may stand in labels, at least in some context. -/
def IsValid (c : Char) : Prop := standing c ≠ .nowhere

theorem testBit_valid : (validBits labelRuns.toList).testBit c.toNat = true ↔ IsValid c := by
  rw [validBits, isWritten_labelRuns.testBit_bits (Text.toNat_lt_codeBound c), IsValid, standing]
  cases labelRuns.label? c.toNat with
  | none => exact iff_of_false Bool.false_ne_true fun valid => valid rfl
  | some l => exact bne_iff_ne

theorem testBit_kept : (keptBits mappingRuns.toList).testBit c.toNat = true ↔
    mappingRuns.label? c.toNat = some 'v' := by
  rw [keptBits, isWritten_mappingRuns.testBit_bits (Text.toNat_lt_codeBound c)]
  cases mappingRuns.label? c.toNat with
  | none => exact iff_of_false Bool.false_ne_true nofun
  | some l => exact beq_iff_eq.trans Option.some_inj.symm

namespace IsValid

variable (valid : IsValid c)

include valid

/-- The mapping keeps what is valid. -/
theorem mapChar?_eq : mapChar? c = some [c] := by
  have kept : mappingRuns.label? c.toNat = some 'v' :=
    testBit_kept.mp (Text.testBit_of_or tables_agree.valid_kept (testBit_valid.mpr valid))
  rw [mapChar?, kept]
  rfl

theorem not_barred : Ranges.has barredLabels c.toNat = false := by
  rw [← Ranges.testBit_bits]
  exact Text.testBit_eq_false_of_and tables_agree.valid_plain (testBit_valid.mpr valid)

theorem ne_of_barred (h : Ranges.has barredLabels d.toNat = true) : c ≠ d := by
  rintro rfl
  rw [valid.not_barred] at h
  cases h

/-- In ASCII the small letters, the digits and the hyphen are valid. -/
theorem small_or_hyphen (ascii : c.toNat < 0x80) : isSmall c = true ∨ c = '-' := by
  have outside := valid.not_barred
  simp only [barredLabels, Ranges.has_cons, Ranges.has_nil, Bool.or_eq_false_iff,
    Bool.and_eq_false_iff, decide_eq_false_iff_not] at outside
  by_cases hyphen : c.toNat = 0x2D
  · exact .inr (Char.ext (UInt32.toNat_inj.mp hyphen))
  · refine .inl (Text.isSmall_iff.mpr ?_)
    unfold Text.IsSmallCode
    omega

end IsValid

/-! ## Capitals -/

theorem testBit_capitals (hn : 0x41 ≤ n ∧ n < 0x5B) : capitalBits.testBit n = true := by
  have letters : ∀ k < 26, capitalBits.testBit (0x41 + k) = true := by decide +kernel
  have letter := letters (n - 0x41) (by omega)
  rwa [Nat.add_sub_cancel' hn.1] at letter

theorem not_capital_of_outside (outside : capitalBits.testBit n = false) :
    ¬(0x41 ≤ n ∧ n < 0x5B) := fun hn => by
  rw [testBit_capitals hn] at outside
  cases outside

section Tables

variable {fs : Families}

/-- No image holds a capital. -/
theorem outside_of_mem_image (spared : sparesCapitals fs.toList = true) {image : List Nat}
    (h : fs.image? n = some image) (hm : m ∈ image) : capitalBits.testBit m = false := by
  obtain ⟨f, hf, hmember⟩ := Families.mem_members h
  simp only [sparesCapitals, List.all_eq_true, Bool.not_eq_true'] at spared
  exact spared f hf _ hmember m hm

/-- What begins with a capital is one. -/
theorem outside_of_head (closed : closesCapitals fs.toList = true) {first : Nat} {rest : List Nat}
    (h : fs.image? n = some (first :: rest)) (outside : capitalBits.testBit n = false) :
    capitalBits.testBit first = false := by
  obtain ⟨f, hf, hmember⟩ := Families.mem_members h
  simp only [closesCapitals, List.all_eq_true, Bool.or_eq_true, Bool.not_eq_true'] at closed
  refine (closed f hf _ hmember).resolve_right ?_
  rw [outside]
  exact Bool.false_ne_true

/-- A decomposition holds a capital only if it begins with one. -/
theorem not_capital_of_mem (settled : fs.Settled) (closed : closesCapitals fs.toList = true)
    {k : Nat} (outside : capitalBits.testBit n = false) (hm : m ∈ fs.decomposition k n) :
    ¬(0x41 ≤ m ∧ m < 0x5B) := by
  induction k generalizing n with
  | zero =>
    obtain rfl := List.mem_singleton.mp hm
    exact not_capital_of_outside outside
  | succ k ih =>
    cases parts : Text.syllableParts? n with
    | some lvt =>
      obtain ⟨l, v, t⟩ := lvt
      rw [Families.decomposition_of_parts parts] at hm
      simp only [List.mem_append, List.mem_cons, List.not_mem_nil, or_false,
        List.mem_ite_nil_left] at hm
      omega
    | none =>
      cases found : fs.image? n with
      | none =>
        obtain rfl := List.mem_singleton.mp (Families.decomposition_of_stable ⟨parts, found⟩ _ ▸ hm)
        exact not_capital_of_outside outside
      | some image =>
        cases image with
        | nil =>
          simp only [Families.decomposition, parts, found, List.mem_singleton] at hm
          exact hm ▸ not_capital_of_outside outside
        | cons first rest =>
          rw [Families.decomposition_of_image? parts found, List.mem_append] at hm
          rcases hm with hm | hm
          · exact ih (outside_of_head closed found outside) hm
          · have tail := Families.mem_tails (Families.mem_entries found) hm
            have high := (settled.outside_tails tail).1
            omega

end Tables

/-- What a code point that does not begin with a capital decomposes into. -/
theorem not_capital_of_mem_decompose (h : n.isValidChar → capitalBits.testBit n = false)
    (hc : c ∈ Text.decompose [Char.ofNat n]) : ¬(0x41 ≤ c.toNat ∧ c.toNat < 0x5B) := by
  by_cases valid : n.isValidChar
  · rw [Text.decompose_singleton, Text.toNat_ofNat valid] at hc
    obtain ⟨m, hm, rfl⟩ := List.mem_map.mp hc
    have plain := not_capital_of_mem Text.settled closesCapitals_decompositions (h valid) hm
    by_cases valid' : m.isValidChar
    · rwa [Text.toNat_ofNat valid']
    · rw [Char.ofNat, dif_neg valid']
      decide
  · rw [Char.ofNat, dif_neg valid, Text.decompose_ascii (by decide)] at hc
    rw [List.mem_singleton.mp hc]
    decide

theorem mem_imageOf? {label : Option Char} {image : List Char} (h : imageOf? c label = some image)
    (hd : d ∈ image) : label = some 'v' ∧ d = c ∨
      ∃ codes m, mappedImages.image? c.toNat = some codes ∧ m ∈ codes ∧ d = Char.ofNat m := by
  unfold imageOf? at h
  split at h
  · rw [← Option.some.inj h] at hd
    exact .inl ⟨rfl, List.mem_singleton.mp hd⟩
  · obtain ⟨codes, found, rfl⟩ := Option.map_eq_some_iff.mp h
    obtain ⟨m, hm, rfl⟩ := List.mem_map.mp hd
    exact .inr ⟨codes, m, found, hm, rfl⟩
  · rw [← Option.some.inj h] at hd
    cases hd
  · cases h

theorem not_capital_of_mapChar? {image : List Char} (h : mapChar? c = some image) (hd : d ∈ image)
    {e : Char} (he : e ∈ Text.decompose [d]) : ¬(0x41 ≤ e.toNat ∧ e.toNat < 0x5B) := by
  rcases mem_imageOf? h hd with ⟨kept, rfl⟩ | ⟨codes, m, found, hm, rfl⟩
  · rw [← Char.ofNat_toNat d] at he
    refine not_capital_of_mem_decompose (fun _ => ?_) he
    exact Text.testBit_eq_false_of_and tables_agree.capital_dropped (testBit_kept.mpr kept)
  · refine not_capital_of_mem_decompose (fun _ => ?_) he
    exact outside_of_mem_image sparesCapitals_images found hm

theorem mem_mapFrom {domain mapped : List Char} {position : Nat}
    (h : mapFrom domain position cs = .ok mapped) (hd : d ∈ mapped) :
    ∃ c ∈ cs, ∃ image, mapChar? c = some image ∧ d ∈ image := by
  induction cs generalizing position mapped with
  | nil =>
    rw [← Except.ok.inj h] at hd
    cases hd
  | cons c cs ih =>
    obtain ⟨image, himage, hmapped⟩ := bind_eq_ok.mp h
    obtain ⟨rest, hrest, rfl⟩ := map_eq_ok.mp hmapped
    rcases List.mem_append.mp hd with hd | hd
    · refine ⟨c, List.mem_cons_self, image, ?_, hd⟩
      cases found : mapChar? c with
      | none =>
        rw [found] at himage
        cases himage
      | some image' =>
        rw [found] at himage
        rw [Except.ok.inj himage]
    · obtain ⟨c', hc', found⟩ := ih hrest hd
      exact ⟨c', List.mem_cons_of_mem c hc', found⟩

/-- No mapped name holds a capital. -/
theorem toLower_of_mem_map {domain mapped : List Char} (h : map domain = .ok mapped)
    (hc : c ∈ mapped) : c.toLower = c := by
  refine dif_neg fun capital => ?_
  have low : 0x41 ≤ c.toNat := capital.1
  have high : c.toNat ≤ 0x5A := capital.2
  unfold map at h
  split at h
  · cases h
  · obtain ⟨image, himage, rfl⟩ := map_eq_ok.mp h
    obtain ⟨d, hd, hc⟩ := Text.mem_normal (by omega) hc
    obtain ⟨e, -, image', found, hd⟩ := mem_mapFrom himage hd
    exact not_capital_of_mapChar? found hd hc ⟨low, by omega⟩

end Weblog.Domain
