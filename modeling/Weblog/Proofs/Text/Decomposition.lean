/-
  Canonical decompositions: what a text decomposes into decomposes no further
  (`isDecomposed_decompose`), and a character that two make decomposes into what the first of them
  decomposes into, and the second (`decompose_composite`).

  The chains of the table end within four steps. This is found step by step: `unsettled` are the
  entries that have not come to an end after so many steps, and after four there are none.
-/
import Weblog.Proofs.Text.Bits
import Weblog.Proofs.Text.Families
import Weblog.Text.Normal

namespace Weblog.Text

/-! ## The table -/

/-- Whether numbers are code points outside ranges. -/
def avoid (ns : List Nat) (rs : Ranges) : Bool :=
  bitsOf ns &&& Ranges.bits rs == 0 && bitsOf ns >>> codeBound == 0

section Avoid

variable {n : Nat} {ns : List Nat} {rs : Ranges}

theorem has_eq_false_of_avoid (h : avoid ns rs = true) (hn : n ∈ ns) : rs.has n = false := by
  obtain ⟨outside, -⟩ := Bool.and_eq_true_iff.mp h
  rw [← Ranges.testBit_bits]
  exact testBit_eq_false_of_and (beq_iff_eq.mp outside) (testBit_bitsOf.mpr hn)

theorem lt_of_avoid (h : avoid ns rs = true) (hn : n ∈ ns) : n < codeBound := by
  obtain ⟨-, below⟩ := Bool.and_eq_true_iff.mp h
  rcases Nat.lt_or_ge n codeBound with lt | ge
  · exact lt
  · have bit := testBit_bitsOf.mpr hn
    rw [← Nat.add_sub_cancel' ge, ← Nat.testBit_shiftRight, beq_iff_eq.mp below,
      Nat.zero_testBit] at bit
    cases bit

end Avoid

variable (es : List (Nat × List Nat))

/-- The code points of a table. -/
def keys : List Nat := es.map (·.1)

/-- What decompositions begin with. -/
def heads : List Nat := es.filterMap (·.2.head?)

/-- What decompositions go on with. -/
def tails : List Nat := es.flatMap (·.2.tail)

/-- The entries that do not come to an end within `d` steps. -/
def unsettled : (d : Nat) → List (Nat × List Nat)
  | 0 => es
  | d + 1 => (unsettled d).filter fun e => e.2.head?.all (bitsOf (keys (unsettled d))).testBit

/-- ASCII, parts of syllables, syllables and surrogates: they are not in the table. -/
def barredKeys : Ranges := [(0, 0x7F), (0x1100, 0x11FF), (0xAC00, 0xDFFF)]

/-- The period, the at-sign, syllables and surrogates: no decomposition begins with them. -/
def barredHeads : Ranges := [(0x2E, 0x2E), (0x40, 0x40), (0xAC00, 0xDFFF)]

/-- ASCII, syllables and surrogates: no decomposition goes on with them. -/
def barredTails : Ranges := [(0, 0x7F), (0xAC00, 0xDFFF)]

/-- What is found out about the table by going through it. -/
def isSettled (fs : List Family) : Bool :=
  let es := fs.flatMap Family.members
  Families.ascends fs && avoid (keys es) barredKeys && avoid (heads es) barredHeads &&
    avoid (tails es) barredTails && bitsOf (tails es) &&& bitsOf (keys es) == 0 &&
    (unsettled es decompositionDepth).isEmpty

theorem isSettled_decompositions : isSettled decompositions.toList = true := by
  unfold decompositions
  apply Families.check_ofText isSettled
  · repeat apply flatMap_toList_cons rfl
    exact flatMap_toList_nil
  · decide +kernel

/-! ## Tables -/

namespace Families

variable {fs : Families} {n m d : Nat} {image : List Nat}

/-- All members of a table with their images. -/
def entries (fs : Families) : List (Nat × List Nat) := fs.toList.flatMap Family.members

theorem mem_entries (h : fs.image? n = some image) : (n, image) ∈ fs.entries := by
  obtain ⟨f, hf, mem⟩ := mem_members h
  exact List.mem_flatMap.mpr ⟨f, hf, mem⟩

theorem mem_keys {es : List (Nat × List Nat)} (h : (n, image) ∈ es) : n ∈ keys es :=
  List.mem_map_of_mem h

theorem mem_heads {first : Nat} {rest : List Nat} (h : (n, first :: rest) ∈ fs.entries) :
    first ∈ heads fs.entries := List.mem_filterMap.mpr ⟨_, h, rfl⟩

theorem mem_tails {first : Nat} {rest : List Nat} (h : (n, first :: rest) ∈ fs.entries)
    (hm : m ∈ rest) : m ∈ tails fs.entries := List.mem_flatMap.mpr ⟨_, h, hm⟩

/-- What is found out about a table by going through it. -/
structure Settled (fs : Families) : Prop where
  ascends : ascends fs.toList = true
  plainKeys : avoid (keys fs.entries) barredKeys = true
  plainHeads : avoid (heads fs.entries) barredHeads = true
  plainTails : avoid (tails fs.entries) barredTails = true
  apart : bitsOf (tails fs.entries) &&& bitsOf (keys fs.entries) = 0
  ends : unsettled fs.entries decompositionDepth = []

theorem settled_of_check (checked : isSettled fs.toList = true) : fs.Settled := by
  simp only [isSettled, Bool.and_eq_true, beq_iff_eq, List.isEmpty_iff] at checked
  obtain ⟨⟨⟨⟨⟨ascends, keys⟩, heads⟩, tails⟩, apart⟩, ends⟩ := checked
  exact ⟨ascends, keys, heads, tails, apart, ends⟩

/-! ## Code points that do not decompose -/

/-- A code point that does not decompose. -/
def Stable (fs : Families) (n : Nat) : Prop := syllableParts? n = none ∧ fs.image? n = none

theorem decomposition_of_stable (h : fs.Stable n) (d : Nat) : fs.decomposition d n = [n] := by
  cases d with
  | zero => rfl
  | succ d => simp only [decomposition, h.1, h.2]

theorem decomposition_of_image? {first : Nat} {rest : List Nat} (plain : syllableParts? n = none)
    (h : fs.image? n = some (first :: rest)) :
    fs.decomposition (d + 1) n = fs.decomposition d first ++ rest := by
  simp only [decomposition, plain, h]

theorem syllableParts?_eq_some {l v t : Nat} : syllableParts? n = some (l, v, t) ↔
    (0xAC00 ≤ n ∧ n < 0xAC00 + 11172) ∧ (n - 0xAC00) / 588 = l ∧
      (n - 0xAC00) % 588 / 28 = v ∧ (n - 0xAC00) % 28 = t := by
  unfold syllableParts?
  split
  · rename_i inside
    simp only [Option.some.injEq, Prod.mk.injEq, inside, and_self, true_and]
  · rename_i outside
    simp only [outside, false_and, reduceCtorEq]

theorem syllableParts?_eq_none (h : n < 0xAC00 ∨ 0xAC00 + 11172 ≤ n) : syllableParts? n = none :=
  if_neg (by omega)

theorem image?_eq_none (h : n ∉ keys fs.entries) : fs.image? n = none := by
  cases found : fs.image? n with
  | none => rfl
  | some image => exact absurd (mem_keys (mem_entries found)) h

theorem stable_of_notMem (h : n ∉ keys fs.entries) (hn : n < 0xAC00 ∨ 0xAC00 + 11172 ≤ n) :
    fs.Stable n :=
  ⟨syllableParts?_eq_none hn, image?_eq_none h⟩

/-- Once all parts are stable nothing is changed by further steps. -/
theorem decomposition_succ (h : ∀ m ∈ fs.decomposition d n, fs.Stable m) :
    fs.decomposition (d + 1) n = fs.decomposition d n := by
  induction d generalizing n with
  | zero => exact decomposition_of_stable (h n (List.mem_singleton_self n)) 1
  | succ d ih =>
    cases parts : syllableParts? n with
    | some lvt => simp only [decomposition, parts]
    | none =>
      cases found : fs.image? n with
      | none => simp only [decomposition, parts, found]
      | some image =>
        cases image with
        | nil => simp only [decomposition, parts, found]
        | cons first rest =>
          rw [decomposition_of_image? parts found] at h ⊢
          rw [decomposition_of_image? parts found, ih fun m hm => h m (List.mem_append_left rest hm)]

section Settled

variable (settled : fs.Settled)

include settled

theorem Settled.outside_keys (h : n ∈ keys fs.entries) :
    0x80 ≤ n ∧ (n < 0x1100 ∨ 0x1200 ≤ n) ∧ (n < 0xAC00 ∨ 0xE000 ≤ n) ∧ n < 0x110000 := by
  have below : n < 0x110000 := lt_of_avoid settled.plainKeys h
  have outside := has_eq_false_of_avoid settled.plainKeys h
  simp only [barredKeys, Ranges.has_cons, Ranges.has_nil, Bool.or_false, Bool.or_eq_false_iff,
    Bool.and_eq_false_iff, decide_eq_false_iff_not] at outside
  omega

theorem Settled.stable_of_ascii (h : n < 0x80) : fs.Stable n :=
  stable_of_notMem (fun key => by have := settled.outside_keys key; omega) (by omega)

theorem Settled.stable_of_part (h : 0x1100 ≤ n ∧ n < 0x1200) : fs.Stable n :=
  stable_of_notMem (fun key => by have := settled.outside_keys key; omega) (by omega)

theorem Settled.outside_tails (h : m ∈ tails fs.entries) :
    0x80 ≤ m ∧ (m < 0xAC00 ∨ 0xE000 ≤ m) := by
  have outside := has_eq_false_of_avoid settled.plainTails h
  simp only [barredTails, Ranges.has_cons, Ranges.has_nil, Bool.or_false, Bool.or_eq_false_iff,
    Bool.and_eq_false_iff, decide_eq_false_iff_not] at outside
  omega

theorem Settled.outside_heads (h : m ∈ heads fs.entries) :
    m ≠ 0x2E ∧ m ≠ 0x40 ∧ (m < 0xAC00 ∨ 0xAC00 + 11172 ≤ m) := by
  have outside := has_eq_false_of_avoid settled.plainHeads h
  simp only [barredHeads, Ranges.has_cons, Ranges.has_nil, Bool.or_false, Bool.or_eq_false_iff,
    Bool.and_eq_false_iff, decide_eq_false_iff_not] at outside
  omega

theorem Settled.stable_of_tail (h : m ∈ tails fs.entries) : fs.Stable m := by
  have outside := settled.outside_tails h
  refine stable_of_notMem (fun key => ?_) (by omega)
  have none := testBit_eq_false_of_and settled.apart (testBit_bitsOf.mpr h)
  rw [testBit_bitsOf.mpr key] at none
  cases none

theorem Settled.stable_of_mem_parts {l v t : Nat} (h : syllableParts? n = some (l, v, t))
    (hm : m ∈ [0x1100 + l, 0x1161 + v] ++ if t = 0 then [] else [0x11A7 + t]) : fs.Stable m := by
  rw [syllableParts?_eq_some] at h
  apply settled.stable_of_part
  simp only [List.mem_append, List.mem_cons, List.not_mem_nil, or_false,
    List.mem_ite_nil_left] at hm
  omega

/-- What has come to an end has stable parts. -/
theorem Settled.stable_of_ended (h : ∀ image, fs.image? n = some image →
      (n, image) ∉ unsettled fs.entries d) (hn : n < 0xAC00 ∨ 0xAC00 + 11172 ≤ n) :
    ∀ m ∈ fs.decomposition d n, fs.Stable m := by
  have plain : syllableParts? n = none := syllableParts?_eq_none hn
  induction d generalizing n with
  | zero =>
    intro m hm
    rw [List.mem_singleton.mp hm]
    refine ⟨plain, ?_⟩
    cases found : fs.image? n with
    | none => rfl
    | some image => exact absurd (mem_entries found) (h image found)
  | succ d ih =>
    cases found : fs.image? n with
    | none =>
      intro m hm
      simp only [decomposition, plain, found, List.mem_singleton] at hm
      exact hm ▸ ⟨plain, found⟩
    | some image =>
      by_cases going : (n, image) ∈ unsettled fs.entries d
      · -- It comes to an end in this step, since what it begins with had come to one before.
        have next := h image found
        rw [unsettled, List.mem_filter, and_iff_right going] at next
        cases image with
        | nil => exact absurd rfl next
        | cons first rest =>
          have entry := mem_entries found
          have ended : first ∉ keys (unsettled fs.entries d) := fun key =>
            next (testBit_bitsOf.mpr key)
          have outside := (settled.outside_heads (mem_heads entry)).2.2
          have front := ih (n := first) (fun image' _ mem => ended (mem_keys mem)) outside
            (syllableParts?_eq_none outside)
          rw [decomposition_of_image? plain found, List.forall_mem_append]
          exact ⟨front, fun m hm => settled.stable_of_tail (mem_tails entry hm)⟩
      · -- It had come to an end a step before.
        have before := ih (fun image' found' => by
          rw [found] at found'
          exact Option.some.inj found' ▸ going) hn plain
        rw [decomposition_succ before]
        exact before

/-- What a code point decomposes into is stable. -/
theorem Settled.stable_of_mem (hm : m ∈ fs.decomposition decompositionDepth n) : fs.Stable m := by
  rcases Nat.lt_or_ge n 0xAC00 with low | high
  · exact settled.stable_of_ended (fun image _ => by simp [settled.ends]) (.inl low) m hm
  · rcases Nat.lt_or_ge n (0xAC00 + 11172) with low | high'
    · have parts : syllableParts? n = some _ := if_pos ⟨high, low⟩
      rw [decompositionDepth, decomposition, parts] at hm
      exact settled.stable_of_mem_parts parts hm
    · exact settled.stable_of_ended (fun image _ => by simp [settled.ends]) (.inr high') m hm

/-- A code point that is given with two decomposes into what the first of them decomposes into, and
the second. -/
theorem Settled.decomposition_pair {first second : Nat}
    (found : fs.image? n = some [first, second]) :
    fs.decomposition decompositionDepth n =
      fs.decomposition decompositionDepth first ++ [second] := by
  have outside := settled.outside_keys (mem_keys (mem_entries found))
  have step : fs.decomposition decompositionDepth n = fs.decomposition 3 first ++ [second] :=
    decomposition_of_image? (syllableParts?_eq_none (by omega)) found
  have front : ∀ m ∈ fs.decomposition 3 first, fs.Stable m := fun m hm =>
    settled.stable_of_mem (n := n) (step ▸ List.mem_append_left [second] hm)
  rw [step, ← decomposition_succ front]
  rfl

end Settled

/-- A syllable decomposes into its parts. -/
theorem decomposition_of_parts {l v t : Nat} (h : syllableParts? n = some (l, v, t)) (d : Nat) :
    fs.decomposition (d + 1) n =
      [0x1100 + l, 0x1161 + v] ++ if t = 0 then [] else [0x11A7 + t] := by
  simp only [decomposition, h]

theorem syllable?_bounds {a b : Nat} (h : syllable? a b = some n) :
    0xAC00 ≤ n ∧ n < 0xAC00 + 11172 := by
  unfold syllable? at h
  split at h
  · have hn := Option.some.inj h
    omega
  · split at h
    · split at h
      · rename_i l v front
        have hn := Option.some.inj h
        rw [syllableParts?_eq_some] at front
        omega
      · cases h
    · cases h

/-- What two parts are put together to decomposes into what the first of them decomposes into, and
the second. -/
theorem Settled.decomposition_syllable (settled : fs.Settled) {a b : Nat}
    (h : syllable? a b = some n) :
    fs.decomposition decompositionDepth n = fs.decomposition decompositionDepth a ++ [b] := by
  unfold syllable? at h
  split at h
  · have parts : syllableParts? n = some (a - 0x1100, b - 0x1161, 0) := by
      have hn := Option.some.inj h
      rw [syllableParts?_eq_some]
      omega
    rw [decompositionDepth, decomposition_of_parts parts,
      decomposition_of_stable (settled.stable_of_part (by omega)), if_pos rfl, List.append_nil,
      Nat.add_sub_cancel' (by omega), Nat.add_sub_cancel' (by omega)]
    rfl
  · split at h
    · split at h
      · rename_i l v front
        have parts : syllableParts? n = some (l, v, b - 0x11A7) := by
          have hn := Option.some.inj h
          rw [syllableParts?_eq_some] at front ⊢
          omega
        rw [decompositionDepth, decomposition_of_parts parts, decomposition_of_parts front,
          if_neg (by omega), if_pos rfl, List.append_nil, Nat.add_sub_cancel' (by omega)]
      · cases h
    · cases h

end Families

theorem settled : decompositions.Settled := Families.settled_of_check isSettled_decompositions

/-! ## Characters -/

variable {s c t : Char} {cs ds : List Char}

theorem decompose_nil : decompose [] = [] := rfl

theorem decompose_append : decompose (cs ++ ds) = decompose cs ++ decompose ds :=
  List.flatMap_append

theorem decompose_cons : decompose (c :: cs) = decompose [c] ++ decompose cs := by
  rw [← decompose_append, List.singleton_append]

theorem decompose_singleton (c : Char) : decompose [c] =
    (decompositions.decomposition decompositionDepth c.toNat).map Char.ofNat :=
  List.flatMap_singleton ..

/-- A text whose characters do not decompose. -/
def IsDecomposed (cs : List Char) : Prop := ∀ c ∈ cs, decompose [c] = [c]

theorem IsDecomposed.decompose_eq (h : IsDecomposed cs) : decompose cs = cs := by
  induction cs with
  | nil => rfl
  | cons c cs ih =>
    rw [decompose_cons, h c List.mem_cons_self, ih fun d hd => h d (List.mem_cons_of_mem c hd)]
    rfl

theorem decompose_of_stable (h : decompositions.Stable c.toNat) : decompose [c] = [c] := by
  rw [decompose_singleton, Families.decomposition_of_stable h]
  exact congrArg (· :: []) (Char.ofNat_toNat c)

theorem decompose_ascii (h : c.toNat < 0x80) : decompose [c] = [c] :=
  decompose_of_stable (settled.stable_of_ascii h)

theorem toNat_ofNat {n : Nat} (h : n.isValidChar) : (Char.ofNat n).toNat = n := by
  rw [Char.ofNat, dif_pos h]
  rfl

/-- What a text decomposes into decomposes no further. -/
theorem isDecomposed_decompose (cs : List Char) : IsDecomposed (decompose cs) := by
  intro c hc
  obtain ⟨a, -, hc⟩ := List.mem_flatMap.mp hc
  obtain ⟨m, hm, rfl⟩ := List.mem_map.mp hc
  by_cases valid : m.isValidChar
  · apply decompose_of_stable
    rw [toNat_ofNat valid]
    exact settled.stable_of_mem hm
  · rw [Char.ofNat, dif_neg valid]
    exact decompose_ascii (by decide)

/-! ## Composites -/

/-- Two characters that are put together are parts of a syllable or stand in the table. -/
theorem composite?_cases (h : composite? s c = some t) :
    (∃ n, syllable? s.toNat c.toNat = some n ∧ t = Char.ofNat n) ∨
      ∃ n, decompositions.image? n = some [s.toNat, c.toNat] ∧ t = Char.ofNat n := by
  unfold composite? at h
  split at h
  · rename_i n made
    exact .inl ⟨n, made, (Option.some.inj h).symm⟩
  · split at h
    · cases h
    · obtain ⟨n, found, rfl⟩ := Option.map_eq_some_iff.mp h
      refine .inr ⟨n, ?_, rfl⟩
      obtain ⟨before, after, split, -⟩ := List.lookup_eq_some_iff.mp found
      have mem : ((s.toNat, c.toNat), n) ∈ composites :=
        split ▸ List.mem_append_right before List.mem_cons_self
      obtain ⟨f, hf, made⟩ := List.mem_filterMap.mp mem
      have image := Families.image?_of_mem (Families.pairwise_of_ascends settled.ascends) hf
      split at made
      · rename_i a b two
        split at made
        · cases made
        · obtain ⟨⟨rfl, rfl⟩, rfl⟩ : (a = s.toNat ∧ b = c.toNat) ∧ f.first = n := by
            simpa using made
          rw [image, two]
      · cases made

/-- The code points of composites. -/
theorem toNat_composite (h : composite? s c = some t) : 0x80 ≤ t.toNat ∧
    (syllable? s.toNat c.toNat = some t.toNat ∨
      decompositions.image? t.toNat = some [s.toNat, c.toNat]) := by
  rcases composite?_cases h with ⟨n, made, rfl⟩ | ⟨n, found, rfl⟩
  · have bounds := Families.syllable?_bounds made
    have valid : n.isValidChar := by
      unfold Nat.isValidChar
      omega
    rw [toNat_ofNat valid]
    exact ⟨by omega, .inl made⟩
  · have outside := settled.outside_keys (Families.mem_keys (Families.mem_entries found))
    have valid : n.isValidChar := by
      unfold Nat.isValidChar
      omega
    rw [toNat_ofNat valid]
    exact ⟨outside.1, .inr found⟩

/-- What two characters make decomposes into what the first of them decomposes into, and the
second. -/
theorem decompose_composite (h : composite? s c = some t) :
    decompose [t] = decompose [s] ++ [c] := by
  have parts : decompositions.decomposition decompositionDepth t.toNat =
      decompositions.decomposition decompositionDepth s.toNat ++ [c.toNat] := by
    rcases (toNat_composite h).2 with made | found
    · exact settled.decomposition_syllable made
    · exact settled.decomposition_pair found
  rw [decompose_singleton, parts, List.map_append, ← decompose_singleton, List.map_singleton,
    Char.ofNat_toNat]

/-- Nothing is put together with a period or an at-sign in front. -/
theorem composite?_aloof (h : s = '.' ∨ s = '@') (c : Char) : composite? s c = none := by
  cases made : composite? s c with
  | none => rfl
  | some t =>
    have hs : s.toNat = 0x2E ∨ s.toNat = 0x40 := h.imp (congrArg Char.toNat) (congrArg Char.toNat)
    rcases composite?_cases made with ⟨n, made, -⟩ | ⟨n, found, -⟩
    · have none : syllable? s.toNat c.toNat = none := by
        have front : syllableParts? s.toNat = none := Families.syllableParts?_eq_none (by omega)
        unfold syllable?
        rw [if_neg (by omega), front]
        exact ite_self none
      rw [none] at made
      cases made
    · have outside := settled.outside_heads (Families.mem_heads (Families.mem_entries found))
      omega

/-- Nothing in ASCII is put together with what stands in front. -/
theorem composite?_ascii (h : c.toNat < 0x80) (s : Char) : composite? s c = none := by
  unfold composite?
  have none : syllable? s.toNat c.toNat = none := by
    unfold syllable?
    rw [if_neg (by omega), if_neg (by omega)]
  rw [none]
  exact if_pos h

end Weblog.Text
