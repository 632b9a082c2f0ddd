/-
  Tables of families: what is found in one stands in it, and the first member of each family is
  found.

  The families are read once more as a list, `Families.written`. The bisection is the one of
  run-length tables, so that it ends at the last family that starts early enough
  (`Runs.search_spec`).
-/
import Weblog.Proofs.Text.Runs
import Weblog.Text.Families

namespace Weblog.Text

/-! ## Members -/

namespace Family

variable {f : Family} {n : Nat} {image : List Nat}

/-- The members of a family with their images. -/
def members (f : Family) : List (Nat × List Nat) :=
  (List.range (f.count - 1 + 1)).map fun j =>
    (f.first + j * f.stride, f.image.map (· + j * f.stride))

theorem mem_members (h : f.image? n = some image) : (n, image) ∈ f.members := by
  unfold image? at h
  split at h
  · rename_i inside
    obtain ⟨low, high, aligned⟩ := inside
    have steps : (n - f.first) / f.stride * f.stride = n - f.first :=
      Nat.div_mul_cancel (Nat.dvd_of_mod_eq_zero aligned)
    rw [← Option.some.inj h]
    refine List.mem_map.mpr ⟨(n - f.first) / f.stride, List.mem_range.mpr ?_, ?_⟩
    · unfold last at high
      refine Nat.lt_succ_of_le (Nat.div_le_of_le_mul ?_)
      rw [Nat.mul_comm]
      omega
    · rw [steps, Nat.add_sub_cancel' low]
  · cases h

theorem image?_first (f : Family) : f.image? f.first = some f.image := by
  unfold image? last
  rw [if_pos ⟨Nat.le_refl _, Nat.le_add_right _ _, by simp⟩]
  simp

end Family

namespace Families

variable {fs : Families} {f : Family} {n : Nat} {image : List Nat}

/-! ## Families as they are written -/

/-- The families that are written in a text, one after another. -/
def written (last : Nat) (e : Entry) : List Char → List Family
  | [] => []
  | c :: cs =>
    match hexDigitValue? c with
    | some d => written last { e with number := 16 * e.number + d } cs
    | none =>
      match c with
      | '=' => written last ⟨0, last + e.number, []⟩ cs
      | '.' => written last ⟨0, e.first, e.number :: e.image⟩ cs
      | ';' => ⟨e.first, 1, 1, (e.number :: e.image).reverse⟩ :: written e.first ⟨0, 0, []⟩ cs
      | _ =>
        let f : Family := ⟨e.first, e.number, if c = '~' then 2 else 1, e.image.reverse⟩
        f :: written f.last ⟨0, 0, []⟩ cs

theorem toList_ofChars (last : Nat) (e : Entry) (done : Families) (cs : List Char) :
    (ofChars last e done cs).toList = done.toList ++ written last e cs := by
  induction cs generalizing last e done with
  | nil => simp [ofChars, written]
  | cons c cs ih =>
    unfold ofChars written
    cases hexDigitValue? c with
    | some d => exact ih ..
    | none =>
      dsimp only
      split
      · exact ih ..
      · exact ih ..
      · simp [ih]
      · simp [ih]

theorem toList_ofText (s : String) : (ofText s).toList = written 0 ⟨0, 0, []⟩ s.toList := by
  simp [ofText, toList_ofChars]

/-- What is checked of a table is checked of the literals that it is written in. -/
theorem check_ofText (check : List Family → Bool) {ss : List String} {cs : List Char}
    (hs : ss.flatMap String.toList = cs) (h : check (written 0 ⟨0, 0, []⟩ cs) = true) :
    check (ofText (String.join ss)).toList = true := by
  rw [toList_ofText, String.toList_join, hs, h]

/-- What is found is a member of a family. -/
theorem mem_members (h : fs.image? n = some image) : ∃ f ∈ fs.toList, (n, image) ∈ f.members := by
  unfold image? at h
  obtain ⟨f, hf, himage⟩ := Option.bind_eq_some_iff.mp h
  exact ⟨f, Array.mem_toList_iff.mpr (Array.mem_of_getElem? hf), Family.mem_members himage⟩

/-! ## Bisection -/

/-- The bisection looks at the first members only. -/
theorem search_eq (fs : Families) (n lo hi : Nat) :
    fs.search n lo hi = Runs.search (fs.map fun f => (f.first, ' ')) n lo hi := by
  fun_induction search fs n lo hi with
  | case1 lo hi wide mid f hmid early ih =>
    rw [Runs.search, if_pos wide, ih]
    simp [mid, hmid, early]
  | case2 lo hi wide mid f hmid late ih =>
    rw [Runs.search, if_pos wide, ih]
    simp [mid, hmid, late]
  | case3 lo hi wide mid hmid =>
    rw [Runs.search, if_pos wide]
    simp [mid, hmid]
  | case4 lo hi narrow => rw [Runs.search, if_neg narrow]

/-- Whether each family ends before the next one starts. -/
def ascends : List Family → Bool
  | [] => true
  | [_] => true
  | f :: g :: fs => decide (f.last < g.first) && ascends (g :: fs)

theorem pairwise_of_ascends {fs : List Family} (h : ascends fs = true) :
    fs.Pairwise (·.last < ·.first) := by
  induction fs with
  | nil => exact .nil
  | cons f fs ih =>
    cases fs with
    | nil => exact List.pairwise_singleton ..
    | cons g fs =>
      obtain ⟨next, rest⟩ := Bool.and_eq_true_iff.mp h
      have later := ih rest
      refine List.pairwise_cons.mpr ⟨fun f' hf' => ?_, later⟩
      have step : f.last < g.first := of_decide_eq_true next
      rcases List.mem_cons.mp hf' with rfl | hf'
      · exact step
      · have beyond := (List.pairwise_cons.mp later).1 f' hf'
        exact Nat.lt_of_lt_of_le step
          (Nat.le_trans (Nat.le_add_right g.first _) (Nat.le_of_lt beyond))

/-- In an ascending table the first member of each family is found. -/
theorem image?_of_mem (ascending : fs.toList.Pairwise (·.last < ·.first)) (hf : f ∈ fs.toList) :
    fs.image? f.first = some f.image := by
  obtain ⟨k, hk, rfl⟩ := List.mem_iff_getElem.mp hf
  rw [Array.length_toList] at hk
  rw [Array.getElem_toList]
  have nonempty : ∀ g : Family, g.first ≤ g.last := fun g => Nat.le_add_right g.first _
  have sorted : (fs.map fun g => (g.first, ' ')).toList.Pairwise (·.1 ≤ ·.1) := by
    rw [Array.toList_map, List.pairwise_map]
    exact ascending.imp fun {g g'} h => Nat.le_trans (nonempty g) (Nat.le_of_lt h)
  obtain ⟨-, inside, early, late⟩ := Runs.search_spec (n := fs[k].first) sorted
    (Nat.zero_lt_of_lt ((Array.size_map ..).symm ▸ hk)) (Nat.le_refl _)
  rw [← search_eq, Array.size_map] at inside early late
  generalize hi : fs.search fs[k].first 0 fs.size = i at inside early late
  have le : k ≤ i := by
    rcases Nat.lt_or_ge i k with beyond | le
    · have start := late k (fs[k].first, ' ') beyond hk (by simp [hk])
      exact absurd start (Nat.lt_irrefl _)
    · exact le
  have same : k = i := by
    rcases Nat.eq_or_lt_of_le le with same | before
    · exact same
    · have start : fs[i].first ≤ fs[k].first :=
        early (fs[i].first, ' ') (by simp [inside]) (Nat.zero_lt_of_lt before)
      have apart : fs[k].last < fs[i].first := by
        have ordered := List.pairwise_iff_getElem.mp ascending k i (by simpa using hk)
          (by simpa using inside) before
        simpa using ordered
      have := nonempty fs[k]
      omega
  subst same
  rw [image?, hi, Array.getElem?_eq_getElem hk, Option.bind_some, Family.image?_first]

end Families

end Weblog.Text
