/-
  Run-length tables: the bisection finds the run that holds a code point.

  The runs are read once more as a list, `Runs.written`, whose first members ascend because the
  lengths are natural numbers. `label?_ofText` then says that the label of a code point is the one
  of the last run that starts at or before it.
-/
import Weblog.Text.Runs

namespace Weblog.Text

/-! ## Literals -/

/-- A literal is read off its bytes, which takes far fewer steps than the decoding does. -/
theorem toList_of_utf8Encode {s : String} {l : List Char} (h : s.toByteArray = l.utf8Encode) :
    s.toList = l := by
  have same : s = String.ofList l := String.toByteArray_inj.mp h
  rw [same, String.toList_ofList]

theorem flatMap_toList_cons {s : String} {ss : List String} {l ls : List Char}
    (hs : s.toByteArray = l.utf8Encode) (h : ss.flatMap String.toList = ls) :
    (s :: ss).flatMap String.toList = l ++ ls := by
  rw [List.flatMap_cons, h, toList_of_utf8Encode hs]

theorem flatMap_toList_nil : ([] : List String).flatMap String.toList = [] := rfl

namespace Runs

/-! ## Runs as they are written -/

/-- The runs that are written in a text, one after another. -/
def written (start length : Nat) : List Char → List (Nat × Char)
  | [] => []
  | c :: cs =>
    match hexDigitValue? c with
    | some d => written start (16 * length + d) cs
    | none => (start, c) :: written (start + length) 0 cs

theorem toList_runsAfter (start length : Nat) (done : Runs) (cs : List Char) :
    (runsAfter start length done cs).toList = done.toList ++ written start length cs := by
  induction cs generalizing start length done with
  | nil => simp [runsAfter, written]
  | cons c cs ih =>
    unfold runsAfter written
    cases hexDigitValue? c with
    | some d => exact ih start (16 * length + d) done
    | none => simp [ih]

theorem toList_ofText (s : String) : (ofText s).toList = written 0 0 s.toList := by
  simp [ofText, toList_runsAfter]

theorem le_of_mem_written {start length : Nat} {cs : List Char} {r : Nat × Char}
    (h : r ∈ written start length cs) : start ≤ r.1 := by
  induction cs generalizing start length with
  | nil => cases h
  | cons c cs ih =>
    unfold written at h
    split at h
    · exact ih h
    · rcases List.mem_cons.mp h with rfl | h
      · exact Nat.le_refl start
      · exact Nat.le_trans (Nat.le_add_right start length) (ih h)

/-- The first members of the runs ascend. -/
theorem pairwise_written (start length : Nat) (cs : List Char) :
    (written start length cs).Pairwise (·.1 ≤ ·.1) := by
  induction cs generalizing start length with
  | nil => exact List.Pairwise.nil
  | cons c cs ih =>
    unfold written
    split
    · exact ih start _
    · refine List.pairwise_cons.mpr ⟨fun r hr => ?_, ih _ 0⟩
      exact Nat.le_trans (Nat.le_add_right start length) (le_of_mem_written hr)

/-- The first run starts where the table starts. -/
theorem head?_written (start length : Nat) (cs : List Char) :
    ∀ r ∈ (written start length cs).head?, r.1 = start := by
  induction cs generalizing length with
  | nil => simp [written]
  | cons c cs ih =>
    unfold written
    split
    · exact ih _
    · simp

/-! ## Bisection -/

variable {rs : Runs} {n lo hi : Nat}

/-- Starts in an ascending table. -/
theorem start_mono (sorted : rs.toList.Pairwise (·.1 ≤ ·.1)) {i j : Nat} {a b : Nat × Char}
    (ha : rs[i]? = some a) (hb : rs[j]? = some b) (hij : i ≤ j) : a.1 ≤ b.1 := by
  rw [← Array.getElem?_toList] at ha hb
  obtain ⟨hi, rfl⟩ := List.getElem?_eq_some_iff.mp ha
  obtain ⟨hj, rfl⟩ := List.getElem?_eq_some_iff.mp hb
  rcases Nat.eq_or_lt_of_le hij with rfl | hlt
  · exact Nat.le_refl _
  · exact List.pairwise_iff_getElem.mp sorted i j hi hj hlt

/-- The bisection ends inside its bounds. Where it ends a run starts at or before the code point
unless it is the lower bound, and from there to the upper bound no run does. -/
theorem search_spec (sorted : rs.toList.Pairwise (·.1 ≤ ·.1)) (hlt : lo < hi)
    (hle : hi ≤ rs.size) :
    lo ≤ rs.search n lo hi ∧ rs.search n lo hi < hi ∧
      (∀ r, rs[rs.search n lo hi]? = some r → lo < rs.search n lo hi → r.1 ≤ n) ∧
      ∀ i r, rs.search n lo hi < i → i < hi → rs[i]? = some r → n < r.1 := by
  fun_induction Runs.search with
  | case1 lo hi hwide mid start label hmid hstart ih =>
    -- The run in the middle starts early enough: the search goes on above it.
    obtain ⟨hmin, hmax, hfound, hrest⟩ := ih (by omega) hle
    refine ⟨by omega, hmax, fun r hr _ => ?_, hrest⟩
    rcases Nat.eq_or_lt_of_le hmin with heq | hgt
    · rw [← heq, hmid] at hr
      exact Option.some.inj hr ▸ hstart
    · exact hfound r hr hgt
  | case2 lo hi hwide mid start label hmid hstart ih =>
    -- It starts too late, and so do all runs above it.
    obtain ⟨hmin, hmax, hfound, hrest⟩ := ih (by omega) (by omega)
    refine ⟨hmin, by omega, hfound, fun i r hi _ hr => ?_⟩
    rcases Nat.lt_or_ge i mid with hlow | hhigh
    · exact hrest i r hi hlow hr
    · exact Nat.lt_of_lt_of_le (Nat.lt_of_not_le hstart) (start_mono sorted hmid hr hhigh)
  | case3 lo hi hwide mid hmid =>
    have hsize : mid < rs.size := by omega
    rw [Array.getElem?_eq_getElem hsize] at hmid
    cases hmid
  | case4 lo hi hnarrow =>
    exact ⟨Nat.le_refl lo, hlt, fun _ _ h => absurd h (Nat.lt_irrefl lo), fun i _ _ _ => by omega⟩

/-- The label of a code point is the label of the last run that starts at or before it. -/
theorem label?_ofText (s : String) (n : Nat) :
    (ofText s).label? n = ((written 0 0 s.toList).takeWhile (·.1 ≤ n)).getLast?.map (·.2) := by
  have hsorted : (ofText s).toList.Pairwise (·.1 ≤ ·.1) :=
    toList_ofText s ▸ pairwise_written 0 0 s.toList
  have hfirst := head?_written 0 0 s.toList
  unfold label?
  rw [← toList_ofText] at hfirst ⊢
  generalize ofText s = rs at hsorted hfirst
  congr 1
  rcases Nat.eq_zero_or_pos rs.size with hempty | hpos
  · obtain rfl := Array.eq_empty_of_size_eq_zero hempty
    simp
  obtain ⟨-, hmax, hfound, hrest⟩ := search_spec (n := n) hsorted hpos (Nat.le_refl rs.size)
  generalize rs.search n 0 rs.size = i at hmax hfound hrest
  have hstart : rs[i].1 ≤ n := by
    rcases Nat.eq_zero_or_pos i with rfl | hi
    · rw [hfirst rs[0] (by simp [List.head?_eq_getElem?, hmax])]
      exact Nat.zero_le n
    · exact hfound rs[i] (Array.getElem?_eq_getElem hmax) hi
  have hbefore : ∀ r ∈ rs.toList.take (i + 1), decide (r.1 ≤ n) = true := by
    intro r hr
    obtain ⟨j, hj, rfl⟩ := List.mem_take_iff_getElem.mp hr
    have hle : j ≤ i := Nat.le_of_lt_succ (Nat.lt_of_lt_of_le hj (Nat.min_le_left _ _))
    have hj : rs[j]? = some rs[j] := Array.getElem?_eq_getElem (Nat.lt_of_le_of_lt hle hmax)
    have hi : rs[i]? = some rs[i] := Array.getElem?_eq_getElem hmax
    exact decide_eq_true (Nat.le_trans (start_mono hsorted hj hi hle) hstart)
  have hafter : (rs.toList.drop (i + 1)).takeWhile (·.1 ≤ n) = [] := by
    cases hd : rs.toList.drop (i + 1) with
    | nil => rfl
    | cons r _ =>
      have hr : rs[i + 1]? = some r := by
        rw [← Array.getElem?_toList, ← List.head?_drop, hd, List.head?_cons]
      have hi := (Array.getElem?_eq_some_iff.mp hr).1
      have hlate := hrest (i + 1) r (Nat.lt_succ_self i) hi hr
      exact List.takeWhile_cons_of_neg (by simpa using hlate)
  rw [← List.take_append_drop (i + 1) rs.toList, List.takeWhile_append_of_pos hbefore, hafter,
    List.append_nil, List.getLast?_take]
  simp [hmax]

/-! ## Labels -/

/-- The label of the last run that starts at or before a code point, `a` before all runs. -/
def labelFrom (a : Option Char) (n : Nat) : List (Nat × Char) → Option Char
  | [] => a
  | r :: rs => if r.1 ≤ n then labelFrom (some r.2) n rs else a

section LabelFrom

variable {a : Option Char} {n : Nat} {r : Nat × Char} {rs : List (Nat × Char)}

theorem labelFrom_of_le (h : r.1 ≤ n) : labelFrom a n (r :: rs) = labelFrom (some r.2) n rs :=
  if_pos h

theorem labelFrom_of_lt (h : n < r.1) : labelFrom a n (r :: rs) = a := if_neg (Nat.not_le.mpr h)

end LabelFrom

theorem labelFrom_eq (a : Option Char) (n : Nat) (rs : List (Nat × Char)) :
    labelFrom a n rs = ((rs.takeWhile (·.1 ≤ n)).getLast?.map (·.2)).or a := by
  induction rs generalizing a with
  | nil => rfl
  | cons r rs ih =>
    rcases Nat.lt_or_ge n r.1 with late | early
    · rw [labelFrom_of_lt late, List.takeWhile_cons_of_neg (by simpa using late)]
      rfl
    · rw [labelFrom_of_le early, ih, List.takeWhile_cons_of_pos (by simpa using early),
        List.getLast?_cons]
      cases (rs.takeWhile (·.1 ≤ n)).getLast? with
      | none => rfl
      | some s => rfl

theorem label?_eq_labelFrom (s : String) (n : Nat) :
    (ofText s).label? n = labelFrom none n (written 0 0 s.toList) := by
  rw [label?_ofText, labelFrom_eq, Option.or_none]

end Weblog.Text.Runs
