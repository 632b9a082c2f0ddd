/-
  Punycode: what is written is small, and what is read from digits holds a code point outside ASCII.

  The digits are gathered in `Progress.out`, and each step of the writing puts only digits there
  (`IsDigital`).
-/
import Weblog.Domain.Punycode

namespace Weblog.Domain.Punycode

variable {c : Char} {cs digits : List Char} {ns text out : List Nat} {n : Nat}

/-! ## Writing -/

/-- A digit of base 36. -/
def IsDigit (c : Char) : Prop := ∃ d < 36, c = digitChar d

/-- Digits are small. -/
theorem IsDigit.small (h : IsDigit c) : c.toNat < 0x80 ∧ c.toLower = c ∧ c ≠ '.' := by
  obtain ⟨d, hd, rfl⟩ := h
  have all : ∀ d < 36, (digitChar d).toNat < 0x80 ∧ (digitChar d).toLower = digitChar d ∧
      digitChar d ≠ '.' := by decide
  exact all d hd

theorem isDigit_of_mem_writeNumber {bias position q : Nat} (h : c ∈ writeNumber bias position q) :
    IsDigit c := by
  have high := threshold_le position bias
  fun_induction writeNumber bias position q with
  | case1 position q t low =>
    rw [List.mem_singleton.mp h]
    exact ⟨q, by omega, rfl⟩
  | case2 position q t low ih =>
    rcases List.mem_cons.mp h with rfl | h
    · have rest := Nat.mod_lt (q - t) (show 0 < 36 - t by omega)
      exact ⟨t + (q - t) % (36 - t), by omega, rfl⟩
    · exact ih h (threshold_le _ bias)

/-- Only digits have been written so far. -/
def IsDigital (p : Progress) : Prop := ∀ c ∈ p.out, IsDigit c

theorem isDigital_insertAll {basic m : Nat} {p : Progress} (h : IsDigital p) :
    IsDigital (insertAll basic m ns p) := by
  induction ns generalizing p with
  | nil => exact h
  | cons n ns ih =>
    unfold insertAll
    split
    · exact ih h
    · split
      · refine ih fun c hc => ?_
        rcases List.mem_append.mp hc with hc | hc
        · exact isDigit_of_mem_writeNumber (List.mem_reverse.mp hc)
        · exact h c hc
      · exact ih h

theorem isDigital_insertEach {basic next : Nat} {codes : List Nat} {p : Progress}
    (h : IsDigital p) : IsDigital (insertEach basic text codes next p) := by
  induction codes generalizing next p with
  | nil => exact h
  | cons m ms ih =>
    unfold insertEach
    have before : IsDigital { p with delta := p.delta + (m - next) * (p.count + 1) } := h
    exact ih (p := { insertAll basic m text _ with delta := _ }) (isDigital_insertAll before)

/-- What is written consists of the characters in ASCII, a hyphen and digits. -/
theorem mem_encode (h : c ∈ encode ns) :
    (∃ n ∈ ns, n < 0x80 ∧ c = Char.ofNat n) ∨ c = '-' ∨ IsDigit c := by
  unfold encode at h
  rcases List.mem_append.mp h with h | h
  · rcases List.mem_append.mp h with h | h
    · obtain ⟨n, hn, rfl⟩ := List.mem_map.mp h
      obtain ⟨hn, low⟩ := List.mem_filter.mp hn
      exact .inl ⟨n, hn, of_decide_eq_true low, rfl⟩
    · split at h
      · cases h
      · exact .inr (.inl (List.mem_singleton.mp h))
  · have start : IsDigital ⟨0, 72, ((ns.filter (· < 0x80)).map Char.ofNat).length, []⟩ :=
      fun c hc => by cases hc
    exact .inr (.inr (isDigital_insertEach start c (List.mem_reverse.mp h)))

/-! ## Reading -/

/-- What has been inserted stays. -/
theorem mem_readInsertions {f bias code next : Nat} {first : Bool}
    (h : readInsertions f bias code next first text digits = some out) (hn : n ∈ text) :
    n ∈ out := by
  induction f generalizing bias code next first text digits with
  | zero =>
    cases digits with
    | nil => exact Option.some.inj h ▸ hn
    | cons c cs => cases h
  | succ f ih =>
    cases digits with
    | nil => exact Option.some.inj h ▸ hn
    | cons c cs =>
      unfold readInsertions at h
      split at h
      · cases h
      · rename_i delta rest _
        dsimp only at h
        split at h
        · refine ih h ?_
          rw [List.mem_append, List.mem_cons, or_left_comm, ← List.mem_append,
            List.take_append_drop]
          exact .inr hn
        · cases h

/-- Some digit inserts a code point, which is no less than the ones that could be inserted. -/
theorem exists_of_readInsertions {f bias code next : Nat} {first : Bool}
    (h : readInsertions f bias code next first text (c :: cs) = some out) :
    ∃ n ∈ out, code ≤ n := by
  cases f with
  | zero => cases h
  | succ f =>
    unfold readInsertions at h
    split at h
    · cases h
    · rename_i delta rest _
      dsimp only at h
      split at h
      · refine ⟨_, mem_readInsertions h (List.mem_append_right _ List.mem_cons_self), ?_⟩
        exact Nat.le_add_right code _
      · cases h

/-- What does not end in a hyphen is read as a text with a character outside ASCII. -/
theorem exists_of_decode? (h : decode? digits = some out) (ne : digits ≠ [])
    (last : digits.getLast? ≠ some '-') : ∃ n ∈ out, 0x80 ≤ n := by
  obtain ⟨front, c, rfl⟩ := (List.eq_nil_or_concat digits).resolve_left ne
  have hc : c ≠ '-' := by simpa using last
  unfold decode? at h
  simp only [List.concat_eq_append, List.reverse_append, List.reverse_cons, List.reverse_nil,
    List.nil_append, List.singleton_append] at h
  rw [List.takeWhile_cons_of_pos (by simpa using hc), List.reverse_cons] at h
  split at h
  · obtain ⟨d, ds, same⟩ := List.exists_cons_of_ne_nil
      (List.append_ne_nil_of_right_ne_nil (front.reverse.takeWhile (· ≠ '-')).reverse
        (List.cons_ne_nil c []))
    rw [same] at h
    exact exists_of_readInsertions h
  · cases h

end Weblog.Domain.Punycode
