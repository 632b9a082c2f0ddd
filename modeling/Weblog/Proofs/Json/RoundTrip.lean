/-
  JSON read back: a value is read from its text.

  `Exact` says of which values that is true: floating-point numbers are out, since their texts are
  not read here, a whole number may have no more digits than a numeral may have, and the names of
  an object are distinct. The format plays no part in it, indented or not. The induction is on the
  value, with fuel in proportion to the length of the text. What follows a value in a text must not
  be taken for more digits of a number (`Ends`).

  A value whose containers stand no deeper than allowed is read within that depth as well.
-/
import Mathlib.Data.List.Nodup
import Weblog.Proofs.Json.Escape

namespace Weblog

/-! ## Digits -/

namespace Number

theorem digits_ne_nil (n : Nat) : digits n ≠ [] := by
  rw [digits]
  split
  · exact List.cons_ne_nil _ _
  · simp

/-- Digits do not start with a zero, except for those of zero. -/
theorem head_digits {n : Nat} (h : 0 < n) : ∃ c cs, digits n = c :: cs ∧ c ≠ '0' := by
  induction n using Nat.strongRecOn with
  | _ n ih =>
    rw [digits]
    split
    · rename_i small
      have table : ∀ d < 10, 0 < d → digitChar d ≠ '0' := by decide
      exact ⟨_, _, rfl, table n small h⟩
    · rename_i large
      obtain ⟨c, cs, hcs, hc⟩ := ih (n / 10) (by omega) (by omega)
      rw [hcs]
      exact ⟨c, cs ++ [digitChar n], rfl, hc⟩

end Number

namespace Json

/-! ## Values that are read back -/

mutual

/-- A value that stands for itself in its text. -/
def Exact : Json → Prop
  | .null => True
  | .bool _ => True
  | .int n => (Number.digits n.natAbs).length ≤ Number.maxDigits
  | .float _ => False
  | .str _ => True
  | .arr vs => ItemsExact vs
  | .obj fs => (fs.map (·.1)).Nodup ∧ FieldsExact fs

def ItemsExact : List Json → Prop
  | [] => True
  | v :: vs => Exact v ∧ ItemsExact vs

def FieldsExact : List (String × Json) → Prop
  | [] => True
  | (_, v) :: fs => Exact v ∧ FieldsExact fs

end

mutual

/-- How deep arrays and objects stand in each other. -/
def depth : Json → Nat
  | .arr vs => itemsDepth vs + 1
  | .obj fs => fieldsDepth fs + 1
  | _ => 0

def itemsDepth : List Json → Nat
  | [] => 0
  | v :: vs => max (depth v) (itemsDepth vs)

def fieldsDepth : List (String × Json) → Nat
  | [] => 0
  | (_, v) :: fs => max (depth v) (fieldsDepth fs)

end

/-! ## White space -/

theorem skipSpace_append {ws : List Char} (h : ∀ c ∈ ws, isSpace c = true) (cs : List Char) :
    skipSpace (ws ++ cs) = skipSpace cs := by
  induction ws with
  | nil => rfl
  | cons c ws ih =>
    have first : isSpace c = true := h c List.mem_cons_self
    rw [skipSpace, List.cons_append, List.dropWhile_cons_of_pos first]
    exact ih fun d hd => h d (List.mem_cons_of_mem c hd)

theorem skipSpace_cons {c : Char} (h : isSpace c = false) (cs : List Char) :
    skipSpace (c :: cs) = c :: cs := by
  rw [skipSpace, List.dropWhile_cons_of_neg (by simp [h])]

theorem isSpace_lineBreak (f : Format) (level : Nat) :
    ∀ c ∈ lineBreak f level, isSpace c = true := by
  intro c hc
  unfold lineBreak at hc
  split at hc
  · rcases List.mem_cons.mp hc with rfl | hc
    · rfl
    · rw [List.eq_of_mem_replicate hc]
      rfl
  · cases hc

/-! ## Where a value ends -/

/-- What follows a value does not go on with a number. -/
def Ends (rest : List Char) : Prop :=
  ∀ c ∈ rest.head?, isDigit c = false ∧ c ≠ '.' ∧ c ≠ 'e' ∧ c ≠ 'E'

theorem ends_nil : Ends [] := fun _ h => by cases h

theorem ends_cons {c : Char} (h : isDigit c = false ∧ c ≠ '.' ∧ c ≠ 'e' ∧ c ≠ 'E')
    (rest : List Char) : Ends (c :: rest) := by
  intro d hd
  rw [List.head?_cons, Option.mem_some_iff] at hd
  exact hd ▸ h

theorem not_digit_of_isSpace {c : Char} (h : isSpace c = true) :
    isDigit c = false ∧ c ≠ '.' ∧ c ≠ 'e' ∧ c ≠ 'E' := by
  simp only [isSpace, Bool.or_eq_true, decide_eq_true_eq] at h
  rcases h with ((rfl | rfl) | rfl) | rfl
  · decide
  · decide
  · decide
  · decide

theorem ends_space {ws : List Char} (h : ∀ c ∈ ws, isSpace c = true) {rest : List Char}
    (ends : Ends rest) : Ends (ws ++ rest) := by
  cases ws with
  | nil => exact ends
  | cons c ws => exact ends_cons (not_digit_of_isSpace (h c List.mem_cons_self)) _

/-! ## Numbers -/

theorem isDigit_of_mem_digits {n : Nat} {c : Char} (h : c ∈ Number.digits n) :
    isDigit c = true := by
  have digit := Number.isDigit_of_mem_digits h
  rw [Char.isDigit, Bool.and_eq_true, decide_eq_true_eq, decide_eq_true_eq] at digit
  rw [isDigit, Bool.and_eq_true, decide_eq_true_eq, decide_eq_true_eq]
  exact digit

theorem takeWhile_digits {ds rest : List Char} (h : ∀ c ∈ ds, isDigit c = true)
    (ends : Ends rest) : (ds ++ rest).takeWhile isDigit = ds ∧
      (ds ++ rest).dropWhile isDigit = rest := by
  induction ds with
  | nil =>
    cases rest with
    | nil => exact ⟨rfl, rfl⟩
    | cons c rest =>
      have other : ¬isDigit c = true := by
        rw [(ends c rfl).1]
        exact Bool.false_ne_true
      exact ⟨List.takeWhile_cons_of_neg other, List.dropWhile_cons_of_neg other⟩
  | cons c ds ih =>
    have first : isDigit c = true := h c List.mem_cons_self
    obtain ⟨taken, dropped⟩ := ih fun d hd => h d (List.mem_cons_of_mem c hd)
    rw [List.cons_append, List.takeWhile_cons_of_pos first, List.dropWhile_cons_of_pos first,
      taken, dropped]
    exact ⟨rfl, rfl⟩

/-- Digits of a number are its whole part. -/
theorem takeWhole_digits (n : Nat) {rest : List Char} (ends : Ends rest) :
    takeWhole (Number.digits n ++ rest) = (Number.digits n, rest) := by
  cases n with
  | zero =>
    have zero : Number.digits 0 = ['0'] := by rw [Number.digits, if_pos (by decide)]; rfl
    rw [zero]
    rfl
  | succ n =>
    obtain ⟨c, cs, hcs, hc⟩ := Number.head_digits (Nat.succ_pos n)
    have all : ∀ d ∈ c :: cs, isDigit d = true := by
      rw [← hcs]
      exact fun d hd => isDigit_of_mem_digits hd
    obtain ⟨taken, dropped⟩ :=
      takeWhile_digits (fun d hd => all d (List.mem_cons_of_mem c hd)) ends
    rw [hcs, List.cons_append, takeWhole, if_neg hc, if_pos (all c List.mem_cons_self), taken,
      dropped]

theorem takeFraction_of_ends {rest : List Char} (ends : Ends rest) :
    takeFraction rest = ([], rest) := by
  unfold takeFraction
  split
  · exact absurd rfl (ends _ rfl).2.1
  · rfl

theorem takeExponent_of_ends {rest : List Char} (ends : Ends rest) :
    takeExponent rest = (none, rest) := by
  unfold takeExponent
  split
  · rename_i c rest
    obtain ⟨-, -, lower, upper⟩ := ends c rfl
    rw [if_neg (by rintro (rfl | rfl); exacts [lower rfl, upper rfl])]
  · rfl

theorem isEmpty_digits (n : Nat) : (Number.digits n).isEmpty = false := by
  rw [List.isEmpty_eq_false_iff]
  exact Number.digits_ne_nil n

/-- The first character of a number without a sign is a digit. -/
theorem exists_digits (n : Nat) : ∃ c cs, Number.digits n = c :: cs ∧ isDigit c = true := by
  obtain ⟨c, cs, hcs⟩ := List.exists_cons_of_ne_nil (Number.digits_ne_nil n)
  exact ⟨c, cs, hcs, isDigit_of_mem_digits (hcs ▸ List.mem_cons_self)⟩

theorem readNumber_digits {n : Nat} (fits : (Number.digits n).length ≤ Number.maxDigits)
    {rest : List Char} (ends : Ends rest) :
    readNumber (Number.digits n ++ rest) = .ok (.int n, rest) := by
  obtain ⟨c, cs, hcs, digit⟩ := exists_digits n
  have sign : c ≠ '-' := by
    rintro rfl
    cases digit
  have whole := takeWhole_digits n ends
  have value := Number.ofDigits_digits n
  rw [hcs, List.cons_append] at whole
  rw [hcs] at fits value
  have short : ¬Number.maxDigits < cs.length + 1 := Nat.not_lt.mpr fits
  rw [hcs, List.cons_append]
  unfold readNumber
  simp [sign, whole, takeFraction_of_ends ends, takeExponent_of_ends ends, value, short]

theorem readNumber_minus {n : Nat} (fits : (Number.digits n).length ≤ Number.maxDigits)
    {rest : List Char} (ends : Ends rest) :
    readNumber ('-' :: Number.digits n ++ rest) = .ok (.int (-n), rest) := by
  unfold readNumber
  simp only [List.cons_append, takeWhole_digits n ends, isEmpty_digits n,
    takeFraction_of_ends ends, takeExponent_of_ends ends, Bool.false_eq_true, if_false,
    List.isEmpty_nil, Option.isNone_none, and_self, if_true, if_neg (Nat.not_lt.mpr fits),
    Number.ofDigits_digits]

/-- A whole number is read from its text. -/
theorem readNumber_text {n : Int} (fits : (Number.digits n.natAbs).length ≤ Number.maxDigits)
    {rest : List Char} (ends : Ends rest) :
    readNumber (Number.text n ++ rest) = .ok (.int n, rest) := by
  cases n with
  | ofNat n => exact readNumber_digits fits ends
  | negSucc n => exact readNumber_minus fits ends

/-! ## Values -/

section Values

variable {f : Format}

/-- A value is read from its text, in front of anything that does not go on with a number. -/
def ReadsBack (f : Format) (v : Json) : Prop :=
  ∀ level fuel rest, 2 * (writeAt f level v).length ≤ fuel → Ends rest →
    readValue fuel (writeAt f level v ++ rest) = .ok (v, rest)

/-- A word that is no number is read as such. -/
theorem readWord_append {word : String} {v : Json} (rest : List Char) :
    readWord word v (word.toList ++ rest) = .ok (v, rest) := by
  have found : word.toList.isPrefixOf (word.toList ++ rest) = true := by simp
  rw [readWord, if_pos found, ← String.length_toList, List.drop_left]

theorem readValue_digit {c : Char} (h : isDigit c = true) (fuel : Nat) (cs : List Char) :
    readValue (fuel + 1) (c :: cs) = readNumber (c :: cs) := by
  have other : ∀ d, isDigit d = false → c ≠ d := by
    rintro d hd rfl
    rw [h] at hd
    cases hd
  rw [readValue]
  all_goals exact other _ rfl

/-- A number is told from the other values by its first two characters. -/
theorem readValue_text (n : Int) (fuel : Nat) (rest : List Char) :
    readValue (fuel + 1) (Number.text n ++ rest) = readNumber (Number.text n ++ rest) := by
  cases n with
  | ofNat n =>
    obtain ⟨c, cs, hcs, digit⟩ := exists_digits n
    rw [Number.text, hcs, List.cons_append, readValue_digit digit]
  | negSucc n =>
    obtain ⟨c, cs, hcs, digit⟩ := exists_digits (n + 1)
    have number : (c :: (cs ++ rest)).head? ≠ some 'I' := by
      intro h
      rw [Option.some.inj h] at digit
      cases digit
    rw [Number.text, hcs, List.cons_append, List.cons_append, readValue, if_neg number]

/-! ### Containers -/

theorem exists_fuel {n : Nat} (fuel : Nat) (h : n + 1 ≤ fuel) : ∃ m, fuel = m + 1 ∧ n ≤ m :=
  ⟨fuel - 1, by omega, by omega⟩

/-- A value starts with a character that is no white space and closes nothing. -/
theorem exists_head (level : Nat) {v : Json} (h : v.Exact) :
    ∃ c cs, writeAt f level v = c :: cs ∧ isSpace c = false ∧ c ≠ ']' := by
  cases v with
  | null => exact ⟨_, _, rfl, by decide⟩
  | bool b => cases b <;> exact ⟨_, _, rfl, by decide⟩
  | int n =>
    cases n with
    | ofNat n =>
      obtain ⟨c, cs, hcs, digit⟩ := exists_digits n
      refine ⟨c, cs, hcs, ?_, ?_⟩
      · cases space : isSpace c with
        | false => rfl
        | true =>
          rw [(not_digit_of_isSpace space).1] at digit
          cases digit
      · rintro rfl
        cases digit
    | negSucc n => exact ⟨_, _, rfl, by decide⟩
  | float x => cases h
  | str s => exact ⟨_, _, rfl, by decide⟩
  | arr vs => cases vs <;> exact ⟨_, _, rfl, by decide⟩
  | obj fs => cases fs <;> exact ⟨_, _, rfl, by decide⟩

theorem ends_items (level : Nat) (vs : List Json) {closing rest : List Char}
    (h : ∀ c ∈ closing, isSpace c = true) :
    Ends (writeItems f level vs ++ (closing ++ ']' :: rest)) := by
  cases vs with
  | nil => exact ends_space h (ends_cons (by decide) rest)
  | cons v vs => exact ends_cons (by decide) _

theorem ends_fields (level : Nat) (fs : List (String × Json)) {closing rest : List Char}
    (h : ∀ c ∈ closing, isSpace c = true) :
    Ends (writeFields f level fs ++ (closing ++ '}' :: rest)) := by
  cases fs with
  | nil => exact ends_space h (ends_cons (by decide) rest)
  | cons v vs => exact ends_cons (by decide) _

/-- White space in front of a value is skipped, and nothing of the value. -/
theorem skipSpace_writeAt {ws : List Char} (h : ∀ c ∈ ws, isSpace c = true) (level : Nat) {v : Json}
    (hv : v.Exact) (rest : List Char) :
    skipSpace (ws ++ (writeAt f level v ++ rest)) = writeAt f level v ++ rest := by
  obtain ⟨c, cs, hcs, space, -⟩ := exists_head (f := f) level hv
  rw [skipSpace_append h, hcs, List.cons_append, skipSpace_cons space]

/-- A text in quotes is read from its writing. -/
theorem readText_writeText (hf : f.Readable) {start : List Char} {fuel : Nat} (s : String)
    (enough : (writeText f s).length ≤ fuel + 1) (rest : List Char) :
    readText start fuel [] (s.toList.flatMap f.escape ++ '"' :: rest) = .ok (s, rest) := by
  have long := length_le_flatMap hf s.toList
  rw [writeText, List.cons_append, List.length_cons, List.length_append,
    List.length_singleton] at enough
  rw [readText_written hf (by omega), List.reverse_nil, List.nil_append, String.ofList_toList]

theorem writeText_append (s : String) (rest : List Char) :
    writeText f s ++ rest = '"' :: (s.toList.flatMap f.escape ++ '"' :: rest) := by
  rw [writeText, List.cons_append, List.cons_append, List.append_assoc]
  rfl

/-- A name that is new is put at the end. -/
theorem put_append {fields : List (String × Json)} {k : String} (h : k ∉ fields.map (·.1))
    (v : Json) : put fields k v = fields ++ [(k, v)] := by
  induction fields with
  | nil => rfl
  | cons p fields ih =>
    obtain ⟨l, w⟩ := p
    rw [List.map_cons, List.mem_cons, not_or] at h
    rw [put, if_neg (Ne.symm h.1), ih h.2, List.cons_append]

/-- One field is read back, up to what follows its value. -/
theorem readFields_field (hf : f.Readable) {k : String} {v : Json} (hv : ReadsBack f v)
    (exactV : v.Exact) {level fuel : Nat} {done : List (String × Json)} {rest after : List Char}
    {d : Char} (fresh : k ∉ done.map (·.1)) (ends : Ends rest)
    (enough : 2 * ((writeText f k).length + (writeAt f level v).length) ≤ fuel)
    (next : skipSpace rest = d :: after) :
    (d = '}' →
      readFields (fuel + 1) done (writeText f k ++ (colon f ++ (writeAt f level v ++ rest))) =
        .ok (.obj (done ++ [(k, v)]), after)) ∧
    (d = ',' →
      readFields (fuel + 1) done (writeText f k ++ (colon f ++ (writeAt f level v ++ rest))) =
        readFields fuel (done ++ [(k, v)]) (skipSpace after)) := by
  obtain ⟨ws, hcolon, spaces⟩ : ∃ ws, colon f = ':' :: ws ∧ ∀ c ∈ ws, isSpace c = true := by
    unfold colon
    split
    · exact ⟨[' '], rfl, List.all_eq_true.mp (by decide)⟩
    · exact ⟨[], rfl, List.all_eq_true.mp (by decide)⟩
  rw [hcolon, List.cons_append, writeText_append, readFields,
    readText_writeText hf k (by omega)]
  simp only
  rw [skipSpace_cons (by decide)]
  simp only [skipSpace_writeAt spaces level exactV, hv level fuel rest (by omega) ends,
    put_append fresh, next]
  constructor
  · intro closes
    subst closes
    rfl
  · intro goes
    subst goes
    rfl

mutual

/-- Every value that stands for itself is read back. -/
theorem readsBack (hf : f.Readable) : (v : Json) → v.Exact → ReadsBack f v
  | .null, _, level, fuel, rest, enough, _ => by
    obtain ⟨fuel, rfl, -⟩ := exists_fuel (n := 7) fuel enough
    exact readWord_append rest
  | .bool true, _, level, fuel, rest, enough, _ => by
    obtain ⟨fuel, rfl, -⟩ := exists_fuel (n := 7) fuel enough
    exact readWord_append rest
  | .bool false, _, level, fuel, rest, enough, _ => by
    obtain ⟨fuel, rfl, -⟩ := exists_fuel (n := 9) fuel enough
    exact readWord_append rest
  | .int n, fits, level, fuel, rest, enough, ends => by
    have some : 0 < (Number.text n).length := by
      cases n with
      | ofNat n => exact List.length_pos_iff.mpr (Number.digits_ne_nil n)
      | negSucc n => exact Nat.succ_pos _
    rw [writeAt] at enough ⊢
    obtain ⟨fuel, rfl, -⟩ := exists_fuel (n := 0) fuel (by omega)
    rw [readValue_text, readNumber_text fits ends]
  | .str s, _, level, fuel, rest, enough, _ => by
    rw [writeAt] at enough ⊢
    have quoted : 0 < (writeText f s).length := Nat.succ_pos _
    obtain ⟨fuel, rfl, more⟩ := exists_fuel (n := (writeText f s).length) fuel (by omega)
    rw [writeText_append, readValue, readText_writeText hf s (by omega)]
    rfl
  | .arr [], _, level, fuel, rest, enough, _ => by
    obtain ⟨fuel, rfl, -⟩ := exists_fuel (n := 3) fuel enough
    rfl
  | .arr (v :: vs), hvs, level, fuel, rest, enough, _ => by
    obtain ⟨hv, hvs⟩ := hvs
    rw [writeAt] at enough ⊢
    simp only [List.cons_append, List.append_assoc, List.length_cons, List.length_append,
      List.nil_append] at enough ⊢
    obtain ⟨fuel, rfl, more⟩ := exists_fuel (n := 2 * ((writeAt f (level + 1) v).length +
      (writeItems f (level + 1) vs).length) + 1) fuel (by omega)
    rw [readValue]
    simp only [skipSpace_writeAt (isSpace_lineBreak f (level + 1)) (level + 1) hv]
    have items := readItems_written hf vs hvs v (readsBack hf v hv) (level + 1) fuel []
      (lineBreak f level) rest (isSpace_lineBreak f level) more
    obtain ⟨c, cs, hcs, -, opens⟩ := exists_head (f := f) (level + 1) hv
    rw [hcs, List.cons_append] at items ⊢
    simp [opens, items]
  | .obj [], _, level, fuel, rest, enough, _ => by
    obtain ⟨fuel, rfl, -⟩ := exists_fuel (n := 3) fuel enough
    rfl
  | .obj ((k, v) :: fs), hvs, level, fuel, rest, enough, _ => by
    obtain ⟨nodup, hv, hvs⟩ := hvs
    rw [writeAt] at enough ⊢
    simp only [List.cons_append, List.append_assoc, List.length_cons, List.length_append,
      List.nil_append] at enough ⊢
    obtain ⟨fuel, rfl, more⟩ := exists_fuel (n := 2 * ((writeText f k).length +
      (writeAt f (level + 1) v).length + (writeFields f (level + 1) fs).length) + 1)
      fuel (by omega)
    have fields := readFields_written hf fs hvs k v (readsBack hf v hv) hv (level + 1) fuel []
      (lineBreak f level) rest nodup (isSpace_lineBreak f level) more
    rw [readValue, skipSpace_append (isSpace_lineBreak f (level + 1)), writeText_append,
      skipSpace_cons (by decide)]
    rw [writeText_append] at fields
    exact fields
  | .float _, h, _, _, _, _, _ => h.elim

/-- The items from one of them on are read back, up to the closing bracket. -/
theorem readItems_written (hf : f.Readable) : (vs : List Json) → ItemsExact vs →
    ∀ v, ReadsBack f v → ∀ level fuel done closing rest,
      (∀ c ∈ closing, isSpace c = true) →
      2 * ((writeAt f level v).length + (writeItems f level vs).length) + 1 ≤ fuel →
      readItems fuel done (writeAt f level v ++ (writeItems f level vs ++
        (closing ++ ']' :: rest))) = .ok (.arr (done.reverse ++ v :: vs), rest)
  | [], _, v, hv, level, fuel, done, closing, rest, spaces, enough => by
    obtain ⟨fuel, rfl, more⟩ := exists_fuel fuel enough
    rw [readItems, hv level fuel _ (by omega) (ends_items level [] spaces), writeItems,
      List.nil_append]
    simp only [skipSpace_append spaces]
    rw [skipSpace_cons (by decide)]
    simp only [List.reverse_cons]
  | w :: ws, hws, v, hv, level, fuel, done, closing, rest, spaces, enough => by
    obtain ⟨hw, hws⟩ := hws
    obtain ⟨fuel, rfl, more⟩ := exists_fuel fuel enough
    rw [readItems, hv level fuel _ (by omega) (ends_items level (w :: ws) spaces)]
    rw [writeItems] at more ⊢
    simp only [List.cons_append, List.append_assoc, List.length_cons, List.length_append]
      at more ⊢
    rw [skipSpace_cons (by decide)]
    simp only [skipSpace_writeAt (isSpace_lineBreak f level) level hw]
    rw [readItems_written hf ws hws w (readsBack hf w hw) level fuel (v :: done) closing rest spaces
      (by omega), List.reverse_cons, List.append_assoc, List.singleton_append]

/-- The fields from one of them on are read back, up to the closing bracket. -/
theorem readFields_written (hf : f.Readable) : (fs : List (String × Json)) → FieldsExact fs →
    ∀ k v, ReadsBack f v → v.Exact → ∀ level fuel done closing rest,
      ((done ++ (k, v) :: fs).map (·.1)).Nodup →
      (∀ c ∈ closing, isSpace c = true) →
      2 * ((writeText f k).length + (writeAt f level v).length +
        (writeFields f level fs).length) + 1 ≤ fuel →
      readFields fuel done (writeText f k ++ (colon f ++ (writeAt f level v ++
        (writeFields f level fs ++ (closing ++ '}' :: rest))))) =
          .ok (.obj (done ++ (k, v) :: fs), rest)
  | [], _, k, v, hv, exactV, level, fuel, done, closing, rest, nodup, spaces, enough => by
    obtain ⟨fuel, rfl, more⟩ := exists_fuel fuel enough
    rw [List.map_append, List.map_cons] at nodup
    have fresh : k ∉ done.map (·.1) := fun h =>
      (List.nodup_append.mp nodup).2.2 k h k List.mem_cons_self rfl
    have next : skipSpace (writeFields f level [] ++ (closing ++ '}' :: rest)) = '}' :: rest := by
      rw [writeFields, List.nil_append, skipSpace_append spaces, skipSpace_cons (by decide)]
    exact (readFields_field hf hv exactV fresh (ends_fields level [] spaces) (by omega) next).1 rfl
  | (l, w) :: fs, hws, k, v, hv, exactV, level, fuel, done, closing, rest, nodup, spaces,
      enough => by
    obtain ⟨hw, hws⟩ := hws
    obtain ⟨fuel, rfl, more⟩ := exists_fuel fuel enough
    have names := nodup
    rw [List.map_append, List.map_cons] at names
    have fresh : k ∉ done.map (·.1) := fun h =>
      (List.nodup_append.mp names).2.2 k h k List.mem_cons_self rfl
    have ends : Ends (writeFields f level ((l, w) :: fs) ++ (closing ++ '}' :: rest)) :=
      ends_fields level ((l, w) :: fs) spaces
    rw [writeFields] at more ends ⊢
    simp only [List.cons_append, List.append_assoc, List.length_cons, List.length_append]
      at more ends ⊢
    rw [(readFields_field hf hv exactV fresh ends (by omega) (skipSpace_cons (by decide) _)).2 rfl]
    have name : ∀ x, skipSpace (lineBreak f level ++ (writeText f l ++ x)) = writeText f l ++ x := by
      intro x
      rw [skipSpace_append (isSpace_lineBreak f level), writeText_append, skipSpace_cons (by decide)]
    have rest_nodup : (((done ++ [(k, v)]) ++ (l, w) :: fs).map (·.1)).Nodup := by
      rw [List.append_assoc]
      exact nodup
    simp only [name]
    rw [readFields_written hf fs hws l w (readsBack hf w hw) hw level fuel (done ++ [(k, v)]) closing
      rest rest_nodup spaces (by omega), List.append_assoc]
    rfl

end

/-- A value is read from its text. -/
theorem read_writeAt (hf : f.Readable) {v : Json} (hv : v.Exact) :
    read (writeAt f 0 v) = .ok v := by
  have start : skipSpace (writeAt f 0 v) = writeAt f 0 v := by
    have none : ∀ c ∈ ([] : List Char), isSpace c = true := fun _ h => by cases h
    have h := skipSpace_writeAt (f := f) none 0 hv []
    rwa [List.nil_append, List.append_nil] at h
  have value := readsBack hf v hv 0 (2 * (writeAt f 0 v).length + 2) [] (by omega) ends_nil
  rw [List.append_nil] at value
  have all : readAll (writeAt f 0 v) = .ok v := by
    rw [readAll, start, value]
    rfl
  rw [read, all]

end Values

/-! ## Depth -/

section Depth

variable {f : Format} {room before : Nat}

/-- Outside of quotes, a character that is no bracket and no quote is passed. -/
def Passed (c : Char) : Bool :=
  c ≠ '[' && c ≠ '{' && c ≠ ']' && c ≠ '}' && c ≠ '"'

/-- Outside of quotes, what opens nothing may close something or open quotes. -/
theorem tooDeep?_outside {c : Char} (opens : ¬(c = '[' ∨ c = '{')) (rest : List Char) :
    tooDeep? room before true (c :: rest) =
      tooDeep? (if c = ']' ∨ c = '}' then room + 1 else room) (before + 1) (c ≠ '"') rest := by
  cases room with
  | zero => rw [tooDeep?, if_neg opens]
  | succ room => rw [tooDeep?, if_neg opens]

theorem tooDeep?_passed {w : List Char} (h : ∀ c ∈ w, Passed c = true) (rest : List Char) :
    tooDeep? room before true (w ++ rest) = tooDeep? room (before + w.length) true rest := by
  induction w generalizing before with
  | nil => rfl
  | cons c w ih =>
    have first := h c List.mem_cons_self
    simp only [Passed, Bool.and_eq_true, decide_eq_true_eq] at first
    obtain ⟨⟨⟨⟨bracket, brace⟩, bracket'⟩, brace'⟩, quote⟩ := first
    rw [List.cons_append, tooDeep?_outside (not_or.mpr ⟨bracket, brace⟩),
      if_neg (not_or.mpr ⟨bracket', brace'⟩), decide_eq_true quote,
      ih fun d hd => h d (List.mem_cons_of_mem c hd), List.length_cons]
    congr 1
    omega

theorem passed_of_isSpace {c : Char} (h : isSpace c = true) : Passed c = true := by
  simp only [isSpace, Bool.or_eq_true, decide_eq_true_eq] at h
  rcases h with ((rfl | rfl) | rfl) | rfl
  · decide
  · decide
  · decide
  · decide

theorem tooDeep?_space {w : List Char} (h : ∀ c ∈ w, isSpace c = true) (rest : List Char) :
    tooDeep? room before true (w ++ rest) = tooDeep? room (before + w.length) true rest :=
  tooDeep?_passed (fun c hc => passed_of_isSpace (h c hc)) rest

theorem passed_colon (f : Format) : ∀ c ∈ colon f, Passed c = true := by
  unfold colon
  split
  · exact List.all_eq_true.mp (by decide)
  · exact List.all_eq_true.mp (by decide)

theorem passed_text (n : Int) : ∀ c ∈ Number.text n, Passed c = true := by
  have digit : ∀ m, ∀ c ∈ Number.digits m, Passed c = true := by
    intro m c hc
    have digit := isDigit_of_mem_digits hc
    have other : ∀ d, isDigit d = false → c ≠ d := by
      rintro d hd rfl
      rw [digit] at hd
      cases hd
    simp [Passed, other '[' rfl, other '{' rfl, other ']' rfl, other '}' rfl, other '"' rfl]
  cases n with
  | ofNat n => exact digit n
  | negSucc n =>
    intro c hc
    rcases List.mem_cons.mp hc with rfl | hc
    · rfl
    · exact digit (n + 1) c hc

/-- A text in quotes is passed. -/
theorem tooDeep?_writeText (hf : f.Readable) (s : String) (rest : List Char) :
    tooDeep? room before true (writeText f s ++ rest) =
      tooDeep? room (before + (writeText f s).length) true rest := by
  have opening : tooDeep? room before true ('"' :: (s.toList.flatMap f.escape ++ '"' :: rest)) =
      tooDeep? room (before + 1) false (s.toList.flatMap f.escape ++ '"' :: rest) :=
    tooDeep?_outside (by decide) _
  have closing : ∀ n, tooDeep? room n false ('"' :: rest) = tooDeep? room (n + 1) true rest := by
    intro n
    cases rest with
    | nil => rfl
    | cons c rest => rfl
  have length : (writeText f s).length = (s.toList.flatMap f.escape).length + 2 := by
    rw [writeText, List.cons_append, List.length_cons, List.length_append, List.length_singleton]
  rw [writeText_append, opening, tooDeep?_written hf, closing, length]
  congr 1
  omega

theorem tooDeep?_open {c : Char} (h : c = '[' ∨ c = '{') (rest : List Char) :
    tooDeep? (room + 1) before true (c :: rest) = tooDeep? room (before + 1) true rest := by
  rw [tooDeep?, if_pos h]

theorem tooDeep?_close {c : Char} (h : c = ']' ∨ c = '}') (rest : List Char) :
    tooDeep? room before true (c :: rest) = tooDeep? (room + 1) (before + 1) true rest := by
  rcases h with rfl | rfl
  · exact tooDeep?_outside (by decide) rest
  · exact tooDeep?_outside (by decide) rest

theorem tooDeep?_comma (rest : List Char) :
    tooDeep? room before true (',' :: rest) = tooDeep? room (before + 1) true rest :=
  tooDeep?_outside (by decide) rest

mutual

/-- A value whose containers stand no deeper than there is room for is passed. -/
theorem tooDeep?_writeAt (hf : f.Readable) : (v : Json) → v.Exact → ∀ level room before rest,
    depth v ≤ room → tooDeep? room before true (writeAt f level v ++ rest) =
      tooDeep? room (before + (writeAt f level v).length) true rest
  | .null, _, level, room, before, rest, _ => by
    rw [writeAt, tooDeep?_passed (List.all_eq_true.mp (by decide))]
  | .bool true, _, level, room, before, rest, _ => by
    rw [writeAt, if_pos rfl, tooDeep?_passed (List.all_eq_true.mp (by decide))]
  | .bool false, _, level, room, before, rest, _ => by
    rw [writeAt, if_neg Bool.false_ne_true, tooDeep?_passed (List.all_eq_true.mp (by decide))]
  | .int n, _, level, room, before, rest, _ => by
    rw [writeAt, tooDeep?_passed (passed_text n)]
  | .str s, _, level, room, before, rest, _ => by
    rw [writeAt, tooDeep?_writeText hf]
  | .arr [], _, level, room, before, rest, deep => by
    obtain ⟨room, rfl, -⟩ := exists_fuel (n := 0) room deep
    rw [writeAt, List.cons_append, List.cons_append, List.nil_append, tooDeep?_open (.inl rfl),
      tooDeep?_close (.inl rfl)]
    rfl
  | .arr (v :: vs), hvs, level, room, before, rest, deep => by
    obtain ⟨hv, hvs⟩ := hvs
    obtain ⟨room, rfl, deep⟩ := exists_fuel (n := max (depth v) (itemsDepth vs)) room deep
    rw [writeAt]
    simp only [List.cons_append, List.append_assoc, List.length_cons, List.length_append,
      List.nil_append, List.length_nil]
    rw [tooDeep?_open (.inl rfl), tooDeep?_space (isSpace_lineBreak f (level + 1)),
      tooDeep?_writeAt hf v hv _ _ _ _ (by omega), tooDeep?_writeItems hf vs hvs _ _ _ _ (by omega),
      tooDeep?_space (isSpace_lineBreak f level), tooDeep?_close (.inl rfl)]
    congr 1
    omega
  | .obj [], _, level, room, before, rest, deep => by
    obtain ⟨room, rfl, -⟩ := exists_fuel (n := 0) room deep
    rw [writeAt, List.cons_append, List.cons_append, List.nil_append, tooDeep?_open (.inr rfl),
      tooDeep?_close (.inr rfl)]
    rfl
  | .obj ((k, v) :: fs), hvs, level, room, before, rest, deep => by
    obtain ⟨-, hv, hvs⟩ := hvs
    obtain ⟨room, rfl, deep⟩ := exists_fuel (n := max (depth v) (fieldsDepth fs)) room deep
    rw [writeAt]
    simp only [List.cons_append, List.append_assoc, List.length_cons, List.length_append,
      List.nil_append, List.length_nil]
    rw [tooDeep?_open (.inr rfl), tooDeep?_space (isSpace_lineBreak f (level + 1)),
      tooDeep?_writeText hf, tooDeep?_passed (passed_colon f),
      tooDeep?_writeAt hf v hv _ _ _ _ (by omega), tooDeep?_writeFields hf fs hvs _ _ _ _ (by omega),
      tooDeep?_space (isSpace_lineBreak f level), tooDeep?_close (.inr rfl)]
    congr 1
    omega
  | .float _, h, _, _, _, _, _ => h.elim

theorem tooDeep?_writeItems (hf : f.Readable) : (vs : List Json) → ItemsExact vs →
    ∀ level room before rest, itemsDepth vs ≤ room →
      tooDeep? room before true (writeItems f level vs ++ rest) =
        tooDeep? room (before + (writeItems f level vs).length) true rest
  | [], _, _, _, _, _, _ => rfl
  | v :: vs, hvs, level, room, before, rest, deep => by
    obtain ⟨hv, hvs⟩ := hvs
    rw [itemsDepth] at deep
    rw [writeItems]
    simp only [List.cons_append, List.append_assoc, List.length_cons, List.length_append]
    rw [tooDeep?_comma, tooDeep?_space (isSpace_lineBreak f level),
      tooDeep?_writeAt hf v hv _ _ _ _ (by omega), tooDeep?_writeItems hf vs hvs _ _ _ _ (by omega)]
    congr 1
    omega

theorem tooDeep?_writeFields (hf : f.Readable) : (fs : List (String × Json)) → FieldsExact fs →
    ∀ level room before rest, fieldsDepth fs ≤ room →
      tooDeep? room before true (writeFields f level fs ++ rest) =
        tooDeep? room (before + (writeFields f level fs).length) true rest
  | [], _, _, _, _, _, _ => rfl
  | (k, v) :: fs, hvs, level, room, before, rest, deep => by
    obtain ⟨hv, hvs⟩ := hvs
    rw [fieldsDepth] at deep
    rw [writeFields]
    simp only [List.cons_append, List.append_assoc, List.length_cons, List.length_append]
    rw [tooDeep?_comma, tooDeep?_space (isSpace_lineBreak f level), tooDeep?_writeText hf,
      tooDeep?_passed (passed_colon f), tooDeep?_writeAt hf v hv _ _ _ _ (by omega),
      tooDeep?_writeFields hf fs hvs _ _ _ _ (by omega)]
    congr 1
    omega

end

/-- A value is read from its text within a depth that its containers keep to. -/
theorem readWithin_writeAt (hf : f.Readable) {v : Json} (hv : v.Exact) {limit : Nat}
    (deep : depth v ≤ limit) : readWithin limit (writeAt f 0 v) = .ok v := by
  have passed := tooDeep?_writeAt hf v hv 0 limit 0 [] deep
  rw [List.append_nil, tooDeep?] at passed
  rw [readWithin, passed]
  exact read_writeAt hf hv

end Depth

end Json

end Weblog
