/-
  The layout of indented text: printable ASCII and line breaks only, and behind every break the
  spaces of its level.

  Names and texts are written in printable ASCII, so no break stands inside of one. All breaks come
  from the layout: how many there are depends on the arrays and objects of a value and not on what
  its texts say (`breaks`). The induction is on the value, with its level; what is written at a level
  has at least the spaces of that level behind each of its breaks.
-/
import Weblog.Proofs.Json.RoundTrip

namespace Weblog.Json

/-- A character of printable ASCII. -/
def IsPrintable (c : Char) : Prop := 0x20 ≤ c.toNat ∧ c.toNat < 0x7F

instance : DecidablePred IsPrintable := fun _ => inferInstanceAs (Decidable (_ ∧ _))

theorem isPrintable_of_all {w : List Char} (h : w.all (fun c => decide (IsPrintable c)) = true) :
    ∀ c ∈ w, IsPrintable c := fun c hc => of_decide_eq_true (List.all_eq_true.mp h c hc)

/-! ## Laid out text -/

/-- A text of printable ASCII with so many line breaks, each followed by so many spaces. -/
structure Laid (spaces breaks : Nat) (w : List Char) : Prop where
  printed : ∀ c ∈ w, c = '\n' ∨ IsPrintable c
  indented : ∀ before after, w = before ++ '\n' :: after → List.replicate spaces ' ' <+: after
  counted : w.count '\n' = breaks

theorem not_isPrintable_break : ¬IsPrintable '\n' := by decide

section Laid

variable {n m j k : Nat} {w w' : List Char}

/-- A line has no breaks. -/
theorem laid_line (n : Nat) (h : ∀ c ∈ w, IsPrintable c) : Laid n 0 w where
  printed c hc := .inr (h c hc)
  indented before after cut := by
    have inside : '\n' ∈ w := cut ▸ List.mem_append_right before List.mem_cons_self
    exact absurd (h _ inside) not_isPrintable_break
  counted := List.count_eq_zero.mpr fun inside => not_isPrintable_break (h _ inside)

theorem Laid.append (h : Laid n j w) (h' : Laid n k w') : Laid n (j + k) (w ++ w') where
  printed c hc := (List.mem_append.mp hc).elim (h.printed c) (h'.printed c)
  indented before after cut := by
    rcases List.append_eq_append_iff.mp cut with ⟨between, -, cut'⟩ | ⟨between, cut', rest⟩
    · exact h'.indented between after cut'
    · cases between with
      | nil =>
        rw [List.nil_append] at rest
        exact h'.indented [] after rest.symm
      | cons c between =>
        obtain ⟨rfl, rfl⟩ := List.cons.inj rest
        exact (h.indented before between cut').trans (List.prefix_append between w')
  counted := by rw [List.count_append, h.counted, h'.counted]

theorem Laid.counting (same : j = k) (h : Laid n j w) : Laid n k w := same ▸ h

theorem Laid.mono (le : m ≤ n) (h : Laid n k w) : Laid m k w where
  printed := h.printed
  indented before after cut := by
    have fewer : List.replicate m ' ' <+: List.replicate n ' ' := by
      rw [← Nat.add_sub_cancel' le, List.replicate_add]
      exact List.prefix_append _ _
    exact fewer.trans (h.indented before after cut)
  counted := h.counted

theorem Laid.cons {c : Char} (hc : IsPrintable c) (h : Laid n k w) : Laid n k (c :: w) := by
  have whole := (laid_line n (w := [c]) fun d hd => List.mem_singleton.mp hd ▸ hc).append h
  rwa [Nat.zero_add] at whole

theorem Laid.tail {c : Char} (hc : c ≠ '\n') (h : Laid n k (c :: w)) : Laid n k w where
  printed d hd := h.printed d (List.mem_cons_of_mem c hd)
  indented before after cut := h.indented (c :: before) after (congrArg (List.cons c) cut)
  counted := by rw [← h.counted, List.count_cons_of_ne hc]

/-! ### Breaks -/

/-- A break is followed by the spaces of its level. -/
theorem laid_lineBreak (level : Nat) : Laid (2 * level) 1 (lineBreak indentedAscii level) := by
  have spaces : ∀ c ∈ List.replicate (2 * level) ' ', IsPrintable c := by
    intro c hc
    rw [List.eq_of_mem_replicate hc]
    decide
  show Laid (2 * level) 1 ('\n' :: List.replicate (2 * level) ' ')
  refine ⟨fun c hc => ?_, fun before after cut => ?_, ?_⟩
  · exact (List.mem_cons.mp hc).imp id (spaces c)
  · cases before with
    | nil => exact (List.cons.inj cut).2 ▸ List.prefix_refl _
    | cons b before =>
      exact (laid_line (2 * level) spaces).indented before after (List.cons.inj cut).2
  · rw [List.count_cons_self, (laid_line 0 spaces).counted]

/-- A comma in front of a break. -/
theorem laid_comma (level : Nat) : Laid (2 * level) 1 (',' :: lineBreak indentedAscii level) :=
  (laid_lineBreak level).cons (by decide)

/-- Items stand one level deeper than the brackets around them. -/
theorem Laid.bracketed {level : Nat} {a b : Char} (h : Laid (2 * (level + 1)) k w)
    (ha : IsPrintable a) (hb : IsPrintable b) :
    Laid (2 * level) (k + 1) (a :: w ++ lineBreak indentedAscii level ++ [b]) := by
  have inside : Laid (2 * level) k (a :: w) := (h.mono (by omega)).cons ha
  have closing : Laid (2 * level) 0 [b] := laid_line _ fun d hd => List.mem_singleton.mp hd ▸ hb
  exact (inside.append (laid_lineBreak level)).append closing

end Laid

/-! ## Texts and numbers -/

theorem isPrintable_hexDigit (n : Nat) : IsPrintable (Text.hexDigit n) := by
  have table : ∀ d < 16, IsPrintable (Text.hexDigit d) := by decide
  have h := table (n % 16) (Nat.mod_lt _ (by decide))
  simpa [Text.hexDigit] using h

theorem isPrintable_unitEscape (n : Nat) : ∀ c ∈ unitEscape n, IsPrintable c := by
  intro c hc
  rw [unitEscape, Text.hexPadded_four] at hc
  simp only [List.mem_cons, List.not_mem_nil, or_false] at hc
  rcases hc with rfl | rfl | rfl | rfl | rfl | rfl
  · decide
  · decide
  · exact isPrintable_hexDigit _
  · exact isPrintable_hexDigit _
  · exact isPrintable_hexDigit _
  · exact isPrintable_hexDigit _

/-- The letter of a short escape is one of seven. -/
theorem isPrintable_shortEscape {c e : Char} (h : shortEscape? c = some e) : IsPrintable e := by
  unfold shortEscape? at h
  repeat' split at h
  all_goals cases h
  all_goals decide

/-- Every character is written in printable ASCII, breaks and controls included. -/
theorem isPrintable_escapeAscii (c : Char) : ∀ d ∈ escapeAscii c, IsPrintable d := by
  intro d hd
  unfold escapeAscii at hd
  split at hd
  · rename_i e he
    rcases List.mem_cons.mp hd with rfl | hd
    · decide
    · exact List.mem_singleton.mp hd ▸ isPrintable_shortEscape he
  · split at hd
    · rename_i printable
      exact List.mem_singleton.mp hd ▸ printable
    · split at hd
      · exact isPrintable_unitEscape _ d hd
      · exact (List.mem_append.mp hd).elim (isPrintable_unitEscape _ d) (isPrintable_unitEscape _ d)

theorem isPrintable_writeText (s : String) : ∀ c ∈ writeText indentedAscii s, IsPrintable c := by
  intro c hc
  rw [writeText, List.cons_append, List.mem_cons, List.mem_append, List.mem_singleton] at hc
  rcases hc with rfl | hc | rfl
  · decide
  · obtain ⟨d, -, hd⟩ := List.mem_flatMap.mp hc
    exact isPrintable_escapeAscii d c hd
  · decide

theorem isPrintable_text (n : Int) : ∀ c ∈ Number.text n, IsPrintable c := by
  have digit : ∀ m, ∀ c ∈ Number.digits m, IsPrintable c := by
    intro m c hc
    have digit := isDigit_of_mem_digits hc
    simp only [isDigit, Bool.and_eq_true, decide_eq_true_eq] at digit
    have low : '0'.toNat ≤ c.toNat := digit.1
    have high : c.toNat ≤ '9'.toNat := digit.2
    exact ⟨Nat.le_trans (by decide) low, Nat.lt_of_le_of_lt high (by decide)⟩
  cases n with
  | ofNat n => exact digit n
  | negSucc n =>
    intro c hc
    rcases List.mem_cons.mp hc with rfl | hc
    · decide
    · exact digit (n + 1) c hc

/-! ## Values -/

mutual

/-- How many line breaks a value takes: one in front of each item, and one in front of the closing
bracket. -/
def breaks : Json → Nat
  | .arr (v :: vs) => itemsBreaks (v :: vs) + 1
  | .obj (p :: fs) => fieldsBreaks (p :: fs) + 1
  | _ => 0

def itemsBreaks : List Json → Nat
  | [] => 0
  | v :: vs => breaks v + itemsBreaks vs + 1

def fieldsBreaks : List (String × Json) → Nat
  | [] => 0
  | (_, v) :: fs => breaks v + fieldsBreaks fs + 1

end

/-- An array is the brackets around its items, of which the first has no comma. -/
theorem writeAt_arr (f : Format) (level : Nat) (v : Json) (vs : List Json) :
    writeAt f level (.arr (v :: vs)) =
      '[' :: (writeItems f (level + 1) (v :: vs)).tail ++ lineBreak f level ++ [']'] := by
  rw [writeAt, writeItems]
  rfl

theorem writeAt_obj (f : Format) (level : Nat) (p : String × Json) (fs : List (String × Json)) :
    writeAt f level (.obj (p :: fs)) =
      '{' :: (writeFields f (level + 1) (p :: fs)).tail ++ lineBreak f level ++ ['}'] := by
  rw [writeAt, writeFields]
  rfl

theorem isPrintable_colon : ∀ c ∈ colon indentedAscii, IsPrintable c :=
  isPrintable_of_all (by decide)

mutual

/-- A value is laid out with the spaces of its level, and with as many breaks as its arrays and
objects take. -/
theorem laid_writeAt : (v : Json) → v.Exact → ∀ level,
    Laid (2 * level) v.breaks (writeAt indentedAscii level v)
  | .null, _, _ => laid_line (w := "null".toList) _ (isPrintable_of_all (by decide))
  | .bool true, _, _ => laid_line (w := "true".toList) _ (isPrintable_of_all (by decide))
  | .bool false, _, _ => laid_line (w := "false".toList) _ (isPrintable_of_all (by decide))
  | .int n, _, _ => laid_line _ (isPrintable_text n)
  | .str s, _, _ => laid_line _ (isPrintable_writeText s)
  | .arr [], _, _ => laid_line (w := ['[', ']']) _ (isPrintable_of_all (by decide))
  | .arr (v :: vs), hvs, level => by
    rw [writeAt_arr, breaks]
    have items := laid_writeItems (v :: vs) hvs (level + 1)
    rw [writeItems] at items ⊢
    exact (items.tail (by decide)).bracketed (by decide) (by decide)
  | .obj [], _, _ => laid_line (w := ['{', '}']) _ (isPrintable_of_all (by decide))
  | .obj (p :: fs), hfs, level => by
    rw [writeAt_obj, breaks]
    have fields := laid_writeFields (p :: fs) hfs.2 (level + 1)
    rw [writeFields] at fields ⊢
    exact (fields.tail (by decide)).bracketed (by decide) (by decide)
  | .float _, h, _ => h.elim

theorem laid_writeItems : (vs : List Json) → ItemsExact vs → ∀ level,
    Laid (2 * level) (itemsBreaks vs) (writeItems indentedAscii level vs)
  | [], _, level => laid_line _ fun c hc => by cases hc
  | v :: vs, ⟨hv, hvs⟩, level => by
    have first := (laid_comma level).append (laid_writeAt v hv level)
    rw [writeItems, itemsBreaks]
    exact (first.append (laid_writeItems vs hvs level)).counting (by omega)

theorem laid_writeFields : (fs : List (String × Json)) → FieldsExact fs → ∀ level,
    Laid (2 * level) (fieldsBreaks fs) (writeFields indentedAscii level fs)
  | [], _, level => laid_line _ fun c hc => by cases hc
  | (k, v) :: fs, ⟨hv, hfs⟩, level => by
    have name := (laid_comma level).append (laid_line _ (isPrintable_writeText k))
    have first := (name.append (laid_line _ isPrintable_colon)).append (laid_writeAt v hv level)
    rw [writeFields, fieldsBreaks]
    exact (first.append (laid_writeFields fs hfs level)).counting (by omega)

end

/-! ## Objects -/

/-- In the text of an object every break is followed by two spaces, or by the brace that ends the
text. -/
theorem indented_writeAt {p : String × Json} {fs : List (String × Json)}
    (h : (Json.obj (p :: fs)).Exact) {before after : List Char}
    (cut : writeAt indentedAscii 0 (.obj (p :: fs)) = before ++ '\n' :: after) :
    after = ['}'] ∨ [' ', ' '] <+: after := by
  have fields := laid_writeFields (p :: fs) h.2 1
  rw [writeAt_obj] at cut
  rw [writeFields] at fields cut
  have inside := (fields.tail (by decide)).cons (c := '{') (by decide)
  rw [List.append_assoc] at cut
  rcases List.append_eq_append_iff.mp cut with ⟨between, -, last⟩ | ⟨between, front, last⟩
  · cases between with
    | nil => exact .inl (List.cons.inj last).2.symm
    | cons c between =>
      -- Behind the last break there is only the brace.
      have cut' : ['}'] = between ++ '\n' :: after := (List.cons.inj last).2
      have mem : '\n' ∈ ['}'] := cut' ▸ List.mem_append_right between List.mem_cons_self
      exact absurd mem (by decide)
  · cases between with
    | nil => exact .inl (List.cons.inj last).2
    | cons c between =>
      obtain ⟨rfl, rfl⟩ := List.cons.inj last
      exact .inr ((inside.indented before between front).trans (List.prefix_append between _))

end Weblog.Json
