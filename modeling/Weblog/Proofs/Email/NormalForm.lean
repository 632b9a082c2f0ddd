/-
  The normal form of an address is its own normal form (`normalForm_again`).

  What each step of the reading gives back passes the same step again: the part before the at-sign,
  the domain in its two forms, and the address that is put together from them, in which no sign of the
  reading stands but the one at-sign.
-/
import Weblog.Proofs.Domain.Labels
import Weblog.Proofs.Email.Simple

namespace Weblog.Email

open Domain (IsSound IsValid ofLabels)
open Text (Ranges Runs)

variable {cs written mailbox domain unicode ascii label rest : List Char} {a b c p : Char}
  {ls : List (List Char)}

/-! ## Safe characters -/

/-- Whether characters with a label in the table of categories are safe. -/
def isSafeLabel (l : Char) : Bool :=
  Text.Category.ofLabel (some l) matches .letterOrNumber | .punctuationOrSymbol | .mark

/-- Whether no blank is safe. -/
def lacksBlanks (categories : List (Nat × Char)) : Bool :=
  Ranges.bits Text.blankRanges &&& Runs.bits isSafeLabel categories == 0

theorem lacksBlanks_table : lacksBlanks Text.categoryRuns.toList = true := by
  unfold Text.categoryRuns
  apply Runs.check_ofText lacksBlanks
  · repeat apply Text.flatMap_toList_cons rfl
    exact Text.flatMap_toList_nil
  · decide +kernel

theorem isWritten_categoryRuns : Text.categoryRuns.IsWritten := ⟨_, rfl⟩

theorem not_safe_of_blank {categories : Runs} (written : categories.IsWritten)
    (apart : lacksBlanks categories.toList = true) (blank : Text.isBlankChar c = true) :
    (categories.label? c.toNat).any isSafeLabel = false := by
  have apart := beq_iff_eq.mp apart
  rw [← written.testBit_bits (Text.toNat_lt_codeBound c)]
  refine Text.testBit_eq_false_of_and apart ?_
  rwa [Ranges.testBit_bits]

theorem category_of_blank (blank : Text.isBlankChar c = true) : Text.category c = .space ∨
    Text.category c = .lineSeparator ∨ Text.category c = .other := by
  have outside := not_safe_of_blank isWritten_categoryRuns lacksBlanks_table blank
  unfold Text.category
  generalize Text.categoryRuns.label? c.toNat = label at outside ⊢
  cases label with
  | none => exact .inr (.inr rfl)
  | some l =>
    have outside : isSafeLabel l = false := outside
    unfold isSafeLabel at outside
    split at outside
    · cases outside
    · cases outside
    · cases outside
    · rename_i h₁ h₂ h₃
      cases found : Text.Category.ofLabel (some l) with
      | letterOrNumber => exact absurd found h₁
      | punctuationOrSymbol => exact absurd found h₂
      | mark => exact absurd found h₃
      | space => exact .inl rfl
      | lineSeparator => exact .inr (.inl rfl)
      | other => exact .inr (.inr rfl)

/-- Safe texts hold no blanks. -/
theorem not_blank_of_checkSafe (h : checkSafe false cs = .ok ()) :
    ∀ c ∈ cs, Text.isBlankChar c = false := by
  intro c hc
  refine Bool.eq_false_iff.mpr fun blank => ?_
  have none : unsafeChars false cs = [] := by
    unfold checkSafe at h
    split at h
    · assumption
    · cases h
  have safe := List.filter_eq_nil_iff.mp (List.append_eq_nil_iff.mp none).2 c hc
  rcases category_of_blank blank with found | found | found <;> simp [found] at safe

/-! ## The part before the at-sign -/

theorem atom_signs_printed : ("_!#$%&'*+-/=?^\x60\x7b|\x7d~".toList.all fun c =>
    0x20 < c.toNat ∧ c.toNat < 0x7F) = true := by decide +kernel

/-- Atoms are made of printed signs of ASCII. -/
theorem printed_of_isAtomChar (h : isAtomChar c = true) : 0x20 < c.toNat ∧ c.toNat < 0x7F := by
  rcases Bool.or_eq_true_iff.mp h with h | h
  · change ((decide (c.val ≥ 'A'.val ∧ c.val ≤ 'Z'.val) || (c.val ≥ 'a'.val && c.val ≤ 'z'.val)) ||
      (c.val ≥ '0'.val && c.val ≤ '9'.val)) = true at h
    simp only [Bool.or_eq_true, Bool.and_eq_true, decide_eq_true_eq, ge_iff_le,
      UInt32.le_iff_toNat_le] at h
    change (0x41 ≤ c.toNat ∧ c.toNat ≤ 0x5A ∨ 0x61 ≤ c.toNat ∧ c.toNat ≤ 0x7A) ∨
      0x30 ≤ c.toNat ∧ c.toNat ≤ 0x39 at h
    omega
  · exact of_decide_eq_true (List.all_eq_true.mp atom_signs_printed c (List.contains_iff_mem.mp h))

theorem not_blank_of_printed (h : 0x20 < c.toNat ∧ c.toNat < 0x7F) :
    Text.isBlankChar c = false := by
  simp only [Text.isBlankChar, Text.blankRanges, Ranges.has_cons, Ranges.has_nil, Bool.or_false,
    Bool.or_eq_false_iff, Bool.and_eq_false_iff, decide_eq_false_iff_not]
  omega

/-- Signs of the reading of an address are neither signs of atoms nor periods. -/
theorem notMem_of_sign (h : isLocalChar c = true ∨ c = '.') : c ∉ ['@', '<', '"', '['] := by
  have barred : (['@', '<', '"', '['].all fun d => ¬(isLocalChar d = true ∨ d = '.')) = true := by
    decide
  exact fun listed => of_decide_eq_true (List.all_eq_true.mp barred c listed) h

/-- What is checked before the at-sign is left as it is, and holds no blanks and only signs of atoms
and periods. -/
theorem checkLocal_eq_ok (h : checkLocal false cs = .ok written) : written = cs ∧ cs ≠ [] ∧
    ∀ c ∈ cs, (isLocalChar c = true ∨ c = '.') ∧ Text.isBlankChar c = false := by
  unfold checkLocal at h
  split at h
  · cases h
  rename_i ne
  have ne : cs ≠ [] := by simpa using ne
  have signs : ∀ {p : Char → Bool}, isDotAtom p cs = true → ∀ c ∈ cs, p c = true ∨ c = '.' := by
    intro p atoms c hc
    have all := (Bool.and_eq_true_iff.mp (Bool.and_eq_true_iff.mp atoms).1).2
    simpa using List.all_eq_true.mp all c hc
  split at h
  · rename_i atoms
    refine ⟨(Except.ok.inj h).symm, ne, fun c hc => ?_⟩
    have sign := signs atoms c hc
    refine ⟨sign.imp_left fun atom => by rw [isLocalChar, atom, Bool.true_or], ?_⟩
    rcases sign with atom | rfl
    · exact not_blank_of_printed (printed_of_isAtomChar atom)
    · rfl
  · split at h
    · rename_i atoms
      obtain ⟨u, safe, h⟩ := bind_eq_ok.mp h
      exact ⟨(Except.ok.inj h).symm, ne, fun c hc =>
        ⟨signs atoms c hc, not_blank_of_checkSafe safe c hc⟩⟩
    · -- What is left has a wrong sign or a wrong period, and is refused.
      rename_i other
      simp only [Bool.false_eq_true, if_false, reject_eq_ok, bind_eq_ok] at h
      obtain ⟨fine, u, dots, -⟩ := h
      refine absurd ?_ other
      have all : cs.all (fun c => isLocalChar c || c = '.') = true := by
        have fine : ∀ c ∈ cs, isLocalChar c = false → c = '.' := by simpa using fine
        refine List.all_eq_true.mpr fun c hc => ?_
        cases sign : isLocalChar c with
        | true => rfl
        | false => simpa using fine c hc sign
      have spaced : dotFault? false cs = none := by
        unfold checkDots at dots
        split at dots
        · cases dots
        · assumption
      rw [isDotAtom, all, spaced]
      simpa using ne

theorem commonMailboxes_small : (commonMailboxes.all fun s =>
    s.toList ≠ [] ∧ s.toList.all Text.isSmall) = true := by decide +kernel

/-- A composed text, or its small form if that names a common mailbox. -/
def chosen (composed : List Char) : List Char :=
  if commonMailboxes.contains (String.ofList (composed.map Char.toLower)) then
    composed.map Char.toLower
  else composed

theorem normalLocal_eq_ok {isQuoted : Bool} : normalLocal isQuoted cs = .ok mailbox ↔
    ∃ written, checkLocal isQuoted cs = .ok written ∧
      (Text.normal written ≠ written → ∃ w, checkLocal isQuoted (Text.normal written) = .ok w) ∧
      isQuoted = false ∧ chosen (Text.normal written) = mailbox := by
  rw [normalLocal, bind_eq_ok]
  refine exists_congr fun written => and_congr_right fun _ => ?_
  by_cases same : Text.normal written = written
  · cases isQuoted <;> simp [same, chosen, bind, Except.bind]
  · cases found : checkLocal isQuoted (Text.normal written) <;> cases isQuoted <;>
      simp [same, found, chosen, bind, Except.bind]

theorem chosen_cases (composed : List Char) : chosen composed = composed ∨
    ∃ s ∈ commonMailboxes, chosen composed = s.toList := by
  unfold chosen
  split
  · rename_i common
    exact .inr ⟨_, List.contains_iff_mem.mp common, String.toList_ofList.symm⟩
  · exact .inl rfl

/-- The normal form of what stands before the at-sign is its own normal form, which is checked and in
no quotes. -/
theorem normalLocal_again {isQuoted : Bool} (h : normalLocal isQuoted cs = .ok mailbox) :
    normalLocal false mailbox = .ok mailbox ∧ checkLocal false mailbox = .ok mailbox := by
  obtain ⟨written, first, again, rfl, rfl⟩ := normalLocal_eq_ok.mp h
  rcases chosen_cases (Text.normal written) with same | ⟨s, hs, same⟩
  · have checked : checkLocal false (Text.normal written) = .ok (Text.normal written) := by
      by_cases change : Text.normal written = written
      · rw [change, (checkLocal_eq_ok first).1]
        exact (checkLocal_eq_ok first).1 ▸ first
      · obtain ⟨w, hw⟩ := again change
        rw [hw, (checkLocal_eq_ok hw).1]
    rw [same]
    refine ⟨normalLocal_eq_ok.mpr ⟨_, checked, ?_, rfl, ?_⟩, checked⟩
    · exact fun change => absurd (Text.normal_normal written) change
    · rw [Text.normal_normal, same]
  · obtain ⟨ne, small⟩ := of_decide_eq_true (List.all_eq_true.mp commonMailboxes_small s hs)
    have small := List.all_eq_true.mp small
    rw [same]
    exact ⟨normalLocal_small ne small, checkLocal_small ne small⟩

/-! ## Periods and hyphens -/

theorem adjacent_of_notMem_right (h : b ∉ cs) : adjacent a b cs = false := by
  induction cs with
  | nil => rfl
  | cons c cs ih =>
    rw [List.mem_cons, not_or] at h
    cases cs with
    | nil => rfl
    | cons d ds =>
      have other : d ≠ b := fun same => h.2 (same ▸ List.mem_cons_self)
      rw [adjacent, ih h.2, decide_eq_false other, Bool.and_false, Bool.or_false]

/-- Where two characters stand side by side in a text that is put together around a third. -/
theorem adjacent_around (h : adjacent a b (cs ++ p :: rest) = true) : adjacent a b cs = true ∨
    (cs.getLast? = some a ∧ p = b) ∨ (p = a ∧ rest.head? = some b) ∨ adjacent a b rest = true := by
  induction cs with
  | nil =>
    cases rest with
    | nil => cases h
    | cons d ds =>
      rcases Bool.or_eq_true_iff.mp h with here | h
      · exact .inr (.inr (.inl (by simpa using here)))
      · exact .inr (.inr (.inr h))
  | cons c cs ih =>
    cases cs with
    | nil =>
      rcases Bool.or_eq_true_iff.mp h with here | h
      · exact .inr (.inl (by simpa using here))
      · exact (ih h).imp_right (Or.imp_left fun none => by cases none.1)
    | cons d ds =>
      rcases Bool.or_eq_true_iff.mp h with here | h
      · exact .inl (Bool.or_eq_true_iff.mpr (.inl here))
      · rcases ih h with h | h | h
        · exact .inl (Bool.or_eq_true_iff.mpr (.inr h))
        · exact .inr (.inl (by rwa [List.getLast?_cons_cons]))
        · exact .inr (.inr h)

/-- Periods and hyphens stand neither at the ends nor side by side, hyphens between hyphens aside. -/
structure IsSpaced (cs : List Char) : Prop where
  head : ∀ c ∈ ['.', '-'], cs.head? ≠ some c
  last : ∀ c ∈ ['.', '-'], cs.getLast? ≠ some c
  apart : ∀ c ∈ ['.', '-'], adjacent '.' c cs = false ∧ adjacent c '.' cs = false

theorem IsSpaced.dotFault?_eq_none (h : IsSpaced cs) : dotFault? true cs = none := by
  have period : '.' ∈ ['.', '-'] := by decide
  have hyphen : '-' ∈ ['.', '-'] := by decide
  unfold dotFault?
  rw [if_neg (h.last _ period), if_neg (h.head _ period), (h.apart _ period).1,
    if_neg (h.last _ hyphen), if_neg (h.head _ hyphen), (h.apart _ hyphen).1, (h.apart _ hyphen).2]
  rfl

/-- Texts around a period. -/
theorem IsSpaced.around (front : IsSpaced cs) (back : IsSpaced rest) (ne : cs ≠ [])
    (ne' : rest ≠ []) : IsSpaced (cs ++ '.' :: rest) := by
  obtain ⟨d, ds, rfl⟩ := List.exists_cons_of_ne_nil ne
  obtain ⟨e, es, rfl⟩ := List.exists_cons_of_ne_nil ne'
  have period : '.' ∈ ['.', '-'] := by decide
  refine ⟨front.head, fun c hc => ?_, fun c hc => ⟨?_, ?_⟩⟩
  · have same : (d :: ds ++ '.' :: e :: es).getLast? = (e :: es).getLast? := by
      rw [List.getLast?_append, List.getLast?_cons_cons, List.getLast?_cons]
      rfl
    rw [same]
    exact back.last c hc
  · refine Bool.eq_false_iff.mpr fun side => ?_
    rcases adjacent_around side with h | ⟨h, -⟩ | ⟨-, h⟩ | h
    · exact absurd h (by simp [(front.apart c hc).1])
    · exact front.last _ period h
    · exact back.head c hc h
    · exact absurd h (by simp [(back.apart c hc).1])
  · refine Bool.eq_false_iff.mpr fun side => ?_
    rcases adjacent_around side with h | ⟨h, -⟩ | ⟨-, h⟩ | h
    · exact absurd h (by simp [(front.apart c hc).2])
    · exact front.last c hc h
    · exact back.head _ period h
    · exact absurd h (by simp [(back.apart c hc).2])

theorem isSpaced_label (sound : IsSound label) : IsSpaced label := by
  have period := sound.period_notMem
  refine ⟨?_, ?_, fun c _ => ⟨adjacent_of_notMem period, adjacent_of_notMem_right period⟩⟩
  · simpa using ⟨head?_ne_of_notMem period, sound.head⟩
  · simpa using ⟨getLast?_ne_of_notMem period, sound.last⟩

/-! ## The domain -/

theorem isHostChar_of_valid (valid : IsValid c) : isHostChar c = true := by
  rcases Nat.lt_or_ge c.toNat 0x80 with ascii | high
  · rcases valid.small_or_hyphen ascii with small | rfl
    · exact isHostChar_kept (.inl small)
    · rfl
  · rw [isHostChar, decide_eq_true high, Bool.or_true]

theorem hidesPeriod_of_valid (valid : IsValid c) : hidesPeriod c = false := by
  have outside := valid.not_barred
  simp only [Domain.barredLabels, Ranges.has_cons, Ranges.has_nil, Bool.or_eq_false_iff,
    Bool.and_eq_false_iff, decide_eq_false_iff_not] at outside
  have listed : [0x33C2, 0x33C7, 0x33D8, 0xFE19, 0xFE30, 0xFE52, 0x1F100].contains c.toNat =
      false := by
    simp only [List.contains_cons, List.contains_nil, Bool.or_false, Bool.or_eq_false_iff,
      beq_eq_false_iff_ne]
    omega
  simp only [hidesPeriod, listed, Bool.or_false, Bool.or_eq_false_iff, Bool.and_eq_false_iff,
    decide_eq_false_iff_not]
  omega

section Sound

variable (hne : ls ≠ []) (sound : ∀ l ∈ ls, IsSound l)

include sound

theorem mem_name (hc : c ∈ ofLabels ls) : c = '.' ∨ IsValid c := by
  rcases Domain.mem_of_mem_ofLabels hc with period | ⟨l, hl, hc⟩
  · exact .inl period
  · exact .inr ((sound l hl).valid c hc)

include hne

theorem spaced_name : IsSpaced (ofLabels ls) ∧ ofLabels ls ≠ [] := by
  induction ls with
  | nil => exact absurd rfl hne
  | cons l ls ih =>
    obtain ⟨hl, hls⟩ := List.forall_mem_cons.mp sound
    have front := isSpaced_label hl
    by_cases last : ls = []
    · have single : ofLabels [l] = l := by simp [ofLabels]
      rw [last, single]
      exact ⟨front, hl.ne_nil⟩
    · obtain ⟨back, ne⟩ := ih last hls
      rw [Domain.ofLabels_cons l last]
      exact ⟨front.around back hl.ne_nil ne, List.append_ne_nil_of_left_ne_nil hl.ne_nil _⟩

/-- A name of sound labels is mapped to itself. -/
theorem mapDomain_sound (short : (ofLabels ls).length ≤ domainLimit)
    (safe : checkSafe false (ofLabels ls) = .ok ()) :
    mapDomain (ofLabels ls) = .ok (ofLabels ls) := by
  have host : ∀ c ∈ ofLabels ls, isHostChar c = true ∧ hidesPeriod c = false := fun c hc => by
    rcases mem_name sound hc with rfl | valid
    · decide
    · exact ⟨isHostChar_of_valid valid, hidesPeriod_of_valid valid⟩
  have mapped : Domain.map (ofLabels ls) = .ok (ofLabels ls) :=
    Domain.map_sound sound (Nat.le_trans short (by decide))
  simp only [mapDomain, reject_eq_ok, bind_eq_ok, mapError_eq_ok]
  refine ⟨Nat.not_lt.mpr short, ?_, (), safe, _, mapped, ?_, (), ?_, ?_, rfl⟩
  · have none : (ofLabels ls).filter (fun c => !isHostChar c || hidesPeriod c) = [] := by
      refine List.filter_eq_nil_iff.mpr fun c hc => ?_
      simp [host c hc]
    rw [none]
    decide
  · have none : (ofLabels ls).filter (!isHostChar ·) = [] := by
      refine List.filter_eq_nil_iff.mpr fun c hc => ?_
      simp [host c hc]
    rw [none]
    decide
  · unfold checkDots
    rw [decide_eq_true rfl, (spaced_name hne sound).1.dotFault?_eq_none]
  · rw [Domain.labels_sound hne sound]
    have none : ls.any isReserved = false := by
      refine List.any_eq_false.mpr fun l hl => ?_
      simp [isReserved, (sound l hl).unreserved]
    simp [none]

end Sound

theorem checkAscii_eq_ok {other : List Char} (h : checkAscii domain ascii = .ok ()) :
    checkAscii other ascii = .ok () := by
  simp only [checkAscii, reject_eq_ok] at h ⊢
  exact h

/-- The small forms of a mapped domain. -/
theorem toLower_of_mapDomain {mapped : List Char} (h : mapDomain domain = .ok mapped)
    (hc : c ∈ mapped) : c.toLower = c := by
  simp only [mapDomain, reject_eq_ok, bind_eq_ok, mapError_eq_ok] at h
  obtain ⟨-, -, u, -, mapped', hmapped, -, v, -, -, same⟩ := h
  obtain rfl := Except.ok.inj same
  exact Domain.toLower_of_mem_map hmapped hc

theorem normalDomain_eq_ok : normalDomain domain = .ok (unicode, ascii) ↔
    ∃ mapped, mapDomain domain = .ok mapped ∧
      (if mapped.all Domain.isAscii then mapped = ascii
        else Domain.asciiLabels mapped = .ok ascii) ∧
      checkAscii domain ascii = .ok () ∧ Domain.toUnicode ascii = .ok unicode ∧
      checkSafe false unicode = .ok () ∧ ∃ again, Domain.toAscii unicode = .ok again := by
  have rest : ∀ made : List Char, (do
      checkAscii domain made
      let unicode ← (Domain.toUnicode made).mapError Error.notDecodable
      checkSafe false unicode
      discard ((Domain.toAscii unicode).mapError Error.notReencodable)
      .ok (unicode, made)) = .ok (unicode, ascii) ↔
    made = ascii ∧ checkAscii domain ascii = .ok () ∧ Domain.toUnicode ascii = .ok unicode ∧
      checkSafe false unicode = .ok () ∧ ∃ again, Domain.toAscii unicode = .ok again := by
    intro made
    simp only [bind_eq_ok, mapError_eq_ok, discard_eq_ok, Except.ok.injEq, Prod.mk.injEq]
    constructor
    · rintro ⟨u, checked, text, decoded, v, safe, w, again, rfl, rfl⟩
      exact ⟨rfl, checked, decoded, safe, again⟩
    · rintro ⟨rfl, checked, decoded, safe, again⟩
      exact ⟨(), checked, _, decoded, (), safe, (), again, rfl, rfl⟩
  rw [normalDomain, bind_eq_ok]
  refine exists_congr fun mapped => and_congr_right fun _ => ?_
  split
  · exact rest mapped
  · rw [bind_eq_ok]
    constructor
    · rintro ⟨made, hmade, h⟩
      obtain ⟨rfl, h⟩ := (rest made).mp h
      exact ⟨mapError_eq_ok.mp hmade, h⟩
    · rintro ⟨hmade, h⟩
      exact ⟨ascii, mapError_eq_ok.mpr hmade, (rest ascii).mpr ⟨rfl, h⟩⟩

/-- The domain that is given in Unicode has the same two forms. -/
theorem normalDomain_again (h : normalDomain domain = .ok (unicode, ascii))
    (short : unicode.length ≤ domainLimit) : normalDomain unicode = .ok (unicode, ascii) := by
  obtain ⟨mapped, hmapped, made, checked, decoded, safe, again, hagain⟩ := normalDomain_eq_ok.mp h
  obtain ⟨ls, hne, sound, rfl⟩ := Domain.exists_sound decoded
  have small : ∀ c ∈ mapped, c.toLower = c := fun c hc => toLower_of_mapDomain hmapped hc
  have plain : Domain.IsPlain ascii := by
    split at made
    · rename_i all
      subst made
      exact fun c hc => ⟨of_decide_eq_true (List.all_eq_true.mp all c hc), small c hc⟩
    · exact Domain.isPlain_of_asciiLabels made small
  have back : Domain.asciiLabels (ofLabels ls) = .ok ascii := by
    simp only [Domain.toAscii, reject_eq_ok, bind_eq_ok] at hagain
    obtain ⟨-, again', hagain', -⟩ := hagain
    rw [hagain', Domain.asciiLabels_toUnicode plain decoded hagain']
  refine normalDomain_eq_ok.mpr ⟨ofLabels ls, mapDomain_sound hne sound short safe, ?_,
    checkAscii_eq_ok checked, decoded, safe, again, hagain⟩
  split
  · rename_i all
    exact (Domain.asciiLabels_ascii back all).symm
  · exact back

/-! ## The whole address -/

theorem combines_at (cs : List Char) : Text.combines '@' cs = false := by
  have apart := Text.normal_around (.inr rfl : '@' = '.' ∨ '@' = '@') [] (cs.takeWhile Text.mayJoin)
  have empty : Text.normal [] = [] := rfl
  rw [empty, List.nil_append, List.nil_append] at apart
  unfold Text.combines
  rw [apart]
  rfl

/-- The parts of an address that has been brought into normal form. -/
structure IsRefined (mailbox unicode ascii : List Char) : Prop where
  localPart : normalLocal false mailbox = .ok mailbox
  checked : checkLocal false mailbox = .ok mailbox
  domain : normalDomain unicode = .ok (unicode, ascii)
  short : (Bytes.utf8 (join mailbox unicode)).length ≤ addressLimit
  short_ascii : (Bytes.utf8 (join mailbox ascii)).length ≤ addressLimit

theorem refined_of_normalAddress {address : List Char} (h : normalAddress cs = .ok address) :
    ∃ mailbox unicode ascii, IsRefined mailbox unicode ascii ∧ address = join mailbox unicode := by
  simp only [normalAddress, reject_eq_ok, bind_eq_ok] at h
  obtain ⟨p, -, mailbox, hmailbox, -, -, ⟨unicode, ascii⟩, hdomain, u, -, v, short, w, short', -,
    same⟩ := h
  obtain ⟨localPart, checked⟩ := normalLocal_again hmailbox
  have short : (Bytes.utf8 (join mailbox unicode)).length ≤ addressLimit :=
    checkLength_eq_ok.mp short
  refine ⟨mailbox, unicode, ascii, ⟨localPart, checked, normalDomain_again hdomain ?_, short,
    checkLength_eq_ok.mp short'⟩, (Except.ok.inj same).symm⟩
  have count := length_le_utf8 (join mailbox unicode)
  have least : 0 < mailbox.length := List.length_pos_iff.mpr (checkLocal_eq_ok checked).2.1
  rw [join, List.length_append, List.length_cons, ← join] at count
  unfold addressLimit at short
  unfold domainLimit
  omega

section Refined

variable (refined : IsRefined mailbox unicode ascii)

include refined

theorem IsRefined.domain_ne_nil : unicode ≠ [] := by
  obtain ⟨-, -, -, -, decoded, -⟩ := normalDomain_eq_ok.mp refined.domain
  obtain ⟨ls, hne, sound, rfl⟩ := Domain.exists_sound decoded
  exact (spaced_name hne sound).2

/-- The signs of an address in normal form. -/
theorem IsRefined.signs (hc : c ∈ join mailbox unicode) :
    Text.isBlankChar c = false ∧ c ∉ ['<', '"', '['] := by
  rcases List.mem_append.mp hc with hc | hc
  · obtain ⟨sign, blank⟩ := (checkLocal_eq_ok refined.checked).2.2 c hc
    refine ⟨blank, fun listed => ?_⟩
    exact notMem_of_sign sign (List.mem_cons_of_mem '@' listed)
  · rcases List.mem_cons.mp hc with rfl | hc
    · decide
    · obtain ⟨-, -, -, -, decoded, safe, -⟩ := normalDomain_eq_ok.mp refined.domain
      obtain ⟨ls, -, sound, rfl⟩ := Domain.exists_sound decoded
      refine ⟨not_blank_of_checkSafe safe c hc, fun listed => ?_⟩
      rcases mem_name sound hc with rfl | valid
      · exact absurd listed (by decide)
      · have barred : ∀ d ∈ ['<', '"', '['], Ranges.has Domain.barredLabels d.toNat = true :=
          List.all_eq_true.mp (by decide)
        exact valid.ne_of_barred (barred c listed) rfl

theorem IsRefined.parts_eq : parts (join mailbox unicode) = .ok ⟨false, mailbox, false, unicode⟩ := by
  have outside : ∀ c ∈ mailbox, c ∉ ['@', '<'] ∧ c ≠ '"' := fun c hc => by
    have signs := notMem_of_sign ((checkLocal_eq_ok refined.checked).2.2 c hc).1
    simp only [List.mem_cons, not_or] at signs ⊢
    exact ⟨⟨signs.1, signs.2.1, signs.2.2.2.2⟩, signs.2.2.1⟩
  have halves : cut ['@', '<'] (join mailbox unicode) = .ok (mailbox, '@' :: unicode) := by
    unfold cut join
    rw [cutAt_sign (combines_at unicode) outside (by decide) (by decide)]
  have quote : '"' ∉ mailbox := fun hmem => (outside _ hmem).2 rfl
  unfold parts
  rw [halves, bind_ok]
  simp only [ofSides, unquote_eq_self quote, bind_ok]
  rfl

theorem IsRefined.normalAddress_eq :
    normalAddress (join mailbox unicode) = .ok (join mailbox unicode) := by
  have bracket : unicode.head? ≠ some '[' := fun head =>
    (refined.signs (List.mem_append_right mailbox (List.mem_cons_of_mem _
      (List.mem_of_mem_head? head)))).2 (by decide)
  have ne := refined.domain_ne_nil
  simp only [normalAddress, refined.parts_eq, bind_ok, refined.localPart, refined.domain,
    checkLength_eq_ok.mpr refined.short, checkLength_eq_ok.mpr refined.short_ascii, reject_eq_ok]
  exact ⟨by simpa using ne, fun h => bracket h.1, Bool.false_ne_true, trivial⟩

end Refined

/-- The normal form of an address is its own normal form. -/
theorem normalForm_again {s e : String} (h : normalForm s = .ok e) : normalForm e = .ok e := by
  unfold normalForm at h
  simp only [error_if_eq_ok, map_eq_ok] at h
  obtain ⟨-, -, address, haddress, rfl⟩ := h
  obtain ⟨mailbox, unicode, ascii, refined, rfl⟩ := refined_of_normalAddress haddress
  have short : (join mailbox unicode).length ≤ readLimit :=
    Nat.le_trans (length_le_utf8 _) (Nat.le_trans refined.short (by decide))
  have blank : ∀ c ∈ join mailbox unicode, Text.isBlankChar c = false := fun c hc =>
    (refined.signs hc).1
  have absent : ∀ c, Text.isBlankChar c = true → (join mailbox unicode).contains c = false := by
    intro c hc
    rw [List.contains_eq_mem, decide_eq_false_iff_not]
    intro hmem
    rw [blank c hmem] at hc
    cases hc
  have brackets : inBrackets? (join mailbox unicode) = none :=
    inBrackets?_eq_none (fun hmem => (refined.signs hmem).2 (by decide))
      fun hmem => (refined.signs hmem).2 (by decide)
  simp only [normalForm, String.toList_ofList]
  rw [if_neg (Nat.not_lt.mpr short), absent '\r' (by decide), absent '\n' (by decide), Bool.or_false,
    if_neg Bool.false_ne_true, brackets, Option.getD_none, trimBoth_eq_self blank,
    refined.normalAddress_eq]
  rfl

end Weblog.Email
