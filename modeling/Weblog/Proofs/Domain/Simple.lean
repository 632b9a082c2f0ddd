/-
  Simple domain names, whose labels are made of small letters and digits of ASCII: they are mapped
  to themselves, and their ASCII and Unicode forms are what they are.
-/
import Weblog.Domain.Mapping
import Weblog.Domain.Name
import Weblog.Proofs.Chain
import Weblog.Proofs.Text.Small

namespace Weblog.Domain

open Text (isSmall IsSmallCode isSmall_iff toNat_lt_of_isSmall)

/-- A label of small letters and digits. -/
structure IsSimple (label : List Char) : Prop where
  ne_nil : label ≠ []
  small : ∀ c ∈ label, isSmall c = true
  short : label.length ≤ labelLimit

variable {label : List Char} {ls : List (List Char)} {c : Char}

/-! ## Characters -/

theorem mappingRuns_kept : ∀ n < 0x80, IsSmallCode n ∨ n = 0x2E →
    mappingRuns.label? n = some 'v' := by
  unfold mappingRuns
  simp only [Text.Runs.label?_ofText, String.toList_join]
  decide +kernel

theorem labelRuns_valid : ∀ n < 0x80, IsSmallCode n → labelRuns.label? n = some 'p' := by
  unfold labelRuns
  simp only [Text.Runs.label?_ofText, String.toList_join]
  decide +kernel

theorem mapChar?_kept (h : isSmall c = true ∨ c = '.') : mapChar? c = some [c] := by
  have hcode : IsSmallCode c.toNat ∨ c.toNat = 0x2E := h.imp isSmall_iff.mp (congrArg Char.toNat)
  have hlt : c.toNat < 0x80 := by
    unfold IsSmallCode at hcode
    omega
  unfold mapChar?
  rw [mappingRuns_kept c.toNat hlt hcode]
  rfl

theorem standing_small (h : isSmall c = true) : standing c = .anywhere := by
  unfold standing
  rw [labelRuns_valid c.toNat (toNat_lt_of_isSmall h) (isSmall_iff.mp h)]
  rfl

theorem standIn_toNat (c : Char) : standIn c.toNat = c := by
  have hvalid : c.toNat.isValidChar := c.valid
  unfold standIn
  rw [dif_pos hvalid]
  rfl

theorem map_standIn_codes (cs : List Char) : (codes cs).map standIn = cs := by
  unfold codes
  rw [List.map_map]
  exact (List.map_congr_left fun c _ => standIn_toNat c).trans (List.map_id' cs)

/-! ## Labels -/

theorem checkCharacters_small (codes : List Nat) (before : List Char)
    (h : ∀ c ∈ label, isSmall c = true) : checkCharacters codes before label = .ok () := by
  induction label generalizing before with
  | nil => rfl
  | cons c cs ih =>
    have hc := h c List.mem_cons_self
    rw [checkCharacters, standing_small hc]
    exact ih (c :: before) fun d hd => h d (List.mem_cons_of_mem c hd)

theorem map_direction_codes (cs : List Char) :
    (codes cs).map (fun n => Text.direction (standIn n)) = cs.map Text.direction := by
  simp only [codes, List.map_map, Function.comp_def, standIn_toNat]

theorem directions_small (h : ∀ c ∈ label, isSmall c = true) :
    directions (codes label) = .ok (label.map Text.direction) := by
  have hnone : (label.map Text.direction).findIdx? (· = .unknown) = none := by
    rw [List.findIdx?_eq_none_iff]
    simp only [List.mem_map, forall_exists_index, and_imp]
    rintro _ c hc rfl
    rcases Text.direction_of_isSmall (h c hc) with hd | hd <;> rw [hd] <;> rfl
  unfold directions
  simp only [map_direction_codes, hnone]

theorem isRightToLeft_small (h : ∀ c ∈ label, isSmall c = true) :
    isRightToLeft (label.map Text.direction) = false := by
  simp only [isRightToLeft, List.any_eq_false, List.mem_map, forall_exists_index, and_imp]
  rintro _ c hc rfl
  rcases Text.direction_of_isSmall (h c hc) with hd | hd <;> rw [hd] <;> decide

theorem checkDirections_small (h : ∀ c ∈ label, isSmall c = true) :
    checkDirections false (codes label) = .ok () := by
  unfold checkDirections
  rw [directions_small h]
  change (if (false || isRightToLeft (label.map Text.direction)) = true then
    checkMixed (codes label) (label.map Text.direction) else pure ()) = .ok ()
  rw [isRightToLeft_small h]
  rfl

theorem hyphen_notMem (h : ∀ c ∈ label, isSmall c = true) : '-' ∉ label :=
  fun hmem => absurd (h '-' hmem) (by decide)

theorem period_notMem (h : ∀ c ∈ label, isSmall c = true) : '.' ∉ label :=
  fun hmem => absurd (h '.' hmem) (by decide)

/-- A small letter or digit is no mark. -/
theorem category_ne_mark (h : isSmall c = true) : Text.category c ≠ .mark := by
  have hcode := isSmall_iff.mp h
  unfold IsSmallCode at hcode
  rcases Text.category_of_printed (c := c) (by omega) (by omega) with hc | hc <;> rw [hc] <;> decide

theorem checkLabel_simple (h : IsSimple label) : checkLabel false (codes label) = .ok () := by
  have hshort : label.length ≤ 63 := h.short
  have hhyphen := hyphen_notMem h.small
  simp only [checkLabel, map_standIn_codes, reject_eq_ok, bind_eq_ok]
  refine ⟨?_, ?_, ?_, ?_, ?_, ?_, (), checkCharacters_small _ _ h.small,
    checkDirections_small h.small⟩
  · unfold nameLimit
    omega
  · simpa using h.ne_nil
  · exact fun hne => hne (Text.normal_of_ascii fun c hc => toNat_lt_of_isSmall (h.small c hc))
  · intro hdouble
    have : '-' ∈ (label.drop 2).take 2 := by simp [hdouble]
    exact hhyphen (List.mem_of_mem_drop (List.mem_of_mem_take this))
  · rintro (hhead | hlast)
    · exact hhyphen (List.mem_of_mem_head? hhead)
    · exact hhyphen (List.mem_of_getLast? hlast)
  · obtain ⟨c, cs, rfl⟩ := List.exists_cons_of_ne_nil h.ne_nil
    simpa using category_ne_mark (h.small c List.mem_cons_self)

theorem decodedLabel_simple (h : IsSimple label) : decodedLabel label = .ok (codes label) := by
  have hshort : label.length ≤ 63 := h.short
  have hlower := Text.map_toLower_of_isSmall h.small
  have hmark : encodedMark.isPrefixOf label = false := by
    rw [Bool.eq_false_iff, ne_eq, List.isPrefixOf_iff_prefix]
    exact fun hp => hyphen_notMem h.small (hp.subset (by decide))
  simp only [decodedLabel, reject_eq_ok]
  refine ⟨?_, ?_⟩
  · unfold inputLimit
    omega
  · rw [hlower, hmark]
    rfl

theorem all_isAscii (h : ∀ c ∈ label, isSmall c = true) : label.all isAscii = true := by
  simp only [List.all_eq_true, isAscii, decide_eq_true_eq]
  exact fun c hc => toNat_lt_of_isSmall (h c hc)

theorem asciiLabel_simple (h : IsSimple label) : asciiLabel label = .ok label := by
  have hshort : label.length ≤ 63 := h.short
  simp only [asciiLabel, reject_eq_ok, all_isAscii h.small, if_true]
  refine ⟨?_, ?_⟩
  · unfold inputLimit
    omega
  · rw [decodedLabel_simple h]
    change (checkLabel false (codes label) >>= fun _ => _) = _
    rw [checkLabel_simple h]
    exact if_neg (Nat.not_lt.mpr h.short)

/-! ## Names -/

theorem labelsAfter_append {before : List Char} (h : '.' ∉ before) (label after : List Char) :
    labelsAfter label (before ++ after) = labelsAfter (before.reverse ++ label) after := by
  induction before generalizing label with
  | nil => rfl
  | cons c cs ih =>
    rw [List.mem_cons, not_or] at h
    rw [List.cons_append, labelsAfter, if_neg (Ne.symm h.1), ih h.2]
    simp

theorem labels_ofLabels (hne : ls ≠ []) (h : ∀ l ∈ ls, '.' ∉ l) : labels (ofLabels ls) = ls := by
  unfold labels ofLabels
  induction ls with
  | nil => exact absurd rfl hne
  | cons l ls ih =>
    have hl := labelsAfter_append (h l List.mem_cons_self) []
    cases ls with
    | nil => simpa [labelsAfter] using hl []
    | cons l' ls =>
      have hls := ih (List.cons_ne_nil l' ls) fun m hm => h m (List.mem_cons_of_mem l hm)
      rw [List.intercalate_cons_cons, List.append_assoc, hl, List.singleton_append, labelsAfter,
        if_pos rfl, hls]
      simp

theorem ofLabels_cons (l : List Char) (hne : ls ≠ []) :
    ofLabels (l :: ls) = l ++ '.' :: ofLabels ls := by
  obtain ⟨l', ls, rfl⟩ := List.exists_cons_of_ne_nil hne
  rw [ofLabels, List.intercalate_cons_cons, List.append_assoc]
  rfl

/-- The characters of a name. -/
theorem mem_of_mem_ofLabels (hc : c ∈ ofLabels ls) : c = '.' ∨ ∃ l ∈ ls, c ∈ l := by
  induction ls with
  | nil => cases hc
  | cons l ls ih =>
    cases ls with
    | nil => exact .inr ⟨l, List.mem_singleton_self l, by simpa [ofLabels] using hc⟩
    | cons l' ls =>
      rw [ofLabels_cons l (List.cons_ne_nil l' ls), List.mem_append, List.mem_cons] at hc
      rcases hc with hc | hc | hc
      · exact .inr ⟨l, List.mem_cons_self, hc⟩
      · exact .inl hc
      · rcases ih hc with period | ⟨m, hm, hc⟩
        · exact .inl period
        · exact .inr ⟨m, List.mem_cons_of_mem l hm, hc⟩

/-- The characters of a name of simple labels. -/
theorem mem_ofLabels (h : ∀ l ∈ ls, IsSimple l) (hc : c ∈ ofLabels ls) :
    isSmall c = true ∨ c = '.' := by
  rcases mem_of_mem_ofLabels hc with rfl | ⟨l, hl, hc⟩
  · exact .inr rfl
  · exact .inl ((h l hl).small c hc)

theorem toNat_lt_of_kept (h : isSmall c = true ∨ c = '.') : c.toNat < 0x80 := by
  rcases h with h | rfl
  · exact toNat_lt_of_isSmall h
  · decide

theorem mapFrom_kept (domain : List Char) (position : Nat) {cs : List Char}
    (h : ∀ c ∈ cs, mapChar? c = some [c]) : mapFrom domain position cs = .ok cs := by
  induction cs generalizing position with
  | nil => rfl
  | cons c cs ih =>
    rw [mapFrom, h c List.mem_cons_self]
    change (mapFrom domain (position + 1) cs).map ([c] ++ ·) = .ok (c :: cs)
    rw [ih (position + 1) fun d hd => h d (List.mem_cons_of_mem c hd)]
    rfl

section Names

variable (hne : ls ≠ []) (h : ∀ l ∈ ls, IsSimple l) (hlt : (ofLabels ls).length < nameLimit)

include h hlt

theorem map_simple : map (ofLabels ls) = .ok (ofLabels ls) := by
  unfold nameLimit at hlt
  unfold map
  rw [if_neg (by unfold inputLimit; omega), mapFrom_kept _ _ fun c hc => mapChar?_kept (mem_ofLabels h hc)]
  exact congrArg Except.ok (Text.normal_of_ascii fun c hc => toNat_lt_of_kept (mem_ofLabels h hc))

include hne

theorem toAscii_simple : toAscii (ofLabels ls) = .ok (ofLabels ls) := by
  have hlabels := labels_ofLabels hne fun l hl => period_notMem (h l hl).small
  have hascii : (ls.mapM asciiLabel) = .ok (ls.map id) :=
    mapM_eq_ok fun l hl => asciiLabel_simple (h l hl)
  simp only [toAscii, reject_eq_ok]
  refine ⟨Nat.not_lt.mpr (Nat.le_of_lt hlt), ?_⟩
  rw [asciiLabels, hlabels, hascii, List.map_id]
  exact if_neg (Nat.not_le.mpr hlt)

theorem toUnicode_simple : toUnicode (ofLabels ls) = .ok (ofLabels ls) := by
  have hlabels := labels_ofLabels hne fun l hl => period_notMem (h l hl).small
  have hdecoded : ls.mapM decodedLabel = .ok (ls.map codes) :=
    mapM_eq_ok fun l hl => decodedLabel_simple (h l hl)
  simp only [toUnicode, reject_eq_ok]
  refine ⟨Nat.not_lt.mpr (Nat.le_of_lt hlt), ?_⟩
  have hdirected : (ls.map codes).mapM directions =
      .ok ((ls.map codes).map fun ns => ns.map fun n => Text.direction (standIn n)) := by
    refine mapM_eq_ok fun ns hns => ?_
    obtain ⟨l, hl, rfl⟩ := List.mem_map.mp hns
    rw [directions_small (h l hl).small, map_direction_codes]
  have hleft : ((ls.map codes).map fun ns => ns.map fun n => Text.direction (standIn n)).any
      isRightToLeft = false := by
    rw [List.any_eq_false]
    simp only [List.map_map, List.mem_map, Function.comp_def, forall_exists_index, and_imp]
    rintro _ l hl rfl
    rw [map_direction_codes, isRightToLeft_small (h l hl).small]
    exact Bool.false_ne_true
  have hchecked : (ls.map codes).forM (checkLabel false) = .ok () := by
    refine forM_eq_ok fun ns hns => ?_
    obtain ⟨l, hl, rfl⟩ := List.mem_map.mp hns
    exact checkLabel_simple (h l hl)
  have hback : (ls.map codes).map (fun l => l.map standIn) = ls := by
    simp only [List.map_map, Function.comp_def, map_standIn_codes, List.map_id']
  rw [hlabels, hdecoded, bind_ok, hdirected, bind_ok, hleft, hchecked, bind_ok, hback]

end Names

end Weblog.Domain
