/-
  The two forms of names. A name in ASCII is small where its labels are (`small_of_asciiLabels`),
  its Unicode form consists of sound labels, and the ASCII form of these is the name again
  (`asciiLabels_toUnicode`).
-/
import Weblog.Proofs.Domain.Characters
import Weblog.Proofs.Domain.Punycode

namespace Weblog.Domain

variable {c : Char} {label ascii unicode name : List Char} {ls : List (List Char)} {ns : List Nat}

/-! ## Sound labels -/

/-- A label in Unicode that keeps to the rules, those for joiners and for writing directions
aside. -/
structure IsSound (label : List Char) : Prop where
  ne_nil : label ≠ []
  normal : Text.normal label = label
  unreserved : (label.drop 2).take 2 ≠ ['-', '-']
  head : label.head? ≠ some '-'
  last : label.getLast? ≠ some '-'
  valid : ∀ c ∈ label, IsValid c

theorem valid_of_checkCharacters {before : List Char}
    (h : checkCharacters ns before label = .ok ()) : ∀ c ∈ label, IsValid c := by
  induction label generalizing before with
  | nil =>
    intro c hc
    cases hc
  | cons c cs ih =>
    obtain ⟨u, here, rest⟩ := bind_eq_ok.mp h
    refine List.forall_mem_cons.mpr ⟨fun nowhere => ?_, ih rest⟩
    rw [nowhere] at here
    cases here

theorem isSound_of_checkLabel {mixed : Bool} (h : checkLabel mixed ns = .ok ()) :
    IsSound (ns.map standIn) := by
  simp only [checkLabel, reject_eq_ok, bind_eq_ok, not_or, Decidable.not_not] at h
  obtain ⟨-, ne, normal, unreserved, ⟨head, last⟩, -, u, valid, -⟩ := h
  exact ⟨by simpa using ne, normal, unreserved, head, last, valid_of_checkCharacters valid⟩

theorem toNat_standIn {n : Nat} (h : standIn n ≠ '\ue000') : (standIn n).toNat = n := by
  by_cases valid : n.isValidChar
  · rw [standIn, dif_pos valid]
    rfl
  · rw [standIn, dif_neg valid] at h
    exact absurd rfl h

/-- No half of a surrogate pair stands in a sound label. -/
theorem IsSound.codes_eq (sound : IsSound (ns.map standIn)) : codes (ns.map standIn) = ns := by
  unfold codes
  rw [List.map_map]
  refine (List.map_congr_left fun n hn => ?_).trans (List.map_id' ns)
  exact toNat_standIn ((sound.valid _ (List.mem_map_of_mem hn)).ne_of_barred (by decide))

theorem IsSound.period_notMem (sound : IsSound label) : '.' ∉ label :=
  fun hp => (sound.valid '.' hp).ne_of_barred (by decide) rfl

/-! ## Labels in ASCII -/

/-- Characters of a small name in ASCII. -/
def IsPlain (cs : List Char) : Prop := ∀ c ∈ cs, c.toNat < 0x80 ∧ c.toLower = c

instance : DecidablePred IsPlain := fun cs =>
  List.decidableBAll (fun c : Char => c.toNat < 0x80 ∧ c.toLower = c) cs

theorem asciiLabel_cases (h : asciiLabel label = .ok ascii) :
    label.all isAscii = true ∧ ascii = label ∨
      label.all isAscii = false ∧ ascii = encodedMark ++ Punycode.encode (codes label) := by
  simp only [asciiLabel, reject_eq_ok] at h
  obtain ⟨-, h⟩ := h
  split at h
  · rename_i all
    simp only [bind_eq_ok, reject_eq_ok] at h
    obtain ⟨ns, -, u, -, same, hsame, -, h⟩ := h
    exact .inl ⟨all, (Except.ok.inj (hsame.trans h)).symm⟩
  · rename_i other
    simp only [bind_eq_ok, reject_eq_ok] at h
    obtain ⟨u, -, encoded, hencoded, -, h⟩ := h
    exact .inr ⟨Bool.eq_false_iff.mpr other, (Except.ok.inj (hencoded.trans h)).symm⟩

theorem decodedLabel_cases (small : label.map Char.toLower = label)
    (h : decodedLabel label = .ok ns) : ns = codes label ∨
      label = encodedMark ++ Punycode.encode ns ∧ ∃ n ∈ ns, 0x80 ≤ n := by
  simp only [decodedLabel, reject_eq_ok, small] at h
  obtain ⟨-, h⟩ := h
  split at h
  · rename_i encoded
    simp only [reject_eq_ok] at h
    obtain ⟨ne, last, h⟩ := h
    have mark := List.prefix_iff_eq_append.mp (List.isPrefixOf_iff_prefix.mp encoded)
    generalize label.drop encodedMark.length = digits at ne last h mark
    split at h
    · cases h
    · rename_i decoded found
      obtain ⟨canonical, h⟩ := else_error_eq_ok.mp h
      obtain rfl := Except.ok.inj h
      refine .inr ⟨by rw [canonical, mark], ?_⟩
      exact Punycode.exists_of_decode? found (by simpa using ne) last
  · exact .inl (Except.ok.inj h).symm

/-- The characters of labels in ASCII. -/
theorem isPlain_of_asciiLabel (h : asciiLabel label = .ok ascii)
    (small : ∀ c ∈ label, c.toLower = c) : IsPlain ascii := by
  rcases asciiLabel_cases h with ⟨all, rfl⟩ | ⟨-, rfl⟩
  · exact fun c hc => ⟨of_decide_eq_true (List.all_eq_true.mp all c hc), small c hc⟩
  · have mark : IsPlain encodedMark := by decide
    intro c hc
    rcases List.mem_append.mp hc with hc | hc
    · exact mark c hc
    · rcases Punycode.mem_encode hc with ⟨n, hn, low, rfl⟩ | rfl | digit
      · obtain ⟨d, hd, rfl⟩ := List.mem_map.mp hn
        rw [Char.ofNat_toNat]
        exact ⟨low, small d hd⟩
      · decide
      · exact ⟨digit.small.1, digit.small.2.1⟩

theorem period_of_asciiLabel (h : asciiLabel label = .ok ascii) (hp : '.' ∈ ascii) :
    '.' ∈ label := by
  rcases asciiLabel_cases h with ⟨-, rfl⟩ | ⟨-, rfl⟩
  · exact hp
  · rcases List.mem_append.mp hp with hp | hp
    · exact absurd hp (by decide)
    · rcases Punycode.mem_encode hp with ⟨n, hn, -, same⟩ | same | digit
      · obtain ⟨c, hc, rfl⟩ := List.mem_map.mp hn
        rw [Char.ofNat_toNat] at same
        exact same ▸ hc
      · exact absurd same (by decide)
      · exact absurd rfl digit.small.2.2

/-- A label in ASCII is the ASCII form of what it is decoded to. -/
theorem asciiLabel_decoded (plain : IsPlain label) (decoded : decodedLabel label = .ok ns)
    (sound : IsSound (ns.map standIn)) (h : asciiLabel (ns.map standIn) = .ok ascii) :
    ascii = label := by
  have small : label.map Char.toLower = label :=
    (List.map_congr_left fun c hc => (plain c hc).2).trans (List.map_id' label)
  have back := sound.codes_eq
  rcases decodedLabel_cases small decoded with rfl | ⟨rfl, n, hn, high⟩
  · rw [map_standIn_codes] at h
    rcases asciiLabel_cases h with ⟨-, same⟩ | ⟨other, -⟩
    · exact same
    · have all : label.all isAscii = true :=
        List.all_eq_true.mpr fun c hc => decide_eq_true (plain c hc).1
      rw [all] at other
      cases other
  · rcases asciiLabel_cases h with ⟨all, -⟩ | ⟨-, same⟩
    · rw [← back] at hn
      obtain ⟨c, hc, rfl⟩ := List.mem_map.mp hn
      have low := of_decide_eq_true (List.all_eq_true.mp all c hc)
      exact absurd high (Nat.not_le.mpr low)
    · rw [same, back]

/-! ## Names -/

theorem labelsAfter_ne_nil (label cs : List Char) : labelsAfter label cs ≠ [] := by
  induction cs generalizing label with
  | nil => exact List.cons_ne_nil _ _
  | cons c cs ih =>
    unfold labelsAfter
    split
    · exact List.cons_ne_nil _ _
    · exact ih (c :: label)

theorem ofLabels_labelsAfter (label cs : List Char) :
    ofLabels (labelsAfter label cs) = label.reverse ++ cs := by
  induction cs generalizing label with
  | nil => simp [labelsAfter, ofLabels]
  | cons c cs ih =>
    unfold labelsAfter
    split
    · rename_i period
      rw [ofLabels_cons _ (labelsAfter_ne_nil [] cs), ih, period]
      rfl
    · rw [ih, List.reverse_cons, List.append_assoc]
      rfl

/-- A name consists of its labels. -/
theorem ofLabels_labels (name : List Char) : ofLabels (labels name) = name :=
  ofLabels_labelsAfter [] name

theorem mem_labelsAfter {cs : List Char} (hl : label ∈ labelsAfter ascii cs) (hc : c ∈ label) :
    c ∈ ascii ∨ c ∈ cs ∧ c ≠ '.' := by
  induction cs generalizing ascii with
  | nil =>
    rw [labelsAfter, List.mem_singleton] at hl
    rw [hl, List.mem_reverse] at hc
    exact .inl hc
  | cons d ds ih =>
    unfold labelsAfter at hl
    split at hl
    · rcases List.mem_cons.mp hl with rfl | hl
      · exact .inl (List.mem_reverse.mp hc)
      · rcases ih hl with h | h
        · cases h
        · exact .inr ⟨List.mem_cons_of_mem d h.1, h.2⟩
    · rename_i other
      rcases ih hl with h | h
      · rcases List.mem_cons.mp h with rfl | h
        · exact .inr ⟨List.mem_cons_self, other⟩
        · exact .inl h
      · exact .inr ⟨List.mem_cons_of_mem d h.1, h.2⟩

/-- The characters of labels stand in the name, and are no periods. -/
theorem mem_of_mem_labels (hl : label ∈ labels name) (hc : c ∈ label) : c ∈ name ∧ c ≠ '.' :=
  (mem_labelsAfter hl hc).resolve_left List.not_mem_nil

/-- A name whose labels are in normal form is in normal form. -/
theorem normal_ofLabels (h : ∀ l ∈ ls, Text.normal l = l) :
    Text.normal (ofLabels ls) = ofLabels ls := by
  induction ls with
  | nil => rfl
  | cons l ls ih =>
    obtain ⟨hl, hls⟩ := List.forall_mem_cons.mp h
    by_cases hne : ls = []
    · rw [hne]
      simpa [ofLabels] using hl
    · rw [ofLabels_cons l hne, Text.normal_around (.inl rfl), hl, ih hls]

/-- Names in ASCII that are made from small labels are small. -/
theorem isPlain_of_asciiLabels (h : asciiLabels name = .ok ascii)
    (small : ∀ c ∈ name, c.toLower = c) : IsPlain ascii := by
  obtain ⟨as, has, rfl⟩ := map_eq_ok.mp h
  intro c hc
  rcases mem_of_mem_ofLabels hc with rfl | ⟨a, ha, hc⟩
  · decide
  · obtain ⟨l, hl, made⟩ := mem_of_mapM has a ha
    exact isPlain_of_asciiLabel made (fun d hd => small d (mem_of_mem_labels hl hd).1) c hc

/-- A name in ASCII is its own ASCII form. -/
theorem asciiLabels_ascii (h : asciiLabels name = .ok ascii) (all : name.all isAscii = true) :
    ascii = name := by
  obtain ⟨as, has, rfl⟩ := map_eq_ok.mp h
  have same : as = labels name := eq_of_mapM has fun l hl a made => by
    rcases asciiLabel_cases made with ⟨-, same⟩ | ⟨other, -⟩
    · exact same
    · have every : l.all isAscii = true := List.all_eq_true.mpr fun c hc =>
        List.all_eq_true.mp all c (mem_of_mem_labels hl hc).1
      rw [every] at other
      cases other
  rw [same, ofLabels_labels]

theorem labels_sound (hne : ls ≠ []) (sound : ∀ l ∈ ls, IsSound l) : labels (ofLabels ls) = ls :=
  labels_ofLabels hne fun l hl => (sound l hl).period_notMem

/-- The labels of the Unicode form of a name. -/
theorem toUnicode_eq_ok (h : toUnicode ascii = .ok unicode) :
    ∃ decoded, (labels ascii).mapM decodedLabel = .ok decoded ∧ decoded ≠ [] ∧
      (∀ ns ∈ decoded, IsSound (ns.map standIn)) ∧
      unicode = ofLabels (decoded.map (·.map standIn)) := by
  simp only [toUnicode, reject_eq_ok, bind_eq_ok] at h
  obtain ⟨-, decoded, hdecoded, ds, -, u, checked, same⟩ := h
  refine ⟨decoded, hdecoded, fun hnil => ?_, fun ns hns => ?_, (Except.ok.inj same).symm⟩
  · have count := length_of_mapM hdecoded
    rw [hnil] at count
    exact labelsAfter_ne_nil [] ascii (List.eq_nil_of_length_eq_zero count.symm)
  · exact isSound_of_checkLabel (ok_of_forM checked ns hns)

/-- The Unicode form of a name consists of sound labels. -/
theorem exists_sound (h : toUnicode ascii = .ok unicode) :
    ∃ ls, ls ≠ [] ∧ (∀ l ∈ ls, IsSound l) ∧ unicode = ofLabels ls := by
  obtain ⟨decoded, -, hne, sound, same⟩ := toUnicode_eq_ok h
  exact ⟨decoded.map (·.map standIn), fun hnil => hne (List.map_eq_nil_iff.mp hnil),
    List.forall_mem_map.mpr sound, same⟩

/-- The ASCII form of the Unicode form of a name is the name. -/
theorem asciiLabels_toUnicode (plain : IsPlain ascii) (h : toUnicode ascii = .ok unicode)
    {again : List Char} (h' : asciiLabels unicode = .ok again) : again = ascii := by
  obtain ⟨decoded, hdecoded, hne, sound, rfl⟩ := toUnicode_eq_ok h
  have split : labels (ofLabels (decoded.map (·.map standIn))) = decoded.map (·.map standIn) :=
    labels_sound (fun hnil => hne (List.map_eq_nil_iff.mp hnil)) (List.forall_mem_map.mpr sound)
  obtain ⟨as, has, rfl⟩ := map_eq_ok.mp h'
  rw [split] at has
  have same : as = labels ascii := eq_of_mapM_mapM hdecoded has fun l hl ns hns hdec a hasc =>
    asciiLabel_decoded (fun c hc => plain c (mem_of_mem_labels hl hc).1) hdec (sound ns hns) hasc
  rw [same, ofLabels_labels]

/-- A short name of sound labels is mapped to itself. -/
theorem map_sound (sound : ∀ l ∈ ls, IsSound l) (short : (ofLabels ls).length ≤ inputLimit) :
    map (ofLabels ls) = .ok (ofLabels ls) := by
  have kept : ∀ c ∈ ofLabels ls, mapChar? c = some [c] := fun c hc => by
    rcases mem_of_mem_ofLabels hc with rfl | ⟨l, hl, hc⟩
    · exact mapChar?_kept (.inr rfl)
    · exact ((sound l hl).valid c hc).mapChar?_eq
  unfold map
  rw [if_neg (Nat.not_lt.mpr short), mapFrom_kept _ _ kept]
  exact congrArg Except.ok (normal_ofLabels fun l hl => (sound l hl).normal)

end Weblog.Domain
