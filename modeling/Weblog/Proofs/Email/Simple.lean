/-
  Simple addresses: small letters and digits, an at-sign, and a host in a top-level domain that
  mail reaches. Such an address is accepted, and it is its own normal form.

  No rule of the reading applies to it, so that each step gives back what it takes: the parts are
  cut at the only at-sign, no name is mapped, and no length is too great.
-/
import Weblog.Email.Address
import Weblog.Proofs.Domain.Simple

namespace Weblog.Email

open Text (isSmall)

/-- The parts of a simple address. -/
structure IsSimple (mailbox host top : List Char) : Prop where
  mailbox_ne_nil : mailbox ≠ []
  mailbox_small : ∀ c ∈ mailbox, isSmall c = true
  simple_host : Domain.IsSimple host
  simple_top : Domain.IsSimple top
  letters : ∀ c ∈ top, c.isLower = true
  reached : isReservedName (host ++ '.' :: top) = false
  short : mailbox.length + host.length + top.length + 2 ≤ addressLimit

variable {mailbox host top cs : List Char} {a b c : Char}

/-! ## Characters and periods -/

/-- Printed signs of ASCII are safe. -/
theorem checkSafe_printed (spaces : Bool) (h : ∀ c ∈ cs, 0x20 < c.toNat ∧ c.toNat < 0x7F) :
    checkSafe spaces cs = .ok () := by
  have category : ∀ c ∈ cs, Text.category c = .letterOrNumber ∨
      Text.category c = .punctuationOrSymbol :=
    fun c hc => Text.category_of_printed (h c hc).1 (h c hc).2
  have hnone : unsafeChars spaces cs = [] := by
    unfold unsafeChars
    refine List.append_eq_nil_iff.mpr ⟨?_, List.filter_eq_nil_iff.mpr fun c hc => ?_⟩
    · cases cs with
      | nil => rfl
      | cons c cs =>
        rcases category c List.mem_cons_self with hcat | hcat <;> simp [hcat]
    · rcases category c hc with hcat | hcat <;> simp [hcat]
  unfold checkSafe
  rw [hnone]

theorem adjacent_of_ne (h : c ≠ a) : adjacent a b (c :: cs) = adjacent a b cs := by
  cases cs with
  | nil => rfl
  | cons d ds => simp [adjacent, h]

theorem adjacent_of_notMem (h : a ∉ cs) : adjacent a b cs = false := by
  induction cs with
  | nil => rfl
  | cons c cs ih =>
    rw [List.mem_cons, not_or] at h
    rw [adjacent_of_ne (Ne.symm h.1), ih h.2]

/-- A single period is followed by what stands after it. -/
theorem adjacent_period (hhost : '.' ∉ host) (htop : '.' ∉ top) (hb : b ∉ top) :
    adjacent '.' b (host ++ '.' :: top) = false := by
  induction host with
  | nil =>
    have hrest : adjacent '.' b top = false := adjacent_of_notMem htop
    cases top with
    | nil => rfl
    | cons d ds =>
      rw [List.mem_cons, not_or] at hb
      simp [adjacent, Ne.symm hb.1, hrest]
  | cons c cs ih =>
    rw [List.mem_cons, not_or] at hhost
    rw [List.cons_append, adjacent_of_ne (Ne.symm hhost.1), ih hhost.2]

theorem head?_ne_of_notMem (h : a ∉ cs) : cs.head? ≠ some a :=
  fun he => h (List.mem_of_mem_head? he)

theorem getLast?_ne_of_notMem (h : a ∉ cs) : cs.getLast? ≠ some a :=
  fun he => h (List.mem_of_getLast? he)

theorem dotFault?_eq_none {isHost : Bool} (ends : cs.head? ≠ some '.' ∧ cs.getLast? ≠ some '.')
    (single : adjacent '.' '.' cs = false) (noHyphen : '-' ∉ cs)
    (apart : adjacent '.' '-' cs = false) : dotFault? isHost cs = none := by
  unfold dotFault?
  rw [if_neg ends.2, if_neg ends.1, single, apart, adjacent_of_notMem noHyphen,
    if_neg (getLast?_ne_of_notMem noHyphen), if_neg (head?_ne_of_notMem noHyphen)]
  simp

/-- A text without periods and hyphens has no fault in them. -/
theorem dotFault?_small (isHost : Bool) (h : ∀ c ∈ cs, isSmall c = true) :
    dotFault? isHost cs = none := by
  have period : '.' ∉ cs := Domain.period_notMem h
  exact dotFault?_eq_none ⟨head?_ne_of_notMem period, getLast?_ne_of_notMem period⟩
    (adjacent_of_notMem period) (Domain.hyphen_notMem h) (adjacent_of_notMem period)

/-! ## The part before the at-sign -/

theorem isAtomChar_small (h : isSmall c = true) : isAtomChar c = true := by
  unfold isAtomChar
  rw [Text.isAlphanum_of_isSmall h, Bool.true_or]

theorem isDotAtom_small (hne : cs ≠ []) (h : ∀ c ∈ cs, isSmall c = true) :
    isDotAtom isAtomChar cs = true := by
  have hall : cs.all (fun c => isAtomChar c || decide (c = '.')) = true := by
    rw [List.all_eq_true]
    intro c hc
    rw [isAtomChar_small (h c hc), Bool.true_or]
  unfold isDotAtom
  rw [hall, dotFault?_small false h]
  simp [hne]

theorem checkLocal_small (hne : cs ≠ []) (h : ∀ c ∈ cs, isSmall c = true) :
    checkLocal false cs = .ok cs := by
  unfold checkLocal
  rw [if_neg (by simp [hne]), if_pos (isDotAtom_small hne h)]

theorem normalLocal_small (hne : cs ≠ []) (h : ∀ c ∈ cs, isSmall c = true) :
    normalLocal false cs = .ok cs := by
  have hnormal : Text.normal cs = cs :=
    Text.normal_of_ascii fun c hc => Text.toNat_lt_of_isSmall (h c hc)
  unfold normalLocal
  rw [checkLocal_small hne h, bind_ok, hnormal]
  simp [Text.map_toLower_of_isSmall h]

/-! ## The domain -/

theorem isHostChar_kept (h : isSmall c = true ∨ c = '.') : isHostChar c = true := by
  rcases h with h | rfl
  · simp [isHostChar, Text.isAlphanum_of_isSmall h]
  · rfl

theorem hidesPeriod_of_ascii (h : c.toNat < 0x80) : hidesPeriod c = false := by
  have hlisted : ∀ n ∈ [0x33C2, 0x33C7, 0x33D8, 0xFE19, 0xFE30, 0xFE52, 0x1F100], 0x80 ≤ n := by
    decide
  have hnone : [0x33C2, 0x33C7, 0x33D8, 0xFE19, 0xFE30, 0xFE52, 0x1F100].contains c.toNat = false := by
    rw [List.contains_eq_mem, decide_eq_false_iff_not]
    exact fun hmem => Nat.not_lt.mpr (hlisted c.toNat hmem) h
  have hdots : ¬0x2024 ≤ c.toNat := by omega
  have hnumbers : ¬0x2488 ≤ c.toNat := by omega
  unfold hidesPeriod
  rw [hnone, decide_eq_false hdots, decide_eq_false hnumbers]
  rfl

theorem printed_kept (h : isSmall c = true ∨ c = '.') : 0x20 < c.toNat ∧ c.toNat < 0x7F := by
  rcases h with h | rfl
  · have hcode := Text.isSmall_iff.mp h
    unfold Text.IsSmallCode at hcode
    omega
  · decide

/-- A label without hyphens is not reserved. -/
theorem isReserved_small (h : ∀ c ∈ cs, isSmall c = true) : isReserved cs = false := by
  have hne : (cs.drop 2).take 2 ≠ ['-', '-'] := by
    intro he
    have hmem : '-' ∈ (cs.drop 2).take 2 := by simp [he]
    exact Domain.hyphen_notMem h (List.mem_of_mem_drop (List.mem_of_mem_take hmem))
  simp [isReserved, hne]

theorem name_eq (host top : List Char) : host ++ '.' :: top = Domain.ofLabels [host, top] := by
  simp [Domain.ofLabels, List.intercalate]

section Domain

variable (hs : IsSimple mailbox host top)

include hs

theorem simple_labels : ∀ l ∈ [host, top], Domain.IsSimple l := by
  simp [hs.simple_host, hs.simple_top]

theorem length_name : (host ++ '.' :: top).length ≤ 127 := by
  have hhost : host.length ≤ 63 := hs.simple_host.short
  have htop : top.length ≤ 63 := hs.simple_top.short
  simp
  omega

theorem getLast?_name : (host ++ '.' :: top).getLast? = top.getLast? := by
  obtain ⟨c, cs, rfl⟩ := List.exists_cons_of_ne_nil hs.simple_top.ne_nil
  rw [List.getLast?_append, List.getLast?_cons_cons, List.getLast?_cons]
  rfl

theorem kept_of_mem_name (hc : c ∈ host ++ '.' :: top) : isSmall c = true ∨ c = '.' :=
  Domain.mem_ofLabels (simple_labels hs) (name_eq host top ▸ hc)

theorem dotFault?_name : dotFault? true (host ++ '.' :: top) = none := by
  have hhost := hs.simple_host.small
  have htop := hs.simple_top.small
  have hyphen : '-' ∉ host ++ '.' :: top := by
    simp [Domain.hyphen_notMem hhost, Domain.hyphen_notMem htop]
  have hperiod := Domain.period_notMem hhost
  have tperiod := Domain.period_notMem htop
  have hhead : (host ++ '.' :: top).head? = host.head? := by
    obtain ⟨c, cs, rfl⟩ := List.exists_cons_of_ne_nil hs.simple_host.ne_nil
    rfl
  refine dotFault?_eq_none ⟨?_, ?_⟩ (adjacent_period hperiod tperiod tperiod) hyphen
    (adjacent_period hperiod tperiod (Domain.hyphen_notMem htop))
  · rw [hhead]
    exact head?_ne_of_notMem hperiod
  · rw [getLast?_name hs]
    exact getLast?_ne_of_notMem tperiod

theorem labels_name : Domain.labels (host ++ '.' :: top) = [host, top] := by
  rw [name_eq]
  exact Domain.labels_ofLabels (List.cons_ne_nil host _)
    fun l hl => Domain.period_notMem (simple_labels hs l hl).small

theorem mapDomain_simple : mapDomain (host ++ '.' :: top) = .ok (host ++ '.' :: top) := by
  have hlen := length_name hs
  have hkept : ∀ c ∈ host ++ '.' :: top, isSmall c = true ∨ c = '.' :=
    fun c hc => kept_of_mem_name hs hc
  have hmapped : Domain.map (host ++ '.' :: top) = .ok (host ++ '.' :: top) := by
    rw [name_eq] at hlen ⊢
    exact Domain.map_simple (simple_labels hs) (Nat.lt_of_le_of_lt hlen (by decide))
  simp only [mapDomain, reject_eq_ok, bind_eq_ok, mapError_eq_ok]
  refine ⟨?_, ?_, (), checkSafe_printed false fun c hc => printed_kept (hkept c hc), _, hmapped,
    ?_, (), ?_, ?_, rfl⟩
  · exact Nat.not_lt.mpr (Nat.le_trans hlen (by decide))
  · have hnone : (host ++ '.' :: top).filter (fun c => !isHostChar c || hidesPeriod c) = [] := by
      refine List.filter_eq_nil_iff.mpr fun c hc => ?_
      rw [isHostChar_kept (hkept c hc), hidesPeriod_of_ascii (Domain.toNat_lt_of_kept (hkept c hc))]
      decide
    rw [hnone]
    decide
  · have hnone : (host ++ '.' :: top).filter (!isHostChar ·) = [] := by
      refine List.filter_eq_nil_iff.mpr fun c hc => ?_
      rw [isHostChar_kept (hkept c hc)]
      decide
    rw [hnone]
    decide
  · unfold checkDots
    rw [decide_eq_true rfl, dotFault?_name hs]
  · rw [labels_name hs]
    simp [isReserved_small hs.simple_host.small, isReserved_small hs.simple_top.small]

theorem checkAscii_simple : checkAscii (host ++ '.' :: top) (host ++ '.' :: top) = .ok () := by
  have hfound : [host, top].find? (fun l => decide (Domain.labelLimit < l.length)) = none := by
    refine List.find?_eq_none.mpr fun l hl => ?_
    simpa using (simple_labels hs l hl).short
  simp only [checkAscii, labels_name hs, hfound, reject_eq_ok, hs.reached]
  refine ⟨Nat.not_lt.mpr (Nat.le_trans (length_name hs) (by decide)), by simp, ?_, rfl⟩
  rw [getLast?_name hs, List.getLast?_eq_some_getLast hs.simple_top.ne_nil]
  have hletter := hs.letters _ (List.getLast_mem hs.simple_top.ne_nil)
  have halpha : (top.getLast hs.simple_top.ne_nil).isAlpha = true := by
    show ((top.getLast hs.simple_top.ne_nil).isUpper ||
      (top.getLast hs.simple_top.ne_nil).isLower) = true
    rw [hletter, Bool.or_true]
  simp [halpha]

theorem normalDomain_simple :
    normalDomain (host ++ '.' :: top) = .ok (host ++ '.' :: top, host ++ '.' :: top) := by
  have hshort : (host ++ '.' :: top).length < Domain.nameLimit :=
    Nat.lt_of_le_of_lt (length_name hs) (by decide)
  have hprinted : ∀ c ∈ host ++ '.' :: top, 0x20 < c.toNat ∧ c.toNat < 0x7F :=
    fun c hc => printed_kept (kept_of_mem_name hs hc)
  have hascii : (host ++ '.' :: top).all Domain.isAscii = true := by
    rw [List.all_eq_true]
    exact fun c hc => decide_eq_true (Domain.toNat_lt_of_kept (kept_of_mem_name hs hc))
  have hunicode : Domain.toUnicode (host ++ '.' :: top) = .ok (host ++ '.' :: top) := by
    rw [name_eq] at hshort ⊢
    exact Domain.toUnicode_simple (List.cons_ne_nil host _) (simple_labels hs) hshort
  have hback : Domain.toAscii (host ++ '.' :: top) = .ok (host ++ '.' :: top) := by
    rw [name_eq] at hshort ⊢
    exact Domain.toAscii_simple (List.cons_ne_nil host _) (simple_labels hs) hshort
  unfold normalDomain
  rw [mapDomain_simple hs, bind_ok, if_pos hascii]
  change (checkAscii _ _ >>= fun _ => _) = _
  rw [checkAscii_simple hs, bind_ok, hunicode]
  change (checkSafe false _ >>= fun _ => _) = _
  rw [checkSafe_printed false hprinted, bind_ok, hback]
  rfl

end Domain

/-! ## The whole address -/

theorem length_utf8_of_ascii (h : ∀ c ∈ cs, c.toNat < 0x80) :
    (Bytes.utf8 cs).length = cs.length := by
  induction cs with
  | nil => rfl
  | cons c cs ih =>
    rw [Bytes.utf8_cons, List.length_append, ih fun d hd => h d (List.mem_cons_of_mem c hd)]
    simp [Bytes.utf8Char, h c List.mem_cons_self]
    omega

theorem length_le_utf8 (cs : List Char) : cs.length ≤ (Bytes.utf8 cs).length := by
  induction cs with
  | nil => exact Nat.le_refl 0
  | cons c cs ih =>
    have least : 0 < (Bytes.utf8Char c).length := by
      unfold Bytes.utf8Char
      dsimp only
      split
      · simp
      · split
        · simp
        · split <;> simp
    rw [Bytes.utf8_cons, List.length_append, List.length_cons]
    omega

theorem checkLength_eq_ok {form : Form} :
    checkLength form cs = .ok () ↔ (Bytes.utf8 cs).length ≤ addressLimit := by
  unfold checkLength
  exact else_error_eq_ok.trans (and_iff_left rfl)

/-- A text is cut in front of the first of some signs that stands in it. -/
theorem cutAt_sign {signs before after : List Char} (alone : Text.combines a after = false)
    (hnone : ∀ d ∈ before, d ∉ signs ∧ d ≠ '"') (ha : a ∈ signs) (hquote : a ≠ '"') :
    cutAt signs false false (before ++ a :: after) = (before, a :: after) := by
  induction before with
  | nil => simp [cutAt, alone, ha, hquote]
  | cons c cs ih =>
    have hc := hnone c List.mem_cons_self
    have hrest := ih fun d hd => hnone d (List.mem_cons_of_mem c hd)
    simp [cutAt, hc.1, hc.2, hrest]

theorem bracketed?_eq_none (h : '<' ∉ cs) : bracketed? cs = none := by
  unfold bracketed?
  split
  · exact absurd List.mem_cons_self h
  · rfl

/-- An address without angle brackets and quotes is in no brackets. -/
theorem inBrackets?_eq_none (bracket : '<' ∉ cs) (quote : '"' ∉ cs) : inBrackets? cs = none := by
  have plain : ∀ p : Char → Bool, '<' ∉ cs.dropWhile p := fun p hp =>
    bracket ((List.dropWhile_suffix p).subset hp)
  unfold inBrackets?
  simp only [bracketed?_eq_none (plain _)]
  split
  · rename_i heq
    exact absurd ((List.dropWhile_suffix _).subset (heq ▸ List.mem_cons_self)) quote
  · rfl

theorem unquote_eq_self (h : '"' ∉ cs) : unquote cs = .ok (cs, false) := by
  unfold unquote
  split
  · exact absurd List.mem_cons_self h
  · rfl

theorem trimBoth_eq_self {p : Char → Bool} (h : ∀ c ∈ cs, p c = false) :
    Text.trimBoth p cs = cs := by
  have hkept : ∀ l : List Char, (∀ c ∈ l, p c = false) → l.dropWhile p = l := by
    intro l hl
    cases l with
    | nil => rfl
    | cons c l => exact List.dropWhile_cons_of_neg (by simp [hl c List.mem_cons_self])
  unfold Text.trimBoth
  rw [hkept cs h, hkept cs.reverse fun c hc => h c (List.mem_reverse.mp hc), List.reverse_reverse]

section Address

variable (hs : IsSimple mailbox host top)

include hs

/-- The signs of a simple address. -/
theorem mem_address (hc : c ∈ join mailbox (host ++ '.' :: top)) :
    isSmall c = true ∨ c = '@' ∨ c = '.' := by
  rw [join, List.mem_append, List.mem_cons] at hc
  obtain hc | hc | hc := hc
  · exact .inl (hs.mailbox_small c hc)
  · exact .inr (.inl hc)
  · exact (kept_of_mem_name hs hc).imp_right .inr

theorem ascii_address : ∀ c ∈ join mailbox (host ++ '.' :: top), c.toNat < 0x80 := by
  intro c hc
  obtain h | rfl | rfl := mem_address hs hc
  · exact Text.toNat_lt_of_isSmall h
  · decide
  · decide

theorem parts_simple : parts (join mailbox (host ++ '.' :: top)) =
    .ok ⟨false, mailbox, false, host ++ '.' :: top⟩ := by
  have hnone : ∀ c ∈ mailbox, c ∉ ['@', '<'] ∧ c ≠ '"' := by
    intro c hc
    have hsmall := hs.mailbox_small c hc
    simp [Text.ne_of_isSmall hsmall (show isSmall '@' = false by decide),
      Text.ne_of_isSmall hsmall (show isSmall '<' = false by decide),
      Text.ne_of_isSmall hsmall (show isSmall '"' = false by decide)]
  have hcut : cut ['@', '<'] (join mailbox (host ++ '.' :: top)) =
      .ok (mailbox, '@' :: (host ++ '.' :: top)) := by
    have ascii : ∀ c ∈ '@' :: (host ++ '.' :: top), c.toNat < 0x80 := fun c hc =>
      ascii_address hs c (List.mem_append_right mailbox hc)
    unfold cut join
    rw [cutAt_sign (Text.combines_of_ascii ascii) hnone (by decide) (by decide)]
  have hquote : '"' ∉ mailbox := fun hmem => absurd (hs.mailbox_small '"' hmem) (by decide)
  unfold parts
  rw [hcut, bind_ok]
  simp only [ofSides, unquote_eq_self hquote, bind_ok]
  rfl

theorem checkLength_simple (form : Form) :
    checkLength form (join mailbox (host ++ '.' :: top)) = .ok () := by
  have hshort := hs.short
  have hbytes : (Bytes.utf8 (join mailbox (host ++ '.' :: top))).length ≤ addressLimit := by
    rw [length_utf8_of_ascii (ascii_address hs)]
    simp [join]
    omega
  exact checkLength_eq_ok.mpr hbytes

theorem normalAddress_simple : normalAddress (join mailbox (host ++ '.' :: top)) =
    .ok (join mailbox (host ++ '.' :: top)) := by
  have hbracket : '[' ∉ host ++ '.' :: top := fun hmem =>
    absurd (kept_of_mem_name hs hmem) (by decide)
  have hhead := head?_ne_of_notMem hbracket
  simp only [normalAddress, parts_simple hs, bind_ok, normalLocal_small hs.mailbox_ne_nil
    hs.mailbox_small, normalDomain_simple hs, checkLength_simple hs, reject_eq_ok]
  exact ⟨by simp, fun h => hhead h.1, Bool.false_ne_true, trivial⟩

/-- A simple address is its own normal form. -/
theorem normalForm_simple {address : String}
    (haddress : address.toList = join mailbox (host ++ '.' :: top)) :
    normalForm address = .ok address := by
  have hshort := hs.short
  have hlimit : ¬readLimit < (join mailbox (host ++ '.' :: top)).length := by
    unfold addressLimit at hshort
    simp [join, readLimit]
    omega
  have hbreak : ∀ d, isSmall d = false → d ≠ '@' → d ≠ '.' →
      (join mailbox (host ++ '.' :: top)).contains d = false := by
    intro d hsmall hat hperiod
    rw [List.contains_eq_mem, decide_eq_false_iff_not]
    intro hmem
    obtain h | h | h := mem_address hs hmem
    · rw [hsmall] at h
      cases h
    · exact hat h
    · exact hperiod h
  have hbrackets : inBrackets? (join mailbox (host ++ '.' :: top)) = none := by
    refine inBrackets?_eq_none (fun hmem => ?_) fun hmem => ?_
    · exact absurd (mem_address hs hmem) (by decide)
    · exact absurd (mem_address hs hmem) (by decide)
  have hblank : ∀ c ∈ join mailbox (host ++ '.' :: top), Text.isBlankChar c = false := by
    intro c hc
    obtain h | rfl | rfl := mem_address hs hc
    · exact Text.isBlankChar_of_isSmall h
    · decide
    · decide
  simp only [normalForm, haddress]
  rw [if_neg hlimit, hbreak '\r' (by decide) (by decide) (by decide),
    hbreak '\n' (by decide) (by decide) (by decide), Bool.or_false, if_neg Bool.false_ne_true,
    hbrackets, Option.getD_none, trimBoth_eq_self hblank, normalAddress_simple hs,
    ← haddress]
  exact congrArg Except.ok String.ofList_toList

end Address

/-- Mailboxes of small letters at the example domain. -/
theorem isSimple_example (some : mailbox ≠ []) (small : ∀ c ∈ mailbox, isSmall c = true)
    (short : mailbox.length ≤ 64) : IsSimple mailbox "example".toList "com".toList := by
  have host : Domain.IsSimple "example".toList :=
    ⟨by decide, List.all_eq_true.mp (by decide), by decide⟩
  have top : Domain.IsSimple "com".toList :=
    ⟨by decide, List.all_eq_true.mp (by decide), by decide⟩
  have fits : mailbox.length + "example".toList.length + "com".toList.length + 2 ≤
      addressLimit := by
    have limit : addressLimit = 254 := rfl
    have lengths : "example".toList.length = 7 ∧ "com".toList.length = 3 := by decide
    omega
  exact ⟨some, small, host, top, List.all_eq_true.mp (by decide), by decide, fits⟩

end Weblog.Email
