/-
  Searches for fragments: what is found of a post if a piece of its title or its body is searched
  for.

  A fragment is put into lower case by itself, and the post is found if and only if that stands in
  its title or its body in lower case (`fragment_searched`). So it is found unless a capital
  sigma of the fragment has another form at the place that the fragment was taken from.
-/
import Weblog.Proofs.Service.WordSearch
import Weblog.Proofs.Text.Phrases

namespace Weblog

namespace Like

variable {w text : List Char}

/-- Reading makes no blanks. -/
theorem isBlankChar_legible {c : Char} (h : Text.isBlankChar c = false) :
    Text.isBlankChar (legible c) = false := by
  unfold legible
  split
  · decide
  · exact h

/-- In texts without U+0000 a word matches where it is read. -/
theorem matches_containing_clear (clear : '\x00' ∉ w) (clearText : '\x00' ∉ text)
    (fw : ∀ c ∈ w, Text.IsFolded c) (ftext : ∀ c ∈ text, Text.IsFolded c) :
    «matches» escapeChar (containing w) text = true ↔ w.map legible <:+: text.map legible := by
  rw [matches_containing_iff fw ftext, if_neg clear, visible_of_no_nul clear,
    visible_of_no_nul clearText]

end Like

namespace Service

variable {settings : Settings} {s : Store} {p : PostRow} {title body w : String}

/-- A text is read in another: the first in lower case stands in the second in lower case, as far as
patterns tell characters apart. -/
def ReadIn (w text : String) : Prop :=
  (Text.lower w).toList.map Like.legible <:+: (Text.lower text).toList.map Like.legible

instance (w text : String) : Decidable (ReadIn w text) :=
  inferInstanceAs (Decidable (_ <:+: _))

theorem readIn_of_sigmasAlike {before after : List Char} {text : String}
    (split : text.toList = before ++ w.toList ++ after)
    (alike : Text.SigmasAlike before.reverse w.toList after) : ReadIn w text := by
  rw [ReadIn, Text.toList_lower, Text.toList_lower, split]
  exact (Text.infix_of_sigmasAlike alike).map Like.legible

/-- A fragment is found in the document of a post if and only if it is read in its title or its
body. -/
theorem matches_document_iff (valid : p.Valid) (titled : p.title = some title)
    (bodied : p.body = some body) (clearTitle : '\x00' ∉ title.toList)
    (clearBody : '\x00' ∉ body.toList) (clear : '\x00' ∉ w.toList) (nonempty : w.toList ≠ [])
    (solid : ∀ c ∈ w.toList, Text.isBlankChar c = false) :
    Like.matches Like.escapeChar (Like.containing (Text.lower w).toList)
      p.document.content.toList = true ↔ ReadIn w title ∨ ReadIn w body := by
  obtain ⟨title', body', titled', bodied', hdocument⟩ := document_of_valid valid
  obtain rfl := Option.some.inj (titled.symm.trans titled')
  obtain rfl := Option.some.inj (bodied.symm.trans bodied')
  have joined : (title ++ " " ++ body).toList = title.toList ++ ' ' :: body.toList := by simp
  have content : p.document.content.toList =
      (Text.lower title).toList ++ ' ' :: (Text.lower body).toList := by
    rw [hdocument, Text.toList_lower, Text.toList_lower, Text.toList_lower, joined,
      Text.lowerAfter_blank (by decide)]
  have clearContent : '\x00' ∉ p.document.content.toList := by
    rw [hdocument, Text.toList_lower, joined]
    intro nul
    have nul := Text.nul_of_mem_lowerAfter nul
    simp [clearTitle, clearBody] at nul
  have clearWord : '\x00' ∉ (Text.lower w).toList := by
    rw [Text.toList_lower]
    exact fun nul => clear (Text.nul_of_mem_lowerAfter nul)
  have solidWord : ∀ d ∈ (Text.lower w).toList.map Like.legible, Text.isBlankChar d = false := by
    rw [List.forall_mem_map, Text.toList_lower]
    exact fun d hd => Like.isBlankChar_legible (Text.isBlankChar_of_mem_lowerAfter solid hd)
  have nonemptyWord : (Text.lower w).toList.map Like.legible ≠ [] := by
    rw [Text.toList_lower]
    exact mt List.map_eq_nil_iff.mp (Text.lowerAfter_ne_nil [] nonempty)
  have space : Like.legible ' ' = ' ' := by decide
  rw [Like.matches_containing_clear clearWord clearContent
    (fun _ hc => Text.folded_of_mem_lower hc) (Search.folded_document p), content, List.map_append,
    List.map_cons, space]
  exact Text.infix_spaced_iff (by decide) solidWord nonemptyWord

/-- After any visits, a search for a fragment of the title or the body of a post gives a list of
posts. It has the post if and only if the fragment in lower case is read in its title or its body in
lower case: so it is if the capital sigmas of the fragment have the same forms by themselves as at
some place of the fragment, and if it has none. -/
theorem fragment_searched (reach : Reachable settings s) (hp : p ∈ s.tables.posts)
    (titled : p.title = some title) (bodied : p.body = some body)
    (clearTitle : '\x00' ∉ title.toList) (clearBody : '\x00' ∉ body.toList)
    (fragment : w.toList <:+: title.toList ∨ w.toList <:+: body.toList) (nonempty : w.toList ≠ [])
    (solid : ∀ c ∈ w.toList, Text.isBlankChar c = false)
    (short : Search.patternBytes w ≤ Search.patternLimit) :
    ∃ rows, Search.posts s.tables w none = .ok rows ∧
      (p ∈ rows ↔ ReadIn w title ∨ ReadIn w body) ∧
      (∀ text ∈ [title, body], ∀ before after, text.toList = before ++ w.toList ++ after →
        Text.SigmasAlike before.reverse w.toList after → p ∈ rows) ∧
      ('Σ' ∉ w.toList → p ∈ rows) := by
  have hs := reach.sound
  have clear : '\x00' ∉ w.toList := by
    intro nul
    rcases fragment with inTitle | inBody
    · exact clearTitle (inTitle.subset nul)
    · exact clearBody (inBody.subset nul)
  obtain ⟨rows, hrows, mem_rows⟩ :=
    Search.posts_of_word (Search.terms_of_word solid nonempty) hs.documented short
  have found : p ∈ rows ↔ ReadIn w title ∨ ReadIn w body := by
    rw [mem_rows, and_iff_right hp]
    exact matches_document_iff (hs.valid.posts p hp) titled bodied clearTitle clearBody clear
      nonempty solid
  have alike : ∀ text ∈ [title, body], ∀ before after,
      text.toList = before ++ w.toList ++ after →
        Text.SigmasAlike before.reverse w.toList after → p ∈ rows := by
    intro text htext before after split alike
    have read := readIn_of_sigmasAlike split alike
    rcases List.mem_pair.mp htext with rfl | rfl
    · exact found.mpr (.inl read)
    · exact found.mpr (.inr read)
  refine ⟨rows, hrows, found, alike, fun none => ?_⟩
  obtain ⟨text, htext, before, after, split⟩ :
      ∃ text ∈ [title, body], w.toList <:+: text.toList := by simpa using fragment
  exact alike text htext before after split.symm (Text.sigmasAlike_of_notMem none)

theorem reachable_sigmas : Reachable .default (written "ΑΣΑ" "A body") :=
  reachable_written (by decide +kernel) (by decide) (by decide)

/-- A fragment that begins with a sigma is found, since that sigma is no final one. -/
theorem fragment_with_sigma :
    ∃ rows, Search.posts (written "ΑΣΑ" "A body").tables "ΣΑ" none = .ok rows ∧
      writtenPost "ΑΣΑ" "A body" ∈ rows := by
  have solid : ∀ c ∈ "ΣΑ".toList, Text.isBlankChar c = false := by
    change ∀ c ∈ ['Σ', 'Α'], Text.isBlankChar c = false
    rw [List.forall_mem_cons, List.forall_mem_singleton]
    decide
  have short : Search.patternBytes "ΣΑ" ≤ Search.patternLimit :=
    (Search.patternBytes_le "ΣΑ").trans (by decide)
  obtain ⟨rows, hrows, found, -⟩ := fragment_searched reachable_sigmas
    (List.mem_singleton_self (writtenPost "ΑΣΑ" "A body")) rfl rfl (by decide) (by decide)
    (.inl (⟨['Α'], [], rfl⟩ : "ΣΑ".toList <:+: "ΑΣΑ".toList)) (by decide)
    solid short
  exact ⟨rows, hrows, found.mpr (.inl (by decide +kernel))⟩

/-- A fragment that ends in a sigma is not found in front of a letter. -/
theorem fragment_before_letter :
    Reachable .default (written "ΑΣΑ" "A body") ∧ "ΑΣ".toList <:+: "ΑΣΑ".toList ∧
      Search.posts (written "ΑΣΑ" "A body").tables "ΑΣ" none = .ok [] := by
  have solid : ∀ c ∈ "ΑΣ".toList, Text.isBlankChar c = false := by
    change ∀ c ∈ ['Α', 'Σ'], Text.isBlankChar c = false
    rw [List.forall_mem_cons, List.forall_mem_singleton]
    decide
  have short : Search.patternBytes "ΑΣ" ≤ Search.patternLimit :=
    (Search.patternBytes_le "ΑΣ").trans (by decide)
  obtain ⟨rows, hrows, mem_rows⟩ := Search.posts_of_word
    (Search.terms_of_word solid (by decide)) reachable_sigmas.sound.documented short
  have none : rows = [] := by
    refine List.eq_nil_iff_forall_not_mem.mpr fun p hp => ?_
    obtain ⟨mem, matching⟩ := (mem_rows p).mp hp
    obtain rfl := List.mem_singleton.mp mem
    rw [matches_document_iff (reachable_sigmas.sound.valid.posts _ mem) rfl rfl (by decide)
      (by decide) (by decide) (by decide) solid] at matching
    revert matching
    decide +kernel
  exact ⟨reachable_sigmas, ⟨[], ['Α'], rfl⟩, none ▸ hrows⟩

end Service

end Weblog
