/-
  Documents of records whose fields are texts: what they are made up of, and what occurs in them.

  A document is put into lower case after its texts have been joined. No form of lower case looks
  across the space between two texts (`Text.lower_intercalate`), so that the document is made up of
  the texts in lower case, and a word occurs in it only where it occurs in one of them
  (`Text.infix_intercalate_iff`).
-/
import Weblog.Proofs.Text.Phrases
import Weblog.Search.Document
import Weblog.Text.Split

namespace Weblog.Document

/-- The fields that a record has among the named ones are texts or nothing. -/
def IsTextual (record : Json) (fields : List String) : Prop :=
  ∀ f ∈ fields, ∀ v ∈ record.field? f, v = .null ∨ ∃ s, v = .str s

/-- The texts of the named fields of a record. -/
def texts (record : Json) (fields : List String) : List String :=
  fields.filterMap fun f => (record.field? f).bind Json.text?

variable {record : Json} {fields : List String} {parts : List String} {word : List Char}

theorem mem_texts {s : String} :
    s ∈ texts record fields ↔ ∃ f ∈ fields, record.field? f = some (.str s) := by
  have isText : ∀ v : Json, v.text? = some s ↔ v = .str s := by
    intro v
    cases v with
    | str r => simp [Json.text?]
    | _ => simp [Json.text?]
  simp only [texts, List.mem_filterMap, Option.bind_eq_some_iff, isText, exists_eq_right]

/-- What a field that is a text or nothing adds to the document. -/
theorem partOf_of_text {v : Option Json} (h : ∀ w ∈ v, w = .null ∨ ∃ s, w = .str s) :
    partOf v = (v.bind Json.text?).getD "" := by
  cases v with
  | none => rfl
  | some w =>
    rcases h w rfl with rfl | ⟨s, rfl⟩
    · rfl
    · by_cases empty : s = ""
      · subst empty
        rfl
      · have something : Json.isNothing (.str s) = false := by simpa [Json.isNothing] using empty
        rw [partOf, something]
        rfl

/-- Nothing is left of a missing field when the empty texts are taken out. -/
theorem parts_of_textual (h : IsTextual record fields) :
    (fields.map fun f => partOf (record.field? f)).filter (· != "") =
      (texts record fields).filter (· != "") := by
  induction fields with
  | nil => rfl
  | cons f fields ih =>
    have rest := ih fun g hg => h g (List.mem_cons_of_mem f hg)
    have first := partOf_of_text (h f List.mem_cons_self)
    unfold texts at rest ⊢
    rw [List.map_cons, List.filterMap_cons, first]
    cases (record.field? f).bind Json.text? with
    | none => rw [Option.getD_none, List.filter_cons_of_neg (by decide), rest]
    | some s => rw [Option.getD_some, List.filter_cons, List.filter_cons, rest]

/-- A document is made up of its texts in lower case. -/
theorem ofTexts_eq (parts : List String) :
    ofTexts parts = String.intercalate " " ((parts.filter (· != "")).map Text.lower) :=
  Text.lower_intercalate _

/-- A word occurs in a document if and only if it occurs in one of its texts in lower case. -/
theorem infix_ofTexts_iff (solid : ∀ c ∈ word, Text.isBlankChar c = false) (nonempty : word ≠ []) :
    word <:+: (ofTexts parts).toList ↔ ∃ s ∈ parts, word <:+: (Text.lower s).toList := by
  have space : " ".toList = [' '] := by decide
  rw [ofTexts_eq, String.toList_intercalate, space, Text.infix_intercalate_iff solid nonempty]
  constructor
  · intro h
    obtain ⟨piece, mem, inside⟩ := h
    rw [List.map_map, List.mem_map] at mem
    obtain ⟨s, hs, rfl⟩ := mem
    exact ⟨s, List.mem_of_mem_filter hs, inside⟩
  · rintro ⟨s, hs, inside⟩
    have some : s ≠ "" := by
      rintro rfl
      exact nonempty (List.infix_nil.mp inside)
    refine ⟨(Text.lower s).toList, ?_, inside⟩
    rw [List.map_map]
    exact List.mem_map_of_mem (List.mem_filter.mpr ⟨hs, bne_iff_ne.mpr some⟩)

theorem build_eq (h : IsTextual record fields) :
    build record fields = ofTexts (texts record fields) := by
  rw [build, ofTexts, parts_of_textual h, ofTexts]

/-- The document of a record whose named fields are texts or missing has these texts in lower case,
with single spaces between them, and what has no white space in it occurs in the document if and
only if it occurs in one of the texts in lower case. -/
theorem build_in_parts (h : IsTextual record fields) :
    build record fields =
        String.intercalate " " (((texts record fields).filter (· != "")).map Text.lower) ∧
      ∀ word : List Char, word ≠ [] → (∀ c ∈ word, Text.isBlankChar c = false) →
        (Text.occurs word (build record fields).toList = true ↔
          ∃ f ∈ fields, ∃ s, record.field? f = some (.str s) ∧
            Text.occurs word (Text.lower s).toList = true) := by
  rw [build_eq h]
  refine ⟨ofTexts_eq _, fun word nonempty solid => ?_⟩
  simp only [Text.occurs_iff_infix]
  rw [infix_ofTexts_iff solid nonempty]
  constructor
  · rintro ⟨s, hs, inside⟩
    obtain ⟨f, hf, held⟩ := mem_texts.mp hs
    exact ⟨f, hf, s, held, inside⟩
  · rintro ⟨f, hf, s, held, inside⟩
    exact ⟨s, mem_texts.mpr ⟨f, hf, held⟩, inside⟩

/-- A capital sigma at the end of a title is a final one with a body behind it as well, and no word
reaches from the title into the body. -/
theorem build_final_sigma :
    let record : Json := .obj [("title", .str "ΟΔΟΣ"), ("body", .str "Σήμα"), ("note", .null)]
    let fields := ["title", "note", "link", "body"]
    IsTextual record fields ∧ build record fields = "οδος σήμα" ∧
      ¬ ∃ f ∈ fields, ∃ s, record.field? f = some (.str s) ∧
        Text.occurs "ςσ".toList (Text.lower s).toList = true := by
  intro record fields
  have textual : IsTextual record fields := by
    simp [IsTextual, record, fields, Json.field?, List.lookup_cons]
  obtain ⟨whole, found⟩ := build_in_parts textual
  have lowered : String.intercalate " " (((texts record fields).filter (· != "")).map Text.lower) =
      "οδος σήμα" := by decide +kernel
  rw [lowered] at whole
  refine ⟨textual, whole, fun inside => ?_⟩
  have solid : ∀ c ∈ ['ς', 'σ'], Text.isBlankChar c = false :=
    List.forall_mem_cons.mpr ⟨by decide, List.forall_mem_singleton.mpr (by decide)⟩
  have across := (found "ςσ".toList (by decide) solid).mpr inside
  rw [whole] at across
  exact absurd across (by decide)

end Weblog.Document
