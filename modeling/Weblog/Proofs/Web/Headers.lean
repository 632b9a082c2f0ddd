/-
  The headers of a failed request's answer.

  They are sent once per name, so that of several headers of one name only the last is left
  (`merged_eq_lastOfEach`), and the length of the body is given anew. The headers go through as they
  were, their names in lower case, if and only if no name is repeated.
-/
import Mathlib.Data.List.Induction
import Weblog.Proofs.Text.Lower
import Weblog.Proofs.Web.RequestLog

namespace Weblog

namespace Headers

variable {hs : Headers} {name : String}

/-- The last value of each name, the names in the order of their first headers. -/
def lastOfEach (hs : Headers) : Headers :=
  (hs.map (·.1)).eraseDups.filterMap fun name => (hs.reverse.lookup name).map (name, ·)

/-- The name of the header that gives the length of a body. -/
def lengthName : String := "content-length"

/-- The headers apart from those that give the length of a body. -/
def withoutLength (hs : Headers) : Headers := hs.filter fun h => key h.1 ≠ lengthName

/-- The headers with their names in lower case. -/
def lowered (hs : Headers) : Headers := hs.map fun h => (key h.1, h.2)

/-- A name in lower case stays as it is. -/
theorem key_key (name : String) : key (key name) = key name := by
  have folded : ∀ c : Char, c.toLower.toLower = c.toLower := by
    intro c
    rcases Nat.lt_or_ge c.toNat 0x80 with ascii | beyond
    · exact Text.of_ascii (P := fun c => c.toLower.toLower = c.toLower) ascii (by decide)
    · have same : c.toLower = c := Text.isFolded_of_lt (by omega)
      rw [same, same]
  simp only [key, String.map_map, Function.comp_def, folded]

/-! ## One header per name -/

/-- A header takes the place of one of its name, or comes last. -/
def put (done : Headers) (h : String × String) : Headers :=
  if done.any (·.1 = h.1) then done.map fun d => if d.1 = h.1 then h else d else done ++ [h]

theorem merged_concat (hs : Headers) (h : String × String) :
    merged (hs ++ [h]) = put (merged hs) h := by
  rw [merged, List.foldl_append]
  rfl

theorem lookup_reverse_concat (hs : Headers) (h : String × String) (name : String) :
    (hs ++ [h]).reverse.lookup name = if name = h.1 then some h.2 else hs.reverse.lookup name := by
  rw [List.reverse_append, List.reverse_singleton, List.singleton_append, List.lookup_cons]
  by_cases same : name = h.1
  · rw [if_pos same, same, beq_self_eq_true]
  · rw [if_neg same, beq_false_of_ne same]

theorem exists_lookup (h : name ∈ hs.map (·.1)) : ∃ value, hs.reverse.lookup name = some value := by
  refine Option.ne_none_iff_exists'.mp fun none => ?_
  obtain ⟨header, mem, rfl⟩ := List.mem_map.mp h
  simpa using List.lookup_eq_none_iff.mp none header (List.mem_reverse.mpr mem)

/-- A name that is repeated keeps its place and takes the new value. -/
theorem lastOfEach_repeated {h : String × String} (known : h.1 ∈ hs.map (·.1)) :
    lastOfEach (hs ++ [h]) = (lastOfEach hs).map fun d => if d.1 = h.1 then h else d := by
  have names : ((hs ++ [h]).map (·.1)).eraseDups = (hs.map (·.1)).eraseDups := by
    simp [List.eraseDups_append, List.removeAll, known]
  rw [lastOfEach, names, lastOfEach, List.map_filterMap]
  refine List.filterMap_congr fun name mem => ?_
  obtain ⟨value, found⟩ := exists_lookup (List.mem_eraseDups.mp mem)
  rw [lookup_reverse_concat, found]
  by_cases same : name = h.1
  · simp [same]
  · simp [same]

/-- A new name comes last. -/
theorem lastOfEach_new {h : String × String} (unknown : h.1 ∉ hs.map (·.1)) :
    lastOfEach (hs ++ [h]) = lastOfEach hs ++ [h] := by
  have names : ((hs ++ [h]).map (·.1)).eraseDups = (hs.map (·.1)).eraseDups ++ [h.1] := by
    have added : [h.1].removeAll (hs.map (·.1)) = [h.1] := by simp [List.removeAll, unknown]
    rw [List.map_append, List.map_singleton, List.eraseDups_append, added]
    rfl
  have last : (hs ++ [h]).reverse.lookup h.1 = some h.2 := by
    rw [lookup_reverse_concat, if_pos rfl]
  have added : [h.1].filterMap (fun name => ((hs ++ [h]).reverse.lookup name).map (name, ·)) = [h] := by
    rw [List.filterMap_cons, last]
    rfl
  rw [lastOfEach, names, List.filterMap_append, added]
  congr 1
  refine List.filterMap_congr fun name mem => ?_
  have other : name ≠ h.1 := fun same => unknown (same ▸ List.mem_eraseDups.mp mem)
  rw [lookup_reverse_concat, if_neg other]

theorem mem_names_lastOfEach : name ∈ (lastOfEach hs).map (·.1) ↔ name ∈ hs.map (·.1) := by
  constructor
  · intro h
    obtain ⟨header, mem, rfl⟩ := List.mem_map.mp h
    obtain ⟨name, listed, made⟩ := List.mem_filterMap.mp mem
    obtain ⟨value, -, rfl⟩ := Option.map_eq_some_iff.mp made
    exact List.mem_eraseDups.mp listed
  · intro h
    obtain ⟨value, found⟩ := exists_lookup h
    refine List.mem_map.mpr ⟨(name, value), List.mem_filterMap.mpr ⟨name, ?_, ?_⟩, rfl⟩
    · exact List.mem_eraseDups.mpr h
    · rw [found, Option.map_some]

theorem merged_eq_lastOfEach (hs : Headers) : merged hs = lastOfEach hs := by
  induction hs using List.reverseRecOn with
  | nil => rfl
  | append_singleton hs h ih =>
    have known : (lastOfEach hs).any (·.1 = h.1) = true ↔ h.1 ∈ hs.map (·.1) := by
      rw [← mem_names_lastOfEach, List.any_eq_true, List.mem_map]
      simp only [decide_eq_true_eq]
    rw [merged_concat, ih, put]
    split
    · rename_i repeated
      exact (lastOfEach_repeated (known.mp repeated)).symm
    · rename_i fresh
      exact (lastOfEach_new fun mem => fresh (known.mpr mem)).symm

/-! ### Names that are not repeated -/

theorem merged_repeated {h : String × String} (known : h.1 ∈ hs.map (·.1)) :
    merged (hs ++ [h]) = (merged hs).map fun d => if d.1 = h.1 then h else d := by
  rw [merged_eq_lastOfEach, lastOfEach_repeated known, merged_eq_lastOfEach]

theorem merged_new {h : String × String} (unknown : h.1 ∉ hs.map (·.1)) :
    merged (hs ++ [h]) = merged hs ++ [h] := by
  rw [merged_eq_lastOfEach, lastOfEach_new unknown, merged_eq_lastOfEach]

theorem nodup_concat {h : String × String} :
    ((hs ++ [h]).map (·.1)).Nodup ↔ (hs.map (·.1)).Nodup ∧ h.1 ∉ hs.map (·.1) := by
  rw [List.map_append, List.map_singleton, (List.perm_append_singleton _ _).nodup_iff,
    List.nodup_cons, and_comm]

theorem length_merged_le (hs : Headers) : (merged hs).length ≤ hs.length := by
  induction hs using List.reverseRecOn with
  | nil => exact Nat.le_refl 0
  | append_singleton hs h ih =>
    rw [List.length_append, List.length_singleton]
    by_cases known : h.1 ∈ hs.map (·.1)
    · rw [merged_repeated known, List.length_map]
      omega
    · rw [merged_new known, List.length_append, List.length_singleton]
      omega

/-- Headers of different names are not merged. -/
theorem merged_eq_self (distinct : (hs.map (·.1)).Nodup) : merged hs = hs := by
  induction hs using List.reverseRecOn with
  | nil => rfl
  | append_singleton hs h ih =>
    obtain ⟨distinct, new⟩ := nodup_concat.mp distinct
    rw [merged_new new, ih distinct]

/-- If as many headers are left as there were, then no name was repeated. -/
theorem nodup_of_length_merged (same : (merged hs).length = hs.length) :
    (hs.map (·.1)).Nodup := by
  induction hs using List.reverseRecOn with
  | nil => exact List.nodup_nil
  | append_singleton hs h ih =>
    rw [List.length_append, List.length_singleton] at same
    have bound := length_merged_le hs
    by_cases known : h.1 ∈ hs.map (·.1)
    · rw [merged_repeated known, List.length_map] at same
      omega
    · rw [merged_new known, List.length_append, List.length_singleton] at same
      exact nodup_concat.mpr ⟨ih (by omega), known⟩

/-! ### The length of a body -/

theorem withoutLength_concat (hs : Headers) (h : String × String) :
    withoutLength (hs ++ [h]) =
      if key h.1 = lengthName then withoutLength hs else withoutLength hs ++ [h] := by
  rw [withoutLength, List.filter_append]
  by_cases length : key h.1 = lengthName
  · simp [length, withoutLength]
  · simp [length, withoutLength]

theorem withoutLength_lowered (hs : Headers) :
    withoutLength (lowered hs) = lowered (withoutLength hs) := by
  rw [withoutLength, lowered, List.filter_map, lowered, withoutLength]
  simp only [Function.comp_def, key_key]

theorem withoutLength_self (hs : Headers) : withoutLength (withoutLength hs) = withoutLength hs := by
  simp [withoutLength]

theorem mem_names_withoutLength :
    name ∈ (withoutLength hs).map (·.1) ↔ name ∈ hs.map (·.1) ∧ key name ≠ lengthName := by
  simp [withoutLength]

theorem withoutLength_renewed (hs : Headers) (h : String × String) :
    withoutLength (hs.map fun d => if d.1 = h.1 then h else d) =
      (withoutLength hs).map fun d => if d.1 = h.1 then h else d := by
  have named : ∀ d : String × String, (if d.1 = h.1 then h else d).1 = d.1 := by
    intro d
    split
    · rename_i same
      exact same.symm
    · rfl
  rw [withoutLength, List.filter_map, withoutLength]
  simp only [Function.comp_def, named]

/-- Headers are merged name by name, so that those of the length can be left out first. -/
theorem withoutLength_merged (hs : Headers) :
    withoutLength (merged hs) = merged (withoutLength hs) := by
  induction hs using List.reverseRecOn with
  | nil => rfl
  | append_singleton hs h ih =>
    rw [withoutLength_concat]
    by_cases length : key h.1 = lengthName
    · -- A header of the length changes none of the others.
      rw [if_pos length]
      by_cases known : h.1 ∈ hs.map (·.1)
      · rw [merged_repeated known, withoutLength_renewed, ih]
        refine (List.map_congr_left fun d hd => if_neg fun same => ?_).trans (List.map_id _)
        have other := (List.mem_filter.mp (ih ▸ hd : d ∈ withoutLength (merged hs))).2
        rw [same, length] at other
        simp at other
      · rw [merged_new known, withoutLength_concat, if_pos length, ih]
    · rw [if_neg length]
      by_cases known : h.1 ∈ hs.map (·.1)
      · have still := mem_names_withoutLength.mpr ⟨known, length⟩
        rw [merged_repeated known, withoutLength_renewed, ih, merged_repeated still]
      · have still : h.1 ∉ (withoutLength hs).map (·.1) :=
          fun mem => known (mem_names_withoutLength.mp mem).1
        rw [merged_new known, withoutLength_concat, if_neg length, ih, merged_new still]

end Headers

/-! ## Failed requests -/

namespace RequestLog

open Headers

theorem headers_whole {r : Reply} (failed : 400 ≤ r.status) :
    (whole r).headers =
      lowered (merged (withoutLength r.headers)) ++ [(lengthName, decimal r.body.length)] := by
  have long : hasLength r.status = true := by
    have notEmpty : r.status ≠ 204 := by omega
    have changed : r.status ≠ 304 := by omega
    have final : ¬r.status < 200 := by omega
    simp [hasLength, notEmpty, changed, final]
  have kept : withoutLength r.headers.merged = merged (withoutLength r.headers) :=
    withoutLength_merged r.headers
  rw [← kept, whole, long]
  rfl

/-- The answer to a failed request goes on with its status and its body, and with these headers:

1. of each name the last header, the names in lower case and in the order of their first headers,
   those of the length left out, and behind them the length of the body that is sent;
2. apart from the length those that were there, in lower case, if and only if none of their names is
   repeated. -/
theorem failed_headers {ε : Type} (words : ε → String) (request : Request) {r : Reply}
    (failed : 400 ≤ r.status) :
    ∃ sent records, observe words request (.ok r) = (.ok sent, records) ∧
      sent.status = r.status ∧ sent.body = r.body ∧
      sent.headers = lowered (lastOfEach (withoutLength r.headers)) ++
        [(lengthName, decimal sent.body.length)] ∧
      (withoutLength sent.headers = lowered (withoutLength r.headers) ↔
        ((withoutLength r.headers).map (·.1)).Nodup) := by
  refine ⟨whole r, _, observe_failed words request failed, status_whole r, body_whole r, ?_, ?_⟩
  · rw [headers_whole failed, merged_eq_lastOfEach, body_whole]
  · have length : key lengthName = lengthName := by decide +kernel
    have others : withoutLength (whole r).headers = lowered (merged (withoutLength r.headers)) := by
      rw [headers_whole failed, withoutLength_concat, if_pos length, withoutLength_lowered,
        withoutLength_merged, withoutLength_self]
    rw [others]
    constructor
    · intro same
      have lengths := congrArg List.length same
      rw [lowered, lowered, List.length_map, List.length_map] at lengths
      exact nodup_of_length_merged lengths
    · intro distinct
      rw [merged_eq_self distinct]

/-- A request for a page. -/
def pageRequest : Request := ⟨"http://testserver", "GET", "/x", "", none, none, []⟩

/-- Two headers whose names are spelt differently both go through, and a wrong length is put
right. -/
theorem headers_spelt_apart :
    let r : Reply := ⟨404, [("Content-Length", "999"), ("X-Extra", "1"), ("x-extra", "2")], [[0x61]]⟩
    400 ≤ r.status ∧ ∃ sent records, observe (ε := String) id pageRequest (.ok r) = (.ok sent, records) ∧
      sent.headers = [("x-extra", "1"), ("x-extra", "2"), ("content-length", "1")] := by
  intro r
  have failed : 400 ≤ r.status := by decide
  obtain ⟨sent, records, observed, -, body, headers, -⟩ :=
    failed_headers (ε := String) id pageRequest failed
  refine ⟨failed, sent, records, observed, ?_⟩
  rw [headers, body]
  decide +kernel

/-- Of two headers of one name the first is lost. -/
theorem first_of_two_lost :
    let r : Reply := ⟨401, [("www-authenticate", "Bearer"), ("www-authenticate", "Basic")], []⟩
    400 ≤ r.status ∧ ∃ sent records, observe (ε := String) id pageRequest (.ok r) = (.ok sent, records) ∧
      sent.headers = [("www-authenticate", "Basic"), ("content-length", "0")] ∧
      withoutLength sent.headers ≠ lowered (withoutLength r.headers) :=
  ⟨by decide, _, _, rfl, by decide +kernel, by decide +kernel⟩

end RequestLog

end Weblog
