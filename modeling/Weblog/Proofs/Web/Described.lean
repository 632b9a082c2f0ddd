/-
  What the log says of a failed request: a text of JSON from which the request is read back, and
  which holds nothing of the request that could be taken for a line of the log.

  The parameters of a request are put into an object one after another, and that object is the
  last value of each name, in the order of first mention (`Query.toJson_eq_summary`). All other
  parts are texts. So the whole is a value that is read back, and its layout is that of its
  arrays and objects: what the request says is written in printable ASCII, on lines that begin with
  two spaces.
-/
import Weblog.Proofs.Bytes.Utf8
import Weblog.Proofs.Json.Layout
import Weblog.Proofs.Json.Written
import Weblog.Proofs.Web.Headers

namespace Weblog

/-! ## Objects of texts -/

namespace Json

/-- The fields of an object of texts. -/
def textFields (ps : List (String × String)) : List (String × Json) :=
  ps.map fun p => (p.1, .str p.2)

theorem names_textFields (ps : List (String × String)) :
    (textFields ps).map (·.1) = ps.map (·.1) := List.map_map

theorem fieldsExact_textFields (ps : List (String × String)) : FieldsExact (textFields ps) := by
  induction ps with
  | nil => trivial
  | cons p ps ih => exact ⟨trivial, ih⟩

/-- An object of texts is read back if its names are distinct. -/
theorem exact_textFields {ps : List (String × String)} (distinct : (ps.map (·.1)).Nodup) :
    (obj (textFields ps)).Exact := by
  have names : ((textFields ps).map (·.1)).Nodup := by
    rw [names_textFields]
    exact distinct
  exact ⟨names, fieldsExact_textFields ps⟩

/-- Each text takes one break. -/
theorem fieldsBreaks_textFields (ps : List (String × String)) :
    fieldsBreaks (textFields ps) = ps.length := by
  induction ps with
  | nil => rfl
  | cons p ps ih =>
    show 0 + fieldsBreaks (textFields ps) + 1 = ps.length + 1
    rw [ih, Nat.zero_add]

end Json

/-! ## Parameters -/

namespace Query

variable {q : Query}

/-- The last value of each name, the names in the order of first mention: what is true of headers
that are sent once per name is true of parameters that are written down once per name. -/
def summary (q : Query) : List (String × String) := Headers.lastOfEach q

theorem toJson_concat (q : Query) (p : String × String) {fields : List (String × Json)}
    (h : toJson q = .obj fields) :
    toJson (q ++ [p]) = .obj (Json.put fields p.1 (.str p.2)) := by
  rw [toJson, List.foldl_append, Json.obj.inj h]
  rfl

/-- A repeated name keeps its place and takes the new value. -/
theorem summary_repeated {p : String × String} (known : p.1 ∈ q.map (·.1)) :
    summary (q ++ [p]) = (summary q).map fun d => if d.1 = p.1 then p else d :=
  Headers.lastOfEach_repeated known

/-- A new name comes last. -/
theorem summary_new {p : String × String} (unknown : p.1 ∉ q.map (·.1)) :
    summary (q ++ [p]) = summary q ++ [p] := Headers.lastOfEach_new unknown

theorem mem_names_summary {name : String} :
    name ∈ (summary q).map (·.1) ↔ name ∈ q.map (·.1) := Headers.mem_names_lastOfEach

theorem nodup_names_summary (q : Query) : ((summary q).map (·.1)).Nodup := by
  induction q using List.reverseRecOn with
  | nil => exact List.nodup_nil
  | append_singleton q p ih =>
    by_cases known : p.1 ∈ q.map (·.1)
    · have same : (summary (q ++ [p])).map (·.1) = (summary q).map (·.1) := by
        rw [summary_repeated known, List.map_map]
        refine List.map_congr_left fun d _ => ?_
        by_cases h : d.1 = p.1
        · simp [h]
        · simp [h]
      rw [same]
      exact ih
    · rw [summary_new known]
      exact Headers.nodup_concat.mpr ⟨ih, mt mem_names_summary.mp known⟩

/-- Parameters are written down by the last value of each name. -/
theorem toJson_eq_summary (q : Query) : toJson q = .obj (Json.textFields (summary q)) := by
  induction q using List.reverseRecOn with
  | nil => rfl
  | append_singleton q p ih =>
    rw [toJson_concat q p ih]
    have distinct := (Json.exact_textFields (nodup_names_summary q)).1
    have listed : p.1 ∈ (Json.textFields (summary q)).map (·.1) ↔ p.1 ∈ q.map (·.1) := by
      rw [Json.names_textFields]
      exact mem_names_summary
    congr 1
    by_cases known : p.1 ∈ q.map (·.1)
    · rw [Json.put_eq_map distinct (listed.mpr known), summary_repeated known, Json.textFields,
        Json.textFields, List.map_map, List.map_map]
      refine List.map_congr_left fun d _ => ?_
      by_cases h : d.1 = p.1
      · simp [h]
      · simp [h]
    · rw [Json.put_append (mt listed.mp known), summary_new known, Json.textFields, Json.textFields,
        List.map_append]
      rfl

theorem summary_eq_nil_iff : summary q = [] ↔ q = [] := by
  constructor
  · intro none
    by_contra some
    obtain ⟨p, ps, rfl⟩ := List.exists_cons_of_ne_nil some
    have listed : p.1 ∈ (summary (p :: ps)).map (·.1) :=
      mem_names_summary.mpr List.mem_cons_self
    rw [none] at listed
    cases listed
  · intro none
    rw [none]
    rfl

end Query

/-! ## Requests -/

namespace RequestLog

open Json (IsPrintable)

/-- The text of a body, if there is one. -/
def bodyText (body : Bytes) : Json := if body.isEmpty then .null else .str (Bytes.toTextLossy body)

/-- A body that is a text is written down as that text. -/
theorem bodyText_ofText {s : String} (some : s ≠ "") : bodyText (Bytes.ofText s) = .str s := by
  have full : ¬(Bytes.ofText s).isEmpty = true := by
    intro empty
    have same : Bytes.ofText s = Bytes.ofText "" := List.isEmpty_iff.mp empty
    exact some (Bytes.ofText_injective same)
  rw [bodyText, if_neg full, Bytes.toTextLossy_ofText]

/-- What a text tells of a request:

1. it is one JSON value, which is read back as the address, the method, the body, no parameters of
   the path, and the parameters of the query with the last value of each name at the place of its
   first mention;
2. it consists of printable ASCII and line breaks;
3. behind every break stand two spaces, but for the last, behind which is the brace that ends the
   text;
4. there are as many breaks as the layout takes for that many names of parameters. -/
structure Describes (r : Request) (text : List Char) : Prop where
  read : Json.read text = .ok (.obj [("url", .str r.url), ("method", .str r.method),
    ("body", bodyText r.body), ("path_params", .obj []),
    ("query_params", .obj (Json.textFields (Query.summary r.parameters)))])
  printed : ∀ c ∈ text, c = '\n' ∨ IsPrintable c
  indented : ∀ before after, text = before ++ '\n' :: after → after = ['}'] ∨ [' ', ' '] <+: after
  counted : text.count '\n' = if r.parameters = [] then 6 else (Query.summary r.parameters).length + 7

theorem description_eq (r : Request) : description r =
    .obj [("url", .str r.url), ("method", .str r.method), ("body", bodyText r.body),
      ("path_params", .obj []),
      ("query_params", .obj (Json.textFields (Query.summary r.parameters)))] := by
  rw [description, Query.toJson_eq_summary]
  rfl

theorem exact_description (r : Request) : (description r).Exact := by
  have names : ["url", "method", "body", "path_params", "query_params"].Nodup := by decide
  have body : (bodyText r.body).Exact := by
    unfold bodyText
    split
    · trivial
    · trivial
  have parameters := Json.exact_textFields (Query.nodup_names_summary r.parameters)
  rw [description_eq]
  exact ⟨names, trivial, trivial, body, ⟨List.nodup_nil, trivial⟩, parameters, trivial⟩

/-- The breaks of the layout: around the five parts, and around the parameters if there are any. -/
theorem breaks_description (r : Request) : (description r).breaks =
    if r.parameters = [] then 6 else (Query.summary r.parameters).length + 7 := by
  have body : (bodyText r.body).breaks = 0 := by
    unfold bodyText
    split
    · rfl
    · rfl
  have parts : (description r).breaks =
      (Json.obj (Json.textFields (Query.summary r.parameters))).breaks + 6 := by
    generalize hquery : Json.obj (Json.textFields (Query.summary r.parameters)) = query
    rw [description_eq, hquery]
    show 0 + (0 + ((bodyText r.body).breaks + (0 + (query.breaks + 0 + 1) + 1) + 1) + 1) + 1 + 1 =
      query.breaks + 6
    rw [body]
    omega
  rw [parts]
  by_cases none : r.parameters = []
  · rw [if_pos none, none]
    rfl
  · obtain ⟨p, ps, some⟩ := List.exists_cons_of_ne_nil (mt Query.summary_eq_nil_iff.mp none)
    rw [if_neg none, ← Json.fieldsBreaks_textFields, some]
    rfl

theorem describes_descriptionText (r : Request) : Describes r (descriptionText r).toList := by
  have text : (descriptionText r).toList = Json.writeAt Json.indentedAscii 0 (description r) :=
    String.toList_ofList
  have laid := Json.laid_writeAt (description r) (exact_description r) 0
  rw [text]
  refine ⟨?_, laid.printed, fun before after cut => ?_, laid.counted.trans (breaks_description r)⟩
  · rw [Json.read_writeAt Json.readable_indentedAscii (exact_description r), description_eq]
  · have exact := exact_description r
    rw [description_eq] at exact cut
    exact Json.indented_writeAt exact cut

/-- Every failed request, an error that escapes as much as an answer with an error status, makes one
log record. Behind its heading stands the text that describes the request. -/
theorem failed_described {ε : Type} (words : ε → String) (request : Request) :
    Describes request (descriptionText request).toList ∧
    (∀ e : ε, (observe words request (.error e)).2 = [⟨.error, .requests,
      "Request failed with exception\nRequest: " ++ descriptionText request ++ "\nError: " ++
        words e ++ "\n"⟩]) ∧
    ∀ r : Reply, 400 ≤ r.status → (observe words request (.ok r)).2 = [⟨.error, .requests,
      "Request failed with status " ++ decimal r.status ++ "\nRequest: " ++
        descriptionText request ++ "\nResponse: " ++ Bytes.toTextLossy r.body ++ "\n"⟩] := by
  refine ⟨describes_descriptionText request, fun e => ?_, fun r failed => ?_⟩
  · rw [observe, escapeRecord]
  · rw [observe_failed words request failed, failureRecord]

/-- A repeated name, a body with a break in it and a byte that is no UTF-8. -/
example : descriptionText ⟨"http://testserver", "GET", "/x", "a=1&b=&a=2", none, none, [0x0A, 0xFF]⟩ =
    "\x7b\n  \"url\": \"http://testserver/x?a=1&b=&a=2\",\n  \"method\": \"GET\",\n" ++
    "  \"body\": \"\\n\\ufffd\",\n  \"path_params\": \x7b\x7d,\n  \"query_params\": \x7b\n" ++
    "    \"a\": \"2\",\n    \"b\": \"\"\n  \x7d\n\x7d" := by decide +kernel

end RequestLog

end Weblog
