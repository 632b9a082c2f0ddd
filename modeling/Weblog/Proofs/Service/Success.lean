/-
  What it takes for a request to succeed: the facts behind each check of an endpoint and behind
  each guarded change of the store.
-/
import Mathlib.Tactic.ByContra
import Weblog.Proofs.Chain
import Weblog.Service.Handle

namespace Weblog

variable {α : Type} {s s' : Store}

/-! ## Refusals -/

/-- A guard against something that is found. -/
theorem not_isSome {o : Option α} : ¬o.isSome = true ↔ o = none := by
  simp

@[simp] theorem refuse_ne_ok {r : Refusal} {a : α} : ¬refuse r = .ok a := by
  simp [refuse]

/-- A guard lets through what it does not refuse. -/
@[simp] theorem guard_eq_ok {c : Prop} [Decidable c] {r : Refusal} {f : PUnit → Except Failure α}
    {a : α} : (if c then refuse r >>= f else f ⟨⟩) = .ok a ↔ ¬c ∧ f ⟨⟩ = .ok a := by
  by_cases h : c
  · simp [h]
  · simp [h]

@[simp] theorem orRefuse_eq_ok {r : Refusal} {o : Option α} {a : α} :
    orRefuse r o = .ok a ↔ o = some a := by
  cases o with
  | none => simp [orRefuse]
  | some b => simp [orRefuse]

@[simp] theorem commit_eq_ok {r : Except Constraint Store} {s : Store} :
    commit r = .ok s ↔ r = .ok s := mapError_eq_ok

/-- A record passes the check of presence when none of its required attributes is blank. -/
theorem checkPresence_eq_ok {kind : Kind} {id : Option String} {blank : Column → Bool} {u : Unit} :
    checkPresence kind id blank = .ok u ↔ Presence.complaints kind.required blank = [] := by
  unfold checkPresence
  split
  · simp_all
  · simp_all

/-! ## Guarded changes of the store -/

namespace Store

theorem addUser_eq_ok {u : UserRow} :
    s.addUser u = .ok s' ↔ s.tables.userMailed? u.email = none ∧
      s.tables.userNamed? u.username = none ∧ s.tables.user? u.id = none ∧
      s.change (·.addUser u) = s' := by
  simp only [addUser, error_if_eq_ok, not_isSome, Except.ok.injEq]

theorem addPost_eq_ok {p : PostRow} :
    s.addPost p = .ok s' ↔ s.tables.post? p.id = none ∧ s.knowsUser p.userId ∧
      s.change (·.addPost p) = s' := by
  simp only [addPost, error_if_eq_ok, else_error_eq_ok, not_isSome, Except.ok.injEq]

theorem addComment_eq_ok {c : CommentRow} :
    s.addComment c = .ok s' ↔ s.tables.comment? c.id = none ∧ s.knowsUser c.userId ∧
      s.change (·.addComment c) = s' := by
  simp only [addComment, error_if_eq_ok, else_error_eq_ok, not_isSome, Except.ok.injEq]

theorem addTag_eq_ok {g : TagRow} :
    s.addTag g = .ok s' ↔ s.tables.tagNamed? g.name = none ∧ s.tables.tag? g.id = none ∧
      s.knowsUser g.userId ∧ s.change (·.addTag g) = s' := by
  simp only [addTag, error_if_eq_ok, else_error_eq_ok, not_isSome, Except.ok.injEq]

theorem setTag_eq_ok {g : TagRow} :
    s.setTag g = .ok s' ↔ (∀ h ∈ s.tables.tags, h.name = g.name → h.id = g.id) ∧
      s.change (·.setTag g.id g) = s' := by
  simp only [setTag, error_if_eq_ok, Except.ok.injEq, List.any_eq_true, not_exists, not_and,
    Bool.and_eq_true, decide_eq_true_eq]
  refine and_congr_left fun _ => ⟨fun h g' hg hname => ?_, fun h g' hg hne => ?_⟩
  · by_contra hne
    exact h g' hg hne hname
  · exact fun hname => hne (h g' hg hname)

theorem setTags_ok {id : String} {tagIds : List String} (h : s.setTags id tagIds = .ok s') :
    s.change (·.setTags id tagIds) = s' := by
  simp only [setTags, else_error_eq_ok, Except.ok.injEq] at h
  exact h.2

end Store

/-! ## Texts that must not be blank -/

theorem Posts.checkTexts_eq_ok {i title body : Option String} {u : Unit} :
    Posts.checkTexts i title body = .ok u ↔
      isBlankText title = false ∧ isBlankText body = false := by
  simp [Posts.checkTexts, checkPresence_eq_ok, Presence.complaints_eq_nil_iff, Kind.required]

theorem Comments.checkBody_eq_ok {i body : Option String} {u : Unit} :
    Comments.checkBody i body = .ok u ↔ isBlankText body = false := by
  simp [Comments.checkBody, checkPresence_eq_ok, Presence.complaints_eq_nil_iff, Kind.required]

theorem Tags.checkName_eq_ok {i : Option String} {name : String} {u : Unit} :
    Tags.checkName i name = .ok u ↔ Text.isBlank name = false := by
  simp [Tags.checkName, checkPresence_eq_ok, Presence.complaints_eq_nil_iff, Kind.required]

theorem Tags.checkFree_eq_ok {t : Tables} {name : String} {u : Unit} :
    Tags.checkFree t name = .ok u ↔ t.tagNamed? name = none := by
  simp [Tags.checkFree]

end Weblog
