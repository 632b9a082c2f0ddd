/-
  All or nothing: a request that is answered with an error status has changed nothing, and neither
  has a request that only asks.

  A request that fails before its endpoint is done leaves the store as it was. What remains is an
  endpoint that succeeds and whose answer cannot be made. Two kinds of answers could fail so: one
  that shows a user whose address does not fit its own form, and one that gives a token whose
  expiry is not in the calendar. `failed_unchanged` excludes both by hypotheses.
-/
import Weblog.Proofs.Auth.Issued
import Weblog.Proofs.Service.Endpoint
import Weblog.Proofs.Service.SignUp

namespace Weblog.Service

variable {settings : Settings} {now : Instant} {s : Store} {r : Request} {e : Endpoint} {d : Done}

/-! ## Requests that ask -/

/-- An endpoint that is asked for with `GET` only looks. -/
theorem Effect.store_of_get (h : Effect settings now s r e d) (get : e.method = "GET") :
    d.store = s := by
  cases h with
  | look same => exact same
  | _ => simp [Endpoint.method] at get

theorem get_unchanged (settings : Settings) (now : Instant) (s : Store) (r : Request)
    (get : r.method = "GET") : (handle settings now s r).1 = s := by
  obtain h | ⟨e, d, hroute, heffect, h, -⟩ := handle_cases settings now s r
  · exact h
  · rw [h]
    exact heffect.store_of_get ((Endpoint.method_of_route hroute).trans get)

/-! ## Answers of changes -/

/-- What can be shown is answered with the status of success. -/
theorem statusOf_reply {v : View} {o : Option Json} (status : Nat) (h : v.toJson? = .ok o) :
    statusOf (v.reply status) = status := by
  unfold View.reply
  rw [h]
  cases o with
  | none => rfl
  | some j => rfl

theorem toJson?_of_ok {v : View} {x : Except Escape Json} (hv : v.toJson? = x.map some)
    (h : ∃ j, x = .ok j) : ∃ o, v.toJson? = .ok o := by
  obtain ⟨j, rfl⟩ := h
  exact ⟨some j, hv⟩

/-- A row that took the place of another is there. -/
theorem mem_put {α : Type} {l : List α} (key : α → String) (a : α) {b : α} (hb : b ∈ l) :
    a ∈ l.map fun v => if key v = key b then a else v :=
  List.mem_map.mpr ⟨b, hb, if_pos rfl⟩

/-- An endpoint that changes something shows a valid row of the store that it leaves, or gives a
token, or shows nothing. -/
theorem Effect.shown (h : Effect settings now s r e d) (hs : Sound s)
    (clock : now.isRepresentable = true)
    (expiry : (now.later (Token.lifetimeOr (some settings.tokenLifetime))).isRepresentable = true)
    (mails : ∀ u ∈ d.store.tables.users, Email.normalForm u.email = .ok u.email) :
    d.store = s ∨ d.status < 400 ∧ ∃ o, d.view.toJson? = .ok o := by
  have valid := h.valid hs
  cases h with
  | look same => exact .inl same
  | register =>
    have shown := userJson_ok (valid.users _ List.mem_concat_self) (mails _ List.mem_concat_self)
    exact .inr ⟨by simp [Done.created], toJson?_of_ok rfl shown⟩
  | login =>
    obtain ⟨token, htoken⟩ := Token.issue_ok settings.secret _ clock expiry
    exact .inr ⟨by simp [Done.changed], some (View.tokenJson token), by rw [htoken]; rfl⟩
  | @updateMe u _ bio called =>
    have hmem := mem_put UserRow.id { u with bio := some bio } (mem_of_caller called)
    exact .inr ⟨by simp [Done.changed],
      toJson?_of_ok rfl (userJson_ok (valid.users _ hmem) (mails _ hmem))⟩
  | @createPost u _ f _ _ _ _ _ _ _ _ _ left =>
    subst left
    have hmem : f.row s now u ∈ s.tables.posts ++ [f.row s now u] := List.mem_concat_self
    exact .inr ⟨by simp [Done.created], toJson?_of_ok rfl (postJson_ok _ (valid.posts _ hmem))⟩
  | updatePost _ _ _ _ _ _ _ _ _ _ found =>
    have hmem := Tables.post?_mem found
    exact .inr ⟨by simp [Done.changed], toJson?_of_ok rfl (postJson_ok _ (valid.posts _ hmem))⟩
  | createComment =>
    have shown := commentJson_ok (valid.comments _ List.mem_concat_self)
    exact .inr ⟨by simp [Done.created], toJson?_of_ok rfl shown⟩
  | @updateComment _ fs _ _ _ c _ _ _ found =>
    have hmem := mem_put CommentRow.id (Comments.revised now c (fs.text "body"))
      (mem_of_find_comment found)
    exact .inr ⟨by simp [Done.changed],
      toJson?_of_ok rfl (commentJson_ok (valid.comments _ hmem))⟩
  | createTag =>
    have shown := tagJson_ok (valid.tags _ List.mem_concat_self)
    exact .inr ⟨by simp [Done.created], toJson?_of_ok rfl shown⟩
  | @updateTag _ _ f _ g _ _ _ found =>
    have hmem := mem_put TagRow.id (f.apply now g) (List.mem_of_find?_eq_some found)
    exact .inr ⟨by simp [Done.changed], toJson?_of_ok rfl (tagJson_ok (valid.tags _ hmem))⟩
  | deletePost => exact .inr ⟨by simp [Done.removed], none, rfl⟩
  | deleteComment => exact .inr ⟨by simp [Done.removed], none, rfl⟩
  | deleteTag => exact .inr ⟨by simp [Done.removed], none, rfl⟩

/-! ## Requests that fail -/

/-- A request to a store that visits lead to leaves it as it was if it is answered with an error
status, an escaping error included, and if it only asks. For the errors, its time and the expiry
of a token given then have to be in the calendar, and the normal forms of addresses that are in
the table of users have to be normal forms of themselves. -/
theorem failed_unchanged (reach : Reachable settings s) (now : Instant) (r : Request) :
    (now.isRepresentable = true →
      (now.later (Token.lifetimeOr (some settings.tokenLifetime))).isRepresentable = true →
      (∀ u ∈ (handle settings now s r).1.tables.users, ∀ typed,
        Email.normalForm typed = .ok u.email → Email.normalForm u.email = .ok u.email) →
      400 ≤ statusOf (handle settings now s r).2.1 → (handle settings now s r).1 = s) ∧
    (r.method = "GET" → (handle settings now s r).1 = s) := by
  refine ⟨fun clock expiry settled failed => ?_, get_unchanged settings now s r⟩
  have sound : Sound (handle settings now s r).1 := reach.sound.visit ⟨now, r⟩
  have mails : ∀ u ∈ (handle settings now s r).1.tables.users,
      Email.normalForm u.email = .ok u.email := by
    intro u hu
    obtain ⟨typed, htyped⟩ := (sound.valid.users u hu).email
    exact settled u hu typed htyped
  obtain h | ⟨e, d, -, heffect, hstore, hstatus⟩ := handle_cases settings now s r
  · exact h
  · rw [hstore] at mails ⊢
    obtain same | ⟨hlt, o, ho⟩ := heffect.shown reach.sound clock expiry mails
    · exact same
    · rw [hstatus, statusOf_reply d.status ho] at failed
      exact absurd hlt (Nat.not_lt.mpr failed)

/-- A wrong password is refused, and no login is noted. -/
theorem wrong_password_unchanged :
    statusOf (handle .default ⟨0⟩ (signedUp false ⟨0⟩) (signIn "passport")).2.1 = 401 ∧
      (handle .default ⟨0⟩ (signedUp false ⟨0⟩) (signIn "passport")).1 = signedUp false ⟨0⟩ := by
  have refused : statusOf (handle .default ⟨0⟩ (signedUp false ⟨0⟩) (signIn "passport")).2.1 = 401 :=
    by decide +kernel
  have users : (handle .default ⟨0⟩ (signedUp false ⟨0⟩) (signIn "passport")).1.tables.users =
      [ann ⟨0⟩] := by decide +kernel
  have settled : ∀ u ∈ (handle .default ⟨0⟩ (signedUp false ⟨0⟩) (signIn "passport")).1.tables.users,
      ∀ typed, Email.normalForm typed = .ok u.email → Email.normalForm u.email = .ok u.email := by
    rw [users]
    intro u hu _ _
    rw [List.mem_singleton.mp hu]
    exact normalForm_ann ⟨0⟩
  have failed : 400 ≤ statusOf (handle .default ⟨0⟩ (signedUp false ⟨0⟩) (signIn "passport")).2.1 :=
    refused ▸ by decide
  exact ⟨refused, (failed_unchanged (reachable_signedUp .default false ⟨0⟩) ⟨0⟩
    (signIn "passport")).1 (by decide) (by decide) settled failed⟩

end Weblog.Service
