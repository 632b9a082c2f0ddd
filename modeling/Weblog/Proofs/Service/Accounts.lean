/-
  Accounts: a user who has registered keeps his name and his password, and nobody else gets his
  name, whatever requests come after.

  No request changes a name or a password, no request takes out a user, and a name that is there
  is not given again (`Effect.account`). A registration that is answered with success puts in an
  account with what it submits (`account_of_created`).
-/
import Weblog.Proofs.Service.Atomic

namespace Weblog

/-! ## Accounts -/

/-- A user has a name and a password hash, may be served, and is the only one of his name. -/
structure Tables.Account (t : Tables) (name : String) (hash : PasswordHash) (u : UserRow) :
    Prop where
  mem : u ∈ t.users
  named : u.username = name
  hashed : u.passwordHash = hash
  active : u.isActive = true
  only : ∀ v ∈ t.users, v.username = name → v = u

namespace Tables.Account

variable {t t' : Tables} {name : String} {hash : PasswordHash} {u : UserRow}

theorem of_users (h : t.Account name hash u) (same : t'.users = t.users) :
    t'.Account name hash u :=
  ⟨same ▸ h.mem, h.named, h.hashed, h.active, same ▸ h.only⟩

/-- The user of an account is found by his name. -/
theorem userNamed? (h : t.Account name hash u) : t.userNamed? name = some u :=
  find?_of_only h.mem (decide_eq_true h.named) fun v hv named =>
    h.only v hv (of_decide_eq_true named)

/-- A user of another name comes in. -/
theorem addUser (h : t.Account name hash u) {v : UserRow} (other : v.username ≠ name) :
    (t.addUser v).Account name hash u := by
  refine ⟨List.mem_append_left _ h.mem, h.named, h.hashed, h.active, fun w hw named => ?_⟩
  rcases List.mem_append.mp hw with hw | hw
  · exact h.only w hw named
  · rw [List.mem_singleton.mp hw] at named
    exact absurd named other

/-- A new user comes in whose name was not there. -/
theorem of_addUser {v : UserRow} (free : t.userNamed? v.username = none)
    (active : v.isActive = true) : (t.addUser v).Account v.username v.passwordHash v := by
  refine ⟨List.mem_concat_self, rfl, rfl, active, fun w hw named => ?_⟩
  rcases List.mem_append.mp hw with hw | hw
  · have other := List.find?_eq_none.mp free w hw
    rw [named, decide_eq_true rfl] at other
    exact absurd rfl other
  · exact List.mem_singleton.mp hw

/-- A row of a user is replaced by one of the same name and password. -/
theorem setUser (h : t.Account name hash u) (distinct : (t.users.map (·.id)).Nodup) {v w : UserRow}
    (hv : v ∈ t.users) (id : w.id = v.id) (named : w.username = v.username)
    (hashed : w.passwordHash = v.passwordHash) (active : w.isActive = v.isActive) :
    ∃ u', (t.setUser v.id w).Account name hash u' ∧ u'.id = u.id := by
  have mem : ∀ x, x ∈ (t.setUser v.id w).users ↔ ∃ y ∈ t.users, (if y.id = v.id then w else y) = x :=
    fun x => List.mem_map
  by_cases same : u.id = v.id
  · -- It is the row of the account itself.
    obtain rfl : u = v := List.inj_on_of_nodup_map distinct h.mem hv same
    refine ⟨w, ⟨(mem w).mpr ⟨u, hv, if_pos rfl⟩, named.trans h.named, hashed.trans h.hashed,
      active.trans h.active, fun x hx hname => ?_⟩, id⟩
    obtain ⟨y, hy, rfl⟩ := (mem x).mp hx
    split at hname
    · rename_i hid
      rw [if_pos hid]
    · rename_i hid
      exact absurd (congrArg UserRow.id (h.only y hy hname)) hid
  · refine ⟨u, ⟨(mem u).mpr ⟨u, h.mem, if_neg same⟩, h.named, h.hashed, h.active,
      fun x hx hname => ?_⟩, rfl⟩
    obtain ⟨y, hy, rfl⟩ := (mem x).mp hx
    split at hname
    · -- A row of the account's name is the account, which was not replaced.
      have hvu : v = u := h.only v hv (named.symm.trans hname)
      exact absurd (congrArg UserRow.id hvu).symm same
    · rename_i hid
      rw [if_neg hid]
      exact h.only y hy hname

end Tables.Account

namespace Service

variable {settings : Settings} {now : Instant} {s : Store} {r : Request} {e : Endpoint} {d : Done}
  {name password : String} {hash : PasswordHash} {u : UserRow}

/-! ## Runs -/

/-- No request changes an account. -/
theorem Effect.account (h : Effect settings now s r e d) (hs : Sound s)
    (ha : s.tables.Account name hash u) :
    ∃ u', d.store.tables.Account name hash u' ∧ u'.id = u.id := by
  have distinct : (s.tables.users.map (·.id)).Nodup := hs.users.distinct
  cases h with
  | look same => exact ⟨u, same ▸ ha, rfl⟩
  | @register fs f hash' _ _ nameFree =>
    have other : (f.row s now hash').username ≠ name := by
      intro taken
      rw [show f.username = name from taken, ha.userNamed?] at nameFree
      cases nameFree
    exact ⟨u, ha.addUser other, rfl⟩
  | login _ known => exact ha.setUser distinct (mem_of_checkLogin known) rfl rfl rfl rfl
  | updateMe called => exact ha.setUser distinct (mem_of_caller called) rfl rfl rfl rfl
  | createPost _ _ _ _ _ _ _ left => exact ⟨u, left ▸ ha.of_users rfl, rfl⟩
  | @updatePost _ _ _ _ _ _ tags _ _ _ _ _ _ _ _ _ _ left =>
    subst left
    cases tags with
    | none => exact ⟨u, ha.of_users rfl, rfl⟩
    | some tags => exact ⟨u, ha.of_users rfl, rfl⟩
  | _ => exact ⟨u, ha.of_users rfl, rfl⟩

theorem account_visit (hs : Sound s) (ha : s.tables.Account name hash u) (v : Visit) :
    ∃ u', (visit settings s v).tables.Account name hash u' ∧ u'.id = u.id := by
  unfold visit
  obtain h | ⟨e, d, -, heffect, h, -⟩ := handle_cases settings v.now s v.request
  · rw [h]
    exact ⟨u, ha, rfl⟩
  · rw [h]
    exact heffect.account hs ha

/-- An account outlasts every run. -/
theorem account_serve (hs : Sound s) (ha : s.tables.Account name hash u) (vs : List Visit) :
    ∃ u', (serve settings s vs).tables.Account name hash u' ∧ u'.id = u.id := by
  have kept : Sound (serve settings s vs) ∧
      ∃ u', (serve settings s vs).tables.Account name hash u' ∧ u'.id = u.id := by
    refine serve_induction (P := fun s' => Sound s' ∧
      ∃ u', s'.tables.Account name hash u' ∧ u'.id = u.id) ?_ ⟨hs, u, ha, rfl⟩ vs
    rintro s' v ⟨hs', u', ha', hid⟩
    obtain ⟨u'', ha'', hid'⟩ := account_visit hs' ha' v
    exact ⟨hs'.visit v, u'', ha'', hid'.trans hid⟩
  exact kept.2

/-! ## Registrations -/

/-- A request submits an object with a name and a password. -/
def Submits (r : Request) (name password : String) : Prop :=
  ∃ fields, Submission.read r = .ok (.value (.obj fields)) ∧
    fields.lookup "username" = some (.str name) ∧ fields.lookup "password" = some (.str password)

/-- A failure is answered with an error status. -/
theorem statusOf_failure (f : Failure) : 400 ≤ statusOf f.reply := by
  cases f with
  | refused r =>
    have listed : 400 ≤ r.status := by
      cases r with
      | wrongMethod allowed =>
        show 400 ≤ 405
        decide
      | _ => decide
    exact listed
  | faults fs =>
    rw [Failure.reply]
    split
    · show 400 ≤ 422
      decide
    · show 400 ≤ 500
      decide
  | invalid kind id cs =>
    show 400 ≤ 422
    decide
  | escaped e =>
    show 400 ≤ 500
    decide

/-- A request that is answered with a status of success has an endpoint that succeeds. -/
theorem run_of_success (hroute : Endpoint.route r.method r.path = .found e)
    (h : statusOf (handle settings now s r).2.1 < 400) :
    ∃ d, run settings now s r e = .ok d := by
  cases hrun : run settings now s r e with
  | ok d => exact ⟨d, rfl⟩
  | error f =>
    simp only [handle, respond, hroute, hrun, statusOf_observe] at h
    exact absurd (statusOf_failure f) (Nat.not_le.mpr h)

theorem register_ok {f : Users.Registration} (h : Users.register s now f = .ok d) :
    ∃ hash, Password.hash f.password = .ok hash ∧ s.tables.userNamed? f.username = none ∧
      d.store.tables = s.tables.addUser (f.row s now hash) := by
  simp only [Users.register, guard_eq_ok, bind_eq_ok, mapError_eq_ok, commit_eq_ok, not_isSome,
    Store.addUser_eq_ok] at h
  obtain ⟨named, -, hash, hashed, s', ⟨-, -, -, rfl⟩, hd⟩ := h
  rw [← Except.ok.inj hd]
  exact ⟨hash, hashed, named, rfl⟩

theorem checkFields_of_check {form : Form} {fields fs : Fields}
    (h : Submission.check form (.value (.obj fields)) = .ok fs) :
    form.checkFields fields = .ok fs := by
  unfold Submission.check at h
  simp only [Form.checkValue] at h
  split at h
  · rename_i fs' hfs
    rw [hfs, Except.ok.inj h]
  · cases h

/-- A registration that is answered with success makes an account. -/
theorem account_of_created (hroute : Endpoint.route r.method r.path = .found .register)
    (submits : Submits r name password)
    (created : statusOf (handle settings now s r).2.1 = 201) :
    ∃ hash u, Password.hash password = .ok hash ∧
      (handle settings now s r).1.tables.Account name hash u := by
  obtain ⟨d, hrun⟩ := run_of_success hroute (by rw [created]; decide)
  obtain ⟨fs, form, hregister⟩ := withForm_ok hrun
  obtain ⟨hash, hashed, named, tables⟩ := register_ok hregister
  obtain ⟨fields, hread, givenName, givenPassword⟩ := submits
  have checked : Form.userCreate.checkFields fields = .ok fs := by
    rw [submitted, hread] at form
    exact checkFields_of_check form
  have hname : fs.text "username" = name :=
    Fields.text_of_given (b := Form.usernameBounds) checked (by decide) (by decide) givenName
  have hpassword : fs.text "password" = password :=
    Fields.text_of_given (b := Form.passwordBounds) checked (by decide) (by decide) givenPassword
  refine ⟨hash, (Users.Registration.ofFields fs).row s now hash, hpassword ▸ hashed, ?_⟩
  rw [(handle_of_run hroute hrun).1, tables]
  exact hname ▸ Tables.Account.of_addUser named rfl

/-- The account of a registration is there after any run. -/
theorem account_of_registered (enforces : Bool) (before after : List Visit) (registration : Visit)
    (registers : Endpoint.route registration.request.method registration.request.path =
      .found .register)
    (submits : Submits registration.request name password)
    (created : statusOf (handle settings registration.now
      (serve settings (.fresh enforces) before) registration.request).2.1 = 201) :
    ∃ hash u, Password.hash password = .ok hash ∧ (serve settings (.fresh enforces)
      (before ++ registration :: after)).tables.Account name hash u := by
  obtain ⟨hash, u₀, hashed, account₀⟩ := account_of_created registers submits created
  have sound := (reachable_serve settings enforces before).sound
  obtain ⟨u, account, -⟩ := account_serve (sound.visit registration) account₀ after
  rw [serve_append, serve_cons]
  exact ⟨hash, u, hashed, account⟩

end Service

end Weblog
