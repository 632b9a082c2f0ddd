/-
  What a failed login tells: whether there is a user of its name.

  Where nobody has the name, every login is refused and no password is looked at. Where somebody
  has it, a password that does not fit is refused with the same answer. But a password that cannot
  be hashed ends in an error there, and so does the right one if its token cannot be given. What is
  compared is the whole answer: its status, its headers and its body.
-/
import Weblog.Proofs.Service.Guesses

namespace Weblog

/-! ## Users who registered -/

/-- A user may be served, and his hash was made from a password. -/
structure UserRow.Enrolled (u : UserRow) : Prop where
  active : u.isActive = true
  hashed : ∃ password, Password.hash password = .ok u.passwordHash

/-- Two stores differ only in that a user of a name is in the first one. -/
structure Store.DifferBy (name : String) (s s' : Store) : Prop where
  known : ∃ u ∈ s.tables.users, u.username = name
  rest : s'.tables = { s.tables with users := s.tables.users.filter (·.username ≠ name) }

/-- Nobody has the name in the second one. -/
theorem Store.DifferBy.unknown {name : String} {s s' : Store} (h : s.DifferBy name s') :
    s'.tables.userNamed? name = none := by
  rw [Tables.userNamed?_eq_none, h.rest]
  intro u hu
  simpa using (List.mem_filter.mp hu).2

namespace Service

variable {settings : Settings} {now : Instant} {s s' : Store} {r : Request} {e : Endpoint}
  {d : Done} {name guess : String} {u : UserRow}

theorem Effect.enrolled (h : Effect settings now s r e d)
    (enrolled : ∀ u ∈ s.tables.users, u.Enrolled) : ∀ u ∈ d.store.tables.users, u.Enrolled := by
  cases h with
  | look same => exact same ▸ enrolled
  | register _ _ _ _ _ hashed => exact forall_mem_concat enrolled ⟨rfl, _, hashed⟩
  | login _ known =>
    have ⟨active, hashed⟩ := enrolled _ (mem_of_checkLogin known)
    exact forall_mem_put enrolled ⟨active, hashed⟩
  | updateMe called =>
    have ⟨active, hashed⟩ := enrolled _ (mem_of_caller called)
    exact forall_mem_put enrolled ⟨active, hashed⟩
  | createPost _ _ _ _ _ _ _ left =>
    subst left
    exact enrolled
  | @updatePost _ _ _ _ _ _ tags _ _ _ _ _ _ _ _ _ _ left =>
    subst left
    cases tags with
    | none => exact enrolled
    | some tags => exact enrolled
  | _ => exact enrolled

/-- In every run from empty tables, all users have registered. -/
theorem Reachable.enrolled (h : Reachable settings s) : ∀ u ∈ s.tables.users, u.Enrolled := by
  induction h with
  | fresh enforces =>
    intro u hu
    cases hu
  | @visit s v reach ih =>
    unfold Service.visit
    obtain h | ⟨e, d, -, heffect, h, -⟩ := handle_cases settings v.now s v.request
    · rw [h]
      exact ih
    · rw [h]
      exact heffect.enrolled ih

/-- In such a run, whoever has a name has an account. -/
theorem Reachable.account (reach : Reachable settings s) (hu : u ∈ s.tables.users)
    (named : u.username = name) : s.tables.Account name u.passwordHash u where
  mem := hu
  named := named
  hashed := rfl
  active := (reach.enrolled u hu).active
  only _ hv same := List.inj_on_of_nodup_map reach.unique.usernames hv hu (same.trans named.symm)

/-! ## Logins -/

/-- Where nobody has the name, a login is refused. -/
theorem refuses_unknown (unknown : s.tables.userNamed? name = none)
    (hroute : Endpoint.route r.method r.path = .found .login) (submits : Submits r name guess) :
    Refuses settings now s r 401 .wrongLogin := by
  refine ⟨rfl, fails_of_run hroute ((run_login submits).trans ?_)⟩
  simp only [Users.login, Users.checkLogin, unknown, orRefuse]
  rfl

/-- What is refused with the same refusal is answered alike. -/
theorem Fails.alike {f : Failure} (h : Fails settings now s r f) (h' : Fails settings now s' r f) :
    (handle settings now s r).2.1 = (handle settings now s' r).2.1 :=
  h.answered.trans h'.answered.symm

/-- An error is not answered like a refusal. -/
theorem Fails.not_alike {f : Refusal} {x : Escape} (h : (handle settings now s r).2.1 = .error x)
    (h' : Fails settings now s' r (.refused f)) :
    (handle settings now s r).2.1 ≠ (handle settings now s' r).2.1 := by
  rw [h, h'.answered]
  intro same
  cases same

/-- A user is in one store and not in another. A login with his name that gets no token is answered
alike in both if and only if his password is checked in the first, and is another one. -/
theorem alike_iff (account : s.tables.Account name u.passwordHash u) (enrolled : u.Enrolled)
    (unknown : s'.tables.userNamed? name = none)
    (hroute : Endpoint.route r.method r.path = .found .login) (submits : Submits r name guess)
    (failed : ¬Issues settings now s r) :
    (handle settings now s r).2.1 = (handle settings now s' r).2.1 ↔
      Password.verify guess u.passwordHash = .ok false := by
  have refused : Refuses settings now s' r 401 .wrongLogin :=
    refuses_unknown unknown hroute submits
  obtain ⟨password, hashed⟩ := enrolled.hashed
  rw [Password.verify_guess hashed]
  cases fit : Password.check guess with
  | error x =>
    have fails : Fails settings now s r (.escaped (.password x)) :=
      fails_of_unfit account hashed hroute submits fit
    constructor
    · intro same
      exact absurd same (Fails.not_alike fails.answered refused.2)
    · intro checked
      cases checked
  | ok _ =>
    by_cases same : Password.significant guess = Password.significant password
    · rw [decide_eq_true same]
      -- The password is right, so that there was no token to be given.
      cases issued : Token.issue settings.secret now (some settings.tokenLifetime)
          (Users.claims name) with
      | ok token =>
        have issues : Issues settings now s r :=
          (issues_same account hashed hroute submits fit same).mpr ⟨token, issued⟩
        exact absurd issues failed
      | error x =>
        have escaped := escapes_same account hashed hroute submits fit same issued
        constructor
        · intro alike
          exact absurd alike (Fails.not_alike escaped refused.2)
        · intro checked
          cases checked
    · rw [decide_eq_false same]
      have refused' : Refuses settings now s r 401 .wrongLogin :=
        refuses_other account hashed hroute submits fit same
      constructor
      · intro _
        rfl
      · intro _
        exact refused'.2.alike refused.2

/-- In two runs that differ only in one user, a login with his name is refused where he is not. If it
gets no token where he is, it is answered alike if and only if the check of the password ended, and
the password was another one. So it is if the password can be hashed and a token could be given. A
password that cannot be hashed is an error where he is. -/
theorem failed_login_conceals (reach : Reachable settings s) (differ : s.DifferBy name s')
    (hroute : Endpoint.route r.method r.path = .found .login)
    (submits : Submits r name guess) :
    Refuses settings now s' r 401 .wrongLogin ∧
      (¬Issues settings now s r →
        ((handle settings now s r).2.1 = (handle settings now s' r).2.1 ↔
          ∃ u ∈ s.tables.users, u.username = name ∧
            Password.verify guess u.passwordHash = .ok false)) ∧
      (¬Issues settings now s r → Password.check guess = .ok () →
        (∃ token, Token.issue settings.secret now (some settings.tokenLifetime)
          (Users.claims name) = .ok token) →
        (handle settings now s r).2.1 = (handle settings now s' r).2.1) ∧
      ∀ x, Password.check guess = .error x → Fails settings now s r (.escaped (.password x)) := by
  obtain ⟨u, hu, named⟩ := differ.known
  have account := reach.account hu named
  have enrolled := reach.enrolled u hu
  obtain ⟨password, hashed⟩ := enrolled.hashed
  refine ⟨refuses_unknown differ.unknown hroute submits, fun failed => ?_, fun failed fit issued => ?_,
    fun x unfit => fails_of_unfit account hashed hroute submits unfit⟩
  · rw [alike_iff account enrolled differ.unknown hroute submits failed]
    constructor
    · intro checked
      exact ⟨u, hu, named, checked⟩
    · rintro ⟨v, hv, hname, checked⟩
      exact account.only v hv hname ▸ checked
  · rw [alike_iff account enrolled differ.unknown hroute submits failed,
      Password.verify_guess hashed, fit]
    have other : Password.significant guess ≠ Password.significant password := by
      intro same
      exact failed ((issues_same account hashed hroute submits fit same).mpr issued)
    rw [decide_eq_false other]
    rfl

/-- The two stores before and after the registration of the first user. -/
theorem differBy_ann : (signedUp false ⟨0⟩).DifferBy "ann" (.fresh false) :=
  ⟨⟨ann ⟨0⟩, List.mem_singleton_self _, rfl⟩, by decide⟩

/-- A wrong password does not tell that the first user has registered. -/
theorem passport_conceals_ann :
    Refuses .default ⟨1⟩ (.fresh false) (signIn "passport") 401 .wrongLogin ∧
      (handle .default ⟨1⟩ (signedUp false ⟨0⟩) (signIn "passport")).2.1 =
        (handle .default ⟨1⟩ (.fresh false) (signIn "passport")).2.1 := by
  have reach := reachable_signedUp .default false ⟨0⟩
  have calendar : (Instant.later ⟨1⟩ week).isRepresentable = true := by decide
  obtain ⟨refused, -, conceals, -⟩ :=
    failed_login_conceals reach differBy_ann (route_signIn "passport") submits_signIn
  have failed : ¬Issues .default ⟨1⟩ (signedUp false ⟨0⟩) (signIn "passport") := by
    have account := reach.account (List.mem_singleton_self _) rfl
    have hashed : Password.hash "password" = .ok (ann ⟨0⟩).passwordHash := by decide
    have fit : Password.check "passport" = .ok () := by decide +kernel
    have other : Password.significant "passport" ≠ Password.significant "password" := by decide
    have refused' : Refuses .default ⟨1⟩ (signedUp false ⟨0⟩) (signIn "passport") 401 .wrongLogin :=
      refuses_other account hashed (route_signIn "passport") submits_signIn fit other
    exact refused'.2.not_issues
  exact ⟨refused, conceals failed (by decide +kernel) (issue_week _ _ calendar)⟩

/-- A password that cannot be hashed, since it has the character U+0000. -/
def nulPassword : String := "pass\x00word"

/-- A login with it gets no token before and after the registration of the first user, but it is
refused before and ends in an error after. -/
theorem nul_password_tells :
    Reachable .default (signedUp false ⟨0⟩) ∧ Reachable .default (.fresh false) ∧
      (signedUp false ⟨0⟩).DifferBy "ann" (.fresh false) ∧
      Endpoint.route (signIn nulPassword).method (signIn nulPassword).path = .found .login ∧
      Submits (signIn nulPassword) "ann" nulPassword ∧
      ¬Issues .default ⟨1⟩ (signedUp false ⟨0⟩) (signIn nulPassword) ∧
      ¬Issues .default ⟨1⟩ (.fresh false) (signIn nulPassword) ∧
      statusOf (handle .default ⟨1⟩ (signedUp false ⟨0⟩) (signIn nulPassword)).2.1 = 500 ∧
      statusOf (handle .default ⟨1⟩ (.fresh false) (signIn nulPassword)).2.1 = 401 := by
  have reach := reachable_signedUp .default false ⟨0⟩
  have account := reach.account (List.mem_singleton_self _) rfl
  have hashed : Password.hash "password" = .ok (ann ⟨0⟩).passwordHash := by decide
  have unfit : Password.check nulPassword = .error .nulCharacter := by decide +kernel
  have hroute := route_signIn nulPassword
  have fails : Fails .default ⟨1⟩ (signedUp false ⟨0⟩) (signIn nulPassword)
      (.escaped (.password .nulCharacter)) :=
    fails_of_unfit account hashed hroute submits_signIn unfit
  have refused : Refuses .default ⟨1⟩ (.fresh false) (signIn nulPassword) 401 .wrongLogin :=
    refuses_unknown rfl hroute submits_signIn
  refine ⟨reach, .fresh false, differBy_ann, hroute, submits_signIn, fails.not_issues,
    refused.2.not_issues, ?_, ?_⟩
  · rw [fails.answered]
    rfl
  · rw [refused.2.answered]
    rfl

end Service

end Weblog
