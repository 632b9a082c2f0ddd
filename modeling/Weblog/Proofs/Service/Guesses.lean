/-
  Guesses: which passwords a login takes for the one that was registered.

  A hash keeps the first 72 bytes of a password. The form of a registration counts characters, and
  the form of a login counts nothing, so that a password may be longer than what is kept of it, and
  so may a guess. A login gives a token for every guess with the same first 72 bytes. A password of
  fewer bytes is the only one that is taken for itself (`Password.eq_of_significant`).
-/
import Weblog.Proofs.Bytes.Utf8
import Weblog.Proofs.Service.Answered

namespace Weblog

/-! ## What is kept of a password -/

namespace Password

variable {password guess : String} {kept : PasswordHash}

/-- No other guess is taken for a password: it is shorter than what is kept, or neither of the two is
longer than that. -/
def IsTold (password guess : String) : Prop :=
  (Bytes.ofText password).length < significantBytes ∨
    (Bytes.ofText password).length ≤ significantBytes ∧
      (Bytes.ofText guess).length ≤ significantBytes

instance (password guess : String) : Decidable (IsTold password guess) :=
  inferInstanceAs (Decidable (_ ∨ _))

theorem significant_of_short (h : (Bytes.ofText password).length ≤ significantBytes) :
    significant password = Bytes.ofText password := List.take_of_length_le h

theorem eq_of_significant (told : IsTold password guess)
    (same : significant guess = significant password) : guess = password := by
  have short : (Bytes.ofText password).length ≤ significantBytes := by
    rcases told with h | h
    · exact Nat.le_of_lt h
    · exact h.1
  have shortGuess : (Bytes.ofText guess).length ≤ significantBytes := by
    rcases told with h | h
    · -- All that is kept of a longer guess is more than the password has.
      have length := congrArg List.length same
      rw [significant_of_short short, significant, List.length_take] at length
      omega
    · exact h.2
  rw [significant_of_short short, significant_of_short shortGuess] at same
  exact Bytes.ofText_injective same

/-- A guess fits the hash of a password if it can be hashed and the same is kept of it. -/
theorem verify_guess (hashed : hash password = .ok kept) (guess : String) : verify guess kept =
    (check guess).map fun _ => decide (significant guess = significant password) := by
  obtain ⟨u, -, rfl⟩ := map_eq_ok.mp hashed
  rfl

end Password

namespace Service

variable {settings : Settings} {now : Instant} {s : Store} {r : Request} {e : Endpoint}
  {name password guess : String} {kept : PasswordHash} {u : UserRow}

/-! ## Tokens that are issued -/

/-- A request is answered with a token. -/
def Issues (settings : Settings) (now : Instant) (s : Store) (r : Request) : Prop :=
  ∃ token, (handle settings now s r).2.1 = .ok (Reply.json 200 [] (View.tokenJson token))

/-- Whoever fails gets no token. -/
theorem Fails.not_issues {f : Failure} (h : Fails settings now s r f) :
    ¬Issues settings now s r := by
  rintro ⟨token, answered⟩
  have failed := statusOf_failure f
  rw [h.answered] at answered
  obtain ⟨reply, hreply, same⟩ := map_eq_ok.mp answered
  have status : reply.status = 200 := congrArg Reply.status same
  rw [hreply, statusOf, status] at failed
  exact absurd failed (by decide)

/-! ## Logins to an account -/

theorem run_login (submits : Submits r name guess) :
    run settings now s r .login = Users.login settings s now ⟨name, guess⟩ :=
  withForm_of_submitted (submitted_login submits)

section Account

variable (account : s.tables.Account name kept u) (hashed : Password.hash password = .ok kept)
  (hroute : Endpoint.route r.method r.path = .found .login) (submits : Submits r name guess)

include account hashed hroute submits

/-- A guess that cannot be hashed is an error. -/
theorem fails_of_unfit {e : PasswordError} (unfit : Password.check guess = .error e) :
    Fails settings now s r (.escaped (.password e)) := by
  refine fails_of_run hroute ((run_login submits).trans ?_)
  have verified : Password.verify guess u.passwordHash = .error e := by
    rw [account.hashed, Password.verify_guess hashed, unfit]
    rfl
  simp only [Users.login, Users.checkLogin, account.userNamed?, orRefuse, bind_ok, verified]
  rfl

/-- A guess of which something else is kept is refused. -/
theorem refuses_other (fit : Password.check guess = .ok ())
    (other : Password.significant guess ≠ Password.significant password) :
    Refuses settings now s r 401 .wrongLogin := by
  refine ⟨rfl, fails_of_run hroute ((run_login submits).trans ?_)⟩
  have verified : Password.verify guess u.passwordHash = .ok false := by
    rw [account.hashed, Password.verify_guess hashed, fit, decide_eq_false other]
    rfl
  simp only [Users.login, Users.checkLogin, account.userNamed?, orRefuse, bind_ok, verified]
  rfl

omit hroute in
/-- A login with a guess of which the same is kept is noted. -/
theorem run_same (fit : Password.check guess = .ok ())
    (same : Password.significant guess = Password.significant password) :
    run settings now s r .login = .ok (Done.changed
      (s.change (·.setUser u.id { u with lastLogin := some now })) (.token (Token.issue
        settings.secret now (some settings.tokenLifetime) (Users.claims name))) []) := by
  have verified : Password.verify guess u.passwordHash = .ok true := by
    rw [account.hashed, Password.verify_guess hashed, fit, decide_eq_true same]
    rfl
  rw [run_login submits]
  simp only [Users.login, Users.checkLogin, account.userNamed?, orRefuse, verified,
    Except.mapError, bind_ok, if_true, account.named]

/-- Without a token, a login with such a guess is answered with an error. -/
theorem escapes_same {e : Token.IssueError} (fit : Password.check guess = .ok ())
    (same : Password.significant guess = Password.significant password)
    (issued : Token.issue settings.secret now (some settings.tokenLifetime) (Users.claims name) =
      .error e) : (handle settings now s r).2.1 = .error (.token e) := by
  have hrun : run settings now s r .login = _ := run_same account hashed submits fit same
  rw [issued] at hrun
  simp only [handle, respond, hroute, hrun]
  rfl

/-- A guess of which the same is kept is as good as the password. -/
theorem issues_same (fit : Password.check guess = .ok ())
    (same : Password.significant guess = Password.significant password) :
    Issues settings now s r ↔ ∃ token, Token.issue settings.secret now
      (some settings.tokenLifetime) (Users.claims name) = .ok token := by
  cases issued : Token.issue settings.secret now (some settings.tokenLifetime)
      (Users.claims name) with
  | ok token =>
    have hrun : run settings now s r .login = _ := run_same account hashed submits fit same
    rw [issued] at hrun
    have success : (Reply.json 200 [] (View.tokenJson token)).status < 400 := by
      show 200 < 400
      decide
    constructor
    · intro _
      exact ⟨token, rfl⟩
    · intro _
      exact ⟨token, handle_reply hroute hrun rfl success⟩
  | error e =>
    have escaped := escapes_same account hashed hroute submits fit same issued
    constructor
    · rintro ⟨token, answered⟩
      rw [escaped] at answered
      cases answered
    · rintro ⟨token, ok⟩
      cases ok

theorem issues_iff : Issues settings now s r ↔ Password.check guess = .ok () ∧
    Password.significant guess = Password.significant password ∧
    ∃ token, Token.issue settings.secret now (some settings.tokenLifetime) (Users.claims name) =
      .ok token := by
  cases fit : Password.check guess with
  | error e =>
    have fails : Fails settings now s r (.escaped (.password e)) :=
      fails_of_unfit account hashed hroute submits fit
    constructor
    · intro issues
      exact absurd issues fails.not_issues
    · rintro ⟨ok, -⟩
      cases ok
  | ok _ =>
    by_cases same : Password.significant guess = Password.significant password
    · rw [issues_same account hashed hroute submits fit same]
      constructor
      · intro issued
        exact ⟨rfl, same, issued⟩
      · rintro ⟨-, -, issued⟩
        exact issued
    · have refuses : Refuses settings now s r 401 .wrongLogin :=
        refuses_other account hashed hroute submits fit same
      constructor
      · intro issues
        exact absurd issues refuses.2.not_issues
      · rintro ⟨-, ok, -⟩
        exact absurd ok same

end Account

/-- After a registration that was answered with success, and after any run, a login with the name and
a guess is answered with a token if and only if the guess can be hashed, the same is kept of it as of
the password, and a token can be given at that time. A guess that is not the password gets none if
the password has fewer bytes than what is kept, or if neither of the two has more. -/
theorem guess_decided (enforces : Bool) (before between : List Visit) (registration login : Visit)
    {name password guess : String}
    (registers : Endpoint.route registration.request.method registration.request.path =
      .found .register)
    (submitsPassword : Submits registration.request name password)
    (created : statusOf (handle settings registration.now
      (serve settings (.fresh enforces) before) registration.request).2.1 = 201)
    (logsIn : Endpoint.route login.request.method login.request.path = .found .login)
    (submitsGuess : Submits login.request name guess) {s : Store}
    (led : serve settings (.fresh enforces) (before ++ registration :: between) = s) :
    (Issues settings login.now s login.request ↔ Password.check guess = .ok () ∧
      Password.significant guess = Password.significant password ∧
      ∃ token, Token.issue settings.secret login.now (some settings.tokenLifetime)
        (Users.claims name) = .ok token) ∧
    (Password.check guess = .ok () →
      Password.significant guess ≠ Password.significant password →
      Refuses settings login.now s login.request 401 .wrongLogin) ∧
    (guess ≠ password → Password.IsTold password guess →
      ¬Issues settings login.now s login.request) := by
  obtain ⟨kept, u, hashed, account⟩ :=
    account_of_registered enforces before between registration registers submitsPassword created
  rw [led] at account
  refine ⟨issues_iff account hashed logsIn submitsGuess,
    refuses_other account hashed logsIn submitsGuess, fun other told issued => ?_⟩
  have same := ((issues_iff account hashed logsIn submitsGuess).mp issued).2.1
  exact other (Password.eq_of_significant told same)

/-- A wrong password that is short gets no token. -/
theorem wrong_guess_of_ann :
    Refuses .default ⟨1⟩ (serve .default (.fresh false) [⟨⟨0⟩, signUp⟩]) (signIn "passport") 401
        .wrongLogin ∧
      ¬Issues .default ⟨1⟩ (serve .default (.fresh false) [⟨⟨0⟩, signUp⟩]) (signIn "passport") := by
  have fit : Password.check "passport" = .ok () := by decide +kernel
  have other : Password.significant "passport" ≠ Password.significant "password" := by decide
  obtain ⟨-, refuses, told⟩ := guess_decided false [] [] ⟨⟨0⟩, signUp⟩ ⟨⟨1⟩, signIn "passport"⟩
    route_signUp submits_signUp (created_signUp .default false ⟨0⟩) (route_signIn "passport")
    submits_signIn rfl
  exact ⟨refuses fit other, told (by decide) (.inl (by decide))⟩

/-! ## A long password -/

/-- A request to register the first user with a password. -/
def enrol (password : String) : Request :=
  send "POST" "/api/users/register" (.obj (applicant "ann" "ann@example.com" password))

theorem read_enrol (password : String) : Submission.read (enrol password) =
    .ok (.value (.obj (applicant "ann" "ann@example.com" password))) := by
  have shallow : (Json.obj (applicant "ann" "ann@example.com" password)).depth ≤
      Submission.maxDepth := by
    show 1 ≤ Submission.maxDepth
    decide
  have names : ["username", "email", "password"].Nodup := by decide
  exact read_send ⟨names, trivial, trivial, trivial, trivial⟩ shallow

theorem submits_enrol (password : String) : Submits (enrol password) "ann" password :=
  ⟨_, read_enrol password, rfl, rfl⟩

theorem route_enrol (password : String) :
    Endpoint.route (enrol password).method (enrol password).path = .found .register := route_signUp

/-- The first user may take any password that fits the form and can be hashed. -/
theorem created_enrol (settings : Settings) (enforces : Bool) (now : Instant)
    (bounds : Form.passwordBounds.broken? password.length = none)
    (hashed : Password.hash password = .ok kept) :
    statusOf (handle settings now (.fresh enforces) (enrol password)).2.1 = 201 :=
  created_of_submitted (f := ⟨"ann", "ann@example.com", none, password⟩) (sound_fresh enforces)
    (route_enrol password)
    (submitted_applicant (read_enrol password) (by decide) (normalForm_ann now) bounds) rfl rfl rfl
    hashed (normalForm_ann now)

/-- A guess of which the same is kept is answered with a token when the first user has registered. -/
theorem issues_enrolled (bounds : Form.passwordBounds.broken? password.length = none)
    (hashed : Password.hash password = .ok kept) (fit : Password.check guess = .ok ())
    (same : Password.significant guess = Password.significant password) :
    Issues .default ⟨1⟩ (serve .default (.fresh false) [⟨⟨0⟩, enrol password⟩]) (signIn guess) := by
  have created := created_enrol .default false ⟨0⟩ bounds hashed
  obtain ⟨kept, u, hashed, account⟩ := account_of_registered false [] [] ⟨⟨0⟩, enrol password⟩
    (route_enrol password) (submits_enrol password) created
  have calendar : (Instant.later ⟨1⟩ week).isRepresentable = true := by decide
  have issued : ∃ token, Token.issue Settings.default.secret ⟨1⟩
      (some Settings.default.tokenLifetime) (Users.claims "ann") = .ok token := issue_week _ _ calendar
  exact (issues_iff account hashed (route_signIn guess) submits_signIn).mpr ⟨fit, same, issued⟩

/-- A text of characters that take three bytes each. -/
def wide (n : Nat) : String := String.ofList (List.replicate n '€')

/-- The first 72 bytes of 25 such characters, and another character behind them. -/
def wideGuess : String := wide 24 ++ "x"

theorem toList_wide (n : Nat) : (wide n).toList = List.replicate n '€' := String.toList_ofList

theorem toList_wideGuess : wideGuess.toList = List.replicate 24 '€' ++ ['x'] := by
  rw [wideGuess, String.toList_append, toList_wide]
  exact congrArg _ String.toList_ofList

/-- A password of 25 characters fits the form. If they take 75 bytes, a login with another text that
has the first 72 of them is answered with a token. -/
theorem other_guess_issued :
    statusOf (handle .default ⟨0⟩ (.fresh false) (enrol (wide 25))).2.1 = 201 ∧
      Submits (enrol (wide 25)) "ann" (wide 25) ∧ Submits (signIn wideGuess) "ann" wideGuess ∧
      wideGuess ≠ wide 25 ∧
      Issues .default ⟨1⟩ (serve .default (.fresh false) [⟨⟨0⟩, enrol (wide 25)⟩])
        (signIn wideGuess) := by
  have bounds : Form.passwordBounds.broken? (wide 25).length = none := by
    rw [← String.length_toList, toList_wide]
    decide
  have hashed : Password.hash (wide 25) = .ok (.ofBytes (Password.significant (wide 25))) := by
    have fit : Password.check (wide 25) = .ok () := by
      rw [Password.check, Bytes.ofText, toList_wide]
      decide
    rw [Password.hash, fit]
    rfl
  have fit : Password.check wideGuess = .ok () := by
    rw [Password.check, Bytes.ofText, toList_wideGuess]
    decide
  have same : Password.significant wideGuess = Password.significant (wide 25) := by
    rw [Password.significant, Password.significant, Bytes.ofText, Bytes.ofText, toList_wideGuess,
      toList_wide]
    decide
  have other : wideGuess ≠ wide 25 := by
    rw [← String.toList_inj.ne, toList_wideGuess, toList_wide]
    decide
  exact ⟨created_enrol .default false ⟨0⟩ bounds hashed, submits_enrol (wide 25), submits_signIn,
    other, issues_enrolled bounds hashed fit same⟩

end Service

end Weblog
