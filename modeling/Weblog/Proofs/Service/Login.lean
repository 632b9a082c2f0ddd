/-
  Logins: whoever has registered can log in with his password at any later time, and the token that
  he gets stands for him for a week, whatever happens in between.

  Two exceptions are named in the main statement. Near the end of the calendar a token cannot be
  given, since there is no date for its expiry. And an endpoint that takes a body reads it before it
  looks at the token, so that a body that cannot be read is what the answer is about.
-/
import Weblog.Proofs.Auth.Issued
import Weblog.Proofs.Service.Accounts
import Weblog.Proofs.Service.Frame

namespace Weblog

/-- Whether an endpoint reads a body. -/
def Endpoint.takesBody : Endpoint → Bool
  | .register | .login | .updateMe | .createPost | .updatePost _ | .createComment _
  | .updateComment _ _ | .createTag | .updateTag _ => true
  | .showMe | .listPosts | .searchPosts | .showPost _ | .deletePost _ | .listComments _
  | .showComment _ _ | .deleteComment _ _ | .listTags | .showTag _ | .listTagPosts _
  | .deleteTag _ => false

/-- A hash fits the password that it was made from. -/
theorem Password.verify_of_hash {password : String} {hash : PasswordHash}
    (h : Password.hash password = .ok hash) : Password.verify password hash = .ok true := by
  obtain ⟨u, hcheck, rfl⟩ := map_eq_ok.mp h
  rw [verify, hcheck]
  simp only [Except.map, decide_true]

namespace Service

/-- A week, in microseconds. -/
def week : Int := 604800000000

variable {settings : Settings} {now : Instant} {s : Store} {r : Request} {e : Endpoint} {d : Done}
  {name password token : String} {hash : PasswordHash} {u : UserRow}

/-! ## Logging in -/

/-- A token for a week is given if its expiry is in the calendar. -/
theorem issue_week (secret name : String) (calendar : (now.later week).isRepresentable = true) :
    ∃ token, Token.issue secret now (some week) (Users.claims name) = .ok token := by
  have span : Span.check week = .ok () := by decide
  exact ⟨_, Token.issue_eq_ok span calendar (Token.checkWrite_claims name calendar)⟩

theorem checkLogin_account {t : Tables} (account : t.Account name hash u)
    (hashed : Password.hash password = .ok hash) :
    Users.checkLogin t ⟨name, password⟩ = .ok u := by
  have fits : Password.verify password u.passwordHash = .ok true :=
    account.hashed ▸ Password.verify_of_hash hashed
  simp only [Users.checkLogin, account.userNamed?, orRefuse, fits, Except.mapError, bind_ok, if_true]

theorem submitted_login (h : Submits r name password) :
    submitted .userLogin r = .ok [("username", .str name), ("password", .str password)] := by
  obtain ⟨fields, hread, givenName, givenPassword⟩ := h
  have hname : (Form.requiredText "username" .none).check fields = .ok ("username", .str name) :=
    check_text givenName rfl
  have hpassword : (Form.requiredText "password" .none).check fields =
      .ok ("password", .str password) := check_text givenPassword rfl
  refine submitted_of_fit hread ?_
  simp only [Form.userLogin, List.map_cons, List.map_nil, hname, hpassword]

/-- An answer of success passes the request log as it is. -/
theorem handle_reply {reply : Reply} (hroute : Endpoint.route r.method r.path = .found e)
    (hrun : run settings now s r e = .ok d) (hreply : d.view.reply d.status = .ok reply)
    (success : reply.status < 400) : (handle settings now s r).2.1 = .ok reply := by
  have quiet : ¬RequestLog.leastFailure ≤ reply.status := Nat.not_le.mpr success
  simp only [handle, respond, hroute, hrun, hreply, RequestLog.observe]
  rw [if_neg quiet]

/-- A login with the password of an account is answered with a token. -/
theorem handle_login (lifetime : settings.tokenLifetime = week)
    (account : s.tables.Account name hash u) (hashed : Password.hash password = .ok hash)
    (hroute : Endpoint.route r.method r.path = .found .login) (submits : Submits r name password)
    (calendar : (now.later week).isRepresentable = true) :
    ∃ token, Token.issue settings.secret now (some week) (Users.claims name) = .ok token ∧
      (handle settings now s r).2.1 = .ok (Reply.json 200 [] (View.tokenJson token)) := by
  obtain ⟨token, issued⟩ := issue_week settings.secret name calendar
  have login : Users.login settings s now ⟨name, password⟩ = .ok (Done.changed
      (s.change (·.setUser u.id { u with lastLogin := some now })) (.token (.ok token)) []) := by
    simp only [Users.login, checkLogin_account account hashed, bind_ok, lifetime, account.named,
      issued]
  have hrun : run settings now s r .login = .ok (Done.changed
      (s.change (·.setUser u.id { u with lastLogin := some now })) (.token (.ok token)) []) :=
    (withForm_of_submitted (submitted_login submits)).trans login
  have success : (Reply.json 200 [] (View.tokenJson token)).status < 400 := by
    show 200 < 400
    decide
  exact ⟨token, issued, handle_reply hroute hrun rfl success⟩

/-! ## Presenting a token -/

/-- The caller of a request with a token from a login. -/
theorem caller_of_issue {given : Instant} (account : s.tables.Account name hash u)
    (issued : Token.issue settings.secret given (some week) (Users.claims name) = .ok token)
    (presents : Caller.token? r.authorization = some token) :
    caller settings now s r =
      if now.second ≤ (given.later week).second then .ok u else refuse .badCredentials := by
  have lifetime : Token.lifetimeOr (some week) = week := by decide
  rw [caller, Caller.ofHeader, presents]
  simp only [Caller.ofToken, Token.subject_issue issued, lifetime]
  by_cases h : now.second ≤ (given.later week).second
  · rw [if_pos h, if_pos h]
    simp only [account.userNamed?, orRefuse]
  · rw [if_neg h, if_neg h]
    rfl

/-- A caller who is refused is refused by every endpoint that asks for one, after the body was
read. -/
theorem run_refused {refusal : Refusal} (asks : e.asksCaller = true)
    (readable : e.takesBody = true → ∃ b, Submission.read r = .ok b)
    (refused : caller settings now s r = refuse refusal) :
    run settings now s r e = refuse refusal := by
  have both : ∀ {form act}, e.takesBody = true →
      withBoth settings now s form r act = refuse refusal := by
    intro form act takes
    obtain ⟨b, hb⟩ := readable takes
    rw [withBoth, hb, bind_ok, refused]
    rfl
  have alone : ∀ {act}, withCaller settings now s r act = refuse refusal := by
    intro act
    rw [withCaller, refused]
    rfl
  cases e with
  | showMe =>
    rw [run, activeCaller, refused]
    rfl
  | updateMe =>
    obtain ⟨b, hb⟩ := readable rfl
    rw [run, hb, bind_ok, activeCaller, refused]
    rfl
  | createPost => exact both rfl
  | updatePost id => exact both rfl
  | deletePost id => exact alone
  | createComment postId => exact both rfl
  | updateComment postId id => exact both rfl
  | deleteComment postId id => exact alone
  | createTag => exact both rfl
  | updateTag id => exact both rfl
  | deleteTag id => exact alone
  | _ => cases asks

theorem statusOf_refused {refusal : Refusal}
    (hroute : Endpoint.route r.method r.path = .found e)
    (hrun : run settings now s r e = refuse refusal) :
    statusOf (handle settings now s r).2.1 = refusal.status := by
  simp only [handle, respond, hroute, hrun, refuse, statusOf_observe]
  rfl

/-! ## A week -/

/-- Whoever has registered with success can log in with his password after any run, if the end of
the token's week is in the calendar. Wherever a caller is asked for, after any further run, the
token stands for the one user of that name to the end of the second in which the week ends. After
that it is refused, if the body of the request, where one is taken, can be read. -/
theorem week_of_login (lifetime : settings.tokenLifetime = week) (enforces : Bool)
    (before between : List Visit) (registration login : Visit) {name password : String}
    (registers : Endpoint.route registration.request.method registration.request.path =
      .found .register)
    (submitsFirst : Submits registration.request name password)
    (created : statusOf (handle settings registration.now
      (serve settings (.fresh enforces) before) registration.request).2.1 = 201)
    (logsIn : Endpoint.route login.request.method login.request.path = .found .login)
    (submitsAgain : Submits login.request name password)
    (calendar : (login.now.later week).isRepresentable = true) :
    ∃ token, Caller.token? (some ("Bearer " ++ token)) = some token ∧
      (handle settings login.now (serve settings (.fresh enforces)
        (before ++ registration :: between)) login.request).2.1 =
          .ok (Reply.json 200 [] (View.tokenJson token)) ∧
      ∀ (after : List Visit) (v : Visit) (e : Endpoint) (s : Store), serve settings (.fresh enforces)
          (before ++ registration :: between ++ login :: after) = s →
        Endpoint.route v.request.method v.request.path = .found e → e.asksCaller = true →
        Caller.token? v.request.authorization = some token →
        (v.now.second ≤ (login.now.later week).second →
          ∃ u, Authenticates settings v.now s v.request u ∧ u.username = name ∧
            u.isActive = true ∧ ∀ w ∈ s.tables.users, w.username = name → w = u) ∧
        ((login.now.later week).second < v.now.second →
          (e.takesBody = true → ∃ b, Submission.read v.request = .ok b) →
          statusOf (handle settings v.now s v.request).2.1 = 401) := by
  have sound : ∀ vs, Sound (serve settings (.fresh enforces) vs) := fun vs =>
    (reachable_serve settings enforces vs).sound
  -- The account is there after the registration, and stays.
  obtain ⟨hash, u₀, hashed, account₀⟩ := account_of_created registers submitsFirst created
  have account₁ : ∃ u, (serve settings (.fresh enforces)
      (before ++ registration :: between)).tables.Account name hash u := by
    rw [serve_append, serve_cons]
    obtain ⟨u, account, -⟩ := account_serve ((sound before).visit registration) account₀ between
    exact ⟨u, account⟩
  obtain ⟨u₁, account₁⟩ := account₁
  obtain ⟨token, issued, answer⟩ := handle_login lifetime account₁ hashed logsIn submitsAgain calendar
  have dense : ∀ c ∈ token.toList, Text.isBlankChar c = false := by
    obtain ⟨-, rfl⟩ := Token.sign_of_issue issued
    exact fun c hc => Token.isBlankChar_of_mem_sign hc
  refine ⟨token, Caller.token?_bearer dense, answer, ?_⟩
  intro after v e s hs hroute asks presents
  have account₂ : ∃ u, s.tables.Account name hash u := by
    obtain ⟨u, account, -⟩ := account_serve (sound _) account₁ (login :: after)
    rw [← hs, serve_append]
    exact ⟨u, account⟩
  obtain ⟨u, account⟩ := account₂
  have called : caller settings v.now s v.request =
      if v.now.second ≤ (login.now.later week).second then .ok u else refuse .badCredentials :=
    caller_of_issue account issued presents
  constructor
  · intro early
    rw [if_pos early] at called
    exact ⟨u, ⟨e, hroute, asks, called⟩, account.named, account.active, account.only⟩
  · intro late readable
    rw [if_neg (Int.not_le.mpr late)] at called
    exact statusOf_refused hroute (run_refused asks readable called)

/-! ## The first user -/

/-- A request for the caller's own record. -/
def askMe (token : String) : Request :=
  ⟨"http://testserver", "GET", "/api/users/me", "", none, some ("Bearer " ++ token), []⟩

theorem submits_signUp : Submits signUp "ann" "password" :=
  ⟨signUpFields, read_signUp, rfl, rfl⟩

theorem submits_signIn {guess : String} : Submits (signIn guess) "ann" guess := by
  have shallow : (Json.obj [("username", .str "ann"), ("password", .str guess)]).depth ≤
      Submission.maxDepth := by
    show 1 ≤ Submission.maxDepth
    decide
  have names : ["username", "password"].Nodup := by decide
  exact ⟨_, read_send ⟨names, trivial, trivial, trivial⟩ shallow, rfl, rfl⟩

theorem route_signUp : Endpoint.route signUp.method signUp.path = .found .register := by
  decide

/-- The registration of the first user is answered with success. -/
theorem created_signUp (settings : Settings) (enforces : Bool) (now : Instant) :
    statusOf (handle settings now (.fresh enforces) signUp).2.1 = 201 := by
  have left : (handle settings now (.fresh enforces) signUp).1 = signedUp enforces now :=
    (visit_mk settings _ now signUp).symm.trans (visit_signUp settings enforces now)
  have anonymous : ∀ u, ¬Authenticates settings now (.fresh enforces) signUp u := by
    rintro u ⟨e, hroute, asks, -⟩
    rw [route_signUp] at hroute
    obtain rfl := Endpoint.Routing.found.inj hroute
    cases asks
  obtain same | ⟨row, -, tables, answered⟩ | ⟨_, _, hroute, -⟩ :=
    anonymous_cases (sound_fresh enforces) now signUp anonymous
  · rw [left] at same
    have users : [ann now] = [] := congrArg Tables.users same
    exact absurd users (List.cons_ne_nil _ _)
  · rw [left] at tables
    have users : [ann now] = [] ++ [row] := congrArg Tables.users tables
    obtain rfl : ann now = row := (List.cons.inj users).1
    exact answered (normalForm_ann now)
  · rw [route_signUp] at hroute
    cases hroute

/-- The first user logs in when he has registered. He is known for a week, and then no longer. -/
theorem week_of_ann :
    ∃ token, statusOf (handle .default ⟨0⟩ (serve .default (.fresh false) [⟨⟨0⟩, signUp⟩])
        (signIn "password")).2.1 = 200 ∧
      ∀ s, serve .default (.fresh false) [⟨⟨0⟩, signUp⟩, ⟨⟨0⟩, signIn "password"⟩] = s →
        (∃ u, Authenticates .default ⟨week⟩ s (askMe token) u ∧ u.username = "ann") ∧
        statusOf (handle .default ⟨week + 1000000⟩ s (askMe token)).2.1 = 401 := by
  have lifetime : Settings.default.tokenLifetime = week := rfl
  have calendar : (Instant.later ⟨0⟩ week).isRepresentable = true := by decide
  have early : (Instant.mk week).second ≤ (Instant.later ⟨0⟩ week).second := by decide
  have late : (Instant.later ⟨0⟩ week).second < (Instant.mk (week + 1000000)).second := by decide
  have hroute : ∀ token, Endpoint.route (askMe token).method (askMe token).path = .found .showMe := by
    intro token
    have hroute : Endpoint.route "GET" "/api/users/me" = .found .showMe := by decide
    exact hroute
  obtain ⟨token, found, answer, later⟩ := week_of_login lifetime false [] []
    ⟨⟨0⟩, signUp⟩ ⟨⟨0⟩, signIn "password"⟩ route_signUp submits_signUp
    (created_signUp .default false ⟨0⟩) (route_signIn "password") submits_signIn calendar
  simp only [List.nil_append, List.cons_append] at answer later
  refine ⟨token, by rw [answer]; rfl, fun s hs => ⟨?_, ?_⟩⟩
  · obtain ⟨u, auth, named, -⟩ :=
      (later [] ⟨⟨week⟩, askMe token⟩ .showMe s hs (hroute token) rfl found).1 early
    exact ⟨u, auth, named⟩
  · exact (later [] ⟨⟨week + 1000000⟩, askMe token⟩ .showMe s hs (hroute token) rfl found).2
      late (fun takes => by cases takes)

/-- A request to write a post, whose body breaks off. -/
def brokenPost (token : String) : Request :=
  ⟨"http://testserver", "POST", "/api/posts", "", some "application/json",
    some ("Bearer " ++ token), Bytes.ofText "\x7b"⟩

/-- A body that breaks off is refused whoever sends it. -/
theorem statusOf_brokenPost (now : Instant) (s : Store) (token : String) :
    statusOf (handle settings now s (brokenPost token)).2.1 = 422 := by
  have hroute : Endpoint.route (brokenPost token).method (brokenPost token).path =
      .found .createPost := by
    have hroute : Endpoint.route "POST" "/api/posts" = .found .createPost := by decide
    exact hroute
  have hfull : ¬(brokenPost token).body.isEmpty = true := by
    show ¬(Bytes.ofText "\x7b").isEmpty = true
    decide
  have hjson : Submission.isJson (brokenPost token).contentType = true := by
    show Submission.isJson (some "application/json") = true
    decide
  have hbody : Submission.readJson (brokenPost token).body =
      .error (.faults [⟨.badJson .expectedName, [.name "body", .index 1], .obj []⟩]) := by
    have parsed : Json.readWithin Submission.maxDepth ['\x7b'] = .error ⟨.expectedName, 1⟩ := by
      decide
    have decoded : Bytes.jsonChars? (Bytes.ofText "\x7b") = some ['\x7b'] := by
      rw [Bytes.ofText, String.toList_ofList]
      exact Bytes.toChars?_utf8 true ['\x7b']
    show Submission.readJson (Bytes.ofText "\x7b") = _
    rw [Submission.readJson, decoded]
    simp only [parsed]
  have hread : Submission.read (brokenPost token) = .error
      (.faults [⟨.badJson .expectedName, [.name "body", .index 1], .obj []⟩]) := by
    unfold Submission.read
    rw [if_neg hfull, if_pos hjson, hbody]
    rfl
  simp only [handle, respond, hroute, run, withBoth, hread, statusOf_observe]
  rfl

/-- A login near the end of the calendar is answered with an error, since its token cannot be
given. And a body that cannot be read is answered before the token is looked at, here one that was
given a week and a second ago. -/
theorem late_or_unreadable :
    statusOf (handle .default ⟨0⟩ (.fresh false) signUp).2.1 = 201 ∧
      visit .default (.fresh false) ⟨⟨0⟩, signUp⟩ = signedUp false ⟨0⟩ ∧
      statusOf (handle .default .latest (signedUp false ⟨0⟩) (signIn "password")).2.1 = 500 ∧
      ∃ token, (handle .default ⟨0⟩ (signedUp false ⟨0⟩) (signIn "password")).2.1 =
          .ok (Reply.json 200 [] (View.tokenJson token)) ∧
        statusOf (handle .default ⟨week + 1000000⟩
          (visit .default (signedUp false ⟨0⟩) ⟨⟨0⟩, signIn "password"⟩)
            (brokenPost token)).2.1 = 422 := by
  have created := created_signUp .default false ⟨0⟩
  obtain ⟨hash, u, hashed, account⟩ := account_of_created route_signUp submits_signUp created
  rw [← visit_mk, visit_signUp] at account
  have calendar : (Instant.later ⟨0⟩ week).isRepresentable = true := by decide
  have lifetime : Settings.default.tokenLifetime = week := rfl
  obtain ⟨token, -, answer⟩ :=
    handle_login lifetime account hashed (route_signIn "password") submits_signIn calendar
  exact ⟨created, visit_signUp .default false ⟨0⟩, by decide +kernel, token, answer,
    statusOf_brokenPost _ _ token⟩

end Service

end Weblog
