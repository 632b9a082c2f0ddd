/-
  Registration from the side of the client: a request whose fields are fit and whose name and
  address are not taken puts a row into the table of users.

  Facts about stores with rows in them need such a run to begin with. The first one is the visit
  of a user with a simple address to empty tables; `reachable_signedUp` has the store it leaves.
-/
import Weblog.Proofs.Bytes.Utf8
import Weblog.Proofs.Email.Simple
import Weblog.Proofs.Json.RoundTrip
import Weblog.Proofs.Service.Shown
import Weblog.Proofs.Service.Sound

namespace Weblog.Service

variable {settings : Settings} {now : Instant} {s : Store} {r : Request} {form : Form}
  {fields fs : Fields}

/-! ## Requests that get through -/

/-- The answer of an endpoint that succeeds. -/
theorem handle_of_run {e : Endpoint} {d : Done} (hroute : Endpoint.route r.method r.path = .found e)
    (hrun : run settings now s r e = .ok d) :
    (handle settings now s r).1 = d.store ∧
      statusOf (handle settings now s r).2.1 = statusOf (d.view.reply d.status) := by
  simp only [handle, statusOf_observe, respond, hroute, hrun]
  exact ⟨trivial, trivial⟩

theorem withForm_of_submitted {act : Fields → Except Failure Done}
    (h : submitted form r = .ok fs) : withForm form r act = act fs := by
  simp only [submitted, bind_eq_ok] at h
  obtain ⟨submission, hread, hcheck⟩ := h
  simp only [withForm, hread, hcheck, bind_ok]

/-- A body whose text is the text of a value. -/
theorem read_of_json {cs : List Char} {v : Json} (hjson : Submission.isJson r.contentType = true)
    (decoded : Bytes.jsonChars? r.body = some cs) (some : cs ≠ [])
    (value : Json.readWithin Submission.maxDepth cs = .ok v) :
    Submission.read r = .ok (.value v) := by
  have hbody : Submission.readJson r.body = .ok v := by
    simp only [Submission.readJson, decoded, value]
  have hfull : ¬r.body.isEmpty = true := by
    intro empty
    rw [List.isEmpty_iff.mp empty] at decoded
    have nothing : Bytes.jsonChars? [] = .some [] := Bytes.toChars?_utf8 true []
    exact some (Option.some.inj (nothing.symm.trans decoded)).symm
  unfold Submission.read
  rw [if_neg hfull, if_pos hjson, hbody]
  rfl

/-- An object whose fields are fit fills a form. -/
theorem submitted_of_fit (hread : Submission.read r = .ok (.value (.obj fields)))
    (fit : form.fields.map (·.check fields) = fs.map .ok) : submitted form r = .ok fs := by
  have checked : form.checkFields fields = .ok fs := collect_eq_ok.mpr fit
  simp only [submitted, hread, bind_ok, Submission.check, Form.checkValue, checked]

/-- A registration whose name and address are not taken adds its row, and shows it. -/
theorem run_register {f : Users.Registration} {hash : PasswordHash} (hs : Sound s)
    (form : submitted .userCreate r = .ok fs) (filled : .ofFields fs = f)
    (named : s.tables.userNamed? f.username = none) (mailed : s.tables.userMailed? f.email = none)
    (hashed : Password.hash f.password = .ok hash) : run settings now s r .register =
      .ok (Done.created ((s.nextId .user).2.change (·.addUser (f.row s now hash)))
        (.user (f.row s now hash)) []) := by
  subst filled
  have idFree : s.tables.user? (s.nextId .user).1 = none := hs.users.find?_next
  refine (withForm_of_submitted form).trans ?_
  simp only [Users.register, guard_eq_ok, bind_eq_ok, mapError_eq_ok, commit_eq_ok, not_isSome,
    Store.addUser_eq_ok]
  exact ⟨named, mailed, hash, hashed, _, ⟨mailed, named, idFree, rfl⟩, rfl⟩

theorem handle_register {f : Users.Registration} {hash : PasswordHash} (hs : Sound s)
    (hroute : Endpoint.route r.method r.path = .found .register)
    (form : submitted .userCreate r = .ok fs) (filled : .ofFields fs = f)
    (named : s.tables.userNamed? f.username = none) (mailed : s.tables.userMailed? f.email = none)
    (hashed : Password.hash f.password = .ok hash) :
    (handle settings now s r).1 = (s.nextId .user).2.change (·.addUser (f.row s now hash)) :=
  (handle_of_run hroute (run_register hs form filled named mailed hashed)).1

/-- A registration with an address that is a normal form of itself is answered with success. -/
theorem created_of_submitted {f : Users.Registration} {hash : PasswordHash} (hs : Sound s)
    (hroute : Endpoint.route r.method r.path = .found .register)
    (form : submitted .userCreate r = .ok fs) (filled : .ofFields fs = f)
    (named : s.tables.userNamed? f.username = none) (mailed : s.tables.userMailed? f.email = none)
    (hashed : Password.hash f.password = .ok hash) (normal : Email.normalForm f.email = .ok f.email) :
    statusOf (handle settings now s r).2.1 = 201 := by
  have valid : (f.row s now hash).Valid := filled ▸ valid_registered form hash
  obtain ⟨j, hj⟩ := userJson_ok valid normal
  rw [(handle_of_run hroute (run_register hs form filled named mailed hashed)).2]
  simp only [Done.created, View.reply, View.toJson?, hj]
  rfl

/-! ## Newcomers -/

/-- What an applicant submits. -/
def applicant (name mail password : String) : Fields :=
  [("username", .str name), ("email", .str mail), ("password", .str password)]

theorem submitted_applicant {name mail password : String}
    (hread : Submission.read r = .ok (.value (.obj (applicant name mail password))))
    (bounds : Form.usernameBounds.broken? name.length = none)
    (normal : Email.normalForm mail = .ok mail)
    (passwordBounds : Form.passwordBounds.broken? password.length = none) :
    submitted .userCreate r = .ok [("username", .str name), ("email", .str mail), ("bio", .null),
      ("password", .str password)] := by
  have hname : (Form.requiredText "username" Form.usernameBounds).check
      (applicant name mail password) = .ok ("username", .str name) := check_text rfl bounds
  have hmail : (Field.mk "email" .email true).check (applicant name mail password) =
      .ok ("email", .str mail) := check_email rfl normal
  have hbio : (Form.optionalText "bio" .none).check (applicant name mail password) =
      .ok ("bio", .null) := rfl
  have hpassword : (Form.requiredText "password" Form.passwordBounds).check
      (applicant name mail password) = .ok ("password", .str password) :=
    check_text rfl passwordBounds
  refine submitted_of_fit hread ?_
  simp only [Form.userCreate, Form.userFields, List.cons_append, List.nil_append, List.map_cons,
    List.map_nil, hname, hmail, hbio, hpassword]

/-- What a newcomer submits. -/
def newcomer (name mail : String) : Fields :=
  [("username", .str name), ("email", .str mail), ("password", .str "password")]

/-- The row that a newcomer gets under an identifier. -/
def newcomerRow (id name mail : String) (now : Instant) : UserRow :=
  ⟨id, name, mail, .ofBytes (Bytes.ofText "password"), none, now, none, true⟩

theorem submitted_newcomer {name mail : String}
    (hread : Submission.read r = .ok (.value (.obj (newcomer name mail))))
    (bounds : Form.usernameBounds.broken? name.length = none)
    (normal : Email.normalForm mail = .ok mail) : submitted .userCreate r =
      .ok [("username", .str name), ("email", .str mail), ("bio", .null),
        ("password", .str "password")] :=
  submitted_applicant hread bounds normal (by decide)

/-- A newcomer whose name and address are not taken is added to the users. -/
theorem visit_newcomer {name mail : String} (hs : Sound s)
    (hroute : Endpoint.route r.method r.path = .found .register)
    (hread : Submission.read r = .ok (.value (.obj (newcomer name mail))))
    (bounds : Form.usernameBounds.broken? name.length = none)
    (normal : Email.normalForm mail = .ok mail) (named : s.tables.userNamed? name = none)
    (mailed : s.tables.userMailed? mail = none) :
    visit settings s ⟨now, r⟩ = (s.nextId .user).2.change
      (·.addUser (newcomerRow (s.nextId .user).1 name mail now)) := by
  have filled : Users.Registration.ofFields [("username", .str name), ("email", .str mail),
      ("bio", .null), ("password", .str "password")] = ⟨name, mail, none, "password"⟩ := rfl
  have hashed : Password.hash "password" = .ok (.ofBytes (Bytes.ofText "password")) := by
    decide
  rw [visit_mk, handle_register hs hroute (submitted_newcomer hread bounds normal) filled named
    mailed hashed]
  rfl

/-- An address of small letters at the example domain is its own normal form. -/
theorem normalForm_example {mail : String} {mailbox : List Char}
    (written : mail.toList = Email.join mailbox ("example".toList ++ '.' :: "com".toList))
    (some : mailbox ≠ []) (small : ∀ c ∈ mailbox, Text.isSmall c = true)
    (short : mailbox.length ≤ 64) : Email.normalForm mail = .ok mail :=
  Email.normalForm_simple (Email.isSimple_example some small short) written

/-! ## A first user -/

/-- A request that sends JSON. -/
def send (method path : String) (body : Json) : Request :=
  ⟨"http://testserver", method, path, "", some "application/json", none,
    Bytes.ofText (Json.write Json.compact body)⟩

/-- An object that is sent is read as it was. -/
theorem read_send {method path k : String} {v : Json} {fields : Fields}
    (exact : (Json.obj ((k, v) :: fields)).Exact)
    (shallow : Json.depth (.obj ((k, v) :: fields)) ≤ Submission.maxDepth) :
    Submission.read (send method path (.obj ((k, v) :: fields))) =
      .ok (.value (.obj ((k, v) :: fields))) := by
  have value := Json.readWithin_writeAt Json.readable_compact exact shallow
  obtain ⟨cs, written⟩ : ∃ cs, Json.writeAt Json.compact 0 (.obj ((k, v) :: fields)) =
      '\x7b' :: '"' :: cs := ⟨_, rfl⟩
  have hbody : (send method path (.obj ((k, v) :: fields))).body =
      Bytes.utf8 ('\x7b' :: '"' :: cs) := by
    rw [← written, send, Bytes.ofText, Json.write, String.toList_ofList]
  rw [written] at value
  have hjson : Submission.isJson (some "application/json") = true := by decide
  exact read_of_json hjson (hbody ▸ Bytes.jsonChars?_object cs) (List.cons_ne_nil _ _) value

/-- What the first user submits. -/
def signUpFields : Fields := newcomer "ann" "ann@example.com"

def signUp : Request := send "POST" "/api/users/register" (.obj signUpFields)

def signIn (password : String) : Request :=
  send "POST" "/api/users/login" (.obj [("username", .str "ann"), ("password", .str password)])

/-- A request on behalf of the first user. His token was given for a week on 1 January 2024. -/
def onBehalf (r : Request) : Request :=
  { r with authorization := some ("Bearer " ++ "eyJhbGciOiJIUzI1NiIsInR5cCI6IkpXVCJ9." ++
    "eyJzdWIiOiJhbm4iLCJleHAiOjE3MDQ2NzIwMDF9.ibRW1-thRRB3qZ_80Ja6DrdDrQh0u5o3NKcsO1lQAR4") }

def firstPost : Request := onBehalf
  (send "POST" "/api/posts" (.obj [("title", .str "A title"), ("body", .str "A body")]))

/-- The row that `signUp` adds to empty tables. -/
def ann (now : Instant) : UserRow :=
  newcomerRow (Kind.user.identifier 1) "ann" "ann@example.com" now

/-- The store that `signUp` leaves. -/
def signedUp (enforces : Bool) (now : Instant) : Store :=
  ⟨{ Tables.empty with users := [ann now] }, Counters.zero.bump .user, enforces⟩

/-- The address of the first user is its own normal form. -/
theorem normalForm_ann (now : Instant) : Email.normalForm (ann now).email = .ok (ann now).email := by
  have written : "ann@example.com".toList = Email.join "ann".toList
      ("example".toList ++ '.' :: "com".toList) := by decide
  exact normalForm_example written (by decide) (List.all_eq_true.mp (by decide)) (by decide)

theorem read_signUp : Submission.read signUp = .ok (.value (.obj signUpFields)) :=
  read_send ⟨by decide, trivial, trivial, trivial, trivial⟩ (by decide)

theorem visit_signUp (settings : Settings) (enforces : Bool) (now : Instant) :
    visit settings (.fresh enforces) ⟨now, signUp⟩ = signedUp enforces now := by
  have hroute : Endpoint.route signUp.method signUp.path = .found .register := by decide
  rw [visit_newcomer (sound_fresh enforces) hroute read_signUp (by decide) (normalForm_ann now) rfl
    rfl]
  rfl

/-- The table with the first user is the end of a run. -/
theorem reachable_signedUp (settings : Settings) (enforces : Bool) (now : Instant) :
    Reachable settings (signedUp enforces now) :=
  visit_signUp settings enforces now ▸ (Reachable.fresh enforces).visit ⟨now, signUp⟩

end Weblog.Service
