/-
  Who can change what: a request on behalf of a user changes rows of that user only, and a request
  on nobody's behalf can only register a user or note the time of a login.

  Reading is open to all, so that `Authenticates` is about the endpoints that look up their
  caller. The exception in `Tables.Frame` is needed: taking out a tag unlinks it from the posts of
  other users. Over runs, a post, a comment or a tag keeps its identity.
-/
import Weblog.Proofs.Auth.Issued
import Weblog.Proofs.Service.Atomic
import Weblog.Proofs.Store.Frame

namespace Weblog

/-- Whether an endpoint looks up its caller. -/
def Endpoint.asksCaller : Endpoint → Bool
  | .showMe | .updateMe | .createPost | .updatePost _ | .deletePost _ | .createComment _
  | .updateComment _ _ | .deleteComment _ _ | .createTag | .updateTag _ | .deleteTag _ => true
  | .register | .login | .listPosts | .searchPosts | .showPost _ | .listComments _
  | .showComment _ _ | .listTags | .showTag _ | .listTagPosts _ => false

namespace Service

open Tables (Frame)
open Weblog.Shelf (Descends Persists Revises Tidy)

variable {settings : Settings} {now : Instant} {s : Store} {r : Request} {e : Endpoint} {d : Done}

/-- A request is made on behalf of a user. -/
def Authenticates (settings : Settings) (now : Instant) (s : Store) (r : Request) (u : UserRow) :
    Prop :=
  ∃ e, Endpoint.route r.method r.path = .found e ∧ e.asksCaller = true ∧
    caller settings now s r = .ok u

/-! ## Requests on behalf of a user -/

theorem Effect.frame {u : UserRow} (h : Effect settings now s r e d) (hs : Sound s)
    (asks : e.asksCaller = true) (hu : caller settings now s r = .ok u) :
    Frame u s.tables d.store.tables := by
  have same : ∀ {v}, caller settings now s r = .ok v → v = u := fun hv =>
    Except.ok.inj (hv.symm.trans hu)
  cases h with
  | look hlook => exact hlook ▸ Frame.refl u s.tables
  | register => cases asks
  | login => cases asks
  | updateMe called =>
    obtain rfl := same called
    exact Tables.frame_setUser rfl
  | createPost called _ _ _ _ _ idFree left =>
    obtain rfl := same called
    subst left
    exact Tables.frame_addPost rfl idFree _
  | @updatePost _ _ f _ p _ _ called _ _ found own _ _ _ _ _ left =>
    obtain rfl := same called
    subst left
    have hid : p.id = (f.write now p p).id := rfl
    have hown : (f.write now p p).userId = _ := own
    exact Tables.frame_rewritePost hs.posts.distinct (Tables.post?_mem found) own hid hown _
  | deletePost called found own =>
    obtain rfl := same called
    rw [← Tables.post?_id found]
    exact Tables.frame_removePost hs.posts.distinct (Tables.post?_mem found) own
  | createComment called =>
    obtain rfl := same called
    exact Tables.frame_addComment rfl
  | @updateComment _ fs _ _ _ c called _ _ found own =>
    obtain rfl := same called
    have hown : (Comments.revised now c (fs.text "body")).userId = _ := own
    exact Tables.frame_setComment hs.comments.distinct (mem_of_find_comment found) own hown
  | deleteComment called _ found own =>
    obtain rfl := same called
    exact Tables.frame_removeComment hs.comments.distinct (mem_of_find_comment found) own
  | createTag called _ made =>
    obtain rfl := same called
    subst made
    exact Tables.frame_addTag rfl
  | @updateTag _ _ f _ g called _ _ found own =>
    obtain rfl := same called
    have hown : (f.apply now g).userId = _ := own
    exact Tables.frame_setTag hs.tags.distinct (List.mem_of_find?_eq_some found) own hown rfl
  | deleteTag called found own =>
    obtain rfl := same called
    exact Tables.frame_removeTag hs.tags.distinct (List.mem_of_find?_eq_some found) own

/-! ## Requests on nobody's behalf -/

/-- A request registers a user: one row more, and nothing else. It is answered with success if
the address is a normal form of itself. -/
def Registers (settings : Settings) (now : Instant) (s : Store) (r : Request) : Prop :=
  ∃ row, Endpoint.route r.method r.path = .found .register ∧
    (handle settings now s r).1.tables = { s.tables with users := s.tables.users ++ [row] } ∧
    (Email.normalForm row.email = .ok row.email →
      statusOf (handle settings now s r).2.1 = 201)

/-- A request gives the name and the password of a user: the time of his last login is set, and
nothing else. It is answered with success if its time and the expiry of the token are in the
calendar. -/
def LogsIn (settings : Settings) (now : Instant) (s : Store) (r : Request) : Prop :=
  ∃ fs u, Endpoint.route r.method r.path = .found .login ∧
    submitted .userLogin r = .ok fs ∧ Users.checkLogin s.tables (.ofFields fs) = .ok u ∧
    (handle settings now s r).1.tables = { s.tables with
      users := s.tables.users.map fun v => if v = u then { v with lastLogin := some now } else v } ∧
    (now.isRepresentable = true →
      (now.later (Token.lifetimeOr (some settings.tokenLifetime))).isRepresentable = true →
      statusOf (handle settings now s r).2.1 = 200)

/-- A login touches the row of one user, since identifiers are distinct. -/
theorem setUser_login {u : UserRow} (hs : Sound s) (hu : u ∈ s.tables.users) :
    s.tables.setUser u.id { u with lastLogin := some now } = { s.tables with
      users := s.tables.users.map fun v =>
        if v = u then { v with lastLogin := some now } else v } := by
  unfold Tables.setUser
  congr 1
  refine List.map_congr_left fun v hv => ?_
  by_cases hid : v.id = u.id
  · obtain rfl := hs.users.eq_of_id hv hu hid
    rw [if_pos rfl, if_pos rfl]
  · rw [if_neg hid, if_neg fun heq => hid (congrArg UserRow.id heq)]

/-- Without a caller, only a registration or a login changes anything. -/
theorem anonymous_cases (hs : Sound s) (now : Instant) (r : Request)
    (anonymous : ∀ u, ¬Authenticates settings now s r u) :
    (handle settings now s r).1.tables = s.tables ∨ Registers settings now s r ∨
      LogsIn settings now s r := by
  obtain h | ⟨e, d, hroute, heffect, hstore, hstatus⟩ := handle_cases settings now s r
  · exact .inl (congrArg Store.tables h)
  have contra : ∀ {u}, caller settings now s r = .ok u → e.asksCaller = true → False :=
    fun called asks => anonymous _ ⟨e, hroute, asks, called⟩
  have valid := heffect.valid hs
  cases heffect with
  | look same => exact .inl (congrArg Store.tables (hstore.trans same))
  | @register fs f hash =>
    refine .inr (.inl ⟨f.row s now hash, hroute, congrArg Store.tables hstore, fun mail => ?_⟩)
    obtain ⟨j, hj⟩ := userJson_ok (valid.users _ List.mem_concat_self) mail
    have shown : (View.user (f.row s now hash)).toJson? = .ok (some j) := by
      rw [View.toJson?, hj]
      rfl
    exact hstatus.trans (statusOf_reply 201 shown)
  | @login fs u form known =>
    refine .inr (.inr ⟨fs, u, hroute, form, known, ?_, fun clock expiry => ?_⟩)
    · exact (congrArg Store.tables hstore).trans (setUser_login hs (mem_of_checkLogin known))
    · obtain ⟨token, htoken⟩ := Token.issue_ok settings.secret u.username clock expiry
      rw [htoken] at hstatus
      exact hstatus.trans (statusOf_reply (v := .token (.ok token)) 200 rfl)
  | updateMe called => exact (contra called rfl).elim
  | createPost called => exact (contra called rfl).elim
  | updatePost called => exact (contra called rfl).elim
  | deletePost called => exact (contra called rfl).elim
  | createComment called => exact (contra called rfl).elim
  | updateComment called => exact (contra called rfl).elim
  | deleteComment called => exact (contra called rfl).elim
  | createTag called => exact (contra called rfl).elim
  | updateTag called => exact (contra called rfl).elim
  | deleteTag called => exact (contra called rfl).elim

/-! ## The first user -/

theorem route_signIn (password : String) :
    Endpoint.route (signIn password).method (signIn password).path = .found .login := by
  have hroute : Endpoint.route "POST" "/api/users/login" = .found .login := by decide
  exact hroute

/-- A login is made on nobody's behalf. -/
theorem not_authenticates_signIn {settings : Settings} {now : Instant} {s : Store}
    (password : String) (u : UserRow) : ¬Authenticates settings now s (signIn password) u := by
  rintro ⟨e, hroute, asks, -⟩
  rw [route_signIn] at hroute
  obtain rfl := Endpoint.Routing.found.inj hroute
  cases asks

/-! ## Runs -/

section Runs

variable {α : Type} {identity : α → Identity} {k : Kind} {shelf : Store → Shelf α}

/-- A shelf that every effect revises persists in every run. -/
theorem persists_serve (tidy : ∀ s, Sound s → Tidy identity k (shelf s))
    (revises : ∀ {now s r e d}, Effect settings now s r e d →
      Revises identity k (shelf s) (shelf d.store))
    (hs : Sound s) (vs : List Visit) :
    Persists identity k (shelf s) (shelf (serve settings s vs)) := by
  have descends : Sound (serve settings s vs) ∧
      Descends identity k (shelf s) (shelf (serve settings s vs)) := by
    refine serve_induction (P := fun s' => Sound s' ∧ Descends identity k (shelf s) (shelf s'))
      (fun s' v ⟨hs', hd⟩ => ⟨hs'.visit v, ?_⟩) ⟨hs, Descends.refl _⟩ vs
    unfold visit
    obtain h | ⟨e, d, -, heffect, h, -⟩ := handle_cases settings v.now s' v.request
    · rw [h]
      exact hd
    · rw [h]
      exact hd.revises (tidy s' hs') (revises heffect)
  exact descends.2.persists (tidy s hs)

end Runs

/-- From every store that visits lead to:

1. a request on behalf of a user leaves all rows of others as they are, but for links to a tag of
   the user that is taken out;
2. a request on nobody's behalf changes nothing, or registers a user, or notes the time of a login
   of the user whose name and password it gives;
3. in every run a post, a comment and a tag keeps its identifier, its owner and the time of its
   creation. -/
theorem confined (reach : Reachable settings s) :
    (∀ now r u, Authenticates settings now s r u →
      Frame u s.tables (handle settings now s r).1.tables) ∧
    (∀ now r, (∀ u, ¬Authenticates settings now s r u) →
      (handle settings now s r).1.tables = s.tables ∨ Registers settings now s r ∨
        LogsIn settings now s r) ∧
    ∀ vs, Persists PostRow.identity .post s.posts (serve settings s vs).posts ∧
      Persists CommentRow.identity .comment s.comments (serve settings s vs).comments ∧
      Persists TagRow.identity .tag s.tags (serve settings s vs).tags := by
  refine ⟨fun now r u ⟨e, hroute, asks, called⟩ => ?_, anonymous_cases reach.sound, fun vs => ?_⟩
  · obtain h | ⟨e', d, hroute', heffect, h, -⟩ := handle_cases settings now s r
    · rw [h]
      exact Frame.refl u s.tables
    · obtain rfl : e = e' := Endpoint.Routing.found.inj (hroute.symm.trans hroute')
      rw [h]
      exact heffect.frame reach.sound asks called
  · exact ⟨persists_serve (fun _ h => h.posts) Effect.posts reach.sound vs,
      persists_serve (fun _ h => h.comments) Effect.comments reach.sound vs,
      persists_serve (fun _ h => h.tags) Effect.tags reach.sound vs⟩

/-- The token on behalf of the first user. -/
def heldToken : String := "eyJhbGciOiJIUzI1NiIsInR5cCI6IkpXVCJ9." ++
  "eyJzdWIiOiJhbm4iLCJleHAiOjE3MDQ2NzIwMDF9.ibRW1-thRRB3qZ_80Ja6DrdDrQh0u5o3NKcsO1lQAR4"

theorem isCut_heldToken : Token.IsCut heldToken
    ⟨"eyJhbGciOiJIUzI1NiIsInR5cCI6IkpXVCJ9.eyJzdWIiOiJhbm4iLCJleHAiOjE3MDQ2NzIwMDF9".toList,
      "eyJhbGciOiJIUzI1NiIsInR5cCI6IkpXVCJ9".toList,
      "eyJzdWIiOiJhbm4iLCJleHAiOjE3MDQ2NzIwMDF9".toList,
      "ibRW1-thRRB3qZ_80Ja6DrdDrQh0u5o3NKcsO1lQAR4".toList⟩ where
  whole := by
    refine String.toList_append.trans ?_
    rw [String.toList_ofList, String.toList_ofList, String.toList_ofList, String.toList_ofList]
    rfl
  last := by
    rw [String.toList_ofList]
    decide
  text := by
    rw [String.toList_ofList, String.toList_ofList, String.toList_ofList]
    rfl
  first := by
    rw [String.toList_ofList]
    decide

theorem payload_heldToken : Token.payload "your-secret-key" heldToken =
    .ok (.obj [("sub", .str "ann"), ("exp", .int 1704672001)]) := by
  have body : (Token.readSegment "eyJzdWIiOiJhbm4iLCJleHAiOjE3MDQ2NzIwMDF9".toList).toOption =
      some (.obj [("sub", .str "ann"), ("exp", .int 1704672001)]) := by
    rw [String.toList_ofList]
    decide +kernel
  refine (Token.payload_of_digest isCut_heldToken Token.readSegment_headText ?_).trans
    (ok_of_toOption body)
  rw [Token.digest_eq, Bytes.ofText, String.toList_ofList, String.toList_ofList,
    String.toList_ofList]
  decide +kernel

theorem dense_heldToken : ∀ c ∈ heldToken.toList, Text.isBlankChar c = false := by
  have all : heldToken.toList.all (Text.isBlankChar · == false) = true := by
    rw [isCut_heldToken.whole, isCut_heldToken.text]
    rw [String.toList_ofList, String.toList_ofList, String.toList_ofList]
    decide +kernel
  simpa using all

theorem caller_firstPost : caller .default ⟨0⟩ (signedUp false ⟨0⟩) firstPost = .ok (ann ⟨0⟩) := by
  have known : (signedUp false ⟨0⟩).tables.userNamed? "ann" = some (ann ⟨0⟩) := rfl
  have sub : Token.subject "your-secret-key" ⟨0⟩ heldToken = .ok "ann" := by
    rw [Token.subject, Token.accept, payload_heldToken]
    rfl
  have named : Caller.ofToken "your-secret-key" ⟨0⟩ (signedUp false ⟨0⟩).tables heldToken =
      .ok (ann ⟨0⟩) := by
    rw [Caller.ofToken, sub]
    exact orRefuse_eq_ok.mpr known
  have held : firstPost.authorization = some ("Bearer " ++ heldToken) :=
    congrArg some String.append_assoc
  have secret : Settings.default.secret = "your-secret-key" := rfl
  rw [caller, held, secret, Caller.ofHeader, Caller.token?_bearer dense_heldToken]
  exact named

/-- The first user writes a post, which touches no rows of others, and the first user logs in. -/
theorem confined_signedUp :
    Authenticates .default ⟨0⟩ (signedUp false ⟨0⟩) firstPost (ann ⟨0⟩) ∧
      Frame (ann ⟨0⟩) (signedUp false ⟨0⟩).tables
        (handle .default ⟨0⟩ (signedUp false ⟨0⟩) firstPost).1.tables ∧
      LogsIn .default ⟨0⟩ (signedUp false ⟨0⟩) (signIn "password") := by
  have h := confined (reachable_signedUp .default false ⟨0⟩)
  have auth : Authenticates .default ⟨0⟩ (signedUp false ⟨0⟩) firstPost (ann ⟨0⟩) :=
    ⟨.createPost, by decide, rfl, caller_firstPost⟩
  have changed : (handle .default ⟨0⟩ (signedUp false ⟨0⟩) (signIn "password")).1.tables ≠
    (signedUp false ⟨0⟩).tables := by decide +kernel
  refine ⟨auth, h.1 ⟨0⟩ firstPost (ann ⟨0⟩) auth, ?_⟩
  obtain same | ⟨_, hroute, -⟩ | login :=
    h.2.1 ⟨0⟩ (signIn "password") (not_authenticates_signIn "password")
  · exact absurd same changed
  · rw [route_signIn] at hroute
    cases hroute
  · exact login

/-- Near the end of the calendar a login is noted, and then the token cannot be given. -/
theorem late_login_noted :
    Reachable .default (signedUp false ⟨0⟩) ∧
      (∀ u, ¬Authenticates .default .latest (signedUp false ⟨0⟩) (signIn "password") u) ∧
      statusOf (handle .default .latest (signedUp false ⟨0⟩) (signIn "password")).2.1 = 500 ∧
      (handle .default .latest (signedUp false ⟨0⟩) (signIn "password")).1.tables ≠
        (signedUp false ⟨0⟩).tables :=
  ⟨reachable_signedUp .default false ⟨0⟩, not_authenticates_signIn "password", by decide +kernel,
    by decide +kernel⟩

end Service

end Weblog
