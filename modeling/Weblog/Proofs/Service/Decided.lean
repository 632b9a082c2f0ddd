/-
  The order of checks: what a request to change a stored row or to take it out comes to is decided
  by the first of its conditions that holds.

  `Decides` writes down the conditions of each endpoint in their order, each with its outcome. It
  does not open the endpoints: conditions are about the tables, the caller and the submitted fields
  alone. Two conditions are about errors that no answer covers, and they stand before the check
  that they get in the way of.
-/
import Weblog.Proofs.Service.Bearer
import Weblog.Proofs.Service.Owned

namespace Weblog

namespace Service

open Weblog.Tables (Unique)

variable {settings : Settings} {now : Instant} {s : Store} {r : Request} {e : Endpoint} {d : Done}
  {form : Form} {fs : Fields} {u : UserRow}

/-! ## Names of tags -/

/-- No tag that is stored has a blank name. -/
def Named (s : Store) : Prop := ∀ g ∈ s.tables.tags, Text.isBlank g.name = false

theorem name_untouched {g : TagRow} {f : Tags.Edit} (untouched : f.isTouching g = false) :
    (f.apply now g).name = g.name := by
  simp only [Tags.Edit.isTouching, Bool.or_eq_false_iff, Option.isSome_eq_false_iff,
    Option.isNone_iff_eq_none] at untouched
  rw [Tags.Edit.apply, untouched.1]
  rfl

theorem Effect.named (h : Effect settings now s r e d) (named : Named s) : Named d.store := by
  cases h with
  | look same => exact same ▸ named
  | createPost _ _ _ _ _ _ _ left =>
    subst left
    exact named
  | @updatePost _ _ _ _ _ _ tags _ _ _ _ _ _ _ _ _ _ left =>
    subst left
    cases tags <;> exact named
  | createTag _ _ _ _ fresh => exact forall_mem_concat named fresh
  | @updateTag _ _ f _ g _ _ _ found _ _ fresh =>
    refine forall_mem_put named ?_
    cases touching : f.isTouching g with
    | true => exact fresh touching
    | false =>
      have known := named g (List.mem_of_find?_eq_some found)
      exact (name_untouched touching : (f.apply now g).name = g.name) ▸ known
  | deleteTag => exact forall_mem_filter named
  | _ => exact named

theorem Reachable.named (h : Reachable settings s) : Named s := by
  induction h with
  | fresh enforces => exact fun g hg => by cases hg
  | @visit s v _ ih =>
    obtain h | ⟨e, d, -, heffect, h, -⟩ := handle_cases settings v.now s v.request
    · rw [Service.visit, h]
      exact ih
    · rw [Service.visit, h]
      exact heffect.named ih

/-- A change that leaves a tag with a blank name touches it. -/
theorem touching_of_blank {g : TagRow} {f : Tags.Edit} (named : Text.isBlank g.name = false)
    (blank : Text.isBlank (f.apply now g).name = true) : f.isTouching g = true := by
  by_contra untouched
  rw [name_untouched (Bool.eq_false_iff.mpr untouched), named] at blank
  cases blank

/-! ## Outcomes -/

section Outcomes

variable (settings : Settings) (now : Instant) (s : Store) (r : Request)

/-- An error escapes from a request, which is answered with status 500, and nothing changes. -/
def Breaks : Prop :=
  (handle settings now s r).1 = s ∧ ∃ x, (handle settings now s r).2.1 = .error x

/-- A request fails with a status: nothing changes, and the answer is that of the failure. -/
def FailsWith (status : Nat) (f : Failure) : Prop :=
  statusOf f.reply = status ∧ Fails settings now s r f

/-- A request succeeds with a status and leaves a store behind. -/
def Leaves (status : Nat) (t : Store) : Prop :=
  statusOf (handle settings now s r).2.1 = status ∧ (handle settings now s r).1 = t

/-! ## Conditions -/

/-- The token of a request can neither be accepted nor be refused: a segment is too deep, or a time
claim of a signed token stands for no number. -/
def Puzzling : Prop :=
  ∃ token why, Caller.token? r.authorization = some token ∧
    Token.subject settings.secret now token = .error why ∧ why ≠ .refused

/-- The faults of what a request submits cannot be shown: one quotes a number that is not finite,
or the body is no text. -/
def Unshowable (form : Form) : Prop :=
  (∃ fs, submitted form r = .error (.faults fs) ∧ Json.itemsFinite (fs.map Fault.toJson) = false) ∨
    ∃ b, submitted form r = .error (.escaped (.unreadableBody b))

/-! ## Conditions in order -/

/-- The outcome of a condition where it holds, and what comes after it where it does not. -/
def Unless (condition outcome rest : Prop) : Prop :=
  (condition → outcome) ∧ (¬condition → rest)

/-- First the token has to stand for a user. -/
def ForCaller (rest : UserRow → Prop) : Prop :=
  Unless (Puzzling settings now r) (Breaks settings now s r) <|
  Unless (∀ u, caller settings now s r ≠ .ok u)
    (Refuses settings now s r 401 .notAuthenticated ∨
      Refuses settings now s r 401 .badCredentials) <|
  ∀ u, caller settings now s r = .ok u → rest u

/-- Then the body has to fill a form. -/
def ForForm (form : Form) (rest : Fields → Prop) : Prop :=
  Unless (Unshowable r form) (Breaks settings now s r) <|
  Unless (∀ fs, submitted form r ≠ .ok fs)
    (∃ faults, submitted form r = .error (.faults faults) ∧
      FailsWith settings now s r 422 (.faults faults)) <|
  ∀ fs, submitted form r = .ok fs → rest fs

/-- Then a row has to be there. -/
def ForRow {α : Type} (rows : List α) (wanted : α → Prop) (refusal : Refusal) (rest : α → Prop) :
    Prop :=
  Unless (¬∃ a ∈ rows, wanted a) (Refuses settings now s r 404 refusal) <|
  ∀ a ∈ rows, wanted a → rest a

/-- What a request to change a stored row or to take it out comes to. -/
def Decides : Endpoint → Prop
  | .updatePost id =>
    ForCaller settings now s r fun u => ForForm settings now s r .postUpdate fun fs =>
    ForRow settings now s r s.tables.posts (·.id = id) .noPost fun p =>
    Unless (p.userId ≠ u.id) (Refuses settings now s r 403 .notOwner) <|
    Unless (∃ ids, (Posts.Edit.ofFields fs).tagIds = some ids ∧
        ∃ id ∈ ids, id ∉ s.tables.tags.map (·.id))
      (Refuses settings now s r 404 .noSuchTags) <|
    let blanks :=
      Posts.blanks ((Posts.Edit.ofFields fs).titleOf p) ((Posts.Edit.ofFields fs).bodyOf p)
    Unless (blanks ≠ [])
      (FailsWith settings now s r 422 (.invalid .post (some p.id) (.about blanks))) <|
    Leaves settings now s r 200 (if (Posts.Edit.ofFields fs).isTouching then
      s.change (·.rewritePost ((Posts.Edit.ofFields fs).write now p p)
        ((Posts.Edit.ofFields fs).tagIds.map List.eraseDups)) else s)
  | .deletePost id =>
    ForCaller settings now s r fun u =>
    ForRow settings now s r s.tables.posts (·.id = id) .noPost fun p =>
    Unless (p.userId ≠ u.id) (Refuses settings now s r 403 .notOwnerOfPost) <|
    Leaves settings now s r 204 (s.change (·.removePost p.id))
  | .updateComment postId id =>
    ForCaller settings now s r fun u => ForForm settings now s r .commentUpdate fun fs =>
    ForRow settings now s r s.tables.posts (·.id = postId) .noPost fun _ =>
    ForRow settings now s r s.tables.comments (fun c => c.id = id ∧ c.postId = postId) .noComment
      fun c =>
    Unless (c.userId ≠ u.id) (Refuses settings now s r 403 .notOwner) <|
    Unless (Text.isBlank (fs.text "body"))
      (FailsWith settings now s r 422 (.invalid .comment (some c.id) (.about ["body"]))) <|
    Leaves settings now s r 200
      (s.change (·.setComment c.id (Comments.revised now c (fs.text "body"))))
  | .deleteComment postId id =>
    ForCaller settings now s r fun u =>
    ForRow settings now s r s.tables.posts (·.id = postId) .noPost fun _ =>
    ForRow settings now s r s.tables.comments (fun c => c.id = id ∧ c.postId = postId) .noComment
      fun c =>
    Unless (c.userId ≠ u.id) (Refuses settings now s r 403 .notOwner) <|
    Leaves settings now s r 204 (s.change (·.removeComment c.id))
  | .updateTag id =>
    ForCaller settings now s r fun u => ForForm settings now s r .tagUpdate fun fs =>
    ForRow settings now s r s.tables.tags (·.id = id) .noTag fun g =>
    Unless (g.userId ≠ u.id) (Refuses settings now s r 403 .notOwner) <|
    Unless (∃ h ∈ s.tables.tags, h.id ≠ g.id ∧ fs.text? "name" = some h.name)
      (Refuses settings now s r 400 .tagNameTaken) <|
    let tag := (Tags.Edit.ofFields fs).apply now g
    Unless (Text.isBlank tag.name)
      (FailsWith settings now s r 422 (.invalid .tag (some g.id) (.about ["name"]))) <|
    Leaves settings now s r 200 (s.change (·.setTag g.id tag))
  | .deleteTag id =>
    ForCaller settings now s r fun u =>
    ForRow settings now s r s.tables.tags (·.id = id) .noTag fun g =>
    Unless (g.userId ≠ u.id) (Refuses settings now s r 403 .notOwner) <|
    Leaves settings now s r 204 (s.change (·.removeTag g.id))
  | _ => True

end Outcomes

variable {outcome condition rest : Prop}

/-! ## Failing requests -/

theorem breaks_of_fails {f : Failure} (h : Fails settings now s r f) {x : Escape}
    (escapes : f.reply = .error x) : Breaks settings now s r :=
  ⟨h.unchanged, x, by rw [h.answered, escapes]; rfl⟩

theorem Breaks.status (h : Breaks settings now s r) :
    statusOf (handle settings now s r).2.1 = 500 := by
  obtain ⟨x, hx⟩ := h.2
  rw [hx]
  rfl

theorem Unshowable.unfit (h : Unshowable r form) (fs : Fields) : submitted form r ≠ .ok fs := by
  rintro fit
  obtain ⟨faults, faulty, -⟩ | ⟨b, faulty⟩ := h
  · rw [fit] at faulty
    cases faulty
  · rw [fit] at faulty
    cases faulty

/-- Nobody stands for a token that puzzles. -/
theorem caller_puzzling (h : Puzzling settings now r) :
    ∃ x, caller settings now s r = .error (.escaped x) := by
  obtain ⟨token, why, presents, read, odd⟩ := h
  simp only [caller, Caller.ofHeader, presents, Caller.ofToken, read]
  cases why with
  | refused => exact absurd rfl odd
  | noNumber x => exact ⟨_, rfl⟩
  | tooDeep inner => exact ⟨_, rfl⟩

theorem caller_refused (plain : ¬Puzzling settings now r)
    (nobody : ∀ u, caller settings now s r ≠ .ok u) :
    caller settings now s r = refuse .notAuthenticated ∨
      caller settings now s r = refuse .badCredentials := by
  unfold caller Caller.ofHeader at nobody ⊢
  split
  · exact .inl rfl
  · rename_i token presents
    rw [presents] at nobody
    right
    unfold Caller.ofToken at nobody ⊢
    split
    · rename_i why read
      cases why with
      | refused => rfl
      | noNumber x => exact absurd ⟨token, _, presents, read, fun same => by cases same⟩ plain
      | tooDeep inner => exact absurd ⟨token, _, presents, read, fun same => by cases same⟩ plain
    · rename_i name read
      simp only [read] at nobody
      cases known : s.tables.userNamed? name with
      | none => rfl
      | some u => exact absurd (by rw [known]; rfl) (nobody u)

/-- The fields of a readable body are submitted, or there are faults, or the body is no text. -/
theorem submitted_cases (readable : ∃ b, Submission.read r = .ok b) (form : Form) :
    (∃ fs, submitted form r = .ok fs) ∨ (∃ fs, submitted form r = .error (.faults fs)) ∨
      ∃ b, submitted form r = .error (.escaped (.unreadableBody b)) := by
  obtain ⟨b, hread⟩ := readable
  rw [submitted, hread, bind_ok]
  cases b with
  | nothing => exact .inr (.inl ⟨_, rfl⟩)
  | value v =>
    simp only [Submission.check]
    split
    · exact .inl ⟨_, rfl⟩
    · exact .inr (.inl ⟨_, rfl⟩)
  | bytes b =>
    simp only [Submission.check]
    split
    · exact .inr (.inl ⟨_, rfl⟩)
    · exact .inr (.inr ⟨_, rfl⟩)

/-- A body that is left out or that is JSON can be read, whatever its content type is. -/
theorem readable_of_json (h : r.body = [] ∨ ∃ v, Submission.readJson r.body = .ok v) :
    ∃ b, Submission.read r = .ok b := by
  unfold Submission.read
  split
  · exact ⟨_, rfl⟩
  · rename_i hfull
    obtain hempty | ⟨v, hv⟩ := h
    · exact absurd (by rw [hempty]; rfl) hfull
    split
    · exact ⟨.value v, by rw [hv]; rfl⟩
    · exact ⟨_, rfl⟩

/-! ## Checks that are passed -/

theorem ForCaller.of_called {rest : UserRow → Prop} (h : ForCaller settings now s r rest)
    (called : caller settings now s r = .ok u) : rest u := by
  have plain : ¬Puzzling settings now r := fun odd => by
    obtain ⟨x, hx⟩ := caller_puzzling (s := s) odd
    rw [called] at hx
    cases hx
  exact (h.2 plain).2 (fun nobody => nobody u called) u called

theorem ForForm.of_submitted {rest : Fields → Prop} (h : ForForm settings now s r form rest)
    (fit : submitted form r = .ok fs) : rest fs := by
  have shown : ¬Unshowable r form := fun hidden => hidden.unfit fs fit
  exact (h.2 shown).2 (fun unfit => unfit fs fit) fs fit

theorem ForRow.of_mem {α : Type} {rows : List α} {wanted : α → Prop} {refusal : Refusal}
    {rest : α → Prop} (h : ForRow settings now s r rows wanted refusal rest) {a : α} (ha : a ∈ rows)
    (hw : wanted a) : rest a :=
  h.2 (fun none => none ⟨a, ha, hw⟩) a ha hw

/-! ## Checks in order -/

theorem forCaller (hroute : Endpoint.route r.method r.path = .found e) {rest : UserRow → Prop}
    (uncalled : ∀ f, caller settings now s r = .error f → run settings now s r e = .error f)
    (called : ∀ u, caller settings now s r = .ok u → rest u) : ForCaller settings now s r rest := by
  refine ⟨fun odd => ?_, fun plain => ⟨fun nobody => ?_, fun _ => called⟩⟩
  · obtain ⟨x, hx⟩ := caller_puzzling (s := s) odd
    exact breaks_of_fails (fails_of_run hroute (uncalled _ hx)) rfl
  · obtain h | h := caller_refused plain nobody
    · exact .inl ⟨rfl, fails_of_run hroute (uncalled _ h)⟩
    · exact .inr ⟨rfl, fails_of_run hroute (uncalled _ h)⟩

theorem forForm (hroute : Endpoint.route r.method r.path = .found e)
    (readable : ∃ b, Submission.read r = .ok b) {rest : Fields → Prop}
    (unfit : ∀ f, submitted form r = .error f → run settings now s r e = .error f)
    (fit : ∀ fs, submitted form r = .ok fs → rest fs) : ForForm settings now s r form rest := by
  refine ⟨fun hidden => ?_, fun shown => ⟨fun faulty => ?_, fun _ => fit⟩⟩
  · obtain ⟨fs, h, infinite⟩ | ⟨b, h⟩ := hidden
    · have escapes : (Failure.faults fs).reply = .error .notFinite := by
        simp only [Failure.reply, infinite, Bool.false_eq_true, if_false]
      exact breaks_of_fails (fails_of_run hroute (unfit _ h)) escapes
    · exact breaks_of_fails (fails_of_run hroute (unfit _ h)) rfl
  · obtain ⟨fs, h⟩ | ⟨fs, h⟩ | ⟨b, h⟩ := submitted_cases readable form
    · exact absurd h (faulty fs)
    · refine ⟨fs, h, ?_, fails_of_run hroute (unfit _ h)⟩
      have finite : Json.itemsFinite (fs.map Fault.toJson) = true := by
        by_contra infinite
        exact shown (.inl ⟨fs, h, Bool.eq_false_iff.mpr infinite⟩)
      simp only [Failure.reply, finite, if_true]
      rfl
    · exact absurd (.inr ⟨b, h⟩) shown

theorem withCaller_uncalled {act : UserRow → Except Failure Done} {f : Failure}
    (h : caller settings now s r = .error f) : withCaller settings now s r act = .error f := by
  rw [withCaller, h]
  rfl

theorem withBoth_uncalled (readable : ∃ b, Submission.read r = .ok b)
    {act : UserRow → Fields → Except Failure Done} {f : Failure}
    (h : caller settings now s r = .error f) : withBoth settings now s form r act = .error f := by
  obtain ⟨b, hread⟩ := readable
  rw [withBoth, hread, bind_ok, h]
  rfl

theorem withBoth_unfit (called : caller settings now s r = .ok u)
    {act : UserRow → Fields → Except Failure Done} {f : Failure}
    (readable : ∃ b, Submission.read r = .ok b) (h : submitted form r = .error f) :
    withBoth settings now s form r act = .error f := by
  obtain ⟨b, hread⟩ := readable
  rw [submitted, hread, bind_ok] at h
  rw [withBoth, hread, bind_ok, called, bind_ok, h]
  rfl

theorem forRow {α : Type} {rows : List α} {wanted : α → Prop} {refusal : Refusal}
    {rest : α → Prop} (hroute : Endpoint.route r.method r.path = .found e)
    (code : refusal.status = 404)
    (absent : (∀ a ∈ rows, ¬wanted a) → run settings now s r e = refuse refusal)
    (found : ∀ a ∈ rows, wanted a → rest a) : ForRow settings now s r rows wanted refusal rest := by
  refine ⟨fun none => ⟨code, fails_of_run hroute (absent fun a ha hw => none ⟨a, ha, hw⟩)⟩,
    fun _ => found⟩

/-- A condition under which an endpoint refuses. -/
theorem unless_refused {refusal : Refusal} {status : Nat}
    (hroute : Endpoint.route r.method r.path = .found e) (code : refusal.status = status)
    (refused : condition → run settings now s r e = refuse refusal) (go : ¬condition → rest) :
    Unless condition (Refuses settings now s r status refusal) rest :=
  ⟨fun h => ⟨code, fails_of_run hroute (refused h)⟩, go⟩

/-- A condition under which a record is not valid. -/
theorem unless_invalid {kind : Kind} {id : Option String} {cs : Complaints}
    (hroute : Endpoint.route r.method r.path = .found e)
    (invalid : condition → run settings now s r e = .error (.invalid kind id cs))
    (go : ¬condition → rest) :
    Unless condition (FailsWith settings now s r 422 (.invalid kind id cs)) rest :=
  ⟨fun h => ⟨rfl, fails_of_run hroute (invalid h)⟩, go⟩

/-- An endpoint that succeeds leaves its store behind, if what it shows can be shown. -/
theorem leaves_of_run (hroute : Endpoint.route r.method r.path = .found e)
    (hrun : run settings now s r e = .ok d) (shown : ∃ o, d.view.toJson? = .ok o) :
    Leaves settings now s r d.status d.store := by
  obtain ⟨left, answered⟩ := handle_of_run hroute hrun
  obtain ⟨o, ho⟩ := shown
  exact ⟨answered.trans (statusOf_reply d.status ho), left⟩

/-! ## Endpoints -/

theorem decides_deletePost (hs : Sound s) {id : String}
    (hroute : Endpoint.route r.method r.path = .found (.deletePost id)) :
    Decides settings now s r (.deletePost id) := by
  refine forCaller hroute (fun f => withCaller_uncalled) fun u called => ?_
  have alone : run settings now s r (.deletePost id) = Posts.delete s u id :=
    withCaller_of_called called
  refine forRow hroute rfl (fun absent => ?_) fun p hp hid => ?_
  · exact alone.trans (Posts.delete_unknown (Tables.post?_eq_none.mpr absent))
  subst hid
  have found := hs.posts.find?_of_mem hp
  refine unless_refused hroute rfl (fun others => ?_) fun own => ?_
  · exact alone.trans (Posts.delete_notOwner found others)
  · exact leaves_of_run hroute (alone.trans (Posts.delete_own found (not_not.mp own))) ⟨none, rfl⟩

theorem decides_deleteTag (hs : Sound s) {id : String}
    (hroute : Endpoint.route r.method r.path = .found (.deleteTag id)) :
    Decides settings now s r (.deleteTag id) := by
  refine forCaller hroute (fun f => withCaller_uncalled) fun u called => ?_
  have alone : run settings now s r (.deleteTag id) = Tags.delete s u id :=
    withCaller_of_called called
  refine forRow hroute rfl (fun absent => ?_) fun g hg hid => ?_
  · exact alone.trans (Tags.delete_unknown (Tables.tag?_eq_none.mpr absent))
  subst hid
  have found := hs.tags.find?_of_mem hg
  refine unless_refused hroute rfl (fun others => ?_) fun own => ?_
  · exact alone.trans (Tags.delete_notOwner found others)
  · exact leaves_of_run hroute (alone.trans (Tags.delete_own found (not_not.mp own))) ⟨none, rfl⟩

theorem decides_deleteComment (hs : Sound s) {postId id : String}
    (hroute : Endpoint.route r.method r.path = .found (.deleteComment postId id)) :
    Decides settings now s r (.deleteComment postId id) := by
  refine forCaller hroute (fun f => withCaller_uncalled) fun u called => ?_
  have alone : run settings now s r (.deleteComment postId id) = Comments.delete s u postId id :=
    withCaller_of_called called
  refine forRow hroute rfl (fun absent => ?_) fun p hp hpost => ?_
  · exact alone.trans (Comments.delete_postless (Tables.post?_eq_none.mpr absent))
  subst hpost
  have post := hs.posts.find?_of_mem hp
  refine forRow hroute rfl (fun absent => ?_) fun c hc hid => ?_
  · have unknown := Comments.find_absent hs.comments.distinct absent
    exact alone.trans (Comments.delete_unknown post unknown)
  have found := (Comments.find_eq_ok hs.comments.distinct).mpr ⟨hc, hid⟩
  refine unless_refused hroute rfl (fun others => ?_) fun own => ?_
  · exact alone.trans (Comments.delete_notOwner post found others)
  · exact leaves_of_run hroute (alone.trans (Comments.delete_own post found (not_not.mp own)))
      ⟨none, rfl⟩

theorem decides_updateComment (hs : Sound s) {postId id : String}
    (hroute : Endpoint.route r.method r.path = .found (.updateComment postId id))
    (readable : ∃ b, Submission.read r = .ok b) :
    Decides settings now s r (.updateComment postId id) := by
  refine forCaller hroute (fun f => withBoth_uncalled readable) fun u called => ?_
  refine forForm hroute readable (fun f => withBoth_unfit called readable) fun fs form => ?_
  have both : run settings now s r (.updateComment postId id) =
      Comments.update s now u postId id (fs.text "body") := withBoth_of_submitted called form
  refine forRow hroute rfl (fun absent => ?_) fun p hp hpost => ?_
  · exact both.trans (Comments.update_postless (Tables.post?_eq_none.mpr absent))
  subst hpost
  have post := hs.posts.find?_of_mem hp
  refine forRow hroute rfl (fun absent => ?_) fun c hc hid => ?_
  · have unknown := Comments.find_absent hs.comments.distinct absent
    exact both.trans (Comments.update_unknown post unknown)
  have found := (Comments.find_eq_ok hs.comments.distinct).mpr ⟨hc, hid⟩
  refine unless_refused hroute rfl (fun others => ?_) fun own => ?_
  · exact both.trans (Comments.update_notOwner post found others)
  have own := not_not.mp own
  refine unless_invalid hroute (fun blank => ?_) fun full => ?_
  · exact both.trans (Comments.update_blank post found own blank)
  have full := Bool.eq_false_iff.mpr full
  have valid : (Comments.revised now c (fs.text "body")).Valid := ⟨full⟩
  exact leaves_of_run hroute (both.trans (Comments.update_own post found own full))
    (toJson?_of_ok rfl (commentJson_ok valid))

/-- A name is not new if no other tag has it. -/
theorem newName?_free {g : TagRow} (hg : g ∈ s.tables.tags) (hs : Sound s)
    (alone : ¬∃ h ∈ s.tables.tags, h.id ≠ g.id ∧ fs.text? "name" = some h.name) :
    ∀ name, (Tags.Edit.ofFields fs).newName? g = some name → s.tables.tagNamed? name = none := by
  intro name renamed
  obtain ⟨given, differs⟩ := Option.filter_eq_some_iff.mp renamed
  simp only [Bool.and_eq_true, decide_eq_true_eq] at differs
  rw [Tables.tagNamed?_eq_none]
  rintro h hh rfl
  by_cases same : h.id = g.id
  · exact differs.2 (congrArg TagRow.name (hs.tags.eq_of_id hh hg same))
  · exact alone ⟨h, hh, same, given⟩

theorem decides_updateTag (hs : Sound s) (unique : s.tables.Unique) (named : Named s) {id : String}
    (hroute : Endpoint.route r.method r.path = .found (.updateTag id))
    (readable : ∃ b, Submission.read r = .ok b) : Decides settings now s r (.updateTag id) := by
  refine forCaller hroute (fun f => withBoth_uncalled readable) fun u called => ?_
  refine forForm hroute readable (fun f => withBoth_unfit called readable) fun fs form => ?_
  have both : run settings now s r (.updateTag id) = Tags.update s now u id (.ofFields fs) :=
    withBoth_of_submitted called form
  refine forRow hroute rfl (fun absent => ?_) fun g hg hid => ?_
  · exact both.trans (Tags.update_unknown (Tables.tag?_eq_none.mpr absent) _)
  subst hid
  have found := hs.tags.find?_of_mem hg
  refine unless_refused hroute rfl (fun others => ?_) fun own => ?_
  · exact both.trans (Tags.update_notOwner found others _)
  have own := not_not.mp own
  refine unless_refused hroute rfl (fun taken => ?_) fun alone => ?_
  · obtain ⟨h, hh, other, given⟩ := taken
    have renamed : (Tags.Edit.ofFields fs).newName? g = some h.name :=
      Tags.newName?_of_other hs unique hg hh other given
    have named : (s.tables.tagNamed? h.name).isSome = true :=
      Tables.isSome_tagNamed?.mpr (List.mem_map_of_mem hh)
    exact both.trans (Tags.update_taken found own renamed named)
  have free := newName?_free hg hs alone
  refine unless_invalid hroute (fun blank => ?_) fun full => ?_
  · exact both.trans (Tags.update_blank found own free (touching_of_blank (named g hg) blank) blank)
  have valid : ((Tags.Edit.ofFields fs).apply now g).Valid := valid_apply (hs.valid.tags g hg) form
  exact leaves_of_run hroute
    (both.trans (Tags.update_done found own free unique (Bool.eq_false_iff.mpr full)))
    (toJson?_of_ok rfl (tagJson_ok valid))

theorem decides_updatePost (hs : Sound s) {id : String}
    (hroute : Endpoint.route r.method r.path = .found (.updatePost id))
    (readable : ∃ b, Submission.read r = .ok b) : Decides settings now s r (.updatePost id) := by
  refine forCaller hroute (fun f => withBoth_uncalled readable) fun u called => ?_
  refine forForm hroute readable (fun f => withBoth_unfit called readable) fun fs form => ?_
  have both : run settings now s r (.updatePost id) = Posts.update s now u id (.ofFields fs) :=
    withBoth_of_submitted called form
  refine forRow hroute rfl (fun absent => ?_) fun p hp hid => ?_
  · exact both.trans (Posts.update_unknown (Tables.post?_eq_none.mpr absent) _)
  subst hid
  have found := hs.posts.find?_of_mem hp
  refine unless_refused hroute rfl (fun others => ?_) fun own => ?_
  · exact both.trans (Posts.update_notOwner found others _)
  have own := not_not.mp own
  refine unless_refused hroute rfl (fun unknown => ?_) fun known => ?_
  · obtain ⟨ids, given, absent⟩ := unknown
    exact both.trans (Posts.update_unloaded found own given
      (Posts.loadTags_refused hs.tags.distinct absent))
  obtain ⟨tags, loaded, same⟩ := Posts.exists_mapM_loadTags hs.tags.distinct known
  have valid := hs.valid.posts p hp
  cases touching : (Posts.Edit.ofFields fs).isTouching with
  | false =>
    have full := Posts.blanks_untouched valid touching
    refine ⟨fun blank => absurd full blank, fun _ => ?_⟩
    exact leaves_of_run hroute (both.trans (Posts.update_untouched found own touching))
      (toJson?_of_ok rfl (postJson_ok _ valid))
  | true =>
    refine unless_invalid hroute (fun blank => ?_) fun full => ?_
    · exact both.trans (Posts.update_blank found own touching loaded blank)
    obtain ⟨titled, bodied⟩ := Posts.blanks_eq_nil.mp (not_not.mp full)
    exact leaves_of_run hroute
      (both.trans (Posts.update_done found own touching loaded titled bodied (same ▸ rfl)))
      (toJson?_of_ok rfl (postJson_ok _ (valid_write now valid form titled bodied)))

/-- A request to change the first post. -/
def editPost (contentType : String) (body : Bytes) : Request :=
  ⟨"http://testserver", "PUT", "/api/posts/post-1", "", some contentType, none, body⟩

theorem route_editPost (contentType name : String) (body : Bytes) :
    Endpoint.route (bearing name (editPost contentType body)).method
      (bearing name (editPost contentType body)).path = .found (.updatePost annPost.id) := by
  have hroute : Endpoint.route "PUT" "/api/posts/post-1" = .found (.updatePost annPost.id) := by
    rw [id_annPost]
    decide
  exact hroute

theorem called_ann (r : Request) :
    caller .default ⟨0⟩ (posted [annComment]) (bearing "ann" r) = .ok (ann ⟨0⟩) :=
  caller_bearing rfl _ (by decide)

/-- A post whose title is to be blank. -/
def blankTitle : Request :=
  bearing "ann" (editPost "application/json" (Bytes.ofText "\x7b\"title\": \" \"\x7d"))

/-- A token under the secret whose expiry is null. -/
def nullToken : String :=
  Token.sign Settings.default.secret (.obj [("sub", .str "ann"), ("exp", .null)])

theorem subject_nullToken : Token.subject Settings.default.secret ⟨0⟩ nullToken =
    .error (.noNumber (.notANumber "NoneType")) := by
  have exact : (Json.obj [("sub", .str "ann"), ("exp", .null)]).Exact := by
    have names : ["sub", "exp"].Nodup := by decide
    exact ⟨names, trivial, trivial, trivial⟩
  have shallow : (Json.obj [("sub", .str "ann"), ("exp", .null)]).depth ≤ Token.maxDepth := by
    show 1 ≤ Token.maxDepth
    decide
  rw [Token.subject, Token.accept, nullToken, Token.payload_sign _ exact shallow]
  rfl

/-- A request to take out the first post with that token. -/
def takeOut : Request :=
  ⟨"http://testserver", "DELETE", "/api/posts/post-1", "", none, some ("Bearer " ++ nullToken), []⟩

theorem route_takeOut :
    Endpoint.route takeOut.method takeOut.path = .found (.deletePost annPost.id) := by
  have hroute : Endpoint.route "DELETE" "/api/posts/post-1" = .found (.deletePost annPost.id) := by
    rw [id_annPost]
    decide
  exact hroute

theorem puzzling_takeOut : Puzzling .default ⟨0⟩ takeOut :=
  ⟨nullToken, _, Caller.token?_bearer fun c hc => Token.isBlankChar_of_mem_sign hc,
    subject_nullToken, fun same => by cases same⟩

/-- A post whose title is to be a number that is not finite. -/
def infiniteTitle : Request :=
  bearing "ann" (editPost "application/json" (Bytes.ofText "\x7b\"title\": 1e999\x7d"))

/-- An empty object in sixteen bits, of a type that is no JSON. -/
def wideObject : Request :=
  bearing "ann" (editPost "text/plain" [0xff, 0xfe, 0x7b, 0, 0x7d, 0])

theorem parsed_infiniteTitle : Submission.readJson infiniteTitle.body =
    .ok (.obj [("title", .float (.infinite false))]) := by
  have parsed : (Submission.readJson infiniteTitle.body).toOption =
      some (.obj [("title", .float (.infinite false))]) := by decide +kernel
  exact ok_of_toOption parsed

theorem unshowable_infiniteTitle : Unshowable infiniteTitle .postUpdate := by
  have full : ¬infiniteTitle.body.isEmpty = true := by decide
  have json : Submission.isJson infiniteTitle.contentType = true := by decide
  have read : Submission.read infiniteTitle =
      .ok (.value (.obj [("title", .float (.infinite false))])) := by
    unfold Submission.read
    rw [if_neg full, if_pos json, parsed_infiniteTitle]
    rfl
  left
  rw [submitted, read]
  exact ⟨_, rfl, by decide⟩

theorem parsed_wideObject : Submission.readJson wideObject.body = .ok (.obj []) := by
  have parsed : (Submission.readJson wideObject.body).toOption = some (.obj []) := by decide +kernel
  exact ok_of_toOption parsed

theorem unshowable_wideObject : Unshowable wideObject .postUpdate := by
  have full : ¬wideObject.body.isEmpty = true := by decide
  have plain : ¬Submission.isJson wideObject.contentType = true := by decide
  have undecoded : Bytes.toChars? false wideObject.body = none := by
    show Bytes.toChars? false [0xff, 0xfe, 0x7b, 0, 0x7d, 0] = none
    rw [Bytes.toChars?, Bytes.pieces]
    rfl
  have read : Submission.read wideObject = .ok (.bytes wideObject.body) := by
    unfold Submission.read
    rw [if_neg full, if_neg plain]
  right
  exact ⟨wideObject.body, by simp only [submitted, read, bind_ok, Submission.check, undecoded]⟩

/-- The first user is not told what is wrong with a body if it cannot be shown. -/
theorem status_unshowable {contentType : String} {body : Bytes} {v : Json}
    (parsed : Submission.readJson body = .ok v)
    (hidden : Unshowable (bearing "ann" (editPost contentType body)) .postUpdate) :
    statusOf (handle .default ⟨0⟩ (posted [annComment])
      (bearing "ann" (editPost contentType body))).2.1 = 500 := by
  have decided : Decides .default ⟨0⟩ (posted [annComment])
      (bearing "ann" (editPost contentType body)) (.updatePost annPost.id) :=
    decides_updatePost reachable_posted.sound (route_editPost contentType "ann" body)
      (readable_of_json (.inr ⟨v, parsed⟩))
  exact ((decided.of_called (called_ann _)).1 hidden).status

end Service

end Weblog
