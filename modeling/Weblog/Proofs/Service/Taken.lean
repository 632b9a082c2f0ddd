/-
  Taken names: whoever asks for a name or an address that is taken is told so, and no constraint of
  the tables is ever broken.

  Names are compared as they stand in the tables. An address is compared in its normal form, which
  is what the form of a registration gives.
-/
import Weblog.Proofs.Service.Bearer
import Weblog.Proofs.Service.Owned

namespace Weblog.Service

variable {settings : Settings} {now : Instant} {s : Store} {r : Request} {form : Form}
  {fs : Fields} {u : UserRow}

/-! ## Names of users -/

theorem register_named {f : Users.Registration}
    (taken : f.username ∈ s.tables.users.map (·.username)) :
    Users.register s now f = refuse .usernameTaken := by
  simp only [Users.register]
  rw [if_pos (Tables.isSome_userNamed?.mpr taken)]
  rfl

theorem register_mailed {f : Users.Registration}
    (free : f.username ∉ s.tables.users.map (·.username))
    (taken : f.email ∈ s.tables.users.map (·.email)) :
    Users.register s now f = refuse .emailTaken := by
  simp only [Users.register]
  rw [if_neg fun named => free (Tables.isSome_userNamed?.mp named), if_pos (Tables.isSome_userMailed?.mpr taken)]
  rfl

/-! ## Names of tags -/

theorem createTag_named {name : String} (taken : name ∈ s.tables.tags.map (·.name))
    (description : Option String) :
    Tags.create s now u name description = refuse .tagNameTaken := by
  simp only [Tags.create, Tags.checkFree]
  rw [if_pos (Tables.isSome_tagNamed?.mpr taken)]
  rfl

/-! ## Requests -/

/-- In every store that visits lead to, names and addresses of users and names of tags are distinct,
and the next request does not end in a broken constraint, whatever it asks for:

1. a registration with a name or an address that is taken is refused, and so is
2. a new tag with a name that is taken, and
3. a tag that its owner renames to the name of another tag; whoever does not own the tag is told
   that instead. -/
theorem taken_refused (reach : Reachable settings s) (now : Instant) (r : Request) :
    s.tables.Unique ∧
    (∀ c, (handle settings now s r).2.1 ≠ .error (.constraint c)) ∧
    (Endpoint.route r.method r.path = .found .register →
      ∀ fs, submitted .userCreate r = .ok fs →
        (fs.text "username" ∈ s.tables.users.map (·.username) →
          Refuses settings now s r 400 .usernameTaken) ∧
        (fs.text "username" ∉ s.tables.users.map (·.username) →
          fs.text "email" ∈ s.tables.users.map (·.email) →
          Refuses settings now s r 400 .emailTaken)) ∧
    (Endpoint.route r.method r.path = .found .createTag →
      ∀ u fs, caller settings now s r = .ok u → submitted .tagCreate r = .ok fs →
        fs.text "name" ∈ s.tables.tags.map (·.name) →
        Refuses settings now s r 400 .tagNameTaken) ∧
    (∀ g ∈ s.tables.tags, Endpoint.route r.method r.path = .found (.updateTag g.id) →
      ∀ u fs, caller settings now s r = .ok u → submitted .tagUpdate r = .ok fs →
        (g.userId ≠ u.id → Refuses settings now s r 403 .notOwner) ∧
        (g.userId = u.id → (∃ h ∈ s.tables.tags, h.id ≠ g.id ∧ fs.text? "name" = some h.name) →
          Refuses settings now s r 400 .tagNameTaken)) := by
  have hs := reach.sound
  have unique := reach.unique
  refine ⟨unique, fun c hc => ?_, fun hroute fs form => ⟨fun taken => ⟨rfl, ?_⟩,
    fun free taken => ⟨rfl, ?_⟩⟩, fun hroute u fs called form taken => ⟨rfl, ?_⟩,
    fun g hg hroute u fs called form => ⟨fun others => ⟨rfl, ?_⟩, fun own taken => ⟨rfl, ?_⟩⟩⟩
  · cases handle_sane hs unique now r hc
  · refine fails_of_run hroute ((withForm_of_submitted form).trans ?_)
    exact register_named taken
  · refine fails_of_run hroute ((withForm_of_submitted form).trans ?_)
    exact register_mailed free taken
  · refine fails_of_run hroute ((withBoth_of_submitted called form).trans ?_)
    exact createTag_named taken _
  · refine fails_of_run hroute ((withBoth_of_submitted called form).trans ?_)
    exact Tags.update_notOwner (hs.tags.find?_of_mem hg) others _
  · obtain ⟨h, hh, other, given⟩ := taken
    refine fails_of_run hroute ((withBoth_of_submitted called form).trans ?_)
    have renamed : (Tags.Edit.ofFields fs).newName? g = some h.name :=
      Tags.newName?_of_other hs unique hg hh other given
    have named : (s.tables.tagNamed? h.name).isSome = true :=
      Tables.isSome_tagNamed?.mpr (List.mem_map_of_mem hh)
    exact Tags.update_taken (hs.tags.find?_of_mem hg) own renamed named

/-! ## Two users -/

/-- The second user, registered after the first. -/
def signUpBob : Request :=
  send "POST" "/api/users/register" (.obj (newcomer "bob" "bob@example.com"))

def bob : UserRow := newcomerRow (Kind.user.identifier 2) "bob" "bob@example.com" ⟨0⟩

/-- The store with two users and tags of the first one. -/
def tagged (tags : List TagRow) : Store :=
  ⟨{ Tables.empty with users := [ann ⟨0⟩, bob], tags := tags }, ⟨2, 0, 0, tags.length⟩, false⟩

/-- A tag of the first user. -/
def tagOfAnn (number : Nat) (name : String) : TagRow :=
  ⟨Kind.tag.identifier number, name, none, (ann ⟨0⟩).id, ⟨0⟩, ⟨0⟩⟩

def twoTags : Store := tagged [tagOfAnn 1 "red", tagOfAnn 2 "blue"]

/-- A request of the first user to write a tag. -/
def newTag (name : String) : Request :=
  bearing "ann" (send "POST" "/api/tags" (.obj [("name", .str name)]))

theorem normalForm_bob : Email.normalForm bob.email = .ok bob.email := by
  have written : "bob@example.com".toList = Email.join "bob".toList
      ("example".toList ++ '.' :: "com".toList) := by decide
  exact normalForm_example written (by decide) (List.all_eq_true.mp (by decide)) (by decide)

theorem visit_signUpBob : visit .default (signedUp false ⟨0⟩) ⟨⟨0⟩, signUpBob⟩ = tagged [] := by
  have hroute : Endpoint.route signUpBob.method signUpBob.path = .found .register := by
    decide
  have hread : Submission.read signUpBob = .ok (.value (.obj (newcomer "bob" "bob@example.com"))) :=
    read_send ⟨by decide, trivial, trivial, trivial, trivial⟩ (by decide)
  have normal : Email.normalForm "bob@example.com" = .ok "bob@example.com" := normalForm_bob
  have sound := (reachable_signedUp .default false ⟨0⟩).sound
  rw [visit_newcomer sound hroute hread (by decide) normal (by decide) (by decide)]
  rfl

/-- The first user writes a tag. -/
theorem visit_newTag {name : String} {tags : List TagRow} (hs : Reachable .default (tagged tags))
    (form : submitted .tagCreate (newTag name) = .ok [("name", .str name), ("description", .null)])
    (free : (tagged tags).tables.tagNamed? name = none) (named : Text.isBlank name = false) :
    visit .default (tagged tags) ⟨⟨0⟩, newTag name⟩ =
      tagged (tags ++ [tagOfAnn (tags.length + 1) name]) := by
  have hroute : Endpoint.route "POST" "/api/tags" = .found .createTag := by decide
  have known : (tagged tags).tables.userNamed? "ann" = some (ann ⟨0⟩) := rfl
  have called : caller .default ⟨0⟩ (tagged tags) (newTag name) = .ok (ann ⟨0⟩) :=
    caller_bearing known _ (by decide)
  rw [visit_mk, handle_createTag hs.sound hroute called form free named]
  simp only [tagged, List.length_append]
  rfl

theorem reachable_twoTags : Reachable .default twoTags := by
  have none : Reachable .default (tagged []) :=
    visit_signUpBob ▸ (reachable_signedUp .default false ⟨0⟩).visit ⟨⟨0⟩, signUpBob⟩
  have red : (submitted .tagCreate (newTag "red")).toOption =
      some [("name", .str "red"), ("description", .null)] := by decide +kernel
  have blue : (submitted .tagCreate (newTag "blue")).toOption =
      some [("name", .str "blue"), ("description", .null)] := by decide +kernel
  have one := none.visit ⟨⟨0⟩, newTag "red"⟩
  rw [visit_newTag none (ok_of_toOption red) rfl (by decide)] at one
  have two := one.visit ⟨⟨0⟩, newTag "blue"⟩
  rw [visit_newTag one (ok_of_toOption blue) (by decide) (by decide)] at two
  exact two

/-- A request to give the first tag the name of the second. -/
def renameFirst : Request := send "PUT" "/api/tags/tag-1" (.obj [("name", .str "blue")])

theorem route_renameFirst : Endpoint.route renameFirst.method renameFirst.path =
    .found (.updateTag (tagOfAnn 1 "red").id) := by
  decide +kernel

theorem submitted_renameFirst (name : String) : submitted .tagUpdate (bearing name renameFirst) =
    .ok [("name", .str "blue"), ("description", .null)] := by
  have filled : (submitted .tagUpdate renameFirst).toOption =
      some [("name", .str "blue"), ("description", .null)] := by decide +kernel
  exact ok_of_toOption filled

/-- The owner of two tags cannot give one the name of the other. -/
theorem taken_by_ann : Refuses .default ⟨0⟩ twoTags (bearing "ann" renameFirst) 400 .tagNameTaken := by
  have called : caller .default ⟨0⟩ twoTags (bearing "ann" renameFirst) = .ok (ann ⟨0⟩) :=
    caller_bearing rfl _ (by decide)
  have other : (tagOfAnn 2 "blue").id ≠ (tagOfAnn 1 "red").id := by decide +kernel
  obtain ⟨-, -, -, -, renamed⟩ := taken_refused reachable_twoTags ⟨0⟩ (bearing "ann" renameFirst)
  exact (renamed (tagOfAnn 1 "red") List.mem_cons_self route_renameFirst (ann ⟨0⟩) _ called
    (submitted_renameFirst "ann")).2 rfl
    ⟨tagOfAnn 2 "blue", List.mem_cons_of_mem _ List.mem_cons_self, other, rfl⟩

/-- Whoever does not own a tag is not told that a name is taken, but that the tag is not his. -/
theorem rename_by_other :
    Reachable .default twoTags ∧ twoTags.tables.tags = [tagOfAnn 1 "red", tagOfAnn 2 "blue"] ∧
      Endpoint.route (bearing "bob" renameFirst).method (bearing "bob" renameFirst).path =
        .found (.updateTag (tagOfAnn 1 "red").id) ∧
      caller .default ⟨0⟩ twoTags (bearing "bob" renameFirst) = .ok bob ∧
      submitted .tagUpdate (bearing "bob" renameFirst) =
        .ok [("name", .str (tagOfAnn 2 "blue").name), ("description", .null)] ∧
      Refuses .default ⟨0⟩ twoTags (bearing "bob" renameFirst) 403 .notOwner := by
  have called : caller .default ⟨0⟩ twoTags (bearing "bob" renameFirst) = .ok bob :=
    caller_bearing rfl _ (by decide)
  have others : (tagOfAnn 1 "red").userId ≠ bob.id := by decide +kernel
  have filled := submitted_renameFirst "bob"
  refine ⟨reachable_twoTags, rfl, route_renameFirst, called, filled, rfl, ?_⟩
  refine fails_of_run route_renameFirst ((withBoth_of_submitted called filled).trans ?_)
  exact Tags.update_notOwner (reachable_twoTags.sound.tags.find?_of_mem List.mem_cons_self) others _

end Weblog.Service
