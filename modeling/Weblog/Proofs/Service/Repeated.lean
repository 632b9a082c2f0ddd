/-
  Changes that are sent twice: a request that changed a row finds it as it left it, and changes it
  into itself.

  There is one lemma for each kind of row. The time of the second request plays no part, since what
  is written the second time does not differ from what is there; and neither does the caller, except
  where a user changes his own record.
-/
import Weblog.Proofs.Service.Changed

namespace Weblog

variable {settings : Settings} {now later : Instant} {s : Store} {u v : UserRow} {d d' : Done}
  {r : Request} {e : Endpoint} {id postId : String}

/-! ## Posts -/

namespace Posts

variable {f : Edit} {p : PostRow}

/-- A post that was changed is changed into itself. -/
theorem write_again (now later : Instant) (f : Edit) (p : PostRow) :
    f.write later (f.write now p p) (f.write now p p) = f.write now p p := by
  refine write_eq_self ?_ ?_
  · rw [Edit.titleOf, Service.write_title, Edit.titleOf, ← Option.or_assoc, Option.or_self]
  · rw [Edit.bodyOf, Service.write_body, Edit.bodyOf, ← Option.or_assoc, Option.or_self]

/-- A change that was made is made again without a change. -/
theorem applied_again (now later : Instant) (f : Edit) (p : PostRow) (t : Tables) :
    f.applied later (f.write now p p) (f.applied now p t) = f.applied now p t := by
  unfold Edit.applied
  cases f.isTouching with
  | false => rfl
  | true =>
    simp only [if_true, write_again]
    exact Tables.rewritePost_again _ _

theorem update_again (first : update s now u id f = .ok d)
    (second : update d.store later v id f = .ok d') : d' = d := by
  obtain ⟨p, found, -, rfl⟩ := update_ok first
  obtain ⟨q, refound, -, rfl⟩ := update_ok second
  obtain rfl : p.id = id := Tables.post?_id found
  obtain rfl := Option.some.inj (refound.symm.trans (post?_applied found))
  simp only [Done.changed, Store.change, applied_again, write_again]

end Posts

/-! ## Comments -/

/-- A comment that was changed is changed into itself. -/
theorem Comments.revised_again (now later : Instant) (c : CommentRow) (body : String) :
    revised later (revised now c body) body = revised now c body := by
  simp [revised]

theorem Comments.update_again {body : String} (first : update s now u postId id body = .ok d)
    (second : update d.store later v postId id body = .ok d') : d' = d := by
  obtain ⟨-, c, -, found, -, rfl⟩ := update_ok first
  obtain ⟨-, c', -, refound, -, rfl⟩ := update_ok second
  have found := orRefuse_eq_ok.mp found
  have same := List.find?_some found
  have there : (s.tables.setComment c.id (revised now c body)).comments.find?
      (fun c => c.id = id && c.postId = postId) = some (revised now c body) :=
    find?_put CommentRow.id found rfl same
  obtain rfl := Option.some.inj ((orRefuse_eq_ok.mp refound).symm.trans there)
  have own : (revised now c body).id = c.id := rfl
  simp only [Done.changed, Store.change, revised_again, Tables.setComment_again own]

/-! ## Tags -/

namespace Tags

variable {f : Edit} {g : TagRow}

/-- A tag that has what is given is left alone, whatever the time. -/
theorem apply_eq_self (name : f.newName? g = none)
    (description : f.description.or g.description = g.description) : f.apply now g = g := by
  simp only [Edit.apply, name, description, Option.getD_none, if_true, and_self]

/-- The name that is given is no new name to a tag that was changed. -/
theorem newName?_apply (f : Edit) (now : Instant) (g : TagRow) :
    f.newName? (f.apply now g) = none := by
  cases new : f.newName? g with
  | none =>
    have name : (f.apply now g).name = g.name := by rw [Edit.apply, new, Option.getD_none]
    rw [Edit.newName?, name]
    exact new
  | some n =>
    have given : f.name = some n := Option.eq_some_of_filter_eq_some new
    have name : (f.apply now g).name = n := by rw [Edit.apply, new, Option.getD_some]
    rw [Edit.newName?, given, name]
    simp

/-- A tag that was changed is changed into itself. -/
theorem apply_again (now later : Instant) (f : Edit) (g : TagRow) :
    f.apply later (f.apply now g) = f.apply now g := by
  refine apply_eq_self (newName?_apply f now g) ?_
  rw [Edit.apply, ← Option.or_assoc, Option.or_self]

theorem update_again (first : update s now u id f = .ok d)
    (second : update d.store later v id f = .ok d') : d' = d := by
  obtain ⟨g, found, -, rfl⟩ := update_ok first
  obtain ⟨g', refound, -, rfl⟩ := update_ok second
  have same := List.find?_some found
  have there : (s.tables.setTag g.id (f.apply now g)).tag? id = some (f.apply now g) :=
    find?_put TagRow.id found rfl same
  obtain rfl := Option.some.inj (refound.symm.trans there)
  have own : (f.apply now g).id = g.id := rfl
  simp only [Done.changed, Store.change, apply_again, Tables.setTag_again own]

end Tags

/-! ## Users -/

/-- Whenever a token is accepted, it is for the same subject. -/
theorem Token.subject_unique {secret token name other : String}
    (h : subject secret now token = .ok name) (h' : subject secret later token = .ok other) :
    other = name := by
  unfold subject accept at h h'
  cases signed : payload secret token with
  | error refusal =>
    rw [signed] at h
    cases h
  | ok claims =>
    simp only [signed, bind_eq_ok, map_eq_ok] at h h'
    obtain ⟨_, ⟨-, -, rfl⟩, h⟩ := h
    obtain ⟨_, ⟨-, -, rfl⟩, h'⟩ := h'
    exact Except.ok.inj (h'.symm.trans (h ▸ rfl))

namespace Service

/-- The caller is the user whom the token of the request names. -/
theorem named_of_caller (h : caller settings now s r = .ok u) : ∃ token name,
    Caller.token? r.authorization = some token ∧ Token.subject settings.secret now token = .ok name ∧
      s.tables.userNamed? name = some u := by
  unfold caller Caller.ofHeader at h
  split at h
  · cases h
  · rename_i token presented
    unfold Caller.ofToken at h
    split at h
    · cases h
    · rename_i name subject
      exact ⟨token, name, presented, subject, orRefuse_eq_ok.mp h⟩

/-- A request is made under the same name before and after a change, whatever the time. -/
theorem same_name {t : Store} (h : caller settings now s r = .ok u)
    (h' : caller settings later t r = .ok v) :
    ∃ name, s.tables.userNamed? name = some u ∧ t.tables.userNamed? name = some v := by
  obtain ⟨token, name, presented, subject, found⟩ := named_of_caller h
  obtain ⟨token', name', presented', subject', found'⟩ := named_of_caller h'
  obtain rfl := Option.some.inj (presented.symm.trans presented')
  obtain rfl := Token.subject_unique subject subject'
  exact ⟨name', found, found'⟩

end Service

/-- Whoever is found under the caller's name after the change makes the change again. -/
theorem Users.update_again {name : String} (bio : Option String)
    (found : s.tables.userNamed? name = some u)
    (refound : (update s u bio).store.tables.userNamed? name = some v) :
    update (update s u bio).store v bio = update s u bio := by
  cases bio with
  | none =>
    obtain rfl : u = v := Option.some.inj (found.symm.trans refound)
    rfl
  | some b =>
    have same := List.find?_some found
    have there : (s.tables.setUser u.id { u with bio := some b }).userNamed? name =
        some { u with bio := some b } := find?_put UserRow.id found rfl same
    obtain rfl := Option.some.inj (refound.symm.trans there)
    exact congrArg (fun t => Done.changed { s with tables := t } (.user { u with bio := some b }) [])
      (Tables.setUser_again rfl)

/-! ## Requests -/

namespace Service

/-- A change that succeeds twice comes to the same both times. -/
theorem run_again (put : e.method = "PUT") (first : run settings now s r e = .ok d)
    (second : run settings later d.store r e = .ok d') : d' = d := by
  have again : ∀ {form : Form} {act act' : UserRow → Fields → Except Failure Done},
      withBoth settings now s form r act = .ok d →
      withBoth settings later d.store form r act' = .ok d' →
      (∀ u v fs, act u fs = .ok d → act' v fs = .ok d' → d' = d) → d' = d := by
    intro form act act' h h' same
    obtain ⟨u, fs, -, filled, h⟩ := withBoth_ok h
    obtain ⟨v, fs', -, filled', h'⟩ := withBoth_ok h'
    obtain rfl := Except.ok.inj (filled.symm.trans filled')
    exact same u v fs h h'
  cases e with
  | updateMe =>
    simp only [run, bind_eq_ok, Except.ok.injEq] at first second
    obtain ⟨b, hread, u, hu, fs, hcheck, rfl⟩ := first
    obtain ⟨b', hread', v, hv, fs', hcheck', rfl⟩ := second
    obtain rfl := Except.ok.inj (hread.symm.trans hread')
    obtain rfl := Except.ok.inj (hcheck.symm.trans hcheck')
    obtain ⟨name, found, refound⟩ := same_name (activeCaller_ok hu) (activeCaller_ok hv)
    exact Users.update_again _ found refound
  | updatePost id => exact again first second fun _ _ _ => Posts.update_again
  | updateComment postId id => exact again first second fun _ _ _ => Comments.update_again
  | updateTag id => exact again first second fun _ _ _ => Tags.update_again
  | _ => simp [Endpoint.method] at put

/-- A change that is answered with success and is sent once more, at whatever time, leaves the store
as it was left, the times of changes included; and if it is answered with success again, then with
the same answer. -/
theorem put_again_unchanged (settings : Settings) (s : Store) (now later : Instant) (r : Request)
    (put : r.method = "PUT") (done : statusOf (handle settings now s r).2.1 = 200) :
    let left := (handle settings now s r).1
    (handle settings later left r).1 = left ∧
      (statusOf (handle settings later left r).2.1 = 200 →
        (handle settings later left r).2.1 = (handle settings now s r).2.1) := by
  obtain ⟨e, d, hroute, hrun⟩ := exists_run (by rw [done]; decide)
  have method : e.method = "PUT" := (Endpoint.method_of_route hroute).trans put
  have left : (handle settings now s r).1 = d.store := (handle_of_run hroute hrun).1
  have again : ∀ d', run settings later d.store r e = .ok d' → d' = d := fun d' =>
    run_again method hrun
  simp only [left]
  cases rerun : run settings later d.store r e with
  | error f =>
    simp only [handle, respond, hroute, rerun, statusOf_observe, true_and]
    intro success
    have failed := statusOf_failure f
    omega
  | ok d' =>
    obtain rfl := again d' rerun
    exact ⟨(handle_of_run hroute rerun).1, fun _ =>
      (outcome_of_run hroute rerun).trans (outcome_of_run hroute hrun).symm⟩

/-- The title and the tags of a post are given to it again, five seconds later. -/
theorem retag_again_unchanged :
    statusOf (handle .default ⟨4⟩ blogged (retag ["tag-2"])).2.1 = 200 ∧
      let left := (handle .default ⟨4⟩ blogged (retag ["tag-2"])).1
      (handle .default ⟨5000004⟩ left (retag ["tag-2"])).1 = left := by
  have done : statusOf (handle .default ⟨4⟩ blogged (retag ["tag-2"])).2.1 = 200 :=
    done_retag [tagOfAnn 2 "blue"] (by decide +kernel) (by decide +kernel)
  exact ⟨done, (put_again_unchanged .default blogged ⟨4⟩ ⟨5000004⟩ (retag ["tag-2"]) rfl done).1⟩

end Service

end Weblog
