/-
  Adding and relating keep entities in good order: they change how entities stand and what is on
  both sides of relations, but no values.
-/
import Weblog.Proofs.Session.Reading
import Weblog.Session.Relating

namespace Weblog

open Session (Holding Closed)

namespace Entity

variable {e : Entity}

theorem exists_opened (e : Entity) (rel : Relation) :
    ∃ ms, e.opened rel = { e with members := ms } := by
  unfold opened
  split
  · exact ⟨e.members, rfl⟩
  · split
    · exact ⟨_, rfl⟩
    · exact ⟨e.members, rfl⟩

/-- A change on the sides of relations only, which may touch the entity. -/
def Related (e e' : Entity) : Prop :=
  ∃ owners formerOwners members nulls isTouched isExpired, (e.isTouched = true → isTouched = true) ∧
    e' = { e with owners, formerOwners, members, nulls, isTouched, isExpired }

theorem related_of_same {e' : Entity} (touched : e.isTouched = true → e'.isTouched = true)
    (same : e' = { e with
      owners := e'.owners
      formerOwners := e'.formerOwners
      members := e'.members
      nulls := e'.nulls
      isTouched := e'.isTouched
      isExpired := e'.isExpired }) : e.Related e' :=
  ⟨e'.owners, e'.formerOwners, e'.members, e'.nulls, e'.isTouched, e'.isExpired, touched, same⟩

theorem Related.refl (e : Entity) : e.Related e := related_of_same id rfl

theorem Related.trans {e' e'' : Entity} (h : e.Related e') (h' : e'.Related e'') : e.Related e'' := by
  obtain ⟨_, _, _, _, _, _, touched, rfl⟩ := h
  obtain ⟨_, _, _, _, _, _, touched', rfl⟩ := h'
  exact related_of_same (touched' ∘ touched) rfl

theorem Related.steady {e' : Entity} (h : e.Related e') : Steady e e' := by
  obtain ⟨_, _, _, _, _, _, touched, rfl⟩ := h
  exact .of_same rfl rfl rfl rfl touched id id rfl rfl rfl

theorem related_opened (e : Entity) (rel : Relation) : e.Related (e.opened rel) := by
  obtain ⟨ms, h⟩ := e.exists_opened rel
  rw [h]
  exact related_of_same id rfl

theorem related_gain (e : Entity) (rel : Relation) (r : Ref) : e.Related (e.gain rel r) :=
  (e.related_opened rel).trans (related_of_same (fun _ => rfl) rfl)

theorem related_lose (e : Entity) (rel : Relation) (r : Ref) : e.Related (e.lose rel r) :=
  (e.related_opened rel).trans (related_of_same (fun _ => rfl) rfl)

/-- The entity with one more member in a relation of which the members are known. -/
def gaining (rel : Relation) (c : Ref) (e : Entity) : Entity :=
  match e.membersOf rel with
  | .read current former => e.setMembers rel (.read (current ++ [c]) former)
  | .unread .. => e

theorem related_gaining (e : Entity) (rel : Relation) (c : Ref) : e.Related (gaining rel c e) := by
  unfold gaining
  split
  · exact related_of_same id rfl
  · exact .refl e

theorem related_assignOwner (e : Entity) (rel : Relation) (old : Former (Option Ref))
    (o : Option Ref) : e.Related (e.assignOwner rel old o) :=
  related_of_same (fun _ => rfl) rfl

theorem related_emptied (e : Entity) (rel : Relation) (old : List Ref) :
    e.Related (Session.Work.emptied rel old e) :=
  related_of_same (fun _ => rfl) rfl

end Entity

namespace Session

/-- The tables are filled, and all entities are in good order. -/
def IsOrderly : Session → Prop := Holding True 0 fun _ => Entity.Orderly

theorem closed_orderly : Closed Entity.Steady 0 fun _ => Entity.Orderly :=
  ⟨fun he h => h.orderly he, fun _ hrow => (Entity.orderly_ofRow hrow).1⟩

namespace Work

variable {r : Ref} {rel : Relation} {f : Entity → Entity}

theorem keeps_change (hf : ∀ e : Entity, e.Orderly → (f e).Orderly) :
    Keeps IsOrderly (alter r f) fun _ => True :=
  Keeps.alter fun _ hs => hs.modifyEntity fun hC e he => hf e (hs.entity he hC)

/-! ## Adding -/

/-- Entities are in good order, and one of them has a property. -/
def Having (S : Entity → Prop) (r q : Ref) (e : Entity) : Prop := e.Orderly ∧ (q = r → S e)

variable {S : Entity → Prop}

theorem keeps_having (hf : ∀ e : Entity, e.Orderly → S e → (f e).Orderly)
    (hS : ∀ e, S e → S (f e)) :
    Keeps (Holding True 0 (Having S r)) (alter r f) fun _ => True :=
  Keeps.alter fun _ hs => hs.modifyEntity fun hC e he => by
    obtain ⟨orderly, h⟩ := hs.entity he hC
    exact ⟨hf e orderly (h rfl), fun same => hS e (h same)⟩

/-- Work on an entity that has a property. -/
theorem of_having {s : Session} {e : Entity} {m : Work Unit} (hs : s.IsOrderly)
    (he : s.entity? r = some e) (h : S e)
    (hm : Keeps (Holding True 0 (Having S r)) m fun _ => True) :
    Triple (· = s) m (fun _ s => IsOrderly s ∧ True) fun e s => IsOrderly s ∧ e.isInvalid = false := by
  have left : ∀ s, Holding True 0 (Having S r) s → IsOrderly s :=
    fun s h => h.mono (fun _ => Nat.le_refl 0) fun _ _ _ => And.left
  refine Triple.weaken hm ?_ (fun _ s h => ⟨left s h.1, trivial⟩) fun _ s h => ⟨left s h.1, h.2⟩
  rintro _ rfl hC
  obtain ⟨tables, committed, enough, entities⟩ := hs hC
  refine ⟨tables, committed, enough, fun q e' he' => ⟨entities q e' he', ?_⟩⟩
  rintro rfl
  exact Option.some.inj (he.symm.trans he') ▸ h

theorem keeps_enlist (r : Ref) : Keeps IsOrderly (enlist r) fun _ => True := by
  refine Triple.look (fun s hs _ => ⟨hs, rfl⟩) fun s e hs he => ?_
  split
  · refine Triple.weaken (P := IsOrderly) ?_ (fun _ h => h ▸ hs) (fun _ _ h => h) fun _ _ h => h
    refine Keeps.bind Keeps.get fun _ _ => ?_
    refine Keeps.ite (fun _ => ?_) fun _ => Keeps.pure trivial
    exact keeps_change fun e he => he.restand rfl rfl rfl rfl rfl id he.keyed
  · rename_i key hkey
    refine of_having (S := fun e => e.key?.isSome = true) hs he (by rw [hkey]; rfl) ?_
    refine Keeps.guard rfl fun _ => ?_
    refine Keeps.bind (keeps_having (fun e he _ => ?_) fun _ => id) fun _ _ => ?_
    · exact he.restand rfl rfl rfl rfl rfl id he.keyed
    have attached : Keeps (Holding True 0 (Having (fun e => e.key?.isSome = true) r))
        (alter r fun e => { e with isAttached := true }) fun _ => True :=
      keeps_having (fun e he _ => he.restand rfl rfl rfl rfl rfl id he.keyed) fun _ => id
    refine Keeps.bind Keeps.get fun _ _ => ?_
    split
    · exact Keeps.guard rfl fun _ => attached
    · refine Keeps.bind (keeps_having (fun e he keyed => ?_) fun _ => id) fun _ _ => attached
      exact he.restand rfl rfl rfl rfl rfl id fun _ => keyed

/-! ## Relating -/

theorem keeps_otherSide {I : Session → Prop} (r : Ref) (rel : Relation) (c : Ref) :
    Keeps I (otherSide r rel c) fun _ => True := by
  refine Keeps.bind (keeps_look r) fun _ _ => Keeps.bind (keeps_look c) fun _ _ => ?_
  refine Keeps.ite (fun _ => Keeps.pure trivial) fun _ => ?_
  exact Keeps.ite (fun _ => Keeps.throw rfl) fun _ => Keeps.throw rfl

/-- A property of sessions that is kept when entities are related: when they are read with their
members, when relations are changed on one side, and when an entity is put into the session. -/
structure KeptByRelating (I : Session → Prop) : Prop extends KeptByReading I where
  members : ∀ r rel, Keeps I (members r rel) fun _ => True
  relate : ∀ r f, (∀ e, Entity.Related e (f e)) → Keeps I (alter r f) fun _ => True
  enlist : ∀ r, Keeps I (enlist r) fun _ => True

namespace KeptByRelating

variable {I : Session → Prop} (h : KeptByRelating I)

include h

theorem bring (n : Nat) (r : Ref) (seen : List Ref) : Keeps I (bring n r seen) fun _ => True := by
  induction n generalizing r seen with
  | zero => exact Keeps.pure trivial
  | succ n ih =>
    refine Keeps.bind (keeps_look r) fun e _ => ?_
    refine Keeps.foldlM trivial fun rel _ seen _ => ?_
    refine Keeps.bind (Q := fun _ => True) ?_ fun next _ => ?_
    · exact Keeps.bind (keeps_look r) fun _ _ => Keeps.bind Keeps.get fun _ _ => Keeps.pure trivial
    · refine Keeps.foldlM trivial fun c _ seen _ => ?_
      exact Keeps.bind (h.enlist c) fun _ _ => ih c seen

theorem add (r : Ref) : Keeps I (add r) fun _ => True :=
  Keeps.bind (h.enlist r) fun _ _ => Keeps.bind Keeps.get fun _ _ =>
    Keeps.bind (h.bring _ r []) fun _ _ => Keeps.pure trivial

theorem follow (r c : Ref) : Keeps I (follow r c) fun _ => True :=
  Keeps.bind (keeps_look r) fun _ _ => Keeps.bind Keeps.get fun _ _ =>
    Keeps.ite (fun _ => h.add c) fun _ => Keeps.pure trivial

/-! ### The other side -/

theorem attach (r : Ref) (rel : Relation) (c : Ref) : Keeps I (attach r rel c) fun _ => True := by
  refine Keeps.bind (keeps_otherSide r rel c) fun back _ => ?_
  refine Keeps.ite (fun _ => h.relate c _ fun e => e.related_gain back r) fun _ => ?_
  refine Keeps.bind (h.glanceOwner c back) fun old _ => ?_
  have named : Keeps I (alter c fun e => e.assignOwner back (formerOwner old) (some r))
      fun _ => True := h.relate c _ fun e => e.related_assignOwner back _ _
  split
  · refine Keeps.ite (fun _ => ?_) fun _ => named
    exact Keeps.bind (h.relate _ _ fun e => e.related_lose rel c) fun _ _ => named
  · exact named

theorem detach (r : Ref) (rel : Relation) (c : Ref) : Keeps I (detach r rel c) fun _ => True := by
  refine Keeps.bind (keeps_otherSide r rel c) fun back _ => ?_
  refine Keeps.ite (fun _ => h.relate c _ fun e => e.related_lose back r) fun _ => ?_
  refine Keeps.bind (h.glanceOwner c back) fun old _ => ?_
  refine Keeps.ite (fun _ => ?_) fun _ => Keeps.pure trivial
  exact h.relate c _ fun e => e.related_assignOwner back _ _

/-! ### Both sides -/

theorem append (r : Ref) (rel : Relation) (c : Ref) : Keeps I (append r rel c) fun _ => True :=
  Keeps.bind (h.members r rel) fun _ _ =>
    Keeps.bind (h.relate r _ fun e => e.related_opened rel) fun _ _ =>
    Keeps.bind (h.follow r c) fun _ _ => Keeps.bind (h.attach r rel c) fun _ _ =>
    h.relate r _ fun e => e.related_gain rel c

theorem discard (r : Ref) (rel : Relation) (c : Ref) : Keeps I (discard r rel c) fun _ => True := by
  refine Keeps.bind (h.members r rel) fun ms _ => ?_
  refine Keeps.bind (keeps_otherSide r rel c) fun back _ => ?_
  have lost : Keeps I (do
      alter r fun e => e.lose rel c
      if !ms.contains c then throw .notMember) fun _ => True :=
    Keeps.bind (h.relate r _ fun e => e.related_lose rel c) fun _ _ =>
      Keeps.ite (fun _ => Keeps.throw rfl) fun _ => Keeps.pure trivial
  refine Keeps.ite (fun _ => ?_) fun _ => lost
  exact Keeps.bind (h.detach r rel c) fun _ _ => lost

theorem install (r : Ref) (rel : Relation) (old : List Ref) (c : Ref) :
    Keeps I (install r rel old c) fun _ => True := by
  have put : Keeps I (alter r (Entity.gaining rel c)) fun _ => True :=
    h.relate r _ fun e => e.related_gaining rel c
  refine Keeps.ite (fun _ => ?_) fun _ => put
  exact Keeps.bind (h.follow r c) fun _ _ => Keeps.bind (h.attach r rel c) fun _ _ => put

theorem setMembers (r : Ref) (rel : Relation) (ms : List Ref) :
    Keeps I (setMembers r rel ms) fun _ => True :=
  Keeps.bind (h.members r rel) fun old _ =>
    Keeps.bind (h.relate r _ fun e => e.related_emptied rel old) fun _ _ =>
    Keeps.bind (Keeps.forM fun c _ => h.install r rel old c) fun _ _ =>
    Keeps.forM fun c _ => h.detach r rel c

theorem setNulls (r : Ref) (rel : Relation) (n : Nat) :
    Keeps I (setNulls r rel n) fun _ => True :=
  Keeps.bind (h.members r rel) fun old _ =>
    Keeps.bind (h.relate r _ fun e => e.related_emptied rel old) fun _ _ =>
    Keeps.bind (h.relate r _ fun _ => Entity.related_of_same id rfl) fun _ _ => Keeps.pure trivial

theorem relateTo (r : Ref) (rel : Relation) (o : Option Ref) :
    Keeps I (Work.setOwner r rel o) fun _ => True := by
  refine Keeps.bind (keeps_look r) fun _ _ => ?_
  refine Keeps.bind (h.glanceOwner r rel) fun old _ => ?_
  have named : Keeps I (alter r fun e => e.assignOwner rel (formerOwner old) o) fun _ => True :=
    h.relate r _ fun e => e.related_assignOwner rel _ _
  refine Keeps.ite (fun _ => ?_) fun _ => named
  refine Keeps.bind (Keeps.optionForM fun p _ => h.follow r p) fun _ _ => ?_
  have gained : Keeps I (do
      o.forM fun p => do
        let back ← otherSide r rel p
        alter p fun e => e.gain back r
      alter r fun e => e.assignOwner rel (formerOwner old) o) fun _ => True := by
    refine Keeps.bind (Keeps.optionForM fun p _ => ?_) fun _ _ => named
    exact Keeps.bind (keeps_otherSide r rel p) fun back _ =>
      h.relate p _ fun e => e.related_gain back r
  split
  · exact Keeps.bind (h.relate _ _ fun e => e.related_lose _ r) fun _ _ => gained
  · exact gained

end KeptByRelating

theorem keptByRelating_orderly : KeptByRelating IsOrderly where
  toKeptByReading := keptByReading closed_orderly.calm.still
  members := keeps_members closed_orderly.calm
  relate := fun _ _ hf =>
    Keeps.alter fun _ hs => hs.step closed_orderly fun _ e _ => (hf e).steady
  enlist := keeps_enlist

end Work

end Session

end Weblog
