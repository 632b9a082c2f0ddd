/-
  What pieces of work keep. A property of sessions is kept if it holds again when the work is done,
  and also when it failed, since what was done before a failure stays done.

  `Triple` is about one property before and others after the work. `Keeps` is the common case of one
  property, together with what is known of the result, and with what nearly all work has in common:
  it does not fail on account of a record that is not valid.
-/
import Mathlib.Data.List.Forall2
import Weblog.Session.Basic

namespace Weblog.Session

/-- Whether a step failed on account of a record that is not valid. -/
def Error.isInvalid : Error → Bool
  | .invalid .. => true
  | _ => false

namespace Work

variable {α β : Type}

/-- What is so at the end of work: of a result and the session, or of an error and the session. -/
def Ends (Q : α → Session → Prop) (E : Error → Session → Prop) : Except Error α × Session → Prop
  | (.ok a, s) => Q a s
  | (.error e, s) => E e s

/-- From every session with a property, work ends in a certain way. -/
def Triple (P : Session → Prop) (m : Work α) (Q : α → Session → Prop)
    (E : Error → Session → Prop) : Prop :=
  ∀ s, P s → Ends Q E (m.run.run s)

/-- Work keeps a property of sessions, and its results have a property of their own. -/
def Keeps (I : Session → Prop) (m : Work α) (Q : α → Prop) : Prop :=
  Triple I m (fun a s => I s ∧ Q a) fun e s => I s ∧ e.isInvalid = false

/-! ## Triples -/

namespace Triple

variable {P : Session → Prop} {m : Work α} {f : α → Work β} {Q : α → Session → Prop}
  {R : β → Session → Prop} {E : Error → Session → Prop}

theorem bind (hm : Triple P m Q E) (hf : ∀ a, Triple (Q a) (f a) R E) : Triple P (m >>= f) R E := by
  intro s hs
  have first := hm s hs
  rw [ExceptT.run_bind, StateT.run_bind]
  rcases hrun : m.run.run s with ⟨_ | a, s'⟩
  · rw [hrun] at first
    exact first
  · rw [hrun] at first
    exact hf a s' first

theorem pure {a : α} (h : ∀ s, P s → Q a s) : Triple P (Pure.pure a) Q E :=
  fun s hs => h s hs

/-- Any work ends somehow. -/
theorem any (m : Work α) : Triple (fun _ => True) m (fun _ _ => True) fun _ _ => True := by
  intro s _
  rcases m.run.run s with ⟨_ | _, _⟩ <;> trivial

theorem throw {e : Error} (h : ∀ s, P s → E e s) : Triple P (MonadExcept.throw e : Work α) Q E :=
  fun s hs => h s hs

/-- What comes after a check that may fail. -/
theorem guard {c : Prop} [Decidable c] {e : Error} {k : Unit → Work β} {R : β → Session → Prop}
    (hE : c → ∀ s, P s → E e s) (h : ¬c → Triple P (k ()) R E) :
    Triple P (if c then MonadExcept.throw e >>= k else k ()) R E := by
  by_cases hc : c
  · rw [if_pos hc]
    exact bind (Q := fun _ _ => False) (throw (hE hc)) fun _ _ hs => hs.elim
  · rw [if_neg hc]
    exact h hc

/-- Work in front of which other work may have to be done. -/
theorem readied {c : Prop} [Decidable c] {first : Work β} {P' : Session → Prop}
    (hfirst : c → Triple P first (fun _ => P') E) (hrest : ∀ s, P s → P' s)
    (h : Triple P' m Q E) : Triple P (if c then first >>= fun _ => m else m) Q E := by
  by_cases hc : c
  · rw [if_pos hc]
    exact bind (hfirst hc) fun _ => h
  · rw [if_neg hc]
    exact fun s hs => h s (hrest s hs)

theorem get {Q : Session → Session → Prop} (h : ∀ s, P s → Q s s) :
    Triple P (MonadState.get : Work Session) Q E :=
  fun s hs => h s hs

theorem modify {f : Session → Session} {Q : Unit → Session → Prop} (h : ∀ s, P s → Q () (f s)) :
    Triple P (modify f : Work Unit) Q E :=
  fun s hs => h s hs

/-- What is caught goes on in the session in which it was thrown. -/
theorem tryCatch {F : Error → Session → Prop} {h : Error → Work α} (hm : Triple P m Q F)
    (hc : ∀ e, Triple (F e) (h e) Q E) : Triple P (MonadExcept.tryCatch m h) Q E := by
  intro s hs
  have first := hm s hs
  show Ends Q E ((ExceptT.tryCatch m h).run.run s)
  rw [ExceptT.tryCatch, ExceptT.run_mk, StateT.run_bind]
  rcases hrun : m.run.run s with ⟨e | a, s'⟩
  · rw [hrun] at first
    rw [show StateT.run m s = (.error e, s') from hrun]
    exact hc e s' first
  · rw [hrun] at first
    rw [show StateT.run m s = (.ok a, s') from hrun]
    exact first

/-- An entity that was looked at is known to be as it is in the session. -/
theorem look {r : Ref} {f : Entity → Work β} {R : β → Session → Prop}
    (hE : ∀ s, P s → s.entity? r = none → E .unknown s)
    (h : ∀ s e, P s → s.entity? r = some e → Triple (· = s) (f e) R E) :
    Triple P (Work.look r >>= f) R E := by
  intro s hs
  refine bind (Q := fun e s' => P s' ∧ s'.entity? r = some e) ?_ (fun e s' known => ?_) s hs
  · refine bind (Q := fun s' s'' => s'' = s' ∧ P s') (fun s' hs' => ⟨rfl, hs'⟩) fun s' => ?_
    split
    · rename_i e he
      refine pure fun s'' known => ?_
      obtain ⟨rfl, hs'⟩ := known
      exact ⟨hs', he⟩
    · exact throw fun s'' known => hE s'' (known.1 ▸ known.2) (known.1 ▸ ‹_›)
  · exact h s' e known.1 known.2 s' rfl

/-- An entity that is there can be looked at. -/
theorem look_at {s : Session} {r : Ref} {e : Entity} {f : Entity → Work β}
    {R : β → Session → Prop} (he : s.entity? r = some e) (h : Triple (· = s) (f e) R E) :
    Triple (· = s) (Work.look r >>= f) R E := by
  refine look (fun s' hs absent => ?_) fun s' e' hs he' => ?_
  · rw [hs, he] at absent
    cases absent
  · subst hs
    obtain rfl := Option.some.inj (he.symm.trans he')
    exact h

/-- The tables of a session that is not broken can be looked at. -/
theorem reaching (whole : ∀ s, P s → s.broken = false) :
    Triple P Work.reaching (fun s' s => s' = s ∧ P s) E := by
  refine bind (Q := fun s' s => s' = s ∧ P s) (get fun s hs => ⟨rfl, hs⟩) fun s' => ?_
  rintro s ⟨rfl, hs⟩
  rw [if_neg (Bool.eq_false_iff.mp (whole _ hs))]
  exact ⟨rfl, hs⟩

/-- The store of a session that is not broken can be changed, unless a constraint breaks. -/
theorem storing {f : Store → Except Constraint Store} {Q : Unit → Session → Prop}
    (whole : ∀ s, P s → s.broken = false)
    (h : ∀ s, P s → match f s.store with
      | .ok store => Q () { s with store := store }
      | .error c => E (.constraint c) s) : Triple P (Work.storing f) Q E := by
  refine bind (reaching whole) fun s' => ?_
  rintro s ⟨rfl, hs⟩
  have h := h _ hs
  split
  · rename_i found
    rw [found] at h
    exact h
  · rename_i found
    rw [found] at h
    exact h

/-- What is known besides the session. -/
theorem of_known {p : Prop} (h : p → Triple P m Q E) : Triple (fun s => p ∧ P s) m Q E :=
  fun s ⟨hp, hs⟩ => h hp s hs

theorem weaken {P' : Session → Prop} {Q' : α → Session → Prop} {E' : Error → Session → Prop}
    (h : Triple P m Q E) (hP : ∀ s, P' s → P s) (hQ : ∀ a s, Q a s → Q' a s)
    (hE : ∀ e s, E e s → E' e s) : Triple P' m Q' E' := by
  intro s hs
  have ends := h s (hP s hs)
  rcases hrun : m.run.run s with ⟨e | a, s'⟩
  · rw [hrun] at ends
    exact hE e s' ends
  · rw [hrun] at ends
    exact hQ a s' ends

/-- What is picked is nothing, or there was something to be picked. -/
theorem filterM {I : Session → Prop} {S : α → Bool → Prop} {g : α → Work Bool} {l : List α}
    (h : ∀ a ∈ l, Triple I (g a) (fun b s => I s ∧ S a b) E) :
    Triple I (l.filterM g) (fun picked s => I s ∧ (picked = [] → ∀ a ∈ l, S a false) ∧
      (picked ≠ [] → ∃ a ∈ l, S a true)) E := by
  have some_picked : ∀ acc, Triple I (l.filterAuxM g acc) (fun picked s => I s ∧
      (picked = [] → acc = [] ∧ ∀ a ∈ l, S a false) ∧
      (picked ≠ [] → acc ≠ [] ∨ ∃ a ∈ l, S a true)) E := by
    induction l with
    | nil => exact fun acc => pure fun _ hs => ⟨hs, fun empty => ⟨empty, fun _ h => by cases h⟩, .inl⟩
    | cons a l ih =>
      intro acc
      refine bind (h a List.mem_cons_self) fun b s ⟨hs, hb⟩ => ?_
      refine weaken (ih (fun x hx => h x (List.mem_cons_of_mem a hx)) _) (fun _ h => h)
        (fun picked s' ⟨hs', hnone, hsome⟩ => ⟨hs', fun empty => ?_, fun full => ?_⟩)
        (fun _ _ h => h) s hs
      · obtain ⟨acc', rest⟩ := hnone empty
        cases b with
        | true => cases acc'
        | false => exact ⟨acc', List.forall_mem_cons.mpr ⟨hb, rest⟩⟩
      · rcases hsome full with acc' | ⟨x, hx, hS⟩
        · cases b with
          | true => exact .inr ⟨a, List.mem_cons_self, hb⟩
          | false => exact .inl acc'
        · exact .inr ⟨x, List.mem_cons_of_mem a hx, hS⟩
  refine bind (some_picked []) fun picked => pure fun s ⟨hs, hnone, hsome⟩ => ⟨hs, fun empty => ?_,
    fun full => ?_⟩
  · exact (hnone (List.reverse_eq_nil_iff.mp empty)).2
  · exact (hsome fun empty => full (List.reverse_eq_nil_iff.mpr empty)).resolve_left fun h => h rfl

theorem foldlM {J : β → Session → Prop} {g : β → α → Work β} {l : List α}
    (h : ∀ a ∈ l, ∀ b, Triple (J b) (g b a) J E) (b : β) : Triple (J b) (l.foldlM g b) J E := by
  induction l generalizing b with
  | nil => exact pure fun _ hs => hs
  | cons a l ih =>
    exact bind (h a List.mem_cons_self b) fun b' => ih (fun x hx => h x (List.mem_cons_of_mem a hx)) b'

end Triple

/-! ## What is kept -/

namespace Keeps

variable {I : Session → Prop} {m : Work α} {f : α → Work β} {Q Q' : α → Prop} {R : β → Prop}

theorem bind (hm : Keeps I m Q) (hf : ∀ a, Q a → Keeps I (f a) R) : Keeps I (m >>= f) R :=
  Triple.bind hm fun a s ⟨hs, ha⟩ => hf a ha s hs

theorem pure {a : α} (h : Q a) : Keeps I (Pure.pure a) Q := Triple.pure fun _ hs => ⟨hs, h⟩

theorem throw {e : Error} (h : e.isInvalid = false) : Keeps I (MonadExcept.throw e : Work α) Q :=
  Triple.throw fun _ hs => ⟨hs, h⟩

theorem guard {c : Prop} [Decidable c] {e : Error} {k : Unit → Work β} (he : e.isInvalid = false)
    (h : ¬c → Keeps I (k ()) R) :
    Keeps I (if c then MonadExcept.throw e >>= k else k ()) R :=
  Triple.guard (fun _ _ hs => ⟨hs, he⟩) h

/-- Nothing comes after a failure. -/
theorem failing {e : Error} (he : e.isInvalid = false) :
    Keeps I ((MonadExcept.throw e : Work α) >>= f) R :=
  bind (Q := fun _ => False) (throw he) fun _ never => never.elim

/-- Work that is done under a condition. -/
theorem ite {c : Prop} [Decidable c] {m' : Work α} (h : c → Keeps I m Q) (h' : ¬c → Keeps I m' Q) :
    Keeps I (if c then m else m') Q := by
  by_cases hc : c
  · rw [if_pos hc]
    exact h hc
  · rw [if_neg hc]
    exact h' hc

/-- Work in front of which other work may have to be done. -/
theorem readied {c : Prop} [Decidable c] {first : Work β} (hfirst : Keeps I first fun _ => True)
    (h : Keeps I m Q) : Keeps I (if c then first >>= fun _ => m else m) Q :=
  ite (fun _ => bind hfirst fun _ _ => h) fun _ => h

theorem weaken (h : Keeps I m Q) (hQ : ∀ a, Q a → Q' a) : Keeps I m Q' :=
  Triple.weaken h (fun _ hs => hs) (fun a _ ⟨hs, ha⟩ => ⟨hs, hQ a ha⟩) fun _ _ h => h

/-- Work that keeps a property, followed by other work. -/
theorem andThen {R : β → Session → Prop} {E : Error → Session → Prop} (hm : Keeps I m Q)
    (hE : ∀ e s, I s → e.isInvalid = false → E e s) (hf : ∀ a, Q a → Triple I (f a) R E) :
    Triple I (m >>= f) R E :=
  Triple.bind (Triple.weaken hm (fun _ hs => hs) (fun _ _ h => h) fun e s ⟨hs, he⟩ => hE e s hs he)
    fun a s ⟨hs, ha⟩ => hf a ha s hs

/-- Work whose results do not matter. -/
theorem done (h : Keeps I m Q) : Keeps I m fun _ => True := h.weaken fun _ _ => trivial

theorem get : Keeps I (MonadState.get : Work Session) I := Triple.get fun _ hs => ⟨hs, hs⟩

theorem set {s : Session} (h : I s) : Keeps I (MonadStateOf.set s : Work Unit) fun _ => True :=
  fun _ _ => ⟨h, trivial⟩

/-- A caught error that is handled keeps what was kept until then. -/
theorem tryCatch {h : Error → Work α} (hm : Keeps I m Q)
    (hc : ∀ e, e.isInvalid = false → Keeps I (h e) Q) : Keeps I (MonadExcept.tryCatch m h) Q :=
  Triple.tryCatch hm fun e s ⟨hs, he⟩ => hc e he s hs

/-! ### Work on lists -/

theorem forM {g : α → Work Unit} {l : List α} (h : ∀ a ∈ l, Keeps I (g a) fun _ => True) :
    Keeps I (l.forM g) fun _ => True := by
  induction l with
  | nil => exact pure trivial
  | cons a l ih =>
    exact bind (h a List.mem_cons_self) fun _ _ => ih fun b hb => h b (List.mem_cons_of_mem a hb)

theorem foldlM {g : β → α → Work β} {l : List α} {b : β} (hb : R b)
    (h : ∀ a ∈ l, ∀ b, R b → Keeps I (g b a) R) : Keeps I (l.foldlM g b) R := by
  induction l generalizing b with
  | nil => exact pure hb
  | cons a l ih =>
    rw [List.foldlM_cons]
    exact bind (h a List.mem_cons_self b hb) fun c hc =>
      ih hc fun x hx => h x (List.mem_cons_of_mem a hx)

theorem mapM_forall₂ {g : α → Work β} {l : List α} {S : α → β → Prop}
    (h : ∀ a ∈ l, Keeps I (g a) (S a)) : Keeps I (l.mapM g) (List.Forall₂ S l) := by
  induction l with
  | nil =>
    rw [List.mapM_nil]
    exact pure .nil
  | cons a l ih =>
    rw [List.mapM_cons]
    refine bind (h a List.mem_cons_self) fun b hb => ?_
    exact bind (ih fun x hx => h x (List.mem_cons_of_mem a hx)) fun bs hbs => pure (.cons hb hbs)

theorem mapM {g : α → Work β} {l : List α} {S : α → β → Prop}
    (h : ∀ a ∈ l, Keeps I (g a) (S a)) : Keeps I (l.mapM g) fun bs => ∀ b ∈ bs, ∃ a ∈ l, S a b := by
  refine (mapM_forall₂ h).weaken fun bs hbs => ?_
  clear h
  induction hbs with
  | nil => exact fun b hb => absurd hb List.not_mem_nil
  | cons hb _ ih =>
    intro c hc
    rcases List.mem_cons.mp hc with rfl | hc
    · exact ⟨_, List.mem_cons_self, hb⟩
    · obtain ⟨x, hx, hxc⟩ := ih c hc
      exact ⟨x, List.mem_cons_of_mem _ hx, hxc⟩

/-- Work on all elements of which only one property of the results matters. -/
theorem mapM_all {g : α → Work β} {l : List α} (h : ∀ a ∈ l, Keeps I (g a) R) :
    Keeps I (l.mapM g) fun bs => ∀ b ∈ bs, R b :=
  (mapM h).weaken fun _ h b hb => (h b hb).elim fun _ ⟨_, hb⟩ => hb

theorem filterMapM {g : α → Work (Option β)} {l : List α}
    (h : ∀ a ∈ l, Keeps I (g a) fun _ => True) : Keeps I (l.filterMapM g) fun _ => True := by
  induction l with
  | nil =>
    rw [List.filterMapM_nil]
    exact pure trivial
  | cons a l ih =>
    have rest := ih fun x hx => h x (List.mem_cons_of_mem a hx)
    rw [List.filterMapM_cons]
    refine bind (h a List.mem_cons_self) fun b _ => ?_
    cases b with
    | none => exact rest
    | some b => exact bind rest fun _ _ => pure trivial

theorem filterM {g : α → Work Bool} {l : List α}
    (h : ∀ a ∈ l, Keeps I (g a) fun _ => True) : Keeps I (l.filterM g) fun _ => True := by
  have picked : ∀ acc, Keeps I (l.filterAuxM g acc) fun _ => True := by
    induction l with
    | nil => exact fun _ => pure trivial
    | cons a l ih =>
      intro acc
      exact bind (h a List.mem_cons_self) fun b _ => ih (fun x hx => h x (List.mem_cons_of_mem a hx)) _
  exact bind (picked []) fun _ _ => pure trivial

theorem anyM {g : α → Work Bool} {l : List α}
    (h : ∀ a ∈ l, Keeps I (g a) fun _ => True) : Keeps I (l.anyM g) fun _ => True := by
  induction l with
  | nil => exact pure trivial
  | cons a l ih =>
    refine bind (h a List.mem_cons_self) fun b _ => ?_
    cases b with
    | true => exact pure trivial
    | false => exact ih fun x hx => h x (List.mem_cons_of_mem a hx)

theorem optionForM {g : α → Work Unit} {o : Option α}
    (h : ∀ a, o = some a → Keeps I (g a) fun _ => True) : Keeps I (o.forM g) fun _ => True := by
  cases o with
  | none => exact pure trivial
  | some a => exact h a rfl

/-! ### The parts of which work is made -/

theorem look {r : Ref} {S : Entity → Prop} (h : ∀ s, I s → ∀ e, s.entity? r = some e → S e) :
    Keeps I (Work.look r) S := by
  refine bind get fun s hs => ?_
  split
  · rename_i e he
    exact pure (h s hs e he)
  · exact throw rfl

theorem reaching : Keeps I Work.reaching I := by
  refine bind get fun s hs => ?_
  split
  · exact throw rfl
  · exact pure hs

theorem alter {r : Ref} {g : Entity → Entity} (h : ∀ s, I s → I (s.modifyEntity r g)) :
    Keeps I (Work.alter r g) fun _ => True :=
  Triple.modify fun s hs => ⟨h s hs, trivial⟩

theorem storing {g : Store → Except Constraint Store}
    (h : ∀ s store, I s → g s.store = .ok store → I { s with store := store }) :
    Keeps I (Work.storing g) fun _ => True := by
  refine bind reaching fun s hs => ?_
  split
  · rename_i store hstore
    exact set (h s store hs hstore)
  · exact throw rfl

theorem bindCell (position : Nat) (v : Cell) :
    Keeps I (Work.bind position v) fun _ => v.bindFault? = none := by
  unfold Work.bind
  split
  · exact pure ‹_›
  · exact throw rfl
  · exact throw rfl

theorem identifier (v : Cell) : Keeps I (Work.identifier v) (· = v) := by
  unfold Work.identifier
  split
  · exact throw rfl
  · exact throw rfl
  · exact pure rfl

end Keeps

end Work

end Weblog.Session
