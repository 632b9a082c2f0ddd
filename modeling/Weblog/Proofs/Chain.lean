/-
  Chains of checks: a chain succeeds when each of its links does.

  The lemmas turn `x = .ok a` for a chain into the facts that its links established. They are
  simplification lemmas, so that one `simp only` opens a chain.
-/
namespace Weblog

variable {α β ε ε' : Type}

/-! ## Chains -/

theorem bind_ok {a : α} {f : α → Except ε β} : (.ok a >>= f) = f a := rfl

theorem ok_of_toOption {x : Except ε α} {a : α} (h : x.toOption = some a) : x = .ok a := by
  cases x with
  | error e => cases h
  | ok b => exact congrArg Except.ok (Option.some.inj h)

@[simp] theorem bind_eq_ok {x : Except ε α} {f : α → Except ε β} {b : β} :
    x >>= f = .ok b ↔ ∃ a, x = .ok a ∧ f a = .ok b := by
  cases x with
  | error e => simp [bind, Except.bind]
  | ok a => simp [bind, Except.bind]

@[simp] theorem discard_eq_ok {x : Except ε α} {u : PUnit} :
    discard x = .ok u ↔ ∃ a, x = .ok a := by
  cases x with
  | error e => simp [discard, Functor.discard, Functor.mapConst, Except.map]
  | ok a => simp [discard, Functor.discard, Functor.mapConst, Except.map]

@[simp] theorem mapError_eq_ok {x : Except ε α} {f : ε → ε'} {a : α} :
    x.mapError f = .ok a ↔ x = .ok a := by
  cases x with
  | error e => exact ⟨fun h => (by cases h), fun h => (by cases h)⟩
  | ok b =>
    show (Except.ok b : Except ε' α) = .ok a ↔ _
    rw [Except.ok.injEq, Except.ok.injEq]

@[simp] theorem map_eq_ok {x : Except ε α} {f : α → β} {b : β} :
    x.map f = .ok b ↔ ∃ a, x = .ok a ∧ f a = b := by
  cases x with
  | error e => simp [Except.map]
  | ok a => simp [Except.map]

/-! ## Chains under a map -/

section Map

variable {γ : Type} {x : Except ε α} {f : α → β}

theorem map_ok {a : α} : (Except.ok a : Except ε α).map f = .ok (f a) := rfl

theorem map_error {e : ε} : (Except.error e : Except ε α).map f = .error e := rfl

theorem map_bind {k : α → Except ε β} {g : β → γ} :
    (x >>= k).map g = x >>= fun a => (k a).map g := by
  cases x with
  | error e => rfl
  | ok a => rfl

theorem bind_map {k : β → Except ε γ} : x.map f >>= k = x >>= fun a => k (f a) := by
  cases x with
  | error e => rfl
  | ok a => rfl

theorem mapError_map {g : ε → ε'} : (x.map f).mapError g = (x.mapError g).map f := by
  cases x with
  | error e => rfl
  | ok a => rfl

theorem map_ite {c : Prop} [Decidable c] {y : Except ε α} :
    (if c then x else y).map f = if c then x.map f else y.map f := by
  by_cases h : c
  · rw [if_pos h, if_pos h]
  · rw [if_neg h, if_neg h]

/-- Two chains are the same if they go on in the same way after success. -/
theorem bind_congr_ok {k k' : α → Except ε β} (h : ∀ a, x = .ok a → k a = k' a) :
    x >>= k = x >>= k' := by
  cases x with
  | error e => rfl
  | ok a => exact h a rfl

end Map

/-! ## Checks -/

@[simp] theorem error_if_eq_ok {c : Prop} [Decidable c] {e : ε} {x : Except ε α} {a : α} :
    (if c then .error e else x) = .ok a ↔ ¬c ∧ x = .ok a := by
  by_cases h : c
  · simp [h]
  · simp [h]

@[simp] theorem else_error_eq_ok {c : Prop} [Decidable c] {e : ε} {x : Except ε α} {a : α} :
    (if c then x else .error e) = .ok a ↔ c ∧ x = .ok a := by
  by_cases h : c
  · simp [h]
  · simp [h]

/-- A guard lets through what it does not reject. -/
@[simp] theorem reject_eq_ok {c : Prop} [Decidable c] {e : ε} {f : PUnit → Except ε α} {a : α} :
    (if c then .error e >>= f else f ⟨⟩) = .ok a ↔ ¬c ∧ f ⟨⟩ = .ok a := by
  by_cases h : c
  · simp [h]
  · simp [h]

/-- A check that is made under a condition. -/
theorem check_when_eq_ok {c : Prop} [Decidable c] {x : Except ε PUnit} {y : Except ε α} {a : α} :
    (if c then x >>= fun _ => y else y) = .ok a ↔ (c → x = .ok ⟨⟩) ∧ y = .ok a := by
  by_cases h : c
  · simp only [h, if_true, bind_eq_ok, true_implies]
    exact ⟨fun ⟨_, hx, hy⟩ => ⟨hx, hy⟩, fun ⟨hx, hy⟩ => ⟨_, hx, hy⟩⟩
  · simp [h]

/-! ## Lists of checks -/

theorem mapM_eq_ok {f : α → Except ε β} {g : α → β} {l : List α}
    (h : ∀ a ∈ l, f a = .ok (g a)) : l.mapM f = .ok (l.map g) := by
  induction l with
  | nil => rfl
  | cons a l ih =>
    rw [List.mapM_cons, h a List.mem_cons_self, ih fun b hb => h b (List.mem_cons_of_mem a hb)]
    rfl

/-- What a list of checks leads to is what its checks lead to. -/
theorem mem_of_mapM {f : α → Except ε β} {l : List α} {bs : List β} (h : l.mapM f = .ok bs) :
    ∀ b ∈ bs, ∃ a ∈ l, f a = .ok b := by
  induction l generalizing bs with
  | nil =>
    rw [← Except.ok.inj h]
    intro b hb
    cases hb
  | cons a l ih =>
    rw [List.mapM_cons] at h
    obtain ⟨b, hb, h⟩ := bind_eq_ok.mp h
    obtain ⟨bs', hbs, h⟩ := bind_eq_ok.mp h
    rw [← Except.ok.inj h]
    intro c hc
    rcases List.mem_cons.mp hc with rfl | hc
    · exact ⟨a, List.mem_cons_self, hb⟩
    · obtain ⟨a', ha, hf⟩ := ih hbs c hc
      exact ⟨a', List.mem_cons_of_mem a ha, hf⟩

/-- What checks lead to is all there. -/
theorem exists_mem_of_mapM {f : α → Except ε β} {l : List α} {bs : List β} (h : l.mapM f = .ok bs) :
    ∀ a ∈ l, ∃ b ∈ bs, f a = .ok b := by
  induction l generalizing bs with
  | nil =>
    intro a ha
    cases ha
  | cons a l ih =>
    rw [List.mapM_cons] at h
    obtain ⟨b, hb, h⟩ := bind_eq_ok.mp h
    obtain ⟨bs', hbs, h⟩ := bind_eq_ok.mp h
    rw [← Except.ok.inj h]
    intro c hc
    rcases List.mem_cons.mp hc with rfl | hc
    · exact ⟨b, List.mem_cons_self, hb⟩
    · obtain ⟨b', hb', hf⟩ := ih hbs c hc
      exact ⟨b', List.mem_cons_of_mem b hb', hf⟩

theorem length_of_mapM {f : α → Except ε β} {l : List α} {bs : List β} (h : l.mapM f = .ok bs) :
    bs.length = l.length := by
  induction l generalizing bs with
  | nil =>
    rw [← Except.ok.inj h]
    rfl
  | cons a l ih =>
    rw [List.mapM_cons] at h
    obtain ⟨b, -, h⟩ := bind_eq_ok.mp h
    obtain ⟨bs', hbs, h⟩ := bind_eq_ok.mp h
    rw [← Except.ok.inj h, List.length_cons, List.length_cons, ih hbs]

/-- Checks that can be undone lead back to their list. -/
theorem map_of_mapM {f : α → Except ε β} {g : β → α} (back : ∀ a b, f a = .ok b → g b = a)
    {l : List α} {bs : List β} (h : l.mapM f = .ok bs) : bs.map g = l := by
  induction l generalizing bs with
  | nil =>
    rw [← Except.ok.inj h]
    rfl
  | cons a l ih =>
    rw [List.mapM_cons] at h
    obtain ⟨b, hb, h⟩ := bind_eq_ok.mp h
    obtain ⟨bs', hbs, h⟩ := bind_eq_ok.mp h
    rw [← Except.ok.inj h, List.map_cons, back a b hb, ih hbs]

/-- Checks that change nothing lead to their list. -/
theorem eq_of_mapM {f : α → Except ε α} {l bs : List α} (h : l.mapM f = .ok bs)
    (same : ∀ a ∈ l, ∀ b, f a = .ok b → b = a) : bs = l := by
  induction l generalizing bs with
  | nil => exact (Except.ok.inj h).symm
  | cons a l ih =>
    rw [List.mapM_cons] at h
    obtain ⟨b, hb, h⟩ := bind_eq_ok.mp h
    obtain ⟨bs', hbs, h⟩ := bind_eq_ok.mp h
    rw [← Except.ok.inj h, same a List.mem_cons_self b hb,
      ih hbs fun c hc => same c (List.mem_cons_of_mem a hc)]

/-- Checks that other checks undo lead back to their list. -/
theorem eq_of_mapM_mapM {γ : Type} {f : α → Except ε β} {g : β → γ} {k : γ → Except ε' α}
    {l as : List α} {bs : List β} (h : l.mapM f = .ok bs) (h' : (bs.map g).mapM k = .ok as)
    (back : ∀ a ∈ l, ∀ b ∈ bs, f a = .ok b → ∀ a', k (g b) = .ok a' → a' = a) : as = l := by
  induction l generalizing as bs with
  | nil =>
    rw [← Except.ok.inj h] at h'
    exact (Except.ok.inj h').symm
  | cons a l ih =>
    rw [List.mapM_cons] at h
    obtain ⟨b, hb, h⟩ := bind_eq_ok.mp h
    obtain ⟨bs', hbs, h⟩ := bind_eq_ok.mp h
    obtain rfl := Except.ok.inj h
    rw [List.map_cons, List.mapM_cons] at h'
    obtain ⟨a', ha, h'⟩ := bind_eq_ok.mp h'
    obtain ⟨as', has, h'⟩ := bind_eq_ok.mp h'
    rw [← Except.ok.inj h', back a List.mem_cons_self b List.mem_cons_self hb a' ha,
      ih hbs has fun c hc d hd =>
        back c (List.mem_cons_of_mem a hc) d (List.mem_cons_of_mem b hd)]

/-- A list of checks succeeds if each of them does. -/
theorem exists_mapM_ok {f : α → Except ε β} {l : List α} (h : ∀ a ∈ l, ∃ b, f a = .ok b) :
    ∃ bs, l.mapM f = .ok bs := by
  induction l with
  | nil => exact ⟨[], rfl⟩
  | cons a l ih =>
    obtain ⟨b, hb⟩ := h a List.mem_cons_self
    obtain ⟨bs, hbs⟩ := ih fun c hc => h c (List.mem_cons_of_mem a hc)
    exact ⟨b :: bs, by rw [List.mapM_cons, hb, hbs]; rfl⟩

/-- A list of checks fails as one of them does. -/
theorem exists_of_mapM_error {f : α → Except ε β} {l : List α} {e : ε} (h : l.mapM f = .error e) :
    ∃ a ∈ l, f a = .error e := by
  induction l with
  | nil => cases h
  | cons a l ih =>
    rw [List.mapM_cons] at h
    cases ha : f a with
    | error e' =>
      rw [ha] at h
      exact ⟨a, List.mem_cons_self, ha.trans (congrArg _ (Except.error.inj h))⟩
    | ok b =>
      rw [ha, bind_ok] at h
      cases hl : l.mapM f with
      | error e' =>
        rw [hl] at h
        obtain ⟨a', ha', hf⟩ := ih (hl.trans (congrArg _ (Except.error.inj h)))
        exact ⟨a', List.mem_cons_of_mem a ha', hf⟩
      | ok bs =>
        rw [hl] at h
        cases h

theorem forM_eq_ok {f : α → Except ε PUnit} {l : List α} (h : ∀ a ∈ l, f a = .ok ⟨⟩) :
    l.forM f = .ok ⟨⟩ := by
  induction l with
  | nil => rfl
  | cons a l ih =>
    change (f a >>= fun _ => l.forM f) = .ok ⟨⟩
    rw [h a List.mem_cons_self]
    exact ih fun b hb => h b (List.mem_cons_of_mem a hb)

theorem ok_of_forM {f : α → Except ε Unit} {l : List α} (h : l.forM f = .ok ()) :
    ∀ a ∈ l, f a = .ok () := by
  induction l with
  | nil =>
    intro a ha
    cases ha
  | cons a l ih =>
    have chain : (f a >>= fun _ => l.forM f) = .ok () := h
    obtain ⟨u, here, rest⟩ := bind_eq_ok.mp chain
    exact List.forall_mem_cons.mpr ⟨here, ih rest⟩

end Weblog
