/-
  Lifetimes of tokens: of two tokens that are minted for one user at one time, the one with the
  longer lifetime is accepted whenever the other is, and none is accepted after its end.

  A lifetime is added to the clock in microseconds. What is written into the token, and compared
  with the clock later, are whole seconds, and the second of the end still counts. Cutting down to
  seconds keeps the order (`Instant.second_mono`), and a whole second that lies after the end is
  after the second of the end (`Instant.second_lt_iff`).

  The one lifetime that does not mean itself is zero. It is taken for none, which is fifteen minutes
  (`Token.issue_zero`), so a token with it outlasts those with a few seconds
  (`zero_outlasts_second`).
-/
import Weblog.Proofs.Auth.Issued

namespace Weblog

/-! ## Whole seconds -/

namespace Instant

theorem second_mono {s t : Instant} (le : s.micros ≤ t.micros) : s.second ≤ t.second := by
  rw [second_eq, second_eq]
  omega

/-- A whole second is after the second of an instant if it is after the instant. -/
theorem second_lt_iff {t : Instant} {n : Int} : t.second < n ↔ t.micros < n * 1000000 := by
  rw [second_eq]
  omega

end Instant

namespace Token

variable {secret name token : String} {now : Instant} {d d₁ d₂ : Int}

/-! ## Lifetimes -/

/-- A lifetime other than zero means itself. -/
theorem lifetimeOr_of_ne_zero (nonzero : d ≠ 0) : lifetimeOr (some d) = d := by
  unfold lifetimeOr
  simp only [if_neg nonzero]

/-- Lifetimes keep their order, but for zero and those under fifteen minutes. -/
theorem lifetimeOr_mono (le : d₁ ≤ d₂) (apart : d₁ = 0 → d₂ = 0 ∨ defaultLifetime ≤ d₂) :
    lifetimeOr (some d₁) ≤ lifetimeOr (some d₂) := by
  unfold lifetimeOr
  simp only [defaultLifetime] at apart ⊢
  by_cases zero₁ : d₁ = 0
  · by_cases zero₂ : d₂ = 0
    · exact Int.le_of_eq (by rw [if_pos zero₁, if_pos zero₂])
    · rw [if_pos zero₁, if_neg zero₂]
      exact (apart zero₁).resolve_left zero₂
  · rw [if_neg zero₁]
    split
    · omega
    · exact le

/-- A token with a lifetime of zero is one for which no lifetime is given. -/
theorem issue_zero (secret : String) (now : Instant) (claims : List (String × Json)) :
    issue secret now (some 0) claims = issue secret now none claims := by
  have none_given : lifetimeOr (some 0) = lifetimeOr none := rfl
  unfold issue
  rw [none_given]

/-! ## Minted tokens -/

/-- A token is minted for a user with an explicit lifetime. -/
def Minted (secret : String) (now : Instant) (name : String) (d : Int) (token : String) : Prop :=
  issue secret now (some d) (Users.claims name) = .ok token

/-- A token is minted exactly if the end of its lifetime is in the calendar. -/
theorem exists_minted_iff (clock : now.isRepresentable = true) :
    (∃ token, Minted secret now name d token) ↔
      (now.later (lifetimeOr (some d))).isRepresentable = true := by
  constructor
  · intro ⟨token, minted⟩
    exact (sign_of_issue minted).1
  · intro expiry
    exact issue_ok secret name clock expiry

/-- Up to and with the second of its end a minted token stands for whoever has the name, and for
nobody after that. -/
theorem Minted.ofToken_eq (minted : Minted secret now name d token) (later : Instant)
    (tables : Tables) : Caller.ofToken secret later tables token =
      if later.second ≤ (now.later (lifetimeOr (some d))).second then
        orRefuse .badCredentials (tables.userNamed? name)
      else refuse .badCredentials := by
  rw [Caller.ofToken, subject_issue minted later]
  by_cases lasts : later.second ≤ (now.later (lifetimeOr (some d))).second
  · rw [if_pos lasts, if_pos lasts]
  · rw [if_neg lasts, if_neg lasts]
    rfl

end Token

namespace Caller

open Token (Minted defaultLifetime issue issue_zero lifetimeOr lifetimeOr_mono
  lifetimeOr_of_ne_zero)

/-- A token is minted whenever its end is in the calendar. A longer lifetime is accepted whenever a
shorter one is, for the same user, unless the shorter one is zero and the longer one under fifteen
minutes. A lifetime other than zero is refused in every whole second after its end, and one of zero
makes the token for which no lifetime is given. -/
theorem longer_lifetime_outlasts (secret name : String) (now : Instant) :
    (now.isRepresentable = true → ∀ d, (∃ token, Minted secret now name d token) ↔
      (now.later (lifetimeOr (some d))).isRepresentable = true) ∧
    (∀ d₁ d₂ token₁ token₂, d₁ ≤ d₂ → (d₁ = 0 → d₂ = 0 ∨ defaultLifetime ≤ d₂) →
      Minted secret now name d₁ token₁ → Minted secret now name d₂ token₂ →
      ∀ later tables u, ofToken secret later tables token₁ = .ok u →
        ofToken secret later tables token₂ = .ok u) ∧
    (∀ d token, d ≠ 0 → Minted secret now name d token →
      ∀ later tables, (now.later d).micros < later.second * 1000000 →
        ofToken secret later tables token = refuse .badCredentials) ∧
    issue secret now (some 0) (Users.claims name) = issue secret now none (Users.claims name) := by
  refine ⟨fun clock d => Token.exists_minted_iff clock, ?_, ?_, issue_zero secret now _⟩
  · intro d₁ d₂ token₁ token₂ le apart minted₁ minted₂ later tables u accepted
    have ends : (now.later (lifetimeOr (some d₁))).second ≤
        (now.later (lifetimeOr (some d₂))).second :=
      Instant.second_mono (Int.add_le_add_left (lifetimeOr_mono le apart) now.micros)
    rw [minted₁.ofToken_eq] at accepted
    by_cases lasts : later.second ≤ (now.later (lifetimeOr (some d₁))).second
    · rw [if_pos lasts] at accepted
      rw [minted₂.ofToken_eq, if_pos (Int.le_trans lasts ends)]
      exact accepted
    · rw [if_neg lasts] at accepted
      exact absurd accepted refuse_ne_ok
  · intro d token nonzero minted later tables after
    have late : (now.later d).second < later.second := Instant.second_lt_iff.mpr after
    rw [minted.ofToken_eq, lifetimeOr_of_ne_zero nonzero, if_neg (Int.not_le.mpr late)]

/-- Two tokens of the first user, with a second and with a minute: half a second on, the second
one is accepted since the first one is. -/
theorem minute_outlasts_second (secret : String) :
    ∃ token₁ token₂, Minted secret ⟨0⟩ "ann" 1000000 token₁ ∧
      Minted secret ⟨0⟩ "ann" 60000000 token₂ ∧
      ofToken secret ⟨500000⟩ (Service.signedUp false ⟨0⟩).tables token₁ =
        .ok (Service.ann ⟨0⟩) ∧
      ofToken secret ⟨500000⟩ (Service.signedUp false ⟨0⟩).tables token₂ =
        .ok (Service.ann ⟨0⟩) ∧
      ofToken secret ⟨2000000⟩ (Service.signedUp false ⟨0⟩).tables token₁ =
        refuse .badCredentials := by
  obtain ⟨minted, longer, ended, -⟩ := longer_lifetime_outlasts secret "ann" ⟨0⟩
  obtain ⟨token₁, minted₁⟩ := (minted (by decide) 1000000).mpr (by decide)
  obtain ⟨token₂, minted₂⟩ := (minted (by decide) 60000000).mpr (by decide)
  have accepted : ofToken secret ⟨500000⟩ (Service.signedUp false ⟨0⟩).tables token₁ =
      .ok (Service.ann ⟨0⟩) := by
    rw [minted₁.ofToken_eq]
    rfl
  exact ⟨token₁, token₂, minted₁, minted₂, accepted,
    longer _ _ _ _ (by decide) (by decide) minted₁ minted₂ _ _ _ accepted,
    ended _ _ (by decide) minted₁ _ _ (by decide)⟩

/-- A token with a lifetime of zero is accepted a hundred seconds after its end, when one with a
lifetime of a second is refused. -/
theorem zero_outlasts_second :
    ∃ token₀ token₁, Minted "your-secret-key" ⟨0⟩ "ann" 0 token₀ ∧
      Minted "your-secret-key" ⟨0⟩ "ann" 1000000 token₁ ∧
      (Instant.later ⟨0⟩ 0).micros < Instant.second ⟨100000000⟩ * 1000000 ∧
      ofToken "your-secret-key" ⟨100000000⟩ (Service.signedUp false ⟨0⟩).tables token₀ =
        .ok (Service.ann ⟨0⟩) ∧
      ofToken "your-secret-key" ⟨100000000⟩ (Service.signedUp false ⟨0⟩).tables token₁ =
        refuse .badCredentials := by
  obtain ⟨token₀, minted₀⟩ : ∃ token, Minted "your-secret-key" ⟨0⟩ "ann" 0 token :=
    (Token.exists_minted_iff (by decide)).mpr (by decide)
  obtain ⟨token₁, minted₁⟩ : ∃ token, Minted "your-secret-key" ⟨0⟩ "ann" 1000000 token :=
    (Token.exists_minted_iff (by decide)).mpr (by decide)
  refine ⟨token₀, token₁, minted₀, minted₁, by decide, ?_, ?_⟩
  · rw [minted₀.ofToken_eq]
    rfl
  · rw [minted₁.ofToken_eq]
    rfl

end Caller

end Weblog
