/-
  The format of the tokens that are issued, for any claims that have a text: three segments of base64
  without padding, which write the header, the claims with their expiry, and the signature.

  The claims are read back as they were given: what is put in is the expiry, in the place of the one
  that there was or else at the end (`put_eq_withExpiry`). Claims with a number of too many digits or
  with values that stand too deep in each other have no text, and a lifetime that ends outside the
  calendar has no end; no token is issued then.
-/
import Mathlib.Algebra.Group.Int.Defs
import Weblog.Proofs.Auth.Issued

namespace Weblog

/-! ## Long numbers -/

theorem Number.lt_length_digits {n k : Nat} (h : 10 ^ k ≤ n) : k < (digits n).length := by
  induction k generalizing n with
  | zero => exact List.length_pos_iff.mpr (digits_ne_nil n)
  | succ k ih =>
    have large : ¬n < 10 := by
      have ten : 10 ≤ 10 ^ (k + 1) := Nat.le_self_pow (Nat.succ_ne_zero k) 10
      omega
    have front : 10 ^ k ≤ n / 10 := (Nat.le_div_iff_mul_le (by decide)).mpr h
    rw [digits, if_neg large, List.length_append, List.length_singleton]
    exact Nat.succ_lt_succ (ih front)

namespace Token

open Bytes (Base64Url.IsUnpadded Base64Url.isUnpadded_encode)

variable {secret : String} {now : Instant} {lifetime : Option Int}
  {claims : List (String × Json)}

/-! ## Expiry -/

/-- Claims with an expiry: in the place of the one that there was, or else at the end. -/
def withExpiry (claims : List (String × Json)) (second : Int) : List (String × Json) :=
  if "exp" ∈ claims.map (·.1) then
    claims.map fun c => if c.1 = "exp" then (c.1, .int second) else c
  else claims ++ [("exp", .int second)]

/-- An expiry is put in the place of the one that there was, or at the end. -/
theorem put_eq_withExpiry (names : (claims.map (·.1)).Nodup) (second : Int) :
    Json.put claims "exp" (.int second) = withExpiry claims second := by
  unfold withExpiry
  split
  · rename_i held
    exact Json.put_eq_map names held
  · rename_i fresh
    exact Json.put_append fresh _

/-! ## Segments -/

/-- A token with some claims and an expiry, signed under a secret: three segments without padding,
and so without dots, that write the header, the claims with the expiry, and the signature. -/
structure Format (secret : String) (claims : List (String × Json)) (second : Int) (token : String)
    (p : Parts) : Prop where
  whole : token.toList = p.head ++ '.' :: p.body ++ '.' :: p.signature
  head : Base64Url.IsUnpadded p.head
  body : Base64Url.IsUnpadded p.body
  signature : Base64Url.IsUnpadded p.signature
  header : Writes p.head [("alg", .str "HS256"), ("typ", .str "JWT")]
  payload : Writes p.body (withExpiry claims second)
  signed : Signed secret token p

theorem writes_segment {fields : List (String × Json)} (h : (Json.obj fields).Exact)
    (shallow : (Json.obj fields).depth ≤ maxDepth) : Writes (segment (.obj fields)) fields := by
  obtain ⟨_, same, writes⟩ := writes_of_readSegment (readSegment_segment h shallow)
  obtain rfl := Json.obj.inj same
  exact writes

/-- A text that was signed has the format of a token. -/
theorem format_sign (secret : String) {second : Int} (names : (claims.map (·.1)).Nodup)
    (exact : (Json.obj (Json.put claims "exp" (.int second))).Exact)
    (shallow : (Json.obj (Json.put claims "exp" (.int second))).depth ≤ maxDepth) :
    ∃ p, Format secret claims second
      (sign secret (.obj (Json.put claims "exp" (.int second)))) p := by
  have cut := isCut_sign secret (.obj (Json.put claims "exp" (.int second)))
  have header : Writes (segment header) [("alg", .str "HS256"), ("typ", .str "JWT")] :=
    writes_segment ⟨by decide, trivial, trivial, trivial⟩ (by decide)
  refine ⟨_, ?_, Base64Url.isUnpadded_encode _, Base64Url.isUnpadded_encode _,
    Base64Url.isUnpadded_encode _, header, put_eq_withExpiry names second ▸
      writes_segment exact shallow, cut, ⟨_, header, rfl⟩, ?_⟩
  · rw [cut.whole, cut.text]
  · exact Bytes.Base64Url.decode?_encode _

/-- Given distinct claims, without numbers that are not whole or have too many digits and with no
values too deep in each other, and a lifetime that is not zero and ends in the calendar, a token is
issued. It has three segments of base64 without padding; its header names the algorithm and the
type; its payload is read as the claims with the second of their expiry, in its place or else at the
end, and so it is read under the secret, since its signature verifies. -/
theorem issue_format (secret : String) (names : (claims.map (·.1)).Nodup)
    (exact : Json.FieldsExact claims) (shallow : (Json.obj claims).depth ≤ maxDepth)
    (clock : now.isRepresentable = true) (nonzero : lifetime ≠ some 0)
    (expiry : (now.later (lifetime.getD 900000000)).isRepresentable = true) :
    ∃ token p, issue secret now lifetime claims = .ok token ∧
      Format secret claims (now.later (lifetime.getD 900000000)).second token p ∧
      payload secret token =
        .ok (.obj (withExpiry claims (now.later (lifetime.getD 900000000)).second)) := by
  have inForce : lifetimeOr lifetime = lifetime.getD 900000000 := by
    cases lifetime with
    | none => rfl
    | some l => exact if_neg fun zero => nonzero (congrArg some zero)
  rw [← inForce] at expiry ⊢
  let second := (now.later (lifetimeOr lifetime)).second
  have fits : (Json.int second).Exact := Instant.digits_second expiry
  have exactAll : (Json.obj (Json.put claims "exp" (.int second))).Exact :=
    ⟨Json.nodup_put names, Json.fieldsExact_put exact fits⟩
  have shallowAll : (Json.obj (Json.put claims "exp" (.int second))).depth ≤ maxDepth := by
    have deepest : Json.fieldsDepth (Json.put claims "exp" (.int second)) ≤
      max (Json.fieldsDepth claims) 0 := Json.fieldsDepth_put_le
    rw [Nat.max_zero] at deepest
    exact Nat.le_trans (Nat.succ_le_succ deepest) shallow
  obtain ⟨p, format⟩ := format_sign secret names exactAll shallowAll
  have read := payload_sign secret exactAll shallowAll
  refine ⟨_, p, issue_eq_ok (span_check_ok clock expiry) expiry
    (Json.checkWrite_of_exact _ exactAll maxDepth shallowAll), format, ?_⟩
  rw [read, put_eq_withExpiry names]

/-- A token that expired when it was issued, a microsecond into the second before; the expiry among
the claims is replaced. -/
theorem issue_backdated :
    ∃ token p, issue "your-secret-key" ⟨1704067200000000⟩ (some (-1))
        [("exp", .null), ("sub", .str "Ann\n")] = .ok token ∧
      Format "your-secret-key" [("exp", .null), ("sub", .str "Ann\n")] 1704067199 token p ∧
      payload "your-secret-key" token =
        .ok (.obj [("exp", .int 1704067199), ("sub", .str "Ann\n")]) := by
  have shallow : (Json.obj [("exp", .null), ("sub", .str "Ann\n")]).depth ≤ maxDepth := by
    show 1 ≤ maxDepth
    decide
  have clock : (⟨1704067200000000⟩ : Instant).isRepresentable = true := by decide
  exact issue_format "your-secret-key" (by decide) ⟨trivial, trivial, trivial⟩ shallow clock
    (by decide) (by decide)

/-! ## Claims for which no token is issued -/

/-- Arrays in each other. -/
def nested : Nat → Json
  | 0 => .arr []
  | n + 1 => .arr [nested n]

theorem depth_nested (n : Nat) : (nested n).depth = n + 1 := by
  induction n with
  | zero => rfl
  | succ n ih => simp [nested, Json.depth, Json.itemsDepth, ih]

/-- No token is issued for a lifetime of a million million seconds, for claims with a number of one
digit too many, and for claims with a thousand arrays in each other. -/
theorem issue_none :
    (∀ token, issue "your-secret-key" ⟨1704067200000000⟩ (some 1000000000000000000)
        [("sub", .str "ann")] ≠ .ok token) ∧
      (∀ token, issue "your-secret-key" ⟨1704067200000000⟩ none
        [("n", .int (10 ^ Number.maxDigits))] ≠ .ok token) ∧
      ∀ token, issue "your-secret-key" ⟨1704067200000000⟩ none [("n", nested 1000)] ≠
        .ok token := by
  refine ⟨fun token h => ?_, fun token h => ?_, fun token h => ?_⟩
  · obtain ⟨-, calendar, -⟩ := issue_eq_ok_iff.mp h
    exact absurd calendar (by decide)
  · obtain ⟨-, -, written, -⟩ := issue_eq_ok_iff.mp h
    obtain ⟨_, number, -⟩ := bind_eq_ok.mp written
    have long : Number.maxDigits <
        (Number.digits (10 ^ Number.maxDigits : Int).natAbs).length := by
      have ten : (10 : Int).natAbs = 10 := rfl
      rw [Int.natAbs_pow, ten]
      exact Number.lt_length_digits (Nat.le_refl _)
    rw [Json.checkWrite, if_pos long] at number
    cases number
  · obtain ⟨-, -, written, -⟩ := issue_eq_ok_iff.mp h
    obtain ⟨_, inner, -⟩ := bind_eq_ok.mp written
    have deep := Json.depth_le_of_checkWrite _ _ inner
    rw [depth_nested] at deep
    exact absurd deep (by decide)

end Token

end Weblog
