/-
  Issued tokens: what was signed under a secret is the payload that is read under it, and a token
  that was given for a user names that user as long as it lasts.

  The first part is about any claims, if they are read back from their text and do not stand too
  deep in each other. The second is about the one claim that a login makes. It lasts up to and with
  the whole second at the end of its lifetime.
-/
import Mathlib.Algebra.Group.Nat.Defs
import Weblog.Proofs.Auth.Signed
import Weblog.Proofs.Bytes.Base64Url
import Weblog.Proofs.Json.Written

namespace Weblog

/-! ## Numbers of few digits -/

theorem Number.length_digits_le {n k : Nat} (some : 0 < k) (h : n < 10 ^ k) :
    (digits n).length ≤ k := by
  induction k generalizing n with
  | zero => cases some
  | succ k ih =>
    rw [digits]
    split
    · exact Nat.succ_le_succ (Nat.zero_le k)
    · rename_i large
      have front : 0 < k := by
        rcases Nat.eq_zero_or_pos k with rfl | pos
        · rw [Nat.pow_succ, Nat.pow_zero, Nat.one_mul] at h
          exact absurd h large
        · exact pos
      have shorter : n / 10 < 10 ^ k := by
        rw [Nat.pow_succ] at h
        exact Nat.div_lt_of_lt_mul (Nat.mul_comm _ _ ▸ h)
      rw [List.length_append, List.length_singleton]
      exact Nat.succ_le_succ (ih front shorter)

theorem Instant.second_eq (t : Instant) : t.second = t.micros / 1000000 :=
  Int.fdiv_eq_ediv_of_nonneg t.micros (by decide)

/-- The seconds of the calendar have few digits. -/
theorem Instant.digits_second {t : Instant} (h : t.isRepresentable = true) :
    (Number.digits t.second.natAbs).length ≤ Number.maxDigits := by
  have first : earliest.micros = -62135596800000000 := by decide
  have last : latest.micros = 253402300799999999 := by decide
  simp only [isRepresentable, first, last, Bool.and_eq_true, decide_eq_true_eq] at h
  have few : t.second.natAbs < 10 ^ 12 := by
    rw [second_eq]
    omega
  exact Nat.le_trans (Number.length_digits_le (by decide) few) (by decide)

namespace Token

open Bytes (Base64Url.decode? Base64Url.encode utf8)

variable {secret : String} {fields : List (String × Json)}

/-! ## Signing and reading -/

/-- A segment of an object is read as that object. -/
theorem readSegment_segment (h : (Json.obj fields).Exact)
    (shallow : (Json.obj fields).depth ≤ maxDepth) :
    readSegment (segment (.obj fields)) = .ok (.obj fields) := by
  have value := Json.readWithin_writeAt Json.readable_compactAscii h shallow
  simp only [readSegment, segment, Bytes.Base64Url.decode?_encode, Option.bind_some,
    Bytes.toChars?_utf8, value]

theorem dot_notMem_encode (bs : Bytes) : '.' ∉ Base64Url.encode bs := by
  intro h
  obtain ⟨n, hn, dot⟩ := Bytes.Base64Url.exists_digit h
  have table : ∀ d < 64, '.' ≠ Bytes.Base64Url.digit d := by decide
  exact table n hn dot

/-- The text in front of the signature. -/
def signedText (v : Json) : List Char := segment header ++ '.' :: segment v

theorem isCut_sign (secret : String) (v : Json) :
    IsCut (sign secret v) ⟨signedText v, segment header, segment v,
      Base64Url.encode (digest secret (signedText v))⟩ where
  whole := String.toList_ofList
  last := dot_notMem_encode _
  text := rfl
  first := dot_notMem_encode _

theorem readSegment_header : readSegment (segment header) = .ok header :=
  readSegment_segment ⟨by decide, trivial, trivial, trivial⟩ (by decide)

/-- The payload of a token is what was signed. -/
theorem payload_sign (secret : String) (h : (Json.obj fields).Exact)
    (shallow : (Json.obj fields).depth ≤ maxDepth) :
    payload secret (sign secret (.obj fields)) = .ok (.obj fields) := by
  have alg : (header.field? "alg" == some (.str algorithm)) = true := by decide
  rw [payload, (isCut_sign secret (.obj fields)).segments]
  simp only [readSegment_header, bind_ok, alg, Bytes.Base64Url.decode?_encode, and_self, if_true,
    readSegment_segment h shallow]

/-- A token holds no white space. -/
theorem isBlankChar_of_mem_sign {v : Json} {c : Char} (h : c ∈ (sign secret v).toList) :
    Text.isBlankChar c = false := by
  have digit : ∀ bs, ∀ d ∈ Base64Url.encode bs, Text.isBlankChar d = false := by
    intro bs d hd
    obtain ⟨n, hn, rfl⟩ := Bytes.Base64Url.exists_digit hd
    have table : ∀ n < 64, Text.isBlankChar (Bytes.Base64Url.digit n) = false := by decide
    exact table n hn
  rw [(isCut_sign secret v).whole, List.mem_append, List.mem_cons] at h
  rcases h with h | rfl | h
  · rw [signedText, List.mem_append, List.mem_cons] at h
    rcases h with h | rfl | h
    · exact digit _ c h
    · decide
    · exact digit _ c h
  · decide
  · exact digit _ c h

/-! ## Tokens of logins -/

/-- The claims of a token: the name of the user, and the second in which it expires. -/
theorem put_claims (name : String) (second : Int) :
    Json.put (Users.claims name) "exp" (.int second) =
      [("sub", .str name), ("exp", .int second)] := rfl

/-- Of these claims only the expiry can fail. -/
theorem checkClaims_login (name : String) (expiry second : Int) :
    checkClaims (.obj [("sub", .str name), ("exp", .int expiry)]) second =
      if second ≤ expiry then .ok () else .error .refused := by
  generalize hclaims : Json.obj [("sub", .str name), ("exp", .int expiry)] = claims
  have sub : claims.field? "sub" = some (.str name) := hclaims ▸ rfl
  have exp : claims.field? "exp" = some (.int expiry) := hclaims ▸ rfl
  have absent : ∀ other, other ≠ "sub" → other ≠ "exp" → claims.field? other = none := by
    intro other notSub notExp
    rw [← hclaims, Json.field?, List.lookup_cons, beq_false_of_ne notSub, List.lookup_cons,
      beq_false_of_ne notExp]
    rfl
  have iat : checkTime claims "iat" (fun _ => true) = .ok () := by
    rw [checkTime, absent "iat" (by decide) (by decide)]
  have nbf : checkTime claims "nbf" (fun n => n ≤ second) = .ok () := by
    rw [checkTime, absent "nbf" (by decide) (by decide)]
  have aud : checkAbsent claims "aud" = .ok () := by
    rw [checkAbsent, absent "aud" (by decide) (by decide)]
    rfl
  have text : checkText claims "sub" = .ok () := by
    rw [checkText, sub]
  have jti : checkText claims "jti" = .ok () := by
    rw [checkText, absent "jti" (by decide) (by decide)]
  have atHash : checkAbsent claims "at_hash" = .ok () := by
    rw [checkAbsent, absent "at_hash" (by decide) (by decide)]
    rfl
  have time : checkTime claims "exp" (fun n => second ≤ n) =
      if second ≤ expiry then .ok () else .error .refused := by
    rw [checkTime, exp]
    simp only [wholeNumber, Json.whole_int, Except.mapError, bind_ok, decide_eq_true_eq]
  rw [checkClaims, iat, nbf, time, aud, text, jti, atHash]
  by_cases h : second ≤ expiry
  · rw [if_pos h]
    rfl
  · rw [if_neg h]
    rfl

/-- The claims of a login are read back: the calendar has no second of too many digits. -/
theorem exact_claims (name : String) {expiry : Instant} (h : expiry.isRepresentable = true) :
    (Json.obj [("sub", .str name), ("exp", .int expiry.second)]).Exact := by
  have names : ["sub", "exp"].Nodup := by decide
  exact ⟨names, trivial, Instant.digits_second h, trivial⟩

section Issue

variable {now : Instant} {lifetime : Option Int} {claims : List (String × Json)}

/-- A token is issued if its lifetime is a span, ends in the calendar, and the claims with their
expiry have a text. -/
theorem issue_eq_ok_iff {token : String} : issue secret now lifetime claims = .ok token ↔
    Span.check (lifetimeOr lifetime) = .ok () ∧
      (now.later (lifetimeOr lifetime)).isRepresentable = true ∧
      (Json.obj (Json.put claims "exp" (.int (now.later (lifetimeOr lifetime)).second))).checkWrite
        maxDepth = .ok () ∧
      sign secret (.obj (Json.put claims "exp" (.int (now.later (lifetimeOr lifetime)).second))) =
        token := by
  unfold issue
  cases Span.check (lifetimeOr lifetime) with
  | error e => simp only [reduceCtorEq, false_and]
  | ok u =>
    simp only [true_and]
    by_cases calendar : (now.later (lifetimeOr lifetime)).isRepresentable = true
    · rw [if_pos calendar]
      cases (Json.obj (Json.put claims "exp"
          (.int (now.later (lifetimeOr lifetime)).second))).checkWrite maxDepth with
      | error e => simp only [reduceCtorEq, false_and, and_false]
      | ok u => simp only [calendar, true_and, Except.ok.injEq]
    · rw [if_neg calendar]
      simp only [calendar, reduceCtorEq, false_and]

theorem issue_eq_ok (span : Span.check (lifetimeOr lifetime) = .ok ())
    (calendar : (now.later (lifetimeOr lifetime)).isRepresentable = true)
    (written : (Json.obj (Json.put claims "exp"
      (.int (now.later (lifetimeOr lifetime)).second))).checkWrite maxDepth = .ok ()) :
    issue secret now lifetime claims = .ok (sign secret (.obj (Json.put claims "exp"
      (.int (now.later (lifetimeOr lifetime)).second)))) :=
  issue_eq_ok_iff.mpr ⟨span, calendar, written, rfl⟩

/-- A token is issued under the secret for an expiry that is in the calendar. -/
theorem sign_of_issue {token : String} (h : issue secret now lifetime claims = .ok token) :
    (now.later (lifetimeOr lifetime)).isRepresentable = true ∧
      token = sign secret (.obj (Json.put claims "exp"
        (.int (now.later (lifetimeOr lifetime)).second))) := by
  obtain ⟨-, calendar, -, rfl⟩ := issue_eq_ok_iff.mp h
  exact ⟨calendar, rfl⟩

/-- The claims of a login have a text. -/
theorem checkWrite_claims (name : String) {expiry : Instant} (h : expiry.isRepresentable = true) :
    (Json.obj (Json.put (Users.claims name) "exp" (.int expiry.second))).checkWrite maxDepth =
      .ok () := by
  have shallow : (Json.obj [("sub", .str name), ("exp", .int expiry.second)]).depth ≤ maxDepth := by
    show 1 ≤ maxDepth
    decide
  exact Json.checkWrite_of_exact _ (exact_claims name h) maxDepth shallow

/-- The time between two dates of the calendar is a span. -/
theorem span_check_ok {micros : Int} (clock : now.isRepresentable = true)
    (expiry : (now.later micros).isRepresentable = true) : Span.check micros = .ok () := by
  have first : Instant.earliest.micros = -62135596800000000 := by decide
  have last : Instant.latest.micros = 253402300799999999 := by decide
  simp only [Instant.isRepresentable, Instant.later, first, last, Bool.and_eq_true,
    decide_eq_true_eq] at clock expiry
  have days : Span.days micros = micros / 86400000000 :=
    Int.fdiv_eq_ediv_of_nonneg micros (by decide)
  simp only [Span.check, Span.maxDays, days]
  rw [if_neg (by omega), if_neg (by omega)]

/-- A token is issued for a login if the times of its beginning and its end are in the calendar. -/
theorem issue_ok (secret name : String) (clock : now.isRepresentable = true)
    (expiry : (now.later (lifetimeOr lifetime)).isRepresentable = true) :
    ∃ token, issue secret now lifetime (Users.claims name) = .ok token :=
  ⟨_, issue_eq_ok (span_check_ok clock expiry) expiry (checkWrite_claims name expiry)⟩

end Issue

/-- A token that was given for a user names that user until its lifetime is over, and is refused
after that. -/
theorem subject_issue {now : Instant} {lifetime : Option Int} {name token : String}
    (h : issue secret now lifetime (Users.claims name) = .ok token) (later : Instant) :
    subject secret later token =
      if later.second ≤ (now.later (lifetimeOr lifetime)).second then .ok name
      else .error .refused := by
  obtain ⟨calendar, rfl⟩ := sign_of_issue h
  have shallow : (Json.obj [("sub", .str name),
      ("exp", .int (now.later (lifetimeOr lifetime)).second)]).depth ≤ maxDepth := by
    show 1 ≤ maxDepth
    decide
  rw [put_claims, subject, accept, payload_sign secret (exact_claims name calendar) shallow]
  simp only [checkClaims_login]
  by_cases h : later.second ≤ (now.later (lifetimeOr lifetime)).second
  · rw [if_pos h, if_pos h]
    rfl
  · rw [if_neg h, if_neg h]
    rfl

end Token

/-- A token without white space is found in its header. -/
theorem Caller.token?_bearer {token : String}
    (h : ∀ c ∈ token.toList, Text.isBlankChar c = false) :
    token? (some ("Bearer " ++ token)) = some token := by
  have cs : ("Bearer " ++ token).toList = 'B' :: 'e' :: 'a' :: 'r' :: 'e' :: 'r' :: ' ' ::
      token.toList := by
    rw [String.toList_append]
    rfl
  have trimmed : Text.trimBoth Text.isBlankChar token.toList = token.toList :=
    Email.trimBoth_eq_self h
  have scheme : ('B' :: 'e' :: 'a' :: 'r' :: 'e' :: 'r' :: ' ' :: token.toList).takeWhile (· ≠ ' ') =
      "Bearer".toList := rfl
  have rest : (('B' :: 'e' :: 'a' :: 'r' :: 'e' :: 'r' :: ' ' :: token.toList).dropWhile
      (· ≠ ' ')).drop 1 = token.toList := rfl
  have bearer : "Bearer".toList.map Char.toLower = "bearer".toList := by decide
  simp only [token?, cs, scheme, rest, bearer, if_true, trimmed, String.ofList_toList]

end Weblog
