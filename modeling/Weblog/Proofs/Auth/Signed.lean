/-
  Who gets in: a token names its caller only if it was signed under the secret, and every token
  that was not is refused in the same way.

  `Signed` says what it takes of a token without saying how it is read. A header whose values
  stand too deep in each other to be read at all is left out of the second part; no other text
  is. The payload plays no part in it: it is not read before the signature is right.
-/
import Weblog.Proofs.Bytes.Sha256
import Weblog.Proofs.Service.SignUp

namespace Weblog

/-! ## Reading within a depth -/

namespace Json

variable {limit : Nat} {cs : List Char} {v : Json}

/-- What is read within a depth is what is read without a limit. -/
theorem read_of_readWithin (h : readWithin limit cs = .ok v) : read cs = .ok v := by
  unfold readWithin at h
  split at h
  · exact h
  · split at h <;> cases h

/-- The test for a value in place of an optional one. -/
theorem eq_of_beq_some {o : Option Json} (h : (o == some v) = true) : o = some v := by
  cases o with
  | none => cases h
  | some w => exact congrArg some ((same_iff w v).mp h)

end Json

namespace Token

open Bytes (Base64Url.decode? toChars? utf8)

variable {secret token : String} {segment text head body signature : List Char}

/-! ## Parts -/

/-- The parts of a token: the text before the last dot is what is signed, and its first dot ends
the header. -/
structure Parts where
  text : List Char
  head : List Char
  body : List Char
  signature : List Char

/-- A token is made up of its parts. -/
structure IsCut (token : String) (p : Parts) : Prop where
  whole : token.toList = p.text ++ '.' :: p.signature
  last : '.' ∉ p.signature
  text : p.text = p.head ++ '.' :: p.body
  first : '.' ∉ p.head

theorem isCut_of_segments (h : segments? token = some (text, head, body, signature)) :
    IsCut token ⟨text, head, body, signature⟩ := by
  simp only [segments?, Option.bind_eq_bind, Option.bind_eq_some_iff, Option.pure_def,
    Option.some.injEq, Prod.mk.injEq, Prod.exists] at h
  obtain ⟨_, _, hlast, _, _, hfirst, rfl, rfl, rfl, rfl⟩ := h
  exact ⟨Text.eq_of_splitLast hlast, Text.not_mem_of_splitLast hlast,
    Text.eq_of_splitFirst hfirst, Text.not_mem_of_splitFirst hfirst⟩

theorem IsCut.segments {p : Parts} (h : IsCut token p) :
    segments? token = some (p.text, p.head, p.body, p.signature) := by
  have hlast : Text.splitLast '.' token.toList = some (p.text, p.signature) := by
    rw [h.whole, Text.splitLast_around h.last]
  have hfirst : Text.splitFirst '.' p.text = some (p.head, p.body) := by
    rw [h.text, Text.splitFirst_around h.first]
  simp only [segments?, hlast, Option.bind_eq_bind, Option.bind_some, hfirst, Option.pure_def]

/-! ## Segments -/

/-- A segment writes the object with some fields: its bytes are the text of that object. -/
def Writes (segment : List Char) (fields : List (String × Json)) : Prop :=
  ∃ bytes cs, Base64Url.decode? (utf8 segment) = some bytes ∧ toChars? false bytes = some cs ∧
    Json.read cs = .ok (.obj fields)

theorem writes_of_readSegment {v : Json} (h : readSegment segment = .ok v) :
    ∃ fields, v = .obj fields ∧ Writes segment fields := by
  unfold readSegment at h
  split at h
  · cases h
  · rename_i cs hcs
    obtain ⟨bytes, hbytes, hcs⟩ := Option.bind_eq_some_iff.mp hcs
    split at h
    · rename_i fields hread
      exact ⟨fields, (Except.ok.inj h).symm, bytes, cs, hbytes, hcs,
        Json.read_of_readWithin hread⟩
    · cases h
    · cases h

/-- A segment that cannot be read is refused, unless its values stand too deep. -/
theorem readSegment_error {r : Refusal} (h : readSegment segment = .error r) :
    r = .refused ∨ ∃ inner, r = .tooDeep inner := by
  unfold readSegment at h
  split at h
  · exact .inl (Except.error.inj h).symm
  · split at h
    · cases h
    · rename_i inner _ _
      exact .inr ⟨inner, (Except.error.inj h).symm⟩
    · exact .inl (Except.error.inj h).symm

/-! ## Signatures -/

/-- A token was signed under a secret: its header names the one algorithm, and its signature is
the keyed digest of the text in front of it. -/
structure Signed (secret token : String) (p : Parts) : Prop where
  cut : IsCut token p
  header : ∃ fields, Writes p.head fields ∧ fields.lookup "alg" = some (.str "HS256")
  digest : Base64Url.decode? (utf8 p.signature) =
    some (Bytes.Sha256.hmac (Bytes.ofText secret) (utf8 p.text))

/-- The digest of a text, on natural numbers. -/
theorem digest_eq (secret : String) (text : List Char) : digest secret text =
    (Bytes.Sha256.OnNat.hmac ((Bytes.ofText secret).map UInt8.toNat)
      ((utf8 text).map UInt8.toNat)).map UInt8.ofNat := Bytes.Sha256.hmac_eq _ _

theorem signed_of_payload {claims : Json} (h : payload secret token = .ok claims) :
    ∃ p fields, Signed secret token p ∧ claims = .obj fields ∧ Writes p.body fields := by
  unfold payload at h
  split at h
  · cases h
  · rename_i text head body signature hcut
    obtain ⟨v, hhead, h⟩ := bind_eq_ok.mp h
    split at h
    · rename_i hsigned
      obtain ⟨fields, rfl, hfields⟩ := writes_of_readSegment hhead
      obtain ⟨claims, rfl, hclaims⟩ := writes_of_readSegment h
      have alg : fields.lookup "alg" = some (.str "HS256") := Json.eq_of_beq_some hsigned.1
      exact ⟨⟨text, head, body, signature⟩, claims,
        ⟨isCut_of_segments hcut, ⟨fields, hfields, alg⟩, hsigned.2⟩, rfl, hclaims⟩
    · cases h

/-- The text of the header is the header of the tokens that are issued. -/
theorem readSegment_headText :
    readSegment "eyJhbGciOiJIUzI1NiIsInR5cCI6IkpXVCJ9".toList = .ok header := by
  have read : (readSegment "eyJhbGciOiJIUzI1NiIsInR5cCI6IkpXVCJ9".toList).toOption =
      some header := by
    rw [String.toList_ofList]
    decide +kernel
  exact ok_of_toOption read

/-- The payload of a token with that header whose signature is the digest. -/
theorem payload_of_digest {p : Parts} (cut : IsCut token p) (named : readSegment p.head = .ok header)
    (signs : Base64Url.decode? (utf8 p.signature) = some (digest secret p.text)) :
    payload secret token = readSegment p.body := by
  have alg : (header.field? "alg" == some (.str algorithm)) = true := by decide
  simp only [payload, cut.segments, named, bind_ok, alg, signs, and_self, if_true]

/-- A token that was not signed has no payload, and that is all there is to be told about it. -/
theorem payload_of_unsigned (unsigned : ∀ p, ¬Signed secret token p)
    (shallow : ∀ p, IsCut token p → ∀ inner, readSegment p.head ≠ .error (.tooDeep inner)) :
    payload secret token = .error .refused := by
  cases hpayload : payload secret token with
  | ok claims =>
    obtain ⟨p, -, hsigned, -⟩ := signed_of_payload hpayload
    exact absurd hsigned (unsigned p)
  | error r =>
    unfold payload at hpayload
    split at hpayload
    · rw [← Except.error.inj hpayload]
    · rename_i text head body signature hcut
      have cut := isCut_of_segments hcut
      cases hhead : readSegment head with
      | error r' =>
        -- The header is the first thing to be read: what is wrong with it is the answer.
        rw [hhead] at hpayload
        obtain rfl : r' = r := Except.error.inj hpayload
        obtain rfl | ⟨inner, rfl⟩ := readSegment_error hhead
        · rfl
        · exact absurd hhead (shallow _ cut inner)
      | ok v =>
        rw [hhead, bind_ok] at hpayload
        split at hpayload
        · rename_i hsigned
          obtain ⟨fields, rfl, hfields⟩ := writes_of_readSegment hhead
          exact absurd ⟨cut, ⟨fields, hfields, Json.eq_of_beq_some hsigned.1⟩, hsigned.2⟩
            (unsigned ⟨text, head, body, signature⟩)
        · rw [← Except.error.inj hpayload]

/-! ## Claims -/

variable {claims : List (String × Json)} {name : String} {holds : Int → Bool} {second : Int}

/-- A time claim that was checked is a whole number that passes the check. -/
theorem checkTime_eq_ok {u : Unit} (h : checkTime (.obj claims) name holds = .ok u) {v : Json}
    (hv : claims.lookup name = some v) : ∃ n, v.whole = .ok n ∧ holds n = true := by
  unfold checkTime at h
  rw [show Json.field? name (.obj claims) = some v from hv] at h
  obtain ⟨n, hn, h⟩ := bind_eq_ok.mp h
  have hwhole : v.whole = .ok n := mapError_eq_ok.mp hn
  exact ⟨n, hwhole, (else_error_eq_ok.mp h).1⟩

theorem times_of_checkClaims {u : Unit} (h : checkClaims (.obj claims) second = .ok u) :
    (∀ v, claims.lookup "exp" = some v → ∃ n, v.whole = .ok n ∧ second ≤ n) ∧
      ∀ v, claims.lookup "nbf" = some v → ∃ n, v.whole = .ok n ∧ n ≤ second := by
  simp only [checkClaims, bind_eq_ok] at h
  obtain ⟨_, -, _, hnbf, _, hexp, -⟩ := h
  refine ⟨fun v hv => ?_, fun v hv => ?_⟩
  · obtain ⟨n, hn, hle⟩ := checkTime_eq_ok hexp hv
    exact ⟨n, hn, of_decide_eq_true hle⟩
  · obtain ⟨n, hn, hle⟩ := checkTime_eq_ok hnbf hv
    exact ⟨n, hn, of_decide_eq_true hle⟩

/-- What holds of a token whose subject is accepted. -/
theorem signed_of_subject {now : Instant} {name : String}
    (h : subject secret now token = .ok name) :
    ∃ p claims, Signed secret token p ∧ Writes p.body claims ∧
      claims.lookup "sub" = some (.str name) ∧
      (∀ v, claims.lookup "exp" = some v → ∃ n, v.whole = .ok n ∧ now.second ≤ n) ∧
      ∀ v, claims.lookup "nbf" = some v → ∃ n, v.whole = .ok n ∧ n ≤ now.second := by
  obtain ⟨accepted, haccept, h⟩ := bind_eq_ok.mp h
  unfold accept at haccept
  split at haccept
  · cases haccept
  · rename_i v hpayload
    obtain ⟨u, hcheck, rfl⟩ := map_eq_ok.mp haccept
    obtain ⟨p, claims, hsigned, rfl, hclaims⟩ := signed_of_payload hpayload
    have sub : claims.lookup "sub" = some (.str name) := by
      split at h
      · rename_i s hs
        rw [← Except.ok.inj h]
        exact hs
      · cases h
    exact ⟨p, claims, hsigned, hclaims, sub, times_of_checkClaims hcheck⟩

end Token

/-! ## Callers -/

namespace Caller

open Token (Signed IsCut Writes readSegment)

/-- Of any token, whatever the table of users and the time:

1. if it names a caller, it was signed under the secret, its payload writes an object with the
   name of that user as its subject, its expiry is not over and its beginning is not ahead;
2. if it was not signed under the secret, it is refused with a challenge, and in no other way. -/
theorem only_signed_enter (secret : String) (now : Instant) (t : Tables) (token : String) :
    (∀ u, ofToken secret now t token = .ok u → u ∈ t.users ∧
      ∃ p claims, Signed secret token p ∧ Writes p.body claims ∧
        claims.lookup "sub" = some (.str u.username) ∧
        (∀ v, claims.lookup "exp" = some v → ∃ n, v.whole = .ok n ∧ now.second ≤ n) ∧
        ∀ v, claims.lookup "nbf" = some v → ∃ n, v.whole = .ok n ∧ n ≤ now.second) ∧
    ((∀ p, ¬Signed secret token p) →
      (∀ p, IsCut token p → ∀ inner, readSegment p.head ≠ .error (.tooDeep inner)) →
      ∃ r, ofToken secret now t token = .error (.refused r) ∧ r.status = 401 ∧
        r.detail = "Could not validate credentials" ∧
        r.headers = [("WWW-Authenticate", "Bearer")]) := by
  refine ⟨fun u hu => ?_, fun unsigned shallow => ⟨.badCredentials, ?_, rfl, rfl, rfl⟩⟩
  · unfold ofToken at hu
    split at hu
    · cases hu
    · rename_i name hsubject
      have found : t.userNamed? name = some u := orRefuse_eq_ok.mp hu
      have named : u.username = name := by simpa using List.find?_some found
      refine ⟨List.mem_of_find?_eq_some found, ?_⟩
      rw [named]
      exact Token.signed_of_subject hsubject
  · have refused : Token.subject secret now token = .error .refused := by
      rw [Token.subject, Token.accept, Token.payload_of_unsigned unsigned shallow]
      rfl
    rw [ofToken, refused]
    rfl

/-- A token with the name of the first user as its subject, signed under the default secret. -/
def signed : String :=
  "eyJhbGciOiJIUzI1NiIsInR5cCI6IkpXVCJ9.eyJzdWIiOiJhbm4ifQ." ++
    "q1leiY3A-fCoLFiSNas_QyUj1cdT8_ddcpY7rU5ruJ0"

theorem isCut_signed : IsCut signed
    ⟨"eyJhbGciOiJIUzI1NiIsInR5cCI6IkpXVCJ9.eyJzdWIiOiJhbm4ifQ".toList,
      "eyJhbGciOiJIUzI1NiIsInR5cCI6IkpXVCJ9".toList, "eyJzdWIiOiJhbm4ifQ".toList,
      "q1leiY3A-fCoLFiSNas_QyUj1cdT8_ddcpY7rU5ruJ0".toList⟩ where
  whole := by
    refine String.toList_append.trans ?_
    rw [String.toList_ofList, String.toList_ofList, String.toList_ofList]
    rfl
  last := by
    rw [String.toList_ofList]
    decide
  text := by
    rw [String.toList_ofList, String.toList_ofList, String.toList_ofList]
    rfl
  first := by
    rw [String.toList_ofList]
    decide

theorem payload_signed :
    Token.payload "your-secret-key" signed = .ok (.obj [("sub", .str "ann")]) := by
  have body : (readSegment "eyJzdWIiOiJhbm4ifQ".toList).toOption =
      some (.obj [("sub", .str "ann")]) := by
    rw [String.toList_ofList]
    decide +kernel
  refine (Token.payload_of_digest isCut_signed Token.readSegment_headText ?_).trans
    (ok_of_toOption body)
  rw [Token.digest_eq, Bytes.ofText, String.toList_ofList, String.toList_ofList,
    String.toList_ofList]
  decide +kernel

/-- A token with the name of the first user as its subject and with no signature. -/
def unsigned : String := "eyJhbGciOiJub25lIn0.eyJzdWIiOiJhbm4ifQ."

theorem segments_unsigned : Token.segments? unsigned =
    some ("eyJhbGciOiJub25lIn0.eyJzdWIiOiJhbm4ifQ".toList, "eyJhbGciOiJub25lIn0".toList,
      "eyJzdWIiOiJhbm4ifQ".toList, []) := by
  decide +kernel

theorem not_signed_unsigned (p : Token.Parts) : ¬Signed "your-secret-key" unsigned p := by
  intro hp
  have segments := hp.cut.segments
  rw [segments_unsigned, Option.some.injEq, Prod.mk.injEq, Prod.mk.injEq, Prod.mk.injEq] at segments
  have digest := hp.digest
  rw [← segments.1, ← segments.2.2.2] at digest
  revert digest
  decide +kernel

/-- The first user gets in with his name signed under the secret, and nobody gets in with his name
alone. -/
theorem only_ann_enters :
    (∃ p claims, Signed "your-secret-key" signed p ∧ Writes p.body claims ∧
      claims.lookup "sub" = some (.str "ann")) ∧
    ∃ r, ofToken "your-secret-key" ⟨0⟩ (Service.signedUp false ⟨0⟩).tables unsigned =
      .error (.refused r) ∧ r.status = 401 := by
  have enters : ofToken "your-secret-key" ⟨0⟩ (Service.signedUp false ⟨0⟩).tables signed =
      .ok (Service.ann ⟨0⟩) := by
    have known : (Service.signedUp false ⟨0⟩).tables.userNamed? "ann" = some (Service.ann ⟨0⟩) := rfl
    have sub : Token.subject "your-secret-key" ⟨0⟩ signed = .ok "ann" := by
      rw [Token.subject, Token.accept, payload_signed]
      rfl
    rw [ofToken, sub]
    exact orRefuse_eq_ok.mpr known
  have shallow : ∀ p, IsCut unsigned p → ∀ inner, readSegment p.head ≠ .error (.tooDeep inner) := by
    intro p cut inner
    have segments := cut.segments
    rw [segments_unsigned, Option.some.injEq, Prod.mk.injEq, Prod.mk.injEq] at segments
    rw [← segments.2.1]
    have read : (readSegment "eyJhbGciOiJub25lIn0".toList).toOption =
      some (.obj [("alg", .str "none")]) := by decide +kernel
    rw [ok_of_toOption read]
    exact fun h => by cases h
  obtain ⟨-, p, claims, sound, writes, sub, -⟩ := (only_signed_enter "your-secret-key" ⟨0⟩
    (Service.signedUp false ⟨0⟩).tables _).1 _ enters
  obtain ⟨r, refused, status, -⟩ := (only_signed_enter "your-secret-key" ⟨0⟩
    (Service.signedUp false ⟨0⟩).tables unsigned).2 not_signed_unsigned shallow
  exact ⟨⟨p, claims, sound, writes, sub⟩, r, refused, status⟩

end Caller

end Weblog
