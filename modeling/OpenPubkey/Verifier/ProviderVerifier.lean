import OpenPubkey.PKToken

set_option autoImplicit false

namespace OpenPubkey.Verifier

def audPrefixForGQCommitment : String := "OPENPUBKEY-PKTOKEN:"

def gq256 : String := "GQ256"

def rs256 : String := "RS256"

def errNonGQUnsupported : String := "non-GQ signatures are not supported"

abbrev PublicKeyFinder := String → Jws → Except String PublicKeyRecord

structure ProviderVerifierOpts where
  clientID : String
  skipClientIDCheck : Bool
  discoverPublicKey : Option PublicKeyFinder
  skipExpirationCheck : Bool
  gqOnly : Bool
  gqCommitment : Bool

structure DefaultProviderVerifier where
  issuer : String
  commitmentClaim : String
  options : ProviderVerifierOpts

def newProviderVerifier (defaultPubkeyFinder : PublicKeyFinder) (issuer commitmentClaim : String)
    (options : ProviderVerifierOpts) : DefaultProviderVerifier :=
  { issuer, commitmentClaim,
    options := { options with
      discoverPublicKey := some (options.discoverPublicKey.getD defaultPubkeyFinder) } }

section

variable (lib : Library)

def byToken (v : DefaultProviderVerifier) (token : Jws) : Go PublicKeyRecord := do
  let finder ← Go.assert nilDereference v.options.discoverPublicKey
  Go.lift (finder v.issuer token)

def providerPublicKey (v : DefaultProviderVerifier) (pkt : PKToken) : Go PublicKeyRecord :=
  byToken v pkt.opToken

def originalTokenHeaders (token : Jws) : Go Headers := do
  let origHeadersB64 ← Go.wrap "malformatted PK token headers: " (Go.lift (lib.originalJWTHeaders token))
  let origHeaders ← Go.wrap "error decoding original token headers: "
    (Go.lift (lib.base64DecodeForJWT origHeadersB64))
  Go.wrap "error parsing segment: " (Go.lift (lib.unmarshalHeaders origHeaders))

def verifyGQSig (v : DefaultProviderVerifier) (pkt : PKToken) : Go Unit := do
  let alg ← Go.expect "missing provider algorithm header" pkt.providerAlgorithm
  Go.failIf (alg ≠ gq256) "signature is not of type GQ"
  let origHeaders ← Go.wrap "malformatted PK token headers: " (originalTokenHeaders lib pkt.opToken)
  let alg := origHeaders.algorithm
  Go.failIf (alg ≠ rs256) ("expected original headers to contain RS256 alg, got " ++ alg)
  let pktIssuer ← Go.wrap "missing issuer: " pkt.issuer
  Go.failIf (pktIssuer ≠ v.issuer)
    ("issuer of PK token (" ++ pktIssuer ++ ") doesn't match expected issuer (" ++ v.issuer ++ ")")
  let publicKeyRecord ← Go.wrap "failed to get provider public key: " (byToken v pkt.opToken)
  let rsaKey ← Go.expect "jwk is not an RSA key" publicKeyRecord.publicKey.asRsa
  let ok ← Go.lift (lib.gq256VerifyJWT rsaKey pkt.opToken)
  Go.failIf (ok = false) "error verifying OP GQ signature on PK Token (ID Token invalid)"

def verifyCommitment (v : DefaultProviderVerifier) (pkt : PKToken) : Go Unit := do
  let claims ← unmarshalMap pkt.payload
  let cic ← Go.lift (lib.getCicValues pkt)
  let expectedCommitment ← Go.lift (lib.hash cic)
  let commitment ← if v.options.gqCommitment then do
      let aud ← Go.expect "require audience claim prefix missing in PK Token's GQCommitment"
        (mapGet claims "aud")
      let audience ← Go.assert notString aud.asString?
      Go.failIf (!audience.startsWith audPrefixForGQCommitment)
        ("audience claim in PK Token's GQCommitment must be prefixed by (" ++
          audPrefixForGQCommitment ++ "), got (" ++ audience ++ ") instead")
      Go.expect "missing GQ commitment" (pkt.op.protectedHeaders.get? "cic")
    else Go.expect ("missing commitment claim " ++ v.commitmentClaim) (mapGet claims v.commitmentClaim)
  Go.failIf (commitment.asString? ≠ some expectedCommitment)
    ("commitment claim doesn't match, got " ++ commitment.render ++ ", expected " ++ expectedCommitment)

/-- The `range` loop over a list audience: `audience.(string)` panics on the
first member that is not a string, unless a match came before it. -/
def audienceMember (clientID : String) (aud : List Json) : List Json → Go Unit
  | [] => Go.fail ("audience does not contain clientID " ++ clientID ++ ", aud = " ++ (Json.arr aud).render)
  | audience :: rest => do
    let audience ← Go.assert notString audience.asString?
    if audience = clientID then pure () else audienceMember clientID aud rest

def verifyAudience (pkt : PKToken) (clientID : String) : Go Unit := do
  let claims ← unmarshalStruct [] pkt.payload
  match fieldAny claims "aud" with
  | .str aud =>
    Go.failIf (aud ≠ clientID) ("audience does not contain clientID " ++ clientID ++ ", aud = " ++ aud)
  | .arr aud => audienceMember clientID aud aud
  | _ => Go.fail "missing audience claim"

def verifyCicSignature (pkt : PKToken) : Go Unit := do
  let cic ← Go.lift (lib.getCicValues pkt)
  Go.lift (lib.jwsVerify pkt.cicToken cic.publicKey.alg cic.publicKey.key)

def verifyProvider (v : DefaultProviderVerifier) (pkt : PKToken) : Go Unit := do
  (if v.options.gqCommitment then do
    Go.failIf (!v.options.gqOnly)
      ("GQCommitment requires that GQOnly is true, but GQOnly is (" ++ toString v.options.gqOnly ++ ")")
    Go.failIf (v.commitmentClaim ≠ "")
      ("GQCommitment requires that commitmentClaim is empty but commitmentClaim is (" ++
        v.commitmentClaim ++ ")")
    Go.failIf (!v.options.skipClientIDCheck)
      "GQCommitment requires that audience (aud) is not set to client-id"
  else pure ())
  let audienceErr ← Go.errOf (verifyAudience pkt v.options.clientID)
  Go.failIf (audienceErr.isSome ∧ !v.options.skipClientIDCheck) (audienceErr.getD "")
  let alg ← Go.expect "provider algorithm type missing" pkt.providerAlgorithm
  Go.failIf (alg ≠ gq256 ∧ v.options.gqOnly) errNonGQUnsupported
  -- the switch on `alg` has no default case
  (if alg = gq256 then
    Go.wrap "error verifying OP GQ signature on PK Token: " (verifyGQSig lib v pkt)
  else if alg = rs256 then do
    let pubKeyRecord ← Go.wrap "failed to get OP public key: " (providerPublicKey v pkt)
    Go.lift (lib.jwsVerify pkt.opToken alg pubKeyRecord.publicKey)
  else pure ())
  verifyCommitment lib v pkt
  Go.wrap "error verifying client signature on PK Token: " (verifyCicSignature lib pkt)

theorem byToken_eq_ok (v : DefaultProviderVerifier) (token : Jws) (record : PublicKeyRecord) :
    byToken v token = .ok record ↔
      ∃ finder, v.options.discoverPublicKey = some finder ∧ finder v.issuer token = .ok record := by
  simp [byToken]

theorem verifyCicSignature_eq_ok (pkt : PKToken) :
    verifyCicSignature lib pkt = .ok () ↔
      ∃ cic, lib.getCicValues pkt = .ok cic ∧
        lib.jwsVerify pkt.cicToken cic.publicKey.alg cic.publicKey.key = .ok () := by
  simp [verifyCicSignature]

theorem verifyGQSig_eq_ok (v : DefaultProviderVerifier) (pkt : PKToken) :
    verifyGQSig lib v pkt = .ok () ↔
      pkt.providerAlgorithm = some gq256 ∧
      ∃ orig, originalTokenHeaders lib pkt.opToken = .ok orig ∧ orig.algorithm = rs256 ∧
        pkt.issuer = .ok v.issuer ∧
        ∃ record key, byToken v pkt.opToken = .ok record ∧ record.publicKey.asRsa = some key ∧
          lib.gq256VerifyJWT key pkt.opToken = .ok true := by
  simp only [verifyGQSig, Go.bind_eq_ok, Go.expect_eq_ok, Go.failIf_eq_ok, Go.wrap_eq_ok, Go.lift_eq_ok,
    not_not, exists_const, Bool.not_eq_false]
  constructor
  · rintro ⟨_, algorithm, rfl, orig, headers, rs, _, issuer, rfl, record, found, key, rsa, _, ok, rfl⟩
    exact ⟨algorithm, orig, headers, rs, issuer, record, key, found, rsa, ok⟩
  · rintro ⟨algorithm, orig, headers, rs, issuer, record, key, found, rsa, ok⟩
    exact ⟨_, algorithm, rfl, orig, headers, rs, _, issuer, rfl, record, found, key, rsa, _, ok, rfl⟩

@[simp] theorem audienceMember_cons (clientID : String) (aud rest : List Json) (x : Json) :
    audienceMember clientID aud (x :: rest) =
      match x.asString? with
      | some s => if s = clientID then .ok () else audienceMember clientID aud rest
      | none => Go.crash notString := by
  cases x <;> simp [audienceMember, Go.assert, Json.asString?]

theorem audienceMember_eq_ok (clientID : String) (aud xs : List Json) :
    audienceMember clientID aud xs = .ok () ↔
      ∃ pre post, xs = pre ++ .str clientID :: post ∧ ∀ x ∈ pre, ∃ s, x = .str s := by
  induction xs with
  | nil => simp [audienceMember, Go.fail]
  | cons x rest ih =>
    rcases x with _ | _ | _ | s | _ | _ <;> simp only [audienceMember_cons, Json.asString?, Go.crash]
    case str =>
      by_cases same : s = clientID
      · subst same
        rw [if_pos rfl]
        simp only [true_iff]
        exact ⟨[], rest, rfl, by simp⟩
      · simp only [same, if_false, ih]
        constructor
        · rintro ⟨pre, post, rfl, strings⟩
          exact ⟨.str s :: pre, post, rfl, by simpa using strings⟩
        · rintro ⟨_ | ⟨y, pre⟩, post, split, strings⟩
          · simp_all
          · simp only [List.cons_append, List.cons.injEq] at split
            obtain ⟨rfl, rfl⟩ := split
            exact ⟨pre, post, rfl, fun x hx => strings x (by simp [hx])⟩
    all_goals
      simp only [reduceCtorEq, false_iff, not_exists, not_and]
      rintro (_ | ⟨y, pre⟩) post split strings
      all_goals simp only [List.nil_append, List.cons_append, List.cons.injEq, reduceCtorEq, false_and] at split
      obtain ⟨rfl, -⟩ := split
      simpa using strings _ (List.mem_cons_self _ _)

theorem verifyCommitment_eq_ok (v : DefaultProviderVerifier) (pkt : PKToken) :
    verifyCommitment lib v pkt = .ok () ↔
      ∃ claims cic expected, unmarshalMap pkt.payload = .ok claims ∧ lib.getCicValues pkt = .ok cic ∧
        lib.hash cic = .ok expected ∧
        if v.options.gqCommitment then
          (∃ aud, mapGet claims "aud" = some (.str aud) ∧ aud.startsWith audPrefixForGQCommitment) ∧
            pkt.op.protectedHeaders.get? "cic" = some (.str expected)
        else mapGet claims v.commitmentClaim = some (.str expected) := by
  cases gq : v.options.gqCommitment
  case false => simp [verifyCommitment, gq]
  case true =>
    simp only [verifyCommitment, gq, if_true, Go.bind_eq_ok, Go.lift_eq_ok, Go.expect_eq_ok,
      Go.assert_eq_ok, Json.asString?_eq_some, Go.failIf_eq_ok, Bool.not_eq_true', Bool.not_eq_false, not_not, exists_const]
    constructor
    · rintro ⟨claims, parsed, cic, found, expected, hashed, _, aud, audience, rfl, prefixed, _, header, rfl⟩
      exact ⟨claims, cic, expected, parsed, found, hashed, ⟨audience, aud, prefixed⟩, header⟩
    · rintro ⟨claims, cic, expected, parsed, found, hashed, ⟨audience, aud, prefixed⟩, header⟩
      exact ⟨claims, parsed, cic, found, expected, hashed, _, aud, audience, rfl, prefixed, _, header, rfl⟩

def AudienceContains (clientID : String) : Json → Prop
  | .str aud => aud = clientID
  | .arr auds => ∃ pre post, auds = pre ++ .str clientID :: post ∧ ∀ x ∈ pre, ∃ s, x = .str s
  | _ => False

theorem verifyAudience_eq_ok (pkt : PKToken) (clientID : String) :
    verifyAudience pkt clientID = .ok () ↔
      ∃ claims, unmarshalStruct [] pkt.payload = .ok claims ∧
        AudienceContains clientID (fieldAny claims "aud") := by
  simp only [verifyAudience, Go.bind_eq_ok]
  refine exists_congr fun claims => and_congr_right fun _ => ?_
  cases fieldAny claims "aud" <;> simp [AudienceContains, audienceMember_eq_ok, Go.fail]

structure Accepts (v : DefaultProviderVerifier) (pkt : PKToken) : Prop where
  gqCommitmentOptions : v.options.gqCommitment = true →
    v.options.gqOnly = true ∧ v.commitmentClaim = "" ∧ v.options.skipClientIDCheck = true
  audience : verifyAudience pkt v.options.clientID = .ok () ∨
    v.options.skipClientIDCheck = true ∧
      ∃ message, verifyAudience pkt v.options.clientID = .error (.error message)
  algorithm : ∃ alg, pkt.providerAlgorithm = some alg ∧ (v.options.gqOnly = true → alg = gq256) ∧
    (alg = gq256 → verifyGQSig lib v pkt = .ok ()) ∧
    (alg = rs256 → ∃ record, providerPublicKey v pkt = .ok record ∧
      lib.jwsVerify pkt.opToken alg record.publicKey = .ok ())
  commitment : verifyCommitment lib v pkt = .ok ()
  cicSignature : verifyCicSignature lib pkt = .ok ()

private theorem gqCommitmentOptions_eq_ok (gqCommitment gqOnly skip : Bool) (claim m1 m2 m3 : String) :
    (if gqCommitment = true then do
        Go.failIf ((!gqOnly) = true) m1
        Go.failIf (claim ≠ "") m2
        Go.failIf ((!skip) = true) m3
      else pure ()) = .ok () ↔
      (gqCommitment = true → gqOnly = true ∧ claim = "" ∧ skip = true) := by
  cases gqCommitment <;> simp

private theorem audienceGuard_eq_ok (x : Go Unit) (skip : Bool) (rest : Prop) :
    (∃ e, Go.errOf x = .ok e ∧ ¬(e.isSome = true ∧ (!skip) = true) ∧ rest) ↔
      (x = .ok () ∨ skip = true ∧ ∃ m, x = .error (.error m)) ∧ rest := by
  rcases x with (m | r) | ⟨⟩ <;> cases skip <;> simp [Go.errOf]

private theorem switch_eq_ok (alg : String) (gq rs : Go Unit) :
    (if alg = gq256 then gq else if alg = rs256 then rs else pure ()) = .ok () ↔
      (alg = gq256 → gq = .ok ()) ∧ (alg = rs256 → rs = .ok ()) := by
  by_cases g : alg = gq256
  · subst g
    simp [show gq256 ≠ rs256 by decide]
  · by_cases r : alg = rs256
    · subst r
      simp [show rs256 ≠ gq256 by decide]
    · simp [g, r]

theorem verifyProvider_eq_ok (v : DefaultProviderVerifier) (pkt : PKToken) :
    verifyProvider lib v pkt = .ok () ↔ Accepts lib v pkt := by
  simp only [verifyProvider, Go.bind_eq_ok, Go.exists_unit, gqCommitmentOptions_eq_ok, Go.failIf_eq_ok,
    audienceGuard_eq_ok, switch_eq_ok, Go.expect_eq_ok, Go.wrap_eq_ok, Go.lift_eq_ok, exists_eq_left']
  simp only [not_and', not_not]
  constructor
  · rintro ⟨options, audience, alg, found, only, ⟨gq, rs⟩, commitment, cic⟩
    exact ⟨options, audience, ⟨alg, found, only, gq, rs⟩, commitment, cic⟩
  · rintro ⟨options, audience, ⟨alg, found, only, gq, rs⟩, commitment, cic⟩
    exact ⟨options, audience, alg, found, only, ⟨gq, rs⟩, commitment, cic⟩

end

end OpenPubkey.Verifier

