import OpenPubkey.Client.VerifyPKToken

set_option autoImplicit false

namespace OpenPubkey.Verifier

section

variable (lib : Library)

theorem verifyProvider_binds_commitment (v : DefaultProviderVerifier) (pkt : PKToken)
    (accepted : verifyProvider lib v pkt = .ok ()) :
    ∃ cic expected claims, lib.getCicValues pkt = .ok cic ∧ lib.hash cic = .ok expected ∧
      lib.jwsVerify pkt.cicToken cic.publicKey.alg cic.publicKey.key = .ok () ∧
      unmarshalMap pkt.payload = .ok claims ∧
      (v.options.gqCommitment = false → mapGet claims v.commitmentClaim = some (.str expected)) ∧
      (v.options.gqCommitment = true →
        v.options.gqOnly = true ∧ v.options.skipClientIDCheck = true ∧ v.commitmentClaim = "" ∧
        pkt.providerAlgorithm = some gq256 ∧
        (∃ aud, mapGet claims "aud" = some (.str aud) ∧ aud.startsWith audPrefixForGQCommitment) ∧
        pkt.op.protectedHeaders.get? "cic" = some (.str expected)) := by
  obtain ⟨options, -, ⟨alg, found, only, -⟩, commitment, cicSignature⟩ :=
    (verifyProvider_eq_ok lib v pkt).1 accepted
  obtain ⟨claims, cic, expected, parsed, decoded, hashed, bound⟩ :=
    (verifyCommitment_eq_ok lib v pkt).1 commitment
  obtain ⟨cic', decoded', signed⟩ := (verifyCicSignature_eq_ok lib pkt).1 cicSignature
  obtain rfl : cic' = cic := Except.ok.inj (decoded'.symm.trans decoded)
  refine ⟨cic', expected, claims, decoded, hashed, signed, parsed, fun off => by simpa [off] using bound,
    fun enabled => ?_⟩
  obtain ⟨gqOnly, claimEmpty, skip⟩ := options enabled
  simp only [enabled, if_true] at bound
  exact ⟨gqOnly, skip, claimEmpty, by rw [found, only gqOnly], bound⟩

theorem verifyProvider_other_algorithm_eq_ok (v : DefaultProviderVerifier) (pkt : PKToken) (alg : String)
    (found : pkt.providerAlgorithm = some alg) (notGq : alg ≠ gq256) (notRs : alg ≠ rs256)
    (notOnly : v.options.gqOnly = false) :
    verifyProvider lib v pkt = .ok () ↔
      v.options.gqCommitment = false ∧
      (verifyAudience pkt v.options.clientID = .ok () ∨ v.options.skipClientIDCheck = true ∧
        ∃ message, verifyAudience pkt v.options.clientID = .error (.error message)) ∧
      verifyCommitment lib v pkt = .ok () ∧ verifyCicSignature lib pkt = .ok () := by
  rw [verifyProvider_eq_ok]
  constructor
  · rintro ⟨options, audience, -, commitment, cicSignature⟩
    refine ⟨?_, audience, commitment, cicSignature⟩
    cases gqCommitment : v.options.gqCommitment
    · rfl
    · simpa [notOnly] using options gqCommitment
  · rintro ⟨off, audience, commitment, cicSignature⟩
    exact ⟨by simp [off], audience, ⟨alg, found, by simp [notOnly], fun h => absurd h notGq,
      fun h => absurd h notRs⟩, commitment, cicSignature⟩

theorem verifyProvider_gq_issuer (v : DefaultProviderVerifier) (pkt : PKToken)
    (accepted : verifyProvider lib v pkt = .ok ()) (gq : pkt.providerAlgorithm = some gq256) :
    pkt.issuer = .ok v.issuer := by
  obtain ⟨-, -, ⟨alg, found, -, signature, -⟩, -, -⟩ := (verifyProvider_eq_ok lib v pkt).1 accepted
  obtain rfl : alg = gq256 := Option.some.inj (found.symm.trans gq)
  obtain ⟨-, -, -, -, issuer, -⟩ := (verifyGQSig_eq_ok lib v pkt).1 (signature rfl)
  exact issuer

theorem verifyProvider_skipExpirationCheck (v : DefaultProviderVerifier) (pkt : PKToken) (skip : Bool) :
    verifyProvider lib { v with options := { v.options with skipExpirationCheck := skip } } pkt =
      verifyProvider lib v pkt := rfl

end

def keyName : PublicKey → String
  | .rsa key => "rsa:" ++ toString key.n
  | .ecdsa curve x _ => "ecdsa:" ++ curve ++ ":" ++ toString x
  | .other kty material => kty ++ ":" ++ material

def signedBy (alg : String) (key : PublicKey) : String := alg ++ "/" ++ keyName key

def userKey : PublicKey := .ecdsa "P-256" 7 11

def providerKey : RsaKey := ⟨3233, 17⟩

def symbolicLibrary : Library where
  jwsVerify token alg key :=
    if token.signature = signedBy alg key then .ok () else .error "could not verify message"
  gq256VerifyJWT key token := .ok (token.signature = signedBy gq256 (.rsa key))
  originalJWTHeaders _ := .ok "eyJhbGciOiJSUzI1NiJ9"
  base64DecodeForJWT _ := .ok "\x7b\"alg\":\"RS256\"\x7d"
  unmarshalHeaders _ := .ok ⟨some rs256, some "JWT", none, []⟩
  getCicValues pkt :=
    .ok ⟨⟨userKey, "ES256"⟩, ((pkt.cic.protectedHeaders.get? "rz").bind Json.asString?).getD "", []⟩
  hash cic := .ok ("commitment-" ++ cic.rz)

def issuerURL : String := "https://accounts.example.com"

def providerFinder : PublicKeyFinder := fun issuer _ =>
  if issuer = issuerURL then .ok ⟨.rsa providerKey, rs256, issuer⟩ else .error "no keys for issuer"

def pkToken (opAlg opSignature : String) (claims : Claims) : PKToken :=
  { payload := some (.obj claims)
    op := ⟨⟨some opAlg, some "JWT", some "k1", []⟩, opSignature⟩
    cic := ⟨⟨some "ES256", some "CIC", none, [("rz", .str "r1")]⟩, signedBy "ES256" userKey⟩
    cos := none }

def verifierWith (finder : PublicKeyFinder) : DefaultProviderVerifier :=
  newProviderVerifier finder issuerURL "nonce" ⟨"verifier", false, none, false, false, false⟩

def rsToken (iss : String) : PKToken :=
  pkToken rs256 (signedBy rs256 (.rsa providerKey))
    [("iss", .str iss), ("aud", .str "verifier"), ("nonce", .str "commitment-r1")]

theorem rsToken_binds_commitment :
    verifyProvider symbolicLibrary (verifierWith providerFinder) (rsToken issuerURL) = .ok () ∧
    ∃ cic expected claims, symbolicLibrary.getCicValues (rsToken issuerURL) = .ok cic ∧
      symbolicLibrary.hash cic = .ok expected ∧
      symbolicLibrary.jwsVerify (rsToken issuerURL).cicToken cic.publicKey.alg cic.publicKey.key = .ok () ∧
      unmarshalMap (rsToken issuerURL).payload = .ok claims ∧
      ((verifierWith providerFinder).options.gqCommitment = false →
        mapGet claims (verifierWith providerFinder).commitmentClaim = some (.str expected)) ∧
      ((verifierWith providerFinder).options.gqCommitment = true →
        (verifierWith providerFinder).options.gqOnly = true ∧
        (verifierWith providerFinder).options.skipClientIDCheck = true ∧
        (verifierWith providerFinder).commitmentClaim = "" ∧
        (rsToken issuerURL).providerAlgorithm = some gq256 ∧
        (∃ aud, mapGet claims "aud" = some (.str aud) ∧ aud.startsWith audPrefixForGQCommitment) ∧
        (rsToken issuerURL).op.protectedHeaders.get? "cic" = some (.str expected)) :=
  ⟨rfl, verifyProvider_binds_commitment symbolicLibrary _ _ rfl⟩

theorem verifyProvider_accepts_unchecked_algorithm :
    (pkToken "ES256" "" [("iss", .str issuerURL), ("aud", .str "verifier"),
        ("nonce", .str "commitment-r1")]).providerAlgorithm = some "ES256" ∧
    verifyProvider symbolicLibrary (verifierWith fun _ _ => .error "no keys")
      (pkToken "ES256" "" [("iss", .str issuerURL), ("aud", .str "verifier"),
        ("nonce", .str "commitment-r1")]) = .ok () ∧
    Client.verifyPKToken
      ⟨symbolicLibrary.getCicValues, symbolicLibrary.hash, fun pkt => .ok pkt.opToken,
        fun _ _ _ => .error "bad GQ signature", fun _ => .ok (), fun key => .ok ⟨key, "ES256"⟩,
        fun _ _ _ => .error "bad cosigner signature"⟩
      { pkToken "ES256" "" [] with op := ⟨⟨some "ES256", some "COS", none, []⟩, ""⟩ }
      ⟨fun _ => .error "no keys", fun _ _ => .error "bad hash", fun _ _ => .error (.other "bad signature")⟩
      none = .ok () :=
  ⟨rfl, rfl, rfl⟩

theorem verifyProvider_accepts_foreign_issuer :
    (rsToken "https://evil.example").issuer = .ok "https://evil.example" ∧
    (verifierWith providerFinder).issuer = issuerURL ∧
    verifyProvider symbolicLibrary (verifierWith providerFinder) (rsToken "https://evil.example") = .ok () :=
  ⟨rfl, rfl, rfl⟩

theorem verifyProvider_accepts_expired_token :
    (verifierWith providerFinder).options.skipExpirationCheck = false ∧
    verifyProvider symbolicLibrary (verifierWith providerFinder)
      (pkToken rs256 (signedBy rs256 (.rsa providerKey))
        [("iss", .str issuerURL), ("aud", .str "verifier"), ("nonce", .str "commitment-r1"),
          ("exp", .num 0)]) = .ok () :=
  ⟨rfl, rfl⟩

theorem verifyAudience_panics_on_list_audiences :
    Json.str "verifier" ∈ [.num 1, .str "verifier"] ∧
    Go.Panics (verifyAudience (pkToken rs256 "" [("aud", .arr [.num 1, .str "verifier"])]) "verifier") ∧
    Go.Panics (verifyProvider symbolicLibrary
      (newProviderVerifier providerFinder issuerURL "nonce" ⟨"verifier", true, none, false, false, false⟩)
      (pkToken rs256 (signedBy rs256 (.rsa providerKey))
        [("iss", .str issuerURL), ("aud", .arr [.num 1, .str "verifier"]), ("nonce", .str "commitment-r1")])) ∧
    Go.Panics (verifyProvider symbolicLibrary
      (newProviderVerifier providerFinder issuerURL "" ⟨"", true, none, false, true, true⟩)
      (pkToken gq256 (signedBy gq256 (.rsa providerKey))
        [("iss", .str issuerURL), ("aud", .arr [.str "OPENPUBKEY-PKTOKEN:commitment-r1"])])) :=
  ⟨List.mem_cons_of_mem _ (List.mem_singleton_self _), ⟨_, rfl⟩, ⟨_, rfl⟩, ⟨_, rfl⟩⟩

end OpenPubkey.Verifier
