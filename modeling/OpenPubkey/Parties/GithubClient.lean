import OpenPubkey.PKToken

set_option autoImplicit false

namespace OpenPubkey.Parties

def githubIssuer : String := "https://token.actions.githubusercontent.com"

structure GithubPKToken where
  cicPH : String
  opSigGQ : Bool

structure JwksKey where
  alg : String
  keyType : String
  raw : Except String RsaKey

structure GithubLibrary where
  fromJSON : String → Except String GithubPKToken
  base64DecodeForJWT : String → Except String String
  b64SHA3_256 : String → String
  opJWSCompact : GithubPKToken → String
  /-- `jws.Parse(idt)`, then `j.Signatures()[0]`'s protected `alg` and `kid`. `PublicKey` is only
  called on `OpJWSCompact()`, a compact JWS, which parses to exactly one signature, so the index
  never panics and is not modelled. -/
  parseHeaders : String → Except String (String × String)
  discoverJwksURI : Except String String
  fetchJwks : String → Except String (String → Option JwksKey)
  splitJWT : String → Except String (String × String)
  gqVerify : RsaKey → String → String → Bool
  parseJson : String → Option Json
  jwtParse : String → String → String → Int → RsaKey → Int → Except String Unit
  verifyCicSig : GithubPKToken → Except String Unit
  fromRaw : PublicKey → Except String Jwk
  verifyCosSig : GithubPKToken → Jwk → String → Except String Unit

def quoteAny : Option Json → String
  | some (.str s) => "\"" ++ s ++ "\""
  | none => "%!q(<nil>)"
  | some v => "%!q(" ++ v.render ++ ")"

section

variable (lib : GithubLibrary)

def publicKey (idt : String) : Go RsaKey := do
  let (alg, kid) ← Go.wrap "failed to parse JWS: " (Go.lift (lib.parseHeaders idt))
  Go.failIf (alg ≠ "RS256") ("expected RS256 alg claim, got " ++ alg)
  let jwksURI ← Go.wrap "failed to call OIDC discovery endpoint: " (Go.lift lib.discoverJwksURI)
  let jwks ← Go.wrap "failed to fetch to JWKS: " (Go.lift (lib.fetchJwks jwksURI))
  let key ← Go.expect ("key " ++ quoteAny (some (.str kid)) ++ " isn't in JWKS") (jwks kid)
  Go.failIf (key.alg ≠ "RS256") ("expected RS256 key, got " ++ key.alg)
  Go.failIf (key.keyType ≠ "RSA") ("expected RSA key type, got " ++ key.keyType)
  Go.wrap "failed to decode public key: " (Go.lift key.raw)

/-- The GQ branch: the GQ signature, then the payload's `aud` against `expectedAud`.
The error of `json.Unmarshal` on the payload is dropped, leaving the map `nil`. -/
def verifyGQ (idt expectedAud : String) (rsaPubKey : RsaKey) : Go Unit := do
  let (signingPayload, signature) ← Go.wrap "failed to split/decode JWT: " (Go.lift (lib.splitJWT idt))
  Go.failIf (!lib.gqVerify rsaPubKey signature signingPayload)
    "error verifying OP GQ signature on PK Token (ID Token invalid)"
  let pieces := signingPayload.splitOn "."
  let payloadB64 ← Go.assert ("index out of range [1] with length " ++ toString pieces.length) pieces[1]?
  let payloadJSON ← (match lib.base64DecodeForJWT payloadB64 with
    | .ok payloadJSON => pure payloadJSON
    | .error _ => Go.fail "failed to decode payload")
  let payload := match unmarshalMap (lib.parseJson payloadJSON) with
    | .ok payload => payload
    | .error _ => []
  let aud := mapGet payload "aud"
  Go.failIf ((aud.bind Json.asString?) ≠ some expectedAud)
    ("aud doesn't match, got " ++ quoteAny aud ++ ", expected " ++ quoteAny (some (.str expectedAud)))

def verifyPKToken (now : Int) (pktJSON : String) (cosPk : Option PublicKey) : Go Claims := do
  let pkt ← Go.wrap "error parsing PK Token: " (Go.lift (lib.fromJSON pktJSON))
  let cicphJSON ← Go.lift (lib.base64DecodeForJWT pkt.cicPH)
  let expectedAud := lib.b64SHA3_256 cicphJSON
  let idt := lib.opJWSCompact pkt
  let rsaPubKey ← Go.wrap "failed to get OP public key: " (publicKey lib idt)
  (if pkt.opSigGQ then verifyGQ lib idt expectedAud rsaPubKey
  else Go.wrap "failed to verify token: " (Go.lift (lib.jwtParse idt expectedAud githubIssuer 5000000000 rsaPubKey now)))
  Go.wrap "error verifying CIC signature on PK Token: " (Go.lift (lib.verifyCicSig pkt))
  (match cosPk with
  | none => pure ()
  | some cosPk => do
    let cosPkJwk ← Go.wrap "error verifying CIC signature on PK Token: " (Go.lift (lib.fromRaw cosPk))
    Go.wrap "error verify cosigner signature on PK Token: " (Go.lift (lib.verifyCosSig pkt cosPkJwk "ES256")))
  Go.wrap "error unmarshalling CIC: " (unmarshalMap (lib.parseJson cicphJSON))

theorem verifyGQ_eq_ok (idt expectedAud : String) (rsaPubKey : RsaKey) :
    verifyGQ lib idt expectedAud rsaPubKey = .ok () ↔
      ∃ signingPayload signature, lib.splitJWT idt = .ok (signingPayload, signature) ∧
        lib.gqVerify rsaPubKey signature signingPayload = true ∧
        ∃ payloadB64, (signingPayload.splitOn ".")[1]? = some payloadB64 ∧
        ∃ payloadJSON, lib.base64DecodeForJWT payloadB64 = .ok payloadJSON ∧
        ∃ payload, unmarshalMap (lib.parseJson payloadJSON) = .ok payload ∧
          mapGet payload "aud" = some (.str expectedAud) := by
  simp only [verifyGQ, Go.bind_eq_ok, Go.wrap_eq_ok, Go.lift_eq_ok, Go.assert_eq_ok, Go.failIf_eq_ok,
    Go.exists_unit, Prod.exists, Bool.not_eq_true', Bool.not_eq_false, not_not]
  refine exists_congr fun _ => exists_congr fun _ => and_congr_right fun _ => and_congr_right fun _ =>
    exists_congr fun payloadB64 => and_congr_right fun _ => exists_congr fun payloadJSON => and_congr ?_ ?_
  · cases lib.base64DecodeForJWT payloadB64 <;> simp
  · cases unmarshalMap (lib.parseJson payloadJSON) <;> simp [mapGet]

theorem verifyPKToken_eq_ok (now : Int) (pktJSON : String) (cosPk : Option PublicKey) (claims : Claims) :
    verifyPKToken lib now pktJSON cosPk = .ok claims ↔
      ∃ pkt, lib.fromJSON pktJSON = .ok pkt ∧ ∃ cicphJSON, lib.base64DecodeForJWT pkt.cicPH = .ok cicphJSON ∧
        ∃ rsaPubKey, publicKey lib (lib.opJWSCompact pkt) = .ok rsaPubKey ∧
        (pkt.opSigGQ = true →
          verifyGQ lib (lib.opJWSCompact pkt) (lib.b64SHA3_256 cicphJSON) rsaPubKey = .ok ()) ∧
        (pkt.opSigGQ = false →
          lib.jwtParse (lib.opJWSCompact pkt) (lib.b64SHA3_256 cicphJSON) githubIssuer 5000000000 rsaPubKey now =
            .ok ()) ∧
        lib.verifyCicSig pkt = .ok () ∧
        (∀ key, cosPk = some key → ∃ jwk, lib.fromRaw key = .ok jwk ∧ lib.verifyCosSig pkt jwk "ES256" = .ok ()) ∧
        unmarshalMap (lib.parseJson cicphJSON) = .ok claims := by
  simp only [verifyPKToken, Go.bind_eq_ok, Go.wrap_eq_ok, Go.lift_eq_ok, Go.exists_unit]
  refine exists_congr fun pkt => and_congr_right fun _ => exists_congr fun _ => and_congr_right fun _ =>
    exists_congr fun _ => and_congr_right fun _ => ?_
  cases pkt.opSigGQ <;> cases cosPk <;> simp

theorem publicKey_not_panics (idt : String) : ¬Go.Panics (publicKey lib idt) := by
  simp [publicKey]

theorem verifyGQ_panics (idt expectedAud : String) (rsaPubKey : RsaKey) :
    Go.Panics (verifyGQ lib idt expectedAud rsaPubKey) ↔
      ∃ signingPayload signature, lib.splitJWT idt = .ok (signingPayload, signature) ∧
        lib.gqVerify rsaPubKey signature signingPayload = true ∧ (signingPayload.splitOn ".").length ≤ 1 := by
  simp only [verifyGQ, Go.bind_panics_iff, Go.wrap_panics_iff, Go.lift_not_panics, Go.wrap_eq_ok, Go.lift_eq_ok,
    Go.failIf_not_panics, Go.failIf_eq_ok, Go.assert_panics, Go.assert_eq_ok, false_or, Prod.exists,
    ← List.getElem?_eq_none_iff]
  refine exists_congr fun signingPayload => exists_congr fun signature => and_congr_right fun _ => ?_
  cases lib.gqVerify rsaPubKey signature signingPayload <;> cases piece : (signingPayload.splitOn ".")[1]? <;>
    simp
  cases lib.base64DecodeForJWT _ <;> simp

theorem verifyPKToken_panics_only_on_undotted_payload (now : Int) (pktJSON : String) (cosPk : Option PublicKey) :
    Go.Panics (verifyPKToken lib now pktJSON cosPk) ↔
      ∃ pkt, lib.fromJSON pktJSON = .ok pkt ∧ pkt.opSigGQ = true ∧
        ∃ cicphJSON, lib.base64DecodeForJWT pkt.cicPH = .ok cicphJSON ∧
        ∃ rsaPubKey, publicKey lib (lib.opJWSCompact pkt) = .ok rsaPubKey ∧
        ∃ signingPayload signature, lib.splitJWT (lib.opJWSCompact pkt) = .ok (signingPayload, signature) ∧
          lib.gqVerify rsaPubKey signature signingPayload = true ∧ (signingPayload.splitOn ".").length ≤ 1 := by
  simp only [verifyPKToken, Go.bind_panics_iff, Go.wrap_panics_iff, Go.lift_not_panics, Go.wrap_eq_ok,
    Go.lift_eq_ok, publicKey_not_panics, unmarshalMap_not_panics, apply_ite (Go.Panics (α := Unit)),
    verifyGQ_panics, false_or, or_false, and_false, exists_false]
  refine exists_congr fun pkt => and_congr_right fun _ => ?_
  cases pkt.opSigGQ <;> cases cosPk <;> simp

end

def staleClaims : Claims :=
  [("iss", .str "https://evil.example"), ("aud", .str "sha3(cicph)"), ("exp", .num 1)]

def cicClaims : Claims := [("alg", .str "ES256"), ("rz", .str "r")]

def githubLib : GithubLibrary where
  fromJSON pktJSON := if pktJSON = "gq" then .ok ⟨"cicph", true⟩ else .error "invalid PK Token"
  base64DecodeForJWT s := .ok s
  b64SHA3_256 s := "sha3(" ++ s ++ ")"
  opJWSCompact _ := "header.payload.gqsig"
  parseHeaders _ := .ok ("RS256", "kid1")
  discoverJwksURI := .ok "https://token.actions.githubusercontent.com/.well-known/jwks"
  fetchJwks _ := .ok fun kid => if kid = "kid1" then some ⟨"RS256", "RSA", .ok ⟨3233, 17⟩⟩ else none
  splitJWT idt := if idt = "header.payload.gqsig" then .ok ("header.payload", "gqsig") else .error "invalid JWT"
  gqVerify _ signature _ := signature = "gqsig"
  parseJson s := if s = "payload" then some (.obj staleClaims) else if s = "cicph" then some (.obj cicClaims) else none
  jwtParse _ _ _ _ _ _ := .error "token is not RS256-signed"
  verifyCicSig _ := .ok ()
  fromRaw key := .ok ⟨key, "ES256"⟩
  verifyCosSig _ _ _ := .ok ()

unseal String.splitOnAux in
theorem verifyPKToken_accepts_expired_foreign_gq_token :
    mapGet staleClaims "iss" = some (.str "https://evil.example") ∧ mapGet staleClaims "exp" = some (.num 1) ∧
    ∀ now, verifyPKToken githubLib now "gq" none = .ok cicClaims :=
  ⟨rfl, rfl, fun _ => rfl⟩

end OpenPubkey.Parties
