import OpenPubkey.Verifier.ProviderVerifier

set_option autoImplicit false

namespace OpenPubkey.Client

/-- Modelled from the spec: the `Op` signature types `pktoken.Gq` and `pktoken.Oidc`. -/
def gq : String := "GQ"

def oidc : String := "JWT"

def gqSecurityParameter : Nat := 256

inductive ProviderError where
  | nonGQUnsupported
  | other (message : String)

structure OpenIdProvider where
  publicKey : Jws → Except String PublicKey
  verifyCICHash : Jws → String → Except String Unit
  verifyNonGQSig : Jws → String → Except ProviderError Unit

structure ClientLibrary where
  getCicValues : PKToken → Except String Cic
  hash : Cic → Except String String
  compact : PKToken → Except String Jws
  verifyGQSig : PKToken → RsaKey → Nat → Except String Unit
  verifyCicSig : PKToken → Except String Unit
  fromRaw : PublicKey → Except String Jwk
  verifyCosSig : PKToken → Jwk → String → Except String Unit

def notRsaKey : String := "interface conversion: client.PublicKey is not *rsa.PublicKey"

def verifyPKToken (lib : ClientLibrary) (pkt : PKToken) (provider : OpenIdProvider)
    (cosPk : Option PublicKey) : Go Unit := do
  let cic ← Go.lift (lib.getCicValues pkt)
  let commitment ← Go.lift (lib.hash cic)
  let idt ← match lib.compact pkt with
    | .ok idt => pure idt
    | .error _ => Go.fail ""
  let sigType ← Go.expect "provider signature type missing" pkt.providerSignatureType
  -- the switch on `sigType` has no default case
  (if sigType = gq then do
    let pubKey ← Go.wrap "failed to get OP public key: " (Go.lift (provider.publicKey idt))
    let rsaPubKey ← Go.assert notRsaKey pubKey.asRsa
    Go.wrap "error verifying OP GQ signature on PK Token: "
      (Go.lift (lib.verifyGQSig pkt rsaPubKey gqSecurityParameter))
    Go.wrap "failed to verify CIC hash: " (Go.lift (provider.verifyCICHash idt commitment))
  else if sigType = oidc then
    match provider.verifyNonGQSig idt commitment with
    | .ok () => pure ()
    | .error .nonGQUnsupported => Go.fail "oidc provider doesn't support non-GQ signatures"
    | .error (.other err) => Go.fail ("failed to verify signature from OIDC provider: " ++ err)
  else pure ())
  Go.wrap "error verifying CIC signature on PK Token: " (Go.lift (lib.verifyCicSig pkt))
  match cosPk with
  | none => pure ()
  | some cosPk => do
    let cosPkJwk ← Go.wrap "error verifying CIC signature on PK Token: " (Go.lift (lib.fromRaw cosPk))
    Go.wrap "error verify cosigner signature on PK Token: " (Go.lift (lib.verifyCosSig pkt cosPkJwk "ES256"))

theorem verifyPKToken_eq_ok (lib : ClientLibrary) (pkt : PKToken) (provider : OpenIdProvider)
    (cosPk : Option PublicKey) (accepted : verifyPKToken lib pkt provider cosPk = .ok ()) :
    ∃ sigType idt commitment, pkt.providerSignatureType = some sigType ∧ lib.compact pkt = .ok idt ∧
      (∃ cic, lib.getCicValues pkt = .ok cic ∧ lib.hash cic = .ok commitment) ∧
      (sigType = gq → ∃ key, provider.publicKey idt = .ok (.rsa key) ∧
        lib.verifyGQSig pkt key gqSecurityParameter = .ok () ∧ provider.verifyCICHash idt commitment = .ok ()) ∧
      (sigType = oidc → provider.verifyNonGQSig idt commitment = .ok ()) ∧
      lib.verifyCicSig pkt = .ok () := by
  simp only [verifyPKToken, Go.bind_eq_ok, Go.lift_eq_ok] at accepted
  obtain ⟨cic, found, commitment, hashed, rest⟩ := accepted
  cases compacted : lib.compact pkt with
  | error _ => simp [compacted] at rest
  | ok idt =>
    simp only [compacted, Go.ok_bind, Go.pure_eq, Go.bind_eq_ok, Go.expect_eq_ok, Go.wrap_eq_ok, Go.lift_eq_ok,
      Go.exists_unit] at rest
    obtain ⟨sigType, typed, switch, cicSig, -⟩ := rest
    refine ⟨sigType, idt, commitment, typed, rfl, ⟨cic, found, hashed⟩, fun isGq => ?_, fun isOidc => ?_, cicSig⟩
    · subst isGq
      rw [if_pos rfl] at switch
      simp only [Go.bind_eq_ok, Go.wrap_eq_ok, Go.lift_eq_ok, Go.assert_eq_ok, Go.exists_unit] at switch
      obtain ⟨key, pub, rsa, gqSig, hashOk⟩ := switch
      cases key <;> simp_all [PublicKey.asRsa]
    · subst isOidc
      rw [if_neg (by decide), if_pos rfl] at switch
      cases verified : provider.verifyNonGQSig idt commitment with
      | ok u => rfl
      | error e => cases e <;> simp [verified] at switch

theorem verifyPKToken_panics_only_on_non_rsa_key (lib : ClientLibrary) (pkt : PKToken)
    (provider : OpenIdProvider) (cosPk : Option PublicKey) :
    Go.Panics (verifyPKToken lib pkt provider cosPk) ↔
      (∃ cic commitment, lib.getCicValues pkt = .ok cic ∧ lib.hash cic = .ok commitment) ∧
      ∃ idt, lib.compact pkt = .ok idt ∧ pkt.providerSignatureType = some gq ∧
        ∃ pubKey, provider.publicKey idt = .ok pubKey ∧ pubKey.asRsa = none := by
  simp only [verifyPKToken, Go.bind_panics_iff, Go.lift_not_panics, Go.lift_eq_ok, false_or]
  cases compacted : lib.compact pkt <;> cases typed : pkt.providerSignatureType <;> cases cosPk <;>
    simp [apply_ite (Go.Panics (α := Unit))]
  all_goals
    constructor
    · rintro ⟨cic, found, commitment, hashed, switch⟩
      split at switch
      · exact ⟨⟨cic, found, commitment, hashed⟩, ‹_›, switch⟩
      · obtain ⟨-, panics⟩ := switch
        split at panics <;> simp at panics
    · rintro ⟨⟨cic, found, commitment, hashed⟩, rfl, pub⟩
      exact ⟨cic, found, commitment, hashed, by simpa using pub⟩

end OpenPubkey.Client
