import OpenPubkey.Verifier.Guarantees

set_option autoImplicit false

namespace OpenPubkey.Verifier

def ReachesNonString (clientID : String) (auds : List Json) : Prop :=
  ∃ pre x post, auds = pre ++ x :: post ∧ x.asString? = none ∧ ∀ y ∈ pre, ∃ s, y = .str s ∧ s ≠ clientID

theorem reachesNonString_nil (clientID : String) : ¬ReachesNonString clientID [] := by
  rintro ⟨pre, x, post, split, -, -⟩
  simp at split

theorem reachesNonString_cons (clientID : String) (x : Json) (rest : List Json) :
    ReachesNonString clientID (x :: rest) ↔
      x.asString? = none ∨ ∃ s, x = .str s ∧ s ≠ clientID ∧ ReachesNonString clientID rest := by
  constructor
  · rintro ⟨_ | ⟨y, pre⟩, z, post, split, notString, strings⟩
    · obtain ⟨rfl, -⟩ := List.cons.inj split
      exact .inl notString
    · obtain ⟨rfl, rfl⟩ := List.cons.inj split
      obtain ⟨s, rfl, other⟩ := strings _ (List.mem_cons_self _ _)
      exact .inr ⟨s, rfl, other, pre, z, post, rfl, notString, fun w member => strings w (List.mem_cons_of_mem _ member)⟩
  · rintro (notString | ⟨s, rfl, other, pre, z, post, rfl, notString, strings⟩)
    · exact ⟨[], x, rest, rfl, notString, by simp⟩
    · refine ⟨.str s :: pre, z, post, rfl, notString, ?_⟩
      simpa [other] using strings

theorem audienceMember_panics (clientID : String) (aud xs : List Json) :
    Go.Panics (audienceMember clientID aud xs) ↔ ReachesNonString clientID xs := by
  induction xs with
  | nil => simp [audienceMember, reachesNonString_nil]
  | cons x rest ih =>
    rw [audienceMember_cons, reachesNonString_cons, ← ih]
    cases x with
    | str s => by_cases same : s = clientID <;> simp [Json.asString?, same]
    | _ => simp [Json.asString?]

theorem verifyAudience_panics (pkt : PKToken) (clientID : String) :
    Go.Panics (verifyAudience pkt clientID) ↔
      ∃ claims, unmarshalStruct [] pkt.payload = .ok claims ∧
        ∃ auds, fieldAny claims "aud" = .arr auds ∧ ReachesNonString clientID auds := by
  simp only [verifyAudience, Go.bind_panics_iff, unmarshalStruct_not_panics, false_or]
  refine exists_congr fun claims => and_congr_right fun _ => ?_
  cases fieldAny claims "aud" <;> simp [audienceMember_panics]

theorem byToken_panics (v : DefaultProviderVerifier) (token : Jws) :
    Go.Panics (byToken v token) ↔ v.options.discoverPublicKey = none := by
  cases found : v.options.discoverPublicKey <;> simp [byToken, found]

theorem newProviderVerifier_discoverPublicKey (defaultPubkeyFinder : PublicKeyFinder)
    (issuer commitmentClaim : String) (options : ProviderVerifierOpts) :
    (newProviderVerifier defaultPubkeyFinder issuer commitmentClaim options).options.discoverPublicKey ≠ none := by
  simp [newProviderVerifier]

section

variable (lib : Library)

theorem verifyGQSig_panics (v : DefaultProviderVerifier) (pkt : PKToken)
    (panics : Go.Panics (verifyGQSig lib v pkt)) : v.options.discoverPublicKey = none := by
  simp only [verifyGQSig, originalTokenHeaders, Go.bind_panics_iff, Go.wrap_panics_iff, Go.lift_not_panics,
    Go.expect_not_panics, Go.failIf_not_panics, byToken_panics, PKToken.issuer_not_panics, false_or, and_false,
    exists_false, or_false] at panics
  obtain ⟨-, -, -, -, -, -, -, -, -, -, -, -, found⟩ := panics
  exact found

theorem verifyCommitment_panics (v : DefaultProviderVerifier) (pkt : PKToken) :
    Go.Panics (verifyCommitment lib v pkt) ↔
      v.options.gqCommitment = true ∧ ∃ claims, unmarshalMap pkt.payload = .ok claims ∧
        ∃ cic, lib.getCicValues pkt = .ok cic ∧ (∃ expected, lib.hash cic = .ok expected) ∧
        ∃ aud, mapGet claims "aud" = some aud ∧ aud.asString? = none := by
  cases gq : v.options.gqCommitment <;> simp [verifyCommitment, gq, unmarshalMap_not_panics]

theorem verifyCicSignature_not_panics (pkt : PKToken) : ¬Go.Panics (verifyCicSignature lib pkt) := by
  simp [verifyCicSignature]

theorem verifyProvider_panics (v : DefaultProviderVerifier) (pkt : PKToken)
    (panics : Go.Panics (verifyProvider lib v pkt)) :
    Go.Panics (verifyAudience pkt v.options.clientID) ∨ v.options.discoverPublicKey = none ∨
      Go.Panics (verifyCommitment lib v pkt) := by
  simp only [verifyProvider, Go.bind_panics_iff, Go.errOf_panics_iff, Go.failIf_not_panics, Go.expect_not_panics,
    Go.wrap_panics_iff, Go.lift_not_panics, verifyCicSignature_not_panics, providerPublicKey, byToken_panics,
    apply_ite (Go.Panics (α := Unit)), Go.ok_not_panics, Go.pure_eq, false_or, or_false, false_and, and_false,
    exists_false, ite_self] at panics
  rcases panics with ⟨-, -, audience | ⟨-, -, -, -, alg, -, -, -, switch | ⟨-, -, commitment⟩⟩⟩
  · exact .inl audience
  · split at switch
    · exact .inr (.inl (verifyGQSig_panics lib v pkt switch))
    · split at switch
      · exact .inr (.inl switch)
      · exact switch.elim
  · exact .inr (.inr commitment)

theorem newProviderVerifier_panics_only_on_aud (defaultPubkeyFinder : PublicKeyFinder)
    (issuer commitmentClaim : String) (options : ProviderVerifierOpts) (pkt : PKToken)
    (panics : Go.Panics
      (verifyProvider lib (newProviderVerifier defaultPubkeyFinder issuer commitmentClaim options) pkt)) :
    (∃ claims, unmarshalStruct [] pkt.payload = .ok claims ∧
      ∃ auds, fieldAny claims "aud" = .arr auds ∧ ReachesNonString options.clientID auds) ∨
    options.gqCommitment = true ∧ ∃ claims, unmarshalMap pkt.payload = .ok claims ∧
      ∃ aud, mapGet claims "aud" = some aud ∧ aud.asString? = none := by
  rcases verifyProvider_panics lib _ pkt panics with audience | missing | commitment
  · exact .inl ((verifyAudience_panics pkt _).1 audience)
  · exact absurd missing (newProviderVerifier_discoverPublicKey _ _ _ _)
  · obtain ⟨gq, claims, parsed, -, -, -, aud, found, notString⟩ := (verifyCommitment_panics lib _ pkt).1 commitment
    exact .inr ⟨gq, claims, parsed, aud, found, notString⟩

end

def skippingOptions : ProviderVerifierOpts := ⟨"verifier", true, none, false, false, false⟩

def mixedAudienceToken : PKToken :=
  pkToken rs256 (signedBy rs256 (.rsa providerKey))
    [("iss", .str issuerURL), ("aud", .arr [.num 1, .str "verifier"]), ("nonce", .str "commitment-r1")]

theorem mixedAudienceToken_panics_only_on_aud :
    Go.Panics (verifyProvider symbolicLibrary (newProviderVerifier providerFinder issuerURL "nonce" skippingOptions)
      mixedAudienceToken) ∧
    ((∃ claims, unmarshalStruct [] mixedAudienceToken.payload = .ok claims ∧
      ∃ auds, fieldAny claims "aud" = .arr auds ∧ ReachesNonString skippingOptions.clientID auds) ∨
    skippingOptions.gqCommitment = true ∧ ∃ claims, unmarshalMap mixedAudienceToken.payload = .ok claims ∧
      ∃ aud, mapGet claims "aud" = some aud ∧ aud.asString? = none) :=
  have panics : Go.Panics (verifyProvider symbolicLibrary
      (newProviderVerifier providerFinder issuerURL "nonce" skippingOptions) mixedAudienceToken) := ⟨_, rfl⟩
  ⟨panics, newProviderVerifier_panics_only_on_aud symbolicLibrary providerFinder issuerURL "nonce" skippingOptions
    mixedAudienceToken panics⟩

end OpenPubkey.Verifier
