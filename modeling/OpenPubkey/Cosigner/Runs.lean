import OpenPubkey.Cosigner.Safety

set_option autoImplicit false

namespace OpenPubkey.Cosigner

theorem newAuthCosigner_eq_ok (alg issuer keyID : String) (hmacKey : List UInt8) (c : AuthCosigner)
    (created : newAuthCosigner alg issuer keyID (.ok hmacKey) = .ok c) :
    c = ⟨alg, issuer, keyID, 0, hmacKey, fun _ => none, fun _ => none⟩ := by
  simp only [newAuthCosigner, Go.bind_eq_ok, Go.lift_eq_ok, Go.pure_eq, Except.ok.injEq] at created
  obtain ⟨_, rfl, rfl⟩ := created
  rfl

@[simp] theorem sessionOf_initAuth_ok (now : Int) (pkt : PKToken) (sig authID : String) :
    sessionOf (now, .initAuth pkt sig, .ok authID) = some ⟨now, pkt, sig, authID⟩ := rfl

@[simp] theorem sessionOf_error (now : Int) (call : Call) (e : Failure) : sessionOf (now, call, .error e) = none := by
  cases call <;> rfl

@[simp] theorem sessionOf_newAuthcode (now : Int) (authID : String) (bytes : Except String AuthCodeBytes)
    (result : Go String) : sessionOf (now, .newAuthcode authID bytes, result) = none := rfl

@[simp] theorem sessionOf_redeemAuthcode (now : Int) (sig : String) (result : Go String) :
    sessionOf (now, .redeemAuthcode sig, result) = none := rfl

@[simp] theorem sessionOf_issueSignature (now : Int) (pkt : PKToken) (authID : String) (result : Go String) :
    sessionOf (now, .issueSignature pkt authID, result) = none := rfl

def Call.namedID : Call → Option String
  | .newAuthcode authID _ => some authID
  | .issueSignature _ authID => some authID
  | _ => none

def namesOpenSessions : List Session → List (Int × Call × Go String) → Bool
  | _, [] => true
  | S, (now, call, result) :: rest =>
    (call.namedID.all fun authID => (S.map Session.authID).contains authID) &&
      namesOpenSessions (S ++ (sessionOf (now, call, result)).toList) rest

section

variable (lib : CosignerLibrary)

def CodesIssued (c : AuthCosigner) (log : List (Int × Call × Go String)) : Prop :=
  ∀ code authID, c.authCodeMap code = some authID →
    ∃ now bytes, (now, Call.newAuthcode authID (.ok bytes), (.ok code : Go String)) ∈ log ∧ code = hexEncode bytes.val

theorem codesIssued_step (c : AuthCosigner) (log : List (Int × Call × Go String)) (issued : CodesIssued c log)
    (now : Int) (call : Call) :
    CodesIssued (step lib c now call).2 (log ++ [(now, call, (step lib c now call).1)]) := by
  have old : CodesIssued c (log ++ [(now, call, (step lib c now call).1)]) := fun code authID coded =>
    let ⟨t, bytes, member, named⟩ := issued code authID coded
    ⟨t, bytes, List.mem_append_left _ member, named⟩
  cases call with
  | initAuth pkt sig =>
    cases built : initAuthState lib now pkt sig <;> simpa [step, initAuth_eq, built] using old
  | newAuthcode authID bytes =>
    cases bytes with
    | error e => exact old
    | ok bytes =>
      intro code a coded
      by_cases fresh : code = hexEncode bytes.val
      · subst fresh
        simp only [step, newAuthcode, Function.update_same, Option.some.injEq] at coded
        subst coded
        exact ⟨now, bytes, List.mem_append_right _ (List.mem_singleton_self _), rfl⟩
      · simp only [step, newAuthcode, Function.update_noteq fresh] at coded
        exact old code a coded
  | redeemAuthcode sig => exact old
  | issueSignature pkt authID => exact old

theorem codesIssued_run (c : AuthCosigner) (log : List (Int × Call × Go String)) (issued : CodesIssued c log)
    (calls : List (Int × Call)) : CodesIssued (run lib c calls).1 (log ++ (run lib c calls).2) := by
  induction calls generalizing c log with
  | nil => simpa [run] using issued
  | cons call rest ih =>
    simpa [run, List.append_assoc] using ih _ _ (codesIssued_step lib c log issued call.1 call.2)

theorem run_authcodes_issued (alg issuer keyID : String) (hmacKey : List UInt8) (c₀ : AuthCosigner)
    (created : newAuthCosigner alg issuer keyID (.ok hmacKey) = .ok c₀) (calls : List (Int × Call))
    (code authID : String) (coded : (run lib c₀ calls).1.authCodeMap code = some authID) :
    ∃ now bytes, (now, Call.newAuthcode authID (.ok bytes), (.ok code : Go String)) ∈ (run lib c₀ calls).2 ∧
      code = hexEncode bytes := by
  have start : CodesIssued c₀ [] := by
    rw [newAuthCosigner_eq_ok alg issuer keyID hmacKey c₀ created]
    intro code authID coded
    cases coded
  simpa using codesIssued_run lib c₀ [] start calls code authID coded

theorem ledger_from_start (alg issuer keyID : String) (hmacKey : List UInt8) (c₀ : AuthCosigner)
    (created : newAuthCosigner alg issuer keyID (.ok hmacKey) = .ok c₀) (calls : List (Int × Call)) :
    Ledger lib (run lib c₀ calls).1 (sessions (run lib c₀ calls).2) := by
  simpa using ledger_run lib c₀ [] (ledger_start lib alg issuer keyID hmacKey c₀ created) calls

theorem run_states_stored (alg issuer keyID : String) (hmacKey : List UInt8) (c₀ : AuthCosigner)
    (created : newAuthCosigner alg issuer keyID (.ok hmacKey) = .ok c₀) (calls : List (Int × Call))
    (authID : String) (authState : AuthState) (stored : (run lib c₀ calls).1.authStateMap authID = some authState) :
    ∃ now pkt sig, (now, Call.initAuth pkt sig, (.ok authID : Go String)) ∈ (run lib c₀ calls).2 ∧
      initAuthState lib now pkt sig = .ok authState := by
  obtain ⟨s, member, rfl, built⟩ :=
    (ledger_from_start lib alg issuer keyID hmacKey c₀ created calls).states authID authState stored
  exact ⟨s.now, s.pkt, s.sig, mem_sessions _ s member, built⟩

theorem run_authIDs_distinct (alg issuer keyID : String) (hmacKey : List UInt8) (c₀ : AuthCosigner)
    (created : newAuthCosigner alg issuer keyID (.ok hmacKey) = .ok c₀)
    (injective : ∀ a b : List UInt8, a.length = 16 → b.length = 16 →
      lib.hmacSha3 hmacKey a = lib.hmacSha3 hmacKey b → a = b)
    (calls : List (Int × Call)) (fewer : calls.length < 2 ^ 64) :
    ((sessions (run lib c₀ calls).2).map Session.authID).Nodup := by
  have sameKey : (run lib c₀ calls).1.hmacKey = hmacKey := by
    have config := run_config lib c₀ calls
    rw [newAuthCosigner_eq_ok alg issuer keyID hmacKey c₀ created] at config ⊢
    simp only [AuthCosigner.config, Prod.mk.injEq] at config
    exact config.2.2.2
  refine ledger_ids_nodup lib _ _ (ledger_from_start lib alg issuer keyID hmacKey c₀ created calls)
    (sameKey ▸ injective) ?_
  exact (List.length_filterMap_le _ _).trans_lt (by rw [run_length]; exact fewer)

structure SessionsStored (c : AuthCosigner) (S : List Session) : Prop where
  stored : ∀ s ∈ S, (c.authStateMap s.authID).isSome
  codes : ∀ code authID, c.authCodeMap code = some authID → authID ∈ S.map Session.authID

theorem sessionsStored_step (c : AuthCosigner) (S : List Session) (inv : SessionsStored c S) (now : Int)
    (call : Call) (named : ∀ authID, call.namedID = some authID → authID ∈ S.map Session.authID) :
    SessionsStored (step lib c now call).2 (S ++ (sessionOf (now, call, (step lib c now call).1)).toList) ∧
      (Go.Panics (step lib c now call).1 →
        ∃ pkt sig, call = .initAuth pkt sig ∧ Go.Panics (initAuthState lib now pkt sig)) := by
  cases call with
  | initAuth pkt sig =>
    refine ⟨?_, fun panicked => ⟨pkt, sig, rfl, (initAuth_panics lib c now pkt sig).1 panicked⟩⟩
    cases built : initAuthState lib now pkt sig with
    | error e => simpa [step, initAuth_eq, built] using inv
    | ok authState =>
      simp only [step, initAuth_eq, built, sessionOf_initAuth_ok, Option.toList_some]
      refine ⟨fun s member => ?_, fun code a coded => ?_⟩
      · rcases List.mem_append.1 member with old | new
        · exact update_isSome _ _ _ _ (inv.stored s old)
        · obtain rfl := List.mem_singleton.1 new
          simp
      · simpa using Or.inl (inv.codes code a coded)
  | newAuthcode authID bytes =>
    refine ⟨?_, fun panicked => absurd panicked (newAuthcode_not_panics c authID bytes)⟩
    cases bytes with
    | error e => simpa [step, newAuthcode] using inv
    | ok bytes =>
      simp only [step, newAuthcode, sessionOf_newAuthcode, Option.toList_none, List.append_nil]
      refine ⟨inv.stored, fun code a coded => ?_⟩
      by_cases fresh : code = hexEncode bytes.val
      · subst fresh
        simp only [Function.update_same, Option.some.injEq] at coded
        exact coded ▸ named authID rfl
      · simp only [Function.update_noteq fresh] at coded
        exact inv.codes code a coded
  | redeemAuthcode sig =>
    refine ⟨by simpa [step] using inv, fun panicked => ?_⟩
    obtain ⟨payload, -, authID, coded, missing⟩ := (redeemAuthcode_panics lib c now sig).1 panicked
    obtain ⟨s, member, rfl⟩ := List.mem_map.1 (inv.codes payload authID coded)
    simpa [missing] using inv.stored s member
  | issueSignature pkt authID =>
    refine ⟨by simpa [step] using inv, fun panicked => ?_⟩
    have missing := (issueSignature_panics lib c now pkt authID).1 panicked
    obtain ⟨s, member, rfl⟩ := List.mem_map.1 (named authID rfl)
    simpa [missing] using inv.stored s member

theorem sessionsStored_run (c : AuthCosigner) (S : List Session) (inv : SessionsStored c S)
    (calls : List (Int × Call)) (named : namesOpenSessions S (run lib c calls).2 = true) :
    ∀ entry ∈ (run lib c calls).2, Go.Panics entry.2.2 →
      ∃ pkt sig, entry.2.1 = .initAuth pkt sig ∧ Go.Panics (initAuthState lib entry.1 pkt sig) := by
  induction calls generalizing c S with
  | nil => simp [run]
  | cons call rest ih =>
    simp only [run, namesOpenSessions, Bool.and_eq_true] at named
    have headNamed : ∀ authID, call.2.namedID = some authID → authID ∈ S.map Session.authID :=
      fun authID isNamed => by simpa [isNamed] using named.1
    obtain ⟨next, headPanics⟩ := sessionsStored_step lib c S inv call.1 call.2 headNamed
    rintro entry (_ | ⟨_, member⟩)
    · exact headPanics
    · exact ih _ _ next named.2 entry member

theorem run_panics_only_in_initAuth (alg issuer keyID : String) (hmacKey : List UInt8) (c₀ : AuthCosigner)
    (created : newAuthCosigner alg issuer keyID (.ok hmacKey) = .ok c₀) (calls : List (Int × Call))
    (named : namesOpenSessions [] (run lib c₀ calls).2 = true) :
    ∀ entry ∈ (run lib c₀ calls).2, Go.Panics entry.2.2 →
      ∃ pkt sig, entry.2.1 = .initAuth pkt sig ∧ Go.Panics (initAuthState lib entry.1 pkt sig) := by
  have start : SessionsStored c₀ [] := by
    rw [newAuthCosigner_eq_ok alg issuer keyID hmacKey c₀ created]
    constructor
    · intro s member
      cases member
    · intro code authID coded
      cases coded
  exact sessionsStored_run lib c₀ [] start calls named

theorem mfaFlow_cosigns (c : AuthCosigner) (now now' : Int) (pkt : PKToken) (sig : String)
    (authState : AuthState) (checked : initAuthState lib now pkt sig = .ok authState)
    (bytes : AuthCodeBytes) (redeemSig : String) (payload : lib.parsePayload redeemSig = .ok (hexEncode bytes.val))
    (signed : ∃ msg, lib.verifySignedMessage pkt redeemSig = .ok msg) :
    let authID := authIdOf lib c.hmacKey (c.authIdIter + 1) now
    let c₁ := (initAuth lib c now pkt sig).2
    (initAuth lib c now pkt sig).1 = .ok authID ∧
    (newAuthcode c₁ authID (.ok bytes)).1 = .ok (hexEncode bytes.val) ∧
    redeemAuthcode lib (newAuthcode c₁ authID (.ok bytes)).2 now' redeemSig =
      Go.lift (lib.cosign pkt ⟨c.issuer, c.keyID, c.alg, authID, unix now', unix now', unix now' + 3600,
        authState.redirectURI, authState.nonce⟩) := by
  obtain ⟨-, -, -, -, samePkt, -, -⟩ := initAuthState_eq_ok lib now pkt sig authState checked
  obtain ⟨msg, verified⟩ := signed
  refine ⟨by simp [initAuth_eq, checked], rfl, ?_⟩
  simp [redeemAuthcode, issueSignature, initAuth_eq, checked, newAuthcode, payload, samePkt, verified, Go.lift,
    Go.expect, Go.assert]

end

def aliceRedeemRun : List (Int × Call) := aliceRun ++ [(signedAt, .redeemAuthcode aliceCode)]

theorem aliceRun_authcode_issued :
    newAuthCosigner "ES256" cosIssuer "kid1" (.ok [1, 2, 3]) = .ok freshCosigner ∧
    (run cosLib freshCosigner aliceRun).1.authCodeMap aliceCode = some aliceID ∧
    ∃ now bytes, (now, Call.newAuthcode aliceID (.ok bytes), (.ok aliceCode : Go String)) ∈
      (run cosLib freshCosigner aliceRun).2 ∧ aliceCode = hexEncode bytes.val :=
  have coded : (run cosLib freshCosigner aliceRun).1.authCodeMap aliceCode = some aliceID := by decide
  ⟨rfl, coded, run_authcodes_issued cosLib "ES256" cosIssuer "kid1" [1, 2, 3] freshCosigner rfl aliceRun
    aliceCode aliceID coded⟩

set_option maxRecDepth 4000 in
theorem aliceRun_state_stored :
    newAuthCosigner "ES256" cosIssuer "kid1" (.ok [1, 2, 3]) = .ok freshCosigner ∧
    ∃ authState, (run cosLib freshCosigner aliceRun).1.authStateMap aliceID = some authState ∧
      ∃ now pkt sig, (now, Call.initAuth pkt sig, (.ok aliceID : Go String)) ∈ (run cosLib freshCosigner aliceRun).2 ∧
        initAuthState cosLib now pkt sig = .ok authState :=
  match stored : (run cosLib freshCosigner aliceRun).1.authStateMap aliceID with
  | some authState => ⟨rfl, authState, rfl, run_states_stored cosLib "ES256" cosIssuer "kid1" [1, 2, 3]
      freshCosigner rfl aliceRun aliceID authState stored⟩
  | none => absurd (congrArg Option.isSome stored) (by decide)

def aliceRetryRun : List (Int × Call) :=
  aliceRedeemRun ++ [(signedAt, .initAuth alicePkt "null"), (signedAt, .initAuth alicePkt "init")]

set_option maxRecDepth 4000 in
theorem aliceRun_authIDs_distinct :
    newAuthCosigner "ES256" cosIssuer "kid1" (.ok [1, 2, 3]) = .ok freshCosigner ∧
    (∀ a b : List UInt8, a.length = 16 → b.length = 16 → cosLib.hmacSha3 [1, 2, 3] a = cosLib.hmacSha3 [1, 2, 3] b →
      a = b) ∧ aliceRetryRun.length < 2 ^ 64 ∧
    (sessions (run cosLib freshCosigner aliceRetryRun).2).map Session.authID =
      [aliceID, authIdOf cosLib [1, 2, 3] 2 signedAt] ∧
    ((sessions (run cosLib freshCosigner aliceRetryRun).2).map Session.authID).Nodup :=
  ⟨rfl, fun _ _ _ _ same => same, by decide, by decide, run_authIDs_distinct cosLib "ES256" cosIssuer "kid1" [1, 2, 3]
    freshCosigner rfl (fun _ _ _ _ same => same) aliceRetryRun (by decide)⟩

set_option maxRecDepth 4000 in
theorem aliceRun_panics_only_in_initAuth :
    newAuthCosigner "ES256" cosIssuer "kid1" (.ok [1, 2, 3]) = .ok freshCosigner ∧
    namesOpenSessions [] (run cosLib freshCosigner aliceRetryRun).2 = true ∧
    (run cosLib freshCosigner aliceRetryRun).2.map (·.2.2) =
      [.ok aliceID, .ok aliceCode, .ok aliceCosignature, .error (.panic nilDereference),
        .ok (authIdOf cosLib [1, 2, 3] 2 signedAt)] ∧
    ∀ entry ∈ (run cosLib freshCosigner aliceRetryRun).2, Go.Panics entry.2.2 →
      ∃ pkt sig, entry.2.1 = .initAuth pkt sig ∧ Go.Panics (initAuthState cosLib entry.1 pkt sig) :=
  have named : namesOpenSessions [] (run cosLib freshCosigner aliceRetryRun).2 = true := by decide
  ⟨rfl, named, by decide, run_panics_only_in_initAuth cosLib "ES256" cosIssuer "kid1" [1, 2, 3] freshCosigner rfl
    aliceRetryRun named⟩

set_option maxRecDepth 4000 in
theorem aliceFlow_cosigns :
    ∃ authState, initAuthState cosLib signedAt alicePkt "init" = .ok authState ∧
      cosLib.parsePayload aliceCode = .ok (hexEncode aliceCodeBytes.val) ∧
      (∃ msg, cosLib.verifySignedMessage alicePkt aliceCode = .ok msg) ∧
      let authID := authIdOf cosLib freshCosigner.hmacKey (freshCosigner.authIdIter + 1) signedAt
      let c₁ := (initAuth cosLib freshCosigner signedAt alicePkt "init").2
      (initAuth cosLib freshCosigner signedAt alicePkt "init").1 = .ok authID ∧
      (newAuthcode c₁ authID (.ok aliceCodeBytes)).1 = .ok (hexEncode aliceCodeBytes.val) ∧
      redeemAuthcode cosLib (newAuthcode c₁ authID (.ok aliceCodeBytes)).2 signedAt aliceCode =
        Go.lift (cosLib.cosign alicePkt ⟨freshCosigner.issuer, freshCosigner.keyID, freshCosigner.alg, authID,
          unix signedAt, unix signedAt, unix signedAt + 3600, authState.redirectURI, authState.nonce⟩) :=
  match built : initAuthState cosLib signedAt alicePkt "init" with
  | .ok authState => ⟨authState, rfl, rfl, ⟨_, rfl⟩, mfaFlow_cosigns cosLib freshCosigner signedAt signedAt alicePkt
      "init" authState built aliceCodeBytes aliceCode rfl ⟨_, rfl⟩⟩
  | .error _ => absurd ((congrArg Except.isOk built).symm.trans
      (show (initAuthState cosLib signedAt alicePkt "init").isOk = true by decide)) Bool.false_ne_true

end OpenPubkey.Cosigner
