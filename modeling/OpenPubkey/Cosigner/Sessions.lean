import OpenPubkey.Cosigner.AuthID
import OpenPubkey.Cosigner.AuthState

set_option autoImplicit false

namespace OpenPubkey.Cosigner

section
variable (lib : CosignerLibrary)

theorem createAuthID_eq (c : AuthCosigner) (now : Int) :
    createAuthID lib c now =
      (.ok (authIdOf lib c.hmacKey (c.authIdIter + 1) now), { c with authIdIter := c.authIdIter + 1 }) := by
  simp [createAuthID]

theorem initAuth_eq (c : AuthCosigner) (now : Int) (pkt : PKToken) (sig : String) :
    initAuth lib c now pkt sig =
      match initAuthState lib now pkt sig with
      | .error e => (.error e, c)
      | .ok authState =>
        (.ok (authIdOf lib c.hmacKey (c.authIdIter + 1) now),
          { c with authIdIter := c.authIdIter + 1,
                   authStateMap := Function.update c.authStateMap
                     (authIdOf lib c.hmacKey (c.authIdIter + 1) now) (some authState) }) := by
  cases built : initAuthState lib now pkt sig <;> simp [initAuth, built, createAuthID_eq]

theorem initAuthState_eq_ok (now : Int) (pkt : PKToken) (sig : String) (authState : AuthState)
    (built : initAuthState lib now pkt sig = .ok authState) :
    ∃ msg m, lib.verifySignedMessage pkt sig = .ok msg ∧ lib.unmarshalInitMFAAuth msg = .ok (some m) ∧
      authState.pkt = pkt ∧ authState.redirectURI = m.redirectUri ∧ authState.nonce = m.nonce := by
  simp only [initAuthState, Go.bind_eq_ok, Go.lift_eq_ok, Go.wrap_eq_ok, Go.assert_eq_ok, Go.failIf_eq_ok,
    Go.exists_unit] at built
  obtain ⟨msg, verified, _, parsed, m, rfl, -, -, stated⟩ := built
  obtain ⟨-, -, -, -, rfl⟩ := (newAuthState_eq_ok pkt _ _ authState).1 stated
  exact ⟨msg, m, verified, parsed, rfl, rfl, rfl⟩

theorem redeemAuthcode_eq_ok (c : AuthCosigner) (now : Int) (sig cosignature : String) :
    redeemAuthcode lib c now sig = .ok cosignature ↔
      ∃ payload authID authState, lib.parsePayload sig = .ok payload ∧
        c.authCodeMap payload = some authID ∧ c.authStateMap authID = some authState ∧
        (∃ msg, lib.verifySignedMessage authState.pkt sig = .ok msg) ∧
        lib.cosign authState.pkt ⟨c.issuer, c.keyID, c.alg, authID, unix now, unix now, unix now + 3600,
          authState.redirectURI, authState.nonce⟩ = .ok cosignature := by
  simp only [redeemAuthcode, issueSignature, Go.bind_eq_ok, Go.lift_eq_ok, Go.expect_eq_ok, Go.assert_eq_ok]
  constructor
  · rintro ⟨payload, parsed, authID, coded, authState, stored, msg, verified, authState', stored', signed⟩
    obtain rfl := Option.some.inj (stored.symm.trans stored')
    exact ⟨payload, authID, authState, parsed, coded, stored, ⟨msg, verified⟩, signed⟩
  · rintro ⟨payload, authID, authState, parsed, coded, stored, ⟨msg, verified⟩, signed⟩
    exact ⟨payload, parsed, authID, coded, authState, stored, msg, verified, authState, stored, signed⟩

def AuthCosigner.config (c : AuthCosigner) : String × String × String × List UInt8 :=
  (c.alg, c.issuer, c.keyID, c.hmacKey)

theorem step_config (c : AuthCosigner) (now : Int) (call : Call) :
    (step lib c now call).2.config = c.config := by
  cases call with
  | initAuth pkt sig =>
    cases built : initAuthState lib now pkt sig <;> simp [step, initAuth_eq, built, AuthCosigner.config]
  | newAuthcode authID bytes => cases bytes <;> rfl
  | redeemAuthcode sig => rfl
  | issueSignature pkt authID => rfl

theorem run_config (c : AuthCosigner) (calls : List (Int × Call)) :
    (run lib c calls).1.config = c.config := by
  induction calls generalizing c with
  | nil => rfl
  | cons call rest ih => exact (ih _).trans (step_config lib c call.1 call.2)

structure Session where
  now : Int
  pkt : PKToken
  sig : String
  authID : String

def sessionOf : Int × Call × Go String → Option Session
  | (now, .initAuth pkt sig, .ok authID) => some ⟨now, pkt, sig, authID⟩
  | _ => none

def sessions (log : List (Int × Call × Go String)) : List Session := log.filterMap sessionOf

/-- What the cosigner's state records of the sessions of a run: the counter
counts them, the `i`-th session's ID is the MAC of counter value `i + 1`, and
every stored state is the one an `InitAuth` built under the ID it returned. -/
structure Ledger (c : AuthCosigner) (S : List Session) : Prop where
  counter : c.authIdIter = UInt64.ofNat S.length
  ids : ∀ i s, S[i]? = some s → s.authID = authIdOf lib c.hmacKey (UInt64.ofNat (i + 1)) s.now
  states : ∀ a authState, c.authStateMap a = some authState →
    ∃ s ∈ S, s.authID = a ∧ initAuthState lib s.now s.pkt s.sig = .ok authState

theorem sessions_append (log : List (Int × Call × Go String)) (event : Int × Call × Go String) :
    sessions (log ++ [event]) = sessions log ++ (sessionOf event).toList := by
  simp only [sessions, List.filterMap_append, List.filterMap_cons, List.filterMap_nil]
  cases sessionOf event <;> rfl

theorem ledger_step (c : AuthCosigner) (S : List Session) (ledger : Ledger lib c S) (now : Int) (call : Call) :
    Ledger lib (step lib c now call).2 (S ++ (sessionOf (now, call, (step lib c now call).1)).toList) := by
  cases call with
  | initAuth pkt sig =>
    cases built : initAuthState lib now pkt sig with
    | error e => simpa [step, initAuth_eq, built, sessionOf] using ledger
    | ok authState =>
      simp only [step, initAuth_eq, built, sessionOf, Option.toList_some]
      refine ⟨by simp [ledger.counter, uint64_ofNat_add_one], fun i s found => ?_, fun a st stored => ?_⟩
      · rcases Nat.lt_or_ge i S.length with old | new
        · rw [List.getElem?_append_left old] at found
          exact ledger.ids i s found
        · rcases Nat.eq_or_lt_of_le new with rfl | beyond
          · simp only [List.getElem?_append_right new, Nat.sub_self, List.getElem?_cons_zero,
              Option.some.injEq] at found
            subst found
            simp [ledger.counter, uint64_ofNat_add_one]
          · rw [List.getElem?_eq_none (by simp; omega)] at found
            cases found
      · by_cases fresh : a = authIdOf lib c.hmacKey (c.authIdIter + 1) now
        · subst fresh
          simp only [Function.update_same, Option.some.injEq] at stored
          subst stored
          exact ⟨_, List.mem_append_right _ (List.mem_singleton_self _), rfl, built⟩
        · simp only [Function.update_noteq fresh] at stored
          obtain ⟨s, member, named, built⟩ := ledger.states a st stored
          exact ⟨s, List.mem_append_left _ member, named, built⟩
  | newAuthcode authID bytes =>
    cases bytes <;> simp only [step, newAuthcode, sessionOf, Option.toList_none, List.append_nil] <;>
      exact ⟨ledger.counter, ledger.ids, ledger.states⟩
  | redeemAuthcode sig => simpa [step, sessionOf] using ledger
  | issueSignature pkt authID => simpa [step, sessionOf] using ledger

theorem ledger_run (c : AuthCosigner) (log : List (Int × Call × Go String)) (ledger : Ledger lib c (sessions log))
    (calls : List (Int × Call)) :
    Ledger lib (run lib c calls).1 (sessions (log ++ (run lib c calls).2)) := by
  induction calls generalizing c log with
  | nil => simpa [run] using ledger
  | cons call rest ih =>
    have next := ih _ (log ++ [(call.1, call.2, (step lib c call.1 call.2).1)])
      (by rw [sessions_append]; exact ledger_step lib c _ ledger call.1 call.2)
    simpa [run, List.append_assoc] using next

theorem ledger_start (alg issuer keyID : String) (hmacKey : List UInt8) (c : AuthCosigner)
    (created : newAuthCosigner alg issuer keyID (.ok hmacKey) = .ok c) : Ledger lib c [] := by
  simp only [newAuthCosigner, Go.bind_eq_ok, Go.lift_eq_ok, Go.pure_eq, Except.ok.injEq] at created
  obtain ⟨_, rfl, rfl⟩ := created
  exact ⟨rfl, by simp, by simp⟩

theorem run_length (c : AuthCosigner) (calls : List (Int × Call)) : (run lib c calls).2.length = calls.length := by
  induction calls generalizing c with
  | nil => rfl
  | cons call rest ih => simp [run, ih]

theorem mem_sessions (log : List (Int × Call × Go String)) (s : Session) (member : s ∈ sessions log) :
    (s.now, Call.initAuth s.pkt s.sig, (.ok s.authID : Go String)) ∈ log := by
  obtain ⟨⟨now, call, result⟩, mem, found⟩ := List.mem_filterMap.1 member
  cases call <;> cases result <;> simp only [sessionOf, Option.some.injEq, reduceCtorEq] at found
  subst found
  exact mem

theorem ledger_ids_nodup (c : AuthCosigner) (S : List Session) (ledger : Ledger lib c S)
    (injective : ∀ a b : List UInt8, a.length = 16 → b.length = 16 →
      lib.hmacSha3 c.hmacKey a = lib.hmacSha3 c.hmacKey b → a = b)
    (fewer : S.length < 2 ^ 64) : (S.map Session.authID).Nodup := by
  refine List.nodup_iff_injective_getElem.2 fun i j same => Fin.ext ?_
  have hi : (i : Nat) < S.length := by simpa using i.2
  have hj : (j : Nat) < S.length := by simpa using j.2
  have id := fun (k : Nat) (bound : k < S.length) => ledger.ids k S[k] (List.getElem?_eq_getElem bound)
  simp only [List.getElem_map] at same
  rw [id i hi, id j hj] at same
  have := uint64_ofNat_inj _ _ (by omega) (by omega)
    (authIdOf_injective lib c.hmacKey injective _ _ _ _ same)
  omega

theorem redeemAuthcode_binds_session (alg issuer keyID : String) (hmacKey : List UInt8) (c₀ : AuthCosigner)
    (created : newAuthCosigner alg issuer keyID (.ok hmacKey) = .ok c₀)
    (injective : ∀ a b : List UInt8, a.length = 16 → b.length = 16 →
      lib.hmacSha3 hmacKey a = lib.hmacSha3 hmacKey b → a = b)
    (calls : List (Int × Call)) (fewer : calls.length < 2 ^ 64) (now : Int) (sig cosignature : String)
    (redeemed : redeemAuthcode lib (run lib c₀ calls).1 now sig = .ok cosignature) :
    ∃ payload authID, lib.parsePayload sig = .ok payload ∧ (run lib c₀ calls).1.authCodeMap payload = some authID ∧
      ((sessions (run lib c₀ calls).2).map Session.authID).count authID = 1 ∧
      ∃ t pkt s authState msg m, (t, Call.initAuth pkt s, (.ok authID : Go String)) ∈ (run lib c₀ calls).2 ∧
        (run lib c₀ calls).1.authStateMap authID = some authState ∧ initAuthState lib t pkt s = .ok authState ∧
        lib.verifySignedMessage pkt s = .ok msg ∧ lib.unmarshalInitMFAAuth msg = .ok (some m) ∧
        (∃ msg', lib.verifySignedMessage pkt sig = .ok msg') ∧
        lib.cosign pkt ⟨issuer, keyID, alg, authID, unix now, unix now, unix now + 3600, m.redirectUri, m.nonce⟩ =
          .ok cosignature := by
  have ledger := ledger_run lib c₀ [] (ledger_start lib alg issuer keyID hmacKey c₀ created) calls
  rw [List.nil_append] at ledger
  simp only [newAuthCosigner, Go.bind_eq_ok, Go.lift_eq_ok, Go.pure_eq, Except.ok.injEq] at created
  obtain ⟨_, rfl, initial⟩ := created
  have config : (run lib c₀ calls).1.config = (alg, issuer, keyID, hmacKey) := by rw [run_config, ← initial]; rfl
  simp only [AuthCosigner.config, Prod.mk.injEq] at config
  obtain ⟨sameAlg, sameIssuer, sameKeyID, sameKey⟩ := config
  obtain ⟨payload, authID, authState, parsed, coded, stored, verified, signed⟩ :=
    (redeemAuthcode_eq_ok lib _ now sig cosignature).1 redeemed
  obtain ⟨s, member, rfl, built⟩ := ledger.states authID authState stored
  obtain ⟨msg, m, verifiedInit, parsedInit, samePkt, ruri, nonce⟩ := initAuthState_eq_ok lib _ _ _ _ built
  have bound : (sessions (run lib c₀ calls).2).length < 2 ^ 64 :=
    (List.length_filterMap_le _ _).trans_lt (by rw [run_length]; exact fewer)
  have nodup := ledger_ids_nodup lib _ _ ledger (by rw [sameKey]; exact injective) bound
  refine ⟨payload, s.authID, parsed, coded, List.count_eq_one_of_mem nodup (List.mem_map_of_mem _ member),
    s.now, s.pkt, s.sig, authState, msg, m, mem_sessions _ s member, stored, built, verifiedInit, parsedInit,
    samePkt ▸ verified, ?_⟩
  rwa [samePkt, ruri, nonce, sameAlg, sameIssuer, sameKeyID] at signed

end

def cosLib : CosignerLibrary where
  verifySignedMessage _ sig := .ok sig
  parsePayload sig := .ok sig
  unmarshalInitMFAAuth msg :=
    if msg = "init" then .ok (some ⟨"http://localhost:3000/mfacallback", 1700000000, "n1"⟩)
    else if msg = "null" then .ok none
    else .error "invalid character looking for beginning of value"
  hmacSha3 _ input := input
  cosign _ claims := .ok ("cos:" ++ claims.authID ++ ":" ++ claims.redirectURI)

def cosIssuer : String := "https://cosigner.example"

def freshCosigner : AuthCosigner := ⟨"ES256", cosIssuer, "kid1", 0, [1, 2, 3], fun _ => none, fun _ => none⟩

def signedAt : Int := 1700000000 * 1000000000

def alicePkt : PKToken :=
  { payload := some (.obj [("iss", .str "https://accounts.example.com"), ("aud", .str "client"),
      ("sub", .str "alice"), ("email", .str "alice@example.com")])
    op := default, cic := default, cos := none }

def aliceID : String := authIdOf cosLib [1, 2, 3] 1 signedAt

def aliceCodeBytes : AuthCodeBytes := ⟨List.replicate 32 7, List.length_replicate 32 7⟩

def aliceCode : String := hexEncode aliceCodeBytes.val

def aliceRun : List (Int × Call) :=
  [(signedAt, .initAuth alicePkt "init"), (signedAt, .newAuthcode aliceID (.ok aliceCodeBytes))]

def aliceCosignature : String := "cos:" ++ aliceID ++ ":http://localhost:3000/mfacallback"

set_option maxRecDepth 4000 in
theorem aliceRun_binds_session :
    newAuthCosigner "ES256" cosIssuer "kid1" (.ok [1, 2, 3]) = .ok freshCosigner ∧
    redeemAuthcode cosLib (run cosLib freshCosigner aliceRun).1 signedAt aliceCode = .ok aliceCosignature ∧
    ∃ payload authID, cosLib.parsePayload aliceCode = .ok payload ∧
      (run cosLib freshCosigner aliceRun).1.authCodeMap payload = some authID ∧
      ((sessions (run cosLib freshCosigner aliceRun).2).map Session.authID).count authID = 1 ∧
      ∃ t pkt s authState msg m, (t, Call.initAuth pkt s, (.ok authID : Go String)) ∈ (run cosLib freshCosigner aliceRun).2 ∧
        (run cosLib freshCosigner aliceRun).1.authStateMap authID = some authState ∧
        initAuthState cosLib t pkt s = .ok authState ∧
        cosLib.verifySignedMessage pkt s = .ok msg ∧ cosLib.unmarshalInitMFAAuth msg = .ok (some m) ∧
        (∃ msg', cosLib.verifySignedMessage pkt aliceCode = .ok msg') ∧
        cosLib.cosign pkt ⟨cosIssuer, "kid1", "ES256", authID, unix signedAt, unix signedAt, unix signedAt + 3600,
          m.redirectUri, m.nonce⟩ = .ok aliceCosignature :=
  have redeemed : redeemAuthcode cosLib (run cosLib freshCosigner aliceRun).1 signedAt aliceCode =
      .ok aliceCosignature := by decide
  ⟨rfl, redeemed, redeemAuthcode_binds_session cosLib "ES256" cosIssuer "kid1" [1, 2, 3] freshCosigner rfl
    (fun _ _ _ _ same => same) aliceRun (by decide) signedAt aliceCode aliceCosignature redeemed⟩

end OpenPubkey.Cosigner
