import OpenPubkey.Cosigner.Sessions

set_option autoImplicit false

namespace OpenPubkey.Cosigner

section

variable (lib : CosignerLibrary)

structure Keeps (c c' : AuthCosigner) : Prop where
  codes : ∀ code, (c.authCodeMap code).isSome → (c'.authCodeMap code).isSome
  states : ∀ authID, (c.authStateMap authID).isSome → (c'.authStateMap authID).isSome

theorem keeps_refl (c : AuthCosigner) : Keeps c c := ⟨fun _ => id, fun _ => id⟩

theorem keeps_trans (c c' c'' : AuthCosigner) (first : Keeps c c') (second : Keeps c' c'') : Keeps c c'' :=
  ⟨fun code kept => second.codes code (first.codes code kept),
   fun authID kept => second.states authID (first.states authID kept)⟩

theorem update_isSome {β : Type} (f : String → Option β) (k a : String) (b : β) (kept : (f a).isSome) :
    (Function.update f k (some b) a).isSome := by
  by_cases same : a = k
  · subst same
    simp
  · simpa [Function.update_noteq same] using kept

theorem step_keeps (c : AuthCosigner) (now : Int) (call : Call) : Keeps c (step lib c now call).2 := by
  cases call with
  | initAuth pkt sig =>
    cases built : initAuthState lib now pkt sig with
    | error e => simpa [step, initAuth_eq, built] using keeps_refl c
    | ok authState =>
      simp only [step, initAuth_eq, built]
      exact ⟨fun _ => id, fun authID kept => update_isSome _ _ authID authState kept⟩
  | newAuthcode authID bytes =>
    cases bytes with
    | error e => exact keeps_refl c
    | ok bytes => exact ⟨fun code kept => update_isSome _ _ code authID kept, fun _ => id⟩
  | redeemAuthcode sig => exact keeps_refl c
  | issueSignature pkt authID => exact keeps_refl c

theorem run_keeps (c : AuthCosigner) (calls : List (Int × Call)) : Keeps c (run lib c calls).1 := by
  induction calls generalizing c with
  | nil => exact keeps_refl c
  | cons call rest ih => exact keeps_trans _ _ _ (step_keeps lib c call.1 call.2) (ih _)

theorem redeemAuthcode_code_persists (c : AuthCosigner) (now : Int) (sig cosignature : String)
    (redeemed : redeemAuthcode lib c now sig = .ok cosignature) (calls : List (Int × Call)) :
    ∃ payload authID, lib.parsePayload sig = .ok payload ∧ c.authCodeMap payload = some authID ∧
      ((run lib c calls).1.authCodeMap payload).isSome ∧ ((run lib c calls).1.authStateMap authID).isSome := by
  obtain ⟨payload, authID, authState, parsed, coded, stored, -⟩ :=
    (redeemAuthcode_eq_ok lib c now sig cosignature).1 redeemed
  have kept := run_keeps lib c calls
  exact ⟨payload, authID, parsed, coded, kept.codes payload (by simp [coded]),
    kept.states authID (by simp [stored])⟩

theorem initAuth_panics (c : AuthCosigner) (now : Int) (pkt : PKToken) (sig : String) :
    Go.Panics (initAuth lib c now pkt sig).1 ↔ Go.Panics (initAuthState lib now pkt sig) := by
  rw [initAuth_eq]
  rcases initAuthState lib now pkt sig with (_ | _) | _ <;> simp [Go.Panics]

theorem initAuthState_panics (now : Int) (pkt : PKToken) (sig : String) :
    Go.Panics (initAuthState lib now pkt sig) ↔
      ∃ msg, lib.verifySignedMessage pkt sig = .ok msg ∧
        (lib.unmarshalInitMFAAuth msg = .ok none ∨
          ∃ m, lib.unmarshalInitMFAAuth msg = .ok (some m) ∧ ¬tooOld now m.timeSigned ∧
            ¬tooFarAhead now m.timeSigned ∧ Go.Panics (newAuthState pkt m.redirectUri m.nonce)) := by
  simp only [initAuthState, Go.bind_panics_iff, Go.lift_not_panics, Go.lift_eq_ok, Go.wrap_panics_iff,
    Go.wrap_eq_ok, Go.assert_panics, Go.assert_eq_ok, Go.failIf_not_panics, Go.failIf_eq_ok, false_or, Go.exists_unit]
  refine exists_congr fun msg => and_congr_right fun _ => ?_
  constructor
  · rintro ⟨_ | m, parsed, none | ⟨m', same, rest⟩⟩
    · exact .inl parsed
    · cases same
    · cases none
    · cases same
      exact .inr ⟨m, parsed, rest⟩
  · rintro (parsed | ⟨m, parsed, rest⟩)
    · exact ⟨none, parsed, .inl rfl⟩
    · exact ⟨some m, parsed, .inr ⟨m, rfl, rest⟩⟩

theorem newAuthcode_not_panics (c : AuthCosigner) (authID : String) (bytes : Except String AuthCodeBytes) :
    ¬Go.Panics (newAuthcode c authID bytes).1 := by
  cases bytes <;> simp [newAuthcode]

theorem issueSignature_panics (c : AuthCosigner) (now : Int) (pkt : PKToken) (authID : String) :
    Go.Panics (issueSignature lib c now pkt authID) ↔ c.authStateMap authID = none := by
  simp [issueSignature]

theorem redeemAuthcode_panics (c : AuthCosigner) (now : Int) (sig : String) :
    Go.Panics (redeemAuthcode lib c now sig) ↔
      ∃ payload, lib.parsePayload sig = .ok payload ∧
        ∃ authID, c.authCodeMap payload = some authID ∧ c.authStateMap authID = none := by
  simp only [redeemAuthcode, Go.bind_panics_iff, Go.lift_not_panics, Go.lift_eq_ok, Go.expect_not_panics,
    Go.expect_eq_ok, Go.assert_panics, Go.assert_eq_ok, issueSignature_panics, false_or]
  refine exists_congr fun payload => and_congr_right fun _ => exists_congr fun authID => and_congr_right fun _ => ?_
  constructor
  · rintro (missing | ⟨authState, stored, -, -, missing⟩)
    · exact missing
    · simp [stored] at missing
  · exact .inl

def Crashes (c : AuthCosigner) (now : Int) : Call → Prop
  | .initAuth pkt sig =>
    ∃ msg, lib.verifySignedMessage pkt sig = .ok msg ∧
      (lib.unmarshalInitMFAAuth msg = .ok none ∨
        ∃ m, lib.unmarshalInitMFAAuth msg = .ok (some m) ∧ ¬tooOld now m.timeSigned ∧ ¬tooFarAhead now m.timeSigned ∧
          ∃ claims, unmarshalStruct ["iss", "sub", "email"] pkt.payload = .ok claims ∧
            ∃ xs, fieldAny claims "aud" = .arr xs ∧ ∃ x ∈ xs, x.asString? = none)
  | .newAuthcode _ _ => False
  | .redeemAuthcode sig =>
    ∃ payload, lib.parsePayload sig = .ok payload ∧
      ∃ authID, c.authCodeMap payload = some authID ∧ c.authStateMap authID = none
  | .issueSignature _ authID => c.authStateMap authID = none

theorem step_panics (c : AuthCosigner) (now : Int) (call : Call) :
    Go.Panics (step lib c now call).1 ↔ Crashes lib c now call := by
  cases call with
  | initAuth pkt sig => simp only [step, Crashes, initAuth_panics, initAuthState_panics, newAuthState_panics]
  | newAuthcode authID bytes => simpa [step, Crashes] using newAuthcode_not_panics c authID bytes
  | redeemAuthcode sig => exact redeemAuthcode_panics lib c now sig
  | issueSignature pkt authID => exact issueSignature_panics lib c now pkt authID

end

def replayRun : List (Int × Call) :=
  aliceRun ++ [(signedAt, .redeemAuthcode aliceCode), (signedAt + 60000000000, .redeemAuthcode aliceCode)]

set_option maxRecDepth 4000 in
theorem redeemAuthcode_accepts_replay :
    newAuthCosigner "ES256" cosIssuer "kid1" (.ok [1, 2, 3]) = .ok freshCosigner ∧
    (run cosLib freshCosigner replayRun).2.map (·.2.2) =
      [.ok aliceID, .ok aliceCode, .ok aliceCosignature, .ok aliceCosignature] :=
  ⟨rfl, by decide⟩

def strayCodeBytes : AuthCodeBytes := ⟨List.replicate 32 9, List.length_replicate 32 9⟩

def strayRun : List (Int × Call) :=
  [(signedAt, .newAuthcode "bogus" (.ok strayCodeBytes)), (signedAt, .redeemAuthcode (hexEncode strayCodeBytes.val))]

set_option maxRecDepth 4000 in
theorem cosigner_panics_from_fresh_state :
    newAuthCosigner "ES256" cosIssuer "kid1" (.ok [1, 2, 3]) = .ok freshCosigner ∧
    (run cosLib freshCosigner strayRun).1.authCodeMap (hexEncode strayCodeBytes.val) = some "bogus" ∧
    ((run cosLib freshCosigner strayRun).1.authStateMap "bogus").isNone ∧
    (run cosLib freshCosigner strayRun).2.map (·.2.2) = [.ok (hexEncode strayCodeBytes.val), .error (.panic nilDereference)] ∧
    (step cosLib freshCosigner signedAt (.issueSignature alicePkt "bogus")).1 = .error (.panic nilDereference) ∧
    (step cosLib freshCosigner signedAt (.initAuth (audiencePkt (.arr [.str "a", .num 1])) "init")).1 =
      .error (.panic notString) ∧
    (step cosLib freshCosigner signedAt (.initAuth alicePkt "null")).1 = .error (.panic nilDereference) :=
  ⟨rfl, by decide, by decide, by decide, by decide, by decide, by decide⟩

end OpenPubkey.Cosigner
