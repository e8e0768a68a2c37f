import Mathlib.Data.UInt
import OpenPubkey.PKToken

set_option autoImplicit false

namespace OpenPubkey.Cosigner

structure InitMFAAuth where
  redirectUri : String
  timeSigned : Int
  nonce : String
deriving DecidableEq, Repr

structure AuthState where
  pkt : PKToken
  issuer : String
  aud : String
  sub : String
  username : String
  displayName : String
  redirectURI : String
  nonce : String
  sigIssued : Bool

structure UserKey where
  issuer : String
  aud : String
  sub : String
deriving DecidableEq, Repr

def AuthState.userKey (as : AuthState) : UserKey := ⟨as.issuer, as.aud, as.sub⟩

structure CosignerClaims where
  iss : String
  keyID : String
  algorithm : String
  authID : String
  authTime : Int
  issuedAt : Int
  expiration : Int
  redirectURI : String
  nonce : String
deriving DecidableEq, Repr

structure AuthCosigner where
  alg : String
  issuer : String
  keyID : String
  authIdIter : UInt64
  hmacKey : List UInt8
  authStateMap : String → Option AuthState
  authCodeMap : String → Option String

structure CosignerLibrary where
  verifySignedMessage : PKToken → String → Except String String
  parsePayload : String → Except String String
  unmarshalInitMFAAuth : String → Except String (Option InitMFAAuth)
  hmacSha3 : List UInt8 → List UInt8 → List UInt8
  cosign : PKToken → CosignerClaims → Except String String

def newAuthCosigner (alg issuer keyID : String) (hmacKey : Except String (List UInt8)) :
    Go AuthCosigner := do
  let hmacKey ← Go.lift hmacKey
  pure ⟨alg, issuer, keyID, 0, hmacKey, fun _ => none, fun _ => none⟩

def unix (now : Int) : Int := now / 1000000000

/-- `time.Since(time.Unix(ts, 0)).Minutes() > 2`: the duration exceeds 120 s.
`Sub` saturates, which keeps the comparison's outcome. -/
def tooOld (now ts : Int) : Prop := now - ts * 1000000000 > 120 * 1000000000

def tooFarAhead (now ts : Int) : Prop := ts * 1000000000 - now > 120 * 1000000000

instance (now ts : Int) : Decidable (tooOld now ts) := inferInstanceAs (Decidable (_ > _))

instance (now ts : Int) : Decidable (tooFarAhead now ts) := inferInstanceAs (Decidable (_ > _))

def uint64OfInt (x : Int) : UInt64 := UInt64.ofNat (x % 2 ^ 64).toNat

def appendUint64 (b : List UInt8) (v : UInt64) : List UInt8 :=
  b ++ [v.toNat, v.toNat >>> 8, v.toNat >>> 16, v.toNat >>> 24,
    v.toNat >>> 32, v.toNat >>> 40, v.toNat >>> 48, v.toNat >>> 56].map UInt8.ofNat

def hexDigit (n : Nat) : Char := if n < 10 then Char.ofNat (48 + n) else Char.ofNat (87 + n)

def hexEncode (b : List UInt8) : String :=
  ⟨b.flatMap fun x => [hexDigit (x.toNat / 16), hexDigit (x.toNat % 16)]⟩

def authIdOf (lib : CosignerLibrary) (hmacKey : List UInt8) (authIdInt : UInt64) (now : Int) : String :=
  hexEncode (lib.hmacSha3 hmacKey (appendUint64 (appendUint64 [] authIdInt) (uint64OfInt (unix now))))

section

variable (lib : CosignerLibrary)

/-- `mac.Write` on a hash never fails and takes all 16 bytes. -/
def createAuthID (c : AuthCosigner) (now : Int) : Go String × AuthCosigner :=
  let authIdInt := c.authIdIter + 1
  let iterAndTime := appendUint64 (appendUint64 [] authIdInt) (uint64OfInt (unix now))
  let n := iterAndTime.length
  (do
    Go.failIf (n ≠ 16) ("unexpected number of bytes read by HMAC, expected 16, got " ++ toString n)
    pure (authIdOf lib c.hmacKey authIdInt now),
   { c with authIdIter := authIdInt })

def appendStrings (audList : List String) : List Json → Go (List String)
  | [] => pure audList
  | v :: rest => do
    let v ← Go.assert notString v.asString?
    appendStrings (audList ++ [v]) rest

def newAuthState (pkt : PKToken) (ruri nonce : String) : Go AuthState := do
  let claims ← Go.wrap "failed to unmarshal PK Token: " (unmarshalStruct ["iss", "sub", "email"] pkt.payload)
  let audience ← (match fieldAny claims "aud" with
    | .str t => pure t
    | .arr t => do
      let audList ← appendStrings [] t
      pure (String.intercalate "," audList)
    | t => Go.fail ("failed to deserialize aud (audience) claim in ID Token: " ++ t.render))
  let email := fieldString claims "email"
  pure { pkt, issuer := fieldString claims "iss", aud := audience, sub := fieldString claims "sub",
         username := email, displayName := (email.splitOn "@").headD "", redirectURI := ruri, nonce,
         sigIssued := false }

def initAuthState (now : Int) (pkt : PKToken) (sig : String) : Go AuthState := do
  let msg ← Go.lift (lib.verifySignedMessage pkt sig)
  let initMFAAuth ← Go.wrap "failed to parse InitMFAAuth message: " (Go.lift (lib.unmarshalInitMFAAuth msg))
  let initMFAAuth ← Go.assert nilDereference initMFAAuth
  Go.failIf (tooOld now initMFAAuth.timeSigned)
    ("timestamp (" ++ toString initMFAAuth.timeSigned ++ ") in InitMFAAuth message too old, current time is (" ++
      toString (unix now) ++ ")")
  Go.failIf (tooFarAhead now initMFAAuth.timeSigned)
    ("timestamp (" ++ toString initMFAAuth.timeSigned ++
      ") in InitMFAAuth message to far in the future, current time is (" ++ toString (unix now) ++ ")")
  newAuthState pkt initMFAAuth.redirectUri initMFAAuth.nonce

def initAuth (c : AuthCosigner) (now : Int) (pkt : PKToken) (sig : String) : Go String × AuthCosigner :=
  match initAuthState lib now pkt sig with
  | .error e => (.error e, c)
  | .ok authState =>
    match createAuthID lib c now with
    | (.ok authID, c) => (.ok authID, { c with authStateMap := Function.update c.authStateMap authID (some authState) })
    | (.error e, c) => (.error e, c)

abbrev AuthCodeBytes := { authCodeBytes : List UInt8 // authCodeBytes.length = 32 }

def newAuthcode (c : AuthCosigner) (authID : String) (authCodeBytes : Except String AuthCodeBytes) :
    Go String × AuthCosigner :=
  match authCodeBytes with
  | .error e => (Go.fail e, c)
  | .ok authCodeBytes =>
    let authCode := hexEncode authCodeBytes.val
    (pure authCode, { c with authCodeMap := Function.update c.authCodeMap authCode (some authID) })

def issueSignature (c : AuthCosigner) (now : Int) (pkt : PKToken) (authID : String) : Go String := do
  let authState ← Go.assert nilDereference (c.authStateMap authID)
  let protectedClaims : CosignerClaims :=
    { iss := c.issuer, keyID := c.keyID, algorithm := c.alg, authID, authTime := unix now,
      issuedAt := unix now, expiration := unix now + 3600, redirectURI := authState.redirectURI,
      nonce := authState.nonce }
  Go.lift (lib.cosign pkt protectedClaims)

def redeemAuthcode (c : AuthCosigner) (now : Int) (sig : String) : Go String := do
  let payload ← Go.lift (lib.parsePayload sig)
  let authID ← Go.expect "Invalid authcode" (c.authCodeMap payload)
  let authState ← Go.assert nilDereference (c.authStateMap authID)
  let _ ← Go.lift (lib.verifySignedMessage authState.pkt sig)
  issueSignature lib c now authState.pkt authID

inductive Call where
  | initAuth (pkt : PKToken) (sig : String)
  | newAuthcode (authID : String) (authCodeBytes : Except String AuthCodeBytes)
  | redeemAuthcode (sig : String)
  | issueSignature (pkt : PKToken) (authID : String)

def step (c : AuthCosigner) (now : Int) : Call → Go String × AuthCosigner
  | .initAuth pkt sig => initAuth lib c now pkt sig
  | .newAuthcode authID authCodeBytes => newAuthcode c authID authCodeBytes
  | .redeemAuthcode sig => (redeemAuthcode lib c now sig, c)
  | .issueSignature pkt authID => (issueSignature lib c now pkt authID, c)

def run (c : AuthCosigner) : List (Int × Call) → AuthCosigner × List (Int × Call × Go String)
  | [] => (c, [])
  | (now, call) :: rest =>
    let next := step lib c now call
    let after := run next.2 rest
    (after.1, (now, call, next.1) :: after.2)

end

end OpenPubkey.Cosigner
