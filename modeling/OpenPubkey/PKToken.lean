import OpenPubkey.Json

set_option autoImplicit false

namespace OpenPubkey

structure Headers where
  alg : Option String
  typ : Option String
  kid : Option String
  privateParams : Claims
deriving Inhabited

def Headers.get? (headers : Headers) (name : String) : Option Json :=
  mapGet headers.privateParams name

def Headers.algorithm (headers : Headers) : String := headers.alg.getD ""

structure Signature where
  protectedHeaders : Headers
  signature : String
deriving Inhabited

structure Jws where
  protectedHeaders : Headers
  payload : Option Json
  signature : String

structure PKToken where
  payload : Option Json
  op : Signature
  cic : Signature
  cos : Option Signature
deriving Inhabited

namespace PKToken

def opToken (pkt : PKToken) : Jws := ⟨pkt.op.protectedHeaders, pkt.payload, pkt.op.signature⟩

def cicToken (pkt : PKToken) : Jws := ⟨pkt.cic.protectedHeaders, pkt.payload, pkt.cic.signature⟩

/-- Modelled from the spec: `provider_alg()`, the `alg` of the `Op` protected header. -/
def providerAlgorithm (pkt : PKToken) : Option String := pkt.op.protectedHeaders.alg

/-- Modelled from the spec: `provider_sig_type()`, the `typ` of the `Op` protected header. -/
def providerSignatureType (pkt : PKToken) : Option String := pkt.op.protectedHeaders.typ

/-- Modelled from the spec: `issuer()`, the `iss` claim of the payload. -/
def issuer (pkt : PKToken) : Go String := do
  let claims ← unmarshalStruct ["iss"] pkt.payload
  pure (fieldString claims "iss")

theorem issuer_not_panics (pkt : PKToken) : ¬Go.Panics pkt.issuer := by
  simp [issuer, unmarshalStruct_not_panics]

end PKToken

structure RsaKey where
  n : Nat
  e : Nat
deriving DecidableEq, Repr

inductive PublicKey where
  | rsa (key : RsaKey)
  | ecdsa (curve : String) (x y : Nat)
  | other (kty : String) (material : String)
deriving DecidableEq, Repr

def PublicKey.asRsa : PublicKey → Option RsaKey
  | .rsa key => some key
  | _ => none

structure Jwk where
  key : PublicKey
  alg : String
deriving DecidableEq, Repr

structure PublicKeyRecord where
  publicKey : PublicKey
  alg : String
  issuer : String
deriving DecidableEq, Repr

structure Cic where
  publicKey : Jwk
  rz : String
  extra : Claims

structure Library where
  jwsVerify : Jws → String → PublicKey → Except String Unit
  gq256VerifyJWT : RsaKey → Jws → Except String Bool
  originalJWTHeaders : Jws → Except String String
  base64DecodeForJWT : String → Except String String
  unmarshalHeaders : String → Except String Headers
  getCicValues : PKToken → Except String Cic
  hash : Cic → Except String String

end OpenPubkey
