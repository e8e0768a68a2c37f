import OpenPubkey.PKToken

set_option autoImplicit false

namespace OpenPubkey.Cert

def indexOutOfRange (i length : Nat) : String :=
  "index out of range [" ++ toString i ++ "] with length " ++ toString length

structure EcdsaKey where
  curve : String
  x : Nat
  y : Nat
deriving DecidableEq, Repr

structure EcdsaPrivateKey where
  publicKey : EcdsaKey
  d : Nat
deriving DecidableEq, Repr

/-- What `upk.Raw(&rawkey)` stores in `rawkey`: an `*ecdsa.PublicKey`, or a value
of another dynamic type, kept as the name the Go runtime prints for it. -/
inductive RawKey where
  | ecdsa (key : EcdsaKey)
  | other (typeName : String)
deriving DecidableEq, Repr

def RawKey.asEcdsa : RawKey → Go EcdsaKey
  | .ecdsa key => pure key
  | .other typeName => Go.crash ("interface conversion: interface {} is " ++ typeName ++ ", not *ecdsa.PublicKey")

@[simp] theorem RawKey.asEcdsa_eq_ok (rawkey : RawKey) (key : EcdsaKey) :
    rawkey.asEcdsa = .ok key ↔ rawkey = .ecdsa key := by
  cases rawkey <;> simp [RawKey.asEcdsa, Go.crash, eq_comm]

@[simp] theorem RawKey.asEcdsa_panics (rawkey : RawKey) :
    Go.Panics rawkey.asEcdsa ↔ ∃ typeName, rawkey = .other typeName := by
  cases rawkey <;> simp [RawKey.asEcdsa]

structure Extension where
  id : List Nat
  critical : Bool
  value : String
deriving DecidableEq, Repr

structure CertTemplate where
  serialNumber : Nat
  emailAddresses : List String
  notBefore : Int
  notAfter : Int
  keyUsage : Nat
  extKeyUsage : List Nat
  isCA : Bool
  extraExtensions : List Extension
  subjectKeyId : String
deriving DecidableEq, Repr

structure Certificate where
  raw : String
deriving DecidableEq, Repr

def keyUsageDigitalSignature : Nat := 1

def extKeyUsageCodeSigning : Nat := 3

def oidcIssuerOid : List Nat := [1, 3, 6, 1, 4, 1, 57264, 1, 1]

def minute : Int := 60000000000

def hour : Int := 3600000000000

structure CALibrary where
  unmarshalPKToken : String → Except String (Option PKToken)
  verifyCicSig : PKToken → Except String Unit
  parseCertificate : String → Except String Certificate
  base64EncodeForJWT : String → String
  getCicValues : PKToken → Except String Cic
  raw : Jwk → Except String RawKey
  createCertificate : CertTemplate → Certificate → EcdsaKey → EcdsaPrivateKey → Except String String
  pemEncode : String → String → Except String String

def payloadFields : List (String × FieldType) := [("iss", .string), ("aud", .strings), ("email", .string)]

def subTemplate (now : Int) (payload : Claims) (subjectKeyId : String) : CertTemplate :=
  { serialNumber := 1, emailAddresses := [fieldString payload "email"], notBefore := now - minute,
    notAfter := now + hour, keyUsage := keyUsageDigitalSignature, extKeyUsage := [extKeyUsageCodeSigning],
    isCA := false, extraExtensions := [⟨oidcIssuerOid, false, fieldString payload "iss"⟩], subjectKeyId }

def formatStrings (l : List String) : String := "[" ++ " ".intercalate l ++ "]"

section

variable (lib : CALibrary)

/-- `PktTox509` at time `now`. `VerifyCicSig` reads the token's fields, so a nil
token dereferences nil there. -/
def pktTox509 (now : Int) (pktJson caBytes : String) (caPkSk : EcdsaPrivateKey) (requiredAudience : String) :
    Go String := do
  let pkt ← Go.lift (lib.unmarshalPKToken pktJson)
  let pkt ← Go.assert nilDereference pkt
  Go.lift (lib.verifyCicSig pkt)
  let payload ← unmarshalFields payloadFields pkt.payload
  let audience := fieldStrings payload "aud"
  let first ← Go.assert (indexOutOfRange 0 audience.length) audience.head?
  Go.failIf (first ≠ requiredAudience)
    ("audience 'aud' claim in PK Token did not match audience required by CA, it was " ++
      formatStrings audience ++ " instead")
  let caTemplate ← Go.lift (lib.parseCertificate caBytes)
  let template := subTemplate now payload (lib.base64EncodeForJWT pktJson)
  let cic ← Go.lift (lib.getCicValues pkt)
  let rawkey ← Go.lift (lib.raw cic.publicKey)
  let pk ← rawkey.asEcdsa
  let subCertBytes ← Go.lift (lib.createCertificate template caTemplate pk caPkSk)
  let subCert ← Go.lift (lib.parseCertificate subCertBytes)
  Go.lift (lib.pemEncode "CERTIFICATE" subCert.raw)

theorem pktTox509_eq_ok (now : Int) (pktJson caBytes : String) (caPkSk : EcdsaPrivateKey)
    (requiredAudience pem : String) :
    pktTox509 lib now pktJson caBytes caPkSk requiredAudience = .ok pem ↔
      ∃ pkt, lib.unmarshalPKToken pktJson = .ok (some pkt) ∧ lib.verifyCicSig pkt = .ok () ∧
      ∃ payload, unmarshalFields payloadFields pkt.payload = .ok payload ∧
        (fieldStrings payload "aud").head? = some requiredAudience ∧
      ∃ caTemplate, lib.parseCertificate caBytes = .ok caTemplate ∧
      ∃ cic, lib.getCicValues pkt = .ok cic ∧
      ∃ pk, lib.raw cic.publicKey = .ok (.ecdsa pk) ∧
      ∃ subCertBytes, lib.createCertificate (subTemplate now payload (lib.base64EncodeForJWT pktJson))
          caTemplate pk caPkSk = .ok subCertBytes ∧
      ∃ subCert, lib.parseCertificate subCertBytes = .ok subCert ∧
        lib.pemEncode "CERTIFICATE" subCert.raw = .ok pem := by
  simp only [pktTox509, Go.bind_eq_ok, Go.lift_eq_ok, Go.assert_eq_ok, Go.failIf_eq_ok, Go.exists_unit,
    RawKey.asEcdsa_eq_ok, not_not]
  constructor
  · rintro ⟨_, decoded, pkt, rfl, verified, payload, fields, _, first, rfl, caTemplate, parsed, cic, values, _, raw,
      pk, rfl, subCertBytes, created, subCert, reparsed, encoded⟩
    exact ⟨pkt, decoded, verified, payload, fields, first, caTemplate, parsed, cic, values, pk, raw, subCertBytes,
      created, subCert, reparsed, encoded⟩
  · rintro ⟨pkt, decoded, verified, payload, fields, first, caTemplate, parsed, cic, values, pk, raw, subCertBytes,
      created, subCert, reparsed, encoded⟩
    exact ⟨_, decoded, pkt, rfl, verified, payload, fields, _, first, rfl, caTemplate, parsed, cic, values, _, raw,
      pk, rfl, subCertBytes, created, subCert, reparsed, encoded⟩

theorem pktTox509_panics (now : Int) (pktJson caBytes : String) (caPkSk : EcdsaPrivateKey)
    (requiredAudience : String) :
    Go.Panics (pktTox509 lib now pktJson caBytes caPkSk requiredAudience) ↔
      lib.unmarshalPKToken pktJson = .ok none ∨
      ∃ pkt, lib.unmarshalPKToken pktJson = .ok (some pkt) ∧ lib.verifyCicSig pkt = .ok () ∧
      ∃ payload, unmarshalFields payloadFields pkt.payload = .ok payload ∧
        (fieldStrings payload "aud" = [] ∨
          (fieldStrings payload "aud").head? = some requiredAudience ∧
          ∃ caTemplate, lib.parseCertificate caBytes = .ok caTemplate ∧
          ∃ cic, lib.getCicValues pkt = .ok cic ∧
          ∃ typeName, lib.raw cic.publicKey = .ok (.other typeName)) := by
  simp only [pktTox509, Go.bind_panics_iff, Go.lift_not_panics, Go.lift_eq_ok, Go.assert_panics, Go.assert_eq_ok,
    Go.failIf_not_panics, Go.failIf_eq_ok, unmarshalFields_not_panics, RawKey.asEcdsa_panics, false_or, or_false,
    Go.exists_unit, not_not, List.head?_eq_none_iff, and_false, exists_false]
  constructor
  · rintro ⟨_, decoded, rfl | ⟨pkt, rfl, verified, payload, fields, empty | ⟨_, first, rfl, caTemplate, parsed, cic,
      values, _, raw, typeName, rfl⟩⟩⟩
    · exact .inl decoded
    · exact .inr ⟨pkt, decoded, verified, payload, fields, .inl empty⟩
    · exact .inr ⟨pkt, decoded, verified, payload, fields, .inr ⟨first, caTemplate, parsed, cic, values, typeName, raw⟩⟩
  · rintro (decoded | ⟨pkt, decoded, verified, payload, fields, empty | ⟨first, caTemplate, parsed, cic, values,
      typeName, raw⟩⟩)
    · exact ⟨_, decoded, .inl rfl⟩
    · exact ⟨_, decoded, .inr ⟨pkt, rfl, verified, payload, fields, .inl empty⟩⟩
    · exact ⟨_, decoded, .inr ⟨pkt, rfl, verified, payload, fields,
        .inr ⟨_, first, rfl, caTemplate, parsed, cic, values, _, raw, typeName, rfl⟩⟩⟩

end

def caPkt (aud : Option Json) (alg : String) : PKToken :=
  { payload := some (.obj ([("iss", .str "https://accounts.example.com"), ("email", .str "alice@example.com")] ++
      (aud.map fun aud => [("aud", aud)]).getD []))
    op := default
    cic := { protectedHeaders := { alg := some alg, typ := some "CIC", kid := none, privateParams := [] },
             signature := "cicsig" }
    cos := none }

def caKey : EcdsaPrivateKey := ⟨⟨"P-256", 5, 6⟩, 7⟩

def caLib : CALibrary where
  unmarshalPKToken
    | "null" => .ok none
    | "empty-aud" => .ok (some (caPkt (some (.arr [])) "ES256"))
    | "no-aud" => .ok (some (caPkt none "ES256"))
    | "rsa-upk" => .ok (some (caPkt (some (.arr [.str "ca"])) "RS256"))
    | "ec-upk" => .ok (some (caPkt (some (.arr [.str "ca"])) "ES256"))
    | _ => .error "invalid character looking for beginning of value"
  verifyCicSig _ := .ok ()
  parseCertificate der := .ok ⟨der⟩
  base64EncodeForJWT s := s
  getCicValues pkt := .ok
    { publicKey := ⟨if pkt.cic.protectedHeaders.alg = some "RS256" then .rsa ⟨3233, 17⟩ else .ecdsa "P-256" 1 2,
        "ES256"⟩
      rz := "rz", extra := [] }
  raw jwk := match jwk.key with
    | .ecdsa curve x y => .ok (.ecdsa ⟨curve, x, y⟩)
    | .rsa _ => .ok (.other "*rsa.PublicKey")
    | .other kty _ => .error ("unsupported key type " ++ kty)
  createCertificate template _ _ _ := .ok ("der(" ++ template.subjectKeyId ++ ")")
  pemEncode type bytes := .ok ("-----BEGIN " ++ type ++ "-----\n" ++ bytes ++ "\n-----END " ++ type ++ "-----\n")

theorem pktTox509_panics_on_empty_audience_and_rsa_key :
    ∀ now, pktTox509 caLib now "empty-aud" "ca" caKey "ca" =
        .error (.panic "index out of range [0] with length 0") ∧
      pktTox509 caLib now "no-aud" "ca" caKey "ca" = .error (.panic "index out of range [0] with length 0") ∧
      pktTox509 caLib now "rsa-upk" "ca" caKey "ca" =
        .error (.panic "interface conversion: interface {} is *rsa.PublicKey, not *ecdsa.PublicKey") ∧
      pktTox509 caLib now "ec-upk" "ca" caKey "ca" =
        .ok "-----BEGIN CERTIFICATE-----\nder(ec-upk)\n-----END CERTIFICATE-----\n" :=
  fun _ => ⟨rfl, rfl, rfl, rfl⟩

end OpenPubkey.Cert
