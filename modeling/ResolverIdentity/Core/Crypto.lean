/-
  ResolverIdentity.Core.Crypto: hashing, signing, and what the crates supply.

  `Platform` holds the third-party functions the sources call: the compact
  serializer, SHA-256, base64, ed25519, and the text conversions of endpoint
  normalization.  Everything else of `ri-core/src/crypto.rs` is defined over it.
-/
import ResolverIdentity.Core.Serialize

namespace ResolverIdentity

open Library

/-- The functions of other crates, and of the Unicode tables. -/
structure Platform where
  /-- `serde_json::to_vec`. -/
  to_vec : Json → List UInt8
  /-- The digest of `sha2`, as `0x` and lower-case hexadecimal. -/
  sha256_hex : List UInt8 → String
  /-- `STANDARD.encode` of `base64`. -/
  base64_encode : List UInt8 → String
  /-- `STANDARD.decode` of `base64`. -/
  base64_decode : List UInt8 → Option (List UInt8)
  /-- The verifying key of a 32-byte seed. -/
  ed25519_public_key : List UInt8 → List UInt8
  /-- `VerifyingKey::from_bytes` accepts the bytes. -/
  ed25519_valid_key : List UInt8 → Bool
  ed25519_sign : List UInt8 → List UInt8 → List UInt8
  ed25519_verify : List UInt8 → List UInt8 → List UInt8 → Bool
  /-- `str::to_lowercase`. -/
  to_lowercase : String → String
  /-- `IpAddr::from_str`, printed back. -/
  parse_ip : String → Option String
  /-- `Url::parse` without its fragment and with a non-empty path, printed back. -/
  canonical_url : String → Option String

/-! ## §1. Errors. -/

/-- What `ri-core` refuses evidence with. -/
inductive EvidenceValidationError where
  | serialization (text : String)
  | invalidPrivateKey
  | invalidPublicKey
  | missingSignature
  | unsupportedSignatureAlgorithm
  | invalidSignature
  | invalidEndpoint (text : String)
  | unsupportedSchema (schema : String)
  | identityNotActive (server_id : String)
  | issuerKeyNotFound (issuer key_id : String)
  | invalidGraph (text : String)
  | policyRejected (text : String)
  deriving DecidableEq

/-- The `Display` texts of the errors. -/
def EvidenceValidationError.text : EvidenceValidationError → String
  | .serialization text => "serialization error: " ++ text
  | .invalidPrivateKey => "invalid private key"
  | .invalidPublicKey => "invalid public key"
  | .missingSignature => "missing signature"
  | .unsupportedSignatureAlgorithm => "unsupported signature algorithm"
  | .invalidSignature => "invalid signature"
  | .invalidEndpoint text => "invalid endpoint: " ++ text
  | .unsupportedSchema schema => "unsupported schema: " ++ schema
  | .identityNotActive server_id => "identity is not active: " ++ server_id
  | .issuerKeyNotFound issuer key_id => "identity issuer key not found: " ++ issuer ++ "/" ++ key_id
  | .invalidGraph text => "invalid graph: " ++ text
  | .policyRejected text => "policy rejected evidence: " ++ text

namespace Platform

variable (P : Platform)

/-! ## §2. Digests. -/

/-- `canonical_json_bytes`. -/
def canonical_json_bytes (value : Json) : List UInt8 := P.to_vec value.strip_signatures

/-- `object_hash`, of the object's JSON value. -/
def object_hash (value : Json) : String := P.sha256_hex (P.canonical_json_bytes value)

/-! ## §3. Signatures. -/

/-- What a signature text begins with. -/
def ED25519_PREFIX : String := "base64:ed25519:"

/-- The 32 bytes of a base64 private key. -/
def private_bytes (private_key_b64 : String) : Except EvidenceValidationError (List UInt8) := do
  let private_raw ← okOr (P.base64_decode (as_bytes private_key_b64)) .invalidPrivateKey
  rejectIf (private_raw.length != 32) .invalidPrivateKey
  .ok private_raw

/-- A signature over the canonical form of an object. -/
def sign_ed25519 (value : Json) (private_key_b64 : String) :
    Except EvidenceValidationError String := do
  let key ← P.private_bytes private_key_b64
  let signature := P.ed25519_sign key (P.canonical_json_bytes value)
  .ok (ED25519_PREFIX ++ P.base64_encode signature)

/-- The public key of a private one. -/
def ed25519_public_key_b64 (private_key_b64 : String) : Except EvidenceValidationError String := do
  let key ← P.private_bytes private_key_b64
  .ok (P.base64_encode (P.ed25519_public_key key))

/-- `str::strip_prefix`, as the bytes of what is left. -/
def strip_prefix (text pre : String) : Option (List UInt8) :=
  if (as_bytes pre).isPrefixOf (as_bytes text) then
    some ((as_bytes text).drop (as_bytes pre).length)
  else none

/-- The signature of an object is one of the given key. -/
def verify_ed25519 (value : Json) (public_key_b64 : String) :
    Except EvidenceValidationError Unit := do
  let signature_text ← okOr ((value.get "signature").bind Json.as_str) .missingSignature
  let encoded ← okOr ( strip_prefix signature_text ED25519_PREFIX) .unsupportedSignatureAlgorithm
  let signature_raw ← okOr (P.base64_decode encoded) .invalidSignature
  rejectIf (signature_raw.length != 64) .invalidSignature
  let public_raw ← okOr (P.base64_decode (as_bytes public_key_b64)) .invalidPublicKey
  rejectIf (public_raw.length != 32) .invalidPublicKey
  rejectIf (!P.ed25519_valid_key public_raw) .invalidPublicKey
  rejectIf (!P.ed25519_verify public_raw (P.canonical_json_bytes value) signature_raw)
    .invalidSignature

end Platform

end ResolverIdentity
