/-
  ResolverIdentity.Core.RegistryKeys: the keys of the on-chain Registry.

  `DnsEndpoint::registry_key` of `ri-core/src/endpoint.rs` and `resolver_id_key` of
  `ri-core/src/crypto.rs`.
-/
import ResolverIdentity.Core.Endpoint

namespace ResolverIdentity

open Library Json

/-- The value of an endpoint without its `endpoint_id`. -/
def DnsEndpoint.key_value (endpoint : DnsEndpoint) : Json :=
  { endpoint with endpoint_id := none }.to_value

namespace Platform

variable (P : Platform)

/-- `sha256_hex(format!("endpoint-v2:{}", canonical_json_text(..)))`. -/
def registry_key (endpoint : DnsEndpoint) : Except EvidenceValidationError String := do
  let normalized ← P.normalized endpoint
  .ok (P.sha256_hex (as_bytes "endpoint-v2:" ++ P.canonical_json_bytes normalized.key_value))

/-- The key of a resolver in the Registry. -/
def resolver_id_key (resolver_id : String) : String :=
  P.sha256_hex (as_bytes "resolver-id:" ++ as_bytes (P.normalize_name resolver_id))

end Platform

end ResolverIdentity
