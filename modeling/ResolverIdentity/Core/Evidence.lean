/-
  ResolverIdentity.Core.Evidence: the signed evidence objects.

  The types of `ri-core/src/evidence.rs`, field by field.  Unsigned integers are
  `Nat`, signed ones `Int`; the 64-bit bounds appear where the code checks or
  wraps them.  `to_value` is the `Serialize` instance of each type, so that
  hashing and signing read the same fields as the source.

  A JSON column of a database holds the text of one of these values.  The
  serializer is injective on each type, so a column is modelled by the value it
  encodes.  Reading a `RegistryReferenceV2` back is not the identity: its
  `Deserialize` checks the target fields against the metadata (`reread`).
-/
import ResolverIdentity.Core.Json
import ResolverIdentity.Library.Transaction

namespace ResolverIdentity

open Library

/-! ## §1. Schema names and enumerations. -/

/-- The schema of an identity. -/
def DNS_SERVER_IDENTITY_V2 : String := "dns-server-identity-v2"

/-- The schema of an edge. -/
def SERVER_HOP_EVIDENCE_V2 : String := "dns-server-hop-evidence-v2"

/-- The schema of an attestation. -/
def TARGET_RESPONSE_ATTESTATION_V2 : String := "dns-target-response-attestation-v2"

/-- The schema of a graph. -/
def QUERY_EVIDENCE_GRAPH_V2 : String := "dns-query-evidence-graph-v2"

/-- The schema of an event. -/
def TRACE_EVENT_V2 : String := "dns-query-trace-event-v2"

/-- What a server does in a resolution. -/
inductive DnsServerRole where
  | recursive
  | forwarder
  | rootAuthority
  | tldAuthority
  | authoritative
  deriving DecidableEq

namespace DnsServerRole

/-- Does the server answer from its own zone? -/
def is_authority : DnsServerRole → Bool
  | .rootAuthority | .tldAuthority | .authoritative => true
  | .recursive | .forwarder => false

/-- Does it ask others? -/
def is_recursive : DnsServerRole → Bool
  | .recursive | .forwarder => true
  | .rootAuthority | .tldAuthority | .authoritative => false

/-- The name on the wire. -/
def name : DnsServerRole → String
  | .recursive => "RECURSIVE"
  | .forwarder => "FORWARDER"
  | .rootAuthority => "ROOT_AUTHORITY"
  | .tldAuthority => "TLD_AUTHORITY"
  | .authoritative => "AUTHORITATIVE"

/-- A server is an authority or a recursive server, never both. -/
theorem is_authority_eq_not (r : DnsServerRole) : r.is_authority = !r.is_recursive := by
  cases r <;> rfl

end DnsServerRole

/-- The two policies an Agent may run under. -/
inductive VerificationMode where
  | controlledStrict
  | publicHybrid
  deriving DecidableEq

/-- The name on the wire. -/
def VerificationMode.name : VerificationMode → String
  | .controlledStrict => "CONTROLLED_STRICT"
  | .publicHybrid => "PUBLIC_HYBRID"

/-- What is known of a node. -/
inductive EvidenceLevel where
  | agentAttested
  | dnssecValidated
  | registryBound
  deriving DecidableEq

/-- The name on the wire. -/
def EvidenceLevel.name : EvidenceLevel → String
  | .agentAttested => "AGENT_ATTESTED"
  | .dnssecValidated => "DNSSEC_VALIDATED"
  | .registryBound => "REGISTRY_BOUND"

/-- The verdict of a validating resolver. -/
inductive DnssecStatus where
  | secure
  | insecure
  | bogus
  | indeterminate
  | notApplicable
  deriving DecidableEq

/-- The name on the wire. -/
def DnssecStatus.name : DnssecStatus → String
  | .secure => "SECURE"
  | .insecure => "INSECURE"
  | .bogus => "BOGUS"
  | .indeterminate => "INDETERMINATE"
  | .notApplicable => "NOT_APPLICABLE"

/-- The producer's event kinds; the last five are legacy values that stay readable
during rolling upgrades. -/
inductive TraceEventKind where
  | clientQuery
  | clientResponse
  | upstreamQuery
  | upstreamResponse
  | upstreamTimeout
  | upstreamRetry
  | transportSwitch
  | resolutionFailed
  | resolverQuery
  | resolverResponse
  | authorityQuery
  | authorityResponse
  | cacheHit
  deriving DecidableEq

/-! ## §2. Endpoints, trace events, identities. -/

/-- Where a DNS server is reached. -/
structure DnsEndpoint where
  endpoint_id : Option String
  ip : Option String
  port : Option Nat
  transport : String
  uri : Option String
  server_name : Option String
  alpn : List String
  deriving DecidableEq

/-- One event of a DNS server's own trace. -/
structure TraceEventV2 where
  schema_version : String
  event_id : String
  trace_id : String
  sequence : Nat
  correlation_id : String
  parent_event_id : Option String
  kind : TraceEventKind
  observer_server_id : String
  target_server_id : Option String
  target_endpoint : Option DnsEndpoint
  target_correlation_id : Option String
  attempt : Option Nat
  query_digest : String
  response_digest : Option String
  cache_object_digest : Option String
  observed_at : Int
  dnssec_status : DnssecStatus
  ttl_expires_at : Option Int
  source_graph_digest : Option String
  failure_reason : Option String
  deriving DecidableEq

/-- The Agent that speaks for a server. -/
structure AgentBindingV2 where
  key_id : String
  algorithm : String
  public_key : String
  service_url : Option String
  deriving DecidableEq

/-- The signed identity of a DNS server. -/
structure DnsServerIdentityV2 where
  schema_version : String
  server_id : String
  operator_id : String
  role : DnsServerRole
  endpoints : List DnsEndpoint
  anycast : Bool
  anycast_service_id : Option String
  agent : Option AgentBindingV2
  valid_from : Int
  valid_until : Int
  object_version : Nat
  status : String
  issuer : String
  key_id : String
  signature : Option String
  deriving DecidableEq

/-- Active, and valid at the time. -/
def DnsServerIdentityV2.active_at (identity : DnsServerIdentityV2) (now : Int) : Bool :=
  identity.status = "ACTIVE" && identity.valid_from ≤ now && now ≤ identity.valid_until

/-! ## §3. Registry references. -/

/-- What pins a Registry on its chain. -/
inductive RegistryAdapterMetadataV2 where
  | evm (chain_id : Nat) (contract_address runtime_code_hash : String)
  | norn (genesis_block_hash registry_address registry_key : String)
      (snapshot_signer_issuer snapshot_signer_key_id : String)
  | external (driver snapshot_signer_issuer snapshot_signer_key_id : String)
  deriving DecidableEq

/-- What made a checkpoint final. -/
inductive RegistryFinalityTypeV2 where
  | evmFinalized
  | evmConfirmations
  | evmFinalizedOrConfirmations
  | nornDualNodeConfirmations
  | externalSignedCheckpoint
  deriving DecidableEq

/-- The name on the wire. -/
def finality_type_name : RegistryFinalityTypeV2 → String
  | .evmFinalized => "evm-finalized"
  | .evmConfirmations => "evm-confirmations"
  | .evmFinalizedOrConfirmations => "evm-finalized-or-confirmations"
  | .nornDualNodeConfirmations => "norn-dual-node-confirmations"
  | .externalSignedCheckpoint => "external-signed-checkpoint"

/-- The Registry state an identity was checked against. -/
structure RegistryReferenceV2 where
  chain_adapter : String
  chain_identity : String
  registry_locator : String
  registry_schema_hash : String
  adapter_metadata : RegistryAdapterMetadataV2
  checkpoint_height : Nat
  checkpoint_hash : String
  finality_type : RegistryFinalityTypeV2
  state_root : String
  object_hash : String
  object_version : Nat
  resolver_status : String
  root_status : String
  endpoint_binding_status : String
  snapshot_generation : Nat
  deriving DecidableEq

/-- What the JSON object of a reference holds, the legacy EVM fields included. -/
structure RegistryReferenceWire where
  chain_adapter : String
  chain_identity : String
  registry_locator : String
  registry_schema_hash : String
  adapter_metadata : Option RegistryAdapterMetadataV2
  evm_chain_id : Option Nat
  evm_contract_address : Option String
  evm_runtime_code_hash : Option String
  checkpoint_height : Nat
  checkpoint_hash : String
  finality_type : Option RegistryFinalityTypeV2
  state_root : String
  object_hash : String
  object_version : Nat
  resolver_status : String
  root_status : String
  endpoint_binding_status : String
  snapshot_generation : Nat
  deriving DecidableEq

namespace RegistryReferenceWire

/-- `if field.is_empty() { default } else { field }` -/
def orDefault (field dflt : String) : String := if field.isEmpty then dflt else field

/-- The adapter metadata a wire object stands for. -/
def metadata (wire : RegistryReferenceWire) : Except String RegistryAdapterMetadataV2 :=
  let legacy_evm_present := wire.evm_chain_id.isSome || wire.evm_contract_address.isSome ||
    wire.evm_runtime_code_hash.isSome
  match wire.adapter_metadata, legacy_evm_present with
  | some _, true => .error "typed adapter metadata conflicts with legacy EVM fields"
  | some metadata, false => .ok metadata
  | none, true =>
    if wire.chain_adapter.isEmpty || wire.chain_adapter = "evm" then do
      let chain_id ← okOr wire.evm_chain_id "legacy EVM chain ID is incomplete"
      let contract_address ← okOr wire.evm_contract_address
        "legacy EVM contract address is incomplete"
      let runtime_code_hash ← okOr wire.evm_runtime_code_hash
        "legacy EVM runtime code hash is incomplete"
      .ok (.evm chain_id contract_address runtime_code_hash)
    else .error "typed adapter metadata is required for non-legacy references"
  | none, false => .error "typed adapter metadata is required for non-legacy references"

/-- Do the target fields agree with the typed metadata? -/
def target_matches_metadata (chain_adapter chain_identity registry_locator : String)
    (registry_schema_hash : String) (finality_type : RegistryFinalityTypeV2) :
    RegistryAdapterMetadataV2 → Bool
  | .evm chain_id contract_address runtime_code_hash =>
    chain_adapter = "evm" &&
    chain_identity = "eip155:" ++ toString chain_id &&
    registry_locator = "evm:" ++ contract_address &&
    registry_schema_hash = runtime_code_hash &&
    (finality_type = .evmFinalized || finality_type = .evmConfirmations ||
      finality_type = .evmFinalizedOrConfirmations)
  | .norn genesis_block_hash registry_address registry_key _ _ =>
    chain_adapter = "norn" &&
    chain_identity = "norn-genesis:" ++ genesis_block_hash &&
    registry_locator = "norn:" ++ registry_address ++ "#" ++ registry_key &&
    !registry_schema_hash.isEmpty &&
    finality_type = .nornDualNodeConfirmations
  | .external driver _ _ =>
    chain_adapter = "external" &&
    !driver.isEmpty && !chain_identity.isEmpty && !registry_locator.isEmpty &&
    !registry_schema_hash.isEmpty &&
    finality_type = .externalSignedCheckpoint

end RegistryReferenceWire

namespace RegistryReferenceV2

/-- `Serialize`: every field is written, and no legacy one. -/
def to_wire (reference : RegistryReferenceV2) : RegistryReferenceWire where
  chain_adapter := reference.chain_adapter
  chain_identity := reference.chain_identity
  registry_locator := reference.registry_locator
  registry_schema_hash := reference.registry_schema_hash
  adapter_metadata := some reference.adapter_metadata
  evm_chain_id := none
  evm_contract_address := none
  evm_runtime_code_hash := none
  checkpoint_height := reference.checkpoint_height
  checkpoint_hash := reference.checkpoint_hash
  finality_type := some reference.finality_type
  state_root := reference.state_root
  object_hash := reference.object_hash
  object_version := reference.object_version
  resolver_status := reference.resolver_status
  root_status := reference.root_status
  endpoint_binding_status := reference.endpoint_binding_status
  snapshot_generation := reference.snapshot_generation

/-- `Deserialize`. -/
def deserialize (wire : RegistryReferenceWire) : Except String RegistryReferenceV2 := do
  let legacy_evm_present := wire.evm_chain_id.isSome || wire.evm_contract_address.isSome ||
    wire.evm_runtime_code_hash.isSome
  rejectIf (wire.adapter_metadata.isSome && wire.chain_adapter.isEmpty)
    "chain_adapter is required with typed adapter metadata"
  let legacy_evm_reference := wire.adapter_metadata.isNone && legacy_evm_present
  let adapter_metadata ← wire.metadata
  let (chain_adapter, chain_identity, registry_locator, registry_schema_hash) :=
    match adapter_metadata with
    | .evm chain_id contract_address runtime_code_hash =>
      (RegistryReferenceWire.orDefault wire.chain_adapter "evm",
        RegistryReferenceWire.orDefault wire.chain_identity ("eip155:" ++ toString chain_id),
        RegistryReferenceWire.orDefault wire.registry_locator ("evm:" ++ contract_address),
        RegistryReferenceWire.orDefault wire.registry_schema_hash runtime_code_hash)
    | _ => (wire.chain_adapter, wire.chain_identity, wire.registry_locator,
        wire.registry_schema_hash)
  let finality_type ←
    match wire.finality_type with
    | some value => .ok value
    | none =>
      if legacy_evm_reference then .ok .evmFinalizedOrConfirmations
      else .error "finality_type is required for typed Registry references"
  rejectIf (!RegistryReferenceWire.target_matches_metadata chain_adapter chain_identity
      registry_locator registry_schema_hash finality_type adapter_metadata)
    "Registry target fields conflict with typed adapter metadata"
  .ok { chain_adapter, chain_identity, registry_locator, registry_schema_hash,
        adapter_metadata, finality_type,
        checkpoint_height := wire.checkpoint_height, checkpoint_hash := wire.checkpoint_hash,
        state_root := wire.state_root, object_hash := wire.object_hash,
        object_version := wire.object_version, resolver_status := wire.resolver_status,
        root_status := wire.root_status,
        endpoint_binding_status := wire.endpoint_binding_status,
        snapshot_generation := wire.snapshot_generation }

/-- `from_str(&to_string(reference))`: what a stored reference reads back as. -/
def reread (reference : RegistryReferenceV2) : Except String RegistryReferenceV2 :=
  deserialize reference.to_wire

/-- The fields `same_registry_state` compares: everything but the checkpoint, its
finality and the source generation. -/
def same_registry_state (left right : RegistryReferenceV2) : Bool :=
  left.chain_adapter = right.chain_adapter &&
  left.chain_identity = right.chain_identity &&
  left.registry_locator = right.registry_locator &&
  left.registry_schema_hash = right.registry_schema_hash &&
  left.adapter_metadata = right.adapter_metadata &&
  left.state_root = right.state_root &&
  left.object_hash = right.object_hash &&
  left.object_version = right.object_version &&
  left.resolver_status = right.resolver_status &&
  left.root_status = right.root_status &&
  left.endpoint_binding_status = right.endpoint_binding_status

end RegistryReferenceV2

/-! ## §4. Hop evidence and graphs. -/

/-- A server's own statement that it gave an answer. -/
structure TargetResponseAttestationV2 where
  schema_version : String
  target_server_id : String
  trace_id : String
  correlation_id : String
  challenge : String
  query_digest : String
  response_digest : String
  endpoint : DnsEndpoint
  observed_at : Int
  issued_at : Int
  expires_at : Int
  key_id : String
  signature : Option String
  deriving DecidableEq

/-- A signed edge: one server asked another. -/
structure ServerHopEvidenceV2 where
  schema_version : String
  edge_id : String
  trace_id : String
  target_correlation_id : String
  challenge : String
  from_server_id : String
  to_server_id : String
  from_endpoint : DnsEndpoint
  to_endpoint : DnsEndpoint
  query_digest : String
  response_digest : String
  observed_at : Int
  issued_at : Int
  expires_at : Int
  accepted : Bool
  reasons : List String
  registry : RegistryReferenceV2
  target_attestation : Option TargetResponseAttestationV2
  key_id : String
  signature : Option String
  deriving DecidableEq

/-- A server in a graph. -/
structure EvidenceNodeV2 where
  identity : DnsServerIdentityV2
  registry : RegistryReferenceV2
  evidence_levels : List EvidenceLevel
  accepted : Bool
  reasons : List String
  deriving DecidableEq

/-- Where the cached answer of a graph came from. -/
structure CacheProvenanceV2 where
  source_graph_digest : String
  source_dnssec_required : Bool
  cached_at : Int
  dns_ttl_expires_at : Int
  identity_expires_at : Int
  snapshot_generation : Nat
  deriving DecidableEq

/-- The evidence for one answer. -/
structure QueryEvidenceGraphV2 where
  schema_version : String
  trace_id : String
  correlation_id : String
  challenge : String
  query_digest : String
  response_digest : String
  mode : VerificationMode
  entry_server_id : String
  issued_at : Int
  expires_at : Int
  dnssec_status : DnssecStatus
  cache_provenance : Option CacheProvenanceV2
  terminal_cache_graphs : List QueryEvidenceGraphV2
  nodes : List EvidenceNodeV2
  edges : List ServerHopEvidenceV2
  terminal_node_ids : List String
  final_result : Bool
  graph_errors : List String
  key_id : String
  signature : Option String

end ResolverIdentity
