/-
  ResolverIdentity.Core.Serialize: the JSON of the signed objects.

  `to_value` of each evidence type (`serde_json::to_value`): one field per
  member, `Option` members left out when `None`, and the two skipped-when-empty
  lists.  Object keys stand in the order of the fields; `strip_signatures`
  sorts them.

  `QueryEvidenceGraphV2.reread` is `from_str(&to_string(graph))`: every Registry
  reference in the graph passes its own `Deserialize`, and a graph nested deeper
  than the reader's recursion limit is refused.
-/
import ResolverIdentity.Core.Evidence

namespace ResolverIdentity

open Library

namespace Json

/-! ## §1. Field combinators. -/

/-- A member that is always written. -/
def field (key : String) (value : Json) : List (String × Json) := [(key, value)]

/-- `#[serde(skip_serializing_if = "Option::is_none")]` -/
def optional (key : String) (value : Option Json) : List (String × Json) :=
  match value with
  | some v => [(key, v)]
  | none => []

/-- `#[serde(skip_serializing_if = "Vec::is_empty")]` -/
def nonempty (key : String) (items : List Json) : List (String × Json) :=
  if items.isEmpty then [] else [(key, .array items)]

/-- A list of texts. -/
def texts (items : List String) : Json := .array (items.map .string)

/-- A `u64` member. -/
def nat (n : Nat) : Json := .number n

end Json

open Json

/-! ## §2. Writers. -/

/-- The JSON of an endpoint. -/
def DnsEndpoint.to_value (e : DnsEndpoint) : Json := .object <|
  optional "endpoint_id" (e.endpoint_id.map .string) ++
  optional "ip" (e.ip.map .string) ++
  optional "port" (e.port.map Json.nat) ++
  field "transport" (.string e.transport) ++
  optional "uri" (e.uri.map .string) ++
  optional "server_name" (e.server_name.map .string) ++
  nonempty "alpn" (e.alpn.map .string)

/-- The JSON of an Agent. -/
def AgentBindingV2.to_value (a : AgentBindingV2) : Json := .object <|
  field "key_id" (.string a.key_id) ++
  field "algorithm" (.string a.algorithm) ++
  field "public_key" (.string a.public_key) ++
  optional "service_url" (a.service_url.map .string)

/-- The JSON of an identity. -/
def DnsServerIdentityV2.to_value (i : DnsServerIdentityV2) : Json := .object <|
  field "schema_version" (.string i.schema_version) ++
  field "server_id" (.string i.server_id) ++
  field "operator_id" (.string i.operator_id) ++
  field "role" (.string i.role.name) ++
  field "endpoints" (.array (i.endpoints.map DnsEndpoint.to_value)) ++
  field "anycast" (.bool i.anycast) ++
  optional "anycast_service_id" (i.anycast_service_id.map .string) ++
  optional "agent" (i.agent.map AgentBindingV2.to_value) ++
  field "valid_from" (.number i.valid_from) ++
  field "valid_until" (.number i.valid_until) ++
  field "object_version" (nat i.object_version) ++
  field "status" (.string i.status) ++
  field "issuer" (.string i.issuer) ++
  field "key_id" (.string i.key_id) ++
  optional "signature" (i.signature.map .string)

/-- Internally tagged: the adapter's name is a field of its own object. -/
def RegistryAdapterMetadataV2.to_value : RegistryAdapterMetadataV2 → Json
  | .evm chain_id contract_address runtime_code_hash => .object <|
    field "adapter_type" (.string "evm") ++
    field "chain_id" (nat chain_id) ++
    field "contract_address" (.string contract_address) ++
    field "runtime_code_hash" (.string runtime_code_hash)
  | .norn genesis_block_hash registry_address registry_key issuer key_id => .object <|
    field "adapter_type" (.string "norn") ++
    field "genesis_block_hash" (.string genesis_block_hash) ++
    field "registry_address" (.string registry_address) ++
    field "registry_key" (.string registry_key) ++
    field "snapshot_signer_issuer" (.string issuer) ++
    field "snapshot_signer_key_id" (.string key_id)
  | .external driver issuer key_id => .object <|
    field "adapter_type" (.string "external") ++
    field "driver" (.string driver) ++
    field "snapshot_signer_issuer" (.string issuer) ++
    field "snapshot_signer_key_id" (.string key_id)

/-- The JSON of a reference. -/
def RegistryReferenceV2.to_value (r : RegistryReferenceV2) : Json := .object <|
  field "chain_adapter" (.string r.chain_adapter) ++
  field "chain_identity" (.string r.chain_identity) ++
  field "registry_locator" (.string r.registry_locator) ++
  field "registry_schema_hash" (.string r.registry_schema_hash) ++
  field "adapter_metadata" r.adapter_metadata.to_value ++
  field "checkpoint_height" (nat r.checkpoint_height) ++
  field "checkpoint_hash" (.string r.checkpoint_hash) ++
  field "finality_type" (.string (finality_type_name r.finality_type)) ++
  field "state_root" (.string r.state_root) ++
  field "object_hash" (.string r.object_hash) ++
  field "object_version" (nat r.object_version) ++
  field "resolver_status" (.string r.resolver_status) ++
  field "root_status" (.string r.root_status) ++
  field "endpoint_binding_status" (.string r.endpoint_binding_status) ++
  field "snapshot_generation" (nat r.snapshot_generation)

/-- The JSON of an attestation. -/
def TargetResponseAttestationV2.to_value (a : TargetResponseAttestationV2) : Json := .object <|
  field "schema_version" (.string a.schema_version) ++
  field "target_server_id" (.string a.target_server_id) ++
  field "trace_id" (.string a.trace_id) ++
  field "correlation_id" (.string a.correlation_id) ++
  field "challenge" (.string a.challenge) ++
  field "query_digest" (.string a.query_digest) ++
  field "response_digest" (.string a.response_digest) ++
  field "endpoint" a.endpoint.to_value ++
  field "observed_at" (.number a.observed_at) ++
  field "issued_at" (.number a.issued_at) ++
  field "expires_at" (.number a.expires_at) ++
  field "key_id" (.string a.key_id) ++
  optional "signature" (a.signature.map .string)

/-- The JSON of an edge. -/
def ServerHopEvidenceV2.to_value (e : ServerHopEvidenceV2) : Json := .object <|
  field "schema_version" (.string e.schema_version) ++
  field "edge_id" (.string e.edge_id) ++
  field "trace_id" (.string e.trace_id) ++
  field "target_correlation_id" (.string e.target_correlation_id) ++
  field "challenge" (.string e.challenge) ++
  field "from_server_id" (.string e.from_server_id) ++
  field "to_server_id" (.string e.to_server_id) ++
  field "from_endpoint" e.from_endpoint.to_value ++
  field "to_endpoint" e.to_endpoint.to_value ++
  field "query_digest" (.string e.query_digest) ++
  field "response_digest" (.string e.response_digest) ++
  field "observed_at" (.number e.observed_at) ++
  field "issued_at" (.number e.issued_at) ++
  field "expires_at" (.number e.expires_at) ++
  field "accepted" (.bool e.accepted) ++
  field "reasons" (texts e.reasons) ++
  field "registry" e.registry.to_value ++
  optional "target_attestation" (e.target_attestation.map TargetResponseAttestationV2.to_value) ++
  field "key_id" (.string e.key_id) ++
  optional "signature" (e.signature.map .string)

/-- The JSON of a node. -/
def EvidenceNodeV2.to_value (n : EvidenceNodeV2) : Json := .object <|
  field "identity" n.identity.to_value ++
  field "registry" n.registry.to_value ++
  field "evidence_levels" (.array (n.evidence_levels.map (fun level => .string level.name))) ++
  field "accepted" (.bool n.accepted) ++
  field "reasons" (texts n.reasons)

/-- The JSON of a provenance. -/
def CacheProvenanceV2.to_value (p : CacheProvenanceV2) : Json := .object <|
  field "source_graph_digest" (.string p.source_graph_digest) ++
  field "source_dnssec_required" (.bool p.source_dnssec_required) ++
  field "cached_at" (.number p.cached_at) ++
  field "dns_ttl_expires_at" (.number p.dns_ttl_expires_at) ++
  field "identity_expires_at" (.number p.identity_expires_at) ++
  field "snapshot_generation" (nat p.snapshot_generation)

mutual

/-- The object of a graph; the attached cache graphs are written the same way. -/
def QueryEvidenceGraphV2.to_value : QueryEvidenceGraphV2 → Json
  | ⟨schema_version, trace_id, correlation_id, challenge, query_digest, response_digest, mode,
      entry_server_id, issued_at, expires_at, dnssec_status, cache_provenance,
      terminal_cache_graphs, nodes, edges, terminal_node_ids, final_result, graph_errors, key_id,
      signature⟩ => .object <|
    field "schema_version" (.string schema_version) ++
    field "trace_id" (.string trace_id) ++
    field "correlation_id" (.string correlation_id) ++
    field "challenge" (.string challenge) ++
    field "query_digest" (.string query_digest) ++
    field "response_digest" (.string response_digest) ++
    field "mode" (.string mode.name) ++
    field "entry_server_id" (.string entry_server_id) ++
    field "issued_at" (.number issued_at) ++
    field "expires_at" (.number expires_at) ++
    field "dnssec_status" (.string dnssec_status.name) ++
    optional "cache_provenance" (cache_provenance.map CacheProvenanceV2.to_value) ++
    nonempty "terminal_cache_graphs" (graphs_to_value terminal_cache_graphs) ++
    field "nodes" (.array (nodes.map EvidenceNodeV2.to_value)) ++
    field "edges" (.array (edges.map ServerHopEvidenceV2.to_value)) ++
    field "terminal_node_ids" (texts terminal_node_ids) ++
    field "final_result" (.bool final_result) ++
    field "graph_errors" (texts graph_errors) ++
    field "key_id" (.string key_id) ++
    optional "signature" (signature.map .string)

/-- The attached cache graphs, in order. -/
def graphs_to_value : List QueryEvidenceGraphV2 → List Json
  | [] => []
  | graph :: rest => graph.to_value :: graphs_to_value rest

end

/-! ## §3. Reading a stored graph back. -/

/-- serde_json refuses the 128th open array or object. -/
def RECURSION_LIMIT : Nat := 128

/-- A node after a round trip. -/
def EvidenceNodeV2.reread (node : EvidenceNodeV2) : Except String EvidenceNodeV2 := do
  let registry ← node.registry.reread
  .ok { node with registry }

/-- An edge after a round trip. -/
def ServerHopEvidenceV2.reread (edge : ServerHopEvidenceV2) :
    Except String ServerHopEvidenceV2 := do
  let registry ← edge.registry.reread
  .ok { edge with registry }

mutual

/-- Every Registry reference of the graph goes through its `Deserialize`. -/
def QueryEvidenceGraphV2.rereadReferences :
    QueryEvidenceGraphV2 → Except String QueryEvidenceGraphV2
  | ⟨schema_version, trace_id, correlation_id, challenge, query_digest, response_digest, mode,
      entry_server_id, issued_at, expires_at, dnssec_status, cache_provenance,
      terminal_cache_graphs, nodes, edges, terminal_node_ids, final_result, graph_errors, key_id,
      signature⟩ => do
    let terminal_cache_graphs ← rereadGraphs terminal_cache_graphs
    let nodes ← nodes.mapM EvidenceNodeV2.reread
    let edges ← edges.mapM ServerHopEvidenceV2.reread
    .ok ⟨schema_version, trace_id, correlation_id, challenge, query_digest, response_digest, mode,
      entry_server_id, issued_at, expires_at, dnssec_status, cache_provenance,
      terminal_cache_graphs, nodes, edges, terminal_node_ids, final_result, graph_errors, key_id,
      signature⟩

/-- The attached cache graphs, in order. -/
def rereadGraphs : List QueryEvidenceGraphV2 → Except String (List QueryEvidenceGraphV2)
  | [] => .ok []
  | graph :: rest => do
    let graph ← graph.rereadReferences
    let rest ← rereadGraphs rest
    .ok (graph :: rest)

end

/-- `from_str(&to_string(graph))`: what a stored graph reads back as. -/
def QueryEvidenceGraphV2.reread (graph : QueryEvidenceGraphV2) :
    Except String QueryEvidenceGraphV2 := do
  rejectIf (RECURSION_LIMIT ≤ graph.to_value.depth) "recursion limit exceeded"
  graph.rereadReferences

/-- Only Registry references can change on the way: the trace and the digests do not. -/
theorem QueryEvidenceGraphV2.reread_binding {graph graph' : QueryEvidenceGraphV2}
    (h : graph.reread = .ok graph') :
    graph'.trace_id = graph.trace_id ∧ graph'.query_digest = graph.query_digest ∧
      graph'.response_digest = graph.response_digest := by
  unfold reread at h
  obtain ⟨_, _, h⟩ := bind_eq_ok.mp h
  cases graph
  rw [rereadReferences] at h
  obtain ⟨_, _, h⟩ := bind_eq_ok.mp h
  obtain ⟨_, _, h⟩ := bind_eq_ok.mp h
  obtain ⟨_, _, h⟩ := bind_eq_ok.mp h
  obtain rfl := Except.ok.inj h
  exact ⟨rfl, rfl, rfl⟩

theorem QueryEvidenceGraphV2.reread_trace_id {graph graph' : QueryEvidenceGraphV2}
    (h : graph.reread = .ok graph') : graph'.trace_id = graph.trace_id :=
  (reread_binding h).1

/-- Reading a node back keeps its identity. -/
theorem EvidenceNodeV2.mapM_reread {nodes : List EvidenceNodeV2} :
    ∀ {nodes' : List EvidenceNodeV2}, nodes.mapM EvidenceNodeV2.reread = .ok nodes' →
      nodes'.map EvidenceNodeV2.identity = nodes.map EvidenceNodeV2.identity := by
  induction nodes with
  | nil =>
    intro nodes' h
    obtain rfl := Except.ok.inj h
    rfl
  | cons node rest ih =>
    intro nodes' h
    rw [List.mapM_cons] at h
    obtain ⟨node', hnode, h⟩ := bind_eq_ok.mp h
    obtain ⟨rest', hrest, h⟩ := bind_eq_ok.mp h
    obtain rfl := Except.ok.inj h
    unfold reread at hnode
    obtain ⟨registry, _, hnode⟩ := bind_eq_ok.mp hnode
    obtain rfl := Except.ok.inj hnode
    rw [List.map_cons, List.map_cons, ih hrest]

/-- The identities of a graph and its provenance survive being read back. -/
theorem QueryEvidenceGraphV2.reread_identities {graph graph' : QueryEvidenceGraphV2}
    (h : graph.reread = .ok graph') :
    graph'.nodes.map EvidenceNodeV2.identity = graph.nodes.map EvidenceNodeV2.identity ∧
      graph'.cache_provenance = graph.cache_provenance := by
  unfold reread at h
  obtain ⟨_, _, h⟩ := bind_eq_ok.mp h
  cases graph
  rw [rereadReferences] at h
  obtain ⟨_, _, h⟩ := bind_eq_ok.mp h
  obtain ⟨nodes', hnodes, h⟩ := bind_eq_ok.mp h
  obtain ⟨_, _, h⟩ := bind_eq_ok.mp h
  obtain rfl := Except.ok.inj h
  exact ⟨EvidenceNodeV2.mapM_reread hnodes, rfl⟩

end ResolverIdentity
