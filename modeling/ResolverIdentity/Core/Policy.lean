/-
  ResolverIdentity.Core.Policy: acceptance of evidence graphs.

  `EvidenceValidator::validate_graph` of `ri-core/src/policy.rs`, check by check
  and in the order of the source.  The maps and sets of the source are keyed by
  texts of the graph itself: a node is looked up by its `server_id`, the
  adjacency of a node is read off the edges.

  A cache graph holds no further cache graphs, so the recursion of
  `validate_graph` into the attached graphs is one level deep; the validator of
  the attached graphs is a parameter here, and `validate_graph_eq` closes it.

  Main results:
    * `validate_graph_eq`: the recursive equation of the source;
    * `summary_of_validate`: the DNSSEC summary of an accepted graph;
    * `provenance_of_validate`: the provenance of an accepted cache graph.
-/
import ResolverIdentity.Core.Endpoint
import ResolverIdentity.Core.Integer

namespace ResolverIdentity

open Library

/-! ## §1. Policies and issuer keys. -/

/-- What the verifier asks of a graph. -/
structure EvidencePolicy where
  mode : VerificationMode
  max_nodes : Nat
  max_edges : Nat
  max_depth : Nat
  max_clock_skew_seconds : Int
  max_observation_age_seconds : Int
  max_evidence_ttl_seconds : Int
  require_dnssec_for_authorities : Bool
  require_target_attestation : Bool
  deriving DecidableEq

namespace EvidencePolicy

/-- Every server has an Agent. -/
def controlled_strict : EvidencePolicy where
  mode := .controlledStrict
  max_nodes := 64
  max_edges := 128
  max_depth := 32
  max_clock_skew_seconds := 5
  max_observation_age_seconds := 300
  max_evidence_ttl_seconds := 60
  require_dnssec_for_authorities := true
  require_target_attestation := true

/-- Authorities may lack one. -/
def public_hybrid : EvidencePolicy where
  mode := .publicHybrid
  max_nodes := 128
  max_edges := 256
  max_depth := 64
  max_clock_skew_seconds := 5
  max_observation_age_seconds := 300
  max_evidence_ttl_seconds := 60
  require_dnssec_for_authorities := true
  require_target_attestation := false

end EvidencePolicy

/-- The policy an Agent of a given mode applies. -/
def VerificationMode.policy : VerificationMode → EvidencePolicy
  | .controlledStrict => .controlled_strict
  | .publicHybrid => .public_hybrid

/-- Both built-in policies ask for DNSSEC on authority paths. -/
theorem VerificationMode.policy_requires_dnssec (mode : VerificationMode) :
    mode.policy.require_dnssec_for_authorities = true := by
  cases mode <;> rfl

/-- Trusted keys by issuer and key id; a later insert shadows an earlier one. -/
structure IssuerKeyRegistry where
  keys : List ((String × String) × String)

namespace IssuerKeyRegistry

/-- A key replaces an earlier one of the same name. -/
def insert (registry : IssuerKeyRegistry) (issuer key_id public_key_b64 : String) :
    IssuerKeyRegistry :=
  ⟨((issuer, key_id), public_key_b64) :: registry.keys⟩

/-- The key of an issuer under a key id. -/
def get (registry : IssuerKeyRegistry) (issuer key_id : String) : Option String :=
  registry.keys.lookup (issuer, key_id)

end IssuerKeyRegistry

/-! ## §2. Text shapes. -/

/-- `u8::is_ascii_hexdigit`: the digits and the letters to `F`, in both cases. -/
def is_ascii_hexdigit (byte : UInt8) : Bool :=
  (48 ≤ byte && byte ≤ 57) || (97 ≤ byte && byte ≤ 102) || (65 ≤ byte && byte ≤ 70)

/-- `starts_with("0x")` and only hexadecimal digits after it. -/
def is_hex_text (value : String) : Bool :=
  (as_bytes value).take 2 = as_bytes "0x" && ((as_bytes value).drop 2).all is_ascii_hexdigit

/-- Lower-case ASCII letters, digits and hyphens. -/
def is_adapter_char (c : Char) : Bool :=
  ('a' ≤ c && c ≤ 'z') || ('0' ≤ c && c ≤ '9') || c = '-'

/-- `str::eq_ignore_ascii_case`. -/
def eq_ignore_ascii_case (a b : String) : Bool :=
  a.toList.map Char.toLower = b.toList.map Char.toLower

/-- `0x` and this many bytes in hexadecimal. -/
def is_hex_width (value : String) (bytes : Nat) : Bool :=
  value.utf8ByteSize = 2 + bytes * 2 && is_hex_text value

/-- A 32-byte word. -/
def is_bytes32_hex (value : String) : Bool := is_hex_width value 32

/-! ## §3. Time windows. -/

/-- Evidence is neither from the future nor expired. -/
def validate_window (issued_at expires_at now max_clock_skew_seconds : Int) :
    Except EvidenceValidationError Unit := do
  rejectIf (i64_wrap (now + max_clock_skew_seconds) < issued_at)
    (.policyRejected "evidence issued in the future")
  rejectIf (expires_at < now) (.policyRejected "evidence expired")

/-- Evidence lives no longer than allowed. -/
def validate_evidence_ttl (issued_at expires_at max_ttl_seconds : Int) :
    Except EvidenceValidationError Unit :=
  rejectIf (expires_at < issued_at || max_ttl_seconds < i64_wrap (expires_at - issued_at))
    (.policyRejected "evidence validity duration exceeds policy")

/-- What was observed is neither from the future nor too old. -/
def validate_observation (observed_at now max_clock_skew_seconds max_age_seconds : Int) :
    Except EvidenceValidationError Unit :=
  rejectIf (i64_wrap (now + max_clock_skew_seconds) < observed_at ||
      observed_at < i64_wrap (now - max_age_seconds))
    (.policyRejected "evidence observation time is outside policy")

/-! ## §4. Shapes of identities and Registry references. -/

/-- No two endpoints of the list have one cache key. -/
def validate_endpoint_keys (P : Platform) (server_id : String) :
    List String → List DnsEndpoint → Except EvidenceValidationError Unit
  | _, [] => .ok ()
  | endpoint_keys, endpoint :: rest => do
    let key ← P.cache_key endpoint
    rejectIf (endpoint_keys.contains key)
      (.invalidGraph ("identity " ++ server_id ++ " contains duplicate endpoints"))
    validate_endpoint_keys P server_id (key :: endpoint_keys) rest

/-- The binding names a key, its algorithm, and where the Agent is reached. -/
def invalid_agent_binding (agent : AgentBindingV2) : Bool :=
  agent.key_id.isEmpty || !eq_ignore_ascii_case agent.algorithm "ed25519" ||
    agent.public_key.isEmpty || agent.service_url.all String.isEmpty

/-- The fields of an identity, checked in order. -/
def validate_identity_shape (P : Platform) (identity : DnsServerIdentityV2) :
    Except EvidenceValidationError Unit := do
  rejectIf (identity.server_id.isEmpty || 256 < identity.server_id.utf8ByteSize ||
      identity.operator_id.isEmpty || identity.issuer.isEmpty || identity.key_id.isEmpty ||
      identity.object_version = 0 || identity.valid_until ≤ identity.valid_from ||
      identity.endpoints.isEmpty || 32 < identity.endpoints.length ||
      identity.anycast != identity.anycast_service_id.isSome)
    (.invalidGraph ("identity " ++ identity.server_id ++ " has invalid required fields"))
  validate_endpoint_keys P identity.server_id [] identity.endpoints
  rejectIf (identity.agent.any invalid_agent_binding)
    (.invalidGraph ("identity " ++ identity.server_id ++ " has an invalid Agent binding"))

/-- The metadata fits the adapter it is said to be of. -/
def adapter_metadata_valid (chain_adapter : String) : RegistryAdapterMetadataV2 → Bool
  | .evm chain_id contract_address runtime_code_hash =>
    chain_adapter = "evm" && 0 < chain_id && is_hex_width contract_address 20 &&
      is_bytes32_hex runtime_code_hash
  | .norn genesis_block_hash registry_address registry_key issuer key_id =>
    chain_adapter = "norn" && is_bytes32_hex genesis_block_hash &&
      is_hex_width registry_address 20 && !registry_key.isEmpty &&
      registry_key.utf8ByteSize ≤ 256 && !issuer.isEmpty && !key_id.isEmpty
  | .external driver issuer key_id =>
    chain_adapter = "external" && !driver.isEmpty && driver.utf8ByteSize ≤ 23 &&
      driver.toList.all is_adapter_char && !issuer.isEmpty && !key_id.isEmpty

/-- The fields of a reference, checked in order. -/
def validate_registry_shape (registry : RegistryReferenceV2) :
    Except EvidenceValidationError Unit :=
  let explicit_multichain_fields := !registry.chain_identity.isEmpty &&
    !registry.registry_locator.isEmpty && is_bytes32_hex registry.registry_schema_hash
  rejectIf (registry.chain_adapter.isEmpty || 32 < registry.chain_adapter.utf8ByteSize ||
      !registry.chain_adapter.toList.all is_adapter_char || !explicit_multichain_fields ||
      !adapter_metadata_valid registry.chain_adapter registry.adapter_metadata ||
      registry.checkpoint_height = 0 || !is_bytes32_hex registry.checkpoint_hash ||
      !is_bytes32_hex registry.state_root || !is_bytes32_hex registry.object_hash)
    (.invalidGraph "Registry reference fields are invalid")

/-! ## §5. Lookups in a graph. -/

/-- `nodes.get(server_id)`. -/
def find_node (nodes : List EvidenceNodeV2) (server_id : String) : Option EvidenceNodeV2 :=
  nodes.find? (fun node => node.identity.server_id = server_id)

/-- `adjacency.get(server_id)`: where the node's outgoing edges lead, in edge order. -/
def adjacent (edges : List ServerHopEvidenceV2) (server_id : String) : List String :=
  (edges.filter (fun edge => edge.from_server_id = server_id)).map (fun edge => edge.to_server_id)

mutual

/-- Does a graph, its provenance or an attached cache graph involve an authority? -/
def graph_requires_dnssec : QueryEvidenceGraphV2 → Bool
  | ⟨_, _, _, _, _, _, _, _, _, _, _, cache_provenance, terminal_cache_graphs, nodes, _, _, _, _,
      _, _⟩ =>
    nodes.any (fun node => node.identity.role.is_authority) ||
      cache_provenance.any (fun provenance => provenance.source_dnssec_required) ||
      any_requires_dnssec terminal_cache_graphs

/-- `any(graph_requires_dnssec)`. -/
def any_requires_dnssec : List QueryEvidenceGraphV2 → Bool
  | [] => false
  | graph :: rest => graph_requires_dnssec graph || any_requires_dnssec rest

end

theorem any_requires_dnssec_eq (graphs : List QueryEvidenceGraphV2) :
    any_requires_dnssec graphs = graphs.any graph_requires_dnssec := by
  induction graphs with
  | nil => rfl
  | cons graph rest ih => rw [any_requires_dnssec, List.any_cons, ih]

theorem graph_requires_dnssec_eq (graph : QueryEvidenceGraphV2) :
    graph_requires_dnssec graph =
      (graph.nodes.any (fun node => node.identity.role.is_authority) ||
        graph.cache_provenance.any (fun provenance => provenance.source_dnssec_required) ||
        graph.terminal_cache_graphs.any graph_requires_dnssec) := by
  cases graph
  rw [graph_requires_dnssec, any_requires_dnssec_eq]

/-! ## §6. Topology. -/

/-- The search from the entry server: `depth` holds what was reached, `queue` what is
still to be looked at.  Each round takes one item off the queue, and each edge puts one
item on it, so `edges.length + 1` rounds are enough. -/
def measure_depth (max_depth : Nat) (edges : List ServerHopEvidenceV2) :
    Nat → List (String × Nat) → List (String × Nat) →
      Except EvidenceValidationError (List (String × Nat))
  | _, depth, [] => .ok depth
  | 0, depth, _ :: _ => .ok depth
  | fuel + 1, depth, (server_id, current_depth) :: queue => do
    rejectIf (max_depth < current_depth) (.invalidGraph "graph exceeds maximum depth")
    if (depth.lookup server_id).any (fun seen => seen ≤ current_depth) then
      measure_depth max_depth edges fuel depth queue
    else
      measure_depth max_depth edges fuel
        ((server_id, current_depth) :: depth.filter (fun entry => entry.1 ≠ server_id))
        (queue ++ (adjacent edges server_id).map (fun target => (target, current_depth + 1)))

/-- Depth-first search: `visiting` is the path from the entry, the result what has been
left behind.  A path longer than the number of edges repeats a node. -/
def detect_cycle (edges : List ServerHopEvidenceV2) :
    Nat → String → List String → List String → Except EvidenceValidationError (List String)
  | 0, _, _, _ => .error (.invalidGraph "graph contains a cycle")
  | fuel + 1, node, visiting, visited => do
    rejectIf (visiting.contains node) (.invalidGraph "graph contains a cycle")
    if visited.contains node then
      .ok visited
    else do
      let visited ← (adjacent edges node).foldlM
        (fun visited target => detect_cycle edges fuel target (node :: visiting) visited) visited
      .ok (node :: visited)

/-- A terminal is a node without outgoing edges. -/
def invalid_terminal (graph : QueryEvidenceGraphV2) (terminal : String) : Bool :=
  (find_node graph.nodes terminal).isNone || !(adjacent graph.edges terminal).isEmpty

/-- A node without outgoing edges is declared terminal. -/
def undeclared_leaf (graph : QueryEvidenceGraphV2) (node : EvidenceNodeV2) : Bool :=
  (adjacent graph.edges node.identity.server_id).isEmpty &&
    !graph.terminal_node_ids.contains node.identity.server_id

/-- Depth, cycles and terminals. -/
def validate_topology (policy : EvidencePolicy) (graph : QueryEvidenceGraphV2) :
    Except EvidenceValidationError Unit := do
  let depth ← measure_depth policy.max_depth graph.edges (graph.edges.length + 1) []
    [(graph.entry_server_id, 0)]
  rejectIf (depth.length != graph.nodes.length)
    (.invalidGraph "graph contains unreachable nodes or a detached cycle")
  let _ ← detect_cycle graph.edges (graph.edges.length + 2) graph.entry_server_id [] []
  rejectIf (!decide graph.terminal_node_ids.Nodup)
    (.invalidGraph "terminal node list contains duplicates")
  rejectIf graph.terminal_node_ids.isEmpty (.invalidGraph "graph has no terminal node")
  rejectIf (graph.terminal_node_ids.any (invalid_terminal graph))
    (.invalidGraph "invalid terminal node")
  rejectIf (graph.nodes.any (undeclared_leaf graph))
    (.invalidGraph "leaf node is not declared terminal")

/-! ## §7. Nodes. -/

/-- The levels a node must have. -/
def validate_node_policy (policy : EvidencePolicy) (node : EvidenceNodeV2) :
    Except EvidenceValidationError Unit := do
  let levels := node.evidence_levels
  let agent_attested := levels.contains .agentAttested && node.identity.agent.isSome
  rejectIf (!levels.contains .registryBound)
    (.policyRejected (node.identity.server_id ++ " lacks registry binding"))
  match policy.mode with
  | .controlledStrict =>
    rejectIf (!agent_attested)
      (.policyRejected (node.identity.server_id ++ " is not Agent-attested"))
  | .publicHybrid =>
    if node.identity.role.is_authority then
      rejectIf (policy.require_dnssec_for_authorities && !levels.contains .dnssecValidated &&
          !levels.contains .agentAttested)
        (.policyRejected (node.identity.server_id ++ " lacks DNSSEC or Agent evidence"))
    else
      rejectIf (!agent_attested)
        (.policyRejected (node.identity.server_id ++
          " is a recursive/forwarding server without Agent evidence"))

/-- Two nodes point at one Registry deployment. -/
def same_anchor (left right : RegistryReferenceV2) : Bool :=
  left.chain_identity = right.chain_identity && left.registry_locator = right.registry_locator &&
    left.registry_schema_hash = right.registry_schema_hash &&
    left.adapter_metadata = right.adapter_metadata

/-- The Registry reference is about this identity, and active. -/
def registry_mismatch (P : Platform) (node : EvidenceNodeV2) : Bool :=
  node.registry.object_hash != P.object_hash node.identity.to_value ||
    node.registry.object_version != node.identity.object_version ||
    node.registry.resolver_status != "ACTIVE" || node.registry.root_status != "ACTIVE" ||
    node.registry.endpoint_binding_status != "MATCHED"

/-- The checks of one node, after the nodes `before` it. -/
def validate_node (P : Platform) (policy : EvidencePolicy) (issuer_keys : IssuerKeyRegistry)
    (now : Int) (before : List EvidenceNodeV2) (node : EvidenceNodeV2) :
    Except EvidenceValidationError Unit := do
  let identity := node.identity
  rejectIf (identity.schema_version != DNS_SERVER_IDENTITY_V2)
    (.unsupportedSchema identity.schema_version)
  validate_identity_shape P identity
  validate_registry_shape node.registry
  rejectIf (before.getLast?.any (fun last => !same_anchor last.registry node.registry))
    (.invalidGraph "nodes reference different Registry deployments")
  rejectIf (find_node before identity.server_id).isSome (.invalidGraph "duplicate server_id")
  rejectIf (!node.accepted || !node.reasons.isEmpty || !identity.active_at now)
    (.identityNotActive identity.server_id)
  let issuer_key ← okOr (issuer_keys.get identity.issuer identity.key_id)
    (.issuerKeyNotFound identity.issuer identity.key_id)
  P.verify_ed25519 identity.to_value issuer_key
  validate_node_policy policy node
  rejectIf (registry_mismatch P node)
    (.invalidGraph ("registry evidence mismatch for " ++ identity.server_id))

/-- The loop over the nodes. -/
def validate_nodes (P : Platform) (policy : EvidencePolicy) (issuer_keys : IssuerKeyRegistry)
    (now : Int) : List EvidenceNodeV2 → List EvidenceNodeV2 → Except EvidenceValidationError Unit
  | _, [] => .ok ()
  | before, node :: rest => do
    validate_node P policy issuer_keys now before node
    validate_nodes P policy issuer_keys now (before ++ [node]) rest

/-! ## §8. Edges and target attestations. -/

/-- The fields an attestation shares with its edge. -/
def attestation_unbound (attestation : TargetResponseAttestationV2)
    (edge : ServerHopEvidenceV2) : Bool :=
  attestation.schema_version != TARGET_RESPONSE_ATTESTATION_V2 ||
    attestation.target_server_id != edge.to_server_id ||
    attestation.trace_id != edge.trace_id ||
    attestation.correlation_id != edge.target_correlation_id ||
    attestation.challenge != edge.challenge ||
    attestation.query_digest != edge.query_digest ||
    attestation.response_digest != edge.response_digest

/-- `key_id` names the Agent's key, and the key is an ed25519 one. -/
def key_mismatch (key_id : String) (agent : AgentBindingV2) : Bool :=
  key_id != agent.key_id || !eq_ignore_ascii_case agent.algorithm "ed25519"

/-- The checks of an attestation before its times: it is about the edge, and the target has
a key to sign it with. -/
def validate_attestation_binding (P : Platform) (edge : ServerHopEvidenceV2)
    (target : EvidenceNodeV2) (attestation : TargetResponseAttestationV2) :
    Except EvidenceValidationError AgentBindingV2 := do
  rejectIf (attestation_unbound attestation edge)
    (.invalidGraph "target attestation binding mismatch")
  let matched ← P.endpoint_matches attestation.endpoint edge.to_endpoint
  rejectIf (!matched) (.invalidGraph "target attestation binding mismatch")
  okOr target.identity.agent (.policyRejected "target attestation has no bound Agent key")

/-- An attestation of the target, for this edge. -/
def validate_attestation (P : Platform) (policy : EvidencePolicy) (now : Int)
    (edge : ServerHopEvidenceV2) (target : EvidenceNodeV2)
    (attestation : TargetResponseAttestationV2) : Except EvidenceValidationError Unit := do
  let target_agent_key ← validate_attestation_binding P edge target attestation
  validate_window attestation.issued_at attestation.expires_at now policy.max_clock_skew_seconds
  validate_evidence_ttl attestation.issued_at attestation.expires_at
    policy.max_evidence_ttl_seconds
  validate_observation attestation.observed_at now policy.max_clock_skew_seconds
    policy.max_observation_age_seconds
  rejectIf (key_mismatch attestation.key_id target_agent_key)
    (.policyRejected "target attestation Agent key binding mismatch")
  P.verify_ed25519 attestation.to_value target_agent_key.public_key

/-- An edge without an attestation is refused where the policy asks for one. -/
def validate_target_attestation (P : Platform) (policy : EvidencePolicy) (now : Int)
    (edge : ServerHopEvidenceV2) (target : EvidenceNodeV2) :
    Except EvidenceValidationError Unit :=
  match edge.target_attestation with
  | some attestation => validate_attestation P policy now edge target attestation
  | none =>
    rejectIf policy.require_target_attestation
      (.policyRejected ("edge " ++ edge.edge_id ++ " lacks target response attestation"))

/-- An endpoint of the edge matches one its identity declares. -/
def endpoint_bound (P : Platform) (node : EvidenceNodeV2) (observed : DnsEndpoint) : Bool :=
  node.identity.endpoints.any (fun endpoint => P.matchesOr endpoint observed)

/-- The checks of an edge before its times. -/
def validate_edge_binding (graph : QueryEvidenceGraphV2) (before : List ServerHopEvidenceV2)
    (edge : ServerHopEvidenceV2) : Except EvidenceValidationError Unit := do
  rejectIf (edge.schema_version != SERVER_HOP_EVIDENCE_V2) (.unsupportedSchema edge.schema_version)
  rejectIf (before.any (fun other => other.edge_id = edge.edge_id))
    (.invalidGraph "duplicate edge_id")
  rejectIf (edge.trace_id != graph.trace_id || edge.challenge != graph.challenge)
    (.invalidGraph "edge binding mismatch")
  rejectIf (!is_bytes32_hex edge.target_correlation_id || !is_bytes32_hex edge.query_digest ||
      !is_bytes32_hex edge.response_digest)
    (.invalidGraph "edge DNS/correlation digest is invalid")

/-- The checks of an edge after its times, up to its signature; it returns the target. -/
def validate_edge_ends (P : Platform) (graph : QueryEvidenceGraphV2) (edge : ServerHopEvidenceV2) :
    Except EvidenceValidationError EvidenceNodeV2 := do
  rejectIf (!edge.accepted || !edge.reasons.isEmpty)
    (.policyRejected ("edge " ++ edge.edge_id ++ " was rejected"))
  let source ← okOr (find_node graph.nodes edge.from_server_id)
    (.invalidGraph "edge source missing")
  let target ← okOr (find_node graph.nodes edge.to_server_id) (.invalidGraph "edge target missing")
  rejectIf (edge.registry != target.registry)
    (.invalidGraph ("edge " ++ edge.edge_id ++ " Registry reference differs from target node"))
  rejectIf (edge.from_server_id = edge.to_server_id) (.invalidGraph "self edge is forbidden")
  rejectIf (!endpoint_bound P source edge.from_endpoint || !endpoint_bound P target edge.to_endpoint)
    (.invalidGraph "edge endpoint is not bound to identity")
  let from_agent_key ← okOr source.identity.agent
    (.policyRejected ("edge source " ++ edge.from_server_id ++ " does not bind an Agent"))
  rejectIf (key_mismatch edge.key_id from_agent_key)
    (.policyRejected ("edge " ++ edge.edge_id ++ " Agent key binding mismatch"))
  P.verify_ed25519 edge.to_value from_agent_key.public_key
  return target

/-- The checks of one edge, after the edges `before` it. -/
def validate_edge (P : Platform) (policy : EvidencePolicy) (graph : QueryEvidenceGraphV2)
    (now : Int) (before : List ServerHopEvidenceV2) (edge : ServerHopEvidenceV2) :
    Except EvidenceValidationError Unit := do
  validate_edge_binding graph before edge
  validate_window edge.issued_at edge.expires_at now policy.max_clock_skew_seconds
  validate_evidence_ttl edge.issued_at edge.expires_at policy.max_evidence_ttl_seconds
  validate_observation edge.observed_at now policy.max_clock_skew_seconds
    policy.max_observation_age_seconds
  let target ← validate_edge_ends P graph edge
  validate_target_attestation P policy now edge target

/-- The loop over the edges. -/
def validate_edges (P : Platform) (policy : EvidencePolicy) (graph : QueryEvidenceGraphV2)
    (now : Int) : List ServerHopEvidenceV2 → List ServerHopEvidenceV2 →
      Except EvidenceValidationError Unit
  | _, [] => .ok ()
  | before, edge :: rest => do
    validate_edge P policy graph now before edge
    validate_edges P policy graph now (before ++ [edge]) rest

/-! ## §9. Cache provenance, attached cache graphs, DNSSEC summary. -/

/-- `max()` over the nodes, `0` without nodes. -/
def max_generation (nodes : List EvidenceNodeV2) : Nat :=
  nodes.foldl (fun generation node => max generation node.registry.snapshot_generation) 0

/-- A cache graph names its source and is still valid; another has edges. -/
def validate_cache_provenance (policy : EvidencePolicy) (graph : QueryEvidenceGraphV2)
    (now : Int) : Except EvidenceValidationError Unit :=
  match graph.cache_provenance with
  | some provenance => do
    rejectIf (provenance.dns_ttl_expires_at < now || provenance.identity_expires_at < now)
      (.policyRejected "cache provenance expired")
    rejectIf (!is_bytes32_hex provenance.source_graph_digest ||
        i64_wrap (now + policy.max_clock_skew_seconds) < provenance.cached_at ||
        provenance.dns_ttl_expires_at < provenance.cached_at)
      (.policyRejected "cache provenance is invalid")
    rejectIf (!graph.edges.isEmpty || graph.nodes.length != 1 ||
        graph.terminal_node_ids.length != 1 ||
        graph.terminal_node_ids.head? != some graph.entry_server_id)
      (.policyRejected "cache graph must contain only the entry node")
    rejectIf (provenance.snapshot_generation != max_generation graph.nodes)
      (.policyRejected "cache provenance generation mismatch")
  | none =>
    rejectIf graph.edges.isEmpty
      (.policyRejected "edge-less graph requires cache provenance")

/-- What an attached cache graph and its parent edge have in common. -/
structure TerminalKey where
  server_id : String
  correlation_id : String
  query_digest : String
  response_digest : String
  deriving DecidableEq

/-- What an attached graph is for. -/
def terminal_key (child : QueryEvidenceGraphV2) : TerminalKey :=
  ⟨child.entry_server_id, child.correlation_id, child.query_digest, child.response_digest⟩

/-- The node is a recursive server of the graph. -/
def is_recursive_node (nodes : List EvidenceNodeV2) (server_id : String) : Bool :=
  (find_node nodes server_id).any (fun node => node.identity.role.is_recursive)

/-- The edges into recursive terminals: each needs an attached cache graph. -/
def expected_keys (graph : QueryEvidenceGraphV2) : List TerminalKey :=
  (graph.edges.filter (fun edge => graph.terminal_node_ids.contains edge.to_server_id &&
    is_recursive_node graph.nodes edge.to_server_id)).map (fun edge =>
      ⟨edge.to_server_id, edge.target_correlation_id, edge.query_digest, edge.response_digest⟩)

/-- The attached graph's entry node is the parent's node. -/
def same_child_node (child_node parent_node : EvidenceNodeV2) : Bool :=
  child_node.identity = parent_node.identity &&
    child_node.registry.same_registry_state parent_node.registry

/-- The checks of an attached graph against its parent. -/
def validate_terminal_binding (graph : QueryEvidenceGraphV2) (supplied : List TerminalKey)
    (child : QueryEvidenceGraphV2) : Except EvidenceValidationError Unit := do
  rejectIf (child.cache_provenance.isNone || !child.edges.isEmpty ||
      !child.terminal_cache_graphs.isEmpty)
    (.invalidGraph "terminal cache attachment is not an edge-less cache graph")
  rejectIf (child.trace_id != graph.trace_id || child.challenge != graph.challenge ||
      decide (child.mode ≠ graph.mode))
    (.invalidGraph "terminal cache graph request binding mismatch")
  let parent_node ← okOr (find_node graph.nodes child.entry_server_id)
    (.invalidGraph "terminal cache graph entry is not in the parent graph")
  rejectIf (!graph.terminal_node_ids.contains child.entry_server_id ||
      !parent_node.identity.role.is_recursive || child.nodes.length != 1 ||
      child.nodes.head?.all (fun child_node => !same_child_node child_node parent_node))
    (.invalidGraph "terminal cache graph identity binding mismatch")
  rejectIf (!(expected_keys graph).contains (terminal_key child) ||
      supplied.contains (terminal_key child))
    (.invalidGraph "terminal cache graph has no unique matching parent edge")

/-- The checks of one attached graph, after the keys `supplied` by those before it. -/
def validate_terminal_cache_graph
    (validate_child : QueryEvidenceGraphV2 → Except EvidenceValidationError Unit)
    (graph : QueryEvidenceGraphV2) (supplied : List TerminalKey) (child : QueryEvidenceGraphV2) :
    Except EvidenceValidationError Unit := do
  validate_terminal_binding graph supplied child
  validate_child child

/-- The loop over the attached graphs; it returns the keys they supply. -/
def validate_attached
    (validate_child : QueryEvidenceGraphV2 → Except EvidenceValidationError Unit)
    (graph : QueryEvidenceGraphV2) :
    List TerminalKey → List QueryEvidenceGraphV2 →
      Except EvidenceValidationError (List TerminalKey)
  | supplied, [] => .ok supplied
  | supplied, child :: rest => do
    validate_terminal_cache_graph validate_child graph supplied child
    validate_attached validate_child graph (terminal_key child :: supplied) rest

/-- Every recursive terminal has its graph, and no other graph is attached. -/
def validate_terminal_cache_graphs (policy : EvidencePolicy)
    (validate_child : QueryEvidenceGraphV2 → Except EvidenceValidationError Unit)
    (graph : QueryEvidenceGraphV2) : Except EvidenceValidationError Unit :=
  if graph.cache_provenance.isSome then
    rejectIf (!graph.terminal_cache_graphs.isEmpty)
      (.invalidGraph "a cache graph cannot contain nested cache graphs")
  else do
    rejectIf (policy.max_edges < graph.terminal_cache_graphs.length)
      (.invalidGraph "too many terminal cache graphs")
    let supplied ← validate_attached validate_child graph [] graph.terminal_cache_graphs
    -- both are sets of keys
    rejectIf (!(supplied.all (expected_keys graph).contains &&
        (expected_keys graph).all supplied.contains))
      (.policyRejected "recursive terminal lacks signed cache provenance")

/-- Every edge into an authority leads to a node with DNSSEC evidence. -/
def direct_secure (edges : List ServerHopEvidenceV2) (nodes : List EvidenceNodeV2) : Bool :=
  edges.all (fun edge => (find_node nodes edge.to_server_id).all (fun node =>
    !node.identity.role.is_authority || node.evidence_levels.contains .dnssecValidated))

/-- Every attached graph that involves an authority is secure. -/
def cached_secure (terminal_cache_graphs : List QueryEvidenceGraphV2) : Bool :=
  (terminal_cache_graphs.filter graph_requires_dnssec).all
    (fun child => child.dnssec_status = .secure)

/-- The status of a path over authorities. -/
def path_status (edges : List ServerHopEvidenceV2) (nodes : List EvidenceNodeV2)
    (terminal_cache_graphs : List QueryEvidenceGraphV2) : DnssecStatus :=
  if direct_secure edges nodes && cached_secure terminal_cache_graphs then .secure
  else .indeterminate

/-- The status of the graph is what its paths give. -/
def validate_dnssec_summary (policy : EvidencePolicy) (graph : QueryEvidenceGraphV2) :
    Except EvidenceValidationError Unit := do
  let direct_authority := graph.nodes.any (fun node => node.identity.role.is_authority)
  let cached_authority :=
    graph.cache_provenance.any (fun provenance => provenance.source_dnssec_required) ||
      graph.terminal_cache_graphs.any graph_requires_dnssec
  let expected := if !direct_authority && !cached_authority then .notApplicable
    else path_status graph.edges graph.nodes graph.terminal_cache_graphs
  rejectIf (decide (graph.dnssec_status ≠ expected))
    (.invalidGraph "graph DNSSEC summary does not match its direct and cached paths")
  rejectIf (policy.require_dnssec_for_authorities && (direct_authority || cached_authority) &&
      decide (expected ≠ .secure))
    (.policyRejected "authority path is not DNSSEC secure")

/-! ## §10. The validator. -/

/-- The checks on the graph's own fields before its times. -/
def validate_request (policy : EvidencePolicy) (graph : QueryEvidenceGraphV2)
    (expected_challenge : String) : Except EvidenceValidationError Unit := do
  rejectIf (graph.schema_version != QUERY_EVIDENCE_GRAPH_V2)
    (.unsupportedSchema graph.schema_version)
  rejectIf (decide (graph.mode ≠ policy.mode)) (.policyRejected "verification mode mismatch")
  rejectIf (graph.challenge != expected_challenge) (.invalidGraph "challenge mismatch")
  rejectIf (graph.trace_id.isEmpty || 256 < graph.trace_id.utf8ByteSize ||
      !(32 ≤ graph.challenge.utf8ByteSize && graph.challenge.utf8ByteSize ≤ 256) ||
      graph.key_id.isEmpty)
    (.invalidGraph "graph identifiers are invalid")
  rejectIf (!is_bytes32_hex graph.correlation_id || !is_bytes32_hex graph.query_digest ||
      !is_bytes32_hex graph.response_digest)
    (.invalidGraph "graph DNS/correlation digest is invalid")

/-- The checks on the graph's own fields, before the loops. -/
def validate_header (policy : EvidencePolicy) (graph : QueryEvidenceGraphV2)
    (expected_challenge : String) (now : Int) : Except EvidenceValidationError Unit := do
  validate_request policy graph expected_challenge
  validate_window graph.issued_at graph.expires_at now policy.max_clock_skew_seconds
  validate_evidence_ttl graph.issued_at graph.expires_at policy.max_evidence_ttl_seconds
  rejectIf (graph.nodes.isEmpty || policy.max_nodes < graph.nodes.length)
    (.invalidGraph "node count outside policy")
  rejectIf (policy.max_edges < graph.edges.length) (.invalidGraph "edge count outside policy")
  rejectIf (!graph.final_result || !graph.graph_errors.isEmpty)
    (.policyRejected "graph reports a failed result")

/-- The graph is signed by the Agent its entry identity binds. -/
def validate_entry (P : Platform) (graph : QueryEvidenceGraphV2) :
    Except EvidenceValidationError Unit := do
  let entry ← okOr (find_node graph.nodes graph.entry_server_id)
    (.invalidGraph "entry server missing")
  let entry_agent_key ← okOr entry.identity.agent
    (.policyRejected "entry server does not bind an Agent")
  rejectIf (key_mismatch graph.key_id entry_agent_key)
    (.policyRejected "graph Agent key binding mismatch")
  P.verify_ed25519 graph.to_value entry_agent_key.public_key

/-- `validate_graph`, with the validator of the attached cache graphs. -/
def validate_graph_with
    (validate_child : QueryEvidenceGraphV2 → Except EvidenceValidationError Unit)
    (P : Platform) (policy : EvidencePolicy) (issuer_keys : IssuerKeyRegistry)
    (graph : QueryEvidenceGraphV2) (expected_challenge : String) (now : Int) :
    Except EvidenceValidationError Unit := do
  validate_header policy graph expected_challenge now
  validate_nodes P policy issuer_keys now [] graph.nodes
  validate_entry P graph
  validate_edges P policy graph now [] graph.edges
  validate_topology policy graph
  validate_cache_provenance policy graph now
  validate_terminal_cache_graphs policy validate_child graph
  validate_dnssec_summary policy graph

/-- A cache graph attaches no graph, so no validator is ever asked for one. -/
def validate_cache_graph (P : Platform) (policy : EvidencePolicy)
    (issuer_keys : IssuerKeyRegistry) (graph : QueryEvidenceGraphV2) (expected_challenge : String)
    (now : Int) : Except EvidenceValidationError Unit :=
  validate_graph_with (fun _ => .ok ()) P policy issuer_keys graph expected_challenge now

/-- `validate_graph`, with the graphs attached to it. -/
def validate_graph (P : Platform) (policy : EvidencePolicy) (issuer_keys : IssuerKeyRegistry)
    (graph : QueryEvidenceGraphV2) (expected_challenge : String) (now : Int) :
    Except EvidenceValidationError Unit :=
  validate_graph_with
    (fun child => validate_cache_graph P policy issuer_keys child graph.challenge now)
    P policy issuer_keys graph expected_challenge now

/-! ## §11. What acceptance means. -/

section Acceptance

variable {P : Platform} {policy : EvidencePolicy} {issuer_keys : IssuerKeyRegistry}
variable {graph : QueryEvidenceGraphV2} {expected_challenge : String} {now : Int}

/-- On a cache graph the validator of attached graphs plays no part. -/
theorem validate_graph_with_cache
    {v w : QueryEvidenceGraphV2 → Except EvidenceValidationError Unit}
    (h : graph.cache_provenance.isSome = true) :
    validate_graph_with v P policy issuer_keys graph expected_challenge now =
      validate_graph_with w P policy issuer_keys graph expected_challenge now := by
  unfold validate_graph_with validate_terminal_cache_graphs
  rw [if_pos h, if_pos h]

/-- Two validators that agree on cache graphs accept the same attachments. -/
theorem validate_attached_congr
    {v w : QueryEvidenceGraphV2 → Except EvidenceValidationError Unit}
    (h : ∀ child : QueryEvidenceGraphV2, child.cache_provenance.isSome = true → v child = w child)
    (children : List QueryEvidenceGraphV2) :
    ∀ supplied, validate_attached v graph supplied children =
      validate_attached w graph supplied children := by
  induction children with
  | nil => intro supplied; rfl
  | cons child rest ih =>
    intro supplied
    have hchild : validate_terminal_cache_graph v graph supplied child =
        validate_terminal_cache_graph w graph supplied child := by
      by_cases hc : child.cache_provenance.isSome = true
      · unfold validate_terminal_cache_graph
        rw [h child hc]
      · -- the first check refuses the attachment, whatever the validator
        have hnone : child.cache_provenance.isNone = true := by
          cases hp : child.cache_provenance with
          | none => rfl
          | some provenance => rw [hp] at hc; exact absurd rfl hc
        unfold validate_terminal_cache_graph validate_terminal_binding
        rw [hnone]
        rfl
    show (validate_terminal_cache_graph v graph supplied child >>= _) = _
    rw [hchild]
    show _ = (validate_terminal_cache_graph w graph supplied child >>= _)
    congr 1
    funext _
    exact ih _

/-- `validate_graph` calls itself on the attached cache graphs. -/
theorem validate_graph_eq :
    validate_graph P policy issuer_keys graph expected_challenge now =
      validate_graph_with
        (fun child => validate_graph P policy issuer_keys child graph.challenge now)
        P policy issuer_keys graph expected_challenge now := by
  have hattached : ∀ supplied,
      validate_attached
          (fun child => validate_cache_graph P policy issuer_keys child graph.challenge now)
          graph supplied graph.terminal_cache_graphs =
        validate_attached
          (fun child => validate_graph P policy issuer_keys child graph.challenge now)
          graph supplied graph.terminal_cache_graphs :=
    validate_attached_congr (fun child hchild => validate_graph_with_cache hchild)
      graph.terminal_cache_graphs
  unfold validate_graph
  conv_lhs => unfold validate_graph_with validate_terminal_cache_graphs
  conv_rhs => unfold validate_graph_with validate_terminal_cache_graphs
  rw [hattached []]
  rfl

/-- What the phases of an accepting run have checked. -/
structure Accepted (P : Platform) (policy : EvidencePolicy) (issuer_keys : IssuerKeyRegistry)
    (graph : QueryEvidenceGraphV2) (expected_challenge : String) (now : Int) : Prop where
  header : validate_header policy graph expected_challenge now = .ok ()
  nodes : validate_nodes P policy issuer_keys now [] graph.nodes = .ok ()
  entry : validate_entry P graph = .ok ()
  edges : validate_edges P policy graph now [] graph.edges = .ok ()
  topology : validate_topology policy graph = .ok ()
  provenance : validate_cache_provenance policy graph now = .ok ()
  attached : validate_terminal_cache_graphs policy
    (fun child => validate_graph P policy issuer_keys child graph.challenge now) graph = .ok ()
  summary : validate_dnssec_summary policy graph = .ok ()

theorem accepted_of_validate
    (h : validate_graph P policy issuer_keys graph expected_challenge now = .ok ()) :
    Accepted P policy issuer_keys graph expected_challenge now := by
  rw [validate_graph_eq] at h
  unfold validate_graph_with at h
  obtain ⟨_, hheader, h⟩ := bind_eq_ok.mp h
  obtain ⟨_, hnodes, h⟩ := bind_eq_ok.mp h
  obtain ⟨_, hentry, h⟩ := bind_eq_ok.mp h
  obtain ⟨_, hedges, h⟩ := bind_eq_ok.mp h
  obtain ⟨_, htopology, h⟩ := bind_eq_ok.mp h
  obtain ⟨_, hprovenance, h⟩ := bind_eq_ok.mp h
  obtain ⟨_, hattached, hsummary⟩ := bind_eq_ok.mp h
  exact ⟨hheader, hnodes, hentry, hedges, htopology, hprovenance, hattached, hsummary⟩

/-- A cache graph is accepted no longer than its provenance says. -/
theorem provenance_of_validate
    (h : validate_graph P policy issuer_keys graph expected_challenge now = .ok ())
    {provenance : CacheProvenanceV2} (hp : graph.cache_provenance = some provenance) :
    now ≤ provenance.dns_ttl_expires_at ∧ now ≤ provenance.identity_expires_at := by
  have hok := (accepted_of_validate h).provenance
  unfold validate_cache_provenance at hok
  rw [hp] at hok
  obtain ⟨_, hexpired, _⟩ := bind_eq_ok.mp hok
  rw [rejectIf_eq_ok, Bool.or_eq_false_iff, decide_eq_false_iff_not,
    decide_eq_false_iff_not] at hexpired
  exact ⟨not_lt.mp hexpired.1, not_lt.mp hexpired.2⟩

/-- Where the policy asks for DNSSEC, an accepted graph with an authority is secure, and
so is every edge into one. -/
theorem summary_of_validate
    (h : validate_graph P policy issuer_keys graph expected_challenge now = .ok ())
    (hpolicy : policy.require_dnssec_for_authorities = true)
    (hauthority : graph.nodes.any (fun node => node.identity.role.is_authority) = true) :
    graph.dnssec_status = .secure ∧ direct_secure graph.edges graph.nodes = true := by
  have hok := (accepted_of_validate h).summary
  unfold validate_dnssec_summary at hok
  obtain ⟨_, hstatus, hrequired⟩ := bind_eq_ok.mp hok
  rw [rejectIf_eq_ok] at hstatus hrequired
  rw [hauthority] at hstatus hrequired
  rw [hpolicy] at hrequired
  -- the path has an authority, so the summary is that of the paths, and it is secure
  have hsecure : path_status graph.edges graph.nodes graph.terminal_cache_graphs = .secure := by
    simpa using hrequired
  have hsame : graph.dnssec_status =
      path_status graph.edges graph.nodes graph.terminal_cache_graphs := by
    simpa using hstatus
  refine ⟨hsame.trans hsecure, ?_⟩
  unfold path_status at hsecure
  by_cases hboth : (direct_secure graph.edges graph.nodes &&
      cached_secure graph.terminal_cache_graphs) = true
  · exact (Bool.and_eq_true_iff.mp hboth).1
  · rw [if_neg hboth] at hsecure
    cases hsecure

/-- The node a secure edge into an authority leads to has DNSSEC evidence. -/
theorem validated_of_direct_secure {edges : List ServerHopEvidenceV2}
    {nodes : List EvidenceNodeV2} (h : direct_secure edges nodes = true)
    {edge : ServerHopEvidenceV2} (hedge : edge ∈ edges) {node : EvidenceNodeV2}
    (hnode : find_node nodes edge.to_server_id = some node)
    (hauthority : node.identity.role.is_authority = true) :
    EvidenceLevel.dnssecValidated ∈ node.evidence_levels := by
  have hsecure := List.all_eq_true.mp h edge hedge
  rw [hnode] at hsecure
  have hor : (!node.identity.role.is_authority ||
      node.evidence_levels.contains .dnssecValidated) = true := hsecure
  rw [hauthority] at hor
  exact List.contains_iff_mem.mp hor

end Acceptance

end ResolverIdentity
