/-
  ResolverIdentity.Verifier.Accepted: what each check of an accepting run says.

  `validate_graph` returns at the first check that fails.  A run that accepts has
  passed every check on the graph, on each node, edge and attestation, and on each
  attached cache graph; the structures below name what those checks establish.

  Main results:
    * `node_checked_of_validate`, `edge_checked_of_validate`,
      `attestation_checked`: the loops check every element;
    * `attached_checked_of_validate`: every attached graph is itself accepted, and
      has no graph attached.
-/
import ResolverIdentity.Agent.Surroundings
import ResolverIdentity.Core.Topology

namespace ResolverIdentity.Verifier

open Library Agent

/-! ## §1. Signatures. -/

/-- The raw key and signature the check ends with. -/
theorem verified_of_verify_ed25519 {P : Platform} {value : Json} {public_key_b64 : String}
    (h : P.verify_ed25519 value public_key_b64 = .ok ()) :
    ∃ public_raw signature_raw, P.base64_decode (as_bytes public_key_b64) = some public_raw ∧
      P.ed25519_verify public_raw (P.canonical_json_bytes value) signature_raw = true := by
  unfold Platform.verify_ed25519 at h
  obtain ⟨_, _, h⟩ := bind_eq_ok.mp h
  obtain ⟨_, _, h⟩ := bind_eq_ok.mp h
  obtain ⟨signature_raw, _, h⟩ := bind_eq_ok.mp h
  obtain ⟨_, _, h⟩ := bind_eq_ok.mp h
  obtain ⟨public_raw, hkey, h⟩ := bind_eq_ok.mp h
  obtain ⟨_, _, h⟩ := bind_eq_ok.mp h
  obtain ⟨_, _, h⟩ := bind_eq_ok.mp h
  rw [rejectIf_eq_ok, Bool.not_eq_false'] at h
  exact ⟨public_raw, signature_raw, okOr_eq_ok.mp hkey, h⟩

/-! ## §2. What the checks establish. -/

/-- The checks on a graph's own fields. -/
structure HeaderChecked (policy : EvidencePolicy) (graph : QueryEvidenceGraphV2)
    (expected_challenge : String) (now : Int) : Prop where
  schema : graph.schema_version = QUERY_EVIDENCE_GRAPH_V2
  mode : graph.mode = policy.mode
  challenge : graph.challenge = expected_challenge
  window : validate_window graph.issued_at graph.expires_at now policy.max_clock_skew_seconds =
    .ok ()
  ttl : validate_evidence_ttl graph.issued_at graph.expires_at policy.max_evidence_ttl_seconds =
    .ok ()

/-- The signature of a node's identity. -/
structure NodeChecked (P : Platform) (issuer_keys : IssuerKeyRegistry) (node : EvidenceNodeV2) :
    Prop where
  schema : node.identity.schema_version = DNS_SERVER_IDENTITY_V2
  signed : ∃ issuer_key, issuer_keys.get node.identity.issuer node.identity.key_id =
      some issuer_key ∧
    P.verify_ed25519 node.identity.to_value issuer_key = .ok ()

/-- The Agent key of a server, as its node in the graph binds it. -/
def BoundKey (nodes : List EvidenceNodeV2) (server_id public_key : String) : Prop :=
  ∃ node agent, find_node nodes server_id = some node ∧ node.identity.agent = some agent ∧
    agent.public_key = public_key

/-- The checks on an attestation. -/
structure AttestationChecked (P : Platform) (policy : EvidencePolicy)
    (graph : QueryEvidenceGraphV2) (now : Int) (edge : ServerHopEvidenceV2)
    (attestation : TargetResponseAttestationV2) : Prop where
  schema : attestation.schema_version = TARGET_RESPONSE_ATTESTATION_V2
  trace_id : attestation.trace_id = edge.trace_id
  challenge : attestation.challenge = edge.challenge
  window : validate_window attestation.issued_at attestation.expires_at now
    policy.max_clock_skew_seconds = .ok ()
  ttl : validate_evidence_ttl attestation.issued_at attestation.expires_at
    policy.max_evidence_ttl_seconds = .ok ()
  signed : ∃ public_key, BoundKey graph.nodes edge.to_server_id public_key ∧
    P.verify_ed25519 attestation.to_value public_key = .ok ()

/-- The checks on an edge. -/
structure EdgeChecked (P : Platform) (policy : EvidencePolicy) (graph : QueryEvidenceGraphV2)
    (now : Int) (edge : ServerHopEvidenceV2) : Prop where
  schema : edge.schema_version = SERVER_HOP_EVIDENCE_V2
  trace_id : edge.trace_id = graph.trace_id
  challenge : edge.challenge = graph.challenge
  window : validate_window edge.issued_at edge.expires_at now policy.max_clock_skew_seconds =
    .ok ()
  ttl : validate_evidence_ttl edge.issued_at edge.expires_at policy.max_evidence_ttl_seconds =
    .ok ()
  signed : ∃ public_key, BoundKey graph.nodes edge.from_server_id public_key ∧
    P.verify_ed25519 edge.to_value public_key = .ok ()
  attestation : ∀ attestation, edge.target_attestation = some attestation →
    AttestationChecked P policy graph now edge attestation

/-- The checks on an attached cache graph. -/
structure AttachedChecked (P : Platform) (policy : EvidencePolicy)
    (issuer_keys : IssuerKeyRegistry) (graph : QueryEvidenceGraphV2) (now : Int)
    (child : QueryEvidenceGraphV2) : Prop where
  trace_id : child.trace_id = graph.trace_id
  challenge : child.challenge = graph.challenge
  edges : child.edges = []
  attached : child.terminal_cache_graphs = []
  accepted : validate_graph P policy issuer_keys child graph.challenge now = .ok ()

/-! ## §3. The checks of an accepting run. -/

section Accepting

variable {P : Platform} {policy : EvidencePolicy} {issuer_keys : IssuerKeyRegistry}
variable {graph : QueryEvidenceGraphV2} {expected_challenge : String} {now : Int}

theorem header_checked_of_validate
    (h : validate_graph P policy issuer_keys graph expected_challenge now = .ok ()) :
    HeaderChecked policy graph expected_challenge now := by
  have hheader := (accepted_of_validate h).header
  unfold validate_header at hheader
  obtain ⟨_, hrequest, hheader⟩ := bind_eq_ok.mp hheader
  obtain ⟨_, hwindow, hheader⟩ := bind_eq_ok.mp hheader
  obtain ⟨_, httl, _⟩ := bind_eq_ok.mp hheader
  unfold validate_request at hrequest
  obtain ⟨_, hschema, hrequest⟩ := bind_eq_ok.mp hrequest
  obtain ⟨_, hmode, hrequest⟩ := bind_eq_ok.mp hrequest
  obtain ⟨_, hchallenge, _⟩ := bind_eq_ok.mp hrequest
  rw [rejectIf_eq_ok, bne_eq_false_iff_eq] at hschema hchallenge
  rw [rejectIf_eq_ok, decide_eq_false_iff_not, not_not] at hmode
  exact ⟨hschema, hmode, hchallenge, hwindow, httl⟩

/-- The loop over the nodes checked each of them. -/
theorem mem_of_validate_nodes {nodes : List EvidenceNodeV2} :
    ∀ {before : List EvidenceNodeV2},
      validate_nodes P policy issuer_keys now before nodes = .ok () →
      ∀ node ∈ nodes, ∃ before', validate_node P policy issuer_keys now before' node = .ok () := by
  induction nodes with
  | nil => intro before _ node hnode; cases hnode
  | cons first rest ih =>
    intro before h node hnode
    obtain ⟨_, hone, hrest⟩ := bind_eq_ok.mp h
    rcases List.mem_cons.mp hnode with heq | hnode
    · rw [heq]
      exact ⟨before, hone⟩
    · exact ih hrest node hnode

theorem node_checked_of_validate
    (h : validate_graph P policy issuer_keys graph expected_challenge now = .ok ())
    {node : EvidenceNodeV2} (hnode : node ∈ graph.nodes) : NodeChecked P issuer_keys node := by
  obtain ⟨before, hone⟩ := mem_of_validate_nodes (accepted_of_validate h).nodes node hnode
  unfold validate_node at hone
  obtain ⟨_, hschema, hone⟩ := bind_eq_ok.mp hone
  obtain ⟨_, _, hone⟩ := bind_eq_ok.mp hone
  obtain ⟨_, _, hone⟩ := bind_eq_ok.mp hone
  obtain ⟨_, _, hone⟩ := bind_eq_ok.mp hone
  obtain ⟨_, _, hone⟩ := bind_eq_ok.mp hone
  obtain ⟨_, _, hone⟩ := bind_eq_ok.mp hone
  obtain ⟨issuer_key, hkey, hone⟩ := bind_eq_ok.mp hone
  obtain ⟨_, hsigned, _⟩ := bind_eq_ok.mp hone
  rw [rejectIf_eq_ok, bne_eq_false_iff_eq] at hschema
  exact ⟨hschema, issuer_key, okOr_eq_ok.mp hkey, hsigned⟩

/-- The checks of an attestation, once its edge has been looked up. -/
theorem attestation_checked {edge : ServerHopEvidenceV2} {target : EvidenceNodeV2}
    {attestation : TargetResponseAttestationV2}
    (htarget : find_node graph.nodes edge.to_server_id = some target)
    (h : validate_attestation P policy now edge target attestation = .ok ()) :
    AttestationChecked P policy graph now edge attestation := by
  unfold validate_attestation at h
  obtain ⟨agent, hbinding, h⟩ := bind_eq_ok.mp h
  obtain ⟨_, hwindow, h⟩ := bind_eq_ok.mp h
  obtain ⟨_, httl, h⟩ := bind_eq_ok.mp h
  obtain ⟨_, _, h⟩ := bind_eq_ok.mp h
  obtain ⟨_, _, hsigned⟩ := bind_eq_ok.mp h
  unfold validate_attestation_binding at hbinding
  obtain ⟨_, hbound, hbinding⟩ := bind_eq_ok.mp hbinding
  obtain ⟨_, _, hbinding⟩ := bind_eq_ok.mp hbinding
  obtain ⟨_, _, hagent⟩ := bind_eq_ok.mp hbinding
  rw [rejectIf_eq_ok] at hbound
  unfold attestation_unbound at hbound
  simp only [Bool.or_eq_false_iff, bne_eq_false_iff_eq] at hbound
  exact ⟨hbound.1.1.1.1.1.1, hbound.1.1.1.1.2, hbound.1.1.2, hwindow, httl, agent.public_key,
    ⟨target, agent, htarget, okOr_eq_ok.mp hagent, rfl⟩, hsigned⟩

theorem edge_checked {before : List ServerHopEvidenceV2} {edge : ServerHopEvidenceV2}
    (h : validate_edge P policy graph now before edge = .ok ()) :
    EdgeChecked P policy graph now edge := by
  unfold validate_edge at h
  obtain ⟨_, hbinding, h⟩ := bind_eq_ok.mp h
  obtain ⟨_, hwindow, h⟩ := bind_eq_ok.mp h
  obtain ⟨_, httl, h⟩ := bind_eq_ok.mp h
  obtain ⟨_, _, h⟩ := bind_eq_ok.mp h
  obtain ⟨target, hends, hattested⟩ := bind_eq_ok.mp h
  unfold validate_edge_binding at hbinding
  obtain ⟨_, hschema, hbinding⟩ := bind_eq_ok.mp hbinding
  obtain ⟨_, _, hbinding⟩ := bind_eq_ok.mp hbinding
  obtain ⟨_, hbound, _⟩ := bind_eq_ok.mp hbinding
  unfold validate_edge_ends at hends
  obtain ⟨_, _, hends⟩ := bind_eq_ok.mp hends
  obtain ⟨source, hsource, hends⟩ := bind_eq_ok.mp hends
  obtain ⟨found, htarget, hends⟩ := bind_eq_ok.mp hends
  obtain ⟨_, _, hends⟩ := bind_eq_ok.mp hends
  obtain ⟨_, _, hends⟩ := bind_eq_ok.mp hends
  obtain ⟨_, _, hends⟩ := bind_eq_ok.mp hends
  obtain ⟨agent, hagent, hends⟩ := bind_eq_ok.mp hends
  obtain ⟨_, _, hends⟩ := bind_eq_ok.mp hends
  obtain ⟨_, hsigned, hends⟩ := bind_eq_ok.mp hends
  obtain rfl : found = target := Except.ok.inj hends
  rw [rejectIf_eq_ok, bne_eq_false_iff_eq] at hschema
  rw [rejectIf_eq_ok, Bool.or_eq_false_iff, bne_eq_false_iff_eq, bne_eq_false_iff_eq] at hbound
  have hattestation : ∀ attestation, edge.target_attestation = some attestation →
      AttestationChecked P policy graph now edge attestation := by
    intro attestation hsome
    unfold validate_target_attestation at hattested
    rw [hsome] at hattested
    exact attestation_checked (okOr_eq_ok.mp htarget) hattested
  exact ⟨hschema, hbound.1, hbound.2, hwindow, httl, ⟨agent.public_key,
    ⟨source, agent, okOr_eq_ok.mp hsource, okOr_eq_ok.mp hagent, rfl⟩, hsigned⟩, hattestation⟩

theorem edge_checked_of_validate
    (h : validate_graph P policy issuer_keys graph expected_challenge now = .ok ())
    {edge : ServerHopEvidenceV2} (hedge : edge ∈ graph.edges) :
    EdgeChecked P policy graph now edge := by
  obtain ⟨before, hone⟩ := mem_of_validate_edges (accepted_of_validate h).edges edge hedge
  exact edge_checked hone

/-- The graph is signed by the Agent its entry node binds. -/
theorem entry_signed_of_validate
    (h : validate_graph P policy issuer_keys graph expected_challenge now = .ok ()) :
    ∃ public_key, BoundKey graph.nodes graph.entry_server_id public_key ∧
      P.verify_ed25519 graph.to_value public_key = .ok () := by
  have hentry := (accepted_of_validate h).entry
  unfold validate_entry at hentry
  obtain ⟨entry, hfind, hentry⟩ := bind_eq_ok.mp hentry
  obtain ⟨agent, hagent, hentry⟩ := bind_eq_ok.mp hentry
  obtain ⟨_, _, hsigned⟩ := bind_eq_ok.mp hentry
  exact ⟨agent.public_key, ⟨entry, agent, okOr_eq_ok.mp hfind, okOr_eq_ok.mp hagent, rfl⟩,
    hsigned⟩

/-- The loop over the attached graphs checked each of them. -/
theorem mem_of_validate_attached
    {validate_child : QueryEvidenceGraphV2 → Except EvidenceValidationError Unit}
    {children : List QueryEvidenceGraphV2} :
    ∀ {supplied supplied' : List TerminalKey},
      validate_attached validate_child graph supplied children = .ok supplied' →
      ∀ child ∈ children, ∃ supplied,
        validate_terminal_cache_graph validate_child graph supplied child = .ok () := by
  induction children with
  | nil => intro _ _ _ child hchild; cases hchild
  | cons first rest ih =>
    intro supplied supplied' h child hchild
    obtain ⟨_, hone, hrest⟩ := bind_eq_ok.mp h
    rcases List.mem_cons.mp hchild with heq | hchild
    · rw [heq]
      exact ⟨supplied, hone⟩
    · exact ih hrest child hchild

/-- A cache graph has no graph attached, and those attached to another graph are cache
graphs that were accepted. -/
theorem attached_checked_of_validate
    (h : validate_graph P policy issuer_keys graph expected_challenge now = .ok ())
    {child : QueryEvidenceGraphV2} (hchild : child ∈ graph.terminal_cache_graphs) :
    AttachedChecked P policy issuer_keys graph now child := by
  have hattached := (accepted_of_validate h).attached
  unfold validate_terminal_cache_graphs at hattached
  by_cases hcache : graph.cache_provenance.isSome = true
  · rw [if_pos hcache, rejectIf_eq_ok, Bool.not_eq_false', List.isEmpty_iff] at hattached
    rw [hattached] at hchild
    cases hchild
  · rw [if_neg hcache] at hattached
    obtain ⟨_, _, hattached⟩ := bind_eq_ok.mp hattached
    obtain ⟨_, hloop, _⟩ := bind_eq_ok.mp hattached
    obtain ⟨supplied, hone⟩ := mem_of_validate_attached hloop child hchild
    unfold validate_terminal_cache_graph at hone
    obtain ⟨_, hbinding, haccepted⟩ := bind_eq_ok.mp hone
    unfold validate_terminal_binding at hbinding
    obtain ⟨_, hshape, hbinding⟩ := bind_eq_ok.mp hbinding
    obtain ⟨_, hbound, _⟩ := bind_eq_ok.mp hbinding
    rw [rejectIf_eq_ok, Bool.or_eq_false_iff, Bool.or_eq_false_iff, Bool.not_eq_false',
      Bool.not_eq_false', List.isEmpty_iff, List.isEmpty_iff] at hshape
    rw [rejectIf_eq_ok, Bool.or_eq_false_iff, Bool.or_eq_false_iff, bne_eq_false_iff_eq,
      bne_eq_false_iff_eq] at hbound
    exact ⟨hbound.1.1, hbound.1.2, hshape.1.2, hshape.2, haccepted⟩

end Accepting

/-! ## §4. A recorded answer from a cache. -/

/-- The node of a recursive server with an Agent. -/
def lab_node (record : Store.EvidenceStore.IdentityRecord) : EvidenceNodeV2 where
  identity := record.1
  registry := record.2
  evidence_levels := [.registryBound, .agentAttested]
  accepted := true
  reasons := []

/-- The graph of an answer `resolver_b` has in its cache. -/
def cache_graph (issued_at : Int) (signature : String) : QueryEvidenceGraphV2 where
  schema_version := QUERY_EVIDENCE_GRAPH_V2
  trace_id := "request-0"
  correlation_id := digest_of 'd'
  challenge := challenge_0
  query_digest := digest_of 'a'
  response_digest := digest_of 'e'
  mode := .publicHybrid
  entry_server_id := "resolver-b"
  issued_at := issued_at
  expires_at := 1750000030
  dnssec_status := .notApplicable
  cache_provenance := some
    { source_graph_digest := digest_of 'f'
      source_dnssec_required := false
      cached_at := 1749999990
      dns_ttl_expires_at := 1750000300
      identity_expires_at := 1900000000
      snapshot_generation := 10 }
  terminal_cache_graphs := []
  nodes := [lab_node resolver_b]
  edges := []
  terminal_node_ids := ["resolver-b"]
  final_result := true
  graph_errors := []
  key_id := "agent-key-b"
  signature := some ("base64:ed25519:" ++ signature)

/-- The recorded results of verifying the graph of a cached answer, and those of a run
that goes on from there. -/
def cache_recording (signature : String) (signatures : List (String × String × String)) :
    Recording :=
  lab_recording [] ((agent_key_b, "\x7b\"cache_provenance", signature) :: signatures)

/-- The recorded signature of the cache graph. -/
def cache_signature : String :=
  "NYimedZYBDEllSlBibdqrpq3BiewnhaPj5OD4oWwLj9/09cQCoAPRPYtNOfzK1ZYugD5GvRXRgvcefnKNACaAw=="

/-- `resolver_b` attests the answer it gave. -/
def relay_attestation : TargetResponseAttestationV2 where
  schema_version := TARGET_RESPONSE_ATTESTATION_V2
  target_server_id := "resolver-b"
  trace_id := "request-0"
  correlation_id := digest_of 'd'
  challenge := challenge_0
  query_digest := digest_of 'a'
  response_digest := digest_of 'e'
  endpoint := lab_endpoint "192.0.2.2"
  observed_at := 1750000000
  issued_at := 1750000000
  expires_at := 1750000030
  key_id := "agent-key-b"
  signature := some ("base64:ed25519:" ++
    "0s/4iyLtG/wfBxLZOYu0/5cxLqkCCgj6IZ5Ls5z0lCMg1dB6qn0f2wuHyaYBXtATIVCERRQ0yevRnvoxKOAECQ==")

/-- `resolver_a` asked `resolver_b`. -/
def relay_edge : ServerHopEvidenceV2 where
  schema_version := SERVER_HOP_EVIDENCE_V2
  edge_id := "request-0:trace-0/2"
  trace_id := "request-0"
  target_correlation_id := digest_of 'd'
  challenge := challenge_0
  from_server_id := "resolver-a"
  to_server_id := "resolver-b"
  from_endpoint := lab_endpoint "192.0.2.1"
  to_endpoint := lab_endpoint "192.0.2.2"
  query_digest := digest_of 'a'
  response_digest := digest_of 'e'
  observed_at := 1750000000
  issued_at := 1750000000
  expires_at := 1750000030
  accepted := true
  reasons := []
  registry := resolver_b.2
  target_attestation := some relay_attestation
  key_id := "agent-key-a"
  signature := some ("base64:ed25519:" ++
    "39CWFZTzLy97mnGKJqO/s8AbF1lAXL87yzOrpv6TAjSvFqkY2UTBASLRHsRiQ4XlATFeS3gSz7rqJuMm29otDQ==")

/-- The graph of an answer that `resolver_a` has from the cache of `resolver_b`. -/
def relay_graph : QueryEvidenceGraphV2 where
  schema_version := QUERY_EVIDENCE_GRAPH_V2
  trace_id := "request-0"
  correlation_id := digest_of 'c'
  challenge := challenge_0
  query_digest := digest_of 'a'
  response_digest := digest_of 'e'
  mode := .publicHybrid
  entry_server_id := "resolver-a"
  issued_at := 1750000000
  expires_at := 1750000030
  dnssec_status := .notApplicable
  cache_provenance := none
  terminal_cache_graphs := [cache_graph 1750000000 cache_signature]
  nodes := [lab_node resolver_a, lab_node resolver_b]
  edges := [relay_edge]
  terminal_node_ids := ["resolver-b"]
  final_result := true
  graph_errors := []
  key_id := "agent-key-a"
  signature := some ("base64:ed25519:" ++
    "WEk9rfAYGbgKoDNh9ehrKAWx+dN98vuDrUOFuw4io6jRwlIgtILzr4pMVYNRgXh7QZdlaQWhov7KL56Nau6sDw==")

/-- The recorded signatures of that graph and its parts. -/
def relay_recording : Recording :=
  cache_recording cache_signature
    [(agent_key_b, answer_text (digest_of 'd'),
        "0s/4iyLtG/wfBxLZOYu0/5cxLqkCCgj6IZ5Ls5z0lCMg1dB6qn0f2wuHyaYBXtATIVCERRQ0yevRnvoxKOAECQ=="),
      (agent_key_a, edge_text "trace-0",
        "39CWFZTzLy97mnGKJqO/s8AbF1lAXL87yzOrpv6TAjSvFqkY2UTBASLRHsRiQ4XlATFeS3gSz7rqJuMm29otDQ=="),
      (agent_key_a, answer_text (digest_of 'c'),
        "WEk9rfAYGbgKoDNh9ehrKAWx+dN98vuDrUOFuw4io6jRwlIgtILzr4pMVYNRgXh7QZdlaQWhov7KL56Nau6sDw==")]

/-- The graph is accepted. -/
theorem relay_graph_accepted :
    validate_graph relay_recording.platform .public_hybrid lab_issuer_keys relay_graph
      challenge_0 1750000001 = .ok () := by
  decide +kernel

end ResolverIdentity.Verifier
