/-
  ResolverIdentity.Agent.BuildGraph: how the Agent builds a graph.

  `build_graph_with_context`, `build_cache_hit_graph`, `attest_response` and what
  they call, of `ri-agent/src/lib.rs`, as programs: every `with_store` closure,
  every HTTP call and every look at a clock is one operation, and between two of
  them anything may happen to the store.

  The polling loops end when the deadline has passed; after `trace_wait_millis / 10`
  sleeps of ten milliseconds it has, so a loop makes that many turns and one more.
-/
import ResolverIdentity.Agent.Requests
import ResolverIdentity.Library.Program
import ResolverIdentity.Store.Graphs
import ResolverIdentity.Store.Identities

namespace ResolverIdentity.Agent

open Library Store

/-! ## §1. Operations. -/

/-- What a call to another Agent comes back with. -/
inductive HttpReply (α : Type) where
  /-- A successful status and a body that decodes. -/
  | body (value : α)
  /-- A successful status; the body is too large, breaks off or does not decode. -/
  | unreadable (error : AgentError)
  /-- Another status, with the detail read from the body. -/
  | refused (status detail : String)
  /-- No response. -/
  | failed (text : String)

/-- Everything a build or an attestation asks for. -/
inductive AgentOp where
  | unix_time
  | registry_last_success_epoch
  | get_identity (server_id : String)
  | claim_registered_trace_anchor (request : AnchorRequest)
  | claim_matching_response (request : TraceResponseMatch)
  | deadline_passed
  | trace_events (trace_id : String)
  /-- The endpoint's half of `lookup_identity`. -/
  | lookup_server_id (endpoint : DnsEndpoint)
  /-- The record's half of `lookup_identity`. -/
  | lookup_record (server_id : String)
  /-- The read of `cache_generation` in front of a statement that uses it. -/
  | cache_generation
  | find_cache_source_graph_by_digest (generation_sql : Int)
      (query_digest cache_object_digest graph_digest : String)
  | put_graph (graph : QueryEvidenceGraphV2) (generation_sql : Int)
  | post_attestation (url : String) (request : ResponseAttestationRequest)
  | post_graph (url : String) (request : EvidenceGraphRequest)

/-- `with_store` may fail for reasons of its own: the database, the blocking task. -/
abbrev Stored (α : Type) := Except AgentError α

/-- What each operation answers. -/
abbrev AgentRes : AgentOp → Type
  | .unix_time => Int
  | .registry_last_success_epoch => Stored Int
  | .get_identity _ => Stored (Option EvidenceStore.IdentityRecord)
  | .claim_registered_trace_anchor _ => Stored (Option TraceEventV2)
  | .claim_matching_response _ => Stored (Option TraceEventV2)
  | .deadline_passed => Bool
  | .trace_events _ => Stored (List TraceEventV2)
  | .lookup_server_id _ => Stored (Option String)
  | .lookup_record _ => Stored (Option EvidenceStore.IdentityRecord)
  | .cache_generation => Stored Int
  | .find_cache_source_graph_by_digest _ _ _ _ => Stored (Option QueryEvidenceGraphV2)
  | .put_graph _ _ => Stored Unit
  | .post_attestation _ _ => HttpReply TargetResponseAttestationV2
  | .post_graph _ _ => HttpReply QueryEvidenceGraphV2

/-- A program of the Agent. -/
abbrev AgentProg (α : Type) := Prog AgentOp AgentRes AgentError α

/-- The wall clock, in seconds. -/
def unix_time : AgentProg Int := .op .unix_time .ret

/-- When the last snapshot was applied. -/
def registry_last_success_epoch : AgentProg Int :=
  .op .registry_last_success_epoch Prog.ofExcept

/-- The record of a server. -/
def get_identity (server_id : String) : AgentProg (Option EvidenceStore.IdentityRecord) :=
  .op (.get_identity server_id) Prog.ofExcept

/-- Claim the anchor of a registered context. -/
def claim_registered_trace_anchor (request : AnchorRequest) : AgentProg (Option TraceEventV2) :=
  .op (.claim_registered_trace_anchor request) Prog.ofExcept

/-- Claim a response event that matches. -/
def claim_matching_response (request : TraceResponseMatch) : AgentProg (Option TraceEventV2) :=
  .op (.claim_matching_response request) Prog.ofExcept

/-- Has the waiting time run out? -/
def deadline_passed : AgentProg Bool := .op .deadline_passed .ret

/-- The events of a trace, in order. -/
def trace_events (trace_id : String) : AgentProg (List TraceEventV2) :=
  .op (.trace_events trace_id) Prog.ofExcept

/-- The record of a server id that was looked up. -/
def lookup_record (server_id : String) : AgentProg (Option EvidenceStore.IdentityRecord) :=
  .op (.lookup_record server_id) Prog.ofExcept

/-- The record of a server id that was found, if one was. -/
def lookup_found : Option String → AgentProg (Option EvidenceStore.IdentityRecord)
  | none => .ret none
  | some server_id => lookup_record server_id

/-- The record behind an endpoint, in two statements. -/
def lookup_identity (endpoint : DnsEndpoint) : AgentProg (Option EvidenceStore.IdentityRecord) :=
  .op (.lookup_server_id endpoint) (fun found => Prog.ofExcept found >>= lookup_found)

/-- The generation the store is at. -/
def cache_generation : AgentProg Int := .op .cache_generation Prog.ofExcept

/-- A source graph of the current generation. -/
def find_cache_source_graph_by_digest (query_digest cache_object_digest graph_digest : String) :
    AgentProg (Option QueryEvidenceGraphV2) := do
  let generation_sql ← cache_generation
  .op (.find_cache_source_graph_by_digest generation_sql query_digest cache_object_digest
    graph_digest) Prog.ofExcept

/-- Store a graph at the generation read just before. -/
def put_graph (graph : QueryEvidenceGraphV2) : AgentProg Unit := do
  let generation_sql ← cache_generation
  .op (.put_graph graph generation_sql) Prog.ofExcept

/-- Ask another Agent for an attestation. -/
def post_attestation (url : String) (request : ResponseAttestationRequest) :
    AgentProg (HttpReply TargetResponseAttestationV2) :=
  .op (.post_attestation url request) .ret

/-- Ask another Agent for a graph. -/
def post_graph (url : String) (request : EvidenceGraphRequest) :
    AgentProg (HttpReply QueryEvidenceGraphV2) :=
  .op (.post_graph url request) .ret

/-! ## §2. Waiting. -/

variable (P : Platform) (config : AgentConfig) (issuer_keys : IssuerKeyRegistry)

/-- The heartbeat of the last Registry snapshot is recent. -/
def stale (last_success now : Int) : Bool :=
  last_success ≤ 0 || i64_wrap (now + 5) < last_success ||
    config.registry_max_staleness_seconds < i64_wrap (now - last_success)

/-- No evidence without a recent snapshot. -/
def require_fresh_registry (now : Int) : AgentProg Unit := do
  let last_success ← registry_last_success_epoch
  Prog.rejectIf (stale config last_success now)
    (.evidenceUnavailable "Registry snapshot heartbeat is stale")

/-- One claim, another look at the deadline, and again. -/
def poll (claim : AgentProg (Option TraceEventV2)) (error : AgentError) :
    Nat → AgentProg TraceEventV2
  | 0 => .fail error
  | turns + 1 => claim >>= fun found =>
    match found with
    | some event => .ret event
    | none => deadline_passed >>= fun passed =>
      if passed then .fail error else poll claim error turns

/-- The turns a polling loop can make before its deadline. -/
def poll_turns : Nat := config.trace_wait_millis / 10 + 2

/-- The anchor of a request with a registered context. -/
def anchor_request (request : EvidenceGraphRequest) : AnchorRequest where
  request_trace_id := request.trace_id
  server_id := config.server_id
  correlation_id := request.correlation_id
  query_digest := request.query_digest
  response_digest := request.response_digest

/-- The response a downstream request is about. -/
def anchor_match (request : EvidenceGraphRequest) : TraceResponseMatch where
  request_trace_id := request.trace_id
  server_id := config.server_id
  correlation_id := request.correlation_id
  query_digest := request.query_digest
  response_digest := request.response_digest
  endpoint := none
  allow_authority_response := false

/-- The response an attestation is about. -/
def response_match (request : ResponseAttestationRequest) : TraceResponseMatch where
  request_trace_id := request.trace_id
  server_id := config.server_id
  correlation_id := request.correlation_id
  query_digest := request.query_digest
  response_digest := request.response_digest
  endpoint := some request.endpoint
  allow_authority_response := true

/-- Poll for the anchor of a request. -/
def wait_for_trace_anchor (request : EvidenceGraphRequest) (require_registered_context : Bool) :
    AgentProg TraceEventV2 :=
  poll
    (if require_registered_context then
      claim_registered_trace_anchor (anchor_request config request)
    else claim_matching_response (anchor_match config request))
    (.evidenceUnavailable "no matching final resolver response event") (poll_turns config)

/-- Poll for the response to attest. -/
def wait_for_matching_response (request : ResponseAttestationRequest) : AgentProg TraceEventV2 :=
  poll (claim_matching_response (response_match config request))
    (.evidenceUnavailable "matching local DNS response event not found") (poll_turns config)

/-! ## §3. Other Agents. -/

/-- Where a server's Agent is reached. -/
def agent_url (target : DnsServerIdentityV2) : Option String :=
  target.agent.bind AgentBindingV2.service_url

/-- What an attestation call means: in the public mode an Agent may be unreachable. -/
def attestation_reply (target : DnsServerIdentityV2) :
    HttpReply TargetResponseAttestationV2 →
      Except AgentError (Option TargetResponseAttestationV2)
  | .body attestation => .ok (some attestation)
  | .unreadable error => .error error
  | .refused status _ =>
    if config.mode = .publicHybrid then .ok none
    else .error (.downstream (target.server_id ++ " returned " ++ status))
  | .failed text => if config.mode = .publicHybrid then .ok none else .error (.http text)

/-- The target's attestation, if it has an Agent to give one. -/
def fetch_target_attestation (target : DnsServerIdentityV2)
    (request : ResponseAttestationRequest) : AgentProg (Option TargetResponseAttestationV2) :=
  match agent_url target with
  | none =>
    if config.mode = .controlledStrict then
      .fail (.evidenceUnavailable (target.server_id ++ " does not publish an Agent URL"))
    else .ret none
  | some service_url =>
    post_attestation (trim_end_matches service_url '/' ++ "/v2/attest-response") request >>=
      fun reply => Prog.ofExcept (attestation_reply config target reply)

/-- What a graph call means: anything but a graph is an error. -/
def graph_reply (target : DnsServerIdentityV2) :
    HttpReply QueryEvidenceGraphV2 → Except AgentError QueryEvidenceGraphV2
  | .body graph => .ok graph
  | .unreadable error => .error error
  | .refused status detail =>
    .error (.downstream (target.server_id ++ " graph endpoint returned " ++ status ++ detail))
  | .failed text => .error (.http text)

/-- A downstream graph is accepted for the request it was asked for. -/
def accept_downstream (request : EvidenceGraphRequest) (graph : QueryEvidenceGraphV2)
    (now : Int) : Except AgentError Unit := do
  (validate_graph P config.mode.policy issuer_keys graph request.challenge now).mapError .validation
  rejectIf (graph.query_digest != request.query_digest ||
      graph.response_digest != request.response_digest ||
      graph.correlation_id != request.correlation_id)
    (.downstream "downstream graph DNS digest binding mismatch")

/-- The graph of a recursive target, accepted on arrival. -/
def fetch_target_graph (target : DnsServerIdentityV2) (request : EvidenceGraphRequest) :
    AgentProg QueryEvidenceGraphV2 := do
  let service_url ← Prog.okOr (agent_url target)
    (.evidenceUnavailable ("recursive target " ++ target.server_id ++
      " does not publish an Agent URL"))
  let reply ← post_graph (trim_end_matches service_url '/' ++ "/v2/downstream-evidence-graph")
    request
  let graph ← Prog.ofExcept (graph_reply target reply)
  let now ← unix_time
  Prog.ofExcept (accept_downstream P config issuer_keys request graph now)
  .ret graph

/-! ## §4. Nodes and levels. -/

/-- The node of a record. -/
def evidence_node (record : EvidenceStore.IdentityRecord) (evidence_levels : List EvidenceLevel) :
    EvidenceNodeV2 where
  identity := record.1
  registry := record.2
  evidence_levels := evidence_levels
  accepted := true
  reasons := []

/-- Levels the node does not have yet are added. -/
def merge_levels (existing added : List EvidenceLevel) : List EvidenceLevel :=
  added.foldl (fun levels level => if levels.contains level then levels else levels ++ [level])
    existing

/-- The nodes of the source are a map by server id; a known server gains levels. -/
def merge_node : List EvidenceNodeV2 → EvidenceNodeV2 → Except AgentError (List EvidenceNodeV2)
  | [], node => .ok [node]
  | existing :: rest, node =>
    if existing.identity.server_id = node.identity.server_id then
      if existing.identity ≠ node.identity ∨ existing.registry ≠ node.registry then
        .error (.evidenceUnavailable ("conflicting evidence for " ++ node.identity.server_id))
      else .ok ({ existing with
        evidence_levels := merge_levels existing.evidence_levels node.evidence_levels } :: rest)
    else do
      let rest ← merge_node rest node
      .ok (existing :: rest)

/-- The nodes of a downstream graph, except the target itself. -/
def merge_child_nodes (server_id : String) :
    List EvidenceNodeV2 → List EvidenceNodeV2 → Except AgentError (List EvidenceNodeV2)
  | nodes, [] => .ok nodes
  | nodes, node :: rest =>
    if node.identity.server_id = server_id then merge_child_nodes server_id nodes rest
    else do
      let nodes ← merge_node nodes node
      merge_child_nodes server_id nodes rest

/-- The first endpoint of this server's node. -/
def self_record_endpoint (nodes : List EvidenceNodeV2) (server_id : String) :
    Except AgentError DnsEndpoint :=
  okOr ((find_node nodes server_id).bind (fun node => node.identity.endpoints.head?))
    (.evidenceUnavailable "local endpoint is not configured")

/-- The correlation id the target knows the query by. -/
def target_correlation (event : TraceEventV2) : Except AgentError String :=
  okOr event.target_correlation_id
    (.evidenceUnavailable ("trace event " ++ event.event_id ++ " lacks target correlation"))

/-- The servers that asked nobody else. -/
def terminal_nodes (nodes : List EvidenceNodeV2) (edges : List ServerHopEvidenceV2)
    (entry_server_id : String) : List String :=
  ((nodes.map (fun node => node.identity.server_id)).filter (fun server_id =>
    server_id != entry_server_id &&
      !(edges.any (fun edge => edge.from_server_id = server_id)))).insertionSort
    (fun a b => a ≤ b)

/-- The verdict on all paths together. -/
def aggregate_dnssec_status (edges : List ServerHopEvidenceV2) (nodes : List EvidenceNodeV2)
    (terminal_cache_graphs : List QueryEvidenceGraphV2) : DnssecStatus :=
  let direct_authority := nodes.any (fun node => node.identity.role.is_authority)
  let cached_authority := terminal_cache_graphs.any graph_requires_dnssec
  if !direct_authority && !cached_authority then .notApplicable
  else path_status edges nodes terminal_cache_graphs

/-- Is the event one of the Agent's own outbound queries for the request? -/
def is_outbound (request : EvidenceGraphRequest) (event : TraceEventV2) : Bool :=
  event.observer_server_id = config.server_id && event.correlation_id = request.correlation_id &&
    (event.kind = .upstreamQuery || event.kind = .resolverQuery || event.kind = .authorityQuery)

/-- Is the event the cache hit that answered the request? -/
def is_cache_hit (request : EvidenceGraphRequest) (event : TraceEventV2) : Bool :=
  event.observer_server_id = config.server_id && event.correlation_id = request.correlation_id &&
    event.kind = .cacheHit && event.query_digest = request.query_digest &&
    event.response_digest = some request.response_digest

/-! ## §5. Causal pairs. -/

/-- Events by the query they answer; a later event replaces an earlier one. -/
def by_parent (kind : TraceEventKind) (events : List TraceEventV2) :
    List (String × TraceEventV2) :=
  ((events.filter (fun event => event.kind = kind)).filterMap (fun event =>
    event.parent_event_id.map (fun parent => (parent, event)))).reverse

/-- The graph while the outbound queries are worked through. -/
structure Assembly where
  nodes : List EvidenceNodeV2
  edges : List ServerHopEvidenceV2
  terminal_cache_graphs : List QueryEvidenceGraphV2
  upstream_responses : List (String × TraceEventV2)
  upstream_timeouts : List (String × TraceEventV2)

/-- A response or timeout is not about the query it names as its parent. -/
def violates_binding (answer event : TraceEventV2) : Bool :=
  answer.sequence ≤ event.sequence || answer.correlation_id != event.correlation_id ||
    answer.query_digest != event.query_digest ||
    answer.target_correlation_id != event.target_correlation_id ||
    decide (answer.target_endpoint ≠ event.target_endpoint) || answer.attempt != event.attempt

/-- `remove` on one of the two maps. -/
def remove_parent (event_id : String) (answers : List (String × TraceEventV2)) :
    List (String × TraceEventV2) :=
  answers.filter (fun entry => entry.1 ≠ event_id)

/-- The answer to an upstream query; `none` when it timed out. -/
def upstream_answer (assembly : Assembly) (event : TraceEventV2) :
    Except AgentError (Option TraceEventV2 × Assembly) :=
  match assembly.upstream_responses.lookup event.event_id with
  | some response => do
    rejectIf (violates_binding response event)
      (.evidenceUnavailable ("outbound response for " ++ event.event_id ++
        " violates causal binding"))
    .ok (some response, { assembly with
      upstream_responses := remove_parent event.event_id assembly.upstream_responses })
  | none =>
    match assembly.upstream_timeouts.lookup event.event_id with
    | some timeout => do
      rejectIf (violates_binding timeout event)
        (.evidenceUnavailable ("outbound timeout for " ++ event.event_id ++
          " violates causal binding"))
      .ok (none, { assembly with
        upstream_timeouts := remove_parent event.event_id assembly.upstream_timeouts })
    | none => .error (.evidenceUnavailable ("outbound trace event " ++ event.event_id ++
        " has no causally bound response or timeout"))

/-- A legacy outbound event carries its own response. -/
def response_event (assembly : Assembly) (event : TraceEventV2) :
    Except AgentError (Option TraceEventV2 × Assembly) :=
  if event.kind = .upstreamQuery then upstream_answer assembly event
  else .ok (some event, assembly)

/-! ## §6. One hop. -/

/-- The levels a direct target earns: the anchor's verdict stands for the whole
resolution. -/
def target_levels (target_attestation : Option TargetResponseAttestationV2)
    (resolver_dnssec_status : DnssecStatus) : List EvidenceLevel :=
  [.registryBound] ++ (if target_attestation.isSome then [.agentAttested] else []) ++
    (if resolver_dnssec_status = .secure then [.dnssecValidated] else [])

/-- This server's signature on an edge. -/
def sign_edge (edge : ServerHopEvidenceV2) : Except AgentError ServerHopEvidenceV2 := do
  let signature ← (P.sign_ed25519 edge.to_value config.private_key_b64).mapError .validation
  .ok { edge with signature := some signature }

/-- A graph of the target's Agent goes in: its nodes and either its edges or, for a
cache graph, itself. -/
def merge_child (assembly : Assembly) (target : EvidenceStore.IdentityRecord)
    (child : QueryEvidenceGraphV2) : Except AgentError Assembly := do
  rejectIf (child.entry_server_id != target.1.server_id)
    (.downstream "downstream graph entry identity mismatch")
  let child_entry ← okOr (find_node child.nodes child.entry_server_id)
    (.downstream "downstream graph entry node is missing")
  rejectIf (decide (child_entry.identity ≠ target.1) ||
      !child_entry.registry.same_registry_state target.2)
    (.downstream "downstream graph entry Registry state mismatch")
  let nodes ← merge_child_nodes target.1.server_id assembly.nodes child.nodes
  .ok (if child.cache_provenance.isSome then
      { assembly with
        nodes := nodes
        terminal_cache_graphs := assembly.terminal_cache_graphs ++ [child] }
    else
      { assembly with
        nodes := nodes
        edges := assembly.edges ++ child.edges
        terminal_cache_graphs := assembly.terminal_cache_graphs ++ child.terminal_cache_graphs })

/-- What the Agent of a recursive target has to add. -/
def descend (request : EvidenceGraphRequest) (assembly : Assembly)
    (target : EvidenceStore.IdentityRecord) (event : TraceEventV2)
    (target_correlation_id response_digest : String) : AgentProg Assembly :=
  if target.1.role.is_recursive then do
    let child ← fetch_target_graph P config issuer_keys target.1
      { trace_id := request.trace_id
        correlation_id := target_correlation_id
        challenge := request.challenge
        query_digest := event.query_digest
        response_digest
        visited_server_ids := request.visited_server_ids ++ [config.server_id] }
    Prog.ofExcept (merge_child assembly target child)
  else .ret assembly

/-- The signed edge from this server to a target. -/
def direct_edge (request : EvidenceGraphRequest) (now : Int) (from_endpoint : DnsEndpoint)
    (target_endpoint : DnsEndpoint) (target : EvidenceStore.IdentityRecord)
    (event response_event : TraceEventV2) (target_correlation_id response_digest : String)
    (target_attestation : Option TargetResponseAttestationV2) : ServerHopEvidenceV2 where
  schema_version := SERVER_HOP_EVIDENCE_V2
  edge_id := request.trace_id ++ ":" ++ event.event_id
  trace_id := request.trace_id
  target_correlation_id := target_correlation_id
  challenge := request.challenge
  from_server_id := config.server_id
  to_server_id := target.1.server_id
  from_endpoint := from_endpoint
  to_endpoint := target_endpoint
  query_digest := event.query_digest
  response_digest := response_digest
  observed_at := response_event.observed_at
  issued_at := now
  expires_at := i64_wrap (now + config.max_age_seconds)
  accepted := true
  reasons := []
  registry := target.2
  target_attestation := target_attestation
  key_id := config.key_id
  signature := none

/-- The hop of one answered query. -/
def add_hop (request : EvidenceGraphRequest) (now : Int) (resolver_dnssec_status : DnssecStatus)
    (assembly : Assembly) (event response_event : TraceEventV2) (target_endpoint : DnsEndpoint) :
    AgentProg Assembly := do
  let response_digest ← Prog.okOr response_event.response_digest
    (.evidenceUnavailable ("response event " ++ response_event.event_id ++
      " has no response digest"))
  let found ← lookup_identity target_endpoint
  let target ← Prog.okOr found
    (.evidenceUnavailable ("target identity not found for " ++
      ((P.cache_key target_endpoint).toOption.getD "")))
  Prog.rejectIf (event.target_server_id.any (fun server_id => server_id != target.1.server_id))
    (.evidenceUnavailable ("trace event " ++ event.event_id ++ " target identity mismatch"))
  let target_correlation_id ← Prog.ofExcept (target_correlation event)
  let target_attestation ← fetch_target_attestation config target.1
    { trace_id := request.trace_id
      correlation_id := target_correlation_id
      challenge := request.challenge
      query_digest := event.query_digest
      response_digest
      endpoint := target_endpoint }
  let nodes ← Prog.ofExcept (merge_node assembly.nodes
    (evidence_node target (target_levels target_attestation resolver_dnssec_status)))
  let from_endpoint ← Prog.ofExcept (self_record_endpoint nodes config.server_id)
  let edge ← Prog.ofExcept (sign_edge P config (direct_edge config request now from_endpoint
    target_endpoint target event response_event target_correlation_id response_digest
    target_attestation))
  let assembly := { assembly with nodes := nodes, edges := assembly.edges ++ [edge] }
  descend P config issuer_keys request assembly target event target_correlation_id response_digest

/-- One outbound query: a timeout adds nothing. -/
def process_outbound (request : EvidenceGraphRequest) (now : Int)
    (resolver_dnssec_status : DnssecStatus) (assembly : Assembly) (event : TraceEventV2) :
    AgentProg Assembly := do
  let target_endpoint ← Prog.okOr event.target_endpoint
    (.evidenceUnavailable ("trace event " ++ event.event_id ++ " has no target endpoint"))
  let answered ← Prog.ofExcept (response_event assembly event)
  match answered with
  | (none, assembly) => .ret assembly
  | (some answer, assembly) =>
    add_hop P config issuer_keys request now resolver_dnssec_status assembly event answer
      target_endpoint

/-- The loop over the outbound queries. -/
def process_all (request : EvidenceGraphRequest) (now : Int)
    (resolver_dnssec_status : DnssecStatus) : Assembly → List TraceEventV2 → AgentProg Assembly
  | assembly, [] => .ret assembly
  | assembly, event :: rest => do
    let assembly ← process_outbound P config issuer_keys request now resolver_dnssec_status
      assembly event
    process_all request now resolver_dnssec_status assembly rest

/-! ## §7. Finished graphs. -/

/-- This server's signature on a graph. -/
def sign_graph (graph : QueryEvidenceGraphV2) : Except AgentError QueryEvidenceGraphV2 := do
  let signature ← (P.sign_ed25519 graph.to_value config.private_key_b64).mapError .validation
  .ok { graph with signature := some signature }

/-- Sign, validate, store. -/
def finish_graph (request : EvidenceGraphRequest) (now : Int) (graph : QueryEvidenceGraphV2) :
    AgentProg QueryEvidenceGraphV2 := do
  let graph ← Prog.ofExcept (sign_graph P config graph)
  Prog.ofExcept ((validate_graph P config.mode.policy issuer_keys graph request.challenge
    now).mapError .validation)
  put_graph graph
  .ret graph

/-- The unsigned graph of a resolution. -/
def resolved_graph (request : EvidenceGraphRequest) (now : Int) (assembly : Assembly) :
    QueryEvidenceGraphV2 where
  schema_version := QUERY_EVIDENCE_GRAPH_V2
  trace_id := request.trace_id
  correlation_id := request.correlation_id
  challenge := request.challenge
  query_digest := request.query_digest
  response_digest := request.response_digest
  mode := config.mode
  entry_server_id := config.server_id
  issued_at := now
  expires_at := i64_wrap (now + config.max_age_seconds)
  dnssec_status := aggregate_dnssec_status assembly.edges assembly.nodes
    assembly.terminal_cache_graphs
  cache_provenance := none
  terminal_cache_graphs := assembly.terminal_cache_graphs.insertionSort
    (fun left right => left.entry_server_id ≤ right.entry_server_id)
  nodes := assembly.nodes.insertionSort
    (fun left right => left.identity.server_id ≤ right.identity.server_id)
  edges := assembly.edges.insertionSort (fun left right => left.edge_id ≤ right.edge_id)
  terminal_node_ids := terminal_nodes assembly.nodes assembly.edges config.server_id
  final_result := true
  graph_errors := []
  key_id := config.key_id
  signature := none

/-- `min()` over the identities of a graph. -/
def min_valid_until (nodes : List EvidenceNodeV2) : Option Int :=
  (nodes.map (fun node => node.identity.valid_until)).min?

/-- The unsigned graph of a cache hit. -/
def hit_graph (request : EvidenceGraphRequest) (now : Int)
    (self_record : EvidenceStore.IdentityRecord) (source_graph : QueryEvidenceGraphV2)
    (provenance : CacheProvenanceV2) : QueryEvidenceGraphV2 where
  schema_version := QUERY_EVIDENCE_GRAPH_V2
  trace_id := request.trace_id
  correlation_id := request.correlation_id
  challenge := request.challenge
  query_digest := request.query_digest
  response_digest := request.response_digest
  mode := config.mode
  entry_server_id := self_record.1.server_id
  issued_at := now
  expires_at := i64_wrap (now + config.max_age_seconds)
  dnssec_status := source_graph.dnssec_status
  cache_provenance := some provenance
  terminal_cache_graphs := []
  nodes := [evidence_node self_record [.registryBound, .agentAttested]]
  edges := []
  terminal_node_ids := [self_record.1.server_id]
  final_result := true
  graph_errors := []
  key_id := config.key_id
  signature := none

/-- The graph of an answer from the cache. -/
def build_cache_hit_graph (request : EvidenceGraphRequest)
    (self_record : EvidenceStore.IdentityRecord) (cache_hit : Option TraceEventV2) (now : Int) :
    AgentProg QueryEvidenceGraphV2 := do
  let cache_hit ← Prog.okOr cache_hit
    (.evidenceUnavailable "trace has neither outbound queries nor a cache-hit event")
  let ttl_expires_at ← Prog.okOr cache_hit.ttl_expires_at
    (.evidenceUnavailable "cache-hit event has no TTL boundary")
  Prog.rejectIf (ttl_expires_at ≤ now ||
      i64_saturating_add now config.max_cache_ttl_seconds < ttl_expires_at)
    (.evidenceUnavailable "cache-hit TTL is outside policy")
  let cache_object_digest ← Prog.okOr cache_hit.cache_object_digest
    (.evidenceUnavailable "cache-hit event has no normalized cache object digest")
  let source_digest ← Prog.okOr cache_hit.source_graph_digest
    (.evidenceUnavailable "cache-hit event does not declare its source graph digest")
  let found ← find_cache_source_graph_by_digest request.query_digest cache_object_digest
    source_digest
  let source_graph ← Prog.okOr found
    (.evidenceUnavailable
      "cache-hit source graph is absent from the current Registry generation")
  Prog.rejectIf (decide (cache_hit.dnssec_status ≠ source_graph.dnssec_status))
    (.evidenceUnavailable "cache-hit DNSSEC status differs from source evidence")
  let source_dnssec_required := graph_requires_dnssec source_graph
  Prog.rejectIf (source_dnssec_required && decide (source_graph.dnssec_status ≠ .secure))
    (.evidenceUnavailable "cache source graph does not preserve required DNSSEC evidence")
  let identity_expires_at ← Prog.okOr (min_valid_until source_graph.nodes)
    (.evidenceUnavailable "cache source graph has no identities")
  finish_graph P config issuer_keys request now (hit_graph config request now self_record
    source_graph
    { source_graph_digest := source_digest
      source_dnssec_required
      cached_at := cache_hit.observed_at
      dns_ttl_expires_at := ttl_expires_at
      identity_expires_at
      snapshot_generation := self_record.2.snapshot_generation })

/-- The assembly before the first outbound query: this server alone. -/
def initial_assembly (self_record : EvidenceStore.IdentityRecord) (events : List TraceEventV2) :
    Assembly where
  nodes := [evidence_node self_record [.registryBound, .agentAttested]]
  edges := []
  terminal_cache_graphs := []
  upstream_responses := by_parent .upstreamResponse events
  upstream_timeouts := by_parent .upstreamTimeout events

/-- The graph of the events found under the anchor's trace. -/
def build_from_events (request : EvidenceGraphRequest) (now : Int)
    (self_record : EvidenceStore.IdentityRecord) (anchor : TraceEventV2)
    (events : List TraceEventV2) : AgentProg QueryEvidenceGraphV2 :=
  let outbound := events.filter (is_outbound config request)
  if outbound.isEmpty then
    build_cache_hit_graph P config issuer_keys request self_record
      (events.reverse.find? (is_cache_hit config request)) now
  else do
    let assembly ← process_all P config issuer_keys request now anchor.dnssec_status
      (initial_assembly self_record events) outbound
    finish_graph P config issuer_keys request now (resolved_graph config request now assembly)

/-- `build_graph_with_context`, from the request to the stored graph. -/
def build_graph_with_context (request : EvidenceGraphRequest)
    (require_registered_context : Bool) : AgentProg QueryEvidenceGraphV2 := do
  Prog.ofExcept (validate_request request.trace_id request.correlation_id request.challenge
    request.query_digest request.response_digest)
  let now ← unix_time
  require_fresh_registry config now
  Prog.rejectIf (64 < request.visited_server_ids.length)
    (.invalidRequest "visited server list exceeds maximum depth")
  Prog.rejectIf (request.visited_server_ids.contains config.server_id)
    (.evidenceUnavailable ("Agent graph loop detected at " ++ config.server_id))
  let found ← get_identity config.server_id
  let self_record ← Prog.okOr found
    (.evidenceUnavailable ("local identity " ++ config.server_id ++ " not found"))
  let anchor ← wait_for_trace_anchor config request require_registered_context
  let events ← trace_events anchor.trace_id
  build_from_events P config issuer_keys request now self_record anchor events

/-! ## §8. Attestations. -/

/-- The unsigned attestation of a response. -/
def response_attestation (request : ResponseAttestationRequest) (now observed_at : Int) :
    TargetResponseAttestationV2 where
  schema_version := TARGET_RESPONSE_ATTESTATION_V2
  target_server_id := config.server_id
  trace_id := request.trace_id
  correlation_id := request.correlation_id
  challenge := request.challenge
  query_digest := request.query_digest
  response_digest := request.response_digest
  endpoint := request.endpoint
  observed_at := observed_at
  issued_at := now
  expires_at := i64_wrap (now + config.max_age_seconds)
  key_id := config.key_id
  signature := none

/-- `attest_response`, from the request to the signed attestation. -/
def attest_response (request : ResponseAttestationRequest) :
    AgentProg TargetResponseAttestationV2 := do
  Prog.ofExcept (validate_request request.trace_id request.correlation_id request.challenge
    request.query_digest request.response_digest)
  let now ← unix_time
  require_fresh_registry config now
  let found ← get_identity config.server_id
  let record ← Prog.okOr found (.evidenceUnavailable "local identity missing")
  Prog.rejectIf (!record.1.endpoints.any (fun endpoint => P.matchesOr endpoint request.endpoint))
    (.evidenceUnavailable "attested endpoint is not bound to local identity")
  let response_event ← wait_for_matching_response config request
  let attestation := response_attestation config request now response_event.observed_at
  let signature ← Prog.ofExcept
    ((P.sign_ed25519 attestation.to_value config.private_key_b64).mapError .validation)
  .ret { attestation with signature := some signature }

end ResolverIdentity.Agent
