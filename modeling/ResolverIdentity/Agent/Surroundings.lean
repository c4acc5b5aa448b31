/-
  ResolverIdentity.Agent.Surroundings: one operation of a build, carried out.

  `perform` is what an operation of `AgentOp` does to the evidence store and what
  it answers.  What the store cannot know is in `Surroundings`: the clock, the
  choice of a query plan, a failing database, the replies of other Agents.

  Main results:
    * `perform_put`, `perform_no_put`: an operation writes the graph it was given, or
      changes nothing, or claims one event for its own request;
    * `perform_records`: identities and generation stay as they are.
-/
import ResolverIdentity.Agent.BuildGraph
import ResolverIdentity.Core.Recorded
import ResolverIdentity.Store.Records

namespace ResolverIdentity.Agent

open Library Store

/-! ## §1. Operations on a store. -/

/-- What an operation meets outside the store. -/
structure Surroundings where
  now : Int
  deadline_passed : Bool
  /-- The query plan's choice among unordered rows. -/
  plan : Nat
  /-- `with_store` fails before the store is reached. -/
  failure : Option AgentError
  attestation : HttpReply TargetResponseAttestationV2
  graph : HttpReply QueryEvidenceGraphV2

variable (P : Platform) (env : Surroundings)

namespace Surroundings

/-- `with_store` on a transaction. -/
def write {α : Type} (s : EvidenceStore) (result : Except StoreError α × EvidenceStore) :
    Stored α × EvidenceStore :=
  match env.failure with
  | some error => (.error error, s)
  | none => (result.1.mapError .store, result.2)

/-- `with_store` on a statement that only reads. -/
def read {α : Type} (s : EvidenceStore) (result : Except StoreError α) :
    Stored α × EvidenceStore :=
  env.write s (result, s)

end Surroundings

/-- The effect of an operation on the store, and its answer. -/
def perform : (op : AgentOp) → EvidenceStore → AgentRes op × EvidenceStore
  | .unix_time, s => (env.now, s)
  | .registry_last_success_epoch, s =>
    env.read s (.ok s.ri_v2_meta.registry_last_success_epoch)
  | .get_identity server_id, s => env.read s (s.get_identity server_id)
  | .claim_registered_trace_anchor request, s =>
    env.write s (s.claim_registered_trace_anchor request env.now)
  | .claim_matching_response request, s => env.write s (s.claim_matching_response P request)
  | .deadline_passed, s => (env.deadline_passed, s)
  | .trace_events trace_id, s => env.read s (.ok (s.trace_events trace_id))
  | .lookup_server_id endpoint, s => env.read s (s.lookup_server_id P endpoint)
  | .lookup_record server_id, s => env.read s (s.get_identity server_id)
  | .cache_generation, s => env.read s s.generation_sql
  | .find_cache_source_graph_by_digest generation_sql query_digest cache_object_digest
      graph_digest, s =>
    env.read s (s.find_cache_source_at env.plan generation_sql query_digest cache_object_digest
      graph_digest)
  | .put_graph graph generation_sql, s =>
    env.write s (.ok (), s.insert_graph P graph generation_sql)
  | .post_attestation _ _, s => (env.attestation, s)
  | .post_graph _ _, s => (env.graph, s)

/-! ## §2. What an operation can do. -/

/-- The request an operation claims for: its trace and the answer it is about. -/
def AgentOp.claims : AgentOp → Option (String × String)
  | .claim_registered_trace_anchor request =>
    some (request.request_trace_id, request.response_digest)
  | .claim_matching_response request => some (request.request_trace_id, request.response_digest)
  | _ => none

/-- The graph an operation writes, unless the database fails, and at which generation. -/
def AgentOp.puts (env : Surroundings) : AgentOp → Option (QueryEvidenceGraphV2 × Int)
  | .put_graph graph generation_sql =>
    if env.failure.isSome then none else some (graph, generation_sql)
  | _ => none

/-- One stored event with this answer is claimed; only claims and contexts change. -/
structure EventClaimed (s s' : EvidenceStore) (request_trace_id response_digest : String)
    (event_id : String) (event : TraceEventV2) : Prop
    extends EvidenceStore.Claims s s' event_id request_trace_id where
  stored : s.ri_v2_trace_events.get? event_id = some event
  answer : event.response_digest = some response_digest
  rest : s' = { s with
    ri_v2_trace_event_claims := s'.ri_v2_trace_event_claims
    ri_v2_query_contexts := s'.ri_v2_query_contexts }

section Effects

variable {P : Platform} {s s' : EvidenceStore}

theorem event_claimed_of_anchor {request : AnchorRequest} {context : QueryContext}
    {row : Row String TraceEventV2} (h : EvidenceStore.AnchorClaimed request s s' context row) :
    EventClaimed s s' request.request_trace_id request.response_digest row.key row.val := by
  have hrow := List.mem_filter.mp h.selected
  simp only [Bool.and_eq_true, decide_eq_true_eq] at hrow
  refine ⟨h.toClaims, RowTable.get?_of_mem hrow.1, hrow.2.1.2, ?_⟩
  rw [h.rest]

theorem event_claimed_of_match {request : TraceResponseMatch} {row : Row String TraceEventV2}
    (h : EvidenceStore.MatchClaimed P request s s' row) :
    EventClaimed s s' request.request_trace_id request.response_digest row.key row.val := by
  have hrow := List.mem_filter.mp h.selected
  simp only [Bool.and_eq_true, decide_eq_true_eq] at hrow
  refine ⟨h.toClaims, RowTable.get?_of_mem hrow.1, hrow.2.1.1.2, ?_⟩
  rw [h.rest]

/-- A failing transaction and one that never starts leave the store as it is. -/
theorem Surroundings.write_snd {α : Type} (env : Surroundings) (s : EvidenceStore)
    (result : Except StoreError α × EvidenceStore)
    (herror : ∀ e, result.1 = .error e → result.2 = s) :
    (env.write s result).2 = s ∨ ∃ a, result = (.ok a, (env.write s result).2) := by
  unfold Surroundings.write
  cases env.failure with
  | some error => exact Or.inl rfl
  | none =>
    obtain ⟨outcome, s'⟩ := result
    cases outcome with
    | error e => exact Or.inl (herror e rfl)
    | ok a => exact Or.inr ⟨a, rfl⟩

/-- A statement that only reads, failing or not. -/
theorem Surroundings.read_snd {α : Type} (env : Surroundings) (s : EvidenceStore)
    (result : Except StoreError α) : (env.read s result).2 = s := by
  unfold Surroundings.read Surroundings.write
  cases env.failure <;> rfl

/-- A graph that is put is inserted. -/
theorem perform_put {P : Platform} {env : Surroundings} {op : AgentOp} {s : EvidenceStore}
    {graph : QueryEvidenceGraphV2} {generation_sql : Int}
    (h : op.puts env = some (graph, generation_sql)) :
    op = .put_graph graph generation_sql ∧
      (perform P env op s).2 = s.insert_graph P graph generation_sql := by
  cases op with
  | put_graph graph' generation_sql' =>
    unfold AgentOp.puts at h
    cases hfailure : env.failure with
    | some error =>
      rw [hfailure] at h
      cases h
    | none =>
      rw [hfailure] at h
      obtain ⟨rfl, rfl⟩ := Prod.mk.inj (Option.some.inj h)
      refine ⟨rfl, ?_⟩
      show (env.write s _).2 = _
      unfold Surroundings.write
      rw [hfailure]
  | _ => cases h

/-- Any other operation changes nothing or claims an event for its request. -/
theorem perform_no_put {P : Platform} {env : Surroundings} {op : AgentOp} {s : EvidenceStore}
    (h : op.puts env = none) :
    (perform P env op s).2 = s ∨
      ∃ request_trace_id response_digest event_id event,
        op.claims = some (request_trace_id, response_digest) ∧
          EventClaimed s (perform P env op s).2 request_trace_id response_digest event_id
            event := by
  cases op with
  | claim_registered_trace_anchor request =>
    rcases env.write_snd s (s.claim_registered_trace_anchor request env.now)
        (fun e he => transaction_error (Prod.ext he rfl)) with hsame | ⟨found, hok⟩
    · exact Or.inl hsame
    · rcases EvidenceStore.claim_registered_eq_ok hok with ⟨_, hsame⟩ | ⟨context, row, _, hclaimed⟩
      · exact Or.inl hsame
      · exact Or.inr ⟨_, _, row.key, row.val, rfl, event_claimed_of_anchor hclaimed⟩
  | claim_matching_response request =>
    rcases env.write_snd s (s.claim_matching_response P request)
        (fun e he => transaction_error (Prod.ext he rfl)) with hsame | ⟨found, hok⟩
    · exact Or.inl hsame
    · rcases EvidenceStore.claim_matching_eq_ok hok with ⟨_, hsame⟩ | ⟨row, _, hclaimed⟩
      · exact Or.inl hsame
      · exact Or.inr ⟨_, _, row.key, row.val, rfl, event_claimed_of_match hclaimed⟩
  | put_graph graph generation_sql =>
    -- the database failed first
    refine Or.inl ?_
    unfold AgentOp.puts at h
    show (env.write s _).2 = s
    unfold Surroundings.write
    cases hfailure : env.failure with
    | some error => rfl
    | none =>
      rw [hfailure] at h
      cases h
  | unix_time => exact Or.inl rfl
  | deadline_passed => exact Or.inl rfl
  | post_attestation url request => exact Or.inl rfl
  | post_graph url request => exact Or.inl rfl
  | registry_last_success_epoch => exact Or.inl (env.read_snd s _)
  | get_identity server_id => exact Or.inl (env.read_snd s _)
  | trace_events trace_id => exact Or.inl (env.read_snd s _)
  | lookup_server_id endpoint => exact Or.inl (env.read_snd s _)
  | lookup_record server_id => exact Or.inl (env.read_snd s _)
  | cache_generation => exact Or.inl (env.read_snd s _)
  | find_cache_source_graph_by_digest generation_sql query_digest cache_object_digest digest =>
    exact Or.inl (env.read_snd s _)

/-- No operation writes an identity or the metadata. -/
theorem perform_records (P : Platform) (env : Surroundings) (op : AgentOp) (s : EvidenceStore) :
    (perform P env op s).2.ri_v2_identities = s.ri_v2_identities ∧
      (perform P env op s).2.ri_v2_meta = s.ri_v2_meta := by
  cases hput : op.puts env with
  | some written =>
    rw [(perform_put (P := P) (s := s) hput).2]
    exact ⟨rfl, rfl⟩
  | none =>
    rcases perform_no_put (P := P) (s := s) hput with hsame | ⟨_, _, _, _, _, hclaimed⟩
    · rw [hsame]
      exact ⟨rfl, rfl⟩
    · rw [hclaimed.rest]
      exact ⟨rfl, rfl⟩

/-- The generation a build reads is the store's. -/
theorem perform_generation {P : Platform} {env : Surroundings} {s : EvidenceStore}
    {generation_sql : Int} (h : (perform P env .cache_generation s).1 = .ok generation_sql) :
    generation_sql = s.cache_generation ∧ generation_sql ≤ I64_MAX := by
  have hread : (env.write s (s.generation_sql, s)).1 = .ok generation_sql := h
  unfold Surroundings.write at hread
  cases hfailure : env.failure with
  | some error =>
    rw [hfailure] at hread
    cases hread
  | none =>
    rw [hfailure] at hread
    obtain ⟨hsame, hmax⟩ := sql_i64_eq_ok.mp (mapError_eq_ok.mp hread)
    exact ⟨hsame, hsame ▸ hmax⟩

end Effects

/-! ## §3. A recorded exchange. -/

/-- Port 53 of an address, over UDP. -/
def lab_endpoint (ip : String) : DnsEndpoint := ⟨none, some ip, some 53, "udp", none, none, []⟩

/-- A record of the lab's Registry, its identity signed by the operator. -/
def lab_record (server_id ip : String) (role : DnsServerRole) (agent : Option AgentBindingV2)
    (valid_until : Int) (signature object_hash : String) : EvidenceStore.IdentityRecord :=
  ({ schema_version := DNS_SERVER_IDENTITY_V2
     server_id := server_id
     operator_id := "operator-a"
     role := role
     endpoints := [lab_endpoint ip]
     anycast := false
     anycast_service_id := none
     agent := agent
     valid_from := 1700000000
     valid_until := valid_until
     object_version := 1
     status := "ACTIVE"
     issuer := "registry-operator"
     key_id := "registry-key-1"
     signature := some ("base64:ed25519:" ++ signature) },
    { chain_adapter := "evm"
      chain_identity := "eip155:11155111"
      registry_locator := "evm:0x1111111111111111111111111111111111111111"
      registry_schema_hash := digest_of '2'
      adapter_metadata := .evm 11155111 "0x1111111111111111111111111111111111111111"
        (digest_of '2')
      checkpoint_height := 100
      checkpoint_hash := digest_of '3'
      finality_type := .evmFinalized
      state_root := digest_of '4'
      object_hash := object_hash
      object_version := 1
      resolver_status := "ACTIVE"
      root_status := "ACTIVE"
      endpoint_binding_status := "MATCHED"
      snapshot_generation := 10 })

/-- The public key of the Registry's operator. -/
def operator_key : String := "iojj3XQJ8ZX9UtstPLpdcspnCb8dlBIb83SIAbQPb1w="

/-- The public key of the Agent of `resolver-a`. -/
def agent_key_a : String := "gTl3Dqh9F19Wo1Rmw0x+zMuNipG07jeiXfYPW4/Js5Q="

/-- The public key of the Agent of `resolver-b`. -/
def agent_key_b : String := "7UkoxijRwsbq6QM4kFmVYSlZJzpcY/k2NsFGFKyHN9E="

/-- An Agent with an ed25519 key. -/
def lab_agent (key_id public_key service_url : String) : AgentBindingV2 where
  key_id := key_id
  algorithm := "ed25519"
  public_key := public_key
  service_url := some service_url

/-- The recursive server whose Agent builds. -/
def resolver_a : EvidenceStore.IdentityRecord :=
  lab_record "resolver-a" "192.0.2.1" .recursive
    (some (lab_agent "agent-key-a" agent_key_a "https://resolver-a.example")) 1900000000
    "T41+Kx6DgH4UeqK1pQYmBaqGgG88Ecu3BFWm7Obsygsx0moqeGCZEi8eeJIXHAQ6zO3eHVSEbYhk3ddfWRqdDA=="
    "0xa035e64196fdbe0430427897efae552a49eea7e4f9b5c450cc52996642578393"

/-- Another recursive server with an Agent. -/
def resolver_b : EvidenceStore.IdentityRecord :=
  lab_record "resolver-b" "192.0.2.2" .recursive
    (some (lab_agent "agent-key-b" agent_key_b "https://resolver-b.example")) 1900000000
    "lyZhn5IQBYudwOMDWFA194MOafYVIIqQLL5cAQEICmVT04HdXkmEOeTNOfjHHkqqQJaqOe5hQU7s26Gw3najCA=="
    "0x0880c4a510a25d2383bfdb37e95f3b97a38f636579ff3e743e5f1208b32a6fed"

/-- An authority without an Agent, whose identity is soon to expire. -/
def authority_a : EvidenceStore.IdentityRecord :=
  lab_record "authority-a" "192.0.2.3" .authoritative none 1750000100
    "Ktt6o4tXADcVI7ORkTdm37zvIf8Q4A8BXedPixLAZDhVu8W2Xkbne439rHXABTY1SfJL7iKfEx0BWLZZJ+YdDw=="
    "0xb08ba39c161c2ade456c6e9e19a915397d89b9d1fdc7beeba74bfc2a8786ea29"

/-- The recorded results for the three identities, and those of one run. -/
def lab_recording (digests : List (String × String))
    (signatures : List (String × String × String)) : Recording where
  digests := [
    ("\x7b\"agent\":\x7b\"algorithm\":\"ed25519\",\"key_id\":\"agent-key-a", resolver_a.2.object_hash),
    ("\x7b\"agent\":\x7b\"algorithm\":\"ed25519\",\"key_id\":\"agent-key-b", resolver_b.2.object_hash),
    ("\x7b\"anycast", authority_a.2.object_hash)] ++ digests
  keys := [
    ("AQEBAQEBAQEBAQEBAQEBAQEBAQEBAQEBAQEBAQEBAQE=", operator_key),
    ("AgICAgICAgICAgICAgICAgICAgICAgICAgICAgICAgI=", agent_key_a),
    ("AwMDAwMDAwMDAwMDAwMDAwMDAwMDAwMDAwMDAwMDAwM=", agent_key_b)]
  signatures := [
    (operator_key, "\x7b\"agent\":\x7b\"algorithm\":\"ed25519\",\"key_id\":\"agent-key-a",
      "T41+Kx6DgH4UeqK1pQYmBaqGgG88Ecu3BFWm7Obsygsx0moqeGCZEi8eeJIXHAQ6zO3eHVSEbYhk3ddfWRqdDA=="),
    (operator_key, "\x7b\"agent\":\x7b\"algorithm\":\"ed25519\",\"key_id\":\"agent-key-b",
      "lyZhn5IQBYudwOMDWFA194MOafYVIIqQLL5cAQEICmVT04HdXkmEOeTNOfjHHkqqQJaqOe5hQU7s26Gw3najCA=="),
    (operator_key, "\x7b\"anycast",
      "Ktt6o4tXADcVI7ORkTdm37zvIf8Q4A8BXedPixLAZDhVu8W2Xkbne439rHXABTY1SfJL7iKfEx0BWLZZJ+YdDw==")] ++ signatures

/-- The operator is the one trusted issuer. -/
def lab_issuer_keys : IssuerKeyRegistry :=
  IssuerKeyRegistry.insert ⟨[]⟩ "registry-operator" "registry-key-1" operator_key

/-- The Agent of `resolver-a`. -/
def config_a : AgentConfig where
  server_id := "resolver-a"
  private_key_b64 := "AgICAgICAgICAgICAgICAgICAgICAgICAgICAgICAgI="
  key_id := "agent-key-a"
  mode := .publicHybrid
  max_age_seconds := 30
  trace_wait_millis := 250
  max_cache_ttl_seconds := 3600
  registry_max_staleness_seconds := 15

/-- The Agent of `resolver-b`. -/
def config_b : AgentConfig :=
  { config_a with
    server_id := "resolver-b"
    private_key_b64 := "AwMDAwMDAwMDAwMDAwMDAwMDAwMDAwMDAwMDAwMDAwM="
    key_id := "agent-key-b" }

/-- The request of a wrapper for the answer to one question. -/
def lab_request (trace_id challenge correlation_id response_digest : String) :
    EvidenceGraphRequest where
  trace_id := trace_id
  correlation_id := correlation_id
  challenge := challenge
  query_digest := digest_of 'a'
  response_digest := response_digest
  visited_server_ids := []

/-- An event of a trace of `resolver-a`, about that question. -/
def lab_event (trace_id : String) (sequence : Nat) (kind : TraceEventKind) (parent : Option Nat)
    (correlation_id : String) : TraceEventV2 where
  schema_version := TRACE_EVENT_V2
  event_id := trace_id ++ "/" ++ toString sequence
  trace_id := trace_id
  sequence := sequence
  correlation_id := correlation_id
  parent_event_id := parent.map (fun parent => trace_id ++ "/" ++ toString parent)
  kind := kind
  observer_server_id := "resolver-a"
  target_server_id := none
  target_endpoint := none
  target_correlation_id := none
  attempt := none
  query_digest := digest_of 'a'
  response_digest := none
  cache_object_digest := none
  observed_at := 1750000000
  dnssec_status := .secure
  ttl_expires_at := none
  source_graph_digest := none
  failure_reason := none

namespace TraceEvents

/-- The event is about a query sent to a server. -/
def sent_to (event : TraceEventV2) (target : EvidenceStore.IdentityRecord)
    (target_correlation_id : String) : TraceEventV2 :=
  { event with
    target_endpoint := target.1.endpoints.head?
    target_correlation_id := some target_correlation_id
    attempt := some 1 }

/-- The event carries an answer. -/
def answered (event : TraceEventV2) (response_digest : String)
    (cache_object_digest : Option String) : TraceEventV2 :=
  { event with response_digest := some response_digest, cache_object_digest }

end TraceEvents

open TraceEvents

/-- A question of a client that `authority_a` answers. -/
def resolved_events (trace_id correlation_id target_correlation_id response_digest : String)
    (cache_object_digest : String) : List TraceEventV2 :=
  [lab_event trace_id 1 .clientQuery none correlation_id,
    sent_to (lab_event trace_id 2 .upstreamQuery (some 1) correlation_id) authority_a
      target_correlation_id,
    answered (sent_to (lab_event trace_id 3 .upstreamResponse (some 2) correlation_id) authority_a
      target_correlation_id) response_digest none,
    answered (lab_event trace_id 4 .clientResponse (some 1) correlation_id) response_digest
      (some cache_object_digest)]

/-- No other Agent is reached, and nothing fails. -/
def lab_surroundings (now : Int) : Surroundings where
  now := now
  deadline_passed := false
  plan := 0
  failure := none
  attestation := .failed "no route"
  graph := .failed "no route"

/-- A build of `resolver_a` that nothing else interferes with. -/
def lab_build (P : Platform) (env : Surroundings) (request : EvidenceGraphRequest)
    (s : EvidenceStore) :
    List (Prog.Event AgentOp AgentRes) × Except AgentError QueryEvidenceGraphV2 × EvidenceStore :=
  (build_graph_with_context P config_a lab_issuer_keys request false).trace
    (fun s op => perform P env op s) s

theorem lab_build_exec {P : Platform} {env : Surroundings} {request : EvidenceGraphRequest}
    {s : EvidenceStore} {graph : QueryEvidenceGraphV2}
    (h : (lab_build P env request s).2.1.toOption = some graph) :
    Prog.Exec (build_graph_with_context P config_a lab_issuer_keys request false)
      (lab_build P env request s).1 (.ok graph) := by
  have hexec := Prog.exec_trace (fun s op => perform P env op s)
    (build_graph_with_context P config_a lab_issuer_keys request false) s
  rw [← toOption_eq_some h]
  exact hexec

/-! ## §4. A recorded resolution. -/

/-- The challenge of the wrapper. -/
def challenge_0 : String := "0-challenge-with-32-characters-.."

/-- How the canonical text of a graph or an attestation of the exchange begins. -/
def answer_text (correlation_id : String) : String :=
  "\x7b\"challenge\":\"" ++ challenge_0 ++ "\",\"correlation_id\":\"" ++ correlation_id

/-- How the canonical text of an edge of `resolver_a` begins. -/
def edge_text (event_id : String) : String :=
  "\x7b\"accepted\":true,\"challenge\":\"" ++ challenge_0 ++ "\",\"edge_id\":\"request-0:" ++
    event_id

/-- The recorded results of building the graph of `resolved_events`, and those of a run
that goes on from there. -/
def resolved_recording (digests : List (String × String))
    (signatures : List (String × String × String)) : Recording :=
  lab_recording
    ((answer_text (digest_of 'c'),
        "0xda9dd5b2196d65228f887c10f31bcdd3035d4902cb26c1e08b569ab539e6a902") :: digests)
    ((agent_key_a, edge_text "trace-0",
        "3H3cEGS6HUx5jeXL93fzUMtxT+gy35zN4yBB1fonDU2ifGituv5WyuIdQwJfVRJldeDmnv9vQXs8fVoKFG4/Dw==") ::
      (agent_key_a, answer_text (digest_of 'c'),
        "TtKDWl6+emmZWEFOK72QwGV7fvnboBFzSlFZRfRWb2tDBvJ59NaGESJqO5DrNE+Ay/uxSD3wMuI5GwlNtA8AAg==") :: signatures)

/-- The request for its answer. -/
def resolved_request : EvidenceGraphRequest :=
  lab_request "request-0" challenge_0 (digest_of 'c') (digest_of 'e')

/-- What the store has been told by then. -/
def resolved_calls : List StoreCall :=
  [.apply_registry_snapshot [authority_a, resolver_a] 1750000000,
    .put_trace_events (resolved_events "trace-0" (digest_of 'c') (digest_of 'd') (digest_of 'e')
      (digest_of 'b'))]

/-- The store after these calls. -/
def resolved_store (P : Platform) : EvidenceStore :=
  resolved_calls.foldl (fun s call => call.run P s) EvidenceStore.open_

end ResolverIdentity.Agent
