/-
  ResolverIdentity.Wrapper.Query: from a client's query to the bytes it gets back.

  `process_query` of `ri-wrapper/src/lib.rs`: one attempt for each configured
  upstream, each with a transaction id, a trace id and a challenge of its own.
  What the wrapper asks of anything else is an operation, and any answer may come:
  the pool of transaction ids, the random source, the clock, the upstream, the Agent,
  and the local store, which Registry snapshots change at any time.  Semaphores and
  the registration lock only delay, metrics only count.

  Main results:
    * `exec_verify_response`: the events of a verification that succeeded;
    * `exec_try_upstream`: the events of an attempt that released a response;
    * `only_verified_released`: every query is answered, with its SERVFAIL or with a
      response that its own attempt has verified.
-/
import ResolverIdentity.Agent.Surroundings
import ResolverIdentity.Wrapper.Message

namespace ResolverIdentity.Wrapper

open Library Store

/-! ## §1. Settings and requests. -/

/-- How a client's query came in. -/
inductive DnsTransport where
  | udp
  | tcp
  deriving DecidableEq

/-- An upstream resolver; the address is the text of its socket address. -/
structure Upstream where
  address : String
  transport : DnsTransport
  deriving DecidableEq

/-- What `process_query` reads of the settings; durations are in nanoseconds. -/
structure WrapperConfig where
  mode : VerificationMode
  agent_url : String
  agent_api_token : String
  upstreams : List Upstream
  upstream_timeout : Nat
  agent_timeout : Nat
  registry_max_staleness_seconds : Int

/-- `Duration::MAX` -/
def DURATION_MAX : Nat := U64_MAX * 1000000000 + 999999999

/-- `Duration::saturating_add` -/
def duration_saturating_add (a b : Nat) : Nat := min (a + b) DURATION_MAX

/-- The seconds a registered query context is kept. -/
def context_ttl (config : WrapperConfig) : Nat :=
  max (duration_saturating_add
    (duration_saturating_add config.upstream_timeout config.agent_timeout)
    5000000000 / 1000000000) 1

/-- What became of a forwarded query. -/
inductive UpstreamReply where
  | response (bytes : List UInt8)
  | failed (error : WrapperError)
  | elapsed
  deriving DecidableEq

/-- What became of a request to the Agent. -/
inductive AgentReply where
  | body (graph : QueryEvidenceGraphV2)
  | refused (status detail : String)
  /-- `decode_json_limited` failed. -/
  | unreadable (error : WrapperError)
  | failed (text : String)
  | elapsed

/-! ## §2. Operations. -/

/-- What the wrapper asks of the resolver, the Agent and the clock. -/
inductive WrapperOp where
  | acquire_transaction_id
  /-- `Drop` of the permit. -/
  | drop_transaction_id (id : UInt16)
  | random_hex (length : Nat)
  | unix_time
  | register_query_context (trace_id correlation_id query_digest : String)
      (registered_at expires_at : Int)
  | query_upstream (query : List UInt8) (upstream : Upstream)
  /-- Wait for a verification permit until the deadline. -/
  | acquire_verification
  | post_evidence_graph (url token : String) (request : Agent.EvidenceGraphRequest)
  | registry_last_success_epoch
  | get_identity (server_id : String)
  deriving DecidableEq

/-- What each operation answers. -/
abbrev WrapperRes : WrapperOp → Type
  | .acquire_transaction_id => Except WrapperError UInt16
  | .drop_transaction_id _ => Unit
  | .random_hex _ => String
  | .unix_time => Int
  | .register_query_context _ _ _ _ _ => Except WrapperError Unit
  | .query_upstream _ _ => UpstreamReply
  | .acquire_verification => Bool
  | .post_evidence_graph _ _ _ => AgentReply
  | .registry_last_success_epoch => Except WrapperError Int
  | .get_identity _ => Except WrapperError (Option EvidenceStore.IdentityRecord)

/-- A program of the wrapper. -/
abbrev WrapperProg := Prog WrapperOp WrapperRes WrapperError

/-- One operation with its answer. -/
abbrev WrapperEvent := Prog.Event WrapperOp WrapperRes

/-! ## §3. Verification. -/

variable (P : Platform) (config : WrapperConfig) (issuer_keys : IssuerKeyRegistry)

/-- `registry_is_fresh`, on the heartbeat read from the store. -/
def registry_is_fresh (last_success now max_staleness_seconds : Int) : Bool :=
  0 < last_success && last_success ≤ i64_saturating_add now 5 &&
    i64_saturating_sub now last_success ≤ max_staleness_seconds

/-- A node is the one of the local snapshot. -/
def matches_local (node : EvidenceNodeV2) (record : EvidenceStore.IdentityRecord) : Bool :=
  !(decide (record.1 ≠ node.identity) || !record.2.same_registry_state node.registry ||
    decide (record.2.checkpoint_height < node.registry.checkpoint_height))

/-- The loop of `validate_local_registry`. -/
def validate_local_nodes : List EvidenceNodeV2 → WrapperProg Unit
  | [] => .ret ()
  | node :: rest =>
    .op (.get_identity node.identity.server_id) (fun answer => do
      let found ← Prog.ofExcept answer
      let record ← Prog.okOr found (.registryMismatch
        (node.identity.server_id ++ " is absent from the local Registry snapshot"))
      Prog.rejectIf (!matches_local node record) (.registryMismatch
        (node.identity.server_id ++ " differs from the local Registry snapshot"))
      validate_local_nodes rest)

/-- The wrapper's own Registry is recent and confirms every node. -/
def validate_local_registry (graph : QueryEvidenceGraphV2) (now : Int) : WrapperProg Unit :=
  .op .registry_last_success_epoch (fun answer => do
    let last_success ← Prog.ofExcept answer
    Prog.rejectIf (!registry_is_fresh last_success now config.registry_max_staleness_seconds)
      (.registryMismatch "Registry snapshot heartbeat is stale")
    validate_local_nodes graph.nodes)

/-- The status, the body and the deadline of an Agent reply. -/
def agent_reply : AgentReply → Except WrapperError QueryEvidenceGraphV2
  | .body graph => .ok graph
  | .refused status detail => .error (.agentStatus status detail)
  | .unreadable error => .error error
  | .failed text => .error (.agentHttp text)
  | .elapsed => .error .agentTimeout

/-- Where the Agent is asked. -/
def evidence_url : String := trim_end_matches config.agent_url '/' ++ "/v2/evidence-graph"

/-- What it is asked for. -/
def evidence_request (trace_id correlation_id challenge query_digest response_digest : String) :
    Agent.EvidenceGraphRequest where
  trace_id := trace_id
  correlation_id := correlation_id
  challenge := challenge
  query_digest := query_digest
  response_digest := response_digest
  visited_server_ids := []

/-- Fetch the evidence for an answer and verify it. -/
def verify_response (trace_id correlation_id query_digest response_digest : String) :
    WrapperProg Unit :=
  .op .acquire_verification fun acquired => do
  Prog.rejectIf (!acquired) .agentTimeout
  .op (.random_hex 32) fun challenge =>
  .op (.post_evidence_graph (evidence_url config) config.agent_api_token
    (evidence_request trace_id correlation_id challenge query_digest response_digest))
    fun reply => do
  let graph ← Prog.ofExcept (agent_reply reply)
  Prog.rejectIf (graph.trace_id != trace_id || graph.correlation_id != correlation_id ||
    graph.query_digest != query_digest || graph.response_digest != response_digest) .graphBinding
  .op .unix_time fun now => do
  Prog.ofExcept ((validate_graph P config.mode.policy issuer_keys graph challenge now).mapError
    .evidence)
  .op .unix_time fun now => validate_local_registry config graph now

/-! ## §4. Attempts. -/

/-- One turn of the loop, with the transaction id it runs under: the response with the
client's transaction id, or nothing. -/
def attempt (query : List UInt8) (upstream : Upstream) (id : UInt16) :
    WrapperProg (Option (List UInt8)) := do
  let forwarded_query := with_transaction_id (to_be_bytes id) query
  let correlation_id ← Prog.ofExcept
    ((P.dns_correlation_id forwarded_query).mapError .evidence)
  .op (.random_hex 16) fun trace_id =>
  .op .unix_time fun registered_at =>
  .op (.register_query_context trace_id correlation_id (P.dns_wire_digest query) registered_at
    (i64_saturating_add registered_at ((i64_try_from (context_ttl config)).getD I64_MAX)))
    fun registered => do
  Prog.ofExcept registered
  .op (.query_upstream forwarded_query upstream) fun reply =>
  match reply with
  | .failed _ => .ret none
  | .elapsed => .ret none
  | .response response =>
    if valid_response forwarded_query response then do
      let verdict ← (verify_response P config issuer_keys trace_id correlation_id
        (P.dns_wire_digest query) (P.dns_wire_digest response)).result
      match verdict with
      | .ok () => .ret (some (with_transaction_id (query.take 2) response))
      | .error _ => .ret none
    else .ret none

/-- An attempt under a transaction id of its own, given back however it ends. -/
def try_upstream (query : List UInt8) (upstream : Upstream) :
    WrapperProg (Option (List UInt8)) :=
  .op .acquire_transaction_id fun acquired => do
  let id ← Prog.ofExcept acquired
  let released ← (attempt P config issuer_keys query upstream id).result
  .op (.drop_transaction_id id) fun _ => Prog.ofExcept released

/-- The loop over the upstreams. -/
def try_all (query : List UInt8) : List Upstream → WrapperProg (List UInt8)
  | [] => .fail .allUpstreamsFailed
  | upstream :: rest => do
    let released ← try_upstream P config issuer_keys query upstream
    match released with
    | some response => .ret response
    | none => try_all query rest

/-- Check the query, then try the upstreams. -/
def process_query_inner (query : List UInt8) : WrapperProg (List UInt8) := do
  Prog.ofExcept (validate_query query)
  try_all P config issuer_keys query config.upstreams

/-- `process_query`: an error becomes SERVFAIL. -/
def process_query (query : List UInt8) : WrapperProg (List UInt8) := do
  let result ← (process_query_inner P config issuer_keys query).result
  match result with
  | .ok response => .ret response
  | .error _ => .ret (make_servfail query)

/-! ## §5. What an attempt that releases a response has done. -/

/-- What one verification was given, in the order it asked. -/
structure Verification where
  challenge : String
  graph : QueryEvidenceGraphV2
  validated_at : Int
  checked_at : Int
  last_success : Int
  /-- What the local store had for each node of the graph. -/
  records : List EvidenceStore.IdentityRecord

namespace Verification

variable (trace_id correlation_id query_digest response_digest : String) (v : Verification)

/-- The lookups of the nodes, in order. -/
def lookups (nodes : List EvidenceNodeV2) (records : List EvidenceStore.IdentityRecord) :
    List WrapperEvent :=
  List.zipWith (fun node record => ⟨.get_identity node.identity.server_id, .ok (some record)⟩)
    nodes records

/-- The operations of a verification, in order. -/
def events : List WrapperEvent :=
  [⟨.acquire_verification, true⟩,
    ⟨.random_hex 32, v.challenge⟩,
    ⟨.post_evidence_graph (evidence_url config) config.agent_api_token
      (evidence_request trace_id correlation_id v.challenge query_digest response_digest),
      .body v.graph⟩,
    ⟨.unix_time, v.validated_at⟩,
    ⟨.unix_time, v.checked_at⟩,
    ⟨.registry_last_success_epoch, .ok v.last_success⟩] ++ lookups v.graph.nodes v.records

/-- The graph is the one asked for, is accepted, and agrees with the local store. -/
structure Accepted : Prop where
  trace : v.graph.trace_id = trace_id
  correlation : v.graph.correlation_id = correlation_id
  query : v.graph.query_digest = query_digest
  response : v.graph.response_digest = response_digest
  valid : validate_graph P config.mode.policy issuer_keys v.graph v.challenge v.validated_at =
    .ok ()
  fresh : registry_is_fresh v.last_success v.checked_at config.registry_max_staleness_seconds =
    true
  known : List.Forall₂ (fun node record => matches_local node record = true) v.graph.nodes
    v.records

end Verification

/-- One attempt: what was chosen for it, and what came back. -/
structure Attempt where
  upstream : Upstream
  transaction_id : UInt16
  trace_id : String
  correlation_id : String
  registered_at : Int
  response : List UInt8
  verification : Verification

namespace Attempt

variable (query : List UInt8) (a : Attempt)

/-- The query as it was sent to the upstream. -/
def forwarded_query : List UInt8 := with_transaction_id (to_be_bytes a.transaction_id) query

/-- All that an attempt with a verified response did, in order. -/
def events : List WrapperEvent :=
  [⟨.acquire_transaction_id, .ok a.transaction_id⟩,
    ⟨.random_hex 16, a.trace_id⟩,
    ⟨.unix_time, a.registered_at⟩,
    ⟨.register_query_context a.trace_id a.correlation_id (P.dns_wire_digest query) a.registered_at
      (i64_saturating_add a.registered_at ((i64_try_from (context_ttl config)).getD I64_MAX)),
      .ok ()⟩,
    ⟨.query_upstream (a.forwarded_query query) a.upstream, .response a.response⟩] ++
    a.verification.events config a.trace_id a.correlation_id (P.dns_wire_digest query)
      (P.dns_wire_digest a.response) ++
    [⟨.drop_transaction_id a.transaction_id, ()⟩]

/-- The upstream answered the query it was sent, and the answer is verified. -/
structure Verified : Prop where
  correlated : P.dns_correlation_id (a.forwarded_query query) = .ok a.correlation_id
  answers : valid_response (a.forwarded_query query) a.response = true
  accepted : a.verification.Accepted P config issuer_keys a.trace_id a.correlation_id
    (P.dns_wire_digest query) (P.dns_wire_digest a.response)

end Attempt

section Executions

variable {P : Platform} {config : WrapperConfig} {issuer_keys : IssuerKeyRegistry}
variable {τ : List WrapperEvent} {query response : List UInt8} {upstream : Upstream}

/-- Each node was looked up and is the one of the local snapshot. -/
theorem exec_validate_local_nodes {nodes : List EvidenceNodeV2} :
    ∀ {τ : List WrapperEvent}, Prog.Exec (validate_local_nodes nodes) τ (.ok ()) →
      ∃ records, τ = Verification.lookups nodes records ∧
        List.Forall₂ (fun node record => matches_local node record = true) nodes records := by
  induction nodes with
  | nil =>
    intro τ h
    exact ⟨[], (Prog.exec_ret_ok.mp h).1, .nil⟩
  | cons node rest ih =>
    intro τ h
    obtain ⟨answer, τ', heq, hk⟩ := Prog.exec_op.mp h
    obtain ⟨found, hfound, hk⟩ := Prog.exec_ofExcept_bind.mp hk
    obtain ⟨record, hrecord, hk⟩ := Prog.exec_okOr_bind.mp hk
    obtain ⟨hsame, hk⟩ := Prog.exec_rejectIf_bind.mp hk
    obtain ⟨records, hlookups, hknown⟩ := ih hk
    refine ⟨record :: records, ?_, .cons (by simpa using hsame) hknown⟩
    rw [heq, hlookups, hfound, hrecord]
    rfl

/-- A verification that succeeded was given a graph for this very response, between its
own challenge and its own lookups. -/
theorem exec_verify_response {trace_id correlation_id query_digest response_digest : String}
    (h : Prog.Exec (verify_response P config issuer_keys trace_id correlation_id query_digest
      response_digest) τ (.ok ())) :
    ∃ v : Verification,
      τ = v.events config trace_id correlation_id query_digest response_digest ∧
        v.Accepted P config issuer_keys trace_id correlation_id query_digest response_digest := by
  obtain ⟨acquired, τ₁, heq₁, h⟩ := Prog.exec_op.mp h
  obtain ⟨hacquired, h⟩ := Prog.exec_rejectIf_bind.mp h
  obtain ⟨challenge, τ₂, heq₂, h⟩ := Prog.exec_op.mp h
  obtain ⟨reply, τ₃, heq₃, h⟩ := Prog.exec_op.mp h
  obtain ⟨graph, hgraph, h⟩ := Prog.exec_ofExcept_bind.mp h
  obtain ⟨hbinding, h⟩ := Prog.exec_rejectIf_bind.mp h
  obtain ⟨validated_at, τ₄, heq₄, h⟩ := Prog.exec_op.mp h
  obtain ⟨_, hvalid, h⟩ := Prog.exec_ofExcept_bind.mp h
  obtain ⟨checked_at, τ₅, heq₅, h⟩ := Prog.exec_op.mp h
  obtain ⟨heartbeat, τ₆, heq₆, h⟩ := Prog.exec_op.mp h
  obtain ⟨last_success, hlast, h⟩ := Prog.exec_ofExcept_bind.mp h
  obtain ⟨hfresh, h⟩ := Prog.exec_rejectIf_bind.mp h
  obtain ⟨records, hlookups, hknown⟩ := exec_validate_local_nodes h
  -- only a body is taken for a graph
  have hreply : reply = .body graph := by
    cases reply with
    | body found => exact congrArg AgentReply.body (Except.ok.inj hgraph)
    | refused status detail => cases hgraph
    | unreadable error => cases hgraph
    | failed text => cases hgraph
    | elapsed => cases hgraph
  have hacquired : acquired = true := by simpa using hacquired
  rw [Bool.or_eq_false_iff, Bool.or_eq_false_iff, Bool.or_eq_false_iff, bne_eq_false_iff_eq,
    bne_eq_false_iff_eq, bne_eq_false_iff_eq, bne_eq_false_iff_eq] at hbinding
  obtain ⟨⟨⟨htrace, hcorrelation⟩, hquery⟩, hresponse⟩ := hbinding
  refine ⟨⟨challenge, graph, validated_at, checked_at, last_success, records⟩, ?_, ?_⟩
  · rw [heq₁, heq₂, heq₃, heq₄, heq₅, heq₆, hlookups, hacquired, hreply, hlast]
    rfl
  · exact ⟨htrace, hcorrelation, hquery, hresponse, mapError_eq_ok.mp hvalid,
      by simpa using hfresh, hknown⟩

/-- An attempt that releases a response has verified that response. -/
theorem exec_try_upstream {bytes : List UInt8}
    (h : Prog.Exec (try_upstream P config issuer_keys query upstream) τ (.ok (some bytes))) :
    ∃ a : Attempt, a.upstream = upstream ∧ τ = a.events P config query ∧
      a.Verified P config issuer_keys query ∧
      bytes = with_transaction_id (query.take 2) a.response := by
  obtain ⟨acquired, τ₁, heq₁, h⟩ := Prog.exec_op.mp h
  obtain ⟨id, hid, h⟩ := Prog.exec_ofExcept_bind.mp h
  obtain ⟨released, τ₂, τ₃, heq₂, hattempt, h⟩ := Prog.exec_result_bind.mp h
  obtain ⟨_, τ₄, heq₃, h⟩ := Prog.exec_op.mp h
  obtain ⟨hnil, hreleased⟩ := Prog.exec_ofExcept_ok.mp h
  rw [hreleased] at hattempt
  -- the attempt itself
  obtain ⟨correlation_id, hcorrelation, h⟩ := Prog.exec_ofExcept_bind.mp hattempt
  obtain ⟨trace_id, τ₅, heq₄, h⟩ := Prog.exec_op.mp h
  obtain ⟨registered_at, τ₆, heq₅, h⟩ := Prog.exec_op.mp h
  obtain ⟨registered, τ₇, heq₆, h⟩ := Prog.exec_op.mp h
  obtain ⟨_, hregistered, h⟩ := Prog.exec_ofExcept_bind.mp h
  obtain ⟨reply, τ₈, heq₇, h⟩ := Prog.exec_op.mp h
  cases reply with
  | failed error => cases (Prog.exec_ret_ok.mp h).2
  | elapsed => cases (Prog.exec_ret_ok.mp h).2
  | response response =>
    simp only at h
    split at h
    · rename_i hanswers
      obtain ⟨verdict, τ₉, τ₁₀, heq₈, hverify, h⟩ := Prog.exec_result_bind.mp h
      cases verdict with
      | error error => cases (Prog.exec_ret_ok.mp h).2
      | ok _ =>
        obtain ⟨hdone, hbytes⟩ := Prog.exec_ret_ok.mp h
        obtain ⟨v, hevents, haccepted⟩ := exec_verify_response hverify
        refine ⟨⟨upstream, id, trace_id, correlation_id, registered_at, response, v⟩, rfl, ?_,
          ⟨mapError_eq_ok.mp hcorrelation, hanswers, haccepted⟩, (Option.some.inj hbytes).symm⟩
        rw [heq₁, heq₂, heq₃, heq₄, heq₅, heq₆, heq₇, heq₈, hevents, hdone, hnil, hid, hregistered]
        simp only [Attempt.events, List.cons_append, List.nil_append, List.append_nil]
        rfl
    · cases (Prog.exec_ret_ok.mp h).2

/-- The loop releases what one of its attempts has verified, and then does nothing more. -/
theorem exec_try_all {upstreams : List Upstream} {bytes : List UInt8} :
    ∀ {τ : List WrapperEvent}, Prog.Exec (try_all P config issuer_keys query upstreams) τ
      (.ok bytes) →
        ∃ (before : List WrapperEvent) (a : Attempt), τ = before ++ a.events P config query ∧
          a.upstream ∈ upstreams ∧ a.Verified P config issuer_keys query ∧
          bytes = with_transaction_id (query.take 2) a.response := by
  induction upstreams with
  | nil =>
    intro τ h
    exact absurd h Prog.exec_fail_ok
  | cons upstream rest ih =>
    intro τ h
    obtain ⟨released, τ₁, τ₂, heq, hfirst, h⟩ := Prog.exec_bind_ok.mp h
    cases released with
    | some response =>
      obtain ⟨hnil, hbytes⟩ := Prog.exec_ret_ok.mp h
      obtain ⟨a, hupstream, hevents, hverified, hreleased⟩ := exec_try_upstream hfirst
      refine ⟨[], a, ?_, ?_, hverified, hbytes.symm.trans hreleased⟩
      · rw [heq, hnil, hevents, List.append_nil, List.nil_append]
      · rw [hupstream]
        exact List.mem_cons_self
    | none =>
      obtain ⟨before, a, hevents, hupstream, hverified, hreleased⟩ := ih h
      refine ⟨τ₁ ++ before, a, ?_, List.mem_cons_of_mem _ hupstream, hverified, hreleased⟩
      rw [heq, hevents, List.append_assoc]

/-- What is released has the digest the graph is about, and so has what was forwarded. -/
theorem Attempt.Verified.digests {a : Attempt} (h : a.Verified P config issuer_keys query)
    (hquery : validate_query query = .ok ()) :
    P.dns_wire_digest (with_transaction_id (query.take 2) a.response) =
        a.verification.graph.response_digest ∧
      P.dns_wire_digest (a.forwarded_query query) = a.verification.graph.query_digest := by
  have hlength := validate_query_length hquery
  have hresponse := valid_response_length h.answers
  rw [h.accepted.response, h.accepted.query]
  constructor
  · refine with_transaction_id_digest ?_ (by omega)
    rw [List.length_take]
    omega
  · exact with_transaction_id_digest rfl (by omega)

/-- Every run of a query ends with an answer: the SERVFAIL of the query, or the response of
a configured upstream that the last attempt has verified, under the client's transaction
id. -/
theorem only_verified_released {x : Except WrapperError (List UInt8)}
    (h : Prog.Exec (process_query P config issuer_keys query) τ x) :
    ∃ bytes, x = .ok bytes ∧ (bytes = make_servfail query ∨
      ∃ (before : List WrapperEvent) (a : Attempt), τ = before ++ a.events P config query ∧
        a.upstream ∈ config.upstreams ∧ a.Verified P config issuer_keys query ∧
        bytes = with_transaction_id (query.take 2) a.response) := by
  obtain ⟨result, τ₁, τ₂, heq, hinner, h⟩ := Prog.exec_result_bind.mp h
  cases result with
  | error error =>
    cases h
    exact ⟨_, rfl, Or.inl rfl⟩
  | ok response =>
    cases h
    obtain ⟨_, hquery, hall⟩ := Prog.exec_ofExcept_bind.mp hinner
    obtain ⟨before, a, hevents, hreleased⟩ := exec_try_all hall
    refine ⟨response, rfl, Or.inr ⟨before, a, ?_, hreleased⟩⟩
    rw [heq, hevents, List.append_nil]

end Executions

/-! ## §6. A released answer. -/

/-- A wrapper with one upstream. -/
def answered_config : WrapperConfig where
  mode := .publicHybrid
  agent_url := "http://127.0.0.1:8080/"
  agent_api_token := "token"
  upstreams := [⟨"192.0.2.1:53", .udp⟩]
  upstream_timeout := 1000000000
  agent_timeout := 1000000000
  registry_max_staleness_seconds := 15

/-- The platform of the run, with its one signature. -/
def answered_platform : Platform :=
  (Agent.lab_recording wire_digests
    [(Agent.agent_key_a, "\x7b\"cache_provenance\"",
      "LHG2qmMo84+nPboUtYThmaYqGwvDJoFuoGOzziFZb+6B5wjdCWkreQhAKhGwPxxoR4mcksG5zuvwSpcyiRC0Dw==")]).platform

/-- The request for the answer, under the two random texts of the run. -/
def answered_request : Agent.EvidenceGraphRequest :=
  evidence_request (String.ofList (List.replicate 32 'a'))
    "0xba74f72bb38fc47df9524dd8705dd8e57456bf357b1888ec486e50c385ecd905"
    (String.ofList (List.replicate 64 'b'))
    (answered_platform.dns_wire_digest (query_wire 5))
    (answered_platform.dns_wire_digest (answer_wire 7))

/-- `resolver-a` has answered from its cache. -/
def answered_graph : QueryEvidenceGraphV2 :=
  let unsigned : QueryEvidenceGraphV2 :=
    { Agent.resolved_graph Agent.config_a answered_request 1750000000
        (Agent.initial_assembly Agent.resolver_a []) with
      cache_provenance := some ⟨digest_of '9', false, 1749999990, 1750000300, 1900000000, 10⟩
      terminal_node_ids := ["resolver-a"] }
  { unsigned with
    signature := (answered_platform.sign_ed25519 unsigned.to_value
      Agent.config_a.private_key_b64).toOption }

/-- What everything else answers in the run. -/
def answered_by : Unit → (op : WrapperOp) → WrapperRes op × Unit
  | _, .acquire_transaction_id => (.ok 7, ())
  | _, .drop_transaction_id _ => ((), ())
  | _, .random_hex length =>
    (if length = 16 then answered_request.trace_id else answered_request.challenge, ())
  | _, .unix_time => (1750000000, ())
  | _, .register_query_context _ _ _ _ _ => (.ok (), ())
  | _, .query_upstream _ _ => (.response (answer_wire 7), ())
  | _, .acquire_verification => (true, ())
  | _, .post_evidence_graph _ _ _ => (.body answered_graph, ())
  | _, .registry_last_success_epoch => (.ok 1750000000, ())
  | _, .get_identity _ => (.ok (some Agent.resolver_a), ())

/-- The query under the client's transaction id 5, forwarded under 7. -/
def answered_run : List WrapperEvent × Except WrapperError (List UInt8) × Unit :=
  (process_query answered_platform answered_config Agent.lab_issuer_keys (query_wire 5)).trace
    answered_by ()

theorem answered_run_released : answered_run.2.1.toOption = some (answer_wire 5) := by
  decide +kernel

theorem answered_run_verified : ∃ (before : List WrapperEvent) (a : Attempt),
    answered_run.1 = before ++ a.events answered_platform answered_config (query_wire 5) ∧
      a.Verified answered_platform answered_config Agent.lab_issuer_keys (query_wire 5) ∧
      answer_wire 5 = with_transaction_id [0, 5] a.response := by
  obtain ⟨bytes, hbytes, hanswer⟩ := only_verified_released (Prog.exec_trace answered_by
    (process_query answered_platform answered_config Agent.lab_issuer_keys (query_wire 5)) ())
  have hreleased : bytes = answer_wire 5 := by
    have hoption := answered_run_released
    unfold answered_run at hoption
    rw [hbytes] at hoption
    exact Option.some.inj hoption
  rw [hreleased] at hanswer
  rcases hanswer with hservfail | hverified
  · exact absurd hservfail (by decide)
  · obtain ⟨before, a, hevents, _, hverified, hresponse⟩ := hverified
    exact ⟨before, a, hevents, hverified, hresponse⟩

end ResolverIdentity.Wrapper
