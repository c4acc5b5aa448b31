/-
  ResolverIdentity.Agent.Requests: what the Agent is asked for and checks first.

  Requests, errors, settings and the two field checks of `ri-agent/src/lib.rs`
  and `ri-agent/src/main.rs`.  Lengths are those of the UTF-8 text.

  Main results:
    * `validate_trace_event_window`: an accepted event lies in the ingestion window;
    * `Settings.default_admitted`: the defaults pass their own check.
-/
import ResolverIdentity.Core.Policy
import ResolverIdentity.Store.Traces

namespace ResolverIdentity.Agent

open Library Store

/-! ## §1. Requests, errors, settings. -/

/-- What a wrapper or another Agent asks for. -/
structure EvidenceGraphRequest where
  trace_id : String
  correlation_id : String
  challenge : String
  query_digest : String
  response_digest : String
  visited_server_ids : List String
  deriving DecidableEq

/-- Which answer another Agent wants attested. -/
structure ResponseAttestationRequest where
  trace_id : String
  correlation_id : String
  challenge : String
  query_digest : String
  response_digest : String
  endpoint : DnsEndpoint
  deriving DecidableEq

/-- The errors of the Agent, by the status they become. -/
inductive AgentError where
  | invalidRequest (text : String)
  | unauthorized (text : String)
  | evidenceUnavailable (text : String)
  | downstream (text : String)
  | store (error : StoreError)
  | validation (error : EvidenceValidationError)
  | serialization (text : String)
  | http (text : String)
  | blockingTask (text : String)
  deriving DecidableEq

/-- The settings a request handler reads. -/
structure AgentConfig where
  server_id : String
  private_key_b64 : String
  key_id : String
  mode : VerificationMode
  max_age_seconds : Int
  trace_wait_millis : Nat
  max_cache_ttl_seconds : Int
  registry_max_staleness_seconds : Int

/-- The limits `Settings::from_env` reads. -/
structure Settings where
  max_age_seconds : Int
  trace_wait_millis : Nat
  max_cache_ttl_seconds : Int
  registry_max_staleness_seconds : Int
  trace_retention_seconds : Int
  http_timeout_millis : Nat
  max_concurrent_requests : Nat
  max_request_body_bytes : Nat

/-- The values of unset variables. -/
def Settings.default : Settings where
  max_age_seconds := 30
  trace_wait_millis := 250
  max_cache_ttl_seconds := 3600
  registry_max_staleness_seconds := 15
  trace_retention_seconds := 3600
  http_timeout_millis := 750
  max_concurrent_requests := 512
  max_request_body_bytes := 4 * 1024 * 1024

/-- The limits `Settings::from_env` lets pass. -/
def Settings.admitted (settings : Settings) : Bool :=
  !(!(1 ≤ settings.max_age_seconds && settings.max_age_seconds ≤ 60) ||
    settings.trace_wait_millis = 0 ||
    settings.max_cache_ttl_seconds ≤ 0 ||
    settings.registry_max_staleness_seconds ≤ 0 ||
    settings.trace_retention_seconds < settings.max_age_seconds ||
    settings.http_timeout_millis = 0 ||
    settings.max_concurrent_requests = 0 ||
    settings.max_request_body_bytes < 1024)

theorem Settings.default_admitted : Settings.default.admitted = true := by decide

/-! ## §2. Field checks. -/

/-- `0x` and 64 hexadecimal digits. -/
def is_digest (value : String) : Bool :=
  value.utf8ByteSize = 66 && is_hex_text value

/-- `is_some_and(|value| !is_digest(value))`. -/
def malformed_digest (value : Option String) : Bool := value.any (fun digest => !is_digest digest)

/-- `is_none_or(|value| !is_digest(value))`. -/
def no_digest (value : Option String) : Bool := value.all (fun digest => !is_digest digest)

/-- `is_none_or(|attempt| attempt == 0)`. -/
def no_attempt (attempt : Option Nat) : Bool := attempt.all (fun attempt => attempt = 0)

/-- The fields every request has, checked in order. -/
def validate_request (trace_id correlation_id challenge query_digest response_digest : String) :
    Except AgentError Unit := do
  rejectIf (trace_id.isEmpty || 256 < trace_id.utf8ByteSize)
    (.invalidRequest "trace_id length is invalid")
  rejectIf (!is_digest correlation_id) (.invalidRequest "correlation_id must be bytes32 hex")
  rejectIf (!(32 ≤ challenge.utf8ByteSize && challenge.utf8ByteSize ≤ 256))
    (.invalidRequest "challenge must contain 32 to 256 bytes")
  rejectIf (!is_digest query_digest || !is_digest response_digest)
    (.invalidRequest "query and response digests must be bytes32 hex")

/-- What an event must carry for its kind. -/
def check_event_kind (event : TraceEventV2) : Except AgentError Unit :=
  match event.kind with
  | .upstreamQuery =>
    rejectIf (event.target_endpoint.isNone || event.target_correlation_id.isNone ||
        no_attempt event.attempt || event.response_digest.isSome)
      (.invalidRequest "upstream query requires endpoint, target correlation and attempt")
  | .resolverQuery | .authorityQuery =>
    rejectIf (event.target_endpoint.isNone || event.target_correlation_id.isNone ||
        event.response_digest.isNone)
      (.invalidRequest
        "outbound trace event requires endpoint, target correlation and response")
  | .upstreamResponse =>
    rejectIf (event.target_endpoint.isNone || event.target_correlation_id.isNone ||
        no_attempt event.attempt || event.response_digest.isNone)
      (.invalidRequest
        "upstream response requires endpoint, target correlation, attempt and response")
  | .resolverResponse | .authorityResponse =>
    rejectIf (event.target_endpoint.isNone || event.response_digest.isNone ||
        no_attempt event.attempt)
      (.invalidRequest "response trace event requires endpoint and response digest")
  | .cacheHit =>
    rejectIf (event.response_digest.isNone || no_digest event.cache_object_digest ||
        event.ttl_expires_at.isNone || no_digest event.source_graph_digest)
      (.invalidRequest
        "cache-hit event requires response, cache object, TTL and source graph digest")
  | .upstreamTimeout | .upstreamRetry | .transportSwitch =>
    rejectIf (no_attempt event.attempt || event.failure_reason.isNone)
      (.invalidRequest "transport event requires attempt and reason")
  | .clientResponse =>
    rejectIf (event.response_digest.isNone ||
        (0 < event.sequence && no_digest event.cache_object_digest))
      (.invalidRequest
        "client response requires response and normalized cache object digests")
  | .resolutionFailed =>
    rejectIf event.failure_reason.isNone
      (.invalidRequest "resolution failure requires a reason")
  | .clientQuery => .ok ()

/-- `validate_trace_event` at the time `now`. -/
def validate_trace_event (event : TraceEventV2) (server_id : String) (now : Int) :
    Except AgentError Unit := do
  rejectIf (event.schema_version != TRACE_EVENT_V2)
    (.invalidRequest "trace event schema is unsupported")
  rejectIf (event.event_id.isEmpty || 256 < event.event_id.utf8ByteSize ||
      event.trace_id.isEmpty || 256 < event.trace_id.utf8ByteSize ||
      event.sequence = 0 || event.observer_server_id != server_id ||
      !is_digest event.correlation_id || malformed_digest event.target_correlation_id ||
      !is_digest event.query_digest || malformed_digest event.response_digest ||
      event.failure_reason.any (fun reason => reason.isEmpty || 128 < reason.utf8ByteSize))
    (.invalidRequest "trace event fields are invalid")
  rejectIf (event.observed_at < i64_wrap (now - 300) || i64_wrap (now + 5) < event.observed_at)
    (.invalidRequest "trace event timestamp is outside the ingestion window")
  rejectIf ((event.sequence = 1) != (event.kind = .clientQuery) ||
      (event.sequence = 1 && event.parent_event_id.isSome) ||
      (1 < event.sequence &&
        event.parent_event_id.all (fun parent => parent.isEmpty || 256 < parent.utf8ByteSize)))
    (.invalidRequest "trace event sequence and parent are inconsistent")
  check_event_kind event

/-- An event the Agent takes in is at most 300 seconds old. -/
theorem validate_trace_event_window {event : TraceEventV2} {server_id : String} {now : Int}
    (hlo : 0 ≤ now) (hhi : now ≤ I64_MAX)
    (h : validate_trace_event event server_id now = .ok ()) : now - 300 ≤ event.observed_at := by
  unfold validate_trace_event at h
  obtain ⟨_, _, h⟩ := bind_eq_ok.mp h
  obtain ⟨_, _, h⟩ := bind_eq_ok.mp h
  obtain ⟨_, hwindow, _⟩ := bind_eq_ok.mp h
  rw [rejectIf_eq_ok, Bool.or_eq_false_iff, decide_eq_false_iff_not] at hwindow
  have hwrap : i64_wrap (now - 300) = now - 300 := by
    refine i64_wrap_of_range ?_ ?_
    · unfold I64_MIN
      omega
    · omega
  have hwindow := hwindow.1
  rw [hwrap] at hwindow
  omega

/-- `ingest_trace_events`: the whole batch is checked before any of it is stored. -/
def ingest_trace_events (server_id : String) (events : List TraceEventV2) (now : Int)
    (s : EvidenceStore) : Except AgentError Unit × EvidenceStore :=
  if events.isEmpty || 1024 < events.length then
    (.error (.invalidRequest "trace batch must contain 1 to 1024 events"), s)
  else
    match events.forM (fun event => validate_trace_event event server_id now) with
    | .error error => (.error error, s)
    | .ok _ =>
      match s.put_trace_events events with
      | (.ok _, s') => (.ok (), s')
      | (.error error, s') => (.error (.store error), s')

end ResolverIdentity.Agent
