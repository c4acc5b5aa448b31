/-
  ResolverIdentity.Producer.Machine: the resolver's hook frames as trace events.

  `ri-knot-trace-producer/src/lib.rs`: one request context for each
  `(pid, request uid)`, made by BEGIN, driven by SEND, RESPONSE and FAILURE, and
  removed by FINISH or by `abort` when a connection drops.  What the code draws
  from outside during a call, a random trace id and the readings of the clock,
  comes with the frame (`Given`).  A call that fails keeps what it had already
  written to the machine.

  Main results:
    * `send_in_eq_ok`, `resolve_in_snd`, `finish_in_eq_ok`: what an accepted frame emits, and
      what it leaves of its context;
    * `send_in_error`: a refused SEND has written nothing.
-/
import ResolverIdentity.Core.DnsWire
import ResolverIdentity.Core.Integer
import Mathlib.Data.List.AList

namespace ResolverIdentity.Producer

open Library

/-! ## §1. Frames, contexts, the machine. -/

/-- The first word of every frame. -/
def HOOK_PROTOCOL : String := "RIK1"

/-- Longer lines are refused. -/
def MAX_HOOK_LINE_BYTES : Nat := 512

/-- Longer messages are refused. -/
def MAX_DNS_WIRE_BYTES : Nat := 65535

/-- `u32::MAX`. -/
def U32_MAX : Nat := 4294967295

/-- What tells the requests of one hook process apart. -/
structure RequestKey where
  pid : Nat
  request_uid : Nat
  deriving DecidableEq

/-- The kinds of frames. -/
inductive HookKind where
  | begin
  | send
  | response
  | failure
  | finish
  deriving DecidableEq

/-- One hook frame; an address is kept as `IpAddr` prints it. -/
structure HookFrame where
  kind : HookKind
  key : RequestKey
  transport : String
  address : Option String
  port : Nat
  dnssec_status : DnssecStatus
  reason : String
  wire : List UInt8
  deriving DecidableEq

/-- One query to an upstream server. -/
structure Attempt where
  number : Nat
  event_id : String
  endpoint : DnsEndpoint
  query_digest : String
  target_correlation_id : String
  transaction_id : Nat
  resolved : Bool
  deriving DecidableEq

/-- All that is known of a request in progress. -/
structure RequestContext where
  trace_id : String
  correlation_id : String
  query_digest : String
  sequence : Nat
  last_event_id : String
  last_endpoint : Option DnsEndpoint
  sent_upstream : Bool
  attempts : List Attempt
  deriving DecidableEq

/-- The contexts by request key. -/
abbrev Contexts := AList (fun _ : RequestKey => RequestContext)

/-- The requests in progress, and how many there may be. -/
structure TraceMachine where
  server_id : String
  max_contexts : Nat
  contexts : Contexts

/-- What a frame makes the machine do. -/
inductive MachineOutput where
  | events (events : List TraceEventV2)
  | terminal (events : List TraceEventV2)
  deriving DecidableEq

/-- The events to deliver. -/
def MachineOutput.emitted : MachineOutput → List TraceEventV2
  | .events list => list
  | .terminal list => list

/-- What a call reads from outside: the bytes of `rand` and the readings of the clock. -/
structure Given where
  random : Vector UInt8 16
  unix_time : Nat → Int

/-- `random_trace_id` -/
def random_trace_id (bytes : Vector UInt8 16) : String :=
  "knot-" ++ String.join (bytes.toList.map hex_byte)

/-- A fresh trace id. -/
def Given.trace_id (given : Given) : String := random_trace_id given.random

namespace TraceMachine

/-- `TraceMachine::new` -/
def new (server_id : String) (max_contexts : Nat) : Except String TraceMachine := do
  rejectIf (server_id.isEmpty || 256 < server_id.utf8ByteSize || max_contexts = 0)
    "Trace Producer configuration is invalid"
  .ok ⟨server_id, max_contexts, ∅⟩

/-- How many requests are in progress. -/
def active_contexts (m : TraceMachine) : Nat := m.contexts.entries.length

/-- A request whose connection ended is forgotten. -/
def abort (m : TraceMachine) (key : RequestKey) : TraceMachine :=
  { m with contexts := m.contexts.erase key }

/-- `contexts.insert(key, context)`, and what a write through `get_mut` leaves. -/
def store (m : TraceMachine) (key : RequestKey) (context : RequestContext) : TraceMachine :=
  { m with contexts := m.contexts.insert key context }

end TraceMachine

/-! ## §2. Wire checks. -/

/-- A message has a header and fits a TCP frame. -/
def validate_dns_wire (wire : List UInt8) : Except String Unit :=
  rejectIf (!(12 ≤ wire.length && wire.length ≤ MAX_DNS_WIRE_BYTES)) "DNS wire length is invalid"

/-- Its transaction id. -/
def dns_transaction_id (wire : List UInt8) : Except String Nat := do
  validate_dns_wire wire
  .ok (u16_at wire 0)

/-- The endpoint a frame names; `tls` is written `dot` in evidence. -/
def endpoint (frame : HookFrame) : Except String DnsEndpoint := do
  let address ← okOr frame.address "upstream hook frame has no IP address"
  rejectIf (frame.port = 0) "upstream hook frame has an invalid port"
  let transport ← match frame.transport with
    | "udp" | "tcp" => .ok frame.transport
    | "tls" => .ok "dot"
    | _ => .error "upstream hook frame has an invalid transport"
  .ok ⟨none, some address, some frame.port, transport, none, none, []⟩

/-- The loop of `skip_name`; the first argument counts the labels it may still read. -/
def skip_labels (wire : List UInt8) : Nat → Nat → Except String Nat
  | 0, _ => .error "DNS name contains too many labels"
  | labels + 1, offset => do
    let length ← okOr wire[offset]? "DNS name exceeds packet"
    let offset := offset + 1
    if length = 0 then .ok offset
    else if length &&& 0xc0 = 0xc0 then do
      rejectIf (wire[offset]?).isNone "DNS compression pointer exceeds packet"
      .ok (offset + 1)
    else do
      rejectIf (length &&& 0xc0 != 0 || 63 < length) "DNS label length is invalid"
      let offset := offset + length.toNat
      rejectIf (wire.length < offset) "DNS label exceeds packet"
      skip_labels wire labels offset

/-- `skip_name`: the 128th label is one too many. -/
def skip_name (wire : List UInt8) (offset : Nat) : Except String Nat := skip_labels wire 128 offset

/-- The question loop of `minimum_dns_ttl`. -/
def skip_packet_questions (wire : List UInt8) : Nat → Nat → Except String Nat
  | 0, offset => .ok offset
  | questions + 1, offset => do
    let offset ← skip_name wire offset
    rejectIf (wire.length < offset + 4) "DNS question exceeds packet"
    skip_packet_questions wire questions (offset + 4)

/-- The record loop: the smallest TTL but those of `OPT` records. -/
def minimum_ttl (wire : List UInt8) : Nat → Nat → Option Nat → Except String (Option Nat)
  | 0, _, minimum => .ok minimum
  | records + 1, offset, minimum => do
    let offset ← skip_name wire offset
    rejectIf (wire.length < offset + 10) "DNS resource record header exceeds packet"
    let rr_type := u16_at wire offset
    let ttl := u32_at wire (offset + 4)
    let rdlength := u16_at wire (offset + 8)
    let offset := offset + 10 + rdlength
    rejectIf (wire.length < offset) "DNS resource record exceeds packet"
    minimum_ttl wire records offset
      (if rr_type != 41 then some (minimum.elim ttl (fun current => min current ttl)) else minimum)

/-- The smallest TTL of its records. -/
def minimum_dns_ttl (wire : List UInt8) : Except String Nat := do
  validate_dns_wire wire
  let offset ← skip_packet_questions wire (u16_at wire 4) 12
  let minimum ← minimum_ttl wire (u16_at wire 6 + u16_at wire 8 + u16_at wire 10) offset none
  .ok (minimum.getD 0)

/-! ## §3. Headers. -/

/-- The separators of `split_ascii_whitespace`. -/
def is_ascii_whitespace (c : Char) : Bool :=
  c = ' ' || c = '\t' || c = '\n' || c = '\x0c' || c = '\r'

/-- `split_ascii_whitespace`: the non-empty pieces between separators. -/
def split_ascii_whitespace (text : String) : List String :=
  let pieces := (text.toList.splitOnP is_ascii_whitespace).filter (fun piece => !piece.isEmpty)
  pieces.map String.ofList

/-- `str::parse` of an unsigned type: an optional `+`, digits, no overflow. -/
def parse_unsigned (maximum : Nat) (text : String) : Option Nat :=
  let digits := match text.toList with
    | '+' :: rest => rest
    | digits => digits
  if digits.isEmpty || !digits.all Char.isDigit then none
  else
    let value := digits.foldl (fun value digit => value * 10 + (digit.toNat - '0'.toNat)) 0
    if value ≤ maximum then some value else none

/-- The kind a frame names. -/
def parse_kind (text : String) : Except String HookKind :=
  match text with
  | "BEGIN" => .ok .begin
  | "SEND" => .ok .send
  | "RESPONSE" => .ok .response
  | "FAILURE" => .ok .failure
  | "FINISH" => .ok .finish
  | _ => .error "Knot hook event kind is unknown"

/-- The verdict a frame names. -/
def parse_dnssec_status (text : String) : Except String DnssecStatus :=
  match text with
  | "secure" => .ok .secure
  | "insecure" => .ok .insecure
  | "bogus" => .ok .bogus
  | "indeterminate" => .ok .indeterminate
  | "not-applicable" => .ok .notApplicable
  | _ => .error "Knot hook DNSSEC status is invalid"

/-- `is_ascii_alphanumeric`, `-` or `_`. -/
def is_reason_byte (byte : UInt8) : Bool :=
  (48 ≤ byte && byte ≤ 57) || (65 ≤ byte && byte ≤ 90) || (97 ≤ byte && byte ≤ 122) ||
    byte = 45 || byte = 95

/-- `parse_hook_header`: the frame without its wire, and the length of that. -/
def parse_hook_header (P : Platform) (line : String) : Except String (HookFrame × Nat) := do
  rejectIf (MAX_HOOK_LINE_BYTES < line.utf8ByteSize) "Knot hook header exceeds the limit"
  match split_ascii_whitespace line with
  | [protocol, kind, pid, request_uid, transport, address, port, dnssec_status, reason, wire_len,
      terminator] => do
    rejectIf (protocol != HOOK_PROTOCOL) "Knot hook header is malformed"
    let kind ← parse_kind kind
    let pid ← okOr (parse_unsigned U32_MAX pid) "Knot hook pid is invalid"
    let request_uid ← okOr (parse_unsigned U32_MAX request_uid) "Knot request uid is invalid"
    let address ← if address = "-" then .ok none
      else (okOr (P.parse_ip address) "Knot hook address is invalid").map some
    let port ← okOr (parse_unsigned 65535 port) "Knot hook port is invalid"
    let dnssec_status ← parse_dnssec_status dnssec_status
    rejectIf (128 < reason.utf8ByteSize || !(as_bytes reason).all is_reason_byte)
      "Knot hook reason is invalid"
    let wire_len ← okOr (parse_unsigned U64_MAX wire_len) "Knot hook wire length is invalid"
    rejectIf (terminator != "-" || MAX_DNS_WIRE_BYTES < wire_len)
      "Knot hook frame terminator or wire length is invalid"
    .ok (⟨kind, ⟨pid, request_uid⟩, transport, address, port, dnssec_status, reason, []⟩, wire_len)
  | _ => .error "Knot hook header is malformed"

/-- A frame as the connection reads it: an admitted header and as many bytes as it says. -/
def Admitted (P : Platform) (frame : HookFrame) : Prop :=
  ∃ line header wire_len, parse_hook_header P line = .ok (header, wire_len) ∧
    frame.wire.length = wire_len ∧ frame = { header with wire := frame.wire }

/-! ## §4. Events. -/

section Events
variable (P : Platform)

/-- `event_id(trace_id, sequence)` -/
def event_id (trace_id : String) (sequence : Nat) : String :=
  P.sha256_hex (as_bytes ("knot-trace-event-v1:" ++ trace_id ++ ":" ++ toString sequence))

/-- What an event adds to the fields of its context. -/
structure EventFields where
  kind : TraceEventKind := .clientQuery
  endpoint : Option DnsEndpoint := none
  target_correlation_id : Option String := none
  attempt : Option Nat := none
  response_digest : Option String := none
  dnssec_status : DnssecStatus := .indeterminate
  failure_reason : Option String := none

/-- The next event of a context, under the parent the caller names. -/
def causal_event (server_id : String) (context : RequestContext) (parent_event_id : String)
    (fields : EventFields) (now : Int) : TraceEventV2 × RequestContext :=
  let sequence := u64_succ context.sequence
  let id := event_id P context.trace_id sequence
  ({ schema_version := TRACE_EVENT_V2
     event_id := id
     trace_id := context.trace_id
     sequence := sequence
     correlation_id := context.correlation_id
     parent_event_id := some parent_event_id
     kind := fields.kind
     observer_server_id := server_id
     target_server_id := none
     target_endpoint := fields.endpoint
     target_correlation_id := fields.target_correlation_id
     attempt := fields.attempt
     query_digest := context.query_digest
     response_digest := fields.response_digest
     cache_object_digest := none
     observed_at := now
     dnssec_status := fields.dnssec_status
     ttl_expires_at := none
     source_graph_digest := none
     failure_reason := fields.failure_reason },
    { context with sequence := sequence, last_event_id := id })

/-- The next event of a context, under its last one. -/
def next_event (server_id : String) (context : RequestContext) (fields : EventFields)
    (now : Int) : TraceEventV2 × RequestContext :=
  causal_event P server_id context context.last_event_id fields now

/-- `if frame.reason.is_empty() { default } else { reason }` -/
def reason_or (frame : HookFrame) (default : String) : String :=
  if frame.reason.isEmpty then default else frame.reason

/-! ## §5. BEGIN. -/

/-- The first event of a request and its context. -/
def first_event (server_id : String) (frame : HookFrame) (given : Given)
    (correlation_id : String) : TraceEventV2 × RequestContext :=
  let query_digest := P.dns_wire_digest frame.wire
  let id := event_id P given.trace_id 1
  ({ schema_version := TRACE_EVENT_V2
     event_id := id
     trace_id := given.trace_id
     sequence := 1
     correlation_id := correlation_id
     parent_event_id := none
     kind := .clientQuery
     observer_server_id := server_id
     target_server_id := none
     target_endpoint := none
     target_correlation_id := none
     attempt := none
     query_digest := query_digest
     response_digest := none
     cache_object_digest := none
     observed_at := given.unix_time 0
     dnssec_status := frame.dnssec_status
     ttl_expires_at := none
     source_graph_digest := none
     failure_reason := none },
    { trace_id := given.trace_id
      correlation_id := correlation_id
      query_digest := query_digest
      sequence := 1
      last_event_id := id
      last_endpoint := none
      sent_upstream := false
      attempts := [] })

/-- `BEGIN`: a new request, if there is room. -/
def TraceMachine.begin (m : TraceMachine) (frame : HookFrame) (given : Given) :
    Except String MachineOutput × TraceMachine :=
  match (do
    validate_dns_wire frame.wire
    rejectIf (m.max_contexts ≤ m.active_contexts) "Trace Producer context capacity reached"
    rejectIf (m.contexts.lookup frame.key).isSome
      "Knot request context was reused before termination"
    (P.dns_correlation_id frame.wire).mapError EvidenceValidationError.text :
      Except String String) with
  | .error error => (.error error, m)
  | .ok correlation_id =>
    let (event, context) := first_event P m.server_id frame given correlation_id
    (.ok (.events [event]), m.store frame.key context)

/-! ## §6. SEND. -/

/-- `u32::try_from(context.attempts.len())` and `checked_add(1)`. -/
def next_attempt (attempts : List Attempt) : Except String Nat := do
  rejectIf (U32_MAX ≤ attempts.length) "outbound attempt count overflow"
  .ok (attempts.length + 1)

/-- The retry, and the switch when the endpoint is another one. -/
def retry_events (server_id : String) (frame : HookFrame) (given : Given) (target : DnsEndpoint)
    (attempt : Nat) (context : RequestContext) : List TraceEventV2 × RequestContext :=
  if context.sent_upstream then
    let (retry, context) := next_event P server_id context
      { kind := .upstreamRetry, endpoint := some target, attempt := some attempt
        dnssec_status := frame.dnssec_status
        failure_reason := some (reason_or frame "retry") } (given.unix_time 0)
    if context.last_endpoint.any (fun previous => previous ≠ target) then
      let (switch, context) := next_event P server_id context
        { kind := .transportSwitch, endpoint := some target, attempt := some attempt
          dnssec_status := frame.dnssec_status
          failure_reason := some "endpoint-or-transport-changed" } (given.unix_time 1)
      ([retry, switch], context)
    else ([retry], context)
  else ([], context)

/-- SEND on its context, the endpoint read. -/
def send_in (server_id : String) (frame : HookFrame) (given : Given) (target : DnsEndpoint)
    (context : RequestContext) : Except String (List TraceEventV2) × RequestContext :=
  match next_attempt context.attempts with
  | .error error => (.error error, context)
  | .ok attempt =>
    let (retries, context) := retry_events P server_id frame given target attempt context
    match P.dns_correlation_id frame.wire with
    | .error error => (.error error.text, context)
    | .ok target_correlation_id =>
      let query_digest := P.dns_wire_digest frame.wire
      let (query_event, context) := next_event P server_id context
        { kind := .upstreamQuery, endpoint := some target
          target_correlation_id := some target_correlation_id, attempt := some attempt
          dnssec_status := frame.dnssec_status } (given.unix_time 2)
      match dns_transaction_id frame.wire with
      | .error error => (.error error, context)
      | .ok transaction_id =>
        (.ok (retries ++ [{ query_event with query_digest := query_digest }]),
          { context with
            attempts := context.attempts ++ [⟨attempt, query_event.event_id, target, query_digest,
              target_correlation_id, transaction_id, false⟩]
            last_endpoint := some target
            sent_upstream := true })

/-- `get_mut` of the frame's context, which the body then works on. -/
def TraceMachine.with_context (m : TraceMachine) (frame : HookFrame) (missing : String)
    (body : RequestContext → Except String (List TraceEventV2) × RequestContext) :
    Except String MachineOutput × TraceMachine :=
  match m.contexts.lookup frame.key with
  | none => (.error missing, m)
  | some context =>
    let (result, context) := body context
    (result.map .events, m.store frame.key context)

/-- `SEND`: a query to an upstream server. -/
def TraceMachine.send (m : TraceMachine) (frame : HookFrame) (given : Given) :
    Except String MachineOutput × TraceMachine :=
  match (do validate_dns_wire frame.wire; endpoint frame : Except String DnsEndpoint) with
  | .error error => (.error error, m)
  | .ok target => m.with_context frame "outbound send has no active Knot request context"
    (send_in P m.server_id frame given target)

/-! ## §7. RESPONSE and FAILURE. -/

/-- `iter().rposition(p)` -/
def rposition {α : Type} (p : α → Bool) : List α → Option Nat
  | [] => none
  | a :: rest =>
    match rposition p rest with
    | some index => some (index + 1)
    | none => if p a then some 0 else none

/-- The index found, with the item at it. -/
def pick {α : Type} (p : α → Bool) (l : List α) : Option (Nat × α) :=
  (rposition p l).bind (fun index => (l[index]?).map (fun a => (index, a)))

/-- `context.attempts[index].resolved = true` -/
def resolve (attempts : List Attempt) (index : Nat) : List Attempt :=
  attempts.modify index (fun attempt => { attempt with resolved := true })

/-- The event that resolves the attempt at the index, and the context after it. -/
def resolve_in (server_id : String) (context : RequestContext) (index : Nat) (attempt : Attempt)
    (fields : EventFields) (now : Int) : TraceEventV2 × RequestContext :=
  let (event, context) := causal_event P server_id context attempt.event_id
    { fields with
      endpoint := some attempt.endpoint
      target_correlation_id := some attempt.target_correlation_id
      attempt := some attempt.number } now
  ({ event with query_digest := attempt.query_digest },
    { context with attempts := resolve context.attempts index, last_event_id := event.event_id })

/-- RESPONSE on its context: the newest unresolved attempt with the observed endpoint and
transaction id. -/
def response_in (server_id : String) (frame : HookFrame) (given : Given)
    (observed_endpoint : DnsEndpoint) (response_transaction_id : Nat) (context : RequestContext) :
    Except String (List TraceEventV2) × RequestContext :=
  match pick (fun attempt => !attempt.resolved &&
      attempt.transaction_id = response_transaction_id &&
      attempt.endpoint = observed_endpoint) context.attempts with
  | none => (.error "upstream response does not match an unresolved outbound attempt", context)
  | some (index, attempt) =>
    let (event, context) := resolve_in P server_id context index attempt
      { kind := .upstreamResponse
        response_digest := some (P.dns_wire_digest frame.wire)
        dnssec_status := frame.dnssec_status } (given.unix_time 0)
    (.ok [event], context)

/-- `RESPONSE`: the answer to an open attempt. -/
def TraceMachine.response (m : TraceMachine) (frame : HookFrame) (given : Given) :
    Except String MachineOutput × TraceMachine :=
  match (do
    validate_dns_wire frame.wire
    let observed_endpoint ← endpoint frame
    let response_transaction_id ← dns_transaction_id frame.wire
    .ok (observed_endpoint, response_transaction_id) : Except String (DnsEndpoint × Nat)) with
  | .error error => (.error error, m)
  | .ok (observed_endpoint, response_transaction_id) =>
    m.with_context frame "upstream response has no active Knot request context"
      (response_in P m.server_id frame given observed_endpoint response_transaction_id)

/-- FAILURE on its context: the newest unresolved attempt, whatever the frame names. -/
def failure_in (server_id : String) (frame : HookFrame) (given : Given)
    (context : RequestContext) : Except String (List TraceEventV2) × RequestContext :=
  match pick (fun attempt => !attempt.resolved) context.attempts with
  | none => (.error "transport failure has no unresolved outbound attempt", context)
  | some (index, attempt) =>
    let (event, context) := resolve_in P server_id context index attempt
      { kind := .upstreamTimeout
        dnssec_status := frame.dnssec_status
        failure_reason := some (reason_or frame "transport-failure") } (given.unix_time 0)
    (.ok [event], context)

/-- `FAILURE`: the newest open attempt has failed. -/
def TraceMachine.failure (m : TraceMachine) (frame : HookFrame) (given : Given) :
    Except String MachineOutput × TraceMachine :=
  m.with_context frame "transport failure has no active Knot request context"
    (failure_in P m.server_id frame given)

/-! ## §8. FINISH. -/

/-- The cache hit of a successful request that sent nothing. -/
def cache_hit_event (server_id : String) (frame : HookFrame) (given : Given)
    (cache_object_digest : String) (context : RequestContext) :
    Except String (List TraceEventV2 × RequestContext) :=
  if !context.sent_upstream && frame.reason = "success" then do
    let ttl ← minimum_dns_ttl frame.wire
    let (event, context) := next_event P server_id context
      { kind := .cacheHit
        response_digest := some (P.dns_wire_digest frame.wire)
        dnssec_status := frame.dnssec_status } (given.unix_time 0)
    .ok ([{ event with
      ttl_expires_at := some (i64_saturating_add (given.unix_time 1) ttl)
      cache_object_digest := some cache_object_digest }], context)
  else .ok ([], context)

/-- FINISH on the context it removed. -/
def finish_in (server_id : String) (frame : HookFrame) (given : Given)
    (context : RequestContext) : Except String (List TraceEventV2) := do
  let cache_object_digest ←
    (P.dns_cache_object_digest frame.wire).mapError EvidenceValidationError.text
  let (hits, context) ← cache_hit_event P server_id frame given cache_object_digest context
  let failed := frame.reason != "success"
  let (event, _) := next_event P server_id context
    { kind := if failed then .resolutionFailed else .clientResponse
      response_digest := some (P.dns_wire_digest frame.wire)
      dnssec_status := frame.dnssec_status
      failure_reason := if failed then some (reason_or frame "resolver-failed") else none }
    (given.unix_time 2)
  .ok (hits ++ [if failed then event
    else { event with cache_object_digest := some cache_object_digest }])

/-- `FINISH`: the request is answered. -/
def TraceMachine.finish (m : TraceMachine) (frame : HookFrame) (given : Given) :
    Except String MachineOutput × TraceMachine :=
  match validate_dns_wire frame.wire with
  | .error error => (.error error, m)
  | .ok _ =>
    match m.contexts.lookup frame.key with
    | none => (.error "finish has no active Knot request context", m)
    | some context =>
      ((finish_in P m.server_id frame given context).map .terminal, m.abort frame.key)

/-- One frame, by its kind. -/
def TraceMachine.process (m : TraceMachine) (frame : HookFrame) (given : Given) :
    Except String MachineOutput × TraceMachine :=
  match frame.kind with
  | .begin => m.begin P frame given
  | .send => m.send P frame given
  | .response => m.response P frame given
  | .failure => m.failure P frame given
  | .finish => m.finish P frame given

/-! ## §9. What an accepted frame does to its context. -/

variable {P} {server_id : String} {frame : HookFrame} {given : Given}
  {context context' : RequestContext} {events : List TraceEventV2}

theorem new_eq_ok {m : TraceMachine} {max_contexts : Nat}
    (h : TraceMachine.new server_id max_contexts = .ok m) :
    m = ⟨server_id, max_contexts, ∅⟩ ∧ 0 < max_contexts := by
  obtain ⟨_, hchecks, h⟩ := bind_eq_ok.mp h
  simp only [rejectIf_eq_ok, Bool.or_eq_false_iff, decide_eq_false_iff_not] at hchecks
  exact ⟨(Except.ok.inj h).symm, Nat.pos_of_ne_zero hchecks.2⟩

theorem validate_dns_wire_eq_ok {wire : List UInt8} {u : Unit} :
    validate_dns_wire wire = .ok u ↔ 12 ≤ wire.length ∧ wire.length ≤ MAX_DNS_WIRE_BYTES := by
  unfold validate_dns_wire
  rw [rejectIf_eq_ok]
  simp

theorem rposition_eq_none {α : Type} {p : α → Bool} {l : List α} :
    rposition p l = none ↔ ∀ a ∈ l, p a = false := by
  induction l with
  | nil => simp [rposition]
  | cons b rest ih =>
    unfold rposition
    rw [List.forall_mem_cons]
    cases hrest : rposition p rest with
    | some i =>
      rw [hrest] at ih
      simpa using fun _ => ih
    | none =>
      rw [hrest] at ih
      have hall := ih.mp rfl
      by_cases hb : p b = true
      · simp [hb]
      · simpa [hb] using hall

/-- The index is that of the last item that passes. -/
theorem rposition_eq_some {α : Type} {p : α → Bool} {l : List α} {index : Nat}
    (h : rposition p l = some index) :
    ∃ pre a post, l = pre ++ a :: post ∧ pre.length = index ∧ p a = true ∧
      ∀ b ∈ post, p b = false := by
  induction l generalizing index with
  | nil => cases h
  | cons b rest ih =>
    unfold rposition at h
    cases hrest : rposition p rest with
    | some i =>
      rw [hrest] at h
      obtain rfl := Option.some.inj h
      obtain ⟨pre, a, post, hsplit, hlength, ha, hpost⟩ := ih hrest
      exact ⟨b :: pre, a, post, by rw [hsplit]; rfl, by rw [← hlength]; rfl, ha, hpost⟩
    | none =>
      rw [hrest] at h
      have h : (if p b then some 0 else none) = some index := h
      by_cases hb : p b = true
      · rw [if_pos hb] at h
        obtain rfl := Option.some.inj h
        exact ⟨[], b, rest, rfl, rfl, hb, rposition_eq_none.mp hrest⟩
      · rw [if_neg hb] at h
        cases h

theorem pick_eq_some {α : Type} {p : α → Bool} {l : List α} {index : Nat} {a : α}
    (h : pick p l = some (index, a)) :
    ∃ pre post, l = pre ++ a :: post ∧ pre.length = index ∧ p a = true ∧
      ∀ b ∈ post, p b = false := by
  obtain ⟨found, hfound, h⟩ := Option.bind_eq_some_iff.mp h
  obtain ⟨a', hget, hpair⟩ := Option.map_eq_some_iff.mp h
  obtain ⟨rfl, rfl⟩ := Prod.mk.inj hpair
  obtain ⟨pre, b, post, rfl, rfl, hb, hpost⟩ := rposition_eq_some hfound
  rw [List.getElem?_append_right (Nat.le_refl _), Nat.sub_self] at hget
  obtain rfl : b = a' := Option.some.inj hget
  exact ⟨pre, post, rfl, rfl, hb, hpost⟩

theorem resolve_split (pre : List Attempt) (attempt : Attempt) (post : List Attempt) :
    resolve (pre ++ attempt :: post) pre.length =
      pre ++ { attempt with resolved := true } :: post := by
  induction pre with
  | nil => rfl
  | cons b pre ih => exact congrArg (b :: ·) ih

/-- What an accepted SEND emits, and its context after it. -/
theorem send_in_eq_ok {target : DnsEndpoint}
    (h : send_in P server_id frame given target context = (.ok events, context')) :
    context.attempts.length < U32_MAX ∧
      ∃ target_correlation_id transaction_id,
        P.dns_correlation_id frame.wire = .ok target_correlation_id ∧
        dns_transaction_id frame.wire = .ok transaction_id ∧
        let retries := retry_events P server_id frame given target (context.attempts.length + 1)
          context
        let query := next_event P server_id retries.2
          { kind := .upstreamQuery, endpoint := some target
            target_correlation_id := some target_correlation_id
            attempt := some (context.attempts.length + 1)
            dnssec_status := frame.dnssec_status } (given.unix_time 2)
        events = retries.1 ++ [{ query.1 with query_digest := P.dns_wire_digest frame.wire }] ∧
        context' = { query.2 with
          attempts := retries.2.attempts ++ [⟨context.attempts.length + 1, query.1.event_id, target,
            P.dns_wire_digest frame.wire, target_correlation_id, transaction_id, false⟩]
          last_endpoint := some target
          sent_upstream := true } := by
  unfold send_in at h
  cases hattempt : next_attempt context.attempts with
  | error e =>
    rw [hattempt] at h
    cases (Prod.mk.inj h).1
  | ok attempt =>
    rw [hattempt] at h
    -- the attempt is the next one, and there is room for it
    have hbound : context.attempts.length < U32_MAX ∧ context.attempts.length + 1 = attempt := by
      obtain ⟨_, hroom, hnumber⟩ := bind_eq_ok.mp hattempt
      rw [rejectIf_eq_ok, decide_eq_false_iff_not, Nat.not_le] at hroom
      exact ⟨hroom, Except.ok.inj hnumber⟩
    obtain ⟨hroom, rfl⟩ := hbound
    cases hcorrelation : P.dns_correlation_id frame.wire with
    | error e =>
      rw [hcorrelation] at h
      cases (Prod.mk.inj h).1
    | ok target_correlation_id =>
      cases hid : dns_transaction_id frame.wire with
      | error e =>
        rw [hcorrelation, hid] at h
        cases (Prod.mk.inj h).1
      | ok transaction_id =>
        rw [hcorrelation, hid] at h
        obtain ⟨hevents, hcontext⟩ := Prod.mk.inj h
        exact ⟨hroom, target_correlation_id, transaction_id, rfl, rfl,
          (Except.ok.inj hevents).symm, hcontext.symm⟩

/-- A SEND whose wire has passed its check is refused before it writes. -/
theorem send_in_error {target : DnsEndpoint} {error : String} (hwire : 12 ≤ frame.wire.length)
    (hlong : frame.wire.length ≤ MAX_DNS_WIRE_BYTES)
    (h : send_in P server_id frame given target context = (.error error, context')) :
    context' = context := by
  unfold send_in at h
  cases hattempt : next_attempt context.attempts with
  | error e =>
    rw [hattempt] at h
    exact (Prod.mk.inj h).2.symm
  | ok attempt =>
    have hid : dns_transaction_id frame.wire = .ok (u16_at frame.wire 0) := by
      unfold dns_transaction_id
      rw [validate_dns_wire_eq_ok (u := ()) |>.mpr ⟨hwire, hlong⟩]
      rfl
    rw [hattempt, P.dns_correlation_id_eq_ok (Nat.le_trans (by decide) hwire), hid] at h
    cases (Prod.mk.inj h).1

/-- What resolving an attempt emits, and its context after it. -/
theorem resolve_in_snd (server_id : String) (context : RequestContext) (pre post : List Attempt)
    (attempt : Attempt) (fields : EventFields) (now : Int)
    (hattempts : context.attempts = pre ++ attempt :: post) :
    (resolve_in P server_id context pre.length attempt fields now).2 =
      { (causal_event P server_id context attempt.event_id fields now).2 with
        attempts := pre ++ { attempt with resolved := true } :: post } := by
  unfold resolve_in causal_event
  dsimp only
  rw [hattempts, resolve_split]

/-- A cache hit goes before the answer of a successful request that sent nothing. -/
theorem cache_hit_event_eq_ok {digest : String}
    (h : cache_hit_event P server_id frame given digest context = .ok (events, context')) :
    (¬ (context.sent_upstream = false ∧ frame.reason = "success") ∧ events = [] ∧
      context' = context) ∨
    context.sent_upstream = false ∧ frame.reason = "success" ∧ ∃ ttl,
      minimum_dns_ttl frame.wire = .ok ttl ∧
      let hit := next_event P server_id context
        { kind := .cacheHit
          response_digest := some (P.dns_wire_digest frame.wire)
          dnssec_status := frame.dnssec_status } (given.unix_time 0)
      events = [{ hit.1 with
        ttl_expires_at := some (i64_saturating_add (given.unix_time 1) ttl)
        cache_object_digest := some digest }] ∧ context' = hit.2 := by
  unfold cache_hit_event at h
  by_cases hhit : context.sent_upstream = false ∧ frame.reason = "success"
  · rw [if_pos (by simpa using hhit)] at h
    obtain ⟨ttl, httl, h⟩ := bind_eq_ok.mp h
    obtain ⟨hevents, hcontext⟩ := Prod.mk.inj (Except.ok.inj h)
    exact Or.inr ⟨hhit.1, hhit.2, ttl, httl, hevents.symm, hcontext.symm⟩
  · rw [if_neg (by simpa using hhit)] at h
    obtain ⟨hevents, hcontext⟩ := Prod.mk.inj (Except.ok.inj h)
    exact Or.inl ⟨hhit, hevents.symm, hcontext.symm⟩

/-- What an accepted FINISH emits. -/
theorem finish_in_eq_ok (h : finish_in P server_id frame given context = .ok events) :
    ∃ digest hits context', P.dns_cache_object_digest frame.wire = .ok digest ∧
      cache_hit_event P server_id frame given digest context = .ok (hits, context') ∧
      let last := (next_event P server_id context'
        { kind := if frame.reason != "success" then .resolutionFailed else .clientResponse
          response_digest := some (P.dns_wire_digest frame.wire)
          dnssec_status := frame.dnssec_status
          failure_reason := if frame.reason != "success" then
            some (reason_or frame "resolver-failed") else none } (given.unix_time 2)).1
      events = hits ++ [if frame.reason != "success" then last
        else { last with cache_object_digest := some digest }] := by
  unfold finish_in at h
  obtain ⟨digest, hdigest, h⟩ := bind_eq_ok.mp h
  obtain ⟨⟨hits, context'⟩, hhits, h⟩ := bind_eq_ok.mp h
  exact ⟨digest, hits, context', mapError_eq_ok.mp hdigest, hhits, (Except.ok.inj h).symm⟩

end Events

end ResolverIdentity.Producer
