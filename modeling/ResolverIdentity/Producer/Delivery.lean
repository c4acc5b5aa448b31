/-
  ResolverIdentity.Producer.Delivery: the producer's events at the spool and the Agent.

  The events of a run reach `TraceSpool::enqueue` and, enriched, the Agent's
  `validate_trace_event` and `put_trace_events`, each trace in the order it was
  emitted in and the traces interleaved in any way.

  Main results:
    * `chained_of_in_order`: whatever is delivered in order is chained;
    * `stream_accepted`: the spool takes the events of every trace that finds room, the
      Agent accepts each of them in its window, and the store takes every batch;
    * `full_spool_refuses`: a spool at its limit refuses the next event.
-/
import ResolverIdentity.Adapter.Intake
import ResolverIdentity.Producer.Attempts
import ResolverIdentity.Producer.Fields
import ResolverIdentity.Store.Ingestion

namespace ResolverIdentity.Producer

open Library Agent Adapter

variable {P : Platform} {server_id : String} {frame : HookFrame} {given : Given}
  {context context' : RequestContext} {events delivered : List TraceEventV2}
  {log : List Emitted} {event : TraceEventV2}

/-! ## §1. Delivery in order. -/

/-- Of every trace a first part, in the order of emission. -/
def InOrder (log : List Emitted) (delivered : List TraceEventV2) : Prop :=
  ∀ trace_id, under trace_id delivered <+: (of_trace trace_id log).map Emitted.event

/-- Traces are far shorter than SQLite's integers reach. -/
theorem Past.length_le (h : Past P server_id log) : ((log.length : Nat) : Int) ≤ I64_MAX := by
  have hbudget : ∀ {context : RequestContext} {length : Nat}, Budget context length →
      length ≤ 1 + 4 * U32_MAX := by
    intro context length hbudget
    have hresolved := context.attempts.countP_le_length (p := Attempt.resolved)
    have hattempts := hbudget.attempts
    have hevents := hbudget.events
    omega
  unfold I64_MAX
  unfold U32_MAX at hbudget
  cases h with
  | none => decide
  | «open» h =>
    have hlength := hbudget h.spine.2
    omega
  | finished h =>
    cases h with
    | @mk context log h frame given events _ _ hfinish =>
      have hlength := hbudget h.spine.2
      obtain ⟨_, hits, _, _, hhits, rfl⟩ := finish_in_eq_ok hfinish
      have hone : hits.length ≤ 1 := by
        rcases cache_hit_event_eq_ok hhits with ⟨_, rfl, _⟩ | ⟨_, _, _, _, rfl, _⟩
        · exact Nat.zero_le _
        · exact Nat.le_refl _
      simp only [List.length_append, List.length_map, List.length_singleton]
      omega

/-- The place of a delivered event in its trace. -/
theorem InOrder.split (h : InOrder log delivered) {pre post : List TraceEventV2}
    (hsplit : delivered = pre ++ event :: post) :
    ∃ rest, (of_trace event.trace_id log).map Emitted.event =
      under event.trace_id pre ++ event :: rest := by
  obtain ⟨rest, hrest⟩ := h event.trace_id
  have hunder : under event.trace_id delivered =
      under event.trace_id pre ++ event :: under event.trace_id post := by
    rw [hsplit, under_append]
    congr 1
    unfold under
    rw [List.filter_cons_of_pos (by simp)]
  refine ⟨under event.trace_id post ++ rest, ?_⟩
  rw [← hrest, hunder, List.append_assoc, List.cons_append]

section Run
variable {r : Recorder}

/-- A delivered event follows the delivered events of its trace. -/
theorem Traces.follows (htraces : Traces P server_id r) (h : InOrder r.log delivered)
    {pre post : List TraceEventV2} (hsplit : delivered = pre ++ event :: post) :
    ∃ correlation_id, Justified (Follows P server_id event.trace_id correlation_id)
      (under event.trace_id pre ++ [event]) := by
  obtain ⟨rest, hrest⟩ := h.split hsplit
  obtain ⟨trace_id, correlation_id, hplaces⟩ := (htraces.past_of_trace event.trace_id).follows
  rw [hrest] at hplaces
  have htrace : event.trace_id = trace_id := (hplaces _ event rest rfl).trace
  subst htrace
  refine ⟨correlation_id, ?_⟩
  rw [← List.singleton_append, ← List.append_assoc] at hplaces
  exact hplaces.of_prefix

/-- What is delivered was emitted. -/
theorem InOrder.emitted (h : InOrder log delivered) (hmem : event ∈ delivered) :
    ∃ frame, Emitted.mk frame event ∈ log := by
  obtain ⟨pre, post, hsplit⟩ := List.append_of_mem hmem
  obtain ⟨rest, hrest⟩ := h.split hsplit
  have hmap : event ∈ (of_trace event.trace_id log).map Emitted.event := by
    rw [hrest]
    exact List.mem_append_right _ List.mem_cons_self
  obtain ⟨emitted, hemitted, rfl⟩ := List.mem_map.mp hmap
  exact ⟨emitted.frame, (mem_of_trace.mp hemitted).1⟩

/-- Whatever is delivered in order is chained. -/
theorem chained_of_in_order (htraces : Traces P server_id r)
    (hcollision : NoCollision P (r.log.map Emitted.event)) (h : InOrder r.log delivered) :
    Chained delivered := by
  intro pre event post hsplit
  obtain ⟨correlation_id, hplaces⟩ := htraces.follows h hsplit
  have hplace := hplaces _ event [] rfl
  obtain ⟨rest, hrest⟩ := h.split hsplit
  constructor
  · -- the ids of two events are digests of their places, and these are different ones
    intro earlier hearlier hid
    obtain ⟨before, between, rfl⟩ := List.append_of_mem hearlier
    have hsplit' : delivered = before ++ earlier :: (between ++ event :: post) := by
      rw [hsplit, List.append_assoc, List.cons_append]
    obtain ⟨_, hearlier_places⟩ := htraces.follows h hsplit'
    have hearlier_place := hearlier_places _ earlier [] rfl
    have hevent : event ∈ delivered := hsplit ▸ List.mem_append_right _ List.mem_cons_self
    have hearlier : earlier ∈ delivered := hsplit' ▸ List.mem_append_right _ List.mem_cons_self
    obtain ⟨frame, hemitted⟩ := h.emitted hevent
    obtain ⟨frame', hemitted'⟩ := h.emitted hearlier
    obtain ⟨htrace, hsequence⟩ := hcollision earlier (List.mem_map_of_mem hemitted') event
      (List.mem_map_of_mem hemitted) (by rw [← hearlier_place.id, ← hplace.id, hid])
    rw [hearlier_place.sequence, hplace.sequence, htrace] at hsequence
    have hunder : under event.trace_id (before ++ earlier :: between) =
        under event.trace_id before ++ earlier :: under event.trace_id between := by
      rw [under_append]
      congr 1
      unfold under
      rw [List.filter_cons_of_pos (by simpa using htrace)]
    rw [hunder, List.length_append, List.length_cons] at hsequence
    omega
  · exact hplace.sequence
  · have hlength := (htraces.past_of_trace event.trace_id).length_le
    rw [← List.length_map (f := Emitted.event), hrest, List.length_append, List.length_cons]
      at hlength
    rw [hplace.sequence]
    omega
  · exact hplace.first
  · intro hne
    exact (hplace.parent hne).2
  · intro earlier hearlier
    exact not_or.mp (hplace.ongoing earlier hearlier)

/-! ## §2. The three components. -/

/-- Every frame in the log was an input. -/
theorem frames_of_run {m : TraceMachine} {inputs : List Input}
    (hrun : (producer P m).run inputs = some r) :
    ∀ emitted ∈ r.log, ∃ given, Input.hook emitted.frame given ∈ inputs := by
  refine Machine.run_induction (M := producer P m) (motive := fun inputs r =>
    ∀ emitted ∈ r.log, ∃ given, Input.hook emitted.frame given ∈ inputs) ?_ ?_ hrun
  · intro emitted hemitted
    cases hemitted
  · intro inputs r input r' _ ih hstep emitted hemitted
    obtain rfl : r.take P input = r' := Option.some.inj hstep
    have hold : emitted ∈ r.log → ∃ given, Input.hook emitted.frame given ∈ inputs ++ [input] := by
      intro hmem
      obtain ⟨given, hgiven⟩ := ih emitted hmem
      exact ⟨given, List.mem_append_left _ hgiven⟩
    cases input with
    | abort key => exact hold hemitted
    | hook frame given =>
      rcases take_hook (P := P) r frame given with ⟨output, m', _, heq⟩ | ⟨m', heq, _⟩
      · rw [heq] at hemitted
        rcases List.mem_append.mp hemitted with hmem | hnew
        · exact hold hmem
        · obtain ⟨event, _, rfl⟩ := List.mem_map.mp hnew
          exact ⟨given, List.mem_append_right _ (List.mem_singleton.mpr rfl)⟩
      · rw [heq] at hemitted
        exact hold hemitted

theorem place_enriched (source : TraceEventV2 → String) (event : TraceEventV2) :
    place (enriched source event) = place event := by
  unfold enriched
  split <;> rfl

/-- What becomes of the events of a run on their way. -/
structure AcceptedEndToEnd (server_id : String) (log : List Emitted) : Prop where
  /-- The spool takes the events of a trace when they find room, and only then. -/
  spooled : ∀ cfg max_events ls a, (adapter cfg max_events).run ls = some a →
    InOrder log (offered ls) → ∀ trace_id,
      ((adapter cfg max_events).Along (AcceptsTrace trace_id) ls ↔
        (adapter cfg max_events).Along (HasRoom max_events trace_id) ls)
  /-- The Agent accepts each of them at every time in whose window it is. -/
  validated : ∀ source delivered now, InOrder log delivered → ∀ event ∈ delivered,
    Sourced source event → InWindow now event →
      validate_trace_event (enriched source event) server_id now = .ok ()
  /-- The store takes them in batches of any size, whatever else is written in between. -/
  stored : ∀ source delivered s₀ ls s, InOrder log delivered →
    (Store.delivery s₀).run ls = some s → Store.sent ls = delivered.map (enriched source) →
    Store.Unknown (Store.sent ls) s₀ →
    (Store.delivery s₀).Along (Store.LeavesTraces (Store.sent ls)) ls →
      (Store.delivery s₀).Along Store.Stores ls

/-- The events of every run of the producer, delivered in order, are accepted by the spool while
it has room, by the Agent in their windows and by its store. -/
theorem stream_accepted {m : TraceMachine} {max_contexts : Nat}
    (hnew : TraceMachine.new server_id max_contexts = .ok m) {inputs : List Input}
    (hadmitted : ∀ frame given, Input.hook frame given ∈ inputs → Admitted P frame)
    (hrun : (producer P m).run inputs = some r) (hdistinct : DistinctTraceIds inputs)
    (hcollision : NoCollision P (r.log.map Emitted.event)) (hdigests : WellFormedDigests P) :
    AcceptedEndToEnd server_id r.log := by
  have htraces := (traces_of_run hnew hrun hdistinct).1
  constructor
  · intro cfg max_events ls a hadapter horder trace_id
    exact accepts_iff_room hadapter (chained_of_in_order htraces hcollision horder)
  · intro source delivered now horder event hevent hsource hwindow
    obtain ⟨pre, post, hsplit⟩ := List.append_of_mem hevent
    obtain ⟨correlation_id, hplaces⟩ := htraces.follows horder hsplit
    obtain ⟨frame, hemitted⟩ := horder.emitted hevent
    obtain ⟨given, hgiven⟩ := frames_of_run hrun _ hemitted
    have hfields := (htraces.past_of_trace event.trace_id).fields hdigests ⟨frame, event⟩
      (mem_of_trace.mpr ⟨hemitted, rfl⟩)
    exact validate_emitted hdigests hfields (admitted_reason (hadmitted frame given hgiven))
      hplaces hwindow hsource
  · intro source delivered s₀ ls s horder hdelivery hsent hunknown hleaves
    refine Store.stores_of_run hdelivery hunknown ?_ hleaves
    rw [hsent]
    exact (chained_of_in_order htraces hcollision horder).map (place_enriched source)

end Run

/-! ## §3. A run of two requests. -/

/-- All that was emitted, in the order of emission. -/
theorem in_order_all (log : List Emitted) : InOrder log (log.map Emitted.event) := by
  intro trace_id
  unfold under of_trace
  rw [List.filter_map]
  exact List.prefix_refl _

/-- SHA-256 of the event texts of two requests, and of their messages. -/
def relayed_digests : List (String × String) := [
    ("knot-trace-event-v1:knot-bbbbbbbbbbbbbbbbbbbbbbbbbbbbbbbb:1",
      "0xce38efae87c0ce803353ad6f2c49948450b1d67a679c711df59fc63d9c2c4bca"),
    ("knot-trace-event-v1:knot-bbbbbbbbbbbbbbbbbbbbbbbbbbbbbbbb:2",
      "0x64bf48702104321f040a1afaadcb13dd06d7a761d6dca04c56c4a82de636fbbb"),
    ("knot-trace-event-v1:knot-bbbbbbbbbbbbbbbbbbbbbbbbbbbbbbbb:3",
      "0x469a9a66e2b689878f935d1bfa41c74f19357d0b7be80cd43f07150fa1a4d53f")] ++
    recorded_hooks.digests

/-- The recorded platform with these digests, and one for every other text. -/
def hook_platform : Platform :=
  { recorded_hooks.platform with
    sha256_hex := fun bytes =>
      (relayed_digests.find? (fun entry => Recording.begins bytes entry.1)).elim (digest_of '0')
        Prod.snd }

theorem hook_platform_digests : WellFormedDigests hook_platform := by
  intro bytes
  show is_digest ((relayed_digests.find? (fun entry => Recording.begins bytes entry.1)).elim
    (digest_of '0') Prod.snd) = true
  cases hfind : relayed_digests.find? (fun entry => Recording.begins bytes entry.1) with
  | none => decide +kernel
  | some entry =>
    have hall : ∀ entry ∈ relayed_digests, is_digest entry.2 = true := by decide +kernel
    exact hall entry (List.mem_of_find?_eq_some hfind)

/-- A frame of the request 2 of process 1, which the cache answers. -/
def cached_hook (kind : HookKind) (reason : String) (wire : List UInt8) : Input :=
  .hook ⟨kind, ⟨1, 2⟩, "udp", none, 53, .insecure, reason, wire⟩
    ⟨Vector.replicate 16 187, fun _ => 1753142400⟩

/-- The first upstream of one request fails and the second answers; another request comes in
between and is answered from the cache. -/
def relayed : List Input :=
  [recorded_hook .begin none "-" (query_wire 7),
    recorded_hook .send (some "192.0.2.1") "-" (query_wire 8),
    cached_hook .begin "-" (query_wire 9),
    recorded_hook .failure (some "192.0.2.1") "timeout" [],
    recorded_hook .send (some "192.0.2.2") "-" (query_wire 9),
    cached_hook .finish "success" (answer_wire 9),
    recorded_hook .response (some "192.0.2.2") "received" (answer_wire 9),
    recorded_hook .finish none "success" (answer_wire 7)]

/-- The headers of these frames. -/
def relayed_headers : List String :=
  ["RIK1 BEGIN 1 1 udp - 53 insecure - 25 -",
    "RIK1 SEND 1 1 udp 192.0.2.1 53 insecure - 25 -",
    "RIK1 BEGIN 1 2 udp - 53 insecure - 25 -",
    "RIK1 FAILURE 1 1 udp 192.0.2.1 53 insecure timeout 0 -",
    "RIK1 SEND 1 1 udp 192.0.2.2 53 insecure - 25 -",
    "RIK1 FINISH 1 2 udp - 53 insecure success 41 -",
    "RIK1 RESPONSE 1 1 udp 192.0.2.2 53 insecure received 41 -",
    "RIK1 FINISH 1 1 udp - 53 insecure success 41 -"]

/-- What a new machine has emitted after these inputs. -/
def relayed_log (inputs : List Input) : List Emitted :=
  (inputs.foldl (Recorder.take hook_platform) ⟨recorded_machine, []⟩).log

/-- The frame of a hook. -/
def hook_of : Input → Option HookFrame
  | .hook frame _ => some frame
  | .abort _ => none

theorem relayed_admitted (frame : HookFrame) (given : Given) (h : Input.hook frame given ∈ relayed) :
    Admitted hook_platform frame := by
  have hheader : ∃ line ∈ relayed_headers, parse_hook_header hook_platform line =
      .ok ({ frame with wire := [] }, frame.wire.length) := by
    have hall : ∀ input ∈ relayed.map hook_of, ∀ frame ∈ input, ∃ line ∈ relayed_headers,
          parse_hook_header hook_platform line =
            .ok ({ frame with wire := [] }, frame.wire.length) := by
      decide +kernel
    exact hall (some frame) (List.mem_map_of_mem h) frame rfl
  obtain ⟨line, _, hline⟩ := hheader
  exact ⟨line, _, _, hline, rfl, rfl⟩

/-- The events of the run, in the order of emission. -/
def relayed_events : List TraceEventV2 := (relayed_log relayed).map Emitted.event

/-- The source digest found for the cache hit. -/
def relayed_source (_ : TraceEventV2) : String := digest_of '1'

/-- What the two requests emit, and that it fits a spool of that size but not one of one event. -/
theorem relayed_facts :
    DistinctTraceIds relayed ∧
      NoCollision hook_platform ((relayed_log relayed).map Emitted.event) ∧
      relayed_events.map TraceEventV2.kind =
        [.clientQuery, .upstreamQuery, .clientQuery, .upstreamTimeout, .upstreamRetry,
          .transportSwitch, .upstreamQuery, .cacheHit, .clientResponse, .upstreamResponse,
          .clientResponse] ∧
      (∀ event ∈ relayed_events, InWindow 1753142402 event) ∧
      (∀ trace_id ∈ relayed_events.map TraceEventV2.trace_id,
        (adapter sample_config 11).checked (HasRoom 11 trace_id) (adapter sample_config 11).init
          (relayed_events.map AdapterStep.enqueue) = true) ∧
      (match relayed_events with
      | first :: second :: _ => decide (
        second.trace_id = "knot-aaaaaaaaaaaaaaaaaaaaaaaaaaaaaaaa" ∧
          ((adapter sample_config 1).run [.enqueue first]).map
            (fun a => (a.spool.enqueue second).1) = some (.error "Trace spool event limit reached"))
      | _ => false) = true := by
  decide +kernel

/-- The two requests at a spool of that size, at the Agent and, in two batches, at its store. -/
theorem relayed_stream_accepted :
    AcceptedEndToEnd "resolver" (relayed_log relayed) ∧
      relayed_events.map TraceEventV2.kind =
        [.clientQuery, .upstreamQuery, .clientQuery, .upstreamTimeout, .upstreamRetry,
          .transportSwitch, .upstreamQuery, .cacheHit, .clientResponse, .upstreamResponse,
          .clientResponse] ∧
      (∀ trace_id ∈ relayed_events.map TraceEventV2.trace_id,
        (adapter sample_config 11).Along (AcceptsTrace trace_id)
          (relayed_events.map AdapterStep.enqueue)) ∧
      (∀ event ∈ relayed_events,
        validate_trace_event (enriched relayed_source event) "resolver" 1753142402 = .ok ()) ∧
      (Store.delivery Store.EvidenceStore.open_).Along Store.Stores
        [.put_trace_events ((relayed_events.take 5).map (enriched relayed_source)),
          .put_trace_events ((relayed_events.drop 5).map (enriched relayed_source))] := by
  obtain ⟨hdistinct, hcollision, hkinds, hwindow, hroom, _⟩ := relayed_facts
  have h : AcceptedEndToEnd "resolver" (relayed_log relayed) :=
    stream_accepted (m := recorded_machine) (rfl : TraceMachine.new "resolver" 2 = _)
      relayed_admitted (run_producer hook_platform recorded_machine relayed) hdistinct
      hcollision hook_platform_digests
  refine ⟨h, hkinds, ?_, ?_, ?_⟩
  · intro trace_id htrace
    obtain ⟨a, hrun⟩ := run_enqueues sample_config 11 relayed_events
    refine (h.spooled _ _ _ a hrun ?_ trace_id).mpr (Machine.along_of_checked (hroom _ htrace))
    rw [offered_enqueues]
    exact in_order_all _
  · intro event hevent
    have hdigest : is_digest (digest_of '1') = true := by decide +kernel
    exact h.validated _ _ _ (in_order_all _) event hevent (fun _ => hdigest)
      (hwindow event hevent)
  · refine h.stored relayed_source relayed_events _ _ _ (in_order_all _) rfl ?_ ?_ ?_
    · show (relayed_events.take 5).map _ ++ ((relayed_events.drop 5).map _ ++ []) = _
      rw [List.append_nil, ← List.map_append, List.take_append_drop]
    · exact fun event _ => ⟨rfl, rfl⟩
    · intro pre step post s hsplit _ s' hstep
      rw [hstep] at hsplit
      have hmem := congrArg (fun ls => Store.DeliveryStep.meanwhile s' ∈ ls) hsplit
      simp at hmem

/-- Whatever a producer emits, a spool accepts it. -/
def AlwaysSpooled (P : Platform) : Prop :=
  ∀ server_id max_contexts m inputs r, TraceMachine.new server_id max_contexts = .ok m →
    (∀ frame given, Input.hook frame given ∈ inputs → Admitted P frame) →
    (producer P m).run inputs = some r → DistinctTraceIds inputs →
    NoCollision P (r.log.map Emitted.event) → WellFormedDigests P →
    ∀ cfg max_events ls a, (adapter cfg max_events).run ls = some a → InOrder r.log (offered ls) →
      ∀ trace_id, (adapter cfg max_events).Along (AcceptsTrace trace_id) ls

/-- A spool of one event refuses the second event of the first request. -/
theorem full_spool_refuses : ¬ AlwaysSpooled hook_platform := by
  intro h
  obtain ⟨hdistinct, hcollision, _, _, _, hrefused⟩ := relayed_facts
  obtain ⟨a, hrun⟩ := run_enqueues sample_config 1 relayed_events
  have hspooled := h "resolver" 2 recorded_machine relayed _ rfl relayed_admitted
    (run_producer hook_platform recorded_machine relayed) hdistinct hcollision
    hook_platform_digests sample_config 1 _ a hrun (by rw [offered_enqueues]; exact in_order_all _)
    "knot-aaaaaaaaaaaaaaaaaaaaaaaaaaaaaaaa"
  cases hevents : relayed_events with
  | nil =>
    rw [hevents] at hrefused
    cases hrefused
  | cons first rest =>
    cases rest with
    | nil =>
      rw [hevents] at hrefused
      cases hrefused
    | cons second rest =>
      rw [hevents] at hrefused hspooled
      obtain ⟨htrace, hsecond⟩ := of_decide_eq_true hrefused
      obtain ⟨a, hfirst, hsecond⟩ := Option.map_eq_some_iff.mp hsecond
      have hok : (a.spool.enqueue second).1 = .ok () :=
        hspooled [.enqueue first] (.enqueue second) (rest.map AdapterStep.enqueue) a rfl hfirst
          htrace
      rw [hok] at hsecond
      cases hsecond

end ResolverIdentity.Producer
