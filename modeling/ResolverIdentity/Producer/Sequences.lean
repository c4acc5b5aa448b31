/-
  ResolverIdentity.Producer.Sequences: the order of the events of a trace.

  Every event after the first names an earlier event of its trace as its parent
  and carries the next sequence number, whether the context goes on from its
  last event or from the query an answer is about; only FINISH emits a terminal
  event, as the last.

  Main results:
    * `Spine.move`: a frame that goes on with a context keeps the order;
    * `Past.follows`: the order of the events of a trace, finished or not.
-/
import ResolverIdentity.Producer.Histories

namespace ResolverIdentity.Producer

open Library

variable {P : Platform} {frame : HookFrame} {given : Given} {server_id : String}
  {context context' : RequestContext} {events : List TraceEventV2} {log : List Emitted}

/-! ## §1. Places. -/

/-- The kinds of the last event of a trace. -/
def Terminal (kind : TraceEventKind) : Prop := kind = .clientResponse ∨ kind = .resolutionFailed

/-- The kinds of the events in between. -/
def is_inner (kind : TraceEventKind) : Bool :=
  match kind with
  | .clientQuery | .clientResponse | .resolutionFailed => false
  | _ => true

theorem ne_of_is_inner {kind : TraceEventKind} (h : is_inner kind = true) :
    kind ≠ .clientQuery := by
  intro heq
  rw [heq] at h
  cases h

theorem not_terminal_of_is_inner {kind : TraceEventKind} (h : is_inner kind = true) :
    ¬ Terminal kind := by
  intro hterminal
  rcases hterminal with heq | heq
  · rw [heq] at h
    cases h
  · rw [heq] at h
    cases h

/-- The place of an event after the events `pre` of its trace. -/
structure Follows (P : Platform) (server_id trace_id correlation_id : String)
    (pre : List TraceEventV2) (event : TraceEventV2) : Prop where
  schema : event.schema_version = TRACE_EVENT_V2
  observer : event.observer_server_id = server_id
  trace : event.trace_id = trace_id
  correlation : event.correlation_id = correlation_id
  sequence : event.sequence = pre.length + 1
  id : event.event_id = event_id P trace_id event.sequence
  first : pre = [] → event.kind = .clientQuery ∧ event.parent_event_id = none
  parent : pre ≠ [] → event.kind ≠ .clientQuery ∧
    ∃ parent ∈ pre, event.parent_event_id = some parent.event_id
  ongoing : ∀ earlier ∈ pre, ¬ Terminal earlier.kind

/-- The fields `Follows` looks at. -/
def header (event : TraceEventV2) :
    String × String × String × Nat × String × Option String × TraceEventKind × String :=
  (event.schema_version, event.event_id, event.trace_id, event.sequence, event.correlation_id,
    event.parent_event_id, event.kind, event.observer_server_id)

theorem Follows.congr {trace_id correlation_id : String} {pre : List TraceEventV2}
    {event event' : TraceEventV2} (h : Follows P server_id trace_id correlation_id pre event)
    (heq : header event' = header event) :
    Follows P server_id trace_id correlation_id pre event' := by
  unfold header at heq
  simp only [Prod.mk.injEq] at heq
  obtain ⟨hschema, hid, htrace, hsequence, hcorrelation, hparent, hkind, hobserver⟩ := heq
  exact
    { schema := hschema.trans h.schema
      observer := hobserver.trans h.observer
      trace := htrace.trans h.trace
      correlation := hcorrelation.trans h.correlation
      sequence := hsequence.trans h.sequence
      id := by rw [hid, hsequence]; exact h.id
      first := by rw [hkind, hparent]; exact h.first
      parent := by rw [hkind, hparent]; exact h.parent
      ongoing := h.ongoing }

/-- A context and the events emitted so far: it knows how many, and the ids it may name as
parents are among them. -/
structure Spine (P : Platform) (server_id : String) (context : RequestContext)
    (events : List TraceEventV2) : Prop where
  follows : Justified (Follows P server_id context.trace_id context.correlation_id) events
  nonempty : events ≠ []
  sequence : context.sequence = events.length
  ongoing : ∀ event ∈ events, ¬ Terminal event.kind
  last : ∃ event ∈ events, event.event_id = context.last_event_id
  attempts : ∀ attempt ∈ context.attempts, ∃ event ∈ events, event.event_id = attempt.event_id

/-- The next event of a context has its place. -/
theorem Spine.follows_causal (h : Spine P server_id context events)
    (hroom : events.length < U64_MAX) {parent : String}
    (hparent : ∃ event ∈ events, event.event_id = parent) (fields : EventFields) (now : Int)
    (hkind : fields.kind ≠ .clientQuery) :
    Follows P server_id context.trace_id context.correlation_id events
      (causal_event P server_id context parent fields now).1 where
  schema := rfl
  observer := rfl
  trace := rfl
  correlation := rfl
  sequence := by
    show u64_succ context.sequence = _
    rw [h.sequence, u64_succ_of_lt hroom]
  id := rfl
  first := fun hnil => absurd hnil h.nonempty
  parent := by
    obtain ⟨event, hmem, rfl⟩ := hparent
    exact fun _ => ⟨hkind, event, hmem, rfl⟩
  ongoing := h.ongoing

/-- A context goes on from an event in its place. -/
theorem Spine.snoc (h : Spine P server_id context events) {event : TraceEventV2}
    (hfollows : Follows P server_id context.trace_id context.correlation_id events event)
    (hopen : ¬ Terminal event.kind) (htrace : context'.trace_id = context.trace_id)
    (hcorrelation : context'.correlation_id = context.correlation_id)
    (hsequence : context'.sequence = event.sequence)
    (hlast : context'.last_event_id = event.event_id)
    (hattempts : ∀ attempt ∈ context'.attempts, attempt.event_id = event.event_id ∨
      ∃ old ∈ context.attempts, old.event_id = attempt.event_id) :
    Spine P server_id context' (events ++ [event]) where
  follows := by
    rw [htrace, hcorrelation]
    exact h.follows.snoc hfollows
  nonempty := List.append_ne_nil_of_left_ne_nil h.nonempty _
  sequence := by
    rw [hsequence, hfollows.sequence, List.length_append]
    rfl
  ongoing := by
    intro other hother
    rcases List.mem_append.mp hother with hother | hother
    · exact h.ongoing other hother
    · rw [List.mem_singleton.mp hother]
      exact hopen
  last := ⟨event, List.mem_append_right _ (List.mem_singleton.mpr rfl), hlast.symm⟩
  attempts := by
    intro attempt hattempt
    rcases hattempts attempt hattempt with hnew | ⟨old, hold, heq⟩
    · exact ⟨event, List.mem_append_right _ (List.mem_singleton.mpr rfl), hnew.symm⟩
    · obtain ⟨found, hfound, hid⟩ := h.attempts old hold
      exact ⟨found, List.mem_append_left _ hfound, hid.trans heq⟩

/-- A context goes on from its next event. -/
theorem Spine.next (h : Spine P server_id context events) (hroom : events.length < U64_MAX)
    (fields : EventFields) (now : Int) (hkind : is_inner fields.kind = true) :
    Spine P server_id (next_event P server_id context fields now).2
      (events ++ [(next_event P server_id context fields now).1]) :=
  h.snoc (h.follows_causal hroom h.last fields now (ne_of_is_inner hkind))
    (not_terminal_of_is_inner hkind) rfl rfl rfl rfl
    (fun attempt hattempt => Or.inr ⟨attempt, hattempt, rfl⟩)

/-- The sequence numbers stay far below the end of their type. -/
structure Budget (context : RequestContext) (length : Nat) : Prop where
  attempts : context.attempts.length ≤ U32_MAX
  events : length ≤ 1 + 3 * context.attempts.length + context.attempts.countP Attempt.resolved

theorem Budget.room {length : Nat} (h : Budget context length) : length + 3 < U64_MAX := by
  have hresolved := context.attempts.countP_le_length (p := Attempt.resolved)
  have hattempts := h.attempts
  have hevents := h.events
  unfold U32_MAX at hattempts
  unfold U64_MAX
  omega

theorem retry_events_attempts (server_id : String) (frame : HookFrame) (given : Given)
    (target : DnsEndpoint) (attempt : Nat) (context : RequestContext) :
    (retry_events P server_id frame given target attempt context).2.attempts = context.attempts ∧
      (retry_events P server_id frame given target attempt context).1.length ≤ 2 := by
  rcases retry_events_cases P frame given server_id target attempt context with
    hretry | hretry | hretry
  all_goals
    rw [hretry]
    refine ⟨rfl, ?_⟩
    simp

/-- The retry events of a SEND. -/
theorem Spine.retry (h : Spine P server_id context events) (hroom : events.length + 2 < U64_MAX)
    (frame : HookFrame) (given : Given) (target : DnsEndpoint) (attempt : Nat) :
    Spine P server_id (retry_events P server_id frame given target attempt context).2
      (events ++ (retry_events P server_id frame given target attempt context).1) := by
  rcases retry_events_cases P frame given server_id target attempt context with
    hretry | hretry | hretry
  · rw [hretry, List.append_nil]
    exact h
  · rw [hretry]
    exact h.next (by omega) _ _ rfl
  · rw [hretry]
    have hfirst := h.next (by omega) { kind := .upstreamRetry, endpoint := some target
                                       attempt := some attempt
                                       dnssec_status := frame.dnssec_status
                                       failure_reason := some (reason_or frame "retry") }
      (given.unix_time 0) rfl
    have hsecond := hfirst.next (by rw [List.length_append, List.length_singleton]; omega)
      { kind := .transportSwitch, endpoint := some target, attempt := some attempt
        dnssec_status := frame.dnssec_status
        failure_reason := some "endpoint-or-transport-changed" } (given.unix_time 1) rfl
    rw [List.append_assoc] at hsecond
    exact hsecond

/-- A frame that goes on with a context keeps its spine and its budget. -/
theorem Spine.move {log : List TraceEventV2} (h : Spine P server_id context log)
    (hbudget : Budget context log.length)
    (hmove : Move P server_id frame given context events context') :
    Spine P server_id context' (log ++ events) ∧ Budget context' (log ++ events).length := by
  have hroom := hbudget.room
  cases hmove with
  | sent target events context' _ _ _ hsend =>
    obtain ⟨hattempts, target_correlation_id, transaction_id, _, _, rfl, rfl⟩ :=
      send_in_eq_ok hsend
    obtain ⟨hkept, hlength⟩ := retry_events_attempts (P := P) server_id frame given target
      (context.attempts.length + 1) context
    have hretry := h.retry (by omega) frame given target (context.attempts.length + 1)
    refine ⟨?_, ?_⟩
    · -- the retry's events first, then the query, which follows their last one
      rw [← List.append_assoc]
      have hquery := hretry.follows_causal (by rw [List.length_append]; omega) hretry.last
        { kind := .upstreamQuery, endpoint := some target
          target_correlation_id := some target_correlation_id
          attempt := some (context.attempts.length + 1)
          dnssec_status := frame.dnssec_status } (given.unix_time 2)
        (ne_of_is_inner rfl)
      refine hretry.snoc (hquery.congr rfl) (not_terminal_of_is_inner rfl) rfl rfl rfl rfl ?_
      intro attempt hattempt
      rcases List.mem_append.mp hattempt with hold | hnew
      · exact Or.inr ⟨attempt, hold, rfl⟩
      · exact Or.inl (by rw [List.mem_singleton.mp hnew])
    · refine ⟨?_, ?_⟩
      · show (_ ++ [_]).length ≤ U32_MAX
        rw [List.length_append, hkept]
        exact hattempts
      · -- a SEND emits at most three events, and adds an attempt that is not resolved
        show _ ≤ 1 + 3 * (_ ++ [_]).length + (_ ++ [_]).countP Attempt.resolved
        have hevents := hbudget.events
        rw [List.countP_append, hkept]
        simp only [List.length_append, List.length_singleton, List.countP_singleton]
        simp
        omega
  | resolved pre attempt post fields hattempts hopen hfields =>
    have hmem : attempt ∈ context.attempts := by
      rw [hattempts]
      exact List.mem_append_right _ List.mem_cons_self
    have hkind : fields.kind ≠ .clientQuery ∧ ¬ Terminal fields.kind := by
      cases hfields <;> exact ⟨ne_of_is_inner rfl, not_terminal_of_is_inner rfl⟩
    have hfollows := h.follows_causal (by omega) (h.attempts attempt hmem) fields
      (given.unix_time 0) hkind.1
    refine ⟨?_, ?_⟩
    · -- the answer follows the query of its attempt
      refine h.snoc (hfollows.congr rfl) hkind.2 rfl rfl rfl rfl ?_
      intro other hother
      rw [resolve_in_snd server_id context pre post attempt fields _ hattempts] at hother
      rw [hattempts]
      rcases List.mem_append.mp hother with hpre | hpost
      · exact Or.inr ⟨other, List.mem_append_left _ hpre, rfl⟩
      · rcases List.mem_cons.mp hpost with rfl | hpost
        · exact Or.inr ⟨attempt, List.mem_append_right _ List.mem_cons_self, rfl⟩
        · exact Or.inr ⟨other, List.mem_append_right _ (List.mem_cons_of_mem _ hpost), rfl⟩
    · rw [resolve_in_snd server_id context pre post attempt fields _ hattempts]
      have hlength := hbudget.attempts
      have hevents := hbudget.events
      rw [hattempts] at hlength hevents
      refine ⟨?_, ?_⟩
      · simpa using hlength
      · simp only [List.length_append, List.length_cons, List.countP_append, List.countP_cons,
          hopen] at hevents ⊢
        simp at hevents ⊢
        omega

theorem History.spine (h : History P server_id context log) :
    Spine P server_id context (log.map Emitted.event) ∧ Budget context log.length := by
  induction h with
  | begun frame given correlation_id _ _ =>
    refine ⟨⟨?_, List.cons_ne_nil _ _, rfl, ?_, ?_, fun _ hattempt => (nomatch hattempt)⟩, ?_⟩
    · refine (justified_nil _).snoc (x := (first_event P server_id frame given correlation_id).1) ?_
      exact
        { schema := rfl, observer := rfl, trace := rfl, correlation := rfl, sequence := rfl
          id := rfl
          first := fun _ => ⟨rfl, rfl⟩
          parent := fun hne => absurd rfl hne
          ongoing := fun _ hevent => (nomatch hevent) }
    · intro event hevent
      rw [List.mem_singleton.mp hevent]
      unfold Terminal
      exact of_decide_eq_false rfl
    · exact ⟨_, List.mem_singleton.mpr rfl, rfl⟩
    · exact ⟨Nat.zero_le _, Nat.le_refl _⟩
  | moved _ frame given events context' hmove ih =>
    have hmoved := ih.1.move (by rw [List.length_map]; exact ih.2) hmove
    rw [List.map_append, List.map_map, show Emitted.event ∘ Emitted.mk frame = id from rfl,
      List.map_id]
    refine ⟨hmoved.1, ?_⟩
    have hbudget := hmoved.2
    rw [List.length_append, List.length_map] at hbudget
    rw [List.length_append, List.length_map]
    exact hbudget

/-! ## §2. Whole traces. -/

/-- What FINISH emits has its place too. -/
theorem Spine.finish {log : List TraceEventV2} (h : Spine P server_id context log)
    (hroom : log.length + 1 < U64_MAX)
    (hfinish : finish_in P server_id frame given context = .ok events) :
    Justified (Follows P server_id context.trace_id context.correlation_id) (log ++ events) := by
  obtain ⟨digest, hits, context₁, _, hhits, rfl⟩ := finish_in_eq_ok hfinish
  have hhit : Spine P server_id context₁ (log ++ hits) ∧ context₁.trace_id = context.trace_id ∧
      context₁.correlation_id = context.correlation_id ∧ (log ++ hits).length < U64_MAX := by
    rcases cache_hit_event_eq_ok hhits with ⟨_, rfl, rfl⟩ | ⟨_, _, ttl, _, rfl, rfl⟩
    · rw [List.append_nil]
      exact ⟨h, rfl, rfl, by omega⟩
    · have hnext := h.follows_causal (by omega) h.last
        { kind := .cacheHit
          response_digest := some (P.dns_wire_digest frame.wire)
          dnssec_status := frame.dnssec_status } (given.unix_time 0)
        (ne_of_is_inner rfl)
      refine ⟨h.snoc (hnext.congr rfl) (not_terminal_of_is_inner rfl) rfl rfl rfl rfl
        (fun attempt hattempt => Or.inr ⟨attempt, hattempt, rfl⟩), rfl, rfl, ?_⟩
      rw [List.length_append, List.length_singleton]
      exact hroom
  obtain ⟨hspine, htrace, hcorrelation, hlength⟩ := hhit
  rw [← List.append_assoc, ← htrace, ← hcorrelation]
  refine hspine.follows.snoc ?_
  have hlast := hspine.follows_causal hlength hspine.last
    { kind := if frame.reason != "success" then .resolutionFailed else .clientResponse
      response_digest := some (P.dns_wire_digest frame.wire)
      dnssec_status := frame.dnssec_status
      failure_reason := if frame.reason != "success" then
        some (reason_or frame "resolver-failed") else none } (given.unix_time 2)
    (by split <;> simp)
  refine hlast.congr ?_
  split <;> rfl

/-- The events of a trace, each in its place. -/
theorem Past.follows (h : Past P server_id log) :
    ∃ trace_id correlation_id,
      Justified (Follows P server_id trace_id correlation_id) (log.map Emitted.event) := by
  cases h with
  | none => exact ⟨"", "", justified_nil _⟩
  | «open» h => exact ⟨_, _, h.spine.1.follows⟩
  | finished h =>
    cases h with
    | @mk context log h frame given events _ _ hfinish =>
      obtain ⟨hspine, hbudget⟩ := h.spine
      refine ⟨context.trace_id, context.correlation_id, ?_⟩
      rw [List.map_append, List.map_map, show Emitted.event ∘ Emitted.mk frame = id from rfl,
        List.map_id]
      refine hspine.finish ?_ hfinish
      have hroom := hbudget.room
      rw [List.length_map]
      omega

end ResolverIdentity.Producer
