/-
  ResolverIdentity.Producer.Histories: what a run of the producer emits, trace by trace.

  A `History` is what one context emitted from its BEGIN on.  Where the trace ids
  drawn by a run are distinct, the events of one trace are the history of one
  context, however the frames of the others fall between.

  Main results:
    * `Traces.take`: one input keeps the histories of all traces;
    * `traces_of_run`: the events of every trace of a run are a history, finished
      or not.
-/
import ResolverIdentity.Producer.Steps

namespace ResolverIdentity.Producer

open Library

variable {P : Platform} {m m' : TraceMachine} {frame : HookFrame} {given : Given}
  {output : MachineOutput}

/-! ## §1. Histories. -/

/-- What one context emitted, from its BEGIN on. -/
inductive History (P : Platform) (server_id : String) :
    RequestContext → List Emitted → Prop where
  | begun (frame : HookFrame) (given : Given) (correlation_id : String)
    (hwire : validate_dns_wire frame.wire = .ok ())
    (hcorrelation : P.dns_correlation_id frame.wire = .ok correlation_id) :
    History P server_id (first_event P server_id frame given correlation_id).2
      [⟨frame, (first_event P server_id frame given correlation_id).1⟩]
  | moved {context : RequestContext} {log : List Emitted} (h : History P server_id context log)
    (frame : HookFrame) (given : Given) (events : List TraceEventV2) (context' : RequestContext)
    (hmove : Move P server_id frame given context events context') :
    History P server_id context' (log ++ events.map (Emitted.mk frame))

/-- A history closed by its FINISH. -/
inductive Finished (P : Platform) (server_id : String) : List Emitted → Prop where
  | mk {context : RequestContext} {log : List Emitted} (h : History P server_id context log)
    (frame : HookFrame) (given : Given) (events : List TraceEventV2)
    (hkind : frame.kind = .finish) (hwire : validate_dns_wire frame.wire = .ok ())
    (hfinish : finish_in P server_id frame given context = .ok events) :
    Finished P server_id (log ++ events.map (Emitted.mk frame))

/-- The events of one trace: none, those of a context that goes on or was dropped, or
those of a finished one. -/
inductive Past (P : Platform) (server_id : String) : List Emitted → Prop where
  | none : Past P server_id []
  | open {context : RequestContext} {log : List Emitted} (h : History P server_id context log) :
    Past P server_id log
  | finished {log : List Emitted} (h : Finished P server_id log) : Past P server_id log

/-- The part of a log under one trace id. -/
def of_trace (trace_id : String) (log : List Emitted) : List Emitted :=
  log.filter (fun emitted => emitted.event.trace_id = trace_id)

/-! ## §2. One trace id for each context. -/

variable {server_id : String} {context context' : RequestContext} {events : List TraceEventV2}
  {log : List Emitted}

variable (P frame given server_id) in
/-- A SEND starts with nothing, a retry, or a retry and a switch. -/
theorem retry_events_cases (target : DnsEndpoint) (attempt : Nat) (context : RequestContext) :
    retry_events P server_id frame given target attempt context = ([], context) ∨
      let retry := next_event P server_id context
        { kind := .upstreamRetry, endpoint := some target, attempt := some attempt
          dnssec_status := frame.dnssec_status
          failure_reason := some (reason_or frame "retry") } (given.unix_time 0)
      let switch := next_event P server_id retry.2
        { kind := .transportSwitch, endpoint := some target, attempt := some attempt
          dnssec_status := frame.dnssec_status
          failure_reason := some "endpoint-or-transport-changed" } (given.unix_time 1)
      retry_events P server_id frame given target attempt context = ([retry.1], retry.2) ∨
        retry_events P server_id frame given target attempt context =
          ([retry.1, switch.1], switch.2) := by
  unfold retry_events
  by_cases hsent : context.sent_upstream = true
  · rw [if_pos hsent]
    right
    dsimp only
    split
    · exact Or.inr rfl
    · exact Or.inl rfl
  · rw [if_neg hsent]
    exact Or.inl rfl

/-- A frame that goes on with a context stays under its trace id. -/
theorem Move.trace (h : Move P server_id frame given context events context') :
    context'.trace_id = context.trace_id ∧ ∀ event ∈ events, event.trace_id = context.trace_id := by
  cases h with
  | sent target events context' _ _ _ hsend =>
    obtain ⟨_, _, _, _, _, rfl, rfl⟩ := send_in_eq_ok hsend
    rcases retry_events_cases P frame given server_id target (context.attempts.length + 1) context
      with hretry | hretry | hretry
    all_goals
      rw [hretry]
      refine ⟨rfl, ?_⟩
      intro event hevent
      simp only [List.nil_append, List.cons_append, List.mem_cons, List.not_mem_nil, or_false]
        at hevent
      rcases hevent with rfl | rfl | rfl <;> rfl
  | resolved pre attempt post fields hattempts _ _ =>
    refine ⟨rfl, ?_⟩
    intro event hevent
    rw [List.mem_singleton.mp hevent]
    rfl

theorem finish_in_trace (h : finish_in P server_id frame given context = .ok events) :
    ∀ event ∈ events, event.trace_id = context.trace_id := by
  obtain ⟨digest, hits, context₁, _, hhits, rfl⟩ := finish_in_eq_ok h
  have hhit : context₁.trace_id = context.trace_id ∧
      ∀ event ∈ hits, event.trace_id = context.trace_id := by
    rcases cache_hit_event_eq_ok hhits with ⟨_, rfl, rfl⟩ | ⟨_, _, ttl, _, rfl, rfl⟩
    · exact ⟨rfl, fun _ hevent => nomatch hevent⟩
    · refine ⟨rfl, ?_⟩
      intro event hevent
      rw [List.mem_singleton.mp hevent]
      rfl
  intro event hevent
  rcases List.mem_append.mp hevent with hevent | hevent
  · exact hhit.2 event hevent
  · rw [List.mem_singleton.mp hevent, ← hhit.1]
    split <;> rfl

theorem History.trace (h : History P server_id context log) :
    log ≠ [] ∧ ∀ emitted ∈ log, emitted.event.trace_id = context.trace_id := by
  induction h with
  | begun frame given correlation_id _ _ =>
    refine ⟨List.cons_ne_nil _ _, ?_⟩
    intro emitted hemitted
    rw [List.mem_singleton.mp hemitted]
    rfl
  | moved _ frame given events context' hmove ih =>
    obtain ⟨hcontext, hevents⟩ := hmove.trace
    refine ⟨List.append_ne_nil_of_left_ne_nil ih.1 _, ?_⟩
    intro emitted hemitted
    rw [hcontext]
    rcases List.mem_append.mp hemitted with hemitted | hemitted
    · exact ih.2 emitted hemitted
    · obtain ⟨event, hevent, rfl⟩ := List.mem_map.mp hemitted
      exact hevents event hevent

/-! ## §3. The traces of a run. -/

theorem mem_of_trace {trace_id : String} {emitted : Emitted} :
    emitted ∈ of_trace trace_id log ↔ emitted ∈ log ∧ emitted.event.trace_id = trace_id := by
  unfold of_trace
  rw [List.mem_filter, decide_eq_true_eq]

/-- New events under one trace id, in a log. -/
theorem of_trace_append {trace_id : String} {frame : HookFrame}
    (h : ∀ event ∈ events, event.trace_id = trace_id) :
    of_trace trace_id (log ++ events.map (Emitted.mk frame)) =
      of_trace trace_id log ++ events.map (Emitted.mk frame) := by
  unfold of_trace
  rw [List.filter_append]
  congr 1
  rw [List.filter_eq_self]
  intro emitted hemitted
  obtain ⟨event, hevent, rfl⟩ := List.mem_map.mp hemitted
  exact decide_eq_true (h event hevent)

/-- The other traces stay as they are. -/
theorem of_trace_append_ne {trace_id other : String} {frame : HookFrame}
    (h : ∀ event ∈ events, event.trace_id = trace_id) (hne : other ≠ trace_id) :
    of_trace other (log ++ events.map (Emitted.mk frame)) = of_trace other log := by
  unfold of_trace
  rw [List.filter_append]
  refine List.append_right_eq_self.mpr (List.filter_eq_nil_iff.mpr ?_)
  intro emitted hemitted
  obtain ⟨event, hevent, rfl⟩ := List.mem_map.mp hemitted
  rw [decide_eq_true_eq, h event hevent]
  exact Ne.symm hne

/-- Every live context has its history in the log, under a trace id of its own; every other
trace is past. -/
structure Traces (P : Platform) (server_id : String) (r : Recorder) : Prop where
  own : r.machine.server_id = server_id
  live : ∀ key context, r.machine.contexts.lookup key = some context →
    History P server_id context (of_trace context.trace_id r.log)
  distinct : ∀ key key' context context', r.machine.contexts.lookup key = some context →
    r.machine.contexts.lookup key' = some context' → context.trace_id = context'.trace_id →
    key = key'
  past : ∀ trace_id, (∀ key context, r.machine.contexts.lookup key = some context →
    context.trace_id ≠ trace_id) → Past P server_id (of_trace trace_id r.log)

/-- A BEGIN draws a trace id the log does not hold. -/
def Fresh (r : Recorder) : Input → Prop
  | .hook frame given => frame.kind = .begin →
    ∀ emitted ∈ r.log, emitted.event.trace_id ≠ given.trace_id
  | .abort _ => True

variable {r : Recorder}

/-- Dropping the context under a key leaves its trace past. -/
theorem Traces.abort (h : Traces P server_id r) (key : RequestKey) :
    Traces P server_id ⟨r.machine.abort key, r.log⟩ := by
  refine ⟨h.own, ?_, ?_, ?_⟩
  · intro other context hother
    exact h.live other context (lookup_abort_eq_some.mp hother).2
  · intro first second context context' hfirst hsecond
    exact h.distinct first second context context' (lookup_abort_eq_some.mp hfirst).2
      (lookup_abort_eq_some.mp hsecond).2
  · intro trace_id hfree
    by_cases hown : ∃ context, r.machine.contexts.lookup key = some context ∧
        context.trace_id = trace_id
    · obtain ⟨context, hlive, rfl⟩ := hown
      exact .open (h.live key context hlive)
    · refine h.past trace_id ?_
      intro other context hother heq
      by_cases hkey : other = key
      · exact hown ⟨context, hkey ▸ hother, heq⟩
      · exact hfree other context (lookup_abort_ne r.machine hkey ▸ hother) heq

/-- Two machines with the same contexts have the same traces. -/
theorem Traces.same (h : Traces P server_id ⟨m, log⟩) (hsame : SameContexts m m') :
    Traces P server_id ⟨m', log⟩ := by
  refine ⟨hsame.server_id.trans h.own, ?_, ?_, ?_⟩
  · intro key context hkey
    exact h.live key context (hsame.lookup key ▸ hkey)
  · intro key key' context context' hkey hkey'
    exact h.distinct key key' context context' (hsame.lookup key ▸ hkey) (hsame.lookup key' ▸ hkey')
  · intro trace_id hfree
    refine h.past trace_id ?_
    intro key context hkey
    exact hfree key context ((hsame.lookup key).trans hkey)

/-- A context stored under its key, with what it emitted. -/
theorem Traces.store (h : Traces P server_id ⟨m, log⟩) {key : RequestKey}
    (hevents : ∀ event ∈ events, event.trace_id = context'.trace_id)
    (hkey : ∀ context, m.contexts.lookup key = some context → context.trace_id = context'.trace_id)
    (hown : ∀ other context, m.contexts.lookup other = some context →
      context.trace_id = context'.trace_id → other = key)
    (hhistory : History P server_id context'
      (of_trace context'.trace_id log ++ events.map (Emitted.mk frame))) :
    Traces P server_id ⟨m.store key context', log ++ events.map (Emitted.mk frame)⟩ := by
  refine ⟨h.own, ?_, ?_, ?_⟩
  · intro other context hother
    by_cases heq : other = key
    · rw [heq] at hother
      obtain rfl := Option.some.inj ((lookup_store_self m key context').symm.trans hother)
      show History P server_id context' (of_trace context'.trace_id _)
      rw [of_trace_append hevents]
      exact hhistory
    · have hlive := (lookup_store_ne m context' heq).symm.trans hother
      -- another context is of another trace
      have hne : context.trace_id ≠ context'.trace_id := fun h => heq (hown other context hlive h)
      show History P server_id context (of_trace context.trace_id _)
      rw [of_trace_append_ne hevents hne]
      exact h.live other context hlive
  · intro first second c c' hfirst hsecond heq
    by_cases hf : first = key
    · by_cases hs : second = key
      · rw [hf, hs]
      · rw [hf] at hfirst
        obtain rfl := Option.some.inj ((lookup_store_self m key context').symm.trans hfirst)
        exact hf.trans (hown second c' ((lookup_store_ne m context' hs).symm.trans hsecond)
          heq.symm).symm
    · have hlive := (lookup_store_ne m context' hf).symm.trans hfirst
      by_cases hs : second = key
      · rw [hs] at hsecond
        obtain rfl := Option.some.inj ((lookup_store_self m key context').symm.trans hsecond)
        exact absurd (hown first c hlive heq) hf
      · exact h.distinct first second c c' hlive
          ((lookup_store_ne m context' hs).symm.trans hsecond) heq
  · intro trace_id hfree
    have hne : trace_id ≠ context'.trace_id :=
      fun heq => hfree key context' (lookup_store_self m key context') heq.symm
    show Past P server_id (of_trace trace_id _)
    rw [of_trace_append_ne hevents hne]
    refine h.past trace_id ?_
    intro other context hother heq
    by_cases hkeyed : other = key
    · exact hne (heq.symm.trans (hkey context (hkeyed ▸ hother)))
    · exact hfree other context ((lookup_store_ne m context' hkeyed).trans hother) heq

/-- An accepted frame keeps the traces. -/
theorem Traces.accepted (h : Traces P server_id ⟨m, log⟩)
    (hfresh : frame.kind = .begin → ∀ emitted ∈ log, emitted.event.trace_id ≠ given.trace_id)
    (haccepted : Accepted P m frame given output m') :
    Traces P server_id ⟨m', log ++ output.emitted.map (Emitted.mk frame)⟩ := by
  obtain rfl : m.server_id = server_id := h.own
  cases haccepted with
  | begun correlation_id hkind hwire hfree hcorrelation =>
    -- the new trace id is nowhere in the log, so no live context has it
    have hnew : of_trace given.trace_id log = [] := by
      refine List.filter_eq_nil_iff.mpr ?_
      intro emitted hemitted
      rw [decide_eq_true_eq]
      exact hfresh hkind emitted hemitted
    refine h.store (fun event hevent => by rw [List.mem_singleton.mp hevent]; rfl) ?_ ?_ ?_
    · intro context hlive
      rw [hfree] at hlive
      cases hlive
    · intro other context hlive heq
      have hlog := (h.live other context hlive).trace.1
      rw [show context.trace_id = given.trace_id from heq] at hlog
      exact absurd hnew hlog
    · show History P m.server_id _ (of_trace given.trace_id log ++ _)
      rw [hnew]
      exact .begun frame given correlation_id hwire hcorrelation
  | moved context events context' hkind hlive hmove =>
    obtain ⟨htrace, hevents⟩ := hmove.trace
    refine h.store (fun event hevent => (hevents event hevent).trans htrace.symm) ?_ ?_ ?_
    · intro found hfound
      rw [Option.some.inj (hfound.symm.trans hlive), htrace]
    · intro other found hfound heq
      exact h.distinct other frame.key found context hfound hlive (heq.trans htrace)
    · rw [htrace]
      exact .moved (h.live frame.key context hlive) frame given events context' hmove
  | finished context events hkind hwire hlive hfinish =>
    have hevents := finish_in_trace hfinish
    have habort := h.abort frame.key
    refine ⟨rfl, ?_, habort.distinct, ?_⟩
    · intro other found hfound
      have hlive' := lookup_abort_eq_some.mp hfound
      have hne : found.trace_id ≠ context.trace_id := fun heq =>
        hlive'.1 (h.distinct other frame.key found context hlive'.2 hlive heq)
      show History P m.server_id found
        (of_trace found.trace_id (log ++ events.map (Emitted.mk frame)))
      rw [of_trace_append_ne hevents hne]
      exact habort.live other found hfound
    · intro trace_id hfree
      by_cases heq : trace_id = context.trace_id
      · rw [heq]
        show Past P m.server_id
          (of_trace context.trace_id (log ++ events.map (Emitted.mk frame)))
        rw [of_trace_append hevents]
        have hhistory := h.live frame.key context hlive
        exact .finished (.mk hhistory frame given events hkind hwire hfinish)
      · show Past P m.server_id (of_trace trace_id (log ++ events.map (Emitted.mk frame)))
        rw [of_trace_append_ne hevents heq]
        exact habort.past trace_id hfree

/-- A fresh input keeps the traces. -/
theorem Traces.take (h : Traces P server_id r) {input : Input} (hfresh : Fresh r input) :
    Traces P server_id (r.take P input) := by
  cases input with
  | abort key => exact h.abort key
  | hook frame given =>
    rcases take_hook (P := P) r frame given with ⟨output, m', haccepted, heq⟩ | ⟨m', heq, hkept⟩
    · rw [heq]
      exact h.accepted hfresh haccepted
    · rw [heq]
      rcases hkept with hsame | ⟨_, rfl⟩
      · exact h.same hsame
      · exact h.abort frame.key

/-- Every trace id in the log was drawn. -/
theorem drawn_of_take (h : Traces P server_id r) {input : Input} {drawn : List String}
    (hdrawn : ∀ emitted ∈ r.log, emitted.event.trace_id ∈ drawn) :
    ∀ emitted ∈ (r.take P input).log, emitted.event.trace_id ∈ drawn ++ input.drawn.toList := by
  have hold : ∀ emitted ∈ r.log, emitted.event.trace_id ∈ drawn ++ input.drawn.toList :=
    fun emitted hemitted => List.mem_append_left _ (hdrawn emitted hemitted)
  -- the trace id of a live context is in the log
  have hcontext : ∀ key context, r.machine.contexts.lookup key = some context →
      context.trace_id ∈ drawn := by
    intro key context hlive
    obtain ⟨first, hfirst⟩ := List.exists_mem_of_ne_nil _ (h.live key context hlive).trace.1
    obtain ⟨hlog, htrace⟩ := mem_of_trace.mp hfirst
    rw [← htrace]
    exact hdrawn first hlog
  cases input with
  | abort key => exact hold
  | hook frame given =>
    rcases take_hook (P := P) r frame given with ⟨output, m', haccepted, heq⟩ | ⟨m', heq, _⟩
    · rw [heq]
      intro emitted hemitted
      rcases List.mem_append.mp hemitted with hemitted | hemitted
      · exact hold emitted hemitted
      · obtain ⟨event, hevent, rfl⟩ := List.mem_map.mp hemitted
        cases haccepted with
        | begun correlation_id hkind _ _ _ =>
          rw [List.mem_singleton.mp hevent]
          refine List.mem_append_right _ ?_
          have hdrawn : (Input.hook frame given).drawn = some given.trace_id := if_pos hkind
          rw [hdrawn]
          exact List.mem_singleton.mpr rfl
        | moved context events context' _ hlive hmove =>
          refine List.mem_append_left _ ?_
          show event.trace_id ∈ drawn
          rw [hmove.trace.2 event hevent]
          exact hcontext frame.key context hlive
        | finished context events _ _ hlive hfinish =>
          refine List.mem_append_left _ ?_
          show event.trace_id ∈ drawn
          rw [finish_in_trace hfinish event hevent]
          exact hcontext frame.key context hlive
    · rw [heq]
      exact hold

/-- A new machine has emitted nothing. -/
theorem Traces.new {max_contexts : Nat} (h : TraceMachine.new server_id max_contexts = .ok m) :
    Traces P server_id ⟨m, []⟩ := by
  obtain ⟨rfl, _⟩ := new_eq_ok h
  exact ⟨rfl, fun _ _ hlive => (nomatch hlive), fun _ _ _ _ hlive => (nomatch hlive),
    fun _ _ => .none⟩

/-- Where the drawn trace ids are distinct, every BEGIN of the run is fresh and every trace
is a history. -/
theorem traces_of_run {max_contexts : Nat} (hnew : TraceMachine.new server_id max_contexts = .ok m)
    {inputs : List Input} (hrun : (producer P m).run inputs = some r)
    (hdistinct : DistinctTraceIds inputs) :
    Traces P server_id r ∧ (producer P m).Along Fresh inputs := by
  have hall : DistinctTraceIds inputs → Traces P server_id r ∧
      (∀ emitted ∈ r.log, emitted.event.trace_id ∈ inputs.filterMap Input.drawn) ∧
      (producer P m).Along Fresh inputs := by
    refine Machine.run_induction (M := producer P m) (motive := fun inputs r =>
      DistinctTraceIds inputs → Traces P server_id r ∧
        (∀ emitted ∈ r.log, emitted.event.trace_id ∈ inputs.filterMap Input.drawn) ∧
        (producer P m).Along Fresh inputs) ?_ ?_ hrun
    · intro _
      exact ⟨Traces.new hnew, fun _ hemitted => (nomatch hemitted), Machine.along_nil _⟩
    · intro inputs r input r' hrun ih hstep hdistinct
      obtain rfl : r.take P input = r' := Option.some.inj hstep
      unfold DistinctTraceIds at hdistinct
      rw [List.filterMap_append, List.nodup_append] at hdistinct
      obtain ⟨htraces, hdrawn, halong⟩ := ih hdistinct.1
      have hfresh : Fresh r input := by
        cases input with
        | abort key => trivial
        | hook frame given =>
          intro hkind emitted hemitted
          refine hdistinct.2.2 _ (hdrawn emitted hemitted) given.trace_id ?_
          simp [Input.drawn, hkind]
      refine ⟨htraces.take hfresh, ?_, halong.snoc ?_⟩
      · intro emitted hemitted
        have hmem := drawn_of_take htraces hdrawn emitted hemitted
        rw [List.filterMap_append]
        cases hinput : input.drawn with
        | none => simpa [hinput] using hmem
        | some trace_id => simpa [hinput] using hmem
      · intro r' hr'
        obtain rfl : r = r' := Option.some.inj (hrun.symm.trans hr')
        exact hfresh
  exact ⟨(hall hdistinct).1, (hall hdistinct).2.2⟩

/-- The events of a trace of a run. -/
theorem Traces.past_of_trace (h : Traces P server_id r) (trace_id : String) :
    Past P server_id (of_trace trace_id r.log) := by
  by_cases hlive : ∃ key context, r.machine.contexts.lookup key = some context ∧
      context.trace_id = trace_id
  · obtain ⟨key, context, hfound, rfl⟩ := hlive
    exact .open (h.live key context hfound)
  · exact h.past trace_id (fun key context hfound heq => hlive ⟨key, context, hfound, heq⟩)

end ResolverIdentity.Producer
