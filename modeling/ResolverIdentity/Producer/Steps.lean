/-
  ResolverIdentity.Producer.Steps: what one hook frame can do.

  A run is any sequence of hook frames and aborts; the recorder keeps beside the
  machine every emitted event with the frame it was emitted for.  An accepted
  frame begins a context, goes on with the one under its key, or finishes it; a
  rejected one emits nothing and leaves every context, but that a FINISH may
  have removed its own.

  Main results:
    * `process_accepted`, `process_rejected`: the cases of `TraceMachine::process`;
    * `take_hook`: the same for the recorder.
-/
import ResolverIdentity.Library.Machine
import ResolverIdentity.Producer.Machine

namespace ResolverIdentity.Producer

open Library

variable (P : Platform)

/-! ## §1. Runs. -/

/-- An event and the frame it was emitted for. -/
structure Emitted where
  frame : HookFrame
  event : TraceEventV2
  deriving DecidableEq

/-- What reaches the machine: a frame, or the end of a connection. -/
inductive Input where
  | hook (frame : HookFrame) (given : Given)
  | abort (key : RequestKey)

/-- The machine with the events it has emitted so far. -/
structure Recorder where
  machine : TraceMachine
  log : List Emitted

/-- A rejected frame emits nothing. -/
def Recorder.take (r : Recorder) : Input → Recorder
  | .hook frame given =>
    match r.machine.process P frame given with
    | (.ok output, m) => ⟨m, r.log ++ output.emitted.map (Emitted.mk frame)⟩
    | (.error _, m) => ⟨m, r.log⟩
  | .abort key => ⟨r.machine.abort key, r.log⟩

/-- The producer from the machine `m` on; every input is taken. -/
def producer (m : TraceMachine) : Machine Recorder Input where
  init := ⟨m, []⟩
  step r input := some (r.take P input)

/-- A run ends in what taking its inputs in order leaves. -/
theorem run_producer (m : TraceMachine) (inputs : List Input) :
    (producer P m).run inputs = some (inputs.foldl (Recorder.take P) ⟨m, []⟩) := by
  induction inputs using List.reverseRecOn with
  | nil => rfl
  | append_singleton inputs input ih =>
    rw [List.foldl_append]
    exact (producer P m).run_snoc_eq_some.mpr ⟨_, ih, rfl⟩

/-- The trace id an input draws. -/
def Input.drawn : Input → Option String
  | .hook frame given => if frame.kind = .begin then some given.trace_id else none
  | .abort _ => none

/-- The trace ids drawn in a run are distinct. -/
def DistinctTraceIds (inputs : List Input) : Prop := (inputs.filterMap Input.drawn).Nodup

instance (inputs : List Input) : Decidable (DistinctTraceIds inputs) :=
  inferInstanceAs (Decidable (inputs.filterMap Input.drawn).Nodup)

/-! ## §2. What a frame can do. -/

/-- What the event that resolves an attempt says beside the attempt itself. -/
inductive Resolution (frame : HookFrame) (attempt : Attempt) (newer : List Attempt) :
    EventFields → Prop where
  | response (hendpoint : endpoint frame = .ok attempt.endpoint) (hkind : frame.kind = .response) :
    Resolution frame attempt newer
      { kind := .upstreamResponse
        response_digest := some (P.dns_wire_digest frame.wire)
        dnssec_status := frame.dnssec_status }
  | failure (hnewer : ∀ other ∈ newer, other.resolved = true) (hkind : frame.kind = .failure) :
    Resolution frame attempt newer
      { kind := .upstreamTimeout
        dnssec_status := frame.dnssec_status
        failure_reason := some (reason_or frame "transport-failure") }

/-- A frame that goes on with a context. -/
inductive Move (server_id : String) (frame : HookFrame) (given : Given) (context : RequestContext) :
    List TraceEventV2 → RequestContext → Prop where
  | sent (target : DnsEndpoint) (events : List TraceEventV2) (context' : RequestContext)
    (hkind : frame.kind = .send)
    (hwire : validate_dns_wire frame.wire = .ok ()) (hendpoint : endpoint frame = .ok target)
    (hsend : send_in P server_id frame given target context = (.ok events, context')) :
    Move server_id frame given context events context'
  | resolved (pre : List Attempt) (attempt : Attempt) (post : List Attempt) (fields : EventFields)
    (hattempts : context.attempts = pre ++ attempt :: post) (hopen : attempt.resolved = false)
    (hfields : Resolution P frame attempt post fields) :
    Move server_id frame given context
      [(resolve_in P server_id context pre.length attempt fields (given.unix_time 0)).1]
      (resolve_in P server_id context pre.length attempt fields (given.unix_time 0)).2

/-- What an accepted frame does to the machine. -/
inductive Accepted (m : TraceMachine) (frame : HookFrame) (given : Given) :
    MachineOutput → TraceMachine → Prop where
  | begun (correlation_id : String) (hkind : frame.kind = .begin)
    (hwire : validate_dns_wire frame.wire = .ok ()) (hfree : m.contexts.lookup frame.key = none)
    (hcorrelation : P.dns_correlation_id frame.wire = .ok correlation_id) :
    Accepted m frame given
      (.events [(first_event P m.server_id frame given correlation_id).1])
      (m.store frame.key (first_event P m.server_id frame given correlation_id).2)
  | moved (context : RequestContext) (events : List TraceEventV2) (context' : RequestContext)
    (hkind : frame.kind ≠ .begin) (hlive : m.contexts.lookup frame.key = some context)
    (hmove : Move P m.server_id frame given context events context') :
    Accepted m frame given (.events events) (m.store frame.key context')
  | finished (context : RequestContext) (events : List TraceEventV2)
    (hkind : frame.kind = .finish) (hwire : validate_dns_wire frame.wire = .ok ())
    (hlive : m.contexts.lookup frame.key = some context)
    (hfinish : finish_in P m.server_id frame given context = .ok events) :
    Accepted m frame given (.terminal events) (m.abort frame.key)

variable {P} {m m' : TraceMachine} {frame : HookFrame} {given : Given} {output : MachineOutput}

/-- A frame accepted on a context it found. -/
theorem with_context_accepted {missing : String}
    {body : RequestContext → Except String (List TraceEventV2) × RequestContext}
    (h : m.with_context frame missing body = (.ok output, m')) :
    ∃ context events context', m.contexts.lookup frame.key = some context ∧
      body context = (.ok events, context') ∧ output = .events events ∧
      m' = m.store frame.key context' := by
  unfold TraceMachine.with_context at h
  cases hlookup : m.contexts.lookup frame.key with
  | none =>
    rw [hlookup] at h
    cases (Prod.mk.inj h).1
  | some context =>
    rw [hlookup] at h
    cases hbody : body context with
    | mk result context' =>
      simp only [hbody] at h
      obtain ⟨hresult, rfl⟩ := Prod.mk.inj h
      cases result with
      | error e => cases hresult
      | ok events =>
        exact ⟨context, events, context', rfl, hbody, (Except.ok.inj hresult).symm, rfl⟩

/-- A RESPONSE or FAILURE accepted on its context resolves one attempt. -/
theorem response_in_accepted {server_id : String} {context context' : RequestContext}
    {events : List TraceEventV2} {observed : DnsEndpoint} {id : Nat}
    (hkind : frame.kind = .response) (hendpoint : endpoint frame = .ok observed)
    (h : response_in P server_id frame given observed id context = (.ok events, context')) :
    Move P server_id frame given context events context' := by
  unfold response_in at h
  split at h
  case h_1 => cases (Prod.mk.inj h).1
  case h_2 index attempt hpick =>
    obtain ⟨pre, post, hattempts, rfl, hfound, _⟩ := pick_eq_some hpick
    simp only [Bool.and_eq_true, Bool.not_eq_true', decide_eq_true_eq] at hfound
    obtain ⟨hevents, rfl⟩ := Prod.mk.inj h
    rw [← Except.ok.inj hevents]
    have hnamed : endpoint frame = .ok attempt.endpoint := by rw [hendpoint, hfound.2]
    exact .resolved pre attempt post _ hattempts hfound.1.1 (.response hnamed hkind)

theorem failure_in_accepted {server_id : String} {context context' : RequestContext}
    {events : List TraceEventV2} (hkind : frame.kind = .failure)
    (h : failure_in P server_id frame given context = (.ok events, context')) :
    Move P server_id frame given context events context' := by
  unfold failure_in at h
  split at h
  case h_1 => cases (Prod.mk.inj h).1
  case h_2 index attempt hpick =>
    obtain ⟨pre, post, hattempts, rfl, hfound, hnewer⟩ := pick_eq_some hpick
    simp only [Bool.not_eq_true'] at hfound
    obtain ⟨hevents, rfl⟩ := Prod.mk.inj h
    rw [← Except.ok.inj hevents]
    refine .resolved pre attempt post _ hattempts hfound (.failure ?_ hkind)
    intro other hother
    simpa using hnewer other hother

theorem process_accepted (h : m.process P frame given = (.ok output, m')) :
    Accepted P m frame given output m' := by
  unfold TraceMachine.process at h
  cases hkind : frame.kind with
  | begin =>
    rw [hkind] at h
    have h : m.begin P frame given = (.ok output, m') := h
    unfold TraceMachine.begin at h
    split at h
    case h_1 => cases (Prod.mk.inj h).1
    case h_2 correlation_id hchecks =>
      simp only [bind_eq_ok, exists_unit, rejectIf_eq_ok, mapError_eq_ok,
        Option.isSome_eq_false_iff, Option.isNone_iff_eq_none] at hchecks
      obtain ⟨hwire, _, hfree, hcorrelation⟩ := hchecks
      obtain ⟨houtput, rfl⟩ := Prod.mk.inj h
      rw [← Except.ok.inj houtput]
      exact .begun correlation_id hkind hwire hfree hcorrelation
  | send =>
    rw [hkind] at h
    have h : m.send P frame given = (.ok output, m') := h
    unfold TraceMachine.send at h
    split at h
    case h_1 => cases (Prod.mk.inj h).1
    case h_2 target hchecks =>
      simp only [bind_eq_ok, exists_unit] at hchecks
      obtain ⟨context, events, context', hlive, hsend, rfl, rfl⟩ := with_context_accepted h
      refine .moved context events context' ?_ hlive
        (.sent target events context' hkind hchecks.1 hchecks.2 hsend)
      rw [hkind]
      decide
  | response =>
    rw [hkind] at h
    have h : m.response P frame given = (.ok output, m') := h
    unfold TraceMachine.response at h
    split at h
    case h_1 => cases (Prod.mk.inj h).1
    case h_2 observed id hchecks =>
      simp only [bind_eq_ok, exists_unit, Except.ok.injEq, Prod.mk.injEq] at hchecks
      obtain ⟨_, _, hendpoint, _, _, rfl, rfl⟩ := hchecks
      obtain ⟨context, events, context', hlive, hresponse, rfl, rfl⟩ := with_context_accepted h
      refine .moved context events context' ?_ hlive
        (response_in_accepted hkind hendpoint hresponse)
      rw [hkind]
      decide
  | failure =>
    rw [hkind] at h
    have h : m.failure P frame given = (.ok output, m') := h
    obtain ⟨context, events, context', hlive, hfailure, rfl, rfl⟩ := with_context_accepted h
    refine .moved context events context' ?_ hlive (failure_in_accepted hkind hfailure)
    rw [hkind]
    decide
  | finish =>
    rw [hkind] at h
    have h : m.finish P frame given = (.ok output, m') := h
    unfold TraceMachine.finish at h
    split at h
    case h_1 => cases (Prod.mk.inj h).1
    case h_2 u hwire =>
      split at h
      case h_1 => cases (Prod.mk.inj h).1
      case h_2 context hlive =>
        obtain ⟨houtput, rfl⟩ := Prod.mk.inj h
        cases hfinish : finish_in P m.server_id frame given context with
        | error e =>
          rw [hfinish] at houtput
          cases houtput
        | ok events =>
          rw [hfinish] at houtput
          rw [← Except.ok.inj houtput]
          exact .finished context events hkind hwire hlive hfinish

/-- The two machines hold the same contexts. -/
structure SameContexts (m m' : TraceMachine) : Prop where
  server_id : m'.server_id = m.server_id
  max_contexts : m'.max_contexts = m.max_contexts
  lookup : ∀ key, m'.contexts.lookup key = m.contexts.lookup key

theorem SameContexts.refl (m : TraceMachine) : SameContexts m m := ⟨rfl, rfl, fun _ => rfl⟩

theorem lookup_store_self (m : TraceMachine) (key : RequestKey) (context : RequestContext) :
    (m.store key context).contexts.lookup key = some context := AList.lookup_insert ..

theorem lookup_store_ne (m : TraceMachine) {key other : RequestKey} (context : RequestContext)
    (h : other ≠ key) : (m.store key context).contexts.lookup other = m.contexts.lookup other :=
  AList.lookup_insert_ne h

theorem lookup_abort_self (m : TraceMachine) (key : RequestKey) :
    (m.abort key).contexts.lookup key = none := AList.lookup_erase ..

theorem lookup_abort_ne (m : TraceMachine) {key other : RequestKey} (h : other ≠ key) :
    (m.abort key).contexts.lookup other = m.contexts.lookup other :=
  AList.lookup_erase_ne h

theorem lookup_abort_eq_some {key other : RequestKey} {context : RequestContext} :
    (m.abort key).contexts.lookup other = some context ↔
      other ≠ key ∧ m.contexts.lookup other = some context := by
  by_cases heq : other = key
  · rw [heq, lookup_abort_self]
    simp
  · rw [lookup_abort_ne m heq]
    simp [heq]

/-- Writing back the context found changes nothing. -/
theorem SameContexts.store {key : RequestKey} {context : RequestContext}
    (h : m.contexts.lookup key = some context) : SameContexts m (m.store key context) := by
  refine ⟨rfl, rfl, ?_⟩
  intro other
  by_cases hother : other = key
  · rw [hother, lookup_store_self, h]
  · exact lookup_store_ne m context hother

theorem with_context_rejected {missing error : String}
    {body : RequestContext → Except String (List TraceEventV2) × RequestContext}
    (hbody : ∀ context error context', body context = (.error error, context') → context' = context)
    (h : m.with_context frame missing body = (.error error, m')) : SameContexts m m' := by
  unfold TraceMachine.with_context at h
  cases hlookup : m.contexts.lookup frame.key with
  | none =>
    rw [hlookup] at h
    obtain ⟨_, rfl⟩ := Prod.mk.inj h
    exact SameContexts.refl m
  | some context =>
    rw [hlookup] at h
    cases hresult : body context with
    | mk result context' =>
      simp only [hresult] at h
      obtain ⟨herror, rfl⟩ := Prod.mk.inj h
      cases result with
      | ok events => cases herror
      | error e =>
        rw [hbody context e context' hresult]
        exact SameContexts.store hlookup

/-- A rejected frame leaves the contexts, but a FINISH may have removed its own. -/
theorem process_rejected {error : String} (h : m.process P frame given = (.error error, m')) :
    SameContexts m m' ∨ frame.kind = .finish ∧ m' = m.abort frame.key := by
  unfold TraceMachine.process at h
  cases hkind : frame.kind with
  | begin =>
    rw [hkind] at h
    have h : m.begin P frame given = (.error error, m') := h
    unfold TraceMachine.begin at h
    split at h
    case h_1 =>
      obtain ⟨_, rfl⟩ := Prod.mk.inj h
      exact Or.inl (SameContexts.refl m)
    case h_2 => cases (Prod.mk.inj h).1
  | send =>
    rw [hkind] at h
    have h : m.send P frame given = (.error error, m') := h
    unfold TraceMachine.send at h
    split at h
    case h_1 =>
      obtain ⟨_, rfl⟩ := Prod.mk.inj h
      exact Or.inl (SameContexts.refl m)
    case h_2 target hchecks =>
      obtain ⟨_, hwire, _⟩ := bind_eq_ok.mp hchecks
      obtain ⟨hshort, hlong⟩ := validate_dns_wire_eq_ok.mp hwire
      exact Or.inl (with_context_rejected (fun _ _ _ => send_in_error hshort hlong) h)
  | response =>
    rw [hkind] at h
    have h : m.response P frame given = (.error error, m') := h
    unfold TraceMachine.response at h
    split at h
    case h_1 =>
      obtain ⟨_, rfl⟩ := Prod.mk.inj h
      exact Or.inl (SameContexts.refl m)
    case h_2 =>
      refine Or.inl (with_context_rejected ?_ h)
      intro context e context' hresponse
      unfold response_in at hresponse
      split at hresponse
      · exact (Prod.mk.inj hresponse).2.symm
      · cases (Prod.mk.inj hresponse).1
  | failure =>
    rw [hkind] at h
    have h : m.failure P frame given = (.error error, m') := h
    refine Or.inl (with_context_rejected ?_ h)
    intro context e context' hfailure
    unfold failure_in at hfailure
    split at hfailure
    · exact (Prod.mk.inj hfailure).2.symm
    · cases (Prod.mk.inj hfailure).1
  | finish =>
    rw [hkind] at h
    have h : m.finish P frame given = (.error error, m') := h
    unfold TraceMachine.finish at h
    split at h
    case h_1 =>
      obtain ⟨_, rfl⟩ := Prod.mk.inj h
      exact Or.inl (SameContexts.refl m)
    case h_2 =>
      split at h
      case h_1 =>
        obtain ⟨_, rfl⟩ := Prod.mk.inj h
        exact Or.inl (SameContexts.refl m)
      case h_2 =>
        -- the context is gone although its trace could not be finished
        obtain ⟨_, rfl⟩ := Prod.mk.inj h
        exact Or.inr ⟨rfl, rfl⟩

/-- What a frame does to the recorder. -/
theorem take_hook (r : Recorder) (frame : HookFrame) (given : Given) :
    (∃ output m', Accepted P r.machine frame given output m' ∧
      r.take P (.hook frame given) =
        ⟨m', r.log ++ output.emitted.map (Emitted.mk frame)⟩) ∨
    ∃ m', r.take P (.hook frame given) = ⟨m', r.log⟩ ∧
      (SameContexts r.machine m' ∨ frame.kind = .finish ∧ m' = r.machine.abort frame.key) := by
  unfold Recorder.take
  cases hprocess : r.machine.process P frame given with
  | mk result m' =>
    cases result with
    | ok output => exact Or.inl ⟨output, m', process_accepted hprocess, by simp only [hprocess]⟩
    | error error => exact Or.inr ⟨m', by simp only [hprocess], process_rejected hprocess⟩

/-- The log only grows. -/
theorem mem_take {r : Recorder} {emitted : Emitted} (h : emitted ∈ r.log) (input : Input) :
    emitted ∈ (r.take P input).log := by
  cases input with
  | abort key => exact h
  | hook frame given =>
    rcases take_hook (P := P) r frame given with ⟨output, m', _, heq⟩ | ⟨m', heq, _⟩
    · rw [heq]
      exact List.mem_append_left _ h
    · rw [heq]
      exact h

end ResolverIdentity.Producer
