/-
  ResolverIdentity.Producer.Isolation: one request's events and the others' frames.

  The frames of one request key, run alone on a machine of the same server, emit
  what they emit among the frames of all other keys.  A request sees the others
  in one place only: a BEGIN is refused when the machine is full, so those BEGINs
  are left out of the run alone.

  Main results:
    * `process_elsewhere`: a frame touches no context but its own;
    * `process_alone`: what a frame does depends on its own context alone, but
      for the capacity check of BEGIN;
    * `contexts_isolated`: the events of one key in any interleaving.
-/
import ResolverIdentity.Producer.Attempts

namespace ResolverIdentity.Producer

open Library

/-! ## §1. Own frames. -/

/-- The request an input is about. -/
def Input.key : Input → RequestKey
  | .hook frame _ => frame.key
  | .abort key => key

/-- A BEGIN that the machine has no room for. -/
def at_capacity (m : TraceMachine) : Input → Bool
  | .hook frame _ => frame.kind = .begin && (validate_dns_wire frame.wire).toBool &&
    m.max_contexts ≤ m.active_contexts
  | .abort _ => false

/-- The inputs of one key in a run, but for the BEGINs refused for lack of room. -/
def own_inputs (P : Platform) (key : RequestKey) : Recorder → List Input → List Input
  | _, [] => []
  | r, input :: rest =>
    if input.key = key && !at_capacity r.machine input then
      input :: own_inputs P key (r.take P input) rest
    else own_inputs P key (r.take P input) rest

/-- The events emitted for the frames of one key. -/
def own_events (key : RequestKey) (log : List Emitted) : List Emitted :=
  log.filter (fun emitted => emitted.frame.key = key)

variable {P : Platform} {m m' : TraceMachine} {frame : HookFrame} {given : Given}
  {key : RequestKey}

/-- What the input left out was told. -/
theorem begin_at_capacity (h : at_capacity m (.hook frame given) = true) :
    m.process P frame given = (.error "Trace Producer context capacity reached", m) := by
  simp only [at_capacity, Bool.and_eq_true, decide_eq_true_eq] at h
  obtain ⟨⟨hkind, hwire⟩, hfull⟩ := h
  unfold TraceMachine.process TraceMachine.begin
  rw [hkind]
  cases hcheck : validate_dns_wire frame.wire with
  | error error =>
    rw [hcheck] at hwire
    cases hwire
  | ok u =>
    have hreject : rejectIf (decide (m.max_contexts ≤ m.active_contexts))
        "Trace Producer context capacity reached" =
        Except.error "Trace Producer context capacity reached" := by
      rw [decide_eq_true hfull]
      rfl
    rw [hreject]
    rfl

/-! ## §2. Other frames. -/

/-- The configuration of a machine stays. -/
theorem process_configuration (P : Platform) (m : TraceMachine) (frame : HookFrame)
    (given : Given) : (m.process P frame given).2.server_id = m.server_id ∧
      (m.process P frame given).2.max_contexts = m.max_contexts := by
  rcases hprocess : m.process P frame given with ⟨error | output, m'⟩
  · rcases process_rejected hprocess with hsame | ⟨_, rfl⟩
    · exact ⟨hsame.server_id, hsame.max_contexts⟩
    · exact ⟨rfl, rfl⟩
  · cases process_accepted hprocess <;> exact ⟨rfl, rfl⟩

/-- A frame, accepted or not, touches no context but the one under its key. -/
theorem process_elsewhere (P : Platform) (m : TraceMachine) (frame : HookFrame) (given : Given)
    {other : RequestKey} (hother : other ≠ frame.key) :
    (m.process P frame given).2.contexts.lookup other = m.contexts.lookup other := by
  rcases hprocess : m.process P frame given with ⟨error | output, m'⟩
  · rcases process_rejected hprocess with hsame | ⟨_, rfl⟩
    · exact hsame.lookup other
    · exact lookup_abort_ne m hother
  · cases process_accepted hprocess with
    | begun => exact lookup_store_ne m _ hother
    | moved => exact lookup_store_ne m _ hother
    | finished => exact lookup_abort_ne m hother

/-! ## §3. The own frame. -/

/-- What a call emits; a rejected one emits nothing. -/
def emitted_by (result : Except String MachineOutput) : List TraceEventV2 :=
  match result with
  | .ok output => output.emitted
  | .error _ => []

theorem take_hook_eq (r : Recorder) (frame : HookFrame) (given : Given) :
    r.take P (.hook frame given) = ⟨(r.machine.process P frame given).2,
      r.log ++ (emitted_by (r.machine.process P frame given).1).map (Emitted.mk frame)⟩ := by
  rcases hprocess : r.machine.process P frame given with ⟨error | output, m'⟩
  · simp only [Recorder.take, hprocess, emitted_by, List.map_nil, List.append_nil]
  · simp only [Recorder.take, hprocess, emitted_by]

/-- The two results emit the same and leave the same under the key. -/
structure SameOutcome (key : RequestKey) (first second : Except String MachineOutput × TraceMachine) :
    Prop where
  emitted : emitted_by second.1 = emitted_by first.1
  lookup : second.2.contexts.lookup key = first.2.contexts.lookup key

/-- The two machines are of one server and hold the same under the key. -/
structure SameSlot (key : RequestKey) (m m' : TraceMachine) : Prop where
  server_id : m'.server_id = m.server_id
  lookup : m'.contexts.lookup key = m.contexts.lookup key

theorem SameSlot.with_context (h : SameSlot frame.key m m') {missing : String}
    {body : RequestContext → Except String (List TraceEventV2) × RequestContext} :
    SameOutcome frame.key (m.with_context frame missing body)
      (m'.with_context frame missing body) := by
  unfold TraceMachine.with_context
  rw [h.lookup]
  cases hlookup : m.contexts.lookup frame.key with
  | none => exact ⟨rfl, by rw [h.lookup]⟩
  | some context =>
    refine ⟨rfl, ?_⟩
    show (m'.store frame.key _).contexts.lookup frame.key = (m.store frame.key _).contexts.lookup _
    rw [lookup_store_self, lookup_store_self]

/-- BEGIN where there is room: a free key is taken by both machines or by neither. -/
theorem SameSlot.begin (h : SameSlot frame.key m m')
    (hroom : validate_dns_wire frame.wire = .ok () → m.active_contexts < m.max_contexts)
    (hfree : m'.contexts.lookup frame.key = none → m'.active_contexts < m'.max_contexts) :
    SameOutcome frame.key (m.begin P frame given) (m'.begin P frame given) := by
  unfold TraceMachine.begin
  cases hwire : validate_dns_wire frame.wire with
  | error error => exact ⟨rfl, h.lookup⟩
  | ok u =>
    have hfirst : rejectIf (decide (m.max_contexts ≤ m.active_contexts))
        "Trace Producer context capacity reached" = Except.ok () :=
      rejectIf_eq_ok.mpr (decide_eq_false (Nat.not_le.mpr (hroom hwire)))
    rw [hfirst]
    cases hlookup : m.contexts.lookup frame.key with
    | none =>
      have hsecond : rejectIf (decide (m'.max_contexts ≤ m'.active_contexts))
          "Trace Producer context capacity reached" = Except.ok () :=
        rejectIf_eq_ok.mpr (decide_eq_false (Nat.not_le.mpr (hfree (h.lookup.trans hlookup))))
      rw [hsecond, h.lookup, hlookup, h.server_id]
      cases P.dns_correlation_id frame.wire with
      | error error => exact ⟨rfl, h.lookup⟩
      | ok correlation_id =>
        refine ⟨rfl, ?_⟩
        show (m'.store frame.key _).contexts.lookup frame.key =
          (m.store frame.key _).contexts.lookup _
        rw [lookup_store_self, lookup_store_self]
    | some context =>
      -- the key is in use, so each machine refuses, for one reason or the other
      rw [h.lookup, hlookup]
      cases decide (m'.max_contexts ≤ m'.active_contexts) with
      | true => exact ⟨rfl, h.lookup⟩
      | false => exact ⟨rfl, h.lookup⟩

/-- What a frame does depends on its own context alone, where BEGIN finds room. -/
theorem process_alone (given : Given) (h : SameSlot frame.key m m')
    (hroom : at_capacity m (.hook frame given) = false)
    (hfree : m'.contexts.lookup frame.key = none → m'.active_contexts < m'.max_contexts) :
    SameOutcome frame.key (m.process P frame given) (m'.process P frame given) := by
  unfold TraceMachine.process
  cases hkind : frame.kind with
  | begin =>
    refine h.begin ?_ hfree
    intro hwire
    simpa [at_capacity, hkind, hwire, Except.toBool] using hroom
  | send =>
    show SameOutcome frame.key (m.send P frame given) (m'.send P frame given)
    unfold TraceMachine.send
    split
    · exact ⟨rfl, h.lookup⟩
    · rw [h.server_id]
      exact h.with_context
  | response =>
    show SameOutcome frame.key (m.response P frame given) (m'.response P frame given)
    unfold TraceMachine.response
    split
    · exact ⟨rfl, h.lookup⟩
    · rw [h.server_id]
      exact h.with_context
  | failure =>
    show SameOutcome frame.key (m.failure P frame given) (m'.failure P frame given)
    unfold TraceMachine.failure
    rw [h.server_id]
    exact h.with_context
  | finish =>
    show SameOutcome frame.key (m.finish P frame given) (m'.finish P frame given)
    unfold TraceMachine.finish
    split
    · exact ⟨rfl, h.lookup⟩
    · rw [h.lookup, h.server_id]
      cases m.contexts.lookup frame.key with
      | none => exact ⟨rfl, h.lookup⟩
      | some context =>
        refine ⟨rfl, ?_⟩
        show (m'.abort frame.key).contexts.lookup frame.key = (m.abort frame.key).contexts.lookup _
        rw [lookup_abort_self, lookup_abort_self]

/-! ## §4. The run alone. -/

/-- The run among others and the run alone agree on the key. -/
structure Alone (key : RequestKey) (r alone : Recorder) : Prop where
  slot : SameSlot key r.machine alone.machine
  events : own_events key r.log = alone.log
  room : 0 < alone.machine.max_contexts
  only : ∀ other ≠ key, alone.machine.contexts.lookup other = none

/-- A machine with no other context has room for its own. -/
theorem active_contexts_of_only (honly : ∀ other ≠ key, m.contexts.lookup other = none)
    (hfree : m.contexts.lookup key = none) : m.active_contexts = 0 := by
  unfold TraceMachine.active_contexts
  refine List.length_eq_zero_iff.mpr (List.eq_nil_iff_forall_not_mem.mpr ?_)
  intro entry hentry
  have hsome : m.contexts.lookup entry.1 = some entry.2 := AList.mem_lookup_iff.mpr hentry
  have hnone : m.contexts.lookup entry.1 = none := by
    by_cases hkey : entry.1 = key
    · rw [hkey]
      exact hfree
    · exact honly entry.1 hkey
  rw [hnone] at hsome
  cases hsome

variable {r alone : Recorder}

theorem own_events_append (log added : List Emitted) :
    own_events key (log ++ added) = own_events key log ++ own_events key added :=
  List.filter_append ..

theorem own_events_map {events : List TraceEventV2} :
    own_events key (events.map (Emitted.mk frame)) =
      if frame.key = key then events.map (Emitted.mk frame) else [] := by
  unfold own_events
  by_cases hkey : frame.key = key
  · rw [if_pos hkey, List.filter_eq_self]
    intro emitted hemitted
    obtain ⟨event, _, rfl⟩ := List.mem_map.mp hemitted
    exact decide_eq_true hkey
  · rw [if_neg hkey, List.filter_eq_nil_iff]
    intro emitted hemitted
    obtain ⟨event, _, rfl⟩ := List.mem_map.mp hemitted
    simpa using hkey

/-- An input of another key, or one that finds no room, leaves the key as it is. -/
theorem Alone.skip (h : Alone key r alone) {input : Input}
    (hinput : input.key ≠ key ∨ at_capacity r.machine input = true) :
    Alone key (r.take P input) alone := by
  cases input with
  | abort other =>
    have hother : key ≠ other := by
      rcases hinput with hne | hfull
      · exact Ne.symm hne
      · cases hfull
    exact ⟨⟨h.slot.server_id, h.slot.lookup.trans (lookup_abort_ne r.machine hother).symm⟩,
      h.events, h.room, h.only⟩
  | hook frame given =>
    rw [take_hook_eq]
    rcases hinput with hne | hfull
    · have hserver := (process_configuration P r.machine frame given).1
      have hlookup := process_elsewhere P r.machine frame given (Ne.symm hne)
      refine ⟨⟨h.slot.server_id.trans hserver.symm, h.slot.lookup.trans hlookup.symm⟩, ?_, h.room,
        h.only⟩
      have hkey : frame.key ≠ key := hne
      rw [own_events_append, own_events_map, if_neg hkey, List.append_nil]
      exact h.events
    · rw [begin_at_capacity hfull]
      refine ⟨h.slot, ?_, h.room, h.only⟩
      show own_events key (r.log ++ []) = alone.log
      rw [List.append_nil]
      exact h.events

/-- An input of the key does the same in both runs. -/
theorem Alone.step (h : Alone key r alone) {input : Input} (hkey : input.key = key)
    (hroom : at_capacity r.machine input = false) :
    Alone key (r.take P input) (alone.take P input) := by
  cases input with
  | abort other =>
    obtain rfl : other = key := hkey
    refine ⟨⟨h.slot.server_id, ?_⟩, h.events, h.room, ?_⟩
    · show (alone.machine.abort other).contexts.lookup other =
        (r.machine.abort other).contexts.lookup other
      rw [lookup_abort_self, lookup_abort_self]
    · intro third hthird
      exact (lookup_abort_ne alone.machine hthird).trans (h.only third hthird)
  | hook frame given =>
    obtain rfl : frame.key = key := hkey
    have hfree : alone.machine.contexts.lookup frame.key = none →
        alone.machine.active_contexts < alone.machine.max_contexts := by
      intro hnone
      rw [active_contexts_of_only h.only hnone]
      exact h.room
    have hsame := process_alone (P := P) given h.slot hroom hfree
    have hfirst := process_configuration P r.machine frame given
    have hsecond := process_configuration P alone.machine frame given
    rw [take_hook_eq, take_hook_eq]
    refine ⟨⟨?_, hsame.lookup⟩, ?_, ?_, ?_⟩
    · exact (hsecond.1.trans h.slot.server_id).trans hfirst.1.symm
    · rw [own_events_append, own_events_map, if_pos rfl, h.events, hsame.emitted]
    · show 0 < (alone.machine.process P frame given).2.max_contexts
      rw [hsecond.2]
      exact h.room
    · intro third hthird
      exact (process_elsewhere P alone.machine frame given hthird).trans (h.only third hthird)

theorem Alone.run (h : Alone key r alone) (inputs : List Input) :
    Alone key (inputs.foldl (Recorder.take P) r)
      ((own_inputs P key r inputs).foldl (Recorder.take P) alone) := by
  induction inputs generalizing r alone with
  | nil => exact h
  | cons input rest ih =>
    unfold own_inputs
    by_cases hown : (input.key = key && !at_capacity r.machine input) = true
    · rw [if_pos hown]
      obtain ⟨hkey, hroom⟩ := Bool.and_eq_true_iff.mp hown
      exact ih (h.step (of_decide_eq_true hkey) (by simpa using hroom))
    · rw [if_neg hown]
      refine ih (h.skip ?_)
      by_cases hkey : input.key = key
      · refine Or.inr ?_
        simpa [hkey] using hown
      · exact Or.inl hkey

/-- Resolution contexts do not interfere: the events of a key are those its own inputs emit
alone, and a rejected frame changes no other key's context. -/
theorem contexts_isolated {server_id : String} {max_contexts : Nat}
    (hnew : TraceMachine.new server_id max_contexts = .ok m) {inputs : List Input}
    (hrun : (producer P m).run inputs = some r) (key : RequestKey) :
    (∃ alone, (producer P m).run (own_inputs P key ⟨m, []⟩ inputs) = some alone ∧
      own_events key r.log = alone.log ∧
      r.machine.contexts.lookup key = alone.machine.contexts.lookup key) ∧
    ∀ frame given error m', r.machine.process P frame given = (.error error, m') →
      ∀ other ≠ frame.key, m'.contexts.lookup other = r.machine.contexts.lookup other := by
  refine ⟨⟨_, run_producer P m _, ?_⟩, ?_⟩
  · obtain ⟨rfl, hroom⟩ := new_eq_ok hnew
    obtain rfl := Option.some.inj ((run_producer P _ inputs).symm.trans hrun)
    have hstart : Alone key ⟨⟨server_id, max_contexts, ∅⟩, []⟩ ⟨⟨server_id, max_contexts, ∅⟩, []⟩ :=
      ⟨⟨rfl, rfl⟩, rfl, hroom, fun _ _ => rfl⟩
    have hend := hstart.run (P := P) inputs
    exact ⟨hend.events, hend.slot.lookup.symm⟩
  · intro frame given error m' hprocess other hother
    have hkept := process_elsewhere P r.machine frame given hother
    rwa [hprocess] at hkept

/-- A frame of the request 2 of process 1. -/
def second_hook (kind : HookKind) (address : Option String) (wire : List UInt8) : Input :=
  .hook ⟨kind, ⟨1, 2⟩, "udp", address, 53, .insecure, "", wire⟩
    ⟨Vector.replicate 16 187, fun _ => 1753142401⟩

/-- A request that finds a machine for one context full, and again free. -/
def contended : List Input :=
  [recorded_hook .begin none "" (query_wire 7),
    second_hook .begin none (query_wire 9),
    recorded_hook .send (some "192.0.2.1") "" (query_wire 8),
    .abort ⟨1, 1⟩,
    second_hook .begin none (query_wire 9),
    recorded_hook .response (some "192.0.2.1") "received" (answer_wire 8),
    second_hook .send (some "192.0.2.2") (query_wire 8)]

theorem contexts_isolated_contended :
    let P := recorded_hooks.platform
    let r := contended.foldl (Recorder.take P) ⟨⟨"resolver", 1, ∅⟩, []⟩
    (∃ alone, (producer P ⟨"resolver", 1, ∅⟩).run
        (own_inputs P ⟨1, 2⟩ ⟨⟨"resolver", 1, ∅⟩, []⟩ contended) = some alone ∧
      own_events ⟨1, 2⟩ r.log = alone.log ∧
      r.machine.contexts.lookup ⟨1, 2⟩ = alone.machine.contexts.lookup ⟨1, 2⟩) ∧
    ∀ frame given error m', r.machine.process P frame given = (.error error, m') →
      ∀ other ≠ frame.key, m'.contexts.lookup other = r.machine.contexts.lookup other :=
  contexts_isolated (rfl : TraceMachine.new "resolver" 1 = _)
    (run_producer recorded_hooks.platform ⟨"resolver", 1, ∅⟩ contended) ⟨1, 2⟩

/-- Only the first of its two BEGINs is left out, and both its events are emitted. -/
example : (own_inputs recorded_hooks.platform ⟨1, 2⟩ ⟨⟨"resolver", 1, ∅⟩, []⟩
    contended).length = 2 ∧
    (own_events ⟨1, 2⟩ (contended.foldl (Recorder.take recorded_hooks.platform)
      ⟨⟨"resolver", 1, ∅⟩, []⟩).log).length = 2 := by
  decide +kernel

end ResolverIdentity.Producer
