/-
  ResolverIdentity.Pipeline.Hooks: from the resolver's hooks to the Agent's store.

  Each hook connection of `ri-knot-trace-producer/src/main.rs` has a connection of its own to
  `read_events` of `ri-trace-adapter/src/main.rs`; all of them share the trace machine, the
  spool and what follows it.  Any of them may time out or end at any point, with an event
  still on its way, and either process may be restarted.

  A line is taken to be read back as the event it was written from.  `answered` is not state
  of the source: it lists what was answered with `OK`.

  Main results:
    * `answered_kept`: an event of a frame that was answered with `OK` is not lost;
    * `contexts_released`: every context is held by an open connection;
    * `stored_as_emitted`: of each trace the store holds a first part, as it was emitted;
    * `finished_whole`: a trace whose FINISH was answered with `OK` is in the spool as a whole.
-/
import ResolverIdentity.Pipeline.Delivery
import ResolverIdentity.Producer.Delivery

namespace ResolverIdentity.Pipeline

open Library Store Agent Adapter Producer

/-! ## §1. One connection. -/

/-- The greeting of the adapter. -/
def ADAPTER_PROTOCOL : String := "RI-TRACE/2"

/-- The greeting of the producer. -/
def TRACE_PRODUCER_PROTOCOL : String := "RI-TRACE/2"

/-- What stands on a line of the producer. -/
inductive Line where
  | protocol (text : String)
  | event (event : TraceEventV2)

/-- `read_events` of one connection. -/
structure EventReader where
  /-- Written by the producer and not read yet. -/
  lines : List Line
  first_line : Bool
  durable_ack : Bool
  /-- Written back and not read by the producer yet. -/
  acknowledgements : List String
  ended : Bool

/-- The reader after a line that is no event. -/
def EventReader.started (reader : EventReader) (text : String) (rest : List Line) : EventReader :=
  if reader.first_line ∧ text = TRACE_PRODUCER_PROTOCOL then
    { reader with lines := rest, first_line := false, durable_ack := true }
  else { reader with lines := rest, first_line := false, ended := true }

/-- The reader after an event was offered to the spool. -/
def EventReader.enqueued (reader : EventReader) (event_id : String) (rest : List Line)
    (sent : Bool) : Except AnyError Unit → EventReader
  | .error _ => { reader with lines := rest, first_line := false, ended := true }
  | .ok () =>
    if sent = false then { reader with lines := rest, first_line := false, ended := true }
    else if reader.durable_ack then
      { reader with
        lines := rest
        first_line := false
        acknowledgements := reader.acknowledgements ++ ["OK " ++ event_id] }
    else { reader with lines := rest, first_line := false }

/-- The frame whose events `spool_events` writes. -/
structure Spooling where
  frame : HookFrame
  output : MachineOutput
  /-- The events that are not acknowledged. -/
  remaining : List TraceEventV2
  /-- The first of them is written. -/
  written : Bool

/-- `handle_hook` of one connection, with the reader at the other end. -/
structure HookConnection where
  /-- `ConnectionContexts` -/
  keys : List RequestKey
  spooling : Option Spooling
  ended : Bool
  reader : EventReader

/-- A connection after `handle_hook` has written the protocol line. -/
def HookConnection.new : HookConnection where
  keys := []
  spooling := none
  ended := false
  reader := ⟨[.protocol ADAPTER_PROTOCOL], true, false, [], false⟩

/-- An output that was answered with `OK`. -/
structure Answer where
  frame : HookFrame
  output : MachineOutput

/-- What one connection works on. -/
structure Local where
  recorder : Recorder
  connection : HookConnection
  pipe : PipelineState
  answered : List Answer

/-- What happens on one connection. -/
inductive ConnectionStep where
  /-- A frame is read, and processed under the lock. -/
  | frame (frame : HookFrame) (given : Given)
  | write
  | acknowledge
  /-- All events are acknowledged; the hook's end may be closed. -/
  | answer (written : Bool)
  /-- A timeout or an error while the events are spooled. -/
  | fail
  /-- The end of the stream, or no further frame can be read. -/
  | hang_up
  /-- The reader takes a line; the acknowledgement cannot always be written. -/
  | read (sent : Bool)
  /-- The line cannot be read. -/
  | cut

/-- `MachineOutput::is_terminal` -/
def is_terminal : MachineOutput → Bool
  | .events _ => false
  | .terminal _ => true

/-- `ConnectionContexts::insert` -/
def insert_key (key : RequestKey) (keys : List RequestKey) : List RequestKey :=
  if key ∈ keys then keys else keys ++ [key]

/-- `ConnectionContexts::remove` -/
def remove_key (key : RequestKey) (keys : List RequestKey) : List RequestKey :=
  keys.filter (fun other => other ≠ key)

namespace Local

/-- `handle_hook` returns: `ConnectionContexts` is dropped. -/
def close (l : Local) : Local :=
  { l with
    recorder := ⟨l.connection.keys.foldl TraceMachine.abort l.recorder.machine, l.recorder.log⟩
    connection := { l.connection with keys := [], spooling := none, ended := true } }

/-- A frame of an idle connection. -/
def process (P : Platform) (l : Local) (frame : HookFrame) (given : Given) : Local :=
  let after : Local := { l with recorder := l.recorder.take P (.hook frame given) }
  match (l.recorder.machine.process P frame given).1 with
  | .error _ => after.close
  | .ok output =>
    { after with connection := { l.connection with
        keys := if frame.kind = .begin then insert_key frame.key l.connection.keys
          else l.connection.keys
        spooling := some ⟨frame, output, output.emitted, false⟩ } }

/-- The `OK` of a frame. -/
def conclude (l : Local) (frame : HookFrame) (output : MachineOutput) : Local :=
  { l with
    connection := { l.connection with
      keys := if is_terminal output then remove_key frame.key l.connection.keys
        else l.connection.keys
      spooling := none }
    answered := l.answered ++ [⟨frame, output⟩] }

/-- The context is given up, and so is the connection. -/
def give_up (l : Local) (frame : HookFrame) : Local :=
  { l with recorder := ⟨l.recorder.machine.abort frame.key, l.recorder.log⟩ }.close

/-- The connection reads on from here. -/
def with_reader (l : Local) (reader : EventReader) : Local :=
  { l with connection := { l.connection with reader := reader } }

/-- One turn of the loop of `read_events`. -/
def read_line (cfg : WorkerConfig) (server_id : String) (l : Local) (sent : Bool) : Line →
    List Line → Option Local
  | .protocol text, rest => some (l.with_reader (l.connection.reader.started text rest))
  | .event event, rest =>
    (l.pipe.step cfg server_id (.adapter (.enqueue event))).map (fun pipe =>
      { l with pipe }.with_reader (l.connection.reader.enqueued event.event_id rest sent
        (l.pipe.adapter.spool.enqueue event).1))

/-- One step of a connection, where it is possible. -/
def step (P : Platform) (cfg : WorkerConfig) (server_id : String) (l : Local) :
    ConnectionStep → Option Local
  | .frame frame given =>
    if l.connection.ended then none
    else match l.connection.spooling with
      | some _ => none
      | none => some (l.process P frame given)
  | .write =>
    l.connection.spooling.bind (fun sp =>
      match sp.written, sp.remaining with
      | false, event :: _ =>
        some { l with connection := { l.connection with
          spooling := some { sp with written := true }
          reader := { l.connection.reader with
            lines := l.connection.reader.lines ++ [.event event] } } }
      | _, _ => none)
  | .acknowledge =>
    l.connection.spooling.bind (fun sp =>
      match sp.written, sp.remaining, l.connection.reader.acknowledgements with
      | true, event :: rest, text :: others =>
        if text ≠ "OK " ++ event.event_id then some (l.give_up sp.frame)
        else some { l with connection := { l.connection with
          spooling := some { sp with remaining := rest, written := false }
          reader := { l.connection.reader with acknowledgements := others } } }
      | _, _, _ => none)
  | .answer written =>
    l.connection.spooling.bind (fun sp =>
      match sp.remaining with
      | [] => some (if written then l.conclude sp.frame sp.output else l.close)
      | _ :: _ => none)
  | .fail =>
    l.connection.spooling.bind (fun sp =>
      match sp.remaining with
      | [] => none
      | _ :: _ => some (l.give_up sp.frame))
  | .hang_up =>
    if l.connection.ended then none
    else match l.connection.spooling with
      | some _ => none
      | none => some l.close
  | .read sent =>
    if l.connection.reader.ended then none
    else match l.connection.reader.lines with
      | [] => none
      | line :: rest => l.read_line cfg server_id sent line rest
  | .cut => some (l.with_reader { l.connection.reader with ended := true })

end Local

/-! ## §2. The system. -/

/-- The machine, its connections, and the pipeline they deliver into. -/
structure HookState where
  recorder : Recorder
  connections : List HookConnection
  pipe : PipelineState
  answered : List Answer

/-- A step of one of the connections, or a new one. -/
inductive HookStep where
  | accept
  | connection (index : Nat) (step : ConnectionStep)
  /-- The producer is restarted, with an empty machine. -/
  | restart
  /-- The other producers, the worker, the network and the Agent. -/
  | pipeline (step : PipelineStep)

/-- The connection as a restart of the adapter leaves it. -/
def HookConnection.cut_off (connection : HookConnection) : HookConnection :=
  { connection with reader := { connection.reader with lines := [], ended := true } }

/-- The connection as a restart of the producer leaves it. -/
def HookConnection.dropped (connection : HookConnection) : HookConnection :=
  { connection with keys := [], spooling := none, ended := true }

namespace HookState

/-- What the connection works on. -/
def view (s : HookState) (connection : HookConnection) : Local :=
  ⟨s.recorder, connection, s.pipe, s.answered⟩

/-- A connection's step seen in the shared state. -/
def merge (s : HookState) (index : Nat) (l : Local) : HookState :=
  ⟨l.recorder, s.connections.set index l.connection, l.pipe, l.answered⟩

/-- One step of any connection, where it is possible. -/
def step (P : Platform) (cfg : WorkerConfig) (server_id : String) (s : HookState) :
    HookStep → Option HookState
  | .accept => some { s with connections := s.connections ++ [HookConnection.new] }
  | .connection index step =>
    s.connections[index]?.bind (fun connection =>
      ((s.view connection).step P cfg server_id step).map (s.merge index))
  | .restart =>
    some { s with
      recorder := ⟨{ s.recorder.machine with contexts := ∅ }, s.recorder.log⟩
      connections := s.connections.map HookConnection.dropped }
  | .pipeline step =>
    (s.pipe.step cfg server_id step).map (fun pipe =>
      match step with
      | .adapter .restart => { s with pipe, connections := s.connections.map HookConnection.cut_off }
      | _ => { s with pipe })

end HookState

/-- Producer, adapter and Agent from an empty spool and an empty store on. -/
def hooks (P : Platform) (cfg : WorkerConfig) (max_events : Nat) (server_id : String)
    (m : TraceMachine) : Machine HookState HookStep where
  init := ⟨⟨m, []⟩, [], (pipeline cfg max_events server_id).init, []⟩
  step := HookState.step P cfg server_id

/-! ## §3. What a step can do. -/

/-- The trace id a step draws. -/
def ConnectionStep.drawn : ConnectionStep → Option String
  | .frame hook given => (Input.hook hook given).drawn
  | _ => none

/-- The trace id a step draws. -/
def HookStep.drawn : HookStep → Option String
  | .connection _ step => step.drawn
  | _ => none

namespace Local

variable {P : Platform} {cfg : WorkerConfig} {server_id : String} {l l' : Local}

/-- What a step of a connection can do. -/
inductive Moves (P : Platform) (cfg : WorkerConfig) (server_id : String) (l : Local) :
    ConnectionStep → Local → Prop where
  | accepted {frame : HookFrame} {given : Given} {output : MachineOutput} {m : TraceMachine}
    (hidle : l.connection.spooling = none) (hopen : l.connection.ended = false)
    (haccepted : Producer.Accepted P l.recorder.machine frame given output m)
    (htake : l.recorder.take P (.hook frame given) =
      ⟨m, l.recorder.log ++ output.emitted.map (Emitted.mk frame)⟩) :
    Moves P cfg server_id l (.frame frame given)
      { l with
        recorder := ⟨m, l.recorder.log ++ output.emitted.map (Emitted.mk frame)⟩
        connection := { l.connection with
          keys := if frame.kind = .begin then insert_key frame.key l.connection.keys
            else l.connection.keys
          spooling := some ⟨frame, output, output.emitted, false⟩ } }
  | rejected {frame : HookFrame} {given : Given} {m : TraceMachine}
    (htake : l.recorder.take P (.hook frame given) = ⟨m, l.recorder.log⟩)
    (hkept : ∀ key context, m.contexts.lookup key = some context →
      l.recorder.machine.contexts.lookup key = some context) :
    Moves P cfg server_id l (.frame frame given) { l with recorder := ⟨m, l.recorder.log⟩ }.close
  | written {sp : Spooling} {event : TraceEventV2} {rest : List TraceEventV2}
    (hspooling : l.connection.spooling = some sp) (hwritten : sp.written = false)
    (hremaining : sp.remaining = event :: rest) :
    Moves P cfg server_id l .write { l with connection := { l.connection with
      spooling := some { sp with written := true }
      reader := { l.connection.reader with
        lines := l.connection.reader.lines ++ [.event event] } } }
  | acknowledged {sp : Spooling} {event : TraceEventV2} {rest : List TraceEventV2}
    {others : List String} (hspooling : l.connection.spooling = some sp)
    (hwritten : sp.written = true) (hremaining : sp.remaining = event :: rest)
    (htext : l.connection.reader.acknowledgements = ("OK " ++ event.event_id) :: others) :
    Moves P cfg server_id l .acknowledge { l with connection := { l.connection with
      spooling := some { sp with remaining := rest, written := false }
      reader := { l.connection.reader with acknowledgements := others } } }
  | gave_up {step : ConnectionStep} {sp : Spooling} (hdrawn : step.drawn = none)
    (hspooling : l.connection.spooling = some sp) :
    Moves P cfg server_id l step (l.give_up sp.frame)
  | concluded {sp : Spooling} (hspooling : l.connection.spooling = some sp)
    (hremaining : sp.remaining = []) :
    Moves P cfg server_id l (.answer true) (l.conclude sp.frame sp.output)
  | closed {step : ConnectionStep} (hdrawn : step.drawn = none) :
    Moves P cfg server_id l step l.close
  | skipped {step : ConnectionStep} {reader : EventReader} (hdrawn : step.drawn = none)
    (hlines : reader.lines <:+ l.connection.reader.lines)
    (hacknowledgements : reader.acknowledgements = l.connection.reader.acknowledgements) :
    Moves P cfg server_id l step (l.with_reader reader)
  | taken {sent : Bool} {event : TraceEventV2} {reader : EventReader} {pipe : PipelineState}
    (hline : l.connection.reader.lines = .event event :: reader.lines)
    (hpipe : l.pipe.step cfg server_id (.adapter (.enqueue event)) = some pipe)
    (hacknowledgements : reader.acknowledgements = l.connection.reader.acknowledgements ∨
      (l.pipe.adapter.spool.enqueue event).1 = .ok () ∧ reader.acknowledgements =
        l.connection.reader.acknowledgements ++ ["OK " ++ event.event_id]) :
    Moves P cfg server_id l (.read sent) ({ l with pipe }.with_reader reader)

theorem moves_of_process (hopen : l.connection.ended = false)
    (hidle : l.connection.spooling = none) (frame : HookFrame) (given : Given) :
    Moves P cfg server_id l (.frame frame given) (l.process P frame given) := by
  unfold process
  cases hprocess : l.recorder.machine.process P frame given with
  | mk result m =>
    have htake : l.recorder.take P (.hook frame given) = match result with
        | .ok output => ⟨m, l.recorder.log ++ output.emitted.map (Emitted.mk frame)⟩
        | .error _ => ⟨m, l.recorder.log⟩ := by
      unfold Recorder.take
      simp only [hprocess]
      cases result <;> rfl
    cases result with
    | ok output =>
      have haccepted := process_accepted hprocess
      show Moves P cfg server_id l _ { l with
        recorder := l.recorder.take P (.hook frame given), connection := _ }
      rw [htake]
      exact .accepted hidle hopen haccepted htake
    | error error =>
      show Moves P cfg server_id l _
        (close { l with recorder := l.recorder.take P (.hook frame given) })
      rw [htake]
      refine .rejected htake (fun key context hlive => ?_)
      rcases process_rejected hprocess with hsame | ⟨_, rfl⟩
      · exact hsame.lookup key ▸ hlive
      · exact (lookup_abort_eq_some.mp hlive).2

theorem moves_of_read {sent : Bool} {line : Line} {rest : List Line}
    (hlines : l.connection.reader.lines = line :: rest)
    (h : l.read_line cfg server_id sent line rest = some l') :
    Moves P cfg server_id l (.read sent) l' := by
  cases line with
  | protocol text =>
    obtain rfl := Option.some.inj h
    have hreader : (l.connection.reader.started text rest).lines = rest ∧
        (l.connection.reader.started text rest).acknowledgements =
          l.connection.reader.acknowledgements := by
      unfold EventReader.started
      split <;> exact ⟨rfl, rfl⟩
    refine .skipped rfl ?_ hreader.2
    rw [hreader.1, hlines]
    exact List.suffix_cons _ _
  | event event =>
    unfold read_line at h
    obtain ⟨pipe, hpipe, rfl⟩ := Option.map_eq_some_iff.mp h
    have hrest : ∀ outcome, (l.connection.reader.enqueued event.event_id rest sent outcome).lines =
        rest := by
      intro outcome
      unfold EventReader.enqueued
      repeat' split
      all_goals rfl
    refine .taken (hlines.trans (by rw [hrest])) hpipe ?_
    cases henqueue : (l.pipe.adapter.spool.enqueue event).1 with
    | error error => exact Or.inl rfl
    | ok _ =>
      unfold EventReader.enqueued
      dsimp only
      split
      · exact Or.inl rfl
      · split
        · exact Or.inr ⟨rfl, rfl⟩
        · exact Or.inl rfl

theorem moves_of_step {step : ConnectionStep} (h : l.step P cfg server_id step = some l') :
    Moves P cfg server_id l step l' := by
  unfold Local.step at h
  cases step with
  | frame frame given =>
    cases hended : l.connection.ended with
    | true => simp [hended] at h
    | false =>
      cases hspooling : l.connection.spooling with
      | some sp => simp [hended, hspooling] at h
      | none =>
        simp only [hended, hspooling] at h
        obtain rfl := Option.some.inj h
        exact moves_of_process hended hspooling frame given
  | write =>
    obtain ⟨sp, hspooling, h⟩ := Option.bind_eq_some_iff.mp h
    split at h
    · rename_i event rest hwritten hremaining
      obtain rfl := Option.some.inj h
      exact .written hspooling hwritten hremaining
    · cases h
  | acknowledge =>
    obtain ⟨sp, hspooling, h⟩ := Option.bind_eq_some_iff.mp h
    split at h
    · rename_i event rest text others hwritten hremaining htext
      split at h
      · obtain rfl := Option.some.inj h
        exact .gave_up rfl hspooling
      · rename_i hmatch
        obtain rfl := Option.some.inj h
        rw [not_not] at hmatch
        exact .acknowledged hspooling hwritten hremaining (hmatch ▸ htext)
    · cases h
  | answer written =>
    obtain ⟨sp, hspooling, h⟩ := Option.bind_eq_some_iff.mp h
    split at h
    · rename_i hremaining
      obtain rfl := Option.some.inj h
      cases written with
      | true => exact .concluded hspooling hremaining
      | false => exact .closed rfl
    · cases h
  | fail =>
    obtain ⟨sp, hspooling, h⟩ := Option.bind_eq_some_iff.mp h
    split at h
    · cases h
    · obtain rfl := Option.some.inj h
      exact .gave_up rfl hspooling
  | hang_up =>
    cases hended : l.connection.ended with
    | true => simp [hended] at h
    | false =>
      cases hspooling : l.connection.spooling with
      | some sp => simp [hended, hspooling] at h
      | none =>
        simp only [hended, hspooling] at h
        obtain rfl := Option.some.inj h
        exact .closed rfl
  | read sent =>
    cases hended : l.connection.reader.ended with
    | true => simp [hended] at h
    | false =>
      cases hlines : l.connection.reader.lines with
      | nil => simp [hended, hlines] at h
      | cons line rest =>
        simp only [hended, hlines] at h
        exact moves_of_read hlines h
  | cut =>
    obtain rfl := Option.some.inj h
    exact .skipped rfl (List.suffix_refl _) rfl

end Local

namespace HookState

variable {P : Platform} {cfg : WorkerConfig} {server_id : String} {s s' : HookState}

/-- What a step of the system can do. -/
inductive Moves (P : Platform) (cfg : WorkerConfig) (server_id : String) (s : HookState) :
    HookStep → HookState → Prop where
  | accept : Moves P cfg server_id s .accept
      { s with connections := s.connections ++ [HookConnection.new] }
  | connection {index : Nat} {connection : HookConnection} {step : ConnectionStep} {l : Local}
    (hfound : s.connections[index]? = some connection)
    (hmoves : Local.Moves P cfg server_id (s.view connection) step l) :
    Moves P cfg server_id s (.connection index step) (s.merge index l)
  | restart : Moves P cfg server_id s .restart
      { s with
        recorder := ⟨{ s.recorder.machine with contexts := ∅ }, s.recorder.log⟩
        connections := s.connections.map HookConnection.dropped }
  | cut_off {pipe : PipelineState}
    (hpipe : s.pipe.step cfg server_id (.adapter .restart) = some pipe) :
    Moves P cfg server_id s (.pipeline (.adapter .restart))
      { s with pipe, connections := s.connections.map HookConnection.cut_off }
  | pipeline {step : PipelineStep} {pipe : PipelineState}
    (hpipe : s.pipe.step cfg server_id step = some pipe) :
    Moves P cfg server_id s (.pipeline step) { s with pipe }

theorem moves_of_step {step : HookStep} (h : s.step P cfg server_id step = some s') :
    Moves P cfg server_id s step s' := by
  unfold HookState.step at h
  cases step with
  | accept =>
    obtain rfl := Option.some.inj h
    exact .accept
  | connection index step =>
    obtain ⟨connection, hfound, h⟩ := Option.bind_eq_some_iff.mp h
    obtain ⟨l, hstep, rfl⟩ := Option.map_eq_some_iff.mp h
    exact .connection hfound (Local.moves_of_step hstep)
  | restart =>
    obtain rfl := Option.some.inj h
    exact .restart
  | pipeline step =>
    obtain ⟨pipe, hpipe, rfl⟩ := Option.map_eq_some_iff.mp h
    split
    · exact .cut_off hpipe
    · exact .pipeline hpipe

/-- The connections after a step of one of them. -/
theorem mem_merge {index : Nat} {l : Local} {connection : HookConnection}
    (h : connection ∈ (s.merge index l).connections) :
    connection ∈ s.connections ∨ connection = l.connection :=
  List.mem_or_eq_of_mem_set h

end HookState

/-! ## §4. Contexts. -/

theorem lookup_foldl_abort {keys : List RequestKey} :
    ∀ {m : TraceMachine} {key : RequestKey} {context : RequestContext},
      (keys.foldl TraceMachine.abort m).contexts.lookup key = some context →
        key ∉ keys ∧ m.contexts.lookup key = some context := by
  induction keys with
  | nil => intro m key context h; exact ⟨List.not_mem_nil, h⟩
  | cons first rest ih =>
    intro m key context h
    obtain ⟨hrest, h⟩ := ih h
    obtain ⟨hfirst, h⟩ := lookup_abort_eq_some.mp h
    exact ⟨fun hmem => (List.mem_cons.mp hmem).elim hfirst hrest, h⟩

theorem mem_insert_key {key other : RequestKey} {keys : List RequestKey} :
    other ∈ insert_key key keys ↔ other = key ∨ other ∈ keys := by
  unfold insert_key
  split
  · rename_i hmem
    exact ⟨Or.inr, fun h => h.elim (fun heq => heq ▸ hmem) id⟩
  · rw [List.mem_append, List.mem_singleton, or_comm]

/-- The connection will give the context up when it ends. -/
structure HookConnection.Holds (connection : HookConnection) (key : RequestKey) : Prop where
  live : connection.ended = false
  held : key ∈ connection.keys
  /-- It is not about to forget the key. -/
  kept : ∀ sp ∈ connection.spooling, is_terminal sp.output = true → key ≠ sp.frame.key

/-- Every context is held after a step of the connection, if it was before. -/
theorem Local.Moves.holds {P : Platform} {cfg : WorkerConfig} {server_id : String} {l l' : Local}
    {step : ConnectionStep} (h : Local.Moves P cfg server_id l step l') {key : RequestKey}
    {context' : RequestContext} (hlive : l'.recorder.machine.contexts.lookup key = some context') :
    l'.connection.Holds key ∨ (∃ context, l.recorder.machine.contexts.lookup key = some context) ∧
      (l.connection.Holds key → l'.connection.Holds key) := by
  have hclosed : ∀ {m : TraceMachine} {context : RequestContext},
      (l.connection.keys.foldl TraceMachine.abort m).contexts.lookup key = some context →
        ∀ connection : HookConnection, l.connection.Holds key → connection.Holds key := by
    intro m context hlookup connection hholds
    exact absurd hholds.held (lookup_foldl_abort hlookup).1
  cases h with
  | @accepted frame given output m hidle hopen haccepted htake =>
    have hkept : ∀ key, l.connection.Holds key → key ∈
        if frame.kind = .begin then insert_key frame.key l.connection.keys
          else l.connection.keys := by
      intro key hholds
      split
      · exact mem_insert_key.mpr (Or.inr hholds.held)
      · exact hholds.held
    cases haccepted with
    | begun correlation_id hkind =>
      by_cases hkey : key = frame.key
      · refine Or.inl ⟨hopen, ?_, ?_⟩
        · show key ∈ if frame.kind = .begin then _ else _
          rw [if_pos hkind]
          exact mem_insert_key.mpr (Or.inl hkey)
        · rintro sp hsp hterminal
          obtain rfl := Option.some.inj hsp
          cases hterminal
      · refine Or.inr ⟨⟨_, (lookup_store_ne _ _ hkey).symm.trans hlive⟩, fun hholds => ?_⟩
        refine ⟨hopen, hkept key hholds, ?_⟩
        rintro sp hsp hterminal
        obtain rfl := Option.some.inj hsp
        cases hterminal
    | moved context events context'' hkind hfound hmove =>
      have hbefore : ∃ context, l.recorder.machine.contexts.lookup key = some context := by
        by_cases hkey : key = frame.key
        · exact ⟨context, hkey ▸ hfound⟩
        · exact ⟨_, (lookup_store_ne _ _ hkey).symm.trans hlive⟩
      refine Or.inr ⟨hbefore, fun hholds => ⟨hopen, hkept key hholds, ?_⟩⟩
      rintro sp hsp hterminal
      obtain rfl := Option.some.inj hsp
      cases hterminal
    | finished context events hkind hwire hfound hfinish =>
      -- the context is gone, though the key is kept until the answer
      obtain ⟨hkey, hbefore⟩ := lookup_abort_eq_some.mp hlive
      refine Or.inr ⟨⟨_, hbefore⟩, fun hholds => ⟨hopen, hkept key hholds, ?_⟩⟩
      rintro sp hsp _
      obtain rfl := Option.some.inj hsp
      exact hkey
  | rejected htake hkept =>
    have hbefore := (lookup_foldl_abort hlive).2
    exact Or.inr ⟨⟨_, hkept key _ hbefore⟩, hclosed hlive _⟩
  | @written sp event rest hspooling hwritten hremaining =>
    refine Or.inr ⟨⟨_, hlive⟩, fun hholds => ⟨hholds.live, hholds.held, ?_⟩⟩
    rintro after hafter hterminal
    obtain rfl := Option.some.inj hafter
    exact hholds.kept sp hspooling hterminal
  | @acknowledged sp event rest others hspooling hwritten hremaining htext =>
    refine Or.inr ⟨⟨_, hlive⟩, fun hholds => ⟨hholds.live, hholds.held, ?_⟩⟩
    rintro after hafter hterminal
    obtain rfl := Option.some.inj hafter
    exact hholds.kept sp hspooling hterminal
  | gave_up hdrawn hspooling =>
    have hbefore := (lookup_abort_eq_some.mp (lookup_foldl_abort hlive).2).2
    exact Or.inr ⟨⟨_, hbefore⟩, hclosed hlive _⟩
  | @concluded sp hspooling hremaining =>
    refine Or.inr ⟨⟨_, hlive⟩, fun hholds => ⟨hholds.live, ?_, ?_⟩⟩
    · show key ∈ if is_terminal sp.output then remove_key sp.frame.key l.connection.keys
        else l.connection.keys
      split
      · rename_i hterminal
        have hne := hholds.kept sp hspooling hterminal
        exact List.mem_filter.mpr ⟨hholds.held, decide_eq_true hne⟩
      · exact hholds.held
    · rintro sp' hsp'
      cases hsp'
  | closed hdrawn =>
    exact Or.inr ⟨⟨_, (lookup_foldl_abort hlive).2⟩, hclosed hlive _⟩
  | skipped hdrawn hlines hacknowledgements =>
    exact Or.inr ⟨⟨_, hlive⟩, fun hholds => ⟨hholds.live, hholds.held, hholds.kept⟩⟩
  | taken hline hpipe hacknowledgements =>
    exact Or.inr ⟨⟨_, hlive⟩, fun hholds => ⟨hholds.live, hholds.held, hholds.kept⟩⟩

/-- Every context is held by a connection. -/
def Covered (s : HookState) : Prop :=
  ∀ key context, s.recorder.machine.contexts.lookup key = some context →
    ∃ connection ∈ s.connections, connection.Holds key

section Runs

variable {P : Platform} {cfg : WorkerConfig} {max_events max_contexts : Nat} {server_id : String}
variable {m : TraceMachine} {steps : List HookStep} {s s' : HookState}

theorem Covered.step (h : Covered s) {step : HookStep}
    (hstep : (hooks P cfg max_events server_id m).step s step = some s') : Covered s' := by
  intro key context hlive
  cases HookState.moves_of_step hstep with
  | accept =>
    obtain ⟨connection, hmem, hholds⟩ := h key context hlive
    exact ⟨connection, List.mem_append_left _ hmem, hholds⟩
  | @connection index connection step l hfound hmoves =>
    have hbound : index < s.connections.length := (List.getElem?_eq_some_iff.mp hfound).1
    have hnew : l.connection ∈ (s.merge index l).connections := List.mem_set hbound _
    rcases hmoves.holds hlive with hholds | ⟨⟨before, hbefore⟩, hkept⟩
    · exact ⟨l.connection, hnew, hholds⟩
    · obtain ⟨other, hmem, hholds⟩ := h key before hbefore
      obtain ⟨place, hplace⟩ := List.mem_iff_getElem?.mp hmem
      by_cases hsame : place = index
      · -- it was the connection that took the step
        rw [hsame, hfound] at hplace
        obtain rfl := Option.some.inj hplace
        exact ⟨l.connection, hnew, hkept hholds⟩
      · refine ⟨other, List.mem_iff_getElem?.mpr ⟨place, ?_⟩, hholds⟩
        show (s.connections.set index l.connection)[place]? = some other
        rw [List.getElem?_set_ne (Ne.symm hsame)]
        exact hplace
  | restart => cases hlive
  | cut_off hpipe =>
    obtain ⟨connection, hmem, hholds⟩ := h key context hlive
    exact ⟨connection.cut_off, List.mem_map_of_mem hmem, hholds.live, hholds.held, hholds.kept⟩
  | pipeline hpipe => exact h key context hlive

/-- **No context outlives its connection**: each is held by an open one, and where none is open
the machine has its whole capacity back. -/
theorem contexts_released (hnew : TraceMachine.new server_id max_contexts = .ok m)
    (hrun : (hooks P cfg max_events server_id m).run steps = some s) :
    (∀ key context, s.recorder.machine.contexts.lookup key = some context →
      ∃ connection ∈ s.connections, connection.ended = false ∧ key ∈ connection.keys) ∧
      ((∀ connection ∈ s.connections, connection.ended = true) →
        s.recorder.machine.active_contexts = 0) := by
  have hcovered : Covered s := by
    refine Machine.invariant (M := hooks P cfg max_events server_id m) ?_ ?_ hrun
    · intro key context hlive
      have hnone : m.contexts.lookup key = some context := hlive
      rw [(new_eq_ok hnew).1] at hnone
      cases hnone
    · exact fun _ _ _ h hstep => h.step hstep
  refine ⟨fun key context hlive => ?_, fun hended => ?_⟩
  · obtain ⟨connection, hmem, hholds⟩ := hcovered key context hlive
    exact ⟨connection, hmem, hholds.live, hholds.held⟩
  · unfold TraceMachine.active_contexts
    rw [List.length_eq_zero_iff, List.eq_nil_iff_forall_not_mem]
    rintro ⟨key, context⟩ hmem
    obtain ⟨connection, hconnection, hholds⟩ := hcovered key context (AList.mem_lookup_iff.mpr hmem)
    have hlive := hholds.live
    rw [hended connection hconnection] at hlive
    cases hlive

end Runs

/-! ## §5. Answers. -/

/-- The event of a line. -/
def Line.event? : Line → Option TraceEventV2
  | .protocol _ => none
  | .event value => some value

/-- The events on their way to the spool. -/
def EventReader.in_flight (reader : EventReader) : List TraceEventV2 :=
  reader.lines.filterMap Line.event?

/-- One event at a time is on its way or acknowledged. -/
structure Channel (accepted : List TraceEventV2) (connection : HookConnection) : Prop where
  quiet : (∀ sp ∈ connection.spooling, sp.written = false) →
    connection.reader.in_flight = [] ∧ connection.reader.acknowledgements = []
  written : ∀ sp ∈ connection.spooling, sp.written = true → ∃ event rest,
    sp.remaining = event :: rest ∧
      connection.reader.in_flight.length + connection.reader.acknowledgements.length ≤ 1 ∧
      (∀ other ∈ connection.reader.in_flight, other = event) ∧
      (connection.reader.acknowledgements ≠ [] → event ∈ accepted)
  progress : ∀ sp ∈ connection.spooling, ∃ done, sp.output.emitted = done ++ sp.remaining ∧
    ∀ event ∈ done, event ∈ accepted

/-- Nothing is asked of a connection that has ended. -/
structure Carried (accepted : List TraceEventV2) (connection : HookConnection) : Prop where
  live : ∀ sp ∈ connection.spooling, connection.ended = false
  channel : connection.ended = false → Channel accepted connection

theorem Carried.spooled {accepted : List TraceEventV2} {connection : HookConnection}
    (h : Carried accepted connection) {sp : Spooling} (hsp : connection.spooling = some sp) :
    Channel accepted connection :=
  h.channel (h.live sp hsp)

variable {accepted accepted' : List TraceEventV2} {connection : HookConnection}

theorem Channel.mono (h : Channel accepted connection)
    (hsub : ∀ event ∈ accepted, event ∈ accepted') : Channel accepted' connection := by
  refine ⟨h.quiet, ?_, ?_⟩
  · intro sp hsp hwritten
    obtain ⟨event, rest, hremaining, hone, hflight, hacknowledged⟩ := h.written sp hsp hwritten
    exact ⟨event, rest, hremaining, hone, hflight, fun hne => hsub event (hacknowledged hne)⟩
  · intro sp hsp
    obtain ⟨done, hoffered, hdone⟩ := h.progress sp hsp
    exact ⟨done, hoffered, fun event hmem => hsub event (hdone event hmem)⟩

/-- A reader that has lost lines or stopped. -/
theorem Channel.skip (h : Channel accepted connection) {reader : EventReader}
    (hflight : reader.in_flight <:+ connection.reader.in_flight)
    (hacknowledgements : reader.acknowledgements = connection.reader.acknowledgements) :
    Channel accepted { connection with reader } := by
  refine ⟨fun hquiet => ?_, fun sp hsp hwritten => ?_, h.progress⟩
  · obtain ⟨hlines, hnone⟩ := h.quiet hquiet
    rw [hlines] at hflight
    exact ⟨List.suffix_nil.mp hflight, hacknowledgements.trans hnone⟩
  · obtain ⟨event, rest, hremaining, hone, hsame, hacknowledged⟩ := h.written sp hsp hwritten
    have hlength := hflight.length_le
    refine ⟨event, rest, hremaining, ?_, fun other hmem => hsame other (hflight.mem hmem), ?_⟩
    · show reader.in_flight.length + reader.acknowledgements.length ≤ 1
      rw [hacknowledgements]
      omega
    · show reader.acknowledgements ≠ [] → _
      rw [hacknowledgements]
      exact hacknowledged

/-- An event is taken from the lines, and perhaps acknowledged. -/
theorem Channel.take (h : Channel accepted connection) {reader : EventReader}
    {event : TraceEventV2} (hflight : connection.reader.in_flight = event :: reader.in_flight)
    (hsub : ∀ event ∈ accepted, event ∈ accepted')
    (hacknowledgements : reader.acknowledgements = connection.reader.acknowledgements ∨
      event ∈ accepted' ∧ reader.acknowledgements =
        connection.reader.acknowledgements ++ ["OK " ++ event.event_id]) :
    Channel accepted' { connection with reader } := by
  refine ⟨fun hquiet => ?_, fun sp hsp hwritten => ?_, (h.mono hsub).progress⟩
  · rw [(h.quiet hquiet).1] at hflight
    cases hflight
  · obtain ⟨first, rest, hremaining, hone, hsame, _⟩ := h.written sp hsp hwritten
    rw [hflight, List.length_cons] at hone
    have hnone : reader.in_flight = [] := List.length_eq_zero_iff.mp (by omega)
    have hbefore : connection.reader.acknowledgements = [] :=
      List.length_eq_zero_iff.mp (by omega)
    obtain rfl : event = first := hsame event (hflight ▸ List.mem_cons_self)
    refine ⟨event, rest, hremaining, ?_, ?_, ?_⟩
    · show reader.in_flight.length + reader.acknowledgements.length ≤ 1
      rcases hacknowledgements with hkept | ⟨_, hnew⟩
      · rw [hnone, hkept, hbefore]
        exact Nat.zero_le 1
      · rw [hnone, hnew, hbefore]
        exact Nat.le_refl 1
    · show ∀ other ∈ reader.in_flight, other = event
      rw [hnone]
      exact fun other hmem => (List.not_mem_nil hmem).elim
    · show reader.acknowledgements ≠ [] → _
      intro hne
      rcases hacknowledgements with hkept | ⟨hmem, _⟩
      · exact absurd (hkept.trans hbefore) hne
      · exact hmem

/-- The spool only accepts more. -/
theorem accepted_of_pipeline {cfg : WorkerConfig} {server_id : String} {p p' : PipelineState}
    {step : PipelineStep} (h : p.step cfg server_id step = some p') :
    ∀ event ∈ p.adapter.accepted, event ∈ p'.adapter.accepted := by
  cases PipelineState.moves_of_step h with
  | adapter hother hstep => exact PipelineState.accepted_of_step hstep
  | _ => exact fun event hmem => hmem

/-- An event that the spool does not refuse is accepted. -/
theorem accepted_of_enqueue {cfg : WorkerConfig} {server_id : String} {p p' : PipelineState}
    {event : TraceEventV2} (h : p.step cfg server_id (.adapter (.enqueue event)) = some p')
    (hok : (p.adapter.spool.enqueue event).1 = .ok ()) : event ∈ p'.adapter.accepted := by
  cases PipelineState.moves_of_step h with
  | adapter hother hstep =>
    obtain rfl := Option.some.inj hstep
    exact PipelineState.mem_accept_log.mpr (Or.inr ⟨hok, rfl⟩)

theorem Local.Moves.live {P : Platform} {cfg : WorkerConfig} {server_id : String}
    {l l' : Local} {step : ConnectionStep} (h : Local.Moves P cfg server_id l step l')
    (hlive : ∀ sp ∈ l.connection.spooling, l.connection.ended = false) :
    ∀ sp ∈ l'.connection.spooling, l'.connection.ended = false := by
  intro after hafter
  cases h with
  | accepted hidle hopen haccepted htake => exact hopen
  | written hspooling hwritten hremaining => exact hlive _ hspooling
  | acknowledged hspooling hwritten hremaining htext => exact hlive _ hspooling
  | skipped hdrawn hlines hacknowledgements => exact hlive after hafter
  | taken hline hpipe hacknowledgements => exact hlive after hafter
  | _ => cases hafter

theorem Local.Moves.channel {P : Platform} {cfg : WorkerConfig} {server_id : String}
    {l l' : Local} {step : ConnectionStep} (h : Local.Moves P cfg server_id l step l')
    (hcarried : Carried l.pipe.adapter.accepted l.connection)
    (hopen : l'.connection.ended = false) :
    Channel l'.pipe.adapter.accepted l'.connection := by
  cases h with
  | @accepted frame given output m hidle hlive haccepted htake =>
    -- a frame is taken only while nothing is in flight, and nothing of it is written yet
    have hchannel := hcarried.channel hlive
    have hquiet := hchannel.quiet (fun sp hsp => by rw [hidle] at hsp; cases hsp)
    refine ⟨fun _ => hquiet, ?_, ?_⟩
    · rintro sp hsp hwritten
      obtain rfl := Option.some.inj hsp
      cases hwritten
    · rintro sp hsp
      obtain rfl := Option.some.inj hsp
      exact ⟨[], rfl, fun event hmem => (List.not_mem_nil hmem).elim⟩
  | rejected htake hkept => cases hopen
  | @written sp event rest hspooling hwritten hremaining =>
    -- only the first remaining event is in flight
    have hchannel := hcarried.spooled hspooling
    obtain ⟨hflight, hnone⟩ := hchannel.quiet (fun other hother => by
      rw [hspooling] at hother
      rw [← Option.some.inj hother]
      exact hwritten)
    have hnow : ({ l.connection.reader with
        lines := l.connection.reader.lines ++ [Line.event event] } : EventReader).in_flight =
          [event] := by
      unfold EventReader.in_flight at hflight ⊢
      rw [List.filterMap_append, hflight]
      rfl
    refine ⟨fun hquiet => ?_, ?_, ?_⟩
    · have hfalse := hquiet _ rfl
      cases hfalse
    · rintro after hafter _
      obtain rfl := Option.some.inj hafter
      refine ⟨event, rest, hremaining, ?_, ?_, fun hne => absurd hnone hne⟩
      · rw [hnow]
        show 1 + l.connection.reader.acknowledgements.length ≤ 1
        rw [hnone]
        exact Nat.le_refl 1
      · rw [hnow]
        exact fun other hmem => List.mem_singleton.mp hmem
    · rintro after hafter
      obtain rfl := Option.some.inj hafter
      exact hchannel.progress sp hspooling
  | @acknowledged sp event rest others hspooling hwritten hremaining htext =>
    -- one event was in flight, so the acknowledgement is of it and both sides are empty again
    have hchannel := hcarried.spooled hspooling
    obtain ⟨first, rest', hfirst, hone, _, hacknowledged⟩ := hchannel.written sp hspooling hwritten
    obtain ⟨rfl, rfl⟩ := List.cons.inj (hremaining.symm.trans hfirst)
    rw [htext, List.length_cons] at hone
    have hflight : l.connection.reader.in_flight = [] := List.length_eq_zero_iff.mp (by omega)
    have hothers : others = [] := List.length_eq_zero_iff.mp (by omega)
    refine ⟨fun _ => ⟨hflight, hothers⟩, ?_, ?_⟩
    · rintro after hafter hfalse
      obtain rfl := Option.some.inj hafter
      cases hfalse
    · rintro after hafter
      obtain rfl := Option.some.inj hafter
      obtain ⟨done, hoffered, hdone⟩ := hchannel.progress sp hspooling
      refine ⟨done ++ [event], ?_, ?_⟩
      · rw [List.append_assoc, List.singleton_append, ← hremaining]
        exact hoffered
      · intro other hmem
        rcases List.mem_append.mp hmem with hold | hnew
        · exact hdone other hold
        · rw [List.mem_singleton.mp hnew]
          exact hacknowledged (by rw [htext]; exact List.cons_ne_nil _ _)
  | gave_up hdrawn hspooling => cases hopen
  | @concluded sp hspooling hremaining =>
    -- an event written and not acknowledged would still remain
    have hchannel := hcarried.spooled hspooling
    have hquiet : l.connection.reader.in_flight = [] ∧
        l.connection.reader.acknowledgements = [] := by
      refine hchannel.quiet (fun other hother => ?_)
      rw [hspooling] at hother
      obtain rfl := Option.some.inj hother
      cases hwritten : sp.written with
      | false => rfl
      | true =>
        obtain ⟨event, rest, hcons, _⟩ := hchannel.written sp hspooling hwritten
        rw [hremaining] at hcons
        cases hcons
    refine ⟨fun _ => hquiet, ?_, ?_⟩
    · intro after hafter
      cases hafter
    · intro after hafter
      cases hafter
  | closed hdrawn => cases hopen
  | skipped hdrawn hlines hacknowledgements =>
    exact (hcarried.channel hopen).skip (hlines.filterMap _) hacknowledgements
  | @taken sent event reader pipe hline hpipe hacknowledgements =>
    -- the reader takes its line, and acknowledges only what the spool has accepted
    have hflight : l.connection.reader.in_flight = event :: reader.in_flight := by
      unfold EventReader.in_flight
      rw [hline]
      rfl
    refine (hcarried.channel hopen).take hflight (accepted_of_pipeline hpipe) ?_
    rcases hacknowledgements with hkept | ⟨hok, hnew⟩
    · exact Or.inl hkept
    · exact Or.inr ⟨accepted_of_enqueue hpipe hok, hnew⟩

theorem carried_of_none {accepted : List TraceEventV2} {connection : HookConnection}
    (hnone : connection.spooling = none)
    (hquiet : connection.ended = false →
      connection.reader.in_flight = [] ∧ connection.reader.acknowledgements = []) :
    Carried accepted connection := by
  have hno : ∀ sp, sp ∉ connection.spooling := by
    intro sp hsp
    rw [hnone] at hsp
    cases hsp
  refine ⟨fun sp hsp => absurd hsp (hno sp), fun hopen => ⟨fun _ => hquiet hopen, ?_, ?_⟩⟩
  · exact fun sp hsp => absurd hsp (hno sp)
  · exact fun sp hsp => absurd hsp (hno sp)

/-- What was answered with `OK` was accepted by the spool. -/
theorem Local.Moves.answered {P : Platform} {cfg : WorkerConfig} {server_id : String}
    {l l' : Local} {step : ConnectionStep} (h : Local.Moves P cfg server_id l step l')
    (hcarried : Carried l.pipe.adapter.accepted l.connection)
    (hanswered : ∀ answer ∈ l.answered, ∀ event ∈ answer.output.emitted,
      event ∈ l.pipe.adapter.accepted) :
    ∀ answer ∈ l'.answered, ∀ event ∈ answer.output.emitted,
      event ∈ l'.pipe.adapter.accepted := by
  cases h with
  | @concluded sp hspooling hremaining =>
    intro answer hanswer event hevent
    rcases List.mem_append.mp hanswer with hold | hnew
    · exact hanswered answer hold event hevent
    · rw [List.mem_singleton.mp hnew] at hevent
      obtain ⟨done, hoffered, hdone⟩ := (hcarried.spooled hspooling).progress sp hspooling
      rw [hremaining, List.append_nil] at hoffered
      exact hdone event (hoffered ▸ hevent)
  | taken hline hpipe hacknowledgements =>
    exact fun answer hanswer event hevent =>
      accepted_of_pipeline hpipe event (hanswered answer hanswer event hevent)
  | _ => exact hanswered

/-- What the answers rest on. -/
structure Reckoned (max_events : Nat) (s : HookState) : Prop where
  pipe : s.pipe.Inv max_events
  carried : ∀ connection ∈ s.connections, Carried s.pipe.adapter.accepted connection
  answered : ∀ answer ∈ s.answered, ∀ event ∈ answer.output.emitted,
    event ∈ s.pipe.adapter.accepted

theorem Carried.mono {accepted accepted' : List TraceEventV2} {connection : HookConnection}
    (h : Carried accepted connection) (hsub : ∀ event ∈ accepted, event ∈ accepted') :
    Carried accepted' connection :=
  ⟨h.live, fun hopen => (h.channel hopen).mono hsub⟩

/-- A connection only sees the pipeline move as a spool, or not at all. -/
theorem Local.Moves.pipe {P : Platform} {cfg : WorkerConfig} {server_id : String}
    {l l' : Local} {step : ConnectionStep} (h : Local.Moves P cfg server_id l step l') :
    l'.pipe = l.pipe ∨ ∃ event, Line.event event ∈ l.connection.reader.lines ∧
      l.pipe.step cfg server_id (.adapter (.enqueue event)) = some l'.pipe := by
  cases h with
  | taken hline hpipe hacknowledgements =>
    exact Or.inr ⟨_, hline ▸ List.mem_cons_self, hpipe⟩
  | _ => exact Or.inl rfl

theorem Local.Moves.accepted_mono {P : Platform} {cfg : WorkerConfig} {server_id : String}
    {l l' : Local} {step : ConnectionStep} (h : Local.Moves P cfg server_id l step l') :
    ∀ event ∈ l.pipe.adapter.accepted, event ∈ l'.pipe.adapter.accepted := by
  rcases h.pipe with hsame | ⟨event, _, hpipe⟩
  · rw [hsame]
    exact fun event hmem => hmem
  · exact accepted_of_pipeline hpipe

section Runs

variable {P : Platform} {cfg : WorkerConfig} {max_events max_contexts : Nat} {server_id : String}
variable {m : TraceMachine} {steps : List HookStep} {s s' : HookState}

theorem Reckoned.step (h : Reckoned max_events s) {step : HookStep}
    (hstep : (hooks P cfg max_events server_id m).step s step = some s') :
    Reckoned max_events s' := by
  cases HookState.moves_of_step hstep with
  | accept =>
    refine ⟨h.pipe, fun connection hmem => ?_, h.answered⟩
    rcases List.mem_append.mp hmem with hold | hnew
    · exact h.carried connection hold
    · rw [List.mem_singleton.mp hnew]
      exact carried_of_none rfl (fun _ => ⟨rfl, rfl⟩)
  | @connection index connection step l hfound hmoves =>
    have hbefore := h.carried connection (List.mem_of_getElem? hfound)
    have hpipe : l.pipe.Inv max_events := by
      rcases hmoves.pipe with hsame | ⟨event, _, hpipe⟩
      · rw [hsame]
        exact h.pipe
      · exact h.pipe.step hpipe
    refine ⟨hpipe, fun other hmem => ?_, hmoves.answered hbefore h.answered⟩
    rcases HookState.mem_merge hmem with hold | rfl
    · exact (h.carried other hold).mono hmoves.accepted_mono
    · exact ⟨hmoves.live hbefore.live, hmoves.channel hbefore⟩
  | restart =>
    refine ⟨h.pipe, fun connection hmem => ?_, h.answered⟩
    obtain ⟨before, _, rfl⟩ := List.mem_map.mp hmem
    refine carried_of_none rfl (fun hopen => ?_)
    cases hopen
  | cut_off hpipe =>
    have hmono := accepted_of_pipeline hpipe
    refine ⟨h.pipe.step hpipe, fun connection hmem => ?_,
      fun answer hanswer event hevent => hmono event (h.answered answer hanswer event hevent)⟩
    obtain ⟨before, hbefore, rfl⟩ := List.mem_map.mp hmem
    have hcarried := (h.carried before hbefore).mono hmono
    exact ⟨hcarried.live, fun hopen => (hcarried.channel hopen).skip (List.nil_suffix) rfl⟩
  | pipeline hpipe =>
    have hmono := accepted_of_pipeline hpipe
    exact ⟨h.pipe.step hpipe, fun connection hmem => (h.carried connection hmem).mono hmono,
      fun answer hanswer event hevent => hmono event (h.answered answer hanswer event hevent)⟩

theorem Reckoned.of_run (hrun : (hooks P cfg max_events server_id m).run steps = some s) :
    Reckoned max_events s := by
  refine Machine.invariant ?_ (fun _ _ _ h hstep => h.step hstep) hrun
  refine ⟨@PipelineState.Inv.init max_events cfg server_id, ?_, ?_⟩
  · exact fun _ hmem => (List.not_mem_nil hmem).elim
  · exact fun _ hmem => (List.not_mem_nil hmem).elim

/-- **An event of a frame that was answered with `OK` is not lost**: it is pending in the spool,
set aside as a dead letter or taken by the Agent, whatever was lost or restarted since. -/
theorem answered_kept (hrun : (hooks P cfg max_events server_id m).run steps = some s) :
    ∀ answer ∈ s.answered, ∀ event ∈ answer.output.emitted,
      event.event_id ∈ pending_ids s.pipe.adapter.spool ∨
        event.event_id ∈ dead_ids s.pipe.adapter.spool ∨
        ∃ taken ∈ s.pipe.arrived, Enriches event taken := by
  have h := Reckoned.of_run hrun
  intro answer hanswer event hevent
  exact (Delivered.of_inv h.pipe).kept event (h.answered answer hanswer event hevent)

end Runs

/-! ## §6. The inputs of the trace machine. -/

theorem take_aborts {P : Platform} (keys : List RequestKey) : ∀ r : Recorder,
    (keys.map Input.abort).foldl (Recorder.take P) r =
      ⟨keys.foldl TraceMachine.abort r.machine, r.log⟩ := by
  induction keys with
  | nil => intro r; rfl
  | cons first rest ih => intro r; exact ih _

theorem drawn_aborts (keys : List RequestKey) :
    (keys.map Input.abort).filterMap Input.drawn = [] := by
  rw [List.filterMap_map]
  exact List.filterMap_eq_nil_iff.mpr (fun key _ => rfl)

/-- A restart is all contexts given up. -/
theorem abort_all (m : TraceMachine) :
    m.contexts.keys.foldl TraceMachine.abort m = { m with contexts := ∅ } := by
  have hfields : ∀ (keys : List RequestKey) (m : TraceMachine),
      (keys.foldl TraceMachine.abort m).server_id = m.server_id ∧
        (keys.foldl TraceMachine.abort m).max_contexts = m.max_contexts := by
    intro keys
    induction keys with
    | nil => intro m; exact ⟨rfl, rfl⟩
    | cons first rest ih => intro m; exact ih (m.abort first)
  have hnone : (m.contexts.keys.foldl TraceMachine.abort m).contexts = ∅ := by
    refine AList.ext ?_
    show _ = []
    rw [List.eq_nil_iff_forall_not_mem]
    rintro ⟨key, context⟩ hmem
    obtain ⟨hkey, hbefore⟩ := lookup_foldl_abort (AList.mem_lookup_iff.mpr hmem)
    exact hkey (AList.mem_keys.mpr (AList.lookup_isSome.mp (by rw [hbefore]; rfl)))
  obtain ⟨hserver, hmax⟩ := hfields m.contexts.keys m
  cases hafter : m.contexts.keys.foldl TraceMachine.abort m
  rw [hafter] at hserver hmax hnone
  rw [← hserver, ← hmax, ← hnone]

/-- What a step of a connection is to the machine. -/
theorem Local.Moves.inputs {P : Platform} {cfg : WorkerConfig} {server_id : String}
    {l l' : Local} {step : ConnectionStep} (h : Local.Moves P cfg server_id l step l') :
    ∃ inputs : List Input, inputs.foldl (Recorder.take P) l.recorder = l'.recorder ∧
      inputs.filterMap Input.drawn = step.drawn.toList := by
  have hframe : ∀ (frame : HookFrame) (given : Given) (keys : List RequestKey),
      (Input.hook frame given :: keys.map Input.abort).filterMap Input.drawn =
        (ConnectionStep.frame frame given).drawn.toList := by
    intro frame given keys
    rw [List.filterMap_cons, drawn_aborts]
    show _ = (Input.hook frame given).drawn.toList
    cases (Input.hook frame given).drawn <;> rfl
  cases h with
  | @accepted frame given output m hidle hopen haccepted htake =>
    exact ⟨[.hook frame given], htake, hframe frame given []⟩
  | @rejected frame given m htake hkept =>
    refine ⟨.hook frame given :: l.connection.keys.map Input.abort, ?_, hframe frame given _⟩
    rw [List.foldl_cons, htake]
    exact take_aborts _ _
  | @gave_up step sp hdrawn hspooling =>
    refine ⟨.abort sp.frame.key :: l.connection.keys.map Input.abort, take_aborts _ _, ?_⟩
    rw [hdrawn]
    exact drawn_aborts (sp.frame.key :: l.connection.keys)
  | closed hdrawn =>
    refine ⟨l.connection.keys.map Input.abort, take_aborts _ _, ?_⟩
    rw [hdrawn]
    exact drawn_aborts _
  | skipped hdrawn hlines hacknowledgements => exact ⟨[], rfl, by rw [hdrawn]; rfl⟩
  | _ => exact ⟨[], rfl, rfl⟩

section Runs

variable {P : Platform} {cfg : WorkerConfig} {max_events max_contexts : Nat} {server_id : String}
variable {m : TraceMachine} {steps : List HookStep} {s s' : HookState}

theorem inputs_of_step {step : HookStep}
    (hstep : (hooks P cfg max_events server_id m).step s step = some s') :
    ∃ inputs : List Input, inputs.foldl (Recorder.take P) s.recorder = s'.recorder ∧
      inputs.filterMap Input.drawn = step.drawn.toList := by
  cases HookState.moves_of_step hstep with
  | connection hfound hmoves => exact hmoves.inputs
  | restart =>
    refine ⟨s.recorder.machine.contexts.keys.map Input.abort, ?_, drawn_aborts _⟩
    rw [take_aborts, abort_all]
  | _ => exact ⟨[], rfl, rfl⟩

/-- Whatever the connections do is a run of the trace machine. -/
theorem inputs_of_run (hrun : (hooks P cfg max_events server_id m).run steps = some s) :
    ∃ inputs, (producer P m).run inputs = some s.recorder ∧
      inputs.filterMap Input.drawn = steps.filterMap HookStep.drawn := by
  refine Machine.run_induction (M := hooks P cfg max_events server_id m) (motive := fun steps s =>
    ∃ inputs, (producer P m).run inputs = some s.recorder ∧
      inputs.filterMap Input.drawn = steps.filterMap HookStep.drawn) ⟨[], rfl, rfl⟩ ?_ hrun
  intro steps s step s' _ ih hstep
  obtain ⟨inputs, hinputs, hdrawn⟩ := ih
  obtain ⟨more, hmore, hdrawn'⟩ := inputs_of_step hstep
  refine ⟨inputs ++ more, ?_, ?_⟩
  · rw [run_producer] at hinputs ⊢
    rw [List.foldl_append, Option.some.inj hinputs, hmore]
  · rw [List.filterMap_append, List.filterMap_append, hdrawn, hdrawn']
    cases hstep : step.drawn <;> simp [hstep]

/-- The emitted events of every trace are a history, if the drawn trace ids differ. -/
theorem traces_of_hooks (hnew : TraceMachine.new server_id max_contexts = .ok m)
    (hrun : (hooks P cfg max_events server_id m).run steps = some s)
    (hdistinct : (steps.filterMap HookStep.drawn).Nodup) : Traces P server_id s.recorder := by
  obtain ⟨inputs, hinputs, hdrawn⟩ := inputs_of_run hrun
  refine (traces_of_run hnew hinputs ?_).1
  unfold DistinctTraceIds
  rw [hdrawn]
  exact hdistinct

end Runs

/-! ## §7. The spool counts the events of a trace. -/

/-- Of two lists that are numbered from one on, the one within the other begins it. -/
theorem prefix_of_numbered {α : Type} {f : α → Nat} {l l' : List α}
    (hl : l.map f = List.range' 1 l.length) (hl' : l'.map f = List.range' 1 l'.length)
    (hsub : ∀ a ∈ l, a ∈ l') : l <+: l' := by
  have hnumber : ∀ {l : List α}, l.map f = List.range' 1 l.length →
      ∀ {i : Nat} {a : α}, l[i]? = some a → f a = i + 1 := by
    intro l hl i a hi
    obtain ⟨hbound, hget⟩ := List.getElem?_eq_some_iff.mp hi
    have hmap : (l.map f)[i]? = some (f a) := by rw [List.getElem?_map, hi]; rfl
    rw [hl, List.getElem?_range' hbound] at hmap
    have hsome := Option.some.inj hmap
    omega
  rw [List.prefix_iff_getElem?]
  intro i hi
  have hget : l[i]? = some l[i] := List.getElem?_eq_getElem hi
  obtain ⟨j, hj⟩ := List.mem_iff_getElem?.mp (hsub _ (List.mem_of_getElem? hget))
  have hsame := hnumber hl hget
  have hplace := hnumber hl' hj
  obtain rfl : i = j := by omega
  exact hj

/-- The events of a trace are numbered without gaps, as the spool counts them. -/
structure Counted (s : TraceSpool) (accepted : List TraceEventV2) (trace_id : String) : Prop where
  sequences : (under trace_id accepted).map TraceEventV2.sequence =
    List.range' 1 (under trace_id accepted).length
  known : ∀ row, s.trace_spool_state.get? trace_id = some row →
    row.last_sequence = ((under trace_id accepted).length : Int)
  unknown : s.trace_spool_state.get? trace_id = none → under trace_id accepted = []

theorem Counted.appends {s s' : TraceSpool} {accepted : List TraceEventV2} {event : TraceEventV2}
    {trace_id : String} (h : Counted s accepted trace_id)
    (happends : TraceSpool.Appends s event s') : Counted s' (accepted ++ [event]) trace_id := by
  by_cases htrace : event.trace_id = trace_id
  · subst htrace
    have hsequence : event.sequence = (under event.trace_id accepted).length + 1 := by
      obtain ⟨state, hstate, _, hexpected⟩ := happends.sequence
      rcases TraceSpool.stored_state_eq_ok hstate with ⟨hnone, rfl⟩ | ⟨row, n, hrow, hlast, rfl⟩
      · rw [h.unknown hnone]
        exact hexpected
      · have hcount := h.known row hrow
        have hrange := happends.in_range
        have hsucc : event.sequence = min (n + 1) U64_MAX := hexpected
        unfold U64_MAX at hsucc
        unfold I64_MAX at hrange
        omega
    constructor
    · rw [under_snoc_self, List.map_append, h.sequences, List.length_append, List.length_singleton,
        List.range'_concat, Nat.one_mul, Nat.add_comm 1, ← hsequence]
      rfl
    · intro row hrow
      rw [happends.states, RowTable.get?_upsert, if_pos rfl] at hrow
      rw [← Option.some.inj hrow, under_snoc_self, List.length_append, List.length_singleton,
        ← hsequence]
    · intro hnone
      rw [happends.states, RowTable.get?_upsert, if_pos rfl] at hnone
      cases hnone
  · have hstate : s'.trace_spool_state.get? trace_id = s.trace_spool_state.get? trace_id := by
      rw [happends.states, RowTable.get?_upsert, if_neg (Ne.symm htrace)]
    constructor
    · rw [under_snoc_ne accepted htrace]
      exact h.sequences
    · rw [hstate, under_snoc_ne accepted htrace]
      exact h.known
    · rw [hstate, under_snoc_ne accepted htrace]
      exact h.unknown

theorem Counted.adapter {cfg : WorkerConfig} {max_events : Nat} {a a' : AdapterState}
    {trace_id : String} (hinv : AdapterInv max_events a)
    (h : Counted a.spool a.accepted trace_id) {step : AdapterStep}
    (hstep : a.step cfg step = some a') : Counted a'.spool a'.accepted trace_id := by
  cases PipelineState.adapter_moves hstep with
  | started hworker => exact h
  | restarted => exact h
  | worked hworker hperform =>
    have hstate := (perform_frame hperform).2
    exact ⟨h.sequences, hstate ▸ h.known, hstate ▸ h.unknown⟩
  | enqueued event =>
    show Counted (a.spool.enqueue event).2
      (accept_log event a.accepted (a.spool.enqueue event).1) trace_id
    cases hrun : a.spool.enqueue event with
    | mk outcome s' =>
      cases outcome with
      | error error =>
        rw [transaction_error hrun]
        exact h
      | ok _ =>
        show Counted s' (if event ∈ a.accepted then a.accepted else a.accepted ++ [event]) trace_id
        obtain ⟨⟨l, hbooks, _⟩, _⟩ := hinv
        rcases TraceSpool.enqueue_eq_ok hrun with ⟨row, hseen, hsame, rfl⟩ | happends
        · obtain ⟨known, hknown, _, hrow⟩ := hbooks.mem_of_seen hseen
          rw [hbooks.accepted_items, ← hrow, hsame] at hknown
          rw [if_pos hknown]
          exact h
        · have hfresh : event ∉ a.accepted := by
            intro hmem
            rw [← hbooks.accepted_items] at hmem
            have hseen := hbooks.seen_of_mem hmem
            rw [happends.unseen] at hseen
            cases hseen
          rw [if_neg hfresh]
          exact h.appends happends

/-- The spool has numbered what it accepted of each trace from one on. -/
theorem Counted.pipeline {cfg : WorkerConfig} {max_events : Nat} {server_id : String}
    {p p' : PipelineState} {trace_id : String} (hinv : p.Inv max_events)
    (h : Counted p.adapter.spool p.adapter.accepted trace_id) {step : PipelineStep}
    (hstep : p.step cfg server_id step = some p') :
    Counted p'.adapter.spool p'.adapter.accepted trace_id := by
  cases PipelineState.moves_of_step hstep with
  | adapter hother hadapter => exact h.adapter hinv.adapter hadapter
  | _ => exact h

/-! ## §8. Traces arrive as they were emitted. -/

/-- The producer has emitted the event. -/
def Emits (log : List Emitted) (event : TraceEventV2) : Prop := event ∈ log.map Emitted.event

/-- A terminal output closes its trace. -/
def Closes : MachineOutput → Prop
  | .events _ => True
  | .terminal events => ∃ last ∈ events, Terminal last.kind ∧
    ∀ event ∈ events, event.trace_id = last.trace_id

/-- The events a connection holds were emitted. -/
structure Origin (log : List Emitted) (connection : HookConnection) : Prop where
  in_flight : ∀ event ∈ connection.reader.in_flight, Emits log event
  remaining : ∀ sp ∈ connection.spooling, ∀ event ∈ sp.remaining, Emits log event
  offered : ∀ sp ∈ connection.spooling,
    (∀ event ∈ sp.output.emitted, Emits log event) ∧ Closes sp.output

theorem Emits.append {log added : List Emitted} {event : TraceEventV2} (h : Emits log event) :
    Emits (log ++ added) event := by
  unfold Emits
  rw [List.map_append]
  exact List.mem_append_left _ h

theorem Origin.append {log added : List Emitted} {connection : HookConnection}
    (h : Origin log connection) : Origin (log ++ added) connection :=
  ⟨fun event hmem => (h.in_flight event hmem).append,
    fun sp hsp event hmem => (h.remaining sp hsp event hmem).append,
    fun sp hsp => ⟨fun event hmem => ((h.offered sp hsp).1 event hmem).append,
      (h.offered sp hsp).2⟩⟩

/-- The reader loses lines, or the frame is given up. -/
theorem Origin.less {log : List Emitted} {connection connection' : HookConnection}
    (h : Origin log connection)
    (hflight : ∀ event ∈ connection'.reader.in_flight, event ∈ connection.reader.in_flight)
    (hspooling : connection'.spooling = none ∨ connection'.spooling = connection.spooling) :
    Origin log connection' := by
  have hsub : ∀ sp ∈ connection'.spooling, sp ∈ connection.spooling := by
    intro sp hsp
    rcases hspooling with hnone | hsame
    · rw [hnone] at hsp
      cases hsp
    · exact hsame ▸ hsp
  exact ⟨fun event hmem => h.in_flight event (hflight event hmem),
    fun sp hsp => h.remaining sp (hsub sp hsp), fun sp hsp => h.offered sp (hsub sp hsp)⟩

theorem closes_of_accepted {P : Platform} {m m' : TraceMachine} {frame : HookFrame}
    {given : Given} {output : MachineOutput}
    (h : Producer.Accepted P m frame given output m') : Closes output := by
  cases h with
  | finished context events hkind hwire hlive hfinish =>
    obtain ⟨digest, hits, context', _, _, heq⟩ := finish_in_eq_ok hfinish
    have hlast : ∃ last, events = hits ++ [last] ∧ Terminal last.kind := by
      refine ⟨_, heq, ?_⟩
      unfold Terminal
      by_cases hreason : (frame.reason != "success") = true
      · rw [if_pos hreason]
        exact Or.inr (if_pos hreason)
      · rw [if_neg hreason]
        exact Or.inl (if_neg hreason)
    obtain ⟨last, rfl, hterminal⟩ := hlast
    have hmem : last ∈ hits ++ [last] := List.mem_append_right _ List.mem_cons_self
    have htrace := finish_in_trace hfinish
    exact ⟨last, hmem, hterminal,
      fun event hevent => (htrace event hevent).trans (htrace last hmem).symm⟩
  | _ => trivial

theorem Local.Moves.log {P : Platform} {cfg : WorkerConfig} {server_id : String}
    {l l' : Local} {step : ConnectionStep} (h : Local.Moves P cfg server_id l step l') :
    ∃ added, l'.recorder.log = l.recorder.log ++ added := by
  cases h with
  | accepted hidle hopen haccepted htake => exact ⟨_, rfl⟩
  | _ => exact ⟨[], (List.append_nil _).symm⟩

theorem Local.Moves.origin {P : Platform} {cfg : WorkerConfig} {server_id : String}
    {l l' : Local} {step : ConnectionStep} (h : Local.Moves P cfg server_id l step l')
    (horigin : Origin l.recorder.log l.connection) : Origin l'.recorder.log l'.connection := by
  cases h with
  | @accepted frame given output m hidle hopen haccepted htake =>
    -- what an accepted frame emits is in the log
    have hnew : ∀ event ∈ output.emitted,
        Emits (l.recorder.log ++ output.emitted.map (Emitted.mk frame)) event := by
      intro event hmem
      exact List.mem_map.mpr ⟨⟨frame, event⟩,
        List.mem_append_right _ (List.mem_map_of_mem hmem), rfl⟩
    refine ⟨fun event hmem => (horigin.in_flight event hmem).append, ?_, ?_⟩
    · rintro sp hsp
      obtain rfl := Option.some.inj hsp
      exact hnew
    · rintro sp hsp
      obtain rfl := Option.some.inj hsp
      exact ⟨hnew, closes_of_accepted haccepted⟩
  | @written sp event rest hspooling hwritten hremaining =>
    -- the line written is one of the events in the spool
    refine ⟨?_, ?_, ?_⟩
    · intro other hmem
      obtain ⟨line, hline, hother⟩ := List.mem_filterMap.mp hmem
      rcases List.mem_append.mp hline with hold | hnew
      · exact horigin.in_flight other (List.mem_filterMap.mpr ⟨line, hold, hother⟩)
      · rw [List.mem_singleton.mp hnew] at hother
        rw [← Option.some.inj hother]
        exact horigin.remaining sp hspooling event (hremaining ▸ List.mem_cons_self)
    · rintro after hafter
      obtain rfl := Option.some.inj hafter
      exact horigin.remaining sp hspooling
    · rintro after hafter
      obtain rfl := Option.some.inj hafter
      exact horigin.offered sp hspooling
  | @acknowledged sp event rest others hspooling hwritten hremaining htext =>
    refine ⟨horigin.in_flight, ?_, ?_⟩
    · rintro after hafter other hmem
      obtain rfl := Option.some.inj hafter
      exact horigin.remaining sp hspooling other (hremaining ▸ List.mem_cons_of_mem _ hmem)
    · rintro after hafter
      obtain rfl := Option.some.inj hafter
      exact horigin.offered sp hspooling
  | skipped hdrawn hlines hacknowledgements =>
    exact horigin.less (fun event hmem => (hlines.filterMap _).mem hmem) (Or.inr rfl)
  | @taken sent event reader pipe hline hpipe hacknowledgements =>
    refine horigin.less (fun other hmem => ?_) (Or.inr rfl)
    obtain ⟨line, hmem, hother⟩ := List.mem_filterMap.mp hmem
    exact List.mem_filterMap.mpr ⟨line, hline ▸ List.mem_cons_of_mem _ hmem, hother⟩
  | _ => exact horigin.less (fun _ hmem => hmem) (Or.inl rfl)

theorem accepted_cases {cfg : WorkerConfig} {server_id : String} {p p' : PipelineState}
    {step : PipelineStep} (h : p.step cfg server_id step = some p') :
    ∀ event ∈ p'.adapter.accepted,
      event ∈ p.adapter.accepted ∨ step = .adapter (.enqueue event) := by
  intro event hmem
  cases PipelineState.moves_of_step h with
  | @adapter step a hother hstep =>
    cases PipelineState.adapter_moves hstep with
    | enqueued offered =>
      rcases PipelineState.mem_accept_log.mp hmem with hold | ⟨_, rfl⟩
      · exact Or.inl hold
      · exact Or.inr rfl
    | _ => exact Or.inl hmem
  | _ => exact Or.inl hmem

/-- The other producers leave the trace alone. -/
def Own (trace_id : String) (steps : List HookStep) : Prop :=
  ∀ event, HookStep.pipeline (.adapter (.enqueue event)) ∈ steps → event.trace_id ≠ trace_id

/-- What is known of a trace is what was emitted of it. -/
structure Told (trace_id : String) (s : HookState) : Prop where
  origin : ∀ connection ∈ s.connections, Origin s.recorder.log connection
  accepted : ∀ event ∈ under trace_id s.pipe.adapter.accepted, Emits s.recorder.log event
  counted : Counted s.pipe.adapter.spool s.pipe.adapter.accepted trace_id
  answered : ∀ answer ∈ s.answered,
    (∀ event ∈ answer.output.emitted, Emits s.recorder.log event) ∧ Closes answer.output

section Runs

variable {P : Platform} {cfg : WorkerConfig} {max_events max_contexts : Nat} {server_id : String}
variable {m : TraceMachine} {steps : List HookStep} {s s' : HookState} {trace_id : String}

theorem Told.moves (h : Told trace_id s) (hpipe : s.pipe.Inv max_events)
    {index : Nat} {connection : HookConnection} {step : ConnectionStep} {l : Local}
    (hfound : s.connections[index]? = some connection)
    (hmoves : Local.Moves P cfg server_id (s.view connection) step l) :
    Told trace_id (s.merge index l) := by
  have horigin := h.origin connection (List.mem_of_getElem? hfound)
  -- the log only grows
  obtain ⟨added, hlog⟩ := hmoves.log
  have hgrows : ∀ {event : TraceEventV2}, Emits s.recorder.log event →
      Emits l.recorder.log event := by
    intro event hemits
    rw [hlog]
    exact hemits.append
  refine ⟨fun other hmem => ?_, fun event hmem => ?_, ?_, fun answer hanswer => ?_⟩
  · rcases HookState.mem_merge hmem with hold | rfl
    · show Origin l.recorder.log other
      rw [hlog]
      exact (h.origin other hold).append
    · exact hmoves.origin horigin
  · obtain ⟨hmem, htrace⟩ := mem_under.mp hmem
    rcases hmoves.pipe with hsame | ⟨offered, hline, hstep⟩
    · have hmem : event ∈ l.pipe.adapter.accepted := hmem
      rw [hsame] at hmem
      exact hgrows (h.accepted event (mem_under.mpr ⟨hmem, htrace⟩))
    · rcases accepted_cases hstep event hmem with hold | heq
      · exact hgrows (h.accepted event (mem_under.mpr ⟨hold, htrace⟩))
      · -- it came over this connection
        obtain rfl : offered = event := by
          simp only [PipelineStep.adapter.injEq, AdapterStep.enqueue.injEq] at heq
          exact heq
        exact hgrows (horigin.in_flight offered (List.mem_filterMap.mpr ⟨_, hline, rfl⟩))
  · rcases hmoves.pipe with hsame | ⟨offered, _, hstep⟩
    · show Counted l.pipe.adapter.spool l.pipe.adapter.accepted trace_id
      rw [hsame]
      exact h.counted
    · exact h.counted.pipeline hpipe hstep
  · cases hmoves with
    | @concluded sp hspooling hremaining =>
      rcases List.mem_append.mp hanswer with hold | hnew
      · exact h.answered answer hold
      · rw [List.mem_singleton.mp hnew]
        exact horigin.offered sp hspooling
    | _ =>
      obtain ⟨hemits, hcloses⟩ := h.answered answer hanswer
      exact ⟨fun event hmem => hgrows (hemits event hmem), hcloses⟩

theorem Told.step (h : Told trace_id s) (hpipe : s.pipe.Inv max_events) {step : HookStep}
    (hown : ∀ event, step = .pipeline (.adapter (.enqueue event)) → event.trace_id ≠ trace_id)
    (hstep : (hooks P cfg max_events server_id m).step s step = some s') : Told trace_id s' := by
  have hforward : ∀ {step : PipelineStep} {pipe : PipelineState},
      (∀ event, step = .adapter (.enqueue event) → event.trace_id ≠ trace_id) →
      s.pipe.step cfg server_id step = some pipe →
      ∀ event ∈ under trace_id pipe.adapter.accepted, Emits s.recorder.log event := by
    intro step pipe hown hmove event hmem
    obtain ⟨hmem, htrace⟩ := mem_under.mp hmem
    rcases accepted_cases hmove event hmem with hold | heq
    · exact h.accepted event (mem_under.mpr ⟨hold, htrace⟩)
    · exact absurd htrace (hown event heq)
  cases HookState.moves_of_step hstep with
  | accept =>
    refine ⟨fun connection hmem => ?_, h.accepted, h.counted, h.answered⟩
    rcases List.mem_append.mp hmem with hold | hnew
    · exact h.origin connection hold
    · rw [List.mem_singleton.mp hnew]
      refine ⟨fun event hflight => (List.not_mem_nil hflight).elim, ?_, ?_⟩
      · intro sp hsp
        cases hsp
      · intro sp hsp
        cases hsp
  | connection hfound hmoves => exact h.moves hpipe hfound hmoves
  | restart =>
    refine ⟨fun connection hmem => ?_, h.accepted, h.counted, h.answered⟩
    obtain ⟨before, hbefore, rfl⟩ := List.mem_map.mp hmem
    exact (h.origin before hbefore).less (fun _ hflight => hflight) (Or.inl rfl)
  | cut_off hmove =>
    have hnone : ∀ event : TraceEventV2,
        PipelineStep.adapter .restart = .adapter (.enqueue event) → event.trace_id ≠ trace_id := by
      intro event heq
      cases heq
    refine ⟨fun connection hmem => ?_, hforward hnone hmove, h.counted.pipeline hpipe hmove,
      h.answered⟩
    obtain ⟨before, hbefore, rfl⟩ := List.mem_map.mp hmem
    exact (h.origin before hbefore).less (fun _ hflight => (List.not_mem_nil hflight).elim)
      (Or.inr rfl)
  | pipeline hmove =>
    refine ⟨h.origin, hforward (fun event heq => hown event (congrArg _ heq)) hmove,
      h.counted.pipeline hpipe hmove, h.answered⟩

theorem Told.of_run (hrun : (hooks P cfg max_events server_id m).run steps = some s)
    (hown : Own trace_id steps) : Told trace_id s := by
  refine Machine.run_induction (M := hooks P cfg max_events server_id m)
    (motive := fun steps s => Own trace_id steps → Told trace_id s) ?_ ?_ hrun hown
  · intro _
    refine ⟨fun _ hmem => (List.not_mem_nil hmem).elim, fun _ hmem => (List.not_mem_nil hmem).elim,
      ⟨rfl, ?_, fun _ => rfl⟩, fun _ hmem => (List.not_mem_nil hmem).elim⟩
    intro row hrow
    cases hrow
  · intro steps s step s' hrun ih hstep hown
    have hbefore := ih (fun event hmem => hown event (List.mem_append_left _ hmem))
    refine hbefore.step (Reckoned.of_run hrun).pipe ?_ hstep
    rintro event rfl
    exact hown event (List.mem_append_right _ List.mem_cons_self)

/-- What was emitted of a trace, in the order of emission. -/
def emitted_of (trace_id : String) (s : HookState) : List TraceEventV2 :=
  (of_trace trace_id s.recorder.log).map Emitted.event

theorem emitted_sequences (htraces : Traces P server_id s.recorder) (trace_id : String) :
    (emitted_of trace_id s).map TraceEventV2.sequence =
      List.range' 1 (emitted_of trace_id s).length := by
  obtain ⟨_, _, hfollows⟩ := (htraces.past_of_trace trace_id).follows
  show (List.map TraceEventV2.sequence ((of_trace trace_id s.recorder.log).map Emitted.event)) = _
  unfold emitted_of
  generalize (of_trace trace_id s.recorder.log).map Emitted.event = events at hfollows
  induction events using List.reverseRecOn with
  | nil => rfl
  | append_singleton events event ih =>
    have hplace := (hfollows events event [] rfl).sequence
    rw [List.map_append, ih hfollows.of_prefix, List.length_append, List.length_singleton,
      List.range'_concat, Nat.one_mul, Nat.add_comm 1, ← hplace]
    rfl

/-- The spool has accepted a first part of what was emitted of a trace. -/
theorem accepted_prefix (htraces : Traces P server_id s.recorder) (h : Told trace_id s) :
    under trace_id s.pipe.adapter.accepted <+: emitted_of trace_id s := by
  refine prefix_of_numbered h.counted.sequences (emitted_sequences htraces trace_id) ?_
  intro event hmem
  obtain ⟨emitted, hlog, rfl⟩ := List.mem_map.mp (h.accepted event hmem)
  exact List.mem_map_of_mem (mem_of_trace.mpr ⟨hlog, (mem_under.mp hmem).2⟩)

/-- **Of each trace the store holds a first part, as it was emitted**, over whichever connections
its frames came, whatever was lost, repeated or restarted, if nothing is purged. -/
theorem stored_as_emitted (hnew : TraceMachine.new server_id max_contexts = .ok m)
    (hrun : (hooks P cfg max_events server_id m).run steps = some s)
    (hdistinct : (steps.filterMap HookStep.drawn).Nodup) (hown : Own trace_id steps)
    (hpurge : ∀ observed_before, HookStep.pipeline (.purge observed_before) ∉ steps) :
    ∃ n, List.Forall₂ Enriches ((emitted_of trace_id s).take n)
      ((s.pipe.store.trace_rows trace_id).map Row.val) := by
  have hordered : Ordered s.pipe := by
    refine Machine.run_induction (M := hooks P cfg max_events server_id m)
      (motive := fun steps s =>
        (∀ observed_before, HookStep.pipeline (.purge observed_before) ∉ steps) → Ordered s.pipe)
      (fun _ => @Ordered.init cfg max_events server_id) ?_ hrun hpurge
    intro steps s step s' hrun ih hstep hnone
    have hbefore := ih (fun b hmem => hnone b (List.mem_append_left _ hmem))
    have hinv := (Reckoned.of_run hrun).pipe
    have hlast : ∀ b, step ≠ .pipeline (.purge b) := by
      rintro b rfl
      exact hnone b (List.mem_append_right _ List.mem_cons_self)
    cases HookState.moves_of_step hstep with
    | @connection index connection step l hfound hmoves =>
      show Ordered l.pipe
      rcases hmoves.pipe with hsame | ⟨event, _, hmove⟩
      · rw [hsame]
        exact hbefore
      · exact hbefore.step hinv (fun b heq => by cases heq) hmove
    | cut_off hmove => exact hbefore.step hinv (fun b heq => by cases heq) hmove
    | pipeline hmove =>
      exact hbefore.step hinv (fun b heq => hlast b (congrArg _ heq)) hmove
    | _ => exact hbefore
  obtain ⟨n, hstored⟩ := hordered.stored (Reckoned.of_run hrun).pipe trace_id
  have hprefix : accepted_of s.pipe trace_id <+: emitted_of trace_id s :=
    accepted_prefix (traces_of_hooks hnew hrun hdistinct) (Told.of_run hrun hown)
  rw [List.prefix_iff_eq_take.mp hprefix, List.take_take] at hstored
  exact ⟨_, hstored⟩

/-- The spool has the last event of a trace only with all others. -/
theorem whole_of_terminal (htraces : Traces P server_id s.recorder) {last : TraceEventV2}
    (htold : Told last.trace_id s) (hterminal : Terminal last.kind)
    (haccepted : last ∈ s.pipe.adapter.accepted) :
    under last.trace_id s.pipe.adapter.accepted = emitted_of last.trace_id s := by
  have hprefix := accepted_prefix htraces htold
  have hlast := mem_under.mpr ⟨haccepted, rfl⟩
  obtain ⟨rest, hrest⟩ := hprefix
  cases hnil : rest with
  | nil => rw [← hrest, hnil, List.append_nil]
  | cons next others =>
    -- an event after one that ends the trace
    exfalso
    obtain ⟨_, _, hfollows⟩ := (htraces.past_of_trace last.trace_id).follows
    rw [hnil] at hrest
    exact (hfollows _ next others hrest.symm).ongoing last hlast hterminal

/-- **A request whose FINISH was answered with `OK` is recorded as a whole**: the spool has all
that was ever emitted under its trace id, and none of it is lost. -/
theorem finished_whole (hnew : TraceMachine.new server_id max_contexts = .ok m)
    (hrun : (hooks P cfg max_events server_id m).run steps = some s)
    (hdistinct : (steps.filterMap HookStep.drawn).Nodup) :
    ∀ answer ∈ s.answered, ∀ events, answer.output = .terminal events →
      ∀ event ∈ events, Own event.trace_id steps →
        under event.trace_id s.pipe.adapter.accepted = emitted_of event.trace_id s ∧
          ∀ other ∈ emitted_of event.trace_id s,
            other.event_id ∈ pending_ids s.pipe.adapter.spool ∨
              other.event_id ∈ dead_ids s.pipe.adapter.spool ∨
              ∃ taken ∈ s.pipe.arrived, Enriches other taken := by
  have hreckoned := Reckoned.of_run hrun
  intro answer hanswer events houtput event hevent hown
  have htold := Told.of_run hrun hown
  have hevents := hreckoned.answered answer hanswer
  have hcloses := (htold.answered answer hanswer).2
  rw [houtput] at hevents hcloses
  obtain ⟨last, hlast, hterminal, htrace⟩ := hcloses
  rw [htrace event hevent] at htold ⊢
  have hwhole := whole_of_terminal (traces_of_hooks hnew hrun hdistinct) htold hterminal
    (hevents last hlast)
  refine ⟨hwhole, fun other hmem => ?_⟩
  rw [← hwhole] at hmem
  exact (Delivered.of_inv hreckoned.pipe).kept other (mem_under.mp hmem).1

end Runs

/-! ## §9. Three requests. -/

/-- One frame on a connection, and each of its events acknowledged. -/
def exchange (index events : Nat) : Input → List HookStep
  | .hook frame given =>
    .connection index (.frame frame given) ::
      (List.replicate events [ConnectionStep.write, .read true, .acknowledge]).flatten.map
        (HookStep.connection index) ++ [.connection index (.answer true)]
  | .abort _ => []

/-- A request whose connection times out with the first event on its way. -/
def stalled : List HookStep :=
  [.accept, .connection 2 (.read true),
    .connection 2 (.frame ⟨.begin, ⟨1, 3⟩, "udp", none, 53, .insecure, "-", query_wire 9⟩
      ⟨Vector.replicate 16 204, fun _ => 1753142400⟩),
    .connection 2 .write, .connection 2 .fail]

/-- Two requests on connections of their own, and the one that times out in between; its event
arrives late.  What comes before the cache hit is uploaded. -/
def hooked_run : List HookStep :=
  [.accept, .accept, .connection 0 (.read true), .connection 1 (.read true)] ++
    exchange 0 1 (recorded_hook .begin none "-" (query_wire 7)) ++
    exchange 0 1 (recorded_hook .send (some "192.0.2.1") "-" (query_wire 8)) ++
    exchange 1 1 (cached_hook .begin "-" (query_wire 9)) ++
    exchange 0 1 (recorded_hook .failure (some "192.0.2.1") "timeout" []) ++
    exchange 0 3 (recorded_hook .send (some "192.0.2.2") "-" (query_wire 9)) ++
    exchange 1 2 (cached_hook .finish "success" (answer_wire 9)) ++ stalled ++
    exchange 0 1 (recorded_hook .response (some "192.0.2.2") "received" (answer_wire 9)) ++
    [.connection 2 (.read false)] ++
    exchange 0 1 (recorded_hook .finish none "success" (answer_wire 7)) ++
    [.pipeline (.adapter .start), .pipeline (.adapter (.work (answering 200))), .pipeline .send,
      .pipeline (.serve 0 1753142402 true), .connection 0 .hang_up, .connection 1 .hang_up]

/-- Nobody else offers an event, and nothing is purged. -/
def undisturbed : HookStep → Bool
  | .pipeline (.adapter (.enqueue _)) | .pipeline (.purge _) => false
  | _ => true

theorem hooked_run_facts :
    ((hooks hook_platform sample_config 16 "resolver" recorded_machine).run hooked_run).map
      (fun s => (s.answered.length, s.answered.map (fun answer => is_terminal answer.output),
        s.connections.map HookConnection.ended,
        (s.pipe.store.trace_rows "knot-aaaaaaaaaaaaaaaaaaaaaaaaaaaaaaaa").length)) =
      some (8, [false, false, false, false, false, true, false, true], [true, true, true], 6) ∧
      (hooked_run.filterMap HookStep.drawn).Nodup ∧ hooked_run.all undisturbed = true := by
  decide +kernel

theorem hooked_run_own (trace_id : String) : Own trace_id hooked_run := by
  intro event hmem
  have hall := List.all_eq_true.mp hooked_run_facts.2.2 _ hmem
  cases hall

/-- Eight frames were answered. -/
theorem hooked_run_kept :
    ∃ s, (hooks hook_platform sample_config 16 "resolver" recorded_machine).run hooked_run =
        some s ∧ s.answered.length = 8 ∧
      ∀ answer ∈ s.answered, ∀ event ∈ answer.output.emitted,
        event.event_id ∈ pending_ids s.pipe.adapter.spool ∨
          event.event_id ∈ dead_ids s.pipe.adapter.spool ∨
          ∃ taken ∈ s.pipe.arrived, Enriches event taken := by
  obtain ⟨s, hrun, htables⟩ := Option.map_eq_some_iff.mp hooked_run_facts.1
  exact ⟨s, hrun, (Prod.mk.inj htables).1, answered_kept hrun⟩

/-- All three connections have ended, one of them by a timeout. -/
theorem hooked_run_released :
    ∃ s, (hooks hook_platform sample_config 16 "resolver" recorded_machine).run hooked_run =
      some s ∧ s.recorder.machine.active_contexts = 0 := by
  obtain ⟨s, hrun, htables⟩ := Option.map_eq_some_iff.mp hooked_run_facts.1
  have hnew : TraceMachine.new "resolver" 2 = .ok recorded_machine := rfl
  refine ⟨s, hrun, (contexts_released hnew hrun).2 (fun connection hmem => ?_)⟩
  have hended : s.connections.map HookConnection.ended = [true, true, true] :=
    (Prod.mk.inj (Prod.mk.inj (Prod.mk.inj htables).2).2).1
  have hmem : connection.ended ∈ [true, true, true] :=
    hended ▸ List.mem_map_of_mem hmem
  simpa using hmem

/-- Six events of the first request are stored. -/
theorem hooked_run_stored :
    ∃ s, (hooks hook_platform sample_config 16 "resolver" recorded_machine).run hooked_run =
        some s ∧ ∃ n, List.Forall₂ Enriches
          ((emitted_of "knot-aaaaaaaaaaaaaaaaaaaaaaaaaaaaaaaa" s).take n)
          ((s.pipe.store.trace_rows "knot-aaaaaaaaaaaaaaaaaaaaaaaaaaaaaaaa").map Row.val) := by
  obtain ⟨s, hrun, _⟩ := Option.map_eq_some_iff.mp hooked_run_facts.1
  have hnew : TraceMachine.new "resolver" 2 = .ok recorded_machine := rfl
  refine ⟨s, hrun, stored_as_emitted hnew hrun hooked_run_facts.2.1 (hooked_run_own _) ?_⟩
  intro observed_before hmem
  have hall := List.all_eq_true.mp hooked_run_facts.2.2 _ hmem
  cases hall

/-- Both finished requests are recorded as a whole. -/
theorem hooked_run_whole :
    ∃ s, (hooks hook_platform sample_config 16 "resolver" recorded_machine).run hooked_run =
        some s ∧ ∀ answer ∈ s.answered, ∀ events, answer.output = .terminal events →
          ∀ event ∈ events,
            under event.trace_id s.pipe.adapter.accepted = emitted_of event.trace_id s := by
  obtain ⟨s, hrun, _⟩ := Option.map_eq_some_iff.mp hooked_run_facts.1
  have hnew : TraceMachine.new "resolver" 2 = .ok recorded_machine := rfl
  refine ⟨s, hrun, fun answer hanswer events houtput event hevent => ?_⟩
  exact (finished_whole hnew hrun hooked_run_facts.2.1 answer hanswer events houtput event hevent
    (hooked_run_own _)).1

end ResolverIdentity.Pipeline
