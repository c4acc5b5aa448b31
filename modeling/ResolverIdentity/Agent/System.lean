/-
  ResolverIdentity.Agent.System: requests of one Agent, interleaved over its store.

  A `Task` is a request being served: what is left of its program and what it has
  seen.  One step of the system starts a request, carries out one operation of one
  of them, drops one, or is a write of another client of the store.

  `built_on` is not state of the source: it notes which records the build had read
  whose graph is stored under a trace.

  Main results:
    * `tasks_follow`: every request keeps to its protocol, whatever else happens;
    * `work_eq_some`: what one operation of a request does.
-/
import ResolverIdentity.Agent.BuiltGraph
import ResolverIdentity.Agent.Surroundings
import ResolverIdentity.Library.Machine
import ResolverIdentity.Store.Records

namespace ResolverIdentity.Agent

open Library Store

/-! ## §1. States and steps. -/

/-- A request that is being served: what it saw and what is left of its program. -/
structure Task where
  trace_id : String
  response_digest : String
  seen : Observed
  rest : AgentProg Unit

/-- The records a build has read so far, by the ids it asked for. -/
def Observed.records (o : Observed) : List (String × EvidenceStore.IdentityRecord) :=
  o.self_record.toList ++ o.targets

/-- One store and the requests that share it. -/
structure AgentState where
  store : EvidenceStore
  tasks : List Task
  built_on : String → List (String × EvidenceStore.IdentityRecord)

/-- A new request, one operation of a running one, a new snapshot, new events. -/
inductive AgentStep where
  | serve_graph (request : EvidenceGraphRequest) (require_registered_context : Bool)
  | serve_attestation (request : ResponseAttestationRequest)
  /-- The next operation of a request. -/
  | work (i : Nat) (env : Surroundings)
  /-- The request is given up: its client is gone or its time is over. -/
  | drop (i : Nat)
  | call (call : StoreCall)

variable (P : Platform) (config : AgentConfig) (issuer_keys : IssuerKeyRegistry)

/-- A graph request that was just taken in. -/
def Task.build_graph (request : EvidenceGraphRequest) (require_registered_context : Bool) :
    Task where
  trace_id := request.trace_id
  response_digest := request.response_digest
  seen := Observed.start
  rest := build_graph_with_context P config issuer_keys request require_registered_context >>=
    fun _ => .ret ()

/-- An attestation request that was just taken in. -/
def Task.attest_response (request : ResponseAttestationRequest) : Task where
  trace_id := request.trace_id
  response_digest := request.response_digest
  seen := Observed.start
  rest := Agent.attest_response P config request >>= fun _ => .ret ()

/-- The operation a request is about to carry out. -/
def Task.next (task : Task) : Option AgentOp :=
  match task.rest with
  | .ret _ => none
  | .fail _ => none
  | .op op _ => some op

/-- Carry out the next operation of a request. -/
def Task.work (env : Surroundings) (task : Task) (s : EvidenceStore) :
    Option (Task × EvidenceStore) :=
  match task.rest with
  | .ret _ => none
  | .fail _ => none
  | .op op k =>
    let answer := perform P env op s
    some ({ task with seen := task.seen.see op answer.1, rest := k answer.1 }, answer.2)

/-- The records behind each stored graph, after the next operation of a request. -/
def Task.note (env : Surroundings) (task : Task)
    (built_on : String → List (String × EvidenceStore.IdentityRecord)) :
    String → List (String × EvidenceStore.IdentityRecord) :=
  match task.next.bind (AgentOp.puts env) with
  | none => built_on
  | some (graph, _) => fun trace_id =>
    if trace_id = graph.trace_id then task.seen.records else built_on trace_id

/-- One step of the Agent, where it is possible. -/
def agent_step (a : AgentState) : AgentStep → Option AgentState
  | .serve_graph request require_registered_context =>
    some { a with
      tasks := a.tasks ++
        [Task.build_graph P config issuer_keys request require_registered_context] }
  | .serve_attestation request =>
    some { a with tasks := a.tasks ++ [Task.attest_response P config request] }
  | .work i env => do
    let task ← a.tasks[i]?
    let (task', store) ← task.work P env a.store
    some { store, tasks := a.tasks.set i task', built_on := task.note env a.built_on }
  | .drop i => some { a with tasks := a.tasks.eraseIdx i }
  | .call call => some { a with store := call.run P a.store }

/-- The Agent, started on a freshly opened store. -/
def system : Machine AgentState AgentStep where
  init := ⟨EvidenceStore.open_, [], fun _ => []⟩
  step := agent_step P config issuer_keys

/-! ## §2. One operation of a request. -/

variable {P : Platform} {config : AgentConfig} {issuer_keys : IssuerKeyRegistry}
variable {a a' : AgentState} {i : Nat} {env : Surroundings}

/-- A request that can go on, and where one operation takes it. -/
structure Works (P : Platform) (env : Surroundings) (i : Nat) (a a' : AgentState) (task : Task)
    (op : AgentOp) (k : AgentRes op → AgentProg Unit) : Prop where
  served : a.tasks[i]? = some task
  rest : task.rest = .op op k
  next : a' =
    { store := (perform P env op a.store).2
      tasks := a.tasks.set i { task with
        seen := task.seen.see op (perform P env op a.store).1
        rest := k (perform P env op a.store).1 }
      built_on := task.note env a.built_on }

theorem work_eq_some (h : agent_step P config issuer_keys a (.work i env) = some a') :
    ∃ task op k, Works P env i a a' task op k := by
  obtain ⟨task, htask, h⟩ := Option.bind_eq_some_iff.mp h
  obtain ⟨⟨task', store⟩, hwork, h⟩ := Option.bind_eq_some_iff.mp h
  obtain rfl := Option.some.inj h
  unfold Task.work at hwork
  cases hrest : task.rest with
  | ret _ =>
    rw [hrest] at hwork
    cases hwork
  | fail _ =>
    rw [hrest] at hwork
    cases hwork
  | op op k =>
    simp only [hrest] at hwork
    obtain ⟨rfl, rfl⟩ := Prod.mk.inj (Option.some.inj hwork)
    exact ⟨task, op, k, htask, hrest, rfl⟩

namespace Works

variable {task : Task} {op : AgentOp} {k : AgentRes op → AgentProg Unit}

theorem mem (h : Works P env i a a' task op k) : task ∈ a.tasks := List.mem_of_getElem? h.served

theorem next_op (h : Works P env i a a' task op k) : task.next = some op := by
  unfold Task.next
  rw [h.rest]

/-- The other requests stay as they are. -/
theorem mem_tasks (h : Works P env i a a' task op k) {task' : Task} (hmem : task' ∈ a'.tasks) :
    task' ∈ a.tasks ∨ task' = { task with
      seen := task.seen.see op (perform P env op a.store).1
      rest := k (perform P env op a.store).1 } := by
  rw [h.next] at hmem
  exact List.mem_or_eq_of_mem_set hmem

/-- What stands behind the stored graphs changes with a graph that is put. -/
theorem note (h : Works P env i a a' task op k) :
    a'.built_on = match op.puts env with
      | none => a.built_on
      | some (graph, _) => fun trace_id =>
        if trace_id = graph.trace_id then task.seen.records else a.built_on trace_id := by
  rw [h.next]
  show task.note env a.built_on = _
  unfold Task.note
  rw [h.next_op]
  rfl

end Works

/-! ## §3. Every request keeps to its protocol. -/

/-- What is left of a request follows its protocol from what it has seen. -/
def Task.Follows (task : Task) : Prop :=
  Builds task.trace_id task.response_digest task.rest (fun _ _ => True) task.seen

theorem Task.build_graph_follows (request : EvidenceGraphRequest)
    (require_registered_context : Bool) :
    (Task.build_graph P config issuer_keys request require_registered_context).Follows :=
  Prog.Follows.bind (Agent.build_graph_follows require_registered_context) (fun _ _ _ => trivial)

theorem Task.attest_response_follows (request : ResponseAttestationRequest) :
    (Task.attest_response P config request).Follows :=
  Prog.Follows.bind (Agent.attest_response_follows request) (fun _ _ _ => trivial)

/-- The next operation is permitted, and any answer to it is reckoned with. -/
theorem Task.Follows.op {task : Task} {op : AgentOp} {k : AgentRes op → AgentProg Unit}
    (h : task.Follows) (hrest : task.rest = .op op k) :
    build_permits task.trace_id task.response_digest task.seen op ∧
      ∀ answer, Task.Follows { task with seen := task.seen.see op answer, rest := k answer } := by
  unfold Task.Follows at h
  rw [hrest] at h
  exact ⟨h.1, fun answer => h.2 answer trivial⟩

theorem tasks_follow_step {step : AgentStep} (h : ∀ task ∈ a.tasks, task.Follows)
    (hstep : agent_step P config issuer_keys a step = some a') :
    ∀ task ∈ a'.tasks, task.Follows := by
  intro task htask
  cases step with
  | serve_graph request require_registered_context =>
    obtain rfl := Option.some.inj hstep
    rcases List.mem_append.mp htask with hold | hnew
    · exact h task hold
    · rw [List.mem_singleton.mp hnew]
      exact Task.build_graph_follows request require_registered_context
  | serve_attestation request =>
    obtain rfl := Option.some.inj hstep
    rcases List.mem_append.mp htask with hold | hnew
    · exact h task hold
    · rw [List.mem_singleton.mp hnew]
      exact Task.attest_response_follows request
  | work i env =>
    obtain ⟨worker, op, k, hworks⟩ := work_eq_some hstep
    rcases hworks.mem_tasks htask with hold | hnew
    · exact h task hold
    · rw [hnew]
      exact ((h worker hworks.mem).op hworks.rest).2 _
  | drop i =>
    obtain rfl := Option.some.inj hstep
    exact h task (List.mem_of_mem_eraseIdx htask)
  | call call =>
    obtain rfl := Option.some.inj hstep
    exact h task htask

/-- Whatever is interleaved, every request keeps to its protocol. -/
theorem tasks_follow {steps : List AgentStep}
    (h : (system P config issuer_keys).run steps = some a) : ∀ task ∈ a.tasks, task.Follows :=
  Machine.invariant (M := system P config issuer_keys)
    (I := fun a => ∀ task ∈ a.tasks, task.Follows) (fun _ htask => (nomatch htask))
    (fun _ _ _ hinv hstep => tasks_follow_step hinv hstep) h

end ResolverIdentity.Agent
