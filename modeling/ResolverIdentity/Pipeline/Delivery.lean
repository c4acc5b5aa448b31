/-
  ResolverIdentity.Pipeline.Delivery: trace events between the spool and the Agent's store.

  The upload worker of `ri-trace-adapter/src/main.rs` posts its batches to
  `ingest_trace_events` of `ri-agent/src/lib.rs`.  A batch that was sent may arrive late,
  again or never, and an answer may be lost; producers, restarts, purges and the other
  clients of the store come in between.  `purged` is not state of the source: it lists what
  the purges have deleted.

  Main results:
    * `delivered_of_run`: what the store has taken was accepted by the spool, and what the
      spool has acknowledged was taken;
    * `stored_once`: no event is taken twice while purges stay behind the ingestion window;
    * `stored_in_order`: of each trace the store holds a first part, in order.
-/
import ResolverIdentity.Adapter.Receipts
import ResolverIdentity.Adapter.System
import ResolverIdentity.Agent.Requests
import ResolverIdentity.Store.TraceShape

namespace ResolverIdentity.Pipeline

open Library Store Agent Adapter

/-! ## §1. Answers of the Agent. -/

/-- The status of an error. -/
def into_response : AgentError → Nat
  | .invalidRequest _ => 422
  | .unauthorized _ => 401
  | .evidenceUnavailable _ => 503
  | .downstream _ => 502
  | .store _ | .validation _ | .serialization _ | .http _ | .blockingTask _ => 503

/-- The status `ingest_trace_events` is answered with. -/
def ingest_status : Except AgentError Unit → Nat
  | .ok () => 204
  | .error error => into_response error

theorem ok_of_uploaded {outcome : Except AgentError Unit}
    (h : upload_attempt (.status (ingest_status outcome)) = some (.ok .uploaded)) :
    outcome = .ok () := by
  cases outcome with
  | ok _ => rfl
  | error error => cases error <;> cases h

/-- What a batch that is taken has been checked for and leaves in the store. -/
structure Ingested (server_id : String) (batch : List TraceEventV2) (now : Int)
    (s s' : EvidenceStore) : Prop where
  valid : ∀ event ∈ batch, validate_trace_event event server_id now = .ok ()
  put : EvidenceStore.put_trace_events_body batch s = .ok ((), s')

theorem ingest_cases (server_id : String) (batch : List TraceEventV2) (now : Int)
    (s : EvidenceStore) :
    (∃ s', ingest_trace_events server_id batch now s = (.ok (), s') ∧
      Ingested server_id batch now s s') ∨
    ∃ error, ingest_trace_events server_id batch now s = (.error error, s) := by
  unfold ingest_trace_events
  split
  · exact Or.inr ⟨_, rfl⟩
  · cases hvalid : batch.forM (fun event => validate_trace_event event server_id now) with
    | error error => exact Or.inr ⟨error, rfl⟩
    | ok _ =>
      cases hput : s.put_trace_events batch with
      | mk outcome s' =>
        cases outcome with
        | error error =>
          refine Or.inr ⟨.store error, ?_⟩
          rw [show s' = s from transaction_error hput]
        | ok _ =>
          refine Or.inl ⟨s', rfl, ?_, transaction_eq_ok.mp hput⟩
          exact forM_eq_ok.mp hvalid

theorem get?_of_put_one {event : TraceEventV2} {s s' : EvidenceStore}
    (h : EvidenceStore.put_one event s = .ok ((), s')) :
    s'.ri_v2_trace_events.get? event.event_id = some event := by
  unfold EvidenceStore.put_one at h
  cases hget : s.ri_v2_trace_events.get? event.event_id with
  | some existing =>
    rw [hget] at h
    obtain ⟨_, hsame, h⟩ := bind_eq_ok.mp h
    obtain ⟨_, rfl⟩ := Prod.mk.inj (Except.ok.inj h)
    rw [rejectIf_eq_ok, bne_eq_false_iff_eq] at hsame
    rw [hget, hsame]
  | none =>
    rw [hget] at h
    obtain ⟨_, _, hrows⟩ := EvidenceStore.insert_trace_event_eq_ok h
    have hmem : (⟨s.ri_v2_trace_events.maxRowid + 1, event.event_id, event⟩ :
        Row String TraceEventV2) ∈ s'.ri_v2_trace_events.rows := by
      rw [hrows]
      exact List.mem_append_right _ List.mem_cons_self
    exact RowTable.get?_of_mem hmem

/-- Every event of a batch that is taken is in the store. -/
theorem get?_of_put {batch : List TraceEventV2} :
    ∀ {s s' : EvidenceStore}, EvidenceStore.put_trace_events_body batch s = .ok ((), s') →
      ∀ event ∈ batch, s'.ri_v2_trace_events.get? event.event_id = some event := by
  induction batch with
  | nil => intro s s' _ event hevent; cases hevent
  | cons event rest ih =>
    intro s s' h other hother
    obtain ⟨⟨_, middle⟩, hone, hrest⟩ := bind_eq_ok.mp h
    rcases List.mem_cons.mp hother with rfl | hother
    · obtain ⟨added, happended⟩ :=
        EvidenceStore.put_trace_events_body_eq_ok (fun _ (hmem : _ ∈ rest) => hmem) hrest
      exact happended.get?_kept (get?_of_put_one hone)
    · exact ih hrest other hother

/-! ## §2. The system. -/

/-- The adapter, the Agent's store, and what is on its way between them. -/
structure PipelineState where
  adapter : AdapterState
  store : EvidenceStore
  /-- The requests the worker has sent; each may arrive at any time, and again. -/
  sent : List (List TraceEventV2)
  purged : List TraceEventV2

/-- One step of the adapter, of the network or of the store. -/
inductive PipelineStep where
  /-- A producer, the worker or a restart; an upload is the next three steps. -/
  | adapter (step : AdapterStep)
  /-- One attempt of `upload_batch`. -/
  | send
  /-- A request arrives at the Agent; the answer may be lost. -/
  | serve (index : Nat) (now : Int) (answered : Bool)
  /-- The attempt ends otherwise: no answer, or one from before the handler. -/
  | refuse (answer : HttpAnswer)
  | purge (observed_before : Int)
  /-- Another client of the store, which leaves the trace events alone. -/
  | client (s : EvidenceStore)

/-- The batch the worker is uploading. -/
def awaited : WorkerState → Option (List TraceEventV2)
  | .running (.upload batch) _ => some batch
  | _ => none

/-- The worker after the end of an attempt: it retries or goes on. -/
def WorkerState.receive (answer : HttpAnswer) : WorkerState → WorkerState
  | .running (.upload batch) k =>
    match upload_attempt answer with
    | some disposition => resume (k disposition)
    | none => .running (.upload batch) k
  | worker => worker

theorem receive_retried {answer : HttpAnswer} {batch : List TraceEventV2}
    {k : WorkerRes (.upload batch) → WorkerProg Waits} (h : upload_attempt answer = none) :
    WorkerState.receive answer (.running (.upload batch) k) = .running (.upload batch) k := by
  unfold WorkerState.receive
  rw [h]

theorem receive_resumed {answer : HttpAnswer} {batch : List TraceEventV2}
    {k : WorkerRes (.upload batch) → WorkerProg Waits}
    {disposition : Except AnyError UploadDisposition}
    (h : upload_attempt answer = some disposition) :
    WorkerState.receive answer (.running (.upload batch) k) = resume (k disposition) := by
  unfold WorkerState.receive
  rw [h]

namespace PipelineState

/-- The worker gets an answer. -/
def receive (p : PipelineState) (answer : HttpAnswer) : PipelineState :=
  { p with adapter := { p.adapter with worker := WorkerState.receive answer p.adapter.worker } }

/-- The Agent carries out a request. -/
def ingest (p : PipelineState) (server_id : String) (batch : List TraceEventV2) (now : Int) :
    PipelineState :=
  { p with store := (ingest_trace_events server_id batch now p.store).2 }

/-- Old events leave the store. -/
def purge (p : PipelineState) (observed_before : Int) : PipelineState :=
  { p with
    store := p.store.purge_trace_events observed_before
    purged := p.purged ++ (p.store.ri_v2_trace_events.rows.filter
      (fun row => row.val.observed_at < observed_before)).map Row.val }

/-- One step, where it is possible. -/
def step (cfg : WorkerConfig) (server_id : String) (p : PipelineState) :
    PipelineStep → Option PipelineState
  | .adapter step =>
    match step, awaited p.adapter.worker with
    | .work _, some _ => none
    | step, _ => (p.adapter.step cfg step).map (fun adapter => { p with adapter })
  | .send => (awaited p.adapter.worker).map (fun batch => { p with sent := p.sent ++ [batch] })
  | .serve index now answered =>
    p.sent[index]?.bind (fun batch =>
      if answered = false then some (p.ingest server_id batch now)
      else if awaited p.adapter.worker = some batch then
        some ((p.ingest server_id batch now).receive
          (.status (ingest_status (ingest_trace_events server_id batch now p.store).1)))
      else none)
  | .refuse answer =>
    if upload_attempt answer = some (.ok .uploaded) then none
    else (awaited p.adapter.worker).map (fun _ => p.receive answer)
  | .purge observed_before => some (p.purge observed_before)
  | .client s =>
    some { p with store := { s with ri_v2_trace_events := p.store.ri_v2_trace_events } }

variable {cfg : WorkerConfig} {server_id : String} {p p' : PipelineState}

/-- What a step can do. -/
inductive Moves (cfg : WorkerConfig) (server_id : String) (p : PipelineState) :
    PipelineStep → PipelineState → Prop where
  | adapter {step : AdapterStep} {adapter : AdapterState}
    (hother : ∀ env, step = .work env → awaited p.adapter.worker = none)
    (hstep : p.adapter.step cfg step = some adapter) :
    Moves cfg server_id p (.adapter step) { p with adapter }
  | send {batch : List TraceEventV2} (hawaited : awaited p.adapter.worker = some batch) :
    Moves cfg server_id p .send { p with sent := p.sent ++ [batch] }
  | lost {index : Nat} {now : Int} {answered : Bool} {batch : List TraceEventV2}
    (hsent : batch ∈ p.sent) :
    Moves cfg server_id p (.serve index now answered) (p.ingest server_id batch now)
  | answered {index : Nat} {now : Int} {answered : Bool} {batch : List TraceEventV2}
    (hsent : batch ∈ p.sent) (hawaited : awaited p.adapter.worker = some batch) :
    Moves cfg server_id p (.serve index now answered)
      ((p.ingest server_id batch now).receive
        (.status (ingest_status (ingest_trace_events server_id batch now p.store).1)))
  | refuse {answer : HttpAnswer} (hother : upload_attempt answer ≠ some (.ok .uploaded)) :
    Moves cfg server_id p (.refuse answer) (p.receive answer)
  | purge (observed_before : Int) :
    Moves cfg server_id p (.purge observed_before) (p.purge observed_before)
  | client (s : EvidenceStore) :
    Moves cfg server_id p (.client s)
      { p with store := { s with ri_v2_trace_events := p.store.ri_v2_trace_events } }

theorem moves_of_step {step : PipelineStep} (h : p.step cfg server_id step = some p') :
    Moves cfg server_id p step p' := by
  unfold PipelineState.step at h
  cases step with
  | adapter step =>
    cases hawaited : awaited p.adapter.worker with
    | none =>
      -- nothing is awaited, so any step of the adapter may come
      have hadapter :
          (p.adapter.step cfg step).map (fun adapter => { p with adapter }) = some p' := by
        rw [hawaited] at h
        cases step <;> exact h
      obtain ⟨adapter, hstep, rfl⟩ := Option.map_eq_some_iff.mp hadapter
      exact .adapter (fun _ _ => hawaited) hstep
    | some batch =>
      -- during an upload the worker does nothing else
      rw [hawaited] at h
      cases step with
      | work env => cases h
      | _ =>
        obtain ⟨adapter, hstep, rfl⟩ := Option.map_eq_some_iff.mp h
        exact .adapter (fun _ heq => by cases heq) hstep
  | send =>
    obtain ⟨batch, hawaited, rfl⟩ := Option.map_eq_some_iff.mp h
    exact .send hawaited
  | serve index now answered =>
    obtain ⟨batch, hbatch, hserved⟩ := Option.bind_eq_some_iff.mp h
    have hsent : batch ∈ p.sent := List.mem_of_getElem? hbatch
    split at hserved
    · obtain rfl := Option.some.inj hserved
      exact .lost hsent
    · split at hserved
      · rename_i hawaited
        obtain rfl := Option.some.inj hserved
        exact .answered hsent hawaited
      · cases hserved
  | refuse answer =>
    by_cases huploaded : upload_attempt answer = some (.ok .uploaded)
    · simp only [if_pos huploaded] at h
      cases h
    · simp only [if_neg huploaded] at h
      obtain ⟨_, _, rfl⟩ := Option.map_eq_some_iff.mp h
      exact .refuse huploaded
  | purge observed_before =>
    obtain rfl := Option.some.inj h
    exact .purge observed_before
  | client s =>
    obtain rfl := Option.some.inj h
    exact .client s

end PipelineState

/-- The pipeline from empty stores on. -/
def pipeline (cfg : WorkerConfig) (max_events : Nat) (server_id : String) :
    Machine PipelineState PipelineStep where
  init := ⟨(adapter cfg max_events).init, .open_, [], []⟩
  step := PipelineState.step cfg server_id

/-! ## §3. What holds of every state. -/

namespace PipelineState

/-- What the store has taken, whether or not it has been purged since. -/
def arrived (p : PipelineState) : List TraceEventV2 :=
  p.store.ri_v2_trace_events.rows.map Row.val ++ p.purged

/-- The event was accepted by the spool, up to the source graph it was enriched with. -/
def Accepted (p : PipelineState) (event : TraceEventV2) : Prop :=
  ∃ accepted ∈ p.adapter.accepted, Enriches accepted event

/-- What an iteration goes by is true. -/
structure Vouched (p : PipelineState) (st : Receipts) : Prop where
  seen : ∀ event ∈ st.seen, p.Accepted event
  taken : ∀ event ∈ st.taken, event.event_id ∈ p.arrived.map TraceEventV2.event_id

/-- The worker's program is one that follows the receipts. -/
def WorkerVouched (p : PipelineState) : WorkerState → Prop
  | .running o k => ∃ st, p.Vouched st ∧ FollowsReceipts (.op o k) (fun _ _ => True) st
  | _ => True

/-- The invariant of the pipeline. -/
structure Inv (max_events : Nat) (p : PipelineState) : Prop where
  adapter : AdapterInv max_events p.adapter
  worker : p.WorkerVouched p.adapter.worker
  sent : ∀ batch ∈ p.sent, ∀ event ∈ batch, p.Accepted event
  keys : ∀ row ∈ p.store.ri_v2_trace_events.rows, row.key = row.val.event_id
  genuine : ∀ event ∈ p.arrived, p.Accepted event
  acknowledged : ∀ event_id ∈ p.adapter.acknowledged,
    event_id ∈ p.arrived.map TraceEventV2.event_id

/-- Nothing that was accepted or has arrived is forgotten. -/
structure Extends (p p' : PipelineState) : Prop where
  accepted : ∀ event ∈ p.adapter.accepted, event ∈ p'.adapter.accepted
  arrived : ∀ event_id ∈ p.arrived.map TraceEventV2.event_id,
    event_id ∈ p'.arrived.map TraceEventV2.event_id

variable {p p' : PipelineState} {st : Receipts} {max_events : Nat} {cfg : WorkerConfig}
variable {server_id : String}

theorem Extends.same (haccepted : p'.adapter.accepted = p.adapter.accepted)
    (harrived : p'.arrived = p.arrived) : Extends p p' :=
  ⟨fun _ hmem => haccepted ▸ hmem, fun _ hmem => harrived ▸ hmem⟩

theorem Accepted.extend {event : TraceEventV2} (h : p.Accepted event) (hext : Extends p p') :
    p'.Accepted event := by
  obtain ⟨accepted, hmem, henrich⟩ := h
  exact ⟨accepted, hext.accepted accepted hmem, henrich⟩

theorem Vouched.extend (h : p.Vouched st) (hext : Extends p p') : p'.Vouched st :=
  ⟨fun event hmem => (h.seen event hmem).extend hext,
    fun event hmem => hext.arrived _ (h.taken event hmem)⟩

theorem WorkerVouched.extend {worker : WorkerState} (h : p.WorkerVouched worker)
    (hext : Extends p p') : p'.WorkerVouched worker := by
  cases worker with
  | idle waits => exact trivial
  | stopped error => exact trivial
  | running o k =>
    obtain ⟨st, hvouched, hfollows⟩ := h
    exact ⟨st, hvouched.extend hext, hfollows⟩

/-- The worker uploads what it has read or enriched. -/
theorem WorkerVouched.awaited {worker : WorkerState} (h : p.WorkerVouched worker)
    {batch : List TraceEventV2} (hawaited : awaited worker = some batch) :
    ∀ event ∈ batch, p.Accepted event := by
  cases worker with
  | idle waits => cases hawaited
  | stopped error => cases hawaited
  | running o k =>
    obtain ⟨st, hst, hpermit, _⟩ := h
    cases o with
    | upload uploading =>
      obtain rfl := Option.some.inj hawaited
      exact fun event hevent => hst.seen event (hpermit event hevent)
    | _ => cases hawaited

theorem vouched_resume {prog : WorkerProg Waits} (h : p.Vouched st)
    (hfollows : FollowsReceipts prog (fun _ _ => True) st) : p.WorkerVouched (resume prog) := by
  cases prog with
  | ret waits => exact trivial
  | fail error => exact trivial
  | op o k => exact ⟨st, h, hfollows⟩

/-! ## §4. Steps of the adapter. -/

/-- One operation of the worker, as its iteration reckons it. -/
theorem Vouched.work {env : Adapter.Surroundings} {o : WorkerOp} {r : WorkerRes o}
    {spool : TraceSpool} (h : p.Vouched st) (hadapter : AdapterInv max_events p.adapter)
    (hpermit : ReceiptPermits st o) (hother : ∀ batch, o ≠ .upload batch)
    (hperform : Adapter.perform env o p.adapter.spool = some (r, spool)) :
    p.Vouched (receipt_next st o r) ∧
      ∀ event_id ∈ acknowledge_log p.adapter.acknowledged o r,
        event_id ∈ p.adapter.acknowledged ∨ event_id ∈ p.arrived.map TraceEventV2.event_id := by
  cases o with
  | recv | notifications | find_latest_cache_source_graph _ _ | instant_now | system_time
  | quarantine _ _ | quarantine_trace _ _ => exact ⟨h, fun _ hmem => Or.inl hmem⟩
  | upload batch => exact absurd rfl (hother batch)
  | load_batch limit =>
    obtain ⟨rfl, rfl⟩ := Prod.mk.inj (Option.some.inj hperform)
    obtain ⟨⟨l, hbooks, _⟩, _⟩ := hadapter
    refine ⟨⟨?_, h.taken⟩, fun _ hmem => Or.inl hmem⟩
    intro event hmem
    rcases List.mem_append.mp hmem with hold | hloaded
    · exact h.seen event hold
    · obtain ⟨_, accepted, haccepted, henrich⟩ := hbooks.toRefines.of_mem_load_batch hloaded
      rw [hbooks.accepted_items] at haccepted
      exact ⟨accepted, haccepted, henrich⟩
  | replace_pending enriched =>
    obtain ⟨event, hevent, henrich⟩ := hpermit
    obtain ⟨accepted, haccepted, hbefore⟩ := h.seen event hevent
    refine ⟨⟨?_, h.taken⟩, fun _ hmem => Or.inl hmem⟩
    intro other hmem
    rcases List.mem_append.mp hmem with hold | hnew
    · exact h.seen other hold
    · rw [List.mem_singleton.mp hnew]
      exact ⟨accepted, haccepted, hbefore.trans henrich⟩
  | acknowledge events =>
    refine ⟨h, fun event_id hmem => ?_⟩
    cases r with
    | error error => exact Or.inl hmem
    | ok _ =>
      rcases List.mem_append.mp hmem with hold | hnew
      · exact Or.inl hold
      · obtain ⟨event, hevent, rfl⟩ := List.mem_map.mp hnew
        exact Or.inr (h.taken event (hpermit event hevent))

/-- What a step of the adapter can do. -/
inductive AdapterMoves (cfg : WorkerConfig) (a : AdapterState) :
    AdapterStep → AdapterState → Prop where
  | enqueued (event : TraceEventV2) :
    AdapterMoves cfg a (.enqueue event) { a with
      spool := (a.spool.enqueue event).2
      accepted := accept_log event a.accepted (a.spool.enqueue event).1 }
  | started {waits : Waits} (hworker : a.worker = .idle waits) :
    AdapterMoves cfg a .start { a with worker := resume (upload_iteration cfg waits) }
  | worked {env : Adapter.Surroundings} {o : WorkerOp} {k : WorkerRes o → WorkerProg Waits}
    {r : WorkerRes o} {spool : TraceSpool} (hworker : a.worker = .running o k)
    (hperform : Adapter.perform env o a.spool = some (r, spool)) :
    AdapterMoves cfg a (.work env) { a with
      spool
      worker := resume (k r)
      acknowledged := acknowledge_log a.acknowledged o r }
  | restarted : AdapterMoves cfg a .restart { a with worker := .idle [] }

theorem adapter_moves {a a' : AdapterState} {step : AdapterStep}
    (h : a.step cfg step = some a') : AdapterMoves cfg a step a' := by
  unfold AdapterState.step at h
  cases step with
  | enqueue event =>
    obtain rfl := Option.some.inj h
    exact .enqueued event
  | start =>
    cases hworker : a.worker with
    | idle waits =>
      simp only [hworker] at h
      obtain rfl := Option.some.inj h
      exact .started hworker
    | running o k => simp only [hworker] at h; cases h
    | stopped error => simp only [hworker] at h; cases h
  | work env =>
    cases hworker : a.worker with
    | idle waits => simp only [hworker] at h; cases h
    | stopped error => simp only [hworker] at h; cases h
    | running o k =>
      simp only [hworker] at h
      obtain ⟨⟨r, spool⟩, hperform, rfl⟩ := Option.map_eq_some_iff.mp h
      exact .worked hworker hperform
  | restart =>
    obtain rfl := Option.some.inj h
    exact .restarted

/-- The log grows by an event that was not refused. -/
theorem mem_accept_log {event offered : TraceEventV2} {accepted : List TraceEventV2}
    {outcome : Except AnyError Unit} : event ∈ accept_log offered accepted outcome ↔
      event ∈ accepted ∨ outcome = .ok () ∧ event = offered := by
  cases outcome with
  | error error =>
    show event ∈ accepted ↔ _
    simp
  | ok _ =>
    show event ∈ (if offered ∈ accepted then accepted else accepted ++ [offered]) ↔ _
    by_cases hmem : offered ∈ accepted
    · rw [if_pos hmem]
      constructor
      · exact Or.inl
      · rintro (hold | ⟨_, rfl⟩)
        · exact hold
        · exact hmem
    · rw [if_neg hmem]
      simp

theorem accepted_of_step {a a' : AdapterState} {step : AdapterStep}
    (h : a.step cfg step = some a') : ∀ event ∈ a.accepted, event ∈ a'.accepted := by
  intro event hevent
  cases adapter_moves h with
  | enqueued offered => exact mem_accept_log.mpr (Or.inl hevent)
  | _ => exact hevent

theorem Extends.adapter {a : AdapterState} {step : AdapterStep}
    (h : p.adapter.step cfg step = some a) : Extends p { p with adapter := a } :=
  ⟨accepted_of_step h, fun _ hmem => hmem⟩

/-- A step of the adapter that is no upload. -/
theorem Inv.adapter_step (h : p.Inv max_events) {a : AdapterState} {step : AdapterStep}
    (hstep : p.adapter.step cfg step = some a)
    (hother : ∀ env, step = .work env → awaited p.adapter.worker = none) :
    Inv max_events { p with adapter := a } := by
  have hext : Extends p { p with adapter := a } := Extends.adapter hstep
  have hrest : WorkerVouched { p with adapter := a } a.worker ∧
      ∀ event_id ∈ a.acknowledged, event_id ∈ p.adapter.acknowledged ∨
        event_id ∈ p.arrived.map TraceEventV2.event_id := by
    cases adapter_moves hstep with
    | enqueued event => exact ⟨h.worker.extend hext, fun _ hmem => Or.inl hmem⟩
    | restarted => exact ⟨trivial, fun _ hmem => Or.inl hmem⟩
    | @started waits hworker =>
      -- an iteration begins with nothing read and nothing taken
      have hnone : p.Vouched ⟨[], []⟩ :=
        ⟨fun _ hmem => (List.not_mem_nil hmem).elim, fun _ hmem => (List.not_mem_nil hmem).elim⟩
      exact ⟨vouched_resume (hnone.extend hext) (upload_iteration_receipts cfg waits _),
        fun _ hmem => Or.inl hmem⟩
    | @worked env o k r spool hworker hperform =>
      have hvouched := h.worker
      rw [hworker] at hvouched
      obtain ⟨st, hst, hpermit, hk⟩ := hvouched
      have hupload : ∀ batch, o ≠ .upload batch := by
        rintro batch rfl
        have hnone := hother env rfl
        rw [hworker] at hnone
        cases hnone
      obtain ⟨hnext, hlog⟩ := hst.work h.adapter hpermit hupload hperform
      exact ⟨vouched_resume (hnext.extend hext) (hk r trivial), hlog⟩
  refine ⟨AdapterInv.step h.adapter hstep, hrest.1, ?_, h.keys, ?_, ?_⟩
  · exact fun batch hbatch event hevent => (h.sent batch hbatch event hevent).extend hext
  · exact fun event hevent => (h.genuine event hevent).extend hext
  · intro event_id hmem
    rcases hrest.2 event_id hmem with hold | hnew
    · exact h.acknowledged event_id hold
    · exact hnew

/-! ## §5. Steps of the Agent. -/

theorem mem_arrived {event : TraceEventV2} : event ∈ p.arrived ↔
    (∃ row ∈ p.store.ri_v2_trace_events.rows, row.val = event) ∨ event ∈ p.purged := by
  unfold arrived
  rw [List.mem_append, List.mem_map]

theorem arrived_of_get? {event_id : String} {event : TraceEventV2}
    (h : p.store.ri_v2_trace_events.get? event_id = some event) : event ∈ p.arrived := by
  obtain ⟨row, hrow, _, hval⟩ := RowTable.get?_eq_some_iff.mp h
  exact mem_arrived.mpr (Or.inl ⟨row, hrow, hval⟩)

/-- A request leaves the store as it was, or appends events of its batch. -/
theorem ingest_appends (p : PipelineState) (server_id : String) (batch : List TraceEventV2)
    (now : Int) :
    ∃ added, (p.ingest server_id batch now).store.ri_v2_trace_events.rows =
        p.store.ri_v2_trace_events.rows ++ added ∧
      ∀ row ∈ added, row.val ∈ batch ∧ row.key = row.val.event_id ∧
        validate_trace_event row.val server_id now = .ok () := by
  unfold ingest
  rcases ingest_cases server_id batch now p.store with ⟨s', hingest, hingested⟩ | ⟨error, hingest⟩
  · obtain ⟨added, happended⟩ :=
      EvidenceStore.put_trace_events_body_eq_ok (fun _ hmem => hmem) hingested.put
    rw [hingest]
    refine ⟨added, happended.rows, fun row hrow => ?_⟩
    obtain ⟨_, hkey, hmem, _⟩ := happended.fresh row hrow
    exact ⟨hmem, hkey, hingested.valid row.val hmem⟩
  · rw [hingest]
    exact ⟨[], (List.append_nil _).symm, fun row hrow => (List.not_mem_nil hrow).elim⟩

theorem Extends.ingest (batch : List TraceEventV2) (now : Int) :
    Extends p (p.ingest server_id batch now) := by
  refine ⟨fun _ hmem => hmem, ?_⟩
  obtain ⟨added, hrows, _⟩ := ingest_appends p server_id batch now
  intro event_id hmem
  obtain ⟨event, hevent, rfl⟩ := List.mem_map.mp hmem
  refine List.mem_map_of_mem ?_
  rcases mem_arrived.mp hevent with ⟨row, hrow, hval⟩ | hpurged
  · refine mem_arrived.mpr (Or.inl ⟨row, ?_, hval⟩)
    rw [hrows]
    exact List.mem_append_left _ hrow
  · exact mem_arrived.mpr (Or.inr hpurged)

theorem Inv.ingest (h : p.Inv max_events) {batch : List TraceEventV2} (now : Int)
    (hbatch : ∀ event ∈ batch, p.Accepted event) :
    Inv max_events (p.ingest server_id batch now) := by
  have hext : Extends p (p.ingest server_id batch now) := Extends.ingest batch now
  obtain ⟨added, hrows, hadded⟩ := ingest_appends p server_id batch now
  refine ⟨h.adapter, h.worker.extend hext, h.sent, ?_, ?_, ?_⟩
  · rw [hrows]
    intro row hrow
    rcases List.mem_append.mp hrow with hold | hnew
    · exact h.keys row hold
    · exact (hadded row hnew).2.1
  · intro event hevent
    rcases mem_arrived.mp hevent with ⟨row, hrow, rfl⟩ | hpurged
    · rw [hrows] at hrow
      rcases List.mem_append.mp hrow with hold | hnew
      · exact h.genuine _ (mem_arrived.mpr (Or.inl ⟨row, hold, rfl⟩))
      · exact hbatch _ (hadded row hnew).1
    · exact h.genuine _ (mem_arrived.mpr (Or.inr hpurged))
  · exact fun event_id hmem => hext.arrived event_id (h.acknowledged event_id hmem)

/-- A batch that is answered with success has arrived. -/
theorem arrived_of_success {batch : List TraceEventV2} {now : Int}
    (h : (ingest_trace_events server_id batch now p.store).1 = .ok ()) :
    ∀ event ∈ batch, event.event_id ∈
      (p.ingest server_id batch now).arrived.map TraceEventV2.event_id := by
  intro event hevent
  unfold ingest
  rcases ingest_cases server_id batch now p.store with ⟨s', hingest, hingested⟩ | ⟨error, hingest⟩
  · rw [hingest]
    exact List.mem_map_of_mem (arrived_of_get? (get?_of_put hingested.put event hevent))
  · rw [hingest] at h
    cases h

/-- The adapter takes an answer as one operation of its worker. -/
theorem receive_adapter {a : AdapterState} (h : AdapterInv max_events a) (answer : HttpAnswer) :
    AdapterInv max_events { a with worker := WorkerState.receive answer a.worker } := by
  obtain ⟨spool, worker, accepted, acknowledged⟩ := a
  cases worker with
  | idle waits => exact h
  | stopped error => exact h
  | running o k =>
    cases o with
    | upload batch =>
      cases hattempt : upload_attempt answer with
      | none =>
        dsimp only
        rw [receive_retried hattempt]
        exact h
      | some disposition =>
        dsimp only
        rw [receive_resumed hattempt]
        -- the operation that is answered so
        have hstep : (Adapter.adapter ⟨0, 0⟩ max_events).step
            ⟨spool, .running (.upload batch) k, accepted, acknowledged⟩
            (.work ⟨true, 0, .ok none, 0, .ok 0, [answer]⟩) =
            some ⟨spool, resume (k disposition), accepted, acknowledged⟩ := by
          have hbatch : upload_batch [answer] = some disposition := by
            unfold upload_batch
            rw [hattempt]
          show (AdapterState.work _ _ (.upload batch) k : Option AdapterState) = _
          unfold AdapterState.work Adapter.perform
          simp only [hbatch]
          rfl
        exact AdapterInv.step h hstep
    | _ => exact h

/-- An answer with success is taken only where the batch has arrived. -/
def Answered (p : PipelineState) (answer : HttpAnswer) : Prop :=
  upload_attempt answer = some (.ok .uploaded) → ∀ batch, awaited p.adapter.worker = some batch →
    ∀ event ∈ batch, event.event_id ∈ p.arrived.map TraceEventV2.event_id

theorem WorkerVouched.receive {answer : HttpAnswer} (h : p.WorkerVouched p.adapter.worker)
    (hanswered : p.Answered answer) :
    p.WorkerVouched (WorkerState.receive answer p.adapter.worker) := by
  unfold Answered at hanswered
  cases hworker : p.adapter.worker with
  | idle waits => exact trivial
  | stopped error => exact trivial
  | running o k =>
    rw [hworker] at h hanswered
    cases o with
    | upload batch =>
      cases hattempt : upload_attempt answer with
      | none =>
        rw [receive_retried hattempt]
        exact h
      | some disposition =>
        rw [receive_resumed hattempt]
        obtain ⟨st, hst, hpermit, hk⟩ := h
        refine vouched_resume ?_ (hk disposition trivial)
        show p.Vouched (st.uploaded batch disposition)
        cases disposition with
        | error error => exact hst
        | ok outcome =>
          cases outcome with
          | payloadRejected status => exact hst
          | uploaded =>
            refine ⟨hst.seen, fun event hmem => ?_⟩
            rcases List.mem_append.mp hmem with hold | hnew
            · exact hst.taken event hold
            · exact hanswered hattempt batch rfl event hnew
    | _ => exact h

theorem Inv.receive (h : p.Inv max_events) {answer : HttpAnswer} (hanswered : p.Answered answer) :
    Inv max_events (p.receive answer) :=
  ⟨receive_adapter h.adapter answer, (h.worker.receive hanswered).extend (Extends.same rfl rfl),
    h.sent, h.keys, h.genuine, h.acknowledged⟩

theorem mem_purge {row : Row String TraceEventV2} {observed_before : Int} :
    row ∈ (p.purge observed_before).store.ri_v2_trace_events.rows ↔
      row ∈ p.store.ri_v2_trace_events.rows ∧ ¬ row.val.observed_at < observed_before :=
  EvidenceStore.mem_purge_trace_events

/-- A purge only moves what has arrived. -/
theorem arrived_purge {observed_before : Int} {event : TraceEventV2} :
    event ∈ (p.purge observed_before).arrived ↔ event ∈ p.arrived := by
  rw [mem_arrived, mem_arrived]
  have hpurged : event ∈ (p.purge observed_before).purged ↔ event ∈ p.purged ∨
      ∃ row ∈ p.store.ri_v2_trace_events.rows, row.val.observed_at < observed_before ∧
        row.val = event := by
    show event ∈ p.purged ++ _ ↔ _
    simp only [List.mem_append, List.mem_map, List.mem_filter, decide_eq_true_eq, and_assoc]
  rw [hpurged]
  simp only [mem_purge]
  constructor
  · rintro (⟨row, ⟨hrow, _⟩, hval⟩ | hold | ⟨row, hrow, _, hval⟩)
    · exact Or.inl ⟨row, hrow, hval⟩
    · exact Or.inr hold
    · exact Or.inl ⟨row, hrow, hval⟩
  · rintro (⟨row, hrow, hval⟩ | hold)
    · by_cases hbefore : row.val.observed_at < observed_before
      · exact Or.inr (Or.inr ⟨row, hrow, hbefore, hval⟩)
      · exact Or.inl ⟨row, ⟨hrow, hbefore⟩, hval⟩
    · exact Or.inr (Or.inl hold)

theorem Inv.purge (h : p.Inv max_events) (observed_before : Int) :
    Inv max_events (p.purge observed_before) := by
  have hext : Extends p (p.purge observed_before) := by
    refine ⟨fun _ hmem => hmem, fun event_id hmem => ?_⟩
    obtain ⟨event, hevent, rfl⟩ := List.mem_map.mp hmem
    exact List.mem_map_of_mem (arrived_purge.mpr hevent)
  refine ⟨h.adapter, h.worker.extend hext, h.sent, ?_, ?_, ?_⟩
  · exact fun row hrow => h.keys row (mem_purge.mp hrow).1
  · exact fun event hevent => h.genuine event (arrived_purge.mp hevent)
  · exact fun event_id hmem => hext.arrived event_id (h.acknowledged event_id hmem)

/-! ## §6. Every run. -/

theorem Inv.init : Inv max_events (pipeline cfg max_events server_id).init where
  adapter := @AdapterInv.init cfg max_events
  worker := trivial
  sent := fun _ hbatch => (List.not_mem_nil hbatch).elim
  keys := fun _ hrow => (List.not_mem_nil hrow).elim
  genuine := fun _ hevent => (List.not_mem_nil hevent).elim
  acknowledged := fun _ hmem => (List.not_mem_nil hmem).elim

theorem Inv.step (h : p.Inv max_events) {step : PipelineStep}
    (hstep : p.step cfg server_id step = some p') : Inv max_events p' := by
  cases moves_of_step hstep with
  | adapter hother hadapter => exact h.adapter_step hadapter hother
  | send hawaited =>
    refine ⟨h.adapter, h.worker.extend (Extends.same rfl rfl), ?_, h.keys, h.genuine,
      h.acknowledged⟩
    intro sent hsent event hevent
    rcases List.mem_append.mp hsent with hold | hnew
    · exact h.sent sent hold event hevent
    · rw [List.mem_singleton.mp hnew] at hevent
      exact h.worker.awaited hawaited event hevent
  | lost hsent => exact h.ingest _ (h.sent _ hsent)
  | answered hsent hawaited =>
    refine (h.ingest _ (h.sent _ hsent)).receive ?_
    intro huploaded uploading huploading
    obtain rfl := Option.some.inj (hawaited.symm.trans huploading)
    exact arrived_of_success (ok_of_uploaded huploaded)
  | refuse hother => exact h.receive (fun huploaded => absurd huploaded hother)
  | purge observed_before => exact h.purge observed_before
  | client s =>
    exact ⟨h.adapter, h.worker.extend (Extends.same rfl rfl), h.sent, h.keys, h.genuine,
      h.acknowledged⟩

theorem Inv.of_run {steps : List PipelineStep}
    (hrun : (pipeline cfg max_events server_id).run steps = some p) : Inv max_events p :=
  Machine.invariant Inv.init (fun _ _ _ h hstep => h.step hstep) hrun

theorem Inv.accepted_unique (h : p.Inv max_events) {a b : TraceEventV2}
    (ha : a ∈ p.adapter.accepted) (hb : b ∈ p.adapter.accepted) (hid : a.event_id = b.event_id) :
    a = b := by
  obtain ⟨⟨l, hbooks, _⟩, _⟩ := h.adapter
  rw [← hbooks.accepted_items] at ha hb
  exact hbooks.eq_of_id ha hb hid

/-- What has arrived under the id of an accepted event is that event. -/
theorem Inv.arrived_enriches (h : p.Inv max_events) {event : TraceEventV2}
    (hevent : event ∈ p.adapter.accepted)
    (hid : event.event_id ∈ p.arrived.map TraceEventV2.event_id) :
    ∃ taken ∈ p.arrived, Enriches event taken := by
  obtain ⟨taken, htaken, hsame⟩ := List.mem_map.mp hid
  obtain ⟨accepted, haccepted, henrich⟩ := h.genuine taken htaken
  obtain rfl := h.accepted_unique haccepted hevent (henrich.event_id.symm.trans hsame)
  exact ⟨taken, htaken, henrich⟩

end PipelineState

/-! ## §7. Nothing is lost, nothing is made up. -/

open PipelineState

/-- What arrived was accepted, and what was accepted is somewhere. -/
structure Delivered (p : PipelineState) : Prop where
  genuine : ∀ event ∈ p.arrived, p.Accepted event
  acknowledged : ∀ event_id ∈ p.adapter.acknowledged,
    event_id ∈ p.arrived.map TraceEventV2.event_id
  kept : ∀ event ∈ p.adapter.accepted, event.event_id ∈ pending_ids p.adapter.spool ∨
    event.event_id ∈ dead_ids p.adapter.spool ∨ ∃ taken ∈ p.arrived, Enriches event taken

section Runs

variable {cfg : WorkerConfig} {max_events : Nat} {server_id : String}
variable {steps : List PipelineStep} {p : PipelineState}

theorem Delivered.of_inv (h : p.Inv max_events) : Delivered p := by
  refine ⟨h.genuine, h.acknowledged, fun event hevent => ?_⟩
  obtain ⟨⟨l, hbooks, _⟩, _⟩ := h.adapter
  have hcovered := (hbooks.conserves.covered event.event_id).mp (List.mem_map_of_mem hevent)
  rcases hcovered with hpending | hdead | hacknowledged
  · exact Or.inl hpending
  · exact Or.inr (Or.inl hdead)
  · exact Or.inr (Or.inr (h.arrived_enriches hevent (h.acknowledged _ hacknowledged)))

/-- **Every accepted event is pending, set aside or taken by the Agent**, and the Agent takes
nothing else, however requests and answers are lost, delayed and repeated. -/
theorem delivered_of_run (hrun : (pipeline cfg max_events server_id).run steps = some p) :
    Delivered p :=
  Delivered.of_inv (Inv.of_run hrun)

/-! ## §8. No event is taken twice. -/

/-- What has been purged is too old for the ingestion window of a request. -/
def Retained (p : PipelineState) : PipelineStep → Prop
  | .serve _ now _ => 0 ≤ now ∧ now ≤ I64_MAX ∧ ∀ event ∈ p.purged, event.observed_at < now - 300
  | _ => True

instance decidableRetained (p : PipelineState) : ∀ step, Decidable (Retained p step)
  | .serve _ now _ => inferInstanceAs (Decidable
      (0 ≤ now ∧ now ≤ I64_MAX ∧ ∀ event ∈ p.purged, event.observed_at < now - 300))
  | .adapter _ | .send | .refuse _ | .purge _ | .client _ => inferInstanceAs (Decidable True)

/-- No event is in the store that was purged, or was purged twice. -/
structure Once (p : PipelineState) : Prop where
  purged : (p.purged.map TraceEventV2.event_id).Nodup
  stored : ∀ row ∈ p.store.ri_v2_trace_events.rows, row.key ∉ p.purged.map TraceEventV2.event_id

theorem Once.purge (hinv : p.Inv max_events) (h : Once p) (observed_before : Int) :
    Once (p.purge observed_before) := by
  -- the keys of the rows that are deleted
  have hdeleted : ∀ event_id, event_id ∈ ((p.store.ri_v2_trace_events.rows.filter
      (fun row => row.val.observed_at < observed_before)).map Row.val).map
        TraceEventV2.event_id ↔ ∃ row ∈ p.store.ri_v2_trace_events.rows,
          row.val.observed_at < observed_before ∧ row.key = event_id := by
    intro event_id
    simp only [List.map_map, List.mem_map, List.mem_filter, decide_eq_true_eq, Function.comp,
      and_assoc]
    constructor
    · rintro ⟨row, hrow, hbefore, hid⟩
      exact ⟨row, hrow, hbefore, (hinv.keys row hrow).trans hid⟩
    · rintro ⟨row, hrow, hbefore, hid⟩
      exact ⟨row, hrow, hbefore, (hinv.keys row hrow).symm.trans hid⟩
  have hsplit : (p.purge observed_before).purged.map TraceEventV2.event_id =
      p.purged.map TraceEventV2.event_id ++ ((p.store.ri_v2_trace_events.rows.filter
        (fun row => row.val.observed_at < observed_before)).map Row.val).map
          TraceEventV2.event_id := List.map_append
  refine ⟨?_, ?_⟩
  · rw [hsplit, List.nodup_append']
    refine ⟨h.purged, ?_, ?_⟩
    · have hkeys : ((p.store.ri_v2_trace_events.rows.filter
          (fun row => row.val.observed_at < observed_before)).map Row.val).map
            TraceEventV2.event_id = (p.store.ri_v2_trace_events.rows.filter
          (fun row => row.val.observed_at < observed_before)).map Row.key := by
        rw [List.map_map]
        exact List.map_congr_left (fun row hrow => (hinv.keys row (List.mem_filter.mp hrow).1).symm)
      rw [hkeys]
      exact p.store.ri_v2_trace_events.keyed.sublist (List.filter_sublist.map Row.key)
    · intro event_id hold hnew
      obtain ⟨row, hrow, _, hkey⟩ := (hdeleted event_id).mp hnew
      exact h.stored row hrow (hkey ▸ hold)
  · intro row hrow
    obtain ⟨hrow, hafter⟩ := mem_purge.mp hrow
    rw [hsplit, List.mem_append, not_or]
    refine ⟨h.stored row hrow, fun hnew => ?_⟩
    obtain ⟨other, hother, hbefore, hkey⟩ := (hdeleted row.key).mp hnew
    rw [RowTable.row_ext_of_key hother hrow hkey] at hbefore
    exact hafter hbefore

theorem Once.ingest (hinv : p.Inv max_events) (h : Once p) {batch : List TraceEventV2} {now : Int}
    (hbatch : ∀ event ∈ batch, p.Accepted event) (hlow : 0 ≤ now) (hhigh : now ≤ I64_MAX)
    (hpurged : ∀ event ∈ p.purged, event.observed_at < now - 300) :
    Once (p.ingest server_id batch now) := by
  obtain ⟨added, hrows, hadded⟩ := ingest_appends p server_id batch now
  refine ⟨h.purged, ?_⟩
  intro row hrow hold
  rw [hrows] at hrow
  rcases List.mem_append.mp hrow with hstored | hnew
  · exact h.stored row hstored hold
  · -- an event that is let in is newer than what was purged
    obtain ⟨hmem, hkey, hvalid⟩ := hadded row hnew
    have hwindow := validate_trace_event_window hlow hhigh hvalid
    obtain ⟨event, hevent, hid⟩ := List.mem_map.mp hold
    have holder := hpurged event hevent
    obtain ⟨accepted, haccepted, henrich⟩ :=
      hinv.genuine event (mem_arrived.mpr (Or.inr hevent))
    obtain ⟨other, hother, henrich'⟩ := hbatch row.val hmem
    have hsame : accepted = other := hinv.accepted_unique haccepted hother
      (henrich.event_id.symm.trans (hid.trans (hkey.trans henrich'.event_id)))
    have hobserved : event.observed_at = row.val.observed_at := by
      rw [henrich, henrich', hsame]
    omega

theorem Once.receive (h : Once p) (answer : HttpAnswer) : Once (p.receive answer) :=
  ⟨h.purged, h.stored⟩

theorem Once.step {p' : PipelineState} (hinv : p.Inv max_events) (h : Once p)
    {step : PipelineStep} (hretained : Retained p step)
    (hstep : (pipeline cfg max_events server_id).step p step = some p') : Once p' := by
  cases moves_of_step hstep with
  | lost hsent =>
    obtain ⟨hlow, hhigh, hpurged⟩ := hretained
    exact h.ingest hinv (hinv.sent _ hsent) hlow hhigh hpurged
  | answered hsent _ =>
    obtain ⟨hlow, hhigh, hpurged⟩ := hretained
    exact (h.ingest hinv (hinv.sent _ hsent) hlow hhigh hpurged).receive _
  | purge observed_before => exact h.purge hinv observed_before
  | _ => exact ⟨h.purged, h.stored⟩

/-- **No event is taken twice**, not even after it was purged, as long as purges keep what a
request could still bring. -/
theorem stored_once (hrun : (pipeline cfg max_events server_id).run steps = some p)
    (hretained : (pipeline cfg max_events server_id).Along Retained steps) :
    (p.arrived.map TraceEventV2.event_id).Nodup := by
  have hboth : p.Inv max_events ∧ Once p := by
    refine Machine.invariant_of_along (C := Retained) (I := fun p => p.Inv max_events ∧ Once p)
      ⟨Inv.init, ?_⟩ ?_ hretained hrun
    · exact ⟨List.nodup_nil, fun _ hrow => (List.not_mem_nil hrow).elim⟩
    · intro s step s' hkept hcondition hstep
      exact ⟨hkept.1.step hstep, hkept.2.step hkept.1 hcondition hstep⟩
  obtain ⟨hinv, honce⟩ := hboth
  unfold arrived
  rw [List.map_append, List.map_map, List.nodup_append']
  have hkeys : p.store.ri_v2_trace_events.rows.map (TraceEventV2.event_id ∘ Row.val) =
      p.store.ri_v2_trace_events.rows.map Row.key :=
    List.map_congr_left (fun row hrow => (hinv.keys row hrow).symm)
  rw [hkeys]
  refine ⟨p.store.ri_v2_trace_events.keyed, honce.purged, ?_⟩
  intro event_id hstored hpurged
  obtain ⟨row, hrow, rfl⟩ := List.mem_map.mp hstored
  exact honce.stored row hrow hpurged

/-! ## §9. Traces arrive in order. -/

/-- Ascending numbers from `k` on that include the next `n` begin with these. -/
theorem take_of_ascending {n : Nat} : ∀ {k : Nat} {l : List Nat}, l.Pairwise (· < ·) →
    (∀ a ∈ l, k ≤ a) → (∀ a, k ≤ a → a < k + n → a ∈ l) → l.take n = List.range' k n := by
  induction n with
  | zero => intro k l _ _ _; rfl
  | succ n ih =>
    intro k l hascending hfrom hall
    have hk : k ∈ l := hall k (Nat.le_refl k) (by omega)
    cases l with
    | nil => cases hk
    | cons a rest =>
      obtain ⟨hless, hrest⟩ := List.pairwise_cons.mp hascending
      have ha : a = k := by
        rcases List.mem_cons.mp hk with heq | hlater
        · exact heq.symm
        · have hlt := hless k hlater
          have hle := hfrom a List.mem_cons_self
          omega
      rw [List.take_succ_cons, List.range'_succ, ha]
      refine congrArg (k :: ·) (ih hrest ?_ ?_)
      · intro b hb
        have hlt := hless b hb
        omega
      · intro b hlow hhigh
        rcases List.mem_cons.mp (hall b (by omega) (by omega)) with heq | hlater
        · omega
        · exact hlater

theorem forall₂_of_keys {α β κ : Type} {R : α → β → Prop} {f : α → κ} {g : β → κ} :
    ∀ {l : List α} {l' : List β}, l.map f = l'.map g →
      (∀ a ∈ l, ∀ b ∈ l', f a = g b → R a b) → List.Forall₂ R l l' := by
  intro l
  induction l with
  | nil =>
    intro l' hkeys _
    rw [List.map_eq_nil_iff.mp hkeys.symm]
    exact List.Forall₂.nil
  | cons a rest ih =>
    intro l' hkeys hmatch
    cases l' with
    | nil => cases hkeys
    | cons b rest' =>
      obtain ⟨hone, hrest⟩ := List.cons.inj hkeys
      refine List.Forall₂.cons (hmatch a List.mem_cons_self b List.mem_cons_self hone) ?_
      exact ih hrest (fun a' ha b' hb =>
        hmatch a' (List.mem_cons_of_mem _ ha) b' (List.mem_cons_of_mem _ hb))

/-- What the spool has accepted of a trace. -/
def accepted_of (p : PipelineState) (trace_id : String) : List TraceEventV2 :=
  p.adapter.accepted.filter (fun event => event.trace_id = trace_id)

/-- The traces of the store are chains, and so are those of the spool. -/
structure Ordered (p : PipelineState) : Prop where
  shape : ∀ trace_id, ∃ n, EvidenceStore.TraceShape p.store trace_id n
  positive : ∀ event ∈ p.adapter.accepted, 0 < event.sequence

theorem positive_of_appends {event : TraceEventV2} {s s' : TraceSpool}
    (h : TraceSpool.Appends s event s') : 0 < event.sequence := by
  obtain ⟨state, _, _, hsequence⟩ := h.sequence
  rw [hsequence]
  cases state with
  | none => exact Nat.one_pos
  | some value =>
    show 0 < min (value.1 + 1) U64_MAX
    unfold U64_MAX
    omega

theorem positive_of_enqueue {a : AdapterState} (h : AdapterInv max_events a)
    (hpositive : ∀ known ∈ a.accepted, 0 < known.sequence) (event : TraceEventV2) :
    ∀ known ∈ accept_log event a.accepted (a.spool.enqueue event).1, 0 < known.sequence := by
  intro known hknown
  rcases mem_accept_log.mp hknown with hold | ⟨hok, rfl⟩
  · exact hpositive known hold
  · rcases TraceSpool.enqueue_eq_ok (Prod.ext hok rfl) with ⟨row, hseen, hsame, _⟩ | happ
    · -- a known event stands in the log
      obtain ⟨⟨l, hbooks, _⟩, _⟩ := h
      obtain ⟨stored, hstored, _, hrow⟩ := hbooks.mem_of_seen hseen
      rw [hbooks.accepted_items, ← hrow, hsame] at hstored
      exact hpositive known hstored
    · exact positive_of_appends happ

theorem Ordered.adapter (hinv : p.Inv max_events) (h : Ordered p) {a : AdapterState}
    {step : AdapterStep} (hstep : p.adapter.step cfg step = some a) :
    Ordered { p with adapter := a } := by
  refine ⟨h.shape, ?_⟩
  cases adapter_moves hstep with
  | enqueued event => exact positive_of_enqueue hinv.adapter h.positive event
  | _ => exact h.positive

theorem Ordered.ingest (h : Ordered p) (batch : List TraceEventV2) (now : Int) :
    Ordered (p.ingest server_id batch now) := by
  refine ⟨?_, h.positive⟩
  unfold PipelineState.ingest
  rcases ingest_cases server_id batch now p.store with ⟨s', hingest, hingested⟩ | ⟨error, hingest⟩
  · rw [hingest]
    exact EvidenceStore.put_trace_events_body_shape h.shape hingested.put
  · rw [hingest]
    exact h.shape

theorem Ordered.receive (h : Ordered p) (answer : HttpAnswer) : Ordered (p.receive answer) :=
  ⟨h.shape, h.positive⟩

theorem Ordered.step {p' : PipelineState} (hinv : p.Inv max_events) (h : Ordered p)
    {step : PipelineStep} (hpurge : ∀ observed_before, step ≠ .purge observed_before)
    (hstep : p.step cfg server_id step = some p') : Ordered p' := by
  cases moves_of_step hstep with
  | adapter _ hadapter => exact h.adapter hinv hadapter
  | lost _ => exact h.ingest _ _
  | answered _ _ => exact (h.ingest _ _).receive _
  | purge observed_before => exact absurd rfl (hpurge observed_before)
  | client s =>
    refine ⟨fun trace_id => ?_, h.positive⟩
    obtain ⟨n, hshape⟩ := h.shape trace_id
    exact ⟨n, hshape.bound, hshape.sequences, hshape.first, hshape.parent, hshape.terminal⟩
  | _ => exact ⟨h.shape, h.positive⟩

theorem Ordered.init : Ordered (pipeline cfg max_events server_id).init :=
  ⟨fun trace_id => ⟨0, EvidenceStore.open_shape trace_id⟩,
    fun _ hmem => (List.not_mem_nil hmem).elim⟩

theorem Ordered.stored (hinv : p.Inv max_events) (h : Ordered p) (trace_id : String) :
    ∃ n, List.Forall₂ Enriches ((accepted_of p trace_id).take n)
      ((p.store.trace_rows trace_id).map Row.val) := by
  obtain ⟨n, hshape⟩ := h.shape trace_id
  -- every stored event is one of those accepted, at its place
  have hrow : ∀ row ∈ p.store.trace_rows trace_id,
      ∃ event ∈ accepted_of p trace_id, Enriches event row.val := by
    intro row hmem
    obtain ⟨hmem, htrace⟩ := EvidenceStore.mem_trace_rows.mp hmem
    obtain ⟨event, hevent, henrich⟩ := hinv.genuine _ (mem_arrived.mpr (Or.inl ⟨row, hmem, rfl⟩))
    refine ⟨event, List.mem_filter.mpr ⟨hevent, decide_eq_true ?_⟩, henrich⟩
    rw [← henrich.trace_id, htrace]
  have hsequenced : p.store.sequenced_rows trace_id = p.store.trace_rows trace_id := by
    refine List.filter_eq_self.mpr (fun row hmem => decide_eq_true ?_)
    obtain ⟨event, hevent, henrich⟩ := hrow row hmem
    rw [henrich.sequence]
    exact h.positive event (List.mem_filter.mp hevent).1
  have hsequences := hshape.sequences
  rw [hsequenced] at hsequences
  obtain ⟨⟨l, hbooks, _⟩, _⟩ := hinv.adapter
  have hascending : ((accepted_of p trace_id).map TraceEventV2.sequence).Pairwise (· < ·) := by
    have hall := hbooks.ascending
    rw [hbooks.accepted_items] at hall
    unfold accepted_of
    rw [List.pairwise_map, List.pairwise_filter]
    refine hall.imp (fun hless ha hb => hless ?_)
    rw [of_decide_eq_true ha, of_decide_eq_true hb]
  have htake : ((accepted_of p trace_id).map TraceEventV2.sequence).take n = List.range' 1 n := by
    refine take_of_ascending hascending ?_ ?_
    · intro sequence hmem
      obtain ⟨event, hevent, rfl⟩ := List.mem_map.mp hmem
      exact h.positive event (List.mem_filter.mp hevent).1
    · intro sequence hlow hhigh
      have hmem : sequence ∈ List.range' 1 n := List.mem_range'_1.mpr ⟨hlow, hhigh⟩
      rw [← hsequences] at hmem
      obtain ⟨row, hstored, rfl⟩ := List.mem_map.mp hmem
      obtain ⟨event, hevent, henrich⟩ := hrow row hstored
      rw [henrich.sequence]
      exact List.mem_map_of_mem hevent
  refine ⟨n, forall₂_of_keys (f := TraceEventV2.sequence) (g := TraceEventV2.sequence) ?_ ?_⟩
  · rw [List.map_take, htake, List.map_map]
    exact hsequences.symm
  · intro event hevent stored hstored hsame
    obtain ⟨row, hmem, rfl⟩ := List.mem_map.mp hstored
    obtain ⟨other, hother, henrich⟩ := hrow row hmem
    obtain ⟨hevent, htrace⟩ := List.mem_filter.mp (List.mem_of_mem_take hevent)
    obtain ⟨hother, htrace'⟩ := List.mem_filter.mp hother
    have hplace : event = other := by
      rw [← hbooks.accepted_items] at hevent hother
      refine hbooks.eq_of_place hevent hother ?_ (hsame.trans henrich.sequence)
      rw [of_decide_eq_true htrace, of_decide_eq_true htrace']
    rw [hplace]
    exact henrich

/-- **Of each trace the store holds a first part of what the spool has accepted**, in its order,
if nothing is purged: no event overtakes another, and none is left out between two. -/
theorem stored_in_order (hrun : (pipeline cfg max_events server_id).run steps = some p)
    (hpurge : ∀ observed_before, PipelineStep.purge observed_before ∉ steps) (trace_id : String) :
    ∃ n, List.Forall₂ Enriches ((accepted_of p trace_id).take n)
      ((p.store.trace_rows trace_id).map Row.val) := by
  have hordered : Ordered p := by
    refine Machine.run_induction (M := pipeline cfg max_events server_id)
      (motive := fun steps p => (∀ observed_before, PipelineStep.purge observed_before ∉ steps) →
        Ordered p) (fun _ => Ordered.init) ?_ hrun hpurge
    intro steps s step s' hrun ih hstep hnone
    have hbefore := ih (fun b hmem => hnone b (List.mem_append_left _ hmem))
    refine hbefore.step (Inv.of_run hrun) ?_ hstep
    rintro b rfl
    exact hnone b (List.mem_append_right _ List.mem_cons_self)
  exact hordered.stored (Inv.of_run hrun) trace_id

end Runs

/-! ## §10. A late request. -/

/-- One digest for every field. -/
def relay_digest : String := "0x4444444444444444444444444444444444444444444444444444444444444444"

/-- The first event of a trace the Agent accepts. -/
def relayed_query : TraceEventV2 := { first_query with correlation_id := relay_digest }

/-- Its last event. -/
def relayed_response : TraceEventV2 :=
  { sample_event "event-2" "trace-1" 2 .clientResponse (some "event-1") with
    correlation_id := relay_digest
    response_digest := some relay_digest
    cache_object_digest := some relay_digest }

/-- The first request arrives, but its answer does not: it is sent again, and arrives once
more after the second was answered. -/
def relay_run : List PipelineStep :=
  [.adapter (.enqueue relayed_query), .adapter .start, .adapter (.work (answering 200)), .send,
    .serve 0 1750000000 false, .refuse (.failed "timed out"), .send, .serve 1 1750000001 true,
    .adapter (.work (answering 200)), .serve 0 1750000002 false,
    .adapter (.enqueue relayed_response), .adapter .start, .adapter (.work (answering 200)),
    .send, .serve 2 1750000003 true]

/-- The first request arrives a last time when its event has been purged. -/
def purged_run : List PipelineStep :=
  relay_run ++ [.purge 1750000100, .serve 0 1750000301 false]

theorem relay_run_tables :
    ((pipeline sample_config 3 "resolver-a").run relay_run).map (fun p =>
      (pending_ids p.adapter.spool, p.adapter.acknowledged,
        p.store.ri_v2_trace_events.rows.map Row.key)) =
      some (["event-2"], ["event-1"], ["event-1", "event-2"]) := by
  decide +kernel

theorem purged_run_tables :
    ((pipeline sample_config 3 "resolver-a").run purged_run).map (fun p =>
      (p.store.ri_v2_trace_events.rows.map Row.key, p.purged.map TraceEventV2.event_id)) =
      some ([], ["event-1", "event-2"]) := by
  decide +kernel

theorem purged_run_retained : (pipeline sample_config 3 "resolver-a").Along Retained purged_run :=
  Machine.along_of_checked (by decide +kernel)

/-- The query is acknowledged, the response has arrived and is still pending. -/
theorem relay_run_delivered :
    ∃ p, (pipeline sample_config 3 "resolver-a").run relay_run = some p ∧
      p.adapter.acknowledged = ["event-1"] ∧ Delivered p := by
  obtain ⟨p, hrun, htables⟩ := Option.map_eq_some_iff.mp relay_run_tables
  exact ⟨p, hrun, (Prod.mk.inj (Prod.mk.inj htables).2).1, delivered_of_run hrun⟩

/-- Three arrivals of one request, and a purge before the last. -/
theorem purged_run_once :
    ∃ p, (pipeline sample_config 3 "resolver-a").run purged_run = some p ∧
      p.purged.map TraceEventV2.event_id = ["event-1", "event-2"] ∧
      (p.arrived.map TraceEventV2.event_id).Nodup := by
  obtain ⟨p, hrun, htables⟩ := Option.map_eq_some_iff.mp purged_run_tables
  exact ⟨p, hrun, (Prod.mk.inj htables).2, stored_once hrun purged_run_retained⟩

/-- The trace of the late request, as the store holds it. -/
theorem relay_run_in_order :
    ∃ p, (pipeline sample_config 3 "resolver-a").run relay_run = some p ∧
      ∃ n, List.Forall₂ Enriches ((accepted_of p "trace-1").take n)
        ((p.store.trace_rows "trace-1").map Row.val) := by
  obtain ⟨p, hrun, _⟩ := Option.map_eq_some_iff.mp relay_run_tables
  refine ⟨p, hrun, stored_in_order hrun ?_ "trace-1"⟩
  intro observed_before hmem
  simp [relay_run] at hmem

end ResolverIdentity.Pipeline
