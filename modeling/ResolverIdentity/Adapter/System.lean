/-
  ResolverIdentity.Adapter.System: producers, the worker and the spool together.

  Any number of producer connections enqueue while the one upload worker runs
  its loop; each operation of the spool is one step, what the Agent, the clocks
  and the evidence store answer is part of the label, and the process may be
  restarted between any two steps.  Two logs are kept beside the program: the
  events `enqueue` accepted and the ids the Agent acknowledged.

  Main results:
    * `perform_spec`: an operation a worker may issue keeps the books;
    * `AdapterInv.of_run`: the books agree with the tables after every run;
    * `conserves_and_orders`: conservation, duplicate detection, order, capacity
      and rollback of the spool.
-/
import ResolverIdentity.Adapter.Conservation

namespace ResolverIdentity.Adapter

open Library TraceSpool

/-! ## §1. One operation of the worker. -/

/-- What the outside decides during one operation. -/
structure Surroundings where
  channel_open : Bool
  wakeups : Nat
  source : Except AnyError (Option (QueryEvidenceGraphV2 × String))
  instant : Nat
  system_time : Except AnyError Int
  answers : List HttpAnswer

/-- The answer to an operation and the spool after it; `none` while an upload is
still being retried. -/
def perform (env : Surroundings) :
    (o : WorkerOp) → TraceSpool → Option (WorkerRes o × TraceSpool)
  | .recv, s => some (env.channel_open, s)
  | .notifications, s => some (env.wakeups, s)
  | .load_batch limit, s => some (s.load_batch limit, s)
  | .find_latest_cache_source_graph _ _, s => some (env.source, s)
  | .instant_now, s => some (env.instant, s)
  | .system_time, s => some (env.system_time, s)
  | .replace_pending event, s => some (s.replace_pending event)
  | .upload _, s => (upload_batch env.answers).map (fun disposition => (disposition, s))
  | .acknowledge events, s => some (s.acknowledge events)
  | .quarantine event reason, s => some (s.quarantine event reason)
  | .quarantine_trace trace_id reason, s => some (s.quarantine_trace trace_id reason)

/-! ## §2. The system. -/

/-- Where the worker stands; a pending operation has not been issued yet. -/
inductive WorkerState where
  | idle (waits : Waits)
  | running (o : WorkerOp) (k : WorkerRes o → WorkerProg Waits)
  | stopped (error : AnyError)

/-- An iteration that ends gives its map of deadlines to the next one. -/
def resume : WorkerProg Waits → WorkerState
  | .ret waits => .idle waits
  | .fail error => .stopped error
  | .op o k => .running o k

/-- The spool, where the worker is, and ghost copies of what went in and out. -/
structure AdapterState where
  spool : TraceSpool
  worker : WorkerState
  accepted : List TraceEventV2
  acknowledged : List String

/-- What can happen next: a producer's event, one operation of the worker, a crash. -/
inductive AdapterStep where
  | enqueue (event : TraceEventV2)
  | start
  | work (env : Surroundings)
  | restart

/-- The log of accepted events after an answer of `enqueue`. -/
def accept_log (event : TraceEventV2) (accepted : List TraceEventV2) :
    Except AnyError Unit → List TraceEventV2
  | .ok () => if event ∈ accepted then accepted else accepted ++ [event]
  | .error _ => accepted

/-- The log of acknowledged ids after an operation of the worker. -/
def acknowledge_log (acknowledged : List String) : (o : WorkerOp) → WorkerRes o → List String
  | .acknowledge events, .ok () => acknowledged ++ events.map TraceEventV2.event_id
  | _, _ => acknowledged

/-- The worker's next operation is carried out. -/
def AdapterState.work (a : AdapterState) (env : Surroundings) (o : WorkerOp)
    (k : WorkerRes o → WorkerProg Waits) : Option AdapterState :=
  (perform env o a.spool).map (fun r =>
    { a with
      spool := r.2
      worker := resume (k r.1)
      acknowledged := acknowledge_log a.acknowledged o r.1 })

/-- One step, where it is possible. -/
def AdapterState.step (cfg : WorkerConfig) (a : AdapterState) : AdapterStep → Option AdapterState
  | .enqueue event => some
    { a with
      spool := (a.spool.enqueue event).2
      accepted := accept_log event a.accepted (a.spool.enqueue event).1 }
  | .start =>
    match a.worker with
    | .idle waits => some { a with worker := resume (upload_iteration cfg waits) }
    | _ => none
  | .work env =>
    match a.worker with
    | .running o k => a.work env o k
    | _ => none
  | .restart => some { a with worker := .idle [] }

/-- The adapter from an empty spool on. -/
def adapter (cfg : WorkerConfig) (max_events : Nat) : Machine AdapterState AdapterStep where
  init := ⟨open_ max_events, .idle [], [], []⟩
  step := AdapterState.step cfg

/-! ## §3. The books. -/

/-- A ledger that agrees with the tables and with both logs. -/
structure Books (s : TraceSpool) (accepted : List TraceEventV2) (acknowledged : List String)
    (l : SpoolLedger) : Prop extends Refines s l where
  accepted_items : Ledger.items l = accepted
  acknowledged_ids : ∀ event_id, event_id ∈ ids_with l .acknowledged ↔ event_id ∈ acknowledged

/-- An event in the worker's hands is pending, as it was accepted up to enrichment. -/
def Owned (l : SpoolLedger) (hand : List TraceEventV2) : Prop :=
  ∀ event ∈ hand, event.event_id ∈ ids_with l .pending ∧ ∃ e ∈ Ledger.items l, Enriches e event

section Books

variable {s s' : TraceSpool} {accepted : List TraceEventV2} {acknowledged : List String}
  {l : SpoolLedger} {hand : List TraceEventV2}

/-- No event has two fates. -/
theorem Books.not_both (h : Books s accepted acknowledged l) {fate other : Fate}
    (hne : fate ≠ other) {event_id : String} (hmem : event_id ∈ ids_with l fate) :
    event_id ∉ ids_with l other := by
  intro hother
  exact hne (Ledger.fate_unique TraceEventV2.event_id h.distinct_ids hmem hother)

/-- Settled events leave the hand, the others stay pending. -/
theorem Owned.settle (h : Owned l hand) {fate : Fate} (hne : fate ≠ .pending) {ids : List String}
    {kept : List TraceEventV2} (hsub : ∀ event ∈ kept, event ∈ hand ∧ event.event_id ∉ ids) :
    Owned (settle_ids fate l ids) kept := by
  intro event hmem
  obtain ⟨hhand, hids⟩ := hsub event hmem
  obtain ⟨hpending, e, he, henrich⟩ := h event hhand
  rw [ids_with_settle_ids_of_ne hne, items_settle_ids]
  exact ⟨List.mem_filter.mpr ⟨hpending, decide_eq_true hids⟩, e, he, henrich⟩

/-- Moving pending events to the dead letter leaves the acknowledged ones alone. -/
theorem Books.dead_letter_ids (h : Books s accepted acknowledged l) {ids : List String}
    (hpending : ∀ event_id ∈ ids, event_id ∈ ids_with l .pending)
    (hs' : Refines s' (settle_ids .dead_lettered l ids)) :
    Books s' accepted acknowledged (settle_ids .dead_lettered l ids) where
  toRefines := hs'
  accepted_items := by rw [items_settle_ids, h.accepted_items]
  acknowledged_ids := by
    intro event_id
    rw [ids_with_settle_ids_of_ne (by decide), List.mem_filter, ← h.acknowledged_ids event_id]
    refine ⟨fun hmem => hmem.1, fun hmem => ⟨hmem, decide_eq_true ?_⟩⟩
    intro hids
    exact h.not_both (by decide) (hpending event_id hids) hmem

theorem Books.acknowledge (h : Books s accepted acknowledged l) (howned : Owned l hand)
    {events : List TraceEventV2} (hevents : ∀ event ∈ events, event ∈ hand) :
    Books (s.acknowledge events).2 accepted
      (acknowledged ++ events.map TraceEventV2.event_id)
      (settle_ids .acknowledged l (events.map TraceEventV2.event_id)) where
  toRefines := by
    refine h.toRefines.acknowledge_all events ?_
    intro event hmem
    exact h.not_both (by decide) (howned event (hevents event hmem)).1
  accepted_items := by rw [items_settle_ids, h.accepted_items]
  acknowledged_ids := by
    intro event_id
    rw [mem_ids_with_settle_ids, List.mem_append, h.acknowledged_ids event_id]
    intro id hid
    obtain ⟨event, hmem, rfl⟩ := List.mem_map.mp hid
    exact (Ledger.keysWith_sublist _ l _).subset (howned event (hevents event hmem)).1

theorem Books.quarantine (h : Books s accepted acknowledged l) (howned : Owned l hand)
    {event : TraceEventV2} (hmem : event ∈ hand) (reason : String) :
    Books (s.quarantine event reason).2 accepted acknowledged
      (settle_ids .dead_lettered l [event.event_id]) := by
  obtain ⟨hpending, e, he, henrich⟩ := howned event hmem
  refine h.dead_letter_ids ?_ (h.toRefines.dead_letter_one he henrich.event_id.symm henrich)
  intro event_id hid
  rw [List.mem_singleton.mp hid]
  exact hpending

/-- The ids `quarantine_trace` moves. -/
def trace_ids (s : TraceSpool) (trace_id : String) : List String :=
  (s.pending_of trace_id).map Row.key

/-- A whole trace is moved, or it had nothing pending and nothing changes. -/
theorem Books.quarantine_trace (h : Books s accepted acknowledged l) (trace_id reason : String) :
    Books (s.quarantine_trace trace_id reason).2 accepted acknowledged
      (settle_ids .dead_lettered l (trace_ids s trace_id)) := by
  have hrows : ∀ row ∈ s.pending_of trace_id, row ∈ s.trace_spool.rows :=
    fun row hrow => (List.mem_filter.mp hrow).1
  have hmoved := h.toRefines.dead_letter_all reason (s.pending_of trace_id)
    (fun row hrow => h.pending row (hrows row hrow))
  rw [quarantine_trace_snd]
  refine h.dead_letter_ids ?_ hmoved
  intro event_id hid
  obtain ⟨row, hrow, hkey⟩ := List.mem_map.mp hid
  exact h.toRefines.pending_iff.mpr ⟨row, hrows row hrow, hkey⟩

/-- Events of other traces are not among those moved. -/
theorem Books.not_mem_trace_ids (h : Books s accepted acknowledged l) (howned : Owned l hand)
    {trace_id : String} {event : TraceEventV2} (hmem : event ∈ hand)
    (htrace : event.trace_id ≠ trace_id) : event.event_id ∉ trace_ids s trace_id := by
  intro hid
  obtain ⟨row, hrow, hkey⟩ := List.mem_map.mp hid
  obtain ⟨hrow, hof⟩ := List.mem_filter.mp hrow
  obtain ⟨e, he, hid, henrich⟩ := h.pending row hrow
  obtain ⟨_, e', he', henrich'⟩ := howned event hmem
  have heq : e = e' := h.eq_of_id he he' (hid.trans (hkey.trans henrich'.event_id))
  refine htrace ?_
  rw [henrich'.trace_id, ← heq, ← henrich.trace_id]
  exact of_decide_eq_true hof

/-- The ledger after an operation of the worker. -/
def book (s : TraceSpool) (l : SpoolLedger) : WorkerOp → SpoolLedger
  | .acknowledge events => settle_ids .acknowledged l (events.map TraceEventV2.event_id)
  | .quarantine event _ => settle_ids .dead_lettered l [event.event_id]
  | .quarantine_trace trace_id _ => settle_ids .dead_lettered l (trace_ids s trace_id)
  | _ => l

/-- What an operation of the worker does to the books: it is answered as the
protocol reckons, and what is left in the worker's hands is still pending. -/
theorem perform_spec {env : Surroundings} {o : WorkerOp} {r : WorkerRes o}
    (h : Books s accepted acknowledged l) (howned : Owned l hand) (hpermit : HandPermits hand o)
    (hperform : perform env o s = some (r, s')) :
    HandAnswers o r ∧ Books s' accepted (acknowledge_log acknowledged o r) (book s l o) ∧
      Owned (book s l o) (hand_next hand o r) := by
  cases o with
  | recv | notifications | find_latest_cache_source_graph _ _ | instant_now | system_time =>
    obtain ⟨_, rfl⟩ := Prod.mk.inj (Option.some.inj hperform)
    exact ⟨trivial, h, howned⟩
  | load_batch limit =>
    obtain ⟨rfl, rfl⟩ := Prod.mk.inj (Option.some.inj hperform)
    exact ⟨h.toRefines.load_batch_nodup limit, h, fun event hmem =>
      h.toRefines.of_mem_load_batch hmem⟩
  | upload batch =>
    obtain ⟨disposition, _, hr⟩ := Option.map_eq_some_iff.mp hperform
    obtain ⟨_, rfl⟩ := Prod.mk.inj hr
    exact ⟨trivial, h, howned⟩
  | replace_pending enriched =>
    obtain ⟨event, hmem, henrich⟩ := hpermit
    -- the event in hand is pending, so its row can be replaced
    obtain ⟨hpending, e, he, hevent⟩ := howned event hmem
    have hs' : s' = (s.replace_pending enriched).2 :=
      (congrArg Prod.snd (Option.some.inj hperform)).symm
    have hbooks := h.toRefines.replace_pending he (hevent.trans henrich)
    rw [hs']
    refine ⟨trivial, ⟨hbooks, h.accepted_items, h.acknowledged_ids⟩, ?_⟩
    intro other hother
    obtain ⟨held, hheld, rfl⟩ := List.mem_map.mp hother
    by_cases hid : held.event_id = enriched.event_id
    · rw [if_pos hid, henrich.event_id]
      exact ⟨hpending, e, he, hevent.trans henrich⟩
    · rw [if_neg hid]
      exact howned held hheld
  | acknowledge events =>
    obtain ⟨rfl, rfl⟩ := Prod.mk.inj (Option.some.inj hperform)
    refine ⟨trivial, h.acknowledge howned hpermit, ?_⟩
    exact howned.settle (by decide) (fun event hmem => mem_drop_ids.mp hmem)
  | quarantine event reason =>
    obtain ⟨rfl, rfl⟩ := Prod.mk.inj (Option.some.inj hperform)
    refine ⟨trivial, h.quarantine howned hpermit reason, ?_⟩
    exact howned.settle (by decide) (fun event hmem => mem_drop_ids.mp hmem)
  | quarantine_trace trace_id reason =>
    have hs' : s' = (s.quarantine_trace trace_id reason).2 :=
      (congrArg Prod.snd (Option.some.inj hperform)).symm
    rw [hs']
    refine ⟨trivial, h.quarantine_trace trace_id reason, ?_⟩
    refine howned.settle (by decide) ?_
    -- what is left in hand is of other traces
    intro event hmem
    obtain ⟨hhand, htrace⟩ := List.mem_filter.mp hmem
    exact ⟨hhand, h.not_mem_trace_ids howned hhand (of_decide_eq_true htrace)⟩

theorem Books.enqueue (h : Books s accepted acknowledged l) (event : TraceEventV2) :
    ∃ l', Books (s.enqueue event).2 (accept_log event accepted (s.enqueue event).1)
        acknowledged l' ∧
      ∀ hand, Owned l hand → Owned l' hand := by
  cases hrun : s.enqueue event with
  | mk outcome s' =>
    cases outcome with
    | error e =>
      rw [transaction_error hrun]
      exact ⟨l, h, fun _ howned => howned⟩
    | ok _ =>
      rcases h.toRefines.enqueue_cases hrun with ⟨hmem, rfl⟩ | ⟨hnew, hrefines⟩
      · -- known: neither the spool nor the log changes
        rw [h.accepted_items] at hmem
        refine ⟨l, ?_, fun _ howned => howned⟩
        show Books s' (if event ∈ accepted then _ else _) _ _
        rw [if_pos hmem]
        exact h
      · have hlog : event ∉ accepted := by
          intro hmem
          rw [← h.accepted_items] at hmem
          exact hnew (List.mem_map_of_mem hmem)
        refine ⟨_, ⟨hrefines, ?_, ?_⟩, ?_⟩
        · show _ = if event ∈ accepted then _ else _
          rw [if_neg hlog, Ledger.items_accept, h.accepted_items]
        · intro event_id
          rw [← h.acknowledged_ids event_id]
          show event_id ∈ Ledger.keysWith _ _ _ ↔ _
          rw [Ledger.keysWith_accept, if_neg (by decide), List.append_nil]
        · intro hand howned other hother
          obtain ⟨hpending, e, he, henrich⟩ := howned other hother
          rw [Ledger.items_accept]
          refine ⟨?_, e, List.mem_append_left _ he, henrich⟩
          show _ ∈ Ledger.keysWith _ _ _
          rw [Ledger.keysWith_accept]
          exact List.mem_append_left _ hpending

end Books

/-! ## §4. Every run. -/

/-- What a running worker still has to do is its protocol on the events it holds. -/
def WorkerOwns (l : SpoolLedger) : WorkerState → Prop
  | .running o k => ∃ hand, Owned l hand ∧ FollowsHand (.op o k) (fun _ _ => True) hand
  | _ => True

/-- The invariant of the adapter over whole runs. -/
structure AdapterInv (max_events : Nat) (a : AdapterState) : Prop where
  books : ∃ l, Books a.spool a.accepted a.acknowledged l ∧ WorkerOwns l a.worker
  limit : a.spool.max_events = max_events

theorem worker_owns_resume {l : SpoolLedger} {p : WorkerProg Waits} {hand : List TraceEventV2}
    (howned : Owned l hand) (hfollows : FollowsHand p (fun _ _ => True) hand) :
    WorkerOwns l (resume p) := by
  cases p with
  | ret waits => exact trivial
  | fail error => exact trivial
  | op o k => exact ⟨hand, howned, hfollows⟩

/-- What each turn of a loop keeps, the loop keeps. -/
theorem foldl_kept {β γ : Type} {g : TraceSpool → γ} {f : TraceSpool → β → TraceSpool}
    (hf : ∀ s b, g (f s b) = g s) (bs : List β) : ∀ s : TraceSpool, g (bs.foldl f s) = g s := by
  induction bs with
  | nil => intro s; rfl
  | cons b bs ih =>
    intro s
    exact (ih (f s b)).trans (hf s b)

/-- No operation of the worker changes the limit or what the spool knows of the traces. -/
theorem perform_frame {env : Surroundings} {o : WorkerOp} {s s' : TraceSpool} {r : WorkerRes o}
    (h : perform env o s = some (r, s')) :
    s'.max_events = s.max_events ∧ s'.trace_spool_state = s.trace_spool_state := by
  cases o with
  | upload batch =>
    obtain ⟨disposition, _, hr⟩ := Option.map_eq_some_iff.mp h
    rw [(Prod.mk.inj hr).2]
    exact ⟨rfl, rfl⟩
  | replace_pending event =>
    have hs' : (s.replace_pending event).2 = s' := congrArg Prod.snd (Option.some.inj h)
    rw [← hs', replace_pending_snd]
    exact ⟨rfl, rfl⟩
  | acknowledge events =>
    have hs' : (s.acknowledge events).2 = s' := congrArg Prod.snd (Option.some.inj h)
    rw [← hs']
    exact ⟨foldl_kept (f := fun s (event : TraceEventV2) => s.delete_pending event.event_id)
        (g := TraceSpool.max_events) (fun _ _ => rfl) events s,
      foldl_kept (f := fun s (event : TraceEventV2) => s.delete_pending event.event_id)
        (g := TraceSpool.trace_spool_state) (fun _ _ => rfl) events s⟩
  | quarantine event reason =>
    have hs' : (s.quarantine event reason).2 = s' := congrArg Prod.snd (Option.some.inj h)
    rw [← hs']
    exact ⟨rfl, rfl⟩
  | quarantine_trace trace_id reason =>
    have hs' : (s.quarantine_trace trace_id reason).2 = s' :=
      congrArg Prod.snd (Option.some.inj h)
    rw [← hs', quarantine_trace_snd]
    exact ⟨foldl_kept (f := fun s (row : Row String TraceEventV2) =>
        s.dead_letter reason row.key row.val) (g := TraceSpool.max_events) (fun _ _ => rfl) _ s,
      foldl_kept (f := fun s (row : Row String TraceEventV2) =>
        s.dead_letter reason row.key row.val) (g := TraceSpool.trace_spool_state)
        (fun _ _ => rfl) _ s⟩
  | _ =>
    obtain ⟨_, rfl⟩ := Prod.mk.inj (Option.some.inj h)
    exact ⟨rfl, rfl⟩

theorem enqueue_max_events (s : TraceSpool) (event : TraceEventV2) :
    (s.enqueue event).2.max_events = s.max_events := by
  cases hrun : s.enqueue event with
  | mk outcome s' =>
    cases outcome with
    | error e => rw [transaction_error hrun]
    | ok _ =>
      rcases enqueue_eq_ok hrun with ⟨_, _, _, rfl⟩ | happ
      · rfl
      · exact happ.max_events

section Runs

variable {cfg : WorkerConfig} {max_events : Nat}

theorem AdapterInv.init : AdapterInv max_events (adapter cfg max_events).init where
  books := ⟨[], ⟨Refines.init max_events, rfl, by intro event_id; rfl⟩, trivial⟩
  limit := rfl

theorem AdapterInv.step {a a' : AdapterState} {step : AdapterStep}
    (h : AdapterInv max_events a) (hstep : (adapter cfg max_events).step a step = some a') :
    AdapterInv max_events a' := by
  obtain ⟨⟨l, hbooks, howns⟩, hlimit⟩ := h
  cases step with
  | enqueue event =>
    obtain rfl := Option.some.inj hstep
    obtain ⟨l', hbooks', hmono⟩ := hbooks.enqueue event
    refine ⟨⟨l', hbooks', ?_⟩, (enqueue_max_events a.spool event).trans hlimit⟩
    show WorkerOwns l' a.worker
    -- the worker keeps what it has in hand
    cases hworker : a.worker with
    | idle waits => exact trivial
    | stopped error => exact trivial
    | running o k =>
      rw [hworker] at howns
      obtain ⟨hand, howned, hfollows⟩ := howns
      exact ⟨hand, hmono hand howned, hfollows⟩
  | start =>
    unfold adapter AdapterState.step at hstep
    cases hworker : a.worker with
    | idle waits =>
      simp only [hworker] at hstep
      obtain rfl := Option.some.inj hstep
      have hempty : Owned l [] := by intro event hmem; cases hmem
      exact ⟨⟨l, hbooks, worker_owns_resume hempty (upload_iteration_follows cfg waits [])⟩,
        hlimit⟩
    | running o k => simp only [hworker] at hstep; cases hstep
    | stopped error => simp only [hworker] at hstep; cases hstep
  | work env =>
    unfold adapter AdapterState.step at hstep
    cases hworker : a.worker with
    | idle waits => simp only [hworker] at hstep; cases hstep
    | stopped error => simp only [hworker] at hstep; cases hstep
    | running o k =>
      simp only [hworker] at hstep
      rw [hworker] at howns
      -- what the worker holds permits its operation
      obtain ⟨hand, howned, hpermit, hk⟩ := howns
      obtain ⟨r, hperform, hr⟩ := Option.map_eq_some_iff.mp hstep
      obtain ⟨hanswers, hbooks', howned'⟩ := perform_spec hbooks howned hpermit hperform
      rw [← hr]
      exact ⟨⟨_, hbooks', worker_owns_resume howned' (hk r.1 hanswers)⟩,
        (perform_frame hperform).1.trans hlimit⟩
  | restart =>
    obtain rfl := Option.some.inj hstep
    exact ⟨⟨l, hbooks, trivial⟩, hlimit⟩

/-- The books agree with the tables after every run. -/
theorem AdapterInv.of_run {ls : List AdapterStep} {a : AdapterState}
    (hrun : (adapter cfg max_events).run ls = some a) : AdapterInv max_events a :=
  Machine.invariant AdapterInv.init (fun _ _ _ h hstep => h.step hstep) hrun

/-! ## §5. Conservation and order. -/

/-- The ids still to be uploaded. -/
def pending_ids (s : TraceSpool) : List String := s.trace_spool.rows.map Row.key

/-- The ids set aside. -/
def dead_ids (s : TraceSpool) : List String := s.trace_dead_letter.rows.map Row.key

/-- Every accepted id is in one place and in one place only. -/
structure Conserves (a : AdapterState) : Prop where
  covered : ∀ event_id, event_id ∈ a.accepted.map TraceEventV2.event_id ↔
    event_id ∈ pending_ids a.spool ∨ event_id ∈ dead_ids a.spool ∨ event_id ∈ a.acknowledged
  pending_not_dead : ∀ event_id ∈ pending_ids a.spool, event_id ∉ dead_ids a.spool
  pending_not_acknowledged : ∀ event_id ∈ pending_ids a.spool, event_id ∉ a.acknowledged
  dead_not_acknowledged : ∀ event_id ∈ dead_ids a.spool, event_id ∉ a.acknowledged

/-- An accepted event is accepted again without effect; another event with its id or
its place in the trace is refused. -/
structure Deduplicates (a : AdapterState) : Prop where
  again : ∀ event ∈ a.accepted, a.spool.enqueue event = (.ok (), a.spool)
  different : ∀ known ∈ a.accepted, ∀ event, event ≠ known →
    (event.event_id = known.event_id ∨
      (event.trace_id = known.trace_id ∧ event.sequence = known.sequence)) →
    ∃ error, (a.spool.enqueue event).1 = .error error

/-- A batch is the oldest of the accepted events still pending, each trace in order. -/
structure LoadsInOrder (a : AdapterState) : Prop where
  oldest : ∀ limit, (a.spool.load_batch limit).map TraceEventV2.event_id =
    ((a.accepted.map TraceEventV2.event_id).filter
      (fun event_id => event_id ∈ pending_ids a.spool)).take limit
  ascending : ∀ limit, (a.spool.load_batch limit).Pairwise
    (fun earlier later => earlier.trace_id = later.trace_id → earlier.sequence < later.sequence)

/-- An operation that answers `Err` leaves the spool as it was. -/
structure RollsBack (s : TraceSpool) : Prop where
  enqueue : ∀ event error s', s.enqueue event = (.error error, s') → s' = s
  replace_pending : ∀ event error s', s.replace_pending event = (.error error, s') → s' = s
  acknowledge : ∀ events error s', s.acknowledge events = (.error error, s') → s' = s
  quarantine : ∀ event reason error s', s.quarantine event reason = (.error error, s') → s' = s
  quarantine_trace : ∀ trace_id reason error s',
    s.quarantine_trace trace_id reason = (.error error, s') → s' = s

theorem rolls_back (s : TraceSpool) : RollsBack s where
  enqueue _ _ _ h := transaction_error h
  replace_pending _ _ _ h := replace_pending_error h
  acknowledge _ _ _ h := transaction_error h
  quarantine _ _ _ _ h := transaction_error h
  quarantine_trace _ _ _ _ h := transaction_error h

/-- What an operation does that is not refused: an enriched event takes the place of the
pending one, acknowledged events leave, a quarantined event and the pending events of a
quarantined trace go to the dead letter with the reason. -/
structure MovesEvents (s : TraceSpool) : Prop where
  enqueue : ∀ event s', s.enqueue event = (.ok (), s') →
    (∃ row, s.trace_spool_seen.get? event.event_id = some row ∧ row.event_json = event ∧
      s' = s) ∨ Appends s event s'
  replaces : ∀ event, (s.replace_pending event).1 = .ok () ↔
    (s.trace_spool.get? event.event_id).isSome
  replaced : ∀ event key, (s.replace_pending event).2.trace_spool.get? key =
    if key = event.event_id then (s.trace_spool.get? key).map (fun _ => event)
    else s.trace_spool.get? key
  acknowledges : ∀ events, (s.acknowledge events).1 = .ok ()
  acknowledged : ∀ events key, (s.acknowledge events).2.trace_spool.get? key =
    if key ∈ events.map TraceEventV2.event_id then none else s.trace_spool.get? key
  quarantines : ∀ event reason, (s.quarantine event reason).1 = .ok ()
  quarantined : ∀ event reason key,
    (s.quarantine event reason).2.trace_spool.get? key =
        (if key = event.event_id then none else s.trace_spool.get? key) ∧
      (s.quarantine event reason).2.trace_dead_letter.get? key =
        if key = event.event_id then some ⟨event, reason⟩ else s.trace_dead_letter.get? key
  trace_quarantines : ∀ trace_id reason, (s.quarantine_trace trace_id reason).1 = .ok () ↔
    s.pending_of trace_id ≠ []
  trace_quarantined : ∀ trace_id reason key,
    (s.quarantine_trace trace_id reason).2.trace_spool.get? key =
        (s.trace_spool.get? key).filter (fun event => event.trace_id ≠ trace_id) ∧
      (s.quarantine_trace trace_id reason).2.trace_dead_letter.get? key =
        match (s.trace_spool.get? key).filter (fun event => event.trace_id = trace_id) with
        | some event => some ⟨event, reason⟩
        | none => s.trace_dead_letter.get? key

theorem moves_events (s : TraceSpool) : MovesEvents s where
  enqueue _ _ h := enqueue_eq_ok h
  replaces event := by
    rw [replace_pending_fst]
    by_cases hpending : (s.trace_spool.get? event.event_id).isSome
    · rw [if_pos hpending]
      exact iff_of_true rfl hpending
    · rw [if_neg hpending]
      exact iff_of_false (fun h => nomatch h) hpending
  replaced event key := by
    rw [replace_pending_snd]
    exact RowTable.get?_update _ _ _ _
  acknowledges _ := rfl
  acknowledged events key := acknowledge_get? events key s
  quarantines _ _ := rfl
  quarantined event reason key :=
    ⟨RowTable.get?_delete _ _ _, dead_letter_get? s reason event.event_id key event⟩
  trace_quarantines trace_id reason := quarantine_trace_fst trace_id reason s
  trace_quarantined trace_id reason key := quarantine_trace_get? trace_id reason key s

section Books

variable {a : AdapterState} {l : SpoolLedger}
  (h : Books a.spool a.accepted a.acknowledged l)

include h

theorem Books.mem_dead_ids {event_id : String} :
    event_id ∈ dead_ids a.spool ↔ event_id ∈ ids_with l .dead_lettered := by
  rw [← h.dead_ids event_id, Option.isSome_iff_exists]
  unfold dead_ids
  rw [List.mem_map]
  constructor
  · intro hmem
    obtain ⟨row, hrow, hkey⟩ := hmem
    exact ⟨row.val, RowTable.get?_eq_some_iff.mpr ⟨row, hrow, hkey, rfl⟩⟩
  · intro hsome
    obtain ⟨letter, hletter⟩ := hsome
    obtain ⟨row, hrow, hkey, _⟩ := RowTable.get?_eq_some_iff.mp hletter
    exact ⟨row, hrow, hkey⟩

theorem Books.mem_pending_ids {event_id : String} :
    event_id ∈ pending_ids a.spool ↔ event_id ∈ ids_with l .pending := by
  unfold pending_ids
  rw [h.pending_ids]

theorem Books.accepted_ids_eq : a.accepted.map TraceEventV2.event_id = accepted_ids l := by
  rw [← h.accepted_items]
  rfl

/-- The three places are the three fates of the ledger. -/
theorem Books.conserves : Conserves a where
  covered := by
    intro event_id
    rw [h.mem_pending_ids, h.mem_dead_ids, ← h.acknowledged_ids event_id, h.accepted_ids_eq,
      Ledger.mem_keys]
    constructor
    · intro hmem
      obtain ⟨fate, hfate⟩ := hmem
      cases fate with
      | pending => exact Or.inl hfate
      | dead_lettered => exact Or.inr (Or.inl hfate)
      | acknowledged => exact Or.inr (Or.inr hfate)
    · intro hmem
      rcases hmem with hmem | hmem | hmem
      · exact ⟨_, hmem⟩
      · exact ⟨_, hmem⟩
      · exact ⟨_, hmem⟩
  pending_not_dead := by
    intro event_id hpending hdead
    exact h.not_both (by decide) (h.mem_pending_ids.mp hpending) (h.mem_dead_ids.mp hdead)
  pending_not_acknowledged := by
    intro event_id hpending hacknowledged
    exact h.not_both (by decide) (h.mem_pending_ids.mp hpending)
      ((h.acknowledged_ids event_id).mpr hacknowledged)
  dead_not_acknowledged := by
    intro event_id hdead hacknowledged
    exact h.not_both (by decide) (h.mem_dead_ids.mp hdead)
      ((h.acknowledged_ids event_id).mpr hacknowledged)

theorem Books.deduplicates : Deduplicates a where
  again := by
    intro event hmem
    rw [← h.accepted_items] at hmem
    exact h.toRefines.enqueue_again hmem
  different := by
    intro known hmem event hne hsame
    rw [← h.accepted_items] at hmem
    obtain ⟨error, herror⟩ := h.toRefines.enqueue_different hmem hne hsame
    exact ⟨error, congrArg Prod.fst herror⟩

theorem Books.loads_in_order : LoadsInOrder a where
  oldest := by
    intro limit
    have hfilter : (accepted_ids l).filter (fun event_id => event_id ∈ pending_ids a.spool) =
        ids_with l .pending := by
      rw [show pending_ids a.spool = ids_with l .pending from h.pending_ids]
      exact Ledger.filter_mem_keysWith TraceEventV2.event_id h.distinct_ids .pending
    rw [h.accepted_ids_eq, hfilter]
    exact h.toRefines.load_batch_ids limit
  ascending := fun limit => h.toRefines.load_batch_ascending limit

end Books

/-- After every run of producers and worker, restarts included: every accepted event
is pending, dead-lettered or acknowledged and never two of these; duplicates are
recognised whatever became of the first; batches come in order; the limit holds; no
failed operation has left a trace, and the others do what they say. -/
theorem conserves_and_orders (cfg : WorkerConfig) (max_events : Nat) {ls : List AdapterStep}
    {a : AdapterState} (hrun : (adapter cfg max_events).run ls = some a) :
    Conserves a ∧ Deduplicates a ∧ LoadsInOrder a ∧
      a.spool.trace_spool.rows.length ≤ max_events ∧ RollsBack a.spool ∧ MovesEvents a.spool := by
  obtain ⟨⟨l, hbooks, _⟩, hlimit⟩ := AdapterInv.of_run hrun
  refine ⟨hbooks.conserves, hbooks.deduplicates, hbooks.loads_in_order, ?_, rolls_back a.spool,
    moves_events a.spool⟩
  rw [← hlimit]
  exact hbooks.capacity

end Runs

/-! ## §6. A short run. -/

/-- An event of a trace with only what the spool looks at. -/
def sample_event (event_id trace_id : String) (sequence : Nat) (kind : TraceEventKind)
    (parent_event_id : Option String) : TraceEventV2 where
  schema_version := "dns-query-trace-event-v2"
  event_id := event_id
  trace_id := trace_id
  sequence := sequence
  correlation_id := "correlation-1"
  parent_event_id := parent_event_id
  kind := kind
  observer_server_id := "resolver-a"
  target_server_id := none
  target_endpoint := none
  target_correlation_id := none
  attempt := none
  query_digest := "0x1111111111111111111111111111111111111111111111111111111111111111"
  response_digest := none
  cache_object_digest := none
  observed_at := 1750000000
  dnssec_status := .notApplicable
  ttl_expires_at := none
  source_graph_digest := none
  failure_reason := none

/-- The first event of a trace. -/
def first_query : TraceEventV2 := sample_event "event-1" "trace-1" 1 .clientQuery none

/-- The second event of that trace. -/
def first_upstream : TraceEventV2 :=
  sample_event "event-2" "trace-1" 2 .upstreamQuery (some "event-1")

/-- The first event of another trace. -/
def other_query : TraceEventV2 := sample_event "event-3" "trace-2" 1 .clientQuery none

/-- Surroundings in which the Agent answers the next upload with one status. -/
def answering (code : Nat) : Surroundings where
  channel_open := true
  wakeups := 0
  source := .ok none
  instant := 0
  system_time := .ok 1750000000
  answers := [.status code]

/-- The defaults of the worker. -/
def sample_config : WorkerConfig := ⟨256, 2000⟩

/-- The batch of the first trace is rejected, its first event again on its own, its
second one accepted, while another trace arrives. -/
def isolating_run : List AdapterStep :=
  [.enqueue first_query, .enqueue first_upstream, .start, .work (answering 200),
    .work (answering 422), .work (answering 422), .enqueue other_query, .work (answering 200),
    .work (answering 200), .work (answering 200), .enqueue first_query]

theorem isolating_run_tables :
    ((adapter sample_config 3).run isolating_run).map (fun a =>
      (pending_ids a.spool, dead_ids a.spool, a.acknowledged)) =
      some (["event-3"], ["event-1"], ["event-2"]) := by
  decide +kernel

/-- All three fates in one run. -/
theorem isolating_run_conserves :
    ∃ a, (adapter sample_config 3).run isolating_run = some a ∧
      (pending_ids a.spool, dead_ids a.spool, a.acknowledged) =
        (["event-3"], ["event-1"], ["event-2"]) ∧
      Conserves a ∧ Deduplicates a ∧ LoadsInOrder a ∧
      a.spool.trace_spool.rows.length ≤ 3 ∧ RollsBack a.spool ∧ MovesEvents a.spool := by
  obtain ⟨a, hrun, htables⟩ := Option.map_eq_some_iff.mp isolating_run_tables
  exact ⟨a, hrun, htables, conserves_and_orders sample_config 3 hrun⟩

end ResolverIdentity.Adapter
