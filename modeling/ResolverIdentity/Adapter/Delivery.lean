/-
  ResolverIdentity.Adapter.Delivery: what the dead letter leaves deliverable.

  The Agent takes the events of a trace without gaps from sequence 1, so a
  pending event can only be delivered while no earlier event of its trace has
  been set aside.  Quarantining a whole trace keeps this; quarantining the one
  event a status names keeps it only when that event is the last of its trace,
  and an event accepted after an earlier one was set aside never has it.

  Main results:
    * `deliverable_iff`: the property on the ledger;
    * `step_deliverable`: exactly the steps that meet `Settles` keep it;
    * `always_deliverable_iff`: the same for whole runs.
-/
import ResolverIdentity.Adapter.System

namespace ResolverIdentity.Adapter

open Library TraceSpool

/-! ## §1. The property and the condition. -/

/-- No pending event has an earlier event of its trace in the dead letter. -/
def Deliverable (s : TraceSpool) : Prop :=
  ∀ row ∈ s.trace_spool.rows, ∀ letter ∈ s.trace_dead_letter.rows,
    letter.val.event_json.trace_id = row.val.trace_id →
      ¬ letter.val.event_json.sequence < row.val.sequence

instance (s : TraceSpool) : Decidable (Deliverable s) := by
  unfold Deliverable
  infer_instance

/-- An event accepted for the first time belongs to a trace without dead letters;
an event quarantined on its own is the last pending one of its trace. -/
def Settles (a : AdapterState) : AdapterStep → Prop
  | .enqueue event =>
    event ∉ a.accepted → (a.spool.enqueue event).1 = .ok () →
      ∀ letter ∈ a.spool.trace_dead_letter.rows,
        letter.val.event_json.trace_id ≠ event.trace_id
  | .work _ =>
    match a.worker with
    | .running (.quarantine event _) _ =>
      ∀ row ∈ a.spool.trace_spool.rows,
        row.val.trace_id = event.trace_id → row.val.sequence ≤ event.sequence
    | _ => True
  | _ => True

/-! ## §2. The property on the ledger. -/

/-- No pending item has an earlier item of its trace set aside. -/
def LedgerDeliverable (l : SpoolLedger) : Prop :=
  ∀ p ∈ Ledger.items l, p.event_id ∈ ids_with l .pending →
    ∀ d ∈ Ledger.items l, d.event_id ∈ ids_with l .dead_lettered →
      d.trace_id = p.trace_id → ¬ d.sequence < p.sequence

section Ledger

variable {s : TraceSpool} {l : SpoolLedger} (h : Refines s l)

include h

/-- The accepted event behind a dead letter. -/
theorem Refines.of_mem_dead {letter : Row String DeadLetter}
    (hmem : letter ∈ s.trace_dead_letter.rows) :
    ∃ d ∈ Ledger.items l, d.event_id ∈ ids_with l .dead_lettered ∧
      d.event_id = letter.key ∧ Enriches d letter.val.event_json := by
  obtain ⟨d, hd, hid, henrich⟩ := h.dead letter hmem
  refine ⟨d, hd, (h.dead_ids d.event_id).mp ?_, hid, henrich⟩
  rw [hid, RowTable.get?_of_mem hmem]
  rfl

/-- The dead letter of an accepted event. -/
theorem Refines.mem_dead {d : TraceEventV2} (hd : d ∈ Ledger.items l)
    (hdead : d.event_id ∈ ids_with l .dead_lettered) :
    ∃ letter ∈ s.trace_dead_letter.rows, Enriches d letter.val.event_json := by
  obtain ⟨letter, hletter⟩ := Option.isSome_iff_exists.mp ((h.dead_ids d.event_id).mpr hdead)
  obtain ⟨row, hrow, hkey, _⟩ := RowTable.get?_eq_some_iff.mp hletter
  obtain ⟨d', hd', hid, henrich⟩ := h.dead row hrow
  rw [h.eq_of_id hd' hd (hid.trans hkey)] at henrich
  exact ⟨row, hrow, henrich⟩

/-- The accepted event behind a pending row. -/
theorem Refines.of_mem_pending {row : Row String TraceEventV2}
    (hmem : row ∈ s.trace_spool.rows) :
    ∃ p ∈ Ledger.items l, p.event_id ∈ ids_with l .pending ∧
      p.event_id = row.key ∧ Enriches p row.val := by
  obtain ⟨p, hp, hid, henrich⟩ := h.pending row hmem
  exact ⟨p, hp, h.pending_iff.mpr ⟨row, hmem, hid.symm⟩, hid, henrich⟩

/-- The pending row of an accepted event. -/
theorem Refines.mem_pending {p : TraceEventV2} (hp : p ∈ Ledger.items l)
    (hpending : p.event_id ∈ ids_with l .pending) :
    ∃ row ∈ s.trace_spool.rows, row.key = p.event_id ∧ Enriches p row.val := by
  obtain ⟨row, hrow, hkey⟩ := h.pending_iff.mp hpending
  obtain ⟨p', hp', hid, henrich⟩ := h.pending row hrow
  rw [h.eq_of_id hp' hp (hid.trans hkey)] at henrich
  exact ⟨row, hrow, hkey, henrich⟩

/-- Enrichment touches neither trace nor sequence, so the tables and the ledger agree. -/
theorem Refines.deliverable_iff : Deliverable s ↔ LedgerDeliverable l := by
  constructor
  · intro hall p hp hpending d hd hdead htrace
    obtain ⟨row, hrow, _, hrow'⟩ := h.mem_pending hp hpending
    obtain ⟨letter, hletter, hletter'⟩ := h.mem_dead hd hdead
    have hnot := hall row hrow letter hletter
    rw [hrow'.trace_id, hrow'.sequence, hletter'.trace_id, hletter'.sequence] at hnot
    exact hnot htrace
  · intro hall row hrow letter hletter
    obtain ⟨p, hp, hpending, _, hrow'⟩ := h.of_mem_pending hrow
    obtain ⟨d, hd, hdead, _, hletter'⟩ := h.of_mem_dead hletter
    rw [hrow'.trace_id, hrow'.sequence, hletter'.trace_id, hletter'.sequence]
    exact hall p hp hpending d hd hdead

end Ledger

/-! ## §3. One step. -/

section Step

variable {s : TraceSpool} {l : SpoolLedger}

/-- Acknowledging takes events out of the way. -/
theorem LedgerDeliverable.acknowledge (hd : LedgerDeliverable l) (ids : List String) :
    LedgerDeliverable (settle_ids .acknowledged l ids) := by
  intro p hp hpending d hd' hdead
  rw [items_settle_ids] at hp hd'
  rw [ids_with_settle_ids_of_ne (by decide)] at hpending hdead
  exact hd p hp (List.mem_filter.mp hpending).1 d hd' (List.mem_filter.mp hdead).1

/-- A whole trace goes at once: nothing of it stays pending. -/
theorem LedgerDeliverable.quarantine_trace (h : Refines s l) (hd : LedgerDeliverable l)
    (trace_id : String) :
    LedgerDeliverable (settle_ids .dead_lettered l (trace_ids s trace_id)) := by
  have haccepted : ∀ event_id ∈ trace_ids s trace_id, event_id ∈ accepted_ids l := by
    intro event_id hid
    obtain ⟨row, hrow, rfl⟩ := List.mem_map.mp hid
    obtain ⟨p, hp, _, hkey, _⟩ := h.of_mem_pending (List.mem_filter.mp hrow).1
    exact List.mem_map.mpr ⟨p, hp, hkey⟩
  -- the moved ids are the pending ones of this trace
  have hmoved : ∀ p ∈ Ledger.items l, p.event_id ∈ ids_with l .pending →
      (p.event_id ∈ trace_ids s trace_id ↔ p.trace_id = trace_id) := by
    intro p hp hpending
    obtain ⟨row, hrow, hkey, henrich⟩ := h.mem_pending hp hpending
    rw [← henrich.trace_id, ← hkey]
    constructor
    · intro hid
      obtain ⟨row', hrow', hkey'⟩ := List.mem_map.mp hid
      obtain ⟨hrow', htrace⟩ := List.mem_filter.mp hrow'
      rw [← RowTable.row_ext_of_key hrow' hrow hkey']
      exact of_decide_eq_true htrace
    · intro htrace
      exact List.mem_map_of_mem (List.mem_filter.mpr ⟨hrow, decide_eq_true htrace⟩)
  intro p hp hpending d hd' hdead htrace
  rw [items_settle_ids] at hp hd'
  rw [ids_with_settle_ids_of_ne (by decide), List.mem_filter] at hpending
  rw [mem_ids_with_settle_ids _ haccepted] at hdead
  have hkept : p.trace_id ≠ trace_id := by
    intro heq
    exact of_decide_eq_true hpending.2 ((hmoved p hp hpending.1).mpr heq)
  rcases hdead with hdead | hdead
  · exact hd p hp hpending.1 d hd' hdead htrace
  · exfalso
    obtain ⟨row, hrow, hkey⟩ := List.mem_map.mp hdead
    have hpending' : d.event_id ∈ ids_with l .pending :=
      h.pending_iff.mpr ⟨row, (List.mem_filter.mp hrow).1, hkey⟩
    exact hkept (htrace.symm.trans ((hmoved d hd' hpending').mp hdead))

/-- One event set aside: what stays pending of its trace must lie before it. -/
theorem LedgerDeliverable.quarantine_iff (h : Refines s l) (hd : LedgerDeliverable l)
    {event e : TraceEventV2} (he : e ∈ Ledger.items l) (henrich : Enriches e event) :
    LedgerDeliverable (settle_ids .dead_lettered l [event.event_id]) ↔
      ∀ row ∈ s.trace_spool.rows,
        row.val.trace_id = event.trace_id → row.val.sequence ≤ event.sequence := by
  have haccepted : ∀ event_id ∈ [event.event_id], event_id ∈ accepted_ids l := by
    intro event_id hid
    rw [List.mem_singleton.mp hid, henrich.event_id]
    exact List.mem_map_of_mem he
  have hpending_iff : ∀ p : TraceEventV2,
      p.event_id ∈ ids_with (settle_ids .dead_lettered l [event.event_id]) .pending ↔
        p.event_id ∈ ids_with l .pending ∧ p.event_id ≠ event.event_id := by
    intro p
    rw [ids_with_settle_ids_of_ne (by decide), List.mem_filter]
    simp
  rw [henrich.trace_id, henrich.sequence]
  constructor
  · intro hafter row hrow htrace
    obtain ⟨p, hp, hpending, _, hrow'⟩ := h.of_mem_pending hrow
    rw [hrow'.trace_id] at htrace
    rw [hrow'.sequence]
    by_cases hid : p.event_id = event.event_id
    · rw [h.eq_of_id hp he (hid.trans henrich.event_id)]
    · refine Nat.le_of_not_lt (hafter p ?_ ((hpending_iff p).mpr ⟨hpending, hid⟩) e ?_ ?_
        htrace.symm)
      · rwa [items_settle_ids]
      · rwa [items_settle_ids]
      · exact (mem_ids_with_settle_ids _ haccepted _).mpr
          (Or.inr (List.mem_singleton.mpr henrich.event_id.symm))
  · intro hlast p hp hpending d hd' hdead htrace
    rw [items_settle_ids] at hp hd'
    obtain ⟨hpending, hid⟩ := (hpending_iff p).mp hpending
    rw [mem_ids_with_settle_ids _ haccepted] at hdead
    rcases hdead with hdead | hdead
    · exact hd p hp hpending d hd' hdead htrace
    · have heq : d = e :=
        h.eq_of_id hd' he ((List.mem_singleton.mp hdead).trans henrich.event_id)
      obtain ⟨row, hrow, _, hrow'⟩ := h.mem_pending hp hpending
      have hle := hlast row hrow
      rw [hrow'.trace_id, hrow'.sequence] at hle
      rw [heq] at htrace ⊢
      exact Nat.not_lt_of_le (hle htrace.symm)

/-- A new event lies past every dead letter of its trace, so there must be none. -/
theorem Deliverable.appends_iff {s' : TraceSpool} (h : Refines s l) (hd : Deliverable s)
    {event : TraceEventV2} (happ : Appends s event s') :
    Deliverable s' ↔ ∀ letter ∈ s.trace_dead_letter.rows,
      letter.val.event_json.trace_id ≠ event.trace_id := by
  unfold Deliverable
  rw [happ.pending_rows, happ.dead_letter]
  constructor
  · intro hafter letter hletter htrace
    obtain ⟨d, hd', _, _, henrich⟩ := h.of_mem_dead hletter
    have hlt := h.past_accepted happ d hd' (henrich.trace_id.symm.trans htrace)
    rw [← henrich.sequence] at hlt
    exact hafter _ (List.mem_append_right _ (List.mem_singleton.mpr rfl)) letter hletter htrace hlt
  · intro hnone row hrow letter hletter htrace
    rcases List.mem_append.mp hrow with hold | hnew
    · exact hd row hold letter hletter htrace
    · rw [List.mem_singleton.mp hnew] at htrace
      exact absurd htrace (hnone letter hletter)

end Step

section Runs

variable {cfg : WorkerConfig} {max_events : Nat}

/-- An enqueue keeps the property exactly when it meets the condition. -/
theorem enqueue_deliverable {a : AdapterState} (hinv : AdapterInv max_events a)
    (hd : Deliverable a.spool) (event : TraceEventV2) :
    Deliverable (a.spool.enqueue event).2 ↔ Settles a (.enqueue event) := by
  obtain ⟨⟨l, hbooks, _⟩, _⟩ := hinv
  show Deliverable _ ↔ (event ∉ a.accepted → (a.spool.enqueue event).1 = .ok () →
    ∀ letter ∈ a.spool.trace_dead_letter.rows,
      letter.val.event_json.trace_id ≠ event.trace_id)
  cases hrun : a.spool.enqueue event with
  | mk outcome s' =>
    cases outcome with
    | error e =>
      rw [transaction_error hrun]
      exact ⟨fun _ _ hok => (nomatch hok), fun _ => hd⟩
    | ok _ =>
      rcases enqueue_eq_ok hrun with ⟨row, hseen, hsame, rfl⟩ | happ
      · -- known, so it is in the log
        obtain ⟨e, he, _, hrow⟩ := hbooks.mem_of_seen hseen
        rw [← hrow, hsame, hbooks.accepted_items] at he
        exact ⟨fun _ hnew => absurd he hnew, fun _ => hd⟩
      · have hnew : event ∉ a.accepted := by
          intro hmem
          rw [← hbooks.accepted_items] at hmem
          have hseen := hbooks.seen_of_mem hmem
          rw [happ.unseen] at hseen
          cases hseen
        rw [Deliverable.appends_iff hbooks.toRefines hd happ]
        exact ⟨fun hnone _ _ => hnone, fun hall => hall hnew rfl⟩

/-- An operation of the worker keeps the property exactly when it meets the condition. -/
theorem work_deliverable {a a' : AdapterState} (hinv : AdapterInv max_events a)
    (hd : Deliverable a.spool) {env : Surroundings} {o : WorkerOp}
    {k : WorkerRes o → WorkerProg Waits} (hworker : a.worker = .running o k)
    (hstep : a.work env o k = some a') :
    Deliverable a'.spool ↔ Settles a (.work env) := by
  obtain ⟨⟨l, hbooks, howns⟩, _⟩ := hinv
  rw [hworker] at howns
  obtain ⟨hand, howned, hpermit, _⟩ := howns
  obtain ⟨r, hperform, hr⟩ := Option.map_eq_some_iff.mp hstep
  obtain ⟨_, hbooks', _⟩ := perform_spec hbooks howned hpermit hperform
  have hspool : a'.spool = r.2 := by rw [← hr]
  have hledger := hbooks.toRefines.deliverable_iff.mp hd
  rw [hspool, hbooks'.toRefines.deliverable_iff]
  unfold Settles
  rw [hworker]
  cases o with
  | acknowledge events => exact ⟨fun _ => trivial, fun _ => hledger.acknowledge _⟩
  | quarantine event reason =>
    obtain ⟨_, e, he, henrich⟩ := howned event hpermit
    exact hledger.quarantine_iff hbooks.toRefines he henrich
  | quarantine_trace trace_id reason =>
    exact ⟨fun _ => trivial, fun _ => hledger.quarantine_trace hbooks.toRefines trace_id⟩
  | _ => exact ⟨fun _ => trivial, fun _ => hledger⟩

/-- A step from a deliverable spool leaves it deliverable exactly when it `Settles`. -/
theorem step_deliverable {a a' : AdapterState} {step : AdapterStep}
    (hinv : AdapterInv max_events a) (hd : Deliverable a.spool)
    (hstep : (adapter cfg max_events).step a step = some a') :
    Deliverable a'.spool ↔ Settles a step := by
  cases step with
  | enqueue event =>
    obtain rfl := Option.some.inj hstep
    exact enqueue_deliverable hinv hd event
  | start =>
    unfold adapter AdapterState.step at hstep
    cases hworker : a.worker with
    | idle waits =>
      simp only [hworker] at hstep
      obtain rfl := Option.some.inj hstep
      exact ⟨fun _ => trivial, fun _ => hd⟩
    | running o k => simp only [hworker] at hstep; cases hstep
    | stopped error => simp only [hworker] at hstep; cases hstep
  | work env =>
    unfold adapter AdapterState.step at hstep
    cases hworker : a.worker with
    | idle waits => simp only [hworker] at hstep; cases hstep
    | stopped error => simp only [hworker] at hstep; cases hstep
    | running o k =>
      simp only [hworker] at hstep
      exact work_deliverable hinv hd hworker hstep
  | restart =>
    obtain rfl := Option.some.inj hstep
    exact ⟨fun _ => trivial, fun _ => hd⟩

/-- A label the system cannot take is no quarantine. -/
theorem settles_of_disabled {a : AdapterState} {step : AdapterStep}
    (hstep : (adapter cfg max_events).step a step = none) : Settles a step := by
  cases step with
  | enqueue event => cases hstep
  | start => exact trivial
  | restart => exact trivial
  | work env =>
    unfold adapter AdapterState.step at hstep
    unfold Settles
    cases hworker : a.worker with
    | idle waits => exact trivial
    | stopped error => exact trivial
    | running o k =>
      simp only [hworker] at hstep
      cases o with
      | quarantine event reason => cases hstep
      | _ => exact trivial

/-! ## §4. Whole runs. -/

/-- In every run: the spool is deliverable all along exactly when every step settles. -/
theorem always_deliverable_iff (cfg : WorkerConfig) (max_events : Nat) (ls : List AdapterStep) :
    (adapter cfg max_events).Always (fun a => Deliverable a.spool) ls ↔
      (adapter cfg max_events).Along Settles ls := by
  refine Machine.always_iff_along (I := AdapterInv max_events) AdapterInv.init
    (fun _ _ _ h _ hstep => h.step hstep) ?_ (fun _ _ => settles_of_disabled)
    (fun _ _ _ hinv hd hstep => step_deliverable hinv hd hstep) ls
  intro row hrow
  cases hrow

theorem isolating_run_not_deliverable :
    ((adapter sample_config 3).run (isolating_run.take 8)).map (fun a =>
      decide (Deliverable a.spool)) = some false := by
  decide +kernel

/-- A rejected batch of two events of one trace, its first event rejected again on its
own: the second stays pending behind a dead letter. -/
theorem isolated_event_blocks :
    ¬ ∀ ls, (adapter sample_config 3).Always (fun a => Deliverable a.spool) ls := by
  intro hall
  obtain ⟨a, hrun, hnot⟩ := Option.map_eq_some_iff.mp isolating_run_not_deliverable
  exact of_decide_eq_false hnot (hall (isolating_run.take 8) _ [] a (List.append_nil _).symm hrun)

end Runs

end ResolverIdentity.Adapter
