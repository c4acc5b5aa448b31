/-
  ResolverIdentity.Adapter.Spool: the durable event spool of the trace adapter.

  `TraceSpool` of `ri-trace-adapter/src/main.rs`: the four tables of the spool
  database and the operations on them, each one transaction on the single
  connection behind the mutex.  `event_json` columns hold the event they encode.

  Main results:
    * `enqueue_eq_ok`: an accepted event is either a known one, and nothing
      changes, or a new one that `Appends` describes;
    * `enqueue_known`, `enqueue_conflict`: what a known id is answered with;
    * `acknowledge_get?`, `dead_letter_get?`, `quarantine_trace_get?`,
      `replace_pending_snd`: what the worker's operations leave under each id;
    * `replace_pending_error`: the one operation outside a transaction changes
      nothing when it fails either.
-/
import ResolverIdentity.Core.Evidence
import ResolverIdentity.Core.Integer
import ResolverIdentity.Library.RowTable

namespace ResolverIdentity.Adapter

open Library

/-! ## §1. Tables. -/

/-- The boxed errors of the adapter, by their text. -/
abbrev AnyError := String

/-- A row of `trace_spool_seen`. -/
structure SeenEvent where
  trace_id : String
  sequence : Int
  event_json : TraceEventV2

/-- A row of `trace_dead_letter`. -/
structure DeadLetter where
  event_json : TraceEventV2
  reason : String

/-- A row of `trace_spool_state`. -/
structure TraceState where
  last_sequence : Int
  terminal : Bool

/-- The tables of `trace_spool.sqlite`, and the limit the spool was opened with. -/
structure TraceSpool where
  trace_spool : RowTable String TraceEventV2
  trace_dead_letter : RowTable String DeadLetter
  trace_spool_seen : RowTable String SeenEvent
  trace_spool_state : RowTable String TraceState
  max_events : Nat

namespace TraceSpool

/-- A freshly created spool database. -/
def open_ (max_events : Nat) : TraceSpool where
  trace_spool := .empty
  trace_dead_letter := .empty
  trace_spool_seen := .empty
  trace_spool_state := .empty
  max_events := max_events

/-! ## §2. Enqueue. -/

/-- The state row of a trace, its sequence read back as a `u64`. -/
def stored_state (s : TraceSpool) (trace_id : String) : Except AnyError (Option (Nat × Bool)) :=
  match s.trace_spool_state.get? trace_id with
  | none => .ok none
  | some state => do
    let sequence ← okOr (u64_try_from state.last_sequence) "stored Trace sequence is negative"
    .ok (some (sequence, state.terminal))

/-- The number the next event of a trace must have. -/
def expected_sequence (state : Option (Nat × Bool)) : Nat :=
  match state with
  | none => 1
  | some value => u64_succ value.1

/-- The event kinds after which a trace takes no further event. -/
def terminal_kind (kind : TraceEventKind) : Bool :=
  kind = .clientResponse || kind = .resolutionFailed

/-- A parent is an earlier event of the same trace. -/
def check_parent_row (s : TraceSpool) (event : TraceEventV2) : Except AnyError Unit := do
  let parent ← okOr event.parent_event_id "Trace event parent is required"
  let row ← okOr
    ((s.trace_spool_seen.get? parent).filter (fun seen => seen.trace_id = event.trace_id))
    "Trace event parent is unknown or belongs to another trace"
  let parent_sequence ← okOr (u64_try_from row.sequence) "stored parent sequence is negative"
  rejectIf (event.sequence ≤ parent_sequence) "Trace event parent does not precede its child"

/-- Every event after the first names its parent. -/
def check_parent (s : TraceSpool) (event : TraceEventV2) : Except AnyError Unit :=
  if 1 < event.sequence then s.check_parent_row event else .ok ()

/-- `UNIQUE(trace_id, sequence)` of `trace_spool_seen`. -/
def sequence_taken (s : TraceSpool) (trace_id : String) (sequence : Int) : Bool :=
  s.trace_spool_seen.rows.any
    (fun row => row.val.trace_id = trace_id && row.val.sequence = sequence)

/-- The statements of `enqueue` for an event id the spool has not seen. -/
def enqueue_new (event : TraceEventV2) : Body TraceSpool AnyError Unit := fun s => do
  rejectIf (s.max_events ≤ s.trace_spool.rows.length) "Trace spool event limit reached"
  let state ← s.stored_state event.trace_id
  rejectIf (state.any (fun value => value.2) ||
      event.sequence != expected_sequence state ||
      (event.sequence == 1 &&
        (event.kind != .clientQuery || event.parent_event_id.isSome)))
    "Trace event is terminal, duplicated, or out of sequence"
  s.check_parent event
  let trace_spool ← okOr (s.trace_spool.insert? event.event_id event)
    "Trace spool insert did not persist exactly one event"
  let sequence ← okOr (i64_try_from event.sequence)
    "out of range integral type conversion attempted"
  rejectIf (s.sequence_taken event.trace_id sequence)
    "UNIQUE constraint failed: trace_spool_seen.trace_id, trace_spool_seen.sequence"
  let trace_spool_seen ← okOr
    (s.trace_spool_seen.insert? event.event_id ⟨event.trace_id, sequence, event⟩)
    "UNIQUE constraint failed: trace_spool_seen.event_id"
  .ok ((), { s with
    trace_spool, trace_spool_seen
    trace_spool_state := s.trace_spool_state.upsert event.trace_id
      ⟨sequence, terminal_kind event.kind⟩ })

/-- The statements of `enqueue`: a known id is answered from `trace_spool_seen`. -/
def enqueue_body (event : TraceEventV2) : Body TraceSpool AnyError Unit := fun s =>
  match s.trace_spool_seen.get? event.event_id with
  | some existing => do
    rejectIf (existing.event_json != event)
      ("trace event " ++ event.event_id ++ " conflicts with its durable spool entry")
    .ok ((), s)
  | none => enqueue_new event s

/-- `TraceSpool::enqueue`. -/
def enqueue (event : TraceEventV2) (s : TraceSpool) : Except AnyError Unit × TraceSpool :=
  transaction (enqueue_body event) s

/-! ## §3. The worker's operations. -/

/-- `SELECT event_json FROM trace_spool ORDER BY rowid LIMIT ?`. -/
def load_batch (limit : Nat) (s : TraceSpool) : List TraceEventV2 :=
  (s.trace_spool.rows.take limit).map Row.val

/-- One `UPDATE` outside a transaction: its write stays even when the check of the
row count fails. -/
def replace_pending (event : TraceEventV2) (s : TraceSpool) : Except AnyError Unit × TraceSpool :=
  let updated := (s.trace_spool.rows.filter (fun row => row.key = event.event_id)).length
  let s' := { s with trace_spool := s.trace_spool.update event.event_id (fun _ => event) }
  if updated != 1 then
    (.error "Trace event is no longer pending in the durable spool", s')
  else (.ok (), s')

/-- `DELETE FROM trace_spool WHERE event_id=?`. -/
def delete_pending (s : TraceSpool) (event_id : String) : TraceSpool :=
  { s with trace_spool := s.trace_spool.delete event_id }

/-- The pair of statements that moves one event to the dead letter. -/
def dead_letter (reason : String) (s : TraceSpool) (event_id : String) (event : TraceEventV2) :
    TraceSpool :=
  delete_pending
    { s with trace_dead_letter := s.trace_dead_letter.upsert event_id ⟨event, reason⟩ } event_id

/-- `TraceSpool::acknowledge`: the events are delivered. -/
def acknowledge (events : List TraceEventV2) (s : TraceSpool) :
    Except AnyError Unit × TraceSpool :=
  transaction (fun s => .ok ((), events.foldl (fun s event => s.delete_pending event.event_id) s)) s

/-- `TraceSpool::quarantine`: one event goes to the dead letters. -/
def quarantine (event : TraceEventV2) (reason : String) (s : TraceSpool) :
    Except AnyError Unit × TraceSpool :=
  transaction (fun s => .ok ((), s.dead_letter reason event.event_id event)) s

/-- The pending rows of one trace, in row-id order. -/
def pending_of (s : TraceSpool) (trace_id : String) : List (Row String TraceEventV2) :=
  s.trace_spool.rows.filter (fun row => row.val.trace_id = trace_id)

/-- All that is pending of a trace goes to the dead letters, and the trace is closed. -/
def quarantine_trace_body (trace_id reason : String) : Body TraceSpool AnyError Unit := fun s => do
  let pending := s.pending_of trace_id
  rejectIf pending.isEmpty "orphan Trace has no pending spool events"
  .ok ((), pending.foldl (fun s row => s.dead_letter reason row.key row.val) s)

/-- `TraceSpool::quarantine_trace`. -/
def quarantine_trace (trace_id reason : String) (s : TraceSpool) :
    Except AnyError Unit × TraceSpool :=
  transaction (quarantine_trace_body trace_id reason) s

/-! ## §4. What enqueue does. -/

/-- The state row a trace has, as enqueue reads it. -/
theorem stored_state_eq_ok {s : TraceSpool} {trace_id : String} {state : Option (Nat × Bool)}
    (h : s.stored_state trace_id = .ok state) :
    (s.trace_spool_state.get? trace_id = none ∧ state = none) ∨
      ∃ (row : TraceState) (n : Nat), s.trace_spool_state.get? trace_id = some row ∧
        row.last_sequence = (n : Int) ∧
        state = some (n, row.terminal) := by
  unfold stored_state at h
  cases hget : s.trace_spool_state.get? trace_id with
  | none =>
    rw [hget] at h
    exact Or.inl ⟨rfl, (Except.ok.inj h).symm⟩
  | some row =>
    rw [hget] at h
    obtain ⟨n, hn, h⟩ := bind_eq_ok.mp h
    rw [okOr_eq_ok, u64_try_from] at hn
    split at hn
    case isTrue hpos =>
      have hrow : row.last_sequence = (n : Int) := by
        rw [← Option.some.inj hn]
        exact (Int.toNat_of_nonneg hpos).symm
      exact Or.inr ⟨row, n, rfl, hrow, (Except.ok.inj h).symm⟩
    case isFalse => cases hn

/-- A new event was accepted: what was checked, and the four tables after it. -/
structure Appends (s : TraceSpool) (event : TraceEventV2) (s' : TraceSpool) : Prop where
  unseen : s.trace_spool_seen.get? event.event_id = none
  room : s.trace_spool.rows.length < s.max_events
  sequence : ∃ state, s.stored_state event.trace_id = .ok state ∧
    state.any (fun value => value.2) = false ∧ event.sequence = expected_sequence state
  in_range : (event.sequence : Int) ≤ I64_MAX
  pending_rows : s'.trace_spool.rows =
    s.trace_spool.rows ++ [⟨s.trace_spool.maxRowid + 1, event.event_id, event⟩]
  seen_rows : s'.trace_spool_seen.rows = s.trace_spool_seen.rows ++
    [⟨s.trace_spool_seen.maxRowid + 1, event.event_id,
      ⟨event.trace_id, event.sequence, event⟩⟩]
  states : s'.trace_spool_state = s.trace_spool_state.upsert event.trace_id
    ⟨event.sequence, terminal_kind event.kind⟩
  dead_letter : s'.trace_dead_letter = s.trace_dead_letter
  max_events : s'.max_events = s.max_events

/-- An accepted event was known, and nothing changes, or is new and appended. -/
theorem enqueue_eq_ok {event : TraceEventV2} {s s' : TraceSpool}
    (h : s.enqueue event = (.ok (), s')) :
    (∃ row, s.trace_spool_seen.get? event.event_id = some row ∧ row.event_json = event ∧ s' = s) ∨
      Appends s event s' := by
  have h := transaction_eq_ok.mp h
  unfold enqueue_body at h
  cases hseen : s.trace_spool_seen.get? event.event_id with
  | some existing =>
    rw [hseen] at h
    obtain ⟨_, hsame, h⟩ := bind_eq_ok.mp h
    rw [rejectIf_eq_ok, bne_eq_false_iff_eq] at hsame
    exact Or.inl ⟨existing, rfl, hsame, (Prod.mk.inj (Except.ok.inj h)).2.symm⟩
  | none =>
    rw [hseen] at h
    unfold enqueue_new at h
    -- one step of the transaction after the other
    obtain ⟨_, hroom, h⟩ := bind_eq_ok.mp h
    obtain ⟨state, hstate, h⟩ := bind_eq_ok.mp h
    obtain ⟨_, hcheck, h⟩ := bind_eq_ok.mp h
    obtain ⟨_, _, h⟩ := bind_eq_ok.mp h
    obtain ⟨spool, hspool, h⟩ := bind_eq_ok.mp h
    obtain ⟨sequence, hsequence, h⟩ := bind_eq_ok.mp h
    obtain ⟨_, _, h⟩ := bind_eq_ok.mp h
    obtain ⟨seen, hinsert, h⟩ := bind_eq_ok.mp h
    obtain ⟨_, rfl⟩ := Prod.mk.inj (Except.ok.inj h)
    rw [okOr_eq_ok] at hspool hsequence hinsert
    obtain ⟨rfl, hrange⟩ := i64_try_from_eq_some.mp hsequence
    simp only [rejectIf_eq_ok, decide_eq_false_iff_not, Nat.not_le] at hroom
    simp only [rejectIf_eq_ok, Bool.or_eq_false_iff, bne_eq_false_iff_eq] at hcheck
    exact Or.inr
      { unseen := hseen
        room := hroom
        sequence := ⟨state, hstate, hcheck.1.1, hcheck.1.2⟩
        in_range := hrange
        pending_rows := (RowTable.insert?_eq_some hspool).2
        seen_rows := (RowTable.insert?_eq_some hinsert).2
        states := rfl
        dead_letter := rfl
        max_events := rfl }

/-- A known event is accepted again, whatever became of it, and changes nothing. -/
theorem enqueue_known {event : TraceEventV2} {s : TraceSpool} {row : SeenEvent}
    (hseen : s.trace_spool_seen.get? event.event_id = some row) (hsame : row.event_json = event) :
    s.enqueue event = (.ok (), s) := by
  refine transaction_eq_ok.mpr ?_
  unfold enqueue_body
  rw [hseen]
  show (rejectIf (row.event_json != event) _ >>= fun _ => .ok ((), s)) = _
  rw [hsame, bne_self_eq_false]
  rfl

/-- A known id with another content is refused. -/
theorem enqueue_conflict {event : TraceEventV2} {s : TraceSpool} {row : SeenEvent}
    (hseen : s.trace_spool_seen.get? event.event_id = some row) (hne : row.event_json ≠ event) :
    ∃ e, s.enqueue event = (.error e, s) := by
  cases h : s.enqueue event with
  | mk outcome s' =>
    cases outcome with
    | error e => exact ⟨e, by rw [transaction_error h]⟩
    | ok _ =>
      rcases enqueue_eq_ok h with ⟨row', hrow', hsame, _⟩ | happend
      · rw [hseen] at hrow'
        exact absurd (Option.some.inj hrow' ▸ hsame) hne
      · rw [happend.unseen] at hseen
        cases hseen

/-! ## §5. What the worker's operations do. -/

theorem mem_delete_pending {s : TraceSpool} {event_id : String} {row : Row String TraceEventV2} :
    row ∈ (s.delete_pending event_id).trace_spool.rows ↔
      row ∈ s.trace_spool.rows ∧ row.key ≠ event_id :=
  RowTable.mem_delete

/-- The keys left in row-id order. -/
theorem delete_pending_keys (s : TraceSpool) (event_id : String) :
    (s.delete_pending event_id).trace_spool.rows.map Row.key =
      (s.trace_spool.rows.map Row.key).filter (fun key => key ≠ event_id) := by
  unfold delete_pending RowTable.delete RowTable.deleteWhere
  rw [List.filter_map]
  congr 1
  refine List.filter_congr (fun row _ => ?_)
  by_cases h : row.key = event_id
  · simp [h]
  · simp [h]

theorem mem_dead_letter {s : TraceSpool} {reason event_id : String} {event : TraceEventV2}
    {row : Row String DeadLetter}
    (h : row ∈ (s.dead_letter reason event_id event).trace_dead_letter.rows) :
    (row.key = event_id ∧ row.val = ⟨event, reason⟩) ∨ row ∈ s.trace_dead_letter.rows := by
  rcases RowTable.mem_upsert h with hnew | ⟨hold, _⟩
  · exact Or.inl hnew
  · exact Or.inr hold

/-- The dead letter holds the moved event and what it held before. -/
theorem dead_letter_get? (s : TraceSpool) (reason event_id key : String) (event : TraceEventV2) :
    (s.dead_letter reason event_id event).trace_dead_letter.get? key =
      if key = event_id then some ⟨event, reason⟩ else s.trace_dead_letter.get? key :=
  RowTable.get?_upsert _ _ _ _

section DeadLetters

variable {reason key : String} {moved : List (Row String TraceEventV2)}

/-- No moved event is pending any more. -/
theorem dead_letters_pending : ∀ {s : TraceSpool},
    (moved.foldl (fun s row => s.dead_letter reason row.key row.val) s).trace_spool.get? key =
      if key ∈ moved.map Row.key then none else s.trace_spool.get? key := by
  induction moved with
  | nil => exact fun {_} => rfl
  | cons row rest ih =>
    intro s
    have hfirst : (s.dead_letter reason row.key row.val).trace_spool.get? key =
        if key = row.key then none else s.trace_spool.get? key := RowTable.get?_delete _ _ _
    rw [List.foldl_cons, ih, hfirst, List.map_cons]
    by_cases hrest : key ∈ rest.map Row.key
    · rw [if_pos hrest, if_pos (List.mem_cons_of_mem _ hrest)]
    · rw [if_neg hrest]
      refine if_congr ?_ rfl rfl
      rw [List.mem_cons]
      exact (or_iff_left hrest).symm

theorem dead_letters_kept (hkey : key ∉ moved.map Row.key) : ∀ {s : TraceSpool},
    (moved.foldl (fun s row => s.dead_letter reason row.key row.val) s).trace_dead_letter.get? key =
      s.trace_dead_letter.get? key := by
  induction moved with
  | nil => exact fun {_} => rfl
  | cons row rest ih =>
    intro s
    rw [List.map_cons, List.mem_cons, not_or] at hkey
    rw [List.foldl_cons, ih hkey.2, dead_letter_get?, if_neg hkey.1]

/-- The dead letter holds every moved event. -/
theorem dead_letters_moved {event : TraceEventV2} (hkey : key ∈ moved.map Row.key)
    (hsame : ∀ row ∈ moved, row.key = key → row.val = event) : ∀ {s : TraceSpool},
    (moved.foldl (fun s row => s.dead_letter reason row.key row.val) s).trace_dead_letter.get? key =
      some ⟨event, reason⟩ := by
  induction moved with
  | nil => cases hkey
  | cons row rest ih =>
    intro s
    rw [List.foldl_cons]
    by_cases hrest : key ∈ rest.map Row.key
    · exact ih hrest (fun later hlater => hsame later (List.mem_cons_of_mem _ hlater))
    · have hfirst : key = row.key := (List.mem_cons.mp hkey).resolve_right hrest
      rw [dead_letters_kept hrest, dead_letter_get?, if_pos hfirst,
        hsame row List.mem_cons_self hfirst.symm]

end DeadLetters

/-- A trace without pending rows is an error, and there was nothing to move. -/
theorem quarantine_trace_snd (trace_id reason : String) (s : TraceSpool) :
    (s.quarantine_trace trace_id reason).2 =
      (s.pending_of trace_id).foldl (fun s row => s.dead_letter reason row.key row.val) s := by
  unfold quarantine_trace transaction quarantine_trace_body
  cases s.pending_of trace_id with
  | nil => rfl
  | cons row rest => rfl

theorem quarantine_trace_fst (trace_id reason : String) (s : TraceSpool) :
    (s.quarantine_trace trace_id reason).1 = .ok () ↔ s.pending_of trace_id ≠ [] := by
  unfold quarantine_trace transaction quarantine_trace_body
  cases s.pending_of trace_id with
  | nil => exact iff_of_false (fun h => nomatch h) (fun h => h rfl)
  | cons row rest => exact iff_of_true rfl (List.cons_ne_nil _ _)

theorem mem_pending_of_keys {s : TraceSpool} {trace_id key : String} :
    key ∈ (s.pending_of trace_id).map Row.key ↔
      ∃ event, s.trace_spool.get? key = some event ∧ event.trace_id = trace_id := by
  unfold pending_of
  simp only [List.mem_map, List.mem_filter, decide_eq_true_eq]
  constructor
  · intro h
    obtain ⟨row, ⟨hrow, htrace⟩, rfl⟩ := h
    exact ⟨row.val, RowTable.get?_of_mem hrow, htrace⟩
  · intro h
    obtain ⟨event, hget, htrace⟩ := h
    obtain ⟨row, hrow, hkey, rfl⟩ := RowTable.get?_eq_some_iff.mp hget
    exact ⟨row, ⟨hrow, htrace⟩, hkey⟩

/-- The pending events of the trace, and no others, are moved under the reason. -/
theorem quarantine_trace_get? (trace_id reason key : String) (s : TraceSpool) :
    (s.quarantine_trace trace_id reason).2.trace_spool.get? key =
        (s.trace_spool.get? key).filter (fun event => event.trace_id ≠ trace_id) ∧
      (s.quarantine_trace trace_id reason).2.trace_dead_letter.get? key =
        match (s.trace_spool.get? key).filter (fun event => event.trace_id = trace_id) with
        | some event => some ⟨event, reason⟩
        | none => s.trace_dead_letter.get? key := by
  rw [quarantine_trace_snd, dead_letters_pending]
  by_cases hkey : key ∈ (s.pending_of trace_id).map Row.key
  · obtain ⟨event, hget, htrace⟩ := mem_pending_of_keys.mp hkey
    rw [if_pos hkey, hget]
    simp only [Option.filter_some, htrace, ne_eq, not_true_eq_false, decide_false, decide_true,
      if_true, Bool.false_eq_true, if_false, true_and]
    refine dead_letters_moved hkey ?_
    intro row hrow hsame
    have hstored := RowTable.get?_of_mem (List.mem_filter.mp hrow).1
    rw [hsame, hget] at hstored
    exact (Option.some.inj hstored).symm
  · rw [if_neg hkey, dead_letters_kept hkey]
    cases hget : s.trace_spool.get? key with
    | none => exact ⟨rfl, rfl⟩
    | some event =>
      have htrace : event.trace_id ≠ trace_id :=
        fun htrace => hkey (mem_pending_of_keys.mpr ⟨event, hget, htrace⟩)
      simp [Option.filter_some, htrace]

/-- Acknowledged events are not pending any more. -/
theorem acknowledge_get? (events : List TraceEventV2) (key : String) (s : TraceSpool) :
    (s.acknowledge events).2.trace_spool.get? key =
      if key ∈ events.map TraceEventV2.event_id then none else s.trace_spool.get? key := by
  show (events.foldl (fun s event => s.delete_pending event.event_id) s).trace_spool.get? key = _
  induction events generalizing s with
  | nil => rfl
  | cons event rest ih =>
    have hfirst : (s.delete_pending event.event_id).trace_spool.get? key =
        if key = event.event_id then none else s.trace_spool.get? key :=
      RowTable.get?_delete _ _ _
    rw [List.foldl_cons, ih, hfirst, List.map_cons]
    by_cases hrest : key ∈ rest.map TraceEventV2.event_id
    · rw [if_pos hrest, if_pos (List.mem_cons_of_mem _ hrest)]
    · rw [if_neg hrest]
      refine if_congr ?_ rfl rfl
      rw [List.mem_cons]
      exact (or_iff_left hrest).symm

/-- Whatever the row count, the `UPDATE` has been carried out. -/
theorem replace_pending_snd (event : TraceEventV2) (s : TraceSpool) :
    (s.replace_pending event).2 =
      { s with trace_spool := s.trace_spool.update event.event_id (fun _ => event) } := by
  unfold replace_pending
  dsimp only
  split <;> rfl

theorem replace_pending_fst (event : TraceEventV2) (s : TraceSpool) :
    (s.replace_pending event).1 =
      if (s.trace_spool.get? event.event_id).isSome then .ok ()
      else .error "Trace event is no longer pending in the durable spool" := by
  unfold replace_pending
  dsimp only
  rw [RowTable.length_filter_key]
  by_cases h : (s.trace_spool.get? event.event_id).isSome
  · simp [h]
  · simp [h]

/-- An update that fails reached no row, so it has changed nothing. -/
theorem replace_pending_error {event : TraceEventV2} {s s' : TraceSpool} {e : AnyError}
    (h : s.replace_pending event = (.error e, s')) : s' = s := by
  have hfst := replace_pending_fst event s
  have hsnd := replace_pending_snd event s
  rw [h] at hfst hsnd
  by_cases hget : (s.trace_spool.get? event.event_id).isSome
  · rw [if_pos hget] at hfst
    cases hfst
  · rw [Option.not_isSome_iff_eq_none] at hget
    show s' = s
    rw [show s' = _ from hsnd, RowTable.update_of_get?_eq_none hget]

/-- The keys of the pending rows do not move under an update. -/
theorem replace_pending_keys (event : TraceEventV2) (s : TraceSpool) :
    (s.replace_pending event).2.trace_spool.rows.map Row.key =
      s.trace_spool.rows.map Row.key := by
  rw [replace_pending_snd]
  show (s.trace_spool.rows.map _).map Row.key = _
  rw [List.map_map]
  rfl

end TraceSpool

end ResolverIdentity.Adapter
