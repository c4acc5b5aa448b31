/-
  ResolverIdentity.Adapter.Worker: the upload worker as a client of the spool.

  `upload_worker`, `prepare_upload_batch`, `process_batch` and `upload_batch` of
  `ri-trace-adapter/src/main.rs` as programs: between two operations the producer
  may enqueue, the evidence store may change and the process may die.  One
  iteration of the worker's loop is one program; what survives to the next one
  is the map of provenance deadlines.

  `handProtocol` is what the spool sees of an iteration: the events in the
  worker's hands are those of its last `load_batch` that it has not yet settled,
  and it acknowledges, quarantines and enriches nothing else.

  Main result:
    * `upload_iteration_follows`: every iteration follows `handProtocol`.
-/
import ResolverIdentity.Adapter.Spool
import ResolverIdentity.Library.Program

namespace ResolverIdentity.Adapter

open Library

/-! ## §1. Uploads. -/

/-- What one POST came back with. -/
inductive HttpAnswer where
  | status (code : Nat)
  | failed (error : String)
  deriving DecidableEq

/-- How the Agent answered a batch. -/
inductive UploadDisposition where
  | uploaded
  | payloadRejected (status : Nat)
  deriving DecidableEq

/-- The end of the retry loop after one answer; `none` is another attempt. -/
def upload_attempt : HttpAnswer → Option (Except AnyError UploadDisposition)
  | .status code =>
    if 200 ≤ code ∧ code < 300 then some (.ok .uploaded)
    else if code = 400 ∨ code = 409 ∨ code = 413 ∨ code = 422 then
      some (.ok (.payloadRejected code))
    else if ¬ ((500 ≤ code ∧ code < 600) ∨ code = 408 ∨ code = 425 ∨ code = 429) then
      some (.error ("Agent trace endpoint returned non-retryable status " ++ toString code))
    else none
  | .failed _ => none

/-- `upload_batch`: attempts until an answer ends the loop; `none` while every answer
so far asked for a retry. -/
def upload_batch : List HttpAnswer → Option (Except AnyError UploadDisposition)
  | [] => none
  | answer :: later =>
    match upload_attempt answer with
    | some disposition => some disposition
    | none => upload_batch later

/-! ## §2. Operations. -/

/-- What the worker asks of the spool, the Agent, the channel and the clocks. -/
inductive WorkerOp where
  | recv
  | notifications
  | load_batch (limit : Nat)
  | find_latest_cache_source_graph (query_digest cache_object_digest : String)
  | instant_now
  | system_time
  | replace_pending (event : TraceEventV2)
  | upload (batch : List TraceEventV2)
  | acknowledge (events : List TraceEventV2)
  | quarantine (event : TraceEventV2) (reason : String)
  | quarantine_trace (trace_id reason : String)

/-- `recv` answers whether the channel is open, `notifications` how many wake-ups
arrive before the flush deadline, the clocks milliseconds and seconds. -/
abbrev WorkerRes : WorkerOp → Type
  | .recv => Bool
  | .notifications => Nat
  | .load_batch _ => List TraceEventV2
  | .find_latest_cache_source_graph _ _ => Except AnyError (Option (QueryEvidenceGraphV2 × String))
  | .instant_now => Nat
  | .system_time => Except AnyError Int
  | .replace_pending _ => Except AnyError Unit
  | .upload _ => Except AnyError UploadDisposition
  | .acknowledge _ => Except AnyError Unit
  | .quarantine _ _ => Except AnyError Unit
  | .quarantine_trace _ _ => Except AnyError Unit

/-- A worker program; `anyhow` errors are texts. -/
abbrev WorkerProg (α : Type) := Prog WorkerOp WorkerRes AnyError α

/-- Wait for a notification; `false` when the channel is closed. -/
def recv : WorkerProg Bool := .op .recv .ret

/-- How many notifications `try_recv` finds. -/
def notifications : WorkerProg Nat := .op .notifications .ret

/-- The oldest pending events. -/
def load_batch_async (limit : Nat) : WorkerProg (List TraceEventV2) := .op (.load_batch limit) .ret

/-- The newest source graph of a cached object. -/
def find_source (query_digest cache_object_digest : String) :
    WorkerProg (Option (QueryEvidenceGraphV2 × String)) :=
  .op (.find_latest_cache_source_graph query_digest cache_object_digest) Prog.ofExcept

/-- The monotonic clock, in milliseconds. -/
def instant_now : WorkerProg Nat := .op .instant_now .ret

/-- The wall clock, in seconds. -/
def system_time : WorkerProg Int := .op .system_time Prog.ofExcept

/-- Store an event with its provenance filled in. -/
def replace_pending_async (event : TraceEventV2) : WorkerProg Unit :=
  .op (.replace_pending event) Prog.ofExcept

/-- `upload_batch(...).await?`. -/
def upload_async (batch : List TraceEventV2) : WorkerProg UploadDisposition :=
  .op (.upload batch) Prog.ofExcept

/-- Take delivered events out of the spool. -/
def acknowledge_async (events : List TraceEventV2) : WorkerProg Unit :=
  .op (.acknowledge events) Prog.ofExcept

/-- Put one refused event aside. -/
def quarantine_async (event : TraceEventV2) (status : Nat) : WorkerProg Unit :=
  .op (.quarantine event ("Agent rejected payload with HTTP " ++ toString status)) Prog.ofExcept

/-- Put a whole trace aside. -/
def quarantine_trace_async (trace_id reason : String) : WorkerProg Unit :=
  .op (.quarantine_trace trace_id reason) Prog.ofExcept

/-- The two settings of the upload loop. -/
structure WorkerConfig where
  batch_size : Nat
  cache_provenance_wait : Nat

/-- `provenance_wait_started`: when each event's wait began. -/
abbrev Waits := List (String × Nat)

/-- What preparing a batch comes to. -/
inductive BatchPreparation where
  | ready (batch : List TraceEventV2)
  | waiting
  | quarantine (trace_id reason : String)

/-! ## §3. Preparation. -/

/-- A cache hit whose source graph is not known yet. -/
def needs_provenance (event : TraceEventV2) : Bool :=
  event.kind = .cacheHit && event.source_graph_digest.isNone

/-- `entry(event_id).or_insert_with(Instant::now)`. -/
def wait_started (event_id : String) (waits : Waits) : WorkerProg (Nat × Waits) :=
  match waits.lookup event_id with
  | some started => .ret (started, waits)
  | none => do
    let started ← instant_now
    .ret (started, (event_id, started) :: waits)

/-- `remove(&event_id)`. -/
def remove_wait (event_id : String) (waits : Waits) : Waits :=
  waits.filter (fun wait => wait.1 ≠ event_id)

/-- No source graph yet: wait for it, up to the deadline. -/
def await_source (cfg : WorkerConfig) (event : TraceEventV2) (waits : Waits) :
    WorkerProg (BatchPreparation × Waits) := do
  let (started, waits) ← wait_started event.event_id waits
  let now ← instant_now
  if cfg.cache_provenance_wait ≤ now - started then
    .ret (.quarantine event.trace_id
      "cache provenance source graph was not created before deadline",
      remove_wait event.event_id waits)
  else .ret (.waiting, waits)

/-- A source graph was found: its digest goes into the event. -/
def enrich (event : TraceEventV2) (source_graph : QueryEvidenceGraphV2) (source_digest : String)
    (waits : Waits) : WorkerProg (BatchPreparation × Waits) := do
  let now ← system_time
  Prog.rejectIf (source_graph.expires_at < now) "cache-hit source graph is expired"
  let enriched := { event with source_graph_digest := some source_digest }
  replace_pending_async enriched
  .ret (.ready [enriched], remove_wait event.event_id waits)

/-- The cache hit at the head of the batch. -/
def prepare_cache_hit (cfg : WorkerConfig) (event : TraceEventV2) (waits : Waits) :
    WorkerProg (BatchPreparation × Waits) := do
  let cache_object_digest ← Prog.okOr event.cache_object_digest
    "cache-hit event has no normalized cache object digest"
  let source ← find_source event.query_digest cache_object_digest
  match source with
  | none => await_source cfg event waits
  | some (source_graph, source_digest) => enrich event source_graph source_digest waits

/-- The events before the first cache hit without provenance are uploaded as they
are; only at the head of the batch is such a cache hit looked up. -/
def prepare_upload_batch (cfg : WorkerConfig) (batch : List TraceEventV2) (waits : Waits) :
    WorkerProg (BatchPreparation × Waits) :=
  match batch with
  | [] => .ret (.ready [], waits)
  | event :: _ =>
    if needs_provenance event then prepare_cache_hit cfg event waits
    else .ret (.ready (batch.takeWhile (fun event => !needs_provenance event)), waits)

theorem prepare_upload_batch_cons (cfg : WorkerConfig) (event : TraceEventV2)
    (rest : List TraceEventV2) (waits : Waits) :
    prepare_upload_batch cfg (event :: rest) waits =
      if needs_provenance event then prepare_cache_hit cfg event waits
      else .ret (.ready ((event :: rest).takeWhile (fun event => !needs_provenance event)),
        waits) :=
  rfl

/-! ## §4. Upload and settlement. -/

/-- What becomes of one uploaded event. -/
def settle (event : TraceEventV2) : UploadDisposition → WorkerProg Unit
  | .uploaded => acknowledge_async [event]
  | .payloadRejected status => quarantine_async event status

/-- A rejected batch is uploaded again event by event. -/
def isolate : List TraceEventV2 → WorkerProg Unit
  | [] => .ret ()
  | event :: rest => do
    let disposition ← upload_async [event]
    settle event disposition
    isolate rest

/-- The end of `process_batch`, by the answer to the whole batch. -/
def settle_batch (batch : List TraceEventV2) : UploadDisposition → WorkerProg Unit
  | .uploaded => acknowledge_async batch
  | .payloadRejected status =>
    match batch with
    | [event] => quarantine_async event status
    | _ => isolate batch

/-- Upload a batch and settle it by the answer. -/
def process_batch (batch : List TraceEventV2) : WorkerProg Unit := do
  let disposition ← upload_async batch
  settle_batch batch disposition

/-! ## §5. One iteration of the worker. -/

/-- Reload after each wake-up, until the batch is full or the deadline is reached. -/
def reload (cfg : WorkerConfig) : Nat → List TraceEventV2 → WorkerProg (List TraceEventV2)
  | 0, batch => .ret batch
  | n + 1, batch =>
    if batch.length < cfg.batch_size then do
      let batch ← load_batch_async cfg.batch_size
      reload cfg n batch
    else .ret batch

/-- An empty spool: wait for a first event, then for the flush deadline. -/
def await_batch (cfg : WorkerConfig) : WorkerProg (List TraceEventV2) := do
  let channel_open ← recv
  Prog.rejectIf (!channel_open) "trace event channel closed"
  let wakeups ← notifications
  let batch ← reload cfg wakeups []
  if batch.isEmpty then load_batch_async cfg.batch_size else .ret batch

/-- The batch an iteration works on. -/
def next_batch (cfg : WorkerConfig) : WorkerProg (List TraceEventV2) := do
  let batch ← load_batch_async cfg.batch_size
  if batch.isEmpty then await_batch cfg else .ret batch

/-- What is done with a prepared batch. -/
def finish (waits : Waits) : BatchPreparation → WorkerProg Waits
  | .ready batch => do
    process_batch batch
    .ret waits
  | .waiting => .ret waits
  | .quarantine trace_id reason => do
    quarantine_trace_async trace_id reason
    .ret waits

/-- One turn of the loop of `upload_worker`. -/
def upload_iteration (cfg : WorkerConfig) (waits : Waits) : WorkerProg Waits := do
  let batch ← next_batch cfg
  let (preparation, waits) ← prepare_upload_batch cfg batch waits
  finish waits preparation

/-! ## §6. The worker's hands. -/

/-- The same event up to the source graph the adapter fills in. -/
def Enriches (event enriched : TraceEventV2) : Prop :=
  enriched = { event with source_graph_digest := enriched.source_graph_digest }

theorem Enriches.refl (event : TraceEventV2) : Enriches event event := rfl

/-- What the worker may do with the spool: settle or enrich an event it holds. -/
def HandPermits (hand : List TraceEventV2) : WorkerOp → Prop
  | .replace_pending enriched => ∃ event ∈ hand, Enriches event enriched
  | .acknowledge events => ∀ event ∈ events, event ∈ hand
  | .quarantine event _ => event ∈ hand
  | .quarantine_trace trace_id _ => ∃ event ∈ hand, event.trace_id = trace_id
  | _ => True

/-- The events with the given ids leave the worker's hands. -/
def drop_ids (ids : List String) (hand : List TraceEventV2) : List TraceEventV2 :=
  hand.filter (fun event => event.event_id ∉ ids)

/-- The worker's hands after an operation. -/
def hand_next (hand : List TraceEventV2) : (o : WorkerOp) → WorkerRes o → List TraceEventV2
  | .load_batch _, batch => batch
  | .replace_pending enriched, _ =>
    hand.map (fun event => if event.event_id = enriched.event_id then enriched else event)
  | .acknowledge events, _ => drop_ids (events.map TraceEventV2.event_id) hand
  | .quarantine event _, _ => drop_ids [event.event_id] hand
  | .quarantine_trace trace_id _, _ => hand.filter (fun event => event.trace_id ≠ trace_id)
  | _, _ => hand

/-- A batch the spool loads lists no event id twice. -/
def HandAnswers : (o : WorkerOp) → WorkerRes o → Prop
  | .load_batch _, batch => (batch.map TraceEventV2.event_id).Nodup
  | _, _ => True

/-- The protocol of the batch in hand. -/
def handProtocol : Protocol WorkerOp WorkerRes (List TraceEventV2) where
  permits := HandPermits
  answers := fun _ => HandAnswers
  next := hand_next

/-- Any postcondition does: what matters is what the worker does on the way. -/
abbrev FollowsHand {α : Type} (p : WorkerProg α) (Q : α → List TraceEventV2 → Prop)
    (hand : List TraceEventV2) : Prop :=
  p.Follows handProtocol Q (fun _ _ => True) hand

/-- A batch in the worker's hands, each event once. -/
def Holds (batch hand : List TraceEventV2) : Prop :=
  (∀ event ∈ batch, event ∈ hand) ∧ (batch.map TraceEventV2.event_id).Nodup

theorem mem_drop_ids {ids : List String} {hand : List TraceEventV2} {event : TraceEventV2} :
    event ∈ drop_ids ids hand ↔ event ∈ hand ∧ event.event_id ∉ ids := by
  simp [drop_ids, List.mem_filter]

/-- The rest of a batch is still held once its first event is settled. -/
theorem Holds.rest {event : TraceEventV2} {rest hand : List TraceEventV2}
    (h : Holds (event :: rest) hand) : Holds rest (drop_ids [event.event_id] hand) := by
  obtain ⟨hmem, hnodup⟩ := h
  rw [List.map_cons, List.nodup_cons] at hnodup
  refine ⟨fun other hother => mem_drop_ids.mpr ⟨hmem other (List.mem_cons_of_mem _ hother), ?_⟩,
    hnodup.2⟩
  intro hid
  have heq : other.event_id = event.event_id := List.mem_singleton.mp hid
  exact hnodup.1 (heq ▸ List.mem_map_of_mem hother)

/-! ## §7. Every iteration follows the protocol. -/

/-- The two ways one held event leaves the worker's hands. -/
theorem settle_follows {event : TraceEventV2} (disposition : UploadDisposition)
    {hand : List TraceEventV2} (h : event ∈ hand) :
    FollowsHand (settle event disposition)
      (fun _ hand' => hand' = drop_ids [event.event_id] hand) hand := by
  cases disposition with
  | uploaded =>
    refine ⟨?_, fun r _ => ?_⟩
    · intro other hother
      rw [List.mem_singleton.mp hother]
      exact h
    · rw [Prog.follows_ofExcept]
      exact ⟨fun _ _ => rfl, fun _ _ => trivial⟩
  | payloadRejected status =>
    refine ⟨h, fun r _ => ?_⟩
    rw [Prog.follows_ofExcept]
    exact ⟨fun _ _ => rfl, fun _ _ => trivial⟩

/-- The isolation loop: each event is still held when its turn comes. -/
theorem isolate_follows {batch : List TraceEventV2} :
    ∀ {hand : List TraceEventV2}, Holds batch hand →
      FollowsHand (isolate batch) (fun _ _ => True) hand := by
  induction batch with
  | nil => intro hand _; exact trivial
  | cons event rest ih =>
    intro hand hholds
    unfold isolate
    rw [FollowsHand, Prog.follows_bind]
    refine ⟨trivial, fun r _ => ?_⟩
    rw [Prog.follows_ofExcept]
    refine ⟨fun disposition _ => ?_, fun _ _ => trivial⟩
    rw [Prog.follows_bind]
    refine (settle_follows disposition (hholds.1 event List.mem_cons_self)).mono ?_ (fun _ _ _ => trivial)
    intro _ hand' hhand'
    rw [hhand']
    exact ih hholds.rest

theorem settle_batch_follows {batch hand : List TraceEventV2} (h : Holds batch hand)
    (disposition : UploadDisposition) :
    FollowsHand (settle_batch batch disposition) (fun _ _ => True) hand := by
  cases disposition with
  | uploaded =>
    refine ⟨h.1, fun r _ => ?_⟩
    rw [Prog.follows_ofExcept]
    exact ⟨fun _ _ => trivial, fun _ _ => trivial⟩
  | payloadRejected status =>
    match batch with
    | [] => exact isolate_follows h
    | [event] =>
      exact (settle_follows (.payloadRejected status)
        (h.1 event List.mem_cons_self)).mono (fun _ _ _ => trivial) (fun _ _ _ => trivial)
    | _ :: _ :: _ => exact isolate_follows h

theorem process_batch_follows {batch hand : List TraceEventV2} (h : Holds batch hand) :
    FollowsHand (process_batch batch) (fun _ _ => True) hand := by
  unfold process_batch
  rw [FollowsHand, Prog.follows_bind]
  refine ⟨trivial, fun r _ => ?_⟩
  rw [Prog.follows_ofExcept]
  exact ⟨fun disposition _ => settle_batch_follows h disposition, fun _ _ => trivial⟩

/-- What a preparation promises about the worker's hands. -/
def Prepared : BatchPreparation → List TraceEventV2 → Prop
  | .ready batch, hand => Holds batch hand
  | .waiting, _ => True
  | .quarantine trace_id _, hand => ∃ event ∈ hand, event.trace_id = trace_id

theorem await_source_follows (cfg : WorkerConfig) {event : TraceEventV2} (waits : Waits)
    {hand : List TraceEventV2} (h : event ∈ hand) :
    FollowsHand (await_source cfg event waits) (fun r hand' => Prepared r.1 hand') hand := by
  unfold await_source
  rw [FollowsHand, Prog.follows_bind]
  -- the deadline map only costs a clock reading
  have hstarted : FollowsHand (wait_started event.event_id waits) (fun _ hand' => hand' = hand)
      hand := by
    unfold wait_started
    cases waits.lookup event.event_id with
    | some started => exact rfl
    | none => exact ⟨trivial, fun _ _ => rfl⟩
  refine hstarted.mono ?_ (fun _ _ _ => trivial)
  intro started hand' hhand'
  rw [hhand']
  refine ⟨trivial, fun now _ => ?_⟩
  show (if _ then _ else _ : WorkerProg (BatchPreparation × Waits)).Follows _ _ _ _
  split
  · exact ⟨event, h, rfl⟩
  · exact trivial

theorem enrich_follows {event : TraceEventV2} (source_graph : QueryEvidenceGraphV2)
    (source_digest : String) (waits : Waits) {hand : List TraceEventV2} (h : event ∈ hand) :
    FollowsHand (enrich event source_graph source_digest waits)
      (fun r hand' => Prepared r.1 hand') hand := by
  unfold enrich
  rw [FollowsHand, Prog.follows_bind]
  refine ⟨trivial, fun r _ => ?_⟩
  rw [Prog.follows_ofExcept]
  refine ⟨fun now _ => ?_, fun _ _ => trivial⟩
  rw [Prog.follows_bind, Prog.follows_rejectIf]
  refine ⟨fun _ => ?_, fun _ => trivial⟩
  rw [Prog.follows_bind]
  refine ⟨⟨event, h, rfl⟩, fun r _ => ?_⟩
  rw [Prog.follows_ofExcept]
  refine ⟨fun _ _ => ⟨fun other hother => ?_, List.nodup_singleton _⟩, fun _ _ => trivial⟩
  rw [List.mem_singleton.mp hother]
  exact List.mem_map.mpr ⟨event, h, if_pos rfl⟩

theorem prepare_upload_batch_follows (cfg : WorkerConfig) (waits : Waits)
    {batch hand : List TraceEventV2} (h : Holds batch hand) :
    FollowsHand (prepare_upload_batch cfg batch waits) (fun r hand' => Prepared r.1 hand')
      hand := by
  cases batch with
  | nil => exact h
  | cons event rest =>
    rw [prepare_upload_batch_cons]
    by_cases hneeds : needs_provenance event = true
    · -- the head waits for its source graph
      rw [if_pos hneeds]
      have hhead : event ∈ hand := h.1 event List.mem_cons_self
      unfold prepare_cache_hit
      rw [FollowsHand, Prog.follows_bind, Prog.follows_okOr]
      refine ⟨fun cache_object_digest _ => ?_, fun _ => trivial⟩
      rw [Prog.follows_bind]
      refine ⟨trivial, fun r _ => ?_⟩
      rw [Prog.follows_ofExcept]
      refine ⟨fun source _ => ?_, fun _ _ => trivial⟩
      cases source with
      | none => exact await_source_follows cfg waits hhead
      | some found => exact enrich_follows found.1 found.2 waits hhead
    · -- a prefix of what is held
      rw [if_neg hneeds]
      refine ⟨fun other hother => h.1 other (List.takeWhile_subset _ hother), ?_⟩
      exact h.2.sublist ((List.takeWhile_sublist _).map _)

theorem reload_follows (cfg : WorkerConfig) {n : Nat} :
    ∀ {batch hand : List TraceEventV2}, batch = hand ∧ Holds batch hand →
      FollowsHand (reload cfg n batch) (fun b hand' => b = hand' ∧ Holds b hand') hand := by
  induction n with
  | zero => intro batch hand h; exact h
  | succ n ih =>
    intro batch hand h
    unfold reload
    by_cases hlen : batch.length < cfg.batch_size
    · rw [if_pos hlen]
      refine ⟨trivial, fun loaded hloaded => ?_⟩
      exact ih ⟨rfl, fun _ hmem => hmem, hloaded⟩
    · rw [if_neg hlen]
      exact h

theorem next_batch_follows (cfg : WorkerConfig) (hand : List TraceEventV2) :
    FollowsHand (next_batch cfg) (fun b hand' => Holds b hand') hand := by
  unfold next_batch
  refine ⟨trivial, fun loaded hloaded => ?_⟩
  show (if loaded.isEmpty then await_batch cfg else .ret loaded).Follows _ _ _ loaded
  by_cases hempty : loaded.isEmpty = true
  · rw [if_pos hempty, List.isEmpty_iff.mp hempty]
    refine ⟨trivial, fun channel_open _ => ?_⟩
    show (Prog.rejectIf (!channel_open) _ >>= fun _ => _ : WorkerProg _).Follows _ _ _ _
    rw [Prog.follows_bind, Prog.follows_rejectIf]
    refine ⟨fun _ => ⟨trivial, fun wakeups _ => ?_⟩, fun _ => trivial⟩
    show (reload cfg wakeups [] >>= fun _ => _ : WorkerProg _).Follows _ _ _ _
    rw [Prog.follows_bind]
    have hnil : ([] : List TraceEventV2) = [] ∧ Holds [] [] :=
      ⟨rfl, fun _ hmem => hmem, List.nodup_nil⟩
    refine (reload_follows cfg hnil).mono ?_ (fun _ _ _ => trivial)
    intro batch hand' hbatch
    show (if batch.isEmpty then _ else _ : WorkerProg _).Follows _ _ _ _
    split
    · exact ⟨trivial, fun again hagain => ⟨fun _ hmem => hmem, hagain⟩⟩
    · exact hbatch.2
  · rw [if_neg hempty]
    exact ⟨fun _ hmem => hmem, hloaded⟩

/-- One turn of the worker's loop only settles and enriches events in its hands. -/
theorem upload_iteration_follows (cfg : WorkerConfig) (waits : Waits)
    (hand : List TraceEventV2) :
    FollowsHand (upload_iteration cfg waits) (fun _ _ => True) hand := by
  unfold upload_iteration
  rw [FollowsHand, Prog.follows_bind]
  refine (next_batch_follows cfg hand).mono ?_ (fun _ _ _ => trivial)
  intro batch hand' hbatch
  rw [Prog.follows_bind]
  refine (prepare_upload_batch_follows cfg waits hbatch).mono ?_ (fun _ _ _ => trivial)
  intro prepared hand'' hprepared
  obtain ⟨preparation, waits'⟩ := prepared
  cases preparation with
  | ready batch' =>
    show (process_batch batch' >>= fun _ => _ : WorkerProg _).Follows _ _ _ _
    rw [Prog.follows_bind]
    exact (process_batch_follows hprepared).mono (fun _ _ _ => trivial) (fun _ _ _ => trivial)
  | waiting => exact trivial
  | quarantine trace_id reason =>
    refine ⟨hprepared, fun r _ => ?_⟩
    show (Prog.ofExcept r >>= fun _ => _ : WorkerProg _).Follows _ _ _ _
    rw [Prog.follows_bind, Prog.follows_ofExcept]
    exact ⟨fun _ _ => trivial, fun _ _ => trivial⟩

end ResolverIdentity.Adapter
