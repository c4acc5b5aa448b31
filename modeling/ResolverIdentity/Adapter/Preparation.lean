/-
  ResolverIdentity.Adapter.Preparation: which head event ends the worker.

  `prepare_upload_batch` run against a spool, an evidence store and the clocks.
  It can always be carried out, and it ends in an error, which leaves
  `upload_worker`, for three kinds of head event: a cache hit without a cache
  object digest, one whose source cannot be looked up, and one whose source was
  found but has expired.

  Main results:
    * `prepare_total`: a preparation always comes to an end;
    * `prepare_upload_batch_iff`: it succeeds exactly when the head is `Preparable`.
-/
import ResolverIdentity.Adapter.System
import ResolverIdentity.Store.Graphs

namespace ResolverIdentity.Adapter

open Library TraceSpool Store

/-! ## §1. Preparing against a store. -/

/-- What a preparation sees; `instants` are the readings of the monotonic clock. -/
structure Preparing where
  spool : TraceSpool
  store : EvidenceStore
  system_time : Except AnyError Int
  instants : Nat → Nat

/-- The operations a preparation issues. -/
def serve (w : Preparing) : (o : WorkerOp) → Option (WorkerRes o × Preparing)
  | .find_latest_cache_source_graph query_digest cache_object_digest =>
    some ((w.store.find_latest_cache_source_graph query_digest cache_object_digest).mapError
      StoreError.text, w)
  | .instant_now => some (w.instants 0, { w with instants := fun n => w.instants (n + 1) })
  | .system_time => some (w.system_time, w)
  | .replace_pending event =>
    some ((w.spool.replace_pending event).1, { w with spool := (w.spool.replace_pending event).2 })
  | _ => none

/-- Preparing a batch: how it ended and what it left. -/
def prepare (cfg : WorkerConfig) (batch : List TraceEventV2) (waits : Waits) (w : Preparing) :
    Option (Except AnyError (BatchPreparation × Waits) × Preparing) :=
  (prepare_upload_batch cfg batch waits).runWith serve w

/-- A batch to upload, a wait or a quarantine. -/
def Succeeds (r : Option (Except AnyError (BatchPreparation × Waits) × Preparing)) : Prop :=
  ∃ preparation w, r = some (.ok preparation, w)

/-- An error for `upload_worker`. -/
def Fails (r : Option (Except AnyError (BatchPreparation × Waits) × Preparing)) : Prop :=
  ∃ error w, r = some (.error error, w)

theorem not_both {r : Option (Except AnyError (BatchPreparation × Waits) × Preparing)}
    (hs : Succeeds r) : ¬ Fails r := by
  intro hf
  obtain ⟨_, _, hs⟩ := hs
  obtain ⟨_, _, hf⟩ := hf
  rw [hs] at hf
  cases hf

/-! ## §2. The head of the batch. -/

/-- No provenance is needed, or it can be asked for and, once found, is in date. -/
def Preparable (w : Preparing) (event : TraceEventV2) : Prop :=
  needs_provenance event = true → ∃ cache_object_digest source,
    event.cache_object_digest = some cache_object_digest ∧
    w.store.find_latest_cache_source_graph event.query_digest cache_object_digest = .ok source ∧
    ∀ found, source = some found → ∃ now, w.system_time = .ok now ∧ ¬ found.1.expires_at < now

section Head

variable {cfg : WorkerConfig} {event : TraceEventV2} {waits : Waits} {w : Preparing}

/-- Waiting for a source never fails. -/
theorem await_source_succeeds :
    Succeeds ((await_source cfg event waits).runWith serve w) := by
  have hdecide : ∀ (r : Nat × Waits) (w' : Preparing),
      Succeeds (((do
        let now ← instant_now
        if cfg.cache_provenance_wait ≤ now - r.1 then
          .ret (.quarantine event.trace_id
            "cache provenance source graph was not created before deadline",
            remove_wait event.event_id r.2)
        else .ret (.waiting, r.2)) : WorkerProg (BatchPreparation × Waits)).runWith serve w') := by
    intro r w'
    show Succeeds ((if cfg.cache_provenance_wait ≤ w'.instants 0 - r.1 then _ else _ :
      WorkerProg (BatchPreparation × Waits)).runWith serve _)
    split
    · exact ⟨_, _, rfl⟩
    · exact ⟨_, _, rfl⟩
  unfold await_source wait_started
  cases waits.lookup event.event_id with
  | some started => exact hdecide (started, waits) w
  | none =>
    exact hdecide (w.instants 0, (event.event_id, w.instants 0) :: waits)
      { w with instants := fun n => w.instants (n + 1) }

/-- A source in date goes into the event, which is still pending. -/
theorem enrich_succeeds {source_graph : QueryEvidenceGraphV2} {source_digest : String} {now : Int}
    (hpending : (w.spool.trace_spool.get? event.event_id).isSome) (hclock : w.system_time = .ok now)
    (hlive : ¬ source_graph.expires_at < now) :
    Succeeds ((enrich event source_graph source_digest waits).runWith serve w) := by
  have hreplace : (w.spool.replace_pending
      { event with source_graph_digest := some source_digest }).1 = .ok () := by
    rw [replace_pending_fst]
    exact if_pos hpending
  unfold enrich
  rw [Prog.runWith_bind]
  show Succeeds (Option.bind ((Prog.ofExcept w.system_time).runWith serve w) _)
  rw [hclock]
  show Succeeds ((Prog.rejectIf (decide (source_graph.expires_at < now)) _ >>= fun _ => _ :
    WorkerProg _).runWith serve w)
  rw [decide_eq_false hlive, Prog.runWith_bind]
  show Succeeds ((replace_pending_async { event with source_graph_digest := some source_digest }
    >>= fun _ => _ : WorkerProg _).runWith serve w)
  rw [Prog.runWith_bind]
  show Succeeds (Option.bind ((Prog.ofExcept (w.spool.replace_pending
    { event with source_graph_digest := some source_digest }).1).runWith serve _) _)
  rw [hreplace]
  exact ⟨_, _, rfl⟩

/-- A clock that cannot be read or a source past its date is an error. -/
theorem enrich_fails {source_graph : QueryEvidenceGraphV2} {source_digest : String}
    (hstale : ∀ now, w.system_time = .ok now → source_graph.expires_at < now) :
    Fails ((enrich event source_graph source_digest waits).runWith serve w) := by
  unfold enrich
  rw [Prog.runWith_bind]
  show Fails (Option.bind ((Prog.ofExcept w.system_time).runWith serve w) _)
  cases hclock : w.system_time with
  | error e => exact ⟨_, _, rfl⟩
  | ok now =>
    show Fails ((Prog.rejectIf (decide (source_graph.expires_at < now)) _ >>= fun _ => _ :
      WorkerProg _).runWith serve w)
    rw [decide_eq_true (hstale now hclock)]
    exact ⟨_, _, rfl⟩

/-- The lookup of a cache hit at the head. -/
theorem prepare_cache_hit_run {cache_object_digest : String}
    (hdigest : event.cache_object_digest = some cache_object_digest) :
    (prepare_cache_hit cfg event waits).runWith serve w =
      match w.store.find_latest_cache_source_graph event.query_digest cache_object_digest with
      | .error e => some (.error e.text, w)
      | .ok none => (await_source cfg event waits).runWith serve w
      | .ok (some found) => (enrich event found.1 found.2 waits).runWith serve w := by
  unfold prepare_cache_hit
  rw [hdigest]
  show (find_source event.query_digest cache_object_digest >>= fun _ => _ :
    WorkerProg _).runWith serve w = _
  rw [Prog.runWith_bind]
  show Option.bind ((Prog.ofExcept ((w.store.find_latest_cache_source_graph event.query_digest
    cache_object_digest).mapError StoreError.text)).runWith serve w) _ = _
  cases w.store.find_latest_cache_source_graph event.query_digest cache_object_digest with
  | error e => rfl
  | ok source =>
    cases source with
    | none => rfl
    | some found => rfl

/-- A preparable head succeeds while it is pending. -/
theorem prepare_succeeds {rest : List TraceEventV2}
    (hpending : (w.spool.trace_spool.get? event.event_id).isSome) (h : Preparable w event) :
    Succeeds (prepare cfg (event :: rest) waits w) := by
  unfold prepare
  rw [prepare_upload_batch_cons]
  by_cases hneeds : needs_provenance event = true
  · rw [if_pos hneeds]
    obtain ⟨cache_object_digest, source, hdigest, hsource, hlive⟩ := h hneeds
    rw [prepare_cache_hit_run hdigest, hsource]
    cases source with
    | none => exact await_source_succeeds
    | some found =>
      obtain ⟨now, hclock, hlive⟩ := hlive found rfl
      exact enrich_succeeds hpending hclock hlive
  · rw [if_neg hneeds]
    exact ⟨_, _, rfl⟩

/-- Any other head is an error. -/
theorem prepare_fails {rest : List TraceEventV2} (h : ¬ Preparable w event) :
    Fails (prepare cfg (event :: rest) waits w) := by
  have hneeds : needs_provenance event = true := by
    by_contra hneeds
    exact h (fun hneeds' => absurd hneeds' hneeds)
  unfold prepare
  rw [prepare_upload_batch_cons, if_pos hneeds]
  cases hdigest : event.cache_object_digest with
  | none =>
    unfold prepare_cache_hit
    rw [hdigest]
    exact ⟨_, _, rfl⟩
  | some cache_object_digest =>
    rw [prepare_cache_hit_run hdigest]
    cases hsource : w.store.find_latest_cache_source_graph event.query_digest
      cache_object_digest with
    | error e => exact ⟨_, _, rfl⟩
    | ok source =>
      cases source with
      | none =>
        exact absurd (fun _ => ⟨_, _, hdigest, hsource, fun found hfound => nomatch hfound⟩) h
      | some found =>
        refine enrich_fails ?_
        intro now hclock
        by_contra hlive
        refine h (fun _ => ⟨_, _, hdigest, hsource, fun found' hfound => ?_⟩)
        rw [← Option.some.inj hfound]
        exact ⟨now, hclock, hlive⟩

end Head

/-! ## §3. The head of a reachable spool. -/

/-- A preparation always ends, with a preparation or with an error. -/
theorem prepare_total {cfg : WorkerConfig} {waits : Waits} {w : Preparing}
    {batch : List TraceEventV2}
    (hpending : ∀ event ∈ batch, (w.spool.trace_spool.get? event.event_id).isSome) :
    Succeeds (prepare cfg batch waits w) ∨ Fails (prepare cfg batch waits w) := by
  cases batch with
  | nil => exact Or.inl ⟨_, _, rfl⟩
  | cons event rest =>
    by_cases h : Preparable w event
    · exact Or.inl (prepare_succeeds (hpending event List.mem_cons_self) h)
    · exact Or.inr (prepare_fails h)

/-- For every spool a run of producers and worker can lead to, every evidence store
and every clock: the head batch is prepared without an error exactly when its first
event is `Preparable`. -/
theorem prepare_upload_batch_iff (cfg : WorkerConfig) (max_events limit : Nat)
    {ls : List AdapterStep} {a : AdapterState} (hrun : (adapter cfg max_events).run ls = some a)
    (waits : Waits) (w : Preparing) (hspool : w.spool = a.spool) :
    Succeeds (prepare cfg (a.spool.load_batch limit) waits w) ↔
      ∀ event, (a.spool.load_batch limit).head? = some event → Preparable w event := by
  obtain ⟨⟨l, hbooks, _⟩, _⟩ := AdapterInv.of_run hrun
  have hpending : ∀ event ∈ a.spool.load_batch limit,
      (w.spool.trace_spool.get? event.event_id).isSome := by
    intro event hmem
    obtain ⟨hid, _⟩ := hbooks.toRefines.of_mem_load_batch hmem
    obtain ⟨row, hrow, hkey⟩ := hbooks.toRefines.pending_iff.mp hid
    rw [hspool, ← hkey, RowTable.get?_of_mem hrow]
    rfl
  cases hbatch : a.spool.load_batch limit with
  | nil => exact ⟨fun _ event hevent => (nomatch hevent), fun _ => ⟨_, _, rfl⟩⟩
  | cons event rest =>
    rw [hbatch] at hpending
    constructor
    · intro hsucceeds head hhead
      rw [← Option.some.inj hhead]
      by_contra hnot
      exact not_both hsucceeds (prepare_fails hnot)
    · intro hall
      exact prepare_succeeds (hpending event List.mem_cons_self) (hall event rfl)

/-! ## §4. A source past its date. -/

/-- The object the cached answer of the trace below is about. -/
def cached_object : String :=
  "0x6666666666666666666666666666666666666666666666666666666666666666"

/-- A cache hit whose source graph is past its time. -/
def expired_hit : TraceEventV2 :=
  { sample_event "event-5" "trace-3" 2 .cacheHit (some "event-4") with
    cache_object_digest := some cached_object }

/-- A query answered from the cache; the query itself is already delivered. -/
def cache_hit_run : List AdapterStep :=
  [.enqueue (sample_event "event-4" "trace-3" 1 .clientQuery none), .enqueue expired_hit,
    .start, .work (answering 200), .work (answering 200), .work (answering 200)]

/-- The response the cached object came with. -/
def source_response : TraceEventV2 :=
  { sample_event "event-0" "trace-0" 3 .clientResponse (some "event-00") with
    cache_object_digest := some cached_object }

/-- The graph of that response, past its date and not yet purged. -/
def expired_graph : QueryEvidenceGraphV2 where
  schema_version := QUERY_EVIDENCE_GRAPH_V2
  trace_id := "trace-0"
  correlation_id := "correlation-0"
  challenge := "0123456789abcdef0123456789abcdef"
  query_digest := expired_hit.query_digest
  response_digest := "0x2222222222222222222222222222222222222222222222222222222222222222"
  mode := .publicHybrid
  entry_server_id := "resolver-a"
  issued_at := 1749999900
  expires_at := 1749999930
  dnssec_status := .notApplicable
  cache_provenance := none
  terminal_cache_graphs := []
  nodes := []
  edges := []
  terminal_node_ids := []
  final_result := true
  graph_errors := []
  key_id := "agent-key-1"
  signature := none

/-- The store with this graph, its response event and the claim that joins them. -/
def expired_store : EvidenceStore :=
  { EvidenceStore.open_ with
    ri_v2_trace_events := RowTable.empty.upsert "event-0" source_response
    ri_v2_trace_event_claims := RowTable.empty.upsert "event-0" "trace-0"
    ri_v2_evidence_graphs := RowTable.empty.upsert "trace-0"
      ⟨expired_graph.query_digest, expired_graph.response_digest, expired_graph,
        "0x7777777777777777777777777777777777777777777777777777777777777777",
        expired_graph.expires_at, 0⟩ }

/-- Seventy seconds after the graph expired. -/
def after_expiry (spool : TraceSpool) : Preparing := ⟨spool, expired_store, .ok 1750000000, id⟩

theorem cache_hit_run_fails :
    ((adapter sample_config 8).run cache_hit_run).map (fun a =>
      (prepare sample_config (a.spool.load_batch 256) [] (after_expiry a.spool)).map (fun r =>
        r.1.toOption.isSome)) = some (some false) := by
  decide +kernel

/-- The condition at this spool and store. -/
theorem expired_hit_iff :
    ∃ a, (adapter sample_config 8).run cache_hit_run = some a ∧
      (Succeeds (prepare sample_config (a.spool.load_batch 256) [] (after_expiry a.spool)) ↔
        ∀ event, (a.spool.load_batch 256).head? = some event →
          Preparable (after_expiry a.spool) event) := by
  obtain ⟨a, hrun, _⟩ := Option.map_eq_some_iff.mp cache_hit_run_fails
  exact ⟨a, hrun, prepare_upload_batch_iff sample_config 8 256 hrun [] (after_expiry a.spool) rfl⟩

/-- A cache hit whose source graph is retained but expired is an error, not a quarantine. -/
theorem expired_source_fails :
    ¬ ∀ (cfg : WorkerConfig) (max_events limit : Nat) (ls : List AdapterStep) (a : AdapterState)
      (waits : Waits) (w : Preparing), (adapter cfg max_events).run ls = some a →
      w.spool = a.spool → Succeeds (prepare cfg (a.spool.load_batch limit) waits w) := by
  intro hall
  obtain ⟨a, hrun, hfails⟩ := Option.map_eq_some_iff.mp cache_hit_run_fails
  obtain ⟨preparation, w, hok⟩ :=
    hall sample_config 8 256 cache_hit_run a [] (after_expiry a.spool) hrun rfl
  rw [hok] at hfails
  cases hfails

end ResolverIdentity.Adapter
