/-
  ResolverIdentity.Agent.Generations: graphs of the current cache generation.

  A Registry change raises the cache generation and drops every graph, so a graph
  of the current generation should rest on records that are still current.  A build
  reads its records one by one, and `put_graph` reads the generation at the very
  end: a change in between is not noticed, and the graph goes in under the
  generation of the change.

  Main results:
    * `up_to_date_step`: a step keeps the stored graphs up to date exactly when it
      does not put a graph on superseded records;
    * `up_to_date_iff`: the same for whole runs.
-/
import ResolverIdentity.Agent.System

namespace ResolverIdentity.Agent

open Library Store

/-! ## §1. The law and the condition. -/

/-- The records the build behind this trace's graph had read are the store's. -/
def BuiltOnCurrent (a : AgentState) (trace_id : String) : Prop :=
  ∀ record ∈ a.built_on trace_id, a.store.Current record.1 record.2

/-- Some lookup of source graphs answers with this graph. -/
def Served (s : EvidenceStore) (graph : QueryEvidenceGraphV2) : Prop :=
  (∃ plan query_digest response_digest digest,
      s.find_source_graph_by_digest plan query_digest response_digest digest =
        .ok (some graph)) ∨
    (∃ query_digest cache_object_digest digest,
      s.find_latest_cache_source_graph query_digest cache_object_digest =
        .ok (some (graph, digest))) ∨
    ∃ plan query_digest cache_object_digest digest,
      s.find_cache_source_graph_by_digest plan query_digest cache_object_digest digest =
        .ok (some graph)

/-- Graphs of the current generation rest on current records, and so does every
answer of a lookup. -/
structure UpToDate (a : AgentState) : Prop where
  rows : ∀ row ∈ a.store.ri_v2_evidence_graphs.rows,
    row.val.snapshot_generation = a.store.cache_generation → BuiltOnCurrent a row.key
  answers : ∀ graph, Served a.store graph → BuiltOnCurrent a graph.trace_id

/-- No graph goes in at the current generation whose build read a record that has been
superseded since. -/
def NothingSuperseded (a : AgentState) : AgentStep → Prop
  | .work i env => ∀ task graph generation_sql, a.tasks[i]? = some task →
      task.next.bind (AgentOp.puts env) = some (graph, generation_sql) →
      generation_sql = a.store.cache_generation →
      ∀ record ∈ task.seen.records, a.store.Current record.1 record.2
  | _ => True

/-! ## §2. Invariants. -/

/-- A row stands under its graph's trace, at a generation the store has had. -/
structure RowPlaced (s : EvidenceStore) (row : Row String GraphRow) : Prop where
  key : row.key = row.val.graph_json.trace_id
  past : row.val.snapshot_generation ≤ s.cache_generation
  small : row.val.snapshot_generation ≤ I64_MAX

/-- The invariant: where stored graphs belong, and what running tasks have seen. -/
structure GenerationInv (a : AgentState) : Prop where
  rows : ∀ row ∈ a.store.ri_v2_evidence_graphs.rows, RowPlaced a.store row
  tasks : ∀ task ∈ a.tasks, task.Follows
  seen : ∀ task ∈ a.tasks, ∀ generation_sql, task.seen.generation = some generation_sql →
    generation_sql ≤ a.store.cache_generation ∧ generation_sql ≤ I64_MAX

section Steps

variable {P : Platform} {config : AgentConfig} {issuer_keys : IssuerKeyRegistry}
variable {a a' : AgentState} {i : Nat} {env : Surroundings} {task : Task} {op : AgentOp}
variable {k : AgentRes op → AgentProg Unit}

theorem RowPlaced.later {s s' : EvidenceStore} {row : Row String GraphRow} (h : RowPlaced s row)
    (hle : s.cache_generation ≤ s'.cache_generation) : RowPlaced s' row :=
  ⟨h.key, le_trans h.past (Int.ofNat_le.mpr hle), h.small⟩

/-- What a lookup answers with stands in a row of the current generation. -/
theorem row_of_served {s : EvidenceStore} {graph : QueryEvidenceGraphV2} (h : Served s graph) :
    ∃ row ∈ s.ri_v2_evidence_graphs.rows,
      row.val.snapshot_generation = s.cache_generation ∧ row.val.graph_json.reread = .ok graph := by
  rcases h with ⟨plan, query, response, digest, h⟩ | ⟨query, object, digest, h⟩ |
    ⟨plan, query, object, digest, h⟩
  · obtain ⟨generation_sql, hgeneration, h⟩ := bind_eq_ok.mp h
    obtain ⟨row, hrow, hread⟩ := EvidenceStore.find_source_graph_at_eq_some h
    obtain ⟨hmem, _, _, _, hcurrent⟩ := EvidenceStore.mem_source_rows.mp hrow
    exact ⟨row, hmem, hcurrent.trans (EvidenceStore.generation_sql_eq_ok hgeneration), hread⟩
  · obtain ⟨generation_sql, hgeneration, h⟩ := bind_eq_ok.mp h
    obtain ⟨row, hrow, hread⟩ := EvidenceStore.find_latest_cache_source_at_eq_some h
    obtain ⟨hmem, _, hcurrent, _⟩ := EvidenceStore.mem_cache_source_rows.mp hrow
    exact ⟨row, hmem, hcurrent.trans (EvidenceStore.generation_sql_eq_ok hgeneration), hread⟩
  · obtain ⟨generation_sql, hgeneration, h⟩ := bind_eq_ok.mp h
    obtain ⟨row, hrow, hread⟩ := EvidenceStore.find_cache_source_at_eq_some h
    obtain ⟨hmem, _, hcurrent, _⟩ := EvidenceStore.mem_cache_source_rows.mp hrow
    exact ⟨row, hmem, hcurrent.trans (EvidenceStore.generation_sql_eq_ok hgeneration), hread⟩

/-- The rows decide: what a lookup answers with is one of them. -/
theorem up_to_date_of_rows (hinv : GenerationInv a)
    (hrows : ∀ row ∈ a.store.ri_v2_evidence_graphs.rows,
      row.val.snapshot_generation = a.store.cache_generation → BuiltOnCurrent a row.key) :
    UpToDate a := by
  refine ⟨hrows, fun graph hserved => ?_⟩
  obtain ⟨row, hrow, hcurrent, hread⟩ := row_of_served hserved
  rw [QueryEvidenceGraphV2.reread_trace_id hread, ← (hinv.rows row hrow).key]
  exact hrows row hrow hcurrent

/-- Only the generation read changes the generation seen. -/
theorem see_generation {o : Observed} (hop : op ≠ .cache_generation) (answer : AgentRes op) :
    (o.see op answer).generation = o.generation := by
  unfold Observed.see
  split
  case h_5 => exact absurd rfl hop
  all_goals rfl

/-- A build learns a generation from the store itself. -/
theorem seen_generation {s : EvidenceStore} {o : Observed} {generation_sql : Int}
    (h : (o.see op (perform P env op s).1).generation = some generation_sql) :
    o.generation = some generation_sql ∨
      (generation_sql = s.cache_generation ∧ generation_sql ≤ I64_MAX) := by
  by_cases hop : op = .cache_generation
  · subst hop
    cases hread : (perform P env .cache_generation s).1 with
    | error e =>
      rw [hread] at h
      exact Or.inl h
    | ok found =>
      rw [hread] at h
      obtain rfl := Option.some.inj h
      exact Or.inr (perform_generation hread)
  · rw [see_generation hop] at h
    exact Or.inl h

/-- Another client's write: graphs go, records stay current while the generation does. -/
theorem GenerationInv.call (hinv : GenerationInv a) {s' : EvidenceStore}
    (hkept : EvidenceStore.RecordsKept a.store s') : GenerationInv { a with store := s' } where
  rows := fun row hrow => (hinv.rows row (hkept.graphs row hrow)).later hkept.generation
  tasks := hinv.tasks
  seen := by
    intro task htask generation_sql hseen
    obtain ⟨hle, hmax⟩ := hinv.seen task htask generation_sql hseen
    exact ⟨le_trans hle (Int.ofNat_le.mpr hkept.generation), hmax⟩

theorem UpToDate.call (hinv : GenerationInv a) (h : UpToDate a) {s' : EvidenceStore}
    (hkept : EvidenceStore.RecordsKept a.store s') : UpToDate { a with store := s' } := by
  refine up_to_date_of_rows (hinv.call hkept) ?_
  intro row hrow hcurrent record hrecord
  have hold := hkept.graphs row hrow
  obtain ⟨_, hpast, hsmall⟩ := hinv.rows row hold
  have hcurrent : row.val.snapshot_generation = s'.cache_generation := hcurrent
  -- a row of the new generation was one of the old generation, which has stayed
  have hsame : s'.cache_generation = a.store.cache_generation := by
    have hle := hkept.generation
    omega
  have hlt : a.store.cache_generation < U64_MAX := by
    unfold I64_MAX at hsmall
    unfold U64_MAX
    omega
  refine (h.rows row hold ?_ record hrecord).kept (hkept.records hsame hlt)
  rw [← hsame]
  exact hcurrent

/-- The invariant does not depend on what stands behind the graphs. -/
theorem GenerationInv.work (hinv : GenerationInv a) (h : Works P env i a a' task op k) :
    GenerationInv a' where
  rows := by
    intro row hrow
    have hmeta : a'.store.ri_v2_meta = a.store.ri_v2_meta := by
      rw [h.next]
      exact (perform_records P env op a.store).2
    have hle : a.store.cache_generation ≤ a'.store.cache_generation :=
      le_of_eq (congrArg Meta.cache_generation hmeta.symm)
    have hstore : a'.store = (perform P env op a.store).2 := by rw [h.next]
    cases hput : op.puts env with
    | none =>
      -- a claim or nothing: the graphs are the same
      rw [hstore] at hrow
      rcases perform_no_put (P := P) (s := a.store) hput with hsame | ⟨_, _, _, _, _, hclaimed⟩
      · rw [hsame] at hrow
        exact (hinv.rows row hrow).later hle
      · rw [hclaimed.rest] at hrow
        exact (hinv.rows row hrow).later hle
    | some written =>
      obtain ⟨graph, generation_sql⟩ := written
      obtain ⟨rfl, hinsert⟩ := perform_put (P := P) (s := a.store) hput
      rw [hstore, hinsert] at hrow
      rcases EvidenceStore.mem_insert_graph hrow with ⟨hkey, hval⟩ | ⟨hold, _⟩
      · -- the protocol puts at a generation the build has read
        have hseen := (((hinv.tasks task h.mem).op h.rest).1).2.2
        obtain ⟨hpast, hsmall⟩ := hinv.seen task h.mem generation_sql hseen
        refine ⟨?_, ?_, ?_⟩
        · rw [hkey, hval]
          rfl
        · rw [hval]
          exact le_trans hpast (Int.ofNat_le.mpr hle)
        · rw [hval]
          exact hsmall
      · exact (hinv.rows row hold).later hle
  tasks := by
    intro task' htask'
    rcases h.mem_tasks htask' with hold | hnew
    · exact hinv.tasks task' hold
    · rw [hnew]
      exact ((hinv.tasks task h.mem).op h.rest).2 _
  seen := by
    intro task' htask' generation_sql hseen
    have hgeneration : a'.store.cache_generation = a.store.cache_generation := by
      rw [h.next]
      exact congrArg Meta.cache_generation (perform_records P env op a.store).2
    rw [hgeneration]
    rcases h.mem_tasks htask' with hold | hnew
    · exact hinv.seen task' hold generation_sql hseen
    · rw [hnew] at hseen
      rcases seen_generation hseen with hseen | ⟨hread, hmax⟩
      · exact hinv.seen task h.mem generation_sql hseen
      · exact ⟨le_of_eq hread, hmax⟩

theorem generation_inv_step {step : AgentStep} (hinv : GenerationInv a)
    (hstep : agent_step P config issuer_keys a step = some a') : GenerationInv a' := by
  have htasks := tasks_follow_step hinv.tasks hstep
  cases step with
  | serve_graph request require_registered_context =>
    obtain rfl := Option.some.inj hstep
    refine ⟨hinv.rows, htasks, ?_⟩
    intro task htask generation_sql hseen
    rcases List.mem_append.mp htask with hold | hnew
    · exact hinv.seen task hold generation_sql hseen
    · rw [List.mem_singleton.mp hnew] at hseen
      cases hseen
  | serve_attestation request =>
    obtain rfl := Option.some.inj hstep
    refine ⟨hinv.rows, htasks, ?_⟩
    intro task htask generation_sql hseen
    rcases List.mem_append.mp htask with hold | hnew
    · exact hinv.seen task hold generation_sql hseen
    · rw [List.mem_singleton.mp hnew] at hseen
      cases hseen
  | work i env =>
    obtain ⟨task, op, k, hworks⟩ := work_eq_some hstep
    exact hinv.work hworks
  | drop i =>
    obtain rfl := Option.some.inj hstep
    exact ⟨hinv.rows, htasks, fun task htask => hinv.seen task (List.mem_of_mem_eraseIdx htask)⟩
  | call call =>
    obtain rfl := Option.some.inj hstep
    exact hinv.call (call.run_kept P a.store)

/-! ## §3. What one step keeps. -/

/-- Records are current in one store exactly when they are in another with the same
identities. -/
theorem current_congr {s s' : EvidenceStore} (h : s'.ri_v2_identities = s.ri_v2_identities)
    {server_id : String} {record : EvidenceStore.IdentityRecord} :
    s'.Current server_id record ↔ s.Current server_id record := by
  unfold EvidenceStore.Current
  rw [h]

/-- An operation that puts no graph keeps the graphs up to date. -/
theorem up_to_date_no_put (hinv : GenerationInv a) (h : UpToDate a)
    (hworks : Works P env i a a' task op k) (hput : op.puts env = none) : UpToDate a' := by
  have hids := (perform_records P env op a.store).1
  have hmeta := (perform_records P env op a.store).2
  have hnote : a'.built_on = a.built_on := by
    rw [hworks.note, hput]
  refine up_to_date_of_rows (hinv.work hworks) ?_
  have hstore : a'.store = (perform P env op a.store).2 := by rw [hworks.next]
  intro row hrow hcurrent record hrecord
  rw [hnote] at hrecord
  rw [hstore] at hrow hcurrent ⊢
  have hold : row ∈ a.store.ri_v2_evidence_graphs.rows := by
    rcases perform_no_put (P := P) (s := a.store) hput with hsame | ⟨_, _, _, _, _, hclaimed⟩
    · rw [hsame] at hrow
      exact hrow
    · rw [hclaimed.rest] at hrow
      exact hrow
  refine (current_congr hids).mpr (h.rows row hold ?_ record hrecord)
  rw [hcurrent]
  exact congrArg (fun m : Meta => (m.cache_generation : Int)) hmeta

/-- A graph that is put is up to date exactly when its generation is not the current one
or all the records behind it are still current. -/
theorem up_to_date_put (hinv : GenerationInv a) (h : UpToDate a)
    (hworks : Works P env i a a' task op k) {graph : QueryEvidenceGraphV2} {generation_sql : Int}
    (hput : op.puts env = some (graph, generation_sql)) :
    UpToDate a' ↔ (generation_sql = a.store.cache_generation →
      ∀ record ∈ task.seen.records, a.store.Current record.1 record.2) := by
  have hids := (perform_records P env op a.store).1
  have hmeta := (perform_records P env op a.store).2
  have hnote : a'.built_on = fun trace_id =>
      if trace_id = graph.trace_id then task.seen.records else a.built_on trace_id := by
    rw [hworks.note, hput]
  have hstore : a'.store = (perform P env op a.store).2 := by rw [hworks.next]
  have hinsert := (perform_put (P := P) (s := a.store) hput).2
  have hgeneration : a'.store.cache_generation = a.store.cache_generation := by
    rw [hstore]
    exact congrArg Meta.cache_generation hmeta
  have hsame : ∀ {server_id : String} {record : EvidenceStore.IdentityRecord},
      a'.store.Current server_id record ↔ a.store.Current server_id record := by
    intro server_id record
    rw [hstore]
    exact current_congr hids
  constructor
  · intro hnow hcurrent record hrecord
    -- the row just written
    have hget : a'.store.ri_v2_evidence_graphs.get? graph.trace_id =
        some (EvidenceStore.graph_row P graph generation_sql) := by
      rw [hstore, hinsert]
      show (a.store.ri_v2_evidence_graphs.upsert _ _).get? _ = _
      rw [RowTable.get?_upsert, if_pos rfl]
    obtain ⟨row, hrow, hkey, hval⟩ := RowTable.get?_eq_some_iff.mp hget
    refine hsame.mp (hnow.rows row hrow ?_ record ?_)
    · rw [hval, hgeneration]
      exact hcurrent
    · rw [hnote, hkey]
      show record ∈ (if graph.trace_id = graph.trace_id then _ else _)
      rw [if_pos rfl]
      exact hrecord
  · intro hallowed
    refine up_to_date_of_rows (hinv.work hworks) ?_
    intro row hrow hcurrent record hrecord
    rw [hgeneration] at hcurrent
    rw [hnote] at hrecord
    have hrecord : record ∈ (if row.key = graph.trace_id then task.seen.records
        else a.built_on row.key) := hrecord
    rw [hstore, hinsert] at hrow
    rcases EvidenceStore.mem_insert_graph hrow with ⟨hkey, hval⟩ | ⟨hold, hkey⟩
    · rw [if_pos hkey] at hrecord
      rw [hval] at hcurrent
      exact hsame.mpr (hallowed hcurrent record hrecord)
    · rw [if_neg hkey] at hrecord
      exact hsame.mpr (h.rows row hold hcurrent record hrecord)

/-- A step keeps the graphs up to date exactly when it puts none on superseded records. -/
theorem up_to_date_step {step : AgentStep} (hinv : GenerationInv a) (h : UpToDate a)
    (hstep : agent_step P config issuer_keys a step = some a') :
    UpToDate a' ↔ NothingSuperseded a step := by
  cases step with
  | serve_graph request require_registered_context =>
    obtain rfl := Option.some.inj hstep
    exact iff_of_true ⟨h.rows, h.answers⟩ trivial
  | serve_attestation request =>
    obtain rfl := Option.some.inj hstep
    exact iff_of_true ⟨h.rows, h.answers⟩ trivial
  | drop i =>
    obtain rfl := Option.some.inj hstep
    exact iff_of_true ⟨h.rows, h.answers⟩ trivial
  | call call =>
    obtain rfl := Option.some.inj hstep
    exact iff_of_true (h.call hinv (call.run_kept P a.store)) trivial
  | work i env =>
    obtain ⟨task, op, k, hworks⟩ := work_eq_some hstep
    -- the condition, for the one request that works
    have hcondition : NothingSuperseded a (.work i env) ↔ ∀ graph generation_sql,
        op.puts env = some (graph, generation_sql) →
        generation_sql = a.store.cache_generation →
        ∀ record ∈ task.seen.records, a.store.Current record.1 record.2 := by
      constructor
      · intro hnone graph generation_sql hput
        refine hnone task graph generation_sql hworks.served ?_
        rw [hworks.next_op]
        exact hput
      · intro hnone task' graph generation_sql hserved hput
        obtain rfl : task = task' := Option.some.inj (hworks.served.symm.trans hserved)
        rw [hworks.next_op] at hput
        exact hnone graph generation_sql hput
    rw [hcondition]
    cases hput : op.puts env with
    | none =>
      refine iff_of_true (up_to_date_no_put hinv h hworks hput) ?_
      intro graph generation_sql hsome
      cases hsome
    | some written =>
      obtain ⟨graph, generation_sql⟩ := written
      rw [up_to_date_put hinv h hworks hput]
      constructor
      · intro hallowed graph' generation_sql' hsome
        obtain ⟨rfl, rfl⟩ := Prod.mk.inj (Option.some.inj hsome)
        exact hallowed
      · intro hallowed
        exact hallowed graph generation_sql rfl

end Steps

/-! ## §4. Whole runs. -/

theorem generation_inv_init (P : Platform) (config : AgentConfig)
    (issuer_keys : IssuerKeyRegistry) :
    GenerationInv (system P config issuer_keys).init :=
  ⟨fun _ hrow => (nomatch hrow), fun _ htask => (nomatch htask), fun _ htask => (nomatch htask)⟩

/-- Every stored graph of the current generation rests on current records throughout a
run exactly when the run never puts a graph, at the generation of the moment, whose
build read a record superseded since. -/
theorem up_to_date_iff (P : Platform) (config : AgentConfig) (issuer_keys : IssuerKeyRegistry)
    (steps : List AgentStep) :
    (system P config issuer_keys).Always UpToDate steps ↔
      (system P config issuer_keys).Along NothingSuperseded steps := by
  refine Machine.always_iff_along (generation_inv_init P config issuer_keys) ?_ ?_ ?_ ?_ steps
  · intro a step a' hinv _ hstep
    exact generation_inv_step hinv hstep
  · exact up_to_date_of_rows (generation_inv_init P config issuer_keys)
      (fun _ hrow => (nomatch hrow))
  · intro a step hstep
    -- only a request that cannot go on disables a step
    cases step with
    | work i env =>
      intro task graph generation_sql hserved hput
      exfalso
      have hwork : (a.tasks[i]?).bind (fun task => (task.work P env a.store).bind
          (fun result => some (⟨result.2, a.tasks.set i result.1,
            task.note env a.built_on⟩ : AgentState))) = none := hstep
      rw [hserved, Option.bind_some] at hwork
      unfold Task.next at hput
      unfold Task.work at hwork
      cases hrest : task.rest with
      | ret _ =>
        rw [hrest] at hput
        cases hput
      | fail _ =>
        rw [hrest] at hput
        cases hput
      | op op k =>
        simp only [hrest] at hwork
        cases hwork
    | _ => exact trivial
  · intro a step a' hinv h hstep
    exact up_to_date_step hinv h hstep

/-! ## §5. A target quarantined before the graph is put. -/

instance (s : EvidenceStore) (server_id : String) (record : EvidenceStore.IdentityRecord) :
    Decidable (s.Current server_id record) :=
  decidable_of_iff ((s.ri_v2_identities.get? server_id).any (fun row =>
      row.identity_json = record.1 &&
        row.registry_json.read_back.same_registry_state record.2) = true) (by
    simp only [EvidenceStore.Current, Option.any_eq_true, Bool.and_eq_true, decide_eq_true_eq])

instance (a : AgentState) (trace_id : String) : Decidable (BuiltOnCurrent a trace_id) :=
  inferInstanceAs (Decidable (∀ record ∈ a.built_on trace_id, a.store.Current record.1 record.2))

/-- All reads of a build, the quarantine of a server it has read, the last two steps. -/
def quarantined_run : List AgentStep :=
  let work : AgentStep := .work 0 (lab_surroundings 1750000000)
  resolved_calls.map AgentStep.call ++ .serve_graph resolved_request false ::
    List.replicate 7 work ++ .call (.quarantine_record authority_a "QUARANTINED") ::
      [work, work]

/-- The graph goes in at the generation of the quarantine. -/
theorem quarantined_run_rows :
    ((system (resolved_recording [] []).platform config_a lab_issuer_keys).run
        quarantined_run).map (fun a => a.store.ri_v2_evidence_graphs.rows.map (fun row =>
          (decide (row.val.snapshot_generation = (a.store.cache_generation : Int)),
            decide (BuiltOnCurrent a row.key)))) =
      some [(true, false)] := by
  decide +kernel

theorem quarantined_target_served :
    ¬ (system (resolved_recording [] []).platform config_a lab_issuer_keys).Always UpToDate
      quarantined_run := by
  intro h
  obtain ⟨a, hrun, hrows⟩ := Option.map_eq_some_iff.mp quarantined_run_rows
  obtain ⟨row, hrow, hshown⟩ : ∃ row ∈ a.store.ri_v2_evidence_graphs.rows,
      (decide (row.val.snapshot_generation = (a.store.cache_generation : Int)),
        decide (BuiltOnCurrent a row.key)) = (true, false) := by
    refine List.mem_map.mp ?_
    rw [hrows]
    exact List.mem_cons_self
  obtain ⟨hcurrent, hsuperseded⟩ := Prod.mk.inj hshown
  exact of_decide_eq_false hsuperseded
    ((h quarantined_run [] a (List.append_nil _).symm hrun).rows row hrow
      (of_decide_eq_true hcurrent))

end ResolverIdentity.Agent
