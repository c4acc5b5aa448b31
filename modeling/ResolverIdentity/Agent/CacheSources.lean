/-
  ResolverIdentity.Agent.CacheSources: the graph behind a cached answer.

  A cache-source lookup joins three tables by trace id: the graph stored under a
  trace, the events claimed under it, and the cache object of each such event.
  The join says nothing about which answer the graph is of, and a trace may have
  several: the parent asked twice and got two answers.

  Main results:
    * `source_inv_step`: what one step keeps, as long as a trace only ever
      deals with one answer at a time;
    * `sources_match`: in such runs every cache source is a graph of the answer
      that holds the cached object.
-/
import ResolverIdentity.Agent.System

namespace ResolverIdentity.Agent

open Library Store EvidenceStore

/-! ## §1. The law and the condition. -/

/-- A cache-source lookup, at whatever generation it has read, answers with the graph. -/
def CacheSource (s : EvidenceStore) (query_digest cache_object_digest : String)
    (graph : QueryEvidenceGraphV2) : Prop :=
  ∃ generation_sql,
    (∃ digest, s.find_latest_cache_source_at generation_sql query_digest cache_object_digest =
      .ok (some (graph, digest))) ∨
    ∃ plan digest, s.find_cache_source_at plan generation_sql query_digest cache_object_digest
      digest = .ok (some graph)

/-- A cache source is of the query asked for, and of the answer of a claimed client
response of its trace that holds the cached object. -/
def SourcesMatch (a : AgentState) : Prop :=
  ∀ query_digest cache_object_digest graph,
    CacheSource a.store query_digest cache_object_digest graph →
    graph.query_digest = query_digest ∧
      ∃ event_id event, ClaimedEvent a.store graph.trace_id event_id event ∧
        event.kind = .clientResponse ∧ event.cache_object_digest = some cache_object_digest ∧
        event.response_digest = some graph.response_digest

/-- The operation takes an event that no request had claimed: the claims change. -/
def TakesEvent (P : Platform) (env : Surroundings) (s : EvidenceStore) (op : AgentOp) : Prop :=
  (perform P env op s).2.ri_v2_trace_event_claims.rows ≠ s.ri_v2_trace_event_claims.rows

/-- A request takes no event while a graph of another answer is stored under its trace,
and stores nothing while a client response of another answer is claimed under it. -/
def OneAnswer (P : Platform) (a : AgentState) : AgentStep → Prop
  | .work i env => ∀ task op, a.tasks[i]? = some task → task.next = some op →
      (TakesEvent P env a.store op → ∀ row ∈ a.store.ri_v2_evidence_graphs.rows,
        row.key = task.trace_id → row.val.response_digest = task.response_digest) ∧
      ((op.puts env).isSome = true → ∀ event_id event,
        ClaimedEvent a.store task.trace_id event_id event → event.kind = .clientResponse →
        event.response_digest = some task.response_digest)
  | _ => True

/-! ## §2. The invariant. -/

/-- A row stands under its graph's trace and repeats its digests. -/
structure RowMade (row : Row String GraphRow) : Prop where
  key : row.key = row.val.graph_json.trace_id
  query : row.val.query_digest = row.val.graph_json.query_digest
  response : row.val.response_digest = row.val.graph_json.response_digest

/-- Every client response claimed under the trace of a stored graph is of its answer. -/
structure SourceInv (a : AgentState) : Prop where
  rows : ∀ row ∈ a.store.ri_v2_evidence_graphs.rows, RowMade row
  stored : ClaimsStored a.store
  agree : ∀ row ∈ a.store.ri_v2_evidence_graphs.rows, ∀ event_id event,
    ClaimedEvent a.store row.key event_id event → event.kind = .clientResponse →
    event.response_digest = some row.val.response_digest
  tasks : ∀ task ∈ a.tasks, task.Follows

section Steps

variable {P : Platform} {config : AgentConfig} {issuer_keys : IssuerKeyRegistry}
variable {a a' : AgentState} {i : Nat} {env : Surroundings} {task : Task} {op : AgentOp}
variable {k : AgentRes op → AgentProg Unit}

/-- What a lookup answers with stands in a row of the joined trace. -/
theorem row_of_cache_source {s : EvidenceStore} {query_digest cache_object_digest : String}
    {graph : QueryEvidenceGraphV2} (h : CacheSource s query_digest cache_object_digest graph) :
    ∃ row ∈ s.ri_v2_evidence_graphs.rows, row.val.query_digest = query_digest ∧
      s.claims_cache_object row.key cache_object_digest = true ∧
      row.val.graph_json.reread = .ok graph := by
  obtain ⟨generation_sql, h⟩ := h
  rcases h with ⟨digest, h⟩ | ⟨plan, digest, h⟩
  · obtain ⟨row, hrow, hread⟩ := find_latest_cache_source_at_eq_some h
    obtain ⟨hmem, hquery, _, hclaims⟩ := mem_cache_source_rows.mp hrow
    exact ⟨row, hmem, hquery, hclaims, hread⟩
  · obtain ⟨row, hrow, hread⟩ := find_cache_source_at_eq_some h
    obtain ⟨hmem, hquery, _, hclaims⟩ := mem_cache_source_rows.mp hrow
    exact ⟨row, hmem, hquery, hclaims, hread⟩

/-- Where every claimed client response is of the stored answer, every source is. -/
theorem SourceInv.sources (hinv : SourceInv a) : SourcesMatch a := by
  intro query_digest cache_object_digest graph hsource
  obtain ⟨row, hrow, hquery, hclaims, hread⟩ := row_of_cache_source hsource
  obtain ⟨hmade, hagree⟩ := And.intro (hinv.rows row hrow) (hinv.agree row hrow)
  obtain ⟨htrace, hquery', hresponse'⟩ := QueryEvidenceGraphV2.reread_binding hread
  obtain ⟨event_id, event, hclaim, hevent, hkind, hobject⟩ := claims_cache_object_iff.mp hclaims
  refine ⟨?_, event_id, event, ?_, hkind, hobject, ?_⟩
  · rw [hquery', ← hmade.query]
    exact hquery
  · rw [htrace, ← hmade.key]
    exact ⟨hclaim, hevent⟩
  · rw [hresponse', ← hmade.response]
    exact hagree event_id event ⟨hclaim, hevent⟩ hkind

/-! ## §3. What one step keeps. -/

/-- Another client's write brings neither graphs nor claims. -/
theorem SourceInv.call (hinv : SourceInv a) (call : StoreCall) :
    SourceInv { a with store := call.run P a.store } := by
  have hkept := call.run_kept P a.store
  have hclaims := call.run_claimed P hinv.stored
  refine ⟨fun row hrow => hinv.rows row (hkept.graphs row hrow), hclaims.stored, ?_, hinv.tasks⟩
  intro row hrow event_id event hclaimed hkind
  exact hinv.agree row (hkept.graphs row hrow) event_id event
    (hclaims.claimed row.key event_id event hclaimed) hkind

/-- After a claim, what is claimed was claimed before or is the event just claimed. -/
theorem claimed_of_event_claimed {s s' : EvidenceStore} {trace response id : String}
    {claimed : TraceEventV2} (h : EventClaimed s s' trace response id claimed)
    {request_trace_id event_id : String} {event : TraceEventV2}
    (hclaimed : ClaimedEvent s' request_trace_id event_id event) :
    ClaimedEvent s request_trace_id event_id event ∨
      (request_trace_id = trace ∧ event_id = id ∧ event = claimed) := by
  obtain ⟨hclaim, hevent⟩ := hclaimed
  rw [h.claims] at hclaim
  rw [h.rest] at hevent
  by_cases hid : event_id = id
  · rw [if_pos hid] at hclaim
    rw [hid] at hevent
    exact Or.inr ⟨(Option.some.inj hclaim).symm, hid,
      Option.some.inj (hevent.symm.trans h.stored)⟩
  · rw [if_neg hid] at hclaim
    exact Or.inl ⟨hclaim, hevent⟩

theorem EventClaimed.claims_stored {s s' : EvidenceStore} {trace response id : String}
    {claimed : TraceEventV2} (h : EventClaimed s s' trace response id claimed)
    (hstored : ClaimsStored s) : ClaimsStored s' := by
  intro event_id owner hclaim
  rw [h.claims] at hclaim
  rw [h.rest]
  by_cases hid : event_id = id
  · rw [hid]
    exact ⟨claimed, h.stored⟩
  · rw [if_neg hid] at hclaim
    exact hstored event_id owner hclaim

/-- Where no event is taken, what is claimed was claimed before. -/
theorem claimed_of_not_takes {s' : EvidenceStore} (hs' : s' = (perform P env op a.store).2)
    (htakes : ¬ TakesEvent P env a.store op)
    (hevents : s'.ri_v2_trace_events = a.store.ri_v2_trace_events)
    {request_trace_id event_id : String} {event : TraceEventV2}
    (hclaimed : ClaimedEvent s' request_trace_id event_id event) :
    ClaimedEvent a.store request_trace_id event_id event := by
  have hclaims : s'.ri_v2_trace_event_claims = a.store.ri_v2_trace_event_claims := by
    rw [hs']
    exact RowTable.ext_rows (not_not.mp htakes)
  obtain ⟨hclaim, hevent⟩ := hclaimed
  rw [hclaims] at hclaim
  rw [hevents] at hevent
  exact ⟨hclaim, hevent⟩

/-- The claims a request makes are under its own trace, for its own answer. -/
theorem claims_of_permits {trace_id response_digest trace response : String} {o : Observed}
    (hpermits : build_permits trace_id response_digest o op)
    (hclaims : op.claims = some (trace, response)) :
    trace = trace_id ∧ response = response_digest := by
  cases op with
  | claim_registered_trace_anchor request =>
    obtain ⟨rfl, rfl⟩ := Prod.mk.inj (Option.some.inj hclaims)
    exact hpermits
  | claim_matching_response request =>
    obtain ⟨rfl, rfl⟩ := Prod.mk.inj (Option.some.inj hclaims)
    exact hpermits
  | _ => cases hclaims

/-- One operation of a request, while its trace deals with one answer. -/
theorem SourceInv.work (hinv : SourceInv a) (h : Works P env i a a' task op k)
    (hone : OneAnswer P a (.work i env)) : SourceInv a' := by
  have hpermits := ((hinv.tasks task h.mem).op h.rest).1
  obtain ⟨hclaim, hput⟩ := hone task op h.served h.next_op
  have hstore : a'.store = (perform P env op a.store).2 := by rw [h.next]
  -- every task keeps to its protocol
  have htasks : ∀ task' ∈ a'.tasks, task'.Follows := by
    intro task' htask'
    rcases h.mem_tasks htask' with hold | hnew
    · exact hinv.tasks task' hold
    · rw [hnew]
      exact ((hinv.tasks task h.mem).op h.rest).2 _
  cases hputs : op.puts env with
  | none =>
    rcases perform_no_put (P := P) (s := a.store) hputs with
      hsame | ⟨trace, response, id, claimed, hclaims, hclaimed⟩
    · -- nothing changed
      have hstore : a'.store = a.store := hstore.trans hsame
      refine ⟨?_, ?_, ?_, htasks⟩
      · rw [hstore]
        exact hinv.rows
      · rw [hstore]
        exact hinv.stored
      · rw [hstore]
        exact hinv.agree
    · obtain ⟨rfl, rfl⟩ := claims_of_permits hpermits hclaims
      rw [← hstore] at hclaimed
      have hgraphs : a'.store.ri_v2_evidence_graphs = a.store.ri_v2_evidence_graphs := by
        rw [hclaimed.rest]
      refine ⟨?_, hclaimed.claims_stored hinv.stored, ?_, htasks⟩
      · rw [hgraphs]
        exact hinv.rows
      intro row hrow event_id event hevent hkind
      rw [hgraphs] at hrow
      by_cases htakes : TakesEvent P env a.store op
      · -- one more claim, of the answer the stored graph is of
        rcases claimed_of_event_claimed hclaimed hevent with hold | ⟨hkey, _, rfl⟩
        · exact hinv.agree row hrow event_id event hold hkind
        · rw [hclaimed.answer, hclaim htakes row hrow hkey]
      · -- the request's own event once more
        have hsame := claimed_of_not_takes hstore htakes (by rw [hclaimed.rest]) hevent
        exact hinv.agree row hrow event_id event hsame hkind
  | some written =>
    -- the one operation that writes a graph: the task holds the answer it is of
    obtain ⟨graph, generation_sql⟩ := written
    obtain ⟨rfl, hinsert⟩ := perform_put (P := P) (s := a.store) hputs
    obtain ⟨htrace, hresponse, _⟩ := hpermits
    rw [hinsert] at hstore
    rw [hputs] at hput
    refine ⟨?_, ?_, ?_, htasks⟩
    · intro row hrow
      rw [hstore] at hrow
      rcases mem_insert_graph hrow with ⟨hkey, hval⟩ | ⟨hold, _⟩
      · refine ⟨?_, ?_, ?_⟩
        · rw [hkey, hval]
          rfl
        · rw [hval]
          rfl
        · rw [hval]
          rfl
      · exact hinv.rows row hold
    · rw [hstore]
      exact hinv.stored
    · intro row hrow event_id event hevent hkind
      rw [hstore] at hrow hevent
      have hevent : ClaimedEvent a.store row.key event_id event := hevent
      rcases mem_insert_graph hrow with ⟨hkey, hval⟩ | ⟨hold, _⟩
      · -- the new row: everything claimed under its trace is of its answer
        rw [hkey, htrace] at hevent
        rw [hput rfl event_id event hevent hkind, hval, ← hresponse]
        rfl
      · exact hinv.agree row hold event_id event hevent hkind

theorem source_inv_step {step : AgentStep} (hinv : SourceInv a) (hone : OneAnswer P a step)
    (hstep : agent_step P config issuer_keys a step = some a') : SourceInv a' := by
  have htasks := tasks_follow_step hinv.tasks hstep
  cases step with
  | serve_graph request require_registered_context =>
    obtain rfl := Option.some.inj hstep
    exact ⟨hinv.rows, hinv.stored, hinv.agree, htasks⟩
  | serve_attestation request =>
    obtain rfl := Option.some.inj hstep
    exact ⟨hinv.rows, hinv.stored, hinv.agree, htasks⟩
  | work i env =>
    obtain ⟨task, op, k, hworks⟩ := work_eq_some hstep
    exact hinv.work hworks hone
  | drop i =>
    obtain rfl := Option.some.inj hstep
    exact ⟨hinv.rows, hinv.stored, hinv.agree, htasks⟩
  | call call =>
    obtain rfl := Option.some.inj hstep
    exact hinv.call call

end Steps

/-! ## §4. Whole runs. -/

/-- In a run in which every trace deals with one answer at a time, every cache source is
a graph of the query asked for and of the answer that holds the cached object. -/
theorem sources_match (P : Platform) (config : AgentConfig) (issuer_keys : IssuerKeyRegistry)
    (steps : List AgentStep) (hone : (system P config issuer_keys).Along (OneAnswer P) steps) :
    (system P config issuer_keys).Always SourcesMatch steps := by
  intro pre post a hsteps hrun
  rw [hsteps] at hone
  have hinv : SourceInv a := by
    refine Machine.invariant_of_along (I := SourceInv) ?_ ?_ hone.of_prefix hrun
    · exact ⟨fun _ hrow => (nomatch hrow), fun _ _ hclaim => (nomatch hclaim),
        fun _ hrow => (nomatch hrow), fun _ htask => (nomatch htask)⟩
    · intro a step a' hinv hcondition hstep
      exact source_inv_step hinv hcondition hstep
  exact hinv.sources

/-! ## §5. One question, asked twice. -/

/-- Every event claimed under a trace, checked row by row. -/
theorem forall_claimed {s : EvidenceStore} {request_trace_id : String}
    {p : TraceEventV2 → Prop} :
    (∀ event_id event, ClaimedEvent s request_trace_id event_id event → p event) ↔
      ∀ row ∈ s.ri_v2_trace_events.rows,
        s.ri_v2_trace_event_claims.get? row.key = some request_trace_id → p row.val := by
  constructor
  · intro h row hrow hclaim
    exact h row.key row.val ⟨hclaim, RowTable.get?_of_mem hrow⟩
  · intro h event_id event hclaimed
    obtain ⟨row, hrow, hkey, hval⟩ := RowTable.get?_eq_some_iff.mp hclaimed.2
    rw [← hval]
    refine h row hrow ?_
    rw [hkey]
    exact hclaimed.1

instance (P : Platform) (env : Surroundings) (s : EvidenceStore) (op : AgentOp) :
    Decidable (TakesEvent P env s op) :=
  inferInstanceAs (Decidable (_ ≠ _))

instance (P : Platform) (a : AgentState) (step : AgentStep) : Decidable (OneAnswer P a step) :=
  match step with
  | .work i env =>
    decidable_of_iff (∀ task ∈ a.tasks[i]?, ∀ op ∈ task.next,
        (TakesEvent P env a.store op → ∀ row ∈ a.store.ri_v2_evidence_graphs.rows,
          row.key = task.trace_id → row.val.response_digest = task.response_digest) ∧
        ((op.puts env).isSome = true → ∀ row ∈ a.store.ri_v2_trace_events.rows,
          a.store.ri_v2_trace_event_claims.get? row.key = some task.trace_id →
          row.val.kind = .clientResponse →
          row.val.response_digest = some task.response_digest)) (by
      simp only [OneAnswer, forall_claimed, Option.mem_def]
      constructor
      · intro h task op htask hop
        exact h task htask op hop
      · intro h task htask op hop
        exact h task op htask hop)
  | .serve_graph _ _ => isTrue trivial
  | .serve_attestation _ => isTrue trivial
  | .drop _ => isTrue trivial
  | .call _ => isTrue trivial

/-- The recorded results of the run below. -/
def asked_platform : Platform :=
  (resolved_recording
    [(answer_text (digest_of '7'),
        "0x5f6d28a5b7d0ea48ffeb3cbb88e9b490860ab4e9c22fa485c313abbb864b3b78")]
    [(agent_key_a, edge_text "trace-1",
        "BwiqiEh8u1DbeTFHGESxS14qbATPGbqmNWV98DrVLTQVVcLgyMTeOiF/+tjTEJDNtlTBXLrqVSI9E4/b/fcQCQ=="),
      (agent_key_a, answer_text (digest_of '7'),
        "G6uZdnkclS+XRVSClfgw/Iurj29MAdTbCxJQZYTakaYegCPV+XL7I9vAAy4ddK6d35TCw4168TOp1tcuG//TAQ==")]).platform

/-- The question is resolved once. -/
def asked_once : List AgentStep :=
  resolved_calls.map AgentStep.call ++ .serve_graph resolved_request false ::
    List.replicate 9 (.work 0 (lab_surroundings 1750000000))

/-- And again under the same trace, with another transaction id and another answer. -/
def asked_twice : List AgentStep :=
  asked_once ++ .call (.put_trace_events (resolved_events "trace-1" (digest_of '7')
      (digest_of '8') (digest_of 'f') (digest_of '9'))) ::
    .serve_graph (lab_request "request-0" challenge_0 (digest_of '7') (digest_of 'f')) false ::
    List.replicate 9 (.work 1 (lab_surroundings 1750000000))

/-- The source of an object in the state a run has reached. -/
def source_after (steps : List AgentStep) (cache_object_digest : String) :
    Option (AgentState × Option (QueryEvidenceGraphV2 × String)) := do
  let a ← (system asked_platform config_a lab_issuer_keys).run steps
  let found ← (a.store.find_latest_cache_source_at a.store.cache_generation (digest_of 'a')
    cache_object_digest).toOption
  some (a, found)

/-- One question meets the condition at each step; after two, the object of the first answer has
the graph of the second. -/
theorem asked_facts :
    (system asked_platform config_a lab_issuer_keys).checked (OneAnswer asked_platform)
        (system asked_platform config_a lab_issuer_keys).init asked_once = true ∧
    (source_after asked_twice (digest_of 'b')).map (fun found =>
        (found.2.map (fun source => source.1.response_digest),
          found.1.store.ri_v2_trace_events.rows.any (fun row =>
            row.val.cache_object_digest = some (digest_of 'b') &&
              row.val.response_digest = some (digest_of 'f')))) =
      some (some (digest_of 'f'), false) := by
  decide +kernel

theorem asked_once_matches :
    (system asked_platform config_a lab_issuer_keys).Always SourcesMatch asked_once :=
  sources_match asked_platform config_a lab_issuer_keys asked_once
    (Machine.along_of_checked asked_facts.1)

theorem second_answer_served :
    ¬ (system asked_platform config_a lab_issuer_keys).Always SourcesMatch asked_twice := by
  intro h
  obtain ⟨⟨a, source⟩, hafter, hshown⟩ := Option.map_eq_some_iff.mp asked_facts.2
  obtain ⟨hsource, hnone⟩ := Prod.mk.inj hshown
  obtain ⟨⟨graph, digest⟩, hfound, hresponse⟩ := Option.map_eq_some_iff.mp hsource
  unfold source_after at hafter
  obtain ⟨a', hrun, hafter⟩ := Option.bind_eq_some_iff.mp hafter
  obtain ⟨found, hlookup, hafter⟩ := Option.bind_eq_some_iff.mp hafter
  obtain ⟨rfl, rfl⟩ := Prod.mk.inj (Option.some.inj hafter)
  have hlookup := toOption_eq_some hlookup
  rw [show found = some (graph, digest) from hfound] at hlookup
  -- the client response that held the object had another answer
  obtain ⟨_, event_id, event, hclaimed, _, hobject, hanswer⟩ :=
    h asked_twice [] a' (List.append_nil _).symm hrun (digest_of 'a') (digest_of 'b') graph
      ⟨_, Or.inl ⟨digest, hlookup⟩⟩
  obtain ⟨row, hrow, _, hval⟩ := RowTable.get?_eq_some_iff.mp hclaimed.2
  have hother := List.any_eq_false.mp hnone row hrow
  rw [hval, hobject, hanswer, show graph.response_digest = digest_of 'f' from hresponse] at hother
  simp at hother

end ResolverIdentity.Agent
