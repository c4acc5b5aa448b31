/-
  ResolverIdentity.Store.GraphRetention: what `put_graph` keeps.

  Runs of `put_graph` and `purge_expired` at one cache generation.  `live` is
  what such a run promises to keep: every graph put and not yet expired at a
  purge.  The table holds one row for a trace, so a graph stays retrievable
  until another graph of its trace replaces it.

  Main results:
    * `RetentionInv.step`: every row is the row of a live graph;
    * `retained_of_inv`: a live graph with a row of its own is found by its digests;
    * `retention_iff`: a run loses nothing exactly when each of its steps `Keeps`
      what is stored.
-/
import ResolverIdentity.Core.Recorded
import ResolverIdentity.Library.Machine
import ResolverIdentity.Store.Graphs

namespace ResolverIdentity.Store

open Library EvidenceStore

/-! ## §1. Runs. -/

/-- The calls that write the table of graphs. -/
inductive GraphStep where
  | put (graph : QueryEvidenceGraphV2)
  | purge (now : Int)

/-- The store, and the graphs put and not purged since. -/
structure GraphRun where
  store : EvidenceStore
  live : List QueryEvidenceGraphV2

variable (P : Platform)

/-- One step of a run. -/
def GraphRun.step (r : GraphRun) : GraphStep → GraphRun
  | .put graph =>
    match put_graph P graph r.store with
    | (.ok _, s') => ⟨s', r.live ++ [graph]⟩
    | (.error _, s') => ⟨s', r.live⟩
  | .purge now =>
    ⟨r.store.purge_expired now, r.live.filter (fun graph => !(graph.expires_at < now))⟩

/-- Runs on a store without graphs, at the generation it is at. -/
def graphMachine (s₀ : EvidenceStore) : Machine GraphRun GraphStep where
  init := ⟨{ s₀ with ri_v2_evidence_graphs := .empty }, []⟩
  step r l := some (r.step P l)

/-! ## §2. The promise and the condition. -/

/-- Every live graph is found under its own three digests, unchanged. -/
def Retained (r : GraphRun) : Prop :=
  ∀ graph ∈ r.live, ∀ plan,
    r.store.find_source_graph_by_digest plan graph.query_digest graph.response_digest
      (graph_digest P graph) = .ok (some graph)

/-- A put that is carried out stores a graph its reader accepts unchanged, finds no
other graph under its trace, and no other trace under its digests. -/
def Keeps (r : GraphRun) : GraphStep → Prop
  | .put graph => ∀ generation_sql, r.store.generation_sql = .ok generation_sql →
    graph.reread = .ok graph ∧
    ∀ row ∈ r.store.ri_v2_evidence_graphs.rows,
      (row.key = graph.trace_id → row.val.graph_json = graph) ∧
      (row.val.query_digest = graph.query_digest →
        row.val.response_digest = graph.response_digest →
        row.val.graph_digest = graph_digest P graph → row.key = graph.trace_id)
  | .purge _ => True

/-! ## §3. The invariant. -/

/-- Every row is the row of a live graph, at the generation of the store. -/
structure RetentionInv (r : GraphRun) : Prop where
  rows : ∀ row ∈ r.store.ri_v2_evidence_graphs.rows, ∃ graph ∈ r.live,
    row.key = graph.trace_id ∧ row.val = graph_row P graph r.store.cache_generation

/-- Past steps that keep: every live graph has its row, reads back as itself, and
shares its digests with no other row. -/
structure KeepsInv (r : GraphRun) : Prop extends RetentionInv P r where
  readable : r.live ≠ [] → r.store.generation_sql = .ok (r.store.cache_generation : Int)
  stored : ∀ graph ∈ r.live, graph.reread = .ok graph ∧
    r.store.ri_v2_evidence_graphs.get? graph.trace_id =
      some (graph_row P graph r.store.cache_generation)
  unique : ∀ graph ∈ r.live, ∀ row ∈ r.store.ri_v2_evidence_graphs.rows,
    row.val.query_digest = graph.query_digest →
    row.val.response_digest = graph.response_digest →
    row.val.graph_digest = graph_digest P graph → row.key = graph.trace_id

variable {P}

/-- `put_graph` fails on an unreadable generation, or writes its row. -/
theorem GraphRun.put_cases (r : GraphRun) (graph : QueryEvidenceGraphV2) :
    ((∃ e, r.store.generation_sql = .error e) ∧ r.step P (.put graph) = r) ∨
      (r.store.generation_sql = .ok (r.store.cache_generation : Int) ∧
        r.step P (.put graph) =
          ⟨r.store.insert_graph P graph r.store.cache_generation, r.live ++ [graph]⟩) := by
  unfold GraphRun.step put_graph
  cases hgen : r.store.generation_sql with
  | error e => exact Or.inl ⟨⟨e, rfl⟩, rfl⟩
  | ok generation_sql =>
    obtain rfl := generation_sql_eq_ok hgen
    exact Or.inr ⟨rfl, rfl⟩

theorem mem_purged_rows {r : GraphRun} {now : Int} {row : Row String GraphRow} :
    row ∈ (r.step P (.purge now)).store.ri_v2_evidence_graphs.rows ↔
      row ∈ r.store.ri_v2_evidence_graphs.rows ∧ ¬ row.val.expires_at < now := by
  simp [GraphRun.step, purge_expired, RowTable.mem_deleteWhere]

theorem mem_purged_live {r : GraphRun} {now : Int} {graph : QueryEvidenceGraphV2} :
    graph ∈ (r.step P (.purge now)).live ↔ graph ∈ r.live ∧ ¬ graph.expires_at < now := by
  simp [GraphRun.step, List.mem_filter]

theorem RetentionInv.step {r : GraphRun} (h : RetentionInv P r) (l : GraphStep) :
    RetentionInv P (r.step P l) := by
  cases l with
  | put graph =>
    rcases r.put_cases (P := P) graph with ⟨_, heq⟩ | ⟨_, heq⟩
    · rw [heq]
      exact h
    · rw [heq]
      constructor
      intro row hrow
      rcases mem_insert_graph hrow with ⟨hkey, hval⟩ | ⟨hold, _⟩
      · exact ⟨graph, by simp, hkey, hval⟩
      · obtain ⟨g, hg, hrow'⟩ := h.rows row hold
        exact ⟨g, List.mem_append_left _ hg, hrow'⟩
  | purge now =>
    constructor
    intro row hrow
    obtain ⟨hold, hlive⟩ := mem_purged_rows.mp hrow
    obtain ⟨g, hg, hkey, hval⟩ := h.rows row hold
    refine ⟨g, mem_purged_live.mpr ⟨hg, ?_⟩, hkey, hval⟩
    rw [hval] at hlive
    exact hlive

theorem KeepsInv.put {r : GraphRun} (h : KeepsInv P r) {graph : QueryEvidenceGraphV2}
    (hl : Keeps P r (.put graph)) : KeepsInv P (r.step P (.put graph)) := by
  have hbase := h.toRetentionInv.step (.put graph)
  rcases r.put_cases (P := P) graph with ⟨_, heq⟩ | ⟨hgen, heq⟩
  · -- the graph was refused
    rw [heq]
    exact h
  · obtain ⟨hread, hrows⟩ := hl _ hgen
    rw [heq] at hbase ⊢
    refine { toRetentionInv := hbase, readable := fun _ => hgen, stored := ?_, unique := ?_ }
    · intro g hg
      show g.reread = .ok g ∧ (r.store.ri_v2_evidence_graphs.upsert graph.trace_id _).get?
        g.trace_id = _
      rw [RowTable.get?_upsert]
      rcases List.mem_append.mp hg with hg | hg
      · obtain ⟨hgread, hgrow⟩ := h.stored g hg
        refine ⟨hgread, ?_⟩
        by_cases htrace : g.trace_id = graph.trace_id
        · -- the trace already held this very graph
          obtain ⟨row, hrow, hkey, hval⟩ := RowTable.get?_eq_some_iff.mp hgrow
          have hsame := (hrows row hrow).1 (hkey.trans htrace)
          rw [hval] at hsame
          rw [if_pos htrace, show graph = g from hsame.symm]
          rfl
        · rw [if_neg htrace]
          exact hgrow
      · obtain rfl := List.mem_singleton.mp hg
        rw [if_pos rfl]
        exact ⟨hread, rfl⟩
    · -- digests lead to one trace only
      intro g hg row hrow hquery hresponse hdigest
      rcases mem_insert_graph hrow with ⟨hkey, hval⟩ | ⟨hold, _⟩
      · rcases List.mem_append.mp hg with hg | hg
        · -- the older graph's own row carries the digests of the new one
          obtain ⟨row_g, hrow_g, hkey_g, hval_g⟩ :=
            RowTable.get?_eq_some_iff.mp (h.stored g hg).2
          rw [hval] at hquery hresponse hdigest
          have hkey' := (hrows row_g hrow_g).2 (by rw [hval_g]; exact hquery.symm)
            (by rw [hval_g]; exact hresponse.symm) (by rw [hval_g]; exact hdigest.symm)
          rw [hkey, ← hkey', hkey_g]
        · rw [List.mem_singleton.mp hg]
          exact hkey
      · rcases List.mem_append.mp hg with hg | hg
        · exact h.unique g hg row hold hquery hresponse hdigest
        · rw [List.mem_singleton.mp hg] at hquery hresponse hdigest ⊢
          exact (hrows row hold).2 hquery hresponse hdigest

theorem KeepsInv.purge {r : GraphRun} (h : KeepsInv P r) (now : Int) :
    KeepsInv P (r.step P (.purge now)) := by
  refine { toRetentionInv := h.toRetentionInv.step (.purge now), readable := ?_, stored := ?_,
           unique := ?_ }
  · intro hne
    refine h.readable (fun hnil => hne ?_)
    simp [GraphRun.step, hnil]
  · intro g hg
    obtain ⟨hlive, hexpires⟩ := mem_purged_live.mp hg
    obtain ⟨hread, hrow⟩ := h.stored g hlive
    refine ⟨hread, RowTable.get?_deleteWhere_eq_some.mpr ⟨hrow, ?_⟩⟩
    exact decide_eq_false hexpires
  · intro g hg row hrow
    exact h.unique g (mem_purged_live.mp hg).1 row (mem_purged_rows.mp hrow).1

theorem KeepsInv.step {r : GraphRun} (h : KeepsInv P r) {l : GraphStep} (hl : Keeps P r l) :
    KeepsInv P (r.step P l) := by
  cases l with
  | put graph => exact h.put hl
  | purge now => exact h.purge now

variable (P) in
theorem keepsInv_init (s₀ : EvidenceStore) : KeepsInv P (graphMachine P s₀).init := by
  refine { rows := ?_, readable := ?_, stored := ?_, unique := ?_ }
  · intro row hrow
    cases hrow
  · intro hne
    exact absurd rfl hne
  · intro g hg
    cases hg
  · intro g hg
    cases hg

/-! ## §4. Lost and kept graphs. -/

/-- A live graph with a row of its own is found, whatever the query plan. -/
theorem retained_of_inv {r : GraphRun} (h : KeepsInv P r) : Retained P r := by
  intro graph hgraph plan
  obtain ⟨hread, hrow⟩ := h.stored graph hgraph
  obtain ⟨row, hmem, hkey, hval⟩ := RowTable.get?_eq_some_iff.mp hrow
  have hfound : limit_one plan (r.store.source_rows r.store.cache_generation graph.query_digest
      graph.response_digest (graph_digest P graph)) = some row := by
    refine limit_one_of_forall (mem_source_rows.mpr ?_) ?_
    · rw [hval]
      exact ⟨hmem, rfl, rfl, rfl, rfl⟩
    · intro other hother
      obtain ⟨hother, hq, hr, hd, _⟩ := mem_source_rows.mp hother
      exact RowTable.row_ext_of_key hother hmem
        ((h.unique graph hgraph other hother hq hr hd).trans hkey.symm)
  unfold find_source_graph_by_digest find_source_graph_at
  rw [h.readable (List.ne_nil_of_mem hgraph), ok_bind, hfound]
  show (decode_graph row.val.graph_json >>= fun g => .ok (some g)) = _
  rw [hval]
  show (decode_graph graph >>= fun g => .ok (some g)) = _
  rw [decode_graph_eq_ok.mpr hread]
  rfl

/-- Every row behind a promised lookup reads back as the promised graph. -/
theorem Retained.row_reads {r : GraphRun} (h : Retained P r) {graph : QueryEvidenceGraphV2}
    (hgraph : graph ∈ r.live) {row : Row String GraphRow}
    (hrow : row ∈ r.store.source_rows r.store.cache_generation graph.query_digest
      graph.response_digest (graph_digest P graph))
    (hgen : r.store.generation_sql = .ok (r.store.cache_generation : Int)) :
    row.val.graph_json.reread = .ok graph := by
  -- the plan that meets this row first
  obtain ⟨plan, hlt, hplan⟩ := List.getElem_of_mem hrow
  have hfind := h graph hgraph plan
  have hfound : limit_one plan (r.store.source_rows r.store.cache_generation graph.query_digest
      graph.response_digest (graph_digest P graph)) = some row := by
    unfold limit_one
    rw [Nat.mod_eq_of_lt hlt, List.getElem?_eq_getElem hlt, hplan]
  unfold find_source_graph_by_digest find_source_graph_at at hfind
  rw [hgen, ok_bind, hfound] at hfind
  obtain ⟨g, hdecode, hg⟩ := bind_eq_ok.mp hfind
  obtain rfl := Option.some.inj (Except.ok.inj hg)
  exact decode_graph_eq_ok.mp hdecode

/-- Some row answers a promised lookup. -/
theorem Retained.exists_row {r : GraphRun} (h : Retained P r) {graph : QueryEvidenceGraphV2}
    (hgraph : graph ∈ r.live)
    (hgen : r.store.generation_sql = .ok (r.store.cache_generation : Int)) :
    ∃ row, row ∈ r.store.source_rows r.store.cache_generation graph.query_digest
      graph.response_digest (graph_digest P graph) := by
  have hfind := h graph hgraph 0
  unfold find_source_graph_by_digest find_source_graph_at at hfind
  rw [hgen, ok_bind] at hfind
  cases hfound : limit_one 0 (r.store.source_rows r.store.cache_generation graph.query_digest
      graph.response_digest (graph_digest P graph)) with
  | none =>
    rw [hfound] at hfind
    cases hfind
  | some row => exact ⟨row, limit_one_eq_some hfound⟩

/-- A step after which everything live is still found was one that keeps. -/
theorem keeps_of_retained {r : GraphRun} (hinv : RetentionInv P r) {l : GraphStep}
    (hafter : Retained P (r.step P l)) : Keeps P r l := by
  cases l with
  | purge now => exact trivial
  | put graph =>
    intro generation_sql hgen
    obtain rfl := generation_sql_eq_ok hgen
    have hinv' := hinv.step (.put graph)
    rcases r.put_cases (P := P) graph with ⟨⟨e, herr⟩, _⟩ | ⟨_, heq⟩
    · rw [herr] at hgen
      cases hgen
    rw [heq] at hafter hinv'
    have hlive : graph ∈ r.live ++ [graph] := by simp
    -- the new row answers for the new graph, so the graph reads back as itself
    have hself : (r.store.insert_graph P graph
        r.store.cache_generation).ri_v2_evidence_graphs.get? graph.trace_id =
          some (graph_row P graph r.store.cache_generation) := by
      show (r.store.ri_v2_evidence_graphs.upsert _ _).get? _ = _
      simp
    obtain ⟨row₁, hmem₁, hkey₁, hval₁⟩ := RowTable.get?_eq_some_iff.mp hself
    have hread : graph.reread = .ok graph := by
      have hrow : row₁ ∈ (r.store.insert_graph P graph r.store.cache_generation).source_rows
          r.store.cache_generation graph.query_digest graph.response_digest
          (graph_digest P graph) := by
        refine mem_source_rows.mpr ⟨hmem₁, ?_⟩
        rw [hval₁]
        exact ⟨rfl, rfl, rfl, rfl⟩
      have hread₁ := hafter.row_reads hlive hrow hgen
      rw [hval₁] at hread₁
      exact hread₁
    refine ⟨hread, fun row hrow => ⟨fun hkey => ?_, fun hquery hresponse hdigest => ?_⟩⟩
    · -- the graph this row held is still promised, and only the new row can answer
      obtain ⟨g₀, hg₀, hkey₀, hval₀⟩ := hinv.rows row hrow
      have hg₀' : g₀ ∈ r.live ++ [graph] := List.mem_append_left _ hg₀
      obtain ⟨row', hrow'⟩ := hafter.exists_row hg₀' hgen
      have hreads := hafter.row_reads hg₀' hrow' hgen
      obtain ⟨g', _, hkey', hval'⟩ := hinv'.rows row' (mem_source_rows.mp hrow').1
      rw [hval'] at hreads
      have htrace : g'.trace_id = graph.trace_id :=
        (QueryEvidenceGraphV2.reread_trace_id hreads).symm.trans (hkey₀.symm.trans hkey)
      have hrow₁ : row' = row₁ :=
        RowTable.row_ext_of_key (mem_source_rows.mp hrow').1 hmem₁
          (hkey'.trans (htrace.trans hkey₁.symm))
      have hg' : g' = graph :=
        congrArg GraphRow.graph_json (hval'.symm.trans ((congrArg Row.val hrow₁).trans hval₁))
      subst hg'
      rw [hval₀]
      exact (Except.ok.inj (hread.symm.trans hreads)).symm
    · by_contra hne
      -- a row of another trace under these digests would answer with another trace
      obtain ⟨g₀, _, hkey₀, hval₀⟩ := hinv.rows row hrow
      have hrow' : row ∈ (r.store.insert_graph P graph
          r.store.cache_generation).source_rows r.store.cache_generation graph.query_digest
          graph.response_digest (graph_digest P graph) := by
        refine mem_source_rows.mpr ⟨?_, hquery, hresponse, hdigest, ?_⟩
        · have hget := RowTable.get?_of_mem hrow
          have hget' : (r.store.insert_graph P graph
              r.store.cache_generation).ri_v2_evidence_graphs.get? row.key = some row.val := by
            show (r.store.ri_v2_evidence_graphs.upsert _ _).get? _ = _
            rw [RowTable.get?_upsert, if_neg hne, hget]
          obtain ⟨row₂, hmem₂, hkey₂, hval₂⟩ := RowTable.get?_eq_some_iff.mp hget'
          rcases mem_insert_graph hmem₂ with ⟨hk, _⟩ | ⟨hold, _⟩
          · exact absurd (hkey₂.symm.trans hk) hne
          · rwa [RowTable.row_ext_of_key hold hrow hkey₂] at hmem₂
        · rw [hval₀]
          rfl
      have hreads := hafter.row_reads hlive hrow' hgen
      rw [hval₀] at hreads
      exact hne (hkey₀.trans (QueryEvidenceGraphV2.reread_trace_id hreads).symm)

/-- A run of puts and purges at a constant generation loses no graph, at any point
of it, exactly when each of its steps keeps what is stored. -/
theorem retention_iff (P : Platform) (s₀ : EvidenceStore) (steps : List GraphStep) :
    (∀ pre post r, steps = pre ++ post → (graphMachine P s₀).run pre = some r → Retained P r) ↔
      (graphMachine P s₀).Along (fun r l => Keeps P r l) steps := by
  constructor
  · intro hall pre l post r hsteps hrun
    have hinv : RetentionInv P r :=
      (graphMachine P s₀).invariant (keepsInv_init P s₀).toRetentionInv
        (fun r l r' hr hl => Option.some.inj hl ▸ hr.step l) hrun
    refine keeps_of_retained hinv (hall (pre ++ [l]) post (r.step P l) ?_ ?_)
    · rw [hsteps, List.append_assoc, List.singleton_append]
    · exact (graphMachine P s₀).run_snoc_eq_some.mpr ⟨r, hrun, rfl⟩
  · intro halong pre post r hsteps hrun
    rw [hsteps] at halong
    refine retained_of_inv (Machine.invariant_of_along (I := KeepsInv P) (keepsInv_init P s₀)
      (fun r l r' hr hC hl => Option.some.inj hl ▸ hr.step hC) halong.of_prefix hrun)

/-! ## §5. A graph lost to its own trace. -/

/-- A graph of trace `trace-1` for one response of its query. -/
def sample_graph (correlation_id response_digest : String) : QueryEvidenceGraphV2 where
  schema_version := QUERY_EVIDENCE_GRAPH_V2
  trace_id := "trace-1"
  correlation_id := correlation_id
  challenge := "0123456789abcdef0123456789abcdef"
  query_digest := "0x1111111111111111111111111111111111111111111111111111111111111111"
  response_digest := response_digest
  mode := .publicHybrid
  entry_server_id := "resolver-b"
  issued_at := 1750000000
  expires_at := 1750000030
  dnssec_status := .notApplicable
  cache_provenance := none
  terminal_cache_graphs := []
  nodes := []
  edges := []
  terminal_node_ids := []
  final_result := true
  graph_errors := []
  key_id := "agent-key-1"
  signature := none

/-- The first answer of the trace. -/
def first_graph : QueryEvidenceGraphV2 :=
  sample_graph "0x2222222222222222222222222222222222222222222222222222222222222222"
    "0x3333333333333333333333333333333333333333333333333333333333333333"

/-- The second answer, under another transaction id. -/
def second_graph : QueryEvidenceGraphV2 :=
  sample_graph "0x4444444444444444444444444444444444444444444444444444444444444444"
    "0x5555555555555555555555555555555555555555555555555555555555555555"

/-- The digests of the two graphs. -/
def trace_recording : Recording where
  digests := [
    ("\x7b\"challenge\":\"0123456789abcdef0123456789abcdef\",\"correlation_id\":\"0x22",
      "0xa9073ae5f2ab0f324d0350f14173332aeea957799a9d04c7c7c94332c04cd530"),
    ("\x7b\"challenge\":\"0123456789abcdef0123456789abcdef\",\"correlation_id\":\"0x44",
      "0x81ead96a5dba34ee2ae8ed4c0f64989398654bc8f37b3cf0bcea093a55b9e711")]
  keys := []
  signatures := []

theorem first_graph_not_found :
    ((graphMachine trace_recording.platform EvidenceStore.open_).run
        [.put first_graph, .put second_graph]).map (fun r =>
      (r.store.find_source_graph_by_digest 0 first_graph.query_digest first_graph.response_digest
        (graph_digest trace_recording.platform first_graph)).toOption.map Option.isSome) =
      some (some false) := by
  decide +kernel

/-- Two graphs of one trace, put one after the other: the first is gone. -/
theorem same_trace_loses_graph :
    ¬ ∀ pre post r, [GraphStep.put first_graph, .put second_graph] = pre ++ post →
      (graphMachine trace_recording.platform EvidenceStore.open_).run pre = some r →
      Retained trace_recording.platform r := by
  intro hall
  have hlookup := first_graph_not_found
  cases hrun : (graphMachine trace_recording.platform EvidenceStore.open_).run
      [.put first_graph, .put second_graph] with
  | none =>
    rw [hrun] at hlookup
    cases hlookup
  | some r =>
    have hlive : first_graph ∈ r.live := by
      obtain rfl := Option.some.inj hrun
      exact List.mem_cons_self
    have hfound := hall _ [] r (List.append_nil _).symm hrun first_graph hlive 0
    rw [hrun, Option.map_some, hfound] at hlookup
    cases hlookup

end ResolverIdentity.Store
