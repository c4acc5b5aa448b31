/-
  ResolverIdentity.Store.Graphs: stored evidence graphs.

  `put_graph`, the source-graph lookups and `purge_expired` of
  `ri-store/src/lib.rs`.  `put_graph` and every lookup read the cache generation
  on a connection of their own before the statement that uses it, so each comes
  in two steps here: the read (`generation_sql`) and the statement for a
  generation already read.

  A `LIMIT 1` without `ORDER BY` may answer with any matching row: `plan` is the
  query plan's choice among them, and statements about a lookup hold for every
  plan.

  Main results:
    * `mem_insert_graph`: the rows after `put_graph`;
    * `limit_one_eq_some`, `limit_one_of_forall`: what an unordered lookup answers;
    * `find_source_graph_at_eq_some`, `find_latest_cache_source_at_eq_some`,
      `find_cache_source_at_eq_some`: the row behind an answer.
-/
import ResolverIdentity.Store.Tables

namespace ResolverIdentity.Store

open Library

/-- `LIMIT 1` on unordered matches: the plan decides which one comes first. -/
def limit_one {α : Type} (plan : Nat) (found : List α) : Option α := found[plan % found.length]?

theorem limit_one_eq_some {α : Type} {plan : Nat} {found : List α} {a : α}
    (h : limit_one plan found = some a) : a ∈ found :=
  List.mem_of_getElem? h

theorem limit_one_isSome {α : Type} (plan : Nat) {found : List α} (h : found ≠ []) :
    ∃ a, limit_one plan found = some a := by
  have hlen : 0 < found.length := List.length_pos_iff.mpr h
  exact ⟨_, List.getElem?_eq_getElem (Nat.mod_lt plan hlen)⟩

/-- When all matches are one value, every plan answers with it. -/
theorem limit_one_of_forall {α : Type} {plan : Nat} {found : List α} {a : α} (hmem : a ∈ found)
    (hall : ∀ b ∈ found, b = a) : limit_one plan found = some a := by
  obtain ⟨b, hb⟩ := limit_one_isSome plan (List.ne_nil_of_mem hmem)
  rw [hb, hall b (limit_one_eq_some hb)]

namespace EvidenceStore

variable (P : Platform)

/-! ## §1. Writes. -/

/-- `sql_i64(self.cache_generation()?, "cache_generation")?`. -/
def generation_sql (s : EvidenceStore) : Except StoreError Int :=
  sql_i64 s.cache_generation "cache_generation"

/-- The digest a graph is stored and referred to under. -/
def graph_digest (graph : QueryEvidenceGraphV2) : String := P.object_hash graph.to_value

/-- The row of a graph at a generation. -/
def graph_row (graph : QueryEvidenceGraphV2) (generation_sql : Int) : GraphRow where
  query_digest := graph.query_digest
  response_digest := graph.response_digest
  graph_json := graph
  graph_digest := graph_digest P graph
  expires_at := graph.expires_at
  snapshot_generation := generation_sql

/-- The `INSERT ... ON CONFLICT(trace_id) DO UPDATE` of `put_graph`. -/
def insert_graph (graph : QueryEvidenceGraphV2) (generation_sql : Int) (s : EvidenceStore) :
    EvidenceStore :=
  { s with
    ri_v2_evidence_graphs :=
      s.ri_v2_evidence_graphs.upsert graph.trace_id (graph_row P graph generation_sql) }

/-- `put_graph` with nothing between its two steps. -/
def put_graph (graph : QueryEvidenceGraphV2) (s : EvidenceStore) :
    Except StoreError String × EvidenceStore :=
  match s.generation_sql with
  | .error e => (.error e, s)
  | .ok generation_sql => (.ok (graph_digest P graph), s.insert_graph P graph generation_sql)

/-- `purge_expired`. -/
def purge_expired (now : Int) (s : EvidenceStore) : EvidenceStore :=
  { s with
    ri_v2_evidence_graphs :=
      s.ri_v2_evidence_graphs.deleteWhere (fun _ row => row.expires_at < now) }

/-! ## §2. Lookups. -/

/-- The rows `find_source_graph_by_digest` matches. -/
def source_rows (s : EvidenceStore) (generation_sql : Int)
    (query_digest response_digest graph_digest : String) : List (Row String GraphRow) :=
  s.ri_v2_evidence_graphs.rows.filter (fun g =>
    g.val.query_digest = query_digest && g.val.response_digest = response_digest &&
    g.val.graph_digest = graph_digest && g.val.snapshot_generation = generation_sql)

/-- The source of a digest, at a generation that was read before. -/
def find_source_graph_at (plan : Nat) (generation_sql : Int)
    (query_digest response_digest graph_digest : String) (s : EvidenceStore) :
    Except StoreError (Option QueryEvidenceGraphV2) :=
  match limit_one plan
    (s.source_rows generation_sql query_digest response_digest graph_digest) with
  | none => .ok none
  | some row => do
    let graph ← decode_graph row.val.graph_json
    .ok (some graph)

/-- The source of a digest. -/
def find_source_graph_by_digest (plan : Nat) (query_digest response_digest graph_digest : String)
    (s : EvidenceStore) : Except StoreError (Option QueryEvidenceGraphV2) := do
  let generation_sql ← s.generation_sql
  s.find_source_graph_at plan generation_sql query_digest response_digest graph_digest

/-- Is a client response with this cache object claimed under the trace?  The join of
`ri_v2_trace_event_claims` and `ri_v2_trace_events`. -/
def claims_cache_object (s : EvidenceStore) (trace_id cache_object_digest : String) : Bool :=
  s.ri_v2_trace_event_claims.rows.any (fun c =>
    c.val = trace_id &&
    s.ri_v2_trace_events.rows.any (fun e =>
      e.key = c.key && e.val.kind = .clientResponse &&
      e.val.cache_object_digest = some cache_object_digest))

/-- The rows the cache-source lookups match, before a graph digest is asked for. -/
def cache_source_rows (s : EvidenceStore) (generation_sql : Int)
    (query_digest cache_object_digest : String) : List (Row String GraphRow) :=
  s.ri_v2_evidence_graphs.rows.filter (fun g =>
    g.val.query_digest = query_digest && g.val.snapshot_generation = generation_sql &&
    s.claims_cache_object g.key cache_object_digest)

/-- `ORDER BY g.rowid DESC LIMIT 1`. -/
def find_latest_cache_source_at (generation_sql : Int) (query_digest cache_object_digest : String)
    (s : EvidenceStore) : Except StoreError (Option (QueryEvidenceGraphV2 × String)) :=
  match (s.cache_source_rows generation_sql query_digest cache_object_digest).getLast? with
  | none => .ok none
  | some row => do
    let graph ← decode_graph row.val.graph_json
    .ok (some (graph, row.val.graph_digest))

/-- The newest source of a cached object, with its digest. -/
def find_latest_cache_source_graph (query_digest cache_object_digest : String)
    (s : EvidenceStore) : Except StoreError (Option (QueryEvidenceGraphV2 × String)) := do
  let generation_sql ← s.generation_sql
  s.find_latest_cache_source_at generation_sql query_digest cache_object_digest

/-- The source of a cached object, at a generation that was read before. -/
def find_cache_source_at (plan : Nat) (generation_sql : Int)
    (query_digest cache_object_digest graph_digest : String) (s : EvidenceStore) :
    Except StoreError (Option QueryEvidenceGraphV2) :=
  match limit_one plan
    ((s.cache_source_rows generation_sql query_digest cache_object_digest).filter
      (fun g => g.val.graph_digest = graph_digest)) with
  | none => .ok none
  | some row => do
    let graph ← decode_graph row.val.graph_json
    .ok (some graph)

/-- The source of a cached object. -/
def find_cache_source_graph_by_digest (plan : Nat)
    (query_digest cache_object_digest graph_digest : String) (s : EvidenceStore) :
    Except StoreError (Option QueryEvidenceGraphV2) := do
  let generation_sql ← s.generation_sql
  s.find_cache_source_at plan generation_sql query_digest cache_object_digest graph_digest

/-! ## §3. What the rows satisfy. -/

theorem decode_graph_eq_ok {stored graph : QueryEvidenceGraphV2} :
    decode_graph stored = .ok graph ↔ stored.reread = .ok graph :=
  mapError_eq_ok

variable {P}

/-- After an insert a row is the written one or the row of another trace. -/
theorem mem_insert_graph {graph : QueryEvidenceGraphV2} {generation_sql : Int}
    {s : EvidenceStore} {row : Row String GraphRow}
    (h : row ∈ (s.insert_graph P graph generation_sql).ri_v2_evidence_graphs.rows) :
    (row.key = graph.trace_id ∧ row.val = graph_row P graph generation_sql) ∨
      (row ∈ s.ri_v2_evidence_graphs.rows ∧ row.key ≠ graph.trace_id) :=
  RowTable.mem_upsert h

theorem mem_source_rows {s : EvidenceStore} {generation_sql : Int}
    {query_digest response_digest graph_digest : String} {row : Row String GraphRow} :
    row ∈ s.source_rows generation_sql query_digest response_digest graph_digest ↔
      row ∈ s.ri_v2_evidence_graphs.rows ∧ row.val.query_digest = query_digest ∧
      row.val.response_digest = response_digest ∧ row.val.graph_digest = graph_digest ∧
      row.val.snapshot_generation = generation_sql := by
  simp [source_rows, List.mem_filter, and_assoc]

theorem mem_cache_source_rows {s : EvidenceStore} {generation_sql : Int}
    {query_digest cache_object_digest : String} {row : Row String GraphRow} :
    row ∈ s.cache_source_rows generation_sql query_digest cache_object_digest ↔
      row ∈ s.ri_v2_evidence_graphs.rows ∧ row.val.query_digest = query_digest ∧
      row.val.snapshot_generation = generation_sql ∧
      s.claims_cache_object row.key cache_object_digest = true := by
  simp [cache_source_rows, List.mem_filter, and_assoc]

/-- The joined claim, spelt out. -/
theorem claims_cache_object_iff {s : EvidenceStore} {trace_id cache_object_digest : String} :
    s.claims_cache_object trace_id cache_object_digest = true ↔
      ∃ event_id event, s.ri_v2_trace_event_claims.get? event_id = some trace_id ∧
        s.ri_v2_trace_events.get? event_id = some event ∧ event.kind = .clientResponse ∧
        event.cache_object_digest = some cache_object_digest := by
  simp only [claims_cache_object, List.any_eq_true, Bool.and_eq_true, decide_eq_true_eq]
  constructor
  · rintro ⟨c, hc, howner, e, he, ⟨hkey, hkind⟩, hobject⟩
    refine ⟨c.key, e.val, ?_, ?_, hkind, hobject⟩
    · rw [← howner]
      exact RowTable.get?_of_mem hc
    · rw [← hkey]
      exact RowTable.get?_of_mem he
  · rintro ⟨event_id, event, hclaim, hevent, hkind, hobject⟩
    obtain ⟨c, hc, rfl, hcv⟩ := RowTable.get?_eq_some_iff.mp hclaim
    obtain ⟨e, he, hek, rfl⟩ := RowTable.get?_eq_some_iff.mp hevent
    exact ⟨c, hc, hcv, e, he, ⟨hek, hkind⟩, hobject⟩

theorem generation_sql_eq_ok {s : EvidenceStore} {generation_sql : Int}
    (h : s.generation_sql = .ok generation_sql) : generation_sql = s.cache_generation :=
  (sql_i64_eq_ok.mp h).1

/-- The row behind an answer of `find_source_graph_by_digest`. -/
theorem find_source_graph_at_eq_some {s : EvidenceStore} {plan : Nat} {generation_sql : Int}
    {query_digest response_digest graph_digest : String} {graph : QueryEvidenceGraphV2}
    (h : s.find_source_graph_at plan generation_sql query_digest response_digest graph_digest =
      .ok (some graph)) :
    ∃ row ∈ s.source_rows generation_sql query_digest response_digest graph_digest,
      row.val.graph_json.reread = .ok graph := by
  unfold find_source_graph_at at h
  split at h
  · cases h
  · rename_i row hrow
    obtain ⟨found, hdecode, h⟩ := bind_eq_ok.mp h
    obtain rfl := Option.some.inj (Except.ok.inj h)
    exact ⟨row, limit_one_eq_some hrow, decode_graph_eq_ok.mp hdecode⟩

/-- The row behind an answer of `find_latest_cache_source_graph`. -/
theorem find_latest_cache_source_at_eq_some {s : EvidenceStore} {generation_sql : Int}
    {query_digest cache_object_digest graph_digest : String} {graph : QueryEvidenceGraphV2}
    (h : s.find_latest_cache_source_at generation_sql query_digest cache_object_digest =
      .ok (some (graph, graph_digest))) :
    ∃ row ∈ s.cache_source_rows generation_sql query_digest cache_object_digest,
      row.val.graph_json.reread = .ok graph := by
  unfold find_latest_cache_source_at at h
  split at h
  · cases h
  · rename_i row hrow
    obtain ⟨found, hdecode, h⟩ := bind_eq_ok.mp h
    obtain ⟨rfl, _⟩ := Prod.mk.inj (Option.some.inj (Except.ok.inj h))
    exact ⟨row, List.mem_of_getLast? hrow, decode_graph_eq_ok.mp hdecode⟩

/-- The row behind an answer of `find_cache_source_graph_by_digest`. -/
theorem find_cache_source_at_eq_some {s : EvidenceStore} {plan : Nat} {generation_sql : Int}
    {query_digest cache_object_digest graph_digest : String} {graph : QueryEvidenceGraphV2}
    (h : s.find_cache_source_at plan generation_sql query_digest cache_object_digest
      graph_digest = .ok (some graph)) :
    ∃ row ∈ s.cache_source_rows generation_sql query_digest cache_object_digest,
      row.val.graph_json.reread = .ok graph := by
  unfold find_cache_source_at at h
  split at h
  · cases h
  · rename_i row hrow
    obtain ⟨found, hdecode, h⟩ := bind_eq_ok.mp h
    obtain rfl := Option.some.inj (Except.ok.inj h)
    exact ⟨row, (List.mem_filter.mp (limit_one_eq_some hrow)).1, decode_graph_eq_ok.mp hdecode⟩

end EvidenceStore

end ResolverIdentity.Store
