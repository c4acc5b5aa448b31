/-
  ResolverIdentity.Store.Tables: the tables of the evidence store.

  The schema of `ri-store/src/lib.rs` as one value.  A JSON column holds the
  object it encodes, and columns that repeat a field of that object are the
  field.  `ri_v2_meta` is a record with one member per key the code writes.
  The timestamp columns filled in by SQLite have no reader here and are left out.

  Every connection of the store runs one statement or one immediate transaction
  at a time, so each definition of this directory is one atomic step.
-/
import ResolverIdentity.Core.Endpoint
import ResolverIdentity.Core.Integer
import ResolverIdentity.Library.RowTable

namespace ResolverIdentity.Store

open Library

/-! ## §1. Rows. -/

/-- The errors of the store. -/
inductive StoreError where
  | database (text : String)
  | serialization (text : String)
  | invalidData (text : String)
  | core (error : EvidenceValidationError)
  deriving DecidableEq

/-- The `Display` texts of the errors. -/
def StoreError.text : StoreError → String
  | .database text => "database error: " ++ text
  | .serialization text => "serialization error: " ++ text
  | .invalidData text => "invalid data: " ++ text
  | .core error => "core validation error: " ++ error.text

/-- The keys of `ri_v2_meta`; an absent key is `none`. -/
structure Meta where
  cache_generation : Nat
  registry_last_success_epoch : Int
  registry_finalized_block : Option Nat
  registry_finalized_block_hash : Option String
  registry_chain_adapter : Option String
  registry_chain_identity : Option String
  registry_locator : Option String
  registry_schema_hash : Option String
  deriving DecidableEq

/-- A row of `ri_v2_identities`. -/
structure IdentityRow where
  identity_json : DnsServerIdentityV2
  identity_hash : String
  object_version : Int
  status : String
  valid_until : Int
  registry_json : RegistryReferenceV2
  snapshot_generation : Int

/-- A row of `ri_v2_query_contexts`. -/
structure QueryContext where
  correlation_id : String
  query_digest : String
  min_event_rowid : Nat
  registered_at : Int
  expires_at : Int
  consumed_event_id : Option String
  deriving DecidableEq

/-- A row of `ri_v2_evidence_graphs`. -/
structure GraphRow where
  query_digest : String
  response_digest : String
  graph_json : QueryEvidenceGraphV2
  graph_digest : String
  expires_at : Int
  snapshot_generation : Int

/-- A row of `ri_v2_registry_snapshot`, keyed by `registry-v2:<server_id>`. -/
abbrev SnapshotRow := RegistryReferenceV2

/-- The tables of the evidence database. -/
structure EvidenceStore where
  ri_v2_meta : Meta
  ri_v2_identities : RowTable String IdentityRow
  ri_v2_endpoint_lookup : RowTable String String
  ri_v2_trace_events : RowTable String TraceEventV2
  ri_v2_query_contexts : RowTable String QueryContext
  ri_v2_trace_event_claims : RowTable String String
  ri_v2_evidence_graphs : RowTable String GraphRow
  ri_v2_registry_snapshot : RowTable String SnapshotRow

/-- A freshly opened store. -/
def EvidenceStore.open_ : EvidenceStore where
  ri_v2_meta :=
    { cache_generation := 0, registry_last_success_epoch := 0
      registry_finalized_block := none, registry_finalized_block_hash := none
      registry_chain_adapter := none, registry_chain_identity := none
      registry_locator := none, registry_schema_hash := none }
  ri_v2_identities := .empty
  ri_v2_endpoint_lookup := .empty
  ri_v2_trace_events := .empty
  ri_v2_query_contexts := .empty
  ri_v2_trace_event_claims := .empty
  ri_v2_evidence_graphs := .empty
  ri_v2_registry_snapshot := .empty

/-! ## §2. Shared conversions. -/

/-- `serde_json::from_str` of a stored reference. -/
def decode_reference (stored : RegistryReferenceV2) : Except StoreError RegistryReferenceV2 :=
  stored.reread.mapError .serialization

/-- `serde_json::from_str` of a stored graph. -/
def decode_graph (stored : QueryEvidenceGraphV2) : Except StoreError QueryEvidenceGraphV2 :=
  stored.reread.mapError .serialization

/-- A number as SQLite keeps it. -/
def sql_i64 (value : Nat) (field : String) : Except StoreError Int :=
  okOr (i64_try_from value) (.invalidData (field ++ " exceeds SQLite INTEGER range"))

/-- A number that fits is kept as it is. -/
theorem sql_i64_eq_ok {value : Nat} {field : String} {i : Int} :
    sql_i64 value field = .ok i ↔ i = value ∧ (value : Int) ≤ I64_MAX := by
  unfold sql_i64
  rw [okOr_eq_ok, i64_try_from_eq_some]

/-- The EVM columns of `ri_v2_registry_snapshot`. -/
def legacy_evm_columns (reference : RegistryReferenceV2) :
    Except StoreError (Int × String × String) :=
  match reference.adapter_metadata with
  | .evm chain_id contract_address runtime_code_hash => do
    let chain_id ← sql_i64 chain_id "evm_chain_id"
    .ok (chain_id, contract_address, runtime_code_hash)
  | .norn .. | .external .. => .ok (0, "", "")

/-! ## §3. The cache generation. -/

namespace EvidenceStore

/-- The generation the store is at. -/
def cache_generation (s : EvidenceStore) : Nat := s.ri_v2_meta.cache_generation

/-- A new generation drops every stored graph. -/
def bump_generation_to (generation : Nat) (s : EvidenceStore) : EvidenceStore :=
  if generation ≤ s.cache_generation then s
  else { s with
    ri_v2_meta := { s.ri_v2_meta with cache_generation := generation }
    ri_v2_evidence_graphs := .empty }

/-- The next generation, which is also returned. -/
def bump_generation (s : EvidenceStore) : Nat × EvidenceStore :=
  let next := u64_succ s.cache_generation
  (next, s.bump_generation_to next)

/-- A bump raises the generation and empties the graph table, or the generation
already was the largest one. -/
theorem bump_generation_cases (s : EvidenceStore) :
    (s.cache_generation < U64_MAX ∧ s.bump_generation.2 = { s with
        ri_v2_meta := { s.ri_v2_meta with cache_generation := s.cache_generation + 1 }
        ri_v2_evidence_graphs := .empty }) ∨
      (U64_MAX ≤ s.cache_generation ∧ s.bump_generation.2 = s) := by
  unfold bump_generation bump_generation_to
  by_cases h : s.cache_generation < U64_MAX
  · left
    simp only [u64_succ_of_lt h]
    rw [if_neg (by omega)]
    exact ⟨h, rfl⟩
  · right
    have hle : u64_succ s.cache_generation ≤ s.cache_generation := by
      unfold u64_succ
      omega
    simp only [if_pos hle]
    exact ⟨by omega, trivial⟩

end EvidenceStore

end ResolverIdentity.Store
