/-
  ResolverIdentity.Store.Identities: identities and Registry snapshots.

  `put_identity`, `quarantine_identity`, `get_identity`, `lookup_identity` and
  `apply_registry_snapshot` of `ri-store/src/lib.rs`, statement by statement.
  `quarantine_identity` reads the record on one connection and writes it back
  in a transaction of its own, so it is two steps here as well.
-/
import ResolverIdentity.Store.Tables

namespace ResolverIdentity.Store

open Library RegistryReferenceV2

namespace EvidenceStore

variable (P : Platform)

/-! ## §1. Reads. -/

/-- A stored identity with its reference, as every reader decodes it. -/
abbrev IdentityRecord := DnsServerIdentityV2 × RegistryReferenceV2

/-- The record of a server, if its columns can be read. -/
def get_identity (s : EvidenceStore) (server_id : String) :
    Except StoreError (Option IdentityRecord) :=
  match s.ri_v2_identities.get? server_id with
  | none => .ok none
  | some row => do
    let registry ← decode_reference row.registry_json
    .ok (some (row.identity_json, registry))

/-- The lookup runs on two connections; `lookup_server_id` is the first. -/
def lookup_server_id (s : EvidenceStore) (endpoint : DnsEndpoint) :
    Except StoreError (Option String) := do
  let key ← (P.cache_key endpoint).mapError .core
  .ok (s.ri_v2_endpoint_lookup.get? key)

/-- `SELECT server_id FROM ri_v2_identities ORDER BY server_id`. -/
def rows_by_server_id (s : EvidenceStore) : List (Row String IdentityRow) :=
  s.ri_v2_identities.rows.insertionSort (fun a b => a.key ≤ b.key)

/-- The ids in the order of the index. -/
def identity_ids (s : EvidenceStore) : List String := s.rows_by_server_id.map Row.key

/-! ## §2. Writes of one identity. -/

/-- The row `put_identity` and `apply_registry_snapshot` write. -/
def identity_row (identity : DnsServerIdentityV2) (registry : RegistryReferenceV2)
    (identity_hash : String) : Except StoreError IdentityRow := do
  let object_version ← sql_i64 identity.object_version "object_version"
  let snapshot_generation ← sql_i64 registry.snapshot_generation "snapshot_generation"
  .ok { identity_json := identity, identity_hash, object_version, status := identity.status
        valid_until := identity.valid_until, registry_json := registry, snapshot_generation }

/-- Insert each endpoint of an identity; the key must not belong to another one. -/
def insert_endpoints (server_id : String) : List DnsEndpoint → EvidenceStore →
    Except StoreError EvidenceStore
  | [], s => .ok s
  | endpoint :: rest, s => do
    let key ← (P.cache_key endpoint).mapError .core
    let lookup ← okOr (s.ri_v2_endpoint_lookup.insert? key server_id)
      (.database "UNIQUE constraint failed: ri_v2_endpoint_lookup.endpoint_key")
    insert_endpoints server_id rest { s with ri_v2_endpoint_lookup := lookup }

/-- `DELETE FROM ri_v2_endpoint_lookup WHERE server_id=?`. -/
def delete_endpoints (s : EvidenceStore) (server_id : String) : EvidenceStore :=
  { s with ri_v2_endpoint_lookup :=
      s.ri_v2_endpoint_lookup.deleteWhere (fun _ owner => owner = server_id) }

/-- The stored record is the given one up to its checkpoint. -/
def stored_unchanged (s : EvidenceStore) (identity : DnsServerIdentityV2)
    (registry : RegistryReferenceV2) : Except StoreError Bool :=
  match s.ri_v2_identities.get? identity.server_id with
  | none => .ok false
  | some row =>
    if row.identity_json = identity then do
      let current_registry ← decode_reference row.registry_json
      .ok (same_registry_state current_registry registry)
    else .ok false

/-- One record; where only its reference changed, the row stays as it is otherwise. -/
def put_identity_body (identity : DnsServerIdentityV2) (registry : RegistryReferenceV2) :
    Body EvidenceStore StoreError Unit := fun s => do
  rejectIf (registry.object_version != identity.object_version)
    (.invalidData "identity and registry object_version differ")
  let identity_hash := P.object_hash identity.to_value
  let row ← identity_row identity registry identity_hash
  rejectIf (identity_hash != registry.object_hash)
    (.invalidData "identity hash does not match registry reference")
  let unchanged ← s.stored_unchanged identity registry
  if unchanged then
    .ok ((), { s with
      ri_v2_identities := s.ri_v2_identities.update identity.server_id
        (fun current => { current with
          registry_json := registry, snapshot_generation := row.snapshot_generation }) })
  else do
    let s := { s with ri_v2_identities := s.ri_v2_identities.upsert identity.server_id row }
    let s := s.delete_endpoints identity.server_id
    let s ← insert_endpoints P identity.server_id identity.endpoints s
    .ok ((), s.bump_generation.2)

/-- `put_identity`, in a transaction. -/
def put_identity (identity : DnsServerIdentityV2) (registry : RegistryReferenceV2)
    (s : EvidenceStore) : Except StoreError Unit × EvidenceStore :=
  transaction (put_identity_body P identity registry) s

/-- The transaction of `quarantine_identity`, for the record read before it. -/
def quarantine_record (record : IdentityRecord) (status : String) (s : EvidenceStore) :
    Except StoreError Bool × EvidenceStore :=
  if record.2.resolver_status = status then (.ok false, s)
  else
    let registry := { record.2 with resolver_status := status }
    let s := { s with
      ri_v2_identities := s.ri_v2_identities.update record.1.server_id
        (fun row => { row with status := status, registry_json := registry }) }
    let s := s.delete_endpoints record.1.server_id
    (.ok true, s.bump_generation.2)

/-! ## §3. Registry snapshots: the checks before the writes. -/

/-- The fields every record of one snapshot shares. -/
def same_deployment (first reference : RegistryReferenceV2) : Bool :=
  reference.chain_adapter = first.chain_adapter &&
  reference.chain_identity = first.chain_identity &&
  reference.registry_locator = first.registry_locator &&
  reference.registry_schema_hash = first.registry_schema_hash &&
  reference.adapter_metadata = first.adapter_metadata &&
  reference.checkpoint_height = first.checkpoint_height &&
  reference.checkpoint_hash = first.checkpoint_hash &&
  reference.finality_type = first.finality_type &&
  reference.snapshot_generation = first.snapshot_generation &&
  reference.state_root = first.state_root

/-- Collect the endpoint keys of an identity, refusing one seen before. -/
def configure_endpoints : List DnsEndpoint → List String → Except StoreError (List String)
  | [], configured_endpoints => .ok configured_endpoints
  | endpoint :: rest, configured_endpoints => do
    let endpoint_key ← (P.cache_key endpoint).mapError .core
    rejectIf (configured_endpoints.contains endpoint_key)
      (.invalidData ("duplicate Registry endpoint " ++ endpoint_key))
    configure_endpoints rest (endpoint_key :: configured_endpoints)

/-- The validation loop over the records; it returns the configured ids. -/
def check_records (first : RegistryReferenceV2) : List IdentityRecord → List String →
    List String → Except StoreError (List String)
  | [], configured_ids, _ => .ok configured_ids
  | (identity, reference) :: rest, configured_ids, configured_endpoints => do
    rejectIf (reference.object_version != identity.object_version ||
        reference.object_hash != P.object_hash identity.to_value ||
        !same_deployment first reference)
      (.invalidData "Registry snapshot records are inconsistent")
    rejectIf (configured_ids.contains identity.server_id)
      (.invalidData ("duplicate Registry identity " ++ identity.server_id))
    let configured_endpoints ← configure_endpoints P identity.endpoints configured_endpoints
    check_records first rest (identity.server_id :: configured_ids) configured_endpoints

/-- `SELECT registry_json FROM ri_v2_identities ORDER BY server_id LIMIT 1`, decoded. -/
def existing_reference (s : EvidenceStore) : Except StoreError (Option RegistryReferenceV2) :=
  match s.rows_by_server_id.head? with
  | none => .ok none
  | some row => do
    let reference ← decode_reference row.val.registry_json
    .ok (some reference)

/-- The stored target must be the one the snapshot names. -/
def target_changed (existing first : RegistryReferenceV2) : Bool :=
  existing.chain_adapter != first.chain_adapter ||
  existing.adapter_metadata != first.adapter_metadata ||
  (!existing.chain_identity.isEmpty && existing.chain_identity != first.chain_identity) ||
  (!existing.registry_locator.isEmpty && existing.registry_locator != first.registry_locator) ||
  (!existing.registry_schema_hash.isEmpty &&
    existing.registry_schema_hash != first.registry_schema_hash)

/-- The source generation may not go back, nor its state root change. -/
def check_generation (existing first : RegistryReferenceV2) : Except StoreError Unit := do
  rejectIf (first.snapshot_generation < existing.snapshot_generation)
    (.invalidData ("Registry source generation rollback: stored " ++
      toString existing.snapshot_generation ++ ", received " ++
      toString first.snapshot_generation))
  rejectIf (first.snapshot_generation == existing.snapshot_generation &&
      first.state_root != existing.state_root)
    (.invalidData "Registry state root changed at the stored source generation")

/-- A pinned value does not change. -/
def check_meta_key (key : String) (stored : Option String) (expected : String) :
    Except StoreError Unit :=
  rejectIf (stored.any (fun value => value != expected))
    (.invalidData ("Registry target changed for " ++ key ++ "; use a new database"))

/-- The snapshot is of the Registry that is followed. -/
def check_meta (m : Meta) (first : RegistryReferenceV2) : Except StoreError Unit := do
  check_meta_key "registry_chain_adapter" m.registry_chain_adapter first.chain_adapter
  check_meta_key "registry_chain_identity" m.registry_chain_identity first.chain_identity
  check_meta_key "registry_locator" m.registry_locator first.registry_locator
  check_meta_key "registry_schema_hash" m.registry_schema_hash first.registry_schema_hash

/-- The checkpoint of the last snapshot. -/
structure RegistryCheckpoint where
  finalized_block : Nat
  finalized_block_hash : String
  deriving DecidableEq

/-- The stored checkpoint: both halves of it or neither. -/
def registry_checkpoint_from (m : Meta) : Except StoreError (Option RegistryCheckpoint) :=
  match m.registry_finalized_block, m.registry_finalized_block_hash with
  | none, none => .ok none
  | some block, some hash => .ok (some ⟨block, hash⟩)
  | _, _ => .error (.invalidData "Registry checkpoint is incomplete")

/-- A snapshot does not go back, and a height has one hash. -/
def check_checkpoint (checkpoint : Option RegistryCheckpoint) (first : RegistryReferenceV2) :
    Except StoreError Unit :=
  match checkpoint with
  | none => .ok ()
  | some checkpoint => do
    rejectIf (first.checkpoint_height < checkpoint.finalized_block)
      (.invalidData ("finalized block rollback: stored " ++ toString checkpoint.finalized_block ++
        ", received " ++ toString first.checkpoint_height))
    rejectIf (first.checkpoint_height == checkpoint.finalized_block &&
        first.checkpoint_hash != checkpoint.finalized_block_hash)
      (.invalidData "finalized block hash changed at the stored height")

/-! ## §4. Registry snapshots: the writes. -/

/-- Mark one dropped identity; its row stays, with status `REMOVED`. -/
def mark_removed (server_id : String) (acc : EvidenceStore × Bool) :
    Except StoreError (EvidenceStore × Bool) :=
  match acc.1.ri_v2_identities.get? server_id with
  | none => .ok acc
  | some row => do
    let reference ← decode_reference row.registry_json
    if reference.resolver_status != "REMOVED" then
      .ok ({ acc.1 with
        ri_v2_identities := acc.1.ri_v2_identities.update server_id
          (fun row => { row with
            status := "REMOVED", registry_json := { reference with resolver_status := "REMOVED" } }) },
        true)
    else .ok acc

/-- One dropped identity: its row, its endpoints and its snapshot row. -/
def remove_identity (server_id : String) (acc : EvidenceStore × Bool) :
    Except StoreError (EvidenceStore × Bool) := do
  let (s, semantic_change) ← mark_removed server_id acc
  let s := s.delete_endpoints server_id
  .ok ({ s with
    ri_v2_registry_snapshot := s.ri_v2_registry_snapshot.delete ("registry-v2:" ++ server_id) },
    semantic_change)

/-- The loop over the stored ids that the snapshot no longer configures. -/
def remove_missing (configured_ids : List String) : List String → EvidenceStore × Bool →
    Except StoreError (EvidenceStore × Bool)
  | [], acc => .ok acc
  | server_id :: rest, acc =>
    if configured_ids.contains server_id then remove_missing configured_ids rest acc
    else do
      let acc ← remove_identity server_id acc
      remove_missing configured_ids rest acc

/-- The stored record is the snapshot's; an unreadable reference is a change. -/
def same_semantics (s : EvidenceStore) (record : IdentityRecord) : Bool :=
  match s.ri_v2_identities.get? record.1.server_id with
  | none => false
  | some row =>
    match decode_reference row.registry_json with
    | .error _ => false
    | .ok current_registry =>
      row.identity_json = record.1 && same_registry_state current_registry record.2

/-- Write one record of the snapshot. -/
def write_record (record : IdentityRecord) (acc : EvidenceStore × Bool) :
    Except StoreError (EvidenceStore × Bool) := do
  let (identity, reference) := record
  let _ ← legacy_evm_columns reference
  let semantic_change := acc.2 || !same_semantics acc.1 record
  let row ← identity_row identity reference reference.object_hash
  let s := { acc.1 with ri_v2_identities :=
    acc.1.ri_v2_identities.upsert identity.server_id row }
  let s := s.delete_endpoints identity.server_id
  let s ← insert_endpoints P identity.server_id identity.endpoints s
  let _ ← sql_i64 reference.checkpoint_height "checkpoint_height"
  .ok ({ s with ri_v2_registry_snapshot :=
    s.ri_v2_registry_snapshot.upsert ("registry-v2:" ++ identity.server_id) reference },
    semantic_change)

/-- The loop over the records of the snapshot. -/
def write_records : List IdentityRecord → EvidenceStore × Bool →
    Except StoreError (EvidenceStore × Bool)
  | [], acc => .ok acc
  | record :: rest, acc => do
    let acc ← write_record P record acc
    write_records rest acc

/-- The `set_meta` calls at the end of the transaction. -/
def set_snapshot_meta (first : RegistryReferenceV2) (success_epoch : Int) (m : Meta) : Meta :=
  { m with
    registry_finalized_block := some first.checkpoint_height
    registry_finalized_block_hash := some first.checkpoint_hash
    registry_last_success_epoch := success_epoch
    registry_chain_adapter := some first.chain_adapter
    registry_chain_identity := some first.chain_identity
    registry_locator := some first.registry_locator
    registry_schema_hash := some first.registry_schema_hash }

/-- The checks against the first stored record, if there is one. -/
def check_existing (existing_reference : Option RegistryReferenceV2)
    (first : RegistryReferenceV2) : Except StoreError Unit :=
  match existing_reference with
  | none => .ok ()
  | some existing => do
    rejectIf (target_changed existing first)
      (.invalidData "Registry target changed; use a new database")
    check_generation existing first

/-- Every check of `apply_registry_snapshot` that reads the store. -/
def check_snapshot (s : EvidenceStore) (first : RegistryReferenceV2) : Except StoreError Unit := do
  let existing_reference ← s.existing_reference
  check_existing existing_reference first
  check_meta s.ri_v2_meta first
  let checkpoint ← registry_checkpoint_from s.ri_v2_meta
  check_checkpoint checkpoint first

/-- All records of a snapshot, and the metadata. -/
def apply_registry_snapshot_body (records : List IdentityRecord) (success_epoch : Int) :
    Body EvidenceStore StoreError Nat := fun s =>
  match records with
  | [] => .error (.invalidData "Registry snapshot must contain records and a valid timestamp")
  | (_, first) :: _ => do
    rejectIf (success_epoch ≤ 0)
      (.invalidData "Registry snapshot must contain records and a valid timestamp")
    let configured_ids ← check_records P first records [] []
    s.check_snapshot first
    let acc ← remove_missing configured_ids s.identity_ids (s, false)
    let (s, semantic_change) ← write_records P records acc
    let (generation, s) := if semantic_change then s.bump_generation else (s.cache_generation, s)
    .ok (generation, { s with
      ri_v2_meta := set_snapshot_meta first success_epoch s.ri_v2_meta })

/-- `apply_registry_snapshot`, in a transaction. -/
def apply_registry_snapshot (records : List IdentityRecord) (success_epoch : Int)
    (s : EvidenceStore) : Except StoreError Nat × EvidenceStore :=
  transaction (apply_registry_snapshot_body P records success_epoch) s

/-- `invalidate_all`. -/
def invalidate_all (s : EvidenceStore) : Nat × EvidenceStore :=
  let (generation, s) := s.bump_generation
  (generation, { s with ri_v2_evidence_graphs := .empty })

/-! ## §5. What the writes leave. -/

/-- The source generation and state root a stored record was taken from. -/
def stamp (reference : RegistryReferenceV2) : Nat × String :=
  (reference.snapshot_generation, reference.state_root)

theorem reread_stamp {reference reference' : RegistryReferenceV2}
    (h : reference.reread = .ok reference') : stamp reference' = stamp reference := by
  unfold reread deserialize at h
  obtain ⟨_, _, h⟩ := bind_eq_ok.mp h
  obtain ⟨metadata, _, h⟩ := bind_eq_ok.mp h
  obtain ⟨finality, _, h⟩ := bind_eq_ok.mp h
  obtain ⟨_, _, h⟩ := bind_eq_ok.mp h
  obtain rfl := Except.ok.inj h
  rfl

theorem decode_reference_eq_ok {stored reference : RegistryReferenceV2} :
    decode_reference stored = .ok reference ↔ stored.reread = .ok reference :=
  mapError_eq_ok

/-- What marking a dropped identity does: nothing, or its row is rewritten. -/
theorem mark_removed_cases {server_id : String} {acc acc' : EvidenceStore × Bool}
    (h : mark_removed server_id acc = .ok acc') :
    acc' = acc ∨ ∃ row reference, acc.1.ri_v2_identities.get? server_id = some row ∧
      row.registry_json.reread = .ok reference ∧
      acc' = ({ acc.1 with
        ri_v2_identities := acc.1.ri_v2_identities.update server_id
          (fun row => { row with
            status := "REMOVED", registry_json := { reference with resolver_status := "REMOVED" } }) },
        true) := by
  unfold mark_removed at h
  cases hget : acc.1.ri_v2_identities.get? server_id with
  | none =>
    rw [hget] at h
    exact Or.inl (Except.ok.inj h).symm
  | some row =>
    rw [hget] at h
    obtain ⟨reference, hdecode, h⟩ := bind_eq_ok.mp h
    split at h
    case isFalse => exact Or.inl (Except.ok.inj h).symm
    case isTrue =>
      exact Or.inr ⟨row, reference, rfl, decode_reference_eq_ok.mp hdecode,
        (Except.ok.inj h).symm⟩

/-- A dropped identity keeps the stamp of its row: only the status is rewritten. -/
theorem remove_identity_stamps {server_id : String} {acc acc' : EvidenceStore × Bool}
    (h : remove_identity server_id acc = .ok acc') :
    ∀ row' ∈ acc'.1.ri_v2_identities.rows, ∃ row ∈ acc.1.ri_v2_identities.rows,
      stamp row'.val.registry_json = stamp row.val.registry_json := by
  unfold remove_identity at h
  obtain ⟨mid, hmid, h⟩ := bind_eq_ok.mp h
  obtain rfl := Except.ok.inj h
  intro row' hrow'
  rcases mark_removed_cases hmid with rfl | ⟨row, reference, hget, hread, rfl⟩
  · exact ⟨row', hrow', rfl⟩
  · obtain ⟨row₀, hrow₀, rfl⟩ := RowTable.mem_mapVals.mp hrow'
    refine ⟨row₀, hrow₀, ?_⟩
    by_cases hkey : row₀.key = server_id
    · -- the rewritten row is the one the loop decoded
      have hval : row₀.val = row := by
        have hself := RowTable.get?_of_mem hrow₀
        rw [hkey, hget] at hself
        exact (Option.some.inj hself).symm
      simp only [hkey, if_true, hval]
      show stamp reference = stamp row.registry_json
      exact reread_stamp hread
    · simp only [if_neg hkey]

theorem remove_missing_stamps {configured_ids : List String} {ids : List String} :
    ∀ {acc acc' : EvidenceStore × Bool}, remove_missing configured_ids ids acc = .ok acc' →
      ∀ row' ∈ acc'.1.ri_v2_identities.rows, ∃ row ∈ acc.1.ri_v2_identities.rows,
        stamp row'.val.registry_json = stamp row.val.registry_json := by
  induction ids with
  | nil =>
    intro acc acc' h row' hrow'
    obtain rfl := Except.ok.inj h
    exact ⟨row', hrow', rfl⟩
  | cons server_id rest ih =>
    intro acc acc' h row' hrow'
    rw [remove_missing] at h
    split at h
    case isTrue => exact ih h row' hrow'
    case isFalse =>
      obtain ⟨mid, hmid, h⟩ := bind_eq_ok.mp h
      obtain ⟨row₁, hrow₁, heq₁⟩ := ih h row' hrow'
      obtain ⟨row, hrow, heq⟩ := remove_identity_stamps hmid row₁ hrow₁
      exact ⟨row, hrow, heq₁.trans heq⟩

variable {P}

theorem insert_endpoints_identities {server_id : String} {endpoints : List DnsEndpoint} :
    ∀ {s s' : EvidenceStore}, insert_endpoints P server_id endpoints s = .ok s' →
      s' = { s with ri_v2_endpoint_lookup := s'.ri_v2_endpoint_lookup } := by
  induction endpoints with
  | nil =>
    intro s s' h
    obtain rfl := Except.ok.inj h
    rfl
  | cons endpoint rest ih =>
    intro s s' h
    rw [insert_endpoints] at h
    obtain ⟨key, _, h⟩ := bind_eq_ok.mp h
    obtain ⟨lookup, _, h⟩ := bind_eq_ok.mp h
    rw [ih h]

/-- What writing one record leaves of the other tables, and the row it wrote. -/
theorem write_record_eq_ok {record : IdentityRecord} {acc acc' : EvidenceStore × Bool}
    (h : write_record P record acc = .ok acc') :
    acc'.2 = (acc.2 || !same_semantics acc.1 record) ∧
    acc'.1.ri_v2_meta = acc.1.ri_v2_meta ∧
    acc'.1.ri_v2_evidence_graphs = acc.1.ri_v2_evidence_graphs ∧
    ∃ row, row.identity_json = record.1 ∧ row.registry_json = record.2 ∧
      acc'.1.ri_v2_identities = acc.1.ri_v2_identities.upsert record.1.server_id row := by
  unfold write_record at h
  obtain ⟨columns, _, h⟩ := bind_eq_ok.mp h
  obtain ⟨row, hrow, h⟩ := bind_eq_ok.mp h
  obtain ⟨s, hs, h⟩ := bind_eq_ok.mp h
  obtain ⟨height, _, h⟩ := bind_eq_ok.mp h
  obtain rfl := Except.ok.inj h
  have hins := insert_endpoints_identities hs
  refine ⟨rfl, ?_, ?_, row, ?_⟩
  · rw [hins]
    rfl
  · rw [hins]
    rfl
  · unfold identity_row at hrow
    obtain ⟨version, _, hrow⟩ := bind_eq_ok.mp hrow
    obtain ⟨generation, _, hrow⟩ := bind_eq_ok.mp hrow
    obtain rfl := Except.ok.inj hrow
    refine ⟨rfl, rfl, ?_⟩
    rw [hins]
    rfl

/-- After the write loop a row carries the stamp of the snapshot or an old one,
and some row carries the snapshot's. -/
theorem write_records_stamps {σ : Nat × String} {records : List IdentityRecord} :
    ∀ {acc acc' : EvidenceStore × Bool}, (∀ record ∈ records, stamp record.2 = σ) →
      write_records P records acc = .ok acc' →
      (∀ row' ∈ acc'.1.ri_v2_identities.rows, stamp row'.val.registry_json = σ ∨
        ∃ row ∈ acc.1.ri_v2_identities.rows,
          stamp row'.val.registry_json = stamp row.val.registry_json) ∧
      (records ≠ [] → ∃ row' ∈ acc'.1.ri_v2_identities.rows, stamp row'.val.registry_json = σ) := by
  induction records with
  | nil =>
    intro acc acc' _ h
    obtain rfl := Except.ok.inj h
    exact ⟨fun row' hrow' => Or.inr ⟨row', hrow', rfl⟩, fun hne => absurd rfl hne⟩
  | cons record rest ih =>
    intro acc acc' hσ h
    rw [write_records] at h
    obtain ⟨mid, hmid, h⟩ := bind_eq_ok.mp h
    obtain ⟨_, _, _, row, _, hreg, hids⟩ := write_record_eq_ok hmid
    have hrecord : stamp row.registry_json = σ := by
      rw [hreg]
      exact hσ record List.mem_cons_self
    obtain ⟨hrows, hsome⟩ := ih (fun r hr => hσ r (List.mem_cons_of_mem _ hr)) h
    constructor
    · intro row' hrow'
      rcases hrows row' hrow' with hstamp | ⟨row₁, hrow₁, heq⟩
      · exact Or.inl hstamp
      · rw [hids] at hrow₁
        rcases RowTable.mem_upsert hrow₁ with ⟨_, hval⟩ | ⟨hold, _⟩
        · left
          rw [heq, hval, hrecord]
        · exact Or.inr ⟨row₁, hold, heq⟩
    · intro _
      cases rest with
      | nil =>
        obtain rfl := Except.ok.inj h
        have hget : mid.1.ri_v2_identities.get? record.1.server_id = some row := by
          rw [hids]
          simp
        obtain ⟨row', hrow', _, hval⟩ := RowTable.get?_eq_some_iff.mp hget
        exact ⟨row', hrow', by rw [hval, hrecord]⟩
      | cons next rest => exact hsome (List.cons_ne_nil _ _)

theorem check_records_same_deployment {first : RegistryReferenceV2}
    {records : List IdentityRecord} :
    ∀ {ids endpoints ids' : List String},
      check_records P first records ids endpoints = .ok ids' →
      ∀ record ∈ records, same_deployment first record.2 = true := by
  induction records with
  | nil => intro ids endpoints ids' _ record hrecord; cases hrecord
  | cons head rest ih =>
    intro ids endpoints ids' h record hrecord
    rw [check_records] at h
    obtain ⟨_, hcheck, h⟩ := bind_eq_ok.mp h
    obtain ⟨_, _, h⟩ := bind_eq_ok.mp h
    obtain ⟨_, _, h⟩ := bind_eq_ok.mp h
    rcases List.mem_cons.mp hrecord with rfl | hrecord
    · simp only [rejectIf_eq_ok, Bool.or_eq_false_iff, Bool.not_eq_false'] at hcheck
      exact hcheck.2
    · exact ih h record hrecord

/-- A call that is accepted passed every check and went through both loops. -/
theorem apply_registry_snapshot_eq_ok {records : List IdentityRecord} {success_epoch : Int}
    {s s' : EvidenceStore} {generation : Nat}
    (h : apply_registry_snapshot P records success_epoch s = (.ok generation, s')) :
    ∃ identity first rest ids acc s₁ change,
      records = (identity, first) :: rest ∧
      check_records P first records [] [] = .ok ids ∧
      s.check_snapshot first = .ok () ∧
      remove_missing ids s.identity_ids (s, false) = .ok acc ∧
      write_records P records acc = .ok (s₁, change) ∧
      s' = { (if change then s₁.bump_generation.2 else s₁) with
        ri_v2_meta := set_snapshot_meta first success_epoch
          (if change then s₁.bump_generation.2 else s₁).ri_v2_meta } := by
  have h := transaction_eq_ok.mp h
  unfold apply_registry_snapshot_body at h
  match records, h with
  | (identity, first) :: rest, h =>
    obtain ⟨_, _, h⟩ := bind_eq_ok.mp h
    obtain ⟨ids, hids, h⟩ := bind_eq_ok.mp h
    obtain ⟨_, hcheck, h⟩ := bind_eq_ok.mp h
    obtain ⟨acc, hacc, h⟩ := bind_eq_ok.mp h
    obtain ⟨⟨s₁, change⟩, hwrite, h⟩ := bind_eq_ok.mp h
    refine ⟨identity, first, rest, ids, acc, s₁, change, rfl, hids, hcheck, hacc, hwrite, ?_⟩
    cases change with
    | false => exact (Prod.mk.inj (Except.ok.inj h)).2.symm
    | true => exact (Prod.mk.inj (Except.ok.inj h)).2.symm

end EvidenceStore

end ResolverIdentity.Store
