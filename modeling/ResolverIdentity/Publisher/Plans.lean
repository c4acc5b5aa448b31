/-
  ResolverIdentity.Publisher.Plans: publication plans and the snapshots made of them.

  `build_plan`, `build_norn_snapshot` and `validate_norn_snapshot_shape` of
  `tools/manage_v2_registry.py`, against the struct `NornRegistrySnapshotV1` and
  `snapshot_records` of `ri-chain-adapter/src/norn.rs`.

  Main results:
    * `built_of_build_plan`: the entries of a plan are those of its identities, ascending;
    * `read_snapshot_iff`: what the verifier reads of a written snapshot, and when;
    * `published_plan_accepted_iff`: a published plan is accepted, and exactly when.
-/
import ResolverIdentity.Publisher.Loading
import ResolverIdentity.Sync.Admission
import ResolverIdentity.V1.Merkle

namespace ResolverIdentity.Publisher

open Library Json Sync V1

/-! ## §1. Plans. -/

/-- What `normalize_plan_target` returns. -/
structure PlanTarget where
  chain_id : Int
  contract_address : String
  contract_code_hash : String
  deriving DecidableEq

/-- One identity of a publication plan. -/
structure PlanEntry where
  server_id : String
  resolver_id_key : String
  object_hash : String
  object_version : Int
  valid_until : Int
  status : String
  endpoint_keys : List String
  leaf_hash : String

/-- A binding to remove. -/
structure EndpointUnbind where
  server_id : String
  resolver_id_key : String
  endpoint_key : String

/-- A resolver to revoke. -/
structure ResolverRevocation where
  server_id : String
  resolver_id_key : String

/-- A plan as it is written to disk. -/
structure Plan where
  target : PlanTarget
  previous_plan_hash : Option String
  root_version : Int
  state_root : String
  entries : List PlanEntry
  endpoint_unbinds : List EndpointUnbind
  resolver_revocations : List ResolverRevocation
  plan_hash : String

/-- The members an entry has in the plan and in the snapshot. -/
def PlanEntry.members (self : PlanEntry) : List (String × Json) := [
  ("server_id", .string self.server_id), ("resolver_id_key", .string self.resolver_id_key),
  ("object_hash", .string self.object_hash), ("object_version", .number self.object_version),
  ("valid_until", .number self.valid_until), ("status", .string self.status),
  ("endpoint_keys", .array (self.endpoint_keys.map .string))]

/-- What `plan_hash` is made of. -/
def Plan.to_value (self : Plan) : Json := .object [
  ("schema_version", .string "registry-publication-plan-v2"),
  ("target", .object [("chain_id", .number self.target.chain_id),
    ("contract_address", .string self.target.contract_address),
    ("contract_code_hash", .string self.target.contract_code_hash)]),
  ("previous_plan_hash", (self.previous_plan_hash.map .string).getD .null),
  ("root_version", .number self.root_version), ("state_root", .string self.state_root),
  ("entries", .array (self.entries.map (fun entry =>
    .object (entry.members ++ [("leaf_hash", .string entry.leaf_hash)])))),
  ("endpoint_unbinds", .array (self.endpoint_unbinds.map (fun removal => .object [
    ("server_id", .string removal.server_id), ("resolver_id_key", .string removal.resolver_id_key),
    ("endpoint_key", .string removal.endpoint_key)]))),
  ("resolver_revocations", .array (self.resolver_revocations.map (fun removal => .object [
    ("server_id", .string removal.server_id),
    ("resolver_id_key", .string removal.resolver_id_key)])))]

/-- The order of `sorted` on texts. -/
abbrev text_le (a b : String) : Prop := a ≤ b

section Plans

variable (P : Platform) (C : Casing)

/-- `resolver_id_key` of the publisher. -/
def resolver_id_key (resolver_id : String) : String :=
  P.sha256_hex (as_bytes ("resolver-id:" ++ normalize_name P resolver_id))

/-- The entry of an identity. -/
def plan_entry (server_id : String) (identity : Json) : Except String PlanEntry := do
  let resolver_key := resolver_id_key P server_id
  let identity_hash := object_hash P identity
  let object_version ← okOr (identity.get "object_version") "KeyError: 'object_version'"
  let object_version ← int_of object_version
  let status ← okOr ((identity.get "status").bind Json.as_str)
    "AttributeError: object has no attribute 'upper'"
  let leaf := merkle_leaf P C resolver_key identity_hash object_version status
  let valid_until ← okOr (identity.get "valid_until") "KeyError: 'valid_until'"
  let valid_until ← int_of valid_until
  let endpoint_keys ← endpoint_keys P (dict_get identity "endpoints")
  .ok { server_id, resolver_id_key := resolver_key, object_hash := identity_hash, object_version
        valid_until, status, endpoint_keys, leaf_hash := leaf }

/-- `item["server_id"]`; whatever else it is, `sorted` or `resolver_id_key` refuses it. -/
def server_id_of (identity : Json) : Except String (String × Json) := do
  let server_id ← okOr ((identity.get "server_id").bind Json.as_str)
    "TypeError: '<' not supported between instances"
  .ok (server_id, identity)

/-- The entries as a dictionary. -/
def by_server_id (entries : List PlanEntry) : AList (fun _ : String => PlanEntry) :=
  entries.foldl (fun found entry => found.insert entry.server_id entry) ∅

/-- `sorted(set(previous["endpoint_keys"]) - current_endpoints)` -/
def removed_endpoints (previous : PlanEntry) (current : Option PlanEntry) : List String :=
  let current_endpoints := (current.map PlanEntry.endpoint_keys).getD []
  (previous.endpoint_keys.dedup.filter (fun key => !current_endpoints.contains key)).insertionSort
    text_le

/-- `sorted(previous_entries.items())` -/
def previous_items (previous_plan : Option Plan) : List PlanEntry :=
  ((by_server_id ((previous_plan.map Plan.entries).getD [])).entries.map Sigma.snd).insertionSort
    (fun a b => text_le a.server_id b.server_id)

/-- Endpoints that leave their identity. -/
def endpoint_unbinds (previous_plan : Option Plan) (entries : List PlanEntry) :
    List EndpointUnbind :=
  (previous_items previous_plan).flatMap (fun previous =>
    (removed_endpoints previous ((by_server_id entries).lookup previous.server_id)).map
      (fun endpoint_key =>
        { server_id := previous.server_id, resolver_id_key := previous.resolver_id_key
          endpoint_key }))

/-- Identities that leave the plan. -/
def resolver_revocations (previous_plan : Option Plan) (entries : List PlanEntry) :
    List ResolverRevocation :=
  ((previous_items previous_plan).filter
    (fun previous => ((by_server_id entries).lookup previous.server_id).isNone)).map
      (fun previous =>
        { server_id := previous.server_id, resolver_id_key := previous.resolver_id_key })

/-- The checks against the plan before. -/
def check_previous (root_version : Int) (target : PlanTarget) :
    Option Plan → Except String Unit
  | none =>
    rejectIf (1 < root_version) "root versions above 1 require the previous approved plan"
  | some previous_plan => do
    rejectIf (previous_plan.target ≠ target) "previous plan targets a different Registry deployment"
    rejectIf (root_version ≤ previous_plan.root_version)
      "root version must increase from the previous plan"

/-- `target` is what `normalize_plan_target` makes of the deployment's arguments. -/
def build_plan (identities : List Json) (root_version : Int) (target : Except String PlanTarget)
    (previous_plan : Option Plan) : Except String Plan := do
  rejectIf (root_version ≤ 0) "root version must be positive"
  let target ← target
  check_previous root_version target previous_plan
  let items ← identities.mapM server_id_of
  let entries ← (items.insertionSort (fun a b => text_le a.1 b.1)).mapM
    (fun item => plan_entry P C item.1 item.2)
  let state_root ← okOr (merkle_root P C (entries.map PlanEntry.leaf_hash))
    "ValueError: non-hexadecimal number found in fromhex() arg"
  let plan : Plan := {
    target
    previous_plan_hash := previous_plan.map Plan.plan_hash
    root_version
    state_root
    entries
    endpoint_unbinds := endpoint_unbinds previous_plan entries
    resolver_revocations := resolver_revocations previous_plan entries
    plan_hash := "" }
  .ok { plan with plan_hash := object_hash P plan.to_value }

/-! ## §2. Snapshots. -/

/-- The characters of `"0123456789abcdef"`. -/
def HEX_DIGITS : List Char :=
  ['0', '1', '2', '3', '4', '5', '6', '7', '8', '9', 'a', 'b', 'c', 'd', 'e', 'f']

/-- Lower case, and of the given size. -/
def normalize_fixed_hex (value : String) (size : Nat) : Except String String := do
  let normalized := C.lower value
  let raw := match normalized.toList with
    | '0' :: 'x' :: raw => raw
    | _ => []
  rejectIf (raw.length != size * 2 || raw.any (fun char => !HEX_DIGITS.contains char))
    ("value must be 0x-prefixed " ++ toString size ++ "-byte hex")
  .ok (String.ofList ('0' :: 'x' :: raw))

/-- The keyword arguments of `build_norn_snapshot`. -/
structure NornArguments where
  chain_id : Int
  genesis_block_hash : String
  registry_address : String
  registry_key : String
  snapshot_version : Int
  checkpoint_height : Int
  checkpoint_hash : String
  valid_until : Int
  issuer : String
  key_id : String

/-- The snapshot, with the plan's entries for its own. -/
structure NornSnapshot where
  schema_version : String
  chain_id : Int
  genesis_block_hash : String
  registry_address : String
  registry_key : String
  registry_schema_hash : String
  snapshot_version : Int
  checkpoint_height : Int
  checkpoint_hash : String
  state_root : String
  root_status : String
  published_at : Int
  valid_until : Int
  issuer : String
  key_id : String
  entries : List PlanEntry

/-- The members of a snapshot, in order. -/
def NornSnapshot.members (self : NornSnapshot) : List (String × Json) := [
  ("schema_version", .string self.schema_version), ("chain_id", .number self.chain_id),
  ("genesis_block_hash", .string self.genesis_block_hash),
  ("registry_address", .string self.registry_address),
  ("registry_key", .string self.registry_key),
  ("registry_schema_hash", .string self.registry_schema_hash),
  ("snapshot_version", .number self.snapshot_version),
  ("checkpoint_height", .number self.checkpoint_height),
  ("checkpoint_hash", .string self.checkpoint_hash), ("state_root", .string self.state_root),
  ("root_status", .string self.root_status), ("published_at", .number self.published_at),
  ("valid_until", .number self.valid_until), ("issuer", .string self.issuer),
  ("key_id", .string self.key_id),
  ("entries", .array (self.entries.map (fun entry => .object entry.members)))]

/-- The snapshot as it is written. -/
def NornSnapshot.to_value (self : NornSnapshot) : Json := .object self.members

/-- The schema of a snapshot. -/
def NORN_REGISTRY_SNAPSHOT_V1 : String := "resolver-identity-norn-registry-snapshot-v1"

/-- The hash of the schema's descriptor. -/
def NORN_REGISTRY_SCHEMA_HASH_V1 : String :=
  "0xadb0b846e01c44c8dcc41b612eea34999b5e10b25b3e68c7dab4a3fd70cc3499"

/-- The fields of a snapshot, checked in order. -/
def validate_norn_snapshot_shape (snapshot : NornSnapshot) : Except String Unit := do
  rejectIf (snapshot.schema_version ≠ NORN_REGISTRY_SNAPSHOT_V1)
    "Norn snapshot schema_version is invalid"
  rejectIf (snapshot.registry_schema_hash ≠ NORN_REGISTRY_SCHEMA_HASH_V1)
    "Norn snapshot schema hash is invalid"
  rejectIf (snapshot.chain_id ≤ 0 || snapshot.snapshot_version ≤ 0 ||
      snapshot.checkpoint_height ≤ 0 || snapshot.published_at ≤ 0 ||
      snapshot.valid_until ≤ snapshot.published_at || snapshot.root_status ≠ "ACTIVE" ||
      (strip snapshot.registry_key.toList).isEmpty || (strip snapshot.issuer.toList).isEmpty ||
      (strip snapshot.key_id.toList).isEmpty || snapshot.entries.isEmpty)
    "Norn snapshot required fields are invalid"
  let _ ← normalize_fixed_hex C snapshot.genesis_block_hash 32
  let _ ← normalize_fixed_hex C snapshot.registry_address 20
  let _ ← normalize_fixed_hex C snapshot.checkpoint_hash 32
  let _ ← normalize_fixed_hex C snapshot.state_root 32
  let server_ids := snapshot.entries.map PlanEntry.server_id
  rejectIf (server_ids ≠ server_ids.dedup.insertionSort text_le)
    "Norn snapshot entries must be sorted by unique server_id"

/-- `published_at` is `int(time.time())`. -/
def build_norn_snapshot (plan : Plan) (arguments : NornArguments) (published_at : Int) :
    Except String NornSnapshot := do
  let genesis_block_hash ← normalize_fixed_hex C arguments.genesis_block_hash 32
  let registry_address ← normalize_fixed_hex C arguments.registry_address 20
  let checkpoint_hash ← normalize_fixed_hex C arguments.checkpoint_hash 32
  let state_root ← normalize_fixed_hex C plan.state_root 32
  let snapshot : NornSnapshot := {
    schema_version := NORN_REGISTRY_SNAPSHOT_V1
    chain_id := arguments.chain_id
    genesis_block_hash
    registry_address
    registry_key := arguments.registry_key
    registry_schema_hash := NORN_REGISTRY_SCHEMA_HASH_V1
    snapshot_version := arguments.snapshot_version
    checkpoint_height := arguments.checkpoint_height
    checkpoint_hash
    state_root
    root_status := "ACTIVE"
    published_at
    valid_until := arguments.valid_until
    issuer := arguments.issuer
    key_id := arguments.key_id
    entries := plan.entries.insertionSort (fun a b => text_le a.server_id b.server_id) }
  validate_norn_snapshot_shape C snapshot
  .ok snapshot

end Plans

/-! ## §3. The verifier's structs. -/

/-- `NornRegistrySnapshotV1`. -/
structure NornRegistrySnapshotV1 extends RegistrySnapshot where
  schema_version : String
  chain_id : Nat
  genesis_block_hash : String
  registry_address : String
  registry_key : String
  registry_schema_hash : String
  snapshot_version : Nat
  checkpoint_height : Nat
  checkpoint_hash : String
  published_at : Int
  valid_until : Int
  issuer : String
  key_id : String
  signature : Option String

/-- The fields of an entry. -/
def ENTRY_FIELDS : List String := ["server_id", "resolver_id_key", "object_hash", "object_version",
  "valid_until", "status", "endpoint_keys"]

/-- The fields of a snapshot. -/
def SNAPSHOT_FIELDS : List String := ["schema_version", "chain_id", "genesis_block_hash",
  "registry_address", "registry_key", "registry_schema_hash", "snapshot_version",
  "checkpoint_height", "checkpoint_hash", "state_root", "root_status", "published_at",
  "valid_until", "issuer", "key_id", "entries", "signature"]

/-- `#[serde(deny_unknown_fields)]` -/
def deny_unknown_fields (names : List String) (fields : List (String × Json)) :
    Except String Unit :=
  rejectIf (fields.any (fun field => !names.contains field.1)) "unknown field"

/-- `NornRegistrySnapshotEntryV1`. -/
def read_entry (value : Json) : Except String SnapshotEntry :=
  match value with
  | .object fields => do
    deny_unknown_fields ENTRY_FIELDS fields
    let server_id ← read_required "server_id" read_string (value.get "server_id")
    let resolver_id_key ← read_required "resolver_id_key" read_string (value.get "resolver_id_key")
    let object_hash ← read_required "object_hash" read_string (value.get "object_hash")
    let object_version ← read_required "object_version" ( read_unsigned 64)
      (value.get "object_version")
    let valid_until ← read_required "valid_until" ( read_signed 64) (value.get "valid_until")
    let status ← read_required "status" read_string (value.get "status")
    let endpoint_keys ← read_required "endpoint_keys" ( read_list read_string)
      (value.get "endpoint_keys")
    .ok { server_id, resolver_id_key, object_hash, object_version, valid_until, status,
          endpoint_keys }
  | _ => .error "invalid type: expected struct NornRegistrySnapshotEntryV1"

/-- Read a snapshot; no other field may be there. -/
def NornRegistrySnapshotV1.from_value (value : Json) : Except String NornRegistrySnapshotV1 :=
  match value with
  | .object fields => do
    deny_unknown_fields SNAPSHOT_FIELDS fields
    let schema_version ← read_required "schema_version" read_string (value.get "schema_version")
    let chain_id ← read_required "chain_id" ( read_unsigned 64) (value.get "chain_id")
    let genesis_block_hash ← read_required "genesis_block_hash" read_string
      (value.get "genesis_block_hash")
    let registry_address ← read_required "registry_address" read_string
      (value.get "registry_address")
    let registry_key ← read_required "registry_key" read_string (value.get "registry_key")
    let registry_schema_hash ← read_required "registry_schema_hash" read_string
      (value.get "registry_schema_hash")
    let snapshot_version ← read_required "snapshot_version" ( read_unsigned 64)
      (value.get "snapshot_version")
    let checkpoint_height ← read_required "checkpoint_height" ( read_unsigned 64)
      (value.get "checkpoint_height")
    let checkpoint_hash ← read_required "checkpoint_hash" read_string (value.get "checkpoint_hash")
    let state_root ← read_required "state_root" read_string (value.get "state_root")
    let root_status ← read_required "root_status" read_string (value.get "root_status")
    let published_at ← read_required "published_at" ( read_signed 64) (value.get "published_at")
    let valid_until ← read_required "valid_until" ( read_signed 64) (value.get "valid_until")
    let issuer ← read_required "issuer" read_string (value.get "issuer")
    let key_id ← read_required "key_id" read_string (value.get "key_id")
    let entries ← read_required "entries" ( read_list read_entry) (value.get "entries")
    let signature ← read_option read_string (value.get "signature")
    .ok { schema_version, chain_id, genesis_block_hash, registry_address, registry_key,
          registry_schema_hash, snapshot_version, checkpoint_height, checkpoint_hash, state_root,
          root_status, published_at, valid_until, issuer, key_id, entries, signature }
  | _ => .error "invalid type: expected struct NornRegistrySnapshotV1"

/-! ## §4. What is read of a snapshot. -/

/-- The entry as the verifier has it. -/
def PlanEntry.snapshot (self : PlanEntry) : SnapshotEntry where
  server_id := self.server_id
  resolver_id_key := self.resolver_id_key
  object_hash := self.object_hash
  object_version := self.object_version.toNat
  valid_until := self.valid_until
  status := self.status
  endpoint_keys := self.endpoint_keys

/-- The number is an `i64`. -/
def Signed (n : Int) : Prop := -2 ^ 63 ≤ n ∧ n < 2 ^ 63

/-- The number is a `u64`. -/
def Unsigned (n : Int) : Prop := 0 ≤ n ∧ n < 2 ^ 64

theorem read_unsigned_number {n : Int} {m : Nat} :
    read_unsigned 64 (.number n) = .ok m ↔ Unsigned n ∧ m = n.toNat := by
  rw [read_unsigned_eq_ok, Json.number.injEq]
  unfold Unsigned
  constructor
  · intro h
    obtain ⟨heq, hrange⟩ := h
    omega
  · intro h
    obtain ⟨hrange, heq⟩ := h
    omega

theorem read_signed_number {n m : Int} :
    read_signed 64 (.number n) = .ok m ↔ Signed n ∧ m = n := by
  rw [read_signed_eq_ok, Json.number.injEq]
  constructor
  · intro h
    obtain ⟨heq, hrange⟩ := h
    rw [← heq] at hrange
    exact ⟨hrange, heq.symm⟩
  · intro h
    obtain ⟨hrange, heq⟩ := h
    rw [heq]
    exact ⟨rfl, hrange⟩

theorem read_required_some {α : Type} {key : String} {read : Json → Except String α} {value : Json}
    {a : α} : read_required key read (some value) = .ok a ↔ read value = .ok a := Iff.rfl

theorem read_texts {texts out : List String} :
    read_list read_string (.array (texts.map .string)) = .ok out ↔ texts = out := by
  have hinjective : Function.Injective Json.string := fun a b h => Json.string.inj h
  rw [read_strings_eq_ok, Json.array.injEq, (List.map_injective_iff.mpr hinjective).eq_iff]

/-- An entry is read exactly if its numbers have their types. -/
theorem read_entry_iff {entry : PlanEntry} {out : SnapshotEntry} :
    read_entry (.object entry.members) = .ok out ↔
      (Unsigned entry.object_version ∧ Signed entry.valid_until) ∧ out = entry.snapshot := by
  have hknown : deny_unknown_fields ENTRY_FIELDS entry.members = .ok () := rfl
  have h1 : (Json.object entry.members).get "server_id" = some (.string entry.server_id) := rfl
  have h2 : (Json.object entry.members).get "resolver_id_key" =
    some (.string entry.resolver_id_key) := rfl
  have h3 : (Json.object entry.members).get "object_hash" = some (.string entry.object_hash) := rfl
  have h4 : (Json.object entry.members).get "object_version" =
    some (.number entry.object_version) := rfl
  have h5 : (Json.object entry.members).get "valid_until" = some (.number entry.valid_until) := rfl
  have h6 : (Json.object entry.members).get "status" = some (.string entry.status) := rfl
  have h7 : (Json.object entry.members).get "endpoint_keys" =
    some (.array (entry.endpoint_keys.map .string)) := rfl
  unfold read_entry
  simp only [bind_eq_ok, exists_unit, hknown, true_and, h1, h2, h3, h4, h5, h6, h7,
    read_required_some, read_string_eq_ok, read_texts, read_unsigned_number, read_signed_number,
    Json.string.injEq, Except.ok.injEq, exists_eq_left', exists_eq_left, exists_and_left, and_assoc,
    @eq_comm _ out]
  exact Iff.rfl

/-- The numbers of an entry have their types. -/
def PlanEntry.InRange (self : PlanEntry) : Prop :=
  Unsigned self.object_version ∧ Signed self.valid_until

theorem read_entries_iff {entries : List PlanEntry} :
    ∀ {out : List SnapshotEntry},
      read_list read_entry (.array (entries.map (fun entry => .object entry.members))) = .ok out ↔
        (∀ entry ∈ entries, entry.InRange) ∧ out = entries.map PlanEntry.snapshot := by
  intro out
  rw [read_list, mapM_eq_ok, List.forall₂_map_left_iff]
  induction entries generalizing out with
  | nil =>
    rw [List.forall₂_nil_left_iff]
    exact ⟨fun h => ⟨fun entry hmem => absurd hmem List.not_mem_nil, h⟩, fun h => h.2⟩
  | cons entry rest ih =>
    rw [List.forall₂_cons_left_iff]
    constructor
    · intro h
      obtain ⟨first, later, hfirst, hlater, heq⟩ := h
      obtain ⟨hrange, hfirst⟩ := read_entry_iff.mp hfirst
      obtain ⟨hranges, hlater⟩ := ih.mp hlater
      rw [heq, hfirst, hlater]
      exact ⟨List.forall_mem_cons.mpr ⟨hrange, hranges⟩, rfl⟩
    · intro h
      obtain ⟨hrange, hranges⟩ := List.forall_mem_cons.mp h.1
      exact ⟨_, _, read_entry_iff.mpr ⟨hrange, rfl⟩, ih.mpr ⟨hranges, rfl⟩, h.2⟩

/-- The snapshot as the verifier has it. -/
def NornSnapshot.read (self : NornSnapshot) : NornRegistrySnapshotV1 where
  state_root := self.state_root
  root_status := self.root_status
  entries := self.entries.map PlanEntry.snapshot
  schema_version := self.schema_version
  chain_id := self.chain_id.toNat
  genesis_block_hash := self.genesis_block_hash
  registry_address := self.registry_address
  registry_key := self.registry_key
  registry_schema_hash := self.registry_schema_hash
  snapshot_version := self.snapshot_version.toNat
  checkpoint_height := self.checkpoint_height.toNat
  checkpoint_hash := self.checkpoint_hash
  published_at := self.published_at
  valid_until := self.valid_until
  issuer := self.issuer
  key_id := self.key_id
  signature := none

/-- The numbers in front of the entries have their types. -/
structure NornSnapshot.InRange (snapshot : NornSnapshot) : Prop where
  chain_id : Unsigned snapshot.chain_id
  snapshot_version : Unsigned snapshot.snapshot_version
  checkpoint_height : Unsigned snapshot.checkpoint_height
  published_at : Signed snapshot.published_at
  valid_until : Signed snapshot.valid_until

/-- A written snapshot is read exactly if its numbers have their types. -/
theorem read_snapshot_iff {snapshot : NornSnapshot} {out : NornRegistrySnapshotV1} :
    NornRegistrySnapshotV1.from_value snapshot.to_value = .ok out ↔
      (snapshot.InRange ∧ ∀ entry ∈ snapshot.entries, entry.InRange) ∧ out = snapshot.read := by
  have hknown : deny_unknown_fields SNAPSHOT_FIELDS snapshot.members = .ok () := rfl
  have h1 : (Json.object snapshot.members).get "schema_version" =
    some (.string snapshot.schema_version) := rfl
  have h2 : (Json.object snapshot.members).get "chain_id" = some (.number snapshot.chain_id) := rfl
  have h3 : (Json.object snapshot.members).get "genesis_block_hash" =
    some (.string snapshot.genesis_block_hash) := rfl
  have h4 : (Json.object snapshot.members).get "registry_address" =
    some (.string snapshot.registry_address) := rfl
  have h5 : (Json.object snapshot.members).get "registry_key" =
    some (.string snapshot.registry_key) := rfl
  have h6 : (Json.object snapshot.members).get "registry_schema_hash" =
    some (.string snapshot.registry_schema_hash) := rfl
  have h7 : (Json.object snapshot.members).get "snapshot_version" =
    some (.number snapshot.snapshot_version) := rfl
  have h8 : (Json.object snapshot.members).get "checkpoint_height" =
    some (.number snapshot.checkpoint_height) := rfl
  have h9 : (Json.object snapshot.members).get "checkpoint_hash" =
    some (.string snapshot.checkpoint_hash) := rfl
  have h10 : (Json.object snapshot.members).get "state_root" =
    some (.string snapshot.state_root) := rfl
  have h11 : (Json.object snapshot.members).get "root_status" =
    some (.string snapshot.root_status) := rfl
  have h12 : (Json.object snapshot.members).get "published_at" =
    some (.number snapshot.published_at) := rfl
  have h13 : (Json.object snapshot.members).get "valid_until" =
    some (.number snapshot.valid_until) := rfl
  have h14 : (Json.object snapshot.members).get "issuer" = some (.string snapshot.issuer) := rfl
  have h15 : (Json.object snapshot.members).get "key_id" = some (.string snapshot.key_id) := rfl
  have h16 : (Json.object snapshot.members).get "entries" =
    some (.array (snapshot.entries.map (fun entry => .object entry.members))) := rfl
  have h17 : read_option read_string ((Json.object snapshot.members).get "signature") = .ok none :=
    rfl
  unfold NornSnapshot.to_value NornRegistrySnapshotV1.from_value
  simp only [bind_eq_ok, exists_unit, hknown, true_and, h1, h2, h3, h4, h5, h6, h7, h8, h9, h10, h11,
    h12, h13, h14, h15, h16, h17, read_required_some, read_string_eq_ok, read_unsigned_number,
    read_signed_number, read_entries_iff, Json.string.injEq, Except.ok.injEq, exists_eq_left',
    exists_eq_left, exists_and_left, and_assoc, @eq_comm _ out]
  constructor
  · intro h
    obtain ⟨hchain, hversion, hheight, hpublished, hvalid, hentries, heq⟩ := h
    exact ⟨⟨hchain, hversion, hheight, hpublished, hvalid⟩, hentries, heq⟩
  · intro h
    obtain ⟨hrange, hentries, heq⟩ := h
    exact ⟨hrange.chain_id, hrange.snapshot_version, hrange.checkpoint_height, hrange.published_at,
      hrange.valid_until, hentries, heq⟩

/-! ## §5. What a plan is built of. -/

section Built

variable {P : Platform} {C : Casing}

/-- What an entry is made of. -/
structure EntryOf (P : Platform) (C : Casing) (item : String × Json) (entry : PlanEntry) :
    Prop where
  server_id : entry.server_id = item.1
  resolver_id_key : entry.resolver_id_key = resolver_id_key P item.1
  object_hash : entry.object_hash = object_hash P item.2
  object_version : ∃ value, item.2.get "object_version" = some value ∧
    int_of value = .ok entry.object_version
  valid_until : ∃ value, item.2.get "valid_until" = some value ∧ int_of value = .ok entry.valid_until
  status : item.2.get "status" = some (.string entry.status)
  endpoint_keys : endpoint_keys P (dict_get item.2 "endpoints") = .ok entry.endpoint_keys
  leaf_hash : entry.leaf_hash = merkle_leaf P C entry.resolver_id_key entry.object_hash
    entry.object_version entry.status

theorem as_str_eq_some {value : Json} {s : String} : value.as_str = some s ↔ value = .string s := by
  cases value <;> simp [Json.as_str]

theorem entry_of_plan_entry {item : String × Json} {entry : PlanEntry}
    (h : plan_entry P C item.1 item.2 = .ok entry) : EntryOf P C item entry := by
  unfold plan_entry at h
  simp only [bind_eq_ok, okOr_eq_ok, Except.ok.injEq] at h
  obtain ⟨version_value, hversion_value, version, hversion, status, hstatus, until_value, huntil_value,
    valid_until, huntil, keys, hkeys, heq⟩ := h
  have hstatus : item.2.get "status" = some (.string status) := by
    obtain ⟨value, hvalue, htext⟩ := Option.bind_eq_some_iff.mp hstatus
    rw [hvalue, as_str_eq_some.mp htext]
  rw [← heq]
  exact ⟨rfl, rfl, rfl, ⟨version_value, hversion_value, hversion⟩,
    ⟨until_value, huntil_value, huntil⟩, hstatus, hkeys, rfl⟩

/-- The id of an identity with a text for it. -/
def id_text (identity : Json) : String := ((identity.get "server_id").bind Json.as_str).getD ""

/-- The endpoint keys of an identity that has them. -/
def keys_of (P : Platform) (identity : Json) : List String :=
  (endpoint_keys P (dict_get identity "endpoints")).toOption.getD []

/-- The identities with their ids, ascending. -/
def sorted_items (identities : List Json) : List (String × Json) :=
  (identities.map (fun identity => (id_text identity, identity))).insertionSort
    (fun a b => text_le a.1 b.1)

/-- What a plan is built of. -/
structure Built (P : Platform) (C : Casing) (identities : List Json) (plan : Plan) : Prop where
  texts : ∀ identity ∈ identities, identity.get "server_id" = some (.string (id_text identity))
  entries : List.Forall₂ (EntryOf P C) (sorted_items identities) plan.entries
  state_root : merkle_root P C (plan.entries.map PlanEntry.leaf_hash) = some plan.state_root

theorem items_of_mapM {identities : List Json} {items : List (String × Json)}
    (h : identities.mapM server_id_of = .ok items) :
    items = identities.map (fun identity => (id_text identity, identity)) ∧
      ∀ identity ∈ identities, identity.get "server_id" = some (.string (id_text identity)) := by
  have hall := mapM_eq_ok.mp h
  clear h
  induction hall with
  | nil => exact ⟨rfl, fun identity hmem => (nomatch hmem)⟩
  | @cons identity item _ _ hitem _ ih =>
    unfold server_id_of at hitem
    simp only [bind_eq_ok, okOr_eq_ok, Except.ok.injEq] at hitem
    obtain ⟨text, htext, heq⟩ := hitem
    have hid : id_text identity = text := by
      unfold id_text
      rw [htext]
      rfl
    obtain ⟨hrest, htexts⟩ := ih
    rw [List.map_cons, hid, heq, hrest]
    refine ⟨rfl, List.forall_mem_cons.mpr ⟨?_, htexts⟩⟩
    obtain ⟨value, hvalue, htext⟩ := Option.bind_eq_some_iff.mp htext
    rw [hvalue, as_str_eq_some.mp htext, hid]

/-- The entries of a plan are those of its identities, ascending. -/
theorem built_of_build_plan {identities : List Json} {root_version : Int}
    {target : Except String PlanTarget} {previous_plan : Option Plan} {plan : Plan}
    (h : build_plan P C identities root_version target previous_plan = .ok plan) :
    Built P C identities plan := by
  unfold build_plan at h
  simp only [bind_eq_ok, exists_unit, okOr_eq_ok, Except.ok.injEq] at h
  obtain ⟨_, target, _, _, items, hitems, entries, hentries, root, hroot, heq⟩ := h
  obtain ⟨hmapped, htexts⟩ := items_of_mapM hitems
  rw [hmapped] at hentries
  rw [← heq]
  exact ⟨htexts, (mapM_eq_ok.mp hentries).imp (fun _ _ => entry_of_plan_entry), hroot⟩

end Built

/-! ## §6. The entries of a plan. -/

section Entries

variable {P : Platform} {C : Casing} {identities : List Json} {plan : Plan}
variable {entered : List (HashKey × List String)}

theorem mem_sorted_items {item : String × Json} :
    item ∈ sorted_items identities ↔ ∃ identity ∈ identities, (id_text identity, identity) = item := by
  unfold sorted_items
  rw [List.mem_insertionSort, List.mem_map]

theorem sorted_items_perm :
    List.Perm (sorted_items identities)
      (identities.map (fun identity => (id_text identity, identity))) :=
  List.perm_insertionSort _ _

/-- The ids that were loaded are distinct texts. -/
theorem ids_nodup (hloaded : Loaded P identities entered) (hbuilt : Built P C identities plan) :
    (identities.map id_text).Nodup := by
  have hsame : entered.map Prod.fst = (identities.map id_text).map HashKey.text := by
    have htexts := hbuilt.texts
    have hall := hloaded.all_entered
    clear hloaded hbuilt
    induction hall with
    | nil => rfl
    | @cons identity entry _ _ hentry _ ih =>
      obtain ⟨htext, hrest⟩ := List.forall_mem_cons.mp htexts
      obtain ⟨value, hvalue, hkey, _⟩ := hentry.server_id
      rw [htext] at hvalue
      rw [← Option.some.inj hvalue] at hkey
      rw [List.map_cons, List.map_cons, List.map_cons, ih hrest, ← Option.some.inj hkey]
  have hnodup := hloaded.ids_nodup
  rw [hsame] at hnodup
  exact hnodup.of_map

/-- The endpoint keys that were loaded are distinct. -/
theorem endpoints_nodup (hloaded : Loaded P identities entered) :
    (identities.flatMap (keys_of P)).Nodup := by
  have hsame : identities.flatMap (keys_of P) = entered.flatMap Prod.snd := by
    have hall := hloaded.all_entered
    clear hloaded
    induction hall with
    | nil => rfl
    | @cons identity entry _ _ hentry _ ih =>
      have hkeys : keys_of P identity = entry.2 := by
        unfold keys_of
        rw [hentry.endpoints]
        rfl
      rw [List.flatMap_cons, List.flatMap_cons, ih, hkeys]
  rw [hsame]
  exact hloaded.keys_nodup

theorem entries_ids (hbuilt : Built P C identities plan) :
    plan.entries.map PlanEntry.server_id = (sorted_items identities).map Prod.fst := by
  have hall := hbuilt.entries
  clear hbuilt
  generalize sorted_items identities = items at hall ⊢
  generalize plan.entries = entries at hall ⊢
  induction hall with
  | nil => rfl
  | cons hentry _ ih => rw [List.map_cons, List.map_cons, ih, hentry.server_id]

/-- The ids of the entries are those of the identities. -/
theorem entries_perm (hbuilt : Built P C identities plan) :
    List.Perm (plan.entries.map PlanEntry.server_id) (identities.map id_text) := by
  have hperm := (@sorted_items_perm identities).map Prod.fst
  rw [List.map_map] at hperm
  rw [entries_ids hbuilt]
  exact hperm

/-- The ids of the entries ascend. -/
theorem entries_ascend (hloaded : Loaded P identities entered) (hbuilt : Built P C identities plan) :
    (plan.entries.map PlanEntry.server_id).Pairwise (· < ·) := by
  have hsorted : (plan.entries.map PlanEntry.server_id).Pairwise (· ≤ ·) := by
    rw [entries_ids hbuilt]
    exact List.pairwise_map.mpr (List.pairwise_insertionSort _ _)
  have hnodup := (entries_perm hbuilt).nodup_iff.mpr (ids_nodup hloaded hbuilt)
  exact (hsorted.and hnodup).imp (fun h => lt_of_le_of_ne h.1 h.2)

theorem entries_endpoints_nodup (hloaded : Loaded P identities entered)
    (hbuilt : Built P C identities plan) :
    (plan.entries.flatMap PlanEntry.endpoint_keys).Nodup := by
  have hsame : plan.entries.flatMap PlanEntry.endpoint_keys =
      (sorted_items identities).flatMap (fun item => keys_of P item.2) := by
    have hall := hbuilt.entries
    clear hbuilt
    generalize sorted_items identities = items at hall ⊢
    generalize plan.entries = entries at hall ⊢
    induction hall with
    | nil => rfl
    | @cons item entry _ _ hentry _ ih =>
      have hkeys : keys_of P item.2 = entry.endpoint_keys := by
        unfold keys_of
        rw [hentry.endpoint_keys]
        rfl
      rw [List.flatMap_cons, List.flatMap_cons, ih, hkeys]
  have hperm := (@sorted_items_perm identities).flatMap_right
    (fun item => keys_of P item.2)
  rw [List.flatMap_map] at hperm
  rw [hsame]
  exact hperm.nodup_iff.mpr (endpoints_nodup hloaded)

/-- An entry with the identity it was made of. -/
structure Made (P : Platform) (C : Casing) (identities : List Json) (identity : Json)
    (entry : PlanEntry) : Prop where
  mem : identity ∈ identities
  text : identity.get "server_id" = some (.string (id_text identity))
  entry_of : EntryOf P C (id_text identity, identity) entry
  entered : ∃ id keys, Entered P identity id keys

theorem made_of_entry (hloaded : Loaded P identities entered) (hbuilt : Built P C identities plan) :
    ∀ entry ∈ plan.entries, ∃ identity, Made P C identities identity entry := by
  intro entry hentry
  obtain ⟨item, hitem, hof⟩ := forall₂_left hbuilt.entries.flip entry hentry
  obtain ⟨identity, hmem, heq⟩ := mem_sorted_items.mp hitem
  obtain ⟨known, _, hknown⟩ := forall₂_left hloaded.all_entered identity hmem
  rw [← heq] at hof
  exact ⟨identity, hmem, hbuilt.texts identity hmem, hof, known.1, known.2, hknown⟩

theorem made_of_identity (hloaded : Loaded P identities entered)
    (hbuilt : Built P C identities plan) :
    ∀ identity ∈ identities, ∃ entry ∈ plan.entries, Made P C identities identity entry := by
  intro identity hmem
  obtain ⟨entry, hentry, hof⟩ := forall₂_left hbuilt.entries (id_text identity, identity)
    (mem_sorted_items.mpr ⟨identity, hmem, rfl⟩)
  obtain ⟨known, _, hknown⟩ := forall₂_left hloaded.all_entered identity hmem
  exact ⟨entry, hentry, hmem, hbuilt.texts identity hmem, hof, known.1, known.2, hknown⟩

/-- The status, the version and the endpoints of an entry are those of a validated identity. -/
theorem Made.checked {identity : Json} {entry : PlanEntry}
    (h : Made P C identities identity entry) :
    entry.status = "ACTIVE" ∧ 0 < entry.object_version ∧
      (entry.endpoint_keys ≠ [] ∧ entry.endpoint_keys.length ≤ 32) := by
  obtain ⟨id, keys, hentered⟩ := h.entered
  refine ⟨?_, ?_, ?_⟩
  · have hstatus := h.entry_of.status.symm.trans hentered.status
    exact Json.string.inj (Option.some.inj hstatus)
  · obtain ⟨value, hvalue, hversion⟩ := h.entry_of.object_version
    obtain ⟨n, hn, hpositive⟩ := hentered.object_version
    unfold dict_get_or at hn
    rw [hvalue] at hn
    rw [Except.ok.inj (hversion.symm.trans hn)]
    exact hpositive
  · have hkeys := h.entry_of.endpoint_keys.symm.trans hentered.endpoints
    rw [Except.ok.inj hkeys]
    exact hentered.few

end Entries

/-! ## §7. Acceptance. -/

section Acceptance

variable {P : Platform} {C : Casing} {identities : List Json} {plan : Plan}
variable {entered : List (HashKey × List String)}

theorem digest_of_lookup_key (hdigest : ∀ bytes, IsDigest (P.sha256_hex bytes))
    {endpoint : ResolverEndpoint} {key : String} (h : endpoint_lookup_key P endpoint = .ok key) :
    IsDigest key := by
  unfold endpoint_lookup_key at h
  simp only [bind_eq_ok, exists_unit, Except.ok.injEq] at h
  obtain ⟨_, _, _, heq⟩ := h
  rw [← heq]
  exact hdigest _

theorem digest_of_endpoint_keys (hdigest : ∀ bytes, IsDigest (P.sha256_hex bytes))
    {endpoints : Json} {keys : List String} (h : endpoint_keys P endpoints = .ok keys) :
    ∀ key ∈ keys, IsDigest key := by
  unfold endpoint_keys at h
  obtain ⟨items, _, hall⟩ := bind_eq_ok.mp h
  intro key hkey
  obtain ⟨item, _, hitem⟩ := forall₂_left (mapM_eq_ok.mp hall).flip key hkey
  obtain ⟨endpoint, _, hlookup⟩ := bind_eq_ok.mp hitem
  exact digest_of_lookup_key hdigest hlookup

/-- Bytes in hexadecimal, as a publisher writes them. -/
def hex_text (raw : List UInt8) : String := String.ofList ('0' :: 'x' :: hex_encode raw)

/-- Hexadecimal digits in lower case are kept. -/
theorem normalize_fixed_hex_text {raw : List UInt8} {size : Nat} (hsize : raw.length = size) :
    normalize_fixed_hex C (hex_text raw) size = .ok (hex_text raw) := by
  have hchars : ∀ c ∈ hex_encode raw, HEX_DIGITS.contains c = true := by
    have hdigit : ∀ digit < 16, HEX_DIGITS.contains (Nat.digitChar digit) = true := by decide
    clear hsize
    induction raw with
    | nil => intro c hc; cases hc
    | cons byte rest ih =>
      have hbound := byte.toNat_lt
      intro c hc
      rcases List.mem_cons.mp hc with hhigh | hc
      · rw [hhigh]
        exact hdigit _ (by omega)
      · rcases List.mem_cons.mp hc with hlow | hrest
        · rw [hlow]
          exact hdigit _ (by omega)
        · exact ih c hrest
  have hall : (hex_encode raw).any (fun char => !HEX_DIGITS.contains char) = false := by
    rw [List.any_eq_false]
    intro c hc
    rw [hchars c hc]
    exact Bool.false_ne_true
  have hlength : ((hex_encode raw).length != size * 2) = false := by
    rw [hex_encode_length, hsize, Nat.mul_comm, bne_self_eq_false]
  unfold normalize_fixed_hex hex_text
  simp only [lower_hex, String.toList_ofList]
  show (do rejectIf ((hex_encode raw).length != size * 2 ||
    (hex_encode raw).any (fun char => !HEX_DIGITS.contains char)) _; Except.ok _) = _
  rw [hlength, hall]
  rfl

/-- A digest is written as it is. -/
theorem normalize_fixed_hex_digest {text : String} (hdigest : IsDigest text) :
    normalize_fixed_hex C text 32 = .ok text := by
  obtain ⟨raw, hlength, htext⟩ := hdigest
  rw [htext]
  exact normalize_fixed_hex_text hlength

variable (hdigest : ∀ bytes, IsDigest (P.sha256_hex bytes))

include hdigest

theorem Made.digests {identity : Json} {entry : PlanEntry}
    (h : Made P C identities identity entry) : entry.snapshot.Digests := by
  have hof := h.entry_of
  refine ⟨?_, ?_, digest_of_endpoint_keys hdigest hof.endpoint_keys⟩
  · show IsDigest entry.resolver_id_key
    rw [hof.resolver_id_key]
    exact hdigest _
  · show IsDigest entry.object_hash
    rw [hof.object_hash]
    exact hdigest _

/-- The verifier computes the plan's root of the entries. -/
theorem root_of_built (hloaded : Loaded P identities entered) (hbuilt : Built P C identities plan) :
    Norn.norn_state_root P (plan.entries.map PlanEntry.snapshot) = .ok plan.state_root ∧
      IsDigest plan.state_root := by
  have hmade := made_of_entry hloaded hbuilt
  have hdigests : ∀ entry ∈ plan.entries.map PlanEntry.snapshot, entry.Digests := by
    intro entry hentry
    obtain ⟨before, hbefore, heq⟩ := List.mem_map.mp hentry
    obtain ⟨identity, hidentity⟩ := hmade before hbefore
    rw [← heq]
    exact hidentity.digests hdigest
  have hascend : ((plan.entries.map PlanEntry.snapshot).map
      (fun entry => entry.server_id)).Pairwise (· < ·) := by
    rw [List.map_map]
    exact entries_ascend hloaded hbuilt
  have hascii : ∀ entry ∈ plan.entries.map PlanEntry.snapshot, IsAscii entry.status := by
    intro entry hentry
    obtain ⟨before, hbefore, heq⟩ := List.mem_map.mp hentry
    obtain ⟨identity, hidentity⟩ := hmade before hbefore
    rw [← heq]
    show IsAscii before.status
    rw [hidentity.checked.1]
    have hall : "ACTIVE".toList.all (fun c => c.toNat < 128) = true := by decide
    intro c hc
    exact of_decide_eq_true (List.all_eq_true.mp hall c hc)
  obtain ⟨root, hroot, hroot_digest⟩ := @state_root_exists P Norn.wording.unsorted hdigest _
    hdigests hascend
  have hpublished := merkle_root_eq (C := C) hdigest hroot hascii
  -- the leaves are those of the plan
  have hleaves : (plan.entries.map PlanEntry.snapshot).map (fun entry => merkle_leaf P C
      entry.resolver_id_key entry.object_hash entry.object_version entry.status) =
        plan.entries.map PlanEntry.leaf_hash := by
    rw [List.map_map]
    refine List.map_congr_left ?_
    intro entry hentry
    obtain ⟨identity, hidentity⟩ := hmade entry hentry
    have hpositive := hidentity.checked.2.1
    have hversion : ((entry.object_version.toNat : Nat) : Int) = entry.object_version :=
      Int.toNat_of_nonneg (le_of_lt hpositive)
    rw [hidentity.entry_of.leaf_hash]
    show merkle_leaf P C entry.resolver_id_key entry.object_hash
      ((entry.object_version.toNat : Nat) : Int) entry.status = _
    rw [hversion]
  rw [hleaves, hbuilt.state_root] at hpublished
  rw [Option.some.inj hpublished]
  exact ⟨hroot, hroot_digest⟩

end Acceptance

/-- A plan that the verifier accepts, as conditions on its identities. -/
structure Publishable (P : Platform) (identities : List Json) : Prop where
  names : (identities.map (fun identity => normalize_name P (id_text identity))).Nodup
  server_ids : ∀ identity ∈ identities, (id_text identity).utf8ByteSize ≤ 256 ∧
    P.normalize_name (id_text identity) = normalize_name P (id_text identity)
  object_versions : ∀ identity ∈ identities, ∀ n,
    int_of (dict_get identity "object_version") = .ok n → n < 2 ^ 64
  valid_untils : ∀ identity ∈ identities, ∀ n,
    int_of (dict_get identity "valid_until") = .ok n → 0 < n ∧ n < 2 ^ 63

/-- The numbers of a deployment have the verifier's types. -/
structure NornArguments.InRange (arguments : NornArguments) (published_at : Int) : Prop where
  chain_id : Unsigned arguments.chain_id
  snapshot_version : Unsigned arguments.snapshot_version
  checkpoint_height : Unsigned arguments.checkpoint_height
  published_at : Signed published_at
  valid_until : Signed arguments.valid_until

/-- The names of the identities, as either side normalizes them. -/
def names (P : Platform) (identities : List Json) : List String :=
  identities.map (fun identity => normalize_name P (id_text identity)) ++
    identities.map (fun identity => P.normalize_name (id_text identity))

/-- No two of the names have one digest. -/
def NoNameCollision (P : Platform) (identities : List Json) : Prop :=
  ∀ a ∈ names P identities, ∀ b ∈ names P identities,
    P.sha256_hex (as_bytes ("resolver-id:" ++ a)) = P.sha256_hex (as_bytes ("resolver-id:" ++ b)) →
      a = b

section Accepted

variable {P : Platform} {C : Casing} {identities : List Json} {plan : Plan}
variable {entered : List (HashKey × List String)}

/-- The verifier's key of an identity is the publisher's exactly if the names agree. -/
theorem key_eq_iff {identity : Json} (hmem : identity ∈ identities)
    (hcollision : NoNameCollision P identities) :
    resolver_id_key P (id_text identity) = P.resolver_id_key (id_text identity) ↔
      P.normalize_name (id_text identity) = normalize_name P (id_text identity) := by
  unfold resolver_id_key Platform.resolver_id_key
  rw [← as_bytes_append]
  constructor
  · intro h
    exact (hcollision _ (List.mem_append_left _ (List.mem_map_of_mem hmem)) _
      (List.mem_append_right _ (List.mem_map_of_mem hmem)) h).symm
  · intro h
    rw [h]

theorem Made.server_id_ne {identity : Json} {entry : PlanEntry}
    (h : Made P C identities identity entry) : id_text identity ≠ "" := by
  obtain ⟨_, _, hentered⟩ := h.entered
  obtain ⟨value, hvalue, _, hblank⟩ := hentered.server_id
  rw [h.text] at hvalue
  rw [← Option.some.inj hvalue] at hblank
  intro hempty
  rw [hempty] at hblank
  cases hblank

/-- An entry is read and sound for the verifier exactly if its identity is publishable. -/
theorem sound_iff {identity : Json} {entry : PlanEntry} (h : Made P C identities identity entry)
    (hcollision : NoNameCollision P identities) :
    (entry.InRange ∧ entry.snapshot.Sound P) ↔
      ((id_text identity).utf8ByteSize ≤ 256 ∧
        P.normalize_name (id_text identity) = normalize_name P (id_text identity)) ∧
      (∀ n, int_of (dict_get identity "object_version") = .ok n → n < 2 ^ 64) ∧
      (∀ n, int_of (dict_get identity "valid_until") = .ok n → 0 < n ∧ n < 2 ^ 63) := by
  -- what the entry was made of
  have hof := h.entry_of
  obtain ⟨hstatus, hpositive, hfew⟩ := h.checked
  obtain ⟨version_value, hversion_value, hversion⟩ := hof.object_version
  obtain ⟨until_value, huntil_value, huntil⟩ := hof.valid_until
  have hid : entry.snapshot.server_id = id_text identity := hof.server_id
  have hkey : entry.snapshot.resolver_id_key = resolver_id_key P (id_text identity) :=
    hof.resolver_id_key
  rw [dict_get_eq hversion_value, dict_get_eq huntil_value]
  constructor
  · intro h'
    obtain ⟨⟨hunsigned, hsigned⟩, hsound⟩ := h'
    refine ⟨⟨?_, ?_⟩, ?_, ?_⟩
    · rw [← hid]
      exact hsound.server_id.2
    · refine (key_eq_iff h.mem hcollision).mp ?_
      rw [← hkey, ← hid]
      exact hsound.resolver_id_key
    · intro n hn
      rw [← Except.ok.inj (hversion.symm.trans hn)]
      exact hunsigned.2
    · intro n hn
      rw [← Except.ok.inj (huntil.symm.trans hn)]
      exact ⟨hsound.valid_until, hsigned.2⟩
  · intro h'
    obtain ⟨⟨hsize, hname⟩, hversions, huntils⟩ := h'
    have hversion_range := hversions _ hversion
    obtain ⟨huntil_pos, huntil_range⟩ := huntils _ huntil
    refine ⟨⟨⟨le_of_lt hpositive, hversion_range⟩, ⟨by omega, huntil_range⟩⟩, ?_⟩
    refine ⟨?_, ?_, huntil_pos, ?_, hfew, ?_⟩
    · rw [hid]
      exact ⟨h.server_id_ne, hsize⟩
    · show entry.object_version.toNat ≠ 0
      omega
    · show entry.status ≠ "" ∧ entry.status.utf8ByteSize ≤ 32
      rw [hstatus]
      decide
    · rw [hkey, hid]
      exact (key_eq_iff h.mem hcollision).mpr hname

/-- No key, endpoint or id is there twice exactly if the names are distinct. -/
theorem apart_iff (hloaded : Loaded P identities entered) (hbuilt : Built P C identities plan)
    (hcollision : NoNameCollision P identities) :
    Apart (plan.entries.map PlanEntry.snapshot) ⟨∅, [], []⟩ ↔
      (identities.map (fun identity => normalize_name P (id_text identity))).Nodup := by
  -- keys are digests of names, and the names do not collide
  have hkeys : (plan.entries.map PlanEntry.resolver_id_key).Nodup ↔
      (identities.map (fun identity => normalize_name P (id_text identity))).Nodup := by
    have hsame : plan.entries.map PlanEntry.resolver_id_key =
        (sorted_items identities).map (fun item => resolver_id_key P item.1) := by
      have hall := hbuilt.entries
      clear hbuilt
      generalize sorted_items identities = items at hall ⊢
      generalize plan.entries = entries at hall ⊢
      induction hall with
      | nil => rfl
      | cons hentry _ ih => rw [List.map_cons, List.map_cons, ih, hentry.resolver_id_key]
    have hperm := (@sorted_items_perm identities).map
      (fun item => resolver_id_key P item.1)
    rw [List.map_map] at hperm
    rw [hsame, hperm.nodup_iff]
    have hmapped : identities.map ((fun item : String × Json => resolver_id_key P item.1) ∘
        fun identity => (id_text identity, identity)) =
          (identities.map (fun identity => normalize_name P (id_text identity))).map
            (fun name => P.sha256_hex (as_bytes ("resolver-id:" ++ name))) := by
      rw [List.map_map]
      rfl
    rw [hmapped]
    constructor
    · exact List.Nodup.of_map _
    · refine List.Nodup.map_on ?_
      intro a ha b hb heq
      exact hcollision a (List.mem_append_left _ ha) b (List.mem_append_left _ hb) heq
  -- ids and endpoints are distinct in any plan
  have hids : ((plan.entries.map PlanEntry.snapshot).map
      (fun entry => entry.server_id)).Nodup := by
    rw [List.map_map]
    exact (entries_ascend hloaded hbuilt).imp (fun h => ne_of_lt h)
  have hendpoints : ((plan.entries.map PlanEntry.snapshot).flatMap
      (fun entry => entry.endpoint_keys)).Nodup := by
    rw [List.flatMap_map]
    exact entries_endpoints_nodup hloaded hbuilt
  have hkeys_map : (plan.entries.map PlanEntry.snapshot).map (fun entry => entry.resolver_id_key) =
      plan.entries.map PlanEntry.resolver_id_key := List.map_map
  rw [← hkeys]
  constructor
  · intro h
    have hnodup := h.resolver_keys
    rwa [List.append_nil, List.nodup_reverse, hkeys_map] at hnodup
  · intro h
    refine ⟨?_, ?_, ?_⟩
    · rwa [List.append_nil, List.nodup_reverse, hkeys_map]
    · rwa [List.append_nil, List.nodup_reverse]
    · show ((_ : List String).reverse ++ []).Nodup
      rwa [List.append_nil, List.nodup_reverse]

/-- The snapshot that was built, over its plan. -/
theorem snapshot_of_build {arguments : NornArguments} {published_at : Int}
    {snapshot : NornSnapshot} (hascend : (plan.entries.map PlanEntry.server_id).Pairwise (· < ·))
    (hroot : IsDigest plan.state_root)
    (h : build_norn_snapshot C plan arguments published_at = .ok snapshot) :
    snapshot.entries = plan.entries ∧ snapshot.state_root = plan.state_root ∧
      (snapshot.InRange ↔ arguments.InRange published_at) := by
  unfold build_norn_snapshot at h
  simp only [bind_eq_ok, exists_unit, Except.ok.injEq] at h
  obtain ⟨genesis, _, address, _, checkpoint, _, root, hroot_eq, _, heq⟩ := h
  rw [← heq]
  refine ⟨?_, ?_, ?_⟩
  · refine List.Pairwise.insertionSort_eq ?_
    exact (List.pairwise_map.mp hascend).imp (fun h => le_of_lt h)
  · exact Except.ok.inj (hroot_eq.symm.trans (normalize_fixed_hex_digest hroot))
  · constructor
    · intro h
      obtain ⟨h1, h2, h3, h4, h5⟩ := h
      exact ⟨h1, h2, h3, h4, h5⟩
    · intro h
      obtain ⟨h1, h2, h3, h4, h5⟩ := h
      exact ⟨h1, h2, h3, h4, h5⟩

/-- The arguments of a deployment as a publisher has them at hand. -/
structure NornArguments.Valid (arguments : NornArguments) (published_at : Int) : Prop where
  genesis_block_hash : ∃ raw, raw.length = 32 ∧ arguments.genesis_block_hash = hex_text raw
  registry_address : ∃ raw, raw.length = 20 ∧ arguments.registry_address = hex_text raw
  checkpoint_hash : ∃ raw, raw.length = 32 ∧ arguments.checkpoint_hash = hex_text raw
  positive : 0 < arguments.chain_id ∧ 0 < arguments.snapshot_version ∧
    0 < arguments.checkpoint_height
  times : 0 < published_at ∧ published_at < arguments.valid_until
  registry_key : (strip arguments.registry_key.toList).isEmpty = false
  issuer : (strip arguments.issuer.toList).isEmpty = false
  key_id : (strip arguments.key_id.toList).isEmpty = false

/-- A plan with an entry has a snapshot. -/
theorem build_norn_snapshot_exists {arguments : NornArguments} {published_at : Int}
    (hascend : (plan.entries.map PlanEntry.server_id).Pairwise (· < ·))
    (hroot : IsDigest plan.state_root) (hsome : plan.entries ≠ [])
    (h : arguments.Valid published_at) :
    ∃ snapshot, build_norn_snapshot C plan arguments published_at = .ok snapshot := by
  obtain ⟨genesis, hgenesis, hgenesis_eq⟩ := h.genesis_block_hash
  obtain ⟨address, haddress, haddress_eq⟩ := h.registry_address
  obtain ⟨checkpoint, hcheckpoint, hcheckpoint_eq⟩ := h.checkpoint_hash
  obtain ⟨hchain, hversion, hheight⟩ := h.positive
  obtain ⟨hpublished, huntil⟩ := h.times
  have hsorted : plan.entries.insertionSort (fun a b => text_le a.server_id b.server_id) =
      plan.entries :=
    List.Pairwise.insertionSort_eq ((List.pairwise_map.mp hascend).imp (fun h => le_of_lt h))
  have hids : (plan.entries.map PlanEntry.server_id).dedup.insertionSort text_le =
      plan.entries.map PlanEntry.server_id := by
    have hnodup : (plan.entries.map PlanEntry.server_id).Nodup := hascend.imp (fun h => ne_of_lt h)
    rw [hnodup.dedup]
    exact List.Pairwise.insertionSort_eq (hascend.imp (fun h => le_of_lt h))
  unfold build_norn_snapshot validate_norn_snapshot_shape
  simp only [hgenesis_eq, haddress_eq, hcheckpoint_eq, normalize_fixed_hex_text hgenesis,
    normalize_fixed_hex_text haddress, normalize_fixed_hex_text hcheckpoint,
    normalize_fixed_hex_digest hroot, hsorted, hids, ok_bind, bind_eq_ok, exists_unit,
    rejectIf_eq_ok, ne_eq, not_true_eq_false, decide_false, true_and, h.registry_key, h.issuer,
    h.key_id, Bool.or_false, List.isEmpty_eq_false_iff.mpr hsome]
  have hheader : (decide (arguments.chain_id ≤ 0) || decide (arguments.snapshot_version ≤ 0) ||
      decide (arguments.checkpoint_height ≤ 0) || decide (published_at ≤ 0) ||
        decide (arguments.valid_until ≤ published_at)) = false := by
    simp only [Bool.or_eq_false_iff, decide_eq_false_iff_not, not_le]
    exact ⟨⟨⟨⟨hchain, hversion⟩, hheight⟩, hpublished⟩, huntil⟩
  exact ⟨_, ⟨hheader, trivial⟩, rfl⟩

/-- The snapshot of a plan is taken, with the plan's root and a record for each identity. -/
def SnapshotTaken (P : Platform) (identities : List Json) (plan : Plan) (snapshot : NornSnapshot) :
    Prop :=
  ∃ read records, NornRegistrySnapshotV1.from_value snapshot.to_value = .ok read ∧
    Norn.norn_state_root P read.entries = .ok plan.state_root ∧
    Norn.snapshot_records P read.toRegistrySnapshot = .ok records ∧
      List.Perm records.keys (identities.map id_text)

theorem snapshot_taken_iff (hdigest : ∀ bytes, IsDigest (P.sha256_hex bytes))
    {arguments : NornArguments} {published_at : Int} {snapshot : NornSnapshot}
    (hloaded : Loaded P identities entered) (hbuilt : Built P C identities plan)
    (hsnapshot : build_norn_snapshot C plan arguments published_at = .ok snapshot)
    (hcollision : NoNameCollision P identities) :
    SnapshotTaken P identities plan snapshot ↔
      Publishable P identities ∧ arguments.InRange published_at := by
  have hmade := made_of_entry hloaded hbuilt
  have hascend := entries_ascend hloaded hbuilt
  obtain ⟨hroot, hroot_digest⟩ := root_of_built hdigest hloaded hbuilt
  obtain ⟨hentries, hstate_root, hrange⟩ := snapshot_of_build hascend hroot_digest hsnapshot
  -- the verifier reads the entries of the plan
  have hread_entries : snapshot.read.entries = plan.entries.map PlanEntry.snapshot :=
    congrArg (List.map PlanEntry.snapshot) hentries
  have hdigests : ∀ entry ∈ snapshot.read.toRegistrySnapshot.entries, entry.Digests := by
    intro entry hentry
    rw [hread_entries] at hentry
    obtain ⟨before, hbefore, heq⟩ := List.mem_map.mp hentry
    obtain ⟨identity, hidentity⟩ := hmade before hbefore
    rw [← heq]
    exact hidentity.digests hdigest
  have hread_root : Norn.norn_state_root P snapshot.read.entries = .ok snapshot.state_root := by
    rw [hread_entries, hstate_root]
    exact hroot
  have hread_digest : IsDigest snapshot.read.toRegistrySnapshot.state_root := by
    show IsDigest snapshot.state_root
    rw [hstate_root]
    exact hroot_digest
  have hrecords := Norn.snapshot_records_iff hdigests hread_digest hread_root
  have happart : Apart snapshot.read.toRegistrySnapshot.entries ⟨∅, [], []⟩ ↔
      (identities.map (fun identity => normalize_name P (id_text identity))).Nodup := by
    show Apart snapshot.read.entries ⟨∅, [], []⟩ ↔ _
    rw [hread_entries]
    exact apart_iff hloaded hbuilt hcollision
  constructor
  · intro h
    obtain ⟨read, records, hread, _, htaken, _⟩ := h
    obtain ⟨⟨hsnapshot_range, hranges⟩, hread⟩ := read_snapshot_iff.mp hread
    rw [hread] at htaken
    obtain ⟨hsound, hapart⟩ := hrecords.mp ⟨records, htaken⟩
    rw [hentries] at hranges
    -- what is asked of an entry is asked of the identity it was made of
    have hconditions : ∀ identity ∈ identities,
        ((id_text identity).utf8ByteSize ≤ 256 ∧
          P.normalize_name (id_text identity) = normalize_name P (id_text identity)) ∧
        (∀ n, int_of (dict_get identity "object_version") = .ok n → n < 2 ^ 64) ∧
        (∀ n, int_of (dict_get identity "valid_until") = .ok n → 0 < n ∧ n < 2 ^ 63) := by
      intro identity hidentity
      obtain ⟨entry, hentry, hmade⟩ := made_of_identity hloaded hbuilt identity hidentity
      refine (sound_iff hmade hcollision).mp ⟨hranges entry hentry, hsound _ ?_⟩
      show entry.snapshot ∈ snapshot.read.entries
      rw [hread_entries]
      exact List.mem_map_of_mem hentry
    refine ⟨⟨happart.mp hapart, ?_, ?_, ?_⟩, hrange.mp hsnapshot_range⟩
    · exact fun identity hidentity => (hconditions identity hidentity).1
    · exact fun identity hidentity => (hconditions identity hidentity).2.1
    · exact fun identity hidentity => (hconditions identity hidentity).2.2
  · intro h
    obtain ⟨hpublishable, harguments⟩ := h
    have hconditions : ∀ entry ∈ plan.entries, entry.InRange ∧ entry.snapshot.Sound P := by
      intro entry hentry
      obtain ⟨identity, hidentity⟩ := hmade entry hentry
      exact (sound_iff hidentity hcollision).mpr
        ⟨hpublishable.server_ids identity hidentity.mem,
          hpublishable.object_versions identity hidentity.mem,
          hpublishable.valid_untils identity hidentity.mem⟩
    have hsound : ∀ entry ∈ snapshot.read.toRegistrySnapshot.entries, entry.Sound P := by
      intro entry hentry
      have hentry : entry ∈ snapshot.read.entries := hentry
      rw [hread_entries] at hentry
      obtain ⟨before, hbefore, heq⟩ := List.mem_map.mp hentry
      rw [← heq]
      exact (hconditions before hbefore).2
    obtain ⟨records, htaken⟩ := hrecords.mpr ⟨hsound, happart.mpr hpublishable.names⟩
    refine ⟨snapshot.read, records, ?_, ?_, htaken, ?_⟩
    · refine read_snapshot_iff.mpr ⟨⟨hrange.mpr harguments, ?_⟩, rfl⟩
      intro entry hentry
      rw [hentries] at hentry
      exact (hconditions entry hentry).1
    · rw [hread_root, hstate_root]
    · rw [Norn.keys_of_snapshot_records hdigests htaken]
      show List.Perm (snapshot.read.entries.map (fun entry => entry.server_id)).reverse _
      rw [hread_entries, List.map_map]
      exact (List.reverse_perm _).trans (entries_perm hbuilt)

/-- The verifier takes the snapshot of a plan exactly if the identities are publishable and the
numbers of the deployment have its types. -/
theorem published_plan_accepted_iff (hdigest : ∀ bytes, IsDigest (P.sha256_hex bytes))
    {issuers : List IssuerPublicKey} {payload : Json} {root_version : Int}
    {target : Except String PlanTarget} {previous_plan : Option Plan} {arguments : NornArguments}
    {published_at : Int} {snapshot : NornSnapshot}
    (hload : load_identities P issuers payload = .ok identities)
    (hplan : build_plan P C identities root_version target previous_plan = .ok plan)
    (hsnapshot : build_norn_snapshot C plan arguments published_at = .ok snapshot)
    (hcollision : NoNameCollision P identities) :
    SnapshotTaken P identities plan snapshot ↔
      Publishable P identities ∧ arguments.InRange published_at := by
  obtain ⟨entered, hloaded⟩ := loaded_of_load_identities hload
  exact snapshot_taken_iff hdigest hloaded (built_of_build_plan hplan) hsnapshot hcollision

end Accepted

/-! ## §8. Recorded plans. -/

/-- The recorded digests of a publication, found again by how the hashed bytes begin. -/
def plan_table : List (String × Nat) := [
  ("resolver-id:r1", 0x74f9075b88d5a5cec41958c9e6b6738f1f26dc0b976b3588444b1dbb4f736585),
  ("endpoint-v2:\x7b\"ip\":\"192.0.2.1\"",
    0x4356fe8ba3df2de8ae5381e548c4983637834aaef5b65b2162c72de1fca5bdb4),
  ("endpoint-v2:\x7b\"ip\":\"192.0.2.2\"",
    0xd99673f51c25f093db2acbddcfb52bc5d95e83c3147921bb140c25e0ad859739),
  ("\x7b\"anycast\":false,\"endpoints\":[\x7b\"ip\":\"192.0.2.1\"",
    0x388baf8c4f20ccd2cb82b303a6bcbeb8333e3b0f55ae4e8640573bb2ca888e40),
  ("\x7b\"anycast\":false,\"endpoints\":[\x7b\"ip\":\"192.0.2.2\"",
    0x062f0ae67f95135824d5644784b61d1bbdcdcc3619e7deaaa4ad1a147a16c5ee),
  ("resolver-leaf-v1|0x74f9075b88d5a5cec41958c9e6b6738f1f26dc0b976b3588444b1dbb4f736585|0x388b",
    0x644a365881755894b563efc2515fc7ef739ea3153dae43beda56232837c4a576),
  ("resolver-leaf-v1|0x74f9075b88d5a5cec41958c9e6b6738f1f26dc0b976b3588444b1dbb4f736585|0x062f",
    0x5e5ddd42f1b09f370a2215ce82789333a14dec9789dcd68da5768087a6f4e949),
  ("node-v1", 0x77fc566fcfc6f73d15e100657394b8ffd5b9cb961195e32d5728ab3ec780841d),
  ("\x7b\"endpoint_unbinds\":[],\"entries\":[\x7b\"endpoint_keys\":[\"0x4356",
    0x7348d72e00b53561ead9a316b336e52ca521fdf569e46ffd2956e75c1aad2ae7),
  ("\x7b\"endpoint_unbinds\":[],\"entries\":[\x7b\"endpoint_keys\":[\"0xd996",
    0x7ac6dd6102b25397ba4764f361153b18a67c5625152bae8a271477a004f7fce3)]

/-- The recorded signatures of two authorities. -/
def plan_recording : Recording where
  digests := []
  keys := [("AQEBAQEBAQEBAQEBAQEBAQEBAQEBAQEBAQEBAQEBAQE=",
    "iojj3XQJ8ZX9UtstPLpdcspnCb8dlBIb83SIAbQPb1w=")]
  signatures := [
    ("iojj3XQJ8ZX9UtstPLpdcspnCb8dlBIb83SIAbQPb1w=",
      "\x7b\"anycast\":false,\"endpoints\":[\x7b\"ip\":\"192.0.2.1\"",
      "/nwIw836paGN2pnvVkuBzVoEXMKKEl1oBSY+txhqys2G0Qo1mA+psFAC0wnuD+JiVcPzzOqoOjO0he3ussXfBw=="),
    ("iojj3XQJ8ZX9UtstPLpdcspnCb8dlBIb83SIAbQPb1w=",
      "\x7b\"anycast\":false,\"endpoints\":[\x7b\"ip\":\"192.0.2.2\"",
      "e00HtsUBdjBTXArDgC1E45HQue26ZJAz/R6INz4f7cDer0PT+m6VYG3O2vPOdUp3sUAdx8G2wHpUoPyfcQBuAQ==")]

/-- Those signatures, and digests from a table. -/
def plan_platform : Platform :=
  { plan_recording.platform with
    sha256_hex := fun bytes => hex_text (low_bytes 32
      (((plan_table.find? (fun entry => Recording.begins bytes entry.1)).map Prod.snd).getD 0))
    to_lowercase := endpoint_platform.to_lowercase
    parse_ip := fun text => if text = "192.0.2.1" || text = "192.0.2.2" then some text else none
    canonical_url := fun _ => none }

theorem low_bytes_length : ∀ count n : Nat, (low_bytes count n).length = count := by
  intro count
  induction count with
  | zero =>
    intro n
    rfl
  | succ count ih =>
    intro n
    rw [low_bytes, List.length_append, ih, List.length_singleton]

theorem plan_platform_digest (bytes : List UInt8) : IsDigest (plan_platform.sha256_hex bytes) :=
  ⟨_, low_bytes_length 32 _, rfl⟩

/-- A signed authority. -/
def lab_authority (server_id ip signature : String) : Json := .object [
  ("schema_version", .string "dns-server-identity-v2"), ("server_id", .string server_id),
  ("operator_id", .string "operator-a"), ("role", .string "AUTHORITATIVE"),
  ("endpoints", .array [.object [("ip", .string ip), ("port", .number 53),
    ("transport", .string "udp")]]),
  ("anycast", .bool false), ("valid_from", .number 1700000000),
  ("valid_until", .number 1900000000), ("object_version", .number 1), ("status", .string "ACTIVE"),
  ("issuer", .string "operator-a"), ("key_id", .string "operator-a-1"),
  ("signature", .string signature)]

/-- An authority named in upper case. -/
def upper_authority : Json := lab_authority "R1" "192.0.2.1"
  "base64:ed25519:/nwIw836paGN2pnvVkuBzVoEXMKKEl1oBSY+txhqys2G0Qo1mA+psFAC0wnuD+JiVcPzzOqoOjO0he3ussXfBw=="

/-- An authority of the same name in lower case. -/
def lower_authority : Json := lab_authority "r1" "192.0.2.2"
  "base64:ed25519:e00HtsUBdjBTXArDgC1E45HQue26ZJAz/R6INz4f7cDer0PT+m6VYG3O2vPOdUp3sUAdx8G2wHpUoPyfcQBuAQ=="

/-- The operator's public key. -/
def lab_issuers : List IssuerPublicKey :=
  [⟨"operator-a", "operator-a-1", "ed25519", "iojj3XQJ8ZX9UtstPLpdcspnCb8dlBIb83SIAbQPb1w="⟩]

/-- A contract on a test chain. -/
def lab_target : PlanTarget where
  chain_id := 31337
  contract_address := "0x1111111111111111111111111111111111111111"
  contract_code_hash := digest_of '2'

/-- The arguments of a Norn snapshot. -/
def lab_arguments : NornArguments where
  chain_id := 31337
  genesis_block_hash := hex_text (List.replicate 32 3)
  registry_address := hex_text (List.replicate 20 17)
  registry_key := "registry"
  snapshot_version := 1
  checkpoint_height := 1
  checkpoint_hash := hex_text (List.replicate 32 4)
  valid_until := 1900000000
  issuer := "operator-a"
  key_id := "operator-a-1"

/-- A list of identities, as an artifact has it. -/
def lab_artifact (identities : List Json) : Json := .object [("identities", .array identities)]

theorem lab_arguments_valid : lab_arguments.Valid 1750000000 :=
  ⟨⟨_, List.length_replicate, rfl⟩, ⟨_, List.length_replicate, rfl⟩, ⟨_, List.length_replicate, rfl⟩,
    by decide, by decide, by decide, by decide, by decide⟩

/-- What is loaded and planned has a snapshot. -/
theorem lab_snapshot_exists {identities : List Json} {plan : Plan}
    {entered : List (HashKey × List String)} (hloaded : Loaded plan_platform identities entered)
    (hbuilt : Built plan_platform ascii_casing identities plan) :
    ∃ snapshot, build_norn_snapshot ascii_casing plan lab_arguments 1750000000 = .ok snapshot := by
  refine build_norn_snapshot_exists (entries_ascend hloaded hbuilt)
    (root_of_built plan_platform_digest hloaded hbuilt).2 ?_ lab_arguments_valid
  intro hempty
  have hlength := (entries_perm hbuilt).length_eq
  rw [hempty, List.map_nil, List.length_nil, List.length_map] at hlength
  exact hloaded.nonempty (List.length_eq_zero_iff.mp hlength.symm)

/-- Two ids that differ in case are distinct for the publisher and one name for the verifier. -/
theorem case_variants_refused : ∃ identities plan snapshot,
    load_identities plan_platform lab_issuers (lab_artifact [upper_authority, lower_authority]) =
      .ok identities ∧
    build_plan plan_platform ascii_casing identities 1 (.ok lab_target) none = .ok plan ∧
    build_norn_snapshot ascii_casing plan lab_arguments 1750000000 = .ok snapshot ∧
      ¬ SnapshotTaken plan_platform identities plan snapshot := by
  -- one evaluation, so that no text is read twice
  have hrecorded :
      (load_identities plan_platform lab_issuers
        (lab_artifact [upper_authority, lower_authority])).toOption.isSome = true ∧
      (build_plan plan_platform ascii_casing [upper_authority, lower_authority] 1
        (.ok lab_target) none).toOption.isSome = true ∧
      normalize_name plan_platform (id_text upper_authority) =
        normalize_name plan_platform (id_text lower_authority) := by
    decide +kernel
  obtain ⟨hload, hplan, hsame⟩ := hrecorded
  obtain ⟨identities, hidentities⟩ := Option.isSome_iff_exists.mp hload
  have hidentities := toOption_eq_some hidentities
  have hlisted := listed_of_load_identities hidentities
  have heq : identities = [upper_authority, lower_authority] := (Json.array.inj hlisted).symm
  obtain ⟨plan, hplan⟩ := Option.isSome_iff_exists.mp hplan
  have hplan := toOption_eq_some hplan
  rw [← heq] at hplan
  obtain ⟨entered, hloaded⟩ := loaded_of_load_identities hidentities
  have hbuilt := built_of_build_plan hplan
  obtain ⟨snapshot, hsnapshot⟩ := lab_snapshot_exists hloaded hbuilt
  refine ⟨identities, plan, snapshot, hidentities, hplan, hsnapshot, ?_⟩
  intro htaken
  have hcollision : NoNameCollision plan_platform [upper_authority, lower_authority] := by
    unfold NoNameCollision
    decide +kernel
  rw [← heq] at hcollision
  have hnames := ((snapshot_taken_iff plan_platform_digest hloaded hbuilt hsnapshot hcollision).mp
    htaken).1.names
  rw [heq, List.map_cons, hsame] at hnames
  exact (List.nodup_cons.mp hnames).1 List.mem_cons_self

/-- A single authority is taken. -/
theorem single_authority_taken : ∃ plan snapshot,
    build_plan plan_platform ascii_casing [lower_authority] 1 (.ok lab_target) none = .ok plan ∧
    build_norn_snapshot ascii_casing plan lab_arguments 1750000000 = .ok snapshot ∧
      SnapshotTaken plan_platform [lower_authority] plan snapshot := by
  have hrecorded :
      (load_identities plan_platform lab_issuers
        (lab_artifact [lower_authority])).toOption.isSome = true ∧
      (build_plan plan_platform ascii_casing [lower_authority] 1
        (.ok lab_target) none).toOption.isSome = true := by
    decide +kernel
  obtain ⟨hload, hplan⟩ := hrecorded
  obtain ⟨identities, hidentities⟩ := Option.isSome_iff_exists.mp hload
  have hidentities := toOption_eq_some hidentities
  have heq : identities = [lower_authority] :=
    (Json.array.inj (listed_of_load_identities hidentities)).symm
  rw [heq] at hidentities
  obtain ⟨plan, hplan⟩ := Option.isSome_iff_exists.mp hplan
  have hplan := toOption_eq_some hplan
  obtain ⟨entered, hloaded⟩ := loaded_of_load_identities hidentities
  obtain ⟨snapshot, hsnapshot⟩ := lab_snapshot_exists hloaded (built_of_build_plan hplan)
  refine ⟨plan, snapshot, hplan, hsnapshot, ?_⟩
  have hcollision : NoNameCollision plan_platform [lower_authority] := by
    unfold NoNameCollision
    decide +kernel
  refine (published_plan_accepted_iff plan_platform_digest hidentities hplan hsnapshot
    hcollision).mpr ⟨⟨?_, ?_, ?_, ?_⟩, ?_⟩
  · exact List.nodup_singleton _
  · intro identity hidentity
    rw [List.mem_singleton.mp hidentity]
    decide +kernel
  · intro identity hidentity n hn
    rw [List.mem_singleton.mp hidentity] at hn
    rw [← Except.ok.inj (show Except.ok 1 = Except.ok n from hn)]
    decide
  · intro identity hidentity n hn
    rw [List.mem_singleton.mp hidentity] at hn
    rw [← Except.ok.inj (show Except.ok 1900000000 = Except.ok n from hn)]
    decide
  · unfold lab_arguments
    refine ⟨⟨?_, ?_⟩, ⟨?_, ?_⟩, ⟨?_, ?_⟩, ⟨?_, ?_⟩, ⟨?_, ?_⟩⟩ <;> decide

end ResolverIdentity.Publisher
