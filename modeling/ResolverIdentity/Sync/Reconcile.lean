/-
  ResolverIdentity.Sync.Reconcile: one cycle of the Registry synchronizer.

  `reconcile` of `ri-registry-sync/src/main.rs`, and the types of `ri-chain-adapter`
  it works on.  What the adapter answers in a cycle, and what the identity file says
  then, come with the cycle.

  Main results:
    * `reconcile_cases`: a cycle applies its whole identity set or changes nothing;
    * `only_backed_served`: what the store gives out, the last applied snapshot backs.
-/
import Mathlib.Data.Finset.Dedup
import Mathlib.Data.List.AList
import ResolverIdentity.Agent.Surroundings
import ResolverIdentity.Core.Policy
import ResolverIdentity.Core.RegistryKeys
import ResolverIdentity.Store.ExactSnapshots

namespace ResolverIdentity.Sync

open Library Store

/-! ## §1. What an adapter answers. -/

/-- The Registry that is followed. -/
structure ChainTarget where
  adapter : String
  chain_identity : String
  registry_locator : String
  registry_schema_hash : String
  adapter_metadata : RegistryAdapterMetadataV2

/-- A block the chain will not take back. -/
structure FinalizedCheckpoint where
  number : Nat
  hash : String
  finality_type : RegistryFinalityTypeV2

/-- A resolver as the chain has it; the owners stand under their endpoint keys. -/
structure RegistryRecord where
  resolver_id_key : String
  object_hash : String
  state_root : String
  object_version : Nat
  valid_until : Int
  resolver_status : String
  root_status : String
  endpoint_owners : AList (fun _ : String => String)

/-- What an adapter read of the Registry. -/
structure ChainSnapshot where
  checkpoint : FinalizedCheckpoint
  state_root : String
  generation : Nat
  records : AList (fun _ : String => RegistryRecord)

/-- The reference of a record at a checkpoint. -/
def registry_reference (target : ChainTarget) (checkpoint : FinalizedCheckpoint)
    (generation : Nat) (record : RegistryRecord) : RegistryReferenceV2 where
  chain_adapter := target.adapter
  chain_identity := target.chain_identity
  registry_locator := target.registry_locator
  registry_schema_hash := target.registry_schema_hash
  adapter_metadata := target.adapter_metadata
  checkpoint_height := checkpoint.number
  checkpoint_hash := checkpoint.hash
  finality_type := checkpoint.finality_type
  state_root := record.state_root
  object_hash := record.object_hash
  object_version := record.object_version
  resolver_status := record.resolver_status
  root_status := record.root_status
  endpoint_binding_status := "MATCHED"
  snapshot_generation := generation

/-- `str::to_ascii_lowercase`. -/
def to_ascii_lowercase (text : String) : String := String.ofList (text.toList.map Char.toLower)

/-- Lower case, `0x` and the given number of bytes. -/
def normalize_hash (value : String) (bytes : Nat) : Except String String := do
  let normalized := to_ascii_lowercase value
  rejectIf (normalized.toList.take 2 != ['0', 'x']) "hex value lacks 0x prefix"
  rejectIf (!is_hex_width normalized bytes)
    ("hex value must contain " ++ toString bytes ++ " bytes")
  .ok normalized

/-- The errors of a cycle. -/
inductive SyncError where
  | text (text : String)
  | store (error : StoreError)
  deriving DecidableEq

/-- What the adapter answers to the calls of one cycle. -/
structure AdapterAnswers where
  read_snapshot : Except String ChainSnapshot
  /-- `block_hash` of the stored checkpoint's height. -/
  canonical_hash : Except String String
  /-- `block_hash` of the snapshot's height. -/
  confirmed_hash : Except String String

/-! ## §2. Checks. -/

section Checks

variable (P : Platform)

/-- The identity is signed by a trusted issuer and valid now. -/
def validate_identity_artifact (issuer_keys : IssuerKeyRegistry) (now : Int)
    (identity : DnsServerIdentityV2) : Except String Unit := do
  let issuer_key ← okOr (issuer_keys.get identity.issuer identity.key_id)
    "identity issuer key is not trusted"
  (P.verify_ed25519 identity.to_value issuer_key).mapError EvidenceValidationError.text
  rejectIf (!identity.active_at now) "identity artifact is not currently active"

/-- The registry keys of the endpoints, in order. -/
def registry_keys : List DnsEndpoint → Except EvidenceValidationError (List String)
  | [] => .ok []
  | endpoint :: rest => do
    let key ← P.registry_key endpoint
    let keys ← registry_keys rest
    .ok (key :: keys)

/-- The Registry's record is the identity's. -/
def validate_registry_record (identity : DnsServerIdentityV2) (record : RegistryRecord) :
    Except String Unit := do
  let expected_resolver_key := P.resolver_id_key identity.server_id
  rejectIf (record.resolver_id_key != expected_resolver_key ||
      record.object_hash != P.object_hash identity.to_value ||
      record.object_version != identity.object_version ||
      record.valid_until != identity.valid_until ||
      record.resolver_status != "ACTIVE" || record.root_status != "ACTIVE")
    "Registry record does not match the signed identity"
  let expected_endpoints ← (registry_keys P identity.endpoints).mapError EvidenceValidationError.text
  let actual_endpoints := record.endpoint_owners.keys
  rejectIf (actual_endpoints.toFinset != expected_endpoints.toFinset ||
      record.endpoint_owners.entries.any (fun entry => entry.2 != expected_resolver_key))
    "Registry endpoint bindings do not match the signed identity"

/-- The first loop: every artifact on its own. -/
def validate_artifacts (issuer_keys : IssuerKeyRegistry) (now : Int) :
    List DnsServerIdentityV2 → Except SyncError Unit
  | [] => .ok ()
  | identity :: rest => do
    (validate_identity_artifact P issuer_keys now identity).mapError
      (fun error => .text (identity.server_id ++ ": " ++ error))
    validate_artifacts issuer_keys now rest

/-- The stored checkpoint is not ahead, and still on the chain. -/
def check_checkpoint (checkpoint : Option EvidenceStore.RegistryCheckpoint)
    (snapshot : ChainSnapshot) (canonical_hash : Except String String) : Except SyncError Unit :=
  match checkpoint with
  | none => .ok ()
  | some checkpoint => do
    rejectIf (snapshot.checkpoint.number < checkpoint.finalized_block)
      (.text ("finalized block rollback: stored " ++ toString checkpoint.finalized_block ++
        ", received " ++ toString snapshot.checkpoint.number))
    let canonical_checkpoint_hash ← canonical_hash.mapError .text
    rejectIf (canonical_checkpoint_hash != checkpoint.finalized_block_hash)
      (.text "stored finalized checkpoint is no longer canonical")

/-- One identity with the record the snapshot has of it. -/
def snapshot_record (target : ChainTarget) (snapshot : ChainSnapshot)
    (identity : DnsServerIdentityV2) : Except SyncError EvidenceStore.IdentityRecord := do
  let record ← okOr (snapshot.records.lookup identity.server_id)
    (.text ("Registry has no record for " ++ identity.server_id))
  rejectIf (record.state_root != snapshot.state_root)
    (.text (identity.server_id ++ ": Registry record state root differs from the snapshot root"))
  (validate_registry_record P identity record).mapError
    (fun error => .text (identity.server_id ++ ": " ++ error))
  .ok (identity, registry_reference target snapshot.checkpoint snapshot.generation record)

/-- The second loop. -/
def snapshot_records (target : ChainTarget) (snapshot : ChainSnapshot) :
    List DnsServerIdentityV2 → Except SyncError (List EvidenceStore.IdentityRecord)
  | [] => .ok []
  | identity :: rest => do
    let record ← snapshot_record P target snapshot identity
    let records ← snapshot_records target snapshot rest
    .ok (record :: records)

end Checks

/-! ## §3. The cycle. -/

/-- What one call of `reconcile` works on. -/
structure Cycle where
  target : ChainTarget
  issuer_keys : IssuerKeyRegistry
  identities : List DnsServerIdentityV2
  now : Int
  answers : AdapterAnswers

section Cycles

variable (P : Platform)

/-- Everything in front of `apply_registry_snapshot`. -/
def prepare_records (cycle : Cycle) (s : EvidenceStore) :
    Except SyncError (List EvidenceStore.IdentityRecord) := do
  validate_artifacts P cycle.issuer_keys cycle.now cycle.identities
  let snapshot ← cycle.answers.read_snapshot.mapError .text
  let checkpoint ← (EvidenceStore.registry_checkpoint_from s.ri_v2_meta).mapError .store
  check_checkpoint checkpoint snapshot cycle.answers.canonical_hash
  let records ← snapshot_records P cycle.target snapshot cycle.identities
  let confirmed_hash ← cycle.answers.confirmed_hash.mapError .text
  rejectIf (confirmed_hash != snapshot.checkpoint.hash)
    (.text "finalized block hash changed during reconciliation")
  .ok records

/-- One cycle of the synchronizer. -/
def reconcile (cycle : Cycle) (s : EvidenceStore) : Except SyncError Nat × EvidenceStore :=
  match prepare_records P cycle s with
  | .error error => (.error error, s)
  | .ok records =>
    let applied := s.apply_registry_snapshot P records cycle.now
    (match applied.1 with
      | .ok _ => .ok records.length
      | .error error => .error (.store error), applied.2)

/-- The two connections of `lookup_identity`, with nothing in between. -/
def lookup_identity (s : EvidenceStore) (endpoint : DnsEndpoint) :
    Except StoreError (Option EvidenceStore.IdentityRecord) := do
  let server_id ← s.lookup_server_id P endpoint
  match server_id with
  | none => .ok none
  | some server_id => s.get_identity server_id

end Cycles

/-! ## §4. What the checks establish. -/

section Checked

variable {P : Platform} {identity : DnsServerIdentityV2} {record : RegistryRecord}
variable {target : ChainTarget} {snapshot : ChainSnapshot} {issuer_keys : IssuerKeyRegistry}
variable {now : Int}

/-- A trusted key signed the identity, and it is active. -/
structure Genuine (P : Platform) (issuer_keys : IssuerKeyRegistry) (now : Int)
    (identity : DnsServerIdentityV2) : Prop where
  signed : ∃ key, issuer_keys.get identity.issuer identity.key_id = some key ∧
    P.verify_ed25519 identity.to_value key = .ok ()
  active : identity.active_at now = true

/-- The record is the identity's, active, and owns its endpoints. -/
structure Matches (P : Platform) (identity : DnsServerIdentityV2) (record : RegistryRecord) :
    Prop where
  resolver_id_key : record.resolver_id_key = P.resolver_id_key identity.server_id
  object_hash : record.object_hash = P.object_hash identity.to_value
  object_version : record.object_version = identity.object_version
  valid_until : record.valid_until = identity.valid_until
  resolver_status : record.resolver_status = "ACTIVE"
  root_status : record.root_status = "ACTIVE"
  owned : ∀ endpoint ∈ identity.endpoints, ∃ key, P.registry_key endpoint = .ok key ∧
    record.endpoint_owners.lookup key = some (P.resolver_id_key identity.server_id)

/-- A validated identity is genuine. -/
theorem genuine_of_validate
    (h : validate_identity_artifact P issuer_keys now identity = .ok ()) :
    Genuine P issuer_keys now identity := by
  unfold validate_identity_artifact at h
  simp only [bind_eq_ok, exists_unit, okOr_eq_ok, mapError_eq_ok, rejectIf_eq_ok,
    Bool.not_eq_false'] at h
  obtain ⟨key, hkey, hsigned, hactive⟩ := h
  exact ⟨⟨key, hkey, hsigned⟩, hactive⟩

/-- So is every identity of a validated file. -/
theorem genuine_of_artifacts {identities : List DnsServerIdentityV2}
    (h : validate_artifacts P issuer_keys now identities = .ok ()) :
    ∀ identity ∈ identities, Genuine P issuer_keys now identity := by
  induction identities with
  | nil => intro identity hmem; cases hmem
  | cons first rest ih =>
    unfold validate_artifacts at h
    simp only [bind_eq_ok, exists_unit, mapError_eq_ok] at h
    intro identity hmem
    rcases List.mem_cons.mp hmem with heq | hlater
    · rw [heq]
      exact genuine_of_validate h.1
    · exact ih h.2 identity hlater

/-- Every endpoint has its key in the list. -/
theorem mem_registry_keys {endpoints : List DnsEndpoint} {keys : List String}
    (h : registry_keys P endpoints = .ok keys) :
    ∀ endpoint ∈ endpoints, ∃ key ∈ keys, P.registry_key endpoint = .ok key := by
  induction endpoints generalizing keys with
  | nil => intro endpoint hmem; cases hmem
  | cons first rest ih =>
    unfold registry_keys at h
    obtain ⟨key, hkey, h⟩ := bind_eq_ok.mp h
    obtain ⟨later, hlater, h⟩ := bind_eq_ok.mp h
    rw [← Except.ok.inj h]
    intro endpoint hmem
    rcases List.mem_cons.mp hmem with heq | hrest
    · rw [heq]
      exact ⟨key, List.mem_cons_self, hkey⟩
    · obtain ⟨found, hfound, heq⟩ := ih hlater endpoint hrest
      exact ⟨found, List.mem_cons_of_mem _ hfound, heq⟩

/-- A validated record is the identity's. -/
theorem matches_of_validate (h : validate_registry_record P identity record = .ok ()) :
    Matches P identity record := by
  unfold validate_registry_record at h
  simp only [bind_eq_ok, exists_unit, mapError_eq_ok, rejectIf_eq_ok, Bool.or_eq_false_iff,
    bne_eq_false_iff_eq, List.any_eq_false, bne_iff_ne, not_not] at h
  obtain ⟨⟨⟨⟨⟨⟨hkey, hhash⟩, hversion⟩, huntil⟩, hresolver⟩, hroot⟩, keys, hkeys, hsame, howners⟩ := h
  refine ⟨hkey, hhash, hversion, huntil, hresolver, hroot, ?_⟩
  intro endpoint hmem
  obtain ⟨key, hkey_mem, hregistry⟩ := mem_registry_keys hkeys endpoint hmem
  -- the key is one of those the chain has owners for
  have hlisted : key ∈ record.endpoint_owners.keys := by
    rw [← List.mem_toFinset, hsame, List.mem_toFinset]
    exact hkey_mem
  obtain ⟨owner, howner⟩ := Option.isSome_iff_exists.mp
    (AList.lookup_isSome.mpr (AList.mem_keys.mp hlisted))
  refine ⟨key, hregistry, ?_⟩
  have howned : owner = P.resolver_id_key identity.server_id :=
    howners _ (AList.mem_lookup_iff.mp howner)
  rw [howner, howned]

/-- The entry is an identity whose record the snapshot has, with the reference made from
that record. -/
def Recorded (P : Platform) (target : ChainTarget) (snapshot : ChainSnapshot)
    (entry : EvidenceStore.IdentityRecord) : Prop :=
  ∃ record, snapshot.records.lookup entry.1.server_id = some record ∧ Matches P entry.1 record ∧
    entry.2 = registry_reference target snapshot.checkpoint snapshot.generation record

theorem of_snapshot_records {identities : List DnsServerIdentityV2}
    {records : List EvidenceStore.IdentityRecord}
    (h : snapshot_records P target snapshot identities = .ok records) :
    records.map Prod.fst = identities ∧ ∀ entry ∈ records, Recorded P target snapshot entry := by
  induction identities generalizing records with
  | nil =>
    rw [← Except.ok.inj h]
    exact ⟨rfl, fun entry hmem => by cases hmem⟩
  | cons first rest ih =>
    unfold snapshot_records at h
    obtain ⟨one, hone, h⟩ := bind_eq_ok.mp h
    obtain ⟨later, hlater, h⟩ := bind_eq_ok.mp h
    obtain ⟨hmap, hall⟩ := ih hlater
    unfold snapshot_record at hone
    simp only [bind_eq_ok, exists_unit, okOr_eq_ok, rejectIf_eq_ok, mapError_eq_ok,
      Except.ok.injEq] at hone
    obtain ⟨record, hlookup, _, hvalid, heq⟩ := hone
    rw [← Except.ok.inj h, List.map_cons, hmap, ← heq]
    refine ⟨rfl, ?_⟩
    intro entry hmem
    rcases List.mem_cons.mp hmem with heq' | hrest
    · rw [heq']
      exact ⟨record, hlookup, matches_of_validate hvalid, rfl⟩
    · exact hall entry hrest

end Checked

/-! ## §5. Runs. -/

/-- A set that was applied, and what it was checked against. -/
structure Applied where
  target : ChainTarget
  issuer_keys : IssuerKeyRegistry
  identities : List DnsServerIdentityV2
  now : Int
  snapshot : ChainSnapshot

/-- The store, and the set applied to it last. -/
structure SyncState where
  store : EvidenceStore
  last : Option Applied

variable (P : Platform)

/-- The set a cycle applies, when it succeeds. -/
def Cycle.applied (cycle : Cycle) : Option Applied :=
  match cycle.answers.read_snapshot with
  | .error _ => none
  | .ok snapshot => some ⟨cycle.target, cycle.issuer_keys, cycle.identities, cycle.now, snapshot⟩

/-- The state after a cycle, whatever its outcome. -/
def SyncState.take (st : SyncState) (cycle : Cycle) : SyncState :=
  let result := reconcile P cycle st.store
  { store := result.2
    last := match result.1 with
      | .ok _ => cycle.applied
      | .error _ => st.last }

/-- Cycles one after the other, over a store that was empty. -/
def sync : Machine SyncState Cycle where
  init := ⟨.open_, none⟩
  step st cycle := some (st.take P cycle)

/-- What backs an identity and a reference given out for an endpoint. -/
structure Backed (applied : Applied) (endpoint : DnsEndpoint) (identity : DnsServerIdentityV2)
    (registry : RegistryReferenceV2) : Prop where
  listed : identity ∈ applied.identities
  genuine : Genuine P applied.issuer_keys applied.now identity
  recorded : ∃ record, applied.snapshot.records.lookup identity.server_id = some record ∧
    Matches P identity record ∧
    registry = (registry_reference applied.target applied.snapshot.checkpoint
      applied.snapshot.generation record).read_back ∧
    ∃ bound ∈ identity.endpoints, P.cache_key bound = P.cache_key endpoint ∧
      ∃ key, P.registry_key bound = .ok key ∧
        record.endpoint_owners.lookup key = some record.resolver_id_key

/-- A set that passed every check of its cycle, its records in the store and nothing
else that is live. -/
structure Reconciled (applied : Applied) (s : EvidenceStore) : Prop where
  genuine : ∀ identity ∈ applied.identities, Genuine P applied.issuer_keys applied.now identity
  exact : ∃ before records, records.map Prod.fst = applied.identities ∧
    (∀ entry ∈ records, Recorded P applied.target applied.snapshot entry) ∧
    EvidenceStore.Exact P before records s
  checkpoint : EvidenceStore.registry_checkpoint_from s.ri_v2_meta =
    .ok (some ⟨applied.snapshot.checkpoint.number, applied.snapshot.checkpoint.hash⟩)

/-- The store holds what was applied last, and only that. -/
def SyncState.Holds (st : SyncState) : Prop :=
  match st.last with
  | none => st.store = .open_
  | some applied => Reconciled P applied st.store

/-- What one cycle does: all of its set, or nothing. -/
inductive Outcome (cycle : Cycle) (s : EvidenceStore) :
    Except SyncError Nat × EvidenceStore → Prop where
  | applied (applied : Applied) (records : List EvidenceStore.IdentityRecord) (s' : EvidenceStore)
      (happlied : cycle.applied = some applied) (hall : records.map Prod.fst = cycle.identities)
      (hexact : EvidenceStore.Exact P s records s') (hreconciled : Reconciled P applied s') :
      Outcome cycle s (.ok cycle.identities.length, s')
  | refused (error : SyncError) : Outcome cycle s (.error error, s)

section Runs

variable {P} {cycle : Cycle} {s s' : EvidenceStore} {applied : Applied} {st : SyncState}

/-- An accepted call leaves its records and nothing else live, and the checkpoint of the
first record. -/
theorem exact_of_apply {records : List EvidenceStore.IdentityRecord} {success_epoch : Int}
    {generation : Nat}
    (h : s.apply_registry_snapshot P records success_epoch = (.ok generation, s')) :
    EvidenceStore.Exact P s records s' ∧ ∃ record₀ ∈ records,
      EvidenceStore.registry_checkpoint_from s'.ri_v2_meta =
        .ok (some ⟨record₀.2.checkpoint_height, record₀.2.checkpoint_hash⟩) := by
  obtain ⟨_, record₀, rest, hrecords, _, hids, _, _, acc, acc', hremove, hwrite, hfinish⟩ :=
    EvidenceStore.apply_registry_snapshot_iff.mp h
  have hexact := (EvidenceStore.applied_of_loops hids hremove hwrite).exact
  have hs' : s' = (EvidenceStore.finish_snapshot record₀.2 success_epoch acc').2 :=
    congrArg Prod.snd hfinish
  have hfirst : record₀ ∈ records := by
    rw [hrecords]
    exact List.mem_cons_self
  rw [hs']
  refine ⟨?_, record₀, hfirst, rfl⟩
  unfold EvidenceStore.finish_snapshot
  cases acc'.2 with
  | true =>
    -- a cleared graph cache is not one of the three tables
    rcases acc'.1.bump_generation_cases with ⟨_, heq⟩ | ⟨_, heq⟩
    · simp only [if_true, heq]
      exact hexact.of_tables rfl rfl rfl
    · simp only [if_true, heq]
      exact hexact.of_tables rfl rfl rfl
  | false => exact hexact.of_tables rfl rfl rfl

/-- A cycle applies its whole identity set, checked against one snapshot, or changes
nothing. -/
theorem reconcile_cases (cycle : Cycle) (s : EvidenceStore) :
    Outcome P cycle s (reconcile P cycle s) := by
  unfold reconcile
  cases hprepare : prepare_records P cycle s with
  | error error => exact .refused error
  | ok records =>
    unfold prepare_records at hprepare
    simp only [bind_eq_ok, exists_unit, mapError_eq_ok, rejectIf_eq_ok,
      Except.ok.injEq] at hprepare
    obtain ⟨hartifacts, snapshot, hsnapshot, checkpoint, _, _, found, hfound, _, _, _, heq⟩ :=
      hprepare
    rw [heq] at hfound
    obtain ⟨hmap, hrecords⟩ := of_snapshot_records hfound
    cases happly : s.apply_registry_snapshot P records cycle.now with
    | mk outcome s' =>
      cases outcome with
      | error error =>
        have hkept : s' = s := transaction_error happly
        simp only [happly, hkept]
        exact .refused (.store error)
      | ok generation =>
        obtain ⟨hexact, record₀, hfirst, hcheckpoint⟩ := exact_of_apply happly
        -- every reference has the checkpoint of the snapshot
        obtain ⟨_, _, _, hmade⟩ := hrecords record₀ hfirst
        rw [hmade] at hcheckpoint
        have hlength : records.length = cycle.identities.length := by
          rw [← hmap, List.length_map]
        have happlied : cycle.applied =
            some ⟨cycle.target, cycle.issuer_keys, cycle.identities, cycle.now, snapshot⟩ := by
          unfold Cycle.applied
          rw [hsnapshot]
        simp only [happly, hlength]
        exact .applied _ records s' happlied hmap hexact
          ⟨genuine_of_artifacts hartifacts, ⟨s, records, hmap, hrecords, hexact⟩, hcheckpoint⟩

/-- What an applied set leaves to be given out. -/
theorem Reconciled.backed (h : Reconciled P applied s) {endpoint : DnsEndpoint}
    {identity : DnsServerIdentityV2} {registry : RegistryReferenceV2}
    (hlookup : lookup_identity P s endpoint = .ok (some (identity, registry))) :
    Backed P applied endpoint identity registry := by
  obtain ⟨before, records, hmap, hrecorded, hexact⟩ := h.exact
  unfold lookup_identity EvidenceStore.lookup_server_id at hlookup
  simp only [bind_eq_ok, mapError_eq_ok] at hlookup
  obtain ⟨owner, ⟨key, hkey, howner⟩, hlookup⟩ := hlookup
  have howner := Except.ok.inj howner
  cases howner_eq : owner with
  | none =>
    rw [howner_eq] at hlookup
    cases hlookup
  | some id =>
    rw [howner_eq] at hlookup howner
    have hget : s.get_identity id = .ok (some (identity, registry)) := hlookup
    unfold EvidenceStore.get_identity at hget
    cases hrow : s.ri_v2_identities.get? id with
    | none =>
      rw [hrow] at hget
      cases hget
    | some row =>
      rw [hrow] at hget
      obtain ⟨decoded, hdecode, hget⟩ := bind_eq_ok.mp hget
      obtain ⟨hidentity, hdecoded⟩ := Prod.mk.inj (Option.some.inj (Except.ok.inj hget))
      have hread : registry = row.registry_json.read_back := by
        rw [← hdecoded]
        exact (RegistryReferenceV2.read_back_of_reread (EvidenceStore.decode_reference_eq_ok.mp hdecode)).symm
      by_cases hlisted : id ∈ EvidenceStore.server_ids records
      · obtain ⟨record, hrecord, hid, bound, hbound, hbound_key⟩ :=
          (hexact.lookup key id hlisted).mp howner
        have hstored := hexact.listed record hrecord
        rw [hid, hrow] at hstored
        -- the row is the one written for the record
        have hrow_eq : row = EvidenceStore.written_row record := Option.some.inj hstored
        have hsame : record.1 = identity := by
          rw [← hidentity, hrow_eq]
          rfl
        have hreference : registry = record.2.read_back := by
          rw [hread, hrow_eq]
          rfl
        have hmem : identity ∈ applied.identities := by
          rw [← hmap, ← hsame]
          exact List.mem_map_of_mem hrecord
        obtain ⟨chain_record, hchain, hmatches, hmade⟩ := hrecorded record hrecord
        rw [hmade] at hreference
        rw [hsame] at hchain hmatches hbound
        refine ⟨hmem, h.genuine identity hmem, chain_record, hchain, hmatches, hreference, bound,
          hbound, hbound_key.trans hkey.symm, ?_⟩
        obtain ⟨chain_key, hchain_key, howned⟩ := hmatches.owned bound hbound
        exact ⟨chain_key, hchain_key, howned.trans (congrArg some hmatches.resolver_id_key.symm)⟩
      · -- a row that is not listed has no endpoint left
        exact absurd howner ((hexact.unlisted id row hlisted hrow).2.1 key)

/-- A cycle leaves what it applied, or what was there. -/
theorem take_cases (cycle : Cycle) (st : SyncState) :
    (∃ applied, cycle.applied = some applied ∧ (st.take P cycle).last = some applied ∧
      Reconciled P applied (st.take P cycle).store) ∨ st.take P cycle = st := by
  unfold SyncState.take
  have hcases := reconcile_cases (P := P) cycle st.store
  generalize reconcile P cycle st.store = result at hcases ⊢
  cases hcases with
  | applied applied records s' happlied _ _ hreconciled =>
    exact Or.inl ⟨applied, happlied, happlied, hreconciled⟩
  | refused error => exact Or.inr rfl

/-- A cycle keeps what holds of the state. -/
theorem holds_take (h : st.Holds P) (cycle : Cycle) : (st.take P cycle).Holds P := by
  rcases take_cases (P := P) cycle st with ⟨applied, _, hlast, hreconciled⟩ | hkept
  · unfold SyncState.Holds
    rw [hlast]
    exact hreconciled
  · rw [hkept]
    exact h

/-- So does every run of them. -/
theorem holds_of_run {cycles : List Cycle} (hrun : (sync P).run cycles = some st) :
    st.Holds P := by
  refine Machine.invariant (M := sync P) (I := SyncState.Holds P) rfl ?_ hrun
  intro st cycle st' hinv hstep
  rw [← Option.some.inj hstep]
  exact holds_take hinv cycle

/-- An empty store gives nothing out. -/
theorem lookup_identity_open {endpoint : DnsEndpoint} {record : EvidenceStore.IdentityRecord} :
    lookup_identity P .open_ endpoint ≠ .ok (some record) := by
  intro h
  unfold lookup_identity EvidenceStore.lookup_server_id at h
  simp only [bind_eq_ok, mapError_eq_ok] at h
  obtain ⟨owner, ⟨key, _, howner⟩, h⟩ := h
  rw [← Except.ok.inj howner] at h
  cases h

/-- Each cycle is all or nothing, and what a lookup returns is backed by the snapshot of
the set applied last. -/
theorem only_backed_served {cycles : List Cycle} (hrun : (sync P).run cycles = some st) :
    (∀ cycle, Outcome P cycle st.store (reconcile P cycle st.store)) ∧
      ∀ endpoint identity registry,
        lookup_identity P st.store endpoint = .ok (some (identity, registry)) →
          ∃ applied, st.last = some applied ∧ Backed P applied endpoint identity registry := by
  refine ⟨fun cycle => reconcile_cases cycle st.store, ?_⟩
  intro endpoint identity registry hlookup
  have hinv := holds_of_run hrun
  unfold SyncState.Holds at hinv
  cases hlast : st.last with
  | none =>
    rw [hlast] at hinv
    rw [show st.store = .open_ from hinv] at hlookup
    exact absurd hlookup lookup_identity_open
  | some applied =>
    rw [hlast] at hinv
    exact ⟨applied, rfl, Reconciled.backed hinv hlookup⟩

end Runs

/-! ## §6. A recorded run. -/

open Agent

/-- The recorded digests of `resolver_a`, its key and the key of its endpoint. -/
def registry_recording : Recording :=
  lab_recording [
    ("endpoint-v2:\x7b\"ip\":\"192.0.2.1\",\"port\":53,\"transport\":\"udp\"\x7d",
      "0x4356fe8ba3df2de8ae5381e548c4983637834aaef5b65b2162c72de1fca5bdb4"),
    ("resolver-id:resolver-a",
      "0x7b2714522383dc3c058e243af8095abfda8814ed999fe3dcfa590ba057faff1b")] []

/-- What the Registry says of `resolver-a`. -/
def lab_resolver_record : RegistryRecord where
  resolver_id_key := registry_recording.platform.resolver_id_key "resolver-a"
  object_hash := resolver_a.2.object_hash
  state_root := digest_of '4'
  object_version := 1
  valid_until := 1900000000
  resolver_status := "ACTIVE"
  root_status := "ACTIVE"
  endpoint_owners := AList.insert
    "0x4356fe8ba3df2de8ae5381e548c4983637834aaef5b65b2162c72de1fca5bdb4"
    (registry_recording.platform.resolver_id_key "resolver-a") ∅

/-- A snapshot of that one record. -/
def lab_snapshot : ChainSnapshot where
  checkpoint := ⟨100, digest_of '3', .evmFinalized⟩
  state_root := digest_of '4'
  generation := 10
  records := AList.insert "resolver-a" lab_resolver_record ∅

/-- The Registry of `resolver-a`. -/
def lab_target : ChainTarget where
  adapter := resolver_a.2.chain_adapter
  chain_identity := resolver_a.2.chain_identity
  registry_locator := resolver_a.2.registry_locator
  registry_schema_hash := resolver_a.2.registry_schema_hash
  adapter_metadata := resolver_a.2.adapter_metadata

/-- A cycle of `resolver_a`, and one in which the node has another block at its height. -/
def lab_cycle (canonical_hash : String) : Cycle where
  target := lab_target
  issuer_keys := lab_issuer_keys
  identities := [resolver_a.1]
  now := 1750000000
  answers := {
    read_snapshot := .ok lab_snapshot
    canonical_hash := .ok canonical_hash
    confirmed_hash := .ok (digest_of '3') }

/-- A cycle, then one whose block has another hash. -/
def lab_cycles : List Cycle := [lab_cycle (digest_of '3'), lab_cycle (digest_of '5')]

/-- The state after both. -/
def lab_state : SyncState :=
  lab_cycles.foldl (SyncState.take registry_recording.platform) ⟨.open_, none⟩

/-- The second cycle fails, and the store still gives out what the first one applied. -/
theorem lab_resolver_backed :
    lookup_identity registry_recording.platform lab_state.store (lab_endpoint "192.0.2.1") =
        .ok (some (resolver_a.1, resolver_a.2)) ∧
      ∃ applied, lab_state.last = some applied ∧
        Backed registry_recording.platform applied (lab_endpoint "192.0.2.1") resolver_a.1
          resolver_a.2 := by
  have hrun : (sync registry_recording.platform).run lab_cycles = some lab_state := rfl
  have hlookup : lookup_identity registry_recording.platform lab_state.store
      (lab_endpoint "192.0.2.1") = .ok (some (resolver_a.1, resolver_a.2)) := by
    decide +kernel
  exact ⟨hlookup, (only_backed_served hrun).2 _ _ _ hlookup⟩

end ResolverIdentity.Sync
