/-
  ResolverIdentity.Chain.EvmSnapshots: which identity sets the contract lets through.

  `verify_target` and the whole `read_snapshot` of `ri-chain-adapter/src/evm.rs` over the
  calls of `ContractReads`, followed by the loop of `reconcile` that checks each record.
  The checkpoint is settled first and every later call names its block; a node serves
  under that block the storage the contract had in it.

  Main results:
    * `resolver_records_iff`: what the loop over the identities has collected;
    * `contract_accepted_iff`: the identities get through exactly if the storage anchors all
      of them under one root.
-/
import ResolverIdentity.Chain.ContractReads
import ResolverIdentity.Chain.SnapshotEntries

namespace ResolverIdentity.Chain

open Library Sync Publisher Store

/-! ## §1. The adapter. -/

/-- The pins of an `EvmRegistryAdapter`. -/
structure EvmPins where
  chain_id : Nat
  contract_address : String
  runtime_code_hash : String
  fallback_confirmations : Nat

section Adapter

variable (keccak256 : List UInt8 → List UInt8) (P : Platform) (pins : EvmPins)

/-- The node is on the right chain and the contract is the pinned one. -/
def verify_target (call : Rpc) (block_tag : String) : Except String Unit := do
  let chain_id ← call "eth_chainId" []
  let chain_id ← parse_quantity chain_id
  rejectIf (chain_id != pins.chain_id)
    ("chain ID mismatch: expected " ++ toString pins.chain_id ++ ", got " ++ toString chain_id)
  let code ← call "eth_getCode" [.string pins.contract_address, .string block_tag]
  let code ← okOr code.as_str "eth_getCode returned a non-string"
  let code_bytes ← decode_hex code
  rejectIf code_bytes.isEmpty "Registry address has no runtime code"
  let actual_code_hash := hex_text (keccak256 code_bytes)
  rejectIf (actual_code_hash != pins.runtime_code_hash)
    ("Registry runtime code hash mismatch: expected " ++ pins.runtime_code_hash ++ ", got " ++
      actual_code_hash)

/-- What the node answers while the records are read, and at the end. -/
structure ReadCalls where
  reads : Rpc
  /-- `block_hash` of the checkpoint's height. -/
  block_hash : Except String String

/-- The answers of one node at a checkpoint. -/
def contract_answers (calls : ReadCalls) (checkpoint : FinalizedCheckpoint) : ContractAnswers where
  verify_target := verify_target keccak256 pins calls.reads (quantity checkpoint.number)
  resolver_record := resolver_record keccak256 calls.reads pins.contract_address P
    (quantity checkpoint.number)
  block_hash := calls.block_hash

/-- `read_snapshot`, with the answers under the block of the checkpoint. -/
def evm_snapshot (checkpoints : CheckpointCalls) (calls : ReadCalls)
    (identities : List DnsServerIdentityV2) : Except String ChainSnapshot := do
  let checkpoint ← finalized_checkpoint pins.fallback_confirmations checkpoints
  read_snapshot pins.fallback_confirmations checkpoints
    (contract_answers keccak256 P pins calls checkpoint) identities

end Adapter

/-! ## §2. The loop over the identities. -/

/-- The records under the ids of their identities. -/
def records_of (pairs : List (DnsServerIdentityV2 × RegistryRecord))
    (records : AList (fun _ : String => RegistryRecord)) : AList (fun _ : String => RegistryRecord) :=
  pairs.foldl (fun records pair => records.insert pair.1.server_id pair.2) records

section Loop

variable {pairs : List (DnsServerIdentityV2 × RegistryRecord)}
variable {records : AList (fun _ : String => RegistryRecord)}

theorem records_of_other {id : String} :
    ∀ {records : AList (fun _ : String => RegistryRecord)},
      (∀ pair ∈ pairs, pair.1.server_id ≠ id) →
        (records_of pairs records).lookup id = records.lookup id := by
  induction pairs with
  | nil => intro records _; rfl
  | cons pair rest ih =>
    intro records hother
    show (records_of rest (records.insert pair.1.server_id pair.2)).lookup id = _
    rw [ih (fun later hlater => hother later (List.mem_cons_of_mem _ hlater)),
      AList.lookup_insert_ne (hother pair List.mem_cons_self).symm]

theorem records_of_listed (hnodup : (pairs.map (fun pair => pair.1.server_id)).Nodup) :
    ∀ {records : AList (fun _ : String => RegistryRecord)}, ∀ pair ∈ pairs,
      (records_of pairs records).lookup pair.1.server_id = some pair.2 := by
  induction pairs with
  | nil => intro records pair hmem; cases hmem
  | cons first rest ih =>
    intro records pair hmem
    obtain ⟨hfresh, hrest⟩ := List.nodup_cons.mp hnodup
    rcases List.mem_cons.mp hmem with heq | hlater
    · show (records_of rest (records.insert first.1.server_id first.2)).lookup _ = _
      rw [records_of_other, heq, AList.lookup_insert]
      intro later hlater hsame
      rw [heq] at hsame
      exact hfresh (List.mem_map.mpr ⟨later, hlater, hsame⟩)
    · exact ih hrest pair hlater

/-- Whatever is found was inserted or was there. -/
theorem records_of_cases {id : String} {record : RegistryRecord} :
    ∀ {records : AList (fun _ : String => RegistryRecord)},
      (records_of pairs records).lookup id = some record →
        (∃ pair ∈ pairs, pair.1.server_id = id ∧ pair.2 = record) ∨
          records.lookup id = some record := by
  induction pairs with
  | nil => intro records h; exact Or.inr h
  | cons first rest ih =>
    intro records h
    rcases ih h with ⟨pair, hpair, hfound⟩ | hbefore
    · exact Or.inl ⟨pair, List.mem_cons_of_mem _ hpair, hfound⟩
    · by_cases hid : id = first.1.server_id
      · rw [hid, AList.lookup_insert] at hbefore
        exact Or.inl ⟨first, List.mem_cons_self, hid.symm, Option.some.inj hbefore⟩
      · rw [AList.lookup_insert_ne hid] at hbefore
        exact Or.inr hbefore

/-- The loop goes through exactly if every record is read and no id or key comes twice. -/
theorem resolver_records_iff {resolver_record : DnsServerIdentityV2 → Except String RegistryRecord}
    {identities : List DnsServerIdentityV2} :
    ∀ {resolver_keys : List String} {records final : AList (fun _ : String => RegistryRecord)},
      resolver_records resolver_record identities resolver_keys records = .ok final ↔
        ∃ pairs : List (DnsServerIdentityV2 × RegistryRecord), pairs.map Prod.fst = identities ∧
          (∀ pair ∈ pairs, resolver_record pair.1 = .ok pair.2 ∧
            pair.2.resolver_id_key ∉ resolver_keys ∧ records.lookup pair.1.server_id = none) ∧
          (pairs.map (fun pair => pair.2.resolver_id_key)).Nodup ∧
          (pairs.map (fun pair => pair.1.server_id)).Nodup ∧ final = records_of pairs records := by
  induction identities with
  | nil =>
    intro resolver_keys records final
    constructor
    · intro h
      exact ⟨[], rfl, fun _ hmem => absurd hmem List.not_mem_nil, List.nodup_nil, List.nodup_nil,
        (Except.ok.inj h).symm⟩
    · rintro ⟨pairs, hmap, _, _, _, rfl⟩
      rw [List.map_eq_nil_iff.mp hmap]
      rfl
  | cons identity rest ih =>
    intro resolver_keys records final
    unfold resolver_records
    simp only [bind_eq_ok, exists_unit, rejectIf_eq_ok, List.contains_eq_mem, decide_eq_false_iff_not,
      Option.isSome_eq_false_iff, Option.isNone_iff_eq_none, ih]
    constructor
    · rintro ⟨record, hread, hkey, hid, pairs, hmap, hpairs, hkeys, hids, rfl⟩
      -- no later identity has the id just entered
      have hids_fresh : ∀ pair ∈ pairs, pair.1.server_id ≠ identity.server_id ∧
          records.lookup pair.1.server_id = none := by
        intro pair hpair
        obtain ⟨_, _, hnone⟩ := hpairs pair hpair
        have hne : pair.1.server_id ≠ identity.server_id := by
          intro heq
          rw [heq, AList.lookup_insert] at hnone
          cases hnone
        rw [AList.lookup_insert_ne hne] at hnone
        exact ⟨hne, hnone⟩
      refine ⟨(identity, record) :: pairs, by rw [List.map_cons, hmap], ?_, ?_, ?_, rfl⟩
      · intro pair hpair
        rcases List.mem_cons.mp hpair with heq | hlater
        · rw [heq]
          exact ⟨hread, hkey, hid⟩
        · obtain ⟨hread', hkey', _⟩ := hpairs pair hlater
          exact ⟨hread', fun hmem => hkey' (List.mem_cons_of_mem _ hmem), (hids_fresh pair hlater).2⟩
      · rw [List.map_cons]
        refine List.nodup_cons.mpr ⟨?_, hkeys⟩
        intro hmem
        obtain ⟨pair, hpair, heq⟩ := List.mem_map.mp hmem
        exact (hpairs pair hpair).2.1 (List.mem_cons.mpr (Or.inl heq))
      · rw [List.map_cons]
        refine List.nodup_cons.mpr ⟨?_, hids⟩
        intro hmem
        obtain ⟨pair, hpair, heq⟩ := List.mem_map.mp hmem
        exact (hids_fresh pair hpair).1 heq
    · rintro ⟨pairs, hmap, hpairs, hkeys, hids, rfl⟩
      cases pairs with
      | nil => cases hmap
      | cons pair later =>
        obtain ⟨first, record⟩ := pair
        obtain ⟨hfst, hlater⟩ := List.cons.inj hmap
        obtain rfl : first = identity := hfst
        obtain ⟨hread, hkey, hid⟩ := hpairs _ List.mem_cons_self
        obtain ⟨hkey_fresh, hkeys⟩ := List.nodup_cons.mp hkeys
        obtain ⟨hid_fresh, hids⟩ := List.nodup_cons.mp hids
        refine ⟨record, hread, hkey, hid, later, hlater, ?_, hkeys, hids, rfl⟩
        -- the later ones are checked against one key and one record more
        intro other hother
        obtain ⟨hread', hkey', hid'⟩ := hpairs other (List.mem_cons_of_mem _ hother)
        refine ⟨hread', ?_, ?_⟩
        · intro hmem
          rcases List.mem_cons.mp hmem with heq | hseen
          · exact hkey_fresh (List.mem_map.mpr ⟨other, hother, heq⟩)
          · exact hkey' hseen
        · rw [AList.lookup_insert_ne]
          · exact hid'
          · intro heq
            exact hid_fresh (List.mem_map.mpr ⟨other, hother, heq⟩)

end Loop

/-! ## §3. Accepted sets. -/

theorem dedup_eq_singleton_iff {α : Type} [DecidableEq α] {l : List α} {a : α} :
    l.dedup = [a] ↔ l ≠ [] ∧ ∀ x ∈ l, x = a := by
  constructor
  · intro h
    refine ⟨?_, ?_⟩
    · rintro rfl
      cases h
    · intro x hx
      have hmem := List.mem_dedup.mpr hx
      rw [h] at hmem
      exact List.mem_singleton.mp hmem
  · rintro ⟨hne, hall⟩
    obtain ⟨x, hx⟩ := List.exists_mem_of_ne_nil l hne
    refine List.perm_singleton.mp ((List.perm_ext_iff_of_nodup (List.nodup_dedup l)
      (List.nodup_singleton a)).mpr ?_)
    intro y
    rw [List.mem_dedup, List.mem_singleton]
    constructor
    · exact hall y
    · rintro rfl
      rw [← hall x hx]
      exact hx

/-- The storage anchors every identity of the set, under one root and each under a key of
its own. -/
structure AnchoredUnder (P : Platform) (r : Contract.Registry) (root : Contract.Bytes32)
    (identities : List DnsServerIdentityV2) : Prop where
  nonempty : identities ≠ []
  server_ids : (identities.map DnsServerIdentityV2.server_id).Nodup
  resolver_id_keys :
    (identities.map (fun identity => P.resolver_id_key identity.server_id)).Nodup
  anchored : ∀ identity ∈ identities, Anchored P r identity ∧ identity.valid_until < 2 ^ 63
  root : ∀ identity ∈ identities,
    (r.resolver_anchors (word (P.resolver_id_key identity.server_id))).state_root = root

theorem Anchored.registry_keys {P : Platform} {r : Contract.Registry}
    {identity : DnsServerIdentityV2} (h : Anchored P r identity) :
    ∃ keys, registry_keys P identity.endpoints = .ok keys := by
  have hbound := h.bound
  generalize identity.endpoints = endpoints at hbound ⊢
  induction endpoints with
  | nil => exact ⟨[], rfl⟩
  | cons endpoint rest ih =>
    obtain ⟨key, hkey, _⟩ := hbound endpoint List.mem_cons_self
    obtain ⟨keys, hkeys⟩ := ih (fun later hlater => hbound later (List.mem_cons_of_mem _ hlater))
    refine ⟨key :: keys, ?_⟩
    unfold Sync.registry_keys
    rw [hkey, hkeys]
    rfl

section Accepted

variable {keccak256 : List UInt8 → List UInt8} {P : Platform} {pins : EvmPins}
variable {checkpoints : CheckpointCalls} {calls : ReadCalls} {checkpoint : FinalizedCheckpoint}
variable {r : Contract.Registry} {identities : List DnsServerIdentityV2} {snapshot : ChainSnapshot}

/-- The records a snapshot was made of. -/
theorem evm_snapshot_iff
    (hcheckpoint : finalized_checkpoint pins.fallback_confirmations checkpoints = .ok checkpoint) :
    evm_snapshot keccak256 P pins checkpoints calls identities = .ok snapshot ↔
      verify_target keccak256 pins calls.reads (quantity checkpoint.number) = .ok () ∧
      calls.block_hash = .ok checkpoint.hash ∧
      ∃ pairs : List (DnsServerIdentityV2 × RegistryRecord), pairs.map Prod.fst = identities ∧
        (∀ pair ∈ pairs, resolver_record keccak256 calls.reads pins.contract_address P
          (quantity checkpoint.number) pair.1 = .ok pair.2) ∧
        (pairs.map (fun pair => pair.2.resolver_id_key)).Nodup ∧
        (pairs.map (fun pair => pair.1.server_id)).Nodup ∧ pairs ≠ [] ∧
        (∀ pair ∈ pairs, pair.2.state_root = snapshot.state_root) ∧
        snapshot = ⟨checkpoint, snapshot.state_root, checkpoint.number, records_of pairs ∅⟩ := by
  -- what stands in the map is what was read
  have hroots : ∀ {pairs : List (DnsServerIdentityV2 × RegistryRecord)} {root : String},
      (pairs.map (fun pair => pair.1.server_id)).Nodup →
        (((records_of pairs ∅).entries.map (fun entry => entry.2.state_root)).dedup = [root] ↔
          pairs ≠ [] ∧ ∀ pair ∈ pairs, pair.2.state_root = root) := by
    intro pairs root hids
    rw [dedup_eq_singleton_iff]
    have hmem : ∀ pair ∈ pairs,
        (⟨pair.1.server_id, pair.2⟩ : Sigma (fun _ : String => RegistryRecord)) ∈
          (records_of pairs ∅).entries :=
      fun pair hpair => AList.mem_lookup_iff.mp (records_of_listed hids pair hpair)
    constructor
    · rintro ⟨hne, hall⟩
      refine ⟨?_, fun pair hpair => hall _ (List.mem_map_of_mem (hmem pair hpair))⟩
      rintro rfl
      exact hne rfl
    · rintro ⟨hne, hall⟩
      refine ⟨?_, ?_⟩
      · obtain ⟨pair, hpair⟩ := List.exists_mem_of_ne_nil pairs hne
        exact List.ne_nil_of_mem (List.mem_map_of_mem (hmem pair hpair))
      · intro text htext
        obtain ⟨entry, hentry, rfl⟩ := List.mem_map.mp htext
        rcases records_of_cases (AList.mem_lookup_iff.mpr hentry) with ⟨pair, hpair, _, heq⟩ | hnone
        · rw [← heq]
          exact hall pair hpair
        · cases hnone
  unfold evm_snapshot read_snapshot
  rw [hcheckpoint]
  simp only [ok_bind, bind_eq_ok, exists_unit, rejectIf_eq_ok, bne_eq_false_iff_eq,
    resolver_records_iff]
  constructor
  · rintro ⟨htarget, final, ⟨pairs, hmap, hpairs, hkeys, hids, rfl⟩, hash, hhash, rfl, h⟩
    refine ⟨htarget, hhash, pairs, hmap, fun pair hpair => (hpairs pair hpair).1, hkeys, hids, ?_⟩
    split at h
    · rename_i root hroot
      obtain ⟨hne, hall⟩ := (hroots hids).mp hroot
      rw [← Except.ok.inj h]
      exact ⟨hne, hall, rfl⟩
    · cases h
  · rintro ⟨htarget, hhash, pairs, hmap, hpairs, hkeys, hids, hne, hall, heq⟩
    refine ⟨htarget, _, ⟨pairs, hmap, ?_, hkeys, hids, rfl⟩, _, hhash, rfl, ?_⟩
    · exact fun pair hpair => ⟨hpairs pair hpair, List.not_mem_nil, rfl⟩
    · rw [(hroots hids).mpr ⟨hne, hall⟩]
      exact congrArg Except.ok heq.symm

variable (hselectors : Selectors keccak256) (hdigest : ∀ bytes, IsDigest (P.sha256_hex bytes))
variable (hcheckpoint : finalized_checkpoint pins.fallback_confirmations checkpoints = .ok checkpoint)
variable (hserves : Serves keccak256 calls.reads pins.contract_address
  (quantity checkpoint.number) r)

include hselectors hdigest hcheckpoint hserves

/-- Every record of a snapshot is the storage's. -/
theorem storage_of_snapshot
    (h : evm_snapshot keccak256 P pins checkpoints calls identities = .ok snapshot) :
    snapshot.checkpoint = checkpoint ∧ ∀ id record, snapshot.records.lookup id = some record →
      ∃ identity ∈ identities, identity.server_id = id ∧ ∃ keys,
        registry_keys P identity.endpoints = .ok keys ∧ record = storage_record P r identity keys := by
  obtain ⟨_, _, pairs, hmap, hpairs, _, _, _, _, heq⟩ := (evm_snapshot_iff hcheckpoint).mp h
  rw [heq]
  refine ⟨rfl, ?_⟩
  intro id record hlookup
  rcases records_of_cases hlookup with ⟨pair, hpair, hid, hrecord⟩ | hnone
  · obtain ⟨_, keys, hkeys, hstorage⟩ := (resolver_record_served hselectors hserves hdigest
      pair.1 pair.2).mp (hpairs pair hpair)
    refine ⟨pair.1, ?_, hid, keys, hkeys, hrecord.symm.trans hstorage⟩
    rw [← hmap]
    exact List.mem_map_of_mem hpair
  · cases hnone

/-- A set is read and gets through the check of every record exactly if the node is the
pinned one, the block is still there, and the storage anchors the set under one root. -/
theorem contract_accepted_iff (target : ChainTarget) :
    (∃ snapshot records, evm_snapshot keccak256 P pins checkpoints calls identities = .ok snapshot ∧
        snapshot_records P target snapshot identities = .ok records) ↔
      verify_target keccak256 pins calls.reads (quantity checkpoint.number) = .ok () ∧
        calls.block_hash = .ok checkpoint.hash ∧ ∃ root, AnchoredUnder P r root identities := by
  simp only [evm_snapshot_iff hcheckpoint, snapshot_records_iff]
  constructor
  · rintro ⟨snapshot, records, ⟨htarget, hhash, pairs, hmap, hpairs, hkeys, hids, hne, hroot, heq⟩,
      hrecords⟩
    -- each pair is an identity and its record in the storage, which has passed the check
    have hpassed : ∀ pair ∈ pairs, Anchored P r pair.1 ∧ pair.1.valid_until < 2 ^ 63 ∧
        ∃ keys, pair.2 = storage_record P r pair.1 keys := by
      intro pair hpair
      obtain ⟨huntil, keys, hkeys, hstorage⟩ := (resolver_record_served hselectors hserves hdigest
        pair.1 pair.2).mp (hpairs pair hpair)
      have hmem : pair.1 ∈ identities := by
        rw [← hmap]
        exact List.mem_map_of_mem hpair
      obtain ⟨entry, _, record, hlookup, _, hvalid, _⟩ := exists_of_forall₂ hrecords pair.1 hmem
      rw [heq, records_of_listed hids pair hpair] at hlookup
      rw [← Option.some.inj hlookup, hstorage] at hvalid
      have hanchored := (anchored_iff hdigest hkeys).mp hvalid
      refine ⟨hanchored, ?_, keys, hstorage⟩
      rw [← hanchored.valid_until]
      exact_mod_cast huntil
    refine ⟨htarget, hhash, word snapshot.state_root, ?_⟩
    subst hmap
    refine ⟨?_, ?_, ?_, ?_, ?_⟩
    · simpa using hne
    · rw [List.map_map]
      exact hids
    · have hsame : pairs.map (fun pair => pair.2.resolver_id_key) =
          (pairs.map Prod.fst).map (fun identity => P.resolver_id_key identity.server_id) := by
        rw [List.map_map]
        refine List.map_congr_left (fun pair hpair => ?_)
        obtain ⟨hanchored, _, keys, hstorage⟩ := hpassed pair hpair
        rw [hstorage]
        exact (normalize_eq_iff (hdigest _)).mpr hanchored.resolver_id_key
      rw [← hsame]
      exact hkeys
    · intro identity hidentity
      obtain ⟨pair, hpair, rfl⟩ := List.mem_map.mp hidentity
      exact ⟨(hpassed pair hpair).1, (hpassed pair hpair).2.1⟩
    · intro identity hidentity
      obtain ⟨pair, hpair, rfl⟩ := List.mem_map.mp hidentity
      obtain ⟨_, _, keys, hstorage⟩ := hpassed pair hpair
      rw [← hroot pair hpair, hstorage]
      exact (word_normalize _).symm
  · rintro ⟨htarget, hhash, root, hanchored⟩
    -- the records of the storage, one for each identity
    let keys (identity : DnsServerIdentityV2) : List String :=
      ((registry_keys P identity.endpoints).toOption).getD []
    have hkeys : ∀ identity ∈ identities,
        registry_keys P identity.endpoints = .ok (keys identity) := by
      intro identity hidentity
      obtain ⟨found, hfound⟩ := (hanchored.anchored identity hidentity).1.registry_keys
      show _ = Except.ok (((registry_keys P identity.endpoints).toOption).getD [])
      rw [hfound]
      rfl
    let pairs := identities.map (fun identity =>
      (identity, storage_record P r identity (keys identity)))
    let snapshot : ChainSnapshot :=
      ⟨checkpoint, normalize_bytes32 root, checkpoint.number, records_of pairs ∅⟩
    have hmap : pairs.map Prod.fst = identities := by
      show (identities.map _).map _ = _
      rw [List.map_map]
      exact List.map_id _
    have hids : (pairs.map (fun pair => pair.1.server_id)).Nodup := by
      show ((identities.map _).map _).Nodup
      rw [List.map_map]
      exact hanchored.server_ids
    have hroot : ∀ identity ∈ identities,
        (storage_record P r identity (keys identity)).state_root = normalize_bytes32 root :=
      fun identity hidentity => congrArg normalize_bytes32 (hanchored.root identity hidentity)
    refine ⟨snapshot, identities.map (fun identity => (identity, registry_reference target checkpoint
      checkpoint.number (storage_record P r identity (keys identity)))), ?_, ?_⟩
    · refine ⟨htarget, hhash, pairs, hmap, ?_, ?_, hids, ?_, ?_, rfl⟩
      · intro pair hpair
        obtain ⟨identity, hidentity, rfl⟩ := List.mem_map.mp hpair
        obtain ⟨hone, huntil⟩ := hanchored.anchored identity hidentity
        refine (resolver_record_served hselectors hserves hdigest _ _).mpr
          ⟨?_, _, hkeys identity hidentity, rfl⟩
        rw [← hone.valid_until] at huntil
        exact_mod_cast huntil
      · have hsame : pairs.map (fun pair => pair.2.resolver_id_key) =
            identities.map (fun identity => P.resolver_id_key identity.server_id) := by
          show (identities.map _).map _ = _
          rw [List.map_map]
          refine List.map_congr_left (fun identity hidentity => ?_)
          exact (normalize_eq_iff (hdigest _)).mpr
            (hanchored.anchored identity hidentity).1.resolver_id_key
        rw [hsame]
        exact hanchored.resolver_id_keys
      · show identities.map _ ≠ []
        simpa using hanchored.nonempty
      · intro pair hpair
        obtain ⟨identity, hidentity, rfl⟩ := List.mem_map.mp hpair
        exact hroot identity hidentity
    · rw [List.forall₂_map_right_iff, List.forall₂_same]
      intro identity hidentity
      refine ⟨_, records_of_listed hids (identity, _) (List.mem_map_of_mem hidentity),
        hroot identity hidentity, ?_, rfl⟩
      exact (anchored_iff hdigest (hkeys identity hidentity)).mpr
        (hanchored.anchored identity hidentity).1

end Accepted

/-! ## §4. A node, and a storage with one identity. -/

/-- A node of one chain whose contract has one code and, under one block, this storage. -/
def node_call (keccak256 : List UInt8 → List UInt8) (chain_id : Nat) (contract block_tag : String)
    (code : List UInt8) (r : Contract.Registry) : Rpc := fun method params =>
  match method, params with
  | "eth_chainId", [] => .ok (.string (quantity chain_id))
  | "eth_getCode", [.string address, .string tag] =>
    .ok (.string (hex_text (if address = contract ∧ tag = block_tag then code else [])))
  | "eth_call", [.object [("to", .string address), ("data", .string data)], .string tag] => do
    rejectIf (!(address = contract && tag = block_tag)) "header not found"
    let data ← decode_hex data
    let output ← okOr (static_call keccak256 r data) "execution reverted"
    .ok (.string (hex_text output))
  | _, _ => .error "the method does not exist/is not available"

section Node

variable {keccak256 : List UInt8 → List UInt8} {chain_id : Nat} {contract block_tag : String}
variable {code : List UInt8} {r : Contract.Registry}

theorem serves_node :
    Serves keccak256 (node_call keccak256 chain_id contract block_tag code r) contract block_tag r := by
  intro data output houtput
  show (do
    rejectIf (!(decide (contract = contract) && decide (block_tag = block_tag))) _
    let data ← decode_hex (hex_text data)
    let output ← okOr (static_call keccak256 r data) _
    Except.ok (Json.string (hex_text output))) = _
  rw [decode_hex_text]
  simp only [ok_bind, houtput, okOr, decide_true, Bool.and_self, Bool.not_true, rejectIf_false]

theorem verify_target_node {pins : EvmPins} (hchain : pins.chain_id < 2 ^ 64) (hcode : code ≠ [])
    (hhash : pins.runtime_code_hash = hex_text (keccak256 code)) :
    verify_target keccak256 pins
      (node_call keccak256 pins.chain_id pins.contract_address block_tag code r) block_tag =
        .ok () := by
  have hempty : code.isEmpty = false := by
    rw [List.isEmpty_eq_false_iff]
    exact hcode
  have hanswer : node_call keccak256 pins.chain_id pins.contract_address block_tag code r
      "eth_chainId" [] = .ok (.string (quantity pins.chain_id)) := rfl
  have hanswer' : node_call keccak256 pins.chain_id pins.contract_address block_tag code r
      "eth_getCode" [.string pins.contract_address, .string block_tag] =
        .ok (.string (hex_text code)) := by
    show Except.ok (Json.string (hex_text (if pins.contract_address = pins.contract_address ∧
      block_tag = block_tag then code else []))) = _
    rw [if_pos ⟨rfl, rfl⟩]
  unfold verify_target
  simp only [hanswer, hanswer', ok_bind, parse_quantity_quantity hchain, bne_self_eq_false,
    rejectIf_false, Json.as_str, okOr, decode_hex_text, hempty, hhash]

end Node

open Agent

/-- The recorded platform, with a digest for every other text. -/
def chain_platform : Platform :=
  { registry_recording.platform with
    sha256_hex := fun bytes =>
      (registry_recording.digests.find? (fun entry => Recording.begins bytes entry.1)).elim
        "0x0000000000000000000000000000000000000000000000000000000000000000" Prod.snd }

theorem chain_platform_digest (bytes : List UInt8) : IsDigest (chain_platform.sha256_hex bytes) := by
  have hall : ∀ entry ∈ registry_recording.digests, IsDigest entry.2 := by
    intro entry hentry
    simp only [registry_recording, lab_recording, List.cons_append, List.nil_append, List.mem_cons,
      List.not_mem_nil, or_false] at hentry
    rcases hentry with rfl | rfl | rfl | rfl | rfl <;>
      exact @digest_of_chars _ rfl (by decide)
  show IsDigest ((registry_recording.digests.find? (fun entry =>
    Recording.begins bytes entry.1)).elim _ Prod.snd)
  cases hfind : registry_recording.digests.find? (fun entry => Recording.begins bytes entry.1) with
  | none => exact @digest_of_chars _ rfl (by decide)
  | some entry => exact hall entry (List.mem_of_find?_eq_some hfind)

/-- The first four bytes are those of the three signatures' hashes. -/
def view_keccak256 (bytes : List UInt8) : List UInt8 :=
  (if bytes = as_bytes "getResolverAnchor(bytes32)" then [0xdd, 0xff, 0xff, 0xaf]
    else if bytes = as_bytes "getRootStatus(bytes32)" then [0xf2, 0x28, 0x58, 0xc9]
    else if bytes = as_bytes "lookupResolverByEndpoint(bytes32)" then [0xb6, 0x64, 0x99, 0xa6]
    else [0, 0, 0, 0]) ++ List.replicate 28 0

theorem view_selectors : Selectors view_keccak256 := by
  have hroot : as_bytes "getRootStatus(bytes32)" ≠ as_bytes "getResolverAnchor(bytes32)" :=
    fun h => absurd (Json.as_bytes_injective h) (by simp)
  have hendpoint : as_bytes "lookupResolverByEndpoint(bytes32)" ≠
      as_bytes "getResolverAnchor(bytes32)" := fun h => absurd (Json.as_bytes_injective h) (by simp)
  have hendpoint' : as_bytes "lookupResolverByEndpoint(bytes32)" ≠
      as_bytes "getRootStatus(bytes32)" := fun h => absurd (Json.as_bytes_injective h) (by simp)
  refine ⟨?_, ?_, ?_, ?_⟩
  · intro function
    unfold function_selector view_keccak256
    split_ifs <;> rfl
  · unfold function_selector view_keccak256
    rw [if_neg hroot, if_pos rfl, if_pos rfl]
    decide
  · unfold function_selector view_keccak256
    rw [if_neg hendpoint, if_neg hendpoint', if_pos rfl, if_pos rfl]
    decide
  · unfold function_selector view_keccak256
    rw [if_neg hendpoint, if_neg hendpoint', if_pos rfl, if_neg hroot, if_pos rfl]
    decide

/-- A target with a one-byte runtime code. -/
def lab_pins : EvmPins where
  chain_id := 11155111
  contract_address := "0x1111111111111111111111111111111111111111"
  runtime_code_hash := hex_text (view_keccak256 [0x60])
  fallback_confirmations := 12

/-- A finalized block. -/
def lab_checkpoints (number : Nat) : CheckpointCalls where
  finalized := .ok (.object [("number", .string (quantity number)),
    ("hash", .string "0x3333333333333333333333333333333333333333333333333333333333333333")])
  block_number := .error "not asked"
  block := fun _ => .error "not asked"

/-- A finalized block of the lab's chain. -/
def lab_checkpoint (number : Nat) : FinalizedCheckpoint where
  number := number
  hash := "0x3333333333333333333333333333333333333333333333333333333333333333"
  finality_type := .evmFinalized

theorem lab_checkpoint_read {number : Nat} (h : number < 2 ^ 64) : finalized_checkpoint
    lab_pins.fallback_confirmations (lab_checkpoints number) = .ok (lab_checkpoint number) := by
  have hhash : IsDigest "0x3333333333333333333333333333333333333333333333333333333333333333" :=
    @digest_of_chars _ rfl (by decide)
  have hnumber : parse_quantity (.string (quantity number)) = .ok number := parse_quantity_quantity h
  unfold finalized_checkpoint lab_checkpoints lab_checkpoint
  simp [parse_block, Json.get, Json.as_str, okOr, hnumber, hhash.normalize]

/-- The keys of `resolver-a` and of a revoked `resolver-b`, and that of an endpoint. -/
def lab_resolver_key : Contract.Bytes32 := word (chain_platform.resolver_id_key "resolver-a")

/-- The key of a resolver that is revoked. -/
def lab_revoked_key : Contract.Bytes32 := word (chain_platform.resolver_id_key "resolver-b")

/-- The key of the one endpoint. -/
def lab_endpoint_key : String :=
  ((chain_platform.registry_key (lab_endpoint "192.0.2.1")).toOption).getD ""

/-- One root, one resolver with its endpoint, and one that is revoked. -/
def lab_storage : Contract.Registry :=
  { Contract.Registry.blank with
    root_records := fun root => if root = 5 then ⟨5, .ACTIVE, 1, 1⟩ else ⟨0, .UNKNOWN, 0, 0⟩
    resolver_anchors := fun key => if key = lab_resolver_key then
      ⟨key, word (chain_platform.object_hash resolver_a.1.to_value), 5, 1, 1900000000, .ACTIVE⟩
      else if key = lab_revoked_key then ⟨key, 1, 5, 1, 1900000000, .REVOKED⟩
      else ⟨0, 0, 0, 0, 0, .UNKNOWN⟩
    endpoint_to_resolver_id_key := fun key =>
      if key = word lab_endpoint_key then lab_resolver_key else 0 }

theorem lab_storage_anchors : AnchoredUnder chain_platform lab_storage 5 [resolver_a.1] := by
  have hanchor : lab_storage.resolver_anchors (word (chain_platform.resolver_id_key "resolver-a")) =
      ⟨lab_resolver_key, word (chain_platform.object_hash resolver_a.1.to_value), 5, 1, 1900000000,
        .ACTIVE⟩ := if_pos rfl
  have hkey : ∃ key, chain_platform.registry_key (lab_endpoint "192.0.2.1") = .ok key := ⟨_, rfl⟩
  refine ⟨List.cons_ne_nil _ _, List.nodup_singleton _, List.nodup_singleton _, ?_, ?_⟩
  · intro identity hidentity
    rw [List.mem_singleton.mp hidentity]
    refine ⟨⟨?_, ?_, ?_, ?_, ?_, ?_, ?_⟩, by decide⟩
    · exact congrArg Contract.ResolverAnchor.resolver_id_key hanchor
    · exact congrArg Contract.ResolverAnchor.object_hash hanchor
    · exact congrArg (fun anchor => anchor.object_version.toNat) hanchor
    · exact congrArg (fun anchor => (anchor.valid_until.toNat : Int)) hanchor
    · exact congrArg Contract.ResolverAnchor.status hanchor
    · exact congrArg (fun anchor => (lab_storage.root_records anchor.state_root).status) hanchor
    · intro endpoint hendpoint
      obtain ⟨key, hkey⟩ := hkey
      rw [List.mem_singleton.mp hendpoint]
      refine ⟨key, hkey, if_pos ?_⟩
      unfold lab_endpoint_key
      rw [hkey]
      rfl
  · intro identity hidentity
    rw [List.mem_singleton.mp hidentity]
    exact congrArg Contract.ResolverAnchor.state_root hanchor

/-- The honest node's answers at a block. -/
def lab_calls (number : Nat) : ReadCalls where
  reads := node_call view_keccak256 lab_pins.chain_id lab_pins.contract_address
    (quantity (lab_checkpoint number).number) [0x60] lab_storage
  block_hash := .ok (lab_checkpoint number).hash

end ResolverIdentity.Chain
