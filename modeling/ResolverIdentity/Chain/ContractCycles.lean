/-
  ResolverIdentity.Chain.ContractCycles: which cycles over the contract are applied.

  A cycle of `ri-registry-sync` over the adapter of `ri-chain-adapter/src/evm.rs`, from the
  words in the contract's storage to the rows of the store.  The target is the one
  `EvmRegistryAdapter::new` makes of its pins.

  Main results:
    * `follows_cycle`: such a cycle follows its target, by block;
    * `contract_cycle_iff`: the next cycle over the contract is applied exactly if the
      storage anchors its set and the store can take it.
-/
import ResolverIdentity.Chain.EvmSnapshots

namespace ResolverIdentity.Chain

open Library Sync Publisher Store

/-! ## §1. Cycles over the contract. -/

/-- The target `EvmRegistryAdapter::new` pins. -/
def EvmPins.target (pins : EvmPins) : ChainTarget where
  adapter := "evm"
  chain_identity := "eip155:" ++ toString pins.chain_id
  registry_locator := "evm:" ++ pins.contract_address
  registry_schema_hash := pins.runtime_code_hash
  adapter_metadata := .evm pins.chain_id pins.contract_address pins.runtime_code_hash

/-- What one call of `reconcile` over an EVM adapter works on. -/
structure ContractCycle where
  checkpoints : CheckpointCalls
  calls : ReadCalls
  canonical_hash : Except String String
  confirmed_hash : Except String String
  issuer_keys : IssuerKeyRegistry
  identities : List DnsServerIdentityV2
  now : Int

section Cycles

variable (digest : List UInt8 → List UInt8) (P : Platform) (pins : EvmPins)

/-- The cycle the synchronizer sees. -/
def ContractCycle.cycle (self : ContractCycle) : Cycle where
  target := pins.target
  issuer_keys := self.issuer_keys
  identities := self.identities
  now := self.now
  answers := {
    read_snapshot := evm_snapshot digest P pins self.checkpoints self.calls self.identities
    canonical_hash := self.canonical_hash
    confirmed_hash := self.confirmed_hash }

/-- Under the block of its checkpoint the node serves the contract's storage there. -/
def ContractCycle.Honest (history : Nat → Contract.Registry) (self : ContractCycle) : Prop :=
  ∀ checkpoint, finalized_checkpoint pins.fallback_confirmations self.checkpoints = .ok checkpoint →
    Serves digest self.calls.reads pins.contract_address (quantity checkpoint.number)
      (history checkpoint.number)

/-- The synchronizer's runs with such cycles. -/
def contract_sync : Machine SyncState ContractCycle where
  init := ⟨.open_, none⟩
  step st cycle := some (st.take P (cycle.cycle digest P pins))

end Cycles

section Follows

variable {digest : List UInt8 → List UInt8} {P : Platform} {pins : EvmPins}

/-- A checkpoint of the EVM adapter has one of the two finality types it writes. -/
theorem finality_of_checkpoint {fallback_confirmations : Nat} {calls : CheckpointCalls}
    {checkpoint : FinalizedCheckpoint}
    (h : finalized_checkpoint fallback_confirmations calls = .ok checkpoint) :
    checkpoint.finality_type = .evmFinalized ∨ checkpoint.finality_type = .evmConfirmations := by
  have hparse : ∀ {value : Json} {finality_type : RegistryFinalityTypeV2},
      parse_block value finality_type = .ok checkpoint → checkpoint.finality_type = finality_type := by
    intro value finality_type hblock
    unfold parse_block at hblock
    obtain ⟨_, _, hblock⟩ := bind_eq_ok.mp hblock
    obtain ⟨_, _, hblock⟩ := bind_eq_ok.mp hblock
    obtain ⟨_, _, hblock⟩ := bind_eq_ok.mp hblock
    obtain ⟨_, _, hblock⟩ := bind_eq_ok.mp hblock
    rw [← Except.ok.inj hblock]
  have hconfirmed : confirmed_checkpoint fallback_confirmations calls = .ok checkpoint →
      checkpoint.finality_type = .evmConfirmations := by
    intro hcalls
    unfold confirmed_checkpoint at hcalls
    obtain ⟨_, _, hcalls⟩ := bind_eq_ok.mp hcalls
    obtain ⟨_, _, hcalls⟩ := bind_eq_ok.mp hcalls
    obtain ⟨_, _, hcalls⟩ := bind_eq_ok.mp hcalls
    obtain ⟨_, _, hcalls⟩ := bind_eq_ok.mp hcalls
    exact hparse hcalls
  unfold finalized_checkpoint at h
  split at h
  · exact Or.inr (hconfirmed h)
  · exact Or.inl (hparse h)
  · exact Or.inr (hconfirmed h)

/-- A cycle over the contract follows the pinned target, by block. -/
theorem follows_cycle (cycle : ContractCycle) :
    Follows pins.target ByBlock (cycle.cycle digest P pins) := by
  have hsnapshot : ∀ snapshot,
      evm_snapshot digest P pins cycle.checkpoints cycle.calls cycle.identities = .ok snapshot →
        snapshot.generation = snapshot.checkpoint.number ∧
          finalized_checkpoint pins.fallback_confirmations cycle.checkpoints =
            .ok snapshot.checkpoint := by
    intro snapshot hread
    obtain ⟨checkpoint, hcheckpoint, _⟩ := bind_eq_ok.mp hread
    obtain ⟨_, _, _, _, _, _, _, _, _, heq⟩ := (evm_snapshot_iff hcheckpoint).mp hread
    rw [heq]
    exact ⟨rfl, hcheckpoint⟩
  refine ⟨rfl, ?_, ?_⟩
  · intro snapshot hread
    exact (hsnapshot snapshot hread).1
  · intro snapshot hread
    unfold Coherent EvmPins.target RegistryReferenceWire.target_matches_metadata
    rcases finality_of_checkpoint (hsnapshot snapshot hread).2 with hfinalized | hconfirmations
    · simp [hfinalized]
    · simp [hconfirmations]

/-- The runs over the contract are runs over its target. -/
theorem kept_of_contract_run {cycles : List ContractCycle} {st : SyncState}
    (hrun : (contract_sync digest P pins).run cycles = some st) : Kept P pins.target ByBlock st := by
  refine Machine.invariant (M := contract_sync digest P pins) (I := Kept P pins.target ByBlock)
    kept_init ?_ hrun
  intro st cycle st' hkept hstep
  rw [← Option.some.inj hstep]
  exact kept_take hkept (follows_cycle cycle)

end Follows

/-! ## §2. The next cycle. -/

section Next

variable {digest : List UInt8 → List UInt8} {P : Platform} {pins : EvmPins}
variable {cycles : List ContractCycle} {st : SyncState} {cycle : ContractCycle}
variable {checkpoint : FinalizedCheckpoint} {history : Nat → Contract.Registry}

/-- The snapshot is of the checkpoint that was settled first. -/
theorem checkpoint_of_read (hcheckpoint : finalized_checkpoint pins.fallback_confirmations
    cycle.checkpoints = .ok checkpoint) {snapshot : ChainSnapshot}
    (hread : evm_snapshot digest P pins cycle.checkpoints cycle.calls cycle.identities =
      .ok snapshot) : snapshot.checkpoint = checkpoint := by
  obtain ⟨_, _, _, _, _, _, _, _, _, heq⟩ := (evm_snapshot_iff hcheckpoint).mp hread
  rw [heq]

/-- A cycle that was applied has found its set in the storage. -/
theorem anchored_of_applied (hselectors : Selectors digest)
    (hdigest : ∀ bytes, IsDigest (P.sha256_hex bytes))
    (hrun : (contract_sync digest P pins).run cycles = some st)
    (hcheckpoint : finalized_checkpoint pins.fallback_confirmations cycle.checkpoints =
      .ok checkpoint)
    (hhonest : cycle.Honest digest pins history)
    (hahead : ∀ height, last_height st = some height → height < checkpoint.number)
    (happlied : ∃ count s', reconcile P (cycle.cycle digest P pins) st.store = (.ok count, s')) :
    verify_target digest pins cycle.calls.reads (quantity checkpoint.number) = .ok () ∧
      cycle.calls.block_hash = .ok checkpoint.hash ∧
      (∃ root, AnchoredUnder P (history checkpoint.number) root cycle.identities) ∧
      Storable P st.last (cycle.cycle digest P pins) checkpoint := by
  obtain ⟨count, s', hreconcile⟩ := happlied
  obtain ⟨records, _, hprepare, _⟩ := reconcile_iff.mp hreconcile
  obtain ⟨_, snapshot, _, hread, _, _, hrecords, _⟩ := prepare_records_iff.mp hprepare
  have hsame := checkpoint_of_read hcheckpoint hread
  have hadmissible := admissible_of_reconciled (kept_of_contract_run hrun) hread
    (ahead_of_byBlock ((follows_cycle cycle).member snapshot hread) (by rw [hsame]; exact hahead))
    ⟨count, s', hreconcile⟩
  obtain ⟨htarget, hhash, hroot⟩ := (contract_accepted_iff hselectors hdigest hcheckpoint
    (hhonest checkpoint hcheckpoint) pins.target).mp ⟨snapshot, records, hread, hrecords⟩
  exact ⟨htarget, hhash, hroot, hsame ▸ hadmissible.storable⟩

/-- A set that the storage anchors is applied. -/
theorem applied_of_anchored (hselectors : Selectors digest)
    (hdigest : ∀ bytes, IsDigest (P.sha256_hex bytes))
    (hrun : (contract_sync digest P pins).run cycles = some st)
    (hcheckpoint : finalized_checkpoint pins.fallback_confirmations cycle.checkpoints =
      .ok checkpoint)
    (hhonest : cycle.Honest digest pins history)
    (hahead : ∀ height, last_height st = some height → height < checkpoint.number)
    (htarget : verify_target digest pins cycle.calls.reads (quantity checkpoint.number) = .ok ())
    (hhash : cycle.calls.block_hash = .ok checkpoint.hash) {root : Contract.Bytes32}
    (hanchored : AnchoredUnder P (history checkpoint.number) root cycle.identities)
    (hstorable : Storable P st.last (cycle.cycle digest P pins) checkpoint) :
    ∃ count s', reconcile P (cycle.cycle digest P pins) st.store = (.ok count, s') := by
  obtain ⟨snapshot, records, hread, hrecords⟩ := (contract_accepted_iff hselectors hdigest
    hcheckpoint (hhonest checkpoint hcheckpoint) pins.target).mpr ⟨htarget, hhash, root, hanchored⟩
  have hsame := checkpoint_of_read hcheckpoint hread
  have hblock : ByBlock snapshot := (follows_cycle cycle).member snapshot hread
  have hheight : (snapshot.generation : Int) ≤ I64_MAX := by
    rw [show snapshot.generation = snapshot.checkpoint.number from hblock, hsame]
    exact hstorable.height
  refine reconciled_of_admissible (kept_of_contract_run hrun) (follows_cycle cycle) hread
    (ahead_of_byBlock hblock (by rw [hsame]; exact hahead))
    ⟨hsame ▸ hstorable, hanchored.nonempty, hanchored.server_ids, hheight, ?_, ?_⟩
  · intro identity hidentity endpoint hendpoint
    obtain ⟨key, hkey, _⟩ := (hanchored.anchored identity hidentity).1.bound endpoint hendpoint
    exact cache_key_of_registry_key hkey
  · intro identity hidentity
    obtain ⟨_, _, record, hrecord, hroot, hvalid, _⟩ :=
      exists_of_forall₂ (snapshot_records_iff.mp hrecords) identity hidentity
    exact ⟨record, hrecord, hroot, hvalid⟩

/-- What a cycle has applied is its file, at its checkpoint. -/
theorem last_of_applied (hcheckpoint : finalized_checkpoint pins.fallback_confirmations
      cycle.checkpoints = .ok checkpoint)
    (happlied : ∃ count s', reconcile P (cycle.cycle digest P pins) st.store = (.ok count, s')) :
    ∃ applied, (st.take P (cycle.cycle digest P pins)).last = some applied ∧
      applied.identities = cycle.identities ∧ applied.snapshot.checkpoint = checkpoint := by
  obtain ⟨count, s', happlied⟩ := happlied
  obtain ⟨records, _, hprepare, _⟩ := reconcile_iff.mp happlied
  obtain ⟨_, snapshot, _, hread, _⟩ := prepare_records_iff.mp hprepare
  have hlast := last_take happlied
  unfold Cycle.applied at hlast
  rw [hread] at hlast
  exact ⟨_, hlast, rfl, checkpoint_of_read hcheckpoint hread⟩

end Next

/-- **The next cycle over the contract is applied exactly if** the node is of the pinned chain and
still has the block, the storage there anchors the set under one root, and the store can take it. -/
theorem contract_cycle_iff {digest : List UInt8 → List UInt8} {P : Platform} {pins : EvmPins}
    (hselectors : Selectors digest) (hdigest : ∀ bytes, IsDigest (P.sha256_hex bytes))
    {cycles : List ContractCycle} {st : SyncState}
    (hrun : (contract_sync digest P pins).run cycles = some st) {cycle : ContractCycle}
    {checkpoint : FinalizedCheckpoint} (hcheckpoint : finalized_checkpoint
      pins.fallback_confirmations cycle.checkpoints = .ok checkpoint)
    {history : Nat → Contract.Registry} (hhonest : cycle.Honest digest pins history)
    (hahead : ∀ height, last_height st = some height → height < checkpoint.number) :
    (∃ count s', reconcile P (cycle.cycle digest P pins) st.store = (.ok count, s')) ↔
      verify_target digest pins cycle.calls.reads (quantity checkpoint.number) = .ok () ∧
      cycle.calls.block_hash = .ok checkpoint.hash ∧
      (∃ root, AnchoredUnder P (history checkpoint.number) root cycle.identities) ∧
      Storable P st.last (cycle.cycle digest P pins) checkpoint := by
  constructor
  · exact anchored_of_applied hselectors hdigest hrun hcheckpoint hhonest hahead
  · rintro ⟨htarget, hhash, ⟨root, hanchored⟩, hstorable⟩
    exact applied_of_anchored hselectors hdigest hrun hcheckpoint hhonest hahead htarget hhash
      hanchored hstorable

/-! ## §3. The lab's contract. -/

open Agent

/-- One cycle over the lab's contract. -/
def lab_contract_cycle (number : Nat) : ContractCycle where
  checkpoints := lab_checkpoints number
  calls := lab_calls number
  canonical_hash := .ok (lab_checkpoint number).hash
  confirmed_hash := .ok (lab_checkpoint number).hash
  issuer_keys := lab_issuer_keys
  identities := [resolver_a.1]
  now := 1750000000

theorem lab_cycle_honest {number : Nat} (h : number < 2 ^ 64) :
    (lab_contract_cycle number).Honest view_keccak256 lab_pins (fun _ => lab_storage) := by
  intro checkpoint hcheckpoint
  obtain rfl := Except.ok.inj ((lab_checkpoint_read h).symm.trans hcheckpoint)
  exact serves_node

theorem lab_chain_id : ∀ chain_id contract_address runtime_code_hash,
    lab_pins.target.adapter_metadata = .evm chain_id contract_address runtime_code_hash →
      (chain_id : Int) ≤ I64_MAX := by
  intro chain_id _ _ heq
  obtain ⟨rfl, _⟩ := RegistryAdapterMetadataV2.evm.inj heq
  decide

/-- A store that has the set, or is empty, can take it. -/
theorem lab_cycle_storable {number : Nat} (hnumber : (number : Int) ≤ I64_MAX) {last : Option Applied}
    (hlast : ∀ applied, last = some applied → applied.identities = [resolver_a.1] ∧
      applied.snapshot.checkpoint.hash = (lab_checkpoint number).hash) :
    Storable chain_platform last
      ((lab_contract_cycle number).cycle view_keccak256 chain_platform lab_pins)
      (lab_checkpoint number) := by
  have hnow : (0 : Int) < 1750000000 := by decide
  have hverify : chain_platform.verify_ed25519 = registry_recording.platform.verify_ed25519 := rfl
  have hgenuine : Genuine chain_platform lab_issuer_keys 1750000000 resolver_a.1 := by
    obtain ⟨⟨issuer_key, hfound, hsigned⟩, hactive⟩ := resolver_a_genuine
    exact ⟨⟨issuer_key, hfound, hverify ▸ hsigned⟩, hactive⟩
  have hkey : ∃ key, chain_platform.cache_key (lab_endpoint "192.0.2.1") = .ok key := ⟨_, rfl⟩
  obtain ⟨key, hkey⟩ := hkey
  refine .single rfl ?_ hnow hgenuine rfl rfl hkey (by decide) hnumber lab_chain_id
  intro applied happlied
  obtain ⟨hidentities, hhash⟩ := hlast applied happlied
  exact ⟨hidentities, congrArg Except.ok hhash.symm⟩

theorem lab_target_verified (number : Nat) : verify_target view_keccak256 lab_pins
    (lab_calls number).reads (quantity (lab_checkpoint number).number) = .ok () :=
  verify_target_node (by decide) (by decide) rfl

/-- The store after some cycles over the lab's contract. -/
def lab_contract_state (cycles : List ContractCycle) : SyncState :=
  cycles.foldl (fun st cycle =>
    st.take chain_platform (cycle.cycle view_keccak256 chain_platform lab_pins)) ⟨.open_, none⟩

theorem lab_contract_run (cycles : List ContractCycle) :
    (contract_sync view_keccak256 chain_platform lab_pins).run cycles =
      some (lab_contract_state cycles) :=
  (contract_sync view_keccak256 chain_platform lab_pins).run_of_total (fun _ _ => rfl) cycles

theorem lab_contract_next (cycles : List ContractCycle) (cycle : ContractCycle) :
    lab_contract_state (cycles ++ [cycle]) = (lab_contract_state cycles).take chain_platform
      (cycle.cycle view_keccak256 chain_platform lab_pins) := by
  unfold lab_contract_state
  rw [List.foldl_append, List.foldl_cons, List.foldl_nil]

/-- The first cycle is applied. -/
theorem lab_contract_last : ∃ applied, (lab_contract_state [lab_contract_cycle 100]).last = some applied ∧
    applied.identities = [resolver_a.1] ∧ applied.snapshot.checkpoint = lab_checkpoint 100 := by
  have hcheckpoint := @lab_checkpoint_read 100 (by decide)
  have happlied := applied_of_anchored view_selectors chain_platform_digest (lab_contract_run [])
    hcheckpoint (lab_cycle_honest (by decide)) (fun height hheight => by cases hheight)
    (lab_target_verified 100) rfl lab_storage_anchors
    (lab_cycle_storable (by decide) (fun applied hnone => by cases hnone))
  have hlast := last_of_applied hcheckpoint happlied
  rw [← lab_contract_next] at hlast
  exact hlast

theorem lab_contract_height :
    last_height (lab_contract_state [lab_contract_cycle 100]) = some 100 := by
  obtain ⟨applied, hlast, _, hcheckpoint⟩ := lab_contract_last
  unfold last_height
  rw [hlast]
  exact congrArg (fun checkpoint : FinalizedCheckpoint => some checkpoint.number) hcheckpoint

/-- The set is applied at block 100, and again at block 101. -/
theorem lab_cycle_applied :
    last_height (lab_contract_state [lab_contract_cycle 100]) = some 100 ∧
      ∃ count s', reconcile chain_platform
        ((lab_contract_cycle 101).cycle view_keccak256 chain_platform lab_pins)
          (lab_contract_state [lab_contract_cycle 100]).store = (.ok count, s') := by
  refine ⟨lab_contract_height, (contract_cycle_iff view_selectors chain_platform_digest
    (lab_contract_run _) (lab_checkpoint_read (by decide)) (lab_cycle_honest (by decide)) ?_).mpr
      ⟨lab_target_verified 101, rfl, ⟨5, lab_storage_anchors⟩, lab_cycle_storable (by decide) ?_⟩⟩
  · intro height hheight
    obtain rfl := Option.some.inj (lab_contract_height.symm.trans hheight)
    decide
  · obtain ⟨applied, hlast, hidentities, hcheckpoint⟩ := lab_contract_last
    intro other hother
    obtain rfl := Option.some.inj (hlast.symm.trans hother)
    rw [hcheckpoint]
    exact ⟨hidentities, rfl⟩

end ResolverIdentity.Chain
