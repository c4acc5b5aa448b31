/-
  ResolverIdentity.Chain.Revocation: the contract's history behind the synchronizer's runs.

  The contract goes on from block to block, a synchronizer reads it at one finalized
  block after the other, and clients look identities up in between.  Each cycle is that
  of `ri-registry-sync` over `evm_snapshot`; the node it asks may do what it likes except
  answer a contract call under a block with anything but the contract's storage there.

  Main results:
    * `followed_after`: over honest cycles the store follows the contract, and its height
      does not go back;
    * `served_anchored`: what a lookup gives out is anchored in the storage at the block of
      its reference;
    * `revoked_unserved`: a revocation the store has caught up with is never given out
      again, whatever the cycles after it read.
-/
import ResolverIdentity.Chain.ContractCycles

namespace ResolverIdentity.Chain

open Library Sync Publisher Store Agent

/-! ## §1. Blocks. -/

/-- The contract's storage at the end of each block. -/
def storage_at (keccak256 : String → Contract.Bytes32) (blocks : Nat → List Contract.Transaction)
    (r : Contract.Registry) : Nat → Contract.Registry
  | 0 => r
  | height + 1 => (storage_at keccak256 blocks r height).after keccak256 (blocks height)

section Blocks

variable {keccak256 : String → Contract.Bytes32} {blocks : Nat → List Contract.Transaction}
variable {r : Contract.Registry} (hr : Contract.WellFormed r)

include hr

theorem wellFormed_at (height : Nat) : Contract.WellFormed (storage_at keccak256 blocks r height) := by
  induction height with
  | zero => exact hr
  | succ height ih => exact ih.after _

theorem advances_at {low high : Nat} (h : low ≤ high) :
    Contract.Advances (storage_at keccak256 blocks r low) (storage_at keccak256 blocks r high) := by
  induction high with
  | zero =>
    rw [Nat.le_zero.mp h]
    exact Contract.Advances.refl _
  | succ high ih =>
    rcases Nat.lt_or_ge low (high + 1) with hlt | hge
    · exact (ih (Nat.lt_succ_iff.mp hlt)).trans (Contract.advances_after (wellFormed_at hr high) _)
    · rw [Nat.le_antisymm h hge]
      exact Contract.Advances.refl _

end Blocks

/-! ## §2. Cycles over the history. -/

section Runs

variable {digest : List UInt8 → List UInt8} {P : Platform} {pins : EvmPins}
variable {history : Nat → Contract.Registry} {st st' : SyncState} {cycles : List ContractCycle}

/-- The set applied last was read from the contract. -/
def ReadFromContract (digest : List UInt8 → List UInt8) (P : Platform) (pins : EvmPins)
    (history : Nat → Contract.Registry) (st : SyncState) : Prop :=
  ∀ applied, st.last = some applied → ∃ checkpoints calls,
    evm_snapshot digest P pins checkpoints calls applied.identities = .ok applied.snapshot ∧
    ∀ checkpoint, finalized_checkpoint pins.fallback_confirmations checkpoints = .ok checkpoint →
      Serves digest calls.reads pins.contract_address (quantity checkpoint.number)
        (history checkpoint.number)

theorem read_take (h : ReadFromContract digest P pins history st) {cycle : ContractCycle}
    (hhonest : cycle.Honest digest pins history) :
    ReadFromContract digest P pins history (st.take P (cycle.cycle digest P pins)) := by
  rcases take_cases (P := P) (cycle.cycle digest P pins) st with
    ⟨applied, happlied, hlast, _⟩ | hkept
  · intro applied' hlast'
    rw [hlast] at hlast'
    obtain rfl := Option.some.inj hlast'
    unfold Cycle.applied at happlied
    cases hread : evm_snapshot digest P pins cycle.checkpoints cycle.calls cycle.identities with
    | error error =>
      rw [show (cycle.cycle digest P pins).answers.read_snapshot = .error error from hread]
        at happlied
      cases happlied
    | ok snapshot =>
      rw [show (cycle.cycle digest P pins).answers.read_snapshot = .ok snapshot from hread]
        at happlied
      rw [← Option.some.inj happlied]
      exact ⟨cycle.checkpoints, cycle.calls, hread, hhonest⟩
  · rw [hkept]
    exact h

/-- What holds of every state a run with honest cycles reaches. -/
structure Followed (digest : List UInt8 → List UInt8) (P : Platform) (pins : EvmPins)
    (history : Nat → Contract.Registry) (st : SyncState) : Prop where
  holds : st.Holds P
  read : ReadFromContract digest P pins history st

/-- Over honest cycles the store keeps following the contract, and its height goes up. -/
theorem followed_after :
    ∀ {st : SyncState}, (∀ cycle ∈ cycles, cycle.Honest digest pins history) →
      Followed digest P pins history st →
      cycles.foldlM (contract_sync digest P pins).step st = some st' →
        Followed digest P pins history st' ∧ ∀ height, last_height st = some height →
          ∃ height', last_height st' = some height' ∧ height ≤ height' := by
  induction cycles with
  | nil =>
    intro st _ h hrun
    obtain rfl := Option.some.inj hrun
    exact ⟨h, fun height hheight => ⟨height, hheight, Nat.le_refl height⟩⟩
  | cons cycle rest ih =>
    intro st hhonest h hrun
    have hnext : Followed digest P pins history (st.take P (cycle.cycle digest P pins)) :=
      ⟨holds_take h.holds _, read_take h.read (hhonest cycle List.mem_cons_self)⟩
    obtain ⟨hfollowed, hup⟩ := ih (fun later hlater => hhonest later (List.mem_cons_of_mem _ hlater))
      hnext hrun
    refine ⟨hfollowed, ?_⟩
    intro height hheight
    obtain ⟨middle, hmiddle, hle⟩ := height_kept h.holds (cycle.cycle digest P pins) hheight
    obtain ⟨height', hheight', hle'⟩ := hup middle hmiddle
    exact ⟨height', hheight', Nat.le_trans hle hle'⟩

theorem followed_init : Followed digest P pins history (contract_sync digest P pins).init :=
  ⟨rfl, fun _ hlast => by cases hlast⟩

/-- A run taken apart. -/
theorem run_append_eq_some {pre post : List ContractCycle}
    (h : (contract_sync digest P pins).run (pre ++ post) = some st') :
    ∃ st, (contract_sync digest P pins).run pre = some st ∧
      post.foldlM (contract_sync digest P pins).step st = some st' := by
  rw [Machine.run_append] at h
  exact Option.bind_eq_some_iff.mp h

/-! ## §3. What is given out. -/

/-- A record of the storage that is the identity's anchors it. -/
theorem anchored_of_matches {r : Contract.Registry} (hdigest : ∀ bytes, IsDigest (P.sha256_hex bytes))
    {identity found : DnsServerIdentityV2} {keys : List String}
    (hid : found.server_id = identity.server_id)
    (h : Matches P identity (storage_record P r found keys)) : Anchored P r identity := by
  have hkey : IsDigest (P.resolver_id_key identity.server_id) := hdigest _
  have hhash : IsDigest (P.object_hash identity.to_value) := hdigest _
  have hresolver := h.resolver_id_key
  have hobject := h.object_hash
  have hversion := h.object_version
  have huntil := h.valid_until
  have hstatus := h.resolver_status
  have hroot := h.root_status
  unfold storage_record at hresolver hobject hversion huntil hstatus hroot
  rw [hid] at hresolver hobject hversion huntil hstatus hroot
  refine ⟨(normalize_eq_iff hkey).mp hresolver, (normalize_eq_iff hhash).mp hobject, hversion,
    huntil, active_iff.mp hstatus, active_iff.mp hroot, ?_⟩
  intro endpoint hendpoint
  obtain ⟨key, hregistry, howner⟩ := h.owned endpoint hendpoint
  refine ⟨key, hregistry, (normalize_eq_iff hkey).mp ?_⟩
  rw [show (storage_record P r found keys).endpoint_owners = storage_owners r keys from rfl,
    storage_owners_lookup] at howner
  by_cases hmem : key ∈ keys
  · rw [if_pos hmem] at howner
    exact Option.some.inj howner
  · rw [if_neg hmem] at howner
    cases howner

/-- What a lookup gives out is anchored in the storage at the block of its reference, which
is that of the set applied last. -/
theorem served_anchored (hselectors : Selectors digest)
    (hdigest : ∀ bytes, IsDigest (P.sha256_hex bytes)) (h : Followed digest P pins history st)
    {endpoint : DnsEndpoint} {identity : DnsServerIdentityV2} {registry : RegistryReferenceV2}
    (hlookup : lookup_identity P st.store endpoint = .ok (some (identity, registry))) :
    ∃ height, last_height st = some height ∧ Anchored P (history height) identity := by
  have hholds := h.holds
  unfold SyncState.Holds at hholds
  cases hlast : st.last with
  | none =>
    rw [hlast] at hholds
    rw [show st.store = .open_ from hholds] at hlookup
    exact absurd hlookup lookup_identity_open
  | some applied =>
    rw [hlast] at hholds
    obtain ⟨_, _, record, hrecord, hmatches, _⟩ := Reconciled.backed hholds hlookup
    obtain ⟨checkpoints, calls, hread, hserves⟩ := h.read applied hlast
    -- the checkpoint the snapshot was read at
    obtain ⟨checkpoint, hcheckpoint, _⟩ := bind_eq_ok.mp hread
    obtain ⟨heq, hstorage⟩ := storage_of_snapshot hselectors hdigest hcheckpoint
      (hserves checkpoint hcheckpoint) hread
    refine ⟨checkpoint.number, ?_, ?_⟩
    · unfold last_height
      rw [hlast, ← heq]
      rfl
    · obtain ⟨found, _, hid, keys, _, hmade⟩ := hstorage _ record hrecord
      rw [hmade] at hmatches
      exact anchored_of_matches hdigest hid hmatches

end Runs

/-- A revocation that the store has caught up with is final: no later state gives the
resolver out, whatever the later cycles bring and however they end. -/
theorem revoked_unserved {digest : List UInt8 → List UInt8} {P : Platform} {pins : EvmPins}
    (keccak256 : String → Contract.Bytes32)
    (blocks : Nat → List Contract.Transaction) {r : Contract.Registry}
    (hr : Contract.WellFormed r) (hselectors : Selectors digest)
    (hdigest : ∀ bytes, IsDigest (P.sha256_hex bytes)) {pre post : List ContractCycle}
    (hhonest : ∀ cycle ∈ pre ++ post, cycle.Honest digest pins (storage_at keccak256 blocks r))
    {st st' : SyncState} (hpre : (contract_sync digest P pins).run pre = some st)
    (hrun : (contract_sync digest P pins).run (pre ++ post) = some st')
    {server_id : String} {block height : Nat}
    (hrevoked : ((storage_at keccak256 blocks r block).resolver_anchors
      (word (P.resolver_id_key server_id))).status = .REVOKED)
    (hheight : last_height st = some height) (hcaught : block ≤ height) :
    ∀ endpoint identity registry, identity.server_id = server_id →
      lookup_identity P st'.store endpoint ≠ .ok (some (identity, registry)) := by
  intro endpoint identity registry hid hlookup
  have hfollowed : Followed digest P pins (storage_at keccak256 blocks r) st :=
    (followed_after
      (fun cycle hcycle => hhonest cycle (List.mem_append_left _ hcycle)) followed_init hpre).1
  obtain ⟨middle, hmiddle, hrest⟩ := run_append_eq_some hrun
  obtain rfl := Option.some.inj (hpre.symm.trans hmiddle)
  obtain ⟨hfollowed', hup⟩ := followed_after
    (fun cycle hcycle => hhonest cycle (List.mem_append_right _ hcycle)) hfollowed hrest
  obtain ⟨height', hheight', hle⟩ := hup height hheight
  obtain ⟨served, hserved, hanchored⟩ := served_anchored hselectors hdigest hfollowed' hlookup
  obtain rfl := Option.some.inj (hheight'.symm.trans hserved)
  -- the revocation is still in the storage that was read last
  have hstill := (advances_at hr (Nat.le_trans hcaught hle)).anchor_revoked _ hrevoked
  rw [← hid, hanchored.status] at hstill
  cases hstill

theorem lab_keys_differ : lab_revoked_key ≠ lab_resolver_key := by
  have hdiffer : chain_platform.resolver_id_key "resolver-b" ≠
      chain_platform.resolver_id_key "resolver-a" := by
    decide +kernel
  intro h
  exact hdiffer ((word_eq_iff (chain_platform_digest _) (chain_platform_digest _)).mp h)

theorem lab_storage_wellFormed : Contract.WellFormed lab_storage := by
  refine ⟨?_, ?_⟩
  · intro key hrevoked
    show (lab_storage.resolver_anchors key).object_version ≠ 0
    unfold lab_storage at hrevoked ⊢
    dsimp only at hrevoked ⊢
    by_cases hresolver : key = lab_resolver_key
    · rw [if_pos hresolver] at hrevoked
      cases hrevoked
    · rw [if_neg hresolver] at hrevoked ⊢
      by_cases hgone : key = lab_revoked_key
      · rw [if_pos hgone]
        exact (by decide : (1 : Contract.Uint64) ≠ 0)
      · rw [if_neg hgone] at hrevoked
        cases hrevoked
  · intro endpoint_key hbound
    show (lab_storage.resolver_anchors _).object_version ≠ 0
    unfold lab_storage at hbound ⊢
    dsimp only at hbound ⊢
    by_cases hendpoint : endpoint_key = word lab_endpoint_key
    · rw [if_pos hendpoint, if_pos rfl]
      exact (by decide : (1 : Contract.Uint64) ≠ 0)
    · rw [if_neg hendpoint] at hbound
      exact absurd rfl hbound

/-- `resolver-b` was revoked before block 100, which the first cycle has applied; after two more
it is not given out. -/
theorem lab_revoked_unserved :
    lookup_identity chain_platform (lab_contract_state [lab_contract_cycle 100, lab_contract_cycle 101,
      lab_contract_cycle 101]).store (lab_endpoint "192.0.2.1") ≠
      .ok (some ({ resolver_a.1 with server_id := "resolver-b" }, resolver_a.2)) := by
  have hrevoked : (lab_storage.resolver_anchors
      (word (chain_platform.resolver_id_key "resolver-b"))).status = .REVOKED := by
    show (if lab_revoked_key = lab_resolver_key then _ else
      if lab_revoked_key = lab_revoked_key then _ else _ : Contract.ResolverAnchor).status = _
    rw [if_neg lab_keys_differ, if_pos rfl]
  have hstays : ∀ height, storage_at (fun _ => 0) (fun _ => []) lab_storage height = lab_storage := by
    intro height
    induction height with
    | zero => rfl
    | succ height ih => exact ih
  have hhonest : ∀ cycle ∈ [lab_contract_cycle 100] ++ [lab_contract_cycle 101, lab_contract_cycle 101],
      cycle.Honest view_keccak256 lab_pins (storage_at (fun _ => 0) (fun _ => []) lab_storage) := by
    intro cycle hcycle
    rw [show storage_at (fun _ => 0) (fun _ => []) lab_storage = fun _ => lab_storage from funext hstays]
    simp only [List.cons_append, List.nil_append, List.mem_cons, List.not_mem_nil, or_false,
      or_self] at hcycle
    rcases hcycle with rfl | rfl
    · exact lab_cycle_honest (by decide)
    · exact lab_cycle_honest (by decide)
  exact revoked_unserved (fun _ => 0) (fun _ => []) lab_storage_wellFormed view_selectors
    chain_platform_digest hhonest (lab_contract_run _) (lab_contract_run _)
    (by rw [hstays 100]; exact hrevoked) lab_contract_height (Nat.le_refl 100) _ _ _ rfl

end ResolverIdentity.Chain
