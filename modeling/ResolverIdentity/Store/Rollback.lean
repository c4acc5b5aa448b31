/-
  ResolverIdentity.Store.Rollback: Registry rollback over whole runs.

  A run is a sequence of `apply_registry_snapshot` calls on a store that starts
  empty; its history is the list of accepted snapshots, each with the store it
  was applied to.  `NoRollback` is what the checks are for: every later accepted
  snapshot `Succeeds` every earlier one.

  The checkpoint is one value in `ri_v2_meta` and its half of the law holds of
  every run.  The source generation is read back from the row with the smallest
  server id, and a removal rewrites only the status of a row, so that row can
  carry the stamp of an old snapshot.

  Main results:
    * `apply_registry_snapshot_leaves`: what an accepted call checked, and what it
      leaves of the rows and the checkpoint;
    * `HistoryInv.apply`: the rows carry stamps of the history, the last one's too;
    * `accepted_checkpoints_ordered`: the checkpoint half, unconditionally;
    * `no_rollback_iff`: the whole law holds of exactly the runs whose accepted
      calls are `Guarded`.
-/
import ResolverIdentity.Core.Recorded
import ResolverIdentity.Library.Machine
import ResolverIdentity.Store.Identities

namespace ResolverIdentity.Store

open Library EvidenceStore

/-! ## §1. Histories. -/

/-- One `apply_registry_snapshot` call: the records and the success epoch. -/
abbrev SnapshotCall := List IdentityRecord × Int

/-- An accepted snapshot: its shared reference and the store it was applied to. -/
structure AcceptedSnapshot where
  before : EvidenceStore
  reference : RegistryReferenceV2

/-- The store with the snapshots it has accepted. -/
structure RegistryHistory where
  store : EvidenceStore
  accepted : List AcceptedSnapshot

variable (P : Platform)

/-- Apply one call; only an accepted one enters the history. -/
def RegistryHistory.apply (h : RegistryHistory) (call : SnapshotCall) : RegistryHistory :=
  match apply_registry_snapshot P call.1 call.2 h.store, call.1 with
  | (.ok _, s'), (_, first) :: _ => ⟨s', h.accepted ++ [⟨h.store, first⟩]⟩
  | (_, s'), _ => ⟨s', h.accepted⟩

/-- The history of a sequence of calls on a store that starts empty. -/
def registry_history (calls : List SnapshotCall) : RegistryHistory :=
  calls.foldl (fun h call => h.apply P call) ⟨EvidenceStore.open_, []⟩

theorem registry_history_snoc (calls : List SnapshotCall) (call : SnapshotCall) :
    registry_history P (calls ++ [call]) = (registry_history P calls).apply P call := by
  unfold registry_history
  rw [List.foldl_append]
  rfl

/-! ## §2. The law. -/

/-- `later` may follow `earlier`: neither the height nor the generation goes back,
and an equal one names the same hash or root. -/
structure Succeeds (earlier later : RegistryReferenceV2) : Prop where
  height : earlier.checkpoint_height ≤ later.checkpoint_height
  hash : earlier.checkpoint_height = later.checkpoint_height →
    earlier.checkpoint_hash = later.checkpoint_hash
  generation : earlier.snapshot_generation ≤ later.snapshot_generation
  root : earlier.snapshot_generation = later.snapshot_generation →
    earlier.state_root = later.state_root

/-- Every accepted snapshot succeeds every snapshot accepted before it. -/
def NoRollback (accepted : List AcceptedSnapshot) : Prop :=
  accepted.Pairwise (fun earlier later => Succeeds earlier.reference later.reference)

/-- The row the generation check reads carries the greatest generation stored. -/
def FirstRowLeads (s : EvidenceStore) : Prop :=
  ∀ first_row ∈ s.rows_by_server_id.head?, ∀ row ∈ s.ri_v2_identities.rows,
    row.val.registry_json.snapshot_generation ≤
      first_row.val.registry_json.snapshot_generation

/-- The snapshot goes back behind no stored row. -/
def NotBehind (s : EvidenceStore) (reference : RegistryReferenceV2) : Prop :=
  ∀ row ∈ s.ri_v2_identities.rows,
    row.val.registry_json.snapshot_generation ≤ reference.snapshot_generation ∧
    (row.val.registry_json.snapshot_generation = reference.snapshot_generation →
      row.val.registry_json.state_root = reference.state_root)

/-- The generation check sees the high-water mark, or has nothing to catch. -/
def Guarded (a : AcceptedSnapshot) : Prop := FirstRowLeads a.before ∨ NotBehind a.before a.reference

/-! ## §3. What an accepted call leaves. -/

variable {P}

/-- The first row of the ordered listing is a row of the table. -/
theorem mem_of_first_row {s : EvidenceStore} {row : Row String IdentityRow}
    (h : s.rows_by_server_id.head? = some row) : row ∈ s.ri_v2_identities.rows :=
  (List.mem_insertionSort _).mp (List.mem_of_mem_head? h)

/-- The generation check compares with the stamp of the first row. -/
theorem check_snapshot_first_row {s : EvidenceStore} {first : RegistryReferenceV2}
    (h : s.check_snapshot first = .ok ()) {row : Row String IdentityRow}
    (hrow : s.rows_by_server_id.head? = some row) :
    row.val.registry_json.snapshot_generation ≤ first.snapshot_generation ∧
    (row.val.registry_json.snapshot_generation = first.snapshot_generation →
      row.val.registry_json.state_root = first.state_root) := by
  unfold check_snapshot at h
  obtain ⟨existing, hexisting, h⟩ := bind_eq_ok.mp h
  obtain ⟨_, hcheck, _⟩ := bind_eq_ok.mp h
  unfold existing_reference at hexisting
  rw [hrow] at hexisting
  obtain ⟨reference, hread, hexisting⟩ := bind_eq_ok.mp hexisting
  obtain rfl := Except.ok.inj hexisting
  obtain ⟨_, _, hgen⟩ := bind_eq_ok.mp hcheck
  obtain ⟨_, hlow, hroot⟩ := bind_eq_ok.mp hgen
  have hstamp := reread_stamp (decode_reference_eq_ok.mp hread)
  have hg : reference.snapshot_generation = row.val.registry_json.snapshot_generation :=
    congrArg Prod.fst hstamp
  have hr : reference.state_root = row.val.registry_json.state_root := congrArg Prod.snd hstamp
  rw [rejectIf_eq_ok] at hlow hroot
  simp only [decide_eq_false_iff_not, Nat.not_lt] at hlow
  rw [hg] at hlow
  refine ⟨hlow, fun heq => ?_⟩
  simp only [Bool.and_eq_false_iff, beq_eq_false_iff_ne, bne_eq_false_iff_eq] at hroot
  rcases hroot with hne | heq'
  · exact absurd (hg.trans heq).symm hne
  · exact (heq'.trans hr).symm

/-- The checkpoint check compares with the checkpoint in `ri_v2_meta`. -/
theorem check_snapshot_checkpoint {s : EvidenceStore} {first : RegistryReferenceV2}
    (h : s.check_snapshot first = .ok ()) {block : Nat} {hash : String}
    (hblock : s.ri_v2_meta.registry_finalized_block = some block)
    (hhash : s.ri_v2_meta.registry_finalized_block_hash = some hash) :
    block ≤ first.checkpoint_height ∧
      (block = first.checkpoint_height → hash = first.checkpoint_hash) := by
  unfold check_snapshot at h
  obtain ⟨_, _, h⟩ := bind_eq_ok.mp h
  obtain ⟨_, _, h⟩ := bind_eq_ok.mp h
  obtain ⟨_, _, h⟩ := bind_eq_ok.mp h
  obtain ⟨checkpoint, hcheckpoint, h⟩ := bind_eq_ok.mp h
  simp only [registry_checkpoint_from, hblock, hhash] at hcheckpoint
  obtain rfl := Except.ok.inj hcheckpoint
  obtain ⟨_, hlow, hsame⟩ := bind_eq_ok.mp h
  rw [rejectIf_eq_ok] at hlow hsame
  simp only [decide_eq_false_iff_not, Nat.not_lt] at hlow
  refine ⟨hlow, fun heq => ?_⟩
  simp only [Bool.and_eq_false_iff, beq_eq_false_iff_ne, bne_eq_false_iff_eq] at hsame
  rcases hsame with hne | hhash'
  · exact absurd heq.symm hne
  · exact hhash'.symm

theorem bump_generation_identities (s : EvidenceStore) :
    s.bump_generation.2.ri_v2_identities = s.ri_v2_identities := by
  rcases s.bump_generation_cases with ⟨_, h⟩ | ⟨_, h⟩
  · rw [h]
  · rw [h]

/-- What an accepted call checked, and what it leaves of rows and checkpoint. -/
theorem apply_registry_snapshot_leaves {records : List IdentityRecord} {success_epoch : Int}
    {s s' : EvidenceStore} {generation : Nat}
    (h : apply_registry_snapshot P records success_epoch s = (.ok generation, s')) :
    ∃ identity first rest, records = (identity, first) :: rest ∧
      s.check_snapshot first = .ok () ∧
      (∀ row' ∈ s'.ri_v2_identities.rows, stamp row'.val.registry_json = stamp first ∨
        ∃ row ∈ s.ri_v2_identities.rows,
          stamp row'.val.registry_json = stamp row.val.registry_json) ∧
      (∃ row' ∈ s'.ri_v2_identities.rows, stamp row'.val.registry_json = stamp first) ∧
      s'.ri_v2_meta.registry_finalized_block = some first.checkpoint_height ∧
      s'.ri_v2_meta.registry_finalized_block_hash = some first.checkpoint_hash := by
  obtain ⟨identity, first, rest, ids, acc, s₁, change, rfl, hids, hcheck, hacc, hwrite, rfl⟩ :=
    apply_registry_snapshot_eq_ok h
  have hstamps : ∀ record ∈ (identity, first) :: rest, stamp record.2 = stamp first := by
    intro record hrecord
    have hsame := check_records_same_deployment hids record hrecord
    simp only [same_deployment, Bool.and_eq_true, decide_eq_true_eq] at hsame
    exact Prod.ext hsame.1.2 hsame.2
  obtain ⟨hrows, hsome⟩ := write_records_stamps hstamps hwrite
  have hidentities : (if change then s₁.bump_generation.2 else s₁).ri_v2_identities =
      s₁.ri_v2_identities := by
    cases change with
    | false => rfl
    | true => exact bump_generation_identities s₁
  refine ⟨identity, first, rest, rfl, hcheck, ?_, ?_, rfl, rfl⟩
  · intro row' hrow'
    rcases hrows row' (hidentities ▸ hrow') with hnew | ⟨row₁, hrow₁, heq⟩
    · exact Or.inl hnew
    · obtain ⟨row, hrow, heq'⟩ := remove_missing_stamps hacc row₁ hrow₁
      exact Or.inr ⟨row, hrow, heq.trans heq'⟩
  · obtain ⟨row', hrow', heq⟩ := hsome (List.cons_ne_nil _ _)
    exact ⟨row', hidentities ▸ hrow', heq⟩

/-! ## §4. The invariant of histories. -/

/-- Every row carries the stamp of an accepted snapshot, the last accepted one has
left its stamp on some row, and the checkpoint is its checkpoint. -/
structure HistoryInv (h : RegistryHistory) : Prop where
  rows : ∀ row ∈ h.store.ri_v2_identities.rows, ∃ a ∈ h.accepted,
    stamp row.val.registry_json = stamp a.reference
  last_row : ∀ a ∈ h.accepted.getLast?, ∃ row ∈ h.store.ri_v2_identities.rows,
    stamp row.val.registry_json = stamp a.reference
  last_checkpoint : ∀ a ∈ h.accepted.getLast?,
    h.store.ri_v2_meta.registry_finalized_block = some a.reference.checkpoint_height ∧
    h.store.ri_v2_meta.registry_finalized_block_hash = some a.reference.checkpoint_hash

/-- A call is rejected and changes nothing, or enters the history with its checks
passed. -/
theorem RegistryHistory.apply_cases (h : RegistryHistory) (call : SnapshotCall) :
    h.apply P call = h ∨
      ∃ first, (h.apply P call).accepted = h.accepted ++ [⟨h.store, first⟩] ∧
        h.store.check_snapshot first = .ok () ∧
        (HistoryInv h → HistoryInv (h.apply P call)) := by
  unfold RegistryHistory.apply
  cases hcall : apply_registry_snapshot P call.1 call.2 h.store with
  | mk outcome s' =>
    cases outcome with
    | error e =>
      left
      simp only [transaction_error hcall]
    | ok generation =>
      obtain ⟨identity, first, rest, hrecords, hcheck, hrows, hsome, hblock, hhash⟩ :=
        apply_registry_snapshot_leaves hcall
      right
      rw [hrecords]
      refine ⟨first, rfl, hcheck, fun hinv => ?_⟩
      constructor
      · intro row' hrow'
        rcases hrows row' hrow' with hnew | ⟨row, hrow, heq⟩
        · exact ⟨⟨h.store, first⟩, by simp, hnew⟩
        · obtain ⟨a, ha, hstamp⟩ := hinv.rows row hrow
          exact ⟨a, List.mem_append_left _ ha, heq.trans hstamp⟩
      · intro a ha
        obtain rfl := Option.some.inj (List.getLast?_concat.symm.trans ha)
        exact hsome
      · intro a ha
        obtain rfl := Option.some.inj (List.getLast?_concat.symm.trans ha)
        exact ⟨hblock, hhash⟩

variable (P) in
theorem historyInv (calls : List SnapshotCall) : HistoryInv (registry_history P calls) := by
  induction calls using List.reverseRecOn with
  | nil =>
    constructor
    · intro row hrow
      cases hrow
    · intro a ha
      cases ha
    · intro a ha
      cases ha
  | append_singleton calls call ih =>
    rw [registry_history_snoc]
    rcases (registry_history P calls).apply_cases (P := P) call with heq | ⟨_, _, _, hinv⟩
    · rw [heq]
      exact ih
    · exact hinv ih

/-! ## §5. The law. -/

theorem Succeeds.trans {a b c : RegistryReferenceV2} (hab : Succeeds a b) (hbc : Succeeds b c) :
    Succeeds a c := by
  constructor
  · exact hab.height.trans hbc.height
  · intro heq
    have hb : a.checkpoint_height = b.checkpoint_height :=
      le_antisymm hab.height (heq ▸ hbc.height)
    exact (hab.hash hb).trans (hbc.hash (hb.symm.trans heq))
  · exact hab.generation.trans hbc.generation
  · intro heq
    have hb : a.snapshot_generation = b.snapshot_generation :=
      le_antisymm hab.generation (heq ▸ hbc.generation)
    exact (hab.root hb).trans (hbc.root (hb.symm.trans heq))

/-- The step of the law: past a history without rollback, the next accepted
snapshot succeeds the history exactly when its call is guarded. -/
theorem succeeds_iff_guarded {h : RegistryHistory} (hinv : HistoryInv h)
    (hlaw : NoRollback h.accepted) {first : RegistryReferenceV2}
    (hcheck : h.store.check_snapshot first = .ok ()) :
    (∀ a ∈ h.accepted, Succeeds a.reference first) ↔ Guarded ⟨h.store, first⟩ := by
  constructor
  · intro hall
    right
    intro row hrow
    obtain ⟨a, ha, hstamp⟩ := hinv.rows row hrow
    obtain ⟨hg, hr⟩ := Prod.mk.inj hstamp
    have hsucc := hall a ha
    refine ⟨hg ▸ hsucc.generation, fun heq => ?_⟩
    exact hr.trans (hsucc.root (hg.symm.trans heq))
  · intro hguard
    refine rel_of_last (R := fun a b : AcceptedSnapshot => Succeeds a.reference b.reference)
      Succeeds.trans hlaw (x := ⟨h.store, first⟩) (fun a ha => ?_)
    obtain ⟨row, hrow, hstamp⟩ := hinv.last_row a ha
    obtain ⟨hg, hr⟩ := Prod.mk.inj hstamp
    obtain ⟨hblock, hhash⟩ := hinv.last_checkpoint a ha
    obtain ⟨hheight, hhash'⟩ := check_snapshot_checkpoint hcheck hblock hhash
    -- the row that carries the last stamp is not ahead of the call
    have hrow_le : row.val.registry_json.snapshot_generation ≤ first.snapshot_generation ∧
        (row.val.registry_json.snapshot_generation = first.snapshot_generation →
          row.val.registry_json.state_root = first.state_root) := by
      rcases hguard with hlead | hnot
      · obtain ⟨row₀, hrow₀⟩ : ∃ row₀, h.store.rows_by_server_id.head? = some row₀ := by
          cases hrows : h.store.rows_by_server_id with
          | nil =>
            have hmem : row ∈ h.store.rows_by_server_id :=
              (List.mem_insertionSort _).mpr hrow
            rw [hrows] at hmem
            cases hmem
          | cons row₀ _ => exact ⟨row₀, rfl⟩
        obtain ⟨hle, hroot⟩ := check_snapshot_first_row hcheck hrow₀
        have hlead' := hlead row₀ hrow₀ row hrow
        refine ⟨hlead'.trans hle, fun heq => ?_⟩
        -- both rows carry the call's generation, so stamps of one generation
        have heq₀ : row₀.val.registry_json.snapshot_generation = first.snapshot_generation :=
          le_antisymm hle (heq ▸ hlead')
        obtain ⟨a₀, ha₀, hstamp₀⟩ := hinv.rows row₀ (mem_of_first_row hrow₀)
        obtain ⟨hg₀, hr₀⟩ := Prod.mk.inj hstamp₀
        have hlaw' : Succeeds a₀.reference a.reference ∨ a₀ = a := by
          obtain ⟨pre, hpre⟩ : ∃ pre, h.accepted = pre ++ [a] :=
            ⟨_, (List.dropLast_append_getLast? a ha).symm⟩
          rw [hpre] at ha₀ hlaw
          rcases List.mem_append.mp ha₀ with ha₀ | ha₀
          · exact Or.inl ((List.pairwise_append.mp hlaw).2.2 a₀ ha₀ a List.mem_cons_self)
          · exact Or.inr (List.mem_singleton.mp ha₀)
        have hroots : a₀.reference.state_root = a.reference.state_root := by
          rcases hlaw' with hsucc | rfl
          · exact hsucc.root (hg₀.symm.trans (heq₀.trans (heq.symm.trans hg)))
          · rfl
        rw [hr, ← hroots, ← hr₀]
        exact hroot heq₀
      · exact hnot row hrow
    constructor
    · exact hheight
    · exact hhash'
    · exact hg ▸ hrow_le.1
    · intro heq
      exact hr.symm.trans (hrow_le.2 (hg.trans heq))

/-- The law holds of a run exactly when each of its accepted snapshots was applied
to a store whose first row leads, or goes back behind no stored row. -/
theorem no_rollback_iff (P : Platform) (calls : List SnapshotCall) :
    NoRollback (registry_history P calls).accepted ↔
      ∀ a ∈ (registry_history P calls).accepted, Guarded a := by
  induction calls using List.reverseRecOn with
  | nil =>
    constructor
    · intro _ a ha
      cases ha
    · intro _
      exact List.Pairwise.nil
  | append_singleton calls call ih =>
    rw [registry_history_snoc]
    rcases (registry_history P calls).apply_cases (P := P) call with heq | ⟨first, hacc, hcheck, _⟩
    · rw [heq]
      exact ih
    · have hstep := fun hlaw =>
        succeeds_iff_guarded (historyInv P calls) hlaw hcheck
      rw [hacc]
      constructor
      · intro hlaw a ha
        obtain ⟨hpre, hnew⟩ := pairwise_snoc.mp hlaw
        rcases List.mem_append.mp ha with ha | ha
        · exact ih.mp hpre a ha
        · rw [List.mem_singleton.mp ha]
          exact (hstep hpre).mp hnew
      · intro hguard
        have hpre := ih.mpr (fun a ha => hguard a (List.mem_append_left _ ha))
        refine pairwise_snoc.mpr ⟨hpre, ?_⟩
        exact (hstep hpre).mpr (hguard _ (List.mem_append_right _ List.mem_cons_self))

/-- The checkpoint half of `Succeeds`. -/
structure CheckpointSucceeds (earlier later : RegistryReferenceV2) : Prop where
  height : earlier.checkpoint_height ≤ later.checkpoint_height
  hash : earlier.checkpoint_height = later.checkpoint_height →
    earlier.checkpoint_hash = later.checkpoint_hash

theorem CheckpointSucceeds.trans {a b c : RegistryReferenceV2} (hab : CheckpointSucceeds a b)
    (hbc : CheckpointSucceeds b c) : CheckpointSucceeds a c := by
  constructor
  · exact hab.height.trans hbc.height
  · intro heq
    have hb : a.checkpoint_height = b.checkpoint_height :=
      le_antisymm hab.height (heq ▸ hbc.height)
    exact (hab.hash hb).trans (hbc.hash (hb.symm.trans heq))

/-- The checkpoint half needs no condition. -/
theorem accepted_checkpoints_ordered (P : Platform) (calls : List SnapshotCall) :
    (registry_history P calls).accepted.Pairwise
      (fun earlier later => CheckpointSucceeds earlier.reference later.reference) := by
  induction calls using List.reverseRecOn with
  | nil => exact List.Pairwise.nil
  | append_singleton calls call ih =>
    rw [registry_history_snoc]
    rcases (registry_history P calls).apply_cases (P := P) call with heq | ⟨first, hacc, hcheck, _⟩
    · rw [heq]
      exact ih
    · rw [hacc]
      refine pairwise_snoc.mpr ⟨ih, ?_⟩
      refine rel_of_last
        (R := fun a b : AcceptedSnapshot => CheckpointSucceeds a.reference b.reference)
        CheckpointSucceeds.trans ih (fun last hlast => ?_)
      obtain ⟨hblock, hstored⟩ := (historyInv P calls).last_checkpoint last hlast
      obtain ⟨hheight, hsame⟩ := check_snapshot_checkpoint hcheck hblock hstored
      exact ⟨hheight, hsame⟩

/-! ## §6. A run that rolls back. -/

/-- An identity with one UDP endpoint. -/
def sample_identity (server_id ip : String) : DnsServerIdentityV2 where
  schema_version := DNS_SERVER_IDENTITY_V2
  server_id := server_id
  operator_id := "operator-a"
  role := .recursive
  endpoints := [⟨none, some ip, some 53, "udp", none, none, []⟩]
  anycast := false
  anycast_service_id := none
  agent := none
  valid_from := 1700000000
  valid_until := 1900000000
  object_version := 1
  status := "ACTIVE"
  issuer := "registry-operator"
  key_id := "registry-key-1"
  signature := none

/-- The digests of the two identities of the run. -/
def sample_recording : Recording where
  digests := [
    ("\x7b\"anycast\":false,\"endpoints\":[\x7b\"ip\":\"192.0.2.1\"",
      "0x3ae7e6245bcb276d3bd0202dff6aa96e45966737f674102b212d2d712f090caf"),
    ("\x7b\"anycast\":false,\"endpoints\":[\x7b\"ip\":\"192.0.2.2\"",
      "0x622e51f286db7a5fde18f2cadf809cb74282fc1629d5a5e4a90f9255e6fa5691")]
  keys := []
  signatures := []

/-- A record of a snapshot taken at the given height and source generation. -/
def sample_record (server_id ip object_hash : String) (height generation : Nat)
    (checkpoint_hash state_root : String) : IdentityRecord :=
  (sample_identity server_id ip,
    { chain_adapter := "evm"
      chain_identity := "eip155:11155111"
      registry_locator := "evm:0x1111111111111111111111111111111111111111"
      registry_schema_hash := "0x2222222222222222222222222222222222222222222222222222222222222222"
      adapter_metadata := .evm 11155111 "0x1111111111111111111111111111111111111111"
        "0x2222222222222222222222222222222222222222222222222222222222222222"
      checkpoint_height := height
      checkpoint_hash := checkpoint_hash
      finality_type := .evmFinalized
      state_root := state_root
      object_hash := object_hash
      object_version := 1
      resolver_status := "ACTIVE"
      root_status := "ACTIVE"
      endpoint_binding_status := "MATCHED"
      snapshot_generation := generation })

/-- A record of `resolver-a`. -/
def sample_a : Nat → Nat → String → String → IdentityRecord :=
  sample_record "resolver-a" "192.0.2.1"
    "0x3ae7e6245bcb276d3bd0202dff6aa96e45966737f674102b212d2d712f090caf"

/-- A record of `resolver-b`. -/
def sample_b : Nat → Nat → String → String → IdentityRecord :=
  sample_record "resolver-b" "192.0.2.2"
    "0x622e51f286db7a5fde18f2cadf809cb74282fc1629d5a5e4a90f9255e6fa5691"

/-- `resolver-a` is dropped at source generation 20; its row keeps generation 10
and stays the first one, so a snapshot of generation 15 passes. -/
def dropped_first_calls : List SnapshotCall := [
  ([sample_a 100 10 "0xa100" "0xb10", sample_b 100 10 "0xa100" "0xb10"], 1750000000),
  ([sample_b 101 20 "0xa101" "0xb20"], 1750000001),
  ([sample_b 102 15 "0xa102" "0xb15"], 1750000002)]

theorem dropped_first_accepted :
    ((registry_history sample_recording.platform dropped_first_calls).accepted.map
      (fun a => a.reference.snapshot_generation)) = [10, 20, 15] := by
  decide +kernel

/-- The third snapshot is older than the second and is accepted. -/
theorem dropped_first_rolls_back :
    ¬ NoRollback (registry_history sample_recording.platform dropped_first_calls).accepted := by
  intro hlaw
  have hsorted : ((registry_history sample_recording.platform dropped_first_calls).accepted.map
      (fun a => a.reference.snapshot_generation)).Pairwise (· ≤ ·) := by
    rw [List.pairwise_map]
    exact List.Pairwise.imp (fun h => h.generation) hlaw
  rw [dropped_first_accepted] at hsorted
  exact absurd hsorted (by decide)

end ResolverIdentity.Store
