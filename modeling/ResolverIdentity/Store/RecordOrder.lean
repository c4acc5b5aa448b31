/-
  ResolverIdentity.Store.RecordOrder: does the order of a snapshot's records matter?

  The records are written one at a time into a lookup table whose keys are unique,
  so a record can meet a row that a later record would have taken away.  Whether
  some order fails depends on who holds the endpoints before the snapshot.

  Main results:
    * `WellFormed.perm`: reordering keeps a snapshot well formed;
    * `order_independent_iff`: every order succeeds, with one outcome, exactly when
      no endpoint of a record is held by another listed identity and every dropped
      identity reads back.
-/
import ResolverIdentity.Store.ExactSnapshots

namespace ResolverIdentity.Store

open Library RegistryReferenceV2

namespace EvidenceStore

variable (P : Platform)

/-! ## §1. The outcomes of a snapshot. -/

/-- Every order of the records succeeds, with the same answer, generation, identities
and lookups.  Tables are compared by what a key maps to: row ids follow the order of
insertion and no statement on these two tables reads them. -/
def OrderIndependent (s : EvidenceStore) (records : List IdentityRecord)
    (success_epoch : Int) : Prop :=
  ∃ (generation final_generation : Nat) (identity : String → Option IdentityRow)
    (owner : String → Option String), ∀ records', records'.Perm records →
      ∃ s', s.apply_registry_snapshot P records' success_epoch = (.ok generation, s') ∧
        s'.cache_generation = final_generation ∧
        (∀ id, s'.ri_v2_identities.get? id = identity id) ∧
        (∀ key, s'.ri_v2_endpoint_lookup.get? key = owner key)

/-! ## §2. Reordering. -/

variable {P}

/-- The deployment of a reference, as the snapshot checks compare it. -/
theorem same_deployment_iff {first reference : RegistryReferenceV2} :
    same_deployment first reference = true ↔
      (reference.chain_adapter = first.chain_adapter ∧
        reference.chain_identity = first.chain_identity ∧
        reference.registry_locator = first.registry_locator ∧
        reference.registry_schema_hash = first.registry_schema_hash ∧
        reference.adapter_metadata = first.adapter_metadata) ∧
      (reference.checkpoint_height = first.checkpoint_height ∧
        reference.checkpoint_hash = first.checkpoint_hash ∧
        reference.finality_type = first.finality_type) ∧
      reference.snapshot_generation = first.snapshot_generation ∧
      reference.state_root = first.state_root := by
  simp [same_deployment, and_assoc]

/-- The checks against the store read only the deployment of the first record. -/
theorem check_snapshot_congr {s : EvidenceStore} {first first' : RegistryReferenceV2}
    (h : same_deployment first first' = true) :
    s.check_snapshot first' = s.check_snapshot first := by
  obtain ⟨⟨hadapter, hidentity, hlocator, hschema, hmetadata⟩, ⟨hheight, hhash, _⟩, hgeneration,
    hroot⟩ := same_deployment_iff.mp h
  unfold check_snapshot check_existing check_meta check_checkpoint check_generation target_changed
  rw [hadapter, hidentity, hlocator, hschema, hmetadata, hheight, hhash, hgeneration, hroot]

theorem same_deployment_trans {first middle last : RegistryReferenceV2}
    (h : same_deployment first middle = true) (h' : same_deployment first last = true) :
    same_deployment middle last = true := by
  have hm := same_deployment_iff.mp h
  have hl := same_deployment_iff.mp h'
  refine same_deployment_iff.mpr ?_
  simp only [hm, hl, and_self]

theorem mem_server_ids {records : List IdentityRecord} {id : String} :
    id ∈ server_ids records ↔ ∃ record ∈ records, record.1.server_id = id :=
  List.mem_map

theorem WellFormed.perm {s : EvidenceStore} {records records' : List IdentityRecord}
    {success_epoch : Int} (h : WellFormed P s records success_epoch)
    (hperm : records'.Perm records) : WellFormed P s records' success_epoch := by
  obtain ⟨record₀, rest, ids, hrecords, hcheck, hsnapshot⟩ := h.checked
  obtain ⟨hconsistent, hids, _, hkeys, _⟩ := check_records_iff.mp hcheck
  refine ⟨h.epoch, ?_, fun record hrecord => h.fits record (hperm.mem_iff.mp hrecord)⟩
  cases hlist : records' with
  | nil =>
    rw [hlist, hrecords] at hperm
    exact absurd hperm.symm (List.not_perm_cons_nil)
  | cons first others =>
    have hfirst : first ∈ records := hperm.mem_iff.mp (hlist ▸ List.mem_cons_self)
    have hdeployment := (hconsistent first hfirst).1.deployment
    rw [← hlist]
    refine ⟨first, others, _, hlist, check_records_iff.mpr ⟨?_, ?_, by simp, ?_, by simp, rfl⟩, ?_⟩
    · intro record hrecord
      obtain ⟨hc, hhas⟩ := hconsistent record (hperm.mem_iff.mp hrecord)
      exact ⟨⟨hc.version, hc.hash, same_deployment_trans hdeployment hc.deployment⟩, hhas⟩
    · exact (hperm.map _).nodup_iff.mpr hids
    · exact (hperm.flatMap_right _).nodup_iff.mpr hkeys
    · rw [check_snapshot_congr hdeployment]
      exact hsnapshot

/-! ## §3. One outcome. -/

/-- Two orders of one snapshot leave the same rows. -/
theorem Applied.same_identities {s : EvidenceStore} {records records' : List IdentityRecord}
    {acc acc' : EvidenceStore × Bool} (h : Applied P records s acc)
    (h' : Applied P records' s acc') (hperm : records'.Perm records) (id : String) :
    acc'.1.ri_v2_identities.get? id = acc.1.ri_v2_identities.get? id := by
  have hids := (hperm.map (fun record => record.1.server_id)).mem_iff (a := id)
  by_cases hlisted : id ∈ server_ids records
  · obtain ⟨record, hrecord, rfl⟩ := mem_server_ids.mp hlisted
    rw [h.listed record hrecord, h'.listed record (hperm.mem_iff.mpr hrecord)]
  · rw [h.unlisted id hlisted, h'.unlisted id (fun hmem => hlisted (hids.mp hmem))]

theorem Applied.same_lookup {s : EvidenceStore} {records records' : List IdentityRecord}
    {acc acc' : EvidenceStore × Bool} (h : Applied P records s acc)
    (h' : Applied P records' s acc') (hperm : records'.Perm records) (key : String) :
    acc'.1.ri_v2_endpoint_lookup.get? key = acc.1.ri_v2_endpoint_lookup.get? key := by
  have hids : ∀ id, id ∈ server_ids records' ↔ id ∈ server_ids records :=
    fun id => (hperm.map (fun record => record.1.server_id)).mem_iff
  refine Option.ext (fun owner => ?_)
  rw [h.lookup, h'.lookup, hids]
  simp only [hperm.mem_iff]

theorem Applied.same_change {s : EvidenceStore} {records records' : List IdentityRecord}
    {acc acc' : EvidenceStore × Bool} (h : Applied P records s acc)
    (h' : Applied P records' s acc') (hperm : records'.Perm records) : acc'.2 = acc.2 := by
  have hids : ∀ id, id ∈ server_ids records' ↔ id ∈ server_ids records :=
    fun id => (hperm.map (fun record => record.1.server_id)).mem_iff
  rw [Bool.eq_iff_iff, h.change, h'.change]
  unfold SemanticChange NewlyRemoved
  simp only [hperm.mem_iff, hids]

/-- What follows the loops depends on the flag and the generation only. -/
theorem finish_snapshot_congr (first first' : RegistryReferenceV2) (success_epoch : Int)
    {acc acc' : EvidenceStore × Bool} (hflag : acc'.2 = acc.2)
    (hgeneration : acc'.1.cache_generation = acc.1.cache_generation) :
    (finish_snapshot first' success_epoch acc').1 = (finish_snapshot first success_epoch acc).1 ∧
      (finish_snapshot first' success_epoch acc').2.cache_generation =
        (finish_snapshot first success_epoch acc).2.cache_generation := by
  have hbump : acc'.1.bump_generation.1 = acc.1.bump_generation.1 ∧
      acc'.1.bump_generation.2.cache_generation = acc.1.bump_generation.2.cache_generation := by
    unfold bump_generation bump_generation_to
    rw [hgeneration]
    refine ⟨rfl, ?_⟩
    dsimp only
    split
    · exact hgeneration
    · rfl
  unfold finish_snapshot
  rw [hflag]
  cases acc.2 with
  | false => exact ⟨hgeneration, hgeneration⟩
  | true => exact hbump

theorem finish_snapshot_tables (first : RegistryReferenceV2) (success_epoch : Int)
    (acc : EvidenceStore × Bool) :
    (finish_snapshot first success_epoch acc).2.ri_v2_identities = acc.1.ri_v2_identities ∧
      (finish_snapshot first success_epoch acc).2.ri_v2_endpoint_lookup =
        acc.1.ri_v2_endpoint_lookup := by
  unfold finish_snapshot
  cases acc.2 with
  | false => exact ⟨rfl, rfl⟩
  | true =>
    rcases acc.1.bump_generation_cases with ⟨_, heq⟩ | ⟨_, heq⟩
    · simp only [if_true, heq]
      exact ⟨trivial, trivial⟩
    · simp only [if_true, heq]
      exact ⟨trivial, trivial⟩

/-! ## §4. When every order succeeds. -/

/-- A record that is written first meets every stored owner that is not dropped. -/
theorem endpoints_free_of_first {s : EvidenceStore} {record : IdentityRecord}
    {rest : List IdentityRecord} {acc acc' : EvidenceStore × Bool}
    (hremove : remove_missing (server_ids (record :: rest)).reverse s.identity_ids (s, false) =
      .ok acc)
    (hwrite : write_records P (record :: rest) acc = .ok acc') :
    ∀ key ∈ endpoint_keys P record.1.endpoints, ∀ owner,
      s.ri_v2_endpoint_lookup.get? key = some owner → owner = record.1.server_id ∨
        (owner ∈ s.identity_ids ∧ owner ∉ server_ids (record :: rest)) := by
  have hreads := remove_missing_reads (nodup_identity_ids s) hremove
  obtain ⟨acc₁, hrun, hremoved⟩ := remove_missing_spec (nodup_identity_ids s) hreads
  obtain rfl := Except.ok.inj (hremove.symm.trans hrun)
  rw [write_records] at hwrite
  obtain ⟨acc₂, hfirst, _⟩ := bind_eq_ok.mp hwrite
  have hfree := (write_record_iff.mp ⟨acc₂, hfirst⟩).2.2.2
  intro key hkey owner howner
  by_cases hgone : owner ∈ s.identity_ids ∧ owner ∉ (server_ids (record :: rest)).reverse
  · exact Or.inr ⟨hgone.1, mem_reverse_server_ids.mp hgone.2⟩
  · exact Or.inl (hfree key hkey owner ((hremoved.lookup key owner).mpr ⟨howner, hgone⟩))

theorem EndpointsFree.perm {s : EvidenceStore} {records records' : List IdentityRecord}
    (h : EndpointsFree P s records) (hperm : records'.Perm records) :
    EndpointsFree P s records' := by
  have hids : ∀ id, id ∈ server_ids records' ↔ id ∈ server_ids records :=
    fun id => (hperm.map (fun record => record.1.server_id)).mem_iff
  intro record hrecord key hkey owner howner
  rw [hids]
  exact h record (hperm.mem_iff.mp hrecord) key hkey owner howner

/-- For a well-formed snapshot the order of the records is immaterial exactly when no
endpoint of a record is held by another listed identity (or by an owner that is not
stored) and every dropped identity reads back. -/
theorem order_independent_iff (P : Platform) (s : EvidenceStore) (records : List IdentityRecord)
    (success_epoch : Int) (h : WellFormed P s records success_epoch) :
    OrderIndependent P s records success_epoch ↔
      EndpointsFree P s records ∧ DroppedRead (server_ids records) s.identity_ids s := by
  constructor
  · intro hindependent
    obtain ⟨generation, final_generation, identity, owner, hruns⟩ := hindependent
    constructor
    · intro record hrecord key hkey owner' howner'
      -- the order that writes this record first
      obtain ⟨before, after, hsplit⟩ := List.append_of_mem hrecord
      have hperm : (record :: (before ++ after)).Perm records := by
        rw [hsplit]
        exact List.perm_middle.symm
      have hids := (hperm.map (fun record => record.1.server_id)).mem_iff (a := owner')
      obtain ⟨s', hrun, _⟩ := hruns _ hperm
      obtain ⟨_, _, _, _, _, _, _, _, acc, acc', hremove, hwrite, _⟩ :=
        apply_registry_snapshot_iff.mp hrun
      rcases endpoints_free_of_first hremove hwrite key hkey owner' howner' with hown | hgone
      · exact Or.inl hown
      · exact Or.inr ⟨hgone.1, fun hmem => hgone.2 (hids.mpr hmem)⟩
    · obtain ⟨s', hrun, _⟩ := hruns records (List.Perm.refl _)
      obtain ⟨_, _, _, _, _, _, _, _, acc, acc', hremove, _, _⟩ :=
        apply_registry_snapshot_iff.mp hrun
      have hreads := remove_missing_reads (nodup_identity_ids s) hremove
      exact fun id hid hout => hreads id hid (mem_reverse_server_ids.mpr hout)
  · intro hfree
    obtain ⟨hfree, hreads⟩ := hfree
    obtain ⟨first, acc, happlied, _⟩ := apply_of_free h hfree hreads
    refine ⟨(finish_snapshot first success_epoch acc).1,
      (finish_snapshot first success_epoch acc).2.cache_generation,
      acc.1.ri_v2_identities.get?, acc.1.ri_v2_endpoint_lookup.get?, fun records' hperm => ?_⟩
    have hreads' : DroppedRead (server_ids records') s.identity_ids s := by
      intro id hid hout
      exact hreads id hid
        (fun hmem => hout ((hperm.map (fun record => record.1.server_id)).mem_iff.mpr hmem))
    obtain ⟨first', acc', happlied', hrun⟩ :=
      apply_of_free (h.perm hperm) (hfree.perm hperm) hreads'
    have hgeneration : acc'.1.cache_generation = acc.1.cache_generation := by
      rw [happlied.rest, happlied'.rest]
      rfl
    obtain ⟨hanswer, hfinal⟩ := finish_snapshot_congr first first' success_epoch
      (happlied.same_change happlied' hperm) hgeneration
    obtain ⟨hidentities, hlookup⟩ := finish_snapshot_tables first' success_epoch acc'
    refine ⟨_, hanswer ▸ hrun, hfinal, fun id => ?_, fun key => ?_⟩
    · rw [hidentities]
      exact happlied.same_identities happlied' hperm id
    · rw [hlookup]
      exact happlied.same_lookup happlied' hperm key

/-! ## §5. Endpoints that move. -/

/-- A record of an identity with one named endpoint. -/
def placed_record (server_id endpoint_id ip object_hash : String) (height generation : Nat)
    (checkpoint_hash state_root : String) : IdentityRecord :=
  let record := sample_record server_id ip object_hash height generation checkpoint_hash state_root
  ({ record.1 with endpoints := [⟨some endpoint_id, some ip, some 53, "udp", none, none, []⟩] },
    record.2)

/-- The digests of the placed identities, told apart by their endpoint ids. -/
def placed_recording : Recording where
  digests := [
    ("\x7b\"anycast\":false,\"endpoints\":[\x7b\"endpoint_id\":\"a/1\"",
      "0xf91cd26b44efd180648bbe75e455b6e8531f62879b9c33f4627c1c53ea5fe895"),
    ("\x7b\"anycast\":false,\"endpoints\":[\x7b\"endpoint_id\":\"b/1\"",
      "0x8509a570050584dc5005262e2326a2be11a692c578e5599ff74c6f25f7028986"),
    ("\x7b\"anycast\":false,\"endpoints\":[\x7b\"endpoint_id\":\"a/2\"",
      "0x501b24fd0683d2ba61c3f4fc42fd62d126412eb3559d7090a9f5f369e7159d9c"),
    ("\x7b\"anycast\":false,\"endpoints\":[\x7b\"endpoint_id\":\"b/2\"",
      "0x7463af25e63c061e226d6a2c873a150cd586c41057db8871f3242a628efc213a"),
    ("\x7b\"anycast\":false,\"endpoints\":[\x7b\"endpoint_id\":\"b/3\"",
      "0xb8c307fb799d5d031a00db179cd2a655d7c2554b21af1b6300da0c34a15e7ef7")]
  keys := []
  signatures := []

/-- `resolver-a` at 192.0.2.1 and `resolver-b` at 192.0.2.2. -/
def placed_records : List IdentityRecord :=
  [placed_record "resolver-a" "a/1" "192.0.2.1"
      "0xf91cd26b44efd180648bbe75e455b6e8531f62879b9c33f4627c1c53ea5fe895" 100 10 "0xa100" "0xb10",
    placed_record "resolver-b" "b/1" "192.0.2.2"
      "0x8509a570050584dc5005262e2326a2be11a692c578e5599ff74c6f25f7028986" 100 10 "0xa100" "0xb10"]

/-- `resolver-a` takes over the endpoint of `resolver-b`. -/
def taking_record : IdentityRecord :=
  placed_record "resolver-a" "a/2" "192.0.2.2"
    "0x501b24fd0683d2ba61c3f4fc42fd62d126412eb3559d7090a9f5f369e7159d9c" 101 11 "0xa101" "0xb11"

/-- `resolver-b` moves on to a free one. -/
def leaving_record : IdentityRecord :=
  placed_record "resolver-b" "b/2" "192.0.2.3"
    "0x7463af25e63c061e226d6a2c873a150cd586c41057db8871f3242a628efc213a" 101 11 "0xa101" "0xb11"

/-- Or takes that of `resolver-a`. -/
def swapping_record : IdentityRecord :=
  placed_record "resolver-b" "b/3" "192.0.2.1"
    "0xb8c307fb799d5d031a00db179cd2a655d7c2554b21af1b6300da0c34a15e7ef7" 101 11 "0xa101" "0xb11"

/-- The store after the first snapshot. -/
def placed_store : EvidenceStore :=
  (EvidenceStore.open_.apply_registry_snapshot placed_recording.platform placed_records
    1750000000).2

/-- The checks of a well-formed snapshot, evaluated. -/
def well_formed (P : Platform) (s : EvidenceStore) (records : List IdentityRecord)
    (success_epoch : Int) : Bool :=
  match records with
  | [] => false
  | record₀ :: _ => decide (0 < success_epoch) &&
    (check_records P record₀.2 records [] []).toOption.isSome &&
    (s.check_snapshot record₀.2).toOption.isSome &&
    records.all (fun record => (legacy_evm_columns record.2).toOption.isSome &&
      decide ((record.1.object_version : Int) ≤ I64_MAX) &&
      decide ((record.2.snapshot_generation : Int) ≤ I64_MAX) &&
      decide ((record.2.checkpoint_height : Int) ≤ I64_MAX))

theorem wellFormed_of_check {s : EvidenceStore} {records : List IdentityRecord}
    {success_epoch : Int} (h : well_formed P s records success_epoch = true) :
    WellFormed P s records success_epoch := by
  cases records with
  | nil => cases h
  | cons record₀ rest =>
    simp only [well_formed, Bool.and_eq_true, decide_eq_true_eq, List.all_eq_true,
      Option.isSome_iff_exists] at h
    obtain ⟨⟨⟨hepoch, ids, hids⟩, _, hsnapshot⟩, hfits⟩ := h
    refine ⟨hepoch, ⟨record₀, rest, ids, rfl, toOption_eq_some hids, toOption_eq_some hsnapshot⟩,
      fun record hrecord => ?_⟩
    obtain ⟨⟨⟨⟨columns, hcolumns⟩, hversion⟩, hgeneration⟩, hheight⟩ := hfits record hrecord
    exact ⟨⟨columns, toOption_eq_some hcolumns⟩, hversion, hgeneration, hheight⟩

/-- What the three snapshots answer. -/
def snapshot_answer (records : List IdentityRecord) : Option Nat :=
  (placed_store.apply_registry_snapshot placed_recording.platform records 1750000001).1.toOption

theorem moved_endpoint_answers :
    (well_formed placed_recording.platform placed_store [taking_record, leaving_record]
        1750000001 = true ∧
      snapshot_answer [taking_record, leaving_record] = none ∧
      snapshot_answer [leaving_record, taking_record] = some 2) ∧
    (well_formed placed_recording.platform placed_store [taking_record, swapping_record]
        1750000001 = true ∧
      snapshot_answer [taking_record, swapping_record] = none ∧
      snapshot_answer [swapping_record, taking_record] = none) := by
  decide +kernel

theorem not_order_independent_of_answer {records : List IdentityRecord}
    (h : snapshot_answer records = none) :
    ¬ OrderIndependent placed_recording.platform placed_store records 1750000001 := by
  intro hindependent
  obtain ⟨_, _, _, _, hruns⟩ := hindependent
  obtain ⟨s', hrun, _⟩ := hruns records (List.Perm.refl _)
  unfold snapshot_answer at h
  rw [hrun] at h
  cases h

/-- Nobody holds the endpoints before the first snapshot. -/
theorem first_snapshot_any_order :
    WellFormed placed_recording.platform .open_ placed_records 1750000000 ∧
      (OrderIndependent placed_recording.platform .open_ placed_records 1750000000 ↔
        EndpointsFree placed_recording.platform .open_ placed_records ∧
          DroppedRead (server_ids placed_records) EvidenceStore.open_.identity_ids .open_) :=
  have h := wellFormed_of_check (by decide +kernel)
  ⟨h, order_independent_iff _ _ _ _ h⟩

/-- An endpoint that moves to a record written earlier stops the snapshot, and a swap
stops it in either order. -/
theorem moved_endpoint_order_matters :
    (WellFormed placed_recording.platform placed_store [taking_record, leaving_record] 1750000001 ∧
      ¬ OrderIndependent placed_recording.platform placed_store [taking_record, leaving_record]
        1750000001) ∧
    (WellFormed placed_recording.platform placed_store [taking_record, swapping_record]
        1750000001 ∧
      ¬ OrderIndependent placed_recording.platform placed_store [taking_record, swapping_record]
        1750000001) := by
  obtain ⟨⟨hmoved, hrefused, _⟩, hswapped, hrefused', _⟩ := moved_endpoint_answers
  exact ⟨⟨wellFormed_of_check hmoved, not_order_independent_of_answer hrefused⟩,
    wellFormed_of_check hswapped, not_order_independent_of_answer hrefused'⟩

end EvidenceStore

end ResolverIdentity.Store
