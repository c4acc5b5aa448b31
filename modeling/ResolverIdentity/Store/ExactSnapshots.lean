/-
  ResolverIdentity.Store.ExactSnapshots: an accepted snapshot is what the store holds.

  Main results:
    * `apply_registry_snapshot_iff`: the calls that are accepted;
    * `applied_of_loops`: what every key maps to after both loops;
    * `apply_of_free`: a well-formed snapshot with free endpoints is applied;
    * `snapshot_exact`: an accepted snapshot is exactly what the store gives out, and
      it raises the generation exactly for a semantic change; a refused one changes
      nothing.
-/
import ResolverIdentity.Store.Rollback
import ResolverIdentity.Store.Snapshots

namespace ResolverIdentity.Store

open Library RegistryReferenceV2

namespace EvidenceStore

variable {P : Platform}

/-! ## §1. The whole snapshot. -/

theorem mem_identity_ids {s : EvidenceStore} {id : String} :
    id ∈ s.identity_ids ↔ ∃ row, s.ri_v2_identities.get? id = some row := by
  unfold identity_ids rows_by_server_id
  simp only [List.mem_map, List.mem_insertionSort, RowTable.get?_eq_some_iff]
  constructor
  · intro h
    obtain ⟨row, hrow, hkey⟩ := h
    exact ⟨row.val, row, hrow, hkey, rfl⟩
  · intro h
    obtain ⟨_, row, hrow, hkey, _⟩ := h
    exact ⟨row, hrow, hkey⟩

theorem nodup_identity_ids (s : EvidenceStore) : s.identity_ids.Nodup :=
  ((List.perm_insertionSort _ _).map Row.key).nodup_iff.mpr s.ri_v2_identities.keyed

/-- The store gives out the record's identity, with its Registry state. -/
def Unchanged (s : EvidenceStore) (record : IdentityRecord) : Prop :=
  ∃ current, s.get_identity record.1.server_id = .ok (some (record.1, current)) ∧
    same_registry_state current record.2 = true

theorem same_semantics_iff {s : EvidenceStore} {record : IdentityRecord} :
    s.same_semantics record = true ↔ Unchanged s record := by
  constructor
  · intro h
    obtain ⟨row, current, hget, hidentity, hread, hsame⟩ := same_semantics_eq_true h
    refine ⟨current, ?_, hsame⟩
    unfold get_identity
    simp only [hget, decode_reference_eq_ok.mpr hread, ok_bind, hidentity]
  · intro h
    obtain ⟨current, hget, hsame⟩ := h
    unfold get_identity at hget
    unfold same_semantics
    cases hrow : s.ri_v2_identities.get? record.1.server_id with
    | none =>
      rw [hrow] at hget
      cases hget
    | some row =>
      rw [hrow] at hget
      obtain ⟨registry, hdecode, hget⟩ := bind_eq_ok.mp hget
      obtain ⟨hidentity, rfl⟩ := Prod.mk.inj (Option.some.inj (Except.ok.inj hget))
      simp only [hdecode, hidentity, hsame, decide_true, Bool.and_self]

/-- A stored identity that the snapshot drops and that was not removed before. -/
def NewlyRemoved (s : EvidenceStore) (records : List IdentityRecord) (id : String) : Prop :=
  id ∉ server_ids records ∧ ∃ row, s.ri_v2_identities.get? id = some row ∧
    row.registry_json.resolver_status ≠ "REMOVED"

/-- A listed identity or its Registry state is not the stored one, or one is dropped. -/
def SemanticChange (s : EvidenceStore) (records : List IdentityRecord) : Prop :=
  (∃ record ∈ records, ¬ Unchanged s record) ∨ ∃ id, NewlyRemoved s records id

variable (P) in
/-- Both loops at once: every unlisted stored identity is removed, every record written. -/
structure Applied (records : List IdentityRecord) (s : EvidenceStore)
    (acc : EvidenceStore × Bool) : Prop where
  listed : ∀ record ∈ records,
    acc.1.ri_v2_identities.get? record.1.server_id = some (written_row record)
  unlisted : ∀ id, id ∉ server_ids records →
    acc.1.ri_v2_identities.get? id = (s.ri_v2_identities.get? id).map removed_row
  lookup : ∀ key owner, acc.1.ri_v2_endpoint_lookup.get? key = some owner ↔
    (∃ record ∈ records, record.1.server_id = owner ∧ key ∈ endpoint_keys P record.1.endpoints) ∨
      (owner ∉ server_ids records ∧ owner ∉ s.identity_ids ∧
        s.ri_v2_endpoint_lookup.get? key = some owner)
  snapshot : ∀ id reference,
    acc.1.ri_v2_registry_snapshot.get? ("registry-v2:" ++ id) = some reference ↔
      (∃ record ∈ records, record.1.server_id = id ∧ record.2 = reference) ∨
        (id ∉ server_ids records ∧ id ∉ s.identity_ids ∧
          s.ri_v2_registry_snapshot.get? ("registry-v2:" ++ id) = some reference)
  rest : acc.1 = { s with
    ri_v2_identities := acc.1.ri_v2_identities
    ri_v2_endpoint_lookup := acc.1.ri_v2_endpoint_lookup
    ri_v2_registry_snapshot := acc.1.ri_v2_registry_snapshot }
  change : acc.2 = true ↔ SemanticChange s records

theorem mem_reverse_server_ids {records : List IdentityRecord} {id : String} :
    id ∉ (server_ids records).reverse ↔ id ∉ server_ids records := by
  rw [List.mem_reverse]

theorem applied_of_loops {records : List IdentityRecord} {s : EvidenceStore}
    {acc acc' : EvidenceStore × Bool} (hids : (server_ids records).Nodup)
    (hremove : remove_missing (server_ids records).reverse s.identity_ids (s, false) = .ok acc)
    (hwrite : write_records P records acc = .ok acc') : Applied P records s acc' := by
  have hreads := remove_missing_reads (nodup_identity_ids s) hremove
  obtain ⟨acc₁, hrun, hremoved⟩ := remove_missing_spec (nodup_identity_ids s) hreads
  obtain rfl := Except.ok.inj (hremove.symm.trans hrun)
  have hwritten := write_records_spec hids hwrite
  -- a row that is not listed is stored and dropped, or not stored at all
  have hrow : ∀ id, id ∉ server_ids records →
      acc.1.ri_v2_identities.get? id = (s.ri_v2_identities.get? id).map removed_row := by
    intro id hid
    by_cases hstored : id ∈ s.identity_ids
    · exact hremoved.dropped id ⟨hstored, mem_reverse_server_ids.mpr hid⟩
    · rw [hremoved.kept id (fun h => hstored h.1)]
      cases hget : s.ri_v2_identities.get? id with
      | none => rfl
      | some row => exact absurd (mem_identity_ids.mpr ⟨row, hget⟩) hstored
  -- and a listed one is the stored one
  have hlisted : ∀ record ∈ records, acc.1.ri_v2_identities.get? record.1.server_id =
      s.ri_v2_identities.get? record.1.server_id := by
    intro record hrecord
    refine hremoved.kept _ (fun h => ?_)
    exact mem_reverse_server_ids.mp h.2 (List.mem_map_of_mem hrecord)
  constructor
  · exact hwritten.listed
  · intro id hid
    rw [hwritten.kept id hid, hrow id hid]
  · intro key owner
    rw [hwritten.lookup, hremoved.lookup, mem_reverse_server_ids]
    refine or_congr_right (and_congr_right (fun hout => ?_))
    rw [not_and', imp_iff_right hout, and_comm]
  · intro id reference
    rw [hwritten.snapshot, hremoved.snapshot, mem_reverse_server_ids]
    refine or_congr_right (and_congr_right (fun hout => ?_))
    rw [not_and', imp_iff_right hout, and_comm]
  · rw [hwritten.rest, hremoved.rest]
  · rw [hwritten.change, hremoved.change, or_comm]
    unfold SemanticChange
    refine or_congr ?_ ?_
    · refine exists_congr (fun record => and_congr_right (fun hrecord => ?_))
      rw [same_semantics_congr (hlisted record hrecord), ← same_semantics_iff,
        Bool.not_eq_true]
    · simp only [Bool.false_eq_true, false_or, mem_reverse_server_ids]
      refine exists_congr (fun id => ?_)
      unfold NewlyRemoved
      constructor
      · intro h
        obtain ⟨row, ⟨_, hout⟩, hget, hstatus⟩ := h
        exact ⟨hout, row, hget, hstatus⟩
      · intro h
        obtain ⟨hout, row, hget, hstatus⟩ := h
        exact ⟨row, ⟨mem_identity_ids.mpr ⟨row, hget⟩, hout⟩, hget, hstatus⟩

/-- What the transaction does after both loops. -/
def finish_snapshot (first : RegistryReferenceV2) (success_epoch : Int)
    (acc : EvidenceStore × Bool) : Nat × EvidenceStore :=
  let (generation, s) := if acc.2 then acc.1.bump_generation
    else (acc.1.cache_generation, acc.1)
  (generation, { s with ri_v2_meta := set_snapshot_meta first success_epoch s.ri_v2_meta })

/-- The accepted calls: the checks pass, and so do both loops. -/
theorem apply_registry_snapshot_iff {records : List IdentityRecord} {success_epoch : Int}
    {s s' : EvidenceStore} {generation : Nat} :
    apply_registry_snapshot P records success_epoch s = (.ok generation, s') ↔
      0 < success_epoch ∧ ∃ record₀ rest, records = record₀ :: rest ∧
        (∀ record ∈ records, Consistent P record₀.2 record ∧ HasKeys P record.1.endpoints) ∧
        (server_ids records).Nodup ∧ (record_keys P records).Nodup ∧
        s.check_snapshot record₀.2 = .ok () ∧
        ∃ acc acc', remove_missing (server_ids records).reverse s.identity_ids (s, false) = .ok acc ∧
          write_records P records acc = .ok acc' ∧
          (generation, s') = finish_snapshot record₀.2 success_epoch acc' := by
  unfold apply_registry_snapshot
  rw [transaction_eq_ok]
  cases records with
  | nil =>
    constructor
    · intro h
      cases h
    · intro h
      obtain ⟨_, _, _, hnil, _⟩ := h
      cases hnil
  | cons record₀ rest =>
    obtain ⟨identity, first⟩ := record₀
    unfold apply_registry_snapshot_body
    simp only [bind_eq_ok, rejectIf_eq_ok, check_records_iff, decide_eq_false_iff_not, not_le,
      List.append_nil, List.not_mem_nil, not_false_eq_true, implies_true, true_and]
    constructor
    · intro h
      obtain ⟨_, hepoch, _, ⟨hrecords, hids, hkeys, rfl⟩, _, hcheck, acc, hremove, acc', hwrite,
        hfinish⟩ := h
      exact ⟨hepoch, _, _, rfl, hrecords, hids, hkeys, hcheck, acc, acc', hremove, hwrite,
        (Except.ok.inj hfinish).symm⟩
    · intro h
      obtain ⟨hepoch, _, _, heq, hrecords, hids, hkeys, hcheck, acc, acc', hremove, hwrite,
        hfinish⟩ := h
      obtain ⟨rfl, rfl⟩ := List.cons.inj heq
      exact ⟨(), hepoch, _, ⟨hrecords, hids, hkeys, rfl⟩, (), hcheck, acc, hremove, acc', hwrite,
        congrArg Except.ok hfinish.symm⟩

/-! ## §2. Snapshots that are applied. -/

variable (P) in
/-- The checks pass on the records one by one and against the store. -/
structure WellFormed (s : EvidenceStore) (records : List IdentityRecord)
    (success_epoch : Int) : Prop where
  epoch : 0 < success_epoch
  checked : ∃ record₀ rest ids, records = record₀ :: rest ∧
    check_records P record₀.2 records [] [] = .ok ids ∧ s.check_snapshot record₀.2 = .ok ()
  fits : ∀ record ∈ records, FitsColumns record

variable (P) in
/-- Each endpoint of a record is held by nobody, by the record's own identity, or by a
stored identity that the snapshot drops. -/
def EndpointsFree (s : EvidenceStore) (records : List IdentityRecord) : Prop :=
  ∀ record ∈ records, ∀ key ∈ endpoint_keys P record.1.endpoints, ∀ owner,
    s.ri_v2_endpoint_lookup.get? key = some owner →
      owner = record.1.server_id ∨ (owner ∈ s.identity_ids ∧ owner ∉ server_ids records)

/-- With free endpoints and readable rows, a well-formed snapshot is applied. -/
theorem apply_of_free {s : EvidenceStore} {records : List IdentityRecord} {success_epoch : Int}
    (h : WellFormed P s records success_epoch) (hfree : EndpointsFree P s records)
    (hreads : DroppedRead (server_ids records) s.identity_ids s) :
    ∃ first acc, Applied P records s acc ∧
      s.apply_registry_snapshot P records success_epoch =
        (.ok (finish_snapshot first success_epoch acc).1,
          (finish_snapshot first success_epoch acc).2) := by
  obtain ⟨record₀, rest, ids, hrecords, hcheck, hsnapshot⟩ := h.checked
  obtain ⟨hconsistent, hids, _, hkeys, _⟩ := check_records_iff.mp hcheck
  have hreads' : DroppedRead (server_ids records).reverse s.identity_ids s :=
    fun id hid hout => hreads id hid (mem_reverse_server_ids.mp hout)
  obtain ⟨acc, hremove, hremoved⟩ : ∃ acc,
      remove_missing (server_ids records).reverse s.identity_ids (s, false) = .ok acc ∧
        Removed (fun id => id ∈ s.identity_ids ∧ id ∉ (server_ids records).reverse)
          (s, false) acc := remove_missing_spec (nodup_identity_ids s) hreads'
  have hready : ∀ record ∈ records, FitsColumns record ∧ HasKeys P record.1.endpoints ∧
      KeysFree P record acc.1 := by
    intro record hrecord
    refine ⟨h.fits record hrecord, (hconsistent record hrecord).2, fun key hkey owner howner => ?_⟩
    obtain ⟨hold, hkept⟩ := (hremoved.lookup key owner).mp howner
    rcases hfree record hrecord key hkey owner hold with hown | ⟨hstored, hout⟩
    · exact hown
    · exact absurd ⟨hstored, mem_reverse_server_ids.mpr hout⟩ hkept
  obtain ⟨acc', hwrite⟩ := write_records_succeeds hids hkeys hready
  refine ⟨record₀.2, acc', applied_of_loops hids hremove hwrite, ?_⟩
  exact apply_registry_snapshot_iff.mpr ⟨h.epoch, record₀, rest, hrecords, hconsistent, hids, hkeys,
    hsnapshot, acc, acc', hremove, hwrite, rfl⟩

/-! ## §3. Snapshots are exact. -/

variable (P) in
/-- What an accepted snapshot leaves: the listed identities and nothing else is live. -/
structure Exact (s : EvidenceStore) (records : List IdentityRecord) (s' : EvidenceStore) : Prop where
  listed : ∀ record ∈ records,
    s'.ri_v2_identities.get? record.1.server_id = some (written_row record)
  unlisted : ∀ id row, id ∉ server_ids records → s'.ri_v2_identities.get? id = some row →
    row.registry_json.resolver_status = "REMOVED" ∧
      (∀ key, s'.ri_v2_endpoint_lookup.get? key ≠ some id) ∧
      s'.ri_v2_registry_snapshot.get? ("registry-v2:" ++ id) = none
  /-- No identity appears or disappears beside the listed ones. -/
  stored : ∀ id, id ∉ server_ids records → (id ∈ s'.identity_ids ↔ id ∈ s.identity_ids)
  lookup : ∀ key id, id ∈ server_ids records → (s'.ri_v2_endpoint_lookup.get? key = some id ↔
    ∃ record ∈ records, record.1.server_id = id ∧
      ∃ endpoint ∈ record.1.endpoints, P.cache_key endpoint = .ok key)

/-- The generation is raised and the graphs go exactly for a semantic change. -/
structure Invalidates (s : EvidenceStore) (records : List IdentityRecord)
    (s' : EvidenceStore) : Prop where
  raised : (s.cache_generation < s'.cache_generation ∧ s'.ri_v2_evidence_graphs = .empty) ↔
    SemanticChange s records
  kept : ¬ SemanticChange s records → s'.cache_generation = s.cache_generation ∧
    s'.ri_v2_evidence_graphs = s.ri_v2_evidence_graphs

theorem Applied.exact {records : List IdentityRecord} {s : EvidenceStore}
    {acc : EvidenceStore × Bool} (h : Applied P records s acc) : Exact P s records acc.1 where
  listed := h.listed
  unlisted := by
    intro id row hout hrow
    rw [h.unlisted id hout, Option.map_eq_some_iff] at hrow
    obtain ⟨old, hold, rfl⟩ := hrow
    have hstored : id ∈ s.identity_ids := mem_identity_ids.mpr ⟨old, hold⟩
    have hlisted : ∀ record ∈ records, record.1.server_id ≠ id := by
      intro record hrecord heq
      exact hout (heq ▸ List.mem_map_of_mem hrecord)
    refine ⟨removed_row_status old, fun key hkey => ?_, ?_⟩
    · rcases (h.lookup key id).mp hkey with ⟨record, hrecord, heq, _⟩ | ⟨_, hnot, _⟩
      · exact hlisted record hrecord heq
      · exact hnot hstored
    · rw [Option.eq_none_iff_forall_ne_some]
      intro reference hreference
      rcases (h.snapshot id reference).mp hreference with ⟨record, hrecord, heq, _⟩ | ⟨_, hnot, _⟩
      · exact hlisted record hrecord heq
      · exact hnot hstored
  stored := by
    intro id hout
    rw [mem_identity_ids, mem_identity_ids, h.unlisted id hout]
    simp only [Option.map_eq_some_iff]
    constructor
    · intro hrow
      obtain ⟨_, old, hold, _⟩ := hrow
      exact ⟨old, hold⟩
    · intro hold
      obtain ⟨old, hold⟩ := hold
      exact ⟨_, old, hold, rfl⟩
  lookup := by
    intro key id hlisted
    rw [h.lookup]
    simp only [mem_endpoint_keys]
    exact or_iff_left (fun hout => hout.1 hlisted)

/-- The heartbeat and the target in the metadata are not part of it. -/
theorem Exact.of_tables {s s₁ s' : EvidenceStore} {records : List IdentityRecord}
    (h : Exact P s records s₁) (hidentities : s'.ri_v2_identities = s₁.ri_v2_identities)
    (hlookup : s'.ri_v2_endpoint_lookup = s₁.ri_v2_endpoint_lookup)
    (hsnapshot : s'.ri_v2_registry_snapshot = s₁.ri_v2_registry_snapshot) :
    Exact P s records s' where
  listed := by
    rw [hidentities]
    exact h.listed
  unlisted := by
    rw [hidentities, hlookup, hsnapshot]
    exact h.unlisted
  stored := by
    intro id hout
    rw [← h.stored id hout, mem_identity_ids, mem_identity_ids, hidentities]
  lookup := by
    rw [hlookup]
    exact h.lookup

theorem Applied.finish {records : List IdentityRecord} {s : EvidenceStore}
    {acc : EvidenceStore × Bool} (h : Applied P records s acc)
    (hbelow : (s.cache_generation : Int) < I64_MAX) (first : RegistryReferenceV2)
    (success_epoch : Int) :
    Exact P s records (finish_snapshot first success_epoch acc).2 ∧
      Invalidates s records (finish_snapshot first success_epoch acc).2 ∧
      (finish_snapshot first success_epoch acc).1 =
        (finish_snapshot first success_epoch acc).2.cache_generation := by
  have hgeneration : acc.1.cache_generation = s.cache_generation := by
    rw [h.rest]
    rfl
  have hgraphs : acc.1.ri_v2_evidence_graphs = s.ri_v2_evidence_graphs := by rw [h.rest]
  unfold finish_snapshot
  cases hflag : acc.2 with
  | true =>
    have hchange := h.change.mp hflag
    have hlt : acc.1.cache_generation < U64_MAX := by
      rw [hgeneration]
      unfold I64_MAX at hbelow
      unfold U64_MAX
      omega
    have hsucc := u64_succ_of_lt hlt
    rcases acc.1.bump_generation_cases with ⟨_, heq⟩ | ⟨hmax, _⟩
    · rw [if_pos rfl]
      simp only [heq]
      refine ⟨h.exact.of_tables rfl rfl rfl, ⟨⟨fun _ => hchange, fun _ => ⟨?_, rfl⟩⟩,
        fun hnot => absurd hchange hnot⟩, hsucc⟩
      show s.cache_generation < acc.1.cache_generation + 1
      omega
    · omega
  | false =>
    have hnot : ¬ SemanticChange s records := by
      intro hchange
      rw [h.change.mpr hchange] at hflag
      cases hflag
    rw [if_neg Bool.false_ne_true]
    refine ⟨h.exact.of_tables rfl rfl rfl, ⟨⟨fun hraised => ?_, fun hchange => absurd hchange hnot⟩,
      fun _ => ⟨hgeneration, hgraphs⟩⟩, rfl⟩
    have hlt : s.cache_generation < acc.1.cache_generation := hraised.1
    omega

variable (P) in
/-- The call's effect, whatever it answers. -/
def AppliesExactly (records : List IdentityRecord) (success_epoch : Int) (s : EvidenceStore) :
    Prop :=
  match s.apply_registry_snapshot P records success_epoch with
  | (.ok generation, s') => Exact P s records s' ∧ Invalidates s records s' ∧
      generation = s'.cache_generation
  | (.error _, s') => s' = s

theorem applies_exactly (P : Platform) (records : List IdentityRecord) (success_epoch : Int)
    (s : EvidenceStore) (hbelow : (s.cache_generation : Int) < I64_MAX) :
    AppliesExactly P records success_epoch s := by
  unfold AppliesExactly
  cases hrun : s.apply_registry_snapshot P records success_epoch with
  | mk result s' =>
    cases result with
    | error e => exact transaction_error hrun
    | ok generation =>
      obtain ⟨_, record₀, _, _, _, hids, _, _, acc, acc', hremove, hwrite, hfinish⟩ :=
        apply_registry_snapshot_iff.mp hrun
      have happlied := applied_of_loops hids hremove hwrite
      obtain ⟨rfl, rfl⟩ := Prod.mk.inj hfinish
      exact happlied.finish hbelow record₀.2 success_epoch

/-- A snapshot is applied exactly or not at all; and it is applied when it is well
formed, its endpoints are free and the identities it drops read back. -/
theorem snapshot_exact (P : Platform) (records : List IdentityRecord) (success_epoch : Int)
    (s : EvidenceStore) (hbelow : (s.cache_generation : Int) < I64_MAX) :
    AppliesExactly P records success_epoch s ∧
      (WellFormed P s records success_epoch → EndpointsFree P s records →
        DroppedRead (server_ids records) s.identity_ids s →
        ∃ generation, (s.apply_registry_snapshot P records success_epoch).1 = .ok generation) := by
  refine ⟨applies_exactly P records success_epoch s hbelow, fun h hfree hreads => ?_⟩
  obtain ⟨first, acc, _, hrun⟩ := apply_of_free h hfree hreads
  exact ⟨_, congrArg Prod.fst hrun⟩

/-- The second snapshot drops `resolver-a` and moves the checkpoint of `resolver-b`. -/
theorem second_snapshot_exact :
    let s := (EvidenceStore.open_.apply_registry_snapshot sample_recording.platform
      [sample_a 100 10 "0xa100" "0xb10", sample_b 100 10 "0xa100" "0xb10"] 1750000000).2
    (s.cache_generation : Int) < I64_MAX ∧
      AppliesExactly sample_recording.platform [sample_b 101 20 "0xa101" "0xb10"] 1750000001 s :=
  ⟨by decide +kernel, (snapshot_exact _ _ _ _ (by decide +kernel)).1⟩

end EvidenceStore

end ResolverIdentity.Store
