/-
  ResolverIdentity.Sync.Resumption: which cycles the store of a run lets through.

  A synchronizer follows one target for as long as its database lives.  Its store keeps
  what earlier cycles wrote, and a later one is measured against that: the deployment in
  every stored reference, the generation of the first row, the checkpoint in the metadata
  and the owner of every endpoint.  The adapters here number their snapshots by block.

  Main results:
    * `write_records_iff`: the records that are written one after the other;
    * `kept_of_run`: what every run leaves in the store;
    * `resumed_iff`: the later cycles that are applied, exactly;
    * `served_iff`: what is given out after one, exactly.
-/
import ResolverIdentity.Core.RegistryReferences
import ResolverIdentity.Store.RecordOrder
import ResolverIdentity.Sync.Reconcile

namespace ResolverIdentity.Sync

open Library Store

/-! ## §1. Records written one after the other. -/

section Writes

variable {P : Platform}

/-- An endpoint that somebody holds is the record's own, or of one that is written before. -/
def Released (P : Platform) (records : List EvidenceStore.IdentityRecord)
    (holder : String → Option String) : Prop :=
  ∀ before record after, records = before ++ record :: after →
    ∀ key ∈ EvidenceStore.endpoint_keys P record.1.endpoints, ∀ owner, holder key = some owner →
      owner = record.1.server_id ∨ owner ∈ EvidenceStore.server_ids before

/-- The first record has its endpoints to itself, and the others find those of the first
one free. -/
theorem released_cons_iff {first : EvidenceStore.IdentityRecord}
    {rest : List EvidenceStore.IdentityRecord} {holder holder' : String → Option String}
    (hdisjoint : ∀ record ∈ rest, ∀ key ∈ EvidenceStore.endpoint_keys P record.1.endpoints,
      key ∉ EvidenceStore.endpoint_keys P first.1.endpoints)
    (hholder : ∀ key owner, holder' key = some owner ↔
      (first.1.server_id = owner ∧ key ∈ EvidenceStore.endpoint_keys P first.1.endpoints) ∨
        (owner ≠ first.1.server_id ∧ holder key = some owner)) :
    Released P (first :: rest) holder ↔
      (∀ key ∈ EvidenceStore.endpoint_keys P first.1.endpoints, ∀ owner,
        holder key = some owner → owner = first.1.server_id) ∧ Released P rest holder' := by
  constructor
  · intro h
    refine ⟨?_, ?_⟩
    · intro key hkey owner howner
      rcases h [] first rest rfl key hkey owner howner with hown | hbefore
      · exact hown
      · cases hbefore
    · intro before record after hsplit key hkey owner howner
      have hrecord : record ∈ rest := by
        rw [hsplit]
        exact List.mem_append_right _ List.mem_cons_self
      rcases (hholder key owner).mp howner with ⟨_, hfirst⟩ | ⟨hne, hold⟩
      · exact absurd hfirst (hdisjoint record hrecord key hkey)
      · rcases h (first :: before) record after (congrArg _ hsplit) key hkey owner hold with
          hown | hbefore
        · exact Or.inl hown
        · rcases List.mem_cons.mp hbefore with heq | hbefore
          · exact absurd heq hne
          · exact Or.inr hbefore
  · rintro ⟨hfirst, hrest⟩ before record after hsplit key hkey owner howner
    cases before with
    | nil =>
      obtain ⟨rfl, rfl⟩ := List.cons.inj hsplit
      exact Or.inl (hfirst key hkey owner howner)
    | cons one before =>
      obtain ⟨rfl, hlater⟩ := List.cons.inj hsplit
      -- the first one's endpoints have gone by then
      by_cases howned : owner = first.1.server_id
      · refine Or.inr (List.mem_cons.mpr (Or.inl howned))
      · rcases hrest before record after hlater key hkey owner
          ((hholder key owner).mpr (Or.inr ⟨howned, howner⟩)) with hown | hbefore
        · exact Or.inl hown
        · exact Or.inr (List.mem_cons_of_mem _ hbefore)

/-- Distinct records are written exactly if their numbers fit and each endpoint has been
released by the time it is bound. -/
theorem write_records_iff {records : List EvidenceStore.IdentityRecord} :
    ∀ {acc : EvidenceStore × Bool}, (EvidenceStore.server_ids records).Nodup →
      (EvidenceStore.record_keys P records).Nodup →
      ((∃ acc', EvidenceStore.write_records P records acc = .ok acc') ↔
        (∀ record ∈ records, EvidenceStore.FitsColumns record ∧
          EvidenceStore.HasKeys P record.1.endpoints) ∧
        Released P records (fun key => acc.1.ri_v2_endpoint_lookup.get? key)) := by
  induction records with
  | nil =>
    intro acc _ _
    refine iff_of_true ⟨acc, rfl⟩ ⟨List.forall_mem_nil _, ?_⟩
    intro before record after hsplit
    simp at hsplit
  | cons first rest ih =>
    intro acc hids hkeys
    obtain ⟨_, hids⟩ := List.nodup_cons.mp hids
    have hsplit : EvidenceStore.record_keys P (first :: rest) =
        EvidenceStore.endpoint_keys P first.1.endpoints ++ EvidenceStore.record_keys P rest := rfl
    rw [hsplit, List.nodup_append] at hkeys
    obtain ⟨hnodup, hkeys, hdisjoint⟩ := hkeys
    have hapart : ∀ record ∈ rest, ∀ key ∈ EvidenceStore.endpoint_keys P record.1.endpoints,
        key ∉ EvidenceStore.endpoint_keys P first.1.endpoints := by
      intro record hrecord key hkey hfirst
      exact hdisjoint key hfirst key (EvidenceStore.mem_record_keys.mpr ⟨record, hrecord, hkey⟩) rfl
    -- what the first record leaves of the owners
    have hholder : ∀ acc₁, EvidenceStore.write_record P first acc = .ok acc₁ → ∀ key owner,
        acc₁.1.ri_v2_endpoint_lookup.get? key = some owner ↔
          (first.1.server_id = owner ∧ key ∈ EvidenceStore.endpoint_keys P first.1.endpoints) ∨
            (owner ≠ first.1.server_id ∧ acc.1.ri_v2_endpoint_lookup.get? key = some owner) := by
      intro acc₁ hfirst key owner
      rw [(EvidenceStore.write_record_spec hfirst).lookup]
      simp only [List.mem_singleton, exists_eq_left, EvidenceStore.server_ids, List.map_cons,
        List.map_nil]
    rw [List.forall_mem_cons]
    constructor
    · rintro ⟨acc', h⟩
      obtain ⟨acc₁, hfirst, hlater⟩ := bind_eq_ok.mp h
      obtain ⟨hfits, hhas, _, hfree⟩ := EvidenceStore.write_record_iff.mp ⟨acc₁, hfirst⟩
      obtain ⟨hrest, hreleased⟩ := (ih hids hkeys).mp ⟨acc', hlater⟩
      exact ⟨⟨⟨hfits, hhas⟩, hrest⟩,
        (released_cons_iff hapart (hholder acc₁ hfirst)).mpr ⟨hfree, hreleased⟩⟩
    · rintro ⟨⟨⟨hfits, hhas⟩, hrest⟩, hreleased⟩
      have hfree : EvidenceStore.KeysFree P first acc.1 := by
        intro key hkey owner howner
        rcases hreleased [] first rest rfl key hkey owner howner with hown | hbefore
        · exact hown
        · cases hbefore
      obtain ⟨acc₁, hfirst⟩ := EvidenceStore.write_record_iff.mpr ⟨hfits, hhas, hnodup, hfree⟩
      obtain ⟨acc', hlater⟩ := (ih hids hkeys).mpr
        ⟨hrest, ((released_cons_iff hapart (hholder acc₁ hfirst)).mp hreleased).2⟩
      exact ⟨acc', bind_eq_ok.mpr ⟨acc₁, hfirst, hlater⟩⟩

end Writes

/-! ## §2. A cycle taken apart. -/

section Parts

variable {P : Platform} {cycle : Cycle} {s s' : EvidenceStore} {snapshot : ChainSnapshot}
variable {records : List EvidenceStore.IdentityRecord}

theorem artifacts_iff {issuer_keys : IssuerKeyRegistry} {now : Int}
    {identities : List DnsServerIdentityV2} :
    validate_artifacts P issuer_keys now identities = .ok () ↔
      ∀ identity ∈ identities, Genuine P issuer_keys now identity := by
  refine ⟨genuine_of_artifacts, ?_⟩
  induction identities with
  | nil => intro _; rfl
  | cons first rest ih =>
    intro h
    obtain ⟨⟨key, hkey, hsigned⟩, hactive⟩ := h first List.mem_cons_self
    have hfirst : validate_identity_artifact P issuer_keys now first = .ok () := by
      unfold validate_identity_artifact
      simp only [hkey, okOr, ok_bind, hsigned, hactive, Bool.not_true]
      rfl
    unfold validate_artifacts
    rw [hfirst]
    exact ih (fun identity hidentity => h identity (List.mem_cons_of_mem _ hidentity))

theorem exists_of_forall₂ {α β : Type} {R : α → β → Prop} {l : List α} {l' : List β}
    (h : List.Forall₂ R l l') : ∀ a ∈ l, ∃ b ∈ l', R a b := by
  induction h with
  | nil => intro a hmem; cases hmem
  | cons hfirst _ ih =>
    intro a hmem
    rcases List.mem_cons.mp hmem with heq | hlater
    · rw [heq]
      exact ⟨_, List.mem_cons_self, hfirst⟩
    · obtain ⟨b, hb, hrel⟩ := ih a hlater
      exact ⟨b, List.mem_cons_of_mem _ hb, hrel⟩

/-- The records of a set, once every one has been checked, are these. -/
theorem snapshot_records_iff {P : Platform} {target : ChainTarget} {snapshot : ChainSnapshot}
    {identities : List DnsServerIdentityV2} {records : List EvidenceStore.IdentityRecord} :
    snapshot_records P target snapshot identities = .ok records ↔
      List.Forall₂ (fun identity entry => ∃ record,
        snapshot.records.lookup identity.server_id = some record ∧
        record.state_root = snapshot.state_root ∧ validate_registry_record P identity record = .ok () ∧
        entry = (identity, registry_reference target snapshot.checkpoint snapshot.generation record))
        identities records := by
  induction identities generalizing records with
  | nil =>
    rw [List.forall₂_nil_left_iff]
    constructor
    · intro h
      exact (Except.ok.inj h).symm
    · rintro rfl
      rfl
  | cons identity rest ih =>
    unfold snapshot_records snapshot_record
    simp only [bind_eq_ok, exists_unit, okOr_eq_ok, rejectIf_eq_ok, bne_eq_false_iff_eq,
      mapError_eq_ok, Except.ok.injEq, ih, List.forall₂_cons_left_iff]
    constructor
    · rintro ⟨_, ⟨record, hlookup, hroot, hvalid, rfl⟩, later, hlater, rfl⟩
      exact ⟨_, later, ⟨record, hlookup, hroot, hvalid, rfl⟩, hlater, rfl⟩
    · rintro ⟨_, later, ⟨record, hlookup, hroot, hvalid, rfl⟩, hlater, rfl⟩
      exact ⟨_, ⟨record, hlookup, hroot, hvalid, rfl⟩, later, hlater, rfl⟩

/-- The entry of an identity and its record, with the reference made from it. -/
def Made (P : Platform) (target : ChainTarget) (snapshot : ChainSnapshot)
    (identity : DnsServerIdentityV2) (entry : EvidenceStore.IdentityRecord) : Prop :=
  ∃ record, snapshot.records.lookup identity.server_id = some record ∧
    record.state_root = snapshot.state_root ∧ validate_registry_record P identity record = .ok () ∧
    entry = (identity, registry_reference target snapshot.checkpoint snapshot.generation record)

theorem made_of_mem (h : snapshot_records P target snapshot identities = .ok records) :
    ∀ entry ∈ records, ∃ identity ∈ identities, Made P target snapshot identity entry := by
  have hforall := (List.forall₂_iff_get.mp (snapshot_records_iff.mp h))
  intro entry hentry
  obtain ⟨index, hindex⟩ := List.get_of_mem hentry
  have hlt : index.val < identities.length := by
    rw [hforall.1]
    exact index.isLt
  refine ⟨identities.get ⟨index.val, hlt⟩, List.get_mem _ _, ?_⟩
  rw [← hindex]
  exact hforall.2 index.val hlt index.isLt

/-- The checks in front of the store's own. -/
theorem prepare_records_iff :
    prepare_records P cycle s = .ok records ↔
      (∀ identity ∈ cycle.identities, Genuine P cycle.issuer_keys cycle.now identity) ∧
      ∃ snapshot checkpoint, cycle.answers.read_snapshot = .ok snapshot ∧
        EvidenceStore.registry_checkpoint_from s.ri_v2_meta = .ok checkpoint ∧
        check_checkpoint checkpoint snapshot cycle.answers.canonical_hash = .ok () ∧
        snapshot_records P cycle.target snapshot cycle.identities = .ok records ∧
        cycle.answers.confirmed_hash = .ok snapshot.checkpoint.hash := by
  unfold prepare_records
  simp only [bind_eq_ok, exists_unit, mapError_eq_ok, rejectIf_eq_ok, bne_eq_false_iff_eq,
    Except.ok.injEq, artifacts_iff]
  constructor
  · rintro ⟨hgenuine, snapshot, hread, checkpoint, hstored, hcheck, found, hrecords, _, hconfirmed,
      rfl, rfl⟩
    exact ⟨hgenuine, snapshot, checkpoint, hread, hstored, hcheck, hrecords, hconfirmed⟩
  · rintro ⟨hgenuine, snapshot, checkpoint, hread, hstored, hcheck, hrecords, hconfirmed⟩
    exact ⟨hgenuine, snapshot, hread, checkpoint, hstored, hcheck, records, hrecords, _, hconfirmed,
      rfl, rfl⟩

theorem reconcile_iff {count : Nat} :
    reconcile P cycle s = (.ok count, s') ↔ ∃ records generation,
      prepare_records P cycle s = .ok records ∧
      s.apply_registry_snapshot P records cycle.now = (.ok generation, s') ∧
      count = records.length := by
  unfold reconcile
  cases hprepare : prepare_records P cycle s with
  | error error =>
    constructor
    · intro h
      cases h
    · rintro ⟨_, _, h, _⟩
      cases h
  | ok records =>
    cases happly : s.apply_registry_snapshot P records cycle.now with
    | mk outcome left =>
      cases outcome with
      | error error =>
        constructor
        · intro h
          simp only [happly] at h
          cases h
        · rintro ⟨found, _, hfound, h, _⟩
          rw [← Except.ok.inj hfound, happly] at h
          cases h
      | ok generation =>
        simp only [happly]
        constructor
        · intro h
          obtain ⟨hcount, rfl⟩ := Prod.mk.inj h
          exact ⟨records, generation, rfl, happly, (Except.ok.inj hcount).symm⟩
        · rintro ⟨found, _, hfound, h, rfl⟩
          obtain rfl := Except.ok.inj hfound
          rw [happly] at h
          rw [(Prod.mk.inj h).2]

end Parts

/-! ## §3. What a run leaves. -/

/-- The height of the set applied last. -/
def last_height (st : SyncState) : Option Nat :=
  st.last.map (fun applied => applied.snapshot.checkpoint.number)

/-- The target's own fields agree with its metadata under the finality type. -/
def Coherent (target : ChainTarget) (finality_type : RegistryFinalityTypeV2) : Prop :=
  RegistryReferenceWire.target_matches_metadata target.adapter target.chain_identity
    target.registry_locator target.registry_schema_hash finality_type target.adapter_metadata = true

/-- The cycle follows the target, and reads snapshots of the family. -/
structure Follows (target : ChainTarget) (family : ChainSnapshot → Prop) (cycle : Cycle) :
    Prop where
  follows : cycle.target = target
  member : ∀ snapshot, cycle.answers.read_snapshot = .ok snapshot → family snapshot
  coherent : ∀ snapshot, cycle.answers.read_snapshot = .ok snapshot →
    Coherent target snapshot.checkpoint.finality_type

/-- A snapshot of the family that may have been applied by now. -/
def Behind (family : ChainSnapshot → Prop) (st : SyncState) (snapshot : ChainSnapshot) : Prop :=
  family snapshot ∧ ∃ height, last_height st = some height ∧ snapshot.checkpoint.number ≤ height

/-- The snapshot is of a later block than everything applied, and has no generation that was
used for another root. -/
structure Ahead (family : ChainSnapshot → Prop) (st : SyncState) (snapshot : ChainSnapshot) :
    Prop where
  height : ∀ height, last_height st = some height → height < snapshot.checkpoint.number
  generation : ∀ earlier, Behind family st earlier → earlier.generation ≤ snapshot.generation ∧
    (earlier.generation = snapshot.generation → earlier.state_root = snapshot.state_root)

/-- The reference is of the target and the snapshot, and is read as it was written. -/
structure Deployed (target : ChainTarget) (snapshot : ChainSnapshot)
    (reference : RegistryReferenceV2) : Prop where
  agrees : reference.Agrees
  chain_adapter : reference.chain_adapter = target.adapter
  chain_identity : reference.chain_identity = target.chain_identity
  registry_locator : reference.registry_locator = target.registry_locator
  registry_schema_hash : reference.registry_schema_hash = target.registry_schema_hash
  adapter_metadata : reference.adapter_metadata = target.adapter_metadata
  generation : reference.snapshot_generation = snapshot.generation
  state_root : reference.state_root = snapshot.state_root

/-- What the metadata says about the target is true of this one. -/
structure Pinned (target : ChainTarget) (m : Meta) : Prop where
  chain_adapter : ∀ value, m.registry_chain_adapter = some value → value = target.adapter
  chain_identity : ∀ value, m.registry_chain_identity = some value → value = target.chain_identity
  registry_locator : ∀ value, m.registry_locator = some value → value = target.registry_locator
  registry_schema_hash : ∀ value, m.registry_schema_hash = some value →
    value = target.registry_schema_hash

/-- What the store keeps, cycle after cycle. -/
structure Kept (P : Platform) (target : ChainTarget) (family : ChainSnapshot → Prop)
    (st : SyncState) : Prop where
  holds : st.Holds P
  rows : ∀ id row, st.store.ri_v2_identities.get? id = some row →
    ∃ snapshot, Behind family st snapshot ∧ Deployed target snapshot row.registry_json
  owners : ∀ key owner, st.store.ri_v2_endpoint_lookup.get? key = some owner →
    owner ∈ st.store.identity_ids
  pinned : Pinned target st.store.ri_v2_meta

theorem Deployed.reread {target : ChainTarget} {snapshot : ChainSnapshot}
    {reference : RegistryReferenceV2} (h : Deployed target snapshot reference) :
    reference.reread = .ok reference :=
  RegistryReferenceV2.deserialize_to_wire h.agrees

/-- A dropped row keeps its deployment. -/
theorem Deployed.removed {target : ChainTarget} {snapshot : ChainSnapshot} {row : IdentityRow}
    (h : Deployed target snapshot row.registry_json) :
    Deployed target snapshot (EvidenceStore.removed_row row).registry_json := by
  unfold EvidenceStore.removed_row
  split
  case isTrue => exact h
  case isFalse =>
    rw [RegistryReferenceV2.read_back_of_reread h.reread]
    exact ⟨h.agrees, h.chain_adapter, h.chain_identity, h.registry_locator, h.registry_schema_hash,
      h.adapter_metadata, h.generation, h.state_root⟩

theorem deployed_made {P : Platform} {target : ChainTarget} {snapshot : ChainSnapshot}
    (h : Coherent target snapshot.checkpoint.finality_type) {identity : DnsServerIdentityV2}
    {entry : EvidenceStore.IdentityRecord} (hmade : Made P target snapshot identity entry) :
    Deployed target snapshot entry.2 := by
  obtain ⟨record, _, hroot, _, rfl⟩ := hmade
  exact ⟨h, rfl, rfl, rfl, rfl, rfl, rfl, hroot⟩

section Kept

variable {P : Platform} {target : ChainTarget} {family : ChainSnapshot → Prop} {cycle : Cycle}
variable {st : SyncState}

/-- The store's checkpoint is that of the set applied last. -/
theorem checkpoint_of_holds (h : st.Holds P) :
    EvidenceStore.registry_checkpoint_from st.store.ri_v2_meta =
      .ok (st.last.map (fun applied =>
        ⟨applied.snapshot.checkpoint.number, applied.snapshot.checkpoint.hash⟩)) := by
  unfold SyncState.Holds at h
  cases hlast : st.last with
  | none =>
    rw [hlast] at h
    rw [show st.store = .open_ from h]
    rfl
  | some applied =>
    rw [hlast] at h
    exact h.checkpoint

/-- A cycle that is applied has read a checkpoint that is not behind the stored one. -/
theorem height_of_prepare {records : List EvidenceStore.IdentityRecord} {snapshot : ChainSnapshot}
    (h : st.Holds P) (hprepare : prepare_records P cycle st.store = .ok records)
    (hread : cycle.answers.read_snapshot = .ok snapshot) {height : Nat}
    (hheight : last_height st = some height) : height ≤ snapshot.checkpoint.number := by
  obtain ⟨applied, hlast, rfl⟩ := Option.map_eq_some_iff.mp hheight
  obtain ⟨_, found, checkpoint, hfound, hstored, hcheck, _⟩ := prepare_records_iff.mp hprepare
  obtain rfl := Except.ok.inj (hfound.symm.trans hread)
  rw [checkpoint_of_holds h, hlast] at hstored
  rw [← Except.ok.inj hstored] at hcheck
  unfold check_checkpoint at hcheck
  simp only [Option.map_some, bind_eq_ok, exists_unit, rejectIf_eq_ok, decide_eq_false_iff_not,
    not_lt] at hcheck
  exact hcheck.1

/-- What a cycle does to the state: it applies what it has read, or leaves it. -/
theorem take_iff (cycle : Cycle) (st : SyncState) :
    (∃ records snapshot generation s', prepare_records P cycle st.store = .ok records ∧
        cycle.answers.read_snapshot = .ok snapshot ∧
        st.store.apply_registry_snapshot P records cycle.now = (.ok generation, s') ∧
        st.take P cycle = ⟨s', some ⟨cycle.target, cycle.issuer_keys, cycle.identities, cycle.now,
          snapshot⟩⟩) ∨ st.take P cycle = st := by
  unfold SyncState.take
  cases hresult : reconcile P cycle st.store with
  | mk outcome left =>
    cases outcome with
    | error error =>
      have hcases := reconcile_cases (P := P) cycle st.store
      rw [hresult] at hcases
      cases hcases with
      | refused => exact Or.inr rfl
    | ok count =>
      obtain ⟨records, generation, hprepare, happly, _⟩ := reconcile_iff.mp hresult
      obtain ⟨_, snapshot, _, hread, _⟩ := prepare_records_iff.mp hprepare
      refine Or.inl ⟨records, snapshot, generation, left, hprepare, hread, happly, ?_⟩
      unfold Cycle.applied
      rw [hread]

/-- A cycle that is applied leaves what it has read. -/
theorem last_take {count : Nat} {s' : EvidenceStore}
    (h : reconcile P cycle st.store = (.ok count, s')) : (st.take P cycle).last = cycle.applied := by
  unfold SyncState.take
  rw [h]

/-- The height does not go back. -/
theorem height_kept (h : st.Holds P) (cycle : Cycle) {height : Nat}
    (hheight : last_height st = some height) :
    ∃ height', last_height (st.take P cycle) = some height' ∧ height ≤ height' := by
  rcases take_iff (P := P) cycle st with ⟨_, snapshot, _, _, hprepare, hread, _, htake⟩ | hkept
  · rw [htake]
    exact ⟨_, rfl, height_of_prepare h hprepare hread hheight⟩
  · rw [hkept]
    exact ⟨height, hheight, Nat.le_refl _⟩

theorem kept_take (h : Kept P target family st) (hcycle : Follows target family cycle) :
    Kept P target family (st.take P cycle) := by
  rcases take_iff (P := P) cycle st with
    ⟨records, snapshot, generation, s', hprepare, hread, happly, htake⟩ | hkept
  · have hholds := holds_take (P := P) h.holds cycle
    rw [htake] at hholds ⊢
    obtain ⟨_, found, _, hfound, _, _, hrecords, _⟩ := prepare_records_iff.mp hprepare
    obtain rfl := Except.ok.inj (hfound.symm.trans hread)
    obtain ⟨_, hrecorded⟩ := of_snapshot_records hrecords
    obtain ⟨_, record₀, rest, hlist, _, hids, _, _, acc, acc', hremove, hwrite, hfinish⟩ :=
      EvidenceStore.apply_registry_snapshot_iff.mp happly
    have happlied := EvidenceStore.applied_of_loops hids hremove hwrite
    have hs' : s' = (EvidenceStore.finish_snapshot record₀.2 cycle.now acc').2 :=
      congrArg Prod.snd hfinish
    obtain ⟨hidentities, hlookup⟩ :=
      EvidenceStore.finish_snapshot_tables record₀.2 cycle.now acc'
    -- every record of the set is deployed from the snapshot that was read
    have hdeployed : ∀ record ∈ records, Deployed target found record.2 := by
      intro record hrecord
      rw [hcycle.follows] at hrecords
      obtain ⟨_, _, hmade⟩ := made_of_mem hrecords record hrecord
      exact deployed_made (hcycle.coherent found hread) hmade
    refine ⟨hholds, ?_, ?_, ?_⟩
    · intro id row hrow
      rw [show s'.ri_v2_identities = acc'.1.ri_v2_identities by rw [hs']; exact hidentities] at hrow
      by_cases hlisted : id ∈ EvidenceStore.server_ids records
      · obtain ⟨record, hrecord, rfl⟩ := EvidenceStore.mem_server_ids.mp hlisted
        rw [happlied.listed record hrecord] at hrow
        rw [← Option.some.inj hrow]
        exact ⟨found, ⟨hcycle.member found hread, _, rfl, Nat.le_refl _⟩, hdeployed record hrecord⟩
      · rw [happlied.unlisted id hlisted, Option.map_eq_some_iff] at hrow
        obtain ⟨old, hold, rfl⟩ := hrow
        obtain ⟨earlier, ⟨hmember, height, hheight, hle⟩, hold⟩ := h.rows id old hold
        exact ⟨earlier, ⟨hmember, _, rfl,
          Nat.le_trans hle (height_of_prepare h.holds hprepare hread hheight)⟩, hold.removed⟩
    · intro key owner howner
      rw [show s'.ri_v2_endpoint_lookup = acc'.1.ri_v2_endpoint_lookup by rw [hs']; exact hlookup]
        at howner
      rcases (happlied.lookup key owner).mp howner with ⟨record, hrecord, rfl, _⟩ | ⟨_, hnot, hold⟩
      · refine EvidenceStore.mem_identity_ids.mpr ⟨EvidenceStore.written_row record, ?_⟩
        rw [show s'.ri_v2_identities = acc'.1.ri_v2_identities by rw [hs']; exact hidentities]
        exact happlied.listed record hrecord
      · exact absurd (h.owners key owner hold) hnot
    · have hfirst := hdeployed record₀ (by rw [hlist]; exact List.mem_cons_self)
      rw [hs']
      refine ⟨?_, ?_, ?_, ?_⟩
      · intro value hvalue
        exact (Option.some.inj hvalue).symm.trans hfirst.chain_adapter
      · intro value hvalue
        exact (Option.some.inj hvalue).symm.trans hfirst.chain_identity
      · intro value hvalue
        exact (Option.some.inj hvalue).symm.trans hfirst.registry_locator
      · intro value hvalue
        exact (Option.some.inj hvalue).symm.trans hfirst.registry_schema_hash
  · rw [hkept]
    exact h

theorem kept_init : Kept P target family (sync P).init := by
  refine ⟨rfl, ?_, ?_, ?_⟩
  · intro id row hrow
    cases hrow
  · intro key owner howner
    cases howner
  · constructor <;>
      (intro value hvalue
       cases hvalue)

/-- Every run over the target leaves its store so. -/
theorem kept_of_run {cycles : List Cycle}
    (hcycles : ∀ cycle ∈ cycles, Follows target family cycle) :
    ∀ {st : SyncState}, Kept P target family st →
      ∀ {st'}, cycles.foldlM (sync P).step st = some st' → Kept P target family st' := by
  induction cycles with
  | nil =>
    intro st h st' hrun
    rw [← Option.some.inj hrun]
    exact h
  | cons cycle rest ih =>
    intro st h st' hrun
    exact ih (fun later hlater => hcycles later (List.mem_cons_of_mem _ hlater))
      (kept_take h (hcycles cycle List.mem_cons_self)) hrun

end Kept

/-! ## §4. The next cycle. -/

/-- An endpoint with a registry key has a cache key. -/
theorem cache_key_of_registry_key {P : Platform} {endpoint : DnsEndpoint} {key : String}
    (h : P.registry_key endpoint = .ok key) : ∃ key, P.cache_key endpoint = .ok key := by
  obtain ⟨normalized, hnormalized, _⟩ := bind_eq_ok.mp h
  exact ⟨_, bind_eq_ok.mpr ⟨normalized, hnormalized, rfl⟩⟩

section Next

variable {P : Platform} {target : ChainTarget} {family : ChainSnapshot → Prop} {cycle : Cycle}
variable {st : SyncState} {snapshot : ChainSnapshot} {records : List EvidenceStore.IdentityRecord}

/-- Who holds a key: an identity of the set applied last that has an endpoint with it. -/
theorem holder_iff (h : Kept P target family st) (key owner : String) :
    st.store.ri_v2_endpoint_lookup.get? key = some owner ↔
      ∃ applied, st.last = some applied ∧ ∃ holder ∈ applied.identities,
        holder.server_id = owner ∧ key ∈ EvidenceStore.endpoint_keys P holder.endpoints := by
  have hholds := h.holds
  unfold SyncState.Holds at hholds
  cases hlast : st.last with
  | none =>
    rw [hlast] at hholds
    rw [show st.store = .open_ from hholds]
    constructor
    · intro howner
      cases howner
    · rintro ⟨_, hsome, _⟩
      cases hsome
  | some applied =>
    rw [hlast] at hholds
    obtain ⟨_, records, hmap, _, hexact⟩ := hholds.exact
    have hlisted : owner ∈ EvidenceStore.server_ids records →
        (st.store.ri_v2_endpoint_lookup.get? key = some owner ↔ ∃ record ∈ records,
          record.1.server_id = owner ∧ key ∈ EvidenceStore.endpoint_keys P record.1.endpoints) := by
      intro hmem
      simp only [EvidenceStore.mem_endpoint_keys]
      exact hexact.lookup key owner hmem
    simp only [Option.some.injEq, exists_eq_left']
    rw [← hmap]
    constructor
    · intro howner
      -- a dropped row has no endpoint
      have hmem : owner ∈ EvidenceStore.server_ids records := by
        by_contra hout
        obtain ⟨row, hrow⟩ := EvidenceStore.mem_identity_ids.mp (h.owners key owner howner)
        exact (hexact.unlisted owner row hout hrow).2.1 key howner
      obtain ⟨record, hrecord, hid, hkey⟩ := (hlisted hmem).mp howner
      exact ⟨record.1, List.mem_map_of_mem hrecord, hid, hkey⟩
    · rintro ⟨holder, hholder, hid, hkey⟩
      obtain ⟨record, hrecord, rfl⟩ := List.mem_map.mp hholder
      exact (hlisted (EvidenceStore.mem_server_ids.mpr ⟨record, hrecord, hid⟩)).mpr
        ⟨record, hrecord, hid, hkey⟩

/-- An endpoint that was another identity's comes after that one in the file, or that one
has gone. -/
def HandedOver (P : Platform) (last : Option Applied) (identities : List DnsServerIdentityV2) :
    Prop :=
  ∀ before identity after, identities = before ++ identity :: after →
    ∀ key ∈ EvidenceStore.endpoint_keys P identity.endpoints, ∀ applied, last = some applied →
      ∀ holder ∈ applied.identities, key ∈ EvidenceStore.endpoint_keys P holder.endpoints →
        holder.server_id ∈ identities.map (fun other => other.server_id) →
          holder.server_id = identity.server_id ∨
            holder.server_id ∈ before.map (fun other => other.server_id)

theorem server_ids_of_map {identities : List DnsServerIdentityV2}
    (hmap : records.map Prod.fst = identities) :
    EvidenceStore.server_ids records = identities.map (fun other => other.server_id) := by
  rw [← hmap, List.map_map]
  rfl

theorem record_keys_of_map {identities : List DnsServerIdentityV2}
    (hmap : records.map Prod.fst = identities) :
    EvidenceStore.record_keys P records =
      identities.flatMap (fun identity => EvidenceStore.endpoint_keys P identity.endpoints) := by
  rw [← hmap, List.flatMap_map]
  rfl

/-- What the removals leave of the owners is released in turn exactly if the endpoints are
handed over. -/
theorem released_iff (h : Kept P target family st) {identities : List DnsServerIdentityV2}
    (hmap : records.map Prod.fst = identities) {acc : EvidenceStore × Bool}
    (hlookup : ∀ key owner, acc.1.ri_v2_endpoint_lookup.get? key = some owner ↔
      st.store.ri_v2_endpoint_lookup.get? key = some owner ∧
        ¬ (owner ∈ st.store.identity_ids ∧ owner ∉ EvidenceStore.server_ids records)) :
    Released P records (fun key => acc.1.ri_v2_endpoint_lookup.get? key) ↔
      HandedOver P st.last identities := by
  constructor
  · intro hreleased before identity after hsplit key hkey applied hlast holder hholder hheld hlisted
    -- the records are split where the identities are
    rw [← hmap] at hsplit
    obtain ⟨before', later, rfl, rfl, hlater⟩ := List.map_eq_append_iff.mp hsplit
    obtain ⟨record, after', rfl, rfl, rfl⟩ := List.map_eq_cons_iff.mp hlater
    have howner : st.store.ri_v2_endpoint_lookup.get? key = some holder.server_id :=
      (holder_iff h key _).mpr ⟨applied, hlast, holder, hholder, rfl, hheld⟩
    have hleft : acc.1.ri_v2_endpoint_lookup.get? key = some holder.server_id := by
      refine (hlookup key _).mpr ⟨howner, fun hgone => hgone.2 ?_⟩
      rw [server_ids_of_map hmap]
      exact hlisted
    rw [← server_ids_of_map rfl]
    exact hreleased before' record after' rfl key hkey _ hleft
  · intro hhanded before record after hsplit key hkey owner howner
    obtain ⟨hold, hkept⟩ := (hlookup key owner).mp howner
    obtain ⟨applied, hlast, holder, hholder, rfl, hheld⟩ := (holder_iff h key owner).mp hold
    have hlisted : holder.server_id ∈ EvidenceStore.server_ids records := by
      by_contra hout
      exact hkept ⟨h.owners key _ hold, hout⟩
    rw [server_ids_of_map hmap] at hlisted
    have hsplit' : identities = before.map Prod.fst ++ record.1 :: after.map Prod.fst := by
      rw [← hmap, hsplit, List.map_append, List.map_cons]
    have hbefore := hhanded _ _ _ hsplit' key hkey applied hlast holder hholder hheld hlisted
    rw [← server_ids_of_map rfl] at hbefore
    exact hbefore

/-- What the store and the clock need of the next cycle, beside the records. -/
structure Storable (P : Platform) (last : Option Applied) (cycle : Cycle)
    (checkpoint : FinalizedCheckpoint) : Prop where
  now : 0 < cycle.now
  genuine : ∀ identity ∈ cycle.identities, Genuine P cycle.issuer_keys cycle.now identity
  canonical : ∀ applied, last = some applied →
    cycle.answers.canonical_hash = .ok applied.snapshot.checkpoint.hash
  confirmed : cycle.answers.confirmed_hash = .ok checkpoint.hash
  keys : (cycle.identities.flatMap (fun identity =>
    EvidenceStore.endpoint_keys P identity.endpoints)).Nodup
  handed_over : HandedOver P last cycle.identities
  object_versions : ∀ identity ∈ cycle.identities, (identity.object_version : Int) ≤ I64_MAX
  height : (checkpoint.number : Int) ≤ I64_MAX
  chain_id : ∀ chain_id contract_address runtime_code_hash,
    cycle.target.adapter_metadata = .evm chain_id contract_address runtime_code_hash →
      (chain_id : Int) ≤ I64_MAX

/-- A set of one identity can be taken by a store that has nothing else. -/
theorem Storable.single {P : Platform} {last : Option Applied} {cycle : Cycle}
    {checkpoint : FinalizedCheckpoint} {identity : DnsServerIdentityV2} {endpoint : DnsEndpoint}
    {key : String} (hsingle : cycle.identities = [identity])
    (hlast : ∀ applied, last = some applied → applied.identities = [identity] ∧
      cycle.answers.canonical_hash = .ok applied.snapshot.checkpoint.hash)
    (hnow : 0 < cycle.now) (hgenuine : Genuine P cycle.issuer_keys cycle.now identity)
    (hconfirmed : cycle.answers.confirmed_hash = .ok checkpoint.hash)
    (hendpoint : identity.endpoints = [endpoint]) (hkey : P.cache_key endpoint = .ok key)
    (hversion : (identity.object_version : Int) ≤ I64_MAX)
    (hheight : (checkpoint.number : Int) ≤ I64_MAX)
    (hchain : ∀ chain_id contract_address runtime_code_hash,
      cycle.target.adapter_metadata = .evm chain_id contract_address runtime_code_hash →
        (chain_id : Int) ≤ I64_MAX) : Storable P last cycle checkpoint := by
  have honly : ∀ other ∈ cycle.identities, other = identity := by
    intro other hother
    rw [hsingle] at hother
    exact List.mem_singleton.mp hother
  refine ⟨hnow, ?_, fun applied happlied => (hlast applied happlied).2, hconfirmed, ?_, ?_, ?_,
    hheight, hchain⟩
  · intro other hother
    rw [honly other hother]
    exact hgenuine
  · rw [hsingle, List.flatMap_singleton, hendpoint, EvidenceStore.endpoint_keys_cons hkey]
    exact List.nodup_singleton _
  · intro before other after hsplit _ _ applied happlied holder hholder _ _
    have hother : other ∈ cycle.identities := by
      rw [hsplit]
      exact List.mem_append_right _ List.mem_cons_self
    rw [(hlast applied happlied).1] at hholder
    rw [List.mem_singleton.mp hholder, honly other hother]
    exact Or.inl rfl
  · intro other hother
    rw [honly other hother]
    exact hversion

/-- What the next cycle needs to be applied. -/
structure Admissible (P : Platform) (last : Option Applied) (cycle : Cycle)
    (snapshot : ChainSnapshot) : Prop where
  storable : Storable P last cycle snapshot.checkpoint
  nonempty : cycle.identities ≠ []
  server_ids : (cycle.identities.map (fun identity => identity.server_id)).Nodup
  generation : (snapshot.generation : Int) ≤ I64_MAX
  has_keys : ∀ identity ∈ cycle.identities, EvidenceStore.HasKeys P identity.endpoints
  recorded : ∀ identity ∈ cycle.identities, ∃ record,
    snapshot.records.lookup identity.server_id = some record ∧
    record.state_root = snapshot.state_root ∧ validate_registry_record P identity record = .ok ()

theorem columns_iff {reference : RegistryReferenceV2} :
    (∃ columns, legacy_evm_columns reference = .ok columns) ↔
      ∀ chain_id contract_address runtime_code_hash,
        reference.adapter_metadata = .evm chain_id contract_address runtime_code_hash →
          (chain_id : Int) ≤ I64_MAX := by
  unfold legacy_evm_columns
  cases hmetadata : reference.adapter_metadata with
  | evm chain_id contract_address runtime_code_hash =>
    simp only [bind_eq_ok, sql_i64_eq_ok]
    constructor
    · rintro ⟨_, _, ⟨_, hle⟩, _⟩ _ _ _ heq
      obtain ⟨rfl, _⟩ := RegistryAdapterMetadataV2.evm.inj heq
      exact hle
    · intro h
      exact ⟨_, _, ⟨rfl, h _ _ _ rfl⟩, rfl⟩
  | norn =>
    refine iff_of_true ⟨_, rfl⟩ ?_
    intro _ _ _ heq
    cases heq
  | external =>
    refine iff_of_true ⟨_, rfl⟩ ?_
    intro _ _ _ heq
    cases heq

/-- The store lets a later reference of its target through. -/
theorem check_snapshot_of_kept (h : Kept P target family st) {first : RegistryReferenceV2}
    (hfirst : Deployed target snapshot first)
    (hcheckpoint : first.checkpoint_height = snapshot.checkpoint.number)
    (hahead : Ahead family st snapshot) :
    st.store.check_snapshot first = .ok () := by
  -- the first record stored is of an earlier reading of the same deployment
  have hexisting : ∃ existing, st.store.existing_reference = .ok existing ∧
      EvidenceStore.check_existing existing first = .ok () := by
    unfold EvidenceStore.existing_reference
    cases hhead : st.store.rows_by_server_id.head? with
    | none => exact ⟨none, rfl, rfl⟩
    | some row =>
      have hmem : row ∈ st.store.ri_v2_identities.rows :=
        (List.perm_insertionSort _ _).mem_iff.mp (List.mem_of_mem_head? hhead)
      obtain ⟨earlier, hbehind, hrow⟩ := h.rows row.key row.val (RowTable.get?_of_mem hmem)
      obtain ⟨hle, hroot⟩ := hahead.generation earlier hbehind
      refine ⟨some row.val.registry_json, ?_, ?_⟩
      · show decode_reference row.val.registry_json >>= _ = _
        rw [EvidenceStore.decode_reference_eq_ok.mpr hrow.reread]
        rfl
      · have hsame : EvidenceStore.target_changed row.val.registry_json first = false := by
          unfold EvidenceStore.target_changed
          rw [hfirst.chain_adapter, hrow.chain_adapter, hfirst.adapter_metadata,
            hrow.adapter_metadata, hfirst.chain_identity, hrow.chain_identity,
            hfirst.registry_locator, hrow.registry_locator, hfirst.registry_schema_hash,
            hrow.registry_schema_hash]
          simp
        unfold EvidenceStore.check_existing EvidenceStore.check_generation
        simp only [hsame, hfirst.generation, hrow.generation, hfirst.state_root, hrow.state_root,
          bind_eq_ok, exists_unit, rejectIf_eq_ok, decide_eq_false_iff_not,
          Bool.and_eq_false_iff, beq_eq_false_iff_ne, bne_eq_false_iff_eq, true_and]
        refine ⟨by omega, ?_⟩
        by_cases hsame_generation : snapshot.generation = earlier.generation
        · exact Or.inr (hroot hsame_generation.symm).symm
        · exact Or.inl hsame_generation
  obtain ⟨existing, hread, hcheck⟩ := hexisting
  -- the metadata is of the pinned deployment
  have hmeta : EvidenceStore.check_meta st.store.ri_v2_meta first = .ok () := by
    have hkey : ∀ {name : String} {stored : Option String} {expected : String},
        (∀ value, stored = some value → value = expected) →
          EvidenceStore.check_meta_key name stored expected = .ok () := by
      intro name stored expected hstored
      unfold EvidenceStore.check_meta_key
      rw [rejectIf_eq_ok]
      cases stored with
      | none => rfl
      | some value => simp [hstored value rfl]
    unfold EvidenceStore.check_meta
    rw [hfirst.chain_adapter, hfirst.chain_identity, hfirst.registry_locator,
      hfirst.registry_schema_hash, hkey h.pinned.chain_adapter, hkey h.pinned.chain_identity,
      hkey h.pinned.registry_locator, hkey h.pinned.registry_schema_hash]
    rfl
  -- the checkpoint is beyond the stored one
  have hstored : EvidenceStore.check_checkpoint (st.last.map (fun applied =>
      ⟨applied.snapshot.checkpoint.number, applied.snapshot.checkpoint.hash⟩)) first = .ok () := by
    cases hlast : st.last with
    | none => rfl
    | some applied =>
      have hlt : applied.snapshot.checkpoint.number < snapshot.checkpoint.number :=
        hahead.height _ (by unfold last_height; rw [hlast]; rfl)
      unfold EvidenceStore.check_checkpoint
      simp only [Option.map_some, bind_eq_ok, exists_unit, rejectIf_eq_ok, decide_eq_false_iff_not,
        hcheckpoint, Bool.and_eq_false_iff, beq_eq_false_iff_ne]
      exact ⟨by omega, Or.inl (by omega)⟩
  unfold EvidenceStore.check_snapshot
  rw [hread, ok_bind, hcheck, ok_bind, hmeta, ok_bind, checkpoint_of_holds h.holds, ok_bind]
  exact hstored

theorem forall₂_of_exists {α β : Type} {R : α → β → Prop} {l : List α}
    (h : ∀ a ∈ l, ∃ b, R a b) : ∃ l', List.Forall₂ R l l' := by
  induction l with
  | nil => exact ⟨[], .nil⟩
  | cons a rest ih =>
    obtain ⟨b, hb⟩ := h a List.mem_cons_self
    obtain ⟨later, hlater⟩ := ih (fun other hother => h other (List.mem_cons_of_mem _ hother))
    exact ⟨b :: later, .cons hb hlater⟩

/-- The entries of one snapshot are of one deployment. -/
theorem same_deployment_made {identity identity' : DnsServerIdentityV2}
    {entry entry' : EvidenceStore.IdentityRecord} (h : Made P target snapshot identity entry)
    (h' : Made P target snapshot identity' entry') :
    EvidenceStore.same_deployment entry.2 entry'.2 = true := by
  obtain ⟨record, _, hroot, _, rfl⟩ := h
  obtain ⟨record', _, hroot', _, rfl⟩ := h'
  exact EvidenceStore.same_deployment_iff.mpr
    ⟨⟨rfl, rfl, rfl, rfl, rfl⟩, ⟨rfl, rfl, rfl⟩, rfl, hroot'.trans hroot.symm⟩

theorem consistent_of_made {identity : DnsServerIdentityV2}
    {first : RegistryReferenceV2} {entry : EvidenceStore.IdentityRecord}
    (h : Made P target snapshot identity entry)
    (hsame : EvidenceStore.same_deployment first entry.2 = true) :
    EvidenceStore.Consistent P first entry := by
  obtain ⟨record, _, _, hvalid, rfl⟩ := h
  have hmatches := matches_of_validate hvalid
  exact ⟨hmatches.object_version, hmatches.object_hash, hsame⟩

/-- What a record needs of the columns, for the entries of a snapshot. -/
theorem fits_made_iff {identity : DnsServerIdentityV2} {entry : EvidenceStore.IdentityRecord}
    (h : Made P target snapshot identity entry) :
    EvidenceStore.FitsColumns entry ↔ (identity.object_version : Int) ≤ I64_MAX ∧
      (snapshot.generation : Int) ≤ I64_MAX ∧ (snapshot.checkpoint.number : Int) ≤ I64_MAX ∧
      ∀ chain_id contract_address runtime_code_hash,
        target.adapter_metadata = .evm chain_id contract_address runtime_code_hash →
          (chain_id : Int) ≤ I64_MAX := by
  obtain ⟨record, _, _, _, rfl⟩ := h
  constructor
  · intro hfits
    exact ⟨hfits.object_version, hfits.snapshot_generation, hfits.checkpoint_height,
      columns_iff.mp hfits.columns⟩
  · rintro ⟨hversion, hgeneration, hheight, hchain⟩
    exact ⟨columns_iff.mpr hchain, hversion, hgeneration, hheight⟩

theorem canonical_iff (h : st.Holds P) {checkpoint : Option EvidenceStore.RegistryCheckpoint}
    (hstored : EvidenceStore.registry_checkpoint_from st.store.ri_v2_meta = .ok checkpoint)
    (hahead : ∀ height, last_height st = some height → height < snapshot.checkpoint.number) :
    check_checkpoint checkpoint snapshot cycle.answers.canonical_hash = .ok () ↔
      ∀ applied, st.last = some applied →
        cycle.answers.canonical_hash = .ok applied.snapshot.checkpoint.hash := by
  rw [checkpoint_of_holds h] at hstored
  rw [← Except.ok.inj hstored]
  cases hlast : st.last with
  | none =>
    refine iff_of_true rfl ?_
    intro applied happlied
    cases happlied
  | some applied =>
    have hlt : applied.snapshot.checkpoint.number < snapshot.checkpoint.number :=
      hahead _ (by unfold last_height; rw [hlast]; rfl)
    unfold check_checkpoint
    simp only [Option.map_some, bind_eq_ok, exists_unit, rejectIf_eq_ok, decide_eq_false_iff_not,
      mapError_eq_ok, bne_eq_false_iff_eq, Option.some.injEq, forall_eq']
    constructor
    · rintro ⟨_, found, hfound, rfl⟩
      exact hfound
    · intro hfound
      exact ⟨by omega, _, hfound, rfl⟩

/-- A cycle that was applied had what it needs. -/
theorem admissible_of_reconciled (h : Kept P target family st)
    (hread : cycle.answers.read_snapshot = .ok snapshot) (hahead : Ahead family st snapshot)
    (hreconciled : ∃ count s', reconcile P cycle st.store = (.ok count, s')) :
    Admissible P st.last cycle snapshot := by
  obtain ⟨count, s', hreconcile⟩ := hreconciled
  obtain ⟨records, generation, hprepare, happly, _⟩ := reconcile_iff.mp hreconcile
  -- each check of the cycle that passed
  obtain ⟨hgenuine, found, checkpoint, hfound, hstored, hcheck, hrecords, hconfirmed⟩ :=
    prepare_records_iff.mp hprepare
  obtain rfl := Except.ok.inj (hfound.symm.trans hread)
  obtain ⟨hmap, _⟩ := of_snapshot_records hrecords
  obtain ⟨hnow, record₀, rest, hlist, hconsistent, hids, hkeys, _, acc, acc', hremove, hwrite, _⟩ :=
    EvidenceStore.apply_registry_snapshot_iff.mp happly
  obtain ⟨hfits, hreleased⟩ := (write_records_iff hids hkeys).mp ⟨acc', hwrite⟩
  obtain ⟨acc₁, hrun, hremoved⟩ := EvidenceStore.remove_missing_spec
    (EvidenceStore.nodup_identity_ids st.store)
    (EvidenceStore.remove_missing_reads (EvidenceStore.nodup_identity_ids st.store) hremove)
  obtain rfl := Except.ok.inj (hremove.symm.trans hrun)
  -- removals free the endpoints of the servers no longer listed
  have hlookup : ∀ key owner, acc.1.ri_v2_endpoint_lookup.get? key = some owner ↔
      st.store.ri_v2_endpoint_lookup.get? key = some owner ∧
        ¬ (owner ∈ st.store.identity_ids ∧ owner ∉ EvidenceStore.server_ids records) := by
    intro key owner
    rw [hremoved.lookup, EvidenceStore.mem_reverse_server_ids]
  -- what has to fit an `i64` or `u64` column did
  have hfits : ∀ identity ∈ cycle.identities, EvidenceStore.HasKeys P identity.endpoints ∧
      (identity.object_version : Int) ≤ I64_MAX ∧ (found.generation : Int) ≤ I64_MAX ∧
      (found.checkpoint.number : Int) ≤ I64_MAX ∧
      ∀ chain_id contract_address runtime_code_hash,
        cycle.target.adapter_metadata = .evm chain_id contract_address runtime_code_hash →
          (chain_id : Int) ≤ I64_MAX := by
    intro identity hidentity
    obtain ⟨entry, hentry, hmade⟩ := exists_of_forall₂ (snapshot_records_iff.mp hrecords)
      identity hidentity
    have hsame : entry.1 = identity := by
      obtain ⟨_, _, _, _, heq⟩ := hmade
      rw [heq]
    obtain ⟨hentry_fits, hhas⟩ := hfits entry hentry
    rw [hsame] at hhas
    exact ⟨hhas, (fits_made_iff hmade).mp hentry_fits⟩
  obtain ⟨first, hfirst⟩ : ∃ first, first ∈ cycle.identities := by
    refine ⟨record₀.1, ?_⟩
    rw [← hmap, hlist]
    exact List.mem_cons_self
  refine ⟨⟨hnow, hgenuine, (canonical_iff h.holds hstored hahead.height).mp hcheck, hconfirmed, ?_,
    (released_iff h hmap hlookup).mp hreleased, fun identity hidentity => (hfits identity hidentity).2.1,
    (hfits first hfirst).2.2.2.1, (hfits first hfirst).2.2.2.2⟩, List.ne_nil_of_mem hfirst, ?_,
    (hfits first hfirst).2.2.1, fun identity hidentity => (hfits identity hidentity).1, ?_⟩
  · rw [← record_keys_of_map hmap]
    exact hkeys
  · rw [← server_ids_of_map hmap]
    exact hids
  · intro identity hidentity
    obtain ⟨_, _, record, hrecord, hroot, hvalid, _⟩ :=
      exists_of_forall₂ (snapshot_records_iff.mp hrecords) identity hidentity
    exact ⟨record, hrecord, hroot, hvalid⟩

/-- And nothing else stands in its way. -/
theorem reconciled_of_admissible (h : Kept P target family st) (hcycle : Follows target family cycle)
    (hread : cycle.answers.read_snapshot = .ok snapshot) (hahead : Ahead family st snapshot)
    (hadmissible : Admissible P st.last cycle snapshot) :
    ∃ count s', reconcile P cycle st.store = (.ok count, s') := by
  -- the records of the snapshot, one for each identity
  obtain ⟨records, hforall⟩ := forall₂_of_exists
    (R := Made P cycle.target snapshot) (l := cycle.identities) (by
      intro identity hidentity
      obtain ⟨record, hrecord, hroot, hvalid⟩ := hadmissible.recorded identity hidentity
      exact ⟨_, record, hrecord, hroot, hvalid, rfl⟩)
  have hrecords : snapshot_records P cycle.target snapshot cycle.identities = .ok records :=
    snapshot_records_iff.mpr hforall
  obtain ⟨hmap, _⟩ := of_snapshot_records hrecords
  have hprepare : prepare_records P cycle st.store = .ok records :=
    prepare_records_iff.mpr ⟨hadmissible.storable.genuine, snapshot, _, hread, checkpoint_of_holds h.holds,
      (canonical_iff h.holds (checkpoint_of_holds h.holds) hahead.height).mpr hadmissible.storable.canonical,
      hrecords, hadmissible.storable.confirmed⟩
  have hmade := made_of_mem hrecords
  have hids : (EvidenceStore.server_ids records).Nodup := by
    rw [server_ids_of_map hmap]
    exact hadmissible.server_ids
  have hkeys : (EvidenceStore.record_keys P records).Nodup := by
    rw [record_keys_of_map hmap]
    exact hadmissible.storable.keys
  have hentry : ∀ entry ∈ records, entry.1 ∈ cycle.identities := by
    intro entry hentry
    rw [← hmap]
    exact List.mem_map_of_mem hentry
  have hready : ∀ entry ∈ records, EvidenceStore.FitsColumns entry ∧
      EvidenceStore.HasKeys P entry.1.endpoints := by
    intro entry hmem
    obtain ⟨identity, hidentity, hone⟩ := hmade entry hmem
    exact ⟨(fits_made_iff hone).mpr ⟨hadmissible.storable.object_versions identity hidentity,
      hadmissible.generation, hadmissible.storable.height, hadmissible.storable.chain_id⟩,
      hadmissible.has_keys _ (hentry entry hmem)⟩
  cases hlist : records with
  | nil =>
    rw [hlist] at hmap
    exact absurd hmap.symm hadmissible.nonempty
  | cons record₀ rest =>
    have hmem₀ : record₀ ∈ records := by
      rw [hlist]
      exact List.mem_cons_self
    obtain ⟨identity₀, _, hone⟩ := hmade record₀ hmem₀
    have hconsistent : ∀ record ∈ records, EvidenceStore.Consistent P record₀.2 record ∧
        EvidenceStore.HasKeys P record.1.endpoints := by
      intro record hrecord
      obtain ⟨_, _, hother⟩ := hmade record hrecord
      exact ⟨consistent_of_made hother (same_deployment_made hone hother), (hready record hrecord).2⟩
    have hsnapshot : st.store.check_snapshot record₀.2 = .ok () := by
      rw [hcycle.follows] at hone
      have hdeployed := deployed_made (hcycle.coherent snapshot hread) hone
      obtain ⟨_, _, _, _, rfl⟩ := hone
      exact check_snapshot_of_kept h hdeployed rfl hahead
    have hreads : EvidenceStore.DroppedRead (EvidenceStore.server_ids records).reverse
        st.store.identity_ids st.store := by
      intro id _ _ row hrow
      obtain ⟨_, _, hdeployed⟩ := h.rows id row hrow
      exact ⟨_, hdeployed.reread⟩
    obtain ⟨acc, hremove, hremoved⟩ : ∃ acc, EvidenceStore.remove_missing
        (EvidenceStore.server_ids records).reverse st.store.identity_ids (st.store, false) = .ok acc ∧
        EvidenceStore.Removed (fun id => id ∈ st.store.identity_ids ∧
          id ∉ (EvidenceStore.server_ids records).reverse) (st.store, false) acc :=
      EvidenceStore.remove_missing_spec (EvidenceStore.nodup_identity_ids st.store) hreads
    have hlookup : ∀ key owner, acc.1.ri_v2_endpoint_lookup.get? key = some owner ↔
        st.store.ri_v2_endpoint_lookup.get? key = some owner ∧
          ¬ (owner ∈ st.store.identity_ids ∧ owner ∉ EvidenceStore.server_ids records) := by
      intro key owner
      rw [hremoved.lookup, EvidenceStore.mem_reverse_server_ids]
    obtain ⟨acc', hwrite⟩ := (write_records_iff hids hkeys).mpr
      ⟨hready, (released_iff h hmap hlookup).mpr hadmissible.storable.handed_over⟩
    refine ⟨_, _, reconcile_iff.mpr ⟨records, _, hprepare,
      EvidenceStore.apply_registry_snapshot_iff.mpr ⟨hadmissible.storable.now, record₀, rest, hlist,
        hconsistent, hids, hkeys, hsnapshot, acc, acc', hremove, hwrite, rfl⟩, rfl⟩⟩

end Next

/-! ## §5. Runs over one target. -/

/-- **A store that has followed one target applies the next cycle exactly if the cycle is
admissible**: nothing an earlier cycle left, applied or refused, keeps a later block out whose
generation was not used for another root. -/
theorem resumed_iff {P : Platform} {target : ChainTarget} {family : ChainSnapshot → Prop}
    {cycles : List Cycle} {st : SyncState} (hcycles : ∀ cycle ∈ cycles, Follows target family cycle)
    (hrun : (sync P).run cycles = some st)
    {cycle : Cycle} (hcycle : Follows target family cycle) {snapshot : ChainSnapshot}
    (hread : cycle.answers.read_snapshot = .ok snapshot)
    (hahead : Ahead family st snapshot) :
    (∃ count s', reconcile P cycle st.store = (.ok count, s')) ↔
      Admissible P st.last cycle snapshot := by
  have hkept := kept_of_run hcycles kept_init hrun
  exact ⟨admissible_of_reconciled hkept hread hahead,
    reconciled_of_admissible hkept hcycle hread hahead⟩

/-- The generation of the snapshot is its height. -/
def ByBlock (snapshot : ChainSnapshot) : Prop := snapshot.generation = snapshot.checkpoint.number

theorem ahead_of_byBlock {st : SyncState} {snapshot : ChainSnapshot} (h : ByBlock snapshot)
    (hahead : ∀ height, last_height st = some height → height < snapshot.checkpoint.number) :
    Ahead ByBlock st snapshot := by
  refine ⟨hahead, ?_⟩
  rintro earlier ⟨hearlier, height, hheight, hle⟩
  have hlt := hahead height hheight
  unfold ByBlock at h hearlier
  exact ⟨by omega, fun hsame => by omega⟩

open Agent

/-- What the lab's node answers at a block. -/
def lab_block_snapshot (number : Nat) : ChainSnapshot :=
  { lab_snapshot with checkpoint := ⟨number, digest_of '3', .evmFinalized⟩, generation := number }

/-- A cycle at a block of the same chain. -/
def lab_block (number : Nat) : Cycle :=
  { lab_cycle (digest_of '3') with answers := {
      read_snapshot := .ok (lab_block_snapshot number)
      canonical_hash := .ok (digest_of '3')
      confirmed_hash := .ok (digest_of '3') } }

theorem lab_block_follows (number : Nat) : Follows lab_target ByBlock (lab_block number) := by
  refine ⟨rfl, ?_, ?_⟩
  · intro snapshot hread
    rw [← Except.ok.inj hread]
    rfl
  · intro snapshot hread
    rw [← Except.ok.inj hread]
    show Coherent lab_target .evmFinalized
    unfold Coherent
    decide +kernel

theorem resolver_a_genuine :
    Genuine registry_recording.platform lab_issuer_keys 1750000000 resolver_a.1 :=
  ⟨⟨operator_key, by decide +kernel, by decide +kernel⟩, by decide⟩

theorem resolver_a_key :
    ∃ key, registry_recording.platform.cache_key (lab_endpoint "192.0.2.1") = .ok key := ⟨_, rfl⟩

/-- The lab's set is let through at every block, by a store that has it or is empty. -/
theorem lab_block_admissible {number : Nat} (hnumber : (number : Int) ≤ I64_MAX)
    {last : Option Applied} (hlast : ∀ applied, last = some applied →
      applied.identities = [resolver_a.1] ∧ applied.snapshot.checkpoint.hash = digest_of '3') :
    Admissible registry_recording.platform last (lab_block number) (lab_block_snapshot number) := by
  obtain ⟨key, hkey⟩ := resolver_a_key
  have hvalid : validate_registry_record registry_recording.platform resolver_a.1 lab_resolver_record =
      .ok () := by
    decide +kernel
  have honly : ∀ identity, identity ∈ (lab_block number).identities → identity = resolver_a.1 :=
    fun identity hidentity => List.mem_singleton.mp hidentity
  have hnow : (0 : Int) < 1750000000 := by decide
  have hchain : ∀ chain_id contract_address runtime_code_hash,
      lab_target.adapter_metadata = .evm chain_id contract_address runtime_code_hash →
        (chain_id : Int) ≤ I64_MAX := by
    intro chain_id _ _ heq
    obtain ⟨rfl, _⟩ := RegistryAdapterMetadataV2.evm.inj heq
    decide
  have hstored : ∀ applied, last = some applied → applied.identities = [resolver_a.1] ∧
      (lab_block number).answers.canonical_hash = .ok applied.snapshot.checkpoint.hash := by
    intro applied happlied
    obtain ⟨hidentities, hhash⟩ := hlast applied happlied
    exact ⟨hidentities, congrArg Except.ok hhash.symm⟩
  refine ⟨.single rfl hstored hnow resolver_a_genuine rfl rfl hkey (by decide) hnumber hchain,
    List.cons_ne_nil _ _, List.nodup_singleton _, hnumber, ?_, ?_⟩
  · intro identity hidentity
    rw [honly identity hidentity]
    intro endpoint hendpoint
    rw [List.mem_singleton.mp hendpoint]
    exact resolver_a_key
  · intro identity hidentity
    rw [honly identity hidentity]
    exact ⟨lab_resolver_record, AList.lookup_insert _, rfl, hvalid⟩

/-- The lab's store at block 100. -/
def lab_stored : SyncState :=
  SyncState.take registry_recording.platform ⟨.open_, none⟩ (lab_block 100)

theorem lab_blocks_follow : ∀ cycle ∈ [lab_block 100], Follows lab_target ByBlock cycle := by
  intro cycle hcycle
  rw [List.mem_singleton.mp hcycle]
  exact lab_block_follows 100

theorem lab_stored_last :
    lab_stored.last = none ∨ ∃ applied, lab_stored.last = some applied ∧
      applied.identities = [resolver_a.1] ∧ applied.snapshot = lab_block_snapshot 100 := by
  unfold lab_stored
  rcases take_iff (P := registry_recording.platform) (lab_block 100) ⟨.open_, none⟩ with
    ⟨_, snapshot, _, _, _, hread, _, htake⟩ | hkept
  · rw [htake]
    exact Or.inr ⟨_, rfl, rfl, (Except.ok.inj hread).symm⟩
  · rw [hkept]
    exact Or.inl rfl

/-- The set is applied again at block 101. -/
theorem lab_block_resumed :
    ∃ count s', reconcile registry_recording.platform (lab_block 101) lab_stored.store =
      (.ok count, s') := by
  refine (resumed_iff lab_blocks_follow rfl (lab_block_follows 101) rfl
    (ahead_of_byBlock rfl ?_)).mpr (lab_block_admissible (by decide) ?_)
  · intro height hheight
    obtain ⟨applied, hlast, rfl⟩ := Option.map_eq_some_iff.mp hheight
    rcases lab_stored_last with hnone | ⟨found, hfound, _, hsnapshot⟩
    · cases hnone.symm.trans hlast
    · obtain rfl := Option.some.inj (hfound.symm.trans hlast)
      rw [hsnapshot]
      decide
  · intro applied hlast
    rcases lab_stored_last with hnone | ⟨found, hfound, hidentities, hsnapshot⟩
    · cases hnone.symm.trans hlast
    · obtain rfl := Option.some.inj (hfound.symm.trans hlast)
      rw [hsnapshot]
      exact ⟨hidentities, rfl⟩

/-! ## §6. What is given out. -/

section Served

variable {P : Platform} {target : ChainTarget} {st : SyncState} {applied : Applied}

/-- Every identity of the set applied last is read as it was written. -/
theorem get_identity_of_applied (h : Kept P target family st) (hlast : st.last = some applied)
    {identity : DnsServerIdentityV2} (hidentity : identity ∈ applied.identities) :
    ∃ record, applied.snapshot.records.lookup identity.server_id = some record ∧
      st.store.get_identity identity.server_id = .ok (some (identity, registry_reference
        applied.target applied.snapshot.checkpoint applied.snapshot.generation record)) := by
  have hholds := h.holds
  unfold SyncState.Holds at hholds
  rw [hlast] at hholds
  obtain ⟨_, records, hmap, hrecorded, hexact⟩ := hholds.exact
  rw [← hmap] at hidentity
  obtain ⟨entry, hentry, rfl⟩ := List.mem_map.mp hidentity
  obtain ⟨record, hrecord, _, hmade⟩ := hrecorded entry hentry
  have hrow := hexact.listed entry hentry
  obtain ⟨_, _, hdeployed⟩ := h.rows _ _ hrow
  have hdecode : decode_reference (EvidenceStore.written_row entry).registry_json = .ok entry.2 :=
    EvidenceStore.decode_reference_eq_ok.mpr hdeployed.reread
  refine ⟨record, hrecord, ?_⟩
  unfold EvidenceStore.get_identity
  rw [hrow]
  show decode_reference (EvidenceStore.written_row entry).registry_json >>= _ = _
  rw [hdecode, ok_bind, ← hmade]
  rfl

/-- A lookup finds the identity that has the endpoint, with the reference made from its
record. -/
theorem lookup_identity_iff (h : Kept P target family st) (hlast : st.last = some applied)
    {endpoint : DnsEndpoint} {identity : DnsServerIdentityV2} {registry : RegistryReferenceV2} :
    lookup_identity P st.store endpoint = .ok (some (identity, registry)) ↔
      identity ∈ applied.identities ∧
      (∃ key, P.cache_key endpoint = .ok key ∧
        key ∈ EvidenceStore.endpoint_keys P identity.endpoints) ∧
      ∃ record, applied.snapshot.records.lookup identity.server_id = some record ∧
        registry = registry_reference applied.target applied.snapshot.checkpoint
          applied.snapshot.generation record := by
  unfold lookup_identity EvidenceStore.lookup_server_id
  simp only [bind_eq_ok, mapError_eq_ok]
  constructor
  · rintro ⟨owner, ⟨key, hkey, howner⟩, hget⟩
    have howner := Except.ok.inj howner
    cases howner_eq : owner with
    | none =>
      rw [howner_eq] at hget
      cases hget
    | some id =>
      rw [howner_eq] at howner hget
      obtain ⟨_, hlast', holder, hholder, rfl, hheld⟩ := (holder_iff h key id).mp howner
      obtain rfl := Option.some.inj (hlast'.symm.trans hlast)
      obtain ⟨record, hrecord, hstored⟩ := get_identity_of_applied h hlast hholder
      have hsame := Option.some.inj (Except.ok.inj (hstored.symm.trans hget))
      obtain ⟨rfl, rfl⟩ := Prod.mk.inj hsame
      exact ⟨hholder, ⟨key, hkey, hheld⟩, record, hrecord, rfl⟩
  · rintro ⟨hidentity, ⟨key, hkey, hheld⟩, record, hrecord, rfl⟩
    have howner := (holder_iff h key identity.server_id).mpr
      ⟨applied, hlast, identity, hidentity, rfl, hheld⟩
    refine ⟨some identity.server_id, ⟨key, hkey, congrArg Except.ok howner⟩, ?_⟩
    obtain ⟨found, hfound, hstored⟩ := get_identity_of_applied h hlast hidentity
    obtain rfl := Option.some.inj (hfound.symm.trans hrecord)
    exact hstored

end Served

/-- **What a store that has followed one target gives out for an endpoint is the identity of
the set applied last that has it, and always that one.** -/
theorem served_iff {P : Platform} {target : ChainTarget} {family : ChainSnapshot → Prop}
    {cycles : List Cycle} {st : SyncState} (hcycles : ∀ cycle ∈ cycles, Follows target family cycle)
    (hrun : (sync P).run cycles = some st)
    {endpoint : DnsEndpoint} {identity : DnsServerIdentityV2} {registry : RegistryReferenceV2} :
    lookup_identity P st.store endpoint = .ok (some (identity, registry)) ↔
      ∃ applied, st.last = some applied ∧ identity ∈ applied.identities ∧
        (∃ key, P.cache_key endpoint = .ok key ∧
          key ∈ EvidenceStore.endpoint_keys P identity.endpoints) ∧
        ∃ record, applied.snapshot.records.lookup identity.server_id = some record ∧
          registry = registry_reference applied.target applied.snapshot.checkpoint
            applied.snapshot.generation record := by
  have hkept := kept_of_run hcycles kept_init hrun
  cases hlast : st.last with
  | none =>
    have hholds := hkept.holds
    unfold SyncState.Holds at hholds
    rw [hlast] at hholds
    constructor
    · intro hlookup
      rw [show st.store = .open_ from hholds] at hlookup
      exact absurd hlookup lookup_identity_open
    · rintro ⟨_, hsome, _⟩
      cases hsome
  | some applied =>
    simp only [Option.some.injEq, exists_eq_left']
    exact lookup_identity_iff hkept hlast

/-- What is given out after block 100. -/
theorem lab_block_served :
    lookup_identity registry_recording.platform lab_stored.store (lab_endpoint "192.0.2.1") =
      .ok (some (resolver_a.1, registry_reference lab_target (lab_block_snapshot 100).checkpoint 100
        lab_resolver_record)) := by
  obtain ⟨key, hkey⟩ := resolver_a_key
  have hheld : key ∈ EvidenceStore.endpoint_keys registry_recording.platform resolver_a.1.endpoints :=
    EvidenceStore.mem_endpoint_keys.mpr ⟨_, List.mem_cons_self, hkey⟩
  -- the first cycle was applied
  have hadmissible : Admissible registry_recording.platform none (lab_block 100)
      (lab_block_snapshot 100) := by
    refine lab_block_admissible (by decide) ?_
    intro applied happlied
    cases happlied
  have hahead : Ahead ByBlock (sync registry_recording.platform).init (lab_block_snapshot 100) := by
    refine ahead_of_byBlock rfl ?_
    intro height hheight
    cases hheight
  obtain ⟨count, s', happlied⟩ := reconciled_of_admissible kept_init (lab_block_follows 100) rfl
    hahead hadmissible
  have hlast : lab_stored.last = (lab_block 100).applied := last_take happlied
  exact (served_iff lab_blocks_follow (show _ = some lab_stored from rfl)).mpr
    ⟨_, hlast, List.mem_cons_self, ⟨key, hkey, hheld⟩, lab_resolver_record, AList.lookup_insert _, rfl⟩

end ResolverIdentity.Sync
