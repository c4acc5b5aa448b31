/-
  ResolverIdentity.Store.Snapshots: what the loops of a Registry snapshot do.

  Each loop of `apply_registry_snapshot` with one statement that says when it
  passes and one that says what every key maps to afterwards.  The checks make
  the records' server ids and endpoint keys distinct, so no record writes where
  another one did.

  Main results:
    * `check_records_iff`: what the first loop checks, record by record;
    * `remove_missing_spec`, `remove_missing_reads`: the loop over dropped ids;
    * `write_records_spec`, `write_records_succeeds`: the loop over the records.
-/
import ResolverIdentity.Store.Records

namespace ResolverIdentity.Store

open Library RegistryReferenceV2

namespace EvidenceStore

variable (P : Platform)

/-! ## §1. The checks on the records. -/

/-- The servers of a snapshot. -/
def server_ids (records : List IdentityRecord) : List String :=
  records.map (fun record => record.1.server_id)

/-- The keys of the endpoints; one without a key has none. -/
def endpoint_keys (endpoints : List DnsEndpoint) : List String :=
  endpoints.filterMap (fun endpoint => (P.cache_key endpoint).toOption)

/-- All endpoint keys of a snapshot. -/
def record_keys (records : List IdentityRecord) : List String :=
  records.flatMap (fun record => endpoint_keys P record.1.endpoints)

/-- Every endpoint has a key. -/
def HasKeys (endpoints : List DnsEndpoint) : Prop :=
  ∀ endpoint ∈ endpoints, ∃ key, P.cache_key endpoint = .ok key

/-- The record is about its identity and belongs to the snapshot. -/
structure Consistent (first : RegistryReferenceV2) (record : IdentityRecord) : Prop where
  version : record.2.object_version = record.1.object_version
  hash : record.2.object_hash = P.object_hash record.1.to_value
  deployment : same_deployment first record.2 = true

variable {P}

theorem mem_endpoint_keys {endpoints : List DnsEndpoint} {key : String} :
    key ∈ endpoint_keys P endpoints ↔ ∃ endpoint ∈ endpoints, P.cache_key endpoint = .ok key := by
  unfold endpoint_keys
  rw [List.mem_filterMap]
  constructor
  · intro h
    obtain ⟨endpoint, hmem, hkey⟩ := h
    exact ⟨endpoint, hmem, toOption_eq_some hkey⟩
  · intro h
    obtain ⟨endpoint, hmem, hkey⟩ := h
    exact ⟨endpoint, hmem, by rw [hkey]; rfl⟩

theorem mem_record_keys {records : List IdentityRecord} {key : String} :
    key ∈ record_keys P records ↔ ∃ record ∈ records, key ∈ endpoint_keys P record.1.endpoints :=
  List.mem_flatMap

theorem endpoint_keys_cons {endpoint : DnsEndpoint} {rest : List DnsEndpoint} {key : String}
    (h : P.cache_key endpoint = .ok key) :
    endpoint_keys P (endpoint :: rest) = key :: endpoint_keys P rest := by
  unfold endpoint_keys
  rw [List.filterMap_cons, h]
  rfl

theorem hasKeys_cons {endpoint : DnsEndpoint} {rest : List DnsEndpoint} {key : String}
    (h : P.cache_key endpoint = .ok key) : HasKeys P (endpoint :: rest) ↔ HasKeys P rest := by
  unfold HasKeys
  rw [List.forall_mem_cons]
  exact and_iff_right ⟨key, h⟩

theorem not_hasKeys_cons {endpoint : DnsEndpoint} {rest : List DnsEndpoint}
    {e : EvidenceValidationError} (h : P.cache_key endpoint = .error e) :
    ¬ HasKeys P (endpoint :: rest) := by
  intro hkeys
  obtain ⟨key, hkey⟩ := hkeys endpoint List.mem_cons_self
  rw [h] at hkey
  cases hkey

theorem configure_endpoints_iff {endpoints : List DnsEndpoint} :
    ∀ {before after : List String}, configure_endpoints P endpoints before = .ok after ↔
      HasKeys P endpoints ∧ (endpoint_keys P endpoints).Nodup ∧
        (∀ key ∈ endpoint_keys P endpoints, key ∉ before) ∧
        after = (endpoint_keys P endpoints).reverse ++ before := by
  induction endpoints with
  | nil =>
    intro before after
    simp [configure_endpoints, HasKeys, endpoint_keys, eq_comm]
  | cons endpoint rest ih =>
    intro before after
    rw [configure_endpoints]
    cases hkey : P.cache_key endpoint with
    | error e =>
      -- an endpoint without a key is refused
      constructor
      · intro h
        cases h
      · intro h
        exact absurd h.1 (not_hasKeys_cons hkey)
    | ok key =>
      show (rejectIf _ _ >>= _) = _ ↔ _
      rw [bind_eq_ok, endpoint_keys_cons hkey, hasKeys_cons hkey]
      simp only [rejectIf_eq_ok, ih, forall_eq_or_imp, List.mem_cons, List.nodup_cons,
        List.reverse_cons, List.append_assoc, List.singleton_append, List.contains_eq_mem,
        decide_eq_false_iff_not, not_or]
      constructor
      · intro h
        obtain ⟨_, hfresh, hrest, hnodup, hdisjoint, hafter⟩ := h
        exact ⟨hrest, ⟨fun hmem => (hdisjoint key hmem).1 rfl, hnodup⟩,
          ⟨hfresh, fun other hmem => (hdisjoint other hmem).2⟩, hafter⟩
      · intro h
        obtain ⟨hrest, ⟨hnew, hnodup⟩, ⟨hfresh, hdisjoint⟩, hafter⟩ := h
        refine ⟨(), hfresh, hrest, hnodup, fun other hmem => ⟨?_, hdisjoint other hmem⟩, hafter⟩
        intro heq
        exact hnew (heq ▸ hmem)

/-- What the validation loop checks, record by record. -/
theorem check_records_iff {first : RegistryReferenceV2} {records : List IdentityRecord} :
    ∀ {ids keys ids' : List String}, check_records P first records ids keys = .ok ids' ↔
      (∀ record ∈ records, Consistent P first record ∧ HasKeys P record.1.endpoints) ∧
        (server_ids records).Nodup ∧ (∀ id ∈ server_ids records, id ∉ ids) ∧
        (record_keys P records).Nodup ∧ (∀ key ∈ record_keys P records, key ∉ keys) ∧
        ids' = (server_ids records).reverse ++ ids := by
  induction records with
  | nil =>
    intro ids keys ids'
    simp [check_records, server_ids, record_keys, eq_comm]
  | cons record rest ih =>
    intro ids keys ids'
    obtain ⟨identity, reference⟩ := record
    -- the three comparisons with the first record
    have hrecord : (reference.object_version != identity.object_version ||
        reference.object_hash != P.object_hash identity.to_value ||
        !same_deployment first reference) = false ↔ Consistent P first (identity, reference) := by
      simp only [Bool.or_eq_false_iff, bne_eq_false_iff_eq, Bool.not_eq_false']
      constructor
      · intro h
        exact ⟨h.1.1, h.1.2, h.2⟩
      · intro h
        exact ⟨⟨h.version, h.hash⟩, h.deployment⟩
    have hkeys : record_keys P ((identity, reference) :: rest) =
        endpoint_keys P identity.endpoints ++ record_keys P rest := rfl
    have hids : server_ids ((identity, reference) :: rest) =
        identity.server_id :: server_ids rest := rfl
    rw [check_records]
    simp only [bind_eq_ok, rejectIf_eq_ok, hrecord, configure_endpoints_iff, ih, hkeys, hids,
      List.nodup_append, List.nodup_cons, List.mem_append, List.forall_mem_cons,
      List.reverse_cons, List.append_assoc, List.singleton_append, List.contains_eq_mem,
      decide_eq_false_iff_not]
    constructor
    · intro h
      -- ids and keys seen so far are passed on, and no later record has one of them
      obtain ⟨_, hconsistent, _, hfresh, keys', ⟨hhas, hnodup, hnew, rfl⟩, hrest, hidsNodup,
        hidsNew, hkeysNodup, hkeysNew, rfl⟩ := h
      refine ⟨⟨⟨hconsistent, hhas⟩, hrest⟩, ⟨fun hmem => ?_, hidsNodup⟩,
        ⟨hfresh, fun id hid hold => hidsNew id hid (List.mem_cons_of_mem _ hold)⟩,
        ⟨hnodup, hkeysNodup, fun key hkey other hother heq => ?_⟩, fun key hkey hold => ?_, rfl⟩
      · exact hidsNew _ hmem List.mem_cons_self
      · exact hkeysNew other hother
          (List.mem_append_left _ (List.mem_reverse.mpr (heq ▸ hkey)))
      · rcases hkey with hkey | hkey
        · exact hnew key hkey hold
        · exact hkeysNew key hkey (List.mem_append_right _ hold)
    · intro h
      obtain ⟨⟨⟨hconsistent, hhas⟩, hrest⟩, ⟨hid, hidsNodup⟩, ⟨hfresh, hidsNew⟩,
        ⟨hnodup, hkeysNodup, hdisjoint⟩, hkeysNew, rfl⟩ := h
      refine ⟨(), hconsistent, (), hfresh, _, ⟨hhas, hnodup, fun key hkey => ?_, rfl⟩, hrest,
        hidsNodup, fun id hmem hold => ?_, hkeysNodup, fun key hkey hold => ?_, rfl⟩
      · exact hkeysNew key (Or.inl hkey)
      · rcases List.mem_cons.mp hold with rfl | hold
        · exact hid hmem
        · exact hidsNew id hmem hold
      · rcases List.mem_append.mp hold with hold | hold
        · exact hdisjoint key (List.mem_reverse.mp hold) key hkey rfl
        · exact hkeysNew key (Or.inr hkey) hold

/-! ## §2. Dropped identities. -/

/-- The row a dropped identity keeps. -/
def removed_row (row : IdentityRow) : IdentityRow :=
  if row.registry_json.resolver_status = "REMOVED" then row
  else { row with
    status := "REMOVED"
    registry_json := { row.registry_json.read_back with resolver_status := "REMOVED" } }

theorem removed_row_status (row : IdentityRow) :
    (removed_row row).registry_json.resolver_status = "REMOVED" := by
  unfold removed_row
  split
  case isTrue h => exact h
  case isFalse => rfl

/-- Removing twice is removing once. -/
theorem removed_row_removed (row : IdentityRow) : removed_row (removed_row row) = removed_row row :=
  if_pos (removed_row_status row)

/-- An identity that has been dropped, with its endpoints and its snapshot row. -/
structure Removed (gone : String → Prop) (acc acc' : EvidenceStore × Bool) : Prop where
  dropped : ∀ id, gone id → acc'.1.ri_v2_identities.get? id =
    (acc.1.ri_v2_identities.get? id).map removed_row
  kept : ∀ id, ¬ gone id → acc'.1.ri_v2_identities.get? id = acc.1.ri_v2_identities.get? id
  lookup : ∀ key owner, acc'.1.ri_v2_endpoint_lookup.get? key = some owner ↔
    acc.1.ri_v2_endpoint_lookup.get? key = some owner ∧ ¬ gone owner
  snapshot : ∀ id reference,
    acc'.1.ri_v2_registry_snapshot.get? ("registry-v2:" ++ id) = some reference ↔
      acc.1.ri_v2_registry_snapshot.get? ("registry-v2:" ++ id) = some reference ∧ ¬ gone id
  rest : acc'.1 = { acc.1 with
    ri_v2_identities := acc'.1.ri_v2_identities
    ri_v2_endpoint_lookup := acc'.1.ri_v2_endpoint_lookup
    ri_v2_registry_snapshot := acc'.1.ri_v2_registry_snapshot }
  change : acc'.2 = true ↔ acc.2 = true ∨ ∃ id row, gone id ∧
    acc.1.ri_v2_identities.get? id = some row ∧ row.registry_json.resolver_status ≠ "REMOVED"

theorem Removed.none (acc : EvidenceStore × Bool) : Removed (fun _ => False) acc acc where
  dropped := fun _ h => h.elim
  kept := fun _ _ => rfl
  lookup := fun _ _ => by simp
  snapshot := fun _ _ => by simp
  rest := rfl
  change := by simp

/-- Removals compose: what the first one dropped, the second leaves as it is. -/
theorem Removed.trans {gone gone' : String → Prop} {acc acc₁ acc' : EvidenceStore × Bool}
    (h : Removed gone acc acc₁) (h' : Removed gone' acc₁ acc') :
    Removed (fun id => gone id ∨ gone' id) acc acc' where
  dropped := by
    intro id hgone
    by_cases hfirst : gone id
    · have hrow := h.dropped id hfirst
      -- removed twice is removed once
      by_cases hsecond : gone' id
      · rw [h'.dropped id hsecond, hrow, Option.map_map]
        congr 1
        funext row
        exact removed_row_removed row
      · rw [h'.kept id hsecond, hrow]
    · have hsecond := hgone.resolve_left hfirst
      rw [h'.dropped id hsecond, h.kept id hfirst]
  kept := by
    intro id hgone
    rw [not_or] at hgone
    rw [h'.kept id hgone.2, h.kept id hgone.1]
  lookup := by
    intro key owner
    rw [h'.lookup, h.lookup, not_or, and_assoc]
  snapshot := by
    intro id reference
    rw [h'.snapshot, h.snapshot, not_or, and_assoc]
  rest := by
    rw [h'.rest, h.rest]
  change := by
    rw [h'.change, h.change, or_assoc]
    refine or_congr_right ⟨fun hchange => ?_, fun hchange => ?_⟩
    · rcases hchange with ⟨id, row, hgone, hrow, hstatus⟩ | ⟨id, row, hgone, hrow, hstatus⟩
      · exact ⟨id, row, Or.inl hgone, hrow, hstatus⟩
      · -- a row the second removal marks is one the first did not touch
        have hfirst : ¬ gone id := by
          intro hfirst
          rw [h.dropped id hfirst, Option.map_eq_some_iff] at hrow
          obtain ⟨old, _, rfl⟩ := hrow
          exact hstatus (removed_row_status old)
        rw [h.kept id hfirst] at hrow
        exact ⟨id, row, Or.inr hgone, hrow, hstatus⟩
    · obtain ⟨id, row, hgone, hrow, hstatus⟩ := hchange
      by_cases hfirst : gone id
      · exact Or.inl ⟨id, row, hfirst, hrow, hstatus⟩
      · refine Or.inr ⟨id, row, hgone.resolve_left hfirst, ?_, hstatus⟩
        rw [h.kept id hfirst]
        exact hrow

theorem Removed.congr {gone gone' : String → Prop} {acc acc' : EvidenceStore × Bool}
    (h : Removed gone acc acc') (hgone : ∀ id, gone id ↔ gone' id) : Removed gone' acc acc' := by
  have heq : gone = gone' := funext (fun id => propext (hgone id))
  exact heq ▸ h

theorem reread_resolver_status {reference reference' : RegistryReferenceV2}
    (h : reference.reread = .ok reference') :
    reference'.resolver_status = reference.resolver_status := by
  unfold reread deserialize at h
  obtain ⟨_, _, h⟩ := bind_eq_ok.mp h
  obtain ⟨metadata, _, h⟩ := bind_eq_ok.mp h
  obtain ⟨finality, _, h⟩ := bind_eq_ok.mp h
  obtain ⟨_, _, h⟩ := bind_eq_ok.mp h
  obtain rfl := Except.ok.inj h
  rfl

theorem snapshot_key_inj {id id' : String} :
    "registry-v2:" ++ id = "registry-v2:" ++ id' ↔ id = id' :=
  String.append_right_inj _

theorem mark_removed_spec {server_id : String} {acc : EvidenceStore × Bool}
    (hreads : ∀ row, acc.1.ri_v2_identities.get? server_id = some row →
      ∃ reference, row.registry_json.reread = .ok reference) :
    ∃ identities flag, mark_removed server_id acc =
        .ok ({ acc.1 with ri_v2_identities := identities }, flag) ∧
      (∀ id, identities.get? id = if id = server_id then
        (acc.1.ri_v2_identities.get? id).map removed_row else acc.1.ri_v2_identities.get? id) ∧
      (flag = true ↔ acc.2 = true ∨ ∃ row, acc.1.ri_v2_identities.get? server_id = some row ∧
        row.registry_json.resolver_status ≠ "REMOVED") := by
  unfold mark_removed
  cases hget : acc.1.ri_v2_identities.get? server_id with
  | none =>
    refine ⟨acc.1.ri_v2_identities, acc.2, rfl, ?_, by simp⟩
    intro id
    by_cases hid : id = server_id
    · rw [if_pos hid, hid, hget]
      rfl
    · rw [if_neg hid]
  | some row =>
    obtain ⟨reference, hread⟩ := hreads row hget
    have hstatus := reread_resolver_status hread
    simp only [decode_reference_eq_ok.mpr hread, ok_bind]
    by_cases hremoved : row.registry_json.resolver_status = "REMOVED"
    · -- the row already says so
      rw [if_neg (by rw [hstatus, hremoved]; simp)]
      refine ⟨acc.1.ri_v2_identities, acc.2, rfl, ?_, by simp [hremoved]⟩
      intro id
      by_cases hid : id = server_id
      · rw [if_pos hid, hid, hget, Option.map_some]
        unfold removed_row
        rw [if_pos hremoved]
      · rw [if_neg hid]
    · rw [if_pos (by rw [hstatus]; simpa using hremoved)]
      refine ⟨_, true, rfl, ?_, by simp [hremoved]⟩
      intro id
      rw [RowTable.get?_update]
      by_cases hid : id = server_id
      · rw [if_pos hid, if_pos hid, hid, hget, Option.map_some, Option.map_some]
        unfold removed_row
        rw [if_neg hremoved, read_back_of_reread hread]
      · rw [if_neg hid, if_neg hid]

theorem get?_delete_endpoints {s : EvidenceStore} {server_id key owner : String} :
    (s.delete_endpoints server_id).ri_v2_endpoint_lookup.get? key = some owner ↔
      s.ri_v2_endpoint_lookup.get? key = some owner ∧ owner ≠ server_id := by
  unfold delete_endpoints
  rw [RowTable.get?_deleteWhere_eq_some]
  simp

theorem remove_identity_spec {server_id : String} {acc : EvidenceStore × Bool}
    (hreads : ∀ row, acc.1.ri_v2_identities.get? server_id = some row →
      ∃ reference, row.registry_json.reread = .ok reference) :
    ∃ acc', remove_identity server_id acc = .ok acc' ∧ Removed (fun id => id = server_id) acc acc' := by
  obtain ⟨identities, flag, hmark, hidentities, hflag⟩ := mark_removed_spec hreads
  unfold remove_identity
  rw [hmark, ok_bind]
  refine ⟨_, rfl, ?_, ?_, ?_, ?_, rfl, ?_⟩
  · intro id hid
    show identities.get? id = _
    rw [hidentities, if_pos hid]
  · intro id hid
    show identities.get? id = _
    rw [hidentities, if_neg hid]
  · intro key owner
    exact get?_delete_endpoints
  · intro id reference
    show (RowTable.delete _ _).get? _ = _ ↔ _
    rw [RowTable.get?_delete]
    by_cases hid : id = server_id
    · simp [hid]
    · rw [if_neg (fun h => hid (snapshot_key_inj.mp h))]
      exact ⟨fun h => ⟨h, hid⟩, fun h => h.1⟩
  · rw [hflag]
    refine or_congr_right ⟨fun hchange => ?_, fun hchange => ?_⟩
    · obtain ⟨row, hrow, hstatus⟩ := hchange
      exact ⟨server_id, row, rfl, hrow, hstatus⟩
    · obtain ⟨_, row, rfl, hrow, hstatus⟩ := hchange
      exact ⟨row, hrow, hstatus⟩

/-- A dropped identity whose stored reference does not read stops the loop. -/
theorem remove_identity_reads {server_id : String} {acc acc' : EvidenceStore × Bool}
    {row : IdentityRow} (h : remove_identity server_id acc = .ok acc')
    (hrow : acc.1.ri_v2_identities.get? server_id = some row) :
    ∃ reference, row.registry_json.reread = .ok reference := by
  unfold remove_identity mark_removed at h
  rw [hrow] at h
  obtain ⟨_, hmark, _⟩ := bind_eq_ok.mp h
  obtain ⟨reference, hdecode, _⟩ := bind_eq_ok.mp hmark
  exact ⟨reference, decode_reference_eq_ok.mp hdecode⟩

/-- Every stored identity among these that the snapshot drops reads back. -/
def DroppedRead (configured_ids ids : List String) (s : EvidenceStore) : Prop :=
  ∀ id ∈ ids, id ∉ configured_ids → ∀ row, s.ri_v2_identities.get? id = some row →
    ∃ reference, row.registry_json.reread = .ok reference

theorem remove_missing_spec {configured_ids ids : List String} :
    ∀ {acc : EvidenceStore × Bool}, ids.Nodup → DroppedRead configured_ids ids acc.1 →
      ∃ acc', remove_missing configured_ids ids acc = .ok acc' ∧
        Removed (fun id => id ∈ ids ∧ id ∉ configured_ids) acc acc' := by
  induction ids with
  | nil =>
    intro acc _ _
    refine ⟨acc, rfl, (Removed.none acc).congr (fun id => ?_)⟩
    simp
  | cons server_id rest ih =>
    intro acc hnodup hreads
    obtain ⟨hnew, hnodup⟩ := List.nodup_cons.mp hnodup
    by_cases hconfigured : server_id ∈ configured_ids
    · obtain ⟨acc', hrun, hremoved⟩ := ih hnodup
        (fun id hid => hreads id (List.mem_cons_of_mem _ hid))
      refine ⟨acc', ?_, hremoved.congr (fun id => ?_)⟩
      · rw [remove_missing, if_pos (by simpa using hconfigured)]
        exact hrun
      · constructor
        · intro h
          exact ⟨List.mem_cons_of_mem _ h.1, h.2⟩
        · intro h
          refine ⟨(List.mem_cons.mp h.1).resolve_left (fun heq => h.2 (heq ▸ hconfigured)), h.2⟩
    · obtain ⟨acc₁, hfirst, hremoved₁⟩ := remove_identity_spec
        (hreads server_id List.mem_cons_self hconfigured)
      have hreads₁ : DroppedRead configured_ids rest acc₁.1 := by
        intro id hid hout row hrow
        rw [hremoved₁.kept id (fun heq => hnew (heq ▸ hid))] at hrow
        exact hreads id (List.mem_cons_of_mem _ hid) hout row hrow
      obtain ⟨acc', hrun, hremoved⟩ := ih hnodup hreads₁
      refine ⟨acc', ?_, (hremoved₁.trans hremoved).congr (fun id => ?_)⟩
      · rw [remove_missing, if_neg (by simpa using hconfigured), hfirst, ok_bind]
        exact hrun
      · rw [List.mem_cons]
        constructor
        · intro h
          rcases h with rfl | h
          · exact ⟨Or.inl rfl, hconfigured⟩
          · exact ⟨Or.inr h.1, h.2⟩
        · intro h
          exact h.1.imp_right (fun hmem => ⟨hmem, h.2⟩)

theorem remove_missing_reads {configured_ids ids : List String} :
    ∀ {acc acc' : EvidenceStore × Bool}, ids.Nodup →
      remove_missing configured_ids ids acc = .ok acc' → DroppedRead configured_ids ids acc.1 := by
  induction ids with
  | nil =>
    intro acc acc' _ _ id hid
    cases hid
  | cons server_id rest ih =>
    intro acc acc' hnodup hrun id hid hout row hrow
    obtain ⟨hnew, hnodup⟩ := List.nodup_cons.mp hnodup
    rw [remove_missing] at hrun
    by_cases hconfigured : server_id ∈ configured_ids
    · rw [if_pos (by simpa using hconfigured)] at hrun
      have hmem := (List.mem_cons.mp hid).resolve_left (fun heq => hout (heq ▸ hconfigured))
      exact ih hnodup hrun id hmem hout row hrow
    · rw [if_neg (by simpa using hconfigured)] at hrun
      obtain ⟨acc₁, hfirst, hrun⟩ := bind_eq_ok.mp hrun
      by_cases hhead : id = server_id
      · exact remove_identity_reads hfirst (hhead ▸ hrow)
      · obtain ⟨acc₂, hsame, hremoved⟩ := remove_identity_spec
          (fun row hrow => remove_identity_reads hfirst hrow)
        obtain rfl := Except.ok.inj (hfirst.symm.trans hsame)
        refine ih hnodup hrun id ((List.mem_cons.mp hid).resolve_left hhead) hout row ?_
        rw [hremoved.kept id hhead]
        exact hrow

/-! ## §3. Written records. -/

/-- The row of a written record. -/
def written_row (record : IdentityRecord) : IdentityRow where
  identity_json := record.1
  identity_hash := record.2.object_hash
  object_version := record.1.object_version
  status := record.1.status
  valid_until := record.1.valid_until
  registry_json := record.2
  snapshot_generation := record.2.snapshot_generation

/-- The numbers of the record fit the columns they are stored in. -/
structure FitsColumns (record : IdentityRecord) : Prop where
  columns : ∃ columns, legacy_evm_columns record.2 = .ok columns
  object_version : (record.1.object_version : Int) ≤ I64_MAX
  snapshot_generation : (record.2.snapshot_generation : Int) ≤ I64_MAX
  checkpoint_height : (record.2.checkpoint_height : Int) ≤ I64_MAX

theorem identity_row_eq_ok {record : IdentityRecord} {row : IdentityRow} :
    identity_row record.1 record.2 record.2.object_hash = .ok row ↔
      (record.1.object_version : Int) ≤ I64_MAX ∧
        (record.2.snapshot_generation : Int) ≤ I64_MAX ∧ row = written_row record := by
  unfold identity_row
  simp only [bind_eq_ok, sql_i64_eq_ok]
  constructor
  · intro h
    obtain ⟨_, ⟨rfl, hversion⟩, _, ⟨rfl, hgeneration⟩, h⟩ := h
    exact ⟨hversion, hgeneration, (Except.ok.inj h).symm⟩
  · intro h
    obtain ⟨hversion, hgeneration, rfl⟩ := h
    exact ⟨_, ⟨rfl, hversion⟩, _, ⟨rfl, hgeneration⟩, rfl⟩

/-- Endpoints go in when each has a key of its own that nobody holds. -/
theorem insert_endpoints_iff {server_id : String} {endpoints : List DnsEndpoint} :
    ∀ {s : EvidenceStore}, (∃ s', insert_endpoints P server_id endpoints s = .ok s') ↔
      HasKeys P endpoints ∧ (endpoint_keys P endpoints).Nodup ∧
        ∀ key ∈ endpoint_keys P endpoints, s.ri_v2_endpoint_lookup.get? key = none := by
  induction endpoints with
  | nil =>
    intro s
    simp [insert_endpoints, HasKeys, endpoint_keys]
  | cons endpoint rest ih =>
    intro s
    cases hkey : P.cache_key endpoint with
    | error e =>
      constructor
      · intro h
        obtain ⟨s', h⟩ := h
        rw [insert_endpoints, hkey] at h
        cases h
      · intro h
        exact absurd h.1 (not_hasKeys_cons hkey)
    | ok key =>
      rw [endpoint_keys_cons hkey, hasKeys_cons hkey, List.nodup_cons, List.forall_mem_cons]
      simp only [insert_endpoints, hkey, Except.mapError, ok_bind, bind_eq_ok, okOr_eq_ok]
      constructor
      · intro h
        obtain ⟨s', lookup, hinsert, hrun⟩ := h
        obtain ⟨hrest, hnodup, hnew⟩ := ih.mp ⟨s', hrun⟩
        have hget := RowTable.get?_of_insert? hinsert
        -- a key in the rest would meet the one just inserted
        have hother : ∀ other ∈ endpoint_keys P rest,
            other ≠ key ∧ s.ri_v2_endpoint_lookup.get? other = none := by
          intro other hmem
          have hfree : lookup.get? other = none := hnew other hmem
          rw [hget] at hfree
          by_cases heq : other = key
          · rw [if_pos heq] at hfree
            cases hfree
          · rw [if_neg heq] at hfree
            exact ⟨heq, hfree⟩
        exact ⟨hrest, ⟨fun hmem => (hother key hmem).1 rfl, hnodup⟩,
          (RowTable.insert?_eq_some hinsert).1, fun other hmem => (hother other hmem).2⟩
      · intro h
        obtain ⟨hrest, ⟨hnew, hnodup⟩, hfree, hfrees⟩ := h
        obtain ⟨lookup, hinsert⟩ := Option.isSome_iff_exists.mp
          ((RowTable.insert?_isSome_iff (v := server_id)).mpr hfree)
        have hfrees' : ∀ other ∈ endpoint_keys P rest, lookup.get? other = none := by
          intro other hmem
          have hne : other ≠ key := fun heq => hnew (heq ▸ hmem)
          rw [RowTable.get?_of_insert? hinsert, if_neg hne]
          exact hfrees other hmem
        obtain ⟨s', hrun⟩ := (ih (s := { s with ri_v2_endpoint_lookup := lookup })).mpr
          ⟨hrest, hnodup, hfrees'⟩
        exact ⟨s', lookup, hinsert, hrun⟩

/-- Every key of the endpoints maps to the identity, every other one to what it did. -/
theorem insert_endpoints_lookup {server_id : String} {endpoints : List DnsEndpoint} :
    ∀ {s s' : EvidenceStore}, insert_endpoints P server_id endpoints s = .ok s' →
      ∀ key, s'.ri_v2_endpoint_lookup.get? key =
        if key ∈ endpoint_keys P endpoints then some server_id
        else s.ri_v2_endpoint_lookup.get? key := by
  induction endpoints with
  | nil =>
    intro s s' h key
    obtain rfl := Except.ok.inj h
    rfl
  | cons endpoint rest ih =>
    intro s s' h key
    rw [insert_endpoints] at h
    obtain ⟨head, hhead, h⟩ := bind_eq_ok.mp h
    obtain ⟨lookup, hinsert, h⟩ := bind_eq_ok.mp h
    have hget : ({ s with ri_v2_endpoint_lookup := lookup } :
        EvidenceStore).ri_v2_endpoint_lookup.get? key =
          if key = head then some server_id else s.ri_v2_endpoint_lookup.get? key :=
      RowTable.get?_of_insert? (okOr_eq_ok.mp hinsert) key
    rw [ih h, hget, endpoint_keys_cons (mapError_eq_ok.mp hhead)]
    simp only [List.mem_cons]
    by_cases hrest : key ∈ endpoint_keys P rest
    · rw [if_pos hrest, if_pos (Or.inr hrest)]
    · rw [if_neg hrest]
      by_cases heq : key = head
      · rw [if_pos heq, if_pos (Or.inl heq)]
      · rw [if_neg heq, if_neg (not_or.mpr ⟨heq, hrest⟩)]

variable (P) in
/-- Nobody else holds a key of the record. -/
def KeysFree (record : IdentityRecord) (s : EvidenceStore) : Prop :=
  ∀ key ∈ endpoint_keys P record.1.endpoints, ∀ owner,
    s.ri_v2_endpoint_lookup.get? key = some owner → owner = record.1.server_id

theorem keysFree_iff {record : IdentityRecord} {s : EvidenceStore} :
    KeysFree P record s ↔ ∀ key ∈ endpoint_keys P record.1.endpoints,
      (s.delete_endpoints record.1.server_id).ri_v2_endpoint_lookup.get? key = none := by
  unfold KeysFree
  refine forall₂_congr (fun key _ => ?_)
  rw [Option.eq_none_iff_forall_ne_some]
  refine forall_congr' (fun owner => ?_)
  rw [ne_eq, get?_delete_endpoints, not_and, not_not]

variable (P) in
/-- The records have been written, and nothing else. -/
structure Written (records : List IdentityRecord) (acc acc' : EvidenceStore × Bool) : Prop where
  listed : ∀ record ∈ records,
    acc'.1.ri_v2_identities.get? record.1.server_id = some (written_row record)
  kept : ∀ id, id ∉ server_ids records →
    acc'.1.ri_v2_identities.get? id = acc.1.ri_v2_identities.get? id
  lookup : ∀ key owner, acc'.1.ri_v2_endpoint_lookup.get? key = some owner ↔
    (∃ record ∈ records, record.1.server_id = owner ∧ key ∈ endpoint_keys P record.1.endpoints) ∨
      (owner ∉ server_ids records ∧ acc.1.ri_v2_endpoint_lookup.get? key = some owner)
  snapshot : ∀ id reference,
    acc'.1.ri_v2_registry_snapshot.get? ("registry-v2:" ++ id) = some reference ↔
      (∃ record ∈ records, record.1.server_id = id ∧ record.2 = reference) ∨
        (id ∉ server_ids records ∧
          acc.1.ri_v2_registry_snapshot.get? ("registry-v2:" ++ id) = some reference)
  rest : acc'.1 = { acc.1 with
    ri_v2_identities := acc'.1.ri_v2_identities
    ri_v2_endpoint_lookup := acc'.1.ri_v2_endpoint_lookup
    ri_v2_registry_snapshot := acc'.1.ri_v2_registry_snapshot }
  change : acc'.2 = true ↔ acc.2 = true ∨ ∃ record ∈ records, acc.1.same_semantics record = false

/-- What one record needs to be written. -/
theorem write_record_iff {record : IdentityRecord} {acc : EvidenceStore × Bool} :
    (∃ acc', write_record P record acc = .ok acc') ↔ FitsColumns record ∧
      HasKeys P record.1.endpoints ∧ (endpoint_keys P record.1.endpoints).Nodup ∧
      KeysFree P record acc.1 := by
  rw [keysFree_iff]
  unfold write_record
  simp only [bind_eq_ok, identity_row_eq_ok, sql_i64_eq_ok]
  constructor
  · intro h
    obtain ⟨_, columns, hcolumns, _, ⟨hversion, hgeneration, rfl⟩, s, hinsert, _,
      ⟨rfl, hheight⟩, _⟩ := h
    have hkeys := insert_endpoints_iff.mp ⟨s, hinsert⟩
    exact ⟨⟨⟨columns, hcolumns⟩, hversion, hgeneration, hheight⟩, hkeys⟩
  · intro h
    obtain ⟨⟨⟨columns, hcolumns⟩, hversion, hgeneration, hheight⟩, hkeys⟩ := h
    have hinsert : ∃ s, insert_endpoints P record.1.server_id record.1.endpoints
        (EvidenceStore.delete_endpoints { acc.1 with
          ri_v2_identities := acc.1.ri_v2_identities.upsert record.1.server_id
            (written_row record) } record.1.server_id) = .ok s := insert_endpoints_iff.mpr hkeys
    obtain ⟨s, hinsert⟩ := hinsert
    exact ⟨_, columns, hcolumns, _, ⟨hversion, hgeneration, rfl⟩, s, hinsert, _,
      ⟨rfl, hheight⟩, rfl⟩

theorem write_record_spec {record : IdentityRecord} {acc acc' : EvidenceStore × Bool}
    (h : write_record P record acc = .ok acc') : Written P [record] acc acc' := by
  have hfree := (write_record_iff.mp ⟨acc', h⟩).2.2.2
  unfold write_record at h
  obtain ⟨columns, _, h⟩ := bind_eq_ok.mp h
  obtain ⟨row, hrow, h⟩ := bind_eq_ok.mp h
  obtain ⟨s, hinsert, h⟩ := bind_eq_ok.mp h
  obtain ⟨_, _, h⟩ := bind_eq_ok.mp h
  obtain rfl := Except.ok.inj h
  obtain ⟨_, _, rfl⟩ := identity_row_eq_ok.mp hrow
  have hrest := insert_endpoints_identities hinsert
  have hidentities : s.ri_v2_identities =
      acc.1.ri_v2_identities.upsert record.1.server_id (written_row record) := by
    rw [hrest]
    rfl
  have hsnapshots : s.ri_v2_registry_snapshot = acc.1.ri_v2_registry_snapshot := by
    rw [hrest]
    rfl
  constructor
  · intro other hother
    obtain rfl := List.mem_singleton.mp hother
    show s.ri_v2_identities.get? _ = _
    rw [hidentities, RowTable.get?_upsert, if_pos rfl]
  · intro id hid
    show s.ri_v2_identities.get? _ = _
    rw [hidentities, RowTable.get?_upsert, if_neg (by simpa [server_ids] using hid)]
  · intro key owner
    show s.ri_v2_endpoint_lookup.get? key = some owner ↔ _
    rw [insert_endpoints_lookup hinsert]
    simp only [List.mem_singleton, exists_eq_left, server_ids, List.map_cons, List.map_nil]
    -- a key the record lists is its own now; it was free, or its own before
    by_cases hkey : key ∈ endpoint_keys P record.1.endpoints
    · rw [if_pos hkey]
      constructor
      · intro howner
        exact Or.inl ⟨Option.some.inj howner, hkey⟩
      · intro howner
        rcases howner with ⟨rfl, _⟩ | ⟨hne, hold⟩
        · rfl
        · exact absurd (hfree key hkey owner hold) hne
    · rw [if_neg hkey]
      show ((EvidenceStore.delete_endpoints _ _).ri_v2_endpoint_lookup.get? key = some owner) ↔ _
      -- any other key, unless the record owned it, stays where it was
      rw [get?_delete_endpoints]
      constructor
      · intro howner
        exact Or.inr ⟨howner.2, howner.1⟩
      · intro howner
        rcases howner with ⟨_, hmem⟩ | ⟨hne, hold⟩
        · exact absurd hmem hkey
        · exact ⟨hold, hne⟩
  · intro id reference
    show (RowTable.upsert s.ri_v2_registry_snapshot _ _).get? _ = _ ↔ _
    rw [hsnapshots, RowTable.get?_upsert]
    simp only [snapshot_key_inj, List.mem_singleton, exists_eq_left, server_ids, List.map_cons,
      List.map_nil]
    by_cases hid : id = record.1.server_id
    · rw [if_pos hid]
      simp [hid]
    · rw [if_neg hid]
      simp [hid, Ne.symm hid]
  · rw [hrest]
    rfl
  · simp

theorem same_semantics_congr {s s' : EvidenceStore} {record : IdentityRecord}
    (h : s'.ri_v2_identities.get? record.1.server_id =
      s.ri_v2_identities.get? record.1.server_id) :
    s'.same_semantics record = s.same_semantics record := by
  unfold same_semantics
  rw [h]

theorem write_records_spec {records : List IdentityRecord} :
    ∀ {acc acc' : EvidenceStore × Bool}, (server_ids records).Nodup →
      write_records P records acc = .ok acc' → Written P records acc acc' := by
  induction records with
  | nil =>
    intro acc acc' _ h
    obtain rfl := Except.ok.inj h
    exact ⟨by simp, fun _ _ => rfl, by simp [server_ids], by simp [server_ids], rfl, by simp⟩
  | cons record rest ih =>
    intro acc acc' hnodup h
    obtain ⟨hnew, hnodup⟩ := List.nodup_cons.mp hnodup
    rw [write_records] at h
    obtain ⟨acc₁, hfirst, h⟩ := bind_eq_ok.mp h
    have hone := write_record_spec hfirst
    have hrest := ih hnodup h
    have hids : ∀ id, id ∉ server_ids (record :: rest) ↔
        id ∉ server_ids [record] ∧ id ∉ server_ids rest := by
      intro id
      simp [server_ids]
    have hother : ∀ later ∈ rest, later.1.server_id ∉ server_ids [record] := by
      intro later hlater hsame
      refine hnew ?_
      rw [← List.mem_singleton.mp hsame]
      exact List.mem_map_of_mem hlater
    constructor
    · intro other hmem
      rcases List.mem_cons.mp hmem with rfl | hmem
      · -- the first record is not written over, the ids being distinct
        rw [hrest.kept _ hnew]
        exact hone.listed _ List.mem_cons_self
      · exact hrest.listed other hmem
    · intro id hid
      rw [hids] at hid
      rw [hrest.kept id hid.2, hone.kept id hid.1]
    · -- an endpoint belongs to the last record that lists it
      intro key owner
      rw [hrest.lookup, hone.lookup, hids]
      simp only [List.mem_singleton, exists_eq_left, List.exists_mem_cons_iff]
      constructor
      · intro h
        rcases h with hlisted | ⟨hout, ⟨hkey, howner⟩ | ⟨hone, hold⟩⟩
        · exact Or.inl (Or.inr hlisted)
        · exact Or.inl (Or.inl ⟨hkey, howner⟩)
        · exact Or.inr ⟨⟨hone, hout⟩, hold⟩
      · intro h
        rcases h with (⟨rfl, hkey⟩ | hlisted) | ⟨⟨hone, hout⟩, hold⟩
        · exact Or.inr ⟨hnew, Or.inl ⟨rfl, hkey⟩⟩
        · exact Or.inl hlisted
        · exact Or.inr ⟨hout, Or.inr ⟨hone, hold⟩⟩
    · intro id reference
      rw [hrest.snapshot, hone.snapshot, hids]
      simp only [List.mem_singleton, exists_eq_left, List.exists_mem_cons_iff]
      constructor
      · intro h
        rcases h with hlisted | ⟨hout, ⟨hid, hreference⟩ | ⟨hone, hold⟩⟩
        · exact Or.inl (Or.inr hlisted)
        · exact Or.inl (Or.inl ⟨hid, hreference⟩)
        · exact Or.inr ⟨⟨hone, hout⟩, hold⟩
      · intro h
        rcases h with (⟨rfl, hreference⟩ | hlisted) | ⟨⟨hone, hout⟩, hold⟩
        · exact Or.inr ⟨hnew, Or.inl ⟨rfl, hreference⟩⟩
        · exact Or.inl hlisted
        · exact Or.inr ⟨hout, Or.inr ⟨hone, hold⟩⟩
    · rw [hrest.rest, hone.rest]
    · -- whether a later record changes anything is seen in the store before all of them
      rw [hrest.change, hone.change, or_assoc]
      simp only [List.mem_singleton, exists_eq_left, List.exists_mem_cons_iff]
      refine or_congr_right (or_congr_right ?_)
      refine exists_congr (fun later => and_congr_right (fun hlater => ?_))
      rw [same_semantics_congr (hone.kept _ (hother later hlater))]

/-- Distinct records whose keys nobody else holds are written. -/
theorem write_records_succeeds {records : List IdentityRecord} :
    ∀ {acc : EvidenceStore × Bool}, (server_ids records).Nodup → (record_keys P records).Nodup →
      (∀ record ∈ records, FitsColumns record ∧ HasKeys P record.1.endpoints ∧
        KeysFree P record acc.1) → ∃ acc', write_records P records acc = .ok acc' := by
  induction records with
  | nil =>
    intro acc _ _ _
    exact ⟨acc, rfl⟩
  | cons record rest ih =>
    intro acc hids hkeys hrecords
    obtain ⟨hnew, hids⟩ := List.nodup_cons.mp hids
    have hsplit : record_keys P (record :: rest) =
        endpoint_keys P record.1.endpoints ++ record_keys P rest := rfl
    rw [hsplit, List.nodup_append] at hkeys
    obtain ⟨hnodup, hkeys, hdisjoint⟩ := hkeys
    obtain ⟨hfits, hhas, hfree⟩ := hrecords record List.mem_cons_self
    obtain ⟨acc₁, hfirst⟩ := write_record_iff.mpr ⟨hfits, hhas, hnodup, hfree⟩
    have hone := write_record_spec hfirst
    have hready : ∀ later ∈ rest, FitsColumns later ∧ HasKeys P later.1.endpoints ∧
        KeysFree P later acc₁.1 := by
      intro later hlater
      obtain ⟨hfits', hhas', hfree'⟩ := hrecords later (List.mem_cons_of_mem _ hlater)
      refine ⟨hfits', hhas', fun key hkey owner howner => ?_⟩
      rcases (hone.lookup key owner).mp howner with ⟨writer, hwriter, _, hkeyw⟩ | ⟨_, hold⟩
      · -- no two records share a key
        obtain rfl := List.mem_singleton.mp hwriter
        exact absurd rfl (hdisjoint key hkeyw key (mem_record_keys.mpr ⟨later, hlater, hkey⟩))
      · exact hfree' key hkey owner hold
    obtain ⟨acc', hrun⟩ := ih hids hkeys hready
    refine ⟨acc', ?_⟩
    rw [write_records, hfirst, ok_bind]
    exact hrun

end EvidenceStore

end ResolverIdentity.Store
