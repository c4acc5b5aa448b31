/-
  ResolverIdentity.Store.Records: records between two cache generations.

  Who reads an identity gets what its stored reference reads as.  A record read
  earlier is current as long as the row of that server still holds its identity
  and a reference of the same Registry state; checkpoint and source generation
  may move on.

  `StoreCall` collects the writes of the other clients of a store.  None of them
  supersedes a record without raising the cache generation.

  Main results:
    * `reread_of_same_state`: a reference of the state of one that was read
      reads as itself;
    * `apply_registry_snapshot_kept`: a snapshot without a semantic change leaves
      every record current;
    * `StoreCall.run_kept`: so does every write that keeps the generation;
    * `StoreCall.run_claimed`: what is claimed after a write was claimed before it.
-/
import ResolverIdentity.Store.Graphs
import ResolverIdentity.Store.Identities
import ResolverIdentity.Store.Traces

namespace ResolverIdentity

open Library

namespace RegistryReferenceV2

/-! ## §1. The state of a reference. -/

/-- The fields `same_registry_state` compares. -/
def registry_state (reference : RegistryReferenceV2) :
    (String × String × String × String × RegistryAdapterMetadataV2) ×
      String × String × Nat × String × String × String :=
  ((reference.chain_adapter, reference.chain_identity, reference.registry_locator,
      reference.registry_schema_hash, reference.adapter_metadata),
    reference.state_root, reference.object_hash, reference.object_version,
    reference.resolver_status, reference.root_status, reference.endpoint_binding_status)

theorem same_registry_state_iff {left right : RegistryReferenceV2} :
    same_registry_state left right = true ↔ registry_state left = registry_state right := by
  simp [same_registry_state, registry_state, and_assoc]

/-- What a stored reference reads as; one that does not read stands for itself. -/
def read_back (stored : RegistryReferenceV2) : RegistryReferenceV2 :=
  match stored.reread with
  | .ok reference => reference
  | .error _ => stored

theorem read_back_of_reread {stored reference : RegistryReferenceV2}
    (h : stored.reread = .ok reference) : stored.read_back = reference := by
  unfold read_back
  rw [h]

/-- Fields that agree with the metadata are not filled in again. -/
theorem reread_of_matches {reference reference' : RegistryReferenceV2}
    {finality_type : RegistryFinalityTypeV2}
    (hmatches : RegistryReferenceWire.target_matches_metadata reference.chain_adapter
      reference.chain_identity reference.registry_locator reference.registry_schema_hash
      finality_type reference.adapter_metadata = true)
    (h : reference.reread = .ok reference') : reference' = reference := by
  have hsame : ∀ text : String, RegistryReferenceWire.orDefault text text = text := by
    intro text
    unfold RegistryReferenceWire.orDefault
    exact ite_self text
  unfold reread deserialize at h
  obtain ⟨_, _, h⟩ := bind_eq_ok.mp h
  obtain ⟨metadata, hmetadata, h⟩ := bind_eq_ok.mp h
  obtain rfl := Except.ok.inj hmetadata
  obtain ⟨finality, hfinality, h⟩ := bind_eq_ok.mp h
  obtain rfl := Except.ok.inj hfinality
  obtain ⟨_, _, h⟩ := bind_eq_ok.mp h
  obtain rfl := Except.ok.inj h
  cases reference with
  | mk chain_adapter chain_identity registry_locator registry_schema_hash adapter_metadata =>
    cases adapter_metadata with
    | evm chain_id contract_address runtime_code_hash =>
      -- each default is the value the metadata prescribes anyway
      simp only [RegistryReferenceWire.target_matches_metadata, Bool.and_eq_true,
        decide_eq_true_eq] at hmatches
      obtain ⟨⟨⟨⟨rfl, rfl⟩, rfl⟩, rfl⟩, _⟩ := hmatches
      simp only [to_wire, hsame]
    | norn => rfl
    | external => rfl

/-- What was read agrees with its metadata. -/
theorem matches_of_reread {stored reference : RegistryReferenceV2}
    (h : stored.reread = .ok reference) :
    RegistryReferenceWire.target_matches_metadata reference.chain_adapter
      reference.chain_identity reference.registry_locator reference.registry_schema_hash
      reference.finality_type reference.adapter_metadata = true := by
  unfold reread deserialize at h
  obtain ⟨_, _, h⟩ := bind_eq_ok.mp h
  obtain ⟨metadata, _, h⟩ := bind_eq_ok.mp h
  obtain ⟨finality, _, h⟩ := bind_eq_ok.mp h
  obtain ⟨_, hmatches, h⟩ := bind_eq_ok.mp h
  obtain rfl := Except.ok.inj h
  rw [rejectIf_eq_ok, Bool.not_eq_false'] at hmatches
  exact hmatches

/-- A reference of the state of one that was read reads as itself, if it reads. -/
theorem reread_of_same_state {stored current reference : RegistryReferenceV2}
    (hread : stored.reread = .ok current)
    (hsame : same_registry_state current reference = true) : reference.read_back = reference := by
  have hmatches := matches_of_reread hread
  have hstate := same_registry_state_iff.mp hsame
  unfold registry_state at hstate
  simp only [Prod.mk.injEq] at hstate
  obtain ⟨⟨hadapter, hidentity, hlocator, hschema, hmetadata⟩, _⟩ := hstate
  rw [hadapter, hidentity, hlocator, hschema, hmetadata] at hmatches
  unfold read_back
  cases h : reference.reread with
  | ok reference' => exact reread_of_matches hmatches h
  | error _ => rfl

end RegistryReferenceV2

namespace Store

open RegistryReferenceV2

namespace EvidenceStore

/-! ## §2. Current records. -/

/-- The store still holds this identity, and a reference of this state. -/
def Current (s : EvidenceStore) (server_id : String) (record : IdentityRecord) : Prop :=
  ∃ row, s.ri_v2_identities.get? server_id = some row ∧ row.identity_json = record.1 ∧
    same_registry_state row.registry_json.read_back record.2 = true

/-- What `get_identity` answers is current. -/
theorem current_of_get_identity {s : EvidenceStore} {server_id : String} {record : IdentityRecord}
    (h : s.get_identity server_id = .ok (some record)) : s.Current server_id record := by
  unfold get_identity at h
  cases hget : s.ri_v2_identities.get? server_id with
  | none =>
    rw [hget] at h
    cases h
  | some row =>
    rw [hget] at h
    obtain ⟨registry, hdecode, h⟩ := bind_eq_ok.mp h
    obtain rfl := Option.some.inj (Except.ok.inj h)
    refine ⟨row, hget, rfl, ?_⟩
    rw [read_back_of_reread (decode_reference_eq_ok.mp hdecode)]
    exact same_registry_state_iff.mpr rfl

/-- Every row is still there, with its identity and the state of its reference. -/
def StatesKept (s s' : EvidenceStore) : Prop :=
  ∀ server_id row, s.ri_v2_identities.get? server_id = some row →
    ∃ row', s'.ri_v2_identities.get? server_id = some row' ∧
      row'.identity_json = row.identity_json ∧
      registry_state row'.registry_json.read_back = registry_state row.registry_json.read_back

theorem StatesKept.of_eq {s s' : EvidenceStore} (h : s'.ri_v2_identities = s.ri_v2_identities) :
    StatesKept s s' := by
  intro server_id row hrow
  exact ⟨row, by rw [h]; exact hrow, rfl, rfl⟩

theorem StatesKept.trans {s s₁ s' : EvidenceStore} (h : StatesKept s s₁) (h₁ : StatesKept s₁ s') :
    StatesKept s s' := by
  intro server_id row hrow
  obtain ⟨row₁, hrow₁, hidentity₁, hstate₁⟩ := h server_id row hrow
  obtain ⟨row', hrow', hidentity, hstate⟩ := h₁ server_id row₁ hrow₁
  exact ⟨row', hrow', hidentity.trans hidentity₁, hstate.trans hstate₁⟩

theorem Current.kept {s s' : EvidenceStore} {server_id : String} {record : IdentityRecord}
    (h : s.Current server_id record) (hkept : StatesKept s s') : s'.Current server_id record := by
  obtain ⟨row, hrow, hidentity, hstate⟩ := h
  obtain ⟨row', hrow', hidentity', hstate'⟩ := hkept server_id row hrow
  refine ⟨row', hrow', hidentity'.trans hidentity, ?_⟩
  rw [same_registry_state_iff, hstate']
  exact same_registry_state_iff.mp hstate

/-- A reference of the state already stored takes its place. -/
theorem StatesKept.of_replace {s s' : EvidenceStore} {server_id : String} {row : IdentityRow}
    {current : RegistryReferenceV2} (row' : IdentityRow) (hrow : s.ri_v2_identities.get? server_id = some row)
    (hread : row.registry_json.reread = .ok current)
    (hsame : same_registry_state current row'.registry_json = true)
    (hidentity : row'.identity_json = row.identity_json)
    (h : ∀ key, s'.ri_v2_identities.get? key =
      if key = server_id then some row' else s.ri_v2_identities.get? key) :
    StatesKept s s' := by
  intro key found hfound
  by_cases hkey : key = server_id
  · rw [hkey, hrow] at hfound
    obtain rfl := Option.some.inj hfound
    refine ⟨row', by rw [h, if_pos hkey], hidentity, ?_⟩
    rw [reread_of_same_state hread hsame, read_back_of_reread hread]
    exact (same_registry_state_iff.mp hsame).symm
  · exact ⟨found, by rw [h, if_neg hkey]; exact hfound, rfl, rfl⟩

/-! ## §3. Generations. -/

/-- Graphs go and none comes, the generation does not fall, and while it stays every
record stays current. -/
structure RecordsKept (s s' : EvidenceStore) : Prop where
  graphs : ∀ row ∈ s'.ri_v2_evidence_graphs.rows, row ∈ s.ri_v2_evidence_graphs.rows
  generation : s.cache_generation ≤ s'.cache_generation
  records : s'.cache_generation = s.cache_generation → s.cache_generation < U64_MAX →
    StatesKept s s'

theorem RecordsKept.of_states {s s' : EvidenceStore} (hstates : StatesKept s s')
    (hgeneration : s'.cache_generation = s.cache_generation)
    (hgraphs : s'.ri_v2_evidence_graphs = s.ri_v2_evidence_graphs) : RecordsKept s s' where
  graphs := by
    rw [hgraphs]
    exact fun _ hrow => hrow
  generation := hgeneration ▸ le_rfl
  records := fun _ _ => hstates

theorem RecordsKept.refl (s : EvidenceStore) : RecordsKept s s :=
  .of_states (.of_eq rfl) rfl rfl

/-- Whatever a transaction did to the records, a bump at its end raises the generation. -/
theorem RecordsKept.of_bump {s s₁ : EvidenceStore}
    (hgeneration : s₁.cache_generation = s.cache_generation)
    (hgraphs : s₁.ri_v2_evidence_graphs = s.ri_v2_evidence_graphs) :
    RecordsKept s s₁.bump_generation.2 := by
  rcases s₁.bump_generation_cases with ⟨_, heq⟩ | ⟨hmax, heq⟩
  · rw [heq]
    have hnext : ({ s₁ with
        ri_v2_meta := { s₁.ri_v2_meta with cache_generation := s₁.cache_generation + 1 }
        ri_v2_evidence_graphs := .empty } : EvidenceStore).cache_generation =
        s.cache_generation + 1 := congrArg (· + 1) hgeneration
    refine ⟨fun row hrow => (nomatch hrow), by omega, fun hsame _ => ?_⟩
    omega
  · -- the largest generation stays
    rw [heq]
    refine ⟨?_, hgeneration ▸ le_rfl, fun _ hlt => ?_⟩
    · rw [hgraphs]
      exact fun _ hrow => hrow
    · omega

/-- Only the generation of the metadata counts. -/
theorem RecordsKept.with_meta {s s' : EvidenceStore} (h : RecordsKept s s') {m : Meta}
    (hm : m.cache_generation = s'.cache_generation) :
    RecordsKept s { s' with ri_v2_meta := m } where
  graphs := h.graphs
  generation := le_of_le_of_eq h.generation hm.symm
  records := fun hsame hlt => h.records (hm.symm.trans hsame) hlt

theorem RecordsKept.fewer_graphs {s s' : EvidenceStore} (h : RecordsKept s s')
    {table : RowTable String GraphRow}
    (hsub : ∀ row ∈ table.rows, row ∈ s'.ri_v2_evidence_graphs.rows) :
    RecordsKept s { s' with ri_v2_evidence_graphs := table } where
  graphs := fun row hrow => h.graphs row (hsub row hrow)
  generation := h.generation
  records := h.records

/-! ## §4. The writes of one identity. -/

variable {P : Platform} {s s' : EvidenceStore}

/-- A rolled back transaction keeps everything. -/
theorem RecordsKept.of_transaction {α : Type} {body : Body EvidenceStore StoreError α}
    (h : ∀ a s', body s = .ok (a, s') → RecordsKept s s') :
    RecordsKept s (transaction body s).2 := by
  rcases transaction_snd body s with ⟨a, s', hbody, hs'⟩ | ⟨_, _, hs'⟩
  · rw [hs']
    exact h a s' hbody
  · rw [hs']
    exact .refl s

/-- An unchanged record has a row that reads as its identity and state. -/
theorem stored_unchanged_eq_ok {identity : DnsServerIdentityV2} {registry : RegistryReferenceV2}
    (h : s.stored_unchanged identity registry = .ok true) :
    ∃ row current, s.ri_v2_identities.get? identity.server_id = some row ∧
      row.identity_json = identity ∧ row.registry_json.reread = .ok current ∧
      same_registry_state current registry = true := by
  unfold stored_unchanged at h
  cases hget : s.ri_v2_identities.get? identity.server_id with
  | none =>
    rw [hget] at h
    cases h
  | some row =>
    rw [hget] at h
    by_cases hidentity : row.identity_json = identity
    · simp only [if_pos hidentity] at h
      obtain ⟨current, hdecode, h⟩ := bind_eq_ok.mp h
      exact ⟨row, current, rfl, hidentity, decode_reference_eq_ok.mp hdecode, Except.ok.inj h⟩
    · simp only [if_neg hidentity] at h
      cases h

theorem put_identity_kept (P : Platform) (identity : DnsServerIdentityV2)
    (registry : RegistryReferenceV2) (s : EvidenceStore) :
    RecordsKept s (s.put_identity P identity registry).2 := by
  refine RecordsKept.of_transaction ?_
  intro _ s' h
  unfold put_identity_body at h
  obtain ⟨_, _, h⟩ := bind_eq_ok.mp h
  obtain ⟨row, _, h⟩ := bind_eq_ok.mp h
  obtain ⟨_, _, h⟩ := bind_eq_ok.mp h
  obtain ⟨unchanged, hunchanged, h⟩ := bind_eq_ok.mp h
  cases unchanged with
  | true =>
    obtain ⟨stored, current, hget, hidentity, hread, hsame⟩ := stored_unchanged_eq_ok hunchanged
    obtain ⟨_, rfl⟩ := Prod.mk.inj (Except.ok.inj h)
    refine .of_states ?_ rfl rfl
    refine .of_replace { stored with
        registry_json := registry, snapshot_generation := row.snapshot_generation }
      hget hread hsame rfl ?_
    intro key
    show (s.ri_v2_identities.update identity.server_id _).get? key = _
    rw [RowTable.get?_update]
    by_cases hkey : key = identity.server_id
    · rw [if_pos hkey, if_pos hkey, hkey, hget]
      rfl
    · rw [if_neg hkey, if_neg hkey]
  | false =>
    obtain ⟨s₁, hinsert, h⟩ := bind_eq_ok.mp h
    obtain ⟨_, rfl⟩ := Prod.mk.inj (Except.ok.inj h)
    have hrest := insert_endpoints_identities hinsert
    refine .of_bump ?_ ?_
    · rw [hrest]
      rfl
    · rw [hrest]
      rfl

theorem quarantine_record_kept (record : IdentityRecord) (status : String) (s : EvidenceStore) :
    RecordsKept s (s.quarantine_record record status).2 := by
  unfold quarantine_record
  split
  · exact .refl s
  · exact .of_bump rfl rfl

/-! ## §5. Registry snapshots. -/

/-- Generation and graphs are those of `s`; without a semantic change so are the states. -/
structure Rewriting (s : EvidenceStore) (acc : EvidenceStore × Bool) : Prop where
  generation : acc.1.cache_generation = s.cache_generation
  graphs : acc.1.ri_v2_evidence_graphs = s.ri_v2_evidence_graphs
  states : acc.2 = false → StatesKept s acc.1

theorem Rewriting.start (s : EvidenceStore) : Rewriting s (s, false) :=
  ⟨rfl, rfl, fun _ => .of_eq rfl⟩

theorem Rewriting.remove_identity {server_id : String} {acc acc' : EvidenceStore × Bool}
    (h : Rewriting s acc) (hremove : remove_identity server_id acc = .ok acc') :
    Rewriting s acc' := by
  unfold EvidenceStore.remove_identity at hremove
  obtain ⟨mid, hmid, hremove⟩ := bind_eq_ok.mp hremove
  obtain rfl := Except.ok.inj hremove
  rcases mark_removed_cases hmid with rfl | ⟨row, reference, _, _, rfl⟩
  · exact ⟨h.generation, h.graphs, fun hflag => (h.states hflag).trans (.of_eq rfl)⟩
  · -- a row was marked, which is a change
    exact ⟨h.generation, h.graphs, fun hflag => (nomatch hflag)⟩

theorem Rewriting.remove_missing {configured_ids ids : List String} :
    ∀ {acc acc' : EvidenceStore × Bool}, Rewriting s acc →
      remove_missing configured_ids ids acc = .ok acc' → Rewriting s acc' := by
  induction ids with
  | nil =>
    intro acc acc' h hrun
    obtain rfl := Except.ok.inj hrun
    exact h
  | cons server_id rest ih =>
    intro acc acc' h hrun
    rw [EvidenceStore.remove_missing] at hrun
    split at hrun
    case isTrue => exact ih h hrun
    case isFalse =>
      obtain ⟨mid, hmid, hrun⟩ := bind_eq_ok.mp hrun
      exact ih (h.remove_identity hmid) hrun

/-- A record with the stored semantics has a row that reads as its identity and state. -/
theorem same_semantics_eq_true {record : IdentityRecord} (h : s.same_semantics record = true) :
    ∃ row current, s.ri_v2_identities.get? record.1.server_id = some row ∧
      row.identity_json = record.1 ∧ row.registry_json.reread = .ok current ∧
      same_registry_state current record.2 = true := by
  unfold same_semantics at h
  cases hget : s.ri_v2_identities.get? record.1.server_id with
  | none =>
    rw [hget] at h
    cases h
  | some row =>
    rw [hget] at h
    cases hdecode : decode_reference row.registry_json with
    | error e =>
      simp only [hdecode] at h
      cases h
    | ok current =>
      simp only [hdecode, Bool.and_eq_true, decide_eq_true_eq] at h
      exact ⟨row, current, rfl, h.1, decode_reference_eq_ok.mp hdecode, h.2⟩

theorem Rewriting.write_record {record : IdentityRecord} {acc acc' : EvidenceStore × Bool}
    (h : Rewriting s acc) (hwrite : write_record P record acc = .ok acc') : Rewriting s acc' := by
  obtain ⟨hflag, hmeta, hgraphs, row', hidentity', hregistry', hids⟩ := write_record_eq_ok hwrite
  refine ⟨?_, hgraphs.trans h.graphs, fun hfalse => ?_⟩
  · exact (congrArg Meta.cache_generation hmeta).trans h.generation
  · rw [hfalse] at hflag
    obtain ⟨hbefore, hsemantics⟩ := Bool.or_eq_false_iff.mp hflag.symm
    rw [Bool.not_eq_false'] at hsemantics
    obtain ⟨row, current, hget, hidentity, hread, hsame⟩ := same_semantics_eq_true hsemantics
    refine (h.states hbefore).trans (.of_replace row' hget hread ?_ ?_ ?_)
    · rw [hregistry']
      exact hsame
    · rw [hidentity', hidentity]
    · intro key
      rw [hids]
      exact RowTable.get?_upsert _ _ _ _

theorem Rewriting.write_records {records : List IdentityRecord} :
    ∀ {acc acc' : EvidenceStore × Bool}, Rewriting s acc →
      write_records P records acc = .ok acc' → Rewriting s acc' := by
  induction records with
  | nil =>
    intro acc acc' h hrun
    obtain rfl := Except.ok.inj hrun
    exact h
  | cons record rest ih =>
    intro acc acc' h hrun
    rw [EvidenceStore.write_records] at hrun
    obtain ⟨mid, hmid, hrun⟩ := bind_eq_ok.mp hrun
    exact ih (h.write_record hmid) hrun

/-- A snapshot without a semantic change keeps every record current, one with a change
raises the generation. -/
theorem apply_registry_snapshot_kept (P : Platform) (records : List IdentityRecord)
    (success_epoch : Int) (s : EvidenceStore) :
    RecordsKept s (s.apply_registry_snapshot P records success_epoch).2 := by
  cases hrun : s.apply_registry_snapshot P records success_epoch with
  | mk outcome s' =>
    cases outcome with
    | error e =>
      rw [transaction_error hrun]
      exact .refl s
    | ok generation =>
      obtain ⟨identity, first, rest, ids, acc, s₁, change, _, _, _, hremove, hwrite, rfl⟩ :=
        apply_registry_snapshot_eq_ok hrun
      have hrewriting := ((Rewriting.start s).remove_missing hremove).write_records hwrite
      cases change with
      | true =>
        exact (RecordsKept.of_bump hrewriting.generation hrewriting.graphs).with_meta rfl
      | false =>
        exact (RecordsKept.of_states (hrewriting.states rfl) hrewriting.generation
          hrewriting.graphs).with_meta rfl

/-! ## §6. What the Registry's writes leave alone. -/

/-- Events, contexts and claims are the same. -/
structure TracesKept (s s' : EvidenceStore) : Prop where
  events : s'.ri_v2_trace_events = s.ri_v2_trace_events
  contexts : s'.ri_v2_query_contexts = s.ri_v2_query_contexts
  claims : s'.ri_v2_trace_event_claims = s.ri_v2_trace_event_claims

theorem TracesKept.refl (s : EvidenceStore) : TracesKept s s := ⟨rfl, rfl, rfl⟩

theorem TracesKept.trans {s₁ : EvidenceStore} (h : TracesKept s s₁) (h₁ : TracesKept s₁ s') :
    TracesKept s s' :=
  ⟨h₁.events.trans h.events, h₁.contexts.trans h.contexts, h₁.claims.trans h.claims⟩

theorem bump_generation_traces (s : EvidenceStore) : TracesKept s s.bump_generation.2 := by
  rcases s.bump_generation_cases with ⟨_, heq⟩ | ⟨_, heq⟩
  · rw [heq]
    exact ⟨rfl, rfl, rfl⟩
  · rw [heq]
    exact .refl s

theorem insert_endpoints_traces {server_id : String} {endpoints : List DnsEndpoint}
    (h : insert_endpoints P server_id endpoints s = .ok s') : TracesKept s s' := by
  rw [insert_endpoints_identities h]
  exact ⟨rfl, rfl, rfl⟩

theorem put_identity_traces (P : Platform) (identity : DnsServerIdentityV2)
    (registry : RegistryReferenceV2) (s : EvidenceStore) :
    TracesKept s (s.put_identity P identity registry).2 := by
  rcases transaction_snd (put_identity_body P identity registry) s with
    ⟨_, s', h, hs'⟩ | ⟨_, _, hs'⟩
  · rw [show (s.put_identity P identity registry).2 = s' from hs']
    unfold put_identity_body at h
    obtain ⟨_, _, h⟩ := bind_eq_ok.mp h
    obtain ⟨row, _, h⟩ := bind_eq_ok.mp h
    obtain ⟨_, _, h⟩ := bind_eq_ok.mp h
    obtain ⟨unchanged, _, h⟩ := bind_eq_ok.mp h
    cases unchanged with
    | true =>
      obtain ⟨_, rfl⟩ := Prod.mk.inj (Except.ok.inj h)
      exact ⟨rfl, rfl, rfl⟩
    | false =>
      obtain ⟨s₁, hinsert, h⟩ := bind_eq_ok.mp h
      obtain ⟨_, rfl⟩ := Prod.mk.inj (Except.ok.inj h)
      have hinserted := insert_endpoints_traces hinsert
      exact TracesKept.trans ⟨hinserted.events, hinserted.contexts, hinserted.claims⟩
        (bump_generation_traces s₁)
  · rw [show (s.put_identity P identity registry).2 = s from hs']
    exact .refl s

theorem quarantine_record_traces (record : IdentityRecord) (status : String) (s : EvidenceStore) :
    TracesKept s (s.quarantine_record record status).2 := by
  unfold quarantine_record
  split
  · exact .refl s
  · exact ⟨(bump_generation_traces _).events, (bump_generation_traces _).contexts,
      (bump_generation_traces _).claims⟩

theorem remove_missing_traces {configured_ids ids : List String} :
    ∀ {acc acc' : EvidenceStore × Bool},
      remove_missing configured_ids ids acc = .ok acc' → TracesKept acc.1 acc'.1 := by
  induction ids with
  | nil =>
    intro acc acc' h
    obtain rfl := Except.ok.inj h
    exact .refl _
  | cons server_id rest ih =>
    intro acc acc' h
    rw [EvidenceStore.remove_missing] at h
    split at h
    case isTrue => exact ih h
    case isFalse =>
      obtain ⟨mid, hmid, h⟩ := bind_eq_ok.mp h
      refine TracesKept.trans ?_ (ih h)
      unfold EvidenceStore.remove_identity at hmid
      obtain ⟨marked, hmarked, hmid⟩ := bind_eq_ok.mp hmid
      obtain rfl := Except.ok.inj hmid
      rcases mark_removed_cases hmarked with rfl | ⟨row, reference, _, _, rfl⟩
      · exact ⟨rfl, rfl, rfl⟩
      · exact ⟨rfl, rfl, rfl⟩

theorem write_records_traces {records : List IdentityRecord} :
    ∀ {acc acc' : EvidenceStore × Bool},
      write_records P records acc = .ok acc' → TracesKept acc.1 acc'.1 := by
  induction records with
  | nil =>
    intro acc acc' h
    obtain rfl := Except.ok.inj h
    exact .refl _
  | cons record rest ih =>
    intro acc acc' h
    rw [EvidenceStore.write_records] at h
    obtain ⟨mid, hmid, h⟩ := bind_eq_ok.mp h
    refine TracesKept.trans ?_ (ih h)
    unfold EvidenceStore.write_record at hmid
    obtain ⟨_, _, hmid⟩ := bind_eq_ok.mp hmid
    obtain ⟨row, _, hmid⟩ := bind_eq_ok.mp hmid
    obtain ⟨s₁, hinsert, hmid⟩ := bind_eq_ok.mp hmid
    obtain ⟨_, _, hmid⟩ := bind_eq_ok.mp hmid
    obtain rfl := Except.ok.inj hmid
    have hinserted := insert_endpoints_traces hinsert
    exact ⟨hinserted.events, hinserted.contexts, hinserted.claims⟩

theorem apply_registry_snapshot_traces (P : Platform) (records : List IdentityRecord)
    (success_epoch : Int) (s : EvidenceStore) :
    TracesKept s (s.apply_registry_snapshot P records success_epoch).2 := by
  cases hrun : s.apply_registry_snapshot P records success_epoch with
  | mk outcome s' =>
    cases outcome with
    | error e =>
      rw [transaction_error hrun]
      exact .refl s
    | ok generation =>
      obtain ⟨identity, first, rest, ids, acc, s₁, change, _, _, _, hremove, hwrite, rfl⟩ :=
        apply_registry_snapshot_eq_ok hrun
      have hwritten := (remove_missing_traces hremove).trans (write_records_traces hwrite)
      cases change with
      | true =>
        have hbumped := hwritten.trans (bump_generation_traces s₁)
        exact ⟨hbumped.events, hbumped.contexts, hbumped.claims⟩
      | false => exact ⟨hwritten.events, hwritten.contexts, hwritten.claims⟩

theorem invalidate_all_traces (s : EvidenceStore) : TracesKept s s.invalidate_all.2 :=
  (bump_generation_traces s).trans ⟨rfl, rfl, rfl⟩

/-- The foreign key of the claims: every claimed event is stored. -/
def ClaimsStored (s : EvidenceStore) : Prop :=
  ∀ event_id owner, s.ri_v2_trace_event_claims.get? event_id = some owner →
    ∃ event, s.ri_v2_trace_events.get? event_id = some event

/-- The event is claimed under this request trace. -/
def ClaimedEvent (s : EvidenceStore) (request_trace_id event_id : String) (event : TraceEventV2) :
    Prop :=
  s.ri_v2_trace_event_claims.get? event_id = some request_trace_id ∧
    s.ri_v2_trace_events.get? event_id = some event

/-- The foreign key still holds, and nothing is claimed that was not. -/
structure ClaimsKept (s s' : EvidenceStore) : Prop where
  stored : ClaimsStored s'
  claimed : ∀ request_trace_id event_id event, ClaimedEvent s' request_trace_id event_id event →
    ClaimedEvent s request_trace_id event_id event

theorem TracesKept.claims_kept (h : TracesKept s s') (hstored : ClaimsStored s) :
    ClaimsKept s s' where
  stored := by
    unfold ClaimsStored
    rw [h.claims, h.events]
    exact hstored
  claimed := by
    unfold ClaimedEvent
    rw [h.claims, h.events]
    exact fun _ _ _ hclaimed => hclaimed

/-- New events have ids that nothing is claimed under. -/
theorem TracesAppended.claims_kept {events : List TraceEventV2}
    {added : List (Row String TraceEventV2)} (h : TracesAppended events s s' added)
    (hstored : ClaimsStored s) : ClaimsKept s s' := by
  have hclaims : s'.ri_v2_trace_event_claims = s.ri_v2_trace_event_claims := by rw [h.rest]
  have hkept : ∀ event_id event, s.ri_v2_trace_events.get? event_id = some event →
      s'.ri_v2_trace_events.get? event_id = some event := by
    intro event_id event hget
    obtain ⟨row, hrow, rfl, rfl⟩ := RowTable.get?_eq_some_iff.mp hget
    refine RowTable.get?_of_mem ?_
    rw [h.rows]
    exact List.mem_append_left _ hrow
  constructor
  · intro event_id owner hclaim
    rw [hclaims] at hclaim
    obtain ⟨event, hget⟩ := hstored event_id owner hclaim
    exact ⟨event, hkept event_id event hget⟩
  · intro request_trace_id event_id event hclaimed
    obtain ⟨hclaim, hget⟩ := hclaimed
    rw [hclaims] at hclaim
    obtain ⟨old, hold⟩ := hstored event_id request_trace_id hclaim
    refine ⟨hclaim, ?_⟩
    rw [hold]
    exact (hkept event_id old hold).symm.trans hget

theorem purge_trace_events_claims_kept (observed_before : Int) (hstored : ClaimsStored s) :
    ClaimsKept s (s.purge_trace_events observed_before) := by
  constructor
  · intro event_id owner hclaim
    obtain ⟨hclaim, hstays⟩ := claim_of_purge.mp hclaim
    obtain ⟨event, hget⟩ := hstored event_id owner hclaim
    refine ⟨event, ?_⟩
    show (s.ri_v2_trace_events.deleteWhere _).get? event_id = some event
    rw [RowTable.get?_deleteWhere_eq_some]
    exact ⟨hget, decide_eq_false (hstays event hget)⟩
  · intro request_trace_id event_id event hclaimed
    obtain ⟨hclaim, hget⟩ := hclaimed
    refine ⟨(claim_of_purge.mp hclaim).1, ?_⟩
    have hget : (s.ri_v2_trace_events.deleteWhere (fun _ event =>
        event.observed_at < observed_before)).get? event_id = some event := hget
    exact (RowTable.get?_deleteWhere_eq_some.mp hget).1

/-! ## §7. Every call of another client. -/

theorem invalidate_all_kept (s : EvidenceStore) : RecordsKept s s.invalidate_all.2 :=
  (RecordsKept.of_bump rfl rfl).fewer_graphs (fun _ hrow => (nomatch hrow))

/-- `mark_registry_sync_success`. -/
def mark_registry_sync_success (epoch : Int) (s : EvidenceStore) :
    Except StoreError Unit × EvidenceStore :=
  if epoch ≤ 0 then (.error (.invalidData "registry sync epoch must be positive"), s)
  else (.ok (), { s with
    ri_v2_meta := { s.ri_v2_meta with registry_last_success_epoch := epoch } })

end EvidenceStore

open EvidenceStore

/-- A write to the store by another client than a build. -/
inductive StoreCall where
  | put_trace_events (events : List TraceEventV2)
  | register_query_context (request_trace_id correlation_id query_digest : String)
      (registered_at expires_at : Int)
  | put_identity (identity : DnsServerIdentityV2) (registry : RegistryReferenceV2)
  /-- The transaction of `quarantine_identity`, for a record read at some time before. -/
  | quarantine_record (record : IdentityRecord) (status : String)
  | apply_registry_snapshot (records : List IdentityRecord) (success_epoch : Int)
  | mark_registry_sync_success (epoch : Int)
  | invalidate_all
  | purge_expired (now : Int)
  | purge_trace_events (observed_before : Int)
  | purge_query_contexts (now : Int)

namespace StoreCall

/-- A call, carried out. -/
def run (P : Platform) : StoreCall → EvidenceStore → EvidenceStore
  | .put_trace_events events, s => (s.put_trace_events events).2
  | .register_query_context request_trace_id correlation_id query_digest registered_at expires_at,
      s =>
    (s.register_query_context request_trace_id correlation_id query_digest registered_at
      expires_at).2
  | .put_identity identity registry, s => (s.put_identity P identity registry).2
  | .quarantine_record record status, s => (s.quarantine_record record status).2
  | .apply_registry_snapshot records success_epoch, s =>
    (s.apply_registry_snapshot P records success_epoch).2
  | .mark_registry_sync_success epoch, s => (s.mark_registry_sync_success epoch).2
  | .invalidate_all, s => s.invalidate_all.2
  | .purge_expired now, s => s.purge_expired now
  | .purge_trace_events observed_before, s => s.purge_trace_events observed_before
  | .purge_query_contexts now, s => s.purge_query_contexts now

/-- No call brings a graph, and none supersedes a record under its generation. -/
theorem run_kept (P : Platform) (call : StoreCall) (s : EvidenceStore) :
    RecordsKept s (call.run P s) := by
  cases call with
  | put_trace_events events =>
    obtain ⟨_, happended⟩ := put_trace_events_appends events s
    show RecordsKept s (s.put_trace_events events).2
    rw [happended.rest]
    exact .of_states (.of_eq rfl) rfl rfl
  | register_query_context request_trace_id correlation_id query_digest registered_at expires_at =>
    show RecordsKept s (s.register_query_context request_trace_id correlation_id query_digest
      registered_at expires_at).2
    rcases s.register_query_context_cases request_trace_id correlation_id query_digest
        registered_at expires_at with ⟨_, heq⟩ | ⟨_, heq, _⟩
    · rw [heq]
      exact .refl s
    · rw [heq]
      exact .of_states (.of_eq rfl) rfl rfl
  | put_identity identity registry => exact put_identity_kept P identity registry s
  | quarantine_record record status => exact quarantine_record_kept record status s
  | apply_registry_snapshot records success_epoch =>
    exact apply_registry_snapshot_kept P records success_epoch s
  | mark_registry_sync_success epoch =>
    show RecordsKept s (s.mark_registry_sync_success epoch).2
    unfold EvidenceStore.mark_registry_sync_success
    split
    · exact .refl s
    · exact (RecordsKept.refl s).with_meta rfl
  | invalidate_all => exact invalidate_all_kept s
  | purge_expired now =>
    exact (RecordsKept.refl s).fewer_graphs (fun row hrow => (RowTable.mem_deleteWhere.mp hrow).1)
  | purge_trace_events observed_before => exact .of_states (.of_eq rfl) rfl rfl
  | purge_query_contexts now => exact .of_states (.of_eq rfl) rfl rfl

/-- A call claims nothing, and no claim loses its event. -/
theorem run_claimed (P : Platform) (call : StoreCall) {s : EvidenceStore}
    (hstored : ClaimsStored s) : ClaimsKept s (call.run P s) := by
  cases call with
  | put_trace_events events =>
    obtain ⟨_, happended⟩ := put_trace_events_appends events s
    exact happended.claims_kept hstored
  | register_query_context request_trace_id correlation_id query_digest registered_at expires_at =>
    show ClaimsKept s (s.register_query_context request_trace_id correlation_id query_digest
      registered_at expires_at).2
    rcases s.register_query_context_cases request_trace_id correlation_id query_digest
        registered_at expires_at with ⟨_, heq⟩ | ⟨_, heq, _⟩
    · rw [heq]
      exact ⟨hstored, fun _ _ _ hclaimed => hclaimed⟩
    · rw [heq]
      exact ⟨hstored, fun _ _ _ hclaimed => hclaimed⟩
  | put_identity identity registry =>
    exact (put_identity_traces P identity registry s).claims_kept hstored
  | quarantine_record record status =>
    exact (quarantine_record_traces record status s).claims_kept hstored
  | apply_registry_snapshot records success_epoch =>
    exact (apply_registry_snapshot_traces P records success_epoch s).claims_kept hstored
  | mark_registry_sync_success epoch =>
    show ClaimsKept s (s.mark_registry_sync_success epoch).2
    unfold EvidenceStore.mark_registry_sync_success
    split
    · exact ⟨hstored, fun _ _ _ hclaimed => hclaimed⟩
    · exact ⟨hstored, fun _ _ _ hclaimed => hclaimed⟩
  | invalidate_all => exact (invalidate_all_traces s).claims_kept hstored
  | purge_expired now => exact ⟨hstored, fun _ _ _ hclaimed => hclaimed⟩
  | purge_trace_events observed_before =>
    exact purge_trace_events_claims_kept observed_before hstored
  | purge_query_contexts now => exact ⟨hstored, fun _ _ _ hclaimed => hclaimed⟩

end StoreCall

end Store

end ResolverIdentity
