/-
  ResolverIdentity.Store.Interleavings: writes of identities, one transaction at a time.

  `put_identity` and `apply_registry_snapshot` read and write in one transaction.
  `quarantine_identity` reads the record on one connection and writes it back on
  another, so any number of other writes can come in between.

  `completed` is not state of the source: it lists the calls that are done, in the
  order of their last steps.  A quarantine that finds nothing to do is done when it
  has read.

  Main results:
    * `IdentityCall.run_regenerated`: generation and graphs decide nothing here;
    * `quarantine_write_serial`: a write whose record is still the stored one does
      what an uninterrupted call would do;
    * `serializable_along`: where every write is of this kind, the rows are those of
      a serial order, and each of them is consistent.
-/
import ResolverIdentity.Library.Machine
import ResolverIdentity.Store.RecordOrder

namespace ResolverIdentity.Store

open Library RegistryReferenceV2

namespace EvidenceStore

/-- `quarantine_identity`, uninterrupted. -/
def quarantine_identity (server_id status : String) (s : EvidenceStore) :
    Except StoreError Bool × EvidenceStore :=
  match s.get_identity server_id with
  | .error e => (.error e, s)
  | .ok none => (.ok false, s)
  | .ok (some record) => s.quarantine_record record status

end EvidenceStore

open EvidenceStore

/-! ## §1. Runs. -/

/-- The calls that write identities. -/
inductive IdentityCall where
  | put_identity (identity : DnsServerIdentityV2) (registry : RegistryReferenceV2)
  | apply_registry_snapshot (records : List IdentityRecord) (success_epoch : Int)
  | quarantine_identity (server_id status : String)

/-- A call that nothing comes between. -/
def IdentityCall.run (P : Platform) : IdentityCall → EvidenceStore → EvidenceStore
  | .put_identity identity registry, s => (s.put_identity P identity registry).2
  | .apply_registry_snapshot records success_epoch, s =>
    (s.apply_registry_snapshot P records success_epoch).2
  | .quarantine_identity server_id status, s => (s.quarantine_identity server_id status).2

/-- The calls one after the other. -/
def run_serial (P : Platform) (calls : List IdentityCall) (s : EvidenceStore) : EvidenceStore :=
  calls.foldl (fun s call => call.run P s) s

/-- A quarantine between its read and its write. -/
structure PendingQuarantine where
  server_id : String
  status : String
  record : IdentityRecord

/-- The store between two statements of its callers. -/
structure InterleavingState where
  store : EvidenceStore
  pending : List PendingQuarantine
  completed : List IdentityCall

/-- One statement or one transaction of a call. -/
inductive InterleavingStep where
  | put_identity (identity : DnsServerIdentityV2) (registry : RegistryReferenceV2)
  | apply_registry_snapshot (records : List IdentityRecord) (success_epoch : Int)
  /-- `get_identity` of a quarantine. -/
  | quarantine_read (server_id status : String)
  /-- The transaction of the quarantine at this place of `pending`. -/
  | quarantine_write (index : Nat)

/-- What a quarantine that has read goes on with; `none` when it returns. -/
def quarantine_pending (server_id status : String) :
    Except StoreError (Option IdentityRecord) → Option PendingQuarantine
  | .error _ => none
  | .ok none => none
  | .ok (some record) =>
    if record.2.resolver_status = status then none else some ⟨server_id, status, record⟩

/-- One step, where it is possible. -/
def interleaving_step (P : Platform) (c : InterleavingState) :
    InterleavingStep → Option InterleavingState
  | .put_identity identity registry => some { c with
      store := (c.store.put_identity P identity registry).2
      completed := c.completed ++ [.put_identity identity registry] }
  | .apply_registry_snapshot records success_epoch => some { c with
      store := (c.store.apply_registry_snapshot P records success_epoch).2
      completed := c.completed ++ [.apply_registry_snapshot records success_epoch] }
  | .quarantine_read server_id status =>
    match quarantine_pending server_id status (c.store.get_identity server_id) with
    | none => some { c with completed := c.completed ++ [.quarantine_identity server_id status] }
    | some quarantine => some { c with pending := c.pending ++ [quarantine] }
  | .quarantine_write index =>
    match c.pending[index]? with
    | none => none
    | some quarantine => some {
        store := (c.store.quarantine_record quarantine.record quarantine.status).2
        pending := c.pending.eraseIdx index
        completed := c.completed ++
          [.quarantine_identity quarantine.server_id quarantine.status] }

/-- A freshly opened store under interleaved writes. -/
def interleavings (P : Platform) : Machine InterleavingState InterleavingStep where
  init := ⟨EvidenceStore.open_, [], []⟩
  step := interleaving_step P

/-! ## §2. The law and the condition. -/

/-- The reference of the row is about the identity of the row. -/
structure RowConsistent (P : Platform) (row : IdentityRow) : Prop where
  hash : row.registry_json.object_hash = P.object_hash row.identity_json.to_value
  version : row.registry_json.object_version = row.identity_json.object_version

/-- Every row is consistent, and the rows are those of some serial order of the calls. -/
structure Serializable (P : Platform) (c : InterleavingState) : Prop where
  consistent : ∀ id row, c.store.ri_v2_identities.get? id = some row → RowConsistent P row
  serial : ∃ calls, calls.Perm c.completed ∧ ∀ id,
    c.store.ri_v2_identities.get? id =
      (run_serial P calls EvidenceStore.open_).ri_v2_identities.get? id

/-- The stored reference still reads as the one that was read, up to the status and with
another status than the new one; or the quarantine has been carried out already. -/
def StillStored (s : EvidenceStore) (quarantine : PendingQuarantine) : Prop :=
  ∃ row, s.ri_v2_identities.get? quarantine.server_id = some row ∧
    ((∃ current, row.registry_json.reread = .ok current ∧
        current.resolver_status ≠ quarantine.status ∧
        { current with resolver_status := quarantine.status } =
          { quarantine.record.2 with resolver_status := quarantine.status }) ∨
      (row.status = quarantine.status ∧
        row.registry_json = { quarantine.record.2 with resolver_status := quarantine.status } ∧
        ∀ key, s.ri_v2_endpoint_lookup.get? key ≠ some quarantine.server_id))

/-- No quarantine writes a record that another write has replaced since it was read. -/
def WritesCurrent (c : InterleavingState) : InterleavingStep → Prop
  | .quarantine_write index => ∀ quarantine, c.pending[index]? = some quarantine →
      StillStored c.store quarantine
  | _ => True

/-! ## §3. Generation and graphs decide nothing. -/

namespace EvidenceStore

/-- The store with another generation and other graphs. -/
def regenerated (generation : Nat) (graphs : RowTable String GraphRow) (s : EvidenceStore) :
    EvidenceStore :=
  { s with
    ri_v2_meta := { s.ri_v2_meta with cache_generation := generation }
    ri_v2_evidence_graphs := graphs }

/-- The stores differ in their generation and graphs at most. -/
def SameRecords (s s' : EvidenceStore) : Prop :=
  ∃ generation graphs, s' = s.regenerated generation graphs

theorem SameRecords.refl (s : EvidenceStore) : SameRecords s s :=
  ⟨s.cache_generation, s.ri_v2_evidence_graphs, rfl⟩

theorem SameRecords.symm {s s' : EvidenceStore} (h : SameRecords s s') : SameRecords s' s := by
  obtain ⟨generation, graphs, rfl⟩ := h
  exact ⟨s.cache_generation, s.ri_v2_evidence_graphs, rfl⟩

theorem SameRecords.trans {s s₁ s' : EvidenceStore} (h : SameRecords s s₁)
    (h' : SameRecords s₁ s') : SameRecords s s' := by
  obtain ⟨generation, graphs, rfl⟩ := h
  obtain ⟨generation', graphs', rfl⟩ := h'
  exact ⟨generation', graphs', rfl⟩

theorem SameRecords.identities {s s' : EvidenceStore} (h : SameRecords s s') :
    s'.ri_v2_identities = s.ri_v2_identities := by
  obtain ⟨_, _, rfl⟩ := h
  rfl

theorem SameRecords.of_bump (s : EvidenceStore) : SameRecords s s.bump_generation.2 := by
  rcases s.bump_generation_cases with ⟨_, heq⟩ | ⟨_, heq⟩
  · rw [heq]
    exact ⟨s.cache_generation + 1, .empty, rfl⟩
  · rw [heq]
    exact .refl s

theorem SameRecords.bump {s s' : EvidenceStore} (h : SameRecords s s') :
    SameRecords s.bump_generation.2 s'.bump_generation.2 :=
  ((SameRecords.of_bump s).symm.trans h).trans (SameRecords.of_bump s')

/-- A body that runs alike on both stores commits alike or rolls back on both. -/
theorem SameRecords.transaction {α : Type} {body : Body EvidenceStore StoreError α}
    (hbody : ∀ s generation graphs a s₁, body s = .ok (a, s₁) →
      ∃ a' s₁', body (s.regenerated generation graphs) = .ok (a', s₁') ∧ SameRecords s₁ s₁')
    {s s' : EvidenceStore} (h : SameRecords s s') :
    SameRecords (transaction body s).2 (transaction body s').2 := by
  rcases transaction_snd body s with ⟨a, s₁, hrun, hs₁⟩ | ⟨e, hrun, hs₁⟩
  · obtain ⟨generation, graphs, rfl⟩ := h
    obtain ⟨a', s₁', hrun', hsame⟩ := hbody s generation graphs a s₁ hrun
    rw [transaction_eq_ok.mpr hrun, transaction_eq_ok.mpr hrun']
    exact hsame
  · rw [hs₁]
    rcases transaction_snd body s' with ⟨a, s₁', hrun', _⟩ | ⟨_, _, hs₁'⟩
    · -- what fails on one store fails on the other
      obtain ⟨generation, graphs, rfl⟩ := h.symm
      obtain ⟨_, _, hrun₁, _⟩ := hbody s' generation graphs a s₁' hrun'
      rw [hrun₁] at hrun
      cases hrun
    · rw [hs₁']
      exact h

variable {P : Platform}

theorem insert_endpoints_regenerated {server_id : String} {endpoints : List DnsEndpoint}
    (generation : Nat) (graphs : RowTable String GraphRow) :
    ∀ {s s' : EvidenceStore}, insert_endpoints P server_id endpoints s = .ok s' →
      insert_endpoints P server_id endpoints (s.regenerated generation graphs) =
        .ok (s'.regenerated generation graphs) := by
  induction endpoints with
  | nil =>
    intro s s' h
    obtain rfl := Except.ok.inj h
    rfl
  | cons endpoint rest ih =>
    intro s s' h
    rw [insert_endpoints] at h ⊢
    obtain ⟨key, hkey, h⟩ := bind_eq_ok.mp h
    obtain ⟨lookup, hinsert, h⟩ := bind_eq_ok.mp h
    rw [hkey, ok_bind]
    show (okOr (s.ri_v2_endpoint_lookup.insert? key server_id) _ >>= _) = _
    rw [hinsert, ok_bind]
    exact ih h

theorem put_identity_regenerated (identity : DnsServerIdentityV2) (registry : RegistryReferenceV2)
    {s s' : EvidenceStore} (h : SameRecords s s') :
    SameRecords (s.put_identity P identity registry).2 (s'.put_identity P identity registry).2 := by
  refine SameRecords.transaction ?_ h
  intro s generation graphs a s₁ hrun
  unfold put_identity_body at hrun ⊢
  obtain ⟨_, hversion, hrun⟩ := bind_eq_ok.mp hrun
  obtain ⟨row, hrow, hrun⟩ := bind_eq_ok.mp hrun
  obtain ⟨_, hhash, hrun⟩ := bind_eq_ok.mp hrun
  obtain ⟨unchanged, hunchanged, hrun⟩ := bind_eq_ok.mp hrun
  have hunchanged' : (s.regenerated generation graphs).stored_unchanged identity registry =
      .ok unchanged := hunchanged
  simp only [hversion, hrow, hhash, hunchanged', ok_bind]
  cases unchanged with
  | true =>
    obtain ⟨_, rfl⟩ := Prod.mk.inj (Except.ok.inj hrun)
    exact ⟨(), _, rfl, generation, graphs, rfl⟩
  | false =>
    obtain ⟨s₂, hinsert, hrun⟩ := bind_eq_ok.mp hrun
    obtain ⟨_, rfl⟩ := Prod.mk.inj (Except.ok.inj hrun)
    have hinsert' : insert_endpoints P identity.server_id identity.endpoints
        (EvidenceStore.delete_endpoints { s.regenerated generation graphs with
          ri_v2_identities := s.ri_v2_identities.upsert identity.server_id row }
          identity.server_id) = .ok (s₂.regenerated generation graphs) :=
      insert_endpoints_regenerated generation graphs hinsert
    exact ⟨(), _, bind_eq_ok.mpr ⟨_, hinsert', rfl⟩, SameRecords.bump ⟨generation, graphs, rfl⟩⟩

theorem quarantine_record_regenerated (record : IdentityRecord) (status : String)
    {s s' : EvidenceStore} (h : SameRecords s s') :
    SameRecords (s.quarantine_record record status).2 (s'.quarantine_record record status).2 := by
  unfold quarantine_record
  split
  · exact h
  · refine SameRecords.bump ?_
    obtain ⟨generation, graphs, rfl⟩ := h
    exact ⟨generation, graphs, rfl⟩

theorem quarantine_identity_regenerated (server_id status : String) {s s' : EvidenceStore}
    (h : SameRecords s s') :
    SameRecords (s.quarantine_identity server_id status).2
      (s'.quarantine_identity server_id status).2 := by
  have hread : s'.get_identity server_id = s.get_identity server_id := by
    unfold get_identity
    rw [h.identities]
  unfold quarantine_identity
  rw [hread]
  split
  · exact h
  · exact h
  · exact quarantine_record_regenerated _ status h

theorem remove_missing_regenerated {configured_ids ids : List String} (generation : Nat)
    (graphs : RowTable String GraphRow) :
    ∀ {acc acc' : EvidenceStore × Bool}, remove_missing configured_ids ids acc = .ok acc' →
      remove_missing configured_ids ids (acc.1.regenerated generation graphs, acc.2) =
        .ok (acc'.1.regenerated generation graphs, acc'.2) := by
  induction ids with
  | nil =>
    intro acc acc' h
    obtain rfl := Except.ok.inj h
    rfl
  | cons server_id rest ih =>
    intro acc acc' h
    rw [remove_missing] at h ⊢
    split at h
    case isTrue hconfigured =>
      rw [if_pos hconfigured]
      exact ih h
    case isFalse hconfigured =>
      rw [if_neg hconfigured]
      obtain ⟨mid, hmid, h⟩ := bind_eq_ok.mp h
      -- neither the generation nor the graphs are read
      have hone : remove_identity server_id (acc.1.regenerated generation graphs, acc.2) =
          .ok (mid.1.regenerated generation graphs, mid.2) := by
        unfold remove_identity at hmid ⊢
        obtain ⟨marked, hmark, hmid⟩ := bind_eq_ok.mp hmid
        obtain rfl := Except.ok.inj hmid
        have hmark' : mark_removed server_id (acc.1.regenerated generation graphs, acc.2) =
            .ok (marked.1.regenerated generation graphs, marked.2) := by
          unfold mark_removed at hmark ⊢
          have hsame : (acc.1.regenerated generation graphs, acc.2).1.ri_v2_identities =
              acc.1.ri_v2_identities := rfl
          rw [hsame]
          cases hget : acc.1.ri_v2_identities.get? server_id with
          | none =>
            rw [hget] at hmark
            obtain rfl := Except.ok.inj hmark
            rfl
          | some row =>
            rw [hget] at hmark
            obtain ⟨reference, hdecode, hmark⟩ := bind_eq_ok.mp hmark
            simp only [hdecode, ok_bind]
            split at hmark
            case isTrue hlive =>
              obtain rfl := Except.ok.inj hmark
              rw [if_pos hlive]
              rfl
            case isFalse hremoved =>
              obtain rfl := Except.ok.inj hmark
              rw [if_neg hremoved]
        rw [hmark']
        rfl
      rw [hone, ok_bind]
      exact ih h

theorem write_records_regenerated {records : List IdentityRecord} (generation : Nat)
    (graphs : RowTable String GraphRow) :
    ∀ {acc acc' : EvidenceStore × Bool}, write_records P records acc = .ok acc' →
      write_records P records (acc.1.regenerated generation graphs, acc.2) =
        .ok (acc'.1.regenerated generation graphs, acc'.2) := by
  induction records with
  | nil =>
    intro acc acc' h
    obtain rfl := Except.ok.inj h
    rfl
  | cons record rest ih =>
    intro acc acc' h
    rw [write_records] at h ⊢
    obtain ⟨mid, hmid, h⟩ := bind_eq_ok.mp h
    have hone : write_record P record (acc.1.regenerated generation graphs, acc.2) =
        .ok (mid.1.regenerated generation graphs, mid.2) := by
      unfold write_record at hmid ⊢
      obtain ⟨columns, hcolumns, hmid⟩ := bind_eq_ok.mp hmid
      obtain ⟨row, hrow, hmid⟩ := bind_eq_ok.mp hmid
      obtain ⟨s, hinsert, hmid⟩ := bind_eq_ok.mp hmid
      obtain ⟨height, hheight, hmid⟩ := bind_eq_ok.mp hmid
      obtain rfl := Except.ok.inj hmid
      have hinsert' : insert_endpoints P record.1.server_id record.1.endpoints
          (EvidenceStore.delete_endpoints { acc.1.regenerated generation graphs with
            ri_v2_identities := acc.1.ri_v2_identities.upsert record.1.server_id row }
            record.1.server_id) = .ok (s.regenerated generation graphs) :=
        insert_endpoints_regenerated generation graphs hinsert
      simp only [hcolumns, hrow, ok_bind]
      exact bind_eq_ok.mpr ⟨_, hinsert', bind_eq_ok.mpr ⟨height, hheight, rfl⟩⟩
    rw [hone, ok_bind]
    exact ih h

/-- The last statements overwrite other members of the metadata. -/
theorem finish_snapshot_regenerated (first : RegistryReferenceV2) (success_epoch : Int)
    {acc acc' : EvidenceStore × Bool} (h : SameRecords acc.1 acc'.1) (hflag : acc'.2 = acc.2) :
    SameRecords (finish_snapshot first success_epoch acc).2
      (finish_snapshot first success_epoch acc').2 := by
  have hmeta : ∀ {x x' : EvidenceStore}, SameRecords x x' →
      SameRecords { x with ri_v2_meta := set_snapshot_meta first success_epoch x.ri_v2_meta }
        { x' with ri_v2_meta := set_snapshot_meta first success_epoch x'.ri_v2_meta } := by
    intro x x' hx
    obtain ⟨generation, graphs, rfl⟩ := hx
    exact ⟨generation, graphs, rfl⟩
  unfold finish_snapshot
  rw [hflag]
  cases acc.2 with
  | true => exact hmeta h.bump
  | false => exact hmeta h

theorem apply_registry_snapshot_regenerated (records : List IdentityRecord) (success_epoch : Int)
    {s s' : EvidenceStore} (h : SameRecords s s') :
    SameRecords (s.apply_registry_snapshot P records success_epoch).2
      (s'.apply_registry_snapshot P records success_epoch).2 := by
  refine SameRecords.transaction ?_ h
  intro s generation graphs answer s₁ hrun
  obtain ⟨hepoch, record₀, rest, hrecords, hconsistent, hids, hkeys, hcheck, acc, acc', hremove,
    hwrite, hfinish⟩ := apply_registry_snapshot_iff.mp (transaction_eq_ok.mpr hrun)
  have hremove' := remove_missing_regenerated generation graphs hremove
  have hwrite' := write_records_regenerated generation graphs hwrite
  have hrun' : (s.regenerated generation graphs).apply_registry_snapshot P records success_epoch =
      (.ok (finish_snapshot record₀.2 success_epoch
          (acc'.1.regenerated generation graphs, acc'.2)).1,
        (finish_snapshot record₀.2 success_epoch
          (acc'.1.regenerated generation graphs, acc'.2)).2) :=
    apply_registry_snapshot_iff.mpr ⟨hepoch, record₀, rest, hrecords, hconsistent, hids, hkeys,
      hcheck, _, _, hremove', hwrite', rfl⟩
  refine ⟨_, _, transaction_eq_ok.mp hrun', ?_⟩
  rw [(Prod.mk.inj hfinish).2]
  exact finish_snapshot_regenerated record₀.2 success_epoch ⟨generation, graphs, rfl⟩ rfl

end EvidenceStore

/-- A call does the same to records under any generation and with any graphs. -/
theorem IdentityCall.run_regenerated (P : Platform) (call : IdentityCall) {s s' : EvidenceStore}
    (h : SameRecords s s') : SameRecords (call.run P s) (call.run P s') := by
  cases call with
  | put_identity identity registry => exact put_identity_regenerated identity registry h
  | apply_registry_snapshot records success_epoch =>
    exact apply_registry_snapshot_regenerated records success_epoch h
  | quarantine_identity server_id status => exact quarantine_identity_regenerated server_id status h

/-! ## §4. Uninterrupted calls keep the rows consistent. -/

/-- Every row stands under the id of its identity and is consistent. -/
def RowsSound (P : Platform) (s : EvidenceStore) : Prop :=
  ∀ id row, s.ri_v2_identities.get? id = some row →
    row.identity_json.server_id = id ∧ RowConsistent P row

variable {P : Platform} {s s' : EvidenceStore}

theorem RowsSound.same_records (h : RowsSound P s) (hsame : SameRecords s s') :
    RowsSound P s' := by
  unfold RowsSound
  rw [hsame.identities]
  exact h

theorem reread_object {reference reference' : RegistryReferenceV2}
    (h : reference.reread = .ok reference') : reference'.object_hash = reference.object_hash ∧
      reference'.object_version = reference.object_version := by
  unfold reread deserialize at h
  obtain ⟨_, _, h⟩ := bind_eq_ok.mp h
  obtain ⟨metadata, _, h⟩ := bind_eq_ok.mp h
  obtain ⟨finality, _, h⟩ := bind_eq_ok.mp h
  obtain ⟨_, _, h⟩ := bind_eq_ok.mp h
  obtain rfl := Except.ok.inj h
  exact ⟨rfl, rfl⟩

theorem read_back_object (reference : RegistryReferenceV2) :
    reference.read_back.object_hash = reference.object_hash ∧
      reference.read_back.object_version = reference.object_version := by
  cases h : reference.reread with
  | ok reference' =>
    rw [read_back_of_reread h]
    exact reread_object h
  | error e =>
    unfold read_back
    rw [h]
    exact ⟨rfl, rfl⟩

/-- The rows of a call that writes one row. -/
theorem RowsSound.of_row {i : String} {r : IdentityRow} (h : RowsSound P s)
    (hrow : r.identity_json.server_id = i ∧ RowConsistent P r)
    (hrows : ∀ key found, s'.ri_v2_identities.get? key = some found →
      (key = i ∧ found = r) ∨ s.ri_v2_identities.get? key = some found) : RowsSound P s' := by
  intro key found hfound
  rcases hrows key found hfound with ⟨rfl, rfl⟩ | hold
  · exact hrow
  · exact h key found hold

theorem put_identity_sound (identity : DnsServerIdentityV2) (registry : RegistryReferenceV2)
    (h : RowsSound P s) : RowsSound P (s.put_identity P identity registry).2 := by
  rcases transaction_snd (put_identity_body P identity registry) s with
    ⟨_, s', hrun, hs'⟩ | ⟨_, _, hs'⟩
  · unfold put_identity
    rw [hs']
    unfold put_identity_body at hrun
    obtain ⟨_, hversion, hrun⟩ := bind_eq_ok.mp hrun
    obtain ⟨row, hrow, hrun⟩ := bind_eq_ok.mp hrun
    obtain ⟨_, hhash, hrun⟩ := bind_eq_ok.mp hrun
    obtain ⟨unchanged, hunchanged, hrun⟩ := bind_eq_ok.mp hrun
    rw [rejectIf_eq_ok, bne_eq_false_iff_eq] at hversion hhash
    cases unchanged with
    | true =>
      -- only the reference is written again
      obtain ⟨stored, _, hget, hidentity, _, _⟩ := stored_unchanged_eq_ok hunchanged
      obtain ⟨_, rfl⟩ := Prod.mk.inj (Except.ok.inj hrun)
      refine h.of_row (i := identity.server_id) (r := { stored with
        registry_json := registry, snapshot_generation := row.snapshot_generation }) ?_ ?_
      · exact ⟨congrArg _ hidentity, by rw [hidentity]; exact hhash.symm,
          by rw [hidentity]; exact hversion⟩
      · intro key found hfound
        have hfound : (s.ri_v2_identities.update identity.server_id _).get? key = some found :=
          hfound
        rw [RowTable.get?_update] at hfound
        by_cases hkey : key = identity.server_id
        · rw [if_pos hkey, hkey, hget] at hfound
          exact Or.inl ⟨hkey, (Option.some.inj hfound).symm⟩
        · rw [if_neg hkey] at hfound
          exact Or.inr hfound
    | false =>
      -- the whole row is written
      obtain ⟨s₁, hinsert, hrun⟩ := bind_eq_ok.mp hrun
      obtain ⟨_, rfl⟩ := Prod.mk.inj (Except.ok.inj hrun)
      refine RowsSound.same_records ?_ (SameRecords.of_bump s₁)
      have hidentities : s₁.ri_v2_identities =
          s.ri_v2_identities.upsert identity.server_id row := by
        rw [insert_endpoints_identities hinsert]
        rfl
      unfold identity_row at hrow
      obtain ⟨_, _, hrow⟩ := bind_eq_ok.mp hrow
      obtain ⟨_, _, hrow⟩ := bind_eq_ok.mp hrow
      obtain rfl := Except.ok.inj hrow
      intro key found hfound
      rw [hidentities, RowTable.get?_upsert] at hfound
      by_cases hkey : key = identity.server_id
      · rw [if_pos hkey] at hfound
        obtain rfl := Option.some.inj hfound
        exact ⟨hkey.symm, hhash.symm, hversion⟩
      · rw [if_neg hkey] at hfound
        exact h key found hfound
  · -- an error undoes everything
    unfold put_identity
    rw [hs']
    exact h

theorem removed_row_consistent {row : IdentityRow} (h : RowConsistent P row) :
    RowConsistent P (removed_row row) := by
  unfold removed_row
  split
  case isTrue => exact h
  case isFalse =>
    obtain ⟨hhash, hversion⟩ := read_back_object row.registry_json
    exact ⟨hhash.trans h.hash, hversion.trans h.version⟩

theorem removed_row_identity (row : IdentityRow) :
    (removed_row row).identity_json = row.identity_json := by
  unfold removed_row
  split
  case isTrue => rfl
  case isFalse => rfl

theorem apply_registry_snapshot_sound (records : List IdentityRecord) (success_epoch : Int)
    (h : RowsSound P s) : RowsSound P (s.apply_registry_snapshot P records success_epoch).2 := by
  cases hrun : s.apply_registry_snapshot P records success_epoch with
  | mk result s' =>
    cases result with
    | error e =>
      rw [transaction_error hrun]
      exact h
    | ok generation =>
      obtain ⟨_, record₀, _, _, hrecords, hids, _, _, acc, acc', hremove, hwrite, hfinish⟩ :=
        apply_registry_snapshot_iff.mp hrun
      have happlied := applied_of_loops hids hremove hwrite
      have hs' : s' = (finish_snapshot record₀.2 success_epoch acc').2 := congrArg Prod.snd hfinish
      intro id row hrow
      have hrow : s'.ri_v2_identities.get? id = some row := hrow
      rw [hs', (finish_snapshot_tables _ _ _).1] at hrow
      by_cases hlisted : id ∈ server_ids records
      · obtain ⟨record, hrecord, rfl⟩ := mem_server_ids.mp hlisted
        rw [happlied.listed record hrecord] at hrow
        obtain rfl := Option.some.inj hrow
        have hconsistent := (hrecords record hrecord).1
        exact ⟨rfl, hconsistent.hash, hconsistent.version⟩
      · rw [happlied.unlisted id hlisted, Option.map_eq_some_iff] at hrow
        obtain ⟨old, hold, rfl⟩ := hrow
        obtain ⟨hid, hconsistent⟩ := h id old hold
        rw [removed_row_identity]
        exact ⟨hid, removed_row_consistent hconsistent⟩

theorem quarantine_identity_sound (server_id status : String) (h : RowsSound P s) :
    RowsSound P (s.quarantine_identity server_id status).2 := by
  unfold quarantine_identity
  cases hget : s.get_identity server_id with
  | error e => exact h
  | ok found =>
    cases found with
    | none => exact h
    | some record =>
      unfold get_identity at hget
      cases hrow : s.ri_v2_identities.get? server_id with
      | none =>
        rw [hrow] at hget
        cases hget
      | some row =>
        rw [hrow] at hget
        obtain ⟨registry, hdecode, hget⟩ := bind_eq_ok.mp hget
        obtain rfl := Option.some.inj (Except.ok.inj hget)
        obtain ⟨hid, hconsistent⟩ := h server_id row hrow
        obtain ⟨hhash, hversion⟩ := reread_object (decode_reference_eq_ok.mp hdecode)
        show RowsSound P (s.quarantine_record _ _).2
        unfold quarantine_record
        split
        · exact h
        · refine RowsSound.same_records ?_ (SameRecords.of_bump _)
          refine h.of_row (i := server_id) (r := { row with
            status := status, registry_json := { registry with resolver_status := status } }) ?_ ?_
          · exact ⟨hid, hhash.trans hconsistent.hash, hversion.trans hconsistent.version⟩
          · intro key found hfound
            have hfound : (s.ri_v2_identities.update row.identity_json.server_id _).get? key =
              some found := hfound
            rw [RowTable.get?_update, hid] at hfound
            by_cases hkey : key = server_id
            · rw [if_pos hkey, hkey, hrow] at hfound
              exact Or.inl ⟨hkey, (Option.some.inj hfound).symm⟩
            · rw [if_neg hkey] at hfound
              exact Or.inr hfound

theorem IdentityCall.run_sound (call : IdentityCall) (h : RowsSound P s) :
    RowsSound P (call.run P s) := by
  cases call with
  | put_identity identity registry => exact put_identity_sound identity registry h
  | apply_registry_snapshot records success_epoch =>
    exact apply_registry_snapshot_sound records success_epoch h
  | quarantine_identity server_id status => exact quarantine_identity_sound server_id status h

theorem run_serial_append (calls : List IdentityCall) (call : IdentityCall) (s : EvidenceStore) :
    run_serial P (calls ++ [call]) s = call.run P (run_serial P calls s) := by
  unfold run_serial
  rw [List.foldl_append]
  rfl

theorem run_serial_sound (calls : List IdentityCall) (h : RowsSound P s) :
    RowsSound P (run_serial P calls s) := by
  induction calls using List.reverseRecOn with
  | nil => exact h
  | append_singleton calls call ih =>
    rw [run_serial_append]
    exact call.run_sound ih

/-! ## §5. Runs whose writes are current. -/

/-- A write whose record is still the stored one does what an uninterrupted call does. -/
theorem quarantine_write_serial {quarantine : PendingQuarantine} (hsound : RowsSound P s)
    (hread : quarantine.record.1.server_id = quarantine.server_id ∧
      quarantine.record.2.resolver_status ≠ quarantine.status)
    (hstored : StillStored s quarantine) :
    SameRecords (s.quarantine_identity quarantine.server_id quarantine.status).2
      (s.quarantine_record quarantine.record quarantine.status).2 := by
  obtain ⟨row, hrow, hcase⟩ := hstored
  have hid := (hsound _ row hrow).1
  have hwrite : s.quarantine_record quarantine.record quarantine.status =
      (.ok true, (EvidenceStore.delete_endpoints { s with
        ri_v2_identities := s.ri_v2_identities.update quarantine.server_id
          (fun row => { row with
            status := quarantine.status
            registry_json :=
              { quarantine.record.2 with resolver_status := quarantine.status } }) }
        quarantine.server_id).bump_generation.2) := by
    unfold quarantine_record
    rw [if_neg hread.2, hread.1]
  rw [hwrite]
  rcases hcase with ⟨current, hcurrent, hstatus, heq⟩ | ⟨hstatus, hregistry, hfree⟩
  · -- the uninterrupted call reads the stored record and writes the same row
    have hcall : s.quarantine_identity quarantine.server_id quarantine.status =
        s.quarantine_record (row.identity_json, current) quarantine.status := by
      unfold quarantine_identity get_identity
      simp only [hrow, decode_reference_eq_ok.mpr hcurrent, ok_bind]
    rw [hcall]
    unfold quarantine_record
    rw [if_neg hstatus]
    simp only [hid, heq]
    exact SameRecords.refl _
  · -- the uninterrupted call has nothing to do, and the write changes no record
    have hcall : (s.quarantine_identity quarantine.server_id quarantine.status).2 = s := by
      unfold quarantine_identity get_identity
      cases hdecode : decode_reference row.registry_json with
      | error e => simp only [hrow, hdecode, error_bind]
      | ok current =>
        have hcurrent : current.resolver_status = quarantine.status := by
          rw [reread_resolver_status (decode_reference_eq_ok.mp hdecode), hregistry]
        simp only [hrow, hdecode, ok_bind]
        unfold quarantine_record
        rw [if_pos hcurrent]
    have hidentities : s.ri_v2_identities.update quarantine.server_id (fun row => { row with
        status := quarantine.status
        registry_json :=
          { quarantine.record.2 with resolver_status := quarantine.status } }) =
        s.ri_v2_identities := by
      refine RowTable.update_of_fixed hrow ?_
      rw [← hregistry, ← hstatus]
    have hlookup : s.ri_v2_endpoint_lookup.deleteWhere
        (fun _ owner => owner = quarantine.server_id) = s.ri_v2_endpoint_lookup := by
      refine RowTable.deleteWhere_of_none (fun key owner howner => ?_)
      refine decide_eq_false (fun heq => ?_)
      exact hfree key (heq ▸ howner)
    rw [hcall, hidentities]
    refine SameRecords.trans ?_ (SameRecords.of_bump _)
    unfold delete_endpoints
    rw [hlookup]
    exact SameRecords.refl s

/-- The store is that of the completed calls one after the other, and every pending
quarantine read the record of its server, with another status. -/
structure InterleavingInv (P : Platform) (c : InterleavingState) : Prop where
  serial : SameRecords (run_serial P c.completed EvidenceStore.open_) c.store
  pending : ∀ quarantine ∈ c.pending,
    quarantine.record.1.server_id = quarantine.server_id ∧
      quarantine.record.2.resolver_status ≠ quarantine.status

theorem open_sound (P : Platform) : RowsSound P EvidenceStore.open_ := by
  intro id row hrow
  cases hrow

theorem InterleavingInv.sound {c : InterleavingState} (h : InterleavingInv P c) :
    RowsSound P c.store :=
  (run_serial_sound c.completed (open_sound P)).same_records h.serial

theorem InterleavingInv.serializable {c : InterleavingState} (h : InterleavingInv P c) :
    Serializable P c where
  consistent := fun id row hrow => (h.sound id row hrow).2
  serial := ⟨c.completed, List.Perm.refl _, fun _ => by rw [h.serial.identities]⟩

/-- A call in one transaction is the next one in the serial order. -/
theorem InterleavingInv.complete {c : InterleavingState} (h : InterleavingInv P c)
    (call : IdentityCall) {s' : EvidenceStore} (hs' : SameRecords (call.run P c.store) s') :
    SameRecords (run_serial P (c.completed ++ [call]) EvidenceStore.open_) s' := by
  rw [run_serial_append]
  exact (call.run_regenerated P h.serial).trans hs'

/-- A read that ends the call leaves the store as the whole call does, and one that goes
on has found another status. -/
theorem quarantine_read_cases (server_id status : String) (s : EvidenceStore) :
    (quarantine_pending server_id status (s.get_identity server_id) = none ∧
      (s.quarantine_identity server_id status).2 = s) ∨
    ∃ record, quarantine_pending server_id status (s.get_identity server_id) =
        some ⟨server_id, status, record⟩ ∧
      s.get_identity server_id = .ok (some record) ∧ record.2.resolver_status ≠ status := by
  unfold quarantine_identity
  cases hget : s.get_identity server_id with
  | error e => exact Or.inl ⟨rfl, rfl⟩
  | ok found =>
    cases found with
    | none => exact Or.inl ⟨rfl, rfl⟩
    | some record =>
      by_cases hstatus : record.2.resolver_status = status
      · left
        constructor
        · exact if_pos hstatus
        · show (s.quarantine_record record status).2 = s
          unfold quarantine_record
          rw [if_pos hstatus]
      · right
        exact ⟨record, if_neg hstatus, rfl, hstatus⟩

theorem InterleavingInv.step {c c' : InterleavingState} (h : InterleavingInv P c)
    (l : InterleavingStep) (hcurrent : WritesCurrent c l)
    (hstep : (interleavings P).step c l = some c') : InterleavingInv P c' := by
  cases l with
  | put_identity identity registry =>
    obtain rfl := Option.some.inj hstep
    exact ⟨h.complete (.put_identity identity registry) (SameRecords.refl _), h.pending⟩
  | apply_registry_snapshot records success_epoch =>
    obtain rfl := Option.some.inj hstep
    exact ⟨h.complete (.apply_registry_snapshot records success_epoch) (SameRecords.refl _),
      h.pending⟩
  | quarantine_read server_id status =>
    have hstep : (match quarantine_pending server_id status (c.store.get_identity server_id) with
      | none => some { c with completed := c.completed ++ [.quarantine_identity server_id status] }
      | some quarantine => some { c with pending := c.pending ++ [quarantine] }) = some c' := hstep
    rcases quarantine_read_cases server_id status c.store with ⟨hnone, hkept⟩ |
      ⟨record, hsome, hget, hstatus⟩
    · -- nothing to do: the call is complete
      rw [hnone] at hstep
      obtain rfl := Option.some.inj hstep
      refine ⟨h.complete (.quarantine_identity server_id status) ?_, h.pending⟩
      show SameRecords (c.store.quarantine_identity server_id status).2 c.store
      rw [hkept]
      exact SameRecords.refl _
    · -- the record it has read is its own
      rw [hsome] at hstep
      obtain rfl := Option.some.inj hstep
      refine ⟨h.serial, fun quarantine hquarantine => ?_⟩
      rcases List.mem_append.mp hquarantine with hold | hnew
      · exact h.pending quarantine hold
      · obtain rfl := List.mem_singleton.mp hnew
        obtain ⟨row, hrow, hidentity, _⟩ := current_of_get_identity hget
        refine ⟨?_, hstatus⟩
        show record.1.server_id = server_id
        rw [← hidentity]
        exact (h.sound server_id row hrow).1
  | quarantine_write index =>
    have hstep : (match c.pending[index]? with
      | none => none
      | some quarantine => some {
          store := (c.store.quarantine_record quarantine.record quarantine.status).2
          pending := c.pending.eraseIdx index
          completed := c.completed ++
            [.quarantine_identity quarantine.server_id quarantine.status] }) = some c' := hstep
    cases hpending : c.pending[index]? with
    | none =>
      rw [hpending] at hstep
      cases hstep
    | some quarantine =>
      rw [hpending] at hstep
      obtain rfl := Option.some.inj hstep
      -- by the condition the write does what the whole call would do now
      have hread := h.pending quarantine (List.mem_of_getElem? hpending)
      refine ⟨h.complete (.quarantine_identity quarantine.server_id quarantine.status) ?_,
        fun other hother => h.pending other (List.mem_of_mem_eraseIdx hother)⟩
      exact quarantine_write_serial h.sound hread (hcurrent quarantine hpending)

/-- Where no quarantine writes back a record that was replaced since it was read, every
state has consistent rows, and they are those of a serial order of the calls. -/
theorem serializable_along (P : Platform) (steps : List InterleavingStep)
    (h : (interleavings P).Along WritesCurrent steps) :
    (interleavings P).Always (Serializable P) steps := by
  intro pre post c hsteps hrun
  rw [hsteps] at h
  have hinit : InterleavingInv P (interleavings P).init :=
    ⟨SameRecords.refl _, fun _ hmem => (nomatch hmem)⟩
  have hinv : InterleavingInv P c :=
    Machine.invariant_of_along hinit
      (fun _ l _ hinv hcurrent hstep => hinv.step l hcurrent hstep) h.of_prefix hrun
  exact hinv.serializable

/-- The first case of `StillStored`, evaluated. -/
def writes_current (c : InterleavingState) : InterleavingStep → Bool
  | .quarantine_write index => (c.pending[index]?).all (fun quarantine =>
      (c.store.ri_v2_identities.get? quarantine.server_id).any (fun row =>
        row.registry_json.reread.toOption.any (fun current =>
          current.resolver_status != quarantine.status &&
          { current with resolver_status := quarantine.status } ==
            { quarantine.record.2 with resolver_status := quarantine.status })))
  | _ => true

theorem writesCurrent_of_check {c : InterleavingState} {l : InterleavingStep}
    (h : writes_current c l = true) : WritesCurrent c l := by
  cases l with
  | quarantine_write index =>
    intro quarantine hpending
    have hcheck : (c.pending[index]?).all _ = true := h
    rw [hpending, Option.all_some, Option.any_eq_true] at hcheck
    obtain ⟨row, hrow, hcheck⟩ := hcheck
    rw [Option.any_eq_true] at hcheck
    obtain ⟨current, hcurrent, hcheck⟩ := hcheck
    rw [Bool.and_eq_true, bne_iff_ne, beq_iff_eq] at hcheck
    exact ⟨row, hrow, Or.inl ⟨current, toOption_eq_some hcurrent, hcheck.1, hcheck.2⟩⟩
  | _ => trivial

/-- `resolver-b` moves on while `resolver-a` is put under quarantine. -/
def disjoint_run : List InterleavingStep :=
  [.apply_registry_snapshot placed_records 1750000000,
    .quarantine_read "resolver-a" "IDENTITY_QUARANTINED",
    .put_identity leaving_record.1 leaving_record.2,
    .quarantine_write 0]

theorem disjoint_run_serializable :
    (interleavings placed_recording.platform).Along WritesCurrent disjoint_run ∧
      (interleavings placed_recording.platform).Always
        (Serializable placed_recording.platform) disjoint_run :=
  have h : (interleavings placed_recording.platform).Along WritesCurrent disjoint_run :=
    fun pre l post s heq hs => writesCurrent_of_check
      (Machine.along_of_checked (C := fun c l => writes_current c l = true) (by decide +kernel)
        pre l post s heq hs)
  ⟨h, serializable_along _ _ h⟩

/-- The Registry gives `resolver-a` a new identity between the read and the write. -/
def overtaken_run : List InterleavingStep :=
  [.apply_registry_snapshot placed_records 1750000000,
    .quarantine_read "resolver-a" "IDENTITY_QUARANTINED",
    .apply_registry_snapshot [leaving_record, taking_record] 1750000001,
    .quarantine_write 0]

/-- The reference of a row is about another object. -/
def inconsistent (P : Platform) (c : InterleavingState) (id : String) : Bool :=
  (c.store.ri_v2_identities.get? id).any (fun row =>
    row.registry_json.object_hash != P.object_hash row.identity_json.to_value)

theorem overtaken_inconsistent :
    ((interleavings placed_recording.platform).run overtaken_run).map
      (fun c => inconsistent placed_recording.platform c "resolver-a") = some true := by
  decide +kernel

/-- The write puts the older reference under the newer identity. -/
theorem overtaken_write_lost :
    ¬ (interleavings placed_recording.platform).Always
      (Serializable placed_recording.platform) overtaken_run := by
  intro h
  obtain ⟨c, hc, hbad⟩ := Option.map_eq_some_iff.mp overtaken_inconsistent
  have hlaw := h overtaken_run [] c (List.append_nil _).symm hc
  unfold inconsistent at hbad
  rw [Option.any_eq_true] at hbad
  obtain ⟨row, hrow, hhash⟩ := hbad
  rw [bne_iff_ne] at hhash
  exact hhash (hlaw.consistent "resolver-a" row hrow).hash

end ResolverIdentity.Store
