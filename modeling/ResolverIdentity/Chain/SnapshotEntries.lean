/-
  ResolverIdentity.Chain.SnapshotEntries: the records of signed snapshots.

  The Norn and the external adapter make a record of each entry of a signed snapshot;
  `validate_registry_record` of the synchronizer compares the record with an identity.
  Together they say when an entry lists an identity.

  Main results:
    * `take_entries_written`: every entry has its record, and every record its entry;
    * `Written.valid_iff`: the record is the identity's exactly if the entry lists it.
-/
import ResolverIdentity.Sync.Admission
import ResolverIdentity.Sync.EvmAdapter
import ResolverIdentity.Sync.Resumption

namespace ResolverIdentity.Chain

open Library Sync

/-! ## §1. Records of entries. -/

/-- The record that is made of an entry. -/
structure Written (P : Platform) (state_root root_status : String) (entry : SnapshotEntry)
    (record : RegistryRecord) : Prop where
  resolver_id_key : record.resolver_id_key = P.resolver_id_key entry.server_id
  object_hash : normalize_hash entry.object_hash 32 = .ok record.object_hash
  object_version : record.object_version = entry.object_version
  valid_until : record.valid_until = entry.valid_until
  resolver_status : record.resolver_status = entry.status
  state_root : record.state_root = state_root
  root_status : record.root_status = root_status
  endpoint_owners : ∀ key owner, record.endpoint_owners.lookup key = some owner ↔
    owner = P.resolver_id_key entry.server_id ∧
      ∃ written ∈ entry.endpoint_keys, normalize_hash written 32 = .ok key

section Records

variable {P : Platform} {wording : Wording} {state_root root_status : String}

/-- The owners of the endpoints that were taken. -/
theorem take_endpoints_owners {resolver_key : String} {endpoints : List String} :
    ∀ {all_endpoints : List String} {owners : AList (fun _ : String => String)}
      {out : List String × AList (fun _ : String => String)},
      take_endpoints wording resolver_key endpoints all_endpoints owners = .ok out →
        (∀ key ∈ all_endpoints, key ∈ out.1) ∧
        ∀ key owner, out.2.lookup key = some owner ↔
          (owner = resolver_key ∧ ∃ written ∈ endpoints, normalize_hash written 32 = .ok key) ∨
            ((∀ written ∈ endpoints, normalize_hash written 32 ≠ .ok key) ∧
              owners.lookup key = some owner) := by
  induction endpoints with
  | nil =>
    intro all_endpoints owners out h
    obtain rfl := Except.ok.inj h
    simp
  | cons endpoint rest ih =>
    intro all_endpoints owners out h
    unfold take_endpoints at h
    simp only [bind_eq_ok, exists_unit, rejectIf_eq_ok] at h
    obtain ⟨normalized, hnormalized, _, hrest⟩ := h
    obtain ⟨hall, hlookup⟩ := ih hrest
    refine ⟨fun key hkey => hall key (List.mem_cons_of_mem _ hkey), ?_⟩
    intro key owner
    rw [hlookup key owner]
    by_cases hkey : key = normalized
    · rw [hkey, AList.lookup_insert]
      constructor
      · rintro (⟨howner, _⟩ | ⟨_, howner⟩)
        · exact Or.inl ⟨howner, endpoint, List.mem_cons_self, hnormalized⟩
        · exact Or.inl ⟨(Option.some.inj howner).symm, endpoint, List.mem_cons_self, hnormalized⟩
      · rintro (⟨rfl, _⟩ | ⟨hnone, _⟩)
        · by_cases hlater : ∃ written ∈ rest, normalize_hash written 32 = .ok normalized
          · exact Or.inl ⟨rfl, hlater⟩
          · refine Or.inr ⟨?_, rfl⟩
            intro written hwritten heq
            exact hlater ⟨written, hwritten, heq⟩
        · exact absurd hnormalized (hnone endpoint List.mem_cons_self)
    · have hother : normalize_hash endpoint 32 ≠ .ok key := by
        intro heq
        exact hkey (Except.ok.inj (heq.symm.trans hnormalized))
      rw [AList.lookup_insert_ne hkey]
      simp [hother]

/-- What is collected with an entry, and its record. -/
theorem take_entry_written {acc next : Collected} {entry : SnapshotEntry}
    (h : take_entry P wording state_root root_status acc entry = .ok next) :
    ∃ record, Written P state_root root_status entry record ∧
      acc.records.lookup entry.server_id = none ∧
      next.records = acc.records.insert entry.server_id record := by
  unfold take_entry at h
  simp only [bind_eq_ok, exists_unit, rejectIf_eq_ok, Except.ok.injEq, Bool.or_eq_false_iff,
    bne_eq_false_iff_eq, Option.isSome_eq_false_iff, Option.isNone_iff_eq_none] at h
  obtain ⟨key, hkey, ⟨⟨_, rfl⟩, _⟩, out, hout, hash, hhash, hnew, rfl⟩ := h
  refine ⟨_, ⟨rfl, hhash, rfl, rfl, rfl, rfl, rfl, ?_⟩, hnew, rfl⟩
  intro key owner
  rw [(take_endpoints_owners hout).2 key owner]
  constructor
  · rintro (howned | ⟨_, hnone⟩)
    · exact howned
    · cases hnone
  · exact Or.inl

/-- Every entry has its record, every other record was there before. -/
theorem take_entries_written {entries : List SnapshotEntry} :
    ∀ {acc acc' : Collected},
      take_entries P wording state_root root_status entries acc = .ok acc' →
        (∀ id record, acc.records.lookup id = some record →
          acc'.records.lookup id = some record) ∧
        (∀ entry ∈ entries, ∃ record, acc'.records.lookup entry.server_id = some record ∧
          Written P state_root root_status entry record) ∧
        ∀ id record, acc'.records.lookup id = some record → acc.records.lookup id = some record ∨
          ∃ entry ∈ entries, entry.server_id = id ∧
            Written P state_root root_status entry record := by
  induction entries with
  | nil =>
    intro acc acc' h
    obtain rfl := Except.ok.inj h
    exact ⟨fun _ _ hlookup => hlookup, fun _ hmem => absurd hmem List.not_mem_nil,
      fun _ _ hlookup => Or.inl hlookup⟩
  | cons entry rest ih =>
    intro acc acc' h
    unfold take_entries at h
    obtain ⟨next, hnext, h⟩ := bind_eq_ok.mp h
    obtain ⟨record, hwritten, hnew, hrecords⟩ := take_entry_written hnext
    obtain ⟨hkept, hlisted, hcases⟩ := ih h
    have hown : next.records.lookup entry.server_id = some record := by
      rw [hrecords, AList.lookup_insert]
    refine ⟨?_, ?_, ?_⟩
    · intro id old hold
      refine hkept id old ?_
      -- an id that is taken anew was not there
      have hne : id ≠ entry.server_id := by
        rintro rfl
        rw [hnew] at hold
        cases hold
      rw [hrecords, AList.lookup_insert_ne hne]
      exact hold
    · intro other hother
      rcases List.mem_cons.mp hother with rfl | hlater
      · exact ⟨record, hkept _ _ hown, hwritten⟩
      · exact hlisted other hlater
    · intro id found hfound
      rcases hcases id found hfound with hbefore | ⟨other, hother, hmade⟩
      · by_cases hid : id = entry.server_id
        · rw [hid, hown] at hbefore
          rw [← Option.some.inj hbefore]
          exact Or.inr ⟨entry, List.mem_cons_self, hid.symm, hwritten⟩
        · rw [hrecords, AList.lookup_insert_ne hid] at hbefore
          exact Or.inl hbefore
      · exact Or.inr ⟨other, List.mem_cons_of_mem _ hother, hmade⟩

end Records

/-! ## §2. Listed identities. -/

/-- The entry lists the identity, with its endpoints and no others. -/
structure Lists (P : Platform) (entry : SnapshotEntry) (identity : DnsServerIdentityV2) : Prop where
  server_id : entry.server_id = identity.server_id
  object_hash : normalize_hash entry.object_hash 32 = .ok (P.object_hash identity.to_value)
  object_version : entry.object_version = identity.object_version
  valid_until : entry.valid_until = identity.valid_until
  status : entry.status = "ACTIVE"
  bound : ∀ endpoint ∈ identity.endpoints, ∃ key, P.registry_key endpoint = .ok key ∧
    ∃ written ∈ entry.endpoint_keys, normalize_hash written 32 = .ok key
  only_bound : ∀ written ∈ entry.endpoint_keys, ∀ key, normalize_hash written 32 = .ok key →
    ∃ endpoint ∈ identity.endpoints, P.registry_key endpoint = .ok key

section Listed

variable {P : Platform} {state_root : String} {entry : SnapshotEntry} {record : RegistryRecord}
variable {identity : DnsServerIdentityV2}

theorem registry_keys_exists {endpoints : List DnsEndpoint}
    (h : ∀ endpoint ∈ endpoints, ∃ key, P.registry_key endpoint = .ok key) :
    ∃ keys, registry_keys P endpoints = .ok keys ∧
      ∀ key, key ∈ keys ↔ ∃ endpoint ∈ endpoints, P.registry_key endpoint = .ok key := by
  induction endpoints with
  | nil => exact ⟨[], rfl, by simp⟩
  | cons endpoint rest ih =>
    obtain ⟨key, hkey⟩ := h endpoint List.mem_cons_self
    obtain ⟨keys, hkeys, hmem⟩ := ih (fun later hlater => h later (List.mem_cons_of_mem _ hlater))
    refine ⟨key :: keys, ?_, ?_⟩
    · unfold registry_keys
      rw [hkey, hkeys]
      rfl
    · intro other
      rw [List.mem_cons, hmem other]
      constructor
      · rintro (rfl | ⟨later, hlater, heq⟩)
        · exact ⟨endpoint, List.mem_cons_self, hkey⟩
        · exact ⟨later, List.mem_cons_of_mem _ hlater, heq⟩
      · rintro ⟨found, hfound, heq⟩
        rcases List.mem_cons.mp hfound with rfl | hlater
        · exact Or.inl (Except.ok.inj (heq.symm.trans hkey))
        · exact Or.inr ⟨found, hlater, heq⟩

/-- A record is the identity's exactly if its entry lists the identity. -/
theorem Written.valid_iff (h : Written P state_root "ACTIVE" entry record)
    (hid : entry.server_id = identity.server_id) :
    validate_registry_record P identity record = .ok () ↔ Lists P entry identity := by
  constructor
  · intro hvalid
    have hmatches := matches_of_validate hvalid
    refine ⟨hid, ?_, ?_, ?_, ?_, ?_, ?_⟩
    · rw [h.object_hash, hmatches.object_hash]
    · rw [← h.object_version, hmatches.object_version]
    · rw [← h.valid_until, hmatches.valid_until]
    · rw [← h.resolver_status, hmatches.resolver_status]
    · intro endpoint hendpoint
      obtain ⟨key, hkey, howner⟩ := hmatches.owned endpoint hendpoint
      exact ⟨key, hkey, ((h.endpoint_owners key _).mp howner).2⟩
    · intro written hwritten key hkey
      unfold validate_registry_record at hvalid
      simp only [bind_eq_ok, exists_unit, mapError_eq_ok, rejectIf_eq_ok, Bool.or_eq_false_iff,
        bne_eq_false_iff_eq] at hvalid
      obtain ⟨_, keys, hkeys, hsame, _⟩ := hvalid
      -- a written key is one of those the identity has
      have hactual : key ∈ record.endpoint_owners.keys := by
        have howner := (h.endpoint_owners key _).mpr ⟨rfl, written, hwritten, hkey⟩
        rw [← AList.mem_keys, ← AList.lookup_isSome, howner]
        rfl
      have hexpected : key ∈ keys := by
        rw [← List.mem_toFinset, ← hsame, List.mem_toFinset]
        exact hactual
      have hall : ∀ endpoint ∈ identity.endpoints, ∃ key, P.registry_key endpoint = .ok key := by
        intro endpoint hendpoint
        obtain ⟨found, _, hfound⟩ := mem_registry_keys hkeys endpoint hendpoint
        exact ⟨found, hfound⟩
      obtain ⟨keys', hkeys', hmem⟩ := registry_keys_exists hall
      obtain rfl := Except.ok.inj (hkeys.symm.trans hkeys')
      exact (hmem key).mp hexpected
  · intro hlists
    have hall : ∀ endpoint ∈ identity.endpoints, ∃ key, P.registry_key endpoint = .ok key := by
      intro endpoint hendpoint
      obtain ⟨key, hkey, _⟩ := hlists.bound endpoint hendpoint
      exact ⟨key, hkey⟩
    obtain ⟨keys, hkeys, hmem⟩ := registry_keys_exists hall
    have hhash : record.object_hash = P.object_hash identity.to_value :=
      Except.ok.inj (h.object_hash.symm.trans hlists.object_hash)
    have hsame : record.endpoint_owners.keys.toFinset = keys.toFinset := by
      ext key
      rw [List.mem_toFinset, List.mem_toFinset, hmem key, ← AList.mem_keys, ← AList.lookup_isSome,
        Option.isSome_iff_exists]
      constructor
      · rintro ⟨owner, howner⟩
        obtain ⟨_, written, hwritten, hkey⟩ := (h.endpoint_owners key owner).mp howner
        exact hlists.only_bound written hwritten key hkey
      · rintro ⟨endpoint, hendpoint, hkey⟩
        obtain ⟨found, hfound, hwritten⟩ := hlists.bound endpoint hendpoint
        obtain rfl := Except.ok.inj (hkey.symm.trans hfound)
        exact ⟨_, (h.endpoint_owners key _).mpr ⟨rfl, hwritten⟩⟩
    have howners : ∀ entry' ∈ record.endpoint_owners.entries,
        entry'.2 = P.resolver_id_key identity.server_id := by
      rintro ⟨key, owner⟩ hentry
      rw [← hid]
      exact ((h.endpoint_owners key owner).mp (AList.mem_lookup_iff.mpr hentry)).1
    unfold validate_registry_record
    simp only [bind_eq_ok, exists_unit, mapError_eq_ok, rejectIf_eq_ok, Bool.or_eq_false_iff,
      bne_eq_false_iff_eq, List.any_eq_false, bne_iff_ne, not_not]
    exact ⟨⟨⟨⟨⟨⟨by rw [h.resolver_id_key, hid], hhash⟩, h.object_version.trans hlists.object_version⟩,
      h.valid_until.trans hlists.valid_until⟩, h.resolver_status.trans hlists.status⟩, h.root_status⟩,
      keys, hkeys, hsame, howners⟩

end Listed

/-! ## §3. Digests in full. -/

/-- A text of 64 lower-case digits behind `0x` is a digest. -/
theorem digest_of_chars {cs : List Char} (hlength : cs.length = 64)
    (hall : cs.all (fun c => (to_digit c).any (fun digit => Nat.digitChar digit = c)) = true) :
    IsDigest (String.ofList ('0' :: 'x' :: cs)) := by
  have hdigit : ∀ {c : Char} {digit : Nat}, to_digit c = some digit → digit < 16 := by
    intro c digit h
    unfold to_digit at h
    simp only [Bool.and_eq_true, decide_eq_true_eq] at h
    split_ifs at h with hdecimal hlower hupper
    · have heq := Option.some.inj h
      omega
    · have heq := Option.some.inj h
      omega
    · have heq := Option.some.inj h
      omega
  -- two digits at a time
  have hpairs : ∀ (n : Nat) (cs : List Char), cs.length = 2 * n →
      cs.all (fun c => (to_digit c).any (fun digit => Nat.digitChar digit = c)) = true →
        ∃ raw : List UInt8, raw.length = n ∧ cs = hex_encode raw := by
    intro n
    induction n with
    | zero =>
      intro cs hlength _
      exact ⟨[], rfl, List.length_eq_zero_iff.mp hlength⟩
    | succ n ih =>
      intro cs hlength hall
      cases cs with
      | nil => simp at hlength
      | cons a rest =>
        cases rest with
        | nil => simp at hlength; omega
        | cons b rest =>
          simp only [List.all_cons, Bool.and_eq_true, Option.any_eq_true, decide_eq_true_eq] at hall
          obtain ⟨⟨high, hhigh, ha⟩, ⟨low, hlow, hb⟩, hrest⟩ := hall
          have hhigh := hdigit hhigh
          have hlow := hdigit hlow
          obtain ⟨raw, hraw, heq⟩ := ih rest (by simp at hlength; omega) hrest
          have hbyte : (UInt8.ofNat (high * 16 + low)).toNat = high * 16 + low :=
            UInt8.toNat_ofNat_of_lt' (by show _ < 256; omega)
          have hdiv : (high * 16 + low) / 16 = high := by omega
          have hmod : (high * 16 + low) % 16 = low := by omega
          refine ⟨UInt8.ofNat (high * 16 + low) :: raw, by rw [List.length_cons, hraw], ?_⟩
          rw [hex_encode, hbyte, hdiv, hmod, ha, hb, heq]
  obtain ⟨raw, hraw, rfl⟩ := hpairs 32 cs hlength hall
  exact ⟨raw, hraw, rfl⟩

end ResolverIdentity.Chain
