/-
  ResolverIdentity.Sync.Admission: which snapshots are taken.

  A snapshot whose hashes are digests, as a publisher writes it, is taken exactly if each
  entry is sound, the ids ascend, no key or endpoint is there twice, and the root is the
  one of the entries.

  Main results:
    * `take_entries_iff`: the loop over the entries, as conditions on the entries;
    * `state_root_exists`: the root of ascending entries, always a digest;
    * `Norn.snapshot_records_iff`: which snapshots are taken.
-/
import ResolverIdentity.Sync.StateRoot

namespace ResolverIdentity.Sync

open Library Merkle

/-! ## §1. Digests. -/

/-- The characters of a digest after its prefix. -/
theorem hex_encode_chars (raw : List UInt8) :
    ∀ c ∈ hex_encode raw, c.toNat < 128 ∧ c.toLower = c ∧
      is_ascii_hexdigit (UInt8.ofNat c.toNat) = true := by
  have hdigit : ∀ digit < 16, (Nat.digitChar digit).toNat < 128 ∧
      (Nat.digitChar digit).toLower = Nat.digitChar digit ∧
        is_ascii_hexdigit (UInt8.ofNat (Nat.digitChar digit).toNat) = true := by decide
  induction raw with
  | nil => intro c hc; cases hc
  | cons byte rest ih =>
    have hbound := byte.toNat_lt
    intro c hc
    rcases List.mem_cons.mp hc with hhigh | hc
    · rw [hhigh]
      exact hdigit _ (by omega)
    · rcases List.mem_cons.mp hc with hlow | hrest
      · rw [hlow]
        exact hdigit _ (by omega)
      · exact ih c hrest

theorem hex_encode_length (raw : List UInt8) : (hex_encode raw).length = 2 * raw.length := by
  induction raw with
  | nil => rfl
  | cons byte rest ih =>
    rw [hex_encode, List.length_cons, List.length_cons, ih, List.length_cons]
    omega

/-- The bytes of ASCII characters are their codes. -/
theorem encode_ascii {chars : List Char} (h : ∀ c ∈ chars, c.toNat < 128) :
    chars.flatMap String.utf8EncodeChar = chars.map (fun c => UInt8.ofNat c.toNat) := by
  induction chars with
  | nil => rfl
  | cons c rest ih =>
    have hc : c.toNat < 128 := h c List.mem_cons_self
    have hone : String.utf8EncodeChar c = [UInt8.ofNat c.toNat] := by
      have hall : ∀ n < 128, String.utf8EncodeChar (Char.ofNat n) = [UInt8.ofNat n] := by
        decide +kernel
      have hn := hall c.toNat hc
      rwa [Char.ofNat_toNat] at hn
    rw [List.flatMap_cons, hone, ih (fun d hd => h d (List.mem_cons_of_mem c hd))]
    rfl

theorem as_bytes_digest {raw : List UInt8} :
    as_bytes (String.ofList ('0' :: 'x' :: hex_encode raw)) =
      48 :: 120 :: (hex_encode raw).map (fun c => UInt8.ofNat c.toNat) := by
  rw [Json.as_bytes_eq, String.toList_ofList, encode_ascii]
  · rfl
  · intro c hc
    rcases List.mem_cons.mp hc with hzero | hc
    · rw [hzero]
      decide
    · rcases List.mem_cons.mp hc with hx | hrest
      · rw [hx]
        decide
      · exact (hex_encode_chars raw c hrest).1

/-- A digest is normalized already. -/
theorem IsDigest.normalize {text : String} (h : IsDigest text) : normalize_hash text 32 = .ok text := by
  obtain ⟨raw, hlength, heq⟩ := h
  have hlower : to_ascii_lowercase text = text := by
    rw [heq]
    unfold to_ascii_lowercase
    rw [String.toList_ofList]
    refine congrArg String.ofList ?_
    rw [List.map_cons, List.map_cons]
    have hsame : (hex_encode raw).map Char.toLower = hex_encode raw :=
      (List.map_congr_left (fun c hc => (hex_encode_chars raw c hc).2.1)).trans (List.map_id _)
    rw [hsame]
    rfl
  have hbytes : as_bytes text = 48 :: 120 :: (hex_encode raw).map (fun c => UInt8.ofNat c.toNat) := by
    rw [heq, as_bytes_digest]
  have hsize : text.utf8ByteSize = (as_bytes text).length := rfl
  have hprefix : as_bytes "0x" = [48, 120] := by decide +kernel
  unfold normalize_hash
  simp only [hlower, bind_eq_ok, exists_unit, rejectIf_eq_ok, Bool.not_eq_false', and_true,
    bne_eq_false_iff_eq]
  constructor
  · rw [heq, String.toList_ofList]
    rfl
  · unfold is_hex_width is_hex_text
    rw [hsize, hbytes, hprefix]
    simp only [List.length_cons, List.length_map, hex_encode_length, hlength, List.take_succ_cons,
      List.take_zero, List.drop_succ_cons, List.drop_zero, decide_true, Bool.true_and]
    rw [List.all_map, List.all_eq_true]
    intro c hc
    exact (hex_encode_chars raw c hc).2.2

/-! ## §2. The loop over the entries. -/

section Loop

variable {P : Platform} {wording : Wording} {root root_status : String}

/-- The hashes of an entry are digests, as a publisher writes them. -/
structure SnapshotEntry.Digests (entry : SnapshotEntry) : Prop where
  resolver_id_key : IsDigest entry.resolver_id_key
  object_hash : IsDigest entry.object_hash
  endpoint_keys : ∀ endpoint ∈ entry.endpoint_keys, IsDigest endpoint

/-- What the adapters ask of an entry on its own. -/
structure SnapshotEntry.Sound (P : Platform) (entry : SnapshotEntry) : Prop where
  server_id : entry.server_id ≠ "" ∧ entry.server_id.utf8ByteSize ≤ 256
  object_version : entry.object_version ≠ 0
  valid_until : 0 < entry.valid_until
  status : entry.status ≠ "" ∧ entry.status.utf8ByteSize ≤ 32
  endpoint_keys : entry.endpoint_keys ≠ [] ∧ entry.endpoint_keys.length ≤ 32
  resolver_id_key : entry.resolver_id_key = P.resolver_id_key entry.server_id

/-- The endpoints of an entry are taken if they are new, and each of them once. -/
theorem take_endpoints_iff {key : String} {endpoints : List String}
    (hdigests : ∀ endpoint ∈ endpoints, IsDigest endpoint) :
    ∀ (all_endpoints : List String) (owners : AList (fun _ : String => String)),
      all_endpoints.Nodup → ((∃ out, take_endpoints wording key endpoints all_endpoints owners =
          .ok out) ↔ (endpoints.reverse ++ all_endpoints).Nodup) := by
  induction endpoints with
  | nil =>
    intro all_endpoints owners hnodup
    exact ⟨fun _ => hnodup, fun _ => ⟨_, rfl⟩⟩
  | cons endpoint rest ih =>
    intro all_endpoints owners hnodup
    have hnormal := (hdigests endpoint List.mem_cons_self).normalize
    have hlater := ih (fun later hlater => hdigests later (List.mem_cons_of_mem _ hlater))
    unfold take_endpoints
    rw [hnormal, ok_bind, List.reverse_cons, List.append_assoc, List.singleton_append]
    by_cases hmem : endpoint ∈ all_endpoints
    · -- the endpoint was there before
      rw [List.contains_iff_mem.mpr hmem]
      refine ⟨fun h => ?_, fun h => ?_⟩
      · obtain ⟨_, h⟩ := h
        cases h
      · have hboth := (List.nodup_append.mp h).2.1
        exact absurd hmem (List.nodup_cons.mp hboth).1
    · have hnew : all_endpoints.contains endpoint = false := by
        rw [← Bool.not_eq_true, List.contains_iff_mem]
        exact hmem
      rw [hnew]
      exact hlater (endpoint :: all_endpoints) _ (List.nodup_cons.mpr ⟨hmem, hnodup⟩)

/-- All of them are there afterwards. -/
theorem all_of_take_endpoints {key : String} {endpoints : List String}
    (hdigests : ∀ endpoint ∈ endpoints, IsDigest endpoint) :
    ∀ {all_endpoints : List String} {owners : AList (fun _ : String => String)}
      {out : List String × AList (fun _ : String => String)},
      take_endpoints wording key endpoints all_endpoints owners = .ok out →
        out.1 = endpoints.reverse ++ all_endpoints := by
  induction endpoints with
  | nil =>
    intro all_endpoints owners out h
    rw [← Except.ok.inj h]
    rfl
  | cons endpoint rest ih =>
    intro all_endpoints owners out h
    have hnormal := (hdigests endpoint List.mem_cons_self).normalize
    unfold take_endpoints at h
    rw [hnormal] at h
    simp only [ok_bind, bind_eq_ok, exists_unit, rejectIf_eq_ok] at h
    rw [ih (fun later hlater => hdigests later (List.mem_cons_of_mem _ hlater)) h.2,
      List.reverse_cons, List.append_assoc, List.singleton_append]

variable {entry : SnapshotEntry} {acc next : Collected}

/-- An entry is taken if it is sound and new. -/
theorem take_entry_iff (hdigests : entry.Digests) (hendpoints : acc.all_endpoints.Nodup) :
    (∃ next, take_entry P wording root root_status acc entry = .ok next) ↔
      entry.Sound P ∧ entry.resolver_id_key ∉ acc.resolver_keys ∧
        (entry.endpoint_keys.reverse ++ acc.all_endpoints).Nodup ∧
          entry.server_id ∉ acc.records := by
  have htaken := @take_endpoints_iff wording entry.resolver_id_key _
    hdigests.endpoint_keys acc.all_endpoints ∅ hendpoints
  have hlookup : (acc.records.lookup entry.server_id).isSome = false ↔
      entry.server_id ∉ acc.records := by
    rw [← Bool.not_eq_true, AList.lookup_isSome]
  unfold take_entry
  rw [hdigests.resolver_id_key.normalize, hdigests.object_hash.normalize]
  simp only [ok_bind, bind_eq_ok, exists_unit, rejectIf_eq_ok, hlookup, Bool.or_eq_false_iff,
    decide_eq_false_iff_not, bne_eq_false_iff_eq, List.isEmpty_eq_false_iff, not_lt, not_le]
  constructor
  · intro h
    obtain ⟨next, hchecks, out, hout, hnew, _⟩ := h
    obtain ⟨hchecks, hfresh⟩ := hchecks
    obtain ⟨⟨⟨⟨⟨⟨⟨hid, hversion⟩, hvalid⟩, hstatus⟩, hwidth⟩, hsome⟩, hfew⟩, hkey⟩ := hchecks
    refine ⟨⟨hid, hversion, hvalid, ⟨hstatus, hwidth⟩, ⟨hsome, hfew⟩, hkey⟩, ?_, ?_, hnew⟩
    · intro hmem
      rw [List.contains_iff_mem.mpr hmem] at hfresh
      cases hfresh
    · exact htaken.mp ⟨out, hout⟩
  · intro h
    obtain ⟨hsound, hfresh, hnodup, hnew⟩ := h
    obtain ⟨out, hout⟩ := htaken.mpr hnodup
    have hcontains : acc.resolver_keys.contains entry.resolver_id_key = false := by
      rw [← Bool.not_eq_true, List.contains_iff_mem]
      exact hfresh
    exact ⟨_, ⟨⟨⟨⟨⟨⟨⟨⟨hsound.server_id, hsound.object_version⟩, hsound.valid_until⟩,
      hsound.status.1⟩, hsound.status.2⟩, hsound.endpoint_keys.1⟩, hsound.endpoint_keys.2⟩,
        hsound.resolver_id_key⟩, hcontains⟩, out, hout, hnew, rfl⟩

/-- What is there after an entry is what was there and the entry. -/
theorem next_of_take_entry (hdigests : entry.Digests)
    (h : take_entry P wording root root_status acc entry = .ok next) :
    next.resolver_keys = entry.resolver_id_key :: acc.resolver_keys ∧
      next.all_endpoints = entry.endpoint_keys.reverse ++ acc.all_endpoints ∧
        next.records.keys = entry.server_id :: acc.records.keys := by
  unfold take_entry at h
  rw [hdigests.resolver_id_key.normalize, hdigests.object_hash.normalize] at h
  simp only [ok_bind, bind_eq_ok, exists_unit, rejectIf_eq_ok, Except.ok.injEq] at h
  obtain ⟨_, out, hout, hnew, hmade⟩ := h
  rw [← hmade]
  refine ⟨rfl, all_of_take_endpoints hdigests.endpoint_keys hout, ?_⟩
  show (acc.records.insert entry.server_id _).keys = _
  rw [AList.keys_insert, List.erase_of_not_mem]
  intro hmem
  have hsome := AList.lookup_isSome.mpr (AList.mem_keys.mp hmem)
  rw [hnew] at hsome
  cases hsome

/-- No key, endpoint or id is there twice, what was collected before included. -/
structure Apart (entries : List SnapshotEntry) (acc : Collected) : Prop where
  resolver_keys :
    ((entries.map (fun entry => entry.resolver_id_key)).reverse ++ acc.resolver_keys).Nodup
  all_endpoints :
    ((entries.flatMap (fun entry => entry.endpoint_keys)).reverse ++ acc.all_endpoints).Nodup
  records : ((entries.map (fun entry => entry.server_id)).reverse ++ acc.records.keys).Nodup

/-- An entry more in the list is an entry more collected. -/
theorem apart_cons {rest : List SnapshotEntry} (hdigests : entry.Digests)
    (h : take_entry P wording root root_status acc entry = .ok next) :
    Apart (entry :: rest) acc ↔ Apart rest next := by
  obtain ⟨hkeys, hendpoints, hids⟩ := next_of_take_entry hdigests h
  constructor
  · intro h
    obtain ⟨hk, he, hi⟩ := h
    refine ⟨?_, ?_, ?_⟩
    · rw [hkeys]
      rwa [List.map_cons, List.reverse_cons, List.append_assoc] at hk
    · rw [hendpoints]
      rwa [List.flatMap_cons, List.reverse_append, List.append_assoc] at he
    · rw [hids]
      rwa [List.map_cons, List.reverse_cons, List.append_assoc] at hi
  · intro h
    obtain ⟨hk, he, hi⟩ := h
    refine ⟨?_, ?_, ?_⟩
    · rw [hkeys] at hk
      rwa [List.map_cons, List.reverse_cons, List.append_assoc]
    · rw [hendpoints] at he
      rwa [List.flatMap_cons, List.reverse_append, List.append_assoc]
    · rw [hids] at hi
      rwa [List.map_cons, List.reverse_cons, List.append_assoc]

/-- The entries are taken if each is sound and no two share anything. -/
theorem take_entries_iff {entries : List SnapshotEntry} :
    ∀ {acc : Collected}, (∀ entry ∈ entries, entry.Digests) → acc.resolver_keys.Nodup →
      acc.all_endpoints.Nodup →
        ((∃ final, take_entries P wording root root_status entries acc = .ok final) ↔
          (∀ entry ∈ entries, entry.Sound P) ∧ Apart entries acc) := by
  induction entries with
  | nil =>
    intro acc _ hkeys hendpoints
    refine ⟨fun _ => ⟨fun entry hmem => (nomatch hmem), ?_⟩, fun _ => ⟨acc, rfl⟩⟩
    exact ⟨hkeys, hendpoints, acc.records.nodupKeys⟩
  | cons entry rest ih =>
    intro acc hdigests hkeys hendpoints
    have hentry := hdigests entry List.mem_cons_self
    have hlater : ∀ later ∈ rest, later.Digests :=
      fun later hlater => hdigests later (List.mem_cons_of_mem entry hlater)
    have hfirst := @take_entry_iff P wording root root_status _ _ hentry hendpoints
    unfold take_entries
    simp only [bind_eq_ok]
    constructor
    · intro h
      obtain ⟨final, next, hnext, hfinal⟩ := h
      obtain ⟨hsound, hfresh, hnodup, _⟩ := hfirst.mp ⟨next, hnext⟩
      obtain ⟨hk, he, _⟩ := next_of_take_entry hentry hnext
      obtain ⟨hrest, hapart⟩ := (ih hlater (by rw [hk]; exact List.nodup_cons.mpr ⟨hfresh, hkeys⟩)
        (by rw [he]; exact hnodup)).mp ⟨final, hfinal⟩
      refine ⟨?_, (apart_cons hentry hnext).mpr hapart⟩
      intro other hmem
      rcases List.mem_cons.mp hmem with heq | hmem
      · rw [heq]
        exact hsound
      · exact hrest other hmem
    · intro h
      obtain ⟨hsound, hapart⟩ := h
      -- the entry itself is the first of those that are apart
      have hfresh : (entry.resolver_id_key :: acc.resolver_keys).Nodup := by
        have hk := hapart.resolver_keys
        rw [List.map_cons, List.reverse_cons, List.append_assoc] at hk
        exact (List.nodup_append.mp hk).2.1
      have hnodup : (entry.endpoint_keys.reverse ++ acc.all_endpoints).Nodup := by
        have he := hapart.all_endpoints
        rw [List.flatMap_cons, List.reverse_append, List.append_assoc] at he
        exact (List.nodup_append.mp he).2.1
      have hnew : (entry.server_id :: acc.records.keys).Nodup := by
        have hi := hapart.records
        rw [List.map_cons, List.reverse_cons, List.append_assoc] at hi
        exact (List.nodup_append.mp hi).2.1
      obtain ⟨next, hnext⟩ := hfirst.mpr ⟨hsound entry List.mem_cons_self,
        (List.nodup_cons.mp hfresh).1, hnodup,
        fun hmem => (List.nodup_cons.mp hnew).1 (AList.mem_keys.mpr hmem)⟩
      obtain ⟨hk, he, _⟩ := next_of_take_entry hentry hnext
      obtain ⟨final, hfinal⟩ := (ih hlater (by rw [hk]; exact hfresh) (by rw [he]; exact hnodup)).mpr
        ⟨fun later hmem => hsound later (List.mem_cons_of_mem entry hmem),
          (apart_cons hentry hnext).mp hapart⟩
      exact ⟨final, next, hnext, hfinal⟩

/-- The records are those of the entries. -/
theorem keys_of_take_entries {entries : List SnapshotEntry} :
    ∀ {acc final : Collected}, (∀ entry ∈ entries, entry.Digests) →
      take_entries P wording root root_status entries acc = .ok final →
        final.records.keys =
          (entries.map (fun entry => entry.server_id)).reverse ++ acc.records.keys := by
  induction entries with
  | nil =>
    intro acc final _ h
    rw [← Except.ok.inj h]
    rfl
  | cons entry rest ih =>
    intro acc final hdigests h
    unfold take_entries at h
    obtain ⟨next, hnext, h⟩ := bind_eq_ok.mp h
    obtain ⟨_, _, hids⟩ := next_of_take_entry (hdigests entry List.mem_cons_self) hnext
    rw [ih (fun later hlater => hdigests later (List.mem_cons_of_mem entry hlater)) h, hids,
      List.map_cons, List.reverse_cons, List.append_assoc, List.singleton_append]

end Loop

/-! ## §3. The root. -/

section Root

variable {P : Platform} {unsorted : String}

/-- The leaves of ascending entries are there. -/
theorem leaves_exists {entries : List SnapshotEntry} :
    ∀ {previous : Option String}, (∀ entry ∈ entries, entry.Digests) →
      (∀ before ∈ previous, ∀ entry ∈ entries.head?, before < entry.server_id) →
        (entries.map (fun entry => entry.server_id)).Pairwise (· < ·) →
          ∃ level, leaves P unsorted previous entries = .ok level := by
  induction entries with
  | nil =>
    intro previous _ _ _
    exact ⟨[], rfl⟩
  | cons entry rest ih =>
    intro previous hdigests hbefore hsorted
    have hentry := hdigests entry List.mem_cons_self
    have hascends : previous.any (fun before => decide (entry.server_id ≤ before)) = false := by
      cases previous with
      | none => rfl
      | some before =>
        have hlt := hbefore before rfl entry rfl
        exact decide_eq_false (String.not_le.mpr hlt)
    rw [List.map_cons, List.pairwise_cons] at hsorted
    obtain ⟨hfirst, hrest⟩ := hsorted
    have hnext : ∀ before ∈ some entry.server_id, ∀ later ∈ rest.head?,
        before < later.server_id := by
      intro before hbefore later hlater
      rw [← Option.some.inj hbefore]
      exact hfirst _ (List.mem_map_of_mem (List.mem_of_mem_head? hlater))
    obtain ⟨level, hlevel⟩ := ih
      (fun later hlater => hdigests later (List.mem_cons_of_mem entry hlater)) hnext hrest
    unfold leaves
    rw [hascends, hentry.resolver_id_key.normalize, hentry.object_hash.normalize]
    exact ⟨_, by rw [ok_bind, ok_bind, hlevel]; rfl⟩

variable (hdigest : ∀ bytes, IsDigest (P.sha256_hex bytes)) {entries : List SnapshotEntry}

include hdigest

/-- Ascending entries have a root, and it is a digest. -/
theorem state_root_exists (hdigests : ∀ entry ∈ entries, entry.Digests)
    (hsorted : (entries.map (fun entry => entry.server_id)).Pairwise (· < ·)) :
    ∃ root, state_root P unsorted entries = .ok root ∧ IsDigest root := by
  obtain ⟨level, hlevel⟩ := @leaves_exists P unsorted _ none
    hdigests (fun before hbefore => by cases hbefore) hsorted
  have hlevel_eq := (leaves_eq_ok hlevel).1
  have hdigests_level : ∀ digest ∈ level, IsDigest digest := by
    intro digest hmem
    rw [hlevel_eq] at hmem
    obtain ⟨text, _, heq⟩ := List.mem_map.mp hmem
    rw [← heq]
    exact hdigest _
  have hreduced := reduce_eq_climb hdigest level.length hdigests_level
  unfold state_root
  rw [hlevel, ok_bind]
  cases entries with
  | nil =>
    rw [hlevel_eq]
    exact ⟨_, rfl, hdigest _⟩
  | cons entry rest =>
    -- one node is left, the digest of the tree over the leaves
    obtain ⟨t, ht⟩ := trees_eq_singleton (List.cons_ne_nil (committed_text entry.committed)
      (committed_texts rest))
    have hclimb : reduce P level.length level = .ok [tree_digest P t] := by
      rw [hreduced, hlevel_eq, climb_digests, List.length_map]
      exact congrArg (fun trees => Except.ok (trees.map (tree_digest P))) ht
    have hnonempty : level.isEmpty = false := by
      rw [hlevel_eq]
      rfl
    rw [hnonempty, hclimb]
    refine ⟨tree_digest P t, rfl, ?_⟩
    rw [tree_digest_eq]
    exact hdigest _

end Root

/-! ## §4. The snapshots taken. -/

section Snapshots

variable {P : Platform}

/-- A snapshot of ascending entries with their own root is taken exactly if its entries are
sound and share nothing; the records are then those of the entries. -/
theorem Norn.snapshot_records_iff {snapshot : RegistrySnapshot}
    (hdigests : ∀ entry ∈ snapshot.entries, entry.Digests) (hroot : IsDigest snapshot.state_root)
    (heq : Norn.norn_state_root P snapshot.entries = .ok snapshot.state_root) :
    (∃ records, Norn.snapshot_records P snapshot = .ok records) ↔
      (∀ entry ∈ snapshot.entries, entry.Sound P) ∧ Apart snapshot.entries ⟨∅, [], []⟩ := by
  unfold Norn.snapshot_records
  rw [hroot.normalize, ok_bind, heq, ok_bind]
  simp only [bne_self_eq_false]
  rw [← @take_entries_iff P Norn.wording snapshot.state_root snapshot.root_status _ _
    hdigests List.nodup_nil List.nodup_nil]
  constructor
  · intro h
    obtain ⟨records, h⟩ := h
    simp only [bind_eq_ok, exists_unit, rejectIf_eq_ok] at h
    obtain ⟨_, acc, hacc, _⟩ := h
    exact ⟨acc, hacc⟩
  · intro h
    obtain ⟨acc, hacc⟩ := h
    exact ⟨acc.records, bind_eq_ok.mpr ⟨(), rfl, bind_eq_ok.mpr ⟨acc, hacc, rfl⟩⟩⟩

theorem Norn.keys_of_snapshot_records {snapshot : RegistrySnapshot}
    (hdigests : ∀ entry ∈ snapshot.entries, entry.Digests)
    {records : AList (fun _ : String => RegistryRecord)}
    (h : Norn.snapshot_records P snapshot = .ok records) :
    records.keys = (snapshot.entries.map (fun entry => entry.server_id)).reverse := by
  unfold Norn.snapshot_records at h
  simp only [bind_eq_ok, exists_unit, rejectIf_eq_ok, Except.ok.injEq] at h
  obtain ⟨_, _, _, _, _, acc, hacc, heq⟩ := h
  rw [← heq, keys_of_take_entries hdigests hacc]
  exact List.append_nil _

end Snapshots

end ResolverIdentity.Sync
