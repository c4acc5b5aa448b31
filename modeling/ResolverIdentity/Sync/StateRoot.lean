/-
  ResolverIdentity.Sync.StateRoot: Registry snapshots and their state root.

  `snapshot_records` and the state roots of `ri-chain-adapter/src/norn.rs` and
  `external.rs`.  The two adapters do the same under their own names.

  Main results:
    * `reduce_eq_climb`: the loop over the levels, as the climb of a Merkle tree;
    * `leaf_text_injective`: a leaf's text determines what it was made of;
    * `committed_of_root`: accepted lists with one root commit to the same states.
-/
import ResolverIdentity.Core.JsonText
import ResolverIdentity.Library.Merkle
import ResolverIdentity.Sync.EvmAdapter

namespace ResolverIdentity.Sync

open Library Merkle

/-! ## §1. The state root. -/

/-- An entry of a snapshot, as both adapters have it. -/
structure SnapshotEntry where
  server_id : String
  resolver_id_key : String
  object_hash : String
  object_version : Nat
  valid_until : Int
  status : String
  endpoint_keys : List String

/-- `hex::decode`. -/
def hex_decode : List Char → Except String (List UInt8)
  | [] => .ok []
  | [_] => .error "Odd number of digits"
  | a :: b :: rest => do
    let high ← okOr (to_digit a) "Invalid character"
    let low ← okOr (to_digit b) "Invalid character"
    let bytes ← hex_decode rest
    .ok (UInt8.ofNat (high * 16 + low) :: bytes)

/-- `trim_start_matches("0x")`. -/
def trim_hex_prefix : List Char → List Char
  | '0' :: 'x' :: rest => trim_hex_prefix rest
  | chars => chars

/-- `to_ascii_uppercase`. -/
def to_ascii_uppercase (text : String) : String := String.ofList (text.toList.map Char.toUpper)

/-- The text of a leaf. -/
def leaf_text (resolver_key object_hash : String) (object_version : Nat) (status : String) :
    String :=
  "resolver-leaf-v1|" ++ (resolver_key ++ ("|" ++ (object_hash ++ ("|" ++
    (toString object_version ++ ("|" ++ status))))))

section Roots

variable (P : Platform)

/-- The loop over the entries: one leaf each, in the order of their ids. -/
def leaves (unsorted : String) : Option String → List SnapshotEntry → Except String (List String)
  | _, [] => .ok []
  | previous_server_id, entry :: rest => do
    rejectIf (previous_server_id.any (fun previous => entry.server_id ≤ previous)) unsorted
    let resolver_key ← normalize_hash entry.resolver_id_key 32
    let object_hash ← normalize_hash entry.object_hash 32
    let level ← leaves unsorted (some entry.server_id) rest
    .ok (P.sha256_hex (as_bytes (leaf_text resolver_key object_hash entry.object_version
      (to_ascii_uppercase entry.status))) :: level)

/-- The bytes of an inner node. -/
def node_payload (left right : String) : Except String (List UInt8) := do
  let left ← hex_decode ( trim_hex_prefix left.toList)
  let right ← hex_decode ( trim_hex_prefix right.toList)
  .ok (as_bytes "node-v1" ++ left ++ right)

/-- One pass over `level.chunks(2)`. -/
def next_level : List String → Except String (List String)
  | [] => .ok []
  | [left] => do
    let payload ← node_payload left left
    .ok [P.sha256_hex payload]
  | left :: right :: rest => do
    let payload ← node_payload left right
    let next ← next_level rest
    .ok (P.sha256_hex payload :: next)

/-- `while level.len() > 1`; `fuel` bounds the passes. -/
def reduce : Nat → List String → Except String (List String)
  | 0, level => .ok level
  | fuel + 1, level =>
    if level.length ≤ 1 then .ok level
    else do
      let next ← next_level P level
      reduce fuel next

/-- The root over the entries, which must be sorted. -/
def state_root (unsorted : String) (entries : List SnapshotEntry) : Except String String := do
  let level ← leaves P unsorted none entries
  if level.isEmpty then .ok (P.sha256_hex (as_bytes "empty-root-v1"))
  else do
    let level ← reduce P level.length level
    okOr level.head? "removal index (is 0) should be < len (is 0)"

end Roots

/-! ## §2. The records. -/

/-- What the loop over the entries has collected. -/
structure Collected where
  records : AList (fun _ : String => RegistryRecord)
  resolver_keys : List String
  all_endpoints : List String

section Records

variable (P : Platform)

/-- The names an adapter has for what it refuses. -/
structure Wording where
  unsorted : String
  invalid_entry : String
  duplicate_endpoint : String
  duplicate_server_id : String

/-- The loop over the endpoints of an entry. -/
def take_endpoints (wording : Wording) (resolver_key : String) : List String → List String →
    AList (fun _ : String => String) → Except String (List String × AList (fun _ : String => String))
  | [], all_endpoints, endpoint_owners => .ok (all_endpoints, endpoint_owners)
  | endpoint :: rest, all_endpoints, endpoint_owners => do
    let endpoint ← normalize_hash endpoint 32
    rejectIf (all_endpoints.contains endpoint) (wording.duplicate_endpoint ++ endpoint)
    take_endpoints wording resolver_key rest (endpoint :: all_endpoints)
      (endpoint_owners.insert endpoint resolver_key)

/-- One more entry: its keys are new. -/
def take_entry (wording : Wording) (state_root root_status : String) (acc : Collected)
    (entry : SnapshotEntry) : Except String Collected := do
  let resolver_key ← normalize_hash entry.resolver_id_key 32
  rejectIf (entry.server_id = "" || 256 < entry.server_id.utf8ByteSize ||
      entry.object_version = 0 || entry.valid_until ≤ 0 ||
      entry.status = "" || 32 < entry.status.utf8ByteSize ||
      entry.endpoint_keys.isEmpty || 32 < entry.endpoint_keys.length ||
      resolver_key != P.resolver_id_key entry.server_id ||
      acc.resolver_keys.contains resolver_key)
    (wording.invalid_entry ++ entry.server_id)
  let (all_endpoints, endpoint_owners) ←
    take_endpoints wording resolver_key entry.endpoint_keys acc.all_endpoints ∅
  let object_hash ← normalize_hash entry.object_hash 32
  rejectIf (acc.records.lookup entry.server_id).isSome
    (wording.duplicate_server_id ++ entry.server_id)
  .ok { records := acc.records.insert entry.server_id {
          resolver_id_key := resolver_key
          object_hash
          state_root
          object_version := entry.object_version
          valid_until := entry.valid_until
          resolver_status := entry.status
          root_status
          endpoint_owners }
        resolver_keys := resolver_key :: acc.resolver_keys
        all_endpoints }

/-- The loop over the entries. -/
def take_entries (wording : Wording) (state_root root_status : String) :
    List SnapshotEntry → Collected → Except String Collected
  | [], acc => .ok acc
  | entry :: rest, acc => do
    let acc ← take_entry P wording state_root root_status acc entry
    take_entries wording state_root root_status rest acc

end Records

/-! ## §3. The two adapters. -/

/-- A snapshot, as far as its records go. -/
structure RegistrySnapshot where
  state_root : String
  root_status : String
  entries : List SnapshotEntry

namespace Norn

variable (P : Platform)

/-- The texts of this adapter. -/
def wording : Wording where
  unsorted := "Norn snapshot entries must be sorted by unique server_id"
  invalid_entry := "invalid Norn snapshot entry "
  duplicate_endpoint := "duplicate Norn Registry endpoint "
  duplicate_server_id := "duplicate Norn server_id "

/-- The root of the Norn adapter. -/
def norn_state_root (entries : List SnapshotEntry) : Except String String :=
  state_root P wording.unsorted entries

/-- The records of a snapshot whose root is right. -/
def snapshot_records (snapshot : RegistrySnapshot) :
    Except String (AList (fun _ : String => RegistryRecord)) := do
  let state_root ← normalize_hash snapshot.state_root 32
  let calculated_root ← norn_state_root P snapshot.entries
  rejectIf (calculated_root != state_root)
    ("Norn snapshot state root mismatch: expected " ++ state_root ++ ", got " ++ calculated_root)
  let acc ← take_entries P wording state_root snapshot.root_status snapshot.entries ⟨∅, [], []⟩
  .ok acc.records

end Norn

namespace External

variable (P : Platform)

/-- The texts of this adapter. -/
def wording : Wording where
  unsorted := "external snapshot entries must be sorted by unique server_id"
  invalid_entry := "invalid external snapshot entry "
  duplicate_endpoint := "duplicate external Registry endpoint "
  duplicate_server_id := "duplicate external server_id "

/-- The root of the external adapter. -/
def external_state_root (entries : List SnapshotEntry) : Except String String :=
  state_root P wording.unsorted entries

/-- The records of a snapshot under the root that was read with it. -/
def snapshot_records (snapshot : RegistrySnapshot) (state_root : String) :
    Except String (AList (fun _ : String => RegistryRecord)) := do
  let acc ← take_entries P wording state_root snapshot.root_status snapshot.entries ⟨∅, [], []⟩
  .ok acc.records

/-- The end of `validate_snapshot`, where the root is compared. -/
def validated_records (snapshot : RegistrySnapshot) :
    Except String (AList (fun _ : String => RegistryRecord)) := do
  let state_root ← normalize_hash snapshot.state_root 32
  let calculated_root ← external_state_root P snapshot.entries
  rejectIf (calculated_root != state_root)
    ("external snapshot state root mismatch: expected " ++ state_root ++ ", got " ++
      calculated_root)
  snapshot_records P snapshot state_root

end External

/-! ## §4. Digests. -/

/-- `hex::encode`. -/
def hex_encode : List UInt8 → List Char
  | [] => []
  | byte :: rest =>
    Nat.digitChar (byte.toNat / 16) :: Nat.digitChar (byte.toNat % 16) :: hex_encode rest

/-- The form of `sha256_hex`: 32 bytes in lower-case hexadecimal. -/
def IsDigest (text : String) : Prop :=
  ∃ raw : List UInt8, raw.length = 32 ∧ text = String.ofList ('0' :: 'x' :: hex_encode raw)

/-- The bytes of a digest. -/
def digest_bytes (text : String) : List UInt8 :=
  ((hex_decode ( trim_hex_prefix text.toList)).toOption).getD []

theorem hex_decode_encode (raw : List UInt8) : hex_decode (hex_encode raw) = .ok raw := by
  induction raw with
  | nil => rfl
  | cons byte rest ih =>
    have hbound := byte.toNat_lt
    have hhigh := to_digit_digitChar (byte.toNat / 16) (by omega)
    have hlow := to_digit_digitChar (byte.toNat % 16) (by omega)
    have hbyte : UInt8.ofNat (byte.toNat / 16 * 16 + byte.toNat % 16) = byte := by
      rw [Nat.div_add_mod', UInt8.ofNat_toNat]
    simp only [hex_encode, hex_decode, hhigh, hlow, okOr, ok_bind, ih, hbyte]

/-- No hexadecimal digit is an `x`. -/
theorem trim_hex_prefix_encode (raw : List UInt8) :
    trim_hex_prefix ('0' :: 'x' :: hex_encode raw) = hex_encode raw := by
  have hdigit : ∀ digit < 16, Nat.digitChar digit ≠ 'x' := by decide
  rw [ trim_hex_prefix]
  cases raw with
  | nil => rfl
  | cons byte rest =>
    have hbound := byte.toNat_lt
    rw [hex_encode, trim_hex_prefix.eq_2]
    intro later hcons
    exact hdigit _ (Nat.mod_lt _ (by decide)) (List.cons.inj (List.cons.inj hcons).2).1

theorem decode_digest {raw : List UInt8} :
    hex_decode ( trim_hex_prefix (String.ofList ('0' :: 'x' :: hex_encode raw)).toList) =
      .ok raw := by
  rw [String.toList_ofList, trim_hex_prefix_encode, hex_decode_encode]

theorem digest_bytes_ofList (raw : List UInt8) :
    digest_bytes (String.ofList ('0' :: 'x' :: hex_encode raw)) = raw := by
  unfold digest_bytes
  rw [decode_digest]
  rfl

theorem IsDigest.decode {text : String} (h : IsDigest text) :
    hex_decode ( trim_hex_prefix text.toList) = .ok (digest_bytes text) := by
  obtain ⟨raw, _, heq⟩ := h
  rw [heq, digest_bytes_ofList, decode_digest]

theorem IsDigest.length {text : String} (h : IsDigest text) : (digest_bytes text).length = 32 := by
  obtain ⟨raw, hlength, heq⟩ := h
  rw [heq, digest_bytes_ofList, hlength]

/-- The bytes of a digest determine its text. -/
theorem IsDigest.text_eq {a b : String} (ha : IsDigest a) (hb : IsDigest b)
    (h : digest_bytes a = digest_bytes b) : a = b := by
  obtain ⟨raw, _, heq⟩ := ha
  obtain ⟨raw', _, heq'⟩ := hb
  rw [heq, heq', digest_bytes_ofList, digest_bytes_ofList] at h
  rw [heq, heq', h]

/-! ## §5. The levels, as a tree. -/

section Levels

variable {P : Platform}

/-- What is hashed for a node over two digests. -/
def parent_payload (left right : String) : List UInt8 :=
  as_bytes "node-v1" ++ digest_bytes left ++ digest_bytes right

variable (P) in
/-- The hash of an inner node. -/
def parent_digest (left right : String) : String := P.sha256_hex (parent_payload left right)

theorem node_payload_eq {left right : String} (hleft : IsDigest left) (hright : IsDigest right) :
    node_payload left right = .ok (parent_payload left right) := by
  unfold node_payload
  rw [hleft.decode, hright.decode]
  rfl

theorem next_level_eq_parents {level : List String} (hlevel : ∀ digest ∈ level, IsDigest digest) :
    next_level P level = .ok (parents (parent_digest P) level) := by
  induction level using parents.induct with
  | case1 => rfl
  | case2 left =>
    have hleft := hlevel left List.mem_cons_self
    unfold next_level
    rw [node_payload_eq hleft hleft]
    rfl
  | case3 left right rest ih =>
    have hleft := hlevel left List.mem_cons_self
    have hright := hlevel right (List.mem_cons_of_mem _ List.mem_cons_self)
    have hrest := ih (fun digest hmem =>
      hlevel digest (List.mem_cons_of_mem _ (List.mem_cons_of_mem _ hmem)))
    unfold next_level
    rw [node_payload_eq hleft hright, hrest]
    rfl

variable (hdigest : ∀ bytes, IsDigest (P.sha256_hex bytes))

include hdigest

theorem digest_of_parents {level : List String} :
    ∀ digest ∈ parents (parent_digest P) level, IsDigest digest := by
  induction level using parents.induct with
  | case1 => intro digest hmem; cases hmem
  | case2 left =>
    intro digest hmem
    rw [List.mem_singleton.mp hmem]
    exact hdigest _
  | case3 left right rest ih =>
    intro digest hmem
    rcases List.mem_cons.mp hmem with heq | hrest
    · rw [heq]
      exact hdigest _
    · exact ih digest hrest

/-- The loop over the levels never fails on digests; it is the climb of the tree. -/
theorem reduce_eq_climb : ∀ (fuel : Nat) {level : List String},
    (∀ digest ∈ level, IsDigest digest) →
      reduce P fuel level = .ok (climb (parent_digest P) fuel level) := by
  intro fuel
  induction fuel with
  | zero =>
    intro level _
    rfl
  | succ fuel ih =>
    intro level hlevel
    unfold reduce climb
    by_cases hone : level.length ≤ 1
    · rw [if_pos hone, if_pos hone]
    · rw [if_neg hone, if_neg hone, next_level_eq_parents hlevel]
      exact ih (digest_of_parents hdigest)

omit hdigest

variable (P) in
/-- The digest of a tree over texts. -/
def tree_digest : Merkle.Tree String → String
  | .leaf text => P.sha256_hex (as_bytes text)
  | .node left right => parent_digest P (tree_digest left) (tree_digest right)

variable (P) in
/-- What is hashed for a tree, over the digests of its parts. -/
def tree_payload : Merkle.Tree String → List UInt8
  | .leaf text => as_bytes text
  | .node left right => parent_payload (tree_digest P left) (tree_digest P right)

theorem tree_digest_eq (t : Merkle.Tree String) :
    tree_digest P t = P.sha256_hex (tree_payload P t) := by
  cases t <;> rfl

/-- The climb over the digests of texts is the digest of their tree. -/
theorem climb_digests (fuel : Nat) (texts : List String) :
    climb (parent_digest P) fuel (texts.map (fun text => P.sha256_hex (as_bytes text))) =
      (climb Merkle.Tree.node fuel (texts.map Merkle.Tree.leaf)).map (tree_digest P) := by
  rw [← climb_map (fun _ _ => rfl), List.map_map]
  rfl

end Levels

/-! ## §6. What a leaf commits to. -/

/-- Key, object hash, version and status of an entry, as its leaf has them. -/
abbrev Committed := String × String × Nat × String

/-- What the root says of an entry. -/
def SnapshotEntry.committed (entry : SnapshotEntry) : Committed :=
  (to_ascii_lowercase entry.resolver_id_key, to_ascii_lowercase entry.object_hash,
    entry.object_version, to_ascii_uppercase entry.status)

/-- The text of the leaf that says it. -/
def committed_text (state : Committed) : String :=
  leaf_text state.1 state.2.1 state.2.2.1 state.2.2.2

/-- Both hashes have their full width. -/
def Committed.Wide (state : Committed) : Prop :=
  (as_bytes state.1).length = 66 ∧ (as_bytes state.2.1).length = 66

section Leaves

variable {P : Platform}

theorem normalize_hash_eq_ok {value normalized : String} {bytes : Nat}
    (h : normalize_hash value bytes = .ok normalized) :
    normalized = to_ascii_lowercase value ∧ (as_bytes normalized).length = 2 + bytes * 2 := by
  unfold normalize_hash at h
  simp only [bind_eq_ok, exists_unit, rejectIf_eq_ok, Except.ok.injEq, Bool.not_eq_false'] at h
  obtain ⟨_, hwidth, heq⟩ := h
  unfold is_hex_width at hwidth
  rw [Bool.and_eq_true, decide_eq_true_eq] at hwidth
  rw [← heq]
  refine ⟨rfl, ?_⟩
  rw [← hwidth.1]
  rfl

/-- The separator ends a number. -/
theorem stops_separator (text : String) : Json.Stops (as_bytes ("|" ++ text)) := by
  rw [as_bytes_append]
  intro byte hbyte
  rw [← Option.some.inj hbyte]
  decide +kernel

/-- A leaf's text begins as no payload of a node does. -/
theorem committed_text_head (state : Committed) :
    (as_bytes (committed_text state)).head? = some 114 := by
  unfold committed_text leaf_text
  rw [as_bytes_append]
  rfl

/-- The text of a leaf determines what it was made of. -/
theorem leaf_text_injective {a b : Committed} (ha : a.Wide) (hb : b.Wide)
    (h : committed_text a = committed_text b) : a = b := by
  have hbytes := congrArg as_bytes h
  unfold committed_text leaf_text at hbytes
  rw [as_bytes_append, as_bytes_append _ (b.1 ++ _)] at hbytes
  have hbytes := List.append_cancel_left hbytes
  rw [as_bytes_append, as_bytes_append b.1] at hbytes
  obtain ⟨hkey, hbytes⟩ := List.append_inj hbytes (ha.1.trans hb.1.symm)
  rw [as_bytes_append, as_bytes_append _ (b.2.1 ++ _)] at hbytes
  have hbytes := List.append_cancel_left hbytes
  rw [as_bytes_append, as_bytes_append b.2.1] at hbytes
  obtain ⟨hhash, hbytes⟩ := List.append_inj hbytes (ha.2.trans hb.2.symm)
  rw [as_bytes_append, as_bytes_append _ (toString b.2.2.1 ++ _)] at hbytes
  have hbytes := List.append_cancel_left hbytes
  rw [as_bytes_append, as_bytes_append (toString b.2.2.1)] at hbytes
  obtain ⟨hversion, hbytes⟩ := Json.number_append_inj (stops_separator _) (stops_separator _)
    (m := a.2.2.1) (n := b.2.2.1) hbytes
  rw [as_bytes_append, as_bytes_append _ b.2.2.2] at hbytes
  have hstatus := Json.as_bytes_injective (List.append_cancel_left hbytes)
  have hkey := Json.as_bytes_injective hkey
  have hhash := Json.as_bytes_injective hhash
  exact Prod.ext hkey (Prod.ext hhash (Prod.ext (Int.ofNat.inj hversion) hstatus))

/-- Lists of wide states with one list of texts are one list. -/
theorem map_injective_on {states states' : List Committed} (h : ∀ a ∈ states, a.Wide)
    (h' : ∀ a ∈ states', a.Wide) (htexts : states.map committed_text = states'.map committed_text) :
    states = states' := by
  induction states generalizing states' with
  | nil => exact (List.map_eq_nil_iff.mp htexts.symm).symm
  | cons a rest ih =>
    cases states' with
    | nil => cases htexts
    | cons b rest' =>
      obtain ⟨hfirst, hrest⟩ := List.cons.inj htexts
      have hab := leaf_text_injective (h a List.mem_cons_self) (h' b List.mem_cons_self) hfirst
      have hlater := ih (fun x hx => h x (List.mem_cons_of_mem a hx))
        (fun x hx => h' x (List.mem_cons_of_mem b hx)) hrest
      rw [hab, hlater]

/-- Both hashes of the entry are hashes. -/
def SnapshotEntry.HasHashes (entry : SnapshotEntry) : Prop :=
  (∃ key, normalize_hash entry.resolver_id_key 32 = .ok key) ∧
    ∃ hash, normalize_hash entry.object_hash 32 = .ok hash

theorem SnapshotEntry.HasHashes.wide {entry : SnapshotEntry} (h : entry.HasHashes) :
    entry.committed.Wide := by
  obtain ⟨⟨key, hkey⟩, hash, hhash⟩ := h
  obtain ⟨hkey_eq, hkey_width⟩ := normalize_hash_eq_ok hkey
  obtain ⟨hhash_eq, hhash_width⟩ := normalize_hash_eq_ok hhash
  rw [hkey_eq] at hkey_width
  rw [hhash_eq] at hhash_width
  exact ⟨hkey_width, hhash_width⟩

theorem leaves_eq_ok {unsorted : String} {entries : List SnapshotEntry} :
    ∀ {previous : Option String} {level : List String},
      leaves P unsorted previous entries = .ok level →
        level = (entries.map (fun entry => committed_text entry.committed)).map
            (fun text => P.sha256_hex (as_bytes text)) ∧
          ∀ entry ∈ entries, entry.HasHashes := by
  induction entries with
  | nil =>
    intro previous level h
    rw [← Except.ok.inj h]
    exact ⟨rfl, fun entry hmem => by cases hmem⟩
  | cons entry rest ih =>
    intro previous level h
    unfold leaves at h
    simp only [bind_eq_ok, exists_unit, Except.ok.injEq] at h
    obtain ⟨_, key, hkey, hash, hhash, later, hlater, heq⟩ := h
    obtain ⟨hlevel, hhashes⟩ := ih hlater
    rw [(normalize_hash_eq_ok hkey).1, (normalize_hash_eq_ok hhash).1] at heq
    refine ⟨?_, ?_⟩
    · rw [← heq, hlevel]
      rfl
    · intro other hmem
      rcases List.mem_cons.mp hmem with hfirst | hrest
      · rw [hfirst]
        exact ⟨⟨key, hkey⟩, hash, hhash⟩
      · exact hhashes other hrest

/-- The keys of the entries taken are those of the entries, none of them twice. -/
theorem take_entries_keys {wording : Wording} {state_root root_status : String}
    {entries : List SnapshotEntry} :
    ∀ {acc acc' : Collected}, take_entries P wording state_root root_status entries acc = .ok acc' →
      acc.resolver_keys.Nodup → acc'.resolver_keys.Nodup ∧
        acc'.resolver_keys =
          (entries.map (fun entry => entry.committed.1)).reverse ++ acc.resolver_keys := by
  induction entries with
  | nil =>
    intro acc acc' h hnodup
    rw [← Except.ok.inj h]
    exact ⟨hnodup, rfl⟩
  | cons entry rest ih =>
    intro acc acc' h hnodup
    unfold take_entries at h
    obtain ⟨next, hnext, h⟩ := bind_eq_ok.mp h
    unfold take_entry at hnext
    simp only [bind_eq_ok, exists_unit, rejectIf_eq_ok, Except.ok.injEq,
      Bool.or_eq_false_iff] at hnext
    obtain ⟨key, hkey, ⟨_, hfresh⟩, endpoints, _, hash, _, _, hmade⟩ := hnext
    obtain ⟨hkey_eq, _⟩ := normalize_hash_eq_ok hkey
    have hkeys : next.resolver_keys = entry.committed.1 :: acc.resolver_keys := by
      rw [← hmade, hkey_eq]
      rfl
    have hnew : entry.committed.1 ∉ acc.resolver_keys := by
      intro hmem
      have hcontains : acc.resolver_keys.contains (to_ascii_lowercase entry.resolver_id_key) =
          true := List.contains_iff_mem.mpr hmem
      rw [hkey_eq, hcontains] at hfresh
      cases hfresh
    obtain ⟨hall, heq⟩ := ih h (by rw [hkeys]; exact List.nodup_cons.mpr ⟨hnew, hnodup⟩)
    refine ⟨hall, ?_⟩
    rw [heq, hkeys, List.map_cons, List.reverse_cons, List.append_assoc]
    rfl

end Leaves

/-! ## §7. Accepted lists with one root. -/

/-- The root of the entries, which an adapter made records of. -/
structure Accepted (P : Platform) (wording : Wording) (entries : List SnapshotEntry)
    (root : String) : Prop where
  root : state_root P wording.unsorted entries = .ok root
  records : ∃ text root_status acc,
    take_entries P wording text root_status entries ⟨∅, [], []⟩ = .ok acc

/-- The texts of all leaves. -/
def committed_texts (entries : List SnapshotEntry) : List String :=
  entries.map (fun entry => committed_text entry.committed)

/-- Everything that is hashed on the way to the root of the entries. -/
def hashed (P : Platform) (entries : List SnapshotEntry) : List (List UInt8) :=
  as_bytes "empty-root-v1" ::
    (trees (committed_texts entries)).flatMap (fun t => t.subtrees.map (tree_payload P))

/-- No two of the texts hashed for the two lists have one digest. -/
def NoCollision (P : Platform) (entries entries' : List SnapshotEntry) : Prop :=
  ∀ a ∈ hashed P entries, ∀ b ∈ hashed P entries', P.sha256_hex a = P.sha256_hex b → a = b

section Accepted

variable {P : Platform} {wording wording' : Wording} {entries entries' : List SnapshotEntry}
variable {root : String}

theorem norn_accepted {snapshot : RegistrySnapshot}
    {records : AList (fun _ : String => RegistryRecord)}
    (h : Norn.snapshot_records P snapshot = .ok records) :
    ∃ root, normalize_hash snapshot.state_root 32 = .ok root ∧
      Accepted P Norn.wording snapshot.entries root := by
  unfold Norn.snapshot_records at h
  simp only [bind_eq_ok, exists_unit, rejectIf_eq_ok, bne_eq_false_iff_eq] at h
  obtain ⟨root, hroot, calculated, hcalculated, heq, acc, hacc, _⟩ := h
  rw [heq] at hcalculated
  exact ⟨root, hroot, hcalculated, root, snapshot.root_status, acc, hacc⟩

theorem external_accepted {snapshot : RegistrySnapshot}
    {records : AList (fun _ : String => RegistryRecord)}
    (h : External.validated_records P snapshot = .ok records) :
    ∃ root, normalize_hash snapshot.state_root 32 = .ok root ∧
      Accepted P External.wording snapshot.entries root := by
  unfold External.validated_records External.snapshot_records at h
  simp only [bind_eq_ok, exists_unit, rejectIf_eq_ok, bne_eq_false_iff_eq] at h
  obtain ⟨root, hroot, calculated, hcalculated, heq, acc, hacc, _⟩ := h
  rw [heq] at hcalculated
  exact ⟨root, hroot, hcalculated, root, snapshot.root_status, acc, hacc⟩

theorem Accepted.wide (h : Accepted P wording entries root) :
    ∀ entry ∈ entries, entry.committed.Wide := by
  have hroot := h.root
  unfold state_root at hroot
  obtain ⟨level, hlevel, _⟩ := bind_eq_ok.mp hroot
  exact fun entry hentry => ((leaves_eq_ok hlevel).2 entry hentry).wide

/-- The distinct keys make distinct leaves. -/
theorem Accepted.nodup (h : Accepted P wording entries root) : (committed_texts entries).Nodup := by
  obtain ⟨_, _, acc, hacc⟩ := h.records
  obtain ⟨hnodup, heq⟩ := take_entries_keys hacc List.nodup_nil
  rw [heq, List.append_nil, List.nodup_reverse] at hnodup
  refine List.Nodup.map_on ?_ (List.Nodup.of_map _ hnodup)
  intro a ha b hb htext
  have hcommitted := leaf_text_injective (h.wide a ha) (h.wide b hb) htext
  exact List.inj_on_of_nodup_map hnodup ha hb (congrArg Prod.fst hcommitted)

/-- The root is the digest of the tree over the leaves. -/
theorem Accepted.root_eq (hdigest : ∀ bytes, IsDigest (P.sha256_hex bytes))
    (h : Accepted P wording entries root) :
    (entries = [] ∧ root = P.sha256_hex (as_bytes "empty-root-v1")) ∨
      ∃ t, trees (committed_texts entries) = [t] ∧ root = tree_digest P t := by
  have hroot := h.root
  unfold state_root at hroot
  obtain ⟨level, hlevel, hreduced⟩ := bind_eq_ok.mp hroot
  have hlevel_eq := (leaves_eq_ok hlevel).1
  cases entries with
  | nil =>
    refine Or.inl ⟨rfl, ?_⟩
    rw [hlevel_eq] at hreduced
    exact (Except.ok.inj hreduced).symm
  | cons entry rest =>
    right
    have hsome : committed_texts (entry :: rest) ≠ [] := by simp [committed_texts]
    obtain ⟨t, ht⟩ := trees_eq_singleton hsome
    refine ⟨t, ht, ?_⟩
    have hdigests : ∀ digest ∈ level, IsDigest digest := by
      intro digest hmem
      rw [hlevel_eq] at hmem
      obtain ⟨text, _, heq⟩ := List.mem_map.mp hmem
      rw [← heq]
      exact hdigest _
    have hclimb : reduce P level.length level = .ok [tree_digest P t] := by
      rw [reduce_eq_climb hdigest level.length hdigests, hlevel_eq, climb_digests, List.length_map]
      unfold trees at ht
      unfold committed_texts at ht
      rw [ht]
      rfl
    have hnonempty : level.isEmpty = false := by
      rw [hlevel_eq]
      rfl
    rw [hnonempty, hclimb] at hreduced
    exact (Except.ok.inj hreduced).symm

theorem mem_hashed {t part : Merkle.Tree String} (ht : trees (committed_texts entries) = [t])
    (hpart : part ∈ t.subtrees) : tree_payload P part ∈ hashed P entries := by
  unfold hashed
  rw [ht]
  exact List.mem_cons_of_mem _ (List.mem_flatMap.mpr
    ⟨t, List.mem_singleton_self t, List.mem_map_of_mem hpart⟩)

/-- Two trees of accepted lists with one digest are one tree. -/
theorem tree_eq_of_digest (hdigest : ∀ bytes, IsDigest (P.sha256_hex bytes))
    (hcollision : NoCollision P entries entries') {t t' : Merkle.Tree String}
    (ht : trees (committed_texts entries) = [t]) (ht' : trees (committed_texts entries') = [t'])
    (h : tree_digest P t = tree_digest P t') : t = t' := by
  have hdigest_tree : ∀ part : Merkle.Tree String, IsDigest (tree_digest P part) := by
    intro part
    rw [tree_digest_eq]
    exact hdigest _
  have hpayload : ∀ {part part' : Merkle.Tree String}, part ∈ t.subtrees → part' ∈ t'.subtrees →
      tree_digest P part = tree_digest P part' → tree_payload P part = tree_payload P part' := by
    intro part part' hpart hpart' heq
    rw [tree_digest_eq, tree_digest_eq] at heq
    exact hcollision _ (mem_hashed ht hpart) _ (mem_hashed ht' hpart') heq
  have hleaf_text : ∀ {entries : List SnapshotEntry} {t : Merkle.Tree String},
      trees (committed_texts entries) = [t] → ∀ {text : String},
      Merkle.Tree.leaf text ∈ t.subtrees →
        (as_bytes text).head? = some 114 := by
    intro entries t ht text htext
    obtain ⟨entry, _, heq⟩ := List.mem_map.mp (mem_of_leaf_trees ht htext)
    rw [← heq, committed_text_head]
  refine Merkle.Tree.injective_on_subtrees ?_ ?_ ?_ ?_ h
  · intro a b ha hb heq
    exact Json.as_bytes_injective (hpayload ha hb heq)
  · intro a left right ha hb heq
    have hhead := hleaf_text ht ha
    rw [show as_bytes a = parent_payload _ _ from hpayload ha hb heq] at hhead
    cases hhead
  · intro a left right ha hb heq
    have hhead := hleaf_text ht' ha
    rw [show as_bytes a = parent_payload _ _ from (hpayload hb ha heq.symm).symm] at hhead
    cases hhead
  · intro left right left' right' hnode hnode' heq
    have hbytes : parent_payload (tree_digest P left) (tree_digest P right) =
        parent_payload (tree_digest P left') (tree_digest P right') := hpayload hnode hnode' heq
    unfold parent_payload at hbytes
    rw [List.append_assoc, List.append_assoc] at hbytes
    have hbytes := List.append_cancel_left hbytes
    obtain ⟨hleft, hright⟩ := List.append_inj hbytes
      ((hdigest_tree left).length.trans (hdigest_tree left').length.symm)
    exact ⟨(hdigest_tree left).text_eq (hdigest_tree left') hleft,
      (hdigest_tree right).text_eq (hdigest_tree right') hright⟩

/-- A tree does not have the digest of the empty list. -/
theorem tree_digest_ne_empty (hcollision : NoCollision P [] entries) {t : Merkle.Tree String}
    (ht : trees (committed_texts entries) = [t]) :
    P.sha256_hex (as_bytes "empty-root-v1") ≠ tree_digest P t := by
  intro heq
  rw [tree_digest_eq] at heq
  have hpayload := hcollision _ List.mem_cons_self _
    (mem_hashed ht (Merkle.Tree.mem_subtrees_self t)) heq
  have hhead := congrArg List.head? hpayload
  cases t with
  | leaf text =>
    obtain ⟨entry, _, htext⟩ := List.mem_map.mp
      (mem_of_leaf_trees ht (Merkle.Tree.mem_subtrees_self (.leaf text)))
    rw [show tree_payload P (.leaf text) = as_bytes text from rfl, ← htext,
      committed_text_head] at hhead
    cases hhead
  | node left right => cases hhead

/-- Accepted lists with one root commit to the same states, whichever adapters took them. -/
theorem committed_of_root (hdigest : ∀ bytes, IsDigest (P.sha256_hex bytes))
    (hcollision : NoCollision P entries entries') (h : Accepted P wording entries root)
    (h' : Accepted P wording' entries' root) :
    entries.map SnapshotEntry.committed = entries'.map SnapshotEntry.committed := by
  have hswap : NoCollision P entries' entries := by
    intro a ha b hb heq
    exact (hcollision b hb a ha heq.symm).symm
  rcases h.root_eq hdigest with ⟨hempty, hroot⟩ | ⟨t, ht, hroot⟩
  · rcases h'.root_eq hdigest with ⟨hempty', _⟩ | ⟨t', ht', hroot'⟩
    · rw [hempty, hempty']
    · rw [hempty] at hcollision
      exact absurd (hroot.symm.trans hroot') (tree_digest_ne_empty hcollision ht')
  · rcases h'.root_eq hdigest with ⟨hempty', hroot'⟩ | ⟨t', ht', hroot'⟩
    · rw [hempty'] at hswap
      exact absurd (hroot'.symm.trans hroot) (tree_digest_ne_empty hswap ht)
    · have htree := tree_eq_of_digest hdigest hcollision ht ht' (hroot.symm.trans hroot')
      rw [← htree] at ht'
      have htexts := climb_injective h.nodup h'.nodup ht ht'
      -- one text is one state
      have hstates : ∀ a ∈ entries.map SnapshotEntry.committed, a.Wide := by
        intro a ha
        obtain ⟨entry, hentry, heq⟩ := List.mem_map.mp ha
        rw [← heq]
        exact h.wide entry hentry
      have hstates' : ∀ a ∈ entries'.map SnapshotEntry.committed, a.Wide := by
        intro a ha
        obtain ⟨entry, hentry, heq⟩ := List.mem_map.mp ha
        rw [← heq]
        exact h'.wide entry hentry
      have hmapped : (entries.map SnapshotEntry.committed).map committed_text =
          (entries'.map SnapshotEntry.committed).map committed_text := by
        rw [List.map_map, List.map_map]
        exact htexts
      exact map_injective_on hstates hstates' hmapped

end Accepted

end ResolverIdentity.Sync
