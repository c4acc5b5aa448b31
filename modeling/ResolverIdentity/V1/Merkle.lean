/-
  ResolverIdentity.V1.Merkle: the state root as the publisher computes it.

  `merkle_leaf`, `merkle_parent` and `merkle_root` of `crypto/merkle.py`.

  Main results:
    * `merkle_root_eq`: on an accepted list with ASCII statuses the publisher computes
      the adapters' root;
    * `state_root_commits`: one root, one sequence of states, in every implementation.
-/
import ResolverIdentity.Library.PythonText
import ResolverIdentity.Library.Utf8
import ResolverIdentity.Sync.Admission

namespace ResolverIdentity.V1

open Library Merkle Sync

/-! ## §1. The tree. -/

/-- White space that `bytes.fromhex` skips between bytes. -/
def is_ascii_space (c : Char) : Bool :=
  c = ' ' || (9 ≤ c.toNat && c.toNat ≤ 13)

/-- `bytes.fromhex`; `none` is a `ValueError`. -/
def fromhex : List Char → Option (List UInt8)
  | [] => some []
  | [c] => if is_ascii_space c then some [] else none
  | a :: b :: rest =>
    if is_ascii_space a then fromhex (b :: rest)
    else do
      let high ← to_digit a
      let low ← to_digit b
      let bytes ← fromhex rest
      some (UInt8.ofNat (high * 16 + low) :: bytes)

/-- `_hex_to_bytes`. -/
def hex_to_bytes (value : String) : Option (List UInt8) :=
  match value.toList with
  | '0' :: 'x' :: rest => fromhex rest
  | chars => fromhex chars

section Tree

variable (P : Platform) (C : Casing)

/-- The hash of a leaf. -/
def merkle_leaf (resolver_id_key object_hash : String) (object_version : Int) (status : String) :
    String :=
  P.sha256_hex (as_bytes ("|".intercalate ["resolver-leaf-v1", C.lower resolver_id_key,
    C.lower object_hash, toString object_version, C.upper status]))

/-- The hash of an inner node. -/
def merkle_parent (left right : String) : Option String := do
  let left ← hex_to_bytes left
  let right ← hex_to_bytes right
  some (P.sha256_hex (as_bytes "node-v1" ++ left ++ right))

/-- One pass over the indices of a level. -/
def merkle_level : List String → Option (List String)
  | [] => some []
  | [left] => do
    let parent ← merkle_parent P left left
    some [parent]
  | left :: right :: rest => do
    let parent ← merkle_parent P left right
    let next_level ← merkle_level rest
    some (parent :: next_level)

/-- `while len(level) > 1`; `fuel` bounds the passes. -/
def merkle_levels : Nat → List String → Option (List String)
  | 0, level => some level
  | fuel + 1, level =>
    if level.length ≤ 1 then some level
    else do
      let next_level ← merkle_level P level
      merkle_levels fuel next_level

/-- The root over the leaves. -/
def merkle_root (leaves : List String) : Option String :=
  if leaves.isEmpty then some (P.sha256_hex (as_bytes "empty-root-v1"))
  else do
    let level ← merkle_levels P leaves.length (leaves.map C.lower)
    level.head?

end Tree

/-! ## §2. ASCII texts. -/

theorem ascii_of_bytes {text : String} (h : ∀ byte ∈ as_bytes text, byte.toNat < 128) :
    IsAscii text := by
  intro c hc
  by_contra hhigh
  obtain ⟨byte, hbyte⟩ := List.exists_mem_of_length_pos
    (String.length_utf8EncodeChar c ▸ c.utf8Size_pos)
  have hlarge := Utf8.high_bytes (Nat.le_of_not_lt hhigh) byte hbyte
  have hmem : byte ∈ as_bytes text := by
    rw [Json.as_bytes_eq]
    exact List.mem_flatMap.mpr ⟨c, hc, hbyte⟩
  have hsmall := h byte hmem
  omega

theorem toLower_high {c : Char} (h : 128 ≤ c.toNat) : c.toLower = c := by
  unfold Char.toLower
  rw [dif_neg]
  intro hupper
  have hle : c.toNat ≤ 90 := hupper.2
  omega

/-- Lower case leaves what is beyond ASCII where it is. -/
theorem ascii_of_lower {text : String} (h : IsAscii (to_ascii_lowercase text)) : IsAscii text := by
  intro c hc
  by_contra hhigh
  have hmem : c ∈ (to_ascii_lowercase text).toList := by
    unfold to_ascii_lowercase
    rw [String.toList_ofList]
    exact List.mem_map.mpr ⟨c, hc, toLower_high (Nat.le_of_not_lt hhigh)⟩
  exact hhigh (h c hmem)

theorem ascii_of_normalize_hash {value normalized : String} {bytes : Nat}
    (h : normalize_hash value bytes = .ok normalized) : IsAscii value := by
  have hnormalized := (normalize_hash_eq_ok h).1
  unfold normalize_hash at h
  simp only [bind_eq_ok, exists_unit, rejectIf_eq_ok, Bool.not_eq_false'] at h
  obtain ⟨_, hwidth, _⟩ := h
  unfold is_hex_width is_hex_text at hwidth
  simp only [Bool.and_eq_true, decide_eq_true_eq, List.all_eq_true] at hwidth
  obtain ⟨_, hstart, hdigits⟩ := hwidth
  refine ascii_of_lower (ascii_of_bytes ?_)
  intro byte hbyte
  rw [← List.take_append_drop 2 (as_bytes _)] at hbyte
  rcases List.mem_append.mp hbyte with hfront | hrest
  · rw [hstart] at hfront
    have hall : ∀ byte ∈ as_bytes "0x", byte.toNat < 128 := by decide +kernel
    exact hall byte hfront
  · have hdigit := hdigits byte hrest
    unfold is_ascii_hexdigit at hdigit
    simp only [Bool.or_eq_true, Bool.and_eq_true, decide_eq_true_eq, UInt8.le_iff_toNat_le] at hdigit
    have h57 : (57 : UInt8).toNat = 57 := rfl
    have h102 : (102 : UInt8).toNat = 102 := rfl
    have h70 : (70 : UInt8).toNat = 70 := rfl
    omega

/-! ## §3. Digests. -/

section Digests

variable {P : Platform} {C : Casing}

theorem fromhex_encode (raw : List UInt8) : fromhex (hex_encode raw) = some raw := by
  have hspace : ∀ digit < 16, is_ascii_space (Nat.digitChar digit) = false := by decide
  induction raw with
  | nil => rfl
  | cons byte rest ih =>
    have hbound := byte.toNat_lt
    have hhigh := to_digit_digitChar (byte.toNat / 16) (by omega)
    have hlow := to_digit_digitChar (byte.toNat % 16) (by omega)
    have hbyte : UInt8.ofNat (byte.toNat / 16 * 16 + byte.toNat % 16) = byte := by
      rw [Nat.div_add_mod', UInt8.ofNat_toNat]
    rw [hex_encode, fromhex, hspace _ (by omega), hhigh, hlow, ih]
    simp only [Bool.false_eq_true, if_false, Option.bind_eq_bind, Option.bind_some, hbyte]

theorem hex_to_bytes_digest {text : String} (h : IsDigest text) :
    hex_to_bytes text = some (digest_bytes text) := by
  obtain ⟨raw, _, heq⟩ := h
  rw [heq, digest_bytes_ofList]
  unfold hex_to_bytes
  rw [String.toList_ofList]
  exact fromhex_encode raw

/-- Hexadecimal text is in lower case. -/
theorem lower_hex {raw : List UInt8} :
    C.lower (String.ofList ('0' :: 'x' :: hex_encode raw)) =
      String.ofList ('0' :: 'x' :: hex_encode raw) := by
  have hchars : ∀ c ∈ '0' :: 'x' :: hex_encode raw, c.toNat < 128 ∧ c.toLower = c := by
    intro c hc
    rcases List.mem_cons.mp hc with hzero | hc
    · rw [hzero]
      decide
    · rcases List.mem_cons.mp hc with hx | hrest
      · rw [hx]
        decide
      · exact ⟨(hex_encode_chars raw c hrest).1, (hex_encode_chars raw c hrest).2.1⟩
  have hascii : IsAscii (String.ofList ('0' :: 'x' :: hex_encode raw)) := by
    intro c hc
    rw [String.toList_ofList] at hc
    exact (hchars c hc).1
  have hsame : ('0' :: 'x' :: hex_encode raw).map Char.toLower = '0' :: 'x' :: hex_encode raw :=
    (List.map_congr_left (fun c hc => (hchars c hc).2)).trans (List.map_id _)
  rw [C.lower_ascii _ hascii, String.toList_ofList, hsame]

/-- A digest is in lower case. -/
theorem lower_digest {text : String} (h : IsDigest text) : C.lower text = text := by
  obtain ⟨raw, _, heq⟩ := h
  rw [heq, lower_hex]

/-- The leaf of the publisher is the leaf of the adapters. -/
theorem merkle_leaf_eq {entry : SnapshotEntry} (hkey : IsAscii entry.resolver_id_key)
    (hhash : IsAscii entry.object_hash) (hstatus : IsAscii entry.status) :
    merkle_leaf P C entry.resolver_id_key entry.object_hash entry.object_version entry.status =
      P.sha256_hex (as_bytes (committed_text entry.committed)) := by
  unfold merkle_leaf
  rw [C.lower_ascii _ hkey, C.lower_ascii _ hhash, C.upper_ascii _ hstatus]
  refine congrArg (fun text => P.sha256_hex (as_bytes text)) ?_
  have hversion : toString (entry.object_version : Int) = toString entry.object_version := rfl
  rw [hversion]
  have htag : "resolver-leaf-v1|" = "resolver-leaf-v1" ++ "|" := rfl
  unfold committed_text leaf_text
  rw [htag]
  show "resolver-leaf-v1" ++ "|" ++ _ ++ "|" ++ _ ++ "|" ++ _ ++ "|" ++ _ = _
  simp only [String.append_assoc]
  rfl

theorem merkle_level_eq {level : List String} (hlevel : ∀ digest ∈ level, IsDigest digest) :
    merkle_level P level = some (parents (parent_digest P) level) := by
  induction level using parents.induct with
  | case1 => rfl
  | case2 left =>
    have hleft := hex_to_bytes_digest (hlevel left List.mem_cons_self)
    unfold merkle_level merkle_parent
    rw [hleft]
    rfl
  | case3 left right rest ih =>
    have hleft := hex_to_bytes_digest (hlevel left List.mem_cons_self)
    have hright := hex_to_bytes_digest (hlevel right (List.mem_cons_of_mem _ List.mem_cons_self))
    have hrest := ih (fun digest hmem =>
      hlevel digest (List.mem_cons_of_mem _ (List.mem_cons_of_mem _ hmem)))
    unfold merkle_level merkle_parent
    rw [hleft, hright, hrest]
    rfl

theorem merkle_levels_eq (hdigest : ∀ bytes, IsDigest (P.sha256_hex bytes)) :
    ∀ (fuel : Nat) {level : List String}, (∀ digest ∈ level, IsDigest digest) →
      merkle_levels P fuel level = some (climb (parent_digest P) fuel level) := by
  intro fuel
  induction fuel with
  | zero =>
    intro level _
    rfl
  | succ fuel ih =>
    intro level hlevel
    unfold merkle_levels climb
    by_cases hone : level.length ≤ 1
    · rw [if_pos hone, if_pos hone]
    · rw [if_neg hone, if_neg hone, merkle_level_eq hlevel]
      exact ih (digest_of_parents hdigest)

/-- On an accepted list with ASCII statuses the publisher computes the adapters' root. -/
theorem merkle_root_eq (hdigest : ∀ bytes, IsDigest (P.sha256_hex bytes)) {unsorted : String}
    {entries : List SnapshotEntry} {root : String}
    (hroot : state_root P unsorted entries = .ok root)
    (hstatus : ∀ entry ∈ entries, IsAscii entry.status) :
    merkle_root P C (entries.map (fun entry => merkle_leaf P C entry.resolver_id_key
      entry.object_hash entry.object_version entry.status)) = some root := by
  unfold state_root at hroot
  obtain ⟨level, hlevel, hreduced⟩ := bind_eq_ok.mp hroot
  obtain ⟨hlevel_eq, hhashes⟩ := leaves_eq_ok hlevel
  have hleaves : entries.map (fun entry => merkle_leaf P C entry.resolver_id_key
      entry.object_hash entry.object_version entry.status) = level := by
    rw [hlevel_eq, List.map_map]
    refine List.map_congr_left ?_
    intro entry hentry
    obtain ⟨⟨key, hkey⟩, hash, hhash⟩ := hhashes entry hentry
    exact merkle_leaf_eq (ascii_of_normalize_hash hkey) (ascii_of_normalize_hash hhash)
      (hstatus entry hentry)
  have hdigests : ∀ digest ∈ level, IsDigest digest := by
    intro digest hmem
    rw [hlevel_eq] at hmem
    obtain ⟨text, _, heq⟩ := List.mem_map.mp hmem
    rw [← heq]
    exact hdigest _
  have hlower : level.map C.lower = level :=
    (List.map_congr_left (fun digest hmem => lower_digest (hdigests digest hmem))).trans
      (List.map_id _)
  rw [hleaves]
  unfold merkle_root
  by_cases hempty : level.isEmpty = true
  · rw [if_pos hempty] at hreduced ⊢
    rw [Except.ok.inj hreduced]
  · rw [if_neg hempty] at hreduced ⊢
    rw [hlower, merkle_levels_eq hdigest _ hdigests]
    rw [reduce_eq_climb hdigest _ hdigests, ok_bind] at hreduced
    exact okOr_eq_ok.mp hreduced

end Digests

/-! ## §4. One root. -/

/-- The records of a snapshot that an adapter accepts, with its root. -/
structure Taken (P : Platform) (snapshot : RegistrySnapshot) (root : String) : Prop where
  root : normalize_hash snapshot.state_root 32 = .ok root
  records : (∃ records, Norn.snapshot_records P snapshot = .ok records) ∨
    ∃ records, External.validated_records P snapshot = .ok records

section Taken

variable {P : Platform} {snapshot snapshot' : RegistrySnapshot} {root : String}

/-- The adapters differ in what they say of an unsorted list. -/
theorem leaves_reworded {unsorted : String} (unsorted' : String) {entries : List SnapshotEntry} :
    ∀ {previous : Option String} {level : List String},
      leaves P unsorted previous entries = .ok level →
        leaves P unsorted' previous entries = .ok level := by
  induction entries with
  | nil =>
    intro previous level h
    exact h
  | cons entry rest ih =>
    intro previous level h
    unfold leaves at h ⊢
    simp only [bind_eq_ok, exists_unit, rejectIf_eq_ok] at h ⊢
    obtain ⟨hsorted, key, hkey, hash, hhash, later, hlater, heq⟩ := h
    exact ⟨hsorted, key, hkey, hash, hhash, later, ih hlater, heq⟩

theorem state_root_reworded {unsorted : String} (unsorted' : String) {entries : List SnapshotEntry}
    (h : state_root P unsorted entries = .ok root) : state_root P unsorted' entries = .ok root := by
  unfold state_root at h ⊢
  obtain ⟨level, hlevel, h⟩ := bind_eq_ok.mp h
  exact bind_eq_ok.mpr ⟨level, leaves_reworded unsorted' hlevel, h⟩

theorem Taken.accepted (h : Taken P snapshot root) :
    ∃ wording, Sync.Accepted P wording snapshot.entries root := by
  rcases h.records with ⟨records, hrecords⟩ | ⟨records, hrecords⟩
  · obtain ⟨root', hroot', haccepted⟩ := norn_accepted hrecords
    rw [Except.ok.inj (h.root.symm.trans hroot')]
    exact ⟨_, haccepted⟩
  · obtain ⟨root', hroot', haccepted⟩ := external_accepted hrecords
    rw [Except.ok.inj (h.root.symm.trans hroot')]
    exact ⟨_, haccepted⟩

/-- Accepted lists with one root are one sequence of keys, object hashes, versions and
statuses; and on an accepted list with ASCII statuses every implementation computes the
one root. -/
theorem state_root_commits (C : Casing) (hdigest : ∀ bytes, IsDigest (P.sha256_hex bytes))
    (h : Taken P snapshot root) :
    (Taken P snapshot' root → NoCollision P snapshot.entries snapshot'.entries →
        snapshot.entries.map SnapshotEntry.committed =
          snapshot'.entries.map SnapshotEntry.committed) ∧
      ((∀ entry ∈ snapshot.entries, IsAscii entry.status) →
        Norn.norn_state_root P snapshot.entries = .ok root ∧
        External.external_state_root P snapshot.entries = .ok root ∧
        merkle_root P C (snapshot.entries.map (fun entry => merkle_leaf P C entry.resolver_id_key
          entry.object_hash entry.object_version entry.status)) = some root) := by
  obtain ⟨wording, haccepted⟩ := h.accepted
  constructor
  · intro h' hcollision
    obtain ⟨wording', haccepted'⟩ := h'.accepted
    exact committed_of_root hdigest hcollision haccepted haccepted'
  · intro hstatus
    exact ⟨state_root_reworded _ haccepted.root, state_root_reworded _ haccepted.root,
      merkle_root_eq hdigest haccepted.root hstatus⟩

end Taken

/-! ## §5. A recorded root. -/

open Agent

/-- The recorded digests of two keys, of their leaves and of the node over them, found again
by how the hashed bytes begin. -/
def root_table : List (List UInt8 × String) := [
  (as_bytes "resolver-id:resolver-a", "0x7b2714522383dc3c058e243af8095abfda8814ed999fe3dcfa590ba057faff1b"),
  (as_bytes "resolver-id:resolver-b", "0xd3e700c938929975482eeed0e81dd247e4306d61d81c5a2f12da58e583495ce3"),
  (as_bytes "resolver-leaf-v1|0x7b", "0xab099bc78310ae904fb9907825160798208da0db78fc67dd739cecd678dce78c"),
  (as_bytes "resolver-leaf-v1|0xd3", "0x85ce0ffa1611236f0535f62118659e6a789b4444f9ad2200f31902494e1be38d"),
  (as_bytes "node-v1", "0x4163dce1d6f41d9301d42283c9d6709c4307e4e88dbc0c8d27ac81df41d25cad")]

/-- The recorded digests of one tree. -/
def root_platform : Platform :=
  { registry_recording.platform with
    sha256_hex := fun bytes =>
      ((root_table.find? (fun entry => entry.1.isPrefixOf bytes)).map Prod.snd).getD (digest_of '0') }

/-- An entry at version 1. -/
def lab_entry (server_id resolver_id_key object_hash status : String) : SnapshotEntry where
  server_id := server_id
  resolver_id_key := resolver_id_key
  object_hash := object_hash
  object_version := 1
  valid_until := 1900000000
  status := status
  endpoint_keys := [resolver_id_key]

/-- A snapshot of three entries. -/
def root_snapshot (status : String) : RegistrySnapshot where
  state_root := "0x4163dce1d6f41d9301d42283c9d6709c4307e4e88dbc0c8d27ac81df41d25cad"
  root_status := "ACTIVE"
  entries := [
    lab_entry "resolver-a" "0x7b2714522383dc3c058e243af8095abfda8814ed999fe3dcfa590ba057faff1b"
      "0xa035e64196fdbe0430427897efae552a49eea7e4f9b5c450cc52996642578393" status,
    lab_entry "resolver-b" "0xd3e700c938929975482eeed0e81dd247e4306d61d81c5a2f12da58e583495ce3"
      "0x0880c4a510a25d2383bfdb37e95f3b97a38f636579ff3e743e5f1208b32a6fed" "ACTIVE"]

theorem root_platform_digest (bytes : List UInt8) : IsDigest (root_platform.sha256_hex bytes) := by
  have hall : ∀ text ∈ digest_of '0' :: root_table.map Prod.snd,
      (digest_bytes text).length = 32 ∧
        text = String.ofList ('0' :: 'x' :: hex_encode (digest_bytes text)) := by
    decide +kernel
  refine ⟨_, hall (root_platform.sha256_hex bytes) ?_⟩
  show ((root_table.find? _).map Prod.snd).getD (digest_of '0') ∈ _
  cases hfound : root_table.find? (fun entry => entry.1.isPrefixOf bytes) with
  | none => exact List.mem_cons_self
  | some entry =>
    exact List.mem_cons_of_mem _ (List.mem_map_of_mem (List.mem_of_find?_eq_some hfound))

theorem exists_of_isSome {ε α : Type} {x : Except ε α} (h : x.toOption.isSome = true) :
    ∃ a, x = .ok a := by
  cases x with
  | error error => cases h
  | ok a => exact ⟨a, rfl⟩

/-- Two spellings of a status, one root. -/
theorem root_snapshot_committed :
    (root_snapshot "ACTIVE").entries.map SnapshotEntry.committed =
      (root_snapshot "active").entries.map SnapshotEntry.committed := by
  -- one evaluation, so that no text is read twice
  have hrecorded :
      (Norn.snapshot_records root_platform (root_snapshot "ACTIVE")).toOption.isSome = true ∧
      (External.validated_records root_platform
        (root_snapshot "active")).toOption.isSome = true ∧
      (∀ a ∈ hashed root_platform (root_snapshot "ACTIVE").entries,
        ∀ b ∈ hashed root_platform (root_snapshot "active").entries,
          root_platform.sha256_hex a = root_platform.sha256_hex b → a = b) ∧
      normalize_hash (root_snapshot "ACTIVE").state_root 32 =
        .ok (root_snapshot "ACTIVE").state_root := by
    decide +kernel
  obtain ⟨hnorn, hexternal, hcollision, hroot⟩ := hrecorded
  exact (state_root_commits ascii_casing root_platform_digest
      ⟨hroot, Or.inl (exists_of_isSome hnorn)⟩).1
    ⟨hroot, Or.inr (exists_of_isSome hexternal)⟩ hcollision

end ResolverIdentity.V1
