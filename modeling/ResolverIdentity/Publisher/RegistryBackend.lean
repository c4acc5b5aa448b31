/-
  ResolverIdentity.Publisher.RegistryBackend: the publisher's view of the contract.

  `Web3RegistryBackend` of `chain/web3_backend.py` with the conversions of
  `chain/backend.py`, over the storage of `Contract.Registry`.  What the tool reads is
  text, what the contract keeps are words; a plan's digests are in one-to-one
  correspondence with words.

  Main results:
    * `bytes32_of_digest`, `normalize_word`: a digest is its word, and the word its text;
    * `get_resolver_anchor_eq_some` … `get_endpoint_binding_eq`: what is read of a storage.
-/
import Mathlib.Data.Nat.Bitwise
import ResolverIdentity.Contract.Lifecycle
import ResolverIdentity.Core.Recorded
import ResolverIdentity.Publisher.Plans

namespace ResolverIdentity.Publisher

open Library Sync V1 Agent

/-! ## §1. Words and their texts. -/

/-- The number of some bytes, the highest first. -/
def big_endian (raw : List UInt8) : Nat := raw.foldl (fun n byte => n * 256 + byte.toNat) 0

theorem big_endian_append (raw : List UInt8) (byte : UInt8) :
    big_endian (raw ++ [byte]) = big_endian raw * 256 + byte.toNat := by
  unfold big_endian
  rw [List.foldl_append]
  rfl

theorem big_endian_lt (raw : List UInt8) : big_endian raw < 256 ^ raw.length := by
  induction raw using List.reverseRecOn with
  | nil => exact Nat.one_pos
  | append_singleton raw byte ih =>
    have hbyte := byte.toNat_lt
    rw [big_endian_append, List.length_append, List.length_singleton, Nat.pow_succ]
    omega

theorem low_bytes_big_endian (raw : List UInt8) :
    low_bytes raw.length (big_endian raw) = raw := by
  induction raw using List.reverseRecOn with
  | nil => rfl
  | append_singleton raw byte ih =>
    have hbyte := byte.toNat_lt
    have hhigh : (big_endian raw * 256 + byte.toNat) / 256 = big_endian raw := by omega
    have hlow : (big_endian raw * 256 + byte.toNat) % 256 = byte.toNat := by omega
    rw [List.length_append, List.length_singleton, low_bytes, big_endian_append, hhigh, hlow, ih,
      UInt8.ofNat_toNat]

/-- The word of 32 bytes. -/
def word_of_bytes (raw : List UInt8) : Contract.Bytes32 := BitVec.ofNat 256 (big_endian raw)

/-- `normalize_bytes32` of what the contract returns. -/
def normalize_bytes32 (value : Contract.Bytes32) : String := hex_text (low_bytes 32 value.toNat)

/-- `bytes32_to_bytes`.  What `int(raw, 16)` reads beside digits, `bytes.fromhex` refuses or
leaves out. -/
def bytes32_to_bytes (value : String) : Except String Contract.Bytes32 := do
  let raw := match value.toList with
    | '0' :: 'x' :: raw => raw
    | '0' :: 'X' :: raw => raw
    | raw => raw
  rejectIf (raw.length != 64) "bytes32 hex value must be 32 bytes"
  let bytes ← okOr (fromhex raw) "ValueError: invalid literal for int() with base 16"
  rejectIf (bytes.length != 32) "bytes32 value must be exactly 32 bytes"
  .ok (word_of_bytes bytes)

/-- The word of a digest. -/
def word (text : String) : Contract.Bytes32 := word_of_bytes (digest_bytes text)

theorem bytes32_of_digest {text : String} (h : IsDigest text) :
    bytes32_to_bytes text = .ok (word text) := by
  obtain ⟨raw, hlength, heq⟩ := h
  unfold word
  rw [heq, digest_bytes_ofList]
  unfold bytes32_to_bytes
  rw [String.toList_ofList]
  show (do
    rejectIf ((hex_encode raw).length != 64) "bytes32 hex value must be 32 bytes"
    let bytes ← okOr (fromhex (hex_encode raw)) "ValueError: invalid literal for int() with base 16"
    rejectIf (bytes.length != 32) "bytes32 value must be exactly 32 bytes"
    Except.ok (word_of_bytes bytes)) = _
  rw [hex_encode_length, hlength, fromhex_encode]
  show (do
    rejectIf (raw.length != 32) "bytes32 value must be exactly 32 bytes"
    Except.ok (word_of_bytes raw)) = _
  rw [hlength]
  rfl

/-- The contract gives a digest back as it was written. -/
theorem normalize_word {text : String} (h : IsDigest text) :
    normalize_bytes32 (word text) = text := by
  have hlength := h.length
  have hbound := big_endian_lt (digest_bytes text)
  rw [hlength] at hbound
  have hword : (word text).toNat = big_endian (digest_bytes text) := by
    unfold word word_of_bytes
    rw [BitVec.toNat_ofNat]
    exact Nat.mod_eq_of_lt hbound
  obtain ⟨raw, _, heq⟩ := h
  unfold normalize_bytes32
  rw [hword, ← hlength, low_bytes_big_endian, heq, digest_bytes_ofList]
  rfl

theorem big_endian_low_bytes :
    ∀ count n : Nat, big_endian (low_bytes count n) = n % 256 ^ count := by
  intro count
  induction count with
  | zero =>
    intro n
    rw [Nat.pow_zero, Nat.mod_one]
    rfl
  | succ count ih =>
    intro n
    have hbyte : (UInt8.ofNat (n % 256)).toNat = n % 256 :=
      UInt8.toNat_ofNat_of_lt' (Nat.mod_lt n (by decide))
    rw [low_bytes, big_endian_append, ih, hbyte, Nat.pow_succ, Nat.mul_comm (256 ^ count) 256,
      Nat.mod_mul]
    omega

theorem digest_normalize (value : Contract.Bytes32) : IsDigest (normalize_bytes32 value) :=
  ⟨_, low_bytes_length 32 value.toNat, rfl⟩

theorem word_normalize (value : Contract.Bytes32) : word (normalize_bytes32 value) = value := by
  have hbytes : digest_bytes (normalize_bytes32 value) = low_bytes 32 value.toNat :=
    digest_bytes_ofList _
  apply BitVec.eq_of_toNat_eq
  unfold word word_of_bytes
  rw [hbytes, big_endian_low_bytes, BitVec.toNat_ofNat, Nat.mod_mod_of_dvd _ (by decide)]
  exact Nat.mod_eq_of_lt value.isLt

/-- The contract holds the text exactly if it holds its word. -/
theorem normalize_eq_iff {value : Contract.Bytes32} {text : String} (h : IsDigest text) :
    normalize_bytes32 value = text ↔ value = word text := by
  constructor
  · intro heq
    rw [← heq, word_normalize]
  · intro heq
    rw [heq, normalize_word h]

theorem word_eq_iff {a b : String} (ha : IsDigest a) (hb : IsDigest b) :
    word a = word b ↔ a = b := by
  constructor
  · intro h
    rw [← normalize_word ha, ← normalize_word hb, h]
  · intro h
    rw [h]

/-! ## §2. What is read. -/

/-- The name of a status. -/
def decode_status : Contract.Status → String
  | .UNKNOWN => "UNKNOWN"
  | .ACTIVE => "ACTIVE"
  | .SUSPENDED => "SUSPENDED"
  | .REVOKED => "REVOKED"
  | .EXPIRED => "EXPIRED"

theorem decode_status_eq_iff {a b : Contract.Status} :
    decode_status a = decode_status b ↔ a = b := by
  constructor
  · cases a <;> cases b <;> decide
  · intro h
    rw [h]

/-- An anchor as the web3 backend returns it. -/
structure ResolverAnchor where
  resolver_id_key : String
  object_hash : String
  state_root : String
  object_version : Int
  valid_until : Int
  status : String
deriving DecidableEq

/-- A root as the web3 backend returns it. -/
structure RootRecord where
  state_root : String
  status : String
  published_at : Int
  version : Int
deriving DecidableEq

section Reads

variable (r : Contract.Registry)

/-- `decode_anchor`. -/
def decode_anchor (raw : Contract.ResolverAnchor) : Option ResolverAnchor :=
  if raw.resolver_id_key = 0 then none
  else some {
    resolver_id_key := normalize_bytes32 raw.resolver_id_key
    object_hash := normalize_bytes32 raw.object_hash
    state_root := normalize_bytes32 raw.state_root
    object_version := raw.object_version.toNat
    valid_until := raw.valid_until.toNat
    status := decode_status raw.status }

/-- The anchor of a key, if it has one. -/
def get_resolver_anchor (resolver_id_key : String) : Except String (Option ResolverAnchor) := do
  let key ← bytes32_to_bytes resolver_id_key
  .ok (decode_anchor (r.resolver_anchors key))

/-- The status of a root. -/
def get_root_status (state_root : String) : Except String String := do
  let root ← bytes32_to_bytes state_root
  .ok (decode_status (r.root_records root).status)

/-- A root record, if one was written. -/
def decode_root (raw : Contract.RootRecord) : Option RootRecord :=
  if raw.state_root = 0 then none
  else some {
    state_root := normalize_bytes32 raw.state_root
    status := decode_status raw.status
    published_at := raw.published_at.toNat
    version := raw.version.toNat }

/-- The record of a root, if it has one. -/
def get_root_record (state_root : String) : Except String (Option RootRecord) := do
  let root ← bytes32_to_bytes state_root
  .ok (decode_root (r.root_records root))

/-- The owner of an endpoint, if it has one. -/
def get_endpoint_binding (endpoint_key : String) : Except String (Option String) := do
  let key ← bytes32_to_bytes endpoint_key
  let value := r.endpoint_to_resolver_id_key key
  .ok (if value = 0 then none else some (normalize_bytes32 value))

end Reads

/-! ## §3. What is sent. -/

/-- An argument of type `uint64`. -/
def uint64 (n : Int) : Except String Contract.Uint64 := do
  rejectIf (!(0 ≤ n && n < 2 ^ 64)) "ValidationError: value out of range for uint64"
  .ok (BitVec.ofNat 64 n.toNat)

/-- The word of a number in range. -/
def unsigned_word (n : Int) : Contract.Uint64 := BitVec.ofNat 64 n.toNat

theorem uint64_of_unsigned {n : Int} (h : Unsigned n) : uint64 n = .ok (unsigned_word n) := by
  unfold uint64
  rw [decide_eq_true h.1, decide_eq_true h.2]
  rfl

theorem unsigned_word_toNat {n : Int} (h : Unsigned n) : ((unsigned_word n).toNat : Int) = n := by
  obtain ⟨hlow, hhigh⟩ := h
  unfold unsigned_word
  rw [BitVec.toNat_ofNat]
  omega

theorem unsigned_of_word (value : Contract.Uint64) : Unsigned (value.toNat : Int) := by
  have hbound := value.isLt
  exact ⟨by omega, by omega⟩

/-- The contract holds the number exactly if it holds its word. -/
theorem toNat_eq_iff {value : Contract.Uint64} {n : Int} (h : Unsigned n) :
    (value.toNat : Int) = n ↔ value = unsigned_word n := by
  constructor
  · intro heq
    apply BitVec.eq_of_toNat_eq
    have hword := unsigned_word_toNat h
    omega
  · intro heq
    rw [heq, unsigned_word_toNat h]

section Writes

variable (C : Casing)

/-- The status of a name. -/
def encode_status (value : String) : Except String Contract.Status :=
  match C.upper value with
  | "UNKNOWN" => .ok .UNKNOWN
  | "ACTIVE" => .ok .ACTIVE
  | "SUSPENDED" => .ok .SUSPENDED
  | "REVOKED" => .ok .REVOKED
  | "EXPIRED" => .ok .EXPIRED
  | status => .error ("KeyError: " ++ status)

/-- The call of `publishRoot`. -/
def publish_root_call (state_root : String) (version : Int) : Except String Contract.Call := do
  let root ← bytes32_to_bytes state_root
  let version ← uint64 version
  .ok (.publish_root root version)

/-- The arguments of `publish_resolver` and `update_resolver`. -/
def anchor_arguments (resolver_id_key object_hash state_root : String)
    (object_version valid_until : Int) (status : String) :
    Except String Contract.ResolverAnchor := do
  let key ← bytes32_to_bytes resolver_id_key
  let hash ← bytes32_to_bytes object_hash
  let root ← bytes32_to_bytes state_root
  let version ← uint64 object_version
  let valid_until ← uint64 valid_until
  let status ← encode_status C status
  .ok ⟨key, hash, root, version, valid_until, status⟩

/-- The call of `bindEndpoint`. -/
def bind_endpoint_call (endpoint_key resolver_id_key : String) : Except String Contract.Call := do
  let endpoint ← bytes32_to_bytes endpoint_key
  let resolver ← bytes32_to_bytes resolver_id_key
  .ok (.bind_endpoint endpoint resolver)

/-- The call of `unbindEndpoint`. -/
def unbind_endpoint_call (endpoint_key : String) : Except String Contract.Call := do
  let endpoint ← bytes32_to_bytes endpoint_key
  .ok (.unbind_endpoint endpoint)

/-- The call of `revokeResolver`. -/
def revoke_resolver_call (resolver_id_key : String) : Except String Contract.Call := do
  let key ← bytes32_to_bytes resolver_id_key
  .ok (.revoke_resolver key)

end Writes

/-- The accounts that sign for the phases, and the time of the block each transaction gets in. -/
structure Operator where
  root_publisher : Contract.Address
  resolver_publisher : Contract.Address
  endpoint_manager : Contract.Address
  revoker : Contract.Address
  block_timestamp : Nat → Contract.Uint256

/-- Who signs a call, by its role. -/
def Operator.sender (self : Operator) : Contract.Call → Contract.Address
  | .publish_root .. => self.root_publisher
  | .publish_resolver _ | .update_resolver _ => self.resolver_publisher
  | .bind_endpoint .. | .unbind_endpoint _ => self.endpoint_manager
  | .revoke_root _ | .revoke_resolver _ => self.revoker
  | .grant_role .. | .revoke_role .. => 0

/-- `_transact`: what reverts is not sent. -/
def transact (keccak256 : String → Contract.Bytes32) (operator : Operator) (count : Nat)
    (call : Contract.Call) (r : Contract.Registry) : Except String Contract.Registry :=
  match r.execute keccak256 ⟨⟨operator.sender call, operator.block_timestamp count⟩, call⟩ with
  | (.ok _, r) => .ok r
  | (.error reason, _) => .error reason

end ResolverIdentity.Publisher
