/-
  ResolverIdentity.Chain.ContractReads: the EVM adapter in front of the contract.

  `eth_call`, `get_resolver_anchor`, `get_status`, `get_bytes32` and `resolver_record` of
  `ri-chain-adapter/src/evm.rs` on one side, the view functions of
  `ResolverIdentityRegistryV1.sol` on the other, and between them the encoding of the
  contract's values in 32-byte words.  What a JSON-RPC method returns is a function of its
  parameters; a node serves a storage when `eth_call` answers what the views return.

  Main results:
    * `word_u64_abi`, `word_hex_abi`: the words of an answer are read back;
    * `resolver_record_served`: a record read from a node that serves a storage is the
      storage's;
    * `anchored_iff`: it passes the synchronizer's check exactly if the storage anchors the
      identity.
-/
import ResolverIdentity.Publisher.RegistryBackend
import ResolverIdentity.Sync.EvmAdapter

namespace ResolverIdentity.Chain

open Library Sync Publisher

/-! ## §1. Views and their answers. -/

/-- A value in one word of an answer; numbers are padded on the left. -/
def abi_word {width : Nat} (value : BitVec width) : List UInt8 := low_bytes 32 value.toNat

/-- The number of a member of the enumeration. -/
def status_code : Contract.Status → BitVec 8
  | .UNKNOWN => 0
  | .ACTIVE => 1
  | .SUSPENDED => 2
  | .REVOKED => 3
  | .EXPIRED => 4

/-- A struct of six static members stands in its six words. -/
def abi_anchor (anchor : Contract.ResolverAnchor) : List UInt8 :=
  abi_word anchor.resolver_id_key ++ abi_word anchor.object_hash ++ abi_word anchor.state_root ++
    abi_word anchor.object_version ++ abi_word anchor.valid_until ++
      abi_word (status_code anchor.status)

section Views

variable (r : Contract.Registry)

/-- The view of an anchor. -/
def getResolverAnchor (resolver_id_key : Contract.Bytes32) : Contract.ResolverAnchor :=
  r.resolver_anchors resolver_id_key

/-- The view of a root's status. -/
def getRootStatus (state_root : Contract.Bytes32) : Contract.Status :=
  (r.root_records state_root).status

/-- The view of an endpoint's owner. -/
def lookupResolverByEndpoint (endpoint_key : Contract.Bytes32) : Contract.Bytes32 :=
  r.endpoint_to_resolver_id_key endpoint_key

/-- The three views the adapter calls, by their signatures. -/
def views : List (String × (Contract.Bytes32 → List UInt8)) := [
  ("getResolverAnchor(bytes32)", fun key => abi_anchor (getResolverAnchor r key)),
  ("getRootStatus(bytes32)", fun root => abi_word (status_code (getRootStatus r root))),
  ("lookupResolverByEndpoint(bytes32)", fun key => abi_word (lookupResolverByEndpoint r key))]

end Views

section Calls

-- `Keccak256::digest`
variable (keccak256 : List UInt8 → List UInt8)

/-- The first four bytes of the signature's hash. -/
def function_selector (function : String) : List UInt8 := (keccak256 (as_bytes function)).take 4

/-- The data of a call with one `bytes32` argument. -/
def calldata (function : String) (argument : List UInt8) : List UInt8 :=
  function_selector keccak256 function ++ argument

/-- What the code at the contract's address returns for the data of such a call; the view
is found by the first four bytes. -/
def static_call (r : Contract.Registry) (data : List UInt8) : Option (List UInt8) :=
  ((views r).find? (fun view => function_selector keccak256 view.1 = data.take 4)).map
    (fun view => view.2 (word_of_bytes (data.drop 4)))

/-- No two of the views have one selector; the compiler refuses a contract otherwise. -/
structure Selectors : Prop where
  length : ∀ function, (function_selector keccak256 function).length = 4
  root : function_selector keccak256 "getRootStatus(bytes32)" ≠
    function_selector keccak256 "getResolverAnchor(bytes32)"
  endpoint : function_selector keccak256 "lookupResolverByEndpoint(bytes32)" ≠
      function_selector keccak256 "getResolverAnchor(bytes32)" ∧
    function_selector keccak256 "lookupResolverByEndpoint(bytes32)" ≠
      function_selector keccak256 "getRootStatus(bytes32)"

/-- A JSON-RPC method's result for its parameters, or the error of the call. -/
abbrev Rpc := String → List Json → Except String Json

/-- The node answers calls of the contract under this block with what its storage gives. -/
def Serves (call : Rpc) (contract block_tag : String) (r : Contract.Registry) : Prop :=
  ∀ data output, static_call keccak256 r data = some output →
    call "eth_call" [.object [("to", .string contract), ("data", .string (hex_text data))],
      .string block_tag] = .ok (.string (hex_text output))

/-! ## §2. The adapter's calls. -/

/-- The bytes after `0x`. -/
def decode_hex (value : String) : Except String (List UInt8) :=
  match value.toList with
  | '0' :: 'x' :: rest => hex_decode rest
  | _ => .error "hex value lacks 0x prefix"

/-- Exactly 32 of them. -/
def decode_bytes32 (value : String) : Except String (List UInt8) := do
  let bytes ← decode_hex value
  rejectIf (bytes.length != 32) "value is not bytes32"
  .ok bytes

/-- The bytes of a word of an answer. -/
def word_at (output : List UInt8) (index : Nat) : List UInt8 := (output.drop (index * 32)).take 32

/-- A word of the output, as text. -/
def word_hex (output : List UInt8) (index : Nat) : String := hex_text (word_at output index)

/-- A word of the output, as a number below 2^64. -/
def word_u64 (output : List UInt8) (index : Nat) : Except String Nat := do
  let word := word_at output index
  rejectIf ((word.take 24).any (fun byte => byte != 0)) "ABI uint exceeds u64"
  .ok (big_endian (word.drop 24))

/-- The name of a status byte. -/
def status_name (value : Nat) : Except String String :=
  match value with
  | 0 => .ok "UNKNOWN"
  | 1 => .ok "ACTIVE"
  | 2 => .ok "SUSPENDED"
  | 3 => .ok "REVOKED"
  | 4 => .ok "EXPIRED"
  | _ => .error "unknown Registry status"

variable (call : Rpc) (contract : String)

/-- A call of one function with one `bytes32` argument. -/
def eth_call (function argument block_tag : String) : Except String (List UInt8) := do
  let selector := function_selector keccak256 function
  let argument ← decode_bytes32 argument
  let data := String.ofList ('0' :: 'x' :: (hex_encode selector ++ hex_encode argument))
  let output ← call "eth_call"
    [.object [("to", .string contract), ("data", .string data)], .string block_tag]
  let output ← okOr output.as_str "eth_call returned a non-string"
  decode_hex output

/-- An anchor as the adapter decodes it. -/
structure AnchorAnswer where
  resolver_id_key : String
  object_hash : String
  state_root : String
  object_version : Nat
  valid_until : Int
  status : String

/-- The anchor of a resolver, decoded. -/
def get_resolver_anchor (resolver_key block_tag : String) : Except String AnchorAnswer := do
  let output ← eth_call keccak256 call contract "getResolverAnchor(bytes32)" resolver_key block_tag
  rejectIf (output.length != 32 * 6) "getResolverAnchor returned an invalid ABI payload"
  let object_version ← word_u64 output 3
  let valid_until ← word_u64 output 4
  rejectIf (2 ^ 63 ≤ valid_until) "resolver validUntil exceeds i64"
  let status ← word_u64 output 5
  let status ← status_name status
  .ok {
    resolver_id_key := word_hex output 0
    object_hash := word_hex output 1
    state_root := word_hex output 2
    object_version := object_version
    valid_until := valid_until
    status := status }

/-- A status, decoded. -/
def get_status (function argument block_tag : String) : Except String String := do
  let output ← eth_call keccak256 call contract function argument block_tag
  rejectIf (output.length != 32) "status call returned an invalid ABI payload"
  let status ← word_u64 output 0
  status_name status

/-- One word, decoded. -/
def get_bytes32 (function argument block_tag : String) : Except String String := do
  let output ← eth_call keccak256 call contract function argument block_tag
  rejectIf (output.length != 32) "bytes32 call returned an invalid ABI payload"
  .ok (word_hex output 0)

variable (P : Platform)

/-- The loop over the endpoints of an identity. -/
def bound_owners (block_tag : String) : List DnsEndpoint → AList (fun _ : String => String) →
    Except String (AList (fun _ : String => String))
  | [], owners => .ok owners
  | endpoint :: rest, owners => do
    let endpoint_key ← (P.registry_key endpoint).mapError EvidenceValidationError.text
    let bound_resolver ← get_bytes32 keccak256 call contract "lookupResolverByEndpoint(bytes32)"
      endpoint_key block_tag
    bound_owners block_tag rest (owners.insert endpoint_key bound_resolver)

/-- What the contract says of one identity. -/
def resolver_record (block_tag : String) (identity : DnsServerIdentityV2) :
    Except String RegistryRecord := do
  let expected_resolver_key := P.resolver_id_key identity.server_id
  let anchor ← get_resolver_anchor keccak256 call contract expected_resolver_key block_tag
  let root_status ← get_status keccak256 call contract "getRootStatus(bytes32)" anchor.state_root
    block_tag
  let endpoint_owners ← bound_owners keccak256 call contract P block_tag identity.endpoints ∅
  .ok {
    resolver_id_key := anchor.resolver_id_key
    object_hash := anchor.object_hash
    state_root := anchor.state_root
    object_version := anchor.object_version
    valid_until := anchor.valid_until
    resolver_status := anchor.status
    root_status := root_status
    endpoint_owners := endpoint_owners }

end Calls

/-! ## §3. Words. -/

theorem low_bytes_add (high low n : Nat) :
    low_bytes (high + low) n = low_bytes high (n / 256 ^ low) ++ low_bytes low n := by
  induction low generalizing n with
  | zero =>
    show low_bytes high n = low_bytes high (n / 256 ^ 0) ++ []
    rw [Nat.pow_zero, Nat.div_one, List.append_nil]
  | succ low ih =>
    show low_bytes (high + low) (n / 256) ++ _ = _ ++ (low_bytes low (n / 256) ++ _)
    rw [ih, Nat.div_div_eq_div_mul, ← Nat.pow_succ', List.append_assoc]

theorem low_bytes_zero (count : Nat) : low_bytes count 0 = List.replicate count 0 := by
  induction count with
  | zero => rfl
  | succ count ih =>
    show low_bytes count (0 / 256) ++ [UInt8.ofNat (0 % 256)] = _
    rw [Nat.zero_div, ih, List.replicate_succ']
    rfl

theorem abi_word_length {width : Nat} (value : BitVec width) : (abi_word value).length = 32 :=
  low_bytes_length 32 value.toNat

theorem word_at_zero {word rest : List UInt8} (h : word.length = 32) :
    word_at (word ++ rest) 0 = word := by
  show (word ++ rest).take 32 = word
  rw [← h, List.take_left]

theorem word_at_single {word : List UInt8} (h : word.length = 32) : word_at word 0 = word := by
  show word.take 32 = word
  rw [← h, List.take_length]

theorem word_at_succ {word rest : List UInt8} (h : word.length = 32) (index : Nat) :
    word_at (word ++ rest) (index + 1) = word_at rest index := by
  have hdrop : (index + 1) * 32 = word.length + index * 32 := by omega
  unfold word_at
  rw [hdrop, ← List.drop_drop, List.drop_left]

/-- A number of at most 64 bits is read back. -/
theorem word_u64_abi {width : Nat} {value : BitVec width} (hwidth : width ≤ 64)
    {output : List UInt8} {index : Nat} (h : word_at output index = abi_word value) :
    word_u64 output index = .ok value.toNat := by
  have hsmall : value.toNat < 256 ^ 8 :=
    Nat.lt_of_lt_of_le value.isLt (Nat.pow_le_pow_right (by decide) hwidth)
  have hsplit : abi_word value = List.replicate 24 0 ++ low_bytes 8 value.toNat := by
    show low_bytes (24 + 8) value.toNat = _
    rw [low_bytes_add, Nat.div_eq_of_lt hsmall, low_bytes_zero]
  have hlength : (List.replicate 24 (0 : UInt8)).length = 24 := List.length_replicate
  have htake : (List.replicate 24 (0 : UInt8) ++ low_bytes 8 value.toNat).take 24 =
      List.replicate 24 0 := List.take_left' hlength
  have hdrop : (List.replicate 24 (0 : UInt8) ++ low_bytes 8 value.toNat).drop 24 =
      low_bytes 8 value.toNat := List.drop_left' hlength
  unfold word_u64
  rw [h, hsplit]
  show (do
    rejectIf (((List.replicate 24 (0 : UInt8) ++ low_bytes 8 value.toNat).take 24).any _) _
    .ok (big_endian ((List.replicate 24 (0 : UInt8) ++ low_bytes 8 value.toNat).drop 24))) = _
  rw [htake, hdrop, big_endian_low_bytes, Nat.mod_eq_of_lt hsmall]
  rfl

/-- A word of 32 bytes has the text the publisher reads. -/
theorem word_hex_abi {value : Contract.Bytes32} {output : List UInt8} {index : Nat}
    (h : word_at output index = abi_word value) : word_hex output index = normalize_bytes32 value := by
  unfold word_hex
  rw [h]
  rfl

theorem status_name_code (status : Contract.Status) :
    status_name (status_code status).toNat = .ok (decode_status status) := by
  cases status <;> rfl

/-- The six words of an anchor. -/
theorem word_at_anchor (anchor : Contract.ResolverAnchor) :
    word_at (abi_anchor anchor) 0 = abi_word anchor.resolver_id_key ∧
      word_at (abi_anchor anchor) 1 = abi_word anchor.object_hash ∧
      word_at (abi_anchor anchor) 2 = abi_word anchor.state_root ∧
      word_at (abi_anchor anchor) 3 = abi_word anchor.object_version ∧
      word_at (abi_anchor anchor) 4 = abi_word anchor.valid_until ∧
      word_at (abi_anchor anchor) 5 = abi_word (status_code anchor.status) := by
  have hlast : ∀ {width : Nat} (value : BitVec width), word_at (abi_word value) 0 = abi_word value := by
    intro width value
    exact word_at_single (abi_word_length value)
  unfold abi_anchor
  simp only [List.append_assoc, word_at_zero, word_at_succ, abi_word_length, hlast, and_self]

theorem abi_anchor_length (anchor : Contract.ResolverAnchor) :
    (abi_anchor anchor).length = 32 * 6 := by
  unfold abi_anchor
  simp only [List.length_append, abi_word_length]

/-! ## §4. A node that serves a storage. -/

theorem rejectIf_false {ε : Type} (error : ε) : rejectIf false error = .ok () := rfl

theorem hex_encode_append (a b : List UInt8) :
    hex_encode (a ++ b) = hex_encode a ++ hex_encode b := by
  induction a with
  | nil => rfl
  | cons byte rest ih => rw [List.cons_append, hex_encode, ih, hex_encode]; rfl

theorem decode_hex_text (raw : List UInt8) : decode_hex (hex_text raw) = .ok raw := by
  unfold decode_hex hex_text
  rw [String.toList_ofList]
  exact hex_decode_encode raw

theorem decode_bytes32_digest {text : String} (h : IsDigest text) :
    decode_bytes32 text = .ok (digest_bytes text) := by
  have hlength := h.length
  obtain ⟨raw, _, heq⟩ := h
  have hdecode : decode_hex text = .ok (digest_bytes text) := by
    rw [heq, digest_bytes_ofList]
    exact decode_hex_text raw
  unfold decode_bytes32
  rw [hdecode]
  show (do rejectIf ((digest_bytes text).length != 32) _; Except.ok (digest_bytes text)) = _
  rw [hlength]
  rfl

section Served

variable {keccak256 : List UInt8 → List UInt8} {call : Rpc} {contract block_tag : String}
variable {r : Contract.Registry} {P : Platform}
variable (hselectors : Selectors keccak256) (hserves : Serves keccak256 call contract block_tag r)

include hselectors

/-- The data of a call finds its view. -/
theorem static_call_view {function : String} {view : Contract.Bytes32 → List UInt8}
    (hview : (function, view) ∈ views r) (argument : List UInt8) :
    static_call keccak256 r (calldata keccak256 function argument) =
      some (view (word_of_bytes argument)) := by
  have hlength := hselectors.length function
  have htake : (calldata keccak256 function argument).take 4 =
      function_selector keccak256 function := List.take_left' hlength
  have hdrop : (calldata keccak256 function argument).drop 4 = argument :=
    List.drop_left' hlength
  unfold static_call
  rw [htake, hdrop]
  obtain ⟨hroot, hendpoint, hendpoint'⟩ :
      function_selector keccak256 "getRootStatus(bytes32)" ≠
          function_selector keccak256 "getResolverAnchor(bytes32)" ∧ _ ∧ _ :=
    ⟨hselectors.root, hselectors.endpoint⟩
  unfold views at hview ⊢
  simp only [List.mem_cons, Prod.mk.injEq, List.not_mem_nil, or_false] at hview
  rcases hview with ⟨rfl, rfl⟩ | ⟨rfl, rfl⟩ | ⟨rfl, rfl⟩
  · rw [List.find?_cons_of_pos (by simp)]
    rfl
  · rw [List.find?_cons_of_neg (by simpa using hroot.symm), List.find?_cons_of_pos (by simp)]
    rfl
  · rw [List.find?_cons_of_neg (by simpa using hendpoint.symm),
      List.find?_cons_of_neg (by simpa using hendpoint'.symm), List.find?_cons_of_pos (by simp)]
    rfl

include hserves

theorem eth_call_served (function : String) {view : Contract.Bytes32 → List UInt8}
    (hview : (function, view) ∈ views r) {argument : String} (hargument : IsDigest argument) :
    eth_call keccak256 call contract function argument block_tag = .ok (view (word argument)) := by
  have hanswer := hserves _ _ (static_call_view hselectors hview (digest_bytes argument))
  have hdata : hex_text (calldata keccak256 function (digest_bytes argument)) =
      String.ofList ('0' :: 'x' :: (hex_encode (function_selector keccak256 function) ++
        hex_encode (digest_bytes argument))) := by
    unfold hex_text calldata
    rw [hex_encode_append]
  unfold eth_call
  rw [decode_bytes32_digest hargument]
  show (do
    let output ← call "eth_call" [.object [("to", .string contract), ("data", .string
      (String.ofList ('0' :: 'x' :: (hex_encode (function_selector keccak256 function) ++
        hex_encode (digest_bytes argument)))))], .string block_tag]
    let output ← okOr output.as_str "eth_call returned a non-string"
    decode_hex output) = _
  rw [← hdata, hanswer]
  exact decode_hex_text _

/-- The three calls, by what they return. -/
theorem get_resolver_anchor_served {resolver_key : String} (hkey : IsDigest resolver_key) :
    get_resolver_anchor keccak256 call contract resolver_key block_tag =
      (do
        let anchor := r.resolver_anchors (word resolver_key)
        rejectIf (2 ^ 63 ≤ anchor.valid_until.toNat) "resolver validUntil exceeds i64"
        .ok {
          resolver_id_key := normalize_bytes32 anchor.resolver_id_key
          object_hash := normalize_bytes32 anchor.object_hash
          state_root := normalize_bytes32 anchor.state_root
          object_version := anchor.object_version.toNat
          valid_until := anchor.valid_until.toNat
          status := decode_status anchor.status }) := by
  have hcall := eth_call_served hselectors hserves (r := r)
    "getResolverAnchor(bytes32)" List.mem_cons_self hkey
  obtain ⟨hresolver, hobject, hroot, hversion, huntil, hstatus⟩ :=
    word_at_anchor (getResolverAnchor r (word resolver_key))
  unfold get_resolver_anchor
  rw [hcall]
  simp only [ok_bind, abi_anchor_length, bne_self_eq_false, rejectIf_false,
    word_u64_abi (by decide) hversion, word_u64_abi (by decide) huntil,
    word_u64_abi (by decide) hstatus, status_name_code, word_hex_abi hresolver,
    word_hex_abi hobject, word_hex_abi hroot]
  rfl

theorem get_status_served {state_root : String} (hroot : IsDigest state_root) :
    get_status keccak256 call contract "getRootStatus(bytes32)" state_root block_tag =
      .ok (decode_status (r.root_records (word state_root)).status) := by
  have hcall := eth_call_served hselectors hserves (r := r)
    "getRootStatus(bytes32)" (List.mem_cons_of_mem _ List.mem_cons_self) hroot
  have hword := word_at_single
    (abi_word_length (status_code (r.root_records (word state_root)).status))
  unfold get_status
  rw [hcall]
  simp only [ok_bind, abi_word_length, bne_self_eq_false, rejectIf_false]
  unfold getRootStatus
  rw [word_u64_abi (by decide) hword]
  exact status_name_code _

theorem get_bytes32_served {endpoint_key : String} (hkey : IsDigest endpoint_key) :
    get_bytes32 keccak256 call contract "lookupResolverByEndpoint(bytes32)" endpoint_key block_tag =
      .ok (normalize_bytes32 (r.endpoint_to_resolver_id_key (word endpoint_key))) := by
  have hcall := eth_call_served hselectors hserves (r := r)
    "lookupResolverByEndpoint(bytes32)"
    (List.mem_cons_of_mem _ (List.mem_cons_of_mem _ List.mem_cons_self)) hkey
  have hword := word_at_single
    (abi_word_length (r.endpoint_to_resolver_id_key (word endpoint_key)))
  unfold get_bytes32
  rw [hcall]
  simp only [ok_bind, abi_word_length, bne_self_eq_false, rejectIf_false]
  exact congrArg Except.ok (word_hex_abi hword)

theorem bound_owners_served (hdigest : ∀ bytes, IsDigest (P.sha256_hex bytes)) :
    ∀ (endpoints : List DnsEndpoint) (owners : AList (fun _ : String => String)),
      bound_owners keccak256 call contract P block_tag endpoints owners =
        (registry_keys P endpoints).mapError EvidenceValidationError.text >>= fun keys =>
          .ok (keys.foldl (fun owners key => owners.insert key
            (normalize_bytes32 (r.endpoint_to_resolver_id_key (word key)))) owners) := by
  intro endpoints
  induction endpoints with
  | nil => intro owners; rfl
  | cons endpoint rest ih =>
    intro owners
    unfold bound_owners registry_keys
    cases hkey : P.registry_key endpoint with
    | error error => rfl
    | ok key =>
      have hkey_digest : IsDigest key := by
        unfold Platform.registry_key at hkey
        obtain ⟨normalized, _, hkey⟩ := bind_eq_ok.mp hkey
        rw [← Except.ok.inj hkey]
        exact hdigest _
      show (do
        let bound ← get_bytes32 keccak256 call contract "lookupResolverByEndpoint(bytes32)" key
          block_tag
        bound_owners keccak256 call contract P block_tag rest (owners.insert key bound)) = _
      rw [get_bytes32_served hselectors hserves hkey_digest]
      show bound_owners keccak256 call contract P block_tag rest _ = _
      rw [ih]
      cases registry_keys P rest with
      | error error => rfl
      | ok keys => rfl

end Served

/-! ## §5. Records of a storage. -/

section Records

variable (P : Platform) (r : Contract.Registry)

/-- What the storage has for the keys of an identity's endpoints. -/
def storage_owners (keys : List String) : AList (fun _ : String => String) :=
  keys.foldl (fun owners key => owners.insert key
    (normalize_bytes32 (r.endpoint_to_resolver_id_key (word key)))) ∅

/-- The record of an identity, as the storage has it. -/
def storage_record (identity : DnsServerIdentityV2) (keys : List String) : RegistryRecord :=
  let anchor := r.resolver_anchors (word (P.resolver_id_key identity.server_id))
  { resolver_id_key := normalize_bytes32 anchor.resolver_id_key
    object_hash := normalize_bytes32 anchor.object_hash
    state_root := normalize_bytes32 anchor.state_root
    object_version := anchor.object_version.toNat
    valid_until := anchor.valid_until.toNat
    resolver_status := decode_status anchor.status
    root_status := decode_status (r.root_records anchor.state_root).status
    endpoint_owners := storage_owners r keys }

/-- The storage anchors the identity: its hash, version and expiry under its key, active
under an active root, with each of its endpoints bound to it. -/
structure Anchored (identity : DnsServerIdentityV2) : Prop where
  resolver_id_key : (r.resolver_anchors (word (P.resolver_id_key identity.server_id))).resolver_id_key =
    word (P.resolver_id_key identity.server_id)
  object_hash : (r.resolver_anchors (word (P.resolver_id_key identity.server_id))).object_hash =
    word (P.object_hash identity.to_value)
  object_version : (r.resolver_anchors
    (word (P.resolver_id_key identity.server_id))).object_version.toNat = identity.object_version
  valid_until : ((r.resolver_anchors
    (word (P.resolver_id_key identity.server_id))).valid_until.toNat : Int) = identity.valid_until
  status : (r.resolver_anchors (word (P.resolver_id_key identity.server_id))).status = .ACTIVE
  root : (r.root_records (r.resolver_anchors
    (word (P.resolver_id_key identity.server_id))).state_root).status = .ACTIVE
  bound : ∀ endpoint ∈ identity.endpoints, ∃ key, P.registry_key endpoint = .ok key ∧
    r.endpoint_to_resolver_id_key (word key) = word (P.resolver_id_key identity.server_id)

variable {P r}

theorem foldl_insert_lookup {keys : List String} (value : String → String) :
    ∀ {owners : AList (fun _ : String => String)} (key : String),
      (keys.foldl (fun owners key => owners.insert key (value key)) owners).lookup key =
        if key ∈ keys then some (value key) else owners.lookup key := by
  induction keys with
  | nil => intro owners key; rfl
  | cons first rest ih =>
    intro owners key
    rw [List.foldl_cons, ih]
    by_cases hrest : key ∈ rest
    · rw [if_pos hrest, if_pos (List.mem_cons_of_mem _ hrest)]
    · rw [if_neg hrest]
      by_cases hfirst : key = first
      · rw [hfirst, AList.lookup_insert, if_pos List.mem_cons_self]
      · rw [AList.lookup_insert_ne hfirst, if_neg]
        intro hmem
        rcases List.mem_cons.mp hmem with heq | hlater
        · exact hfirst heq
        · exact hrest hlater

theorem storage_owners_lookup {keys : List String} (key : String) :
    (storage_owners r keys).lookup key = if key ∈ keys then
      some (normalize_bytes32 (r.endpoint_to_resolver_id_key (word key))) else none :=
  foldl_insert_lookup (fun key =>
    normalize_bytes32 (r.endpoint_to_resolver_id_key (word key))) key

/-- A key of the list is that of an endpoint. -/
theorem endpoint_of_registry_key {endpoints : List DnsEndpoint} {keys : List String} {key : String}
    (h : registry_keys P endpoints = .ok keys) (hmem : key ∈ keys) :
    ∃ endpoint ∈ endpoints, P.registry_key endpoint = .ok key := by
  induction endpoints generalizing keys with
  | nil =>
    rw [← Except.ok.inj h] at hmem
    cases hmem
  | cons first rest ih =>
    unfold registry_keys at h
    obtain ⟨one, hone, h⟩ := bind_eq_ok.mp h
    obtain ⟨later, hlater, h⟩ := bind_eq_ok.mp h
    rw [← Except.ok.inj h] at hmem
    rcases List.mem_cons.mp hmem with heq | hrest
    · exact ⟨first, List.mem_cons_self, hone.trans (congrArg Except.ok heq.symm)⟩
    · obtain ⟨endpoint, hendpoint, hkey⟩ := ih hlater hrest
      exact ⟨endpoint, List.mem_cons_of_mem _ hendpoint, hkey⟩

theorem storage_owners_keys {keys : List String} :
    (storage_owners r keys).keys.toFinset = keys.toFinset := by
  ext key
  rw [List.mem_toFinset, List.mem_toFinset, ← AList.mem_keys, ← AList.lookup_isSome,
    storage_owners_lookup]
  by_cases hmem : key ∈ keys
  · rw [if_pos hmem]
    exact ⟨fun _ => hmem, fun _ => rfl⟩
  · rw [if_neg hmem]
    exact ⟨fun h => (Bool.false_ne_true h).elim, fun h => absurd h hmem⟩

/-- A record that is read is the storage's, unless its expiry does not fit a signed
number. -/
theorem resolver_record_served {keccak256 : List UInt8 → List UInt8} {call : Rpc}
    {contract block_tag : String} (hselectors : Selectors keccak256)
    (hserves : Serves keccak256 call contract block_tag r)
    (hdigest : ∀ bytes, IsDigest (P.sha256_hex bytes)) (identity : DnsServerIdentityV2)
    (record : RegistryRecord) :
    resolver_record keccak256 call contract P block_tag identity = .ok record ↔
      (r.resolver_anchors (word (P.resolver_id_key identity.server_id))).valid_until.toNat < 2 ^ 63 ∧
        ∃ keys, registry_keys P identity.endpoints = .ok keys ∧
          record = storage_record P r identity keys := by
  have hkey : IsDigest (P.resolver_id_key identity.server_id) := hdigest _
  have hroot := get_status_served hselectors hserves (digest_normalize
    (r.resolver_anchors (word (P.resolver_id_key identity.server_id))).state_root)
  rw [word_normalize] at hroot
  unfold resolver_record
  simp only [get_resolver_anchor_served hselectors hserves hkey,
    bound_owners_served hselectors hserves hdigest, bind_eq_ok, exists_unit, rejectIf_eq_ok,
    decide_eq_false_iff_not, not_le, mapError_eq_ok, Except.ok.injEq]
  constructor
  · rintro ⟨anchor, ⟨huntil, rfl⟩, status, hstatus, owners, ⟨keys, hkeys, rfl⟩, rfl⟩
    rw [← Except.ok.inj (hroot.symm.trans hstatus)]
    exact ⟨huntil, keys, hkeys, rfl⟩
  · rintro ⟨huntil, keys, hkeys, rfl⟩
    exact ⟨_, ⟨huntil, rfl⟩, _, hroot, _, ⟨keys, hkeys, rfl⟩, rfl⟩

theorem active_iff {status : Contract.Status} : decode_status status = "ACTIVE" ↔ status = .ACTIVE :=
  decode_status_eq_iff (b := .ACTIVE)

/-- The synchronizer's check of a record is the anchoring of the identity. -/
theorem anchored_iff (hdigest : ∀ bytes, IsDigest (P.sha256_hex bytes))
    {identity : DnsServerIdentityV2} {keys : List String}
    (hkeys : registry_keys P identity.endpoints = .ok keys) :
    validate_registry_record P identity (storage_record P r identity keys) = .ok () ↔
      Anchored P r identity := by
  have hkey : IsDigest (P.resolver_id_key identity.server_id) := hdigest _
  have hhash : IsDigest (P.object_hash identity.to_value) := hdigest _
  -- every key has the owner the storage has for it
  have howners : (∀ entry ∈ (storage_owners r keys).entries,
        entry.2 = P.resolver_id_key identity.server_id) ↔
      ∀ endpoint ∈ identity.endpoints, ∃ key, P.registry_key endpoint = .ok key ∧
        r.endpoint_to_resolver_id_key (word key) = word (P.resolver_id_key identity.server_id) := by
    constructor
    · intro h endpoint hendpoint
      obtain ⟨key, hmem, hregistry⟩ := mem_registry_keys hkeys endpoint hendpoint
      refine ⟨key, hregistry, (normalize_eq_iff hkey).mp ?_⟩
      refine h ⟨key, _⟩ (AList.mem_lookup_iff.mp ?_)
      rw [storage_owners_lookup, if_pos hmem]
      rfl
    · intro h entry hentry
      have hlookup := AList.mem_lookup_iff.mpr hentry
      rw [storage_owners_lookup] at hlookup
      by_cases hmem : entry.1 ∈ keys
      · rw [if_pos hmem] at hlookup
        obtain ⟨endpoint, hendpoint, hregistry⟩ := endpoint_of_registry_key hkeys hmem
        obtain ⟨key, hregistry', hbound⟩ := h endpoint hendpoint
        rw [hregistry] at hregistry'
        rw [← Option.some.inj hlookup, normalize_eq_iff hkey, Except.ok.inj hregistry', hbound]
      · rw [if_neg hmem] at hlookup
        cases hlookup
  unfold validate_registry_record
  simp only [bind_eq_ok, exists_unit, mapError_eq_ok, rejectIf_eq_ok, Bool.or_eq_false_iff,
    bne_eq_false_iff_eq, List.any_eq_false, bne_iff_ne, not_not, hkeys, Except.ok.injEq,
    exists_eq_left']
  unfold storage_record
  simp only [normalize_eq_iff hkey, normalize_eq_iff hhash, active_iff, storage_owners_keys,
    true_and, howners]
  constructor
  · rintro ⟨⟨⟨⟨⟨⟨hresolver, hobject⟩, hversion⟩, huntil⟩, hstatus⟩, hroot⟩, hbound⟩
    exact ⟨hresolver, hobject, hversion, huntil, hstatus, hroot, hbound⟩
  · intro h
    exact ⟨⟨⟨⟨⟨⟨h.resolver_id_key, h.object_hash⟩, h.object_version⟩, h.valid_until⟩, h.status⟩,
      h.root⟩, h.bound⟩

end Records

end ResolverIdentity.Chain
