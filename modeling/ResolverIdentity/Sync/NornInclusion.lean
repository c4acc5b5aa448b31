/-
  ResolverIdentity.Sync.NornInclusion: the publication a Norn snapshot rests on.

  `verify_finalized_inclusion` of `ri-chain-adapter/src/norn.rs` scans finalized blocks from
  the newest, each from its last transaction, for a command to the Registry; `registry_command`
  passes over what is sent elsewhere, does not decode or is for another key.

  Main results:
    * `decode_data_command_checked_eq`: no index of the decoder is outside the data;
    * `scan_eq_ok_iff`: the scan, as the latest command of the blocks;
    * `inclusion_iff_latest`: what is accepted, and the replay it agrees with.
-/
import ResolverIdentity.Core.Recorded
import ResolverIdentity.Library.Replay
import ResolverIdentity.Library.Slices
import ResolverIdentity.Sync.StateRoot

namespace ResolverIdentity.Sync

open Library

/-! ## §1. Commands. -/

/-- The part of a header the checks read. -/
structure BlockHeader where
  block_hash : Option String
  height : Option Nat
  deriving DecidableEq

/-- The part of a transaction the checks read. -/
structure Transaction where
  hash : Option String
  receiver : Option String
  data : Option String
  deriving DecidableEq

/-- A block as a node returns it. -/
structure Block where
  header : Option BlockHeader
  transactions : List Transaction
  deriving DecidableEq

/-- A command for a contract's key-value data. -/
structure DataCommand where
  operation : String
  key : String
  value : String
  deriving DecidableEq

/-- `u32::from_le_bytes` -/
def u32_from_le_bytes (bytes : List UInt8) : Nat :=
  bytes.foldr (fun byte rest => byte.toNat + 256 * rest) 0

/-- `bytes.get(start..finish)` -/
def get_range (bytes : List UInt8) (start finish : Nat) : Option (List UInt8) :=
  if finish ≤ bytes.length then some ((bytes.drop start).take (finish - start)) else none

/-- `String::from_utf8` -/
def from_utf8 (bytes : List UInt8) : Except String String :=
  okOr (String.fromUTF8? ⟨bytes.toArray⟩) "invalid utf-8 sequence"

/-- The closure `field`: offset and size of a field, then its bytes. -/
def field (bytes : List UInt8) (offset : Nat) : Except String (List UInt8) := do
  let data_offset := u32_from_le_bytes ((bytes.drop offset).take 4)
  let size := u32_from_le_bytes ((bytes.drop (offset + 4)).take 4)
  okOr (get_range bytes data_offset (data_offset + size))
    "Norn DataCommand field is out of bounds"

/-- `strip_prefix("0x")`, then `hex::decode`. -/
def command_bytes (encoded : String) : Except String (List UInt8) := do
  let digits ← match encoded.toList with
    | '0' :: 'x' :: digits => .ok digits
    | _ => .error "Norn transaction data lacks 0x prefix"
  hex_decode digits

/-- The command a transaction carries. -/
def decode_data_command (encoded : String) : Except String DataCommand := do
  let bytes ← command_bytes encoded
  rejectIf (bytes.length < 40) "Norn DataCommand is shorter than its Karmem header"
  let operation ← field bytes 4
  let operation ← from_utf8 operation
  let key ← field bytes 16
  let key ← from_utf8 key
  let value ← field bytes 28
  let value ← from_utf8 value
  .ok ⟨operation, key, value⟩

/-- What `registry_command` makes of one transaction. -/
def command_of (registry_address registry_key : String) (transaction : Transaction) :
    Option DataCommand := do
  let receiver ← transaction.receiver
  let receiver ← (normalize_hash receiver 20).toOption
  if receiver != registry_address then none
  else do
    let data ← transaction.data
    let command ← (decode_data_command data).toOption
    if command.key = registry_key then some command else none

/-- `transactions.iter().rev().find_map(..)` -/
def registry_command (transactions : List Transaction) (registry_address registry_key : String) :
    Option DataCommand := latest (command_of registry_address registry_key) transactions

/-! ## §2. The scan. -/

/-- `require_agreement` -/
def require_agreement {α : Type} [DecidableEq α] (values : List α) (disagreement : String) :
    Except String α :=
  match values with
  | [] => .error "Norn adapter has no independent RPC results"
  | accepted :: rest =>
    if rest.any (fun value => value != accepted) then .error disagreement else .ok accepted

/-- A node: what it answers to `GetBlockByNumber` with `full` set. -/
structure NornRpcClient where
  block_response : Nat → Except String Block

/-- The block of the number asked for, with a hash that is one. -/
def NornRpcClient.full_block (client : NornRpcClient) (number : Nat) : Except String Block := do
  let block ← client.block_response number
  let header ← okOr block.header "Norn block header missing"
  rejectIf (header.height != some number)
    ("Norn full block height mismatch at " ++ toString number)
  let block_hash ← okOr header.block_hash "Norn block hash missing"
  let _ ← normalize_hash block_hash 32
  .ok block

/-- What the scan reads of the adapter; `new` has checked the window and the nodes. -/
structure NornRegistryAdapter where
  registry_address : String
  registry_key : String
  registry_start_height : Nat
  max_scan_blocks : Nat
  clients : List NornRpcClient
  scans : max_scan_blocks ≠ 0
  independent : 2 ≤ clients.length

namespace NornRegistryAdapter

variable (adapter : NornRegistryAdapter)

/-- The block all nodes return. -/
def agreed_full_block (number : Nat) : Except String Block := do
  let blocks ← adapter.clients.mapM (fun client => client.full_block number)
  require_agreement blocks ("Norn RPC full-block disagreement at height " ++ toString number)

/-- `finalized_height.saturating_sub(max_scan_blocks.saturating_sub(1)).max(start)` -/
def lower_bound (finalized_height : Nat) : Nat :=
  max (finalized_height - (adapter.max_scan_blocks - 1)) adapter.registry_start_height

/-- `lower_bound..=finalized_height` -/
def heights (finalized_height : Nat) : List Nat :=
  List.range' (adapter.lower_bound finalized_height)
    (finalized_height + 1 - adapter.lower_bound finalized_height)

/-- The loop over the heights, newest first. -/
def scan (expected_value not_found : String) : List Nat → Except String Unit
  | [] => .error not_found
  | height :: rest => do
    let block ← adapter.agreed_full_block height
    match registry_command block.transactions adapter.registry_address adapter.registry_key with
    | some command => do
      rejectIf (command.operation != "set") "latest finalized Norn Registry command is not set"
      rejectIf (command.value != expected_value)
        "current Norn Registry value is not the latest finalized value"
    | none => scan expected_value not_found rest

/-- The newest command for the key, in the window, wrote the value. -/
def verify_finalized_inclusion (expected_value : String) (finalized_height : Nat) :
    Except String Unit :=
  adapter.scan expected_value
    ("Norn Registry publication was not found in finalized blocks " ++
      (toString (adapter.lower_bound finalized_height) ++
        ("..=" ++ toString finalized_height)))
    (adapter.heights finalized_height).reverse

end NornRegistryAdapter

/-! ## §3. Every index is inside. -/

section Checked

/-- `field`, with the slices it takes. -/
def field_checked (bytes : List UInt8) (offset : Nat) : Except (Failure String) (List UInt8) := do
  let data_offset ← slice bytes offset (offset + 4)
  let size ← slice bytes (offset + 4) (offset + 8)
  let data_offset := u32_from_le_bytes data_offset
  let size := u32_from_le_bytes size
  returns (okOr (get_range bytes data_offset (data_offset + size))
    "Norn DataCommand field is out of bounds")

/-- The decoder with every slice checked. -/
def decode_data_command_checked (encoded : String) : Except (Failure String) DataCommand := do
  let bytes ← returns (command_bytes encoded)
  returns (rejectIf (bytes.length < 40) "Norn DataCommand is shorter than its Karmem header")
  let operation ← field_checked bytes 4
  let operation ← returns (from_utf8 operation)
  let key ← field_checked bytes 16
  let key ← returns (from_utf8 key)
  let value ← field_checked bytes 28
  let value ← returns (from_utf8 value)
  .ok ⟨operation, key, value⟩

theorem field_checked_eq {bytes : List UInt8} {offset : Nat} (h : offset + 8 ≤ bytes.length) :
    field_checked bytes offset = returns (field bytes offset) := by
  unfold field_checked field
  rw [slice_eq_ok (by omega) (by omega), slice_eq_ok (by omega) (by omega), Nat.add_sub_cancel_left,
    show offset + 8 - (offset + 4) = 4 by omega]
  rfl

/-- No slice of the decoder is outside the data, whatever they are. -/
theorem decode_data_command_checked_eq (encoded : String) :
    decode_data_command_checked encoded = returns (decode_data_command encoded) := by
  unfold decode_data_command_checked decode_data_command
  rw [returns_bind]
  refine congrArg _ (funext fun bytes => ?_)
  refine returns_check_bind ?_
  intro hlong
  have hlong : 40 ≤ bytes.length := by simpa using hlong
  rw [field_checked_eq (by omega), field_checked_eq (by omega), field_checked_eq (by omega)]
  simp only [returns_bind, returns_ok]

end Checked

/-! ## §4. The latest command. -/

/-- The transaction is a command to the Registry, for its key. -/
def IsCommand (adapter : NornRegistryAdapter) (transaction : Transaction)
    (command : DataCommand) : Prop :=
  ∃ receiver data, transaction.receiver = some receiver ∧
    normalize_hash receiver 20 = .ok adapter.registry_address ∧ transaction.data = some data ∧
    decode_data_command data = .ok command ∧ command.key = adapter.registry_key

/-- The nodes agree on the blocks of the window. -/
def Agreed (adapter : NornRegistryAdapter) (finalized_height : Nat) (chain : Nat → Block) : Prop :=
  ∀ client ∈ adapter.clients, ∀ height, adapter.registry_start_height ≤ height →
    height ≤ finalized_height → finalized_height < height + adapter.max_scan_blocks →
      client.full_block height = .ok (chain height)

section Latest

variable {adapter : NornRegistryAdapter} {finalized_height : Nat} {chain : Nat → Block}

theorem toOption_eq_some_iff {ε α : Type} {x : Except ε α} {a : α} :
    x.toOption = some a ↔ x = .ok a := by
  constructor
  · exact toOption_eq_some
  · intro h
    rw [h]
    rfl

theorem command_of_iff {transaction : Transaction} {command : DataCommand} :
    command_of adapter.registry_address adapter.registry_key transaction = some command ↔
      IsCommand adapter transaction command := by
  unfold command_of IsCommand
  simp only [Option.bind_eq_bind, Option.bind_eq_some_iff, toOption_eq_some_iff,
    Option.ite_none_left_eq_some, Option.ite_none_right_eq_some, Option.some.injEq, bne_iff_ne,
    ne_eq, not_not]
  constructor
  · intro h
    obtain ⟨receiver, hreceiver, address, haddress, hsent, data, hdata, found, hfound, hkey, heq⟩ :=
      h
    rw [hsent] at haddress
    rw [heq] at hfound hkey
    exact ⟨receiver, data, hreceiver, haddress, hdata, hfound, hkey⟩
  · intro h
    obtain ⟨receiver, data, hreceiver, haddress, hdata, hfound, hkey⟩ := h
    exact ⟨receiver, hreceiver, _, haddress, rfl, data, hdata, command, hfound, hkey, rfl⟩

/-- Nodes that agree give the block they agree on. -/
theorem agreed_full_block_eq {height : Nat}
    (h : ∀ client ∈ adapter.clients, client.full_block height = .ok (chain height)) :
    adapter.agreed_full_block height = .ok (chain height) := by
  have hblocks : adapter.clients.mapM (fun client => client.full_block height) =
      .ok (adapter.clients.map (fun _ => chain height)) := by
    rw [mapM_eq_ok, List.forall₂_map_right_iff, List.forall₂_same]
    exact h
  unfold NornRegistryAdapter.agreed_full_block
  rw [hblocks, ok_bind]
  have htwo := adapter.independent
  cases hclients : adapter.clients with
  | nil =>
    rw [hclients] at htwo
    cases htwo
  | cons client rest =>
    have hsame : (rest.map (fun _ => chain height)).any (fun value => value != chain height) =
        false := by
      rw [List.any_map, List.any_eq_false]
      intro client _ hdiffer
      exact absurd rfl (bne_iff_ne.mp hdiffer)
    unfold require_agreement
    rw [List.map_cons]
    show (if _ then _ else _) = _
    rw [hsame]
    rfl

/-- The scan accepts the latest command of its heights, where that sets the value. -/
theorem scan_eq_ok_iff {expected_value not_found : String} : ∀ {heights : List Nat},
    (∀ height ∈ heights, ∀ client ∈ adapter.clients,
      client.full_block height = .ok (chain height)) →
        (adapter.scan expected_value not_found heights = .ok () ↔
          ∃ command, heights.findSome? (fun height => registry_command (chain height).transactions
              adapter.registry_address adapter.registry_key) = some command ∧
            command.operation = "set" ∧ command.value = expected_value) := by
  intro heights
  induction heights with
  | nil =>
    intro _
    constructor
    · intro h
      cases h
    · intro h
      obtain ⟨command, hnone, _⟩ := h
      cases hnone
  | cons height rest ih =>
    intro hagreed
    obtain ⟨hfirst, hrest⟩ := List.forall_mem_cons.mp hagreed
    unfold NornRegistryAdapter.scan
    rw [agreed_full_block_eq hfirst, ok_bind, List.findSome?_cons]
    cases registry_command (chain height).transactions adapter.registry_address
        adapter.registry_key with
    | none => exact ih hrest
    | some command =>
      simp only [bind_eq_ok, exists_unit, rejectIf_eq_ok, bne_eq_false_iff_eq, Option.some.injEq]
      constructor
      · intro h
        exact ⟨command, rfl, h⟩
      · intro h
        obtain ⟨found, heq, hset⟩ := h
        rw [heq]
        exact hset

/-- The heights that are scanned. -/
theorem mem_heights {height : Nat} :
    height ∈ adapter.heights finalized_height ↔
      adapter.registry_start_height ≤ height ∧ height ≤ finalized_height ∧
        finalized_height < height + adapter.max_scan_blocks := by
  have hscans := adapter.scans
  unfold NornRegistryAdapter.heights NornRegistryAdapter.lower_bound
  rw [List.mem_range'_1]
  omega

theorem heights_sorted : (adapter.heights finalized_height).Pairwise (· < ·) :=
  List.pairwise_lt_range'

/-- `verify_finalized_inclusion` accepts a value exactly where the latest command to the
Registry in the blocks of its window, in the order of heights and then of transactions, sets
it; and that is the command which a replay of the window ends with.  What is not such a
command, whatever its bytes, is passed over, and its decoding stays inside them. -/
theorem inclusion_iff_latest (adapter : NornRegistryAdapter) (expected_value : String)
    (finalized_height : Nat) (chain : Nat → Block)
    (hagreed : Agreed adapter finalized_height chain) :
    (adapter.verify_finalized_inclusion expected_value finalized_height = .ok () ↔
      ∃ (height i : Nat) (transaction : Transaction) (command : DataCommand),
        height ∈ adapter.heights finalized_height ∧
        (chain height).transactions[i]? = some transaction ∧
        IsCommand adapter transaction command ∧
        (∀ (height' j : Nat) (transaction' : Transaction),
          height' ∈ adapter.heights finalized_height →
          (chain height').transactions[j]? = some transaction' →
          height < height' ∨ (height = height' ∧ i < j) →
            ∀ command', ¬ IsCommand adapter transaction' command') ∧
        command.operation = "set" ∧ command.value = expected_value) ∧
    (adapter.verify_finalized_inclusion expected_value finalized_height = .ok () ↔
      ∃ command, replay (command_of adapter.registry_address adapter.registry_key)
          ((adapter.heights finalized_height).flatMap (fun height => (chain height).transactions)) =
            some command ∧
        command.operation = "set" ∧ command.value = expected_value) ∧
    (∀ height, height ∈ adapter.heights finalized_height ↔
      max adapter.registry_start_height (finalized_height + 1 - adapter.max_scan_blocks) ≤ height ∧
        height ≤ finalized_height) ∧
    ∀ encoded, decode_data_command_checked encoded = returns (decode_data_command encoded) := by
  -- all clients agree below the finalized height, so the scan is one over the agreed chain
  have hscan : adapter.verify_finalized_inclusion expected_value finalized_height = .ok () ↔
      ∃ command, latest (fun height => registry_command (chain height).transactions
          adapter.registry_address adapter.registry_key) (adapter.heights finalized_height) =
            some command ∧ command.operation = "set" ∧ command.value = expected_value := by
    refine scan_eq_ok_iff ?_
    intro height hmem client hclient
    obtain ⟨hstart, hend, hwindow⟩ := mem_heights.mp (List.mem_reverse.mp hmem)
    exact hagreed client hclient height hstart hend hwindow
  refine ⟨?_, ?_, ?_, decode_data_command_checked_eq⟩
  · rw [hscan]
    constructor
    · intro h
      obtain ⟨command, hlatest, hset⟩ := h
      obtain ⟨height, hheight, hfound, hlater⟩ := (latest_sorted_iff heights_sorted).mp hlatest
      obtain ⟨i, transaction, hi, hcommand, hbehind⟩ := latest_eq_some_iff.mp hfound
      refine ⟨height, i, transaction, command, hheight, hi, command_of_iff.mp hcommand, ?_, hset⟩
      intro height' j transaction' hheight' hj hafter command' hcommand'
      have hnone : command_of adapter.registry_address adapter.registry_key transaction' = none := by
        rcases hafter with hnewer | ⟨hsame, hij⟩
        · exact latest_eq_none_iff.mp (hlater height' hheight' hnewer) transaction'
            (List.mem_of_getElem? hj)
        · rw [← hsame] at hj
          exact hbehind j transaction' hij hj
      rw [command_of_iff.mpr hcommand'] at hnone
      cases hnone
    · intro h
      obtain ⟨height, i, transaction, command, hheight, hi, hcommand, hlast, hset⟩ := h
      -- no command at or after the found place, said of the decoder
      have hnone : ∀ {height' j : Nat} {transaction' : Transaction},
          height' ∈ adapter.heights finalized_height →
          (chain height').transactions[j]? = some transaction' →
          height < height' ∨ (height = height' ∧ i < j) →
            command_of adapter.registry_address adapter.registry_key transaction' = none := by
        intro height' j transaction' hheight' hj hafter
        refine Option.eq_none_iff_forall_not_mem.mpr ?_
        intro command' hcommand'
        exact hlast height' j transaction' hheight' hj hafter command' (command_of_iff.mp hcommand')
      refine ⟨command, (latest_sorted_iff heights_sorted).mpr ⟨height, hheight, ?_, ?_⟩, hset⟩
      · refine latest_eq_some_iff.mpr ⟨i, transaction, hi, command_of_iff.mpr hcommand, ?_⟩
        intro j transaction' hij hj
        exact hnone hheight hj (Or.inr ⟨rfl, hij⟩)
      · intro height' hheight' hnewer
        refine latest_eq_none_iff.mpr ?_
        intro transaction' hmem
        obtain ⟨j, hj⟩ := List.mem_iff_getElem?.mp hmem
        exact hnone hheight' hj (Or.inl hnewer)
  · rw [hscan, replay_eq_latest, latest_flatMap]
    rfl
  · intro height
    have hscans := adapter.scans
    rw [mem_heights]
    omega

end Latest

/-! ## §5. A publication. -/

/-- A contract's address. -/
def inclusion_address : String := "0x00000000000000000000000000000000000000aa"

/-- The command `set k v`, and a transaction that does not decode behind it. -/
def inclusion_transactions : List Transaction := [
    ⟨some "0x01", some "0x00000000000000000000000000000000000000AA", some
      "0x280000002800000003000000010000002b00000001000000010000002c00000001000000010000007365746b76"⟩,
    ⟨some "0x02", some inclusion_address, some "0x"⟩]

/-- Height 12 has the two transactions, every other height none. -/
def inclusion_chain (height : Nat) : Block where
  header := some ⟨some (digest_of 'b'), some height⟩
  transactions := if height = 12 then inclusion_transactions else []

/-- A node with a short chain. -/
def inclusion_client : NornRpcClient where
  block_response := fun number => .ok (inclusion_chain number)

/-- An adapter over two such nodes. -/
def inclusion_adapter : NornRegistryAdapter where
  registry_address := inclusion_address
  registry_key := "k"
  registry_start_height := 5
  max_scan_blocks := 4
  clients := [inclusion_client, inclusion_client]
  scans := by decide
  independent := by decide

/-- The publication is found from height 14. -/
theorem publication_found :
    inclusion_adapter.verify_finalized_inclusion "v" 14 = .ok () := by
  have hagreed : Agreed inclusion_adapter 14 inclusion_chain := by
    intro client hclient height _ _ _
    have hsame : client = inclusion_client := by
      rcases List.mem_cons.mp hclient with hfirst | hrest
      · exact hfirst
      · exact List.mem_singleton.mp hrest
    have hhash : normalize_hash (digest_of 'b') 32 = .ok (digest_of 'b') :=
      toOption_eq_some (by decide +kernel)
    rw [hsame]
    unfold NornRpcClient.full_block inclusion_client inclusion_chain
    simp only [okOr, ok_bind, bne_self_eq_false, rejectIf, hhash]
    rfl
  have hreplay : replay (command_of inclusion_adapter.registry_address inclusion_adapter.registry_key)
      ((inclusion_adapter.heights 14).flatMap (fun height => (inclusion_chain height).transactions)) =
        some ⟨"set", "k", "v"⟩ := by
    decide +kernel
  exact (inclusion_iff_latest inclusion_adapter "v" 14 inclusion_chain hagreed).2.1.mpr
    ⟨_, hreplay, rfl, rfl⟩

end ResolverIdentity.Sync
