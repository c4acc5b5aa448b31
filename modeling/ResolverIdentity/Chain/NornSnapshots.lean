/-
  ResolverIdentity.Chain.NornSnapshots: what a Norn snapshot needs every node to say.

  `read_snapshot` of `ri-chain-adapter/src/norn.rs` over what the nodes answer, call by
  call, and the adapter that `new` makes of its configuration.  A node is honest when what
  it answers is true of one chain; it may fail to answer, and the others may say anything.

  Main results:
    * `agreed_iff`: what is agreed on, each node has said;
    * `scan_of_honest`: a value that is found is the latest of the honest node's blocks;
    * `vouched_of_read`: an accepted snapshot, in the words of one honest node.
-/
import ResolverIdentity.Chain.SnapshotEntries
import ResolverIdentity.Publisher.Plans
import ResolverIdentity.Sync.NornInclusion

namespace ResolverIdentity.Chain

open Library Sync Publisher Store

deriving instance DecidableEq for FinalizedCheckpoint

/-! ## §1. The adapter. -/

/-- The text whose hash pins the schema. -/
def NORN_SCHEMA_DESCRIPTOR_V1 : String :=
  "resolver-identity-norn-registry-snapshot-v1:" ++
  "chain_id,genesis_block_hash,registry_address,registry_key," ++
  "registry_schema_hash,snapshot_version,checkpoint_height,checkpoint_hash," ++
  "state_root,root_status,published_at,valid_until,issuer,key_id," ++
  "entries[server_id,resolver_id_key,object_hash,object_version,valid_until," ++
  "status,endpoint_keys],signature"

/-- The pinned schema hash. -/
def norn_registry_schema_hash (P : Platform) : String :=
  P.sha256_hex (as_bytes NORN_SCHEMA_DESCRIPTOR_V1)

/-- `0x` and zeros only. -/
def is_zero_hex (value : String) : Bool :=
  match value.toList with
  | '0' :: 'x' :: raw => raw.all (fun char => char == '0')
  | _ => false

/-- What `NornAdapter::new` is configured with. -/
structure NornAdapterConfig where
  rpc_urls : List String
  chain_id : Nat
  genesis_block_hash : String
  registry_address : String
  registry_key : String
  registry_schema_hash : String
  snapshot_signer_issuer : String
  snapshot_signer_key_id : String
  confirmations : Nat
  registry_start_height : Nat
  max_scan_blocks : Nat
  /-- In nanoseconds. -/
  request_timeout : Nat
  max_response_bytes : Nat
  production : Bool

/-- What the adapter keeps, its clients apart. -/
structure NornPins where
  target : ChainTarget
  genesis_block_hash : String
  registry_address : String
  registry_key : String
  chain_id : Nat
  snapshot_signer_issuer : String
  snapshot_signer_key_id : String
  confirmations : Nat
  registry_start_height : Nat
  max_scan_blocks : Nat
  max_response_bytes : Nat
  scans : max_scan_blocks ≠ 0

section New

variable (P : Platform)

/-- Host and port of each URL; `origin` is `Url::parse`, and what is taken of its result. -/
def rpc_hosts (origin : String → Option (String × Nat)) (config : NornAdapterConfig) :
    Except String (List (String × Nat)) :=
  okOr (config.rpc_urls.mapM origin) "Norn RPC endpoint URL is invalid"

/-- `NornRegistryAdapter::new`, up to the clients. -/
def NornPins.new (origin : String → Option (String × Nat)) (config : NornAdapterConfig) :
    Except String NornPins := do
  let genesis_block_hash ← normalize_hash config.genesis_block_hash 32
  let registry_address ← normalize_hash config.registry_address 20
  let registry_schema_hash ← normalize_hash config.registry_schema_hash 32
  rejectIf (config.chain_id = 0 || config.confirmations = 0)
    "Norn adapter pins and limits are invalid"
  if hscans : config.max_scan_blocks = 0 then .error "Norn adapter pins and limits are invalid"
  else do
    rejectIf (config.request_timeout = 0 || config.max_response_bytes < 1024 ||
        config.registry_key.isEmpty || 256 < (as_bytes config.registry_key).length ||
        config.snapshot_signer_issuer.isEmpty || config.snapshot_signer_key_id.isEmpty)
      "Norn adapter pins and limits are invalid"
    rejectIf (registry_schema_hash != norn_registry_schema_hash P)
      ("Norn Registry schema hash mismatch: expected " ++ norn_registry_schema_hash P)
    rejectIf (is_zero_hex genesis_block_hash || is_zero_hex registry_address)
      "Norn genesis hash and Registry address must not be zero"
    rejectIf (config.rpc_urls.dedup.length != config.rpc_urls.length || config.rpc_urls.length < 2)
      "Norn Registry reads require two unique RPC URLs"
    let hosts ← rpc_hosts origin config
    rejectIf (hosts.dedup.length != config.rpc_urls.length)
      "Norn RPC endpoints must use independent network origins"
    rejectIf (config.production &&
        config.rpc_urls.any (fun url => !(as_bytes "https://").isPrefixOf (as_bytes url)))
      "production Norn requires at least two independent HTTPS gRPC endpoints"
    .ok {
      target := {
        adapter := "norn"
        chain_identity := "norn-genesis:" ++ genesis_block_hash
        registry_locator := "norn:" ++ registry_address ++ "#" ++ config.registry_key
        registry_schema_hash
        adapter_metadata := .norn genesis_block_hash registry_address config.registry_key
          config.snapshot_signer_issuer config.snapshot_signer_key_id }
      genesis_block_hash
      registry_address
      registry_key := config.registry_key
      chain_id := config.chain_id
      snapshot_signer_issuer := config.snapshot_signer_issuer
      snapshot_signer_key_id := config.snapshot_signer_key_id
      confirmations := config.confirmations
      registry_start_height := config.registry_start_height
      max_scan_blocks := config.max_scan_blocks
      max_response_bytes := config.max_response_bytes
      scans := hscans }

end New

/-! ## §2. Nodes. -/

/-- The calls of `GetBlockByNumber` without transactions that one cycle makes; a node may
answer each of them differently. -/
inductive BlockCall where
  | genesis
  | checkpoint
  | signed
  | confirmed
  /-- `block_hash` of the stored checkpoint's height. -/
  | canonical
  /-- `block_hash` of the snapshot's height, when the records are checked. -/
  | settled

/-- What one node answers in a cycle. -/
structure NornNode where
  block_number : Except String (Option Nat)
  block_response : BlockCall → Nat → Except String Block
  read_contract : String → String → Except String (Option String)
  full : NornRpcClient

namespace NornNode

variable (node : NornNode)

/-- The newest block of a node. -/
def head : Except String Nat := do
  let number ← node.block_number
  okOr number "Norn block number missing"

/-- The block of a number, as a node returns it. -/
def block (call : BlockCall) (number : Nat) : Except String FinalizedCheckpoint := do
  let block ← node.block_response call number
  let header ← okOr block.header "Norn block header missing"
  let actual_number ← okOr header.height "Norn block height missing"
  rejectIf (actual_number != number)
    ("Norn block height mismatch: requested " ++ toString number ++ ", got " ++
      toString actual_number)
  let block_hash ← okOr header.block_hash "Norn block hash missing"
  let hash ← normalize_hash block_hash 32
  .ok ⟨number, hash, .nornDualNodeConfirmations⟩

/-- A value of the contract's data. -/
def read_contract_address (address key : String) : Except String String := do
  let value ← node.read_contract (String.ofList ( trim_hex_prefix address.toList)) key
  okOr value "Norn Registry value missing"

end NornNode

/-- The nodes of an adapter, in a cycle. -/
structure NornNodes where
  nodes : List NornNode
  independent : 2 ≤ nodes.length

/-- The lowest head, less the confirmations. -/
def confirmation_derived_height (heads : List Nat) (confirmations : Nat) : Except String Nat := do
  let minimum_head ← okOr heads.min? "Norn adapter has no RPC heads"
  rejectIf (minimum_head < confirmations)
    "Norn head has fewer blocks than configured confirmations"
  rejectIf (minimum_head - confirmations = 0)
    "Norn finalized checkpoint has not advanced past genesis"
  .ok (minimum_head - confirmations)

/-! ## §3. Signed snapshots. -/

/-- The JSON of an entry. -/
def snapshot_entry_value (entry : SnapshotEntry) : Json := .object <|
  Json.field "server_id" (.string entry.server_id) ++
  Json.field "resolver_id_key" (.string entry.resolver_id_key) ++
  Json.field "object_hash" (.string entry.object_hash) ++
  Json.field "object_version" (Json.nat entry.object_version) ++
  Json.field "valid_until" (.number entry.valid_until) ++
  Json.field "status" (.string entry.status) ++
  Json.field "endpoint_keys" (Json.texts entry.endpoint_keys)

/-- `Serialize` of the snapshot, which is what is signed. -/
def norn_snapshot_value (snapshot : NornRegistrySnapshotV1) : Json := .object <|
  Json.field "schema_version" (.string snapshot.schema_version) ++
  Json.field "chain_id" (Json.nat snapshot.chain_id) ++
  Json.field "genesis_block_hash" (.string snapshot.genesis_block_hash) ++
  Json.field "registry_address" (.string snapshot.registry_address) ++
  Json.field "registry_key" (.string snapshot.registry_key) ++
  Json.field "registry_schema_hash" (.string snapshot.registry_schema_hash) ++
  Json.field "snapshot_version" (Json.nat snapshot.snapshot_version) ++
  Json.field "checkpoint_height" (Json.nat snapshot.checkpoint_height) ++
  Json.field "checkpoint_hash" (.string snapshot.checkpoint_hash) ++
  Json.field "state_root" (.string snapshot.state_root) ++
  Json.field "root_status" (.string snapshot.root_status) ++
  Json.field "published_at" (.number snapshot.published_at) ++
  Json.field "valid_until" (.number snapshot.valid_until) ++
  Json.field "issuer" (.string snapshot.issuer) ++
  Json.field "key_id" (.string snapshot.key_id) ++
  Json.field "entries" (.array (snapshot.entries.map snapshot_entry_value)) ++
  Json.optional "signature" (snapshot.signature.map .string)

/-- More entries are refused. -/
def MAX_SNAPSHOT_ENTRIES : Nat := 10000

section Read

variable (P : Platform) (pins : NornPins)

/-- `validate_snapshot_shape`; its `SnapshotPins` are the adapter's, the checkpoint and the
time. -/
def validate_snapshot_shape (snapshot : NornRegistrySnapshotV1) (issuer_keys : IssuerKeyRegistry)
    (accepted_checkpoint : FinalizedCheckpoint) (now : Int) : Except String Unit := do
  let invalid := "Norn Registry snapshot pins or validity window are invalid"
  rejectIf (snapshot.schema_version != NORN_REGISTRY_SNAPSHOT_V1 ||
    snapshot.chain_id != pins.chain_id) invalid
  let genesis_block_hash ← normalize_hash snapshot.genesis_block_hash 32
  rejectIf (genesis_block_hash != pins.genesis_block_hash) invalid
  let registry_address ← normalize_hash snapshot.registry_address 20
  rejectIf (registry_address != pins.registry_address ||
    snapshot.registry_key != pins.registry_key) invalid
  let registry_schema_hash ← normalize_hash snapshot.registry_schema_hash 32
  rejectIf (registry_schema_hash != pins.target.registry_schema_hash ||
    snapshot.snapshot_version = 0 || snapshot.checkpoint_height = 0 ||
    accepted_checkpoint.number < snapshot.checkpoint_height ||
    snapshot.root_status != "ACTIVE" || snapshot.published_at ≤ 0 ||
    now < snapshot.published_at || snapshot.valid_until < now ||
    snapshot.valid_until ≤ snapshot.published_at ||
    snapshot.issuer != pins.snapshot_signer_issuer ||
    snapshot.key_id != pins.snapshot_signer_key_id || snapshot.entries.isEmpty ||
    MAX_SNAPSHOT_ENTRIES < snapshot.entries.length) invalid
  let _ ← normalize_hash snapshot.checkpoint_hash 32
  let _ ← normalize_hash snapshot.state_root 32
  let public_key ← okOr (issuer_keys.get snapshot.issuer snapshot.key_id)
    "Norn snapshot issuer key is not trusted"
  (P.verify_ed25519 (norn_snapshot_value snapshot) public_key).mapError EvidenceValidationError.text

variable (calls : NornNodes)

/-- The block all nodes return. -/
def agreed_block (call : BlockCall) (number : Nat) : Except String FinalizedCheckpoint := do
  let blocks ← calls.nodes.mapM (fun node => node.block call number)
  require_agreement blocks ("Norn RPC disagreement at block " ++ toString number)

/-- Its hash. -/
def norn_block_hash (call : BlockCall) (number : Nat) : Except String String := do
  let block ← agreed_block calls call number
  .ok block.hash

/-- The block with enough confirmations on every node. -/
def norn_finalized_checkpoint : Except String FinalizedCheckpoint := do
  let heads ← calls.nodes.mapM NornNode.head
  let number ← confirmation_derived_height heads pins.confirmations
  agreed_block calls .checkpoint number

/-- The value of one node, which is not empty. -/
def registry_value (node : NornNode) : Except String String := do
  let value ← node.read_contract_address pins.registry_address pins.registry_key
  rejectIf value.isEmpty "Norn Registry state is empty"
  .ok value

/-- The Registry value all nodes return. -/
def agreed_registry_value : Except String String := do
  let values ← calls.nodes.mapM (registry_value pins)
  require_agreement values "Norn RPC nodes returned different Registry snapshots"

/-- The adapter whose scan of full blocks is already modelled. -/
def scanner : NornRegistryAdapter where
  registry_address := pins.registry_address
  registry_key := pins.registry_key
  registry_start_height := pins.registry_start_height
  max_scan_blocks := pins.max_scan_blocks
  clients := calls.nodes.map NornNode.full
  scans := pins.scans
  independent := by
    rw [List.length_map]
    exact calls.independent

/-- All checks of a snapshot, and its entries by server id. -/
def validate_norn_snapshot (snapshot : NornRegistrySnapshotV1) (issuer_keys : IssuerKeyRegistry)
    (accepted_checkpoint : FinalizedCheckpoint) (now : Int) :
    Except String (AList (fun _ : String => RegistryRecord)) := do
  validate_snapshot_shape P pins snapshot issuer_keys accepted_checkpoint now
  let signed_checkpoint ← agreed_block calls .signed snapshot.checkpoint_height
  rejectIf (signed_checkpoint.hash != snapshot.checkpoint_hash)
    "Norn snapshot checkpoint hash is not canonical"
  Norn.snapshot_records P snapshot.toRegistrySnapshot

/-- `from_str` is `serde_json::from_str`, up to the struct: the value a text is read as. -/
def norn_read_snapshot (from_str : String → Except String Json) (issuer_keys : IssuerKeyRegistry)
    (now : Int) : Except String ChainSnapshot := do
  let genesis ← agreed_block calls .genesis 0
  rejectIf (genesis.hash != pins.genesis_block_hash)
    ("Norn genesis mismatch: expected " ++ pins.genesis_block_hash ++ ", got " ++ genesis.hash)
  let checkpoint ← norn_finalized_checkpoint pins calls
  let value ← agreed_registry_value pins calls
  rejectIf (pins.max_response_bytes < (as_bytes value).length)
    "Norn Registry snapshot exceeds configured response limit"
  (scanner pins calls).verify_finalized_inclusion value checkpoint.number
  let parsed ← from_str value
  let snapshot ← NornRegistrySnapshotV1.from_value parsed
  let records ← validate_norn_snapshot P pins calls snapshot issuer_keys checkpoint now
  let confirmed_hash ← norn_block_hash calls .confirmed checkpoint.number
  rejectIf (confirmed_hash != checkpoint.hash) "Norn checkpoint hash changed during reconciliation"
  let state_root ← normalize_hash snapshot.state_root 32
  .ok { checkpoint, state_root, generation := snapshot.snapshot_version, records }

end Read

/-! ## §4. Agreement. -/

section Agreement

variable {α β : Type} [DecidableEq β] {ask : α → Except String β} {nodes : List α}
variable {disagreement : String} {b : β}

theorem require_agreement_iff {values : List β} :
    require_agreement values disagreement = .ok b ↔ values ≠ [] ∧ ∀ value ∈ values, value = b := by
  unfold require_agreement
  cases values with
  | nil =>
    constructor
    · intro h
      cases h
    · rintro ⟨hne, _⟩
      exact absurd rfl hne
  | cons accepted rest =>
    by_cases hdiffer : rest.any (fun value => value != accepted) = true
    · simp only [hdiffer, if_true]
      constructor
      · intro h
        cases h
      · rintro ⟨_, hall⟩
        obtain ⟨value, hvalue, hne⟩ := List.any_eq_true.mp hdiffer
        rw [hall value (List.mem_cons_of_mem _ hvalue), hall accepted List.mem_cons_self] at hne
        exact absurd rfl (bne_iff_ne.mp hne)
    · simp only [hdiffer]
      constructor
      · intro h
        obtain rfl := Except.ok.inj h
        refine ⟨List.cons_ne_nil _ _, ?_⟩
        intro value hvalue
        rcases List.mem_cons.mp hvalue with heq | hrest
        · exact heq
        · by_contra hne
          exact hdiffer (List.any_eq_true.mpr ⟨value, hrest, bne_iff_ne.mpr hne⟩)
      · rintro ⟨_, hall⟩
        rw [hall accepted List.mem_cons_self]
        rfl

/-- The nodes agree exactly if there are any and each of them says the same. -/
theorem agreed_iff :
    (do let values ← nodes.mapM ask
        require_agreement values disagreement) = .ok b ↔
      nodes ≠ [] ∧ ∀ node ∈ nodes, ask node = .ok b := by
  rw [bind_eq_ok]
  constructor
  · rintro ⟨values, hvalues, hagree⟩
    obtain ⟨hne, hall⟩ := require_agreement_iff.mp hagree
    have hforall := mapM_eq_ok.mp hvalues
    refine ⟨?_, ?_⟩
    · rintro rfl
      exact hne (List.forall₂_nil_left_iff.mp hforall)
    · intro node hnode
      obtain ⟨value, hvalue, heq⟩ := exists_of_forall₂ hforall node hnode
      rw [heq, hall value hvalue]
  · rintro ⟨hne, hall⟩
    refine ⟨nodes.map (fun _ => b), ?_, require_agreement_iff.mpr ⟨?_, ?_⟩⟩
    · rw [mapM_eq_ok, List.forall₂_map_right_iff, List.forall₂_same]
      exact hall
    · intro hnil
      exact hne (List.map_eq_nil_iff.mp hnil)
    · intro value hvalue
      obtain ⟨_, _, heq⟩ := List.mem_map.mp hvalue
      exact heq.symm

end Agreement

/-! ## §5. An honest node. -/

/-- The block of the number has the hash. -/
def HasHash (chain : Nat → Block) (number : Nat) (hash : String) : Prop :=
  ∃ header block_hash, (chain number).header = some header ∧ header.height = some number ∧
    header.block_hash = some block_hash ∧ normalize_hash block_hash 32 = .ok hash

/-- Whatever blocks the node answers with are those of the chain. -/
structure NornNode.Honest (chain : Nat → Block) (node : NornNode) : Prop where
  header : ∀ call number block, node.block_response call number = .ok block →
    block.header = (chain number).header
  full : ∀ number block, node.full.block_response number = .ok block → block = chain number

/-- The command that a replay of the chain up to the height ends with. -/
def published (pins : NornPins) (chain : Nat → Block) (height : Nat) : Option DataCommand :=
  replay (command_of pins.registry_address pins.registry_key)
    ((List.range (height + 1)).flatMap (fun number => (chain number).transactions))

section Honest

variable {P : Platform} {pins : NornPins} {calls : NornNodes} {node : NornNode}
variable {chain : Nat → Block} {checkpoint : FinalizedCheckpoint}

theorem block_of_honest (hhonest : node.Honest chain) {call : BlockCall} {number : Nat}
    (h : node.block call number = .ok checkpoint) :
    HasHash chain number checkpoint.hash ∧ checkpoint.number = number ∧
      checkpoint.finality_type = .nornDualNodeConfirmations := by
  unfold NornNode.block at h
  simp only [bind_eq_ok, exists_unit, okOr_eq_ok, rejectIf_eq_ok, bne_eq_false_iff_eq,
    Except.ok.injEq] at h
  obtain ⟨block, hblock, header, hheader, height, hheight, rfl, text, htext, hash, hhash, rfl⟩ := h
  rw [hhonest.header call height block hblock] at hheader
  exact ⟨⟨header, text, hheader, hheight, htext, hhash⟩, rfl, rfl⟩

/-- What the nodes agree on is of the chain of any honest one. -/
theorem agreed_block_of_honest (hnode : node ∈ calls.nodes) (hhonest : node.Honest chain)
    {call : BlockCall} {number : Nat} (h : agreed_block calls call number = .ok checkpoint) :
    HasHash chain number checkpoint.hash ∧ checkpoint.number = number ∧
      checkpoint.finality_type = .nornDualNodeConfirmations :=
  block_of_honest hhonest ((agreed_iff.mp h).2 node hnode)

theorem full_block_of_honest (hhonest : node.Honest chain) {number : Nat} {block : Block}
    (h : node.full.full_block number = .ok block) : block = chain number := by
  unfold NornRpcClient.full_block at h
  simp only [bind_eq_ok, exists_unit, okOr_eq_ok, rejectIf_eq_ok, Except.ok.injEq] at h
  obtain ⟨found, hfound, _, _, _, _, _, _, _, rfl⟩ := h
  exact hhonest.full number found hfound

/-- A value that is found is set by the latest command of the scanned blocks. -/
theorem scan_of_honest (hnode : node ∈ calls.nodes) (hhonest : node.Honest chain)
    {value not_found : String} {heights : List Nat}
    (h : (scanner pins calls).scan value not_found heights = .ok ()) :
    ∃ command, heights.findSome? (fun height => registry_command (chain height).transactions
        pins.registry_address pins.registry_key) = some command ∧
      command.operation = "set" ∧ command.value = value := by
  induction heights with
  | nil => cases h
  | cons height rest ih =>
    unfold NornRegistryAdapter.scan at h
    obtain ⟨block, hblock, h⟩ := bind_eq_ok.mp h
    have hfull := (agreed_iff.mp hblock).2 node.full (List.mem_map_of_mem hnode)
    rw [full_block_of_honest hhonest hfull] at h
    rw [List.findSome?_cons]
    cases hcommand : registry_command (chain height).transactions pins.registry_address
        pins.registry_key with
    | none =>
      rw [show registry_command (chain height).transactions (scanner pins calls).registry_address
        (scanner pins calls).registry_key = none from hcommand] at h
      exact ih h
    | some command =>
      rw [show registry_command (chain height).transactions (scanner pins calls).registry_address
        (scanner pins calls).registry_key = some command from hcommand] at h
      simp only [bind_eq_ok, exists_unit, rejectIf_eq_ok, bne_eq_false_iff_eq] at h
      exact ⟨command, rfl, h⟩

/-- The heights that are scanned are the last ones. -/
theorem heights_suffix {adapter : NornRegistryAdapter} {finalized_height : Nat}
    (hsome : adapter.heights finalized_height ≠ []) :
    List.range (finalized_height + 1) =
      List.range (adapter.lower_bound finalized_height) ++ adapter.heights finalized_height := by
  have hle : adapter.lower_bound finalized_height ≤ finalized_height + 1 := by
    by_contra hgt
    refine hsome ?_
    unfold NornRegistryAdapter.heights
    rw [show finalized_height + 1 - adapter.lower_bound finalized_height = 0 by omega]
    rfl
  unfold NornRegistryAdapter.heights
  rw [List.range_eq_range', List.range_eq_range']
  have happend := @List.range'_append_1 0 (adapter.lower_bound finalized_height)
    (finalized_height + 1 - adapter.lower_bound finalized_height)
  rw [Nat.zero_add, show adapter.lower_bound finalized_height +
    (finalized_height + 1 - adapter.lower_bound finalized_height) = finalized_height + 1 by omega]
    at happend
  exact happend.symm

/-- A value that is found below a height is what the chain up to it has published. -/
theorem published_of_honest (hnode : node ∈ calls.nodes) (hhonest : node.Honest chain)
    {value : String} {height : Nat}
    (h : (scanner pins calls).verify_finalized_inclusion value height = .ok ()) :
    ∃ command, published pins chain height = some command ∧ command.operation = "set" ∧
      command.value = value := by
  obtain ⟨command, hfound, hset⟩ := scan_of_honest hnode hhonest h
  refine ⟨command, ?_, hset⟩
  have hsome : (scanner pins calls).heights height ≠ [] := by
    intro hnil
    rw [hnil] at hfound
    cases hfound
  unfold published
  rw [replay_eq_latest, latest_flatMap, heights_suffix hsome, latest_append]
  have hlatest : latest (fun number => latest (command_of pins.registry_address pins.registry_key)
      (chain number).transactions) ((scanner pins calls).heights height) = some command := hfound
  rw [hlatest]
  rfl

/-- Every head is as far ahead as is configured. -/
theorem confirmed_of_derived {heads : List Nat} {confirmations number : Nat}
    (h : confirmation_derived_height heads confirmations = .ok number) :
    number ≠ 0 ∧ ∀ head ∈ heads, number + confirmations ≤ head := by
  unfold confirmation_derived_height at h
  simp only [bind_eq_ok, exists_unit, okOr_eq_ok, rejectIf_eq_ok, decide_eq_false_iff_not,
    Except.ok.injEq] at h
  obtain ⟨least, hleast, henough, hadvanced, rfl⟩ := h
  refine ⟨hadvanced, ?_⟩
  intro head hhead
  have hle := (List.min?_eq_some_iff.mp hleast).2 head hhead
  omega

end Honest

/-! ## §6. Accepted snapshots. -/

/-- A snapshot inside the pins and its window, signed with the pinned key. -/
structure Admitted (P : Platform) (pins : NornPins) (issuer_keys : IssuerKeyRegistry)
    (accepted_height : Nat) (now : Int) (signed : NornRegistrySnapshotV1) : Prop where
  schema_version : signed.schema_version = NORN_REGISTRY_SNAPSHOT_V1
  chain_id : signed.chain_id = pins.chain_id
  genesis_block_hash : normalize_hash signed.genesis_block_hash 32 = .ok pins.genesis_block_hash
  registry_address : normalize_hash signed.registry_address 20 = .ok pins.registry_address
  registry_key : signed.registry_key = pins.registry_key
  registry_schema_hash :
    normalize_hash signed.registry_schema_hash 32 = .ok pins.target.registry_schema_hash
  snapshot_version : signed.snapshot_version ≠ 0
  checkpoint_height : signed.checkpoint_height ≠ 0 ∧ signed.checkpoint_height ≤ accepted_height
  root_status : signed.root_status = "ACTIVE"
  window : 0 < signed.published_at ∧ signed.published_at ≤ now ∧ now ≤ signed.valid_until ∧
    signed.published_at < signed.valid_until
  signer : signed.issuer = pins.snapshot_signer_issuer ∧ signed.key_id = pins.snapshot_signer_key_id
  entries : signed.entries ≠ [] ∧ signed.entries.length ≤ MAX_SNAPSHOT_ENTRIES
  hashes : (∃ hash, normalize_hash signed.checkpoint_hash 32 = .ok hash) ∧
    ∃ root, normalize_hash signed.state_root 32 = .ok root
  signed : ∃ public_key, issuer_keys.get signed.issuer signed.key_id = some public_key ∧
    P.verify_ed25519 (norn_snapshot_value signed) public_key = .ok ()

section Accepted

variable {P : Platform} {pins : NornPins} {issuer_keys : IssuerKeyRegistry} {now : Int}
variable {signed : NornRegistrySnapshotV1}

theorem validate_snapshot_shape_iff {accepted : FinalizedCheckpoint} :
    validate_snapshot_shape P pins signed issuer_keys accepted now = .ok () ↔
      Admitted P pins issuer_keys accepted.number now signed := by
  unfold validate_snapshot_shape
  simp only [bind_eq_ok, exists_unit, okOr_eq_ok, mapError_eq_ok, rejectIf_eq_ok,
    Bool.or_eq_false_iff, bne_eq_false_iff_eq, decide_eq_false_iff_not, not_lt, not_le,
    List.isEmpty_eq_false_iff]
  constructor
  · rintro ⟨⟨hschema, hchain⟩, genesis, hgenesis, rfl, address, haddress, ⟨rfl, hkey⟩, schema_hash,
      hschema_hash, ⟨⟨⟨⟨⟨⟨⟨⟨⟨⟨⟨⟨rfl, hversion⟩, hheight⟩, hbelow⟩, hstatus⟩, hpublished⟩, hnow⟩, huntil⟩,
        hwindow⟩, hissuer⟩, hkey_id⟩, hentries⟩, hfew⟩, hash, hhash, root, hroot, hsigned⟩
    exact ⟨hschema, hchain, hgenesis, haddress, hkey, hschema_hash, hversion, ⟨hheight, hbelow⟩,
      hstatus, ⟨hpublished, hnow, huntil, hwindow⟩, ⟨hissuer, hkey_id⟩, ⟨hentries, hfew⟩,
      ⟨⟨hash, hhash⟩, root, hroot⟩, hsigned⟩
  · intro h
    obtain ⟨hash, hhash⟩ := h.hashes.1
    obtain ⟨root, hroot⟩ := h.hashes.2
    exact ⟨⟨h.schema_version, h.chain_id⟩, _, h.genesis_block_hash, rfl, _, h.registry_address,
      ⟨rfl, h.registry_key⟩, _, h.registry_schema_hash, ⟨⟨⟨⟨⟨⟨⟨⟨⟨⟨⟨⟨rfl, h.snapshot_version⟩,
        h.checkpoint_height.1⟩, h.checkpoint_height.2⟩, h.root_status⟩, h.window.1⟩, h.window.2.1⟩,
        h.window.2.2.1⟩, h.window.2.2.2⟩, h.signer.1⟩, h.signer.2⟩, h.entries.1⟩, h.entries.2⟩,
      hash, hhash, root, hroot, h.signed⟩

/-- What one honest node answers for: the checkpoint is of its chain and as deep as is
configured, and the records are those of the signed snapshot its chain has published. -/
structure Vouched (P : Platform) (pins : NornPins) (from_str : String → Except String Json)
    (issuer_keys : IssuerKeyRegistry) (now : Int) (chain : Nat → Block) (node : NornNode)
    (snapshot : ChainSnapshot) : Prop where
  genesis : HasHash chain 0 pins.genesis_block_hash
  checkpoint : HasHash chain snapshot.checkpoint.number snapshot.checkpoint.hash
  finality_type : snapshot.checkpoint.finality_type = .nornDualNodeConfirmations
  advanced : snapshot.checkpoint.number ≠ 0
  confirmed : ∃ head, node.head = .ok head ∧ snapshot.checkpoint.number + pins.confirmations ≤ head
  published : ∃ command parsed signed, published pins chain snapshot.checkpoint.number = some command ∧
    command.operation = "set" ∧
    node.read_contract_address pins.registry_address pins.registry_key = .ok command.value ∧
    from_str command.value = .ok parsed ∧ NornRegistrySnapshotV1.from_value parsed = .ok signed ∧
    Admitted P pins issuer_keys snapshot.checkpoint.number now signed ∧
    HasHash chain signed.checkpoint_height signed.checkpoint_hash ∧
    Norn.snapshot_records P signed.toRegistrySnapshot = .ok snapshot.records ∧
    normalize_hash signed.state_root 32 = .ok snapshot.state_root ∧
    snapshot.generation = signed.snapshot_version

/-- **An accepted snapshot is vouched for by every honest node**, whatever the others say. -/
theorem vouched_of_read {calls : NornNodes} {node : NornNode} {chain : Nat → Block}
    (hnode : node ∈ calls.nodes) (hhonest : node.Honest chain)
    {from_str : String → Except String Json} {snapshot : ChainSnapshot}
    (h : norn_read_snapshot P pins calls from_str issuer_keys now = .ok snapshot) :
    Vouched P pins from_str issuer_keys now chain node snapshot := by
  unfold norn_read_snapshot at h
  simp only [bind_eq_ok, exists_unit, rejectIf_eq_ok, bne_eq_false_iff_eq, Except.ok.injEq] at h
  obtain ⟨genesis, hgenesis, hpinned, checkpoint, hcheckpoint, value, hvalue, _, hincluded, parsed,
    hparsed, signed, hsigned, records, hrecords, _, _, _, root, hroot, rfl⟩ := h
  -- the checkpoint: the heads, then the block
  unfold norn_finalized_checkpoint at hcheckpoint
  obtain ⟨heads, hheads, hcheckpoint⟩ := bind_eq_ok.mp hcheckpoint
  obtain ⟨number, hnumber, hblock⟩ := bind_eq_ok.mp hcheckpoint
  obtain ⟨hadvanced, hdeep⟩ := confirmed_of_derived hnumber
  obtain ⟨head, hhead, hasked⟩ := exists_of_forall₂ (mapM_eq_ok.mp hheads) node hnode
  obtain ⟨hhash, hsame, hfinality⟩ := agreed_block_of_honest hnode hhonest hblock
  -- the value, and where it was published
  have hstored : registry_value pins node = .ok value := (agreed_iff.mp hvalue).2 node hnode
  unfold registry_value at hstored
  simp only [bind_eq_ok, exists_unit, rejectIf_eq_ok, Except.ok.injEq] at hstored
  obtain ⟨_, hread, _, rfl⟩ := hstored
  obtain ⟨command, hpublished, hset, rfl⟩ := published_of_honest hnode hhonest hincluded
  -- the signed snapshot
  unfold validate_norn_snapshot at hrecords
  simp only [bind_eq_ok, exists_unit, rejectIf_eq_ok, bne_eq_false_iff_eq] at hrecords
  obtain ⟨hshape, signed_checkpoint, hsigned_block, hcanonical, hrecords⟩ := hrecords
  have hgenesis_hash := (agreed_block_of_honest hnode hhonest hgenesis).1
  rw [hpinned] at hgenesis_hash
  have hsigned_hash := (agreed_block_of_honest hnode hhonest hsigned_block).1
  rw [hcanonical] at hsigned_hash
  refine ⟨hgenesis_hash, ?_, hfinality, ?_, ⟨head, hasked, ?_⟩, command, parsed, signed, hpublished,
    hset, hread, hparsed, hsigned, validate_snapshot_shape_iff.mp hshape, hsigned_hash, hrecords,
    hroot, rfl⟩
  · rw [hsame]
    exact hhash
  · rw [hsame]
    exact hadvanced
  · rw [hsame]
    exact hdeep head hhead

/-- The records of an admitted snapshot are those of its entries. -/
theorem written_of_admitted {height : Nat} {records : AList (fun _ : String => RegistryRecord)}
    {root : String} (h : Admitted P pins issuer_keys height now signed)
    (hrecords : Norn.snapshot_records P signed.toRegistrySnapshot = .ok records)
    (hroot : normalize_hash signed.state_root 32 = .ok root) :
    (∀ entry ∈ signed.entries, ∃ record, records.lookup entry.server_id = some record ∧
      Written P root "ACTIVE" entry record) ∧
    ∀ id record, records.lookup id = some record →
      ∃ entry ∈ signed.entries, entry.server_id = id ∧ Written P root "ACTIVE" entry record := by
  unfold Norn.snapshot_records at hrecords
  simp only [bind_eq_ok, exists_unit, rejectIf_eq_ok, Except.ok.injEq] at hrecords
  obtain ⟨root', hroot', _, _, _, acc, hacc, rfl⟩ := hrecords
  obtain rfl := Except.ok.inj (hroot.symm.trans hroot')
  rw [h.root_status] at hacc
  obtain ⟨_, hlisted, hcases⟩ := take_entries_written hacc
  refine ⟨hlisted, ?_⟩
  intro id record hlookup
  rcases hcases id record hlookup with hnone | hentry
  · cases hnone
  · exact hentry

end Accepted

/-! ## §7. The lab's snapshot. -/

open Agent

/-- The recorded results of the lab, and those of its snapshot. -/
def lab_norn_platform : Platform :=
  { lab_recording [] [(operator_key, "\x7b\"chain_id\":20001",
      "76Kx6bXwsp7WVSNAGfszgCO5a1+fR2hAwL49/n3Xg6NQ+9/CKxcWaUw+Wfu4ivsT/MYj3a/9hCiirMiStCx1Bw==")]
    with digests := [
      ("resolver-identity-norn-registry-snapshot-v1:", NORN_REGISTRY_SCHEMA_HASH_V1),
      ("resolver-leaf-v1|", "0xab099bc78310ae904fb9907825160798208da0db78fc67dd739cecd678dce78c"),
      ("endpoint-v2:\x7b\"ip\":\"192.0.2.1\",\"port\":53,\"transport\":\"udp\"\x7d",
        "0x4356fe8ba3df2de8ae5381e548c4983637834aaef5b65b2162c72de1fca5bdb4"),
      ("resolver-id:resolver-a",
        "0x7b2714522383dc3c058e243af8095abfda8814ed999fe3dcfa590ba057faff1b"),
      ("\x7b\"agent\":\x7b\"algorithm\":\"ed25519\",\"key_id\":\"agent-key-a",
        resolver_a.2.object_hash)] }.platform

/-- The entry of `resolver-a`. -/
def lab_entry : SnapshotEntry where
  server_id := "resolver-a"
  resolver_id_key := "0x7b2714522383dc3c058e243af8095abfda8814ed999fe3dcfa590ba057faff1b"
  object_hash := resolver_a.2.object_hash
  object_version := 1
  valid_until := 1900000000
  status := "ACTIVE"
  endpoint_keys := ["0x4356fe8ba3df2de8ae5381e548c4983637834aaef5b65b2162c72de1fca5bdb4"]

/-- The Registry's contract. -/
def lab_norn_address : String := "0x2222222222222222222222222222222222222222"

/-- A snapshot signed by the operator. -/
def lab_signed : NornRegistrySnapshotV1 where
  schema_version := NORN_REGISTRY_SNAPSHOT_V1
  chain_id := 20001
  genesis_block_hash := digest_of '1'
  registry_address := lab_norn_address
  registry_key := "registry"
  registry_schema_hash := NORN_REGISTRY_SCHEMA_HASH_V1
  snapshot_version := 1
  checkpoint_height := 4
  checkpoint_hash := digest_of '3'
  state_root := "0xab099bc78310ae904fb9907825160798208da0db78fc67dd739cecd678dce78c"
  root_status := "ACTIVE"
  published_at := 1749999000
  valid_until := 1900000000
  issuer := "registry-operator"
  key_id := "registry-key-1"
  entries := [lab_entry]
  signature := some "base64:ed25519:76Kx6bXwsp7WVSNAGfszgCO5a1+fR2hAwL49/n3Xg6NQ+9/CKxcWaUw+Wfu4ivsT/MYj3a/9hCiirMiStCx1Bw=="

/-- Two nodes and the pins of their chain. -/
def lab_norn_config : NornAdapterConfig where
  rpc_urls := ["https://norn-a.example", "https://norn-b.example"]
  chain_id := 20001
  genesis_block_hash := digest_of '1'
  registry_address := lab_norn_address
  registry_key := "registry"
  registry_schema_hash := NORN_REGISTRY_SCHEMA_HASH_V1
  snapshot_signer_issuer := "registry-operator"
  snapshot_signer_key_id := "registry-key-1"
  confirmations := 4
  registry_start_height := 0
  max_scan_blocks := 10
  request_timeout := 1000000000
  max_response_bytes := 4194304
  production := true

/-- The pins the adapter computes from it. -/
def lab_norn_pins : NornPins where
  target := {
    adapter := "norn"
    chain_identity := "norn-genesis:" ++ digest_of '1'
    registry_locator := "norn:" ++ lab_norn_address ++ "#" ++ "registry"
    registry_schema_hash := NORN_REGISTRY_SCHEMA_HASH_V1
    adapter_metadata := .norn (digest_of '1') lab_norn_address "registry" "registry-operator"
      "registry-key-1" }
  genesis_block_hash := digest_of '1'
  registry_address := lab_norn_address
  registry_key := "registry"
  chain_id := 20001
  snapshot_signer_issuer := "registry-operator"
  snapshot_signer_key_id := "registry-key-1"
  confirmations := 4
  registry_start_height := 0
  max_scan_blocks := 10
  max_response_bytes := 4194304
  scans := by decide

/-- The port of HTTPS, at the text of the URL. -/
def lab_origin (url : String) : Option (String × Nat) := some (url, 443)

theorem lab_digest_hash {c : Char} (h : (to_digit c).any (fun digit => Nat.digitChar digit = c) = true) :
    IsDigest (digest_of c) := by
  have hchars : digest_of c = String.ofList ('0' :: 'x' :: List.replicate 64 c) := by
    unfold digest_of
    rw [show "0x" = String.ofList ['0', 'x'] from rfl, ← String.ofList_append]
    rfl
  rw [hchars]
  refine digest_of_chars List.length_replicate ?_
  rw [List.all_eq_true]
  intro other hother
  rw [List.eq_of_mem_replicate hother]
  exact h

theorem lab_schema_digest : IsDigest NORN_REGISTRY_SCHEMA_HASH_V1 := @digest_of_chars _ rfl (by decide)

theorem lab_address_normalized : normalize_hash lab_norn_address 20 = .ok lab_norn_address :=
  toOption_eq_some (by decide +kernel)

theorem lab_descriptor_digest : norn_registry_schema_hash lab_norn_platform = NORN_REGISTRY_SCHEMA_HASH_V1 := by
  unfold norn_registry_schema_hash NORN_SCHEMA_DESCRIPTOR_V1
  simp only [as_bytes_append, List.append_assoc]
  generalize as_bytes "chain_id,genesis_block_hash,registry_address,registry_key," ++ _ = rest
  rfl

theorem lab_norn_new : NornPins.new lab_norn_platform lab_origin lab_norn_config = .ok lab_norn_pins := by
  unfold NornPins.new
  rw [show lab_norn_config.genesis_block_hash = digest_of '1' from rfl, (lab_digest_hash (by decide)).normalize,
    show lab_norn_config.registry_address = lab_norn_address from rfl, lab_address_normalized,
    show lab_norn_config.registry_schema_hash = NORN_REGISTRY_SCHEMA_HASH_V1 from rfl,
    lab_schema_digest.normalize, lab_descriptor_digest]
  rfl

theorem lab_entry_digests : lab_entry.Digests := by
  refine ⟨@digest_of_chars _ rfl (by decide), @digest_of_chars _ rfl (by decide), ?_⟩
  intro endpoint hendpoint
  rw [List.mem_singleton.mp hendpoint]
  exact @digest_of_chars _ rfl (by decide)

theorem lab_root_digest : IsDigest lab_signed.state_root := @digest_of_chars _ rfl (by decide)

theorem lab_leaf_digest (text : String) :
    lab_norn_platform.sha256_hex (as_bytes ("resolver-leaf-v1|" ++ text)) = lab_signed.state_root := by
  rw [as_bytes_append]
  generalize as_bytes text = rest
  rfl

theorem lab_root_of_entries : Norn.norn_state_root lab_norn_platform [lab_entry] = .ok lab_signed.state_root := by
  have hleaf : leaves lab_norn_platform Norn.wording.unsorted none [lab_entry] =
      .ok [lab_signed.state_root] := by
    unfold leaves leaves
    rw [lab_entry_digests.resolver_id_key.normalize, lab_entry_digests.object_hash.normalize]
    simp only [Option.any_none, rejectIf, ok_bind]
    unfold leaf_text
    rw [lab_leaf_digest]
    rfl
  unfold Norn.norn_state_root state_root
  rw [hleaf]
  rfl

theorem lab_norn_resolver_key : lab_entry.resolver_id_key = lab_norn_platform.resolver_id_key "resolver-a" := by
  decide +kernel

theorem lab_records_taken :
    ∃ records, Norn.snapshot_records lab_norn_platform lab_signed.toRegistrySnapshot = .ok records := by
  refine (Norn.snapshot_records_iff ?_ lab_root_digest lab_root_of_entries).mpr ⟨?_, ?_⟩
  · intro entry hentry
    rw [List.mem_singleton.mp hentry]
    exact lab_entry_digests
  · intro entry hentry
    rw [List.mem_singleton.mp hentry]
    exact ⟨by decide, by decide, by decide, by decide, by decide, lab_norn_resolver_key⟩
  · exact ⟨List.nodup_singleton _, List.nodup_singleton _, List.nodup_singleton _⟩

/-- What is written of the snapshot. -/
def lab_bytes : List UInt8 := Json.to_vec (norn_snapshot_value lab_signed)

/-- `serde_json::to_string` of the snapshot. -/
def lab_text : String := String.ofList (lab_bytes.map (fun byte => Char.ofNat byte.toNat))

/-- `serde_json::from_str`, on that text. -/
def lab_from_str (text : String) : Except String Json :=
  if text = lab_text then .ok (norn_snapshot_value lab_signed) else .error "expected value"

theorem lab_value_read : NornRegistrySnapshotV1.from_value (norn_snapshot_value lab_signed) = .ok lab_signed :=
  rfl

theorem lab_signature :
    lab_norn_platform.verify_ed25519 (norn_snapshot_value lab_signed) operator_key = .ok () := by
  decide +kernel

theorem lab_admitted {height : Nat} (hheight : 4 ≤ height) :
    Admitted lab_norn_platform lab_norn_pins lab_issuer_keys height 1750000000 lab_signed := by
  have haddress := lab_address_normalized
  refine ⟨rfl, rfl, (lab_digest_hash (by decide)).normalize, haddress, rfl, lab_schema_digest.normalize, by decide,
    ⟨by decide, hheight⟩, rfl, by decide, ⟨rfl, rfl⟩, ⟨List.cons_ne_nil _ _, by decide⟩,
    ⟨⟨_, (lab_digest_hash (by decide)).normalize⟩, _, lab_root_digest.normalize⟩, operator_key, rfl, lab_signature⟩

end ResolverIdentity.Chain
