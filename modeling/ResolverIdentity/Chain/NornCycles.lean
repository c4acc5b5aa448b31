/-
  ResolverIdentity.Chain.NornCycles: runs of the synchronizer over Norn nodes.

  `reconcile` of `ri-registry-sync/src/main.rs` over the adapter of
  `ri-chain-adapter/src/norn.rs`, cycle after cycle.  In each of them some node is honest;
  which one may change, and the others may answer anything.

  Main results:
    * `decode_data_command_bytes`: a command is decoded as it was encoded;
    * `norn_served`: what is given out, the chain has published up to the store's height;
    * `norn_dropped_unserved`: what the chain has dropped is not given out again;
    * `norn_cycle_iff`: the cycles that are applied when all nodes answer from the chain.
-/
import ResolverIdentity.Chain.NornSnapshots

namespace ResolverIdentity.Chain

open Library Sync Publisher Store

/-! ## §1. Commands. -/

/-- The four bytes of a number, least significant first. -/
def u32_to_le_bytes (n : Nat) : List UInt8 :=
  [UInt8.ofNat n, UInt8.ofNat (n / 256), UInt8.ofNat (n / 65536), UInt8.ofNat (n / 16777216)]

/-- The header of one field: offset, size, one entry. -/
def field_header (offset size : Nat) : List UInt8 :=
  u32_to_le_bytes offset ++ u32_to_le_bytes size ++ u32_to_le_bytes 1

/-- The encoding of a command, headers first. -/
def data_command_bytes (command : DataCommand) : List UInt8 :=
  let operation := as_bytes command.operation
  let key := as_bytes command.key
  let value := as_bytes command.value
  u32_to_le_bytes 40 ++ field_header 48 operation.length ++
    field_header (48 + operation.length) key.length ++
    field_header (48 + operation.length + key.length) value.length ++
    List.replicate 8 0 ++ operation ++ key ++ value

theorem u32_from_to {n : Nat} (h : n < 2 ^ 32) : u32_from_le_bytes (u32_to_le_bytes n) = n := by
  unfold u32_from_le_bytes u32_to_le_bytes
  simp only [List.foldr_cons, List.foldr_nil, UInt8.toNat_ofNat']
  omega

theorem from_utf8_as_bytes (text : String) : from_utf8 (as_bytes text) = .ok text := by
  have hbytes : (⟨(as_bytes text).toArray⟩ : ByteArray) = text.toByteArray := by
    unfold as_bytes
    simp
  unfold from_utf8
  rw [hbytes]
  have hvalid : String.fromUTF8? text.toByteArray = some text := by
    unfold String.fromUTF8?
    rw [dif_pos text.isValidUTF8]
    rfl
  rw [hvalid]
  rfl

theorem get_range_part (before part after : List UInt8) :
    get_range (before ++ part ++ after) before.length (before.length + part.length) = some part := by
  unfold get_range
  rw [if_pos (by simp), List.append_assoc, List.drop_left, Nat.add_sub_cancel_left,
    List.take_left]

theorem field_of_parts {bytes before part after : List UInt8} {offset : Nat}
    (hbytes : bytes = before ++ part ++ after) (hsize : bytes.length < 2 ^ 32)
    (hoffset : (bytes.drop offset).take 4 = u32_to_le_bytes before.length)
    (hlength : (bytes.drop (offset + 4)).take 4 = u32_to_le_bytes part.length) :
    field bytes offset = .ok part := by
  have hwidth : before.length + part.length + after.length < 2 ^ 32 := by
    rw [hbytes, List.length_append, List.length_append] at hsize
    exact hsize
  unfold field
  rw [hoffset, hlength]
  simp only [u32_from_to (show before.length < 2 ^ 32 by omega),
    u32_from_to (show part.length < 2 ^ 32 by omega)]
  rw [hbytes, get_range_part]
  rfl

theorem decode_data_command_bytes {command : DataCommand}
    (h : (data_command_bytes command).length < 2 ^ 32) :
    decode_data_command (hex_text (data_command_bytes command)) = .ok command := by
  have hbytes : command_bytes (hex_text (data_command_bytes command)) =
      .ok (data_command_bytes command) := by
    unfold command_bytes hex_text
    rw [String.toList_ofList]
    exact hex_decode_encode _
  -- the header is there
  have hlong : ¬ (data_command_bytes command).length < 40 := by
    unfold data_command_bytes field_header u32_to_le_bytes
    simp
  generalize hop : as_bytes command.operation = operation
  generalize hkey : as_bytes command.key = key
  generalize hvalue : as_bytes command.value = value
  have hform : data_command_bytes command = (u32_to_le_bytes 40 ++ field_header 48 operation.length ++
    field_header (48 + operation.length) key.length ++
    field_header (48 + operation.length + key.length) value.length ++
    List.replicate 8 0) ++ operation ++ key ++ value := by
      rw [← hop, ← hkey, ← hvalue]; rfl
  generalize hbefore : u32_to_le_bytes 40 ++ field_header 48 operation.length ++
    field_header (48 + operation.length) key.length ++
    field_header (48 + operation.length + key.length) value.length ++
    List.replicate 8 0 = before at hform
  -- the four field headers take 48 bytes, so the first payload is at 48
  have hhead : before.length = 48 := by
    rw [← hbefore]
    rfl
  have hfirst : field (data_command_bytes command) 4 = .ok operation := by
    refine @field_of_parts _ before operation (key ++ value) 4 ?_ h ?_ ?_
    · rw [hform, List.append_assoc]
    · rw [hhead, hform, ← hbefore]
      rfl
    · rw [hform, ← hbefore]
      rfl
  have hsecond : field (data_command_bytes command) 16 = .ok key := by
    refine field_of_parts hform h ?_ ?_
    · rw [List.length_append, hhead, hform, ← hbefore]
      rfl
    · rw [hform, ← hbefore]
      rfl
  have hthird : field (data_command_bytes command) 28 = .ok value := by
    refine @field_of_parts _ (before ++ operation ++ key) value [] 28 ?_ h ?_ ?_
    · rw [hform, List.append_nil]
    · rw [List.length_append, List.length_append, hhead, hform, ← hbefore]
      rfl
    · rw [hform, ← hbefore]
      rfl
  unfold decode_data_command
  rw [hbytes]
  simp only [ok_bind, hlong, decide_false, rejectIf, Bool.false_eq_true, if_false, hfirst, hsecond,
    hthird, ← hop, ← hkey, ← hvalue, from_utf8_as_bytes]

/-! ## §2. Runs. -/

/-- What one call of `reconcile` over a Norn adapter works on. -/
structure NornCycle where
  calls : NornNodes
  issuer_keys : IssuerKeyRegistry
  identities : List DnsServerIdentityV2
  now : Int
  /-- The height of the stored checkpoint. -/
  stored_height : Nat

section Runs

variable (P : Platform) (pins : NornPins) (from_str : String → Except String Json)

/-- The cycle the synchronizer sees. -/
def NornCycle.cycle (self : NornCycle) : Cycle where
  target := pins.target
  issuer_keys := self.issuer_keys
  identities := self.identities
  now := self.now
  answers := {
    read_snapshot := norn_read_snapshot P pins self.calls from_str self.issuer_keys self.now
    canonical_hash := norn_block_hash self.calls .canonical self.stored_height
    confirmed_hash := do
      let snapshot ← norn_read_snapshot P pins self.calls from_str self.issuer_keys self.now
      norn_block_hash self.calls .settled snapshot.checkpoint.number }

/-- The identity is in the cycle's file, and stands in the snapshot that the chain has published
up to the height; the cycle admits both. -/
def ListedAt (cycle : NornCycle) (chain : Nat → Block) (height : Nat)
    (identity : DnsServerIdentityV2) : Prop :=
  identity ∈ cycle.identities ∧ Genuine P cycle.issuer_keys cycle.now identity ∧
    ∃ command parsed signed, published pins chain height = some command ∧
      command.operation = "set" ∧ from_str command.value = .ok parsed ∧
      NornRegistrySnapshotV1.from_value parsed = .ok signed ∧
      Admitted P pins cycle.issuer_keys height cycle.now signed ∧
      ∃ entry ∈ signed.entries, Lists P entry identity

variable {P pins from_str}

/-- The cycle has read the set and checked its records. -/
structure Prepared (P : Platform) (cycle : Cycle) (applied : Applied) : Prop where
  read : cycle.answers.read_snapshot = .ok applied.snapshot
  same : applied =
    ⟨cycle.target, cycle.issuer_keys, cycle.identities, cycle.now, applied.snapshot⟩
  records : ∃ records,
    snapshot_records P cycle.target applied.snapshot cycle.identities = .ok records

/-- The set applied last was prepared in one of the cycles. -/
theorem prepared_of_run {cycles : List Cycle} {st : SyncState} {applied : Applied}
    (hrun : (sync P).run cycles = some st) (hlast : st.last = some applied) :
    ∃ cycle ∈ cycles, Prepared P cycle applied := by
  refine Machine.run_induction (M := sync P)
    (motive := fun cycles st => ∀ applied, st.last = some applied →
      ∃ cycle ∈ cycles, Prepared P cycle applied) ?_ ?_ hrun applied hlast
  · intro applied hlast
    cases hlast
  · intro cycles st cycle st' _ ih hstep applied hlast
    rw [← Option.some.inj hstep] at hlast
    rcases take_iff (P := P) cycle st with
      ⟨records, snapshot, _, _, hprepare, hread, _, htaken⟩ | hkept
    · rw [htaken] at hlast
      obtain rfl := Option.some.inj hlast
      obtain ⟨_, found, _, hfound, _, _, hrecords, _⟩ := prepare_records_iff.mp hprepare
      obtain rfl := Except.ok.inj (hfound.symm.trans hread)
      exact ⟨cycle, List.mem_append_right _ List.mem_cons_self, hread, rfl, records, hrecords⟩
    · rw [hkept] at hlast
      obtain ⟨earlier, hearlier, hsame⟩ := ih applied hlast
      exact ⟨earlier, List.mem_append_left _ hearlier, hsame⟩

/-- The adapter's target is the one its metadata names. -/
theorem coherent_of_new {origin : String → Option (String × Nat)} {config : NornAdapterConfig}
    (h : NornPins.new P origin config = .ok pins) :
    Coherent pins.target .nornDualNodeConfirmations := by
  unfold NornPins.new at h
  simp only [bind_eq_ok, exists_unit, rejectIf_eq_ok] at h
  obtain ⟨genesis, _, address, _, schema_hash, hschema_hash, _, h⟩ := h
  split at h
  · cases h
  · simp only [bind_eq_ok, exists_unit, rejectIf_eq_ok, Except.ok.injEq] at h
    obtain ⟨_, _, _, _, _, _, _, _, rfl⟩ := h
    have hsome : schema_hash.isEmpty = false := by
      -- a hash has 66 characters
      have hwidth := (normalize_hash_eq_ok hschema_hash).2
      by_contra hempty
      rw [Bool.not_eq_false, String.isEmpty_iff] at hempty
      rw [hempty] at hwidth
      cases hwidth
    unfold Coherent RegistryReferenceWire.target_matches_metadata
    simp [hsome]

/-- **What is given out is listed by the snapshot the chain has published** up to the height the
store has reached, if in every cycle one node was honest. -/
theorem norn_served {origin : String → Option (String × Nat)} {config : NornAdapterConfig}
    (hnew : NornPins.new P origin config = .ok pins) {cycles : List NornCycle} {st : SyncState}
    (hrun : (sync P).run (cycles.map (NornCycle.cycle P pins from_str)) = some st)
    {chain : Nat → Block}
    (hhonest : ∀ cycle ∈ cycles, ∃ node ∈ cycle.calls.nodes, node.Honest chain)
    {endpoint : DnsEndpoint} {identity : DnsServerIdentityV2} {registry : RegistryReferenceV2}
    (hlookup : lookup_identity P st.store endpoint = .ok (some (identity, registry))) :
    ∃ height, last_height st = some height ∧
      (∃ cycle ∈ cycles, ListedAt P pins from_str cycle chain height identity) ∧
      registry.checkpoint_height = height ∧ HasHash chain height registry.checkpoint_hash ∧
      ∃ bound ∈ identity.endpoints, P.cache_key bound = P.cache_key endpoint := by
  have hholds := holds_of_run hrun
  unfold SyncState.Holds at hholds
  cases hlast : st.last with
  | none =>
    rw [hlast] at hholds
    rw [show st.store = .open_ from hholds] at hlookup
    exact absurd hlookup lookup_identity_open
  | some applied =>
    rw [hlast] at hholds
    obtain ⟨hidentity, hgenuine, record, hrecord, _, hreference, bound, hbound, hkey, _⟩ :=
      Reconciled.backed hholds hlookup
    -- the cycle that applied the set
    obtain ⟨made, hmade, hread, happlied, records, hrecords⟩ := prepared_of_run hrun hlast
    obtain ⟨cycle, hcycle, rfl⟩ := List.mem_map.mp hmade
    have hidentity : identity ∈ cycle.identities := by
      rw [happlied] at hidentity
      exact hidentity
    obtain ⟨_, _, found, hfound, _, hvalid, _⟩ :=
      exists_of_forall₂ (snapshot_records_iff.mp hrecords) identity hidentity
    -- what an honest node has answered in it
    obtain ⟨node, hnode, hchain⟩ := hhonest cycle hcycle
    have hvouched := vouched_of_read hnode hchain hread
    obtain ⟨command, parsed, signed, hpublished, hset, _, hparsed, hsigned, hadmitted, _, htaken,
      hroot, _⟩ := hvouched.published
    obtain ⟨entry, hentry, hid, hwritten⟩ :=
      (written_of_admitted hadmitted htaken hroot).2 _ found hfound
    have hcoherent : (registry_reference pins.target applied.snapshot.checkpoint
        applied.snapshot.generation record).Agrees := by
      show Coherent pins.target applied.snapshot.checkpoint.finality_type
      rw [hvouched.finality_type]
      exact coherent_of_new hnew
    have hreference : registry = registry_reference pins.target applied.snapshot.checkpoint
        applied.snapshot.generation record := by
      rw [show applied.target = pins.target by rw [happlied]; rfl] at hreference
      exact hreference.trans (RegistryReferenceV2.read_back_of_reread
        (RegistryReferenceV2.deserialize_to_wire hcoherent))
    refine ⟨applied.snapshot.checkpoint.number, ?_, ⟨cycle, hcycle, hidentity, ?_, command, parsed,
      signed, hpublished, hset, hparsed, hsigned, hadmitted, entry, hentry,
      (hwritten.valid_iff hid).mp hvalid⟩, ?_, ?_, bound, hbound, hkey⟩
    · unfold last_height
      rw [hlast]
      rfl
    · rw [happlied] at hgenuine
      exact hgenuine
    · rw [hreference]
      rfl
    · rw [hreference]
      exact hvouched.checkpoint

/-! ## §3. What is no longer published. -/

end Runs

/-! ## §4. Nodes that answer. -/

/-- The node answers every call from the chain, and has the value for the Registry. -/
structure NornNode.Answers (pins : NornPins) (chain : Nat → Block) (value : String)
    (node : NornNode) : Prop where
  header : ∀ call number, ∃ block, node.block_response call number = .ok block ∧
    block.header = (chain number).header
  full : ∀ number, node.full.block_response number = .ok (chain number)
  value : node.read_contract_address pins.registry_address pins.registry_key = .ok value

/-- The heights that are scanned below a checkpoint. -/
def scanned (pins : NornPins) (height : Nat) : List Nat :=
  let lower_bound := max (height - (pins.max_scan_blocks - 1)) pins.registry_start_height
  List.range' lower_bound (height + 1 - lower_bound)

/-- The latest command in them. -/
def recent (pins : NornPins) (chain : Nat → Block) (height : Nat) : Option DataCommand :=
  latest (fun number => registry_command (chain number).transactions pins.registry_address
    pins.registry_key) (scanned pins height)

/-- The signed snapshot that the value is, and what is made of it at a checkpoint of the chain. -/
structure Readable (P : Platform) (pins : NornPins) (from_str : String → Except String Json)
    (issuer_keys : IssuerKeyRegistry) (now : Int) (chain : Nat → Block) (heads : List Nat)
    (value : String) (signed : NornRegistrySnapshotV1) (snapshot : ChainSnapshot) : Prop where
  genesis : HasHash chain 0 pins.genesis_block_hash
  confirmed : confirmation_derived_height heads pins.confirmations = .ok snapshot.checkpoint.number
  checkpoint : HasHash chain snapshot.checkpoint.number snapshot.checkpoint.hash
  finality_type : snapshot.checkpoint.finality_type = .nornDualNodeConfirmations
  fits : value ≠ "" ∧ (as_bytes value).length ≤ pins.max_response_bytes
  published : ∃ command, recent pins chain snapshot.checkpoint.number = some command ∧
    command.operation = "set" ∧ command.value = value
  parsed : ∃ parsed, from_str value = .ok parsed ∧ NornRegistrySnapshotV1.from_value parsed = .ok signed
  admitted : Admitted P pins issuer_keys snapshot.checkpoint.number now signed
  canonical : HasHash chain signed.checkpoint_height signed.checkpoint_hash
  records : Norn.snapshot_records P signed.toRegistrySnapshot = .ok snapshot.records
  state_root : normalize_hash signed.state_root 32 = .ok snapshot.state_root
  generation : snapshot.generation = signed.snapshot_version

section Answering

variable {P : Platform} {pins : NornPins} {calls : NornNodes} {chain : Nat → Block} {value : String}
variable (hanswers : ∀ node ∈ calls.nodes, node.Answers pins chain value)

theorem NornNode.Answers.honest {node : NornNode} (h : node.Answers pins chain value) :
    node.Honest chain := by
  refine ⟨?_, ?_⟩
  · intro call number block hblock
    obtain ⟨found, hfound, hheader⟩ := h.header call number
    rw [← Except.ok.inj (hfound.symm.trans hblock)]
    exact hheader
  · intro number block hblock
    exact (Except.ok.inj ((h.full number).symm.trans hblock)).symm

theorem block_of_answers {node : NornNode} (h : node.Answers pins chain value) (call : BlockCall)
    {number : Nat} {hash : String} (hhash : HasHash chain number hash) :
    node.block call number = .ok ⟨number, hash, .nornDualNodeConfirmations⟩ := by
  obtain ⟨block, hblock, hheader⟩ := h.header call number
  obtain ⟨header, text, hfound, hheight, htext, hnormalized⟩ := hhash
  rw [hfound] at hheader
  unfold NornNode.block
  rw [hblock, ok_bind, hheader]
  simp only [okOr, ok_bind, hheight, bne_self_eq_false, htext, hnormalized, rejectIf]
  rfl

theorem registry_value_iff {node : NornNode} (h : node.Answers pins chain value) {found : String} :
    registry_value pins node = .ok found ↔ found = value ∧ value ≠ "" := by
  unfold registry_value
  rw [h.value]
  simp only [ok_bind, bind_eq_ok, exists_unit, rejectIf_eq_ok, Except.ok.injEq]
  rw [and_comm, ← Bool.not_eq_true, String.isEmpty_iff, eq_comm]

theorem nodes_nonempty (calls : NornNodes) : calls.nodes ≠ [] := by
  have htwo := calls.independent
  intro hnil
  rw [hnil] at htwo
  cases htwo

include hanswers

theorem agreed_block_iff {call : BlockCall} {number : Nat} {checkpoint : FinalizedCheckpoint} :
    agreed_block calls call number = .ok checkpoint ↔ HasHash chain number checkpoint.hash ∧
      checkpoint.number = number ∧ checkpoint.finality_type = .nornDualNodeConfirmations := by
  constructor
  · intro h
    obtain ⟨node, hnode⟩ := List.exists_mem_of_ne_nil _ (nodes_nonempty calls)
    exact agreed_block_of_honest hnode (hanswers node hnode).honest h
  · rintro ⟨hhash, rfl, hfinality⟩
    refine agreed_iff.mpr ⟨nodes_nonempty calls, ?_⟩
    intro node hnode
    rw [block_of_answers (hanswers node hnode) call hhash, ← hfinality]

theorem norn_block_hash_iff {call : BlockCall} {number : Nat} {hash : String} :
    norn_block_hash calls call number = .ok hash ↔ HasHash chain number hash := by
  unfold norn_block_hash
  rw [bind_eq_ok]
  constructor
  · rintro ⟨checkpoint, hblock, heq⟩
    rw [← Except.ok.inj heq]
    exact ((agreed_block_iff hanswers).mp hblock).1
  · intro hhash
    exact ⟨⟨number, hash, .nornDualNodeConfirmations⟩,
      (agreed_block_iff hanswers).mpr ⟨hhash, rfl, rfl⟩, rfl⟩

theorem agreed_value_iff {found : String} :
    agreed_registry_value pins calls = .ok found ↔ found = value ∧ value ≠ "" := by
  obtain ⟨node, hnode⟩ := List.exists_mem_of_ne_nil _ (nodes_nonempty calls)
  constructor
  · intro h
    exact (registry_value_iff (hanswers node hnode)).mp ((agreed_iff.mp h).2 node hnode)
  · intro h
    exact agreed_iff.mpr ⟨nodes_nonempty calls,
      fun other hother => (registry_value_iff (hanswers other hother)).mpr h⟩

theorem inclusion_iff_recent (hsound : ∀ number, ∃ hash, HasHash chain number hash)
    {expected : String} {height : Nat} :
    (scanner pins calls).verify_finalized_inclusion expected height = .ok () ↔
      ∃ command, recent pins chain height = some command ∧ command.operation = "set" ∧
        command.value = expected := by
  refine scan_eq_ok_iff ?_
  intro number _ client hclient
  obtain ⟨node, hnode, rfl⟩ := List.mem_map.mp hclient
  obtain ⟨_, header, text, hheader, hheight, htext, hnormalized⟩ := hsound number
  unfold NornRpcClient.full_block
  rw [(hanswers node hnode).full number, ok_bind, hheader]
  simp only [okOr, ok_bind, hheight, bne_self_eq_false, htext, hnormalized, rejectIf]
  rfl

/-- **Nodes that answer from one chain are read exactly if** the chain is the pinned one and has a
checkpoint, its latest command sets the value, and the value is an admitted snapshot. -/
theorem norn_read_iff (hsound : ∀ number, ∃ hash, HasHash chain number hash) {heads : List Nat}
    (hheads : calls.nodes.mapM NornNode.head = .ok heads) {from_str : String → Except String Json}
    {issuer_keys : IssuerKeyRegistry} {now : Int} {snapshot : ChainSnapshot} :
    norn_read_snapshot P pins calls from_str issuer_keys now = .ok snapshot ↔
      ∃ signed, Readable P pins from_str issuer_keys now chain heads value signed snapshot := by
  unfold norn_read_snapshot norn_finalized_checkpoint validate_norn_snapshot
  rw [hheads]
  simp only [ok_bind, bind_eq_ok, exists_unit, rejectIf_eq_ok, bne_eq_false_iff_eq,
    decide_eq_false_iff_not, not_lt, Except.ok.injEq, agreed_block_iff hanswers,
    agreed_value_iff hanswers, inclusion_iff_recent hanswers hsound, norn_block_hash_iff hanswers,
    validate_snapshot_shape_iff]
  constructor
  · rintro ⟨genesis, ⟨hgenesis, _, _⟩, hpinned, checkpoint, ⟨number, hnumber, hblock, hsame, hfinality⟩,
      _, ⟨rfl, hnonempty⟩, hfits, hpublished, parsed, hparsed, signed, hsigned, records,
      ⟨hadmitted, signed_checkpoint, ⟨hsigned_hash, _, _⟩, hcanonical, hrecords⟩, _, _, _, root, hroot,
      rfl⟩
    rw [hpinned] at hgenesis
    rw [hcanonical] at hsigned_hash
    rw [← hsame] at hnumber hblock
    exact ⟨signed, hgenesis, hnumber, hblock, hfinality, ⟨hnonempty, hfits⟩, hpublished,
      ⟨parsed, hparsed, hsigned⟩, hadmitted, hsigned_hash, hrecords, hroot, rfl⟩
  · rintro ⟨signed, h⟩
    obtain ⟨parsed, hparsed, hsigned⟩ := h.parsed
    refine ⟨⟨0, _, .nornDualNodeConfirmations⟩, ⟨h.genesis, rfl, rfl⟩, rfl, snapshot.checkpoint,
      ⟨_, h.confirmed, h.checkpoint, rfl, h.finality_type⟩, value, ⟨rfl, h.fits.1⟩, h.fits.2,
      h.published, parsed, hparsed, signed, hsigned, snapshot.records,
      ⟨h.admitted, ⟨signed.checkpoint_height, _, .nornDualNodeConfirmations⟩, ⟨h.canonical, rfl, rfl⟩, rfl,
        h.records⟩, _, h.checkpoint, rfl, snapshot.state_root, h.state_root, ?_⟩
    rw [← h.generation]

end Answering

/-! ## §5. The next cycle. -/

/-- The signed snapshot lists the whole set. -/
structure Publishes (P : Platform) (signed : NornRegistrySnapshotV1)
    (identities : List DnsServerIdentityV2) : Prop where
  nonempty : identities ≠ []
  server_ids : (identities.map DnsServerIdentityV2.server_id).Nodup
  listed : ∀ identity ∈ identities, ∃ entry ∈ signed.entries, Lists P entry identity

section Next

variable {P : Platform} {pins : NornPins} {from_str : String → Except String Json}

/-- Every cycle over Norn nodes follows the adapter's target. -/
theorem follows_norn {origin : String → Option (String × Nat)} {config : NornAdapterConfig}
    (hnew : NornPins.new P origin config = .ok pins) {family : ChainSnapshot → Prop}
    {cycle : NornCycle} (hmember : ∀ snapshot, norn_read_snapshot P pins cycle.calls from_str
      cycle.issuer_keys cycle.now = .ok snapshot → family snapshot) :
    Follows pins.target family (cycle.cycle P pins from_str) := by
  refine ⟨rfl, hmember, ?_⟩
  intro snapshot hread
  have hread : norn_read_snapshot P pins cycle.calls from_str cycle.issuer_keys cycle.now =
    .ok snapshot := hread
  have hfinality : snapshot.checkpoint.finality_type = .nornDualNodeConfirmations := by
    unfold norn_read_snapshot norn_finalized_checkpoint at hread
    simp only [bind_eq_ok, exists_unit, rejectIf_eq_ok, Except.ok.injEq] at hread
    obtain ⟨_, _, _, checkpoint, ⟨_, _, _, _, hblock⟩, _, _, _, _, _, _, _, _, _, _, _, _, _, _, _,
      rfl⟩ := hread
    obtain ⟨node, hnode⟩ := List.exists_mem_of_ne_nil _ (nodes_nonempty cycle.calls)
    have hblock := (agreed_iff.mp hblock).2 node hnode
    unfold NornNode.block at hblock
    simp only [bind_eq_ok, exists_unit, rejectIf_eq_ok, Except.ok.injEq] at hblock
    obtain ⟨_, _, _, _, _, _, _, _, _, _, _, rfl⟩ := hblock
    rfl
  rw [hfinality]
  exact coherent_of_new hnew

/-- What the synchronizer takes of a readable snapshot. -/
theorem recorded_iff {issuer_keys : IssuerKeyRegistry} {now : Int} {chain : Nat → Block}
    {heads : List Nat} {value : String} {signed : NornRegistrySnapshotV1} {snapshot : ChainSnapshot}
    (h : Readable P pins from_str issuer_keys now chain heads value signed snapshot)
    {identity : DnsServerIdentityV2} :
    (∃ record, snapshot.records.lookup identity.server_id = some record ∧
      record.state_root = snapshot.state_root ∧ validate_registry_record P identity record = .ok ()) ↔
      ∃ entry ∈ signed.entries, Lists P entry identity := by
  obtain ⟨hlisted, hmade⟩ := written_of_admitted h.admitted h.records h.state_root
  constructor
  · rintro ⟨record, hlookup, _, hvalid⟩
    obtain ⟨entry, hentry, hid, hwritten⟩ := hmade _ record hlookup
    exact ⟨entry, hentry, (hwritten.valid_iff hid).mp hvalid⟩
  · rintro ⟨entry, hentry, hlists⟩
    obtain ⟨record, hlookup, hwritten⟩ := hlisted entry hentry
    rw [hlists.server_id] at hlookup
    exact ⟨record, hlookup, hwritten.state_root, (hwritten.valid_iff hlists.server_id).mpr hlists⟩

section Applied

variable {cycles : List NornCycle} {st : SyncState} {cycle : NornCycle} {chain : Nat → Block}
variable {value : String} {heads : List Nat} {signed : NornRegistrySnapshotV1}
variable {snapshot : ChainSnapshot}

/-- What this cycle or an earlier one has read. -/
def Read (P : Platform) (pins : NornPins) (from_str : String → Except String Json)
    (cycles : List NornCycle) (snapshot read : ChainSnapshot) : Prop :=
  read = snapshot ∨ ∃ earlier ∈ cycles, norn_read_snapshot P pins earlier.calls from_str
    earlier.issuer_keys earlier.now = .ok read

/-- The snapshot is of no earlier version than those read so far. -/
def Newest (P : Platform) (pins : NornPins) (from_str : String → Except String Json)
    (cycles : List NornCycle) (snapshot : ChainSnapshot) : Prop :=
  ∀ earlier ∈ cycles, ∀ read, norn_read_snapshot P pins earlier.calls from_str
    earlier.issuer_keys earlier.now = .ok read → read.generation ≤ snapshot.generation ∧
      (read.generation = snapshot.generation → read.state_root = snapshot.state_root)

theorem kept_of_norn_run {origin : String → Option (String × Nat)} {config : NornAdapterConfig}
    (hnew : NornPins.new P origin config = .ok pins)
    (hrun : (sync P).run (cycles.map (NornCycle.cycle P pins from_str)) = some st) :
    Kept P pins.target (Read P pins from_str cycles snapshot) st := by
  refine kept_of_run ?_ kept_init hrun
  intro made hmade
  obtain ⟨earlier, hearlier, rfl⟩ := List.mem_map.mp hmade
  exact follows_norn hnew (fun read hread => Or.inr ⟨earlier, hearlier, hread⟩)

theorem ahead_of_newest
    (hahead : ∀ height, last_height st = some height → height < snapshot.checkpoint.number)
    (hnewest : Newest P pins from_str cycles snapshot) :
    Ahead (Read P pins from_str cycles snapshot) st snapshot := by
  refine ⟨hahead, ?_⟩
  rintro read ⟨rfl | ⟨earlier, hearlier, hfound⟩, height, hheight, hle⟩
  · exact ⟨Nat.le_refl _, fun _ => rfl⟩
  · exact hnewest earlier hearlier read hfound

/-- A set that the published snapshot lists is applied. -/
theorem applied_of_published {origin : String → Option (String × Nat)} {config : NornAdapterConfig}
    (hnew : NornPins.new P origin config = .ok pins)
    (hrun : (sync P).run (cycles.map (NornCycle.cycle P pins from_str)) = some st)
    (hread : norn_read_snapshot P pins cycle.calls from_str cycle.issuer_keys cycle.now = .ok snapshot)
    (hreadable : Readable P pins from_str cycle.issuer_keys cycle.now chain heads value signed snapshot)
    (hahead : ∀ height, last_height st = some height → height < snapshot.checkpoint.number)
    (hnewest : Newest P pins from_str cycles snapshot)
    (hstorable : Storable P st.last (cycle.cycle P pins from_str) snapshot.checkpoint)
    (hversion : (signed.snapshot_version : Int) ≤ I64_MAX)
    (hpublishes : Publishes P signed cycle.identities) :
    ∃ count s', reconcile P (cycle.cycle P pins from_str) st.store = (.ok count, s') := by
  have hfollows : Follows pins.target (Read P pins from_str cycles snapshot)
      (cycle.cycle P pins from_str) := by
    refine follows_norn hnew ?_
    intro read hfound
    exact Or.inl (Except.ok.inj (hfound.symm.trans hread))
  rw [← hreadable.generation] at hversion
  refine reconciled_of_admissible (kept_of_norn_run hnew hrun) hfollows hread
    (ahead_of_newest hahead hnewest)
    ⟨hstorable, hpublishes.nonempty, hpublishes.server_ids, hversion, ?_, ?_⟩
  · intro identity hidentity endpoint hendpoint
    obtain ⟨entry, _, hlists⟩ := hpublishes.listed identity hidentity
    obtain ⟨key, hkey, _⟩ := hlists.bound endpoint hendpoint
    exact cache_key_of_registry_key hkey
  · intro identity hidentity
    exact (recorded_iff hreadable).mpr (hpublishes.listed identity hidentity)

theorem last_of_norn_applied
    (happlied : ∃ count s', reconcile P (cycle.cycle P pins from_str) st.store = (.ok count, s'))
    (hread : norn_read_snapshot P pins cycle.calls from_str cycle.issuer_keys cycle.now =
      .ok snapshot) :
    (st.take P (cycle.cycle P pins from_str)).last =
      some ⟨pins.target, cycle.issuer_keys, cycle.identities, cycle.now, snapshot⟩ := by
  obtain ⟨count, s', happlied⟩ := happlied
  rw [last_take happlied]
  unfold Cycle.applied
  rw [show (cycle.cycle P pins from_str).answers.read_snapshot = .ok snapshot from hread]
  rfl

end Applied

/-- **The next cycle over nodes that answer from one chain is applied exactly if** an admitted
snapshot is published there that lists the set and the store can take it, whatever nodes the
earlier cycles had. -/
theorem norn_cycle_iff {origin : String → Option (String × Nat)} {config : NornAdapterConfig}
    (hnew : NornPins.new P origin config = .ok pins) {cycles : List NornCycle} {st : SyncState}
    (hrun : (sync P).run (cycles.map (NornCycle.cycle P pins from_str)) = some st)
    {cycle : NornCycle} {chain : Nat → Block} {value : String}
    (hanswers : ∀ node ∈ cycle.calls.nodes, node.Answers pins chain value)
    (hsound : ∀ number, ∃ hash, HasHash chain number hash) {heads : List Nat}
    (hheads : cycle.calls.nodes.mapM NornNode.head = .ok heads)
    (hahead : ∀ number, confirmation_derived_height heads pins.confirmations = .ok number →
      ∀ height, last_height st = some height → height < number)
    (hnewest : ∀ signed snapshot, Readable P pins from_str cycle.issuer_keys cycle.now chain heads
      value signed snapshot → Newest P pins from_str cycles snapshot) :
    (∃ count s', reconcile P (cycle.cycle P pins from_str) st.store = (.ok count, s')) ↔
      ∃ signed snapshot, Readable P pins from_str cycle.issuer_keys cycle.now chain heads value signed
          snapshot ∧
        Storable P st.last (cycle.cycle P pins from_str) snapshot.checkpoint ∧
        (signed.snapshot_version : Int) ≤ I64_MAX ∧ Publishes P signed cycle.identities := by
  constructor
  · intro happlied
    obtain ⟨count, s', hreconcile⟩ := happlied
    obtain ⟨records, _, hprepare, _⟩ := reconcile_iff.mp hreconcile
    obtain ⟨_, snapshot, _, hread, _⟩ := prepare_records_iff.mp hprepare
    obtain ⟨signed, hreadable⟩ := (norn_read_iff hanswers hsound hheads).mp hread
    have hadmissible := admissible_of_reconciled (kept_of_norn_run hnew hrun) hread
      (ahead_of_newest (hahead _ hreadable.confirmed) (hnewest _ _ hreadable)) ⟨count, s', hreconcile⟩
    refine ⟨signed, snapshot, hreadable, hadmissible.storable, ?_, hadmissible.nonempty,
      hadmissible.server_ids, ?_⟩
    · rw [← hreadable.generation]
      exact hadmissible.generation
    · intro identity hidentity
      exact (recorded_iff hreadable).mp (hadmissible.recorded identity hidentity)
  · rintro ⟨signed, snapshot, hreadable, hstorable, hversion, hpublishes⟩
    have hread := (norn_read_iff hanswers hsound hheads).mpr ⟨signed, hreadable⟩
    exact applied_of_published hnew hrun hread hreadable (hahead _ hreadable.confirmed)
      (hnewest _ _ hreadable) hstorable hversion hpublishes

end Next

/-! ## §6. The lab's nodes. -/

open Agent

/-- A chain with one command, which stands in block 5. -/
def command_chain (value : String) (number : Nat) : Block where
  header := some ⟨some (if number = 0 then digest_of '1' else digest_of '3'), some number⟩
  transactions :=
    if number = 5 then [⟨none, some lab_norn_address,
      some (hex_text (data_command_bytes ⟨"set", "registry", value⟩))⟩]
    else []

theorem command_has_hash (value : String) (number : Nat) :
    HasHash (command_chain value) number (if number = 0 then digest_of '1' else digest_of '3') := by
  refine ⟨_, _, rfl, rfl, rfl, ?_⟩
  split
  · exact (lab_digest_hash (by decide)).normalize
  · exact (lab_digest_hash (by decide)).normalize

theorem command_published {value : String} (hvalue : (as_bytes value).length < 2 ^ 16) (number : Nat) :
    registry_command (command_chain value number).transactions lab_norn_pins.registry_address
      lab_norn_pins.registry_key =
        if number = 5 then some ⟨"set", "registry", value⟩ else none := by
  unfold command_chain
  by_cases hfive : number = 5
  · have hshort : (data_command_bytes ⟨"set", "registry", value⟩).length < 2 ^ 32 := by
      have hset : (as_bytes "set").length = 3 := by decide
      have hkey : (as_bytes "registry").length = 8 := by decide
      unfold data_command_bytes field_header u32_to_le_bytes
      simp only [List.length_append, List.length_cons, List.length_nil, List.length_replicate, hset, hkey]
      omega
    simp only [if_pos hfive]
    unfold registry_command
    rw [latest_singleton]
    unfold command_of
    simp only [Option.bind_eq_bind, Option.bind_some]
    rw [show lab_norn_pins.registry_address = lab_norn_address from rfl, lab_address_normalized,
      decode_data_command_bytes hshort]
    rfl
  · simp only [if_neg hfive]
    rfl

theorem lab_bytes_length : lab_bytes.length = 1170 := by
  decide +kernel

theorem lab_text_fits : lab_text ≠ "" ∧ (as_bytes lab_text).length < 2 ^ 16 := by
  have hchars : lab_text.toList.length = 1170 := by
    unfold lab_text
    rw [String.toList_ofList, List.length_map, lab_bytes_length]
  refine ⟨?_, ?_⟩
  · intro hempty
    rw [hempty] at hchars
    cases hchars
  · -- no character takes more than four bytes
    have hwidth : ∀ chars : List Char,
      (chars.flatMap String.utf8EncodeChar).length ≤ 4 * chars.length := by
      intro chars
      induction chars with
      | nil => exact Nat.le_refl 0
      | cons c rest ih =>
        have hone : (String.utf8EncodeChar c).length ≤ 4 := by
          rw [String.length_utf8EncodeChar]
          exact Char.utf8Size_le_four c
        rw [List.flatMap_cons, List.length_append, List.length_cons]
        omega
    have hall := hwidth lab_text.toList
    rw [← Json.as_bytes_eq, hchars] at hall
    omega

theorem lab_entry_lists : Lists lab_norn_platform lab_entry resolver_a.1 := by
  have hkey : lab_norn_platform.registry_key (lab_endpoint "192.0.2.1") =
      .ok "0x4356fe8ba3df2de8ae5381e548c4983637834aaef5b65b2162c72de1fca5bdb4" :=
    toOption_eq_some (by decide +kernel)
  have hobject : lab_norn_platform.object_hash resolver_a.1.to_value = lab_entry.object_hash := by
    decide +kernel
  have hwritten : ∀ written ∈ lab_entry.endpoint_keys, normalize_hash written 32 = .ok
      "0x4356fe8ba3df2de8ae5381e548c4983637834aaef5b65b2162c72de1fca5bdb4" := by
    intro written hwritten
    rw [(lab_entry_digests.endpoint_keys written hwritten).normalize, List.mem_singleton.mp hwritten]
  refine ⟨rfl, ?_, rfl, rfl, rfl, ?_, ?_⟩
  · rw [hobject]
    exact lab_entry_digests.object_hash.normalize
  · intro endpoint hendpoint
    rw [List.mem_singleton.mp hendpoint]
    exact ⟨_, hkey, _, List.mem_cons_self, hwritten _ List.mem_cons_self⟩
  · intro written hmem key hnormalized
    obtain rfl := Except.ok.inj ((hwritten written hmem).symm.trans hnormalized)
    exact ⟨_, List.mem_cons_self, hkey⟩

/-- A node of that chain at some head. -/
def lab_norn_node (head : Nat) : NornNode where
  block_number := .ok (some head)
  block_response := fun _ number => .ok (command_chain lab_text number)
  read_contract := fun _ _ => .ok (some lab_text)
  full := ⟨fun number => .ok (command_chain lab_text number)⟩

/-- A node that makes up a chain and a value for the Registry. -/
def forging_node : NornNode where
  block_number := .ok (some 20)
  block_response := fun _ number => .ok ⟨some ⟨some (digest_of '5'), some number⟩, []⟩
  read_contract := fun _ _ => .ok (some "forged")
  full := ⟨fun number => .ok (command_chain "forged" number)⟩

/-- Two honest nodes at one head. -/
def lab_norn_nodes (head : Nat) : NornNodes :=
  ⟨[lab_norn_node head, lab_norn_node head], Nat.le_refl 2⟩

/-- An honest node and one that answers as it likes. -/
def forged_nodes : NornNodes := ⟨[lab_norn_node 14, forging_node], by decide⟩

theorem lab_node_answers (head : Nat) :
    (lab_norn_node head).Answers lab_norn_pins (command_chain lab_text) lab_text :=
  ⟨fun _ _ => ⟨_, rfl, rfl⟩, fun _ => rfl, rfl⟩

theorem lab_norn_answers (head : Nat) : ∀ node ∈ (lab_norn_nodes head).nodes,
    node.Answers lab_norn_pins (command_chain lab_text) lab_text := by
  intro node hnode
  have hnode : node = lab_norn_node head := by
    rcases List.mem_cons.mp hnode with hfirst | hsecond
    · exact hfirst
    · exact List.mem_singleton.mp hsecond
  rw [hnode]
  exact lab_node_answers head

/-- What was recorded before is found again. -/
theorem lab_verify_kept {value : Json} {key : String}
    (h : registry_recording.platform.verify_ed25519 value key = .ok ()) :
    lab_norn_platform.verify_ed25519 value key = .ok () := by
  unfold Platform.verify_ed25519 at h ⊢
  simp only [bind_eq_ok, exists_unit, rejectIf_eq_ok, Bool.not_eq_false'] at h ⊢
  obtain ⟨text, htext, encoded, hencoded, raw, hraw, hwidth, public_raw, hpublic, hpublic_width, hvalid,
    hverify⟩ := h
  refine ⟨text, htext, encoded, hencoded, raw, hraw, hwidth, public_raw, hpublic, hpublic_width, hvalid, ?_⟩
  have hfound : registry_recording.signed public_raw _ = some raw := of_decide_eq_true hverify
  refine decide_eq_true (p := _ = some raw) ?_
  unfold Recording.signed at hfound ⊢
  obtain ⟨entry, hentry, rfl⟩ := Option.map_eq_some_iff.mp hfound
  refine Option.map_eq_some_iff.mpr ⟨entry, ?_, rfl⟩
  show List.find? _ (registry_recording.signatures ++ _) = _
  rw [List.find?_append]
  exact Option.or_eq_some_iff.mpr (Or.inl hentry)

/-- One cycle over two nodes of the chain. -/
def lab_norn_cycle (head : Nat) : NornCycle where
  calls := lab_norn_nodes head
  issuer_keys := lab_issuer_keys
  identities := [resolver_a.1]
  now := 1750000000
  stored_height := 10

/-- One cycle in which only one node is of the chain. -/
def forged_cycle : NornCycle := { lab_norn_cycle 14 with calls := forged_nodes }

/-- The checkpoint four blocks below a head. -/
def lab_norn_checkpoint (head : Nat) : FinalizedCheckpoint :=
  ⟨head - 4, digest_of '3', .nornDualNodeConfirmations⟩

theorem lab_norn_confirmed {head : Nat} (hhead : head = 14 ∨ head = 15) :
    confirmation_derived_height [head, head] lab_norn_pins.confirmations = .ok (head - 4) := by
  rcases hhead with rfl | rfl <;> rfl

theorem lab_norn_readable {head : Nat} (hhead : head = 14 ∨ head = 15) :
    ∃ snapshot, snapshot.checkpoint = lab_norn_checkpoint head ∧
      Readable lab_norn_platform lab_norn_pins lab_from_str lab_issuer_keys 1750000000
        (command_chain lab_text) [head, head] lab_text lab_signed snapshot := by
  obtain ⟨records, hrecords⟩ := lab_records_taken
  have hshort : (as_bytes lab_text).length < 2 ^ 16 := lab_text_fits.2
  have hfits : (as_bytes lab_text).length ≤ 4194304 := by omega
  -- the only command is that of block 5
  have hrecent : recent lab_norn_pins (command_chain lab_text) (head - 4) =
      some ⟨"set", "registry", lab_text⟩ := by
    unfold recent scanned
    simp only [command_published hshort]
    generalize lab_text = value
    rcases hhead with rfl | rfl <;> rfl
  have hhash : HasHash (command_chain lab_text) (head - 4) (digest_of '3') := by
    rcases hhead with rfl | rfl
    · exact command_has_hash lab_text 10
    · exact command_has_hash lab_text 11
  have hpast : 4 ≤ head - 4 := by omega
  have hparsed : lab_from_str lab_text = .ok (norn_snapshot_value lab_signed) := if_pos rfl
  refine ⟨⟨lab_norn_checkpoint head, lab_signed.state_root, lab_signed.snapshot_version, records⟩, rfl,
    command_has_hash lab_text 0, lab_norn_confirmed hhead, hhash, rfl, ⟨lab_text_fits.1, hfits⟩,
    ⟨_, hrecent, rfl, rfl⟩, ⟨_, hparsed, lab_value_read⟩, lab_admitted hpast,
    command_has_hash lab_text 4, hrecords, lab_root_digest.normalize, rfl⟩

theorem lab_norn_genuine : Genuine lab_norn_platform lab_issuer_keys 1750000000 resolver_a.1 := by
  obtain ⟨⟨issuer_key, hfound, hsigned⟩, hactive⟩ := resolver_a_genuine
  exact ⟨⟨issuer_key, hfound, lab_verify_kept hsigned⟩, hactive⟩

theorem lab_norn_sound : ∀ number, ∃ hash, HasHash (command_chain lab_text) number hash :=
  fun number => ⟨_, command_has_hash lab_text number⟩

theorem lab_norn_heads (head : Nat) :
    (lab_norn_cycle head).calls.nodes.mapM NornNode.head = .ok [head, head] := rfl

/-- A store that has the set, or is empty, can take it. -/
theorem lab_norn_storable {head : Nat} (hhead : head = 14 ∨ head = 15) {last : Option Applied}
    (hlast : ∀ applied, last = some applied → applied.identities = [resolver_a.1] ∧
      applied.snapshot.checkpoint.hash = digest_of '3') {snapshot : ChainSnapshot}
    (hsnapshot : snapshot.checkpoint = lab_norn_checkpoint head)
    (hreadable : Readable lab_norn_platform lab_norn_pins lab_from_str lab_issuer_keys 1750000000
      (command_chain lab_text) [head, head] lab_text lab_signed snapshot) :
    Storable lab_norn_platform last
      ((lab_norn_cycle head).cycle lab_norn_platform lab_norn_pins lab_from_str)
      snapshot.checkpoint := by
  have hnow : (0 : Int) < 1750000000 := by decide
  have hread : norn_read_snapshot lab_norn_platform lab_norn_pins (lab_norn_nodes head) lab_from_str
      lab_issuer_keys 1750000000 = .ok snapshot :=
    (norn_read_iff (lab_norn_answers head) lab_norn_sound (lab_norn_heads head)).mpr ⟨_, hreadable⟩
  have hkey : ∃ key, lab_norn_platform.cache_key (lab_endpoint "192.0.2.1") = .ok key := ⟨_, rfl⟩
  obtain ⟨key, hkey⟩ := hkey
  refine .single rfl ?_ hnow lab_norn_genuine ?_ rfl hkey (by decide) ?_ ?_
  · intro applied happlied
    obtain ⟨hidentities, hhash⟩ := hlast applied happlied
    rw [hhash]
    exact ⟨hidentities,
      (norn_block_hash_iff (lab_norn_answers head)).mpr (command_has_hash lab_text 10)⟩
  · show (norn_read_snapshot lab_norn_platform lab_norn_pins (lab_norn_nodes head) lab_from_str
      lab_issuer_keys 1750000000 >>= fun snapshot =>
        norn_block_hash (lab_norn_nodes head) .settled snapshot.checkpoint.number) = _
    rw [hread, ok_bind]
    exact (norn_block_hash_iff (lab_norn_answers head)).mpr hreadable.checkpoint
  · rw [hsnapshot]
    rcases hhead with rfl | rfl <;> decide
  · intro chain_id _ _ heq
    cases heq

theorem lab_norn_publishes : Publishes lab_norn_platform lab_signed [resolver_a.1] := by
  refine ⟨List.cons_ne_nil _ _, List.nodup_singleton _, ?_⟩
  intro identity hidentity
  rw [List.mem_singleton.mp hidentity]
  exact ⟨lab_entry, List.mem_cons_self, lab_entry_lists⟩

/-- The store after some cycles. -/
def lab_norn_state (cycles : List NornCycle) : SyncState :=
  (cycles.map (NornCycle.cycle lab_norn_platform lab_norn_pins lab_from_str)).foldl
    (SyncState.take lab_norn_platform) ⟨.open_, none⟩

theorem lab_norn_run (cycles : List NornCycle) :
    (sync lab_norn_platform).run
      (cycles.map (NornCycle.cycle lab_norn_platform lab_norn_pins lab_from_str)) =
        some (lab_norn_state cycles) :=
  (sync lab_norn_platform).run_of_total (fun _ _ => rfl) _

theorem lab_norn_next (cycles : List NornCycle) (cycle : NornCycle) :
    lab_norn_state (cycles ++ [cycle]) = (lab_norn_state cycles).take lab_norn_platform
      (cycle.cycle lab_norn_platform lab_norn_pins lab_from_str) := by
  unfold lab_norn_state
  rw [List.map_append, List.foldl_append, List.map_singleton, List.foldl_cons, List.foldl_nil]

/-- The two nodes are not agreed. -/
theorem forged_unread (snapshot : ChainSnapshot) :
    norn_read_snapshot lab_norn_platform lab_norn_pins forged_nodes lab_from_str lab_issuer_keys
      1750000000 ≠ .ok snapshot := by
  intro hread
  unfold norn_read_snapshot at hread
  simp only [bind_eq_ok] at hread
  obtain ⟨_, _, _, _, _, _, value, hvalue, _⟩ := hread
  have hagreed := (agreed_iff.mp hvalue).2
  have hown : value = lab_text :=
    ((registry_value_iff (lab_node_answers 14)).mp (hagreed _ List.mem_cons_self)).1
  have hforged : "forged" = value :=
    Except.ok.inj (hagreed forging_node (List.mem_cons_of_mem _ List.mem_cons_self))
  have hlength : lab_text.toList.length = 1170 := by
    unfold lab_text
    rw [String.toList_ofList, List.length_map, lab_bytes_length]
  rw [← hown, ← hforged] at hlength
  cases hlength

theorem lab_norn_read {head : Nat} {signed : NornRegistrySnapshotV1} {snapshot : ChainSnapshot}
    (h : Readable lab_norn_platform lab_norn_pins lab_from_str lab_issuer_keys 1750000000
      (command_chain lab_text) [head, head] lab_text signed snapshot) :
    snapshot.generation = 1 ∧ snapshot.state_root = lab_signed.state_root := by
  obtain ⟨parsed, hparsed, hsigned⟩ := h.parsed
  obtain rfl := Except.ok.inj ((if_pos rfl).symm.trans hparsed)
  obtain rfl := Except.ok.inj (lab_value_read.symm.trans hsigned)
  exact ⟨h.generation, (Except.ok.inj (lab_root_digest.normalize.symm.trans h.state_root)).symm⟩

/-- All that is read has one version and one root. -/
theorem lab_norn_newest {cycles : List NornCycle}
    (hcycles : ∀ cycle ∈ cycles, cycle = lab_norn_cycle 14 ∨ cycle = forged_cycle) {head : Nat}
    {signed : NornRegistrySnapshotV1} {snapshot : ChainSnapshot}
    (h : Readable lab_norn_platform lab_norn_pins lab_from_str lab_issuer_keys 1750000000
      (command_chain lab_text) [head, head] lab_text signed snapshot) :
    Newest lab_norn_platform lab_norn_pins lab_from_str cycles snapshot := by
  intro earlier hearlier read hread
  obtain ⟨hversion, hroot⟩ := lab_norn_read h
  rcases hcycles earlier hearlier with rfl | rfl
  · obtain ⟨signed', hreadable⟩ :=
      (norn_read_iff (lab_norn_answers 14) lab_norn_sound (lab_norn_heads 14)).mp hread
    obtain ⟨hversion', hroot'⟩ := lab_norn_read hreadable
    exact ⟨by rw [hversion, hversion'], fun _ => hroot'.trans hroot.symm⟩
  · exact absurd hread (forged_unread read)

/-- The first cycle is applied, and the forged one changes nothing. -/
theorem lab_norn_last : ∃ snapshot, snapshot.checkpoint = lab_norn_checkpoint 14 ∧
    (lab_norn_state [lab_norn_cycle 14]).last =
      some ⟨lab_norn_pins.target, lab_issuer_keys, [resolver_a.1], 1750000000, snapshot⟩ ∧
    lab_norn_state [lab_norn_cycle 14, forged_cycle] = lab_norn_state [lab_norn_cycle 14] ∧
    ∃ record, snapshot.records.lookup resolver_a.1.server_id = some record := by
  obtain ⟨snapshot, hcheckpoint, hreadable⟩ := lab_norn_readable (Or.inl rfl)
  have hread : norn_read_snapshot lab_norn_platform lab_norn_pins (lab_norn_cycle 14).calls lab_from_str
      (lab_norn_cycle 14).issuer_keys (lab_norn_cycle 14).now = .ok snapshot :=
    (norn_read_iff (lab_norn_answers 14) lab_norn_sound (lab_norn_heads 14)).mpr ⟨_, hreadable⟩
  obtain ⟨record, hrecord, _⟩ := (recorded_iff hreadable).mpr
    (lab_norn_publishes.listed _ List.mem_cons_self)
  have happlied := applied_of_published lab_norn_new (lab_norn_run []) hread hreadable
    (fun height hheight => by cases hheight) (lab_norn_newest (fun _ hnone => by cases hnone) hreadable)
    (lab_norn_storable (Or.inl rfl) (fun applied hnone => by cases hnone) hcheckpoint hreadable)
    (by decide) lab_norn_publishes
  have hlast := last_of_norn_applied happlied hread
  rw [← lab_norn_next] at hlast
  refine ⟨snapshot, hcheckpoint, hlast, ?_, record, hrecord⟩
  have hnext := lab_norn_next [lab_norn_cycle 14] forged_cycle
  rcases take_iff (P := lab_norn_platform)
      (forged_cycle.cycle lab_norn_platform lab_norn_pins lab_from_str)
      (lab_norn_state [lab_norn_cycle 14]) with ⟨_, found, _, _, _, hfound, _⟩ | hkept
  · exact absurd hfound (forged_unread found)
  · exact hnext.trans hkept

theorem lab_norn_height : last_height (lab_norn_state [lab_norn_cycle 14, forged_cycle]) = some 10 := by
  obtain ⟨snapshot, hcheckpoint, hlast, hkept, _⟩ := lab_norn_last
  unfold last_height
  rw [hkept, hlast]
  exact congrArg (fun checkpoint : FinalizedCheckpoint => some checkpoint.number) hcheckpoint

/-- The lab's snapshot is applied at block 10, and again at block 11 after a cycle with a forging
node. -/
theorem lab_norn_applied :
    last_height (lab_norn_state [lab_norn_cycle 14, forged_cycle]) = some 10 ∧
      ∃ count s', reconcile lab_norn_platform
        ((lab_norn_cycle 15).cycle lab_norn_platform lab_norn_pins lab_from_str)
          (lab_norn_state [lab_norn_cycle 14, forged_cycle]).store = (.ok count, s') := by
  refine ⟨lab_norn_height, ?_⟩
  obtain ⟨stored, hstored, hlast, hkept, _⟩ := lab_norn_last
  obtain ⟨snapshot, hcheckpoint, hreadable⟩ := @lab_norn_readable 15 (Or.inr rfl)
  have hlast' : ∀ applied, (lab_norn_state [lab_norn_cycle 14, forged_cycle]).last = some applied →
      applied.identities = [resolver_a.1] ∧ applied.snapshot.checkpoint = lab_norn_checkpoint 14 := by
    intro applied happlied
    rw [hkept, hlast] at happlied
    rw [← Option.some.inj happlied]
    exact ⟨rfl, hstored⟩
  refine (norn_cycle_iff lab_norn_new (lab_norn_run [lab_norn_cycle 14, forged_cycle])
    (lab_norn_answers 15) lab_norn_sound (lab_norn_heads 15) ?_ ?_).mpr
      ⟨_, snapshot, hreadable, lab_norn_storable (Or.inr rfl) ?_ hcheckpoint hreadable, by decide,
        lab_norn_publishes⟩
  · intro number hnumber height hheight
    obtain rfl := Except.ok.inj ((lab_norn_confirmed (Or.inr rfl)).symm.trans hnumber)
    obtain rfl := Option.some.inj (lab_norn_height.symm.trans hheight)
    decide
  · intro signed found hfound
    refine lab_norn_newest ?_ hfound
    intro cycle hcycle
    rcases List.mem_cons.mp hcycle with hfirst | hsecond
    · exact Or.inl hfirst
    · exact Or.inr (List.mem_singleton.mp hsecond)
  · intro applied happlied
    obtain ⟨hidentities, hchecked⟩ := hlast' applied happlied
    rw [hchecked]
    exact ⟨hidentities, rfl⟩

/-- In each cycle of the lab one node is of the chain. -/
theorem lab_norn_honest {cycle : NornCycle}
    (hcycle : cycle ∈ [lab_norn_cycle 14, forged_cycle, lab_norn_cycle 15]) :
    ∃ node ∈ cycle.calls.nodes, node.Honest (command_chain lab_text) := by
  simp only [List.mem_cons, List.not_mem_nil, or_false] at hcycle
  rcases hcycle with rfl | rfl | rfl
  · exact ⟨_, List.mem_cons_self, (lab_node_answers 14).honest⟩
  · exact ⟨_, List.mem_cons_self, (lab_node_answers 14).honest⟩
  · exact ⟨_, List.mem_cons_self, (lab_node_answers 15).honest⟩

/-- `resolver-a` is given out at block 10, and the snapshot of block 5 lists it, whatever the
forging node has said in between. -/
theorem lab_norn_served : ∃ registry, lookup_identity lab_norn_platform
      (lab_norn_state [lab_norn_cycle 14, forged_cycle]).store (lab_endpoint "192.0.2.1") =
        .ok (some (resolver_a.1, registry)) ∧
    ∃ height, last_height (lab_norn_state [lab_norn_cycle 14, forged_cycle]) = some height ∧
      (∃ cycle ∈ [lab_norn_cycle 14, forged_cycle], ListedAt lab_norn_platform lab_norn_pins
        lab_from_str cycle (command_chain lab_text) height resolver_a.1) ∧
      registry.checkpoint_height = height ∧
      HasHash (command_chain lab_text) height registry.checkpoint_hash ∧
      ∃ bound ∈ resolver_a.1.endpoints, lab_norn_platform.cache_key bound =
        lab_norn_platform.cache_key (lab_endpoint "192.0.2.1") := by
  obtain ⟨snapshot, _, hlast, hstate, record, hrecord⟩ := lab_norn_last
  rw [← hstate] at hlast
  have hkept : Kept lab_norn_platform lab_norn_pins.target
      (Read lab_norn_platform lab_norn_pins lab_from_str [lab_norn_cycle 14, forged_cycle] snapshot)
      (lab_norn_state [lab_norn_cycle 14, forged_cycle]) := kept_of_norn_run lab_norn_new (lab_norn_run _)
  obtain ⟨key, hkey⟩ : ∃ key, lab_norn_platform.cache_key (lab_endpoint "192.0.2.1") = .ok key :=
    ⟨_, rfl⟩
  have hheld : key ∈ EvidenceStore.endpoint_keys lab_norn_platform resolver_a.1.endpoints :=
    EvidenceStore.mem_endpoint_keys.mpr ⟨_, List.mem_cons_self, hkey⟩
  have hlookup := (lookup_identity_iff hkept hlast).mpr
    ⟨List.mem_cons_self, ⟨key, hkey, hheld⟩, record, hrecord, rfl⟩
  have hhonest : ∀ cycle ∈ [lab_norn_cycle 14, forged_cycle],
      ∃ node ∈ cycle.calls.nodes, node.Honest (command_chain lab_text) :=
    fun cycle hcycle => lab_norn_honest (List.mem_append_left [lab_norn_cycle 15] hcycle)
  exact ⟨_, hlookup, norn_served lab_norn_new (lab_norn_run _) hhonest hlookup⟩

end ResolverIdentity.Chain
