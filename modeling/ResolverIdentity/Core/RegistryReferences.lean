/-
  ResolverIdentity.Core.RegistryReferences: reading a Registry reference.

  `Deserialize` of `RegistryReferenceV2`, from the JSON value it is given: the derived
  reader of `RegistryReferenceWire` with its aliases and defaults, the internally tagged
  metadata, and the finality types.  Unlike the identities, both refuse a member they do
  not know, and every reader refuses a field that is there twice.  Which of several errors
  is reported first is not modelled.

  Main results:
    * `RegistryReferenceWire.from_value_eq_ok`: the members of what is read;
    * `RegistryReferenceV2.from_value_to_value`: what was read is written so that it is
      read again;
    * `RegistryReferenceV2.from_value_typed`: a legacy object and its typed form;
    * `RegistryReferenceV2.mixed_rejected`: fields of two adapters are refused.
-/
import ResolverIdentity.Core.Deserialize

namespace ResolverIdentity

open Library Json

namespace Json

/-! ## §1. Members with several names. -/

/-- The members under a field's name or one of its aliases. -/
def members_named (names : List String) (fields : List (String × Json)) : List Json :=
  (fields.filter (fun field => field.1 ∈ names)).map Prod.snd

/-- A field is read from its only member. -/
def read_member {α : Type} (names : List String) (read : Option Json → Except String α)
    (fields : List (String × Json)) : Except String α :=
  match members_named names fields with
  | [] => read none
  | [value] => read (some value)
  | _ :: _ :: _ => .error ("duplicate field `" ++ names.headD "" ++ "`")

/-- `#[serde(deny_unknown_fields)]`. -/
def deny_unknown_fields (names : List String) (fields : List (String × Json)) :
    Except String Unit :=
  match fields.find? (fun field => field.1 ∉ names) with
  | none => .ok ()
  | some field => .error ("unknown field `" ++ field.1 ++ "`")

end Json

/-! ## §2. The readers. -/

/-- `#[serde(rename_all = "kebab-case")]`; a unit variant may also be the key of a null. -/
def RegistryFinalityTypeV2.from_value : Json → Except String RegistryFinalityTypeV2
  | .string name | .object [(name, .null)] => okOr
      ([RegistryFinalityTypeV2.evmFinalized, .evmConfirmations, .evmFinalizedOrConfirmations,
        .nornDualNodeConfirmations, .externalSignedCheckpoint].find?
          (fun finality_type => finality_type_name finality_type = name))
      ("unknown variant `" ++ name ++ "`")
  | _ => .error "invalid type: expected a variant"

namespace RegistryAdapterMetadataV2

/-- The fields of a variant, in the order they are declared in. -/
def variant_fields (adapter_type : String) : List String :=
  if adapter_type = "evm" then ["chain_id", "contract_address", "runtime_code_hash"]
  else if adapter_type = "norn" then ["genesis_block_hash", "registry_address", "registry_key",
    "snapshot_signer_issuer", "snapshot_signer_key_id"]
  else ["driver", "snapshot_signer_issuer", "snapshot_signer_key_id"]

/-- A member that must be there and be a text. -/
def read_text (name : String) (fields : List (String × Json)) : Except String String :=
  read_member [name] (read_required name read_string) fields

/-- The variant a tag stands for; no other member may be there. -/
def read_variant (adapter_type : String) (fields : List (String × Json)) :
    Except String RegistryAdapterMetadataV2 :=
  if adapter_type = "evm" then do
    deny_unknown_fields (variant_fields adapter_type) fields
    let chain_id ← read_member ["chain_id"] (read_required "chain_id" ( read_unsigned 64)) fields
    let contract_address ← read_text "contract_address" fields
    let runtime_code_hash ← read_text "runtime_code_hash" fields
    .ok (.evm chain_id contract_address runtime_code_hash)
  else if adapter_type = "norn" then do
    deny_unknown_fields (variant_fields adapter_type) fields
    let genesis_block_hash ← read_text "genesis_block_hash" fields
    let registry_address ← read_text "registry_address" fields
    let registry_key ← read_text "registry_key" fields
    let snapshot_signer_issuer ← read_text "snapshot_signer_issuer" fields
    let snapshot_signer_key_id ← read_text "snapshot_signer_key_id" fields
    .ok (.norn genesis_block_hash registry_address registry_key snapshot_signer_issuer
      snapshot_signer_key_id)
  else if adapter_type = "external" then do
    deny_unknown_fields (variant_fields adapter_type) fields
    let driver ← read_text "driver" fields
    let snapshot_signer_issuer ← read_text "snapshot_signer_issuer" fields
    let snapshot_signer_key_id ← read_text "snapshot_signer_key_id" fields
    .ok (.external driver snapshot_signer_issuer snapshot_signer_key_id)
  else .error ("unknown variant `" ++ adapter_type ++ "`")

/-- Internally tagged, as an object or as a sequence that begins with the tag. -/
def from_value : Json → Except String RegistryAdapterMetadataV2
  | .object fields => do
    let adapter_type ← read_text "adapter_type" fields
    read_variant adapter_type (fields.filter (fun field => field.1 ≠ "adapter_type"))
  | .array (tag :: items) => do
    let adapter_type ← read_string tag
    if items.length = (variant_fields adapter_type).length then
      read_variant adapter_type ((variant_fields adapter_type).zip items)
    else .error "invalid length"
  | _ => .error "invalid type: expected internally tagged enum RegistryAdapterMetadataV2"

end RegistryAdapterMetadataV2

namespace RegistryReferenceWire

/-- The names each field is read under, its own before its alias. -/
def field_names : List (List String) := [["chain_adapter"], ["chain_identity"],
  ["registry_locator"], ["registry_schema_hash"], ["adapter_metadata"],
  ["evm_chain_id", "chain_id"], ["evm_contract_address", "contract_address"],
  ["evm_runtime_code_hash", "contract_code_hash"], ["checkpoint_height", "finalized_block"],
  ["checkpoint_hash", "finalized_block_hash"], ["finality_type"], ["state_root"],
  ["object_hash"], ["object_version"], ["resolver_status"], ["root_status"],
  ["endpoint_binding_status"], ["snapshot_generation"]]

/-- All members of a reference, old names included. -/
def read_fields (fields : List (String × Json)) : Except String RegistryReferenceWire := do
  deny_unknown_fields field_names.flatten fields
  let chain_adapter ← read_member ["chain_adapter"] (read_default "" read_string) fields
  let chain_identity ← read_member ["chain_identity"] (read_default "" read_string) fields
  let registry_locator ← read_member ["registry_locator"] (read_default "" read_string) fields
  let registry_schema_hash ← read_member ["registry_schema_hash"] (read_default "" read_string)
    fields
  let adapter_metadata ← read_member ["adapter_metadata"]
    (read_option RegistryAdapterMetadataV2.from_value) fields
  let evm_chain_id ← read_member ["evm_chain_id", "chain_id"] (read_option ( read_unsigned 64))
    fields
  let evm_contract_address ← read_member ["evm_contract_address", "contract_address"]
    (read_option read_string) fields
  let evm_runtime_code_hash ← read_member ["evm_runtime_code_hash", "contract_code_hash"]
    (read_option read_string) fields
  let checkpoint_height ← read_member ["checkpoint_height", "finalized_block"]
    (read_required "checkpoint_height" ( read_unsigned 64)) fields
  let checkpoint_hash ← read_member ["checkpoint_hash", "finalized_block_hash"]
    (read_required "checkpoint_hash" read_string) fields
  let finality_type ← read_member ["finality_type"]
    (read_option RegistryFinalityTypeV2.from_value) fields
  let state_root ← read_member ["state_root"] (read_required "state_root" read_string) fields
  let object_hash ← read_member ["object_hash"] (read_required "object_hash" read_string) fields
  let object_version ← read_member ["object_version"]
    (read_required "object_version" ( read_unsigned 64)) fields
  let resolver_status ← read_member ["resolver_status"]
    (read_required "resolver_status" read_string) fields
  let root_status ← read_member ["root_status"] (read_required "root_status" read_string) fields
  let endpoint_binding_status ← read_member ["endpoint_binding_status"]
    (read_required "endpoint_binding_status" read_string) fields
  let snapshot_generation ← read_member ["snapshot_generation"]
    (read_required "snapshot_generation" ( read_unsigned 64)) fields
  .ok { chain_adapter, chain_identity, registry_locator, registry_schema_hash, adapter_metadata,
        evm_chain_id, evm_contract_address, evm_runtime_code_hash, checkpoint_height,
        checkpoint_hash, finality_type, state_root, object_hash, object_version, resolver_status,
        root_status, endpoint_binding_status, snapshot_generation }

/-- From an object, or from a sequence of all fields in their order. -/
def from_value : Json → Except String RegistryReferenceWire
  | .object fields => read_fields fields
  | .array items =>
    if items.length = field_names.length then
      read_fields ((field_names.map (fun names => names.headD "")).zip items)
    else .error "invalid length"
  | _ => .error "invalid type: expected struct RegistryReferenceWire"

end RegistryReferenceWire

/-- `Deserialize`, from the JSON value. -/
def RegistryReferenceV2.from_value (value : Json) : Except String RegistryReferenceV2 := do
  let wire ← RegistryReferenceWire.from_value value
  RegistryReferenceV2.deserialize wire

/-! ## §3. What is read. -/

section Members

variable {α : Type} {names : List String} {fields : List (String × Json)}

theorem deny_unknown_fields_eq_ok {u : Unit} :
    deny_unknown_fields names fields = .ok u ↔ ∀ field ∈ fields, field.1 ∈ names := by
  unfold deny_unknown_fields
  cases hfind : fields.find? (fun field => field.1 ∉ names) with
  | none =>
    rw [List.find?_eq_none] at hfind
    refine iff_of_true rfl ?_
    intro field hfield
    simpa using hfind field hfield
  | some field =>
    refine iff_of_false (fun h => by cases h) ?_
    intro hall
    have hunknown := List.find?_some hfind
    rw [decide_eq_true_eq] at hunknown
    exact hunknown (hall field (List.mem_of_find?_eq_some hfind))

theorem mem_members_named {value : Json} :
    value ∈ members_named names fields ↔ ∃ name ∈ names, (name, value) ∈ fields := by
  unfold members_named
  simp only [List.mem_map, List.mem_filter, decide_eq_true_eq, Prod.exists]
  constructor
  · intro h
    obtain ⟨name, _, ⟨hmem, hname⟩, rfl⟩ := h
    exact ⟨name, hname, hmem⟩
  · intro h
    obtain ⟨name, hname, hmem⟩ := h
    exact ⟨name, value, ⟨hmem, hname⟩, rfl⟩

/-- A member that is there is the one that is read. -/
theorem read_of_mem {read : Option Json → Except String α} {a : α} {name : String} {value : Json}
    (h : read_member names read fields = .ok a) (hname : name ∈ names)
    (hmem : (name, value) ∈ fields) : read (some value) = .ok a := by
  have hvalue : value ∈ members_named names fields := mem_members_named.mpr ⟨name, hname, hmem⟩
  unfold read_member at h
  cases hmembers : members_named names fields with
  | nil =>
    rw [hmembers] at hvalue
    cases hvalue
  | cons first rest =>
    cases rest with
    | nil =>
      rw [hmembers] at h hvalue
      rw [List.mem_singleton.mp hvalue]
      exact h
    | cons second rest =>
      rw [hmembers] at h
      cases h

/-- An `Option` field that is there has a member that is not null. -/
theorem member_of_read_some {read : Json → Except String α} {a : α}
    (h : read_member names (read_option read) fields = .ok (some a)) :
    ∃ value, members_named names fields = [value] ∧ read value = .ok a := by
  have hsome : ∀ member, read_option read member = .ok (some a) →
      ∃ value, member = some value ∧ read value = .ok a := by
    intro member hmember
    rcases read_option_eq_ok.mp hmember with ⟨_, hnone⟩ | ⟨value, a', hvalue, _, hread, heq⟩
    · cases hnone
    · rw [← Option.some.inj heq] at hread
      exact ⟨value, hvalue, hread⟩
  unfold read_member at h
  cases hmembers : members_named names fields with
  | nil =>
    rw [hmembers] at h
    obtain ⟨_, hnone, _⟩ := hsome none h
    cases hnone
  | cons value rest =>
    cases rest with
    | nil =>
      rw [hmembers] at h
      obtain ⟨value', heq, hread⟩ := hsome (some value) h
      rw [Option.some.inj heq]
      exact ⟨value', rfl, hread⟩
    | cons second rest =>
      rw [hmembers] at h
      cases h

theorem read_member_congr {fields' : List (String × Json)} (read : Option Json → Except String α)
    (h : members_named names fields = members_named names fields') :
    read_member names read fields = read_member names read fields' := by
  unfold read_member
  rw [h]

end Members

namespace RegistryReferenceWire

/-- What a wire object was read from. -/
structure ReadFrom (fields : List (String × Json)) (wire : RegistryReferenceWire) : Prop where
  known : ∀ field ∈ fields, field.1 ∈ field_names.flatten
  chain_adapter : read_member ["chain_adapter"] (read_default "" read_string) fields =
    .ok wire.chain_adapter
  chain_identity : read_member ["chain_identity"] (read_default "" read_string) fields =
    .ok wire.chain_identity
  registry_locator : read_member ["registry_locator"] (read_default "" read_string) fields =
    .ok wire.registry_locator
  registry_schema_hash : read_member ["registry_schema_hash"] (read_default "" read_string)
    fields = .ok wire.registry_schema_hash
  adapter_metadata : read_member ["adapter_metadata"]
    (read_option RegistryAdapterMetadataV2.from_value) fields = .ok wire.adapter_metadata
  evm_chain_id : read_member ["evm_chain_id", "chain_id"] (read_option ( read_unsigned 64))
    fields = .ok wire.evm_chain_id
  evm_contract_address : read_member ["evm_contract_address", "contract_address"]
    (read_option read_string) fields = .ok wire.evm_contract_address
  evm_runtime_code_hash : read_member ["evm_runtime_code_hash", "contract_code_hash"]
    (read_option read_string) fields = .ok wire.evm_runtime_code_hash
  checkpoint_height : read_member ["checkpoint_height", "finalized_block"]
    (read_required "checkpoint_height" ( read_unsigned 64)) fields = .ok wire.checkpoint_height
  checkpoint_hash : read_member ["checkpoint_hash", "finalized_block_hash"]
    (read_required "checkpoint_hash" read_string) fields = .ok wire.checkpoint_hash
  finality_type : read_member ["finality_type"] (read_option RegistryFinalityTypeV2.from_value)
    fields = .ok wire.finality_type
  state_root : read_member ["state_root"] (read_required "state_root" read_string) fields =
    .ok wire.state_root
  object_hash : read_member ["object_hash"] (read_required "object_hash" read_string) fields =
    .ok wire.object_hash
  object_version : read_member ["object_version"]
    (read_required "object_version" ( read_unsigned 64)) fields = .ok wire.object_version
  resolver_status : read_member ["resolver_status"]
    (read_required "resolver_status" read_string) fields = .ok wire.resolver_status
  root_status : read_member ["root_status"] (read_required "root_status" read_string) fields =
    .ok wire.root_status
  endpoint_binding_status : read_member ["endpoint_binding_status"]
    (read_required "endpoint_binding_status" read_string) fields =
      .ok wire.endpoint_binding_status
  snapshot_generation : read_member ["snapshot_generation"]
    (read_required "snapshot_generation" ( read_unsigned 64)) fields =
      .ok wire.snapshot_generation

theorem read_fields_eq_ok {fields : List (String × Json)} {wire : RegistryReferenceWire} :
    read_fields fields = .ok wire ↔ ReadFrom fields wire := by
  unfold read_fields
  simp only [bind_eq_ok, exists_unit, deny_unknown_fields_eq_ok, Except.ok.injEq]
  constructor
  · intro h
    obtain ⟨h0, _, h1, _, h2, _, h3, _, h4, _, h5, _, h6, _, h7, _, h8, _, h9, _, h10, _, h11, _,
      h12, _, h13, _, h14, _, h15, _, h16, _, h17, _, h18, heq⟩ := h
    rw [← heq]
    exact ⟨h0, h1, h2, h3, h4, h5, h6, h7, h8, h9, h10, h11, h12, h13, h14, h15, h16, h17, h18⟩
  · intro h
    exact ⟨h.known, _, h.chain_adapter, _, h.chain_identity, _, h.registry_locator, _,
      h.registry_schema_hash, _, h.adapter_metadata, _, h.evm_chain_id, _, h.evm_contract_address,
      _, h.evm_runtime_code_hash, _, h.checkpoint_height, _, h.checkpoint_hash, _,
      h.finality_type, _, h.state_root, _, h.object_hash, _, h.object_version, _,
      h.resolver_status, _, h.root_status, _, h.endpoint_binding_status, _,
      h.snapshot_generation, rfl⟩

end RegistryReferenceWire

/-! ## §4. What was read is read again. -/

theorem read_unsigned_nat {bits n : Nat} (h : n < 2 ^ bits) :
    read_unsigned bits (Json.nat n) = .ok n :=
  read_unsigned_eq_ok.mpr ⟨rfl, h⟩

/-- A number that was read fits its type. -/
theorem lt_of_read_required {key : String} {bits n : Nat} {names : List String}
    {fields : List (String × Json)}
    (h : read_member names (read_required key ( read_unsigned bits)) fields = .ok n) :
    n < 2 ^ bits := by
  unfold read_member at h
  cases hmembers : members_named names fields with
  | nil =>
    rw [hmembers] at h
    cases h
  | cons value rest =>
    cases rest with
    | nil =>
      rw [hmembers] at h
      exact (read_unsigned_eq_ok.mp h).2
    | cons second rest =>
      rw [hmembers] at h
      cases h

namespace RegistryAdapterMetadataV2

/-- The number of the variant is a `u64`. -/
def InRange : RegistryAdapterMetadataV2 → Prop
  | .evm chain_id _ _ => chain_id < 2 ^ 64
  | .norn .. | .external .. => True

theorem inRange_of_variant {adapter_type : String} {fields : List (String × Json)}
    {m : RegistryAdapterMetadataV2} (h : read_variant adapter_type fields = .ok m) :
    m.InRange := by
  unfold read_variant at h
  by_cases hevm : adapter_type = "evm"
  · rw [if_pos hevm] at h
    simp only [bind_eq_ok] at h
    obtain ⟨_, _, chain_id, hchain_id, _, _, _, _, heq⟩ := h
    rw [← Except.ok.inj heq]
    exact lt_of_read_required hchain_id
  · rw [if_neg hevm] at h
    by_cases hnorn : adapter_type = "norn"
    · rw [if_pos hnorn] at h
      simp only [bind_eq_ok] at h
      obtain ⟨_, _, _, _, _, _, _, _, _, _, _, _, heq⟩ := h
      rw [← Except.ok.inj heq]
      exact trivial
    · rw [if_neg hnorn] at h
      by_cases hexternal : adapter_type = "external"
      · rw [if_pos hexternal] at h
        simp only [bind_eq_ok] at h
        obtain ⟨_, _, _, _, _, _, _, _, heq⟩ := h
        rw [← Except.ok.inj heq]
        exact trivial
      · rw [if_neg hexternal] at h
        cases h

theorem inRange_of_from_value {value : Json} {m : RegistryAdapterMetadataV2}
    (h : from_value value = .ok m) : m.InRange := by
  cases value with
  | object fields =>
    obtain ⟨_, _, hvariant⟩ := bind_eq_ok.mp h
    exact inRange_of_variant hvariant
  | array items =>
    cases items with
    | nil => cases h
    | cons tag items =>
      obtain ⟨adapter_type, _, h⟩ := bind_eq_ok.mp h
      by_cases hlength : items.length = (variant_fields adapter_type).length
      · rw [if_pos hlength] at h
        exact inRange_of_variant h
      · rw [if_neg hlength] at h
        cases h
  | _ => cases h

theorem from_value_to_value {m : RegistryAdapterMetadataV2} (h : m.InRange) :
    from_value m.to_value = .ok m := by
  cases m with
  | evm chain_id contract_address runtime_code_hash =>
    have hread := read_unsigned_nat h
    simp [to_value, from_value, read_variant, read_text, read_member, members_named, field,
      deny_unknown_fields, variant_fields, read_required, read_string, hread]
  | norn =>
    simp [to_value, from_value, read_variant, read_text, read_member, members_named, field,
      deny_unknown_fields, variant_fields, read_required, read_string]
  | external =>
    simp [to_value, from_value, read_variant, read_text, read_member, members_named, field,
      deny_unknown_fields, variant_fields, read_required, read_string]

/-- Metadata is written as an object. -/
theorem to_value_ne_null (m : RegistryAdapterMetadataV2) : m.to_value ≠ .null := by
  cases m <;> exact fun h => by cases h

end RegistryAdapterMetadataV2

theorem RegistryFinalityTypeV2.from_value_name (finality_type : RegistryFinalityTypeV2) :
    from_value (.string (finality_type_name finality_type)) = .ok finality_type := by
  cases finality_type <;> rfl

namespace RegistryReferenceV2

/-- The numbers of a reference are `u64`s. -/
structure InRange (r : RegistryReferenceV2) : Prop where
  adapter_metadata : r.adapter_metadata.InRange
  checkpoint_height : r.checkpoint_height < 2 ^ 64
  object_version : r.object_version < 2 ^ 64
  snapshot_generation : r.snapshot_generation < 2 ^ 64

/-- A member of an `Option` field that is not null. -/
theorem read_option_some {α : Type} {read : Json → Except String α} {value : Json} {a : α}
    (hne : value ≠ .null) (h : read value = .ok a) : read_option read (some value) = .ok (some a) :=
  read_option_eq_ok.mpr (Or.inr ⟨value, a, rfl, hne, h, rfl⟩)

/-- The object a reference is written as holds its wire form. -/
theorem wire_to_value {r : RegistryReferenceV2} (h : r.InRange) :
    RegistryReferenceWire.from_value r.to_value = .ok r.to_wire := by
  have hmetadata := read_option_some r.adapter_metadata.to_value_ne_null
    (RegistryAdapterMetadataV2.from_value_to_value h.adapter_metadata)
  have hfinality : read_option RegistryFinalityTypeV2.from_value
      (some (.string (finality_type_name r.finality_type))) = .ok (some r.finality_type) :=
    read_option_some (fun heq => by cases heq)
      (RegistryFinalityTypeV2.from_value_name r.finality_type)
  have hheight := read_unsigned_nat h.checkpoint_height
  have hversion := read_unsigned_nat h.object_version
  have hgeneration := read_unsigned_nat h.snapshot_generation
  unfold to_value RegistryReferenceWire.from_value
  rw [RegistryReferenceWire.read_fields_eq_ok]
  unfold to_wire
  constructor
  all_goals simp [RegistryReferenceWire.field_names, read_member, members_named, field,
    read_default, read_required, read_string, hmetadata, hfinality, hheight, hversion, hgeneration]
  all_goals rfl

/-- The adapter a reference's metadata belongs to. -/
def adapter_name : RegistryAdapterMetadataV2 → String
  | .evm .. => "evm"
  | .norn .. => "norn"
  | .external .. => "external"

theorem adapter_name_ne_empty (metadata : RegistryAdapterMetadataV2) :
    adapter_name metadata ≠ "" := by
  cases metadata <;> simp [adapter_name]

/-- The chain identity the metadata determines, except an external adapter's. -/
def identity_of : RegistryAdapterMetadataV2 → Option String
  | .evm chain_id _ _ => some ("eip155:" ++ toString chain_id)
  | .norn genesis_block_hash _ _ _ _ => some ("norn-genesis:" ++ genesis_block_hash)
  | .external .. => none

/-- The locator of a Registry, from its metadata. -/
def locator_of : RegistryAdapterMetadataV2 → Option String
  | .evm _ contract_address _ => some ("evm:" ++ contract_address)
  | .norn _ registry_address registry_key _ _ =>
    some ("norn:" ++ registry_address ++ "#" ++ registry_key)
  | .external .. => none

/-- The schema hash of a Registry, from its metadata. -/
def schema_of : RegistryAdapterMetadataV2 → Option String
  | .evm _ _ runtime_code_hash => some runtime_code_hash
  | .norn .. | .external .. => none

/-- The target fields are those of the metadata. -/
structure Determined (r : RegistryReferenceV2) : Prop where
  chain_adapter : r.chain_adapter = adapter_name r.adapter_metadata
  chain_identity : ∀ text, identity_of r.adapter_metadata = some text → r.chain_identity = text
  registry_locator : ∀ text, locator_of r.adapter_metadata = some text → r.registry_locator = text
  registry_schema_hash : ∀ text, schema_of r.adapter_metadata = some text →
    r.registry_schema_hash = text

/-- The target fields of a reference agree with its metadata. -/
def Agrees (r : RegistryReferenceV2) : Prop :=
  RegistryReferenceWire.target_matches_metadata r.chain_adapter r.chain_identity
    r.registry_locator r.registry_schema_hash r.finality_type r.adapter_metadata = true

theorem Agrees.determined {r : RegistryReferenceV2} (h : r.Agrees) : Determined r := by
  unfold Agrees RegistryReferenceWire.target_matches_metadata at h
  cases hmetadata : r.adapter_metadata with
  | evm chain_id contract_address runtime_code_hash =>
    -- an EVM target fixes all four
    rw [hmetadata] at h
    simp only [Bool.and_eq_true, decide_eq_true_eq] at h
    obtain ⟨⟨⟨⟨hadapter, hidentity⟩, hlocator⟩, hschema⟩, _⟩ := h
    constructor
    · rw [hmetadata, hadapter]
      rfl
    · intro text htext
      rw [hmetadata] at htext
      rw [hidentity, Option.some.inj htext]
    · intro text htext
      rw [hmetadata] at htext
      rw [hlocator, Option.some.inj htext]
    · intro text htext
      rw [hmetadata] at htext
      rw [hschema, Option.some.inj htext]
  | norn genesis_block_hash registry_address registry_key issuer key_id =>
    -- a NORN target leaves the schema open
    rw [hmetadata] at h
    simp only [Bool.and_eq_true, decide_eq_true_eq] at h
    obtain ⟨⟨⟨⟨hadapter, hidentity⟩, hlocator⟩, _⟩, _⟩ := h
    constructor
    · rw [hmetadata, hadapter]
      rfl
    · intro text htext
      rw [hmetadata] at htext
      rw [hidentity, Option.some.inj htext]
    · intro text htext
      rw [hmetadata] at htext
      rw [hlocator, Option.some.inj htext]
    · intro text htext
      rw [hmetadata] at htext
      cases htext
  | external driver issuer key_id =>
    -- an external one fixes the adapter alone
    rw [hmetadata] at h
    simp only [Bool.and_eq_true, decide_eq_true_eq] at h
    obtain ⟨⟨⟨⟨⟨hadapter, _⟩, _⟩, _⟩, _⟩, _⟩ := h
    constructor
    · rw [hmetadata, hadapter]
      rfl
    all_goals
      intro text htext
      rw [hmetadata] at htext
      cases htext

/-- The target fields, absent ones filled in from EVM metadata. -/
def target_fields (wire : RegistryReferenceWire) :
    RegistryAdapterMetadataV2 → String × String × String × String
  | .evm chain_id contract_address runtime_code_hash =>
    (RegistryReferenceWire.orDefault wire.chain_adapter "evm",
      RegistryReferenceWire.orDefault wire.chain_identity ("eip155:" ++ toString chain_id),
      RegistryReferenceWire.orDefault wire.registry_locator ("evm:" ++ contract_address),
      RegistryReferenceWire.orDefault wire.registry_schema_hash runtime_code_hash)
  | .norn .. | .external .. => (wire.chain_adapter, wire.chain_identity, wire.registry_locator,
      wire.registry_schema_hash)

/-- One of the legacy EVM fields is there. -/
def legacy_evm_present (wire : RegistryReferenceWire) : Bool :=
  wire.evm_chain_id.isSome || wire.evm_contract_address.isSome || wire.evm_runtime_code_hash.isSome

/-- What a wire object with this metadata and finality is read as. -/
def of_wire (wire : RegistryReferenceWire) (metadata : RegistryAdapterMetadataV2)
    (finality_type : RegistryFinalityTypeV2) : RegistryReferenceV2 where
  chain_adapter := (target_fields wire metadata).1
  chain_identity := (target_fields wire metadata).2.1
  registry_locator := (target_fields wire metadata).2.2.1
  registry_schema_hash := (target_fields wire metadata).2.2.2
  adapter_metadata := metadata
  finality_type := finality_type
  checkpoint_height := wire.checkpoint_height
  checkpoint_hash := wire.checkpoint_hash
  state_root := wire.state_root
  object_hash := wire.object_hash
  object_version := wire.object_version
  resolver_status := wire.resolver_status
  root_status := wire.root_status
  endpoint_binding_status := wire.endpoint_binding_status
  snapshot_generation := wire.snapshot_generation

/-- The finality type a wire object is read with. -/
def FinalityOf (wire : RegistryReferenceWire) (finality_type : RegistryFinalityTypeV2) : Prop :=
  wire.finality_type = some finality_type ∨
    (wire.finality_type = none ∧ wire.adapter_metadata = none ∧ legacy_evm_present wire = true ∧
      finality_type = .evmFinalizedOrConfirmations)

/-- The readable wire objects, and what they are read as. -/
theorem deserialize_eq_ok {wire : RegistryReferenceWire} {r : RegistryReferenceV2} :
    deserialize wire = .ok r ↔
      ¬ (wire.adapter_metadata.isSome = true ∧ wire.chain_adapter = "") ∧
        ∃ metadata finality_type, wire.metadata = .ok metadata ∧ FinalityOf wire finality_type ∧
          (of_wire wire metadata finality_type).Agrees ∧
          of_wire wire metadata finality_type = r := by
  have hnamed : (wire.adapter_metadata.isSome && wire.chain_adapter.isEmpty) = false ↔
      ¬ (wire.adapter_metadata.isSome = true ∧ wire.chain_adapter = "") := by
    rw [← Bool.not_eq_true, Bool.and_eq_true, String.isEmpty_iff]
  unfold deserialize
  simp only [bind_eq_ok, exists_unit, rejectIf_eq_ok, hnamed]
  refine and_congr_right (fun _ => exists_congr (fun metadata => ?_))
  unfold FinalityOf legacy_evm_present
  -- the target fields are those of the adapter, whichever it is
  cases metadata
  all_goals
    cases wire.finality_type with
    | some finality_type =>
      simp only [ok_bind, bind_eq_ok, exists_unit, rejectIf_eq_ok, Bool.not_eq_false',
        Except.ok.injEq]
      constructor
      · intro h
        obtain ⟨hmetadata, hagrees, heq⟩ := h
        exact ⟨finality_type, hmetadata, Or.inl rfl, hagrees, heq⟩
      · intro h
        obtain ⟨finality_type', hmetadata, hfinality, hagrees, heq⟩ := h
        rcases hfinality with hsome | ⟨hnone, _⟩
        · rw [Option.some.inj hsome]
          exact ⟨hmetadata, hagrees, heq⟩
        · cases hnone
    | none =>
      cases hmetadata : wire.adapter_metadata with
      | some _ => simp
      | none =>
        cases hlegacy : (wire.evm_chain_id.isSome || wire.evm_contract_address.isSome ||
            wire.evm_runtime_code_hash.isSome) with
        | false => simp
        | true =>
          simp only [Option.isNone_none, Bool.and_self, if_true, ok_bind, bind_eq_ok, exists_unit,
            rejectIf_eq_ok, Bool.not_eq_false', Except.ok.injEq]
          constructor
          · intro h
            obtain ⟨hread, hagrees, heq⟩ := h
            exact ⟨_, hread, Or.inr ⟨trivial, trivial, trivial, rfl⟩, hagrees, heq⟩
          · intro h
            obtain ⟨finality_type, hread, hfinality, hagrees, heq⟩ := h
            rcases hfinality with hsome | ⟨_, _, _, hfinality⟩
            · cases hsome
            · rw [hfinality] at hagrees heq
              exact ⟨hread, hagrees, heq⟩

/-- What was read agrees with its metadata. -/
theorem agrees_of_deserialize {wire : RegistryReferenceWire} {r : RegistryReferenceV2}
    (h : deserialize wire = .ok r) : r.Agrees := by
  obtain ⟨_, metadata, finality_type, _, _, hagrees, heq⟩ := deserialize_eq_ok.mp h
  rw [← heq]
  exact hagrees

/-- A field that is filled in with itself. -/
theorem orDefault_self (text : String) : RegistryReferenceWire.orDefault text text = text := by
  unfold RegistryReferenceWire.orDefault
  exact ite_self text

/-- Target fields that agree with the metadata are not filled in again. -/
theorem target_fields_to_wire {r : RegistryReferenceV2} (h : r.Agrees) :
    target_fields r.to_wire r.adapter_metadata =
      (r.chain_adapter, r.chain_identity, r.registry_locator, r.registry_schema_hash) := by
  have hdetermined := h.determined
  cases hmetadata : r.adapter_metadata with
  | evm chain_id contract_address runtime_code_hash =>
    have hadapter := hdetermined.chain_adapter
    have hidentity := hdetermined.chain_identity
    have hlocator := hdetermined.registry_locator
    have hschema := hdetermined.registry_schema_hash
    rw [hmetadata] at hadapter hidentity hlocator hschema
    have hidentity := hidentity _ rfl
    have hlocator := hlocator _ rfl
    have hschema := hschema _ rfl
    unfold target_fields to_wire adapter_name at *
    simp only [hadapter, hidentity, hlocator, hschema, orDefault_self]
  | norn => rfl
  | external => rfl

/-- A reference that agrees with its metadata is its own reading. -/
theorem deserialize_to_wire {r : RegistryReferenceV2} (h : r.Agrees) :
    deserialize r.to_wire = .ok r := by
  have hself : of_wire r.to_wire r.adapter_metadata r.finality_type = r := by
    unfold of_wire
    rw [target_fields_to_wire h]
    rfl
  refine deserialize_eq_ok.mpr ⟨?_, r.adapter_metadata, r.finality_type, rfl, Or.inl rfl, ?_, hself⟩
  · intro hunnamed
    have hempty : r.chain_adapter = "" := hunnamed.2
    rw [h.determined.chain_adapter] at hempty
    exact adapter_name_ne_empty _ hempty
  · rw [hself]
    exact h

/-- The metadata of a wire object: typed without legacy fields, or all of the legacy ones. -/
theorem metadata_eq_ok {wire : RegistryReferenceWire} {metadata : RegistryAdapterMetadataV2} :
    wire.metadata = .ok metadata ↔
      (wire.adapter_metadata = some metadata ∧ legacy_evm_present wire = false) ∨
        (wire.adapter_metadata = none ∧ (wire.chain_adapter = "" ∨ wire.chain_adapter = "evm") ∧
          ∃ chain_id contract_address runtime_code_hash, wire.evm_chain_id = some chain_id ∧
            wire.evm_contract_address = some contract_address ∧
            wire.evm_runtime_code_hash = some runtime_code_hash ∧
            metadata = .evm chain_id contract_address runtime_code_hash) := by
  unfold RegistryReferenceWire.metadata legacy_evm_present
  cases wire.adapter_metadata with
  | some typed =>
    cases wire.evm_chain_id.isSome || wire.evm_contract_address.isSome ||
        wire.evm_runtime_code_hash.isSome with
    | true => simp
    | false => simp
  | none =>
    cases hlegacy : (wire.evm_chain_id.isSome || wire.evm_contract_address.isSome ||
        wire.evm_runtime_code_hash.isSome) with
    | false =>
      simp only [Bool.or_eq_false_iff, Option.isSome_eq_false_iff, Option.isNone_iff_eq_none]
        at hlegacy
      simp [hlegacy.1.1]
    | true =>
      by_cases hadapter : (wire.chain_adapter.isEmpty || wire.chain_adapter = "evm") = true
      · have hnames : wire.chain_adapter = "" ∨ wire.chain_adapter = "evm" := by
          simpa using hadapter
        simp only [hadapter, if_true, bind_eq_ok, okOr_eq_ok, Except.ok.injEq, hnames, true_and,
          reduceCtorEq, false_and, false_or]
        constructor
        · intro h
          obtain ⟨chain_id, hid, contract_address, haddress, code_hash, hcode, heq⟩ := h
          exact ⟨chain_id, contract_address, code_hash, hid, haddress, hcode, heq.symm⟩
        · intro h
          obtain ⟨chain_id, contract_address, code_hash, hid, haddress, hcode, heq⟩ := h
          exact ⟨chain_id, hid, contract_address, haddress, code_hash, hcode, heq.symm⟩
      · have hnames : ¬ (wire.chain_adapter = "" ∨ wire.chain_adapter = "evm") := by
          simpa using hadapter
        simp [hadapter, hnames]

/-- What a reference is read from, member by member, and then as a whole. -/
theorem from_value_object {fields : List (String × Json)} {r : RegistryReferenceV2} :
    from_value (.object fields) = .ok r ↔
      ∃ wire, RegistryReferenceWire.ReadFrom fields wire ∧ deserialize wire = .ok r := by
  unfold from_value
  rw [bind_eq_ok]
  refine exists_congr (fun wire => and_congr_left (fun _ => ?_))
  exact RegistryReferenceWire.read_fields_eq_ok

/-- The numbers of what was read fit their types. -/
theorem inRange_of_readFrom {fields : List (String × Json)} {wire : RegistryReferenceWire}
    {r : RegistryReferenceV2} (hread : RegistryReferenceWire.ReadFrom fields wire)
    (h : deserialize wire = .ok r) : r.InRange := by
  obtain ⟨_, metadata, finality_type, hmetadata, _, _, heq⟩ := deserialize_eq_ok.mp h
  rw [← heq]
  refine ⟨?_, lt_of_read_required hread.checkpoint_height,
    lt_of_read_required hread.object_version, lt_of_read_required hread.snapshot_generation⟩
  show metadata.InRange
  rcases metadata_eq_ok.mp hmetadata with ⟨htyped, _⟩ | ⟨_, _, chain_id, _, _, hid, _, _, hevm⟩
  · have hsome := hread.adapter_metadata
    rw [htyped] at hsome
    obtain ⟨value, _, hvalue⟩ := member_of_read_some hsome
    exact RegistryAdapterMetadataV2.inRange_of_from_value hvalue
  · have hsome := hread.evm_chain_id
    rw [hid] at hsome
    obtain ⟨value, _, hvalue⟩ := member_of_read_some hsome
    rw [hevm]
    exact (read_unsigned_eq_ok.mp hvalue).2

/-- A sequence is read like the object of its fields. -/
theorem readFrom_of_from_value {value : Json} {r : RegistryReferenceV2}
    (h : from_value value = .ok r) :
    ∃ fields wire, RegistryReferenceWire.ReadFrom fields wire ∧ deserialize wire = .ok r := by
  cases value with
  | object fields =>
    obtain ⟨wire, hread, hwire⟩ := from_value_object.mp h
    exact ⟨fields, wire, hread, hwire⟩
  | array items =>
    obtain ⟨wire, hread, hwire⟩ := bind_eq_ok.mp h
    rw [RegistryReferenceWire.from_value] at hread
    by_cases hlength : items.length = RegistryReferenceWire.field_names.length
    · rw [if_pos hlength] at hread
      exact ⟨_, wire, RegistryReferenceWire.read_fields_eq_ok.mp hread, hwire⟩
    · rw [if_neg hlength] at hread
      cases hread
  | _ => cases h

/-- **What was read is written so that it is read again.** -/
theorem from_value_to_value {value : Json} {r : RegistryReferenceV2}
    (h : from_value value = .ok r) : from_value r.to_value = .ok r := by
  obtain ⟨fields, wire, hread, hwire⟩ := readFrom_of_from_value h
  unfold from_value
  rw [wire_to_value (inRange_of_readFrom hread hwire), ok_bind]
  exact deserialize_to_wire (agrees_of_deserialize hwire)

/-- The target fields of what was read are those of its metadata. -/
theorem determined_of_from_value {value : Json} {r : RegistryReferenceV2}
    (h : from_value value = .ok r) : Determined r := by
  obtain ⟨fields, wire, _, hwire⟩ := readFrom_of_from_value h
  exact (agrees_of_deserialize hwire).determined

/-! ## §5. Legacy objects. -/

/-- The names of the legacy EVM fields. -/
def legacy_names : List String := ["evm_chain_id", "chain_id", "evm_contract_address",
  "contract_address", "evm_runtime_code_hash", "contract_code_hash"]

/-- The names that only one of the two forms uses, or uses otherwise. -/
def replaced_names : List String :=
  legacy_names ++ ["chain_adapter", "adapter_metadata", "finality_type"]

/-- A legacy EVM field that is not null. -/
def Legacy (fields : List (String × Json)) : Prop :=
  ∃ name ∈ legacy_names, ∃ value, value ≠ .null ∧ (name, value) ∈ fields

/-- The explicit form of a legacy object: its EVM fields are the typed metadata. -/
def typed_form (fields : List (String × Json)) (metadata : RegistryAdapterMetadataV2)
    (finality_type : RegistryFinalityTypeV2) : List (String × Json) :=
  fields.filter (fun field => field.1 ∉ replaced_names) ++
    [("chain_adapter", .string "evm"), ("adapter_metadata", metadata.to_value),
      ("finality_type", .string (finality_type_name finality_type))]

section Typed

variable {fields : List (String × Json)} {wire : RegistryReferenceWire}

/-- An `Option` field whose member is not null is there. -/
theorem isSome_of_mem {α : Type} {names : List String} {read : Json → Except String α}
    {out : Option α} {name : String} {value : Json}
    (h : read_member names (read_option read) fields = .ok out) (hname : name ∈ names)
    (hne : value ≠ .null) (hmem : (name, value) ∈ fields) : out.isSome = true := by
  rcases read_option_eq_ok.mp (read_of_mem h hname hmem) with ⟨habsent, _⟩ | ⟨_, a, _, _, _, heq⟩
  · rcases habsent with hnone | hnull
    · cases hnone
    · exact absurd (Option.some.inj hnull) hne
  · rw [heq]
    rfl

theorem legacy_of_readFrom (hread : RegistryReferenceWire.ReadFrom fields wire)
    (h : Legacy fields) : legacy_evm_present wire = true := by
  obtain ⟨name, hname, value, hne, hmem⟩ := h
  unfold legacy_evm_present
  rw [Bool.or_eq_true, Bool.or_eq_true]
  have hcases : name ∈ ["evm_chain_id", "chain_id"] ∨
      name ∈ ["evm_contract_address", "contract_address"] ∨
        name ∈ ["evm_runtime_code_hash", "contract_code_hash"] := by
    unfold legacy_names at hname
    simp only [List.mem_cons, List.not_mem_nil, or_false] at hname ⊢
    tauto
  rcases hcases with hid | haddress | hcode
  · exact Or.inl (Or.inl (isSome_of_mem hread.evm_chain_id hid hne hmem))
  · exact Or.inl (Or.inr (isSome_of_mem hread.evm_contract_address haddress hne hmem))
  · exact Or.inr (isSome_of_mem hread.evm_runtime_code_hash hcode hne hmem)

/-- A field that both forms share keeps its members. -/
theorem members_kept {names : List String} (metadata : RegistryAdapterMetadataV2)
    (finality_type : RegistryFinalityTypeV2) (hnames : ∀ name ∈ names, name ∉ replaced_names) :
    members_named names (typed_form fields metadata finality_type) =
      members_named names fields := by
  have hadded : ∀ name ∈ ["chain_adapter", "adapter_metadata", "finality_type"],
      name ∈ replaced_names := by
    decide
  unfold members_named typed_form
  rw [List.filter_append, List.filter_filter, List.map_append]
  have hnone : ([("chain_adapter", Json.string "evm"), ("adapter_metadata", metadata.to_value),
      ("finality_type", .string (finality_type_name finality_type))] :
        List (String × Json)).filter (fun field => decide (field.1 ∈ names)) = [] := by
    refine List.filter_eq_nil_iff.mpr ?_
    intro field hfield
    rw [decide_eq_true_eq]
    intro hmem
    refine hnames field.1 hmem (hadded field.1 ?_)
    simp only [List.mem_cons, List.not_mem_nil, or_false] at hfield ⊢
    rcases hfield with heq | heq | heq <;> simp [heq]
  rw [hnone, List.map_nil, List.append_nil]
  congr 1
  refine List.filter_congr ?_
  intro field _
  by_cases hmem : field.1 ∈ names
  · simp [hmem, hnames field.1 hmem]
  · simp [hmem]

/-- A field that the forms have under other names has the members that were added. -/
theorem members_replaced {names : List String} (metadata : RegistryAdapterMetadataV2)
    (finality_type : RegistryFinalityTypeV2) (hnames : ∀ name ∈ names, name ∈ replaced_names) :
    members_named names (typed_form fields metadata finality_type) =
      members_named names [("chain_adapter", .string "evm"),
        ("adapter_metadata", metadata.to_value),
        ("finality_type", .string (finality_type_name finality_type))] := by
  unfold members_named typed_form
  rw [List.filter_append, List.filter_filter, List.map_append]
  have hnone : fields.filter (fun field => decide (field.1 ∈ names) &&
      decide (field.1 ∉ replaced_names)) = [] := by
    refine List.filter_eq_nil_iff.mpr ?_
    intro field _
    by_cases hmem : field.1 ∈ names
    · simp [hmem, hnames field.1 hmem]
    · simp [hmem]
  rw [hnone, List.map_nil, List.nil_append]

/-- The wire form of the typed form. -/
def typed_wire (wire : RegistryReferenceWire) (metadata : RegistryAdapterMetadataV2)
    (finality_type : RegistryFinalityTypeV2) : RegistryReferenceWire :=
  { wire with
    chain_adapter := "evm"
    adapter_metadata := some metadata
    evm_chain_id := none
    evm_contract_address := none
    evm_runtime_code_hash := none
    finality_type := some finality_type }

theorem readFrom_typed (hread : RegistryReferenceWire.ReadFrom fields wire)
    {metadata : RegistryAdapterMetadataV2} (hrange : metadata.InRange)
    (finality_type : RegistryFinalityTypeV2) :
    RegistryReferenceWire.ReadFrom (typed_form fields metadata finality_type)
      (typed_wire wire metadata finality_type) := by
  -- the members that are not replaced are read as before
  have hkept : ∀ {α : Type} {names : List String} {read : Option Json → Except String α} {a : α},
      read_member names read fields = .ok a → (∀ name ∈ names, name ∉ replaced_names) →
        read_member names read (typed_form fields metadata finality_type) = .ok a := by
    intro α names read a h hnames
    rw [read_member_congr read (members_kept metadata finality_type hnames)]
    exact h
  have hmetadata := read_option_some metadata.to_value_ne_null
    (RegistryAdapterMetadataV2.from_value_to_value hrange)
  -- the replaced ones are read from what stands there instead
  have hreplaced : ∀ {α : Type} {names : List String} {read : Option Json → Except String α},
      (∀ name ∈ names, name ∈ replaced_names) →
        read_member names read (typed_form fields metadata finality_type) =
          read_member names read [("chain_adapter", .string "evm"),
            ("adapter_metadata", metadata.to_value),
            ("finality_type", .string (finality_type_name finality_type))] := by
    intro α names read hnames
    exact read_member_congr read (members_replaced metadata finality_type hnames)
  constructor
  case known =>
    intro field hfield
    rcases List.mem_append.mp hfield with hold | hnew
    · exact hread.known field (List.mem_filter.mp hold).1
    · simp only [List.mem_cons, List.not_mem_nil, or_false] at hnew
      rcases hnew with heq | heq | heq <;> rw [heq] <;> simp [RegistryReferenceWire.field_names]
  case chain_adapter =>
    rw [hreplaced (by decide)]
    simp [read_member, members_named, read_default, read_string, typed_wire]
  case adapter_metadata =>
    rw [hreplaced (by decide)]
    simp [read_member, members_named, hmetadata, typed_wire]
  case evm_chain_id =>
    rw [hreplaced (by decide)]
    simp [read_member, members_named, read_option, typed_wire]
  case evm_contract_address =>
    rw [hreplaced (by decide)]
    simp [read_member, members_named, read_option, typed_wire]
  case evm_runtime_code_hash =>
    rw [hreplaced (by decide)]
    simp [read_member, members_named, read_option, typed_wire]
  case finality_type =>
    rw [hreplaced (by decide)]
    have hfinality : read_option RegistryFinalityTypeV2.from_value
        (some (.string (finality_type_name finality_type))) = .ok (some finality_type) :=
      read_option_some (fun heq => by cases heq)
        (RegistryFinalityTypeV2.from_value_name finality_type)
    simp [read_member, members_named, hfinality, typed_wire]
  case chain_identity => exact hkept hread.chain_identity (by decide)
  case registry_locator => exact hkept hread.registry_locator (by decide)
  case registry_schema_hash => exact hkept hread.registry_schema_hash (by decide)
  case checkpoint_height => exact hkept hread.checkpoint_height (by decide)
  case checkpoint_hash => exact hkept hread.checkpoint_hash (by decide)
  case state_root => exact hkept hread.state_root (by decide)
  case object_hash => exact hkept hread.object_hash (by decide)
  case object_version => exact hkept hread.object_version (by decide)
  case resolver_status => exact hkept hread.resolver_status (by decide)
  case root_status => exact hkept hread.root_status (by decide)
  case endpoint_binding_status => exact hkept hread.endpoint_binding_status (by decide)
  case snapshot_generation => exact hkept hread.snapshot_generation (by decide)

/-- The finality types of an EVM chain. -/
def EvmFinality (finality_type : RegistryFinalityTypeV2) : Prop :=
  finality_type = .evmFinalized ∨ finality_type = .evmConfirmations ∨
    finality_type = .evmFinalizedOrConfirmations

theorem agrees_evm_iff {r : RegistryReferenceV2} {chain_id : Nat}
    {contract_address runtime_code_hash : String}
    (hmetadata : r.adapter_metadata = .evm chain_id contract_address runtime_code_hash) :
    r.Agrees ↔ r.chain_adapter = "evm" ∧ r.chain_identity = "eip155:" ++ toString chain_id ∧
      r.registry_locator = "evm:" ++ contract_address ∧
      r.registry_schema_hash = runtime_code_hash ∧ EvmFinality r.finality_type := by
  unfold Agrees RegistryReferenceWire.target_matches_metadata EvmFinality
  rw [hmetadata]
  simp only [Bool.and_eq_true, Bool.or_eq_true, decide_eq_true_eq, and_assoc, or_assoc]

/-- **A legacy object and its typed form are read as one reference**, up to the finality. -/
theorem from_value_typed {r : RegistryReferenceV2} (h : from_value (.object fields) = .ok r)
    (hlegacy : Legacy fields) {finality_type : RegistryFinalityTypeV2}
    (hfinality : EvmFinality finality_type) :
    from_value (.object (typed_form fields r.adapter_metadata finality_type)) =
      .ok { r with finality_type := finality_type } := by
  obtain ⟨wire, hread, hwire⟩ := from_value_object.mp h
  have hrange := inRange_of_readFrom hread hwire
  obtain ⟨_, metadata, finality, hmetadata, _, hagrees, heq⟩ := deserialize_eq_ok.mp hwire
  have hsame : r.adapter_metadata = metadata := by
    rw [← heq]
    rfl
  have hform : typed_form fields r.adapter_metadata finality_type =
      typed_form fields metadata finality_type := by
    rw [hsame]
  rw [hform]
  rcases metadata_eq_ok.mp hmetadata with ⟨_, hnone⟩ | ⟨_, hadapter, id, address, code, _, _, _,
    hevm⟩
  · -- a legacy field stands beside typed metadata
    rw [legacy_of_readFrom hread hlegacy] at hnone
    cases hnone
  · -- the typed form is of the same target
    have hagrees' := (agrees_evm_iff hevm).mp hagrees
    refine from_value_object.mpr ⟨_, readFrom_typed hread (hsame ▸ hrange.adapter_metadata)
      finality_type, ?_⟩
    have hwritten : of_wire (typed_wire wire metadata finality_type) metadata finality_type =
        { r with finality_type := finality_type } := by
      rw [← heq]
      have hevm_adapter : RegistryReferenceWire.orDefault wire.chain_adapter "evm" = "evm" := by
        rcases hadapter with hempty | hevm
        · rw [hempty]
          rfl
        · rw [hevm]
          rfl
      unfold of_wire
      rw [hevm]
      simp only [target_fields, typed_wire, hevm_adapter, orDefault_self]
    refine deserialize_eq_ok.mpr ⟨?_, metadata, finality_type, rfl, Or.inl rfl, ?_, hwritten⟩
    · intro hunnamed
      have hname : "evm" = "" := hunnamed.2
      exact absurd hname (by decide)
    · rw [hwritten]
      refine (agrees_evm_iff (r := { r with finality_type := finality_type })
        (hsame.trans hevm)).mpr ?_
      rw [← heq]
      exact ⟨hagrees'.1, hagrees'.2.1, hagrees'.2.2.1, hagrees'.2.2.2.1, hfinality⟩

end Typed

/-! ## §6. Objects of two adapters. -/

section Mixed

variable {fields : List (String × Json)}

/-- The metadata an object gives, typed or in legacy fields. -/
inductive MetadataOf (fields : List (String × Json)) : RegistryAdapterMetadataV2 → Prop where
  | typed (value : Json) (metadata : RegistryAdapterMetadataV2)
      (hmem : ("adapter_metadata", value) ∈ fields)
      (hread : RegistryAdapterMetadataV2.from_value value = .ok metadata) :
      MetadataOf fields metadata
  | legacy (id_name address_name code_name : String) (chain_id : Nat)
      (contract_address runtime_code_hash : String)
      (hid_name : id_name ∈ ["evm_chain_id", "chain_id"])
      (haddress_name : address_name ∈ ["evm_contract_address", "contract_address"])
      (hcode_name : code_name ∈ ["evm_runtime_code_hash", "contract_code_hash"])
      (hid : (id_name, Json.nat chain_id) ∈ fields)
      (haddress : (address_name, Json.string contract_address) ∈ fields)
      (hcode : (code_name, Json.string runtime_code_hash) ∈ fields) :
      MetadataOf fields (.evm chain_id contract_address runtime_code_hash)

/-- An object whose members belong to two adapters. -/
inductive Mixed (fields : List (String × Json)) : Prop where
  | generations (value : Json) (hne : value ≠ .null)
      (hmem : ("adapter_metadata", value) ∈ fields) (hlegacy : Legacy fields)
  | adapter (metadata : RegistryAdapterMetadataV2) (text : String)
      (hmetadata : MetadataOf fields metadata)
      (hmem : ("chain_adapter", Json.string text) ∈ fields)
      (hne : text ≠ "") (hother : text ≠ adapter_name metadata)
  | identity (metadata : RegistryAdapterMetadataV2) (text determined : String)
      (hmetadata : MetadataOf fields metadata)
      (hmem : ("chain_identity", Json.string text) ∈ fields) (hne : text ≠ "")
      (hdetermined : identity_of metadata = some determined) (hother : text ≠ determined)
  | locator (metadata : RegistryAdapterMetadataV2) (text determined : String)
      (hmetadata : MetadataOf fields metadata)
      (hmem : ("registry_locator", Json.string text) ∈ fields) (hne : text ≠ "")
      (hdetermined : locator_of metadata = some determined) (hother : text ≠ determined)
  | schema (metadata : RegistryAdapterMetadataV2) (text determined : String)
      (hmetadata : MetadataOf fields metadata)
      (hmem : ("registry_schema_hash", Json.string text) ∈ fields) (hne : text ≠ "")
      (hdetermined : schema_of metadata = some determined) (hother : text ≠ determined)

/-- What was read has the metadata its object gives. -/
theorem metadata_of_readFrom {wire : RegistryReferenceWire} {r : RegistryReferenceV2}
    (hread : RegistryReferenceWire.ReadFrom fields wire) (hwire : deserialize wire = .ok r)
    {metadata : RegistryAdapterMetadataV2} (h : MetadataOf fields metadata) :
    r.adapter_metadata = metadata := by
  obtain ⟨_, metadata', finality_type, hmetadata, _, _, heq⟩ := deserialize_eq_ok.mp hwire
  rw [← heq]
  show metadata' = metadata
  cases h with
  | typed value _ hmem hvalue =>
    -- typed metadata is taken as it is
    have hsome := read_of_mem hread.adapter_metadata List.mem_cons_self hmem
    have hne : value ≠ .null := by
      intro hnull
      rw [hnull] at hvalue
      cases hvalue
    rw [read_option_some hne hvalue] at hsome
    rcases metadata_eq_ok.mp hmetadata with ⟨htyped, _⟩ | ⟨hnone, _⟩
    · rw [htyped] at hsome
      exact (Option.some.inj (Except.ok.inj hsome)).symm
    · rw [hnone] at hsome
      cases hsome
  | legacy id_name address_name code_name chain_id contract_address runtime_code_hash hid_name
      haddress_name hcode_name hid haddress hcode =>
    -- legacy fields are put together
    have hlegacy : legacy_evm_present wire = true := by
      unfold legacy_evm_present
      have hsome := isSome_of_mem hread.evm_chain_id hid_name (fun heq => by cases heq) hid
      rw [hsome]
      rfl
    rcases metadata_eq_ok.mp hmetadata with ⟨_, hnone⟩ | ⟨_, _, id, address, code, hwire_id,
      hwire_address, hwire_code, hevm⟩
    · rw [hlegacy] at hnone
      cases hnone
    · have hread_id := read_of_mem hread.evm_chain_id hid_name hid
      have hread_address := read_of_mem hread.evm_contract_address haddress_name haddress
      have hread_code := read_of_mem hread.evm_runtime_code_hash hcode_name hcode
      rw [hwire_id] at hread_id
      rw [hwire_address] at hread_address
      rw [hwire_code] at hread_code
      have hid_eq : chain_id = id := by
        rcases read_option_eq_ok.mp hread_id with ⟨_, hnone⟩ | ⟨_, n, hvalue, _, hn, hsome⟩
        · cases hnone
        · rw [← Option.some.inj hvalue] at hn
          have hnumber := (read_unsigned_eq_ok.mp hn).1
          rw [Option.some.inj hsome]
          exact Int.ofNat_inj.mp (Json.number.inj hnumber)
      have haddress_eq : contract_address = address :=
        Option.some.inj (Except.ok.inj hread_address)
      have hcode_eq : runtime_code_hash = code := Option.some.inj (Except.ok.inj hread_code)
      rw [hevm, hid_eq, haddress_eq, hcode_eq]

/-- A target field that is given is the one of what was read. -/
theorem given_of_default {name text read : String}
    (h : read_member [name] (read_default "" read_string) fields = .ok read)
    (hmem : (name, Json.string text) ∈ fields) : read = text := by
  have hread : (Except.ok text : Except String String) = .ok read :=
    read_of_mem h List.mem_cons_self hmem
  exact (Except.ok.inj hread).symm

/-- A field that is given is not filled in. -/
theorem orDefault_of_ne {text default : String} (h : text ≠ "") :
    RegistryReferenceWire.orDefault text default = text := by
  unfold RegistryReferenceWire.orDefault
  rw [if_neg]
  intro hempty
  exact h (String.isEmpty_iff.mp hempty)

/-- Target fields that are given are kept. -/
theorem target_fields_given (wire : RegistryReferenceWire) (metadata : RegistryAdapterMetadataV2) :
    (wire.chain_adapter ≠ "" → (target_fields wire metadata).1 = wire.chain_adapter) ∧
      (wire.chain_identity ≠ "" → (target_fields wire metadata).2.1 = wire.chain_identity) ∧
      (wire.registry_locator ≠ "" →
        (target_fields wire metadata).2.2.1 = wire.registry_locator) ∧
      (wire.registry_schema_hash ≠ "" →
        (target_fields wire metadata).2.2.2 = wire.registry_schema_hash) := by
  cases metadata with
  | evm => exact ⟨orDefault_of_ne, orDefault_of_ne, orDefault_of_ne, orDefault_of_ne⟩
  | norn => exact ⟨fun _ => rfl, fun _ => rfl, fun _ => rfl, fun _ => rfl⟩
  | external => exact ⟨fun _ => rfl, fun _ => rfl, fun _ => rfl, fun _ => rfl⟩

/-- **No object of two adapters is read.** -/
theorem mixed_rejected (h : Mixed fields) : ∃ e, from_value (.object fields) = .error e := by
  cases hresult : from_value (.object fields) with
  | error e => exact ⟨e, rfl⟩
  | ok r =>
    exfalso
    obtain ⟨wire, hread, hwire⟩ := from_value_object.mp hresult
    obtain ⟨_, metadata', finality_type, hmetadata', _, _, heq⟩ := deserialize_eq_ok.mp hwire
    -- what was read fixes the target fields
    have hdetermined := (agrees_of_deserialize hwire).determined
    have hgiven := target_fields_given wire metadata'
    cases h with
    | generations value hne hmem hlegacy =>
      -- typed and legacy fields together
      have hsome := isSome_of_mem hread.adapter_metadata List.mem_cons_self hne hmem
      rcases metadata_eq_ok.mp hmetadata' with ⟨_, hnone⟩ | ⟨hnone, _⟩
      · rw [legacy_of_readFrom hread hlegacy] at hnone
        cases hnone
      · rw [hnone] at hsome
        cases hsome
    | adapter metadata text hmetadata hmem hne hother =>
      -- a text that differs from what the metadata says is refused
      have hwritten : r.chain_adapter = (target_fields wire metadata').1 := by rw [← heq]; rfl
      have htext := given_of_default hread.chain_adapter hmem
      rw [hgiven.1 (htext ▸ hne), htext, hdetermined.chain_adapter,
        metadata_of_readFrom hread hwire hmetadata] at hwritten
      exact hother hwritten.symm
    | identity metadata text determined hmetadata hmem hne hidentity hother =>
      have hwritten : r.chain_identity = (target_fields wire metadata').2.1 := by rw [← heq]; rfl
      have htext := given_of_default hread.chain_identity hmem
      rw [← metadata_of_readFrom hread hwire hmetadata] at hidentity
      rw [hgiven.2.1 (htext ▸ hne), htext, hdetermined.chain_identity _ hidentity] at hwritten
      exact hother hwritten.symm
    | locator metadata text determined hmetadata hmem hne hlocator hother =>
      have hwritten : r.registry_locator = (target_fields wire metadata').2.2.1 := by
        rw [← heq]; rfl
      have htext := given_of_default hread.registry_locator hmem
      rw [← metadata_of_readFrom hread hwire hmetadata] at hlocator
      rw [hgiven.2.2.1 (htext ▸ hne), htext, hdetermined.registry_locator _ hlocator] at hwritten
      exact hother hwritten.symm
    | schema metadata text determined hmetadata hmem hne hschema hother =>
      have hwritten : r.registry_schema_hash = (target_fields wire metadata').2.2.2 := by
        rw [← heq]; rfl
      have htext := given_of_default hread.registry_schema_hash hmem
      rw [← metadata_of_readFrom hread hwire hmetadata] at hschema
      rw [hgiven.2.2.2 (htext ▸ hne), htext, hdetermined.registry_schema_hash _ hschema]
        at hwritten
      exact hother hwritten.symm

end Mixed

end RegistryReferenceV2

end ResolverIdentity
