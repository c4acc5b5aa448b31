/-
  ResolverIdentity.Publisher.Phases: the phases that put a plan on the chain.

  `publish_root`, `publish_resolvers`, `unbind_endpoints`, `bind_endpoints` and
  `revoke_removed_resolvers` of `tools/manage_v2_registry.py`.  Each pass of a loop inspects
  the storage and raises, goes on, or sends one transaction, so that a phase is the list of
  the passes of its loops.  The receipts a phase returns are those of what it sent.

  Main results:
    * `transact_eq_ok`: what is sent is what the contract accepts;
    * `settled_publish_root_iff` … `settled_revoke_resolver_iff`: which storage leaves a
      pass nothing to do.
-/
import ResolverIdentity.Contract.Storage
import ResolverIdentity.Library.Reconcile
import ResolverIdentity.Publisher.RegistryBackend

namespace ResolverIdentity.Publisher

open Library Sync V1 Agent

/-! ## §1. Passes. -/

/-- One pass of a loop, with what it is about. -/
inductive PhaseStep where
  | publish_root
  | active_root
  | publish_resolver (entry : PlanEntry)
  | published_resolver (entry : PlanEntry)
  | bind_endpoint (entry : PlanEntry) (endpoint_key : String)
  | unbind_endpoint (removal : EndpointUnbind)
  | revoke_resolver (removal : ResolverRevocation)

section Passes

variable (C : Casing) (plan : Plan) (r : Contract.Registry)

/-- The body of `publish_root`. -/
def inspect_root : Except String (Option Contract.Call) := do
  let record ← get_root_record r plan.state_root
  match record with
  | none =>
    let call ← publish_root_call plan.state_root plan.root_version
    .ok (some call)
  | some record =>
    rejectIf (record.status = "REVOKED") "publication plan root has been permanently revoked"
    if record.status = "ACTIVE" then
      rejectIf (record.version ≠ plan.root_version)
        "active Root version conflicts with the approved plan"
      .ok none
    else
      let call ← publish_root_call plan.state_root plan.root_version
      .ok (some call)

/-- What `publish_resolvers` asks for first. -/
def inspect_active_root : Except String (Option Contract.Call) := do
  let status ← get_root_status r plan.state_root
  rejectIf (status ≠ "ACTIVE") "Root Publisher must activate the approved root first"
  .ok none

/-- The loop of `publish_resolvers`. -/
def inspect_resolver (entry : PlanEntry) : Except String (Option Contract.Call) := do
  let current ← get_resolver_anchor r entry.resolver_id_key
  let arguments := anchor_arguments C entry.resolver_id_key entry.object_hash plan.state_root
    entry.object_version entry.valid_until entry.status
  match current with
  | none =>
    let anchor ← arguments
    .ok (some (.publish_resolver anchor))
  | some current =>
    if current.object_version < entry.object_version then
      let anchor ← arguments
      .ok (some (.update_resolver anchor))
    else
      rejectIf (current.object_version ≠ entry.object_version ||
          current.object_hash ≠ entry.object_hash || current.state_root ≠ plan.state_root ||
          current.valid_until ≠ entry.valid_until || current.status ≠ entry.status)
        ("on-chain resolver conflicts with plan: " ++ entry.server_id)
      .ok none

/-- The outer loop of `bind_endpoints`. -/
def inspect_published (entry : PlanEntry) : Except String (Option Contract.Call) := do
  let incomplete := "Resolver Publisher phase incomplete: " ++ entry.server_id
  let current ← get_resolver_anchor r entry.resolver_id_key
  let current ← okOr current incomplete
  rejectIf (current.object_hash ≠ entry.object_hash || current.state_root ≠ plan.state_root ||
    current.status ≠ "ACTIVE") incomplete
  .ok none

/-- The inner loop of `bind_endpoints`. -/
def inspect_bind (entry : PlanEntry) (endpoint_key : String) :
    Except String (Option Contract.Call) := do
  let existing ← get_endpoint_binding r endpoint_key
  match existing with
  | none =>
    let call ← bind_endpoint_call endpoint_key entry.resolver_id_key
    .ok (some call)
  | some existing =>
    rejectIf (existing ≠ entry.resolver_id_key) ("endpoint conflict: " ++ endpoint_key)
    .ok none

/-- The loop of `unbind_endpoints`. -/
def inspect_unbind (removal : EndpointUnbind) : Except String (Option Contract.Call) := do
  let existing ← get_endpoint_binding r removal.endpoint_key
  match existing with
  | none => .ok none
  | some existing =>
    rejectIf (existing ≠ removal.resolver_id_key)
      ("endpoint removal owner conflict: " ++ removal.endpoint_key)
    let call ← unbind_endpoint_call removal.endpoint_key
    .ok (some call)

/-- The loop of `revoke_removed_resolvers`. -/
def inspect_revoke (removal : ResolverRevocation) : Except String (Option Contract.Call) := do
  let current ← get_resolver_anchor r removal.resolver_id_key
  let current ← okOr current ("removed resolver is absent on chain: " ++ removal.server_id)
  if current.status ≠ "REVOKED" then
    let call ← revoke_resolver_call removal.resolver_id_key
    .ok (some call)
  else
    .ok none

/-- What a step finds, and the call it still needs. -/
def PhaseStep.inspect : PhaseStep → Except String (Option Contract.Call)
  | .publish_root => inspect_root plan r
  | .active_root => inspect_active_root plan r
  | .publish_resolver entry => inspect_resolver C plan r entry
  | .published_resolver entry => inspect_published plan r entry
  | .bind_endpoint entry endpoint_key => inspect_bind r entry endpoint_key
  | .unbind_endpoint removal => inspect_unbind r removal
  | .revoke_resolver removal => inspect_revoke r removal

end Passes

/-! ## §2. Phases. -/

/-- The command `publish-root`. -/
def publish_root : List PhaseStep := [.publish_root]

/-- The command `publish-resolvers`. -/
def publish_resolvers (plan : Plan) : List PhaseStep :=
  .active_root :: plan.entries.map .publish_resolver

/-- The command `unbind-endpoints`. -/
def unbind_endpoints (plan : Plan) : List PhaseStep :=
  plan.endpoint_unbinds.map .unbind_endpoint

/-- The command `bind-endpoints`. -/
def bind_endpoints (plan : Plan) : List PhaseStep :=
  plan.entries.flatMap (fun entry =>
    .published_resolver entry :: entry.endpoint_keys.map (.bind_endpoint entry))

/-- The command `revoke-removed-resolvers`. -/
def revoke_removed_resolvers (plan : Plan) : List PhaseStep :=
  plan.resolver_revocations.map .revoke_resolver

/-- The phases in the order of a publication. -/
def phases (plan : Plan) : List (List PhaseStep) :=
  [publish_root, publish_resolvers plan, unbind_endpoints plan, bind_endpoints plan,
    revoke_removed_resolvers plan]

section Publication

variable (C : Casing) (keccak256 : String → Contract.Bytes32) (operator : Operator)

/-- The tool with a plan, against the contract. -/
def publication (plan : Plan) : Worker PhaseStep Contract.Registry String Contract.Call where
  inspect := fun step r => step.inspect C plan r
  send := transact keccak256 operator

end Publication

theorem transact_eq_ok {keccak256 : String → Contract.Bytes32} {operator : Operator} {count : Nat}
    {call : Contract.Call} {r r' : Contract.Registry} :
    transact keccak256 operator count call r = .ok r' ↔ ∃ logs, Contract.Transaction.body keccak256
      ⟨⟨operator.sender call, operator.block_timestamp count⟩, call⟩ r = .ok (logs, r') := by
  unfold transact Contract.Registry.execute transaction
  cases hbody : Contract.Transaction.body keccak256
      ⟨⟨operator.sender call, operator.block_timestamp count⟩, call⟩ r with
  | error reason =>
    constructor
    · intro h
      cases h
    · intro h
      obtain ⟨_, h⟩ := h
      cases h
  | ok result =>
    constructor
    · intro h
      exact ⟨result.1, congrArg (fun r => Except.ok (result.1, r)) (Except.ok.inj h)⟩
    · intro h
      obtain ⟨logs, h⟩ := h
      rw [Except.ok.inj h]

/-! ## §3. Entries and their anchors. -/

/-- The anchor of an entry, as it is read. -/
def PlanEntry.anchor (root : String) (entry : PlanEntry) : ResolverAnchor where
  resolver_id_key := entry.resolver_id_key
  object_hash := entry.object_hash
  state_root := root
  object_version := entry.object_version
  valid_until := entry.valid_until
  status := entry.status

/-- The anchor of an entry, as the contract keeps it. -/
def PlanEntry.slot (root : String) (entry : PlanEntry) : Contract.ResolverAnchor where
  resolver_id_key := word entry.resolver_id_key
  object_hash := word entry.object_hash
  state_root := word root
  object_version := unsigned_word entry.object_version
  valid_until := unsigned_word entry.valid_until
  status := .ACTIVE

/-- What every entry of a plan has. -/
structure PlanEntry.Shaped (entry : PlanEntry) : Prop where
  resolver_id_key : IsDigest entry.resolver_id_key
  object_hash : IsDigest entry.object_hash
  endpoint_keys : ∀ endpoint_key ∈ entry.endpoint_keys, IsDigest endpoint_key
  status : entry.status = "ACTIVE"
  object_version : 0 < entry.object_version

/-- What the contract takes of an entry: no word is zero, and the numbers are in range. -/
structure PlanEntry.Fits (entry : PlanEntry) : Prop where
  resolver_id_key : word entry.resolver_id_key ≠ 0
  object_hash : word entry.object_hash ≠ 0
  endpoint_keys : ∀ endpoint_key ∈ entry.endpoint_keys, word endpoint_key ≠ 0
  object_version : Unsigned entry.object_version
  valid_until : Unsigned entry.valid_until

section Read

variable {r : Contract.Registry} {root : String} {entry : PlanEntry}

theorem get_resolver_anchor_eq {resolver_id_key : String} (h : IsDigest resolver_id_key) :
    get_resolver_anchor r resolver_id_key =
      .ok (decode_anchor (r.resolver_anchors (word resolver_id_key))) := by
  unfold get_resolver_anchor
  rw [bytes32_of_digest h, ok_bind]

theorem get_endpoint_binding_eq {endpoint_key : String} (h : IsDigest endpoint_key) :
    get_endpoint_binding r endpoint_key =
      .ok (if r.endpoint_to_resolver_id_key (word endpoint_key) = 0 then none
        else some (normalize_bytes32 (r.endpoint_to_resolver_id_key (word endpoint_key)))) := by
  unfold get_endpoint_binding
  rw [bytes32_of_digest h, ok_bind]

theorem get_root_record_eq (h : IsDigest root) :
    get_root_record r root = .ok (decode_root (r.root_records (word root))) := by
  unfold get_root_record
  rw [bytes32_of_digest h, ok_bind]

/-- The anchor that is read is the entry's exactly if the contract keeps it. -/
theorem decode_anchor_iff (h : entry.Shaped) (hroot : IsDigest root)
    {raw : Contract.ResolverAnchor} :
    decode_anchor raw = some (entry.anchor root) ↔ raw = entry.slot root ∧
      word entry.resolver_id_key ≠ 0 ∧ Unsigned entry.object_version ∧
        Unsigned entry.valid_until := by
  unfold decode_anchor
  constructor
  · intro hread
    by_cases hzero : raw.resolver_id_key = 0
    · rw [if_pos hzero] at hread
      cases hread
    · rw [if_neg hzero, Option.some.injEq] at hread
      obtain ⟨hkey, hhash, hstate, hversion, huntil, hstatus⟩ := ResolverAnchor.mk.inj hread
      have hversion_range := unsigned_of_word raw.object_version
      have huntil_range := unsigned_of_word raw.valid_until
      rw [hversion] at hversion_range
      rw [huntil] at huntil_range
      rw [normalize_eq_iff h.resolver_id_key] at hkey
      rw [h.status] at hstatus
      refine ⟨?_, by rwa [← hkey], hversion_range, huntil_range⟩
      have hraw : raw = ⟨raw.resolver_id_key, raw.object_hash, raw.state_root, raw.object_version,
        raw.valid_until, raw.status⟩ := rfl
      rw [hraw, hkey, (normalize_eq_iff h.object_hash).mp hhash, (normalize_eq_iff hroot).mp hstate,
        (toNat_eq_iff hversion_range).mp hversion, (toNat_eq_iff huntil_range).mp huntil,
        decode_status_eq_iff.mp
          (show decode_status raw.status = decode_status .ACTIVE from hstatus)]
      rfl
  · intro hkept
    obtain ⟨heq, hkey, hversion, huntil⟩ := hkept
    rw [heq, if_neg (show (entry.slot root).resolver_id_key ≠ 0 from hkey)]
    show some (ResolverAnchor.mk (normalize_bytes32 (word entry.resolver_id_key))
      (normalize_bytes32 (word entry.object_hash)) (normalize_bytes32 (word root))
      (unsigned_word entry.object_version).toNat (unsigned_word entry.valid_until).toNat
      "ACTIVE") = _
    rw [normalize_word h.resolver_id_key, normalize_word h.object_hash, normalize_word hroot,
      unsigned_word_toNat hversion, unsigned_word_toNat huntil, ← h.status]
    rfl

/-- The binding that is read is a digest's exactly if the contract keeps it. -/
theorem get_endpoint_binding_iff {endpoint_key resolver_id_key : String}
    (hendpoint : IsDigest endpoint_key) (hkey : IsDigest resolver_id_key) :
    get_endpoint_binding r endpoint_key = .ok (some resolver_id_key) ↔
      r.endpoint_to_resolver_id_key (word endpoint_key) = word resolver_id_key ∧
        word resolver_id_key ≠ 0 := by
  rw [get_endpoint_binding_eq hendpoint, Except.ok.injEq]
  by_cases hzero : r.endpoint_to_resolver_id_key (word endpoint_key) = 0
  · rw [if_pos hzero, hzero]
    exact ⟨fun h => (nomatch h), fun h => absurd h.1.symm h.2⟩
  · rw [if_neg hzero, Option.some.injEq, normalize_eq_iff hkey]
    exact ⟨fun h => ⟨h, by rwa [← h]⟩, fun h => h.1⟩

end Read

/-! ## §4. Passes that find nothing to do, and passes that send. -/

section Inspected

variable {C : Casing} {plan : Plan} {r : Contract.Registry} {entry : PlanEntry}

/-- The record of a published root is read as it is kept. -/
theorem decode_root_eq {root : Contract.Bytes32} {record : Contract.RootRecord}
    (hstate : record.state_root = root) (hroot : root ≠ 0) :
    decode_root record = some ⟨normalize_bytes32 root, decode_status record.status,
      record.published_at.toNat, record.version.toNat⟩ := by
  unfold decode_root
  rw [hstate, if_neg hroot]

/-- `publish_root` goes through on a blank record, or on the plan's own. -/
theorem inspect_root_cases (hroot : IsDigest plan.state_root)
    (hslot : Contract.RootSlot (word plan.state_root) (r.root_records (word plan.state_root)))
    {found : Option Contract.Call} (h : inspect_root plan r = .ok found) :
    (r.root_records (word plan.state_root) = .blank ∧ found ≠ none) ∨
      (found = none ∧ (r.root_records (word plan.state_root)).status = .ACTIVE ∧
        ((r.root_records (word plan.state_root)).version.toNat : Int) = plan.root_version) := by
  unfold inspect_root at h
  rw [get_root_record_eq hroot, ok_bind] at h
  rcases hslot with hblank | ⟨hstate, hne, hstatus⟩
  · rw [hblank] at h
    obtain ⟨call, _, heq⟩ := bind_eq_ok.mp h
    refine Or.inl ⟨hblank, ?_⟩
    rw [← Except.ok.inj heq]
    exact nofun
  · right
    rw [decode_root_eq hstate hne] at h
    rcases hstatus with hactive | hrevoked
    · rw [hactive] at h ⊢
      simp only [decode_status, bind_eq_ok, exists_unit, rejectIf_eq_ok, ↓reduceIte,
        decide_eq_false_iff_not, not_not, Except.ok.injEq] at h
      exact ⟨h.2.2.symm, rfl, h.2.1⟩
    · rw [hrevoked] at h
      simp only [decode_status, bind_eq_ok, exists_unit, rejectIf_eq_ok, decide_true,
        Bool.true_eq_false, false_and] at h

theorem inspect_root_none (hroot : IsDigest plan.state_root)
    (hslot : Contract.RootSlot (word plan.state_root) (r.root_records (word plan.state_root)))
    (hstatus : (r.root_records (word plan.state_root)).status = .ACTIVE)
    (hversion : ((r.root_records (word plan.state_root)).version.toNat : Int) =
      plan.root_version) : inspect_root plan r = .ok none := by
  unfold inspect_root
  rw [get_root_record_eq hroot, ok_bind]
  rcases hslot with hblank | ⟨hstate, hne, _⟩
  · rw [hblank] at hstatus
    cases hstatus
  · rw [decode_root_eq hstate hne, hstatus, hversion]
    simp only [decode_status, bind_eq_ok, exists_unit, rejectIf_eq_ok, ↓reduceIte]
    have hstatus : ("ACTIVE" : String) ≠ "REVOKED" := by decide
    exact ⟨decide_eq_false hstatus, decide_eq_false (fun hne => hne rfl), trivial⟩

theorem inspect_root_sends (hroot : IsDigest plan.state_root)
    (hversion : Unsigned plan.root_version)
    (hblank : r.root_records (word plan.state_root) = .blank) :
    inspect_root plan r =
      .ok (some (.publish_root (word plan.state_root) (unsigned_word plan.root_version))) := by
  have hnone : decode_root .blank = none := rfl
  unfold inspect_root publish_root_call
  rw [get_root_record_eq hroot, ok_bind, hblank, hnone, bytes32_of_digest hroot,
    uint64_of_unsigned hversion]
  rfl

theorem inspect_active_root_iff (hroot : IsDigest plan.state_root) :
    inspect_active_root plan r = .ok none ↔
      (r.root_records (word plan.state_root)).status = .ACTIVE := by
  unfold inspect_active_root get_root_status
  rw [bytes32_of_digest hroot]
  simp only [ok_bind, bind_eq_ok, exists_unit, rejectIf_eq_ok, decide_eq_false_iff_not, not_not,
    and_true]
  exact decode_status_eq_iff (b := .ACTIVE)

theorem anchor_arguments_eq (h : entry.Shaped) (hfits : entry.Fits) {root : String}
    (hroot : IsDigest root) :
    anchor_arguments C entry.resolver_id_key entry.object_hash root entry.object_version
      entry.valid_until entry.status = .ok (entry.slot root) := by
  have hascii : IsAscii "ACTIVE" := by
    have hall : "ACTIVE".toList.all (fun c => c.toNat < 128) = true := by decide
    intro c hc
    exact of_decide_eq_true (List.all_eq_true.mp hall c hc)
  have hstatus : encode_status C "ACTIVE" = .ok .ACTIVE := by
    unfold encode_status
    rw [C.upper_ascii _ hascii]
    rfl
  unfold anchor_arguments
  rw [h.status, bytes32_of_digest h.resolver_id_key, bytes32_of_digest h.object_hash,
    bytes32_of_digest hroot, uint64_of_unsigned hfits.object_version,
    uint64_of_unsigned hfits.valid_until, hstatus]
  rfl

/-- `publish_resolvers` goes on exactly from the entry's own anchor. -/
theorem inspect_resolver_iff (h : entry.Shaped)
    (hslot : Contract.AnchorSlot (word entry.resolver_id_key)
      (r.resolver_anchors (word entry.resolver_id_key))) :
    inspect_resolver C plan r entry = .ok none ↔
      get_resolver_anchor r entry.resolver_id_key = .ok (some (entry.anchor plan.state_root)) := by
  unfold inspect_resolver
  rw [get_resolver_anchor_eq h.resolver_id_key, ok_bind, Except.ok.injEq]
  cases hread : decode_anchor (r.resolver_anchors (word entry.resolver_id_key)) with
  | none =>
    constructor
    · intro hnone
      obtain ⟨_, _, heq⟩ := bind_eq_ok.mp hnone
      cases heq
    · intro hsome
      cases hsome
  | some current =>
    -- an anchor in a slot is under the key of the slot
    have hkey : current.resolver_id_key = entry.resolver_id_key := by
      unfold decode_anchor at hread
      by_cases hzero : (r.resolver_anchors (word entry.resolver_id_key)).resolver_id_key = 0
      · rw [if_pos hzero] at hread
        cases hread
      · rw [if_neg hzero] at hread
        rw [← Option.some.inj hread]
        rcases hslot with hblank | ⟨hsame, _⟩
        · rw [hblank] at hzero
          exact absurd rfl hzero
        · exact (normalize_eq_iff h.resolver_id_key).mpr hsame
    rw [Option.some.injEq]
    show (if current.object_version < entry.object_version then _ else _) = _ ↔ _
    -- older than the plan: it has to be updated
    by_cases holder : current.object_version < entry.object_version
    · rw [if_pos holder]
      constructor
      · intro hnone
        obtain ⟨_, _, heq⟩ := bind_eq_ok.mp hnone
        cases heq
      · intro heq
        rw [heq] at holder
        exact absurd holder (lt_irrefl _)
    · -- not older: it has to be the plan's in every field
      rw [if_neg holder]
      simp only [bind_eq_ok, exists_unit, rejectIf_eq_ok, Bool.or_eq_false_iff,
        decide_eq_false_iff_not, not_not, and_true]
      constructor
      · intro hall
        obtain ⟨⟨⟨⟨hversion, hhash⟩, hroot⟩, huntil⟩, hstatus⟩ := hall
        cases current
        unfold PlanEntry.anchor
        rw [ResolverAnchor.mk.injEq]
        exact ⟨hkey, hhash, hroot, hversion, huntil, hstatus⟩
      · intro heq
        rw [heq]
        exact ⟨⟨⟨⟨rfl, rfl⟩, rfl⟩, rfl⟩, rfl⟩

theorem inspect_resolver_publishes (h : entry.Shaped) (hfits : entry.Fits)
    (hroot : IsDigest plan.state_root)
    (hblank : r.resolver_anchors (word entry.resolver_id_key) = .blank) :
    inspect_resolver C plan r entry =
      .ok (some (.publish_resolver (entry.slot plan.state_root))) := by
  have hnone : decode_anchor .blank = none := rfl
  unfold inspect_resolver
  rw [get_resolver_anchor_eq h.resolver_id_key, ok_bind, hblank, hnone,
    anchor_arguments_eq h hfits hroot]
  rfl

theorem inspect_resolver_updates (h : entry.Shaped) (hfits : entry.Fits)
    (hroot : IsDigest plan.state_root)
    (hkey : (r.resolver_anchors (word entry.resolver_id_key)).resolver_id_key ≠ 0)
    (holder : ((r.resolver_anchors (word entry.resolver_id_key)).object_version.toNat : Int) <
      entry.object_version) :
    inspect_resolver C plan r entry =
      .ok (some (.update_resolver (entry.slot plan.state_root))) := by
  unfold inspect_resolver
  rw [get_resolver_anchor_eq h.resolver_id_key, ok_bind, anchor_arguments_eq h hfits hroot]
  unfold decode_anchor
  rw [if_neg hkey]
  show (if _ < entry.object_version then _ else _) = _
  rw [if_pos holder]
  rfl

/-- `bind_endpoints` takes an entry whose anchor is there. -/
theorem inspect_published_none (h : entry.Shaped)
    (hread : get_resolver_anchor r entry.resolver_id_key =
      .ok (some (entry.anchor plan.state_root))) :
    inspect_published plan r entry = .ok none := by
  unfold inspect_published
  rw [hread]
  simp only [ok_bind, okOr, bind_eq_ok, exists_unit, rejectIf_eq_ok, PlanEntry.anchor, h.status,
    ne_eq, not_true_eq_false, decide_false, Bool.or_self, and_self]

theorem inspect_bind_iff {endpoint_key : String} (h : entry.Shaped)
    (hendpoint : endpoint_key ∈ entry.endpoint_keys) :
    inspect_bind r entry endpoint_key = .ok none ↔
      get_endpoint_binding r endpoint_key = .ok (some entry.resolver_id_key) := by
  unfold inspect_bind
  rw [get_endpoint_binding_eq (h.endpoint_keys _ hendpoint), ok_bind, Except.ok.injEq]
  by_cases hzero : r.endpoint_to_resolver_id_key (word endpoint_key) = 0
  · rw [if_pos hzero]
    constructor
    · intro hnone
      obtain ⟨_, _, heq⟩ := bind_eq_ok.mp hnone
      cases heq
    · intro hsome
      cases hsome
  · rw [if_neg hzero]
    simp only [bind_eq_ok, exists_unit, rejectIf_eq_ok, decide_eq_false_iff_not, not_not, and_true,
      Option.some.injEq]

theorem inspect_bind_sends {endpoint_key : String} (h : entry.Shaped)
    (hendpoint : endpoint_key ∈ entry.endpoint_keys)
    (hfree : r.endpoint_to_resolver_id_key (word endpoint_key) = 0) :
    inspect_bind r entry endpoint_key =
      .ok (some (.bind_endpoint (word endpoint_key) (word entry.resolver_id_key))) := by
  unfold inspect_bind bind_endpoint_call
  rw [get_endpoint_binding_eq (h.endpoint_keys _ hendpoint), ok_bind, if_pos hfree,
    bytes32_of_digest (h.endpoint_keys _ hendpoint), bytes32_of_digest h.resolver_id_key]
  rfl

theorem inspect_unbind_iff {removal : EndpointUnbind} (hendpoint : IsDigest removal.endpoint_key) :
    inspect_unbind r removal = .ok none ↔
      r.endpoint_to_resolver_id_key (word removal.endpoint_key) = 0 := by
  unfold inspect_unbind
  rw [get_endpoint_binding_eq hendpoint, ok_bind]
  by_cases hzero : r.endpoint_to_resolver_id_key (word removal.endpoint_key) = 0
  · rw [if_pos hzero]
    exact ⟨fun _ => hzero, fun _ => rfl⟩
  · rw [if_neg hzero]
    constructor
    · intro hnone
      obtain ⟨_, _, hnone⟩ := bind_eq_ok.mp hnone
      obtain ⟨_, _, heq⟩ := bind_eq_ok.mp hnone
      cases heq
    · intro h
      exact absurd h hzero

theorem inspect_unbind_sends {removal : EndpointUnbind} (hendpoint : IsDigest removal.endpoint_key)
    (hkey : IsDigest removal.resolver_id_key) (hne : word removal.resolver_id_key ≠ 0)
    (hbound : r.endpoint_to_resolver_id_key (word removal.endpoint_key) =
      word removal.resolver_id_key) :
    inspect_unbind r removal = .ok (some (.unbind_endpoint (word removal.endpoint_key))) := by
  unfold inspect_unbind unbind_endpoint_call
  rw [get_endpoint_binding_eq hendpoint, ok_bind, hbound, if_neg hne, normalize_word hkey,
    bytes32_of_digest hendpoint]
  simp only [ok_bind, bind_eq_ok, exists_unit, rejectIf_eq_ok, decide_eq_false_iff_not, not_not,
    and_true]

theorem inspect_revoke_iff {removal : ResolverRevocation}
    (hkey : IsDigest removal.resolver_id_key) :
    inspect_revoke r removal = .ok none ↔
      (r.resolver_anchors (word removal.resolver_id_key)).resolver_id_key ≠ 0 ∧
        (r.resolver_anchors (word removal.resolver_id_key)).status = .REVOKED := by
  unfold inspect_revoke
  rw [get_resolver_anchor_eq hkey, ok_bind]
  unfold decode_anchor
  by_cases hzero : (r.resolver_anchors (word removal.resolver_id_key)).resolver_id_key = 0
  · rw [if_pos hzero]
    exact ⟨fun h => (nomatch h), fun h => absurd hzero h.1⟩
  · rw [if_neg hzero]
    by_cases hstatus : (r.resolver_anchors (word removal.resolver_id_key)).status = .REVOKED
    · rw [hstatus]
      exact ⟨fun _ => ⟨hzero, rfl⟩, fun _ => rfl⟩
    · have hread : decode_status (r.resolver_anchors (word removal.resolver_id_key)).status ≠
          "REVOKED" := fun h => hstatus (decode_status_eq_iff.mp
            (show decode_status _ = decode_status .REVOKED from h))
      simp only [okOr, ok_bind, if_pos hread]
      constructor
      · intro hnone
        obtain ⟨_, _, heq⟩ := bind_eq_ok.mp hnone
        cases heq
      · intro h
        exact absurd h.2 hstatus

theorem inspect_revoke_sends {removal : ResolverRevocation}
    (hkey : IsDigest removal.resolver_id_key)
    (hexists : (r.resolver_anchors (word removal.resolver_id_key)).resolver_id_key ≠ 0)
    (hstatus : (r.resolver_anchors (word removal.resolver_id_key)).status ≠ .REVOKED) :
    inspect_revoke r removal = .ok (some (.revoke_resolver (word removal.resolver_id_key))) := by
  have hread : decode_status (r.resolver_anchors (word removal.resolver_id_key)).status ≠
      "REVOKED" := fun h => hstatus (decode_status_eq_iff.mp
        (show decode_status _ = decode_status .REVOKED from h))
  unfold inspect_revoke revoke_resolver_call
  rw [get_resolver_anchor_eq hkey, ok_bind]
  unfold decode_anchor
  rw [if_neg hexists]
  simp only [okOr, ok_bind, if_pos hread, bytes32_of_digest hkey]

end Inspected

end ResolverIdentity.Publisher
