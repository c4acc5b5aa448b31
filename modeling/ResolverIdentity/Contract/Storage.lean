/-
  ResolverIdentity.Contract.Storage: what is stored, and which calls are accepted.

  A slot of a mapping is blank or holds what an accepted call put there, under its own
  key.  The other way round, a call whose checks hold is accepted.

  Main results:
    * `Stored.after`: every slot of a reachable storage is blank or its own;
    * `Unmoved.step`: an anchor keeps its root while it keeps its version;
    * `publish_root_accepted` … `unbind_endpoint_accepted`: calls whose checks hold.
-/
import ResolverIdentity.Contract.Lifecycle

namespace ResolverIdentity.Contract

open Library Registry

variable {keccak256 : String → Bytes32} {r r' : Registry} {msg : Message} {logs : List Event}

/-! ## §1. Slots. -/

/-- What empty slots decode to. -/
def ResolverAnchor.blank : ResolverAnchor := ⟨0, 0, 0, 0, 0, .UNKNOWN⟩

/-- What empty slots decode to. -/
def RootRecord.blank : RootRecord := ⟨0, .UNKNOWN, 0, 0⟩

/-- An anchor slot is blank, or what it holds was published under its key. -/
def AnchorSlot (key : Bytes32) (anchor : ResolverAnchor) : Prop :=
  anchor = .blank ∨ (anchor.resolver_id_key = key ∧ key ≠ 0 ∧ anchor.object_hash ≠ 0 ∧
    anchor.object_version ≠ 0)

/-- A root slot is blank, or its root was published and may have been revoked. -/
def RootSlot (root : Bytes32) (record : RootRecord) : Prop :=
  record = .blank ∨ (record.state_root = root ∧ root ≠ 0 ∧
    (record.status = .ACTIVE ∨ record.status = .REVOKED))

/-- Every slot holds what its key says, or nothing. -/
structure Stored (r : Registry) : Prop where
  anchors : ∀ key, AnchorSlot key (r.resolver_anchors key)
  roots : ∀ root, RootSlot root (r.root_records root)
  endpoints : r.endpoint_to_resolver_id_key 0 = 0

/-- What `_validateAnchorInput` checks. -/
theorem validate_anchor_input_iff {anchor : ResolverAnchor} :
    validate_anchor_input anchor msg r = .ok () ↔ anchor.resolver_id_key ≠ 0 ∧
      anchor.object_hash ≠ 0 ∧ anchor.state_root ≠ 0 ∧ 0 < anchor.object_version ∧
        msg.block_timestamp < anchor.valid_until.setWidth 256 ∧
          (anchor.status = .ACTIVE ∨ anchor.status = .SUSPENDED) ∧
            (r.root_records anchor.state_root).status = .ACTIVE := by
  simp only [validate_anchor_input, bind_eq_ok, exists_unit, require_eq_ok, bne_iff_ne,
    decide_eq_true_eq, Bool.or_eq_true, beq_iff_eq]

/-- One slot is written and fits, the others are kept. -/
theorem slots_update {α : Type} {f : Bytes32 → α} {Fits : Bytes32 → α → Prop} {key : Bytes32}
    {value : α} (h : ∀ key, Fits key (f key)) (hvalue : Fits key value) :
    ∀ other, Fits other (Function.update f key value other) := by
  intro other
  by_cases hother : other = key
  · rw [hother, Function.update_self]
    exact hvalue
  · rw [Function.update_of_ne hother]
    exact h other

theorem anchor_slot_of_validated {anchor : ResolverAnchor}
    (h : validate_anchor_input anchor msg r = .ok ()) :
    AnchorSlot anchor.resolver_id_key anchor := by
  obtain ⟨hkey, hhash, _, hversion, _⟩ := validate_anchor_input_iff.mp h
  exact Or.inr ⟨rfl, hkey, hhash, ne_zero_of_lt hversion⟩

/-- A call leaves the slots so. -/
theorem Stored.body {tx : Transaction} (h : Stored r)
    (hbody : tx.body keccak256 r = .ok (logs, r')) : Stored r' := by
  obtain ⟨msg, call⟩ := tx
  cases call with
  | grant_role role account =>
    rcases add_role_eq_ok (grant_role_eq_ok hbody).2 with ⟨_, heq⟩ | ⟨_, count, _, _, heq⟩
    · rw [heq]
      exact h
    · rw [heq]
      exact { h with }
  | revoke_role role account =>
    obtain ⟨_, _, count, _, _, heq⟩ := revoke_role_eq_ok hbody
    rw [heq]
    exact { h with }
  | publish_root state_root version =>
    obtain ⟨_, _, _, heq⟩ := publish_root_eq_ok hbody
    have hroot : state_root ≠ 0 := by
      simp only [Transaction.body, Registry.publish_root, only_role, bind_eq_ok, exists_unit,
        require_eq_ok, bne_iff_ne] at hbody
      exact hbody.2.1
    rw [heq]
    exact { h with roots := slots_update h.roots (Or.inr ⟨rfl, hroot, Or.inl rfl⟩) }
  | revoke_root state_root =>
    obtain ⟨_, heq⟩ := revoke_root_eq_ok hbody
    -- a root that is revoked was published
    have hexists : (r.root_records state_root).state_root ≠ 0 := by
      simp only [Transaction.body, Registry.revoke_root, only_role, bind_eq_ok, exists_unit,
        require_eq_ok, bne_iff_ne] at hbody
      exact hbody.2.1
    have hslot : RootSlot state_root { r.root_records state_root with status := .REVOKED } := by
      rcases h.roots state_root with hblank | ⟨hsame, hroot, _⟩
      · rw [hblank] at hexists
        exact absurd rfl hexists
      · exact Or.inr ⟨hsame, hroot, Or.inr rfl⟩
    rw [heq]
    exact { h with roots := slots_update h.roots hslot }
  | publish_resolver anchor =>
    obtain ⟨_, hvalid, _, heq⟩ := publish_resolver_eq_ok hbody
    rw [heq]
    exact { h with anchors := slots_update h.anchors (anchor_slot_of_validated hvalid) }
  | update_resolver anchor =>
    obtain ⟨_, hvalid, _, _, heq⟩ := update_resolver_eq_ok hbody
    rw [heq]
    exact { h with anchors := slots_update h.anchors (anchor_slot_of_validated hvalid) }
  | revoke_resolver resolver_id_key =>
    obtain ⟨_, hexists, heq⟩ := revoke_resolver_eq_ok hbody
    have hslot : AnchorSlot resolver_id_key
        { r.resolver_anchors resolver_id_key with status := .REVOKED } := by
      rcases h.anchors resolver_id_key with hblank | hheld
      · rw [hblank] at hexists
        exact absurd rfl hexists
      · exact Or.inr hheld
    rw [heq]
    exact { h with anchors := slots_update h.anchors hslot }
  | bind_endpoint endpoint_key resolver_id_key =>
    obtain ⟨_, _, _, heq⟩ := bind_endpoint_eq_ok hbody
    -- the zero slot is never bound
    have hendpoint : endpoint_key ≠ 0 := by
      simp only [Transaction.body, Registry.bind_endpoint, only_role, bind_eq_ok, exists_unit,
        require_eq_ok, bne_iff_ne] at hbody
      exact hbody.2.1
    rw [heq]
    refine { h with endpoints := ?_ }
    show Function.update r.endpoint_to_resolver_id_key endpoint_key resolver_id_key 0 = 0
    rw [Function.update_of_ne hendpoint.symm]
    exact h.endpoints
  | unbind_endpoint endpoint_key =>
    obtain ⟨_, heq⟩ := unbind_endpoint_eq_ok hbody
    rw [heq]
    refine { h with endpoints := ?_ }
    show Function.update r.endpoint_to_resolver_id_key endpoint_key 0 0 = 0
    by_cases hzero : (0 : Bytes32) = endpoint_key
    · rw [hzero, Function.update_self]
    · rw [Function.update_of_ne hzero]
      exact h.endpoints

/-- The slots of a new registry are blank. -/
theorem Stored.blank : Stored Registry.blank :=
  ⟨fun _ => Or.inl rfl, fun _ => Or.inl rfl, rfl⟩

/-- The constructor writes no slot but those of the roles. -/
theorem Stored.construct {initial_admin : Address}
    (h : Registry.construct keccak256 initial_admin msg = .ok (logs, r)) : Stored r := by
  have add : ∀ {role account msg logs} {r r' : Registry},
      add_role role account msg r = .ok (logs, r') → Stored r → Stored r' := by
    intro role account msg logs r r' hadd hr
    rcases add_role_eq_ok hadd with ⟨_, rfl⟩ | ⟨_, count, _, _, rfl⟩
    · exact hr
    · exact { hr with }
  simp only [Registry.construct, bind_eq_ok, exists_unit, Prod.exists, pure_eq_ok,
    Except.ok.injEq, Prod.mk.injEq] at h
  obtain ⟨_, _, r₁, h₁, _, r₂, h₂, _, r₃, h₃, _, r₄, h₄, _, r₅, h₅, _, rfl⟩ := h
  exact add h₅ (add h₄ (add h₃ (add h₂ (add h₁ Stored.blank))))

/-- The slots of every reachable registry. -/
theorem Stored.after (h : Stored r) (txs : List Transaction) : Stored (r.after keccak256 txs) :=
  after_keeps h (fun _ _ _ _ hr hbody => hr.body hbody) txs

/-- An anchor keeps its root while it keeps its version. -/
structure Unmoved (old new : ResolverAnchor) : Prop where
  version : old.object_version ≤ new.object_version
  state_root : new.object_version = old.object_version → new.state_root = old.state_root

/-- An anchor has not moved from itself. -/
theorem Unmoved.refl (anchor : ResolverAnchor) : Unmoved anchor anchor :=
  ⟨BitVec.le_refl _, fun _ => rfl⟩

/-- One more step of an anchor. -/
theorem Unmoved.step {first old new : ResolverAnchor} (h : Unmoved first old)
    (hstep : AnchorStep old new) : Unmoved first new := by
  cases hstep with
  | kept heq =>
    rw [heq]
    exact h
  | revoked _ heq =>
    rw [heq]
    exact ⟨h.version, h.state_root⟩
  | stored _ hversion =>
    have hlater : first.object_version < new.object_version := by
      have hversion' := h.version
      rw [BitVec.le_def] at hversion'
      rw [BitVec.lt_def] at hversion ⊢
      omega
    refine ⟨BitVec.le_of_lt hlater, ?_⟩
    intro hsame
    rw [hsame] at hlater
    exact absurd hlater (BitVec.lt_irrefl _)

/-! ## §2. Accepted calls. -/

/-- When a root can be published. -/
theorem publish_root_accepted {state_root : Bytes32} {version : Uint64}
    (hrole : r.has_role (ROOT_PUBLISHER_ROLE keccak256) msg.sender = true) (hroot : state_root ≠ 0)
    (hstatus : (r.root_records state_root).status ≠ .REVOKED)
    (hversion : (r.root_records state_root).version < version) :
    ∃ logs, Registry.publish_root keccak256 state_root version msg r = .ok (logs, { r with
      root_records := Function.update r.root_records state_root
        ⟨state_root, .ACTIVE, msg.block_timestamp.setWidth 64, version⟩ }) := by
  simp only [Registry.publish_root, only_role, bind_eq_ok, exists_unit, require_eq_ok, bne_iff_ne,
    decide_eq_true_eq]
  exact ⟨_, hrole, hroot, hstatus, hversion, rfl⟩

/-- When an anchor can be published. -/
theorem publish_resolver_accepted {anchor : ResolverAnchor}
    (hrole : r.has_role (RESOLVER_PUBLISHER_ROLE keccak256) msg.sender = true)
    (hvalid : validate_anchor_input anchor msg r = .ok ())
    (hfree : (r.resolver_anchors anchor.resolver_id_key).object_version = 0) :
    ∃ logs, Registry.publish_resolver keccak256 anchor msg r = .ok (logs, { r with
      resolver_anchors := Function.update r.resolver_anchors anchor.resolver_id_key anchor }) := by
  simp only [Registry.publish_resolver, only_role, bind_eq_ok, exists_unit, require_eq_ok,
    beq_iff_eq]
  exact ⟨_, hrole, hvalid, hfree, rfl⟩

/-- When an anchor can be updated. -/
theorem update_resolver_accepted {anchor : ResolverAnchor}
    (hrole : r.has_role (RESOLVER_PUBLISHER_ROLE keccak256) msg.sender = true)
    (hvalid : validate_anchor_input anchor msg r = .ok ())
    (hexists : (r.resolver_anchors anchor.resolver_id_key).object_version ≠ 0)
    (hstatus : (r.resolver_anchors anchor.resolver_id_key).status ≠ .REVOKED)
    (hversion :
      (r.resolver_anchors anchor.resolver_id_key).object_version < anchor.object_version) :
    ∃ logs, Registry.update_resolver keccak256 anchor msg r = .ok (logs, { r with
      resolver_anchors := Function.update r.resolver_anchors anchor.resolver_id_key anchor }) := by
  simp only [Registry.update_resolver, only_role, bind_eq_ok, exists_unit, require_eq_ok,
    bne_iff_ne, decide_eq_true_eq]
  exact ⟨_, hrole, hvalid, hexists, hstatus, hversion, rfl⟩

/-- When an anchor can be revoked. -/
theorem revoke_resolver_accepted {resolver_id_key : Bytes32}
    (hrole : r.has_role (REVOKER_ROLE keccak256) msg.sender = true) (hkey : resolver_id_key ≠ 0)
    (hexists : (r.resolver_anchors resolver_id_key).object_version ≠ 0) :
    ∃ logs, Registry.revoke_resolver keccak256 resolver_id_key msg r = .ok (logs, { r with
      resolver_anchors := Function.update r.resolver_anchors resolver_id_key
        { r.resolver_anchors resolver_id_key with status := .REVOKED } }) := by
  simp only [Registry.revoke_resolver, only_role, bind_eq_ok, exists_unit, require_eq_ok,
    bne_iff_ne]
  exact ⟨_, hrole, hkey, hexists, rfl⟩

/-- When an endpoint can be bound. -/
theorem bind_endpoint_accepted {endpoint_key resolver_id_key : Bytes32}
    (hrole : r.has_role (ENDPOINT_MANAGER_ROLE keccak256) msg.sender = true)
    (hendpoint : endpoint_key ≠ 0) (hkey : resolver_id_key ≠ 0)
    (hexists : (r.resolver_anchors resolver_id_key).object_version ≠ 0)
    (hstatus : (r.resolver_anchors resolver_id_key).status = .ACTIVE)
    (huntil : msg.block_timestamp < (r.resolver_anchors resolver_id_key).valid_until.setWidth 256)
    (hfree : r.endpoint_to_resolver_id_key endpoint_key = 0) :
    ∃ logs, Registry.bind_endpoint keccak256 endpoint_key resolver_id_key msg r =
      .ok (logs, { r with
        endpoint_to_resolver_id_key :=
          Function.update r.endpoint_to_resolver_id_key endpoint_key resolver_id_key }) := by
  simp only [Registry.bind_endpoint, only_role, bind_eq_ok, exists_unit, require_eq_ok,
    bne_iff_ne, Bool.or_eq_true, beq_iff_eq, decide_eq_true_eq]
  exact ⟨_, hrole, hendpoint, hkey, hexists, Or.inl hstatus, huntil, Or.inl hfree, rfl⟩

/-- When an endpoint can be unbound. -/
theorem unbind_endpoint_accepted {endpoint_key : Bytes32}
    (hrole : r.has_role (ENDPOINT_MANAGER_ROLE keccak256) msg.sender = true)
    (hendpoint : endpoint_key ≠ 0) (hbound : r.endpoint_to_resolver_id_key endpoint_key ≠ 0) :
    ∃ logs, Registry.unbind_endpoint keccak256 endpoint_key msg r = .ok (logs, { r with
      endpoint_to_resolver_id_key :=
        Function.update r.endpoint_to_resolver_id_key endpoint_key 0 }) := by
  simp only [Registry.unbind_endpoint, only_role, bind_eq_ok, exists_unit, require_eq_ok,
    bne_iff_ne]
  exact ⟨_, hrole, hendpoint, hbound, rfl⟩

end ResolverIdentity.Contract
