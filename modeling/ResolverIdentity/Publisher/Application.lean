/-
  ResolverIdentity.Publisher.Application: when a plan gets applied.

  The phases of `tools/manage_v2_registry.py` over a storage that holds the plan before.
  They remember nothing: what is done is seen in the storage, and what a later phase writes
  must not undo what an earlier one looks for.

  Main results:
    * `Underway`: what the storage is between the two plans;
    * `advances_of_applicable`: every pass goes through and undoes none before it;
    * `described_of_settled`: what is left when nothing is left to do;
    * `Setting.applied`: an applicable plan gets applied, with phases that may be repeated;
    * `applicable_of_applied`: no other plan does.
-/
import ResolverIdentity.Publisher.Succession

namespace ResolverIdentity.Publisher

open Library Json Sync V1 Agent

/-! ## §1. Plans that get applied. -/

/-- The condition, on the plan, the entries before it and the storage it starts from. -/
structure Applicable (earlier : List PlanEntry) (plan : Plan) (r : Contract.Registry) : Prop where
  root : get_root_record r plan.state_root = .ok none ∨ RootPublished plan r
  state_root : word plan.state_root ≠ 0
  root_version : Unsigned plan.root_version
  entries : ∀ entry ∈ plan.entries, entry.Fits
  raised : ∀ previous ∈ earlier, ∀ entry ∈ plan.entries,
    previous.server_id = entry.server_id → previous.object_version < entry.object_version
  unmoved : ∀ previous ∈ earlier, ∀ entry ∈ plan.entries, ∀ endpoint_key ∈ previous.endpoint_keys,
    endpoint_key ∈ entry.endpoint_keys → previous.server_id = entry.server_id
  one_anchor : ∀ entry ∈ plan.entries, ∀ other ∈ plan.entries,
    entry.resolver_id_key = other.resolver_id_key → entry.object_hash = other.object_hash ∧
      entry.object_version = other.object_version ∧ entry.valid_until = other.valid_until
  kept_keys : ∀ removal ∈ plan.resolver_revocations, ∀ entry ∈ plan.entries,
    removal.resolver_id_key ≠ entry.resolver_id_key

/-- The signers hold their roles. -/
structure Operator.Authorized (operator : Operator) (keccak256 : String → Contract.Bytes32)
    (r : Contract.Registry) : Prop where
  root_publisher :
    r.has_role (Contract.ROOT_PUBLISHER_ROLE keccak256) operator.root_publisher = true
  resolver_publisher :
    r.has_role (Contract.RESOLVER_PUBLISHER_ROLE keccak256) operator.resolver_publisher = true
  endpoint_manager :
    r.has_role (Contract.ENDPOINT_MANAGER_ROLE keccak256) operator.endpoint_manager = true
  revoker : r.has_role (Contract.REVOKER_ROLE keccak256) operator.revoker = true

/-- What a publication starts from, beside the plans. -/
structure Ready (keccak256 : String → Contract.Bytes32) (operator : Operator) (plan : Plan)
    (r : Contract.Registry) : Prop where
  stored : Contract.Stored r
  authorized : operator.Authorized keccak256 r
  unexpired : ∀ count, ∀ entry ∈ plan.entries,
    ((operator.block_timestamp count).toNat : Int) < entry.valid_until
  fresh : ∀ entry ∈ plan.entries,
    (r.resolver_anchors (word entry.resolver_id_key)).status ≠ .REVOKED

/-- Every pass is about something in the plan. -/
def PhaseStep.Planned (plan : Plan) : PhaseStep → Prop
  | .publish_root | .active_root => True
  | .publish_resolver entry | .published_resolver entry => entry ∈ plan.entries
  | .bind_endpoint entry endpoint_key => entry ∈ plan.entries ∧ endpoint_key ∈ entry.endpoint_keys
  | .unbind_endpoint removal => removal ∈ plan.endpoint_unbinds
  | .revoke_resolver removal => removal ∈ plan.resolver_revocations

theorem planned_of_mem {plan : Plan} {step : PhaseStep} (h : step ∈ (phases plan).flatten) :
    step.Planned plan := by
  obtain ⟨phase, hphase, hstep⟩ := List.mem_flatten.mp h
  simp only [phases, List.mem_cons, List.not_mem_nil, or_false] at hphase
  rcases hphase with heq | heq | heq | heq | heq
  · rw [heq] at hstep
    rw [List.mem_singleton.mp hstep]
    trivial
  · rw [heq] at hstep
    rcases List.mem_cons.mp hstep with heq | hstep
    · rw [heq]
      trivial
    · obtain ⟨entry, hentry, heq⟩ := List.mem_map.mp hstep
      rw [← heq]
      exact hentry
  · rw [heq] at hstep
    obtain ⟨removal, hremoval, heq⟩ := List.mem_map.mp hstep
    rw [← heq]
    exact hremoval
  · rw [heq] at hstep
    obtain ⟨entry, hentry, hstep⟩ := List.mem_flatMap.mp hstep
    rcases List.mem_cons.mp hstep with heq | hstep
    · rw [heq]
      exact hentry
    · obtain ⟨endpoint_key, hendpoint, heq⟩ := List.mem_map.mp hstep
      rw [← heq]
      exact ⟨hentry, hendpoint⟩
  · rw [heq] at hstep
    obtain ⟨removal, hremoval, heq⟩ := List.mem_map.mp hstep
    rw [← heq]
    exact hremoval

/-! ## §2. Between the two plans. -/

/-- Every slot is as it was, or as the plan has it. -/
structure Underway (plan : Plan) (start r : Contract.Registry) : Prop where
  stored : Contract.Stored r
  roles : r.roles = start.roles
  root : r.root_records (word plan.state_root) = .blank ∨
    ((r.root_records (word plan.state_root)).status = .ACTIVE ∧
      ((r.root_records (word plan.state_root)).version.toNat : Int) = plan.root_version)
  other_roots : ∀ root, root ≠ word plan.state_root →
    r.root_records root = start.root_records root
  anchors : ∀ key, r.resolver_anchors key = start.resolver_anchors key ∨
    (∃ entry ∈ plan.entries, word entry.resolver_id_key = key ∧
      r.resolver_anchors key = entry.slot plan.state_root) ∨
    ∃ removal ∈ plan.resolver_revocations, word removal.resolver_id_key = key ∧
      r.resolver_anchors key = { start.resolver_anchors key with status := .REVOKED }
  endpoints : ∀ key, r.endpoint_to_resolver_id_key key = start.endpoint_to_resolver_id_key key ∨
    r.endpoint_to_resolver_id_key key = 0 ∨
    ∃ entry ∈ plan.entries, ∃ endpoint_key ∈ entry.endpoint_keys, word endpoint_key = key ∧
      r.endpoint_to_resolver_id_key key = word entry.resolver_id_key

/-- What a pass inspects, it inspects in the slots it is about. -/
theorem inspect_congr {C : Casing} {plan : Plan} {r r' : Contract.Registry} {step : PhaseStep}
    (hroot : step = .publish_root ∨ step = .active_root → r'.root_records = r.root_records)
    (hanchor : ∀ entry, step = .publish_resolver entry ∨ step = .published_resolver entry →
      get_resolver_anchor r' entry.resolver_id_key = get_resolver_anchor r entry.resolver_id_key)
    (hrevoked : ∀ removal, step = .revoke_resolver removal →
      get_resolver_anchor r' removal.resolver_id_key =
        get_resolver_anchor r removal.resolver_id_key)
    (hbound : ∀ entry endpoint_key, step = .bind_endpoint entry endpoint_key →
      get_endpoint_binding r' endpoint_key = get_endpoint_binding r endpoint_key)
    (hunbound : ∀ removal, step = .unbind_endpoint removal →
      get_endpoint_binding r' removal.endpoint_key = get_endpoint_binding r removal.endpoint_key) :
    step.inspect C plan r' = step.inspect C plan r := by
  cases step with
  | publish_root =>
    show inspect_root plan r' = inspect_root plan r
    unfold inspect_root get_root_record
    rw [hroot (Or.inl rfl)]
  | active_root =>
    show inspect_active_root plan r' = inspect_active_root plan r
    unfold inspect_active_root get_root_status
    rw [hroot (Or.inr rfl)]
  | publish_resolver entry =>
    show inspect_resolver C plan r' entry = inspect_resolver C plan r entry
    unfold inspect_resolver
    rw [hanchor entry (Or.inl rfl)]
  | published_resolver entry =>
    show inspect_published plan r' entry = inspect_published plan r entry
    unfold inspect_published
    rw [hanchor entry (Or.inr rfl)]
  | bind_endpoint entry endpoint_key =>
    show inspect_bind r' entry endpoint_key = inspect_bind r entry endpoint_key
    unfold inspect_bind
    rw [hbound entry endpoint_key rfl]
  | unbind_endpoint removal =>
    show inspect_unbind r' removal = inspect_unbind r removal
    unfold inspect_unbind
    rw [hunbound removal rfl]
  | revoke_resolver removal =>
    show inspect_revoke r' removal = inspect_revoke r removal
    unfold inspect_revoke
    rw [hrevoked removal rfl]

/-- A storage with one anchor written. -/
abbrev with_anchor (r : Contract.Registry) (key : Contract.Bytes32)
    (anchor : Contract.ResolverAnchor) : Contract.Registry :=
  { r with resolver_anchors := Function.update r.resolver_anchors key anchor }

/-- A storage with one binding written. -/
abbrev with_endpoint (r : Contract.Registry) (key bound : Contract.Bytes32) : Contract.Registry :=
  { r with endpoint_to_resolver_id_key := Function.update r.endpoint_to_resolver_id_key key bound }

/-- A storage with one root written. -/
abbrev with_root (r : Contract.Registry) (root : Contract.Bytes32)
    (record : Contract.RootRecord) : Contract.Registry :=
  { r with root_records := Function.update r.root_records root record }

theorem stored_of_transact {keccak256 : String → Contract.Bytes32} {operator : Operator}
    {count : Nat} {call : Contract.Call} {r r' : Contract.Registry} (hr : Contract.Stored r)
    (h : transact keccak256 operator count call r = .ok r') : Contract.Stored r' := by
  obtain ⟨logs, hbody⟩ := transact_eq_ok.mp h
  exact hr.body hbody

section Kept

variable {C : Casing} {plan : Plan} {r : Contract.Registry} {step : PhaseStep}
variable {key : Contract.Bytes32}

/-- A pass stays settled under the write of an anchor that is the one it looks for. -/
theorem settled_of_anchor {anchor : Contract.ResolverAnchor} (hroot : IsDigest plan.state_root)
    (hshaped : ∀ entry ∈ plan.entries, entry.Shaped) (hfits : ∀ entry ∈ plan.entries, entry.Fits)
    (hdigests : ∀ removal ∈ plan.resolver_revocations, IsDigest removal.resolver_id_key)
    (hstored : Contract.Stored (with_anchor r key anchor))
    (hentries : ∀ entry ∈ plan.entries, word entry.resolver_id_key = key →
      anchor = entry.slot plan.state_root)
    (hremovals : ∀ removal ∈ plan.resolver_revocations, word removal.resolver_id_key = key →
      anchor.resolver_id_key ≠ 0 ∧ anchor.status = .REVOKED)
    (hplanned : step.Planned plan) (h : step.inspect C plan r = .ok none) :
    step.inspect C plan (with_anchor r key anchor) = .ok none := by
  -- other keys read as before
  have hkept : ∀ text, IsDigest text → word text ≠ key →
      get_resolver_anchor (with_anchor r key anchor) text = get_resolver_anchor r text := by
    intro text htext hne
    rw [get_resolver_anchor_eq htext, get_resolver_anchor_eq htext]
    show Except.ok (decode_anchor (Function.update r.resolver_anchors key anchor (word text))) = _
    rw [Function.update_of_ne hne]
  -- the key that changed reads as the plan wants it
  have hown : ∀ entry ∈ plan.entries, word entry.resolver_id_key = key →
      get_resolver_anchor (with_anchor r key anchor) entry.resolver_id_key =
        .ok (some (entry.anchor plan.state_root)) := by
    intro entry hentry hkey
    have hfit := hfits entry hentry
    rw [get_resolver_anchor_eq (hshaped entry hentry).resolver_id_key]
    show Except.ok (decode_anchor (Function.update r.resolver_anchors key anchor _)) = _
    rw [hkey, Function.update_self, (decode_anchor_iff (hshaped entry hentry) hroot).mpr
      ⟨hentries entry hentry hkey, hfit.resolver_id_key, hfit.object_version, hfit.valid_until⟩]
  cases step with
  | publish_root | active_root | bind_endpoint _ _ | unbind_endpoint _ =>
    rw [← h]
    exact inspect_congr (fun _ => rfl) nofun nofun (fun _ _ _ => rfl) (fun _ _ => rfl)
  | publish_resolver entry =>
    have hentry : entry ∈ plan.entries := hplanned
    by_cases hkey : word entry.resolver_id_key = key
    · exact (inspect_resolver_iff (hshaped entry hentry) (hstored.anchors _)).mpr
        (hown entry hentry hkey)
    · rw [← h]
      refine inspect_congr nofun ?_ nofun nofun nofun
      intro other hother
      rcases hother with heq | heq
      · rw [← PhaseStep.publish_resolver.inj heq]
        exact hkept _ (hshaped entry hentry).resolver_id_key hkey
      · cases heq
  | published_resolver entry =>
    have hentry : entry ∈ plan.entries := hplanned
    by_cases hkey : word entry.resolver_id_key = key
    · exact inspect_published_none (hshaped entry hentry) (hown entry hentry hkey)
    · rw [← h]
      refine inspect_congr nofun ?_ nofun nofun nofun
      intro other hother
      rcases hother with heq | heq
      · cases heq
      · rw [← PhaseStep.published_resolver.inj heq]
        exact hkept _ (hshaped entry hentry).resolver_id_key hkey
  | revoke_resolver removal =>
    have hremoval : removal ∈ plan.resolver_revocations := hplanned
    by_cases hkey : word removal.resolver_id_key = key
    · refine (inspect_revoke_iff (hdigests removal hremoval)).mpr ?_
      show (Function.update r.resolver_anchors key anchor _).resolver_id_key ≠ 0 ∧
        (Function.update r.resolver_anchors key anchor _).status = .REVOKED
      rw [hkey, Function.update_self]
      exact hremovals removal hremoval hkey
    · rw [← h]
      refine inspect_congr nofun nofun ?_ nofun nofun
      intro other heq
      rw [← PhaseStep.revoke_resolver.inj heq]
      exact hkept _ (hdigests removal hremoval) hkey

/-- A pass stays settled under the write of a binding that is the one it looks for. -/
theorem settled_of_endpoint {bound : Contract.Bytes32}
    (hshaped : ∀ entry ∈ plan.entries, entry.Shaped)
    (hdigests : ∀ removal ∈ plan.endpoint_unbinds, IsDigest removal.endpoint_key)
    (hentries : ∀ entry ∈ plan.entries, ∀ endpoint_key ∈ entry.endpoint_keys,
      word endpoint_key = key → bound = word entry.resolver_id_key ∧ word entry.resolver_id_key ≠ 0)
    (hremovals : ∀ removal ∈ plan.endpoint_unbinds, word removal.endpoint_key = key → bound = 0)
    (hplanned : step.Planned plan) (h : step.inspect C plan r = .ok none) :
    step.inspect C plan (with_endpoint r key bound) = .ok none := by
  -- other endpoints read as before
  have hkept : ∀ text, IsDigest text → word text ≠ key →
      get_endpoint_binding (with_endpoint r key bound) text = get_endpoint_binding r text := by
    intro text htext hne
    rw [get_endpoint_binding_eq htext, get_endpoint_binding_eq htext]
    show Except.ok (if Function.update r.endpoint_to_resolver_id_key key bound (word text) = 0
      then none else some (normalize_bytes32
        (Function.update r.endpoint_to_resolver_id_key key bound (word text)))) = _
    rw [Function.update_of_ne hne]
  cases step with
  | publish_root | active_root | publish_resolver _ | published_resolver _ | revoke_resolver _ =>
    rw [← h]
    exact inspect_congr (fun _ => rfl) (fun _ _ => rfl) (fun _ _ => rfl) nofun nofun
  | bind_endpoint entry endpoint_key =>
    obtain ⟨hentry, hendpoint⟩ : entry ∈ plan.entries ∧ endpoint_key ∈ entry.endpoint_keys :=
      hplanned
    have hshape := hshaped entry hentry
    by_cases hkey : word endpoint_key = key
    · refine (inspect_bind_iff hshape hendpoint).mpr ((get_endpoint_binding_iff
        (hshape.endpoint_keys _ hendpoint) hshape.resolver_id_key).mpr ?_)
      show Function.update r.endpoint_to_resolver_id_key key bound _ = _ ∧ _
      rw [hkey, Function.update_self]
      exact hentries entry hentry endpoint_key hendpoint hkey
    · rw [← h]
      refine inspect_congr nofun nofun nofun ?_ nofun
      intro _ other heq
      rw [← (PhaseStep.bind_endpoint.inj heq).2]
      exact hkept _ (hshape.endpoint_keys _ hendpoint) hkey
  | unbind_endpoint removal =>
    have hremoval : removal ∈ plan.endpoint_unbinds := hplanned
    by_cases hkey : word removal.endpoint_key = key
    · refine (inspect_unbind_iff (hdigests removal hremoval)).mpr ?_
      show Function.update r.endpoint_to_resolver_id_key key bound _ = 0
      rw [hkey, Function.update_self]
      exact hremovals removal hremoval hkey
    · rw [← h]
      refine inspect_congr nofun nofun nofun nofun ?_
      intro other heq
      rw [← PhaseStep.unbind_endpoint.inj heq]
      exact hkept _ (hdigests removal hremoval) hkey

end Kept

/-! ## §3. What the passes find. -/

/-- An active root under the plan's version is published. -/
theorem root_published_of_active {plan : Plan} {r : Contract.Registry}
    (hdigest : IsDigest plan.state_root)
    (hslot : Contract.RootSlot (word plan.state_root) (r.root_records (word plan.state_root)))
    (hactive : (r.root_records (word plan.state_root)).status = .ACTIVE)
    (hversion : ((r.root_records (word plan.state_root)).version.toNat : Int) =
      plan.root_version) : RootPublished plan r := by
  rcases hslot with hblank | ⟨hstate, hne, _⟩
  · rw [hblank] at hactive
    cases hactive
  · refine ⟨((r.root_records (word plan.state_root)).published_at.toNat : Int), ?_⟩
    rw [get_root_record_eq hdigest, decode_root_eq hstate hne, hactive, hversion,
      normalize_word hdigest]
    rfl

/-- What a published root is on the chain. -/
theorem record_of_published {plan : Plan} {r : Contract.Registry}
    (hdigest : IsDigest plan.state_root) (hstored : Contract.Stored r) (h : RootPublished plan r) :
    word plan.state_root ≠ 0 ∧ (r.root_records (word plan.state_root)).status = .ACTIVE ∧
      ((r.root_records (word plan.state_root)).version.toNat : Int) = plan.root_version := by
  obtain ⟨published_at, h⟩ := h
  rw [get_root_record_eq hdigest, Except.ok.injEq] at h
  rcases hstored.roots (word plan.state_root) with hblank | ⟨hstate, hne, _⟩
  · rw [hblank] at h
    cases h
  · rw [decode_root_eq hstate hne, Option.some.injEq] at h
    obtain ⟨_, hstatus, _, hversion⟩ := RootRecord.mk.inj h
    exact ⟨hne, decode_status_eq_iff.mp
      (show decode_status _ = decode_status .ACTIVE from hstatus), hversion⟩

/-- A plan that applies to a storage that holds the entries before it. -/
structure Setting (keccak256 : String → Contract.Bytes32) (operator : Operator)
    (earlier : List PlanEntry) (plan : Plan) (root : String) (start : Contract.Registry) :
    Prop where
  succeeds : Succeeds earlier plan
  root_digest : IsDigest root
  live : Live root earlier start
  ready : Ready keccak256 operator plan start
  applicable : Applicable earlier plan start

namespace Setting

variable {keccak256 : String → Contract.Bytes32} {operator : Operator} {earlier : List PlanEntry}
variable {plan : Plan} {root : String} {start r : Contract.Registry}
variable (h : Setting keccak256 operator earlier plan root start)

include h

theorem slot_before {previous : PlanEntry} (hmem : previous ∈ earlier) :
    start.resolver_anchors (word previous.resolver_id_key) = previous.slot root ∧
      word previous.resolver_id_key ≠ 0 ∧ Unsigned previous.object_version := by
  have hshaped := h.succeeds.shaped previous hmem
  have hread := h.live.anchors previous hmem
  rw [get_resolver_anchor_eq hshaped.resolver_id_key, Except.ok.injEq] at hread
  obtain ⟨hslot, hkey, hversion, _⟩ := (decode_anchor_iff hshaped h.root_digest).mp hread
  exact ⟨hslot, hkey, hversion⟩

theorem binding_before {previous : PlanEntry} (hmem : previous ∈ earlier) {endpoint_key : String}
    (hendpoint : endpoint_key ∈ previous.endpoint_keys) :
    start.endpoint_to_resolver_id_key (word endpoint_key) = word previous.resolver_id_key := by
  have hshaped := h.succeeds.shaped previous hmem
  exact ((get_endpoint_binding_iff (hshaped.endpoint_keys _ hendpoint)
    hshaped.resolver_id_key).mp (h.live.bindings previous hmem _ hendpoint)).1

theorem removal_key_digest {removal : ResolverRevocation}
    (hremoval : removal ∈ plan.resolver_revocations) : IsDigest removal.resolver_id_key := by
  obtain ⟨previous, hprevious, _, heq⟩ := (h.succeeds.revocations removal).mp hremoval
  rw [heq]
  exact (h.succeeds.shaped previous hprevious).resolver_id_key

theorem removal_endpoint_digest {removal : EndpointUnbind}
    (hremoval : removal ∈ plan.endpoint_unbinds) : IsDigest removal.endpoint_key := by
  obtain ⟨previous, hprevious, endpoint_key, hendpoint, _, heq⟩ :=
    (h.succeeds.unbinds removal).mp hremoval
  rw [heq]
  exact (h.succeeds.shaped previous hprevious).endpoint_keys _ hendpoint

/-- No resolver is revoked under the key of an entry. -/
theorem key_kept {removal : ResolverRevocation} (hremoval : removal ∈ plan.resolver_revocations)
    {entry : PlanEntry} (hentry : entry ∈ plan.entries) :
    word removal.resolver_id_key ≠ word entry.resolver_id_key := by
  intro hword
  exact h.applicable.kept_keys removal hremoval entry hentry
    ((word_eq_iff (h.removal_key_digest hremoval)
      (h.succeeds.entries entry hentry).resolver_id_key).mp hword)

/-- No endpoint is unbound that an entry has. -/
theorem endpoint_kept {removal : EndpointUnbind} (hremoval : removal ∈ plan.endpoint_unbinds)
    {entry : PlanEntry} (hentry : entry ∈ plan.entries) {endpoint_key : String}
    (hendpoint : endpoint_key ∈ entry.endpoint_keys) :
    word removal.endpoint_key ≠ word endpoint_key := by
  intro hword
  have hsame := (word_eq_iff (h.removal_endpoint_digest hremoval)
    ((h.succeeds.entries entry hentry).endpoint_keys _ hendpoint)).mp hword
  obtain ⟨previous, hprevious, removed, hmem, hgone, heq⟩ :=
    (h.succeeds.unbinds removal).mp hremoval
  rw [heq] at hsame
  have hsame : removed = endpoint_key := hsame
  rw [hsame] at hmem hgone
  have hid := h.applicable.unmoved previous hprevious entry hentry _ hmem hendpoint
  exact hgone entry hentry hid.symm hendpoint

/-- Entries with one key have one anchor. -/
theorem slot_eq {entry other : PlanEntry} (hentry : entry ∈ plan.entries)
    (hother : other ∈ plan.entries)
    (hkey : word other.resolver_id_key = word entry.resolver_id_key) :
    other.slot plan.state_root = entry.slot plan.state_root := by
  have hsame := (word_eq_iff (h.succeeds.entries other hother).resolver_id_key
    (h.succeeds.entries entry hentry).resolver_id_key).mp hkey
  obtain ⟨hhash, hversion, huntil⟩ := h.applicable.one_anchor other hother entry hentry hsame
  unfold PlanEntry.slot
  rw [hsame, hhash, hversion, huntil]

/-- At the start an entry's key is free, or has an older anchor. -/
theorem anchor_start {entry : PlanEntry} (hentry : entry ∈ plan.entries) :
    start.resolver_anchors (word entry.resolver_id_key) = .blank ∨
      ((start.resolver_anchors (word entry.resolver_id_key)).resolver_id_key ≠ 0 ∧
        (start.resolver_anchors (word entry.resolver_id_key)).object_version ≠ 0 ∧
        ((start.resolver_anchors (word entry.resolver_id_key)).object_version.toNat : Int) <
          entry.object_version) := by
  have hshaped := h.succeeds.entries entry hentry
  rcases h.ready.stored.anchors (word entry.resolver_id_key) with hblank | ⟨hkey, hne, _, hversion⟩
  · exact Or.inl hblank
  · right
    obtain ⟨previous, hprevious, hword⟩ := h.live.only_anchors _ hversion
      (h.ready.fresh entry hentry)
    obtain ⟨hslot, _, hrange⟩ := h.slot_before hprevious
    have hsame := (word_eq_iff (h.succeeds.shaped previous hprevious).resolver_id_key
      hshaped.resolver_id_key).mp hword
    refine ⟨by rwa [hkey], hversion, ?_⟩
    rw [← hword, hslot]
    show ((unsigned_word previous.object_version).toNat : Int) < entry.object_version
    rw [unsigned_word_toNat hrange]
    -- the identity before is still there, or its key would be revoked
    by_cases hthere : ∃ other ∈ plan.entries, other.server_id = previous.server_id
    · obtain ⟨other, hother, hid⟩ := hthere
      have hraised := h.applicable.raised previous hprevious other hother hid.symm
      have hkeys := h.succeeds.keys previous hprevious other hother hid.symm
      have hone := h.applicable.one_anchor other hother entry hentry (hkeys.symm.trans hsame)
      rw [← hone.2.1]
      exact hraised
    · have hgone : ∀ other ∈ plan.entries, other.server_id ≠ previous.server_id :=
        fun other hother hid => hthere ⟨other, hother, hid⟩
      have hremoval := (h.succeeds.revocations _).mpr ⟨previous, hprevious, hgone, rfl⟩
      exact absurd hsame (h.applicable.kept_keys _ hremoval entry hentry)

/-- On the way an entry's anchor is the one it started from, or its own. -/
theorem anchor_now (hr : Underway plan start r) {entry : PlanEntry}
    (hentry : entry ∈ plan.entries) :
    r.resolver_anchors (word entry.resolver_id_key) = entry.slot plan.state_root ∨
      r.resolver_anchors (word entry.resolver_id_key) =
        start.resolver_anchors (word entry.resolver_id_key) := by
  rcases hr.anchors (word entry.resolver_id_key) with hsame | ⟨other, hother, hkey, hslot⟩ |
    ⟨removal, hremoval, hkey, _⟩
  · exact Or.inr hsame
  · rw [hslot]
    exact Or.inl (h.slot_eq hentry hother hkey)
  · exact absurd hkey (h.key_kept hremoval hentry)

/-- On the way an entry's endpoint is free, or the entry's. -/
theorem endpoint_now (hr : Underway plan start r) {entry : PlanEntry}
    (hentry : entry ∈ plan.entries) {endpoint_key : String}
    (hendpoint : endpoint_key ∈ entry.endpoint_keys) :
    r.endpoint_to_resolver_id_key (word endpoint_key) = 0 ∨
      r.endpoint_to_resolver_id_key (word endpoint_key) = word entry.resolver_id_key := by
  have hdigest := (h.succeeds.entries entry hentry).endpoint_keys _ hendpoint
  rcases hr.endpoints (word endpoint_key) with
    hsame | hzero | ⟨other, hother, key, hkey, hword, hbound⟩
  · rw [hsame]
    by_cases hzero : start.endpoint_to_resolver_id_key (word endpoint_key) = 0
    · exact Or.inl hzero
    · right
      obtain ⟨previous, hprevious, key, hkey, hword⟩ := h.live.only_bindings _ hzero
      have heq := (word_eq_iff ((h.succeeds.shaped previous hprevious).endpoint_keys _ hkey)
        hdigest).mp hword
      rw [heq] at hkey
      have hid := h.applicable.unmoved previous hprevious entry hentry _ hkey hendpoint
      rw [h.binding_before hprevious hkey, h.succeeds.keys previous hprevious entry hentry hid]
  · exact Or.inl hzero
  · right
    have heq := (word_eq_iff ((h.succeeds.entries other hother).endpoint_keys _ hkey)
      hdigest).mp hword
    rw [heq] at hkey
    rw [hbound, h.succeeds.owners other hother entry hentry _ hkey hendpoint]

/-- On the way an endpoint to be unbound is free, or its old owner's. -/
theorem removed_endpoint_now (hr : Underway plan start r) {removal : EndpointUnbind}
    (hremoval : removal ∈ plan.endpoint_unbinds) :
    r.endpoint_to_resolver_id_key (word removal.endpoint_key) = 0 ∨
      (r.endpoint_to_resolver_id_key (word removal.endpoint_key) = word removal.resolver_id_key ∧
        start.endpoint_to_resolver_id_key (word removal.endpoint_key) ≠ 0 ∧
          IsDigest removal.resolver_id_key ∧ word removal.resolver_id_key ≠ 0) := by
  rcases hr.endpoints (word removal.endpoint_key) with hsame | hzero |
    ⟨entry, hentry, key, hkey, hword, _⟩
  · right
    obtain ⟨previous, hprevious, endpoint_key, hendpoint, _, heq⟩ :=
      (h.succeeds.unbinds removal).mp hremoval
    have hbound := h.binding_before hprevious hendpoint
    have hne := (h.slot_before hprevious).2.1
    rw [hsame, heq]
    refine ⟨hbound, ?_, (h.succeeds.shaped previous hprevious).resolver_id_key, hne⟩
    rw [hbound]
    exact hne
  · exact Or.inl hzero
  · exact absurd hword.symm (h.endpoint_kept hremoval hentry hkey)

/-- On the way a resolver to be revoked has an anchor. -/
theorem removed_anchor_now (hr : Underway plan start r) {removal : ResolverRevocation}
    (hremoval : removal ∈ plan.resolver_revocations) :
    word removal.resolver_id_key ≠ 0 ∧
      (r.resolver_anchors (word removal.resolver_id_key)).resolver_id_key ≠ 0 ∧
        (r.resolver_anchors (word removal.resolver_id_key)).object_version ≠ 0 ∧
          ((r.resolver_anchors (word removal.resolver_id_key)).status = .REVOKED ∨
            r.resolver_anchors (word removal.resolver_id_key) =
              start.resolver_anchors (word removal.resolver_id_key)) := by
  obtain ⟨previous, hprevious, _, heq⟩ := (h.succeeds.revocations removal).mp hremoval
  have hsame : removal.resolver_id_key = previous.resolver_id_key := by rw [heq]
  obtain ⟨hslot, hne, hrange⟩ := h.slot_before hprevious
  rw [← hsame] at hslot hne
  have hversion : (start.resolver_anchors (word removal.resolver_id_key)).object_version ≠ 0 := by
    rw [hslot]
    intro hzero
    have hzero : unsigned_word previous.object_version = 0 := hzero
    have hread := unsigned_word_toNat hrange
    have hpositive := (h.succeeds.shaped previous hprevious).object_version
    rw [hzero] at hread
    exact absurd hread (ne_of_lt hpositive)
  have hkey : (start.resolver_anchors (word removal.resolver_id_key)).resolver_id_key ≠ 0 := by
    rw [hslot]
    show word previous.resolver_id_key ≠ 0
    rwa [← hsame]
  rcases hr.anchors (word removal.resolver_id_key) with hkept | ⟨entry, hentry, hword, _⟩ |
    ⟨_, _, _, hrevoked⟩
  · rw [hkept]
    exact ⟨hne, hkey, hversion, Or.inr rfl⟩
  · exact absurd hword.symm (h.key_kept hremoval hentry)
  · rw [hrevoked]
    exact ⟨hne, hkey, hversion, Or.inl rfl⟩

/-! ## §4. The passes go through. -/

theorem authorized (hr : Underway plan start r) : operator.Authorized keccak256 r := by
  have hstart := h.ready.authorized
  constructor
  · show r.roles _ _ = true
    rw [hr.roles]
    exact hstart.root_publisher
  · show r.roles _ _ = true
    rw [hr.roles]
    exact hstart.resolver_publisher
  · show r.roles _ _ = true
    rw [hr.roles]
    exact hstart.endpoint_manager
  · show r.roles _ _ = true
    rw [hr.roles]
    exact hstart.revoker

omit h in
theorem unsigned_word_ne_zero {n : Int} (hrange : Unsigned n) (hpositive : 0 < n) :
    unsigned_word n ≠ 0 := by
  intro hzero
  have hread := unsigned_word_toNat hrange
  rw [hzero] at hread
  exact absurd hread (ne_of_lt hpositive)

omit h in
theorem zero_lt_unsigned_word {n : Int} (hrange : Unsigned n) (hpositive : 0 < n) :
    (0 : Contract.Uint64) < unsigned_word n := by
  have hread := unsigned_word_toNat hrange
  rw [BitVec.lt_def]
  show 0 < (unsigned_word n).toNat
  omega

/-- The block comes before the entry expires. -/
theorem block_before {entry : PlanEntry} (hentry : entry ∈ plan.entries) (count : Nat) :
    operator.block_timestamp count < (unsigned_word entry.valid_until).setWidth 256 := by
  have hbefore := h.ready.unexpired count entry hentry
  have hread := unsigned_word_toNat (h.applicable.entries entry hentry).valid_until
  have hbound := (unsigned_word entry.valid_until).isLt
  rw [BitVec.lt_def, BitVec.toNat_setWidth, Nat.mod_eq_of_lt (by omega)]
  omega

theorem entry_valid {entry : PlanEntry} (hentry : entry ∈ plan.entries) (count : Nat)
    (hactive : (r.root_records (word plan.state_root)).status = .ACTIVE)
    {sender : Contract.Address} :
    Contract.Registry.validate_anchor_input (entry.slot plan.state_root)
      ⟨sender, operator.block_timestamp count⟩ r = .ok () := by
  have hfits := h.applicable.entries entry hentry
  have hpositive := (h.succeeds.entries entry hentry).object_version
  exact Contract.validate_anchor_input_iff.mpr ⟨hfits.resolver_id_key, hfits.object_hash,
    h.applicable.state_root, zero_lt_unsigned_word hfits.object_version hpositive,
    h.block_before hentry count, Or.inl rfl, hactive⟩

/-- What the write of an entry's anchor leaves. -/
theorem anchor_written (hr : Underway plan start r) {entry : PlanEntry}
    (hentry : entry ∈ plan.entries)
    (hstored : Contract.Stored
      (with_anchor r (word entry.resolver_id_key) (entry.slot plan.state_root))) :
    Underway plan start (with_anchor r (word entry.resolver_id_key) (entry.slot plan.state_root)) ∧
      ∀ (C : Casing) (step : PhaseStep), step.Planned plan → step.inspect C plan r = .ok none →
        step.inspect C plan (with_anchor r (word entry.resolver_id_key)
          (entry.slot plan.state_root)) = .ok none := by
  refine ⟨⟨hstored, hr.roles, hr.root, hr.other_roots, ?_, hr.endpoints⟩, ?_⟩
  · intro key
    by_cases hkey : key = word entry.resolver_id_key
    · right
      left
      refine ⟨entry, hentry, hkey.symm, ?_⟩
      show Function.update r.resolver_anchors (word entry.resolver_id_key) _ key = _
      rw [hkey, Function.update_self]
    · have hother : (with_anchor r (word entry.resolver_id_key)
          (entry.slot plan.state_root)).resolver_anchors key = r.resolver_anchors key :=
        Function.update_of_ne hkey _ _
      rw [hother]
      exact hr.anchors key
  · intro C step hplanned hsettled
    refine settled_of_anchor h.succeeds.state_root h.succeeds.entries h.applicable.entries
      (fun removal => h.removal_key_digest) hstored ?_ ?_ hplanned hsettled
    · intro other hother hkey
      exact (h.slot_eq hentry hother hkey).symm
    · intro removal hremoval hkey
      exact absurd hkey (h.key_kept hremoval hentry)

/-- An entry is published, or was. -/
theorem advances_resolver (C : Casing) (hr : Underway plan start r) {entry : PlanEntry}
    (hentry : entry ∈ plan.entries) {pre : List PhaseStep}
    (hpre : ∀ step ∈ pre, step.Planned plan)
    (hactive : (r.root_records (word plan.state_root)).status = .ACTIVE) :
    (publication C keccak256 operator plan).Advances (Underway plan start) pre
      (.publish_resolver entry) r := by
  have hshaped := h.succeeds.entries entry hentry
  have hfits := h.applicable.entries entry hentry
  have hroot := h.succeeds.state_root
  have hauthorized := h.authorized hr
  -- the anchor that will be read back is the plan's
  have hread : get_resolver_anchor (with_anchor r (word entry.resolver_id_key)
      (entry.slot plan.state_root)) entry.resolver_id_key =
        .ok (some (entry.anchor plan.state_root)) := by
    rw [get_resolver_anchor_eq hshaped.resolver_id_key]
    show Except.ok (decode_anchor (Function.update r.resolver_anchors _ _ _)) = _
    rw [Function.update_self, (decode_anchor_iff hshaped hroot).mpr
      ⟨rfl, hfits.resolver_id_key, hfits.object_version, hfits.valid_until⟩]
  -- either transaction writes that slot
  have hsent : ∀ call count, transact keccak256 operator count call r = .ok
      (with_anchor r (word entry.resolver_id_key) (entry.slot plan.state_root)) →
        ∃ s, transact keccak256 operator count call r = .ok s ∧ Underway plan start s ∧
          inspect_resolver C plan s entry = .ok none ∧ ∀ step ∈ pre,
            step.inspect C plan r = .ok none → step.inspect C plan s = .ok none := by
    intro call count hsend
    obtain ⟨logs, hbody⟩ := transact_eq_ok.mp hsend
    have hstored := hr.stored.body hbody
    obtain ⟨hunderway, hkept⟩ := h.anchor_written hr hentry hstored
    exact ⟨_, hsend, hunderway, (inspect_resolver_iff hshaped (hstored.anchors _)).mpr hread,
      fun step hstep => hkept C step (hpre step hstep)⟩
  rcases h.anchor_now hr hentry with hown | hsame
  · left
    refine (inspect_resolver_iff hshaped (hr.stored.anchors _)).mpr ?_
    rw [get_resolver_anchor_eq hshaped.resolver_id_key, hown, (decode_anchor_iff hshaped hroot).mpr
      ⟨rfl, hfits.resolver_id_key, hfits.object_version, hfits.valid_until⟩]
  · right
    -- published where nothing stands, updated where an older version does
    rcases h.anchor_start hentry with hblank | ⟨hkey, hexists, holder⟩
    · rw [← hsame] at hblank
      refine ⟨.publish_resolver (entry.slot plan.state_root),
        inspect_resolver_publishes hshaped hfits hroot hblank, fun count => hsent _ count ?_⟩
      refine transact_eq_ok.mpr (Contract.publish_resolver_accepted hauthorized.resolver_publisher
        (h.entry_valid hentry count hactive) ?_)
      show (r.resolver_anchors (word entry.resolver_id_key)).object_version = 0
      rw [hblank]
      rfl
    · have hfresh := h.ready.fresh entry hentry
      rw [← hsame] at hkey hexists holder hfresh
      refine ⟨.update_resolver (entry.slot plan.state_root),
        inspect_resolver_updates hshaped hfits hroot hkey holder, fun count => hsent _ count ?_⟩
      refine transact_eq_ok.mpr (Contract.update_resolver_accepted hauthorized.resolver_publisher
        (h.entry_valid hentry count hactive) hexists hfresh ?_)
      have hversion := unsigned_word_toNat hfits.object_version
      show (r.resolver_anchors (word entry.resolver_id_key)).object_version <
        unsigned_word entry.object_version
      rw [BitVec.lt_def]
      omega

/-- The root is published, or was. -/
theorem advances_root (C : Casing) (hr : Underway plan start r) {pre : List PhaseStep} :
    (publication C keccak256 operator plan).Advances (Underway plan start) pre .publish_root r := by
  have hdigest := h.succeeds.state_root
  have hrange := h.applicable.root_version
  rcases hr.root with hblank | ⟨hactive, hsame⟩
  · right
    refine ⟨.publish_root (word plan.state_root) (unsigned_word plan.root_version),
      inspect_root_sends hdigest hrange hblank, fun count => ?_⟩
    -- the version of a blank slot is 0
    have hsend : transact keccak256 operator count
        (.publish_root (word plan.state_root) (unsigned_word plan.root_version)) r =
          .ok (with_root r (word plan.state_root) ⟨word plan.state_root, .ACTIVE,
            (operator.block_timestamp count).setWidth 64, unsigned_word plan.root_version⟩) := by
      refine transact_eq_ok.mpr (Contract.publish_root_accepted (h.authorized hr).root_publisher
        h.applicable.state_root ?_ ?_)
      · rw [hblank]
        exact nofun
      · rw [hblank]
        exact zero_lt_unsigned_word hrange h.succeeds.root_version
    have hstored := stored_of_transact hr.stored hsend
    have hrecord : ∀ record, (with_root r (word plan.state_root) record).root_records
        (word plan.state_root) = record := fun record => Function.update_self _ _ _
    have hactive := congrArg Contract.RootRecord.status (hrecord ⟨word plan.state_root, .ACTIVE,
      (operator.block_timestamp count).setWidth 64, unsigned_word plan.root_version⟩)
    have hversion := congrArg (fun record : Contract.RootRecord => (record.version.toNat : Int))
      (hrecord ⟨word plan.state_root, .ACTIVE, (operator.block_timestamp count).setWidth 64,
        unsigned_word plan.root_version⟩)
    have hversion := hversion.trans (unsigned_word_toNat hrange)
    have hsettled := inspect_root_none hdigest (hstored.roots _) hactive hversion
    refine ⟨_, hsend, ⟨hstored, hr.roles, Or.inr ⟨hactive, hversion⟩, ?_, hr.anchors, hr.endpoints⟩,
      hsettled, ?_⟩
    · intro root hne
      exact (Function.update_of_ne hne _ _).trans (hr.other_roots root hne)
    intro step _ hstep
    -- only the two steps of this phase look at a root
    have hother : ¬ (step = .publish_root ∨ step = .active_root) → ∀ record,
        step.inspect C plan (with_root r (word plan.state_root) record) =
          step.inspect C plan r :=
      fun hne record => inspect_congr (fun hroot => absurd hroot hne) (fun _ _ => rfl)
        (fun _ _ => rfl) (fun _ _ _ => rfl) (fun _ _ => rfl)
    by_cases hroot : step = .publish_root ∨ step = .active_root
    · rcases hroot with heq | heq
      · rw [heq]
        exact hsettled
      · rw [heq]
        exact (inspect_active_root_iff hdigest).mpr hactive
    · exact (hother hroot _).trans hstep
  · exact Or.inl (inspect_root_none hdigest (hr.stored.roots _) hactive hsame)

/-- An endpoint is bound, or was. -/
theorem advances_bind (C : Casing) (hr : Underway plan start r) {entry : PlanEntry}
    (hentry : entry ∈ plan.entries) {endpoint_key : String}
    (hendpoint : endpoint_key ∈ entry.endpoint_keys) {pre : List PhaseStep}
    (hpre : ∀ step ∈ pre, step.Planned plan)
    (hown : r.resolver_anchors (word entry.resolver_id_key) = entry.slot plan.state_root) :
    (publication C keccak256 operator plan).Advances (Underway plan start) pre
      (.bind_endpoint entry endpoint_key) r := by
  have hshaped := h.succeeds.entries entry hentry
  have hfits := h.applicable.entries entry hentry
  have hdigest := hshaped.endpoint_keys _ hendpoint
  rcases h.endpoint_now hr hentry hendpoint with hfree | hbound
  · right
    refine ⟨.bind_endpoint (word endpoint_key) (word entry.resolver_id_key),
      inspect_bind_sends hshaped hendpoint hfree, fun count => ?_⟩
    have hsend : transact keccak256 operator count
        (.bind_endpoint (word endpoint_key) (word entry.resolver_id_key)) r =
          .ok (with_endpoint r (word endpoint_key) (word entry.resolver_id_key)) := by
      refine transact_eq_ok.mpr (Contract.bind_endpoint_accepted (h.authorized hr).endpoint_manager
        (hfits.endpoint_keys _ hendpoint) hfits.resolver_id_key ?_ ?_ ?_ hfree)
      · rw [hown]
        exact unsigned_word_ne_zero hfits.object_version hshaped.object_version
      · rw [hown]
        rfl
      · rw [hown]
        exact h.block_before hentry count
    have hstored := stored_of_transact hr.stored hsend
    refine ⟨_, hsend, ⟨hstored, hr.roles, hr.root, hr.other_roots, hr.anchors, ?_⟩, ?_, ?_⟩
    · -- only this endpoint has moved
      intro key
      by_cases hkey : key = word endpoint_key
      · rw [hkey]
        exact Or.inr (Or.inr ⟨entry, hentry, endpoint_key, hendpoint, rfl,
          Function.update_self _ _ _⟩)
      · have hother : (with_endpoint r (word endpoint_key)
            (word entry.resolver_id_key)).endpoint_to_resolver_id_key key =
              r.endpoint_to_resolver_id_key key := Function.update_of_ne hkey _ _
        rw [hother]
        exact hr.endpoints key
    · exact (inspect_bind_iff hshaped hendpoint).mpr ((get_endpoint_binding_iff hdigest
        hshaped.resolver_id_key).mpr ⟨Function.update_self _ _ _, hfits.resolver_id_key⟩)
    · intro step hstep hsettled
      refine settled_of_endpoint h.succeeds.entries (fun removal => h.removal_endpoint_digest) ?_ ?_
        (hpre step hstep) hsettled
      · -- the plan gives an endpoint to one entry
        intro other hother key hkey hword
        have hsame := (word_eq_iff ((h.succeeds.entries other hother).endpoint_keys _ hkey)
          hdigest).mp hword
        rw [hsame] at hkey
        rw [h.succeeds.owners other hother entry hentry _ hkey hendpoint]
        exact ⟨rfl, hfits.resolver_id_key⟩
      · intro removal hremoval hword
        exact absurd hword (h.endpoint_kept hremoval hentry hendpoint)
  · left
    exact (inspect_bind_iff hshaped hendpoint).mpr ((get_endpoint_binding_iff hdigest
      hshaped.resolver_id_key).mpr ⟨hbound, hfits.resolver_id_key⟩)

/-- An endpoint is unbound, or was. -/
theorem advances_unbind (C : Casing) (hr : Underway plan start r) {removal : EndpointUnbind}
    (hremoval : removal ∈ plan.endpoint_unbinds) {pre : List PhaseStep}
    (hpre : ∀ step ∈ pre, step.Planned plan) :
    (publication C keccak256 operator plan).Advances (Underway plan start) pre
      (.unbind_endpoint removal) r := by
  have hdigest := h.removal_endpoint_digest hremoval
  rcases h.removed_endpoint_now hr hremoval with hfree | ⟨hbound, hstart, hkey, hne⟩
  · exact Or.inl ((inspect_unbind_iff hdigest).mpr hfree)
  · right
    have hendpoint : word removal.endpoint_key ≠ 0 := by
      intro hzero
      rw [hzero] at hstart
      exact hstart h.ready.stored.endpoints
    refine ⟨.unbind_endpoint (word removal.endpoint_key),
      inspect_unbind_sends hdigest hkey hne hbound, fun count => ?_⟩
    have hsend :
        transact keccak256 operator count (.unbind_endpoint (word removal.endpoint_key)) r =
        .ok (with_endpoint r (word removal.endpoint_key) 0) :=
      transact_eq_ok.mpr (Contract.unbind_endpoint_accepted (h.authorized hr).endpoint_manager
        hendpoint (by rwa [hbound]))
    have hstored := stored_of_transact hr.stored hsend
    refine ⟨_, hsend, ⟨hstored, hr.roles, hr.root, hr.other_roots, hr.anchors, ?_⟩, ?_, ?_⟩
    · intro key
      by_cases hsame : key = word removal.endpoint_key
      · rw [hsame]
        exact Or.inr (Or.inl (Function.update_self _ _ _))
      · have hother : (with_endpoint r (word removal.endpoint_key)
            0).endpoint_to_resolver_id_key key = r.endpoint_to_resolver_id_key key :=
          Function.update_of_ne hsame _ _
        rw [hother]
        exact hr.endpoints key
    · exact (inspect_unbind_iff hdigest).mpr (Function.update_self _ _ _)
    · intro step hstep hsettled
      refine settled_of_endpoint h.succeeds.entries (fun removal => h.removal_endpoint_digest) ?_ ?_
        (hpre step hstep) hsettled
      · intro entry hentry key hmem hword
        exact absurd hword.symm (h.endpoint_kept hremoval hentry hmem)
      · intro _ _ _
        rfl

/-- A removed resolver is revoked, or was. -/
theorem advances_revoke (C : Casing) (hr : Underway plan start r) {removal : ResolverRevocation}
    (hremoval : removal ∈ plan.resolver_revocations) {pre : List PhaseStep}
    (hpre : ∀ step ∈ pre, step.Planned plan) :
    (publication C keccak256 operator plan).Advances (Underway plan start) pre
      (.revoke_resolver removal) r := by
  have hdigest := h.removal_key_digest hremoval
  obtain ⟨hne, hkey, hexists, hnow⟩ := h.removed_anchor_now hr hremoval
  by_cases hstatus : (r.resolver_anchors (word removal.resolver_id_key)).status = .REVOKED
  · exact Or.inl ((inspect_revoke_iff hdigest).mpr ⟨hkey, hstatus⟩)
  · right
    have hnow := hnow.resolve_left hstatus
    refine ⟨.revoke_resolver (word removal.resolver_id_key),
      inspect_revoke_sends hdigest hkey hstatus, fun count => ?_⟩
    have hsend : transact keccak256 operator count
        (.revoke_resolver (word removal.resolver_id_key)) r =
          .ok (with_anchor r (word removal.resolver_id_key)
            { r.resolver_anchors (word removal.resolver_id_key) with status := .REVOKED }) :=
      transact_eq_ok.mpr (Contract.revoke_resolver_accepted (h.authorized hr).revoker hne hexists)
    have hstored := stored_of_transact hr.stored hsend
    have hanchor : ∀ anchor, (with_anchor r (word removal.resolver_id_key) anchor).resolver_anchors
        (word removal.resolver_id_key) = anchor := fun anchor => Function.update_self _ _ _
    refine ⟨_, hsend, ⟨hstored, hr.roles, hr.root, hr.other_roots, ?_, hr.endpoints⟩, ?_, ?_⟩
    · intro key
      by_cases hsame : key = word removal.resolver_id_key
      · rw [hsame]
        refine Or.inr (Or.inr ⟨removal, hremoval, rfl, ?_⟩)
        rw [hanchor, hnow]
      · have hother : ∀ anchor, (with_anchor r (word removal.resolver_id_key)
            anchor).resolver_anchors key = r.resolver_anchors key :=
          fun anchor => Function.update_of_ne hsame _ _
        rw [hother]
        exact hr.anchors key
    · refine (inspect_revoke_iff hdigest).mpr ?_
      rw [hanchor]
      exact ⟨hkey, rfl⟩
    · intro step hstep hsettled
      refine settled_of_anchor h.succeeds.state_root h.succeeds.entries h.applicable.entries
        (fun removal => h.removal_key_digest) hstored ?_ ?_ (hpre step hstep) hsettled
      · intro entry hentry hword
        exact absurd hword.symm (h.key_kept hremoval hentry)
      · intro _ _ _
        exact ⟨hkey, rfl⟩

omit h in
/-- What comes before a step that is not in the first part has all of the first part. -/
theorem subset_of_append {α : Type} {first rest pre post : List α} {x : α}
    (hsplit : first ++ rest = pre ++ x :: post) (hx : x ∉ first) : first ⊆ pre := by
  rcases List.append_eq_append_iff.mp hsplit with ⟨between, hpre, _⟩ | ⟨between, hfirst, hpost⟩
  · rw [hpre]
    exact List.subset_append_left first between
  · cases between with
    | nil =>
      rw [hfirst, List.append_nil]
      exact List.Subset.refl pre
    | cons y between =>
      rw [List.cons_append] at hpost
      rw [hfirst, (List.cons.inj hpost).1] at hx
      exact absurd (List.mem_append_right _ List.mem_cons_self) hx

/-- A root that leaves `publish_root` nothing to do is active. -/
theorem active_of_settled (hr : Underway plan start r) (hsettled : inspect_root plan r = .ok none) :
    (r.root_records (word plan.state_root)).status = .ACTIVE ∧
      ((r.root_records (word plan.state_root)).version.toNat : Int) = plan.root_version := by
  rcases inspect_root_cases h.succeeds.state_root (hr.stored.roots _) hsettled with
    ⟨_, hsome⟩ | ⟨_, hactive⟩
  · exact absurd rfl hsome
  · exact hactive

/-- Every pass goes through and undoes none before it. -/
theorem advances (C : Casing) : ∀ pre step post, (phases plan).flatten = pre ++ step :: post →
    ∀ r, Underway plan start r →
      (∀ before ∈ pre, (publication C keccak256 operator plan).Settled before r) →
        (publication C keccak256 operator plan).Advances (Underway plan start) pre step r := by
  intro pre step post hsplit r hr hsettled
  -- the steps before this one are planned and settled
  have hplanned : step.Planned plan := by
    refine planned_of_mem ?_
    rw [hsplit]
    exact List.mem_append_right _ List.mem_cons_self
  have hpre : ∀ before ∈ pre, before.Planned plan := by
    intro before hbefore
    refine planned_of_mem ?_
    rw [hsplit]
    exact List.mem_append_left _ hbefore
  -- past the first phase the root is active
  have hfirst : step ∉ publish_root → (r.root_records (word plan.state_root)).status = .ACTIVE := by
    intro hstep
    have hfirst : publish_root ++ [publish_resolvers plan, unbind_endpoints plan,
        bind_endpoints plan, revoke_removed_resolvers plan].flatten = pre ++ step :: post := hsplit
    have hsubset := subset_of_append hfirst hstep
    exact (h.active_of_settled hr (hsettled _ (hsubset List.mem_cons_self))).1
  -- past the second every anchor of the plan is there
  have hpublished : step ∉ publish_root ++ publish_resolvers plan → ∀ entry ∈ plan.entries,
      get_resolver_anchor r entry.resolver_id_key =
        .ok (some (entry.anchor plan.state_root)) := by
    intro hstep entry hentry
    have hfirst : (publish_root ++ publish_resolvers plan) ++ [unbind_endpoints plan,
        bind_endpoints plan, revoke_removed_resolvers plan].flatten = pre ++ step :: post := hsplit
    have hsubset := subset_of_append hfirst hstep
    refine (inspect_resolver_iff (h.succeeds.entries entry hentry) (hr.stored.anchors _)).mp
      (hsettled (.publish_resolver entry) (hsubset ?_))
    exact List.mem_append_right _ (List.mem_cons_of_mem _ (List.mem_map_of_mem hentry))
  have hnot_first : ∀ {step : PhaseStep}, step ≠ .publish_root → step ∉ publish_root :=
    fun hne hmem => hne (List.mem_singleton.mp hmem)
  have hnot_published : ∀ {step : PhaseStep}, step ≠ .publish_root → step ≠ .active_root →
      (∀ entry, step ≠ .publish_resolver entry) →
      step ∉ publish_root ++ publish_resolvers plan := by
    intro step hroot hactive hresolver hmem
    rcases List.mem_append.mp hmem with hmem | hmem
    · exact hroot (List.mem_singleton.mp hmem)
    · rcases List.mem_cons.mp hmem with heq | hmem
      · exact hactive heq
      · obtain ⟨entry, _, heq⟩ := List.mem_map.mp hmem
        exact hresolver entry heq.symm
  cases step with
  | publish_root => exact h.advances_root C hr
  | active_root =>
    exact Or.inl ((inspect_active_root_iff h.succeeds.state_root).mpr (hfirst (hnot_first nofun)))
  | publish_resolver entry =>
    exact h.advances_resolver C hr hplanned hpre (hfirst (hnot_first nofun))
  | published_resolver entry =>
    exact Or.inl (inspect_published_none (h.succeeds.entries entry hplanned)
      (hpublished (hnot_published nofun nofun nofun) entry hplanned))
  | bind_endpoint entry endpoint_key =>
    obtain ⟨hentry, hendpoint⟩ : entry ∈ plan.entries ∧ endpoint_key ∈ entry.endpoint_keys :=
      hplanned
    have hread := hpublished (hnot_published nofun nofun nofun) entry hentry
    have hshaped := h.succeeds.entries entry hentry
    rw [get_resolver_anchor_eq hshaped.resolver_id_key, Except.ok.injEq] at hread
    exact h.advances_bind C hr hentry hendpoint hpre
      ((decode_anchor_iff hshaped h.succeeds.state_root).mp hread).1
  | unbind_endpoint removal => exact h.advances_unbind C hr hplanned hpre
  | revoke_resolver removal => exact h.advances_revoke C hr hplanned hpre

/-! ## §5. What is left at the end. -/

/-- The publication starts underway. -/
theorem underway_start : Underway plan start start := by
  have hdigest := h.succeeds.state_root
  refine ⟨h.ready.stored, rfl, ?_, fun _ _ => rfl, fun _ => Or.inl rfl, fun _ => Or.inl rfl⟩
  rcases h.applicable.root with hnone | hpublished
  · rcases h.ready.stored.roots (word plan.state_root) with hblank | ⟨hstate, hne, _⟩
    · exact Or.inl hblank
    · rw [get_root_record_eq hdigest, decode_root_eq hstate hne] at hnone
      cases hnone
  · exact Or.inr (record_of_published hdigest h.ready.stored hpublished).2

/-- Where nothing is left to do, the storage is what the plan describes. -/
theorem described {C : Casing} (hr : Underway plan start r)
    (hsettled : ∀ step ∈ (phases plan).flatten,
      (publication C keccak256 operator plan).Settled step r) : Described plan r := by
  have hdigest := h.succeeds.state_root
  have hall : ∀ phase ∈ phases plan, ∀ step ∈ phase,
      (publication C keccak256 operator plan).Settled step r :=
    fun phase hphase step hstep => hsettled step (List.mem_flatten.mpr ⟨phase, hphase, hstep⟩)
  unfold phases at hall
  simp only [List.forall_mem_cons] at hall
  obtain ⟨hroot, hresolvers, hunbinds, hbinds, hrevocations, _⟩ := hall
  -- every kind of step, being settled, says what the contract holds
  have hanchors : ∀ entry ∈ plan.entries, get_resolver_anchor r entry.resolver_id_key =
      .ok (some (entry.anchor plan.state_root)) := by
    intro entry hentry
    exact (inspect_resolver_iff (h.succeeds.entries entry hentry) (hr.stored.anchors _)).mp
      (hresolvers (.publish_resolver entry) (List.mem_cons_of_mem _ (List.mem_map_of_mem hentry)))
  have hrevoked : ∀ removal ∈ plan.resolver_revocations,
      (r.resolver_anchors (word removal.resolver_id_key)).resolver_id_key ≠ 0 ∧
        (r.resolver_anchors (word removal.resolver_id_key)).status = .REVOKED := by
    intro removal hremoval
    exact (inspect_revoke_iff (h.removal_key_digest hremoval)).mp
      (hrevocations (.revoke_resolver removal) (List.mem_map_of_mem hremoval))
  have hbound : ∀ entry ∈ plan.entries, ∀ endpoint_key ∈ entry.endpoint_keys,
      get_endpoint_binding r endpoint_key = .ok (some entry.resolver_id_key) := by
    intro entry hentry endpoint_key hendpoint
    refine (inspect_bind_iff (h.succeeds.entries entry hentry) hendpoint).mp
      (hbinds (.bind_endpoint entry endpoint_key) (List.mem_flatMap.mpr ⟨entry, hentry, ?_⟩))
    exact List.mem_cons_of_mem _ (List.mem_map_of_mem hendpoint)
  have hunbound : ∀ removal ∈ plan.endpoint_unbinds,
      r.endpoint_to_resolver_id_key (word removal.endpoint_key) = 0 := by
    intro removal hremoval
    exact (inspect_unbind_iff (h.removal_endpoint_digest hremoval)).mp
      (hunbinds (.unbind_endpoint removal) (List.mem_map_of_mem hremoval))
  refine ⟨?_, ⟨hanchors, hbound, ?_, ?_⟩, ?_⟩
  · obtain ⟨hactive, hversion⟩ := h.active_of_settled hr (hroot .publish_root List.mem_cons_self)
    exact root_published_of_active hdigest (hr.stored.roots _) hactive hversion
  · intro key hexists hstatus
    -- an anchor is as it was, or one of the plan's, or revoked on the way
    rcases hr.anchors key with hsame | ⟨entry, hentry, hkey, _⟩ | ⟨_, _, _, hrevoked⟩
    · rw [hsame] at hexists hstatus
      obtain ⟨previous, hprevious, hword⟩ := h.live.only_anchors key hexists hstatus
      by_cases hthere : ∃ entry ∈ plan.entries, entry.server_id = previous.server_id
      · obtain ⟨entry, hentry, hid⟩ := hthere
        refine ⟨entry, hentry, ?_⟩
        rw [← h.succeeds.keys previous hprevious entry hentry hid.symm]
        exact hword
      · -- the identity is gone, so its anchor was revoked
        have hgone : ∀ entry ∈ plan.entries, entry.server_id ≠ previous.server_id :=
          fun entry hentry hid => hthere ⟨entry, hentry, hid⟩
        have hnow := (hrevoked _ ((h.succeeds.revocations _).mpr
          ⟨previous, hprevious, hgone, rfl⟩)).2
        rw [show word previous.resolver_id_key = key from hword, hsame] at hnow
        exact absurd hnow hstatus
    · exact ⟨entry, hentry, hkey⟩
    · rw [hrevoked] at hstatus
      exact absurd rfl hstatus
  · intro key hne
    -- a binding is as it was, or gone, or one of the plan's
    rcases hr.endpoints key with hsame | hzero | ⟨entry, hentry, endpoint_key, hendpoint, hword, _⟩
    · have hstart := hne
      rw [hsame] at hstart
      obtain ⟨previous, hprevious, endpoint_key, hendpoint, hword⟩ :=
        h.live.only_bindings key hstart
      by_cases hthere : ∃ entry ∈ plan.entries, entry.server_id = previous.server_id ∧
          endpoint_key ∈ entry.endpoint_keys
      · obtain ⟨entry, hentry, _, hkept⟩ := hthere
        exact ⟨entry, hentry, endpoint_key, hkept, hword⟩
      · -- the endpoint is gone, so it was unbound
        have hgone : ∀ entry ∈ plan.entries, entry.server_id = previous.server_id →
            endpoint_key ∉ entry.endpoint_keys :=
          fun entry hentry hid hkept => hthere ⟨entry, hentry, hid, hkept⟩
        have hnow := hunbound _ ((h.succeeds.unbinds _).mpr
          ⟨previous, hprevious, endpoint_key, hendpoint, hgone, rfl⟩)
        rw [show word endpoint_key = key from hword] at hnow
        exact absurd hnow hne
    · exact absurd hzero hne
    · exact ⟨entry, hentry, endpoint_key, hendpoint, hword⟩
  · intro removal hremoval
    obtain ⟨hkey, hstatus⟩ := hrevoked removal hremoval
    have hread : ∃ anchor, decode_anchor (r.resolver_anchors (word removal.resolver_id_key)) =
        some anchor ∧ anchor.status = "REVOKED" := by
      unfold decode_anchor
      rw [if_neg hkey]
      exact ⟨_, rfl, congrArg decode_status hstatus⟩
    obtain ⟨anchor, hread, hstatus⟩ := hread
    refine ⟨anchor, ?_, hstatus⟩
    rw [get_resolver_anchor_eq (h.removal_key_digest hremoval), hread]

end Setting

/-! ## §6. Which plans get applied. -/

/-- The phases reach what the plan describes, and a phase that is completed may be repeated at
every later point: it goes through, sends nothing and changes nothing. -/
structure Applied (C : Casing) (keccak256 : String → Contract.Bytes32) (operator : Operator)
    (plan : Plan) (start : Contract.Registry) : Prop where
  reached : ∃ final, (publication C keccak256 operator plan).Runs (phases plan).flatten
    ⟨start, []⟩ final ∧ Described plan final.state
  repeatable : ∀ done phase todo, phases plan = done ++ phase :: todo →
    ∀ later rest, todo.flatten = later ++ rest → ∀ point,
      (publication C keccak256 operator plan).Runs ((done ++ [phase]).flatten ++ later)
        ⟨start, []⟩ point →
      (publication C keccak256 operator plan).Runs phase point point

section Exact

variable {C : Casing} {keccak256 : String → Contract.Bytes32} {operator : Operator} {plan : Plan}
variable {start : Contract.Registry}

theorem Setting.applied {earlier : List PlanEntry} {root : String}
    (h : Setting keccak256 operator earlier plan root start) (C : Casing) :
    Applied C keccak256 operator plan start := by
  have hstart := h.underway_start
  constructor
  · obtain ⟨final, hfinal, hlast, hsettled⟩ := Worker.exists_run
      (p := (⟨start, []⟩ : Progress Contract.Registry Contract.Call)) (h.advances C) hstart
    exact ⟨final, hfinal, h.described hlast hsettled⟩
  · intro done phase todo hphases later rest htodo point hpoint
    have hall : ((done ++ [phase]).flatten ++ later) ++ rest = (phases plan).flatten := by
      rw [hphases]
      simp only [List.flatten_append, List.flatten_cons, List.flatten_nil, List.append_nil, htodo,
        List.append_assoc]
    have hadvances := h.advances C
    rw [← hall] at hadvances
    obtain ⟨_, hsettled⟩ := Worker.settled_of_runs hadvances hstart hpoint
    refine Worker.runs_self_iff.mpr ?_
    intro step hstep
    refine hsettled step (List.mem_append_left _ (List.mem_flatten.mpr ⟨phase, ?_, hstep⟩))
    exact List.mem_append_right _ List.mem_cons_self

section Reached

variable {before : Plan} {r : Contract.Registry}

/-- The first transaction, or that none was needed, tells what the root was at the start. -/
theorem root_of_applied (hdigest : IsDigest plan.state_root) (hstored : Contract.Stored start)
    (happlied : Applied C keccak256 operator plan start) :
    get_root_record start plan.state_root = .ok none ∨ RootPublished plan start := by
  obtain ⟨final, hruns, _⟩ := happlied.reached
  obtain ⟨next, hnext, _⟩ := Worker.runs_cons.mp hruns
  have hfound : ∃ found, inspect_root plan start = .ok found := by
    rcases Worker.step_cases hnext with ⟨hsettled, _⟩ | ⟨call, _, hcall, _⟩
    · exact ⟨none, hsettled⟩
    · exact ⟨some call, hcall⟩
  obtain ⟨found, hfound⟩ := hfound
  rcases inspect_root_cases hdigest (hstored.roots _) hfound with ⟨hblank, _⟩ | ⟨_, hactive, hsame⟩
  · left
    rw [get_root_record_eq hdigest, hblank]
    rfl
  · exact Or.inr (root_published_of_active hdigest (hstored.roots _) hactive hsame)

/-- The anchors of the entries where the plan is described. -/
theorem Described.slots (hdescribed : Described plan r) (hsucceeds : Succeeds before.entries plan)
    {entry : PlanEntry} (hentry : entry ∈ plan.entries) :
    r.resolver_anchors (word entry.resolver_id_key) = entry.slot plan.state_root ∧
      word entry.resolver_id_key ≠ 0 ∧ Unsigned entry.object_version ∧
        Unsigned entry.valid_until := by
  have hshaped := hsucceeds.entries entry hentry
  have hread := hdescribed.live.anchors entry hentry
  rw [get_resolver_anchor_eq hshaped.resolver_id_key, Except.ok.injEq] at hread
  exact (decode_anchor_iff hshaped hsucceeds.state_root).mp hread

/-- And the bindings of their endpoints. -/
theorem Described.bound (hdescribed : Described plan r) (hsucceeds : Succeeds before.entries plan)
    {entry : PlanEntry} (hentry : entry ∈ plan.entries) {endpoint_key : String}
    (hendpoint : endpoint_key ∈ entry.endpoint_keys) :
    r.endpoint_to_resolver_id_key (word endpoint_key) = word entry.resolver_id_key := by
  have hshaped := hsucceeds.entries entry hentry
  exact ((get_endpoint_binding_iff (hshaped.endpoint_keys _ hendpoint)
    hshaped.resolver_id_key).mp (hdescribed.live.bindings entry hentry _ hendpoint)).1

/-- The words the contract is given of an entry are in range and none of them is zero. -/
theorem Described.fits (hdescribed : Described plan r) (hstored : Contract.Stored r)
    (hsucceeds : Succeeds before.entries plan) {entry : PlanEntry} (hentry : entry ∈ plan.entries) :
    entry.Fits := by
  obtain ⟨hslot, hkey, hrange, huntil⟩ := hdescribed.slots hsucceeds hentry
  refine ⟨hkey, ?_, ?_, hrange, huntil⟩
  · rcases hstored.anchors (word entry.resolver_id_key) with hblank | ⟨_, _, hhash, _⟩
    · rw [hslot] at hblank
      exact absurd (congrArg Contract.ResolverAnchor.resolver_id_key hblank) hkey
    · rw [hslot] at hhash
      exact hhash
  · intro endpoint_key hendpoint hzero
    have hnow := hdescribed.bound hsucceeds hentry hendpoint
    rw [hzero, hstored.endpoints] at hnow
    exact hkey hnow.symm

/-- An identity that both plans have gets a higher version: the anchor of one version does not
change its root. -/
theorem higher_of_unmoved (hsucceeds : Succeeds before.entries plan)
    (hbefore : IsDigest before.state_root) (hversion : before.root_version < plan.root_version)
    (hdescribed : Described before start) (hstored : Contract.Stored start)
    (hroot : get_root_record start plan.state_root = .ok none ∨ RootPublished plan start)
    (hreached : Described plan r)
    (hunmoved : ∀ key, Contract.Unmoved (start.resolver_anchors key) (r.resolver_anchors key))
    {previous : PlanEntry} (hprevious : previous ∈ before.entries) {entry : PlanEntry}
    (hentry : entry ∈ plan.entries) (hid : previous.server_id = entry.server_id) :
    previous.object_version < entry.object_version := by
  have hdigest := hsucceeds.state_root
  have hshaped := hsucceeds.shaped previous hprevious
  have hread := hdescribed.live.anchors previous hprevious
  rw [get_resolver_anchor_eq hshaped.resolver_id_key, Except.ok.injEq] at hread
  obtain ⟨hslot, _, hrange, _⟩ := (decode_anchor_iff hshaped hbefore).mp hread
  obtain ⟨hslot', _, hrange', _⟩ := hreached.slots hsucceeds hentry
  have hkept := hunmoved (word previous.resolver_id_key)
  rw [hslot, hsucceeds.keys previous hprevious entry hentry hid, hslot'] at hkept
  have hle : unsigned_word previous.object_version ≤ unsigned_word entry.object_version :=
    hkept.version
  have hread := unsigned_word_toNat hrange
  have hread' := unsigned_word_toNat hrange'
  rw [BitVec.le_def] at hle
  rcases lt_or_eq_of_le (show previous.object_version ≤ entry.object_version by omega) with
    hlt | heq
  · exact hlt
  · -- an anchor with the version of before is under the root of before
    have hsame : word plan.state_root = word before.state_root := by
      refine hkept.state_root ?_
      show unsigned_word entry.object_version = unsigned_word previous.object_version
      rw [heq]
    have hroots := (word_eq_iff hdigest hbefore).mp hsame
    obtain ⟨_, _, hold⟩ := record_of_published hbefore hstored hdescribed.root
    rcases hroot with hnone | hpublished
    · obtain ⟨_, hpublished⟩ := hdescribed.root
      rw [hroots, hpublished] at hnone
      cases hnone
    · obtain ⟨_, _, hnew⟩ := record_of_published hdigest hstored hpublished
      rw [hsame, hold] at hnew
      omega

/-- An endpoint does not move to another identity: its removal would be carried out, or
refused, once more. -/
theorem owner_of_applied (hsucceeds : Succeeds before.entries plan)
    (happlied : Applied C keccak256 operator plan start) {previous : PlanEntry}
    (hprevious : previous ∈ before.entries) {entry : PlanEntry} (hentry : entry ∈ plan.entries)
    {endpoint_key : String} (hmem : endpoint_key ∈ previous.endpoint_keys)
    (hendpoint : endpoint_key ∈ entry.endpoint_keys) : previous.server_id = entry.server_id := by
  by_contra hne
  obtain ⟨final, hruns, hfinal⟩ := happlied.reached
  have hshaped := hsucceeds.shaped previous hprevious
  have hremoval :
      (⟨previous.server_id, previous.resolver_id_key, endpoint_key⟩ : EndpointUnbind) ∈
        plan.endpoint_unbinds := by
    refine (hsucceeds.unbinds _).mpr ⟨previous, hprevious, endpoint_key, hmem, ?_, rfl⟩
    intro other hother hid hkept
    rw [← hsucceeds.owners entry hentry other hother _ hendpoint hkept] at hid
    exact hne hid.symm
  have hall : ([publish_root, publish_resolvers plan] ++ [unbind_endpoints plan]).flatten ++
      [bind_endpoints plan, revoke_removed_resolvers plan].flatten = (phases plan).flatten := by
    rw [← List.flatten_append]
    rfl
  rw [← hall] at hruns
  have hagain := happlied.repeatable [publish_root, publish_resolvers plan]
    (unbind_endpoints plan) [bind_endpoints plan, revoke_removed_resolvers plan] rfl
    [bind_endpoints plan, revoke_removed_resolvers plan].flatten [] (List.append_nil _).symm final
    hruns
  have hsettled := Worker.runs_self_iff.mp hagain _ (List.mem_map_of_mem hremoval)
  have hfree := (inspect_unbind_iff (hshaped.endpoint_keys _ hmem)).mp hsettled
  exact (hfinal.slots hsucceeds hentry).2.1
    ((hfinal.bound hsucceeds hentry hendpoint).symm.trans hfree)

end Reached

/-- A plan that gets applied is applicable. -/
theorem applicable_of_applied {before : Plan} (hsucceeds : Succeeds before.entries plan)
    (hbefore : IsDigest before.state_root) (hversion : before.root_version < plan.root_version)
    (hdescribed : Described before start) (hstored : Contract.Stored start)
    (happlied : Applied C keccak256 operator plan start) :
    Applicable before.entries plan start := by
  have hdigest := hsucceeds.state_root
  have hroot := root_of_applied hdigest hstored happlied
  obtain ⟨final, hruns, hfinal⟩ := happlied.reached
  have hlast : Contract.Stored final.state := Worker.runs_keeps
    (fun _ _ _ _ hr hsend => stored_of_transact hr hsend) hstored hruns
  have hunmoved : ∀ key, Contract.Unmoved (start.resolver_anchors key)
      (final.state.resolver_anchors key) := by
    refine Worker.runs_keeps (I := fun r => ∀ key, Contract.Unmoved (start.resolver_anchors key)
      (r.resolver_anchors key)) ?_ (fun key => Contract.Unmoved.refl _) hruns
    intro count call r r' hr hsend key
    obtain ⟨logs, hbody⟩ := transact_eq_ok.mp hsend
    exact (hr key).step ((Contract.body_slots hbody).anchors key)
  obtain ⟨hroot_word, _, hroot_version⟩ := record_of_published hdigest hlast hfinal.root
  refine ⟨hroot, hroot_word, ?_, fun entry hentry => hfinal.fits hlast hsucceeds hentry,
    ?_, ?_, ?_, ?_⟩
  · rw [← hroot_version]
    exact unsigned_of_word _
  · intro previous hprevious entry hentry hid
    exact higher_of_unmoved hsucceeds hbefore hversion hdescribed hstored hroot hfinal hunmoved
      hprevious hentry hid
  · intro previous hprevious entry hentry endpoint_key hmem hendpoint
    exact owner_of_applied hsucceeds happlied hprevious hentry hmem hendpoint
  · intro entry hentry other hother hkey
    have hread := hfinal.live.anchors entry hentry
    rw [hkey, hfinal.live.anchors other hother, Except.ok.injEq, Option.some.injEq] at hread
    obtain ⟨_, hhash, _, hversion, huntil, _⟩ := ResolverAnchor.mk.inj hread
    exact ⟨hhash.symm, hversion.symm, huntil.symm⟩
  · intro removal hremoval entry hentry hkey
    obtain ⟨anchor, hanchor, hstatus⟩ := hfinal.revocations removal hremoval
    rw [hkey, hfinal.live.anchors entry hentry, Except.ok.injEq, Option.some.injEq] at hanchor
    rw [← hanchor] at hstatus
    have hactive := (hsucceeds.entries entry hentry).status
    rw [show entry.status = "REVOKED" from hstatus] at hactive
    exact absurd hactive (by decide)

end Exact

end ResolverIdentity.Publisher
