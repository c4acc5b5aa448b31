/-
  ResolverIdentity.Contract.Lifecycle: anchors, roots and endpoints over whole runs.

  `Advances` is what may happen to the storage over time: a revocation is final
  and a version never goes back.  It is transitive, so that one step lemma for
  each accepted call carries it over any sequence of transactions.

  Main results:
    * `WellFormed.after`: bound endpoints name existing anchors, in every
      reachable state;
    * `advances_after`: revocations are final and versions monotone;
    * `unbound_between`: an endpoint that moved was unbound on the way;
    * `lifecycle_safe`: all of it, with what a single transaction may write;
    * `anchor_written_under_revoked_root`: `revokeResolver` asks for no active root.
-/
import ResolverIdentity.Contract.Registry

namespace ResolverIdentity.Contract

open Library Registry

variable {keccak256 : String → Bytes32} {r r' r'' : Registry} {msg : Message} {logs : List Event}

/-! ## §1. What a call writes. -/

/-- The anchor slot a call stores to. -/
def Call.written_anchor : Call → Option Bytes32
  | .publish_resolver anchor => some anchor.resolver_id_key
  | .update_resolver anchor => some anchor.resolver_id_key
  | .revoke_resolver resolver_id_key => some resolver_id_key
  | _ => none

/-- An anchor was published under the key; `object_version` is what the source tests. -/
def Registry.exists_anchor (r : Registry) (resolver_id_key : Bytes32) : Prop :=
  (r.resolver_anchors resolver_id_key).object_version ≠ 0

/-- What one write may do to an anchor slot: nothing, a revocation, or a new version. -/
inductive AnchorStep (old new : ResolverAnchor) : Prop where
  | kept (h : new = old)
  | revoked (hexists : old.object_version ≠ 0) (h : new = { old with status := .REVOKED })
  | stored (hold : old.status = .REVOKED → old.object_version = 0)
      (hversion : old.object_version < new.object_version)

/-- What one write may do to a trust root. -/
inductive RootStep (old new : RootRecord) : Prop where
  | kept (h : new = old)
  | revoked (h : new = { old with status := .REVOKED })
  | stored (hold : old.status ≠ .REVOKED) (hversion : old.version < new.version)

/-- What one write may do to an endpoint key: nothing, a binding of a free key to an
existing anchor, or the key's own unbinding. -/
inductive EndpointStep (r : Registry) (call : Call) (endpoint_key : Bytes32) :
    Bytes32 → Bytes32 → Prop where
  | kept (bound : Bytes32) : EndpointStep r call endpoint_key bound bound
  | bound (resolver_id_key : Bytes32) (h : r.exists_anchor resolver_id_key) :
    EndpointStep r call endpoint_key 0 resolver_id_key
  | unbound (bound : Bytes32) (h : call = .unbind_endpoint endpoint_key) :
    EndpointStep r call endpoint_key bound 0

/-- Every slot of the three mappings, under an accepted call. -/
structure Slots (r : Registry) (call : Call) (r' : Registry) : Prop where
  anchors : ∀ key, AnchorStep (r.resolver_anchors key) (r'.resolver_anchors key)
  roots : ∀ root, RootStep (r.root_records root) (r'.root_records root)
  endpoints : ∀ endpoint_key, EndpointStep r call endpoint_key
    (r.endpoint_to_resolver_id_key endpoint_key) (r'.endpoint_to_resolver_id_key endpoint_key)

/-- Nothing has changed. -/
theorem Slots.refl (r : Registry) (call : Call) : Slots r call r :=
  ⟨fun _ => .kept rfl, fun _ => .kept rfl, fun _ => .kept _⟩

/-- One slot is written, the others are kept. -/
theorem forall_update {α : Type} {f : Bytes32 → α} {R : Bytes32 → α → α → Prop} {key : Bytes32}
    {value : α} (kept : ∀ key a, R key a a) (written : R key (f key) value) :
    ∀ other, R other (f other) (Function.update f key value other) := by
  intro other
  by_cases hother : other = key
  · rw [hother, Function.update_self]
    exact written
  · rw [Function.update_of_ne hother]
    exact kept other (f other)

/-- What an accepted call does to the slots. -/
theorem body_slots {tx : Transaction} (hbody : tx.body keccak256 r = .ok (logs, r')) :
    Slots r tx.call r' := by
  obtain ⟨msg, call⟩ := tx
  have anchor_kept : ∀ (_ : Bytes32) (a : ResolverAnchor), AnchorStep a a := fun _ _ => .kept rfl
  have root_kept : ∀ (_ : Bytes32) (a : RootRecord), RootStep a a := fun _ _ => .kept rfl
  cases call with
  | grant_role role account =>
    rcases add_role_eq_ok (grant_role_eq_ok hbody).2 with ⟨_, rfl⟩ | ⟨_, count, _, _, rfl⟩
    · exact Slots.refl r' _
    · exact { Slots.refl r _ with }
  | revoke_role role account =>
    obtain ⟨_, _, count, _, _, rfl⟩ := revoke_role_eq_ok hbody
    exact { Slots.refl r _ with }
  | publish_root state_root version =>
    obtain ⟨_, hrevoked, hversion, rfl⟩ := publish_root_eq_ok hbody
    exact { Slots.refl r _ with
      roots := forall_update root_kept (.stored hrevoked hversion) }
  | revoke_root state_root =>
    obtain ⟨_, rfl⟩ := revoke_root_eq_ok hbody
    exact { Slots.refl r _ with roots := forall_update root_kept (.revoked rfl) }
  | publish_resolver anchor =>
    obtain ⟨_, hvalid, hfree, rfl⟩ := publish_resolver_eq_ok hbody
    have hversion : (r.resolver_anchors anchor.resolver_id_key).object_version <
        anchor.object_version := by
      rw [hfree]
      exact (validate_anchor_input_eq_ok hvalid).2.1
    exact { Slots.refl r _ with
      anchors := forall_update anchor_kept (.stored (fun _ => hfree) hversion) }
  | update_resolver anchor =>
    obtain ⟨_, _, hrevoked, hversion, rfl⟩ := update_resolver_eq_ok hbody
    exact { Slots.refl r _ with
      anchors := forall_update anchor_kept (.stored (fun h => absurd h hrevoked) hversion) }
  | revoke_resolver resolver_id_key =>
    obtain ⟨_, hexists, rfl⟩ := revoke_resolver_eq_ok hbody
    exact { Slots.refl r _ with
      anchors := forall_update anchor_kept (.revoked hexists rfl) }
  | bind_endpoint endpoint_key resolver_id_key =>
    obtain ⟨_, hexists, hfree, rfl⟩ := bind_endpoint_eq_ok hbody
    have hbinding : EndpointStep r (.bind_endpoint endpoint_key resolver_id_key) endpoint_key
        (r.endpoint_to_resolver_id_key endpoint_key) resolver_id_key := by
      -- a rebinding to the same resolver changes nothing
      rcases hfree with hfree | hsame
      · rw [hfree]
        exact .bound resolver_id_key hexists
      · rw [hsame]
        exact .kept resolver_id_key
    exact { Slots.refl r (.bind_endpoint endpoint_key resolver_id_key) with
      endpoints := forall_update (fun _ bound => .kept bound) hbinding }
  | unbind_endpoint endpoint_key =>
    obtain ⟨_, rfl⟩ := unbind_endpoint_eq_ok hbody
    exact { Slots.refl r (.unbind_endpoint endpoint_key) with
      endpoints := forall_update (fun _ bound => .kept bound) (.unbound _ rfl) }

/-! ## §2. Well-formed storage. -/

/-- A revoked anchor exists, and so does every anchor an endpoint is bound to. -/
structure WellFormed (r : Registry) : Prop where
  revoked : ∀ key, (r.resolver_anchors key).status = .REVOKED → r.exists_anchor key
  bound : ∀ endpoint_key, r.endpoint_to_resolver_id_key endpoint_key ≠ 0 →
    r.exists_anchor (r.endpoint_to_resolver_id_key endpoint_key)

/-- A version above another is not zero. -/
theorem ne_zero_of_lt {old new : Uint64} (h : old < new) : new ≠ 0 := by
  intro hzero
  rw [hzero] at h
  exact BitVec.not_lt_zero h

/-- An anchor that exists goes on to exist. -/
theorem AnchorStep.exists_anchor {old new : ResolverAnchor} (h : AnchorStep old new)
    (hold : old.object_version ≠ 0) : new.object_version ≠ 0 := by
  cases h with
  | kept h => rwa [h]
  | revoked _ h =>
    rw [h]
    exact hold
  | stored _ hversion => exact ne_zero_of_lt hversion

/-- A call keeps the registry well formed. -/
theorem WellFormed.step {call : Call} (h : WellFormed r) (hslots : Slots r call r') :
    WellFormed r' := by
  refine ⟨?_, ?_⟩
  · intro key hrevoked
    show (r'.resolver_anchors key).object_version ≠ 0
    cases hslots.anchors key with
    | kept hkept =>
      rw [hkept] at hrevoked ⊢
      exact h.revoked key hrevoked
    | revoked hexists hkept =>
      rw [hkept]
      exact hexists
    | stored _ hversion => exact ne_zero_of_lt hversion
  · intro endpoint_key
    have hbound := h.bound endpoint_key
    have hstep := hslots.endpoints endpoint_key
    generalize r.endpoint_to_resolver_id_key endpoint_key = old at hbound hstep
    generalize r'.endpoint_to_resolver_id_key endpoint_key = new at hstep
    intro hnew
    cases hstep with
    | kept _ => exact (hslots.anchors old).exists_anchor (hbound hnew)
    | bound _ hexists => exact (hslots.anchors new).exists_anchor hexists
    | unbound _ _ => exact absurd rfl hnew

/-- So is a new one. -/
theorem WellFormed.blank : WellFormed Registry.blank :=
  ⟨fun _ h => (nomatch h), fun _ h => absurd rfl h⟩

/-- The constructor writes the role table and the counter only. -/
theorem WellFormed.construct {initial_admin : Address}
    (h : Registry.construct keccak256 initial_admin msg = .ok (logs, r)) : WellFormed r := by
  have add : ∀ {role account msg logs} {r r' : Registry},
      add_role role account msg r = .ok (logs, r') → WellFormed r → WellFormed r' := by
    intro role account msg logs r r' hadd hr
    rcases add_role_eq_ok hadd with ⟨_, rfl⟩ | ⟨_, count, _, _, rfl⟩
    · exact hr
    · exact { hr with }
  simp only [Registry.construct, bind_eq_ok, exists_unit, Prod.exists, pure_eq_ok,
    Except.ok.injEq, Prod.mk.injEq] at h
  obtain ⟨_, _, r₁, h₁, _, r₂, h₂, _, r₃, h₃, _, r₄, h₄, _, r₅, h₅, _, rfl⟩ := h
  exact add h₅ (add h₄ (add h₃ (add h₂ (add h₁ WellFormed.blank))))

/-- Every reachable state is well formed. -/
theorem WellFormed.after (h : WellFormed r) (txs : List Transaction) :
    WellFormed (r.after keccak256 txs) :=
  after_keeps h (fun _ _ _ _ hr hbody => hr.step (body_slots hbody)) txs

/-! ## §3. What only goes forward. -/

/-- Revocations stay, versions do not go back. -/
structure Advances (r r' : Registry) : Prop where
  anchor_revoked : ∀ key, (r.resolver_anchors key).status = .REVOKED →
    (r'.resolver_anchors key).status = .REVOKED
  root_revoked : ∀ root, (r.root_records root).status = .REVOKED →
    (r'.root_records root).status = .REVOKED
  anchor_version : ∀ key,
    (r.resolver_anchors key).object_version ≤ (r'.resolver_anchors key).object_version
  root_version : ∀ root, (r.root_records root).version ≤ (r'.root_records root).version

/-- Nothing has changed. -/
theorem Advances.refl (r : Registry) : Advances r r :=
  ⟨fun _ h => h, fun _ h => h, fun _ => BitVec.le_refl _, fun _ => BitVec.le_refl _⟩

/-- Two stretches of a run are one. -/
theorem Advances.trans (h : Advances r r') (h' : Advances r' r'') : Advances r r'' where
  anchor_revoked key hkey := h'.anchor_revoked key (h.anchor_revoked key hkey)
  root_revoked root hroot := h'.root_revoked root (h.root_revoked root hroot)
  anchor_version key := BitVec.le_trans (h.anchor_version key) (h'.anchor_version key)
  root_version root := BitVec.le_trans (h.root_version root) (h'.root_version root)

/-- One accepted call advances a well-formed storage. -/
theorem Advances.step {call : Call} (h : WellFormed r) (hslots : Slots r call r') :
    Advances r r' := by
  refine ⟨?_, ?_, ?_, ?_⟩
  · intro key hrevoked
    cases hslots.anchors key with
    | kept hkept => rwa [hkept]
    | revoked _ hkept => rw [hkept]
    | stored hold _ => exact absurd (hold hrevoked) (h.revoked key hrevoked)
  · intro root hrevoked
    cases hslots.roots root with
    | kept hkept => rwa [hkept]
    | revoked hkept => rw [hkept]
    | stored hold _ => exact absurd hrevoked hold
  · intro key
    cases hslots.anchors key with
    | kept hkept => rw [hkept]; exact BitVec.le_refl _
    | revoked _ hkept => rw [hkept]; exact BitVec.le_refl _
    | stored _ hversion => exact BitVec.le_of_lt hversion
  · intro root
    cases hslots.roots root with
    | kept hkept => rw [hkept]; exact BitVec.le_refl _
    | revoked hkept => rw [hkept]; exact BitVec.le_refl _
    | stored _ hversion => exact BitVec.le_of_lt hversion

/-- Every run from a well-formed storage advances it. -/
theorem advances_after (h : WellFormed r) (txs : List Transaction) :
    Advances r (r.after keccak256 txs) := by
  have both : WellFormed (r.after keccak256 txs) ∧ Advances r (r.after keccak256 txs) := by
    refine after_keeps (I := fun r' => WellFormed r' ∧ Advances r r') ⟨h, Advances.refl r⟩ ?_ txs
    intro r₁ tx logs r₂ h₁ hbody
    have hslots := body_slots hbody
    exact ⟨h₁.1.step hslots, h₁.2.trans (Advances.step h₁.1 hslots)⟩
  exact both.2

/-! ## §4. Endpoints. -/

/-- The transaction is not reverted. -/
def Registry.accepts (keccak256 : String → Bytes32) (r : Registry) (tx : Transaction) : Prop :=
  ∃ logs, (r.execute keccak256 tx).1 = .ok logs

/-- A bound endpoint key that is later bound otherwise, or not at all, was unbound on the way. -/
theorem unbound_between {endpoint_key bound : Bytes32} (hbound : bound ≠ 0) :
    ∀ (txs : List Transaction) (r : Registry),
      r.endpoint_to_resolver_id_key endpoint_key = bound →
      (r.after keccak256 txs).endpoint_to_resolver_id_key endpoint_key ≠ bound →
      ∃ pre tx post, txs = pre ++ tx :: post ∧ tx.call = .unbind_endpoint endpoint_key ∧
        (r.after keccak256 pre).accepts keccak256 tx := by
  intro txs
  induction txs with
  | nil =>
    intro r hr hmoved
    exact absurd hr hmoved
  | cons tx txs ih =>
    intro r hr hmoved
    by_cases hnext : (r.execute keccak256 tx).2.endpoint_to_resolver_id_key endpoint_key = bound
    · -- still bound after the first transaction: it was unbound later
      obtain ⟨pre, tx', post, heq, hcall, hok⟩ := ih _ hnext hmoved
      exact ⟨tx :: pre, tx', post, by rw [heq, List.cons_append], hcall, hok⟩
    · rcases execute_cases keccak256 r tx with ⟨logs, r₁, hbody, hrun⟩ | ⟨reason, hrun⟩
      · rw [hrun] at hnext
        have hstep := (body_slots hbody).endpoints endpoint_key
        rw [hr] at hstep
        generalize r₁.endpoint_to_resolver_id_key endpoint_key = new at hstep hnext
        cases hstep with
        | kept _ => exact absurd rfl hnext
        | bound _ _ => exact absurd rfl hbound
        | unbound _ hcall => exact ⟨[], tx, txs, rfl, hcall, logs, by rw [after_nil, hrun]⟩
      · rw [hrun] at hnext
        exact absurd hr hnext

/-! ## §5. The lifecycle. -/

/-- What a transaction may do to the storage it meets. -/
structure SafeTransaction (keccak256 : String → Bytes32) (r : Registry) (tx : Transaction) :
    Prop where
  /-- A stored anchor rests on an active root and has a higher version than the one before. -/
  anchor_stored : ∀ anchor, r.accepts keccak256 tx →
    tx.call = .publish_resolver anchor ∨ tx.call = .update_resolver anchor →
    (r.execute keccak256 tx).2.resolver_anchors anchor.resolver_id_key = anchor ∧
      (r.root_records anchor.state_root).status = .ACTIVE ∧
      (r.resolver_anchors anchor.resolver_id_key).object_version < anchor.object_version
  /-- The one other write of an anchor changes its status only, to revoked. -/
  anchor_revoked : ∀ key, r.accepts keccak256 tx → tx.call = .revoke_resolver key →
    (r.execute keccak256 tx).2.resolver_anchors key =
      { r.resolver_anchors key with status := .REVOKED }
  /-- No other anchor is touched. -/
  anchor_kept : ∀ key, tx.call.written_anchor ≠ some key →
    (r.execute keccak256 tx).2.resolver_anchors key = r.resolver_anchors key
  /-- A published root has a higher version than before. -/
  root_published : ∀ root version, r.accepts keccak256 tx → tx.call = .publish_root root version →
    ((r.execute keccak256 tx).2.root_records root).version = version ∧
      (r.root_records root).version < version
  /-- A reverted transaction changes nothing. -/
  reverted : ¬ r.accepts keccak256 tx → (r.execute keccak256 tx).2 = r

/-- Anchors the call does not name stay. -/
theorem body_anchor_kept {tx : Transaction} (hbody : tx.body keccak256 r = .ok (logs, r'))
    {key : Bytes32} (hkey : tx.call.written_anchor ≠ some key) :
    r'.resolver_anchors key = r.resolver_anchors key := by
  obtain ⟨msg, call⟩ := tx
  cases call with
  | grant_role role account =>
    rcases add_role_eq_ok (grant_role_eq_ok hbody).2 with ⟨_, rfl⟩ | ⟨_, count, _, _, rfl⟩
    · rfl
    · rfl
  | revoke_role role account =>
    obtain ⟨_, _, count, _, _, rfl⟩ := revoke_role_eq_ok hbody
    rfl
  | publish_root state_root version =>
    obtain ⟨_, _, _, rfl⟩ := publish_root_eq_ok hbody
    rfl
  | revoke_root state_root =>
    obtain ⟨_, rfl⟩ := revoke_root_eq_ok hbody
    rfl
  | publish_resolver anchor =>
    obtain ⟨_, _, _, rfl⟩ := publish_resolver_eq_ok hbody
    exact Function.update_of_ne (fun h => hkey (congrArg some h.symm)) ..
  | update_resolver anchor =>
    obtain ⟨_, _, _, _, rfl⟩ := update_resolver_eq_ok hbody
    exact Function.update_of_ne (fun h => hkey (congrArg some h.symm)) ..
  | revoke_resolver resolver_id_key =>
    obtain ⟨_, _, rfl⟩ := revoke_resolver_eq_ok hbody
    exact Function.update_of_ne (fun h => hkey (congrArg some h.symm)) ..
  | bind_endpoint endpoint_key resolver_id_key =>
    obtain ⟨_, _, _, rfl⟩ := bind_endpoint_eq_ok hbody
    rfl
  | unbind_endpoint endpoint_key =>
    obtain ⟨_, rfl⟩ := unbind_endpoint_eq_ok hbody
    rfl

/-- An accepted transaction ran its body to the end. -/
theorem body_of_accepts {tx : Transaction} (h : r.accepts keccak256 tx) :
    ∃ logs, tx.body keccak256 r = .ok (logs, (r.execute keccak256 tx).2) := by
  obtain ⟨logs, hok⟩ := h
  rcases execute_cases keccak256 r tx with ⟨logs', r', hbody, hrun⟩ | ⟨reason, hrun⟩
  · exact ⟨logs', by rw [hrun]; exact hbody⟩
  · rw [hrun] at hok
    cases hok

/-- Every transaction is safe, in every state. -/
theorem safe_transaction (keccak256 : String → Bytes32) (r : Registry) (tx : Transaction) :
    SafeTransaction keccak256 r tx where
  anchor_stored anchor haccepts hcall := by
    obtain ⟨logs, hbody⟩ := body_of_accepts haccepts
    unfold Transaction.body at hbody
    rcases hcall with hcall | hcall
    · rw [hcall] at hbody
      obtain ⟨_, hvalid, hfree, hafter⟩ := publish_resolver_eq_ok hbody
      obtain ⟨_, hpositive, _, hactive⟩ := validate_anchor_input_eq_ok hvalid
      rw [hafter]
      exact ⟨Function.update_self .., hactive, by rw [hfree]; exact hpositive⟩
    · rw [hcall] at hbody
      obtain ⟨_, hvalid, _, hversion, hafter⟩ := update_resolver_eq_ok hbody
      rw [hafter]
      exact ⟨Function.update_self .., (validate_anchor_input_eq_ok hvalid).2.2.2, hversion⟩
  anchor_revoked key haccepts hcall := by
    obtain ⟨logs, hbody⟩ := body_of_accepts haccepts
    unfold Transaction.body at hbody
    rw [hcall] at hbody
    obtain ⟨_, _, hafter⟩ := revoke_resolver_eq_ok hbody
    rw [hafter]
    exact Function.update_self ..
  anchor_kept key hkey := by
    rcases execute_cases keccak256 r tx with ⟨logs, r', hbody, hrun⟩ | ⟨reason, hrun⟩
    · rw [hrun]
      exact body_anchor_kept hbody hkey
    · rw [hrun]
  root_published root version haccepts hcall := by
    obtain ⟨logs, hbody⟩ := body_of_accepts haccepts
    unfold Transaction.body at hbody
    rw [hcall] at hbody
    obtain ⟨_, _, hversion, hafter⟩ := publish_root_eq_ok hbody
    have hroot : (r.execute keccak256 tx).2.root_records root =
        ⟨root, .ACTIVE, tx.msg.block_timestamp.setWidth 64, version⟩ := by
      rw [hafter]
      exact Function.update_self ..
    exact ⟨by rw [hroot], hversion⟩
  reverted hreverted := by
    rcases execute_cases keccak256 r tx with ⟨logs, r', _, hrun⟩ | ⟨reason, hrun⟩
    · exact absurd ⟨logs, by rw [hrun]⟩ hreverted
    · rw [hrun]

/-- For every deployment and every two points of a run: what was revoked stays revoked and
no version has gone back, bound endpoints name existing anchors and move only through an
unbinding, and the transaction taken there is safe. -/
theorem lifecycle_safe {initial_admin : Address}
    (h : Registry.construct keccak256 initial_admin msg = .ok (logs, r))
    (pre post : List Transaction) :
    let earlier := r.after keccak256 pre
    let later := earlier.after keccak256 post
    Advances earlier later ∧
      (∀ endpoint_key, later.endpoint_to_resolver_id_key endpoint_key ≠ 0 →
        later.exists_anchor (later.endpoint_to_resolver_id_key endpoint_key)) ∧
      (∀ endpoint_key, earlier.endpoint_to_resolver_id_key endpoint_key ≠ 0 →
        later.endpoint_to_resolver_id_key endpoint_key ≠
          earlier.endpoint_to_resolver_id_key endpoint_key →
        ∃ between tx rest, post = between ++ tx :: rest ∧
          tx.call = .unbind_endpoint endpoint_key ∧
          (earlier.after keccak256 between).accepts keccak256 tx) ∧
      ∀ tx, SafeTransaction keccak256 later tx := by
  intro earlier later
  have hearlier : WellFormed earlier := (WellFormed.construct h).after pre
  refine ⟨advances_after hearlier post, (hearlier.after post).bound, ?_, ?_⟩
  · intro endpoint_key hbound hmoved
    exact unbound_between hbound post earlier rfl hmoved
  · exact safe_transaction keccak256 later

/-- Account 7 deploys, publishes a root and a resolver under it, binds an endpoint and
revokes the root. -/
def recorded_lifecycle : List Transaction :=
  [⟨⟨7, 1000⟩, .publish_root 5 1⟩,
    ⟨⟨7, 1001⟩, .publish_resolver ⟨9, 8, 5, 1, 5000, .ACTIVE⟩⟩,
    ⟨⟨7, 1002⟩, .bind_endpoint 11 9⟩,
    ⟨⟨7, 1003⟩, .revoke_root 5⟩]

/-- The storage account 7 deploys. -/
def recorded_registry : Registry :=
  match Registry.construct recorded_keccak256 7 ⟨7, 1000⟩ with
  | .ok (_, r) => r
  | .error _ => .blank

theorem recorded_deployment : Registry.construct recorded_keccak256 7 ⟨7, 1000⟩ =
    .ok ([.RoleGranted DEFAULT_ADMIN_ROLE 7 7,
      .RoleGranted (ROOT_PUBLISHER_ROLE recorded_keccak256) 7 7,
      .RoleGranted (RESOLVER_PUBLISHER_ROLE recorded_keccak256) 7 7,
      .RoleGranted (REVOKER_ROLE recorded_keccak256) 7 7,
      .RoleGranted (ENDPOINT_MANAGER_ROLE recorded_keccak256) 7 7], recorded_registry) := rfl

theorem lifecycle_safe_recorded :
    let earlier := recorded_registry.after recorded_keccak256 recorded_lifecycle
    let later := earlier.after recorded_keccak256 [⟨⟨7, 1004⟩, .unbind_endpoint 11⟩]
    Advances earlier later ∧
      (∀ endpoint_key, later.endpoint_to_resolver_id_key endpoint_key ≠ 0 →
        later.exists_anchor (later.endpoint_to_resolver_id_key endpoint_key)) ∧
      (∀ endpoint_key, earlier.endpoint_to_resolver_id_key endpoint_key ≠ 0 →
        later.endpoint_to_resolver_id_key endpoint_key ≠
          earlier.endpoint_to_resolver_id_key endpoint_key →
        ∃ between tx rest, [⟨⟨7, 1004⟩, .unbind_endpoint 11⟩] = between ++ tx :: rest ∧
          tx.call = .unbind_endpoint endpoint_key ∧
          (earlier.after recorded_keccak256 between).accepts recorded_keccak256 tx) ∧
      ∀ tx, SafeTransaction recorded_keccak256 later tx :=
  lifecycle_safe recorded_deployment recorded_lifecycle [⟨⟨7, 1004⟩, .unbind_endpoint 11⟩]

/-- Every accepted write of an anchor finds the root it references active. -/
def WritesUnderActiveRoot (keccak256 : String → Bytes32) : Prop :=
  ∀ initial_admin msg logs r, Registry.construct keccak256 initial_admin msg = .ok (logs, r) →
    ∀ (txs : List Transaction) (tx : Transaction) (key : Bytes32),
      (r.after keccak256 txs).accepts keccak256 tx → tx.call.written_anchor = some key →
      ((r.after keccak256 txs).root_records
        (((r.after keccak256 txs).execute keccak256 tx).2.resolver_anchors key).state_root).status =
          .ACTIVE

/-- `revokeResolver` writes the anchor's status under the revoked root. -/
theorem anchor_written_under_revoked_root : ¬ WritesUnderActiveRoot recorded_keccak256 := by
  intro h
  have hactive := h 7 ⟨7, 1000⟩ _ _ recorded_deployment recorded_lifecycle
    ⟨⟨7, 1004⟩, .revoke_resolver 9⟩ 9 ⟨[.ResolverRevoked 9 1 5], by decide +kernel⟩ rfl
  revert hactive
  decide +kernel

end ResolverIdentity.Contract
