/-
  ResolverIdentity.Contract.Administration: roles over whole runs of the contract.

  The counter repeats what the role table says, so every write of the table has
  to carry it along: a grant to a holder and a revocation of a non-holder write
  nothing, and the last admin cannot be revoked, not even by itself.

  Main results:
    * `AdminsCounted.after`: the counter is the number of admins, and positive,
      after every sequence of transactions;
    * `body_guarded`: what an accepted call writes, its sender had the role for;
    * `administration_safe`: both, for every deployment and every run.
-/
import ResolverIdentity.Contract.Registry
import Mathlib.Data.Set.Card

namespace ResolverIdentity.Contract

open Library Registry

variable {keccak256 : String → Bytes32} {r r' : Registry} {msg : Message} {logs : List Event}

/-! ## §1. The counter. -/

/-- The accounts that hold the admin role. -/
def Registry.admins (r : Registry) : Set Address :=
  {account | r.has_role DEFAULT_ADMIN_ROLE account = true}

/-- There are finitely many addresses. -/
theorem admins_finite (s : Set Address) : s.Finite := by
  have : Finite Address := Finite.of_injective BitVec.toFin (fun _ _ h => BitVec.eq_of_toFin_eq h)
  exact s.toFinite

/-- The counter is exact, and there is an admin. -/
structure AdminsCounted (r : Registry) : Prop where
  exact : r.admin_count.toNat = r.admins.ncard
  some_admin : 1 ≤ r.admin_count.toNat

/-- Only the administrator's role counts. -/
theorem Registry.admins_set_role (r : Registry) (account : Address) (held : Bool)
    (count : Uint256) :
    ({ r with
        roles := set_role r.roles DEFAULT_ADMIN_ROLE account held
        admin_count := count } : Registry).admins =
      if held then insert account r.admins else r.admins \ {account} := by
  ext other
  show set_role r.roles DEFAULT_ADMIN_ROLE account held DEFAULT_ADMIN_ROLE other = true ↔ _
  rw [set_role_same]
  by_cases hother : other = account
  · rw [hother, Function.update_self]
    cases held <;> simp
  · rw [Function.update_of_ne hother]
    cases held <;> simp [hother, Registry.admins, Registry.has_role]

/-- A role that is not the admin role has no part in the set of admins. -/
theorem Registry.admins_set_other_role (r : Registry) {role : Bytes32} (account : Address)
    (held : Bool) (hrole : role ≠ DEFAULT_ADMIN_ROLE) :
    ({ r with roles := set_role r.roles role account held } : Registry).admins = r.admins := by
  ext other
  show set_role r.roles role account held DEFAULT_ADMIN_ROLE other = true ↔ _
  rw [set_role_other _ _ _ (Ne.symm hrole)]
  rfl

/-- A grant keeps the counter exact; on the way to the first admin it is exact too. -/
theorem add_role_exact {role : Bytes32} {account : Address}
    (h : add_role role account msg r = .ok (logs, r'))
    (hexact : r.admin_count.toNat = r.admins.ncard) :
    r'.admin_count.toNat = r'.admins.ncard := by
  rcases add_role_eq_ok h with ⟨_, rfl⟩ | ⟨hfree, count, hadmin, hother, rfl⟩
  · exact hexact
  · by_cases hrole : role = DEFAULT_ADMIN_ROLE
    · subst hrole
      -- the account is new among the admins
      have hnew : account ∉ r.admins := by
        show ¬ r.roles DEFAULT_ADMIN_ROLE account = true
        rw [hfree]
        exact Bool.false_ne_true
      rw [admins_set_role, if_pos rfl,
        Set.ncard_insert_of_notMem hnew (admins_finite _), ← hexact]
      exact hadmin rfl
    · rw [hother hrole, admins_set_other_role r account true hrole]
      exact hexact

/-- Granting never lowers the counter. -/
theorem add_role_count_mono {role : Bytes32} {account : Address}
    (h : add_role role account msg r = .ok (logs, r')) :
    r.admin_count.toNat ≤ r'.admin_count.toNat := by
  rcases add_role_eq_ok h with ⟨_, rfl⟩ | ⟨_, count, hadmin, hother, rfl⟩
  · exact Nat.le_refl _
  · by_cases hrole : role = DEFAULT_ADMIN_ROLE
    · have hcount := hadmin hrole
      show r.admin_count.toNat ≤ count.toNat
      omega
    · rw [hother hrole]

/-- A grant keeps the counter right. -/
theorem AdminsCounted.grant {role : Bytes32} {account : Address} (h : AdminsCounted r)
    (hcall : grant_role role account msg r = .ok (logs, r')) : AdminsCounted r' := by
  have hadd := (grant_role_eq_ok hcall).2
  exact ⟨add_role_exact hadd h.exact, Nat.le_trans h.some_admin (add_role_count_mono hadd)⟩

/-- So does a revocation. -/
theorem AdminsCounted.revoke {role : Bytes32} {account : Address} (h : AdminsCounted r)
    (hcall : revoke_role role account msg r = .ok (logs, r')) : AdminsCounted r' := by
  obtain ⟨_, hheld, count, hadmin, hother, rfl⟩ := revoke_role_eq_ok hcall
  by_cases hrole : role = DEFAULT_ADMIN_ROLE
  · subst hrole
    obtain ⟨hlast, hcount⟩ := hadmin rfl
    have hmem : account ∈ r.admins := hheld
    refine ⟨?_, ?_⟩
    · rw [admins_set_role, if_neg Bool.false_ne_true]
      have hcard := Set.ncard_sdiff_singleton_add_one hmem (admins_finite _)
      have hexact := h.exact
      show count.toNat = _
      omega
    · show 1 ≤ count.toNat
      omega
  · rw [hother hrole]
    refine ⟨?_, h.some_admin⟩
    rw [admins_set_other_role r account false hrole]
    exact h.exact

/-- A write that leaves the role table and the counter alone keeps the count. -/
theorem AdminsCounted.frame (h : AdminsCounted r) (hroles : r'.roles = r.roles)
    (hcount : r'.admin_count = r.admin_count) : AdminsCounted r' := by
  have hadmins : r'.admins = r.admins := by
    unfold Registry.admins Registry.has_role
    rw [hroles]
  exact ⟨by rw [hcount, hadmins, h.exact], by rw [hcount]; exact h.some_admin⟩

/-- Every accepted call keeps the count. -/
theorem AdminsCounted.body {tx : Transaction} (h : AdminsCounted r)
    (hbody : tx.body keccak256 r = .ok (logs, r')) : AdminsCounted r' := by
  obtain ⟨msg, call⟩ := tx
  cases call with
  | grant_role role account => exact h.grant hbody
  | revoke_role role account => exact h.revoke hbody
  | publish_root state_root version =>
    obtain ⟨_, _, _, rfl⟩ := publish_root_eq_ok hbody
    exact h.frame rfl rfl
  | revoke_root state_root =>
    obtain ⟨_, rfl⟩ := revoke_root_eq_ok hbody
    exact h.frame rfl rfl
  | publish_resolver anchor =>
    obtain ⟨_, _, _, rfl⟩ := publish_resolver_eq_ok hbody
    exact h.frame rfl rfl
  | update_resolver anchor =>
    obtain ⟨_, _, _, _, rfl⟩ := update_resolver_eq_ok hbody
    exact h.frame rfl rfl
  | revoke_resolver resolver_id_key =>
    obtain ⟨_, _, rfl⟩ := revoke_resolver_eq_ok hbody
    exact h.frame rfl rfl
  | bind_endpoint endpoint_key resolver_id_key =>
    obtain ⟨_, _, _, rfl⟩ := bind_endpoint_eq_ok hbody
    exact h.frame rfl rfl
  | unbind_endpoint endpoint_key =>
    obtain ⟨_, rfl⟩ := unbind_endpoint_eq_ok hbody
    exact h.frame rfl rfl

/-- The count is exact after every sequence of transactions. -/
theorem AdminsCounted.after (h : AdminsCounted r) (txs : List Transaction) :
    AdminsCounted (r.after keccak256 txs) :=
  after_keeps h (fun _ _ _ _ hr hbody => hr.body hbody) txs

/-! ## §2. The constructor. -/

/-- A grant cannot fail while the counter has room, or the account is an admin already. -/
theorem add_role_total (role : Bytes32) (account : Address) (msg : Message) (r : Registry)
    (h : r.admin_count = 0 ∨ r.roles DEFAULT_ADMIN_ROLE account = true) :
    ∃ logs r', add_role role account msg r = .ok (logs, r') ∧
      (role = DEFAULT_ADMIN_ROLE ∨ r.roles DEFAULT_ADMIN_ROLE account = true →
        r'.roles DEFAULT_ADMIN_ROLE account = true) := by
  unfold Registry.add_role
  by_cases hheld : r.roles role account = true
  · rw [if_pos hheld]
    refine ⟨[], r, rfl, ?_⟩
    intro hadmin
    rcases hadmin with rfl | hadmin
    · exact hheld
    · exact hadmin
  · rw [if_neg hheld]
    obtain ⟨count, hcount⟩ : ∃ count, for_admin role increment r.admin_count = .ok count := by
      unfold Registry.for_admin
      by_cases hrole : role = DEFAULT_ADMIN_ROLE
      · have hzero : r.admin_count = 0 := by
          refine h.resolve_right ?_
          rw [← hrole]
          exact hheld
        rw [if_pos (beq_iff_eq.mpr hrole), hzero]
        exact ⟨1, rfl⟩
      · rw [if_neg (by simpa using hrole)]
        exact ⟨r.admin_count, rfl⟩
    rw [hcount]
    refine ⟨_, _, rfl, ?_⟩
    intro hadmin
    show set_role r.roles role account true DEFAULT_ADMIN_ROLE account = true
    by_cases hrole : DEFAULT_ADMIN_ROLE = role
    · rw [← hrole, set_role_same, Function.update_self]
    · rw [set_role_other _ _ _ hrole]
      exact hadmin.resolve_left (Ne.symm hrole)

variable (keccak256) in
/-- Construction with a nonzero initial admin goes through, and counts it. -/
theorem construct_counted {initial_admin : Address} (msg : Message) (h : initial_admin ≠ 0) :
    ∃ logs r, construct keccak256 initial_admin msg = .ok (logs, r) ∧ AdminsCounted r := by
  have hexact₀ : blank.admin_count.toNat = blank.admins.ncard := by
    have hnone : blank.admins = ∅ :=
      Set.eq_empty_of_forall_notMem (fun _ => Bool.false_ne_true)
    rw [hnone, Set.ncard_empty]
    rfl
  -- the first grant makes the admin; the four after it cannot fail
  obtain ⟨logs₁, r₁, h₁, hadmin₁⟩ :=
    add_role_total DEFAULT_ADMIN_ROLE initial_admin msg .blank (Or.inl rfl)
  have ha₁ := hadmin₁ (Or.inl rfl)
  obtain ⟨logs₂, r₂, h₂, hadmin₂⟩ :=
    add_role_total (ROOT_PUBLISHER_ROLE keccak256) initial_admin msg r₁ (Or.inr ha₁)
  have ha₂ := hadmin₂ (Or.inr ha₁)
  obtain ⟨logs₃, r₃, h₃, hadmin₃⟩ :=
    add_role_total (RESOLVER_PUBLISHER_ROLE keccak256) initial_admin msg r₂ (Or.inr ha₂)
  have ha₃ := hadmin₃ (Or.inr ha₂)
  obtain ⟨logs₄, r₄, h₄, hadmin₄⟩ :=
    add_role_total (REVOKER_ROLE keccak256) initial_admin msg r₃ (Or.inr ha₃)
  have ha₄ := hadmin₄ (Or.inr ha₃)
  obtain ⟨logs₅, r₅, h₅, hadmin₅⟩ :=
    add_role_total (ENDPOINT_MANAGER_ROLE keccak256) initial_admin msg r₄ (Or.inr ha₄)
  have ha₅ := hadmin₅ (Or.inr ha₄)
  have hexact := add_role_exact h₅ (add_role_exact h₄ (add_role_exact h₃
    (add_role_exact h₂ (add_role_exact h₁ hexact₀))))
  have hsome : 1 ≤ r₅.admin_count.toNat := by
    rw [hexact]
    exact (Set.ncard_pos (admins_finite _)).mpr ⟨initial_admin, ha₅⟩
  refine ⟨logs₁ ++ logs₂ ++ logs₃ ++ logs₄ ++ logs₅, r₅, ?_, hexact, hsome⟩
  have hrequire : require (initial_admin != 0) "admin required" = .ok () :=
    require_eq_ok.mpr (bne_iff_ne.mpr h)
  unfold Registry.construct
  simp only [hrequire, ok_bind, h₁, h₂, h₃, h₄, h₅, pure_eq_ok]

/-! ## §3. Who may change what. -/

/-- The parts of the storage that differ, their writer held the role for. -/
structure Guarded (keccak256 : String → Bytes32) (r r' : Registry) (sender : Address) : Prop where
  role_table : r'.roles ≠ r.roles → r.has_role DEFAULT_ADMIN_ROLE sender = true
  counter : r'.admin_count ≠ r.admin_count → r.has_role DEFAULT_ADMIN_ROLE sender = true
  trust_roots : r'.root_records ≠ r.root_records →
    r.has_role (ROOT_PUBLISHER_ROLE keccak256) sender = true ∨
      r.has_role (REVOKER_ROLE keccak256) sender = true ∧ ∃ state_root,
        r'.root_records = Function.update r.root_records state_root
          { r.root_records state_root with status := .REVOKED }
  anchors : r'.resolver_anchors ≠ r.resolver_anchors →
    r.has_role (RESOLVER_PUBLISHER_ROLE keccak256) sender = true ∨
      r.has_role (REVOKER_ROLE keccak256) sender = true ∧ ∃ resolver_id_key,
        r'.resolver_anchors = Function.update r.resolver_anchors resolver_id_key
          { r.resolver_anchors resolver_id_key with status := .REVOKED }
  endpoints : r'.endpoint_to_resolver_id_key ≠ r.endpoint_to_resolver_id_key →
    r.has_role (ENDPOINT_MANAGER_ROLE keccak256) sender = true

/-- A write of the role table and the counter alone. -/
theorem Guarded.of_roles {roles : Bytes32 → Address → Bool} {count : Uint256} {sender : Address}
    (h : r.has_role DEFAULT_ADMIN_ROLE sender = true) :
    Guarded keccak256 r { r with roles := roles, admin_count := count } sender :=
  ⟨fun _ => h, fun _ => h, fun hne => absurd rfl hne, fun hne => absurd rfl hne,
    fun hne => absurd rfl hne⟩

/-- Nothing has changed, so nothing needs a role. -/
theorem Guarded.refl (r : Registry) (sender : Address) : Guarded keccak256 r r sender :=
  ⟨fun hne => absurd rfl hne, fun hne => absurd rfl hne, fun hne => absurd rfl hne,
    fun hne => absurd rfl hne, fun hne => absurd rfl hne⟩

/-- Every accepted call is guarded. -/
theorem body_guarded {tx : Transaction} (hbody : tx.body keccak256 r = .ok (logs, r')) :
    Guarded keccak256 r r' tx.msg.sender := by
  obtain ⟨msg, call⟩ := tx
  cases call with
  | grant_role role account =>
    obtain ⟨hadmin, hadd⟩ := grant_role_eq_ok hbody
    rcases add_role_eq_ok hadd with ⟨_, rfl⟩ | ⟨_, count, _, _, rfl⟩
    · exact Guarded.refl r' msg.sender
    · exact Guarded.of_roles hadmin
  | revoke_role role account =>
    obtain ⟨hadmin, _, count, _, _, rfl⟩ := revoke_role_eq_ok hbody
    exact Guarded.of_roles hadmin
  | publish_root state_root version =>
    obtain ⟨hrole, _, _, rfl⟩ := publish_root_eq_ok hbody
    exact { Guarded.refl r msg.sender with trust_roots := fun _ => Or.inl hrole }
  | revoke_root state_root =>
    obtain ⟨hrole, rfl⟩ := revoke_root_eq_ok hbody
    exact { Guarded.refl r msg.sender with
      trust_roots := fun _ => Or.inr ⟨hrole, state_root, rfl⟩ }
  | publish_resolver anchor =>
    obtain ⟨hrole, _, _, rfl⟩ := publish_resolver_eq_ok hbody
    exact { Guarded.refl r msg.sender with anchors := fun _ => Or.inl hrole }
  | update_resolver anchor =>
    obtain ⟨hrole, _, _, _, rfl⟩ := update_resolver_eq_ok hbody
    exact { Guarded.refl r msg.sender with anchors := fun _ => Or.inl hrole }
  | revoke_resolver resolver_id_key =>
    obtain ⟨hrole, _, rfl⟩ := revoke_resolver_eq_ok hbody
    exact { Guarded.refl r msg.sender with
      anchors := fun _ => Or.inr ⟨hrole, resolver_id_key, rfl⟩ }
  | bind_endpoint endpoint_key resolver_id_key =>
    obtain ⟨hrole, _, _, rfl⟩ := bind_endpoint_eq_ok hbody
    exact { Guarded.refl r msg.sender with endpoints := fun _ => hrole }
  | unbind_endpoint endpoint_key =>
    obtain ⟨hrole, rfl⟩ := unbind_endpoint_eq_ok hbody
    exact { Guarded.refl r msg.sender with endpoints := fun _ => hrole }

/-- For every deployment with a nonzero initial admin and every sequence of transactions:
the counter is the number of admins and never zero, and the next transaction changes a
component only if its sender held the role for it before. -/
theorem administration_safe {initial_admin : Address} (msg : Message)
    (hadmin : initial_admin ≠ 0) :
    ∃ logs r₀, construct keccak256 initial_admin msg = .ok (logs, r₀) ∧
      ∀ (txs : List Transaction) (tx : Transaction),
        let r := r₀.after keccak256 txs
        r.admin_count.toNat = r.admins.ncard ∧ 1 ≤ r.admin_count.toNat ∧
          Guarded keccak256 r (r.execute keccak256 tx).2 tx.msg.sender := by
  obtain ⟨logs, r₀, hconstruct, hcounted⟩ := construct_counted keccak256 msg hadmin
  refine ⟨logs, r₀, hconstruct, ?_⟩
  intro txs tx r
  have hr : AdminsCounted r := hcounted.after txs
  refine ⟨hr.exact, hr.some_admin, ?_⟩
  exact execute_keeps (Guarded.refl r tx.msg.sender) (fun _ _ hbody => body_guarded hbody)

/-- A deployment by account 7. -/
theorem administration_safe_deployed :
    (7 : Address) ≠ 0 ∧
      ∃ logs r₀, construct recorded_keccak256 7 ⟨7, 1000⟩ = .ok (logs, r₀) ∧
        ∀ (txs : List Transaction) (tx : Transaction),
          let r := r₀.after recorded_keccak256 txs
          r.admin_count.toNat = r.admins.ncard ∧ 1 ≤ r.admin_count.toNat ∧
            Guarded recorded_keccak256 r (r.execute recorded_keccak256 tx).2 tx.msg.sender :=
  ⟨by decide, administration_safe ⟨7, 1000⟩ (by decide)⟩

end ResolverIdentity.Contract
