/-
  ResolverIdentity.Contract.Registry: the on-chain registry of resolver anchors.

  `contracts/src/ResolverIdentityRegistryV1.sol`, function by function.  The
  four mappings and the admin counter are one record; a function body threads
  it and loses it on a failed `require`, so that a transaction is the body
  under `Library.transaction`: committed, or rolled back to the state before.
  A mapping that was never written reads as zeros.  `keccak256` is a parameter:
  the contract uses it for the four role names only.

  Main results:
    * `publish_root_eq_ok` … `unbind_endpoint_eq_ok`: for each function, what an
      accepted call has checked and what it has written;
    * `execute_cases`: a transaction commits its call's writes or changes nothing.
-/
import ResolverIdentity.Library.Transaction
import Mathlib.Data.List.Induction
import Mathlib.Logic.Function.Basic

namespace ResolverIdentity.Contract

open Library

/-! ## §1. Values. -/

/-- A `bytes32`. -/
abbrev Bytes32 := BitVec 256

/-- An `address`. -/
abbrev Address := BitVec 160

/-- A `uint256`. -/
abbrev Uint256 := BitVec 256

/-- A `uint64`. -/
abbrev Uint64 := BitVec 64

/-- The status of a record; `Unknown` is the value of an empty slot. -/
inductive Status where
  | UNKNOWN
  | ACTIVE
  | SUSPENDED
  | REVOKED
  | EXPIRED
deriving DecidableEq, Repr

/-- The anchor of one resolver. -/
structure ResolverAnchor where
  resolver_id_key : Bytes32
  object_hash : Bytes32
  state_root : Bytes32
  object_version : Uint64
  valid_until : Uint64
  status : Status
deriving DecidableEq, Repr

/-- A published state root. -/
structure RootRecord where
  state_root : Bytes32
  status : Status
  published_at : Uint64
  version : Uint64
deriving DecidableEq, Repr

/-- The logs, with the arguments the contract emits them with. -/
inductive Event where
  | RoleGranted (role : Bytes32) (account sender : Address)
  | RoleRevoked (role : Bytes32) (account sender : Address)
  | RootPublished (state_root : Bytes32) (version published_at : Uint64) (status : Status)
  | RootRevoked (state_root : Bytes32) (version : Uint64)
  | ResolverPublished (anchor : ResolverAnchor)
  | ResolverUpdated (anchor : ResolverAnchor)
  | ResolverRevoked (resolver_id_key : Bytes32) (object_version : Uint64) (state_root : Bytes32)
  | EndpointBound (endpoint_key resolver_id_key : Bytes32)
  | EndpointUnbound (endpoint_key resolver_id_key : Bytes32)
deriving DecidableEq, Repr

/-- The contract's storage. -/
structure Registry where
  roles : Bytes32 → Address → Bool
  endpoint_to_resolver_id_key : Bytes32 → Bytes32
  resolver_anchors : Bytes32 → ResolverAnchor
  root_records : Bytes32 → RootRecord
  admin_count : Uint256

/-- Storage before the constructor runs: every slot is zero. -/
def Registry.blank : Registry where
  roles := fun _ _ => false
  endpoint_to_resolver_id_key := fun _ => 0
  resolver_anchors := fun _ => ⟨0, 0, 0, 0, 0, .UNKNOWN⟩
  root_records := fun _ => ⟨0, .UNKNOWN, 0, 0⟩
  admin_count := 0

/-- What the virtual machine tells a call: who sent it, and the block's time. -/
structure Message where
  sender : Address
  block_timestamp : Uint256
deriving DecidableEq, Repr

/-- The role that administers all others. -/
def DEFAULT_ADMIN_ROLE : Bytes32 := 0

section Names
variable (keccak256 : String → Bytes32)

/-- May publish roots. -/
def ROOT_PUBLISHER_ROLE : Bytes32 := keccak256 "ROOT_PUBLISHER_ROLE"

/-- May publish and update anchors. -/
def RESOLVER_PUBLISHER_ROLE : Bytes32 := keccak256 "RESOLVER_PUBLISHER_ROLE"

/-- May revoke roots and anchors. -/
def REVOKER_ROLE : Bytes32 := keccak256 "REVOKER_ROLE"

/-- May bind and unbind endpoints. -/
def ENDPOINT_MANAGER_ROLE : Bytes32 := keccak256 "ENDPOINT_MANAGER_ROLE"

end Names

/-- The hashes of the four role names, as the chain computes them. -/
def recorded_keccak256 : String → Bytes32
  | "ROOT_PUBLISHER_ROLE" =>
    0xac0e13db5ca15634c325fabc1c2d49a386099c446c1fcef0b7039dd3900b2772
  | "RESOLVER_PUBLISHER_ROLE" =>
    0x3f51a0465855722ea7a4f3a87acee187180657a2a2bb94663d88af721f1397e9
  | "REVOKER_ROLE" =>
    0xce3f34913921da558f105cefb578d87278debbbd073a8d552b5de0d168deee30
  | "ENDPOINT_MANAGER_ROLE" =>
    0xeaca467f9349ef73092d3b577163e98080ffa07b7d6618c536772485dc3aacbc
  | _ => 0

/-! ## §2. Checks. -/

/-- `require(c, reason)` -/
def require (c : Bool) (reason : String) : Except String Unit := rejectIf (!c) reason

@[simp] theorem require_eq_ok {c : Bool} {reason : String} {u : Unit} :
    require c reason = .ok u ↔ c = true := by
  unfold require
  rw [rejectIf_eq_ok, Bool.not_eq_false']

/-- Checked `+= 1`: an overflow is a panic, which reverts as well. -/
def increment (n : Uint256) : Except String Uint256 := do
  rejectIf (n == BitVec.allOnes 256) "arithmetic overflow"
  return n + 1

/-- Checked `-= 1`. -/
def decrement (n : Uint256) : Except String Uint256 := do
  rejectIf (n == 0) "arithmetic underflow"
  return n - 1

/-- An increment that goes through is exact. -/
theorem increment_eq_ok {n n' : Uint256} (h : increment n = .ok n') : n'.toNat = n.toNat + 1 := by
  simp only [increment, bind_eq_ok, rejectIf_eq_ok, pure_eq_ok, Except.ok.injEq] at h
  obtain ⟨_, hmax, rfl⟩ := h
  have hne : n ≠ BitVec.allOnes 256 := by simpa using hmax
  have hlt : n.toNat ≠ 2 ^ 256 - 1 := by
    intro heq
    apply hne
    apply BitVec.eq_of_toNat_eq
    rw [BitVec.toNat_allOnes, heq]
  have hbound := n.isLt
  rw [BitVec.toNat_add]
  show (n.toNat + 1) % 2 ^ 256 = n.toNat + 1
  omega

/-- A decrement that goes through is exact. -/
theorem decrement_eq_ok {n n' : Uint256} (h : decrement n = .ok n') : n'.toNat + 1 = n.toNat := by
  simp only [decrement, bind_eq_ok, rejectIf_eq_ok, pure_eq_ok, Except.ok.injEq] at h
  obtain ⟨_, hzero, rfl⟩ := h
  have hne : n ≠ 0 := by simpa using hzero
  have hpos : n.toNat ≠ 0 := by
    intro heq
    apply hne
    apply BitVec.eq_of_toNat_eq
    rw [heq]
    rfl
  have hbound := n.isLt
  rw [BitVec.toNat_sub]
  show (2 ^ 256 - 1 + n.toNat) % 2 ^ 256 + 1 = n.toNat
  omega

namespace Registry

variable (keccak256 : String → Bytes32)

/-- `hasRole`. -/
def has_role (r : Registry) (role : Bytes32) (account : Address) : Bool := r.roles role account

/-- The modifier `onlyRole`. -/
def only_role (r : Registry) (role : Bytes32) (msg : Message) : Except String Unit :=
  require (r.has_role role msg.sender) "missing role"

/-- `_validateAnchorInput`, on the anchor the caller is about to store. -/
def validate_anchor_input (anchor : ResolverAnchor) (msg : Message) (r : Registry) :
    Except String Unit := do
  require (anchor.resolver_id_key != 0) "resolver id required"
  require (anchor.object_hash != 0) "object hash required"
  require (anchor.state_root != 0) "root required"
  require (decide (0 < anchor.object_version)) "version required"
  require (decide (msg.block_timestamp < anchor.valid_until.setWidth 256)) "invalid validUntil"
  require (anchor.status == .ACTIVE || anchor.status == .SUSPENDED) "invalid status"
  require ((r.root_records anchor.state_root).status == .ACTIVE) "root not active"

/-! ## §3. Roles. -/

/-- `roles[role][account] = held` -/
def set_role (roles : Bytes32 → Address → Bool) (role : Bytes32) (account : Address)
    (held : Bool) : Bytes32 → Address → Bool :=
  Function.update roles role (Function.update (roles role) account held)

/-- `if (role == DEFAULT_ADMIN_ROLE) { ... }` on the counter. -/
def for_admin (role : Bytes32) (change : Uint256 → Except String Uint256)
    (admin_count : Uint256) : Except String Uint256 :=
  if role == DEFAULT_ADMIN_ROLE then change admin_count else .ok admin_count

/-- `_grantRole` -/
def add_role (role : Bytes32) (account : Address) (msg : Message) :
    Body Registry String (List Event) := fun r => do
  if r.roles role account then
    return ([], r)
  else
    let admin_count ← for_admin role increment r.admin_count
    return ([.RoleGranted role account msg.sender],
      { r with
        roles := set_role r.roles role account true
        admin_count := admin_count })

/-- `grantRole`; granting twice changes nothing. -/
def grant_role (role : Bytes32) (account : Address) (msg : Message) :
    Body Registry String (List Event) := fun r => do
  r.only_role DEFAULT_ADMIN_ROLE msg
  require (account != 0) "account required"
  add_role role account msg r

/-- `revokeRole`; the last administrator stays. -/
def revoke_role (role : Bytes32) (account : Address) (msg : Message) :
    Body Registry String (List Event) := fun r => do
  r.only_role DEFAULT_ADMIN_ROLE msg
  require (r.roles role account) "role not granted"
  let admin_count ← for_admin role (fun count => do
    require (decide (1 < count)) "last admin required"
    decrement count) r.admin_count
  return ([.RoleRevoked role account msg.sender],
    { r with
      roles := set_role r.roles role account false
      admin_count := admin_count })

/-- The constructor, on blank storage. -/
def construct (initial_admin : Address) (msg : Message) :
    Except String (List Event × Registry) := do
  require (initial_admin != 0) "admin required"
  let (admin, r) ← add_role DEFAULT_ADMIN_ROLE initial_admin msg .blank
  let (roots, r) ← add_role (ROOT_PUBLISHER_ROLE keccak256) initial_admin msg r
  let (resolvers, r) ← add_role (RESOLVER_PUBLISHER_ROLE keccak256) initial_admin msg r
  let (revoker, r) ← add_role (REVOKER_ROLE keccak256) initial_admin msg r
  let (endpoints, r) ← add_role (ENDPOINT_MANAGER_ROLE keccak256) initial_admin msg r
  return (admin ++ roots ++ resolvers ++ revoker ++ endpoints, r)

/-! ## §4. Trust roots. -/

/-- `publishRoot`: a root that is not revoked, at a higher version than it has. -/
def publish_root (state_root : Bytes32) (version : Uint64) (msg : Message) :
    Body Registry String (List Event) := fun r => do
  r.only_role (ROOT_PUBLISHER_ROLE keccak256) msg
  require (state_root != 0) "root required"
  require ((r.root_records state_root).status != .REVOKED) "root permanently revoked"
  require (decide ((r.root_records state_root).version < version)) "version must increase"
  -- `uint64(block.timestamp)` keeps the low 64 bits
  let published_at := msg.block_timestamp.setWidth 64
  return ([.RootPublished state_root version published_at .ACTIVE],
    { r with
      root_records := Function.update r.root_records state_root
        ⟨state_root, .ACTIVE, published_at, version⟩ })

/-- `revokeRoot`. -/
def revoke_root (state_root : Bytes32) (msg : Message) : Body Registry String (List Event) :=
  fun r => do
  r.only_role (REVOKER_ROLE keccak256) msg
  let root := r.root_records state_root
  require (root.state_root != 0) "missing root"
  return ([.RootRevoked state_root root.version],
    { r with
      root_records := Function.update r.root_records state_root
        { root with status := .REVOKED } })

/-! ## §5. Resolvers. -/

/-- `publishResolver`: a key without an anchor. -/
def publish_resolver (anchor : ResolverAnchor) (msg : Message) :
    Body Registry String (List Event) := fun r => do
  r.only_role (RESOLVER_PUBLISHER_ROLE keccak256) msg
  validate_anchor_input anchor msg r
  let current := r.resolver_anchors anchor.resolver_id_key
  require (current.object_version == 0) "already exists"
  return ([.ResolverPublished anchor],
    { r with
      resolver_anchors := Function.update r.resolver_anchors anchor.resolver_id_key anchor })

/-- `updateResolver`: a higher version of an anchor that is not revoked. -/
def update_resolver (anchor : ResolverAnchor) (msg : Message) :
    Body Registry String (List Event) := fun r => do
  r.only_role (RESOLVER_PUBLISHER_ROLE keccak256) msg
  validate_anchor_input anchor msg r
  let current := r.resolver_anchors anchor.resolver_id_key
  require (current.object_version != 0) "missing resolver"
  require (current.status != .REVOKED) "resolver permanently revoked"
  require (decide (current.object_version < anchor.object_version)) "version must increase"
  return ([.ResolverUpdated anchor],
    { r with
      resolver_anchors := Function.update r.resolver_anchors anchor.resolver_id_key anchor })

/-- `revokeResolver`. -/
def revoke_resolver (resolver_id_key : Bytes32) (msg : Message) :
    Body Registry String (List Event) := fun r => do
  r.only_role (REVOKER_ROLE keccak256) msg
  require (resolver_id_key != 0) "resolver id required"
  let current := r.resolver_anchors resolver_id_key
  require (current.object_version != 0) "missing resolver"
  return ([.ResolverRevoked resolver_id_key current.object_version current.state_root],
    { r with
      resolver_anchors := Function.update r.resolver_anchors resolver_id_key
        { current with status := .REVOKED } })

/-! ## §6. Endpoints. -/

/-- `bindEndpoint`: an endpoint that is free or bound there already. -/
def bind_endpoint (endpoint_key resolver_id_key : Bytes32) (msg : Message) :
    Body Registry String (List Event) := fun r => do
  r.only_role (ENDPOINT_MANAGER_ROLE keccak256) msg
  require (endpoint_key != 0) "endpoint required"
  require (resolver_id_key != 0) "resolver id required"
  let anchor := r.resolver_anchors resolver_id_key
  require (anchor.object_version != 0) "missing resolver"
  require (anchor.status == .ACTIVE || anchor.status == .SUSPENDED) "resolver not bindable"
  require (decide (msg.block_timestamp < anchor.valid_until.setWidth 256)) "resolver expired"
  let existing := r.endpoint_to_resolver_id_key endpoint_key
  require (existing == 0 || existing == resolver_id_key) "endpoint conflict"
  return ([.EndpointBound endpoint_key resolver_id_key],
    { r with
      endpoint_to_resolver_id_key :=
        Function.update r.endpoint_to_resolver_id_key endpoint_key resolver_id_key })

/-- `unbindEndpoint`. -/
def unbind_endpoint (endpoint_key : Bytes32) (msg : Message) :
    Body Registry String (List Event) := fun r => do
  r.only_role (ENDPOINT_MANAGER_ROLE keccak256) msg
  require (endpoint_key != 0) "endpoint required"
  let resolver_id_key := r.endpoint_to_resolver_id_key endpoint_key
  require (resolver_id_key != 0) "missing endpoint"
  return ([.EndpointUnbound endpoint_key resolver_id_key],
    { r with
      endpoint_to_resolver_id_key :=
        Function.update r.endpoint_to_resolver_id_key endpoint_key 0 })

end Registry

/-! ## §7. Transactions. -/

/-- The contract's functions that may write, with their arguments; an anchor stands
for the six arguments it is built from. -/
inductive Call where
  | grant_role (role : Bytes32) (account : Address)
  | revoke_role (role : Bytes32) (account : Address)
  | publish_root (state_root : Bytes32) (version : Uint64)
  | revoke_root (state_root : Bytes32)
  | publish_resolver (anchor : ResolverAnchor)
  | update_resolver (anchor : ResolverAnchor)
  | revoke_resolver (resolver_id_key : Bytes32)
  | bind_endpoint (endpoint_key resolver_id_key : Bytes32)
  | unbind_endpoint (endpoint_key : Bytes32)
deriving DecidableEq, Repr

/-- The calls of the contract. -/
structure Transaction where
  msg : Message
  call : Call
deriving DecidableEq, Repr

section Runs
variable (keccak256 : String → Bytes32)

/-- The function a transaction calls. -/
def Transaction.body (tx : Transaction) : Body Registry String (List Event) :=
  match tx.call with
  | .grant_role role account => Registry.grant_role role account tx.msg
  | .revoke_role role account => Registry.revoke_role role account tx.msg
  | .publish_root state_root version => Registry.publish_root keccak256 state_root version tx.msg
  | .revoke_root state_root => Registry.revoke_root keccak256 state_root tx.msg
  | .publish_resolver anchor => Registry.publish_resolver keccak256 anchor tx.msg
  | .update_resolver anchor => Registry.update_resolver keccak256 anchor tx.msg
  | .revoke_resolver resolver_id_key =>
    Registry.revoke_resolver keccak256 resolver_id_key tx.msg
  | .bind_endpoint endpoint_key resolver_id_key =>
    Registry.bind_endpoint keccak256 endpoint_key resolver_id_key tx.msg
  | .unbind_endpoint endpoint_key => Registry.unbind_endpoint keccak256 endpoint_key tx.msg

/-- Execute one transaction: its logs or the revert reason, and the storage after it. -/
def Registry.execute (r : Registry) (tx : Transaction) : Except String (List Event) × Registry :=
  transaction (tx.body keccak256) r

/-- The storage after a sequence of transactions. -/
def Registry.after (r : Registry) (txs : List Transaction) : Registry :=
  txs.foldl (fun r tx => (r.execute keccak256 tx).2) r

@[simp] theorem Registry.after_nil (r : Registry) : r.after keccak256 [] = r := rfl

/-- A run in two stretches. -/
theorem Registry.after_append (r : Registry) (pre post : List Transaction) :
    r.after keccak256 (pre ++ post) = (r.after keccak256 pre).after keccak256 post :=
  List.foldl_append

/-- A run and one more transaction. -/
theorem Registry.after_snoc (r : Registry) (txs : List Transaction) (tx : Transaction) :
    r.after keccak256 (txs ++ [tx]) = ((r.after keccak256 txs).execute keccak256 tx).2 := by
  rw [Registry.after_append]
  rfl

end Runs

/-! ## §8. What an accepted call has checked and written. -/

namespace Registry

variable {keccak256 : String → Bytes32} {r r' : Registry} {msg : Message} {logs : List Event}

/-- The role that is set. -/
theorem set_role_same (roles : Bytes32 → Address → Bool) (role : Bytes32) (account : Address)
    (held : Bool) :
    set_role roles role account held role = Function.update (roles role) account held :=
  Function.update_self ..

/-- Every other role. -/
theorem set_role_other (roles : Bytes32 → Address → Bool) {role other : Bytes32}
    (account : Address) (held : Bool) (hne : other ≠ role) :
    set_role roles role account held other = roles other :=
  Function.update_of_ne hne ..

/-- What `_validateAnchorInput` lets through. -/
theorem validate_anchor_input_eq_ok {anchor : ResolverAnchor} {u : Unit}
    (h : validate_anchor_input anchor msg r = .ok u) :
    anchor.resolver_id_key ≠ 0 ∧ 0 < anchor.object_version ∧
      (anchor.status = .ACTIVE ∨ anchor.status = .SUSPENDED) ∧
      (r.root_records anchor.state_root).status = .ACTIVE := by
  simp only [validate_anchor_input, bind_eq_ok, exists_unit, require_eq_ok, bne_iff_ne,
    decide_eq_true_eq, Bool.or_eq_true, beq_iff_eq] at h
  exact ⟨h.1, h.2.2.2.1, h.2.2.2.2.2.1, h.2.2.2.2.2.2⟩

theorem for_admin_eq_ok {role : Bytes32} {change : Uint256 → Except String Uint256}
    {count count' : Uint256} (h : for_admin role change count = .ok count') :
    (role = DEFAULT_ADMIN_ROLE → change count = .ok count') ∧
      (role ≠ DEFAULT_ADMIN_ROLE → count' = count) := by
  unfold for_admin at h
  by_cases hrole : role = DEFAULT_ADMIN_ROLE
  · rw [if_pos (beq_iff_eq.mpr hrole)] at h
    exact ⟨fun _ => h, fun hne => absurd hrole hne⟩
  · rw [if_neg (by simpa using hrole)] at h
    exact ⟨fun heq => absurd heq hrole, fun _ => (Except.ok.inj h).symm⟩

/-- A grant leaves the table alone, or adds the account and counts it if it is an admin. -/
theorem add_role_eq_ok {role : Bytes32} {account : Address}
    (h : add_role role account msg r = .ok (logs, r')) :
    (r.roles role account = true ∧ r' = r) ∨
      (r.roles role account = false ∧ ∃ count : Uint256,
        (role = DEFAULT_ADMIN_ROLE → count.toNat = r.admin_count.toNat + 1) ∧
        (role ≠ DEFAULT_ADMIN_ROLE → count = r.admin_count) ∧
        r' = { r with roles := set_role r.roles role account true, admin_count := count }) := by
  unfold add_role at h
  by_cases hheld : r.roles role account = true
  · rw [if_pos hheld] at h
    exact Or.inl ⟨hheld, (Prod.mk.inj (Except.ok.inj h)).2.symm⟩
  · rw [if_neg hheld] at h
    obtain ⟨count, hcount, h⟩ := bind_eq_ok.mp h
    obtain ⟨hadmin, hother⟩ := for_admin_eq_ok hcount
    exact Or.inr ⟨eq_false_of_ne_true hheld, count, fun hrole => increment_eq_ok (hadmin hrole),
      hother, (Prod.mk.inj (Except.ok.inj h)).2.symm⟩

/-- What a granted role says of the sender and the state. -/
theorem grant_role_eq_ok {role : Bytes32} {account : Address}
    (h : grant_role role account msg r = .ok (logs, r')) :
    r.has_role DEFAULT_ADMIN_ROLE msg.sender = true ∧
      add_role role account msg r = .ok (logs, r') := by
  simp only [grant_role, only_role, bind_eq_ok, exists_unit, require_eq_ok] at h
  exact ⟨h.1, h.2.2⟩

/-- A revocation takes the role from a holder; of an admin, only past the last one. -/
theorem revoke_role_eq_ok {role : Bytes32} {account : Address}
    (h : revoke_role role account msg r = .ok (logs, r')) :
    r.has_role DEFAULT_ADMIN_ROLE msg.sender = true ∧ r.roles role account = true ∧
      ∃ count : Uint256,
        (role = DEFAULT_ADMIN_ROLE → 1 < r.admin_count.toNat ∧
          count.toNat + 1 = r.admin_count.toNat) ∧
        (role ≠ DEFAULT_ADMIN_ROLE → count = r.admin_count) ∧
        r' = { r with roles := set_role r.roles role account false, admin_count := count } := by
  simp only [revoke_role, only_role, bind_eq_ok (α := Unit), exists_unit, require_eq_ok] at h
  obtain ⟨hadmin, hheld, h⟩ := h
  obtain ⟨count, hcount, h⟩ := bind_eq_ok.mp h
  obtain ⟨hchange, hother⟩ := for_admin_eq_ok hcount
  refine ⟨hadmin, hheld, count, ?_, hother, (Prod.mk.inj (Except.ok.inj h)).2.symm⟩
  intro hrole
  obtain ⟨_, hlast, hcount⟩ := bind_eq_ok.mp (hchange hrole)
  exact ⟨BitVec.lt_def.mp (of_decide_eq_true (require_eq_ok.mp hlast)), decrement_eq_ok hcount⟩

/-- What a published root says of the sender and the state. -/
theorem publish_root_eq_ok {state_root : Bytes32} {version : Uint64}
    (h : publish_root keccak256 state_root version msg r = .ok (logs, r')) :
    r.has_role (ROOT_PUBLISHER_ROLE keccak256) msg.sender = true ∧
      (r.root_records state_root).status ≠ .REVOKED ∧
      (r.root_records state_root).version < version ∧
      r' = { r with
        root_records := Function.update r.root_records state_root
          ⟨state_root, .ACTIVE, msg.block_timestamp.setWidth 64, version⟩ } := by
  simp only [publish_root, only_role, bind_eq_ok, exists_unit, require_eq_ok, bne_iff_ne,
    decide_eq_true_eq, pure_eq_ok, Except.ok.injEq, Prod.mk.injEq] at h
  exact ⟨h.1, h.2.2.1, h.2.2.2.1, h.2.2.2.2.2.symm⟩

/-- What a revoked root says of the sender and the state. -/
theorem revoke_root_eq_ok {state_root : Bytes32}
    (h : revoke_root keccak256 state_root msg r = .ok (logs, r')) :
    r.has_role (REVOKER_ROLE keccak256) msg.sender = true ∧
      r' = { r with
        root_records := Function.update r.root_records state_root
          { r.root_records state_root with status := .REVOKED } } := by
  simp only [revoke_root, only_role, bind_eq_ok, exists_unit, require_eq_ok, pure_eq_ok,
    Except.ok.injEq, Prod.mk.injEq] at h
  exact ⟨h.1, h.2.2.2.symm⟩

/-- What a published anchor says of the sender and the state. -/
theorem publish_resolver_eq_ok {anchor : ResolverAnchor}
    (h : publish_resolver keccak256 anchor msg r = .ok (logs, r')) :
    r.has_role (RESOLVER_PUBLISHER_ROLE keccak256) msg.sender = true ∧
      validate_anchor_input anchor msg r = .ok () ∧
      (r.resolver_anchors anchor.resolver_id_key).object_version = 0 ∧
      r' = { r with
        resolver_anchors := Function.update r.resolver_anchors anchor.resolver_id_key anchor } := by
  simp only [publish_resolver, only_role, bind_eq_ok, exists_unit, require_eq_ok, beq_iff_eq,
    pure_eq_ok, Except.ok.injEq, Prod.mk.injEq] at h
  exact ⟨h.1, h.2.1, h.2.2.1, h.2.2.2.2.symm⟩

/-- What an updated anchor says of the sender and the state. -/
theorem update_resolver_eq_ok {anchor : ResolverAnchor}
    (h : update_resolver keccak256 anchor msg r = .ok (logs, r')) :
    r.has_role (RESOLVER_PUBLISHER_ROLE keccak256) msg.sender = true ∧
      validate_anchor_input anchor msg r = .ok () ∧
      (r.resolver_anchors anchor.resolver_id_key).status ≠ .REVOKED ∧
      (r.resolver_anchors anchor.resolver_id_key).object_version < anchor.object_version ∧
      r' = { r with
        resolver_anchors := Function.update r.resolver_anchors anchor.resolver_id_key anchor } := by
  simp only [update_resolver, only_role, bind_eq_ok, exists_unit, require_eq_ok, bne_iff_ne,
    decide_eq_true_eq, pure_eq_ok, Except.ok.injEq, Prod.mk.injEq] at h
  exact ⟨h.1, h.2.1, h.2.2.2.1, h.2.2.2.2.1, h.2.2.2.2.2.2.symm⟩

/-- What a revoked anchor says of the sender and the state. -/
theorem revoke_resolver_eq_ok {resolver_id_key : Bytes32}
    (h : revoke_resolver keccak256 resolver_id_key msg r = .ok (logs, r')) :
    r.has_role (REVOKER_ROLE keccak256) msg.sender = true ∧
      (r.resolver_anchors resolver_id_key).object_version ≠ 0 ∧
      r' = { r with
        resolver_anchors := Function.update r.resolver_anchors resolver_id_key
          { r.resolver_anchors resolver_id_key with status := .REVOKED } } := by
  simp only [revoke_resolver, only_role, bind_eq_ok, exists_unit, require_eq_ok, bne_iff_ne,
    pure_eq_ok, Except.ok.injEq, Prod.mk.injEq] at h
  exact ⟨h.1, h.2.2.1, h.2.2.2.2.symm⟩

/-- What a bound endpoint says of the sender and the state. -/
theorem bind_endpoint_eq_ok {endpoint_key resolver_id_key : Bytes32}
    (h : bind_endpoint keccak256 endpoint_key resolver_id_key msg r = .ok (logs, r')) :
    r.has_role (ENDPOINT_MANAGER_ROLE keccak256) msg.sender = true ∧
      (r.resolver_anchors resolver_id_key).object_version ≠ 0 ∧
      (r.endpoint_to_resolver_id_key endpoint_key = 0 ∨
        r.endpoint_to_resolver_id_key endpoint_key = resolver_id_key) ∧
      r' = { r with
        endpoint_to_resolver_id_key :=
          Function.update r.endpoint_to_resolver_id_key endpoint_key resolver_id_key } := by
  simp only [bind_endpoint, only_role, bind_eq_ok, exists_unit, require_eq_ok, bne_iff_ne,
    Bool.or_eq_true, beq_iff_eq, pure_eq_ok, Except.ok.injEq, Prod.mk.injEq] at h
  exact ⟨h.1, h.2.2.2.1, h.2.2.2.2.2.2.1, h.2.2.2.2.2.2.2.2.symm⟩

/-- What an unbound endpoint says of the sender and the state. -/
theorem unbind_endpoint_eq_ok {endpoint_key : Bytes32}
    (h : unbind_endpoint keccak256 endpoint_key msg r = .ok (logs, r')) :
    r.has_role (ENDPOINT_MANAGER_ROLE keccak256) msg.sender = true ∧
      r' = { r with
        endpoint_to_resolver_id_key :=
          Function.update r.endpoint_to_resolver_id_key endpoint_key 0 } := by
  simp only [unbind_endpoint, only_role, bind_eq_ok, exists_unit, require_eq_ok, pure_eq_ok,
    Except.ok.injEq, Prod.mk.injEq] at h
  exact ⟨h.1, h.2.2.2.2.symm⟩

/-- A transaction commits its call's writes, or reverts. -/
theorem execute_cases (keccak256 : String → Bytes32) (r : Registry) (tx : Transaction) :
    (∃ logs r', tx.body keccak256 r = .ok (logs, r') ∧
      r.execute keccak256 tx = (.ok logs, r')) ∨
      ∃ reason, r.execute keccak256 tx = (.error reason, r) := by
  unfold execute transaction
  cases h : tx.body keccak256 r with
  | error reason => exact Or.inr ⟨reason, rfl⟩
  | ok result => exact Or.inl ⟨result.1, result.2, rfl, rfl⟩

/-- What every accepted call keeps of the storage, every transaction keeps. -/
theorem execute_keeps {I : Registry → Prop} {tx : Transaction} (h : I r)
    (step : ∀ logs r', tx.body keccak256 r = .ok (logs, r') → I r') :
    I (r.execute keccak256 tx).2 := by
  rcases execute_cases keccak256 r tx with ⟨logs, r', hbody, hrun⟩ | ⟨reason, hrun⟩
  · rw [hrun]
    exact step logs r' hbody
  · rw [hrun]
    exact h

/-- An invariant of the accepted calls holds after every sequence of transactions. -/
theorem after_keeps {I : Registry → Prop} (h : I r)
    (step : ∀ (r : Registry) (tx : Transaction) logs r', I r →
      tx.body keccak256 r = .ok (logs, r') → I r') (txs : List Transaction) :
    I (r.after keccak256 txs) := by
  induction txs using List.reverseRecOn with
  | nil => exact h
  | append_singleton txs tx ih =>
    rw [after_snoc]
    exact execute_keeps ih (fun logs r' hbody => step _ tx logs r' ih hbody)

end Registry

end ResolverIdentity.Contract
