/-
  ResolverIdentity.Core.Deserialize: reading a signed identity.

  `Deserialize` of `DnsEndpoint`, `AgentBindingV2` and `DnsServerIdentityV2`, as serde
  derives it: a member that no field is named after is skipped, an `Option` field is
  `None` where its member is missing or null, and `#[serde(default)]` only helps a
  member that is missing.  A struct is read from an object.

  Main results:
    * `read_option_eq_ok`: what an `Option` field can be read from;
    * `DnsEndpoint.from_value_eq_ok`, `DnsServerIdentityV2.from_value_eq_ok`: the members of
      what is read.
-/
import Mathlib.Algebra.Order.Ring.Int
import ResolverIdentity.Core.Serialize

namespace ResolverIdentity

open Library

namespace Json

/-! ## §1. Members. -/

section Readers

variable {α : Type}

/-- A `String`. -/
def read_string : Json → Except String String
  | .string s => .ok s
  | _ => .error "invalid type: expected a string"

/-- A `bool`. -/
def read_bool : Json → Except String Bool
  | .bool b => .ok b
  | _ => .error "invalid type: expected a boolean"

/-- `u16` and `u64`. -/
def read_unsigned (bits : Nat) : Json → Except String Nat
  | .number n =>
    if 0 ≤ n ∧ n < 2 ^ bits then .ok n.toNat else .error "invalid value: integer out of range"
  | _ => .error "invalid type: expected an unsigned integer"

/-- `i64`. -/
def read_signed (bits : Nat) : Json → Except String Int
  | .number n =>
    if -2 ^ (bits - 1) ≤ n ∧ n < 2 ^ (bits - 1) then .ok n
    else .error "invalid value: integer out of range"
  | _ => .error "invalid type: expected an integer"

/-- `Vec<T>`. -/
def read_list (read : Json → Except String α) : Json → Except String (List α)
  | .array items => items.mapM read
  | _ => .error "invalid type: expected a sequence"

/-- A field of its type. -/
def read_required (key : String) (read : Json → Except String α) : Option Json → Except String α
  | none => .error ("missing field `" ++ key ++ "`")
  | some value => read value

/-- `Option<T>`. -/
def read_option (read : Json → Except String α) : Option Json → Except String (Option α)
  | none => .ok none
  | some .null => .ok none
  | some value => do
    let a ← read value
    .ok (some a)

/-- `#[serde(default)]`. -/
def read_default (default : α) (read : Json → Except String α) : Option Json → Except String α
  | none => .ok default
  | some value => read value

end Readers

/-- The member is missing or null. -/
def Absent (member : Option Json) : Prop := member = none ∨ member = some .null

theorem read_string_eq_ok {value : Json} {s : String} :
    read_string value = .ok s ↔ value = .string s := by
  cases value <;> simp [read_string]

theorem read_bool_eq_ok {value : Json} {b : Bool} : read_bool value = .ok b ↔ value = .bool b := by
  cases value <;> simp [read_bool]

theorem read_unsigned_eq_ok {bits : Nat} {value : Json} {n : Nat} :
    read_unsigned bits value = .ok n ↔ value = .number n ∧ n < 2 ^ bits := by
  cases value with
  | number m =>
    rw [read_unsigned]
    have hpow : ((2 ^ bits : Nat) : Int) = 2 ^ bits := by push_cast; rfl
    constructor
    · intro h
      split at h
      case isTrue hrange =>
        rw [← Except.ok.inj h, Int.toNat_of_nonneg hrange.1]
        refine ⟨rfl, ?_⟩
        omega
      case isFalse => cases h
    · intro h
      obtain ⟨heq, hrange⟩ := h
      rw [Json.number.inj heq, if_pos ⟨by omega, by omega⟩, Int.toNat_natCast]
  | _ => simp [read_unsigned]

theorem read_signed_eq_ok {bits : Nat} {value : Json} {n : Int} :
    read_signed bits value = .ok n ↔
      value = .number n ∧ -2 ^ (bits - 1) ≤ n ∧ n < 2 ^ (bits - 1) := by
  cases value with
  | number m =>
    rw [read_signed]
    constructor
    · intro h
      split at h
      case isTrue hrange =>
        rw [← Except.ok.inj h]
        exact ⟨rfl, hrange⟩
      case isFalse => cases h
    · intro h
      obtain ⟨heq, hrange⟩ := h
      rw [Json.number.inj heq, if_pos hrange]
  | _ => simp [read_signed]

theorem read_list_eq_ok {α : Type} {read : Json → Except String α} {value : Json} {out : List α} :
    read_list read value = .ok out ↔
      ∃ items, value = .array items ∧ List.Forall₂ (fun item a => read item = .ok a) items out := by
  cases value with
  | array items =>
    rw [read_list, mapM_eq_ok]
    constructor
    · intro h
      exact ⟨items, rfl, h⟩
    · intro h
      obtain ⟨items', heq, hall⟩ := h
      rw [Json.array.inj heq]
      exact hall
  | _ => simp [read_list]

/-- A list of texts. -/
theorem read_strings_eq_ok {value : Json} {out : List String} :
    read_list read_string value = .ok out ↔ value = .array (out.map .string) := by
  rw [read_list_eq_ok]
  constructor
  · intro h
    obtain ⟨items, heq, hall⟩ := h
    rw [heq]
    clear heq
    refine congrArg Json.array ?_
    induction hall with
    | nil => rfl
    | cons hitem _ ih => rw [List.map_cons, read_string_eq_ok.mp hitem, ih]
  · intro h
    refine ⟨_, h, ?_⟩
    rw [List.forall₂_map_left_iff, List.forall₂_same]
    intro text _
    rfl

theorem read_required_eq_ok {α : Type} {key : String} {read : Json → Except String α}
    {member : Option Json} {a : α} :
    read_required key read member = .ok a ↔ ∃ value, member = some value ∧ read value = .ok a := by
  cases member with
  | none => simp [read_required]
  | some value => simp [read_required]

theorem read_default_eq_ok {α : Type} {default : α} {read : Json → Except String α}
    {member : Option Json} {a : α} :
    read_default default read member = .ok a ↔
      (member = none ∧ a = default) ∨ ∃ value, member = some value ∧ read value = .ok a := by
  cases member with
  | none => simp [read_default, eq_comm]
  | some value => simp [read_default]

/-- An `Option` field is absent or of its type. -/
theorem read_option_eq_ok {α : Type} {read : Json → Except String α} {member : Option Json}
    {out : Option α} : read_option read member = .ok out ↔
      (Absent member ∧ out = none) ∨
        ∃ value a, member = some value ∧ value ≠ .null ∧ read value = .ok a ∧ out = some a := by
  unfold Absent
  cases member with
  | none => simp [read_option, eq_comm]
  | some value =>
    by_cases hnull : value = .null
    · rw [hnull]
      simp [read_option, eq_comm]
    · have hread : read_option read (some value) =
          (read value >>= fun a => .ok (some a)) := by
        cases value <;> first | exact absurd rfl hnull | rfl
      rw [hread, bind_eq_ok]
      simp only [Except.ok.injEq, Option.some.injEq, reduceCtorEq, hnull, false_or, false_and]
      constructor
      · intro h
        obtain ⟨a, ha, heq⟩ := h
        exact ⟨value, a, rfl, hnull, ha, heq.symm⟩
      · intro h
        obtain ⟨value', a, heq, _, ha, hout⟩ := h
        rw [heq]
        exact ⟨a, ha, hout.symm⟩

end Json

open Json

/-! ## §2. The structs. -/

/-- Read an endpoint, member by member. -/
def DnsEndpoint.from_value (value : Json) : Except String DnsEndpoint :=
  match value with
  | .object _ => do
    let endpoint_id ← read_option read_string (value.get "endpoint_id")
    let ip ← read_option read_string (value.get "ip")
    let port ← read_option ( read_unsigned 16) (value.get "port")
    let transport ← read_default "udp" read_string (value.get "transport")
    let uri ← read_option read_string (value.get "uri")
    let server_name ← read_option read_string (value.get "server_name")
    let alpn ← read_default [] ( read_list read_string) (value.get "alpn")
    .ok { endpoint_id, ip, port, transport, uri, server_name, alpn }
  | _ => .error "invalid type: expected struct DnsEndpoint"

/-- Read an Agent, member by member. -/
def AgentBindingV2.from_value (value : Json) : Except String AgentBindingV2 :=
  match value with
  | .object _ => do
    let key_id ← read_required "key_id" read_string (value.get "key_id")
    let algorithm ← read_required "algorithm" read_string (value.get "algorithm")
    let public_key ← read_required "public_key" read_string (value.get "public_key")
    let service_url ← read_option read_string (value.get "service_url")
    .ok { key_id, algorithm, public_key, service_url }
  | _ => .error "invalid type: expected struct AgentBindingV2"

/-- `#[serde(rename_all = "SCREAMING_SNAKE_CASE")]` -/
def DnsServerRole.from_value : Json → Except String DnsServerRole
  | .string s => okOr ([DnsServerRole.recursive, .forwarder, .rootAuthority, .tldAuthority,
      .authoritative].find? (fun role => role.name = s)) "unknown variant"
  | _ => .error "invalid type: expected a variant"

/-- Read an identity, member by member. -/
def DnsServerIdentityV2.from_value (value : Json) : Except String DnsServerIdentityV2 :=
  match value with
  | .object _ => do
    let schema_version ← read_required "schema_version" read_string (value.get "schema_version")
    let server_id ← read_required "server_id" read_string (value.get "server_id")
    let operator_id ← read_required "operator_id" read_string (value.get "operator_id")
    let role ← read_required "role" DnsServerRole.from_value (value.get "role")
    let endpoints ← read_required "endpoints" ( read_list DnsEndpoint.from_value)
      (value.get "endpoints")
    let anycast ← read_default false read_bool (value.get "anycast")
    let anycast_service_id ← read_option read_string (value.get "anycast_service_id")
    let agent ← read_option AgentBindingV2.from_value (value.get "agent")
    let valid_from ← read_required "valid_from" ( read_signed 64) (value.get "valid_from")
    let valid_until ← read_required "valid_until" ( read_signed 64) (value.get "valid_until")
    let object_version ← read_required "object_version" ( read_unsigned 64)
      (value.get "object_version")
    let status ← read_required "status" read_string (value.get "status")
    let issuer ← read_required "issuer" read_string (value.get "issuer")
    let key_id ← read_required "key_id" read_string (value.get "key_id")
    let signature ← read_option read_string (value.get "signature")
    .ok { schema_version, server_id, operator_id, role, endpoints, anycast, anycast_service_id,
          agent, valid_from, valid_until, object_version, status, issuer, key_id, signature }
  | _ => .error "invalid type: expected struct DnsServerIdentityV2"

/-- What an endpoint was read from. -/
structure DnsEndpoint.ReadFrom (value : Json) (endpoint : DnsEndpoint) : Prop where
  endpoint_id : read_option read_string (value.get "endpoint_id") = .ok endpoint.endpoint_id
  ip : read_option read_string (value.get "ip") = .ok endpoint.ip
  port : read_option ( read_unsigned 16) (value.get "port") = .ok endpoint.port
  transport : read_default "udp" read_string (value.get "transport") = .ok endpoint.transport
  uri : read_option read_string (value.get "uri") = .ok endpoint.uri
  server_name : read_option read_string (value.get "server_name") = .ok endpoint.server_name
  alpn : read_default [] ( read_list read_string) (value.get "alpn") = .ok endpoint.alpn

theorem DnsEndpoint.from_value_eq_ok {fields : List (String × Json)} {endpoint : DnsEndpoint} :
    from_value (.object fields) = .ok endpoint ↔ ReadFrom (.object fields) endpoint := by
  unfold from_value
  simp only [bind_eq_ok, Except.ok.injEq]
  constructor
  · intro h
    obtain ⟨endpoint_id, h1, ip, h2, port, h3, transport, h4, uri, h5, name, h6, alpn, h7, heq⟩ := h
    rw [← heq]
    exact ⟨h1, h2, h3, h4, h5, h6, h7⟩
  · intro h
    exact ⟨_, h.endpoint_id, _, h.ip, _, h.port, _, h.transport, _, h.uri, _, h.server_name, _,
      h.alpn, rfl⟩

/-- What an identity was read from. -/
structure DnsServerIdentityV2.ReadFrom (value : Json) (identity : DnsServerIdentityV2) : Prop where
  schema_version : value.get "schema_version" = some (.string identity.schema_version)
  server_id : value.get "server_id" = some (.string identity.server_id)
  operator_id : value.get "operator_id" = some (.string identity.operator_id)
  role : value.get "role" = some (.string identity.role.name)
  endpoints : ∃ items, value.get "endpoints" = some (.array items) ∧
    List.Forall₂ (fun item endpoint => DnsEndpoint.from_value item = .ok endpoint) items
      identity.endpoints
  anycast : read_default false read_bool (value.get "anycast") = .ok identity.anycast
  anycast_service_id : read_option read_string (value.get "anycast_service_id") =
    .ok identity.anycast_service_id
  agent : read_option AgentBindingV2.from_value (value.get "agent") = .ok identity.agent
  valid_from : ∃ v, value.get "valid_from" = some v ∧ read_signed 64 v = .ok identity.valid_from
  valid_until : ∃ v, value.get "valid_until" = some v ∧ read_signed 64 v = .ok identity.valid_until
  object_version : ∃ v, value.get "object_version" = some v ∧
    read_unsigned 64 v = .ok identity.object_version
  status : value.get "status" = some (.string identity.status)
  issuer : value.get "issuer" = some (.string identity.issuer)
  key_id : value.get "key_id" = some (.string identity.key_id)
  signature : read_option read_string (value.get "signature") = .ok identity.signature

theorem read_text_eq_ok {key s : String} {member : Option Json} :
    read_required key read_string member = .ok s ↔ member = some (.string s) := by
  rw [read_required_eq_ok]
  simp only [read_string_eq_ok, exists_eq_right]

theorem DnsServerRole.from_value_eq_ok {value : Json} {role : DnsServerRole} :
    from_value value = .ok role ↔ value = .string role.name := by
  cases value with
  | string s =>
    rw [from_value, okOr_eq_ok, Json.string.injEq]
    constructor
    · intro h
      exact (of_decide_eq_true (List.find?_some (p := fun role : DnsServerRole =>
        decide (role.name = s)) h)).symm
    · intro h
      rw [h]
      cases role <;> rfl
  | _ => simp [from_value]

theorem DnsServerIdentityV2.from_value_eq_ok {fields : List (String × Json)}
    {identity : DnsServerIdentityV2} :
    from_value (.object fields) = .ok identity ↔ ReadFrom (.object fields) identity := by
  unfold from_value
  simp only [bind_eq_ok, read_text_eq_ok, Except.ok.injEq]
  constructor
  · intro h
    obtain ⟨schema_version, h1, server_id, h2, operator_id, h3, role, h4, endpoints, h5, anycast, h6,
      service, h7, agent, h8, valid_from, h9, valid_until, h10, version, h11, status, h12, issuer,
      h13, key_id, h14, signature, h15, heq⟩ := h
    rw [← heq]
    obtain ⟨role_value, hrole, hrole_eq⟩ := read_required_eq_ok.mp h4
    obtain ⟨list, hlist, hlist_eq⟩ := read_required_eq_ok.mp h5
    obtain ⟨items, hitems, hall⟩ := read_list_eq_ok.mp hlist_eq
    refine ⟨h1, h2, h3, ?_, ⟨items, ?_, hall⟩, h6, h7, h8, read_required_eq_ok.mp h9,
      read_required_eq_ok.mp h10, read_required_eq_ok.mp h11, h12, h13, h14, h15⟩
    · rw [hrole, DnsServerRole.from_value_eq_ok.mp hrole_eq]
    · rw [hlist, hitems]
  · intro h
    obtain ⟨items, hitems, hall⟩ := h.endpoints
    exact ⟨_, h.schema_version, _, h.server_id, _, h.operator_id, _,
      read_required_eq_ok.mpr ⟨_, h.role, DnsServerRole.from_value_eq_ok.mpr rfl⟩, _,
      read_required_eq_ok.mpr ⟨_, hitems, read_list_eq_ok.mpr ⟨items, rfl, hall⟩⟩, _, h.anycast, _,
      h.anycast_service_id, _, h.agent, _, read_required_eq_ok.mpr h.valid_from, _,
      read_required_eq_ok.mpr h.valid_until, _, read_required_eq_ok.mpr h.object_version, _,
      h.status, _, h.issuer, _, h.key_id, _, h.signature, rfl⟩

end ResolverIdentity
