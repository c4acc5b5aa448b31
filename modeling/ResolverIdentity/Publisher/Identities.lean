/-
  ResolverIdentity.Publisher.Identities: signing server identities.

  `sign_identities` and `validate_identity_structure` of `tools/manage_v2_registry.py`,
  against the struct `DnsServerIdentityV2` that the verifier reads the signed artifact
  into.  The publisher hashes and signs the dictionary, the verifier what it writes for
  the struct.

  Main results:
    * `endpoint_reads_iff`: the signed endpoints that are read, and written as they were;
    * `agent_same_iff`: a bound Agent with one canonical form on both sides, and when;
    * `Prepared.fits`, `Prepared.same_of_fits`: what is read and hashed as it was signed;
    * `identity_objects_agree_iff`: one object hash and one payload, and exactly when.
-/
import ResolverIdentity.Publisher.Dictionaries
import ResolverIdentity.Publisher.Endpoints

namespace ResolverIdentity.Publisher

open Library Json

/-! ## §1. Validation. -/

/-- `data.get(key, default)`. -/
def dict_get_or (data : Json) (key : String) (default : Json) : Json := (data.get key).getD default

/-- `value == text`. -/
def equals_text (value : Json) (text : String) : Bool :=
  match value with
  | .string s => s = text
  | _ => false

/-- `not str(value).strip()`: only a text can be blank. -/
def is_blank : Json → Bool
  | .string s => (strip s.toList).isEmpty
  | _ => false

/-- `str(value).startswith(text)` of a text that no other value's text begins with. -/
def starts_with (value : Json) (text : String) : Bool :=
  match value with
  | .string s => text.toList.isPrefixOf s.toList
  | _ => false

/-- `len(value)`. -/
def len_of : Json → Except String Nat
  | .array items => .ok items.length
  | .string s => .ok s.length
  | .object fields => .ok fields.length
  | .null | .bool _ | .number _ => .error "TypeError: object has no len()"

/-- The roles an identity may have. -/
def ROLES : List String :=
  ["RECURSIVE", "FORWARDER", "ROOT_AUTHORITY", "TLD_AUTHORITY", "AUTHORITATIVE"]

/-- `role not in {...}`; a list or a dict is not hashable. -/
def role_of : Json → Except String String
  | .string s => if ROLES.contains s then .ok s else .error "identity role is invalid"
  | .array _ | .object _ => .error "TypeError: unhashable type"
  | .null | .bool _ | .number _ => .error "identity role is invalid"

/-- `base64.b64decode(value, validate=True)`: the alphabet, then as many `=` as the last group
needs, or any number after a full group; bits left over are dropped. -/
def b64decode (text : String) : Option (List UInt8) :=
  let bytes := as_bytes text
  let values := (bytes.takeWhile (fun byte => (base64_value byte).isSome)).filterMap base64_value
  let padding := bytes.dropWhile (fun byte => (base64_value byte).isSome)
  let count := values.length * 6 / 8
  let rest := values.length % 4
  if padding.all (· = 61) &&
      ((rest = 0 && (padding.isEmpty || !values.isEmpty)) || (rest = 2 && padding.length = 2) ||
        (rest = 3 && padding.length = 1)) then
    some (low_bytes count (values.foldl (fun n value => n * 64 + value) 0 /
      2 ^ (values.length * 6 - count * 8)))
  else none

section Signing

variable (P : Platform)

/-- `str(value).lower()`.  The text of a list or a dict begins with a bracket, and no check
lets it through, so these are kept as they are. -/
def lowered_text : Json → Json
  | .string s => .string (P.to_lowercase s)
  | .null => .string (P.to_lowercase "None")
  | .bool b => .string (P.to_lowercase (if b then "True" else "False"))
  | .number n => .string (P.to_lowercase (toString n))
  | .array items => .array items
  | .object fields => .object fields

/-- The checks of a bound Agent. -/
def validate_agent (agent : Json) : Except String Unit :=
  match agent with
  | .object _ => do
    rejectIf (!equals_text (lowered_text P (dict_get_or agent "algorithm" (.string ""))) "ed25519")
      "Agent binding must use Ed25519"
    let encoded ← okOr (agent.get "public_key") "Agent public key is invalid base64"
    let encoded ← okOr encoded.as_str "TypeError: argument should be an ASCII string"
    let public_key ← okOr (b64decode encoded) "Agent public key is invalid base64"
    rejectIf (public_key.length != 32) "Agent public key must contain 32 bytes"
    rejectIf (is_blank (dict_get_or agent "key_id" (.string ""))) "Agent key_id is required"
    rejectIf (!starts_with (dict_get_or agent "service_url" (.string "")) "https://")
      "Agent service_url must use HTTPS"
  | _ => .error "AttributeError: object has no attribute 'get'"

/-- `endpoint_lookup_key(ResolverEndpoint.from_dict(endpoint))` of each endpoint. -/
def endpoint_keys (endpoints : Json) : Except String (List String) := do
  let items ← list_of endpoints
  items.mapM (fun item => do
    let endpoint ← from_dict P item
    endpoint_lookup_key P endpoint)

/-- `validate_identity_structure`, field by field. -/
def validate_identity_structure (identity : Json) : Except String Unit :=
  match identity with
  | .object _ => do
    rejectIf (!equals_text (dict_get identity "schema_version") "dns-server-identity-v2")
      "unsupported identity schema"
    let role ← role_of (dict_get identity "role")
    rejectIf (!equals_text (dict_get identity "status") "ACTIVE")
      "only ACTIVE identities may be published"
    ["server_id", "operator_id", "issuer", "key_id"].forM (fun field =>
      rejectIf (is_blank (dict_get_or identity field (.string "")))
        ("identity " ++ field ++ " is required"))
    let object_version ← int_of (dict_get_or identity "object_version" (.number 0))
    rejectIf (object_version ≤ 0) "identity object_version must be positive"
    let valid_until ← int_of (dict_get_or identity "valid_until" (.number 0))
    let valid_from ← int_of (dict_get_or identity "valid_from" (.number 0))
    rejectIf (valid_until ≤ valid_from) "identity validity window is invalid"
    rejectIf (!truthy (dict_get identity "endpoints")) "identity must contain at least one endpoint"
    let count ← len_of (dict_get identity "endpoints")
    rejectIf (32 < count) "identity must not contain more than 32 endpoints"
    rejectIf (truthy (dict_get identity "anycast") != truthy (dict_get identity "anycast_service_id"))
      "identity anycast fields are inconsistent"
    let keys ← endpoint_keys P (dict_get identity "endpoints")
    rejectIf (keys.dedup.length != count) "identity contains duplicate endpoints"
    rejectIf ((role = "RECURSIVE" || role = "FORWARDER") && !truthy (dict_get identity "agent"))
      "recursive/forwarder identity must bind an Agent"
    if truthy (dict_get identity "agent") then validate_agent P (dict_get identity "agent")
    else .ok ()
  | _ => .error "AttributeError: object has no attribute 'get'"

/-! ## §2. Signing. -/

/-- `identity["agent"]["algorithm"] = str(identity["agent"]["algorithm"]).lower()`, where
there is an Agent. -/
def lower_algorithm (fields : List (String × Json)) : Except String (List (String × Json)) :=
  match (Json.object fields).get "agent" with
  | none => .ok fields
  | some .null => .ok fields
  | some (.object agent) => do
    let algorithm ← okOr ((Json.object agent).get "algorithm") "KeyError: 'algorithm'"
    .ok (dict_set "agent" (.object (dict_set "algorithm" (lowered_text P algorithm) agent)) fields)
  | some _ => .error "TypeError: object is not subscriptable"

/-- The identity that is signed. -/
def prepare_identity (identity : Json) : Except String (List (String × Json)) :=
  match identity with
  | .object fields => do
    let fields := dict_pop "signature" fields
    let items ← list_of (dict_get_or (.object fields) "endpoints" (.array []))
    let endpoints ← items.mapM (from_dict P)
    let fields := dict_set "endpoints" (.array (endpoints.map ResolverEndpoint.to_dict)) fields
    let fields ← lower_algorithm P fields
    validate_identity_structure P (.object fields)
    .ok fields
  | _ => .error "AttributeError: object has no attribute 'pop'"

/-- `sign_object_ed25519`, with the key as its 32 bytes. -/
def sign_object_ed25519 (value : Json) (private_key : List UInt8) : String :=
  Platform.ED25519_PREFIX ++ P.base64_encode (P.ed25519_sign private_key (canonical_json_bytes value))

/-- An identity, prepared and signed. -/
def sign_identity (private_key : List UInt8) (identity : Json) : Except String Json := do
  let fields ← prepare_identity P identity
  .ok (.object (dict_set "signature" (.string ( sign_object_ed25519 P (.object fields) private_key))
    fields))

/-- All identities of a file, signed. -/
def sign_identities (private_key : List UInt8) (payload : Json) : Except String Json :=
  match dict_get payload "identities" with
  | .array identities => do
    rejectIf identities.isEmpty "unsigned artifact must contain a non-empty identities list"
    let identities ← identities.mapM (sign_identity P private_key)
    .ok (.object [("identities", .array identities)])
  | _ => .error "unsigned artifact must contain a non-empty identities list"

/-- `object_hash`. -/
def object_hash (value : Json) : String := P.sha256_hex ( canonical_json_bytes value)

end Signing

/-! ## §3. The signed endpoints. -/

/-- A written endpoint is read back. -/
theorem endpoint_round_trip {endpoint : DnsEndpoint} (hport : ∀ n ∈ endpoint.port, n < 2 ^ 16) :
    DnsEndpoint.from_value endpoint.to_value = .ok endpoint := by
  have htext : ∀ text : Option String,
      read_option read_string (text.map Json.string) = .ok text := by
    intro text
    cases text <;> rfl
  have hread_port : read_option ( read_unsigned 16) (endpoint.port.map Json.nat) =
      .ok endpoint.port := by
    cases hn : endpoint.port with
    | none => rfl
    | some n => exact read_option_eq_ok.mpr (Or.inr ⟨.number n, n, rfl, nofun,
        read_unsigned_eq_ok.mpr ⟨rfl, hport n hn⟩, rfl⟩)
  refine DnsEndpoint.from_value_eq_ok.mpr ⟨?_, ?_, ?_, ?_, ?_, ?_, ?_⟩
  · simp [htext]
  · simp [htext]
  · simp [hread_port]
  · simp [read_default, read_string]
  · simp [htext]
  · simp [htext]
  · show read_default [] ( read_list read_string) (endpoint.to_value.get "alpn") = .ok endpoint.alpn
    by_cases hempty : endpoint.alpn = []
    · simp [DnsEndpoint.to_value, hempty, read_default]
    · have hget : endpoint.to_value.get "alpn" = some (.array (endpoint.alpn.map .string)) := by
        simp [DnsEndpoint.to_value, hempty]
      rw [hget]
      exact read_strings_eq_ok.mpr rfl

/-- What the publisher reads an endpoint as, once it has normalized it. -/
structure Normalized (P : Platform) (item : Json) (endpoint : ResolverEndpoint) : Prop where
  endpoint_id : endpoint.endpoint_id = dict_get item "endpoint_id"
  ip : ∃ ip : Option String, endpoint.ip = (ip.map .string).getD .null
  port : ∃ n, endpoint.port = .number n ∧
    ((dict_get item "port" = .null ∧ 0 ≤ n ∧ n < 2 ^ 16) ∨
      (dict_get item "port" ≠ .null ∧ int_of (dict_get item "port") = .ok n))
  uri : ∃ uri : Option String, endpoint.uri = (uri.map .string).getD .null
  server_name : ∃ name : Option String, endpoint.server_name = (name.map .string).getD .null
  alpn : ∃ texts : List String, endpoint.alpn = texts.map .string

theorem converted_text {value out : Json} {f : String → Except String String}
    (h : convert_text value f = .ok out) : ∃ text : Option String, out = (text.map .string).getD .null := by
  rcases convert_text_eq_ok.mp h with ⟨_, hout⟩ | ⟨_, converted, _, _, _, hout⟩
  · exact ⟨none, hout⟩
  · exact ⟨some converted, hout⟩

section Endpoint

variable {P : Platform}

theorem normalized_of_from_dict {item : Json} {endpoint : ResolverEndpoint}
    (h : from_dict P item = .ok endpoint) : Normalized P item endpoint := by
  unfold from_dict at h
  split at h
  case h_2 => cases h
  case h_1 fields =>
    simp only [bind_eq_ok, ResolverEndpoint.normalized, Except.ok.injEq] at h
    obtain ⟨transport, _, alpn, _, ip, hip, name, hname, uri, huri, port, hport, lowered, hlowered,
      heq⟩ := h
    rw [← heq]
    refine ⟨rfl, converted_text hip, ?_, converted_text huri, converted_text hname, ?_⟩
    · rcases port_of_eq_ok.mp hport with ⟨hnull, hout⟩ | ⟨hne, n, hn, hout⟩
      · refine ⟨_, hout, Or.inl ⟨hnull, ?_⟩⟩
        rw [default_port_eq]
        unfold Platform.default_port
        split_ifs <;> decide
      · exact ⟨n, hout, Or.inr ⟨hne, hn⟩⟩
    · obtain ⟨texts, _, hout⟩ := lower_of_mapM.mp hlowered
      refine ⟨texts.map P.to_lowercase, ?_⟩
      rw [hout, List.map_map]
      rfl

/-- An endpoint that the verifier can read once it is signed. -/
structure EndpointFits (item : Json) : Prop where
  endpoint_id : is_written (dict_get item "endpoint_id") = false ∨
    ∃ s, dict_get item "endpoint_id" = .string s
  port : dict_get item "port" = .null ∨ ∃ n, int_of (dict_get item "port") = .ok n ∧
    0 ≤ n ∧ n < 2 ^ 16

theorem get_to_dict (endpoint : ResolverEndpoint) (key : String) :
    endpoint.to_dict.get key = ((Json.object [("endpoint_id", endpoint.endpoint_id),
      ("ip", endpoint.ip), ("port", endpoint.port), ("transport", .string endpoint.transport),
      ("uri", endpoint.uri), ("server_name", endpoint.server_name),
      ("alpn", .array endpoint.alpn)]).get key).filter is_written := by
  have hdistinct : ["endpoint_id", "ip", "port", "transport", "uri", "server_name", "alpn"].Nodup := by
    decide
  exact @get_filter [("endpoint_id", endpoint.endpoint_id), ("ip", endpoint.ip),
    ("port", endpoint.port), ("transport", .string endpoint.transport), ("uri", endpoint.uri),
    ("server_name", endpoint.server_name), ("alpn", .array endpoint.alpn)] hdistinct _ _

/-- An endpoint with a text for its id, or none, and a port is written like the struct. -/
theorem to_dict_eq {endpoint : ResolverEndpoint} {id ip uri name : Option String} {n : Nat}
    {texts : List String}
    (hid : (is_written endpoint.endpoint_id = false ∧ id = none) ∨
      ∃ s, endpoint.endpoint_id = .string s ∧ id = some s)
    (hip : endpoint.ip = (ip.map .string).getD .null) (hport : endpoint.port = .number n)
    (huri : endpoint.uri = (uri.map .string).getD .null)
    (hname : endpoint.server_name = (name.map .string).getD .null)
    (halpn : endpoint.alpn = texts.map .string) :
    endpoint.to_dict =
      DnsEndpoint.to_value ⟨id, ip, some n, endpoint.transport, uri, name, texts⟩ := by
  unfold ResolverEndpoint.to_dict ResolverEndpoint.members DnsEndpoint.to_value
  rw [hip, hport, huri, hname, halpn]
  refine congrArg Json.object ?_
  rw [List.filter_cons]
  rcases hid with ⟨hdropped, hnone⟩ | ⟨s, hs, hsome⟩
  · rw [hdropped, hnone]
    cases ip <;> cases uri <;> cases name <;> cases texts <;>
      simp [is_written, Json.optional, Json.field, Json.nonempty, Json.nat]
  · rw [hs, hsome]
    cases ip <;> cases uri <;> cases name <;> cases texts <;>
      simp [is_written, Json.optional, Json.field, Json.nonempty, Json.nat]

/-- The signed endpoint is read exactly if it fits, and is written as it was. -/
theorem endpoint_reads_iff {item : Json} {endpoint : ResolverEndpoint}
    (h : Normalized P item endpoint) :
    ((∃ parsed, DnsEndpoint.from_value endpoint.to_dict = .ok parsed) ↔ EndpointFits item) ∧
      ∀ parsed, DnsEndpoint.from_value endpoint.to_dict = .ok parsed →
        parsed.to_value = endpoint.to_dict := by
  obtain ⟨ip, hip⟩ := h.ip
  obtain ⟨n, hport, hn⟩ := h.port
  obtain ⟨uri, huri⟩ := h.uri
  obtain ⟨name, hname⟩ := h.server_name
  obtain ⟨texts, halpn⟩ := h.alpn
  have hget_id : endpoint.to_dict.get "endpoint_id" =
      (some endpoint.endpoint_id).filter is_written := by
    rw [get_to_dict]
    simp [get_cons]
  have hget_port : endpoint.to_dict.get "port" = some (.number n) := by
    rw [get_to_dict, hport]
    simp [get_cons, is_written]
  -- what the struct reads has an id that is dropped or a text, and a port in range
  have hfits : (∃ parsed, DnsEndpoint.from_value endpoint.to_dict = .ok parsed) →
      EndpointFits item := by
    intro hparsed
    obtain ⟨parsed, hparsed⟩ := hparsed
    have hfrom := DnsEndpoint.from_value_eq_ok.mp hparsed
    have hread_id : read_option read_string (endpoint.to_dict.get "endpoint_id") =
        .ok parsed.endpoint_id := hfrom.endpoint_id
    have hread_port : read_option ( read_unsigned 16) (endpoint.to_dict.get "port") =
        .ok parsed.port := hfrom.port
    constructor
    · rw [← h.endpoint_id]
      by_cases hwritten : is_written endpoint.endpoint_id = true
      · right
        rw [hget_id, Option.filter_some, if_pos hwritten] at hread_id
        rcases read_option_eq_ok.mp hread_id with ⟨habsent, _⟩ | ⟨value, s, hvalue, _, hs, _⟩
        · rcases habsent with hnone | hnull
          · cases hnone
          · rw [Option.some.inj hnull] at hwritten
            cases hwritten
        · exact ⟨s, (Option.some.inj hvalue).trans (read_string_eq_ok.mp hs)⟩
      · exact Or.inl (Bool.eq_false_iff.mpr hwritten)
    · rcases hn with ⟨hnull, _⟩ | ⟨_, hread⟩
      · exact Or.inl hnull
      · right
        refine ⟨n, hread, ?_⟩
        rw [hget_port] at hread_port
        rcases read_option_eq_ok.mp hread_port with ⟨habsent, _⟩ | ⟨value, m, hvalue, _, hm, _⟩
        · rcases habsent with hnone | hnull
          · cases hnone
          · cases Option.some.inj hnull
        · obtain ⟨heq, hrange⟩ := read_unsigned_eq_ok.mp hm
          have hnm : n = m := Json.number.inj ((Option.some.inj hvalue).trans heq)
          omega
  -- such an item is written exactly as the struct would write it
  have hwritten : EndpointFits item → ∃ parsed : DnsEndpoint,
      endpoint.to_dict = parsed.to_value ∧ DnsEndpoint.from_value endpoint.to_dict = .ok parsed := by
    intro hitem
    have hrange : 0 ≤ n ∧ n < 2 ^ 16 := by
      rcases hn with ⟨_, hrange⟩ | ⟨hne, hread⟩
      · exact hrange
      · rcases hitem.port with hnull | ⟨m, hm, hrange⟩
        · exact absurd hnull hne
        · rw [Except.ok.inj (hread.symm.trans hm)]
          exact hrange
    have hport' : endpoint.port = .number (n.toNat : Nat) := by
      rw [hport, Int.toNat_of_nonneg hrange.1]
    have hid : ∃ id : Option String, (is_written endpoint.endpoint_id = false ∧ id = none) ∨
        ∃ s, endpoint.endpoint_id = .string s ∧ id = some s := by
      rw [h.endpoint_id]
      rcases hitem.endpoint_id with hdropped | ⟨s, hs⟩
      · exact ⟨none, Or.inl ⟨hdropped, rfl⟩⟩
      · exact ⟨some s, Or.inr ⟨s, hs, rfl⟩⟩
    obtain ⟨id, hid⟩ := hid
    have heq := to_dict_eq hid hip hport' huri hname halpn
    refine ⟨_, heq, ?_⟩
    rw [heq]
    refine endpoint_round_trip ?_
    intro m hm
    rw [← Option.some.inj hm]
    omega
  refine ⟨⟨hfits, ?_⟩, ?_⟩
  · intro hitem
    obtain ⟨parsed, _, hparsed⟩ := hwritten hitem
    exact ⟨parsed, hparsed⟩
  · intro parsed hparsed
    obtain ⟨parsed', heq, hparsed'⟩ := hwritten (hfits ⟨parsed, hparsed⟩)
    rw [Except.ok.inj (hparsed.symm.trans hparsed'), heq]

end Endpoint

/-! ## §4. The bound Agent. -/

section Agent

variable {P : Platform}

/-- The members of an Agent. -/
def AGENT_MEMBERS : List String := ["key_id", "algorithm", "public_key", "service_url"]

/-- Only the members of the struct are there, besides a signature that neither side hashes. -/
def KnownMembers (names : List String) (value : Json) : Prop :=
  ∀ key, value.get key ≠ none → key = "signature" ∨ key ∈ names

theorem agent_distinct (agent : AgentBindingV2) :
    ∃ fields, agent.to_value = .object fields ∧ Distinct fields := by
  refine ⟨_, rfl, ?_⟩
  have hnames : AGENT_MEMBERS.Nodup := by decide
  refine hnames.sublist ?_
  rw [List.map_append]
  exact List.Sublist.append (List.Sublist.refl ["key_id", "algorithm", "public_key"])
    (keys_optional "service_url" _)

theorem agent_get_other {agent : AgentBindingV2} {key : String} (h : key ∉ AGENT_MEMBERS) :
    agent.to_value.get key = none := by
  simp only [AGENT_MEMBERS, List.mem_cons, List.not_mem_nil, or_false, not_or] at h
  simp [AgentBindingV2.to_value, Ne.symm h.1, Ne.symm h.2.1, Ne.symm h.2.2.1, Ne.symm h.2.2.2]

/-- An Agent that the checks let through has these members. -/
structure AgentChecked (agent : List (String × Json)) : Prop where
  algorithm : ∃ s, (Json.object agent).get "algorithm" = some (.string s)
  public_key : ∃ s, (Json.object agent).get "public_key" = some (.string s)
  service_url : ∃ s, (Json.object agent).get "service_url" = some (.string s)

theorem agent_checked {agent : List (String × Json)} {algorithm : Json}
    (h : validate_agent P
      (.object (dict_set "algorithm" (lowered_text P algorithm) agent)) = .ok ()) :
    AgentChecked (dict_set "algorithm" (lowered_text P algorithm) agent) := by
  unfold validate_agent at h
  simp only [bind_eq_ok, exists_unit, rejectIf_eq_ok, okOr_eq_ok, Bool.not_eq_false'] at h
  obtain ⟨halgorithm, value, hvalue, encoded, hencoded, _, _, _, _, hurl⟩ := h
  refine ⟨?_, ?_, ?_⟩
  · unfold dict_get_or at halgorithm
    rw [get_dict_set, if_pos rfl] at halgorithm ⊢
    cases algorithm with
    | array items => cases halgorithm
    | object fields => cases halgorithm
    | _ => exact ⟨_, rfl⟩
  · cases value with
    | string s => exact ⟨s, hvalue⟩
    | _ => cases hencoded
  · unfold dict_get_or starts_with at hurl
    cases hget : (Json.object (dict_set "algorithm" (lowered_text P algorithm) agent)).get
        "service_url" with
    | none =>
      rw [hget] at hurl
      cases hurl
    | some url =>
      rw [hget] at hurl
      cases url with
      | string s => exact ⟨s, rfl⟩
      | _ => cases hurl

/-- The bound Agent is read and written with one canonical form exactly if it has no other
members and a text for its `key_id`. -/
theorem agent_same_iff {agent : List (String × Json)} {algorithm : Json}
    (hdistinct : Distinct agent)
    (h : AgentChecked (dict_set "algorithm" (lowered_text P algorithm) agent)) :
    (∃ read, AgentBindingV2.from_value
        (.object (dict_set "algorithm" (lowered_text P algorithm) agent)) = .ok read ∧
      read.to_value.strip_signatures =
        (Json.object (dict_set "algorithm" (lowered_text P algorithm) agent)).strip_signatures) ↔
      KnownMembers AGENT_MEMBERS (.object agent) ∧
        ∃ s, (Json.object agent).get "key_id" = some (.string s) := by
  have hsame : ∀ key, key ≠ "algorithm" →
      (Json.object (dict_set "algorithm" (lowered_text P algorithm) agent)).get key =
        (Json.object agent).get key := by
    intro key hkey
    rw [get_dict_set, if_neg (Ne.symm hkey)]
  obtain ⟨⟨algorithm_text, halgorithm⟩, ⟨public_key, hpublic⟩, url, hurl⟩ := h
  constructor
  · intro hread
    obtain ⟨read, hparsed, hstrip⟩ := hread
    obtain ⟨fields, hfields, hfields_distinct⟩ := agent_distinct read
    rw [hfields, strip_eq_iff hfields_distinct hdistinct.dict_set, ← hfields] at hstrip
    constructor
    · -- a member the struct does not know would be lost
      intro key hkey
      by_contra hnot
      obtain ⟨hsignature, hother⟩ := not_or.mp hnot
      have hne : key ≠ "algorithm" := by
        intro heq
        exact hother (by rw [heq]; decide)
      have hget := hstrip key hsignature
      rw [agent_get_other hother, hsame key hne] at hget
      exact hkey (Option.map_eq_none_iff.mp hget.symm)
    · unfold AgentBindingV2.from_value at hparsed
      simp only [bind_eq_ok, read_required_eq_ok, read_string_eq_ok] at hparsed
      obtain ⟨key_id, ⟨value, hvalue, heq⟩, _⟩ := hparsed
      rw [hsame "key_id" (by decide), heq] at hvalue
      exact ⟨key_id, hvalue⟩
  · intro hfits
    obtain ⟨hknown, key_id, hkey_id⟩ := hfits
    rw [← hsame "key_id" (by decide)] at hkey_id
    -- the struct that reads it
    refine ⟨⟨key_id, algorithm_text, public_key, some url⟩, ?_, ?_⟩
    · unfold AgentBindingV2.from_value
      rw [halgorithm, hpublic, hurl, hkey_id]
      rfl
    · obtain ⟨fields, hfields, hfields_distinct⟩ :=
        agent_distinct ⟨key_id, algorithm_text, public_key, some url⟩
      rw [hfields, strip_eq_iff hfields_distinct hdistinct.dict_set, ← hfields]
      intro key hsignature
      -- it writes the four members, and there are no others
      by_cases hmember : key ∈ AGENT_MEMBERS
      · simp only [AGENT_MEMBERS, List.mem_cons, List.not_mem_nil, or_false] at hmember
        rcases hmember with heq | heq | heq | heq
        · rw [heq, hkey_id]
          simp [AgentBindingV2.to_value]
        · rw [heq, halgorithm]
          simp [AgentBindingV2.to_value]
        · rw [heq, hpublic]
          simp [AgentBindingV2.to_value]
        · rw [heq, hurl]
          simp [AgentBindingV2.to_value]
      · have hnone : (Json.object agent).get key = none := by
          by_contra hsome
          exact (hknown key hsome).elim hsignature hmember
        have hne : key ≠ "algorithm" := by
          intro heq
          exact hmember (by rw [heq]; decide)
        rw [agent_get_other hmember, hsame key hne, hnone]

end Agent

/-! ## §5. The prepared identity. -/

section Prepared

variable {P : Platform}

/-- The dictionaries of an identity, as `json.loads` makes them. -/
structure WellKeyed (identity : Json) : Prop where
  fields : ∀ fields, identity = .object fields → Distinct fields
  agent : ∀ agent, identity.get "agent" = some (.object agent) → Distinct agent

/-- How the Agent is prepared. -/
def AgentPrepared (P : Platform) (before after : Option Json) : Prop :=
  (Absent before ∧ after = before) ∨ ∃ agent algorithm, before = some (.object agent) ∧
    after = some (.object (dict_set "algorithm" (lowered_text P algorithm) agent)) ∧
      AgentChecked (dict_set "algorithm" (lowered_text P algorithm) agent)

/-- What the checks and the normalization leave of an identity. -/
structure Prepared (P : Platform) (identity : Json) (fields : List (String × Json)) : Prop where
  kept : ∀ key, key ∉ ["signature", "endpoints", "agent"] →
    (Json.object fields).get key = identity.get key
  endpoints : ∃ items endpoints, identity.get "endpoints" = some (.array items) ∧
    List.Forall₂ (fun item endpoint => from_dict P item = .ok endpoint) items endpoints ∧
      (Json.object fields).get "endpoints" =
        some (.array (endpoints.map ResolverEndpoint.to_dict))
  agent : AgentPrepared P (identity.get "agent") ((Json.object fields).get "agent")
  schema_version : identity.get "schema_version" = some (.string "dns-server-identity-v2")
  role : ∃ role : DnsServerRole, identity.get "role" = some (.string role.name)
  status : identity.get "status" = some (.string "ACTIVE")
  object_version : ∃ n, int_of (dict_get_or identity "object_version" (.number 0)) = .ok n ∧ 0 < n
  distinct : WellKeyed identity → Distinct fields

theorem equals_text_eq_true {value : Json} {text : String} :
    equals_text value text = true ↔ value = .string text := by
  cases value <;> simp [equals_text]

/-- A member with a truthy value is there. -/
theorem get_of_dict_get {data value : Json} {key : String} (h : dict_get data key = value)
    (hne : value ≠ .null) : data.get key = some value := by
  unfold dict_get at h
  cases hget : data.get key with
  | none =>
    rw [hget] at h
    exact absurd h.symm hne
  | some found =>
    rw [hget] at h
    exact congrArg some h

theorem role_of_eq_ok {value : Json} {role : String} (h : role_of value = .ok role) :
    ∃ r : DnsServerRole, value = .string r.name := by
  cases value with
  | string s =>
    have h : (if ROLES.contains s then Except.ok s else .error "identity role is invalid") =
        .ok role := h
    by_cases hrole : ROLES.contains s = true
    · have hmem := List.contains_iff_mem.mp hrole
      simp only [ROLES, List.mem_cons, List.not_mem_nil, or_false] at hmem
      rcases hmem with heq | heq | heq | heq | heq
      · exact ⟨.recursive, congrArg Json.string heq⟩
      · exact ⟨.forwarder, congrArg Json.string heq⟩
      · exact ⟨.rootAuthority, congrArg Json.string heq⟩
      · exact ⟨.tldAuthority, congrArg Json.string heq⟩
      · exact ⟨.authoritative, congrArg Json.string heq⟩
    · rw [if_neg hrole] at h
      cases h
  | _ => cases h

theorem lower_algorithm_eq_ok {fields out : List (String × Json)}
    (h : lower_algorithm P fields = .ok out) :
    (Absent ((Json.object fields).get "agent") ∧ out = fields) ∨
      ∃ agent algorithm, (Json.object fields).get "agent" = some (.object agent) ∧
        out = dict_set "agent" (.object (dict_set "algorithm" (lowered_text P algorithm) agent))
          fields := by
  unfold lower_algorithm at h
  split at h
  case h_1 hnone => exact Or.inl ⟨Or.inl hnone, (Except.ok.inj h).symm⟩
  case h_2 hnull => exact Or.inl ⟨Or.inr hnull, (Except.ok.inj h).symm⟩
  case h_3 agent hagent =>
    obtain ⟨algorithm, _, hout⟩ := bind_eq_ok.mp h
    exact Or.inr ⟨agent, algorithm, hagent, (Except.ok.inj hout).symm⟩
  case h_4 => cases h

/-- What a validated identity holds. -/
theorem validated {fields : List (String × Json)}
    (h : validate_identity_structure P (.object fields) = .ok ()) :
    (Json.object fields).get "schema_version" = some (.string "dns-server-identity-v2") ∧
      (∃ role : DnsServerRole, (Json.object fields).get "role" = some (.string role.name)) ∧
      (Json.object fields).get "status" = some (.string "ACTIVE") ∧
      (∃ n, int_of (dict_get_or (.object fields) "object_version" (.number 0)) = .ok n ∧ 0 < n) ∧
      truthy (dict_get (.object fields) "endpoints") = true ∧
      (truthy (dict_get (.object fields) "agent") = true →
        validate_agent P (dict_get (.object fields) "agent") = .ok ()) := by
  unfold validate_identity_structure at h
  simp only [bind_eq_ok, exists_unit, rejectIf_eq_ok, Bool.not_eq_false', equals_text_eq_true,
    decide_eq_false_iff_not] at h
  obtain ⟨hschema, role, hrole, hstatus, _, version, hversion, hpositive, _, _, _, _, _, hendpoints,
    _, _, _, _, _, _, _, _, hagent⟩ := h
  obtain ⟨r, hr⟩ := role_of_eq_ok hrole
  have htext : ∀ text : String, Json.string text ≠ .null := by
    intro text heq
    cases heq
  refine ⟨get_of_dict_get hschema (htext _), ⟨r, get_of_dict_get hr (htext _)⟩,
    get_of_dict_get hstatus (htext _), ⟨version, hversion, lt_of_not_ge hpositive⟩, hendpoints, ?_⟩
  intro htruthy
  rwa [if_pos htruthy] at hagent

/-- Only a list has dictionaries for its items. -/
theorem endpoints_listed {member : Option Json} {items : List Json}
    {endpoints : List ResolverEndpoint} (hne : items ≠ [])
    (hall : List.Forall₂ (fun item endpoint => from_dict P item = .ok endpoint) items endpoints)
    (h : list_of (member.getD (.array [])) = .ok items) : member = some (.array items) := by
  have hfirst : ∀ s, (.string s) ∉ items := by
    intro s hs
    obtain ⟨endpoint, _, hread⟩ := forall₂_left hall _ hs
    cases hread
  cases member with
  | none => exact absurd (Except.ok.inj h).symm hne
  | some value =>
    cases value with
    | array l => rw [Except.ok.inj h]
    | string s =>
      have h := Except.ok.inj h
      cases hs : s.toList with
      | nil =>
        rw [hs] at h
        exact absurd h.symm hne
      | cons c rest =>
        rw [hs] at h
        exact absurd (h ▸ List.mem_cons_self) (hfirst (String.singleton c))
    | object fields =>
      have h := Except.ok.inj h
      cases fields with
      | nil => exact absurd h.symm hne
      | cons field rest => exact absurd (h ▸ List.mem_cons_self) (hfirst field.1)
    | _ => cases h

theorem prepared_of_identity {identity : Json} {fields : List (String × Json)}
    (h : prepare_identity P identity = .ok fields) : Prepared P identity fields := by
  unfold prepare_identity at h
  split at h
  case h_2 => cases h
  case h_1 given =>
    simp only [bind_eq_ok, exists_unit, Except.ok.injEq] at h
    obtain ⟨items, hitems, endpoints, hendpoints, lowered, hlowered, hvalid, heq⟩ := h
    rw [heq] at hlowered hvalid
    obtain ⟨hschema, hrole, hstatus, hversion, htruthy, hagent⟩ := validated hvalid
    have hcollected := mapM_eq_ok.mp hendpoints
    -- the members before the Agent is looked at
    have hset : ∀ key, (Json.object (dict_set "endpoints" (.array (endpoints.map
        ResolverEndpoint.to_dict)) (dict_pop "signature" given))).get key =
          if "endpoints" = key then some (.array (endpoints.map ResolverEndpoint.to_dict))
          else if "signature" = key then none else (Json.object given).get key := by
      intro key
      rw [get_dict_set, get_dict_pop]
    have hlower := lower_algorithm_eq_ok hlowered
    have hother : ∀ key, key ≠ "agent" → (Json.object fields).get key =
        if "endpoints" = key then some (.array (endpoints.map ResolverEndpoint.to_dict))
        else if "signature" = key then none else (Json.object given).get key := by
      intro key hkey
      rcases hlower with ⟨_, hfields⟩ | ⟨agent, algorithm, _, hfields⟩
      · rw [hfields, hset]
      · rw [hfields, get_dict_set, if_neg (Ne.symm hkey), hset]
    have hkept : ∀ key, key ∉ ["signature", "endpoints", "agent"] →
        (Json.object fields).get key = (Json.object given).get key := by
      intro key hkey
      simp only [List.mem_cons, List.not_mem_nil, or_false, not_or] at hkey
      rw [hother key hkey.2.2, if_neg (Ne.symm hkey.2.1), if_neg (Ne.symm hkey.1)]
    have hwritten : (Json.object fields).get "endpoints" =
        some (.array (endpoints.map ResolverEndpoint.to_dict)) := hother "endpoints" (by decide)
    have hitems_ne : items ≠ [] := by
      intro hempty
      rw [hempty] at hcollected
      rw [dict_get_eq hwritten, List.forall₂_nil_left_iff.mp hcollected] at htruthy
      cases htruthy
    refine ⟨hkept, ⟨items, endpoints, ?_, hcollected, hwritten⟩, ?_, ?_, ?_, ?_, ?_, ?_⟩
    · exact endpoints_listed hitems_ne hcollected (by rwa [dict_get_or, get_dict_pop] at hitems)
    · rcases hlower with ⟨habsent, hfields⟩ | ⟨agent, algorithm, hfound, hfields⟩
      · left
        have hbefore : (Json.object fields).get "agent" = (Json.object given).get "agent" := by
          rw [hfields, hset]
          rfl
        rw [hset] at habsent
        exact ⟨habsent, hbefore⟩
      · right
        have hafter : (Json.object fields).get "agent" =
            some (.object (dict_set "algorithm" (lowered_text P algorithm) agent)) := by
          rw [hfields, get_dict_set, if_pos rfl]
        rw [hset] at hfound
        refine ⟨agent, algorithm, hfound, hafter, agent_checked ( P := P) ?_⟩
        rw [dict_get_eq hafter] at hagent
        refine hagent ?_
        show (!(dict_set "algorithm" (lowered_text P algorithm) agent).isEmpty) = true
        cases agent with
        | nil => rfl
        | cons item rest =>
          rw [dict_set]
          by_cases hkey : item.1 = "algorithm"
          · rw [if_pos hkey]
            rfl
          · rw [if_neg hkey]
            rfl
    · rw [← hkept "schema_version" (by decide)]
      exact hschema
    · rw [← hkept "role" (by decide)]
      exact hrole
    · rw [← hkept "status" (by decide)]
      exact hstatus
    · have hsame : dict_get_or (.object fields) "object_version" (.number 0) =
          dict_get_or (.object given) "object_version" (.number 0) := by
        unfold dict_get_or
        rw [hkept "object_version" (by decide)]
      rw [← hsame]
      exact hversion
    · intro hkeys
      have hdistinct : Distinct (dict_set "endpoints"
          (.array (endpoints.map ResolverEndpoint.to_dict)) (dict_pop "signature" given)) :=
        (hkeys.fields given rfl).dict_pop.dict_set
      rcases hlower with ⟨_, hfields⟩ | ⟨agent, algorithm, _, hfields⟩
      · rw [hfields]
        exact hdistinct
      · rw [hfields]
        exact hdistinct.dict_set

end Prepared

/-! ## §6. One object on both sides. -/

section Identity

variable {P : Platform}

/-- The members of an identity. -/
def IDENTITY_MEMBERS : List String :=
  ["schema_version", "server_id", "operator_id", "role", "endpoints", "anycast",
    "anycast_service_id", "agent", "valid_from", "valid_until", "object_version", "status", "issuer",
    "key_id"]

/-- An unsigned identity that the verifier reads and hashes as it was signed. -/
structure Fits (identity : Json) : Prop where
  known : KnownMembers IDENTITY_MEMBERS identity
  texts : ∀ key ∈ ["server_id", "operator_id", "issuer", "key_id"],
    ∃ s, identity.get key = some (.string s)
  times : ∀ key ∈ ["valid_from", "valid_until"],
    ∃ n, identity.get key = some (.number n) ∧ -2 ^ 63 ≤ n ∧ n < 2 ^ 63
  object_version : ∃ n, identity.get "object_version" = some (.number n) ∧ n < 2 ^ 64
  anycast : ∃ b, identity.get "anycast" = some (.bool b)
  anycast_service_id : identity.get "anycast_service_id" = none ∨
    ∃ s, identity.get "anycast_service_id" = some (.string s)
  agent : identity.get "agent" = none ∨ ∃ agent, identity.get "agent" = some (.object agent) ∧
    KnownMembers AGENT_MEMBERS (.object agent) ∧
      ∃ s, (Json.object agent).get "key_id" = some (.string s)
  endpoints : ∀ items, identity.get "endpoints" = some (.array items) →
    ∀ item ∈ items, EndpointFits item

theorem identity_distinct (identity : DnsServerIdentityV2) :
    ∃ fields, identity.to_value = .object fields ∧ Distinct fields := by
  refine ⟨_, rfl, ?_⟩
  unfold Distinct
  cases identity.anycast_service_id <;> cases identity.agent <;> cases identity.signature <;>
    simp [Json.field, Json.optional]

theorem identity_get_other {identity : DnsServerIdentityV2} {key : String}
    (hsignature : key ≠ "signature") (h : key ∉ IDENTITY_MEMBERS) :
    identity.to_value.get key = none := by
  simp only [IDENTITY_MEMBERS, List.mem_cons, List.not_mem_nil, or_false, not_or] at h
  simp [DnsServerIdentityV2.to_value, Ne.symm hsignature, Ne.symm h.1, Ne.symm h.2.1,
    Ne.symm h.2.2.1, Ne.symm h.2.2.2.1, Ne.symm h.2.2.2.2.1, Ne.symm h.2.2.2.2.2.1,
    Ne.symm h.2.2.2.2.2.2.1, Ne.symm h.2.2.2.2.2.2.2.1, Ne.symm h.2.2.2.2.2.2.2.2.1,
    Ne.symm h.2.2.2.2.2.2.2.2.2.1, Ne.symm h.2.2.2.2.2.2.2.2.2.2.1,
    Ne.symm h.2.2.2.2.2.2.2.2.2.2.2.1, Ne.symm h.2.2.2.2.2.2.2.2.2.2.2.2.1,
    Ne.symm h.2.2.2.2.2.2.2.2.2.2.2.2.2]

/-- The signature is not part of what is signed. -/
theorem strip_signed {fields : List (String × Json)} (h : Distinct fields) (signature : Json) :
    (Json.object (dict_set "signature" signature fields)).strip_signatures =
      (Json.object fields).strip_signatures := by
  rw [strip_eq_iff h.dict_set h]
  intro key hkey
  rw [get_dict_set, if_neg (Ne.symm hkey)]

/-- The signed endpoints, read and written. -/
theorem endpoints_same {items : List Json} {endpoints : List ResolverEndpoint}
    (h : List.Forall₂ (fun item endpoint => from_dict P item = .ok endpoint) items endpoints) :
    (∀ parsed, List.Forall₂ (fun item endpoint => DnsEndpoint.from_value item = .ok endpoint)
        (endpoints.map ResolverEndpoint.to_dict) parsed →
          parsed.map DnsEndpoint.to_value = endpoints.map ResolverEndpoint.to_dict) ∧
      ((∃ parsed, List.Forall₂ (fun item endpoint => DnsEndpoint.from_value item = .ok endpoint)
        (endpoints.map ResolverEndpoint.to_dict) parsed) ↔ ∀ item ∈ items, EndpointFits item) := by
  induction h with
  | nil =>
    refine ⟨?_, ?_⟩
    · intro parsed hparsed
      rw [List.map_nil, List.forall₂_nil_left_iff] at hparsed
      rw [hparsed]
      rfl
    · exact ⟨fun _ item hitem => absurd hitem List.not_mem_nil, fun _ => ⟨[], List.Forall₂.nil⟩⟩
  | @cons item endpoint items endpoints hitem _ ih =>
    obtain ⟨hsame, hreads⟩ := ih
    obtain ⟨hfits, hwritten⟩ := endpoint_reads_iff (normalized_of_from_dict hitem)
    refine ⟨?_, ?_⟩
    · intro parsed hparsed
      rw [List.map_cons, List.forall₂_cons_left_iff] at hparsed
      obtain ⟨first, rest, hfirst, hrest, heq⟩ := hparsed
      rw [heq, List.map_cons, List.map_cons, hwritten first hfirst, hsame rest hrest]
    · rw [List.forall_mem_cons, ← hreads, ← hfits, List.map_cons]
      simp only [List.forall₂_cons_left_iff]
      constructor
      · intro h
        obtain ⟨parsed, first, rest, hfirst, hrest, _⟩ := h
        exact ⟨⟨first, hfirst⟩, rest, hrest⟩
      · intro h
        obtain ⟨⟨first, hfirst⟩, rest, hrest⟩ := h
        exact ⟨first :: rest, first, rest, hfirst, hrest, rfl⟩

section Same

variable {identity : Json} {fields : List (String × Json)} {signature : String}

/-- The members of the signed object, besides the three that are prepared. -/
theorem Prepared.get_signed (h : Prepared P identity fields) {key : String}
    (hkey : key ∉ ["signature", "endpoints", "agent"]) :
    (Json.object (dict_set "signature" (.string signature) fields)).get key = identity.get key := by
  have hne : "signature" ≠ key := by
    intro heq
    exact hkey (by rw [heq]; exact List.mem_cons_self)
  rw [get_dict_set, if_neg hne, h.kept key hkey]

/-- What is read and hashed as it was signed fits. -/
theorem Prepared.fits (h : Prepared P identity fields) (hkeys : WellKeyed identity)
    {parsed : DnsServerIdentityV2}
    (hparsed : DnsServerIdentityV2.from_value
      (.object (dict_set "signature" (.string signature) fields)) = .ok parsed)
    (hstrip : parsed.to_value.strip_signatures = (Json.object fields).strip_signatures) :
    Fits identity := by
  have hfrom := DnsServerIdentityV2.from_value_eq_ok.mp hparsed
  obtain ⟨written, hwritten, hwritten_distinct⟩ := identity_distinct parsed
  rw [← strip_signed (h.distinct hkeys) (.string signature), hwritten,
    strip_eq_iff hwritten_distinct (h.distinct hkeys).dict_set, ← hwritten] at hstrip
  have hget : ∀ {key : String}, key ∉ ["signature", "endpoints", "agent"] →
      (Json.object (dict_set "signature" (.string signature) fields)).get key = identity.get key :=
    fun hkey => h.get_signed hkey
  refine ⟨?_, ?_, ?_, ?_, ?_, ?_, ?_, ?_⟩
  · -- what no field is named after is not written
    intro key hkey
    by_contra hnot
    obtain ⟨hsignature, hother⟩ := not_or.mp hnot
    have hplain : key ∉ ["signature", "endpoints", "agent"] := by
      intro hmem
      simp only [List.mem_cons, List.not_mem_nil, or_false] at hmem
      rcases hmem with heq | heq | heq
      · exact hsignature heq
      · exact hother (by rw [heq]; decide)
      · exact hother (by rw [heq]; decide)
    have hsame := hstrip key hsignature
    rw [identity_get_other hsignature hother, hget hplain] at hsame
    exact hkey (Option.map_eq_none_iff.mp hsame.symm)
  · -- the four texts the struct reads as texts
    intro key hkey
    simp only [List.mem_cons, List.not_mem_nil, or_false] at hkey
    rcases hkey with heq | heq | heq | heq
    · rw [heq, ← hget (by decide)]
      exact ⟨_, hfrom.server_id⟩
    · rw [heq, ← hget (by decide)]
      exact ⟨_, hfrom.operator_id⟩
    · rw [heq, ← hget (by decide)]
      exact ⟨_, hfrom.issuer⟩
    · rw [heq, ← hget (by decide)]
      exact ⟨_, hfrom.key_id⟩
  · -- the two times are numbers of an `i64`
    have htime : ∀ {member : Option Json} {n : Int},
        (∃ v, member = some v ∧ read_signed 64 v = .ok n) →
          ∃ n, member = some (.number n) ∧ -2 ^ 63 ≤ n ∧ n < 2 ^ 63 := by
      intro member n hread
      obtain ⟨v, hv, hn⟩ := hread
      obtain ⟨heq, hrange⟩ := read_signed_eq_ok.mp hn
      exact ⟨n, by rw [hv, heq], hrange⟩
    intro key hkey
    simp only [List.mem_cons, List.not_mem_nil, or_false] at hkey
    rcases hkey with heq | heq
    · rw [heq, ← hget (by decide)]
      exact htime hfrom.valid_from
    · rw [heq, ← hget (by decide)]
      exact htime hfrom.valid_until
  · -- the version is a number of a `u64`
    obtain ⟨v, hv, hn⟩ := hfrom.object_version
    obtain ⟨heq, hrange⟩ := read_unsigned_eq_ok.mp hn
    rw [hget (by decide), heq] at hv
    refine ⟨_, hv, ?_⟩
    exact_mod_cast hrange
  · -- the struct always writes it
    have hsame := hstrip "anycast" (by decide)
    have hread := hfrom.anycast
    rw [hget (by decide)] at hsame hread
    rcases read_default_eq_ok.mp hread with ⟨hnone, _⟩ | ⟨value, hvalue, hb⟩
    · rw [hnone] at hsame
      simp [DnsServerIdentityV2.to_value] at hsame
    · rw [read_bool_eq_ok.mp hb] at hvalue
      exact ⟨_, hvalue⟩
  · -- a null is read as `None`, and is not written again
    have hsame := hstrip "anycast_service_id" (by decide)
    have hread := hfrom.anycast_service_id
    rw [hget (by decide)] at hsame hread
    rcases read_option_eq_ok.mp hread with ⟨habsent, hnone⟩ | ⟨value, s, hvalue, _, hs, _⟩
    · rcases habsent with habsent | hnull
      · exact Or.inl habsent
      · rw [hnull] at hsame
        simp [DnsServerIdentityV2.to_value, hnone] at hsame
    · rw [read_string_eq_ok.mp hs] at hvalue
      exact Or.inr ⟨s, hvalue⟩
  · -- the agent is absent, or one the schema checked and the struct writes again
    have hsame := hstrip "agent" (by decide)
    have hread := hfrom.agent
    have hagent : parsed.to_value.get "agent" = parsed.agent.map AgentBindingV2.to_value := by
      simp [DnsServerIdentityV2.to_value]
    rw [get_dict_set, if_neg (by decide)] at hsame hread
    rw [hagent] at hsame
    rcases h.agent with ⟨habsent, hafter⟩ | ⟨agent, algorithm, hbefore, hafter, hchecked⟩
    · rw [hafter] at hsame hread
      rcases habsent with hnone | hnull
      · exact Or.inl hnone
      · rw [hnull] at hsame hread
        have hnone : parsed.agent = none := (Except.ok.inj hread).symm
        rw [hnone] at hsame
        cases hsame
    · rw [hafter] at hsame hread
      rcases read_option_eq_ok.mp hread with ⟨habsent, _⟩ | ⟨value, read, hvalue, _, hread, hsome⟩
      · rcases habsent with hnone | hnull
        · cases hnone
        · cases Option.some.inj hnull
      · rw [hsome] at hsame
        rw [← Option.some.inj hvalue] at hread
        exact Or.inr ⟨agent, hbefore, (agent_same_iff (hkeys.agent agent hbefore) hchecked).mp
          ⟨read, hread, Option.some.inj hsame⟩⟩
  · intro items hitems
    obtain ⟨items', endpoints, hitems', hall, hafter⟩ := h.endpoints
    obtain ⟨written', hwritten', hread⟩ := hfrom.endpoints
    rw [get_dict_set, if_neg (by decide), hafter] at hwritten'
    rw [hitems] at hitems'
    rw [Json.array.inj (Option.some.inj hitems')]
    rw [← Json.array.inj (Option.some.inj hwritten')] at hread
    exact (endpoints_same hall).2.mp ⟨_, hread⟩

/-- The prepared members are those the struct is written with. -/
structure MembersOf (fields : List (String × Json)) (parsed : DnsServerIdentityV2) : Prop where
  plain : ∀ key ∈ IDENTITY_MEMBERS, key ∉ ["endpoints", "agent"] →
    (Json.object fields).get key = parsed.to_value.get key
  endpoints : ∃ items, (Json.object fields).get "endpoints" = some (.array items) ∧
    List.Forall₂ (fun item endpoint => DnsEndpoint.from_value item = .ok endpoint) items
      parsed.endpoints ∧ parsed.endpoints.map DnsEndpoint.to_value = items
  agent : read_option AgentBindingV2.from_value ((Json.object fields).get "agent") =
    .ok parsed.agent
  agent_written : (parsed.agent.map AgentBindingV2.to_value).map strip_signatures =
    ((Json.object fields).get "agent").map strip_signatures
  other : ∀ key, key ≠ "signature" → key ∉ IDENTITY_MEMBERS → (Json.object fields).get key = none
  valid_from : -2 ^ 63 ≤ parsed.valid_from ∧ parsed.valid_from < 2 ^ 63
  valid_until : -2 ^ 63 ≤ parsed.valid_until ∧ parsed.valid_until < 2 ^ 63
  object_version : parsed.object_version < 2 ^ 64

/-- The members of such a struct are read back. -/
theorem MembersOf.read {parsed : DnsServerIdentityV2} (h : MembersOf fields parsed)
    (hsignature : parsed.signature = some signature) :
    DnsServerIdentityV2.from_value (.object (dict_set "signature" (.string signature) fields)) =
      .ok parsed := by
  have hget : ∀ {key : String}, key ≠ "signature" →
      (Json.object (dict_set "signature" (.string signature) fields)).get key =
        (Json.object fields).get key := by
    intro key hkey
    rw [get_dict_set, if_neg hkey.symm]
  obtain ⟨items, hitems, hparsed, _⟩ := h.endpoints
  refine DnsServerIdentityV2.from_value_eq_ok.mpr
    ⟨?_, ?_, ?_, ?_, ⟨items, ?_, hparsed⟩, ?_, ?_, ?_, ⟨.number parsed.valid_from, ?_, ?_⟩,
      ⟨.number parsed.valid_until, ?_, ?_⟩, ⟨.nat parsed.object_version, ?_, ?_⟩, ?_, ?_, ?_, ?_⟩
  · rw [hget (by decide), h.plain _ (by decide) (by decide)]
    simp [DnsServerIdentityV2.to_value]
  · rw [hget (by decide), h.plain _ (by decide) (by decide)]
    simp [DnsServerIdentityV2.to_value]
  · rw [hget (by decide), h.plain _ (by decide) (by decide)]
    simp [DnsServerIdentityV2.to_value]
  · rw [hget (by decide), h.plain _ (by decide) (by decide)]
    simp [DnsServerIdentityV2.to_value]
  · rw [hget (by decide), hitems]
  · rw [hget (by decide), h.plain _ (by decide) (by decide)]
    simp [DnsServerIdentityV2.to_value, read_default, read_bool]
  · rw [hget (by decide), h.plain _ (by decide) (by decide)]
    have hwritten : parsed.to_value.get "anycast_service_id" =
        parsed.anycast_service_id.map Json.string := by simp [DnsServerIdentityV2.to_value]
    rw [hwritten]
    cases parsed.anycast_service_id <;> rfl
  · rw [hget (by decide)]
    exact h.agent
  · rw [hget (by decide), h.plain _ (by decide) (by decide)]
    simp [DnsServerIdentityV2.to_value]
  · exact read_signed_eq_ok.mpr ⟨rfl, h.valid_from⟩
  · rw [hget (by decide), h.plain _ (by decide) (by decide)]
    simp [DnsServerIdentityV2.to_value]
  · exact read_signed_eq_ok.mpr ⟨rfl, h.valid_until⟩
  · rw [hget (by decide), h.plain _ (by decide) (by decide)]
    simp [DnsServerIdentityV2.to_value]
  · exact read_unsigned_eq_ok.mpr ⟨rfl, h.object_version⟩
  · rw [hget (by decide), h.plain _ (by decide) (by decide)]
    simp [DnsServerIdentityV2.to_value]
  · rw [hget (by decide), h.plain _ (by decide) (by decide)]
    simp [DnsServerIdentityV2.to_value]
  · rw [hget (by decide), h.plain _ (by decide) (by decide)]
    simp [DnsServerIdentityV2.to_value]
  · rw [get_dict_set, if_pos rfl, hsignature]
    rfl

/-- And the struct is written as they are, signatures apart. -/
theorem MembersOf.same {parsed : DnsServerIdentityV2} (h : MembersOf fields parsed)
    (hdistinct : Distinct fields) :
    parsed.to_value.strip_signatures = (Json.object fields).strip_signatures := by
  obtain ⟨written, hwritten, hwritten_distinct⟩ := identity_distinct parsed
  rw [hwritten, strip_eq_iff hwritten_distinct hdistinct, ← hwritten]
  intro key hsignature
  by_cases hmember : key ∈ IDENTITY_MEMBERS
  · by_cases hendpoints : key = "endpoints"
    · obtain ⟨items, hitems, _, hsame⟩ := h.endpoints
      rw [hendpoints, hitems, ← hsame]
      simp [DnsServerIdentityV2.to_value]
    by_cases hagent : key = "agent"
    · rw [hagent, ← h.agent_written]
      simp [DnsServerIdentityV2.to_value]
    · rw [h.plain key hmember (by simp [hendpoints, hagent])]
  · rw [identity_get_other hsignature hmember, h.other key hsignature hmember]

/-- An Agent binding that fits is read, and written as it was signed. -/
theorem Prepared.agent_of_fits (h : Prepared P identity fields) (hkeys : WellKeyed identity)
    (hfits : Fits identity) : ∃ agent : Option AgentBindingV2,
      read_option AgentBindingV2.from_value ((Json.object fields).get "agent") = .ok agent ∧
        (agent.map AgentBindingV2.to_value).map strip_signatures =
          ((Json.object fields).get "agent").map strip_signatures := by
  rcases h.agent with ⟨habsent, hafter⟩ | ⟨agent, algorithm, hbefore, hafter, hchecked⟩
  · have hnone : identity.get "agent" = none := by
      rcases hfits.agent with hnone | ⟨agent, hagent, _⟩
      · exact hnone
      · rcases habsent with hnone | hnull
        · exact hnone
        · rw [hagent] at hnull
          cases Option.some.inj hnull
    rw [hafter, hnone]
    exact ⟨none, rfl, rfl⟩
  · have hknown : KnownMembers AGENT_MEMBERS (.object agent) ∧
        ∃ s, (Json.object agent).get "key_id" = some (.string s) := by
      rcases hfits.agent with hnone | ⟨agent', hagent', hknown⟩
      · rw [hnone] at hbefore
        cases hbefore
      · rw [hbefore] at hagent'
        rw [Json.object.inj (Option.some.inj hagent')]
        exact hknown
    obtain ⟨read, hread, hstrip⟩ :=
      (agent_same_iff (hkeys.agent agent hbefore) hchecked).mpr hknown
    rw [hafter]
    exact ⟨some read, read_option_eq_ok.mpr (Or.inr ⟨_, read, rfl, nofun, hread, rfl⟩),
      congrArg some hstrip⟩

/-- The members of what fits are those of a struct. -/
theorem Prepared.members_of_fits (h : Prepared P identity fields) (hkeys : WellKeyed identity)
    (hfits : Fits identity) (signature : String) :
    ∃ parsed, MembersOf fields parsed ∧ parsed.signature = some signature := by
  obtain ⟨role, hrole⟩ := h.role
  obtain ⟨server_id, hserver⟩ := hfits.texts "server_id" (by decide)
  obtain ⟨operator_id, hoperator⟩ := hfits.texts "operator_id" (by decide)
  obtain ⟨issuer, hissuer⟩ := hfits.texts "issuer" (by decide)
  obtain ⟨key_id, hkey_id⟩ := hfits.texts "key_id" (by decide)
  obtain ⟨valid_from, hfrom, hfrom_range⟩ := hfits.times "valid_from" (by decide)
  obtain ⟨valid_until, huntil, huntil_range⟩ := hfits.times "valid_until" (by decide)
  obtain ⟨version, hversion, hversion_range⟩ := hfits.object_version
  obtain ⟨anycast, hanycast⟩ := hfits.anycast
  obtain ⟨items, endpoints, hitems, hall, hafter⟩ := h.endpoints
  obtain ⟨parsed_endpoints, hparsed_endpoints⟩ :=
    (endpoints_same hall).2.mpr (hfits.endpoints items hitems)
  obtain ⟨agent, hread_agent, hwrite_agent⟩ := h.agent_of_fits hkeys hfits
  -- the version is positive, so it is the same number as a `Nat`
  have hpositive : 0 < version := by
    obtain ⟨n, hn, hpositive⟩ := h.object_version
    unfold dict_get_or at hn
    rw [hversion] at hn
    rw [Except.ok.inj hn]
    exact hpositive
  have hnat : Json.nat version.toNat = .number version := by
    unfold Json.nat
    rw [Int.toNat_of_nonneg (le_of_lt hpositive)]
  have hservice : ∃ service : Option String,
      identity.get "anycast_service_id" = service.map Json.string := by
    rcases hfits.anycast_service_id with hnone | ⟨s, hs⟩
    · exact ⟨none, hnone⟩
    · exact ⟨some s, hs⟩
  obtain ⟨service, hservice⟩ := hservice
  refine ⟨⟨"dns-server-identity-v2", server_id, operator_id, role, parsed_endpoints, anycast,
    service, agent, valid_from, valid_until, version.toNat, "ACTIVE", issuer, key_id,
    some signature⟩, ⟨?_, ⟨_, hafter, hparsed_endpoints,
      (endpoints_same hall).1 parsed_endpoints hparsed_endpoints⟩, hread_agent, hwrite_agent, ?_,
      hfrom_range, huntil_range, ?_⟩, rfl⟩
  · intro key hmember hplain
    have hsignature : key ∉ ["signature", "endpoints", "agent"] := by
      intro hmem
      rcases List.mem_cons.mp hmem with heq | hmem
      · rw [heq] at hmember
        exact absurd hmember (by decide)
      · exact hplain hmem
    rw [h.kept key hsignature]
    simp only [IDENTITY_MEMBERS, List.mem_cons, List.not_mem_nil, or_false] at hmember
    rcases hmember with rfl | rfl | rfl | rfl | rfl | rfl | rfl | rfl | rfl | rfl | rfl | rfl |
      rfl | rfl
    · simp [DnsServerIdentityV2.to_value, h.schema_version]
    · simp [DnsServerIdentityV2.to_value, hserver]
    · simp [DnsServerIdentityV2.to_value, hoperator]
    · simp [DnsServerIdentityV2.to_value, hrole]
    · exact absurd List.mem_cons_self hplain
    · simp [DnsServerIdentityV2.to_value, hanycast]
    · simp [DnsServerIdentityV2.to_value, hservice]
    · exact absurd (List.mem_cons_of_mem _ List.mem_cons_self) hplain
    · simp [DnsServerIdentityV2.to_value, hfrom]
    · simp [DnsServerIdentityV2.to_value, huntil]
    · simp [DnsServerIdentityV2.to_value, hversion, hnat]
    · simp [DnsServerIdentityV2.to_value, h.status]
    · simp [DnsServerIdentityV2.to_value, hissuer]
    · simp [DnsServerIdentityV2.to_value, hkey_id]
  · -- nothing else is in the file
    intro key hsignature hmember
    have hplain : key ∉ ["signature", "endpoints", "agent"] := by
      intro hmem
      simp only [List.mem_cons, List.not_mem_nil, or_false] at hmem
      rcases hmem with heq | heq | heq
      · exact hsignature heq
      · exact hmember (by rw [heq]; decide)
      · exact hmember (by rw [heq]; decide)
    rw [h.kept key hplain]
    by_contra hsome
    exact (hfits.known key hsome).elim hsignature hmember
  · show version.toNat < 2 ^ 64
    omega

/-- What fits is read, and hashed as it was signed. -/
theorem Prepared.same_of_fits (h : Prepared P identity fields) (hkeys : WellKeyed identity)
    (hfits : Fits identity) : ∃ parsed, DnsServerIdentityV2.from_value
        (.object (dict_set "signature" (.string signature) fields)) = .ok parsed ∧
      parsed.to_value.strip_signatures = (Json.object fields).strip_signatures := by
  obtain ⟨parsed, hmembers, hsignature⟩ := h.members_of_fits hkeys hfits signature
  exact ⟨parsed, hmembers.read hsignature, hmembers.same (h.distinct hkeys)⟩

/-- The object the verifier reads hashes and verifies as the one that was signed, and exactly
when. -/
theorem identity_objects_agree_iff (hvec : P.to_vec = to_vec) {private_key : List UInt8} {signed : Json}
    (hkeys : WellKeyed identity) (hprepared : prepare_identity P identity = .ok fields)
    (hsigned : sign_identity P private_key identity = .ok signed) :
    (∃ parsed, DnsServerIdentityV2.from_value signed = .ok parsed ∧
      P.object_hash parsed.to_value = object_hash P signed ∧
        P.canonical_json_bytes parsed.to_value = canonical_json_bytes (.object fields)) ↔
      Fits identity := by
  have hp := prepared_of_identity hprepared
  have hdistinct := hp.distinct hkeys
  unfold sign_identity at hsigned
  rw [hprepared, ok_bind, Except.ok.injEq] at hsigned
  have hverified : ∀ value, P.canonical_json_bytes value = to_vec value.strip_signatures := by
    intro value
    unfold Platform.canonical_json_bytes
    rw [hvec]
  rw [← hsigned]
  constructor
  · intro h
    obtain ⟨parsed, hparsed, _, hbytes⟩ := h
    rw [hverified, canonical_json_bytes_eq] at hbytes
    exact hp.fits hkeys hparsed (to_vec_injective hbytes)
  · intro hfits
    obtain ⟨parsed, hparsed, hstrip⟩ := hp.same_of_fits hkeys hfits
    refine ⟨parsed, hparsed, ?_, ?_⟩
    · unfold Platform.object_hash object_hash
      rw [hverified, canonical_json_bytes_eq, hstrip, strip_signed hdistinct]
    · rw [hverified, canonical_json_bytes_eq, hstrip]

end Same

end Identity

/-! ## §7. Recorded identities. -/

/-- The recorded results for one identity. -/
def identity_recording : Recording where
  digests := endpoint_recording.digests ++ [
    ("\x7b\"endpoints\"", "0x0520632e8b5913b8c914f97ce7fce3fc975e04ee6377a09acae755c12ea551dc"),
    ("\x7b\"anycast\"", "0x0c743f8f85d02731948ef18bb52cb31362ad639b7c817e7a2071611521ac1226")]
  keys := [("AQEBAQEBAQEBAQEBAQEBAQEBAQEBAQEBAQEBAQEBAQE=",
    "iojj3XQJ8ZX9UtstPLpdcspnCb8dlBIb83SIAbQPb1w=")]
  signatures := [
    ("iojj3XQJ8ZX9UtstPLpdcspnCb8dlBIb83SIAbQPb1w=", "\x7b\"endpoints\"",
      "2jBMWWXCpa0hr51O4yoMGnExXs6mzA7y5xrOhCGun9GEECsX6DAnJDOTLJsYBNvC2h40EfPcLa19m3QtuGHDBA=="),
    ("iojj3XQJ8ZX9UtstPLpdcspnCb8dlBIb83SIAbQPb1w=", "\x7b\"anycast\"",
      "BjUbxq2PSZifDG96qgH/xwlOiQIIHIWxsHqdxvKQBVw7S8DHoE3dHLbnfLdueFxFHixrhsCzLAbyf6iHC//mBw==")]

/-- The platform that answers with them. -/
def identity_platform : Platform :=
  { identity_recording.platform with
    to_lowercase := endpoint_platform.to_lowercase
    parse_ip := endpoint_platform.parse_ip
    canonical_url := endpoint_platform.canonical_url }

/-- The members of an authority, in the order a file may have them. -/
def authority_members : List (String × Json) := [
  ("schema_version", .string "dns-server-identity-v2"), ("server_id", .string "ns.example"),
  ("operator_id", .string "operator-a"), ("role", .string "AUTHORITATIVE"),
  ("endpoints", .array [.object [("ip", .string "192.0.2.53")]]),
  ("valid_from", .number 1700000000), ("valid_until", .number 1900000000),
  ("object_version", .number 1), ("status", .string "ACTIVE"), ("issuer", .string "operator-a"),
  ("key_id", .string "operator-a-1")]

/-- An authority without the optional member `anycast`. -/
def authority : Json := .object authority_members

/-- The key of the recorded signature. -/
def authority_key : List UInt8 := base64_text "AQEBAQEBAQEBAQEBAQEBAQEBAQEBAQEBAQEBAQEBAQE="

theorem authority_well_keyed : WellKeyed authority := by
  refine ⟨?_, ?_⟩
  · intro fields hfields
    rw [← Json.object.inj hfields]
    unfold Distinct
    decide
  · intro agent hagent
    cases hagent

/-- The struct is written with the member the publisher did not sign. -/
theorem absent_anycast_differs : ∃ fields signed,
    prepare_identity identity_platform authority = .ok fields ∧
      sign_identity identity_platform authority_key authority = .ok signed ∧
      ¬ ∃ parsed, DnsServerIdentityV2.from_value signed = .ok parsed ∧
        identity_platform.object_hash parsed.to_value = object_hash identity_platform signed ∧
        identity_platform.canonical_json_bytes parsed.to_value =
          canonical_json_bytes (.object fields) := by
  have hok : (prepare_identity identity_platform authority).toOption.isSome := by
    decide +kernel
  obtain ⟨fields, hfields⟩ := Option.isSome_iff_exists.mp hok
  have hprepared := toOption_eq_some hfields
  have hp := prepared_of_identity hprepared
  refine ⟨fields, _, hprepared, by rw [sign_identity, hprepared]; rfl, ?_⟩
  intro h
  obtain ⟨parsed, hparsed, _, hbytes⟩ := h
  rw [canonical_json_bytes_eq] at hbytes
  have hfits := hp.fits authority_well_keyed hparsed (to_vec_injective hbytes)
  obtain ⟨_, hanycast⟩ := hfits.anycast
  cases hanycast

/-- The same authority with `anycast` written out. -/
def unicast_authority : Json := .object (authority_members ++ [("anycast", Json.bool false)])

theorem unicast_authority_agrees : ∃ fields signed parsed,
    prepare_identity identity_platform unicast_authority = .ok fields ∧
      sign_identity identity_platform authority_key unicast_authority = .ok signed ∧
      DnsServerIdentityV2.from_value signed = .ok parsed ∧
        identity_platform.object_hash parsed.to_value = object_hash identity_platform signed ∧
        identity_platform.canonical_json_bytes parsed.to_value =
          canonical_json_bytes (.object fields) := by
  have hok : (prepare_identity identity_platform unicast_authority).toOption.isSome := by
    decide +kernel
  obtain ⟨fields, hfields⟩ := Option.isSome_iff_exists.mp hok
  have hprepared := toOption_eq_some hfields
  have hsigned : ∃ signed, sign_identity identity_platform authority_key unicast_authority =
      .ok signed := ⟨_, by rw [sign_identity, hprepared]; rfl⟩
  obtain ⟨signed, hsigned⟩ := hsigned
  -- the file's objects have distinct keys
  have hkeys : WellKeyed unicast_authority := by
    refine ⟨?_, ?_⟩
    · intro fields hfields
      rw [← Json.object.inj hfields]
      unfold Distinct
      decide
    · intro agent hagent
      cases hagent
  -- and its members are of the types the struct reads
  have hfits : Fits unicast_authority := by
    refine ⟨?_, ?_, ?_, ⟨1, rfl, by decide⟩, ⟨false, rfl⟩, Or.inl rfl, Or.inl rfl, ?_⟩
    · intro key hkey
      obtain ⟨value, hvalue⟩ := Option.ne_none_iff_exists'.mp hkey
      have hmember : key ∈ (authority_members ++ [("anycast", Json.bool false)]).map Prod.fst :=
        List.mem_map.mpr ⟨_, mem_of_get hvalue, rfl⟩
      have hall : ∀ key ∈ (authority_members ++ [("anycast", Json.bool false)]).map Prod.fst,
          key ∈ IDENTITY_MEMBERS := by decide
      exact Or.inr (hall key hmember)
    · intro key hkey
      simp only [List.mem_cons, List.not_mem_nil, or_false] at hkey
      rcases hkey with heq | heq | heq | heq <;> rw [heq] <;> exact ⟨_, rfl⟩
    · intro key hkey
      simp only [List.mem_cons, List.not_mem_nil, or_false] at hkey
      rcases hkey with heq | heq <;> rw [heq] <;> exact ⟨_, rfl, by decide, by decide⟩
    · intro items hitems item hitem
      rw [← Json.array.inj (Option.some.inj hitems)] at hitem
      rw [List.mem_singleton.mp hitem]
      exact ⟨Or.inl rfl, Or.inl rfl⟩
  obtain ⟨parsed, hagrees⟩ :=
    (identity_objects_agree_iff rfl hkeys hprepared hsigned).mpr hfits
  exact ⟨fields, signed, parsed, hprepared, hsigned, hagrees⟩

end ResolverIdentity.Publisher
