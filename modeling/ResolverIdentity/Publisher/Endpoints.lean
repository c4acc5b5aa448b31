/-
  ResolverIdentity.Publisher.Endpoints: the endpoint key of the publisher.

  `ResolverEndpoint` of `models/endpoint.py` and `endpoint_lookup_key` of
  `admin/publisher.py`, against `DnsEndpoint::registry_key`.  The fields of a dictionary
  are whatever its JSON holds until they are used, so a field is a JSON value here, and
  `.null` is `None`.  JSON numbers are integers.

  Main results:
    * `from_dict_eq_ok`, `lookup_key_eq_ok`: what the publisher accepts and what it hashes;
    * `verifier_alpn_eq_iff`: the lists both sides normalize alike;
    * `endpoint_keys_agree_iff`: one key on both sides, and exactly when.
-/
import Mathlib.Algebra.Order.BigOperators.Group.List
import ResolverIdentity.Core.Deserialize
import ResolverIdentity.Core.Recorded
import ResolverIdentity.Core.RegistryKeys
import ResolverIdentity.Publisher.CanonicalJson
import ResolverIdentity.Publisher.Texts

namespace ResolverIdentity.Publisher

open Library Json

/-! ## §1. Values as Python uses them. -/

/-- `bool(value)`. -/
def truthy : Json → Bool
  | .null => false
  | .bool b => b
  | .number n => n ≠ 0
  | .string s => !s.isEmpty
  | .array items => !items.isEmpty
  | .object fields => !fields.isEmpty

/-- `data.get(key)`. -/
def dict_get (data : Json) (key : String) : Json := (data.get key).getD .null

/-- `int(value)`. -/
def int_of : Json → Except String Int
  | .number n => .ok n
  | .bool b => .ok (if b then 1 else 0)
  | .string s => okOr (int_value s) "ValueError: invalid literal for int() with base 10"
  | .null | .array _ | .object _ =>
    .error "TypeError: int() argument must be a string, a bytes-like object or a real number"

/-- `list(value)`: of a text its characters, of a dict its keys. -/
def list_of : Json → Except String (List Json)
  | .array items => .ok items
  | .string s => .ok (s.toList.map (fun c => .string (String.singleton c)))
  | .object fields => .ok (fields.map (fun field => .string field.1))
  | .null | .bool _ | .number _ => .error "TypeError: object is not iterable"

section Endpoints

variable (P : Platform)

/-! ## §2. The endpoint. -/

/-- An address as `ipaddress` prints it. -/
def canonical_ip (value : String) : Except String String :=
  okOr (P.parse_ip (strip_text value)) "ValueError: not an IPv4 or IPv6 address"

/-- `str.lower` follows the Unicode rule of `str::to_lowercase`. -/
def normalize_name (value : String) : String :=
  P.to_lowercase (trim_end_matches (strip_text value) '.')

/-- A URI as `urlsplit` and `urlunsplit` print it. -/
def canonical_uri (value : String) : Except String String :=
  okOr (P.canonical_url (strip_text value)) "ValueError: invalid URI"

/-- The port of a transport. -/
def default_port (transport : String) : Int :=
  let transport := P.to_lowercase transport
  if transport = "udp" then 53
  else if transport = "tcp" then 53
  else if transport = "dot" then 853
  else if transport = "doh" then 443
  else if transport = "doq" then 853
  else 53

/-- An endpoint of the publisher's own data model. -/
structure ResolverEndpoint where
  endpoint_id : Json
  ip : Json
  port : Json
  transport : String
  uri : Json
  server_name : Json
  alpn : List Json

/-- `f(value) if value else None`; `f` calls a method of a text. -/
def convert_text (value : Json) (f : String → Except String String) : Except String Json :=
  if truthy value then
    match value with
    | .string s => do
      let converted ← f s
      .ok (.string converted)
    | _ => .error "AttributeError: object has no attribute 'strip'"
  else .ok .null

/-- `a.lower()`. -/
def lower_of : Json → Except String Json
  | .string s => .ok (.string (P.to_lowercase s))
  | _ => .error "AttributeError: object has no attribute 'lower'"

/-- The port given, or the default one. -/
def port_of (port : Json) (transport : String) : Except String Json :=
  match port with
  | .null => .ok (.number (default_port P transport))
  | value => do
    let n ← int_of value
    .ok (.number n)

/-- `ResolverEndpoint.normalized`. -/
def ResolverEndpoint.normalized (self : ResolverEndpoint) : Except String ResolverEndpoint := do
  let ip ← convert_text self.ip (canonical_ip P)
  let server_name ← convert_text self.server_name (fun value => .ok (normalize_name P value))
  let uri ← convert_text self.uri (canonical_uri P)
  let port ← port_of P self.port self.transport
  let alpn ← self.alpn.mapM (lower_of P)
  .ok { endpoint_id := self.endpoint_id, ip, port, transport := P.to_lowercase self.transport
        uri, server_name, alpn }

/-- `!=` on the fields of a normalized endpoint: texts, integers and `None`. -/
def field_ne : Json → Json → Bool
  | .string a, .string b => a != b
  | .number a, .number b => a != b
  | .null, .null => false
  | _, _ => true

/-- `a and b` -/
def both (a b : Json) : Bool := truthy a && truthy b

/-- `ResolverEndpoint.matches`. -/
def endpoint_matches (self observed : ResolverEndpoint) : Except String Bool := do
  let expected ← self.normalized P
  let observed ← observed.normalized P
  if expected.transport != observed.transport then .ok false
  else if field_ne expected.port observed.port then .ok false
  else if both expected.ip observed.ip && field_ne expected.ip observed.ip then .ok false
  else if both expected.uri observed.uri && field_ne expected.uri observed.uri then .ok false
  else if both expected.server_name observed.server_name &&
      field_ne expected.server_name observed.server_name then .ok false
  else
    .ok (both expected.ip observed.ip || both expected.uri observed.uri ||
      both expected.server_name observed.server_name)

/-- `(value or "udp").lower()`. -/
def transport_of (value : Json) : Except String String :=
  if truthy value then
    match value with
    | .string s => .ok (P.to_lowercase s)
    | _ => .error "AttributeError: object has no attribute 'lower'"
  else .ok (P.to_lowercase "udp")

/-- `list(value or [])`. -/
def alpn_of (value : Json) : Except String (List Json) :=
  if truthy value then list_of value else .ok []

/-- `ResolverEndpoint.from_dict`. -/
def from_dict (data : Json) : Except String ResolverEndpoint :=
  match data with
  | .object _ => do
    let transport ← transport_of P (dict_get data "transport")
    let alpn ← alpn_of (dict_get data "alpn")
    ResolverEndpoint.normalized P
      { endpoint_id := dict_get data "endpoint_id"
        ip := dict_get data "ip"
        port := dict_get data "port"
        transport
        uri := dict_get data "uri"
        server_name := dict_get data "server_name"
        alpn }
  | _ => .error "AttributeError: object has no attribute 'get'"

/-- `v is not None and v != []` -/
def is_written : Json → Bool
  | .null => false
  | .array items => !items.isEmpty
  | _ => true

/-- The members of `to_dict`, in order. -/
def ResolverEndpoint.members (self : ResolverEndpoint) : List (String × Json) :=
  [("endpoint_id", self.endpoint_id), ("ip", self.ip), ("port", self.port),
    ("transport", .string self.transport), ("uri", self.uri), ("server_name", self.server_name),
    ("alpn", .array self.alpn)].filter (fun item => is_written item.2)

/-- `ResolverEndpoint.to_dict`. -/
def ResolverEndpoint.to_dict (self : ResolverEndpoint) : Json := .object self.members

/-- `to_dict` after `binding.pop("endpoint_id", None)`. -/
def ResolverEndpoint.binding (self : ResolverEndpoint) : Json :=
  .object (self.members.filter (fun item => item.1 ≠ "endpoint_id"))

/-- What is hashed for a normalized endpoint. -/
def key_text (endpoint : ResolverEndpoint) : List UInt8 :=
  as_bytes "endpoint-v2:" ++ canonical_json_bytes endpoint.binding

/-- The key an endpoint is bound under. -/
def endpoint_lookup_key (endpoint : ResolverEndpoint) : Except String String := do
  let endpoint ← endpoint.normalized P
  rejectIf (!(truthy endpoint.ip || truthy endpoint.server_name || truthy endpoint.uri))
    "endpoint must include ip, server_name, or uri"
  .ok (P.sha256_hex ( key_text endpoint))

end Endpoints

/-- The Unicode lower case, which leaves white space and dots at the ends of a text as they are,
and a parser that reads its own output. -/
structure TextLaws (P : Platform) : Prop where
  lower_lower : ∀ text, P.to_lowercase (P.to_lowercase text) = P.to_lowercase text
  lower_trim : ∀ text, P.to_lowercase (trim text) = trim (P.to_lowercase text)
  lower_strip : ∀ text, P.to_lowercase (strip_text text) = strip_text (P.to_lowercase text)
  lower_dots : ∀ text, P.to_lowercase (trim_end_matches text '.') =
    trim_end_matches (P.to_lowercase text) '.'
  /-- White space at an end is there after lower-casing as before. -/
  strip_of_lower : ∀ text,
    strip_text (P.to_lowercase text) = P.to_lowercase text → strip_text text = text
  lower_empty : P.to_lowercase "" = ""
  lower_udp : P.to_lowercase "udp" = "udp"
  ip_again : ∀ text address, P.parse_ip text = some address →
    address ≠ "" ∧ P.parse_ip (strip_text address) = some address
  url_again : ∀ text url, P.canonical_url text = some url →
    url ≠ "" ∧ P.canonical_url (strip_text url) = some url

/-! ## §3. What the publisher accepts. -/

/-- The members of a binding, once the publisher has normalized them. -/
structure Binding where
  ip : Option String
  port : Int
  transport : String
  uri : Option String
  server_name : Option String
  alpn : List String

/-- The members that are hashed. -/
def Binding.members (b : Binding) : List (String × Json) :=
  optional "ip" (b.ip.map .string) ++
  field "port" (.number b.port) ++
  field "transport" (.string b.transport) ++
  optional "uri" (b.uri.map .string) ++
  optional "server_name" (b.server_name.map .string) ++
  nonempty "alpn" (b.alpn.map .string)

/-- A text field that is used, or `None` for a falsy value. -/
def UsedText (f : String → Option String) (value : Json) (text : Option String) : Prop :=
  (truthy value = false ∧ text = none) ∨
    ∃ s converted, value = .string s ∧ s ≠ "" ∧ f s = some converted ∧ text = some converted

section Published

variable (P : Platform)

/-- A server name is normalized when it is read and once more when its key is made. -/
def published_name (text : String) : Option String :=
  if text = "" then none
  else if normalize_name P text = "" then none
  else some (normalize_name P (normalize_name P text))

/-- What the publisher binds for a dictionary. -/
structure Published (data : Json) (b : Binding) : Prop where
  ip : UsedText (fun s => P.parse_ip (strip_text s)) (dict_get data "ip") b.ip
  uri : UsedText (fun s => P.canonical_url (strip_text s)) (dict_get data "uri") b.uri
  server_name : (truthy (dict_get data "server_name") = false ∧ b.server_name = none) ∨
    ∃ s, dict_get data "server_name" = .string s ∧ b.server_name = published_name P s
  transport : (truthy (dict_get data "transport") = false ∧ b.transport = "udp") ∨
    ∃ t, dict_get data "transport" = .string t ∧ t ≠ "" ∧ b.transport = P.to_lowercase t
  port : (dict_get data "port" = .null ∧ b.port = default_port P b.transport) ∨
    (dict_get data "port" ≠ .null ∧ int_of (dict_get data "port") = .ok b.port)
  alpn : ∃ texts : List String, alpn_of (dict_get data "alpn") = .ok (texts.map .string) ∧
    b.alpn = texts.map P.to_lowercase
  located : b.ip.isSome ∨ (b.server_name.getD "" ≠ "") ∨ b.uri.isSome

end Published

section Accepted

variable {P : Platform}

theorem truthy_string {s : String} : truthy (.string s) = true ↔ s ≠ "" := by
  unfold truthy
  rw [Bool.not_eq_true', ← Bool.not_eq_true, String.isEmpty_iff]

theorem convert_text_eq_ok {value out : Json} {f : String → Except String String} :
    convert_text value f = .ok out ↔ (truthy value = false ∧ out = .null) ∨
      ∃ s converted, value = .string s ∧ s ≠ "" ∧ f s = .ok converted ∧ out = .string converted := by
  unfold convert_text
  by_cases htruthy : truthy value = true
  · rw [if_pos htruthy]
    cases value with
    | string s =>
      have hne := truthy_string.mp htruthy
      simp only [bind_eq_ok, Except.ok.injEq, htruthy, Bool.true_eq_false, false_and, false_or]
      constructor
      · intro h
        obtain ⟨converted, hconverted, heq⟩ := h
        exact ⟨s, converted, rfl, hne, hconverted, heq.symm⟩
      · intro h
        obtain ⟨s', converted, heq, _, hconverted, hout⟩ := h
        rw [Json.string.inj heq]
        exact ⟨converted, hconverted, hout.symm⟩
    | _ => simp [htruthy]
  · have hfalse : truthy value = false := Bool.eq_false_iff.mpr htruthy
    rw [if_neg htruthy, Except.ok.injEq]
    constructor
    · intro h
      exact Or.inl ⟨hfalse, h.symm⟩
    · intro h
      rcases h with ⟨_, hout⟩ | ⟨s, converted, hvalue, hne, _, _⟩
      · exact hout.symm
      · rw [hvalue] at hfalse
        rw [truthy_string.mpr hne] at hfalse
        cases hfalse

theorem lower_of_mapM {items out : List Json} :
    items.mapM (lower_of P) = .ok out ↔ ∃ texts : List String,
      items = texts.map .string ∧ out = texts.map (fun t => .string (P.to_lowercase t)) := by
  rw [mapM_eq_ok]
  constructor
  · intro h
    induction h with
    | nil => exact ⟨[], rfl, rfl⟩
    | @cons item lowered _ _ hitem _ ih =>
      obtain ⟨texts, hitems, hout⟩ := ih
      cases item with
      | string t =>
        rw [hitems, hout, ← Except.ok.inj hitem]
        exact ⟨t :: texts, rfl, rfl⟩
      | _ => cases hitem
  · intro h
    obtain ⟨texts, hitems, hout⟩ := h
    rw [hitems, hout, List.forall₂_map_left_iff, List.forall₂_map_right_iff, List.forall₂_same]
    intro t _
    rfl

theorem port_of_eq_ok {value out : Json} {transport : String} :
    port_of P value transport = .ok out ↔
      (value = .null ∧ out = .number (default_port P transport)) ∨
        (value ≠ .null ∧ ∃ n, int_of value = .ok n ∧ out = .number n) := by
  unfold port_of
  cases value with
  | null => simp [eq_comm]
  | _ => simp [bind_eq_ok, @eq_comm _ out]

theorem transport_of_eq_ok {value : Json} {out : String} :
    transport_of P value = .ok out ↔ (truthy value = false ∧ out = P.to_lowercase "udp") ∨
      ∃ t, value = .string t ∧ t ≠ "" ∧ out = P.to_lowercase t := by
  unfold transport_of
  by_cases htruthy : truthy value = true
  · rw [if_pos htruthy]
    cases value with
    | string t =>
      have hne := truthy_string.mp htruthy
      simp [htruthy, hne, eq_comm]
    | _ => simp [htruthy]
  · have hfalse : truthy value = false := Bool.eq_false_iff.mpr htruthy
    rw [if_neg htruthy]
    constructor
    · intro h
      exact Or.inl ⟨hfalse, (Except.ok.inj h).symm⟩
    · intro h
      rcases h with ⟨_, hout⟩ | ⟨t, hvalue, hne, _⟩
      · rw [hout]
      · rw [hvalue, truthy_string.mpr hne] at hfalse
        cases hfalse

/-- A used text that was printed by its own parser is used again. -/
theorem used_again {f : String → Option String} {e : String} {value first second : Json}
    (hagain : ∀ text printed, f text = some printed → printed ≠ "" ∧ f printed = some printed)
    (hfirst : convert_text value (fun s => okOr (f s) e) = .ok first)
    (hsecond : convert_text first (fun s => okOr (f s) e) = .ok second) :
    second = first ∧ ∃ text, UsedText f value text ∧ first = (text.map .string).getD .null := by
  simp only [convert_text_eq_ok, okOr_eq_ok] at hfirst hsecond
  rcases hfirst with ⟨hfalsy, hfirst⟩ | ⟨s, converted, hvalue, hne, hconverted, hfirst⟩
  · rw [hfirst] at hsecond ⊢
    rcases hsecond with ⟨_, hsecond⟩ | ⟨_, _, hnull, _⟩
    · exact ⟨hsecond, none, Or.inl ⟨hfalsy, rfl⟩, rfl⟩
    · cases hnull
  · obtain ⟨hprinted, hstable⟩ := hagain s converted hconverted
    rw [hfirst] at hsecond ⊢
    refine ⟨?_, some converted, Or.inr ⟨s, converted, hvalue, hne, hconverted, rfl⟩, rfl⟩
    rcases hsecond with ⟨hfalsy, _⟩ | ⟨s', converted', heq, _, hconverted', hsecond⟩
    · rw [truthy_string.mpr hprinted] at hfalsy
      cases hfalsy
    · rw [← Json.string.inj heq, hstable] at hconverted'
      rw [hsecond, Option.some.inj hconverted']

/-- Normalizing a name twice. -/
theorem published_name_used {value first second : Json}
    (hfirst : convert_text value (fun s => .ok (normalize_name P s)) = .ok first)
    (hsecond : convert_text first (fun s => .ok (normalize_name P s)) = .ok second) :
    ∃ text : Option String, ((truthy value = false ∧ text = none) ∨
      ∃ s, value = .string s ∧ text = published_name P s) ∧
        second = (text.map .string).getD .null := by
  rw [convert_text_eq_ok] at hfirst hsecond
  rcases hfirst with ⟨hfalsy, hfirst⟩ | ⟨s, once, hvalue, hne, honce, hfirst⟩
  · rcases hsecond with ⟨_, hsecond⟩ | ⟨_, _, hnull, _⟩
    · exact ⟨none, Or.inl ⟨hfalsy, rfl⟩, hsecond⟩
    · rw [hfirst] at hnull
      cases hnull
  · refine ⟨published_name P s, Or.inr ⟨s, hvalue, rfl⟩, ?_⟩
    have honce := Except.ok.inj honce
    unfold published_name
    rw [if_neg hne, honce]
    rcases hsecond with ⟨hfalsy, hsecond⟩ | ⟨s', twice, heq, hne', htwice, hsecond⟩
    · -- the first pass left nothing of the name
      have hempty : once = "" := by
        by_contra hnot
        rw [hfirst, truthy_string.mpr hnot] at hfalsy
        cases hfalsy
      rw [if_pos hempty, hsecond]
      rfl
    · rw [hfirst] at heq
      rw [Json.string.inj heq, if_neg hne', Except.ok.inj htwice, hsecond]
      rfl

/-- A port that was read is read as it is. -/
theorem port_used {value first second : Json} {transport transport' : String}
    (hfirst : port_of P value transport = .ok first)
    (hsecond : port_of P first transport' = .ok second) :
    ∃ n, ((value = .null ∧ n = default_port P transport) ∨ (value ≠ .null ∧ int_of value = .ok n)) ∧
      second = .number n := by
  have hkept : ∀ n, first = .number n → second = .number n := by
    intro n hn
    rw [hn] at hsecond
    rw [← Except.ok.inj hsecond]
  rcases port_of_eq_ok.mp hfirst with ⟨hnull, hout⟩ | ⟨hne, n, hn, hout⟩
  · exact ⟨_, Or.inl ⟨hnull, rfl⟩, hkept _ hout⟩
  · exact ⟨n, Or.inr ⟨hne, hn⟩, hkept _ hout⟩

/-- The members of the binding are those of its fields. -/
theorem binding_members {endpoint : ResolverEndpoint} {ip uri server_name : Option String}
    {port : Int} {alpn : List String} (hip : endpoint.ip = (ip.map .string).getD .null)
    (hport : endpoint.port = .number port) (huri : endpoint.uri = (uri.map .string).getD .null)
    (hname : endpoint.server_name = (server_name.map .string).getD .null)
    (halpn : endpoint.alpn = alpn.map .string) :
    endpoint.binding =
      .object (Binding.members ⟨ip, port, endpoint.transport, uri, server_name, alpn⟩) := by
  unfold ResolverEndpoint.binding ResolverEndpoint.members Binding.members
  rw [hip, hport, huri, hname, halpn, List.filter_filter]
  refine congrArg Json.object ?_
  cases ip <;> cases uri <;> cases server_name <;> cases alpn <;>
    simp [is_written, Json.optional, Json.field, Json.nonempty]

/-- What is bound for an accepted dictionary. -/
theorem published_of_key (laws : TextLaws P) {data : Json} {endpoint : ResolverEndpoint}
    {key : String} (hread : from_dict P data = .ok endpoint)
    (hkey : endpoint_lookup_key P endpoint = .ok key) :
    ∃ again b, endpoint.normalized P = .ok again ∧ again.binding = .object b.members ∧
      Published P data b ∧ key = P.sha256_hex (key_text again) := by
  unfold from_dict at hread
  split at hread
  case h_2 => cases hread
  case h_1 fields =>
    simp only [bind_eq_ok, ResolverEndpoint.normalized, Except.ok.injEq] at hread
    obtain ⟨transport, htransport, alpn, halpn, ip, hip, name, hname, uri, huri, port, hport,
      lowered, hlowered, hendpoint⟩ := hread
    unfold endpoint_lookup_key at hkey
    rw [← hendpoint] at hkey
    simp only [bind_eq_ok, ResolverEndpoint.normalized, Except.ok.injEq, exists_unit,
      rejectIf_eq_ok] at hkey
    obtain ⟨again, ⟨ip', hip', name', hname', uri', huri', port', hport', lowered', hlowered',
      hagain⟩, hlocated, hkey⟩ := hkey
    -- normalizing a second time changes no field
    obtain ⟨hip_eq, ip_text, hip_used, hip_text⟩ := used_again
      (fun text => laws.ip_again (strip_text text)) hip hip'
    obtain ⟨huri_eq, uri_text, huri_used, huri_text⟩ := used_again
      (fun text => laws.url_again (strip_text text)) huri huri'
    obtain ⟨name_text, hname_used, hname_text⟩ := published_name_used hname hname'
    obtain ⟨n, hport_used, hport_text⟩ := port_used hport hport'
    obtain ⟨texts, halpn_eq, hlowered_eq⟩ := lower_of_mapM.mp hlowered
    obtain ⟨texts', hlowered_eq', hfinal⟩ := lower_of_mapM.mp hlowered'
    have htexts' : texts' = texts.map P.to_lowercase := by
      have hmapped : texts'.map Json.string = (texts.map P.to_lowercase).map Json.string := by
        rw [← hlowered_eq', hlowered_eq, List.map_map]
        rfl
      exact List.map_injective_iff.mpr (fun _ _ heq => Json.string.inj heq) hmapped
    have halpn_final : lowered' = (texts.map P.to_lowercase).map Json.string := by
      rw [hfinal, htexts', List.map_map, List.map_map]
      refine List.map_congr_left ?_
      intro t _
      exact congrArg Json.string (laws.lower_lower t)
    have htransport_eq : P.to_lowercase transport = transport := by
      rcases transport_of_eq_ok.mp htransport with ⟨_, heq⟩ | ⟨t, _, _, heq⟩
      · rw [heq, laws.lower_lower]
      · rw [heq, laws.lower_lower]
    rw [← hagain] at hlocated hkey
    refine ⟨again, ⟨ip_text, n, transport, uri_text, name_text, texts.map P.to_lowercase⟩, ?_, ?_, ?_,
      ?_⟩
    · -- what `endpoint_lookup_key` normalizes again
      rw [← hendpoint]
      unfold ResolverEndpoint.normalized
      rw [hip', hname', huri', hport', hlowered', ← hagain]
      rfl
    · rw [← hagain]
      have hbinding : ResolverEndpoint.binding ⟨dict_get (.object fields) "endpoint_id", ip', port',
          P.to_lowercase (P.to_lowercase transport), uri', name', lowered'⟩ = _ :=
        binding_members (hip_eq.trans hip_text) hport_text (huri_eq.trans huri_text) hname_text
          halpn_final
      rw [hbinding, htransport_eq, htransport_eq]
    · refine ⟨hip_used, huri_used, hname_used, ?_, hport_used, ⟨texts, ?_, rfl⟩, ?_⟩
      · rcases transport_of_eq_ok.mp htransport with ⟨hfalsy, heq⟩ | ⟨t, hvalue, hne, heq⟩
        · exact Or.inl ⟨hfalsy, heq.trans laws.lower_udp⟩
        · exact Or.inr ⟨t, hvalue, hne, heq⟩
      · rw [halpn, halpn_eq]
      · -- one of the three fields is truthy
        simp only [Bool.not_eq_false', Bool.or_eq_true] at hlocated
        rw [hip_eq, hip_text, hname_text, huri_eq, huri_text] at hlocated
        rcases hlocated with (hip | hname) | huri
        · left
          cases ip_text with
          | none => cases hip
          | some _ => rfl
        · right; left
          cases name_text with
          | none => cases hname
          | some _ => exact truthy_string.mp hname
        · right; right
          cases uri_text with
          | none => cases huri
          | some _ => rfl
    · rw [← hkey, ← hagain]

end Accepted

/-! ## §4. What a binding determines. -/

section Determined

theorem mem_optional {key name : String} {value : Option Json} {v : Json} :
    (key, v) ∈ Json.optional name value ↔ key = name ∧ value = some v := by
  cases value with
  | none => simp [Json.optional]
  | some w => simp [Json.optional, @eq_comm _ w]

theorem mem_field {key name : String} {value v : Json} :
    (key, v) ∈ Json.field name value ↔ key = name ∧ v = value := by
  simp [Json.field]

theorem mem_nonempty {key name : String} {items : List Json} {v : Json} :
    (key, v) ∈ Json.nonempty name items ↔ key = name ∧ items ≠ [] ∧ v = .array items := by
  cases items with
  | nil => simp [Json.nonempty]
  | cons item rest => simp [Json.nonempty]

/-- The members under each key of a binding. -/
theorem Binding.mem_members {b : Binding} {key : String} {v : Json} :
    (key, v) ∈ b.members ↔
      (key = "ip" ∧ b.ip.map Json.string = some v) ∨ (key = "port" ∧ v = .number b.port) ∨
        (key = "transport" ∧ v = .string b.transport) ∨
        (key = "uri" ∧ b.uri.map Json.string = some v) ∨
        (key = "server_name" ∧ b.server_name.map Json.string = some v) ∨
        (key = "alpn" ∧ b.alpn.map Json.string ≠ [] ∧ v = .array (b.alpn.map .string)) := by
  unfold Binding.members
  simp only [List.mem_append, mem_optional, mem_field, mem_nonempty, or_assoc]

/-- Bindings with one canonical form are one binding. -/
theorem Binding.eq_of_strip_eq {a b : Binding}
    (h : strip_signatures (.object a.members) = strip_signatures (.object b.members)) : a = b := by
  have htext : ∀ (key : String) {x y : Option String}, key ≠ "signature" →
      (∀ v, (key, v) ∈ a.members ↔ x.map Json.string = some v) →
      (∀ v, (key, v) ∈ b.members ↔ y.map Json.string = some v) → x = y := by
    intro key x y hkey hx hy
    refine Option.ext ?_
    intro s
    have hmem := plain_mem_iff h hkey (plain_string s)
    rw [hx, hy] at hmem
    simpa using hmem
  have hip : a.ip = b.ip := htext "ip" (by decide) (fun v => by simp [Binding.mem_members])
    (fun v => by simp [Binding.mem_members])
  have huri : a.uri = b.uri := htext "uri" (by decide) (fun v => by simp [Binding.mem_members])
    (fun v => by simp [Binding.mem_members])
  have hname : a.server_name = b.server_name := htext "server_name" (by decide)
    (fun v => by simp [Binding.mem_members]) (fun v => by simp [Binding.mem_members])
  have hport : a.port = b.port := by
    have hmem := @plain_mem_iff _ _ h "port" (by decide) _ (plain_number a.port)
    simpa [Binding.mem_members] using hmem
  have htransport : a.transport = b.transport := by
    have hmem := @plain_mem_iff _ _ h "transport" (by decide) _ (plain_string a.transport)
    simpa [Binding.mem_members] using hmem
  have halpn : a.alpn = b.alpn := by
    have hstrings : Function.Injective (List.map Json.string) :=
      List.map_injective_iff.mpr (fun _ _ heq => Json.string.inj heq)
    have hmem := @plain_mem_iff _ _ h "alpn" (by decide) _ (plain_texts a.alpn)
    have hmem' := @plain_mem_iff _ _ h "alpn" (by decide) _ (plain_texts b.alpn)
    simp only [Binding.mem_members, Json.array.injEq, String.reduceEq, false_and, false_or,
      true_and, and_true] at hmem hmem'
    by_cases hempty : a.alpn.map Json.string = []
    · -- an empty list is not written on either side
      by_contra hne
      have hempty' : b.alpn.map Json.string ≠ [] := by
        intro heq
        exact hne (hstrings (hempty.trans heq.symm))
      exact (hmem'.mpr hempty').1 hempty
    · exact hstrings (hmem.mp hempty).2
  cases a
  cases b
  simp only at hip huri hname hport htransport halpn
  rw [hip, huri, hname, hport, htransport, halpn]

end Determined

/-! ## §5. The two lists of protocols. -/

section Alpn

theorem dedup_sublist (items : List String) : (dedup items).Sublist items := by
  induction items using dedup.induct with
  | case1 => exact List.Sublist.refl _
  | case2 item => exact List.Sublist.refl _
  | case3 a rest ih =>
    rw [dedup, if_pos rfl]
    exact ih.trans (List.sublist_cons_self a _)
  | case4 a b rest hne ih =>
    rw [dedup, if_neg hne]
    exact ih.cons_cons a

/-- Of a sorted list what is left is strictly ascending. -/
theorem dedup_ascending {items : List String} (h : items.Pairwise (· ≤ ·)) :
    (dedup items).Pairwise (· < ·) := by
  induction items using dedup.induct with
  | case1 => exact List.Pairwise.nil
  | case2 item => exact List.pairwise_singleton _ _
  | case3 a rest ih =>
    rw [dedup, if_pos rfl]
    exact ih h.of_cons
  | case4 a b rest hne ih =>
    rw [dedup, if_neg hne]
    have hsmall := List.pairwise_cons.mp h
    refine List.pairwise_cons.mpr ⟨?_, ih hsmall.2⟩
    intro later hlater
    -- the first of the rest is above `a`, and the others are not below it
    have hb : a < b := lt_of_le_of_ne (hsmall.1 b List.mem_cons_self) hne
    have hlater := (dedup_sublist _).subset hlater
    rcases List.mem_cons.mp hlater with heq | hrest
    · rw [heq]
      exact hb
    · exact lt_of_lt_of_le hb ((List.pairwise_cons.mp hsmall.2).1 later hrest)

theorem dedup_of_ascending {items : List String} (h : items.Pairwise (· < ·)) :
    dedup items = items := by
  induction items using dedup.induct with
  | case1 => rfl
  | case2 item => rfl
  | case3 a rest ih =>
    exact absurd ((List.pairwise_cons.mp h).1 a List.mem_cons_self) (lt_irrefl a)
  | case4 a b rest hne ih =>
    rw [dedup, if_neg hne, ih h.of_cons]

variable {P : Platform}

/-- `DnsEndpoint::normalized` of the protocols. -/
def verifier_alpn (P : Platform) (alpn : List String) : List String :=
  dedup (((alpn.map (fun value => P.to_lowercase (trim value))).filter
    (fun value => !value.isEmpty)).insertionSort (fun a b => a ≤ b))

/-- The lower-cased list is what the verifier makes of it exactly if it is ascending, and
each of its texts is trimmed and not empty. -/
theorem verifier_alpn_eq_iff (laws : TextLaws P) {texts : List String} :
    verifier_alpn P texts = texts.map P.to_lowercase ↔
      (texts.map P.to_lowercase).Pairwise (· < ·) ∧
        ∀ t ∈ texts, P.to_lowercase t ≠ "" ∧ trim (P.to_lowercase t) = P.to_lowercase t := by
  have hnonempty : ∀ text : String, (!text.isEmpty) = true ↔ text ≠ "" := by
    intro text
    rw [Bool.not_eq_true', ← Bool.not_eq_true, String.isEmpty_iff]
  unfold verifier_alpn
  constructor
  · intro h
    have hsorted := List.pairwise_insertionSort (fun a b : String => a ≤ b)
      ((texts.map (fun value => P.to_lowercase (trim value))).filter (fun value => !value.isEmpty))
    have hascending := dedup_ascending hsorted
    rw [h] at hascending
    refine ⟨hascending, ?_⟩
    -- nothing was dropped, so the trimmed texts are the texts in another order
    have hdedup := dedup_sublist (((texts.map (fun value => P.to_lowercase (trim value))).filter
      (fun value => !value.isEmpty)).insertionSort (fun a b => a ≤ b))
    have hfiltered := List.filter_sublist (p := fun value : String => !value.isEmpty)
      (l := texts.map (fun value => P.to_lowercase (trim value)))
    have hlength := hdedup.length_le
    rw [h, List.length_map, List.length_insertionSort] at hlength
    have hall := hfiltered.eq_of_length_le (by rw [List.length_map]; exact hlength)
    have hkept := hdedup.eq_of_length_le (by
      rw [h, List.length_map, List.length_insertionSort, hall, List.length_map])
    rw [hall] at hkept
    have hperm : (texts.map P.to_lowercase).Perm
        (texts.map (fun value => P.to_lowercase (trim value))) := by
      rw [← h, hall, hkept]
      exact List.perm_insertionSort _ _
    intro t ht
    constructor
    · have hmem := hperm.subset (List.mem_map_of_mem ht)
      rw [← hall] at hmem
      exact (hnonempty _).mp (List.mem_filter.mp hmem).2
    · -- a text that trimming shortens would make the other list shorter as a whole
      by_contra hshort
      have hlt : (trim (P.to_lowercase t)).toList.length < (P.to_lowercase t).toList.length :=
        lt_of_not_ge (fun hge => hshort (trim_eq_of_length hge))
      have hsum : (texts.map (fun t => (trim (P.to_lowercase t)).toList.length)).sum <
          (texts.map (fun t => (P.to_lowercase t).toList.length)).sum :=
        List.sum_lt_sum _ _ (fun text _ => (trim_sublist _).length_le) ⟨t, ht, hlt⟩
      have hlengths := (hperm.map (fun text : String => text.toList.length)).sum_eq
      rw [List.map_map, List.map_map] at hlengths
      simp only [Function.comp_def, laws.lower_trim] at hlengths
      omega
  · intro h
    obtain ⟨hascending, htexts⟩ := h
    have hmap : texts.map (fun value => P.to_lowercase (trim value)) =
        texts.map P.to_lowercase := by
      refine List.map_congr_left ?_
      intro t ht
      show P.to_lowercase (trim t) = P.to_lowercase t
      rw [laws.lower_trim, (htexts t ht).2]
    have hfilter : (texts.map P.to_lowercase).filter (fun value => !value.isEmpty) =
        texts.map P.to_lowercase := by
      refine List.filter_eq_self.mpr ?_
      intro text htext
      obtain ⟨t, ht, heq⟩ := List.mem_map.mp htext
      rw [← heq]
      exact (hnonempty _).mpr (htexts t ht).1
    rw [hmap, hfilter, (hascending.imp le_of_lt).insertionSort_eq, dedup_of_ascending hascending]

end Alpn

/-! ## §6. One key on both sides. -/

section Agreement

variable (P : Platform)

/-- `DnsEndpoint::normalized` of the server name. -/
def verifier_name (text : String) : Option String :=
  (some (P.normalize_name text)).filter (fun name => !name.isEmpty)

/-- A text field that both sides read, and parse alike under either trimming. -/
def TextAgrees (parse : String → Option String) (member : Option Json) : Prop :=
  Absent member ∨
    ∃ s, member = some (.string s) ∧ s ≠ "" ∧ parse (trim s) = parse (strip_text s)

/-- The dictionaries that have one key on both sides. -/
structure Agree (data : Json) : Prop where
  endpoint_id : Absent (data.get "endpoint_id") ∨ ∃ s, data.get "endpoint_id" = some (.string s)
  ip : TextAgrees P.parse_ip (data.get "ip")
  port : Absent (data.get "port") ∨ ∃ n : Nat, data.get "port" = some (.number n) ∧ n < 2 ^ 16
  transport : data.get "transport" = none ∨ ∃ t, data.get "transport" = some (.string t) ∧
    t ≠ "" ∧ P.to_lowercase (trim t) = P.to_lowercase t
  uri : TextAgrees P.canonical_url (data.get "uri")
  server_name : Absent (data.get "server_name") ∨ ∃ s, data.get "server_name" = some (.string s) ∧
    strip_text (trim_end_matches (trim s) '.') = trim_end_matches (trim s) '.'
  alpn : data.get "alpn" = none ∨ ∃ texts : List String,
    data.get "alpn" = some (.array (texts.map .string)) ∧
      (texts.map P.to_lowercase).Pairwise (· < ·) ∧
      ∀ t ∈ texts, P.to_lowercase t ≠ "" ∧ trim (P.to_lowercase t) = P.to_lowercase t

/-- The two texts that are hashed for the dictionary do not collide. -/
def NoKeyCollision (data : Json) (endpoint : ResolverEndpoint) : Prop :=
  ∀ again parsed normalized, endpoint.normalized P = .ok again →
    DnsEndpoint.from_value data = .ok parsed → P.normalized parsed = .ok normalized →
      P.sha256_hex (as_bytes "endpoint-v2:" ++ P.canonical_json_bytes normalized.key_value) =
          P.sha256_hex ( key_text again) →
        as_bytes "endpoint-v2:" ++ P.canonical_json_bytes normalized.key_value = key_text again

variable {P}

theorem convert_eq_ok {value out : Option String}
    {f : String → Except EvidenceValidationError String} :
    Platform.convert value f = .ok out ↔ (value = none ∧ out = none) ∨
      ∃ text converted, value = some text ∧ f text = .ok converted ∧ out = some converted := by
  cases value with
  | none => simp [Platform.convert, @eq_comm _ out]
  | some text => simp [Platform.convert, bind_eq_ok, @eq_comm _ out]

/-- A normalized endpoint, from what its address and URI were printed back as. -/
def verified (P : Platform) (parsed : DnsEndpoint) (ip uri : Option String) : DnsEndpoint where
  endpoint_id := parsed.endpoint_id
  ip := ip
  port := some (parsed.port.getD (Platform.default_port (P.to_lowercase (trim parsed.transport))))
  transport := P.to_lowercase (trim parsed.transport)
  uri := uri
  server_name := parsed.server_name.bind (verifier_name P)
  alpn := verifier_alpn P parsed.alpn

/-- What the verifier hashes for it. -/
def verified_binding (P : Platform) (parsed : DnsEndpoint) (ip uri : Option String) : Binding where
  ip := ip
  port := (parsed.port.getD (Platform.default_port (P.to_lowercase (trim parsed.transport))) : Nat)
  transport := P.to_lowercase (trim parsed.transport)
  uri := uri
  server_name := parsed.server_name.bind (verifier_name P)
  alpn := verifier_alpn P parsed.alpn

theorem verified_key_value {parsed : DnsEndpoint} {ip uri : Option String} :
    (verified P parsed ip uri).key_value = .object (verified_binding P parsed ip uri).members := rfl

theorem normalized_eq_ok {parsed normalized : DnsEndpoint} :
    P.normalized parsed = .ok normalized ↔ ∃ ip uri,
      Platform.convert parsed.ip (fun value => okOr (P.parse_ip (trim value))
        (.invalidEndpoint "invalid IP address")) = .ok ip ∧
      Platform.convert parsed.uri P.canonical_uri = .ok uri ∧
      (ip.isNone && (parsed.server_name.bind (verifier_name P)).isNone && uri.isNone) = false ∧
      verified P parsed ip uri = normalized := by
  have hname : (parsed.server_name.map P.normalize_name).filter (fun name => !name.isEmpty) =
      parsed.server_name.bind (verifier_name P) := by
    cases parsed.server_name <;> rfl
  unfold Platform.normalized
  simp only [bind_eq_ok, exists_unit, rejectIf_eq_ok, Except.ok.injEq, hname]
  constructor
  · intro h
    obtain ⟨ip, hip, uri, huri, hlocated, heq⟩ := h
    exact ⟨ip, uri, hip, huri, hlocated, heq⟩
  · intro h
    obtain ⟨ip, uri, hip, huri, hlocated, heq⟩ := h
    exact ⟨ip, hip, uri, huri, hlocated, heq⟩

/-- One table of ports, whichever way it is written. -/
theorem default_port_eq (transport : String) :
    default_port P transport = (Platform.default_port (P.to_lowercase transport) : Nat) := by
  unfold default_port Platform.default_port
  by_cases hdot : P.to_lowercase transport = "dot"
  · rw [hdot]; rfl
  · by_cases hdoh : P.to_lowercase transport = "doh"
    · rw [hdoh]; rfl
    · by_cases hdoq : P.to_lowercase transport = "doq"
      · rw [hdoq]; rfl
      · simp [hdot, hdoh, hdoq]

theorem dict_get_eq_null {data : Json} {key : String} :
    dict_get data key = .null ↔ Absent (data.get key) := by
  unfold dict_get Absent
  cases data.get key with
  | none => simp
  | some value => simp

theorem dict_get_eq {data : Json} {key : String} {value : Json} (h : data.get key = some value) :
    dict_get data key = value := by
  unfold dict_get
  rw [h]
  rfl

/-- On a text field that both sides read they have the same text exactly if it agrees. -/
theorem text_agrees_iff {parse : String → Option String} {e : EvidenceValidationError} {data : Json}
    {key : String} {member text : Option String}
    (hread : read_option read_string (data.get key) = .ok member)
    (hused : UsedText (fun s => parse (strip_text s)) (dict_get data key) text) :
    Platform.convert member (fun s => okOr (parse (trim s)) e) = .ok text ↔
      TextAgrees parse (data.get key) := by
  rw [convert_eq_ok]
  rcases read_option_eq_ok.mp hread with ⟨habsent, hnone⟩ | ⟨value, s, hvalue, _, hs, hsome⟩
  · -- both sides have nothing
    rw [hnone]
    have hnull := dict_get_eq_null.mpr habsent
    have htext : text = none := by
      rcases hused with ⟨_, htext⟩ | ⟨_, _, heq, _⟩
      · exact htext
      · rw [hnull] at heq
        cases heq
    constructor
    · intro _
      exact Or.inl habsent
    · intro _
      exact Or.inl ⟨rfl, htext⟩
  · rw [read_string_eq_ok.mp hs] at hvalue
    rw [dict_get_eq hvalue] at hused
    have hagrees : TextAgrees parse (data.get key) ↔ s ≠ "" ∧ parse (trim s) = parse (strip_text s) := by
      unfold TextAgrees Absent
      simp [hvalue]
    rw [hsome, hagrees]
    rcases hused with ⟨hfalsy, htext⟩ | ⟨s', converted, heq, hne, hconverted, htext⟩
    · -- an empty text is `None` to the publisher alone
      have hempty : s = "" := by
        by_contra hne
        rw [truthy_string.mpr hne] at hfalsy
        cases hfalsy
      rw [htext, hempty]
      simp
    · rw [← Json.string.inj heq] at hne hconverted
      have hconverted : parse (strip_text s) = some converted := hconverted
      rw [htext, hconverted]
      simp [hne]

theorem transport_agrees_iff (laws : TextLaws P) {data : Json} {read transport : String}
    (hread : read_default "udp" read_string (data.get "transport") = .ok read)
    (hused : (truthy (dict_get data "transport") = false ∧ transport = "udp") ∨
      ∃ t, dict_get data "transport" = .string t ∧ t ≠ "" ∧ transport = P.to_lowercase t) :
    P.to_lowercase (trim read) = transport ↔
      (data.get "transport" = none ∨ ∃ t, data.get "transport" = some (.string t) ∧
        t ≠ "" ∧ P.to_lowercase (trim t) = P.to_lowercase t) := by
  rcases read_default_eq_ok.mp hread with ⟨hnone, hudp⟩ | ⟨value, hvalue, ht⟩
  · -- the default of either side
    have htransport : transport = "udp" := by
      rcases hused with ⟨_, htransport⟩ | ⟨t, ht, _⟩
      · exact htransport
      · rw [dict_get_eq_null.mpr (Or.inl hnone)] at ht
        cases ht
    have htrim : trim "udp" = "udp" := by decide
    rw [hudp, htransport, htrim, laws.lower_udp]
    simp [hnone]
  · rw [read_string_eq_ok.mp ht] at hvalue
    rw [dict_get_eq hvalue] at hused
    rw [hvalue]
    rcases hused with ⟨hfalsy, htransport⟩ | ⟨t, heq, hne, htransport⟩
    · -- an empty text is the default of the publisher alone
      have hempty : read = "" := by
        by_contra hne
        rw [truthy_string.mpr hne] at hfalsy
        cases hfalsy
      have htrim : trim "" = "" := by decide
      rw [hempty, htransport, htrim, laws.lower_empty]
      simp
    · rw [← Json.string.inj heq] at hne htransport
      rw [htransport]
      simp [hne]

/-- The publisher's two passes over a name, as one. -/
theorem normalize_name_twice (laws : TextLaws P) (s : String) :
    normalize_name P (normalize_name P s) = P.to_lowercase (stripped (stripped s)) := by
  have hname : ∀ s, normalize_name P s = P.to_lowercase (stripped s) := fun _ => rfl
  rw [hname (normalize_name P s), hname s]
  unfold stripped
  rw [← laws.lower_strip, ← laws.lower_dots, laws.lower_lower]

/-- Both sides make the same of a name exactly if Python strips nothing more off the text that
the verifier lower-cases. -/
theorem same_name_iff (laws : TextLaws P) (s : String) :
    published_name P s = verifier_name P s ↔ strip_text (undotted s) = undotted s := by
  have hverifier : P.normalize_name s = P.to_lowercase (undotted s) := rfl
  have hfirst : normalize_name P s = P.to_lowercase (stripped s) := rfl
  unfold published_name verifier_name
  rw [normalize_name_twice laws, hfirst, hverifier]
  constructor
  · intro h
    apply laws.strip_of_lower
    by_cases hempty : P.to_lowercase (undotted s) = ""
    · rw [hempty]
      decide
    · -- the name is there for the verifier, so for the publisher
      have hsome : (some (P.to_lowercase (undotted s))).filter (fun name => !name.isEmpty) =
          some (P.to_lowercase (undotted s)) := by
        rw [Option.filter_some, if_pos]
        simpa using hempty
      rw [hsome] at h
      split at h
      · cases h
      · split at h
        · cases h
        · -- lower case and the trimming commute
          have hlower : ∀ text, P.to_lowercase (undotted text) = undotted (P.to_lowercase text) := by
            intro text
            unfold undotted
            rw [laws.lower_dots, laws.lower_trim]
          have hstripped : ∀ text, P.to_lowercase (stripped text) = stripped (P.to_lowercase text) := by
            intro text
            unfold stripped
            rw [laws.lower_dots, laws.lower_strip]
          have hsame := Option.some.inj h
          rw [hstripped, hstripped, hlower] at hsame
          rw [hlower]
          exact (stripped_twice_iff _).mp hsame
  · intro h
    rw [(stripped_twice_iff s).mpr h, stripped_of_undotted h]
    -- an empty name is absent for both
    by_cases hnone : s = ""
    · have hundotted : undotted "" = "" := by decide
      rw [if_pos hnone, hnone, hundotted, laws.lower_empty]
      rfl
    · rw [if_neg hnone]
      by_cases hempty : P.to_lowercase (undotted s) = ""
      · rw [if_pos hempty, hempty]
        rfl
      · rw [if_neg hempty, Option.filter_some, if_pos]
        simpa using hempty

theorem name_agrees_iff (laws : TextLaws P) {data : Json} {read text : Option String}
    (hread : read_option read_string (data.get "server_name") = .ok read)
    (hused : (truthy (dict_get data "server_name") = false ∧ text = none) ∨
      ∃ s, dict_get data "server_name" = .string s ∧ text = published_name P s) :
    read.bind (verifier_name P) = text ↔
      (Absent (data.get "server_name") ∨ ∃ s, data.get "server_name" = some (.string s) ∧
        strip_text (trim_end_matches (trim s) '.') = trim_end_matches (trim s) '.') := by
  rcases read_option_eq_ok.mp hread with ⟨habsent, hnone⟩ | ⟨value, s, hvalue, _, hs, hsome⟩
  · have htext : text = none := by
      rcases hused with ⟨_, htext⟩ | ⟨s, hs, _⟩
      · exact htext
      · rw [dict_get_eq_null.mpr habsent] at hs
        cases hs
    rw [hnone, htext]
    simp [habsent]
  · rw [read_string_eq_ok.mp hs] at hvalue
    rw [dict_get_eq hvalue] at hused
    have htext : text = published_name P s := by
      rcases hused with ⟨hfalsy, htext⟩ | ⟨s', heq, htext⟩
      · have hempty : s = "" := by
          by_contra hne
          rw [truthy_string.mpr hne] at hfalsy
          cases hfalsy
        rw [htext, hempty]
        rfl
      · rw [htext, Json.string.inj heq]
    have hsame := same_name_iff laws s
    unfold undotted at hsame
    rw [hsome, htext, hvalue, Option.bind_some, eq_comm, hsame]
    unfold Absent
    simp

theorem alpn_agrees_iff (laws : TextLaws P) {data : Json} {read alpn : List String}
    (hread : read_default [] ( read_list read_string) (data.get "alpn") = .ok read)
    (hused : ∃ texts : List String, alpn_of (dict_get data "alpn") = .ok (texts.map .string) ∧
      alpn = texts.map P.to_lowercase) :
    verifier_alpn P read = alpn ↔
      (data.get "alpn" = none ∨ ∃ texts : List String,
        data.get "alpn" = some (.array (texts.map .string)) ∧
          (texts.map P.to_lowercase).Pairwise (· < ·) ∧
          ∀ t ∈ texts, P.to_lowercase t ≠ "" ∧ trim (P.to_lowercase t) = P.to_lowercase t) := by
  obtain ⟨texts, halpn, hlower⟩ := hused
  have hstrings : Function.Injective (List.map Json.string) :=
    List.map_injective_iff.mpr (fun _ _ heq => Json.string.inj heq)
  rcases read_default_eq_ok.mp hread with ⟨hnone, hempty⟩ | ⟨value, hvalue, hread⟩
  · rw [dict_get_eq_null.mpr (Or.inl hnone)] at halpn
    have htexts : texts = [] := List.map_eq_nil_iff.mp (Except.ok.inj halpn).symm
    rw [hempty, hlower, htexts]
    simp [hnone, verifier_alpn, dedup]
  · rw [read_strings_eq_ok.mp hread] at hvalue
    rw [dict_get_eq hvalue] at halpn
    have hlist : alpn_of (.array (read.map .string)) = .ok (read.map .string) := by
      cases read <;> rfl
    rw [hlist] at halpn
    have htexts : texts = read := (hstrings (Except.ok.inj halpn)).symm
    rw [hlower, htexts, verifier_alpn_eq_iff laws, hvalue]
    constructor
    · intro h
      exact Or.inr ⟨read, rfl, h⟩
    · intro h
      rcases h with hnone | ⟨texts', heq, h⟩
      · cases hnone
      · rw [hstrings (Json.array.inj (Option.some.inj heq))]
        exact h

/-- A port both sides read is one port, under one transport. -/
theorem port_agrees (laws : TextLaws P) {data : Json} {read : Option Nat} {port : Int}
    {transport text : String}
    (hread : read_option ( read_unsigned 16) (data.get "port") = .ok read)
    (hused : (dict_get data "port" = .null ∧ port = default_port P transport) ∨
      (dict_get data "port" ≠ .null ∧ int_of (dict_get data "port") = .ok port))
    (htransport : P.to_lowercase (trim text) = transport) :
    ((read.getD (Platform.default_port (P.to_lowercase (trim text))) : Nat) : Int) = port := by
  rcases read_option_eq_ok.mp hread with ⟨habsent, hnone⟩ | ⟨value, n, hvalue, hnull, hn, hsome⟩
  · rcases hused with ⟨_, hport⟩ | ⟨hne, _⟩
    · rw [hnone, hport, default_port_eq, ← htransport, laws.lower_lower]
      rfl
    · exact absurd (dict_get_eq_null.mpr habsent) hne
  · rw [dict_get_eq hvalue, (read_unsigned_eq_ok.mp hn).1] at hused
    rcases hused with ⟨heq, _⟩ | ⟨_, hport⟩
    · cases heq
    · rw [hsome, ← Except.ok.inj hport]
      rfl

/-- A text or nothing is read. -/
theorem readable_text {member : Option Json} {q : String → Prop}
    (h : Absent member ∨ ∃ s, member = some (.string s) ∧ q s) :
    ∃ read, read_option read_string member = .ok read := by
  rcases h with habsent | ⟨s, hs, _⟩
  · exact ⟨none, read_option_eq_ok.mpr (Or.inl ⟨habsent, rfl⟩)⟩
  · exact ⟨some s, read_option_eq_ok.mpr (Or.inr ⟨.string s, s, hs, nofun, rfl, rfl⟩)⟩

/-- The verifier reads every dictionary both sides agree on. -/
theorem Agree.readable {fields : List (String × Json)} (h : Agree P (.object fields)) :
    ∃ parsed, DnsEndpoint.from_value (.object fields) = .ok parsed := by
  obtain ⟨endpoint_id, hid⟩ := readable_text (q := fun _ => True)
    (h.endpoint_id.imp_right (fun ⟨s, hs⟩ => ⟨s, hs, trivial⟩))
  obtain ⟨ip, hip⟩ := readable_text h.ip
  obtain ⟨uri, huri⟩ := readable_text h.uri
  obtain ⟨server_name, hname⟩ := readable_text h.server_name
  have hport : ∃ port, read_option ( read_unsigned 16) ((Json.object fields).get "port") =
      .ok port := by
    rcases h.port with habsent | ⟨n, hn, hrange⟩
    · exact ⟨none, read_option_eq_ok.mpr (Or.inl ⟨habsent, rfl⟩)⟩
    · exact ⟨some n, read_option_eq_ok.mpr (Or.inr ⟨.number n, n, hn, nofun,
        read_unsigned_eq_ok.mpr ⟨rfl, hrange⟩, rfl⟩)⟩
  have htransport : ∃ transport, read_default "udp" read_string
      ((Json.object fields).get "transport") = .ok transport := by
    rcases h.transport with hnone | ⟨t, ht, _⟩
    · exact ⟨"udp", read_default_eq_ok.mpr (Or.inl ⟨hnone, rfl⟩)⟩
    · exact ⟨t, read_default_eq_ok.mpr (Or.inr ⟨_, ht, rfl⟩)⟩
  have halpn : ∃ alpn, read_default [] ( read_list read_string)
      ((Json.object fields).get "alpn") = .ok alpn := by
    rcases h.alpn with hnone | ⟨texts, htexts, _⟩
    · exact ⟨[], read_default_eq_ok.mpr (Or.inl ⟨hnone, rfl⟩)⟩
    · exact ⟨texts, read_default_eq_ok.mpr (Or.inr ⟨_, htexts, read_strings_eq_ok.mpr rfl⟩)⟩
  obtain ⟨port, hport⟩ := hport
  obtain ⟨transport, htransport⟩ := htransport
  obtain ⟨alpn, halpn⟩ := halpn
  exact ⟨⟨endpoint_id, ip, port, transport, uri, server_name, alpn⟩,
    DnsEndpoint.from_value_eq_ok.mpr ⟨hid, hip, hport, htransport, huri, hname, halpn⟩⟩

/-- The verifier's key of an endpoint that was read. -/
theorem registry_key_iff (hvec : P.to_vec = to_vec) {data : Json} {endpoint again : ResolverEndpoint}
    {b : Binding} (hagain : endpoint.normalized P = .ok again)
    (hbinding : again.binding = .object b.members) (hcollision : NoKeyCollision P data endpoint)
    {parsed : DnsEndpoint} (hparsed : DnsEndpoint.from_value data = .ok parsed) :
    P.registry_key parsed = .ok (P.sha256_hex ( key_text again)) ↔
      Platform.convert parsed.ip (fun value => okOr (P.parse_ip (trim value))
          (.invalidEndpoint "invalid IP address")) = .ok b.ip ∧
        Platform.convert parsed.uri P.canonical_uri = .ok b.uri ∧
        (b.ip.isNone && (parsed.server_name.bind (verifier_name P)).isNone && b.uri.isNone) = false ∧
        verified_binding P parsed b.ip b.uri = b := by
  have htext : ∀ normalized : DnsEndpoint, P.canonical_json_bytes normalized.key_value =
      canonical_json_bytes normalized.key_value := by
    intro normalized
    rw [canonical_json_bytes_eq]
    unfold Platform.canonical_json_bytes
    rw [hvec]
  unfold Platform.registry_key
  simp only [bind_eq_ok, Except.ok.injEq]
  constructor
  · intro h
    obtain ⟨normalized, hnormalized, hkey⟩ := h
    have hbytes := hcollision again parsed normalized hagain hparsed hnormalized hkey
    rw [htext] at hbytes
    unfold key_text at hbytes
    have hcanonical := List.append_cancel_left hbytes
    obtain ⟨ip, uri, hip, huri, hlocated, heq⟩ := normalized_eq_ok.mp hnormalized
    rw [← heq, verified_key_value, hbinding, canonical_json_bytes_eq, canonical_json_bytes_eq]
      at hcanonical
    have hb := Binding.eq_of_strip_eq (to_vec_injective hcanonical)
    rw [← hb]
    exact ⟨hip, huri, hlocated, rfl⟩
  · intro h
    obtain ⟨hip, huri, hlocated, hb⟩ := h
    refine ⟨_, normalized_eq_ok.mpr ⟨_, _, hip, huri, hlocated, rfl⟩, ?_⟩
    unfold key_text
    rw [htext, verified_key_value, hb, hbinding]

/-- One key on both sides, and exactly when. -/
theorem endpoint_keys_agree_iff (laws : TextLaws P) (hvec : P.to_vec = to_vec) {data : Json}
    {endpoint : ResolverEndpoint} {key : String} (hread : from_dict P data = .ok endpoint)
    (hkey : endpoint_lookup_key P endpoint = .ok key)
    (hcollision : NoKeyCollision P data endpoint) :
    (∃ parsed, DnsEndpoint.from_value data = .ok parsed ∧ P.registry_key parsed = .ok key) ↔
      Agree P data := by
  obtain ⟨again, b, hagain, hbinding, hpublished, hkey_eq⟩ := published_of_key laws hread hkey
  rw [hkey_eq]
  -- both readers refuse anything but an object
  have hfields : ∃ fields, data = .object fields := by
    cases data with
    | object fields => exact ⟨fields, rfl⟩
    | _ => cases hread
  obtain ⟨fields, hdata⟩ := hfields
  constructor
  · intro h
    obtain ⟨parsed, hparsed, hregistry⟩ := h
    obtain ⟨hip, huri, _, hb⟩ :=
      (registry_key_iff hvec hagain hbinding hcollision hparsed).mp hregistry
    rw [hdata] at hparsed
    have hfrom := DnsEndpoint.from_value_eq_ok.mp hparsed
    rw [← hdata] at hfrom
    refine ⟨?_, ?_, ?_, ?_, ?_, ?_, ?_⟩
    · rcases read_option_eq_ok.mp hfrom.endpoint_id with ⟨habsent, _⟩ | ⟨value, s, hvalue, _, hs, _⟩
      · exact Or.inl habsent
      · exact Or.inr ⟨s, by rw [hvalue, read_string_eq_ok.mp hs]⟩
    · exact (text_agrees_iff hfrom.ip hpublished.ip).mp hip
    · rcases read_option_eq_ok.mp hfrom.port with ⟨habsent, _⟩ | ⟨value, n, hvalue, _, hn, _⟩
      · exact Or.inl habsent
      · exact Or.inr ⟨n, by rw [hvalue, (read_unsigned_eq_ok.mp hn).1], (read_unsigned_eq_ok.mp hn).2⟩
    · exact (transport_agrees_iff laws hfrom.transport hpublished.transport).mp
        (congrArg Binding.transport hb)
    · exact (text_agrees_iff hfrom.uri hpublished.uri).mp huri
    · exact (name_agrees_iff laws hfrom.server_name hpublished.server_name).mp
        (congrArg Binding.server_name hb)
    · exact (alpn_agrees_iff laws hfrom.alpn hpublished.alpn).mp (congrArg Binding.alpn hb)
  · intro h
    rw [hdata] at h
    obtain ⟨parsed, hparsed⟩ := h.readable
    have hfrom := DnsEndpoint.from_value_eq_ok.mp hparsed
    rw [← hdata] at h hparsed hfrom
    refine ⟨parsed, hparsed, (registry_key_iff hvec hagain hbinding hcollision hparsed).mpr ?_⟩
    have htransport := (transport_agrees_iff laws hfrom.transport hpublished.transport).mpr
      h.transport
    have hname := (name_agrees_iff laws hfrom.server_name hpublished.server_name).mpr h.server_name
    have halpn := (alpn_agrees_iff laws hfrom.alpn hpublished.alpn).mpr h.alpn
    have hport := port_agrees laws hfrom.port hpublished.port htransport
    refine ⟨(text_agrees_iff hfrom.ip hpublished.ip).mpr h.ip,
      (text_agrees_iff hfrom.uri hpublished.uri).mpr h.uri, ?_, ?_⟩
    · -- one of the three fields is there for the publisher
      rw [hname]
      rcases hpublished.located with hip | hsome | huri
      · obtain ⟨ip, hip⟩ := Option.isSome_iff_exists.mp hip
        rw [hip]
        rfl
      · cases hcase : b.server_name with
        | none =>
          rw [hcase] at hsome
          exact absurd rfl hsome
        | some _ => rw [Option.isNone_some, Bool.and_false, Bool.false_and]
      · obtain ⟨uri, huri⟩ := Option.isSome_iff_exists.mp huri
        rw [huri, Option.isNone_some, Bool.and_false]
    · unfold verified_binding
      rw [hport, htransport, hname, halpn]

end Agreement

/-! ## §7. Recorded keys. -/

/-- The recorded digests of two endpoints. -/
def endpoint_recording : Recording where
  digests := [
    ("endpoint-v2:\x7b\"ip\":\"192.0.2.53\",\"port\":53,\"transport\":\"udp\"\x7d",
      "0xcb7daa6caa511c0b600e4ec264a6802117080c1612b8dcb723d7a1225a498b3b"),
    ("endpoint-v2:\x7b\"alpn\":[\"h3\",\"h2\"],\"ip\":\"192.0.2.53\",\"port\":443,\"transport\":\"doh\"\x7d",
      "0x28b2b0828e79a9971b2681eccdcaaf1d21ee5465fc78110c4cca21a415b28294"),
    ("endpoint-v2:\x7b\"alpn\":[\"h2\",\"h3\"],\"ip\":\"192.0.2.53\",\"port\":443,\"transport\":\"doh\"\x7d",
      "0x96b08ad4c6d692cb3564589f09c557908791319e7361150473ced5cf42fc467d")]
  keys := []
  signatures := []

/-- Those digests, and the one address that parses. -/
def endpoint_platform : Platform :=
  { endpoint_recording.platform with
    to_lowercase := fun text => String.ofList (text.toList.map Char.toLower)
    parse_ip := fun text => if text = "192.0.2.53" then some text else none
    canonical_url := fun _ => none }

/-- The protocols of an HTTPS resolver, the preferred one first. -/
def doh_endpoint : Json := .object [("ip", .string "192.0.2.53"), ("transport", .string "doh"),
  ("alpn", .array [.string "h3", .string "h2"])]

/-- The publisher binds the list as it is, the verifier looks for the sorted one. -/
theorem doh_keys_differ : ∃ endpoint key, from_dict endpoint_platform doh_endpoint = .ok endpoint ∧
    endpoint_lookup_key endpoint_platform endpoint = .ok key ∧
    ¬ ∃ parsed, DnsEndpoint.from_value doh_endpoint = .ok parsed ∧
      endpoint_platform.registry_key parsed = .ok key := by
  have hpublisher : (from_dict endpoint_platform doh_endpoint >>=
      endpoint_lookup_key endpoint_platform) =
        .ok "0x28b2b0828e79a9971b2681eccdcaaf1d21ee5465fc78110c4cca21a415b28294" := by
    decide +kernel
  obtain ⟨endpoint, hread, hkey⟩ := bind_eq_ok.mp hpublisher
  refine ⟨endpoint, _, hread, hkey, ?_⟩
  intro h
  obtain ⟨parsed, hparsed, hregistry⟩ := h
  have hverifier : (DnsEndpoint.from_value doh_endpoint >>= fun parsed =>
      (endpoint_platform.registry_key parsed).mapError EvidenceValidationError.text) =
        .ok "0x96b08ad4c6d692cb3564589f09c557908791319e7361150473ced5cf42fc467d" := by
    decide +kernel
  rw [hparsed, ok_bind, hregistry] at hverifier
  exact absurd (Except.ok.inj hverifier) (by decide)

theorem toLower_of_upper {c : Char} (h : 65 ≤ c.toNat ∧ c.toNat ≤ 90) :
    c.toLower.toLower = c.toLower ∧ is_whitespace c.toLower = is_whitespace c ∧
      is_space c.toLower = is_space c ∧ (c.toLower = '.' ↔ c = '.') := by
  have hall : ∀ n ≤ 90, 65 ≤ n → (Char.ofNat n).toLower.toLower = (Char.ofNat n).toLower ∧
      is_whitespace (Char.ofNat n).toLower = is_whitespace (Char.ofNat n) ∧
      is_space (Char.ofNat n).toLower = is_space (Char.ofNat n) ∧
      ((Char.ofNat n).toLower = '.' ↔ Char.ofNat n = '.') := by decide
  have hc := hall c.toNat h.2 h.1
  rwa [Char.ofNat_toNat] at hc

theorem toLower_of_other {c : Char} (h : ¬ (65 ≤ c.toNat ∧ c.toNat ≤ 90)) : c.toLower = c := by
  unfold Char.toLower
  rw [dif_neg]
  intro hupper
  exact h hupper

/-- What the recorded lower-casing does to each character. -/
theorem recorded_lower (c : Char) : c.toLower.toLower = c.toLower ∧
    is_whitespace c.toLower = is_whitespace c ∧ is_space c.toLower = is_space c ∧
      (c.toLower = '.' ↔ c = '.') := by
  by_cases h : 65 ≤ c.toNat ∧ c.toNat ≤ 90
  · exact toLower_of_upper h
  · rw [toLower_of_other h]
    exact ⟨toLower_of_other h, rfl, rfl, Iff.rfl⟩

theorem recorded_lower_toList (text : String) :
    (endpoint_platform.to_lowercase text).toList = text.toList.map Char.toLower :=
  String.toList_ofList

section Recorded

variable {p : Char → Bool} (hp : ∀ c : Char, p c.toLower = p c)

include hp

theorem rdropWhile_lower (chars : List Char) :
    (chars.map Char.toLower).rdropWhile p = (chars.rdropWhile p).map Char.toLower := by
  unfold List.rdropWhile
  rw [← List.map_reverse, List.dropWhile_map, show p ∘ Char.toLower = p from funext hp,
    List.map_reverse]

theorem trimmed_lower (chars : List Char) :
    trimmed p (chars.map Char.toLower) = (trimmed p chars).map Char.toLower := by
  unfold trimmed
  rw [List.dropWhile_map, show p ∘ Char.toLower = p from funext hp, rdropWhile_lower hp]

end Recorded

theorem recorded_lower_strip (text : String) : endpoint_platform.to_lowercase (strip_text text) =
    strip_text (endpoint_platform.to_lowercase text) := by
  rw [← String.toList_inj, recorded_lower_toList, strip_text_eq, String.toList_ofList, strip_text_eq,
    String.toList_ofList, recorded_lower_toList, trimmed_lower (fun c => (recorded_lower c).2.2.1)]

theorem recorded_laws : TextLaws endpoint_platform where
  lower_lower := by
    intro text
    rw [← String.toList_inj, recorded_lower_toList, recorded_lower_toList, List.map_map]
    exact List.map_congr_left (fun c _ => (recorded_lower c).1)
  lower_trim := by
    intro text
    rw [← String.toList_inj, recorded_lower_toList, trim_eq, String.toList_ofList, trim_eq,
      String.toList_ofList, recorded_lower_toList, trimmed_lower (fun c => (recorded_lower c).2.1)]
  lower_strip := recorded_lower_strip
  lower_dots := by
    intro text
    rw [← String.toList_inj, recorded_lower_toList, trim_end_matches_eq, trim_end_matches_eq,
      String.toList_ofList, String.toList_ofList, recorded_lower_toList, rdropWhile_lower]
    exact fun c => decide_eq_decide.mpr (recorded_lower c).2.2.2
  strip_of_lower := by
    intro text h
    apply strip_text_eq_of_length
    have hlength := congrArg (fun text => text.toList.length) h
    simp only [← recorded_lower_strip, recorded_lower_toList, List.length_map] at hlength
    exact hlength.ge
  lower_empty := by decide
  lower_udp := by decide
  ip_again := by
    intro text address h
    have haddress : address = "192.0.2.53" := by
      by_cases heq : text = "192.0.2.53"
      · have h : some text = some address := by
          simpa [endpoint_platform, heq] using h
        rw [← Option.some.inj h, heq]
      · simp [endpoint_platform, heq] at h
    rw [haddress]
    decide
  url_again := by
    intro text url h
    cases h

/-- The endpoint whose key both test suites hold. -/
theorem udp_keys_agree : ∃ parsed,
    DnsEndpoint.from_value (.object [("ip", .string "192.0.2.53")]) = .ok parsed ∧
      endpoint_platform.registry_key parsed =
        .ok "0xcb7daa6caa511c0b600e4ec264a6802117080c1612b8dcb723d7a1225a498b3b" := by
  have hread : from_dict endpoint_platform (.object [("ip", .string "192.0.2.53")]) =
      .ok ⟨.null, .string "192.0.2.53", .number 53, "udp", .null, .null, []⟩ := by
    rfl
  have hkey : endpoint_lookup_key endpoint_platform
      ⟨.null, .string "192.0.2.53", .number 53, "udp", .null, .null, []⟩ =
        .ok "0xcb7daa6caa511c0b600e4ec264a6802117080c1612b8dcb723d7a1225a498b3b" := by
    decide +kernel
  refine (endpoint_keys_agree_iff recorded_laws rfl hread hkey ?_).mpr ?_
  · intro again parsed normalized hagain hparsed hnormalized _
    have hagain' : ResolverEndpoint.normalized endpoint_platform
        ⟨.null, .string "192.0.2.53", .number 53, "udp", .null, .null, []⟩ =
          .ok ⟨.null, .string "192.0.2.53", .number 53, "udp", .null, .null, []⟩ := rfl
    have hparsed' : DnsEndpoint.from_value (.object [("ip", .string "192.0.2.53")]) =
        .ok ⟨none, some "192.0.2.53", none, "udp", none, none, []⟩ := rfl
    have hnormalized' : endpoint_platform.normalized
        ⟨none, some "192.0.2.53", none, "udp", none, none, []⟩ =
          .ok ⟨none, some "192.0.2.53", some 53, "udp", none, none, []⟩ := rfl
    rw [← Except.ok.inj (hagain'.symm.trans hagain)]
    rw [← Except.ok.inj (hparsed'.symm.trans hparsed)] at hnormalized
    rw [← Except.ok.inj (hnormalized'.symm.trans hnormalized)]
    decide +kernel
  · refine ⟨Or.inl (Or.inl rfl), Or.inr ⟨"192.0.2.53", rfl, by decide, by decide⟩,
      Or.inl (Or.inl rfl), Or.inl rfl, Or.inl (Or.inl rfl), Or.inl (Or.inl rfl), Or.inl rfl⟩

end ResolverIdentity.Publisher
