/-
  ResolverIdentity.Core.Endpoint: normalization and matching of DNS endpoints.

  `DnsEndpoint::normalized`, `matches` and `cache_key` of
  `ri-core/src/endpoint.rs`.
-/
import ResolverIdentity.Core.Crypto

namespace ResolverIdentity

open Library

/-! ## §1. Text helpers of the standard library. -/

/-- `char::is_whitespace`: the Unicode White_Space property. -/
def is_whitespace (c : Char) : Bool :=
  let n := c.toNat
  (9 ≤ n && n ≤ 13) || n = 0x20 || n = 0x85 || n = 0xA0 || n = 0x1680 ||
    (0x2000 ≤ n && n ≤ 0x200A) || n = 0x2028 || n = 0x2029 || n = 0x202F || n = 0x205F ||
    n = 0x3000

/-- `str::trim`. -/
def trim (text : String) : String :=
  String.ofList (((text.toList.dropWhile is_whitespace).reverse.dropWhile is_whitespace).reverse)

/-- `str::trim_end_matches` of one character. -/
def trim_end_matches (text : String) (c : Char) : String :=
  String.ofList ((text.toList.reverse.dropWhile (fun x => x = c)).reverse)

/-- `Vec::dedup`: drop each item equal to the one before it. -/
def dedup : List String → List String
  | [] => []
  | [item] => [item]
  | a :: b :: rest => if a = b then dedup (b :: rest) else a :: dedup (b :: rest)

namespace Platform

variable (P : Platform)

/-- Trimmed, without a final dot, in lower case. -/
def normalize_name (value : String) : String :=
  P.to_lowercase (trim_end_matches (trim value) '.')

/-- A URI as the parser prints it. -/
def canonical_uri (value : String) : Except EvidenceValidationError String :=
  okOr (P.canonical_url (trim value)) (.invalidEndpoint "invalid URI")

/-- The port of a transport. -/
def default_port (transport : String) : Nat :=
  if transport = "dot" || transport = "doq" then 853
  else if transport = "doh" then 443
  else 53

/-! ## §2. Normalization. -/

/-- A present field is converted, an absent one stays absent. -/
def convert (value : Option String) (f : String → Except EvidenceValidationError String) :
    Except EvidenceValidationError (Option String) :=
  match value with
  | none => .ok none
  | some text => do
    let converted ← f text
    .ok (some converted)

/-- The endpoint as two spellings of it agree on. -/
def normalized (endpoint : DnsEndpoint) : Except EvidenceValidationError DnsEndpoint := do
  let transport := P.to_lowercase (trim endpoint.transport)
  let ip ← convert endpoint.ip
    (fun value => okOr (P.parse_ip (trim value)) (.invalidEndpoint "invalid IP address"))
  let server_name := (endpoint.server_name.map P.normalize_name).filter (fun name => !name.isEmpty)
  let uri ← convert endpoint.uri P.canonical_uri
  rejectIf (ip.isNone && server_name.isNone && uri.isNone)
    (.invalidEndpoint "endpoint requires an IP, server name, or URI")
  let alpn := (endpoint.alpn.map (fun value => P.to_lowercase (trim value))).filter
    (fun value => !value.isEmpty)
  .ok { endpoint_id := endpoint.endpoint_id, ip
        port := some (endpoint.port.getD ( default_port transport))
        transport, uri, server_name
        alpn := dedup (alpn.insertionSort (fun a b => a ≤ b)) }

/-- Every bound field of the expected endpoint is observed. -/
def endpoint_matches (expected observed : DnsEndpoint) : Except EvidenceValidationError Bool := do
  let expected ← P.normalized expected
  let observed ← P.normalized observed
  .ok (!(expected.transport != observed.transport || expected.port != observed.port) &&
    !(expected.ip.isSome && expected.ip != observed.ip) &&
    !(expected.uri.isSome && expected.uri != observed.uri) &&
    !(expected.server_name.isSome && expected.server_name != observed.server_name) &&
    !(!expected.alpn.isEmpty && expected.alpn != observed.alpn))

/-- `matches(...).unwrap_or(false)`. -/
def matchesOr (expected observed : DnsEndpoint) : Bool :=
  match P.endpoint_matches expected observed with
  | .ok answer => answer
  | .error _ => false

/-- The text an endpoint is looked up by. -/
def cache_key (endpoint : DnsEndpoint) : Except EvidenceValidationError String := do
  let normalized ← P.normalized endpoint
  .ok (normalized.ip.getD "" ++ ":" ++ toString (normalized.port.getD 0) ++ ":" ++
    normalized.transport ++ ":" ++ normalized.server_name.getD "" ++ ":" ++
    normalized.uri.getD "" ++ ":" ++ String.intercalate "," normalized.alpn)

end Platform

end ResolverIdentity
