/-
  ResolverIdentity.Core.DnsWire: digests of DNS messages.

  The DNS half of `ri-core/src/crypto.rs`.  A message is its bytes; the offsets
  stay within it, so that the checked additions of the source never overflow.

  Main results:
    * `dns_correlation_id_eq_ok`: every message with a transaction id has one;
    * `dns_cache_object_digest_eq_ok`: a cache object digest is a SHA-256 digest.
-/
import ResolverIdentity.Core.Crypto

namespace ResolverIdentity

open Library

/-! ## §1. Bytes. -/

/-- The byte at an offset the caller has checked. -/
def byte_at (message : List UInt8) (offset : Nat) : UInt8 := message.getD offset 0

/-- `u16::from_be_bytes` of two neighbouring bytes. -/
def u16_at (message : List UInt8) (offset : Nat) : Nat :=
  (byte_at message offset).toNat * 256 + (byte_at message (offset + 1)).toNat

/-- `u32::from_be_bytes` of four neighbouring bytes. -/
def u32_at (message : List UInt8) (offset : Nat) : Nat :=
  u16_at message offset * 65536 + u16_at message (offset + 2)

/-- `normalized[start..start + 4].fill(0)` -/
def zero_four (normalized : List UInt8) (start : Nat) : List UInt8 :=
  normalized.mapIdx (fun i byte => if start ≤ i && i < start + 4 then 0 else byte)

/-- The message with its transaction id cleared. -/
def without_transaction_id : List UInt8 → List UInt8
  | _ :: _ :: rest => 0 :: 0 :: rest
  | short => short

/-- `{:02x}` -/
def hex_byte (byte : UInt8) : String :=
  String.ofList [Nat.digitChar (byte.toNat / 16), Nat.digitChar (byte.toNat % 16)]

theorem byte_at_of_getElem? {message : List UInt8} {i : Nat} {byte : UInt8}
    (h : message[i]? = some byte) : byte_at message i = byte := by
  unfold byte_at
  rw [List.getD_eq_getElem?_getD, h]
  rfl

theorem byte_at_congr {message other : List UInt8} {i : Nat} (h : message[i]? = other[i]?) :
    byte_at message i = byte_at other i := by
  unfold byte_at
  rw [List.getD_eq_getElem?_getD, List.getD_eq_getElem?_getD, h]

theorem u16_at_congr {message other : List UInt8} {i : Nat} (h : message[i]? = other[i]?)
    (hnext : message[i + 1]? = other[i + 1]?) : u16_at message i = u16_at other i := by
  unfold u16_at
  rw [byte_at_congr h, byte_at_congr hnext]

/-! ## §2. Names. -/

/-- The loop of `skip_dns_name`; the first argument counts the labels it may still read. -/
def skip_dns_labels (message : List UInt8) : Nat → Nat → Except EvidenceValidationError Nat
  | 0, _ => .error (.invalidGraph "DNS name has too many labels")
  | labels + 1, offset => do
    let length ← okOr message[offset]? (.invalidGraph "DNS name exceeds message boundary")
    if length = 0 then .ok (offset + 1)
    else if length &&& 0xc0 = 0xc0 then do
      rejectIf (message.length ≤ offset + 1)
        (.invalidGraph "DNS compression pointer is truncated")
      let pointer := (length &&& 0x3f).toNat * 256 + (byte_at message (offset + 1)).toNat
      rejectIf (message.length ≤ pointer)
        (.invalidGraph "DNS compression pointer exceeds message boundary")
      .ok (offset + 2)
    else do
      rejectIf (length &&& 0xc0 != 0 || 63 < length)
        (.invalidGraph "DNS name contains an invalid label")
      let offset := offset + (1 + length.toNat)
      rejectIf (message.length < offset) (.invalidGraph "DNS label exceeds message boundary")
      skip_dns_labels message labels offset

/-- The offset behind a name of at most 128 labels. -/
def skip_dns_name (message : List UInt8) (offset : Nat) : Except EvidenceValidationError Nat :=
  skip_dns_labels message 128 offset

/-! ## §3. Digests. -/

namespace Platform

variable (P : Platform)

/-- The digest of a message under any transaction id. -/
def dns_wire_digest (message : List UInt8) : String :=
  P.sha256_hex (without_transaction_id message)

/-- The question loop of `dns_cache_object_digest`. -/
def skip_questions (message : List UInt8) : Nat → Nat → Except EvidenceValidationError Nat
  | 0, offset => .ok offset
  | questions + 1, offset => do
    let offset ← skip_dns_name message offset
    rejectIf (message.length < offset + 4)
      (.invalidGraph "DNS question exceeds message boundary")
    skip_questions message questions (offset + 4)

/-- The record loop: the TTL of every record but `OPT` is cleared. -/
def clear_ttls (message : List UInt8) :
    Nat → Nat → List UInt8 → Except EvidenceValidationError (List UInt8)
  | 0, _, normalized => .ok normalized
  | records + 1, offset, normalized => do
    let offset ← skip_dns_name message offset
    rejectIf (message.length < offset + 10)
      (.invalidGraph "DNS resource record header exceeds message boundary")
    let normalized :=
      if u16_at message offset != 41 then zero_four normalized (offset + 4) else normalized
    let offset := offset + 10 + u16_at message (offset + 8)
    rejectIf (message.length < offset)
      (.invalidGraph "DNS resource record exceeds message boundary")
    clear_ttls message records offset normalized

/-- The digest of a message without what changes from copy to copy. -/
def dns_cache_object_digest (message : List UInt8) : Except EvidenceValidationError String := do
  rejectIf (message.length < 12)
    (.invalidGraph "DNS message is too short for cache normalization")
  let record_count := u16_at message 6 + u16_at message 8 + u16_at message 10
  let offset ← skip_questions message (u16_at message 4) 12
  let normalized ← clear_ttls message record_count offset (without_transaction_id message)
  .ok (P.sha256_hex normalized)

/-- The text a correlation id is the digest of. -/
def dns_correlation_text (message : List UInt8) : String :=
  "dns-correlation-v2:" ++ hex_byte (byte_at message 0) ++ hex_byte (byte_at message 1) ++ ":" ++
    P.dns_wire_digest message

/-- What binds a message to its transaction id. -/
def dns_correlation_id (message : List UInt8) : Except EvidenceValidationError String := do
  rejectIf (message.length < 2) (.invalidGraph "DNS message is too short for correlation")
  .ok (P.sha256_hex (as_bytes (P.dns_correlation_text message)))

/-- Every message with a transaction id has a correlation id. -/
theorem dns_correlation_id_eq_ok {message : List UInt8} (h : 2 ≤ message.length) :
    P.dns_correlation_id message =
      .ok (P.sha256_hex (as_bytes (P.dns_correlation_text message))) := by
  unfold dns_correlation_id
  rw [show rejectIf (decide (message.length < 2)) _ = Except.ok () from
    rejectIf_eq_ok.mpr (decide_eq_false (by omega))]
  rfl

/-- A cache object digest is a SHA-256 digest. -/
theorem dns_cache_object_digest_eq_ok {message : List UInt8} {digest : String}
    (h : P.dns_cache_object_digest message = .ok digest) :
    ∃ normalized, digest = P.sha256_hex normalized := by
  unfold dns_cache_object_digest at h
  obtain ⟨_, _, h⟩ := bind_eq_ok.mp h
  obtain ⟨_, _, h⟩ := bind_eq_ok.mp h
  obtain ⟨normalized, _, h⟩ := bind_eq_ok.mp h
  exact ⟨normalized, (Except.ok.inj h).symm⟩

end Platform

end ResolverIdentity
