/-
  ResolverIdentity.Wrapper.Message: the DNS messages the wrapper lets through.

  `validate_query`, `valid_response` and `make_servfail` of
  `ri-wrapper/src/lib.rs`, over a parser that follows compressed names.

  Main results:
    * `with_transaction_id_digest`: a message keeps its digest under any other
      transaction id;
    * `valid_response_length`: what passes for a response has a whole header.
-/
import ResolverIdentity.Core.DnsWire
import ResolverIdentity.Store.Tables

namespace ResolverIdentity.Wrapper

open Library

/-! ## §1. Errors. -/

/-- Longer messages are refused. -/
def MAX_DNS_MESSAGE_SIZE : Nat := 65535

/-- More questions are refused. -/
def MAX_DNS_QUESTIONS : Nat := 16

/-- What the wrapper answers a query with instead of an answer. -/
inductive WrapperError where
  | malformedDns (text : String)
  | allUpstreamsFailed
  | upstreamIo (text : String)
  | upstreamTimeout
  | agentHttp (text : String)
  | agentStatus (status detail : String)
  | agentResponseTooLarge
  | agentResponseJson (text : String)
  | agentTimeout
  | graphBinding
  | evidence (error : EvidenceValidationError)
  | store (error : Store.StoreError)
  | registryMismatch (text : String)
  | blockingTask (text : String)
  | transactionIdsExhausted
  deriving DecidableEq

/-! ## §2. Names and questions. -/

/-- The one question of a query. -/
structure DnsQuestion where
  labels : List (List UInt8)
  query_type : Nat
  query_class : Nat
  deriving DecidableEq

/-- `u8::to_ascii_lowercase` -/
def to_ascii_lowercase (byte : UInt8) : UInt8 :=
  if 65 ≤ byte && byte ≤ 90 then byte + 32 else byte

/-- The loop of `parse_dns_name`: the name and where the message goes on.  `resume` is set
by the first pointer.  The first argument counts the turns left, and no name takes more:
a pointer is followed once, and 127 labels fill the wire length. -/
def parse_labels (message : List UInt8) :
    Nat → Nat → Option Nat → List Nat → List (List UInt8) → Nat → Option (List (List UInt8) × Nat)
  | 0, _, _, _, _, _ => none
  | turns + 1, cursor, resume, visited, labels, wire_length => do
    let length ← message[cursor]?
    if length &&& 0xc0 = 0xc0 then do
      let next ← message[cursor + 1]?
      let pointer := (length &&& 0x3f).toNat * 256 + next.toNat
      if message.length ≤ pointer || visited.contains pointer then none
      else
        parse_labels message turns pointer (some (resume.getD (cursor + 2))) (pointer :: visited)
          labels wire_length
    else if length &&& 0xc0 != 0 || 63 < length then none
    else if length = 0 then some (labels, resume.getD (cursor + 1))
    else
      let wire_length := wire_length + (length.toNat + 1)
      let finish := cursor + 1 + length.toNat
      if 255 < wire_length || message.length < finish then none
      else
        let label := (message.drop (cursor + 1)).take length.toNat
        parse_labels message turns finish resume visited
          (labels ++ [label.map to_ascii_lowercase]) wire_length

/-- The labels of a name, and the offset behind it. -/
def parse_dns_name (message : List UInt8) (offset : Nat) : Option (List (List UInt8) × Nat) :=
  parse_labels message (message.length + 128) offset none [] [] 1

/-- The question loop of `parse_questions`. -/
def parse_question_list (message : List UInt8) : Nat → Nat → Option (List DnsQuestion)
  | 0, _ => some []
  | questions + 1, offset => do
    let (labels, offset) ← parse_dns_name message offset
    if message.length < offset + 4 then none
    else do
      let rest ← parse_question_list message questions (offset + 4)
      some (⟨labels, u16_at message offset, u16_at message (offset + 2)⟩ :: rest)

/-- The questions of a message. -/
def parse_questions (message : List UInt8) : Option (List DnsQuestion) :=
  if message.length < 12 then none
  else
    let question_count := u16_at message 4
    if question_count = 0 || MAX_DNS_QUESTIONS < question_count then none
    else parse_question_list message question_count 12

/-! ## §3. Queries, responses, failures. -/

/-- What the wrapper takes from a client. -/
def validate_query (query : List UInt8) : Except WrapperError Unit := do
  rejectIf (query.length < 12) (.malformedDns "message is shorter than header")
  rejectIf (MAX_DNS_MESSAGE_SIZE < query.length) (.malformedDns "message exceeds DNS size limit")
  rejectIf (byte_at query 2 &&& 0x80 != 0)
    (.malformedDns "client message has the response bit set")
  let question_count := u16_at query 4
  rejectIf (question_count = 0) (.malformedDns "query has no question")
  rejectIf (MAX_DNS_QUESTIONS < question_count || (parse_questions query).isNone)
    (.malformedDns "query question section is invalid")

/-- `message[start..start + 2]` -/
def two_bytes (message : List UInt8) (start : Nat) : List UInt8 := (message.drop start).take 2

/-- The response is to the query. -/
def valid_response (query response : List UInt8) : Bool :=
  12 ≤ response.length &&
    response.length ≤ MAX_DNS_MESSAGE_SIZE &&
    two_bytes response 0 = two_bytes query 0 &&
    byte_at response 2 &&& 0x80 != 0 &&
    byte_at response 2 &&& 0x78 = byte_at query 2 &&& 0x78 &&
    two_bytes response 4 = two_bytes query 4 &&
    match parse_questions query, parse_questions response with
    | some expected, some actual => expected = actual
    | _, _ => false

/-- The query with the response bit and the code 2, and no record counted. -/
def make_servfail (query : List UInt8) : List UInt8 :=
  if query.length < 12 then []
  else query.mapIdx (fun i byte =>
    if i = 2 then 0x80 ||| (byte &&& 0x79)
    else if i = 3 then 0x80 ||| (byte &&& 0x10) ||| 0x02
    else if 6 ≤ i && i < 12 then 0
    else byte)

/-! ## §4. Transaction ids. -/

/-- `message[..2].copy_from_slice(id)`, on a message of two bytes or more. -/
def with_transaction_id (id message : List UInt8) : List UInt8 := id ++ message.drop 2

/-- `u16::to_be_bytes` -/
def to_be_bytes (id : UInt16) : List UInt8 := [(id >>> 8).toUInt8, id.toUInt8]

section Ids

variable {P : Platform} {id message query response : List UInt8}

/-- The digest of a message does not see its transaction id. -/
theorem with_transaction_id_digest (hid : id.length = 2) (hmessage : 2 ≤ message.length) :
    P.dns_wire_digest (with_transaction_id id message) = P.dns_wire_digest message := by
  obtain ⟨a, b, rfl⟩ := List.length_eq_two.mp hid
  match message, hmessage with
  | first :: second :: rest, _ => rfl

/-- A valid response has a header. -/
theorem valid_response_length (h : valid_response query response = true) :
    12 ≤ response.length := by
  unfold valid_response at h
  simp only [Bool.and_eq_true, decide_eq_true_eq] at h
  omega

/-- So has an accepted query. -/
theorem validate_query_length (h : validate_query query = .ok ()) : 12 ≤ query.length := by
  unfold validate_query at h
  obtain ⟨_, hlength, _⟩ := bind_eq_ok.mp h
  rw [rejectIf_eq_ok, decide_eq_false_iff_not] at hlength
  omega

end Ids

end ResolverIdentity.Wrapper
