/-
  ResolverIdentity.Core.CacheObject: what a cache object digest leaves out.

  The bytes `dns_cache_object_digest` of `ri-core/src/crypto.rs` clears are found by
  parsing the message they are cleared in.  The parse passes over them without reading
  them, so clearing them changes nothing that it finds.

  Main results:
    * `parse_records_congr`: messages that agree outside the cleared bytes parse alike;
    * `cleared_bytes_eq_iff`: the bytes that are hashed are one for variants of one object;
    * `dns_cache_object_digest_checked_eq`: no index of the walk is outside the message;
    * `cache_object_digest_eq_iff`: one digest, and exactly when.
-/
import ResolverIdentity.Core.DnsWire
import ResolverIdentity.Core.Recorded
import ResolverIdentity.Library.Slices

namespace ResolverIdentity

open Library

/-! ## §1. Records. -/

/-- Where the fixed part of each record begins, behind its name. -/
def record_headers (message : List UInt8) :
    Nat → Nat → Except EvidenceValidationError (List Nat)
  | 0, _ => .ok []
  | records + 1, offset => do
    let header ← skip_dns_name message offset
    rejectIf (message.length < header + 10)
      (.invalidGraph "DNS resource record header exceeds message boundary")
    let offset := header + 10 + u16_at message (header + 8)
    rejectIf (message.length < offset)
      (.invalidGraph "DNS resource record exceeds message boundary")
    let rest ← record_headers message records offset
    .ok (header :: rest)

/-- The records of a message, as its own counts and lengths delimit them. -/
def parse_records (message : List UInt8) : Except EvidenceValidationError (List Nat) := do
  rejectIf (message.length < 12)
    (.invalidGraph "DNS message is too short for cache normalization")
  let offset ← Platform.skip_questions message (u16_at message 4) 12
  record_headers message (u16_at message 6 + u16_at message 8 + u16_at message 10) offset

/-- The byte is in the TTL of a record that is no `OPT` record. -/
def InTtl (message : List UInt8) (headers : List Nat) (i : Nat) : Prop :=
  ∃ header ∈ headers, u16_at message header ≠ 41 ∧ header + 4 ≤ i ∧ i < header + 8

instance (message : List UInt8) (headers : List Nat) (i : Nat) :
    Decidable (InTtl message headers i) :=
  inferInstanceAs (Decidable (∃ header ∈ headers, _))

/-- The byte is in the transaction id or in such a TTL. -/
def Ignored (message : List UInt8) (headers : List Nat) (i : Nat) : Prop :=
  i < 2 ∨ InTtl message headers i

instance (message : List UInt8) (headers : List Nat) (i : Nat) :
    Decidable (Ignored message headers i) :=
  inferInstanceAs (Decidable (_ ∨ _))

/-- Both messages have one length and differ at most in bytes that the first one's parse
leaves to its transaction id and TTLs. -/
def SameObject (message : List UInt8) (headers : List Nat) (other : List UInt8) : Prop :=
  message.length = other.length ∧ ∀ i, ¬ Ignored message headers i → message[i]? = other[i]?

/-! ## §2. What the walk reads. -/

section Walk

variable {message other : List UInt8}

/-- A name ends behind its start, within the message. -/
theorem skip_dns_labels_bounds : ∀ {labels offset finish : Nat},
    skip_dns_labels message labels offset = .ok finish →
      offset < finish ∧ finish ≤ message.length := by
  intro labels
  induction labels with
  | zero => intro offset finish h; cases h
  | succ labels ih =>
    intro offset finish h
    unfold skip_dns_labels at h
    obtain ⟨length, hlength, h⟩ := bind_eq_ok.mp h
    have hinside := (List.getElem?_eq_some_iff.mp (okOr_eq_ok.mp hlength)).1
    split at h
    · have heq := Except.ok.inj h
      omega
    · split at h
      · simp only [bind_eq_ok, exists_unit, rejectIf_eq_ok, decide_eq_false_iff_not,
          Except.ok.injEq] at h
        omega
      · simp only [bind_eq_ok, exists_unit, rejectIf_eq_ok, decide_eq_false_iff_not] at h
        have hrest := ih h.2.2
        omega

/-- A name is read alike in messages that agree on its bytes. -/
theorem skip_dns_labels_congr (hlength : message.length = other.length) :
    ∀ {labels offset finish : Nat}, skip_dns_labels message labels offset = .ok finish →
      (∀ i, offset ≤ i → i < finish → message[i]? = other[i]?) →
        skip_dns_labels other labels offset = .ok finish := by
  intro labels
  induction labels with
  | zero => intro offset finish h; cases h
  | succ labels ih =>
    intro offset finish h hagree
    have hbounds := skip_dns_labels_bounds h
    have hfirst := hagree offset le_rfl hbounds.1
    unfold skip_dns_labels at h ⊢
    obtain ⟨length, hread, h⟩ := bind_eq_ok.mp h
    rw [hfirst] at hread
    rw [hread, ok_bind]
    split at h
    case isTrue hzero => rw [if_pos hzero, h]
    case isFalse hzero =>
      rw [if_neg hzero]
      split at h
      case isTrue hpointer =>
        rw [if_pos hpointer]
        simp only [bind_eq_ok, exists_unit, rejectIf_eq_ok, decide_eq_false_iff_not,
          Except.ok.injEq] at h ⊢
        obtain ⟨hinside, htarget, hfinish⟩ := h
        have hsecond := byte_at_congr (hagree (offset + 1) (by omega) (by omega))
        rw [← hlength, ← hsecond]
        exact ⟨hinside, htarget, hfinish⟩
      case isFalse hpointer =>
        rw [if_neg hpointer]
        simp only [bind_eq_ok, exists_unit, rejectIf_eq_ok, decide_eq_false_iff_not] at h ⊢
        obtain ⟨hlabel, hinside, hrest⟩ := h
        rw [← hlength]
        refine ⟨hlabel, hinside, ih hrest ?_⟩
        intro i hi
        exact hagree i (by omega)

theorem skip_questions_bounds : ∀ {questions offset finish : Nat},
    Platform.skip_questions message questions offset = .ok finish → offset ≤ finish := by
  intro questions
  induction questions with
  | zero =>
    intro offset finish h
    exact le_of_eq (Except.ok.inj h)
  | succ questions ih =>
    intro offset finish h
    unfold Platform.skip_questions at h
    simp only [bind_eq_ok, exists_unit] at h
    obtain ⟨name, hname, _, hrest⟩ := h
    have hbounds := skip_dns_labels_bounds hname
    have hlater := ih hrest
    omega

theorem skip_questions_congr (hlength : message.length = other.length) :
    ∀ {questions offset finish : Nat},
      Platform.skip_questions message questions offset = .ok finish →
        (∀ i, offset ≤ i → i < finish → message[i]? = other[i]?) →
          Platform.skip_questions other questions offset = .ok finish := by
  intro questions
  induction questions with
  | zero => intro offset finish h _; exact h
  | succ questions ih =>
    intro offset finish h hagree
    unfold Platform.skip_questions at h ⊢
    simp only [bind_eq_ok, exists_unit, rejectIf_eq_ok, decide_eq_false_iff_not] at h ⊢
    obtain ⟨name, hname, hinside, hrest⟩ := h
    have hbounds := skip_dns_labels_bounds hname
    have hlater := skip_questions_bounds hrest
    rw [← hlength]
    refine ⟨name, skip_dns_labels_congr hlength hname ?_, hinside, ih hrest ?_⟩
    · intro i hi hbefore
      exact hagree i hi (by omega)
    · intro i hi hbefore
      exact hagree i (by omega) hbefore

/-- A record's fixed part is behind the start of the walk and within the message. -/
theorem record_headers_bounds : ∀ {records offset : Nat} {headers : List Nat},
    record_headers message records offset = .ok headers →
      ∀ header ∈ headers, offset < header ∧ header + 10 ≤ message.length := by
  intro records
  induction records with
  | zero =>
    intro offset headers h header hmem
    rw [← Except.ok.inj h] at hmem
    cases hmem
  | succ records ih =>
    intro offset headers h header hmem
    unfold record_headers at h
    simp only [bind_eq_ok, exists_unit, rejectIf_eq_ok, decide_eq_false_iff_not,
      Except.ok.injEq] at h
    obtain ⟨first, hname, hinside, _, rest, hrest, heq⟩ := h
    have hbounds := skip_dns_labels_bounds hname
    rw [← heq] at hmem
    rcases List.mem_cons.mp hmem with hfirst | hlater
    · omega
    · have hbehind := ih hrest header hlater
      omega

/-- Messages that agree outside the TTLs have the same records, of the same types. -/
theorem record_headers_congr (hlength : message.length = other.length) :
    ∀ {records offset : Nat} {headers : List Nat},
      record_headers message records offset = .ok headers →
        (∀ i, offset ≤ i → ¬ InTtl message headers i → message[i]? = other[i]?) →
          record_headers other records offset = .ok headers ∧
            ∀ header ∈ headers, u16_at message header = u16_at other header := by
  intro records
  induction records with
  | zero =>
    intro offset headers h _
    refine ⟨h, ?_⟩
    rw [← Except.ok.inj h]
    exact fun header hmem => (nomatch hmem)
  | succ records ih =>
    intro offset headers h hagree
    unfold record_headers at h ⊢
    simp only [bind_eq_ok, exists_unit, rejectIf_eq_ok, decide_eq_false_iff_not,
      Except.ok.injEq] at h ⊢
    obtain ⟨first, hname, hinside, hdata, rest, hrest, heq⟩ := h
    have hbounds := skip_dns_labels_bounds hname
    have hbehind := record_headers_bounds hrest
    rw [← heq] at hagree
    -- the name and the fixed part but for its TTL are outside every TTL
    have hfixed : ∀ i, offset ≤ i → i < first + 4 ∨ (first + 8 ≤ i ∧ i < first + 10) →
        message[i]? = other[i]? := by
      intro i hi hwhere
      refine hagree i hi ?_
      intro hin
      obtain ⟨header, hmem, _, hlow, hhigh⟩ := hin
      rcases List.mem_cons.mp hmem with hfirst | hlater
      · omega
      · have hlater := hbehind header hlater
        omega
    have hdata_length : u16_at message (first + 8) = u16_at other (first + 8) :=
      u16_at_congr (hfixed _ (by omega) (by omega)) (hfixed _ (by omega) (by omega))
    have htype : u16_at message first = u16_at other first :=
      u16_at_congr (hfixed _ (by omega) (by omega)) (hfixed _ (by omega) (by omega))
    obtain ⟨hsame, htypes⟩ := ih hrest (fun i hi hout => by
      refine hagree i (by omega) ?_
      intro hin
      obtain ⟨header, hmem, htype, hlow, hhigh⟩ := hin
      rcases List.mem_cons.mp hmem with hfirst | hlater
      · omega
      · exact hout ⟨header, hlater, htype, hlow, hhigh⟩)
    rw [← hlength, ← heq]
    refine ⟨⟨first, skip_dns_labels_congr hlength hname ?_, hinside, ?_⟩, ?_⟩
    · intro i hi hbefore
      exact hfixed i hi (by omega)
    · rw [← hdata_length]
      exact ⟨hdata, rest, hsame, rfl⟩
    · exact List.forall_mem_cons.mpr ⟨htype, htypes⟩

/-- Messages that differ at most in ignored bytes have the same records and ignore the same
bytes. -/
theorem parse_records_congr {headers : List Nat} (h : parse_records message = .ok headers)
    (hsame : SameObject message headers other) :
    parse_records other = .ok headers ∧
      ∀ i, Ignored message headers i ↔ Ignored other headers i := by
  obtain ⟨hlength, hagree⟩ := hsame
  unfold parse_records at h ⊢
  simp only [bind_eq_ok, exists_unit, rejectIf_eq_ok, decide_eq_false_iff_not] at h ⊢
  obtain ⟨hshort, offset, hquestions, hheaders⟩ := h
  have hstart := skip_questions_bounds hquestions
  have hbehind := record_headers_bounds hheaders
  have hbefore : ∀ i, 2 ≤ i → i < offset → message[i]? = other[i]? := by
    intro i hi hlow
    refine hagree i ?_
    intro hin
    rcases hin with hid | ⟨header, hmem, _, hfirst, _⟩
    · omega
    · have hafter := hbehind header hmem
      omega
  have hcount : ∀ i, 4 ≤ i → i < 11 → u16_at message i = u16_at other i := by
    intro i hi hlast
    exact u16_at_congr (hbefore i (by omega) (by omega)) (hbefore (i + 1) (by omega) (by omega))
  obtain ⟨hrecords, htypes⟩ := record_headers_congr hlength hheaders (fun i hi hout => by
    refine hagree i ?_
    intro hin
    rcases hin with hid | hin
    · omega
    · exact hout hin)
  rw [← hlength, ← hcount 4 (by omega) (by omega), ← hcount 6 (by omega) (by omega),
    ← hcount 8 (by omega) (by omega), ← hcount 10 (by omega) (by omega)]
  refine ⟨⟨hshort, offset, skip_questions_congr hlength hquestions ?_, hrecords⟩, ?_⟩
  · intro i hi hlow
    exact hbefore i (by omega) hlow
  · intro i
    unfold Ignored InTtl
    constructor
    · intro hin
      rcases hin with hid | ⟨header, hmem, htype, hrange⟩
      · exact Or.inl hid
      · exact Or.inr ⟨header, hmem, htypes header hmem ▸ htype, hrange⟩
    · intro hin
      rcases hin with hid | ⟨header, hmem, htype, hrange⟩
      · exact Or.inl hid
      · exact Or.inr ⟨header, hmem, (htypes header hmem).symm ▸ htype, hrange⟩

end Walk

/-! ## §3. What is hashed. -/

section Cleared

variable {message other : List UInt8}

/-- The TTLs of the records cleared, one after the other. -/
def clear_headers (message : List UInt8) (headers : List Nat) (normalized : List UInt8) :
    List UInt8 :=
  headers.foldl (fun normalized header =>
    if u16_at message header != 41 then zero_four normalized (header + 4) else normalized)
    normalized

/-- The record loop finds the records and clears their TTLs. -/
theorem clear_ttls_eq : ∀ (records offset : Nat) (normalized : List UInt8),
    Platform.clear_ttls message records offset normalized =
      (record_headers message records offset).map
        (fun headers => clear_headers message headers normalized) := by
  intro records
  induction records with
  | zero =>
    intro offset normalized
    rfl
  | succ records ih =>
    intro offset normalized
    unfold Platform.clear_ttls record_headers
    cases skip_dns_name message offset with
    | error e => rfl
    | ok header =>
      rw [ok_bind, ok_bind]
      cases rejectIf (decide (message.length < header + 10)) _ with
      | error e => rfl
      | ok _ =>
        simp only [ok_bind]
        cases rejectIf (decide (message.length < header + 10 + u16_at message (header + 8))) _ with
        | error e => rfl
        | ok _ =>
          simp only [ok_bind]
          rw [ih]
          cases record_headers message records (header + 10 + u16_at message (header + 8)) <;> rfl

theorem zero_four_getElem? {normalized : List UInt8} {start i : Nat} :
    (zero_four normalized start)[i]? =
      if start ≤ i ∧ i < start + 4 then normalized[i]?.map (fun _ => 0) else normalized[i]? := by
  unfold zero_four
  rw [List.getElem?_mapIdx]
  by_cases hin : start ≤ i ∧ i < start + 4
  · rw [if_pos hin]
    simp [hin]
  · rw [if_neg hin]
    have hout : (decide (start ≤ i) && decide (i < start + 4)) = false := by
      rw [← Bool.decide_and]
      exact decide_eq_false hin
    simp [hout]

/-- The cleared bytes are those of the TTLs. -/
theorem clear_headers_getElem? {headers : List Nat} {i : Nat} : ∀ {normalized : List UInt8},
    (clear_headers message headers normalized)[i]? =
      if InTtl message headers i then normalized[i]?.map (fun _ => 0) else normalized[i]? := by
  induction headers with
  | nil =>
    intro normalized
    have hnone : ¬ InTtl message [] i := fun ⟨header, hmem, _⟩ => nomatch hmem
    rw [if_neg hnone]
    rfl
  | cons header rest ih =>
    intro normalized
    have hcons : InTtl message (header :: rest) i ↔
        (u16_at message header ≠ 41 ∧ header + 4 ≤ i ∧ i < header + 8) ∨ InTtl message rest i := by
      unfold InTtl
      rw [List.exists_mem_cons_iff]
    show (clear_headers message rest (if u16_at message header != 41 then
      zero_four normalized (header + 4) else normalized))[i]? = _
    rw [ih]
    by_cases htype : u16_at message header = 41
    · have hsame : (u16_at message header != 41) = false := bne_eq_false_iff_eq.mpr htype
      rw [hsame]
      have hrest : InTtl message (header :: rest) i ↔ InTtl message rest i := by
        rw [hcons]
        simp [htype]
      by_cases hin : InTtl message rest i
      · rw [if_pos hin, if_pos (hrest.mpr hin)]
        rfl
      · rw [if_neg hin, if_neg (fun h => hin (hrest.mp h))]
        rfl
    · rw [bne_iff_ne.mpr htype, if_pos rfl, zero_four_getElem?]
      by_cases hhere : header + 4 ≤ i ∧ i < header + 4 + 4
      · rw [if_pos hhere, if_pos (hcons.mpr (Or.inl ⟨htype, hhere⟩)), Option.map_map]
        split_ifs <;> rfl
      · rw [if_neg hhere]
        have hrest : InTtl message (header :: rest) i ↔ InTtl message rest i := by
          rw [hcons]
          exact ⟨fun h => h.resolve_left (fun h => hhere h.2), Or.inr⟩
        by_cases hin : InTtl message rest i
        · rw [if_pos hin, if_pos (hrest.mpr hin)]
        · rw [if_neg hin, if_neg (fun h => hin (hrest.mp h))]

theorem without_transaction_id_getElem? {i : Nat} (h : 2 ≤ message.length) :
    (without_transaction_id message)[i]? =
      if i < 2 then message[i]?.map (fun _ => 0) else message[i]? := by
  match message, h with
  | first :: second :: rest, _ =>
    match i with
    | 0 => rfl
    | 1 => rfl
    | i + 2 => rw [if_neg (by omega)]; rfl

/-- What is hashed for a message with these records. -/
def cleared_bytes (message : List UInt8) (headers : List Nat) : List UInt8 :=
  clear_headers message headers (without_transaction_id message)

/-- Byte by byte, it is the message but for what is ignored. -/
theorem cleared_bytes_getElem? {headers : List Nat} {i : Nat} (h : 2 ≤ message.length) :
    (cleared_bytes message headers)[i]? =
      if Ignored message headers i then message[i]?.map (fun _ => 0) else message[i]? := by
  unfold cleared_bytes Ignored
  rw [clear_headers_getElem?, without_transaction_id_getElem? h]
  by_cases hid : i < 2 <;> by_cases hin : InTtl message headers i <;>
    simp [hid, hin, Option.map_map, Function.comp_def]

theorem cleared_bytes_length (headers : List Nat) :
    (cleared_bytes message headers).length = message.length := by
  have hlength : ∀ {headers : List Nat} {normalized : List UInt8},
      (clear_headers message headers normalized).length = normalized.length := by
    intro headers
    induction headers with
    | nil => intro normalized; rfl
    | cons header rest ih =>
      intro normalized
      show (clear_headers message rest (if u16_at message header != 41 then
        zero_four normalized (header + 4) else normalized)).length = _
      rw [ih]
      split_ifs
      · exact List.length_mapIdx
      · rfl
  have hkept : (without_transaction_id message).length = message.length := by
    unfold without_transaction_id
    split <;> rfl
  unfold cleared_bytes
  rw [hlength, hkept]

variable {P : Platform}

/-- The digest is that of the cleared bytes of the records parsed. -/
theorem dns_cache_object_digest_iff {digest : String} :
    P.dns_cache_object_digest message = .ok digest ↔
      ∃ headers, parse_records message = .ok headers ∧
        digest = P.sha256_hex (cleared_bytes message headers) := by
  unfold Platform.dns_cache_object_digest parse_records
  simp only [clear_ttls_eq, bind_eq_ok, exists_unit, Except.ok.injEq]
  constructor
  · intro h
    obtain ⟨hshort, offset, hquestions, normalized, hmap, heq⟩ := h
    cases hheaders : record_headers message
        (u16_at message 6 + u16_at message 8 + u16_at message 10) offset with
    | error e =>
      rw [hheaders] at hmap
      cases hmap
    | ok headers =>
      rw [hheaders] at hmap
      rw [← heq, ← Except.ok.inj hmap]
      exact ⟨headers, ⟨hshort, offset, hquestions, hheaders⟩, rfl⟩
  · intro h
    obtain ⟨headers, ⟨hshort, offset, hquestions, hheaders⟩, heq⟩ := h
    refine ⟨hshort, offset, hquestions, cleared_bytes message headers, ?_, heq.symm⟩
    rw [hheaders]
    rfl

theorem length_of_parse_records {headers : List Nat} (h : parse_records message = .ok headers) :
    12 ≤ message.length := by
  unfold parse_records at h
  simp only [bind_eq_ok, exists_unit, rejectIf_eq_ok, decide_eq_false_iff_not] at h
  omega

/-- Clearing a message keeps what it is a variant of. -/
theorem same_object_cleared (headers : List Nat) (h : 2 ≤ message.length) :
    SameObject message headers (cleared_bytes message headers) := by
  refine ⟨(cleared_bytes_length headers).symm, ?_⟩
  intro i hout
  rw [cleared_bytes_getElem? h, if_neg hout]

/-- The hashed bytes are the same exactly for variants of one object. -/
theorem cleared_bytes_eq_iff {headers headers' : List Nat} (h : parse_records message = .ok headers)
    (h' : parse_records other = .ok headers') :
    cleared_bytes message headers = cleared_bytes other headers' ↔
      SameObject message headers other := by
  have hlong := length_of_parse_records h
  have hlong' := length_of_parse_records h'
  constructor
  · intro heq
    have hlength : message.length = other.length := by
      rw [← cleared_bytes_length headers, heq, cleared_bytes_length headers']
    -- the cleared bytes parse as either message does
    obtain ⟨hcleared, hignored⟩ :=
      parse_records_congr h (same_object_cleared headers (by omega))
    obtain ⟨hcleared', hignored'⟩ :=
      parse_records_congr h' (same_object_cleared headers' (by omega))
    rw [← heq, hcleared] at hcleared'
    have hheaders := Except.ok.inj hcleared'
    refine ⟨hlength, ?_⟩
    intro i hout
    have hout' : ¬ Ignored other headers' i := by
      rw [hignored' i, ← heq, ← hheaders, ← hignored i]
      exact hout
    rw [(same_object_cleared headers (by omega)).2 i hout, heq,
      (same_object_cleared headers' (by omega)).2 i hout']
  · intro hsame
    obtain ⟨hother, hignored⟩ := parse_records_congr h hsame
    rw [hother] at h'
    rw [← Except.ok.inj h']
    refine List.ext_getElem? ?_
    intro i
    rw [cleared_bytes_getElem? (by omega), cleared_bytes_getElem? (by omega)]
    by_cases hin : Ignored message headers i
    · rw [if_pos hin, if_pos ((hignored i).mp hin)]
      have hlength := hsame.1
      by_cases hinside : i < message.length
      · rw [List.getElem?_eq_getElem hinside, List.getElem?_eq_getElem (hlength ▸ hinside)]
        rfl
      · rw [List.getElem?_eq_none (by omega), List.getElem?_eq_none (by omega)]
    · rw [if_neg hin, if_neg (fun h => hin ((hignored i).mpr h))]
      exact hsame.2 i hin

end Cleared

/-! ## §4. Every index is inside. -/

section Indexed

variable {ε : Type}

/-- `u16::from_be_bytes([message[i], message[i + 1]])` -/
def index_u16 (message : List UInt8) (i : Nat) : Except (Failure ε) Nat := do
  let high ← index message i
  let low ← index message (i + 1)
  .ok (high.toNat * 256 + low.toNat)

/-- `normalized[start..start + 4].fill(0)` -/
def fill_four (normalized : List UInt8) (start : Nat) : Except (Failure ε) (List UInt8) := do
  rejectIf (normalized.length < start + 4) .panic
  .ok (zero_four normalized start)

/-- `normalized[0] = 0; normalized[1] = 0;` -/
def clear_transaction_id (normalized : List UInt8) : Except (Failure ε) (List UInt8) := do
  rejectIf (normalized.length < 2) .panic
  .ok (without_transaction_id normalized)

theorem index_byte_eq_ok {message : List UInt8} {i : Nat} (h : i < message.length) :
    (index message i : Except (Failure ε) UInt8) = .ok (byte_at message i) := by
  have hbyte := List.getElem?_eq_getElem h
  rw [index_eq_ok hbyte, byte_at_of_getElem? hbyte]

theorem index_u16_eq_ok {message : List UInt8} {i : Nat} (h : i + 1 < message.length) :
    (index_u16 message i : Except (Failure ε) Nat) = .ok (u16_at message i) := by
  unfold index_u16
  rw [index_byte_eq_ok (by omega), index_byte_eq_ok h]
  rfl

theorem fill_four_eq_ok {normalized : List UInt8} {start : Nat}
    (h : start + 4 ≤ normalized.length) :
    (fill_four normalized start : Except (Failure ε) (List UInt8)) =
      .ok (zero_four normalized start) := by
  unfold fill_four
  rw [decide_eq_false (by omega)]
  rfl

end Indexed

section Checked

/-- `skip_dns_name`, with the indices it uses. -/
def skip_dns_labels_checked (message : List UInt8) :
    Nat → Nat → Except (Failure EvidenceValidationError) Nat
  | 0, _ => returns (.error (.invalidGraph "DNS name has too many labels"))
  | labels + 1, offset => do
    let length ← returns (okOr message[offset]?
      (.invalidGraph "DNS name exceeds message boundary"))
    if length = 0 then .ok (offset + 1)
    else if length &&& 0xc0 = 0xc0 then do
      returns (rejectIf (message.length ≤ offset + 1)
        (.invalidGraph "DNS compression pointer is truncated"))
      let second ← index message (offset + 1)
      let pointer := (length &&& 0x3f).toNat * 256 + second.toNat
      returns (rejectIf (message.length ≤ pointer)
        (.invalidGraph "DNS compression pointer exceeds message boundary"))
      .ok (offset + 2)
    else do
      returns (rejectIf (length &&& 0xc0 != 0 || 63 < length)
        (.invalidGraph "DNS name contains an invalid label"))
      let offset := offset + (1 + length.toNat)
      returns (rejectIf (message.length < offset)
        (.invalidGraph "DNS label exceeds message boundary"))
      skip_dns_labels_checked message labels offset

/-- The same walk, with the end of the message checked. -/
def skip_questions_checked (message : List UInt8) :
    Nat → Nat → Except (Failure EvidenceValidationError) Nat
  | 0, offset => .ok offset
  | questions + 1, offset => do
    let offset ← skip_dns_labels_checked message 128 offset
    returns (rejectIf (message.length < offset + 4)
      (.invalidGraph "DNS question exceeds message boundary"))
    skip_questions_checked message questions (offset + 4)

/-- `if record_type != 41 { normalized[offset + 4..offset + 8].fill(0) }` -/
def clear_ttl_checked (record_type offset : Nat) (normalized : List UInt8) :
    Except (Failure EvidenceValidationError) (List UInt8) :=
  if record_type != 41 then fill_four normalized (offset + 4) else .ok normalized

/-- The same walk, with the end of the message checked. -/
def clear_ttls_checked (message : List UInt8) :
    Nat → Nat → List UInt8 → Except (Failure EvidenceValidationError) (List UInt8)
  | 0, _, normalized => .ok normalized
  | records + 1, offset, normalized => do
    let offset ← skip_dns_labels_checked message 128 offset
    returns (rejectIf (message.length < offset + 10)
      (.invalidGraph "DNS resource record header exceeds message boundary"))
    let record_type ← index_u16 message offset
    let normalized ← clear_ttl_checked record_type offset normalized
    let data_length ← index_u16 message (offset + 8)
    let offset := offset + 10 + data_length
    returns (rejectIf (message.length < offset)
      (.invalidGraph "DNS resource record exceeds message boundary"))
    clear_ttls_checked message records offset normalized

/-- `dns_cache_object_digest`, with every index it uses. -/
def dns_cache_object_digest_checked (P : Platform) (message : List UInt8) :
    Except (Failure EvidenceValidationError) String := do
  returns (rejectIf (message.length < 12)
    (.invalidGraph "DNS message is too short for cache normalization"))
  let normalized ← clear_transaction_id message
  let question_count ← index_u16 message 4
  let answers ← index_u16 message 6
  let authorities ← index_u16 message 8
  let additionals ← index_u16 message 10
  let offset ← skip_questions_checked message question_count 12
  let record_count := answers + authorities + additionals
  let normalized ← clear_ttls_checked message record_count offset normalized
  .ok (P.sha256_hex normalized)

variable {message : List UInt8}

theorem skip_dns_labels_checked_eq : ∀ (labels offset : Nat),
    skip_dns_labels_checked message labels offset =
      returns (skip_dns_labels message labels offset) := by
  intro labels
  induction labels with
  | zero => intro offset; rfl
  | succ labels ih =>
    intro offset
    unfold skip_dns_labels_checked skip_dns_labels
    rw [returns_bind]
    refine congrArg _ (funext fun length => ?_)
    by_cases hzero : length = 0
    · rw [if_pos hzero, if_pos hzero]
      rfl
    · rw [if_neg hzero, if_neg hzero]
      by_cases hpointer : length &&& 0xc0 = 0xc0
      · rw [if_pos hpointer, if_pos hpointer]
        refine returns_check_bind ?_
        intro hinside
        rw [index_byte_eq_ok (by simpa using hinside), ok_bind, returns_bind]
        rfl
      · rw [if_neg hpointer, if_neg hpointer]
        refine returns_check_bind fun _ => returns_check_bind fun _ => ih _

theorem skip_questions_checked_eq : ∀ (questions offset : Nat),
    skip_questions_checked message questions offset =
      returns (Platform.skip_questions message questions offset) := by
  intro questions
  induction questions with
  | zero => intro offset; rfl
  | succ questions ih =>
    intro offset
    unfold skip_questions_checked Platform.skip_questions skip_dns_name
    rw [returns_bind, skip_dns_labels_checked_eq]
    refine congrArg _ (funext fun name => ?_)
    exact returns_check_bind fun _ => ih _

theorem clear_ttls_checked_eq : ∀ (records offset : Nat) {normalized : List UInt8},
    normalized.length = message.length →
      clear_ttls_checked message records offset normalized =
        returns (Platform.clear_ttls message records offset normalized) := by
  intro records
  induction records with
  | zero => intro offset normalized _; rfl
  | succ records ih =>
    intro offset normalized hlength
    unfold clear_ttls_checked Platform.clear_ttls skip_dns_name
    rw [returns_bind, skip_dns_labels_checked_eq]
    refine congrArg _ (funext fun header => ?_)
    refine returns_check_bind ?_
    intro hinside
    have hinside : header + 10 ≤ message.length := by simpa using hinside
    rw [index_u16_eq_ok (by omega), index_u16_eq_ok (by omega), ok_bind]
    have hfill : clear_ttl_checked (u16_at message header) header normalized =
        .ok (if u16_at message header != 41 then zero_four normalized (header + 4)
          else normalized) := by
      unfold clear_ttl_checked
      rw [fill_four_eq_ok (by omega)]
      split_ifs <;> rfl
    rw [hfill, ok_bind, ok_bind]
    refine returns_check_bind fun _ => ih _ ?_
    split_ifs
    · exact List.length_mapIdx.trans hlength
    · exact hlength

/-- No index of the walk is outside the message. -/
theorem dns_cache_object_digest_checked_eq (P : Platform) (message : List UInt8) :
    dns_cache_object_digest_checked P message = returns (P.dns_cache_object_digest message) := by
  unfold dns_cache_object_digest_checked Platform.dns_cache_object_digest
  refine returns_check_bind ?_
  intro hlong
  have hlong : 12 ≤ message.length := by simpa using hlong
  have hid : (clear_transaction_id message :
      Except (Failure EvidenceValidationError) (List UInt8)) =
        .ok (without_transaction_id message) := by
    unfold clear_transaction_id
    rw [decide_eq_false (by omega)]
    rfl
  rw [hid, index_u16_eq_ok (by omega), index_u16_eq_ok (by omega), index_u16_eq_ok (by omega),
    index_u16_eq_ok (by omega)]
  simp only [ok_bind, returns_bind, skip_questions_checked_eq, returns_ok]
  refine congrArg _ (funext fun offset => ?_)
  rw [clear_ttls_checked_eq]
  unfold without_transaction_id
  split <;> rfl

end Checked

/-! ## §5. The digest and its objects. -/

section Objects

variable {message other : List UInt8}

/-- The fixed part and the data of a record end before the next record's fixed part. -/
theorem record_headers_pairwise : ∀ {records offset : Nat} {headers : List Nat},
    record_headers message records offset = .ok headers →
      headers.Pairwise (fun a b => a + 10 + u16_at message (a + 8) < b) := by
  intro records
  induction records with
  | zero =>
    intro offset headers h
    rw [← Except.ok.inj h]
    exact List.Pairwise.nil
  | succ records ih =>
    intro offset headers h
    unfold record_headers at h
    simp only [bind_eq_ok, exists_unit, Except.ok.injEq] at h
    obtain ⟨first, hname, _, _, rest, hrest, heq⟩ := h
    rw [← heq]
    exact List.pairwise_cons.mpr
      ⟨fun header hmem => (record_headers_bounds hrest header hmem).1, ih hrest⟩

/-- Of two records, one ends before the other's fixed part. -/
theorem record_headers_apart {records offset : Nat} {headers : List Nat}
    (h : record_headers message records offset = .ok headers) {a b : Nat} (ha : a ∈ headers)
    (hb : b ∈ headers) (hne : a ≠ b) :
    a + 10 + u16_at message (a + 8) < b ∨ b + 10 + u16_at message (b + 8) < a := by
  have hpairwise := record_headers_pairwise h
  exact List.Pairwise.forall_of_forall_of_flip
    (R := fun a b => a ≠ b → a + 10 + u16_at message (a + 8) < b ∨
      b + 10 + u16_at message (b + 8) < a)
    (fun a _ hne => absurd rfl hne) (hpairwise.imp fun h _ => Or.inl h)
    (hpairwise.imp fun h _ => Or.inr h) ha hb hne

/-- Of a record's fixed part and data, only the TTL is ignored, and no TTL of an `OPT`
record. -/
theorem ignored_in_record {headers : List Nat} (h : parse_records message = .ok headers)
    {header i : Nat} (hmem : header ∈ headers) (hlow : header ≤ i)
    (hhigh : i < header + 10 + u16_at message (header + 8)) :
    Ignored message headers i ↔
      u16_at message header ≠ 41 ∧ header + 4 ≤ i ∧ i < header + 8 := by
  unfold parse_records at h
  simp only [bind_eq_ok, exists_unit] at h
  obtain ⟨_, offset, hquestions, hheaders⟩ := h
  have hstart := skip_questions_bounds hquestions
  have hbehind := (record_headers_bounds hheaders header hmem).1
  constructor
  · intro hin
    rcases hin with hid | ⟨record, hrecord, htype, hfirst, hlast⟩
    · omega
    · -- the TTL is this record's own: the others are before it or behind it
      have hsame : record = header := by
        by_contra hne
        rcases record_headers_apart hheaders hrecord hmem hne with hbefore | hafter
        · omega
        · omega
      rw [← hsame]
      exact ⟨htype, hfirst, hlast⟩
  · intro hin
    exact Or.inr ⟨header, hmem, hin⟩

/-- SHA-256 tells the bytes hashed for two messages apart. -/
def NoObjectCollision (P : Platform) (message other : List UInt8) : Prop :=
  ∀ headers headers', parse_records message = .ok headers → parse_records other = .ok headers' →
    P.sha256_hex (cleared_bytes message headers) = P.sha256_hex (cleared_bytes other headers') →
      cleared_bytes message headers = cleared_bytes other headers'

/-- One digest, for variants of one object. -/
theorem digests_eq_iff {P : Platform} {digest digest' : String} {headers : List Nat}
    (h : P.dns_cache_object_digest message = .ok digest)
    (h' : P.dns_cache_object_digest other = .ok digest')
    (hcollision : NoObjectCollision P message other)
    (hparsed : parse_records message = .ok headers) :
    digest = digest' ↔ SameObject message headers other := by
  obtain ⟨headers', hparsed', hdigest'⟩ := dns_cache_object_digest_iff.mp h'
  obtain ⟨found, hfound, hdigest⟩ := dns_cache_object_digest_iff.mp h
  rw [hparsed] at hfound
  have hsame := Except.ok.inj hfound
  rw [← cleared_bytes_eq_iff hparsed hparsed', hdigest, hdigest', ← hsame]
  constructor
  · intro heq
    exact hcollision headers headers' hparsed hparsed' heq
  · intro heq
    rw [heq]

theorem NoObjectCollision.symm {P : Platform} (h : NoObjectCollision P message other) :
    NoObjectCollision P other message := by
  intro headers headers' hparsed hparsed' heq
  exact (h headers' headers hparsed' hparsed heq.symm).symm

/-- Two digests are one exactly when the messages differ at most in the transaction id and
in the TTLs of the records, `OPT` records apart, as either of them delimits its records: any
other byte changes the digest, in a record or outside all of them.  The walk that finds the
records stays inside the message, whatever the message is. -/
theorem cache_object_digest_eq_iff (P : Platform) :
    (∀ (message other : List UInt8) (digest digest' : String),
      NoObjectCollision P message other →
      P.dns_cache_object_digest message = .ok digest →
      P.dns_cache_object_digest other = .ok digest' →
      ∃ headers headers', parse_records message = .ok headers ∧
        parse_records other = .ok headers' ∧
        (digest = digest' ↔ SameObject message headers other) ∧
        (digest = digest' ↔ SameObject other headers' message) ∧
        (∀ i, message[i]? ≠ other[i]? → 2 ≤ i →
          (∀ header ∈ headers, i < header ∨ header + 10 + u16_at message (header + 8) ≤ i) →
            digest ≠ digest') ∧
        (∀ i, message[i]? ≠ other[i]? → ∀ header ∈ headers, header ≤ i →
          i < header + 10 + u16_at message (header + 8) →
          (u16_at message header = 41 ∨ i < header + 4 ∨ header + 8 ≤ i) →
            digest ≠ digest')) ∧
    ∀ message, dns_cache_object_digest_checked P message =
      returns (P.dns_cache_object_digest message) := by
  refine ⟨?_, dns_cache_object_digest_checked_eq P⟩
  intro message other digest digest' hcollision h h'
  obtain ⟨headers, hparsed, hdigest⟩ := dns_cache_object_digest_iff.mp h
  obtain ⟨headers', hparsed', hdigest'⟩ := dns_cache_object_digest_iff.mp h'
  have hsame := digests_eq_iff h h' hcollision hparsed
  have hread : ∀ i, message[i]? ≠ other[i]? → ¬ Ignored message headers i →
      digest ≠ digest' := by
    intro i hdiffer hout heq
    exact hdiffer ((hsame.mp heq).2 i hout)
  refine ⟨headers, headers', hparsed, hparsed', hsame, ?_, ?_, ?_⟩
  · rw [eq_comm]
    exact digests_eq_iff h' h hcollision.symm hparsed'
  · intro i hdiffer hi houtside
    refine hread i hdiffer ?_
    intro hin
    rcases hin with hid | ⟨header, hmem, _, hlow, hhigh⟩
    · omega
    · have hrecord := houtside header hmem
      omega
  · intro i hdiffer header hmem hlow hhigh hwhere
    refine hread i hdiffer ?_
    intro hin
    have httl := (ignored_in_record hparsed hmem hlow hhigh).mp hin
    omega

end Objects

/-! ## §6. Recorded digests. -/

/-- The recorded answer from a cache: under another transaction id, with a TTL of 300. -/
def cached_wire : List UInt8 :=
  [0, 9, 129, 128, 0, 1, 0, 1, 0, 0, 0, 0, 7, 101, 120, 97, 109, 112, 108, 101, 0, 0,
    1, 0, 1, 192, 12, 0, 1, 0, 1, 0, 0, 1, 44, 0, 4, 192, 0, 2, 1]

/-- An answer with another address. -/
def readdressed_wire : List UInt8 :=
  [0, 0, 129, 128, 0, 1, 0, 1, 0, 0, 0, 0, 7, 101, 120, 97, 109, 112, 108, 101, 0, 0,
    1, 0, 1, 192, 12, 0, 1, 0, 1, 0, 0, 0, 0, 0, 4, 192, 0, 2, 2]

/-- SHA-256 of the two answers, without transaction id and TTL. -/
def object_platform : Platform :=
  { (Recording.mk [] [] []).platform with
    sha256_hex := fun bytes =>
      if bytes = answer_wire 0 then
        "0x1429f43ff6c4913a2b148b1050473a728af3a84ccc962544bcc798d8460910b6"
      else if bytes = readdressed_wire then
        "0x7a3b05dd0ab913c21d8f869a0ddcca806da459041ec6654afe2a23ee0bb4890c"
      else "0x" }

/-- The answer and its cached copy are one object; the answer with another address is not. -/
theorem answer_objects :
    object_platform.dns_cache_object_digest (answer_wire 7) =
      object_platform.dns_cache_object_digest cached_wire ∧
    SameObject (answer_wire 7) [27] cached_wire ∧
    ¬ SameObject (answer_wire 7) [27] readdressed_wire := by
  have hparsed : parse_records (answer_wire 7) = .ok [27] :=
    toOption_eq_some (by decide +kernel)
  have hparsed_cached : parse_records cached_wire = .ok [27] :=
    toOption_eq_some (by decide +kernel)
  have hparsed_other : parse_records readdressed_wire = .ok [27] :=
    toOption_eq_some (by decide +kernel)
  have hanswer : object_platform.dns_cache_object_digest (answer_wire 7) =
      .ok "0x1429f43ff6c4913a2b148b1050473a728af3a84ccc962544bcc798d8460910b6" :=
    toOption_eq_some (by decide +kernel)
  have hcached : object_platform.dns_cache_object_digest cached_wire =
      .ok "0x1429f43ff6c4913a2b148b1050473a728af3a84ccc962544bcc798d8460910b6" :=
    toOption_eq_some (by decide +kernel)
  have hreaddressed : object_platform.dns_cache_object_digest readdressed_wire =
      .ok "0x7a3b05dd0ab913c21d8f869a0ddcca806da459041ec6654afe2a23ee0bb4890c" :=
    toOption_eq_some (by decide +kernel)
  refine ⟨hanswer.trans hcached.symm, ?_, ?_⟩
  · -- what is hashed is the same
    have hcollision : NoObjectCollision object_platform (answer_wire 7) cached_wire := by
      intro headers headers' h h' _
      rw [← Except.ok.inj (hparsed.symm.trans h),
        ← Except.ok.inj (hparsed_cached.symm.trans h')]
      decide
    obtain ⟨headers, _, h, _, hsame, _⟩ :=
      (cache_object_digest_eq_iff object_platform).1 _ _ _ _ hcollision hanswer hcached
    rw [Except.ok.inj (hparsed.symm.trans h)]
    exact hsame.mp rfl
  · -- the recorded digests differ
    have hcollision : NoObjectCollision object_platform (answer_wire 7) readdressed_wire := by
      intro headers headers' h h' heq
      rw [← Except.ok.inj (hparsed.symm.trans h),
        ← Except.ok.inj (hparsed_other.symm.trans h')] at heq
      exact absurd heq (by decide +kernel)
    obtain ⟨headers, _, h, _, hsame, _⟩ :=
      (cache_object_digest_eq_iff object_platform).1 _ _ _ _ hcollision hanswer hreaddressed
    rw [Except.ok.inj (hparsed.symm.trans h)]
    intro hother
    exact absurd (hsame.mpr hother) (by decide)

end ResolverIdentity
