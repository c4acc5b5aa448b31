/-
  ResolverIdentity.Producer.TtlWalk: the producer's TTL walk and the digest's.

  `minimum_dns_ttl` of `ri-knot-trace-producer` walks the records again that
  `dns_cache_object_digest` of `ri-core` has walked, with a walker of its own.  The two check
  different things of a compression pointer; where the first one passes, so does the second,
  at the same offsets.

  Main results:
    * `skip_labels_eq`: a name the digest passes over ends where the producer finds its end;
    * `minimum_ttl_eq`: the records the digest clears, seen by the producer;
    * `minimum_dns_ttl_of_digest`: the bound is the smallest TTL that is cleared.
-/
import ResolverIdentity.Core.CacheObject
import ResolverIdentity.Producer.Machine

namespace ResolverIdentity.Producer

open Library

/-! ## §1. The same offsets. -/

section Walk

variable {wire : List UInt8}

/-- Of a compression pointer the producer reads less than the digest does. -/
theorem skip_labels_eq : ∀ {labels offset finish : Nat},
    skip_dns_labels wire labels offset = .ok finish →
      skip_labels wire labels offset = .ok finish := by
  intro labels
  induction labels with
  | zero => intro offset finish h; cases h
  | succ labels ih =>
    intro offset finish h
    unfold skip_dns_labels at h
    unfold skip_labels
    obtain ⟨length, hread, h⟩ := bind_eq_ok.mp h
    rw [okOr_eq_ok.mp hread]
    show (if length = 0 then _ else _) = _
    by_cases hzero : length = 0
    · rw [if_pos hzero] at h ⊢
      exact congrArg Except.ok (Except.ok.inj h)
    · rw [if_neg hzero] at h ⊢
      by_cases hpointer : length &&& 0xc0 = 0xc0
      · rw [if_pos hpointer] at h ⊢
        simp only [bind_eq_ok, exists_unit, rejectIf_eq_ok, decide_eq_false_iff_not,
          Except.ok.injEq] at h ⊢
        obtain ⟨hinside, _, hfinish⟩ := h
        rw [List.getElem?_eq_getElem (by omega)]
        exact ⟨rfl, hfinish⟩
      · rw [if_neg hpointer] at h ⊢
        simp only [bind_eq_ok, exists_unit, rejectIf_eq_ok, decide_eq_false_iff_not] at h ⊢
        obtain ⟨hlabel, hinside, hrest⟩ := h
        rw [Nat.add_assoc]
        exact ⟨hlabel, hinside, ih hrest⟩

theorem skip_packet_questions_eq : ∀ {questions offset finish : Nat},
    Platform.skip_questions wire questions offset = .ok finish →
      skip_packet_questions wire questions offset = .ok finish := by
  intro questions
  induction questions with
  | zero =>
    intro offset finish h
    exact congrArg Except.ok (Except.ok.inj h)
  | succ questions ih =>
    intro offset finish h
    unfold Platform.skip_questions at h
    unfold skip_packet_questions skip_name
    simp only [bind_eq_ok, exists_unit, rejectIf_eq_ok, decide_eq_false_iff_not] at h ⊢
    obtain ⟨name, hname, hinside, hrest⟩ := h
    exact ⟨name, skip_labels_eq hname, hinside, ih hrest⟩

/-- The TTLs of the records whose TTL is cleared. -/
def cleared_ttls (wire : List UInt8) (headers : List Nat) : List Nat :=
  (headers.filter (fun header => u16_at wire header != 41)).map
    (fun header => u32_at wire (header + 4))

/-- The least of what the loop has so far and of further TTLs. -/
def least (minimum : Option Nat) (ttls : List Nat) : Option Nat :=
  ttls.foldl (fun minimum ttl => some (minimum.elim ttl (fun current => min current ttl))) minimum

/-- The producer's loop sees the records of the digest. -/
theorem minimum_ttl_eq : ∀ {records offset : Nat} {headers : List Nat} {minimum : Option Nat},
    record_headers wire records offset = .ok headers →
      minimum_ttl wire records offset minimum = .ok (least minimum (cleared_ttls wire headers)) := by
  intro records
  induction records with
  | zero =>
    intro offset headers minimum h
    rw [← Except.ok.inj h]
    rfl
  | succ records ih =>
    intro offset headers minimum h
    unfold record_headers at h
    unfold minimum_ttl skip_name
    simp only [bind_eq_ok, exists_unit, rejectIf_eq_ok, decide_eq_false_iff_not,
      Except.ok.injEq] at h ⊢
    obtain ⟨header, hname, hinside, hdata, rest, hrest, heq⟩ := h
    refine ⟨header, skip_labels_eq hname, hinside, hdata, ?_⟩
    rw [ih hrest, ← heq]
    unfold cleared_ttls
    by_cases htype : (u16_at wire header != 41) = true
    · rw [if_pos htype,
        List.filter_cons_of_pos (p := fun header => u16_at wire header != 41) htype]
      rfl
    · rw [if_neg htype,
        List.filter_cons_of_neg (p := fun header => u16_at wire header != 41) htype]

/-- With nothing before it, the loop ends with the minimum. -/
theorem least_none (ttls : List Nat) : least none ttls = ttls.min? := by
  have hsome : ∀ (ttls : List Nat) (current : Nat),
      least (some current) ttls = some (ttls.foldl min current) := by
    intro ttls
    induction ttls with
    | nil => intro current; rfl
    | cons ttl rest ih =>
      intro current
      exact ih (min current ttl)
  cases ttls with
  | nil => rfl
  | cons ttl rest => exact hsome rest ttl

end Walk

/-! ## §2. Every index is inside. -/

section Checked

variable {wire : List UInt8}

/-- `u32::from_be_bytes([wire[i], .., wire[i + 3]])` -/
def index_u32 {ε : Type} (wire : List UInt8) (i : Nat) : Except (Failure ε) Nat := do
  let high ← index_u16 wire i
  let low ← index_u16 wire (i + 2)
  .ok (high * 65536 + low)

theorem index_u32_eq_ok {ε : Type} {i : Nat} (h : i + 3 < wire.length) :
    (index_u32 wire i : Except (Failure ε) Nat) = .ok (u32_at wire i) := by
  unfold index_u32
  rw [index_u16_eq_ok (by omega), index_u16_eq_ok (by omega)]
  rfl

/-- The record loop, with every index it uses; `skip_name` uses none. -/
def minimum_ttl_checked (wire : List UInt8) :
    Nat → Nat → Option Nat → Except (Failure String) (Option Nat)
  | 0, _, minimum => .ok minimum
  | records + 1, offset, minimum => do
    let offset ← returns (skip_name wire offset)
    returns (rejectIf (wire.length < offset + 10) "DNS resource record header exceeds packet")
    let rr_type ← index_u16 wire offset
    let ttl ← index_u32 wire (offset + 4)
    let rdlength ← index_u16 wire (offset + 8)
    let offset := offset + 10 + rdlength
    returns (rejectIf (wire.length < offset) "DNS resource record exceeds packet")
    minimum_ttl_checked wire records offset
      (if rr_type != 41 then some (minimum.elim ttl (fun current => min current ttl)) else minimum)

/-- `minimum_dns_ttl`, with every index it uses. -/
def minimum_dns_ttl_checked (wire : List UInt8) : Except (Failure String) Nat := do
  returns (validate_dns_wire wire)
  let qd ← index_u16 wire 4
  let an ← index_u16 wire 6
  let ns ← index_u16 wire 8
  let ar ← index_u16 wire 10
  let offset ← returns (skip_packet_questions wire qd 12)
  let minimum ← minimum_ttl_checked wire (an + ns + ar) offset none
  .ok (minimum.getD 0)

theorem minimum_ttl_checked_eq : ∀ (records offset : Nat) (minimum : Option Nat),
    minimum_ttl_checked wire records offset minimum =
      returns (minimum_ttl wire records offset minimum) := by
  intro records
  induction records with
  | zero => intro offset minimum; rfl
  | succ records ih =>
    intro offset minimum
    unfold minimum_ttl_checked minimum_ttl
    rw [returns_bind]
    refine congrArg _ (funext fun header => ?_)
    refine returns_check_bind ?_
    intro hinside
    have hinside : header + 10 ≤ wire.length := by simpa using hinside
    rw [index_u16_eq_ok (by omega), index_u16_eq_ok (by omega), index_u32_eq_ok (by omega)]
    exact returns_check_bind fun _ => ih _ _

/-- No index of the producer's walk is outside the message. -/
theorem minimum_dns_ttl_checked_eq (wire : List UInt8) :
    minimum_dns_ttl_checked wire = returns (minimum_dns_ttl wire) := by
  unfold minimum_dns_ttl_checked minimum_dns_ttl validate_dns_wire
  refine returns_check_bind ?_
  intro hlength
  have hlong : 12 ≤ wire.length := by
    by_contra hshort
    rw [Bool.not_eq_false', Bool.and_eq_true, decide_eq_true_eq] at hlength
    exact hshort hlength.1
  rw [index_u16_eq_ok (by omega), index_u16_eq_ok (by omega), index_u16_eq_ok (by omega),
    index_u16_eq_ok (by omega)]
  simp only [ok_bind, returns_bind, minimum_ttl_checked_eq, returns_ok]

end Checked

/-! ## §3. The bound of a response with a digest. -/

/-- A message with a cache object digest has a TTL bound: the least of the TTLs that are
cleared for the digest, and 0 where there is none.  Neither walk reads past a message. -/
theorem minimum_dns_ttl_of_digest (P : Platform) :
    (∀ (wire : List UInt8) (digest : String), 12 ≤ wire.length → wire.length ≤ 65535 →
      P.dns_cache_object_digest wire = .ok digest →
      ∃ headers, parse_records wire = .ok headers ∧
        digest = P.sha256_hex (cleared_bytes wire headers) ∧
        (∀ i, 2 ≤ i → i < wire.length → (cleared_bytes wire headers)[i]? =
          if InTtl wire headers i then some 0 else wire[i]?) ∧
        minimum_dns_ttl wire = .ok ((cleared_ttls wire headers).min?.getD 0)) ∧
    ∀ wire, dns_cache_object_digest_checked P wire = returns (P.dns_cache_object_digest wire) ∧
      minimum_dns_ttl_checked wire = returns (minimum_dns_ttl wire) := by
  refine ⟨?_, fun wire => ⟨dns_cache_object_digest_checked_eq P wire,
    minimum_dns_ttl_checked_eq wire⟩⟩
  intro wire digest hlong hshort hdigest
  obtain ⟨headers, hparsed, hhashed⟩ := dns_cache_object_digest_iff.mp hdigest
  refine ⟨headers, hparsed, hhashed, ?_, ?_⟩
  · intro i hi hinside
    have hnone : Ignored wire headers i ↔ InTtl wire headers i := by
      unfold Ignored
      exact or_iff_right (by omega)
    rw [cleared_bytes_getElem? (by omega), if_congr hnone rfl rfl,
      List.getElem?_eq_getElem hinside]
    rfl
  · unfold parse_records at hparsed
    simp only [bind_eq_ok, exists_unit] at hparsed
    obtain ⟨_, offset, hquestions, hheaders⟩ := hparsed
    have hwire : validate_dns_wire wire = .ok () :=
      validate_dns_wire_eq_ok.mpr ⟨hlong, hshort⟩
    unfold minimum_dns_ttl
    rw [hwire, ok_bind, skip_packet_questions_eq hquestions, ok_bind, minimum_ttl_eq hheaders,
      ok_bind, least_none]

/-- The recorded answer from a cache has 300 seconds left. -/
theorem cached_wire_ttl : minimum_dns_ttl cached_wire = .ok 300 := by
  have hdigest : object_platform.dns_cache_object_digest cached_wire =
      .ok "0x1429f43ff6c4913a2b148b1050473a728af3a84ccc962544bcc798d8460910b6" :=
    toOption_eq_some (by decide +kernel)
  obtain ⟨headers, hparsed, _, _, httl⟩ := (minimum_dns_ttl_of_digest object_platform).1
    cached_wire _ (by decide) (by decide) hdigest
  have hheaders : parse_records cached_wire = .ok [27] := toOption_eq_some (by decide +kernel)
  rw [httl, Except.ok.inj (hparsed.symm.trans hheaders)]
  exact congrArg Except.ok (by decide)

end ResolverIdentity.Producer
