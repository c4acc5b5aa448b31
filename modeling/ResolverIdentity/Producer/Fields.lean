/-
  ResolverIdentity.Producer.Fields: what the emitted events carry.

  The Agent's `validate_trace_event` says again, kind by kind, which fields an
  event must and must not carry.  The producer never reads those checks; what it
  puts into an event comes from digests, from the frame's reason and from the
  attempts of the context.

  Main results:
    * `Sound.move`, `Sound.finish`: a frame emits events with the fields of their kind;
    * `Past.fields`: so does every frame of a trace;
    * `validate_emitted`: the Agent accepts such an event in its place and in its window.
-/
import ResolverIdentity.Adapter.Worker
import ResolverIdentity.Agent.Requests
import ResolverIdentity.Producer.Sequences
import Mathlib.Data.String.Basic

namespace ResolverIdentity.Producer

open Library Agent Adapter

variable {P : Platform} {frame : HookFrame} {given : Given} {server_id : String}
  {context context' : RequestContext} {events : List TraceEventV2} {log : List Emitted}
  {event : TraceEventV2}

/-! ## §1. Digests, reasons and trace ids. -/

/-- SHA-256 is printed as `0x` and 64 hexadecimal digits. -/
def WellFormedDigests (P : Platform) : Prop := ∀ bytes, is_digest (P.sha256_hex bytes) = true

/-- A reason of the length the Agent accepts. -/
def is_reason (reason : String) : Bool := !reason.isEmpty && reason.utf8ByteSize ≤ 128

/-- A trace id of the length the Agent accepts. -/
def is_trace_id (trace_id : String) : Bool := !trace_id.isEmpty && trace_id.utf8ByteSize ≤ 256

theorem is_digest_size {digest : String} (h : is_digest digest = true) :
    digest.isEmpty = false ∧ digest.utf8ByteSize ≤ 256 := by
  have hsize : digest.utf8ByteSize = 66 := of_decide_eq_true (Bool.and_eq_true_iff.mp h).1
  refine ⟨?_, by omega⟩
  by_contra hempty
  rw [Bool.not_eq_false, String.isEmpty_iff] at hempty
  rw [hempty] at hsize
  cases hsize

theorem correlation_id_digest (hdigests : WellFormedDigests P) {wire : List UInt8}
    {correlation_id : String} (h : P.dns_correlation_id wire = .ok correlation_id) :
    is_digest correlation_id = true := by
  unfold Platform.dns_correlation_id at h
  obtain ⟨_, _, h⟩ := bind_eq_ok.mp h
  rw [← Except.ok.inj h]
  exact hdigests _

theorem cache_object_digest_digest (hdigests : WellFormedDigests P) {wire : List UInt8}
    {digest : String} (h : P.dns_cache_object_digest wire = .ok digest) :
    is_digest digest = true := by
  obtain ⟨normalized, rfl⟩ := P.dns_cache_object_digest_eq_ok h
  exact hdigests _

theorem join_size (texts : List String) {n : Nat} (h : ∀ text ∈ texts, text.utf8ByteSize ≤ n) :
    (String.join texts).utf8ByteSize ≤ n * texts.length := by
  induction texts with
  | nil => simp
  | cons text rest ih =>
    have hrest := ih (fun other hother => h other (List.mem_cons_of_mem _ hother))
    have hfirst := h text List.mem_cons_self
    rw [String.join_cons, String.utf8ByteSize_append, List.length_cons, Nat.mul_succ]
    omega

theorem hex_byte_size (byte : UInt8) : (hex_byte byte).utf8ByteSize ≤ 8 := by
  unfold hex_byte
  have hhigh := Char.utf8Size_le_four (Nat.digitChar (byte.toNat / 16))
  have hlow := Char.utf8Size_le_four (Nat.digitChar (byte.toNat % 16))
  rw [String.utf8ByteSize_ofList]
  simp only [String.utf8Len_cons, String.utf8Len_nil]
  omega

/-- A random trace id is short enough for the Agent. -/
theorem random_trace_id_admitted (bytes : Vector UInt8 16) :
    is_trace_id (random_trace_id bytes) = true := by
  have hjoin := join_size (n := 8) (bytes.toList.map hex_byte) (by
    intro text htext
    obtain ⟨byte, _, rfl⟩ := List.mem_map.mp htext
    exact hex_byte_size byte)
  rw [List.length_map, Vector.length_toList] at hjoin
  have hprefix : "knot-".utf8ByteSize = 5 := by decide
  have hsize : (random_trace_id bytes).utf8ByteSize =
      5 + (String.join (bytes.toList.map hex_byte)).utf8ByteSize := by
    unfold random_trace_id
    rw [String.utf8ByteSize_append, hprefix]
  unfold is_trace_id
  rw [Bool.and_eq_true, Bool.not_eq_true', decide_eq_true_eq]
  refine ⟨?_, by omega⟩
  by_contra hempty
  rw [Bool.not_eq_false, String.isEmpty_iff] at hempty
  rw [hempty, String.utf8ByteSize_empty] at hsize
  omega

/-- A piece of a header line that the check of the reason lets through. -/
theorem is_reason_of_piece {line reason : String} (hpiece : reason ∈ split_ascii_whitespace line)
    (hcheck : (decide (128 < reason.utf8ByteSize) || !(as_bytes reason).all is_reason_byte) =
      false) : is_reason reason = true := by
  obtain ⟨piece, hmem, rfl⟩ := List.mem_map.mp hpiece
  have hne : piece ≠ [] := by
    intro hnil
    rw [hnil] at hmem
    exact absurd (List.mem_filter.mp hmem).2 (by decide)
  rw [Bool.or_eq_false_iff, decide_eq_false_iff_not, Nat.not_lt] at hcheck
  unfold is_reason
  simp [hne, hcheck.1]

/-- An admitted frame names its reason. -/
theorem admitted_reason (h : Admitted P frame) : is_reason frame.reason = true := by
  obtain ⟨line, header, wire_len, hheader, _, hframe⟩ := h
  rw [hframe]
  show is_reason header.reason = true
  unfold parse_hook_header at hheader
  obtain ⟨_, _, hheader⟩ := bind_eq_ok.mp hheader
  split at hheader
  case h_1 protocol kind pid request_uid transport address port dnssec_status reason wire_len'
      terminator hsplit =>
    have hpiece : reason ∈ split_ascii_whitespace line := by
      rw [hsplit]
      simp
    simp only [bind_eq_ok, exists_unit, rejectIf_eq_ok] at hheader
    obtain ⟨_, kind', _, pid', _, request_uid', _, hheader⟩ := hheader
    -- with an address or without, the rest of the line is read the same way
    split at hheader
    all_goals
      simp only [bind_eq_ok, exists_unit, rejectIf_eq_ok] at hheader
      obtain ⟨_, _, _, _, _, _, hreason, _, _, _, hheader⟩ := hheader
      rw [← (Prod.mk.inj (Except.ok.inj hheader)).1]
      exact is_reason_of_piece hpiece hreason
  case h_2 => cases hheader

/-! ## §2. Fields. -/

/-- A cache hit goes to the Agent with the digest the adapter found for it. -/
def enriched (source : TraceEventV2 → String) (event : TraceEventV2) : TraceEventV2 :=
  if needs_provenance event then { event with source_graph_digest := some (source event) }
  else event

/-- A cache hit has a digest of its source. -/
def Sourced (source : TraceEventV2 → String) (event : TraceEventV2) : Prop :=
  needs_provenance event = true → is_digest (source event) = true

/-- What the Agent asks of the fields of an event, its place aside. -/
structure Fields (frame : HookFrame) (event : TraceEventV2) : Prop where
  trace_id : is_trace_id event.trace_id = true
  correlation_id : is_digest event.correlation_id = true
  target_correlation_id : malformed_digest event.target_correlation_id = false
  query_digest : is_digest event.query_digest = true
  response_digest : malformed_digest event.response_digest = false
  failure_reason : is_reason frame.reason = true → event.failure_reason.all is_reason = true
  kind : ∀ source, Sourced source event → check_event_kind (enriched source event) = .ok ()

/-- A context whose data make such events. -/
structure Sound (context : RequestContext) : Prop where
  trace_id : is_trace_id context.trace_id = true
  correlation_id : is_digest context.correlation_id = true
  query_digest : is_digest context.query_digest = true
  attempts : ∀ attempt ∈ context.attempts, 0 < attempt.number ∧
    is_digest attempt.query_digest = true ∧ is_digest attempt.target_correlation_id = true

theorem malformed_digest_some {digest : String} (h : is_digest digest = true) :
    malformed_digest (some digest) = false := by
  unfold malformed_digest
  simp [h]

theorem is_reason_or {default : String} (hdefault : is_reason default = true) :
    is_reason frame.reason = true → (some (reason_or frame default)).all is_reason = true := by
  intro hreason
  unfold reason_or
  show is_reason (if frame.reason.isEmpty then default else frame.reason) = true
  split
  · exact hdefault
  · exact hreason

/-- An event of the context, with what it says beside it. -/
theorem Sound.fields (h : Sound context) (htrace : event.trace_id = context.trace_id)
    (hcorrelation : event.correlation_id = context.correlation_id)
    (hquery : is_digest event.query_digest = true)
    (htarget : malformed_digest event.target_correlation_id = false)
    (hresponse : malformed_digest event.response_digest = false)
    (hreason : is_reason frame.reason = true → event.failure_reason.all is_reason = true)
    (hkind : ∀ source, Sourced source event →
      check_event_kind (enriched source event) = .ok ()) : Fields frame event where
  trace_id := by rw [htrace]; exact h.trace_id
  correlation_id := by rw [hcorrelation]; exact h.correlation_id
  target_correlation_id := htarget
  query_digest := hquery
  response_digest := hresponse
  failure_reason := hreason
  kind := hkind

theorem changed_is_reason :
    (some "endpoint-or-transport-changed").all is_reason = true := by decide

/-- The retry events of a SEND. -/
theorem Sound.retry (h : Sound context) (P : Platform) (server_id : String) (frame : HookFrame)
    (given : Given) (target : DnsEndpoint) (attempt : Nat) :
    Sound (retry_events P server_id frame given target (attempt + 1) context).2 ∧
      ∀ event ∈ (retry_events P server_id frame given target (attempt + 1) context).1,
        Fields frame event := by
  rcases retry_events_cases P frame given server_id target (attempt + 1) context with
    hretry | hretry | hretry
  · rw [hretry]
    exact ⟨h, fun event hevent => (nomatch hevent)⟩
  · rw [hretry]
    refine ⟨⟨h.trace_id, h.correlation_id, h.query_digest, h.attempts⟩, ?_⟩
    intro event hevent
    rw [List.mem_singleton.mp hevent]
    exact h.fields rfl rfl h.query_digest rfl rfl (is_reason_or (by decide)) (fun _ _ => rfl)
  · rw [hretry]
    refine ⟨⟨h.trace_id, h.correlation_id, h.query_digest, h.attempts⟩, ?_⟩
    intro event hevent
    rcases List.mem_cons.mp hevent with rfl | hevent
    · exact h.fields rfl rfl h.query_digest rfl rfl (is_reason_or (by decide)) (fun _ _ => rfl)
    · rw [List.mem_singleton.mp hevent]
      exact h.fields rfl rfl h.query_digest rfl rfl (fun _ => changed_is_reason)
        (fun _ _ => rfl)

section Digests
variable (hdigests : WellFormedDigests P)
include hdigests

theorem sound_first (server_id : String) (frame : HookFrame) (given : Given) {correlation_id : String}
    (hcorrelation : P.dns_correlation_id frame.wire = .ok correlation_id) :
    Sound (first_event P server_id frame given correlation_id).2 ∧
      Fields frame (first_event P server_id frame given correlation_id).1 where
  left :=
    { trace_id := random_trace_id_admitted given.random
      correlation_id := correlation_id_digest hdigests hcorrelation
      query_digest := hdigests _
      attempts := fun _ hattempt => (nomatch hattempt) }
  right :=
    { trace_id := random_trace_id_admitted given.random
      correlation_id := correlation_id_digest hdigests hcorrelation
      target_correlation_id := rfl
      query_digest := hdigests _
      response_digest := rfl
      failure_reason := fun _ => rfl
      kind := fun _ _ => rfl }

/-- A frame that goes on with a context emits events with their fields. -/
theorem Sound.move (h : Sound context)
    (hmove : Move P server_id frame given context events context') :
    Sound context' ∧ ∀ event ∈ events, Fields frame event := by
  cases hmove with
  | sent target events context' _ _ _ hsend =>
    -- a SEND adds the events of a retry, the query, and one attempt
    obtain ⟨_, target_correlation_id, transaction_id, hcorrelation, _, rfl, rfl⟩ :=
      send_in_eq_ok hsend
    have htarget := correlation_id_digest hdigests hcorrelation
    obtain ⟨hsound, hretries⟩ := h.retry P server_id frame given target context.attempts.length
    have hkept := (retry_events_attempts (P := P) server_id frame given target
      (context.attempts.length + 1) context).1
    refine ⟨⟨hsound.trace_id, hsound.correlation_id, hsound.query_digest, ?_⟩, ?_⟩
    · show ∀ attempt ∈ _ ++ [_], _
      intro attempt hattempt
      rcases List.mem_append.mp hattempt with hold | hnew
      · rw [hkept] at hold
        exact h.attempts attempt hold
      · rw [List.mem_singleton.mp hnew]
        exact ⟨Nat.succ_pos _, hdigests _, htarget⟩
    · intro event hevent
      rcases List.mem_append.mp hevent with hretry | hquery
      · exact hretries event hretry
      · rw [List.mem_singleton.mp hquery]
        exact hsound.fields rfl rfl (hdigests _) (malformed_digest_some htarget) rfl
          (fun _ => rfl) (fun _ _ => rfl)
  | resolved pre attempt post fields hattempts hopen hfields =>
    -- an answer names an attempt that was sent, so its number is not 0
    have hattempt : attempt ∈ context.attempts := by
      rw [hattempts]
      exact List.mem_append_right _ List.mem_cons_self
    obtain ⟨hnumber, hquery, htarget⟩ := h.attempts attempt hattempt
    have hno : no_attempt (some attempt.number) = false := by
      unfold no_attempt
      simp
      omega
    refine ⟨?_, ?_⟩
    · rw [resolve_in_snd server_id context pre post attempt fields _ hattempts]
      refine ⟨h.trace_id, h.correlation_id, h.query_digest, ?_⟩
      show ∀ other ∈ pre ++ _ :: post, _
      intro other hother
      have hold : ∀ other ∈ pre ++ attempt :: post, 0 < other.number ∧
          is_digest other.query_digest = true ∧
          is_digest other.target_correlation_id = true := by
        rw [← hattempts]
        exact h.attempts
      rcases List.mem_append.mp hother with hpre | hpost
      · exact hold other (List.mem_append_left _ hpre)
      · rcases List.mem_cons.mp hpost with rfl | hpost
        · exact ⟨hnumber, hquery, htarget⟩
        · exact hold other (List.mem_append_right _ (List.mem_cons_of_mem _ hpost))
    · intro event hevent
      rw [List.mem_singleton.mp hevent]
      cases hfields with
      | response _ _ =>
        refine h.fields rfl rfl hquery (malformed_digest_some htarget)
          (malformed_digest_some (hdigests _)) (fun _ => rfl) ?_
        intro source _
        show rejectIf (false || false || no_attempt (some attempt.number) || false) _ = _
        rw [hno]
        rfl
      | failure _ _ =>
        refine h.fields rfl rfl hquery (malformed_digest_some htarget) rfl
          (is_reason_or (by decide)) ?_
        intro source _
        show rejectIf (no_attempt (some attempt.number) || false) _ = _
        rw [hno]
        rfl

/-- So does FINISH. -/
theorem Sound.finish (h : Sound context)
    (hfinish : finish_in P server_id frame given context = .ok events) :
    ∀ event ∈ events, Fields frame event := by
  obtain ⟨digest, hits, context₁, hdigest, hhits, rfl⟩ := finish_in_eq_ok hfinish
  have hcache := cache_object_digest_digest hdigests hdigest
  have hwire : malformed_digest (some (P.dns_wire_digest frame.wire)) = false :=
    malformed_digest_some (hdigests _)
  have hhit : Sound context₁ ∧ ∀ event ∈ hits, Fields frame event := by
    rcases cache_hit_event_eq_ok hhits with ⟨_, rfl, rfl⟩ | ⟨_, _, ttl, _, rfl, rfl⟩
    · exact ⟨h, fun _ hevent => (nomatch hevent)⟩
    · refine ⟨⟨h.trace_id, h.correlation_id, h.query_digest, h.attempts⟩, ?_⟩
      intro event hevent
      rw [List.mem_singleton.mp hevent]
      refine h.fields rfl rfl h.query_digest rfl hwire (fun _ => rfl) ?_
      intro source hsource
      show rejectIf (false || !is_digest digest || false || !is_digest (source _)) _ = _
      rw [hcache, hsource rfl]
      rfl
  obtain ⟨hsound, hevents⟩ := hhit
  intro event hevent
  rcases List.mem_append.mp hevent with hold | hlast
  · exact hevents event hold
  · rw [List.mem_singleton.mp hlast]
    by_cases hfailed : (frame.reason != "success") = true
    · simp only [hfailed, if_true]
      exact hsound.fields rfl rfl hsound.query_digest rfl hwire (is_reason_or (by decide))
        (fun _ _ => rfl)
    · simp only [hfailed, Bool.false_eq_true, if_false]
      refine hsound.fields rfl rfl hsound.query_digest rfl hwire (fun _ => rfl) ?_
      intro source _
      show rejectIf (false || (_ && !is_digest digest)) _ = _
      rw [hcache, Bool.not_true, Bool.and_false]
      rfl

/-! ## §3. Traces. -/

theorem History.fields (h : History P server_id context log) :
    Sound context ∧ ∀ emitted ∈ log, Fields emitted.frame emitted.event := by
  induction h with
  | begun frame given correlation_id _ hcorrelation =>
    obtain ⟨hsound, hfirst⟩ := sound_first hdigests server_id frame given hcorrelation
    refine ⟨hsound, ?_⟩
    intro emitted hemitted
    rw [List.mem_singleton.mp hemitted]
    exact hfirst
  | moved _ frame given events context' hmove ih =>
    obtain ⟨hsound, hevents⟩ := ih.1.move hdigests hmove
    refine ⟨hsound, ?_⟩
    intro emitted hemitted
    rcases List.mem_append.mp hemitted with hold | hnew
    · exact ih.2 emitted hold
    · obtain ⟨event, hevent, rfl⟩ := List.mem_map.mp hnew
      exact hevents event hevent

/-- The events of a trace have the fields of their kinds, whatever their frames. -/
theorem Past.fields (h : Past P server_id log) :
    ∀ emitted ∈ log, Fields emitted.frame emitted.event := by
  cases h with
  | none => exact fun _ hemitted => (nomatch hemitted)
  | «open» h => exact (h.fields hdigests).2
  | finished h =>
    cases h with
    | @mk context log h frame given events _ _ hfinish =>
      obtain ⟨hsound, hlog⟩ := h.fields hdigests
      intro emitted hemitted
      rcases List.mem_append.mp hemitted with hold | hnew
      · exact hlog emitted hold
      · obtain ⟨event, hevent, rfl⟩ := List.mem_map.mp hnew
        exact hsound.finish hdigests hfinish event hevent

/-! ## §4. The Agent's check. -/

/-- An event observed at a time inside the ingestion window of the Agent. -/
def InWindow (now : Int) (event : TraceEventV2) : Prop :=
  i64_wrap (now - 300) ≤ event.observed_at ∧ event.observed_at ≤ i64_wrap (now + 5)

instance (now : Int) (event : TraceEventV2) : Decidable (InWindow now event) :=
  inferInstanceAs (Decidable (_ ∧ _))

omit hdigests in
/-- The reason of a failure has the length the Agent accepts. -/
theorem Fields.reason_admitted (h : Fields frame event) (hreason : is_reason frame.reason = true) :
    event.failure_reason.any (fun reason => reason.isEmpty || 128 < reason.utf8ByteSize) =
      false := by
  have hall := h.failure_reason hreason
  cases hfailure : event.failure_reason with
  | none => rfl
  | some reason =>
    rw [hfailure] at hall
    obtain ⟨hnonempty, hsize⟩ := Bool.and_eq_true_iff.mp (show is_reason reason = true from hall)
    have hsize := of_decide_eq_true hsize
    rw [Bool.not_eq_true'] at hnonempty
    simp [hnonempty, hsize]

variable {trace_id correlation_id : String} {pre : List TraceEventV2}

/-- The id of a placed event has the length the Agent accepts. -/
theorem placed_id (hplace : Follows P server_id trace_id correlation_id pre event) :
    event.event_id.isEmpty = false ∧ event.event_id.utf8ByteSize ≤ 256 := by
  rw [hplace.id]
  exact is_digest_size (hdigests _)

/-- The sequence of a placed event agrees with its kind and its parent. -/
theorem placed_parent
    (hplaces : Justified (Follows P server_id trace_id correlation_id) (pre ++ [event])) :
    (event.sequence = 1 ↔ event.kind = .clientQuery) ∧
      (event.sequence = 1 → event.parent_event_id = none) ∧
      (1 < event.sequence → event.parent_event_id.all
        (fun parent => parent.isEmpty || 256 < parent.utf8ByteSize) = false) := by
  have hplace := hplaces pre event [] rfl
  have hsequence := hplace.sequence
  by_cases hpre : pre = []
  · obtain ⟨hkind, hparent⟩ := hplace.first hpre
    rw [hpre, List.length_nil, Nat.zero_add] at hsequence
    refine ⟨⟨fun _ => hkind, fun _ => hsequence⟩, fun _ => hparent, ?_⟩
    intro hlater
    omega
  · obtain ⟨hkind, parent, hmem, heq⟩ := hplace.parent hpre
    have hlength := List.length_pos_of_ne_nil hpre
    refine ⟨⟨?_, fun hquery => absurd hquery hkind⟩, ?_, ?_⟩
    · intro hone
      omega
    · intro hone
      omega
    · intro _
      obtain ⟨before, after, rfl⟩ := List.append_of_mem hmem
      obtain ⟨hempty, hsize⟩ :=
        placed_id hdigests (hplaces before parent (after ++ [event]) (by simp))
      rw [heq]
      simp [hempty, hsize]

/-- The Agent accepts an event with the fields of its kind, in its place and its window. -/
theorem validate_emitted {now : Int} {source : TraceEventV2 → String} (hfields : Fields frame event)
    (hreason : is_reason frame.reason = true)
    (hplaces : Justified (Follows P server_id trace_id correlation_id) (pre ++ [event]))
    (hwindow : InWindow now event) (hsource : Sourced source event) :
    validate_trace_event (enriched source event) server_id now = .ok () := by
  have hplace := hplaces pre event [] rfl
  obtain ⟨hid_empty, hid_size⟩ := placed_id hdigests hplace
  obtain ⟨hfirst, horphan, hparent⟩ := placed_parent hdigests hplaces
  have htrace := hfields.trace_id
  unfold is_trace_id at htrace
  rw [Bool.and_eq_true, Bool.not_eq_true', decide_eq_true_eq] at htrace
  -- all but the source digest is as it was emitted
  have hsame : enriched source event =
      { event with source_graph_digest := (enriched source event).source_graph_digest } := by
    unfold enriched
    split <;> rfl
  unfold validate_trace_event
  rw [hsame]
  simp only [bind_eq_ok, exists_unit, rejectIf_eq_ok]
  refine ⟨?_, ?_, ?_, ?_, ?_⟩
  · rw [hplace.schema, bne_self_eq_false]
  · rw [hplace.observer, hid_empty, htrace.1, hfields.correlation_id,
      hfields.target_correlation_id, hfields.query_digest, hfields.response_digest,
      hfields.reason_admitted hreason, hplace.sequence, decide_eq_false (Nat.not_lt.mpr hid_size),
      decide_eq_false (Nat.not_lt.mpr htrace.2)]
    simp
  · simp only [Bool.or_eq_false_iff, decide_eq_false_iff_not, Int.not_lt]
    exact hwindow
  · simp only [Bool.or_eq_false_iff]
    refine ⟨⟨?_, ?_⟩, ?_⟩
    · simp only [hfirst, bne_self_eq_false]
    · by_cases hone : event.sequence = 1
      · simp [horphan hone]
      · simp [hone]
    · by_cases hlater : 1 < event.sequence
      · simp only [hparent hlater, Bool.and_false]
      · simp [hlater]
  · rw [← hsame]
    exact hfields.kind source hsource

end Digests

end ResolverIdentity.Producer
