/-
  ResolverIdentity.Producer.Attempts: every upstream attempt accounted for.

  A context keeps its attempts in a list and marks the one an answer resolves.
  `Accounts` says what the list knows about the events emitted so far: the
  queries and the attempts match one to one, and an attempt has one answer if it
  is marked and none if it is not.  A RESPONSE names the attempt by endpoint and
  transaction id; a FAILURE takes the newest open one, whatever it names.

  Main results:
    * `Accounts.query`, `Accounts.answer`: one attempt more, one answer more;
    * `Past.accounts`: the account of every trace, finished or not;
    * `attempts_accounted_iff`: the whole law holds of exactly the runs whose FAILURE
      frames name the newest open attempt;
    * `failure_misattributed`: a run with two concurrent attempts.
-/
import ResolverIdentity.Core.Recorded
import ResolverIdentity.Producer.Sequences

namespace ResolverIdentity.Producer

open Library

variable {P : Platform} {server_id : String}

/-! ## §1. The law. -/

/-- The kinds that resolve an attempt. -/
def is_answer (kind : TraceEventKind) : Bool := kind = .upstreamResponse || kind = .upstreamTimeout

/-- The event answers the query with that id. -/
def resolves (query_event_id : String) (answer : TraceEventV2) : Bool :=
  is_answer answer.kind && answer.parent_event_id = some query_event_id

/-- An answer is about the query it names as its parent. -/
structure SameAttempt (answer query : TraceEventV2) : Prop where
  endpoint : answer.target_endpoint = query.target_endpoint
  target_correlation_id : answer.target_correlation_id = query.target_correlation_id
  attempt : answer.attempt = query.attempt
  query_digest : answer.query_digest = query.query_digest

/-- The answer goes to the endpoint its frame names. -/
def Named (answer : Emitted) : Prop :=
  ∃ named, endpoint answer.frame = .ok named ∧ answer.event.target_endpoint = some named

/-- Every attempt of the log is accounted for. -/
structure AttemptsAccounted (log : List Emitted) : Prop where
  once : ∀ query ∈ log, query.event.kind = .upstreamQuery →
    (of_trace query.event.trace_id log).countP
      (fun answer => resolves query.event.event_id answer.event) ≤ 1
  same : ∀ query ∈ log, query.event.kind = .upstreamQuery →
    ∀ answer ∈ of_trace query.event.trace_id log,
      resolves query.event.event_id answer.event = true → SameAttempt answer.event query.event
  query : ∀ answer ∈ log, is_answer answer.event.kind = true →
    ∃ query ∈ of_trace answer.event.trace_id log, query.event.kind = .upstreamQuery ∧
      resolves query.event.event_id answer.event = true
  named : ∀ answer ∈ log, is_answer answer.event.kind = true → Named answer

/-- SHA-256 does not collide on the ids of the events. -/
def NoCollision (P : Platform) (events : List TraceEventV2) : Prop :=
  ∀ event ∈ events, ∀ other ∈ events,
    event_id P event.trace_id event.sequence = event_id P other.trace_id other.sequence →
    event.trace_id = other.trace_id ∧ event.sequence = other.sequence

/-! ## §2. The account of one trace. -/

/-- The event carries the attempt's data. -/
structure Attempt.Recorded (attempt : Attempt) (event : TraceEventV2) : Prop where
  endpoint : event.target_endpoint = some attempt.endpoint
  target_correlation_id : event.target_correlation_id = some attempt.target_correlation_id
  number : event.attempt = some attempt.number
  query_digest : event.query_digest = attempt.query_digest

theorem Attempt.Recorded.same {attempt : Attempt} {answer query : TraceEventV2}
    (h : attempt.Recorded answer) (h' : attempt.Recorded query) : SameAttempt answer query :=
  ⟨h.endpoint.trans h'.endpoint.symm,
    h.target_correlation_id.trans h'.target_correlation_id.symm,
    h.number.trans h'.number.symm, h.query_digest.trans h'.query_digest.symm⟩

/-- What the attempts of a context know about the events of its trace. -/
structure Accounts (attempts : List Attempt) (events : List TraceEventV2) : Prop where
  ids : (attempts.map Attempt.event_id).Nodup
  queries : ∀ event ∈ events, event.kind = .upstreamQuery →
    ∃ attempt ∈ attempts, attempt.event_id = event.event_id ∧ attempt.Recorded event
  answers : ∀ event ∈ events, is_answer event.kind = true →
    ∃ attempt ∈ attempts, attempt.resolved = true ∧
      event.parent_event_id = some attempt.event_id ∧ attempt.Recorded event
  sources : ∀ attempt ∈ attempts, ∃ event ∈ events, event.kind = .upstreamQuery ∧
    event.event_id = attempt.event_id ∧ attempt.Recorded event
  count : ∀ attempt ∈ attempts,
    events.countP (resolves attempt.event_id) = if attempt.resolved then 1 else 0

theorem Accounts.nil : Accounts [] [] :=
  ⟨List.nodup_nil, fun _ h => (nomatch h), fun _ h => (nomatch h), fun _ h => (nomatch h),
    fun _ h => (nomatch h)⟩

variable {attempts : List Attempt} {events : List TraceEventV2} {event : TraceEventV2}

/-- An event that is neither a query nor an answer. -/
theorem Accounts.neutral (h : Accounts attempts events) (hquery : event.kind ≠ .upstreamQuery)
    (hanswer : is_answer event.kind = false) : Accounts attempts (events ++ [event]) where
  ids := h.ids
  queries := by
    intro other hother hkind
    rcases List.mem_append.mp hother with hold | hnew
    · exact h.queries other hold hkind
    · rw [List.mem_singleton.mp hnew] at hkind
      exact absurd hkind hquery
  answers := by
    intro other hother hkind
    rcases List.mem_append.mp hother with hold | hnew
    · exact h.answers other hold hkind
    · rw [List.mem_singleton.mp hnew, hanswer] at hkind
      cases hkind
  sources := by
    intro attempt hattempt
    obtain ⟨source, hsource, hrest⟩ := h.sources attempt hattempt
    exact ⟨source, List.mem_append_left _ hsource, hrest⟩
  count := by
    intro attempt hattempt
    rw [List.countP_append, h.count attempt hattempt, List.countP_singleton]
    simp [resolves, hanswer]

/-- A query, and the attempt it opens. -/
theorem Accounts.query (h : Accounts attempts events) {attempt : Attempt}
    (hkind : event.kind = .upstreamQuery) (hid : event.event_id = attempt.event_id)
    (hrecorded : attempt.Recorded event) (hopen : attempt.resolved = false)
    (hnew : ∀ old ∈ attempts, old.event_id ≠ attempt.event_id) :
    Accounts (attempts ++ [attempt]) (events ++ [event]) where
  ids := by
    rw [List.map_append, List.map_singleton, List.nodup_append]
    refine ⟨h.ids, List.nodup_singleton _, ?_⟩
    intro id hmem other hother
    obtain ⟨old, hold, rfl⟩ := List.mem_map.mp hmem
    rw [List.mem_singleton.mp hother]
    exact hnew old hold
  queries := by
    intro other hother hquery
    rcases List.mem_append.mp hother with hold | hlast
    · obtain ⟨found, hfound, hrest⟩ := h.queries other hold hquery
      exact ⟨found, List.mem_append_left _ hfound, hrest⟩
    · rw [List.mem_singleton.mp hlast]
      exact ⟨attempt, List.mem_append_right _ (List.mem_singleton.mpr rfl), hid.symm, hrecorded⟩
  answers := by
    intro other hother hanswer
    rcases List.mem_append.mp hother with hold | hlast
    · obtain ⟨found, hfound, hrest⟩ := h.answers other hold hanswer
      exact ⟨found, List.mem_append_left _ hfound, hrest⟩
    · rw [List.mem_singleton.mp hlast, hkind] at hanswer
      cases hanswer
  sources := by
    intro other hother
    rcases List.mem_append.mp hother with hold | hlast
    · obtain ⟨source, hsource, hrest⟩ := h.sources other hold
      exact ⟨source, List.mem_append_left _ hsource, hrest⟩
    · rw [List.mem_singleton.mp hlast]
      exact ⟨event, List.mem_append_right _ (List.mem_singleton.mpr rfl), hkind, hid, hrecorded⟩
  count := by
    intro other hother
    have hlast : [event].countP (resolves other.event_id) = 0 := by
      rw [List.countP_singleton]
      simp [resolves, hkind, is_answer]
    rw [List.countP_append, hlast, Nat.add_zero]
    rcases List.mem_append.mp hother with hold | hnewest
    · exact h.count other hold
    · rw [List.mem_singleton.mp hnewest, hopen]
      -- an earlier answer names an earlier attempt
      refine List.countP_eq_zero.mpr ?_
      intro answer hanswer hresolves
      obtain ⟨hkind', hparent⟩ := Bool.and_eq_true_iff.mp hresolves
      obtain ⟨old, hold, _, hparent', _⟩ := h.answers answer hanswer hkind'
      rw [of_decide_eq_true hparent] at hparent'
      exact hnew old hold (Option.some.inj hparent').symm

/-- An answer, and the attempt it resolves. -/
theorem Accounts.answer {pre post : List Attempt} {attempt : Attempt}
    (h : Accounts (pre ++ attempt :: post) events) (hopen : attempt.resolved = false)
    (hanswer : is_answer event.kind = true) (hparent : event.parent_event_id = some attempt.event_id)
    (hrecorded : attempt.Recorded event) :
    Accounts (pre ++ { attempt with resolved := true } :: post) (events ++ [event]) := by
  -- the same attempts but for the mark
  have hback : ∀ other ∈ pre ++ { attempt with resolved := true } :: post,
      (other = { attempt with resolved := true } ∨
        other ∈ pre ++ attempt :: post ∧ other.event_id ≠ attempt.event_id) := by
    intro other hother
    have hids := h.ids
    rw [List.map_append, List.map_cons, List.nodup_append] at hids
    rcases List.mem_append.mp hother with hpre | hpost
    · refine Or.inr ⟨List.mem_append_left _ hpre, ?_⟩
      exact hids.2.2 _ (List.mem_map_of_mem hpre) _ List.mem_cons_self
    · rcases List.mem_cons.mp hpost with rfl | hpost
      · exact Or.inl rfl
      · refine Or.inr ⟨List.mem_append_right _ (List.mem_cons_of_mem _ hpost), ?_⟩
        intro heq
        exact (List.nodup_cons.mp hids.2.1).1 (heq ▸ List.mem_map_of_mem hpost)
  have hforth : ∀ other ∈ pre ++ attempt :: post, ∃ marked ∈
      pre ++ { attempt with resolved := true } :: post, marked.event_id = other.event_id ∧
        (other.resolved = true → marked.resolved = true) ∧
        ∀ e, other.Recorded e → marked.Recorded e := by
    intro other hother
    rcases List.mem_append.mp hother with hpre | hpost
    · exact ⟨other, List.mem_append_left _ hpre, rfl, fun h => h, fun _ h => h⟩
    · rcases List.mem_cons.mp hpost with rfl | hpost
      · exact ⟨{ other with resolved := true }, List.mem_append_right _ List.mem_cons_self, rfl,
          fun _ => rfl, fun _ h => ⟨h.endpoint, h.target_correlation_id, h.number, h.query_digest⟩⟩
      · exact ⟨other, List.mem_append_right _ (List.mem_cons_of_mem _ hpost), rfl, fun h => h,
          fun _ h => h⟩
  have hmem : attempt ∈ pre ++ attempt :: post := List.mem_append_right _ List.mem_cons_self
  refine ⟨?_, ?_, ?_, ?_, ?_⟩
  · have hids := h.ids
    rw [List.map_append, List.map_cons] at hids ⊢
    exact hids
  · intro other hother hquery
    rcases List.mem_append.mp hother with hold | hlast
    · obtain ⟨found, hfound, hid, hfields⟩ := h.queries other hold hquery
      obtain ⟨marked, hmarked, hid', _, hfields'⟩ := hforth found hfound
      exact ⟨marked, hmarked, hid'.trans hid, hfields' other hfields⟩
    · rw [List.mem_singleton.mp hlast] at hquery
      rw [hquery] at hanswer
      cases hanswer
  · intro other hother hkind
    rcases List.mem_append.mp hother with hold | hlast
    · obtain ⟨found, hfound, hresolved, hparent', hfields⟩ := h.answers other hold hkind
      obtain ⟨marked, hmarked, hid', hresolved', hfields'⟩ := hforth found hfound
      exact ⟨marked, hmarked, hresolved' hresolved, by rw [hid']; exact hparent',
        hfields' other hfields⟩
    · rw [List.mem_singleton.mp hlast]
      exact ⟨{ attempt with resolved := true }, List.mem_append_right _ List.mem_cons_self, rfl,
        hparent, ⟨hrecorded.endpoint, hrecorded.target_correlation_id, hrecorded.number,
          hrecorded.query_digest⟩⟩
  · intro other hother
    rcases hback other hother with rfl | ⟨hold, _⟩
    · obtain ⟨source, hsource, hkind, hid, hfields⟩ := h.sources attempt hmem
      exact ⟨source, List.mem_append_left _ hsource, hkind, hid,
        ⟨hfields.endpoint, hfields.target_correlation_id, hfields.number, hfields.query_digest⟩⟩
    · obtain ⟨source, hsource, hrest⟩ := h.sources other hold
      exact ⟨source, List.mem_append_left _ hsource, hrest⟩
  · intro other hother
    rw [List.countP_append, List.countP_singleton]
    rcases hback other hother with rfl | ⟨hold, hne⟩
    · show events.countP (resolves attempt.event_id) + _ = 1
      rw [h.count attempt hmem, hopen]
      simp [resolves, hanswer, hparent]
    · rw [h.count other hold]
      simp [resolves, hparent, Ne.symm hne]

/-- Events that are neither queries nor answers. -/
theorem Accounts.neutrals (h : Accounts attempts events) {added : List TraceEventV2}
    (hadded : ∀ event ∈ added, event.kind ≠ .upstreamQuery ∧ is_answer event.kind = false) :
    Accounts attempts (events ++ added) := by
  induction added using List.reverseRecOn with
  | nil => rwa [List.append_nil]
  | append_singleton added event ih =>
    have hlast := hadded event (List.mem_append_right _ (List.mem_singleton.mpr rfl))
    rw [← List.append_assoc]
    refine Accounts.neutral (ih ?_) hlast.1 hlast.2
    intro other hother
    exact hadded other (List.mem_append_left _ hother)

/-! ## §3. The account of a history. -/

variable {frame : HookFrame} {given : Given} {context context' : RequestContext}
  {log : List Emitted}

theorem retry_events_kinds (server_id : String) (frame : HookFrame) (given : Given)
    (target : DnsEndpoint) (attempt : Nat) (context : RequestContext) :
    ∀ event ∈ (retry_events P server_id frame given target attempt context).1,
      event.kind ≠ .upstreamQuery ∧ is_answer event.kind = false := by
  intro event hevent
  rcases retry_events_cases P frame given server_id target attempt context with
    hretry | hretry | hretry
  all_goals
    rw [hretry] at hevent
    simp only [List.mem_cons, List.not_mem_nil, or_false] at hevent
  · rw [hevent]
    exact ⟨by simp [next_event, causal_event], rfl⟩
  · rcases hevent with rfl | rfl
    · exact ⟨by simp [next_event, causal_event], rfl⟩
    · exact ⟨by simp [next_event, causal_event], rfl⟩

theorem finish_in_kinds (h : finish_in P server_id frame given context = .ok events) :
    ∀ event ∈ events, event.kind ≠ .upstreamQuery ∧ is_answer event.kind = false := by
  obtain ⟨digest, hits, context₁, _, hhits, rfl⟩ := finish_in_eq_ok h
  intro event hevent
  rcases List.mem_append.mp hevent with hhit | hlast
  · rcases cache_hit_event_eq_ok hhits with ⟨_, rfl, _⟩ | ⟨_, _, ttl, _, rfl, _⟩
    · cases hhit
    · rw [List.mem_singleton.mp hhit]
      exact ⟨by simp [next_event, causal_event], rfl⟩
  · rw [List.mem_singleton.mp hlast]
    by_cases hreason : (frame.reason != "success") = true
    · rw [if_pos hreason]
      simp [next_event, causal_event, hreason, is_answer]
    · rw [if_neg hreason]
      simp [next_event, causal_event, hreason, is_answer]

theorem NoCollision.mono {events more : List TraceEventV2} (h : NoCollision P more)
    (hsub : ∀ event ∈ events, event ∈ more) : NoCollision P events :=
  fun event hevent other hother => h event (hsub event hevent) other (hsub other hother)

/-- The events of a trace carry different sequence numbers, those before the last lower. -/
theorem sequence_le {trace_id correlation_id : String}
    (h : Justified (Follows P server_id trace_id correlation_id) events) {event : TraceEventV2}
    (hevent : event ∈ events) : event.sequence ≤ events.length ∧ event.trace_id = trace_id ∧
      event.event_id = event_id P trace_id event.sequence := by
  obtain ⟨pre, post, rfl⟩ := List.append_of_mem hevent
  have hplace := h pre event post rfl
  refine ⟨?_, hplace.trace, hplace.id⟩
  rw [hplace.sequence, List.length_append, List.length_cons]
  omega

/-- The id of a context's next event is none of its attempts'. -/
theorem fresh_event_id {log : List TraceEventV2} (h : Spine P server_id context log)
    {trace_id correlation_id : String} {added : List TraceEventV2} {event : TraceEventV2}
    (hfollows : Follows P server_id trace_id correlation_id (log ++ added) event)
    (hcollision : NoCollision P (log ++ added ++ [event])) :
    ∀ old ∈ context.attempts, old.event_id ≠ event.event_id := by
  intro old hold heq
  obtain ⟨source, hsource, hid⟩ := h.attempts old hold
  obtain ⟨hle, hown, hsource_id⟩ := sequence_le h.follows hsource
  have hsame := (hcollision source (by simp [hsource]) event (by simp) (by
    rw [hown, hfollows.trace, ← hsource_id, ← hfollows.id, hid, heq])).2
  rw [hsame, hfollows.sequence, List.length_append] at hle
  omega

/-- One frame keeps the account. -/
theorem Accounts.move {log : List TraceEventV2} (h : Accounts context.attempts log)
    (hspine : Spine P server_id context log) (hbudget : Budget context log.length)
    (hmove : Move P server_id frame given context events context')
    (hcollision : NoCollision P (log ++ events)) : Accounts context'.attempts (log ++ events) := by
  have hspine' := (hspine.move hbudget hmove).1
  cases hmove with
  | sent target events context' _ _ _ hsend =>
    obtain ⟨_, target_correlation_id, transaction_id, _, _, rfl, rfl⟩ := send_in_eq_ok hsend
    have hkept := (retry_events_attempts (P := P) server_id frame given target
      (context.attempts.length + 1) context).1
    have hretries := h.neutrals (retry_events_kinds (P := P) server_id frame given target
      (context.attempts.length + 1) context)
    rw [← List.append_assoc] at hspine' hcollision ⊢
    have hfresh := fresh_event_id hspine (hspine'.follows _ _ [] rfl) hcollision
    show Accounts (_ ++ [_]) _
    rw [hkept]
    exact hretries.query rfl rfl ⟨rfl, rfl, rfl, rfl⟩ rfl hfresh
  | resolved pre attempt post fields hattempts hopen hfields =>
    rw [resolve_in_snd server_id context pre post attempt fields _ hattempts]
    rw [hattempts] at h
    refine h.answer hopen ?_ rfl ⟨rfl, rfl, rfl, rfl⟩
    cases hfields <;> rfl

theorem History.accounts (h : History P server_id context log)
    (hcollision : NoCollision P (log.map Emitted.event)) :
    Accounts context.attempts (log.map Emitted.event) := by
  induction h with
  | begun frame given correlation_id _ _ =>
    exact Accounts.nil.neutral (by simp [first_event]) rfl
  | moved h frame given events context' hmove ih =>
    rw [List.map_append, List.map_map, show Emitted.event ∘ Emitted.mk frame = id from rfl,
      List.map_id] at hcollision ⊢
    obtain ⟨hspine, hbudget⟩ := h.spine
    have hbefore := ih (hcollision.mono fun event hevent => List.mem_append_left _ hevent)
    rw [← List.length_map Emitted.event] at hbudget
    exact hbefore.move hspine hbudget hmove hcollision

/-- The account of a trace, finished or not. -/
theorem Past.accounts (h : Past P server_id log)
    (hcollision : NoCollision P (log.map Emitted.event)) :
    ∃ attempts, Accounts attempts (log.map Emitted.event) := by
  cases h with
  | none => exact ⟨[], Accounts.nil⟩
  | «open» h => exact ⟨_, h.accounts hcollision⟩
  | finished h =>
    cases h with
    | @mk context log h frame given events _ _ hfinish =>
      rw [List.map_append, List.map_map, show Emitted.event ∘ Emitted.mk frame = id from rfl,
        List.map_id] at hcollision ⊢
      have hbefore := h.accounts (hcollision.mono fun event hevent => List.mem_append_left _ hevent)
      exact ⟨context.attempts, hbefore.neutrals (finish_in_kinds hfinish)⟩

/-! ## §4. Runs. -/

/-- A FAILURE names the endpoint of the newest open attempt of its context. -/
def NamesNewest (r : Recorder) : Input → Prop
  | .hook frame _ => frame.kind = .failure → ∀ context pre attempt post,
    r.machine.contexts.lookup frame.key = some context →
    context.attempts = pre ++ attempt :: post → attempt.resolved = false →
    (∀ newer ∈ post, newer.resolved = true) → endpoint frame = .ok attempt.endpoint
  | .abort _ => True

theorem rposition_split {α : Type} {p : α → Bool} {a : α} (pre : List α) {post : List α}
    (ha : p a = true) (hpost : ∀ b ∈ post, p b = false) :
    rposition p (pre ++ a :: post) = some pre.length := by
  induction pre with
  | nil =>
    show rposition p (a :: post) = some 0
    unfold rposition
    rw [rposition_eq_none.mpr hpost]
    exact if_pos ha
  | cons b pre ih =>
    show rposition p (b :: (pre ++ a :: post)) = _
    unfold rposition
    rw [ih]
    rfl

variable {m : TraceMachine} {r : Recorder}

/-- A FAILURE resolves the newest open attempt of its context; none is refused. -/
theorem failure_accepted (given : Given) {pre post : List Attempt} {attempt : Attempt}
    (hkind : frame.kind = .failure) (hlive : m.contexts.lookup frame.key = some context)
    (hattempts : context.attempts = pre ++ attempt :: post) (hopen : attempt.resolved = false)
    (hnewer : ∀ newer ∈ post, newer.resolved = true) :
    let resolved := resolve_in P m.server_id context pre.length attempt
      { kind := .upstreamTimeout
        dnssec_status := frame.dnssec_status
        failure_reason := some (reason_or frame "transport-failure") } (given.unix_time 0)
    m.process P frame given = (.ok (.events [resolved.1]), m.store frame.key resolved.2) := by
  have hpick : pick (fun attempt => !attempt.resolved) context.attempts =
      some (pre.length, attempt) := by
    unfold pick
    rw [hattempts, rposition_split pre (by rw [hopen]; rfl)
      (fun newer hmem => by rw [hnewer newer hmem]; rfl)]
    simp
  unfold TraceMachine.process TraceMachine.failure TraceMachine.with_context failure_in
  rw [hkind, hlive]
  simp only [hpick]
  rfl

/-- The answers a frame emits go where it says, but that a FAILURE must name the newest
open attempt. -/
theorem named_take {input : Input} :
    (∀ answer ∈ (r.take P input).log, is_answer answer.event.kind = true → Named answer) ↔
      (∀ answer ∈ r.log, is_answer answer.event.kind = true → Named answer) ∧
        NamesNewest r input := by
  cases input with
  | abort key => exact ⟨fun h => ⟨h, trivial⟩, fun h => h.1⟩
  | hook frame given =>
    constructor
    · intro hnamed
      refine ⟨?_, ?_⟩
      · intro answer hanswer
        exact hnamed answer (mem_take hanswer _)
      · -- a failure that is accepted says which attempt it resolves
        intro hkind context pre attempt post hlive hattempts hopen hnewer
        have hprocess := failure_accepted (P := P) given hkind hlive hattempts hopen
          hnewer
        unfold Recorder.take at hnamed
        simp only [hprocess] at hnamed
        obtain ⟨named, hendpoint, htarget⟩ := hnamed ⟨frame, _⟩
          (List.mem_append_right _ (List.mem_singleton.mpr rfl)) rfl
        rw [hendpoint, ← Option.some.inj htarget]
    · rintro ⟨hnamed, hnewest⟩ answer hanswer hkind
      rcases take_hook (P := P) r frame given with ⟨output, m', haccepted, heq⟩ | ⟨m', heq, _⟩
      · rw [heq] at hanswer
        rcases List.mem_append.mp hanswer with hold | hnew
        · exact hnamed answer hold hkind
        · obtain ⟨event, hevent, rfl⟩ := List.mem_map.mp hnew
          cases haccepted with
          | begun correlation_id _ _ _ _ =>
            rw [List.mem_singleton.mp hevent] at hkind
            cases hkind
          | moved context events context' _ hlive hmove =>
            cases hmove with
            | sent target events context' _ _ _ hsend =>
              obtain ⟨_, target_correlation_id, transaction_id, _, _, rfl, _⟩ :=
                send_in_eq_ok hsend
              rcases List.mem_append.mp hevent with hretry | hquery
              · rw [(retry_events_kinds _ _ _ _ _ _ event hretry).2] at hkind
                cases hkind
              · rw [List.mem_singleton.mp hquery] at hkind
                cases hkind
            | resolved pre attempt post fields hattempts hopen hfields =>
              -- the one answer of the frame
              rw [List.mem_singleton.mp hevent]
              refine ⟨attempt.endpoint, ?_, rfl⟩
              cases hfields with
              | response hendpoint _ => exact hendpoint
              | failure hnewer hfailure =>
                exact hnewest hfailure context pre attempt post hlive hattempts hopen hnewer
          | finished context events _ _ _ hfinish =>
            rw [(finish_in_kinds hfinish event hevent).2] at hkind
            cases hkind
      · rw [heq] at hanswer
        exact hnamed answer hanswer hkind

/-- The answers of a run go where their frames say in exactly the runs whose FAILURE frames
name the newest open attempt. -/
theorem named_iff_along {inputs : List Input} (hrun : (producer P m).run inputs = some r) :
    (∀ answer ∈ r.log, is_answer answer.event.kind = true → Named answer) ↔
      (producer P m).Along NamesNewest inputs := by
  refine Machine.run_induction (M := producer P m) (motive := fun inputs r =>
    (∀ answer ∈ r.log, is_answer answer.event.kind = true → Named answer) ↔
      (producer P m).Along NamesNewest inputs) ?_ ?_ hrun
  · exact ⟨fun _ => Machine.along_nil _, fun _ _ hanswer => (nomatch hanswer)⟩
  · intro inputs r input r' hrun ih hstep
    obtain rfl : r.take P input = r' := Option.some.inj hstep
    rw [named_take, ih, Machine.along_snoc_iff hrun]

/-- Every upstream attempt of a run is accounted for, with the endpoints its frames name, in
exactly the runs whose FAILURE frames name the newest open attempt. -/
theorem attempts_accounted_iff {max_contexts : Nat}
    (hnew : TraceMachine.new server_id max_contexts = .ok m) {inputs : List Input}
    (hrun : (producer P m).run inputs = some r) (hdistinct : DistinctTraceIds inputs)
    (hcollision : NoCollision P (r.log.map Emitted.event)) :
    AttemptsAccounted r.log ↔ (producer P m).Along NamesNewest inputs := by
  rw [← named_iff_along hrun]
  refine ⟨AttemptsAccounted.named, ?_⟩
  intro hnamed
  have htraces := (traces_of_run hnew hrun hdistinct).1
  have hpart : ∀ trace_id emitted, emitted ∈ of_trace trace_id r.log → emitted ∈ r.log :=
    fun trace_id emitted hemitted => (mem_of_trace.mp hemitted).1
  have haccounts : ∀ trace_id, ∃ attempts,
      Accounts attempts ((of_trace trace_id r.log).map Emitted.event) := by
    intro trace_id
    refine (htraces.past_of_trace trace_id).accounts (hcollision.mono ?_)
    intro event hevent
    obtain ⟨emitted, hemitted, rfl⟩ := List.mem_map.mp hevent
    exact List.mem_map_of_mem (hpart trace_id emitted hemitted)
  have hmem : ∀ emitted ∈ r.log, emitted.event ∈
      (of_trace emitted.event.trace_id r.log).map Emitted.event :=
    fun emitted hemitted => List.mem_map_of_mem (mem_of_trace.mpr ⟨hemitted, rfl⟩)
  refine ⟨?_, ?_, ?_, hnamed⟩
  · intro query hquery hkind
    obtain ⟨attempts, h⟩ := haccounts query.event.trace_id
    obtain ⟨attempt, hattempt, hid, _⟩ := h.queries query.event (hmem query hquery) hkind
    have hcount := h.count attempt hattempt
    rw [List.countP_map, hid] at hcount
    rw [show (fun answer => resolves query.event.event_id answer.event) =
      resolves query.event.event_id ∘ Emitted.event from rfl, hcount]
    split <;> omega
  · intro query hquery hkind answer hanswer hresolves
    obtain ⟨attempts, h⟩ := haccounts query.event.trace_id
    obtain ⟨attempt, hattempt, hid, hrecorded⟩ :=
      h.queries query.event (hmem query hquery) hkind
    obtain ⟨hanswer_kind, hparent⟩ := Bool.and_eq_true_iff.mp hresolves
    obtain ⟨other, hother, _, hother_parent, hother_recorded⟩ :=
      h.answers answer.event (List.mem_map_of_mem hanswer) hanswer_kind
    -- the ids of the attempts are distinct, so both name the same one
    rw [of_decide_eq_true hparent, ← hid] at hother_parent
    obtain rfl := List.inj_on_of_nodup_map h.ids hattempt hother
      (Option.some.inj hother_parent)
    exact hother_recorded.same hrecorded
  · intro answer hanswer hkind
    obtain ⟨attempts, h⟩ := haccounts answer.event.trace_id
    obtain ⟨attempt, hattempt, _, hparent, _⟩ := h.answers answer.event (hmem answer hanswer) hkind
    obtain ⟨source, hsource, hsource_kind, hid, _⟩ := h.sources attempt hattempt
    obtain ⟨query, hquery, rfl⟩ := List.mem_map.mp hsource
    refine ⟨query, hquery, hsource_kind, ?_⟩
    unfold resolves
    rw [hkind, hparent, hid]
    simp

/-! ## §5. Concurrent attempts. -/

instance (events : List TraceEventV2) : Decidable (NoCollision P events) :=
  inferInstanceAs (Decidable (∀ event ∈ events, ∀ other ∈ events,
    event_id P event.trace_id event.sequence = event_id P other.trace_id other.sequence →
      event.trace_id = other.trace_id ∧ event.sequence = other.sequence))

/-- SHA-256 of the event texts of the runs below, and of their messages. -/
def recorded_hooks : Recording where
  digests := [
    ("knot-trace-event-v1:knot-aaaaaaaaaaaaaaaaaaaaaaaaaaaaaaaa:1",
      "0x56e06a0694bda299b5eee2778e16dfd5c1ff0ebe2549ce3d71477519228150f3"),
    ("knot-trace-event-v1:knot-aaaaaaaaaaaaaaaaaaaaaaaaaaaaaaaa:2",
      "0xb27ddc8d4db009d86ca1aa2a31b5ae4b2ae43363dd46473946d420c92bb7cec1"),
    ("knot-trace-event-v1:knot-aaaaaaaaaaaaaaaaaaaaaaaaaaaaaaaa:3",
      "0xcd06e4ad7d171dff3560f50c5b8ef26dddb44a11ac77b11359431efde4988156"),
    ("knot-trace-event-v1:knot-aaaaaaaaaaaaaaaaaaaaaaaaaaaaaaaa:4",
      "0x6a9a5a56b24abd280cb5b4b9e540416ee81bf3d53fb528994ad987e6c1871761"),
    ("knot-trace-event-v1:knot-aaaaaaaaaaaaaaaaaaaaaaaaaaaaaaaa:5",
      "0x3650bcd0e5f41e5f1d2a8ba5e42961616e0142855db2aaa659a66c851413285e"),
    ("knot-trace-event-v1:knot-aaaaaaaaaaaaaaaaaaaaaaaaaaaaaaaa:6",
      "0x97fcd25c427bd1dd7b644311eab40f407d00a8fd24c74b48064ca163dd2ae86c"),
    ("knot-trace-event-v1:knot-aaaaaaaaaaaaaaaaaaaaaaaaaaaaaaaa:7",
      "0x51ee4fdd94686d2a2a3236140e73eb3f1e91acb852b3ccaf847b530615f22499"),
    ("knot-trace-event-v1:knot-aaaaaaaaaaaaaaaaaaaaaaaaaaaaaaaa:8",
      "0xac4b0b1b82ea5310cb0da9e29ef46ff4946965e9caf3c1149cd7f2d9a6146a65")] ++ wire_digests
  keys := []
  signatures := []

/-- A frame of the request 1 of process 1; the upstream is named by its address. -/
def recorded_hook (kind : HookKind) (address : Option String) (reason : String)
    (wire : List UInt8) : Input :=
  .hook ⟨kind, ⟨1, 1⟩, "udp", address, 53, .insecure, reason, wire⟩
    ⟨Vector.replicate 16 170, fun _ => 1753142400⟩

/-- Two upstreams are asked at once. -/
def raced : List Input :=
  [recorded_hook .begin none "" (query_wire 7),
    recorded_hook .send (some "192.0.2.1") "" (query_wire 8),
    recorded_hook .send (some "192.0.2.2") "" (query_wire 9)]

/-- The one asked first fails. -/
def first_failed : List Input :=
  raced ++ [recorded_hook .failure (some "192.0.2.1") "timeout" []]

/-- The one asked last fails, and the first answers. -/
def last_failed : List Input :=
  raced ++ [recorded_hook .failure (some "192.0.2.2") "timeout" [],
    recorded_hook .response (some "192.0.2.1") "received" (answer_wire 8),
    recorded_hook .finish none "success" (answer_wire 7)]

/-- A new machine of the server `resolver`. -/
def recorded_machine : TraceMachine := ⟨"resolver", 2, ∅⟩

/-- What a new machine has emitted after the inputs. -/
def recorded_log (inputs : List Input) : List Emitted :=
  (inputs.foldl (Recorder.take recorded_hooks.platform) ⟨recorded_machine, []⟩).log

theorem attempts_accounted_last_failed :
    AttemptsAccounted (recorded_log last_failed) ↔
      (producer recorded_hooks.platform recorded_machine).Along NamesNewest last_failed :=
  attempts_accounted_iff (m := recorded_machine) (rfl : TraceMachine.new "resolver" 2 = _)
    (run_producer recorded_hooks.platform recorded_machine last_failed) (by decide +kernel) (by decide +kernel)

/-- Every run accounts for its attempts. -/
def AlwaysAccounted (P : Platform) : Prop :=
  ∀ server_id max_contexts m inputs r, TraceMachine.new server_id max_contexts = .ok m →
    (producer P m).run inputs = some r → DistinctTraceIds inputs →
    NoCollision P (r.log.map Emitted.event) → AttemptsAccounted r.log

/-- The failure of the first upstream is reported as a timeout of the second. -/
theorem failure_misattributed : ¬ AlwaysAccounted recorded_hooks.platform := by
  intro h
  have haccounted := h "resolver" 2 recorded_machine first_failed _ rfl
    (run_producer recorded_hooks.platform recorded_machine first_failed) (by decide +kernel) (by decide +kernel)
  have hnamed : ∀ answer ∈ recorded_log first_failed, is_answer answer.event.kind = true →
      ((endpoint answer.frame).toOption == answer.event.target_endpoint) = true := by
    intro answer hanswer hkind
    obtain ⟨named, hendpoint, htarget⟩ := haccounted.named answer hanswer hkind
    rw [hendpoint, htarget]
    exact beq_self_eq_true _
  revert hnamed
  decide +kernel

end ResolverIdentity.Producer
