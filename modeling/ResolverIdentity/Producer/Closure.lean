/-
  ResolverIdentity.Producer.Closure: traces reported as successful.

  FINISH removes its context whatever attempts are still open.  A trace whose
  ClientResponse says success is closed when every query of it has exactly one
  answer, which is what the Agent's pairing of outbound queries asks for.

  Main results:
    * `closed_iff_resolved`: a trace is closed when its context has no open attempt;
    * `successful_closed_iff`: the law holds of exactly the runs whose successful
      FINISH frames find no open attempt;
    * `race_left_open`, `race_not_built`: the first of two upstreams answers.
-/
import ResolverIdentity.Agent.Pairing
import ResolverIdentity.Producer.Attempts

namespace ResolverIdentity.Producer

open Library Agent

variable {P : Platform} {server_id : String} {frame : HookFrame} {given : Given}
  {context context' : RequestContext} {log : List Emitted} {events : List TraceEventV2}
  {attempts : List Attempt}

/-! ## §1. The law. -/

/-- Every query of the trace has one answer, and the Agent pairs its outbound queries. -/
structure ClosedTrace (events : List TraceEventV2) : Prop where
  once : ∀ query ∈ events, query.kind = .upstreamQuery →
    events.countP (resolves query.event_id) = 1
  paired : ∀ config request self_record, ∃ paired,
    pair_all (initial_assembly self_record events)
      (events.filter (is_outbound config request)) = .ok paired

/-- Every trace that ended in a ClientResponse is closed. -/
def SuccessfulClosed (log : List Emitted) : Prop :=
  ∀ answer ∈ log, answer.event.kind = .clientResponse →
    ClosedTrace ((of_trace answer.event.trace_id log).map Emitted.event)

/-- A successful FINISH, its wire well formed, finds no open attempt in its context. -/
def FinishesResolved (P : Platform) (r : Recorder) : Input → Prop
  | .hook frame _ => frame.kind = .finish → frame.reason = "success" →
    validate_dns_wire frame.wire = .ok () →
    (∃ digest, P.dns_cache_object_digest frame.wire = .ok digest) →
    ∀ context, r.machine.contexts.lookup frame.key = some context →
    ∀ attempt ∈ context.attempts, attempt.resolved = true
  | .abort _ => True

/-! ## §2. One trace. -/

/-- The kinds a producer emits: no query of the older kinds. -/
def is_produced (kind : TraceEventKind) : Bool := kind != .resolverQuery && kind != .authorityQuery

/-- An answer comes after its query and says the same. -/
theorem agrees_of_accounts {trace_id correlation_id : String}
    (hplaces : Justified (Follows P server_id trace_id correlation_id) events)
    (hcollision : NoCollision P events) (haccounts : Accounts attempts events)
    {query answer : TraceEventV2} (hquery : query ∈ events) (hkind : query.kind = .upstreamQuery)
    (hanswer : answer ∈ events) (hanswer_kind : is_answer answer.kind = true)
    (hparent : answer.parent_event_id = some query.event_id) :
    violates_binding answer query = false := by
  obtain ⟨attempt, hattempt, hid, hrecorded⟩ := haccounts.queries query hquery hkind
  obtain ⟨other, hother, _, hother_parent, hother_recorded⟩ :=
    haccounts.answers answer hanswer hanswer_kind
  rw [hparent, ← hid] at hother_parent
  obtain rfl := List.inj_on_of_nodup_map haccounts.ids hattempt hother
    (Option.some.inj hother_parent)
  obtain ⟨hendpoint, htarget, hnumber, hdigest⟩ := hother_recorded.same hrecorded
  -- the parent of the answer stands before it, and it is the query
  obtain ⟨pre, post, hsplit⟩ := List.append_of_mem hanswer
  have hplace := hplaces pre answer post hsplit
  have hpre : pre ≠ [] := by
    intro hnil
    rw [(hplace.first hnil).2] at hparent
    cases hparent
  obtain ⟨_, parent, hparent_mem, hparent_id⟩ := hplace.parent hpre
  have hparent_in : parent ∈ events := by
    rw [hsplit]
    exact List.mem_append_left _ hparent_mem
  obtain ⟨qpre, qpost, hqsplit⟩ := List.append_of_mem hquery
  have hqplace := hplaces qpre query qpost hqsplit
  obtain ⟨_, hparent_trace, hparent_own⟩ := sequence_le hplaces hparent_in
  have hsame : parent.sequence = query.sequence := by
    refine (hcollision parent hparent_in query hquery ?_).2
    rw [hparent_trace, hqplace.trace, ← hparent_own, ← hqplace.id]
    exact Option.some.inj (hparent_id.symm.trans hparent)
  have hprior : Justified (Follows P server_id trace_id correlation_id) pre := by
    rw [hsplit] at hplaces
    exact hplaces.of_prefix
  have hbefore := (sequence_le hprior hparent_mem).1
  have hlater : ¬ answer.sequence ≤ query.sequence := by
    rw [hplace.sequence, ← hsame]
    omega
  unfold violates_binding
  simp [hlater, hplace.correlation, hqplace.correlation, hendpoint, htarget, hnumber, hdigest]

/-- The ids of the events of a trace are distinct. -/
theorem ids_nodup {trace_id correlation_id : String}
    (hplaces : Justified (Follows P server_id trace_id correlation_id) events)
    (hcollision : NoCollision P events) : (events.map TraceEventV2.event_id).Nodup := by
  refine List.pairwise_map.mpr (List.pairwise_iff_getElem.mpr ?_)
  intro i j hi hj hij heq
  have hplace : ∀ k (hk : k < events.length), events[k].sequence = k + 1 ∧
      events[k].event_id = event_id P events[k].trace_id events[k].sequence := by
    intro k hk
    have h := hplaces (events.take k) events[k] (events.drop (k + 1)) (by simp)
    refine ⟨?_, by rw [h.trace]; exact h.id⟩
    rw [h.sequence, List.length_take, Nat.min_eq_left (Nat.le_of_lt hk)]
  have hsame := (hcollision events[i] (List.getElem_mem hi) events[j] (List.getElem_mem hj) (by
    rw [← (hplace i hi).2, ← (hplace j hj).2, heq])).2
  rw [(hplace i hi).1, (hplace j hj).1] at hsame
  omega

/-- A trace whose attempts are accounted for is closed when they are all resolved. -/
theorem closed_iff_resolved {trace_id correlation_id : String}
    (hplaces : Justified (Follows P server_id trace_id correlation_id) events)
    (hcollision : NoCollision P events) (hproduced : ∀ event ∈ events, is_produced event.kind)
    (haccounts : Accounts attempts events) :
    ClosedTrace events ↔ ∀ attempt ∈ attempts, attempt.resolved = true := by
  constructor
  · intro hclosed attempt hattempt
    -- an open attempt has a query without an answer
    obtain ⟨query, hquery, hkind, hid, _⟩ := haccounts.sources attempt hattempt
    have hcount := haccounts.count attempt hattempt
    rw [← hid, hclosed.once query hquery hkind] at hcount
    by_contra hopen
    rw [if_neg hopen] at hcount
    cases hcount
  · intro hresolved
    have honce : ∀ query ∈ events, query.kind = .upstreamQuery →
        events.countP (resolves query.event_id) = 1 := by
      intro query hquery hkind
      obtain ⟨attempt, hattempt, hid, _⟩ := haccounts.queries query hquery hkind
      rw [← hid, haccounts.count attempt hattempt, if_pos (hresolved attempt hattempt)]
    refine ⟨honce, ?_⟩
    intro config request self_record
    have hqueries : ∀ query ∈ events.filter (is_outbound config request),
        query.kind = .upstreamQuery ∧ Answered events query := by
      intro query hquery
      obtain ⟨hmem, houtbound⟩ := List.mem_filter.mp hquery
      -- of the outbound kinds only one is produced
      have hkind : query.kind = .upstreamQuery := by
        obtain ⟨hresolver, hauthority⟩ := Bool.and_eq_true_iff.mp (hproduced query hmem)
        unfold is_outbound at houtbound
        simp only [Bool.and_eq_true, Bool.or_eq_true, decide_eq_true_eq] at houtbound
        rcases houtbound.2 with (h | h) | h
        · exact h
        · exact absurd h (bne_iff_ne.mp hresolver)
        · exact absurd h (bne_iff_ne.mp hauthority)
      refine ⟨hkind, ?_, ?_⟩
      · have hpositive : 0 < events.countP (resolves query.event_id) := by
          rw [honce query hmem hkind]
          exact Nat.one_pos
        obtain ⟨answer, hanswer, hresolves⟩ := List.countP_pos_iff.mp hpositive
        obtain ⟨hanswer_kind, hparent⟩ := Bool.and_eq_true_iff.mp hresolves
        refine ⟨answer, hanswer, ?_, of_decide_eq_true hparent⟩
        simpa [is_answer] using hanswer_kind
      · intro answer hanswer hanswer_kind hparent
        refine agrees_of_accounts hplaces hcollision haccounts hmem hkind hanswer ?_ hparent
        simpa [is_answer] using hanswer_kind
    refine pair_all_of_answered ?_ hqueries (fun _ _ => ⟨rfl, rfl⟩)
    exact (ids_nodup hplaces hcollision).sublist (List.filter_sublist.map _)

/-! ## §3. Kinds. -/

/-- What an attempt's frames emit is neither first nor last, and of the newer kinds. -/
theorem Move.kinds (h : Move P server_id frame given context events context') :
    frame.kind ≠ .finish ∧
      ∀ event ∈ events, is_inner event.kind = true ∧ is_produced event.kind = true := by
  cases h with
  | sent target events context' hkind _ _ hsend =>
    obtain ⟨_, target_correlation_id, transaction_id, _, _, rfl, _⟩ := send_in_eq_ok hsend
    refine ⟨by rw [hkind]; decide, ?_⟩
    intro event hevent
    rcases retry_events_cases P frame given server_id target (context.attempts.length + 1) context
      with hretry | hretry | hretry
    all_goals
      rw [hretry] at hevent
      simp only [List.nil_append, List.cons_append, List.mem_cons, List.not_mem_nil, or_false]
        at hevent
      rcases hevent with rfl | rfl | rfl <;> exact ⟨rfl, rfl⟩
  | resolved pre attempt post fields _ _ hfields =>
    cases hfields with
    | response _ hkind =>
      refine ⟨by rw [hkind]; decide, ?_⟩
      intro event hevent
      rw [List.mem_singleton.mp hevent]
      exact ⟨rfl, rfl⟩
    | failure _ hkind =>
      refine ⟨by rw [hkind]; decide, ?_⟩
      intro event hevent
      rw [List.mem_singleton.mp hevent]
      exact ⟨rfl, rfl⟩

/-- FINISH says success in a ClientResponse, and a failure in no event of that kind. -/
theorem finish_in_response (h : finish_in P server_id frame given context = .ok events) :
    (∀ event ∈ events, is_produced event.kind = true) ∧
      ((∃ event ∈ events, event.kind = .clientResponse) ↔ frame.reason = "success") := by
  obtain ⟨digest, hits, context₁, _, hhits, rfl⟩ := finish_in_eq_ok h
  have hhit : ∀ event ∈ hits, event.kind = .cacheHit := by
    intro event hevent
    rcases cache_hit_event_eq_ok hhits with ⟨_, rfl, _⟩ | ⟨_, _, ttl, _, rfl, _⟩
    · cases hevent
    · rw [List.mem_singleton.mp hevent]
      rfl
  by_cases hreason : frame.reason = "success"
  · have hkind : (frame.reason != "success") = false := by rw [hreason]; rfl
    simp only [hkind, Bool.false_eq_true, if_false]
    refine ⟨?_, fun _ => hreason, fun _ => ⟨_, List.mem_append_right _ List.mem_cons_self, rfl⟩⟩
    intro event hevent
    rcases List.mem_append.mp hevent with hevent | hevent
    · rw [hhit event hevent]
      rfl
    · rw [List.mem_singleton.mp hevent]
      rfl
  · have hkind : (frame.reason != "success") = true := bne_iff_ne.mpr hreason
    simp only [hkind, if_true]
    refine ⟨?_, ?_, fun heq => absurd heq hreason⟩
    · intro event hevent
      rcases List.mem_append.mp hevent with hevent | hevent
      · rw [hhit event hevent]
        rfl
      · rw [List.mem_singleton.mp hevent]
        rfl
    · rintro ⟨event, hevent, hresponse⟩
      rcases List.mem_append.mp hevent with hevent | hevent
      · rw [hhit event hevent] at hresponse
        cases hresponse
      · rw [List.mem_singleton.mp hevent] at hresponse
        cases hresponse

theorem History.produced (h : History P server_id context log) :
    (∀ emitted ∈ log, is_produced emitted.event.kind = true) ∧
      (context.attempts ≠ [] → context.sent_upstream = true) := by
  induction h with
  | begun frame given correlation_id _ _ =>
    refine ⟨?_, fun hne => absurd rfl hne⟩
    intro emitted hemitted
    rw [List.mem_singleton.mp hemitted]
    rfl
  | moved _ frame given events context' hmove ih =>
    refine ⟨?_, ?_⟩
    · intro emitted hemitted
      rcases List.mem_append.mp hemitted with hold | hnew
      · exact ih.1 emitted hold
      · obtain ⟨event, hevent, rfl⟩ := List.mem_map.mp hnew
        exact (hmove.kinds.2 event hevent).2
    · intro _
      cases hmove with
      | sent target events context' _ _ _ hsend =>
        obtain ⟨_, _, _, _, _, _, rfl⟩ := send_in_eq_ok hsend
        rfl
      | resolved pre attempt post fields hattempts _ _ =>
        refine ih.2 ?_
        rw [hattempts]
        exact List.append_ne_nil_of_right_ne_nil _ (List.cons_ne_nil _ _)

/-! ## §4. Runs. -/

variable {m : TraceMachine} {r : Recorder}

/-- New events of a trace that was not reported yet. -/
theorem successful_closed_append (trace_id : String)
    (hevents : ∀ event ∈ events, event.trace_id = trace_id)
    (hopen : ∀ answer ∈ log, answer.event.kind = .clientResponse →
      answer.event.trace_id ≠ trace_id) :
    SuccessfulClosed (log ++ events.map (Emitted.mk frame)) ↔ SuccessfulClosed log ∧
      ((∃ event ∈ events, event.kind = .clientResponse) →
        ClosedTrace ((of_trace trace_id log).map Emitted.event ++ events)) := by
  have hown : (of_trace trace_id (log ++ events.map (Emitted.mk frame))).map Emitted.event =
      (of_trace trace_id log).map Emitted.event ++ events := by
    rw [of_trace_append hevents, List.map_append, List.map_map,
      show Emitted.event ∘ Emitted.mk frame = id from rfl, List.map_id]
  constructor
  · intro hclosed
    refine ⟨?_, ?_⟩
    · intro answer hanswer hkind
      have h := hclosed answer (List.mem_append_left _ hanswer) hkind
      rwa [of_trace_append_ne hevents (hopen answer hanswer hkind)] at h
    · rintro ⟨event, hevent, hkind⟩
      have h := hclosed ⟨frame, event⟩ (List.mem_append_right _ (List.mem_map_of_mem hevent)) hkind
      rw [show (Emitted.mk frame event).event.trace_id = trace_id from hevents event hevent,
        hown] at h
      exact h
  · rintro ⟨hclosed, hnew⟩ answer hanswer hkind
    rcases List.mem_append.mp hanswer with hold | hadded
    · rw [of_trace_append_ne hevents (hopen answer hold hkind)]
      exact hclosed answer hold hkind
    · obtain ⟨event, hevent, rfl⟩ := List.mem_map.mp hadded
      rw [show (Emitted.mk frame event).event.trace_id = trace_id from hevents event hevent, hown]
      exact hnew ⟨event, hevent, hkind⟩

/-- A context that sent something finishes whenever its wire is well formed. -/
theorem finish_accepted (given : Given) {digest : String} (hkind : frame.kind = .finish)
    (hwire : validate_dns_wire frame.wire = .ok ())
    (hdigest : P.dns_cache_object_digest frame.wire = .ok digest)
    (hlive : m.contexts.lookup frame.key = some context) (hsent : context.sent_upstream = true) :
    ∃ event, m.process P frame given = (.ok (.terminal [event]), m.abort frame.key) := by
  unfold TraceMachine.process TraceMachine.finish
  rw [hkind]
  simp only [hwire, hlive]
  unfold finish_in cache_hit_event
  rw [hdigest, hsent]
  exact ⟨_, rfl⟩

/-- The live trace of a context has not been reported. -/
theorem Traces.unreported (h : Traces P server_id r) {key : RequestKey}
    (hlive : r.machine.contexts.lookup key = some context) :
    ∀ answer ∈ r.log, answer.event.kind = .clientResponse →
      answer.event.trace_id ≠ context.trace_id := by
  intro answer hanswer hkind heq
  have hmem : answer ∈ of_trace context.trace_id r.log := mem_of_trace.mpr ⟨hanswer, heq⟩
  exact (h.live key context hlive).spine.1.ongoing answer.event (List.mem_map_of_mem hmem)
    (Or.inl hkind)

/-- One input keeps the law when a successful FINISH finds no open attempt, and only then. -/
theorem successful_closed_take (h : Traces P server_id r) {input : Input} (hfresh : Fresh r input)
    (hcollision : NoCollision P ((r.take P input).log.map Emitted.event)) :
    SuccessfulClosed (r.take P input).log ↔
      SuccessfulClosed r.log ∧ FinishesResolved P r input := by
  cases input with
  | abort key => exact ⟨fun h => ⟨h, trivial⟩, fun h => h.1⟩
  | hook frame given =>
    obtain rfl : r.machine.server_id = server_id := h.own
    rcases take_hook (P := P) r frame given with ⟨output, m', haccepted, heq⟩ | ⟨m', heq, _⟩
    · rw [heq] at hcollision ⊢
      cases haccepted with
      | begun correlation_id hkind hwire hfree hcorrelation =>
        refine (successful_closed_append given.trace_id ?_ ?_).trans
          (and_congr_right fun _ => ⟨?_, ?_⟩)
        · intro event hevent
          rw [List.mem_singleton.mp hevent]
          rfl
        · intro answer hanswer _
          exact hfresh hkind answer hanswer
        · intro _ hfinish
          rw [hkind] at hfinish
          cases hfinish
        · rintro _ ⟨event, hevent, hresponse⟩
          rw [List.mem_singleton.mp hevent] at hresponse
          cases hresponse
      | moved context events context' hkind hlive hmove =>
        refine (successful_closed_append context.trace_id hmove.trace.2 (h.unreported hlive)).trans
          (and_congr_right fun _ => ⟨?_, ?_⟩)
        · intro _ hfinish
          exact absurd hfinish hmove.kinds.1
        · rintro _ ⟨event, hevent, hresponse⟩
          have hinner := (hmove.kinds.2 event hevent).1
          rw [hresponse] at hinner
          cases hinner
      | finished context events hkind hwire hlive hfinish =>
        refine (successful_closed_append context.trace_id (finish_in_trace hfinish)
          (h.unreported hlive)).trans
          (and_congr_right fun _ => ?_)
        have hhistory := h.live frame.key context hlive
        obtain ⟨hspine, hbudget⟩ := hhistory.spine
        have hroom := hbudget.room
        have hplaces := hspine.finish (by rw [List.length_map]; omega) hfinish
        have hpart : ∀ event ∈ (of_trace context.trace_id r.log).map Emitted.event ++ events,
            event ∈ (r.log ++ events.map (Emitted.mk frame)).map Emitted.event := by
          intro event hevent
          rw [List.map_append, List.map_map, show Emitted.event ∘ Emitted.mk frame = id from rfl,
            List.map_id]
          rcases List.mem_append.mp hevent with hold | hnew
          · obtain ⟨emitted, hemitted, rfl⟩ := List.mem_map.mp hold
            exact List.mem_append_left _ (List.mem_map_of_mem (mem_of_trace.mp hemitted).1)
          · exact List.mem_append_right _ hnew
        have hown := hcollision.mono hpart
        have haccounts := (hhistory.accounts
          (hown.mono fun event hevent => List.mem_append_left _ hevent)).neutrals
            (finish_in_kinds hfinish)
        have hproduced : ∀ event ∈ (of_trace context.trace_id r.log).map Emitted.event ++ events,
            is_produced event.kind = true := by
          intro event hevent
          rcases List.mem_append.mp hevent with hold | hnew
          · obtain ⟨emitted, hemitted, rfl⟩ := List.mem_map.mp hold
            exact hhistory.produced.1 emitted hemitted
          · exact (finish_in_response hfinish).1 event hnew
        rw [closed_iff_resolved hplaces hown hproduced haccounts, (finish_in_response hfinish).2]
        obtain ⟨digest, _, _, hdigest, _⟩ := finish_in_eq_ok hfinish
        constructor
        · intro hresolved _ hsuccess _ _ found hfound
          obtain rfl := Option.some.inj (hfound.symm.trans hlive)
          exact hresolved hsuccess
        · intro hresolved hsuccess
          exact hresolved hkind hsuccess hwire ⟨digest, hdigest⟩ context hlive
    · rw [heq]
      refine ⟨fun hclosed => ⟨hclosed, ?_⟩, fun hboth => hboth.1⟩
      -- a FINISH that was refused had sent nothing, so it has no attempts
      intro hkind _ hwire ⟨digest, hdigest⟩ context hlive attempt hattempt
      have hsent := (h.live frame.key context hlive).produced.2 (List.ne_nil_of_mem hattempt)
      obtain ⟨event, hprocess⟩ :=
        finish_accepted given hkind hwire hdigest hlive hsent
      have hlog := congrArg (fun r => r.log.length) heq
      simp only [Recorder.take, hprocess] at hlog
      simp [MachineOutput.emitted] at hlog

/-- Every trace of a run reported as successful is closed in exactly the runs whose
successful FINISH frames find no open attempt. -/
theorem successful_closed_iff {max_contexts : Nat}
    (hnew : TraceMachine.new server_id max_contexts = .ok m) {inputs : List Input}
    (hrun : (producer P m).run inputs = some r) (hdistinct : DistinctTraceIds inputs)
    (hcollision : NoCollision P (r.log.map Emitted.event)) :
    SuccessfulClosed r.log ↔ (producer P m).Along (FinishesResolved P) inputs := by
  refine Machine.run_induction (M := producer P m) (motive := fun inputs r =>
    DistinctTraceIds inputs → NoCollision P (r.log.map Emitted.event) →
      (SuccessfulClosed r.log ↔ (producer P m).Along (FinishesResolved P) inputs)) ?_ ?_ hrun
    hdistinct hcollision
  · intro _ _
    exact ⟨fun _ => Machine.along_nil _, fun _ _ hanswer => (nomatch hanswer)⟩
  · intro inputs r input r' hrun ih hstep hdistinct hcollision
    obtain rfl : r.take P input = r' := Option.some.inj hstep
    have halong := (traces_of_run hnew ((producer P m).run_snoc_eq_some.mpr ⟨r, hrun, rfl⟩)
      hdistinct).2
    have hbefore : DistinctTraceIds inputs := by
      unfold DistinctTraceIds at hdistinct
      rw [List.filterMap_append, List.nodup_append] at hdistinct
      exact hdistinct.1
    have htraces := (traces_of_run hnew hrun hbefore).1
    have hgrown : ∀ event ∈ r.log.map Emitted.event,
        event ∈ (r.take P input).log.map Emitted.event := by
      intro event hevent
      obtain ⟨emitted, hemitted, rfl⟩ := List.mem_map.mp hevent
      exact List.mem_map_of_mem (mem_take hemitted input)
    rw [successful_closed_take htraces (halong.last hrun) hcollision,
      ih hbefore (hcollision.mono hgrown), Machine.along_snoc_iff hrun]

/-! ## §5. Racing upstreams. -/

theorem successful_closed_last_failed :
    SuccessfulClosed (recorded_log last_failed) ↔
      (producer recorded_hooks.platform recorded_machine).Along
        (FinishesResolved recorded_hooks.platform) last_failed :=
  successful_closed_iff (m := recorded_machine) (rfl : TraceMachine.new "resolver" 2 = _)
    (run_producer recorded_hooks.platform recorded_machine last_failed) (by decide +kernel)
    (by decide +kernel)

/-- The first of two upstreams answers, and so does the resolver. -/
def first_answered : List Input :=
  raced ++ [recorded_hook .response (some "192.0.2.1") "received" (answer_wire 8),
    recorded_hook .finish none "success" (answer_wire 7)]

/-- Every run leaves its successful traces closed. -/
def AlwaysClosed (P : Platform) : Prop :=
  ∀ server_id max_contexts m inputs r, TraceMachine.new server_id max_contexts = .ok m →
    (producer P m).run inputs = some r → DistinctTraceIds inputs →
    NoCollision P (r.log.map Emitted.event) → SuccessfulClosed r.log

/-- The query to the second upstream is left without an answer in a successful trace. -/
theorem race_left_open : ¬ AlwaysClosed recorded_hooks.platform := by
  intro h
  have hclosed := h "resolver" 2 recorded_machine first_answered _ rfl
    (run_producer recorded_hooks.platform recorded_machine first_answered) (by decide +kernel)
    (by decide +kernel)
  have honce : ∀ answer ∈ recorded_log first_answered, answer.event.kind = .clientResponse →
      let events := (of_trace answer.event.trace_id (recorded_log first_answered)).map
        Emitted.event
      ∀ query ∈ events, query.kind = .upstreamQuery →
        events.countP (resolves query.event_id) = 1 :=
    fun answer hanswer hkind => (hclosed answer hanswer hkind).once
  revert honce
  decide +kernel

/-- The Agent of that resolver builds no graph from the trace. -/
theorem race_not_built {issuer_keys : IssuerKeyRegistry} {config : AgentConfig}
    {request : EvidenceGraphRequest} {now : Int} {status : DnssecStatus}
    {self_record : Store.EvidenceStore.IdentityRecord} {assembly : Assembly}
    {τ : List (Prog.Event AgentOp AgentRes)} (hserver : config.server_id = "resolver")
    (hcorrelation : request.correlation_id =
      "0xba74f72bb38fc47df9524dd8705dd8e57456bf357b1888ec486e50c385ecd905") :
    let events := (recorded_log first_answered).map Emitted.event
    ¬ Prog.Exec (process_all P config issuer_keys request now status
      (initial_assembly self_record events) (events.filter (is_outbound config request))) τ
        (.ok assembly) := by
  intro events hexec
  have houtbound : events.filter (is_outbound config request) =
      events.filter (fun event => event.kind = .upstreamQuery) := by
    refine List.filter_congr ?_
    intro event hevent
    have hown : ∀ event ∈ (recorded_log first_answered).map Emitted.event,
        event.observer_server_id = "resolver" ∧ event.correlation_id =
          "0xba74f72bb38fc47df9524dd8705dd8e57456bf357b1888ec486e50c385ecd905" ∧
        is_produced event.kind = true := by
      decide +kernel
    obtain ⟨hobserver, hevent_correlation, hproduced⟩ := hown event hevent
    obtain ⟨hresolver, hauthority⟩ := Bool.and_eq_true_iff.mp hproduced
    unfold is_outbound
    rw [hserver, hcorrelation, hobserver, hevent_correlation]
    simp [bne_iff_ne.mp hresolver, bne_iff_ne.mp hauthority]
  rw [houtbound] at hexec
  have hanswered := answered_of_exec
    (fun query hquery => of_decide_eq_true (List.mem_filter.mp hquery).2) hexec
  revert hanswered
  show ¬ ∀ query ∈ ((recorded_log first_answered).map Emitted.event).filter
      (fun event => event.kind = .upstreamQuery),
    ∃ answer ∈ (recorded_log first_answered).map Emitted.event,
      (answer.kind = .upstreamResponse ∨ answer.kind = .upstreamTimeout) ∧
        answer.parent_event_id = some query.event_id
  decide +kernel

end ResolverIdentity.Producer
