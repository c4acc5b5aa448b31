/-
  ResolverIdentity.Adapter.Intake: chained events into the spool.

  Connections offer the events of many traces while the worker uploads and the
  process may be restarted.  Where the offered events are chained, the only
  thing `enqueue` can refuse one for is the limit of the spool; a refused event
  leaves a gap that its own trace does not get over, and no other trace notices.

  Main results:
    * `enqueue_next`: an event in its place that finds room is accepted;
    * `Intake.of_run`: what the spool knows of a trace whose events all found room;
    * `accepts_iff_room`: the events of a trace are accepted when they find room, and
      only then.
-/
import ResolverIdentity.Adapter.System
import ResolverIdentity.Core.Chains

namespace ResolverIdentity.Adapter

open Library TraceSpool

/-! ## §1. Offers. -/

/-- The event a step offers to the spool. -/
def AdapterStep.offer : AdapterStep → Option TraceEventV2
  | .enqueue event => some event
  | _ => none

/-- The events of a run that were offered, accepted or not. -/
def offered (ls : List AdapterStep) : List TraceEventV2 := ls.filterMap AdapterStep.offer

/-- An event of the trace that is offered is accepted. -/
def AcceptsTrace (trace_id : String) (a : AdapterState) : AdapterStep → Prop
  | .enqueue event => event.trace_id = trace_id → (a.spool.enqueue event).1 = .ok ()
  | _ => True

/-- An event of the trace that is offered finds fewer than `max_events` pending. -/
def HasRoom (max_events : Nat) (trace_id : String) (a : AdapterState) : AdapterStep → Prop
  | .enqueue event => event.trace_id = trace_id → a.spool.trace_spool.rows.length < max_events
  | _ => True

instance (max_events : Nat) (trace_id : String) (a : AdapterState) :
    ∀ step, Decidable (HasRoom max_events trace_id a step)
  | .enqueue event => inferInstanceAs (Decidable (event.trace_id = trace_id → _))
  | .start | .work _ | .restart => inferInstanceAs (Decidable True)

/-- All events of the trace were accepted, and the spool knows how far the trace is. -/
structure Intake (s : TraceSpool) (accepted before : List TraceEventV2) (trace_id : String) :
    Prop where
  kept : under trace_id accepted = under trace_id before
  state : s.trace_spool_state.get? trace_id =
    if under trace_id before = [] then none
    else some ⟨(under trace_id before).length,
      (under trace_id before).any (fun event => terminal_kind event.kind)⟩

/-! ## §2. The next event. -/

section Next
variable {s s' : TraceSpool} {accepted before : List TraceEventV2} {event : TraceEventV2}

theorem not_terminal_of_ongoing (hnext : Continues before event) :
    (under event.trace_id before).any (fun earlier => terminal_kind earlier.kind) = false := by
  rw [List.any_eq_false]
  intro earlier hearlier
  obtain ⟨hresponse, hfailed⟩ := hnext.ongoing earlier hearlier
  unfold terminal_kind
  simp [hresponse, hfailed]

theorem room_of_range (hnext : Continues before event) :
    (under event.trace_id before).length < U64_MAX := by
  have hrange := hnext.in_range
  have hsequence := hnext.sequence
  unfold I64_MAX at hrange
  unfold U64_MAX
  omega

/-- What `enqueue` reads of the trace before its next event. -/
theorem Intake.stored_state (h : Intake s accepted before event.trace_id)
    (hnext : Continues before event) :
    ∃ state, s.stored_state event.trace_id = .ok state ∧
      state.any (fun value => value.2) = false ∧ event.sequence = expected_sequence state := by
  have hget := h.state
  unfold TraceSpool.stored_state
  by_cases hnil : under event.trace_id before = []
  · rw [if_pos hnil] at hget
    refine ⟨none, by rw [hget], rfl, ?_⟩
    rw [hnext.sequence, hnil]
    rfl
  · rw [if_neg hnil, not_terminal_of_ongoing hnext] at hget
    refine ⟨some ((under event.trace_id before).length, false), ?_, rfl, ?_⟩
    · rw [hget]
      show (okOr (u64_try_from _) _ >>= _) = _
      rw [u64_try_from_natCast]
      rfl
    · show _ = u64_succ _
      rw [u64_succ_of_lt (room_of_range hnext)]
      exact hnext.sequence

/-- The parent of the next event was seen. -/
theorem check_parent_next (hrecords : Records s accepted)
    (h : Intake s accepted before event.trace_id) (hchained : Chained before)
    (hnext : Continues before event) : s.check_parent event = .ok () := by
  unfold check_parent
  by_cases hlater : 1 < event.sequence
  · rw [if_pos hlater]
    have hne : under event.trace_id before ≠ [] := by
      intro hnil
      have hsequence := hnext.sequence
      rw [hnil] at hsequence
      have hone : event.sequence = 1 := hsequence
      omega
    obtain ⟨parent, hmem, hparent⟩ := hnext.parent hne
    have hle := hchained.sequence_le hmem
    rw [← h.kept] at hmem
    obtain ⟨haccepted, htrace⟩ := mem_under.mp hmem
    have hseen := hrecords.seen_of_mem haccepted
    unfold check_parent_row
    simp only [bind_eq_ok, okOr_eq_ok, rejectIf_eq_ok]
    refine ⟨parent.event_id, hparent, ⟨parent.trace_id, parent.sequence, parent⟩, ?_,
      parent.sequence, u64_try_from_natCast _, ?_⟩
    · rw [hseen, Option.filter_some, if_pos (decide_eq_true htrace)]
    · rw [decide_eq_false_iff_not, hnext.sequence]
      omega
  · rw [if_neg hlater]

/-- The place of the next event is free in the index. -/
theorem sequence_free (hrecords : Records s accepted)
    (h : Intake s accepted before event.trace_id) (hchained : Chained before)
    (hnext : Continues before event) :
    s.sequence_taken event.trace_id event.sequence = false := by
  unfold sequence_taken
  rw [List.any_eq_false]
  intro row hrow htaken
  obtain ⟨htrace, hsequence⟩ := Bool.and_eq_true_iff.mp htaken
  have hpair : (row.key, row.val) ∈ accepted.map seen_row := by
    rw [← hrecords.seen]
    exact List.mem_map_of_mem hrow
  obtain ⟨earlier, hearlier, heq⟩ := List.mem_map.mp hpair
  have hval : row.val = ⟨earlier.trace_id, earlier.sequence, earlier⟩ := (Prod.mk.inj heq).2.symm
  rw [hval] at htrace hsequence
  have hunder : earlier ∈ under event.trace_id accepted :=
    mem_under.mpr ⟨hearlier, of_decide_eq_true htrace⟩
  rw [h.kept] at hunder
  have hle := hchained.sequence_le hunder
  have hsame : (earlier.sequence : Int) = event.sequence := of_decide_eq_true hsequence
  have hnext := hnext.sequence
  omega

/-- An event in its place that finds room is accepted. -/
theorem enqueue_next (hrecords : Records s accepted)
    (h : Intake s accepted before event.trace_id) (hsub : ∀ earlier ∈ accepted, earlier ∈ before)
    (hchained : Chained before) (hnext : Continues before event)
    (hroom : s.trace_spool.rows.length < s.max_events) :
    ∃ s', s.enqueue event = (.ok (), s') ∧ Appends s event s' := by
  -- an id not accepted yet is neither seen nor pending
  have hunseen : s.trace_spool_seen.get? event.event_id = none := by
    cases hseen : s.trace_spool_seen.get? event.event_id with
    | none => rfl
    | some row =>
      obtain ⟨earlier, hearlier, hid, _⟩ := hrecords.mem_of_seen hseen
      exact absurd hid (hnext.fresh earlier (hsub earlier hearlier))
  have hnot_pending : s.trace_spool.get? event.event_id = none := by
    rw [RowTable.get?_eq_none_iff]
    intro row hrow hkey
    obtain ⟨earlier, hearlier, hid, _⟩ := hrecords.pending row hrow
    exact hnext.fresh earlier (hsub earlier hearlier) (hid.trans hkey)
  have hplaced : (event.sequence == 1 &&
      (event.kind != .clientQuery || event.parent_event_id.isSome)) = false := by
    by_cases hnil : under event.trace_id before = []
    · obtain ⟨hkind, hparent⟩ := hnext.first hnil
      simp [hkind, hparent]
    · have hlength := List.length_pos_of_ne_nil hnil
      have hsequence := hnext.sequence
      have hne : (event.sequence == 1) = false := by
        rw [beq_eq_false_iff_ne]
        omega
      rw [hne, Bool.false_and]
  -- the state of the trace expects this event
  obtain ⟨state, hstate, hopen, hexpected⟩ := h.stored_state hnext
  obtain ⟨pending, hpending⟩ := Option.isSome_iff_exists.mp
    (RowTable.insert?_isSome_iff (v := event).mpr hnot_pending)
  obtain ⟨seen, hseen⟩ := Option.isSome_iff_exists.mp
    (RowTable.insert?_isSome_iff (v := ⟨event.trace_id, event.sequence, event⟩).mpr hunseen)
  have hbody : ∃ s', enqueue_body event s = .ok ((), s') := by
    unfold enqueue_body
    rw [hunseen]
    show ∃ s', enqueue_new event s = .ok ((), s')
    unfold enqueue_new
    simp only [bind_eq_ok, exists_unit, rejectIf_eq_ok, okOr_eq_ok]
    refine ⟨_, decide_eq_false (Nat.not_le.mpr hroom), state, hstate, ?_,
      check_parent_next hrecords h hchained hnext, pending, hpending, event.sequence,
      i64_try_from_eq_some.mpr ⟨rfl, hnext.in_range⟩, sequence_free hrecords h hchained hnext,
      seen, hseen, rfl⟩
    rw [hopen, ← hexpected, bne_self_eq_false, hplaced]
    rfl
  obtain ⟨s', hbody⟩ := hbody
  have hok : s.enqueue event = (.ok (), s') := transaction_eq_ok.mpr hbody
  refine ⟨s', hok, ?_⟩
  rcases enqueue_eq_ok hok with ⟨row, hknown, _⟩ | happends
  · rw [hunseen] at hknown
    cases hknown
  · exact happends

/-- The trace after its next event was accepted. -/
theorem Intake.snoc (h : Intake s accepted before event.trace_id)
    (hnext : Continues before event) (happends : Appends s event s') :
    Intake s' (accepted ++ [event]) (before ++ [event]) event.trace_id where
  kept := by rw [under_snoc_self, under_snoc_self, h.kept]
  state := by
    rw [happends.states, RowTable.get?_upsert, if_pos rfl, under_snoc_self,
      if_neg (List.append_ne_nil_of_right_ne_nil _ (List.cons_ne_nil _ _)), List.any_append,
      not_terminal_of_ongoing hnext, List.length_append, List.length_singleton, hnext.sequence]
    simp

/-- An event of another trace, accepted or not. -/
theorem Intake.other {trace_id : String} (h : Intake s accepted before trace_id)
    (hne : event.trace_id ≠ trace_id) :
    Intake (s.enqueue event).2 (accept_log event accepted (s.enqueue event).1)
      (before ++ [event]) trace_id := by
  have hlog : under trace_id (accept_log event accepted (s.enqueue event).1) =
      under trace_id accepted := by
    cases (s.enqueue event).1 with
    | error e => rfl
    | ok _ =>
      show under trace_id (if event ∈ accepted then accepted else accepted ++ [event]) = _
      split
      · rfl
      · exact under_snoc_ne accepted hne
  have hstate : (s.enqueue event).2.trace_spool_state.get? trace_id =
      s.trace_spool_state.get? trace_id := by
    cases hrun : s.enqueue event with
    | mk outcome s' =>
      cases outcome with
      | error e => rw [transaction_error hrun]
      | ok _ =>
        rcases enqueue_eq_ok hrun with ⟨_, _, _, rfl⟩ | happends
        · rfl
        · show s'.trace_spool_state.get? trace_id = _
          rw [happends.states, RowTable.get?_upsert, if_neg (Ne.symm hne)]
  constructor
  · rw [hlog, under_snoc_ne before hne]
    exact h.kept
  · rw [hstate, under_snoc_ne before hne]
    exact h.state

end Next

/-! ## §3. Every run. -/

section Runs
variable {cfg : WorkerConfig} {max_events : Nat} {ls : List AdapterStep} {a a' : AdapterState}
  {step : AdapterStep} {trace_id : String}

theorem offered_snoc (ls : List AdapterStep) (step : AdapterStep) :
    offered (ls ++ [step]) = offered ls ++ step.offer.toList := by
  unfold offered
  rw [List.filterMap_append]
  cases step <;> rfl

theorem offered_without_offer (ls : List AdapterStep) (hoffer : step.offer = none) :
    offered (ls ++ [step]) = offered ls := by
  rw [offered_snoc, hoffer]
  exact List.append_nil _

theorem offered_enqueues (events : List TraceEventV2) :
    offered (events.map AdapterStep.enqueue) = events := by
  unfold offered
  rw [List.filterMap_map]
  exact List.filterMap_some

/-- Events can be offered one after the other without anything in between. -/
theorem run_enqueues (cfg : WorkerConfig) (max_events : Nat) (events : List TraceEventV2) :
    ∃ a, (adapter cfg max_events).run (events.map AdapterStep.enqueue) = some a := by
  induction events using List.reverseRecOn with
  | nil => exact ⟨_, rfl⟩
  | append_singleton events event ih =>
    obtain ⟨a, ha⟩ := ih
    rw [List.map_append]
    exact ⟨_, (adapter cfg max_events).run_snoc_eq_some.mpr ⟨a, ha, rfl⟩⟩

theorem chained_of_snoc (h : Chained (offered (ls ++ [step]))) : Chained (offered ls) := by
  rw [offered_snoc] at h
  exact h.of_prefix

/-- A step that offers nothing changes nothing of what the spool knows of the traces. -/
theorem step_without_offer (hoffer : step.offer = none)
    (hstep : (adapter cfg max_events).step a step = some a') :
    a'.accepted = a.accepted ∧ a'.spool.trace_spool_state = a.spool.trace_spool_state := by
  cases step with
  | enqueue event => cases hoffer
  | start =>
    unfold adapter AdapterState.step at hstep
    cases hworker : a.worker with
    | idle waits =>
      simp only [hworker] at hstep
      obtain rfl := Option.some.inj hstep
      exact ⟨rfl, rfl⟩
    | running o k => simp only [hworker] at hstep; cases hstep
    | stopped error => simp only [hworker] at hstep; cases hstep
  | work env =>
    unfold adapter AdapterState.step at hstep
    cases hworker : a.worker with
    | idle waits => simp only [hworker] at hstep; cases hstep
    | stopped error => simp only [hworker] at hstep; cases hstep
    | running o k =>
      simp only [hworker] at hstep
      obtain ⟨r, hperform, rfl⟩ := Option.map_eq_some_iff.mp hstep
      exact ⟨rfl, (perform_frame hperform).2⟩
  | restart =>
    obtain rfl := Option.some.inj hstep
    exact ⟨rfl, rfl⟩

/-- Only what was offered was accepted. -/
theorem accepted_offered (hrun : (adapter cfg max_events).run ls = some a) :
    ∀ event ∈ a.accepted, event ∈ offered ls := by
  refine Machine.run_induction (M := adapter cfg max_events)
    (motive := fun ls a => ∀ event ∈ a.accepted, event ∈ offered ls) ?_ ?_ hrun
  · intro event hevent
    cases hevent
  · intro ls a step a' _ ih hstep event hevent
    rw [offered_snoc]
    cases step with
    | enqueue offer =>
      obtain rfl := Option.some.inj hstep
      have hlog : event ∈ a.accepted ∨ event = offer := by
        have hmem : event ∈ accept_log offer a.accepted (a.spool.enqueue offer).1 := hevent
        cases hresult : (a.spool.enqueue offer).1 with
        | error e =>
          rw [hresult] at hmem
          exact Or.inl hmem
        | ok _ =>
          rw [hresult] at hmem
          have hmem : event ∈ if offer ∈ a.accepted then a.accepted
            else a.accepted ++ [offer] := hmem
          split at hmem
          · exact Or.inl hmem
          · simpa using hmem
      rcases hlog with hold | rfl
      · exact List.mem_append_left _ (ih event hold)
      · exact List.mem_append_right _ (List.mem_singleton.mpr rfl)
    | start | work _ | restart =>
      rw [(step_without_offer rfl hstep).1] at hevent
      exact List.mem_append_left _ (ih event hevent)

/-- The next event of a trace that found room so far, in the run. -/
theorem enqueue_in_run (hrun : (adapter cfg max_events).run ls = some a) {event : TraceEventV2}
    (hintake : Intake a.spool a.accepted (offered ls) event.trace_id)
    (hchained : Chained (offered (ls ++ [.enqueue event]))) :
    (a.spool.trace_spool.rows.length < max_events → ∃ s', a.spool.enqueue event = (.ok (), s') ∧
      Appends a.spool event s') ∧
      ((a.spool.enqueue event).1 = .ok () → a.spool.trace_spool.rows.length < max_events) := by
  obtain ⟨⟨l, hbooks, _⟩, hlimit⟩ := AdapterInv.of_run hrun
  have hrecords : Records a.spool a.accepted := hbooks.accepted_items ▸ hbooks.toRecords
  have hnext : Continues (offered ls) event := by
    rw [offered_snoc] at hchained
    exact hchained _ _ [] rfl
  refine ⟨?_, ?_⟩
  · intro hroom
    rw [← hlimit] at hroom
    exact enqueue_next hrecords hintake (accepted_offered hrun) (chained_of_snoc hchained) hnext
      hroom
  · intro hok
    have haccepted : a.spool.enqueue event = (.ok (), (a.spool.enqueue event).2) := Prod.ext hok rfl
    rcases enqueue_eq_ok haccepted with ⟨row, hseen, _⟩ | happends
    · obtain ⟨earlier, hearlier, hid, _⟩ := hrecords.mem_of_seen hseen
      exact absurd hid (hnext.fresh earlier (accepted_offered hrun earlier hearlier))
    · rw [← hlimit]
      exact happends.room

/-- What the spool knows of a trace whose events all found room. -/
theorem Intake.of_run (hrun : (adapter cfg max_events).run ls = some a)
    (hchained : Chained (offered ls))
    (hroom : (adapter cfg max_events).Along (HasRoom max_events trace_id) ls) :
    Intake a.spool a.accepted (offered ls) trace_id := by
  refine Machine.run_induction (M := adapter cfg max_events) (motive := fun ls a =>
    Chained (offered ls) → (adapter cfg max_events).Along (HasRoom max_events trace_id) ls →
      Intake a.spool a.accepted (offered ls) trace_id) ?_ ?_ hrun hchained hroom
  · intro _ _
    exact ⟨rfl, rfl⟩
  · intro ls a step a' hrun ih hstep hchained hroom
    have hbefore := ih (chained_of_snoc hchained) hroom.of_prefix
    cases step with
    | enqueue event =>
      obtain rfl := Option.some.inj hstep
      rw [offered_snoc]
      by_cases htrace : event.trace_id = trace_id
      · subst htrace
        obtain ⟨s', hok, happends⟩ :=
          (enqueue_in_run hrun hbefore hchained).1 (hroom.last hrun rfl)
        have hnew : event ∉ a.accepted := by
          intro hmem
          rw [offered_snoc] at hchained
          exact (hchained (offered ls) event [] rfl).fresh event (accepted_offered hrun event hmem)
            rfl
        show Intake (a.spool.enqueue event).2 (accept_log event a.accepted
          (a.spool.enqueue event).1) _ _
        rw [hok]
        show Intake s' (if event ∈ a.accepted then a.accepted else a.accepted ++ [event]) _ _
        rw [if_neg hnew]
        rw [offered_snoc] at hchained
        exact hbefore.snoc (hchained (offered ls) event [] rfl) happends
      · exact hbefore.other htrace
    | start | work _ | restart =>
      obtain ⟨haccepted, hstate⟩ := step_without_offer rfl hstep
      rw [offered_without_offer ls rfl, haccepted]
      refine ⟨hbefore.kept, ?_⟩
      rw [hstate]
      exact hbefore.state

/-- The events of a trace are accepted when they find room, and only then. -/
theorem accepts_iff_room (hrun : (adapter cfg max_events).run ls = some a)
    (hchained : Chained (offered ls)) :
    (adapter cfg max_events).Along (AcceptsTrace trace_id) ls ↔
      (adapter cfg max_events).Along (HasRoom max_events trace_id) ls := by
  refine Machine.run_induction (M := adapter cfg max_events) (motive := fun ls _ =>
    Chained (offered ls) → ((adapter cfg max_events).Along (AcceptsTrace trace_id) ls ↔
      (adapter cfg max_events).Along (HasRoom max_events trace_id) ls)) ?_ ?_ hrun hchained
  · intro _
    exact ⟨fun _ => Machine.along_nil _, fun _ => Machine.along_nil _⟩
  · intro ls a step a' hrun ih hstep hchained
    rw [Machine.along_snoc_iff hrun, Machine.along_snoc_iff hrun, ih (chained_of_snoc hchained)]
    refine and_congr_right ?_
    intro hroom
    have hintake := Intake.of_run hrun (chained_of_snoc hchained) hroom
    cases step with
    | enqueue event =>
      constructor
      · intro haccepts htrace
        subst htrace
        exact (enqueue_in_run hrun hintake hchained).2 (haccepts rfl)
      · intro hroom htrace
        subst htrace
        obtain ⟨s', hok, _⟩ := (enqueue_in_run hrun hintake hchained).1 (hroom rfl)
        rw [hok]
    | start | work _ | restart => exact Iff.rfl

end Runs

end ResolverIdentity.Adapter
