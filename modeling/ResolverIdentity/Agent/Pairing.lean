/-
  ResolverIdentity.Agent.Pairing: the pairing of outbound queries with their answers.

  The loop over the outbound queries takes the answer of each out of two maps,
  keyed by the query an answer names as its parent.  What a found answer leads
  to, a lookup, an attestation, a graph fetched from the target, does not touch
  the maps, so the pairing can be looked at alone.

  Main results:
    * `pair_all_of_exec`: the loop finishes only when every query is paired;
    * `pair_all_of_answered`: queries with distinct ids, each with an answer that
      agrees with it, are paired;
    * `answered_of_exec`: a query without an answer ends the loop.
-/
import ResolverIdentity.Agent.BuildGraph

namespace ResolverIdentity.Agent

open Library Store

variable {P : Platform} {config : AgentConfig} {issuer_keys : IssuerKeyRegistry}
  {request : EvidenceGraphRequest} {assembly assembly' other : Assembly}

/-! ## §1. The pairing alone. -/

/-- The pairing of the loop, without what an answered query leads to. -/
def pair_all : Assembly → List TraceEventV2 → Except AgentError Assembly
  | assembly, [] => .ok assembly
  | assembly, event :: rest => do
    let answered ← response_event assembly event
    pair_all answered.2 rest

/-- The two assemblies hold the same answers. -/
structure SameAnswers (assembly other : Assembly) : Prop where
  responses : other.upstream_responses = assembly.upstream_responses
  timeouts : other.upstream_timeouts = assembly.upstream_timeouts

theorem SameAnswers.refl (assembly : Assembly) : SameAnswers assembly assembly := ⟨rfl, rfl⟩

theorem SameAnswers.symm (h : SameAnswers assembly other) : SameAnswers other assembly :=
  ⟨h.responses.symm, h.timeouts.symm⟩

theorem SameAnswers.trans (h : SameAnswers assembly assembly')
    (h' : SameAnswers assembly' other) : SameAnswers assembly other :=
  ⟨h'.responses.trans h.responses, h'.timeouts.trans h.timeouts⟩

/-- Where the answers are the same, so is the answer of a query. -/
theorem SameAnswers.response_event (h : SameAnswers assembly other) {event : TraceEventV2}
    {answer : Option TraceEventV2}
    (hanswer : Agent.response_event assembly event = .ok (answer, assembly')) :
    ∃ other', Agent.response_event other event = .ok (answer, other') ∧
      SameAnswers assembly' other' := by
  unfold Agent.response_event at hanswer ⊢
  by_cases hkind : event.kind = .upstreamQuery
  · rw [if_pos hkind] at hanswer ⊢
    unfold upstream_answer at hanswer ⊢
    rw [h.responses, h.timeouts]
    cases hresponse : assembly.upstream_responses.lookup event.event_id with
    | some response =>
      rw [hresponse] at hanswer
      obtain ⟨u, hbinding, hanswer⟩ := bind_eq_ok.mp hanswer
      obtain ⟨rfl, rfl⟩ := Prod.mk.inj (Except.ok.inj hanswer)
      exact ⟨_, bind_eq_ok.mpr ⟨u, hbinding, rfl⟩, ⟨rfl, rfl⟩⟩
    | none =>
      rw [hresponse] at hanswer
      cases htimeout : assembly.upstream_timeouts.lookup event.event_id with
      | some timeout =>
        rw [htimeout] at hanswer
        obtain ⟨u, hbinding, hanswer⟩ := bind_eq_ok.mp hanswer
        obtain ⟨rfl, rfl⟩ := Prod.mk.inj (Except.ok.inj hanswer)
        exact ⟨_, bind_eq_ok.mpr ⟨u, hbinding, rfl⟩, ⟨rfl, rfl⟩⟩
      | none =>
        rw [htimeout] at hanswer
        cases hanswer
  · rw [if_neg hkind] at hanswer ⊢
    obtain ⟨rfl, rfl⟩ := Prod.mk.inj (Except.ok.inj hanswer)
    exact ⟨other, rfl, h⟩

theorem SameAnswers.pair_all {events : List TraceEventV2} :
    ∀ {assembly other assembly' : Assembly}, SameAnswers assembly other →
      Agent.pair_all assembly events = .ok assembly' →
      ∃ other', Agent.pair_all other events = .ok other' := by
  induction events with
  | nil => intro assembly other assembly' _ _; exact ⟨other, rfl⟩
  | cons event rest ih =>
    intro assembly other assembly' h hpaired
    obtain ⟨⟨answer, next⟩, hanswer, hrest⟩ := bind_eq_ok.mp hpaired
    obtain ⟨next', hanswer', hnext⟩ := h.response_event hanswer
    obtain ⟨other', hrest'⟩ := ih hnext hrest
    exact ⟨other', bind_eq_ok.mpr ⟨_, hanswer', hrest'⟩⟩

/-! ## §2. The loop. -/

/-- A merged downstream graph leaves the answers alone. -/
theorem merge_child_same_answers {target : EvidenceStore.IdentityRecord}
    {child : QueryEvidenceGraphV2} (h : merge_child assembly target child = .ok assembly') :
    SameAnswers assembly assembly' := by
  unfold merge_child at h
  simp only [bind_eq_ok, Except.ok.injEq] at h
  obtain ⟨_, _, _, _, _, _, _, _, rfl⟩ := h
  split <;> exact ⟨rfl, rfl⟩

theorem add_hop_same_answers {now : Int} {status : DnssecStatus} {event answer : TraceEventV2}
    {target_endpoint : DnsEndpoint} {τ : List (Prog.Event AgentOp AgentRes)}
    (h : Prog.Exec (add_hop P config issuer_keys request now status assembly event answer
      target_endpoint) τ (.ok assembly')) : SameAnswers assembly assembly' := by
  unfold add_hop at h
  obtain ⟨digest, _, h⟩ := Prog.exec_okOr_bind.mp h
  obtain ⟨found, _, _, _, _, h⟩ := Prog.exec_bind_ok.mp h
  obtain ⟨target, _, h⟩ := Prog.exec_okOr_bind.mp h
  obtain ⟨_, h⟩ := Prog.exec_rejectIf_bind.mp h
  obtain ⟨target_correlation_id, _, h⟩ := Prog.exec_ofExcept_bind.mp h
  obtain ⟨target_attestation, _, _, _, _, h⟩ := Prog.exec_bind_ok.mp h
  obtain ⟨nodes, _, h⟩ := Prog.exec_ofExcept_bind.mp h
  obtain ⟨from_endpoint, _, h⟩ := Prog.exec_ofExcept_bind.mp h
  obtain ⟨edge, _, h⟩ := Prog.exec_ofExcept_bind.mp h
  unfold descend at h
  split at h
  · obtain ⟨child, _, _, _, _, h⟩ := Prog.exec_bind_ok.mp h
    obtain ⟨_, hmerge⟩ := Prog.exec_ofExcept_ok.mp h
    have hkept := merge_child_same_answers hmerge
    exact ⟨hkept.responses, hkept.timeouts⟩
  · obtain ⟨_, rfl⟩ := Prog.exec_ret_ok.mp h
    exact ⟨rfl, rfl⟩

/-- One turn of the loop pairs its query. -/
theorem process_outbound_paired {now : Int} {status : DnssecStatus} {event : TraceEventV2}
    {τ : List (Prog.Event AgentOp AgentRes)}
    (h : Prog.Exec (process_outbound P config issuer_keys request now status assembly event) τ
      (.ok assembly')) :
    ∃ answer paired, response_event assembly event = .ok (answer, paired) ∧
      SameAnswers paired assembly' := by
  unfold process_outbound at h
  obtain ⟨target_endpoint, _, h⟩ := Prog.exec_okOr_bind.mp h
  obtain ⟨⟨answer, paired⟩, hanswer, h⟩ := Prog.exec_ofExcept_bind.mp h
  refine ⟨answer, paired, hanswer, ?_⟩
  cases answer with
  | none =>
    obtain ⟨_, rfl⟩ := Prog.exec_ret_ok.mp h
    exact SameAnswers.refl paired
  | some answer => exact add_hop_same_answers h

/-- The loop finishes only when every outbound query is paired. -/
theorem pair_all_of_exec {now : Int} {status : DnssecStatus} {events : List TraceEventV2} :
    ∀ {assembly assembly' : Assembly} {τ : List (Prog.Event AgentOp AgentRes)},
      Prog.Exec (process_all P config issuer_keys request now status assembly events) τ
        (.ok assembly') → ∃ paired, pair_all assembly events = .ok paired := by
  induction events with
  | nil => intro assembly _ _ _; exact ⟨assembly, rfl⟩
  | cons event rest ih =>
    intro assembly assembly' τ h
    obtain ⟨next, _, _, _, hfirst, hrest⟩ := Prog.exec_bind_ok.mp h
    obtain ⟨answer, paired, hanswer, hsame⟩ := process_outbound_paired hfirst
    obtain ⟨_, hpaired⟩ := ih hrest
    obtain ⟨last, hlast⟩ := hsame.symm.pair_all hpaired
    exact ⟨last, bind_eq_ok.mpr ⟨_, hanswer, hlast⟩⟩

/-! ## §3. Answered queries. -/

/-- An answer is found under the query it names. -/
theorem mem_by_parent {kind : TraceEventKind} {events : List TraceEventV2} {parent : String}
    {answer : TraceEventV2} :
    (parent, answer) ∈ by_parent kind events ↔
      answer ∈ events ∧ answer.kind = kind ∧ answer.parent_event_id = some parent := by
  unfold by_parent
  rw [List.mem_reverse, List.mem_filterMap]
  constructor
  · intro h
    obtain ⟨event, hmem, hparent⟩ := h
    obtain ⟨hevent, hkind⟩ := List.mem_filter.mp hmem
    obtain ⟨found, hfound, hpair⟩ := Option.map_eq_some_iff.mp hparent
    obtain ⟨rfl, rfl⟩ := Prod.mk.inj hpair
    exact ⟨hevent, of_decide_eq_true hkind, hfound⟩
  · intro h
    obtain ⟨hevent, hkind, hparent⟩ := h
    refine ⟨answer, List.mem_filter.mpr ⟨hevent, decide_eq_true hkind⟩, ?_⟩
    rw [hparent]
    rfl

theorem lookup_remove_parent {event_id query_id : String} (h : query_id ≠ event_id)
    (answers : List (String × TraceEventV2)) :
    (remove_parent event_id answers).lookup query_id = answers.lookup query_id := by
  unfold remove_parent
  induction answers with
  | nil => rfl
  | cons entry rest ih =>
    obtain ⟨parent, answer⟩ := entry
    by_cases hparent : parent = event_id
    · rw [List.filter_cons_of_neg (by simpa using hparent), ih, List.lookup_cons, hparent]
      rw [show (query_id == event_id) = false from beq_false_of_ne h]
    · rw [List.filter_cons_of_pos (by simpa using hparent), List.lookup_cons, List.lookup_cons, ih]

theorem mem_of_lookup {query_id : String} {answer : TraceEventV2}
    {answers : List (String × TraceEventV2)} (h : answers.lookup query_id = some answer) :
    (query_id, answer) ∈ answers := by
  obtain ⟨pre, post, rfl, _⟩ := List.lookup_eq_some_iff.mp h
  exact List.mem_append_right _ List.mem_cons_self

/-- The query has an answer among the events, and all its answers agree with it. -/
structure Answered (events : List TraceEventV2) (query : TraceEventV2) : Prop where
  answered : ∃ answer ∈ events, (answer.kind = .upstreamResponse ∨
    answer.kind = .upstreamTimeout) ∧ answer.parent_event_id = some query.event_id
  agrees : ∀ answer ∈ events, answer.kind = .upstreamResponse ∨ answer.kind = .upstreamTimeout →
    answer.parent_event_id = some query.event_id → violates_binding answer query = false

/-- The assembly still holds the answers to the query. -/
def HoldsAnswers (events : List TraceEventV2) (assembly : Assembly) (query_id : String) : Prop :=
  assembly.upstream_responses.lookup query_id =
      (by_parent .upstreamResponse events).lookup query_id ∧
    assembly.upstream_timeouts.lookup query_id =
      (by_parent .upstreamTimeout events).lookup query_id

/-- An answered query is paired, and the answers to the others stay. -/
theorem response_event_of_answered {events : List TraceEventV2} {query : TraceEventV2}
    (hkind : query.kind = .upstreamQuery) (hanswered : Answered events query)
    (hholds : HoldsAnswers events assembly query.event_id) :
    ∃ answer paired, response_event assembly query = .ok (answer, paired) ∧
      ∀ query_id ≠ query.event_id, HoldsAnswers events assembly query_id →
        HoldsAnswers events paired query_id := by
  unfold response_event upstream_answer
  rw [if_pos hkind, hholds.1, hholds.2]
  cases hresponse : (by_parent .upstreamResponse events).lookup query.event_id with
  | some response =>
    obtain ⟨hmem, hkind', hparent⟩ := mem_by_parent.mp (mem_of_lookup hresponse)
    have hagrees := hanswered.agrees response hmem (Or.inl hkind') hparent
    refine ⟨_, _, bind_eq_ok.mpr ⟨(), rejectIf_eq_ok.mpr hagrees, rfl⟩, ?_⟩
    intro query_id hne hother
    exact ⟨(lookup_remove_parent hne _).trans hother.1, hother.2⟩
  | none =>
    cases htimeout : (by_parent .upstreamTimeout events).lookup query.event_id with
    | some timeout =>
      obtain ⟨hmem, hkind', hparent⟩ := mem_by_parent.mp (mem_of_lookup htimeout)
      have hagrees := hanswered.agrees timeout hmem (Or.inr hkind') hparent
      refine ⟨_, _, bind_eq_ok.mpr ⟨(), rejectIf_eq_ok.mpr hagrees, rfl⟩, ?_⟩
      intro query_id hne hother
      exact ⟨hother.1, (lookup_remove_parent hne _).trans hother.2⟩
    | none =>
      -- the answer is in one of the two maps
      obtain ⟨answer, hmem, hkinds, hparent⟩ := hanswered.answered
      rcases hkinds with hkind' | hkind'
      · have hentry := mem_by_parent.mpr ⟨hmem, hkind', hparent⟩
        have hfound := List.lookup_eq_none_iff.mp hresponse _ hentry
        simp at hfound
      · have hentry := mem_by_parent.mpr ⟨hmem, hkind', hparent⟩
        have hfound := List.lookup_eq_none_iff.mp htimeout _ hentry
        simp at hfound

/-- Queries with distinct ids, each answered, are paired. -/
theorem pair_all_of_answered {events queries : List TraceEventV2}
    (hids : (queries.map TraceEventV2.event_id).Nodup)
    (hqueries : ∀ query ∈ queries, query.kind = .upstreamQuery ∧ Answered events query)
    (hholds : ∀ query ∈ queries, HoldsAnswers events assembly query.event_id) :
    ∃ paired, pair_all assembly queries = .ok paired := by
  induction queries generalizing assembly with
  | nil => exact ⟨assembly, rfl⟩
  | cons query rest ih =>
    obtain ⟨hfirst, hrest⟩ := List.nodup_cons.mp hids
    obtain ⟨hkind, hanswered⟩ := hqueries query List.mem_cons_self
    obtain ⟨answer, next, hanswer, hkept⟩ :=
      response_event_of_answered hkind hanswered (hholds query List.mem_cons_self)
    have hnext : ∀ later ∈ rest, HoldsAnswers events next later.event_id := by
      intro later hlater
      refine hkept later.event_id ?_ (hholds later (List.mem_cons_of_mem _ hlater))
      intro heq
      exact hfirst (heq ▸ List.mem_map_of_mem hlater)
    obtain ⟨paired, hpaired⟩ :=
      ih hrest (fun later hlater => hqueries later (List.mem_cons_of_mem _ hlater)) hnext
    exact ⟨paired, bind_eq_ok.mpr ⟨_, hanswer, hpaired⟩⟩

/-! ## §4. Unanswered queries. -/

/-- A paired query took its answer from one of the two maps, which only shrink. -/
theorem response_event_found {query : TraceEventV2} {answer : Option TraceEventV2}
    (hkind : query.kind = .upstreamQuery)
    (h : response_event assembly query = .ok (answer, assembly')) :
    (∃ found, (query.event_id, found) ∈ assembly.upstream_responses ∨
      (query.event_id, found) ∈ assembly.upstream_timeouts) ∧
      assembly'.upstream_responses ⊆ assembly.upstream_responses ∧
      assembly'.upstream_timeouts ⊆ assembly.upstream_timeouts := by
  unfold response_event upstream_answer at h
  rw [if_pos hkind] at h
  split at h
  case h_1 response hresponse =>
    obtain ⟨_, _, h⟩ := bind_eq_ok.mp h
    obtain ⟨_, rfl⟩ := Prod.mk.inj (Except.ok.inj h)
    exact ⟨⟨response, Or.inl (mem_of_lookup hresponse)⟩, List.filter_subset_self _,
      List.Subset.refl _⟩
  case h_2 =>
    split at h
    case h_1 timeout htimeout =>
      obtain ⟨_, _, h⟩ := bind_eq_ok.mp h
      obtain ⟨_, rfl⟩ := Prod.mk.inj (Except.ok.inj h)
      exact ⟨⟨timeout, Or.inr (mem_of_lookup htimeout)⟩, List.Subset.refl _,
        List.filter_subset_self _⟩
    case h_2 => cases h

/-- Where the queries are paired, each has an answer in one of the two maps. -/
theorem found_of_pair_all {queries : List TraceEventV2} :
    ∀ {assembly paired : Assembly}, (∀ query ∈ queries, query.kind = .upstreamQuery) →
      pair_all assembly queries = .ok paired → ∀ query ∈ queries,
      ∃ found, (query.event_id, found) ∈ assembly.upstream_responses ∨
        (query.event_id, found) ∈ assembly.upstream_timeouts := by
  induction queries with
  | nil => intro _ _ _ _ query hquery; cases hquery
  | cons first rest ih =>
    intro assembly paired hkinds h query hquery
    obtain ⟨⟨answer, next⟩, hfirst, hrest⟩ := bind_eq_ok.mp h
    obtain ⟨hfound, hresponses, htimeouts⟩ :=
      response_event_found (hkinds first List.mem_cons_self) hfirst
    rcases List.mem_cons.mp hquery with rfl | hlater
    · exact hfound
    · obtain ⟨found, hmem⟩ :=
        ih (fun q hq => hkinds q (List.mem_cons_of_mem _ hq)) hrest query hlater
      exact ⟨found, hmem.imp (fun h => hresponses h) (fun h => htimeouts h)⟩

/-- The loop finishes over upstream queries only when each has an answer among the events. -/
theorem answered_of_exec {now : Int} {status : DnssecStatus}
    {self_record : EvidenceStore.IdentityRecord} {events queries : List TraceEventV2}
    {τ : List (Prog.Event AgentOp AgentRes)}
    (hkinds : ∀ query ∈ queries, query.kind = .upstreamQuery)
    (h : Prog.Exec (process_all P config issuer_keys request now status
      (initial_assembly self_record events) queries) τ (.ok assembly')) :
    ∀ query ∈ queries, ∃ answer ∈ events, (answer.kind = .upstreamResponse ∨
      answer.kind = .upstreamTimeout) ∧ answer.parent_event_id = some query.event_id := by
  intro query hquery
  obtain ⟨paired, hpaired⟩ := pair_all_of_exec h
  obtain ⟨answer, hresponse | htimeout⟩ := found_of_pair_all hkinds hpaired query hquery
  · obtain ⟨hmem, hkind, hparent⟩ := mem_by_parent.mp hresponse
    exact ⟨answer, hmem, Or.inl hkind, hparent⟩
  · obtain ⟨hmem, hkind, hparent⟩ := mem_by_parent.mp htimeout
    exact ⟨answer, hmem, Or.inr hkind, hparent⟩

end ResolverIdentity.Agent
