/-
  ResolverIdentity.Agent.Heights: a build run again at other finalized heights.

  The Agents behind a build follow the Registry by themselves, so each of them may
  have issued its graph at another checkpoint.  The build is run a second time here
  against graphs reissued so: same answers of its own store, same clock, other
  references below.

  Main results:
    * `build_graph_mirrors`: the second build returns the same graph up to references,
      as long as nobody names one server with two references;
    * `skew_tolerated_iff`: no other exchange of references is tolerated.
-/
import ResolverIdentity.Agent.Sources
import ResolverIdentity.Agent.Verdicts

namespace ResolverIdentity.Agent

open Library Store Verifier

/-! ## §1. Two runs of a build. -/

/-- The events of the two runs that correspond. -/
inductive Corresponds : Prog.Event AgentOp AgentRes → Prog.Event AgentOp AgentRes → Prop where
  | same (event : Prog.Event AgentOp AgentRes) : Corresponds event event
  /-- Another Agent answers with a reissued graph. -/
  | answered (url : String) (request : EvidenceGraphRequest)
      (child child' : QueryEvidenceGraphV2) :
      Corresponds ⟨.post_graph url request, .body child⟩ ⟨.post_graph url request, .body child'⟩
  /-- The finished graph is stored. -/
  | stored (graph graph' : QueryEvidenceGraphV2) (generation_sql : Int) (answer : Stored Unit) :
      Corresponds ⟨.put_graph graph generation_sql, answer⟩
        ⟨.put_graph graph' generation_sql, answer⟩

/-- The downstream graphs of a run are exchanged for reissued ones. -/
def heights (P : Platform) (given : List EvidenceStore.IdentityRecord) :
    Exchange AgentOp AgentRes QueryEvidenceGraphV2 where
  reply := fun event => reply_of event.1 event.2
  swap := Swapped P given
  same := Corresponds
  given := fun event => ∀ record, record_of event.1 event.2 = some record → record ∈ given

/-- Both runs find the same record, and it is one of `given`. -/
def SameRecord (given : List EvidenceStore.IdentityRecord)
    (found found' : Option EvidenceStore.IdentityRecord) : Prop :=
  found = found' ∧ ∀ record, found = some record → record ∈ given

section Mirror

variable {P : Platform} {config : AgentConfig} {issuer_keys : IssuerKeyRegistry}
variable {request : EvidenceGraphRequest} {given : List EvidenceStore.IdentityRecord}
variable {assembly assembly' : Assembly} {now : Int}

theorem same_record {found : Option EvidenceStore.IdentityRecord}
    (h : ∀ record, found = some record → record ∈ given) :
    Prog.Mirrors (heights P given) (SameRecord given) (.ret found : AgentProg _) (.ret found) :=
  Prog.mirrors_ret ⟨rfl, h⟩

/-- Both runs get the same answer of their store. -/
theorem get_identity_mirrors (server_id : String) :
    Prog.Mirrors (heights P given) (SameRecord given) (get_identity server_id)
      (get_identity server_id) := by
  refine Prog.mirrors_kept Corresponds.same (fun _ => rfl) ?_
  intro r hgiven
  cases r with
  | error e => exact Prog.mirrors_fail
  | ok found =>
    refine same_record ?_
    intro record hrecord
    rw [hrecord] at hgiven
    exact hgiven record rfl

theorem lookup_record_mirrors (server_id : String) :
    Prog.Mirrors (heights P given) (SameRecord given) (lookup_record server_id)
      (lookup_record server_id) := by
  refine Prog.mirrors_kept Corresponds.same (fun _ => rfl) ?_
  intro r hgiven
  cases r with
  | error e => exact Prog.mirrors_fail
  | ok found =>
    refine same_record ?_
    intro record hrecord
    rw [hrecord] at hgiven
    exact hgiven record rfl

/-- Both runs find the same target. -/
theorem lookup_identity_mirrors (endpoint : DnsEndpoint) :
    Prog.Mirrors (heights P given) (SameRecord given) (lookup_identity endpoint)
      (lookup_identity endpoint) := by
  refine Prog.mirrors_kept Corresponds.same (fun _ => rfl) ?_
  intro r _
  refine Prog.mirrors_ofExcept_bind ?_
  intro found hfound
  refine ⟨found, hfound, ?_⟩
  cases found with
  | none => exact same_record (fun record hrecord => by cases hrecord)
  | some server_id => exact lookup_record_mirrors server_id

/-- Programs that ask no other Agent for a graph. -/
theorem unix_time_quiet : Prog.Quiet (heights P given) (unix_time : AgentProg Int) :=
  fun _ => ⟨rfl, trivial⟩

theorem require_fresh_registry_quiet (now : Int) :
    Prog.Quiet (heights P given) (require_fresh_registry config now) := by
  refine Prog.Quiet.bind (fun _ => ⟨rfl, Prog.quiet_ofExcept⟩) ?_
  intro last_success
  exact Prog.quiet_rejectIf

theorem trace_events_quiet (trace_id : String) :
    Prog.Quiet (heights P given) (trace_events trace_id) :=
  fun _ => ⟨rfl, Prog.quiet_ofExcept⟩

/-- Polling asks no other Agent. -/
theorem poll_quiet {claim : AgentProg (Option TraceEventV2)} {error : AgentError}
    (hclaim : Prog.Quiet (heights P given) claim) (turns : Nat) :
    Prog.Quiet (heights P given) (poll claim error turns) := by
  induction turns with
  | zero => exact trivial
  | succ turns ih =>
    refine Prog.Quiet.bind hclaim ?_
    intro found
    cases found with
    | some event => exact trivial
    | none =>
      intro passed
      refine ⟨rfl, ?_⟩
      show Prog.Quiet _ (if passed = true then _ else _ : AgentProg TraceEventV2)
      split
      · exact trivial
      · exact ih

theorem wait_for_trace_anchor_quiet (require_registered_context : Bool) :
    Prog.Quiet (heights P given)
      (wait_for_trace_anchor config request require_registered_context) := by
  refine poll_quiet ?_ _
  cases require_registered_context with
  | true => exact fun _ => ⟨rfl, Prog.quiet_ofExcept⟩
  | false => exact fun _ => ⟨rfl, Prog.quiet_ofExcept⟩

theorem fetch_target_attestation_quiet (target : DnsServerIdentityV2)
    (attestation_request : ResponseAttestationRequest) :
    Prog.Quiet (heights P given) (fetch_target_attestation config target attestation_request) := by
  unfold fetch_target_attestation
  split
  · split
    · exact trivial
    · exact trivial
  · exact fun _ => ⟨rfl, Prog.quiet_ofExcept⟩

theorem cache_generation_quiet : Prog.Quiet (heights P given) cache_generation :=
  fun _ => ⟨rfl, Prog.quiet_ofExcept⟩

theorem finish_graph_quiet (unsigned : QueryEvidenceGraphV2) :
    Prog.Quiet (heights P given) (finish_graph P config issuer_keys request now unsigned) := by
  refine Prog.Quiet.bind Prog.quiet_ofExcept ?_
  intro graph
  refine Prog.Quiet.bind Prog.quiet_ofExcept ?_
  intro _
  refine Prog.Quiet.bind ?_ (fun _ => trivial)
  refine Prog.Quiet.bind cache_generation_quiet ?_
  exact fun _ _ => ⟨rfl, Prog.quiet_ofExcept⟩

theorem build_cache_hit_graph_quiet (self_record : EvidenceStore.IdentityRecord)
    (cache_hit : Option TraceEventV2) :
    Prog.Quiet (heights P given)
      (build_cache_hit_graph P config issuer_keys request self_record cache_hit now) := by
  unfold build_cache_hit_graph
  refine Prog.Quiet.bind Prog.quiet_okOr (fun hit => ?_)
  refine Prog.Quiet.bind Prog.quiet_okOr (fun ttl_expires_at => ?_)
  refine Prog.Quiet.bind Prog.quiet_rejectIf (fun _ => ?_)
  refine Prog.Quiet.bind Prog.quiet_okOr (fun cache_object_digest => ?_)
  refine Prog.Quiet.bind Prog.quiet_okOr (fun source_digest => ?_)
  refine Prog.Quiet.bind ?_ (fun found => ?_)
  · exact Prog.Quiet.bind cache_generation_quiet (fun _ _ => ⟨rfl, Prog.quiet_ofExcept⟩)
  refine Prog.Quiet.bind Prog.quiet_okOr (fun source_graph => ?_)
  refine Prog.Quiet.bind Prog.quiet_rejectIf (fun _ => ?_)
  refine Prog.Quiet.bind Prog.quiet_rejectIf (fun _ => ?_)
  refine Prog.Quiet.bind Prog.quiet_okOr (fun identity_expires_at => ?_)
  exact finish_graph_quiet _

/-- A reissued graph is accepted for the request the original was asked for. -/
theorem accept_of_reissued {child child' : QueryEvidenceGraphV2} (hreissued : Reissued P child child')
    (h : accept_downstream P config issuer_keys request child now = .ok ()) :
    validate_graph P config.mode.policy issuer_keys child' request.challenge now = .ok () ∧
      accept_downstream P config issuer_keys request child' now = .ok () := by
  unfold accept_downstream at h ⊢
  obtain ⟨_, hvalid, hbound⟩ := bind_eq_ok.mp h
  have hvalid' := validate_of_reissued (mapError_eq_ok.mp hvalid) hreissued
  refine ⟨hvalid', bind_eq_ok.mpr ⟨(), mapError_eq_ok.mpr hvalid', ?_⟩⟩
  obtain ⟨_, _, _, _, _, hfields, _⟩ := fields_of_same hreissued.same
  rw [hfields]
  exact hbound

/-- A graph is exchanged for the one it was reissued as. -/
theorem fetch_target_graph_mirrors (target : DnsServerIdentityV2)
    (graph_request : EvidenceGraphRequest) :
    Prog.Mirrors (heights P given)
      (fun child child' => Swapped P given child child' ∧
        ∃ now, validate_graph P config.mode.policy issuer_keys child' graph_request.challenge now =
          .ok ())
      (fetch_target_graph P config issuer_keys target graph_request)
      (fetch_target_graph P config issuer_keys target graph_request) := by
  unfold fetch_target_graph
  refine Prog.mirrors_okOr_bind ?_
  intro service_url _
  refine Prog.mirrors_op ?_
  intro reply _
  cases reply with
  | unreadable error => exact Or.inl ⟨rfl, _, .same _, rfl, Prog.mirrors_fail⟩
  | refused status detail => exact Or.inl ⟨rfl, _, .same _, rfl, Prog.mirrors_fail⟩
  | failed text => exact Or.inl ⟨rfl, _, .same _, rfl, Prog.mirrors_fail⟩
  | body child =>
    refine Or.inr ⟨child, rfl, ?_⟩
    intro child' hswap
    refine ⟨.body child', .answered _ _ child child', rfl, ?_⟩
    refine Prog.mirrors_kept Corresponds.same (fun _ => rfl) ?_
    intro now _
    refine Prog.mirrors_ofExcept_bind ?_
    intro _ haccept
    obtain ⟨hvalid', haccept'⟩ := accept_of_reissued hswap.reissued haccept
    exact ⟨(), haccept', Prog.mirrors_ret ⟨hswap, now, hvalid'⟩⟩

/-- The endpoint of this server in both. -/
theorem self_record_endpoint_congr {nodes nodes' : List EvidenceNodeV2}
    (h : nodes.map EvidenceNodeV2.without_checkpoint = nodes'.map EvidenceNodeV2.without_checkpoint)
    (server_id : String) :
    self_record_endpoint nodes' server_id = self_record_endpoint nodes server_id := by
  have hendpoint : ∀ nodes : List EvidenceNodeV2,
      (find_node (nodes.map EvidenceNodeV2.without_checkpoint) server_id).bind
          (fun node => node.identity.endpoints.head?) =
        (find_node nodes server_id).bind (fun node => node.identity.endpoints.head?) := by
    intro nodes
    rw [find_node_without_checkpoint]
    cases find_node nodes server_id <;> rfl
  unfold self_record_endpoint
  rw [← hendpoint nodes', ← h, hendpoint]

/-- Both merge what came back. -/
theorem descend_mirrors {target : EvidenceStore.IdentityRecord} {event : TraceEventV2}
    {target_correlation_id digest : String} (h : Mirrored P given assembly assembly')
    (hagreed : Agreed given) (htarget : Holds assembly.nodes target.1) :
    Prog.Mirrors (heights P given) (Mirrored P given)
      (descend P config issuer_keys request assembly target event target_correlation_id digest)
      (descend P config issuer_keys request assembly' target event target_correlation_id
        digest) := by
  unfold descend
  split
  · refine Prog.Mirrors.bind (fetch_target_graph_mirrors target.1 _) ?_
    intro child child' hchild
    obtain ⟨hswap, now, hvalid'⟩ := hchild
    refine Prog.mirrors_ofExcept ?_
    intro merged hmerge
    exact h.add_child hagreed htarget hswap hvalid' hmerge
  · exact Prog.mirrors_ret h

/-- One answered query of both builds. -/
theorem add_hop_mirrors {status : DnssecStatus} {event answer : TraceEventV2}
    {target_endpoint : DnsEndpoint} (h : Mirrored P given assembly assembly')
    (hagreed : Agreed given) :
    Prog.Mirrors (heights P given) (Mirrored P given)
      (add_hop P config issuer_keys request now status assembly event answer target_endpoint)
      (add_hop P config issuer_keys request now status assembly' event answer
        target_endpoint) := by
  unfold add_hop
  refine Prog.mirrors_okOr_bind ?_
  intro digest _
  refine Prog.Mirrors.bind (lookup_identity_mirrors target_endpoint) ?_
  intro found _ hfound
  obtain ⟨rfl, hlisted⟩ := hfound
  refine Prog.mirrors_okOr_bind ?_
  intro target htarget
  refine Prog.mirrors_rejectIf_bind ?_
  intro _
  refine Prog.mirrors_ofExcept_bind ?_
  intro target_correlation_id hcorrelation
  refine ⟨target_correlation_id, hcorrelation, ?_⟩
  refine Prog.Mirrors.bind
    (Prog.mirrors_of_quiet Corresponds.same (fetch_target_attestation_quiet target.1 _)) ?_
  intro target_attestation _ hattestation
  obtain rfl := hattestation
  refine Prog.mirrors_ofExcept_bind ?_
  intro nodes hmerge
  obtain ⟨nodes', hmerge', hnodes, hadd⟩ := h.add_target hagreed (hlisted target htarget) hmerge
  refine ⟨nodes', hmerge', ?_⟩
  refine Prog.mirrors_ofExcept_bind ?_
  intro from_endpoint hendpoint
  refine ⟨from_endpoint, (self_record_endpoint_congr hnodes _).trans hendpoint, ?_⟩
  -- the edge is this server's own: the same one in both graphs
  refine Prog.mirrors_ofExcept_bind ?_
  intro edge hsign
  refine ⟨edge, hsign, ?_⟩
  unfold sign_edge at hsign
  obtain ⟨signature, _, hedge⟩ := bind_eq_ok.mp hsign
  obtain rfl := Except.ok.inj hedge
  exact descend_mirrors (hadd _ rfl rfl) hagreed ((holds_merge hmerge).mpr (Or.inr rfl))

/-- Pairing an answer looks at the two maps alone, and changes nothing else. -/
theorem response_event_maps {event : TraceEventV2} {answer : Option TraceEventV2}
    {between : Assembly} (h : response_event assembly event = .ok (answer, between)) :
    ∃ responses timeouts,
      between = { assembly with
        upstream_responses := responses, upstream_timeouts := timeouts } ∧
      ∀ other : Assembly, assembly.upstream_responses = other.upstream_responses →
        assembly.upstream_timeouts = other.upstream_timeouts →
          response_event other event = .ok (answer, { other with
            upstream_responses := responses, upstream_timeouts := timeouts }) := by
  unfold response_event at h ⊢
  by_cases hkind : event.kind = .upstreamQuery
  · rw [if_pos hkind] at h
    simp only [if_pos hkind]
    unfold upstream_answer at h ⊢
    cases hresponse : assembly.upstream_responses.lookup event.event_id with
    | some response =>
      rw [hresponse] at h
      obtain ⟨_, hbound, h⟩ := bind_eq_ok.mp h
      obtain ⟨rfl, rfl⟩ := Prod.mk.inj (Except.ok.inj h)
      refine ⟨_, _, rfl, ?_⟩
      intro other hresponses htimeouts
      rw [← hresponses, hresponse, htimeouts]
      exact bind_eq_ok.mpr ⟨(), hbound, rfl⟩
    | none =>
      rw [hresponse] at h
      cases htimeout : assembly.upstream_timeouts.lookup event.event_id with
      | some timeout =>
        simp only [htimeout] at h
        obtain ⟨_, hbound, h⟩ := bind_eq_ok.mp h
        obtain ⟨rfl, rfl⟩ := Prod.mk.inj (Except.ok.inj h)
        refine ⟨_, _, rfl, ?_⟩
        intro other hresponses htimeouts
        rw [← hresponses, ← htimeouts, hresponse, htimeout]
        exact bind_eq_ok.mpr ⟨(), hbound, rfl⟩
      | none =>
        simp only [htimeout] at h
        cases h
  · rw [if_neg hkind] at h
    simp only [if_neg hkind]
    obtain ⟨rfl, rfl⟩ := Prod.mk.inj (Except.ok.inj h)
    refine ⟨_, _, rfl, ?_⟩
    intro other hresponses htimeouts
    rw [hresponses, htimeouts]

/-- An answer that is paired in one is paired in the other. -/
theorem Mirrored.answered {event : TraceEventV2} {answer : Option TraceEventV2}
    {between : Assembly} (h : Mirrored P given assembly assembly')
    (hanswered : response_event assembly event = .ok (answer, between)) :
    ∃ between', response_event assembly' event = .ok (answer, between') ∧
      Mirrored P given between between' := by
  obtain ⟨responses, timeouts, hbetween, hall⟩ := response_event_maps hanswered
  rw [hbetween]
  exact ⟨_, hall assembly' h.answers.1 h.answers.2, h.nodes, h.edges, h.children, ⟨rfl, rfl⟩,
    h.listed, h.shaped, h.edges_listed, h.edges_signed, h.standing⟩

/-- The loops of both builds. -/
theorem process_all_mirrors {status : DnssecStatus} {events : List TraceEventV2}
    (hagreed : Agreed given) :
    ∀ {assembly assembly' : Assembly}, Mirrored P given assembly assembly' →
      Prog.Mirrors (heights P given) (Mirrored P given)
        (process_all P config issuer_keys request now status assembly events)
        (process_all P config issuer_keys request now status assembly' events) := by
  induction events with
  | nil =>
    intro assembly assembly' h
    exact Prog.mirrors_ret h
  | cons event rest ih =>
    intro assembly assembly' h
    refine Prog.Mirrors.bind ?_ (fun _ _ h' => ih h')
    unfold process_outbound
    refine Prog.mirrors_okOr_bind ?_
    intro target_endpoint _
    refine Prog.mirrors_ofExcept_bind ?_
    intro answered hanswered
    obtain ⟨answer, between⟩ := answered
    obtain ⟨between', hanswered', h'⟩ := h.answered hanswered
    refine ⟨(answer, between'), hanswered', ?_⟩
    cases answer with
    | none => exact Prog.mirrors_ret h'
    | some answer => exact add_hop_mirrors h' hagreed

/-- The graphs differ in their references only. -/
def SameGraph (graph graph' : QueryEvidenceGraphV2) : Prop :=
  graph.without_checkpoints = graph'.without_checkpoints

/-- Either graph is stored. -/
theorem put_graph_mirrors (graph graph' : QueryEvidenceGraphV2) :
    Prog.Mirrors (heights P given) (fun _ _ => True) (put_graph graph) (put_graph graph') := by
  refine Prog.Mirrors.bind (Prog.mirrors_of_quiet Corresponds.same cache_generation_quiet) ?_
  intro generation_sql _ hgeneration
  obtain rfl := hgeneration
  refine Prog.mirrors_op ?_
  intro answer _
  refine Or.inl ⟨rfl, answer, .stored graph graph' generation_sql answer, rfl, ?_⟩
  exact Prog.mirrors_ofExcept (fun a ha => ⟨a, ha, trivial⟩)

/-- Both graphs are signed, accepted and stored. -/
theorem finish_graph_mirrors (h : Mirrored P given assembly assembly') (hagreed : Agreed given)
    (hkeys : OwnKey P config given) :
    Prog.Mirrors (heights P given) SameGraph
      (finish_graph P config issuer_keys request now (resolved_graph config request now assembly))
      (finish_graph P config issuer_keys request now
        (resolved_graph config request now assembly')) := by
  refine Prog.mirrors_of_returns ?_
  intro τ result hrun
  -- what was signed first was accepted, so the second graph is
  obtain ⟨graph, hsign, hrest⟩ := Prog.exec_ofExcept_bind.mp hrun
  obtain ⟨_, hvalid, _⟩ := Prog.exec_ofExcept_bind.mp hrest
  have hvalid := mapError_eq_ok.mp hvalid
  obtain ⟨graph', hsign', hreissued⟩ := h.finished hagreed hkeys hsign hvalid
  have hvalid' := validate_of_reissued hvalid hreissued
  unfold finish_graph
  refine Prog.mirrors_ofExcept_bind ?_
  intro signed hsigned
  obtain rfl : graph = signed := Except.ok.inj (hsign.symm.trans hsigned)
  refine ⟨graph', hsign', Prog.mirrors_ofExcept_bind ?_⟩
  intro _ _
  refine ⟨(), mapError_eq_ok.mpr hvalid', ?_⟩
  refine Prog.Mirrors.bind (put_graph_mirrors graph graph') ?_
  intro _ _ _
  exact Prog.mirrors_ret hreissued.same

/-- Both builds start with this server alone. -/
theorem Mirrored.initial {self_record : EvidenceStore.IdentityRecord} (hself : self_record ∈ given)
    (events : List TraceEventV2) :
    Mirrored P given (initial_assembly self_record events) (initial_assembly self_record events) where
  nodes := rfl
  edges := rfl
  children := rfl
  answers := ⟨rfl, rfl⟩
  listed := by
    intro record hrecord
    rw [List.mem_singleton.mp hrecord]
    exact hself
  shaped := fun record hrecord => Or.inr hrecord
  edges_listed := by
    intro edge hedge
    cases hedge
  edges_signed := by
    intro edge hedge
    cases hedge
  standing := by
    intro child hchild
    cases hchild

theorem build_from_events_mirrors {self_record : EvidenceStore.IdentityRecord}
    {anchor : TraceEventV2} {events : List TraceEventV2} (hself : self_record ∈ given)
    (hagreed : Agreed given) (hkeys : OwnKey P config given) :
    Prog.Mirrors (heights P given) SameGraph
      (build_from_events P config issuer_keys request now self_record anchor events)
      (build_from_events P config issuer_keys request now self_record anchor events) := by
  unfold build_from_events
  show Prog.Mirrors _ _
    (if (events.filter (is_outbound config request)).isEmpty = true then _ else _ :
      AgentProg QueryEvidenceGraphV2)
    (if (events.filter (is_outbound config request)).isEmpty = true then _ else _)
  split
  · refine (Prog.mirrors_of_quiet Corresponds.same (build_cache_hit_graph_quiet _ _)).mono ?_
    intro graph graph' heq
    rw [heq]
    exact rfl
  · refine Prog.Mirrors.bind (process_all_mirrors hagreed (Mirrored.initial hself events)) ?_
    intro assembly assembly' h
    exact finish_graph_mirrors h hagreed hkeys

/-- Whatever the downstream graphs are exchanged for, the second build returns the same
graph up to references. -/
theorem build_graph_mirrors (require_registered_context : Bool) (hagreed : Agreed given)
    (hkeys : OwnKey P config given) :
    Prog.Mirrors (heights P given) SameGraph
      (build_graph_with_context P config issuer_keys request require_registered_context)
      (build_graph_with_context P config issuer_keys request require_registered_context) := by
  unfold build_graph_with_context
  refine Prog.mirrors_ofExcept_bind ?_
  intro _ hrequest
  refine ⟨(), hrequest, ?_⟩
  refine Prog.Mirrors.bind (Prog.mirrors_of_quiet Corresponds.same unix_time_quiet) ?_
  intro now _ hnow
  obtain rfl := hnow
  refine Prog.Mirrors.bind
    (Prog.mirrors_of_quiet Corresponds.same (require_fresh_registry_quiet now)) ?_
  intro _ _ _
  refine Prog.mirrors_rejectIf_bind ?_
  intro _
  refine Prog.mirrors_rejectIf_bind ?_
  intro _
  refine Prog.Mirrors.bind (get_identity_mirrors config.server_id) ?_
  intro found _ hfound
  obtain ⟨rfl, hlisted⟩ := hfound
  refine Prog.mirrors_okOr_bind ?_
  intro self_record hself
  refine Prog.Mirrors.bind (Prog.mirrors_of_quiet Corresponds.same
    (wait_for_trace_anchor_quiet require_registered_context)) ?_
  intro anchor _ hanchor
  obtain rfl := hanchor
  refine Prog.Mirrors.bind
    (Prog.mirrors_of_quiet Corresponds.same (trace_events_quiet anchor.trace_id)) ?_
  intro events _ hevents
  obtain rfl := hevents
  exact build_from_events_mirrors (hlisted self_record hself) hagreed hkeys

end Mirror

/-! ## §2. The exact condition. -/

/-- A downstream graph with other references, which its producers have signed again. -/
structure Resigned (P : Platform) (child child' : QueryEvidenceGraphV2) : Prop where
  same : SameGraph child child'
  signed : AgentSigned P child'
  attached : ∀ inner ∈ child'.terminal_cache_graphs, AgentSigned P inner

/-- The references of a graph are in order, and those of the graphs attached to it. -/
def Referenced (child : QueryEvidenceGraphV2) : Prop :=
  Coherent child ∧ ∀ inner ∈ child.terminal_cache_graphs, Coherent inner

/-- With references in order, it is what its producers could issue. -/
theorem Resigned.reissued {P : Platform} {child child' : QueryEvidenceGraphV2}
    (h : Resigned P child child') (hreferenced : Referenced child') : Reissued P child child' where
  same := h.same
  standing := ⟨hreferenced.1, h.signed⟩
  attached := fun inner hinner => ⟨hreferenced.2 inner hinner, h.attached inner hinner⟩

section Exact

variable {P : Platform} {config : AgentConfig} {issuer_keys : IssuerKeyRegistry}
variable {request : EvidenceGraphRequest} {require_registered_context : Bool}
variable {τ τ' : List (Prog.Event AgentOp AgentRes)} {graph : QueryEvidenceGraphV2}
variable {exchanged : List QueryEvidenceGraphV2}

variable (P config issuer_keys request require_registered_context τ graph exchanged) in
/-- The build returns the same graph, up to references, when the downstream graphs are
exchanged. -/
def Tolerated : Prop :=
  ∃ τ' graph', Prog.Exec
      (build_graph_with_context P config issuer_keys request require_registered_context) τ'
      (.ok graph') ∧
    List.Forall₂ Corresponds τ τ' ∧ downstream τ' = exchanged ∧ SameGraph graph graph'

/-- The store answers both runs alike. -/
theorem own_records_of_corresponds (h : List.Forall₂ Corresponds τ τ') :
    own_records τ = own_records τ' := by
  induction h with
  | nil => rfl
  | cons hevent _ ih =>
    unfold own_records at ih ⊢
    cases hevent with
    | same event => rw [List.filterMap_cons, List.filterMap_cons, ih]
    | answered url request child child' => exact ih
    | stored graph graph' generation_sql answer => exact ih

/-- Each reissued graph has a counterpart among the originals. -/
theorem exists_original {originals : List QueryEvidenceGraphV2}
    (h : List.Forall₂ (Resigned P) originals exchanged) {child' : QueryEvidenceGraphV2}
    (hmem : child' ∈ exchanged) : ∃ child ∈ originals, Resigned P child child' := by
  induction h with
  | nil => cases hmem
  | cons hone _ ih =>
    rcases List.mem_cons.mp hmem with rfl | hrest
    · exact ⟨_, List.mem_cons_self, hone⟩
    · obtain ⟨child, hchild, hresigned⟩ := ih hrest
      exact ⟨child, List.mem_cons_of_mem _ hchild, hresigned⟩

/-- What a reissued graph says of a server's identity, the original says. -/
theorem identity_of_exchanged (h : List.Forall₂ (Resigned P) (downstream τ) exchanged)
    {record : EvidenceStore.IdentityRecord} (hrecord : record ∈ exchanged.flatMap child_records) :
    ∃ original ∈ (downstream τ).flatMap child_records, original.1 = record.1 := by
  obtain ⟨child', hchild', hmem⟩ := List.mem_flatMap.mp hrecord
  obtain ⟨child, hchild, hresigned⟩ := exists_original h hchild'
  obtain ⟨_, _, _, _, _, hfields, _, _, hnodes, _⟩ := fields_of_same hresigned.same
  obtain ⟨node', hnode', rfl⟩ := List.mem_map.mp hmem
  obtain ⟨hin, hne⟩ := List.mem_filter.mp hnode'
  rw [hfields] at hin hne
  obtain ⟨node, hnode, heq⟩ := mem_transfer hnodes hin
  have hidentity : node.identity = node'.identity := (congrArg EvidenceNodeV2.identity heq :)
  refine ⟨node_record node, List.mem_flatMap.mpr ⟨child, hchild, List.mem_map_of_mem ?_⟩,
    hidentity⟩
  refine List.mem_filter.mpr ⟨hnode, ?_⟩
  rw [hidentity]
  exact hne

/-- The key of this server's Agent, whoever names it. -/
theorem own_key_of_run
    (hrun : Prog.Exec
      (build_graph_with_context P config issuer_keys request require_registered_context) τ
      (.ok graph))
    (hkeys : ∀ entry agent, find_node graph.nodes config.server_id = some entry →
      entry.identity.agent = some agent → KeyPair P config.private_key_b64 agent.public_key)
    (hexchanged : List.Forall₂ (Resigned P) (downstream τ) exchanged) :
    OwnKey P config (own_records τ ++ exchanged.flatMap child_records) := by
  have hsourced := gathered_of_run hrun
  obtain ⟨_, hvalid⟩ := hsourced.2
  have hread : ∀ record ∈ own_records τ ++ (downstream τ).flatMap child_records,
      record.1.server_id = config.server_id → ∀ agent, record.1.agent = some agent →
        KeyPair P config.private_key_b64 agent.public_key := by
    intro record hrecord hid agent hagent
    obtain ⟨node, hnode, rfl⟩ := List.mem_map.mp (hsourced.listed hrecord)
    refine hkeys node agent ?_ hagent
    rw [← hid]
    exact find_node_of_mem (nodup_of_validate hvalid) hnode
  intro record hrecord
  rcases List.mem_append.mp hrecord with hown | hbelow
  · exact hread record (List.mem_append_left _ hown)
  · obtain ⟨original, horiginal, hsame⟩ := identity_of_exchanged hexchanged hbelow
    rw [← hsame]
    exact hread original (List.mem_append_right _ horiginal)

/-- A second build that returned has read references that agree. -/
theorem agreed_of_tolerated
    (h : Tolerated P config issuer_keys request require_registered_context τ graph exchanged) :
    (∀ child ∈ exchanged, Referenced child) ∧
      Agreed (own_records τ ++ exchanged.flatMap child_records) := by
  obtain ⟨τ', graph', hrun', hsame, hbelow, _⟩ := h
  have hsourced := gathered_of_run hrun'
  rw [hbelow, ← own_records_of_corresponds hsame] at hsourced
  refine ⟨?_, hsourced.agreed⟩
  intro child hchild
  obtain ⟨challenge, now, hvalid⟩ := hsourced.1.accepted child hchild
  refine ⟨(standing_of_validate hvalid).toCoherent, ?_⟩
  intro inner hinner
  exact (standing_of_validate (attached_checked_of_validate hvalid hinner).accepted).toCoherent

/-- Exchanging references below is tolerated exactly when every exchanged graph is in order
by itself and no server is named with two references, by this server or behind the entries
of the downstream graphs. -/
theorem skew_tolerated_iff
    (hrun : Prog.Exec
      (build_graph_with_context P config issuer_keys request require_registered_context) τ
      (.ok graph))
    (hkeys : ∀ entry agent, find_node graph.nodes config.server_id = some entry →
      entry.identity.agent = some agent → KeyPair P config.private_key_b64 agent.public_key)
    (hexchanged : List.Forall₂ (Resigned P) (downstream τ) exchanged) :
    Tolerated P config issuer_keys request require_registered_context τ graph exchanged ↔
      (∀ child ∈ exchanged, Referenced child) ∧
        Agreed (own_records τ ++ exchanged.flatMap child_records) := by
  constructor
  · exact agreed_of_tolerated
  · intro hcondition
    obtain ⟨hreferenced, hagreed⟩ := hcondition
    have hswap : List.Forall₂
        (Swapped P (own_records τ ++ exchanged.flatMap child_records)) (downstream τ)
          exchanged := by
      have hmembers := (List.forall₂_and_left (p := (· ∈ exchanged)) exchanged
        (downstream τ)).mpr ⟨fun _ hmem => hmem, hexchanged.flip⟩
      refine hmembers.flip.imp ?_
      intro child child' hboth
      obtain ⟨hmem, hresigned⟩ := hboth
      refine ⟨hresigned.reissued (hreferenced child' hmem), ?_⟩
      intro record hrecord
      exact List.mem_append_right _ (List.mem_flatMap.mpr ⟨child', hmem, hrecord⟩)
    have hgiven : ∀ event ∈ τ,
        (heights P (own_records τ ++ exchanged.flatMap child_records)).given event := by
      intro event hevent record hrecord
      exact List.mem_append_left _ (List.mem_filterMap.mpr ⟨event, hevent, hrecord⟩)
    exact build_graph_mirrors require_registered_context hagreed
      (own_key_of_run hrun hkeys hexchanged) τ graph hrun hgiven exchanged hswap

end Exact

/-! ## §3. One block later. -/

/-- The reference an Agent has that follows the Registry one block further. -/
def later (reference : RegistryReferenceV2) : RegistryReferenceV2 :=
  { reference with
    checkpoint_height := 101
    checkpoint_hash := digest_of '5'
    snapshot_generation := 11 }

/-- An edge with that reference, signed again. -/
def reissue_edge (P : Platform) (private_key_b64 : String) (edge : ServerHopEvidenceV2) :
    ServerHopEvidenceV2 :=
  let edge : ServerHopEvidenceV2 := { edge with registry := later edge.registry }
  { edge with signature := (P.sign_ed25519 edge.to_value private_key_b64).toOption }

/-- A graph with such references, signed again. -/
def reissue (P : Platform) (private_key_b64 : String) (graph : QueryEvidenceGraphV2) :
    QueryEvidenceGraphV2 :=
  let graph : QueryEvidenceGraphV2 := { graph with
    nodes := graph.nodes.map (fun node => { node with registry := later node.registry })
    edges := graph.edges.map (reissue_edge P private_key_b64) }
  { graph with signature := (P.sign_ed25519 graph.to_value private_key_b64).toOption }

/-- Nothing but references and signatures has changed. -/
theorem same_of_reissue (P : Platform) (private_key_b64 : String) (graph : QueryEvidenceGraphV2) :
    SameGraph graph (reissue P private_key_b64 graph) := by
  unfold SameGraph
  rw [without_checkpoints_eq, without_checkpoints_eq]
  unfold reissue
  simp only [List.map_map]
  rfl

/-- The signatures of `resolver-b` one block later. -/
def later_recording : Recording where
  digests := []
  keys := []
  signatures := [
    (agent_key_b, "\x7b\"accepted\"",
      "6tQ62Qb5Rz50pRn9OPA3Ovv2O3i5sW/7idwmENIwCoQnPWgMrgDUQqP9gXtVNc81OjROk2qXE2FrsiGqhrGsCQ=="),
    (agent_key_b, answer_text (digest_of '7'),
      "ZQ7rNz6CHke+OGT5IRff7mnZxpJhcgkQBKwYDhWogOot8Pwru0/QS9qJVwGeClttOVesQG2QP3CrRUEsY3QIAQ==")]

/-- The text names the later checkpoint: `0x55` is in it. -/
def names_later : List UInt8 → Bool
  | [] => false
  | byte :: rest => [48, 120, 53, 53].isPrefixOf (byte :: rest) || names_later rest

/-- The recorded signature of a text; one of zeros where no run signs it. -/
def height_signature (public_key bytes : List UInt8) : List UInt8 :=
  let recording :=
    if base64_text agent_key_b = public_key ∧ names_later bytes = true then later_recording
    else verdict_recording
  (recording.signed public_key bytes).getD (List.replicate 64 0)

/-- The recorded results of both heights. -/
def height_platform : Platform :=
  { verdict_platform with
    ed25519_sign := fun seed bytes => height_signature (verdict_recording.public_key seed) bytes
    ed25519_verify := fun key bytes signature => height_signature key bytes = signature }

/-- What is recorded can be written and read. -/
theorem height_signature_text (public_key bytes : List UInt8) :
    base64_decode (as_bytes (String.ofList (base64_chars (height_signature public_key bytes)))) =
        some (height_signature public_key bytes) ∧
      (height_signature public_key bytes).length = 64 := by
  refine ⟨base64_decode_chars _, ?_⟩
  have hrecorded : ∀ recording ∈ [later_recording, verdict_recording],
      ∀ entry ∈ recording.signatures, (base64_text entry.2.2).length = 64 := by
    decide +kernel
  have hsigned : ∀ recording ∈ [later_recording, verdict_recording],
      ((recording.signed public_key bytes).getD (List.replicate 64 0)).length = 64 := by
    intro recording hrecording
    unfold Recording.signed
    cases hfind : recording.signatures.find? _ with
    | none => exact List.length_replicate
    | some entry => exact hrecorded recording hrecording entry (List.mem_of_find?_eq_some hfind)
  unfold height_signature
  dsimp only
  split
  · exact hsigned _ List.mem_cons_self
  · exact hsigned _ (List.mem_cons_of_mem _ List.mem_cons_self)

/-- The keys of `resolver-a` belong together. -/
theorem height_key_pair : KeyPair height_platform config_a.private_key_b64 agent_key_a := by
  have hpublic : verdict_recording.public_key (List.replicate 32 2) = base64_text agent_key_a := by
    decide +kernel
  have hseed : height_platform.private_bytes config_a.private_key_b64 = .ok (List.replicate 32 2) := by
    decide +kernel
  have hkey : height_platform.base64_decode (as_bytes agent_key_a) =
      some (base64_text agent_key_a) := by
    decide +kernel
  refine key_pair_of_seed hseed hkey (by decide +kernel) (by decide +kernel) ?_ ?_ ?_
  · exact fun bytes => (height_signature_text _ bytes).1
  · exact fun bytes => (height_signature_text _ bytes).2
  · intro bytes
    show decide (height_signature _ bytes = height_signature _ bytes) = true
    rw [hpublic]
    exact decide_eq_true rfl

/-- The build of `resolver-a`, with these answers of the other Agent. -/
def height_run (child : QueryEvidenceGraphV2) :
    List (Prog.Event AgentOp AgentRes) × Except AgentError QueryEvidenceGraphV2 × EvidenceStore :=
  lab_build height_platform
    { lab_surroundings 1750000000 with
      attestation := .body secure_attestation
      graph := .body child }
    insecure_request (verdict_store insecure_events)

/-- What the other Agent answers a block later. -/
def later_graph (child : QueryEvidenceGraphV2) : QueryEvidenceGraphV2 :=
  reissue height_platform config_b.private_key_b64 child

/-- No other graph comes back. -/
theorem downstream_height_run {child : QueryEvidenceGraphV2}
    (hlength : (downstream (height_run child).1).length = 1) :
    downstream (height_run child).1 = [child] := by
  obtain ⟨graph, hone⟩ := List.length_eq_one_iff.mp hlength
  have hmem : graph ∈ downstream (height_run child).1 := by
    rw [hone]
    exact List.mem_cons_self
  obtain ⟨event, hevent, hreply⟩ := List.mem_filterMap.mp hmem
  obtain ⟨s, hanswer⟩ := Prog.mem_trace hevent
  rw [hanswer] at hreply
  rw [hone]
  cases hop : event.1 with
  | post_graph url request =>
    rw [hop] at hreply
    exact congrArg (fun graph => [graph]) (Option.some.inj hreply).symm
  | _ =>
    rw [hop] at hreply
    cases hreply

/-- The build returns, and so does the verifier for the reissued graph; only the references
to `authority-a`, which both Agents have asked, differ. -/
theorem height_run_returns :
    secure_graph.toOption.map (fun child =>
      ((height_run child).2.1.toOption.map (fun graph =>
          ((find_node graph.nodes config_a.server_id).bind (fun node => node.identity.agent)).map
            AgentBindingV2.public_key),
        (downstream (height_run child).1).length,
        (validate_graph height_platform config_a.mode.policy lab_issuer_keys (later_graph child)
          challenge_0 1750000000).toOption.isSome,
        decide (Agreed (own_records (height_run child).1 ++
          [later_graph child].flatMap child_records)))) =
      some (some (some agent_key_a), 1, true, false) := by
  decide +kernel

/-- What these results say. -/
theorem height_run_facts : ∃ child graph,
    Prog.Exec (build_graph_with_context height_platform config_a lab_issuer_keys insecure_request
      false) (height_run child).1 (.ok graph) ∧
    (∀ entry agent, find_node graph.nodes config_a.server_id = some entry →
      entry.identity.agent = some agent →
        KeyPair height_platform config_a.private_key_b64 agent.public_key) ∧
    List.Forall₂ (Resigned height_platform) (downstream (height_run child).1)
      [later_graph child] ∧
    Referenced (later_graph child) ∧
    ¬ Agreed (own_records (height_run child).1 ++ [later_graph child].flatMap child_records) := by
  obtain ⟨child, _, hshown⟩ := Option.map_eq_some_iff.mp height_run_returns
  simp only [Prod.mk.injEq] at hshown
  obtain ⟨hgraph, hlength, hvalid, hdiffer⟩ := hshown
  obtain ⟨graph, hreturned, hkey⟩ := Option.map_eq_some_iff.mp hgraph
  obtain ⟨_, hvalid⟩ := Option.isSome_iff_exists.mp hvalid
  have hvalid := toOption_eq_some hvalid
  refine ⟨child, graph, lab_build_exec hreturned, ?_, ?_, ?_, of_decide_eq_false hdiffer⟩
  · intro entry agent hentry hagent
    rw [hentry, Option.bind_some, hagent, Option.map_some] at hkey
    rw [Option.some.inj hkey]
    exact height_key_pair
  · rw [downstream_height_run hlength]
    refine List.Forall₂.cons ⟨same_of_reissue _ _ _, (standing_of_validate hvalid).toAgentSigned, ?_⟩
      List.Forall₂.nil
    intro inner hinner
    exact (standing_of_validate
      (attached_checked_of_validate hvalid hinner).accepted).toAgentSigned
  · refine ⟨(standing_of_validate hvalid).toCoherent, ?_⟩
    intro inner hinner
    exact (standing_of_validate (attached_checked_of_validate hvalid hinner).accepted).toCoherent

/-- A run whose one downstream graph is reissued. -/
theorem skew_tolerated_height_run : ∃ child graph,
    Prog.Exec (build_graph_with_context height_platform config_a lab_issuer_keys insecure_request
      false) (height_run child).1 (.ok graph) ∧
    (Tolerated height_platform config_a lab_issuer_keys insecure_request false
        (height_run child).1 graph [later_graph child] ↔
      (∀ other ∈ [later_graph child], Referenced other) ∧
        Agreed (own_records (height_run child).1 ++
          [later_graph child].flatMap child_records)) := by
  obtain ⟨child, graph, hrun, hkeys, hexchanged, _⟩ := height_run_facts
  exact ⟨child, graph, hrun, skew_tolerated_iff hrun hkeys hexchanged⟩

/-- The other Agent is a block ahead, in order by itself, and nothing is built. -/
theorem shared_authority_not_tolerated : ∃ child graph,
    Prog.Exec (build_graph_with_context height_platform config_a lab_issuer_keys insecure_request
      false) (height_run child).1 (.ok graph) ∧
    List.Forall₂ (Resigned height_platform) (downstream (height_run child).1)
      [later_graph child] ∧
    Referenced (later_graph child) ∧
    ¬ Tolerated height_platform config_a lab_issuer_keys insecure_request false
      (height_run child).1 graph [later_graph child] := by
  obtain ⟨child, graph, hrun, _, hexchanged, hreferenced, hdiffer⟩ := height_run_facts
  exact ⟨child, graph, hrun, hexchanged, hreferenced,
    fun htolerated => hdiffer (agreed_of_tolerated htolerated).2⟩

end ResolverIdentity.Agent
