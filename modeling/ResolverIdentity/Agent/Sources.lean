/-
  ResolverIdentity.Agent.Sources: what a build reads of the Registry.

  A build reads records from its own store, and others in the graphs of the Agents it
  asks.  Merging keeps one record of each server, so whatever a build has read when it
  returns is in its graph, and no server is named there with two references.

  Main results:
    * `gathered_of_run`: every record read is in the returned graph, and every graph
      that came back was accepted;
    * `Sourced.agreed`: what was read of one server is one record.
-/
import ResolverIdentity.Agent.Skew

namespace ResolverIdentity.Agent

open Library Store Verifier

/-! ## §1. Records read by a run. -/

/-- What a run has read of the Registry, by itself and through others. -/
structure Sources where
  own : List EvidenceStore.IdentityRecord
  children : List QueryEvidenceGraphV2

/-- What an answer adds to it. -/
def Sources.see (sources : Sources) : (op : AgentOp) → AgentRes op → Sources
  | .get_identity _, .ok (some record) => { sources with own := sources.own ++ [record] }
  | .lookup_record _, .ok (some record) => { sources with own := sources.own ++ [record] }
  | .post_graph _ _, .body graph => { sources with children := sources.children ++ [graph] }
  | _, _ => sources

/-- The same without cases. -/
theorem Sources.see_eq (sources : Sources) (op : AgentOp) (answer : AgentRes op) :
    sources.see op answer =
      ⟨sources.own ++ (record_of op answer).toList,
        sources.children ++ (reply_of op answer).toList⟩ := by
  have hkept : sources = ⟨sources.own ++ [], sources.children ++ []⟩ := by
    rw [List.append_nil, List.append_nil]
  cases op with
  | get_identity server_id =>
    match answer with
    | .ok (some record) => exact congrArg (Sources.mk _) (List.append_nil _).symm
    | .ok none => exact hkept
    | .error e => exact hkept
  | lookup_record server_id =>
    match answer with
    | .ok (some record) => exact congrArg (Sources.mk _) (List.append_nil _).symm
    | .ok none => exact hkept
    | .error e => exact hkept
  | post_graph url request =>
    match answer with
    | .body graph => exact congrArg (Sources.mk · _) (List.append_nil _).symm
    | .unreadable error => exact hkept
    | .refused status detail => exact hkept
    | .failed text => exact hkept
  | _ => exact hkept

/-- Any operation, any answer: only what was read counts. -/
def sourceProtocol : Protocol AgentOp AgentRes Sources where
  permits := fun _ _ => True
  answers := fun _ _ _ => True
  next := Sources.see

/-- What has been read after a run. -/
theorem after_sources (τ : List (Prog.Event AgentOp AgentRes)) :
    ∀ sources, Prog.after sourceProtocol sources τ =
      ⟨sources.own ++ own_records τ, sources.children ++ downstream τ⟩ := by
  induction τ with
  | nil =>
    intro sources
    rw [own_records, downstream, List.filterMap_nil, List.filterMap_nil, List.append_nil,
      List.append_nil]
    rfl
  | cons event rest ih =>
    intro sources
    obtain ⟨op, answer⟩ := event
    have hown : own_records (⟨op, answer⟩ :: rest) =
        (record_of op answer).toList ++ own_records rest := by
      unfold own_records
      rw [List.filterMap_cons]
      cases record_of op answer <;> rfl
    have hchildren : downstream (⟨op, answer⟩ :: rest) =
        (reply_of op answer).toList ++ downstream rest := by
      unfold downstream
      rw [List.filterMap_cons]
      cases reply_of op answer <;> rfl
    show Prog.after sourceProtocol (sources.see op answer) rest = _
    rw [ih, sources.see_eq, hown, hchildren, List.append_assoc, List.append_assoc]

/-- A program watched for what it reads; a failed one is of no interest. -/
abbrev Reads {α : Type} (p : AgentProg α) (Q : α → Sources → Prop) (sources : Sources) : Prop :=
  p.Follows sourceProtocol Q (fun _ _ => True) sources

/-- Every record read is among the nodes, and every graph was accepted. -/
structure Gathered (P : Platform) (config : AgentConfig) (issuer_keys : IssuerKeyRegistry)
    (sources : Sources) (nodes : List EvidenceNodeV2) : Prop where
  own : ∀ record ∈ sources.own, record ∈ records nodes
  children : ∀ child ∈ sources.children, ∀ record ∈ child_records child, record ∈ records nodes
  accepted : ∀ child ∈ sources.children, ∃ challenge now,
    validate_graph P config.mode.policy issuer_keys child challenge now = .ok ()

section Gather

variable {P : Platform} {config : AgentConfig} {issuer_keys : IssuerKeyRegistry}
variable {request : EvidenceGraphRequest} {sources : Sources} {assembly assembly' : Assembly}
variable {nodes nodes' : List EvidenceNodeV2} {target : EvidenceStore.IdentityRecord}

/-- More records do no harm. -/
theorem Gathered.mono (h : Gathered P config issuer_keys sources nodes)
    (hsub : ∀ record ∈ records nodes, record ∈ records nodes') :
    Gathered P config issuer_keys sources nodes' where
  own := fun record hrecord => hsub record (h.own record hrecord)
  children := fun child hchild record hrecord => hsub record (h.children child hchild record hrecord)
  accepted := h.accepted

/-- A record that is merged may have been read. -/
theorem Gathered.add_own (h : Gathered P config issuer_keys sources nodes)
    (htarget : target ∈ records nodes) :
    Gathered P config issuer_keys { sources with own := sources.own ++ [target] } nodes where
  own := by
    intro record hrecord
    rcases List.mem_append.mp hrecord with hold | hnew
    · exact h.own record hold
    · rw [List.mem_singleton.mp hnew]
      exact htarget
  children := h.children
  accepted := h.accepted

/-- So may a graph that is merged. -/
theorem Gathered.add_child {child : QueryEvidenceGraphV2} {challenge : String} {now : Int}
    (h : Gathered P config issuer_keys sources assembly.nodes)
    (hvalid : validate_graph P config.mode.policy issuer_keys child challenge now = .ok ())
    (hmerge : merge_child assembly target child = .ok assembly') :
    Gathered P config issuer_keys { sources with children := sources.children ++ [child] }
      assembly'.nodes := by
  obtain ⟨hentry, _, nodes, hnodes, hmerged⟩ := merge_child_iff.mp hmerge
  have hall : Gathered P config issuer_keys sources assembly'.nodes := by
    refine h.mono ?_
    intro record hrecord
    rw [hmerged, Assembly.with_child_nodes]
    exact (mem_records_merge_child hnodes).mpr (Or.inl hrecord)
  refine ⟨hall.own, ?_, ?_⟩
  · intro other hother record hrecord
    rcases List.mem_append.mp hother with hold | hnew
    · exact hall.children other hold record hrecord
    · rw [List.mem_singleton.mp hnew] at hrecord
      obtain ⟨node, hnode, hrecord⟩ := List.mem_map.mp hrecord
      obtain ⟨hmem, hne⟩ := List.mem_filter.mp hnode
      rw [hentry] at hne
      rw [hmerged, Assembly.with_child_nodes]
      exact (mem_records_merge_child hnodes).mpr
        (Or.inr ⟨node, hmem, of_decide_eq_true hne, hrecord.symm⟩)
  · intro other hother
    rcases List.mem_append.mp hother with hold | hnew
    · exact hall.accepted other hold
    · rw [List.mem_singleton.mp hnew]
      exact ⟨challenge, now, hvalid⟩

end Gather

/-! ## §2. Everything read is in the graph. -/

section Reads

variable {P : Platform} {config : AgentConfig} {issuer_keys : IssuerKeyRegistry}
variable {request : EvidenceGraphRequest} {sources : Sources} {assembly : Assembly}

/-- Polling reads no record. -/
theorem poll_reads {claim : AgentProg (Option TraceEventV2)} {error : AgentError}
    (hclaim : Reads claim (fun _ sources' => sources' = sources) sources) {turns : Nat} :
    Reads (poll claim error turns) (fun _ sources' => sources' = sources) sources := by
  induction turns with
  | zero => exact trivial
  | succ turns ih =>
    unfold poll
    refine Prog.Follows.bind hclaim ?_
    intro found sources' hsame
    rw [hsame]
    cases found with
    | some event => exact rfl
    | none =>
      refine ⟨trivial, fun passed _ => ?_⟩
      show (if passed = true then _ else _ : AgentProg TraceEventV2).Follows _ _ _ _
      split
      · exact trivial
      · exact ih

theorem wait_for_trace_anchor_reads (require_registered_context : Bool) :
    Reads (wait_for_trace_anchor config request require_registered_context)
      (fun _ sources' => sources' = sources) sources := by
  refine poll_reads ?_
  cases require_registered_context with
  | true =>
    exact ⟨trivial, fun r _ => Prog.follows_ofExcept.mpr ⟨fun _ _ => rfl, fun _ _ => trivial⟩⟩
  | false =>
    exact ⟨trivial, fun r _ => Prog.follows_ofExcept.mpr ⟨fun _ _ => rfl, fun _ _ => trivial⟩⟩

theorem unix_time_reads {α : Type} {f : Int → AgentProg α} {Q : α → Sources → Prop}
    (hf : ∀ now, Reads (f now) Q sources) : Reads (unix_time >>= f) Q sources :=
  ⟨trivial, fun now _ => hf now⟩

theorem require_fresh_registry_reads (now : Int) :
    Reads (require_fresh_registry config now) (fun _ sources' => sources' = sources) sources := by
  refine ⟨trivial, fun r _ => ?_⟩
  refine Prog.follows_ofExcept_bind ?_
  intro last_success _
  exact Prog.follows_rejectIf.mpr ⟨fun _ => rfl, fun _ => trivial⟩

/-- A lookup reads the record it finds. -/
theorem lookup_identity_reads (endpoint : DnsEndpoint) :
    Reads (lookup_identity endpoint) (fun found sources' => ∀ record, found = some record →
      sources' = { sources with own := sources.own ++ [record] }) sources := by
  refine ⟨trivial, fun r _ => ?_⟩
  refine Prog.follows_ofExcept_bind ?_
  intro found _
  cases found with
  | none =>
    intro record hrecord
    cases hrecord
  | some server_id =>
    refine ⟨trivial, fun r' _ => Prog.follows_ofExcept.mpr ⟨?_, fun _ _ => trivial⟩⟩
    intro found' hfound' record hrecord
    rw [hfound', hrecord]
    rfl

theorem fetch_target_attestation_reads (target : DnsServerIdentityV2)
    (attestation_request : ResponseAttestationRequest) :
    Reads (fetch_target_attestation config target attestation_request)
      (fun _ sources' => sources' = sources) sources := by
  unfold fetch_target_attestation
  split
  · split
    · exact trivial
    · exact rfl
  · exact ⟨trivial, fun reply _ =>
      Prog.follows_ofExcept.mpr ⟨fun _ _ => rfl, fun _ _ => trivial⟩⟩

theorem graph_reply_eq_ok {target : DnsServerIdentityV2} {reply : HttpReply QueryEvidenceGraphV2}
    {child : QueryEvidenceGraphV2} (h : graph_reply target reply = .ok child) :
    reply = .body child := by
  cases reply with
  | body graph => exact congrArg HttpReply.body (Except.ok.inj h)
  | unreadable error => cases h
  | refused status detail => cases h
  | failed text => cases h

/-- A graph that is fetched was accepted. -/
theorem fetch_target_graph_reads (target : DnsServerIdentityV2)
    (graph_request : EvidenceGraphRequest) :
    Reads (fetch_target_graph P config issuer_keys target graph_request)
      (fun child sources' =>
        sources' = { sources with children := sources.children ++ [child] } ∧
          ∃ now, validate_graph P config.mode.policy issuer_keys child graph_request.challenge now =
            .ok ()) sources := by
  unfold fetch_target_graph
  refine Prog.follows_okOr_bind ?_
  intro service_url _
  refine ⟨trivial, fun reply _ => ?_⟩
  refine Prog.follows_ofExcept_bind ?_
  intro child hchild
  rw [graph_reply_eq_ok hchild]
  refine ⟨trivial, fun now _ => ?_⟩
  refine Prog.follows_ofExcept_bind ?_
  intro _ haccept
  unfold accept_downstream at haccept
  obtain ⟨_, hvalid, _⟩ := bind_eq_ok.mp haccept
  exact ⟨rfl, now, mapError_eq_ok.mp hvalid⟩

/-- A target's graph is merged once it is read. -/
theorem descend_reads {target : EvidenceStore.IdentityRecord} {event : TraceEventV2}
    {target_correlation_id digest : String}
    (h : Gathered P config issuer_keys sources assembly.nodes) :
    Reads (descend P config issuer_keys request assembly target event target_correlation_id digest)
      (fun assembly' sources' => Gathered P config issuer_keys sources' assembly'.nodes)
      sources := by
  unfold descend
  split
  · refine Prog.Follows.bind (fetch_target_graph_reads target.1 _) ?_
    intro child sources' hchild
    obtain ⟨rfl, now, hvalid⟩ := hchild
    refine Prog.follows_ofExcept.mpr ⟨?_, fun _ _ => trivial⟩
    intro assembly' hmerge
    exact h.add_child hvalid hmerge
  · exact h

/-- So is the target itself. -/
theorem add_hop_reads {status : DnssecStatus} {now : Int} {event answer : TraceEventV2}
    {target_endpoint : DnsEndpoint}
    (h : Gathered P config issuer_keys sources assembly.nodes) :
    Reads (add_hop P config issuer_keys request now status assembly event answer target_endpoint)
      (fun assembly' sources' => Gathered P config issuer_keys sources' assembly'.nodes)
      sources := by
  unfold add_hop
  refine Prog.follows_okOr_bind ?_
  intro digest _
  refine Prog.Follows.bind (lookup_identity_reads target_endpoint) ?_
  intro found sources' hfound
  refine Prog.follows_okOr_bind ?_
  intro target htarget
  obtain rfl := hfound target htarget
  refine Prog.follows_rejectIf_bind ?_
  intro _
  refine Prog.follows_ofExcept_bind ?_
  intro target_correlation_id _
  refine Prog.Follows.bind (fetch_target_attestation_reads target.1 _) ?_
  intro target_attestation sources'' hsame
  rw [hsame]
  refine Prog.follows_ofExcept_bind ?_
  intro nodes hmerge
  refine Prog.follows_ofExcept_bind ?_
  intro from_endpoint _
  refine Prog.follows_ofExcept_bind ?_
  intro edge _
  -- the target was merged before anything else was read
  have hnodes : Gathered P config issuer_keys sources nodes :=
    h.mono (fun record hrecord => (mem_records_merge hmerge).mpr (Or.inl hrecord))
  exact descend_reads (hnodes.add_own ((mem_records_merge hmerge).mpr (Or.inr rfl)))

/-- The loop keeps everything read among the nodes. -/
theorem process_all_reads {status : DnssecStatus} {now : Int} {events : List TraceEventV2} :
    ∀ {assembly : Assembly} {sources : Sources},
      Gathered P config issuer_keys sources assembly.nodes →
        Reads (process_all P config issuer_keys request now status assembly events)
          (fun assembly' sources' => Gathered P config issuer_keys sources' assembly'.nodes)
          sources := by
  induction events with
  | nil =>
    intro assembly sources h
    exact h
  | cons event rest ih =>
    intro assembly sources h
    refine Prog.Follows.bind ?_ (fun _ _ h' => ih h')
    unfold process_outbound
    refine Prog.follows_okOr_bind ?_
    intro target_endpoint _
    refine Prog.follows_ofExcept_bind ?_
    intro answered hanswered
    obtain ⟨answer, between⟩ := answered
    rw [← (response_event_keeps hanswered).1] at h
    cases answer with
    | none => exact h
    | some answer => exact add_hop_reads h

theorem put_graph_reads {graph : QueryEvidenceGraphV2} :
    Reads (put_graph graph) (fun _ sources' => sources' = sources) sources := by
  refine ⟨trivial, fun r _ => ?_⟩
  refine Prog.follows_ofExcept_bind ?_
  intro generation_sql _
  exact ⟨trivial, fun r' _ => Prog.follows_ofExcept.mpr ⟨fun _ _ => rfl, fun _ _ => trivial⟩⟩

theorem find_cache_source_reads (query_digest cache_object_digest graph_digest : String) :
    Reads (find_cache_source_graph_by_digest query_digest cache_object_digest graph_digest)
      (fun _ sources' => sources' = sources) sources := by
  refine ⟨trivial, fun r _ => ?_⟩
  refine Prog.follows_ofExcept_bind ?_
  intro generation_sql _
  exact ⟨trivial, fun r' _ => Prog.follows_ofExcept.mpr ⟨fun _ _ => rfl, fun _ _ => trivial⟩⟩

/-- The record of this server alone. -/
theorem Gathered.single {self_record : EvidenceStore.IdentityRecord}
    {nodes : List EvidenceNodeV2} (hown : sources.own = [self_record])
    (hchildren : sources.children = []) (hself : self_record ∈ records nodes) :
    Gathered P config issuer_keys sources nodes := by
  refine ⟨?_, ?_, ?_⟩
  · intro record hrecord
    rw [hown, List.mem_singleton] at hrecord
    rw [hrecord]
    exact hself
  · rw [hchildren]
    intro child hchild
    cases hchild
  · rw [hchildren]
    intro child hchild
    cases hchild

/-- What a finished graph says for a run that returned it. -/
def Sourced (P : Platform) (config : AgentConfig) (issuer_keys : IssuerKeyRegistry)
    (request : EvidenceGraphRequest) (graph : QueryEvidenceGraphV2) (sources : Sources) : Prop :=
  Gathered P config issuer_keys sources graph.nodes ∧
    ∃ now, validate_graph P config.mode.policy issuer_keys graph request.challenge now = .ok ()

/-- A finished graph has the nodes it was made of. -/
theorem finish_graph_reads {unsigned : QueryEvidenceGraphV2} {now : Int}
    (h : Gathered P config issuer_keys sources unsigned.nodes) :
    Reads (finish_graph P config issuer_keys request now unsigned)
      (Sourced P config issuer_keys request) sources := by
  unfold finish_graph
  refine Prog.follows_ofExcept_bind ?_
  intro graph hsign
  unfold sign_graph at hsign
  obtain ⟨signature, _, hgraph⟩ := bind_eq_ok.mp hsign
  obtain rfl := Except.ok.inj hgraph
  refine Prog.follows_ofExcept_bind ?_
  intro _ hvalid
  refine Prog.Follows.bind put_graph_reads ?_
  intro _ sources' hsame
  rw [hsame]
  exact ⟨h, now, mapError_eq_ok.mp hvalid⟩

theorem build_cache_hit_graph_reads {self_record : EvidenceStore.IdentityRecord}
    {cache_hit : Option TraceEventV2} {now : Int} (hown : sources.own = [self_record])
    (hchildren : sources.children = []) :
    Reads (build_cache_hit_graph P config issuer_keys request self_record cache_hit now)
      (Sourced P config issuer_keys request) sources := by
  unfold build_cache_hit_graph
  refine Prog.follows_okOr_bind ?_
  intro hit _
  refine Prog.follows_okOr_bind ?_
  intro ttl_expires_at _
  refine Prog.follows_rejectIf_bind ?_
  intro _
  refine Prog.follows_okOr_bind ?_
  intro cache_object_digest _
  refine Prog.follows_okOr_bind ?_
  intro source_digest _
  refine Prog.Follows.bind (find_cache_source_reads _ _ _) ?_
  intro found sources' hsame
  rw [hsame]
  refine Prog.follows_okOr_bind ?_
  intro source _
  refine Prog.follows_rejectIf_bind ?_
  intro _
  refine Prog.follows_rejectIf_bind ?_
  intro _
  refine Prog.follows_okOr_bind ?_
  intro identity_expires_at _
  exact finish_graph_reads (Gathered.single hown hchildren List.mem_cons_self)

theorem build_from_events_reads {self_record : EvidenceStore.IdentityRecord}
    {anchor : TraceEventV2} {events : List TraceEventV2} {now : Int}
    (hown : sources.own = [self_record]) (hchildren : sources.children = []) :
    Reads (build_from_events P config issuer_keys request now self_record anchor events)
      (Sourced P config issuer_keys request) sources := by
  unfold build_from_events
  show (if (events.filter (is_outbound config request)).isEmpty = true then _ else _ :
    AgentProg QueryEvidenceGraphV2).Follows _ _ _ _
  split
  · exact build_cache_hit_graph_reads hown hchildren
  · have hinitial : Gathered P config issuer_keys sources
        (initial_assembly self_record events).nodes :=
      Gathered.single hown hchildren List.mem_cons_self
    refine Prog.Follows.bind (process_all_reads hinitial) ?_
    intro assembly sources' h
    refine finish_graph_reads (h.mono ?_)
    intro record hrecord
    obtain ⟨node, hnode, heq⟩ := List.mem_map.mp hrecord
    exact List.mem_map.mpr ⟨node, (List.mem_insertionSort _).mpr hnode, heq⟩

/-- What a build has read when it returns is in its graph. -/
theorem build_graph_reads (require_registered_context : Bool) :
    Reads (build_graph_with_context P config issuer_keys request require_registered_context)
      (Sourced P config issuer_keys request) ⟨[], []⟩ := by
  unfold build_graph_with_context
  refine Prog.follows_ofExcept_bind ?_
  intro _ _
  refine unix_time_reads ?_
  intro now
  refine Prog.Follows.bind (require_fresh_registry_reads now) ?_
  intro _ sources' hsame
  rw [hsame]
  refine Prog.follows_rejectIf_bind ?_
  intro _
  refine Prog.follows_rejectIf_bind ?_
  intro _
  refine ⟨trivial, fun r _ => ?_⟩
  refine Prog.follows_ofExcept_bind ?_
  intro found hfound
  refine Prog.follows_okOr_bind ?_
  intro self_record hself
  rw [hfound, hself]
  refine Prog.Follows.bind (wait_for_trace_anchor_reads require_registered_context) ?_
  intro anchor sources'' hsame'
  rw [hsame']
  refine ⟨trivial, fun r' _ => ?_⟩
  refine Prog.follows_ofExcept_bind ?_
  intro events _
  exact build_from_events_reads rfl rfl

end Reads

section Runs

variable {P : Platform} {config : AgentConfig} {issuer_keys : IssuerKeyRegistry}
variable {request : EvidenceGraphRequest} {require_registered_context : Bool}
variable {τ : List (Prog.Event AgentOp AgentRes)} {graph : QueryEvidenceGraphV2}

theorem plausible_sources (τ : List (Prog.Event AgentOp AgentRes)) :
    ∀ sources, Prog.Plausible sourceProtocol sources τ := by
  induction τ with
  | nil => intro sources; exact trivial
  | cons event rest ih => intro sources; exact ⟨trivial, ih _⟩

/-- Every record a returned build has read is in its graph. -/
theorem gathered_of_run
    (h : Prog.Exec
      (build_graph_with_context P config issuer_keys request require_registered_context) τ
      (.ok graph)) :
    Sourced P config issuer_keys request graph ⟨own_records τ, downstream τ⟩ := by
  have hends := h.follows (build_graph_reads require_registered_context)
    (plausible_sources τ ⟨[], []⟩)
  rw [after_sources] at hends
  exact hends

/-- Every record read, own or not. -/
theorem Sourced.listed {sources : Sources}
    (h : Sourced P config issuer_keys request graph sources)
    {record : EvidenceStore.IdentityRecord}
    (hrecord : record ∈ sources.own ++ sources.children.flatMap child_records) :
    record ∈ records graph.nodes := by
  rcases List.mem_append.mp hrecord with hown | hbelow
  · exact h.1.own record hown
  · obtain ⟨child, hchild, hmem⟩ := List.mem_flatMap.mp hbelow
    exact h.1.children child hchild record hmem

/-- The graph has one node of each server, so all read of a server is one record. -/
theorem Sourced.agreed {sources : Sources}
    (h : Sourced P config issuer_keys request graph sources) :
    Agreed (sources.own ++ sources.children.flatMap child_records) := by
  obtain ⟨now, hvalid⟩ := h.2
  intro a ha b hb hid
  obtain ⟨node_a, hnode_a, rfl⟩ := List.mem_map.mp (h.listed ha)
  obtain ⟨node_b, hnode_b, rfl⟩ := List.mem_map.mp (h.listed hb)
  rw [List.inj_on_of_nodup_map (nodup_of_validate hvalid) hnode_a hnode_b hid]

end Runs

end ResolverIdentity.Agent
