/-
  ResolverIdentity.Agent.Requirements: a DNSSEC requirement outlives every cache.

  A graph requires DNSSEC for an authority node, for the flag of its provenance or
  for an attached graph that requires it.  A cache hit drops the nodes of its
  source and keeps the flag; a merge drops the nodes of a cache graph and attaches
  it; a graph read back from a store or a reply is another value.  `Derived` is any
  tree of such steps over one graph.

  Main results:
    * `merge_child_requires`: a merge keeps what the child requires;
    * `process_all_inherits`: so does the whole loop over the outbound queries;
    * `dnssec_requirement_kept`: whatever is derived from a graph with an authority
      requires DNSSEC, and is accepted under such a policy only when secure.
-/
import ResolverIdentity.Agent.CacheChains
import ResolverIdentity.Agent.Merging
import ResolverIdentity.Agent.Verdicts

namespace ResolverIdentity

open Library

/-! ## §1. What a validator re-derives. -/

section Summary

variable {P : Platform} {policy : EvidencePolicy} {issuer_keys : IssuerKeyRegistry}
variable {graph : QueryEvidenceGraphV2} {expected_challenge : String} {now : Int}

/-- The summary of a graph that requires DNSSEC is checked against its paths, and the
policy then asks for a secure one. -/
theorem secure_of_requires
    (h : validate_graph P policy issuer_keys graph expected_challenge now = .ok ())
    (hpolicy : policy.require_dnssec_for_authorities = true)
    (hrequires : graph_requires_dnssec graph = true) : graph.dnssec_status = .secure := by
  have hok := (accepted_of_validate h).summary
  rw [graph_requires_dnssec_eq, Bool.or_assoc] at hrequires
  unfold validate_dnssec_summary at hok
  obtain ⟨_, hstatus, hrequired⟩ := bind_eq_ok.mp hok
  rw [rejectIf_eq_ok] at hstatus hrequired
  rw [← Bool.not_or, hrequires] at hstatus hrequired
  rw [hpolicy] at hrequired
  have hsecure : path_status graph.edges graph.nodes graph.terminal_cache_graphs = .secure := by
    simpa using hrequired
  have hsame : graph.dnssec_status =
      path_status graph.edges graph.nodes graph.terminal_cache_graphs := by
    simpa using hstatus
  exact hsame.trans hsecure

end Summary

/-! ## §2. Reading back. -/

/-- The roles of the nodes are those of their identities. -/
theorem any_authority_congr {nodes nodes' : List EvidenceNodeV2}
    (h : nodes'.map EvidenceNodeV2.identity = nodes.map EvidenceNodeV2.identity) :
    nodes'.any (fun node => node.identity.role.is_authority) =
      nodes.any (fun node => node.identity.role.is_authority) := by
  have hany := congrArg (fun identities : List DnsServerIdentityV2 =>
    identities.any (fun identity => identity.role.is_authority)) h
  simp only [List.any_map] at hany
  exact hany

mutual

/-- Writing and reading changes Registry references only, at every depth. -/
theorem requires_of_rereadReferences : ∀ (graph : QueryEvidenceGraphV2)
    {graph' : QueryEvidenceGraphV2}, graph.rereadReferences = .ok graph' →
      graph_requires_dnssec graph' = graph_requires_dnssec graph
  | ⟨_, _, _, _, _, _, _, _, _, _, _, cache_provenance, terminal_cache_graphs, nodes, _, _, _, _,
      _, _⟩, graph', h => by
    rw [QueryEvidenceGraphV2.rereadReferences] at h
    obtain ⟨attached, hattached, h⟩ := bind_eq_ok.mp h
    obtain ⟨nodes', hnodes, h⟩ := bind_eq_ok.mp h
    obtain ⟨_, _, h⟩ := bind_eq_ok.mp h
    obtain rfl := Except.ok.inj h
    rw [graph_requires_dnssec, graph_requires_dnssec,
      any_requires_of_rereadGraphs terminal_cache_graphs hattached,
      any_authority_congr (EvidenceNodeV2.mapM_reread hnodes)]

theorem any_requires_of_rereadGraphs : ∀ (graphs : List QueryEvidenceGraphV2)
    {graphs' : List QueryEvidenceGraphV2}, rereadGraphs graphs = .ok graphs' →
      any_requires_dnssec graphs' = any_requires_dnssec graphs
  | [], graphs', h => by
    rw [rereadGraphs] at h
    obtain rfl := Except.ok.inj h
    rfl
  | graph :: rest, graphs', h => by
    rw [rereadGraphs] at h
    obtain ⟨first, hfirst, h⟩ := bind_eq_ok.mp h
    obtain ⟨others, hothers, h⟩ := bind_eq_ok.mp h
    obtain rfl := Except.ok.inj h
    rw [any_requires_dnssec, any_requires_dnssec, requires_of_rereadReferences graph hfirst,
      any_requires_of_rereadGraphs rest hothers]

end

theorem requires_of_reread {graph graph' : QueryEvidenceGraphV2} (h : graph.reread = .ok graph') :
    graph_requires_dnssec graph' = graph_requires_dnssec graph := by
  unfold QueryEvidenceGraphV2.reread at h
  obtain ⟨_, _, h⟩ := bind_eq_ok.mp h
  exact requires_of_rereadReferences graph h

namespace Agent

open Store

/-! ## §3. Merging. -/

/-- The unfinished graph has an authority node or an attached graph that requires DNSSEC. -/
def Assembly.Requires (assembly : Assembly) : Prop :=
  (∃ record ∈ records assembly.nodes, record.1.role.is_authority = true) ∨
    ∃ attached ∈ assembly.terminal_cache_graphs, graph_requires_dnssec attached = true

/-- Every downstream graph that requires DNSSEC has left the requirement behind. -/
def Inherits (assembly : Assembly) (o : Observed) : Prop :=
  ∀ child ∈ o.children, graph_requires_dnssec child = true → assembly.Requires

section Merge

variable {assembly assembly' : Assembly} {target : EvidenceStore.IdentityRecord}
variable {child : QueryEvidenceGraphV2} {o : Observed}

/-- More records and more attachments require no less. -/
theorem Assembly.Requires.mono (h : assembly.Requires)
    (hrecords : ∀ record ∈ records assembly.nodes, record ∈ records assembly'.nodes)
    (hattached : ∀ attached ∈ assembly.terminal_cache_graphs,
      attached ∈ assembly'.terminal_cache_graphs) : assembly'.Requires := by
  rcases h with hauthority | hcached
  · obtain ⟨record, hmem, hrole⟩ := hauthority
    exact Or.inl ⟨record, hrecords record hmem, hrole⟩
  · obtain ⟨attached, hmem, hrequires⟩ := hcached
    exact Or.inr ⟨attached, hattached attached hmem, hrequires⟩

theorem Assembly.mem_with_child {nodes : List EvidenceNodeV2} {attached : QueryEvidenceGraphV2} :
    attached ∈ (assembly.with_child nodes child).terminal_cache_graphs ↔
      attached ∈ assembly.terminal_cache_graphs ∨
        attached ∈ (if child.cache_provenance.isSome then [child]
          else child.terminal_cache_graphs) := by
  unfold with_child
  split
  · exact List.mem_append
  · exact List.mem_append

/-- A merge takes nothing away. -/
theorem Assembly.Requires.merge_child (h : assembly.Requires)
    (hmerge : merge_child assembly target child = .ok assembly') : assembly'.Requires := by
  obtain ⟨_, _, nodes, hnodes, rfl⟩ := merge_child_iff.mp hmerge
  refine h.mono ?_ ?_
  · intro record hrecord
    rw [Assembly.with_child_nodes]
    exact (mem_records_merge_child hnodes).mpr (Or.inl hrecord)
  · intro attached hattached
    exact Assembly.mem_with_child.mpr (Or.inl hattached)

/-- An authority of a resolved child, an attachment of one, or a cache graph as a whole:
each way to require DNSSEC is still there. -/
theorem merge_child_requires (hmerge : merge_child assembly target child = .ok assembly')
    (hnodup : (node_ids child.nodes).Nodup) (htarget : target.1.role.is_recursive = true)
    (hrequires : graph_requires_dnssec child = true) : assembly'.Requires := by
  obtain ⟨hentry, ⟨entry, hfind, hidentity, _⟩, nodes, hnodes, rfl⟩ := merge_child_iff.mp hmerge
  cases hprovenance : child.cache_provenance with
  | some provenance =>
    -- the child is attached as it is, its provenance and its own attachments included
    refine Or.inr ⟨child, Assembly.mem_with_child.mpr (Or.inr ?_), hrequires⟩
    rw [hprovenance]
    exact List.mem_cons_self
  | none =>
    rw [graph_requires_dnssec_eq, hprovenance, Option.any_none, Bool.or_false,
      Bool.or_eq_true] at hrequires
    rcases hrequires with hauthority | hcached
    · obtain ⟨node, hnode, hrole⟩ := List.any_eq_true.mp hauthority
      -- the node left out is that of the target, which is no authority
      have hother : node.identity.server_id ≠ target.1.server_id := by
        intro hsame
        have hfound := find_node_of_mem hnodup hnode
        rw [hsame, ← hentry, hfind] at hfound
        obtain rfl : entry = node := Option.some.inj hfound
        rw [hidentity, DnsServerRole.is_authority_eq_not, htarget] at hrole
        cases hrole
      refine Or.inl ⟨node_record node, ?_, hrole⟩
      rw [Assembly.with_child_nodes]
      exact (mem_records_merge_child hnodes).mpr (Or.inr ⟨node, hnode, hother, rfl⟩)
    · obtain ⟨attached, hmem, hchild⟩ := List.any_eq_true.mp hcached
      refine Or.inr ⟨attached, Assembly.mem_with_child.mpr (Or.inr ?_), hchild⟩
      rw [hprovenance]
      exact hmem

theorem Inherits.mono (h : Inherits assembly o)
    (hrecords : ∀ record ∈ records assembly.nodes, record ∈ records assembly'.nodes)
    (hattached : ∀ attached ∈ assembly.terminal_cache_graphs,
      attached ∈ assembly'.terminal_cache_graphs) : Inherits assembly' o :=
  fun child hchild hrequires => (h child hchild hrequires).mono hrecords hattached

/-- One more downstream graph, merged. -/
theorem Inherits.add_child (h : Inherits assembly o)
    (hmerge : merge_child assembly target child = .ok assembly')
    (hnodup : (node_ids child.nodes).Nodup) (htarget : target.1.role.is_recursive = true) :
    Inherits assembly' { o with children := o.children ++ [child] } := by
  intro other hother hrequires
  rcases List.mem_append.mp hother with hold | hnew
  · exact (h other hold hrequires).merge_child hmerge
  · rw [List.mem_singleton.mp hnew] at hrequires
    exact merge_child_requires hmerge hnodup htarget hrequires

/-- The answer of an upstream query leaves nodes and attachments alone. -/
theorem response_event_attached {event : TraceEventV2} {answer : Option TraceEventV2}
    (h : response_event assembly event = .ok (answer, assembly')) :
    assembly'.terminal_cache_graphs = assembly.terminal_cache_graphs := by
  unfold response_event at h
  split at h
  · unfold upstream_answer at h
    split at h
    · obtain ⟨_, _, h⟩ := bind_eq_ok.mp h
      obtain ⟨_, rfl⟩ := Prod.mk.inj (Except.ok.inj h)
      rfl
    · split at h
      · obtain ⟨_, _, h⟩ := bind_eq_ok.mp h
        obtain ⟨_, rfl⟩ := Prod.mk.inj (Except.ok.inj h)
        rfl
      · cases h
  · obtain ⟨_, rfl⟩ := Prod.mk.inj (Except.ok.inj h)
    rfl

end Merge

/-! ## §4. A build. -/

section Build

variable {P : Platform} {config : AgentConfig} {issuer_keys : IssuerKeyRegistry}
variable {request : EvidenceGraphRequest} {trace_id response_digest : String} {o : Observed}
variable {assembly : Assembly} {status : DnssecStatus}

theorem descend_inherits {target : EvidenceStore.IdentityRecord} {event : TraceEventV2}
    {target_correlation_id digest : String} (h : Inherits assembly o) :
    Builds trace_id response_digest
      (descend P config issuer_keys request assembly target event target_correlation_id digest)
      Inherits o := by
  unfold descend
  split
  · rename_i hrecursive
    refine Prog.Follows.bind (fetch_target_graph_follows target.1 _) ?_
    intro child o' hchild
    obtain ⟨rfl, now, hvalid⟩ := hchild
    refine Prog.follows_ofExcept.mpr ⟨?_, fun _ _ => trivial⟩
    intro assembly' hmerge
    exact h.add_child hmerge (nodup_of_validate hvalid) hrecursive
  · exact h

theorem add_hop_inherits {now : Int} {event answer : TraceEventV2} {target_endpoint : DnsEndpoint}
    (h : Inherits assembly o) :
    Builds trace_id response_digest
      (add_hop P config issuer_keys request now status assembly event answer target_endpoint)
      Inherits o := by
  unfold add_hop
  refine Prog.follows_okOr_bind ?_
  intro digest _
  refine Prog.Follows.bind (lookup_identity_follows target_endpoint) ?_
  intro found o' hfound
  refine Prog.follows_okOr_bind ?_
  intro target htarget
  obtain ⟨server_id, rfl⟩ := hfound target htarget
  refine Prog.follows_rejectIf_bind ?_
  intro _
  refine Prog.follows_ofExcept_bind ?_
  intro target_correlation_id _
  refine Prog.Follows.bind (fetch_target_attestation_follows target.1 _) ?_
  intro target_attestation o'' ho''
  rw [ho'']
  refine Prog.follows_ofExcept_bind ?_
  intro nodes hmerge
  refine Prog.follows_ofExcept_bind ?_
  intro from_endpoint _
  refine Prog.follows_ofExcept_bind ?_
  intro edge _
  -- a new target adds its record and an edge
  have hadded : Inherits { assembly with nodes := nodes, edges := assembly.edges ++ [edge] }
      { o with targets := o.targets ++ [(server_id, target)] } := by
    refine Inherits.mono (o := { o with targets := _ }) h ?_ (fun _ hmem => hmem)
    intro record hrecord
    exact (mem_records_merge hmerge).mpr (Or.inl hrecord)
  exact descend_inherits hadded

theorem process_outbound_inherits {now : Int} {event : TraceEventV2} (h : Inherits assembly o) :
    Builds trace_id response_digest
      (process_outbound P config issuer_keys request now status assembly event) Inherits o := by
  unfold process_outbound
  refine Prog.follows_okOr_bind ?_
  intro target_endpoint _
  refine Prog.follows_ofExcept_bind ?_
  intro answered hanswered
  obtain ⟨answer, assembly'⟩ := answered
  have h' : Inherits assembly' o := by
    refine h.mono ?_ ?_
    · rw [(response_event_keeps hanswered).1]
      exact fun _ hmem => hmem
    · rw [response_event_attached hanswered]
      exact fun _ hmem => hmem
  cases answer with
  | none => exact h'
  | some answer => exact add_hop_inherits h'

theorem process_all_inherits {now : Int} {events : List TraceEventV2} :
    ∀ {assembly : Assembly} {o : Observed}, Inherits assembly o →
      Builds trace_id response_digest
        (process_all P config issuer_keys request now status assembly events) Inherits o := by
  induction events with
  | nil => intro assembly o h; exact h
  | cons event rest ih =>
    intro assembly o h
    refine Prog.Follows.bind (process_outbound_inherits h) ?_
    intro assembly' o' h'
    exact ih h'

/-- A resolved graph has the nodes and the attachments of the unfinished one. -/
theorem requires_of_resolved {now : Int} {graph : QueryEvidenceGraphV2}
    (h : assembly.Requires)
    (hfinished : Finished P config issuer_keys request now
      (resolved_graph config request now assembly) graph) :
    graph_requires_dnssec graph = true := by
  rw [graph_requires_dnssec_eq, Bool.or_assoc, Bool.or_eq_true, Bool.or_eq_true]
  rcases h with hauthority | hcached
  · obtain ⟨record, hmem, hrole⟩ := hauthority
    obtain ⟨node, hnode, rfl⟩ := List.mem_map.mp hmem
    exact Or.inl (List.any_eq_true.mpr ⟨node, (mem_resolved_nodes hfinished).mpr hnode, hrole⟩)
  · obtain ⟨attached, hmem, hrequires⟩ := hcached
    refine Or.inr (Or.inr (List.any_eq_true.mpr ⟨attached, ?_, hrequires⟩))
    obtain ⟨signature, rfl⟩ := hfinished.signed
    exact (List.mem_insertionSort _).mpr hmem

/-- What a returned graph still requires: what any downstream graph did, and on the cache
path what the source did. -/
def KeepsRequirement (graph : QueryEvidenceGraphV2) (o : Observed) : Prop :=
  (∀ child ∈ o.children, graph_requires_dnssec child = true →
    graph_requires_dnssec graph = true) ∧
  (graph.cache_provenance.isSome = true → ∃ source, o.source = some source ∧
    (graph_requires_dnssec source = true → graph_requires_dnssec graph = true))

/-- The flag of a cache hit is the requirement of its source. -/
theorem build_cache_hit_graph_keeps {self_record : EvidenceStore.IdentityRecord}
    {cache_hit : Option TraceEventV2} {now : Int} (htrace : request.trace_id = trace_id)
    (hresponse : request.response_digest = response_digest) (hchildren : o.children = []) :
    Builds trace_id response_digest
      (build_cache_hit_graph P config issuer_keys request self_record cache_hit now)
      (fun graph o' => graph.cache_provenance.isSome = true ∧ KeepsRequirement graph o') o := by
  unfold build_cache_hit_graph
  refine Prog.follows_okOr_bind ?_
  intro hit _
  refine Prog.follows_okOr_bind ?_
  intro ttl_expires_at _
  refine Prog.follows_rejectIf_bind ?_
  intro _
  refine Prog.follows_okOr_bind ?_
  intro cache_object_digest _
  refine Prog.follows_okOr_bind ?_
  intro source_digest _
  refine Prog.Follows.bind (find_cache_source_follows _ _ _) ?_
  intro found o' hfound
  refine Prog.follows_okOr_bind ?_
  intro source hsource
  refine Prog.follows_rejectIf_bind ?_
  intro _
  refine Prog.follows_rejectIf_bind ?_
  intro _
  refine Prog.follows_okOr_bind ?_
  intro identity_expires_at _
  refine (finish_graph_follows now htrace hresponse).mono ?_ (fun _ _ h => h)
  intro graph o'' hfinished
  obtain ⟨⟨generation_sql, rfl⟩, hfinished⟩ := hfinished
  obtain ⟨signature, rfl⟩ := hfinished.signed
  obtain ⟨hanswered, _, _, hnone⟩ := hfound source hsource
  refine ⟨rfl, ?_, fun _ => ⟨source, hanswered, ?_⟩⟩
  · intro child hchild
    rw [show ({ o' with generation := some generation_sql } : Observed).children = [] from
      hnone.trans hchildren] at hchild
    cases hchild
  · intro hrequires
    rw [graph_requires_dnssec_eq, Bool.or_assoc, Bool.or_eq_true, Bool.or_eq_true]
    exact Or.inr (Or.inl hrequires)

theorem build_from_events_keeps {self_record : EvidenceStore.IdentityRecord}
    {anchor : TraceEventV2} {events : List TraceEventV2} {now : Int}
    (htrace : request.trace_id = trace_id) (hresponse : request.response_digest = response_digest)
    (hchildren : o.children = []) :
    Builds trace_id response_digest
      (build_from_events P config issuer_keys request now self_record anchor events)
      KeepsRequirement o := by
  unfold build_from_events
  show (if (events.filter (is_outbound config request)).isEmpty = true then _ else _ :
    AgentProg QueryEvidenceGraphV2).Follows _ _ _ _
  split
  · exact (build_cache_hit_graph_keeps htrace hresponse hchildren).mono (fun _ _ h => h.2)
      (fun _ _ h => h)
  · have hinitial : Inherits (initial_assembly self_record events) o := by
      intro child hchild
      rw [hchildren] at hchild
      cases hchild
    refine Prog.Follows.bind (process_all_inherits hinitial) ?_
    intro assembly o' h
    refine (finish_graph_follows now htrace hresponse).mono ?_ (fun _ _ h => h)
    intro graph o'' hfinished
    obtain ⟨⟨generation_sql, rfl⟩, hfinished⟩ := hfinished
    constructor
    · intro child hchild hrequires
      exact requires_of_resolved (h child hchild hrequires) hfinished
    · intro hsome
      obtain ⟨signature, rfl⟩ := hfinished.signed
      cases hsome

theorem build_graph_keeps (require_registered_context : Bool) :
    Builds request.trace_id request.response_digest
      (build_graph_with_context P config issuer_keys request require_registered_context)
      KeepsRequirement Observed.start := by
  unfold build_graph_with_context
  refine Prog.follows_ofExcept_bind ?_
  intro _ _
  refine unix_time_follows ?_
  intro now
  refine Prog.Follows.bind (require_fresh_registry_follows now) ?_
  intro _ o' ho'
  rw [ho']
  refine Prog.follows_rejectIf_bind ?_
  intro _
  refine Prog.follows_rejectIf_bind ?_
  intro _
  refine ⟨trivial, fun r _ => ?_⟩
  refine Prog.follows_ofExcept_bind ?_
  intro found hfound
  refine Prog.follows_okOr_bind ?_
  intro self_record hself
  rw [hfound, hself]
  refine Prog.Follows.bind (wait_for_trace_anchor_follows require_registered_context rfl rfl) ?_
  intro anchor o'' ho''
  rw [ho'']
  refine ⟨trivial, fun r' _ => ?_⟩
  refine Prog.follows_ofExcept_bind ?_
  intro events hevents
  rw [hevents]
  exact build_from_events_keeps rfl rfl rfl

end Build

/-! ## §5. Every derivation. -/

/-- Some Agent's build returned `graph`, and `child` is one of the downstream graphs it
was answered with. -/
def MergedInto (P : Platform) (child graph : QueryEvidenceGraphV2) : Prop :=
  ∃ config issuer_keys request require_registered_context τ,
    child ∈ (observed request τ).children ∧ Prog.Exec
      (build_graph_with_context P config issuer_keys request require_registered_context) τ
      (.ok graph)

/-- A graph goes back to `origin` by cache hits and merges, through any stores and
replies. -/
inductive Derived (P : Platform) (origin : QueryEvidenceGraphV2) : QueryEvidenceGraphV2 → Prop where
  | origin : Derived P origin origin
  | read {graph graph' : QueryEvidenceGraphV2} (h : Derived P origin graph)
      (hread : graph.reread = .ok graph') : Derived P origin graph'
  | hit {source graph : QueryEvidenceGraphV2} (h : Derived P origin source)
      (hhit : CacheHit P graph source) : Derived P origin graph
  | merge {child graph : QueryEvidenceGraphV2} (h : Derived P origin child)
      (hmerge : MergedInto P child graph) : Derived P origin graph

section Derivations

variable {P : Platform} {origin source child graph : QueryEvidenceGraphV2}

theorem CacheHit.requires (h : CacheHit P graph source)
    (hrequires : graph_requires_dnssec source = true) : graph_requires_dnssec graph = true := by
  obtain ⟨config, issuer_keys, request, τ, hsource, hexec⟩ := h
  rcases hexec with ⟨self_record, cache_hit, now, hexec⟩ | ⟨hsome, registered, hexec⟩
  · -- `build_cache_hit_graph` by itself
    obtain ⟨hsome, _, hkept⟩ := hexec.follows
      (build_cache_hit_graph_keeps rfl rfl rfl) (plausible_observed τ Observed.start)
    obtain ⟨source', hsource', hrequired⟩ := hkept hsome
    obtain rfl : source = source' := Option.some.inj (hsource.symm.trans hsource')
    exact hrequired hrequires
  · -- a whole build that took the cache path
    obtain ⟨_, hkept⟩ := hexec.follows (build_graph_keeps registered) (plausible_observed τ _)
    obtain ⟨source', hsource', hrequired⟩ := hkept hsome
    obtain rfl : source = source' := Option.some.inj (hsource.symm.trans hsource')
    exact hrequired hrequires

theorem MergedInto.requires (h : MergedInto P child graph)
    (hrequires : graph_requires_dnssec child = true) : graph_requires_dnssec graph = true := by
  obtain ⟨config, issuer_keys, request, registered, τ, hchild, hexec⟩ := h
  obtain ⟨hkept, _⟩ := hexec.follows (build_graph_keeps registered) (plausible_observed τ _)
  exact hkept child hchild hrequires

/-- Every step keeps the requirement. -/
theorem Derived.requires (h : Derived P origin graph)
    (horigin : graph_requires_dnssec origin = true) : graph_requires_dnssec graph = true := by
  induction h with
  | origin => exact horigin
  | read _ hread ih => rw [requires_of_reread hread, ih]
  | hit _ hhit ih => exact hhit.requires ih
  | merge _ hmerge ih => exact hmerge.requires ih

/-- What is derived from a graph with an authority node requires DNSSEC, and a policy that
requires it for authorities accepts it only as secure. -/
theorem dnssec_requirement_kept (h : Derived P origin graph)
    (hauthority : ∃ node ∈ origin.nodes, node.identity.role.is_authority = true) :
    graph_requires_dnssec graph = true ∧
      ∀ (P' : Platform) (policy : EvidencePolicy) (issuer_keys : IssuerKeyRegistry)
        (expected_challenge : String) (now : Int), policy.require_dnssec_for_authorities = true →
          validate_graph P' policy issuer_keys graph expected_challenge now = .ok () →
            graph.dnssec_status = .secure := by
  have horigin : graph_requires_dnssec origin = true := by
    rw [graph_requires_dnssec_eq, Bool.or_assoc, Bool.or_eq_true]
    exact Or.inl (List.any_eq_true.mpr hauthority)
  have hrequires := h.requires horigin
  refine ⟨hrequires, ?_⟩
  intro P' policy issuer_keys expected_challenge now hpolicy hvalid
  exact secure_of_requires hvalid hpolicy hrequires

end Derivations

/-! ## §6. The recorded runs. -/

theorem Derived.readBack {P : Platform} {origin graph graph' : QueryEvidenceGraphV2}
    (h : Derived P origin graph) (hread : ReadBack graph graph') : Derived P origin graph' := by
  induction hread with
  | refl => exact h
  | tail _ hone ih => exact ih.read hone

/-- Only a downstream reply changes the downstream graphs seen. -/
theorem see_children {op : AgentOp} {o : Observed}
    (hop : ∀ url request, op ≠ .post_graph url request) (answer : AgentRes op) :
    (o.see op answer).children = o.children := by
  unfold Observed.see
  split
  case h_7 => exact absurd rfl (hop _ _)
  all_goals rfl

/-- The only downstream graph a run can have seen is the one it is served. -/
theorem children_of_trace {P : Platform} {env : Surroundings} {child : QueryEvidenceGraphV2}
    (henv : env.graph = .body child) (trace_id response_digest : String) {α : Type}
    (p : AgentProg α) :
    ∀ (s : EvidenceStore) (o : Observed), (∀ found ∈ o.children, found = child) →
      ∀ found ∈ (Prog.after (buildProtocol trace_id response_digest) o
        (p.trace (fun s op => perform P env op s) s).1).children, found = child := by
  induction p with
  | ret a => intro s o h; exact h
  | fail e => intro s o h; exact h
  | op op k ih =>
    intro s o h
    refine ih (perform P env op s).1 (perform P env op s).2 (o.see op (perform P env op s).1) ?_
    cases op with
    | post_graph url request =>
      rw [show (perform P env (.post_graph url request) s).1 = env.graph from rfl, henv]
      intro found hfound
      rcases List.mem_append.mp hfound with hold | hnew
      · exact h found hold
      · exact List.mem_singleton.mp hnew
    | _ =>
      rw [see_children (fun _ _ heq => AgentOp.noConfusion heq)]
      exact h

/-- The second hit of the recorded chain requires DNSSEC for the authority two graphs below
it, and the graph of `resolver-a` for the authority `resolver-b` asked. -/
theorem dnssec_requirement_recorded :
    (∃ resolved first second, CacheHit chain_platform first resolved ∧
      Derived chain_platform resolved second ∧ graph_requires_dnssec second = true) ∧
    ∃ child graph, MergedInto verdict_platform child graph ∧
      graph_requires_dnssec graph = true := by
  constructor
  · obtain ⟨⟨resolved, first, second⟩, hmade, _, _, hauthority⟩ := chain_made
    obtain ⟨⟨_, _, read, hread, hfirst⟩, _, read', hread', hsecond⟩ := hmade
    have hauthority' : ∃ node ∈ read.nodes, node.identity.role.is_authority = true := by
      obtain ⟨node, hnode, hrole⟩ := List.any_eq_true.mp hauthority
      obtain ⟨node', hnode', hidentity⟩ := ReadBack.node hread hnode
      exact ⟨node', hnode', hidentity ▸ hrole⟩
    have hderived : Derived chain_platform read second :=
      ((Derived.origin.hit hfirst).readBack hread').hit hsecond
    exact ⟨read, first, second, hfirst, hderived,
      (dnssec_requirement_kept hderived hauthority').1⟩
  · obtain ⟨child, hchild, hshown⟩ := Option.map_eq_some_iff.mp insecure_run_secure
    obtain ⟨hgraph, hshown⟩ := Prod.mk.inj hshown
    obtain ⟨_, hshown⟩ := Prod.mk.inj hshown
    obtain ⟨hauthority, hasked⟩ := Prod.mk.inj hshown
    obtain ⟨graph, hreturned, _⟩ := Option.map_eq_some_iff.mp hgraph
    have hmerged : MergedInto verdict_platform child graph := by
      refine ⟨config_a, lab_issuer_keys, insecure_request, false, _, ?_, lab_build_exec hreturned⟩
      -- some downstream graph was seen, and it can only be the one served
      obtain ⟨found, hfound⟩ := List.exists_mem_of_ne_nil _
        (fun hnil => Bool.noConfusion (hasked.symm.trans (List.isEmpty_iff.mpr hnil)))
      obtain rfl : found = child :=
        children_of_trace rfl _ _ _ _ _ (fun _ hmem => absurd hmem List.not_mem_nil) found hfound
      exact hfound
    exact ⟨child, graph, hmerged, (dnssec_requirement_kept (Derived.origin.merge hmerged)
      (List.any_eq_true.mp hauthority)).1⟩

end Agent

end ResolverIdentity
