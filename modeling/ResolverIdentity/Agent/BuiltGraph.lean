/-
  ResolverIdentity.Agent.BuiltGraph: what a build has seen and what it returns.

  `Observed` is what an onlooker notes of a build: the anchor it claimed, the
  records it read, the downstream graphs that came back, the generation it read
  last, the cache source.  `buildProtocol` lets a build claim and store only under
  its own request; `Built` says how the returned graph goes back to what was seen.

  Main results:
    * `Assembled.add_hop`: what one outbound query keeps of the unfinished graph;
    * `build_graph_follows`: every build follows the protocol, and the graph it
      returns is `Built` from what it has seen;
    * `own_edges_looked_up`: in a returned graph, the edges out of this server lead
      to the targets it looked up itself.
-/
import ResolverIdentity.Agent.BuildGraph
import ResolverIdentity.Core.Topology

namespace ResolverIdentity.Agent

open Library Store

/-! ## §1. The protocol of a build. -/

/-- What a build has seen so far. -/
structure Observed where
  anchor : Option TraceEventV2
  self_record : Option (String × EvidenceStore.IdentityRecord)
  targets : List (String × EvidenceStore.IdentityRecord)
  children : List QueryEvidenceGraphV2
  generation : Option Int
  source : Option QueryEvidenceGraphV2

namespace Observed

/-- Nothing has been seen. -/
def start : Observed := ⟨none, none, [], [], none, none⟩

/-- What an answer adds. -/
def see (o : Observed) : (op : AgentOp) → AgentRes op → Observed
  | .get_identity server_id, .ok (some record) =>
    { o with self_record := some (server_id, record) }
  | .claim_registered_trace_anchor _, .ok (some event) => { o with anchor := some event }
  | .claim_matching_response _, .ok (some event) => { o with anchor := some event }
  | .lookup_record server_id, .ok (some record) =>
    { o with targets := o.targets ++ [(server_id, record)] }
  | .cache_generation, .ok generation_sql => { o with generation := some generation_sql }
  | .find_cache_source_graph_by_digest _ _ _ _, .ok (some graph) => { o with source := some graph }
  | .post_graph _ _, .body graph => { o with children := o.children ++ [graph] }
  | _, _ => o

end Observed

/-- Claims and graphs are those of one request; a graph is stored at the generation
read last. -/
def build_permits (trace_id response_digest : String) (o : Observed) : AgentOp → Prop
  | .claim_registered_trace_anchor request =>
    request.request_trace_id = trace_id ∧ request.response_digest = response_digest
  | .claim_matching_response request =>
    request.request_trace_id = trace_id ∧ request.response_digest = response_digest
  | .put_graph graph generation_sql =>
    graph.trace_id = trace_id ∧ graph.response_digest = response_digest ∧
      o.generation = some generation_sql
  | _ => True

/-- The protocol of a build. -/
def buildProtocol (trace_id response_digest : String) : Protocol AgentOp AgentRes Observed where
  permits := build_permits trace_id response_digest
  answers := fun _ _ _ => True
  next := Observed.see

/-- Errors are of no further interest: a failed build returns no graph. -/
abbrev Builds (trace_id response_digest : String) {α : Type} (p : AgentProg α)
    (Q : α → Observed → Prop) (o : Observed) : Prop :=
  p.Follows (buildProtocol trace_id response_digest) Q (fun _ _ => True) o

/-! ## §2. Merged nodes. -/

/-- A node of this server has DNSSEC evidence. -/
def Validated (nodes : List EvidenceNodeV2) (server_id : String) : Prop :=
  ∃ node ∈ nodes, node.identity.server_id = server_id ∧
    EvidenceLevel.dnssecValidated ∈ node.evidence_levels

/-- A node holds this identity. -/
def Holds (nodes : List EvidenceNodeV2) (identity : DnsServerIdentityV2) : Prop :=
  ∃ node ∈ nodes, node.identity = identity

section Merge

variable {nodes nodes' child_nodes : List EvidenceNodeV2} {node : EvidenceNodeV2}
variable {server_id : String} {identity : DnsServerIdentityV2}

theorem mem_merge_levels {added : List EvidenceLevel} {level : EvidenceLevel} :
    ∀ {existing : List EvidenceLevel},
      level ∈ merge_levels existing added → level ∈ existing ∨ level ∈ added := by
  induction added with
  | nil => intro existing h; exact Or.inl h
  | cons first rest ih =>
    intro existing h
    rcases ih h with hold | hrest
    · have hold : level ∈ (if existing.contains first then existing else existing ++ [first]) :=
        hold
      by_cases hfirst : existing.contains first = true
      · rw [if_pos hfirst] at hold
        exact Or.inl hold
      · rw [if_neg hfirst] at hold
        rcases List.mem_append.mp hold with hold | hnew
        · exact Or.inl hold
        · rw [List.mem_singleton.mp hnew]
          exact Or.inr List.mem_cons_self
    · exact Or.inr (List.mem_cons_of_mem _ hrest)

theorem Validated.cons_of_tail (h : Validated nodes server_id) :
    Validated (node :: nodes) server_id := by
  obtain ⟨other, hmem, hother⟩ := h
  exact ⟨other, List.mem_cons_of_mem _ hmem, hother⟩

theorem Holds.cons_of_tail (h : Holds nodes identity) : Holds (node :: nodes) identity := by
  obtain ⟨other, hmem, hother⟩ := h
  exact ⟨other, List.mem_cons_of_mem _ hmem, hother⟩

/-- DNSSEC evidence after a merge was there before or came with the new node. -/
theorem validated_of_merge (h : merge_node nodes node = .ok nodes')
    (hvalidated : Validated nodes' server_id) :
    Validated nodes server_id ∨ Validated [node] server_id := by
  induction nodes generalizing nodes' with
  | nil =>
    obtain rfl := Except.ok.inj h
    exact Or.inr hvalidated
  | cons existing rest ih =>
    unfold merge_node at h
    obtain ⟨found, hfound, hid, hlevel⟩ := hvalidated
    by_cases hsame : existing.identity.server_id = node.identity.server_id
    · rw [if_pos hsame] at h
      split at h
      · cases h
      · obtain rfl := Except.ok.inj h
        rcases List.mem_cons.mp hfound with heq | hrest
        · -- the known node: its levels are the two lists together
          rw [heq] at hid hlevel
          rcases mem_merge_levels hlevel with hold | hnew
          · exact Or.inl ⟨existing, List.mem_cons_self, hid, hold⟩
          · exact Or.inr ⟨node, List.mem_cons_self, hsame ▸ hid, hnew⟩
        · exact Or.inl ⟨found, List.mem_cons_of_mem _ hrest, hid, hlevel⟩
    · rw [if_neg hsame] at h
      obtain ⟨merged, hmerged, h⟩ := bind_eq_ok.mp h
      obtain rfl := Except.ok.inj h
      rcases List.mem_cons.mp hfound with heq | hrest
      · exact Or.inl ⟨existing, List.mem_cons_self, heq ▸ hid, heq ▸ hlevel⟩
      · rcases ih hmerged ⟨found, hrest, hid, hlevel⟩ with hold | hnew
        · exact Or.inl hold.cons_of_tail
        · exact Or.inr hnew

/-- The identities after a merge are the old ones and the new one. -/
theorem holds_merge (h : merge_node nodes node = .ok nodes') :
    Holds nodes' identity ↔ Holds nodes identity ∨ identity = node.identity := by
  induction nodes generalizing nodes' with
  | nil =>
    obtain rfl := Except.ok.inj h
    unfold Holds
    constructor
    · intro hnew
      obtain ⟨found, hfound, hid⟩ := hnew
      exact Or.inr (List.mem_singleton.mp hfound ▸ hid.symm)
    · intro hor
      rcases hor with hold | hnew
      · obtain ⟨_, hmem, _⟩ := hold
        cases hmem
      · exact ⟨node, List.mem_cons_self, hnew.symm⟩
  | cons existing rest ih =>
    unfold merge_node at h
    by_cases hsame : existing.identity.server_id = node.identity.server_id
    · -- merged with a node of its id: the two have one identity
      rw [if_pos hsame] at h
      split at h
      · cases h
      · rename_i hagree
        obtain rfl := Except.ok.inj h
        have hidentity : existing.identity = node.identity :=
          of_not_not (fun hne => hagree (Or.inl hne))
        constructor
        · intro hnew
          obtain ⟨found, hfound, hid⟩ := hnew
          rcases List.mem_cons.mp hfound with heq | hrest
          · rw [heq] at hid
            exact Or.inl ⟨existing, List.mem_cons_self, hid⟩
          · exact Or.inl ⟨found, List.mem_cons_of_mem _ hrest, hid⟩
        · intro hor
          rcases hor with hold | hnew
          · obtain ⟨found, hfound, hid⟩ := hold
            rcases List.mem_cons.mp hfound with heq | hrest
            · exact ⟨_, List.mem_cons_self, heq ▸ hid⟩
            · exact ⟨found, List.mem_cons_of_mem _ hrest, hid⟩
          · exact ⟨_, List.mem_cons_self, hidentity.trans hnew.symm⟩
    · -- passed on to the later nodes
      rw [if_neg hsame] at h
      obtain ⟨merged, hmerged, h⟩ := bind_eq_ok.mp h
      obtain rfl := Except.ok.inj h
      constructor
      · intro hnew
        obtain ⟨found, hfound, hid⟩ := hnew
        rcases List.mem_cons.mp hfound with heq | hrest
        · exact Or.inl ⟨existing, List.mem_cons_self, heq ▸ hid⟩
        · rcases (ih hmerged).mp ⟨found, hrest, hid⟩ with hold | hnew
          · exact Or.inl hold.cons_of_tail
          · exact Or.inr hnew
      · intro hor
        rcases hor with hold | hnew
        · obtain ⟨found, hfound, hid⟩ := hold
          rcases List.mem_cons.mp hfound with heq | hrest
          · exact ⟨existing, List.mem_cons_self, heq ▸ hid⟩
          · exact ((ih hmerged).mpr (Or.inl ⟨found, hrest, hid⟩)).cons_of_tail
        · exact ((ih hmerged).mpr (Or.inr hnew)).cons_of_tail

/-- The loop over a downstream graph's nodes only adds what that graph says. -/
theorem validated_of_merge_child {skipped : String} :
    ∀ {nodes : List EvidenceNodeV2},
      merge_child_nodes skipped nodes child_nodes = .ok nodes' →
      Validated nodes' server_id → Validated nodes server_id ∨ Validated child_nodes server_id := by
  induction child_nodes with
  | nil =>
    intro nodes h hvalidated
    obtain rfl := Except.ok.inj h
    exact Or.inl hvalidated
  | cons node rest ih =>
    intro nodes h hvalidated
    unfold merge_child_nodes at h
    by_cases hskip : node.identity.server_id = skipped
    · rw [if_pos hskip] at h
      exact (ih h hvalidated).imp_right Validated.cons_of_tail
    · rw [if_neg hskip] at h
      obtain ⟨between, hone, hrest⟩ := bind_eq_ok.mp h
      rcases ih hrest hvalidated with hbetween | hlater
      · rcases validated_of_merge hone hbetween with hold | hnew
        · exact Or.inl hold
        · obtain ⟨found, hfound, hprops⟩ := hnew
          rw [List.mem_singleton.mp hfound] at hprops
          exact Or.inr ⟨node, List.mem_cons_self, hprops⟩
      · exact Or.inr hlater.cons_of_tail

theorem holds_of_merge_child {skipped : String} :
    ∀ {nodes : List EvidenceNodeV2},
      merge_child_nodes skipped nodes child_nodes = .ok nodes' →
      Holds nodes identity → Holds nodes' identity := by
  induction child_nodes with
  | nil =>
    intro nodes h hold
    obtain rfl := Except.ok.inj h
    exact hold
  | cons node rest ih =>
    intro nodes h hold
    unfold merge_child_nodes at h
    by_cases hskip : node.identity.server_id = skipped
    · rw [if_pos hskip] at h
      exact ih h hold
    · rw [if_neg hskip] at h
      obtain ⟨between, hone, hrest⟩ := bind_eq_ok.mp h
      exact ih hrest ((holds_merge hone).mpr (Or.inl hold))

end Merge

/-! ## §3. The unfinished graph. -/

/-- How the unfinished graph goes back to what was seen, the anchor's verdict being
`status`. -/
structure Assembled (P : Platform) (config : AgentConfig) (issuer_keys : IssuerKeyRegistry)
    (status : DnssecStatus) (o : Observed) (assembly : Assembly) : Prop where
  validated : ∀ server_id, Validated assembly.nodes server_id →
    status = .secure ∨ ∃ child ∈ o.children, Validated child.nodes server_id
  targets : ∀ target ∈ o.targets, Holds assembly.nodes target.2.1 ∧
    ∃ edge ∈ assembly.edges, edge.from_server_id = config.server_id ∧
      edge.to_server_id = target.2.1.server_id
  edges : ∀ edge ∈ assembly.edges,
    (∃ target ∈ o.targets, edge.to_server_id = target.2.1.server_id) ∨
      ∃ child ∈ o.children, child.cache_provenance = none ∧ edge ∈ child.edges
  children : ∀ child ∈ o.children,
    (∃ challenge now, validate_graph P config.mode.policy issuer_keys child challenge now = .ok ()) ∧
    (∃ target ∈ o.targets, child.entry_server_id = target.2.1.server_id) ∧
    (child.cache_provenance = none → ∀ edge ∈ child.edges, edge ∈ assembly.edges)

section Assemble

variable {P : Platform} {config : AgentConfig} {issuer_keys : IssuerKeyRegistry}
variable {status : DnssecStatus} {o : Observed} {assembly assembly' : Assembly}
variable {target : EvidenceStore.IdentityRecord} {server_id : String}

/-- Only nodes, edges and what was seen count. -/
theorem Assembled.congr (h : Assembled P config issuer_keys status o assembly)
    (hnodes : assembly'.nodes = assembly.nodes) (hedges : assembly'.edges = assembly.edges) :
    Assembled P config issuer_keys status o assembly' where
  validated := by rw [hnodes]; exact h.validated
  targets := by rw [hnodes, hedges]; exact h.targets
  edges := by rw [hedges]; exact h.edges
  children := by rw [hedges]; exact h.children

theorem Assembled.initial (self_record : EvidenceStore.IdentityRecord)
    (events : List TraceEventV2) (htargets : o.targets = []) (hchildren : o.children = []) :
    Assembled P config issuer_keys status o (initial_assembly self_record events) where
  validated := by
    intro server_id hvalidated
    obtain ⟨node, hmem, _, hlevel⟩ := hvalidated
    -- this server's own levels are fixed, and DNSSEC is not among them
    rw [List.mem_singleton.mp hmem] at hlevel
    have hlevels : EvidenceLevel.dnssecValidated ∈
        [EvidenceLevel.registryBound, EvidenceLevel.agentAttested] := hlevel
    exact absurd hlevels (by decide)
  targets := by
    rw [htargets]
    intro target hmem
    cases hmem
  edges := by
    intro edge hmem
    cases hmem
  children := by
    rw [hchildren]
    intro child hmem
    cases hmem

/-- The answer of an upstream query leaves the graph alone. -/
theorem response_event_keeps {event : TraceEventV2} {answer : Option TraceEventV2}
    (h : response_event assembly event = .ok (answer, assembly')) :
    assembly'.nodes = assembly.nodes ∧ assembly'.edges = assembly.edges := by
  unfold response_event at h
  split at h
  · unfold upstream_answer at h
    split at h
    · obtain ⟨_, _, h⟩ := bind_eq_ok.mp h
      obtain ⟨_, rfl⟩ := Prod.mk.inj (Except.ok.inj h)
      exact ⟨rfl, rfl⟩
    · split at h
      · obtain ⟨_, _, h⟩ := bind_eq_ok.mp h
        obtain ⟨_, rfl⟩ := Prod.mk.inj (Except.ok.inj h)
        exact ⟨rfl, rfl⟩
      · cases h
  · obtain ⟨_, rfl⟩ := Prod.mk.inj (Except.ok.inj h)
    exact ⟨rfl, rfl⟩

/-- A direct target has DNSSEC evidence of its own only from the anchor. -/
theorem secure_of_target_levels {target_attestation : Option TargetResponseAttestationV2}
    (h : EvidenceLevel.dnssecValidated ∈ target_levels target_attestation status) :
    status = .secure := by
  unfold target_levels at h
  by_cases hstatus : status = .secure
  · exact hstatus
  · rw [if_neg hstatus] at h
    generalize target_attestation.isSome = attested at h
    cases attested with
    | false => exact absurd h (by decide)
    | true => exact absurd h (by decide)

/-- A new direct target: its node is merged, its edge signed by this server. -/
theorem Assembled.add_target (h : Assembled P config issuer_keys status o assembly)
    (server_id : String) (edge : ServerHopEvidenceV2)
    {target_attestation : Option TargetResponseAttestationV2} {nodes : List EvidenceNodeV2}
    (hmerge : merge_node assembly.nodes
      (evidence_node target (target_levels target_attestation status)) = .ok nodes)
    (hfrom : edge.from_server_id = config.server_id)
    (hto : edge.to_server_id = target.1.server_id) :
    Assembled P config issuer_keys status
      { o with targets := o.targets ++ [(server_id, target)] }
      { assembly with nodes := nodes, edges := assembly.edges ++ [edge] } where
  validated := by
    intro id hvalidated
    rcases validated_of_merge hmerge hvalidated with hold | hnew
    · exact h.validated id hold
    · obtain ⟨node, hmem, _, hlevel⟩ := hnew
      rw [List.mem_singleton.mp hmem] at hlevel
      exact Or.inl (secure_of_target_levels hlevel)
  targets := by
    intro other hother
    rcases List.mem_append.mp hother with hold | hnew
    · obtain ⟨hholds, found, hfound, hends⟩ := h.targets other hold
      exact ⟨(holds_merge hmerge).mpr (Or.inl hholds), found, List.mem_append_left _ hfound, hends⟩
    · rw [List.mem_singleton.mp hnew]
      exact ⟨(holds_merge hmerge).mpr (Or.inr rfl), edge, List.mem_append_right _ List.mem_cons_self,
        hfrom, hto⟩
  edges := by
    intro found hfound
    rcases List.mem_append.mp hfound with hold | hnew
    · refine (h.edges found hold).imp_left ?_
      intro hlooked
      obtain ⟨other, hother, hends⟩ := hlooked
      exact ⟨other, List.mem_append_left _ hother, hends⟩
    · rw [List.mem_singleton.mp hnew]
      exact Or.inl ⟨(server_id, target), List.mem_append_right _ List.mem_cons_self, hto⟩
  children := by
    intro child hchild
    obtain ⟨hvalid, ⟨other, hother, hentry⟩, hedges⟩ := h.children child hchild
    refine ⟨hvalid, ⟨other, List.mem_append_left _ hother, hentry⟩, ?_⟩
    intro hresolved found hfound
    exact List.mem_append_left _ (hedges hresolved found hfound)

/-- What `merge_child` did, checks and all. -/
theorem merge_child_eq_ok {child : QueryEvidenceGraphV2}
    (h : merge_child assembly target child = .ok assembly') :
    child.entry_server_id = target.1.server_id ∧
      merge_child_nodes target.1.server_id assembly.nodes child.nodes = .ok assembly'.nodes ∧
      ((child.cache_provenance.isSome = true ∧ assembly'.edges = assembly.edges) ∨
        (child.cache_provenance = none ∧ assembly'.edges = assembly.edges ++ child.edges)) := by
  unfold merge_child at h
  obtain ⟨_, hentry, h⟩ := bind_eq_ok.mp h
  obtain ⟨_, _, h⟩ := bind_eq_ok.mp h
  obtain ⟨_, _, h⟩ := bind_eq_ok.mp h
  obtain ⟨nodes, hnodes, h⟩ := bind_eq_ok.mp h
  obtain rfl := Except.ok.inj h
  rw [rejectIf_eq_ok] at hentry
  refine ⟨of_not_not (fun hne => Bool.noConfusion (hentry.symm.trans (bne_iff_ne.mpr hne))), ?_⟩
  cases hprovenance : child.cache_provenance with
  | some provenance => exact ⟨hnodes, Or.inl ⟨rfl, rfl⟩⟩
  | none => exact ⟨hnodes, Or.inr ⟨rfl, rfl⟩⟩

theorem Assembled.add_child (h : Assembled P config issuer_keys status o assembly)
    {child : QueryEvidenceGraphV2} {challenge : String} {now : Int}
    (htarget : (server_id, target) ∈ o.targets)
    (hvalid : validate_graph P config.mode.policy issuer_keys child challenge now = .ok ())
    (hmerge : merge_child assembly target child = .ok assembly') :
    Assembled P config issuer_keys status { o with children := o.children ++ [child] }
      assembly' := by
  obtain ⟨hentry, hnodes, hkind⟩ := merge_child_eq_ok hmerge
  -- edges are only added
  have hkept : ∀ edge ∈ assembly.edges, edge ∈ assembly'.edges := by
    intro edge hedge
    rcases hkind with ⟨_, hedges⟩ | ⟨_, hedges⟩
    · rw [hedges]
      exact hedge
    · rw [hedges]
      exact List.mem_append_left _ hedge
  constructor
  · intro id hvalidated
    rcases validated_of_merge_child hnodes hvalidated with hold | hnew
    · refine (h.validated id hold).imp_right ?_
      intro hseen
      obtain ⟨other, hother, hlevel⟩ := hseen
      exact ⟨other, List.mem_append_left _ hother, hlevel⟩
    · exact Or.inr ⟨child, List.mem_append_right _ List.mem_cons_self, hnew⟩
  · intro other hother
    obtain ⟨hholds, edge, hedge, hends⟩ := h.targets other hother
    exact ⟨holds_of_merge_child hnodes hholds, edge, hkept edge hedge, hends⟩
  · -- an edge of the child comes from a resolved child
    intro edge hedge
    have hold : edge ∈ assembly.edges ∨ (child.cache_provenance = none ∧ edge ∈ child.edges) := by
      rcases hkind with ⟨_, hedges⟩ | ⟨hnone, hedges⟩
      · rw [hedges] at hedge
        exact Or.inl hedge
      · rw [hedges] at hedge
        exact (List.mem_append.mp hedge).imp_right (fun hmem => ⟨hnone, hmem⟩)
    rcases hold with hold | hnew
    · refine (h.edges edge hold).imp_right ?_
      intro hseen
      obtain ⟨other, hother, hmem⟩ := hseen
      exact ⟨other, List.mem_append_left _ hother, hmem⟩
    · exact Or.inr ⟨child, List.mem_append_right _ List.mem_cons_self, hnew⟩
  · intro other hother
    rcases List.mem_append.mp hother with hold | hnew
    · obtain ⟨hother, htarget', hedges⟩ := h.children other hold
      exact ⟨hother, htarget', fun hresolved edge hedge => hkept edge (hedges hresolved edge hedge)⟩
    · rw [List.mem_singleton.mp hnew]
      refine ⟨⟨challenge, now, hvalid⟩, ⟨_, htarget, hentry⟩, ?_⟩
      intro hresolved edge hedge
      rcases hkind with ⟨hsome, _⟩ | ⟨_, hedges⟩
      · rw [hresolved] at hsome
        cases hsome
      · rw [hedges]
        exact List.mem_append_right _ hedge

end Assemble

/-! ## §4. Every build follows the protocol. -/

/-- What a finished graph adds to the unsigned one. -/
structure Finished (P : Platform) (config : AgentConfig) (issuer_keys : IssuerKeyRegistry)
    (request : EvidenceGraphRequest) (now : Int) (unsigned graph : QueryEvidenceGraphV2) :
    Prop where
  signed : ∃ signature, graph = { unsigned with signature := some signature }
  valid : validate_graph P config.mode.policy issuer_keys graph request.challenge now = .ok ()

/-- A graph served from the cache, and the source the store answered with. -/
structure HitFrom (P : Platform) (config : AgentConfig) (issuer_keys : IssuerKeyRegistry)
    (request : EvidenceGraphRequest) (o : Observed) (graph source : QueryEvidenceGraphV2)
    (provenance : CacheProvenanceV2) : Prop where
  nothing_looked_up : o.targets = []
  answered : o.source = some source
  expires : min_valid_until source.nodes = some provenance.identity_expires_at
  finished : ∃ now self_record, Finished P config issuer_keys request now
    (hit_graph config request now self_record source provenance) graph

/-- How a returned graph goes back to what the build has seen. -/
inductive Built (P : Platform) (config : AgentConfig) (issuer_keys : IssuerKeyRegistry)
    (request : EvidenceGraphRequest) (o : Observed) (graph : QueryEvidenceGraphV2) : Prop where
  | resolved (now : Int) (anchor : TraceEventV2) (assembly : Assembly)
      (hanchor : o.anchor = some anchor)
      (hassembled : Assembled P config issuer_keys anchor.dnssec_status o assembly)
      (hfinished : Finished P config issuer_keys request now
        (resolved_graph config request now assembly) graph)
  | hit (source : QueryEvidenceGraphV2) (provenance : CacheProvenanceV2)
      (hhit : HitFrom P config issuer_keys request o graph source provenance)

section Follows

variable {P : Platform} {config : AgentConfig} {issuer_keys : IssuerKeyRegistry}
variable {request : EvidenceGraphRequest} {trace_id response_digest : String} {o : Observed}

/-- A polling loop ends with the claim that found something. -/
theorem poll_follows {claim : AgentProg (Option TraceEventV2)} {error : AgentError}
    (hclaim : Builds trace_id response_digest claim (fun found o' =>
      o' = match found with
        | some event => { o with anchor := some event }
        | none => o) o) {turns : Nat} :
    Builds trace_id response_digest (poll claim error turns)
      (fun event o' => o' = { o with anchor := some event }) o := by
  induction turns with
  | zero => exact trivial
  | succ turns ih =>
    unfold poll
    refine Prog.Follows.bind hclaim ?_
    intro found o' ho'
    cases found with
    | some event => exact ho'
    | none =>
      -- nothing was found, and nothing has changed for the next turn
      rw [ho']
      refine ⟨trivial, fun passed _ => ?_⟩
      show (if passed = true then _ else _ : AgentProg TraceEventV2).Follows _ _ _ _
      split
      · exact trivial
      · exact ih

theorem wait_for_trace_anchor_follows (require_registered_context : Bool)
    (htrace : request.trace_id = trace_id) (hresponse : request.response_digest = response_digest) :
    Builds trace_id response_digest (wait_for_trace_anchor config request require_registered_context)
      (fun event o' => o' = { o with anchor := some event }) o := by
  refine poll_follows ?_
  cases require_registered_context with
  | true =>
    refine ⟨⟨htrace, hresponse⟩, fun r _ => Prog.follows_ofExcept.mpr ⟨?_, fun _ _ => trivial⟩⟩
    intro found hfound
    rw [hfound]
    cases found <;> rfl
  | false =>
    refine ⟨⟨htrace, hresponse⟩, fun r _ => Prog.follows_ofExcept.mpr ⟨?_, fun _ _ => trivial⟩⟩
    intro found hfound
    rw [hfound]
    cases found <;> rfl

theorem unix_time_follows {α : Type} {f : Int → AgentProg α} {Q : α → Observed → Prop}
    (hf : ∀ now, Builds trace_id response_digest (f now) Q o) :
    Builds trace_id response_digest (unix_time >>= f) Q o :=
  ⟨trivial, fun now _ => hf now⟩

theorem require_fresh_registry_follows (now : Int) :
    Builds trace_id response_digest (require_fresh_registry config now) (fun _ o' => o' = o) o := by
  refine ⟨trivial, fun r _ => ?_⟩
  refine Prog.follows_ofExcept_bind ?_
  intro last_success hlast
  exact Prog.follows_rejectIf.mpr ⟨fun _ => by rw [hlast]; rfl, fun _ => trivial⟩

theorem lookup_identity_follows (endpoint : DnsEndpoint) :
    Builds trace_id response_digest (lookup_identity endpoint) (fun found o' =>
      ∀ record, found = some record →
        ∃ server_id, o' = { o with targets := o.targets ++ [(server_id, record)] }) o := by
  refine ⟨trivial, fun r _ => ?_⟩
  refine Prog.follows_ofExcept_bind ?_
  intro found hfound
  rw [hfound]
  cases found with
  | none =>
    intro record hrecord
    cases hrecord
  | some server_id =>
    refine ⟨trivial, fun r' _ => Prog.follows_ofExcept.mpr ⟨?_, fun _ _ => trivial⟩⟩
    intro found' hfound' record hrecord
    rw [hfound', hrecord]
    exact ⟨server_id, rfl⟩

theorem fetch_target_attestation_follows (target : DnsServerIdentityV2)
    (attestation_request : ResponseAttestationRequest) :
    Builds trace_id response_digest (fetch_target_attestation config target attestation_request)
      (fun _ o' => o' = o) o := by
  unfold fetch_target_attestation
  split
  · split
    · exact trivial
    · exact rfl
  · refine ⟨trivial, fun reply _ => Prog.follows_ofExcept.mpr ⟨fun _ _ => rfl, fun _ _ => trivial⟩⟩

theorem fetch_target_graph_follows (target : DnsServerIdentityV2)
    (graph_request : EvidenceGraphRequest) :
    Builds trace_id response_digest
      (fetch_target_graph P config issuer_keys target graph_request)
      (fun child o' => o' = { o with children := o.children ++ [child] } ∧
        ∃ now, validate_graph P config.mode.policy issuer_keys child graph_request.challenge now =
          .ok ()) o := by
  unfold fetch_target_graph
  refine Prog.follows_okOr_bind ?_
  intro service_url _
  refine ⟨trivial, fun reply _ => ?_⟩
  refine Prog.follows_ofExcept_bind ?_
  intro child hchild
  have hreply : reply = .body child := by
    cases reply with
    | body graph => exact congrArg HttpReply.body (Except.ok.inj hchild)
    | unreadable error => cases hchild
    | refused status detail => cases hchild
    | failed text => cases hchild
  rw [hreply]
  refine ⟨trivial, fun now _ => ?_⟩
  refine Prog.follows_ofExcept_bind ?_
  intro _ haccept
  unfold accept_downstream at haccept
  obtain ⟨_, hvalid, _⟩ := bind_eq_ok.mp haccept
  exact ⟨rfl, now, mapError_eq_ok.mp hvalid⟩

theorem put_graph_follows {graph : QueryEvidenceGraphV2} (htrace : graph.trace_id = trace_id)
    (hresponse : graph.response_digest = response_digest) :
    Builds trace_id response_digest (put_graph graph)
      (fun _ o' => ∃ generation_sql, o' = { o with generation := some generation_sql }) o := by
  refine ⟨trivial, fun r _ => ?_⟩
  refine Prog.follows_ofExcept_bind ?_
  intro generation_sql hgeneration
  rw [hgeneration]
  refine ⟨⟨htrace, hresponse, rfl⟩, fun r' _ => Prog.follows_ofExcept.mpr ⟨?_, fun _ _ => trivial⟩⟩
  intro _ _
  exact ⟨generation_sql, rfl⟩

theorem finish_graph_follows {unsigned : QueryEvidenceGraphV2} (now : Int)
    (htrace : unsigned.trace_id = trace_id)
    (hresponse : unsigned.response_digest = response_digest) :
    Builds trace_id response_digest (finish_graph P config issuer_keys request now unsigned)
      (fun graph o' => (∃ generation_sql, o' = { o with generation := some generation_sql }) ∧
        Finished P config issuer_keys request now unsigned graph) o := by
  unfold finish_graph
  refine Prog.follows_ofExcept_bind ?_
  intro graph hsign
  unfold sign_graph at hsign
  obtain ⟨signature, _, hgraph⟩ := bind_eq_ok.mp hsign
  obtain rfl := Except.ok.inj hgraph
  refine Prog.follows_ofExcept_bind ?_
  intro _ hvalid
  refine Prog.Follows.bind (put_graph_follows htrace hresponse) ?_
  intro _ o' ho'
  exact ⟨ho', ⟨signature, rfl⟩, mapError_eq_ok.mp hvalid⟩

end Follows

section Build

variable {P : Platform} {config : AgentConfig} {issuer_keys : IssuerKeyRegistry}
variable {request : EvidenceGraphRequest} {trace_id response_digest : String} {o : Observed}
variable {assembly : Assembly} {status : DnssecStatus}

/-- The loop invariant: the unfinished graph goes back to what was seen, under the
anchor claimed before the loop. -/
def Progress (P : Platform) (config : AgentConfig) (issuer_keys : IssuerKeyRegistry)
    (status : DnssecStatus) (anchor : Option TraceEventV2) (assembly : Assembly) (o : Observed) :
    Prop :=
  Assembled P config issuer_keys status o assembly ∧ o.anchor = anchor

theorem descend_follows {server_id : String} {target : EvidenceStore.IdentityRecord}
    {event : TraceEventV2} {target_correlation_id digest : String}
    (h : Assembled P config issuer_keys status o assembly)
    (htarget : (server_id, target) ∈ o.targets) :
    Builds trace_id response_digest
      (descend P config issuer_keys request assembly target event target_correlation_id digest)
      (Progress P config issuer_keys status o.anchor) o := by
  unfold descend
  split
  · refine Prog.Follows.bind (fetch_target_graph_follows target.1 _) ?_
    intro child o' hchild
    obtain ⟨rfl, now, hvalid⟩ := hchild
    refine Prog.follows_ofExcept.mpr ⟨?_, fun _ _ => trivial⟩
    intro assembly' hmerge
    exact ⟨h.add_child htarget hvalid hmerge, rfl⟩
  · exact ⟨h, rfl⟩

/-- One answered query: a target is looked up, merged and descended into. -/
theorem Assembled.add_hop {now : Int} {event answer : TraceEventV2} {target_endpoint : DnsEndpoint}
    (h : Assembled P config issuer_keys status o assembly) :
    Builds trace_id response_digest
      (add_hop P config issuer_keys request now status assembly event answer target_endpoint)
      (Progress P config issuer_keys status o.anchor) o := by
  unfold Agent.add_hop
  refine Prog.follows_okOr_bind ?_
  intro digest _
  refine Prog.Follows.bind (lookup_identity_follows target_endpoint) ?_
  intro found o' hfound
  refine Prog.follows_okOr_bind ?_
  intro target htarget
  obtain ⟨server_id, rfl⟩ := hfound target htarget
  refine Prog.follows_rejectIf_bind ?_
  intro _
  refine Prog.follows_ofExcept_bind ?_
  intro target_correlation_id _
  refine Prog.Follows.bind (fetch_target_attestation_follows target.1 _) ?_
  intro target_attestation o'' ho''
  rw [ho'']
  refine Prog.follows_ofExcept_bind ?_
  intro nodes hmerge
  refine Prog.follows_ofExcept_bind ?_
  intro from_endpoint _
  refine Prog.follows_ofExcept_bind ?_
  intro edge hsign
  -- signing changes the signature only
  unfold sign_edge at hsign
  obtain ⟨signature, _, hedge⟩ := bind_eq_ok.mp hsign
  obtain rfl := Except.ok.inj hedge
  have hadded := h.add_target server_id
    { direct_edge config request now from_endpoint target_endpoint target event answer
        target_correlation_id digest target_attestation with signature := some signature }
    hmerge rfl rfl
  exact descend_follows hadded (List.mem_append_right _ List.mem_cons_self)

theorem process_outbound_follows {now : Int} {event : TraceEventV2}
    (h : Assembled P config issuer_keys status o assembly) :
    Builds trace_id response_digest
      (process_outbound P config issuer_keys request now status assembly event)
      (Progress P config issuer_keys status o.anchor) o := by
  unfold process_outbound
  refine Prog.follows_okOr_bind ?_
  intro target_endpoint _
  refine Prog.follows_ofExcept_bind ?_
  intro answered hanswered
  obtain ⟨answer, assembly'⟩ := answered
  obtain ⟨hnodes, hedges⟩ := response_event_keeps hanswered
  have h' := h.congr hnodes hedges
  cases answer with
  | none => exact ⟨h', rfl⟩
  | some answer => exact h'.add_hop

theorem process_all_follows {now : Int} {events : List TraceEventV2} :
    ∀ {assembly : Assembly} {o : Observed}, Assembled P config issuer_keys status o assembly →
      Builds trace_id response_digest
        (process_all P config issuer_keys request now status assembly events)
        (Progress P config issuer_keys status o.anchor) o := by
  induction events with
  | nil => intro assembly o h; exact ⟨h, rfl⟩
  | cons event rest ih =>
    intro assembly o h
    refine Prog.Follows.bind (process_outbound_follows h) ?_
    intro assembly' o' h'
    rw [← h'.2]
    exact ih h'.1

theorem find_cache_source_follows (query_digest cache_object_digest graph_digest : String) :
    Builds trace_id response_digest
      (find_cache_source_graph_by_digest query_digest cache_object_digest graph_digest)
      (fun found o' => ∀ graph, found = some graph →
        o'.source = some graph ∧ o'.targets = o.targets ∧ o'.anchor = o.anchor ∧
          o'.children = o.children) o := by
  refine ⟨trivial, fun r _ => ?_⟩
  refine Prog.follows_ofExcept_bind ?_
  intro generation_sql hgeneration
  rw [hgeneration]
  refine ⟨trivial, fun r' _ => Prog.follows_ofExcept.mpr ⟨?_, fun _ _ => trivial⟩⟩
  intro found hfound graph hgraph
  rw [hfound, hgraph]
  exact ⟨rfl, rfl, rfl, rfl⟩

theorem build_cache_hit_graph_follows {self_record : EvidenceStore.IdentityRecord}
    {cache_hit : Option TraceEventV2} {now : Int} (htrace : request.trace_id = trace_id)
    (hresponse : request.response_digest = response_digest) (htargets : o.targets = []) :
    Builds trace_id response_digest
      (build_cache_hit_graph P config issuer_keys request self_record cache_hit now)
      (fun graph o' => o'.anchor = o.anchor ∧ ∃ source provenance,
        HitFrom P config issuer_keys request o' graph source provenance) o := by
  unfold build_cache_hit_graph
  refine Prog.follows_okOr_bind ?_
  intro hit _
  refine Prog.follows_okOr_bind ?_
  intro ttl_expires_at _
  refine Prog.follows_rejectIf_bind ?_
  intro _
  refine Prog.follows_okOr_bind ?_
  intro cache_object_digest _
  refine Prog.follows_okOr_bind ?_
  intro source_digest _
  refine Prog.Follows.bind (find_cache_source_follows _ _ _) ?_
  intro found o' hfound
  refine Prog.follows_okOr_bind ?_
  intro source hsource
  refine Prog.follows_rejectIf_bind ?_
  intro _
  refine Prog.follows_rejectIf_bind ?_
  intro _
  refine Prog.follows_okOr_bind ?_
  intro identity_expires_at hexpires
  refine (finish_graph_follows now htrace hresponse).mono ?_ (fun _ _ h => h)
  intro graph o'' hfinished
  obtain ⟨⟨generation_sql, rfl⟩, hfinished⟩ := hfinished
  obtain ⟨hsource', htargets', hanchor', _⟩ := hfound source hsource
  exact ⟨hanchor', source, _, htargets'.trans htargets, hsource', hexpires, now, self_record,
    hfinished⟩

theorem build_from_events_follows {self_record : EvidenceStore.IdentityRecord}
    {anchor : TraceEventV2} {events : List TraceEventV2} {now : Int}
    (htrace : request.trace_id = trace_id) (hresponse : request.response_digest = response_digest)
    (hanchor : o.anchor = some anchor) (htargets : o.targets = []) (hchildren : o.children = []) :
    Builds trace_id response_digest
      (build_from_events P config issuer_keys request now self_record anchor events)
      (fun graph o' => o'.anchor = some anchor ∧ Built P config issuer_keys request o' graph)
      o := by
  unfold build_from_events
  show (if (events.filter (is_outbound config request)).isEmpty = true then _ else _ :
    AgentProg QueryEvidenceGraphV2).Follows _ _ _ _
  split
  · refine (build_cache_hit_graph_follows htrace hresponse htargets).mono ?_ (fun _ _ h => h)
    intro graph o' h
    obtain ⟨hsame, source, provenance, hhit⟩ := h
    exact ⟨hsame.trans hanchor, .hit source provenance hhit⟩
  · have hinitial : Assembled P config issuer_keys anchor.dnssec_status o
        (initial_assembly self_record events) :=
      Assembled.initial self_record events htargets hchildren
    refine Prog.Follows.bind (process_all_follows hinitial) ?_
    intro assembly o' h
    refine (finish_graph_follows now htrace hresponse).mono ?_ (fun _ _ h => h)
    intro graph o'' hfinished
    obtain ⟨⟨generation_sql, rfl⟩, hfinished⟩ := hfinished
    refine ⟨h.2.trans hanchor, .resolved now anchor assembly (h.2.trans hanchor) ?_ hfinished⟩
    exact ⟨h.1.validated, h.1.targets, h.1.edges, h.1.children⟩

/-- A build claims and stores under its own request, and what it returns goes back to
what it has seen. -/
theorem build_graph_follows (require_registered_context : Bool) :
    Builds request.trace_id request.response_digest
      (build_graph_with_context P config issuer_keys request require_registered_context)
      (fun graph o' => (∃ anchor, o'.anchor = some anchor) ∧
        Built P config issuer_keys request o' graph) Observed.start := by
  unfold build_graph_with_context
  refine Prog.follows_ofExcept_bind ?_
  intro _ _
  refine unix_time_follows ?_
  intro now
  refine Prog.Follows.bind (require_fresh_registry_follows now) ?_
  intro _ o' ho'
  rw [ho']
  refine Prog.follows_rejectIf_bind ?_
  intro _
  refine Prog.follows_rejectIf_bind ?_
  intro _
  refine ⟨trivial, fun r _ => ?_⟩
  refine Prog.follows_ofExcept_bind ?_
  intro found hfound
  refine Prog.follows_okOr_bind ?_
  intro self_record hself
  rw [hfound, hself]
  refine Prog.Follows.bind (wait_for_trace_anchor_follows require_registered_context rfl rfl) ?_
  intro anchor o'' ho''
  rw [ho'']
  refine ⟨trivial, fun r' _ => ?_⟩
  refine Prog.follows_ofExcept_bind ?_
  intro events hevents
  rw [hevents]
  refine (build_from_events_follows rfl rfl rfl rfl rfl).mono ?_ (fun _ _ h => h)
  intro graph o₁ h
  exact ⟨⟨anchor, h.1⟩, h.2⟩

/-- An attestation claims under its own request and stores no graph. -/
theorem attest_response_follows (request : ResponseAttestationRequest) :
    Builds request.trace_id request.response_digest (attest_response P config request)
      (fun _ _ => True) Observed.start := by
  unfold attest_response
  refine Prog.follows_ofExcept_bind ?_
  intro _ _
  refine unix_time_follows ?_
  intro now
  refine Prog.Follows.bind (require_fresh_registry_follows now) ?_
  intro _ o' ho'
  rw [ho']
  refine ⟨trivial, fun r _ => ?_⟩
  refine Prog.follows_ofExcept_bind ?_
  intro found hfound
  refine Prog.follows_okOr_bind ?_
  intro record hrecord
  rw [hfound, hrecord]
  refine Prog.follows_rejectIf_bind ?_
  intro _
  refine Prog.follows_bind.mpr ((poll_follows ?_).mono ?_ (fun _ _ h => h))
  · refine ⟨⟨rfl, rfl⟩, fun r' _ => Prog.follows_ofExcept.mpr ⟨?_, fun _ _ => trivial⟩⟩
    intro found' hfound'
    rw [hfound']
    cases found' <;> rfl
  · intro event o'' _
    refine Prog.follows_ofExcept_bind ?_
    intro signature _
    exact trivial

/-- What an execution of a build has seen at its end. -/
def observed (request : EvidenceGraphRequest) (τ : List (Prog.Event AgentOp AgentRes)) : Observed :=
  Prog.after (buildProtocol request.trace_id request.response_digest) Observed.start τ

theorem plausible_observed {trace_id response_digest : String}
    (τ : List (Prog.Event AgentOp AgentRes)) :
    ∀ o, Prog.Plausible (buildProtocol trace_id response_digest) o τ := by
  induction τ with
  | nil => intro o; exact trivial
  | cons event rest ih => intro o; exact ⟨trivial, ih _⟩

/-- A finished build: the anchor is known, and the graph goes back to what was seen. -/
theorem built_of_exec {require_registered_context : Bool}
    {τ : List (Prog.Event AgentOp AgentRes)} {graph : QueryEvidenceGraphV2}
    (h : Prog.Exec
      (build_graph_with_context P config issuer_keys request require_registered_context) τ
      (.ok graph)) :
    (∃ anchor, (observed request τ).anchor = some anchor) ∧
      Built P config issuer_keys request (observed request τ) graph :=
  h.follows (build_graph_follows require_registered_context) (plausible_observed τ _)

/-! ## §5. Edges of the server's own. -/

theorem mem_resolved_edges {now : Int} {assembly : Assembly} {graph : QueryEvidenceGraphV2}
    (h : Finished P config issuer_keys request now (resolved_graph config request now assembly)
      graph) {edge : ServerHopEvidenceV2} : edge ∈ graph.edges ↔ edge ∈ assembly.edges := by
  obtain ⟨signature, rfl⟩ := h.signed
  exact List.mem_insertionSort _

theorem mem_resolved_nodes {now : Int} {assembly : Assembly} {graph : QueryEvidenceGraphV2}
    (h : Finished P config issuer_keys request now (resolved_graph config request now assembly)
      graph) {node : EvidenceNodeV2} : node ∈ graph.nodes ↔ node ∈ assembly.nodes := by
  obtain ⟨signature, rfl⟩ := h.signed
  exact List.mem_insertionSort _

theorem resolved_entry {now : Int} {assembly : Assembly} {graph : QueryEvidenceGraphV2}
    (h : Finished P config issuer_keys request now (resolved_graph config request now assembly)
      graph) : graph.entry_server_id = config.server_id := by
  obtain ⟨signature, rfl⟩ := h.signed
  rfl

/-- The edges out of this server are the ones it signed for targets it looked up: an
edge a downstream graph draws from it would close a cycle. -/
theorem own_edges_looked_up {now : Int} {assembly : Assembly} {graph : QueryEvidenceGraphV2}
    (h : Assembled P config issuer_keys status o assembly)
    (hfinished : Finished P config issuer_keys request now
      (resolved_graph config request now assembly) graph)
    {edge : ServerHopEvidenceV2} (hedge : edge ∈ graph.edges)
    (hfrom : edge.from_server_id = graph.entry_server_id) :
    ∃ target ∈ o.targets, edge.to_server_id = target.2.1.server_id := by
  rcases h.edges edge ((mem_resolved_edges hfinished).mp hedge) with hown | hseen
  · exact hown
  · exfalso
    obtain ⟨child, hchild, hresolved, hmem⟩ := hseen
    obtain ⟨⟨challenge, now', hvalid⟩, ⟨target, htarget, hentry⟩, hsub⟩ := h.children child hchild
    obtain ⟨_, own, hown, hownfrom, hownto⟩ := h.targets target htarget
    -- this server's own edge into the child's entry, and the walk from there back here
    have hhop : Hop graph.edges graph.entry_server_id child.entry_server_id := by
      refine ⟨own, (mem_resolved_edges hfinished).mpr hown, ?_, ?_⟩
      · rw [hownfrom, resolved_entry hfinished]
      · rw [hownto, hentry]
    have hback : Walk child.edges child.entry_server_id edge.from_server_id :=
      reachable_of_validate hvalid (ends_of_validate hvalid hmem).1
    have hback : Walk graph.edges child.entry_server_id graph.entry_server_id := by
      rw [← hfrom]
      exact hback.mono (fun e he => (mem_resolved_edges hfinished).mpr (hsub hresolved e he))
    exact no_return_of_validate hfinished.valid (Relation.TransGen.head' hhop hback)

end Build

end ResolverIdentity.Agent
