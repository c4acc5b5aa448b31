/-
  ResolverIdentity.Verifier.Restated: graphs reissued at another checkpoint.

  An Agent that reads the Registry at another finalized height issues the same graph
  with other references, and signs it again.  `Standing` is what is left for such a
  graph to satisfy: its references are well formed and agree with each other, its
  signatures are good.  Everything else the verifier asks is answered by the graph it
  was made from.

  Main results:
    * `standing_of_validate`: an accepted graph stands;
    * `validate_of_reissued`: a reissued graph is accepted when the original is.
-/
import ResolverIdentity.Core.Checkpoints
import ResolverIdentity.Verifier.Acceptance

namespace ResolverIdentity.Verifier

open Library Agent

/-! ## §1. Standing graphs. -/

/-- The references of a graph are well formed and agree with each other. -/
structure Coherent (graph : QueryEvidenceGraphV2) : Prop where
  shapes : ∀ node ∈ graph.nodes, validate_registry_shape node.registry = .ok ()
  /-- An edge carries the reference of the node it leads to. -/
  references : ∀ edge ∈ graph.edges, ∀ target,
    find_node graph.nodes edge.to_server_id = some target → edge.registry = target.registry
  generation : ∀ provenance, graph.cache_provenance = some provenance →
    provenance.snapshot_generation = max_generation graph.nodes

/-- The graph and its edges are signed by the Agents they name. -/
structure AgentSigned (P : Platform) (graph : QueryEvidenceGraphV2) : Prop where
  edges_signed : ∀ edge ∈ graph.edges, ∀ source agent,
    find_node graph.nodes edge.from_server_id = some source →
      source.identity.agent = some agent →
        P.verify_ed25519 edge.to_value agent.public_key = .ok ()
  signed : ∀ entry agent, find_node graph.nodes graph.entry_server_id = some entry →
    entry.identity.agent = some agent → P.verify_ed25519 graph.to_value agent.public_key = .ok ()

/-- The references and signatures of a graph are in order, whatever the clock says. -/
structure Standing (P : Platform) (graph : QueryEvidenceGraphV2) : Prop
    extends Coherent graph, AgentSigned P graph

/-- The same graph, with other references and signed again, and so are those attached. -/
structure Reissued (P : Platform) (graph graph' : QueryEvidenceGraphV2) : Prop where
  same : graph.without_checkpoints = graph'.without_checkpoints
  standing : Standing P graph'
  attached : ∀ child ∈ graph'.terminal_cache_graphs, Standing P child

section Standing

variable {P : Platform} {policy : EvidencePolicy} {issuer_keys : IssuerKeyRegistry}
variable {graph : QueryEvidenceGraphV2} {expected_challenge : String} {now : Int}

theorem generation_of_validate
    (h : validate_graph P policy issuer_keys graph expected_challenge now = .ok ())
    {provenance : CacheProvenanceV2} (hp : graph.cache_provenance = some provenance) :
    provenance.snapshot_generation = max_generation graph.nodes := by
  have hok := (accepted_of_validate h).provenance
  unfold validate_cache_provenance at hok
  rw [hp] at hok
  simp only [bind_eq_ok, exists_unit, rejectIf_eq_ok, bne_eq_false_iff_eq] at hok
  exact hok.2.2.2

theorem standing_of_validate
    (h : validate_graph P policy issuer_keys graph expected_challenge now = .ok ()) :
    Standing P graph where
  shapes := by
    intro node hnode
    exact ((validate_nodes_iff.mp (accepted_of_validate h).nodes).1 node hnode).registry_shape
  references := by
    intro edge hedge target htarget
    obtain ⟨source, found, agent, hends⟩ :=
      ((validate_edges_iff.mp (accepted_of_validate h).edges).1 edge hedge).ends
    rw [hends.registry, Option.some.inj (hends.found_target.symm.trans htarget)]
  edges_signed := by
    intro edge hedge source agent hsource hagent
    obtain ⟨found, target, key, hends⟩ :=
      ((validate_edges_iff.mp (accepted_of_validate h).edges).1 edge hedge).ends
    have hsame : found = source := Option.some.inj (hends.found_source.symm.trans hsource)
    have hkey : key = agent := by
      have hbound := hends.bound_agent
      rw [hsame] at hbound
      exact Option.some.inj (hbound.symm.trans hagent)
    rw [← hkey]
    exact hends.signed
  signed := by
    intro entry agent hentry hagent
    obtain ⟨public_key, ⟨node, key, hnode, hkey, hpublic⟩, hsigned⟩ := entry_signed_of_validate h
    rw [Option.some.inj (hnode.symm.trans hentry)] at hkey
    rw [Option.some.inj (hagent.symm.trans hkey), hpublic]
    exact hsigned
  generation := fun provenance hp => generation_of_validate h hp

end Standing

/-! ## §2. Nodes and edges at another checkpoint. -/

section Parts

variable {P : Platform} {policy : EvidencePolicy} {issuer_keys : IssuerKeyRegistry} {now : Int}
variable {nodes nodes' : List EvidenceNodeV2} {node node' : EvidenceNodeV2}
variable {edge edge' : ServerHopEvidenceV2} {trace_id challenge : String}

/-- A node only has to carry a well-formed reference again. -/
theorem NodeOk.restated (h : NodeOk P policy issuer_keys now node)
    (hsame : node.without_checkpoint = node'.without_checkpoint)
    (hshape : validate_registry_shape node'.registry = .ok ()) :
    NodeOk P policy issuer_keys now node' := by
  have hbound : registry_mismatch P node = registry_mismatch P node' :=
    (congrArg (registry_mismatch P) hsame :)
  obtain ⟨registry, rfl, _⟩ := EvidenceNodeV2.eq_of_without_checkpoint hsame
  exact ⟨h.schema, h.identity_shape, hshape, h.accepted, h.active, h.signed, h.levels,
    hbound.symm.trans h.bound⟩

theorem target_attestation_without_checkpoint {target : EvidenceNodeV2} :
    validate_target_attestation P policy now edge.without_checkpoint target.without_checkpoint =
      validate_target_attestation P policy now edge target := rfl

/-- An edge has to carry the reference of its target again, and a new signature. -/
theorem EdgeOk.restated (h : EdgeOk P policy now trace_id challenge nodes edge)
    (hsame : edge.without_checkpoint = edge'.without_checkpoint)
    (hnodes : nodes.map EvidenceNodeV2.without_checkpoint =
      nodes'.map EvidenceNodeV2.without_checkpoint)
    (hreference : ∀ target, find_node nodes' edge'.to_server_id = some target →
      edge'.registry = target.registry)
    (hsigned : ∀ source agent, find_node nodes' edge'.from_server_id = some source →
      source.identity.agent = some agent →
        P.verify_ed25519 edge'.to_value agent.public_key = .ok ()) :
    EdgeOk P policy now trace_id challenge nodes' edge' := by
  obtain ⟨source, target, agent, hends⟩ := h.ends
  obtain ⟨source', hsource', hsource⟩ := find_node_transfer hnodes.symm hends.found_source
  obtain ⟨target', htarget', htarget⟩ := find_node_transfer hnodes.symm hends.found_target
  have hattested : validate_target_attestation P policy now edge' target' =
      validate_target_attestation P policy now edge target := by
    rw [← target_attestation_without_checkpoint, ← hsame, htarget,
      target_attestation_without_checkpoint]
  have hsource_identity : source'.identity = source.identity :=
    (congrArg EvidenceNodeV2.identity hsource :)
  have htarget_identity : target'.identity = target.identity :=
    (congrArg EvidenceNodeV2.identity htarget :)
  have hagent : source'.identity.agent = some agent := by
    rw [hsource_identity]
    exact hends.bound_agent
  obtain ⟨registry, signature, rfl, _⟩ := ServerHopEvidenceV2.eq_of_without_checkpoint hsame
  have hends' : EndsOk P policy now nodes'
      { edge with registry := registry, signature := signature } source' target' agent := by
    refine ⟨hsource', htarget', hreference target' htarget', hends.distinct, ?_, hagent, hends.key,
      hsigned source' agent hsource' hagent, hattested.trans hends.attested⟩
    rw [endpoint_bound, endpoint_bound, hsource_identity, htarget_identity]
    exact hends.endpoints
  exact ⟨h.schema, h.bound, h.digests, h.window, h.ttl, h.observation, h.accepted,
    source', target', agent, hends'⟩

end Parts

/-! ## §3. Reissued graphs. -/

/-- Two graphs without checkpoints, field by field. -/
theorem fields_of_same {graph graph' : QueryEvidenceGraphV2}
    (h : graph.without_checkpoints = graph'.without_checkpoints) :
    ∃ cache_provenance terminal_cache_graphs nodes edges signature,
      graph' = { graph with
        cache_provenance := cache_provenance
        terminal_cache_graphs := terminal_cache_graphs
        nodes := nodes
        edges := edges
        signature := signature } ∧
      graph.cache_provenance.map CacheProvenanceV2.without_checkpoint =
        cache_provenance.map CacheProvenanceV2.without_checkpoint ∧
      graph.terminal_cache_graphs.map QueryEvidenceGraphV2.without_checkpoints =
        terminal_cache_graphs.map QueryEvidenceGraphV2.without_checkpoints ∧
      graph.nodes.map EvidenceNodeV2.without_checkpoint =
        nodes.map EvidenceNodeV2.without_checkpoint ∧
      graph.edges.map ServerHopEvidenceV2.without_checkpoint =
        edges.map ServerHopEvidenceV2.without_checkpoint := by
  rw [without_checkpoints_eq, without_checkpoints_eq] at h
  cases graph
  cases graph'
  simp only [QueryEvidenceGraphV2.mk.injEq] at h
  obtain ⟨rfl, rfl, rfl, rfl, rfl, rfl, rfl, rfl, rfl, rfl, rfl, hprovenance, hattached, hnodes,
    hedges, rfl, rfl, rfl, rfl, -⟩ := h
  exact ⟨_, _, _, _, _, rfl, hprovenance, hattached, hnodes, hedges⟩

section Graphs

variable {P : Platform} {policy : EvidencePolicy} {issuer_keys : IssuerKeyRegistry}
variable {graph graph' : QueryEvidenceGraphV2} {expected_challenge : String} {now : Int}

/-- The phases of an accepting run are all there is to acceptance. -/
theorem validate_of_accepted
    (h : Accepted P policy issuer_keys graph expected_challenge now) :
    validate_graph P policy issuer_keys graph expected_challenge now = .ok () := by
  rw [validate_graph_eq]
  unfold validate_graph_with
  simp only [bind_eq_ok, exists_unit]
  exact ⟨h.header, h.nodes, h.entry, h.edges, h.topology, h.provenance, h.attached, h.summary⟩

/-- All but the attached graphs, which are graphs of their own. -/
theorem accepted_of_standing
    (h : Accepted P policy issuer_keys graph expected_challenge now)
    (hsame : graph.without_checkpoints = graph'.without_checkpoints) (hstanding : Standing P graph')
    (hattached : validate_terminal_cache_graphs policy
      (fun child => validate_graph P policy issuer_keys child graph'.challenge now) graph' =
        .ok ()) :
    Accepted P policy issuer_keys graph' expected_challenge now := by
  obtain ⟨cache_provenance, terminal_cache_graphs, nodes, edges, signature, hgraph, hprovenance, _,
    hnodes, hedges⟩ := fields_of_same hsame
  have hids : node_ids graph.nodes = node_ids nodes := node_ids_congr hnodes
  constructor
  · rw [← validate_header_without_checkpoints, ← hsame, validate_header_without_checkpoints]
    exact h.header
  · obtain ⟨hall, hnodup, hanchors⟩ := validate_nodes_iff.mp h.nodes
    rw [hgraph] at hstanding ⊢
    refine validate_nodes_iff.mpr ⟨?_, hids ▸ hnodup, ?_⟩
    · intro node' hnode'
      obtain ⟨node, hnode, heq⟩ := mem_transfer hnodes hnode'
      exact (hall node hnode).restated heq (hstanding.shapes node' hnode')
    · intro a' ha' b' hb'
      obtain ⟨a, ha, heqa⟩ := mem_transfer hnodes ha'
      obtain ⟨b, hb, heqb⟩ := mem_transfer hnodes hb'
      have hanchor_a : anchor a.registry = anchor a'.registry :=
        (congrArg (fun node => anchor node.registry) heqa :)
      have hanchor_b : anchor b.registry = anchor b'.registry :=
        (congrArg (fun node => anchor node.registry) heqb :)
      rw [← hanchor_a, ← hanchor_b]
      exact hanchors a ha b hb
  · have hentry := h.entry
    unfold validate_entry at hentry
    simp only [bind_eq_ok, exists_unit, rejectIf_eq_ok, okOr_eq_ok] at hentry
    obtain ⟨entry, hfind, agent, hagent, hkey, _⟩ := hentry
    obtain ⟨entry', hfind', heq⟩ := find_node_transfer hnodes.symm hfind
    have hagent' : entry'.identity.agent = some agent := by
      have hidentity : entry'.identity = entry.identity :=
        (congrArg EvidenceNodeV2.identity heq :)
      rw [hidentity]
      exact hagent
    unfold validate_entry
    simp only [bind_eq_ok, exists_unit, rejectIf_eq_ok, okOr_eq_ok]
    rw [hgraph] at hstanding ⊢
    exact ⟨entry', hfind', agent, hagent', hkey, hstanding.signed entry' agent hfind' hagent'⟩
  · obtain ⟨hall, hnodup⟩ := validate_edges_iff.mp h.edges
    have hedge_ids : graph.edges.map ServerHopEvidenceV2.edge_id =
        edges.map ServerHopEvidenceV2.edge_id := by
      have hmap := congrArg (List.map ServerHopEvidenceV2.edge_id) hedges
      rw [List.map_map, List.map_map] at hmap
      exact hmap
    rw [hgraph] at hstanding ⊢
    refine validate_edges_iff.mpr ⟨?_, hedge_ids ▸ hnodup⟩
    intro edge' hedge'
    obtain ⟨edge, hedge, heq⟩ := mem_transfer hedges hedge'
    exact (hall edge hedge).restated heq hnodes (hstanding.references edge' hedge')
      (hstanding.edges_signed edge' hedge')
  · rw [← validate_topology_without_checkpoints, ← hsame, validate_topology_without_checkpoints]
    exact h.topology
  · have hok := h.provenance
    unfold validate_cache_provenance at hok ⊢
    rw [hgraph] at hstanding ⊢
    have hlength : nodes.length = graph.nodes.length := by
      have hlengths := congrArg List.length hnodes
      rw [List.length_map, List.length_map] at hlengths
      exact hlengths.symm
    have hempty : edges.isEmpty = graph.edges.isEmpty := by
      have hempties := congrArg List.isEmpty hedges
      rw [List.isEmpty_map, List.isEmpty_map] at hempties
      exact hempties.symm
    cases hp : graph.cache_provenance with
    | none =>
      rw [hp] at hok hprovenance
      have hnone : cache_provenance = none := Option.map_eq_none_iff.mp hprovenance.symm
      simp only [hnone, hempty]
      exact hok
    | some provenance =>
      rw [hp] at hok hprovenance
      obtain ⟨provenance', hp', heq⟩ := Option.map_eq_some_iff.mp hprovenance.symm
      have hgeneration := hstanding.generation provenance' hp'
      simp only [hp', hempty, hlength]
      simp only [bind_eq_ok, exists_unit, rejectIf_eq_ok, bne_eq_false_iff_eq] at hok ⊢
      -- only the generation is another one
      cases provenance
      cases provenance'
      simp only [CacheProvenanceV2.without_checkpoint, CacheProvenanceV2.mk.injEq] at heq
      obtain ⟨rfl, rfl, rfl, rfl, rfl, -⟩ := heq
      exact ⟨hok.1, hok.2.1, hok.2.2.1, hgeneration⟩
  · exact hattached
  · rw [← validate_dnssec_summary_without_checkpoints, ← hsame,
      validate_dnssec_summary_without_checkpoints]
    exact h.summary

/-- An attached graph fits its parent as before. -/
theorem AttachmentOk.restated
    {validate_child validate_child' : QueryEvidenceGraphV2 → Except EvidenceValidationError Unit}
    {child child' : QueryEvidenceGraphV2} (h : AttachmentOk validate_child graph child)
    (hgraph : graph.without_checkpoints = graph'.without_checkpoints)
    (hchild : child.without_checkpoints = child'.without_checkpoints)
    (haccepted : validate_child' child' = .ok ()) : AttachmentOk validate_child' graph' child' := by
  have hexpected : expected_keys graph' = expected_keys graph := by
    rw [← expected_keys_without_checkpoints, ← hgraph, expected_keys_without_checkpoints]
  obtain ⟨parent, child_node, hparent, hrole, hnodes, hsame⟩ := h.node
  obtain ⟨provenance, attached, nodes, edges, signature, hfields, hprovenance, hattached,
    hchild_nodes, hedges⟩ := fields_of_same hchild
  obtain ⟨_, _, parent_nodes, _, _, hparent_fields, _, _, hparent_nodes, _⟩ :=
    fields_of_same hgraph
  obtain ⟨parent', hparent', hparent_same⟩ := find_node_transfer hparent_nodes.symm hparent
  have hcached : provenance.isSome = child.cache_provenance.isSome := by
    have hisSome := congrArg Option.isSome hprovenance
    rw [Option.isSome_map, Option.isSome_map] at hisSome
    exact hisSome.symm
  -- a leaf without attached graphs stays one
  rw [h.leaf.1, List.map_nil] at hedges
  rw [h.leaf.2, List.map_nil] at hattached
  rw [hnodes, List.map_singleton] at hchild_nodes
  obtain ⟨child_node', hnodes', hnode_same⟩ := List.map_eq_singleton_iff.mp hchild_nodes.symm
  constructor
  · rw [hfields]
    exact hcached.trans h.cached
  · rw [hfields]
    exact ⟨List.map_eq_nil_iff.mp hedges.symm, List.map_eq_nil_iff.mp hattached.symm⟩
  · rw [hfields, hparent_fields]
    exact h.bound
  · rw [hfields, hparent_fields]
    exact h.terminal
  · refine ⟨parent', child_node', ?_, ?_, ?_, ?_⟩
    · rw [hfields, hparent_fields]
      exact hparent'
    · have hidentity : parent'.identity = parent.identity :=
        (congrArg EvidenceNodeV2.identity hparent_same :)
      rw [hidentity]
      exact hrole
    · rw [hfields]
      exact hnodes'
    · -- the comparison with the parent does not read a checkpoint
      have hboth : same_child_node child_node' parent' = same_child_node child_node parent := by
        show same_child_node child_node'.without_checkpoint parent'.without_checkpoint = _
        rw [hnode_same, hparent_same]
        rfl
      exact hboth.trans hsame
  · rw [hexpected, hfields]
    exact h.expected
  · exact haccepted

/-- The attached graphs pass when each of them is accepted again. -/
theorem attached_of_standing (h : Accepted P policy issuer_keys graph expected_challenge now)
    (hsame : graph.without_checkpoints = graph'.without_checkpoints)
    (hchildren : ∀ child ∈ graph.terminal_cache_graphs, ∀ child' ∈ graph'.terminal_cache_graphs,
      child.without_checkpoints = child'.without_checkpoints →
        validate_graph P policy issuer_keys child graph.challenge now = .ok () →
          validate_graph P policy issuer_keys child' graph'.challenge now = .ok ()) :
    validate_terminal_cache_graphs policy
      (fun child => validate_graph P policy issuer_keys child graph'.challenge now) graph' =
        .ok () := by
  -- keys, counts and roles do not see a reference
  have hexpected : expected_keys graph' = expected_keys graph := by
    rw [← expected_keys_without_checkpoints, ← hsame, expected_keys_without_checkpoints]
  obtain ⟨provenance, attached, _, _, _, hfields, hprovenance, hattached, _⟩ := fields_of_same hsame
  have hcache : graph'.cache_provenance.isSome = graph.cache_provenance.isSome := by
    have hisSome := congrArg Option.isSome hprovenance
    rw [Option.isSome_map, Option.isSome_map] at hisSome
    rw [hfields]
    exact hisSome.symm
  have hlists : graph.terminal_cache_graphs.map QueryEvidenceGraphV2.without_checkpoints =
      graph'.terminal_cache_graphs.map QueryEvidenceGraphV2.without_checkpoints := by
    rw [hfields]
    exact hattached
  have hlength : graph'.terminal_cache_graphs.length = graph.terminal_cache_graphs.length := by
    have hlengths := congrArg List.length hlists
    rw [List.length_map, List.length_map] at hlengths
    exact hlengths.symm
  have hkeys : graph'.terminal_cache_graphs.map terminal_key =
      graph.terminal_cache_graphs.map terminal_key := by
    have hkey : ∀ child : QueryEvidenceGraphV2,
        terminal_key child.without_checkpoints = terminal_key child := by
      intro child
      rw [without_checkpoints_eq]
      rfl
    have hmap := congrArg (List.map terminal_key) hlists
    simp only [List.map_map, Function.comp_def, hkey] at hmap
    exact hmap.symm
  have hok := h.attached
  unfold validate_terminal_cache_graphs at hok ⊢
  rw [hcache]
  by_cases hcached : graph.cache_provenance.isSome = true
  · rw [if_pos hcached, rejectIf_eq_ok, Bool.not_eq_false', List.isEmpty_iff] at hok
    rw [if_pos hcached, rejectIf_eq_ok, Bool.not_eq_false', List.isEmpty_iff]
    exact List.length_eq_zero_iff.mp (by rw [hlength, hok, List.length_nil])
  · rw [if_neg hcached] at hok ⊢
    simp only [bind_eq_ok, exists_unit, validate_attached_iff] at hok ⊢
    obtain ⟨hcount, supplied, ⟨hall, hnodup, hsupplied⟩, hcovered⟩ := hok
    rw [hlength, hkeys, hexpected]
    refine ⟨hcount, supplied, ⟨?_, hnodup, hsupplied⟩, hcovered⟩
    intro child' hchild'
    obtain ⟨child, hchild, heq⟩ := mem_transfer hlists hchild'
    have hone := hall child hchild
    exact hone.restated hsame heq (hchildren child hchild child' hchild' heq hone.accepted)

/-- Whatever the clock says: where the original is accepted, the reissued graph is. -/
theorem validate_of_reissued
    (h : validate_graph P policy issuer_keys graph expected_challenge now = .ok ())
    (hreissued : Reissued P graph graph') :
    validate_graph P policy issuer_keys graph' expected_challenge now = .ok () := by
  obtain ⟨hsame, hstanding, hattached⟩ := hreissued
  have haccepted := accepted_of_validate h
  refine validate_of_accepted (accepted_of_standing haccepted hsame hstanding
    (attached_of_standing haccepted hsame ?_))
  intro child hchild child' hchild' heq hvalid
  have hchallenge : graph'.challenge = graph.challenge := by
    obtain ⟨_, _, _, _, _, hfields, _⟩ := fields_of_same hsame
    rw [hfields]
  -- an attached graph has none attached itself
  have hleaf : child.terminal_cache_graphs = [] := (attached_checked_of_validate h hchild).attached
  have hone := accepted_of_validate hvalid
  rw [hchallenge]
  refine validate_of_accepted (accepted_of_standing hone heq (hattached child' hchild')
    (attached_of_standing hone heq ?_))
  intro inner hinner
  rw [hleaf] at hinner
  cases hinner

end Graphs

end ResolverIdentity.Verifier
