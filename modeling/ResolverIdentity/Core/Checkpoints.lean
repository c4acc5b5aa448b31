/-
  ResolverIdentity.Core.Checkpoints: evidence up to the checkpoints of its references.

  Every Agent follows the Registry by itself, so two of them name the state of one
  server at different finalized heights.  `without_checkpoint` takes out of a piece
  of evidence what differs then (height and hash of the checkpoint, the snapshot
  generation) and the signatures over it; two pieces are the same up to Registry
  references when nothing else differs.

  Main results:
    * `without_checkpoint_eq_iff`: such references name one state;
    * `without_checkpoints_eq`: what is left of a graph;
    * `graph_requires_dnssec_without_checkpoints`, `terminal_nodes_congr` and the
      lemmas beside them: what does not look at a checkpoint.
-/
import ResolverIdentity.Core.Topology

namespace ResolverIdentity

open Library

/-! ## §1. What is left. -/

/-- The Registry state a reference names, whenever it was read. -/
def RegistryReferenceV2.without_checkpoint (reference : RegistryReferenceV2) :
    RegistryReferenceV2 :=
  { reference with checkpoint_height := 0, checkpoint_hash := "", snapshot_generation := 0 }

/-- A node up to its reference. -/
def EvidenceNodeV2.without_checkpoint (node : EvidenceNodeV2) : EvidenceNodeV2 :=
  { node with registry := node.registry.without_checkpoint }

/-- An edge up to its reference and signature. -/
def ServerHopEvidenceV2.without_checkpoint (edge : ServerHopEvidenceV2) : ServerHopEvidenceV2 :=
  { edge with registry := edge.registry.without_checkpoint, signature := none }

/-- A provenance up to its generation. -/
def CacheProvenanceV2.without_checkpoint (provenance : CacheProvenanceV2) : CacheProvenanceV2 :=
  { provenance with snapshot_generation := 0 }

mutual

/-- A graph up to references and signatures. -/
def QueryEvidenceGraphV2.without_checkpoints : QueryEvidenceGraphV2 → QueryEvidenceGraphV2
  | ⟨schema_version, trace_id, correlation_id, challenge, query_digest, response_digest, mode,
      entry_server_id, issued_at, expires_at, dnssec_status, cache_provenance,
      terminal_cache_graphs, nodes, edges, terminal_node_ids, final_result, graph_errors, key_id,
      _⟩ =>
    ⟨schema_version, trace_id, correlation_id, challenge, query_digest, response_digest, mode,
      entry_server_id, issued_at, expires_at, dnssec_status,
      cache_provenance.map CacheProvenanceV2.without_checkpoint,
      all_without_checkpoints terminal_cache_graphs, nodes.map EvidenceNodeV2.without_checkpoint,
      edges.map ServerHopEvidenceV2.without_checkpoint, terminal_node_ids, final_result,
      graph_errors, key_id, none⟩

/-- The attached cache graphs, in order. -/
def all_without_checkpoints : List QueryEvidenceGraphV2 → List QueryEvidenceGraphV2
  | [] => []
  | graph :: rest => graph.without_checkpoints :: all_without_checkpoints rest

end

theorem all_without_checkpoints_eq (graphs : List QueryEvidenceGraphV2) :
    all_without_checkpoints graphs = graphs.map QueryEvidenceGraphV2.without_checkpoints := by
  induction graphs with
  | nil => rfl
  | cons graph rest ih => rw [all_without_checkpoints, List.map_cons, ih]

theorem without_checkpoints_eq (graph : QueryEvidenceGraphV2) :
    graph.without_checkpoints =
      { graph with
        cache_provenance := graph.cache_provenance.map CacheProvenanceV2.without_checkpoint
        terminal_cache_graphs :=
          graph.terminal_cache_graphs.map QueryEvidenceGraphV2.without_checkpoints
        nodes := graph.nodes.map EvidenceNodeV2.without_checkpoint
        edges := graph.edges.map ServerHopEvidenceV2.without_checkpoint
        signature := none } := by
  cases graph
  rw [QueryEvidenceGraphV2.without_checkpoints, all_without_checkpoints_eq]

/-! ## §2. References. -/

section References

variable {left right : RegistryReferenceV2}

/-- The comparison of the source leaves out what is taken out here. -/
theorem same_registry_state_congr {left' right' : RegistryReferenceV2}
    (hleft : left.without_checkpoint = left'.without_checkpoint)
    (hright : right.without_checkpoint = right'.without_checkpoint) :
    left.same_registry_state right = left'.same_registry_state right' := by
  show left.without_checkpoint.same_registry_state right.without_checkpoint = _
  rw [hleft, hright]
  rfl

/-- What is left of two references is equal when the source finds them of one state, and
they are final in the same sense, which it does not compare. -/
theorem without_checkpoint_eq_iff : left.without_checkpoint = right.without_checkpoint ↔
    left.same_registry_state right = true ∧ left.finality_type = right.finality_type := by
  unfold RegistryReferenceV2.without_checkpoint RegistryReferenceV2.same_registry_state
  simp only [RegistryReferenceV2.mk.injEq, Bool.and_eq_true, decide_eq_true_eq]
  tauto

end References

/-! ## §3. Nodes and edges. -/

section Lists

variable {nodes nodes' : List EvidenceNodeV2} {edges edges' : List ServerHopEvidenceV2}

/-- Two such nodes differ in their references. -/
theorem EvidenceNodeV2.eq_of_without_checkpoint {node node' : EvidenceNodeV2}
    (h : node.without_checkpoint = node'.without_checkpoint) :
    ∃ registry, node' = { node with registry := registry } ∧
      node.registry.without_checkpoint = registry.without_checkpoint := by
  cases node
  cases node'
  simp only [EvidenceNodeV2.without_checkpoint, EvidenceNodeV2.mk.injEq] at h
  obtain ⟨rfl, hregistry, rfl, rfl, rfl⟩ := h
  exact ⟨_, rfl, hregistry⟩

/-- Two such edges differ in their references and signatures. -/
theorem ServerHopEvidenceV2.eq_of_without_checkpoint {edge edge' : ServerHopEvidenceV2}
    (h : edge.without_checkpoint = edge'.without_checkpoint) :
    ∃ registry signature, edge' = { edge with registry := registry, signature := signature } ∧
      edge.registry.without_checkpoint = registry.without_checkpoint := by
  cases edge
  cases edge'
  simp only [ServerHopEvidenceV2.without_checkpoint, ServerHopEvidenceV2.mk.injEq] at h
  obtain ⟨rfl, rfl, rfl, rfl, rfl, rfl, rfl, rfl, rfl, rfl, rfl, rfl, rfl, rfl, rfl, rfl, hregistry,
    rfl, rfl, -⟩ := h
  exact ⟨_, _, rfl, hregistry⟩

theorem node_ids_congr
    (h : nodes.map EvidenceNodeV2.without_checkpoint =
      nodes'.map EvidenceNodeV2.without_checkpoint) : node_ids nodes = node_ids nodes' := by
  have hids := congrArg node_ids h
  rw [node_ids, node_ids, List.map_map, List.map_map] at hids
  exact hids

theorem find_node_without_checkpoint (server_id : String) :
    find_node (nodes.map EvidenceNodeV2.without_checkpoint) server_id =
      (find_node nodes server_id).map EvidenceNodeV2.without_checkpoint := by
  rw [find_node, List.find?_map]
  rfl

theorem adjacent_without_checkpoint (server_id : String) :
    adjacent (edges.map ServerHopEvidenceV2.without_checkpoint) server_id =
      adjacent edges server_id := by
  rw [adjacent, List.filter_map, List.map_map]
  rfl

/-- What is found in the second list, seen in the first. -/
theorem find_node_transfer
    (h : nodes.map EvidenceNodeV2.without_checkpoint =
      nodes'.map EvidenceNodeV2.without_checkpoint) {server_id : String} {node' : EvidenceNodeV2}
    (hfind : find_node nodes' server_id = some node') :
    ∃ node, find_node nodes server_id = some node ∧
      node.without_checkpoint = node'.without_checkpoint := by
  have hsame := congrArg (fun nodes => find_node nodes server_id) h
  simp only [find_node_without_checkpoint, hfind] at hsame
  exact Option.map_eq_some_iff.mp hsame

theorem mem_transfer {α β : Type} {f : α → β} {items items' : List α}
    (h : items.map f = items'.map f) {item' : α} (hmem : item' ∈ items') :
    ∃ item ∈ items, f item = f item' := by
  have hmap : f item' ∈ items.map f := h ▸ List.mem_map_of_mem hmem
  exact List.mem_map.mp hmap

end Lists

/-! ## §4. DNSSEC. -/

mutual

theorem graph_requires_dnssec_without_checkpoints : ∀ graph : QueryEvidenceGraphV2,
    graph_requires_dnssec graph.without_checkpoints = graph_requires_dnssec graph
  | ⟨_, _, _, _, _, _, _, _, _, _, _, cache_provenance, terminal_cache_graphs, nodes, _, _, _, _,
      _, _⟩ => by
    rw [QueryEvidenceGraphV2.without_checkpoints, graph_requires_dnssec, graph_requires_dnssec,
      any_requires_dnssec_without_checkpoints terminal_cache_graphs, List.any_map, Option.any_map]
    rfl

theorem any_requires_dnssec_without_checkpoints : ∀ graphs : List QueryEvidenceGraphV2,
    any_requires_dnssec (all_without_checkpoints graphs) = any_requires_dnssec graphs
  | [] => rfl
  | graph :: rest => by
    rw [all_without_checkpoints, any_requires_dnssec, any_requires_dnssec,
      graph_requires_dnssec_without_checkpoints graph,
      any_requires_dnssec_without_checkpoints rest]

end

/-! ## §5. Checks that look at no checkpoint. -/

section Checks

variable {policy : EvidencePolicy} {nodes : List EvidenceNodeV2}
variable {edges : List ServerHopEvidenceV2} {children : List QueryEvidenceGraphV2}

theorem direct_secure_without_checkpoint :
    direct_secure (edges.map ServerHopEvidenceV2.without_checkpoint)
      (nodes.map EvidenceNodeV2.without_checkpoint) = direct_secure edges nodes := by
  rw [direct_secure, List.all_map]
  simp only [Function.comp_def, find_node_without_checkpoint, Option.all_map]
  rfl

theorem cached_secure_without_checkpoints :
    cached_secure (children.map QueryEvidenceGraphV2.without_checkpoints) =
      cached_secure children := by
  have hstatus : ∀ child : QueryEvidenceGraphV2,
      child.without_checkpoints.dnssec_status = child.dnssec_status := by
    intro child
    rw [without_checkpoints_eq]
  rw [cached_secure, List.filter_map, List.all_map]
  simp only [Function.comp_def, graph_requires_dnssec_without_checkpoints, hstatus]
  rfl

theorem path_status_without_checkpoints :
    path_status (edges.map ServerHopEvidenceV2.without_checkpoint)
        (nodes.map EvidenceNodeV2.without_checkpoint)
        (children.map QueryEvidenceGraphV2.without_checkpoints) =
      path_status edges nodes children := by
  rw [path_status, direct_secure_without_checkpoint, cached_secure_without_checkpoints]
  rfl

theorem any_requires_without_checkpoints :
    (children.map QueryEvidenceGraphV2.without_checkpoints).any graph_requires_dnssec =
      children.any graph_requires_dnssec := by
  rw [List.any_map]
  simp only [Function.comp_def, graph_requires_dnssec_without_checkpoints]

variable {graph : QueryEvidenceGraphV2} {expected_challenge : String} {now : Int}

theorem validate_header_without_checkpoints :
    validate_header policy graph.without_checkpoints expected_challenge now =
      validate_header policy graph expected_challenge now := by
  rw [without_checkpoints_eq]
  unfold validate_header validate_request
  simp only [List.length_map, List.isEmpty_map]

theorem validate_dnssec_summary_without_checkpoints :
    validate_dnssec_summary policy graph.without_checkpoints =
      validate_dnssec_summary policy graph := by
  have hnodes : (graph.nodes.map EvidenceNodeV2.without_checkpoint).any
      (fun node => node.identity.role.is_authority) =
        graph.nodes.any (fun node => node.identity.role.is_authority) := by
    rw [List.any_map]
    rfl
  rw [without_checkpoints_eq]
  unfold validate_dnssec_summary
  simp only [any_requires_without_checkpoints, path_status_without_checkpoints, hnodes,
    Option.any_map]
  rfl

theorem measure_depth_without_checkpoint {max_depth fuel : Nat} :
    ∀ {depth queue : List (String × Nat)},
      measure_depth max_depth (edges.map ServerHopEvidenceV2.without_checkpoint) fuel depth queue =
        measure_depth max_depth edges fuel depth queue := by
  induction fuel with
  | zero =>
    intro depth queue
    cases queue <;> rfl
  | succ fuel ih =>
    intro depth queue
    cases queue with
    | nil => rfl
    | cons item rest =>
      unfold measure_depth
      simp only [ih, adjacent_without_checkpoint]

theorem detect_cycle_without_checkpoint {fuel : Nat} :
    ∀ {node : String} {visiting visited : List String},
      detect_cycle (edges.map ServerHopEvidenceV2.without_checkpoint) fuel node visiting visited =
        detect_cycle edges fuel node visiting visited := by
  induction fuel with
  | zero => intros; rfl
  | succ fuel ih =>
    intro node visiting visited
    unfold detect_cycle
    simp only [ih, adjacent_without_checkpoint]

theorem validate_topology_without_checkpoints :
    validate_topology policy graph.without_checkpoints = validate_topology policy graph := by
  have hterminal : invalid_terminal graph.without_checkpoints = invalid_terminal graph := by
    funext terminal
    rw [without_checkpoints_eq]
    simp only [invalid_terminal, find_node_without_checkpoint, adjacent_without_checkpoint,
      Option.isNone_map]
  have hleaf : ∀ node : EvidenceNodeV2,
      undeclared_leaf graph.without_checkpoints node.without_checkpoint =
        undeclared_leaf graph node := by
    intro node
    rw [without_checkpoints_eq]
    simp only [undeclared_leaf, adjacent_without_checkpoint]
    rfl
  have hleaves : graph.without_checkpoints.nodes.any
      (undeclared_leaf graph.without_checkpoints) = graph.nodes.any (undeclared_leaf graph) := by
    rw [without_checkpoints_eq, List.any_map]
    rw [without_checkpoints_eq] at hleaf
    simp only [Function.comp_def, hleaf]
  unfold validate_topology
  rw [hterminal, hleaves, without_checkpoints_eq]
  simp only [measure_depth_without_checkpoint, detect_cycle_without_checkpoint, List.length_map]

/-- The edges that need an attached graph are the same. -/
theorem expected_keys_without_checkpoints :
    expected_keys graph.without_checkpoints = expected_keys graph := by
  rw [without_checkpoints_eq, expected_keys, List.filter_map, List.map_map]
  simp only [is_recursive_node, find_node_without_checkpoint, Option.any_map, Function.comp_def]
  rfl

end Checks

end ResolverIdentity
