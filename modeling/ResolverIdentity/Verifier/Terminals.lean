/-
  ResolverIdentity.Verifier.Terminals: the evidence behind recursive terminals.

  A recursive server without outgoing edges answered from its cache.  An accepted
  graph that is no cache hit itself has one attached cache graph for each answer
  of such a server that its edges tell apart, and no other attached graph.

  Main results:
    * `expected_key_iff`: the keys the validator expects, in terms of nodes and edges;
    * `terminals_backed`: attached graphs and recursive answers match one to one.
-/
import Mathlib.Logic.Equiv.Defs
import ResolverIdentity.Verifier.Acceptance
import ResolverIdentity.Verifier.Shape

namespace ResolverIdentity.Verifier

open Library Agent

/-! ## §1. Recursive ends. -/

/-- A recursive server of the graph that no edge leaves. -/
def RecursiveEnd (graph : QueryEvidenceGraphV2) (node : EvidenceNodeV2) : Prop :=
  node ∈ graph.nodes ∧ node.identity.role.is_recursive = true ∧
    ∀ target, ¬ Hop graph.edges node.identity.server_id target

/-- The answer an edge tells of: who gave it, to which query, and which it was. -/
def edge_key (edge : ServerHopEvidenceV2) : TerminalKey :=
  ⟨edge.to_server_id, edge.target_correlation_id, edge.query_digest, edge.response_digest⟩

/-- Some edge into a recursive end has this key. -/
def EndKey (graph : QueryEvidenceGraphV2) (key : TerminalKey) : Prop :=
  ∃ edge ∈ graph.edges, ∃ node, RecursiveEnd graph node ∧
    node.identity.server_id = edge.to_server_id ∧ edge_key edge = key

/-- An attached graph is signed evidence of a recursive end. -/
structure EndEvidence (P : Platform) (policy : EvidencePolicy) (issuer_keys : IssuerKeyRegistry)
    (graph : QueryEvidenceGraphV2) (expected_challenge : String) (now : Int)
    (child : QueryEvidenceGraphV2) : Prop where
  cached : child.cache_provenance.isSome = true
  edges : child.edges = []
  attached : child.terminal_cache_graphs = []
  trace_id : child.trace_id = graph.trace_id
  challenge : child.challenge = graph.challenge
  accepted : validate_graph P policy issuer_keys child expected_challenge now = .ok ()
  node : ∃ target child_node, RecursiveEnd graph target ∧
    target.identity.server_id = child.entry_server_id ∧ child.nodes = [child_node] ∧
    find_node child.nodes child.entry_server_id = some child_node ∧
    child_node.identity = target.identity ∧
    child_node.registry.same_registry_state target.registry = true

section Ends

variable {P : Platform} {policy : EvidencePolicy} {issuer_keys : IssuerKeyRegistry}
variable {graph : QueryEvidenceGraphV2} {expected_challenge : String} {now : Int}

/-- A declared terminal that is recursive is a recursive end. -/
theorem recursive_end_iff (hnodup : (node_ids graph.nodes).Nodup)
    (hterminals : TerminalsExact graph) {server_id : String} :
    server_id ∈ graph.terminal_node_ids ∧ is_recursive_node graph.nodes server_id = true ↔
      ∃ node, RecursiveEnd graph node ∧ node.identity.server_id = server_id := by
  unfold is_recursive_node
  constructor
  · intro h
    obtain ⟨hterminal, hrole⟩ := h
    cases hfind : find_node graph.nodes server_id with
    | none =>
      rw [hfind] at hrole
      cases hrole
    | some node =>
      rw [hfind] at hrole
      obtain ⟨hmem, hid⟩ := find_node_eq_some hfind
      refine ⟨node, ⟨hmem, hrole, ?_⟩, hid⟩
      rw [hid]
      exact ((hterminals.exact server_id).mp hterminal).2
  · intro h
    obtain ⟨node, ⟨hmem, hrecursive, hends⟩, rfl⟩ := h
    refine ⟨(hterminals.exact _).mpr ⟨List.mem_map_of_mem hmem, hends⟩, ?_⟩
    rw [find_node_of_mem hnodup hmem]
    exact hrecursive

/-- The keys the validator expects are those of the edges into recursive ends. -/
theorem expected_key_iff (hnodup : (node_ids graph.nodes).Nodup)
    (hterminals : TerminalsExact graph) {key : TerminalKey} :
    key ∈ expected_keys graph ↔ EndKey graph key := by
  unfold expected_keys EndKey
  rw [List.mem_map]
  constructor
  · intro h
    obtain ⟨edge, hedge, hkey⟩ := h
    obtain ⟨hmem, hchecked⟩ := List.mem_filter.mp hedge
    obtain ⟨hterminal, hrole⟩ := Bool.and_eq_true_iff.mp hchecked
    obtain ⟨node, hend, hid⟩ := (recursive_end_iff hnodup hterminals).mp
      ⟨List.contains_iff_mem.mp hterminal, hrole⟩
    exact ⟨edge, hmem, node, hend, hid, hkey⟩
  · intro h
    obtain ⟨edge, hmem, node, hend, hid, hkey⟩ := h
    obtain ⟨hterminal, hrole⟩ := (recursive_end_iff hnodup hterminals).mpr ⟨node, hend, hid⟩
    refine ⟨edge, List.mem_filter.mpr ⟨hmem, ?_⟩, hkey⟩
    exact Bool.and_eq_true_iff.mpr ⟨List.contains_iff_mem.mpr hterminal, hrole⟩

/-! ## §2. Accepted graphs. -/

/-- The keys supplied by the attached graphs, each once, and the attached graphs by themselves. -/
theorem attachments_of_validate
    (h : validate_graph P policy issuer_keys graph expected_challenge now = .ok ())
    (hresolved : graph.cache_provenance = none) :
    (∀ child ∈ graph.terminal_cache_graphs, AttachmentOk
      (fun child => validate_graph P policy issuer_keys child graph.challenge now) graph child) ∧
      (graph.terminal_cache_graphs.map terminal_key).Nodup ∧
      ∀ key, key ∈ graph.terminal_cache_graphs.map terminal_key ↔ key ∈ expected_keys graph := by
  have hattached := (accepted_of_validate h).attached
  unfold validate_terminal_cache_graphs at hattached
  rw [hresolved] at hattached
  obtain ⟨_, _, hattached⟩ := bind_eq_ok.mp hattached
  obtain ⟨supplied, hloop, hsame⟩ := bind_eq_ok.mp hattached
  obtain ⟨hall, hnodup, rfl⟩ := validate_attached_iff.mp hloop
  rw [rejectIf_eq_ok, Bool.not_eq_false', Bool.and_eq_true, List.all_eq_true,
    List.all_eq_true] at hsame
  refine ⟨hall, hnodup, ?_⟩
  intro key
  constructor
  · intro hkey
    exact List.contains_iff_mem.mp (hsame.1 key (List.mem_reverse.mpr hkey))
  · intro hkey
    exact List.mem_reverse.mp (List.contains_iff_mem.mp (hsame.2 key hkey))

/-- An attached graph of an accepted graph is evidence of a recursive end. -/
theorem end_evidence_of_validate
    (h : validate_graph P policy issuer_keys graph expected_challenge now = .ok ())
    (hresolved : graph.cache_provenance = none) {child : QueryEvidenceGraphV2}
    (hchild : child ∈ graph.terminal_cache_graphs) :
    EndEvidence P policy issuer_keys graph expected_challenge now child := by
  have hok := (attachments_of_validate h hresolved).1 child hchild
  have hterminals := terminals_of_topology (accepted_of_validate h).topology
  have haccepted : validate_graph P policy issuer_keys child expected_challenge now = .ok () := by
    rw [← (header_checked_of_validate h).challenge]
    exact hok.accepted
  obtain ⟨parent_node, child_node, hparent, hrole, hnodes, hsame⟩ := hok.node
  obtain ⟨hmem, hid⟩ := find_node_eq_some hparent
  unfold same_child_node at hsame
  obtain ⟨hidentity, hregistry⟩ := Bool.and_eq_true_iff.mp hsame
  have hends : ∀ target, ¬ Hop graph.edges parent_node.identity.server_id target := by
    rw [hid]
    exact ((hterminals.exact _).mp hok.terminal).2
  have hentry : find_node child.nodes child.entry_server_id = some child_node := by
    have hsingle : child_node.identity.server_id = child.entry_server_id := by
      have hentry_mem := entry_of_validate haccepted
      rw [hnodes] at hentry_mem
      exact (List.mem_singleton.mp hentry_mem).symm
    rw [← hsingle, hnodes]
    exact find_node_of_mem (List.nodup_singleton _) List.mem_cons_self
  exact
    { cached := hok.cached
      edges := hok.leaf.1
      attached := hok.leaf.2
      trace_id := hok.bound.1
      challenge := hok.bound.2.1
      accepted := haccepted
      node := ⟨parent_node, child_node, ⟨hmem, hrole, hends⟩, hid, hnodes, hentry,
        of_decide_eq_true hidentity, hregistry⟩ }

/-- A recursive end of an accepted graph is the target of an edge. -/
theorem edge_into_end
    (h : validate_graph P policy issuer_keys graph expected_challenge now = .ok ())
    (hresolved : graph.cache_provenance = none) {node : EvidenceNodeV2}
    (hend : RecursiveEnd graph node) :
    ∃ edge ∈ graph.edges, edge.to_server_id = node.identity.server_id := by
  obtain ⟨hmem, _, hends⟩ := hend
  rcases Relation.ReflTransGen.cases_tail
    (reachable_of_validate h (List.mem_map_of_mem hmem)) with heq | hlast
  · -- an end that is the entry server leaves the graph without edges
    have hprovenance := (accepted_of_validate h).provenance
    unfold validate_cache_provenance at hprovenance
    rw [hresolved] at hprovenance
    have hedges : graph.edges.isEmpty = false := rejectIf_eq_ok.mp hprovenance
    obtain ⟨edge, rest, hcons⟩ := List.exists_cons_of_ne_nil (show graph.edges ≠ [] by
      intro hnil
      rw [hnil] at hedges
      cases hedges)
    have hedge : edge ∈ graph.edges := by
      rw [hcons]
      exact List.mem_cons_self
    have hsource := reachable_of_validate h (ends_of_validate h hedge).1
    rcases Relation.ReflTransGen.cases_head hsource with hentry | hfirst
    · exact absurd ⟨edge, hedge, hentry.symm.trans heq.symm, rfl⟩ (hends edge.to_server_id)
    · obtain ⟨next, hhop, _⟩ := hfirst
      rw [← heq] at hhop
      exact absurd hhop (hends next)
  · obtain ⟨_, _, edge, hedge, _, hto⟩ := hlast
    exact ⟨edge, hedge, hto⟩

/-- In an accepted graph that is no cache hit, the attached cache graphs match the keys of the
edges into recursive ends one to one; each is accepted evidence of such an end, and no
recursive end is without. -/
theorem terminals_backed
    (h : validate_graph P policy issuer_keys graph expected_challenge now = .ok ())
    (hresolved : graph.cache_provenance = none) :
    (∃ key_of : Fin graph.terminal_cache_graphs.length ≃ {key // EndKey graph key},
      ∀ i, (key_of i).1 = terminal_key graph.terminal_cache_graphs[i]) ∧
      (∀ child ∈ graph.terminal_cache_graphs,
        EndEvidence P policy issuer_keys graph expected_challenge now child) ∧
      ∀ node, RecursiveEnd graph node → ∃ child ∈ graph.terminal_cache_graphs,
        child.entry_server_id = node.identity.server_id := by
  have hterminals := terminals_of_topology (accepted_of_validate h).topology
  obtain ⟨_, hnodup, hkeys⟩ := attachments_of_validate h hresolved
  have hend_keys : ∀ key, key ∈ graph.terminal_cache_graphs.map terminal_key ↔ EndKey graph key :=
    fun key => (hkeys key).trans (expected_key_iff (nodup_of_validate h) hterminals)
  refine ⟨?_, fun child hchild => end_evidence_of_validate h hresolved hchild, ?_⟩
  · have hkey : ∀ i : Fin graph.terminal_cache_graphs.length,
        EndKey graph (terminal_key graph.terminal_cache_graphs[i]) :=
      fun i => (hend_keys _).mp (List.mem_map_of_mem (List.getElem_mem i.2))
    refine ⟨Equiv.ofBijective (fun i => ⟨terminal_key graph.terminal_cache_graphs[i], hkey i⟩)
      ⟨?_, ?_⟩, fun _ => rfl⟩
    · intro i j heq
      have hvalues := Subtype.mk.inj heq
      have hi : i.1 < (graph.terminal_cache_graphs.map terminal_key).length := by
        rw [List.length_map]
        exact i.2
      have hj : j.1 < (graph.terminal_cache_graphs.map terminal_key).length := by
        rw [List.length_map]
        exact j.2
      have hsame : (graph.terminal_cache_graphs.map terminal_key)[i.1] =
          (graph.terminal_cache_graphs.map terminal_key)[j.1] := by
        rw [List.getElem_map, List.getElem_map]
        exact hvalues
      exact Fin.ext (hnodup.getElem_inj_iff.mp hsame)
    · rintro ⟨key, hend⟩
      obtain ⟨child, hchild, hkey⟩ := List.mem_map.mp ((hend_keys key).mpr hend)
      obtain ⟨i, hi, hget⟩ := List.getElem_of_mem hchild
      refine ⟨⟨i, hi⟩, Subtype.ext ?_⟩
      show terminal_key graph.terminal_cache_graphs[i] = key
      rw [hget, hkey]
  · intro node hend
    obtain ⟨edge, hedge, hto⟩ := edge_into_end h hresolved hend
    obtain ⟨child, hchild, hkey⟩ := List.mem_map.mp
      ((hend_keys (edge_key edge)).mpr ⟨edge, hedge, node, hend, hto.symm, rfl⟩)
    exact ⟨child, hchild, (congrArg TerminalKey.server_id hkey).trans hto⟩

theorem terminals_backed_relay :
    (∃ key_of : Fin relay_graph.terminal_cache_graphs.length ≃ {key // EndKey relay_graph key},
      ∀ i, (key_of i).1 = terminal_key relay_graph.terminal_cache_graphs[i]) ∧
      (∀ child ∈ relay_graph.terminal_cache_graphs,
        EndEvidence relay_recording.platform .public_hybrid lab_issuer_keys relay_graph
          challenge_0 1750000001 child) ∧
      ∀ node, RecursiveEnd relay_graph node → ∃ child ∈ relay_graph.terminal_cache_graphs,
        child.entry_server_id = node.identity.server_id :=
  terminals_backed relay_graph_accepted rfl

end Ends

end ResolverIdentity.Verifier
