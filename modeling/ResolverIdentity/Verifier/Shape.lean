/-
  ResolverIdentity.Verifier.Shape: exactly the topologies that pass.

  Where no path repeats a server, a path of the breadth-first search is a simple
  path, and the depth-first search meets no server twice on one path.  So a graph
  without cycles, its simple paths within the bound, passes both searches, and
  what is left to check are the nodes reached and the terminals declared.

  Main results:
    * `measure_depth_total`, `detect_cycle_total`: the searches of a graph without
      cycles succeed;
    * `topology_exact`: `validate_topology` in terms of the graph alone.
-/
import Mathlib.Data.List.Chain
import ResolverIdentity.Verifier.Depth

namespace ResolverIdentity.Verifier

open Library Agent

variable {edges : List ServerHopEvidenceV2} {start : String} {max_depth : Nat}

/-! ## §1. Simple paths. -/

/-- No walk of one edge or more comes back to where it began. -/
def NoCycle (edges : List ServerHopEvidenceV2) : Prop :=
  ∀ server_id, ¬ Relation.TransGen (Hop edges) server_id server_id

/-- A path from the start through the servers in order, none of them twice. -/
structure SimplePath (edges : List ServerHopEvidenceV2) (start : String) (servers : List String) :
    Prop where
  hops : (start :: servers).IsChain (Hop edges)
  distinct : (start :: servers).Nodup

/-- Without cycles no path repeats a server. -/
theorem NoCycle.nodup (h : NoCycle edges) {servers : List String}
    (hchain : servers.IsChain (Hop edges)) : servers.Nodup := by
  have hwalks : servers.IsChain (Relation.TransGen (Hop edges)) :=
    hchain.imp fun _ _ hhop => Relation.TransGen.single hhop
  refine hwalks.pairwise.imp ?_
  intro a b hwalk heq
  rw [heq] at hwalk
  exact h b hwalk

/-- Where a settled server leads, no infinite walk starts either. -/
theorem settled_of_walk {a b : String} (h : Settled edges a) (hwalk : Walk edges a b) :
    Settled edges b := by
  induction hwalk with
  | refl => exact h
  | tail _ hhop ih => exact ih.inv hhop

/-- The servers of a path, in order. -/
theorem Path.servers {n : Nat} {b : String} (h : Path edges start n b) :
    ∃ servers, servers.length = n ∧ (start :: servers).IsChain (Hop edges) ∧
      (start :: servers).getLast (List.cons_ne_nil _ _) = b := by
  induction h with
  | here => exact ⟨[], rfl, List.IsChain.singleton _, rfl⟩
  | @hop n b c _ hhop ih =>
    obtain ⟨servers, hlength, hchain, hlast⟩ := ih
    refine ⟨servers ++ [c], by rw [List.length_append, hlength]; rfl, ?_, ?_⟩
    · show ((start :: servers) ++ [c]).IsChain (Hop edges)
      refine List.isChain_append.mpr ⟨hchain, List.IsChain.singleton _, ?_⟩
      intro x hx y hy
      rw [List.getLast?_eq_some_getLast (List.cons_ne_nil _ _), hlast] at hx
      obtain rfl := Option.some.inj hx
      obtain rfl := Option.some.inj hy
      exact hhop
    · show ((start :: servers) ++ [c]).getLast _ = c
      exact List.getLast_append_singleton _

theorem path_of_walk {b : String} (h : Walk edges start b) : ∃ n, Path edges start n b := by
  induction h with
  | refl => exact ⟨0, .here⟩
  | tail _ hhop ih =>
    obtain ⟨n, hpath⟩ := ih
    exact ⟨n + 1, hpath.hop hhop⟩

/-- Without cycles a bound on the simple paths is one on all paths. -/
theorem NoCycle.path_le (h : NoCycle edges)
    (hbound : ∀ servers, SimplePath edges start servers → servers.length ≤ max_depth) {n : Nat}
    {b : String} (hpath : Path edges start n b) : n ≤ max_depth := by
  obtain ⟨servers, hlength, hchain, _⟩ := hpath.servers
  rw [← hlength]
  exact hbound servers ⟨hchain, h.nodup hchain⟩

/-! ## §2. The searches. -/

/-- The breadth-first search of a graph whose paths keep within the bound. -/
theorem measure_depth_total (hbound : ∀ n b, Path edges start n b → n ≤ max_depth) {fuel : Nat} :
    ∀ {depth queue : List (String × Nat)}, (∀ item ∈ queue, Path edges start item.2 item.1) →
      ∃ depth', measure_depth max_depth edges fuel depth queue = .ok depth' := by
  induction fuel with
  | zero =>
    intro depth queue _
    cases queue with
    | nil => exact ⟨depth, rfl⟩
    | cons item rest => exact ⟨depth, rfl⟩
  | succ fuel ih =>
    intro depth queue hqueue
    cases queue with
    | nil => exact ⟨depth, rfl⟩
    | cons item rest =>
      obtain ⟨server_id, current_depth⟩ := item
      have hpath : Path edges start current_depth server_id := hqueue _ List.mem_cons_self
      have hrest : ∀ item ∈ rest, Path edges start item.2 item.1 :=
        fun item hitem => hqueue item (List.mem_cons_of_mem _ hitem)
      have hshallow : rejectIf (decide (max_depth < current_depth))
          (EvidenceValidationError.invalidGraph "graph exceeds maximum depth") = .ok () :=
        rejectIf_eq_ok.mpr (decide_eq_false (Nat.not_lt.mpr (hbound _ _ hpath)))
      unfold measure_depth
      rw [hshallow]
      by_cases hseen : (depth.lookup server_id).any (fun seen => seen ≤ current_depth) = true
      · simp only [hseen]
        exact ih hrest
      · simp only [hseen]
        refine ih ?_
        intro item hitem
        rcases List.mem_append.mp hitem with hold | hnext
        · exact hrest item hold
        · obtain ⟨hhop, hdepth⟩ := mem_next_items.mp hnext
          rw [hdepth]
          exact hpath.hop hhop

/-- The path the depth-first search is on: distinct servers, each leading to the next node. -/
structure Visiting (edges : List ServerHopEvidenceV2) (node : String) (visiting : List String) :
    Prop where
  distinct : visiting.Nodup
  leads : ∀ server_id ∈ visiting, Relation.TransGen (Hop edges) server_id node

/-- Each server on the path is the source of an edge. -/
theorem Visiting.length_le {node : String} {visiting : List String}
    (h : Visiting edges node visiting) : visiting.length ≤ edges.length := by
  have hsources : visiting ⊆ edges.map (fun edge => edge.from_server_id) := by
    intro server_id hmem
    obtain ⟨_, ⟨edge, hedge, hfrom, _⟩, _⟩ := Relation.TransGen.head'_iff.mp (h.leads _ hmem)
    exact List.mem_map.mpr ⟨edge, hedge, hfrom⟩
  have hle := (List.subperm_of_subset h.distinct hsources).length_le
  rwa [List.length_map] at hle

/-- One hop further. -/
theorem Visiting.hop {node target : String} {visiting : List String}
    (h : Visiting edges node visiting) (hacyclic : NoCycle edges) (hhop : Hop edges node target) :
    Visiting edges target (node :: visiting) where
  distinct := by
    refine List.nodup_cons.mpr ⟨?_, h.distinct⟩
    intro hmem
    exact hacyclic node (h.leads node hmem)
  leads := by
    intro server_id hmem
    rcases List.mem_cons.mp hmem with heq | hmem
    · rw [heq]
      exact Relation.TransGen.single hhop
    · exact (h.leads server_id hmem).tail hhop

/-- A loop whose every call succeeds, succeeds. -/
theorem fold_total {α β ε : Type} {f : β → α → Except ε β} {items : List α}
    (hf : ∀ item ∈ items, ∀ b, ∃ b', f b item = .ok b') (b : β) :
    ∃ b', items.foldlM f b = .ok b' := by
  induction items generalizing b with
  | nil => exact ⟨b, rfl⟩
  | cons item rest ih =>
    obtain ⟨between, hone⟩ := hf item List.mem_cons_self b
    obtain ⟨b', hrest⟩ := ih (fun other hother => hf other (List.mem_cons_of_mem _ hother)) between
    refine ⟨b', ?_⟩
    rw [List.foldlM_cons, hone]
    exact hrest

/-- The depth-first search of a graph without cycles; the fuel outlasts every path. -/
theorem detect_cycle_total (hacyclic : NoCycle edges) {fuel : Nat} :
    ∀ {node : String} {visiting : List String}, Visiting edges node visiting →
      edges.length + 1 ≤ fuel + visiting.length → ∀ visited,
        ∃ visited', detect_cycle edges fuel node visiting visited = .ok visited' := by
  induction fuel with
  | zero =>
    intro node visiting hvisiting hfuel _
    have hle := hvisiting.length_le
    omega
  | succ fuel ih =>
    intro node visiting hvisiting hfuel visited
    have hfresh : rejectIf (visiting.contains node)
        (EvidenceValidationError.invalidGraph "graph contains a cycle") = .ok () := by
      refine rejectIf_eq_ok.mpr ?_
      rw [Bool.eq_false_iff]
      intro hcontains
      exact hacyclic node (hvisiting.leads node (List.contains_iff_mem.mp hcontains))
    unfold detect_cycle
    rw [hfresh]
    by_cases hvisited : visited.contains node = true
    · simp only [hvisited]
      exact ⟨visited, rfl⟩
    · simp only [hvisited]
      have hcalls : ∀ target ∈ adjacent edges node, ∀ visited, ∃ visited',
          detect_cycle edges fuel target (node :: visiting) visited = .ok visited' := by
        intro target htarget visited
        refine ih (hvisiting.hop hacyclic (mem_adjacent.mp htarget)) ?_ visited
        rw [List.length_cons]
        omega
      obtain ⟨left, hfold⟩ := fold_total hcalls visited
      refine ⟨node :: left, ?_⟩
      show (_ >>= _) = _
      rw [hfold]
      rfl

/-! ## §3. Exactness. -/

section Exact

variable {policy : EvidencePolicy} {graph : QueryEvidenceGraphV2}

/-- What is declared terminal: each node without outgoing edges, once. -/
structure TerminalsExact (graph : QueryEvidenceGraphV2) : Prop where
  nonempty : graph.terminal_node_ids ≠ []
  distinct : graph.terminal_node_ids.Nodup
  exact : ∀ server_id, server_id ∈ graph.terminal_node_ids ↔
    server_id ∈ node_ids graph.nodes ∧ ∀ target, ¬ Hop graph.edges server_id target

/-- The four checks of the terminal list. -/
theorem terminals_exact_iff :
    TerminalsExact graph ↔ graph.terminal_node_ids.Nodup ∧
      graph.terminal_node_ids.isEmpty = false ∧
      graph.terminal_node_ids.any (invalid_terminal graph) = false ∧
      graph.nodes.any (undeclared_leaf graph) = false := by
  -- a node without outgoing edges
  have hleaf : ∀ server_id, (adjacent graph.edges server_id).isEmpty = true ↔
      ∀ target, ¬ Hop graph.edges server_id target := by
    intro server_id
    rw [List.isEmpty_iff, List.eq_nil_iff_forall_not_mem]
    exact forall_congr' fun target => not_congr mem_adjacent
  have hknown : ∀ server_id, (find_node graph.nodes server_id).isNone = false ↔
      server_id ∈ node_ids graph.nodes := by
    intro server_id
    rw [← not_iff_not, Bool.not_eq_false, Option.isNone_iff_eq_none, find_node_eq_none]
  have hvalid : ∀ server_id, invalid_terminal graph server_id = false ↔
      server_id ∈ node_ids graph.nodes ∧ ∀ target, ¬ Hop graph.edges server_id target := by
    intro server_id
    unfold invalid_terminal
    rw [Bool.or_eq_false_iff, hknown, Bool.not_eq_false', hleaf]
  have hdeclared : ∀ node : EvidenceNodeV2, undeclared_leaf graph node = false ↔
      ((∀ target, ¬ Hop graph.edges node.identity.server_id target) →
        node.identity.server_id ∈ graph.terminal_node_ids) := by
    intro node
    unfold undeclared_leaf
    rw [Bool.and_eq_false_imp, hleaf, Bool.not_eq_false', List.contains_iff_mem]
  constructor
  · intro h
    refine ⟨h.distinct, ?_, ?_, ?_⟩
    · rw [Bool.eq_false_iff, Ne, List.isEmpty_iff]
      exact h.nonempty
    · rw [List.any_eq_false]
      intro terminal hterminal
      rw [Bool.not_eq_true, hvalid]
      exact (h.exact terminal).mp hterminal
    · rw [List.any_eq_false]
      intro node hnode
      rw [Bool.not_eq_true, hdeclared]
      intro hends
      exact (h.exact _).mpr ⟨List.mem_map_of_mem hnode, hends⟩
  · rintro ⟨hdistinct, hnonempty, hterminals, hleaves⟩
    rw [Bool.eq_false_iff, Ne, List.isEmpty_iff] at hnonempty
    rw [List.any_eq_false] at hterminals hleaves
    refine ⟨hnonempty, hdistinct, ?_⟩
    intro server_id
    constructor
    · intro hterminal
      exact (hvalid server_id).mp (Bool.eq_false_iff.mpr (hterminals server_id hterminal))
    · rintro ⟨hmem, hends⟩
      obtain ⟨node, hnode, rfl⟩ := List.mem_map.mp hmem
      exact (hdeclared node).mp (Bool.eq_false_iff.mpr (hleaves node hnode)) hends

/-- What the terminal list of a topology that passes says. -/
theorem terminals_of_topology (h : validate_topology policy graph = .ok ()) :
    TerminalsExact graph := by
  rw [terminals_exact_iff]
  unfold validate_topology at h
  simp only [bind_eq_ok, rejectIf_eq_ok, Bool.not_eq_false', decide_eq_true_eq] at h
  obtain ⟨_, _, _, _, _, _, _, hdistinct, _, hnonempty, _, hterminals, hleaves⟩ := h
  exact ⟨hdistinct, hnonempty, hterminals, hleaves⟩

/-- Where the nodes are distinct, the entry server and the ends of the edges are nodes, and the
simple paths from the entry keep within the bound, a topology passes exactly when every node is
reached, there is no cycle, and the terminals are the nodes without outgoing edges. -/
theorem topology_exact (hnodup : (node_ids graph.nodes).Nodup)
    (hentry : graph.entry_server_id ∈ node_ids graph.nodes)
    (hends : ∀ edge ∈ graph.edges, edge.from_server_id ∈ node_ids graph.nodes ∧
      edge.to_server_id ∈ node_ids graph.nodes)
    (hbound : ∀ servers, SimplePath graph.edges graph.entry_server_id servers →
      servers.length ≤ policy.max_depth) :
    validate_topology policy graph = .ok () ↔
      (∀ server_id ∈ node_ids graph.nodes, Walk graph.edges graph.entry_server_id server_id) ∧
        NoCycle graph.edges ∧ TerminalsExact graph := by
  have htargets : ∀ edge ∈ graph.edges, edge.to_server_id ∈ node_ids graph.nodes :=
    fun edge hedge => (hends edge hedge).2
  constructor
  · intro h
    have hreached : ∀ server_id ∈ node_ids graph.nodes,
        Walk graph.edges graph.entry_server_id server_id :=
      fun server_id hid => reachable_of_topology hentry htargets h hid
    refine ⟨hreached, ?_, terminals_of_topology h⟩
    intro server_id hcycle
    -- a server on a cycle is the source of an edge, so it is reached from the entry
    obtain ⟨_, ⟨edge, hedge, hfrom, _⟩, _⟩ := Relation.TransGen.head'_iff.mp hcycle
    have hwalk := hreached server_id (hfrom ▸ (hends edge hedge).1)
    exact (settled_of_walk (settled_of_topology h) hwalk).no_return hcycle
  · rintro ⟨hreached, hacyclic, hterminals⟩
    have hpaths : ∀ n b, Path graph.edges graph.entry_server_id n b → n ≤ policy.max_depth :=
      fun n b hpath => hacyclic.path_le hbound hpath
    have hfirst : ∀ item ∈ [(graph.entry_server_id, 0)],
        Path graph.edges graph.entry_server_id item.2 item.1 := by
      intro item hitem
      rw [List.mem_singleton.mp hitem]
      exact .here
    have hmeasure : ∃ depth, measure_depth policy.max_depth graph.edges (graph.edges.length + 1) []
        [(graph.entry_server_id, 0)] = .ok depth := measure_depth_total hpaths hfirst
    obtain ⟨depth, hdepth⟩ := hmeasure
    obtain ⟨hmeasured, hnodes⟩ := measured_of_topology hentry htargets hdepth
    have hcovered := measure_depth_covers hdepth
      (searching_start graph.edges graph.entry_server_id policy.max_depth)
    -- the nodes measured are the nodes of the graph
    have hperm : (depth.map Prod.fst).Perm (node_ids graph.nodes) := by
      refine (List.perm_ext_iff_of_nodup hmeasured.nodup hnodup).mpr ?_
      intro server_id
      refine ⟨hnodes server_id, ?_⟩
      intro hmem
      obtain ⟨n, hpath⟩ := path_of_walk (hreached server_id hmem)
      exact hcovered.reached hpath
    have hcount : depth.length = graph.nodes.length := by
      have hlength := hperm.length_eq
      rwa [List.length_map, List.length_map] at hlength
    have hvisiting : Visiting graph.edges graph.entry_server_id [] :=
      ⟨List.nodup_nil, fun _ hmem => (nomatch hmem)⟩
    obtain ⟨visited, hsearch⟩ := detect_cycle_total hacyclic hvisiting
      (Nat.le_succ (graph.edges.length + 1)) []
    obtain ⟨hdistinct, hnonempty, hvalid, hleaves⟩ := terminals_exact_iff.mp hterminals
    unfold validate_topology
    simp only [bind_eq_ok, rejectIf_eq_ok, Bool.not_eq_false', decide_eq_true_eq]
    refine ⟨depth, hdepth, (), ?_, visited, hsearch, (), hdistinct, (), hnonempty, (), hvalid,
      hleaves⟩
    rw [hcount]
    exact bne_self_eq_false _

/-- A simple path has fewer edges than the graph has nodes. -/
theorem SimplePath.length_lt (hentry : graph.entry_server_id ∈ node_ids graph.nodes)
    (hends : ∀ edge ∈ graph.edges, edge.to_server_id ∈ node_ids graph.nodes)
    {servers : List String} (h : SimplePath graph.edges graph.entry_server_id servers) :
    servers.length < graph.nodes.length := by
  have htargets : ∀ (servers : List String) (first : String),
      (first :: servers).IsChain (Hop graph.edges) → ∀ server_id ∈ servers,
        server_id ∈ node_ids graph.nodes := by
    intro servers
    induction servers with
    | nil => intro _ _ server_id hmem; cases hmem
    | cons next rest ih =>
      intro first hchain server_id hmem
      rw [List.isChain_cons_cons] at hchain
      rcases List.mem_cons.mp hmem with heq | hmem
      · obtain ⟨edge, hedge, _, hto⟩ := hchain.1
        rw [heq, ← hto]
        exact hends edge hedge
      · exact ih next hchain.2 server_id hmem
  have hsubset : graph.entry_server_id :: servers ⊆ node_ids graph.nodes := by
    intro server_id hmem
    rcases List.mem_cons.mp hmem with heq | hmem
    · rw [heq]
      exact hentry
    · exact htargets servers _ h.hops server_id hmem
  have hle := (List.subperm_of_subset h.distinct hsubset).length_le
  rw [List.length_cons, List.length_map] at hle
  exact hle

end Exact

/-! ## §4. A diamond. -/

/-- Two ways from `s0` to `s3`, one of them with a parallel edge. -/
def diamond_graph : QueryEvidenceGraphV2 :=
  { relay_graph with
    entry_server_id := link 0
    nodes := (List.range 4).map (fun n =>
      lab_node ({ resolver_a.1 with server_id := link n }, resolver_a.2))
    edges := [link_edge 0 1, link_edge 0 2, link_edge 1 3, link_edge 2 3, link_edge 0 1]
    terminal_node_ids := [link 3] }

theorem topology_exact_diamond :
    validate_topology .controlled_strict diamond_graph = .ok () ↔
      (∀ server_id ∈ node_ids diamond_graph.nodes,
        Walk diamond_graph.edges diamond_graph.entry_server_id server_id) ∧
        NoCycle diamond_graph.edges ∧ TerminalsExact diamond_graph := by
  have hentry : diamond_graph.entry_server_id ∈ node_ids diamond_graph.nodes := by
    decide +kernel
  have hends : ∀ edge ∈ diamond_graph.edges, edge.from_server_id ∈ node_ids diamond_graph.nodes ∧
      edge.to_server_id ∈ node_ids diamond_graph.nodes := by
    decide +kernel
  refine topology_exact (by decide +kernel) hentry hends ?_
  intro servers hpath
  have hlt := hpath.length_lt hentry (fun edge hedge => (hends edge hedge).2)
  have hfour : diamond_graph.nodes.length = 4 := by decide +kernel
  have hdepth : EvidencePolicy.controlled_strict.max_depth = 32 := rfl
  omega

example : validate_topology .controlled_strict diamond_graph = .ok () := by decide +kernel

end ResolverIdentity.Verifier
