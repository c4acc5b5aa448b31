/-
  ResolverIdentity.Core.Topology: the shape of an accepted graph.

  `validate_topology` searches the graph twice: breadth first, to see that every
  node is reached from the entry server, and depth first, to see that no path
  returns to itself.  Both searches are related here to the hops of the graph, as
  a relation on server ids.

  Main results:
    * `detect_cycle_settles`: what the depth-first search leaves behind starts no
      infinite walk;
    * `reachable_of_validate`: every node of an accepted graph is reached from the
      entry server;
    * `no_return_of_validate`: no walk comes back to the entry server.
-/
import ResolverIdentity.Core.Policy
import Mathlib.Data.List.Perm.Subperm
import Mathlib.Logic.Relation

namespace ResolverIdentity

open Library

/-! ## §1. Hops. -/

/-- One edge of the graph leads from `a` to `b`. -/
def Hop (edges : List ServerHopEvidenceV2) (a b : String) : Prop :=
  ∃ edge ∈ edges, edge.from_server_id = a ∧ edge.to_server_id = b

/-- Some number of hops leads from `a` to `b`. -/
abbrev Walk (edges : List ServerHopEvidenceV2) : String → String → Prop :=
  Relation.ReflTransGen (Hop edges)

/-- No infinite walk starts at the node. -/
def Settled (edges : List ServerHopEvidenceV2) (node : String) : Prop :=
  Acc (fun b a => Hop edges a b) node

/-- The server ids of the nodes. -/
abbrev node_ids (nodes : List EvidenceNodeV2) : List String :=
  nodes.map (fun node => node.identity.server_id)

section Hops

variable {edges edges' : List ServerHopEvidenceV2} {nodes : List EvidenceNodeV2}
variable {node : EvidenceNodeV2} {a b server_id : String}

theorem mem_adjacent : b ∈ adjacent edges a ↔ Hop edges a b := by
  unfold adjacent Hop
  constructor
  · intro h
    obtain ⟨edge, hedge, hto⟩ := List.mem_map.mp h
    obtain ⟨hmem, hfrom⟩ := List.mem_filter.mp hedge
    exact ⟨edge, hmem, of_decide_eq_true hfrom, hto⟩
  · intro h
    obtain ⟨edge, hmem, hfrom, hto⟩ := h
    exact List.mem_map.mpr ⟨edge, List.mem_filter.mpr ⟨hmem, decide_eq_true hfrom⟩, hto⟩

theorem Hop.mono (hsub : ∀ edge ∈ edges, edge ∈ edges') (h : Hop edges a b) : Hop edges' a b := by
  obtain ⟨edge, hmem, hends⟩ := h
  exact ⟨edge, hsub edge hmem, hends⟩

theorem Walk.mono (hsub : ∀ edge ∈ edges, edge ∈ edges') (h : Walk edges a b) :
    Walk edges' a b := by
  induction h with
  | refl => exact Relation.ReflTransGen.refl
  | tail _ hhop ih => exact ih.tail (hhop.mono hsub)

/-- From a settled node no walk of one hop or more leads back to it. -/
theorem Settled.no_return (h : Settled edges a) : ¬ Relation.TransGen (Hop edges) a a := by
  unfold Settled at h
  induction h with
  | intro a _ ih =>
    intro hcycle
    -- the first hop of the cycle leads to a node on the same cycle
    obtain ⟨b, hhop, hback⟩ := Relation.TransGen.head'_iff.mp hcycle
    exact ih b hhop (Relation.TransGen.tail' hback hhop)

theorem find_node_eq_some (h : find_node nodes server_id = some node) :
    node ∈ nodes ∧ node.identity.server_id = server_id := by
  unfold find_node at h
  have hid := List.find?_some
    (p := fun node : EvidenceNodeV2 => decide (node.identity.server_id = server_id)) h
  exact ⟨List.mem_of_find?_eq_some h, of_decide_eq_true hid⟩

theorem find_node_eq_none :
    find_node nodes server_id = none ↔ server_id ∉ node_ids nodes := by
  unfold find_node
  rw [List.find?_eq_none]
  constructor
  · intro h hmem
    obtain ⟨node, hnode, hid⟩ := List.mem_map.mp hmem
    exact h node hnode (decide_eq_true hid)
  · intro h node hnode hid
    exact h (List.mem_map.mpr ⟨node, hnode, of_decide_eq_true hid⟩)

/-- Without duplicates a node is found under its own id. -/
theorem find_node_of_mem (hnodup : (node_ids nodes).Nodup) (hmem : node ∈ nodes) :
    find_node nodes node.identity.server_id = some node := by
  cases hfind : find_node nodes node.identity.server_id with
  | none => exact absurd (List.mem_map_of_mem hmem) (find_node_eq_none.mp hfind)
  | some other =>
    obtain ⟨hother, hid⟩ := find_node_eq_some hfind
    rw [List.inj_on_of_nodup_map hnodup hother hmem hid]

end Hops

/-! ## §2. The two searches. -/

section Search

variable {edges : List ServerHopEvidenceV2}

/-- The loop over the targets of one node, given what one call does. -/
theorem fold_settles (search : String → List String → Except EvidenceValidationError (List String))
    (hsearch : ∀ node visited visited', search node visited = .ok visited' →
      (∀ v ∈ visited, Settled edges v) →
        node ∈ visited' ∧ (∀ v ∈ visited, v ∈ visited') ∧ ∀ v ∈ visited', Settled edges v)
    (targets : List String) :
    ∀ visited visited', targets.foldlM (fun visited target => search target visited) visited =
        .ok visited' →
      (∀ v ∈ visited, Settled edges v) →
        (∀ target ∈ targets, target ∈ visited') ∧ (∀ v ∈ visited, v ∈ visited') ∧
          ∀ v ∈ visited', Settled edges v := by
  induction targets with
  | nil =>
    intro visited visited' h hsettled
    obtain rfl := Except.ok.inj h
    exact ⟨fun _ hmem => (nomatch hmem), fun _ hmem => hmem, hsettled⟩
  | cons target rest ih =>
    intro visited visited' h hsettled
    rw [List.foldlM_cons] at h
    obtain ⟨between, hone, hrest⟩ := bind_eq_ok.mp h
    obtain ⟨htarget, hkept, hbetween⟩ := hsearch target visited between hone hsettled
    obtain ⟨hall, hkept', hsettled'⟩ := ih between visited' hrest hbetween
    refine ⟨?_, fun v hv => hkept' v (hkept v hv), hsettled'⟩
    intro other hother
    rcases List.mem_cons.mp hother with heq | hother
    · rw [heq]
      exact hkept' target htarget
    · exact hall other hother

/-- Every node the search leaves behind is settled: its targets were left before it. -/
theorem detect_cycle_settles {fuel : Nat} :
    ∀ {node : String} {visiting visited visited' : List String},
      detect_cycle edges fuel node visiting visited = .ok visited' →
      (∀ v ∈ visited, Settled edges v) →
        node ∈ visited' ∧ (∀ v ∈ visited, v ∈ visited') ∧ ∀ v ∈ visited', Settled edges v := by
  induction fuel with
  | zero =>
    intro node visiting visited visited' h _
    cases h
  | succ fuel ih =>
    intro node visiting visited visited' h hsettled
    unfold detect_cycle at h
    obtain ⟨_, _, h⟩ := bind_eq_ok.mp h
    by_cases hvisited : visited.contains node = true
    · rw [if_pos hvisited] at h
      obtain rfl := Except.ok.inj h
      exact ⟨List.contains_iff_mem.mp hvisited, fun _ hmem => hmem, hsettled⟩
    · rw [if_neg hvisited] at h
      obtain ⟨between, hfold, h⟩ := bind_eq_ok.mp h
      obtain rfl := Except.ok.inj h
      obtain ⟨htargets, hkept, hbetween⟩ := fold_settles
        (fun target visited => detect_cycle edges fuel target (node :: visiting) visited)
        (fun target before after hone hbefore => ih hone hbefore)
        (adjacent edges node) visited between hfold hsettled
      refine ⟨List.mem_cons_self, fun v hv => List.mem_cons_of_mem _ (hkept v hv), ?_⟩
      intro v hv
      rcases List.mem_cons.mp hv with heq | hv
      · rw [heq]
        exact Acc.intro node (fun b hhop => hbetween b (htargets b (mem_adjacent.mpr hhop)))
      · exact hbetween v hv

/-- The measured nodes are distinct and reached from the start. -/
structure Measured (edges : List ServerHopEvidenceV2) (start : String)
    (depth : List (String × Nat)) : Prop where
  nodup : (depth.map Prod.fst).Nodup
  reached : ∀ entry ∈ depth, Walk edges start entry.1

theorem Measured.insert {start server_id : String} {depth : List (String × Nat)} {d : Nat}
    (h : Measured edges start depth) (hwalk : Walk edges start server_id) :
    Measured edges start
      ((server_id, d) :: depth.filter (fun entry => entry.1 ≠ server_id)) where
  nodup := by
    rw [List.map_cons, List.nodup_cons]
    refine ⟨?_, h.nodup.sublist (List.filter_sublist.map _)⟩
    intro hmem
    obtain ⟨entry, hentry, hid⟩ := List.mem_map.mp hmem
    exact of_decide_eq_true (List.mem_filter.mp hentry).2 hid
  reached := by
    intro entry hentry
    rcases List.mem_cons.mp hentry with heq | hentry
    · rw [heq]
      exact hwalk
    · exact h.reached entry (List.mem_filter.mp hentry).1

theorem measure_depth_measured {max_depth fuel : Nat} {start : String} :
    ∀ {depth queue depth' : List (String × Nat)},
      measure_depth max_depth edges fuel depth queue = .ok depth' →
      Measured edges start depth → (∀ entry ∈ queue, Walk edges start entry.1) →
        Measured edges start depth' := by
  induction fuel with
  | zero =>
    intro depth queue depth' h hmeasured _
    cases queue with
    | nil => exact Except.ok.inj h ▸ hmeasured
    | cons entry rest => exact Except.ok.inj h ▸ hmeasured
  | succ fuel ih =>
    intro depth queue depth' h hmeasured hqueue
    cases queue with
    | nil => exact Except.ok.inj h ▸ hmeasured
    | cons entry rest =>
      obtain ⟨server_id, current_depth⟩ := entry
      unfold measure_depth at h
      obtain ⟨_, _, h⟩ := bind_eq_ok.mp h
      have hwalk : Walk edges start server_id := hqueue _ List.mem_cons_self
      have hrest : ∀ entry ∈ rest, Walk edges start entry.1 :=
        fun entry hentry => hqueue entry (List.mem_cons_of_mem _ hentry)
      split at h
      · exact ih h hmeasured hrest
      · refine ih h (hmeasured.insert hwalk) ?_
        intro entry hentry
        rcases List.mem_append.mp hentry with hentry | hentry
        · exact hrest entry hentry
        · -- a new item is one hop further
          obtain ⟨target, htarget, rfl⟩ := List.mem_map.mp hentry
          exact hwalk.tail (mem_adjacent.mp htarget)

end Search

/-! ## §3. Accepted graphs. -/

section Accepted

variable {P : Platform} {policy : EvidencePolicy} {issuer_keys : IssuerKeyRegistry}
variable {graph : QueryEvidenceGraphV2} {expected_challenge : String} {now : Int}

/-- The loop over the nodes refuses a second node of one server. -/
theorem nodup_of_validate_nodes {nodes : List EvidenceNodeV2} :
    ∀ {before : List EvidenceNodeV2},
      validate_nodes P policy issuer_keys now before nodes = .ok () →
      (node_ids before).Nodup → (node_ids (before ++ nodes)).Nodup := by
  induction nodes with
  | nil =>
    intro before _ hnodup
    rw [List.append_nil]
    exact hnodup
  | cons node rest ih =>
    intro before h hnodup
    obtain ⟨_, hone, hrest⟩ := bind_eq_ok.mp h
    have hfresh : find_node before node.identity.server_id = none := by
      unfold validate_node at hone
      obtain ⟨_, _, hone⟩ := bind_eq_ok.mp hone
      obtain ⟨_, _, hone⟩ := bind_eq_ok.mp hone
      obtain ⟨_, _, hone⟩ := bind_eq_ok.mp hone
      obtain ⟨_, _, hone⟩ := bind_eq_ok.mp hone
      obtain ⟨_, hduplicate, _⟩ := bind_eq_ok.mp hone
      rw [rejectIf_eq_ok] at hduplicate
      exact Option.isSome_eq_false_iff.mp hduplicate |> Option.isNone_iff_eq_none.mp
    have hsplit : before ++ node :: rest = (before ++ [node]) ++ rest := by
      rw [List.append_assoc]
      rfl
    rw [hsplit]
    refine ih hrest ?_
    rw [node_ids, List.map_append, List.nodup_append]
    refine ⟨hnodup, List.nodup_singleton _, ?_⟩
    intro id hid other hother heq
    rw [List.map_singleton, List.mem_singleton] at hother
    exact find_node_eq_none.mp hfresh (hother ▸ heq ▸ hid)

/-- The loop over the edges checked each of them. -/
theorem mem_of_validate_edges {edges : List ServerHopEvidenceV2} :
    ∀ {before : List ServerHopEvidenceV2},
      validate_edges P policy graph now before edges = .ok () →
      ∀ edge ∈ edges, ∃ before', validate_edge P policy graph now before' edge = .ok () := by
  induction edges with
  | nil => intro before _ edge hedge; cases hedge
  | cons first rest ih =>
    intro before h edge hedge
    obtain ⟨_, hone, hrest⟩ := bind_eq_ok.mp h
    rcases List.mem_cons.mp hedge with heq | hedge
    · rw [heq]
      exact ⟨before, hone⟩
    · exact ih hrest edge hedge

/-- An edge joins two nodes of its graph. -/
theorem ends_of_validate_edge {before : List ServerHopEvidenceV2} {edge : ServerHopEvidenceV2}
    (h : validate_edge P policy graph now before edge = .ok ()) :
    (∃ source, find_node graph.nodes edge.from_server_id = some source) ∧
      ∃ target, find_node graph.nodes edge.to_server_id = some target := by
  unfold validate_edge at h
  obtain ⟨_, _, h⟩ := bind_eq_ok.mp h
  obtain ⟨_, _, h⟩ := bind_eq_ok.mp h
  obtain ⟨_, _, h⟩ := bind_eq_ok.mp h
  obtain ⟨_, _, h⟩ := bind_eq_ok.mp h
  obtain ⟨_, hends, _⟩ := bind_eq_ok.mp h
  unfold validate_edge_ends at hends
  obtain ⟨_, _, hends⟩ := bind_eq_ok.mp hends
  obtain ⟨source, hsource, hends⟩ := bind_eq_ok.mp hends
  obtain ⟨target, htarget, _⟩ := bind_eq_ok.mp hends
  exact ⟨⟨source, okOr_eq_ok.mp hsource⟩, ⟨target, okOr_eq_ok.mp htarget⟩⟩

theorem mem_node_ids_of_find {nodes : List EvidenceNodeV2} {server_id : String}
    (h : ∃ node, find_node nodes server_id = some node) : server_id ∈ node_ids nodes := by
  obtain ⟨node, hnode⟩ := h
  obtain ⟨hmem, hid⟩ := find_node_eq_some hnode
  exact List.mem_map.mpr ⟨node, hmem, hid⟩

/-- The nodes of an accepted graph are distinct. -/
theorem nodup_of_validate
    (h : validate_graph P policy issuer_keys graph expected_challenge now = .ok ()) :
    (node_ids graph.nodes).Nodup :=
  nodup_of_validate_nodes (accepted_of_validate h).nodes List.nodup_nil

theorem ends_of_validate
    (h : validate_graph P policy issuer_keys graph expected_challenge now = .ok ())
    {edge : ServerHopEvidenceV2} (hedge : edge ∈ graph.edges) :
    edge.from_server_id ∈ node_ids graph.nodes ∧ edge.to_server_id ∈ node_ids graph.nodes := by
  obtain ⟨before, hone⟩ := mem_of_validate_edges (accepted_of_validate h).edges edge hedge
  obtain ⟨hsource, htarget⟩ := ends_of_validate_edge hone
  exact ⟨mem_node_ids_of_find hsource, mem_node_ids_of_find htarget⟩

theorem entry_of_validate
    (h : validate_graph P policy issuer_keys graph expected_challenge now = .ok ()) :
    graph.entry_server_id ∈ node_ids graph.nodes := by
  have hentry := (accepted_of_validate h).entry
  unfold validate_entry at hentry
  obtain ⟨entry, hfind, _⟩ := bind_eq_ok.mp hentry
  exact mem_node_ids_of_find ⟨entry, okOr_eq_ok.mp hfind⟩

/-- What the breadth-first search measured, where the entry server and the ends of all edges
are nodes. -/
theorem measured_of_topology {depth : List (String × Nat)}
    (hentry : graph.entry_server_id ∈ node_ids graph.nodes)
    (hends : ∀ edge ∈ graph.edges, edge.to_server_id ∈ node_ids graph.nodes)
    (hdepth : measure_depth policy.max_depth graph.edges (graph.edges.length + 1) []
      [(graph.entry_server_id, 0)] = .ok depth) :
    Measured graph.edges graph.entry_server_id depth ∧
      ∀ id ∈ depth.map Prod.fst, id ∈ node_ids graph.nodes := by
  have hempty : Measured graph.edges graph.entry_server_id [] :=
    ⟨List.nodup_nil, fun _ hentry => (nomatch hentry)⟩
  have hstart : ∀ entry ∈ [(graph.entry_server_id, 0)],
      Walk graph.edges graph.entry_server_id entry.1 := by
    intro entry hentry
    rw [List.mem_singleton.mp hentry]
  have hmeasured := measure_depth_measured hdepth hempty hstart
  refine ⟨hmeasured, ?_⟩
  intro id hmem
  obtain ⟨entry, hentry_mem, rfl⟩ := List.mem_map.mp hmem
  rcases Relation.ReflTransGen.cases_tail (hmeasured.reached entry hentry_mem) with heq | hlast
  · rw [heq]
    exact hentry
  · obtain ⟨_, _, edge, hedge, _, hto⟩ := hlast
    rw [← hto]
    exact hends edge hedge

/-- A topology that passes reaches every node from the entry server. -/
theorem reachable_of_topology (hentry : graph.entry_server_id ∈ node_ids graph.nodes)
    (hends : ∀ edge ∈ graph.edges, edge.to_server_id ∈ node_ids graph.nodes)
    (h : validate_topology policy graph = .ok ()) {server_id : String}
    (hid : server_id ∈ node_ids graph.nodes) :
    Walk graph.edges graph.entry_server_id server_id := by
  unfold validate_topology at h
  obtain ⟨depth, hdepth, h⟩ := bind_eq_ok.mp h
  obtain ⟨_, hcount, _⟩ := bind_eq_ok.mp h
  obtain ⟨hmeasured, hnodes⟩ := measured_of_topology hentry hends hdepth
  have hlength : depth.length = graph.nodes.length := by
    rw [rejectIf_eq_ok] at hcount
    exact of_not_not (fun hne => Bool.noConfusion (hcount.symm.trans (bne_iff_ne.mpr hne)))
  -- what was measured are nodes of the graph, as many as there are
  have hperm : (depth.map Prod.fst).Perm (node_ids graph.nodes) :=
    (List.subperm_of_subset hmeasured.nodup hnodes).perm_of_length_le (by
      rw [List.length_map, List.length_map, hlength])
  obtain ⟨entry, hentry, rfl⟩ := List.mem_map.mp (hperm.mem_iff.mpr hid)
  exact hmeasured.reached entry hentry

/-- Every node of an accepted graph is reached from the entry server. -/
theorem reachable_of_validate
    (h : validate_graph P policy issuer_keys graph expected_challenge now = .ok ())
    {server_id : String} (hid : server_id ∈ node_ids graph.nodes) :
    Walk graph.edges graph.entry_server_id server_id :=
  reachable_of_topology (entry_of_validate h) (fun _ hedge => (ends_of_validate h hedge).2)
    (accepted_of_validate h).topology hid

/-- Nothing infinite starts at the entry server of a topology that passes. -/
theorem settled_of_topology (h : validate_topology policy graph = .ok ()) :
    Settled graph.edges graph.entry_server_id := by
  unfold validate_topology at h
  obtain ⟨_, _, h⟩ := bind_eq_ok.mp h
  obtain ⟨_, _, h⟩ := bind_eq_ok.mp h
  obtain ⟨visited, hsearch, _⟩ := bind_eq_ok.mp h
  obtain ⟨hentry, _, hsettled⟩ := detect_cycle_settles hsearch (fun _ hmem => (nomatch hmem))
  exact hsettled _ hentry

/-- No walk comes back to the entry server. -/
theorem no_return_of_validate
    (h : validate_graph P policy issuer_keys graph expected_challenge now = .ok ()) :
    ¬ Relation.TransGen (Hop graph.edges) graph.entry_server_id graph.entry_server_id :=
  (settled_of_topology (accepted_of_validate h).topology).no_return

end Accepted

end ResolverIdentity
