/-
  ResolverIdentity.Verifier.Acceptance: which graphs are accepted.

  The loops of `validate_graph` look at one element after the other and at those
  before it.  Here each loop is brought into a form without an order: what every
  element has to satisfy by itself, and what must not occur twice.

  Main results:
    * `validate_nodes_iff`, `validate_edges_iff`, `validate_attached_iff`: the loops.
-/
import ResolverIdentity.Verifier.Depth

namespace ResolverIdentity.Verifier

open Library Agent

/-! ## §1. Nodes. -/

/-- The deployment a reference points at. -/
def anchor (registry : RegistryReferenceV2) :
    String × String × String × RegistryAdapterMetadataV2 :=
  (registry.chain_identity, registry.registry_locator, registry.registry_schema_hash,
    registry.adapter_metadata)

theorem same_anchor_iff {left right : RegistryReferenceV2} :
    same_anchor left right = true ↔ anchor left = anchor right := by
  unfold same_anchor anchor
  simp only [Bool.and_eq_true, decide_eq_true_eq, Prod.mk.injEq, and_assoc]

/-- What a node has to satisfy by itself. -/
structure NodeOk (P : Platform) (policy : EvidencePolicy) (issuer_keys : IssuerKeyRegistry)
    (now : Int) (node : EvidenceNodeV2) : Prop where
  schema : node.identity.schema_version = DNS_SERVER_IDENTITY_V2
  identity_shape : validate_identity_shape P node.identity = .ok ()
  registry_shape : validate_registry_shape node.registry = .ok ()
  accepted : node.accepted = true ∧ node.reasons = []
  active : node.identity.active_at now = true
  signed : ∃ issuer_key, issuer_keys.get node.identity.issuer node.identity.key_id =
      some issuer_key ∧ P.verify_ed25519 node.identity.to_value issuer_key = .ok ()
  levels : validate_node_policy policy node = .ok ()
  bound : registry_mismatch P node = false

section Nodes

variable {P : Platform} {policy : EvidencePolicy} {issuer_keys : IssuerKeyRegistry} {now : Int}

theorem validate_node_iff {before : List EvidenceNodeV2} {node : EvidenceNodeV2} :
    validate_node P policy issuer_keys now before node = .ok () ↔
      NodeOk P policy issuer_keys now node ∧
        (∀ last ∈ before.getLast?, anchor last.registry = anchor node.registry) ∧
          node.identity.server_id ∉ node_ids before := by
  have hlast : before.getLast?.any (fun last => !same_anchor last.registry node.registry) =
      false ↔ ∀ last ∈ before.getLast?, anchor last.registry = anchor node.registry := by
    cases before.getLast? with
    | none => exact ⟨fun _ _ h => (nomatch h), fun _ => rfl⟩
    | some last =>
      show (!same_anchor last.registry node.registry) = false ↔ _
      rw [Bool.not_eq_false', same_anchor_iff]
      constructor
      · intro h other hother
        rw [← Option.some.inj hother]
        exact h
      · intro h
        exact h last rfl
  have hfresh : (find_node before node.identity.server_id).isSome = false ↔
      node.identity.server_id ∉ node_ids before := by
    rw [← find_node_eq_none, Option.isSome_eq_false_iff, Option.isNone_iff_eq_none]
  unfold validate_node
  simp only [bind_eq_ok, exists_unit, rejectIf_eq_ok, okOr_eq_ok, hlast, hfresh,
    bne_eq_false_iff_eq, Bool.or_eq_false_iff, Bool.not_eq_false', List.isEmpty_iff]
  constructor
  · intro h
    obtain ⟨hschema, hidentity, hregistry, hanchor, hnew, ⟨⟨haccepted, hreasons⟩, hactive⟩,
      issuer_key, hkey, hsigned, hlevels, hbound⟩ := h
    exact ⟨⟨hschema, hidentity, hregistry, ⟨haccepted, hreasons⟩, hactive,
      ⟨issuer_key, hkey, hsigned⟩, hlevels, hbound⟩, hanchor, hnew⟩
  · intro h
    obtain ⟨hnode, hanchor, hnew⟩ := h
    obtain ⟨issuer_key, hkey, hsigned⟩ := hnode.signed
    exact ⟨hnode.schema, hnode.identity_shape, hnode.registry_shape, hanchor, hnew,
      ⟨hnode.accepted, hnode.active⟩, issuer_key, hkey, hsigned, hnode.levels, hnode.bound⟩

/-- The loop, after the nodes `before`. -/
theorem validate_nodes_chain {nodes : List EvidenceNodeV2} :
    ∀ {before : List EvidenceNodeV2}, (node_ids before).Nodup →
      (validate_nodes P policy issuer_keys now before nodes = .ok () ↔
        (∀ node ∈ nodes, NodeOk P policy issuer_keys now node) ∧
          (node_ids (before ++ nodes)).Nodup ∧
            (before.getLast?.toList ++ nodes).IsChain
              (fun a b => anchor a.registry = anchor b.registry)) := by
  induction nodes with
  | nil =>
    intro before hnodup
    rw [List.append_nil, List.append_nil]
    refine ⟨fun _ => ⟨fun _ h => absurd h List.not_mem_nil, hnodup, ?_⟩, fun _ => rfl⟩
    cases before.getLast? with
    | none => exact List.IsChain.nil
    | some last => exact List.IsChain.singleton last
  | cons node rest ih =>
    intro before hnodup
    -- the node moves over to those already passed
    have hsplit : before ++ node :: rest = (before ++ [node]) ++ rest := by
      rw [List.append_assoc]
      rfl
    have hlast : (before ++ [node]).getLast? = some node := List.getLast?_concat
    have hids : (node_ids (before ++ [node])).Nodup ↔ node.identity.server_id ∉ node_ids before := by
      rw [node_ids, List.map_append, List.map_singleton, List.nodup_append]
      constructor
      · intro h hmem
        exact h.2.2 _ hmem _ List.mem_cons_self rfl
      · intro hnew
        refine ⟨hnodup, List.nodup_singleton _, ?_⟩
        intro id hid other hother heq
        rw [List.mem_singleton.mp hother] at heq
        exact hnew (heq ▸ hid)
    -- the chain of anchors is checked against the last node passed
    have hchain : (before.getLast?.toList ++ node :: rest).IsChain
          (fun a b => anchor a.registry = anchor b.registry) ↔
        (∀ last ∈ before.getLast?, anchor last.registry = anchor node.registry) ∧
          (node :: rest).IsChain (fun a b => anchor a.registry = anchor b.registry) := by
      cases before.getLast? with
      | none => exact ⟨fun h => ⟨fun _ hmem => absurd hmem (Option.not_mem_none _), h⟩, fun h => h.2⟩
      | some last =>
        show (last :: node :: rest).IsChain _ ↔ _
        rw [List.isChain_cons_cons]
        constructor
        · intro h
          exact ⟨fun other hother => Option.some.inj hother ▸ h.1, h.2⟩
        · intro h
          exact ⟨h.1 last rfl, h.2⟩
    show (validate_node P policy issuer_keys now before node >>= fun _ =>
      validate_nodes P policy issuer_keys now (before ++ [node]) rest) = .ok () ↔ _
    rw [bind_eq_ok, exists_unit, validate_node_iff, hchain, List.forall_mem_cons, hsplit]
    constructor
    · intro h
      obtain ⟨⟨hnode, hanchor, hnew⟩, hrest⟩ := h
      obtain ⟨hall, hnodup', hchain'⟩ := (ih (hids.mpr hnew)).mp hrest
      rw [hlast] at hchain'
      exact ⟨⟨hnode, hall⟩, hnodup', hanchor, hchain'⟩
    · intro h
      obtain ⟨⟨hnode, hall⟩, hnodup', hanchor, hchain'⟩ := h
      have hprefix : (node_ids (before ++ [node])).Nodup := by
        rw [node_ids, List.map_append] at hnodup'
        exact hnodup'.of_append_left
      refine ⟨⟨hnode, hanchor, hids.mp hprefix⟩, (ih hprefix).mpr ⟨hall, hnodup', ?_⟩⟩
      rw [hlast]
      exact hchain'

/-- The loop accepts distinct nodes of one deployment that are in order by themselves. -/
theorem validate_nodes_iff {nodes : List EvidenceNodeV2} :
    validate_nodes P policy issuer_keys now [] nodes = .ok () ↔
      (∀ node ∈ nodes, NodeOk P policy issuer_keys now node) ∧ (node_ids nodes).Nodup ∧
        ∀ a ∈ nodes, ∀ b ∈ nodes, anchor a.registry = anchor b.registry := by
  have hempty : (node_ids []).Nodup := List.nodup_nil
  rw [validate_nodes_chain hempty]
  show _ ∧ _ ∧ nodes.IsChain _ ↔ _
  have hall : nodes.IsChain (fun a b => anchor a.registry = anchor b.registry) ↔
      ∀ a ∈ nodes, ∀ b ∈ nodes, anchor a.registry = anchor b.registry := by
    constructor
    · intro hchain
      let R (a b : EvidenceNodeV2) : Prop := anchor a.registry = anchor b.registry
      have htrans : Trans R R R := ⟨fun hab hbc => hab.trans hbc⟩
      have hpairs : nodes.Pairwise R := List.isChain_iff_pairwise.mp hchain
      have hflip : nodes.Pairwise (flip R) := hpairs.imp (fun h => h.symm)
      intro a ha b hb
      exact List.Pairwise.forall_of_forall_of_flip (R := R) (fun _ _ => rfl) hpairs hflip ha hb
    · intro h
      exact (List.pairwise_of_forall_mem_list h).isChain
  rw [hall]
  rfl

end Nodes

/-! ## §2. Edges. -/

/-- How an edge fits the nodes at its ends. -/
structure EndsOk (P : Platform) (policy : EvidencePolicy) (now : Int)
    (nodes : List EvidenceNodeV2) (edge : ServerHopEvidenceV2) (source target : EvidenceNodeV2)
    (agent : AgentBindingV2) : Prop where
  found_source : find_node nodes edge.from_server_id = some source
  found_target : find_node nodes edge.to_server_id = some target
  registry : edge.registry = target.registry
  distinct : edge.from_server_id ≠ edge.to_server_id
  endpoints : endpoint_bound P source edge.from_endpoint = true ∧
    endpoint_bound P target edge.to_endpoint = true
  bound_agent : source.identity.agent = some agent
  key : key_mismatch edge.key_id agent = false
  signed : P.verify_ed25519 edge.to_value agent.public_key = .ok ()
  attested : validate_target_attestation P policy now edge target = .ok ()

/-- What an edge has to satisfy by itself, between these nodes. -/
structure EdgeOk (P : Platform) (policy : EvidencePolicy) (now : Int) (trace_id challenge : String)
    (nodes : List EvidenceNodeV2) (edge : ServerHopEvidenceV2) : Prop where
  schema : edge.schema_version = SERVER_HOP_EVIDENCE_V2
  bound : edge.trace_id = trace_id ∧ edge.challenge = challenge
  digests : is_bytes32_hex edge.target_correlation_id = true ∧
    is_bytes32_hex edge.query_digest = true ∧ is_bytes32_hex edge.response_digest = true
  window : validate_window edge.issued_at edge.expires_at now policy.max_clock_skew_seconds =
    .ok ()
  ttl : validate_evidence_ttl edge.issued_at edge.expires_at policy.max_evidence_ttl_seconds =
    .ok ()
  observation : validate_observation edge.observed_at now policy.max_clock_skew_seconds
    policy.max_observation_age_seconds = .ok ()
  accepted : edge.accepted = true ∧ edge.reasons = []
  ends : ∃ source target agent, EndsOk P policy now nodes edge source target agent

section Edges

variable {P : Platform} {policy : EvidencePolicy} {graph : QueryEvidenceGraphV2} {now : Int}

theorem validate_edge_iff {before : List ServerHopEvidenceV2} {edge : ServerHopEvidenceV2} :
    validate_edge P policy graph now before edge = .ok () ↔
      EdgeOk P policy now graph.trace_id graph.challenge graph.nodes edge ∧
        edge.edge_id ∉ before.map ServerHopEvidenceV2.edge_id := by
  have hfresh : before.any (fun other => decide (other.edge_id = edge.edge_id)) = false ↔
      edge.edge_id ∉ before.map ServerHopEvidenceV2.edge_id := by
    rw [List.any_eq_false, List.mem_map]
    constructor
    · intro h hmem
      obtain ⟨other, hother, hid⟩ := hmem
      exact h other hother (decide_eq_true hid)
    · intro h other hother hid
      exact h ⟨other, hother, of_decide_eq_true hid⟩
  unfold validate_edge validate_edge_binding validate_edge_ends
  simp only [bind_eq_ok, exists_unit, rejectIf_eq_ok, okOr_eq_ok, hfresh, bne_eq_false_iff_eq,
    Bool.or_eq_false_iff, Bool.not_eq_false', List.isEmpty_iff, decide_eq_false_iff_not]
  constructor
  · intro h
    obtain ⟨⟨hschema, hnew, hbound, ⟨⟨hcorrelation, hquery⟩, hresponse⟩⟩, hwindow, httl,
      hobservation, target, ⟨haccepted, source, hsource, found, htarget, hregistry, hdistinct,
      hendpoints, agent, hagent, hkey, hsigned, hfound⟩, hattested⟩ := h
    obtain rfl : target = found := (Except.ok.inj hfound).symm
    exact ⟨⟨hschema, hbound, ⟨hcorrelation, hquery, hresponse⟩, hwindow, httl, hobservation,
      haccepted, source, target, agent, ⟨hsource, htarget, hregistry, hdistinct, hendpoints, hagent,
      hkey, hsigned, hattested⟩⟩, hnew⟩
  · intro h
    obtain ⟨hedge, hnew⟩ := h
    obtain ⟨source, target, agent, hends⟩ := hedge.ends
    obtain ⟨hcorrelation, hquery, hresponse⟩ := hedge.digests
    exact ⟨⟨hedge.schema, hnew, hedge.bound, ⟨⟨hcorrelation, hquery⟩, hresponse⟩⟩, hedge.window,
      hedge.ttl, hedge.observation, target, ⟨hedge.accepted, source, hends.found_source, target,
      hends.found_target, hends.registry, hends.distinct, hends.endpoints, agent,
      hends.bound_agent, hends.key, hends.signed, rfl⟩, hends.attested⟩

/-- The loop, after the edges `before`. -/
theorem validate_edges_from {edges : List ServerHopEvidenceV2} :
    ∀ {before : List ServerHopEvidenceV2}, (before.map ServerHopEvidenceV2.edge_id).Nodup →
      (validate_edges P policy graph now before edges = .ok () ↔
        (∀ edge ∈ edges, EdgeOk P policy now graph.trace_id graph.challenge graph.nodes edge) ∧
          ((before ++ edges).map ServerHopEvidenceV2.edge_id).Nodup) := by
  induction edges with
  | nil =>
    intro before hnodup
    rw [List.append_nil]
    exact ⟨fun _ => ⟨fun _ h => (nomatch h), hnodup⟩, fun _ => rfl⟩
  | cons edge rest ih =>
    intro before hnodup
    have hsplit : before ++ edge :: rest = (before ++ [edge]) ++ rest := by
      rw [List.append_assoc]
      rfl
    have hids : ((before ++ [edge]).map ServerHopEvidenceV2.edge_id).Nodup ↔
        edge.edge_id ∉ before.map ServerHopEvidenceV2.edge_id := by
      rw [List.map_append, List.map_singleton, List.nodup_append]
      constructor
      · intro h hmem
        exact h.2.2 _ hmem _ List.mem_cons_self rfl
      · intro hnew
        refine ⟨hnodup, List.nodup_singleton _, ?_⟩
        intro id hid other hother heq
        rw [List.mem_singleton.mp hother] at heq
        exact hnew (heq ▸ hid)
    show (validate_edge P policy graph now before edge >>= fun _ =>
      validate_edges P policy graph now (before ++ [edge]) rest) = .ok () ↔ _
    rw [bind_eq_ok, exists_unit, validate_edge_iff, List.forall_mem_cons, hsplit]
    constructor
    · intro h
      obtain ⟨⟨hedge, hnew⟩, hrest⟩ := h
      obtain ⟨hall, hnodup'⟩ := (ih (hids.mpr hnew)).mp hrest
      exact ⟨⟨hedge, hall⟩, hnodup'⟩
    · intro h
      obtain ⟨⟨hedge, hall⟩, hnodup'⟩ := h
      have hprefix : ((before ++ [edge]).map ServerHopEvidenceV2.edge_id).Nodup := by
        rw [List.map_append] at hnodup'
        exact hnodup'.of_append_left
      exact ⟨⟨hedge, hids.mp hprefix⟩, (ih hprefix).mpr ⟨hall, hnodup'⟩⟩

theorem validate_edges_iff {edges : List ServerHopEvidenceV2} :
    validate_edges P policy graph now [] edges = .ok () ↔
      (∀ edge ∈ edges, EdgeOk P policy now graph.trace_id graph.challenge graph.nodes edge) ∧
        (edges.map ServerHopEvidenceV2.edge_id).Nodup :=
  validate_edges_from List.nodup_nil

end Edges

/-! ## §3. Attached graphs. -/

/-- What an attached graph has to satisfy by itself. -/
structure AttachmentOk
    (validate_child : QueryEvidenceGraphV2 → Except EvidenceValidationError Unit)
    (graph child : QueryEvidenceGraphV2) : Prop where
  cached : child.cache_provenance.isSome = true
  leaf : child.edges = [] ∧ child.terminal_cache_graphs = []
  bound : child.trace_id = graph.trace_id ∧ child.challenge = graph.challenge ∧
    child.mode = graph.mode
  terminal : child.entry_server_id ∈ graph.terminal_node_ids
  node : ∃ parent_node child_node, find_node graph.nodes child.entry_server_id = some parent_node ∧
    parent_node.identity.role.is_recursive = true ∧ child.nodes = [child_node] ∧
      same_child_node child_node parent_node = true
  expected : terminal_key child ∈ expected_keys graph
  accepted : validate_child child = .ok ()

section Attached

variable {graph : QueryEvidenceGraphV2}
variable {validate_child : QueryEvidenceGraphV2 → Except EvidenceValidationError Unit}

/-- One node, and it satisfies the check. -/
theorem single_node_iff {nodes : List EvidenceNodeV2} {p : EvidenceNodeV2 → Bool} :
    nodes.length = 1 ∧ nodes.head?.all (fun node => !p node) = false ↔
      ∃ node, nodes = [node] ∧ p node = true := by
  cases nodes with
  | nil =>
    constructor
    · intro h
      cases h.1
    · intro h
      obtain ⟨_, hnodes, _⟩ := h
      cases hnodes
  | cons node rest =>
    constructor
    · intro h
      have hrest : rest = [] := List.length_eq_zero_iff.mp (Nat.succ.inj h.1)
      have hnode : (!p node) = false := h.2
      rw [Bool.not_eq_false'] at hnode
      rw [hrest]
      exact ⟨node, rfl, hnode⟩
    · intro h
      obtain ⟨found, hnodes, hfound⟩ := h
      obtain ⟨rfl, rfl⟩ := List.cons.inj hnodes
      refine ⟨rfl, ?_⟩
      show (!p node) = false
      rw [hfound]
      rfl

theorem validate_attachment_iff {supplied : List TerminalKey} {child : QueryEvidenceGraphV2} :
    validate_terminal_cache_graph validate_child graph supplied child = .ok () ↔
      AttachmentOk validate_child graph child ∧ terminal_key child ∉ supplied := by
  unfold validate_terminal_cache_graph validate_terminal_binding
  simp only [bind_eq_ok, exists_unit, rejectIf_eq_ok, okOr_eq_ok, bne_eq_false_iff_eq,
    Bool.or_eq_false_iff, Bool.not_eq_false', List.isEmpty_iff, decide_eq_false_iff_not, not_not,
    List.contains_iff_mem, Option.isNone_eq_false_iff]
  constructor
  · intro h
    obtain ⟨⟨⟨⟨hcached, hedges⟩, hattached⟩, ⟨⟨htrace, hchallenge⟩, hmode⟩, parent_node, hparent,
      ⟨⟨⟨hterminal, hrole⟩, hlength⟩, hsame⟩, ⟨hexpected, hnew⟩⟩, haccepted⟩ := h
    obtain ⟨child_node, hnodes, hsame⟩ := single_node_iff
      (p := fun node => same_child_node node parent_node) |>.mp ⟨hlength, hsame⟩
    exact ⟨⟨hcached, ⟨hedges, hattached⟩, ⟨htrace, hchallenge, hmode⟩, hterminal,
      ⟨parent_node, child_node, hparent, hrole, hnodes, hsame⟩, hexpected, haccepted⟩,
      fun hmem => Bool.noConfusion (hnew.symm.trans (List.contains_iff_mem.mpr hmem))⟩
  · intro h
    obtain ⟨hchild, hnew⟩ := h
    obtain ⟨parent_node, child_node, hparent, hrole, hnodes, hsame⟩ := hchild.node
    obtain ⟨hlength, hhead⟩ := single_node_iff
      (p := fun node => same_child_node node parent_node) |>.mpr ⟨child_node, hnodes, hsame⟩
    obtain ⟨htrace, hchallenge, hmode⟩ := hchild.bound
    refine ⟨⟨⟨⟨hchild.cached, hchild.leaf.1⟩, hchild.leaf.2⟩, ⟨⟨htrace, hchallenge⟩, hmode⟩,
      parent_node, hparent, ⟨⟨⟨hchild.terminal, hrole⟩, hlength⟩, hhead⟩,
      ⟨hchild.expected, ?_⟩⟩, hchild.accepted⟩
    exact Bool.eq_false_iff.mpr (fun hmem => hnew (List.contains_iff_mem.mp hmem))

/-- The loop, after the keys `supplied`. -/
theorem validate_attached_from {children : List QueryEvidenceGraphV2} :
    ∀ {supplied supplied' : List TerminalKey}, supplied.Nodup →
      (validate_attached validate_child graph supplied children = .ok supplied' ↔
        (∀ child ∈ children, AttachmentOk validate_child graph child) ∧
          ((children.map terminal_key).reverse ++ supplied).Nodup ∧
            supplied' = (children.map terminal_key).reverse ++ supplied) := by
  induction children with
  | nil =>
    intro supplied supplied' hnodup
    show Except.ok supplied = Except.ok supplied' ↔ _ ∧ supplied.Nodup ∧ supplied' = supplied
    rw [Except.ok.injEq]
    exact ⟨fun h => ⟨fun _ hmem => (nomatch hmem), hnodup, h.symm⟩, fun h => h.2.2.symm⟩
  | cons child rest ih =>
    intro supplied supplied' hnodup
    show (validate_terminal_cache_graph validate_child graph supplied child >>= fun _ =>
      validate_attached validate_child graph (terminal_key child :: supplied) rest) =
        .ok supplied' ↔ _
    have hsplit : ((child :: rest).map terminal_key).reverse ++ supplied =
        (rest.map terminal_key).reverse ++ (terminal_key child :: supplied) := by
      rw [List.map_cons, List.reverse_cons, List.append_assoc]
      rfl
    rw [bind_eq_ok, exists_unit, validate_attachment_iff, List.forall_mem_cons, hsplit]
    constructor
    · intro h
      obtain ⟨⟨hchild, hnew⟩, hrest⟩ := h
      obtain ⟨hall, hnodup', hsupplied⟩ := (ih (List.nodup_cons.mpr ⟨hnew, hnodup⟩)).mp hrest
      exact ⟨⟨hchild, hall⟩, hnodup', hsupplied⟩
    · intro h
      obtain ⟨⟨hchild, hall⟩, hnodup', hsupplied⟩ := h
      have hkeys : (terminal_key child :: supplied).Nodup := hnodup'.of_append_right
      exact ⟨⟨hchild, (List.nodup_cons.mp hkeys).1⟩, (ih hkeys).mpr ⟨hall, hnodup', hsupplied⟩⟩

/-- The loop accepts attachments in order by themselves, no two for one edge. -/
theorem validate_attached_iff {children : List QueryEvidenceGraphV2}
    {supplied : List TerminalKey} :
    validate_attached validate_child graph [] children = .ok supplied ↔
      (∀ child ∈ children, AttachmentOk validate_child graph child) ∧
        (children.map terminal_key).Nodup ∧ supplied = (children.map terminal_key).reverse := by
  rw [validate_attached_from List.nodup_nil, List.append_nil, List.nodup_reverse]

end Attached

end ResolverIdentity.Verifier
