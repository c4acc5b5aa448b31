/-
  ResolverIdentity.Agent.Skew: Agents at different finalized heights.

  Two Agents that are up to date read the Registry at heights of their own, so the
  references in their graphs need not be equal, only of one state.  A build is run a
  second time here against downstream graphs reissued at other checkpoints.  The
  entry of such a graph is compared with `same_registry_state`; every other node of
  it goes through `merge_node`, which asks for equal references.

  Main results:
    * `Mirrored.add_target`, `Mirrored.add_child`: one hop of both builds, as long as
      nobody names one server with two references;
    * `Mirrored.finished`: the second build signs a graph that stands.
-/
import ResolverIdentity.Agent.Merging
import ResolverIdentity.Core.Signatures
import ResolverIdentity.Library.TwoRuns
import ResolverIdentity.Verifier.Restated

namespace ResolverIdentity.Agent

open Library Store Verifier

/-! ## §1. References of a run. -/

/-- The record of a server that an answer of the store holds. -/
def record_of : (op : AgentOp) → AgentRes op → Option EvidenceStore.IdentityRecord
  | .get_identity _, .ok (some record) => some record
  | .lookup_record _, .ok (some record) => some record
  | _, _ => none

/-- The graph that an answer of another Agent holds. -/
def reply_of : (op : AgentOp) → AgentRes op → Option QueryEvidenceGraphV2
  | .post_graph _ _, .body graph => some graph
  | _, _ => none

/-- The records a run read from its own store. -/
def own_records (τ : List (Prog.Event AgentOp AgentRes)) : List EvidenceStore.IdentityRecord :=
  τ.filterMap (fun event => record_of event.1 event.2)

/-- The downstream graphs of a run. -/
def downstream (τ : List (Prog.Event AgentOp AgentRes)) : List QueryEvidenceGraphV2 :=
  τ.filterMap (fun event => reply_of event.1 event.2)

/-- What a downstream graph says of the servers behind its entry. -/
def child_records (child : QueryEvidenceGraphV2) : List EvidenceStore.IdentityRecord :=
  (child.nodes.filter (fun node => node.identity.server_id ≠ child.entry_server_id)).map node_record

/-- Nobody names one server with two references. -/
def Agreed (records : List EvidenceStore.IdentityRecord) : Prop :=
  ∀ a ∈ records, ∀ b ∈ records, a.1.server_id = b.1.server_id → a.2 = b.2

instance (records : List EvidenceStore.IdentityRecord) : Decidable (Agreed records) :=
  inferInstanceAs (Decidable (∀ a ∈ records, ∀ b ∈ records,
    a.1.server_id = b.1.server_id → a.2 = b.2))

/-! ## §2. Merging at other checkpoints. -/

section Merge

variable {nodes nodes' merged child_nodes child_nodes' : List EvidenceNodeV2}
variable {node node' : EvidenceNodeV2} {skipped : String}

/-- The same merge at other checkpoints, the references being equal. -/
theorem merge_node_restated
    (hnodes : nodes.map EvidenceNodeV2.without_checkpoint =
      nodes'.map EvidenceNodeV2.without_checkpoint)
    (hnode : node.without_checkpoint = node'.without_checkpoint)
    (hagree : ∀ other ∈ nodes', other.identity.server_id = node'.identity.server_id →
      other.registry = node'.registry)
    (h : merge_node nodes node = .ok merged) :
    ∃ merged', merge_node nodes' node' = .ok merged' ∧
      merged.map EvidenceNodeV2.without_checkpoint =
        merged'.map EvidenceNodeV2.without_checkpoint := by
  have hidentity : node.identity = node'.identity := (congrArg EvidenceNodeV2.identity hnode :)
  have hlevels : node.evidence_levels = node'.evidence_levels :=
    (congrArg EvidenceNodeV2.evidence_levels hnode :)
  induction nodes generalizing nodes' merged with
  | nil =>
    rw [List.map_nil] at hnodes
    rw [List.map_eq_nil_iff.mp hnodes.symm, ← Except.ok.inj h]
    exact ⟨[node'], rfl, congrArg (fun node => [node]) hnode⟩
  | cons existing rest ih =>
    obtain ⟨existing', rest', heq, hexisting, hrest⟩ := List.map_eq_cons_iff.mp hnodes.symm
    rw [heq] at hagree ⊢
    -- both runs find the same entry, under the same id
    have hexisting_identity : existing'.identity = existing.identity :=
      (congrArg EvidenceNodeV2.identity hexisting :)
    unfold merge_node at h ⊢
    rw [hexisting_identity, ← hidentity]
    by_cases hsame : existing.identity.server_id = node.identity.server_id
    · rw [if_pos hsame] at h ⊢
      split at h
      · cases h
      · rename_i hagreed
        -- the references are one in the second run too, by the condition
        have hregistry : existing'.registry = node'.registry := by
          refine hagree existing' List.mem_cons_self ?_
          rw [hexisting_identity, ← hidentity]
          exact hsame
        have hagreed' :
            ¬ (existing.identity ≠ node.identity ∨ existing'.registry ≠ node'.registry) := by
          intro hor
          rcases hor with hne | hne
          · exact hagreed (Or.inl hne)
          · exact hne hregistry
        have hexisting_levels : existing.evidence_levels = existing'.evidence_levels :=
          (congrArg EvidenceNodeV2.evidence_levels hexisting.symm :)
        rw [if_neg hagreed', ← Except.ok.inj h, ← hlevels, ← hexisting_levels]
        refine ⟨_, rfl, ?_⟩
        obtain ⟨registry, hsplit, hregistry_same⟩ :=
          EvidenceNodeV2.eq_of_without_checkpoint hexisting.symm
        rw [List.map_cons, List.map_cons, hrest, hsplit]
        show _ :: _ = _ :: _
        rw [EvidenceNodeV2.without_checkpoint, EvidenceNodeV2.without_checkpoint, hregistry_same]
    · rw [if_neg hsame] at h ⊢
      obtain ⟨merged_rest, hmerged, h⟩ := bind_eq_ok.mp h
      obtain ⟨merged_rest', hmerged', hsame'⟩ := ih hrest.symm
        (fun other hother => hagree other (List.mem_cons_of_mem _ hother)) hmerged
      rw [← Except.ok.inj h]
      refine ⟨existing' :: merged_rest', bind_eq_ok.mpr ⟨_, hmerged', rfl⟩, ?_⟩
      rw [List.map_cons, List.map_cons, hsame', hexisting]

/-- The same loop at other checkpoints: every record merged is one of `given`, and
these agree. -/
theorem merge_child_restated {given : List EvidenceStore.IdentityRecord} (hagreed : Agreed given)
    (hchild : child_nodes.map EvidenceNodeV2.without_checkpoint =
      child_nodes'.map EvidenceNodeV2.without_checkpoint)
    (hgiven : ∀ node' ∈ child_nodes', node'.identity.server_id ≠ skipped →
      node_record node' ∈ given) :
    ∀ {nodes nodes' : List EvidenceNodeV2},
      nodes.map EvidenceNodeV2.without_checkpoint =
        nodes'.map EvidenceNodeV2.without_checkpoint →
      (∀ record ∈ records nodes', record ∈ given) →
      merge_child_nodes skipped nodes child_nodes = .ok merged →
        ∃ merged', merge_child_nodes skipped nodes' child_nodes' = .ok merged' ∧
          merged.map EvidenceNodeV2.without_checkpoint =
            merged'.map EvidenceNodeV2.without_checkpoint := by
  induction child_nodes generalizing child_nodes' with
  | nil =>
    intro nodes nodes' hnodes _ h
    rw [List.map_nil] at hchild
    rw [List.map_eq_nil_iff.mp hchild.symm, ← Except.ok.inj h]
    exact ⟨nodes', rfl, hnodes⟩
  | cons node rest ih =>
    intro nodes nodes' hnodes hlisted h
    obtain ⟨node', rest', heq, hnode, hrest⟩ := List.map_eq_cons_iff.mp hchild.symm
    rw [heq] at hgiven ⊢
    have hidentity : node'.identity = node.identity := (congrArg EvidenceNodeV2.identity hnode :)
    have hgiven_rest : ∀ other ∈ rest', other.identity.server_id ≠ skipped →
        node_record other ∈ given := fun other hother => hgiven other (List.mem_cons_of_mem _ hother)
    unfold merge_child_nodes at h ⊢
    rw [hidentity]
    by_cases hskip : node.identity.server_id = skipped
    · rw [if_pos hskip] at h ⊢
      exact ih hrest.symm hgiven_rest hnodes hlisted h
    · rw [if_neg hskip] at h ⊢
      obtain ⟨between, hone, hlater⟩ := bind_eq_ok.mp h
      -- the node is one of the given records, so are those merged before
      have hnew : node_record node' ∈ given := by
        refine hgiven node' List.mem_cons_self ?_
        rw [hidentity]
        exact hskip
      obtain ⟨between', hone', hbetween⟩ := merge_node_restated hnodes hnode.symm
        (fun other hother hid =>
          hagreed _ (hlisted _ (List.mem_map_of_mem hother)) _ hnew hid) hone
      have hlisted' : ∀ record ∈ records between', record ∈ given := by
        intro record hrecord
        rcases (mem_records_merge hone').mp hrecord with hold | heq
        · exact hlisted record hold
        · rw [heq]
          exact hnew
      obtain ⟨merged', hmerged', hsame⟩ :=
        ih hrest.symm hgiven_rest hbetween hlisted' hlater
      exact ⟨merged', bind_eq_ok.mpr ⟨between', hone', hmerged'⟩, hsame⟩

end Merge

/-! ## §3. Two unfinished graphs. -/

/-- The unfinished graphs of the two builds: the same but for checkpoints, and the
second one made of records of `given`, with references and signatures in order. -/
structure Mirrored (P : Platform) (given : List EvidenceStore.IdentityRecord)
    (assembly assembly' : Assembly) : Prop where
  nodes : assembly.nodes.map EvidenceNodeV2.without_checkpoint =
    assembly'.nodes.map EvidenceNodeV2.without_checkpoint
  edges : assembly.edges.map ServerHopEvidenceV2.without_checkpoint =
    assembly'.edges.map ServerHopEvidenceV2.without_checkpoint
  children : assembly.terminal_cache_graphs.map QueryEvidenceGraphV2.without_checkpoints =
    assembly'.terminal_cache_graphs.map QueryEvidenceGraphV2.without_checkpoints
  answers : assembly.upstream_responses = assembly'.upstream_responses ∧
    assembly.upstream_timeouts = assembly'.upstream_timeouts
  listed : ∀ record ∈ records assembly'.nodes, record ∈ given
  /-- A reference is well formed by itself, or it is one of the first build's. -/
  shaped : ∀ record ∈ records assembly'.nodes,
    validate_registry_shape record.2 = .ok () ∨ record ∈ records assembly.nodes
  edges_listed : ∀ edge ∈ assembly'.edges, ∃ record ∈ given,
    record.1.server_id = edge.to_server_id ∧ record.2 = edge.registry
  /-- An edge is signed by itself, or it is one of the first build's. -/
  edges_signed : ∀ edge ∈ assembly'.edges, edge ∈ assembly.edges ∨
    ∃ identity agent, Holds assembly.nodes identity ∧
      identity.server_id = edge.from_server_id ∧ identity.agent = some agent ∧
        P.verify_ed25519 edge.to_value agent.public_key = .ok ()
  standing : ∀ child ∈ assembly'.terminal_cache_graphs, Standing P child

/-- An Agent signs with the key its own identity names, as `ready` checks. -/
def OwnKey (P : Platform) (config : AgentConfig) (given : List EvidenceStore.IdentityRecord) :
    Prop :=
  ∀ record ∈ given, record.1.server_id = config.server_id →
    ∀ agent, record.1.agent = some agent → KeyPair P config.private_key_b64 agent.public_key

/-- A downstream graph and what it is exchanged for. -/
structure Swapped (P : Platform) (given : List EvidenceStore.IdentityRecord)
    (child child' : QueryEvidenceGraphV2) : Prop where
  reissued : Reissued P child child'
  listed : ∀ record ∈ child_records child', record ∈ given

section Mirror

variable {P : Platform} {config : AgentConfig} {issuer_keys : IssuerKeyRegistry}
variable {given : List EvidenceStore.IdentityRecord}
variable {assembly assembly' merged : Assembly} {target : EvidenceStore.IdentityRecord}
variable {child child' : QueryEvidenceGraphV2} {nodes : List EvidenceNodeV2}

/-- This server's own node and edge go into both. -/
theorem Mirrored.add_target (h : Mirrored P given assembly assembly') (hagreed : Agreed given)
    (htarget : target ∈ given) {levels : List EvidenceLevel}
    (hmerge : merge_node assembly.nodes (evidence_node target levels) = .ok nodes) :
    ∃ nodes', merge_node assembly'.nodes (evidence_node target levels) = .ok nodes' ∧
      nodes.map EvidenceNodeV2.without_checkpoint =
        nodes'.map EvidenceNodeV2.without_checkpoint ∧
      ∀ edge : ServerHopEvidenceV2, edge.to_server_id = target.1.server_id →
        edge.registry = target.2 →
          Mirrored P given { assembly with nodes := nodes, edges := assembly.edges ++ [edge] }
            { assembly' with nodes := nodes', edges := assembly'.edges ++ [edge] } := by
  -- in the second run the node is the given record's too
  have hagree : ∀ other ∈ assembly'.nodes, other.identity.server_id = target.1.server_id →
      other.registry = target.2 := by
    intro other hother hid
    exact hagreed _ (h.listed _ (List.mem_map_of_mem hother)) _ htarget hid
  have hself : (evidence_node target levels).without_checkpoint =
      (evidence_node target levels).without_checkpoint := rfl
  obtain ⟨nodes', hmerge', hnodes⟩ := merge_node_restated h.nodes hself hagree hmerge
  refine ⟨nodes', hmerge', hnodes, ?_⟩
  intro edge hto hregistry
  constructor
  · exact hnodes
  · show (assembly.edges ++ [edge]).map _ = (assembly'.edges ++ [edge]).map _
    rw [List.map_append, List.map_append, h.edges]
  · exact h.children
  · exact h.answers
  · -- what is listed came from the given records
    intro record hrecord
    rcases (mem_records_merge hmerge').mp hrecord with hold | heq
    · exact h.listed record hold
    · rw [heq]
      exact htarget
  · intro record hrecord
    rcases (mem_records_merge hmerge').mp hrecord with hold | heq
    · refine (h.shaped record hold).imp_right ?_
      intro hfirst
      exact (mem_records_merge hmerge).mpr (Or.inl hfirst)
    · exact Or.inr ((mem_records_merge hmerge).mpr (Or.inr heq))
  · intro other hother
    rcases List.mem_append.mp hother with hold | hnew
    · exact h.edges_listed other hold
    · rw [List.mem_singleton.mp hnew]
      exact ⟨target, htarget, hto.symm, hregistry.symm⟩
  · intro other hother
    rcases List.mem_append.mp hother with hold | hnew
    · rcases h.edges_signed other hold with hfirst | hsigned
      · exact Or.inl (List.mem_append_left _ hfirst)
      · obtain ⟨identity, agent, hholds, hrest⟩ := hsigned
        exact Or.inr ⟨identity, agent, (holds_merge hmerge).mpr (Or.inl hholds), hrest⟩
    · exact Or.inl (List.mem_append_right _ hnew)
  · exact h.standing

/-- No edge of an accepted graph leads back to its entry. -/
theorem to_ne_entry_of_validate {policy : EvidencePolicy} {challenge : String} {now : Int}
    (h : validate_graph P policy issuer_keys child challenge now = .ok ())
    {edge : ServerHopEvidenceV2} (hedge : edge ∈ child.edges) :
    edge.to_server_id ≠ child.entry_server_id := by
  intro hback
  have hwalk : Walk child.edges child.entry_server_id edge.from_server_id :=
    reachable_of_validate h (ends_of_validate h hedge).1
  have hhop : Hop child.edges edge.from_server_id child.entry_server_id :=
    ⟨edge, hedge, rfl, hback⟩
  exact no_return_of_validate h (Relation.TransGen.tail' hwalk hhop)

/-- The identities of a downstream graph are those of the merged nodes. -/
theorem holds_of_child (hmerge : merge_child assembly target child = .ok merged)
    (htarget : Holds assembly.nodes target.1) {node : EvidenceNodeV2} {server_id : String}
    (hfind : find_node child.nodes server_id = some node) : Holds merged.nodes node.identity := by
  obtain ⟨hentry, ⟨entry, hfind_entry, hidentity, _⟩, nodes, hnodes, hmerged⟩ :=
    merge_child_iff.mp hmerge
  rw [hmerged, Assembly.with_child_nodes]
  obtain ⟨hmem, hid⟩ := find_node_eq_some hfind
  by_cases hskip : node.identity.server_id = target.1.server_id
  · -- the entry itself: its identity is the target's
    have hsame : node = entry := by
      rw [← hid, hskip, ← hentry, hfind_entry] at hfind
      exact (Option.some.inj hfind).symm
    rw [hsame, hidentity]
    exact holds_of_merge_child hnodes htarget
  · have hrecord : node_record node ∈ records nodes :=
      (mem_records_merge_child hnodes).mpr (Or.inr ⟨node, hmem, hskip, rfl⟩)
    obtain ⟨found, hfound, heq⟩ := List.mem_map.mp hrecord
    exact ⟨found, hfound, congrArg Prod.fst heq⟩

/-- A downstream graph goes into both. -/
theorem Mirrored.add_child (h : Mirrored P given assembly assembly')
    (hagreed : Agreed given) (htarget : Holds assembly.nodes target.1)
    (hswap : Swapped P given child child') {policy : EvidencePolicy} {challenge : String}
    {now : Int} (hvalid : validate_graph P policy issuer_keys child' challenge now = .ok ())
    (hmerge : merge_child assembly target child = .ok merged) :
    ∃ merged', merge_child assembly' target child' = .ok merged' ∧
      Mirrored P given merged merged' := by
  have hholds : ∀ {node : EvidenceNodeV2} {server_id : String},
      find_node child.nodes server_id = some node → Holds merged.nodes node.identity :=
    fun hfind => holds_of_child hmerge htarget hfind
  obtain ⟨hentry, ⟨entry, hfind, hidentity, hstate⟩, nodes, hnodes, hmerged⟩ :=
    merge_child_iff.mp hmerge
  obtain ⟨hsame, hstanding, hattached⟩ := hswap.reissued
  obtain ⟨provenance, _, _, _, _, hfields, hprovenance, hchildren, hchild_nodes, hchild_edges⟩ :=
    fields_of_same hsame
  have hentry_same : child'.entry_server_id = child.entry_server_id := by rw [hfields]
  have hnodes_same : child.nodes.map EvidenceNodeV2.without_checkpoint =
      child'.nodes.map EvidenceNodeV2.without_checkpoint := by
    rw [hfields]
    exact hchild_nodes
  have hedges_same : child.edges.map ServerHopEvidenceV2.without_checkpoint =
      child'.edges.map ServerHopEvidenceV2.without_checkpoint := by
    rw [hfields]
    exact hchild_edges
  have hchildren_same :
      child.terminal_cache_graphs.map QueryEvidenceGraphV2.without_checkpoints =
        child'.terminal_cache_graphs.map QueryEvidenceGraphV2.without_checkpoints := by
    rw [hfields]
    exact hchildren
  have hcached : child'.cache_provenance.isSome = child.cache_provenance.isSome := by
    have hisSome := congrArg Option.isSome hprovenance
    rw [Option.isSome_map, Option.isSome_map] at hisSome
    rw [hfields]
    exact hisSome.symm
  have hlisted : ∀ node' ∈ child'.nodes, node'.identity.server_id ≠ target.1.server_id →
      node_record node' ∈ given := by
    intro node' hnode' hne
    refine hswap.listed _ (List.mem_map_of_mem (List.mem_filter.mpr ⟨hnode', ?_⟩))
    rw [hentry_same, hentry]
    exact decide_eq_true hne
  obtain ⟨nodes', hnodes', hmerged_same⟩ :=
    merge_child_restated hagreed hnodes_same hlisted h.nodes h.listed hnodes
  obtain ⟨entry', hfind', hentry'⟩ := find_node_transfer hnodes_same.symm hfind
  have hidentity' : entry'.identity = target.1 :=
    (congrArg EvidenceNodeV2.identity hentry' :).trans hidentity
  have hstate' : entry'.registry.same_registry_state target.2 =
      entry.registry.same_registry_state target.2 :=
    same_registry_state_congr (congrArg EvidenceNodeV2.registry hentry' :) rfl
  refine ⟨assembly'.with_child nodes' child', merge_child_iff.mpr ⟨hentry_same.trans hentry,
    ⟨entry', ?_, hidentity', hstate'.trans hstate⟩, nodes', hnodes', rfl⟩, ?_⟩
  · rw [hentry_same]
    exact hfind'
  -- what holds of the nodes, whatever kind of graph the child is
  have hlisted' : ∀ record ∈ records nodes', record ∈ given := by
    intro record hrecord
    rcases (mem_records_merge_child hnodes').mp hrecord with hold | hnew
    · exact h.listed record hold
    · obtain ⟨node', hnode', hne, heq⟩ := hnew
      rw [heq]
      exact hlisted node' hnode' hne
  have hshaped : ∀ record ∈ records nodes', validate_registry_shape record.2 = .ok () ∨
      record ∈ records nodes := by
    intro record hrecord
    rcases (mem_records_merge_child hnodes').mp hrecord with hold | hnew
    · refine (h.shaped record hold).imp_right ?_
      intro hfirst
      exact (mem_records_merge_child hnodes).mpr (Or.inl hfirst)
    · obtain ⟨node', hnode', _, heq⟩ := hnew
      rw [heq]
      exact Or.inl (hstanding.shapes node' hnode')
  have hkept : ∀ identity, Holds assembly.nodes identity → Holds nodes identity :=
    fun identity hold => holds_of_merge_child hnodes hold
  have hsigned : ∀ edge ∈ assembly'.edges, edge ∈ assembly.edges ∨
      ∃ identity agent, Holds nodes identity ∧ identity.server_id = edge.from_server_id ∧
        identity.agent = some agent ∧ P.verify_ed25519 edge.to_value agent.public_key = .ok () := by
    intro edge hedge
    refine (h.edges_signed edge hedge).imp_right ?_
    intro hold
    obtain ⟨identity, agent, hidentity, hrest⟩ := hold
    exact ⟨identity, agent, hkept identity hidentity, hrest⟩
  unfold Assembly.with_child
  rw [hmerged] at hholds ⊢
  rw [Assembly.with_child_nodes] at hholds
  unfold Assembly.with_child
  rw [hcached]
  by_cases hcache : child.cache_provenance.isSome = true
  · -- a cache graph is kept as a whole
    rw [if_pos hcache, if_pos hcache]
    refine ⟨hmerged_same, h.edges, ?_, h.answers, hlisted', hshaped, h.edges_listed, hsigned,
      ?_⟩
    · show (assembly.terminal_cache_graphs ++ [child]).map _ =
        (assembly'.terminal_cache_graphs ++ [child']).map _
      rw [List.map_append, List.map_append, h.children, List.map_singleton, List.map_singleton,
        hsame]
    · intro other hother
      rcases List.mem_append.mp hother with hold | hnew
      · exact h.standing other hold
      · rw [List.mem_singleton.mp hnew]
        exact hstanding
  · -- of a resolution the edges go in, and the graphs attached to it
    rw [if_neg hcache, if_neg hcache]
    refine ⟨hmerged_same, ?_, ?_, h.answers, hlisted', hshaped, ?_, ?_, ?_⟩
    · show (assembly.edges ++ child.edges).map _ = (assembly'.edges ++ child'.edges).map _
      rw [List.map_append, List.map_append, h.edges, hedges_same]
    · show (assembly.terminal_cache_graphs ++ child.terminal_cache_graphs).map _ =
        (assembly'.terminal_cache_graphs ++ child'.terminal_cache_graphs).map _
      rw [List.map_append, List.map_append, h.children, hchildren_same]
    · intro edge hedge
      rcases List.mem_append.mp hedge with hold | hnew
      · exact h.edges_listed edge hold
      · obtain ⟨_, found, _, hends⟩ :=
          ((validate_edges_iff.mp (accepted_of_validate hvalid).edges).1 edge hnew).ends
        obtain ⟨hmem, hid⟩ := find_node_eq_some hends.found_target
        refine ⟨node_record found, ?_, hid, hends.registry.symm⟩
        refine hlisted found hmem ?_
        show found.identity.server_id ≠ target.1.server_id
        rw [hid, ← hentry, ← hentry_same]
        exact to_ne_entry_of_validate hvalid hnew
    · intro edge hedge
      rcases List.mem_append.mp hedge with hold | hnew
      · exact (hsigned edge hold).imp_left (fun hfirst => List.mem_append_left _ hfirst)
      · obtain ⟨source, _, agent, hends⟩ :=
          ((validate_edges_iff.mp (accepted_of_validate hvalid).edges).1 edge hnew).ends
        obtain ⟨first, hfirst, heq⟩ := find_node_transfer hnodes_same hends.found_source
        have hsource : first.identity = source.identity :=
          (congrArg EvidenceNodeV2.identity heq :)
        refine Or.inr ⟨source.identity, agent, hsource ▸ hholds hfirst,
          (find_node_eq_some hends.found_source).2, hends.bound_agent, hends.signed⟩
    · intro other hother
      rcases List.mem_append.mp hother with hold | hnew
      · exact h.standing other hold
      · exact hattached other hnew

/-- Sorting looks at the names only. -/
theorem map_insertionSort_congr {α : Type} {f : α → α} {key : α → String}
    (hkey : ∀ item, key (f item) = key item) (items : List α) :
    (items.insertionSort (fun left right => key left ≤ key right)).map f =
      (items.map f).insertionSort (fun left right => key left ≤ key right) := by
  refine List.map_insertionSort _ _ f items ?_
  intro a _ b _
  rw [hkey, hkey]

theorem terminal_nodes_without_checkpoint (nodes : List EvidenceNodeV2)
    (edges : List ServerHopEvidenceV2) (entry_server_id : String) :
    terminal_nodes (nodes.map EvidenceNodeV2.without_checkpoint)
        (edges.map ServerHopEvidenceV2.without_checkpoint) entry_server_id =
      terminal_nodes nodes edges entry_server_id := by
  unfold terminal_nodes
  simp only [List.map_map, List.any_map]
  rfl

theorem aggregate_without_checkpoints (nodes : List EvidenceNodeV2)
    (edges : List ServerHopEvidenceV2) (children : List QueryEvidenceGraphV2) :
    aggregate_dnssec_status (edges.map ServerHopEvidenceV2.without_checkpoint)
        (nodes.map EvidenceNodeV2.without_checkpoint)
        (children.map QueryEvidenceGraphV2.without_checkpoints) =
      aggregate_dnssec_status edges nodes children := by
  have hnodes : (nodes.map EvidenceNodeV2.without_checkpoint).any
      (fun node => node.identity.role.is_authority) =
        nodes.any (fun node => node.identity.role.is_authority) := by
    rw [List.any_map]
    rfl
  unfold aggregate_dnssec_status
  rw [hnodes, any_requires_without_checkpoints, path_status_without_checkpoints]

/-- The finished graphs are the same up to Registry references. -/
theorem Mirrored.resolved (h : Mirrored P given assembly assembly')
    (request : EvidenceGraphRequest) (now : Int) :
    (resolved_graph config request now assembly).without_checkpoints =
      (resolved_graph config request now assembly').without_checkpoints := by
  have hentry : ∀ child : QueryEvidenceGraphV2,
      child.without_checkpoints.entry_server_id = child.entry_server_id := by
    intro child
    rw [without_checkpoints_eq]
  have hnode_id : ∀ node : EvidenceNodeV2,
      node.without_checkpoint.identity.server_id = node.identity.server_id := fun _ => rfl
  have hedge_id : ∀ edge : ServerHopEvidenceV2,
      edge.without_checkpoint.edge_id = edge.edge_id := fun _ => rfl
  have hstatus : aggregate_dnssec_status assembly.edges assembly.nodes
      assembly.terminal_cache_graphs = aggregate_dnssec_status assembly'.edges assembly'.nodes
        assembly'.terminal_cache_graphs := by
    rw [← aggregate_without_checkpoints, h.nodes, h.edges, h.children,
      aggregate_without_checkpoints]
  have hterminals : terminal_nodes assembly.nodes assembly.edges config.server_id =
      terminal_nodes assembly'.nodes assembly'.edges config.server_id := by
    rw [← terminal_nodes_without_checkpoint, h.nodes, h.edges, terminal_nodes_without_checkpoint]
  rw [without_checkpoints_eq, without_checkpoints_eq]
  unfold resolved_graph
  simp only [QueryEvidenceGraphV2.mk.injEq, true_and, and_true]
  refine ⟨hstatus, ?_, ?_, ?_, hterminals⟩
  · rw [map_insertionSort_congr hentry, map_insertionSort_congr hentry, h.children]
  · rw [map_insertionSort_congr hnode_id, map_insertionSort_congr hnode_id, h.nodes]
  · rw [map_insertionSort_congr hedge_id, map_insertionSort_congr hedge_id, h.edges]

theorem without_checkpoints_signed (graph : QueryEvidenceGraphV2) (signature : Option String) :
    { graph with signature := signature }.without_checkpoints = graph.without_checkpoints := by
  rw [without_checkpoints_eq, without_checkpoints_eq]

/-- In an accepted graph the node of an identity is the one found under its name. -/
theorem identity_of_find {policy : EvidencePolicy} {graph : QueryEvidenceGraphV2}
    {challenge : String} {now : Int}
    (h : validate_graph P policy issuer_keys graph challenge now = .ok ())
    {identity : DnsServerIdentityV2} (hholds : Holds graph.nodes identity) {node : EvidenceNodeV2}
    (hfind : find_node graph.nodes identity.server_id = some node) : node.identity = identity := by
  obtain ⟨found, hmem, hidentity⟩ := hholds
  have hfound := find_node_of_mem (nodup_of_validate h) hmem
  rw [hidentity, hfind] at hfound
  rw [Option.some.inj hfound]
  exact hidentity

/-- The second build signs a graph that stands. -/
theorem Mirrored.finished (h : Mirrored P given assembly assembly')
    (hagreed : Agreed given) (hkeys : OwnKey P config given)
    {request : EvidenceGraphRequest} {now : Int} {graph : QueryEvidenceGraphV2}
    (hsign : sign_graph P config (resolved_graph config request now assembly) = .ok graph)
    {policy : EvidencePolicy} {challenge : String} {clock : Int}
    (hvalid : validate_graph P policy issuer_keys graph challenge clock = .ok ()) :
    ∃ graph', sign_graph P config (resolved_graph config request now assembly') = .ok graph' ∧
      Reissued P graph graph' := by
  obtain ⟨signature, _, hgraph⟩ := bind_eq_ok.mp hsign
  have hgraph := Except.ok.inj hgraph
  have hnodes : ∀ node, node ∈ graph.nodes ↔ node ∈ assembly.nodes := by
    intro node
    rw [← hgraph]
    exact List.mem_insertionSort _
  have hedges : ∀ edge, edge ∈ graph.edges ↔ edge ∈ assembly.edges := by
    intro edge
    rw [← hgraph]
    exact List.mem_insertionSort _
  have hholds : ∀ identity, Holds assembly.nodes identity → Holds graph.nodes identity := by
    intro identity hold
    obtain ⟨node, hmem, hidentity⟩ := hold
    exact ⟨node, (hnodes node).mpr hmem, hidentity⟩
  have hentry_id : graph.entry_server_id = config.server_id := by
    rw [← hgraph]
    rfl
  -- the entry is this server's own node, and its Agent's key is the one signed with
  have hentry := (accepted_of_validate hvalid).entry
  unfold validate_entry at hentry
  simp only [bind_eq_ok, exists_unit, rejectIf_eq_ok, okOr_eq_ok] at hentry
  obtain ⟨entry, hfind, agent, hagent, _⟩ := hentry
  rw [hentry_id] at hfind
  obtain ⟨hentry_mem, hentry_name⟩ := find_node_eq_some hfind
  obtain ⟨own, hown_mem, hown⟩ := mem_transfer h.nodes.symm ((hnodes entry).mp hentry_mem)
  have hown_identity : own.identity = entry.identity := (congrArg EvidenceNodeV2.identity hown :)
  have hpair : KeyPair P config.private_key_b64 agent.public_key := by
    refine hkeys _ (h.listed _ (List.mem_map_of_mem hown_mem)) ?_ agent ?_
    · show own.identity.server_id = _
      rw [hown_identity, hentry_name]
    · show own.identity.agent = _
      rw [hown_identity, hagent]
  obtain ⟨signature', hsignature'⟩ := hpair.signs (resolved_graph config request now assembly').to_value
  let graph' : QueryEvidenceGraphV2 :=
    { resolved_graph config request now assembly' with signature := some signature' }
  have hsame : graph.without_checkpoints = graph'.without_checkpoints := by
    rw [← hgraph, without_checkpoints_signed, without_checkpoints_signed]
    exact h.resolved request now
  have hnodes' : ∀ node, node ∈ graph'.nodes ↔ node ∈ assembly'.nodes :=
    fun node => List.mem_insertionSort _
  have hedges' : ∀ edge, edge ∈ graph'.edges ↔ edge ∈ assembly'.edges :=
    fun edge => List.mem_insertionSort _
  have hnodes_same : graph.nodes.map EvidenceNodeV2.without_checkpoint =
      graph'.nodes.map EvidenceNodeV2.without_checkpoint := by
    have hfields := hsame
    rw [without_checkpoints_eq, without_checkpoints_eq] at hfields
    exact (congrArg QueryEvidenceGraphV2.nodes hfields :)
  -- what is found in the second graph has the identity found in the first
  have hfound : ∀ {server_id node'}, find_node graph'.nodes server_id = some node' →
      ∃ node, find_node graph.nodes server_id = some node ∧ node.identity = node'.identity := by
    intro server_id node' hfind'
    obtain ⟨node, hnode, heq⟩ := find_node_transfer hnodes_same hfind'
    exact ⟨node, hnode, (congrArg EvidenceNodeV2.identity heq :)⟩
  have hgood := accepted_of_validate hvalid
  refine ⟨graph', bind_eq_ok.mpr ⟨signature', mapError_eq_ok.mpr hsignature', rfl⟩, hsame, ?_, ?_⟩
  · refine ⟨⟨?_, ?_, ?_⟩, ⟨?_, ?_⟩⟩
    · intro node' hnode'
      have hrecord : node_record node' ∈ records assembly'.nodes :=
        List.mem_map_of_mem ((hnodes' node').mp hnode')
      rcases h.shaped _ hrecord with hshape | hfirst
      · exact hshape
      · obtain ⟨node, hnode, heq⟩ := List.mem_map.mp hfirst
        have hregistry : node.registry = node'.registry := congrArg Prod.snd heq
        rw [← hregistry]
        exact ((validate_nodes_iff.mp hgood.nodes).1 node ((hnodes node).mpr hnode)).registry_shape
    · intro edge hedge target htarget
      obtain ⟨record, hrecord, hname, hregistry⟩ := h.edges_listed edge ((hedges' edge).mp hedge)
      obtain ⟨hmem, hto⟩ := find_node_eq_some htarget
      have hlisted := h.listed _ (List.mem_map_of_mem ((hnodes' target).mp hmem))
      rw [← hregistry]
      exact hagreed record hrecord _ hlisted (hname.trans hto.symm)
    · intro provenance hprovenance
      cases hprovenance
    · intro edge hedge source key hsource hkey
      obtain ⟨first, hfirst, hidentity⟩ := hfound hsource
      rcases h.edges_signed edge ((hedges' edge).mp hedge) with hown_edge | hsigned
      · obtain ⟨found, _, agent₁, hends⟩ :=
          ((validate_edges_iff.mp hgood.edges).1 edge ((hedges edge).mpr hown_edge)).ends
        have hagent₁ := hends.bound_agent
        rw [Option.some.inj (hends.found_source.symm.trans hfirst), hidentity, hkey] at hagent₁
        rw [Option.some.inj hagent₁]
        exact hends.signed
      · obtain ⟨identity, agent₁, hheld, hname, hagent₁, hverified⟩ := hsigned
        rw [← hname] at hfirst
        have hsame_identity := identity_of_find hvalid (hholds _ hheld) hfirst
        rw [← hsame_identity, hidentity, hkey] at hagent₁
        rw [Option.some.inj hagent₁]
        exact hverified
    · intro entry' key hentry' hkey
      obtain ⟨first, hfirst, hidentity⟩ := hfound hentry'
      have hname : graph'.entry_server_id = config.server_id := rfl
      rw [hname, hfind] at hfirst
      rw [← hidentity, ← Option.some.inj hfirst, hagent] at hkey
      rw [← Option.some.inj hkey]
      exact hpair.verifies_graph hsignature'
  · intro child hchild
    exact h.standing child ((List.mem_insertionSort _).mp hchild)

end Mirror

end ResolverIdentity.Agent
