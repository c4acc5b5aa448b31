/-
  ResolverIdentity.Agent.Merging: what goes into a graph under construction.

  A node is merged with the one of its server that is there, if it is the same record;
  a downstream graph goes in with all its nodes but the entry, and with its edges or,
  answered from a cache, as a whole.

  Main results:
    * `mem_records_merge`, `mem_records_merge_child`: the records after a merge;
    * `merge_child_iff`: when a downstream graph goes in, and what comes out.
-/
import ResolverIdentity.Agent.BuiltGraph

namespace ResolverIdentity.Agent

open Library Store

/-! ## §1. Records. -/

/-- A node as a record of the store. -/
def node_record (node : EvidenceNodeV2) : EvidenceStore.IdentityRecord :=
  (node.identity, node.registry)

/-- The records of all nodes. -/
abbrev records (nodes : List EvidenceNodeV2) : List EvidenceStore.IdentityRecord :=
  nodes.map node_record

section Merge

variable {nodes merged child_nodes : List EvidenceNodeV2} {node : EvidenceNodeV2}
variable {skipped : String} {record : EvidenceStore.IdentityRecord}

/-- A merge adds the record of the new node, if it was not there. -/
theorem mem_records_merge (h : merge_node nodes node = .ok merged) :
    record ∈ records merged ↔ record ∈ records nodes ∨ record = node_record node := by
  induction nodes generalizing merged with
  | nil =>
    rw [← Except.ok.inj h, records, List.map_singleton, List.mem_singleton]
    exact ⟨Or.inr, fun h => h.resolve_left List.not_mem_nil⟩
  | cons existing rest ih =>
    unfold merge_node at h
    by_cases hsame : existing.identity.server_id = node.identity.server_id
    · rw [if_pos hsame] at h
      split at h
      · cases h
      · rename_i hagree
        have hrecord : node_record existing = node_record node := by
          have hidentity := of_not_not (fun hne => hagree (Or.inl hne))
          have hregistry := of_not_not (fun hne => hagree (Or.inr hne))
          exact Prod.ext hidentity hregistry
        rw [← Except.ok.inj h, ← hrecord]
        show record ∈ node_record existing :: records rest ↔
          record ∈ node_record existing :: records rest ∨ _
        constructor
        · exact Or.inl
        · intro hor
          rcases hor with hold | hnew
          · exact hold
          · rw [hnew]
            exact List.mem_cons_self
    · rw [if_neg hsame] at h
      obtain ⟨merged_rest, hmerged, h⟩ := bind_eq_ok.mp h
      rw [← Except.ok.inj h]
      show record ∈ node_record existing :: records merged_rest ↔
        record ∈ node_record existing :: records rest ∨ _
      rw [List.mem_cons, List.mem_cons, ih hmerged, or_assoc]

/-- The loop adds the records of all nodes but the skipped one. -/
theorem mem_records_merge_child :
    ∀ {nodes : List EvidenceNodeV2},
      merge_child_nodes skipped nodes child_nodes = .ok merged →
        (record ∈ records merged ↔ record ∈ records nodes ∨
          ∃ node ∈ child_nodes, node.identity.server_id ≠ skipped ∧ record = node_record node) := by
  induction child_nodes with
  | nil =>
    intro nodes h
    rw [Except.ok.inj h]
    exact ⟨Or.inl, fun h => h.resolve_right (fun ⟨_, hmem, _⟩ => by cases hmem)⟩
  | cons node rest ih =>
    intro nodes h
    unfold merge_child_nodes at h
    by_cases hskip : node.identity.server_id = skipped
    · rw [if_pos hskip] at h
      rw [ih h]
      refine or_congr_right ?_
      constructor
      · intro hrest
        obtain ⟨found, hfound, hne, heq⟩ := hrest
        exact ⟨found, List.mem_cons_of_mem _ hfound, hne, heq⟩
      · intro hall
        obtain ⟨found, hfound, hne, heq⟩ := hall
        rcases List.mem_cons.mp hfound with hfirst | hrest
        · exact absurd (hfirst ▸ hskip) hne
        · exact ⟨found, hrest, hne, heq⟩
    · rw [if_neg hskip] at h
      obtain ⟨between, hone, hrest⟩ := bind_eq_ok.mp h
      rw [ih hrest, mem_records_merge hone, or_assoc]
      refine or_congr_right ?_
      constructor
      · intro hor
        rcases hor with heq | hlater
        · exact ⟨node, List.mem_cons_self, hskip, heq⟩
        · obtain ⟨found, hfound, hne, heq⟩ := hlater
          exact ⟨found, List.mem_cons_of_mem _ hfound, hne, heq⟩
      · intro hall
        obtain ⟨found, hfound, hne, heq⟩ := hall
        rcases List.mem_cons.mp hfound with hfirst | hlater
        · exact Or.inl (hfirst ▸ heq)
        · exact Or.inr ⟨found, hlater, hne, heq⟩

end Merge

/-! ## §2. Downstream graphs. -/

/-- The graph under construction with a downstream graph in it, its nodes merged. -/
def Assembly.with_child (assembly : Assembly) (nodes : List EvidenceNodeV2)
    (child : QueryEvidenceGraphV2) : Assembly :=
  if child.cache_provenance.isSome then
    { assembly with
      nodes := nodes
      terminal_cache_graphs := assembly.terminal_cache_graphs ++ [child] }
  else
    { assembly with
      nodes := nodes
      edges := assembly.edges ++ child.edges
      terminal_cache_graphs := assembly.terminal_cache_graphs ++ child.terminal_cache_graphs }

section Child

variable {assembly merged : Assembly} {target : EvidenceStore.IdentityRecord}
variable {child : QueryEvidenceGraphV2} {nodes : List EvidenceNodeV2}

@[simp] theorem Assembly.with_child_nodes : (assembly.with_child nodes child).nodes = nodes := by
  unfold with_child
  split <;> rfl

/-- A downstream graph goes in when its entry is the target and its nodes merge. -/
theorem merge_child_iff :
    merge_child assembly target child = .ok merged ↔
      child.entry_server_id = target.1.server_id ∧
        (∃ entry, find_node child.nodes child.entry_server_id = some entry ∧
          entry.identity = target.1 ∧ entry.registry.same_registry_state target.2 = true) ∧
        ∃ nodes, merge_child_nodes target.1.server_id assembly.nodes child.nodes = .ok nodes ∧
          merged = assembly.with_child nodes child := by
  unfold merge_child
  simp only [bind_eq_ok, rejectIf_eq_ok, okOr_eq_ok, Bool.or_eq_false_iff, bne_eq_false_iff_eq,
    decide_eq_false_iff_not, not_not, Bool.not_eq_false', Except.ok.injEq]
  constructor
  · intro h
    obtain ⟨_, hentry, entry, hfind, _, hsame, nodes, hnodes, hmerged⟩ := h
    exact ⟨hentry, ⟨entry, hfind, hsame⟩, nodes, hnodes, hmerged.symm⟩
  · intro h
    obtain ⟨hentry, ⟨entry, hfind, hsame⟩, nodes, hnodes, hmerged⟩ := h
    exact ⟨(), hentry, entry, hfind, (), hsame, nodes, hnodes, hmerged.symm⟩

end Child

end ResolverIdentity.Agent
