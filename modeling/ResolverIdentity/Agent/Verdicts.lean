/-
  ResolverIdentity.Agent.Verdicts: whose DNSSEC verdict a graph carries.

  The anchor's verdict stands for the whole resolution of this server: it decides
  whether a direct target gets DNSSEC evidence.  Merging a downstream graph adds
  that graph's levels to a node both servers have reached, and the status of the
  graph is then read off the nodes, edge by edge.

  Main results:
    * `own_authority_iff`: a returned graph has an authority edge of this server
      exactly when an authority was looked up;
    * `verdict_kept_iff`: in a returned graph the status `SECURE` of this server's
      own authority edges means a secure anchor, unless every authority it looked
      up has DNSSEC evidence in a downstream graph.
-/
import ResolverIdentity.Agent.BuiltGraph
import ResolverIdentity.Agent.Surroundings

namespace ResolverIdentity.Agent

open Library Store TraceEvents

/-! ## §1. The law and the condition. -/

/-- The entry server itself has an edge to an authority. -/
def OwnAuthorityEdge (graph : QueryEvidenceGraphV2) : Prop :=
  ∃ edge ∈ graph.edges, edge.from_server_id = graph.entry_server_id ∧
    ∃ node, find_node graph.nodes edge.to_server_id = some node ∧
      node.identity.role.is_authority = true

/-- With authority edges of its own, a secure graph has a secure anchor. -/
def VerdictKept (anchor : TraceEventV2) (graph : QueryEvidenceGraphV2) : Prop :=
  OwnAuthorityEdge graph → graph.dnssec_status = .secure → anchor.dnssec_status = .secure

/-- The anchor is secure, or no authority was looked up, or one of those looked up has
DNSSEC evidence in no downstream graph. -/
def VerdictOwn (o : Observed) (anchor : TraceEventV2) : Prop :=
  anchor.dnssec_status = .secure ∨
    (∀ target ∈ o.targets, target.2.1.role.is_authority = false) ∨
      ∃ target ∈ o.targets, target.2.1.role.is_authority = true ∧
        ∀ child ∈ o.children, ¬ Validated child.nodes target.2.1.server_id

/-! ## §2. Authorities of a returned graph. -/

section Authorities

variable {P : Platform} {config : AgentConfig} {issuer_keys : IssuerKeyRegistry}
variable {request : EvidenceGraphRequest} {o : Observed} {status : DnssecStatus}
variable {assembly : Assembly} {graph : QueryEvidenceGraphV2} {now : Int}
variable {target : String × EvidenceStore.IdentityRecord}

/-- A looked-up target is a node of the returned graph, found under its id. -/
theorem find_target (h : Assembled P config issuer_keys status o assembly)
    (hfinished : Finished P config issuer_keys request now
      (resolved_graph config request now assembly) graph) (htarget : target ∈ o.targets) :
    ∃ node, find_node graph.nodes target.2.1.server_id = some node ∧
      node.identity = target.2.1 := by
  obtain ⟨⟨node, hnode, hidentity⟩, _⟩ := h.targets target htarget
  refine ⟨node, ?_, hidentity⟩
  rw [← hidentity]
  exact find_node_of_mem (nodup_of_validate hfinished.valid)
    ((mem_resolved_nodes hfinished).mpr hnode)

/-- The edge this server signed for a looked-up target. -/
theorem target_edge (h : Assembled P config issuer_keys status o assembly)
    (hfinished : Finished P config issuer_keys request now
      (resolved_graph config request now assembly) graph) (htarget : target ∈ o.targets) :
    ∃ edge ∈ graph.edges, edge.from_server_id = graph.entry_server_id ∧
      edge.to_server_id = target.2.1.server_id := by
  obtain ⟨_, edge, hedge, hfrom, hto⟩ := h.targets target htarget
  refine ⟨edge, (mem_resolved_edges hfinished).mpr hedge, ?_, hto⟩
  rw [hfrom, resolved_entry hfinished]

theorem own_authority_iff (h : Assembled P config issuer_keys status o assembly)
    (hfinished : Finished P config issuer_keys request now
      (resolved_graph config request now assembly) graph) :
    OwnAuthorityEdge graph ↔ ∃ target ∈ o.targets, target.2.1.role.is_authority = true := by
  constructor
  · intro hown
    obtain ⟨edge, hedge, hfrom, node, hfind, hauthority⟩ := hown
    obtain ⟨target, htarget, hto⟩ := own_edges_looked_up h hfinished hedge hfrom
    obtain ⟨found, hfound, hidentity⟩ := find_target h hfinished htarget
    -- both lookups are of one id
    rw [hto, hfound] at hfind
    obtain rfl := Option.some.inj hfind
    refine ⟨target, htarget, ?_⟩
    rw [← hidentity]
    exact hauthority
  · intro hlooked
    obtain ⟨target, htarget, hauthority⟩ := hlooked
    obtain ⟨edge, hedge, hfrom, hto⟩ := target_edge h hfinished htarget
    obtain ⟨node, hfind, hidentity⟩ := find_target h hfinished htarget
    refine ⟨edge, hedge, hfrom, node, ?_, ?_⟩
    · rw [hto]
      exact hfind
    · rw [hidentity]
      exact hauthority

/-- The validator only lets a graph with an authority pass when it is secure, so every
authority looked up has DNSSEC evidence there. -/
theorem secure_and_validated (h : Assembled P config issuer_keys status o assembly)
    (hfinished : Finished P config issuer_keys request now
      (resolved_graph config request now assembly) graph) (htarget : target ∈ o.targets)
    (hauthority : target.2.1.role.is_authority = true) :
    graph.dnssec_status = .secure ∧ Validated graph.nodes target.2.1.server_id := by
  obtain ⟨node, hfind, hidentity⟩ := find_target h hfinished htarget
  obtain ⟨edge, hedge, _, hto⟩ := target_edge h hfinished htarget
  obtain ⟨hmem, hid⟩ := find_node_eq_some hfind
  have hrole : node.identity.role.is_authority = true := by
    rw [hidentity]
    exact hauthority
  have hany : graph.nodes.any (fun node => node.identity.role.is_authority) = true :=
    List.any_eq_true.mpr ⟨node, hmem, hrole⟩
  obtain ⟨hsecure, hdirect⟩ := summary_of_validate hfinished.valid
    (VerificationMode.policy_requires_dnssec config.mode) hany
  rw [← hto] at hfind
  exact ⟨hsecure, node, hmem, hid, validated_of_direct_secure hdirect hedge hfind hrole⟩

/-- What validates a looked-up authority is the anchor or a downstream graph. -/
theorem secure_or_below (h : Assembled P config issuer_keys status o assembly)
    (hfinished : Finished P config issuer_keys request now
      (resolved_graph config request now assembly) graph) (htarget : target ∈ o.targets)
    (hauthority : target.2.1.role.is_authority = true) :
    status = .secure ∨ ∃ child ∈ o.children, Validated child.nodes target.2.1.server_id := by
  obtain ⟨node, hmem, hlevel⟩ := (secure_and_validated h hfinished htarget hauthority).2
  exact h.validated _ ⟨node, (mem_resolved_nodes hfinished).mp hmem, hlevel⟩

end Authorities

/-! ## §3. Every returned graph. -/

section Returned

variable {P : Platform} {config : AgentConfig} {issuer_keys : IssuerKeyRegistry}
variable {request : EvidenceGraphRequest} {require_registered_context : Bool}

/-- A resolved graph. -/
theorem verdict_kept_resolved {o : Observed} {anchor : TraceEventV2} {assembly : Assembly}
    {graph : QueryEvidenceGraphV2} {now : Int}
    (h : Assembled P config issuer_keys anchor.dnssec_status o assembly)
    (hfinished : Finished P config issuer_keys request now
      (resolved_graph config request now assembly) graph) :
    VerdictKept anchor graph ↔ VerdictOwn o anchor := by
  constructor
  · intro hkept
    by_cases hauthority : ∃ target ∈ o.targets, target.2.1.role.is_authority = true
    · -- the graph is secure, so the anchor is
      obtain ⟨target, htarget, hrole⟩ := hauthority
      exact Or.inl (hkept ((own_authority_iff h hfinished).mpr ⟨target, htarget, hrole⟩)
        (secure_and_validated h hfinished htarget hrole).1)
    · refine Or.inr (Or.inl ?_)
      intro target htarget
      exact Bool.eq_false_iff.mpr (fun hrole => hauthority ⟨target, htarget, hrole⟩)
  · intro hown hedge _
    obtain ⟨target, htarget, hrole⟩ := (own_authority_iff h hfinished).mp hedge
    rcases hown with hsecure | hnone | hunvalidated
    · exact hsecure
    · rw [hnone target htarget] at hrole
      cases hrole
    · -- the authority without evidence below has it from the anchor
      obtain ⟨other, hother, hrole', hbelow⟩ := hunvalidated
      rcases secure_or_below h hfinished hother hrole' with hsecure | hchild
      · exact hsecure
      · obtain ⟨child, hmem, hvalidated⟩ := hchild
        exact absurd hvalidated (hbelow child hmem)

/-- Every build that returns a graph had an anchor, and the graph keeps its verdict
exactly when the status of this server's authorities is its own. -/
theorem verdict_kept_iff {τ : List (Prog.Event AgentOp AgentRes)} {graph : QueryEvidenceGraphV2}
    (h : Prog.Exec
      (build_graph_with_context P config issuer_keys request require_registered_context) τ
      (.ok graph)) :
    ∃ anchor, (observed request τ).anchor = some anchor ∧
      (VerdictKept anchor graph ↔ VerdictOwn (observed request τ) anchor) := by
  obtain ⟨⟨anchor, hanchor⟩, hbuilt⟩ := built_of_exec h
  refine ⟨anchor, hanchor, ?_⟩
  cases hbuilt with
  | resolved now anchor' assembly hanchor' hassembled hfinished =>
    obtain rfl : anchor = anchor' := Option.some.inj (hanchor.symm.trans hanchor')
    exact verdict_kept_resolved hassembled hfinished
  | hit source provenance hhit =>
    -- a cache graph has no edges, and nothing was looked up for it
    refine iff_of_true ?_ ?_
    · intro hown
      obtain ⟨edge, hedge, _⟩ := hown
      obtain ⟨now, self_record, hfinished⟩ := hhit.finished
      obtain ⟨signature, rfl⟩ := hfinished.signed
      cases hedge
    · refine Or.inr (Or.inl ?_)
      rw [hhit.nothing_looked_up]
      intro target htarget
      cases htarget

end Returned

/-! ## §4. A verdict from below. -/

/-- The recorded results of the exchange below. -/
def verdict_recording : Recording :=
  lab_recording
    [(answer_text (digest_of 'c'),
        "0xd79df96822c17ac2d45db0a7e9a0f7a6fa98a1f3ceb8b6a2ee6040b8a3157ead"),
      (answer_text (digest_of '7'),
        "0xe5f8d85b8f5beaed923afe121603fa933d89e81aa7b1f1ca53c727b87360281a")]
    [(agent_key_a, edge_text "trace-0/2",
        "3H3cEGS6HUx5jeXL93fzUMtxT+gy35zN4yBB1fonDU2ifGituv5WyuIdQwJfVRJldeDmnv9vQXs8fVoKFG4/Dw=="),
      (agent_key_a, edge_text "trace-0/4",
        "Fbl5T38S4kkppX30VHtlb3VYl7SiGKwUmRCJHOD+EOhsdCyEHY9mz6v5zKudglS+FuSV1cXiz32ts2IEILXjAg=="),
      (agent_key_a, "\x7b\"challenge\"",
        "ujXoi1a31XkKXrT0RhXzDqdzLXw4adbunKG1YjfLv3uNwl/aaxDwSauBqVo9pXhOSadGXepvVoAXWQfmQm5FAQ=="),
      (agent_key_b, "\x7b\"accepted\"",
        "9ThfohGSbONctge/Q/kzs1Im7QBvRvqpzC62SuIHTUYxt0S9pPrrPTJ5sBR+/AVsTVTCCGDMiqAM5uWDaj8oBA=="),
      (agent_key_b, answer_text (digest_of '7') ++ "\",\"d",
        "/EqVmzgWpvmJLAtHx++DaIVGrD+9AsUqDiP+sYUm6lvsTPtYhzDi4yatdSxUpjjgHwDwYW9auvaTdPwQx7AvDQ=="),
      (agent_key_b, answer_text (digest_of '7') ++ "\",\"e",
        "+XPDxnWoGXo8TKEC0reSk2IQ+x9F705WDNOPyMfGegrLjZtKW1LS/N7gaP3n6ZZ7glNFC5tbWibBfX1TjpGqBw==")]

/-- The platform that answers with them. -/
def verdict_platform : Platform := verdict_recording.platform

/-- The snapshot both Agents have applied, and the events of one of them. -/
def verdict_store (events : List TraceEventV2) : EvidenceStore :=
  ((EvidenceStore.open_.apply_registry_snapshot verdict_platform
    [authority_a, resolver_a, resolver_b] 1750000000).2.put_trace_events events).2

/-- `resolver-a` asks `authority-a` and `resolver-b`, and its own verdict is insecure. -/
def insecure_events : List TraceEventV2 :=
  [lab_event "trace-0" 1 .clientQuery none (digest_of 'c'),
    sent_to (lab_event "trace-0" 2 .upstreamQuery (some 1) (digest_of 'c')) authority_a
      (digest_of 'd'),
    answered (sent_to (lab_event "trace-0" 3 .upstreamResponse (some 2) (digest_of 'c'))
      authority_a (digest_of 'd')) (digest_of 'e') none,
    sent_to (lab_event "trace-0" 4 .upstreamQuery (some 3) (digest_of 'c')) resolver_b
      (digest_of '7'),
    answered (sent_to (lab_event "trace-0" 5 .upstreamResponse (some 4) (digest_of 'c'))
      resolver_b (digest_of '7')) (digest_of 'f') none,
    { answered (lab_event "trace-0" 6 .clientResponse (some 5) (digest_of 'c')) (digest_of 'e')
        (some (digest_of 'b')) with dnssec_status := .insecure }]

/-- `resolver-b` asks the same authority, with a secure verdict. -/
def secure_events : List TraceEventV2 :=
  (resolved_events "trace-1" (digest_of '7') (digest_of '8') (digest_of 'f') (digest_of '9')).map
    (fun event => { event with observer_server_id := "resolver-b" })

/-- What the Agent of `resolver-b` answers. -/
def secure_graph : Except AgentError QueryEvidenceGraphV2 :=
  ((build_graph_with_context verdict_platform config_b lab_issuer_keys
    (lab_request "request-0" challenge_0 (digest_of '7') (digest_of 'f')) false).trace
      (fun s op => perform verdict_platform (lab_surroundings 1750000000) op s)
      (verdict_store secure_events)).2.1

/-- The attestation of `resolver-b` for its answer. -/
def secure_attestation : TargetResponseAttestationV2 :=
  let attestation := response_attestation config_b
    ⟨"request-0", digest_of '7', challenge_0, digest_of 'a', digest_of 'f',
      lab_endpoint "192.0.2.2"⟩ 1750000000 1750000000
  { attestation with
    signature := (verdict_platform.sign_ed25519 attestation.to_value
      config_b.private_key_b64).toOption }

/-- The request of `resolver-a`'s wrapper. -/
def insecure_request : EvidenceGraphRequest :=
  lab_request "request-0" challenge_0 (digest_of 'c') (digest_of 'e')

/-- The build of `resolver-a`, with these answers of the other Agent. -/
def insecure_run (child : QueryEvidenceGraphV2) :
    List (Prog.Event AgentOp AgentRes) × Except AgentError QueryEvidenceGraphV2 × EvidenceStore :=
  lab_build verdict_platform
    { lab_surroundings 1750000000 with
      attestation := .body secure_attestation
      graph := .body child }
    insecure_request (verdict_store insecure_events)

instance (graph : QueryEvidenceGraphV2) : Decidable (OwnAuthorityEdge graph) :=
  decidable_of_iff (∃ edge ∈ graph.edges, edge.from_server_id = graph.entry_server_id ∧
    (find_node graph.nodes edge.to_server_id).any (fun node => node.identity.role.is_authority) =
      true) (by simp only [OwnAuthorityEdge, Option.any_eq_true])

/-- The graph is secure, with an edge of `resolver-a` itself to the authority; the other
Agent's graph, which has an authority too, was asked for. -/
theorem insecure_run_secure :
    secure_graph.toOption.map (fun child =>
      ((insecure_run child).2.1.toOption.map (fun graph =>
          (graph.dnssec_status, decide (OwnAuthorityEdge graph))),
        (observed insecure_request (insecure_run child).1).anchor.map
          (fun anchor => anchor.dnssec_status),
        child.nodes.any (fun node => node.identity.role.is_authority),
        (observed insecure_request (insecure_run child).1).children.isEmpty)) =
      some (some (.secure, true), some .insecure, true, false) := by
  decide +kernel

/-- The verdict of `resolver-b` has made the resolution of `resolver-a` secure. -/
theorem insecure_anchor_upgraded : ∃ child graph anchor,
    secure_graph = .ok child ∧ (insecure_run child).2.1 = .ok graph ∧
      Prog.Exec (build_graph_with_context verdict_platform config_a lab_issuer_keys
        insecure_request false) (insecure_run child).1 (.ok graph) ∧
      (observed insecure_request (insecure_run child).1).anchor = some anchor ∧
      anchor.dnssec_status = .insecure ∧ ¬ VerdictKept anchor graph := by
  obtain ⟨child, hchild, hshown⟩ := Option.map_eq_some_iff.mp insecure_run_secure
  obtain ⟨hgraph, hshown⟩ := Prod.mk.inj hshown
  obtain ⟨hanchor, _⟩ := Prod.mk.inj hshown
  obtain ⟨graph, hreturned, hstatus⟩ := Option.map_eq_some_iff.mp hgraph
  obtain ⟨hsecure, hown⟩ := Prod.mk.inj hstatus
  obtain ⟨anchor, hseen, hinsecure⟩ := Option.map_eq_some_iff.mp hanchor
  refine ⟨child, graph, anchor, toOption_eq_some hchild, toOption_eq_some hreturned,
    lab_build_exec hreturned, hseen, hinsecure, ?_⟩
  intro hkept
  have hupgraded := hkept (of_decide_eq_true hown) hsecure
  rw [hinsecure] at hupgraded
  cases hupgraded

theorem insecure_run_iff : ∃ child graph,
    (insecure_run child).2.1 = .ok graph ∧ ∃ anchor,
      (observed insecure_request (insecure_run child).1).anchor = some anchor ∧
      (VerdictKept anchor graph ↔
        VerdictOwn (observed insecure_request (insecure_run child).1) anchor) := by
  obtain ⟨child, _, hshown⟩ := Option.map_eq_some_iff.mp insecure_run_secure
  obtain ⟨graph, hreturned, _⟩ := Option.map_eq_some_iff.mp (Prod.mk.inj hshown).1
  exact ⟨child, graph, toOption_eq_some hreturned,
    verdict_kept_iff (lab_build_exec hreturned)⟩

end ResolverIdentity.Agent
