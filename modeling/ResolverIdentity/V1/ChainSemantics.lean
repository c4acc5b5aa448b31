/-
  ResolverIdentity.V1.ChainSemantics: what a verification chain says of itself.

  `validate_verification_chain_semantics` of `agent/verification_chain.py`: a tree of chains,
  checked node by node under one budget of nodes, each node's verdict from those below it.

  Main results:
    * `hops_of_check`, `downstream_of_validate`: what the loops of a node have checked;
    * `sound_of_validate_node`: what holds of a tree that is accepted;
    * `chain_semantics_sound`: the same for the function, at every depth.
-/
import ResolverIdentity.Publisher.Endpoints

namespace ResolverIdentity

open Library Json Publisher

namespace V1.Semantics

/-! ## §1. Chains. -/

/-- What was found of one hop. -/
structure HopVerificationResult where
  from_resolver_id : String
  from_endpoint : ResolverEndpoint
  upstream_endpoint : ResolverEndpoint
  upstream_resolver_id : Option String
  accepted : Bool
  evidence : Json

/-- A client's chain of resolvers. -/
structure VerificationChain where
  resolver_id : String
  endpoint : ResolverEndpoint
  challenge : Option String
  hops : List HopVerificationResult
  downstream_chains : List VerificationChain
  terminal_upstreams : List ResolverEndpoint
  chain_errors : List String
  final_result : Bool

mutual

/-- The chain and all the chains below it. -/
def VerificationChain.nodes : VerificationChain → List VerificationChain
  | chain@⟨_, _, _, _, downstream_chains, _, _, _⟩ => chain :: all_nodes downstream_chains

/-- The nodes of several chains. -/
def all_nodes : List VerificationChain → List VerificationChain
  | [] => []
  | chain :: rest => chain.nodes ++ all_nodes rest

end

section Checks

variable (P : Platform)

/-- `hop.from_resolver_id == chain.resolver_id and hop.from_endpoint.matches(chain.endpoint)` -/
def signer_matches (chain : VerificationChain) (hop : HopVerificationResult) :
    Except String Bool :=
  if hop.from_resolver_id != chain.resolver_id then .ok false
  else endpoint_matches P hop.from_endpoint chain.endpoint

/-- The loop over the hops: those that are accepted, by resolver, and whether all are. -/
def check_hops (chain : VerificationChain) : List HopVerificationResult →
    List (Option String × String) → List (String × HopVerificationResult) → Bool →
      Except String (List (String × HopVerificationResult) × Bool)
  | [], _, accepted_by_resolver, effective => .ok (accepted_by_resolver, effective)
  | hop :: rest, hop_keys, accepted_by_resolver, effective => do
    let signed ← signer_matches P chain hop
    rejectIf (!signed) "hop signer does not match enclosing chain"
    let lookup_key ← endpoint_lookup_key P hop.upstream_endpoint
    let key := (hop.upstream_resolver_id, lookup_key)
    rejectIf (hop_keys.contains key) "duplicate verification hop"
    if !hop.accepted then check_hops chain rest (key :: hop_keys) accepted_by_resolver false
    else do
      let resolver_id := hop.upstream_resolver_id.getD ""
      rejectIf resolver_id.isEmpty "accepted hop missing upstream resolver_id"
      rejectIf (accepted_by_resolver.lookup resolver_id).isSome
        "duplicate accepted upstream resolver_id"
      check_hops chain rest (key :: hop_keys) (accepted_by_resolver ++ [(resolver_id, hop)])
        effective

/-- `any(endpoint_lookup_key(endpoint) == key for endpoint in endpoints)` -/
def any_lookup_key (key : String) : List ResolverEndpoint → Except String Bool
  | [] => .ok false
  | endpoint :: rest => do
    let lookup_key ← endpoint_lookup_key P endpoint
    if lookup_key = key then .ok true else any_lookup_key key rest

/-- The loop over the terminal upstreams. -/
def check_terminals (chain : VerificationChain) :
    List ResolverEndpoint → List String → Except String Unit
  | [], _ => .ok ()
  | terminal :: rest, terminal_keys => do
    let terminal_key ← endpoint_lookup_key P terminal
    rejectIf (terminal_keys.contains terminal_key) "duplicate terminal upstream"
    let of_hop ← any_lookup_key P terminal_key (chain.hops.map (·.upstream_endpoint))
    rejectIf of_hop "terminal upstream overlaps resolver hop"
    let of_downstream ← any_lookup_key P terminal_key (chain.downstream_chains.map (·.endpoint))
    rejectIf of_downstream "terminal upstream overlaps downstream chain"
    check_terminals chain rest (terminal_key :: terminal_keys)

/-- The loop over the accepted hops, once the downstream chains are known. -/
def check_covered (accepted_by_resolver : List (String × HopVerificationResult))
    (consumed : List String) : Except String Unit :=
  accepted_by_resolver.forM (fun entry =>
    rejectIf (truthy (dict_get entry.2.evidence "agent_public_key") && !consumed.contains entry.1)
      "Agent-capable resolver hop missing downstream chain")

mutual

/-- `_validate_chain_node_semantics`: the verdict of the node, and the nodes counted. -/
def validate_node (max_nodes : Int) : VerificationChain → Nat → Except String (Bool × Nat)
  | chain@⟨_, _, challenge, hops, downstream_chains, terminal_upstreams, chain_errors,
      final_result⟩, nodes => do
    let nodes := nodes + 1
    rejectIf (max_nodes < nodes) "verification chain exceeds maximum node count"
    let (accepted_by_resolver, effective) ← check_hops P chain hops [] [] chain_errors.isEmpty
    check_terminals P chain terminal_upstreams []
    let (consumed, effective, nodes) ←
      validate_downstream max_nodes challenge accepted_by_resolver downstream_chains [] effective
        nodes
    check_covered accepted_by_resolver consumed
    rejectIf (final_result != effective) "verification chain final_result is inconsistent"
    .ok (effective, nodes)

/-- The loop over the downstream chains. -/
def validate_downstream (max_nodes : Int) (challenge : Option String)
    (accepted_by_resolver : List (String × HopVerificationResult)) :
    List VerificationChain → List String → Bool → Nat → Except String (List String × Bool × Nat)
  | [], consumed, effective, nodes => .ok (consumed, effective, nodes)
  | downstream :: rest, consumed, effective, nodes => do
    rejectIf (downstream.challenge != challenge) "downstream chain challenge mismatch"
    rejectIf (consumed.contains downstream.resolver_id) "duplicate downstream chain"
    let parent_hop ← okOr (accepted_by_resolver.lookup downstream.resolver_id)
      "downstream chain lacks accepted parent hop"
    let matched ← endpoint_matches P downstream.endpoint parent_hop.upstream_endpoint
    rejectIf (!matched) "downstream chain endpoint does not match parent hop"
    let (below, nodes) ← validate_node max_nodes downstream nodes
    validate_downstream max_nodes challenge accepted_by_resolver rest
      (consumed ++ [downstream.resolver_id]) (effective && below) nodes

end

/-- `validate_verification_chain_semantics`. -/
def validate_verification_chain_semantics (chain : VerificationChain) (max_nodes : Int) :
    Except String Unit := do
  let _ ← validate_node P max_nodes chain 0
  .ok ()

end Checks

/-! ## §2. What is checked of a node. -/

section Sound

variable {P : Platform}

/-- The hop is accepted, and is that of the downstream chain's resolver. -/
def Attached (downstream : VerificationChain) (hop : HopVerificationResult) : Prop :=
  hop.accepted = true ∧ hop.upstream_resolver_id = some downstream.resolver_id

/-- Two endpoints have lookup keys, and these differ. -/
def Apart (P : Platform) (a b : ResolverEndpoint) : Prop :=
  ∃ key key', endpoint_lookup_key P a = .ok key ∧ endpoint_lookup_key P b = .ok key' ∧ key ≠ key'

/-- What holds of a node of a tree with this challenge. -/
structure NodeSound (P : Platform) (challenge : Option String) (chain : VerificationChain) :
    Prop where
  /-- Each downstream chain is attached to one accepted hop. -/
  attached : ∀ downstream ∈ chain.downstream_chains, downstream.challenge = challenge ∧
    ∃ (i : Nat) (hop : HopVerificationResult), chain.hops[i]? = some hop ∧
      Attached downstream hop ∧
      endpoint_matches P downstream.endpoint hop.upstream_endpoint = .ok true ∧
      ∀ (j : Nat) (other : HopVerificationResult), chain.hops[j]? = some other →
        Attached downstream other → j = i
  /-- Each accepted hop with an Agent key has one downstream chain. -/
  covered : ∀ hop ∈ chain.hops, hop.accepted = true →
    truthy (dict_get hop.evidence "agent_public_key") = true →
      ∃ (i : Nat) (downstream : VerificationChain),
        chain.downstream_chains[i]? = some downstream ∧ Attached downstream hop ∧
        ∀ (j : Nat) (other : VerificationChain), chain.downstream_chains[j]? = some other →
          Attached other hop → j = i
  /-- No terminal upstream is an endpoint of a hop or of a downstream chain. -/
  apart : ∀ terminal ∈ chain.terminal_upstreams,
    (∀ hop ∈ chain.hops, Apart P terminal hop.upstream_endpoint) ∧
      ∀ downstream ∈ chain.downstream_chains, Apart P terminal downstream.endpoint

/-- No node reports errors, and no hop of any node was rejected. -/
def Clean (chain : VerificationChain) : Prop :=
  ∀ node ∈ chain.nodes, node.chain_errors = [] ∧ ∀ hop ∈ node.hops, hop.accepted = true

/-- The accepted hops under their resolvers. -/
def accepted_entries (hops : List HopVerificationResult) : List (String × HopVerificationResult) :=
  (hops.filter (·.accepted)).map (fun hop => (hop.upstream_resolver_id.getD "", hop))

/-- What the loop over the hops has checked: every key is there, no resolver is accepted
twice, and none without an id. -/
theorem hops_of_check {chain : VerificationChain} : ∀ {hops : List HopVerificationResult}
    {hop_keys : List (Option String × String)}
    {accepted accepted' : List (String × HopVerificationResult)} {effective effective' : Bool},
    check_hops P chain hops hop_keys accepted effective = .ok (accepted', effective') →
      (accepted.map Prod.fst).Nodup →
        accepted' = accepted ++ accepted_entries hops ∧ (accepted'.map Prod.fst).Nodup ∧
          effective' = (effective && hops.all (·.accepted)) ∧
          ∀ hop ∈ hops, hop.accepted = true → ∃ id, hop.upstream_resolver_id = some id := by
  intro hops
  induction hops with
  | nil =>
    intro hop_keys accepted accepted' effective effective' h hnodup
    obtain ⟨haccepted, heffective⟩ := Prod.mk.inj (Except.ok.inj h)
    rw [← haccepted, ← heffective]
    exact ⟨(List.append_nil _).symm, hnodup, (Bool.and_true _).symm, fun _ hmem => nomatch hmem⟩
  | cons hop rest ih =>
    intro hop_keys accepted accepted' effective effective' h hnodup
    unfold check_hops at h
    simp only [bind_eq_ok, exists_unit] at h
    obtain ⟨signed, _, _, lookup_key, _, _, h⟩ := h
    by_cases haccepted : hop.accepted = true
    · rw [haccepted, if_neg (by decide)] at h
      simp only [bind_eq_ok, exists_unit, rejectIf_eq_ok, Option.isSome_eq_false_iff,
        Option.isNone_iff_eq_none] at h
      obtain ⟨hid, hnew, h⟩ := h
      obtain ⟨id, hsome⟩ : ∃ id, hop.upstream_resolver_id = some id := by
        cases hid' : hop.upstream_resolver_id with
        | none =>
          rw [hid'] at hid
          cases hid
        | some id => exact ⟨id, rfl⟩
      -- the dictionary did not have the id
      have hgrown : ((accepted ++ [(hop.upstream_resolver_id.getD "", hop)]).map Prod.fst).Nodup := by
        rw [List.map_append]
        refine List.nodup_append.mpr ⟨hnodup, List.nodup_singleton _, ?_⟩
        intro id hmem other hother heq
        obtain ⟨entry, hentry, hkey⟩ := List.mem_map.mp hmem
        have hdiffer := List.lookup_eq_none_iff.mp hnew entry hentry
        rw [hkey, heq, List.mem_singleton.mp hother] at hdiffer
        exact absurd hdiffer (by simp)
      obtain ⟨hall, hnodup', heffective, hids⟩ := ih h hgrown
      refine ⟨?_, hnodup', ?_, List.forall_mem_cons.mpr ⟨fun _ => ⟨id, hsome⟩, hids⟩⟩
      · rw [hall, List.append_assoc]
        unfold accepted_entries
        rw [List.filter_cons_of_pos haccepted]
        rfl
      · rw [heffective, List.all_cons, haccepted, Bool.true_and]
    · -- a rejected hop is not entered and takes the verdict down
      have hrejected : hop.accepted = false := Bool.eq_false_iff.mpr haccepted
      rw [hrejected, if_pos (by decide)] at h
      obtain ⟨hall, hnodup', heffective, hids⟩ := ih h hnodup
      refine ⟨?_, hnodup', ?_, List.forall_mem_cons.mpr ⟨fun h => absurd h haccepted, hids⟩⟩
      · rw [hall]
        unfold accepted_entries
        rw [List.filter_cons_of_neg haccepted]
      · rw [heffective, List.all_cons, hrejected, Bool.false_and, Bool.and_false]

/-- A resolver is accepted at one place of the hops. -/
theorem accepted_once {hops : List HopVerificationResult} {i j : Nat}
    {a b : HopVerificationResult} (hnodup : ((accepted_entries hops).map Prod.fst).Nodup)
    (hi : hops[i]? = some a) (hj : hops[j]? = some b) (ha : a.accepted = true)
    (hb : b.accepted = true) (hsame : a.upstream_resolver_id = b.upstream_resolver_id) : j = i := by
  unfold accepted_entries at hnodup
  rw [List.map_map, List.nodup_iff_pairwise_ne, List.pairwise_map, List.pairwise_filter] at hnodup
  obtain ⟨hinside, heq⟩ := List.getElem?_eq_some_iff.mp hi
  obtain ⟨hinside', heq'⟩ := List.getElem?_eq_some_iff.mp hj
  rcases Nat.lt_trichotomy i j with hlt | heq | hgt
  · have hne := List.pairwise_iff_getElem.mp hnodup i j hinside hinside' hlt
    rw [heq, heq'] at hne
    exact absurd (congrArg (·.getD "") hsame) (hne ha hb)
  · exact heq.symm
  · have hne := List.pairwise_iff_getElem.mp hnodup j i hinside' hinside hgt
    rw [heq, heq'] at hne
    exact absurd (congrArg (·.getD "") hsame.symm) (hne hb ha)

/-- No endpoint of the list has this key. -/
theorem any_lookup_key_eq_false {key : String} : ∀ {endpoints : List ResolverEndpoint},
    any_lookup_key P key endpoints = .ok false →
      ∀ endpoint ∈ endpoints, ∃ key', endpoint_lookup_key P endpoint = .ok key' ∧ key ≠ key' := by
  intro endpoints
  induction endpoints with
  | nil => exact fun _ _ hmem => nomatch hmem
  | cons endpoint rest ih =>
    intro h
    unfold any_lookup_key at h
    obtain ⟨key', hkey, h⟩ := bind_eq_ok.mp h
    by_cases hsame : key' = key
    · rw [if_pos hsame] at h
      cases h
    · rw [if_neg hsame] at h
      exact List.forall_mem_cons.mpr ⟨⟨key', hkey, fun heq => hsame heq.symm⟩, ih h⟩

/-- What the loop over the terminal upstreams has checked. -/
theorem apart_of_check {chain : VerificationChain} :
    ∀ {terminals : List ResolverEndpoint} {terminal_keys : List String},
      check_terminals P chain terminals terminal_keys = .ok () →
        ∀ terminal ∈ terminals, (∀ hop ∈ chain.hops, Apart P terminal hop.upstream_endpoint) ∧
          ∀ downstream ∈ chain.downstream_chains, Apart P terminal downstream.endpoint := by
  intro terminals
  induction terminals with
  | nil => exact fun _ _ hmem => nomatch hmem
  | cons terminal rest ih =>
    intro terminal_keys h
    unfold check_terminals at h
    simp only [bind_eq_ok, exists_unit, rejectIf_eq_ok] at h
    obtain ⟨key, hkey, _, of_hop, hhops, rfl, of_downstream, hdownstream, rfl, h⟩ := h
    refine List.forall_mem_cons.mpr ⟨⟨?_, ?_⟩, ih h⟩
    · intro hop hmem
      obtain ⟨key', hkey', hne⟩ :=
        any_lookup_key_eq_false hhops _ (List.mem_map_of_mem hmem)
      exact ⟨key, key', hkey, hkey', hne⟩
    · intro downstream hmem
      obtain ⟨key', hkey', hne⟩ :=
        any_lookup_key_eq_false hdownstream _ (List.mem_map_of_mem hmem)
      exact ⟨key, key', hkey, hkey', hne⟩

/-! ## §3. The tree. -/

/-- What the loop over the downstream chains has checked, and what holds of them. -/
structure Below (P : Platform) (max_nodes : Int) (challenge : Option String)
    (accepted_by_resolver : List (String × HopVerificationResult))
    (chains : List VerificationChain) (consumed consumed' : List String)
    (effective effective' : Bool) (nodes nodes' : Nat) : Prop where
  challenges : ∀ chain ∈ chains, chain.challenge = challenge
  parents : ∀ chain ∈ chains, ∃ hop, accepted_by_resolver.lookup chain.resolver_id = some hop ∧
    endpoint_matches P chain.endpoint hop.upstream_endpoint = .ok true
  ids : consumed' = consumed ++ chains.map (·.resolver_id)
  once : consumed.Nodup → consumed'.Nodup
  counted : nodes' = nodes + (all_nodes chains).length
  budget : (nodes : Int) ≤ max_nodes → (nodes' : Int) ≤ max_nodes
  verdict : effective' = true ↔ effective = true ∧ ∀ chain ∈ chains, Clean chain
  sound : ∀ node ∈ all_nodes chains, NodeSound P challenge node

theorem mem_all_nodes {node : VerificationChain} : ∀ {chains : List VerificationChain},
    node ∈ all_nodes chains ↔ ∃ chain ∈ chains, node ∈ chain.nodes := by
  intro chains
  induction chains with
  | nil =>
    rw [all_nodes]
    constructor
    · intro h
      cases h
    · intro h
      obtain ⟨chain, hmem, _⟩ := h
      cases hmem
  | cons chain rest ih => rw [all_nodes, List.mem_append, ih, List.exists_mem_cons_iff]

theorem nodes_eq (chain : VerificationChain) :
    chain.nodes = chain :: all_nodes chain.downstream_chains := by
  cases chain
  rw [VerificationChain.nodes]

/-- A verdict from the node and from those below it. -/
theorem clean_iff {chain : VerificationChain} :
    Clean chain ↔ (chain.chain_errors = [] ∧ ∀ hop ∈ chain.hops, hop.accepted = true) ∧
      ∀ downstream ∈ chain.downstream_chains, Clean downstream := by
  unfold Clean
  rw [nodes_eq, List.forall_mem_cons]
  refine and_congr Iff.rfl ?_
  constructor
  · intro h downstream hmem node hnode
    exact h node (mem_all_nodes.mpr ⟨downstream, hmem, hnode⟩)
  · intro h node hnode
    obtain ⟨downstream, hmem, hnode⟩ := mem_all_nodes.mp hnode
    exact h downstream hmem node hnode

/-- A resolver has one downstream chain. -/
theorem consumed_once {chains : List VerificationChain} {i j : Nat} {a b : VerificationChain}
    (hnodup : (chains.map (·.resolver_id)).Nodup) (hi : chains[i]? = some a)
    (hj : chains[j]? = some b) (hsame : a.resolver_id = b.resolver_id) : j = i := by
  have hmap : ∀ {k : Nat} {chain : VerificationChain}, chains[k]? = some chain →
      (chains.map (·.resolver_id))[k]? = some chain.resolver_id := by
    intro k chain hk
    rw [List.getElem?_map, hk]
    rfl
  obtain ⟨hinside, _⟩ := List.getElem?_eq_some_iff.mp (hmap hj)
  refine (List.getElem?_inj hinside hnodup).mp ?_
  rw [hmap hj, hmap hi, hsame]

/-- What a node has checked makes it sound. -/
theorem node_sound {max_nodes : Int} {chain : VerificationChain}
    {accepted_by_resolver : List (String × HopVerificationResult)}
    {consumed : List String} {effective effective' : Bool} {nodes nodes' : Nat}
    (hhops : accepted_by_resolver = accepted_entries chain.hops)
    (hnodup : (accepted_by_resolver.map Prod.fst).Nodup)
    (hids : ∀ hop ∈ chain.hops, hop.accepted = true → ∃ id, hop.upstream_resolver_id = some id)
    (hterminals : check_terminals P chain chain.terminal_upstreams [] = .ok ())
    (hbelow : Below P max_nodes chain.challenge accepted_by_resolver chain.downstream_chains []
      consumed effective effective' nodes nodes')
    (hcovered : check_covered accepted_by_resolver consumed = .ok ()) :
    NodeSound P chain.challenge chain := by
  -- the dictionary holds the accepted hops under the ids they name
  have hentry : ∀ {id : String} {hop : HopVerificationResult},
      (id, hop) ∈ accepted_by_resolver ↔
        hop ∈ chain.hops ∧ hop.accepted = true ∧ hop.upstream_resolver_id = some id := by
    intro id hop
    rw [hhops]
    unfold accepted_entries
    rw [List.mem_map]
    constructor
    · intro h
      obtain ⟨found, hfound, heq⟩ := h
      obtain ⟨hmem, haccepted⟩ := List.mem_filter.mp hfound
      obtain ⟨hid, hsame⟩ := Prod.mk.inj heq
      rw [hsame] at hmem haccepted hid
      obtain ⟨id', hid'⟩ := hids hop hmem haccepted
      rw [hid'] at hid
      exact ⟨hmem, haccepted, hid'.trans (congrArg some hid)⟩
    · intro h
      obtain ⟨hmem, haccepted, hid⟩ := h
      exact ⟨hop, List.mem_filter.mpr ⟨hmem, haccepted⟩, by rw [hid]; rfl⟩
  rw [hhops] at hnodup
  have hconsumed : consumed = chain.downstream_chains.map (·.resolver_id) := hbelow.ids
  have honce : (chain.downstream_chains.map (·.resolver_id)).Nodup :=
    hconsumed ▸ hbelow.once List.nodup_nil
  refine ⟨?_, ?_, apart_of_check hterminals⟩
  · intro downstream hmem
    -- a downstream chain hangs under the hop the dictionary has for it
    obtain ⟨hop, hlookup, hmatches⟩ := hbelow.parents downstream hmem
    have hfound : (downstream.resolver_id, hop) ∈ accepted_by_resolver := by
      obtain ⟨before, after, heq, _⟩ := List.lookup_eq_some_iff.mp hlookup
      rw [heq]
      exact List.mem_append_right _ List.mem_cons_self
    obtain ⟨hhop, haccepted, hid⟩ := hentry.mp hfound
    obtain ⟨i, hi⟩ := List.mem_iff_getElem?.mp hhop
    refine ⟨hbelow.challenges downstream hmem, i, hop, hi, ⟨haccepted, hid⟩, hmatches, ?_⟩
    intro j other hj hattached
    exact accepted_once hnodup hi hj haccepted hattached.1 (hid.trans hattached.2.symm)
  · intro hop hmem haccepted hkey
    obtain ⟨id, hid⟩ := hids hop hmem haccepted
    unfold check_covered at hcovered
    -- every accepted recursive hop was consumed by a chain
    have hcheck := forM_eq_ok.mp hcovered (id, hop) (hentry.mpr ⟨hmem, haccepted, hid⟩)
    rw [rejectIf_eq_ok, hkey, Bool.true_and, Bool.not_eq_false', List.contains_iff_mem,
      hconsumed] at hcheck
    obtain ⟨downstream, hdownstream, heq⟩ := List.mem_map.mp hcheck
    obtain ⟨i, hi⟩ := List.mem_iff_getElem?.mp hdownstream
    refine ⟨i, downstream, hi, ⟨haccepted, hid.trans (congrArg some heq.symm)⟩, ?_⟩
    intro j other hj hattached
    refine consumed_once honce hi hj ?_
    exact heq.trans (Option.some.inj (hid.symm.trans hattached.2))

mutual

/-- What holds of a tree that is accepted: its size, its verdict and each of its nodes. -/
theorem sound_of_validate_node {max_nodes : Int} : ∀ (chain : VerificationChain)
    {nodes nodes' : Nat} {effective : Bool},
    validate_node P max_nodes chain nodes = .ok (effective, nodes') →
      nodes' = nodes + chain.nodes.length ∧ (nodes' : Int) ≤ max_nodes ∧
        (effective = true ↔ Clean chain) ∧ chain.final_result = effective ∧
        ∀ node ∈ chain.nodes, NodeSound P chain.challenge node
  | ⟨_, _, challenge, hops, downstream_chains, terminal_upstreams, chain_errors, final_result⟩,
      nodes, nodes', effective => by
    intro h
    rw [validate_node] at h
    simp only [bind_eq_ok, exists_unit, rejectIf_eq_ok, decide_eq_false_iff_not, not_lt] at h
    obtain ⟨hbudget, ⟨accepted_by_resolver, effective₀⟩, hhops, hterminals,
      ⟨consumed, effective₁, nodes₁⟩, hdownstream, hcovered, hfinal, h⟩ := h
    obtain ⟨heffective, hnodes⟩ := Prod.mk.inj (Except.ok.inj h)
    subst heffective hnodes
    obtain ⟨haccepted, hnodup, heffective₀, hids⟩ := hops_of_check hhops List.nodup_nil
    have hbelow := below_of_validate_downstream downstream_chains hdownstream
    rw [nodes_eq, List.length_cons, List.forall_mem_cons]
    refine ⟨?_, hbelow.budget hbudget, ?_, bne_eq_false_iff_eq.mp hfinal, ?_, hbelow.sound⟩
    · rw [hbelow.counted]
      show nodes + 1 + (all_nodes downstream_chains).length =
        nodes + ((all_nodes downstream_chains).length + 1)
      omega
    · rw [hbelow.verdict, clean_iff, heffective₀, Bool.and_eq_true, List.isEmpty_iff,
        List.all_eq_true]
    · exact node_sound haccepted hnodup hids hterminals hbelow hcovered

/-- What holds of the chains below a node. -/
theorem below_of_validate_downstream {max_nodes : Int} {challenge : Option String}
    {accepted_by_resolver : List (String × HopVerificationResult)} :
    ∀ (chains : List VerificationChain) {consumed consumed' : List String}
      {effective effective' : Bool} {nodes nodes' : Nat},
      validate_downstream P max_nodes challenge accepted_by_resolver chains consumed effective
          nodes = .ok (consumed', effective', nodes') →
        Below P max_nodes challenge accepted_by_resolver chains consumed consumed' effective
          effective' nodes nodes'
  | [], consumed, consumed', effective, effective', nodes, nodes' => by
    intro h
    rw [validate_downstream] at h
    obtain ⟨hconsumed, hrest⟩ := Prod.mk.inj (Except.ok.inj h)
    obtain ⟨heffective, hnodes⟩ := Prod.mk.inj hrest
    rw [← hconsumed, ← heffective, ← hnodes]
    refine ⟨fun _ hmem => (nomatch hmem), fun _ hmem => (nomatch hmem), (List.append_nil _).symm, id,
      rfl, id, ?_, fun _ hmem => (nomatch hmem)⟩
    exact (and_iff_left (fun _ hmem => nomatch hmem)).symm
  | chain :: rest, consumed, consumed', effective, effective', nodes, nodes' => by
    intro h
    rw [validate_downstream] at h
    simp only [bind_eq_ok, exists_unit, rejectIf_eq_ok, bne_eq_false_iff_eq, okOr_eq_ok] at h
    obtain ⟨hchallenge, hnew, hop, hparent, matched, hmatches, hmatched, ⟨below, nodes₁⟩, hnode,
      h⟩ := h
    -- the first chain, by the induction over the tree, then the others
    obtain ⟨hcounted, hbudget, hclean, _, hsound⟩ := sound_of_validate_node chain hnode
    have hrest := below_of_validate_downstream rest h
    refine ⟨List.forall_mem_cons.mpr ⟨hchallenge, hrest.challenges⟩,
      List.forall_mem_cons.mpr ⟨⟨hop, hparent, ?_⟩, hrest.parents⟩, ?_, ?_, ?_, ?_, ?_, ?_⟩
    · rw [hmatches, show matched = true by simpa using hmatched]
    · rw [hrest.ids, List.append_assoc]
      rfl
    · -- the id was not consumed before
      intro hnodup
      refine hrest.once (List.nodup_append.mpr ⟨hnodup, List.nodup_singleton _, ?_⟩)
      intro id hid other hother heq
      rw [heq, List.mem_singleton.mp hother] at hid
      rw [List.contains_iff_mem.mpr hid] at hnew
      cases hnew
    · rw [hrest.counted, hcounted, all_nodes, List.length_append]
      omega
    · intro _
      exact hrest.budget hbudget
    · rw [hrest.verdict, Bool.and_eq_true, hclean, List.forall_mem_cons, and_assoc]
    · intro node hmem
      rw [all_nodes, List.mem_append] at hmem
      rcases hmem with hhere | hlater
      · exact hchallenge ▸ hsound node hhere
      · exact hrest.sound node hlater

end

/-- A chain whose semantics are accepted has at most `max_nodes` nodes, each of them sound under
the challenge of the root, and a root that says exactly whether any of them reports an error or
rejects a hop. -/
theorem chain_semantics_sound (P : Platform) (chain : VerificationChain) (max_nodes : Int)
    (h : validate_verification_chain_semantics P chain max_nodes = .ok ()) :
    (chain.nodes.length : Int) ≤ max_nodes ∧
      (∀ node ∈ chain.nodes, NodeSound P chain.challenge node) ∧
      (chain.final_result = true ↔ ∀ node ∈ chain.nodes,
        node.chain_errors = [] ∧ ∀ hop ∈ node.hops, hop.accepted = true) := by
  unfold validate_verification_chain_semantics at h
  obtain ⟨⟨effective, nodes'⟩, hnode, _⟩ := bind_eq_ok.mp h
  obtain ⟨hcounted, hbudget, hclean, hfinal, hsound⟩ := sound_of_validate_node chain hnode
  refine ⟨?_, hsound, ?_⟩
  · rw [hcounted, Nat.zero_add] at hbudget
    exact hbudget
  · rw [hfinal, hclean]
    rfl

end Sound

/-! ## §4. A chain of two. -/

/-- SHA-256 of the bindings of a resolver's and of a terminal endpoint. -/
def chain_platform : Platform :=
  (Recording.mk [
    ("endpoint-v2:\x7b\"ip\":\"192.0.2.20\"",
      "0x5bf0c4498bebf727b75812d4dd3ef984bbe230f1b200dcdca13c4451025178c6"),
    ("endpoint-v2:\x7b\"ip\":\"192.0.2.53\"",
      "0xcb7daa6caa511c0b600e4ec264a6802117080c1612b8dcb723d7a1225a498b3b")]
    [] []).platform

/-- An address, over UDP. -/
def udp_endpoint (ip : String) : ResolverEndpoint where
  endpoint_id := .null
  ip := .string ip
  port := .null
  transport := "udp"
  uri := .null
  server_name := .null
  alpn := []

/-- The upstream resolver, which asks a terminal upstream. -/
def downstream_chain : VerificationChain where
  resolver_id := "resolver-b"
  endpoint := udp_endpoint "192.0.2.20"
  challenge := some "challenge"
  hops := []
  downstream_chains := []
  terminal_upstreams := [udp_endpoint "192.0.2.53"]
  chain_errors := []
  final_result := true

/-- The resolver that asks it, and the same terminal upstream beside it. -/
def root_chain : VerificationChain where
  resolver_id := "resolver-a"
  endpoint := udp_endpoint "192.0.2.10"
  challenge := some "challenge"
  hops := [{
    from_resolver_id := "resolver-a"
    from_endpoint := udp_endpoint "192.0.2.10"
    upstream_endpoint := udp_endpoint "192.0.2.20"
    upstream_resolver_id := some "resolver-b"
    accepted := true
    evidence := .object [("agent_public_key", .string "key")] }]
  downstream_chains := [downstream_chain]
  terminal_upstreams := [udp_endpoint "192.0.2.53"]
  chain_errors := []
  final_result := true

/-- It is accepted, and its terminal upstream is apart from its resolver. -/
theorem root_chain_sound :
    (root_chain.nodes.length : Int) ≤ 64 ∧
      Apart chain_platform (udp_endpoint "192.0.2.53") (udp_endpoint "192.0.2.20") := by
  have hvalid : validate_verification_chain_semantics chain_platform root_chain 64 = .ok () :=
    toOption_eq_some (by decide +kernel)
  obtain ⟨hbudget, hsound, _⟩ := chain_semantics_sound chain_platform root_chain 64 hvalid
  have hroot := hsound root_chain (by rw [nodes_eq]; exact List.mem_cons_self)
  exact ⟨hbudget, (hroot.apart _ List.mem_cons_self).1 _ List.mem_cons_self⟩

end V1.Semantics

end ResolverIdentity
