/-
  ResolverIdentity.Agent.CacheChains: how long a chain of cache hits may live.

  An `Origin` is the history of a graph: a resolved graph, the cache graphs that
  came attached to it, and a cache hit with the graph it was served from, whose
  own history goes on from there.  On its way from one Agent's store to another
  Agent a graph is written and read back any number of times.

  A hit is bounded when its provenance expires no later than any identity of any
  graph of its history.  `build_cache_hit_graph` takes the smallest `valid_until`
  of the nodes of the graph it is served from, and of no other graph.

  Main results:
    * `cache_hit_expiry`: the expiry a hit carries;
    * `le_history`: a bound below what a graph shows of its history is one below
      all of it, when every source covers its own;
    * `bounded_iff_covered`: every hit of a history is bounded exactly when every
      source covers its own provenance and attachments;
    * `second_hit_outlives_authority`: a hit on a hit that is not.
-/
import ResolverIdentity.Agent.BuiltGraph
import ResolverIdentity.Agent.Surroundings

namespace ResolverIdentity.Agent

open Library Store

/-! ## §1. Histories. -/

/-- How a graph came about: resolved, with graphs attached, or as a cache hit on another. -/
inductive Origin where
  /-- A graph of a resolution, its attached graphs not yet accounted for. -/
  | resolved (graph : QueryEvidenceGraphV2)
  /-- One more attached graph, as it was received. -/
  | attach (base cached : Origin) (received : QueryEvidenceGraphV2)
  /-- A graph served from the cache. -/
  | hit (graph : QueryEvidenceGraphV2) (source : Origin)

namespace Origin

/-- The graph that came about. -/
def graph : Origin → QueryEvidenceGraphV2
  | .resolved graph => graph
  | .attach base _ _ => base.graph
  | .hit graph _ => graph

/-- The attached graphs accounted for. -/
def attached : Origin → List QueryEvidenceGraphV2
  | .resolved _ => []
  | .attach base _ received => base.attached ++ [received]
  | .hit _ _ => []

/-- Every graph of the transitive provenance. -/
def history : Origin → List QueryEvidenceGraphV2
  | .resolved _ => []
  | .attach base cached _ => base.history ++ cached.graph :: cached.history
  | .hit _ source => source.graph :: source.history

/-- Every cache hit of the history, with the history of what it was served from. -/
def hits : Origin → List (QueryEvidenceGraphV2 × Origin)
  | .resolved _ => []
  | .attach base cached _ => base.hits ++ cached.hits
  | .hit graph source => (graph, source) :: source.hits

/-- Did it come about as a cache hit? -/
def is_hit : Origin → Bool
  | .hit _ _ => true
  | _ => false

end Origin

/-- Written and read back some number of times. -/
abbrev ReadBack : QueryEvidenceGraphV2 → QueryEvidenceGraphV2 → Prop :=
  Relation.ReflTransGen (fun graph graph' => graph.reread = .ok graph')

/-- Some Agent built `graph` on the cache path, and its store answered with `source`. -/
def CacheHit (P : Platform) (graph source : QueryEvidenceGraphV2) : Prop :=
  ∃ config issuer_keys request τ, (observed request τ).source = some source ∧
    ((∃ self_record cache_hit now, Prog.Exec
        (build_cache_hit_graph P config issuer_keys request self_record cache_hit now) τ
        (.ok graph)) ∨
      (graph.cache_provenance.isSome = true ∧ ∃ require_registered_context, Prog.Exec
        (build_graph_with_context P config issuer_keys request require_registered_context) τ
        (.ok graph)))

/-- The history is one of the code: every hit was served from the graph below it, with
all attachments accounted for. -/
def Origin.Made (P : Platform) : Origin → Prop
  | .resolved graph => graph.cache_provenance = none
  | .attach base cached received =>
    base.Made P ∧ cached.Made P ∧ base.graph.cache_provenance = none ∧ cached.is_hit = true ∧
      ReadBack cached.graph received
  | .hit graph source =>
    source.Made P ∧ source.attached = source.graph.terminal_cache_graphs ∧
      ∃ read, ReadBack source.graph read ∧ CacheHit P graph read

/-! ## §2. The law and the condition. -/

/-- Every identity of these graphs outlives the bound. -/
def Outlives (bound : Int) (graphs : List QueryEvidenceGraphV2) : Prop :=
  ∀ graph ∈ graphs, ∀ node ∈ graph.nodes, bound ≤ node.identity.valid_until

/-- A hit expires no later than any identity of its transitive provenance, and no
validator accepts it after one of them has expired. -/
def Bounded (hit : QueryEvidenceGraphV2 × Origin) : Prop :=
  ∃ provenance, hit.1.cache_provenance = some provenance ∧
    Outlives provenance.identity_expires_at (hit.2.graph :: hit.2.history) ∧
    ∀ P policy issuer_keys challenge now,
      validate_graph P policy issuer_keys hit.1 challenge now = .ok () →
        Outlives now (hit.2.graph :: hit.2.history)

/-- The provenance of a graph, if it has one, expires no earlier. -/
def NotBefore (bound : Int) (graph : QueryEvidenceGraphV2) : Prop :=
  ∀ provenance, graph.cache_provenance = some provenance →
    bound ≤ provenance.identity_expires_at

/-- One of the graph's own nodes expires no later than its provenance and than the
nodes and the provenance of each attached graph. -/
def Covers (graph : QueryEvidenceGraphV2) : Prop :=
  ∃ node ∈ graph.nodes, NotBefore node.identity.valid_until graph ∧
    ∀ attached ∈ graph.terminal_cache_graphs,
      Outlives node.identity.valid_until [attached] ∧
        NotBefore node.identity.valid_until attached

/-! ## §3. What a hit carries. -/

section Expiry

variable {P : Platform} {graph graph' source : QueryEvidenceGraphV2} {bound : Int}

theorem Outlives.mono {graphs graphs' : List QueryEvidenceGraphV2} {bound' : Int}
    (h : Outlives bound graphs) (hle : bound' ≤ bound)
    (hsub : ∀ graph ∈ graphs', graph ∈ graphs) : Outlives bound' graphs' :=
  fun graph hgraph node hnode => le_trans hle (h graph (hsub graph hgraph) node hnode)

theorem min_valid_until_spec {nodes : List EvidenceNodeV2} {expires : Int}
    (h : min_valid_until nodes = some expires) :
    (∃ node ∈ nodes, node.identity.valid_until = expires) ∧
      ∀ node ∈ nodes, expires ≤ node.identity.valid_until := by
  unfold min_valid_until at h
  obtain ⟨hmem, hle⟩ := List.min?_eq_some_iff.mp h
  obtain ⟨node, hnode, heq⟩ := List.mem_map.mp hmem
  exact ⟨⟨node, hnode, heq⟩, fun other hother => hle _ (List.mem_map_of_mem hother)⟩

theorem HitFrom.expiry {config : AgentConfig} {issuer_keys : IssuerKeyRegistry}
    {request : EvidenceGraphRequest} {o : Observed} {source' : QueryEvidenceGraphV2}
    {provenance : CacheProvenanceV2}
    (h : HitFrom P config issuer_keys request o graph source' provenance)
    (hsource : o.source = some source) :
    graph.cache_provenance = some provenance ∧
      min_valid_until source.nodes = some provenance.identity_expires_at := by
  obtain rfl : source = source' := Option.some.inj (hsource.symm.trans h.answered)
  obtain ⟨now, self_record, hfinished⟩ := h.finished
  obtain ⟨signature, rfl⟩ := hfinished.signed
  exact ⟨rfl, h.expires⟩

/-- A hit expires with the first of its source's own nodes. -/
theorem cache_hit_expiry (h : CacheHit P graph source) :
    ∃ provenance, graph.cache_provenance = some provenance ∧
      min_valid_until source.nodes = some provenance.identity_expires_at := by
  obtain ⟨config, issuer_keys, request, τ, hsource, hexec⟩ := h
  rcases hexec with ⟨self_record, cache_hit, now, hexec⟩ | ⟨hsome, registered, hexec⟩
  · -- `build_cache_hit_graph` by itself
    obtain ⟨_, source', provenance, hhit⟩ := hexec.follows
      (build_cache_hit_graph_follows rfl rfl rfl) (plausible_observed τ Observed.start)
    exact ⟨provenance, hhit.expiry hsource⟩
  · -- a whole build that took the cache path
    cases (built_of_exec hexec).2 with
    | resolved now anchor assembly _ _ hfinished =>
      obtain ⟨signature, rfl⟩ := hfinished.signed
      cases hsome
    | hit source' provenance hhit => exact ⟨provenance, hhit.expiry hsource⟩

end Expiry

/-! ## §4. Histories, from the top down. -/

section Histories

variable {P : Platform} {graph received : QueryEvidenceGraphV2} {bound : Int}

/-- What is read back shows the same identities and the same provenance. -/
theorem ReadBack.identities {graph' : QueryEvidenceGraphV2} (h : ReadBack graph graph') :
    graph'.nodes.map EvidenceNodeV2.identity = graph.nodes.map EvidenceNodeV2.identity ∧
      graph'.cache_provenance = graph.cache_provenance := by
  induction h with
  | refl => exact ⟨rfl, rfl⟩
  | tail _ hread ih =>
    obtain ⟨hidentities, hprovenance⟩ := QueryEvidenceGraphV2.reread_identities hread
    exact ⟨hidentities.trans ih.1, hprovenance.trans ih.2⟩

/-- The same identities, one by one. -/
theorem ReadBack.node {graph' : QueryEvidenceGraphV2} (h : ReadBack graph graph')
    {node : EvidenceNodeV2} (hnode : node ∈ graph.nodes) :
    ∃ node' ∈ graph'.nodes, node'.identity = node.identity := by
  have hmem : node.identity ∈ graph'.nodes.map EvidenceNodeV2.identity := by
    rw [h.identities.1]
    exact List.mem_map_of_mem hnode
  exact List.mem_map.mp hmem

theorem ReadBack.node_back {graph' : QueryEvidenceGraphV2} (h : ReadBack graph graph')
    {node' : EvidenceNodeV2} (hnode : node' ∈ graph'.nodes) :
    ∃ node ∈ graph.nodes, node.identity = node'.identity := by
  have hmem : node'.identity ∈ graph.nodes.map EvidenceNodeV2.identity := by
    rw [← h.identities.1]
    exact List.mem_map_of_mem hnode
  exact List.mem_map.mp hmem

/-- The expiry of a hit, in terms of the graph below it. -/
theorem Origin.Made.expiry {source : Origin} (h : (Origin.hit graph source).Made P) :
    ∃ provenance, graph.cache_provenance = some provenance ∧
      (∃ node ∈ source.graph.nodes,
        node.identity.valid_until = provenance.identity_expires_at) ∧
      ∀ node ∈ source.graph.nodes, provenance.identity_expires_at ≤ node.identity.valid_until := by
  obtain ⟨_, _, read, hread, hhit⟩ := h
  obtain ⟨provenance, hprovenance, hmin⟩ := cache_hit_expiry hhit
  obtain ⟨⟨first, hfirst, hexpires⟩, hle⟩ := min_valid_until_spec hmin
  obtain ⟨node, hnode, hidentity⟩ := hread.node_back hfirst
  refine ⟨provenance, hprovenance, ⟨node, hnode, ?_⟩, ?_⟩
  · rw [hidentity]
    exact hexpires
  · intro other hother
    obtain ⟨other', hother', hidentity'⟩ := hread.node hother
    rw [← hidentity']
    exact hle other' hother'

/-- An attached graph is a hit, which attaches nothing itself. -/
theorem Origin.attached_of_is_hit {o : Origin} (h : o.is_hit = true) : o.attached = [] := by
  cases o with
  | resolved graph => cases h
  | attach base cached received => cases h
  | hit graph source => rfl

/-- A bound below what a graph shows of its history is below all of it, when the
sources of its hits cover theirs. -/
theorem le_history {o : Origin} (hmade : o.Made P)
    (hcovers : ∀ hit ∈ o.hits, Covers hit.2.graph) :
    ∀ bound, NotBefore bound o.graph →
      (∀ attached ∈ o.attached, Outlives bound [attached] ∧ NotBefore bound attached) →
      Outlives bound o.history := by
  induction o with
  | resolved graph =>
    intro bound _ _ found hfound
    cases hfound
  | attach base cached received ihbase ihcached =>
    obtain ⟨hbase, hcached, _, hhit, hread⟩ := hmade
    intro bound hbefore hattached
    obtain ⟨hreceived, hprovenance⟩ := hattached received
      (List.mem_append_right _ List.mem_cons_self)
    intro found hfound node hnode
    rcases List.mem_append.mp hfound with hfound | hfound
    · -- what the base was made from
      refine ihbase hbase (fun hit hmem => hcovers hit (List.mem_append_left _ hmem)) bound hbefore
        (fun other hother => hattached other (List.mem_append_left _ hother)) found hfound node
        hnode
    · rcases List.mem_cons.mp hfound with heq | hfound
      · -- the attached graph itself, as it was before it was received
        rw [heq] at hnode
        obtain ⟨node', hnode', hidentity⟩ := hread.node hnode
        rw [← hidentity]
        exact hreceived received List.mem_cons_self node' hnode'
      · -- what the attached graph was made from
        refine ihcached hcached (fun hit hmem => hcovers hit (List.mem_append_right _ hmem)) bound
          ?_ ?_ found hfound node hnode
        · intro provenance hsome
          exact hprovenance provenance (hread.identities.2.trans hsome)
        · rw [Origin.attached_of_is_hit hhit]
          intro other hother
          cases hother
  | hit graph source ih =>
    have hsource := hmade.1
    obtain ⟨provenance, hprovenance, _, hle⟩ := hmade.expiry
    intro bound hbefore _
    have hbound : bound ≤ provenance.identity_expires_at := hbefore provenance hprovenance
    intro found hfound node hnode
    rcases List.mem_cons.mp hfound with heq | hfound
    · rw [heq] at hnode
      exact le_trans hbound (hle node hnode)
    · -- the node that covers the source carries the bound on
      obtain ⟨first, hfirst, hown, hattached⟩ := hcovers (graph, source) List.mem_cons_self
      have hbound : bound ≤ first.identity.valid_until := le_trans hbound (hle first hfirst)
      refine ih hsource (fun hit hmem => hcovers hit (List.mem_cons_of_mem _ hmem)) bound ?_ ?_
        found hfound node hnode
      · intro other hother
        exact le_trans hbound (hown other hother)
      · intro other hother
        rw [hmade.2.1] at hother
        obtain ⟨hnodes, hexpires⟩ := hattached other hother
        refine ⟨hnodes.mono hbound (fun _ hmem => hmem), ?_⟩
        intro provenance' hsome
        exact le_trans hbound (hexpires provenance' hsome)

/-! ## §5. Histories, from the bottom up. -/

/-- The expiry in a graph's provenance is that of an identity in its history. -/
def Shown (graph : QueryEvidenceGraphV2) (history : List QueryEvidenceGraphV2) : Prop :=
  ∀ provenance, graph.cache_provenance = some provenance →
    ∃ found ∈ history, ∃ node ∈ found.nodes,
      node.identity.valid_until = provenance.identity_expires_at

theorem Shown.mono {history history' : List QueryEvidenceGraphV2} (h : Shown graph history)
    (hsub : ∀ found ∈ history, found ∈ history') : Shown graph history' := by
  intro provenance hsome
  obtain ⟨found, hfound, hnode⟩ := h provenance hsome
  exact ⟨found, hsub found hfound, hnode⟩

/-- Below a bound on a history lies what the history shows. -/
theorem Shown.notBefore {history : List QueryEvidenceGraphV2} (h : Shown graph history)
    (houtlives : Outlives bound history) : NotBefore bound graph := by
  intro provenance hsome
  obtain ⟨found, hfound, node, hnode, hexpires⟩ := h provenance hsome
  rw [← hexpires]
  exact houtlives found hfound node hnode

theorem shown_of_made {o : Origin} (hmade : o.Made P) : Shown o.graph o.history := by
  induction o with
  | resolved graph =>
    intro provenance hsome
    have hnone : graph.cache_provenance = none := hmade
    rw [show (Origin.resolved graph).graph = graph from rfl, hnone] at hsome
    cases hsome
  | attach base cached received ihbase _ =>
    exact (ihbase hmade.1).mono (fun found hfound => List.mem_append_left _ hfound)
  | hit graph source _ =>
    obtain ⟨provenance, hprovenance, ⟨node, hnode, hexpires⟩, _⟩ := hmade.expiry
    intro other hsome
    obtain rfl : provenance = other := Option.some.inj (hprovenance.symm.trans hsome)
    exact ⟨source.graph, List.mem_cons_self, node, hnode, hexpires⟩

/-- So are the identities and the provenance of every attached graph. -/
theorem attached_shown {o : Origin} (hmade : o.Made P) (houtlives : Outlives bound o.history) :
    ∀ attached ∈ o.attached, Outlives bound [attached] ∧ NotBefore bound attached := by
  induction o with
  | resolved graph =>
    intro attached hattached
    cases hattached
  | attach base cached received ihbase _ =>
    obtain ⟨hbase, hcached, _, _, hread⟩ := hmade
    intro attached hattached
    rcases List.mem_append.mp hattached with hold | hnew
    · exact ihbase hbase (houtlives.mono le_rfl
        (fun found hfound => List.mem_append_left _ hfound)) attached hold
    · rw [List.mem_singleton.mp hnew]
      have hbelow : Outlives bound (cached.graph :: cached.history) :=
        houtlives.mono le_rfl (fun found hfound => List.mem_append_right _ hfound)
      constructor
      · intro found hfound node hnode
        rw [List.mem_singleton.mp hfound] at hnode
        obtain ⟨node', hnode', hidentity⟩ := hread.node_back hnode
        rw [← hidentity]
        exact hbelow cached.graph List.mem_cons_self node' hnode'
      · intro provenance hsome
        rw [hread.identities.2] at hsome
        exact (shown_of_made hcached).notBefore
          (hbelow.mono le_rfl (fun found hfound => List.mem_cons_of_mem _ hfound)) provenance hsome
  | hit graph source _ =>
    intro attached hattached
    cases hattached

end Histories

/-! ## §6. Every history. -/

section Every

variable {P : Platform}

theorem made_of_mem_hits {o : Origin} (hmade : o.Made P) :
    ∀ hit ∈ o.hits, (Origin.hit hit.1 hit.2).Made P ∧ ∀ below ∈ hit.2.hits, below ∈ o.hits := by
  induction o with
  | resolved graph =>
    intro hit hmem
    cases hmem
  | attach base cached received ihbase ihcached =>
    intro hit hmem
    rcases List.mem_append.mp hmem with hmem | hmem
    · obtain ⟨hhit, hbelow⟩ := ihbase hmade.1 hit hmem
      exact ⟨hhit, fun below h => List.mem_append_left _ (hbelow below h)⟩
    · obtain ⟨hhit, hbelow⟩ := ihcached hmade.2.1 hit hmem
      exact ⟨hhit, fun below h => List.mem_append_right _ (hbelow below h)⟩
  | hit graph source ih =>
    intro hit hmem
    rcases List.mem_cons.mp hmem with heq | hmem
    · rw [heq]
      exact ⟨hmade, fun below h => List.mem_cons_of_mem _ h⟩
    · obtain ⟨hhit, hbelow⟩ := ih hmade.1 hit hmem
      exact ⟨hhit, fun below h => List.mem_cons_of_mem _ (hbelow below h)⟩

/-- The sources of a hit's history cover theirs, so the hit is bounded. -/
theorem bounded_of_covers {graph : QueryEvidenceGraphV2} {source : Origin}
    (hmade : (Origin.hit graph source).Made P)
    (hcovers : ∀ hit ∈ (Origin.hit graph source).hits, Covers hit.2.graph) :
    Bounded (graph, source) := by
  obtain ⟨provenance, hprovenance, _, _⟩ := hmade.expiry
  have houtlives : Outlives provenance.identity_expires_at (source.graph :: source.history) := by
    refine le_history hmade hcovers _ ?_ ?_
    · intro other hsome
      obtain rfl : provenance = other := Option.some.inj (hprovenance.symm.trans hsome)
      exact le_rfl
    · intro attached hattached
      cases hattached
  refine ⟨provenance, hprovenance, houtlives, ?_⟩
  intro P policy issuer_keys challenge now hvalid
  exact houtlives.mono (provenance_of_validate hvalid hprovenance).2 (fun _ hmem => hmem)

/-- A bounded hit has a source that covers: the node its expiry comes from. -/
theorem covers_of_bounded {graph : QueryEvidenceGraphV2} {source : Origin}
    (hmade : (Origin.hit graph source).Made P) (h : Bounded (graph, source)) :
    Covers source.graph := by
  obtain ⟨provenance, hprovenance, ⟨node, hnode, hexpires⟩, _⟩ := hmade.expiry
  obtain ⟨other, hsome, houtlives, _⟩ := h
  obtain rfl : provenance = other := Option.some.inj (hprovenance.symm.trans hsome)
  have hbelow : Outlives node.identity.valid_until source.history := by
    rw [hexpires]
    exact houtlives.mono le_rfl (fun found hfound => List.mem_cons_of_mem _ hfound)
  refine ⟨node, hnode, (shown_of_made hmade.1).notBefore hbelow, ?_⟩
  rw [← hmade.2.1]
  exact attached_shown hmade.1 hbelow

/-- Every cache hit of a history is bounded by all identities it goes back to exactly
when each source has a node that expires no later than the source's own provenance and
everything attached to it. -/
theorem bounded_iff_covered (o : Origin) (hmade : o.Made P) :
    (∀ hit ∈ o.hits, Bounded hit) ↔ ∀ hit ∈ o.hits, Covers hit.2.graph := by
  constructor
  · intro hbounded hit hmem
    exact covers_of_bounded (made_of_mem_hits hmade hit hmem).1 (hbounded hit hmem)
  · intro hcovers hit hmem
    obtain ⟨hhit, hbelow⟩ := made_of_mem_hits hmade hit hmem
    refine bounded_of_covers hhit ?_
    intro below hin
    rcases List.mem_cons.mp hin with heq | hin
    · rw [heq]
      exact hcovers hit hmem
    · exact hcovers below (hbelow below hin)

end Every

/-! ## §7. A hit on a hit. -/

/-- Answers a cache-source lookup with `source`, and everything else from the store. -/
def serve_source (P : Platform) (env : Surroundings) (source : QueryEvidenceGraphV2)
    (s : EvidenceStore) : (op : AgentOp) → AgentRes op × EvidenceStore
  | .find_cache_source_graph_by_digest _ _ _ _ => (.ok (some source), s)
  | op => perform P env op s

/-- Only a cache-source lookup changes the source seen. -/
theorem see_source {op : AgentOp} {o : Observed}
    (hop : ∀ g q c d, op ≠ .find_cache_source_graph_by_digest g q c d) (answer : AgentRes op) :
    (o.see op answer).source = o.source := by
  unfold Observed.see
  split
  case h_6 => exact absurd rfl (hop _ _ _ _)
  all_goals rfl

theorem see_served {P : Platform} {env : Surroundings} {source : QueryEvidenceGraphV2}
    {s : EvidenceStore} (op : AgentOp) (o : Observed) :
    (o.see op (serve_source P env source s op).1).source = o.source ∨
      (o.see op (serve_source P env source s op).1).source = some source := by
  cases op with
  | find_cache_source_graph_by_digest g q c d => exact Or.inr rfl
  | _ => exact Or.inl (see_source (fun _ _ _ _ h => AgentOp.noConfusion h) _)

/-- The only source such a run can have seen is the one it is served. -/
theorem source_of_trace {P : Platform} {env : Surroundings} {source : QueryEvidenceGraphV2}
    (trace_id response_digest : String) {α : Type} (p : AgentProg α) :
    ∀ (s : EvidenceStore) (o : Observed),
      (Prog.after (buildProtocol trace_id response_digest) o
        (p.trace (serve_source P env source) s).1).source = o.source ∨
      (Prog.after (buildProtocol trace_id response_digest) o
        (p.trace (serve_source P env source) s).1).source = some source := by
  induction p with
  | ret a => intro s o; exact Or.inl rfl
  | fail e => intro s o; exact Or.inl rfl
  | op op k ih =>
    intro s o
    rcases ih (serve_source P env source s op).1 (serve_source P env source s op).2
      (o.see op (serve_source P env source s op).1) with hkept | hserved
    · rcases see_served op o with hsee | hsee
      · exact Or.inl (hkept.trans hsee)
      · exact Or.inr (hkept.trans hsee)
    · exact Or.inr hserved

/-- The recorded results of the chain below. -/
def chain_platform : Platform :=
  (resolved_recording
    [("\x7b\"cache_provenance\":\x7b\"cached_at\":1750000005",
        "0x5d42dc3201e3f390fb4ed75a8e4a62d2b414476952cd3dee4085e9ac186516fc"),
      ("\x7b\"cache_provenance\":\x7b\"cached_at\":1750000010",
        "0xb07fa8bb97183ae97c16ff4440b92335306dde5147b4418656d736da059ea737")]
    [(agent_key_a, "\x7b\"cache_provenance\":\x7b\"cached_at\":1750000005",
        "WfuqlsqaL4TgcFKta9sg3Wql0S7yYj5N6vhIWeQFLP3di8i07trdaVF0pKx5SHrdB0WgCMzWMv6luoWHziQgCw=="),
      (agent_key_a, "\x7b\"cache_provenance\":\x7b\"cached_at\":1750000010",
        "LvPPuWtivu1zNSHzp7g6PcZtzN1ohCd+We+cMfJrkQWdOHX4kN7iYBeti9mryTdNW8xpYZZ1YCCJOJE9bZkUBg==")]).platform

/-- The resolution itself. -/
def resolved_run : List (Prog.Event AgentOp AgentRes) × Except AgentError QueryEvidenceGraphV2 ×
    EvidenceStore :=
  lab_build chain_platform (lab_surroundings 1750000000) resolved_request
    (resolved_store chain_platform)

/-- A later request for the cached answer. -/
def hit_request (trace_id : String) : EvidenceGraphRequest :=
  lab_request trace_id "1-challenge-with-at-least-32-characters" (digest_of '5') (digest_of '6')

/-- A cache hit at `now`, on the graph with this digest. -/
def hit_event (now : Int) (source_graph_digest : String) : TraceEventV2 :=
  { lab_event "trace-1" 2 .cacheHit (some 1) (digest_of '5') with
    response_digest := some (digest_of '6')
    cache_object_digest := some (digest_of 'b')
    observed_at := now
    ttl_expires_at := some 1750000300
    source_graph_digest := some source_graph_digest }

/-- The build that answers it from a source. -/
def hit_run (trace_id : String) (now : Int) (source_graph_digest : String)
    (source : QueryEvidenceGraphV2) : List (Prog.Event AgentOp AgentRes) ×
      Except AgentError QueryEvidenceGraphV2 × EvidenceStore :=
  (build_cache_hit_graph chain_platform config_a lab_issuer_keys (hit_request trace_id) resolver_a
    (some (hit_event now source_graph_digest)) now).trace
      (serve_source chain_platform (lab_surroundings now) source) resolved_run.2.2

/-- The resolved graph, a hit on it, and a hit on that, each read back from the store. -/
def hit_chain : Option (QueryEvidenceGraphV2 × QueryEvidenceGraphV2 × QueryEvidenceGraphV2) := do
  let resolved ← resolved_run.2.1.toOption
  let read ← resolved.reread.toOption
  let first ← (hit_run "request-1" 1750000005
    "0xda9dd5b2196d65228f887c10f31bcdd3035d4902cb26c1e08b569ab539e6a902" read).2.1.toOption
  let read ← first.reread.toOption
  let second ← (hit_run "request-2" 1750000010
    "0x5d42dc3201e3f390fb4ed75a8e4a62d2b414476952cd3dee4085e9ac186516fc" read).2.1.toOption
  some (resolved, first, second)

/-- The second hit expires with `resolver-a`, long after `authority-a`. -/
theorem hit_chain_expiries :
    hit_chain.map (fun chain =>
      (chain.1.cache_provenance.isNone, chain.1.terminal_cache_graphs.isEmpty,
        chain.2.1.terminal_cache_graphs.isEmpty &&
          chain.1.nodes.any (fun node => node.identity.role.is_authority),
        chain.1.nodes.map (fun node => node.identity.valid_until),
        chain.2.2.cache_provenance.map (fun provenance => provenance.identity_expires_at))) =
      some (true, true, true, [1750000100, 1900000000], some 1900000000) := by
  decide +kernel

/-- A finished run of a hit is a cache hit on the graph it was served from. -/
theorem cache_hit_of_run {trace_id source_graph_digest : String} {now : Int}
    {graph source : QueryEvidenceGraphV2}
    (h : (hit_run trace_id now source_graph_digest source).2.1.toOption = some graph) :
    CacheHit chain_platform graph source := by
  have hexec := Prog.exec_trace (serve_source chain_platform (lab_surroundings now) source)
    (build_cache_hit_graph chain_platform config_a lab_issuer_keys (hit_request trace_id)
      resolver_a (some (hit_event now source_graph_digest)) now) resolved_run.2.2
  have hok : (hit_run trace_id now source_graph_digest source).2.1 = .ok graph := by
    cases hresult : (hit_run trace_id now source_graph_digest source).2.1 with
    | error e =>
      rw [hresult] at h
      cases h
    | ok found =>
      rw [hresult] at h
      exact congrArg Except.ok (Option.some.inj h)
  have hexec : Prog.Exec (build_cache_hit_graph chain_platform config_a lab_issuer_keys
      (hit_request trace_id) resolver_a (some (hit_event now source_graph_digest)) now)
      (hit_run trace_id now source_graph_digest source).1 (.ok graph) := hok ▸ hexec
  -- what the build has seen as its source is what it was served
  obtain ⟨_, source', provenance, hhit⟩ := hexec.follows
    (build_cache_hit_graph_follows rfl rfl rfl)
    (plausible_observed (hit_run trace_id now source_graph_digest source).1 Observed.start)
  refine ⟨config_a, lab_issuer_keys, hit_request trace_id, _, ?_,
    Or.inl ⟨resolver_a, _, now, hexec⟩⟩
  rcases source_of_trace (P := chain_platform) (hit_request trace_id).trace_id
    (hit_request trace_id).response_digest
    (build_cache_hit_graph chain_platform config_a lab_issuer_keys (hit_request trace_id)
      resolver_a (some (hit_event now source_graph_digest)) now) resolved_run.2.2
      Observed.start with hnone | hserved
  · exact absurd (hnone.symm.trans hhit.answered) (by simp [Observed.start])
  · exact hserved

/-- The history of the second hit. -/
def chain_origin (chain : QueryEvidenceGraphV2 × QueryEvidenceGraphV2 × QueryEvidenceGraphV2) :
    Origin :=
  .hit chain.2.2 (.hit chain.2.1 (.resolved chain.1))

/-- The chain is a history of the code over a graph with an authority, and ends in a hit
that expires too late. -/
theorem chain_made : ∃ chain, (chain_origin chain).Made chain_platform ∧
    chain.1.nodes.map (fun node => node.identity.valid_until) = [1750000100, 1900000000] ∧
    chain.2.2.cache_provenance.map (fun provenance => provenance.identity_expires_at) =
      some 1900000000 ∧
    chain.1.nodes.any (fun node => node.identity.role.is_authority) = true := by
  obtain ⟨⟨resolved, first, second⟩, hchain, hshown⟩ := Option.map_eq_some_iff.mp
    hit_chain_expiries
  obtain ⟨hresolved, hnone, ⟨hfirst, hauthority⟩, hnodes, hexpires⟩ :
      resolved.cache_provenance.isNone = true ∧ resolved.terminal_cache_graphs.isEmpty = true ∧
        (first.terminal_cache_graphs.isEmpty = true ∧
          resolved.nodes.any (fun node => node.identity.role.is_authority) = true) ∧
        resolved.nodes.map (fun node => node.identity.valid_until) = [1750000100, 1900000000] ∧
        second.cache_provenance.map (fun provenance => provenance.identity_expires_at) =
          some 1900000000 := by
    simpa using hshown
  -- the three builds and the two readings between them
  unfold hit_chain at hchain
  obtain ⟨_, _, hchain⟩ := Option.bind_eq_some_iff.mp hchain
  obtain ⟨read, hread, hchain⟩ := Option.bind_eq_some_iff.mp hchain
  obtain ⟨_, hhit, hchain⟩ := Option.bind_eq_some_iff.mp hchain
  obtain ⟨read', hread', hchain⟩ := Option.bind_eq_some_iff.mp hchain
  obtain ⟨_, hhit', hchain⟩ := Option.bind_eq_some_iff.mp hchain
  obtain ⟨rfl, hhits⟩ := Prod.mk.inj (Option.some.inj hchain)
  obtain ⟨rfl, rfl⟩ := Prod.mk.inj hhits
  refine ⟨(_, _, _), ⟨⟨Option.isNone_iff_eq_none.mp hresolved, ?_, read,
    .single (toOption_eq_some hread), cache_hit_of_run hhit⟩, ?_, read',
    .single (toOption_eq_some hread'), cache_hit_of_run hhit'⟩, hnodes, hexpires, hauthority⟩
  · exact (List.isEmpty_iff.mp hnone).symm
  · exact (List.isEmpty_iff.mp hfirst).symm

theorem second_hit_covered : ∃ chain, (chain_origin chain).Made chain_platform ∧
    ((∀ hit ∈ (chain_origin chain).hits, Bounded hit) ↔
      ∀ hit ∈ (chain_origin chain).hits, Covers hit.2.graph) := by
  obtain ⟨chain, hmade, _⟩ := chain_made
  exact ⟨chain, hmade, bounded_iff_covered (chain_origin chain) hmade⟩

/-- The second hit is valid until 1900000000, an identity below it only until 1750000100. -/
theorem second_hit_outlives_authority :
    ¬ ∀ (P : Platform) (o : Origin), o.Made P → ∀ hit ∈ o.hits, Bounded hit := by
  intro h
  obtain ⟨⟨resolved, first, second⟩, hmade, hnodes, hexpires, _⟩ := chain_made
  obtain ⟨provenance, hprovenance, houtlives, _⟩ :=
    h chain_platform _ hmade (second, .hit first (.resolved resolved)) List.mem_cons_self
  have hlate : provenance.identity_expires_at = 1900000000 := by
    rw [hprovenance] at hexpires
    exact Option.some.inj hexpires
  have hsoon : (1750000100 : Int) ∈
      resolved.nodes.map (fun node => node.identity.valid_until) := by
    rw [hnodes]
    exact List.mem_cons_self
  obtain ⟨node, hnode, hvalid⟩ := List.mem_map.mp hsoon
  have hbound := houtlives resolved (List.mem_cons_of_mem _ List.mem_cons_self) node hnode
  omega

end ResolverIdentity.Agent
