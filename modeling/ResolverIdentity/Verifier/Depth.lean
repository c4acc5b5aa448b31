/-
  ResolverIdentity.Verifier.Depth: what the depth bound of a policy bounds.

  `validate_topology` gives every node one depth, that of its first visit breadth
  first, and refuses the graph when a visit is deeper than `max_depth`.  So every
  node of an accepted graph ends some path within the bound; another path to the
  same node may be longer.

  Main results:
    * `measure_depth_covers`: the search visits all that can be reached, each node
      within the bound;
    * `path_within_of_validate`: of the paths to a node one is within the bound;
    * `paths_bounded_iff`: all of them are, unless a path one edge too long ends
      where a path within the bound ends as well;
    * `levelled_bounded`: all of them are, in a graph whose edges lead down in levels.
-/
import ResolverIdentity.Verifier.Accepted

namespace ResolverIdentity.Verifier

open Library Agent

/-! ## §1. Paths and their length. -/

/-- A path of `n` edges leads from `a` to `b`. -/
inductive Path (edges : List ServerHopEvidenceV2) (a : String) : Nat → String → Prop
  | here : Path edges a 0 a
  | hop {n : Nat} {b c : String} : Path edges a n b → Hop edges b c → Path edges a (n + 1) c

/-- The first edges of a path are a path. -/
theorem Path.take {edges : List ServerHopEvidenceV2} {a b : String} {m n : Nat}
    (h : Path edges a n b) (hle : m ≤ n) : ∃ c, Path edges a m c := by
  induction h with
  | here =>
    have hzero : m = 0 := by omega
    rw [hzero]
    exact ⟨a, .here⟩
  | @hop n b c hpath hhop ih =>
    by_cases hlast : m = n + 1
    · rw [hlast]
      exact ⟨c, hpath.hop hhop⟩
    · exact ih (by omega)

/-- A list of servers, each followed by one an edge leads to. -/
theorem Path.of_chain {edges : List ServerHopEvidenceV2} {a : String} :
    ∀ {servers : List String} {n : Nat} {b : String}, Path edges a n b →
      (b :: servers).IsChain (fun x y => y ∈ adjacent edges x) →
        Path edges a (n + servers.length) ((b :: servers).getLast (List.cons_ne_nil _ _)) := by
  intro servers
  induction servers with
  | nil => intro n b h _; exact h
  | cons c rest ih =>
    intro n b h hchain
    rw [List.isChain_cons_cons] at hchain
    have hnext := ih (h.hop (mem_adjacent.mp hchain.1)) hchain.2
    rw [List.getLast_cons (List.cons_ne_nil _ _), List.length_cons]
    have hlength : n + (rest.length + 1) = n + 1 + rest.length := by omega
    rw [hlength]
    exact hnext

/-! ## §2. The breadth-first search. -/

/-- The edges whose source has no depth yet; each will put one item on the queue. -/
def unmeasured (edges : List ServerHopEvidenceV2) (depth : List (String × Nat)) :
    List ServerHopEvidenceV2 :=
  edges.filter (fun edge => edge.from_server_id ∉ depth.map Prod.fst)

/-- Measuring one more server pays for the items it puts on the queue. -/
theorem unmeasured_cons (edges : List ServerHopEvidenceV2) {depth : List (String × Nat)}
    {server_id : String} (d : Nat) (hnew : server_id ∉ depth.map Prod.fst) :
    (unmeasured edges ((server_id, d) :: depth)).length + (adjacent edges server_id).length =
      (unmeasured edges depth).length := by
  unfold unmeasured adjacent
  rw [List.length_map]
  -- of the edges not yet paid for, those leaving the new server are paid for now
  have hothers : edges.filter (fun edge =>
        edge.from_server_id ∉ ((server_id, d) :: depth).map Prod.fst) =
      (edges.filter (fun edge => edge.from_server_id ∉ depth.map Prod.fst)).filter
        (fun edge => !decide (edge.from_server_id = server_id)) := by
    rw [List.filter_filter]
    refine List.filter_congr ?_
    intro edge _
    rw [← decide_not, ← Bool.decide_and]
    exact decide_eq_decide.mpr (by rw [List.map_cons, List.mem_cons, not_or])
  have hown : edges.filter (fun edge => edge.from_server_id = server_id) =
      (edges.filter (fun edge => edge.from_server_id ∉ depth.map Prod.fst)).filter
        (fun edge => decide (edge.from_server_id = server_id)) := by
    rw [List.filter_filter]
    refine List.filter_congr ?_
    intro edge _
    rw [← Bool.decide_and]
    refine decide_eq_decide.mpr ⟨fun hsource => ⟨hsource, ?_⟩, fun hboth => hboth.1⟩
    rw [hsource]
    exact hnew
  rw [hothers, hown, Nat.add_comm]
  exact (List.length_eq_length_filter_add _).symm

/-- The state of the search from `start`: what is measured and what is queued. -/
structure Searching (edges : List ServerHopEvidenceV2) (start : String) (max_depth fuel : Nat)
    (depth queue : List (String × Nat)) : Prop where
  measured : ∀ entry ∈ depth, entry.2 ≤ max_depth ∧ Path edges start entry.2 entry.1
  queued : ∀ item ∈ queue, Path edges start item.2 item.1
  started : start ∈ depth.map Prod.fst ∨ start ∈ queue.map Prod.fst
  closed : ∀ server_id ∈ depth.map Prod.fst, ∀ target, Hop edges server_id target →
    target ∈ depth.map Prod.fst ∨ target ∈ queue.map Prod.fst
  /-- The queue holds items of two consecutive depths at most, the smaller first. -/
  sorted : queue.Pairwise (fun first later => first.2 ≤ later.2)
  spread : ∀ item ∈ queue, ∀ other ∈ queue, other.2 ≤ item.2 + 1
  behind : ∀ entry ∈ depth, ∀ item ∈ queue, entry.2 ≤ item.2
  /-- Every item there is and will be has its round. -/
  paid : queue.length + (unmeasured edges depth).length ≤ fuel

/-- All that can be reached is measured, within the bound. -/
structure Covered (edges : List ServerHopEvidenceV2) (start : String) (max_depth : Nat)
    (depth : List (String × Nat)) : Prop where
  measured : ∀ entry ∈ depth, entry.2 ≤ max_depth ∧ Path edges start entry.2 entry.1
  started : start ∈ depth.map Prod.fst
  closed : ∀ server_id ∈ depth.map Prod.fst, ∀ target, Hop edges server_id target →
    target ∈ depth.map Prod.fst

section Search

variable {edges : List ServerHopEvidenceV2} {start server_id : String}
variable {max_depth fuel current_depth : Nat} {depth queue : List (String × Nat)}

theorem Searching.finished (h : Searching edges start max_depth fuel depth []) :
    Covered edges start max_depth depth where
  measured := h.measured
  started := h.started.resolve_right List.not_mem_nil
  closed := fun server_id hmem target hhop =>
    (h.closed server_id hmem target hhop).resolve_right List.not_mem_nil

/-- An item of the queue is seen as soon as its server has a depth at all. -/
theorem Searching.seen_iff
    (h : Searching edges start max_depth fuel depth ((server_id, current_depth) :: queue)) :
    (depth.lookup server_id).any (fun seen => seen ≤ current_depth) = true ↔
      server_id ∈ depth.map Prod.fst := by
  constructor
  · intro hany
    cases hlookup : depth.lookup server_id with
    | none =>
      rw [hlookup] at hany
      cases hany
    | some seen =>
      obtain ⟨l₁, l₂, hsplit, _⟩ := List.lookup_eq_some_iff.mp hlookup
      rw [hsplit, List.map_append, List.map_cons]
      exact List.mem_append_right _ List.mem_cons_self
  · intro hmem
    cases hlookup : depth.lookup server_id with
    | none =>
      obtain ⟨entry, hentry, hid⟩ := List.mem_map.mp hmem
      have hne := List.lookup_eq_none_iff.mp hlookup entry hentry
      rw [hid] at hne
      exact absurd hne (by simp)
    | some seen =>
      obtain ⟨l₁, l₂, hsplit, _⟩ := List.lookup_eq_some_iff.mp hlookup
      -- depths only grow along the search
      have hle : seen ≤ current_depth := by
        have hentry : (server_id, seen) ∈ depth := by
          rw [hsplit]
          exact List.mem_append_right _ List.mem_cons_self
        exact h.behind _ hentry _ List.mem_cons_self
      exact decide_eq_true hle

/-- One round on a server seen before. -/
theorem Searching.skip
    (h : Searching edges start max_depth (fuel + 1) depth ((server_id, current_depth) :: queue))
    (hseen : server_id ∈ depth.map Prod.fst) :
    Searching edges start max_depth fuel depth queue where
  measured := h.measured
  queued := fun item hitem => h.queued item (List.mem_cons_of_mem _ hitem)
  started := by
    rcases h.started with hmem | hmem
    · exact Or.inl hmem
    · rcases List.mem_cons.mp hmem with heq | hmem
      · rw [heq]
        exact Or.inl hseen
      · exact Or.inr hmem
  closed := by
    intro source hsource target hhop
    rcases h.closed source hsource target hhop with hmem | hmem
    · exact Or.inl hmem
    · rcases List.mem_cons.mp hmem with heq | hmem
      · rw [heq]
        exact Or.inl hseen
      · exact Or.inr hmem
  sorted := (List.pairwise_cons.mp h.sorted).2
  spread := fun item hitem other hother =>
    h.spread item (List.mem_cons_of_mem _ hitem) other (List.mem_cons_of_mem _ hother)
  behind := fun entry hentry item hitem => h.behind entry hentry item (List.mem_cons_of_mem _ hitem)
  paid := by
    have hpaid := h.paid
    rw [List.length_cons] at hpaid
    omega

/-- The items a server puts on the queue. -/
abbrev next_items (edges : List ServerHopEvidenceV2) (server_id : String) (current_depth : Nat) :
    List (String × Nat) :=
  (adjacent edges server_id).map (fun target => (target, current_depth + 1))

theorem mem_next_items {item : String × Nat} :
    item ∈ next_items edges server_id current_depth ↔
      Hop edges server_id item.1 ∧ item.2 = current_depth + 1 := by
  unfold next_items
  rw [List.mem_map]
  constructor
  · intro h
    obtain ⟨target, htarget, heq⟩ := h
    rw [← heq]
    exact ⟨mem_adjacent.mp htarget, rfl⟩
  · intro h
    exact ⟨item.1, mem_adjacent.mpr h.1, Prod.ext rfl h.2.symm⟩

/-- One round on a new server: it is measured, and its targets are queued. -/
theorem Searching.visit
    (h : Searching edges start max_depth (fuel + 1) depth ((server_id, current_depth) :: queue))
    (hnew : server_id ∉ depth.map Prod.fst) (hle : current_depth ≤ max_depth) :
    Searching edges start max_depth fuel ((server_id, current_depth) :: depth)
      (queue ++ next_items edges server_id current_depth) := by
  have hpath : Path edges start current_depth server_id := h.queued _ List.mem_cons_self
  have hfirst : ∀ item ∈ queue, current_depth ≤ item.2 := (List.pairwise_cons.mp h.sorted).1
  have hlast : ∀ item ∈ queue, item.2 ≤ current_depth + 1 :=
    fun item hitem => h.spread _ List.mem_cons_self item (List.mem_cons_of_mem _ hitem)
  -- what was measured or on the queue still is
  have hkept : ∀ target, target ∈ depth.map Prod.fst ∨
      target ∈ ((server_id, current_depth) :: queue).map Prod.fst →
        target ∈ ((server_id, current_depth) :: depth).map Prod.fst ∨
          target ∈ (queue ++ next_items edges server_id current_depth).map Prod.fst := by
    intro target hmem
    rw [List.map_append]
    rcases hmem with hmem | hmem
    · exact Or.inl (List.mem_cons_of_mem _ hmem)
    · rcases List.mem_cons.mp hmem with heq | hmem
      · rw [heq]
        exact Or.inl List.mem_cons_self
      · exact Or.inr (List.mem_append_left _ hmem)
  -- every item of the new queue is as deep as the server or one deeper
  have hrange : ∀ item ∈ queue ++ next_items edges server_id current_depth,
      current_depth ≤ item.2 ∧ item.2 ≤ current_depth + 1 := by
    intro item hitem
    rcases List.mem_append.mp hitem with hold | hnext
    · exact ⟨hfirst item hold, hlast item hold⟩
    · have hdepth := (mem_next_items.mp hnext).2
      omega
  constructor
  · intro entry hentry
    rcases List.mem_cons.mp hentry with heq | hentry
    · rw [heq]
      exact ⟨hle, hpath⟩
    · exact h.measured entry hentry
  · intro item hitem
    rcases List.mem_append.mp hitem with hold | hnext
    · exact h.queued item (List.mem_cons_of_mem _ hold)
    · obtain ⟨hhop, hdepth⟩ := mem_next_items.mp hnext
      rw [hdepth]
      exact hpath.hop hhop
  · exact hkept start h.started
  · intro source hsource target hhop
    rcases List.mem_cons.mp hsource with heq | hsource
    · -- the targets of the new server
      refine Or.inr (List.mem_map.mpr ⟨(target, current_depth + 1), ?_, rfl⟩)
      have hhop' : Hop edges server_id target := by
        rw [← show source = server_id from heq]
        exact hhop
      exact List.mem_append_right _ (mem_next_items.mpr ⟨hhop', rfl⟩)
    · exact hkept target (h.closed source hsource target hhop)
  · rw [List.pairwise_append]
    refine ⟨(List.pairwise_cons.mp h.sorted).2, ?_, ?_⟩
    · refine List.pairwise_of_forall_mem_list ?_
      intro first hmem later hmem'
      rw [(mem_next_items.mp hmem).2, (mem_next_items.mp hmem').2]
    · intro item hold next hnext
      rw [(mem_next_items.mp hnext).2]
      exact hlast item hold
  · intro item hitem other hother
    have hmin := (hrange item hitem).1
    have hmax := (hrange other hother).2
    omega
  · intro entry hentry item hitem
    have hmin := (hrange item hitem).1
    rcases List.mem_cons.mp hentry with heq | hentry
    · rw [heq]
      exact hmin
    · have hbehind := h.behind entry hentry _ List.mem_cons_self
      exact le_trans hbehind hmin
  · have hpaid := h.paid
    have hsum := unmeasured_cons edges current_depth hnew
    rw [List.length_cons] at hpaid
    rw [List.length_append, List.length_map]
    omega

/-- The search visits all that can be reached. -/
theorem measure_depth_covers {start : String} {max_depth : Nat} {fuel : Nat} :
    ∀ {depth queue depth' : List (String × Nat)},
      measure_depth max_depth edges fuel depth queue = .ok depth' →
      Searching edges start max_depth fuel depth queue →
        Covered edges start max_depth depth' := by
  induction fuel with
  | zero =>
    intro depth queue depth' h hsearch
    cases queue with
    | nil =>
      rw [← Except.ok.inj h]
      exact hsearch.finished
    | cons item rest =>
      -- a queued item has its round
      have hpaid := hsearch.paid
      rw [List.length_cons] at hpaid
      omega
  | succ fuel ih =>
    intro depth queue depth' h hsearch
    cases queue with
    | nil =>
      rw [← Except.ok.inj h]
      exact hsearch.finished
    | cons item rest =>
      obtain ⟨server_id, current_depth⟩ := item
      unfold measure_depth at h
      obtain ⟨_, hdeep, h⟩ := bind_eq_ok.mp h
      rw [rejectIf_eq_ok, decide_eq_false_iff_not] at hdeep
      by_cases hseen : server_id ∈ depth.map Prod.fst
      · rw [if_pos (hsearch.seen_iff.mpr hseen)] at h
        exact ih h (hsearch.skip hseen)
      · rw [if_neg (fun hany => hseen (hsearch.seen_iff.mp hany))] at h
        have hsame : depth.filter (fun entry => entry.1 ≠ server_id) = depth := by
          refine List.filter_eq_self.mpr ?_
          intro entry hentry
          refine decide_eq_true ?_
          intro hid
          exact hseen (List.mem_map.mpr ⟨entry, hentry, hid⟩)
        rw [hsame] at h
        exact ih h (hsearch.visit hseen (not_lt.mp hdeep))

/-- Before the first round only the start is on the queue. -/
theorem searching_start (edges : List ServerHopEvidenceV2) (start : String) (max_depth : Nat) :
    Searching edges start max_depth (edges.length + 1) [] [(start, 0)] where
  measured := fun _ hmem => (nomatch hmem)
  queued := by
    intro item hitem
    rw [List.mem_singleton.mp hitem]
    exact .here
  started := Or.inr List.mem_cons_self
  closed := fun _ hmem => (nomatch hmem)
  sorted := List.pairwise_singleton _ _
  spread := by
    intro item hitem other hother
    rw [List.mem_singleton.mp hitem, List.mem_singleton.mp hother]
    exact Nat.le_succ 0
  behind := fun _ hmem => (nomatch hmem)
  paid := by
    have hall := List.length_filter_le
      (fun edge => decide (edge.from_server_id ∉ ([] : List (String × Nat)).map Prod.fst)) edges
    show 1 + _ ≤ edges.length + 1
    unfold unmeasured
    omega

theorem Covered.reached (h : Covered edges start max_depth depth) {n : Nat} {b : String}
    (hpath : Path edges start n b) : b ∈ depth.map Prod.fst := by
  induction hpath with
  | here => exact h.started
  | hop _ hhop ih => exact h.closed _ ih _ hhop

end Search

/-! ## §3. Accepted graphs. -/

section Accepted

variable {policy : EvidencePolicy} {graph : QueryEvidenceGraphV2}

/-- Where a path leads, one within the bound leads as well. -/
theorem path_within_of_validate (h : validate_topology policy graph = .ok ()) {n : Nat}
    {b : String} (hpath : Path graph.edges graph.entry_server_id n b) :
    ∃ m ≤ policy.max_depth, Path graph.edges graph.entry_server_id m b := by
  unfold validate_topology at h
  obtain ⟨depth, hdepth, _⟩ := bind_eq_ok.mp h
  have hcovered := measure_depth_covers hdepth
    (searching_start graph.edges graph.entry_server_id policy.max_depth)
  obtain ⟨entry, hentry, hid⟩ := List.mem_map.mp (hcovered.reached hpath)
  obtain ⟨hle, hmeasured⟩ := hcovered.measured entry hentry
  rw [hid] at hmeasured
  exact ⟨entry.2, hle, hmeasured⟩

/-- A path one edge longer than the bound ends where a path within the bound ends. -/
def Shortcut (policy : EvidencePolicy) (graph : QueryEvidenceGraphV2) (b : String) : Prop :=
  Path graph.edges graph.entry_server_id (policy.max_depth + 1) b ∧
    ∃ m ≤ policy.max_depth, Path graph.edges graph.entry_server_id m b

theorem bounded_of_no_shortcut (h : validate_topology policy graph = .ok ())
    (hnone : ∀ b, ¬ Shortcut policy graph b) {n : Nat} {b : String}
    (hpath : Path graph.edges graph.entry_server_id n b) : n ≤ policy.max_depth := by
  by_contra hlong
  -- a longer path has a beginning of one edge too many, whose end was measured
  obtain ⟨c, hbeginning⟩ := hpath.take (m := policy.max_depth + 1) (by omega)
  exact hnone c ⟨hbeginning, path_within_of_validate h hbeginning⟩

/-- In an accepted graph the paths keep within the bound exactly without such ends. -/
theorem paths_bounded_iff (h : validate_topology policy graph = .ok ()) :
    (∀ n b, Path graph.edges graph.entry_server_id n b → n ≤ policy.max_depth) ↔
      ∀ b, ¬ Shortcut policy graph b := by
  constructor
  · intro hbounded b hshortcut
    have hle := hbounded _ b hshortcut.1
    omega
  · intro hnone n b hpath
    exact bounded_of_no_shortcut h hnone hpath

/-- Every edge leads one level down. -/
def Levelled (edges : List ServerHopEvidenceV2) (level : String → Nat) : Prop :=
  ∀ a b, Hop edges a b → level b = level a + 1

theorem Path.level {edges : List ServerHopEvidenceV2} {level : String → Nat}
    (hlevel : Levelled edges level) {a b : String} {n : Nat} (h : Path edges a n b) :
    level b = level a + n := by
  induction h with
  | here => rfl
  | hop _ hhop ih => rw [hlevel _ _ hhop, ih, Nat.add_assoc]

theorem no_shortcut_of_levelled {level : String → Nat} (hlevel : Levelled graph.edges level)
    (b : String) : ¬ Shortcut policy graph b := by
  rintro ⟨hlong, m, hle, hshort⟩
  have hsame := (hlong.level hlevel).symm.trans (hshort.level hlevel)
  omega

/-- A graph in levels, such as a chain or a tree, has no path beyond the bound. -/
theorem levelled_bounded (h : validate_topology policy graph = .ok ()) {level : String → Nat}
    (hlevel : Levelled graph.edges level) :
    ∀ n b, Path graph.edges graph.entry_server_id n b → n ≤ policy.max_depth :=
  fun _ _ hpath => bounded_of_no_shortcut h (no_shortcut_of_levelled hlevel) hpath

end Accepted

/-! ## §4. A chain with a shortcut. -/

/-- The servers of the chain. -/
def link (n : Nat) : String := "s" ++ toString n

/-- An edge of the chain; topology looks at its ends only. -/
def link_edge (a b : Nat) : ServerHopEvidenceV2 :=
  { relay_edge with from_server_id := link a, to_server_id := link b }

/-- A chain of 33 edges from `s0` to `s33`, and one edge that leaves out `s1`. -/
def chain_graph : QueryEvidenceGraphV2 :=
  { relay_graph with
    entry_server_id := link 0
    nodes := (List.range 34).map (fun n =>
      lab_node ({ resolver_a.1 with server_id := link n }, resolver_a.2))
    edges := link_edge 0 2 :: (List.range 33).map (fun n => link_edge n (n + 1))
    terminal_node_ids := [link 33] }

theorem chain_accepted : validate_topology .controlled_strict chain_graph = .ok () := by
  decide +kernel

/-- A policy of at most 32 edges accepts the chain of 33. -/
theorem chain_deeper_than_bound :
    ¬ (validate_topology .controlled_strict chain_graph = .ok () →
      ∀ n b, Path chain_graph.edges chain_graph.entry_server_id n b →
        n ≤ EvidencePolicy.controlled_strict.max_depth) := by
  intro hclaim
  have hchain : (link 0 :: (List.range 33).map (fun n => link (n + 1))).IsChain
      (fun x y => y ∈ adjacent chain_graph.edges x) := by
    decide +kernel
  have hlong := hclaim chain_accepted _ _ (Path.of_chain .here hchain)
  rw [List.length_map, List.length_range] at hlong
  exact absurd hlong (by decide)

theorem chain_bounded_iff :
    validate_topology .controlled_strict chain_graph = .ok () ∧
      ((∀ n b, Path chain_graph.edges chain_graph.entry_server_id n b → n ≤ 32) ↔
        ∀ b, ¬ Shortcut .controlled_strict chain_graph b) :=
  ⟨chain_accepted, paths_bounded_iff chain_accepted⟩

end ResolverIdentity.Verifier
