/-
  ResolverIdentity.Verifier.Windows: validity windows in exact arithmetic.

  The checks on `issued_at` and `expires_at` add and subtract `i64` values that come
  out of JSON, and a release build wraps.  A window that is wrapped looks short: it
  may pass the duration check although it lasts for ages.  A run returns at the first
  check that fails, so the sums and differences it computes are those of the windows it
  comes to.

  Main results:
    * `windows_of_reached`, `reached_of_validate`: the run comes to windows of the graph
      only, and to all of them if it accepts;
    * `windows_checked_of_validate`: every window of an accepted graph passed both
      checks;
    * `within_iff_fits`: what passed them is within the policy exactly when its
      length fits an `i64`;
    * `exact_arithmetic_iff`: when the checks hold in exact arithmetic.
-/
import ResolverIdentity.Verifier.Accepted

namespace ResolverIdentity.Verifier

open Library Agent

/-! ## §1. The windows of a graph. -/

/-- The time an object is valid. -/
structure Window where
  issued_at : Int
  expires_at : Int

/-- An edge's own window and that of its attestation. -/
def edge_windows (edge : ServerHopEvidenceV2) : List Window :=
  ⟨edge.issued_at, edge.expires_at⟩ ::
    edge.target_attestation.toList.map (fun attestation =>
      ⟨attestation.issued_at, attestation.expires_at⟩)

mutual

/-- The windows of a graph, its edges, their attestations, and of the attached graphs. -/
def windows : QueryEvidenceGraphV2 → List Window
  | ⟨_, _, _, _, _, _, _, _, issued_at, expires_at, _, _, terminal_cache_graphs, _, edges, _, _, _,
      _, _⟩ =>
    ⟨issued_at, expires_at⟩ :: edges.flatMap edge_windows ++ attached_windows terminal_cache_graphs

/-- The windows of the attached graphs, in order. -/
def attached_windows : List QueryEvidenceGraphV2 → List Window
  | [] => []
  | graph :: rest => windows graph ++ attached_windows rest

end

theorem attached_windows_eq (graphs : List QueryEvidenceGraphV2) :
    attached_windows graphs = graphs.flatMap windows := by
  induction graphs with
  | nil => rfl
  | cons graph rest ih => rw [attached_windows, List.flatMap_cons, ih]

theorem windows_eq (graph : QueryEvidenceGraphV2) :
    windows graph = ⟨graph.issued_at, graph.expires_at⟩ :: graph.edges.flatMap edge_windows ++
      graph.terminal_cache_graphs.flatMap windows := by
  cases graph
  rw [windows, attached_windows_eq]

/-! ## §2. The windows a run comes to. -/

/-- What follows a check that passes. -/
def once {ε α β : Type} (check : Except ε α) (next : α → List β) : List β :=
  match check with
  | .ok a => next a
  | .error _ => []

theorem mem_once {ε α β : Type} {check : Except ε α} {next : α → List β} {b : β} :
    b ∈ once check next ↔ ∃ a, check = .ok a ∧ b ∈ next a := by
  cases check with
  | ok a =>
    constructor
    · intro h
      exact ⟨a, rfl, h⟩
    · rintro ⟨a', heq, h⟩
      rw [← Except.ok.inj heq] at h
      exact h
  | error error =>
    constructor
    · intro h
      cases h
    · rintro ⟨_, heq, _⟩
      cases heq

section Reached

variable (P : Platform) (policy : EvidencePolicy) (issuer_keys : IssuerKeyRegistry)
variable (graph : QueryEvidenceGraphV2) (expected_challenge : String) (now : Int)

/-- The run comes to the window of an attestation that is bound to its edge. -/
def reached_attestation (edge : ServerHopEvidenceV2) (target : EvidenceNodeV2) : List Window :=
  edge.target_attestation.toList.flatMap (fun attestation =>
    once (validate_attestation_binding P edge target attestation) (fun _ =>
      [⟨attestation.issued_at, attestation.expires_at⟩]))

/-- The windows that `validate_edge` comes to. -/
def reached_edge (before : List ServerHopEvidenceV2) (edge : ServerHopEvidenceV2) : List Window :=
  once (validate_edge_binding graph before edge) (fun _ =>
    ⟨edge.issued_at, edge.expires_at⟩ ::
    once (validate_window edge.issued_at edge.expires_at now policy.max_clock_skew_seconds) (fun _ =>
    once (validate_evidence_ttl edge.issued_at edge.expires_at policy.max_evidence_ttl_seconds)
      (fun _ =>
    once (validate_observation edge.observed_at now policy.max_clock_skew_seconds
      policy.max_observation_age_seconds) (fun _ =>
    once (validate_edge_ends P graph edge) (reached_attestation P edge)))))

/-- The windows that the loop over the edges comes to. -/
def reached_edges : List ServerHopEvidenceV2 → List ServerHopEvidenceV2 → List Window
  | _, [] => []
  | before, edge :: rest =>
    reached_edge P policy graph now before edge ++
      once (validate_edge P policy graph now before edge) (fun _ =>
        reached_edges (before ++ [edge]) rest)

/-- The windows that the loop over the attached graphs comes to. -/
def reached_attached (validate_child : QueryEvidenceGraphV2 → Except EvidenceValidationError Unit)
    (reached_child : QueryEvidenceGraphV2 → List Window) :
    List TerminalKey → List QueryEvidenceGraphV2 → List Window
  | _, [] => []
  | supplied, child :: rest =>
    once (validate_terminal_binding graph supplied child) (fun _ =>
      reached_child child ++ once (validate_child child) (fun _ =>
        reached_attached validate_child reached_child (terminal_key child :: supplied) rest))

/-- The windows that `validate_terminal_cache_graphs` comes to. -/
def reached_graphs (validate_child : QueryEvidenceGraphV2 → Except EvidenceValidationError Unit)
    (reached_child : QueryEvidenceGraphV2 → List Window) : List Window :=
  if graph.cache_provenance.isSome ∨ policy.max_edges < graph.terminal_cache_graphs.length then []
  else reached_attached graph validate_child reached_child [] graph.terminal_cache_graphs

/-- The windows that `validate_graph` comes to, with those of the attached graphs. -/
def reached_with (validate_child : QueryEvidenceGraphV2 → Except EvidenceValidationError Unit)
    (reached_child : QueryEvidenceGraphV2 → List Window) : List Window :=
  once (validate_request policy graph expected_challenge) (fun _ =>
    ⟨graph.issued_at, graph.expires_at⟩ ::
    once (validate_header policy graph expected_challenge now) (fun _ =>
    once (validate_nodes P policy issuer_keys now [] graph.nodes) (fun _ =>
    once (validate_entry P graph) (fun _ =>
      reached_edges P policy graph now [] graph.edges ++
      once (validate_edges P policy graph now [] graph.edges) (fun _ =>
      once (validate_topology policy graph) (fun _ =>
      once (validate_cache_provenance policy graph now) (fun _ =>
        reached_graphs policy graph validate_child reached_child)))))))

/-- The windows that the run of `validate_graph` comes to, in order. -/
def reached_windows : List Window :=
  reached_with P policy issuer_keys graph expected_challenge now
    (fun child => validate_cache_graph P policy issuer_keys child graph.challenge now)
    (fun child => reached_with P policy issuer_keys child graph.challenge now (fun _ => .ok ())
      (fun _ => []))

end Reached

section Run

variable {P : Platform} {policy : EvidencePolicy} {issuer_keys : IssuerKeyRegistry}
variable {graph : QueryEvidenceGraphV2} {expected_challenge : String} {now : Int}
variable {validate_child : QueryEvidenceGraphV2 → Except EvidenceValidationError Unit}
variable {reached_child : QueryEvidenceGraphV2 → List Window}

/-- A run that accepts an edge has come to its windows. -/
theorem reached_edge_of_validate {before : List ServerHopEvidenceV2} {edge : ServerHopEvidenceV2}
    (h : validate_edge P policy graph now before edge = .ok ()) :
    ∀ w ∈ edge_windows edge, w ∈ reached_edge P policy graph now before edge := by
  unfold validate_edge at h
  obtain ⟨_, hbinding, h⟩ := bind_eq_ok.mp h
  obtain ⟨_, hwindow, h⟩ := bind_eq_ok.mp h
  obtain ⟨_, httl, h⟩ := bind_eq_ok.mp h
  obtain ⟨_, hobservation, h⟩ := bind_eq_ok.mp h
  obtain ⟨target, hends, hattested⟩ := bind_eq_ok.mp h
  intro w hw
  refine mem_once.mpr ⟨_, hbinding, ?_⟩
  rcases List.mem_cons.mp hw with rfl | hw
  · exact List.mem_cons_self
  · obtain ⟨attestation, hmem, rfl⟩ := List.mem_map.mp hw
    unfold validate_target_attestation at hattested
    rw [Option.mem_toList.mp hmem] at hattested
    obtain ⟨agent, hbound, _⟩ := bind_eq_ok.mp hattested
    refine List.mem_cons_of_mem _ (mem_once.mpr ⟨_, hwindow, mem_once.mpr ⟨_, httl,
      mem_once.mpr ⟨_, hobservation, mem_once.mpr ⟨_, hends, ?_⟩⟩⟩⟩)
    exact List.mem_flatMap.mpr
      ⟨attestation, hmem, mem_once.mpr ⟨agent, hbound, List.mem_singleton_self _⟩⟩

theorem reached_edges_of_validate {edges : List ServerHopEvidenceV2} :
    ∀ {before : List ServerHopEvidenceV2}, validate_edges P policy graph now before edges = .ok () →
      ∀ w ∈ edges.flatMap edge_windows, w ∈ reached_edges P policy graph now before edges := by
  induction edges with
  | nil => intro before _ w hw; cases hw
  | cons edge rest ih =>
    intro before h w hw
    obtain ⟨_, hone, hrest⟩ := bind_eq_ok.mp h
    rw [List.flatMap_cons] at hw
    rcases List.mem_append.mp hw with hfirst | hlater
    · exact List.mem_append_left _ (reached_edge_of_validate hone w hfirst)
    · exact List.mem_append_right _ (mem_once.mpr ⟨_, hone, ih hrest w hlater⟩)

theorem reached_attached_of_validate {children : List QueryEvidenceGraphV2} :
    ∀ {supplied supplied' : List TerminalKey},
      validate_attached validate_child graph supplied children = .ok supplied' →
      ∀ w ∈ children.flatMap reached_child,
        w ∈ reached_attached graph validate_child reached_child supplied children := by
  induction children with
  | nil => intro _ _ _ w hw; cases hw
  | cons child rest ih =>
    intro supplied supplied' h w hw
    obtain ⟨_, hone, hrest⟩ := bind_eq_ok.mp h
    obtain ⟨_, hbinding, hchild⟩ := bind_eq_ok.mp hone
    refine mem_once.mpr ⟨_, hbinding, ?_⟩
    rw [List.flatMap_cons] at hw
    rcases List.mem_append.mp hw with hfirst | hlater
    · exact List.mem_append_left _ hfirst
    · exact List.mem_append_right _ (mem_once.mpr ⟨_, hchild, ih hrest w hlater⟩)

/-- A run that accepts a graph has come to its own windows and to those of the graphs
attached to it. -/
theorem reached_with_of_validate
    (h : validate_graph_with validate_child P policy issuer_keys graph expected_challenge now =
      .ok ()) :
    ∀ w ∈ ⟨graph.issued_at, graph.expires_at⟩ :: graph.edges.flatMap edge_windows ++
        graph.terminal_cache_graphs.flatMap reached_child,
      w ∈ reached_with P policy issuer_keys graph expected_challenge now validate_child
        reached_child := by
  unfold validate_graph_with at h
  obtain ⟨_, hheader, h⟩ := bind_eq_ok.mp h
  obtain ⟨_, hnodes, h⟩ := bind_eq_ok.mp h
  obtain ⟨_, hentry, h⟩ := bind_eq_ok.mp h
  obtain ⟨_, hedges, h⟩ := bind_eq_ok.mp h
  obtain ⟨_, htopology, h⟩ := bind_eq_ok.mp h
  obtain ⟨_, hprovenance, h⟩ := bind_eq_ok.mp h
  obtain ⟨_, hattached, _⟩ := bind_eq_ok.mp h
  have hrequest : validate_request policy graph expected_challenge = .ok () :=
    (bind_eq_ok.mp hheader).choose_spec.1
  intro w hw
  refine mem_once.mpr ⟨_, hrequest, ?_⟩
  rcases List.mem_append.mp hw with hown | hchildren
  · rcases List.mem_cons.mp hown with rfl | hw
    · exact List.mem_cons_self
    · refine List.mem_cons_of_mem _ (mem_once.mpr ⟨_, hheader, mem_once.mpr ⟨_, hnodes,
        mem_once.mpr ⟨_, hentry, List.mem_append_left _ ?_⟩⟩⟩)
      exact reached_edges_of_validate hedges w hw
  · refine List.mem_cons_of_mem _ (mem_once.mpr ⟨_, hheader, mem_once.mpr ⟨_, hnodes,
      mem_once.mpr ⟨_, hentry, List.mem_append_right _ (mem_once.mpr ⟨_, hedges,
        mem_once.mpr ⟨_, htopology, mem_once.mpr ⟨_, hprovenance, ?_⟩⟩⟩)⟩⟩⟩)
    unfold validate_terminal_cache_graphs at hattached
    unfold reached_graphs
    by_cases hcache : graph.cache_provenance.isSome = true
    · -- nothing is attached to a cache graph
      rw [if_pos hcache, rejectIf_eq_ok, Bool.not_eq_false', List.isEmpty_iff] at hattached
      rw [hattached] at hchildren
      cases hchildren
    · rw [if_neg hcache] at hattached
      obtain ⟨_, hfew, hattached⟩ := bind_eq_ok.mp hattached
      obtain ⟨supplied, hloop, _⟩ := bind_eq_ok.mp hattached
      rw [rejectIf_eq_ok, decide_eq_false_iff_not] at hfew
      rw [if_neg (not_or.mpr ⟨hcache, hfew⟩)]
      exact reached_attached_of_validate hloop w hchildren

/-- Without attached graphs their validator plays no part. -/
theorem validate_graph_with_leaf
    {v w : QueryEvidenceGraphV2 → Except EvidenceValidationError Unit}
    (h : graph.terminal_cache_graphs = []) :
    validate_graph_with v P policy issuer_keys graph expected_challenge now =
      validate_graph_with w P policy issuer_keys graph expected_challenge now := by
  unfold validate_graph_with validate_terminal_cache_graphs
  rw [h]
  rfl

/-- A run that accepts has come to every window. -/
theorem reached_of_validate
    (h : validate_graph P policy issuer_keys graph expected_challenge now = .ok ()) :
    ∀ w ∈ windows graph,
      w ∈ reached_windows P policy issuer_keys graph expected_challenge now := by
  intro w hw
  rw [windows_eq] at hw
  refine reached_with_of_validate h w ?_
  rcases List.mem_append.mp hw with hown | hattached
  · exact List.mem_append_left _ hown
  · obtain ⟨child, hchild, hw⟩ := List.mem_flatMap.mp hattached
    have hchecked := attached_checked_of_validate h hchild
    have hcached : validate_cache_graph P policy issuer_keys child graph.challenge now = .ok () :=
      (validate_graph_with_leaf hchecked.attached).trans hchecked.accepted
    refine List.mem_append_right _ (List.mem_flatMap.mpr ⟨child, hchild, ?_⟩)
    rw [windows_eq, hchecked.attached] at hw
    refine reached_with_of_validate hcached w ?_
    rw [hchecked.attached]
    exact hw

theorem attestation_of_reached {edge : ServerHopEvidenceV2} {target : EvidenceNodeV2} {w : Window}
    (h : w ∈ reached_attestation P edge target) : w ∈ edge_windows edge := by
  obtain ⟨attestation, hmem, hw⟩ := List.mem_flatMap.mp h
  obtain ⟨_, _, hw⟩ := mem_once.mp hw
  rw [List.mem_singleton.mp hw]
  exact List.mem_cons_of_mem _ (List.mem_map_of_mem hmem)

theorem edge_of_reached {before : List ServerHopEvidenceV2} {edge : ServerHopEvidenceV2} {w : Window}
    (h : w ∈ reached_edge P policy graph now before edge) : w ∈ edge_windows edge := by
  obtain ⟨_, _, h⟩ := mem_once.mp h
  rcases List.mem_cons.mp h with rfl | h
  · exact List.mem_cons_self
  · obtain ⟨_, _, h⟩ := mem_once.mp h
    obtain ⟨_, _, h⟩ := mem_once.mp h
    obtain ⟨_, _, h⟩ := mem_once.mp h
    obtain ⟨_, _, h⟩ := mem_once.mp h
    exact attestation_of_reached h

theorem edges_of_reached {edges : List ServerHopEvidenceV2} {w : Window} :
    ∀ {before : List ServerHopEvidenceV2}, w ∈ reached_edges P policy graph now before edges →
      w ∈ edges.flatMap edge_windows := by
  induction edges with
  | nil => intro before h; cases h
  | cons edge rest ih =>
    intro before h
    rw [List.flatMap_cons]
    rcases List.mem_append.mp h with hfirst | hlater
    · exact List.mem_append_left _ (edge_of_reached hfirst)
    · obtain ⟨_, _, hlater⟩ := mem_once.mp hlater
      exact List.mem_append_right _ (ih hlater)

theorem attached_of_reached {children : List QueryEvidenceGraphV2} {w : Window} :
    ∀ {supplied : List TerminalKey},
      w ∈ reached_attached graph validate_child reached_child supplied children →
      w ∈ children.flatMap reached_child := by
  induction children with
  | nil => intro supplied h; cases h
  | cons child rest ih =>
    intro supplied h
    rw [List.flatMap_cons]
    obtain ⟨_, _, h⟩ := mem_once.mp h
    rcases List.mem_append.mp h with hfirst | hlater
    · exact List.mem_append_left _ hfirst
    · obtain ⟨_, _, hlater⟩ := mem_once.mp hlater
      exact List.mem_append_right _ (ih hlater)

theorem graph_of_reached {w : Window} (h : w ∈ reached_with P policy issuer_keys graph
      expected_challenge now validate_child reached_child) :
    w ∈ ⟨graph.issued_at, graph.expires_at⟩ :: graph.edges.flatMap edge_windows ++
      graph.terminal_cache_graphs.flatMap reached_child := by
  obtain ⟨_, _, h⟩ := mem_once.mp h
  rcases List.mem_cons.mp h with rfl | h
  · exact List.mem_append_left _ List.mem_cons_self
  obtain ⟨_, _, h⟩ := mem_once.mp h
  obtain ⟨_, _, h⟩ := mem_once.mp h
  obtain ⟨_, _, h⟩ := mem_once.mp h
  rcases List.mem_append.mp h with hedges | h
  · exact List.mem_append_left _ (List.mem_cons_of_mem _ (edges_of_reached hedges))
  · obtain ⟨_, _, h⟩ := mem_once.mp h
    obtain ⟨_, _, h⟩ := mem_once.mp h
    obtain ⟨_, _, h⟩ := mem_once.mp h
    unfold reached_graphs at h
    split at h
    · cases h
    · exact List.mem_append_right _ (attached_of_reached h)

/-- The run comes to no window but the graph's. -/
theorem windows_of_reached {w : Window}
    (h : w ∈ reached_windows P policy issuer_keys graph expected_challenge now) :
    w ∈ windows graph := by
  rw [windows_eq]
  rcases List.mem_append.mp (graph_of_reached h) with hown | hattached
  · exact List.mem_append_left _ hown
  · obtain ⟨child, hchild, hw⟩ := List.mem_flatMap.mp hattached
    refine List.mem_append_right _ (List.mem_flatMap.mpr ⟨child, hchild, ?_⟩)
    rw [windows_eq]
    rcases List.mem_append.mp (graph_of_reached hw) with hown | hnone
    · exact List.mem_append_left _ hown
    · obtain ⟨_, _, hw⟩ := List.mem_flatMap.mp hnone
      cases hw

end Run

/-! ## §3. The checks, as the code computes them and in exact arithmetic. -/

/-- The value fits an `i64`. -/
def InI64 (n : Int) : Prop := I64_MIN ≤ n ∧ n ≤ I64_MAX

/-- The two checks of the code on one window. -/
structure WindowChecked (policy : EvidencePolicy) (now : Int) (w : Window) : Prop where
  window : validate_window w.issued_at w.expires_at now policy.max_clock_skew_seconds = .ok ()
  ttl : validate_evidence_ttl w.issued_at w.expires_at policy.max_evidence_ttl_seconds = .ok ()

/-- What the checks are for, over the integers. -/
structure Within (policy : EvidencePolicy) (now : Int) (w : Window) : Prop where
  issued : w.issued_at ≤ now + policy.max_clock_skew_seconds
  expires : now ≤ w.expires_at
  ordered : 0 ≤ w.expires_at - w.issued_at
  duration : w.expires_at - w.issued_at ≤ policy.max_evidence_ttl_seconds

/-- No sum or difference the checks of a window compute overflows: its length is computed
once `validate_window` has passed and its ends are in order. -/
structure NoOverflow (policy : EvidencePolicy) (now : Int) (w : Window) : Prop where
  skew : InI64 (now + policy.max_clock_skew_seconds)
  age : InI64 (now - policy.max_observation_age_seconds)
  duration : validate_window w.issued_at w.expires_at now policy.max_clock_skew_seconds = .ok () →
    w.issued_at ≤ w.expires_at → InI64 (w.expires_at - w.issued_at)

/-- The bounds of a policy are nonnegative `i64` values. -/
structure PolicyBounds (policy : EvidencePolicy) : Prop where
  skew : 0 ≤ policy.max_clock_skew_seconds ∧ policy.max_clock_skew_seconds ≤ I64_MAX
  ttl : 0 ≤ policy.max_evidence_ttl_seconds ∧ policy.max_evidence_ttl_seconds ≤ I64_MAX
  age : 0 ≤ policy.max_observation_age_seconds ∧ policy.max_observation_age_seconds ≤ I64_MAX

/-- The latest clock considered. -/
def LATEST_CLOCK : Int := 4611686018427387904

section Checks

variable {policy : EvidencePolicy} {now : Int} {w : Window}

theorem validate_window_iff :
    validate_window w.issued_at w.expires_at now policy.max_clock_skew_seconds = .ok () ↔
      w.issued_at ≤ i64_wrap (now + policy.max_clock_skew_seconds) ∧ now ≤ w.expires_at := by
  unfold validate_window
  rw [bind_eq_ok, exists_unit, rejectIf_eq_ok, rejectIf_eq_ok, decide_eq_false_iff_not,
    decide_eq_false_iff_not, not_lt, not_lt]

theorem window_checked_iff :
    WindowChecked policy now w ↔
      w.issued_at ≤ i64_wrap (now + policy.max_clock_skew_seconds) ∧ now ≤ w.expires_at ∧
        w.issued_at ≤ w.expires_at ∧
          i64_wrap (w.expires_at - w.issued_at) ≤ policy.max_evidence_ttl_seconds := by
  have httl : validate_evidence_ttl w.issued_at w.expires_at policy.max_evidence_ttl_seconds =
      .ok () ↔ w.issued_at ≤ w.expires_at ∧
        i64_wrap (w.expires_at - w.issued_at) ≤ policy.max_evidence_ttl_seconds := by
    unfold validate_evidence_ttl
    rw [rejectIf_eq_ok, Bool.or_eq_false_iff, decide_eq_false_iff_not, decide_eq_false_iff_not,
      not_lt, not_lt]
  constructor
  · intro h
    obtain ⟨hissued, hexpires⟩ := validate_window_iff.mp h.window
    exact ⟨hissued, hexpires, httl.mp h.ttl⟩
  · intro h
    obtain ⟨hissued, hexpires, hlength⟩ := h
    exact ⟨validate_window_iff.mpr ⟨hissued, hexpires⟩, httl.mpr hlength⟩

/-- Of the windows that passed, those within the policy are those whose length fits. -/
theorem within_iff_fits (hpolicy : PolicyBounds policy) (hnow : 0 ≤ now)
    (hskew : now + policy.max_clock_skew_seconds ≤ I64_MAX) (h : WindowChecked policy now w) :
    Within policy now w ↔ w.expires_at - w.issued_at ≤ I64_MAX := by
  obtain ⟨hissued, hexpires, hordered, hduration⟩ := window_checked_iff.mp h
  have hlow : I64_MIN ≤ 0 := by decide
  have hskew' := hpolicy.skew.1
  constructor
  · intro hwithin
    exact le_trans hwithin.duration hpolicy.ttl.2
  · intro hfits
    rw [i64_wrap_of_range (by omega) hskew] at hissued
    rw [i64_wrap_of_range (by omega) hfits] at hduration
    exact ⟨hissued, hexpires, by omega, hduration⟩

/-- A window that is neither of the future nor over is no longer than an `i64` can tell. -/
def Fits (policy : EvidencePolicy) (now : Int) (w : Window) : Prop :=
  w.issued_at ≤ now + policy.max_clock_skew_seconds → now ≤ w.expires_at →
    w.expires_at - w.issued_at ≤ I64_MAX

instance (policy : EvidencePolicy) (now : Int) (w : Window) : Decidable (Fits policy now w) :=
  inferInstanceAs (Decidable (_ → _ → _))

theorem no_overflow_iff (hpolicy : PolicyBounds policy) (hnow : 0 ≤ now) (hmax : now ≤ I64_MAX) :
    NoOverflow policy now w ↔
      now + policy.max_clock_skew_seconds ≤ I64_MAX ∧ Fits policy now w := by
  have hskew := hpolicy.skew
  have hage := hpolicy.age
  have hwindow : now + policy.max_clock_skew_seconds ≤ I64_MAX →
      (validate_window w.issued_at w.expires_at now policy.max_clock_skew_seconds = .ok () ↔
        w.issued_at ≤ now + policy.max_clock_skew_seconds ∧ now ≤ w.expires_at) := by
    intro hsum
    have hlow : I64_MIN ≤ 0 := by decide
    rw [validate_window_iff, i64_wrap_of_range (by omega) hsum]
  unfold Fits
  constructor
  · intro h
    have hsum := h.skew.2
    refine ⟨hsum, fun hissued hexpires => ?_⟩
    by_cases hordered : w.issued_at ≤ w.expires_at
    · exact (h.duration ((hwindow hsum).mpr ⟨hissued, hexpires⟩) hordered).2
    · unfold I64_MAX
      omega
  · rintro ⟨hsum, hfits⟩
    constructor
    · unfold InI64 I64_MIN
      exact ⟨by omega, hsum⟩
    · unfold InI64 I64_MIN
      unfold I64_MAX at *
      omega
    · intro hpassed hordered
      obtain ⟨hissued, hexpires⟩ := (hwindow hsum).mp hpassed
      unfold InI64 I64_MIN
      exact ⟨by omega, hfits hissued hexpires⟩

end Checks

/-! ## §4. Accepted graphs. -/

section Accepting

variable {P : Platform} {policy : EvidencePolicy} {issuer_keys : IssuerKeyRegistry}
variable {graph : QueryEvidenceGraphV2} {expected_challenge : String} {now : Int}

/-- The windows of an accepted graph outside its attached graphs. -/
theorem own_windows_checked
    (h : validate_graph P policy issuer_keys graph expected_challenge now = .ok ()) :
    ∀ w ∈ (⟨graph.issued_at, graph.expires_at⟩ : Window) :: graph.edges.flatMap edge_windows,
      WindowChecked policy now w := by
  intro w hw
  rcases List.mem_cons.mp hw with heq | hedges
  · rw [heq]
    have hheader := header_checked_of_validate h
    exact ⟨hheader.window, hheader.ttl⟩
  · obtain ⟨edge, hedge, hw⟩ := List.mem_flatMap.mp hedges
    have hchecked := edge_checked_of_validate h hedge
    rcases List.mem_cons.mp hw with heq | hattested
    · rw [heq]
      exact ⟨hchecked.window, hchecked.ttl⟩
    · obtain ⟨attestation, hattestation, heq⟩ := List.mem_map.mp hattested
      have hattestation := hchecked.attestation attestation (Option.mem_toList.mp hattestation)
      rw [← heq]
      exact ⟨hattestation.window, hattestation.ttl⟩

/-- Every window of an accepted graph passed both checks, at every nesting. -/
theorem windows_checked_of_validate
    (h : validate_graph P policy issuer_keys graph expected_challenge now = .ok ()) :
    ∀ w ∈ windows graph, WindowChecked policy now w := by
  intro w hw
  rw [windows_eq] at hw
  rcases List.mem_append.mp hw with hown | hattached
  · exact own_windows_checked h w hown
  · obtain ⟨child, hchild, hw⟩ := List.mem_flatMap.mp hattached
    have hchecked := attached_checked_of_validate h hchild
    -- nothing is attached to an attached graph
    rw [windows_eq, hchecked.attached, List.flatMap_nil, List.append_nil] at hw
    exact own_windows_checked hchecked.accepted w hw

/-- The windows are within the policy, over the integers, if the graph is accepted, and no
check that the run comes to overflows. -/
structure ExactArithmetic (P : Platform) (policy : EvidencePolicy)
    (issuer_keys : IssuerKeyRegistry) (graph : QueryEvidenceGraphV2) (expected_challenge : String)
    (now : Int) : Prop where
  within : validate_graph P policy issuer_keys graph expected_challenge now = .ok () →
    ∀ w ∈ windows graph, Within policy now w
  no_overflow : ∀ w ∈ reached_windows P policy issuer_keys graph expected_challenge now,
    NoOverflow policy now w

/-- **The arithmetic is exact as long as** no window that the run comes to is longer than an `i64`
can tell, or over or of the future, and the skew does not lead past the last clock. -/
theorem exact_arithmetic_iff (hpolicy : PolicyBounds policy) (hnow : 0 ≤ now)
    (hlatest : now ≤ LATEST_CLOCK) :
    ExactArithmetic P policy issuer_keys graph expected_challenge now ↔
      ∀ w ∈ reached_windows P policy issuer_keys graph expected_challenge now,
        now + policy.max_clock_skew_seconds ≤ I64_MAX ∧ Fits policy now w := by
  have hmax : now ≤ I64_MAX := by
    unfold LATEST_CLOCK at hlatest
    unfold I64_MAX
    omega
  constructor
  · intro h w hw
    exact (no_overflow_iff hpolicy hnow hmax).mp (h.no_overflow w hw)
  · intro h
    constructor
    · intro haccepted w hw
      obtain ⟨hskew, hfits⟩ := h w (reached_of_validate haccepted w hw)
      have hchecked := windows_checked_of_validate haccepted w hw
      obtain ⟨hissued, hexpires, _⟩ := window_checked_iff.mp hchecked
      have hlow : I64_MIN ≤ 0 := by decide
      have hskew' := hpolicy.skew.1
      rw [i64_wrap_of_range (by omega) hskew] at hissued
      exact (within_iff_fits hpolicy hnow hskew hchecked).mpr (hfits hissued hexpires)
    · intro w hw
      exact (no_overflow_iff hpolicy hnow hmax).mpr (h w hw)

/-- The windows of a graph, its edge, its attestation and the graph attached to it. -/
theorem relay_graph_exact :
    ExactArithmetic relay_recording.platform .public_hybrid lab_issuer_keys relay_graph
      challenge_0 1750000001 := by
  have hpolicy : PolicyBounds .public_hybrid :=
    ⟨⟨by decide, by decide⟩, ⟨by decide, by decide⟩, ⟨by decide, by decide⟩⟩
  have hfits : ∀ w ∈ windows relay_graph, Fits .public_hybrid 1750000001 w := by
    decide +kernel
  refine (exact_arithmetic_iff hpolicy (by decide) (by decide)).mpr (fun w hw => ⟨by decide, ?_⟩)
  exact hfits w (windows_of_reached hw)

/-- The recorded signature of a cache graph issued before all time. -/
def old_signature : String :=
  "yxWwQRGzeSlJ/CsS0C9Vl0sPO5PId0oLx7VWiaHwPVGPpZkZEb2RgfgDDgntZLo5hh9/X2+88Hj2aUJSfsNZCA=="

/-- A graph that says it was issued at `i64::MIN` is accepted: its length wraps below the
bound of the policy. -/
theorem old_graph_within_no_policy :
    ¬ (validate_graph (cache_recording old_signature []).platform .public_hybrid lab_issuer_keys
        (cache_graph I64_MIN old_signature) challenge_0 1750000001 = .ok () →
      ∀ w ∈ windows (cache_graph I64_MIN old_signature), Within .public_hybrid 1750000001 w) := by
  intro hclaim
  have haccepted : validate_graph (cache_recording old_signature []).platform .public_hybrid
      lab_issuer_keys (cache_graph I64_MIN old_signature) challenge_0 1750000001 = .ok () := by
    decide +kernel
  have hwithin := hclaim haccepted ⟨I64_MIN, 1750000030⟩ (by
    rw [windows_eq]
    exact List.mem_append_left _ List.mem_cons_self)
  exact absurd hwithin.duration (by decide)

end Accepting

end ResolverIdentity.Verifier
