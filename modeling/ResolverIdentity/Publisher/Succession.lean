/-
  ResolverIdentity.Publisher.Succession: a plan that is built on the plan before it.

  What `build_plan` of `tools/manage_v2_registry.py` says is to be removed, and what a
  storage looks like that holds a plan and nothing else.

  Main results:
    * `mem_endpoint_unbinds_iff`, `mem_resolver_revocations_iff`: what is to be removed;
    * `succeeds_of_build_plan`: all that the phases rely on.
-/
import ResolverIdentity.Publisher.Phases

namespace ResolverIdentity.Publisher

open Library Json Sync V1 Agent

/-! ## §1. A plan on the chain. -/

/-- The entries are published under the root, and no others are. -/
structure Live (root : String) (entries : List PlanEntry) (r : Contract.Registry) : Prop where
  anchors : ∀ entry ∈ entries,
    get_resolver_anchor r entry.resolver_id_key = .ok (some (entry.anchor root))
  bindings : ∀ entry ∈ entries, ∀ endpoint_key ∈ entry.endpoint_keys,
    get_endpoint_binding r endpoint_key = .ok (some entry.resolver_id_key)
  only_anchors : ∀ key, (r.resolver_anchors key).object_version ≠ 0 →
    (r.resolver_anchors key).status ≠ .REVOKED → ∃ entry ∈ entries, word entry.resolver_id_key = key
  only_bindings : ∀ key, r.endpoint_to_resolver_id_key key ≠ 0 →
    ∃ entry ∈ entries, ∃ endpoint_key ∈ entry.endpoint_keys, word endpoint_key = key

/-- The root of the plan is active under the plan's version. -/
def RootPublished (plan : Plan) (r : Contract.Registry) : Prop :=
  ∃ published_at, get_root_record r plan.state_root =
    .ok (some ⟨plan.state_root, "ACTIVE", published_at, plan.root_version⟩)

/-- The anchors, the bindings and the revocations are what the plan describes. -/
structure Described (plan : Plan) (r : Contract.Registry) : Prop where
  root : RootPublished plan r
  live : Live plan.state_root plan.entries r
  revocations : ∀ removal ∈ plan.resolver_revocations, ∃ anchor,
    get_resolver_anchor r removal.resolver_id_key = .ok (some anchor) ∧ anchor.status = "REVOKED"

/-! ## §2. What is to be removed. -/

theorem lookup_by_server_id {entries : List PlanEntry}
    (hnodup : (entries.map PlanEntry.server_id).Nodup) {server_id : String} {entry : PlanEntry} :
    (by_server_id entries).lookup server_id = some entry ↔
      entry ∈ entries ∧ entry.server_id = server_id := by
  induction entries using List.reverseRecOn with
  | nil => exact ⟨fun h => (nomatch h), fun h => (nomatch h.1)⟩
  | append_singleton entries last ih =>
    rw [List.map_append, List.nodup_append] at hnodup
    obtain ⟨hnodup, _, hfresh⟩ := hnodup
    have hinsert : by_server_id (entries ++ [last]) =
        (by_server_id entries).insert last.server_id last := by
      unfold by_server_id
      rw [List.foldl_append]
      rfl
    rw [hinsert, List.mem_append, List.mem_singleton]
    by_cases hsame : server_id = last.server_id
    · rw [hsame, AList.lookup_insert]
      constructor
      · intro h
        rw [← Option.some.inj h]
        exact ⟨Or.inr rfl, rfl⟩
      · intro h
        rcases h with ⟨hbefore | hlast, hid⟩
        · -- the id of an earlier entry is another one
          exact absurd hid (hfresh _ (List.mem_map_of_mem hbefore) _ List.mem_cons_self)
        · rw [hlast]
    · rw [AList.lookup_insert_ne hsame, ih hnodup]
      constructor
      · intro h
        exact ⟨Or.inl h.1, h.2⟩
      · intro h
        rcases h with ⟨hbefore | hlast, hid⟩
        · exact ⟨hbefore, hid⟩
        · rw [hlast] at hid
          exact absurd hid.symm hsame

/-- The entries of the plan before, if there is one. -/
def entries_before (previous_plan : Option Plan) : List PlanEntry :=
  (previous_plan.map Plan.entries).getD []

theorem mem_previous_items {previous_plan : Option Plan}
    (hnodup : ((entries_before previous_plan).map PlanEntry.server_id).Nodup) {entry : PlanEntry} :
    entry ∈ previous_items previous_plan ↔ entry ∈ entries_before previous_plan := by
  unfold previous_items
  rw [List.mem_insertionSort, List.mem_map]
  constructor
  · intro h
    obtain ⟨⟨server_id, found⟩, hmem, heq⟩ := h
    have hlookup := AList.mem_lookup_iff.mpr hmem
    rw [← heq]
    exact ((lookup_by_server_id hnodup).mp hlookup).1
  · intro h
    exact ⟨⟨entry.server_id, entry⟩,
      AList.mem_lookup_iff.mp ((lookup_by_server_id hnodup).mpr ⟨h, rfl⟩), rfl⟩

/-- What an identity no longer has. -/
theorem mem_removed_endpoints {previous : PlanEntry} {entries : List PlanEntry}
    (hnodup : (entries.map PlanEntry.server_id).Nodup) {endpoint_key : String} :
    endpoint_key ∈ removed_endpoints previous ((by_server_id entries).lookup previous.server_id) ↔
      endpoint_key ∈ previous.endpoint_keys ∧ ∀ entry ∈ entries,
        entry.server_id = previous.server_id → endpoint_key ∉ entry.endpoint_keys := by
  unfold removed_endpoints
  rw [List.mem_insertionSort, List.mem_filter, List.mem_dedup, Bool.not_eq_true',
    ← Bool.not_eq_true, List.contains_iff_mem]
  refine and_congr_right (fun _ => ?_)
  cases hlookup : (by_server_id entries).lookup previous.server_id with
  | none =>
    constructor
    · intro _ entry hentry hid
      have hfound := (lookup_by_server_id hnodup).mpr ⟨hentry, hid⟩
      rw [hlookup] at hfound
      cases hfound
    · intro _
      exact List.not_mem_nil
  | some found =>
    obtain ⟨hmem, hid⟩ := (lookup_by_server_id hnodup).mp hlookup
    constructor
    · intro hremoved entry hentry hsame
      have hfound := (lookup_by_server_id hnodup).mpr ⟨hentry, hsame⟩
      rw [hlookup] at hfound
      rw [← Option.some.inj hfound]
      exact hremoved
    · intro hall
      exact hall found hmem hid

theorem mem_endpoint_unbinds_iff {previous_plan : Option Plan} {entries : List PlanEntry}
    (hbefore : ((entries_before previous_plan).map PlanEntry.server_id).Nodup)
    (hnodup : (entries.map PlanEntry.server_id).Nodup) {removal : EndpointUnbind} :
    removal ∈ endpoint_unbinds previous_plan entries ↔
      ∃ previous ∈ entries_before previous_plan, ∃ endpoint_key ∈ previous.endpoint_keys,
        (∀ entry ∈ entries, entry.server_id = previous.server_id →
          endpoint_key ∉ entry.endpoint_keys) ∧
        removal = ⟨previous.server_id, previous.resolver_id_key, endpoint_key⟩ := by
  unfold endpoint_unbinds
  rw [List.mem_flatMap]
  constructor
  · intro h
    obtain ⟨previous, hprevious, h⟩ := h
    obtain ⟨endpoint_key, hendpoint, heq⟩ := List.mem_map.mp h
    obtain ⟨hmem, hremoved⟩ := (mem_removed_endpoints hnodup).mp hendpoint
    exact ⟨previous, (mem_previous_items hbefore).mp hprevious, endpoint_key, hmem, hremoved,
      heq.symm⟩
  · intro h
    obtain ⟨previous, hprevious, endpoint_key, hmem, hremoved, heq⟩ := h
    exact ⟨previous, (mem_previous_items hbefore).mpr hprevious, List.mem_map.mpr
      ⟨endpoint_key, (mem_removed_endpoints hnodup).mpr ⟨hmem, hremoved⟩, heq.symm⟩⟩

theorem mem_resolver_revocations_iff {previous_plan : Option Plan} {entries : List PlanEntry}
    (hbefore : ((entries_before previous_plan).map PlanEntry.server_id).Nodup)
    (hnodup : (entries.map PlanEntry.server_id).Nodup) {removal : ResolverRevocation} :
    removal ∈ resolver_revocations previous_plan entries ↔
      ∃ previous ∈ entries_before previous_plan,
        (∀ entry ∈ entries, entry.server_id ≠ previous.server_id) ∧
        removal = ⟨previous.server_id, previous.resolver_id_key⟩ := by
  unfold resolver_revocations
  rw [List.mem_map]
  have hgone : ∀ previous : PlanEntry,
      ((by_server_id entries).lookup previous.server_id).isNone = true ↔
        ∀ entry ∈ entries, entry.server_id ≠ previous.server_id := by
    intro previous
    rw [Option.isNone_iff_eq_none, Option.eq_none_iff_forall_ne_some]
    constructor
    · intro h entry hentry hid
      exact h entry ((lookup_by_server_id hnodup).mpr ⟨hentry, hid⟩)
    · intro h entry hfound
      obtain ⟨hentry, hid⟩ := (lookup_by_server_id hnodup).mp hfound
      exact h entry hentry hid
  constructor
  · intro h
    obtain ⟨previous, hprevious, heq⟩ := h
    obtain ⟨hprevious, hnone⟩ := List.mem_filter.mp hprevious
    exact ⟨previous, (mem_previous_items hbefore).mp hprevious, (hgone previous).mp hnone, heq.symm⟩
  · intro h
    obtain ⟨previous, hprevious, hnone, heq⟩ := h
    exact ⟨previous, List.mem_filter.mpr
      ⟨(mem_previous_items hbefore).mpr hprevious, (hgone previous).mpr hnone⟩, heq.symm⟩

/-! ## §3. A plan and the entries before it. -/

/-- What the phases rely on of a plan that was built on earlier entries. -/
structure Succeeds (earlier : List PlanEntry) (plan : Plan) : Prop where
  state_root : IsDigest plan.state_root
  root_version : 0 < plan.root_version
  entries : ∀ entry ∈ plan.entries, entry.Shaped
  keys : ∀ previous ∈ earlier, ∀ entry ∈ plan.entries,
    previous.server_id = entry.server_id → previous.resolver_id_key = entry.resolver_id_key
  ids : ∀ entry ∈ plan.entries, ∀ other ∈ plan.entries,
    entry.server_id = other.server_id → entry = other
  owners : ∀ entry ∈ plan.entries, ∀ other ∈ plan.entries, ∀ endpoint_key ∈ entry.endpoint_keys,
    endpoint_key ∈ other.endpoint_keys → entry = other
  unbinds : ∀ removal, removal ∈ plan.endpoint_unbinds ↔
    ∃ previous ∈ earlier, ∃ endpoint_key ∈ previous.endpoint_keys,
      (∀ entry ∈ plan.entries, entry.server_id = previous.server_id →
        endpoint_key ∉ entry.endpoint_keys) ∧
      removal = ⟨previous.server_id, previous.resolver_id_key, endpoint_key⟩
  revocations : ∀ removal, removal ∈ plan.resolver_revocations ↔
    ∃ previous ∈ earlier, (∀ entry ∈ plan.entries, entry.server_id ≠ previous.server_id) ∧
      removal = ⟨previous.server_id, previous.resolver_id_key⟩
  shaped : ∀ previous ∈ earlier, previous.Shaped

section Build

variable {P : Platform} {C : Casing} {identities : List Json} {plan : Plan}
variable {entered : List (HashKey × List String)}

/-- What `build_plan` puts beside the entries. -/
theorem removals_of_build_plan {root_version : Int} {target : Except String PlanTarget}
    {previous_plan : Option Plan}
    (h : build_plan P C identities root_version target previous_plan = .ok plan) :
    0 < plan.root_version ∧ plan.endpoint_unbinds = endpoint_unbinds previous_plan plan.entries ∧
      plan.resolver_revocations = resolver_revocations previous_plan plan.entries ∧
        ∀ previous ∈ previous_plan, previous.root_version < plan.root_version := by
  unfold build_plan at h
  simp only [bind_eq_ok, exists_unit, rejectIf_eq_ok, decide_eq_false_iff_not, not_le, okOr_eq_ok,
    Except.ok.injEq] at h
  obtain ⟨hpositive, target, _, hprevious, items, _, entries, _, root, _, heq⟩ := h
  rw [← heq]
  refine ⟨hpositive, rfl, rfl, ?_⟩
  intro previous hmem
  rw [Option.mem_def.mp hmem] at hprevious
  simp only [check_previous, bind_eq_ok, exists_unit, rejectIf_eq_ok, decide_eq_false_iff_not,
    not_le] at hprevious
  exact hprevious.2

theorem shaped_of_loaded (hdigest : ∀ bytes, IsDigest (P.sha256_hex bytes))
    (hloaded : Loaded P identities entered) (hbuilt : Built P C identities plan) :
    ∀ entry ∈ plan.entries, entry.Shaped := by
  intro entry hentry
  obtain ⟨identity, hmade⟩ := made_of_entry hloaded hbuilt entry hentry
  have hdigests := hmade.digests hdigest
  obtain ⟨hstatus, hversion, _⟩ := hmade.checked
  exact ⟨hdigests.resolver_id_key, hdigests.object_hash, hdigests.endpoint_keys, hstatus, hversion⟩

theorem ids_of_loaded (hloaded : Loaded P identities entered)
    (hbuilt : Built P C identities plan) : (plan.entries.map PlanEntry.server_id).Nodup :=
  (entries_ascend hloaded hbuilt).imp (fun h => ne_of_lt h)

/-- The key of an entry is made of its id. -/
theorem key_of_loaded (hloaded : Loaded P identities entered) (hbuilt : Built P C identities plan) :
    ∀ entry ∈ plan.entries, entry.resolver_id_key = resolver_id_key P entry.server_id := by
  intro entry hentry
  obtain ⟨identity, hmade⟩ := made_of_entry hloaded hbuilt entry hentry
  rw [hmade.entry_of.resolver_id_key, hmade.entry_of.server_id]

/-- In a list of lists without repetitions a member is in one of the lists. -/
theorem owner_of_nodup {entries : List PlanEntry}
    (h : (entries.flatMap PlanEntry.endpoint_keys).Nodup) :
    ∀ entry ∈ entries, ∀ other ∈ entries, ∀ endpoint_key ∈ entry.endpoint_keys,
      endpoint_key ∈ other.endpoint_keys → entry = other := by
  induction entries with
  | nil =>
    intro entry hentry
    cases hentry
  | cons first rest ih =>
    rw [List.flatMap_cons, List.nodup_append] at h
    obtain ⟨_, hrest, hapart⟩ := h
    have habsent : ∀ other ∈ rest, ∀ endpoint_key ∈ first.endpoint_keys,
        endpoint_key ∉ other.endpoint_keys := by
      intro other hother endpoint_key hfirst hlater
      exact hapart _ hfirst _ (List.mem_flatMap.mpr ⟨other, hother, hlater⟩) rfl
    intro entry hentry other hother endpoint_key hkey hkey'
    rcases List.mem_cons.mp hentry with heq | hentry
    · rcases List.mem_cons.mp hother with heq' | hother
      · rw [heq, heq']
      · rw [heq] at hkey
        exact absurd hkey' (habsent other hother _ hkey)
    · rcases List.mem_cons.mp hother with heq' | hother
      · rw [heq'] at hkey'
        exact absurd hkey (habsent entry hentry _ hkey')
      · exact ih hrest entry hentry other hother endpoint_key hkey hkey'

/-- A plan of loaded identities succeeds a plan of loaded identities, or none. -/
theorem succeeds_of_build_plan (hdigest : ∀ bytes, IsDigest (P.sha256_hex bytes))
    {root_version : Int} {target : Except String PlanTarget} {previous_plan : Option Plan}
    (hloaded : Loaded P identities entered)
    (hplan : build_plan P C identities root_version target previous_plan = .ok plan)
    (hprevious : ∀ previous ∈ previous_plan, ∃ identities entered, Loaded P identities entered ∧
      Built P C identities previous) :
    Succeeds (entries_before previous_plan) plan := by
  have hbuilt := built_of_build_plan hplan
  obtain ⟨hpositive, hunbinds, hrevocations, _⟩ := removals_of_build_plan hplan
  have hids := ids_of_loaded hloaded hbuilt
  have hbefore : (∀ entry ∈ entries_before previous_plan, entry.Shaped) ∧
      ((entries_before previous_plan).map PlanEntry.server_id).Nodup ∧
      ∀ entry ∈ entries_before previous_plan,
        entry.resolver_id_key = resolver_id_key P entry.server_id := by
    cases previous_plan with
    | none => exact ⟨nofun, List.nodup_nil, nofun⟩
    | some previous =>
      obtain ⟨_, _, hloaded, hbuilt⟩ := hprevious previous rfl
      exact ⟨shaped_of_loaded hdigest hloaded hbuilt, ids_of_loaded hloaded hbuilt,
        key_of_loaded hloaded hbuilt⟩
  obtain ⟨hshaped, hbefore_ids, hkeys⟩ := hbefore
  refine ⟨(root_of_built hdigest hloaded hbuilt).2, hpositive,
    shaped_of_loaded hdigest hloaded hbuilt, ?_, ?_,
    owner_of_nodup (entries_endpoints_nodup hloaded hbuilt), ?_, ?_, hshaped⟩
  · intro previous hmem entry hentry hid
    rw [hkeys previous hmem, key_of_loaded hloaded hbuilt entry hentry, hid]
  · intro entry hentry other hother hid
    exact List.inj_on_of_nodup_map hids hentry hother hid
  · intro removal
    rw [hunbinds]
    exact mem_endpoint_unbinds_iff hbefore_ids hids
  · intro removal
    rw [hrevocations]
    exact mem_resolver_revocations_iff hbefore_ids hids

end Build

end ResolverIdentity.Publisher
