/-
  ResolverIdentity.Publisher.Republication: plan after plan.

  A first plan on a new contract, and a plan on the plan before it, as the `prepare` command
  of `tools/manage_v2_registry.py` builds them: of identities that `load_identities` took.

  Main results:
    * `first_plan_applied`: a plan without a plan before it, on a new contract;
    * `plan_applied_iff`: which plans get applied to a storage that holds the plan before.
-/
import ResolverIdentity.Publisher.Application

namespace ResolverIdentity.Publisher

open Library Json Sync V1 Agent

/-! ## §1. What a publication starts from. -/

section Plans

variable {P : Platform} {C : Casing} {keccak256 : String → Contract.Bytes32} {operator : Operator}
variable {issuers : List IssuerPublicKey} {payload : Json} {identities : List Json}
variable {root_version : Int} {target : Except String PlanTarget} {plan : Plan}
variable {admin : Contract.Address} {msg : Contract.Message} {logs : List Contract.Event}
variable {deployed start : Contract.Registry}

/-- No resolver of the plan was revoked. -/
def Unrevoked (plan : Plan) (start : Contract.Registry) : Prop :=
  ∀ entry ∈ plan.entries, ∀ anchor,
    get_resolver_anchor start entry.resolver_id_key = .ok (some anchor) → anchor.status ≠ "REVOKED"

/-- The transactions of a publication get into blocks before the plan expires. -/
def Unexpired (plan : Plan) (operator : Operator) : Prop :=
  ∀ count, ∀ entry ∈ plan.entries,
    ((operator.block_timestamp count).toNat : Int) < entry.valid_until

theorem ready_of_unrevoked (hstored : Contract.Stored start)
    (hauthorized : operator.Authorized keccak256 start) (hunexpired : Unexpired plan operator)
    (hshaped : ∀ entry ∈ plan.entries, entry.Shaped) (hunrevoked : Unrevoked plan start) :
    Ready keccak256 operator plan start := by
  refine ⟨hstored, hauthorized, hunexpired, ?_⟩
  intro entry hentry hstatus
  have hread := hunrevoked entry hentry
  rw [get_resolver_anchor_eq (hshaped entry hentry).resolver_id_key] at hread
  rcases hstored.anchors (word entry.resolver_id_key) with hblank | ⟨hkey, hne, _⟩
  · rw [hblank] at hstatus
    cases hstatus
  · unfold decode_anchor at hread
    rw [hkey, if_neg hne] at hread
    exact hread _ rfl (congrArg decode_status hstatus)

/-- A storage after a publication is one after transactions. -/
theorem reachable_of_runs {final : Progress Contract.Registry Contract.Call}
    {steps : List PhaseStep} (txs : List Contract.Transaction)
    (h : (publication C keccak256 operator plan).Runs steps
      ⟨deployed.after keccak256 txs, []⟩ final) :
    ∃ txs, final.state = deployed.after keccak256 txs := by
  refine Worker.runs_keeps (I := fun r => ∃ txs, r = deployed.after keccak256 txs) ?_ ⟨txs, rfl⟩ h
  intro count call r r' hr hsend
  obtain ⟨txs, heq⟩ := hr
  obtain ⟨logs, hbody⟩ := transact_eq_ok.mp hsend
  refine ⟨txs ++ [⟨⟨operator.sender call, operator.block_timestamp count⟩, call⟩], ?_⟩
  rw [Contract.Registry.after_snoc, ← heq]
  unfold Contract.Registry.execute transaction
  rw [hbody]

/-- What a new contract holds. -/
theorem blank_of_construct
    (h : Contract.Registry.construct keccak256 admin msg = .ok (logs, deployed)) :
    deployed.endpoint_to_resolver_id_key = Contract.Registry.blank.endpoint_to_resolver_id_key ∧
      deployed.resolver_anchors = Contract.Registry.blank.resolver_anchors ∧
        deployed.root_records = Contract.Registry.blank.root_records := by
  have add : ∀ {role account msg logs} {r r' : Contract.Registry},
      Contract.Registry.add_role role account msg r = .ok (logs, r') →
        r'.endpoint_to_resolver_id_key = r.endpoint_to_resolver_id_key ∧
          r'.resolver_anchors = r.resolver_anchors ∧ r'.root_records = r.root_records := by
    intro role account msg logs r r' hadd
    rcases Contract.Registry.add_role_eq_ok hadd with ⟨_, heq⟩ | ⟨_, count, _, _, heq⟩
    · rw [heq]
      exact ⟨rfl, rfl, rfl⟩
    · rw [heq]
      exact ⟨rfl, rfl, rfl⟩
  simp only [Contract.Registry.construct, bind_eq_ok, exists_unit, Prod.exists, pure_eq_ok,
    Except.ok.injEq, Prod.mk.injEq] at h
  obtain ⟨_, _, r₁, h₁, _, r₂, h₂, _, r₃, h₃, _, r₄, h₄, _, r₅, h₅, _, heq⟩ := h
  rw [← heq, (add h₅).1, (add h₄).1, (add h₃).1, (add h₂).1, (add h₁).1, (add h₅).2.1,
    (add h₄).2.1, (add h₃).2.1, (add h₂).2.1, (add h₁).2.1, (add h₅).2.2, (add h₄).2.2,
    (add h₃).2.2, (add h₂).2.2, (add h₁).2.2]
  exact ⟨rfl, rfl, rfl⟩

/-! ## §2. Plans that get applied. -/

/-- The setting of a first plan: a new contract, and words the contract takes. -/
theorem first_setting (hdigest : ∀ bytes, IsDigest (P.sha256_hex bytes))
    (hload : load_identities P issuers payload = .ok identities)
    (hplan : build_plan P C identities root_version target none = .ok plan)
    (hdeployed : Contract.Registry.construct keccak256 admin msg = .ok (logs, deployed))
    (hauthorized : operator.Authorized keccak256 deployed) (hunexpired : Unexpired plan operator)
    (hroot : word plan.state_root ≠ 0) (hversion : Unsigned plan.root_version)
    (hfits : ∀ entry ∈ plan.entries, entry.Fits)
    (hkeys : ∀ entry ∈ plan.entries, ∀ other ∈ plan.entries,
      entry.resolver_id_key = other.resolver_id_key → entry = other) :
    Setting keccak256 operator [] plan plan.state_root deployed := by
  obtain ⟨entered, hloaded⟩ := loaded_of_load_identities hload
  have hsucceeds := succeeds_of_build_plan hdigest hloaded hplan nofun
  obtain ⟨hendpoints, hanchors, hroots⟩ := blank_of_construct hdeployed
  have hrevocations : ∀ removal, removal ∉ plan.resolver_revocations := by
    intro removal hremoval
    obtain ⟨previous, hprevious, _⟩ := (hsucceeds.revocations removal).mp hremoval
    cases hprevious
  refine ⟨hsucceeds, hsucceeds.state_root, ⟨nofun, nofun, ?_, ?_⟩,
    ⟨Contract.Stored.construct hdeployed, hauthorized, hunexpired, ?_⟩, ?_⟩
  · intro key hexists
    rw [hanchors] at hexists
    exact absurd rfl hexists
  · intro key hbound
    rw [hendpoints] at hbound
    exact absurd rfl hbound
  · intro entry _ hstatus
    rw [hanchors] at hstatus
    cases hstatus
  · refine ⟨?_, hroot, hversion, hfits, nofun, nofun, ?_, ?_⟩
    · left
      rw [get_root_record_eq hsucceeds.state_root, hroots]
      rfl
    · intro entry hentry other hother hkey
      rw [hkeys entry hentry other hother hkey]
      exact ⟨rfl, rfl, rfl⟩
    · intro removal hremoval
      exact absurd hremoval (hrevocations removal)

/-- A first plan gets applied, and leaves no other root and no revocation behind. -/
theorem first_plan_applied (hdeployed : Contract.Registry.construct keccak256 admin msg =
      .ok (logs, deployed)) (C : Casing)
    (h : Setting keccak256 operator [] plan plan.state_root deployed) :
    Applied C keccak256 operator plan deployed ∧ ∃ txs,
      Described plan (deployed.after keccak256 txs) ∧
      operator.Authorized keccak256 (deployed.after keccak256 txs) ∧
      (∀ root, root ≠ word plan.state_root →
        (deployed.after keccak256 txs).root_records root = .blank) ∧
      ∀ key, ((deployed.after keccak256 txs).resolver_anchors key).status ≠ .REVOKED := by
  obtain ⟨_, hanchors, hroots⟩ := blank_of_construct hdeployed
  obtain ⟨final, hruns, hlast, hsettled⟩ := Worker.exists_run
    (p := (⟨deployed, []⟩ : Progress Contract.Registry Contract.Call)) (h.advances C)
    h.underway_start
  have hreachable : ∃ txs, final.state = deployed.after keccak256 txs :=
    reachable_of_runs [] hruns
  obtain ⟨txs, hfinal⟩ := hreachable
  refine ⟨h.applied C, txs, ?_⟩
  rw [← hfinal]
  refine ⟨h.described hlast hsettled, h.authorized hlast, ?_, ?_⟩
  · intro root hne
    rw [hlast.other_roots root hne, hroots]
    rfl
  · intro key
    rcases hlast.anchors key with hsame | ⟨entry, _, _, hslot⟩ | ⟨removal, hremoval, _⟩
    · rw [hsame, hanchors]
      exact nofun
    · rw [hslot]
      exact nofun
    · obtain ⟨previous, hprevious, _⟩ := (h.succeeds.revocations removal).mp hremoval
      cases hprevious

/-- Where no anchor is revoked, none of a plan is. -/
theorem unrevoked_of_status (hstored : Contract.Stored start)
    (hshaped : ∀ entry ∈ plan.entries, entry.Shaped)
    (h : ∀ key, (start.resolver_anchors key).status ≠ .REVOKED) : Unrevoked plan start := by
  intro entry hentry anchor hread hrevoked
  rw [get_resolver_anchor_eq (hshaped entry hentry).resolver_id_key, Except.ok.injEq] at hread
  rcases hstored.anchors (word entry.resolver_id_key) with hblank | ⟨hkey, hne, _⟩
  · rw [hblank] at hread
    cases hread
  · unfold decode_anchor at hread
    rw [hkey, if_neg hne] at hread
    rw [← Option.some.inj hread] at hrevoked
    exact h _ (decode_status_eq_iff.mp
      (show decode_status _ = decode_status .REVOKED from hrevoked))

/-- A plan of loaded identities on a plan of loaded identities. -/
theorem succession (hdigest : ∀ bytes, IsDigest (P.sha256_hex bytes))
    {issuers' : List IssuerPublicKey} {payload' : Json} {identities' : List Json}
    {root_version' : Int} {target' : Except String PlanTarget} {previous_plan : Option Plan}
    {before : Plan} (hload : load_identities P issuers payload = .ok identities)
    (hbefore : build_plan P C identities root_version target previous_plan = .ok before)
    (hload' : load_identities P issuers' payload' = .ok identities')
    (hplan : build_plan P C identities' root_version' target' (some before) = .ok plan) :
    Succeeds before.entries plan ∧ IsDigest before.state_root ∧
      before.root_version < plan.root_version := by
  obtain ⟨entered, hloaded⟩ := loaded_of_load_identities hload
  obtain ⟨entered', hloaded'⟩ := loaded_of_load_identities hload'
  have hbuilt := built_of_build_plan hbefore
  refine ⟨?_, (root_of_built hdigest hloaded hbuilt).2,
    (removals_of_build_plan hplan).2.2.2 before rfl⟩
  refine succeeds_of_build_plan hdigest hloaded' hplan ?_
  intro previous hprevious
  rw [← Option.some.inj hprevious]
  exact ⟨identities, entered, hloaded, hbuilt⟩

/-- **A plan on the plan before it gets applied, with phases that may be repeated, exactly if it
is applicable.** -/
theorem plan_applied_iff (hdigest : ∀ bytes, IsDigest (P.sha256_hex bytes))
    {issuers' : List IssuerPublicKey} {payload' : Json} {identities' : List Json}
    {root_version' : Int} {target' : Except String PlanTarget} {previous_plan : Option Plan}
    {before : Plan} (hload : load_identities P issuers payload = .ok identities)
    (hbefore : build_plan P C identities root_version target previous_plan = .ok before)
    (hload' : load_identities P issuers' payload' = .ok identities')
    (hplan : build_plan P C identities' root_version' target' (some before) = .ok plan)
    (hdeployed : Contract.Registry.construct keccak256 admin msg = .ok (logs, deployed))
    (txs : List Contract.Transaction)
    (hdescribed : Described before (deployed.after keccak256 txs))
    (hauthorized : operator.Authorized keccak256 (deployed.after keccak256 txs))
    (hunexpired : Unexpired plan operator)
    (hunrevoked : Unrevoked plan (deployed.after keccak256 txs)) :
    Applied C keccak256 operator plan (deployed.after keccak256 txs) ↔
      Applicable before.entries plan (deployed.after keccak256 txs) := by
  obtain ⟨hsucceeds, hroot, hversion⟩ := succession hdigest hload hbefore hload' hplan
  have hstored : Contract.Stored (deployed.after keccak256 txs) :=
    (Contract.Stored.construct hdeployed).after txs
  constructor
  · exact applicable_of_applied hsucceeds hroot hversion hdescribed hstored
  · intro happlicable
    exact Setting.applied ⟨hsucceeds, hroot, hdescribed.live, ready_of_unrevoked hstored
      hauthorized hunexpired hsucceeds.entries hunrevoked, happlicable⟩ C

end Plans

/-! ## §3. Recorded publications. -/

/-- How an identity begins that differs from another in its version. -/
def unsigned_identity (object_version : Nat) : String :=
  "\x7b\"anycast\":false,\"endpoints\":[\x7b\"ip\":\"192.0.2.2\",\"port\":53,\"transport\":\"udp\"\x7d]," ++
    "\"issuer\":\"operator-a\",\"key_id\":\"operator-a-1\",\"object_version\":" ++
      toString object_version

/-- How a plan begins that differs from another in its leaf. -/
def begun_plan (leaf : String) : String :=
  "\x7b\"endpoint_unbinds\":[],\"entries\":[\x7b\"endpoint_keys\":[" ++
    "\"0xd99673f51c25f093db2acbddcfb52bc5d95e83c3147921bb140c25e0ad859739\"],\"leaf_hash\":\"" ++
      leaf

/-- The recorded digests of three plans, found again by how the hashed bytes begin. -/
def phase_table : List (String × Nat) := [
  ("resolver-id:r0", 0x6a496e16f1a499fc7fdfa6b10e02b3f65b19682a5335749841e24a69b8460e50),
  ("resolver-id:r1", 0x74f9075b88d5a5cec41958c9e6b6738f1f26dc0b976b3588444b1dbb4f736585),
  ("endpoint-v2:\x7b\"ip\":\"192.0.2.1\"",
    0x4356fe8ba3df2de8ae5381e548c4983637834aaef5b65b2162c72de1fca5bdb4),
  ("endpoint-v2:\x7b\"ip\":\"192.0.2.2\"",
    0xd99673f51c25f093db2acbddcfb52bc5d95e83c3147921bb140c25e0ad859739),
  ("\x7b\"anycast\":false,\"endpoints\":[\x7b\"ip\":\"192.0.2.1\"",
    0xa4d860103a3f93254e5bae2a528b06831526e605e3fa1a50742c4f8dba50d572),
  (unsigned_identity 1, 0x062f0ae67f95135824d5644784b61d1bbdcdcc3619e7deaaa4ad1a147a16c5ee),
  (unsigned_identity 2, 0x8c05ca0087eb91d1d4de410e7c9da21c8a3af6e14baa3e87ee5277d70b329fc3),
  ("resolver-leaf-v1|0x6a49", 0xeb53490eb8002912ff88a1c7936c6767e10bc48d0bab05525d501e02bbfafbf5),
  ("resolver-leaf-v1|0x74f9075b88d5a5cec41958c9e6b6738f1f26dc0b976b3588444b1dbb4f736585|0x062f",
    0x5e5ddd42f1b09f370a2215ce82789333a14dec9789dcd68da5768087a6f4e949),
  ("resolver-leaf-v1|0x74f9075b88d5a5cec41958c9e6b6738f1f26dc0b976b3588444b1dbb4f736585|0x8c05",
    0xb8e9f6b43e618f118243faf8f202871529a91ac817f57c47214b1683afc9f048),
  ("node-v1", 0x550bad483e23264bb98ee6c61a4082b23945cc536c19619a10fad1c709d7c6c6),
  ("\x7b\"endpoint_unbinds\":[],\"entries\":[\x7b\"endpoint_keys\":[\"0x4356",
    0xfde3f042fc0d275c93946c252dbe97787a4ed4dcfec98bfd02ae37878ecb60a2),
  (begun_plan "0x5e5d", 0x7ac6dd6102b25397ba4764f361153b18a67c5625152bae8a271477a004f7fce3),
  (begun_plan "0xb8e9", 0xf136079f374d0415ed5b04209bf087e44e04b9987efb50091285a1773afc5c8d)]

/-- The recorded signatures of both plans. -/
def phase_recording : Recording where
  digests := []
  keys := plan_recording.keys
  signatures := [
    ("iojj3XQJ8ZX9UtstPLpdcspnCb8dlBIb83SIAbQPb1w=",
      "\x7b\"anycast\":false,\"endpoints\":[\x7b\"ip\":\"192.0.2.1\"",
      "BQGGeRddkDQVUAXn9c7ThvhyP4ASZGfkljSqL7KIGOFtBnesfEhydfwO1Vc6ANVJiNy86WBhl1EioCdTNjS4Dg=="),
    ("iojj3XQJ8ZX9UtstPLpdcspnCb8dlBIb83SIAbQPb1w=", unsigned_identity 1,
      "e00HtsUBdjBTXArDgC1E45HQue26ZJAz/R6INz4f7cDer0PT+m6VYG3O2vPOdUp3sUAdx8G2wHpUoPyfcQBuAQ=="),
    ("iojj3XQJ8ZX9UtstPLpdcspnCb8dlBIb83SIAbQPb1w=", unsigned_identity 2,
      "Ee4X62G7NAqZ2mgdLHDcya5AaQ95OAOkRO7pD2/+I8h/+OVen9m+rRj6RYH3iul7Txef/SbQkYjGC9eED4mVCw==")]

/-- Those signatures, and digests from a table. -/
def phase_platform : Platform :=
  { plan_platform with
    sha256_hex := fun bytes => hex_text (low_bytes 32
      (((phase_table.find? (fun entry => Recording.begins bytes entry.1)).map Prod.snd).getD 0))
    ed25519_verify := phase_recording.platform.ed25519_verify }

theorem phase_platform_digest (bytes : List UInt8) : IsDigest (phase_platform.sha256_hex bytes) :=
  ⟨_, low_bytes_length 32 _, rfl⟩

/-- A second identity, before the first in the order of ids. -/
def added_authority : Json := lab_authority "r0" "192.0.2.1"
  "base64:ed25519:BQGGeRddkDQVUAXn9c7ThvhyP4ASZGfkljSqL7KIGOFtBnesfEhydfwO1Vc6ANVJiNy86WBhl1EioCdTNjS4Dg=="

/-- The first identity again, with a larger version. -/
def raised_authority : Json := .object [
  ("schema_version", .string "dns-server-identity-v2"), ("server_id", .string "r1"),
  ("operator_id", .string "operator-a"), ("role", .string "AUTHORITATIVE"),
  ("endpoints", .array [.object [("ip", .string "192.0.2.2"), ("port", .number 53),
    ("transport", .string "udp")]]),
  ("anycast", .bool false), ("valid_from", .number 1700000000),
  ("valid_until", .number 1900000000), ("object_version", .number 2), ("status", .string "ACTIVE"),
  ("issuer", .string "operator-a"), ("key_id", .string "operator-a-1"),
  ("signature", .string
    "base64:ed25519:Ee4X62G7NAqZ2mgdLHDcya5AaQ95OAOkRO7pD2/+I8h/+OVen9m+rRj6RYH3iul7Txef/SbQkYjGC9eED4mVCw==")]

/-- One account signs for all phases. -/
def lab_operator : Operator where
  root_publisher := 7
  resolver_publisher := 7
  endpoint_manager := 7
  revoker := 7
  block_timestamp := fun _ => 1800000000

theorem lab_authorized :
    lab_operator.Authorized Contract.recorded_keccak256 Contract.recorded_registry :=
  ⟨rfl, rfl, rfl, rfl⟩

/-- The words of a plan are not zero, and its identities expire after the publication. -/
def Lasting (plan : Plan) : Prop :=
  word plan.state_root ≠ 0 ∧ ∀ entry ∈ plan.entries, entry.valid_until = 1900000000 ∧
    entry.object_version < 3 ∧ word entry.resolver_id_key ≠ 0 ∧ word entry.object_hash ≠ 0 ∧
      ∀ endpoint_key ∈ entry.endpoint_keys, word endpoint_key ≠ 0

/-- The first identity is all that is in the plan, with the version of the plan. -/
def FirstAlone (plan : Plan) : Prop :=
  plan.entries ≠ [] ∧ plan.root_version < 3 ∧
    ∀ entry ∈ plan.entries, entry.server_id = "r1" ∧ entry.object_version = plan.root_version

instance (plan : Plan) : Decidable (Lasting plan) := by
  unfold Lasting
  infer_instance

instance (plan : Plan) : Decidable (FirstAlone plan) := by
  unfold FirstAlone
  infer_instance

/-- The three artifacts pass the shape check, which reads each text once for all of them. -/
theorem lab_loaded {identities : List Json} (h : identities ∈
      [[lower_authority], [raised_authority], [added_authority, lower_authority]]) :
    load_identities phase_platform lab_issuers (lab_artifact identities) = .ok identities := by
  have hall : ∀ identities ∈
      [[lower_authority], [raised_authority], [added_authority, lower_authority]],
      (load_identities phase_platform lab_issuers (lab_artifact identities)).toOption.isSome =
        true := by
    decide +kernel
  obtain ⟨loaded, hloaded⟩ := Option.isSome_iff_exists.mp (hall identities h)
  have hloaded := toOption_eq_some hloaded
  rw [hloaded, Json.array.inj (listed_of_load_identities hloaded)]

theorem lower_loaded : load_identities phase_platform lab_issuers
    (lab_artifact [lower_authority]) = .ok [lower_authority] :=
  lab_loaded List.mem_cons_self

/-- The first plan, one with the identity raised, and one with another identity beside it. -/
theorem lab_plans : ∃ before raised added,
    build_plan phase_platform ascii_casing [lower_authority] 1 (.ok lab_target) none = .ok before ∧
    build_plan phase_platform ascii_casing [raised_authority] 2 (.ok lab_target) (some before) =
      .ok raised ∧
    build_plan phase_platform ascii_casing [added_authority, lower_authority] 2 (.ok lab_target)
      (some before) = .ok added ∧
    (Lasting before ∧ FirstAlone before ∧ Lasting raised ∧ FirstAlone raised ∧ Lasting added) ∧
    word raised.state_root ≠ word before.state_root ∧
    ∃ entry ∈ added.entries, entry.server_id = "r1" ∧ entry.object_version = 1 := by
  have heval : ((build_plan phase_platform ascii_casing [lower_authority] 1 (.ok lab_target)
      none).toOption.bind (fun before =>
        (build_plan phase_platform ascii_casing [raised_authority] 2 (.ok lab_target)
          (some before)).toOption.bind (fun raised =>
            (build_plan phase_platform ascii_casing [added_authority, lower_authority] 2
              (.ok lab_target) (some before)).toOption.filter (fun added => decide (
                (Lasting before ∧ FirstAlone before ∧ Lasting raised ∧ FirstAlone raised ∧
                  Lasting added) ∧ word raised.state_root ≠ word before.state_root ∧
                ∃ entry ∈ added.entries,
                  entry.server_id = "r1" ∧ entry.object_version = 1))))).isSome = true := by
    decide +kernel
  obtain ⟨_, heval⟩ := Option.isSome_iff_exists.mp heval
  obtain ⟨before, hbefore, heval⟩ := Option.bind_eq_some_iff.mp heval
  obtain ⟨raised, hraised, heval⟩ := Option.bind_eq_some_iff.mp heval
  obtain ⟨hadded, hchecks⟩ := Option.filter_eq_some_iff.mp heval
  exact ⟨before, raised, _, toOption_eq_some hbefore, toOption_eq_some hraised,
    toOption_eq_some hadded, of_decide_eq_true hchecks⟩

theorem Lasting.fits {plan : Plan} (h : Lasting plan)
    (hshaped : ∀ entry ∈ plan.entries, entry.Shaped) : ∀ entry ∈ plan.entries, entry.Fits := by
  intro entry hentry
  obtain ⟨huntil, hversion, hkey, hhash, hendpoints⟩ := h.2 entry hentry
  have hpositive := (hshaped entry hentry).object_version
  refine ⟨hkey, hhash, hendpoints, ⟨le_of_lt hpositive, by omega⟩, ?_⟩
  rw [huntil]
  exact ⟨by decide, by decide⟩

theorem Lasting.unexpired {plan : Plan} (h : Lasting plan) : Unexpired plan lab_operator := by
  intro count entry hentry
  rw [(h.2 entry hentry).1]
  show (((1800000000 : Contract.Uint256).toNat : Nat) : Int) < 1900000000
  decide

/-- The first plan on a new contract. -/
theorem lab_published {before : Plan} (hbuild : build_plan phase_platform ascii_casing
      [lower_authority] 1 (.ok lab_target) none = .ok before) (hlasting : Lasting before)
    (halone : FirstAlone before) : ∃ txs,
      Described before (Contract.recorded_registry.after Contract.recorded_keccak256 txs) ∧
      lab_operator.Authorized Contract.recorded_keccak256
        (Contract.recorded_registry.after Contract.recorded_keccak256 txs) ∧
      (∀ root, root ≠ word before.state_root → (Contract.recorded_registry.after
        Contract.recorded_keccak256 txs).root_records root = .blank) ∧
      ∀ key, ((Contract.recorded_registry.after
        Contract.recorded_keccak256 txs).resolver_anchors key).status ≠ .REVOKED := by
  obtain ⟨entered, hloaded⟩ := loaded_of_load_identities lower_loaded
  have hsucceeds := succeeds_of_build_plan phase_platform_digest hloaded hbuild nofun
  have hpositive := hsucceeds.root_version
  have hsmall := halone.2.1
  refine (first_plan_applied Contract.recorded_deployment ascii_casing (first_setting
    phase_platform_digest lower_loaded hbuild Contract.recorded_deployment lab_authorized
    hlasting.unexpired hlasting.1 ⟨le_of_lt hpositive, by omega⟩
    (hlasting.fits hsucceeds.entries) ?_)).2
  intro entry hentry other hother _
  exact hsucceeds.ids entry hentry other hother
    ((halone.2.2 entry hentry).1.trans (halone.2.2 other hother).1.symm)

/-- An identity with a larger version is applied over the one before. -/
theorem raised_identity_applied : ∃ before plan txs,
    build_plan phase_platform ascii_casing [lower_authority] 1 (.ok lab_target) none = .ok before ∧
    build_plan phase_platform ascii_casing [raised_authority] 2 (.ok lab_target) (some before) =
      .ok plan ∧
    Applied ascii_casing Contract.recorded_keccak256 lab_operator plan
      (Contract.recorded_registry.after Contract.recorded_keccak256 txs) := by
  obtain ⟨before, plan, _, hbefore, hplan, _,
    ⟨hlasting, halone, hlasting', halone', _⟩, hroots, _⟩ := lab_plans
  have hload' : load_identities phase_platform lab_issuers (lab_artifact [raised_authority]) =
      .ok [raised_authority] := lab_loaded (List.mem_cons_of_mem _ List.mem_cons_self)
  obtain ⟨hsucceeds, _, hversion⟩ :=
    succession phase_platform_digest lower_loaded hbefore hload' hplan
  obtain ⟨txs, hdescribed, hauthorized, hother_roots, hstatus⟩ :=
    lab_published hbefore hlasting halone
  have hstored : Contract.Stored
      (Contract.recorded_registry.after Contract.recorded_keccak256 txs) :=
    (Contract.Stored.construct Contract.recorded_deployment).after txs
  refine ⟨before, plan, txs, hbefore, hplan, (plan_applied_iff phase_platform_digest lower_loaded
    hbefore hload' hplan Contract.recorded_deployment txs hdescribed hauthorized
    hlasting'.unexpired (unrevoked_of_status hstored hsucceeds.entries hstatus)).mpr ?_⟩
  have hsame : ∀ previous ∈ before.entries, ∀ entry ∈ plan.entries,
      previous.server_id = entry.server_id := fun previous hprevious entry hentry =>
    (halone.2.2 previous hprevious).1.trans (halone'.2.2 entry hentry).1.symm
  refine ⟨?_, hlasting'.1, ⟨le_of_lt hsucceeds.root_version, ?_⟩, hlasting'.fits hsucceeds.entries,
    ?_, fun previous hprevious entry hentry _ _ _ => hsame previous hprevious entry hentry, ?_, ?_⟩
  · left
    rw [get_root_record_eq hsucceeds.state_root, hother_roots _ hroots]
    rfl
  · have hsmall := halone'.2.1
    omega
  · intro previous hprevious entry hentry _
    rw [(halone.2.2 previous hprevious).2, (halone'.2.2 entry hentry).2]
    exact hversion
  · intro entry hentry other hother _
    have heq := hsucceeds.ids entry hentry other hother
      ((halone'.2.2 entry hentry).1.trans (halone'.2.2 other hother).1.symm)
    rw [heq]
    exact ⟨rfl, rfl, rfl⟩
  · intro removal hremoval
    obtain ⟨previous, hprevious, hgone, _⟩ := (hsucceeds.revocations removal).mp hremoval
    obtain ⟨entry, hentry⟩ := List.exists_mem_of_ne_nil _ halone'.1
    exact absurd (hsame previous hprevious entry hentry).symm (hgone entry hentry)

/-- An identity that is kept unchanged beside another one stops the publication. -/
theorem unchanged_identity_not_applied : ∃ before plan txs,
    build_plan phase_platform ascii_casing [lower_authority] 1 (.ok lab_target) none = .ok before ∧
    build_plan phase_platform ascii_casing [added_authority, lower_authority] 2 (.ok lab_target)
      (some before) = .ok plan ∧
    load_identities phase_platform lab_issuers (lab_artifact [lower_authority]) =
      .ok [lower_authority] ∧
    load_identities phase_platform lab_issuers (lab_artifact [added_authority, lower_authority]) =
      .ok [added_authority, lower_authority] ∧
    Described before (Contract.recorded_registry.after Contract.recorded_keccak256 txs) ∧
    lab_operator.Authorized Contract.recorded_keccak256
      (Contract.recorded_registry.after Contract.recorded_keccak256 txs) ∧
    Unexpired plan lab_operator ∧
    Unrevoked plan (Contract.recorded_registry.after Contract.recorded_keccak256 txs) ∧
    ¬ Applied ascii_casing Contract.recorded_keccak256 lab_operator plan
      (Contract.recorded_registry.after Contract.recorded_keccak256 txs) := by
  obtain ⟨before, _, plan, hbefore, _, hplan, ⟨hlasting, halone, _, _, hlasting'⟩, _, entry, hentry,
    hid, hversion⟩ := lab_plans
  have hload' : load_identities phase_platform lab_issuers
      (lab_artifact [added_authority, lower_authority]) = .ok [added_authority, lower_authority] :=
    lab_loaded (List.mem_cons_of_mem _ (List.mem_cons_of_mem _ List.mem_cons_self))
  obtain ⟨hsucceeds, hroot, hversions⟩ :=
    succession phase_platform_digest lower_loaded hbefore hload' hplan
  obtain ⟨txs, hdescribed, hauthorized, _, hstatus⟩ := lab_published hbefore hlasting halone
  have hstored : Contract.Stored
      (Contract.recorded_registry.after Contract.recorded_keccak256 txs) :=
    (Contract.Stored.construct Contract.recorded_deployment).after txs
  refine ⟨before, plan, txs, hbefore, hplan, lower_loaded, hload', hdescribed, hauthorized,
    hlasting'.unexpired, unrevoked_of_status hstored hsucceeds.entries hstatus, ?_⟩
  intro happlied
  have happlicable := applicable_of_applied hsucceeds hroot hversions hdescribed hstored happlied
  obtain ⟨previous, hprevious⟩ := List.exists_mem_of_ne_nil _ halone.1
  obtain ⟨hprevious_id, hprevious_version⟩ := halone.2.2 previous hprevious
  have hraised := happlicable.raised previous hprevious entry hentry (hprevious_id.trans hid.symm)
  have hpositive := (hsucceeds.shaped previous hprevious).object_version
  omega

end ResolverIdentity.Publisher
