/-
  ResolverIdentity.Sync.Finality: finalized checkpoints over whole runs.

  The synchronizer against a node whose head and finalized heights never go down.  Each
  cycle, `finalized_checkpoint` takes the block of the tag `finalized`, or, where that
  call fails, the block some confirmations behind the head.

  Main results:
    * `finalized_checkpoint_height`: the height is the one of the source that answered;
    * `never_regresses_iff`: the heights never regress, and no cycle is refused as a
      rollback, in exactly the runs where every change of source goes up;
    * `fallback_overtakes`: a run of two cycles where it does not.
-/
import Mathlib.Data.List.Chain
import ResolverIdentity.Library.Machine
import ResolverIdentity.Sync.EvmAdapter

namespace ResolverIdentity.Sync

open Library Store

/-! ## §1. A node. -/

/-- The heights a node is at. -/
structure Heights where
  head : Nat
  finalized : Nat
  finalized_le : finalized ≤ head
  fits : head < 2 ^ 64

/-- Neither height goes down. -/
def Heights.Before (a b : Heights) : Prop := a.head ≤ b.head ∧ a.finalized ≤ b.finalized

instance (a b : Heights) : Decidable (a.Before b) := inferInstanceAs (Decidable (_ ∧ _))

theorem Heights.Before.trans {a b c : Heights} (h : a.Before b) (h' : b.Before c) : a.Before c :=
  ⟨Nat.le_trans h.1 h'.1, Nat.le_trans h.2 h'.2⟩

/-- A chain without reorganisation: one block at each height. -/
structure EvmNode where
  hash : Nat → String
  hash_valid : ∀ number, normalize_hash (hash number) 32 = .ok (hash number)

/-- What becomes of the call for the tag `finalized`. -/
inductive TagReply where
  | answered
  | missing
  | failed (error : String)

namespace EvmNode

variable (node : EvmNode)

/-- A block of the node. -/
def block (number : Nat) : Json :=
  .object [("hash", .string (node.hash number)), ("number", .string (quantity number))]

/-- `eth_getBlockByNumber` of the tag. -/
def finalized (reply : TagReply) (heights : Heights) : Except String Json :=
  match reply with
  | .answered => .ok (node.block heights.finalized)
  | .missing => .ok .null
  | .failed error => .error error

/-- A call that failed, or its answer. -/
def reply (error : Option String) (value : Json) : Except String Json :=
  match error with
  | some error => .error error
  | none => .ok value

/-- `eth_getBlockByNumber` of a number: null above the head. -/
def block_at (heights : Heights) (tag : String) : Json :=
  match parse_quantity (.string tag) with
  | .ok number => if number ≤ heights.head then node.block number else .null
  | .error _ => .null

end EvmNode

/-- A cycle against the node: how each call goes, and where the node is then. -/
structure EvmCycle where
  tag : TagReply
  at_tag : Heights
  number_error : Option String
  at_number : Heights
  block_error : Option String
  at_block : Heights
  contract : ContractAnswers
  canonical_hash : Except String String
  confirmed_hash : Except String String
  issuer_keys : IssuerKeyRegistry
  identities : List DnsServerIdentityV2
  now : Int

/-- The deployment: the node, the adapter's target and its confirmations. -/
structure EvmDeployment where
  node : EvmNode
  target : ChainTarget
  fallback_confirmations : Nat

section Cycles

variable (D : EvmDeployment)

/-- The calls of a cycle, as the node answers them. -/
def EvmCycle.calls (cycle : EvmCycle) : CheckpointCalls where
  finalized := D.node.finalized cycle.tag cycle.at_tag
  block_number := EvmNode.reply cycle.number_error (.string (quantity cycle.at_number.head))
  block := fun tag => EvmNode.reply cycle.block_error (D.node.block_at cycle.at_block tag)

/-- What `finalized_checkpoint` returns in the cycle. -/
def EvmCycle.checkpoint (cycle : EvmCycle) : Except String FinalizedCheckpoint :=
  finalized_checkpoint D.fallback_confirmations (cycle.calls D)

/-- The cycle the synchronizer sees. -/
def EvmCycle.cycle (cycle : EvmCycle) : Cycle where
  target := D.target
  issuer_keys := cycle.issuer_keys
  identities := cycle.identities
  now := cycle.now
  answers := {
    read_snapshot := read_snapshot D.fallback_confirmations (cycle.calls D) cycle.contract
      cycle.identities
    canonical_hash := cycle.canonical_hash
    confirmed_hash := cycle.confirmed_hash }

/-- The heights that were returned, in order. -/
def returned_heights (cycles : List EvmCycle) : List Nat :=
  cycles.filterMap (fun cycle => (cycle.checkpoint D).toOption.map (·.number))

end Cycles

/-- How far the node has come, and the synchronizer. -/
structure EvmState where
  heights : Heights
  sync : SyncState

/-- Cycles one after the other, while the node goes forward. -/
def evm_sync (P : Platform) (D : EvmDeployment) : Machine EvmState EvmCycle where
  init := ⟨⟨0, 0, Nat.le_refl 0, by decide⟩, .open_, none⟩
  step st cycle :=
    if st.heights.Before cycle.at_tag ∧ cycle.at_tag.Before cycle.at_number ∧
        cycle.at_number.Before cycle.at_block then
      some ⟨cycle.at_block, st.sync.take P (cycle.cycle D)⟩
    else none

/-- The check of a snapshot's height against the stored checkpoint; `reconcile` makes it, and
`apply_registry_snapshot` makes it again. -/
def RolledBack (number : Nat) (s : EvidenceStore) : Prop :=
  ∃ checkpoint, EvidenceStore.registry_checkpoint_from s.ri_v2_meta = .ok (some checkpoint) ∧
    number < checkpoint.finalized_block

/-- The heights never go down, and no cycle is refused as a rollback. -/
structure NeverRegresses (P : Platform) (D : EvmDeployment) (cycles : List EvmCycle) : Prop where
  heights : (returned_heights D cycles).Pairwise (· ≤ ·)
  accepted : (evm_sync P D).Along (fun st cycle => ∀ checkpoint, cycle.checkpoint D = .ok checkpoint →
    ¬ RolledBack checkpoint.number st.sync.store) cycles

/-! ## §2. The source of a height. -/

/-- Which source a checkpoint comes from, and where the node was when it answered. -/
inductive Reading where
  | tag (heights : Heights)
  | fallback (heights : Heights)

namespace Reading

/-- The heights behind a reading. -/
def heights : Reading → Heights
  | tag heights => heights
  | fallback heights => heights

/-- The height it comes to. -/
def height (fallback_confirmations : Nat) : Reading → Nat
  | tag heights => heights.finalized
  | fallback heights => heights.head - fallback_confirmations

/-- A change of source goes up: the finalized block is not behind the confirmed block taken
before it, and the other way round. -/
def GoesUp (fallback_confirmations : Nat) : Reading → Reading → Prop
  | fallback before, tag after => before.head ≤ after.finalized + fallback_confirmations
  | tag before, fallback after => before.finalized + fallback_confirmations ≤ after.head
  | tag _, tag _ => True
  | fallback _, fallback _ => True

end Reading

/-- The source that answers in a cycle, by the failures and the node's heights. -/
def EvmCycle.reading (fallback_confirmations : Nat) (cycle : EvmCycle) : Option Reading :=
  match cycle.tag with
  | .answered => some (.tag cycle.at_tag)
  | _ =>
    if cycle.number_error = none ∧ cycle.block_error = none ∧
        fallback_confirmations ≤ cycle.at_number.head then
      some (.fallback cycle.at_number)
    else none

/-- The readings of all cycles that got one. -/
def readings (fallback_confirmations : Nat) (cycles : List EvmCycle) : List Reading :=
  cycles.filterMap (EvmCycle.reading fallback_confirmations)

section Sources

variable {P : Platform} {D : EvmDeployment} {cycle : EvmCycle}

theorem parse_block_block {number : Nat} (hfits : number < 2 ^ 64)
    (finality_type : RegistryFinalityTypeV2) :
    parse_block (D.node.block number) finality_type =
      .ok ⟨number, D.node.hash number, finality_type⟩ := by
  unfold parse_block
  have hnumber : (D.node.block number).get "number" = some (.string (quantity number)) := rfl
  have hhash : ((D.node.block number).get "hash").bind Json.as_str =
      some (D.node.hash number) := rfl
  rw [hnumber, hhash]
  simp only [okOr, ok_bind, parse_quantity_quantity hfits, D.node.hash_valid]

/-- The fallback answers where both of its calls do, and the chain is long enough. -/
theorem confirmed_checkpoint_height (hle : cycle.at_number.Before cycle.at_block) :
    (confirmed_checkpoint D.fallback_confirmations (cycle.calls D)).toOption.map (·.number) =
      if cycle.number_error = none ∧ cycle.block_error = none ∧
          D.fallback_confirmations ≤ cycle.at_number.head then
        some (cycle.at_number.head - D.fallback_confirmations)
      else none := by
  unfold confirmed_checkpoint EvmCycle.calls
  cases hnumber : cycle.number_error with
  | some error => simp [EvmNode.reply, Except.toOption]
  | none =>
    simp only [EvmNode.reply, ok_bind, parse_quantity_quantity cycle.at_number.fits]
    by_cases hshort : cycle.at_number.head < D.fallback_confirmations
    · rw [if_neg (by omega)]
      simp [rejectIf, hshort, Except.toOption]
    · cases hblock : cycle.block_error with
      | some error => simp [rejectIf, hshort, Except.toOption]
      | none =>
        -- the block is there: the head has not gone down since
        have hle := hle.1
        have hfits := cycle.at_number.fits
        have hthere : D.node.block_at cycle.at_block
            (quantity (cycle.at_number.head - D.fallback_confirmations)) =
            D.node.block (cycle.at_number.head - D.fallback_confirmations) := by
          unfold EvmNode.block_at
          rw [parse_quantity_quantity (by omega)]
          exact if_pos (by omega)
        rw [if_pos ⟨trivial, rfl, by omega⟩]
        simp only [rejectIf, hshort, hthere, decide_false, Bool.false_eq_true, if_false, ok_bind]
        rw [parse_block_block (by omega)]
        rfl

/-- The height is the one of the source that answers. -/
theorem finalized_checkpoint_height (hle : cycle.at_number.Before cycle.at_block) :
    (cycle.checkpoint D).toOption.map (·.number) =
      (cycle.reading D.fallback_confirmations).map (Reading.height D.fallback_confirmations) := by
  have hfallback := confirmed_checkpoint_height (D := D) hle
  unfold EvmCycle.checkpoint finalized_checkpoint EvmCycle.reading
  cases htag : cycle.tag with
  | answered =>
    have hcall : (cycle.calls D).finalized = .ok (D.node.block cycle.at_tag.finalized) := by
      unfold EvmCycle.calls
      rw [htag]
      rfl
    rw [hcall]
    show (parse_block (D.node.block cycle.at_tag.finalized) _).toOption.map _ = _
    have hfits := cycle.at_tag.fits
    have hle := cycle.at_tag.finalized_le
    rw [parse_block_block (by omega)]
    rfl
  | missing =>
    have hcall : (cycle.calls D).finalized = .ok .null := by
      unfold EvmCycle.calls
      rw [htag]
      rfl
    rw [hcall, apply_ite (Option.map _)]
    exact hfallback
  | failed error =>
    have hcall : (cycle.calls D).finalized = .error error := by
      unfold EvmCycle.calls
      rw [htag]
      rfl
    rw [hcall, apply_ite (Option.map _)]
    exact hfallback

theorem reading_fallback_le {fallback_confirmations : Nat} {heights : Heights}
    (h : cycle.reading fallback_confirmations = some (.fallback heights)) :
    fallback_confirmations ≤ heights.head := by
  unfold EvmCycle.reading at h
  split at h
  · cases h
  · split_ifs at h with hall
    rw [← Reading.fallback.inj (Option.some.inj h)]
    exact hall.2.2

theorem reading_heights {fallback_confirmations : Nat} {reading : Reading}
    (h : cycle.reading fallback_confirmations = some reading) :
    reading.heights = cycle.at_tag ∨ reading.heights = cycle.at_number := by
  unfold EvmCycle.reading at h
  split at h
  · rw [← Option.some.inj h]
    exact Or.inl rfl
  · split_ifs at h
    rw [← Option.some.inj h]
    exact Or.inr rfl

/-- As the node goes forward, one source never goes down; a change of source goes up or
down. -/
theorem height_le_iff {fallback_confirmations : Nat} {a b : Reading}
    (h : a.heights.Before b.heights)
    (hlong : ∀ heights, b = .fallback heights → fallback_confirmations ≤ heights.head) :
    a.height fallback_confirmations ≤ b.height fallback_confirmations ↔
      Reading.GoesUp fallback_confirmations a b := by
  obtain ⟨hhead, hfinalized⟩ := h
  cases a with
  | tag before =>
    cases b with
    | tag after => exact iff_of_true hfinalized trivial
    | fallback after =>
      have hle := hlong after rfl
      show before.finalized ≤ after.head - fallback_confirmations ↔
        before.finalized + fallback_confirmations ≤ after.head
      omega
  | fallback before =>
    cases b with
    | tag after =>
      show before.head - fallback_confirmations ≤ after.finalized ↔
        before.head ≤ after.finalized + fallback_confirmations
      omega
    | fallback after => exact iff_of_true (Nat.sub_le_sub_right hhead _) trivial

end Sources

/-! ## §3. Runs. -/

section Runs

variable {P : Platform} {D : EvmDeployment} {cycles : List EvmCycle} {cycle : EvmCycle}
variable {st st' : EvmState}

theorem evm_step_eq_some (h : (evm_sync P D).step st cycle = some st') :
    st.heights.Before cycle.at_tag ∧ cycle.at_tag.Before cycle.at_number ∧
      cycle.at_number.Before cycle.at_block ∧
        st' = ⟨cycle.at_block, st.sync.take P (cycle.cycle D)⟩ := by
  have h : (if _ then _ else none) = some st' := h
  split_ifs at h with hall
  exact ⟨hall.1, hall.2.1, hall.2.2, (Option.some.inj h).symm⟩

/-- The heights that are returned are those of the sources that answer. -/
theorem returned_heights_eq (hrun : (evm_sync P D).run cycles = some st) :
    returned_heights D cycles =
      (readings D.fallback_confirmations cycles).map
        (Reading.height D.fallback_confirmations) := by
  refine Machine.run_induction (M := evm_sync P D) (motive := fun cycles _ =>
    returned_heights D cycles = (readings D.fallback_confirmations cycles).map
      (Reading.height D.fallback_confirmations)) rfl ?_ hrun
  intro cycles st cycle st' _ ih hstep
  obtain ⟨_, _, hle, _⟩ := evm_step_eq_some hstep
  have hone := finalized_checkpoint_height (D := D) hle
  unfold returned_heights readings at ih ⊢
  rw [List.filterMap_append, List.filterMap_append, List.map_append, ih]
  congr 1
  cases hreading : cycle.reading D.fallback_confirmations with
  | none =>
    rw [hreading] at hone
    simp [hone, hreading]
  | some reading =>
    rw [hreading] at hone
    simp [hone, hreading]

/-- Each source answers from a node that has not gone back since the last one. -/
theorem readings_forward (hrun : (evm_sync P D).run cycles = some st) :
    (readings D.fallback_confirmations cycles).Pairwise (fun a b => a.heights.Before b.heights) ∧
      ∀ reading ∈ readings D.fallback_confirmations cycles,
        reading.heights.Before st.heights := by
  refine Machine.run_induction (M := evm_sync P D) (motive := fun cycles st =>
    (readings D.fallback_confirmations cycles).Pairwise (fun a b => a.heights.Before b.heights) ∧
      ∀ reading ∈ readings D.fallback_confirmations cycles,
        reading.heights.Before st.heights)
    ⟨List.Pairwise.nil, fun reading hmem => by cases hmem⟩ ?_ hrun
  intro cycles st cycle st' _ ih hstep
  obtain ⟨hpairs, hbefore⟩ := ih
  obtain ⟨htag, hnumber, hblock, hst'⟩ := evm_step_eq_some hstep
  unfold readings at hpairs hbefore ⊢
  rw [List.filterMap_append, List.pairwise_append, hst']
  have hnew : ∀ reading ∈ [cycle].filterMap (EvmCycle.reading D.fallback_confirmations),
      st.heights.Before reading.heights ∧ reading.heights.Before cycle.at_block := by
    intro reading hmem
    obtain ⟨_, hcycle, hreading⟩ := List.mem_filterMap.mp hmem
    rw [List.mem_singleton.mp hcycle] at hreading
    rcases reading_heights hreading with heq | heq
    · rw [heq]
      exact ⟨htag, hnumber.trans hblock⟩
    · rw [heq]
      exact ⟨htag.trans hnumber, hblock⟩
  refine ⟨⟨hpairs, ?_, ?_⟩, ?_⟩
  · -- at most one source answers in a cycle
    rw [List.filterMap_cons]
    cases cycle.reading D.fallback_confirmations with
    | none => exact List.Pairwise.nil
    | some reading => exact List.pairwise_singleton _ reading
  · intro a ha b hb
    exact (hbefore a ha).trans (hnew b hb).1
  · intro reading hmem
    rcases List.mem_append.mp hmem with hold | hlast
    · exact (hbefore reading hold).trans (htag.trans (hnumber.trans hblock))
    · exact (hnew reading hlast).2

/-- What is stored is the last applied set, at a height that was returned. -/
theorem stored_height (hrun : (evm_sync P D).run cycles = some st) :
    st.sync.Holds P ∧ ∀ applied, st.sync.last = some applied →
      applied.snapshot.checkpoint.number ∈ returned_heights D cycles := by
  refine Machine.run_induction (M := evm_sync P D) (motive := fun cycles st =>
    st.sync.Holds P ∧ ∀ applied, st.sync.last = some applied →
      applied.snapshot.checkpoint.number ∈ returned_heights D cycles)
    ⟨rfl, fun applied h => by cases h⟩ ?_ hrun
  intro cycles st cycle st' _ ih hstep
  obtain ⟨hholds, hreturned⟩ := ih
  obtain ⟨_, _, _, hst'⟩ := evm_step_eq_some hstep
  rw [hst']
  refine ⟨holds_take hholds _, ?_⟩
  intro applied hlast
  unfold returned_heights at hreturned ⊢
  rw [List.filterMap_append, List.mem_append]
  rcases take_cases (P := P) (cycle.cycle D) st.sync with ⟨taken, htaken, hlast', _⟩ | hkept
  · -- the set of this cycle, whose snapshot has the checkpoint that was returned
    rw [hlast'] at hlast
    rw [← Option.some.inj hlast]
    refine Or.inr (List.mem_filterMap.mpr ⟨cycle, List.mem_singleton_self cycle, ?_⟩)
    unfold Cycle.applied at htaken
    cases hsnapshot : (cycle.cycle D).answers.read_snapshot with
    | error error =>
      rw [hsnapshot] at htaken
      cases htaken
    | ok snapshot =>
      rw [hsnapshot] at htaken
      have hcheckpoint : cycle.checkpoint D = .ok snapshot.checkpoint :=
        checkpoint_of_read_snapshot hsnapshot
      rw [← Option.some.inj htaken, hcheckpoint]
      rfl
  · rw [hkept] at hlast
    exact Or.inl (hreturned applied hlast)

/-- A stored checkpoint is one that was returned. -/
theorem mem_of_checkpoint (hrun : (evm_sync P D).run cycles = some st)
    {checkpoint : EvidenceStore.RegistryCheckpoint}
    (h : EvidenceStore.registry_checkpoint_from st.sync.store.ri_v2_meta = .ok (some checkpoint)) :
    checkpoint.finalized_block ∈ returned_heights D cycles := by
  obtain ⟨hholds, hreturned⟩ := stored_height hrun
  unfold SyncState.Holds at hholds
  cases hlast : st.sync.last with
  | none =>
    rw [hlast] at hholds
    rw [show st.sync.store = .open_ from hholds] at h
    cases h
  | some applied =>
    rw [hlast] at hholds
    have hreconciled : Reconciled P applied st.sync.store := hholds
    rw [hreconciled.checkpoint] at h
    rw [← Option.some.inj (Except.ok.inj h)]
    exact hreturned applied hlast

/-- Where the heights never go down, no cycle is refused as a rollback. -/
theorem accepted_of_heights (h : (returned_heights D cycles).Pairwise (· ≤ ·)) :
    (evm_sync P D).Along (fun st cycle => ∀ checkpoint, cycle.checkpoint D = .ok checkpoint →
      ¬ RolledBack checkpoint.number st.sync.store) cycles := by
  intro pre cycle post st hcycles hpre checkpoint hcheckpoint hback
  obtain ⟨stored, hstored, hlt⟩ := hback
  have hmem := mem_of_checkpoint hpre hstored
  unfold returned_heights at h hmem
  rw [hcycles, List.filterMap_append, List.pairwise_append] at h
  have hreturned : checkpoint.number ∈
      (cycle :: post).filterMap (fun cycle => (cycle.checkpoint D).toOption.map (·.number)) := by
    refine List.mem_filterMap.mpr ⟨cycle, List.mem_cons_self, ?_⟩
    rw [hcheckpoint]
    rfl
  have hle := h.2.2 _ hmem _ hreturned
  omega

/-- The heights never regress in exactly the runs where every change of source goes up. -/
theorem never_regresses_iff (hrun : (evm_sync P D).run cycles = some st) :
    NeverRegresses P D cycles ↔
      (readings D.fallback_confirmations cycles).IsChain
        (Reading.GoesUp D.fallback_confirmations) := by
  have hheights : (returned_heights D cycles).Pairwise (· ≤ ·) ↔
      (readings D.fallback_confirmations cycles).IsChain
        (Reading.GoesUp D.fallback_confirmations) := by
    rw [returned_heights_eq hrun, ← List.isChain_iff_pairwise, List.isChain_map]
    -- neighbours are taken from a node that goes forward
    have hiff : ∀ a b, [a, b] <:+: readings D.fallback_confirmations cycles →
        (a.height D.fallback_confirmations ≤ b.height D.fallback_confirmations ↔
          Reading.GoesUp D.fallback_confirmations a b) := by
      intro a b hinfix
      have hforward := ((readings_forward hrun).1.sublist hinfix.sublist)
      have hb : b ∈ readings D.fallback_confirmations cycles :=
        hinfix.subset (List.mem_cons_of_mem a List.mem_cons_self)
      refine height_le_iff (List.rel_of_pairwise_cons hforward List.mem_cons_self) ?_
      intro heights heq
      obtain ⟨cycle, _, hreading⟩ := List.mem_filterMap.mp hb
      rw [heq] at hreading
      exact reading_fallback_le hreading
    rw [List.isChain_iff_forall_rel_of_append_cons_cons,
      List.isChain_iff_forall_rel_of_append_cons_cons]
    constructor
    · intro h a b l₁ l₂ heq
      exact (hiff a b ⟨l₁, l₂, by rw [heq]; simp⟩).mp (h heq)
    · intro h a b l₁ l₂ heq
      exact (hiff a b ⟨l₁, l₂, by rw [heq]; simp⟩).mpr (h heq)
  constructor
  · intro h
    exact hheights.mp h.heights
  · intro h
    have hsorted := hheights.mpr h
    exact ⟨hsorted, accepted_of_heights hsorted⟩

end Runs

/-! ## §4. Two recorded runs. -/

open Agent

/-- A chain with one hash for the even heights and one for the odd ones. -/
def lab_node : EvmNode where
  hash := fun number => if number % 2 = 0 then digest_of '3' else digest_of '5'
  hash_valid := by
    intro number
    split
    · decide +kernel
    · decide +kernel

/-- The deployment with twelve confirmations. -/
def lab_deployment : EvmDeployment := ⟨lab_node, lab_target, 12⟩

/-- A cycle of `resolver_a`, in which the node stays where it is. -/
def lab_evm_cycle (tag : TagReply) (heights : Heights) (number : Nat) : EvmCycle where
  tag := tag
  at_tag := heights
  number_error := none
  at_number := heights
  block_error := none
  at_block := heights
  contract := {
    verify_target := .ok ()
    resolver_record := fun _ => .ok lab_resolver_record
    block_hash := .ok (lab_node.hash number) }
  canonical_hash := .ok (digest_of '3')
  confirmed_hash := .ok (lab_node.hash number)
  issuer_keys := lab_issuer_keys
  identities := [resolver_a.1]
  now := 1750000000

/-- The tag answers, then it does not. -/
def rising_cycles : List EvmCycle := [
  lab_evm_cycle .answered ⟨100, 64, by decide, by decide⟩ 64,
  lab_evm_cycle (.failed "timeout") ⟨102, 65, by decide, by decide⟩ 90]

theorem rising_cycles_never_regress :
    (readings 12 rising_cycles).IsChain (Reading.GoesUp 12) ∧
      NeverRegresses registry_recording.platform lab_deployment rising_cycles := by
  have hchain : (readings 12 rising_cycles).IsChain (Reading.GoesUp 12) := by
    refine List.isChain_pair.mpr ?_
    show 64 + 12 ≤ 102
    decide
  have hrun : ∃ st, (evm_sync registry_recording.platform lab_deployment).run rising_cycles =
      some st := ⟨_, rfl⟩
  obtain ⟨st, hrun⟩ := hrun
  exact ⟨hchain, (never_regresses_iff hrun).mpr hchain⟩

/-- The tag does not answer, then it does, and the node has gone forward by one block. -/
def fallback_cycle : EvmCycle :=
  lab_evm_cycle (.failed "timeout") ⟨100, 64, by decide, by decide⟩ 88

/-- A cycle that reads the tag. -/
def tag_cycle : EvmCycle := lab_evm_cycle .answered ⟨101, 65, by decide, by decide⟩ 65

/-- A fallback, then the tag again. -/
def falling_cycles : List EvmCycle := [fallback_cycle, tag_cycle]

/-- What the first of them leaves. -/
def fallback_state : SyncState :=
  SyncState.take registry_recording.platform ⟨.open_, none⟩ (fallback_cycle.cycle lab_deployment)

/-- The second cycle is refused as a rollback, on a chain that did not roll back. -/
theorem fallback_overtakes :
    (∃ st, (evm_sync registry_recording.platform lab_deployment).run falling_cycles = some st) ∧
      returned_heights lab_deployment falling_cycles = [88, 65] ∧
      (reconcile registry_recording.platform (tag_cycle.cycle lab_deployment)
          fallback_state.store).1 =
        .error (.text "finalized block rollback: stored 88, received 65") ∧
      ¬ NeverRegresses registry_recording.platform lab_deployment falling_cycles := by
  have hrecorded : returned_heights lab_deployment falling_cycles = [88, 65] ∧
      (reconcile registry_recording.platform (tag_cycle.cycle lab_deployment)
          fallback_state.store).1 =
        .error (.text "finalized block rollback: stored 88, received 65") := by
    decide +kernel
  obtain ⟨hheights, hrefused⟩ := hrecorded
  refine ⟨⟨_, rfl⟩, hheights, hrefused, ?_⟩
  intro h
  have hsorted := h.heights
  rw [hheights] at hsorted
  have hle : 88 ≤ 65 := List.rel_of_pairwise_cons hsorted List.mem_cons_self
  omega

end ResolverIdentity.Sync
