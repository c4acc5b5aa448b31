/-
  ResolverIdentity.Store.Ingestion: chained events into the store of the Agent.

  Batches of chained events reach `put_trace_events` while other clients work on
  the store.  As long as these leave the rows of the delivered traces alone, the
  store holds of each trace what was delivered of it, and every batch is taken.

  Main results:
    * `put_one_next`: an event in its place is inserted;
    * `put_batch_next`: so is a batch;
    * `stores_of_run`: every batch of a run is accepted.
-/
import ResolverIdentity.Core.Chains
import ResolverIdentity.Library.Machine
import ResolverIdentity.Store.TraceShape

namespace ResolverIdentity.Store

open Library EvidenceStore

/-! ## §1. Deliveries. -/

/-- A batch, or whatever other clients make of the store in between. -/
inductive DeliveryStep where
  | put_trace_events (batch : List TraceEventV2)
  | meanwhile (s : EvidenceStore)

/-- Batches that arrive at a store, and whatever else is done to it. -/
def delivery (s : EvidenceStore) : Machine EvidenceStore DeliveryStep where
  init := s
  step s
    | .put_trace_events batch => some (s.put_trace_events batch).2
    | .meanwhile s' => some s'

/-- The batch of a step. -/
def DeliveryStep.batch : DeliveryStep → List TraceEventV2
  | .put_trace_events batch => batch
  | .meanwhile _ => []

/-- The events of all batches. -/
def sent (ls : List DeliveryStep) : List TraceEventV2 := ls.flatMap DeliveryStep.batch

/-- Every batch is accepted. -/
def Stores (s : EvidenceStore) (step : DeliveryStep) : Prop :=
  ∀ batch, step = .put_trace_events batch → (s.put_trace_events batch).1 = .ok ()

/-- Other clients neither add to the traces of these events nor take from them. -/
def LeavesTraces (events : List TraceEventV2) (s : EvidenceStore) (step : DeliveryStep) : Prop :=
  ∀ s', step = .meanwhile s' → ∀ event ∈ events,
    s'.trace_rows event.trace_id = s.trace_rows event.trace_id ∧
    s'.ri_v2_trace_events.get? event.event_id = s.ri_v2_trace_events.get? event.event_id

/-- The store knows neither the traces nor the ids of these events. -/
def Unknown (events : List TraceEventV2) (s : EvidenceStore) : Prop :=
  ∀ event ∈ events, s.trace_rows event.trace_id = [] ∧
    s.ri_v2_trace_events.get? event.event_id = none

/-- The store holds the events `before` and none of `rest`, of the traces of both. -/
structure Holds (before rest : List TraceEventV2) (s : EvidenceStore) : Prop where
  rows : ∀ event ∈ before ++ rest,
    (s.trace_rows event.trace_id).map Row.val = under event.trace_id before
  known : ∀ event ∈ before, s.ri_v2_trace_events.get? event.event_id = some event
  unknown : ∀ event ∈ rest, s.ri_v2_trace_events.get? event.event_id = none

/-! ## §2. The next event. -/

section Next
variable {s s' : EvidenceStore} {before rest batch : List TraceEventV2} {event : TraceEventV2}

theorem cast_in_chain (hchained : Chained before) (hnext : Continues before event)
    {earlier : TraceEventV2} (hmem : earlier ∈ under event.trace_id before) :
    cast_sequence earlier.sequence = earlier.sequence := by
  refine cast_sequence_of_le ?_
  have hle := hchained.sequence_le hmem
  have hrange := hnext.in_range
  have hsequence := hnext.sequence
  omega

/-- The largest stored sequence is the number of events delivered. -/
theorem last_sequence_next (hrows : (s.trace_rows event.trace_id).map Row.val =
      under event.trace_id before) (hchained : Chained before) (hnext : Continues before event) :
    s.last_sequence event.trace_id = (under event.trace_id before).length := by
  have hcast : (s.trace_rows event.trace_id).map (fun row => cast_sequence row.val.sequence) =
      (under event.trace_id before).map (fun earlier => cast_sequence earlier.sequence) := by
    rw [← hrows, List.map_map]
    rfl
  unfold last_sequence
  rw [hcast]
  apply le_antisymm
  · refine foldr_max_le (Int.natCast_nonneg _) ?_
    intro cast hmem
    obtain ⟨earlier, hearlier, rfl⟩ := List.mem_map.mp hmem
    rw [cast_in_chain hchained hnext hearlier]
    exact Int.ofNat_le.mpr (hchained.sequence_le hearlier)
  · by_cases hpos : 0 < (under event.trace_id before).length
    · obtain ⟨last, hlast, hsequence⟩ := hchained.mem_sequences.mpr ⟨hpos, Nat.le_refl _⟩
      refine le_foldr_max (List.mem_map.mpr ⟨last, hlast, ?_⟩)
      rw [cast_in_chain hchained hnext hlast, hsequence]
    · have hzero : (under event.trace_id before).length = 0 := by omega
      rw [hzero]
      exact foldr_max_nonneg _

/-- The parent of the next event is stored, and nothing terminal is. -/
theorem check_trace_parent_next (h : Holds before (event :: rest) s) (hchained : Chained before)
    (hnext : Continues before event) (hne : under event.trace_id before ≠ []) :
    s.check_trace_parent event = .ok () := by
  have hrows := h.rows event (List.mem_append_right _ List.mem_cons_self)
  obtain ⟨parent, hmem, hparent⟩ := hnext.parent hne
  obtain ⟨hbefore, htrace⟩ := mem_under.mp hmem
  have hle := hchained.sequence_le hmem
  unfold check_trace_parent
  simp only [bind_eq_ok, okOr_eq_ok, rejectIf_eq_ok]
  refine ⟨parent.event_id, hparent, parent, ?_, parent.sequence, ?_, (), ?_, ?_⟩
  · rw [h.known parent hbefore, Option.filter_some, if_pos (decide_eq_true htrace)]
  · rw [cast_in_chain hchained hnext hmem]
    exact u64_try_from_natCast _
  · rw [decide_eq_false_iff_not, hnext.sequence]
    omega
  · rw [List.any_eq_false]
    intro row hrow
    have hearlier : row.val ∈ under event.trace_id before := by
      rw [← hrows]
      exact List.mem_map_of_mem hrow
    obtain ⟨hresponse, hfailed⟩ := hnext.ongoing row.val hearlier
    unfold terminal_kind
    simp [hresponse, hfailed]

theorem check_trace_sequence_next (h : Holds before (event :: rest) s) (hchained : Chained before)
    (hnext : Continues before event) : s.check_trace_sequence event = .ok () := by
  have hrows := h.rows event (List.mem_append_right _ List.mem_cons_self)
  have hsequence := hnext.sequence
  have hrange := hnext.in_range
  have hsucc : u64_succ (under event.trace_id before).length = event.sequence := by
    rw [hsequence]
    refine u64_succ_of_lt ?_
    unfold I64_MAX at hrange
    unfold U64_MAX
    omega
  unfold check_trace_sequence
  rw [if_pos (by omega)]
  unfold check_trace_order
  simp only [bind_eq_ok, exists_unit, okOr_eq_ok, rejectIf_eq_ok]
  refine ⟨(under event.trace_id before).length, ?_, ?_, ?_⟩
  · rw [last_sequence_next hrows hchained hnext]
    exact u64_try_from_natCast _
  · rw [hsucc, bne_self_eq_false]
  · unfold check_trace_place
    by_cases hnil : under event.trace_id before = []
    · obtain ⟨hkind, hparent⟩ := hnext.first hnil
      rw [hnil, List.length_nil, Nat.zero_add] at hsequence
      rw [if_pos hsequence, hkind, hparent]
      rfl
    · have hlength := List.length_pos_of_ne_nil hnil
      rw [if_neg (by omega)]
      exact check_trace_parent_next h hchained hnext hnil

theorem sequence_not_indexed (h : Holds before (event :: rest) s) (hchained : Chained before)
    (hnext : Continues before event) : s.sequence_indexed event = false := by
  have hrows := h.rows event (List.mem_append_right _ List.mem_cons_self)
  unfold sequence_indexed
  rw [Bool.and_eq_false_iff]
  right
  rw [List.any_eq_false]
  intro row hrow htaken
  have hearlier : row.val ∈ under event.trace_id before := by
    rw [← hrows]
    exact List.mem_map_of_mem hrow
  have hsame := of_decide_eq_true htaken
  rw [cast_in_chain hchained hnext hearlier, cast_sequence_of_le hnext.in_range] at hsame
  have hle := hchained.sequence_le hearlier
  have hsequence := hnext.sequence
  omega

/-- An event in its place is inserted. -/
theorem put_one_next (h : Holds before (event :: rest) s)
    (hchained : Chained (before ++ event :: rest)) :
    ∃ s', put_one event s = .ok ((), s') ∧ Holds (before ++ [event]) rest s' := by
  have hnext : Continues before event := hchained before event rest rfl
  have hbefore : Chained before := hchained.of_prefix
  have hnew := h.unknown event List.mem_cons_self
  obtain ⟨table, htable⟩ := Option.isSome_iff_exists.mp
    (RowTable.insert?_isSome_iff (v := event).mpr hnew)
  have hinsert : insert_trace_event event s = .ok ((), { s with ri_v2_trace_events := table }) := by
    unfold insert_trace_event
    simp only [bind_eq_ok, exists_unit, rejectIf_eq_ok, okOr_eq_ok]
    exact ⟨check_trace_sequence_next h hbefore hnext, sequence_not_indexed h hbefore hnext, table,
      htable, rfl⟩
  refine ⟨_, by unfold put_one; rw [hnew]; exact hinsert, ?_⟩
  have hrow := fun trace_id => trace_rows_append
    (show (⟨_, _, event⟩ : Row String TraceEventV2).val = event from rfl)
    (insert_trace_event_eq_ok hinsert).2.2 trace_id
  -- the ids of the events still to come are other ones
  have hother : ∀ later ∈ rest, event.event_id ≠ later.event_id := by
    intro later hlater
    obtain ⟨pre, post, rfl⟩ := List.append_of_mem hlater
    refine (hchained (before ++ event :: pre) later post (by simp)).fresh event ?_
    exact List.mem_append_right _ List.mem_cons_self
  constructor
  · intro other hmem
    have hmem : other ∈ before ++ event :: rest := by simpa using hmem
    rw [hrow, List.map_append, h.rows other hmem]
    by_cases htrace : event.trace_id = other.trace_id
    · rw [if_pos htrace, ← htrace, under_snoc_self]
      rfl
    · rw [if_neg htrace, under_snoc_ne before htrace]
      exact List.append_nil _
  · intro other hmem
    rw [RowTable.get?_of_insert? htable]
    rcases List.mem_append.mp hmem with hold | hlast
    · rw [if_neg (hnext.fresh other hold)]
      exact h.known other hold
    · rw [List.mem_singleton.mp hlast, if_pos rfl]
  · intro later hlater
    rw [RowTable.get?_of_insert? htable, if_neg (hother later hlater).symm]
    exact h.unknown later (List.mem_cons_of_mem _ hlater)

/-- A batch of events in their places is taken. -/
theorem put_batch_next (batch : List TraceEventV2) :
    ∀ {before : List TraceEventV2} {s : EvidenceStore}, Holds before (batch ++ rest) s →
      Chained (before ++ (batch ++ rest)) →
      ∃ s', put_trace_events_body batch s = .ok ((), s') ∧ Holds (before ++ batch) rest s' := by
  induction batch with
  | nil =>
    intro before s h _
    rw [List.append_nil]
    exact ⟨s, rfl, h⟩
  | cons event batch ih =>
    intro before s h hchained
    obtain ⟨s₁, hone, hholds⟩ := put_one_next h hchained
    have hlater : Chained ((before ++ [event]) ++ (batch ++ rest)) := by
      simpa using hchained
    obtain ⟨s', hbody, hholds'⟩ := ih hholds hlater
    refine ⟨s', ?_, by simpa using hholds'⟩
    show (put_one event s >>= _) = _
    rw [hone]
    exact hbody

end Next

/-! ## §3. Every run. -/

theorem Unknown.holds {events : List TraceEventV2} {s : EvidenceStore} (h : Unknown events s) :
    Holds [] events s where
  rows := by
    intro event hmem
    rw [(h event hmem).1]
    rfl
  known := fun event hmem => (nomatch hmem)
  unknown := fun event hmem => (h event hmem).2

/-- Every batch of a run is accepted. -/
theorem stores_of_run {s₀ s : EvidenceStore} {ls : List DeliveryStep}
    (hrun : (delivery s₀).run ls = some s) (hunknown : Unknown (sent ls) s₀)
    (hchained : Chained (sent ls)) (hleaves : (delivery s₀).Along (LeavesTraces (sent ls)) ls) :
    (delivery s₀).Along Stores ls := by
  -- what is still to be sent belongs to the induction: a write in between must leave it unknown
  have hall : ∀ rest, Unknown (sent ls ++ rest) s₀ → Chained (sent ls ++ rest) →
      (delivery s₀).Along (LeavesTraces (sent ls ++ rest)) ls →
      Holds (sent ls) rest s ∧ (delivery s₀).Along Stores ls := by
    refine Machine.run_induction (M := delivery s₀) (motive := fun ls s =>
      ∀ rest, Unknown (sent ls ++ rest) s₀ → Chained (sent ls ++ rest) →
        (delivery s₀).Along (LeavesTraces (sent ls ++ rest)) ls →
        Holds (sent ls) rest s ∧ (delivery s₀).Along Stores ls) ?_ ?_ hrun
    · intro rest hunknown _ _
      exact ⟨hunknown.holds, Machine.along_nil _⟩
    · intro ls s step s' hrun ih hstep rest hunknown hchained hleaves
      have hsent : sent (ls ++ [step]) = sent ls ++ step.batch := by
        unfold sent
        rw [List.flatMap_append]
        simp
      rw [hsent, List.append_assoc] at hunknown hchained hleaves
      obtain ⟨hholds, hstores⟩ := ih (step.batch ++ rest) hunknown hchained hleaves.of_prefix
      rw [hsent]
      cases step with
      | put_trace_events batch =>
        obtain rfl := Option.some.inj hstep
        obtain ⟨s', hbody, hholds'⟩ := put_batch_next batch hholds hchained
        have hput : s.put_trace_events batch = (.ok (), s') := transaction_eq_ok.mpr hbody
        rw [hput]
        refine ⟨hholds', hstores.snoc ?_⟩
        intro s₁ hs₁ other hother
        obtain rfl := Option.some.inj (hs₁.symm.trans hrun)
        obtain rfl := DeliveryStep.put_trace_events.inj hother
        rw [hput]
      | meanwhile s₂ =>
        obtain rfl := Option.some.inj hstep
        -- another client leaves the rows and ids of these traces alone
        have hsame := hleaves.last hrun s₂ rfl
        refine ⟨?_, hstores.snoc (fun _ _ batch hbatch => (nomatch hbatch))⟩
        show Holds (sent ls ++ []) rest s₂
        rw [List.append_nil]
        refine ⟨?_, ?_, ?_⟩
        · intro event hmem
          rw [(hsame event hmem).1]
          exact hholds.rows event hmem
        · intro event hmem
          rw [(hsame event (List.mem_append_left _ hmem)).2]
          exact hholds.known event hmem
        · intro event hmem
          rw [(hsame event (List.mem_append_right _ hmem)).2]
          exact hholds.unknown event hmem
  refine (hall [] ?_ ?_ ?_).2
  · rw [List.append_nil]
    exact hunknown
  · rw [List.append_nil]
    exact hchained
  · rw [List.append_nil]
    exact hleaves

end ResolverIdentity.Store
