/-
  ResolverIdentity.Core.Chains: interleaved chains of trace events.

  What the spool of the adapter and the store of the Agent both ask of an event
  they do not know: it is the next of its trace, its parent came earlier in the
  trace, and nothing terminal did.  A list is chained when every event of it
  stands so after the ones before, however the traces are interleaved.

  Main results:
    * `Chained.sequences`: the sequence numbers of each trace are 1, 2, 3 and so on;
    * `Chained.map`: a chained list stays chained when its events change elsewhere.
-/
import ResolverIdentity.Core.Evidence
import ResolverIdentity.Core.Integer
import ResolverIdentity.Library.Machine

namespace ResolverIdentity

open Library

/-! ## §1. Chains. -/

/-- The events under one trace id. -/
def under (trace_id : String) (events : List TraceEventV2) : List TraceEventV2 :=
  events.filter (fun event => event.trace_id = trace_id)

/-- An event in its place after the events `before`. -/
structure Continues (before : List TraceEventV2) (event : TraceEventV2) : Prop where
  fresh : ∀ earlier ∈ before, earlier.event_id ≠ event.event_id
  sequence : event.sequence = (under event.trace_id before).length + 1
  in_range : (event.sequence : Int) ≤ I64_MAX
  first : under event.trace_id before = [] →
    event.kind = .clientQuery ∧ event.parent_event_id = none
  parent : under event.trace_id before ≠ [] →
    ∃ parent ∈ under event.trace_id before, event.parent_event_id = some parent.event_id
  ongoing : ∀ earlier ∈ under event.trace_id before,
    earlier.kind ≠ .clientResponse ∧ earlier.kind ≠ .resolutionFailed

/-- Every event has its place after those before it. -/
abbrev Chained (events : List TraceEventV2) : Prop := Justified Continues events

variable {events before : List TraceEventV2} {event : TraceEventV2} {trace_id : String}

theorem mem_under : event ∈ under trace_id events ↔ event ∈ events ∧ event.trace_id = trace_id := by
  unfold under
  rw [List.mem_filter, decide_eq_true_eq]

theorem under_append (trace_id : String) (before after : List TraceEventV2) :
    under trace_id (before ++ after) = under trace_id before ++ under trace_id after :=
  List.filter_append ..

/-- One more event is one more of its own trace. -/
theorem under_snoc_self (events : List TraceEventV2) (event : TraceEventV2) :
    under event.trace_id (events ++ [event]) = under event.trace_id events ++ [event] := by
  rw [under_append]
  congr 1
  exact List.filter_eq_self.mpr (by simp)

theorem under_snoc_ne (events : List TraceEventV2) (hne : event.trace_id ≠ trace_id) :
    under trace_id (events ++ [event]) = under trace_id events := by
  rw [under_append]
  refine List.append_right_eq_self.mpr (List.filter_eq_nil_iff.mpr ?_)
  intro other hother
  rw [List.mem_singleton.mp hother, decide_eq_true_eq]
  exact hne

/-! ## §2. Sequence numbers. -/

/-- The sequence numbers of a trace count its events. -/
theorem Chained.sequences (h : Chained events) (trace_id : String) :
    (under trace_id events).map TraceEventV2.sequence =
      List.range' 1 (under trace_id events).length := by
  induction events using List.reverseRecOn with
  | nil => rfl
  | append_singleton events event ih =>
    have hbefore := ih h.of_prefix
    have hplace : Continues events event := h events event [] rfl
    by_cases htrace : event.trace_id = trace_id
    · subst htrace
      rw [under_snoc_self, List.map_append, hbefore, List.length_append, List.length_singleton,
        List.range'_concat, Nat.one_mul, Nat.add_comm 1, ← hplace.sequence]
      rfl
    · rw [under_snoc_ne events htrace]
      exact hbefore

theorem Chained.mem_sequences (h : Chained events) {n : Nat} :
    (∃ event ∈ under trace_id events, event.sequence = n) ↔
      0 < n ∧ n ≤ (under trace_id events).length := by
  rw [← List.mem_map, h.sequences trace_id, List.mem_range'_1]
  omega

theorem Chained.sequence_le (h : Chained events) (hmem : event ∈ under trace_id events) :
    event.sequence ≤ (under trace_id events).length :=
  (h.mem_sequences.mp ⟨event, hmem, rfl⟩).2

/-! ## §3. Events that change elsewhere. -/

/-- The fields a place in a chain depends on. -/
def place (event : TraceEventV2) : String × String × Nat × TraceEventKind × Option String :=
  (event.event_id, event.trace_id, event.sequence, event.kind, event.parent_event_id)

section Change
variable {f : TraceEventV2 → TraceEventV2} (hf : ∀ event, place (f event) = place event)
include hf

theorem under_map (trace_id : String) (events : List TraceEventV2) :
    under trace_id (events.map f) = (under trace_id events).map f := by
  unfold under
  rw [List.filter_map]
  congr 1
  refine List.filter_congr ?_
  intro event _
  have htrace : (f event).trace_id = event.trace_id :=
    congrArg (fun p => p.2.1) (hf event)
  show decide ((f event).trace_id = trace_id) = _
  rw [htrace]

theorem Continues.map (h : Continues before event) : Continues (before.map f) (f event) := by
  have hid : ∀ event, (f event).event_id = event.event_id :=
    fun event => congrArg (fun p => p.1) (hf event)
  have htrace : (f event).trace_id = event.trace_id := congrArg (fun p => p.2.1) (hf event)
  have hsequence : (f event).sequence = event.sequence := congrArg (fun p => p.2.2.1) (hf event)
  have hkind : ∀ event, (f event).kind = event.kind :=
    fun event => congrArg (fun p => p.2.2.2.1) (hf event)
  have hparent : (f event).parent_event_id = event.parent_event_id :=
    congrArg (fun p => p.2.2.2.2) (hf event)
  have hunder := under_map hf event.trace_id before
  constructor
  · intro earlier hearlier
    obtain ⟨old, hold, rfl⟩ := List.mem_map.mp hearlier
    rw [hid, hid]
    exact h.fresh old hold
  · rw [htrace, hsequence, hunder, List.length_map]
    exact h.sequence
  · rw [hsequence]
    exact h.in_range
  · rw [htrace, hunder, List.map_eq_nil_iff, hkind, hparent]
    exact h.first
  · rw [htrace, hunder, hparent]
    intro hne
    obtain ⟨parent, hmem, heq⟩ := h.parent (fun hnil => hne (by rw [hnil]; rfl))
    exact ⟨f parent, List.mem_map_of_mem hmem, by rw [hid]; exact heq⟩
  · rw [htrace, hunder]
    intro earlier hearlier
    obtain ⟨old, hold, rfl⟩ := List.mem_map.mp hearlier
    rw [hkind]
    exact h.ongoing old hold

theorem Chained.map (h : Chained events) : Chained (events.map f) := by
  intro pre event post heq
  obtain ⟨pre, rest, rfl, rfl, hrest⟩ := List.map_eq_append_iff.mp heq
  obtain ⟨event, post, rfl, rfl, _⟩ := List.map_eq_cons_iff.mp hrest
  exact (h pre event post rfl).map hf

end Change

end ResolverIdentity
