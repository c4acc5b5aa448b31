/-
  ResolverIdentity.Adapter.Conservation: the spool as a ledger of accepted events.

  What the spool is for: every event it ever accepted is either still pending,
  acknowledged by the Agent or set aside in the dead letter, and it is the tables
  that say which.  The ledger says the same without tables, so `Refines` is the
  whole of what the four tables have to agree on.

  Main results:
    * `Refines.enqueue_cases`: an accepted event goes to the end of the ledger;
    * `Refines.acknowledge_one`, `Refines.dead_letter_one`: the statements of the
      worker settle the item they name;
    * `Refines.enqueue_different`: a known id or a known place in a trace is
      refused to another event;
    * `Refines.load_batch_ids`, `Refines.load_batch_ascending`: pending events come
      out in the order of acceptance, each trace in its own order.
-/
import ResolverIdentity.Adapter.Worker
import ResolverIdentity.Library.Ledger
import ResolverIdentity.Library.Machine
import Mathlib.Data.List.Pairwise

namespace ResolverIdentity.Adapter

open Library TraceSpool

/-! ## §1. The ledger of a spool. -/

/-- What can become of an accepted event. -/
inductive Fate where
  | pending
  | acknowledged
  | dead_lettered
  deriving DecidableEq

/-- Where each received event lies, by its id. -/
abbrev SpoolLedger := List (Entry TraceEventV2 Fate)

/-- The ids of the accepted events of one fate, in order of acceptance. -/
abbrev ids_with (l : SpoolLedger) (fate : Fate) : List String :=
  Ledger.keysWith TraceEventV2.event_id l fate

/-- The ids of all accepted events. -/
abbrev accepted_ids (l : SpoolLedger) : List String := Ledger.keys TraceEventV2.event_id l

/-- A settled event. -/
def settle_id (fate : Fate) (l : SpoolLedger) (event_id : String) : SpoolLedger :=
  Ledger.settle TraceEventV2.event_id l event_id fate

/-- The row `trace_spool_seen` keeps of an accepted event. -/
def seen_row (event : TraceEventV2) : String × SeenEvent :=
  (event.event_id, ⟨event.trace_id, event.sequence, event⟩)

/-- What the tables hold of the accepted events, whatever became of them. -/
structure Records (s : TraceSpool) (accepted : List TraceEventV2) : Prop where
  seen : s.trace_spool_seen.rows.map (fun row => (row.key, row.val)) = accepted.map seen_row
  pending : ∀ row ∈ s.trace_spool.rows, ∃ event ∈ accepted,
    event.event_id = row.key ∧ Enriches event row.val
  dead : ∀ row ∈ s.trace_dead_letter.rows, ∃ event ∈ accepted,
    event.event_id = row.key ∧ Enriches event row.val.event_json
  ascending : accepted.Pairwise
    (fun a b => a.trace_id = b.trace_id → a.sequence < b.sequence)
  last : ∀ event ∈ accepted, ∃ (state : TraceState) (n : Nat),
    s.trace_spool_state.get? event.trace_id = some state ∧ state.last_sequence = (n : Int) ∧
      event.sequence ≤ n ∧ (n : Int) ≤ I64_MAX
  capacity : s.trace_spool.rows.length ≤ s.max_events

/-- The spool agrees with the ledger. -/
structure Refines (s : TraceSpool) (l : SpoolLedger) : Prop
    extends Records s (Ledger.items l) where
  pending_ids : s.trace_spool.rows.map Row.key = ids_with l .pending
  dead_ids : ∀ event_id, (s.trace_dead_letter.get? event_id).isSome ↔
    event_id ∈ ids_with l .dead_lettered

theorem Refines.init (max_events : Nat) : Refines (open_ max_events) [] where
  seen := rfl
  pending := by intro row hrow; cases hrow
  dead := by intro row hrow; cases hrow
  ascending := List.Pairwise.nil
  last := by intro event hevent; cases hevent
  capacity := Nat.zero_le _
  pending_ids := rfl
  dead_ids := by intro event_id; simp [open_, Ledger.keysWith]

/-! ## §2. What the tables know. -/

namespace Enriches

variable {event enriched : TraceEventV2} (h : Enriches event enriched)

include h

theorem event_id : enriched.event_id = event.event_id := by rw [h]

theorem trace_id : enriched.trace_id = event.trace_id := by rw [h]

theorem sequence : enriched.sequence = event.sequence := by rw [h]

end Enriches

theorem Enriches.trans {a b c : TraceEventV2} (hab : Enriches a b) (hbc : Enriches b c) :
    Enriches a c := by
  unfold Enriches at *
  rw [hbc, hab]

namespace Records

variable {s : TraceSpool} {accepted : List TraceEventV2}

/-- No event id was accepted twice. -/
theorem distinct (h : Records s accepted) : (accepted.map TraceEventV2.event_id).Nodup := by
  have hkeys : s.trace_spool_seen.rows.map Row.key = accepted.map TraceEventV2.event_id := by
    have hfst := congrArg (List.map Prod.fst) h.seen
    rw [List.map_map, List.map_map] at hfst
    exact hfst
  rw [← hkeys]
  exact s.trace_spool_seen.keyed

/-- The seen row of an accepted event. -/
theorem seen_of_mem (h : Records s accepted) {event : TraceEventV2} (hmem : event ∈ accepted) :
    s.trace_spool_seen.get? event.event_id = some ⟨event.trace_id, event.sequence, event⟩ := by
  have hrow : seen_row event ∈ s.trace_spool_seen.rows.map (fun row => (row.key, row.val)) := by
    rw [h.seen]
    exact List.mem_map_of_mem hmem
  obtain ⟨row, hrow, heq⟩ := List.mem_map.mp hrow
  obtain ⟨hkey, hval⟩ := Prod.mk.inj heq
  exact RowTable.get?_eq_some_iff.mpr ⟨row, hrow, hkey, hval⟩

/-- A seen row is that of an accepted event. -/
theorem mem_of_seen (h : Records s accepted) {event_id : String} {row : SeenEvent}
    (hseen : s.trace_spool_seen.get? event_id = some row) :
    ∃ event ∈ accepted, event.event_id = event_id ∧ row.event_json = event := by
  obtain ⟨r, hr, hkey, hval⟩ := RowTable.get?_eq_some_iff.mp hseen
  have hpair : (r.key, r.val) ∈ accepted.map seen_row := by
    rw [← h.seen]
    exact List.mem_map_of_mem hr
  obtain ⟨event, hevent, heq⟩ := List.mem_map.mp hpair
  obtain ⟨hid, hrow⟩ := Prod.mk.inj heq
  refine ⟨event, hevent, hid.trans hkey, ?_⟩
  rw [← hval, ← hrow]

/-- The next event of a trace lies past every accepted one. -/
theorem past_accepted (h : Records s accepted) {event s'} (happ : Appends s event s') :
    ∀ earlier ∈ accepted, earlier.trace_id = event.trace_id →
      earlier.sequence < event.sequence := by
  intro earlier hmem htrace
  obtain ⟨state, n, hget, hlast, hle, hrange⟩ := h.last earlier hmem
  obtain ⟨stored, hstored, _, hseq⟩ := happ.sequence
  rw [htrace] at hget
  rcases stored_state_eq_ok hstored with ⟨hnone, _⟩ | ⟨row, m, hrow, hm, rfl⟩
  · rw [hget] at hnone
    cases hnone
  · rw [hget] at hrow
    obtain rfl := Option.some.inj hrow
    have hnm : n = m := by
      rw [hlast] at hm
      exact Int.ofNat.inj hm
    have hlt : m < U64_MAX := by
      unfold I64_MAX at hrange
      unfold U64_MAX
      omega
    have hsucc : event.sequence = m + 1 := by
      rw [hseq]
      exact u64_succ_of_lt hlt
    omega

/-- The accepted event with a given id. -/
theorem eq_of_id (h : Records s accepted) {a b : TraceEventV2} (ha : a ∈ accepted)
    (hb : b ∈ accepted) (hid : a.event_id = b.event_id) : a = b :=
  List.inj_on_of_nodup_map h.distinct ha hb hid

/-- Not at the same place of the same trace. -/
def Apart (a b : TraceEventV2) : Prop := a.trace_id = b.trace_id → a.sequence ≠ b.sequence

instance : Std.Symm Apart where
  symm _ _ h := fun htrace hsequence => h htrace.symm hsequence.symm

/-- The accepted event with a given place in its trace. -/
theorem eq_of_place (h : Records s accepted) {a b : TraceEventV2} (ha : a ∈ accepted)
    (hb : b ∈ accepted) (htrace : a.trace_id = b.trace_id) (hsequence : a.sequence = b.sequence) :
    a = b := by
  have hapart : accepted.Pairwise Apart :=
    h.ascending.imp (fun hlt htrace => Nat.ne_of_lt (hlt htrace))
  by_contra hne
  exact hapart.forall ha hb hne htrace hsequence

end Records

/-! ## §3. Enqueue appends to the ledger. -/

theorem Refines.pending_iff {s : TraceSpool} {l : SpoolLedger} (h : Refines s l)
    {event_id : String} :
    event_id ∈ ids_with l .pending ↔ ∃ row ∈ s.trace_spool.rows, row.key = event_id := by
  rw [← h.pending_ids, List.mem_map]

theorem Refines.distinct_ids {s : TraceSpool} {l : SpoolLedger} (h : Refines s l) :
    (accepted_ids l).Nodup :=
  h.distinct

/-- The tables after a new event was accepted. -/
theorem Records.appends {s s' : TraceSpool} {accepted : List TraceEventV2}
    (h : Records s accepted) {event : TraceEventV2} (happ : Appends s event s') :
    Records s' (accepted ++ [event]) where
  seen := by
    rw [happ.seen_rows, List.map_append, List.map_append, h.seen]
    rfl
  pending := by
    intro row hrow
    rw [happ.pending_rows] at hrow
    rcases List.mem_append.mp hrow with hold | hnew
    · obtain ⟨e, he, hid, henrich⟩ := h.pending row hold
      exact ⟨e, List.mem_append_left _ he, hid, henrich⟩
    · rw [List.mem_singleton.mp hnew]
      exact ⟨event, by simp, rfl, Enriches.refl event⟩
  dead := by
    intro row hrow
    rw [happ.dead_letter] at hrow
    obtain ⟨e, he, hid, henrich⟩ := h.dead row hrow
    exact ⟨e, List.mem_append_left _ he, hid, henrich⟩
  ascending := by
    rw [pairwise_snoc]
    exact ⟨h.ascending, h.past_accepted happ⟩
  last := by
    intro e he
    rw [happ.states, RowTable.get?_upsert]
    by_cases htrace : e.trace_id = event.trace_id
    · -- the state row of this trace now carries the new sequence
      rw [if_pos htrace]
      refine ⟨_, event.sequence, rfl, rfl, ?_, happ.in_range⟩
      rcases List.mem_append.mp he with hold | hnew
      · exact Nat.le_of_lt (h.past_accepted happ e hold htrace)
      · rw [List.mem_singleton.mp hnew]
    · rw [if_neg htrace]
      rcases List.mem_append.mp he with hold | hnew
      · exact h.last e hold
      · rw [List.mem_singleton.mp hnew] at htrace
        exact absurd rfl htrace
  capacity := by
    rw [happ.pending_rows, happ.max_events, List.length_append]
    exact happ.room

theorem Refines.appends {s s' : TraceSpool} {l : SpoolLedger} (h : Refines s l)
    {event : TraceEventV2} (happ : Appends s event s') :
    Refines s' (Ledger.accept l event .pending) where
  toRecords := by
    rw [Ledger.items_accept]
    exact h.toRecords.appends happ
  pending_ids := by
    rw [happ.pending_rows, List.map_append, h.pending_ids]
    exact (Ledger.keysWith_accept TraceEventV2.event_id l event .pending .pending).symm
  dead_ids := by
    intro event_id
    rw [happ.dead_letter, h.dead_ids event_id]
    show _ ↔ event_id ∈ Ledger.keysWith _ _ _
    rw [Ledger.keysWith_accept, if_neg (by decide), List.append_nil]

/-- An event that `enqueue` answers with `Ok` is already in the ledger, or goes to
its end as a pending one. -/
theorem Refines.enqueue_cases {s s' : TraceSpool} {l : SpoolLedger} (h : Refines s l)
    {event : TraceEventV2} (hok : s.enqueue event = (.ok (), s')) :
    (event ∈ Ledger.items l ∧ s' = s) ∨
      (event.event_id ∉ accepted_ids l ∧ Refines s' (Ledger.accept l event .pending)) := by
  rcases enqueue_eq_ok hok with ⟨row, hseen, hsame, hs'⟩ | happ
  · obtain ⟨e, he, _, hrow⟩ := h.mem_of_seen hseen
    rw [hsame] at hrow
    exact Or.inl ⟨hrow ▸ he, hs'⟩
  · refine Or.inr ⟨?_, h.appends happ⟩
    intro hmem
    obtain ⟨e, he, hid⟩ := List.mem_map.mp hmem
    have hseen := h.seen_of_mem he
    rw [hid, happ.unseen] at hseen
    cases hseen

/-- An accepted event is accepted again, and nothing changes. -/
theorem Refines.enqueue_again {s : TraceSpool} {l : SpoolLedger} (h : Refines s l)
    {event : TraceEventV2} (hmem : event ∈ Ledger.items l) : s.enqueue event = (.ok (), s) :=
  enqueue_known (h.seen_of_mem hmem) rfl

/-- Another event with a known id, or in a known place of a trace, is refused. -/
theorem Refines.enqueue_different {s : TraceSpool} {l : SpoolLedger} (h : Refines s l)
    {known event : TraceEventV2} (hmem : known ∈ Ledger.items l) (hne : event ≠ known)
    (hsame : event.event_id = known.event_id ∨
      (event.trace_id = known.trace_id ∧ event.sequence = known.sequence)) :
    ∃ e, s.enqueue event = (.error e, s) := by
  cases hrun : s.enqueue event with
  | mk outcome s' =>
    cases outcome with
    | error e => exact ⟨e, by rw [transaction_error hrun]⟩
    | ok _ =>
      -- accepted: then it is the known event itself, or new and past all of its trace
      exfalso
      rcases enqueue_eq_ok hrun with ⟨row, hseen, hrow, _⟩ | happ
      · obtain ⟨e, he, hid, heq⟩ := h.mem_of_seen hseen
        rw [hrow] at heq
        rw [← heq] at he
        rcases hsame with hid' | ⟨htrace, hseq⟩
        · exact hne (h.eq_of_id he hmem hid')
        · exact hne (h.eq_of_place he hmem htrace hseq)
      · rcases hsame with hid | ⟨htrace, hseq⟩
        · have hseen := h.seen_of_mem hmem
          rw [← hid, happ.unseen] at hseen
          cases hseen
        · have hlt := h.past_accepted happ known hmem htrace.symm
          omega

/-! ## §4. The worker settles. -/

section Settle

variable {s : TraceSpool} {l : SpoolLedger}

theorem ids_with_settle_of_ne {fate other : Fate} (hne : fate ≠ other) (l : SpoolLedger)
    (event_id : String) :
    ids_with (settle_id fate l event_id) other =
      (ids_with l other).filter (fun key => key ≠ event_id) :=
  Ledger.keysWith_settle_of_ne TraceEventV2.event_id hne l event_id

theorem mem_ids_with_settle {fate : Fate} {event_id key : String} :
    key ∈ ids_with (settle_id fate l event_id) fate ↔
      key ∈ ids_with l fate ∨ (key = event_id ∧ event_id ∈ accepted_ids l) :=
  Ledger.mem_keysWith_settle TraceEventV2.event_id

theorem items_settle_id (fate : Fate) (l : SpoolLedger) (event_id : String) :
    Ledger.items (settle_id fate l event_id) = Ledger.items l :=
  Ledger.items_settle TraceEventV2.event_id l event_id fate

/-- Events settled one after the other. -/
def settle_ids (fate : Fate) (l : SpoolLedger) (ids : List String) : SpoolLedger :=
  ids.foldl (settle_id fate) l

theorem items_settle_ids (fate : Fate) (ids : List String) :
    ∀ l : SpoolLedger, Ledger.items (settle_ids fate l ids) = Ledger.items l := by
  induction ids with
  | nil => intro l; rfl
  | cons event_id rest ih =>
    intro l
    show Ledger.items (settle_ids fate (settle_id fate l event_id) rest) = _
    rw [ih, items_settle_id]

/-- The settled events leave every other fate. -/
theorem ids_with_settle_ids_of_ne {fate other : Fate} (hne : fate ≠ other) (ids : List String) :
    ∀ l : SpoolLedger, ids_with (settle_ids fate l ids) other =
      (ids_with l other).filter (fun key => key ∉ ids) := by
  induction ids with
  | nil => intro l; simp [settle_ids]
  | cons event_id rest ih =>
    intro l
    show ids_with (settle_ids fate (settle_id fate l event_id) rest) other = _
    rw [ih, ids_with_settle_of_ne hne, List.filter_filter]
    refine List.filter_congr (fun key _ => ?_)
    simp [Bool.and_comm]

/-- The settled events enter their fate. -/
theorem mem_ids_with_settle_ids {fate : Fate} (ids : List String) :
    ∀ {l : SpoolLedger}, (∀ event_id ∈ ids, event_id ∈ accepted_ids l) → ∀ key,
      (key ∈ ids_with (settle_ids fate l ids) fate ↔ key ∈ ids_with l fate ∨ key ∈ ids) := by
  induction ids with
  | nil => intro l _ key; simp [settle_ids]
  | cons event_id rest ih =>
    intro l hmem key
    have hrest : ∀ other ∈ rest, other ∈ accepted_ids (settle_id fate l event_id) := by
      intro other hother
      rw [accepted_ids, Ledger.keys, items_settle_id]
      exact hmem other (List.mem_cons_of_mem _ hother)
    show key ∈ ids_with (settle_ids fate (settle_id fate l event_id) rest) fate ↔ _
    rw [ih hrest, mem_ids_with_settle, List.mem_cons]
    have haccepted := hmem event_id List.mem_cons_self
    tauto

theorem length_delete_pending (s : TraceSpool) (event_id : String) :
    (s.delete_pending event_id).trace_spool.rows.length ≤ s.trace_spool.rows.length :=
  List.length_filter_le _ _

theorem Records.delete_pending {accepted : List TraceEventV2} (h : Records s accepted)
    (event_id : String) : Records (s.delete_pending event_id) accepted where
  seen := h.seen
  pending := fun row hrow => h.pending row (mem_delete_pending.mp hrow).1
  dead := h.dead
  ascending := h.ascending
  last := h.last
  capacity := (length_delete_pending s event_id).trans h.capacity

/-- Deleting a pending event acknowledges it, unless it is in the dead letter. -/
theorem Refines.acknowledge_one (h : Refines s l) {event_id : String}
    (halive : event_id ∉ ids_with l .dead_lettered) :
    Refines (s.delete_pending event_id) (settle_id .acknowledged l event_id) where
  toRecords := by
    rw [items_settle_id]
    exact h.toRecords.delete_pending event_id
  pending_ids := by
    rw [delete_pending_keys, h.pending_ids, ids_with_settle_of_ne (by decide)]
  dead_ids := by
    intro key
    rw [ids_with_settle_of_ne (by decide), List.mem_filter, ← h.dead_ids key]
    refine ⟨fun hdead => ⟨hdead, ?_⟩, fun hdead => hdead.1⟩
    have hne : key ≠ event_id := by
      intro hkey
      rw [hkey] at hdead
      exact halive ((h.dead_ids event_id).mp hdead)
    exact decide_eq_true hne

theorem Records.dead_letter {accepted : List TraceEventV2} (h : Records s accepted)
    {reason event_id : String} {event moved : TraceEventV2} (hmem : event ∈ accepted)
    (hid : event.event_id = event_id) (henrich : Enriches event moved) :
    Records (s.dead_letter reason event_id moved) accepted where
  seen := h.seen
  pending := fun row hrow => h.pending row (mem_delete_pending.mp hrow).1
  dead := by
    intro row hrow
    rcases mem_dead_letter hrow with ⟨hkey, hval⟩ | hold
    · refine ⟨event, hmem, hid.trans hkey.symm, ?_⟩
      rw [hval]
      exact henrich
    · exact h.dead row hold
  ascending := h.ascending
  last := h.last
  capacity := (length_delete_pending _ event_id).trans h.capacity

/-- Moving an accepted event to the dead letter settles it so. -/
theorem Refines.dead_letter_one (h : Refines s l) {reason event_id : String}
    {event moved : TraceEventV2} (hmem : event ∈ Ledger.items l)
    (hid : event.event_id = event_id) (henrich : Enriches event moved) :
    Refines (s.dead_letter reason event_id moved) (settle_id .dead_lettered l event_id) where
  toRecords := by
    rw [items_settle_id]
    exact h.toRecords.dead_letter hmem hid henrich
  pending_ids := by
    rw [ids_with_settle_of_ne (by decide)]
    show (delete_pending _ event_id).trace_spool.rows.map Row.key = _
    rw [delete_pending_keys]
    exact congrArg _ h.pending_ids
  dead_ids := by
    intro key
    have haccepted : event_id ∈ accepted_ids l := List.mem_map.mpr ⟨event, hmem, hid⟩
    rw [dead_letter_get?, mem_ids_with_settle, ← h.dead_ids key]
    by_cases hkey : key = event_id
    · simp [hkey, haccepted]
    · simp [hkey]

/-- Acknowledged events, one after the other. -/
theorem Refines.acknowledge_all (events : List TraceEventV2) :
    ∀ {s : TraceSpool} {l : SpoolLedger}, Refines s l →
      (∀ event ∈ events, event.event_id ∉ ids_with l .dead_lettered) →
      Refines (events.foldl (fun s event => s.delete_pending event.event_id) s)
        (settle_ids .acknowledged l (events.map TraceEventV2.event_id)) := by
  induction events with
  | nil => intro s l h _; exact h
  | cons event rest ih =>
    intro s l h halive
    refine ih (h.acknowledge_one (halive event List.mem_cons_self)) ?_
    intro other hother hdead
    rw [ids_with_settle_of_ne (by decide)] at hdead
    exact halive other (List.mem_cons_of_mem _ hother) (List.mem_filter.mp hdead).1

/-- Rows moved to the dead letter, one after the other. -/
theorem Refines.dead_letter_all (reason : String) (moved : List (Row String TraceEventV2)) :
    ∀ {s : TraceSpool} {l : SpoolLedger}, Refines s l →
      (∀ row ∈ moved, ∃ event ∈ Ledger.items l,
        event.event_id = row.key ∧ Enriches event row.val) →
      Refines (moved.foldl (fun s row => s.dead_letter reason row.key row.val) s)
        (settle_ids .dead_lettered l (moved.map Row.key)) := by
  induction moved with
  | nil => intro s l h _; exact h
  | cons row rest ih =>
    intro s l h hmoved
    obtain ⟨event, hmem, hid, henrich⟩ := hmoved row List.mem_cons_self
    refine ih (h.dead_letter_one hmem hid henrich) ?_
    intro other hother
    rw [items_settle_id]
    exact hmoved other (List.mem_cons_of_mem _ hother)

/-- Enriching a pending event changes no fate. -/
theorem Refines.replace_pending (h : Refines s l) {event enriched : TraceEventV2}
    (hmem : event ∈ Ledger.items l) (henrich : Enriches event enriched) :
    Refines (s.replace_pending enriched).2 l := by
  have hsnd := replace_pending_snd enriched s
  have hkeys := replace_pending_keys enriched s
  have hlength : (s.replace_pending enriched).2.trace_spool.rows.length =
      s.trace_spool.rows.length := by
    simpa using congrArg List.length hkeys
  constructor
  · rw [hsnd] at hlength ⊢
    refine ⟨h.seen, ?_, h.dead, h.ascending, h.last, hlength ▸ h.capacity⟩
    intro row hrow
    obtain ⟨old, hold, rfl⟩ := RowTable.mem_mapVals.mp hrow
    obtain ⟨e, he, hid, hold'⟩ := h.pending old hold
    refine ⟨e, he, hid, ?_⟩
    show Enriches e (if old.key = enriched.event_id then enriched else old.val)
    by_cases hkey : old.key = enriched.event_id
    · -- the row of the event that was enriched
      rw [if_pos hkey]
      have heq : e = event :=
        h.eq_of_id he hmem (hid.trans (hkey.trans henrich.event_id))
      rw [heq]
      exact henrich
    · rw [if_neg hkey]
      exact hold'
  · rw [hkeys]
    exact h.pending_ids
  · intro key
    rw [hsnd]
    exact h.dead_ids key

end Settle

/-! ## §5. What the worker loads. -/

section Load

variable {s : TraceSpool} {l : SpoolLedger} (h : Refines s l)

include h

/-- The rows of the pending events, by id. -/
theorem Refines.pending_event_ids :
    s.trace_spool.rows.map (fun row => row.val.event_id) = ids_with l .pending := by
  rw [← h.pending_ids]
  refine List.map_congr_left (fun row hrow => ?_)
  obtain ⟨event, _, hid, henrich⟩ := h.pending row hrow
  exact henrich.event_id.trans hid

/-- A batch is the oldest of the accepted events that are still pending. -/
theorem Refines.load_batch_ids (limit : Nat) :
    (s.load_batch limit).map TraceEventV2.event_id = (ids_with l .pending).take limit := by
  unfold load_batch
  rw [List.map_map, ← h.pending_event_ids, List.map_take]
  rfl

/-- An event of a batch is an accepted event up to enrichment. -/
theorem Refines.of_mem_load_batch {limit : Nat} {event : TraceEventV2}
    (hmem : event ∈ s.load_batch limit) :
    event.event_id ∈ ids_with l .pending ∧ ∃ e ∈ Ledger.items l, Enriches e event := by
  obtain ⟨row, hrow, rfl⟩ := List.mem_map.mp hmem
  have hrow := List.mem_of_mem_take hrow
  obtain ⟨e, he, _, henrich⟩ := h.pending row hrow
  refine ⟨?_, e, he, henrich⟩
  rw [← h.pending_event_ids]
  exact List.mem_map_of_mem (f := fun row => row.val.event_id) hrow

theorem Refines.load_batch_nodup (limit : Nat) :
    ((s.load_batch limit).map TraceEventV2.event_id).Nodup := by
  rw [h.load_batch_ids]
  exact ((h.distinct_ids.sublist (Ledger.keysWith_sublist _ l _))).sublist
    (List.take_sublist _ _)

/-- One id was accepted before another, as the order within a trace shows. -/
def Before (accepted : List TraceEventV2) (id id' : String) : Prop :=
  ∀ a ∈ accepted, ∀ b ∈ accepted, a.event_id = id → b.event_id = id' →
    a.trace_id = b.trace_id → a.sequence < b.sequence

/-- Within each trace the sequences of a batch come out strictly increasing. -/
theorem Refines.load_batch_ascending (limit : Nat) :
    (s.load_batch limit).Pairwise (fun a b => a.trace_id = b.trace_id → a.sequence < b.sequence) := by
  have haccepted : (accepted_ids l).Pairwise (Before (Ledger.items l)) := by
    rw [accepted_ids, Ledger.keys, List.pairwise_map]
    refine h.ascending.imp_of_mem ?_
    intro a b ha hb hlt a' ha' b' hb' hida hidb
    rw [h.eq_of_id ha' ha hida, h.eq_of_id hb' hb hidb]
    exact hlt
  have hbatch : ((s.load_batch limit).map TraceEventV2.event_id).Pairwise
      (Before (Ledger.items l)) := by
    rw [h.load_batch_ids]
    exact (haccepted.sublist (Ledger.keysWith_sublist _ l _)).sublist (List.take_sublist _ _)
  rw [List.pairwise_map] at hbatch
  refine hbatch.imp_of_mem ?_
  intro a b ha hb hbefore htrace
  obtain ⟨_, ea, hea, henricha⟩ := h.of_mem_load_batch ha
  obtain ⟨_, eb, heb, henrichb⟩ := h.of_mem_load_batch hb
  rw [henricha.trace_id, henrichb.trace_id] at htrace
  rw [henricha.sequence, henrichb.sequence]
  exact hbefore ea hea eb heb henricha.event_id.symm henrichb.event_id.symm htrace

end Load

end ResolverIdentity.Adapter
