/-
  ResolverIdentity.Store.TraceShape: the shape of a stored trace.

  `put_trace_events` looks at one event at a time: the next sequence, a parent
  stored before, no terminal event yet, no other event under the same id.  From
  any number of batches this makes of each trace a chain 1..n whose last event
  alone may be terminal.

  Main results:
    * `last_sequence_of_shape`: the largest stored sequence is the length of the chain;
    * `insert_trace_event_shape`: an admitted event is the next of its chain;
    * `put_trace_events_iff`: the batches that are accepted;
    * `trace_store_invariant`: the shape of every trace after every run, and what one
      more batch does.
-/
import ResolverIdentity.Store.Traces

namespace ResolverIdentity.Store

open Library

namespace EvidenceStore

/-! ## §1. The shape. -/

/-- The events of a trace that carry a sequence, in the order they were stored. -/
def sequenced_rows (s : EvidenceStore) (trace_id : String) : List (Row String TraceEventV2) :=
  (s.trace_rows trace_id).filter (fun row => 0 < row.val.sequence)

/-- A chain of `n` events. -/
structure TraceShape (s : EvidenceStore) (trace_id : String) (n : Nat) : Prop where
  bound : (n : Int) ≤ I64_MAX
  sequences : (s.sequenced_rows trace_id).map (fun row => row.val.sequence) = List.range' 1 n
  first : ∀ row ∈ s.sequenced_rows trace_id, row.val.sequence = 1 →
    row.val.parent_event_id = none ∧ row.val.kind = .clientQuery
  parent : ∀ row ∈ s.sequenced_rows trace_id, row.val.sequence ≠ 1 →
    ∃ parent ∈ s.trace_rows trace_id, row.val.parent_event_id = some parent.key ∧
      parent.rowid < row.rowid ∧ parent.val.sequence < row.val.sequence
  terminal : ∀ row ∈ s.sequenced_rows trace_id, terminal_kind row.val.kind = true →
    row.val.sequence = n

variable {s s' : EvidenceStore} {trace_id : String} {n : Nat}

theorem mem_trace_rows {row : Row String TraceEventV2} :
    row ∈ s.trace_rows trace_id ↔ row ∈ s.ri_v2_trace_events.rows ∧ row.val.trace_id = trace_id := by
  unfold trace_rows
  rw [List.mem_filter, decide_eq_true_eq]

theorem mem_sequenced_rows {row : Row String TraceEventV2} :
    row ∈ s.sequenced_rows trace_id ↔ row ∈ s.trace_rows trace_id ∧ 0 < row.val.sequence := by
  unfold sequenced_rows
  rw [List.mem_filter, decide_eq_true_eq]

theorem TraceShape.mem_sequences (h : TraceShape s trace_id n) {m : Nat} :
    (∃ row ∈ s.sequenced_rows trace_id, row.val.sequence = m) ↔ 0 < m ∧ m ≤ n := by
  have hmem : m ∈ (s.sequenced_rows trace_id).map (fun row => row.val.sequence) ↔
      m ∈ List.range' 1 n := by rw [h.sequences]
  rw [List.mem_map, List.mem_range'_1] at hmem
  rw [hmem]
  omega

theorem TraceShape.sequence_le (h : TraceShape s trace_id n) {row : Row String TraceEventV2}
    (hrow : row ∈ s.trace_rows trace_id) : row.val.sequence ≤ n := by
  by_cases hpos : 0 < row.val.sequence
  · exact (h.mem_sequences.mp ⟨row, mem_sequenced_rows.mpr ⟨hrow, hpos⟩, rfl⟩).2
  · omega

/-- No two events of a trace carry the same sequence. -/
theorem TraceShape.sequence_inj (h : TraceShape s trace_id n) {a b : Row String TraceEventV2}
    (ha : a ∈ s.sequenced_rows trace_id) (hb : b ∈ s.sequenced_rows trace_id)
    (heq : a.val.sequence = b.val.sequence) : a = b := by
  have hnodup : ((s.sequenced_rows trace_id).map (fun row => row.val.sequence)).Nodup := by
    rw [h.sequences]
    exact List.nodup_range'
  exact List.inj_on_of_nodup_map hnodup ha hb heq

/-! ## §2. The largest sequence. -/

theorem foldr_max_le {l : List Int} {m : Int} (hm : 0 ≤ m) (h : ∀ a ∈ l, a ≤ m) :
    l.foldr max 0 ≤ m := by
  induction l with
  | nil => exact hm
  | cons a rest ih =>
    rw [List.foldr_cons]
    exact max_le (h a List.mem_cons_self) (ih (fun b hb => h b (List.mem_cons_of_mem _ hb)))

theorem le_foldr_max {l : List Int} {a : Int} (h : a ∈ l) : a ≤ l.foldr max 0 := by
  induction l with
  | nil => cases h
  | cons b rest ih =>
    rw [List.foldr_cons]
    rcases List.mem_cons.mp h with rfl | h
    · exact le_max_left _ _
    · exact (ih h).trans (le_max_right _ _)

theorem foldr_max_nonneg (l : List Int) : 0 ≤ l.foldr max 0 := by
  induction l with
  | nil => exact le_refl _
  | cons a rest ih => exact ih.trans (le_max_right _ _)

theorem cast_sequence_of_le {m : Nat} (h : (m : Int) ≤ I64_MAX) : cast_sequence m = m := by
  unfold cast_sequence
  exact min_eq_left h

theorem last_sequence_of_shape (h : TraceShape s trace_id n) : s.last_sequence trace_id = n := by
  have hcast : ∀ row ∈ s.trace_rows trace_id, cast_sequence row.val.sequence = row.val.sequence := by
    intro row hrow
    have hle := h.sequence_le hrow
    have hbound := h.bound
    exact cast_sequence_of_le (by omega)
  unfold last_sequence
  apply le_antisymm
  · refine foldr_max_le (Int.natCast_nonneg n) (fun a ha => ?_)
    obtain ⟨row, hrow, rfl⟩ := List.mem_map.mp ha
    rw [hcast row hrow]
    exact Int.ofNat_le.mpr (h.sequence_le hrow)
  · by_cases hpos : 0 < n
    · obtain ⟨row, hrow, hseq⟩ := h.mem_sequences.mpr ⟨hpos, le_refl n⟩
      have hrow' := (mem_sequenced_rows.mp hrow).1
      refine le_foldr_max (List.mem_map.mpr ⟨row, hrow', ?_⟩)
      rw [hcast row hrow', hseq]
    · have hzero : n = 0 := by omega
      rw [hzero]
      exact foldr_max_nonneg _

/-! ## §3. One event. -/

theorem insert_trace_event_eq_ok {event : TraceEventV2}
    (h : insert_trace_event event s = .ok ((), s')) :
    s.check_trace_sequence event = .ok () ∧ s.sequence_indexed event = false ∧
      s'.ri_v2_trace_events.rows = s.ri_v2_trace_events.rows ++
        [⟨s.ri_v2_trace_events.maxRowid + 1, event.event_id, event⟩] := by
  unfold insert_trace_event at h
  obtain ⟨_, hcheck, h⟩ := bind_eq_ok.mp h
  obtain ⟨_, hindex, h⟩ := bind_eq_ok.mp h
  obtain ⟨table, htable, h⟩ := bind_eq_ok.mp h
  obtain ⟨_, rfl⟩ := Prod.mk.inj (Except.ok.inj h)
  rw [rejectIf_eq_ok] at hindex
  rw [okOr_eq_ok] at htable
  exact ⟨hcheck, hindex, (RowTable.insert?_eq_some htable).2⟩

/-- Where an admitted event stands in its trace. -/
structure Admitted (s : EvidenceStore) (event : TraceEventV2) (n : Nat) : Prop where
  bound : ((n + 1 : Nat) : Int) ≤ I64_MAX
  next : event.sequence = n + 1
  first : n = 0 → event.parent_event_id = none ∧ event.kind = .clientQuery
  parent : n ≠ 0 → ∃ parent ∈ s.trace_rows event.trace_id,
    event.parent_event_id = some parent.key ∧ parent.val.sequence < event.sequence
  open_ : n ≠ 0 → ∀ row ∈ s.trace_rows event.trace_id, terminal_kind row.val.kind = false

/-- The checks on a sequenced event, read off the shape of its trace. -/
theorem admitted_of_checks {event : TraceEventV2} (h : TraceShape s event.trace_id n)
    (hpos : 0 < event.sequence) (hcheck : s.check_trace_sequence event = .ok ())
    (hindex : s.sequence_indexed event = false) : Admitted s event n := by
  have hbound := h.bound
  unfold check_trace_sequence at hcheck
  rw [if_pos hpos] at hcheck
  unfold check_trace_order at hcheck
  obtain ⟨last, hlast, hcheck⟩ := bind_eq_ok.mp hcheck
  obtain ⟨_, horder, hplace⟩ := bind_eq_ok.mp hcheck
  rw [last_sequence_of_shape h, u64_try_from_natCast, okOr_eq_ok] at hlast
  obtain rfl := Option.some.inj hlast
  have hnext : event.sequence = n + 1 := by
    rw [rejectIf_eq_ok, bne_eq_false_iff_eq] at horder
    rw [horder]
    refine u64_succ_of_lt ?_
    unfold I64_MAX at hbound
    unfold U64_MAX
    omega
  -- past the range of SQLite's integers the index sees the last sequence again
  have hbound' : ((n + 1 : Nat) : Int) ≤ I64_MAX := by
    by_contra hbig
    have hn : (n : Int) = I64_MAX := by omega
    have hn0 : 0 < n := by
      unfold I64_MAX at hn
      omega
    obtain ⟨row, hrow, hseq⟩ := h.mem_sequences.mpr ⟨hn0, le_refl n⟩
    have hmax : cast_sequence event.sequence = I64_MAX := by
      unfold cast_sequence
      rw [hnext]
      exact min_eq_right (by omega)
    have hsame : cast_sequence row.val.sequence = I64_MAX := by
      rw [hseq, cast_sequence_of_le hbound, hn]
    unfold sequence_indexed at hindex
    rw [hmax, Bool.and_eq_false_iff] at hindex
    rcases hindex with hpositive | hany
    · exact absurd hpositive (by decide)
    · rw [List.any_eq_false] at hany
      exact hany row (mem_sequenced_rows.mp hrow).1 (decide_eq_true hsame)
  unfold check_trace_place at hplace
  by_cases hone : event.sequence = 1
  · rw [if_pos hone, rejectIf_eq_ok, Bool.or_eq_false_iff, Option.isSome_eq_false_iff,
      Option.isNone_iff_eq_none, bne_eq_false_iff_eq] at hplace
    have hzero : n = 0 := by omega
    exact ⟨hbound', hnext, fun _ => hplace, fun hne => absurd hzero hne,
      fun hne => absurd hzero hne⟩
  · rw [if_neg hone] at hplace
    have hne : n ≠ 0 := by omega
    unfold check_trace_parent at hplace
    obtain ⟨parent, hparent, hplace⟩ := bind_eq_ok.mp hplace
    obtain ⟨found, hfound, hplace⟩ := bind_eq_ok.mp hplace
    obtain ⟨parent_sequence, hsequence, hplace⟩ := bind_eq_ok.mp hplace
    obtain ⟨_, hprecedes, hterminal⟩ := bind_eq_ok.mp hplace
    rw [okOr_eq_ok, Option.filter_eq_some_iff, decide_eq_true_eq] at hfound
    obtain ⟨row, hrow, hkey, hval⟩ := RowTable.get?_eq_some_iff.mp hfound.1
    have htrace : row ∈ s.trace_rows event.trace_id :=
      mem_trace_rows.mpr ⟨hrow, by rw [hval]; exact hfound.2⟩
    have hcast : cast_sequence found.sequence = (found.sequence : Int) := by
      have hle := h.sequence_le htrace
      rw [hval] at hle
      exact cast_sequence_of_le (by omega)
    rw [hcast, u64_try_from_natCast, okOr_eq_ok] at hsequence
    obtain rfl := Option.some.inj hsequence
    rw [rejectIf_eq_ok, decide_eq_false_iff_not, not_le] at hprecedes
    rw [rejectIf_eq_ok, List.any_eq_false] at hterminal
    refine ⟨hbound', hnext, fun hzero => absurd hzero hne, fun _ => ⟨row, htrace, ?_, ?_⟩,
      fun _ other hother => ?_⟩
    · rw [hkey]
      exact okOr_eq_ok.mp hparent
    · rw [hval]
      exact hprecedes
    · exact Bool.not_eq_true _ ▸ hterminal other hother

/-- Conversely an event in such a place passes the checks. -/
theorem checks_of_admitted {event : TraceEventV2} (h : TraceShape s event.trace_id n)
    (hadmitted : Admitted s event n) :
    s.check_trace_sequence event = .ok () ∧ s.sequence_indexed event = false := by
  have hbound := hadmitted.bound
  have hnext := hadmitted.next
  -- sequences are small enough to be compared as they are
  have hcast : ∀ row ∈ s.trace_rows event.trace_id,
      cast_sequence row.val.sequence = row.val.sequence := by
    intro row hrow
    have hle := h.sequence_le hrow
    exact cast_sequence_of_le (by omega)
  constructor
  · have hsucc : u64_succ n = event.sequence := by
      rw [hnext]
      refine u64_succ_of_lt ?_
      unfold I64_MAX at hbound
      unfold U64_MAX
      omega
    unfold check_trace_sequence
    rw [if_pos (by omega)]
    unfold check_trace_order
    simp only [bind_eq_ok, exists_unit, okOr_eq_ok, rejectIf_eq_ok]
    refine ⟨n, ?_, ?_, ?_⟩
    · rw [last_sequence_of_shape h]
      exact u64_try_from_natCast _
    · rw [hsucc, bne_self_eq_false]
    -- the first event has no parent, any other names one stored before it
    unfold check_trace_place
    by_cases hzero : n = 0
    · obtain ⟨hparent, hkind⟩ := hadmitted.first hzero
      rw [if_pos (by omega), hparent, hkind]
      rfl
    · obtain ⟨parent, hmem, hid, hprecedes⟩ := hadmitted.parent hzero
      obtain ⟨hstored, htrace⟩ := mem_trace_rows.mp hmem
      rw [if_neg (by omega)]
      unfold check_trace_parent
      simp only [bind_eq_ok, okOr_eq_ok, rejectIf_eq_ok]
      refine ⟨parent.key, hid, parent.val, ?_, parent.val.sequence, ?_, (), ?_, ?_⟩
      · rw [RowTable.get?_of_mem hstored, Option.filter_some, if_pos (decide_eq_true htrace)]
      · rw [hcast parent hmem]
        exact u64_try_from_natCast _
      · rw [decide_eq_false_iff_not]
        omega
      · rw [List.any_eq_false]
        intro row hrow
        rw [hadmitted.open_ hzero row hrow]
        exact Bool.false_ne_true
  · -- no stored event has the number yet
    unfold sequence_indexed
    rw [Bool.and_eq_false_iff, List.any_eq_false]
    right
    intro row hrow htaken
    have hle := h.sequence_le hrow
    have hsame := of_decide_eq_true htaken
    rw [hcast row hrow, cast_sequence_of_le (by omega)] at hsame
    omega

theorem trace_rows_append {event : TraceEventV2} {row : Row String TraceEventV2}
    (hrow : row.val = event)
    (h : s'.ri_v2_trace_events.rows = s.ri_v2_trace_events.rows ++ [row]) (trace_id : String) :
    s'.trace_rows trace_id =
      s.trace_rows trace_id ++ (if event.trace_id = trace_id then [row] else []) := by
  unfold trace_rows
  rw [h, List.filter_append, List.filter_singleton, hrow]
  simp only [Bool.cond_decide]

/-- Rows only come, and none of them is sequenced: the chain stays. -/
theorem TraceShape.grow {added : List (Row String TraceEventV2)} (h : TraceShape s trace_id n)
    (hrows : s'.trace_rows trace_id = s.trace_rows trace_id ++ added)
    (hnone : ∀ row ∈ added, row.val.sequence = 0) : TraceShape s' trace_id n := by
  have hsequenced : s'.sequenced_rows trace_id = s.sequenced_rows trace_id := by
    have hfilter : added.filter (fun row => 0 < row.val.sequence) = [] := by
      refine List.filter_eq_nil_iff.mpr (fun row hrow => ?_)
      rw [hnone row hrow]
      exact Bool.false_ne_true
    unfold sequenced_rows
    rw [hrows, List.filter_append, hfilter, List.append_nil]
  constructor
  · exact h.bound
  · rw [hsequenced]
    exact h.sequences
  · rw [hsequenced]
    exact h.first
  · rw [hsequenced, hrows]
    intro row hrow hne
    obtain ⟨parent, hparent, hrest⟩ := h.parent row hrow hne
    exact ⟨parent, List.mem_append_left _ hparent, hrest⟩
  · rw [hsequenced]
    exact h.terminal

/-- An admitted event is the next of its chain. -/
theorem TraceShape.extend {event : TraceEventV2} {row : Row String TraceEventV2}
    (h : TraceShape s event.trace_id n) (hadmitted : Admitted s event n) (hval : row.val = event)
    (hnew : s.ri_v2_trace_events.maxRowid < row.rowid)
    (hrows : s'.trace_rows event.trace_id = s.trace_rows event.trace_id ++ [row]) :
    TraceShape s' event.trace_id (n + 1) := by
  have hnext : row.val.sequence = n + 1 := by rw [hval, hadmitted.next]
  -- the new row is the last of the trace
  have hsequenced : s'.sequenced_rows event.trace_id = s.sequenced_rows event.trace_id ++ [row] := by
    have hfilter : [row].filter (fun row => 0 < row.val.sequence) = [row] := by
      refine List.filter_eq_self.mpr (fun other hother => decide_eq_true ?_)
      rw [List.mem_singleton.mp hother]
      omega
    unfold sequenced_rows
    rw [hrows, List.filter_append, hfilter]
  constructor
  · exact hadmitted.bound
  · rw [hsequenced, List.map_append, h.sequences, List.range'_concat, Nat.one_mul, Nat.add_comm 1 n]
    simp only [List.map_cons, List.map_nil, hnext]
  · rw [hsequenced]
    intro other hother hone
    rcases List.mem_append.mp hother with hold | hlast
    · exact h.first other hold hone
    · rw [List.mem_singleton.mp hlast] at hone ⊢
      rw [hval]
      exact hadmitted.first (by omega)
  · rw [hsequenced, hrows]
    intro other hother hne
    rcases List.mem_append.mp hother with hold | hlast
    · obtain ⟨parent, hparent, hrest⟩ := h.parent other hold hne
      exact ⟨parent, List.mem_append_left _ hparent, hrest⟩
    · rw [List.mem_singleton.mp hlast] at hne ⊢
      obtain ⟨parent, hparent, hid, hprecedes⟩ := hadmitted.parent (by omega)
      have hbefore : parent.rowid ≤ s.ri_v2_trace_events.maxRowid :=
        RowTable.rowid_le_maxRowid _ (mem_trace_rows.mp hparent).1
      refine ⟨parent, List.mem_append_left _ hparent, ?_, by omega, ?_⟩
      · rw [hval]
        exact hid
      · rw [hval]
        exact hprecedes
  · rw [hsequenced]
    intro other hother hterminal
    rcases List.mem_append.mp hother with hold | hlast
    · -- nothing follows a terminal event
      have hmem := mem_sequenced_rows.mp hold
      have hle := h.sequence_le hmem.1
      have hopen := hadmitted.open_ (by omega) other hmem.1
      rw [hterminal] at hopen
      cases hopen
    · rw [List.mem_singleton.mp hlast]
      exact hnext

theorem insert_trace_event_shape {event : TraceEventV2}
    (h : ∀ trace_id, ∃ n, TraceShape s trace_id n)
    (hinsert : insert_trace_event event s = .ok ((), s')) (trace_id : String) :
    ∃ n, TraceShape s' trace_id n := by
  obtain ⟨hcheck, hindex, hrows⟩ := insert_trace_event_eq_ok hinsert
  have htrace := fun trace_id => trace_rows_append
    (show (⟨_, _, event⟩ : Row String TraceEventV2).val = event from rfl) hrows trace_id
  obtain ⟨n, hn⟩ := h trace_id
  by_cases hsame : event.trace_id = trace_id
  · have htrace' := htrace trace_id
    rw [if_pos hsame] at htrace'
    by_cases hpos : 0 < event.sequence
    · subst hsame
      exact ⟨n + 1, hn.extend (admitted_of_checks hn hpos hcheck hindex) rfl
        (Nat.lt_succ_self _) htrace'⟩
    · refine ⟨n, hn.grow htrace' (fun row hrow => ?_)⟩
      rw [List.mem_singleton.mp hrow]
      exact Nat.eq_zero_of_not_pos hpos
  · have htrace' := htrace trace_id
    rw [if_neg hsame] at htrace'
    exact ⟨n, hn.grow htrace' (fun row hrow => (nomatch hrow))⟩

/-! ## §4. Batches. -/

theorem put_one_shape {event : TraceEventV2} (h : ∀ trace_id, ∃ n, TraceShape s trace_id n)
    (hput : put_one event s = .ok ((), s')) : ∀ trace_id, ∃ n, TraceShape s' trace_id n := by
  unfold put_one at hput
  cases hget : s.ri_v2_trace_events.get? event.event_id with
  | some existing =>
    rw [hget] at hput
    obtain ⟨_, _, hput⟩ := bind_eq_ok.mp hput
    obtain ⟨_, rfl⟩ := Prod.mk.inj (Except.ok.inj hput)
    exact h
  | none =>
    rw [hget] at hput
    exact insert_trace_event_shape h hput

theorem put_trace_events_body_shape {events : List TraceEventV2} :
    ∀ {s s' : EvidenceStore}, (∀ trace_id, ∃ n, TraceShape s trace_id n) →
      put_trace_events_body events s = .ok ((), s') → ∀ trace_id, ∃ n, TraceShape s' trace_id n := by
  induction events with
  | nil =>
    intro s s' h hrun
    obtain ⟨_, rfl⟩ := Prod.mk.inj (Except.ok.inj hrun)
    exact h
  | cons event rest ih =>
    intro s s' h hrun
    obtain ⟨⟨_, s₁⟩, hone, hrun⟩ := bind_eq_ok.mp hrun
    exact ih (put_one_shape h hone) hrun

theorem put_trace_events_shape {events : List TraceEventV2}
    (h : ∀ trace_id, ∃ n, TraceShape s trace_id n) :
    ∀ trace_id, ∃ n, TraceShape (s.put_trace_events events).2 trace_id n := by
  rcases transaction_snd (put_trace_events_body events) s with ⟨_, s₁, hbody, hs₁⟩ | ⟨_, _, hs₁⟩
  · rw [show (s.put_trace_events events).2 = s₁ from hs₁]
    exact put_trace_events_body_shape h hbody
  · rw [show (s.put_trace_events events).2 = s from hs₁]
    exact h

/-- What the store takes: an event it holds, a new one without a sequence, and a new one
that is the next of its chain. -/
def Acceptable (s : EvidenceStore) (event : TraceEventV2) : Prop :=
  match s.ri_v2_trace_events.get? event.event_id with
  | some stored => stored = event
  | none => event.sequence = 0 ∨ Admitted s event (s.sequenced_rows event.trace_id).length

theorem TraceShape.length_eq (h : TraceShape s trace_id n) :
    (s.sequenced_rows trace_id).length = n := by
  have hlength := congrArg List.length h.sequences
  rwa [List.length_map, List.length_range'] at hlength

theorem put_one_iff {event : TraceEventV2} (h : TraceShape s event.trace_id n) :
    (∃ s', put_one event s = .ok ((), s')) ↔ Acceptable s event := by
  unfold put_one Acceptable
  rw [h.length_eq]
  cases hget : s.ri_v2_trace_events.get? event.event_id with
  | some stored =>
    simp only [bind_eq_ok, exists_unit, rejectIf_eq_ok, bne_eq_false_iff_eq]
    constructor
    · intro hput
      obtain ⟨_, hsame, _⟩ := hput
      exact hsame
    · intro hsame
      exact ⟨s, hsame, rfl⟩
  | none =>
    constructor
    · intro hput
      obtain ⟨s', hput⟩ := hput
      obtain ⟨hcheck, hindex, _⟩ := insert_trace_event_eq_ok hput
      by_cases hpos : 0 < event.sequence
      · exact Or.inr (admitted_of_checks h hpos hcheck hindex)
      · exact Or.inl (Nat.eq_zero_of_not_pos hpos)
    · intro hplace
      have hchecks : s.check_trace_sequence event = .ok () ∧
          s.sequence_indexed event = false := by
        rcases hplace with hzero | hadmitted
        · unfold check_trace_sequence sequence_indexed
          rw [hzero]
          exact ⟨rfl, rfl⟩
        · exact checks_of_admitted h hadmitted
      obtain ⟨table, htable⟩ := Option.isSome_iff_exists.mp
        (RowTable.insert?_isSome_iff (v := event).mpr hget)
      refine ⟨{ s with ri_v2_trace_events := table }, ?_⟩
      unfold insert_trace_event
      simp only [bind_eq_ok, exists_unit, rejectIf_eq_ok, okOr_eq_ok]
      exact ⟨hchecks.1, hchecks.2, table, htable, rfl⟩

/-- Each event can be taken once those before it are. -/
def AcceptableInTurn : List TraceEventV2 → EvidenceStore → Prop
  | [], _ => True
  | event :: rest, s =>
    Acceptable s event ∧ AcceptableInTurn rest (s.put_trace_events [event]).2

/-- The events one after the other, each as a batch of its own. -/
def put_each (events : List TraceEventV2) (s : EvidenceStore) : EvidenceStore :=
  events.foldl (fun s event => (s.put_trace_events [event]).2) s

theorem put_single_eq_ok {event : TraceEventV2} (h : put_one event s = .ok ((), s')) :
    s.put_trace_events [event] = (.ok (), s') := by
  refine transaction_eq_ok.mpr ?_
  show (put_one event s >>= _) = _
  rw [h]
  rfl

/-- A batch is accepted exactly when its events are in turn. -/
theorem put_trace_events_body_iff {events : List TraceEventV2} :
    ∀ {s : EvidenceStore}, (∀ trace_id, ∃ n, TraceShape s trace_id n) →
      ((∃ s', put_trace_events_body events s = .ok ((), s')) ↔ AcceptableInTurn events s) := by
  induction events with
  | nil => exact fun _ => iff_of_true ⟨_, rfl⟩ trivial
  | cons event rest ih =>
    intro s h
    obtain ⟨n, hn⟩ := h event.trace_id
    constructor
    · intro hrun
      obtain ⟨s', hrun⟩ := hrun
      obtain ⟨⟨_, s₁⟩, hone, hrun⟩ := bind_eq_ok.mp hrun
      refine ⟨(put_one_iff hn).mp ⟨s₁, hone⟩, ?_⟩
      rw [put_single_eq_ok hone]
      exact (ih (put_one_shape h hone)).mp ⟨s', hrun⟩
    · intro hturn
      obtain ⟨hevent, hrest⟩ := hturn
      obtain ⟨s₁, hone⟩ := (put_one_iff hn).mpr hevent
      rw [put_single_eq_ok hone] at hrest
      obtain ⟨s', hrun⟩ := (ih (put_one_shape h hone)).mpr hrest
      exact ⟨s', bind_eq_ok.mpr ⟨((), s₁), hone, hrun⟩⟩

/-- An accepted batch is its events one by one. -/
theorem put_each_of_batch {events : List TraceEventV2} :
    ∀ {s s' : EvidenceStore}, put_trace_events_body events s = .ok ((), s') →
      put_each events s = s' := by
  induction events with
  | nil =>
    intro s s' h
    exact (Prod.mk.inj (Except.ok.inj h)).2
  | cons event rest ih =>
    intro s s' h
    obtain ⟨⟨_, s₁⟩, hone, h⟩ := bind_eq_ok.mp h
    show put_each rest (s.put_trace_events [event]).2 = s'
    rw [put_single_eq_ok hone]
    exact ih h

/-- Stored events are found again and passed over. -/
theorem put_stored {events : List TraceEventV2}
    (h : ∀ event ∈ events, s.ri_v2_trace_events.get? event.event_id = some event) :
    put_trace_events_body events s = .ok ((), s) := by
  induction events with
  | nil => rfl
  | cons event rest ih =>
    have hone : put_one event s = .ok ((), s) := by
      unfold put_one
      simp only [h event List.mem_cons_self, bne_self_eq_false]
      rfl
    show (put_one event s >>= _) = _
    rw [hone]
    exact ih (fun other hother => h other (List.mem_cons_of_mem _ hother))

theorem put_one_stored {event : TraceEventV2} (h : put_one event s = .ok ((), s')) :
    s'.ri_v2_trace_events.get? event.event_id = some event := by
  unfold put_one at h
  cases hget : s.ri_v2_trace_events.get? event.event_id with
  | some existing =>
    rw [hget] at h
    obtain ⟨_, hsame, h⟩ := bind_eq_ok.mp h
    obtain ⟨_, rfl⟩ := Prod.mk.inj (Except.ok.inj h)
    rw [rejectIf_eq_ok, bne_eq_false_iff_eq] at hsame
    rw [hget, hsame]
  | none =>
    rw [hget] at h
    obtain ⟨_, _, hrows⟩ := insert_trace_event_eq_ok h
    refine RowTable.get?_eq_some_iff.mpr
      ⟨⟨s.ri_v2_trace_events.maxRowid + 1, event.event_id, event⟩, ?_, rfl, rfl⟩
    rw [hrows]
    exact List.mem_append_right _ (List.mem_singleton.mpr rfl)

theorem TracesAppended.get?_kept {events : List TraceEventV2}
    {added : List (Row String TraceEventV2)} (h : TracesAppended events s s' added)
    {event_id : String} {event : TraceEventV2}
    (hget : s.ri_v2_trace_events.get? event_id = some event) :
    s'.ri_v2_trace_events.get? event_id = some event := by
  obtain ⟨row, hrow, rfl, rfl⟩ := RowTable.get?_eq_some_iff.mp hget
  refine RowTable.get?_of_mem ?_
  rw [h.rows]
  exact List.mem_append_left _ hrow

/-- Every event of an accepted batch is stored. -/
theorem put_trace_events_body_stored {events : List TraceEventV2} :
    ∀ {s s' : EvidenceStore}, put_trace_events_body events s = .ok ((), s') →
      ∀ event ∈ events, s'.ri_v2_trace_events.get? event.event_id = some event := by
  induction events with
  | nil => exact fun _ _ hevent => (nomatch hevent)
  | cons first rest ih =>
    intro s s' h event hevent
    obtain ⟨⟨_, s₁⟩, hone, hbody⟩ := bind_eq_ok.mp h
    rcases List.mem_cons.mp hevent with rfl | hrest
    · have hkept : ∃ added, TracesAppended rest s₁ s' added :=
        put_trace_events_body_eq_ok (fun _ hmem => hmem) hbody
      obtain ⟨added, hadded⟩ := hkept
      exact hadded.get?_kept (put_one_stored hone)
    · exact ih hbody event hrest

/-! ## §5. Runs. -/

/-- A freshly opened store after these batches, accepted or not. -/
def ingested (batches : List (List TraceEventV2)) : EvidenceStore :=
  batches.foldl (fun s events => (s.put_trace_events events).2) EvidenceStore.open_

/-- At most one event of the chain is terminal. -/
def OneTerminal (s : EvidenceStore) (trace_id : String) : Prop :=
  ∀ a ∈ s.sequenced_rows trace_id, ∀ b ∈ s.sequenced_rows trace_id,
    terminal_kind a.val.kind = true → terminal_kind b.val.kind = true → a = b

theorem TraceShape.one_terminal (h : TraceShape s trace_id n) : OneTerminal s trace_id := by
  intro a ha b hb hterminal hterminal'
  refine h.sequence_inj ha hb ?_
  rw [h.terminal a ha hterminal, h.terminal b hb hterminal']

/-- What one more batch does. -/
structure BatchLaw (s : EvidenceStore) (events : List TraceEventV2) : Prop where
  /-- Stored events never change. -/
  immutable : ∀ event_id event, s.ri_v2_trace_events.get? event_id = some event →
    (s.put_trace_events events).2.ri_v2_trace_events.get? event_id = some event
  /-- A batch that fails leaves the store unchanged. -/
  failed : ∀ e, (s.put_trace_events events).1 = .error e → (s.put_trace_events events).2 = s
  /-- The events of an accepted batch are stored. -/
  stored : (s.put_trace_events events).1 = .ok () → ∀ event ∈ events,
    (s.put_trace_events events).2.ri_v2_trace_events.get? event.event_id = some event
  /-- An accepted batch is its events one by one. -/
  one_by_one : (s.put_trace_events events).1 = .ok () →
    (s.put_trace_events events).2 = put_each events s
  /-- Redelivered events are accepted without effect. -/
  redelivered : (∀ event ∈ events, s.ri_v2_trace_events.get? event.event_id = some event) →
    s.put_trace_events events = (.ok (), s)

theorem batch_law (s : EvidenceStore) (events : List TraceEventV2) : BatchLaw s events where
  immutable := by
    intro event_id event hget
    obtain ⟨_, happended⟩ := put_trace_events_appends events s
    exact happended.get?_kept hget
  failed := by
    intro e he
    exact transaction_error (Prod.ext he rfl)
  stored := by
    intro hok
    have hrun : s.put_trace_events events = (.ok (), (s.put_trace_events events).2) :=
      Prod.ext hok rfl
    exact put_trace_events_body_stored (transaction_eq_ok.mp hrun)
  one_by_one := by
    intro hok
    have hrun : s.put_trace_events events = (.ok (), (s.put_trace_events events).2) :=
      Prod.ext hok rfl
    exact (put_each_of_batch (transaction_eq_ok.mp hrun)).symm
  redelivered := fun h => transaction_eq_ok.mpr (put_stored h)

theorem open_shape (trace_id : String) : TraceShape EvidenceStore.open_ trace_id 0 where
  bound := by decide
  sequences := rfl
  first := fun row hrow => (nomatch hrow)
  parent := fun row hrow => (nomatch hrow)
  terminal := fun row hrow => (nomatch hrow)

theorem ingested_shape (batches : List (List TraceEventV2)) :
    ∀ trace_id, ∃ n, TraceShape (ingested batches) trace_id n := by
  induction batches using List.reverseRecOn with
  | nil => exact fun trace_id => ⟨0, open_shape trace_id⟩
  | append_singleton batches events ih =>
    unfold ingested
    rw [List.foldl_append]
    exact put_trace_events_shape ih

theorem put_trace_events_iff {events : List TraceEventV2}
    (h : ∀ trace_id, ∃ n, TraceShape s trace_id n) :
    (s.put_trace_events events).1 = .ok () ↔ AcceptableInTurn events s := by
  rw [← put_trace_events_body_iff h]
  constructor
  · intro hok
    have hrun : s.put_trace_events events = (.ok (), (s.put_trace_events events).2) :=
      Prod.ext hok rfl
    exact ⟨_, transaction_eq_ok.mp hrun⟩
  · intro hrun
    obtain ⟨s', hrun⟩ := hrun
    exact congrArg Prod.fst (transaction_eq_ok.mpr hrun)

/-- After every run each trace is a chain that ends with its only terminal event, and
every further batch is atomic, keeps what is stored and passes over what it repeats; it is
accepted exactly when each of its events is stored already or the next of its chain. -/
theorem trace_store_invariant (batches : List (List TraceEventV2)) :
    (∀ trace_id, OneTerminal (ingested batches) trace_id ∧
      ∃ n, TraceShape (ingested batches) trace_id n) ∧
    ∀ events, BatchLaw (ingested batches) events ∧
      (((ingested batches).put_trace_events events).1 = .ok () ↔
        AcceptableInTurn events (ingested batches)) := by
  have hshapes := ingested_shape batches
  constructor
  · intro trace_id
    obtain ⟨n, hshape⟩ := hshapes trace_id
    exact ⟨hshape.one_terminal, n, hshape⟩
  · intro events
    exact ⟨batch_law _ events, put_trace_events_iff hshapes⟩

end EvidenceStore

end ResolverIdentity.Store
