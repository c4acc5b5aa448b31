/-
  ResolverIdentity.Wrapper.TransactionIds: the ids of forwarded queries.

  `TransactionIdPool` of `ri-wrapper/src/lib.rs`.  `acquire` and the drop of a permit each
  hold the lock of the pool from its reading of the clock to its last write, so a run is a
  sequence of the two in the order in which they took it.

  Main results:
    * `exists_probe`: 65536 turns of the counter are every id, from wherever it stands;
    * `probe_eq_none_iff`: when no probe succeeds;
    * `inv_run`: the permits and the drops, as the pool knows them;
    * `transaction_ids_exclusive`: no id is shared, taken early, or held back.
-/
import Mathlib.Data.Finset.Erase
import Mathlib.Data.Finset.Insert
import Mathlib.Logic.Function.Basic
import Mathlib.Tactic.Common
import ResolverIdentity.Library.Machine

namespace ResolverIdentity.Wrapper

open Library

/-! ## §1. The pool. -/

/-- `next` is the atomic counter, `active` and `cooling` are behind the lock; an instant is a
number of nanoseconds. -/
structure TransactionIdPool where
  next : UInt64
  active : Finset UInt16
  cooling : UInt16 → Option Nat
  reuse_delay : Nat

namespace TransactionIdPool

/-- `TransactionIdPool::new`. -/
def new (reuse_delay : Nat) : TransactionIdPool := ⟨0, ∅, fun _ => none, reuse_delay⟩

/-- Whether `acquire` passes over a candidate. -/
def skips (pool : TransactionIdPool) (now : Nat) (candidate : UInt16) : Bool :=
  candidate ∈ pool.active || (pool.cooling candidate).any (fun available_at => now < available_at)

/-- The loop of `acquire`; the first argument counts the probes left.  `fetch_add` wraps, and
the insertion is of an id that was found not to be active. -/
def probe (now : Nat) : Nat → TransactionIdPool → Option UInt16 × TransactionIdPool
  | 0, pool => (none, pool)
  | probes + 1, pool =>
    let candidate := pool.next.toUInt16
    let pool := { pool with next := pool.next + 1 }
    if pool.skips now candidate then probe now probes pool
    else
      (some candidate, { pool with
        cooling := Function.update pool.cooling candidate none
        active := insert candidate pool.active })

/-- `acquire`: `for _ in 0..=u16::MAX`. -/
def acquire (pool : TransactionIdPool) (now : Nat) : Option UInt16 × TransactionIdPool :=
  pool.probe now 65536

/-- The drop of a permit. -/
def drop_permit (pool : TransactionIdPool) (id : UInt16) (now : Nat) : TransactionIdPool :=
  { pool with
    active := pool.active.erase id
    cooling := Function.update pool.cooling id (some (now + pool.reuse_delay)) }

end TransactionIdPool

/-! ## §2. Runs. -/

/-- The two calls of the pool. -/
inductive IdOperation where
  | acquire (now : Nat)
  /-- The drop of the permit at this place of the list of live ones. -/
  | drop (permit now : Nat)

/-- What an operation did to an id, and when. -/
inductive IdEvent where
  | taken (id : UInt16) (now : Nat)
  | exhausted (now : Nat)
  | dropped (id : UInt16) (now : Nat)
  deriving DecidableEq

/-- The pool, the ids of the live permits, the last reading of the clock and what happened. -/
structure Leases where
  pool : TransactionIdPool
  permits : List UInt16
  clock : Nat
  log : List IdEvent

namespace Leases

/-- The clock does not go back, and only a live permit can be dropped. -/
def step (s : Leases) : IdOperation → Option Leases
  | .acquire now =>
    if now < s.clock then none
    else match s.pool.acquire now with
      | (some id, pool) => some ⟨pool, s.permits ++ [id], now, s.log ++ [.taken id now]⟩
      | (none, pool) => some ⟨pool, s.permits, now, s.log ++ [.exhausted now]⟩
  | .drop permit now =>
    if now < s.clock then none
    else match s.permits[permit]? with
      | some id => some ⟨s.pool.drop_permit id now, s.permits.eraseIdx permit, now,
          s.log ++ [.dropped id now]⟩
      | none => none

/-- The calls of a pool, from its creation on. -/
def machine (reuse_delay : Nat) : Machine Leases IdOperation where
  init := ⟨.new reuse_delay, [], 0, []⟩
  step := step

end Leases

/-! ## §3. Probes. -/

namespace TransactionIdPool

variable {now : Nat} {id : UInt16}

/-- The candidate of the `k`-th probe. -/
def candidate (pool : TransactionIdPool) (k : Nat) : UInt16 := (pool.next + UInt64.ofNat k).toUInt16

/-- Each id is the candidate of one probe. -/
theorem exists_probe (pool : TransactionIdPool) (id : UInt16) :
    ∃ k < 65536, pool.candidate k = id := by
  have hnext := pool.next.toNat_lt
  have hid := id.toNat_lt
  refine ⟨(id.toNat + (65536 - pool.next.toNat % 65536)) % 65536, Nat.mod_lt _ (by omega), ?_⟩
  refine UInt16.toNat_inj.mp ?_
  unfold candidate
  simp only [UInt64.toNat_toUInt16, UInt64.toNat_add, UInt64.toNat_ofNat']
  omega

theorem next_succ (next : UInt64) (k : Nat) :
    next + 1 + UInt64.ofNat k = next + UInt64.ofNat (k + 1) := by
  have hsucc : UInt64.ofNat (k + 1) = 1 + UInt64.ofNat k := by
    rw [Nat.add_comm, UInt64.ofNat_add]
    rfl
  rw [hsucc, UInt64.add_assoc]

/-- A failed probe moves the counter on. -/
theorem candidate_next (pool : TransactionIdPool) (k : Nat) :
    TransactionIdPool.candidate { pool with next := pool.next + 1 } k = pool.candidate (k + 1) :=
  congrArg UInt64.toUInt16 (next_succ pool.next k)

theorem candidate_zero (pool : TransactionIdPool) : pool.candidate 0 = pool.next.toUInt16 :=
  congrArg UInt64.toUInt16 (UInt64.add_zero pool.next)

/-- What a candidate that is taken leaves. -/
def take (pool : TransactionIdPool) (id : UInt16) : TransactionIdPool :=
  { pool with
    cooling := Function.update pool.cooling id none
    active := insert id pool.active }

/-- The loop takes the first candidate that it does not pass over; where it passes over all of
them, the counter alone has moved. -/
theorem probe_cases : ∀ (probes : Nat) (pool : TransactionIdPool),
    ((∀ k < probes, pool.skips now (pool.candidate k) = true) ∧
      pool.probe now probes = (none, { pool with next := pool.next + UInt64.ofNat probes })) ∨
    ∃ k < probes, pool.skips now (pool.candidate k) = false ∧
      pool.probe now probes = (some (pool.candidate k),
        TransactionIdPool.take { pool with next := pool.next + UInt64.ofNat (k + 1) }
          (pool.candidate k)) := by
  intro probes
  induction probes with
  | zero =>
    intro pool
    refine Or.inl ⟨fun k hk => absurd hk (Nat.not_lt_zero k), ?_⟩
    show _ = (none, { pool with next := pool.next + 0 })
    rw [UInt64.add_zero]
    rfl
  | succ probes ih =>
    intro pool
    by_cases hskip : pool.skips now pool.next.toUInt16 = true
    · -- the first candidate is skipped, the others are those of the next pool
      have hprobe : pool.probe now (probes + 1) =
          TransactionIdPool.probe now probes { pool with next := pool.next + 1 } := by
        rw [probe]
        exact if_pos hskip
      rw [hprobe]
      rcases ih { pool with next := pool.next + 1 } with ⟨hall, hnone⟩ | ⟨k, hk, hfree, hsome⟩
      · refine Or.inl ⟨?_, ?_⟩
        · intro k hk
          cases k with
          | zero =>
            rw [candidate_zero]
            exact hskip
          | succ k =>
            have hlater := hall k (by omega)
            rw [candidate_next] at hlater
            exact hlater
        · rw [hnone, next_succ]
      · refine Or.inr ⟨k + 1, by omega, ?_, ?_⟩
        · rw [candidate_next] at hfree
          exact hfree
        · rw [hsome, candidate_next, next_succ]
    · refine Or.inr ⟨0, by omega, ?_, ?_⟩
      · rw [candidate_zero]
        exact Bool.eq_false_iff.mpr hskip
      · rw [probe, candidate_zero]
        exact if_neg hskip

/-- `acquire` fails when every id is passed over. -/
theorem acquire_eq_none_iff {pool : TransactionIdPool} :
    (pool.acquire now).1 = none ↔ ∀ id, pool.skips now id = true := by
  unfold acquire
  constructor
  · intro h id
    obtain ⟨k, hk, hid⟩ := pool.exists_probe id
    rcases @probe_cases now 65536 pool with ⟨hall, _⟩ | ⟨k', _, _, hsome⟩
    · rw [← hid]
      exact hall k hk
    · rw [hsome] at h
      cases h
  · intro h
    rcases @probe_cases now 65536 pool with ⟨_, hnone⟩ | ⟨k, _, hfree, _⟩
    · rw [hnone]
    · rw [h] at hfree
      cases hfree

/-- What `acquire` hands out was not passed over; but for the counter, the pool has changed at
that id alone. -/
theorem acquire_eq_some {pool pool' : TransactionIdPool}
    (h : pool.acquire now = (some id, pool')) :
    pool.skips now id = false ∧ ∃ next, pool' = take { pool with next := next } id := by
  unfold acquire at h
  rcases @probe_cases now 65536 pool with ⟨_, hnone⟩ | ⟨k, _, hfree, hsome⟩
  · rw [hnone] at h
    cases (Prod.mk.inj h).1
  · rw [hsome] at h
    obtain ⟨hid, hpool⟩ := Prod.mk.inj h
    rw [← Option.some.inj hid, ← hpool]
    exact ⟨hfree, _, rfl⟩

/-- A failed `acquire` moves the counter only. -/
theorem acquire_none {pool pool' : TransactionIdPool} (h : pool.acquire now = (none, pool')) :
    ∃ next, pool' = { pool with next := next } := by
  unfold acquire at h
  rcases @probe_cases now 65536 pool with ⟨_, hnone⟩ | ⟨k, _, _, hsome⟩
  · rw [hnone] at h
    exact ⟨_, (Prod.mk.inj h).2.symm⟩
  · rw [hsome] at h
    cases (Prod.mk.inj h).1

theorem skips_eq_true_iff {pool : TransactionIdPool} :
    pool.skips now id = true ↔
      id ∈ pool.active ∨ ∃ available_at, pool.cooling id = some available_at ∧
        now < available_at := by
  unfold skips
  rw [Bool.or_eq_true, decide_eq_true_eq, Option.any_eq_true]
  simp only [decide_eq_true_eq]

end TransactionIdPool

/-! ## §4. What the pool knows of its permits. -/

namespace Leases

variable {reuse_delay : Nat}

/-- What the pool has noted of the permits and of the drops; a drop that it no longer knows of
is over. -/
structure Inv (reuse_delay : Nat) (s : Leases) : Prop where
  delay : s.pool.reuse_delay = reuse_delay
  distinct : s.permits.Nodup
  active : ∀ id, id ∈ s.pool.active ↔ id ∈ s.permits
  cooling : ∀ id available_at, s.pool.cooling id = some available_at →
    ∃ dropped, .dropped id dropped ∈ s.log ∧ available_at = dropped + reuse_delay
  dropped : ∀ id dropped, .dropped id dropped ∈ s.log → dropped ≤ s.clock ∧
    (dropped + reuse_delay ≤ s.clock ∨
      ∃ available_at, s.pool.cooling id = some available_at ∧ dropped + reuse_delay ≤ available_at)
  reused : s.log.Pairwise (fun before later => ∀ id dropped taken,
    before = .dropped id dropped → later = .taken id taken → dropped + reuse_delay ≤ taken)

/-- The invariant holds of a new pool. -/
theorem inv_init : Inv reuse_delay (machine reuse_delay).init where
  delay := rfl
  distinct := List.nodup_nil
  active _ := ⟨fun h => absurd h (Finset.notMem_empty _), fun h => nomatch h⟩
  cooling _ _ h := nomatch h
  dropped _ _ h := nomatch h
  reused := List.Pairwise.nil

/-- An id is taken. -/
theorem Inv.take {s : Leases} {now : Nat} {id : UInt16} {pool : TransactionIdPool}
    (h : Inv reuse_delay s) (hnow : s.clock ≤ now)
    (hacquire : s.pool.acquire now = (some id, pool)) :
    Inv reuse_delay ⟨pool, s.permits ++ [id], now, s.log ++ [.taken id now]⟩ := by
  obtain ⟨hfree, next, hpool⟩ := TransactionIdPool.acquire_eq_some hacquire
  have hskips := TransactionIdPool.skips_eq_true_iff.not.mp (Bool.eq_false_iff.mp hfree)
  rw [not_or] at hskips
  obtain ⟨hinactive, hcooled⟩ := hskips
  -- a drop of this id is over: it is in the past, or its entry would have been passed over
  have hover : ∀ dropped, .dropped id dropped ∈ s.log → dropped + reuse_delay ≤ now := by
    intro dropped hmem
    rcases (h.dropped id dropped hmem).2 with hpast | ⟨available_at, hentry, hlate⟩
    · omega
    · by_contra hearly
      exact hcooled ⟨available_at, hentry, by omega⟩
  have hmem_log : ∀ {event : IdEvent}, event ∈ s.log ++ [.taken id now] →
      event ∈ s.log ∨ event = .taken id now := by
    intro event hmem
    rcases List.mem_append.mp hmem with hold | hnew
    · exact Or.inl hold
    · exact Or.inr (List.mem_singleton.mp hnew)
  rw [hpool]
  refine ⟨h.delay, ?_, ?_, ?_, ?_, ?_⟩
  · refine List.nodup_append.mpr ⟨h.distinct, List.nodup_singleton id, ?_⟩
    intro live hlive other hother heq
    rw [List.mem_singleton.mp hother] at heq
    exact hinactive ((h.active id).mpr (heq ▸ hlive))
  · intro other
    show other ∈ insert id s.pool.active ↔ other ∈ s.permits ++ [id]
    rw [Finset.mem_insert, h.active, List.mem_append, List.mem_singleton]
    exact or_comm
  · intro other available_at hentry
    change Function.update s.pool.cooling id none other = some available_at at hentry
    by_cases hsame : other = id
    · rw [hsame, Function.update_self] at hentry
      cases hentry
    · rw [Function.update_of_ne hsame] at hentry
      obtain ⟨dropped, hmem, heq⟩ := h.cooling other available_at hentry
      exact ⟨dropped, List.mem_append_left _ hmem, heq⟩
  · intro other dropped hmem
    rcases hmem_log hmem with hold | hnew
    · have hbefore := h.dropped other dropped hold
      refine ⟨hbefore.1.trans hnow, ?_⟩
      show dropped + reuse_delay ≤ now ∨ ∃ available_at,
        Function.update s.pool.cooling id none other = some available_at ∧ _
      by_cases hsame : other = id
      · exact Or.inl (hover dropped (hsame ▸ hold))
      · rw [Function.update_of_ne hsame]
        exact hbefore.2.imp (fun hpast => hpast.trans hnow) (fun hentry => hentry)
    · cases hnew
  · refine List.pairwise_append.mpr ⟨h.reused, List.pairwise_singleton _ _, ?_⟩
    intro before hbefore later hlater other dropped taken heq heq'
    rw [List.mem_singleton.mp hlater] at heq'
    obtain ⟨hid, htaken⟩ := IdEvent.taken.inj heq'
    rw [← htaken]
    refine hover dropped ?_
    rw [hid, ← heq]
    exact hbefore

/-- No id is left. -/
theorem Inv.exhaust {s : Leases} {now : Nat} {pool : TransactionIdPool} (h : Inv reuse_delay s)
    (hnow : s.clock ≤ now) (hacquire : s.pool.acquire now = (none, pool)) :
    Inv reuse_delay ⟨pool, s.permits, now, s.log ++ [.exhausted now]⟩ := by
  obtain ⟨next, hpool⟩ := TransactionIdPool.acquire_none hacquire
  have hmem_log : ∀ {id : UInt16} {dropped : Nat},
      .dropped id dropped ∈ s.log ++ [IdEvent.exhausted now] → .dropped id dropped ∈ s.log := by
    intro id dropped hmem
    rcases List.mem_append.mp hmem with hold | hnew
    · exact hold
    · cases List.mem_singleton.mp hnew
  rw [hpool]
  refine ⟨h.delay, h.distinct, h.active, ?_, ?_, ?_⟩
  · intro id available_at hentry
    obtain ⟨dropped, hmem, heq⟩ := h.cooling id available_at hentry
    exact ⟨dropped, List.mem_append_left _ hmem, heq⟩
  · intro id dropped hmem
    have hbefore := h.dropped id dropped (hmem_log hmem)
    exact ⟨hbefore.1.trans hnow,
      hbefore.2.imp (fun hpast => hpast.trans hnow) (fun hentry => hentry)⟩
  · refine List.pairwise_append.mpr ⟨h.reused, List.pairwise_singleton _ _, ?_⟩
    intro before _ later hlater id dropped taken _ heq
    rw [List.mem_singleton.mp hlater] at heq
    cases heq

/-- A permit is dropped. -/
theorem Inv.drop {s : Leases} {permit now : Nat} {id : UInt16} (h : Inv reuse_delay s)
    (hnow : s.clock ≤ now) (hpermit : s.permits[permit]? = some id) :
    Inv reuse_delay ⟨s.pool.drop_permit id now, s.permits.eraseIdx permit, now,
      s.log ++ [.dropped id now]⟩ := by
  obtain ⟨hinside, hid⟩ := List.getElem?_eq_some_iff.mp hpermit
  -- the permits are distinct, so erasing by place is erasing the id
  have herase : s.permits.eraseIdx permit = s.permits.erase id := by
    rw [← hid, h.distinct.erase_getElem]
  have hdelay := h.delay
  refine ⟨hdelay, h.distinct.sublist (List.eraseIdx_sublist _ _), ?_, ?_, ?_, ?_⟩
  · intro other
    show other ∈ s.pool.active.erase id ↔ other ∈ s.permits.eraseIdx permit
    rw [herase, Finset.mem_erase, h.distinct.mem_erase_iff, h.active]
  · -- what cools was dropped, this id just now
    intro other available_at hentry
    change Function.update s.pool.cooling id _ other = some available_at at hentry
    by_cases hsame : other = id
    · rw [hsame, Function.update_self, hdelay] at hentry
      refine ⟨now, ?_, (Option.some.inj hentry).symm⟩
      rw [hsame]
      exact List.mem_append_right _ (List.mem_singleton.mpr rfl)
    · rw [Function.update_of_ne hsame] at hentry
      obtain ⟨dropped, hmem, heq⟩ := h.cooling other available_at hentry
      exact ⟨dropped, List.mem_append_left _ hmem, heq⟩
  · intro other dropped hmem
    show dropped ≤ now ∧ (dropped + reuse_delay ≤ now ∨ ∃ available_at,
      Function.update s.pool.cooling id (some (now + s.pool.reuse_delay)) other =
        some available_at ∧ dropped + reuse_delay ≤ available_at)
    have hbefore : dropped ≤ now := by
      rcases List.mem_append.mp hmem with hold | hnew
      · exact (h.dropped other dropped hold).1.trans hnow
      · rw [(IdEvent.dropped.inj (List.mem_singleton.mp hnew)).2]
    refine ⟨hbefore, ?_⟩
    by_cases hsame : other = id
    · -- the entry is that of this drop, which is the last
      refine Or.inr ⟨now + s.pool.reuse_delay, ?_, by omega⟩
      rw [hsame, Function.update_self]
    · -- another id is as it was
      rw [Function.update_of_ne hsame]
      rcases List.mem_append.mp hmem with hold | hnew
      · exact (h.dropped other dropped hold).2.imp (fun hpast => hpast.trans hnow)
          (fun hentry => hentry)
      · exact absurd (IdEvent.dropped.inj (List.mem_singleton.mp hnew)).1 hsame
  · refine List.pairwise_append.mpr ⟨h.reused, List.pairwise_singleton _ _, ?_⟩
    intro before _ later hlater other dropped taken _ heq
    rw [List.mem_singleton.mp hlater] at heq
    cases heq

/-- What an operation can do. -/
theorem step_cases {s s' : Leases} {operation : IdOperation} (h : s.step operation = some s') :
    (∃ now id pool, s.clock ≤ now ∧ s.pool.acquire now = (some id, pool) ∧
      s' = ⟨pool, s.permits ++ [id], now, s.log ++ [.taken id now]⟩) ∨
    (∃ now pool, s.clock ≤ now ∧ s.pool.acquire now = (none, pool) ∧
      s' = ⟨pool, s.permits, now, s.log ++ [.exhausted now]⟩) ∨
    ∃ permit now id, s.clock ≤ now ∧ s.permits[permit]? = some id ∧
      s' = ⟨s.pool.drop_permit id now, s.permits.eraseIdx permit, now,
        s.log ++ [.dropped id now]⟩ := by
  cases operation with
  | acquire now =>
    change (if now < s.clock then none else _) = _ at h
    by_cases hclock : now < s.clock
    · rw [if_pos hclock] at h
      cases h
    · rw [if_neg hclock] at h
      rcases hacquire : s.pool.acquire now with ⟨_ | id, pool⟩
      · rw [hacquire] at h
        exact Or.inr (Or.inl ⟨now, pool, not_lt.mp hclock, hacquire, (Option.some.inj h).symm⟩)
      · rw [hacquire] at h
        exact Or.inl ⟨now, id, pool, not_lt.mp hclock, hacquire, (Option.some.inj h).symm⟩
  | drop permit now =>
    change (if now < s.clock then none else _) = _ at h
    by_cases hclock : now < s.clock
    · rw [if_pos hclock] at h
      cases h
    · rw [if_neg hclock] at h
      cases hpermit : s.permits[permit]? with
      | none =>
        rw [hpermit] at h
        cases h
      | some id =>
        rw [hpermit] at h
        exact Or.inr (Or.inr
          ⟨permit, now, id, not_lt.mp hclock, hpermit, (Option.some.inj h).symm⟩)

/-- Every call keeps it. -/
theorem inv_step {s s' : Leases} {operation : IdOperation} (h : Inv reuse_delay s)
    (hstep : s.step operation = some s') : Inv reuse_delay s' := by
  rcases step_cases hstep with ⟨now, id, pool, hclock, hacquire, heq⟩ |
    ⟨now, pool, hclock, hacquire, heq⟩ | ⟨permit, now, id, hclock, hpermit, heq⟩
  · rw [heq]
    exact h.take hclock hacquire
  · rw [heq]
    exact h.exhaust hclock hacquire
  · rw [heq]
    exact h.drop hclock hpermit

/-- The pool knows its permits and its drops after every run. -/
theorem inv_run {operations : List IdOperation} {s : Leases}
    (h : (machine reuse_delay).run operations = some s) : Inv reuse_delay s :=
  Machine.invariant inv_init (fun _ _ _ hinv hstep => inv_step hinv hstep) h

/-- In every run, live permits have different ids, and an id is taken again only when the
delay has passed since each of its drops.  At any later reading of the clock, an acquisition
fails exactly when every id is live, or was dropped less than the delay ago. -/
theorem transaction_ids_exclusive (reuse_delay : Nat) (operations : List IdOperation) (s : Leases)
    (h : (machine reuse_delay).run operations = some s) :
    s.permits.Nodup ∧
    (∀ (i j : Nat) (id : UInt16) (dropped taken : Nat), i < j →
      s.log[i]? = some (IdEvent.dropped id dropped) →
      s.log[j]? = some (IdEvent.taken id taken) → dropped + reuse_delay ≤ taken) ∧
    ∀ now, s.clock ≤ now → ((s.pool.acquire now).1 = none ↔
      ∀ id, id ∈ s.permits ∨ ∃ dropped, IdEvent.dropped id dropped ∈ s.log ∧
        now < dropped + reuse_delay) := by
  have hinv := inv_run h
  refine ⟨hinv.distinct, ?_, ?_⟩
  · intro i j id dropped taken hij hi hj
    obtain ⟨hinside, hdropped⟩ := List.getElem?_eq_some_iff.mp hi
    obtain ⟨hinside', htaken⟩ := List.getElem?_eq_some_iff.mp hj
    exact List.pairwise_iff_getElem.mp hinv.reused i j hinside hinside' hij id dropped taken
      hdropped htaken
  · intro now hnow
    rw [TransactionIdPool.acquire_eq_none_iff]
    refine forall_congr' ?_
    intro id
    rw [TransactionIdPool.skips_eq_true_iff, hinv.active]
    refine or_congr Iff.rfl ?_
    constructor
    · intro hentry
      obtain ⟨available_at, hentry, hlate⟩ := hentry
      obtain ⟨dropped, hmem, heq⟩ := hinv.cooling id available_at hentry
      exact ⟨dropped, hmem, by omega⟩
    · intro hdropped
      obtain ⟨dropped, hmem, hlate⟩ := hdropped
      rcases (hinv.dropped id dropped hmem).2 with hpast | ⟨available_at, hentry, hlater⟩
      · omega
      · exact ⟨available_at, hentry, by omega⟩

/-- Id 0 is taken and dropped, and id 1 is taken while it cools. -/
theorem cooling_id_passed_over : ∃ s, (machine 5).run [.acquire 0, .drop 0 1, .acquire 2] = some s ∧
    s.log = [.taken 0 0, .dropped 0 1, .taken 1 2] ∧ s.permits.Nodup := by
  have hlog : ((machine 5).run [.acquire 0, .drop 0 1, .acquire 2]).map (·.log) =
      some [.taken 0 0, .dropped 0 1, .taken 1 2] := by decide +kernel
  obtain ⟨s, hs, hevents⟩ := Option.map_eq_some_iff.mp hlog
  exact ⟨s, hs, hevents, (transaction_ids_exclusive 5 _ s hs).1⟩

end Leases

end ResolverIdentity.Wrapper
