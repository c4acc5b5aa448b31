/-
  ResolverIdentity.Library.Replay: the latest entry of a log.

  A log is replayed forward, each entry that means something replacing what was there; or its
  latest entry is looked for from the end.

  Main results:
    * `replay_eq_latest`: the two find the same;
    * `latest_eq_some_iff`, `latest_sorted_iff`: which entry that is;
    * `latest_flatMap`: a log in parts is searched part by part.
-/
import Mathlib.Data.List.Induction
import Mathlib.Order.Lattice

namespace ResolverIdentity.Library

variable {α β γ : Type}

/-- What is left when each entry with a meaning replaces the one before it. -/
def replay (meaning : α → Option β) (log : List α) : Option β :=
  log.foldl (fun current entry => (meaning entry).or current) none

/-- The first meaning that is met from the end. -/
def latest (meaning : α → Option β) (log : List α) : Option β := log.reverse.findSome? meaning

theorem latest_append (meaning : α → Option β) (log rest : List α) :
    latest meaning (log ++ rest) = (latest meaning rest).or (latest meaning log) := by
  unfold latest
  rw [List.reverse_append, List.findSome?_append]

theorem latest_singleton (meaning : α → Option β) (entry : α) :
    latest meaning [entry] = meaning entry := by
  unfold latest
  rw [List.reverse_singleton, List.findSome?_cons]
  cases meaning entry <;> rfl

theorem replay_eq_latest (meaning : α → Option β) (log : List α) :
    replay meaning log = latest meaning log := by
  induction log using List.reverseRecOn with
  | nil => rfl
  | append_singleton log entry ih =>
    rw [latest_append, latest_singleton, ← ih]
    unfold replay
    rw [List.foldl_append]
    rfl

/-- Of a log in parts, the latest entry of the last part that has one. -/
theorem latest_flatMap (meaning : β → Option γ) (part : α → List β) (parts : List α) :
    latest meaning (parts.flatMap part) = latest (fun a => latest meaning (part a)) parts := by
  induction parts using List.reverseRecOn with
  | nil => rfl
  | append_singleton parts last ih =>
    rw [List.flatMap_append, latest_append, latest_append, latest_singleton, ih,
      List.flatMap_cons, List.flatMap_nil, List.append_nil]

/-- The latest entry with a meaning: no later one has any. -/
theorem latest_eq_some_iff {meaning : α → Option β} {log : List α} {b : β} :
    latest meaning log = some b ↔
      ∃ (i : Nat) (a : α), log[i]? = some a ∧ meaning a = some b ∧
        ∀ (j : Nat) (c : α), i < j → log[j]? = some c → meaning c = none := by
  unfold latest
  rw [List.findSome?_eq_some_iff]
  constructor
  · intro h
    obtain ⟨later, a, before, hlog, ha, hnone⟩ := h
    have hparts : log = before.reverse ++ a :: later.reverse := by
      rw [← List.reverse_reverse log, hlog, List.reverse_append, List.reverse_cons,
        List.append_assoc]
      rfl
    refine ⟨before.reverse.length, a, ?_, ha, ?_⟩
    · rw [hparts, List.getElem?_append_right (Nat.le_refl _), Nat.sub_self]
      rfl
    · intro j c hj hc
      rw [hparts, List.getElem?_append_right (Nat.le_of_lt hj),
        ← Nat.succ_pred_eq_of_pos (Nat.sub_pos_of_lt hj)] at hc
      exact hnone c (List.mem_reverse.mp (List.mem_of_getElem? hc))
  · intro h
    obtain ⟨i, a, hi, ha, hnone⟩ := h
    obtain ⟨hinside, heq⟩ := List.getElem?_eq_some_iff.mp hi
    refine ⟨(log.drop (i + 1)).reverse, a, (log.take i).reverse, ?_, ha, ?_⟩
    · have hparts : log = log.take i ++ a :: log.drop (i + 1) := by
        rw [← heq, ← List.drop_eq_getElem_cons hinside, List.take_append_drop]
      nth_rewrite 1 [hparts]
      rw [List.reverse_append, List.reverse_cons, List.append_assoc]
      rfl
    · intro c hc
      obtain ⟨k, hk⟩ := List.mem_iff_getElem?.mp (List.mem_reverse.mp hc)
      rw [List.getElem?_drop] at hk
      exact hnone (i + 1 + k) c (by omega) hk

theorem latest_eq_none_iff {meaning : α → Option β} {log : List α} :
    latest meaning log = none ↔ ∀ a ∈ log, meaning a = none := by
  unfold latest
  rw [List.findSome?_eq_none_iff]
  simp only [List.mem_reverse]

/-- In a log that is sorted, a later entry is a greater one. -/
theorem latest_sorted_iff [LinearOrder α] {meaning : α → Option β} {log : List α} {b : β}
    (hsorted : log.Pairwise (· < ·)) :
    latest meaning log = some b ↔
      ∃ a ∈ log, meaning a = some b ∧ ∀ c ∈ log, a < c → meaning c = none := by
  have horder : ∀ {i j : Nat} {a c : α}, log[i]? = some a → log[j]? = some c →
      (i < j ↔ a < c) := by
    intro i j a c ha hc
    obtain ⟨hi, hai⟩ := List.getElem?_eq_some_iff.mp ha
    obtain ⟨hj, hcj⟩ := List.getElem?_eq_some_iff.mp hc
    rw [← hai, ← hcj]
    constructor
    · exact List.pairwise_iff_getElem.mp hsorted i j hi hj
    · intro hlt
      rcases Nat.lt_trichotomy i j with hbefore | heq | hafter
      · exact hbefore
      · subst heq
        exact absurd hlt (lt_irrefl _)
      · have hback := List.pairwise_iff_getElem.mp hsorted j i hj hi hafter
        exact absurd (lt_trans hlt hback) (lt_irrefl _)
  rw [latest_eq_some_iff]
  constructor
  · intro h
    obtain ⟨i, a, ha, hb, hnone⟩ := h
    refine ⟨a, List.mem_of_getElem? ha, hb, ?_⟩
    intro c hmem hlt
    obtain ⟨j, hj⟩ := List.mem_iff_getElem?.mp hmem
    exact hnone j c ((horder ha hj).mpr hlt) hj
  · intro h
    obtain ⟨a, hmem, hb, hnone⟩ := h
    obtain ⟨i, hi⟩ := List.mem_iff_getElem?.mp hmem
    refine ⟨i, a, hi, hb, ?_⟩
    intro j c hlt hj
    exact hnone c (List.mem_of_getElem? hj) ((horder hi hj).mp hlt)

end ResolverIdentity.Library
