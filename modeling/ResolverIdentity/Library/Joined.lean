/-
  ResolverIdentity.Library.Joined: lists joined at a separator.

  A separator that also stands inside the parts makes different lists join to the same
  whole.  The whole determines the pieces between the separators; the list it was joined
  from is determined by them and by how many separators each part holds.

  Main results:
    * `joined_eq_iff`: wholes agree exactly if their pieces do;
    * `eq_of_pieces_of_cuts`: the pieces and the cuts determine the parts.
-/
import Mathlib.Data.List.Basic

namespace ResolverIdentity.Library

section Joined

variable {α : Type} (c : α)

/-- The parts with the separator between them. -/
def joined (parts : List (List α)) : List α := [c].intercalate parts

variable [DecidableEq α]

/-- What stands between the separators, over all parts. -/
def pieces (parts : List (List α)) : List (List α) := parts.flatMap (fun part => part.splitOn c)

/-- How many separators each part holds. -/
def cuts (parts : List (List α)) : List Nat := parts.map (fun part => part.count c)

theorem splitOn_joined {parts : List (List α)} (h : parts ≠ []) :
    (joined c parts).splitOn c = pieces c parts := by
  unfold joined pieces
  induction parts with
  | nil => exact absurd rfl h
  | cons part rest ih =>
    by_cases hrest : rest = []
    · rw [hrest, List.intercalate_singleton, List.flatMap_singleton]
    · rw [List.intercalate_cons_of_ne_nil hrest, List.append_assoc, List.singleton_append,
        List.splitOn_append_cons_self, ih hrest, List.flatMap_cons]

theorem joined_eq_iff {parts parts' : List (List α)} (h : parts ≠ []) (h' : parts' ≠ []) :
    joined c parts = joined c parts' ↔ pieces c parts = pieces c parts' := by
  rw [← splitOn_joined c h, ← splitOn_joined c h']
  constructor
  · intro heq
    rw [heq]
  · intro heq
    have hjoin := congrArg (List.intercalate [c]) heq
    rwa [List.intercalate_splitOn, List.intercalate_splitOn] at hjoin

theorem length_splitOn (part : List α) : (part.splitOn c).length = part.count c + 1 := by
  induction part with
  | nil => rfl
  | cons x rest ih =>
    rw [List.splitOn_cons_eq_if_modifyHead, List.count_cons]
    by_cases hx : (x == c) = true
    · rw [if_pos hx, if_pos hx, List.length_cons, ih]
    · rw [if_neg hx, if_neg hx, List.length_modifyHead, ih]

/-- The pieces and the cuts determine the parts. -/
theorem eq_of_pieces_of_cuts {parts parts' : List (List α)} (hpieces : pieces c parts = pieces c parts')
    (hcuts : cuts c parts = cuts c parts') : parts = parts' := by
  have hlengths : ∀ parts : List (List α),
      (parts.map (fun part => part.splitOn c)).map List.length = (cuts c parts).map (· + 1) := by
    intro parts
    unfold cuts
    rw [List.map_map, List.map_map]
    exact List.map_congr_left (fun part _ => length_splitOn c part)
  have hsplit : parts.map (fun part => part.splitOn c) = parts'.map (fun part => part.splitOn c) := by
    refine List.eq_iff_flatten_eq.mpr ⟨?_, ?_⟩
    · unfold pieces at hpieces
      rwa [List.flatMap_def, List.flatMap_def] at hpieces
    · rw [hlengths, hlengths, hcuts]
  have hjoin := congrArg (List.map (List.intercalate [c])) hsplit
  simpa only [List.map_map, Function.comp_def, List.intercalate_splitOn, List.map_id'] using hjoin

end Joined

end ResolverIdentity.Library
