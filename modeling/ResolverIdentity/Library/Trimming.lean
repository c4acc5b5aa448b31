/-
  ResolverIdentity.Library.Trimming: lists without their ends.

  Two readers of a text may differ in what they take for white space, and in how often they
  trim it.  One of them takes off the items of a kind at both ends and then those of another
  kind behind, the second one knows more items of the first kind and does all that twice.

  Main results:
    * `trimmed_sublist`: who takes off more keeps less;
    * `trimmed_twice_iff`: both keep the same exactly where the first one leaves nothing that
      the second one would take off.
-/
import Mathlib.Data.List.DropRight
import Mathlib.Data.List.Infix
import Mathlib.Data.List.TakeWhile

namespace ResolverIdentity.Library

/-! ## §1. One end. -/

section Ends

variable {α : Type} {w q d : α → Bool}

/-- A longer list loses no more of the shorter one at its end. -/
theorem rdropWhile_suffix (p : α → Bool) {short long : List α} (h : short <:+ long) :
    short.rdropWhile p <:+ long.rdropWhile p := by
  induction long using List.reverseRecOn generalizing short with
  | nil =>
    rw [List.suffix_nil.mp h]
  | append_singleton long x ih =>
    rcases List.suffix_concat_iff.mp h with rfl | ⟨short', rfl, hshort⟩
    · exact List.nil_suffix
    · by_cases hx : p x = true
      · rw [List.rdropWhile_concat_pos p _ _ hx, List.rdropWhile_concat_pos p _ _ hx]
        exact ih hshort
      · rw [List.rdropWhile_concat_neg p _ _ hx, List.rdropWhile_concat_neg p _ _ hx]
        exact h

variable (hkind : ∀ x, w x = true → q x = true)

include hkind

theorem dropWhile_suffix_dropWhile (l : List α) : l.dropWhile q <:+ l.dropWhile w := by
  induction l with
  | nil => exact List.suffix_rfl
  | cons x l ih =>
    by_cases hw : w x = true
    · rw [List.dropWhile_cons_of_pos (hkind x hw), List.dropWhile_cons_of_pos hw]
      exact ih
    · rw [List.dropWhile_cons_of_neg hw]
      exact List.dropWhile_suffix q

theorem dropWhile_dropWhile_of_kind (l : List α) : (l.dropWhile w).dropWhile q = l.dropWhile q := by
  induction l with
  | nil => rfl
  | cons x l ih =>
    by_cases hw : w x = true
    · rw [List.dropWhile_cons_of_pos hw, List.dropWhile_cons_of_pos (hkind x hw), ih]
    · rw [List.dropWhile_cons_of_neg hw]

theorem rdropWhile_rdropWhile_of_kind (l : List α) :
    (l.rdropWhile w).rdropWhile q = l.rdropWhile q := by
  unfold List.rdropWhile
  rw [List.reverse_reverse, dropWhile_dropWhile_of_kind hkind]

end Ends

/-! ## §2. Both ends. -/

section Trimmed

variable {α : Type} {w q d : α → Bool}

/-- The list without the items of a kind at its ends. -/
def trimmed (p : α → Bool) (l : List α) : List α := (l.dropWhile p).rdropWhile p

/-- Then without those of another kind behind. -/
def trimmed_then (p d : α → Bool) (l : List α) : List α := (trimmed p l).rdropWhile d

/-- What no longer starts with a dropped item does not either when its end is gone. -/
theorem dropWhile_rdropWhile (p : α → Bool) {l : List α} (h : l.dropWhile p = l) :
    (l.rdropWhile p).dropWhile p = l.rdropWhile p := by
  refine List.dropWhile_eq_self_iff.mpr ?_
  intro hpos
  obtain ⟨rest, hrest⟩ := List.rdropWhile_prefix p l
  have hlength : 0 < l.length := by
    rw [← hrest, List.length_append]
    omega
  have hhead : l[0] = (l.rdropWhile p)[0] := by
    apply Option.some.inj
    rw [← List.getElem?_eq_getElem, ← List.getElem?_eq_getElem, ← List.getElem?_append_left hpos,
      hrest]
  rw [← hhead]
  exact List.dropWhile_eq_self_iff.mp h hlength

theorem trimmed_trimmed (p : α → Bool) (l : List α) : trimmed p (trimmed p l) = trimmed p l := by
  unfold trimmed
  rw [dropWhile_rdropWhile p (List.dropWhile_idempotent p l), List.rdropWhile_idempotent]

theorem trimmed_sublist_self (p : α → Bool) (l : List α) : (trimmed p l).Sublist l :=
  (List.rdropWhile_prefix p _).sublist.trans (List.dropWhile_sublist p)

theorem trimmed_then_sublist_trimmed (p d : α → Bool) (l : List α) :
    (trimmed_then p d l).Sublist (trimmed p l) :=
  (List.rdropWhile_prefix d _).sublist

variable (hkind : ∀ x, w x = true → q x = true) (hother : ∀ x, q x = true → d x = false)

include hkind hother

theorem rdropWhile_prefix_rdropWhile (l : List α) :
    (l.rdropWhile q).rdropWhile d <+: (l.rdropWhile w).rdropWhile d := by
  induction l using List.reverseRecOn with
  | nil => exact List.prefix_rfl
  | append_singleton l x ih =>
    by_cases hw : w x = true
    · rw [List.rdropWhile_concat_pos q _ _ (hkind x hw), List.rdropWhile_concat_pos w _ _ hw]
      exact ih
    · rw [List.rdropWhile_concat_neg w _ _ hw]
      by_cases hq : q x = true
      · -- the item that only `q` takes off stops the other kind
        have hd : ¬ d x = true := by
          rw [hother x hq]
          exact Bool.false_ne_true
        rw [List.rdropWhile_concat_neg d _ _ hd]
        exact (List.rdropWhile_prefix d _).trans (List.rdropWhile_prefix q _)
      · rw [List.rdropWhile_concat_neg q _ _ hq]

/-- Who takes off more keeps less. -/
theorem trimmed_sublist (l : List α) : (trimmed_then q d l).Sublist (trimmed_then w d l) := by
  have hfront := rdropWhile_suffix d (rdropWhile_suffix w (dropWhile_suffix_dropWhile hkind l))
  exact (rdropWhile_prefix_rdropWhile hkind hother _).sublist.trans hfront.sublist

/-- What `q` leaves as it is of the shorter list is all it leaves of the longer one. -/
theorem trimmed_then_eq {l : List α}
    (h : trimmed q (trimmed_then w d l) = trimmed_then w d l) :
    trimmed_then q d l = trimmed_then w d l := by
  by_cases hnone : trimmed_then w d l = []
  · have hsub := trimmed_sublist hkind hother l
    rw [hnone] at hsub ⊢
    exact List.sublist_nil.mp hsub
  -- neither end of what is left is of the kind `q`
  have hfront : (trimmed_then w d l).dropWhile q = trimmed_then w d l := by
    refine (List.dropWhile_sublist q).eq_of_length_le ?_
    conv_lhs => rw [← h]
    exact (List.rdropWhile_prefix q _).sublist.length_le
  have hback : (trimmed_then w d l).rdropWhile q = trimmed_then w d l := by
    have hsame := h
    unfold trimmed at hsame
    rw [hfront] at hsame
    exact hsame
  have hhead : (l.dropWhile w).dropWhile q = l.dropWhile w := by
    obtain ⟨dots, hdots⟩ := List.rdropWhile_prefix d (trimmed w l)
    obtain ⟨spaces, hspaces⟩ := List.rdropWhile_prefix w (l.dropWhile w)
    have hwhole : l.dropWhile w = trimmed_then w d l ++ (dots ++ spaces) := by
      rw [← List.append_assoc]
      unfold trimmed_then
      rw [hdots]
      exact hspaces.symm
    obtain ⟨x, rest, hx⟩ := List.exists_cons_of_ne_nil hnone
    rw [hx] at hfront
    rw [hwhole, hx, List.cons_append]
    refine List.dropWhile_cons_of_neg ?_
    intro hq
    rw [List.dropWhile_cons_of_pos hq] at hfront
    have hlength := (List.dropWhile_sublist (l := rest) q).length_le
    rw [hfront, List.length_cons] at hlength
    omega
  have hend : (trimmed w l).rdropWhile q = trimmed w l := by
    refine List.rdropWhile_eq_self_iff.mpr ?_
    intro hne hq
    have hnot : ¬ d ((trimmed w l).getLast hne) = true := by
      rw [hother _ hq]
      exact Bool.false_ne_true
    -- so nothing of the other kind stands behind
    have hsame : trimmed_then w d l = trimmed w l :=
      List.rdropWhile_eq_self_iff.mpr (fun _ => hnot)
    rw [hsame] at hback
    exact List.rdropWhile_eq_self_iff.mp hback hne hq
  have hstrip : trimmed q l = trimmed w l := by
    unfold trimmed
    rw [← dropWhile_dropWhile_of_kind hkind l, hhead, ← rdropWhile_rdropWhile_of_kind hkind]
    exact hend
  unfold trimmed_then
  rw [hstrip]

/-- Taking off more, and twice, comes to the same exactly where nothing more could be taken off
once. -/
theorem trimmed_twice_iff (l : List α) :
    trimmed_then q d (trimmed_then q d l) = trimmed_then w d l ↔
      trimmed q (trimmed_then w d l) = trimmed_then w d l := by
  constructor
  · intro h
    have hsub := trimmed_sublist hkind hother l
    have hself := trimmed_sublist_self q (trimmed_then q d l)
    have hthen := trimmed_then_sublist_trimmed q d (trimmed_then q d l)
    have hlength := hthen.length_le
    rw [h] at hlength
    have hsame : trimmed_then q d l = trimmed_then w d l :=
      hsub.eq_of_length_le (hlength.trans hself.length_le)
    rw [hsame] at hself hlength
    exact hself.eq_of_length_le hlength
  · intro h
    rw [trimmed_then_eq hkind hother h]
    unfold trimmed_then
    rw [show trimmed q ((trimmed w l).rdropWhile d) = (trimmed w l).rdropWhile d from h,
      List.rdropWhile_idempotent]

end Trimmed

end ResolverIdentity.Library
