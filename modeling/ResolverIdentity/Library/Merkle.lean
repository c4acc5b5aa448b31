/-
  ResolverIdentity.Library.Merkle: trees over lists, an odd last node paired with itself.

  A level of nodes is combined in pairs until one node is left.  The combination is a
  parameter: with the constructor of `Tree` the result says what went into it, and a
  hash of a tree is the result with the hash as the combination (`climb_map`).

  Main results:
    * `getElem?_parents`: what a node of the level above is over;
    * `climb_eq_iterate`: climbing is going up one level some number of times;
    * `parents_injective`: on levels without a repeated node, one level up forgets nothing;
    * `climb_injective`: lists without a repeated item that have one tree are one list.
-/
import Mathlib.Data.List.Nodup
import Mathlib.Logic.Function.Iterate

namespace ResolverIdentity.Library.Merkle

variable {α β : Type}

/-! ## §1. Levels. -/

/-- One level up; an odd last node is paired with itself. -/
def parents (parent : β → β → β) : List β → List β
  | [] => []
  | [a] => [parent a a]
  | a :: b :: rest => parent a b :: parents parent rest

/-- Up while there is more than one node; `fuel` bounds the levels. -/
def climb (parent : β → β → β) : Nat → List β → List β
  | 0, level => level
  | fuel + 1, level =>
    if level.length ≤ 1 then level else climb parent fuel (parents parent level)

theorem parents_length (parent : β → β → β) (level : List β) :
    (parents parent level).length = (level.length + 1) / 2 := by
  induction level using parents.induct with
  | case1 => simp [parents]
  | case2 a => simp [parents]
  | case3 a b rest ih =>
    simp only [parents, List.length_cons, ih]
    omega

/-- A node is over the two nodes below it, or twice over an odd last one. -/
theorem getElem?_parents (parent : β → β → β) (level : List β) : ∀ i : Nat,
    (parents parent level)[i]? =
      (level[2 * i]?).map (fun a => parent a ((level[2 * i + 1]?).getD a)) := by
  induction level using parents.induct with
  | case1 => intro i; rfl
  | case2 a =>
    intro i
    cases i with
    | zero => rfl
    | succ i => rfl
  | case3 a b rest ih =>
    intro i
    cases i with
    | zero => rfl
    | succ i =>
      show (parents parent rest)[i]? = _
      rw [ih, show 2 * (i + 1) = 2 * i + 1 + 1 by omega]
      rfl

/-- As many levels as nodes are enough. -/
theorem climb_length (parent : β → β → β) :
    ∀ (fuel : Nat) (level : List β), level.length ≤ fuel + 1 → 0 < level.length →
      (climb parent fuel level).length = 1 := by
  intro fuel
  induction fuel with
  | zero =>
    intro level hfuel hpos
    show level.length = 1
    omega
  | succ fuel ih =>
    intro level hfuel hpos
    unfold climb
    by_cases hone : level.length ≤ 1
    · rw [if_pos hone]
      omega
    · rw [if_neg hone]
      have hlength := parents_length parent level
      exact ih _ (by omega) (by omega)

theorem climb_eq_iterate (parent : β → β → β) :
    ∀ (fuel : Nat) (level : List β), ∃ k, climb parent fuel level = (parents parent)^[k] level := by
  intro fuel
  induction fuel with
  | zero =>
    intro level
    exact ⟨0, rfl⟩
  | succ fuel ih =>
    intro level
    unfold climb
    by_cases hone : level.length ≤ 1
    · rw [if_pos hone]
      exact ⟨0, rfl⟩
    · rw [if_neg hone]
      obtain ⟨k, hk⟩ := ih (parents parent level)
      exact ⟨k + 1, hk⟩

section Maps

variable {γ : Type} {parent : β → β → β} {parent' : γ → γ → γ} {f : β → γ}

theorem parents_map (h : ∀ a b, f (parent a b) = parent' (f a) (f b)) (level : List β) :
    parents parent' (level.map f) = (parents parent level).map f := by
  induction level using parents.induct with
  | case1 => rfl
  | case2 a => simp only [List.map_cons, List.map_nil, parents, h]
  | case3 a b rest ih => simp only [List.map_cons, parents, h, ih]

/-- A map that carries one combination to the other carries the whole climb. -/
theorem climb_map (h : ∀ a b, f (parent a b) = parent' (f a) (f b)) :
    ∀ (fuel : Nat) (level : List β),
      climb parent' fuel (level.map f) = (climb parent fuel level).map f := by
  intro fuel
  induction fuel with
  | zero =>
    intro level
    rfl
  | succ fuel ih =>
    intro level
    unfold climb
    rw [List.length_map]
    by_cases hone : level.length ≤ 1
    · rw [if_pos hone, if_pos hone]
    · rw [if_neg hone, if_neg hone, parents_map h, ih]

end Maps

/-! ## §2. Trees. -/

/-- What went into a node. -/
inductive Tree (α : Type) where
  | leaf (item : α)
  | node (left right : Tree α)
  deriving DecidableEq

namespace Tree

/-- The depth of the leftmost leaf. -/
def depth : Tree α → Nat
  | leaf _ => 0
  | node left _ => left.depth + 1

/-- The tree with all its parts. -/
def subtrees : Tree α → List (Tree α)
  | leaf item => [leaf item]
  | node left right => node left right :: (left.subtrees ++ right.subtrees)

theorem mem_subtrees_self (t : Tree α) : t ∈ t.subtrees := by
  cases t with
  | leaf item => exact List.mem_singleton_self _
  | node left right => exact List.mem_cons_self

/-- The children of a part are parts. -/
theorem mem_subtrees_of_node {t left right : Tree α} (h : node left right ∈ t.subtrees) :
    left ∈ t.subtrees ∧ right ∈ t.subtrees := by
  induction t with
  | leaf item => cases List.mem_singleton.mp h
  | node l r ihl ihr =>
    have hparts : ∀ {x : Tree α}, x ∈ l.subtrees ∨ x ∈ r.subtrees → x ∈ (node l r).subtrees :=
      fun hx => List.mem_cons_of_mem _ (List.mem_append.mpr hx)
    rcases List.mem_cons.mp h with hself | hpart
    · obtain ⟨hl, hr⟩ := Tree.node.inj hself
      rw [hl, hr]
      exact ⟨hparts (Or.inl (mem_subtrees_self l)), hparts (Or.inr (mem_subtrees_self r))⟩
    · rcases List.mem_append.mp hpart with hl | hr
      · exact ⟨hparts (Or.inl (ihl hl).1), hparts (Or.inl (ihl hl).2)⟩
      · exact ⟨hparts (Or.inr (ihr hr).1), hparts (Or.inr (ihr hr).2)⟩

/-- A value of trees that tells two trees apart by their own combination and the values of
their parts tells them apart altogether. -/
theorem injective_on_subtrees {f : Tree α → β} {t t' : Tree α}
    (hleaf : ∀ a b, leaf a ∈ t.subtrees → leaf b ∈ t'.subtrees → f (leaf a) = f (leaf b) → a = b)
    (hmixed : ∀ a left right, leaf a ∈ t.subtrees → node left right ∈ t'.subtrees →
      f (leaf a) ≠ f (node left right))
    (hmixed' : ∀ a left right, leaf a ∈ t'.subtrees → node left right ∈ t.subtrees →
      f (leaf a) ≠ f (node left right))
    (hnode : ∀ left right left' right', node left right ∈ t.subtrees →
      node left' right' ∈ t'.subtrees → f (node left right) = f (node left' right') →
        f left = f left' ∧ f right = f right')
    (h : f t = f t') : t = t' := by
  induction t generalizing t' with
  | leaf a =>
    cases t' with
    | leaf b => rw [hleaf a b (mem_subtrees_self _) (mem_subtrees_self _) h]
    | node left right => exact absurd h (hmixed a left right (mem_subtrees_self _) (mem_subtrees_self _))
  | node left right ihl ihr =>
    cases t' with
    | leaf b =>
      exact absurd h.symm (hmixed' b left right (mem_subtrees_self _) (mem_subtrees_self _))
    | node left' right' =>
      obtain ⟨hl, hr⟩ := hnode left right left' right' (mem_subtrees_self _) (mem_subtrees_self _) h
      have hin : ∀ {x : Tree α}, x ∈ left.subtrees → x ∈ (node left right).subtrees :=
        fun hx => List.mem_cons_of_mem _ (List.mem_append_left _ hx)
      have hin' : ∀ {x : Tree α}, x ∈ right.subtrees → x ∈ (node left right).subtrees :=
        fun hx => List.mem_cons_of_mem _ (List.mem_append_right _ hx)
      have hout : ∀ {x : Tree α}, x ∈ left'.subtrees → x ∈ (node left' right').subtrees :=
        fun hx => List.mem_cons_of_mem _ (List.mem_append_left _ hx)
      have hout' : ∀ {x : Tree α}, x ∈ right'.subtrees → x ∈ (node left' right').subtrees :=
        fun hx => List.mem_cons_of_mem _ (List.mem_append_right _ hx)
      have hleft : left = left' := by
        refine ihl ?_ ?_ ?_ ?_ hl
        · exact fun a b ha hb => hleaf a b (hin ha) (hout hb)
        · exact fun a l r ha hb => hmixed a l r (hin ha) (hout hb)
        · exact fun a l r ha hb => hmixed' a l r (hout ha) (hin hb)
        · exact fun l r l' r' ha hb => hnode l r l' r' (hin ha) (hout hb)
      have hright : right = right' := by
        refine ihr ?_ ?_ ?_ ?_ hr
        · exact fun a b ha hb => hleaf a b (hin' ha) (hout' hb)
        · exact fun a l r ha hb => hmixed a l r (hin' ha) (hout' hb)
        · exact fun a l r ha hb => hmixed' a l r (hout' ha) (hin' hb)
        · exact fun l r l' r' ha hb => hnode l r l' r' (hin' ha) (hout' hb)
      rw [hleft, hright]

end Tree

open ResolverIdentity.Library.Merkle.Tree

/-- What is left of a list of items. -/
def trees (items : List α) : List (Tree α) := climb node items.length (items.map leaf)

/-! ## §3. Nothing is forgotten. -/

theorem mem_parents_node {level : List (Tree α)} {t : Tree α} (h : t ∈ parents node level) :
    ∃ left ∈ level, ∃ right ∈ level, t = node left right := by
  induction level using parents.induct with
  | case1 => cases h
  | case2 a =>
    exact ⟨a, List.mem_singleton_self a, a, List.mem_singleton_self a, List.mem_singleton.mp h⟩
  | case3 a b rest ih =>
    rcases List.mem_cons.mp h with heq | hrest
    · exact ⟨a, List.mem_cons_self, b, List.mem_cons_of_mem _ List.mem_cons_self, heq⟩
    · obtain ⟨left, hleft, right, hright, heq⟩ := ih hrest
      exact ⟨left, List.mem_cons_of_mem _ (List.mem_cons_of_mem _ hleft),
        right, List.mem_cons_of_mem _ (List.mem_cons_of_mem _ hright), heq⟩

theorem parents_nodup {level : List (Tree α)} (h : level.Nodup) : (parents node level).Nodup := by
  induction level using parents.induct with
  | case1 => exact List.nodup_nil
  | case2 a => exact List.nodup_singleton _
  | case3 a b rest ih =>
    obtain ⟨ha, h⟩ := List.nodup_cons.mp h
    obtain ⟨_, hrest⟩ := List.nodup_cons.mp h
    refine List.nodup_cons.mpr ⟨?_, ih hrest⟩
    intro hmem
    -- the first child of a later parent is a later node
    obtain ⟨left, hleft, right, _, heq⟩ := mem_parents_node hmem
    rw [(Tree.node.inj heq).1] at ha
    exact ha (List.mem_cons_of_mem _ hleft)

/-- A pair of one node twice comes from an odd last node, where no node is repeated. -/
theorem parents_injective {level : List (Tree α)} :
    ∀ {level' : List (Tree α)}, level.Nodup → level'.Nodup →
      parents node level = parents node level' → level = level' := by
  induction level using parents.induct with
  | case1 =>
    intro level' _ _ h
    cases level' with
    | nil => rfl
    | cons c rest => cases rest <;> cases h
  | case2 a =>
    intro level' _ hnodup' h
    match level', h, hnodup' with
    | [c], h, _ =>
      rw [(Tree.node.inj (List.cons.inj h).1).1]
    | c :: d :: rest, h, hnodup' =>
      obtain ⟨hac, had⟩ := Tree.node.inj (List.cons.inj h).1
      rw [← hac, ← had] at hnodup'
      exact absurd List.mem_cons_self (List.nodup_cons.mp hnodup').1
  | case3 a b rest ih =>
    intro level' hnodup hnodup' h
    match level', h, hnodup' with
    | [c], h, _ =>
      obtain ⟨hac, hbc⟩ := Tree.node.inj (List.cons.inj h).1
      rw [hac, hbc] at hnodup
      exact absurd List.mem_cons_self (List.nodup_cons.mp hnodup).1
    | c :: d :: rest', h, hnodup' =>
      obtain ⟨hpair, hrest⟩ := List.cons.inj h
      obtain ⟨hac, hbd⟩ := Tree.node.inj hpair
      have hlater := ih (List.nodup_cons.mp (List.nodup_cons.mp hnodup).2).2
        (List.nodup_cons.mp (List.nodup_cons.mp hnodup').2).2 hrest
      rw [hac, hbd, hlater]

theorem iterate_nodup {level : List (Tree α)} (h : level.Nodup) :
    ∀ k, ((parents node)^[k] level).Nodup := by
  intro k
  induction k with
  | zero => exact h
  | succ k ih =>
    rw [Function.iterate_succ_apply']
    exact parents_nodup ih

theorem iterate_injective {level level' : List (Tree α)} (h : level.Nodup) (h' : level'.Nodup) :
    ∀ k, (parents node)^[k] level = (parents node)^[k] level' → level = level' := by
  intro k
  induction k with
  | zero => exact fun heq => heq
  | succ k ih =>
    intro heq
    rw [Function.iterate_succ_apply', Function.iterate_succ_apply'] at heq
    exact ih (parents_injective (iterate_nodup h k) (iterate_nodup h' k) heq)

/-- How far up a node is shows in its depth. -/
theorem depth_of_iterate {items : List α} :
    ∀ {k : Nat}, ∀ t ∈ (parents node)^[k] (items.map leaf), t.depth = k := by
  intro k
  induction k with
  | zero =>
    intro t ht
    obtain ⟨item, _, heq⟩ := List.mem_map.mp ht
    rw [← heq]
    rfl
  | succ k ih =>
    intro t ht
    rw [Function.iterate_succ_apply'] at ht
    obtain ⟨left, hleft, right, _, heq⟩ := mem_parents_node ht
    rw [heq, ← ih left hleft]
    rfl

/-- The leaves of a tree are items of its list. -/
theorem mem_of_leaf {items : List α} {item : α} :
    ∀ {k : Nat}, ∀ t ∈ (parents node)^[k] (items.map leaf), leaf item ∈ t.subtrees →
      item ∈ items := by
  intro k
  induction k with
  | zero =>
    intro t ht hleaf
    obtain ⟨item', hitem', heq⟩ := List.mem_map.mp ht
    rw [← heq] at hleaf
    rw [Tree.leaf.inj (List.mem_singleton.mp hleaf)]
    exact hitem'
  | succ k ih =>
    intro t ht hleaf
    rw [Function.iterate_succ_apply'] at ht
    obtain ⟨left, hleft, right, hright, heq⟩ := mem_parents_node ht
    rw [heq] at hleaf
    rcases List.mem_cons.mp hleaf with hnode | hparts
    · cases hnode
    · rcases List.mem_append.mp hparts with hl | hr
      · exact ih left hleft hl
      · exact ih right hright hr

theorem mem_of_leaf_trees {items : List α} {item : α} {t : Tree α} (h : trees items = [t])
    (hleaf : leaf item ∈ t.subtrees) : item ∈ items := by
  obtain ⟨k, hk⟩ := climb_eq_iterate node items.length (items.map leaf)
  refine mem_of_leaf (k := k) t ?_ hleaf
  rw [← hk]
  show t ∈ trees items
  rw [h]
  exact List.mem_singleton_self t

/-- A list with an item has one tree. -/
theorem trees_eq_singleton {items : List α} (h : items ≠ []) : ∃ t, trees items = [t] := by
  refine List.length_eq_one_iff.mp (climb_length node _ _ ?_ ?_)
  · rw [List.length_map]
    omega
  · rw [List.length_map]
    exact List.length_pos_iff.mpr h

/-- Lists without a repeated item that have one tree are one list. -/
theorem climb_injective {items items' : List α} {t : Tree α} (hnodup : items.Nodup)
    (hnodup' : items'.Nodup) (h : trees items = [t]) (h' : trees items' = [t]) :
    items = items' := by
  have hleaf : Function.Injective (leaf : α → Tree α) := fun a b hab => Tree.leaf.inj hab
  obtain ⟨k, hk⟩ := climb_eq_iterate node items.length (items.map leaf)
  obtain ⟨k', hk'⟩ := climb_eq_iterate node items'.length (items'.map leaf)
  have ht : [t] = (parents node)^[k] (items.map leaf) := h.symm.trans hk
  have ht' : [t] = (parents node)^[k'] (items'.map leaf) := h'.symm.trans hk'
  -- the depth of the tree tells the number of levels
  have hlevels : k = k' :=
    (depth_of_iterate t (ht ▸ List.mem_singleton_self t)).symm.trans
      (depth_of_iterate t (ht' ▸ List.mem_singleton_self t))
  rw [← hlevels] at ht'
  have hlists := iterate_injective (hnodup.map hleaf) (hnodup'.map hleaf) k (ht.symm.trans ht')
  exact (List.map_injective_iff.mpr hleaf) hlists

end ResolverIdentity.Library.Merkle
