/-
  ResolverIdentity.Library.Ledger: accepted items and what became of them.

  A ledger lists every item a component ever accepted, in the order of
  acceptance, each with its present fate.  Items are never taken out and an item
  has one fate at a time, so conservation is built into the data: what a
  component must show is that its tables are the items of the right fate.

  Main results:
    * `items_settle`: settling an item moves nothing;
    * `keysWith_settle_of_ne`, `mem_keysWith_settle`: settling one item takes it
      out of every other fate and puts it into its own;
    * `fate_unique`: with distinct keys, no key has two fates.
-/
import Mathlib.Data.List.Nodup

namespace ResolverIdentity.Library

/-- An accepted item with its present fate. -/
structure Entry (α φ : Type) where
  item : α
  fate : φ

namespace Ledger

variable {α κ φ : Type} (key : α → κ)

/-! ## §1. Keys and fates. -/

/-- The accepted items, in order of acceptance. -/
def items (l : List (Entry α φ)) : List α := l.map Entry.item

/-- The keys of all items, in order of acceptance. -/
def keys (l : List (Entry α φ)) : List κ := (items l).map key

/-- The keys of the items with one fate, in order of acceptance. -/
def keysWith [DecidableEq φ] (l : List (Entry α φ)) (f : φ) : List κ :=
  (l.filter (fun x => x.fate = f)).map (fun x => key x.item)

/-- Give the item of one key its new fate. -/
def settle [DecidableEq κ] (l : List (Entry α φ)) (k : κ) (f : φ) : List (Entry α φ) :=
  l.map (fun x => if key x.item = k then { x with fate := f } else x)

/-- A new item at the end. -/
def accept (l : List (Entry α φ)) (a : α) (f : φ) : List (Entry α φ) := l ++ [⟨a, f⟩]

theorem items_accept (l : List (Entry α φ)) (a : α) (f : φ) :
    items (accept l a f) = items l ++ [a] := by
  simp [items, accept]

theorem keysWith_accept [DecidableEq φ] (l : List (Entry α φ)) (a : α) (f g : φ) :
    keysWith key (accept l a f) g = keysWith key l g ++ (if f = g then [key a] else []) := by
  unfold keysWith accept
  rw [List.filter_append, List.map_append]
  by_cases h : f = g
  · simp [h]
  · simp [h]

theorem keysWith_sublist [DecidableEq φ] (l : List (Entry α φ)) (f : φ) :
    (keysWith key l f).Sublist (keys key l) := by
  unfold keys items
  rw [List.map_map]
  exact List.filter_sublist.map _

theorem mem_keysWith [DecidableEq φ] {l : List (Entry α φ)} {f : φ} {k : κ} :
    k ∈ keysWith key l f ↔ ∃ x ∈ l, x.fate = f ∧ key x.item = k := by
  simp [keysWith, List.mem_map, List.mem_filter, and_assoc]

/-- Every item has a fate. -/
theorem mem_keys [DecidableEq φ] {l : List (Entry α φ)} {k : κ} :
    k ∈ keys key l ↔ ∃ f, k ∈ keysWith key l f := by
  unfold keys items
  rw [List.map_map]
  constructor
  · intro h
    obtain ⟨x, hx, hk⟩ := List.mem_map.mp h
    exact ⟨x.fate, (mem_keysWith key).mpr ⟨x, hx, rfl, hk⟩⟩
  · intro h
    obtain ⟨f, hf⟩ := h
    obtain ⟨x, hx, _, hk⟩ := (mem_keysWith key).mp hf
    exact List.mem_map.mpr ⟨x, hx, hk⟩

/-- With distinct keys, no key has two fates. -/
theorem fate_unique [DecidableEq φ] {l : List (Entry α φ)} (hnodup : (keys key l).Nodup)
    {f g : φ} {k : κ} (hf : k ∈ keysWith key l f) (hg : k ∈ keysWith key l g) : f = g := by
  obtain ⟨x, hx, hxf, hxk⟩ := (mem_keysWith key).mp hf
  obtain ⟨y, hy, hyg, hyk⟩ := (mem_keysWith key).mp hg
  rw [keys, items, List.map_map] at hnodup
  have hxy : x = y := List.inj_on_of_nodup_map hnodup hx hy (hxk.trans hyk.symm)
  rw [← hxf, ← hyg, hxy]

/-- With distinct keys, picking the keys of one fate keeps their order. -/
theorem filter_mem_keysWith [DecidableEq φ] [DecidableEq κ] {l : List (Entry α φ)}
    (hnodup : (keys key l).Nodup) (f : φ) :
    (keys key l).filter (fun k => k ∈ keysWith key l f) = keysWith key l f := by
  have hmem : ∀ x ∈ l, (key x.item ∈ keysWith key l f ↔ x.fate = f) := by
    intro x hx
    refine ⟨fun h => ?_, fun h => (mem_keysWith key).mpr ⟨x, hx, h, rfl⟩⟩
    have hx' : key x.item ∈ keysWith key l x.fate := (mem_keysWith key).mpr ⟨x, hx, rfl, rfl⟩
    exact fate_unique key hnodup hx' h
  unfold keys items
  rw [List.map_map, List.filter_map]
  show (l.filter _).map _ = (l.filter _).map _
  congr 1
  refine List.filter_congr (fun x hx => ?_)
  exact decide_eq_decide.mpr (hmem x hx)

/-! ## §2. Settling. -/

section Settle

variable [DecidableEq κ]

theorem items_settle (l : List (Entry α φ)) (k : κ) (f : φ) :
    items (settle key l k f) = items l := by
  unfold items settle
  rw [List.map_map]
  refine List.map_congr_left (fun x _ => ?_)
  by_cases h : key x.item = k
  · simp [h]
  · simp [h]

variable [DecidableEq φ]

/-- The settled item leaves every other fate. -/
theorem keysWith_settle_of_ne {f g : φ} (hfg : f ≠ g) (l : List (Entry α φ)) (k : κ) :
    keysWith key (settle key l k f) g = (keysWith key l g).filter (fun k' => k' ≠ k) := by
  induction l with
  | nil => rfl
  | cons x rest ih =>
    have hrest : ((settle key rest k f).filter (fun x => x.fate = g)).map
        (fun x => key x.item) =
          ((rest.filter (fun x => x.fate = g)).map (fun x => key x.item)).filter
            (fun k' => k' ≠ k) := ih
    unfold keysWith settle at *
    rw [List.map_cons]
    by_cases hk : key x.item = k
    · -- the item itself: it no longer has fate `g`, and its key is filtered out
      rw [if_pos hk, List.filter_cons_of_neg (by simpa using hfg)]
      by_cases hg : x.fate = g
      · rw [List.filter_cons_of_pos (by simpa using hg), List.map_cons,
          List.filter_cons_of_neg (by simpa using hk)]
        exact hrest
      · rw [List.filter_cons_of_neg (by simpa using hg)]
        exact hrest
    · rw [if_neg hk]
      by_cases hg : x.fate = g
      · rw [List.filter_cons_of_pos (by simpa using hg), List.map_cons,
          List.filter_cons_of_pos (by simpa using hg), List.map_cons,
          List.filter_cons_of_pos (by simpa using hk), hrest]
      · rw [List.filter_cons_of_neg (by simpa using hg),
          List.filter_cons_of_neg (by simpa using hg)]
        exact hrest

/-- The settled item enters its own fate. -/
theorem mem_keysWith_settle {l : List (Entry α φ)} {f : φ} {k k' : κ} :
    k' ∈ keysWith key (settle key l k f) f ↔
      k' ∈ keysWith key l f ∨ (k' = k ∧ k ∈ keys key l) := by
  rw [mem_keysWith, mem_keysWith]
  unfold settle keys items
  rw [List.map_map]
  constructor
  · intro h
    obtain ⟨x, hx, hf, hk⟩ := h
    obtain ⟨x₀, hx₀, rfl⟩ := List.mem_map.mp hx
    by_cases h : key x₀.item = k
    · rw [if_pos h] at hk
      exact Or.inr ⟨hk.symm.trans h, List.mem_map.mpr ⟨x₀, hx₀, h⟩⟩
    · rw [if_neg h] at hf hk
      exact Or.inl ⟨x₀, hx₀, hf, hk⟩
  · intro h
    rcases h with ⟨x, hx, hf, hk⟩ | ⟨hk', hk⟩
    · refine ⟨_, List.mem_map.mpr ⟨x, hx, rfl⟩, ?_⟩
      by_cases h : key x.item = k
      · rw [if_pos h]
        exact ⟨rfl, hk⟩
      · rw [if_neg h]
        exact ⟨hf, hk⟩
    · obtain ⟨x, hx, hxk⟩ := List.mem_map.mp hk
      refine ⟨_, List.mem_map.mpr ⟨x, hx, rfl⟩, ?_⟩
      have hkey : key x.item = k := hxk
      rw [if_pos hkey]
      exact ⟨rfl, hkey.trans hk'.symm⟩

end Settle

end Ledger

end ResolverIdentity.Library
