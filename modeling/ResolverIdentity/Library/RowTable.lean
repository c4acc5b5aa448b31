/-
  ResolverIdentity.Library.RowTable: a keyed SQL table with implicit row ids.

  A table with a primary key that is not its row id, as SQLite keeps it: every
  row has the key, the remaining columns and a hidden integer `rowid`.  A fresh
  row gets the largest row id in use plus one (so row ids are reused once the
  rows that held the largest ones are gone), an update keeps the row id, and
  `ORDER BY rowid` lists the rows as they were inserted.

  The two facts every statement relies on are fields of the table: rows stand
  in row-id order, and no two rows share a key.  Main results:
    * `find?_eq_some_iff`: a key lookup is membership;
    * `mem_insertNew`, `mem_upsert`, `mem_deleteWhere`: what each statement leaves;
    * `rowid_le_maxRowid`: `MAX(rowid)` bounds every row id in use.
-/
import Mathlib.Data.List.Nodup
import Mathlib.Data.List.MinMax
import Mathlib.Order.Nat

namespace ResolverIdentity.Library

/-- One stored row: its implicit row id, its primary key, its other columns. -/
structure Row (κ ρ : Type) where
  rowid : Nat
  key : κ
  val : ρ
  deriving DecidableEq

/-- A table in row-id order whose keys are pairwise distinct. -/
structure RowTable (κ ρ : Type) where
  rows : List (Row κ ρ)
  ordered : rows.Pairwise (fun a b => a.rowid < b.rowid)
  keyed : (rows.map Row.key).Nodup

namespace RowTable

variable {κ ρ : Type}

/-- A table is its list of rows. -/
theorem ext_rows {t t' : RowTable κ ρ} (h : t.rows = t'.rows) : t = t' := by
  cases t
  cases t'
  cases h
  rfl

/-! ## §1. Statements. -/

/-- The table just after `CREATE TABLE`. -/
def empty : RowTable κ ρ := ⟨[], .nil, .nil⟩

/-- `SELECT COALESCE(MAX(rowid),0)`. -/
def maxRowid (t : RowTable κ ρ) : Nat :=
  (t.rows.map Row.rowid).foldr max 0

theorem rowid_le_maxRowid (t : RowTable κ ρ) {r : Row κ ρ} (hr : r ∈ t.rows) :
    r.rowid ≤ t.maxRowid :=
  List.le_max_of_le (List.mem_map_of_mem hr) le_rfl

theorem maxRowid_le {t : RowTable κ ρ} {n : Nat} (h : ∀ r ∈ t.rows, r.rowid ≤ n) :
    t.maxRowid ≤ n := by
  refine List.max_le_of_forall_le _ n ?_
  intro rowid hmem
  obtain ⟨r, hr, rfl⟩ := List.mem_map.mp hmem
  exact h r hr

/-- `DELETE ... WHERE p`. -/
def deleteWhere (t : RowTable κ ρ) (p : κ → ρ → Bool) : RowTable κ ρ where
  rows := t.rows.filter (fun r => !p r.key r.val)
  ordered := t.ordered.filter _
  keyed := t.keyed.sublist (List.filter_sublist.map _)

/-- `UPDATE ... SET` on every row: keys and row ids stay. -/
def mapVals (t : RowTable κ ρ) (f : κ → ρ → ρ) : RowTable κ ρ where
  rows := t.rows.map (fun r => { r with val := f r.key r.val })
  ordered := by
    rw [List.pairwise_map]
    exact t.ordered
  keyed := by
    rw [List.map_map]
    exact t.keyed

@[simp] theorem rows_empty : (empty : RowTable κ ρ).rows = [] := rfl

theorem row_ext_of_key {t : RowTable κ ρ} {a b : Row κ ρ} (ha : a ∈ t.rows) (hb : b ∈ t.rows)
    (h : a.key = b.key) : a = b :=
  List.inj_on_of_nodup_map t.keyed ha hb h

theorem mem_deleteWhere {t : RowTable κ ρ} {p : κ → ρ → Bool} {r : Row κ ρ} :
    r ∈ (t.deleteWhere p).rows ↔ r ∈ t.rows ∧ p r.key r.val = false := by
  simp [deleteWhere, List.mem_filter]

theorem mem_mapVals {t : RowTable κ ρ} {f : κ → ρ → ρ} {r : Row κ ρ} :
    r ∈ (t.mapVals f).rows ↔ ∃ r₀ ∈ t.rows, r = { r₀ with val := f r₀.key r₀.val } := by
  simp [mapVals, List.mem_map, eq_comm]

section Keyed

variable [DecidableEq κ]

/-- The row stored under a key. -/
def find? (t : RowTable κ ρ) (k : κ) : Option (Row κ ρ) :=
  t.rows.find? (fun r => r.key = k)

/-- The columns stored under a key. -/
def get? (t : RowTable κ ρ) (k : κ) : Option ρ := (t.find? k).map Row.val

theorem key_ne_of_find?_eq_none {t : RowTable κ ρ} {k : κ} (h : t.find? k = none) :
    ∀ r ∈ t.rows, r.key ≠ k := by
  intro r hr
  simpa using List.find?_eq_none.mp h r hr

/-- A row with a key the table does not hold yet, at the next row id. -/
def insertNew (t : RowTable κ ρ) (k : κ) (v : ρ) (h : t.find? k = none) : RowTable κ ρ where
  rows := t.rows ++ [⟨t.maxRowid + 1, k, v⟩]
  ordered := by
    rw [List.pairwise_append]
    refine ⟨t.ordered, by simp, ?_⟩
    intro a ha b hb
    rw [List.mem_singleton.mp hb]
    exact Nat.lt_succ_of_le (t.rowid_le_maxRowid ha)
  keyed := by
    rw [List.map_append, List.nodup_append]
    refine ⟨t.keyed, by simp, ?_⟩
    intro a ha b hb
    obtain ⟨r, hr, rfl⟩ := List.mem_map.mp ha
    rw [List.mem_singleton.mp hb]
    exact key_ne_of_find?_eq_none h r hr

/-- `INSERT`: `none` is the primary-key conflict. -/
def insert? (t : RowTable κ ρ) (k : κ) (v : ρ) : Option (RowTable κ ρ) :=
  if h : t.find? k = none then some (t.insertNew k v h) else none

/-- `UPDATE ... WHERE key = k`. -/
def update (t : RowTable κ ρ) (k : κ) (f : ρ → ρ) : RowTable κ ρ :=
  t.mapVals (fun k' v => if k' = k then f v else v)

/-- `INSERT ... ON CONFLICT(key) DO UPDATE`: a row already there keeps its row id. -/
def upsert (t : RowTable κ ρ) (k : κ) (v : ρ) : RowTable κ ρ :=
  if h : t.find? k = none then t.insertNew k v h else t.update k (fun _ => v)

/-- `DELETE ... WHERE key = k`. -/
def delete (t : RowTable κ ρ) (k : κ) : RowTable κ ρ :=
  t.deleteWhere (fun k' _ => k' = k)

/-! ## §2. Lookups are membership. -/

theorem find?_eq_some_iff {t : RowTable κ ρ} {k : κ} {r : Row κ ρ} :
    t.find? k = some r ↔ r ∈ t.rows ∧ r.key = k := by
  constructor
  · intro h
    exact ⟨List.mem_of_find?_eq_some h, by simpa using List.find?_some h⟩
  · rintro ⟨hr, rfl⟩
    cases hf : t.find? r.key with
    | none => exact absurd rfl (key_ne_of_find?_eq_none hf r hr)
    | some r' =>
      have hk : r'.key = r.key := by simpa using List.find?_some hf
      rw [row_ext_of_key (List.mem_of_find?_eq_some hf) hr hk]

theorem find?_eq_none_iff {t : RowTable κ ρ} {k : κ} :
    t.find? k = none ↔ ∀ r ∈ t.rows, r.key ≠ k := by
  refine ⟨key_ne_of_find?_eq_none, fun h => List.find?_eq_none.mpr ?_⟩
  intro r hr
  simpa using h r hr

theorem get?_eq_some_iff {t : RowTable κ ρ} {k : κ} {v : ρ} :
    t.get? k = some v ↔ ∃ r ∈ t.rows, r.key = k ∧ r.val = v := by
  unfold get?
  rw [Option.map_eq_some_iff]
  constructor
  · rintro ⟨r, hf, hv⟩
    obtain ⟨hr, hk⟩ := find?_eq_some_iff.mp hf
    exact ⟨r, hr, hk, hv⟩
  · rintro ⟨r, hr, hk, hv⟩
    exact ⟨r, find?_eq_some_iff.mpr ⟨hr, hk⟩, hv⟩

theorem get?_eq_none_iff {t : RowTable κ ρ} {k : κ} :
    t.get? k = none ↔ ∀ r ∈ t.rows, r.key ≠ k := by
  unfold get?
  rw [Option.map_eq_none_iff, find?_eq_none_iff]

theorem get?_of_mem {t : RowTable κ ρ} {r : Row κ ρ} (hr : r ∈ t.rows) :
    t.get? r.key = some r.val :=
  get?_eq_some_iff.mpr ⟨r, hr, rfl, rfl⟩

/-! ## §3. What each statement leaves. -/

@[simp] theorem get?_empty (k : κ) : (empty : RowTable κ ρ).get? k = none := rfl

@[simp] theorem mem_insertNew {t : RowTable κ ρ} {k : κ} {v : ρ} {h : t.find? k = none}
    {r : Row κ ρ} :
    r ∈ (t.insertNew k v h).rows ↔ r ∈ t.rows ∨ r = ⟨t.maxRowid + 1, k, v⟩ := by
  simp [insertNew]

theorem mem_delete {t : RowTable κ ρ} {k : κ} {r : Row κ ρ} :
    r ∈ (t.delete k).rows ↔ r ∈ t.rows ∧ r.key ≠ k := by
  simp [delete, mem_deleteWhere]

/-- After an upsert a row is the written one or an old row under another key. -/
theorem mem_upsert {t : RowTable κ ρ} {k : κ} {v : ρ} {r : Row κ ρ}
    (hr : r ∈ (t.upsert k v).rows) :
    (r.key = k ∧ r.val = v) ∨ (r ∈ t.rows ∧ r.key ≠ k) := by
  unfold upsert at hr
  split at hr
  case isTrue h =>
    rcases mem_insertNew.mp hr with hr | rfl
    · exact Or.inr ⟨hr, key_ne_of_find?_eq_none h r hr⟩
    · exact Or.inl ⟨rfl, rfl⟩
  case isFalse h =>
    obtain ⟨r₀, hr₀, rfl⟩ := mem_mapVals.mp hr
    by_cases hk : r₀.key = k
    · exact Or.inl ⟨hk, by simp [hk]⟩
    · right
      have : ({ r₀ with val := if r₀.key = k then v else r₀.val } : Row κ ρ) = r₀ := by
        rw [if_neg hk]
      rw [this]
      exact ⟨hr₀, hk⟩

theorem get?_insertNew (t : RowTable κ ρ) (k k' : κ) (v : ρ) (h : t.find? k = none) :
    (t.insertNew k v h).get? k' = if k' = k then some v else t.get? k' := by
  by_cases hk : k' = k
  · rw [if_pos hk, get?_eq_some_iff]
    exact ⟨⟨t.maxRowid + 1, k, v⟩, by simp, hk.symm, rfl⟩
  · rw [if_neg hk]
    simp only [get?, find?, insertNew, List.find?_append]
    cases hf : t.rows.find? (fun r => r.key = k') with
    | some r => simp
    | none => simp [Ne.symm hk]

theorem get?_mapVals (t : RowTable κ ρ) (f : κ → ρ → ρ) (k : κ) :
    (t.mapVals f).get? k = (t.get? k).map (f k) := by
  cases hg : t.get? k with
  | none =>
    rw [Option.map_none, get?_eq_none_iff]
    intro r hr
    obtain ⟨r₀, hr₀, rfl⟩ := mem_mapVals.mp hr
    exact get?_eq_none_iff.mp hg r₀ hr₀
  | some v =>
    obtain ⟨r, hr, rfl, rfl⟩ := get?_eq_some_iff.mp hg
    rw [Option.map_some, get?_eq_some_iff]
    exact ⟨_, mem_mapVals.mpr ⟨r, hr, rfl⟩, rfl, rfl⟩

theorem get?_update (t : RowTable κ ρ) (k k' : κ) (f : ρ → ρ) :
    (t.update k f).get? k' = if k' = k then (t.get? k').map f else t.get? k' := by
  unfold update
  rw [get?_mapVals]
  by_cases hk : k' = k
  · simp [hk]
  · simp [hk]

@[simp] theorem get?_upsert (t : RowTable κ ρ) (k k' : κ) (v : ρ) :
    (t.upsert k v).get? k' = if k' = k then some v else t.get? k' := by
  unfold upsert
  split
  case isTrue h => exact get?_insertNew t k k' v h
  case isFalse h =>
    rw [get?_update]
    by_cases hk : k' = k
    · subst hk
      obtain ⟨r, hr⟩ := Option.ne_none_iff_exists'.mp h
      simp [get?, hr]
    · simp [hk]

theorem get?_deleteWhere_eq_some {t : RowTable κ ρ} {p : κ → ρ → Bool} {k : κ} {v : ρ} :
    (t.deleteWhere p).get? k = some v ↔ t.get? k = some v ∧ p k v = false := by
  rw [get?_eq_some_iff, get?_eq_some_iff]
  constructor
  · rintro ⟨r, hr, rfl, rfl⟩
    obtain ⟨hr, hp⟩ := mem_deleteWhere.mp hr
    exact ⟨⟨r, hr, rfl, rfl⟩, hp⟩
  · rintro ⟨⟨r, hr, rfl, rfl⟩, hp⟩
    exact ⟨r, mem_deleteWhere.mpr ⟨hr, hp⟩, rfl, rfl⟩

@[simp] theorem get?_delete (t : RowTable κ ρ) (k k' : κ) :
    (t.delete k).get? k' = if k' = k then none else t.get? k' := by
  by_cases hk : k' = k
  · rw [if_pos hk, get?_eq_none_iff]
    intro r hr
    rw [hk]
    exact (mem_delete.mp hr).2
  · rw [if_neg hk]
    cases hg : t.get? k' with
    | none =>
      rw [get?_eq_none_iff] at hg ⊢
      exact fun r hr => hg r (mem_delete.mp hr).1
    | some v => exact get?_deleteWhere_eq_some.mpr ⟨hg, by simpa using hk⟩

/-- An `INSERT` that succeeds appends its row at the next row id. -/
theorem insert?_eq_some {t t' : RowTable κ ρ} {k : κ} {v : ρ} (h : t.insert? k v = some t') :
    t.get? k = none ∧ t'.rows = t.rows ++ [⟨t.maxRowid + 1, k, v⟩] := by
  unfold insert? at h
  split at h
  case isTrue hf =>
    obtain rfl := Option.some.inj h
    exact ⟨by rw [get?, hf]; rfl, rfl⟩
  case isFalse => cases h

theorem get?_of_insert? {t t' : RowTable κ ρ} {k : κ} {v : ρ} (h : t.insert? k v = some t')
    (k' : κ) : t'.get? k' = if k' = k then some v else t.get? k' := by
  unfold insert? at h
  split at h
  case isTrue hf =>
    obtain rfl := Option.some.inj h
    exact get?_insertNew t k k' v hf
  case isFalse => cases h

theorem insert?_isSome_iff {t : RowTable κ ρ} {k : κ} {v : ρ} :
    (t.insert? k v).isSome ↔ t.get? k = none := by
  unfold insert? get?
  split
  case isTrue hf => simp [hf]
  case isFalse hf => simp [hf]

/-- The row count of an `UPDATE ... WHERE key = k`. -/
theorem length_filter_key (t : RowTable κ ρ) (k : κ) :
    (t.rows.filter (fun r => r.key = k)).length = if (t.get? k).isSome then 1 else 0 := by
  have hcount : (t.rows.filter (fun r => r.key = k)).length = (t.rows.map Row.key).count k := by
    rw [← List.countP_eq_length_filter, List.count, List.countP_map]
    rfl
  rw [hcount]
  cases hg : t.get? k with
  | none =>
    rw [get?_eq_none_iff] at hg
    rw [List.count_eq_zero_of_not_mem]
    · rfl
    · intro hk
      obtain ⟨r, hr, hrk⟩ := List.mem_map.mp hk
      exact hg r hr hrk
  | some v =>
    obtain ⟨r, hr, hrk, _⟩ := get?_eq_some_iff.mp hg
    rw [List.count_eq_one_of_mem t.keyed (List.mem_map.mpr ⟨r, hr, hrk⟩)]
    rfl

/-- An update of an absent key changes nothing. -/
theorem update_of_get?_eq_none {t : RowTable κ ρ} {k : κ} (h : t.get? k = none) (f : ρ → ρ) :
    t.update k f = t := by
  have hrows : (t.update k f).rows = t.rows := by
    show t.rows.map _ = t.rows
    calc t.rows.map (fun r => { r with val := if r.key = k then f r.val else r.val })
        = t.rows.map (fun r => r) := by
          refine List.map_congr_left (fun r hr => ?_)
          rw [if_neg (get?_eq_none_iff.mp h r hr)]
      _ = t.rows := List.map_id' _
  exact ext_rows hrows

/-- Nor does one that writes what is there. -/
theorem update_of_fixed {t : RowTable κ ρ} {k : κ} {v : ρ} {f : ρ → ρ} (h : t.get? k = some v)
    (hf : f v = v) : t.update k f = t := by
  have hrows : (t.update k f).rows = t.rows := by
    show t.rows.map _ = t.rows
    calc t.rows.map (fun r => { r with val := if r.key = k then f r.val else r.val })
        = t.rows.map (fun r => r) := by
          refine List.map_congr_left (fun r hr => ?_)
          by_cases hk : r.key = k
          · have hself := get?_of_mem hr
            rw [hk, h] at hself
            rw [if_pos hk, ← Option.some.inj hself, hf, Option.some.inj hself]
          · rw [if_neg hk]
      _ = t.rows := List.map_id' _
  exact ext_rows hrows

/-- A `DELETE` that matches no row changes nothing. -/
theorem deleteWhere_of_none {t : RowTable κ ρ} {p : κ → ρ → Bool}
    (h : ∀ k v, t.get? k = some v → p k v = false) : t.deleteWhere p = t := by
  have hrows : (t.deleteWhere p).rows = t.rows := by
    refine List.filter_eq_self.mpr (fun r hr => ?_)
    rw [h r.key r.val (get?_of_mem hr)]
    rfl
  exact ext_rows hrows

end Keyed

end RowTable

end ResolverIdentity.Library
