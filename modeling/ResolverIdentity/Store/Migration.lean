/-
  ResolverIdentity.Store.Migration: from version 2 of the database to version 3.

  `migrate_registry_schema` of `ri-store/src/lib.rs`.  The columns are added one statement
  at a time, before the version is looked at; the rows are rewritten in one transaction.
  A row is the list of its columns, and a text that is JSON stands for its value.

  Main results:
    * `rewrite_spec`: what the loop over one table leaves;
    * `migrate_registry_schema_cases`: every row is rewritten, or only columns are added;
    * `references_and_migration`: what reading a reference promises, and the migration.
-/
import ResolverIdentity.Core.RegistryReferences
import ResolverIdentity.Store.Tables

namespace ResolverIdentity.Store

open Library

namespace Migration

/-! ## §1. Tables before their columns are known. -/

/-- What SQLite keeps in a column. -/
inductive Cell where
  | integer (n : Int)
  /-- A text that is not JSON. -/
  | text (s : String)
  /-- The text of a JSON value. -/
  | json (value : Json)

/-- The columns of a row, by name. -/
abbrev Cells := List (String × Cell)

/-- The value of a column. -/
def cell (cells : Cells) (column : String) : Option Cell :=
  (cells.find? (fun entry => entry.1 = column)).map Prod.snd

/-- `UPDATE ... SET` of the columns of one row. -/
def set_cells (values : Cells) (cells : Cells) : Cells :=
  cells.map (fun entry => (entry.1, (cell values entry.1).getD entry.2))

/-- An identity table as an older version may have left it. -/
structure RegistryDatabase where
  /-- The row of `ri_v2_meta` under `schema_version`. -/
  schema_version : Option String
  /-- The columns of `ri_v2_registry_snapshot`. -/
  snapshot_columns : List String
  ri_v2_registry_snapshot : RowTable String Cells
  ri_v2_identities : RowTable String Cells

/-- `row.get::<_, String>`; what is not JSON is kept apart. -/
def read_text (cells : Cells) (column : String) : Except StoreError (Option Json) :=
  match cell cells column with
  | some (.json value) => .ok (some value)
  | some (.text _) => .ok none
  | some (.integer _) => .error (.database "Invalid column type Integer")
  | none => .error (.database ("no such column: " ++ column))

/-- `serde_json::from_str`. -/
def from_str (text : Option Json) : Except StoreError RegistryReferenceV2 := do
  let value ← okOr text (.serialization "expected value")
  (RegistryReferenceV2.from_value value).mapError .serialization

/-- A stored reference, as its readers decode it. -/
def decode (cells : Cells) (column : String) : Except StoreError RegistryReferenceV2 := do
  let text ← read_text cells column
  from_str text

/-! ## §2. The migration. -/

/-- `str::parse::<u64>`. -/
def parse_u64 (text : String) : Option Nat :=
  let digits := match text.toList with
    | '+' :: rest => rest
    | chars => chars
  if digits.isEmpty || !digits.all Char.isDigit then none
  else
    let n := Nat.ofDigitChars 10 digits 0
    if n ≤ U64_MAX then some n else none

/-- The columns an older table lacks. -/
def new_columns : List String := ["adapter_type", "chain_identity", "registry_locator",
  "registry_schema_hash", "finality_type", "state_root", "adapter_metadata_json"]

/-- `ALTER TABLE ... ADD COLUMN column TEXT NOT NULL DEFAULT ''`, unless it is there. -/
def add_column (db : RegistryDatabase) (column : String) : RegistryDatabase :=
  if column ∈ db.snapshot_columns then db
  else { db with
    snapshot_columns := db.snapshot_columns ++ [column]
    ri_v2_registry_snapshot := db.ri_v2_registry_snapshot.mapVals
      (fun _ cells => cells ++ [(column, .text "")]) }

/-- The columns a row of `ri_v2_registry_snapshot` is given. -/
def snapshot_values (reference : RegistryReferenceV2) : Cells := [
  ("snapshot_json", .json reference.to_value),
  ("adapter_type", .text reference.chain_adapter),
  ("chain_identity", .text reference.chain_identity),
  ("registry_locator", .text reference.registry_locator),
  ("registry_schema_hash", .text reference.registry_schema_hash),
  ("finality_type", .text (finality_type_name reference.finality_type)),
  ("state_root", .text reference.state_root),
  ("adapter_metadata_json", .json reference.adapter_metadata.to_value)]

/-- The column a row of `ri_v2_identities` is given. -/
def identity_values (reference : RegistryReferenceV2) : Cells :=
  [("registry_json", .json reference.to_value)]

/-- `SELECT key, column`, in the order of the rows. -/
def stored_texts (table : RowTable String Cells) (column : String) :
    Except StoreError (List (String × Option Json)) :=
  table.rows.mapM (fun row => do
    let text ← read_text row.val column
    .ok (row.key, text))

/-- Each reference that was selected is decoded and written again. -/
def rewrite (values : RegistryReferenceV2 → Cells) :
    List (String × Option Json) → RowTable String Cells → Except StoreError (RowTable String Cells)
  | [], table => .ok table
  | (key, text) :: rest, table => do
    let reference ← from_str text
    rewrite values rest (table.update key (set_cells (values reference)))

/-- The part of the migration that is one transaction. -/
def migrate_body : Body RegistryDatabase StoreError Unit := fun db => do
  let snapshots ← stored_texts db.ri_v2_registry_snapshot "snapshot_json"
  let ri_v2_registry_snapshot ← rewrite snapshot_values snapshots db.ri_v2_registry_snapshot
  let identities ← stored_texts db.ri_v2_identities "registry_json"
  let ri_v2_identities ← rewrite identity_values identities db.ri_v2_identities
  .ok ((), { db with schema_version := some "3", ri_v2_registry_snapshot, ri_v2_identities })

/-- Whether there is anything to migrate. -/
def outdated (db : RegistryDatabase) : Except StoreError Bool := do
  let text ← okOr db.schema_version (.database "Query returned no rows")
  let version ← okOr (parse_u64 text) (.invalidData "database schema version is invalid")
  rejectIf (version > 3) (.invalidData ("database schema version " ++ toString version ++
    " is newer than supported version 3"))
  .ok (version != 3)

/-- `migrate_registry_schema`: the columns first, then that part. -/
def migrate_registry_schema (db : RegistryDatabase) : Except StoreError Unit × RegistryDatabase :=
  let db := new_columns.foldl add_column db
  match outdated db with
  | .error error => (.error error, db)
  | .ok false => (.ok (), db)
  | .ok true => transaction migrate_body db

/-! ## §3. Columns. -/

theorem cell_set_cells (values cells : Cells) (column : String) :
    cell (set_cells values cells) column =
      (cell cells column).map (fun old => (cell values column).getD old) := by
  induction cells with
  | nil => rfl
  | cons entry rest ih =>
    have hcons : ∀ (entry : String × Cell) (rest : Cells),
        cell (entry :: rest) column = if entry.1 = column then some entry.2 else cell rest column := by
      intro entry rest
      unfold cell
      rw [List.find?_cons]
      by_cases hentry : entry.1 = column
      · simp [hentry]
      · simp [hentry]
    have hset : set_cells values (entry :: rest) =
        (entry.1, (cell values entry.1).getD entry.2) :: set_cells values rest := rfl
    rw [hset, hcons, hcons, ih]
    by_cases hentry : entry.1 = column
    · rw [if_pos hentry, if_pos hentry, hentry]
      rfl
    · rw [if_neg hentry, if_neg hentry]

theorem cell_append {cells added : Cells} {column : String} {v : Cell}
    (h : cell cells column = some v) : cell (cells ++ added) column = some v := by
  unfold cell at *
  rw [Option.map_eq_some_iff] at h
  obtain ⟨entry, hfind, hv⟩ := h
  rw [List.find?_append, hfind, Option.some_or, Option.map_some, hv]

/-- A row of the table after its reference was written again. -/
structure Rewritten (column : String) (values : RegistryReferenceV2 → Cells)
    (cells cells' : Cells) : Prop where
  decodes : ∃ reference, decode cells column = .ok reference ∧ decode cells' column = .ok reference
  /-- A column that is not written keeps its value. -/
  kept : ∀ name v, cell cells name = some v → (∀ reference, cell (values reference) name = none) →
    cell cells' name = some v

/-! ## §4. The loops. -/

section Loops

variable {values : RegistryReferenceV2 → Cells} {column : String}

theorem stored_texts_eq_ok {table : RowTable String Cells} {items : List (String × Option Json)}
    (h : stored_texts table column = .ok items) :
    items.map Prod.fst = table.rows.map Row.key ∧
      ∀ row ∈ table.rows, ∃ text, (row.key, text) ∈ items ∧
        read_text row.val column = .ok text := by
  unfold stored_texts at h
  have hall := mapM_eq_ok.mp h
  clear h
  generalize table.rows = rows at hall ⊢
  induction hall with
  | nil => exact ⟨rfl, fun _ hrow => (nomatch hrow)⟩
  | @cons row item rows items hitem hrest ih =>
    obtain ⟨text, htext, heq⟩ := bind_eq_ok.mp hitem
    obtain ⟨hkeys, hrows⟩ := ih
    have hitem_eq := Except.ok.inj heq
    constructor
    · rw [List.map_cons, List.map_cons, hkeys, ← hitem_eq]
    · intro other hother
      rcases List.mem_cons.mp hother with hfirst | hlater
      · rw [hfirst, ← hitem_eq]
        exact ⟨text, List.mem_cons_self, htext⟩
      · obtain ⟨text', hmem, hread⟩ := hrows other hlater
        exact ⟨text', List.mem_cons_of_mem _ hmem, hread⟩

/-- Each row is written once, from the reference its text decodes to. -/
theorem rewrite_spec {items : List (String × Option Json)} :
    ∀ {table table' : RowTable String Cells}, (items.map Prod.fst).Nodup →
      rewrite values items table = .ok table' →
        (∀ key, key ∉ items.map Prod.fst → table'.get? key = table.get? key) ∧
          ∀ key text, (key, text) ∈ items → ∃ reference, from_str text = .ok reference ∧
            table'.get? key = (table.get? key).map (set_cells (values reference)) := by
  induction items with
  | nil =>
    intro table table' _ h
    rw [← Except.ok.inj h]
    exact ⟨fun _ _ => rfl, fun _ _ hmem => (nomatch hmem)⟩
  | cons item rest ih =>
    intro table table' hnodup h
    obtain ⟨reference, hreference, h⟩ := bind_eq_ok.mp h
    rw [List.map_cons, List.nodup_cons] at hnodup
    obtain ⟨hother, hitems⟩ := ih hnodup.2 h
    constructor
    · intro key hkey
      rw [List.map_cons, List.mem_cons, not_or] at hkey
      rw [hother key hkey.2, RowTable.get?_update, if_neg hkey.1]
    · intro key text hmem
      rcases List.mem_cons.mp hmem with heq | hlater
      · -- no later item has the key of this one
        rw [← heq] at hnodup hreference
        refine ⟨reference, hreference, ?_⟩
        rw [hother key hnodup.1, ← heq, RowTable.get?_update, if_pos rfl]
      · have hne : key ≠ item.1 := by
          intro heq
          exact hnodup.1 (heq ▸ List.mem_map_of_mem (f := Prod.fst) hlater)
        obtain ⟨found, hfound, hget⟩ := hitems key text hlater
        refine ⟨found, hfound, ?_⟩
        rw [hget, RowTable.get?_update, if_neg hne]

/-- The rows of a table that was read and rewritten. -/
theorem rewritten_of_loop {table table' : RowTable String Cells}
    {items : List (String × Option Json)} (hitems : stored_texts table column = .ok items)
    (hrewrite : rewrite values items table = .ok table')
    (hvalues : ∀ reference, cell (values reference) column = some (.json reference.to_value)) :
    (∀ key, table'.get? key = none ↔ table.get? key = none) ∧
      ∀ key cells, table.get? key = some cells → ∃ cells', table'.get? key = some cells' ∧
        Rewritten column values cells cells' := by
  obtain ⟨hkeys, hrows⟩ := stored_texts_eq_ok hitems
  obtain ⟨hother, hspec⟩ := rewrite_spec (hkeys ▸ table.keyed) hrewrite
  -- every row was rewritten once, from its own text
  have hfound : ∀ key cells, table.get? key = some cells →
      ∃ cells', table'.get? key = some cells' ∧ Rewritten column values cells cells' := by
    intro key cells hcells
    obtain ⟨row, hrow, hkey, hval⟩ := RowTable.get?_eq_some_iff.mp hcells
    obtain ⟨text, hmem, hread⟩ := hrows row hrow
    rw [hkey] at hmem
    rw [hval] at hread
    obtain ⟨reference, hreference, hget⟩ := hspec key text hmem
    rw [hcells, Option.map_some] at hget
    refine ⟨_, hget, ⟨reference, ?_, ?_⟩, ?_⟩
    · -- the reference read from the old text
      unfold decode
      rw [hread, ok_bind]
      exact hreference
    · -- the value that was written is the reference's own
      obtain ⟨value, hvalue, hfrom⟩ := bind_eq_ok.mp hreference
      have hagain := RegistryReferenceV2.from_value_to_value (mapError_eq_ok.mp hfrom)
      have hold : ∃ old, cell cells column = some old := by
        unfold read_text at hread
        cases hcell : cell cells column with
        | none =>
          rw [hcell] at hread
          cases hread
        | some old => exact ⟨old, rfl⟩
      obtain ⟨old, hold⟩ := hold
      have hcell : cell (set_cells (values reference) cells) column =
          some (.json reference.to_value) := by
        rw [cell_set_cells, hold, hvalues]
        rfl
      unfold decode read_text
      rw [hcell, ok_bind]
      unfold from_str
      rw [okOr, ok_bind, hagain]
      rfl
    · -- the other columns keep their cells
      intro name v hname hkept
      rw [cell_set_cells, hname, hkept]
      rfl
  refine ⟨?_, hfound⟩
  intro key
  constructor
  · intro hnone
    cases hcells : table.get? key with
    | none => rfl
    | some cells =>
      obtain ⟨cells', hget, _⟩ := hfound key cells hcells
      rw [hnone] at hget
      cases hget
  · intro hnone
    rw [hother key, hnone]
    rw [hkeys]
    intro hmem
    obtain ⟨row, hrow, hkey⟩ := List.mem_map.mp hmem
    exact absurd hkey (RowTable.get?_eq_none_iff.mp hnone row hrow)

end Loops

/-! ## §5. Every row or none. -/

/-- What the `ALTER TABLE` statements leave: empty columns at the end of the rows. -/
structure ColumnsAdded (columns : List String) (db db' : RegistryDatabase) : Prop where
  schema_version : db'.schema_version = db.schema_version
  ri_v2_identities : db'.ri_v2_identities = db.ri_v2_identities
  rows : ∃ added : Cells, (∀ entry ∈ added, entry.1 ∈ columns ∧ entry.1 ∉ db.snapshot_columns ∧
      entry.2 = .text "") ∧
    ∀ key, db'.ri_v2_registry_snapshot.get? key =
      (db.ri_v2_registry_snapshot.get? key).map (fun cells => cells ++ added)

theorem columnsAdded_foldl (columns : List String) : ∀ db : RegistryDatabase,
    ColumnsAdded columns db (columns.foldl add_column db) := by
  induction columns with
  | nil =>
    intro db
    refine ⟨rfl, rfl, [], fun _ hentry => (nomatch hentry), ?_⟩
    intro key
    show db.ri_v2_registry_snapshot.get? key = _
    simp
  | cons column rest ih =>
    intro db
    obtain ⟨hversion, hidentities, added, hadded, hrows⟩ := ih (add_column db column)
    rw [List.foldl_cons]
    by_cases hthere : column ∈ db.snapshot_columns
    · have hsame : add_column db column = db := if_pos hthere
      rw [hsame] at hversion hidentities hadded hrows ⊢
      refine ⟨hversion, hidentities, added, ?_, hrows⟩
      intro entry hentry
      obtain ⟨hcolumn, hnew, htext⟩ := hadded entry hentry
      exact ⟨List.mem_cons_of_mem _ hcolumn, hnew, htext⟩
    · have hnext : add_column db column = { db with
          snapshot_columns := db.snapshot_columns ++ [column]
          ri_v2_registry_snapshot := db.ri_v2_registry_snapshot.mapVals
            (fun _ cells => cells ++ [(column, .text "")]) } := if_neg hthere
      rw [hnext] at hversion hidentities hadded hrows ⊢
      refine ⟨hversion, hidentities, (column, .text "") :: added, ?_, ?_⟩
      · intro entry hentry
        rcases List.mem_cons.mp hentry with heq | hlater
        · rw [heq]
          exact ⟨List.mem_cons_self, hthere, rfl⟩
        · obtain ⟨hcolumn, hnew, htext⟩ := hadded entry hlater
          refine ⟨List.mem_cons_of_mem _ hcolumn, ?_, htext⟩
          intro hold
          exact hnew (List.mem_append_left _ hold)
      · intro key
        rw [hrows, RowTable.get?_mapVals, Option.map_map]
        congr 1
        funext cells
        exact List.append_assoc cells [(column, .text "")] added

/-- A column that was there is read as before. -/
theorem cell_of_added {cells added : Cells} {column : String}
    (h : ∀ entry ∈ added, entry.1 ≠ column) : cell (cells ++ added) column = cell cells column := by
  have hnone : added.find? (fun entry => decide (entry.1 = column)) = none := by
    rw [List.find?_eq_none]
    intro entry hentry
    simpa using h entry hentry
  unfold cell
  rw [List.find?_append, hnone, Option.or_none]

/-- Every reference is written again as what it was, and nothing else is changed. -/
structure Migrated (db db' : RegistryDatabase) : Prop where
  schema_version : db'.schema_version = some "3"
  snapshot_keys : ∀ key, db'.ri_v2_registry_snapshot.get? key = none ↔
    db.ri_v2_registry_snapshot.get? key = none
  snapshots : ∀ key cells, db.ri_v2_registry_snapshot.get? key = some cells →
    ∃ cells', db'.ri_v2_registry_snapshot.get? key = some cells' ∧
      Rewritten "snapshot_json" snapshot_values cells cells'
  identity_keys : ∀ key, db'.ri_v2_identities.get? key = none ↔
    db.ri_v2_identities.get? key = none
  identities : ∀ key cells, db.ri_v2_identities.get? key = some cells →
    ∃ cells', db'.ri_v2_identities.get? key = some cells' ∧
      Rewritten "registry_json" identity_values cells cells'

theorem migrated_of_body {db db₁ db' : RegistryDatabase} (hadded : ColumnsAdded new_columns db db₁)
    (h : migrate_body db₁ = .ok ((), db')) : Migrated db db' := by
  obtain ⟨_, hidentities_kept, added, hnew, hrows⟩ := hadded
  unfold migrate_body at h
  obtain ⟨items, hitems, h⟩ := bind_eq_ok.mp h
  obtain ⟨snapshot, hsnapshot, h⟩ := bind_eq_ok.mp h
  obtain ⟨items', hitems', h⟩ := bind_eq_ok.mp h
  obtain ⟨identities, hidentities, h⟩ := bind_eq_ok.mp h
  have hdb' := (Prod.mk.inj (Except.ok.inj h)).2
  obtain ⟨hsnapshot_keys, hsnapshot_rows⟩ := rewritten_of_loop hitems hsnapshot (fun _ => rfl)
  obtain ⟨hidentity_keys, hidentity_rows⟩ := rewritten_of_loop hitems' hidentities (fun _ => rfl)
  have hjson : ∀ entry ∈ added, entry.1 ≠ "snapshot_json" := by
    intro entry hentry heq
    have hcolumn := (hnew entry hentry).1
    rw [heq] at hcolumn
    exact absurd hcolumn (by decide)
  rw [← hdb']
  refine ⟨rfl, ?_, ?_, ?_, ?_⟩
  · intro key
    rw [hsnapshot_keys, hrows, Option.map_eq_none_iff]
  · intro key cells hcells
    obtain ⟨cells', hget, hrewritten⟩ := hsnapshot_rows key (cells ++ added) (by
      rw [hrows, hcells, Option.map_some])
    obtain ⟨⟨reference, hdecode, hdecode'⟩, hkept⟩ := hrewritten
    refine ⟨cells', hget, ⟨reference, ?_, hdecode'⟩, ?_⟩
    · unfold decode read_text at hdecode ⊢
      rw [cell_of_added hjson] at hdecode
      exact hdecode
    · intro name v hname hother
      exact hkept name v (cell_append hname) hother
  · intro key
    rw [hidentity_keys, hidentities_kept]
  · intro key cells hcells
    rw [← hidentities_kept] at hcells
    exact hidentity_rows key cells hcells

/-- An older database is migrated as a whole, or fails with its rows as they were. -/
theorem migrate_registry_schema_cases {db : RegistryDatabase} {text : String} {version : Nat}
    (htext : db.schema_version = some text) (hversion : parse_u64 text = some version)
    (hold : version < 3) :
    (∃ e db₁, migrate_registry_schema db = (.error e, db₁) ∧ ColumnsAdded new_columns db db₁) ∨
      ∃ db', migrate_registry_schema db = (.ok (), db') ∧ Migrated db db' := by
  have hadded := columnsAdded_foldl new_columns db
  have houtdated : outdated (new_columns.foldl add_column db) = .ok true := by
    unfold outdated
    rw [hadded.schema_version, htext]
    have hnewer : decide (version > 3) = false := decide_eq_false (by omega)
    have hdiffers : (version != 3) = true := bne_iff_ne.mpr (by omega)
    simp only [okOr, ok_bind, hversion, hnewer, hdiffers]
    rfl
  unfold migrate_registry_schema
  simp only [houtdated]
  cases hrun : transaction migrate_body (new_columns.foldl add_column db) with
  | mk result db' =>
    cases result with
    | error e =>
      rw [transaction_error hrun]
      exact Or.inl ⟨e, _, rfl, hadded⟩
    | ok _ => exact Or.inr ⟨db', rfl, migrated_of_body hadded (transaction_eq_ok.mp hrun)⟩

/-- **Reading a reference undoes writing it, and a database is migrated as a whole.** -/
theorem references_and_migration :
    (∀ value r, RegistryReferenceV2.from_value value = .ok r →
      RegistryReferenceV2.from_value r.to_value = .ok r ∧ r.Determined) ∧
    (∀ fields r finality_type, RegistryReferenceV2.from_value (.object fields) = .ok r →
      RegistryReferenceV2.Legacy fields → RegistryReferenceV2.EvmFinality finality_type →
      RegistryReferenceV2.from_value
          (.object (RegistryReferenceV2.typed_form fields r.adapter_metadata finality_type)) =
        .ok { r with finality_type := finality_type }) ∧
    (∀ fields, RegistryReferenceV2.Mixed fields →
      ∃ e, RegistryReferenceV2.from_value (.object fields) = .error e) ∧
    ∀ (db : RegistryDatabase) (text : String) (version : Nat), db.schema_version = some text →
      parse_u64 text = some version → version < 3 →
        (∃ e db₁, migrate_registry_schema db = (.error e, db₁) ∧
          ColumnsAdded new_columns db db₁) ∨
        ∃ db', migrate_registry_schema db = (.ok (), db') ∧ Migrated db db' := by
  refine ⟨?_, ?_, ?_, ?_⟩
  · intro value r h
    exact ⟨RegistryReferenceV2.from_value_to_value h,
      RegistryReferenceV2.determined_of_from_value h⟩
  · intro fields r finality_type h hlegacy hfinality
    exact RegistryReferenceV2.from_value_typed h hlegacy hfinality
  · intro fields h
    exact RegistryReferenceV2.mixed_rejected h
  · intro db text version htext hversion hold
    exact migrate_registry_schema_cases htext hversion hold

/-- The members both forms of a reference have. -/
def shared_fields : List (String × Json) := [("checkpoint_height", .nat 10),
  ("checkpoint_hash", .string "0x33"), ("state_root", .string "0x44"),
  ("object_hash", .string "0x55"), ("object_version", .nat 1),
  ("resolver_status", .string "ACTIVE"), ("root_status", .string "ACTIVE"),
  ("endpoint_binding_status", .string "MATCHED"), ("snapshot_generation", .nat 1)]

/-- A reference as an older version wrote it. -/
def legacy_fields : List (String × Json) := [("chain_id", .nat 11155111),
  ("contract_address", .string "0x11"), ("contract_code_hash", .string "0x22")] ++ shared_fields

/-- The reference of `legacy_fields`. -/
def legacy_reference : RegistryReferenceV2 where
  chain_adapter := "evm"
  chain_identity := "eip155:11155111"
  registry_locator := "evm:0x11"
  registry_schema_hash := "0x22"
  adapter_metadata := .evm 11155111 "0x11" "0x22"
  checkpoint_height := 10
  checkpoint_hash := "0x33"
  finality_type := .evmFinalizedOrConfirmations
  state_root := "0x44"
  object_hash := "0x55"
  object_version := 1
  resolver_status := "ACTIVE"
  root_status := "ACTIVE"
  endpoint_binding_status := "MATCHED"
  snapshot_generation := 1

/-- A database of version 2 with one snapshot. -/
def version_two (snapshot_json : Cell) : RegistryDatabase where
  schema_version := some "2"
  snapshot_columns := ["snapshot_key", "snapshot_json"]
  ri_v2_registry_snapshot := ⟨[⟨1, "current", [("snapshot_json", snapshot_json)]⟩],
    List.pairwise_singleton _ _, List.nodup_singleton _⟩
  ri_v2_identities := .empty

theorem legacy_migrated :
    RegistryReferenceV2.from_value legacy_reference.to_value = .ok legacy_reference ∧
      RegistryReferenceV2.from_value (.object (RegistryReferenceV2.typed_form legacy_fields
          legacy_reference.adapter_metadata .evmFinalized)) =
        .ok { legacy_reference with finality_type := .evmFinalized } ∧
      (∃ e, RegistryReferenceV2.from_value (.object
        (("adapter_metadata", legacy_reference.adapter_metadata.to_value) :: legacy_fields)) =
          .error e) ∧
      ∃ db', migrate_registry_schema (version_two (.json (.object legacy_fields))) = (.ok (), db') ∧
        Migrated (version_two (.json (.object legacy_fields))) db' := by
  obtain ⟨hround, htyped, hmixed, hmigrate⟩ := references_and_migration
  have hread : RegistryReferenceV2.from_value (.object legacy_fields) = .ok legacy_reference :=
    toOption_eq_some (by decide +kernel)
  have hlegacy : RegistryReferenceV2.Legacy legacy_fields :=
    ⟨"chain_id", by decide, .nat 11155111, nofun, List.mem_cons_self⟩
  refine ⟨(hround _ _ hread).1, htyped _ _ _ hread hlegacy (Or.inl rfl), ?_, ?_⟩
  · refine hmixed _ (.generations _ (RegistryAdapterMetadataV2.to_value_ne_null _)
      List.mem_cons_self ?_)
    exact ⟨"chain_id", by decide, .nat 11155111, nofun, List.mem_cons_of_mem _ List.mem_cons_self⟩
  · have hok : (migrate_registry_schema (version_two (.json (.object legacy_fields)))).1.toOption =
        some () := by
      decide +kernel
    rcases hmigrate (version_two (.json (.object legacy_fields))) "2" 2 rfl (by decide) (by omega)
      with ⟨e, db₁, herror, _⟩ | hmigrated
    · rw [herror] at hok
      cases hok
    · exact hmigrated

/-- A migration that fails on a stored text leaves the table with the new columns. -/
theorem failed_migration_adds_columns :
    (version_two (.text "broken")).schema_version = some "2" ∧
      (migrate_registry_schema (version_two (.text "broken"))).1.toOption = none ∧
      (version_two (.text "broken")).snapshot_columns = ["snapshot_key", "snapshot_json"] ∧
      (migrate_registry_schema (version_two (.text "broken"))).2.snapshot_columns =
        ["snapshot_key", "snapshot_json"] ++ new_columns :=
  ⟨rfl, by decide +kernel, rfl, by decide +kernel⟩

end Migration

end ResolverIdentity.Store
