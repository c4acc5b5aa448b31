/-
  ResolverIdentity.V1.TrustedCache: the cache of verified endpoints.

  `verifier/cache_manager.py`, the `TrustedCacheRepository` of `db/repositories.py` and
  the part of `verifier/resolver_verifier.py` around them.  Each method is a program whose
  operations are the single reads and writes of the database, which is shared, and the
  uses of the manager's own dictionary.  What `_verify_cold` finds before it stores, and
  what the registry answers, comes from outside.  The audit log is left out.

  Main results:
    * `judge_eq_ok`: a row is expired or trusted only if it was trusted before;
    * `Careful.settle`: between two accesses of the database nothing is asked of it;
    * `get_valid_careful`, `verify_endpoint_careful`: a trusted status is only written back
      to a row that had one, or to one from the manager's memory.
-/
import ResolverIdentity.Library.Program
import ResolverIdentity.Library.RowTable
import ResolverIdentity.Publisher.Dictionaries
import ResolverIdentity.Publisher.Endpoints

namespace ResolverIdentity.V1.Cache

open Library Publisher

/-! ## §1. Rows. -/

/-- The columns of `trusted_cache` beside its primary key. -/
structure CacheColumns where
  endpoint_lookup_key : String
  resolver_id : String
  endpoint : Json
  object_hash : String
  object_version : Int
  state_root : String
  status : String
  verified_at : String
  soft_expire_at : String
  hard_expire_at : String
  evidence : List (String × Json)

instance : Inhabited CacheColumns := ⟨⟨"", "", .null, "", 0, "", "", "", "", "", []⟩⟩

/-- A row as the repository hands it out. -/
structure CacheRow extends CacheColumns where
  cache_key : String
  deriving Inhabited

/-- `(row.get("evidence") or {}).get(name)`, a text or nothing. -/
def CacheColumns.evidence_text (row : CacheColumns) (name : String) : Option String :=
  match (Json.object row.evidence).get name with
  | some (.string text) => some text
  | _ => none

/-- The statuses a row is trusted with. -/
def Trusted (status : String) : Prop := status = "VERIFIED" ∨ status = "REFRESHING"

/-- The statuses an invalidation sets. -/
def Withdrawn (status : String) : Prop := status = "REVOKED" ∨ status = "EXPIRED"

instance (status : String) : Decidable (Trusted status) := inferInstanceAs (Decidable (_ ∨ _))

instance (status : String) : Decidable (Withdrawn status) := inferInstanceAs (Decidable (_ ∨ _))

theorem not_trusted_of_withdrawn {status : String} (h : Withdrawn status) : ¬ Trusted status := by
  rcases h with rfl | rfl
  · decide
  · decide

/-- The outcome a wrapper hands on. -/
structure VerificationResult where
  accepted : Bool
  status : String
  resolver_id : Option String
  reasons : List String
  evidence : List (String × Json)

namespace VerificationResult

/-- `VerificationResult.accept`. -/
def accept (resolver_id status : String) (evidence : List (String × Json)) :
    VerificationResult :=
  ⟨true, status, some resolver_id, [], evidence⟩

/-- `VerificationResult.reject`. -/
def reject (reason : String) (resolver_id : Option String) (evidence : List (String × Json)) :
    VerificationResult :=
  ⟨false, "REJECTED", resolver_id, [reason], evidence⟩

end VerificationResult

/-! ## §2. Keys and checks. -/

/-- The text of a field of a normalized endpoint, `value or ""`. -/
def text_of : Json → String
  | .string s => s
  | _ => ""

/-- `str(port or "")`. -/
def port_text : Json → String
  | .number n => if n = 0 then "" else toString n
  | _ => ""

section Checks

variable (P : Platform)

/-- The key of an entry. -/
def trusted_cache_key (endpoint : ResolverEndpoint) (resolver_id : String)
    (object_version : Int) : Except String String := do
  let endpoint ← endpoint.normalized P
  .ok (P.sha256_hex (as_bytes ("|".intercalate ["trusted-cache-v1", resolver_id,
    text_of endpoint.ip, port_text endpoint.port, endpoint.transport,
    text_of endpoint.server_name, text_of endpoint.uri, toString object_version])))

/-- `datetime.fromisoformat`, a naive time read as UTC, in microseconds. -/
abbrev IsoReader := String → Option Int

variable (fromisoformat : IsoReader)

/-- A time, in seconds. -/
def parse_rfc3339 (value : String) : Except String Int :=
  let value := if value.toList.getLast? = some 'Z' then
    String.ofList value.toList.dropLast ++ "+00:00" else value
  okOr (fromisoformat value) "ValueError: Invalid isoformat string"

/-- What `get_valid` does with the row it found. -/
inductive Judgement where
  | answer (result : Option VerificationResult)
  | expire
  | trust (effective_status : String)

/-- The checks of `get_valid` on a row, after its second look at the generation. -/
def judge (row : CacheRow) (observed : ResolverEndpoint) (now : Int) : Except String Judgement :=
  let rejected (reason : String) : Except String Judgement :=
    .ok (.answer (some (.reject reason (some row.resolver_id) [])))
  if row.status = "REVOKED" then rejected "cache_revoked"
  else if ¬ Trusted row.status then .ok (.answer none)
  else do
    let hard ← parse_rfc3339 fromisoformat row.hard_expire_at
    if hard ≤ now then .ok .expire
    else do
      let cached_endpoint ← from_dict P row.endpoint
      let matched ← endpoint_matches P cached_endpoint observed
      if !matched then rejected "cache_endpoint_mismatch"
      else do
        let expected_binding_key ←
          trusted_cache_key P cached_endpoint row.resolver_id row.object_version
        if row.cache_key ≠ expected_binding_key then rejected "cache_binding_mismatch"
        else do
          let soft ← parse_rfc3339 fromisoformat row.soft_expire_at
          .ok (.trust (if soft ≤ now then "REFRESHING" else "VERIFIED"))

end Checks

/-! ## §3. The operations of a call. -/

/-- `ResolverAnchor`, as `refresh_registry_state` looks at it. -/
structure RegistryAnchor where
  status : String
  object_version : Int
  object_hash : String
  state_root : String

/-- What `_verify_cold` hands to `store_verified`. -/
structure Verified where
  resolver_id : String
  object_hash : String
  object_version : Int
  state_root : String
  soft_expire_at : String
  hard_expire_at : String
  evidence : List (String × Json)

/-- A single read or write of the database; the last four ask the registry and the indexer. -/
inductive Access where
  | current_generation
  | bump_generation
  | get_by_endpoint_lookup_key (endpoint_lookup_key : String)
  | list
  /-- One transaction. -/
  | put_if_generation (row : CacheRow) (expected_generation : Nat)
  | update_status (cache_key status : String)
  | mark_status_by_resolver (resolver_id status : String)
  | mark_status_by_root (state_root status : String)
  | mark_stale_versions (resolver_id : String) (object_version : Int)
  | get_endpoint_binding (endpoint_key : String)
  | get_anchor (resolver_id_key : String)
  | get_root_status (state_root : String)
  /-- `_verify_cold` up to `store_verified`, its rejection or what it found. -/
  | verify_cold (endpoint_key : String)

/-- What the database answers. -/
def Access.Answer : Access → Type
  | .current_generation => Nat
  | .bump_generation => Unit
  | .get_by_endpoint_lookup_key _ => Option CacheRow
  | .list => List CacheRow
  | .put_if_generation _ _ => Bool
  | .update_status _ _ => Unit
  | .mark_status_by_resolver _ _ => Unit
  | .mark_status_by_root _ _ => Unit
  | .mark_stale_versions _ _ => Unit
  | .get_endpoint_binding _ => Option String
  | .get_anchor _ => Option RegistryAnchor
  | .get_root_status _ => Option String
  | .verify_cold _ => Except VerificationResult Verified

/-- A dictionary a call holds: one of its own, or an object of `memory` that others share. -/
inductive RowObject where
  | fresh (row : CacheRow)
  | held (object : Nat)

/-- A use of the manager's `memory`. -/
inductive MemoryUse where
  | get (endpoint_key : String)
  | read (object : Nat)
  /-- `row["status"] = status` -/
  | assign_status (object : Nat) (status : String)
  /-- `self.memory[endpoint_key] = row` -/
  | assign (endpoint_key : String) (row : RowObject)
  | pop (endpoint_key : String)
  | clear
  /-- The loop over `self.memory.items()` that assigns a status. -/
  | assign_statuses (affected : CacheRow → Bool) (status : String)

/-- What the dictionary answers. -/
def MemoryUse.Answer : MemoryUse → Type
  | .get _ => Option Nat
  | .read _ => CacheRow
  | .assign_status _ _ => Unit
  | .assign _ _ => Unit
  | .pop _ => Unit
  | .clear => Unit
  | .assign_statuses _ _ => Unit

/-- What the refresh asks of the database and the verifier. -/
inductive CacheOp where
  | database (access : Access)
  | memory (use : MemoryUse)
  /-- `store_verified` is called for a row; not an operation of the source. -/
  | called (cache_key : String)

/-- What each operation answers. -/
def CacheOp.Answer : CacheOp → Type
  | .database access => access.Answer
  | .memory use => use.Answer
  | .called _ => Unit

/-- A program of the cache manager. -/
abbrev CacheProg (α : Type) := Prog CacheOp CacheOp.Answer String α

/-- One access to the database. -/
def query (access : Access) : CacheProg access.Answer :=
  Prog.perform (CacheOp.database access)

/-- One use of the dictionary. -/
def use_memory (use : MemoryUse) : CacheProg use.Answer :=
  Prog.perform (CacheOp.memory use)

/-- Read the dictionary a variable stands for. -/
def read_object : RowObject → CacheProg CacheRow
  | .fresh row => .ret row
  | .held object => use_memory (.read object)

/-- `row["status"] = status` -/
def assign_status (status : String) : RowObject → CacheProg RowObject
  | .fresh row => .ret (.fresh { row with status })
  | .held object => do
    use_memory (.assign_status object status)
    .ret (.held object)

/-! ## §4. The cache manager. -/

/-- It reads the generation back once it is written. -/
def bump_generation : CacheProg Unit := do
  query .bump_generation
  let _ ← query .current_generation
  .ret ()

/-- An entry gets a status. -/
def invalidate_cache_key (cache_key status : String) : CacheProg Unit := do
  bump_generation
  use_memory (.assign_statuses (fun row => row.cache_key = cache_key) status)
  query (.update_status cache_key status)

/-- `invalidate_cache_key` for the rows of a list that are affected, one after the other. -/
def invalidate_each (affected : CacheRow → Bool) (status : String) :
    List CacheRow → CacheProg Unit
  | [] => .ret ()
  | row :: rest =>
    if affected row then do
      invalidate_cache_key row.cache_key status
      invalidate_each affected status rest
    else invalidate_each affected status rest

/-- The row of an endpoint, the manager's own before the database's. -/
def known_row (endpoint_key : String) : CacheProg (Option CacheRow) := do
  match ← use_memory (.get endpoint_key) with
  | some object => do
    let row ← use_memory (.read object)
    .ret (some row)
  | none => query (.get_by_endpoint_lookup_key endpoint_key)

/-- The entry of an endpoint gets a status. -/
def invalidate_endpoint_key (endpoint_key status : String) : CacheProg Unit := do
  match ← known_row endpoint_key with
  | some row => do
    invalidate_cache_key row.cache_key status
    use_memory (.pop endpoint_key)
  | none => use_memory (.pop endpoint_key)

/-- All entries of a resolver get a status. -/
def invalidate_resolver (resolver_id status : String) : CacheProg Unit := do
  bump_generation
  use_memory (.assign_statuses (fun row => row.resolver_id = resolver_id) status)
  query (.mark_status_by_resolver resolver_id status)

/-- All entries of a resolver, by its key in the Registry. -/
def invalidate_resolver_key (resolver_id_key status : String) : CacheProg Unit := do
  let affected (row : CacheRow) : Bool :=
    row.evidence_text "resolver_id_key" = some resolver_id_key
  bump_generation
  use_memory (.assign_statuses affected status)
  let rows ← query .list
  invalidate_each affected status rows

/-- The entries of one version, by that key. -/
def invalidate_object_version_by_resolver_key (resolver_id_key : String)
    (object_version : Int) : CacheProg Unit := do
  let affected (row : CacheRow) : Bool :=
    row.evidence_text "resolver_id_key" = some resolver_id_key ∧
      row.object_version ≠ object_version
  bump_generation
  use_memory (.assign_statuses affected "EXPIRED")
  let rows ← query .list
  invalidate_each affected "EXPIRED" rows

/-- All entries under a root. -/
def invalidate_root (state_root status : String) : CacheProg Unit := do
  bump_generation
  use_memory (.assign_statuses (fun row => row.state_root = state_root) status)
  query (.mark_status_by_root state_root status)

/-- The entries of one version. -/
def invalidate_object_version (resolver_id : String) (object_version : Int) :
    CacheProg Unit := do
  bump_generation
  use_memory (.assign_statuses
    (fun row => row.resolver_id = resolver_id ∧ row.object_version ≠ object_version) "EXPIRED")
  query (.mark_stale_versions resolver_id object_version)

/-- All entries, and how many there were. -/
def expire_all (status : String) : CacheProg Nat := do
  let rows ← query .list
  invalidate_each (fun _ => true) status rows
  use_memory .clear
  .ret rows.length

/-- What a refresh reports. -/
structure RefreshCounts where
  checked : Nat
  expired : Nat
  revoked : Nat

/-- What the registry says of a row that is cached. -/
inductive Standing where
  | unchecked
  | revoked
  | changed
  | current

/-- The three answers of the registry against a row. -/
def registry_standing (row : CacheRow) (resolver_id_key : String) (bound : Option String)
    (anchor : Option RegistryAnchor) (root_status : Option String) : Standing :=
  if root_status = some "REVOKED" then .revoked
  else match anchor with
    | none => .changed
    | some anchor =>
      if anchor.status = "REVOKED" then .revoked
      else if bound ≠ some resolver_id_key ∨ anchor.object_version ≠ row.object_version ∨
          anchor.object_hash ≠ row.object_hash ∨ anchor.state_root ≠ row.state_root then .changed
      else .current

/-- The endpoint key and the resolver key of a row, if it has both. -/
def registry_keys (row : CacheRow) : Option (String × String) :=
  let endpoint_key := if row.endpoint_lookup_key ≠ "" then row.endpoint_lookup_key
    else (row.evidence_text "endpoint_key").getD ""
  let resolver_id_key := (row.evidence_text "resolver_id_key").getD ""
  if endpoint_key = "" ∨ resolver_id_key = "" then none else some (endpoint_key, resolver_id_key)

/-- Ask the registry about a row. -/
def ask_registry (row : CacheRow) : CacheProg Standing :=
  match registry_keys row with
  | none => .ret .unchecked
  | some (endpoint_key, resolver_id_key) => do
    let bound ← query (.get_endpoint_binding endpoint_key)
    let anchor ← query (.get_anchor resolver_id_key)
    let root_status ← query (.get_root_status row.state_root)
    .ret (registry_standing row resolver_id_key bound anchor root_status)

/-- The loop of `refresh_registry_state`. -/
def refresh_rows : List CacheRow → RefreshCounts → CacheProg RefreshCounts
  | [], counts => .ret counts
  | row :: rest, counts => do
    let counts := { counts with checked := counts.checked + 1 }
    match ← ask_registry row with
    | .revoked => do
      invalidate_cache_key row.cache_key "REVOKED"
      refresh_rows rest { counts with revoked := counts.revoked + 1 }
    | .changed => do
      invalidate_cache_key row.cache_key "EXPIRED"
      refresh_rows rest { counts with expired := counts.expired + 1 }
    | .unchecked => refresh_rows rest counts
    | .current => refresh_rows rest counts

/-- Every row is compared with the registry. -/
def refresh_registry_state : CacheProg RefreshCounts := do
  let rows ← query .list
  refresh_rows rows ⟨0, 0, 0⟩

section Manager

variable (P : Platform) (fromisoformat : IsoReader) (generation_owner : String)

/-- The evidence of a hit. -/
def hit_evidence (row : CacheRow) (effective_status : String) (generation : Nat) :
    List (String × Json) :=
  [("cache", .string (if effective_status = "VERIFIED" then "hit" else "stale-hit-refreshing")),
    ("object_hash", .string row.object_hash), ("object_version", .number row.object_version),
    ("state_root", .string row.state_root), ("cache_generation", .number generation),
    ("cache_generation_owner", .string generation_owner)].foldl
      (fun evidence item => dict_set item.1 item.2 evidence) row.evidence

/-- A status that has changed is written back. -/
def write_back (row : RowObject) (data : CacheRow) (effective_status : String) :
    CacheProg RowObject :=
  if effective_status ≠ data.status then do
    let row ← assign_status effective_status row
    query (.update_status data.cache_key effective_status)
    .ret row
  else .ret row

/-- The end of `get_valid`. -/
def trust_row (endpoint_key : String) (row : RowObject) (data : CacheRow)
    (effective_status : String) (generation : Nat) : CacheProg (Option VerificationResult) := do
  let row ← write_back row data effective_status
  use_memory (.assign endpoint_key row)
  .ret (some (.accept data.resolver_id effective_status
    (hit_evidence generation_owner data effective_status generation)))

/-- `get_valid` with the row it found in the database or in `memory`. -/
def check_row (endpoint_key : String) (observed : ResolverEndpoint) (now : Int)
    (generation : Nat) (row : RowObject) : CacheProg (Option VerificationResult) := do
  let data ← read_object row
  match ← Prog.ofExcept (judge P fromisoformat data observed now) with
  | .answer result => .ret result
  | .expire => do
    invalidate_cache_key data.cache_key "EXPIRED"
    use_memory (.pop endpoint_key)
    .ret none
  | .trust effective_status =>
    trust_row generation_owner endpoint_key row data effective_status generation

/-- The row under a lookup key, the database's before the manager's own. -/
def find_row (endpoint_key : String) : CacheProg (Option RowObject) := do
  match ← query (.get_by_endpoint_lookup_key endpoint_key) with
  | some row => .ret (some (.fresh row))
  | none => do
    let object ← use_memory (.get endpoint_key)
    .ret (object.map .held)

/-- The entry of an endpoint, while it may be served. -/
def get_valid (endpoint_key : String) (observed : ResolverEndpoint) (now : Int) :
    CacheProg (Option VerificationResult) := do
  let generation : Nat ← query .current_generation
  let row ← find_row endpoint_key
  let current : Nat ← query .current_generation
  if generation ≠ current then .ret none
  else match row with
    | none => .ret none
    | some row =>
      check_row P fromisoformat generation_owner endpoint_key observed now generation row

/-- The row `store_verified` writes, but for the generation in its evidence. -/
def verified_row (endpoint_key : String) (endpoint : ResolverEndpoint) (found : Verified)
    (verified_at : String) : Except String CacheRow := do
  let endpoint ← endpoint.normalized P
  let cache_key ← trusted_cache_key P endpoint found.resolver_id found.object_version
  .ok { cache_key, endpoint_lookup_key := endpoint_key, resolver_id := found.resolver_id
        endpoint := endpoint.to_dict, object_hash := found.object_hash
        object_version := found.object_version, state_root := found.state_root
        status := "VERIFIED", verified_at, soft_expire_at := found.soft_expire_at
        hard_expire_at := found.hard_expire_at, evidence := found.evidence }

/-- The evidence with the generation it was made at. -/
def with_generation (generation : Nat) (evidence : List (String × Json)) :
    List (String × Json) :=
  dict_set "cache_generation_owner" (.string generation_owner)
    (dict_set "cache_generation" (.number generation) evidence)

/-- The generation a store goes by. -/
def generation_for : Option Nat → CacheProg Nat
  | none => query .current_generation
  | some expected_generation => .ret expected_generation

/-- The database half of `store_verified`. -/
def store_row (endpoint_key : String) (row : CacheRow) (expected_generation : Option Nat) :
    CacheProg Bool := do
  Prog.perform (CacheOp.called row.cache_key)
  let generation ← generation_for expected_generation
  let row := { row with evidence := with_generation generation_owner generation row.evidence }
  let stored : Bool ← query (.put_if_generation row generation)
  if stored then do
    use_memory (.assign endpoint_key (.fresh row))
    .ret true
  else .ret false

/-- `verified_at` is the text of the clock. -/
def store_verified (endpoint_key : String) (endpoint : ResolverEndpoint) (found : Verified)
    (verified_at : String) (expected_generation : Option Nat) : CacheProg Bool := do
  let row ← Prog.ofExcept (verified_row P endpoint_key endpoint found verified_at)
  store_row generation_owner endpoint_key row expected_generation

/-! ## §5. The verifier. -/

/-- The end of `_verify_cold`, and what its callers make of an exception. -/
def store_cold (endpoint : ResolverEndpoint) (cache_key : String) (verified_at : String)
    (expected_generation : Nat) (found : Verified) : CacheProg VerificationResult :=
  match verified_row P cache_key endpoint found verified_at with
  | .error e => .ret (.reject "out_of_band_unavailable" none
      [("endpoint_key", .string cache_key), ("error", .string e)])
  | .ok row => do
    if ← store_row generation_owner cache_key row (some expected_generation) then
      .ret (.accept found.resolver_id "VERIFIED" (("cache", .string "miss") ::
        with_generation generation_owner expected_generation found.evidence))
    else .ret (.reject "verification_invalidated_during_commit" (some found.resolver_id) [])

/-- Verify without a cached row, and keep the outcome. -/
def verify_cold (endpoint : ResolverEndpoint) (cache_key : String) (verified_at : String)
    (expected_generation : Nat) : CacheProg VerificationResult := do
  match ← query (.verify_cold cache_key) with
  | .error rejection => .ret rejection
  | .ok found =>
    store_cold P generation_owner endpoint cache_key verified_at expected_generation found

/-- `verify_endpoint`: the entry if there is one, else verify. -/
def verify_endpoint (endpoint : ResolverEndpoint) (now : Int) (verified_at : String) :
    CacheProg VerificationResult := do
  let endpoint ← Prog.ofExcept (endpoint.normalized P)
  let cache_key ← Prog.ofExcept (endpoint_lookup_key P endpoint)
  match ← get_valid P fromisoformat generation_owner cache_key endpoint now with
  | some cached => .ret cached
  | none => do
    let generation ← query .current_generation
    verify_cold P generation_owner endpoint cache_key verified_at generation

/-- `refresh_endpoint`: verify again. -/
def refresh_endpoint (endpoint : ResolverEndpoint) (verified_at : String) :
    CacheProg VerificationResult := do
  let endpoint ← Prog.ofExcept (endpoint.normalized P)
  let cache_key ← Prog.ofExcept (endpoint_lookup_key P endpoint)
  let generation ← query .current_generation
  verify_cold P generation_owner endpoint cache_key verified_at generation

end Manager

/-! ## §6. The database and the memory of a manager. -/

/-- The table, and the `cache_generation` of `runtime_state`, 0 where there is none. -/
structure Database where
  trusted_cache : RowTable String CacheColumns
  generation : Nat

/-- What the surroundings decide: which of the newest rows and in which order, where the
order of the query leaves it open, and what the registry and the indexer answer. -/
structure Surroundings where
  newest : Option String := none
  order : List String := []
  binding : Option String := none
  anchor : Option RegistryAnchor := none
  root_status : Option String := none
  cold : Except VerificationResult Verified := .error (.reject "lookup_not_found" none [])

namespace Database

/-- The rows of the table. -/
def rows (db : Database) : List CacheRow :=
  db.trusted_cache.rows.map (fun row => { row.val with cache_key := row.key })

/-- `ORDER BY verified_at DESC LIMIT 1`. -/
def get_by_endpoint_lookup_key (db : Database) (endpoint_lookup_key : String)
    (newest : Option String) : Option (Option CacheRow) :=
  let found := db.rows.filter (fun row => row.endpoint_lookup_key = endpoint_lookup_key)
  match newest with
  | none => if found.isEmpty then some none else none
  | some cache_key => (found.find? (fun row => row.cache_key = cache_key ∧
      ∀ other ∈ found, as_bytes other.verified_at ≤ as_bytes row.verified_at)).map some

/-- `ORDER BY verified_at DESC`. -/
def list (db : Database) (order : List String) : Option (List CacheRow) := do
  let rows ← order.mapM (fun cache_key => db.rows.find? (fun row => row.cache_key = cache_key))
  if order.Perm (db.rows.map CacheRow.cache_key) ∧
      (rows.map (fun row => as_bytes row.verified_at)).Pairwise (fun a b => b ≤ a) then some rows
  else none

end Database

/-- `UPDATE trusted_cache SET status=? WHERE ...`. -/
structure StatusWrite where
  status : String
  affected : String → CacheColumns → Bool

/-- The accesses that only write a status. -/
def Access.status_write : Access → Option StatusWrite
  | .update_status cache_key status => some ⟨status, fun key _ => key = cache_key⟩
  | .mark_status_by_resolver resolver_id status =>
    some ⟨status, fun _ row => row.resolver_id = resolver_id⟩
  | .mark_status_by_root state_root status =>
    some ⟨status, fun _ row => row.state_root = state_root⟩
  | .mark_stale_versions resolver_id object_version => some ⟨"EXPIRED", fun _ row =>
      row.resolver_id = resolver_id ∧ row.object_version ≠ object_version⟩
  | _ => none

/-- The status goes to the affected rows. -/
def StatusWrite.apply (write : StatusWrite) (table : RowTable String CacheColumns) :
    RowTable String CacheColumns :=
  table.mapVals (fun key row =>
    if write.affected key row then { row with status := write.status } else row)

/-- What an access leaves in the database.  No query sees the row ids. -/
def Access.apply (db : Database) : Access → Database
  | .bump_generation => { db with generation := db.generation + 1 }
  | .put_if_generation row expected_generation =>
    if db.generation = expected_generation then
      { db with trusted_cache := db.trusted_cache.upsert row.cache_key row.toCacheColumns }
    else db
  | access => match access.status_write with
    | some write => { db with trusted_cache := write.apply db.trusted_cache }
    | none => db

/-- The answer to an access; `none` where the surroundings decide what cannot be. -/
def Access.answer (db : Database) (env : Surroundings) : (access : Access) → Option access.Answer
  | .current_generation => some db.generation
  | .bump_generation => some ()
  | .get_by_endpoint_lookup_key endpoint_lookup_key =>
    db.get_by_endpoint_lookup_key endpoint_lookup_key env.newest
  | .list => db.list env.order
  | .put_if_generation _ expected_generation => some (decide (db.generation = expected_generation))
  | .update_status _ _ => some ()
  | .mark_status_by_resolver _ _ => some ()
  | .mark_status_by_root _ _ => some ()
  | .mark_stale_versions _ _ => some ()
  | .get_endpoint_binding _ => some env.binding
  | .get_anchor _ => some env.anchor
  | .get_root_status _ => some env.root_status
  | .verify_cold _ => some env.cold

/-- A manager, with every dictionary that `memory` has held. -/
structure CacheManager where
  generation_owner : String
  memory : List (String × Nat)
  objects : List CacheRow

namespace CacheManager

/-- `dict.pop`. -/
def pop (m : CacheManager) (endpoint_key : String) : CacheManager :=
  { m with memory := m.memory.filter (fun item => item.1 ≠ endpoint_key) }

/-- `dict[key] = row`. -/
def assign (m : CacheManager) (endpoint_key : String) : RowObject → CacheManager
  | .fresh row => { m with
      memory := (endpoint_key, m.objects.length) :: (m.pop endpoint_key).memory
      objects := m.objects ++ [row] }
  | .held object => { m with memory := (endpoint_key, object) :: (m.pop endpoint_key).memory }

/-- The status goes to the affected objects. -/
def assign_statuses (m : CacheManager) (affected : CacheRow → Bool) (status : String) :
    CacheManager :=
  { m with objects := m.objects.mapIdx (fun object row =>
      if m.memory.any (fun item => item.2 = object) && affected row then { row with status }
      else row) }

end CacheManager

/-- One use, carried out. -/
def MemoryUse.perform (m : CacheManager) : (use : MemoryUse) → use.Answer × CacheManager
  | .get endpoint_key => (m.memory.lookup endpoint_key, m)
  | .read object => (m.objects.getD object default, m)
  | .assign_status object status =>
    ((), { m with objects := m.objects.modify object (fun row => { row with status }) })
  | .assign endpoint_key row => ((), m.assign endpoint_key row)
  | .pop endpoint_key => ((), m.pop endpoint_key)
  | .clear => ((), { m with memory := [] })
  | .assign_statuses affected status => ((), m.assign_statuses affected status)

/-- What a call does before it asks something of the database again. -/
def settle : CacheProg Unit → CacheManager → CacheProg Unit × CacheManager
  | .op (.memory use) k, m => settle (k (use.perform m).1) (use.perform m).2
  | program, m => (program, m)

/-! ## §7. What calls can write. -/

/-- What a call has to keep to, by the row its last look-up by endpoint handed out:
a trusted status goes to that row only, which was trusted, or to a row of `memory`. -/
def careful : Protocol CacheOp CacheOp.Answer (Option CacheRow) where
  permits seen op := match op with
    | .database (.update_status cache_key status) => Withdrawn status ∨
        (Trusted status ∧ ∀ row, seen = some row → row.cache_key = cache_key ∧ Trusted row.status)
    | .database (.put_if_generation row _) => Trusted row.status
    | .database access => ∀ write, access.status_write = some write → Withdrawn write.status
    | _ => True
  answers _ _ _ := True
  next seen op answer := match op, answer with
    | .database (.get_by_endpoint_lookup_key _), row => row
    | _, _ => seen

/-- The call keeps to it, whatever it is answered. -/
abbrev Careful {α : Type} (program : CacheProg α) (seen : Option CacheRow) : Prop :=
  program.Follows careful (fun _ _ => True) (fun _ _ => True) seen

section Careful

variable {P : Platform} {fromisoformat : IsoReader} {generation_owner : String}
variable {seen : Option CacheRow} {α β : Type}

theorem Careful.bind {program : CacheProg α} {f : α → CacheProg β}
    (h : Careful program seen) (hf : ∀ a seen, Careful (f a) seen) :
    Careful (program >>= f) seen :=
  Prog.Follows.bind h (fun a seen _ => hf a seen)

theorem bump_careful : Careful bump_generation seen := by
  refine ⟨?_, fun _ _ => ⟨?_, fun _ _ => trivial⟩⟩
  · intro write hwrite
    cases hwrite
  · intro write hwrite
    cases hwrite

theorem invalidate_cache_key_careful {cache_key status : String} (h : Withdrawn status) :
    Careful (invalidate_cache_key cache_key status) seen := by
  refine bump_careful.bind ?_
  intro _ seen
  exact ⟨trivial, fun _ _ => ⟨Or.inl h, fun _ _ => trivial⟩⟩

theorem invalidate_each_careful {affected : CacheRow → Bool} {status : String}
    (h : Withdrawn status) (rows : List CacheRow) :
    Careful (invalidate_each affected status rows) seen := by
  induction rows generalizing seen with
  | nil => exact trivial
  | cons row rest ih =>
    unfold invalidate_each
    split
    · exact (invalidate_cache_key_careful h).bind (fun _ _ => ih)
    · exact ih

theorem invalidate_endpoint_key_careful {endpoint_key status : String} (h : Withdrawn status) :
    Careful (invalidate_endpoint_key endpoint_key status) seen := by
  refine Careful.bind ?_ ?_
  · refine ⟨trivial, ?_⟩
    intro object _
    cases object with
    | some object => exact ⟨trivial, fun _ _ => trivial⟩
    | none => exact ⟨fun _ hwrite => (nomatch hwrite), fun _ _ => trivial⟩
  · intro row seen
    cases row with
    | some row =>
      exact (invalidate_cache_key_careful h).bind (fun _ _ => ⟨trivial, fun _ _ => trivial⟩)
    | none => exact ⟨trivial, fun _ _ => trivial⟩

/-- A bump, the loop over `memory`, and one statement that withdraws rows. -/
theorem mark_careful {affected : CacheRow → Bool} {status : String} {access : Access}
    (h : ∀ seen, careful.permits seen (.database access)) :
    Careful (do
      bump_generation
      use_memory (.assign_statuses affected status)
      query access) seen := by
  refine bump_careful.bind ?_
  intro _ seen
  exact ⟨trivial, fun _ _ => ⟨h seen, fun _ _ => trivial⟩⟩

/-- A bump, the loop over `memory`, and the loop over the listed rows. -/
theorem list_careful {affected : CacheRow → Bool} {status : String} (h : Withdrawn status) :
    Careful (do
      bump_generation
      use_memory (.assign_statuses affected status)
      let rows ← query .list
      invalidate_each affected status rows) seen := by
  refine bump_careful.bind ?_
  intro _ seen
  exact ⟨trivial, fun _ _ =>
    ⟨fun _ hwrite => (nomatch hwrite), fun rows _ => invalidate_each_careful h rows⟩⟩

theorem expire_all_careful {status : String} (h : Withdrawn status) :
    Careful (expire_all status) seen := by
  refine ⟨fun _ hwrite => (nomatch hwrite), fun rows _ => ?_⟩
  exact (invalidate_each_careful h rows).bind (fun _ _ => ⟨trivial, fun _ _ => trivial⟩)

theorem refresh_rows_careful (rows : List CacheRow) :
    ∀ {counts : RefreshCounts} {seen : Option CacheRow},
      Careful (refresh_rows rows counts) seen := by
  induction rows with
  | nil => exact trivial
  | cons row rest ih =>
    intro counts seen
    unfold refresh_rows
    refine Careful.bind ?_ ?_
    · unfold ask_registry
      cases registry_keys row with
      | none => exact trivial
      | some keys =>
        -- three questions that write nothing
        exact ⟨fun _ hwrite => (nomatch hwrite), fun _ _ =>
          ⟨fun _ hwrite => (nomatch hwrite), fun _ _ =>
            ⟨fun _ hwrite => (nomatch hwrite), fun _ _ => trivial⟩⟩⟩
    · intro standing seen
      cases standing with
      | unchecked => exact ih
      | revoked => exact (invalidate_cache_key_careful (Or.inl rfl)).bind (fun _ _ => ih)
      | changed => exact (invalidate_cache_key_careful (Or.inr rfl)).bind (fun _ _ => ih)
      | current => exact ih

theorem refresh_registry_state_careful : Careful refresh_registry_state seen :=
  ⟨fun _ hwrite => (nomatch hwrite), fun rows _ => refresh_rows_careful rows⟩

/-- A row is expired or trusted only if it was trusted before. -/
theorem judge_eq_ok {row : CacheRow} {observed : ResolverEndpoint} {now : Int}
    {judgement : Judgement} (h : judge P fromisoformat row observed now = .ok judgement) :
    (∃ result, judgement = .answer result) ∨ (Trusted row.status ∧
      (judgement = .expire ∨ ∃ status, judgement = .trust status ∧ Trusted status)) := by
  unfold judge at h
  dsimp only at h
  split at h
  · exact Or.inl ⟨_, (Except.ok.inj h).symm⟩
  split at h
  · exact Or.inl ⟨_, (Except.ok.inj h).symm⟩
  case isFalse htrusted =>
    have htrusted : Trusted row.status := not_not.mp htrusted
    obtain ⟨hard, _, h⟩ := bind_eq_ok.mp h
    split at h
    · exact Or.inr ⟨htrusted, Or.inl (Except.ok.inj h).symm⟩
    obtain ⟨cached, _, h⟩ := bind_eq_ok.mp h
    obtain ⟨matched, _, h⟩ := bind_eq_ok.mp h
    split at h
    · exact Or.inl ⟨_, (Except.ok.inj h).symm⟩
    obtain ⟨binding_key, _, h⟩ := bind_eq_ok.mp h
    split at h
    · exact Or.inl ⟨_, (Except.ok.inj h).symm⟩
    obtain ⟨soft, _, h⟩ := bind_eq_ok.mp h
    refine Or.inr ⟨htrusted, Or.inr ⟨_, (Except.ok.inj h).symm, ?_⟩⟩
    split
    · exact Or.inr rfl
    · exact Or.inl rfl

/-- What a call knows of the row it found. -/
def Known (seen : Option CacheRow) : RowObject → Prop
  | .fresh row => seen = some row
  | .held _ => seen = none

theorem find_row_known {endpoint_key : String} :
    (find_row endpoint_key).Follows careful (fun found seen => ∀ row ∈ found, Known seen row)
      (fun _ _ => True) seen := by
  refine ⟨fun _ hwrite => (nomatch hwrite), ?_⟩
  intro row _
  cases row with
  | some row =>
    intro found hfound
    rw [← Option.some.inj hfound]
    rfl
  | none =>
    refine ⟨trivial, ?_⟩
    intro object _ found hfound
    obtain ⟨object, _, rfl⟩ := Option.map_eq_some_iff.mp hfound
    rfl

theorem trust_row_careful {endpoint_key : String} {row : RowObject} {data : CacheRow}
    {status : String} {generation : Nat} (hstatus : Trusted status)
    (hseen : ∀ other, seen = some other → other = data) (hdata : Trusted data.status) :
    Careful (trust_row generation_owner endpoint_key row data status generation) seen := by
  have hwrite : careful.permits seen (.database (.update_status data.cache_key status)) := by
    refine Or.inr ⟨hstatus, ?_⟩
    intro other hother
    rw [hseen other hother]
    exact ⟨rfl, hdata⟩
  refine Careful.bind ?_ (fun _ _ => ⟨trivial, fun _ _ => trivial⟩)
  unfold write_back
  split
  · cases row with
    | fresh row => exact ⟨hwrite, fun _ _ => trivial⟩
    | held object => exact ⟨trivial, fun _ _ => ⟨hwrite, fun _ _ => trivial⟩⟩
  · exact trivial

theorem check_row_careful {endpoint_key : String} {observed : ResolverEndpoint} {now : Int}
    {generation : Nat} {row : RowObject} (hknown : Known seen row) :
    Careful (check_row P fromisoformat generation_owner endpoint_key observed now generation row)
      seen := by
  have hread : (read_object row).Follows careful (fun data seen' => seen' = seen ∧
      ∀ other, seen = some other → other = data) (fun _ _ => True) seen := by
    cases row with
    | fresh row => exact ⟨rfl, fun other hother => Option.some.inj (hother.symm.trans hknown)⟩
    | held object =>
      refine ⟨trivial, fun data _ => ⟨rfl, fun other hother => ?_⟩⟩
      exact nomatch hother.symm.trans hknown
  refine Prog.Follows.bind hread ?_
  intro data seen' hdata
  obtain ⟨rfl, hseen⟩ := hdata
  refine Prog.follows_ofExcept_bind ?_
  intro judgement hjudge
  rcases judge_eq_ok hjudge with ⟨result, rfl⟩ | ⟨htrusted, rfl | ⟨status, rfl, hstatus⟩⟩
  · exact trivial
  · exact (invalidate_cache_key_careful (Or.inr rfl)).bind
      (fun _ _ => ⟨trivial, fun _ _ => trivial⟩)
  · exact trust_row_careful hstatus hseen htrusted

theorem get_valid_careful {endpoint_key : String} {observed : ResolverEndpoint} {now : Int} :
    Careful (get_valid P fromisoformat generation_owner endpoint_key observed now) seen := by
  refine ⟨fun _ hwrite => (nomatch hwrite), ?_⟩
  intro (generation : Nat) _
  show Careful (find_row endpoint_key >>= _) seen
  refine Prog.Follows.bind find_row_known ?_
  intro found seen hfound
  refine ⟨fun _ hwrite => (nomatch hwrite), ?_⟩
  intro (current : Nat) _
  show Careful (if generation ≠ current then _ else _) seen
  split
  · exact trivial
  · cases found with
    | none => exact trivial
    | some row => exact check_row_careful (hfound row rfl)

theorem verified_row_trusted {endpoint_key : String} {endpoint : ResolverEndpoint}
    {found : Verified} {verified_at : String} {row : CacheRow}
    (h : verified_row P endpoint_key endpoint found verified_at = .ok row) :
    Trusted row.status := by
  obtain ⟨normalized, _, h⟩ := bind_eq_ok.mp h
  obtain ⟨cache_key, _, h⟩ := bind_eq_ok.mp h
  rw [← Except.ok.inj h]
  exact Or.inl rfl

theorem store_row_careful {endpoint_key : String} {row : CacheRow}
    {expected_generation : Option Nat} (h : Trusted row.status) :
    Careful (store_row generation_owner endpoint_key row expected_generation) seen := by
  refine ⟨trivial, fun _ _ => ?_⟩
  show Careful (generation_for expected_generation >>= _) seen
  refine Careful.bind ?_ ?_
  · cases expected_generation with
    | none => exact ⟨fun _ hwrite => (nomatch hwrite), fun _ _ => trivial⟩
    | some generation => exact trivial
  · intro generation seen
    refine ⟨h, ?_⟩
    intro (stored : Bool) _
    show Careful (if stored = true then _ else _) _
    split
    · exact ⟨trivial, fun _ _ => trivial⟩
    · exact trivial

theorem verify_cold_careful {endpoint : ResolverEndpoint} {cache_key verified_at : String}
    {expected_generation : Nat} :
    Careful (verify_cold P generation_owner endpoint cache_key verified_at expected_generation)
      seen := by
  refine ⟨fun _ hwrite => (nomatch hwrite), ?_⟩
  intro found _
  cases found with
  | error rejection => exact trivial
  | ok found =>
    show Careful (store_cold P generation_owner endpoint cache_key verified_at
      expected_generation found) _
    unfold store_cold
    cases hrow : verified_row P cache_key endpoint found verified_at with
    | error e => exact trivial
    | ok row =>
      refine (store_row_careful (verified_row_trusted hrow)).bind ?_
      intro stored seen
      show Careful (if stored = true then _ else _) seen
      split
      · exact trivial
      · exact trivial

theorem store_verified_careful {endpoint_key : String} {endpoint : ResolverEndpoint}
    {found : Verified} {verified_at : String} {expected_generation : Option Nat} :
    Careful (store_verified P generation_owner endpoint_key endpoint found verified_at
      expected_generation) seen :=
  Prog.follows_ofExcept_bind (fun _ hrow => store_row_careful (verified_row_trusted hrow))

theorem verify_endpoint_careful {endpoint : ResolverEndpoint} {now : Int}
    {verified_at : String} :
    Careful (verify_endpoint P fromisoformat generation_owner endpoint now verified_at) seen := by
  refine Prog.follows_ofExcept_bind (fun endpoint _ => ?_)
  refine Prog.follows_ofExcept_bind (fun cache_key _ => ?_)
  refine get_valid_careful.bind ?_
  intro cached seen
  cases cached with
  | some cached => exact trivial
  | none => exact ⟨fun _ hwrite => (nomatch hwrite), fun _ _ => verify_cold_careful⟩

theorem refresh_endpoint_careful {endpoint : ResolverEndpoint} {verified_at : String} :
    Careful (refresh_endpoint P generation_owner endpoint verified_at) seen := by
  refine Prog.follows_ofExcept_bind (fun endpoint _ => ?_)
  refine Prog.follows_ofExcept_bind (fun cache_key _ => ?_)
  exact ⟨fun _ hwrite => (nomatch hwrite), fun _ _ => verify_cold_careful⟩

/-- Between two accesses of the database nothing is asked of it. -/
theorem Careful.settle {program : CacheProg Unit} :
    ∀ {m : CacheManager}, Careful program seen → Careful (settle program m).1 seen := by
  induction program with
  | ret a =>
    intro m h
    exact h
  | fail e =>
    intro m h
    exact h
  | op o k ih =>
    intro m h
    cases o with
    | memory use => exact ih _ (h.2 _ trivial)
    | database access => exact h
    | called cache_key => exact h

end Careful

/-! ## §8. What a look-up hands out. -/

theorem Database.get?_of_mem_rows {db : Database} {row : CacheRow} (h : row ∈ db.rows) :
    db.trusted_cache.get? row.cache_key = some row.toCacheColumns := by
  obtain ⟨stored, hstored, rfl⟩ := List.mem_map.mp h
  exact RowTable.get?_of_mem hstored

theorem Database.get_by_endpoint_lookup_key_mem {db : Database} {endpoint_lookup_key : String}
    {newest : Option String} {row : CacheRow}
    (h : db.get_by_endpoint_lookup_key endpoint_lookup_key newest = some (some row)) :
    row ∈ db.rows := by
  unfold Database.get_by_endpoint_lookup_key at h
  dsimp only at h
  split at h
  · split at h
    · cases Option.some.inj h
    · cases h
  · obtain ⟨found, hfound, heq⟩ := Option.map_eq_some_iff.mp h
    rw [← Option.some.inj heq]
    exact List.mem_of_mem_filter (List.mem_of_find?_eq_some hfound)

end ResolverIdentity.V1.Cache
