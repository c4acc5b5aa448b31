/-
  ResolverIdentity.V1.Revocations: cache managers that share one database.

  Any number of managers, each with any number of calls under way, and between two steps
  of a call, each a single read or write of the database, any step of another one.

  Beside the state of the source the runs keep what they are asked about: which rows an
  invalidation has withdrawn without `store_verified` having been called for them since,
  and for each call which row it has looked up, whether that was withdrawn since, and the
  generation its last bump has reached.

  Main results:
    * `consistent_step`: what a call knows of the row it writes back;
    * `stand_iff_current`: one step keeps revocations exactly when it writes nothing late;
    * `overtaken_of_late`: how a write comes to be late;
    * `revocations_stand_iff`: which runs never lose a revocation;
    * `revocation_lost`: a hit on a row past its soft expiry undoes a revocation.
-/
import ResolverIdentity.Library.Machine
import ResolverIdentity.V1.TrustedCache

namespace ResolverIdentity.V1.Cache

open Library Publisher

/-! ## §1. Runs. -/

/-- The calls of verifier, coordinator and event watcher, with the statuses these pass.  The
route of an operator who names a status is not among them. -/
inductive Call where
  | get_valid (endpoint_key : String) (observed : ResolverEndpoint) (now : Int)
  | store_verified (endpoint_key : String) (endpoint : ResolverEndpoint) (found : Verified)
      (verified_at : String) (expected_generation : Option Nat)
  | verify_endpoint (endpoint : ResolverEndpoint) (now : Int) (verified_at : String)
  | refresh_endpoint (endpoint : ResolverEndpoint) (verified_at : String)
  | refresh_registry_state
  | expire_all
  | invalidate_resolver (resolver_id : String)
  | invalidate_resolver_key (resolver_id_key : String)
  | invalidate_root (state_root : String)
  | invalidate_object_version (resolver_id : String) (object_version : Int)
  | invalidate_object_version_by_resolver_key (resolver_id_key : String) (object_version : Int)
  | invalidate_endpoint_key (endpoint_key : String)
  | invalidate_endpoint (endpoint : ResolverEndpoint)

/-- A thread in the middle of a method, and what it has read. -/
structure Task where
  manager : Nat
  program : CacheProg Unit
  /-- The generation its last bump has reached. -/
  bumped : Nat
  /-- The row its last look-up by endpoint handed out. -/
  seen : Option CacheRow
  /-- Whether that row has been withdrawn since. -/
  overtaken : Bool

/-- The database and the threads that share it. -/
structure CacheSystem where
  database : Database
  managers : Nat → CacheManager
  tasks : List Task
  /-- For a row withdrawn since `store_verified` was last called for it, the generation
  its invalidation had reached. -/
  withdrawn : String → Option Nat

/-- A thread starts a method, makes its next access, or ends. -/
inductive CacheStep where
  | begin_call (manager : Nat) (call : Call)
  /-- The next access of a call. -/
  | work (i : Nat) (env : Surroundings)
  /-- The call raises, or its process ends. -/
  | raise (i : Nat)

/-- The rows a statement withdraws. -/
def Access.withdraws (access : Access) (db : Database) (cache_key : String) : Bool :=
  match access.status_write with
  | some write => Withdrawn write.status ∧
      (db.trusted_cache.get? cache_key).any (write.affected cache_key)
  | none => false

/-- What a call has seen, after a statement that withdraws rows. -/
def Task.note (withdraws : String → Bool) (t : Task) : Task :=
  if t.seen.any (fun row => withdraws row.cache_key) then { t with overtaken := true } else t

/-- The generation a call has bumped to, after an access that left `generation`. -/
def Access.bumped (generation : Nat) (before : Nat) : Access → Nat
  | .bump_generation => generation
  | _ => before

/-- A row that was handed out just now has not been withdrawn since. -/
def Access.overtaken (before : Bool) : Access → Bool
  | .get_by_endpoint_lookup_key _ => false
  | _ => before

section Runs

variable (P : Platform) (fromisoformat : IsoReader)

/-- The method behind a call. -/
def Call.program (generation_owner : String) : Call → CacheProg Unit
  | .get_valid endpoint_key observed now => do
    let _ ← Cache.get_valid P fromisoformat generation_owner endpoint_key observed now
    .ret ()
  | .store_verified endpoint_key endpoint found verified_at expected_generation => do
    let _ ← Cache.store_verified P generation_owner endpoint_key endpoint found verified_at
      expected_generation
    .ret ()
  | .verify_endpoint endpoint now verified_at => do
    let _ ← Cache.verify_endpoint P fromisoformat generation_owner endpoint now verified_at
    .ret ()
  | .refresh_endpoint endpoint verified_at => do
    let _ ← Cache.refresh_endpoint P generation_owner endpoint verified_at
    .ret ()
  | .refresh_registry_state => do
    let _ ← Cache.refresh_registry_state
    .ret ()
  | .expire_all => do
    let _ ← Cache.expire_all "EXPIRED"
    .ret ()
  | .invalidate_resolver resolver_id => Cache.invalidate_resolver resolver_id "REVOKED"
  | .invalidate_resolver_key resolver_id_key =>
    Cache.invalidate_resolver_key resolver_id_key "REVOKED"
  | .invalidate_root state_root => Cache.invalidate_root state_root "REVOKED"
  | .invalidate_object_version resolver_id object_version =>
    Cache.invalidate_object_version resolver_id object_version
  | .invalidate_object_version_by_resolver_key resolver_id_key object_version =>
    Cache.invalidate_object_version_by_resolver_key resolver_id_key object_version
  | .invalidate_endpoint_key endpoint_key =>
    Cache.invalidate_endpoint_key endpoint_key "EXPIRED"
  | .invalidate_endpoint endpoint => do
    let endpoint_key ← Prog.ofExcept (endpoint_lookup_key P endpoint)
    Cache.invalidate_endpoint_key endpoint_key "EXPIRED"

namespace CacheSystem

/-- The call goes on with `program` until it asks for the next access. -/
def resume (s : CacheSystem) (i : Nat) (t : Task) (program : CacheProg Unit) : CacheSystem :=
  let settled := settle program (s.managers t.manager)
  { s with
    managers := fun manager => if manager = t.manager then settled.2 else s.managers manager
    tasks := s.tasks.set i { t with program := settled.1 } }

/-- One access, with its answer. -/
def perform (s : CacheSystem) (t : Task) (access : Access) (answer : access.Answer) :
    CacheSystem × Task :=
  let database := access.apply s.database
  let withdraws := access.withdraws s.database
  ({ s with
      database
      tasks := s.tasks.map (Task.note withdraws)
      withdrawn := fun cache_key =>
        if withdraws cache_key then some t.bumped else s.withdrawn cache_key },
    Task.note withdraws { t with
      bumped := access.bumped database.generation t.bumped
      seen := careful.next t.seen (.database access) answer
      overtaken := access.overtaken t.overtaken })

/-- `store_verified` is called for a row. -/
def called (s : CacheSystem) (cache_key : String) : CacheSystem :=
  { s with withdrawn := fun key => if key = cache_key then none else s.withdrawn key }

/-- A thread makes its next operation. -/
def work (s : CacheSystem) (i : Nat) (env : Surroundings) : Option CacheSystem := do
  let t ← s.tasks[i]?
  match t.program with
  | .op (.database access) k => do
    let answer ← access.answer s.database env
    let performed := s.perform t access answer
    some (performed.1.resume i performed.2 (k answer))
  | .op (.called cache_key) k => some ((s.called cache_key).resume i t (k ()))
  | _ => none

end CacheSystem

/-- One step, where it is possible. -/
def cache_step (s : CacheSystem) : CacheStep → Option CacheSystem
  | .begin_call manager call =>
    let t : Task :=
      ⟨manager, call.program P fromisoformat (s.managers manager).generation_owner, 0, none, false⟩
    some (CacheSystem.resume { s with tasks := s.tasks ++ [t] } s.tasks.length t t.program)
  | .work i env => s.work i env
  | .raise i => do
    let t ← s.tasks[i]?
    some { s with tasks := s.tasks.set i { t with program := .fail "raised" } }

/-- Managers with nothing in memory, on a new database. -/
def cache_system (owners : Nat → String) : Machine CacheSystem CacheStep where
  init := ⟨⟨.empty, 0⟩, fun manager => ⟨owners manager, [], []⟩, [], fun _ => none⟩
  step := cache_step P fromisoformat

end Runs

/-! ## §2. The law and the condition. -/

/-- No row that was withdrawn is trusted, unless `store_verified` was called for it since. -/
def RevocationsStand (s : CacheSystem) : Prop :=
  ∀ cache_key row, s.withdrawn cache_key ≠ none →
    s.database.trusted_cache.get? cache_key = some row → ¬ Trusted row.status

/-- A write that comes late: `get_valid` writes VERIFIED or REFRESHING back to a row that was
withdrawn since, or a row that was withdrawn since is stored under a generation that is still
the current one. -/
def Access.Late (s : CacheSystem) : Access → Prop
  | .update_status cache_key status => Trusted status ∧ s.withdrawn cache_key ≠ none
  | .put_if_generation row expected_generation =>
    expected_generation = s.database.generation ∧ s.withdrawn row.cache_key ≠ none
  | _ => False

/-- The step is no late write. -/
def WritesCurrent (s : CacheSystem) : CacheStep → Prop
  | .work i _ => ∀ t access k, s.tasks[i]? = some t → t.program = .op (.database access) k →
      ¬ access.Late s
  | _ => True

/-- How a write comes to be late.  The row was withdrawn after the call had looked it up, or the
call has it from its manager's memory; or the invalidation had bumped the generation before the
store read it, and withdrew the row after that. -/
def Access.Overtaken (s : CacheSystem) (t : Task) : Access → Prop
  | .update_status _ _ => t.seen = none ∨ t.overtaken = true
  | .put_if_generation row expected_generation =>
    ∃ reached, s.withdrawn row.cache_key = some reached ∧ reached ≤ expected_generation
  | _ => True

/-! ## §3. What statements leave in the table. -/

section Statements

variable {db : Database} {access : Access} {cache_key : String}

theorem get?_status_write {write : StatusWrite} (h : access.status_write = some write) :
    (access.apply db).trusted_cache.get? cache_key =
      (db.trusted_cache.get? cache_key).map (fun row =>
        if write.affected cache_key row then { row with status := write.status } else row) := by
  have happly : access.apply db = { db with trusted_cache := write.apply db.trusted_cache } := by
    cases access <;> cases h <;> rfl
  rw [happly]
  exact RowTable.get?_mapVals _ _ _

theorem apply_put_current {row : CacheRow} {expected_generation : Nat}
    (h : expected_generation = db.generation) :
    (Access.put_if_generation row expected_generation).apply db =
      { db with trusted_cache := db.trusted_cache.upsert row.cache_key row.toCacheColumns } :=
  if_pos h.symm

theorem apply_put_stale {row : CacheRow} {expected_generation : Nat}
    (h : expected_generation ≠ db.generation) :
    (Access.put_if_generation row expected_generation).apply db = db :=
  if_neg (Ne.symm h)

theorem get?_put {row : CacheRow} {expected_generation : Nat}
    (h : expected_generation = db.generation) :
    ((Access.put_if_generation row expected_generation).apply db).trusted_cache.get? cache_key =
      if cache_key = row.cache_key then some row.toCacheColumns
      else db.trusted_cache.get? cache_key := by
  rw [apply_put_current h]
  exact RowTable.get?_upsert _ _ _ _

/-- An access that neither sets a status nor stores a row leaves the table as it is. -/
theorem trusted_cache_apply (hwrite : access.status_write = none)
    (hput : ∀ row expected_generation, access ≠ .put_if_generation row expected_generation) :
    (access.apply db).trusted_cache = db.trusted_cache := by
  cases access with
  | put_if_generation row expected_generation => exact absurd rfl (hput row expected_generation)
  | bump_generation => rfl
  | update_status _ _ => cases hwrite
  | mark_status_by_resolver _ _ => cases hwrite
  | mark_status_by_root _ _ => cases hwrite
  | mark_stale_versions _ _ => cases hwrite
  | _ => rfl

theorem generation_le : db.generation ≤ (access.apply db).generation := by
  cases access with
  | bump_generation => exact Nat.le_succ _
  | put_if_generation row expected_generation =>
    by_cases h : expected_generation = db.generation
    · rw [apply_put_current h]
    · rw [apply_put_stale h]
  | _ => exact Nat.le_refl _

/-- No row ever leaves the table. -/
theorem present_apply (h : db.trusted_cache.get? cache_key ≠ none) :
    (access.apply db).trusted_cache.get? cache_key ≠ none := by
  cases hwrite : access.status_write with
  | some write =>
    rw [get?_status_write hwrite]
    intro hnone
    exact h (Option.map_eq_none_iff.mp hnone)
  | none =>
    by_cases hput : ∃ row expected_generation, access = .put_if_generation row expected_generation
    · obtain ⟨row, expected_generation, rfl⟩ := hput
      by_cases hcurrent : expected_generation = db.generation
      · rw [get?_put hcurrent]
        split
        · exact Option.some_ne_none _
        · exact h
      · rw [apply_put_stale hcurrent]
        exact h
    · rw [trusted_cache_apply hwrite (fun row generation heq => hput ⟨row, generation, heq⟩)]
      exact h

theorem withdraws_of_status_write_none (h : access.status_write = none) :
    access.withdraws db cache_key = false := by
  unfold Access.withdraws
  rw [h]

theorem withdraws_eq_true : access.withdraws db cache_key = true ↔
    ∃ write row, access.status_write = some write ∧ Withdrawn write.status ∧
      db.trusted_cache.get? cache_key = some row ∧ write.affected cache_key row = true := by
  unfold Access.withdraws
  cases access.status_write with
  | none => simp
  | some write =>
    cases db.trusted_cache.get? cache_key with
    | none => simp
    | some row => simp

end Statements

/-! ## §4. What a call knows. -/

section Knowledge

variable {P : Platform} {fromisoformat : IsoReader}
variable {s s' : CacheSystem} {i : Nat} {t : Task} {env : Surroundings}

@[simp] theorem Task.note_program (withdraws : String → Bool) (t : Task) :
    (t.note withdraws).program = t.program := by
  unfold Task.note
  split <;> rfl

@[simp] theorem Task.note_seen (withdraws : String → Bool) (t : Task) :
    (t.note withdraws).seen = t.seen := by
  unfold Task.note
  split <;> rfl

@[simp] theorem Task.note_bumped (withdraws : String → Bool) (t : Task) :
    (t.note withdraws).bumped = t.bumped := by
  unfold Task.note
  split <;> rfl

theorem Task.not_overtaken {withdraws : String → Bool} {t : Task}
    (h : (t.note withdraws).overtaken = false) :
    t.overtaken = false ∧ ∀ row, t.seen = some row → withdraws row.cache_key = false := by
  unfold Task.note at h
  split at h
  case isTrue => cases h
  case isFalse hnone =>
    refine ⟨h, ?_⟩
    intro row hrow
    rw [hrow, Option.any_some] at hnone
    exact Bool.eq_false_of_not_eq_true hnone

/-- What holds of a call under way: it is careful, and a trusted row that it has looked up
and that was not withdrawn since is not withdrawn. -/
structure Task.Sound (s : CacheSystem) (t : Task) : Prop where
  careful : Careful t.program t.seen
  bumped : t.bumped ≤ s.database.generation
  unspoiled : ∀ row, t.seen = some row → Trusted row.status → t.overtaken = false →
    s.withdrawn row.cache_key = none

/-- The invariant: every thread is sound, and withdrawn rows are still there. -/
structure Consistent (s : CacheSystem) : Prop where
  tasks : ∀ t ∈ s.tasks, t.Sound s
  reached : ∀ cache_key reached, s.withdrawn cache_key = some reached →
    reached ≤ s.database.generation
  present : ∀ cache_key, s.withdrawn cache_key ≠ none →
    s.database.trusted_cache.get? cache_key ≠ none

theorem Call.program_careful (generation_owner : String) (call : Call) :
    Careful (call.program P fromisoformat generation_owner) none := by
  cases call with
  | get_valid _ _ _ => exact get_valid_careful.bind (fun _ _ => trivial)
  | store_verified _ _ _ _ _ => exact store_verified_careful.bind (fun _ _ => trivial)
  | verify_endpoint _ _ _ => exact verify_endpoint_careful.bind (fun _ _ => trivial)
  | refresh_endpoint _ _ => exact refresh_endpoint_careful.bind (fun _ _ => trivial)
  | refresh_registry_state => exact refresh_registry_state_careful.bind (fun _ _ => trivial)
  | expire_all => exact (expire_all_careful (Or.inr rfl)).bind (fun _ _ => trivial)
  | invalidate_resolver _ =>
    exact mark_careful (fun _ _ hwrite => by cases hwrite; exact Or.inl rfl)
  | invalidate_resolver_key _ => exact list_careful (Or.inl rfl)
  | invalidate_root _ =>
    exact mark_careful (fun _ _ hwrite => by cases hwrite; exact Or.inl rfl)
  | invalidate_object_version _ _ =>
    exact mark_careful (fun _ _ hwrite => by cases hwrite; exact Or.inr rfl)
  | invalidate_object_version_by_resolver_key _ _ => exact list_careful (Or.inr rfl)
  | invalidate_endpoint_key _ => exact invalidate_endpoint_key_careful (Or.inr rfl)
  | invalidate_endpoint _ =>
    exact Prog.follows_ofExcept_bind (fun _ _ => invalidate_endpoint_key_careful (Or.inr rfl))

/-- A call that goes on is as careful as what it goes on with. -/
theorem Consistent.resume {program : CacheProg Unit} (h : Consistent s)
    (ht : Task.Sound s { t with program }) : Consistent (s.resume i t program) where
  tasks := by
    intro t' ht'
    rcases List.mem_or_eq_of_mem_set ht' with hold | rfl
    · have hsound := h.tasks t' hold
      exact ⟨hsound.careful, hsound.bumped, hsound.unspoiled⟩
    · exact ⟨ht.careful.settle, ht.bumped, ht.unspoiled⟩
  reached := h.reached
  present := h.present

/-- A call for a row only takes from what is withdrawn. -/
theorem Consistent.called (h : Consistent s) (cache_key : String) :
    Consistent (s.called cache_key) where
  tasks := by
    intro t ht
    have hsound := h.tasks t ht
    refine ⟨hsound.careful, hsound.bumped, ?_⟩
    intro row hrow htrusted hovertaken
    show (if row.cache_key = cache_key then none else s.withdrawn row.cache_key) = none
    rw [hsound.unspoiled row hrow htrusted hovertaken, ite_self]
  reached := by
    intro key reached hkey
    refine h.reached key reached ?_
    change (if key = cache_key then none else s.withdrawn key) = some reached at hkey
    split at hkey
    · cases hkey
    · exact hkey
  present := by
    intro key hkey
    refine h.present key ?_
    change (if key = cache_key then none else s.withdrawn key) ≠ none at hkey
    split at hkey
    · exact absurd rfl hkey
    · exact hkey

/-- What an access withdraws, and from which generation on. -/
theorem perform_withdrawn {access : Access} {answer : access.Answer} (cache_key : String) :
    (s.perform t access answer).1.withdrawn cache_key =
      if access.withdraws s.database cache_key then some t.bumped else s.withdrawn cache_key :=
  rfl

theorem Task.note_with (withdraws : String → Bool) (t : Task) (program : CacheProg Unit) :
    { t.note withdraws with program } = Task.note withdraws { t with program } := by
  unfold Task.note
  split <;> rfl

/-- The other calls note what an access withdraws. -/
theorem Task.Sound.note {t' : Task} (h : t'.Sound s) {access : Access} {answer : access.Answer} :
    Task.Sound (s.perform t access answer).1 (t'.note (access.withdraws s.database)) where
  careful := by
    rw [Task.note_program, Task.note_seen]
    exact h.careful
  bumped := by
    rw [Task.note_bumped]
    exact Nat.le_trans h.bumped generation_le
  unspoiled := by
    intro row hrow htrusted hovertaken
    rw [Task.note_seen] at hrow
    obtain ⟨hovertaken, hkept⟩ := Task.not_overtaken hovertaken
    rw [perform_withdrawn, hkept row hrow]
    exact h.unspoiled row hrow htrusted hovertaken

theorem Consistent.perform (h : Consistent s) (ht : t ∈ s.tasks) {access : Access}
    {answer : access.Answer} : Consistent (s.perform t access answer).1 where
  tasks := by
    intro t' ht'
    obtain ⟨before, hbefore, rfl⟩ := List.mem_map.mp ht'
    exact (h.tasks before hbefore).note
  reached := by
    intro cache_key reached hreached
    rw [perform_withdrawn] at hreached
    split at hreached
    · rw [← Option.some.inj hreached]
      exact Nat.le_trans (h.tasks t ht).bumped generation_le
    · exact Nat.le_trans (h.reached cache_key reached hreached) generation_le
  present := by
    intro cache_key hwithdrawn
    rw [perform_withdrawn] at hwithdrawn
    refine present_apply ?_
    split at hwithdrawn
    case isTrue hwithdraws =>
      obtain ⟨_, row, _, _, hrow, _⟩ := withdraws_eq_true.mp hwithdraws
      rw [hrow]
      exact Option.some_ne_none row
    case isFalse => exact h.present cache_key hwithdrawn

theorem next_seen {access : Access} {answer : access.Answer} {seen : Option CacheRow}
    (h : ∀ endpoint_key, access ≠ .get_by_endpoint_lookup_key endpoint_key) :
    careful.next seen (.database access) answer = seen := by
  cases access with
  | get_by_endpoint_lookup_key endpoint_key => exact absurd rfl (h endpoint_key)
  | _ => rfl

theorem overtaken_eq {access : Access} {before : Bool}
    (h : ∀ endpoint_key, access ≠ .get_by_endpoint_lookup_key endpoint_key) :
    access.overtaken before = before := by
  cases access with
  | get_by_endpoint_lookup_key endpoint_key => exact absurd rfl (h endpoint_key)
  | _ => rfl

theorem bumped_le {access : Access} {before : Nat} (h : before ≤ s.database.generation) :
    access.bumped (access.apply s.database).generation before ≤
      (access.apply s.database).generation := by
  cases access with
  | bump_generation => exact Nat.le_refl _
  | _ => exact Nat.le_trans h generation_le

/-- A trusted row is not withdrawn when it is looked up: this is where the law is needed. -/
theorem unspoiled_answer (hstand : RevocationsStand s) {endpoint_lookup_key : String}
    {row : CacheRow} (htrusted : Trusted row.status)
    (h : s.database.get_by_endpoint_lookup_key endpoint_lookup_key env.newest = some (some row)) :
    s.withdrawn row.cache_key = none := by
  by_contra hwithdrawn
  have hstored := Database.get?_of_mem_rows (Database.get_by_endpoint_lookup_key_mem h)
  exact hstand row.cache_key row.toCacheColumns hwithdrawn hstored htrusted

/-- The call itself knows what it has been answered. -/
theorem Task.Sound.perform (h : t.Sound s) (hstand : RevocationsStand s) {access : Access}
    {answer : access.Answer} {k : access.Answer → CacheProg Unit}
    (hprogram : t.program = .op (.database access) k)
    (hanswer : access.answer s.database env = some answer) :
    Task.Sound (s.perform t access answer).1
      { (s.perform t access answer).2 with program := k answer } := by
  have hcareful : Careful t.program t.seen := h.careful
  rw [hprogram] at hcareful
  show Task.Sound _ { Task.note _ _ with program := k answer }
  rw [Task.note_with]
  refine ⟨?_, ?_, ?_⟩
  · rw [Task.note_program, Task.note_seen]
    exact hcareful.2 answer trivial
  · rw [Task.note_bumped]
    exact bumped_le h.bumped
  · intro row hrow htrusted hovertaken
    rw [Task.note_seen] at hrow
    obtain ⟨hovertaken, hkept⟩ := Task.not_overtaken hovertaken
    rw [perform_withdrawn, hkept row hrow]
    show s.withdrawn row.cache_key = none
    by_cases hlookup : ∃ endpoint_key, access = .get_by_endpoint_lookup_key endpoint_key
    · obtain ⟨endpoint_key, rfl⟩ := hlookup
      obtain rfl : answer = some row := hrow
      exact unspoiled_answer hstand htrusted hanswer
    · have hother : ∀ endpoint_key, access ≠ .get_by_endpoint_lookup_key endpoint_key :=
        fun endpoint_key heq => hlookup ⟨endpoint_key, heq⟩
      refine h.unspoiled row ?_ htrusted ?_
      · rw [← hrow]
        exact (next_seen hother).symm
      · rw [← hovertaken]
        exact (overtaken_eq hother).symm

end Knowledge

/-! ## §5. One step. -/

section Steps

variable {P : Platform} {fromisoformat : IsoReader}
variable {s s' : CacheSystem} {i : Nat} {t : Task} {env : Surroundings}

/-- What a step of a call does: an access with its answer, or the mark of a store. -/
theorem work_cases (h : s.work i env = some s') : ∃ t, s.tasks[i]? = some t ∧
    ((∃ access k answer, t.program = .op (.database access) k ∧
        access.answer s.database env = some answer ∧
        s' = (s.perform t access answer).1.resume i (s.perform t access answer).2 (k answer)) ∨
      ∃ cache_key k, t.program = .op (.called cache_key) k ∧
        s' = (s.called cache_key).resume i t (k ())) := by
  obtain ⟨t, ht, h⟩ := Option.bind_eq_some_iff.mp h
  refine ⟨t, ht, ?_⟩
  split at h
  case h_1 access k hprogram =>
    obtain ⟨answer, hanswer, h⟩ := Option.bind_eq_some_iff.mp h
    exact Or.inl ⟨access, k, answer, hprogram, hanswer, (Option.some.inj h).symm⟩
  case h_2 cache_key k hprogram =>
    exact Or.inr ⟨cache_key, k, hprogram, (Option.some.inj h).symm⟩
  case h_3 => cases h

theorem work_of_answer {access : Access} {k : access.Answer → CacheProg Unit}
    {answer : access.Answer} (ht : s.tasks[i]? = some t)
    (hprogram : t.program = .op (.database access) k)
    (hanswer : access.answer s.database env = some answer) :
    s.work i env = some
      ((s.perform t access answer).1.resume i (s.perform t access answer).2 (k answer)) := by
  unfold CacheSystem.work
  rw [ht, Option.bind_eq_bind, Option.bind_some, hprogram]
  show (access.answer s.database env).bind _ = _
  rw [hanswer]
  rfl

theorem consistent_work (h : Consistent s) (hstand : RevocationsStand s)
    (hwork : s.work i env = some s') : Consistent s' := by
  obtain ⟨t, ht, hcase⟩ := work_cases hwork
  have hmem : t ∈ s.tasks := List.mem_of_getElem? ht
  have hsound : t.Sound s := h.tasks t hmem
  rcases hcase with ⟨access, k, answer, hprogram, hanswer, rfl⟩ | ⟨cache_key, k, hprogram, rfl⟩
  · exact (h.perform hmem).resume (hsound.perform hstand hprogram hanswer)
  · have hcalled := (h.called cache_key).tasks t hmem
    have hcareful : Careful t.program t.seen := hsound.careful
    rw [hprogram] at hcareful
    exact (h.called cache_key).resume
      ⟨hcareful.2 () trivial, hcalled.bumped, hcalled.unspoiled⟩

/-- What is known of the calls is kept while revocations stand. -/
theorem consistent_step {step : CacheStep} (h : Consistent s) (hstand : RevocationsStand s)
    (hstep : cache_step P fromisoformat s step = some s') : Consistent s' := by
  cases step with
  | begin_call manager call =>
    obtain rfl := Option.some.inj hstep
    have hnew : Task.Sound s ⟨manager, call.program P fromisoformat
        (s.managers manager).generation_owner, 0, none, false⟩ :=
      ⟨call.program_careful _, Nat.zero_le _, fun _ hrow => (nomatch hrow)⟩
    refine Consistent.resume ⟨?_, h.reached, h.present⟩
      ⟨hnew.careful, hnew.bumped, hnew.unspoiled⟩
    intro t ht
    rcases List.mem_append.mp ht with hold | hadded
    · have hsound := h.tasks t hold
      exact ⟨hsound.careful, hsound.bumped, hsound.unspoiled⟩
    · rw [List.mem_singleton.mp hadded]
      exact ⟨hnew.careful, hnew.bumped, hnew.unspoiled⟩
  | work i env => exact consistent_work h hstand hstep
  | raise i =>
    obtain ⟨t, ht, heq⟩ := Option.bind_eq_some_iff.mp hstep
    obtain rfl := Option.some.inj heq
    refine ⟨?_, h.reached, h.present⟩
    intro t' ht'
    rcases List.mem_or_eq_of_mem_set ht' with hold | rfl
    · have hsound := h.tasks t' hold
      exact ⟨hsound.careful, hsound.bumped, hsound.unspoiled⟩
    · have hsound := h.tasks t (List.mem_of_getElem? ht)
      exact ⟨trivial, hsound.bumped, hsound.unspoiled⟩

/-- A statement that only withdraws rows loses no revocation. -/
theorem stand_of_withdrawn (hstand : RevocationsStand s) {access : Access}
    {answer : access.Answer} {write : StatusWrite} (hwrite : access.status_write = some write)
    (hstatus : Withdrawn write.status) : RevocationsStand (s.perform t access answer).1 := by
  intro cache_key row hwithdrawn hrow
  change (access.apply s.database).trusted_cache.get? cache_key = some row at hrow
  rw [get?_status_write hwrite] at hrow
  obtain ⟨before, hbefore, hrow⟩ := Option.map_eq_some_iff.mp hrow
  split at hrow
  · rw [← hrow]
    exact not_trusted_of_withdrawn hstatus
  case isFalse haffected =>
    rw [← hrow]
    refine hstand cache_key before ?_ hbefore
    -- a row that is not affected is not withdrawn now
    rw [perform_withdrawn] at hwithdrawn
    split at hwithdrawn
    case isTrue hwithdraws =>
      obtain ⟨_, _, hwrite', _, hbefore', haffected'⟩ := withdraws_eq_true.mp hwithdraws
      rw [hwrite] at hwrite'
      rw [hbefore] at hbefore'
      obtain rfl := Option.some.inj hwrite'
      obtain rfl := Option.some.inj hbefore'
      exact absurd haffected' haffected
    case isFalse => exact hwithdrawn

/-- An access that leaves the table as it is, and withdraws nothing, loses no revocation. -/
theorem stand_of_quiet (hstand : RevocationsStand s) {access : Access} {answer : access.Answer}
    (hwrite : access.status_write = none)
    (htable : (access.apply s.database).trusted_cache = s.database.trusted_cache) :
    RevocationsStand (s.perform t access answer).1 := by
  intro cache_key row hwithdrawn hrow
  rw [perform_withdrawn, withdraws_of_status_write_none hwrite] at hwithdrawn
  change (access.apply s.database).trusted_cache.get? cache_key = some row at hrow
  rw [htable] at hrow
  exact hstand cache_key row hwithdrawn hrow

/-- A write is late only if it was overtaken. -/
theorem overtaken_of_late (h : Consistent s) (ht : t ∈ s.tasks) {access : Access}
    {k : access.Answer → CacheProg Unit} (hprogram : t.program = .op (.database access) k)
    (hlate : access.Late s) : access.Overtaken s t := by
  have hsound : t.Sound s := h.tasks t ht
  have hpermits : Careful t.program t.seen := hsound.careful
  rw [hprogram] at hpermits
  have hpermits : careful.permits t.seen (.database access) := hpermits.1
  cases access with
  | update_status cache_key status =>
    obtain ⟨htrusted, hwithdrawn⟩ := hlate
    rcases hpermits with hstatus | ⟨_, hseen⟩
    · exact absurd htrusted (not_trusted_of_withdrawn hstatus)
    · cases hlooked : t.seen with
      | none => exact Or.inl hlooked
      | some row =>
        -- a row that was looked up and not withdrawn since is not withdrawn at all
        obtain ⟨rfl, hrow⟩ := hseen row hlooked
        refine Or.inr ((Bool.not_eq_false _).mp ?_)
        intro hovertaken
        exact hwithdrawn (hsound.unspoiled row hlooked hrow hovertaken)
  | put_if_generation row expected_generation =>
    obtain ⟨hcurrent, hwithdrawn⟩ := hlate
    obtain ⟨reached, hreached⟩ := Option.ne_none_iff_exists'.mp hwithdrawn
    refine ⟨reached, hreached, ?_⟩
    rw [hcurrent]
    exact h.reached row.cache_key reached hreached
  | _ => exact trivial

/-- A status that is written back. -/
theorem stand_write_back_iff (h : Consistent s) (hstand : RevocationsStand s)
    {cache_key status : String} {answer : (Access.update_status cache_key status).Answer}
    (hstatus : Trusted status) :
    RevocationsStand (s.perform t (.update_status cache_key status) answer).1 ↔
      ¬ (Access.update_status cache_key status).Late s := by
  -- it withdraws nothing
  have hkept : ∀ key, (s.perform t (.update_status cache_key status) answer).1.withdrawn key =
      s.withdrawn key := by
    intro key
    rw [perform_withdrawn]
    refine if_neg ?_
    intro hwithdraws
    obtain ⟨write, _, hwrite, hwithdrawn, _⟩ := withdraws_eq_true.mp hwithdraws
    cases hwrite
    exact not_trusted_of_withdrawn hwithdrawn hstatus
  have htable : ∀ key, ((Access.update_status cache_key status).apply s.database).trusted_cache.get?
      key = (s.database.trusted_cache.get? key).map (fun row =>
        if decide (key = cache_key) = true then { row with status } else row) := by
    intro key
    have hwrite : (Access.update_status cache_key status).status_write =
        some ⟨status, fun key _ => key = cache_key⟩ := rfl
    exact get?_status_write hwrite
  constructor
  · rintro hpost ⟨_, hwithdrawn⟩
    obtain ⟨row, hrow⟩ := Option.ne_none_iff_exists'.mp (h.present cache_key hwithdrawn)
    refine hpost cache_key { row with status } ?_ ?_ hstatus
    · rw [hkept]
      exact hwithdrawn
    · show ((Access.update_status cache_key status).apply s.database).trusted_cache.get? _ = _
      rw [htable, hrow, Option.map_some, if_pos (decide_eq_true rfl)]
  · intro hcurrent key row hwithdrawn hrow
    rw [hkept] at hwithdrawn
    change ((Access.update_status cache_key status).apply s.database).trusted_cache.get? key =
      some row at hrow
    rw [htable] at hrow
    obtain ⟨before, hbefore, hrow⟩ := Option.map_eq_some_iff.mp hrow
    split at hrow
    case isTrue hkey =>
      obtain rfl := of_decide_eq_true hkey
      exact absurd ⟨hstatus, hwithdrawn⟩ hcurrent
    case isFalse =>
      rw [← hrow]
      exact hstand key before hwithdrawn hbefore

/-- A row that is stored. -/
theorem stand_put_iff (hstand : RevocationsStand s) {row : CacheRow}
    {expected_generation : Nat}
    {answer : (Access.put_if_generation row expected_generation).Answer}
    (htrusted : Trusted row.status) :
    RevocationsStand (s.perform t (.put_if_generation row expected_generation) answer).1 ↔
      ¬ (Access.put_if_generation row expected_generation).Late s := by
  by_cases hgeneration : expected_generation = s.database.generation
  · constructor
    · rintro hpost ⟨_, hwithdrawn⟩
      refine hpost row.cache_key row.toCacheColumns ?_ ?_ htrusted
      · rw [perform_withdrawn, withdraws_of_status_write_none rfl]
        exact hwithdrawn
      · exact (get?_put hgeneration).trans (if_pos rfl)
    · intro hcurrent cache_key stored hwithdrawn hstored
      rw [perform_withdrawn, withdraws_of_status_write_none rfl] at hwithdrawn
      change s.withdrawn cache_key ≠ none at hwithdrawn
      change ((Access.put_if_generation row expected_generation).apply
        s.database).trusted_cache.get? cache_key = some stored at hstored
      rw [get?_put hgeneration] at hstored
      split at hstored
      case isTrue hkey =>
        rw [hkey] at hwithdrawn
        exact absurd ⟨hgeneration, hwithdrawn⟩ hcurrent
      case isFalse => exact hstand cache_key stored hwithdrawn hstored
  · -- a store that has been overtaken writes nothing
    refine iff_of_true ?_ (fun hlate => hgeneration hlate.1)
    refine stand_of_quiet hstand rfl ?_
    rw [apply_put_stale hgeneration]

theorem stand_perform_iff (h : Consistent s) (hstand : RevocationsStand s) (ht : t ∈ s.tasks)
    {access : Access} {answer : access.Answer} {k : access.Answer → CacheProg Unit}
    (hprogram : t.program = .op (.database access) k) :
    RevocationsStand (s.perform t access answer).1 ↔ ¬ access.Late s := by
  have hpermits : Careful t.program t.seen := (h.tasks t ht).careful
  rw [hprogram] at hpermits
  have hpermits : careful.permits t.seen (.database access) := hpermits.1
  cases access with
  | update_status cache_key status =>
    rcases hpermits with hwithdrawn | ⟨htrusted, _⟩
    · exact iff_of_true (stand_of_withdrawn hstand rfl hwithdrawn)
        (fun hlate => not_trusted_of_withdrawn hwithdrawn hlate.1)
    · exact stand_write_back_iff h hstand htrusted
  | put_if_generation row expected_generation => exact stand_put_iff hstand hpermits
  | mark_status_by_resolver _ _ =>
    exact iff_of_true (stand_of_withdrawn hstand rfl (hpermits _ rfl)) not_false
  | mark_status_by_root _ _ =>
    exact iff_of_true (stand_of_withdrawn hstand rfl (hpermits _ rfl)) not_false
  | mark_stale_versions _ _ =>
    exact iff_of_true (stand_of_withdrawn hstand rfl (hpermits _ rfl)) not_false
  | _ => exact iff_of_true (stand_of_quiet hstand rfl rfl) not_false

theorem stand_called (hstand : RevocationsStand s) (cache_key : String) :
    RevocationsStand (s.called cache_key) := by
  intro key row hwithdrawn hrow
  refine hstand key row ?_ hrow
  change (if key = cache_key then none else s.withdrawn key) ≠ none at hwithdrawn
  split at hwithdrawn
  · exact absurd rfl hwithdrawn
  · exact hwithdrawn

/-- A step of a system whose revocations stand keeps them exactly when it writes nothing late. -/
theorem stand_iff_current {step : CacheStep} (h : Consistent s) (hstand : RevocationsStand s)
    (hstep : cache_step P fromisoformat s step = some s') :
    RevocationsStand s' ↔ WritesCurrent s step := by
  cases step with
  | begin_call manager call =>
    obtain rfl := Option.some.inj hstep
    exact iff_of_true hstand trivial
  | work i env =>
    obtain ⟨t, ht, hcase⟩ := work_cases hstep
    rcases hcase with ⟨access, k, answer, hprogram, _, rfl⟩ | ⟨cache_key, k, hprogram, rfl⟩
    · have hiff : RevocationsStand (s.perform t access answer).1 ↔ ¬ access.Late s :=
        stand_perform_iff h hstand (List.mem_of_getElem? ht) hprogram
      constructor
      · intro hpost t' access' k' ht' hprogram'
        obtain rfl := Option.some.inj (ht.symm.trans ht')
        rw [hprogram] at hprogram'
        cases hprogram'
        exact hiff.mp hpost
      · intro hcurrent
        exact hiff.mpr (hcurrent t access k ht hprogram)
    · refine iff_of_true (stand_called hstand cache_key) ?_
      intro t' access' k' ht' hprogram'
      obtain rfl := Option.some.inj (ht.symm.trans ht')
      rw [hprogram] at hprogram'
      cases hprogram'
  | raise i =>
    obtain ⟨t, _, heq⟩ := Option.bind_eq_some_iff.mp hstep
    obtain rfl := Option.some.inj heq
    exact iff_of_true hstand trivial

end Steps

/-! ## §6. Whole runs. -/

section Runs

variable (P : Platform) (fromisoformat : IsoReader) (owners : Nat → String)

/-- A revocation is never lost in a run exactly when the run writes nothing late. -/
theorem revocations_stand_iff (steps : List CacheStep) :
    (cache_system P fromisoformat owners).Always RevocationsStand steps ↔
      (cache_system P fromisoformat owners).Along WritesCurrent steps := by
  refine Machine.always_iff_along (I := Consistent) ?_ ?_ ?_ ?_ ?_ steps
  · exact ⟨fun _ ht => (nomatch ht), fun _ _ hreached => (nomatch hreached),
      fun _ hwithdrawn => absurd rfl hwithdrawn⟩
  · intro s step s' h hstand hstep
    exact consistent_step h hstand hstep
  · intro cache_key row hwithdrawn
    exact absurd rfl hwithdrawn
  · intro s step hdisabled
    cases step with
    | begin_call manager call => cases hdisabled
    | raise i => exact trivial
    | work i env =>
      intro t access k ht hprogram
      -- the writes are never refused
      cases access with
      | update_status cache_key status =>
        cases (work_of_answer ht hprogram rfl).symm.trans hdisabled
      | put_if_generation row expected_generation =>
        cases (work_of_answer ht hprogram rfl).symm.trans hdisabled
      | _ => exact not_false
  · intro s step s' h hstand hstep
    exact stand_iff_current h hstand hstep

end Runs

/-! ## §7. A hit undoes a revocation. -/

/-- The recorded digest of one endpoint. -/
def race_recording : Recording where
  digests := [
    ("endpoint-v2:\x7b\"ip\":\"192.0.2.88\",\"port\":53,\"transport\":\"udp\"\x7d",
      "0x75e757cabd7d93c90c74bb890805adeaf887dab684dc34792f6a7f7121f3824b"),
    ("trusted-cache-v1|operator-a/race|192.0.2.88|53|udp|||1",
      "0x644f9286094dcbbe305190a523f650750b406908394bdc3eda24e7fa4e5d2cdc")]
  keys := []
  signatures := []

/-- The platform that answers with it. -/
def race_platform : Platform :=
  { race_recording.platform with
    to_lowercase := fun text => String.ofList (text.toList.map Char.toLower)
    parse_ip := fun text => if text = "192.0.2.88" then some text else none
    canonical_url := fun _ => none }

/-- The times of the run, five minutes and a day after it begins. -/
def race_clock : IsoReader := fun text =>
  [("2026-07-01T00:05:00+00:00", 1782864300000000),
    ("2026-07-02T00:00:00+00:00", 1782950400000000)].lookup text

/-- The endpoint of the race. -/
def race_endpoint : ResolverEndpoint where
  endpoint_id := .null
  ip := .string "192.0.2.88"
  port := .number 53
  transport := "udp"
  uri := .null
  server_name := .null
  alpn := []

/-- What its verifier finds. -/
def race_found : Verified where
  resolver_id := "operator-a/race"
  object_hash := "0x01"
  object_version := 1
  state_root := "0x02"
  soft_expire_at := "2026-07-01T00:05:00Z"
  hard_expire_at := "2026-07-02T00:00:00Z"
  evidence := [("resolver_status", .string "ACTIVE")]

/-- Its lookup key. -/
def race_key : String := "0x644f9286094dcbbe305190a523f650750b406908394bdc3eda24e7fa4e5d2cdc"

/-- A wrapper stores an endpoint and hits it again past its soft expiry; before the status is
written back, the watcher of another process revokes the resolver. -/
def race_run : List CacheStep :=
  [.begin_call 0 (.verify_endpoint race_endpoint 1782864000000000 "2026-07-01T00:00:00Z"),
    .work 0 {}, .work 0 {}, .work 0 {}, .work 0 {},
    .work 0 { cold := .ok race_found }, .work 0 {}, .work 0 {},
    .begin_call 0 (.verify_endpoint race_endpoint 1782864600000000 "2026-07-01T00:10:00Z"),
    .work 1 {}, .work 1 { newest := some race_key }, .work 1 {},
    .begin_call 1 (.invalidate_resolver "operator-a/race"),
    .work 2 {}, .work 2 {}, .work 2 {},
    .work 1 {}]

/-- Two processes with a cache manager each. -/
def race_owners : Nat → String
  | 0 => "wrapper"
  | _ => "event-watcher"

/-- The status of a row that stands withdrawn. -/
def status_of (cache_key : String) (s : CacheSystem) : Option String :=
  (s.withdrawn cache_key).bind
    (fun _ => (s.database.trusted_cache.get? cache_key).map CacheColumns.status)

theorem race_refreshing : ((cache_system race_platform race_clock race_owners).run
    race_run).bind (status_of race_key) = some "REFRESHING" := by
  decide +kernel

/-- The row is revoked before the last step, and trusted after it. -/
theorem revocation_lost : ((cache_system race_platform race_clock race_owners).run
      race_run.dropLast).bind (status_of race_key) = some "REVOKED" ∧
    ¬ (cache_system race_platform race_clock race_owners).Always RevocationsStand race_run := by
  refine ⟨by decide +kernel, ?_⟩
  intro hall
  obtain ⟨s, hrun, hstatus⟩ := Option.bind_eq_some_iff.mp race_refreshing
  obtain ⟨reached, hreached, hstatus⟩ := Option.bind_eq_some_iff.mp hstatus
  obtain ⟨row, hrow, hstatus⟩ := Option.map_eq_some_iff.mp hstatus
  have hstand : RevocationsStand s := hall race_run [] s (List.append_nil _).symm hrun
  refine hstand race_key row ?_ hrow (Or.inr hstatus)
  rw [hreached]
  exact Option.some_ne_none reached

end ResolverIdentity.V1.Cache
