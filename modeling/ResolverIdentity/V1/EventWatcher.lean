/-
  ResolverIdentity.V1.EventWatcher: the poller of the registry's events.

  `chain/event_watcher.py`, over a chain that is not reorganised and whose head polls never
  see go back.  A poll says which calls of the node and which invalidations of the cache
  raise; the invalidations that completed, and the heads at which the whole cache was
  expired, are kept beside the watcher's own state.  An audit log that raises is not
  modelled.

  Main results:
    * `handle_all_cases`: the events of a batch up to the first that raises;
    * `caught_up_of_along`: what a poll that returns has covered;
    * `no_event_lost_iff`: no event is lost exactly when each invalidation that raises is
      followed by what the next poll takes for a reorganisation;
    * `failed_revocation_lost`: a revocation that is never applied.
-/
import Mathlib.Data.List.Sort
import Mathlib.Data.Prod.Lex
import Mathlib.Data.String.Basic
import ResolverIdentity.Library.Machine

namespace ResolverIdentity.V1.Watcher

open Library

/-! ## §1. Events and what they invalidate. -/

/-- `args` of an event, either spelling of a name standing for both. -/
structure EventArgs where
  resolver_id : Option String := none
  resolver_id_key : Option String := none
  state_root : Option String := none
  object_version : Option Nat := none
  endpoint_key : Option String := none
  endpoint : Option String := none
  deriving DecidableEq

/-- A log entry of the contract. -/
structure Event where
  event : String
  args : EventArgs
  block_number : Nat
  log_index : Nat
  deriving DecidableEq

/-- The methods of `CacheManager` that `handle_event` calls. -/
inductive CacheCall where
  | invalidate_resolver (resolver_id status : String)
  | invalidate_resolver_key (resolver_id_key status : String)
  | invalidate_root (state_root status : String)
  | invalidate_object_version (resolver_id : String) (object_version : Nat)
  | invalidate_object_version_by_resolver_key (resolver_id_key : String) (object_version : Nat)
  | invalidate_endpoint_key (endpoint_key status : String)
  | invalidate_endpoint (endpoint status : String)
  deriving DecidableEq

/-- The events that are polled, in order. -/
def EVENT_NAMES : List String := ["ResolverPublished", "ResolverUpdated", "ResolverRevoked",
  "RootRevoked", "EndpointBound", "EndpointUnbound"]

/-- A text that is there and not empty, as an `if` of the source takes it. -/
def given (text : Option String) : Option String := text.filter (fun text => text ≠ "")

/-- The invalidation an event asks for. -/
def cache_call (e : Event) : Option CacheCall :=
  if e.event = "ResolverRevoked" then
    match given e.args.resolver_id, given e.args.resolver_id_key with
    | some resolver_id, _ => some (.invalidate_resolver resolver_id "REVOKED")
    | none, some resolver_id_key => some (.invalidate_resolver_key resolver_id_key "REVOKED")
    | none, none => none
  else if e.event = "RootRevoked" then
    (given e.args.state_root).map (fun state_root => .invalidate_root state_root "REVOKED")
  else if e.event = "ResolverUpdated" then
    -- of two spellings joined by `or`, a version 0 counts as absent
    match e.args.object_version.filter (fun version => version ≠ 0), given e.args.resolver_id,
        given e.args.resolver_id_key with
    | some object_version, some resolver_id, _ =>
      some (.invalidate_object_version resolver_id object_version)
    | some object_version, none, some resolver_id_key =>
      some (.invalidate_object_version_by_resolver_key resolver_id_key object_version)
    | _, _, _ => none
  else if e.event = "EndpointUnbound" then
    match given e.args.endpoint_key, given e.args.endpoint with
    | some endpoint_key, _ => some (.invalidate_endpoint_key endpoint_key "EXPIRED")
    | none, some endpoint => some (.invalidate_endpoint endpoint "EXPIRED")
    | none, none => none
  else if e.event = "EndpointBound" then
    (given e.args.endpoint_key).map (fun key => .invalidate_endpoint_key key "EXPIRED")
  else none

/-- The key of `_processed`. -/
def event_id (e : Event) : String × Nat := (e.event, e.block_number * 1000000 + e.log_index)

/-- The key the events of a batch are sorted by. -/
def sort_key (e : Event) : ℕ ×ₗ ℕ ×ₗ String :=
  toLex (e.block_number, toLex (e.log_index, e.event))

/-- The order in which a batch is worked off. -/
abbrev SortLe (a b : Event) : Prop := sort_key a ≤ sort_key b

/-- The logs of a chain, and the hash of each of its blocks. -/
structure Chain where
  logs : List Event
  block_hash : Nat → String

/-- No two logs of one name share a place: a block has fewer than 1 000 000 logs. -/
def Chain.Indexed (chain : Chain) : Prop :=
  ∀ a ∈ chain.logs, ∀ b ∈ chain.logs, event_id a = event_id b → a = b

/-! ## §2. The watcher. -/

/-- The settings of a watcher. -/
structure EventWatcher where
  confirmations : Nat
  reorg_safety_blocks : Nat
  retry_count : Nat

/-- What a watcher writes down between two polls. -/
structure WatcherState where
  last_processed_block : Int
  last_seen_block_hash : Option String

/-- A watcher between two polls. -/
structure Watching where
  state : WatcherState
  /-- `_processed`. -/
  processed : List (String × Nat)
  /-- The last head a poll has seen. -/
  head : Nat
  /-- The invalidations that completed, each with its event. -/
  applied : List (Event × CacheCall)
  /-- The heads at which the whole cache was expired. -/
  expired : List Nat

/-- The calls of the node. -/
inductive Rpc where
  | detect
  | logs (event_name : String)
  | block_hash

/-- One call of `poll_web3_events`, with what raises in it. -/
structure Poll where
  /-- `none` when the head cannot be read. -/
  head : Option Nat
  /-- Whether an attempt of a call raises. -/
  rpc_fails : Rpc → Nat → Bool
  expire_fails : Bool
  call_fails : Event → Bool

/-- What one poll reports. -/
structure PollResult where
  from_block : Int
  to_block : Int
  events : Nat
  reorg : Bool
  deriving DecidableEq

/-- `for _ in range(self.retry_count)`: the first attempt that does not raise answers. -/
def with_retry {α : Type} (retry_count : Nat) (fails : Nat → Bool) (answer : α) : Option α :=
  if (List.range retry_count).any (fun attempt => !fails attempt) then some answer else none

/-- The hash `_detect_reorg` compares with, if it compares. -/
def compared_hash (state : WatcherState) : Option String :=
  if state.last_processed_block ≤ 0 then none else given state.last_seen_block_hash

/-- What `_detect_reorg` answers once the node does. -/
def reorg_seen (chain : Chain) (state : WatcherState) : Bool :=
  match compared_hash state with
  | none => false
  | some last_seen => chain.block_hash state.last_processed_block.toNat != last_seen

variable (c : EventWatcher) (chain : Chain)

/-- Has the block seen last changed its hash? -/
def detect_reorg (p : Poll) (state : WatcherState) : Option Bool :=
  match compared_hash state with
  | none => some false
  | some last_seen =>
    (with_retry c.retry_count (p.rpc_fails .detect)
      (chain.block_hash state.last_processed_block.toNat)).map (fun hash => hash != last_seen)

/-- Start again some blocks back. -/
def rollback_for_reorg (w : Watching) (new_safe_block : Int) : Watching :=
  { w with
    state := ⟨max 0 (new_safe_block - c.reorg_safety_blocks), none⟩
    processed := [] }

/-- `get_logs` of one event, between two blocks. -/
def get_logs (event_name : String) (from_block to_block : Int) : List Event :=
  chain.logs.filter (fun e =>
    e.event = event_name ∧ from_block ≤ e.block_number ∧ (e.block_number : Int) ≤ to_block)

/-- The logs of every event, sorted. -/
def fetch (p : Poll) (from_block to_block : Int) : Option (List Event) :=
  (EVENT_NAMES.mapM (fun event_name =>
    with_retry c.retry_count (p.rpc_fails (.logs event_name))
      (get_logs chain event_name from_block to_block))).map
    (fun logs => logs.flatten.insertionSort SortLe)

/-- `max(last_processed_block, block_number)`; block 0 counts as no block number. -/
def advance (last_processed_block : Int) (e : Event) : Int :=
  if e.block_number = 0 then last_processed_block else max last_processed_block e.block_number

/-- Whether the event was handled, or its invalidation raised. -/
def handle_event (p : Poll) (w : Watching) (e : Event) : Bool × Watching :=
  if event_id e ∈ w.processed then (true, w)
  else
    let w := { w with processed := event_id e :: w.processed }
    let state := { w.state with last_processed_block := advance w.state.last_processed_block e }
    match cache_call e with
    | none => (true, { w with state })
    | some call =>
      if p.call_fails e then (false, w)
      else (true, { w with state, applied := (e, call) :: w.applied })

/-- The loop over the events; a raised one ends it. -/
def handle_all (p : Poll) : List Event → Watching → Bool × Watching
  | [], w => (true, w)
  | e :: rest, w =>
    match handle_event p w e with
    | (false, w) => (false, w)
    | (true, w) => handle_all p rest w

/-- The progress a poll records once its events were handled. -/
def record_progress (p : Poll) (result : PollResult) : Bool × Watching →
    Option PollResult × Watching
  | (false, w) => (none, w)
  | (true, w) =>
    let last_processed_block := max w.state.last_processed_block result.to_block
    match with_retry c.retry_count (p.rpc_fails .block_hash)
        (chain.block_hash result.to_block.toNat) with
    | none => (none, { w with state := { w.state with last_processed_block } })
    | some hash => (some result, { w with state := ⟨last_processed_block, some hash⟩ })

/-- The part of a poll after the look for a reorganisation. -/
def poll_blocks (p : Poll) (to_block : Int) (reorg : Bool) (w : Watching) :
    Option PollResult × Watching :=
  let from_block := w.state.last_processed_block + 1
  if to_block < from_block then (some ⟨from_block, to_block, 0, reorg⟩, w)
  else match fetch c chain p from_block to_block with
    | none => (none, w)
    | some events =>
      record_progress c chain p ⟨from_block, to_block, events.length, reorg⟩
        (handle_all p events w)

/-- `none` for a poll that raises. -/
def poll_web3_events (w : Watching) (p : Poll) : Option PollResult × Watching :=
  match p.head with
  | none => (none, w)
  | some head =>
    let w := { w with head }
    let to_block : Int := head - c.confirmations
    if to_block < 0 then
      (some ⟨w.state.last_processed_block + 1, to_block, 0, false⟩, w)
    else match detect_reorg c chain p w.state with
      | none => (none, w)
      | some true =>
        if p.expire_fails then (none, w)
        else
          let w := { w with expired := head :: w.expired }
          poll_blocks c chain p to_block true
            (rollback_for_reorg c w w.state.last_processed_block)
      | some false => poll_blocks c chain p to_block false w

/-- A watcher that is polled again and again; heads never go back. -/
def machine (start : WatcherState) : Machine Watching Poll where
  init := ⟨start, [], 0, [], []⟩
  step := fun w p =>
    if ∀ head ∈ p.head, w.head ≤ head then some (poll_web3_events c chain w p).2 else none

/-! ## §3. What a poll is asked for. -/

section Batch

variable {c chain} {p : Poll} {w : Watching}

theorem with_retry_of_quiet {α : Type} {retry_count : Nat} (h : 0 < retry_count) (answer : α) :
    with_retry retry_count (fun _ => false) answer = some answer := by
  unfold with_retry
  refine if_pos ?_
  rw [List.any_eq_true]
  exact ⟨0, List.mem_range.mpr h, rfl⟩

theorem retry_pos {α : Type} {retry_count : Nat} {fails : Nat → Bool} {answer a : α}
    (h : with_retry retry_count fails answer = some a) : 0 < retry_count := by
  unfold with_retry at h
  split at h
  case isTrue hany =>
    obtain ⟨attempt, hattempt, _⟩ := List.any_eq_true.mp hany
    have hlt := List.mem_range.mp hattempt
    omega
  case isFalse => cases h

theorem with_retry_eq_some {α : Type} {retry_count : Nat} {fails : Nat → Bool} {answer a : α}
    (h : with_retry retry_count fails answer = some a) : a = answer := by
  unfold with_retry at h
  split at h
  · exact (Option.some.inj h).symm
  · cases h

/-- An event that asks for an invalidation is one of those polled. -/
theorem name_of_cache_call {e : Event} (h : cache_call e ≠ none) : e.event ∈ EVENT_NAMES := by
  unfold cache_call at h
  unfold EVENT_NAMES
  by_cases h₁ : e.event = "ResolverRevoked"
  · simp [h₁]
  by_cases h₂ : e.event = "RootRevoked"
  · simp [h₂]
  by_cases h₃ : e.event = "ResolverUpdated"
  · simp [h₃]
  by_cases h₄ : e.event = "EndpointUnbound"
  · simp [h₄]
  by_cases h₅ : e.event = "EndpointBound"
  · simp [h₅]
  rw [if_neg h₁, if_neg h₂, if_neg h₃, if_neg h₄, if_neg h₅] at h
  exact absurd rfl h

theorem mem_get_logs {event_name : String} {from_block to_block : Int} {e : Event} :
    e ∈ get_logs chain event_name from_block to_block ↔ e ∈ chain.logs ∧
      e.event = event_name ∧ from_block ≤ e.block_number ∧ (e.block_number : Int) ≤ to_block := by
  unfold get_logs
  rw [List.mem_filter, decide_eq_true_iff]

theorem mapM_with_retry {α β : Type} {retry_count : Nat} {fails : α → Nat → Bool}
    {answer : α → β} {items : List α} : ∀ {out : List β},
      items.mapM (fun item => with_retry retry_count (fails item) (answer item)) = some out →
        out = items.map answer := by
  induction items with
  | nil =>
    intro out h
    exact (Option.some.inj h).symm
  | cons item rest ih =>
    intro out h
    rw [List.mapM_cons] at h
    obtain ⟨first, hfirst, h⟩ := Option.bind_eq_some_iff.mp h
    obtain ⟨later, hlater, h⟩ := Option.bind_eq_some_iff.mp h
    rw [← Option.some.inj h, List.map_cons, with_retry_eq_some hfirst, ih hlater]

/-- The events a poll is handed are those of its blocks, in order. -/
theorem fetch_eq_some {from_block to_block : Int} {events : List Event}
    (h : fetch c chain p from_block to_block = some events) :
    (∀ e, e ∈ events ↔ e ∈ chain.logs ∧ e.event ∈ EVENT_NAMES ∧ from_block ≤ e.block_number ∧
      (e.block_number : Int) ≤ to_block) ∧
    events.Pairwise (fun a b => a.block_number ≤ b.block_number) := by
  unfold fetch at h
  obtain ⟨logs, hlogs, hevents⟩ := Option.map_eq_some_iff.mp h
  have hall := mapM_with_retry hlogs
  rw [← hevents]
  constructor
  · intro e
    rw [List.mem_insertionSort, hall, List.mem_flatten]
    constructor
    · intro hmem
      obtain ⟨part, hpart, he⟩ := hmem
      obtain ⟨name, hname, heq⟩ := List.mem_map.mp hpart
      rw [← heq, mem_get_logs] at he
      exact ⟨he.1, he.2.1 ▸ hname, he.2.2⟩
    · intro hmem
      exact ⟨_, List.mem_map_of_mem hmem.2.1, mem_get_logs.mpr ⟨hmem.1, rfl, hmem.2.2⟩⟩
  · have : Std.Total SortLe := ⟨fun a b => le_total (sort_key a) (sort_key b)⟩
    have : IsTrans Event SortLe := ⟨fun a b d => le_trans⟩
    refine (List.pairwise_insertionSort SortLe logs.flatten).imp ?_
    intro a b hle
    rcases Prod.Lex.le_iff.mp hle with hlt | hsame
    · exact le_of_lt hlt
    · exact le_of_eq hsame.1

end Batch

/-! ## §4. Handling a batch. -/

/-- The invalidation an event asks for raises. -/
def Fails (p : Poll) (w : Watching) (e : Event) : Prop :=
  event_id e ∉ w.processed ∧ cache_call e ≠ none ∧ p.call_fails e = true

/-- The last block after some events were handled; those marked before are passed over. -/
def reached : List (String × Nat) → List Event → Int → Int
  | _, [], last_processed_block => last_processed_block
  | processed, e :: rest, last_processed_block =>
    if event_id e ∈ processed then reached processed rest last_processed_block
    else reached (event_id e :: processed) rest (advance last_processed_block e)

/-- What is left once some events were handled. -/
structure Handled (w w' : Watching) (events : List Event) : Prop where
  last_block : w'.state.last_processed_block =
    reached w.processed events w.state.last_processed_block
  last_seen : w'.state.last_seen_block_hash = w.state.last_seen_block_hash
  head : w'.head = w.head
  expired : w'.expired = w.expired
  processed : ∀ id, id ∈ w'.processed ↔ id ∈ w.processed ∨ id ∈ events.map event_id
  kept : ∀ entry ∈ w.applied, entry ∈ w'.applied
  /-- An event that was marked before is not applied. -/
  applied : ∀ e call, (e, call) ∈ w'.applied →
    (e, call) ∈ w.applied ∨ (e ∈ events ∧ event_id e ∉ w.processed)
  done : ∀ e ∈ events, ∀ call, cache_call e = some call →
    (e, call) ∈ w'.applied ∨ event_id e ∈ w.processed

section Handling

variable {p : Poll} {w w₁ w' : Watching} {e : Event} {events rest : List Event}

theorem advance_le {last : Int} {bound : Int} (hlast : last ≤ bound)
    (he : (e.block_number : Int) ≤ bound) : advance last e ≤ bound := by
  unfold advance
  split <;> omega

theorem reached_le {bound : Int} (hall : ∀ e ∈ events, (e.block_number : Int) ≤ bound) :
    ∀ {processed : List (String × Nat)} {last : Int}, last ≤ bound →
      reached processed events last ≤ bound := by
  induction events with
  | nil => exact fun hlast => hlast
  | cons e rest ih =>
    intro processed last hlast
    have hrest := fun later hlater => hall later (List.mem_cons_of_mem e hlater)
    unfold reached
    split
    · exact ih hrest hlast
    · exact ih hrest (advance_le hlast (hall e List.mem_cons_self))

theorem reached_marked {processed : List (String × Nat)} {last : Int}
    (h : event_id e ∈ processed) :
    reached processed (e :: rest) last = reached processed rest last := by
  rw [reached, if_pos h]

theorem reached_new {processed : List (String × Nat)} {last : Int}
    (h : event_id e ∉ processed) : reached processed (e :: rest) last =
      reached (event_id e :: processed) rest (advance last e) := by
  rw [reached, if_neg h]

/-- Only which events are marked matters. -/
theorem reached_congr : ∀ {processed processed' : List (String × Nat)} {last : Int},
    (∀ id, id ∈ processed ↔ id ∈ processed') →
      reached processed events last = reached processed' events last := by
  induction events with
  | nil => exact fun _ => rfl
  | cons d rest ih =>
    intro processed processed' last hiff
    by_cases hd : event_id d ∈ processed
    · rw [reached_marked hd, reached_marked ((hiff _).mp hd)]
      exact ih hiff
    · rw [reached_new hd, reached_new (fun h => hd ((hiff _).mpr h))]
      refine ih ?_
      intro id
      rw [List.mem_cons, List.mem_cons, hiff]

theorem Handled.nil (w : Watching) : Handled w w [] where
  last_block := rfl
  last_seen := rfl
  head := rfl
  expired := rfl
  processed := fun id => by simp
  kept := fun _ h => h
  applied := fun _ _ h => Or.inl h
  done := fun _ h => (nomatch h)

/-- One event that does not raise. -/
theorem handle_event_handled (h : ¬ Fails p w e) :
    ∃ w', handle_event p w e = (true, w') ∧ Handled w w' [e] := by
  unfold handle_event
  by_cases hmarked : event_id e ∈ w.processed
  · refine ⟨w, if_pos hmarked, ?_⟩
    constructor
    · show _ = reached w.processed [e] w.state.last_processed_block
      rw [reached, if_pos hmarked, reached]
    · rfl
    · rfl
    · rfl
    · intro id
      simp only [List.map_cons, List.map_nil, List.mem_singleton]
      constructor
      · exact Or.inl
      · rintro (hid | heq)
        · exact hid
        · rw [heq]
          exact hmarked
    · exact fun _ h => h
    · exact fun _ _ h => Or.inl h
    · intro d hd call _
      rw [List.mem_singleton.mp hd]
      exact Or.inr hmarked
  · rw [if_neg hmarked]
    have hreached : advance w.state.last_processed_block e =
        reached w.processed [e] w.state.last_processed_block := by
      rw [reached, if_neg hmarked, reached]
    have hids : ∀ id, id ∈ event_id e :: w.processed ↔
        id ∈ w.processed ∨ id ∈ [e].map event_id := by
      intro id
      simp [or_comm]
    cases hcall : cache_call e with
    | none =>
      refine ⟨_, rfl, ⟨hreached, rfl, rfl, rfl, hids, fun _ h => h, fun _ _ h => Or.inl h, ?_⟩⟩
      intro d hd call heq
      rw [List.mem_singleton.mp hd, hcall] at heq
      cases heq
    | some call =>
      have hfails : p.call_fails e = false := by
        by_contra hne
        exact h ⟨hmarked, by rw [hcall]; exact Option.some_ne_none call,
          (Bool.not_eq_false _).mp hne⟩
      refine ⟨_, if_neg (by rw [hfails]; exact Bool.false_ne_true), ?_⟩
      refine ⟨hreached, rfl, rfl, rfl, hids, fun _ h => List.mem_cons_of_mem _ h, ?_, ?_⟩
      · intro d call' hmem
        rcases List.mem_cons.mp hmem with heq | hold
        · rw [(Prod.mk.inj heq).1]
          exact Or.inr ⟨List.mem_singleton.mpr rfl, hmarked⟩
        · exact Or.inl hold
      · intro d hd call' heq
        rw [List.mem_singleton.mp hd] at heq ⊢
        rw [hcall] at heq
        rw [← Option.some.inj heq]
        exact Or.inl List.mem_cons_self

theorem handle_event_fails (h : Fails p w e) :
    handle_event p w e = (false, { w with processed := event_id e :: w.processed }) := by
  obtain ⟨hnew, hcall, hfails⟩ := h
  unfold handle_event
  rw [if_neg hnew]
  cases hcase : cache_call e with
  | none => exact absurd hcase hcall
  | some call => exact if_pos hfails

/-- An event, and those after it. -/
theorem Handled.cons (hids : ∀ d ∈ rest, event_id d = event_id e → d = e)
    (hfirst : Handled w w₁ [e]) (hrest : Handled w₁ w' rest) : Handled w w' (e :: rest) := by
  have hmarked : ∀ id, id ∈ w₁.processed ↔ id ∈ w.processed ∨ id = event_id e := by
    intro id
    rw [hfirst.processed]
    simp
  constructor
  · -- the first event counts only if it was new
    rw [hrest.last_block, hfirst.last_block]
    by_cases he : event_id e ∈ w.processed
    · rw [reached_marked he, reached_marked he]
      refine reached_congr ?_
      intro id
      rw [hmarked]
      exact ⟨fun h => h.elim (fun hold => hold) (fun heq => heq ▸ he), Or.inl⟩
    · rw [reached_new he, reached_new he]
      refine reached_congr ?_
      intro id
      rw [hmarked, List.mem_cons, or_comm]
  · rw [hrest.last_seen, hfirst.last_seen]
  · rw [hrest.head, hfirst.head]
  · rw [hrest.expired, hfirst.expired]
  · intro id
    rw [hrest.processed, hmarked, List.map_cons, List.mem_cons, or_assoc]
  · intro entry hentry
    exact hrest.kept entry (hfirst.kept entry hentry)
  · -- what was applied was applied by one of them
    intro d call hmem
    rcases hrest.applied d call hmem with hold | ⟨hd, hnew⟩
    · rcases hfirst.applied d call hold with hbefore | ⟨hd, hnew⟩
      · exact Or.inl hbefore
      · exact Or.inr ⟨List.mem_singleton.mp hd ▸ List.mem_cons_self, hnew⟩
    · refine Or.inr ⟨List.mem_cons_of_mem _ hd, ?_⟩
      intro h
      exact hnew ((hmarked _).mpr (Or.inl h))
  · intro d hd call hcall
    rcases List.mem_cons.mp hd with heq | hlater
    · rcases hfirst.done d (List.mem_singleton.mpr heq) call hcall with happlied | hold
      · exact Or.inl (hrest.kept _ happlied)
      · exact Or.inr hold
    · rcases hrest.done d hlater call hcall with happlied | hold
      · exact Or.inl happlied
      · rcases (hmarked _).mp hold with hbefore | hsame
        · exact Or.inr hbefore
        · -- the same event once more
          have heq := hids d hlater hsame
          rcases hfirst.done d (List.mem_singleton.mpr heq) call hcall with happlied | hold
          · exact Or.inl (hrest.kept _ happlied)
          · exact Or.inr hold

/-- A batch is handled as a whole, or up to the first event that raises. -/
theorem handle_all_cases (hids : ∀ a ∈ events, ∀ b ∈ events, event_id a = event_id b → a = b) :
    ∀ w, (∃ w', handle_all p events w = (true, w') ∧ Handled w w' events ∧
        ∀ e ∈ events, ¬ Fails p w e) ∨
      ∃ done e rest w₁, events = done ++ e :: rest ∧ (∀ d ∈ done, ¬ Fails p w d) ∧
        Fails p w e ∧ Handled w w₁ done ∧
        handle_all p events w = (false, { w₁ with processed := event_id e :: w₁.processed }) := by
  induction events with
  | nil =>
    intro w
    exact Or.inl ⟨w, rfl, .nil w, fun _ h => (nomatch h)⟩
  | cons e rest ih =>
    intro w
    have hrest : ∀ a ∈ rest, ∀ b ∈ rest, event_id a = event_id b → a = b := by
      intro a ha b hb
      exact hids a (List.mem_cons_of_mem _ ha) b (List.mem_cons_of_mem _ hb)
    have hfirst : ∀ d ∈ rest, event_id d = event_id e → d = e := by
      intro d hd
      exact hids d (List.mem_cons_of_mem _ hd) e List.mem_cons_self
    by_cases hfails : Fails p w e
    · refine Or.inr ⟨[], e, rest, w, rfl, fun _ h => (nomatch h), hfails, .nil w, ?_⟩
      rw [handle_all, handle_event_fails hfails]
    · obtain ⟨w₁, hhandle, hone⟩ := handle_event_handled hfails
      -- an event raises later only if it raises now: marks are only added
      have hquiet : ∀ {d}, d ∈ rest → ¬ Fails p w₁ d → ¬ Fails p w d := by
        intro d hd hquiet hraises
        by_cases hsame : event_id d = event_id e
        · exact hfails (hfirst d hd hsame ▸ hraises)
        · refine hquiet ⟨?_, hraises.2⟩
          intro hmarked
          rcases (hone.processed _).mp hmarked with hold | hnew
          · exact hraises.1 hold
          · exact hsame (List.mem_singleton.mp hnew)
      have hnone : ∀ {done : List Event}, (∀ d ∈ done, d ∈ rest) →
          (∀ d ∈ done, ¬ Fails p w₁ d) → ∀ d ∈ e :: done, ¬ Fails p w d := by
        intro done hsub hdone d hd
        rcases List.mem_cons.mp hd with heq | hlater
        · rw [heq]
          exact hfails
        · exact hquiet (hsub d hlater) (hdone d hlater)
      -- the rest of the batch starts from what the first event left
      rcases ih hrest w₁ with
        ⟨w', hall, hhandled, hdone⟩ | ⟨done, d, later, w₂, heq, hdone, hraises, hhandled, hall⟩
      · refine Or.inl ⟨w', ?_, hone.cons hfirst hhandled, hnone (fun _ h => h) hdone⟩
        rw [handle_all, hhandle]
        exact hall
      · have hsub : ∀ x ∈ done, x ∈ rest := by
          intro x hx
          rw [heq]
          exact List.mem_append_left _ hx
        refine Or.inr ⟨e :: done, d, later, w₂, by rw [heq, List.cons_append],
          hnone hsub hdone, ?_, hone.cons (fun x hx => hfirst x (hsub x hx)) hhandled, ?_⟩
        · refine ⟨?_, hraises.2⟩
          intro hmarked
          exact hraises.1 ((hone.processed _).mpr (Or.inl hmarked))
        · rw [handle_all, hhandle]
          exact hall

end Handling

/-! ## §5. What a poll leaves. -/

/-- The invalidation an event asks for was applied, or the whole cache was expired since. -/
def Covered (w : Watching) (e : Event) : Prop :=
  ∀ call, cache_call e = some call →
    (e, call) ∈ w.applied ∨ ∃ head ∈ w.expired, e.block_number ≤ head

/-- Every event from a block on is covered, up to the last block processed. -/
def CaughtUp (first : Int) (w : Watching) : Prop :=
  ∀ e ∈ chain.logs, first ≤ e.block_number →
    (e.block_number : Int) ≤ w.state.last_processed_block → Covered w e

/-- An invalidation that raises is of an event the whole cache was expired after, or one before
the first block; or the watcher is left with a block of another hash than the one last seen. -/
def Recoverable (first : Int) (w : Watching) (p : Poll) : Prop :=
  ∀ head events done e rest, p.head = some head → (0 : Int) ≤ head - c.confirmations →
    detect_reorg c chain p w.state = some false →
    fetch c chain p (w.state.last_processed_block + 1) (head - c.confirmations) = some events →
    events = done ++ e :: rest → (∀ d ∈ done, ¬ Fails p w d) → Fails p w e →
      e.block_number < first ∨ (∃ head ∈ w.expired, e.block_number ≤ head) ∨
        reorg_seen chain ⟨reached w.processed done w.state.last_processed_block,
          w.state.last_seen_block_hash⟩ = true

/-- Nothing was passed over: every event that was marked is covered, too. -/
structure Clean (first : Int) (w : Watching) : Prop where
  range : CaughtUp chain first w
  marked : ∀ e ∈ chain.logs, event_id e ∈ w.processed → first ≤ e.block_number → Covered w e

/-- A watcher that covers what it has passed, or that will see a reorganisation. -/
structure Sound (first : Int) (w : Watching) : Prop where
  bound : w.state.last_processed_block ≤ max (first - 1) w.head
  fresh : Clean chain first w ∨
    (reorg_seen chain w.state = true ∧ c.confirmations ≤ w.head)

/-- What a poll leaves, and what it leaves when it returns. -/
structure Polled (first : Int) (head : Nat) (out : Option PollResult × Watching) : Prop where
  head : out.2.head = head
  sound : Sound c chain first out.2
  returned : ∀ result, out.1 = some result → Clean chain first out.2

section Polls

variable {c chain} {first : Int} {p : Poll} {w w₁ w' : Watching} {e : Event}
  {events done rest : List Event}

theorem Covered.handled (h : Covered w e) (hhandled : Handled w w' events) : Covered w' e := by
  intro call hcall
  rcases h call hcall with happlied | hexpired
  · exact Or.inl (hhandled.kept _ happlied)
  · rw [hhandled.expired]
    exact Or.inr hexpired

theorem Covered.congr (h : Covered w e) (happlied : w'.applied = w.applied)
    (hexpired : w'.expired = w.expired) : Covered w' e := by
  intro call hcall
  rw [happlied, hexpired]
  exact h call hcall

/-- What is marked once some events were handled is covered. -/
theorem Clean.handled (hids : chain.Indexed) (h : Clean chain first w)
    (hlogs : ∀ d ∈ done, d ∈ chain.logs) (hhandled : Handled w w' done) :
    ∀ e ∈ chain.logs, event_id e ∈ w'.processed → first ≤ e.block_number → Covered w' e := by
  intro e he hmarked hfirst
  rcases (hhandled.processed _).mp hmarked with hold | hnew
  · exact (h.marked e he hold hfirst).handled hhandled
  · obtain ⟨d, hd, hsame⟩ := List.mem_map.mp hnew
    rw [hids d (hlogs d hd) e he hsame] at hd
    intro call hcall
    rcases hhandled.done e hd call hcall with happlied | hbefore
    · exact Or.inl happlied
    · exact (h.marked e he hbefore hfirst).handled hhandled call hcall

/-- The events of a batch were all handled. -/
theorem Clean.whole_batch (hids : chain.Indexed) (h : Clean chain first w) {to_block : Int}
    (hfetch : fetch c chain p (w.state.last_processed_block + 1) to_block = some events)
    (hhandled : Handled w w' events) {last_seen : Option String} :
    Clean chain first { w' with
      state := ⟨max w'.state.last_processed_block to_block, last_seen⟩ } := by
  obtain ⟨hmem, _⟩ := fetch_eq_some hfetch
  have hmarked := h.handled hids (fun d hd => ((hmem d).mp hd).1) hhandled
  constructor
  · intro e he hfirst hle
    refine Covered.congr (w := w') ?_ rfl rfl
    have hreached : w'.state.last_processed_block ≤
        max w.state.last_processed_block to_block := by
      rw [hhandled.last_block]
      refine reached_le ?_ (le_max_left _ _)
      intro d hd
      exact le_max_of_le_right ((hmem d).mp hd).2.2.2
    by_cases hold : (e.block_number : Int) ≤ w.state.last_processed_block
    · exact (h.range e he hfirst hold).handled hhandled
    · by_cases hcall : cache_call e = none
      · intro call heq
        rw [hcall] at heq
        cases heq
      · have hto : (e.block_number : Int) ≤ to_block := by
          have hle' : (e.block_number : Int) ≤ max w'.state.last_processed_block to_block := hle
          omega
        have hbatch : e ∈ events :=
          (hmem e).mpr ⟨he, name_of_cache_call hcall, by omega, hto⟩
        refine hmarked e he ?_ hfirst
        exact (hhandled.processed _).mpr (Or.inr (List.mem_map_of_mem hbatch))
  · intro e he hmark hfirst
    exact (hmarked e he hmark hfirst).congr rfl rfl

/-- A batch that ends with an event nothing depends on any more. -/
theorem Clean.broken_batch (hids : chain.Indexed) (h : Clean chain first w) {to_block : Int}
    (hfetch : fetch c chain p (w.state.last_processed_block + 1) to_block =
      some (done ++ e :: rest))
    (hhandled : Handled w w₁ done)
    (hcovered : e.block_number < first ∨ ∃ head ∈ w.expired, e.block_number ≤ head) :
    Clean chain first { w₁ with processed := event_id e :: w₁.processed } := by
  obtain ⟨hmem, hsorted⟩ := fetch_eq_some hfetch
  have hlogs : ∀ d ∈ done, d ∈ chain.logs :=
    fun d hd => ((hmem d).mp (List.mem_append_left _ hd)).1
  have hmarked := h.handled hids hlogs hhandled
  have heither : ∀ d : Event, first ≤ d.block_number → d.block_number ≤ e.block_number →
      Covered w₁ d := by
    intro d hfirst hle call _
    rcases hcovered with hbefore | ⟨head, hhead, hexpired⟩
    · omega
    · rw [hhandled.expired]
      exact Or.inr ⟨head, hhead, le_trans hle hexpired⟩
  rw [List.pairwise_append] at hsorted
  obtain ⟨_, hlater, hcross⟩ := hsorted
  have he := (hmem e).mp (List.mem_append_right _ List.mem_cons_self)
  constructor
  · intro d hd hfirst hle
    refine Covered.congr (w := w₁) ?_ rfl rfl
    by_cases hold : (d.block_number : Int) ≤ w.state.last_processed_block
    · exact (h.range d hd hfirst hold).handled hhandled
    · -- the blocks reached are those up to the event's own
      have hreached : reached w.processed done w.state.last_processed_block ≤
          max w.state.last_processed_block e.block_number := by
        refine reached_le ?_ (le_max_left _ _)
        intro x hx
        exact le_max_of_le_right (Int.ofNat_le.mpr (hcross x hx e List.mem_cons_self))
      have hle' : (d.block_number : Int) ≤ w₁.state.last_processed_block := hle
      rw [hhandled.last_block] at hle'
      refine heither d hfirst ?_
      omega
  · intro d hd hmark hfirst
    refine Covered.congr (w := w₁) ?_ rfl rfl
    rcases List.mem_cons.mp hmark with hsame | hold
    · rw [hids d hd e he.1 hsame] at hfirst ⊢
      exact heither e hfirst le_rfl
    · exact hmarked d hd hold hfirst

theorem batch_ids (hids : chain.Indexed) {from_block to_block : Int}
    (hfetch : fetch c chain p from_block to_block = some events) :
    ∀ a ∈ events, ∀ b ∈ events, event_id a = event_id b → a = b := by
  intro a ha b hb
  have hmem := (fetch_eq_some hfetch).1
  exact hids a ((hmem a).mp ha).1 b ((hmem b).mp hb).1

theorem reached_bound {to_block : Int}
    (hbatch : ∀ d ∈ events, (d.block_number : Int) ≤ to_block) (hto : to_block ≤ w.head)
    (hbound : w.state.last_processed_block ≤ max (first - 1) w.head) :
    reached w.processed events w.state.last_processed_block ≤ max (first - 1) w.head := by
  refine reached_le ?_ hbound
  intro d hd
  exact le_max_of_le_right (le_trans (hbatch d hd) hto)

/-- The blocks of a poll, from a watcher that has passed nothing over. -/
theorem poll_blocks_sound (hids : chain.Indexed) {to_block : Int} (reorg : Bool)
    (hclean : Clean chain first w) (hbound : w.state.last_processed_block ≤ max (first - 1) w.head)
    (hto : to_block ≤ w.head) (hconfirmed : c.confirmations ≤ w.head)
    (hraises : ∀ done e rest,
      fetch c chain p (w.state.last_processed_block + 1) to_block = some (done ++ e :: rest) →
      (∀ d ∈ done, ¬ Fails p w d) → Fails p w e →
        e.block_number < first ∨ (∃ head ∈ w.expired, e.block_number ≤ head) ∨
          reorg_seen chain ⟨reached w.processed done w.state.last_processed_block,
            w.state.last_seen_block_hash⟩ = true) :
    Polled c chain first w.head (poll_blocks c chain p to_block reorg w) := by
  by_cases hnone : to_block < w.state.last_processed_block + 1
  · -- no new block has enough confirmations
    have hsame : (poll_blocks c chain p to_block reorg w).2 = w := by
      unfold poll_blocks
      rw [if_pos hnone]
    exact ⟨by rw [hsame], by rw [hsame]; exact ⟨hbound, Or.inl hclean⟩,
      fun _ _ => by rw [hsame]; exact hclean⟩
  · unfold poll_blocks
    simp only [if_neg hnone]
    cases hfetch : fetch c chain p (w.state.last_processed_block + 1) to_block with
    | none => exact ⟨rfl, ⟨hbound, Or.inl hclean⟩, fun _ h => (nomatch h)⟩
    | some events =>
      show Polled c chain first w.head (record_progress c chain p _ (handle_all p events w))
      have hblocks : ∀ d ∈ events, (d.block_number : Int) ≤ to_block :=
        fun d hd => (((fetch_eq_some hfetch).1 d).mp hd).2.2.2
      rcases handle_all_cases (batch_ids hids hfetch) w with ⟨w', hall, hhandled, _⟩ |
        ⟨done, e, rest, w₁, heq, hquiet, hfails, hhandled, hall⟩
      · -- the whole batch was handled, and the progress is recorded
        have hlast : w'.state.last_processed_block ≤ max (first - 1) w.head := by
          rw [hhandled.last_block]
          exact reached_bound hblocks hto hbound
        have hbound' : max w'.state.last_processed_block to_block ≤ max (first - 1) w'.head := by
          rw [hhandled.head]
          omega
        have hclean' : ∀ last_seen, Clean chain first { w' with
            state := ⟨max w'.state.last_processed_block to_block, last_seen⟩ } :=
          fun _ => hclean.whole_batch hids hfetch hhandled
        rw [hall]
        unfold record_progress
        cases with_retry c.retry_count (p.rpc_fails .block_hash)
            (chain.block_hash to_block.toNat) with
        | none => exact ⟨hhandled.head, ⟨hbound', Or.inl (hclean' _)⟩, fun _ h => (nomatch h)⟩
        | some hash =>
          exact ⟨hhandled.head, ⟨hbound', Or.inl (hclean' _)⟩, fun _ _ => hclean' _⟩
      · -- an event raised: it is before the first block, expired, or on a chain that is gone
        rw [heq] at hfetch hblocks
        have hlast : w₁.state.last_processed_block ≤ max (first - 1) w₁.head := by
          rw [hhandled.last_block, hhandled.head]
          exact reached_bound (fun d hd => hblocks d (List.mem_append_left _ hd)) hto hbound
        rw [hall]
        refine ⟨hhandled.head, ⟨hlast, ?_⟩, fun _ h => (nomatch h)⟩
        rcases or_assoc.mpr (hraises done e rest hfetch hquiet hfails) with hcovered | hseen
        · exact Or.inl (hclean.broken_batch hids hfetch hhandled hcovered)
        · refine Or.inr ⟨?_, by rw [hhandled.head]; exact hconfirmed⟩
          rw [← hhandled.last_block, ← hhandled.last_seen] at hseen
          exact hseen

theorem detect_reorg_eq_some {state : WatcherState} {seen : Bool}
    (h : detect_reorg c chain p state = some seen) : seen = reorg_seen chain state := by
  unfold detect_reorg at h
  unfold reorg_seen
  cases hcompared : compared_hash state with
  | none =>
    rw [hcompared] at h
    exact (Option.some.inj h).symm
  | some last_seen =>
    rw [hcompared] at h
    obtain ⟨hash, hhash, heq⟩ := Option.map_eq_some_iff.mp h
    rw [with_retry_eq_some hhash] at heq
    exact heq.symm

/-- After the whole cache was expired, whatever was mined by then is covered. -/
theorem clean_of_expired {head : Nat} (hexpired : head ∈ w.expired)
    (hbound : w.state.last_processed_block ≤ max (first - 1) head) (hnone : w.processed = []) :
    Clean chain first w := by
  constructor
  · intro e _ hfirst hle call _
    exact Or.inr ⟨head, hexpired, by omega⟩
  · intro e _ hmarked
    rw [hnone] at hmarked
    cases hmarked

/-- One poll keeps a watcher sound, and one that returns has passed nothing over. -/
theorem poll_sound (hids : chain.Indexed) (h : Sound c chain first w)
    (henabled : ∀ head ∈ p.head, w.head ≤ head) (hrecoverable : Recoverable c chain first w p) :
    Sound c chain first (poll_web3_events c chain w p).2 ∧
      ∀ result, (poll_web3_events c chain w p).1 = some result →
        Clean chain first (poll_web3_events c chain w p).2 := by
  unfold poll_web3_events
  cases hhead : p.head with
  | none => exact ⟨h, fun _ hresult => (nomatch hresult)⟩
  | some head =>
    have hle : w.head ≤ head := henabled head hhead
    have hbound : w.state.last_processed_block ≤ max (first - 1) head := by
      have hbefore := h.bound
      omega
    have hsound : Sound c chain first { w with head } := by
      refine ⟨hbound, ?_⟩
      rcases h.fresh with hclean | ⟨hseen, hconfirmed⟩
      · exact Or.inl ⟨hclean.range, hclean.marked⟩
      · exact Or.inr ⟨hseen, le_trans hconfirmed hle⟩
    -- too early: nothing has enough confirmations
    by_cases hearly : (head : Int) - c.confirmations < 0
    · simp only [if_pos hearly]
      refine ⟨hsound, fun _ _ => ?_⟩
      rcases hsound.fresh with hclean | ⟨_, hconfirmed⟩
      · exact hclean
      · -- a watcher with something pending has seen a later head
        have hconfirmed' : c.confirmations ≤ head := hconfirmed
        omega
    · simp only [if_neg hearly]
      have hconfirmed : c.confirmations ≤ head := by omega
      cases hdetect : detect_reorg c chain p w.state with
      | none => exact ⟨hsound, fun _ hresult => (nomatch hresult)⟩
      | some seen =>
        cases seen with
        | true =>
          cases p.expire_fails with
          | true => exact ⟨hsound, fun _ hresult => (nomatch hresult)⟩
          | false =>
            -- rolled back, every entry having been expired
            have hback : (rollback_for_reorg c { w with head, expired := head :: w.expired }
                w.state.last_processed_block).state.last_processed_block ≤
                  max (first - 1) head := by
              show max 0 (w.state.last_processed_block - c.reorg_safety_blocks) ≤ _
              omega
            have hpolled := poll_blocks_sound (c := c) (p := p) hids true
              (clean_of_expired List.mem_cons_self hback rfl) hback
              (show (head : Int) - c.confirmations ≤ head by omega) hconfirmed (by
                intro done e rest hfetch _ _
                have he := ((fetch_eq_some hfetch).1 e).mp
                  (List.mem_append_right _ List.mem_cons_self)
                refine Or.inr (Or.inl ⟨head, List.mem_cons_self, ?_⟩)
                omega)
            exact ⟨hpolled.sound, hpolled.returned⟩
        | false =>
          -- no reorganisation: what is marked was handled on this chain
          have hclean : Clean chain first { w with head } := by
            rcases hsound.fresh with hclean | ⟨hseen, _⟩
            · exact hclean
            · have hseen' : reorg_seen chain w.state = true := hseen
              rw [← detect_reorg_eq_some hdetect] at hseen'
              cases hseen'
          have hpolled := poll_blocks_sound (c := c) (p := p) hids false hclean hbound
            (show (head : Int) - c.confirmations ≤ head by omega) hconfirmed (by
              intro done e rest hfetch hquiet hfails
              exact hrecoverable head _ done e rest hhead (by omega) hdetect hfetch rfl
                hquiet hfails)
          exact ⟨hpolled.sound, hpolled.returned⟩

/-- A poll that returns had no invalidation that raises. -/
theorem recoverable_of_returned (hids : chain.Indexed) {result : PollResult}
    (hresult : (poll_web3_events c chain w p).1 = some result) :
    Recoverable c chain first w p := by
  intro head events done e rest hhead hconfirmed hdetect hfetch heq hquiet hfails
  exfalso
  have hmem : e ∈ events := by
    rw [heq]
    exact List.mem_append_right _ List.mem_cons_self
  have hblock := ((fetch_eq_some hfetch).1 e).mp hmem
  unfold poll_web3_events poll_blocks at hresult
  simp only [hhead, if_neg (show ¬ (head : Int) - c.confirmations < 0 by omega), hdetect,
    if_neg (show ¬ (head : Int) - c.confirmations < w.state.last_processed_block + 1 by omega),
    hfetch] at hresult
  rcases handle_all_cases (p := p) (batch_ids hids hfetch) { w with head } with
    ⟨w', _, _, hnone⟩ | ⟨_, _, _, _, _, _, _, _, hall⟩
  · exact hnone e hmem hfails
  · rw [hall] at hresult
    cases hresult

/-! ## §6. Runs. -/

theorem step_eq_some {start : WatcherState} :
    (machine c chain start).step w p = some w' ↔
      (∀ head ∈ p.head, w.head ≤ head) ∧ (poll_web3_events c chain w p).2 = w' := by
  show (if ∀ head ∈ p.head, w.head ≤ head then some (poll_web3_events c chain w p).2 else none) =
    some w' ↔ _
  by_cases h : ∀ head ∈ p.head, w.head ≤ head
  · rw [if_pos h, Option.some.injEq]
    exact ⟨fun heq => ⟨h, heq⟩, fun heq => heq.2⟩
  · rw [if_neg h]
    exact ⟨fun heq => (nomatch heq), fun heq => absurd heq.1 h⟩

theorem sound_of_along (hids : chain.Indexed) {start : WatcherState} {polls : List Poll}
    (halong : (machine c chain start).Along
      (Recoverable c chain (start.last_processed_block + 1)) polls)
    (hrun : (machine c chain start).run polls = some w) :
    Sound c chain (start.last_processed_block + 1) w := by
  refine Machine.invariant_of_along ?_ ?_ halong hrun
  · refine ⟨?_, Or.inl ⟨?_, fun _ _ hmarked => (nomatch hmarked)⟩⟩
    · show start.last_processed_block ≤ max (start.last_processed_block + 1 - 1) (0 : Nat)
      omega
    · intro e _ hfirst hle
      have hle' : (e.block_number : Int) ≤ start.last_processed_block := hle
      omega
  · intro s q s' hs hq hstep
    obtain ⟨henabled, heq⟩ := step_eq_some.mp hstep
    rw [← heq]
    exact (poll_sound hids hs henabled hq).1

/-- **A poll that returns has covered every event it passed**, in a run whose failures can all
be recovered from. -/
theorem caught_up_of_along (hids : chain.Indexed) {start : WatcherState} {polls : List Poll}
    (halong : (machine c chain start).Along
      (Recoverable c chain (start.last_processed_block + 1)) polls)
    (hrun : (machine c chain start).run polls = some w)
    (henabled : ∀ head ∈ p.head, w.head ≤ head)
    {result : PollResult} (hresult : (poll_web3_events c chain w p).1 = some result) :
    CaughtUp chain (start.last_processed_block + 1) (poll_web3_events c chain w p).2 :=
  ((poll_sound hids (sound_of_along hids halong hrun) henabled
    (recoverable_of_returned hids hresult)).2 result hresult).range

/-- An invalidation that was applied is of an event that is marked, unless the whole cache was
expired since. -/
def Recalled (w : Watching) : Prop :=
  ∀ e call, (e, call) ∈ w.applied → e.block_number ≤ w.head ∧
    (event_id e ∈ w.processed ∨ ∃ head ∈ w.expired, e.block_number ≤ head)

theorem Recalled.handled (h : Recalled w) (hhandled : Handled w w' events)
    (hblocks : ∀ d ∈ events, d.block_number ≤ w.head) : Recalled w' := by
  intro e call hmem
  rw [hhandled.head, hhandled.expired, hhandled.processed]
  rcases hhandled.applied e call hmem with hold | ⟨hnew, _⟩
  · obtain ⟨hle, hmarked⟩ := h e call hold
    exact ⟨hle, hmarked.imp_left Or.inl⟩
  · exact ⟨hblocks e hnew, Or.inl (Or.inr (List.mem_map_of_mem hnew))⟩

theorem Recalled.marked {id : String × Nat} (h : Recalled w) :
    Recalled { w with processed := id :: w.processed } := by
  intro e call hmem
  obtain ⟨hle, hmarked⟩ := h e call hmem
  exact ⟨hle, hmarked.imp_left (fun hold => List.mem_cons_of_mem _ hold)⟩

theorem poll_blocks_recalled (hids : chain.Indexed) {to_block : Int} {reorg : Bool}
    (h : Recalled w) (hto : to_block ≤ w.head) :
    Recalled (poll_blocks c chain p to_block reorg w).2 := by
  unfold poll_blocks
  by_cases hnone : to_block < w.state.last_processed_block + 1
  · simp only [if_pos hnone]
    exact h
  · simp only [if_neg hnone]
    cases hfetch : fetch c chain p (w.state.last_processed_block + 1) to_block with
    | none => exact h
    | some events =>
      show Recalled (record_progress c chain p _ (handle_all p events w)).2
      have hblocks : ∀ d ∈ events, d.block_number ≤ w.head := by
        intro d hd
        have hle := (((fetch_eq_some hfetch).1 d).mp hd).2.2.2
        omega
      rcases handle_all_cases (batch_ids hids hfetch) w with ⟨w', hall, hhandled, _⟩ |
        ⟨done, e, rest, w₁, heq, _, _, hhandled, hall⟩
      · rw [hall]
        unfold record_progress
        have hrecalled := h.handled hhandled hblocks
        cases with_retry c.retry_count (p.rpc_fails .block_hash)
            (chain.block_hash to_block.toNat) with
        | none => exact hrecalled
        | some hash => exact hrecalled
      · rw [hall]
        refine (h.handled hhandled ?_).marked
        intro d hd
        exact hblocks d (by rw [heq]; exact List.mem_append_left _ hd)

theorem recalled_of_run (hids : chain.Indexed) {start : WatcherState} {polls : List Poll}
    (hrun : (machine c chain start).run polls = some w) : Recalled w := by
  refine Machine.invariant ?_ ?_ hrun
  · intro e call hmem
    cases hmem
  · intro s q s' h hstep
    obtain ⟨henabled, heq⟩ := step_eq_some.mp hstep
    rw [← heq]
    unfold poll_web3_events
    cases hhead : q.head with
    | none => exact h
    | some head =>
      have hle : s.head ≤ head := henabled head hhead
      have hnow : Recalled { s with head } := by
        intro e call hmem
        obtain ⟨hbefore, hmarked⟩ := h e call hmem
        exact ⟨le_trans hbefore hle, hmarked⟩
      have hto : (head : Int) - c.confirmations ≤ head := by omega
      by_cases hearly : (head : Int) - c.confirmations < 0
      · simp only [if_pos hearly]
        exact hnow
      · simp only [if_neg hearly]
        cases detect_reorg c chain q s.state with
        | none => exact hnow
        | some seen =>
          cases seen with
          | false => exact poll_blocks_recalled hids hnow hto
          | true =>
            cases q.expire_fails with
            | true => exact hnow
            | false =>
              refine poll_blocks_recalled hids ?_ hto
              -- every block so far is one the cache was expired after
              intro e call hmem
              obtain ⟨hbefore, _⟩ := hnow e call hmem
              exact ⟨hbefore, Or.inr ⟨head, List.mem_cons_self, hbefore⟩⟩

/-! ## §7. What is lost otherwise. -/

/-- The first item of a list that has a property, found twice. -/
theorem eq_of_first {α : Type} {q : α → Prop} {a b s t : List α} {x y : α}
    (h : a ++ x :: s = b ++ y :: t) (ha : ∀ z ∈ a, ¬ q z) (hx : q x) (hb : ∀ z ∈ b, ¬ q z)
    (hy : q y) : a = b ∧ x = y := by
  induction a generalizing b with
  | nil =>
    cases b with
    | nil => exact ⟨rfl, (List.cons.inj h).1⟩
    | cons z b => exact absurd ((List.cons.inj h).1 ▸ hx) (hb z List.mem_cons_self)
  | cons z a ih =>
    cases b with
    | nil => exact absurd ((List.cons.inj h).1 ▸ hy) (ha z List.mem_cons_self)
    | cons z' b =>
      obtain ⟨hhead, htail⟩ := List.cons.inj h
      obtain ⟨hrest, hsame⟩ := ih htail (fun x hx => ha x (List.mem_cons_of_mem _ hx))
        (fun x hx => hb x (List.mem_cons_of_mem _ hx))
      exact ⟨by rw [hhead, hrest], hsame⟩

/-- A poll at some head in which nothing raises. -/
def quiet_poll (head : Nat) : Poll := ⟨some head, fun _ _ => false, false, fun _ => false⟩

theorem detect_reorg_quiet (h : 0 < c.retry_count) (head : Nat) (state : WatcherState) :
    detect_reorg c chain (quiet_poll head) state = some (reorg_seen chain state) := by
  unfold detect_reorg reorg_seen
  cases compared_hash state with
  | none => rfl
  | some last_seen =>
    show (with_retry _ (fun _ => false) _).map _ = _
    rw [with_retry_of_quiet h]
    rfl

theorem fetch_quiet (h : 0 < c.retry_count) (head : Nat) (from_block to_block : Int) :
    ∃ events, fetch c chain (quiet_poll head) from_block to_block = some events := by
  unfold fetch
  show ∃ events, (EVENT_NAMES.mapM (fun event_name => with_retry c.retry_count (fun _ => false)
    (get_logs chain event_name from_block to_block))).map _ = some events
  simp only [with_retry_of_quiet h]
  exact ⟨_, rfl⟩

theorem record_progress_quiet (h : 0 < c.retry_count) (head : Nat) (result : PollResult)
    (w : Watching) : record_progress c chain (quiet_poll head) result (true, w) =
      (some result, { w with state := ⟨max w.state.last_processed_block result.to_block,
        some (chain.block_hash result.to_block.toNat)⟩ }) := by
  have hhash : with_retry c.retry_count ((quiet_poll head).rpc_fails .block_hash)
      (chain.block_hash result.to_block.toNat) =
        some (chain.block_hash result.to_block.toNat) := with_retry_of_quiet h _
  simp only [record_progress, hhash]

/-- A poll in which nothing raises leaves a marked event as it was. -/
theorem quiet_poll_passes (hids : chain.Indexed) (hretry : 0 < c.retry_count)
    (hseen : reorg_seen chain w.state = false) (hmarked : event_id e ∈ w.processed)
    {call : CacheCall} (hnew : (e, call) ∉ w.applied) {head : Nat}
    (hto : (e.block_number : Int) ≤ head - c.confirmations) :
    ∃ result, (poll_web3_events c chain w (quiet_poll head)).1 = some result ∧
      (e.block_number : Int) ≤
        (poll_web3_events c chain w (quiet_poll head)).2.state.last_processed_block ∧
      (e, call) ∉ (poll_web3_events c chain w (quiet_poll head)).2.applied ∧
      (poll_web3_events c chain w (quiet_poll head)).2.expired = w.expired := by
  have hpoll : poll_web3_events c chain w (quiet_poll head) =
      poll_blocks c chain (quiet_poll head) (head - c.confirmations) false { w with head } := by
    have hhead : (quiet_poll head).head = some head := rfl
    unfold poll_web3_events
    simp only [hhead, detect_reorg_quiet hretry, hseen,
      if_neg (show ¬ (head : Int) - c.confirmations < 0 by omega)]
  rw [hpoll]
  by_cases hnone : (head : Int) - c.confirmations < w.state.last_processed_block + 1
  · have hearly : poll_blocks c chain (quiet_poll head) (head - c.confirmations) false
        { w with head } = (some ⟨w.state.last_processed_block + 1, head - c.confirmations, 0,
          false⟩, { w with head }) := if_pos hnone
    rw [hearly]
    exact ⟨_, rfl, by show (e.block_number : Int) ≤ w.state.last_processed_block; omega, hnew,
      rfl⟩
  · obtain ⟨events, hfetch⟩ := @fetch_quiet c chain hretry head
      (w.state.last_processed_block + 1) (head - c.confirmations)
    have hblocks : poll_blocks c chain (quiet_poll head) (head - c.confirmations) false
        { w with head } = record_progress c chain (quiet_poll head)
          ⟨w.state.last_processed_block + 1, head - c.confirmations, events.length, false⟩
          (handle_all (quiet_poll head) events { w with head }) := by
      unfold poll_blocks
      simp only [if_neg hnone, hfetch]
    rw [hblocks]
    rcases handle_all_cases (p := quiet_poll head) (batch_ids hids hfetch) { w with head } with
      ⟨w', hall, hhandled, _⟩ | ⟨_, _, _, _, _, _, hfails, _, _⟩
    · have hkept : (e, call) ∉ w'.applied := by
        intro hmem
        rcases hhandled.applied e call hmem with hold | ⟨_, hunmarked⟩
        · exact hnew hold
        · exact hunmarked hmarked
      rw [hall, record_progress_quiet hretry]
      exact ⟨_, rfl, le_max_of_le_right hto, hkept, hhandled.expired⟩
    · cases hfails.2.2

/-- What a poll leaves when an invalidation raises in it. -/
theorem poll_fails (hids : chain.Indexed) {head : Nat} (hhead : p.head = some head)
    (hconfirmed : (0 : Int) ≤ head - c.confirmations)
    (hdetect : detect_reorg c chain p w.state = some false)
    (hfetch : fetch c chain p (w.state.last_processed_block + 1) (head - c.confirmations) =
      some (done ++ e :: rest))
    (hquiet : ∀ d ∈ done, ¬ Fails p w d) (hfails : Fails p w e) :
    ∃ w₁, Handled { w with head } w₁ done ∧ (poll_web3_events c chain w p).2 =
      { w₁ with processed := event_id e :: w₁.processed } := by
  have hblock := ((fetch_eq_some hfetch).1 e).mp (List.mem_append_right _ List.mem_cons_self)
  rcases handle_all_cases (p := p) (batch_ids hids hfetch) { w with head } with
    ⟨_, _, _, hnone⟩ | ⟨done', e', rest', w₁, heq, hquiet', hfails', hhandled, hall⟩
  · exact absurd hfails (hnone e (List.mem_append_right _ List.mem_cons_self))
  · obtain ⟨hdone, he⟩ := eq_of_first heq hquiet hfails hquiet' hfails'
    rw [← hdone] at hhandled
    refine ⟨w₁, hhandled, ?_⟩
    unfold poll_web3_events poll_blocks
    simp only [hhead, if_neg (show ¬ (head : Int) - c.confirmations < 0 by omega), hdetect,
      if_neg (show ¬ (head : Int) - c.confirmations < w.state.last_processed_block + 1 by omega),
      hfetch, hall]
    rw [he]
    rfl

/-- After a failure that cannot be recovered from, the next poll that returns has lost an
event. -/
theorem lost_of_not_recoverable (hids : chain.Indexed) (hrecalled : Recalled w)
    (h : ¬ Recoverable c chain first w p) :
    ∃ q result, (∀ head ∈ q.head, (poll_web3_events c chain w p).2.head ≤ head) ∧
      (poll_web3_events c chain (poll_web3_events c chain w p).2 q).1 = some result ∧
      ¬ CaughtUp chain first (poll_web3_events c chain (poll_web3_events c chain w p).2 q).2 := by
  unfold Recoverable at h
  simp only [not_forall] at h
  obtain ⟨head, events, done, e, rest, hhead, hconfirmed, hdetect, hfetch, heq, hquiet, hfails,
    hlost⟩ := h
  rw [not_or, not_or] at hlost
  obtain ⟨hfirst, hexpired, hseen⟩ := hlost
  rw [heq] at hfetch
  obtain ⟨w₁, hhandled, hpoll⟩ := poll_fails hids hhead hconfirmed hdetect hfetch hquiet hfails
  have hmem := ((fetch_eq_some hfetch).1 e).mp (List.mem_append_right _ List.mem_cons_self)
  obtain ⟨call, hcall⟩ := Option.ne_none_iff_exists'.mp hfails.2.1
  have hretry : 0 < c.retry_count := by
    unfold fetch at hfetch
    obtain ⟨logs, hlogs, _⟩ := Option.map_eq_some_iff.mp hfetch
    rw [EVENT_NAMES, List.mapM_cons] at hlogs
    obtain ⟨_, hone, _⟩ := Option.bind_eq_some_iff.mp hlogs
    exact retry_pos hone
  -- the event is marked, and neither applied nor expired
  have hnew : (e, call) ∉ w₁.applied := by
    intro happlied
    rcases hhandled.applied e call happlied with hold | ⟨hdone, _⟩
    · rcases (hrecalled e call hold).2 with hmarked | hbefore
      · exact hfails.1 hmarked
      · exact hexpired hbefore
    · exact hquiet e hdone hfails
  have hunseen : reorg_seen chain (poll_web3_events c chain w p).2.state = false := by
    rw [hpoll]
    refine (Bool.not_eq_true _).mp ?_
    intro hseen'
    refine hseen ?_
    rw [← hseen']
    show _ = reorg_seen chain w₁.state
    have hstate : w₁.state = ⟨reached w.processed done w.state.last_processed_block,
        w.state.last_seen_block_hash⟩ := by
      rw [← hhandled.last_seen.trans rfl, ← hhandled.last_block.trans rfl]
    rw [hstate]
  have hmarked : event_id e ∈ (poll_web3_events c chain w p).2.processed := by
    rw [hpoll]
    exact List.mem_cons_self
  have hunapplied : (e, call) ∉ (poll_web3_events c chain w p).2.applied := by
    rw [hpoll]
    exact hnew
  obtain ⟨result, hresult, hblock, hleft, hkept⟩ := @quiet_poll_passes c chain _ e hids hretry
    hunseen hmarked call hunapplied
    (max (poll_web3_events c chain w p).2.head (e.block_number + c.confirmations)) (by omega)
  refine ⟨_, result, ?_, hresult, ?_⟩
  · intro later hlater
    rw [← Option.some.inj hlater]
    exact le_max_left _ _
  · intro hcaught
    rcases hcaught e hmem.1 (by omega) hblock call hcall with happlied | hbefore
    · exact hleft happlied
    · rw [hkept, hpoll] at hbefore
      have hbefore' : ∃ head ∈ w₁.expired, e.block_number ≤ head := hbefore
      rw [hhandled.expired] at hbefore'
      exact hexpired hbefore'

/-- **No event is lost, in any continuation of a run**, exactly when each of its polls is
recoverable. -/
theorem no_event_lost_iff (hids : chain.Indexed) {start : WatcherState} {polls : List Poll}
    (hrun : (machine c chain start).run polls = some w) :
    (machine c chain start).Along
        (Recoverable c chain (start.last_processed_block + 1)) polls ↔
      ∀ pre post w₀ q result, polls = pre ++ post → (machine c chain start).run pre = some w₀ →
        (∀ head ∈ q.head, w₀.head ≤ head) →
        (poll_web3_events c chain w₀ q).1 = some result →
          CaughtUp chain (start.last_processed_block + 1) (poll_web3_events c chain w₀ q).2 := by
  constructor
  · intro halong pre post w₀ q result heq hpre henabled hresult
    rw [heq] at halong
    exact caught_up_of_along hids halong.of_prefix hpre henabled hresult
  · intro h pre p post s heq hs
    by_contra hlost
    have hstep : ∃ s', (machine c chain start).run (pre ++ [p]) = some s' := by
      rw [heq, List.append_cons] at hrun
      exact Machine.run_of_prefix _ hrun
    obtain ⟨s', hs'⟩ := hstep
    obtain ⟨s₀, hs₀, hpoll⟩ := (Machine.run_snoc_eq_some _).mp hs'
    rw [hs] at hs₀
    rw [← Option.some.inj hs₀] at hpoll
    obtain ⟨_, hpoll⟩ := step_eq_some.mp hpoll
    obtain ⟨q, result, henabled, hresult, hmissed⟩ :=
      lost_of_not_recoverable hids (recalled_of_run hids hs) hlost
    rw [hpoll] at henabled hresult hmissed
    exact hmissed (h (pre ++ [p]) post s' q result (by rw [heq, List.append_assoc]; rfl) hs'
      henabled hresult)

end Polls

/-- A chain with one event. -/
def lab_chain : Chain where
  logs := [⟨"RootRevoked", { state_root := some "0x11" }, 1, 0⟩]
  block_hash := fun number => "0x" ++ toString number

/-- A watcher without confirmations. -/
def lab_watcher : EventWatcher := ⟨0, 6, 3⟩

/-- A chain whose block 1 was replaced, with one event above it. -/
def forked_chain : Chain where
  logs := [⟨"RootRevoked", { state_root := some "0x11" }, 2, 0⟩]
  block_hash := fun number => "0x" ++ toString number

theorem forked_indexed : forked_chain.Indexed := by
  intro a ha b hb _
  rw [List.mem_singleton.mp ha, List.mem_singleton.mp hb]

/-- A watcher whose last block is gone. -/
def forked_start : WatcherState := ⟨1, some "0xdead"⟩

/-- A poll whose node does not answer, and one whose invalidations raise. -/
def forked_polls : List Poll :=
  [{ quiet_poll 2 with rpc_fails := fun _ _ => true }, { quiet_poll 2 with call_fails := fun _ => true }]

/-- What the two polls leave: the second has seen the reorganisation. -/
def forked_watching : Watching := ⟨⟨0, none⟩, [("RootRevoked", 2000000)], 2, [], [2]⟩

theorem forked_run : (machine lab_watcher forked_chain forked_start).run forked_polls =
    some forked_watching := rfl

/-- In neither does an invalidation raise that counts. -/
theorem forked_recoverable : (machine lab_watcher forked_chain forked_start).Along
    (Recoverable lab_watcher forked_chain 2) forked_polls := by
  have hfirst : (machine lab_watcher forked_chain forked_start).Along
      (Recoverable lab_watcher forked_chain 2)
        ([] ++ [{ quiet_poll 2 with rpc_fails := fun _ _ => true }]) := by
    refine (Machine.along_nil _).snoc ?_
    intro w hw _ _ _ _ _ _ _ hunread
    obtain rfl := Option.some.inj hw
    cases hunread
  refine hfirst.snoc ?_
  intro w hw _ _ _ _ _ _ _ hread
  -- the reorganisation is seen
  obtain rfl : (⟨forked_start, [], 2, [], []⟩ : Watching) = w := Option.some.inj hw
  cases hread

/-- After a poll that could not read and one in which the revocation raised, a poll in which
nothing raises returns, and the revocation counts. -/
theorem revocation_applied :
    (poll_web3_events lab_watcher forked_chain forked_watching (quiet_poll 3)).1 =
        some ⟨1, 3, 1, false⟩ ∧
      CaughtUp forked_chain 2
        (poll_web3_events lab_watcher forked_chain forked_watching (quiet_poll 3)).2 := by
  have hresult : (poll_web3_events lab_watcher forked_chain forked_watching (quiet_poll 3)).1 =
      some ⟨1, 3, 1, false⟩ := by decide +kernel
  have hhead : ∀ head ∈ (quiet_poll 3).head, forked_watching.head ≤ head := by
    intro head hhead
    rw [← Option.some.inj hhead]
    decide
  refine ⟨hresult, ?_⟩
  exact (@no_event_lost_iff lab_watcher forked_chain _ forked_indexed forked_start forked_polls
    forked_run).mp forked_recoverable forked_polls [] _ (quiet_poll 3) _ rfl forked_run hhead hresult

/-- The poll in which the revocation raises, and the one after it. -/
theorem failed_revocation_lost :
    ∃ w, (machine lab_watcher lab_chain ⟨0, none⟩).run
        [{ quiet_poll 1 with call_fails := fun _ => true }] = some w ∧
      (∀ head ∈ (quiet_poll 1).head, w.head ≤ head) ∧
      (poll_web3_events lab_watcher lab_chain w (quiet_poll 1)).1 = some ⟨1, 1, 1, false⟩ ∧
      ¬ CaughtUp lab_chain 1 (poll_web3_events lab_watcher lab_chain w (quiet_poll 1)).2 := by
  refine ⟨⟨⟨0, none⟩, [("RootRevoked", 1000000)], 1, [], []⟩, rfl, ?_, by decide +kernel, ?_⟩
  · intro head hhead
    rw [← Option.some.inj hhead]
  · intro h
    have hleft : (poll_web3_events lab_watcher lab_chain
        ⟨⟨0, none⟩, [("RootRevoked", 1000000)], 1, [], []⟩ (quiet_poll 1)).2 =
          ⟨⟨1, some "0x1"⟩, [("RootRevoked", 1000000)], 1, [], []⟩ := by rfl
    rw [hleft] at h
    rcases h _ List.mem_cons_self (by decide) (by decide)
      (.invalidate_root "0x11" "REVOKED") rfl with happlied | ⟨_, hexpired, _⟩
    · cases happlied
    · cases hexpired

end ResolverIdentity.V1.Watcher
