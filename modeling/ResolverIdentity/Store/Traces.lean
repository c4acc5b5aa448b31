/-
  ResolverIdentity.Store.Traces: trace events, query contexts and claims.

  `put_trace_events`, `register_query_context`, the two claiming operations and
  the two purges of `ri-store/src/lib.rs`.  Both claiming operations first look
  for a candidate outside any transaction and repeat the look inside one: a look
  that finds nothing is the transaction at that moment, so each operation is one
  step here, taken at the moment that decides its answer.

  Main results:
    * `put_trace_events_appends`: new events go to the end of the table, under
      ids it did not hold;
    * `claim_registered_eq_ok`, `claim_matching_eq_ok`: what a claim checked and
      wrote;
    * `mem_purge_trace_events`, `claim_of_purge`: a purge takes the claims of the
      events it deletes.
-/
import ResolverIdentity.Store.Tables

namespace ResolverIdentity.Store

open Library

/-- `CAST(json_extract(event_json,'$.sequence') AS INTEGER)`: a number past the range
of SQLite's integers is read as a real and cast to the largest one. -/
def cast_sequence (sequence : Nat) : Int := min (sequence : Int) I64_MAX

/-- What `claim_registered_trace_anchor` is asked for. -/
structure AnchorRequest where
  request_trace_id : String
  server_id : String
  correlation_id : String
  query_digest : String
  response_digest : String
  deriving DecidableEq

/-- Which answer an event has to be about. -/
structure TraceResponseMatch where
  request_trace_id : String
  server_id : String
  correlation_id : String
  query_digest : String
  response_digest : String
  endpoint : Option DnsEndpoint
  allow_authority_response : Bool
  deriving DecidableEq

namespace EvidenceStore

/-! ## §1. Ingestion. -/

/-- The rows of one trace. -/
def trace_rows (s : EvidenceStore) (trace_id : String) : List (Row String TraceEventV2) :=
  s.ri_v2_trace_events.rows.filter (fun row => row.val.trace_id = trace_id)

/-- `COALESCE(MAX(...),0)` over the sequences of a trace. -/
def last_sequence (s : EvidenceStore) (trace_id : String) : Int :=
  ((s.trace_rows trace_id).map (fun row => cast_sequence row.val.sequence)).foldr max 0

/-- The last event of a trace is of one of these kinds. -/
def terminal_kind (kind : TraceEventKind) : Bool :=
  kind = .clientResponse || kind = .resolutionFailed

/-- The checks on an event after the first of its trace. -/
def check_trace_parent (s : EvidenceStore) (event : TraceEventV2) : Except StoreError Unit := do
  let parent ← okOr event.parent_event_id (.invalidData "trace event parent is required")
  let row ← okOr
    ((s.ri_v2_trace_events.get? parent).filter (fun row => row.trace_id = event.trace_id))
    (.invalidData "trace event parent is missing or belongs to another trace")
  let parent_sequence ← okOr (u64_try_from (cast_sequence row.sequence))
    (.invalidData "stored parent sequence is negative")
  rejectIf (event.sequence ≤ parent_sequence)
    (.invalidData "trace event parent must precede its child")
  rejectIf ((s.trace_rows event.trace_id).any (fun row => terminal_kind row.val.kind))
    (.invalidData "trace event follows a terminal event")

/-- The place of a new event in its trace. -/
def check_trace_place (s : EvidenceStore) (event : TraceEventV2) : Except StoreError Unit :=
  if event.sequence = 1 then
    rejectIf (event.parent_event_id.isSome || event.kind != .clientQuery)
      (.invalidData "trace sequence 1 must be a parentless client query")
  else s.check_trace_parent event

/-- An event follows the last one of its trace, and the trace is open. -/
def check_trace_order (s : EvidenceStore) (event : TraceEventV2) : Except StoreError Unit := do
  let last_sequence ← okOr (u64_try_from (s.last_sequence event.trace_id))
    (.invalidData "stored trace sequence is negative")
  rejectIf (event.sequence != u64_succ last_sequence)
    (.invalidData ("trace " ++ event.trace_id ++ " sequence is out of order: expected " ++
      toString (u64_succ last_sequence) ++ ", received " ++ toString event.sequence))
  s.check_trace_place event

/-- Legacy events without a sequence are not checked. -/
def check_trace_sequence (s : EvidenceStore) (event : TraceEventV2) : Except StoreError Unit :=
  if 0 < event.sequence then s.check_trace_order event else .ok ()

/-- The partial unique index on trace and sequence. -/
def sequence_indexed (s : EvidenceStore) (event : TraceEventV2) : Bool :=
  0 < cast_sequence event.sequence &&
    (s.trace_rows event.trace_id).any
      (fun row => cast_sequence row.val.sequence = cast_sequence event.sequence)

/-- The statements for an event id the table does not hold. -/
def insert_trace_event (event : TraceEventV2) : Body EvidenceStore StoreError Unit := fun s => do
  s.check_trace_sequence event
  rejectIf (s.sequence_indexed event)
    (.database "UNIQUE constraint failed: index 'ri_v2_trace_events_sequence_idx'")
  let ri_v2_trace_events ← okOr (s.ri_v2_trace_events.insert? event.event_id event)
    (.invalidData "trace event insert did not persist exactly one row")
  .ok ((), { s with ri_v2_trace_events })

/-- One turn of the loop of `put_trace_events`. -/
def put_one (event : TraceEventV2) : Body EvidenceStore StoreError Unit := fun s =>
  match s.ri_v2_trace_events.get? event.event_id with
  | some existing => do
    rejectIf (existing != event) (.invalidData ("trace event " ++ event.event_id ++
      " is immutable and conflicts with stored evidence"))
    .ok ((), s)
  | none => insert_trace_event event s

/-- The events of a batch, in order. -/
def put_trace_events_body : List TraceEventV2 → Body EvidenceStore StoreError Unit
  | [], s => .ok ((), s)
  | event :: rest, s => do
    let (_, s) ← put_one event s
    put_trace_events_body rest s

/-- `put_trace_events`, in a transaction. -/
def put_trace_events (events : List TraceEventV2) (s : EvidenceStore) :
    Except StoreError Unit × EvidenceStore :=
  transaction (put_trace_events_body events) s

/-- `trace_events`: by sequence, then by id. -/
def trace_events (s : EvidenceStore) (trace_id : String) : List TraceEventV2 :=
  ((s.trace_rows trace_id).map Row.val).insertionSort (fun a b =>
    cast_sequence a.sequence < cast_sequence b.sequence ∨
      (cast_sequence a.sequence = cast_sequence b.sequence ∧ a.event_id ≤ b.event_id))

/-! ## §2. Query contexts. -/

/-- A new context, once old ones are purged. -/
def register_query_context_body (request_trace_id correlation_id query_digest : String)
    (registered_at expires_at : Int) : Body EvidenceStore StoreError Unit := fun s => do
  let ri_v2_query_contexts ← okOr
    (s.ri_v2_query_contexts.insert? request_trace_id
      { correlation_id, query_digest
        min_event_rowid := s.ri_v2_trace_events.maxRowid + 1
        registered_at, expires_at
        consumed_event_id := none })
    (.database "UNIQUE constraint failed: ri_v2_query_contexts.request_trace_id")
  .ok ((), { s with ri_v2_query_contexts })

/-- `register_query_context`, in a transaction. -/
def register_query_context (request_trace_id correlation_id query_digest : String)
    (registered_at expires_at : Int) (s : EvidenceStore) :
    Except StoreError Unit × EvidenceStore :=
  if request_trace_id.isEmpty || correlation_id.isEmpty || query_digest.isEmpty ||
      registered_at ≤ 0 || expires_at ≤ 0 || expires_at < registered_at then
    (.error (.invalidData "query context contains an invalid field"), s)
  else
    transaction (register_query_context_body request_trace_id correlation_id query_digest
      registered_at expires_at) s

/-! ## §3. Claims. -/

/-- Bind an event to a request, or find it bound to this one. -/
def claim_event (s : EvidenceStore) (event_id request_trace_id : String) :
    Except StoreError EvidenceStore :=
  match s.ri_v2_trace_event_claims.get? event_id with
  | none =>
    .ok { s with
      ri_v2_trace_event_claims := s.ri_v2_trace_event_claims.upsert event_id request_trace_id }
  | some owner =>
    if owner = request_trace_id then .ok s
    else .error (.invalidData "Trace event is already bound to a different request")

/-- The rows `registered_trace_candidate` selects from. -/
def anchor_rows (s : EvidenceStore) (min_event_rowid : Nat) (request : AnchorRequest) :
    List (Row String TraceEventV2) :=
  s.ri_v2_trace_events.rows.filter (fun row =>
    min_event_rowid ≤ row.rowid && row.val.observer_server_id = request.server_id &&
    row.val.correlation_id = request.correlation_id &&
    row.val.query_digest = request.query_digest &&
    row.val.response_digest = some request.response_digest &&
    (row.val.kind = .clientResponse || row.val.kind = .resolverResponse))

/-- The context and the latest event for it. -/
def registered_trace_candidate (s : EvidenceStore) (request : AnchorRequest) (now : Int) :
    Except StoreError (Option (Row String TraceEventV2)) := do
  let context ← okOr (s.ri_v2_query_contexts.get? request.request_trace_id)
    (.invalidData "registered query context was not found")
  rejectIf (context.correlation_id != request.correlation_id ||
      context.query_digest != request.query_digest || context.expires_at < now)
    (.invalidData "registered query context does not match or has expired")
  rejectIf context.consumed_event_id.isSome
    (.invalidData "registered query context has already been consumed")
  .ok (s.anchor_rows context.min_event_rowid request).getLast?

/-- Claim the candidate and consume the context. -/
def consume_context (request : AnchorRequest) (row : Row String TraceEventV2) :
    Body EvidenceStore StoreError (Option TraceEventV2) := fun s => do
  let s ← s.claim_event row.key request.request_trace_id
  rejectIf ((s.ri_v2_query_contexts.get? request.request_trace_id).all
      (fun context => context.consumed_event_id.isSome))
    (.invalidData "query context was consumed concurrently")
  .ok (some row.val, { s with
    ri_v2_query_contexts := s.ri_v2_query_contexts.update request.request_trace_id
      (fun context => { context with consumed_event_id := some row.key }) })

/-- The candidate of a context, claimed. -/
def claim_registered_trace_anchor_body (request : AnchorRequest) (now : Int) :
    Body EvidenceStore StoreError (Option TraceEventV2) := fun s => do
  let candidate ← s.registered_trace_candidate request now
  match candidate with
  | none => .ok (none, s)
  | some row => consume_context request row s

/-- `claim_registered_trace_anchor`, in a transaction. -/
def claim_registered_trace_anchor (request : AnchorRequest) (now : Int) (s : EvidenceStore) :
    Except StoreError (Option TraceEventV2) × EvidenceStore :=
  transaction (claim_registered_trace_anchor_body request now) s

variable (P : Platform)

/-- The kinds a request may be about. -/
def kind_matches (request : TraceResponseMatch) : TraceEventKind → Bool
  | .clientResponse => true
  | .upstreamResponse => request.endpoint.isSome
  | .resolverResponse => true
  | .authorityResponse => request.allow_authority_response
  | _ => false

/-- Is the event about the endpoint asked for, if one is? -/
def target_matches (request : TraceResponseMatch) (event : TraceEventV2) : Bool :=
  event.kind = .clientResponse ||
    request.endpoint.all (fun expected =>
      event.target_endpoint.any (fun candidate => P.matchesOr expected candidate))

/-- The events a request may claim, in the order of the table. -/
def matching_response_candidates (s : EvidenceStore) (request : TraceResponseMatch) :
    List (Row String TraceEventV2) :=
  s.ri_v2_trace_events.rows.filter (fun row =>
    row.val.observer_server_id = request.server_id &&
    row.val.correlation_id = request.correlation_id &&
    row.val.query_digest = request.query_digest &&
    row.val.response_digest = some request.response_digest &&
    kind_matches request row.val.kind && target_matches P request row.val)

/-- The first candidate that is free or already bound to this request. -/
def claim_first (request_trace_id : String) :
    List (Row String TraceEventV2) → Body EvidenceStore StoreError (Option TraceEventV2)
  | [], s => .ok (none, s)
  | row :: rest, s =>
    match s.ri_v2_trace_event_claims.get? row.key with
    | some owner =>
      if owner = request_trace_id then .ok (some row.val, s)
      else claim_first request_trace_id rest s
    | none => do
      let s ← s.claim_event row.key request_trace_id
      .ok (some row.val, s)

/-- `claim_matching_response`, in a transaction. -/
def claim_matching_response (request : TraceResponseMatch) (s : EvidenceStore) :
    Except StoreError (Option TraceEventV2) × EvidenceStore :=
  transaction (fun s =>
    claim_first request.request_trace_id (s.matching_response_candidates P request) s) s

/-! ## §4. Purges. -/

/-- `DELETE FROM ri_v2_trace_events WHERE observed_at<?`; the foreign key takes the
claims along. -/
def purge_trace_events (observed_before : Int) (s : EvidenceStore) : EvidenceStore :=
  { s with
    ri_v2_trace_events :=
      s.ri_v2_trace_events.deleteWhere (fun _ event => event.observed_at < observed_before)
    ri_v2_trace_event_claims := s.ri_v2_trace_event_claims.deleteWhere (fun event_id _ =>
      (s.ri_v2_trace_events.get? event_id).any (fun event => event.observed_at < observed_before)) }

/-- Contexts past their time are removed. -/
def purge_query_contexts (now : Int) (s : EvidenceStore) : EvidenceStore :=
  { s with
    ri_v2_query_contexts :=
      s.ri_v2_query_contexts.deleteWhere (fun _ context => context.expires_at < now) }

/-! ## §5. What ingestion does. -/

/-- New events at the end of the table: under ids it did not hold, past its row ids. -/
structure TracesAppended (events : List TraceEventV2) (s s' : EvidenceStore)
    (added : List (Row String TraceEventV2)) : Prop where
  rows : s'.ri_v2_trace_events.rows = s.ri_v2_trace_events.rows ++ added
  fresh : ∀ row ∈ added, s.ri_v2_trace_events.get? row.key = none ∧
    row.key = row.val.event_id ∧ row.val ∈ events ∧ s.ri_v2_trace_events.maxRowid < row.rowid
  rest : s' = { s with ri_v2_trace_events := s'.ri_v2_trace_events }

variable {s s' : EvidenceStore}

theorem TracesAppended.refl (events : List TraceEventV2) (s : EvidenceStore) :
    TracesAppended events s s [] where
  rows := (List.append_nil _).symm
  fresh := by intro row hrow; cases hrow
  rest := rfl

theorem TracesAppended.trans {events : List TraceEventV2} {s₁ : EvidenceStore}
    {added added₁ : List (Row String TraceEventV2)} (h : TracesAppended events s s₁ added)
    (h₁ : TracesAppended events s₁ s' added₁) : TracesAppended events s s' (added ++ added₁) where
  rows := by rw [h₁.rows, h.rows, List.append_assoc]
  fresh := by
    have hsub : ∀ row ∈ s.ri_v2_trace_events.rows, row ∈ s₁.ri_v2_trace_events.rows := by
      intro row hrow
      rw [h.rows]
      exact List.mem_append_left _ hrow
    have hmax : s.ri_v2_trace_events.maxRowid ≤ s₁.ri_v2_trace_events.maxRowid :=
      RowTable.maxRowid_le (fun row hrow => RowTable.rowid_le_maxRowid _ (hsub row hrow))
    intro row hrow
    rcases List.mem_append.mp hrow with hrow | hrow
    · exact h.fresh row hrow
    · obtain ⟨hnew, hkey, hmem, hlt⟩ := h₁.fresh row hrow
      refine ⟨?_, hkey, hmem, Nat.lt_of_le_of_lt hmax hlt⟩
      rw [RowTable.get?_eq_none_iff] at hnew ⊢
      exact fun old hold => hnew old (hsub old hold)
  rest := by
    rw [h₁.rest, h.rest]

theorem put_one_eq_ok {events : List TraceEventV2} {event : TraceEventV2} (hmem : event ∈ events)
    (h : put_one event s = .ok ((), s')) : ∃ added, TracesAppended events s s' added := by
  unfold put_one at h
  cases hget : s.ri_v2_trace_events.get? event.event_id with
  | some existing =>
    rw [hget] at h
    obtain ⟨_, _, h⟩ := bind_eq_ok.mp h
    obtain ⟨_, rfl⟩ := Prod.mk.inj (Except.ok.inj h)
    exact ⟨[], TracesAppended.refl events s⟩
  | none =>
    rw [hget] at h
    have h : insert_trace_event event s = .ok ((), s') := h
    unfold insert_trace_event at h
    obtain ⟨_, _, h⟩ := bind_eq_ok.mp h
    obtain ⟨_, _, h⟩ := bind_eq_ok.mp h
    obtain ⟨table, htable, h⟩ := bind_eq_ok.mp h
    obtain ⟨_, rfl⟩ := Prod.mk.inj (Except.ok.inj h)
    rw [okOr_eq_ok] at htable
    refine ⟨[⟨s.ri_v2_trace_events.maxRowid + 1, event.event_id, event⟩],
      (RowTable.insert?_eq_some htable).2, ?_, rfl⟩
    intro row hrow
    rw [List.mem_singleton.mp hrow]
    exact ⟨hget, rfl, hmem, Nat.lt_succ_self _⟩

theorem put_trace_events_body_eq_ok {events : List TraceEventV2} :
    ∀ {batch : List TraceEventV2} {s : EvidenceStore}, (∀ event ∈ batch, event ∈ events) →
      put_trace_events_body batch s = .ok ((), s') → ∃ added, TracesAppended events s s' added := by
  intro batch
  induction batch with
  | nil =>
    intro s _ h
    obtain ⟨_, rfl⟩ := Prod.mk.inj (Except.ok.inj h)
    exact ⟨[], TracesAppended.refl events s⟩
  | cons event rest ih =>
    intro s hsub h
    obtain ⟨⟨_, s₁⟩, hone, h⟩ := bind_eq_ok.mp h
    obtain ⟨added, hadded⟩ := put_one_eq_ok (hsub event List.mem_cons_self) hone
    obtain ⟨added₁, hadded₁⟩ := ih (fun e he => hsub e (List.mem_cons_of_mem _ he)) h
    exact ⟨added ++ added₁, hadded.trans hadded₁⟩

/-- A batch appends its new events, or is rolled back. -/
theorem put_trace_events_appends (events : List TraceEventV2) (s : EvidenceStore) :
    ∃ added, TracesAppended events s (put_trace_events events s).2 added := by
  rcases transaction_snd (put_trace_events_body events) s with
    ⟨_, s₁, hbody, hs₁⟩ | ⟨_, _, hs₁⟩
  · rw [show (put_trace_events events s).2 = s₁ from hs₁]
    exact put_trace_events_body_eq_ok (fun event hevent => hevent) hbody
  · rw [show (put_trace_events events s).2 = s from hs₁]
    exact ⟨[], TracesAppended.refl events s⟩

/-- A registration fails and changes nothing, or adds an unused context whose first
row id lies past every event stored. -/
theorem register_query_context_cases (request_trace_id correlation_id query_digest : String)
    (registered_at expires_at : Int) (s : EvidenceStore) :
    (∃ e, s.register_query_context request_trace_id correlation_id query_digest registered_at
        expires_at = (.error e, s)) ∨
      ∃ table, s.register_query_context request_trace_id correlation_id query_digest registered_at
          expires_at = (.ok (), { s with ri_v2_query_contexts := table }) ∧
        s.ri_v2_query_contexts.insert? request_trace_id
          { correlation_id, query_digest, min_event_rowid := s.ri_v2_trace_events.maxRowid + 1
            registered_at, expires_at, consumed_event_id := none } = some table := by
  unfold register_query_context
  split
  · exact Or.inl ⟨_, rfl⟩
  · cases hrun : transaction (register_query_context_body request_trace_id correlation_id
        query_digest registered_at expires_at) s with
    | mk outcome s' =>
      cases outcome with
      | error e => exact Or.inl ⟨e, by rw [transaction_error hrun]⟩
      | ok _ =>
        have hbody := transaction_eq_ok.mp hrun
        obtain ⟨table, htable, hbody⟩ := bind_eq_ok.mp hbody
        obtain ⟨_, rfl⟩ := Prod.mk.inj (Except.ok.inj hbody)
        exact Or.inr ⟨table, rfl, okOr_eq_ok.mp htable⟩

/-! ## §6. What claims do. -/

/-- An event nobody else had claimed is now claimed by the request. -/
structure Claims (s s' : EvidenceStore) (event_id request_trace_id : String) : Prop where
  free : ∀ owner, s.ri_v2_trace_event_claims.get? event_id = some owner → owner = request_trace_id
  claims : ∀ key, s'.ri_v2_trace_event_claims.get? key =
    if key = event_id then some request_trace_id else s.ri_v2_trace_event_claims.get? key

theorem claim_event_eq_ok {event_id request_trace_id : String}
    (h : s.claim_event event_id request_trace_id = .ok s') :
    Claims s s' event_id request_trace_id ∧
      s' = { s with ri_v2_trace_event_claims := s'.ri_v2_trace_event_claims } := by
  unfold claim_event at h
  cases hget : s.ri_v2_trace_event_claims.get? event_id with
  | none =>
    rw [hget] at h
    obtain rfl := Except.ok.inj h
    refine ⟨⟨fun owner howner => (nomatch hget.symm.trans howner), fun key => ?_⟩, rfl⟩
    exact RowTable.get?_upsert _ _ _ _
  | some owner =>
    rw [hget] at h
    by_cases howner : owner = request_trace_id
    · simp only [if_pos howner] at h
      obtain rfl := Except.ok.inj h
      refine ⟨⟨fun other hother => ?_, fun key => ?_⟩, rfl⟩
      · rw [← howner]
        exact (Option.some.inj (hget.symm.trans hother)).symm
      · by_cases hkey : key = event_id
        · rw [if_pos hkey, hkey, hget, howner]
        · rw [if_neg hkey]
    · simp only [if_neg howner] at h
      cases h

/-- What a successful claim for a registered context found and wrote. -/
structure AnchorClaimed (request : AnchorRequest) (s s' : EvidenceStore)
    (context : QueryContext) (row : Row String TraceEventV2) : Prop
    extends Claims s s' row.key request.request_trace_id where
  registered : s.ri_v2_query_contexts.get? request.request_trace_id = some context
  correlation : context.correlation_id = request.correlation_id
  query : context.query_digest = request.query_digest
  unused : context.consumed_event_id = none
  selected : row ∈ s.anchor_rows context.min_event_rowid request
  rest : s' = { s with
    ri_v2_trace_event_claims := s'.ri_v2_trace_event_claims
    ri_v2_query_contexts := s.ri_v2_query_contexts.update request.request_trace_id
      (fun context => { context with consumed_event_id := some row.key }) }

/-- A claim for a registered context finds nothing and changes nothing, or anchors. -/
theorem claim_registered_eq_ok {request : AnchorRequest} {now : Int}
    {found : Option TraceEventV2}
    (h : s.claim_registered_trace_anchor request now = (.ok found, s')) :
    (found = none ∧ s' = s) ∨
      ∃ context row, found = some row.val ∧ AnchorClaimed request s s' context row := by
  have h := transaction_eq_ok.mp h
  unfold claim_registered_trace_anchor_body at h
  obtain ⟨candidate, hcandidate, h⟩ := bind_eq_ok.mp h
  unfold registered_trace_candidate at hcandidate
  obtain ⟨context, hcontext, hcandidate⟩ := bind_eq_ok.mp hcandidate
  obtain ⟨_, hmatch, hcandidate⟩ := bind_eq_ok.mp hcandidate
  obtain ⟨_, hunused, hcandidate⟩ := bind_eq_ok.mp hcandidate
  rw [okOr_eq_ok] at hcontext
  simp only [rejectIf_eq_ok, Bool.or_eq_false_iff, bne_eq_false_iff_eq] at hmatch
  rw [rejectIf_eq_ok, Option.isSome_eq_false_iff, Option.isNone_iff_eq_none] at hunused
  have hcandidate := Except.ok.inj hcandidate
  cases candidate with
  | none =>
    obtain ⟨rfl, rfl⟩ := Prod.mk.inj (Except.ok.inj h)
    exact Or.inl ⟨rfl, rfl⟩
  | some row =>
    unfold consume_context at h
    obtain ⟨s₁, hclaim, h⟩ := bind_eq_ok.mp h
    obtain ⟨_, _, h⟩ := bind_eq_ok.mp h
    obtain ⟨rfl, rfl⟩ := Prod.mk.inj (Except.ok.inj h)
    obtain ⟨hclaims, hrest⟩ := claim_event_eq_ok hclaim
    refine Or.inr ⟨context, row, rfl, ⟨⟨hclaims.free, hclaims.claims⟩, hcontext, hmatch.1.1,
      hmatch.1.2, hunused, List.mem_of_getLast? hcandidate, ?_⟩⟩
    rw [hrest]

variable {P : Platform}

/-- What a successful claim of a matching response found and wrote. -/
structure MatchClaimed (P : Platform) (request : TraceResponseMatch) (s s' : EvidenceStore)
    (row : Row String TraceEventV2) : Prop
    extends Claims s s' row.key request.request_trace_id where
  selected : row ∈ s.matching_response_candidates P request
  rest : s' = { s with ri_v2_trace_event_claims := s'.ri_v2_trace_event_claims }

theorem claim_first_eq_ok {request_trace_id : String} {found : Option TraceEventV2} :
    ∀ {rows : List (Row String TraceEventV2)},
      claim_first request_trace_id rows s = .ok (found, s') →
      (found = none ∧ s' = s) ∨ ∃ row ∈ rows, found = some row.val ∧
        Claims s s' row.key request_trace_id ∧
        s' = { s with ri_v2_trace_event_claims := s'.ri_v2_trace_event_claims } := by
  intro rows
  induction rows with
  | nil =>
    intro h
    obtain ⟨rfl, rfl⟩ := Prod.mk.inj (Except.ok.inj h)
    exact Or.inl ⟨rfl, rfl⟩
  | cons row rest ih =>
    intro h
    unfold claim_first at h
    cases hget : s.ri_v2_trace_event_claims.get? row.key with
    | none =>
      simp only [hget] at h
      obtain ⟨s₁, hclaim, h⟩ := bind_eq_ok.mp h
      obtain ⟨rfl, rfl⟩ := Prod.mk.inj (Except.ok.inj h)
      obtain ⟨hclaims, hrest⟩ := claim_event_eq_ok hclaim
      exact Or.inr ⟨row, List.mem_cons_self, rfl, hclaims, hrest⟩
    | some owner =>
      simp only [hget] at h
      by_cases howner : owner = request_trace_id
      · -- already bound to this request
        rw [if_pos howner] at h
        obtain ⟨rfl, rfl⟩ := Prod.mk.inj (Except.ok.inj h)
        have hclaim : s.claim_event row.key request_trace_id = .ok s := by
          unfold claim_event
          rw [hget]
          exact if_pos howner
        obtain ⟨hclaims, hrest⟩ := claim_event_eq_ok hclaim
        exact Or.inr ⟨row, List.mem_cons_self, rfl, hclaims, hrest⟩
      · rw [if_neg howner] at h
        rcases ih h with hnone | ⟨row', hmem, hfound⟩
        · exact Or.inl hnone
        · exact Or.inr ⟨row', List.mem_cons_of_mem _ hmem, hfound⟩

/-- A claim of a matching response finds nothing and changes nothing, or claims. -/
theorem claim_matching_eq_ok {request : TraceResponseMatch} {found : Option TraceEventV2}
    (h : s.claim_matching_response P request = (.ok found, s')) :
    (found = none ∧ s' = s) ∨ ∃ row, found = some row.val ∧ MatchClaimed P request s s' row := by
  rcases claim_first_eq_ok (transaction_eq_ok.mp h) with hnone | ⟨row, hmem, hfound, hclaims, hrest⟩
  · exact Or.inl hnone
  · exact Or.inr ⟨row, hfound, ⟨⟨hclaims.free, hclaims.claims⟩, hmem, hrest⟩⟩

/-! ## §7. What purges do. -/

theorem mem_purge_trace_events {observed_before : Int} {row : Row String TraceEventV2} :
    row ∈ (s.purge_trace_events observed_before).ri_v2_trace_events.rows ↔
      row ∈ s.ri_v2_trace_events.rows ∧ ¬ row.val.observed_at < observed_before := by
  unfold purge_trace_events
  rw [RowTable.mem_deleteWhere, decide_eq_false_iff_not]

/-- The claim of an event that stays. -/
theorem claim_of_purge {observed_before : Int} {event_id owner : String} :
    (s.purge_trace_events observed_before).ri_v2_trace_event_claims.get? event_id = some owner ↔
      s.ri_v2_trace_event_claims.get? event_id = some owner ∧
        ∀ event, s.ri_v2_trace_events.get? event_id = some event →
          ¬ event.observed_at < observed_before := by
  unfold purge_trace_events
  rw [RowTable.get?_deleteWhere_eq_some, Option.any_eq_false]
  simp

end EvidenceStore

end ResolverIdentity.Store
