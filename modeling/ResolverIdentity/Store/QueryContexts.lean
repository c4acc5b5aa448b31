/-
  ResolverIdentity.Store.QueryContexts: does a registered query find its answer?

  A registration remembers the row id past the newest event, and a claim looks at
  the newest matching event from there on, and at no other one.  Two things can
  hide an answer: the newest event may belong to another request, and a purge may
  let later events have row ids from before the registration.

  `since` and `clock` are not state of the source: they note which events were
  ingested since a context was registered, and the latest time an operation has read.
  Whether the clock may be set back is a parameter of the law.

  Main results:
    * `claim_registered_cases`: when a claim returns an anchor;
    * `finds_iff`: the law, as a statement about the newest matching row;
    * `always_finds_iff`: the runs in which every registered query finds its answer.
-/
import ResolverIdentity.Core.Recorded
import ResolverIdentity.Library.Machine
import ResolverIdentity.Store.Records

namespace ResolverIdentity.Store

open Library EvidenceStore

/-! ## §1. Runs. -/

/-- The store, with what was ingested since each registration. -/
structure ContextState where
  store : EvidenceStore
  /-- The ids of the events ingested since the registration under a trace id. -/
  since : String → List String
  /-- The latest time read. -/
  clock : Int

/-- The time has been read once more. -/
def ContextState.passed (c : ContextState) (now : Int) : ContextState :=
  { c with clock := max c.clock now }

/-- The calls that touch contexts and events. -/
inductive ContextStep where
  | put_trace_events (events : List TraceEventV2)
  | register_query_context (request_trace_id correlation_id query_digest : String)
      (registered_at expires_at : Int)
  | claim_registered_trace_anchor (request : AnchorRequest) (now : Int)
  | purge_trace_events (observed_before : Int)
  | purge_query_contexts (now : Int)

/-- The rows an ingestion puts at the end of the table. -/
def new_rows (s : EvidenceStore) (events : List TraceEventV2) : List (Row String TraceEventV2) :=
  (s.put_trace_events events).2.ri_v2_trace_events.rows.drop s.ri_v2_trace_events.rows.length

/-- A registration starts a new list. -/
def registered_since (since : String → List String) (request_trace_id : String) :
    Except StoreError Unit → String → List String
  | .ok () => fun id => if id = request_trace_id then [] else since id
  | .error _ => since

/-- One call, at the clock of the process. -/
def context_step (c : ContextState) : ContextStep → ContextState
  | .put_trace_events events =>
    { c with
      store := (c.store.put_trace_events events).2
      since := fun id => c.since id ++ (new_rows c.store events).map Row.key }
  | .register_query_context request_trace_id correlation_id query_digest registered_at expires_at =>
    let r := c.store.register_query_context request_trace_id correlation_id query_digest
      registered_at expires_at
    { c.passed registered_at with
      store := r.2
      since := registered_since c.since request_trace_id r.1 }
  | .claim_registered_trace_anchor request now =>
    { c.passed now with store := (c.store.claim_registered_trace_anchor request now).2 }
  | .purge_trace_events observed_before =>
    { c with store := c.store.purge_trace_events observed_before }
  | .purge_query_contexts now =>
    { c.passed now with store := c.store.purge_query_contexts now }

/-- A freshly opened store under these operations. -/
def contexts : Machine ContextState ContextStep where
  init := ⟨EvidenceStore.open_, fun _ => [], 0⟩
  step := fun c step => some (context_step c step)

/-! ## §2. The law and the condition. -/

/-- A clock that may be set back to any time, and one that only goes forward. -/
inductive Clock where
  | adjustable
  | forward

/-- The times such a clock may still show after one it has shown. -/
def Clock.Admits : Clock → Int → Int → Prop
  | .adjustable, _, _ => True
  | .forward, shown, now => shown ≤ now

/-- The context has a time to come that is not past its expiry. -/
def Live (clock : Clock) (shown : Int) (context : QueryContext) : Prop :=
  ∃ now, clock.Admits shown now ∧ now ≤ context.expires_at

/-- The context of the request is registered, agrees with it and is not used up. -/
structure Open (s : EvidenceStore) (request : AnchorRequest) (context : QueryContext) : Prop where
  registered : s.ri_v2_query_contexts.get? request.request_trace_id = some context
  correlation : context.correlation_id = request.correlation_id
  query : context.query_digest = request.query_digest
  unused : context.consumed_event_id = none

/-- A terminal event of the observer, about the question and the answer of the request. -/
def answers_request (request : AnchorRequest) (event : TraceEventV2) : Bool :=
  event.observer_server_id = request.server_id &&
    event.correlation_id = request.correlation_id &&
    event.query_digest = request.query_digest &&
    event.response_digest = some request.response_digest &&
    (event.kind = .clientResponse || event.kind = .resolverResponse)

/-- A stored event that answers the request and was ingested after its registration. -/
structure Answer (c : ContextState) (request : AnchorRequest) (row : Row String TraceEventV2) :
    Prop where
  stored : row ∈ c.store.ri_v2_trace_events.rows
  later : row.key ∈ c.since request.request_trace_id
  answers : answers_request request row.val = true

/-- Nobody has claimed the event. -/
def Unclaimed (s : EvidenceStore) (row : Row String TraceEventV2) : Prop :=
  s.ri_v2_trace_event_claims.get? row.key = none

/-- At every time the clock may show next, every request with an open, unexpired context
and an unclaimed answer gets an anchor. -/
def Finds (clock : Clock) (c : ContextState) : Prop :=
  ∀ request context now, Open c.store request context → clock.Admits c.clock now →
    now ≤ context.expires_at →
    (∃ row, Answer c request row ∧ Unclaimed c.store row) →
    ∃ event, (c.store.claim_registered_trace_anchor request now).1 = .ok (some event)

/-- Nobody but the request has claimed the event. -/
def Claimable (s : EvidenceStore) (request : AnchorRequest) (row : Row String TraceEventV2) :
    Prop :=
  ∀ owner, s.ri_v2_trace_event_claims.get? row.key = some owner →
    owner = request.request_trace_id

/-- New answers to an open, live context do not all get row ids from before its
registration; no claim takes the newest answer of another such context that has an older
unclaimed one; and when a purge leaves such a context an unclaimed answer, the newest row
it leaves is not another request's. -/
def Unobstructed (clock : Clock) (c : ContextState) : ContextStep → Prop
  | .put_trace_events events => ∀ request context, Open c.store request context →
      Live clock c.clock context →
      (∃ row ∈ new_rows c.store events, answers_request request row.val = true) →
      ∃ row ∈ new_rows c.store events, answers_request request row.val = true ∧
        context.min_event_rowid ≤ row.rowid
  | .claim_registered_trace_anchor request now => ∀ taken,
      c.store.registered_trace_candidate request now = .ok (some taken) →
      Unclaimed c.store taken → ∀ other context,
      other.request_trace_id ≠ request.request_trace_id → Open c.store other context →
      Live clock (c.passed now).clock context →
      (c.store.anchor_rows context.min_event_rowid other).getLast? = some taken →
      ∀ row, Answer c other row → row.key ≠ taken.key → ¬ Unclaimed c.store row
  | .purge_trace_events observed_before => ∀ request context, Open c.store request context →
      Live clock c.clock context →
      (∃ row, Answer c request row ∧ ¬ row.val.observed_at < observed_before ∧
        Unclaimed c.store row) →
      ∃ newest, ((c.store.anchor_rows context.min_event_rowid request).filter
          (fun row => !decide (row.val.observed_at < observed_before))).getLast? = some newest ∧
        Claimable c.store request newest
  | _ => True

/-! ## §3. When a claim returns an anchor. -/

section Claims

variable {s s' : EvidenceStore} {request : AnchorRequest} {context : QueryContext} {now : Int}
variable {row : Row String TraceEventV2}

theorem mem_anchor_rows {min_event_rowid : Nat} :
    row ∈ s.anchor_rows min_event_rowid request ↔ row ∈ s.ri_v2_trace_events.rows ∧
      min_event_rowid ≤ row.rowid ∧ answers_request request row.val = true := by
  unfold anchor_rows answers_request
  rw [List.mem_filter]
  simp only [Bool.and_eq_true, decide_eq_true_eq, and_assoc]

/-- The two lists of conditions are one. -/
theorem anchor_rows_eq (s : EvidenceStore) (min_event_rowid : Nat) (request : AnchorRequest) :
    s.anchor_rows min_event_rowid request = s.ri_v2_trace_events.rows.filter (fun row =>
      decide (min_event_rowid ≤ row.rowid) && answers_request request row.val) := by
  unfold anchor_rows answers_request
  refine List.filter_congr ?_
  intro row _
  simp only [Bool.and_assoc]

/-- The checks on the context pass, and the newest row is the candidate. -/
theorem candidate_of_open (hopen : Open s request context) (hnow : now ≤ context.expires_at) :
    s.registered_trace_candidate request now =
      .ok (s.anchor_rows context.min_event_rowid request).getLast? := by
  unfold registered_trace_candidate
  rw [hopen.registered]
  have hmatch : (context.correlation_id != request.correlation_id ||
      context.query_digest != request.query_digest || context.expires_at < now) = false := by
    rw [hopen.correlation, hopen.query]
    simp only [bne_self_eq_false, Bool.false_or, decide_eq_false_iff_not]
    omega
  show (rejectIf _ _ >>= _) = _
  rw [hmatch]
  show (rejectIf context.consumed_event_id.isSome _ >>= _) = _
  rw [hopen.unused]
  rfl

/-- A candidate comes from an open, unexpired context. -/
theorem open_of_candidate {candidate : Option (Row String TraceEventV2)}
    (h : s.registered_trace_candidate request now = .ok candidate) :
    ∃ context, Open s request context ∧ now ≤ context.expires_at ∧
      candidate = (s.anchor_rows context.min_event_rowid request).getLast? := by
  unfold registered_trace_candidate at h
  obtain ⟨context, hcontext, h⟩ := bind_eq_ok.mp h
  obtain ⟨_, hmatch, h⟩ := bind_eq_ok.mp h
  obtain ⟨_, hunused, h⟩ := bind_eq_ok.mp h
  simp only [rejectIf_eq_ok, Bool.or_eq_false_iff, bne_eq_false_iff_eq,
    decide_eq_false_iff_not, not_lt] at hmatch
  rw [rejectIf_eq_ok, Option.isSome_eq_false_iff, Option.isNone_iff_eq_none] at hunused
  exact ⟨context, ⟨okOr_eq_ok.mp hcontext, hmatch.1.1, hmatch.1.2, hunused⟩, hmatch.2,
    (Except.ok.inj h).symm⟩

/-- The claim of a claimable newest row succeeds. -/
theorem claim_of_claimable (hopen : Open s request context) (hnow : now ≤ context.expires_at)
    (hnewest : (s.anchor_rows context.min_event_rowid request).getLast? = some row)
    (hclaimable : Claimable s request row) :
    ∃ s', s.claim_registered_trace_anchor request now = (.ok (some row.val), s') ∧
      AnchorClaimed request s s' context row := by
  obtain ⟨s₁, hclaim⟩ : ∃ s₁, s.claim_event row.key request.request_trace_id = .ok s₁ := by
    unfold claim_event
    cases hget : s.ri_v2_trace_event_claims.get? row.key with
    | none => exact ⟨_, rfl⟩
    | some owner => exact ⟨s, if_pos (hclaimable owner hget)⟩
  obtain ⟨hclaims, hrest⟩ := claim_event_eq_ok hclaim
  have hcontexts : s₁.ri_v2_query_contexts = s.ri_v2_query_contexts := by rw [hrest]
  refine ⟨{ s₁ with
    ri_v2_query_contexts := s₁.ri_v2_query_contexts.update request.request_trace_id
      (fun context => { context with consumed_event_id := some row.key }) }, ?_, ?_⟩
  · refine transaction_eq_ok.mpr ?_
    unfold claim_registered_trace_anchor_body
    rw [candidate_of_open hopen hnow, hnewest]
    show consume_context request row s = _
    unfold consume_context
    rw [hclaim, ok_bind, hcontexts, hopen.registered, Option.all_some, hopen.unused]
    rfl
  · refine ⟨⟨hclaims.free, hclaims.claims⟩, hopen.registered, hopen.correlation, hopen.query,
      hopen.unused, List.mem_of_getLast? hnewest, ?_⟩
    rw [hrest]

/-- A claim anchors the newest row, or changes nothing: then there is none, or it is
another request's. -/
theorem claim_registered_cases (s : EvidenceStore) (request : AnchorRequest) (now : Int) :
    (∃ context row s', Open s request context ∧ now ≤ context.expires_at ∧
        (s.anchor_rows context.min_event_rowid request).getLast? = some row ∧
        s.claim_registered_trace_anchor request now = (.ok (some row.val), s') ∧
        AnchorClaimed request s s' context row) ∨
      ((s.claim_registered_trace_anchor request now).2 = s ∧
        (∀ event, (s.claim_registered_trace_anchor request now).1 ≠ .ok (some event)) ∧
        ∀ row, s.registered_trace_candidate request now = .ok (some row) →
          ¬ Claimable s request row) := by
  by_cases h : ∃ row, s.registered_trace_candidate request now = .ok (some row) ∧
      Claimable s request row
  · obtain ⟨row, hcandidate, hclaimable⟩ := h
    obtain ⟨context, hopen, hnow, hnewest⟩ := open_of_candidate hcandidate
    obtain ⟨s', hclaim, hclaimed⟩ := claim_of_claimable hopen hnow hnewest.symm hclaimable
    exact Or.inl ⟨context, row, s', hopen, hnow, hnewest.symm, hclaim, hclaimed⟩
  · have hnone : ∀ row, s.registered_trace_candidate request now = .ok (some row) →
        ¬ Claimable s request row := fun row hcandidate hclaimable => h ⟨row, hcandidate, hclaimable⟩
    refine Or.inr ?_
    cases hrun : s.claim_registered_trace_anchor request now with
    | mk outcome s' =>
      cases outcome with
      | error e => exact ⟨transaction_error hrun, fun event hok => (nomatch hok), hnone⟩
      | ok found =>
        have hbody := transaction_eq_ok.mp hrun
        unfold claim_registered_trace_anchor_body at hbody
        obtain ⟨candidate, hcandidate, hbody⟩ := bind_eq_ok.mp hbody
        cases candidate with
        | none =>
          obtain ⟨rfl, rfl⟩ := Prod.mk.inj (Except.ok.inj hbody)
          exact ⟨rfl, fun event hok => (nomatch hok), hnone⟩
        | some row =>
          -- a claimed candidate was claimable
          obtain ⟨s₁, hclaim, _⟩ := bind_eq_ok.mp hbody
          exact absurd (claim_event_eq_ok hclaim).1.free (hnone row hcandidate)

/-- For an open, unexpired context a claim returns an anchor exactly when the newest row
is claimable. -/
theorem claim_returns_iff (hopen : Open s request context) (hnow : now ≤ context.expires_at) :
    (∃ event, (s.claim_registered_trace_anchor request now).1 = .ok (some event)) ↔
      ∃ newest, (s.anchor_rows context.min_event_rowid request).getLast? = some newest ∧
        Claimable s request newest := by
  constructor
  · intro h
    obtain ⟨event, hevent⟩ := h
    rcases claim_registered_cases s request now with
      ⟨context', row, s', hopen', _, hnewest, _, hclaimed⟩ | ⟨_, hnever, _⟩
    · obtain rfl : context = context' :=
        Option.some.inj (hopen.registered.symm.trans hopen'.registered)
      exact ⟨row, hnewest, hclaimed.free⟩
    · exact absurd hevent (hnever event)
  · intro h
    obtain ⟨newest, hnewest, hclaimable⟩ := h
    obtain ⟨s', hclaim, _⟩ := claim_of_claimable hopen hnow hnewest hclaimable
    exact ⟨newest.val, by rw [hclaim]⟩

end Claims

/-- An unclaimed answer of an open context comes with a claimable newest row. -/
def Reaches (c : ContextState) (request : AnchorRequest) (context : QueryContext) : Prop :=
  (∃ row, Answer c request row ∧ Unclaimed c.store row) →
    ∃ newest, (c.store.anchor_rows context.min_event_rowid request).getLast? = some newest ∧
      Claimable c.store request newest

theorem finds_iff {clock : Clock} {c : ContextState} :
    Finds clock c ↔ ∀ request context, Open c.store request context →
      Live clock c.clock context → Reaches c request context := by
  constructor
  · intro h request context hopen hlive hanswer
    obtain ⟨now, hadmits, hnow⟩ := hlive
    exact (claim_returns_iff hopen hnow).mp (h request context now hopen hadmits hnow hanswer)
  · intro h request context now hopen hadmits hnow hanswer
    exact (claim_returns_iff hopen hnow).mpr
      (h request context hopen ⟨now, hadmits, hnow⟩ hanswer)

/-- As time passes contexts only expire. -/
theorem Live.of_passed {clock : Clock} {c : ContextState} {context : QueryContext} {now : Int}
    (h : Live clock (c.passed now).clock context) : Live clock c.clock context := by
  obtain ⟨later, hadmits, hexpiry⟩ := h
  cases clock with
  | adjustable => exact ⟨later, trivial, hexpiry⟩
  | forward =>
    have hshown : max c.clock now ≤ later := hadmits
    exact ⟨later, (le_max_left c.clock now).trans hshown, hexpiry⟩

/-! ## §4. Ingestion. -/

/-- Claims are of stored events, and what lies past a context's first row id was
ingested after its registration. -/
structure ContextInv (c : ContextState) : Prop where
  claimed : ClaimsStored c.store
  bounds : ∀ request_trace_id context,
    c.store.ri_v2_query_contexts.get? request_trace_id = some context →
    ∀ row ∈ c.store.ri_v2_trace_events.rows, context.min_event_rowid ≤ row.rowid →
      row.key ∈ c.since request_trace_id

section Steps

variable {clock : Clock} {c : ContextState} {s' : EvidenceStore} {request : AnchorRequest}
variable {context : QueryContext} {row : Row String TraceEventV2}

theorem Open.congr {s : EvidenceStore} (h : s'.ri_v2_query_contexts = s.ri_v2_query_contexts) :
    Open s' request context ↔ Open s request context := by
  constructor
  · intro hopen
    exact ⟨h ▸ hopen.registered, hopen.correlation, hopen.query, hopen.unused⟩
  · intro hopen
    exact ⟨h.symm ▸ hopen.registered, hopen.correlation, hopen.query, hopen.unused⟩

theorem new_rows_eq {s : EvidenceStore} {events : List TraceEventV2}
    {added : List (Row String TraceEventV2)}
    (h : TracesAppended events s (s.put_trace_events events).2 added) :
    new_rows s events = added := by
  unfold new_rows
  rw [h.rows, List.drop_left]

/-- What a state is after a batch. -/
def ContextState.appended (c : ContextState) (s' : EvidenceStore)
    (added : List (Row String TraceEventV2)) : ContextState :=
  { c with
    store := s'
    since := fun id => c.since id ++ added.map Row.key }

variable {events : List TraceEventV2} {added : List (Row String TraceEventV2)}

theorem ContextInv.appended (h : ContextInv c) (hadded : TracesAppended events c.store s' added) :
    ContextInv (c.appended s' added) := by
  refine ⟨(hadded.claims_kept h.claimed).stored, ?_⟩
  intro request_trace_id context hcontext row hrow hbound
  have hrow : row ∈ s'.ri_v2_trace_events.rows := hrow
  rw [hadded.rows] at hrow
  rcases List.mem_append.mp hrow with hold | hnew
  · have hcontext : s'.ri_v2_query_contexts.get? request_trace_id = some context := hcontext
    rw [hadded.rest] at hcontext
    exact List.mem_append_left _ (h.bounds request_trace_id context hcontext row hold hbound)
  · exact List.mem_append_right _ (List.mem_map_of_mem hnew)

/-- A new row is unclaimed. -/
theorem unclaimed_of_added (h : ContextInv c) (hadded : TracesAppended events c.store s' added)
    (hrow : row ∈ added) : Unclaimed s' row := by
  unfold Unclaimed
  rw [hadded.rest]
  cases hclaim : c.store.ri_v2_trace_event_claims.get? row.key with
  | none => rfl
  | some owner =>
    obtain ⟨event, hevent⟩ := h.claimed row.key owner hclaim
    rw [(hadded.fresh row hrow).1] at hevent
    cases hevent

/-- The rows a claim looks at, before and after a batch. -/
theorem anchor_rows_appended (hadded : TracesAppended events c.store s' added)
    (min_event_rowid : Nat) (request : AnchorRequest) :
    s'.anchor_rows min_event_rowid request =
      c.store.anchor_rows min_event_rowid request ++ added.filter (fun row =>
        decide (min_event_rowid ≤ row.rowid) && answers_request request row.val) := by
  rw [anchor_rows_eq, anchor_rows_eq, hadded.rows, List.filter_append]

/-- After a batch with new answers, one of them has to lie past the registration. -/
theorem reaches_appended_iff (hinv : ContextInv c)
    (hadded : TracesAppended events c.store s' added) (hreaches : Reaches c request context) :
    Reaches (c.appended s' added) request context ↔
      ((∃ row ∈ added, answers_request request row.val = true) →
        ∃ row ∈ added, answers_request request row.val = true ∧
          context.min_event_rowid ≤ row.rowid) := by
  constructor
  · intro h hnew
    obtain ⟨row, hrow, hanswers⟩ := hnew
    have hstored : row ∈ s'.ri_v2_trace_events.rows := by
      rw [hadded.rows]
      exact List.mem_append_right _ hrow
    obtain ⟨newest, hnewest, _⟩ := h ⟨row, ⟨hstored,
      List.mem_append_right _ (List.mem_map_of_mem hrow), hanswers⟩,
      unclaimed_of_added hinv hadded hrow⟩
    have hmem : newest ∈ s'.anchor_rows context.min_event_rowid request :=
      List.mem_of_getLast? hnewest
    rw [anchor_rows_appended hadded] at hmem
    rcases List.mem_append.mp hmem with hold | hadded'
    · -- an older row lies past the registration, and new rows lie past all older ones
      obtain ⟨holder, hbound, _⟩ := mem_anchor_rows.mp hold
      have hlt := (hadded.fresh row hrow).2.2.2
      have hle := RowTable.rowid_le_maxRowid c.store.ri_v2_trace_events holder
      exact ⟨row, hrow, hanswers, by omega⟩
    · obtain ⟨hin, hboth⟩ := List.mem_filter.mp hadded'
      obtain ⟨hbound, hanswer⟩ := Bool.and_eq_true_iff.mp hboth
      exact ⟨newest, hin, hanswer, of_decide_eq_true hbound⟩
  · intro h hanswer
    by_cases hnew : ∃ row ∈ added, answers_request request row.val = true
    · -- the newest row is a new one
      obtain ⟨row, hrow, hanswers, hbound⟩ := h hnew
      have hin : row ∈ added.filter (fun row =>
          decide (context.min_event_rowid ≤ row.rowid) && answers_request request row.val) :=
        List.mem_filter.mpr ⟨hrow, Bool.and_eq_true_iff.mpr ⟨decide_eq_true hbound, hanswers⟩⟩
      obtain ⟨newest, hnewest⟩ := Option.isSome_iff_exists.mp
        (List.getLast?_isSome.mpr (List.ne_nil_of_mem hin))
      refine ⟨newest, ?_, ?_⟩
      · show (s'.anchor_rows context.min_event_rowid request).getLast? = some newest
        rw [anchor_rows_appended hadded, List.getLast?_append, hnewest]
        rfl
      · intro owner howner
        have hmem := (List.mem_filter.mp (List.mem_of_getLast? hnewest)).1
        have hnone : s'.ri_v2_trace_event_claims.get? newest.key = none :=
          unclaimed_of_added hinv hadded hmem
        rw [show (c.appended s' added).store = s' from rfl, hnone] at howner
        cases howner
    · -- nothing new for this context: as before
      have hnone : added.filter (fun row =>
          decide (context.min_event_rowid ≤ row.rowid) && answers_request request row.val) = [] := by
        rw [List.filter_eq_nil_iff]
        intro row hrow hboth
        exact hnew ⟨row, hrow, (Bool.and_eq_true_iff.mp hboth).2⟩
      have hclaims : s'.ri_v2_trace_event_claims = c.store.ri_v2_trace_event_claims := by
        rw [hadded.rest]
      obtain ⟨row, ⟨hstored, hlater, hanswers⟩, hfree⟩ := hanswer
      have hstored : row ∈ s'.ri_v2_trace_events.rows := hstored
      rw [hadded.rows] at hstored
      have hold : row ∈ c.store.ri_v2_trace_events.rows :=
        (List.mem_append.mp hstored).resolve_right (fun hin => hnew ⟨row, hin, hanswers⟩)
      have hlater : row.key ∈ c.since request.request_trace_id := by
        refine (List.mem_append.mp hlater).resolve_right ?_
        intro hin
        obtain ⟨other, hother, hkey⟩ := List.mem_map.mp hin
        exact RowTable.get?_eq_none_iff.mp (hadded.fresh other hother).1 row hold hkey.symm
      have hfree : s'.ri_v2_trace_event_claims.get? row.key = none := hfree
      rw [hclaims] at hfree
      obtain ⟨newest, hnewest, hclaimable⟩ := hreaches ⟨row, ⟨hold, hlater, hanswers⟩, hfree⟩
      refine ⟨newest, ?_, ?_⟩
      · show (s'.anchor_rows context.min_event_rowid request).getLast? = some newest
        rw [anchor_rows_appended hadded, hnone, List.append_nil]
        exact hnewest
      · intro owner howner
        refine hclaimable owner ?_
        rw [← hclaims]
        exact howner

/-! ## §5. Registrations, claims and purges. -/

/-- Rows, claims and notes that a context needs, unchanged. -/
theorem Reaches.congr {c' : ContextState} (h : Reaches c request context)
    (hevents : c'.store.ri_v2_trace_events = c.store.ri_v2_trace_events)
    (hclaims : c'.store.ri_v2_trace_event_claims = c.store.ri_v2_trace_event_claims)
    (hsince : c'.since request.request_trace_id = c.since request.request_trace_id) :
    Reaches c' request context := by
  unfold Reaches Claimable Unclaimed anchor_rows
  rw [hevents, hclaims]
  intro hanswer
  obtain ⟨row, ⟨hstored, hlater, hanswers⟩, hfree⟩ := hanswer
  rw [hevents] at hstored
  rw [hsince] at hlater
  exact h ⟨row, ⟨hstored, hlater, hanswers⟩, hfree⟩

/-- What a state is after a registration that succeeds. -/
def ContextState.registered (c : ContextState) (table : RowTable String QueryContext)
    (request_trace_id : String) : ContextState :=
  { c with
    store := { c.store with ri_v2_query_contexts := table }
    since := registered_since c.since request_trace_id (.ok ()) }

/-- A new context starts past all rows, and has no answers yet. -/
theorem registered_spec {table : RowTable String QueryContext} {request_trace_id : String}
    {value : QueryContext} (hinv : ContextInv c)
    (htable : c.store.ri_v2_query_contexts.insert? request_trace_id value = some table)
    (hbound : value.min_event_rowid = c.store.ri_v2_trace_events.maxRowid + 1) :
    ContextInv (c.registered table request_trace_id) ∧
      (Finds clock c → Finds clock (c.registered table request_trace_id)) := by
  have hget := RowTable.get?_of_insert? htable
  constructor
  · refine ⟨hinv.claimed, ?_⟩
    intro id context hcontext row hrow hle
    have hcontext : table.get? id = some context := hcontext
    have hrow : row ∈ c.store.ri_v2_trace_events.rows := hrow
    rw [hget] at hcontext
    by_cases hid : id = request_trace_id
    · rw [if_pos hid] at hcontext
      obtain rfl := Option.some.inj hcontext
      have hmax := RowTable.rowid_le_maxRowid c.store.ri_v2_trace_events hrow
      omega
    · rw [if_neg hid] at hcontext
      show row.key ∈ (if id = request_trace_id then [] else c.since id)
      rw [if_neg hid]
      exact hinv.bounds id context hcontext row hrow hle
  · intro hfinds
    rw [finds_iff] at hfinds ⊢
    intro request context hopen hlive
    by_cases hid : request.request_trace_id = request_trace_id
    · intro hanswer
      obtain ⟨row, ⟨_, hlater, _⟩, _⟩ := hanswer
      have hlater : row.key ∈ (if request.request_trace_id = request_trace_id then []
        else c.since request.request_trace_id) := hlater
      rw [if_pos hid] at hlater
      cases hlater
    · have hregistered : table.get? request.request_trace_id = some context := hopen.registered
      rw [hget, if_neg hid] at hregistered
      refine (hfinds request context ⟨hregistered, hopen.correlation, hopen.query,
        hopen.unused⟩ hlive).congr rfl rfl ?_
      exact if_neg hid

variable {taken : Row String TraceEventV2} {request' : AnchorRequest}

/-- After a claim the contexts of other requests are as they were, and its own is used. -/
theorem open_claimed_iff (hclaimed : AnchorClaimed request c.store s' context taken)
    {other : AnchorRequest} {context' : QueryContext} :
    Open s' other context' ↔
      other.request_trace_id ≠ request.request_trace_id ∧ Open c.store other context' := by
  have hget : ∀ id, s'.ri_v2_query_contexts.get? id =
      if id = request.request_trace_id then (c.store.ri_v2_query_contexts.get? id).map
        (fun context => { context with consumed_event_id := some taken.key })
      else c.store.ri_v2_query_contexts.get? id := by
    intro id
    rw [hclaimed.rest]
    exact RowTable.get?_update _ _ _ _
  constructor
  · intro hopen
    have hregistered := hopen.registered
    rw [hget] at hregistered
    by_cases hid : other.request_trace_id = request.request_trace_id
    · -- its own context is used up
      rw [if_pos hid] at hregistered
      obtain ⟨before, _, hafter⟩ := Option.map_eq_some_iff.mp hregistered
      have hunused := hopen.unused
      rw [← hafter] at hunused
      cases hunused
    · rw [if_neg hid] at hregistered
      exact ⟨hid, hregistered, hopen.correlation, hopen.query, hopen.unused⟩
  · intro h
    obtain ⟨hid, hopen⟩ := h
    refine ⟨?_, hopen.correlation, hopen.query, hopen.unused⟩
    rw [hget, if_neg hid]
    exact hopen.registered

theorem ContextInv.claimed_anchor (hinv : ContextInv c)
    (hclaimed : AnchorClaimed request c.store s' context taken) :
    ContextInv { c with store := s' } := by
  have hevents : s'.ri_v2_trace_events = c.store.ri_v2_trace_events := by rw [hclaimed.rest]
  constructor
  · intro event_id owner hclaim
    have hclaim : s'.ri_v2_trace_event_claims.get? event_id = some owner := hclaim
    show ∃ event, s'.ri_v2_trace_events.get? event_id = some event
    rw [hclaimed.claims] at hclaim
    rw [hevents]
    by_cases hid : event_id = taken.key
    · rw [hid]
      exact ⟨taken.val, RowTable.get?_of_mem (mem_anchor_rows.mp hclaimed.selected).1⟩
    · rw [if_neg hid] at hclaim
      exact hinv.claimed event_id owner hclaim
  · intro id context' hcontext row hrow hle
    have hcontext : s'.ri_v2_query_contexts.get? id = some context' := hcontext
    have hrow : row ∈ s'.ri_v2_trace_events.rows := hrow
    rw [hclaimed.rest] at hcontext
    rw [hevents] at hrow
    have hcontext : (c.store.ri_v2_query_contexts.update request.request_trace_id
      (fun context => { context with consumed_event_id := some taken.key })).get? id =
        some context' := hcontext
    rw [RowTable.get?_update] at hcontext
    by_cases hid : id = request.request_trace_id
    · rw [if_pos hid] at hcontext
      obtain ⟨before, hbefore, hafter⟩ := Option.map_eq_some_iff.mp hcontext
      rw [← hafter] at hle
      exact hinv.bounds id before hbefore row hrow hle
    · rw [if_neg hid] at hcontext
      exact hinv.bounds id context' hcontext row hrow hle

/-- A context that found its answers still does after another one's claim, unless the
claim took its newest row and left an unclaimed one. -/
theorem reaches_claimed_iff (hclaimed : AnchorClaimed request c.store s' context taken)
    {other : AnchorRequest} {context' : QueryContext}
    (hid : other.request_trace_id ≠ request.request_trace_id)
    (hreaches : Reaches c other context') :
    Reaches { c with store := s' } other context' ↔
      (Unclaimed c.store taken →
        (c.store.anchor_rows context'.min_event_rowid other).getLast? = some taken →
        ∀ row, Answer c other row → row.key ≠ taken.key → ¬ Unclaimed c.store row) := by
  have hevents : s'.ri_v2_trace_events = c.store.ri_v2_trace_events := by rw [hclaimed.rest]
  have hrows : s'.anchor_rows context'.min_event_rowid other =
      c.store.anchor_rows context'.min_event_rowid other := by
    unfold anchor_rows
    rw [hevents]
  have hstored : ∀ row, Answer { c with store := s' } other row ↔ Answer c other row := by
    intro row
    constructor
    · intro h
      exact ⟨hevents ▸ h.stored, h.later, h.answers⟩
    · intro h
      exact ⟨hevents.symm ▸ h.stored, h.later, h.answers⟩
  constructor
  · intro h hfree hnewest row hanswer hkey hunclaimed
    have hstill : Unclaimed s' row := by
      unfold Unclaimed
      rw [hclaimed.claims, if_neg hkey]
      exact hunclaimed
    obtain ⟨newest, hnewest', hclaimable⟩ := h ⟨row, (hstored row).mpr hanswer, hstill⟩
    have hnewest' : (s'.anchor_rows context'.min_event_rowid other).getLast? = some newest :=
      hnewest'
    rw [hrows, hnewest] at hnewest'
    obtain rfl := Option.some.inj hnewest'
    -- the newest row is now the other request's
    refine hid (hclaimable request.request_trace_id ?_).symm
    show s'.ri_v2_trace_event_claims.get? taken.key = some request.request_trace_id
    rw [hclaimed.claims, if_pos rfl]
  · intro h hanswer
    obtain ⟨row, hrow, hunclaimed⟩ := hanswer
    have hrow : Answer c other row := (hstored row).mp hrow
    have hunclaimed : s'.ri_v2_trace_event_claims.get? row.key = none := hunclaimed
    rw [hclaimed.claims] at hunclaimed
    by_cases hkey : row.key = taken.key
    · rw [if_pos hkey] at hunclaimed
      cases hunclaimed
    · rw [if_neg hkey] at hunclaimed
      obtain ⟨newest, hnewest, hclaimable⟩ := hreaches ⟨row, hrow, hunclaimed⟩
      refine ⟨newest, ?_, ?_⟩
      · show (s'.anchor_rows context'.min_event_rowid other).getLast? = some newest
        rw [hrows]
        exact hnewest
      · intro owner howner
        have howner : s'.ri_v2_trace_event_claims.get? newest.key = some owner := howner
        rw [hclaimed.claims] at howner
        by_cases hsame : newest.key = taken.key
        · -- taken is the newest row, so it was not free, or nothing else is
          exfalso
          have hnewest_mem := (mem_anchor_rows.mp (List.mem_of_getLast? hnewest)).1
          have htaken_mem := (mem_anchor_rows.mp hclaimed.selected).1
          obtain rfl : newest = taken := RowTable.row_ext_of_key hnewest_mem htaken_mem hsame
          cases hget : c.store.ri_v2_trace_event_claims.get? newest.key with
          | none => exact h hget hnewest row hrow hkey hunclaimed
          | some previous =>
            exact hid ((hclaimable previous hget).symm.trans (hclaimed.free previous hget))
        · rw [if_neg hsame] at howner
          exact hclaimable owner howner

theorem ContextInv.purged (hinv : ContextInv c) (observed_before : Int) :
    ContextInv { c with store := c.store.purge_trace_events observed_before } := by
  refine ⟨(purge_trace_events_claims_kept observed_before hinv.claimed).stored, ?_⟩
  intro id context hcontext row hrow hle
  exact hinv.bounds id context hcontext row (mem_purge_trace_events.mp hrow).1 hle

/-- A purge is judged by the rows it leaves. -/
theorem reaches_purged_iff {observed_before : Int} :
    Reaches { c with store := c.store.purge_trace_events observed_before } request context ↔
      ((∃ row, Answer c request row ∧ ¬ row.val.observed_at < observed_before ∧
          Unclaimed c.store row) →
        ∃ newest, ((c.store.anchor_rows context.min_event_rowid request).filter
            (fun row => !decide (row.val.observed_at < observed_before))).getLast? =
              some newest ∧
          Claimable c.store request newest) := by
  have hrows : (c.store.purge_trace_events observed_before).anchor_rows context.min_event_rowid
      request = (c.store.anchor_rows context.min_event_rowid request).filter
        (fun row => !decide (row.val.observed_at < observed_before)) := by
    unfold anchor_rows
    rw [List.filter_filter]
    show (List.filter _ _).filter _ = _
    rw [List.filter_filter]
    refine List.filter_congr ?_
    intro row _
    exact Bool.and_comm _ _
  -- the claim of a row that stays is as it was
  have hclaim : ∀ row ∈ c.store.ri_v2_trace_events.rows, ¬ row.val.observed_at < observed_before →
      ∀ owner, (c.store.purge_trace_events observed_before).ri_v2_trace_event_claims.get?
        row.key = some owner ↔ c.store.ri_v2_trace_event_claims.get? row.key = some owner := by
    intro row hrow hstays owner
    rw [claim_of_purge]
    constructor
    · intro h
      exact h.1
    · intro h
      refine ⟨h, fun event hevent => ?_⟩
      rw [RowTable.get?_of_mem hrow] at hevent
      obtain rfl := Option.some.inj hevent
      exact hstays
  have hanswer : (∃ row, Answer { c with store := c.store.purge_trace_events observed_before }
        request row ∧ Unclaimed (c.store.purge_trace_events observed_before) row) ↔
      ∃ row, Answer c request row ∧ ¬ row.val.observed_at < observed_before ∧
        Unclaimed c.store row := by
    constructor
    · intro h
      obtain ⟨row, ⟨hstored, hlater, hanswers⟩, hfree⟩ := h
      obtain ⟨hin, hstays⟩ := mem_purge_trace_events.mp hstored
      refine ⟨row, ⟨hin, hlater, hanswers⟩, hstays, ?_⟩
      refine Option.eq_none_iff_forall_ne_some.mpr (fun owner howner => ?_)
      exact Option.eq_none_iff_forall_ne_some.mp hfree owner ((hclaim row hin hstays owner).mpr howner)
    · intro h
      obtain ⟨row, ⟨hin, hlater, hanswers⟩, hstays, hfree⟩ := h
      refine ⟨row, ⟨mem_purge_trace_events.mpr ⟨hin, hstays⟩, hlater, hanswers⟩, ?_⟩
      refine Option.eq_none_iff_forall_ne_some.mpr (fun owner howner => ?_)
      exact Option.eq_none_iff_forall_ne_some.mp hfree owner ((hclaim row hin hstays owner).mp howner)
  have hnewest : ∀ newest, ((c.store.anchor_rows context.min_event_rowid request).filter
      (fun row => !decide (row.val.observed_at < observed_before))).getLast? = some newest →
      (Claimable (c.store.purge_trace_events observed_before) request newest ↔
        Claimable c.store request newest) := by
    intro newest hlast
    obtain ⟨hmem, hstays⟩ := List.mem_filter.mp (List.mem_of_getLast? hlast)
    have hin := (mem_anchor_rows.mp hmem).1
    have hstays : ¬ newest.val.observed_at < observed_before := by simpa using hstays
    exact forall_congr' fun owner => imp_congr (hclaim newest hin hstays owner) Iff.rfl
  unfold Reaches
  rw [hanswer]
  refine imp_congr Iff.rfl ?_
  constructor
  · intro h
    obtain ⟨newest, hlast, hclaimable⟩ := h
    have hlast : ((c.store.purge_trace_events observed_before).anchor_rows
      context.min_event_rowid request).getLast? = some newest := hlast
    rw [hrows] at hlast
    exact ⟨newest, hlast, (hnewest newest hlast).mp hclaimable⟩
  · intro h
    obtain ⟨newest, hlast, hclaimable⟩ := h
    refine ⟨newest, ?_, (hnewest newest hlast).mpr hclaimable⟩
    show ((c.store.purge_trace_events observed_before).anchor_rows
      context.min_event_rowid request).getLast? = some newest
    rw [hrows]
    exact hlast

end Steps

/-! ## §6. Whole runs. -/

section Runs

variable {clock : Clock} {c : ContextState}

theorem ContextInv.passed (h : ContextInv c) (now : Int) : ContextInv (c.passed now) :=
  ⟨h.claimed, h.bounds⟩

theorem reaches_passed_iff {request : AnchorRequest} {context : QueryContext} (now : Int) :
    Reaches (c.passed now) request context ↔ Reaches c request context :=
  ⟨fun h => h.congr rfl rfl rfl, fun h => h.congr rfl rfl rfl⟩

theorem Finds.passed (h : Finds clock c) (now : Int) : Finds clock (c.passed now) := by
  rw [finds_iff] at h ⊢
  intro request context hopen hlive
  exact (reaches_passed_iff now).mpr (h request context hopen hlive.of_passed)

/-- One step keeps the invariant, and keeps the law exactly when it is unobstructed. -/
theorem context_step_spec (hinv : ContextInv c) (step : ContextStep) :
    ContextInv (context_step c step) ∧
      (Finds clock c → (Finds clock (context_step c step) ↔ Unobstructed clock c step)) := by
  cases step with
  | put_trace_events events =>
    obtain ⟨added, hadded⟩ := put_trace_events_appends events c.store
    have hcontexts : (c.store.put_trace_events events).2.ri_v2_query_contexts =
        c.store.ri_v2_query_contexts := by rw [hadded.rest]
    have hstep : context_step c (.put_trace_events events) =
        c.appended (c.store.put_trace_events events).2 added := by
      show (⟨_, fun id => c.since id ++ (new_rows c.store events).map Row.key, _⟩ :
        ContextState) = _
      rw [new_rows_eq hadded]
      rfl
    rw [hstep]
    refine ⟨hinv.appended hadded, fun hfinds => ?_⟩
    have hreaches := finds_iff.mp hfinds
    rw [finds_iff]
    constructor
    · intro h request context hopen hlive hnew
      rw [new_rows_eq hadded] at hnew ⊢
      exact (reaches_appended_iff hinv hadded (hreaches request context hopen hlive)).mp
        (h request context ((Open.congr hcontexts).mpr hopen) hlive) hnew
    · intro h request context hopen hlive
      have hopen := (Open.congr hcontexts).mp hopen
      have hnew := h request context hopen hlive
      rw [new_rows_eq hadded] at hnew
      exact (reaches_appended_iff hinv hadded (hreaches request context hopen hlive)).mpr hnew
  | register_query_context request_trace_id correlation_id query_digest registered_at expires_at =>
    rcases c.store.register_query_context_cases request_trace_id correlation_id query_digest
        registered_at expires_at with ⟨e, heq⟩ | ⟨table, heq, htable⟩
    · have hstep : context_step c (.register_query_context request_trace_id correlation_id
          query_digest registered_at expires_at) = c.passed registered_at := by
        simp only [context_step, heq, registered_since]
        rfl
      rw [hstep]
      exact ⟨hinv.passed registered_at,
        fun hfinds => iff_of_true (hfinds.passed registered_at) trivial⟩
    · have hstep : context_step c (.register_query_context request_trace_id correlation_id
          query_digest registered_at expires_at) =
            (c.passed registered_at).registered table request_trace_id := by
        simp only [context_step, heq, ContextState.registered]
        rfl
      rw [hstep]
      obtain ⟨hkept, hstill⟩ := registered_spec (hinv.passed registered_at) htable rfl
      exact ⟨hkept, fun hfinds => iff_of_true (hstill (hfinds.passed registered_at)) trivial⟩
  | claim_registered_trace_anchor request now =>
    rcases claim_registered_cases c.store request now with
      ⟨context, taken, s', hopen, hnow, hnewest, hrun, hclaimed⟩ | ⟨hsame, _, hnone⟩
    · have hstep : context_step c (.claim_registered_trace_anchor request now) =
          ({ c with store := s' } : ContextState).passed now := by
        simp only [context_step, hrun]
        rfl
      have hcandidate := candidate_of_open hopen hnow
      rw [hnewest] at hcandidate
      rw [hstep]
      refine ⟨(hinv.claimed_anchor hclaimed).passed now, fun hfinds => ?_⟩
      have hreaches := finds_iff.mp hfinds
      rw [finds_iff]
      constructor
      · intro h row hrow hfree other context' hid hother hlive
        obtain rfl : taken = row := by
          rw [hcandidate] at hrow
          exact Option.some.inj (Except.ok.inj hrow)
        have hafter := h other context' ((open_claimed_iff hclaimed).mpr ⟨hid, hother⟩) hlive
        exact (reaches_claimed_iff hclaimed hid (hreaches other context' hother
          hlive.of_passed)).mp ((reaches_passed_iff now).mp hafter) hfree
      · intro h other context' hother hlive
        obtain ⟨hid, hother⟩ := (open_claimed_iff hclaimed).mp hother
        refine (reaches_passed_iff now).mpr ((reaches_claimed_iff hclaimed hid
          (hreaches other context' hother hlive.of_passed)).mpr ?_)
        intro hfree
        exact h taken hcandidate hfree other context' hid hother hlive
    · have hstep : context_step c (.claim_registered_trace_anchor request now) =
          c.passed now := by
        simp only [context_step, hsame]
        rfl
      rw [hstep]
      refine ⟨hinv.passed now, fun hfinds => iff_of_true (hfinds.passed now) ?_⟩
      -- an unclaimed candidate would have been claimed
      intro taken hcandidate hfree
      refine absurd ?_ (hnone taken hcandidate)
      intro owner howner
      rw [hfree] at howner
      cases howner
  | purge_trace_events observed_before =>
    have hcontexts : (c.store.purge_trace_events observed_before).ri_v2_query_contexts =
        c.store.ri_v2_query_contexts := rfl
    refine ⟨hinv.purged observed_before, fun _ => ?_⟩
    rw [finds_iff]
    constructor
    · intro h request context hopen hlive
      exact reaches_purged_iff.mp (h request context ((Open.congr hcontexts).mpr hopen) hlive)
    · intro h request context hopen hlive
      exact reaches_purged_iff.mpr (h request context ((Open.congr hcontexts).mp hopen) hlive)
  | purge_query_contexts now =>
    have hget : ∀ {id context}, (c.store.purge_query_contexts now).ri_v2_query_contexts.get? id =
        some context → c.store.ri_v2_query_contexts.get? id = some context := by
      intro id context hcontext
      exact (RowTable.get?_deleteWhere_eq_some.mp hcontext).1
    refine ⟨⟨hinv.claimed, fun id context hcontext => hinv.bounds id context (hget hcontext)⟩,
      fun hfinds => iff_of_true ?_ trivial⟩
    have hreaches := finds_iff.mp (hfinds.passed now)
    rw [finds_iff]
    intro request context hopen hlive
    exact (hreaches request context ⟨hget hopen.registered, hopen.correlation, hopen.query,
      hopen.unused⟩ hlive).congr rfl rfl rfl

theorem context_inv_init : ContextInv contexts.init where
  claimed := fun _ _ hclaim => (nomatch hclaim)
  bounds := fun _ _ hcontext => (nomatch hcontext)

end Runs

/-- In every run, whether the clock may be set back or not: every registered query finds
its answer in every state passed through exactly when no step obstructs one. -/
theorem always_finds_iff (clock : Clock) (steps : List ContextStep) :
    contexts.Always (Finds clock) steps ↔ contexts.Along (Unobstructed clock) steps := by
  -- every context still finds its answers before the first step: there is none
  have hfinds : Finds clock contexts.init := by
    intro request context now hopen
    cases hopen.registered
  refine Machine.always_iff_along context_inv_init ?_ hfinds ?_ ?_ steps
  · intro c step c' hinv _ hstep
    obtain rfl := Option.some.inj hstep
    exact (@context_step_spec clock c hinv step).1
  · intro c step hdisabled
    cases hdisabled
  · intro c step c' hinv hfinds hstep
    obtain rfl := Option.some.inj hstep
    exact (context_step_spec hinv step).2 hfinds

/-! ## §7. Two hidden answers. -/

/-- The claim returns no anchor although an unclaimed answer is stored. -/
def hidden (request : AnchorRequest) (now : Int) (c : ContextState) : Bool :=
  decide (c.clock ≤ now) &&
  (c.store.ri_v2_query_contexts.get? request.request_trace_id).any (fun context =>
      context.correlation_id = request.correlation_id &&
        context.query_digest = request.query_digest && context.consumed_event_id.isNone &&
        now ≤ context.expires_at) &&
    c.store.ri_v2_trace_events.rows.any (fun row =>
      (c.since request.request_trace_id).contains row.key && answers_request request row.val &&
        (c.store.ri_v2_trace_event_claims.get? row.key).isNone) &&
    match (c.store.claim_registered_trace_anchor request now).1 with
    | .ok (some _) => false
    | _ => true

theorem not_finds_of_hidden {request : AnchorRequest} {now : Int} {c : ContextState}
    (h : hidden request now c = true) : ¬ Finds .forward c := by
  intro hfinds
  unfold hidden at h
  obtain ⟨hboth, hnothing⟩ := Bool.and_eq_true_iff.mp h
  obtain ⟨hboth, hanswer⟩ := Bool.and_eq_true_iff.mp hboth
  obtain ⟨htime, hcontext⟩ := Bool.and_eq_true_iff.mp hboth
  have htime : c.clock ≤ now := of_decide_eq_true htime
  rw [Option.any_eq_true] at hcontext
  obtain ⟨context, hregistered, hopen⟩ := hcontext
  obtain ⟨row, hstored, hrow⟩ := List.any_eq_true.mp hanswer
  simp only [Bool.and_eq_true, decide_eq_true_eq, Option.isNone_iff_eq_none,
    List.contains_iff_mem] at hopen hrow
  obtain ⟨event, hclaim⟩ := hfinds request context now
    ⟨hregistered, hopen.1.1.1, hopen.1.1.2, hopen.1.2⟩ htime hopen.2
    ⟨row, ⟨hstored, hrow.1.1, hrow.1.2⟩, hrow.2⟩
  rw [hclaim] at hnothing
  cases hnothing

/-- A client's question and its answer, as one trace of `resolver-a`. -/
def answered_trace (trace_id : String) (observed_at : Int) : List TraceEventV2 :=
  let question : TraceEventV2 :=
    { schema_version := TRACE_EVENT_V2
      event_id := trace_id ++ "/1"
      trace_id := trace_id
      sequence := 1
      correlation_id := digest_of 'a'
      parent_event_id := none
      kind := .clientQuery
      observer_server_id := "resolver-a"
      target_server_id := none
      target_endpoint := none
      target_correlation_id := none
      attempt := none
      query_digest := digest_of 'b'
      response_digest := none
      cache_object_digest := none
      observed_at := observed_at
      dnssec_status := .secure
      ttl_expires_at := none
      source_graph_digest := none
      failure_reason := none }
  [question,
    { question with
      event_id := trace_id ++ "/2"
      sequence := 2
      parent_event_id := some (trace_id ++ "/1")
      kind := .clientResponse
      response_digest := some (digest_of 'c')
      cache_object_digest := some (digest_of 'd') }]

/-- A request for that answer. -/
def request_of (request_trace_id : String) : AnchorRequest where
  request_trace_id := request_trace_id
  server_id := "resolver-a"
  correlation_id := digest_of 'a'
  query_digest := digest_of 'b'
  response_digest := digest_of 'c'

/-- A context of one minute. -/
def registers_at (request_trace_id : String) (now : Int) : ContextStep :=
  .register_query_context request_trace_id (digest_of 'a') (digest_of 'b') now (now + 60)

/-- Between registration and answer the only events stored are purged, and the answer
gets the row id of one of them. -/
def purged_run : List ContextStep :=
  [.put_trace_events (answered_trace "trace-0" 1000), registers_at "request-1" 5000,
    .purge_trace_events 1400, .put_trace_events (answered_trace "trace-1" 5001)]

/-- Two requests wait for two answers, and one takes the newest. -/
def competing_run : List ContextStep :=
  [registers_at "request-1" 5000, registers_at "request-2" 5000,
    .put_trace_events (answered_trace "trace-1" 5001),
    .put_trace_events (answered_trace "trace-2" 5001),
    .claim_registered_trace_anchor (request_of "request-1") 5002]

theorem hidden_answers :
    (contexts.run purged_run).map (hidden (request_of "request-1") 5002) = some true ∧
      (contexts.run competing_run).map (hidden (request_of "request-2") 5002) = some true := by
  decide +kernel

/-- The clock only goes forward in both runs. -/
theorem answers_not_found :
    ¬ contexts.Always (Finds .forward) purged_run ∧
      ¬ contexts.Always (Finds .forward) competing_run := by
  obtain ⟨hpurged, hcompeting⟩ := hidden_answers
  obtain ⟨c, hc, hhidden⟩ := Option.map_eq_some_iff.mp hpurged
  obtain ⟨c', hc', hhidden'⟩ := Option.map_eq_some_iff.mp hcompeting
  constructor
  · intro h
    exact not_finds_of_hidden hhidden (h purged_run [] c (List.append_nil _).symm hc)
  · intro h
    exact not_finds_of_hidden hhidden' (h competing_run [] c' (List.append_nil _).symm hc')

end ResolverIdentity.Store
