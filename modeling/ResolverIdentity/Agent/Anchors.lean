/-
  ResolverIdentity.Agent.Anchors: which request an anchor event belongs to.

  Ingestion, query contexts, the two claiming operations and the Agent's
  maintenance, in any order under a clock that does not go back.  The history
  lists what was inserted, registered and claimed; `lost` the events whose claim
  went with them when a purge deleted them.

  Main results:
    * `AnchorInv.step`: what one step keeps, as long as no lost event comes back;
    * `anchors_single_use`: over whole runs, every event is claimed by one request
      and every anchor belongs to the registration it answers;
    * `comes_back_never`: a retention that covers the ingestion window is enough.
-/
import ResolverIdentity.Agent.Requests
import ResolverIdentity.Core.Recorded
import ResolverIdentity.Library.Machine

namespace ResolverIdentity.Agent

open Library Store EvidenceStore

/-! ## §1. The system. -/

/-- What a run did to events, contexts and claims. -/
inductive TraceFact where
  | inserted (event : TraceEventV2)
  | registered (request_trace_id correlation_id query_digest : String)
  | anchored (request : AnchorRequest) (event : TraceEventV2)
  | matched (request : TraceResponseMatch) (event : TraceEventV2)

/-- The store at a time, with the facts of the run and the events it has lost. -/
structure AnchorState where
  clock : Int
  store : EvidenceStore
  history : List TraceFact
  lost : List String

/-- Time, the calls that touch anchors, and the purges. -/
inductive AnchorStep where
  | advance (now : Int)
  | ingest (events : List TraceEventV2)
  | register (request_trace_id correlation_id query_digest : String)
      (registered_at expires_at : Int)
  | claim_anchor (request : AnchorRequest)
  | claim_matching (request : TraceResponseMatch)
  | purge_traces
  | purge_contexts

/-- The rows a step put at the end of the event table. -/
def inserted_facts (s s' : EvidenceStore) : List TraceFact :=
  (s'.ri_v2_trace_events.rows.drop s.ri_v2_trace_events.rows.length).map
    (fun row => .inserted row.val)

/-- The events whose claims a purge took along. -/
def lost_claims (s s' : EvidenceStore) : List String :=
  (s.ri_v2_trace_event_claims.rows.map Row.key).filter
    (fun event_id => (s'.ri_v2_trace_event_claims.get? event_id).isNone)

/-- The fact a registration leaves. -/
def registered_facts (request_trace_id correlation_id query_digest : String) :
    Except StoreError Unit → List TraceFact
  | .ok () => [.registered request_trace_id correlation_id query_digest]
  | .error _ => []

/-- The fact a claim leaves. -/
def claimed_facts (fact : TraceEventV2 → TraceFact) :
    Except StoreError (Option TraceEventV2) → List TraceFact
  | .ok (some event) => [fact event]
  | _ => []

variable (P : Platform) (server_id : String) (settings : Settings)

namespace AnchorState

/-- The observation time before which events are purged. -/
def purge_boundary (a : AnchorState) : Int :=
  i64_saturating_sub a.clock settings.trace_retention_seconds

/-- One call, at a clock that never runs back. -/
def step (a : AnchorState) : AnchorStep → Option AnchorState
  | .advance now => if a.clock ≤ now ∧ now ≤ I64_MAX then some { a with clock := now } else none
  | .ingest events =>
    let s' := (ingest_trace_events server_id events a.clock a.store).2
    some { a with store := s', history := a.history ++ inserted_facts a.store s' }
  | .register request_trace_id correlation_id query_digest registered_at expires_at =>
    let r := a.store.register_query_context request_trace_id correlation_id query_digest
      registered_at expires_at
    some { a with
      store := r.2
      history := a.history ++ registered_facts request_trace_id correlation_id query_digest r.1 }
  | .claim_anchor request =>
    let r := a.store.claim_registered_trace_anchor request a.clock
    some { a with
      store := r.2
      history := a.history ++ claimed_facts (TraceFact.anchored request) r.1 }
  | .claim_matching request =>
    let r := a.store.claim_matching_response P request
    some { a with
      store := r.2
      history := a.history ++ claimed_facts (TraceFact.matched request) r.1 }
  | .purge_traces =>
    let s' := a.store.purge_trace_events (a.purge_boundary settings)
    some { a with store := s', lost := a.lost ++ lost_claims a.store s' }
  | .purge_contexts => some { a with store := a.store.purge_query_contexts a.clock }

end AnchorState

/-- The calls from an empty store on. -/
def anchors : Machine AnchorState AnchorStep where
  init := ⟨0, EvidenceStore.open_, [], []⟩
  step := AnchorState.step P server_id settings

/-! ## §2. The law and the condition. -/

/-- The event and the request of a claim. -/
def claim_of : TraceFact → Option (String × String)
  | .anchored request event => some (event.event_id, request.request_trace_id)
  | .matched request event => some (event.event_id, request.request_trace_id)
  | _ => none

/-- All claims of a history. -/
def claims (history : List TraceFact) : List (String × String) := history.filterMap claim_of

/-- No event was claimed by two requests. -/
def ClaimedOnce (history : List TraceFact) : Prop :=
  ∀ event_id owner owner', (event_id, owner) ∈ claims history →
    (event_id, owner') ∈ claims history → owner = owner'

/-- The context of the request was registered. -/
def registers (request_trace_id : String) : TraceFact → Prop
  | .registered id _ _ => id = request_trace_id
  | _ => False

/-- An anchor was handed out for the request. -/
def anchors_for (request_trace_id : String) : TraceFact → Prop
  | .anchored request _ => request.request_trace_id = request_trace_id
  | _ => False

/-- The registration an anchor answers is the last one under its trace id; nothing
was anchored for it since, the event was inserted since, and both agree. -/
def Answers (before : List TraceFact) : TraceFact → Prop
  | .anchored request event =>
    ∃ earlier since, before = earlier ++
        .registered request.request_trace_id request.correlation_id request.query_digest :: since ∧
      (∀ fact ∈ since, ¬ registers request.request_trace_id fact) ∧
      (∀ fact ∈ since, ¬ anchors_for request.request_trace_id fact) ∧
      .inserted event ∈ since ∧
      event.correlation_id = request.correlation_id ∧
      event.query_digest = request.query_digest ∧
      event.response_digest = some request.response_digest ∧
      event.observer_server_id = request.server_id
  | _ => True

/-- No event is taken in again after a purge deleted it together with its claim. -/
def ComesBackNever (a : AnchorState) : AnchorStep → Prop
  | .ingest events =>
    (ingest_trace_events server_id events a.clock a.store).1 = .ok () →
      ∀ event ∈ events, event.event_id ∉ a.lost
  | _ => True

/-! ## §3. The invariant. -/

/-- The history since the registration of a live context. -/
def SinceRegistration (history : List TraceFact) (events : List (Row String TraceEventV2))
    (request_trace_id : String) (context : QueryContext) : Prop :=
  ∃ earlier since, history = earlier ++
      .registered request_trace_id context.correlation_id context.query_digest :: since ∧
    (∀ fact ∈ since, ¬ registers request_trace_id fact) ∧
    (context.consumed_event_id = none → ∀ fact ∈ since, ¬ anchors_for request_trace_id fact) ∧
    ∀ row ∈ events, context.min_event_rowid ≤ row.rowid → .inserted row.val ∈ since

/-- The invariant: claims, contexts and answers are those of the facts. -/
structure AnchorInv (a : AnchorState) : Prop where
  keyed : ∀ row ∈ a.store.ri_v2_trace_events.rows, row.key = row.val.event_id
  owners : ∀ event_id owner, (event_id, owner) ∈ claims a.history →
    a.store.ri_v2_trace_event_claims.get? event_id = some owner ∨ event_id ∈ a.lost
  gone : ∀ event_id ∈ a.lost, a.store.ri_v2_trace_events.get? event_id = none
  contexts : ∀ request_trace_id context,
    a.store.ri_v2_query_contexts.get? request_trace_id = some context →
    SinceRegistration a.history a.store.ri_v2_trace_events.rows request_trace_id context
  once : ClaimedOnce a.history
  answers : Justified Answers a.history

section Facts

variable {history added : List TraceFact} {events : List (Row String TraceEventV2)}
  {request_trace_id : String} {context : QueryContext}

theorem claims_append : claims (history ++ added) = claims history ++ claims added :=
  List.filterMap_append

theorem claims_eq_nil (h : ∀ fact ∈ added, claim_of fact = none) : claims added = [] := by
  unfold claims
  rw [List.filterMap_eq_nil_iff]
  exact h

/-- More history, as long as it neither registers nor anchors for this context. -/
theorem SinceRegistration.append {events' : List (Row String TraceEventV2)}
    (h : SinceRegistration history events request_trace_id context)
    (hregister : ∀ fact ∈ added, ¬ registers request_trace_id fact)
    (hanchor : ∀ fact ∈ added, ¬ anchors_for request_trace_id fact)
    (hevents : ∀ row ∈ events', row ∈ events ∨ .inserted row.val ∈ added) :
    SinceRegistration (history ++ added) events' request_trace_id context := by
  obtain ⟨earlier, since, hhistory, hnone, hunused, hinserted⟩ := h
  refine ⟨earlier, since ++ added, ?_, ?_, ?_, ?_⟩
  · rw [hhistory, List.append_assoc, List.cons_append]
  · intro fact hfact
    rcases List.mem_append.mp hfact with hfact | hfact
    · exact hnone fact hfact
    · exact hregister fact hfact
  · intro hfree fact hfact
    rcases List.mem_append.mp hfact with hfact | hfact
    · exact hunused hfree fact hfact
    · exact hanchor fact hfact
  · intro row hrow hle
    rcases hevents row hrow with hold | hnew
    · exact List.mem_append_left _ (hinserted row hold hle)
    · exact List.mem_append_right _ hnew

end Facts

/-! ## §4. One step. -/

section Step

variable {P server_id settings} {a : AnchorState}

/-- An ingestion appends new events or changes nothing; what it stored was checked. -/
theorem ingest_cases (server_id : String) (events : List TraceEventV2) (now : Int)
    (s : EvidenceStore) :
    (ingest_trace_events server_id events now s).2 = s ∨
      ((ingest_trace_events server_id events now s).1 = .ok () ∧
        (∀ event ∈ events, validate_trace_event event server_id now = .ok ()) ∧
        ∃ added, TracesAppended events s (ingest_trace_events server_id events now s).2 added) := by
  unfold ingest_trace_events
  split
  · exact Or.inl rfl
  · cases hcheck : events.forM (fun event => validate_trace_event event server_id now) with
    | error error => exact Or.inl rfl
    | ok _ =>
      cases hput : s.put_trace_events events with
      | mk outcome s' =>
        cases outcome with
        | error error => exact Or.inl (transaction_error hput)
        | ok _ =>
          refine Or.inr ⟨rfl, forM_eq_ok.mp hcheck, ?_⟩
          obtain ⟨added, hadded⟩ := put_trace_events_appends events s
          rw [hput] at hadded
          exact ⟨added, hadded⟩

theorem inserted_facts_self (s : EvidenceStore) : inserted_facts s s = [] := by
  unfold inserted_facts
  rw [List.drop_length]
  rfl

theorem inserted_facts_of_appended {events : List TraceEventV2} {s s' : EvidenceStore}
    {added : List (Row String TraceEventV2)} (h : TracesAppended events s s' added) :
    inserted_facts s s' = added.map (fun row => TraceFact.inserted row.val) := by
  unfold inserted_facts
  rw [h.rows, List.drop_left]

/-- Insertions neither claim nor register nor anchor. -/
theorem inserted_only {rows : List (Row String TraceEventV2)} :
    ∀ fact ∈ rows.map (fun row => TraceFact.inserted row.val), ∃ event, fact = .inserted event := by
  intro fact hfact
  obtain ⟨row, _, rfl⟩ := List.mem_map.mp hfact
  exact ⟨row.val, rfl⟩

theorem AnchorInv.ingest (h : AnchorInv a) {events : List TraceEventV2}
    (hback : ComesBackNever server_id a (.ingest events)) :
    AnchorInv { a with
      store := (ingest_trace_events server_id events a.clock a.store).2
      history := a.history ++
        inserted_facts a.store (ingest_trace_events server_id events a.clock a.store).2 } := by
  rcases ingest_cases server_id events a.clock a.store with heq | ⟨hok, _, added, hadded⟩
  · rw [heq, inserted_facts_self, List.append_nil]
    exact h
  · have hback := hback hok
    rw [inserted_facts_of_appended hadded]
    generalize (ingest_trace_events server_id events a.clock a.store).2 = s' at hadded
    -- insertions claim nothing
    have hnone : claims (added.map (fun row => TraceFact.inserted row.val)) = [] := by
      refine claims_eq_nil ?_
      intro fact hfact
      obtain ⟨event, rfl⟩ := inserted_only fact hfact
      rfl
    have hclaims : claims (a.history ++ added.map (fun row => TraceFact.inserted row.val)) =
        claims a.history := by
      rw [claims_append, hnone, List.append_nil]
    constructor
    · intro row hrow
      rw [hadded.rows] at hrow
      rcases List.mem_append.mp hrow with hold | hnew
      · exact h.keyed row hold
      · exact (hadded.fresh row hnew).2.1
    · intro event_id owner hmem
      rw [hclaims] at hmem
      rw [hadded.rest]
      exact h.owners event_id owner hmem
    · intro event_id hlost
      refine RowTable.get?_eq_none_iff.mpr ?_
      intro row hrow hkey
      rw [hadded.rows] at hrow
      rcases List.mem_append.mp hrow with hold | hnew
      · exact RowTable.get?_eq_none_iff.mp (h.gone event_id hlost) row hold hkey
      · -- a new row is an event of the batch, and none of them was lost
        obtain ⟨_, hid, hmem, _⟩ := hadded.fresh row hnew
        refine hback row.val hmem ?_
        rw [← hid, hkey]
        exact hlost
    · intro request_trace_id context hcontext
      rw [hadded.rest] at hcontext
      refine (h.contexts request_trace_id context hcontext).append ?_ ?_ ?_
      · intro fact hfact
        obtain ⟨event, rfl⟩ := inserted_only fact hfact
        exact id
      · intro fact hfact
        obtain ⟨event, rfl⟩ := inserted_only fact hfact
        exact id
      · intro row hrow
        rw [hadded.rows] at hrow
        rcases List.mem_append.mp hrow with hold | hnew
        · exact Or.inl hold
        · exact Or.inr (List.mem_map.mpr ⟨row, hnew, rfl⟩)
    · unfold ClaimedOnce
      rw [hclaims]
      exact h.once
    · refine h.answers.append ?_
      intro pre fact hfact
      obtain ⟨event, rfl⟩ := inserted_only fact hfact
      exact trivial

theorem AnchorInv.register (h : AnchorInv a) (request_trace_id correlation_id query_digest : String)
    (registered_at expires_at : Int) :
    AnchorInv { a with
      store := (a.store.register_query_context request_trace_id correlation_id query_digest
        registered_at expires_at).2
      history := a.history ++ registered_facts request_trace_id correlation_id query_digest
        (a.store.register_query_context request_trace_id correlation_id query_digest
          registered_at expires_at).1 } := by
  rcases register_query_context_cases request_trace_id correlation_id query_digest registered_at
    expires_at a.store with ⟨e, heq⟩ | ⟨table, heq, hinsert⟩
  · rw [heq]
    show AnchorInv { a with history := a.history ++ [] }
    rw [List.append_nil]
    exact h
  · rw [heq]
    show AnchorInv { a with
      store := { a.store with ri_v2_query_contexts := table }
      history := a.history ++ [.registered request_trace_id correlation_id query_digest] }
    obtain ⟨hunused, _⟩ := RowTable.insert?_eq_some hinsert
    -- a registration claims nothing
    have hclaims : claims (a.history ++
        [.registered request_trace_id correlation_id query_digest]) = claims a.history := by
      rw [claims_append, show claims [.registered request_trace_id correlation_id query_digest] = []
        from rfl, List.append_nil]
    constructor
    · exact h.keyed
    · intro event_id owner hmem
      rw [hclaims] at hmem
      exact h.owners event_id owner hmem
    · exact h.gone
    · intro other context hcontext
      have hcontext : table.get? other = some context := hcontext
      rw [RowTable.get?_of_insert? hinsert] at hcontext
      by_cases hother : other = request_trace_id
      · -- the new context: nothing has happened since
        rw [if_pos hother] at hcontext
        obtain rfl := Option.some.inj hcontext
        rw [hother]
        refine ⟨a.history, [], rfl, by simp, by simp, ?_⟩
        intro row hrow hle
        have hbound : row.rowid ≤ a.store.ri_v2_trace_events.maxRowid :=
          RowTable.rowid_le_maxRowid _ hrow
        have hle : a.store.ri_v2_trace_events.maxRowid + 1 ≤ row.rowid := hle
        omega
      · rw [if_neg hother] at hcontext
        refine (h.contexts other context hcontext).append ?_ ?_ (fun row hrow => Or.inl hrow)
        · intro fact hfact
          rw [List.mem_singleton.mp hfact]
          exact fun heq => hother heq.symm
        · intro fact hfact
          rw [List.mem_singleton.mp hfact]
          exact id
    · unfold ClaimedOnce
      rw [hclaims]
      exact h.once
    · exact h.answers.snoc trivial

/-- A claim of a row of the event table by a request nobody is in the way of. -/
theorem AnchorInv.claim_owner (h : AnchorInv a) {s' : EvidenceStore}
    {row : Row String TraceEventV2} {request_trace_id owner : String}
    (hclaims : Claims a.store s' row.key request_trace_id)
    (hrow : row ∈ a.store.ri_v2_trace_events.rows)
    (hmem : (row.val.event_id, owner) ∈ claims a.history) : owner = request_trace_id := by
  rw [← h.keyed row hrow] at hmem
  rcases h.owners row.key owner hmem with hget | hlost
  · exact hclaims.free owner hget
  · have hgone := h.gone row.key hlost
    rw [RowTable.get?_of_mem hrow] at hgone
    cases hgone

/-- The owners after a claim. -/
theorem AnchorInv.claim_owners (h : AnchorInv a) {s' : EvidenceStore}
    {row : Row String TraceEventV2} {request_trace_id : String} (fact : TraceFact)
    (hclaims : Claims a.store s' row.key request_trace_id)
    (hrow : row ∈ a.store.ri_v2_trace_events.rows)
    (hfact : claim_of fact = some (row.val.event_id, request_trace_id)) :
    (∀ event_id owner, (event_id, owner) ∈ claims (a.history ++ [fact]) →
      s'.ri_v2_trace_event_claims.get? event_id = some owner ∨ event_id ∈ a.lost) ∧
    ClaimedOnce (a.history ++ [fact]) := by
  have hnew : claims (a.history ++ [fact]) =
      claims a.history ++ [(row.val.event_id, request_trace_id)] := by
    rw [claims_append]
    unfold claims
    rw [List.filterMap_cons_some hfact]
    rfl
  have hkey := h.keyed row hrow
  constructor
  · intro event_id owner hmem
    rw [hnew] at hmem
    rw [hclaims.claims event_id]
    rcases List.mem_append.mp hmem with hold | hlast
    · rcases h.owners event_id owner hold with hget | hlost
      · by_cases heq : event_id = row.key
        · rw [if_pos heq]
          rw [heq] at hget
          rw [hclaims.free owner hget]
          exact Or.inl rfl
        · rw [if_neg heq]
          exact Or.inl hget
      · exact Or.inr hlost
    · obtain ⟨rfl, rfl⟩ := Prod.mk.inj (List.mem_singleton.mp hlast)
      rw [if_pos hkey.symm]
      exact Or.inl rfl
  · intro event_id owner owner' hmem hmem'
    rw [hnew] at hmem hmem'
    rcases List.mem_append.mp hmem with hold | hlast
    · rcases List.mem_append.mp hmem' with hold' | hlast'
      · exact h.once event_id owner owner' hold hold'
      · obtain ⟨rfl, rfl⟩ := Prod.mk.inj (List.mem_singleton.mp hlast')
        exact h.claim_owner hclaims hrow hold
    · obtain ⟨rfl, rfl⟩ := Prod.mk.inj (List.mem_singleton.mp hlast)
      rcases List.mem_append.mp hmem' with hold' | hlast'
      · exact (h.claim_owner hclaims hrow hold').symm
      · exact (Prod.mk.inj (List.mem_singleton.mp hlast')).2.symm

theorem mem_anchor_rows {s : EvidenceStore} {min_event_rowid : Nat} {request : AnchorRequest}
    {row : Row String TraceEventV2} (h : row ∈ s.anchor_rows min_event_rowid request) :
    row ∈ s.ri_v2_trace_events.rows ∧ min_event_rowid ≤ row.rowid ∧
      row.val.observer_server_id = request.server_id ∧
      row.val.correlation_id = request.correlation_id ∧
      row.val.query_digest = request.query_digest ∧
      row.val.response_digest = some request.response_digest := by
  unfold anchor_rows at h
  simp only [List.mem_filter, Bool.and_eq_true, decide_eq_true_eq] at h
  exact ⟨h.1, h.2.1.1.1.1.1, h.2.1.1.1.1.2, h.2.1.1.1.2, h.2.1.1.2, h.2.1.2⟩

theorem AnchorInv.claim_anchor (h : AnchorInv a) (request : AnchorRequest) :
    AnchorInv { a with
      store := (a.store.claim_registered_trace_anchor request a.clock).2
      history := a.history ++ claimed_facts (TraceFact.anchored request)
        (a.store.claim_registered_trace_anchor request a.clock).1 } := by
  cases hrun : a.store.claim_registered_trace_anchor request a.clock with
  | mk outcome s' =>
    cases outcome with
    | error e =>
      rw [transaction_error hrun]
      show AnchorInv { a with history := a.history ++ [] }
      rw [List.append_nil]
      exact h
    | ok found =>
      rcases claim_registered_eq_ok hrun with ⟨rfl, rfl⟩ | ⟨context, row, rfl, hclaimed⟩
      · show AnchorInv { a with history := a.history ++ [] }
        rw [List.append_nil]
        exact h
      · show AnchorInv { a with store := s', history := a.history ++ [.anchored request row.val] }
        obtain ⟨hrow, hrowid, hobserver, hcorrelation, hquery, hresponse⟩ :=
          mem_anchor_rows hclaimed.selected
        obtain ⟨howners, honce⟩ := h.claim_owners (.anchored request row.val)
          hclaimed.toClaims hrow rfl
        obtain ⟨earlier, since, hhistory, hregister, hunused, hinserted⟩ :=
          h.contexts _ context hclaimed.registered
        have hevents : s'.ri_v2_trace_events = a.store.ri_v2_trace_events := by
          rw [hclaimed.rest]
        constructor
        · rw [hevents]
          exact h.keyed
        · exact howners
        · rw [hevents]
          exact h.gone
        · -- the context claimed from is used up, the others stay
          intro other context' hcontext'
          have hget : s'.ri_v2_query_contexts.get? other = some context' := hcontext'
          rw [hclaimed.rest, RowTable.get?_update] at hget
          rw [hevents]
          by_cases hother : other = request.request_trace_id
          · -- the context just consumed
            rw [if_pos hother, hother, hclaimed.registered] at hget
            obtain rfl := Option.some.inj hget
            rw [hother]
            refine ⟨earlier, since ++ [.anchored request row.val], ?_, ?_, ?_, ?_⟩
            · rw [hhistory, List.append_assoc, List.cons_append]
            · intro fact hfact
              rcases List.mem_append.mp hfact with hfact | hfact
              · exact hregister fact hfact
              · rw [List.mem_singleton.mp hfact]
                exact id
            · intro hfree
              cases hfree
            · intro row' hrow' hle
              exact List.mem_append_left _ (hinserted row' hrow' hle)
          · rw [if_neg hother] at hget
            refine (h.contexts other context' hget).append ?_ ?_ (fun row' hrow' => Or.inl hrow')
            · intro fact hfact
              rw [List.mem_singleton.mp hfact]
              exact id
            · intro fact hfact
              rw [List.mem_singleton.mp hfact]
              exact fun heq => hother heq.symm
        · exact honce
        · refine h.answers.snoc ⟨earlier, since, ?_, hregister, hunused hclaimed.unused,
            hinserted row hrow hrowid, hcorrelation, hquery, hresponse, hobserver⟩
          rw [hhistory, hclaimed.correlation, hclaimed.query]

theorem AnchorInv.claim_matching (h : AnchorInv a) (request : TraceResponseMatch) :
    AnchorInv { a with
      store := (a.store.claim_matching_response P request).2
      history := a.history ++ claimed_facts (TraceFact.matched request)
        (a.store.claim_matching_response P request).1 } := by
  cases hrun : a.store.claim_matching_response P request with
  | mk outcome s' =>
    cases outcome with
    | error e =>
      rw [transaction_error hrun]
      show AnchorInv { a with history := a.history ++ [] }
      rw [List.append_nil]
      exact h
    | ok found =>
      rcases claim_matching_eq_ok hrun with ⟨rfl, rfl⟩ | ⟨row, rfl, hclaimed⟩
      · show AnchorInv { a with history := a.history ++ [] }
        rw [List.append_nil]
        exact h
      · show AnchorInv { a with store := s', history := a.history ++ [.matched request row.val] }
        have hrow : row ∈ a.store.ri_v2_trace_events.rows :=
          (List.mem_filter.mp hclaimed.selected).1
        obtain ⟨howners, honce⟩ := h.claim_owners (.matched request row.val)
          hclaimed.toClaims hrow rfl
        rw [hclaimed.rest] at howners ⊢
        refine ⟨h.keyed, howners, h.gone, ?_, honce, h.answers.snoc trivial⟩
        intro other context hcontext
        refine (h.contexts other context hcontext).append ?_ ?_ (fun row' hrow' => Or.inl hrow')
        · intro fact hfact
          rw [List.mem_singleton.mp hfact]
          exact id
        · intro fact hfact
          rw [List.mem_singleton.mp hfact]
          exact id

/-- What a purge loses is gone from the event table. -/
theorem gone_of_lost {s : EvidenceStore} {observed_before : Int} {event_id : String}
    (h : event_id ∈ lost_claims s (s.purge_trace_events observed_before)) :
    (∃ event, s.ri_v2_trace_events.get? event_id = some event ∧
        event.observed_at < observed_before) ∧
      (s.purge_trace_events observed_before).ri_v2_trace_events.get? event_id = none := by
  obtain ⟨hkey, hnone⟩ := List.mem_filter.mp h
  obtain ⟨claim, hclaim, rfl⟩ := List.mem_map.mp hkey
  have hget := RowTable.get?_of_mem hclaim
  have hdeleted : ∃ event, s.ri_v2_trace_events.get? claim.key = some event ∧
      event.observed_at < observed_before := by
    by_contra hkept
    have hstays : (s.purge_trace_events observed_before).ri_v2_trace_event_claims.get? claim.key =
        some claim.val := by
      refine claim_of_purge.mpr ⟨hget, fun event hevent hlt => hkept ⟨event, hevent, hlt⟩⟩
    rw [hstays] at hnone
    cases hnone
  refine ⟨hdeleted, ?_⟩
  obtain ⟨event, hevent, hlt⟩ := hdeleted
  cases hafter : (s.purge_trace_events observed_before).ri_v2_trace_events.get? claim.key with
  | none => rfl
  | some event' =>
    obtain ⟨hevent', hkept⟩ := RowTable.get?_deleteWhere_eq_some.mp hafter
    rw [hevent] at hevent'
    obtain rfl := Option.some.inj hevent'
    exact absurd hlt (of_decide_eq_false hkept)

theorem AnchorInv.purge_traces (h : AnchorInv a) (observed_before : Int) :
    AnchorInv { a with
      store := a.store.purge_trace_events observed_before
      lost := a.lost ++ lost_claims a.store (a.store.purge_trace_events observed_before) } where
  keyed := fun row hrow => h.keyed row (mem_purge_trace_events.mp hrow).1
  owners := by
    intro event_id owner hmem
    rcases h.owners event_id owner hmem with hget | hlost
    · cases hafter : (a.store.purge_trace_events observed_before).ri_v2_trace_event_claims.get?
        event_id with
      | some owner' =>
        have hget' := (claim_of_purge.mp hafter).1
        rw [hget] at hget'
        rw [Option.some.inj hget']
        exact Or.inl rfl
      | none =>
        refine Or.inr (List.mem_append_right _ (List.mem_filter.mpr ⟨?_, by rw [hafter]; rfl⟩))
        obtain ⟨claim, hclaim, hkey, _⟩ := RowTable.get?_eq_some_iff.mp hget
        exact List.mem_map.mpr ⟨claim, hclaim, hkey⟩
    · exact Or.inr (List.mem_append_left _ hlost)
  gone := by
    intro event_id hlost
    rcases List.mem_append.mp hlost with hold | hnew
    · have hnone := h.gone event_id hold
      rw [RowTable.get?_eq_none_iff] at hnone ⊢
      exact fun row hrow => hnone row (mem_purge_trace_events.mp hrow).1
    · exact (gone_of_lost hnew).2
  contexts := by
    intro request_trace_id context hcontext
    obtain ⟨earlier, since, hhistory, hregister, hunused, hinserted⟩ :=
      h.contexts request_trace_id context hcontext
    exact ⟨earlier, since, hhistory, hregister, hunused,
      fun row hrow => hinserted row (mem_purge_trace_events.mp hrow).1⟩
  once := h.once
  answers := h.answers

theorem AnchorInv.purge_contexts (h : AnchorInv a) (now : Int) :
    AnchorInv { a with store := a.store.purge_query_contexts now } where
  keyed := h.keyed
  owners := h.owners
  gone := h.gone
  contexts := fun request_trace_id context hcontext =>
    h.contexts request_trace_id context (RowTable.get?_deleteWhere_eq_some.mp hcontext).1
  once := h.once
  answers := h.answers

theorem AnchorInv.init : AnchorInv (anchors P server_id settings).init where
  keyed := by intro row hrow; cases hrow
  owners := by intro event_id owner hmem; cases hmem
  gone := by intro event_id hlost; cases hlost
  contexts := by intro request_trace_id context hcontext; cases hcontext
  once := by intro event_id owner owner' hmem; cases hmem
  answers := justified_nil Answers

theorem AnchorInv.step {a' : AnchorState} {step : AnchorStep} (h : AnchorInv a)
    (hback : ComesBackNever server_id a step)
    (hstep : (anchors P server_id settings).step a step = some a') : AnchorInv a' := by
  cases step with
  | advance now =>
    have hstep : (if a.clock ≤ now ∧ now ≤ I64_MAX then some { a with clock := now } else none) =
      some a' := hstep
    split at hstep
    · obtain rfl := Option.some.inj hstep
      exact ⟨h.keyed, h.owners, h.gone, h.contexts, h.once, h.answers⟩
    · cases hstep
  | ingest events =>
    obtain rfl := Option.some.inj hstep
    exact h.ingest hback
  | register request_trace_id correlation_id query_digest registered_at expires_at =>
    obtain rfl := Option.some.inj hstep
    exact h.register request_trace_id correlation_id query_digest registered_at expires_at
  | claim_anchor request =>
    obtain rfl := Option.some.inj hstep
    exact h.claim_anchor request
  | claim_matching request =>
    obtain rfl := Option.some.inj hstep
    exact h.claim_matching request
  | purge_traces =>
    obtain rfl := Option.some.inj hstep
    exact h.purge_traces _
  | purge_contexts =>
    obtain rfl := Option.some.inj hstep
    exact h.purge_contexts _

end Step

/-! ## §5. Whole runs. -/

/-- In every run that never takes a lost event in again: every event is claimed by at
most one request, and every anchor answers the registration of its context. -/
theorem anchors_single_use {ls : List AnchorStep} {a : AnchorState}
    (hrun : (anchors P server_id settings).run ls = some a)
    (hback : (anchors P server_id settings).Along (ComesBackNever server_id) ls) :
    ClaimedOnce a.history ∧ Justified Answers a.history := by
  have hinv : AnchorInv a := Machine.invariant_of_along AnchorInv.init
    (fun _ _ _ h hC hstep => h.step hC hstep) hback hrun
  exact ⟨hinv.once, hinv.answers⟩

/-! ## §6. A retention that covers the ingestion window. -/

/-- The events a run's ingestions carry. -/
def carried : List AnchorStep → List TraceEventV2
  | [] => []
  | .ingest events :: rest => events ++ carried rest
  | _ :: rest => carried rest

theorem carried_append (ls ls' : List AnchorStep) :
    carried (ls ++ ls') = carried ls ++ carried ls' := by
  induction ls with
  | nil => rfl
  | cons step rest ih =>
    cases step with
    | ingest events =>
      show events ++ carried (rest ++ ls') = events ++ carried rest ++ carried ls'
      rw [ih, List.append_assoc]
    | _ => exact ih

/-- An event id is always delivered with the same observation time. -/
def StableTimes (ls : List AnchorStep) : Prop :=
  ∀ event ∈ carried ls, ∀ event' ∈ carried ls, event.event_id = event'.event_id →
    event.observed_at = event'.observed_at

/-- What was ever lost lies out of the ingestion window by now. -/
structure WindowInv (ls : List AnchorStep) (a : AnchorState) : Prop where
  clock : 0 ≤ a.clock ∧ a.clock ≤ I64_MAX
  stored : ∀ row ∈ a.store.ri_v2_trace_events.rows,
    row.key = row.val.event_id ∧ row.val ∈ carried ls
  lost : ∀ event_id ∈ a.lost, ∃ event ∈ carried ls,
    event.event_id = event_id ∧ event.observed_at < a.clock - 300

section Window

variable {P server_id settings} {a : AnchorState}

theorem WindowInv.mono {ls ls' : List AnchorStep} (h : WindowInv ls a) :
    WindowInv (ls ++ ls') a where
  clock := h.clock
  stored := by
    intro row hrow
    rw [carried_append]
    exact ⟨(h.stored row hrow).1, List.mem_append_left _ (h.stored row hrow).2⟩
  lost := by
    intro event_id hlost
    obtain ⟨event, hmem, hid, hlt⟩ := h.lost event_id hlost
    rw [carried_append]
    exact ⟨event, List.mem_append_left _ hmem, hid, hlt⟩

/-- A step that leaves clock and losses alone and stores no other event. -/
theorem WindowInv.of_rows {ls : List AnchorStep} {a' : AnchorState} (h : WindowInv ls a)
    (hclock : a'.clock = a.clock) (hlost : a'.lost = a.lost)
    (hrows : a'.store.ri_v2_trace_events = a.store.ri_v2_trace_events) : WindowInv ls a' where
  clock := by rw [hclock]; exact h.clock
  stored := by rw [hrows]; exact h.stored
  lost := by rw [hlost, hclock]; exact h.lost

theorem claim_anchor_rows (request : AnchorRequest) (now : Int) (s : EvidenceStore) :
    (s.claim_registered_trace_anchor request now).2.ri_v2_trace_events = s.ri_v2_trace_events := by
  cases hrun : s.claim_registered_trace_anchor request now with
  | mk outcome s' =>
    cases outcome with
    | error e => rw [transaction_error hrun]
    | ok found =>
      rcases claim_registered_eq_ok hrun with ⟨_, rfl⟩ | ⟨context, row, _, hclaimed⟩
      · rfl
      · rw [hclaimed.rest]

theorem claim_matching_rows (request : TraceResponseMatch) (s : EvidenceStore) :
    (s.claim_matching_response P request).2.ri_v2_trace_events = s.ri_v2_trace_events := by
  cases hrun : s.claim_matching_response P request with
  | mk outcome s' =>
    cases outcome with
    | error e => rw [transaction_error hrun]
    | ok found =>
      rcases claim_matching_eq_ok hrun with ⟨_, rfl⟩ | ⟨row, _, hclaimed⟩
      · rfl
      · rw [hclaimed.rest]

theorem register_rows (request_trace_id correlation_id query_digest : String)
    (registered_at expires_at : Int) (s : EvidenceStore) :
    (s.register_query_context request_trace_id correlation_id query_digest registered_at
      expires_at).2.ri_v2_trace_events = s.ri_v2_trace_events := by
  rcases register_query_context_cases request_trace_id correlation_id query_digest registered_at
    expires_at s with ⟨e, heq⟩ | ⟨table, heq, _⟩
  · rw [heq]
  · rw [heq]

theorem WindowInv.step (hretention : 300 ≤ settings.trace_retention_seconds)
    {ls : List AnchorStep} {a' : AnchorState} {step : AnchorStep} (h : WindowInv ls a)
    (hstep : (anchors P server_id settings).step a step = some a') :
    WindowInv (ls ++ [step]) a' := by
  cases step with
  | advance now =>
    have hstep : (if a.clock ≤ now ∧ now ≤ I64_MAX then some { a with clock := now } else none) =
      some a' := hstep
    split at hstep
    case isTrue hnow =>
      obtain rfl := Option.some.inj hstep
      -- time only goes forward, so what was too old stays too old
      refine (WindowInv.mono ⟨⟨Int.le_trans h.clock.1 hnow.1, hnow.2⟩, h.stored, ?_⟩)
      intro event_id hlost
      obtain ⟨event, hmem, hid, hlt⟩ := h.lost event_id hlost
      refine ⟨event, hmem, hid, ?_⟩
      show event.observed_at < now - 300
      omega
    case isFalse => cases hstep
  | ingest events =>
    obtain rfl := Option.some.inj hstep
    have hcarried : carried (ls ++ [.ingest events]) = carried ls ++ (events ++ []) :=
      carried_append _ _
    have hmono : WindowInv (ls ++ [.ingest events]) a := h.mono
    refine ⟨h.clock, ?_, hmono.lost⟩
    intro row hrow
    rw [hcarried, List.append_nil]
    -- the batch is refused as a whole, or all of its new events are stored
    rcases ingest_cases server_id events a.clock a.store with heq | ⟨_, _, added, hadded⟩
    · have hrow : row ∈ (ingest_trace_events server_id events a.clock
        a.store).2.ri_v2_trace_events.rows := hrow
      rw [heq] at hrow
      exact ⟨(h.stored row hrow).1, List.mem_append_left _ (h.stored row hrow).2⟩
    · have hrow : row ∈ (ingest_trace_events server_id events a.clock
        a.store).2.ri_v2_trace_events.rows := hrow
      rw [hadded.rows] at hrow
      rcases List.mem_append.mp hrow with hold | hnew
      · exact ⟨(h.stored row hold).1, List.mem_append_left _ (h.stored row hold).2⟩
      · obtain ⟨_, hkey, hmem, _⟩ := hadded.fresh row hnew
        exact ⟨hkey, List.mem_append_right _ hmem⟩
  | register request_trace_id correlation_id query_digest registered_at expires_at =>
    obtain rfl := Option.some.inj hstep
    refine WindowInv.mono ?_
    exact h.of_rows rfl rfl (register_rows request_trace_id correlation_id query_digest
      registered_at expires_at a.store)
  | claim_anchor request =>
    obtain rfl := Option.some.inj hstep
    refine WindowInv.mono ?_
    exact h.of_rows rfl rfl (claim_anchor_rows request a.clock a.store)
  | claim_matching request =>
    obtain rfl := Option.some.inj hstep
    refine WindowInv.mono ?_
    exact h.of_rows rfl rfl (claim_matching_rows request a.store)
  | purge_traces =>
    obtain rfl := Option.some.inj hstep
    refine WindowInv.mono ⟨h.clock, fun row hrow => h.stored row (mem_purge_trace_events.mp hrow).1,
      ?_⟩
    intro event_id hlost
    rcases List.mem_append.mp hlost with hold | hnew
    · exact h.lost event_id hold
    · -- the purge boundary lies at least the ingestion window back
      obtain ⟨⟨event, hevent, hlt⟩, _⟩ := gone_of_lost hnew
      obtain ⟨row, hrow, hkey, rfl⟩ := RowTable.get?_eq_some_iff.mp hevent
      obtain ⟨hid, hmem⟩ := h.stored row hrow
      refine ⟨row.val, hmem, hid.symm.trans hkey, ?_⟩
      have hclock := h.clock
      show row.val.observed_at < a.clock - 300
      unfold AnchorState.purge_boundary i64_saturating_sub I64_MIN at hlt
      omega
  | purge_contexts =>
    obtain rfl := Option.some.inj hstep
    refine WindowInv.mono ?_
    exact h.of_rows rfl rfl rfl

/-- What an ingestion accepts has passed its checks. -/
theorem ingest_validated {events : List TraceEventV2} {now : Int} {s : EvidenceStore}
    (h : (ingest_trace_events server_id events now s).1 = .ok ()) :
    ∀ event ∈ events, validate_trace_event event server_id now = .ok () := by
  unfold ingest_trace_events at h
  split at h
  · cases h
  · cases hcheck : events.forM (fun event => validate_trace_event event server_id now) with
    | error error => rw [hcheck] at h; cases h
    | ok _ => exact forM_eq_ok.mp hcheck

/-- Where the retention covers the 300 seconds of the ingestion window and no event id
changes its observation time, nothing lost is taken in again. -/
theorem comes_back_never (hretention : 300 ≤ settings.trace_retention_seconds)
    {ls : List AnchorStep} (hstable : StableTimes ls) :
    (anchors P server_id settings).Along (ComesBackNever server_id) ls := by
  intro pre step post a hls hrun
  have hinv : WindowInv pre a := by
    refine Machine.run_induction (M := anchors P server_id settings) (motive := WindowInv) ?_ ?_ hrun
    · refine ⟨⟨Int.le_refl 0, ?_⟩, fun row hrow => (nomatch hrow), fun id hid => (nomatch hid)⟩
      show (0 : Int) ≤ I64_MAX
      decide
    · intro ls s l s' _ h hl
      exact h.step hretention hl
  cases step with
  | ingest events =>
    intro hok event hmem hlost
    obtain ⟨earlier, hearlier, hid, hlt⟩ := hinv.lost event.event_id hlost
    have hwindow := validate_trace_event_window hinv.clock.1 hinv.clock.2
      (ingest_validated hok event hmem)
    have hcarried : carried ls = carried pre ++ (events ++ carried post) := by
      rw [hls, carried_append]
      rfl
    have hsame := hstable earlier (by rw [hcarried]; exact List.mem_append_left _ hearlier)
      event (by
        rw [hcarried]
        exact List.mem_append_right _ (List.mem_append_left _ hmem)) hid
    omega
  | _ => exact trivial

end Window

/-! ## §7. A short retention. -/

/-- Events may be kept for as long as a graph is valid, no longer. -/
def short_retention : Settings := { Settings.default with trace_retention_seconds := 30 }

/-- An event of one trace of `resolver-a`, observed at second 1000. -/
def event_at_1000 (event_id : String) (sequence : Nat) (kind : TraceEventKind)
    (parent_event_id : Option String) (response_digest cache_object_digest : Option String) :
    TraceEventV2 where
  schema_version := TRACE_EVENT_V2
  event_id := event_id
  trace_id := "trace-1"
  sequence := sequence
  correlation_id := digest_of 'a'
  parent_event_id := parent_event_id
  kind := kind
  observer_server_id := "resolver-a"
  target_server_id := none
  target_endpoint := none
  target_correlation_id := none
  attempt := none
  query_digest := digest_of 'b'
  response_digest := response_digest
  cache_object_digest := cache_object_digest
  observed_at := 1000
  dnssec_status := .secure
  ttl_expires_at := none
  source_graph_digest := none
  failure_reason := none

/-- A query and its answer. -/
def delivered_batch : List TraceEventV2 :=
  [event_at_1000 "event-1" 1 .clientQuery none none none,
    event_at_1000 "event-2" 2 .clientResponse (some "event-1") (some (digest_of 'c'))
      (some (digest_of 'd'))]

/-- A request for one fixed answer. -/
def request_by (request_trace_id : String) : TraceResponseMatch where
  request_trace_id := request_trace_id
  server_id := "resolver-a"
  correlation_id := digest_of 'a'
  query_digest := digest_of 'b'
  response_digest := digest_of 'c'
  endpoint := none
  allow_authority_response := false

/-- A registered request whose answer arrives afterwards, delivered twice. -/
def registered_run : List AnchorStep :=
  [.advance 1000, .register "request-1" (digest_of 'a') (digest_of 'b') 1000 1060,
    .ingest delivered_batch,
    .claim_anchor ⟨"request-1", "resolver-a", digest_of 'a', digest_of 'b', digest_of 'c'⟩,
    .purge_traces, .ingest delivered_batch, .purge_contexts]

/-- A platform without recorded results. -/
def plain_platform : Platform := (Recording.mk [] [] []).platform

theorem registered_run_claims :
    ((anchors plain_platform "resolver-a" Settings.default).run registered_run).map (fun a =>
      claims a.history) = some [("event-2", "request-1")] := by
  decide +kernel

theorem registered_run_anchors_once :
    ∃ a, (anchors plain_platform "resolver-a" Settings.default).run registered_run = some a ∧
      claims a.history = [("event-2", "request-1")] ∧
      ClaimedOnce a.history ∧ Justified Answers a.history := by
  obtain ⟨a, hrun, hclaims⟩ := Option.map_eq_some_iff.mp registered_run_claims
  have hstable : StableTimes registered_run := by
    unfold StableTimes
    decide +kernel
  exact ⟨a, hrun, hclaims, anchors_single_use plain_platform "resolver-a" Settings.default hrun
    (comes_back_never (by decide) hstable)⟩

/-- The batch is claimed, purged after forty seconds, delivered again and claimed by
another request. -/
def redelivery_run : List AnchorStep :=
  [.advance 1000, .ingest delivered_batch, .claim_matching (request_by "request-1"),
    .advance 1040, .purge_traces, .ingest delivered_batch,
    .claim_matching (request_by "request-2")]

theorem redelivery_run_claims :
    ((anchors plain_platform "resolver-a" short_retention).run redelivery_run).map (fun a =>
      claims a.history) = some [("event-2", "request-1"), ("event-2", "request-2")] := by
  decide +kernel

/-- Under an admitted retention below the ingestion window one event anchors two requests. -/
theorem redelivered_event_claimed_twice :
    ¬ ∀ (settings : Settings) (ls : List AnchorStep) (a : AnchorState),
      settings.admitted = true →
      (anchors plain_platform "resolver-a" settings).run ls = some a → ClaimedOnce a.history := by
  intro hall
  obtain ⟨a, hrun, hclaims⟩ := Option.map_eq_some_iff.mp redelivery_run_claims
  have honce := hall short_retention redelivery_run a (by decide) hrun
  have hsame : "request-1" = "request-2" := by
    refine honce "event-2" _ _ ?_ ?_
    · rw [hclaims]
      exact List.mem_cons_self
    · rw [hclaims]
      exact List.mem_cons_of_mem _ List.mem_cons_self
  exact absurd hsame (by decide)

end ResolverIdentity.Agent
