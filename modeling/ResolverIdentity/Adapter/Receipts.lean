/-
  ResolverIdentity.Adapter.Receipts: the worker acknowledges what the Agent has taken.

  `receiptProtocol` is what the Agent sees of an iteration of `upload_worker`: only events
  that were loaded from the spool or enriched are uploaded, and only events of a batch that
  was answered with success are acknowledged.

  Main result:
    * `upload_iteration_receipts`: every iteration follows `receiptProtocol`.
-/
import ResolverIdentity.Adapter.Worker

namespace ResolverIdentity.Adapter

open Library

/-! ## §1. The protocol. -/

/-- The events the worker has read or enriched, and those the Agent has taken. -/
structure Receipts where
  seen : List TraceEventV2
  taken : List TraceEventV2

/-- The worker only passes on what it was given. -/
def ReceiptPermits (st : Receipts) : WorkerOp → Prop
  | .replace_pending enriched => ∃ event ∈ st.seen, Enriches event enriched
  | .upload batch => ∀ event ∈ batch, event ∈ st.seen
  | .acknowledge events => ∀ event ∈ events, event ∈ st.taken
  | _ => True

/-- What the worker has taken to be delivered after an answer to an upload. -/
def Receipts.uploaded (st : Receipts) (batch : List TraceEventV2) :
    Except AnyError UploadDisposition → Receipts
  | .ok .uploaded => { st with taken := st.taken ++ batch }
  | _ => st

/-- A batch that was loaded has been seen. -/
def receipt_next (st : Receipts) : (o : WorkerOp) → WorkerRes o → Receipts
  | .load_batch _, batch => { st with seen := st.seen ++ batch }
  | .replace_pending enriched, _ => { st with seen := st.seen ++ [enriched] }
  | .upload batch, answer => st.uploaded batch answer
  | _, _ => st

/-- The protocol of receipts. -/
def receiptProtocol : Protocol WorkerOp WorkerRes Receipts where
  permits := ReceiptPermits
  answers := fun _ _ _ => True
  next := receipt_next

/-- A worker program watched for receipts alone; how it ends does not matter. -/
abbrev FollowsReceipts {α : Type} (p : WorkerProg α) (Q : α → Receipts → Prop)
    (st : Receipts) : Prop :=
  p.Follows receiptProtocol Q (fun _ _ => True) st

/-- The events of a batch were all read or enriched. -/
def Seen (batch : List TraceEventV2) (st : Receipts) : Prop := ∀ event ∈ batch, event ∈ st.seen

@[simp] theorem uploaded_seen (st : Receipts) (batch : List TraceEventV2)
    (answer : Except AnyError UploadDisposition) : (st.uploaded batch answer).seen = st.seen := by
  unfold Receipts.uploaded
  split <;> rfl

/-! ## §2. Uploads. -/

theorem upload_receipts {batch : List TraceEventV2} {st : Receipts} (h : Seen batch st) :
    FollowsReceipts (upload_async batch) (fun disposition st' => st'.seen = st.seen ∧
      (disposition = .uploaded → ∀ event ∈ batch, event ∈ st'.taken)) st := by
  refine ⟨h, fun answer _ => ?_⟩
  rw [Prog.follows_ofExcept]
  refine ⟨?_, fun _ _ => trivial⟩
  rintro disposition rfl
  refine ⟨uploaded_seen st batch _, ?_⟩
  rintro rfl event hevent
  exact List.mem_append_right _ hevent

theorem acknowledge_receipts {events : List TraceEventV2} {st : Receipts}
    (h : ∀ event ∈ events, event ∈ st.taken) :
    FollowsReceipts (acknowledge_async events) (fun _ st' => st' = st) st := by
  refine ⟨h, fun answer _ => ?_⟩
  rw [Prog.follows_ofExcept]
  exact ⟨fun _ _ => rfl, fun _ _ => trivial⟩

theorem settle_receipts {event : TraceEventV2} {disposition : UploadDisposition} {st : Receipts}
    (h : disposition = .uploaded → event ∈ st.taken) :
    FollowsReceipts (settle event disposition) (fun _ st' => st' = st) st := by
  cases disposition with
  | uploaded =>
    refine acknowledge_receipts ?_
    intro other hother
    rw [List.mem_singleton.mp hother]
    exact h rfl
  | payloadRejected status =>
    refine ⟨trivial, fun answer _ => ?_⟩
    rw [Prog.follows_ofExcept]
    exact ⟨fun _ _ => rfl, fun _ _ => trivial⟩

/-- Each event of the isolation loop is acknowledged on an answer of its own. -/
theorem isolate_receipts {batch : List TraceEventV2} :
    ∀ {st : Receipts}, Seen batch st → FollowsReceipts (isolate batch) (fun _ _ => True) st := by
  induction batch with
  | nil => intro st _; exact trivial
  | cons event rest ih =>
    intro st h
    unfold isolate
    have hone : Seen [event] st := by
      intro other hother
      rw [List.mem_singleton.mp hother]
      exact h event List.mem_cons_self
    refine (upload_receipts hone).bind ?_
    rintro disposition st' ⟨hseen, htaken⟩
    refine (settle_receipts (fun huploaded => htaken huploaded event List.mem_cons_self)).bind ?_
    rintro _ _ rfl
    refine ih (fun other hother => ?_)
    rw [hseen]
    exact h other (List.mem_cons_of_mem _ hother)

theorem settle_batch_receipts {batch : List TraceEventV2} {disposition : UploadDisposition}
    {st : Receipts} (h : Seen batch st)
    (htaken : disposition = .uploaded → ∀ event ∈ batch, event ∈ st.taken) :
    FollowsReceipts (settle_batch batch disposition) (fun _ _ => True) st := by
  cases disposition with
  | uploaded =>
    exact (acknowledge_receipts (htaken rfl)).mono (fun _ _ _ => trivial) (fun _ _ _ => trivial)
  | payloadRejected status =>
    match batch with
    | [] => exact isolate_receipts h
    | [event] =>
      have hrejected : UploadDisposition.payloadRejected status = .uploaded → event ∈ st.taken := by
        intro heq
        cases heq
      exact (settle_receipts hrejected).mono (fun _ _ _ => trivial) (fun _ _ _ => trivial)
    | _ :: _ :: _ => exact isolate_receipts h

theorem process_batch_receipts {batch : List TraceEventV2} {st : Receipts} (h : Seen batch st) :
    FollowsReceipts (process_batch batch) (fun _ _ => True) st := by
  unfold process_batch
  refine (upload_receipts h).bind ?_
  rintro disposition st' ⟨hseen, htaken⟩
  refine settle_batch_receipts ?_ htaken
  unfold Seen
  rw [hseen]
  exact h

/-! ## §3. Batches. -/

theorem reload_receipts (cfg : WorkerConfig) {n : Nat} :
    ∀ {batch : List TraceEventV2} {st : Receipts}, Seen batch st →
      FollowsReceipts (reload cfg n batch) Seen st := by
  induction n with
  | zero => intro batch st h; exact h
  | succ n ih =>
    intro batch st h
    unfold reload
    by_cases hlen : batch.length < cfg.batch_size
    · rw [if_pos hlen]
      exact ⟨trivial, fun loaded _ => ih (fun _ hmem => List.mem_append_right _ hmem)⟩
    · rw [if_neg hlen]
      exact h

theorem next_batch_receipts (cfg : WorkerConfig) (st : Receipts) :
    FollowsReceipts (next_batch cfg) Seen st := by
  have hloaded : ∀ (loaded : List TraceEventV2) (st : Receipts),
      Seen loaded (receipt_next st (.load_batch cfg.batch_size) loaded) :=
    fun _ _ _ hmem => List.mem_append_right _ hmem
  unfold next_batch
  refine ⟨trivial, fun loaded _ => ?_⟩
  show (if loaded.isEmpty then await_batch cfg else .ret loaded).Follows _ _ _ _
  by_cases hempty : loaded.isEmpty = true
  · -- nothing is pending: wait for a first event
    rw [if_pos hempty]
    refine ⟨trivial, fun channel_open _ => ?_⟩
    refine Prog.follows_rejectIf_bind (fun _ => ⟨trivial, fun wakeups _ => ?_⟩)
    show (reload cfg wakeups [] >>= fun _ => _ : WorkerProg _).Follows _ _ _ _
    have hnone : ∀ st : Receipts, Seen [] st := by
      intro st event hevent
      cases hevent
    refine (reload_receipts cfg (hnone _)).bind ?_
    intro batch st' hbatch
    show (if batch.isEmpty then _ else _ : WorkerProg _).Follows _ _ _ _
    split
    · exact ⟨trivial, fun again _ => hloaded again st'⟩
    · exact hbatch
  · rw [if_neg hempty]
    exact hloaded loaded st

/-- What a preparation promises of its batch. -/
def SeenReady : BatchPreparation → Receipts → Prop
  | .ready batch, st => Seen batch st
  | _, _ => True

theorem await_source_receipts (cfg : WorkerConfig) (event : TraceEventV2) (waits : Waits)
    (st : Receipts) :
    FollowsReceipts (await_source cfg event waits) (fun r st' => SeenReady r.1 st') st := by
  have hstarted : FollowsReceipts (wait_started event.event_id waits) (fun _ _ => True) st := by
    unfold wait_started
    cases waits.lookup event.event_id with
    | some started => exact trivial
    | none => exact ⟨trivial, fun _ _ => trivial⟩
  unfold await_source
  refine hstarted.bind (fun started st' _ => ⟨trivial, fun now _ => ?_⟩)
  show (if _ then _ else _ : WorkerProg (BatchPreparation × Waits)).Follows _ _ _ _
  split <;> exact trivial

theorem enrich_receipts {event : TraceEventV2} (source_graph : QueryEvidenceGraphV2)
    (source_digest : String) (waits : Waits) {st : Receipts} (h : event ∈ st.seen) :
    FollowsReceipts (enrich event source_graph source_digest waits)
      (fun r st' => SeenReady r.1 st') st := by
  unfold enrich
  rw [FollowsReceipts, Prog.follows_bind]
  refine ⟨trivial, fun answer _ => ?_⟩
  rw [Prog.follows_ofExcept]
  refine ⟨fun now _ => Prog.follows_rejectIf_bind (fun _ => ?_), fun _ _ => trivial⟩
  rw [Prog.follows_bind]
  refine ⟨⟨event, h, rfl⟩, fun answer _ => ?_⟩
  rw [Prog.follows_ofExcept]
  exact ⟨fun _ _ _ hmem => List.mem_append_right _ hmem, fun _ _ => trivial⟩

theorem prepare_upload_batch_receipts (cfg : WorkerConfig) (waits : Waits)
    {batch : List TraceEventV2} {st : Receipts} (h : Seen batch st) :
    FollowsReceipts (prepare_upload_batch cfg batch waits) (fun r st' => SeenReady r.1 st') st := by
  cases batch with
  | nil => exact h
  | cons event rest =>
    rw [prepare_upload_batch_cons]
    by_cases hneeds : needs_provenance event = true
    · rw [if_pos hneeds]
      unfold prepare_cache_hit
      refine Prog.follows_okOr_bind (fun cache_object_digest _ => ?_)
      rw [Prog.follows_bind]
      refine ⟨trivial, fun answer _ => ?_⟩
      rw [Prog.follows_ofExcept]
      refine ⟨fun source _ => ?_, fun _ _ => trivial⟩
      cases source with
      | none => exact await_source_receipts cfg event waits st
      | some found => exact enrich_receipts found.1 found.2 waits (h event List.mem_cons_self)
    · rw [if_neg hneeds]
      exact fun other hother => h other (List.takeWhile_subset _ hother)

/-- One turn of the worker's loop acknowledges only what the Agent has taken. -/
theorem upload_iteration_receipts (cfg : WorkerConfig) (waits : Waits) (st : Receipts) :
    FollowsReceipts (upload_iteration cfg waits) (fun _ _ => True) st := by
  unfold upload_iteration
  refine (next_batch_receipts cfg st).bind (fun batch st' hbatch => ?_)
  refine (prepare_upload_batch_receipts cfg waits hbatch).bind ?_
  rintro ⟨preparation, waits'⟩ st'' hprepared
  cases preparation with
  | ready batch' =>
    show (process_batch batch' >>= fun _ => _ : WorkerProg _).Follows _ _ _ _
    exact (process_batch_receipts hprepared).bind (fun _ _ _ => trivial)
  | waiting => exact trivial
  | quarantine trace_id reason =>
    refine ⟨trivial, fun answer _ => ?_⟩
    show (Prog.ofExcept answer >>= fun _ => _ : WorkerProg _).Follows _ _ _ _
    exact Prog.follows_ofExcept_bind (fun _ _ => trivial)

end ResolverIdentity.Adapter
