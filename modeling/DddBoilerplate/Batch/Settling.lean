/- module: DddBoilerplate/Batch/Settling
   generality: I
   digest: What stands behind every settled row, every closed job and every event of its completion. -/

import DddBoilerplate.Batch.Stamps
import DddBoilerplate.Concurrency.Told

set_option autoImplicit false
set_option relaxedAutoImplicit false
set_option linter.all false

namespace DddBoilerplate.Batch

open Concurrency Context Store ClsRequestContextService

section Reasons

variable (h : List BatchCall)

/-- The row was created with the job, or listed as one of it. -/
def Listed (jobId rowId : String) : Prop :=
  (∃ data ids job rowIds, ⟨.createJobWithRows data ids, .ok (job, rowIds)⟩ ∈ h ∧
      job.id = jobId ∧ rowId ∈ rowIds) ∨
    ∃ rowIds, ⟨.pendingRowIds jobId, .ok rowIds⟩ ∈ h ∧ rowId ∈ rowIds

/-- The row is one of the job that the thread works on. -/
def Handed (jobId rowId : String) : Prop :=
  Listed h jobId rowId ∨
    ∃ dispatch, ⟨.takeChunk, .ok dispatch⟩ ∈ h ∧ dispatch.jobId = jobId ∧ rowId ∈ dispatch.rowIds

/-- The job was found with all its rows counted, or as one with none left. -/
def Finished (jobId : String) : Prop :=
  (∃ asked job, ⟨.findJob asked, .ok (some job)⟩ ∈ h ∧ job.id = jobId ∧
      job.totalRecords ≤ job.counters.processedRecords) ∨
    ∃ jobs job, ⟨.findCompletableJobs, .ok jobs⟩ ∈ h ∧ job ∈ jobs ∧ job.id = jobId

/-- The thread has just closed the job, with the verdict of its counters or as cancelled. -/
def Announces (job : BatchOperationJob) : Prop :=
  ∃ g jobId found,
    (h = g ++ [⟨.findJob jobId, .ok (some found)⟩] ++
        [⟨.closeJob jobId (verdictOf found.counters), .ok true⟩] ∧ Finished g jobId ∧
      job = { found with status := verdictOf found.counters }) ∨
    (h = g ++ [⟨.closeJob jobId .cancelled, .ok true⟩] ++ [⟨.findJob jobId, .ok (some found)⟩] ∧
      job = { found with status := .cancelled })

/-- What the requests that settle, close, count and announce are made because of. -/
def Reason : BatchStatement → Prop
  | .settleRow rowId jobId claimToken _ => ∃ asked claimed,
      ⟨.claimRow asked, .ok (some claimed)⟩ ∈ h ∧ Handed h jobId asked ∧ claimed.id = rowId ∧
        claimed.claimToken = claimToken
  | .closeJob _ status => status.isTerminal = true
  | .writeCounters jobId counters =>
    ∃ counted, ⟨.countRows, .ok counted⟩ ∈ h ∧ (jobId, counters) ∈ counted
  | .enqueue dispatch => ∀ rowId ∈ dispatch.rowIds, Listed h dispatch.jobId rowId
  | .writeJobCompletedEvent job => Announces h job
  | _ => True

variable {h} {h' : List BatchCall} {jobId rowId : String}

theorem Listed.mono (hlisted : Listed h jobId rowId) (hsub : h ⊆ h') : Listed h' jobId rowId := by
  rcases hlisted with ⟨data, ids, job, rowIds, hcall, hrow⟩ | ⟨rowIds, hcall, hrow⟩
  · exact .inl ⟨data, ids, job, rowIds, hsub hcall, hrow⟩
  · exact .inr ⟨rowIds, hsub hcall, hrow⟩

theorem Handed.mono (hrow : Handed h jobId rowId) (hsub : h ⊆ h') : Handed h' jobId rowId := by
  rcases hrow with hlisted | ⟨dispatch, hcall, hrow⟩
  · exact .inl (hlisted.mono hsub)
  · exact .inr ⟨dispatch, hsub hcall, hrow⟩

theorem verdictOf_isTerminal (counters : BatchOperationCounters) :
    (verdictOf counters).isTerminal = true := by
  unfold verdictOf
  split
  · rfl
  · split <;> rfl

end Reasons

section Rows

variable {config : BatchConfig} {store : ClsStore} {dispatch : BatchOperationDispatch}
variable {h : List BatchCall} {jobId : String} {claimed : ClaimedBatchOperationRow}

/-- What is asked for a row once it is claimed. -/
def OfClaim (claimed : ClaimedBatchOperationRow) (jobId : String) : BatchStatement → Prop
  | .settleRow rowId job claimToken _ =>
    rowId = claimed.id ∧ job = jobId ∧ claimToken = claimed.claimToken
  | .enqueue _ | .closeJob _ _ | .writeCounters _ _ | .writeJobCompletedEvent _ => False
  | _ => True

theorem reason_of_ofClaim {q : BatchStatement} {asked : String}
    (hclaimed : ⟨.claimRow asked, .ok (some claimed)⟩ ∈ h) (hrow : Handed h jobId asked)
    (hq : OfClaim claimed jobId q) : Reason h q := by
  cases q with
  | settleRow rowId job claimToken settlement =>
    obtain ⟨rfl, rfl, rfl⟩ := hq
    exact ⟨asked, claimed, hclaimed, hrow, rfl, rfl⟩
  | enqueue dispatch => exact hq.elim
  | closeJob job status => exact hq.elim
  | writeCounters job counters => exact hq.elim
  | writeJobCompletedEvent job => exact hq.elim
  | _ => trivial

theorem settleClaimed_ofClaim (settlement : BatchOperationRowSettlement) :
    Always (fun _ => OfClaim claimed jobId) (settleClaimed claimed jobId settlement) :=
  (always_call fun _ => ⟨rfl, rfl, rfl⟩).bind fun _ => .done ()

theorem runHandler_ofClaim (requestContext : RequestContext) :
    Always (fun _ => OfClaim claimed dispatch.jobId)
      (runHandler config requestContext dispatch claimed) := by
  unfold runHandler
  refine Always.handle ?_ (fun _ => .done _) fun message =>
    (settleClaimed_ofClaim _).bind fun _ => .done _
  refine (always_call fun _ => trivial).bind fun verdict => ?_
  split
  · exact settleClaimed_ofClaim _
  · exact (always_call fun _ => trivial).bind fun _ => settleClaimed_ofClaim _

theorem processRow_reason {rowId : String} (hrow : Handed h dispatch.jobId rowId) :
    Accounted Reason (fun _ _ => True) h (processRow config store dispatch rowId) := by
  unfold processRow
  refine accounted_call trivial fun cancelRequested => ?_
  split
  · trivial
  · refine accounted_call trivial fun found => ?_
    cases found with
    | none => trivial
    | some claimed =>
      have hrest : Always (fun _ => OfClaim claimed dispatch.jobId) (do
          let cancelRequested ← call (.isCancelRequested dispatch.jobId)
          if cancelRequested then do
            settleClaimed claimed dispatch.jobId (.skipped "CANCELLED_BY_REQUEST")
            return RowOutcome.cancelled
          else do
            let _handler ← Program.lift (resolveHandler config dispatch.aggregateType)
            (runHandler config (entering store (dispatchPatch dispatch)) dispatch claimed).handle
              .done fun message => do
                settleClaimed claimed dispatch.jobId (.failed message)
                return .processed) := by
        refine (always_call fun _ => trivial).bind fun cancelRequested => ?_
        split
        · exact (settleClaimed_ofClaim _).bind fun _ => .done _
        · refine (Always.lift _).bind fun _ => ?_
          exact (runHandler_ofClaim _).handle (fun _ => .done _) fun message =>
            (settleClaimed_ofClaim _).bind fun _ => .done _
      refine (hrest _).since.mono (fun h' q hq => ?_) fun _ _ _ => trivial
      refine reason_of_ofClaim (hq.1.subset (List.mem_append_right _ (List.mem_singleton_self _)))
        (hrow.mono fun c hc => hq.1.subset ?_) hq.2
      exact List.mem_append_left _ (List.mem_append_left _ hc)

/-- The rows of a chunk stay handed to the thread that works on it. -/
theorem processRows_reason (rowIds : List String)
    (hrows : ∀ rowId ∈ rowIds, Handed h dispatch.jobId rowId) :
    Accounted Reason (fun _ _ => True) h (processRows config store dispatch rowIds) := by
  induction rowIds generalizing h with
  | nil => trivial
  | cons rowId rowIds ih =>
    refine (processRow_reason (hrows rowId (List.mem_cons_self ..))).grown.bind
      fun h' outcome hgrown => ?_
    have hrest := ih fun r hr => (hrows r (List.mem_cons_of_mem _ hr)).mono hgrown.1.subset
    cases outcome with
    | processed => exact hrest
    | skippedClaim => exact hrest
    | cancelled => trivial

end Rows

section Finalising

variable {config : BatchConfig} {store : ClsStore} {dispatch : BatchOperationDispatch}
variable {h : List BatchCall} {jobId : String}

/-- What comes of finalising is announced next, if at all. -/
abbrev Finalised (h : List BatchCall) (finalised : Option BatchOperationJob) : Prop :=
  ∀ job ∈ finalised, Announces h job

theorem finaliseJob_reason (hfinished : Finished h jobId) :
    Accounted Reason Finalised h (finaliseJob jobId) := by
  refine accounted_call trivial fun found => ?_
  cases found with
  | none => exact fun job hjob => by cases hjob
  | some found =>
    refine accounted_call (verdictOf_isTerminal found.counters) fun updated => ?_
    cases updated with
    | false => exact fun job hjob => by cases hjob
    | true =>
      intro job hjob
      cases hjob
      exact ⟨h, jobId, found, .inl ⟨rfl, hfinished, rfl⟩⟩

theorem finaliseCancelled_reason : Accounted Reason Finalised h (finaliseCancelled jobId) := by
  refine accounted_call rfl fun updated => ?_
  cases updated with
  | false => exact fun job hjob => by cases hjob
  | true =>
    refine accounted_call trivial fun found => ?_
    cases found with
    | none => exact fun job hjob => by cases hjob
    | some found =>
      intro job hjob
      cases hjob
      exact ⟨h, jobId, found, .inr ⟨rfl, rfl⟩⟩

theorem finaliseDue_reason {asked : String} {job : BatchOperationJob}
    (hfound : ⟨.findJob asked, .ok (some job)⟩ ∈ h) :
    Accounted Reason Finalised h (finaliseDue job) := by
  unfold finaliseDue
  split
  · rename_i hall
    exact finaliseJob_reason (.inl ⟨asked, job, hfound, rfl, hall⟩)
  · split
    · refine accounted_call trivial fun pending => ?_
      split
      · exact finaliseCancelled_reason
      · exact fun job hjob => by cases hjob
    · exact fun job hjob => by cases hjob

theorem finaliseIfComplete_reason :
    Accounted Reason (fun _ _ => True) h (finaliseIfComplete jobId) := by
  refine accounted_call trivial fun found => ?_
  cases found with
  | none => trivial
  | some job =>
    simp only
    split
    · trivial
    · refine (finaliseDue_reason (List.mem_append_right _ (List.mem_singleton_self _))).bind
        fun h' finalised hfinalised => ?_
      cases finalised with
      | none => trivial
      | some finalised =>
        refine ⟨hfinalised finalised rfl, fun a => ?_⟩
        cases a with
        | ok u => trivial
        | error message => trivial

theorem processChunk_reason (hrows : ∀ rowId ∈ dispatch.rowIds, Handed h dispatch.jobId rowId) :
    Accounted Reason (fun _ _ => True) h (processChunk config store dispatch) := by
  refine accounted_call trivial fun _ => ?_
  refine (processRows_reason dispatch.rowIds fun rowId hrow => ?_).bind
    fun h' _ _ => finaliseIfComplete_reason
  exact (hrows rowId hrow).mono (List.subset_append_left _ _)

end Finalising

section Entries

variable {config : BatchConfig} {h : List BatchCall}

theorem mem_splitFrom {α : Type} {size rounds : Nat} {items chunk : List α}
    (hchunk : chunk ∈ splitFrom size rounds items) : chunk ⊆ items := by
  induction rounds generalizing items with
  | zero => cases hchunk
  | succ rounds ih =>
    cases items with
    | nil => cases hchunk
    | cons item items =>
      rcases List.mem_cons.mp hchunk with rfl | hchunk
      · exact List.take_subset _ _
      · exact fun x hx => List.drop_subset _ _ (ih hchunk hx)

theorem dispatchChunks_reason {dispatch : BatchOperationDispatch}
    (hrows : ∀ rowId ∈ dispatch.rowIds, Listed h dispatch.jobId rowId) :
    Accounted Reason (fun _ _ => True) h (dispatchChunks config dispatch) := by
  have hchunks : Accounted Reason
      (fun h _ => ∀ rowId ∈ dispatch.rowIds, Listed h dispatch.jobId rowId) h
      (dispatchChunks config dispatch) := by
    refine Accounted.each hrows fun chunk hchunk h hkept => ?_
    refine ⟨fun rowId hrow => hkept rowId (mem_splitFrom hchunk hrow), fun a => ?_⟩
    cases a with
    | ok u => exact fun rowId hrow => (hkept rowId hrow).mono (List.subset_append_left _ _)
    | error failure => trivial
  exact hchunks.mono (fun _ _ hq => hq) fun _ _ _ => trivial

/-- A failure that is forgotten leaves what was answered before. -/
theorem isolated_reason {call : BatchCall} {body : BatchProgram Unit}
    (hbody : Accounted Reason (fun _ _ => True) h body) (hcall : call ∈ h) :
    Accounted Reason (fun h' _ => call ∈ h') h (isolated body) := by
  have hkept : ∀ h q a, call ∈ h → Reason h q → call ∈ h ++ [⟨q, a⟩] :=
    fun h q a hcall _ => List.mem_append_left _ hcall
  exact hbody.handle hcall hkept (fun _ _ hq => hq) (fun _ _ hcall _ => hcall) fun _ _ hcall => hcall

theorem recountJobCounters_reason : Accounted Reason (fun _ _ => True) h recountJobCounters := by
  refine accounted_call trivial fun counted => ?_
  have hcounted : (⟨.countRows, .ok counted⟩ : BatchCall) ∈ h ++ [⟨.countRows, .ok counted⟩] :=
    List.mem_append_right _ (List.mem_singleton_self _)
  have heach := @Accounted.each _ _ Reason (fun h => (⟨.countRows, .ok counted⟩ : BatchCall) ∈ h)
    (fun entry => call (.writeCounters entry.1 entry.2)) counted _ hcounted
    fun entry hentry h hkept => ⟨⟨counted, hkept, hentry⟩, fun a => by
      cases a with
      | ok u => exact List.mem_append_left _ hkept
      | error failure => trivial⟩
  exact heach.mono (fun _ _ hq => hq) fun _ _ _ => trivial

theorem finaliseCompletable_reason {jobs : List BatchOperationJob} {job : BatchOperationJob}
    (hjob : job ∈ jobs) (hlisted : ⟨.findCompletableJobs, .ok jobs⟩ ∈ h) :
    Accounted Reason (fun h' _ => ⟨.findCompletableJobs, .ok jobs⟩ ∈ h') h
      (finaliseCompletable job) := by
  refine isolated_reason ?_ hlisted
  refine (finaliseJob_reason (.inr ⟨jobs, job, hlisted, hjob, rfl⟩)).bind
    fun h' finalised hfinalised => ?_
  cases finalised with
  | none => trivial
  | some finalised =>
    refine ⟨hfinalised finalised rfl, fun a => ?_⟩
    cases a with
    | ok u => trivial
    | error message => trivial

theorem redispatch_reason {jobs : List BatchOperationJob} {job : BatchOperationJob}
    (hlisted : ⟨.findResumableJobs, .ok jobs⟩ ∈ h) :
    Accounted Reason (fun h' _ => ⟨.findResumableJobs, .ok jobs⟩ ∈ h') h
      (redispatch config job) := by
  refine isolated_reason (accounted_call trivial fun rowIds => ?_) hlisted
  split
  · trivial
  · refine dispatchChunks_reason fun rowId hrow => .inr ⟨rowIds, ?_, hrow⟩
    exact List.mem_append_right _ (List.mem_singleton_self _)

theorem reconcile_reason : Accounted Reason (fun _ _ => True) h (reconcile config) := by
  have hbody : Accounted Reason (fun _ _ => True) h (do
      call .resetStuckRows
      call .abandonRows
      recountJobCounters
      let completable ← call .findCompletableJobs
      Program.each finaliseCompletable completable
      let resumable ← call .findResumableJobs
      Program.each (redispatch config) resumable) := by
    refine accounted_call trivial fun _ => accounted_call trivial fun _ => ?_
    refine recountJobCounters_reason.bind fun h _ _ => ?_
    refine accounted_call trivial fun completable => ?_
    have hcompletable := @Accounted.each _ _ Reason (fun h =>
      (⟨.findCompletableJobs, .ok completable⟩ : BatchCall) ∈ h) finaliseCompletable completable
      _ (List.mem_append_right h (List.mem_singleton_self _))
      fun job hjob h hkept => finaliseCompletable_reason hjob hkept
    refine hcompletable.bind fun h' _ _ => ?_
    refine accounted_call trivial fun resumable => ?_
    have hresumable := @Accounted.each _ _ Reason (fun h =>
      (⟨.findResumableJobs, .ok resumable⟩ : BatchCall) ∈ h) (redispatch config) resumable
      _ (List.mem_append_right h' (List.mem_singleton_self _))
      fun job _ h hkept => redispatch_reason hkept
    exact hresumable.mono (fun _ _ hq => hq) fun _ _ _ => trivial
  have hhandled := @Accounted.handle _ _ _ Reason _ (fun _ _ => True) Reason (fun _ => True) h _
    (fun _ => .done ()) (fun _ => .done ()) hbody trivial
  exact hhandled (fun _ _ _ _ _ => trivial) (fun _ _ hq => hq) (fun _ _ _ _ => trivial)
    fun _ _ _ => trivial

theorem create_reason {ctx : RequestContext} {input : SubmitBatchOperationInput} :
    Accounted Reason (fun _ _ => True) h (createBatchOperationJob config ctx input) := by
  refine accounted_lift_bind fun _ _ => ?_
  refine accounted_call trivial fun jobNo => ?_
  refine accounted_call trivial fun created => ?_
  obtain ⟨job, rowIds⟩ := created
  generalize (input.completed ctx).newJob config jobNo = data
  generalize (input.completed ctx).records = ids
  have hlisted : ∀ rowId ∈ rowIds, Listed ((h ++ [⟨.nextNumber, .ok jobNo⟩]) ++
      [⟨.createJobWithRows data ids, .ok (job, rowIds)⟩]) job.id rowId := fun rowId hrow =>
    .inl ⟨data, ids, job, rowIds, List.mem_append_right _ (List.mem_singleton_self _), rfl, hrow⟩
  cases (input.completed ctx).mode config with
  | sync =>
    simp only
    refine (processChunk_reason fun rowId hrow => .inl (hlisted rowId hrow)).bind fun h' _ _ => ?_
    exact accounted_call trivial fun found => trivial
  | async =>
    simp only
    have hchunks := @dispatchChunks_reason config _
      (job.dispatch (input.completed ctx).traceId rowIds) hlisted
    have hfailed : ∀ h, Accounted Reason (fun _ _ => True) h (markJobFailed job.id) :=
      fun h => accounted_call rfl fun _ => trivial
    have hhandled := @Accounted.handle _ _ _ Reason _ (fun _ _ => True) Reason (fun _ => True) _ _
      (fun _ => .done job) (fun error => markJobFailed job.id >>= fun _ => .fail error) hchunks trivial
    exact hhandled (fun _ _ _ _ _ => trivial) (fun _ _ hq => hq) (fun _ _ _ _ => trivial)
      fun h' error _ => (hfailed h').bind fun _ _ _ => trivial

theorem cancel_reason {jobId : String} {tenantId : Option String} :
    Accounted Reason (fun _ _ => True) h (cancelBatchOperationJob jobId tenantId) := by
  refine accounted_call trivial fun found => ?_
  cases found with
  | none => trivial
  | some job =>
    refine accounted_lift_bind fun _ _ => ?_
    split
    · trivial
    · refine accounted_call trivial fun _ => ?_
      have hcancelled : ∀ h, Accounted Reason (fun _ _ => True) h (cancelUnclaimed jobId) := by
        refine fun h => accounted_call trivial fun pending => ?_
        split
        · exact finaliseCancelled_reason.mono (fun _ _ hq => hq) fun _ _ _ => trivial
        · trivial
      refine (hcancelled _).bind fun h' cancelled _ => ?_
      cases cancelled with
      | none => exact accounted_call trivial fun found => trivial
      | some cancelled => trivial

theorem program_reason (entry : BatchEntry) :
    Accounted Reason (fun _ _ => True) [] (BatchEntry.program config entry) := by
  have hrespond : ∀ job, Always Reason (call (.respond job)) := fun job =>
    always_call fun _ => trivial
  cases entry with
  | submit ctx dto => exact create_reason.bind fun h job _ => hrespond job h
  | chunk =>
    refine accounted_call trivial fun dispatch => ?_
    refine processChunk_reason fun rowId hrow => .inr ⟨dispatch, ?_, rfl, hrow⟩
    exact List.mem_append_right _ (List.mem_singleton_self _)
  | cancel jobId tenantId => exact cancel_reason.bind fun h job _ => hrespond job h
  | reconcile => exact reconcile_reason

end Entries

end DddBoilerplate.Batch
