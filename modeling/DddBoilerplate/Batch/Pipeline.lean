/- module: DddBoilerplate/Batch/Pipeline
   generality: I
   digest: Submitting a batch operation, its chunks and rows, cancelling it, and its sweep. -/

import DddBoilerplate.Batch.Requests
import DddBoilerplate.Concurrency.Pool

set_option autoImplicit false
set_option relaxedAutoImplicit false
set_option linter.all false

namespace DddBoilerplate.Batch

open Concurrency Context ClsRequestContextService

abbrev BatchProgram := Program BatchStatement.interface

/-- One statement, whose exception ends what it stands in. -/
def call (q : BatchStatement) : BatchProgram q.Result := .ask q .lift

/-- The settings of the pipeline, and the operations of the handlers that are registered, by their
aggregate types. -/
structure BatchConfig where
  supportedOperations : String → Option (List String)
  multiTenant : Bool
  maxRecordsPerJob : Nat
  syncThreshold : Nat
  chunkSize : Nat
  chunkSize_pos : 0 < chunkSize
  resultSnapshotMaxBytes : Nat

variable (config : BatchConfig)

section Registry

/-- `BatchOperationHandlerRegistry.resolveHandler` -/
def resolveHandler (aggregateType : String) : Except String (List String) :=
  match config.supportedOperations aggregateType with
  | some operations => .ok operations
  | none => .error s!"No BatchOperationHandler registered for aggregateType '{aggregateType}'"

def assertOperationSupported (aggregateType operationCode : String) : Except String Unit := do
  let operations ← resolveHandler config aggregateType
  if operations.contains operationCode then return ()
  else .error s!"aggregateType '{aggregateType}' does not support operationCode '{operationCode}'"

end Registry

section Queue

/-- `Chunker.split`, in at most `rounds` rounds. -/
def splitFrom {α : Type} (size : Nat) : Nat → List α → List (List α)
  | 0, _ => []
  | _, [] => []
  | rounds + 1, items => items.take size :: splitFrom size rounds (items.drop size)

/-- `Chunker.split` -/
def split {α : Type} (items : List α) (size : Nat) : List (List α) :=
  splitFrom size items.length items

/-- `BullMqBatchOperationQueueAdapter.dispatchChunks` -/
def dispatchChunks (dispatch : BatchOperationDispatch) : BatchProgram Unit :=
  Program.each (fun rowIds => call (.enqueue { dispatch with rowIds := rowIds }))
    (split dispatch.rowIds config.chunkSize)

end Queue

section Finalising

/-- The verdict of the counters. -/
def verdictOf (counters : BatchOperationCounters) : BatchOperationJobStatus :=
  if counters.failedRecords = 0 then .completed
  else if 0 < counters.successRecords then .completedWithErrors else .failed

def finaliseJob (jobId : String) : BatchProgram (Option BatchOperationJob) := do
  let found ← call (.findJob jobId)
  match found with
  | none => return none
  | some job => do
    let status := verdictOf job.counters
    let updated ← call (.closeJob jobId status)
    return if updated then some { job with status := status } else none

def finaliseCancelled (jobId : String) : BatchProgram (Option BatchOperationJob) := do
  let updated ← call (.closeJob jobId .cancelled)
  if updated then do
    let found ← call (.findJob jobId)
    return found.map fun job => { job with status := .cancelled }
  else return none

def markJobFailed (jobId : String) : BatchProgram Unit := do
  let _updated ← call (.closeJob jobId .failed)
  return ()

end Finalising

section Rows

def knownSkipReasons : List String :=
  ["ALREADY_IN_TARGET_STATE", "VALIDATION_FAILED", "PERMISSION_DENIED"]

def normaliseSkipReason (reason : Option String) : String :=
  match reason.getD "" with
  | "" => "VALIDATION_FAILED"
  | reason =>
    if knownSkipReasons.contains reason then reason
    else slice 200 s!"VALIDATION_FAILED: {reason}"

def capSnapshot (snapshot : Option String) (maxBytes : Nat) : Option String :=
  snapshot.map fun text =>
    if text.utf8ByteSize ≤ maxBytes then text
    else s!"\x7b\"_truncated\":true,\"_originalBytes\":{text.utf8ByteSize}\x7d"

inductive RowOutcome where
  | processed | skippedClaim | cancelled
  deriving DecidableEq

/-- The settlement of a claimed row; whether it came too late is not looked at. -/
def settleClaimed (claimed : ClaimedBatchOperationRow) (jobId : String)
    (settlement : BatchOperationRowSettlement) : BatchProgram Unit := do
  let _settled ← call (.settleRow claimed.id jobId claimed.claimToken settlement)
  return ()

/-- What a row's handler is called with, in the request context that it finds. -/
def handlerCall (requestContext : RequestContext) (dispatch : BatchOperationDispatch)
    (entityId : String) : HandlerCall where
  requestContext := requestContext
  context := ⟨dispatch.tenantId, dispatch.jobId, dispatch.requestedBy, dispatch.traceId⟩
  aggregateType := dispatch.aggregateType
  entityId := entityId
  operationCode := dispatch.operationCode
  params := dispatch.params

/-- `ProcessBatchOperationRowUseCase.runHandler` -/
def runHandler (requestContext : RequestContext) (dispatch : BatchOperationDispatch)
    (claimed : ClaimedBatchOperationRow) : BatchProgram RowOutcome :=
  Program.handle (do
      let verdict ← call (.validate (handlerCall requestContext dispatch claimed.entityId))
      if !verdict.canProceed then
        settleClaimed claimed dispatch.jobId (.skipped (normaliseSkipReason verdict.reason))
      else do
        let resultSnapshot ← call
          (.execute (handlerCall requestContext dispatch claimed.entityId))
        settleClaimed claimed dispatch.jobId
          (.success (capSnapshot resultSnapshot config.resultSnapshotMaxBytes)))
    (fun _ => .done .processed) fun message => do
      settleClaimed claimed dispatch.jobId (.failed message)
      return .processed

/-- The patch a row's handler is run with: the company is mentioned also where there is none. -/
def dispatchPatch (dispatch : BatchOperationDispatch) : RequestContextPatch
  | .tenantId => some dispatch.tenantId
  | .companyId => some dispatch.companyId
  | _ => none

/-- `ProcessBatchOperationRowUseCase.execute`, in the scope the chunk is processed in. -/
def processRow (store : ClsStore) (dispatch : BatchOperationDispatch) (rowId : String) :
    BatchProgram RowOutcome := do
  let cancelRequested ← call (.isCancelRequested dispatch.jobId)
  if cancelRequested then return .cancelled
  else do
    let claimed ← call (.claimRow rowId)
    match claimed with
    | none => return .skippedClaim
    | some claimed => do
      let cancelRequested ← call (.isCancelRequested dispatch.jobId)
      if cancelRequested then do
        -- claimed after the cancel: the row ends here
        settleClaimed claimed dispatch.jobId (.skipped "CANCELLED_BY_REQUEST")
        return .cancelled
      else do
        let _handler ← Program.lift (resolveHandler config dispatch.aggregateType)
        (runHandler config (entering store (dispatchPatch dispatch)) dispatch claimed).handle
          .done fun message => do
            settleClaimed claimed dispatch.jobId (.failed message)
            return .processed

/-- The loop of `processChunk`: a row that finds the job cancelled ends it. -/
def processRows (store : ClsStore) (dispatch : BatchOperationDispatch) :
    List String → BatchProgram Unit
  | [] => return ()
  | rowId :: rowIds => do
    let outcome ← processRow config store dispatch rowId
    match outcome with
    | .cancelled => return ()
    | .processed | .skippedClaim => processRows store dispatch rowIds

/-- What is finalised of an open job: all its rows, or all but those that a cancel leaves. -/
def finaliseDue (job : BatchOperationJob) : BatchProgram (Option BatchOperationJob) :=
  if job.totalRecords ≤ job.counters.processedRecords then finaliseJob job.id
  else if job.cancelRequested then do
    let pending ← call (.pendingRowIds job.id)
    if job.totalRecords ≤ job.counters.processedRecords + pending.length then
      finaliseCancelled job.id
    else return none
  else return none

def finaliseIfComplete (jobId : String) : BatchProgram Unit := do
  let found ← call (.findJob jobId)
  match found with
  | none => return ()
  | some job =>
    if job.status.isTerminal then return ()
    else do
      let finalised ← finaliseDue job
      match finalised with
      | none => return ()
      | some finalised =>
        -- an event that is not written is logged and forgotten
        (call (.writeJobCompletedEvent finalised)).handle .done fun _ => .done ()

/-- `BatchOperationWorker.processChunk` -/
def processChunk (store : ClsStore) (dispatch : BatchOperationDispatch) : BatchProgram Unit := do
  call (.markJobRunning dispatch.jobId)
  processRows config store dispatch dispatch.rowIds
  finaliseIfComplete dispatch.jobId

end Rows

section Submitting

structure SubmitBatchOperationInput where
  aggregateType : String
  operationCode : String
  entityIds : List String
  params : Option Params
  tenantId : Option String
  companyId : Option String
  branchId : Option String
  requestedBy : Option String
  traceId : Option String

/-- What the body of a request brings. -/
structure SubmitBatchOperationDto where
  aggregateType : String
  operationCode : String
  entityIds : List String
  params : Option Params

/-- `BatchOperationController.submit` passes nothing else on. -/
def SubmitBatchOperationDto.input (dto : SubmitBatchOperationDto) : SubmitBatchOperationInput :=
  ⟨dto.aggregateType, dto.operationCode, dto.entityIds, dto.params, none, none, none, none, none⟩

namespace SubmitBatchOperationInput

/-- The fields that are taken from the context where they are missing. -/
def completed (input : SubmitBatchOperationInput) (ctx : RequestContext) :
    SubmitBatchOperationInput :=
  { input with
    tenantId := input.tenantId.or (ctx .tenantId)
    requestedBy := input.requestedBy.or (ctx .userId)
    traceId := input.traceId.or (ctx .correlationId) }

/-- The records, each of them once, without the blank ones. -/
def records (input : SubmitBatchOperationInput) : List String :=
  (input.entityIds.filter fun id => Text.trim id ≠ "").eraseDups

def mode (input : SubmitBatchOperationInput) : BatchOperationMode :=
  if input.records.length ≤ config.syncThreshold then .sync else .async

def newJob (input : SubmitBatchOperationInput) (jobNo : String) : NewBatchOperationJob where
  jobNo := jobNo
  aggregateType := input.aggregateType
  operationCode := input.operationCode
  operationParams := input.params
  mode := input.mode config
  status := if input.mode config = .sync then .running else .pending
  tenantId := input.tenantId
  companyId := input.companyId
  branchId := input.branchId
  requestedBy := input.requestedBy

/-- What is refused before a job is created. -/
def checked (input : SubmitBatchOperationInput) : Except String Unit := do
  if config.multiTenant && input.tenantId.getD "" = "" then
    .error "Batch operations require a tenant context in multi-tenant mode"
  assertOperationSupported config input.aggregateType input.operationCode
  if input.records = [] then .error "A batch operation must target at least one record"
  if config.maxRecordsPerJob < input.records.length then
    .error (s!"Selection of {input.records.length} records exceeds the maximum of " ++
      s!"{config.maxRecordsPerJob} per batch operation")

end SubmitBatchOperationInput

/-- The dispatch of a job: all it brings of its submitter stands on the job's row. -/
def BatchOperationJob.dispatch (job : BatchOperationJob) (traceId : Option String)
    (rowIds : List String) : BatchOperationDispatch where
  jobId := job.id
  aggregateType := job.aggregateType
  operationCode := job.operationCode
  params := job.operationParams
  tenantId := job.tenantId
  companyId := job.companyId
  requestedBy := job.requestedBy
  traceId := traceId
  rowIds := rowIds

/-- `CreateBatchOperationJobUseCase.execute` in the scope of a request. -/
def createBatchOperationJob (ctx : RequestContext) (input : SubmitBatchOperationInput) :
    BatchProgram BatchOperationJob := do
  let input := input.completed ctx
  Program.lift (input.checked config)
  let jobNo ← call .nextNumber
  let created ← call (.createJobWithRows (input.newJob config jobNo) input.records)
  let job := created.1
  let dispatch := job.dispatch input.traceId created.2
  match input.mode config with
  | .sync => do
    processChunk config (some (some ctx)) dispatch
    let found ← call (.findJob job.id)
    return found.getD job
  | .async =>
    (dispatchChunks config dispatch).handle (fun _ => .done job) fun error => do
      markJobFailed job.id
      .fail error

end Submitting

section Cancelling

/-- `TenantScope.assertVisible` -/
def assertVisible (resourceTenantId requestTenantId : Option String) : Except String Unit :=
  match requestTenantId.getD "", resourceTenantId.getD "" with
  | "", _ => .ok ()
  | _, "" => .ok ()
  | tenant, owner => if owner = tenant then .ok () else .error "Not Found"

/-- A job none of whose rows is left to claim is cancelled at once. -/
def cancelUnclaimed (jobId : String) : BatchProgram (Option BatchOperationJob) := do
  let pending ← call (.pendingRowIds jobId)
  if pending = [] then finaliseCancelled jobId else return none

/-- `CancelBatchOperationJobUseCase.execute` -/
def cancelBatchOperationJob (jobId : String) (tenantId : Option String) :
    BatchProgram BatchOperationJob := do
  let found ← call (.findJob jobId)
  match found with
  | none => .fail s!"BatchOperationJob '{jobId}' not found"
  | some job => do
    Program.lift (assertVisible job.tenantId tenantId)
    if job.status.isTerminal then
      .fail s!"BatchOperationJob '{jobId}' is {job.status.text} and can no longer be cancelled"
    else do
      call (.setCancelRequested jobId)
      let cancelled ← cancelUnclaimed jobId
      match cancelled with
      | some cancelled => return cancelled
      | none => do
        let found ← call (.findJob jobId)
        return found.getD job

end Cancelling

section Reconciliation

/-- `recountJobCounters`: the rows are counted first, and each header is written after that. -/
def recountJobCounters : BatchProgram Unit := do
  let counted ← call .countRows
  Program.each (fun entry => call (.writeCounters entry.1 entry.2)) counted

/-- What one job of a sweep throws does not reach the others. -/
def isolated (body : BatchProgram Unit) : BatchProgram Unit :=
  body.handle .done fun _ => .done ()

def finaliseCompletable (candidate : BatchOperationJob) : BatchProgram Unit :=
  isolated do
    let finalised ← finaliseJob candidate.id
    match finalised with
    | none => return ()
    | some finalised => call (.writeJobCompletedEvent finalised)

def redispatch (job : BatchOperationJob) : BatchProgram Unit :=
  isolated do
    let rowIds ← call (.pendingRowIds job.id)
    if rowIds = [] then return ()
    else dispatchChunks config (job.dispatch none rowIds)

/-- `BatchOperationReconciliationConsumer.reconcile` -/
def reconcile : BatchProgram Unit :=
  isolated do
    call .resetStuckRows
    call .abandonRows
    recountJobCounters
    let completable ← call .findCompletableJobs
    Program.each finaliseCompletable completable
    let resumable ← call .findResumableJobs
    Program.each (redispatch config) resumable

end Reconciliation

/-- A request that submits or cancels, a worker with a chunk, and the sweep. -/
inductive BatchEntry where
  | submit (ctx : RequestContext) (dto : SubmitBatchOperationDto)
  | chunk
  | cancel (jobId : String) (tenantId : Option String)
  | reconcile

/-- No request's scope reaches a worker of the queue. -/
def BatchEntry.program : BatchEntry → BatchProgram Unit
  | submit ctx dto => do
    let job ← createBatchOperationJob config ctx dto.input
    call (.respond job)
  | chunk => do
    let dispatch ← call .takeChunk
    processChunk config none dispatch
  | cancel jobId tenantId => do
    let job ← cancelBatchOperationJob jobId tenantId
    call (.respond job)
  | reconcile => Batch.reconcile config

abbrev batchSystem : System where
  interface := BatchStatement.interface
  Store := BatchDb
  Choice := BatchChoice
  Entry := BatchEntry
  program := BatchEntry.program config
  serve := BatchStatement.serve

end DddBoilerplate.Batch
