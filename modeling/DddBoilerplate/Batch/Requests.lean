/- module: DddBoilerplate/Batch/Requests
   generality: I
   digest: Batch operation jobs with their rows, the queue of their chunks, and what is asked of them. -/

import Mathlib.Data.List.Perm.Basic
import DddBoilerplate.Concurrency.Program
import DddBoilerplate.Context.RequestContext
import DddBoilerplate.Store.Table

set_option autoImplicit false
set_option relaxedAutoImplicit false
set_option linter.all false

namespace DddBoilerplate.Batch

open Concurrency Context Store

inductive BatchOperationMode where
  | sync | async
  deriving DecidableEq

inductive BatchOperationJobStatus where
  | pending | running | completed | completedWithErrors | failed | cancelled
  deriving DecidableEq

namespace BatchOperationJobStatus

def text : BatchOperationJobStatus → String
  | pending => "PENDING"
  | running => "RUNNING"
  | completed => "COMPLETED"
  | completedWithErrors => "COMPLETED_WITH_ERRORS"
  | failed => "FAILED"
  | cancelled => "CANCELLED"

/-- `BatchOperationStatusRules.isTerminal` -/
def isTerminal : BatchOperationJobStatus → Bool
  | pending | running => false
  | completed | completedWithErrors | failed | cancelled => true

end BatchOperationJobStatus

inductive BatchOperationRowStatus where
  | pending | processing | success | failed | skipped
  deriving DecidableEq

/-- The statuses a row ends with. -/
def BatchOperationRowStatus.isSettled : BatchOperationRowStatus → Bool
  | pending | processing => false
  | success | failed | skipped => true

/-- `Record<string, unknown>`: a value is a string or something else. -/
abbrev Params := List (String × Option String)

/-- The counters of a job. -/
structure BatchOperationCounters where
  processedRecords : Nat
  successRecords : Nat
  failedRecords : Nat
  skippedRecords : Nat
  deriving DecidableEq

structure NewBatchOperationJob where
  jobNo : String
  aggregateType : String
  operationCode : String
  operationParams : Option Params
  mode : BatchOperationMode
  status : BatchOperationJobStatus
  tenantId : Option String
  companyId : Option String
  branchId : Option String
  requestedBy : Option String
  deriving DecidableEq

/-- A row of `batch_operation_jobs`. -/
structure BatchOperationJob extends NewBatchOperationJob where
  id : String
  totalRecords : Nat
  counters : BatchOperationCounters
  cancelRequested : Bool
  deriving DecidableEq

/-- A row of `batch_operation_job_rows`. -/
structure BatchOperationJobRow where
  id : String
  batchOperationJobId : String
  tenantId : Option String
  entityId : String
  status : BatchOperationRowStatus
  claimToken : Nat
  skipReason : Option String
  errorMessage : Option String
  resultSnapshot : Option String
  deriving DecidableEq

structure ClaimedBatchOperationRow where
  id : String
  entityId : String
  jobId : String
  claimToken : Nat
  deriving DecidableEq

/-- The terminal outcome of a claimed row; a snapshot is its text. -/
inductive BatchOperationRowSettlement where
  | success (resultSnapshot : Option String)
  | failed (errorMessage : String)
  | skipped (skipReason : String)
  deriving DecidableEq

/-- What a chunk brings to the worker. -/
structure BatchOperationDispatch where
  jobId : String
  aggregateType : String
  operationCode : String
  params : Option Params
  tenantId : Option String
  companyId : Option String
  requestedBy : Option String
  traceId : Option String
  rowIds : List String
  deriving DecidableEq

/-- What a handler is passed of the job. -/
structure BatchOperationContext where
  tenantId : Option String
  batchOperationJobId : String
  requestedBy : Option String
  traceId : Option String
  deriving DecidableEq

structure ValidationResult where
  canProceed : Bool
  reason : Option String
  deriving DecidableEq

/-- A call of a handler, with the request context it finds. -/
structure HandlerCall where
  requestContext : RequestContext
  context : BatchOperationContext
  aggregateType : String
  entityId : String
  operationCode : String
  params : Option Params

section Rows

/-- The characters within `n` UTF-16 code units. -/
def takeUnits : Nat → List Char → List Char
  | _, [] => []
  | n, c :: cs =>
    let width := if 0xFFFF < c.toNat then 2 else 1
    if width ≤ n then c :: takeUnits (n - width) cs else []

/-- `slice(0, n)`; a pair of units that is cut in two is left out. -/
def slice (n : Nat) (s : String) : String := String.ofList (takeUnits n s.toList)

namespace BatchOperationRowSettlement

def status : BatchOperationRowSettlement → BatchOperationRowStatus
  | success _ => .success
  | failed _ => .failed
  | skipped _ => .skipped

def change (settlement : BatchOperationRowSettlement) (row : BatchOperationJobRow) :
    BatchOperationJobRow :=
  match settlement with
  | success resultSnapshot => { row with status := .success, resultSnapshot := resultSnapshot }
  | failed errorMessage =>
    { row with status := .failed, errorMessage := some (slice 4000 errorMessage) }
  | skipped skipReason => { row with status := .skipped, skipReason := some (slice 200 skipReason) }

/-- The counters that go up with the outcome of a row. -/
def count (settlement : BatchOperationRowSettlement) (counters : BatchOperationCounters) :
    BatchOperationCounters :=
  let counters := { counters with processedRecords := counters.processedRecords + 1 }
  match settlement with
  | success _ => { counters with successRecords := counters.successRecords + 1 }
  | failed _ => { counters with failedRecords := counters.failedRecords + 1 }
  | skipped _ => { counters with skippedRecords := counters.skippedRecords + 1 }

end BatchOperationRowSettlement

namespace BatchOperationJobRow

def claim (row : BatchOperationJobRow) : BatchOperationJobRow :=
  { row with status := .processing, claimToken := row.claimToken + 1 }

/-- A stuck row that is released: its claim token goes up as well. -/
def release (row : BatchOperationJobRow) : BatchOperationJobRow :=
  { row with status := .pending, claimToken := row.claimToken + 1 }

def abandon (row : BatchOperationJobRow) : BatchOperationJobRow :=
  { row with status := .skipped, skipReason := some "ABANDONED_ON_TERMINAL_JOB" }

def claimed (row : BatchOperationJobRow) : ClaimedBatchOperationRow :=
  ⟨row.id, row.entityId, row.batchOperationJobId, row.claimToken⟩

/-- The row is in progress under this very claim. -/
def isHeld (row : BatchOperationJobRow) (claimToken : Nat) : Bool :=
  row.status = .processing && row.claimToken = claimToken

end BatchOperationJobRow

end Rows

structure BatchOperationJobCompletedEvent where
  jobId : String
  jobNo : String
  aggregateType : String
  operationCode : String
  status : BatchOperationJobStatus
  totalRecords : Nat
  successRecords : Nat
  failedRecords : Nat
  skippedRecords : Nat
  tenantId : Option String
  deriving DecidableEq

def BatchOperationJob.completedEvent (job : BatchOperationJob) :
    BatchOperationJobCompletedEvent :=
  ⟨job.id, job.jobNo, job.aggregateType, job.operationCode, job.status, job.totalRecords,
    job.counters.successRecords, job.counters.failedRecords, job.counters.skippedRecords,
    job.tenantId⟩

/-- The two tables, the chunks in the queue, and the events written so far. -/
structure BatchDb where
  jobs : Table BatchOperationJob.id
  rows : Table BatchOperationJobRow.id
  queue : List BatchOperationDispatch
  events : List BatchOperationJobCompletedEvent

def BatchDb.empty : BatchDb := ⟨Table.empty, Table.empty, [], []⟩

/-- The statements on the tables, each atomic, what is asked of the numbering, of the handlers and
of the queue, and the answer of a call to its caller. -/
inductive BatchStatement where
  | nextNumber
  | createJobWithRows (job : NewBatchOperationJob) (entityIds : List String)
  | findJob (jobId : String)
  | markJobRunning (jobId : String)
  | closeJob (jobId : String) (status : BatchOperationJobStatus)
  | countRows
  | writeCounters (jobId : String) (counters : BatchOperationCounters)
  | findCompletableJobs
  | findResumableJobs
  | setCancelRequested (jobId : String)
  | isCancelRequested (jobId : String)
  | pendingRowIds (jobId : String)
  | claimRow (rowId : String)
  | settleRow (rowId jobId : String) (claimToken : Nat) (settlement : BatchOperationRowSettlement)
  | resetStuckRows
  | abandonRows
  | validate (call : HandlerCall)
  | execute (call : HandlerCall)
  | enqueue (dispatch : BatchOperationDispatch)
  | takeChunk
  | writeJobCompletedEvent (job : BatchOperationJob)
  | respond (job : BatchOperationJob)

/-- What a statement returns that does not throw. -/
@[reducible] def BatchStatement.Result : BatchStatement → Type
  | nextNumber => String
  | createJobWithRows _ _ => BatchOperationJob × List String
  | findJob _ => Option BatchOperationJob
  | markJobRunning _ => Unit
  | closeJob _ _ => Bool
  | countRows => List (String × BatchOperationCounters)
  | writeCounters _ _ => Unit
  | findCompletableJobs => List BatchOperationJob
  | findResumableJobs => List BatchOperationJob
  | setCancelRequested _ => Unit
  | isCancelRequested _ => Bool
  | pendingRowIds _ => List String
  | claimRow _ => Option ClaimedBatchOperationRow
  | settleRow _ _ _ _ => Bool
  | resetStuckRows => Unit
  | abandonRows => Unit
  | validate _ => ValidationResult
  | execute _ => Option String
  | enqueue _ => Unit
  | takeChunk => BatchOperationDispatch
  | writeJobCompletedEvent _ => Unit
  | respond _ => Unit

abbrev BatchStatement.interface : Interface :=
  ⟨BatchStatement, fun q => Except String q.Result⟩

/-- What the statements leave open: fresh identifiers, the order of rows, which jobs are taken of
more than enough, the answers of the numbering and of the handlers, which rows have been in progress
for too long, which chunk a worker takes and whether it stays in the queue, and whether a statement
throws, a call of the queue also after it had its effect. -/
inductive BatchChoice where
  | settled
  | created (id : String) (rowIds order : List String)
  | ordered (ids : List String)
  | number (text : String)
  | verdict (result : ValidationResult)
  | snapshot (resultSnapshot : Option String)
  | stuck (ids : List String)
  | taken (index : Nat) (kept : Bool)
  | refused (message : String)
  | lost (message : String)

namespace BatchDb

variable (db : BatchDb)

def rowsOf (jobId : String) : List BatchOperationJobRow :=
  db.rows.rows.filter (·.batchOperationJobId = jobId)

def pendingOf (jobId : String) : List BatchOperationJobRow :=
  (db.rowsOf jobId).filter (·.status = .pending)

def countWhere (jobId : String) (p : BatchOperationRowStatus → Bool) : Nat :=
  (db.rowsOf jobId).countP fun row => p row.status

/-- The numbers of rows of a job by their outcomes. -/
def countersOf (jobId : String) : BatchOperationCounters where
  processedRecords := db.countWhere jobId BatchOperationRowStatus.isSettled
  successRecords := db.countWhere jobId (· = .success)
  failedRecords := db.countWhere jobId (· = .failed)
  skippedRecords := db.countWhere jobId (· = .skipped)

/-- The header of a row is still open. -/
def jobOpen (row : BatchOperationJobRow) : Bool :=
  (db.jobs.get? row.batchOperationJobId).any fun job => !job.status.isTerminal

/-- A job of the queue with no row left to process. -/
def isCompletable (job : BatchOperationJob) : Bool :=
  !job.status.isTerminal && job.mode = .async &&
    (db.rowsOf job.id).all (·.status.isSettled)

/-- A job of the queue with rows that no one has claimed. -/
def isResumable (job : BatchOperationJob) : Bool :=
  !job.status.isTerminal && job.mode = .async && !job.cancelRequested &&
    !(db.pendingOf job.id).isEmpty

/-- `take: 100` in no order: the jobs of these identifiers, which are all that pass or a hundred. -/
def pick (p : BatchOperationJob → Bool) (ids : List String) : Option (List BatchOperationJob) :=
  if ids.Nodup ∧ (∀ id ∈ ids, (db.jobs.get? id).any p) ∧
      (ids.length = 100 ∨ ids.length < 100 ∧ ∀ job ∈ db.jobs.rows, p job → job.id ∈ ids) then
    some (ids.filterMap db.jobs.get?)
  else none

/-- An update of the jobs that pass. -/
def updateJobs (p : BatchOperationJob → Bool) (f : BatchOperationJob → BatchOperationJob)
    (hf : ∀ job, (f job).id = job.id) : BatchDb :=
  { db with jobs := (db.jobs.updateMany p f hf).2 }

/-- An update of the rows that pass. -/
def updateRows (p : BatchOperationJobRow → Bool)
    (f : BatchOperationJobRow → BatchOperationJobRow) (hf : ∀ row, (f row).id = row.id) :
    BatchDb :=
  { db with rows := (db.rows.updateMany p f hf).2 }

def created (id : String) (data : NewBatchOperationJob) (totalRecords : Nat) :
    BatchOperationJob :=
  ⟨data, id, totalRecords, ⟨0, 0, 0, 0⟩, false⟩

def createdRow (job : BatchOperationJob) (id entityId : String) : BatchOperationJobRow :=
  ⟨id, job.id, job.tenantId, entityId, .pending, 0, none, none, none⟩

/-- The index on `(tenantId, jobNo)`, which jobs without a tenant are not in. -/
def numberTaken (data : NewBatchOperationJob) : Bool :=
  db.jobs.rows.any fun job =>
    data.tenantId.isSome && job.tenantId = data.tenantId && job.jobNo = data.jobNo

/-- The transaction of `createJobWithRows`. -/
def createJob (data : NewBatchOperationJob) (entityIds : List String) (id : String)
    (rowIds : List String) : BatchDb :=
  let job := created id data entityIds.length
  { db with
    jobs := db.jobs.insert job
    rows := (List.zipWith (createdRow job) rowIds entityIds).foldl Table.insert db.rows }

theorem settled_id (settlement : BatchOperationRowSettlement) (row : BatchOperationJobRow) :
    (settlement.change row).id = row.id := by
  cases settlement with
  | success resultSnapshot => rfl
  | failed errorMessage => rfl
  | skipped skipReason => rfl

/-- The transaction of `settleRow`: nothing is counted where the claim is not the row's own. -/
def settle (rowId jobId : String) (claimToken : Nat) (settlement : BatchOperationRowSettlement) :
    Bool × BatchDb :=
  let held := fun row : BatchOperationJobRow => row.id = rowId && row.isHeld claimToken
  if db.rows.rows.any held then
    (true, (db.updateRows held settlement.change (settled_id settlement)).updateJobs
      (·.id = jobId) (fun job => { job with counters := settlement.count job.counters })
      fun _ => rfl)
  else (false, db)

end BatchDb

open BatchDb

namespace BatchStatement

def serve : (q : BatchStatement) → BatchChoice → BatchDb →
    Option (Except String q.Result × BatchDb)
  | _, .refused message, db => some (.error message, db)
  | nextNumber, .number text, db => some (.ok text, db)
  | createJobWithRows data entityIds, .created id rowIds order, db =>
    if rowIds.length = entityIds.length ∧ rowIds.Nodup ∧ db.jobs.get? id = none ∧
        (∀ rowId ∈ rowIds, db.rows.get? rowId = none) ∧ order.Perm rowIds then
      if db.numberTaken data then some (.error "P2002", db)
      else
        some (.ok (created id data entityIds.length, order),
          db.createJob data entityIds id rowIds)
    else none
  | findJob jobId, .settled, db => some (.ok (db.jobs.get? jobId), db)
  | markJobRunning jobId, .settled, db =>
    some (.ok (), db.updateJobs
      (fun job => job.id = jobId && job.status = .pending && !job.cancelRequested)
      (fun job => { job with status := .running }) fun _ => rfl)
  | closeJob jobId status, .settled, db =>
    let p := fun job : BatchOperationJob => job.id = jobId && !job.status.isTerminal
    some (.ok (db.jobs.rows.any p),
      db.updateJobs p (fun job => { job with status := status }) fun _ => rfl)
  | countRows, .settled, db =>
    some (.ok ((db.rows.rows.map (·.batchOperationJobId)).eraseDups.map fun jobId =>
      (jobId, db.countersOf jobId)), db)
  | writeCounters jobId counters, .settled, db =>
    some (.ok (), db.updateJobs (fun job => job.id = jobId && !job.status.isTerminal)
      (fun job => { job with counters := counters }) fun _ => rfl)
  | findCompletableJobs, .ordered ids, db =>
    (db.pick db.isCompletable ids).map fun jobs => (.ok jobs, db)
  | findResumableJobs, .ordered ids, db =>
    (db.pick db.isResumable ids).map fun jobs => (.ok jobs, db)
  | setCancelRequested jobId, .settled, db =>
    if (db.jobs.get? jobId).isSome then
      some (.ok (), db.updateJobs (·.id = jobId) (fun job => { job with cancelRequested := true })
        fun _ => rfl)
    else some (.error "P2025", db)
  | isCancelRequested jobId, .settled, db =>
    some (.ok ((db.jobs.get? jobId).any (·.cancelRequested)), db)
  | pendingRowIds jobId, .ordered ids, db =>
    if ids.Perm ((db.pendingOf jobId).map (·.id)) then some (.ok ids, db) else none
  | claimRow rowId, .settled, db =>
    some (.ok (((db.rows.get? rowId).filter (·.status = .pending)).map fun row =>
        row.claim.claimed),
      db.updateRows (fun row => row.id = rowId && row.status = .pending)
        BatchOperationJobRow.claim fun _ => rfl)
  | settleRow rowId jobId claimToken settlement, .settled, db =>
    let settled := db.settle rowId jobId claimToken settlement
    some (.ok settled.1, settled.2)
  | resetStuckRows, .stuck ids, db =>
    some (.ok (), db.updateRows
      (fun row => decide (row.id ∈ ids) && row.status = .processing && db.jobOpen row)
      BatchOperationJobRow.release fun _ => rfl)
  | abandonRows, .settled, db =>
    some (.ok (), db.updateRows (fun row => row.status = .processing && !db.jobOpen row)
      BatchOperationJobRow.abandon fun _ => rfl)
  | validate _, .verdict result, db => some (.ok result, db)
  | execute _, .snapshot resultSnapshot, db => some (.ok resultSnapshot, db)
  | enqueue dispatch, .settled, db => some (.ok (), { db with queue := db.queue ++ [dispatch] })
  | enqueue dispatch, .lost message, db =>
    some (.error message, { db with queue := db.queue ++ [dispatch] })
  | takeChunk, .taken index kept, db =>
    db.queue[index]?.map fun dispatch =>
      (.ok dispatch, if kept then db else { db with queue := db.queue.eraseIdx index })
  | writeJobCompletedEvent job, .settled, db =>
    some (.ok (), { db with events := db.events ++ [job.completedEvent] })
  | respond _, .settled, db => some (.ok (), db)
  | _, _, _ => none

end BatchStatement

end DddBoilerplate.Batch
