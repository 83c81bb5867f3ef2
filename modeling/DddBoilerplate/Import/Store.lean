/- module: DddBoilerplate/Import/Store
   generality: I
   digest: The tables of the import pipeline, and the statements its stages make of them. -/

import Mathlib.Data.List.Sort
import DddBoilerplate.Concurrency.World
import DddBoilerplate.Import.Types
import DddBoilerplate.Store.Table

set_option autoImplicit false
set_option relaxedAutoImplicit false
set_option linter.all false

namespace DddBoilerplate.Import

open Concurrency Store

/-- The unique index of the rows. -/
def ImportJobRow.key (row : ImportJobRow) : String × Nat := (row.importJobId, row.rowNumber)

/-- The tables, the intervals that are set in the processes, each by the owner it renews the lock
for, and the events written so far. -/
structure ImportDb where
  jobs : Table ImportJob.id
  rows : Table ImportJobRow.key
  timers : List LockOwner
  outbox : List ImportJobEvent

/-- The statements of the repositories, the calls of a handler, of the storage and of the queue,
each atomic. `ended` is what a worker reports to its queue, and `stopped` is the end of a process. -/
inductive ImportStatement where
  | findById (jobId : String)
  | tryAcquireLock (jobId : String) (owner : LockOwner) (lockedUntil now : Nat)
  | heartbeat (jobId : String) (owner : LockOwner) (lockedUntil now : Nat)
  | releaseLock (jobId : String) (owner : LockOwner)
  | setInterval (owner : LockOwner)
  | clearInterval (owner : LockOwner)
  | intervalIsSet (owner : LockOwner)
  | transitionStatus (jobId : String) (allowed : List ImportJobStatus)
      (target : ImportJobStatus)
  | setColumnMapping (jobId : String) (mapping : ColumnMapping)
  | updateTotalRows (jobId : String) (totalRows : Nat)
  | setCancelRequested (jobId : String)
  | isCancelRequested (jobId : String)
  | markTerminal (jobId : String) (status : ImportJobStatus)
  | findStaleJobs (olderThan : Nat)
  | countRows (jobId : String)
  | writeCounts (jobId : String) (counts : RowCounts)
  | bulkInsert (rows : List ImportJobRow)
  | listPendingValidation (jobId : String) (limit : Nat)
  | claimForExecution (jobId : String) (limit : Nat)
  | applyValidationVerdict (jobId : String) (verdict : RowVerdict)
  | applyExecutionResult (jobId : String) (settlement : RowExecutionSettlement)
  | deleteByJob (jobId : String)
  | resetStaleProcessing (olderThan : Nat)
  | abandonProcessing
  | findStorageObject (id : String)
  | download (storageKey : String)
  | preloadReferences (payloads : List RowPayload)
  | validateBatch (payloads : List RowPayload)
  | executeBatch (payloads : List RowPayload)
  | enqueue (stage : ImportStage) (jobId : String)
  | appendEvent (event : ImportJobEvent)
  | ended (outcome : Except String Unit)
  | stopped

abbrev Buffer := List UInt8

structure Download where
  body : Buffer
  contentType : Option String

namespace ImportStatement

/-- A statement that may be rejected answers with an exception. -/
@[reducible] def Answer : ImportStatement → Type
  | findById _ => Except String (Option ImportJob)
  | tryAcquireLock _ _ _ _ => Except String Bool
  | heartbeat _ _ _ _ => Except String Unit
  | releaseLock _ _ => Except String Unit
  | setInterval _ => Unit
  | clearInterval _ => Unit
  | intervalIsSet _ => Bool
  | transitionStatus _ _ _ => Except String Unit
  | setColumnMapping _ _ => Except String Unit
  | updateTotalRows _ _ => Except String Unit
  | setCancelRequested _ => Except String Unit
  | isCancelRequested _ => Except String Bool
  | markTerminal _ _ => Except String (Option ImportJob)
  | findStaleJobs _ => Except String (List ImportJob)
  | countRows _ => Except String (Option RowCounts)
  | writeCounts _ _ => Except String Unit
  | bulkInsert _ => Except String Unit
  | listPendingValidation _ _ => Except String (List ImportJobRow)
  | claimForExecution _ _ => Except String (List ImportJobRow)
  | applyValidationVerdict _ _ => Except String Unit
  | applyExecutionResult _ _ => Except String Nat
  | deleteByJob _ => Except String Unit
  | resetStaleProcessing _ => Except String Nat
  | abandonProcessing => Except String Unit
  | findStorageObject _ => Except String (Option StorageObject)
  | download _ => Except String Download
  | preloadReferences _ => Except String Unit
  | validateBatch _ => Except String (List RowVerdict)
  | executeBatch _ => Except String (List RowResult)
  | enqueue _ _ => Except String Unit
  | appendEvent _ => Except String Unit
  | ended _ => Unit
  | stopped => Empty

abbrev interface : Interface := ⟨ImportStatement, Answer⟩

end ImportStatement

/-- What the statements leave open: whether one is rejected, the time it writes, the rows that are
locked by others, and the answers of the storage and of the handlers. -/
structure ImportChoice where
  rejected : Option String
  stamp : Nat
  locked : List Nat
  object : Option StorageObject
  download : Download
  verdicts : Except String (List RowVerdict)
  results : Except String (List RowResult)

namespace ImportJob

/-- `lockedUntil` is null or past, or the lock is the owner's own. -/
def isLockable (job : ImportJob) (owner : LockOwner) (now : Nat) : Bool :=
  !job.status.isTerminal &&
    (job.lockedUntil = none || job.lockedUntil.any (· < now) || job.lockedBy = some owner)

def lock (job : ImportJob) (owner : LockOwner) (lockedUntil now : Nat) : ImportJob :=
  { job with lockedBy := some owner, lockedUntil := some lockedUntil, heartbeatAt := some now }

def beat (job : ImportJob) (lockedUntil now : Nat) : ImportJob :=
  { job with lockedUntil := some lockedUntil, heartbeatAt := some now }

def unlock (job : ImportJob) : ImportJob := { job with lockedBy := none, lockedUntil := none }

def transition (job : ImportJob) (target : ImportJobStatus) (stamp : Nat) : ImportJob :=
  { job with
    status := target
    heartbeatAt := if target ∈ [.parsing, .validating, .executing] then some stamp
      else job.heartbeatAt }

def terminate (job : ImportJob) (status : ImportJobStatus) : ImportJob :=
  { job with status := status, lockedBy := none, lockedUntil := none }

def isStale (job : ImportJob) (olderThan : Nat) : Bool :=
  job.status ∈ [.parsing, .validating, .executing] && job.heartbeatAt.all (· < olderThan)

end ImportJob

namespace ImportJobRow

/-- `validationStatus = 'VALID' AND executionStatus = 'PENDING'` -/
def isClaimable (row : ImportJobRow) : Bool :=
  row.validationStatus = .valid && row.executionStatus = .pending

def claim (row : ImportJobRow) (stamp : Nat) : ImportJobRow :=
  { row with
    executionStatus := .processing
    executionClaimToken := row.executionClaimToken + 1
    updatedAt := stamp }

/-- The row is in progress under the very claim the settlement came from. -/
def isSettledBy (row : ImportJobRow) (settlement : RowExecutionSettlement) : Bool :=
  row.rowNumber = settlement.rowNumber && row.executionStatus = .processing &&
    (row.executionClaimToken : Int) = settlement.executionClaimToken

def settle (row : ImportJobRow) (settlement : RowExecutionSettlement) (stamp : Nat) :
    ImportJobRow :=
  { row with
    executionStatus := settlement.status
    entityId := settlement.entityId
    secondaryEntityIds := settlement.secondaryEntityIds.getD []
    errorMessage := settlement.errorMessage
    processedAt := some stamp
    updatedAt := stamp }

def judge (row : ImportJobRow) (verdict : RowVerdict) (stamp : Nat) : ImportJobRow :=
  { row with
    validationStatus := verdict.status
    validationErrors := verdict.errors.getD []
    updatedAt := stamp }

def reset (row : ImportJobRow) (stamp : Nat) : ImportJobRow :=
  { row with
    executionStatus := .pending
    executionClaimToken := row.executionClaimToken + 1
    updatedAt := stamp }

def abandon (row : ImportJobRow) (stamp : Nat) : ImportJobRow :=
  { row with
    executionStatus := .skipped
    errorMessage := some "ABANDONED_ON_TERMINAL_JOB"
    updatedAt := stamp }

end ImportJobRow

namespace ImportDb

variable (db : ImportDb)

def rowsOf (jobId : String) : List ImportJobRow := db.rows.rows.filter (·.importJobId = jobId)

/-- `ORDER BY "rowNumber" LIMIT limit` -/
def firstRows (limit : Nat) (rows : List ImportJobRow) : List ImportJobRow :=
  (rows.insertionSort fun a b => a.rowNumber ≤ b.rowNumber).take limit

/-- `FOR UPDATE SKIP LOCKED`: the rows a claim takes. -/
def claimable (jobId : String) (limit : Nat) (locked : List Nat) : List ImportJobRow :=
  firstRows limit
    ((db.rowsOf jobId).filter fun row => row.isClaimable && !locked.contains row.rowNumber)

def countWhere (jobId : String) (p : ImportJobRow → Bool) : Nat := (db.rowsOf jobId).countP p

def countsOf (jobId : String) : RowCounts where
  total := (db.rowsOf jobId).length
  valid := db.countWhere jobId fun row => row.validationStatus = .valid
  invalid := db.countWhere jobId fun row =>
    row.validationStatus = .invalid || row.validationStatus = .duplicate
  applied := db.countWhere jobId fun row => row.executionStatus = .applied
  failed := db.countWhere jobId fun row =>
    row.executionStatus = .failed || row.executionStatus = .skipped

/-- The job of a row has one of these statuses. -/
def jobHas (row : ImportJobRow) (p : ImportJobStatus → Bool) : Bool :=
  (db.jobs.get? row.importJobId).any fun job => p job.status

end ImportDb

namespace ImportStatement

/-- What a statement makes of a job. -/
def onJob (choice : ImportChoice) : ImportStatement → ImportJob → ImportJob
  | tryAcquireLock jobId owner lockedUntil now, job =>
    if job.id = jobId && job.isLockable owner now then job.lock owner lockedUntil now else job
  | heartbeat jobId owner lockedUntil now, job =>
    if job.id = jobId && job.lockedBy = some owner && !job.status.isTerminal then
      job.beat lockedUntil now else job
  | releaseLock jobId owner, job =>
    if job.id = jobId && job.lockedBy = some owner then job.unlock else job
  | transitionStatus jobId allowed target, job =>
    if job.id = jobId && allowed.contains job.status then job.transition target choice.stamp
    else job
  | setColumnMapping jobId mapping, job =>
    if job.id = jobId then { job with columnMapping := some mapping } else job
  | updateTotalRows jobId totalRows, job =>
    if job.id = jobId then
      { job with counts := { job.counts with total := totalRows }, heartbeatAt := some choice.stamp }
    else job
  | setCancelRequested jobId, job =>
    if job.id = jobId then { job with cancelRequested := true } else job
  | markTerminal jobId status, job =>
    if job.id = jobId && !job.status.isTerminal then job.terminate status else job
  | writeCounts jobId counts, job =>
    if job.id = jobId then { job with counts := counts, heartbeatAt := some choice.stamp } else job
  | _, job => job

/-- What a statement makes of a row. -/
def onRow (choice : ImportChoice) (db : ImportDb) : ImportStatement → ImportJobRow → ImportJobRow
  | claimForExecution jobId limit, row =>
    if row ∈ db.claimable jobId limit choice.locked then row.claim choice.stamp else row
  | applyValidationVerdict jobId verdict, row =>
    if row.importJobId = jobId && row.rowNumber = verdict.rowNumber then
      row.judge verdict choice.stamp else row
  | applyExecutionResult jobId settlement, row =>
    if row.importJobId = jobId && row.isSettledBy settlement then
      row.settle settlement choice.stamp else row
  | resetStaleProcessing olderThan, row =>
    if db.jobHas row (· ∈ [.validated, .executing]) && row.executionStatus = .processing &&
        row.updatedAt < olderThan then row.reset choice.stamp else row
  | abandonProcessing, row =>
    if db.jobHas row ImportJobStatus.isTerminal && row.executionStatus = .processing then
      row.abandon choice.stamp else row
  | _, row => row

/-- The rows a statement leaves. -/
def keeps : ImportStatement → ImportJobRow → Bool
  | deleteByJob jobId, row => row.importJobId ≠ jobId
  | _, _ => true

/-- The rows it adds, `skipDuplicates`. -/
def adds : ImportStatement → List ImportJobRow
  | bulkInsert rows => rows
  | _ => []

def onTimers : ImportStatement → List LockOwner → List LockOwner
  | setInterval owner, timers => owner :: timers
  | clearInterval owner, timers => timers.filter (· ≠ owner)
  | _, timers => timers

def onOutbox : ImportStatement → List ImportJobEvent → List ImportJobEvent
  | appendEvent event, outbox => outbox ++ [event]
  | _, outbox => outbox

theorem onJob_id (q : ImportStatement) (choice : ImportChoice) (job : ImportJob) :
    (q.onJob choice job).id = job.id := by
  cases q <;> simp only [onJob] <;> split <;> rfl

theorem onRow_key (q : ImportStatement) (choice : ImportChoice) (db : ImportDb)
    (row : ImportJobRow) : (q.onRow choice db row).key = row.key := by
  cases q <;> simp only [onRow] <;> split <;> rfl

/-- The answer of a statement that is rejected. -/
def reject (error : String) : (q : ImportStatement) → Option q.Answer
  | findById _ => some (.error error)
  | tryAcquireLock _ _ _ _ => some (.error error)
  | heartbeat _ _ _ _ => some (.error error)
  | releaseLock _ _ => some (.error error)
  | setInterval _ => none
  | clearInterval _ => none
  | intervalIsSet _ => none
  | transitionStatus _ _ _ => some (.error error)
  | setColumnMapping _ _ => some (.error error)
  | updateTotalRows _ _ => some (.error error)
  | setCancelRequested _ => some (.error error)
  | isCancelRequested _ => some (.error error)
  | markTerminal _ _ => some (.error error)
  | findStaleJobs _ => some (.error error)
  | countRows _ => some (.error error)
  | writeCounts _ _ => some (.error error)
  | bulkInsert _ => some (.error error)
  | listPendingValidation _ _ => some (.error error)
  | claimForExecution _ _ => some (.error error)
  | applyValidationVerdict _ _ => some (.error error)
  | applyExecutionResult _ _ => some (.error error)
  | deleteByJob _ => some (.error error)
  | resetStaleProcessing _ => some (.error error)
  | abandonProcessing => some (.error error)
  | findStorageObject _ => some (.error error)
  | download _ => some (.error error)
  | preloadReferences _ => some (.error error)
  | validateBatch _ => some (.error error)
  | executeBatch _ => some (.error error)
  | enqueue _ _ => some (.error error)
  | appendEvent _ => some (.error error)
  | ended _ => none
  | stopped => none

/-- The answer of a statement that is not; a process that stopped has none. -/
def answer (choice : ImportChoice) (db : ImportDb) : (q : ImportStatement) → Option q.Answer
  | findById jobId => some (.ok (db.jobs.get? jobId))
  | tryAcquireLock jobId owner _ now =>
    some (.ok ((db.jobs.get? jobId).any fun job => job.isLockable owner now))
  | heartbeat _ _ _ _ => some (.ok ())
  | releaseLock _ _ => some (.ok ())
  | setInterval _ => some ()
  | clearInterval _ => some ()
  | intervalIsSet owner => some (db.timers.contains owner)
  | transitionStatus jobId allowed target =>
    if (db.jobs.get? jobId).any fun job => allowed.contains job.status then some (.ok ())
    else
      let origins := Text.join "|" (allowed.map ImportJobStatus.text)
      let current := ((db.jobs.get? jobId).map fun job => job.status.text).getD "undefined"
      some (.error
        s!"Failed to transition import job {jobId} to {target.text} from {origins} (current={current})")
  | setColumnMapping jobId _ => some (if (db.jobs.get? jobId).isSome then .ok () else .error "P2025")
  | updateTotalRows jobId _ => some (if (db.jobs.get? jobId).isSome then .ok () else .error "P2025")
  | setCancelRequested jobId => some (if (db.jobs.get? jobId).isSome then .ok () else .error "P2025")
  | isCancelRequested jobId => some (.ok ((db.jobs.get? jobId).any (·.cancelRequested)))
  | markTerminal jobId status => some (.ok (((db.jobs.get? jobId).filter fun job =>
      !job.status.isTerminal).map fun job => job.terminate status))
  | findStaleJobs olderThan => some (.ok (db.jobs.rows.filter (·.isStale olderThan)))
  | countRows jobId =>
    some (.ok (if db.rowsOf jobId = [] then none else some (db.countsOf jobId)))
  | writeCounts _ _ => some (.ok ())
  | bulkInsert _ => some (.ok ())
  | listPendingValidation jobId limit => some (.ok (ImportDb.firstRows limit
      ((db.rowsOf jobId).filter fun row => row.validationStatus = .pending)))
  | claimForExecution jobId limit => some (.ok
      ((db.claimable jobId limit choice.locked).map (·.claim choice.stamp)))
  | applyValidationVerdict _ _ => some (.ok ())
  | applyExecutionResult jobId settlement => some (.ok
      (db.countWhere jobId (·.isSettledBy settlement)))
  | deleteByJob _ => some (.ok ())
  | resetStaleProcessing olderThan => some (.ok (db.rows.rows.countP fun row =>
      db.jobHas row (· ∈ [.validated, .executing]) && row.executionStatus = .processing &&
        row.updatedAt < olderThan))
  | abandonProcessing => some (.ok ())
  | findStorageObject _ => some (.ok choice.object)
  | download _ => some (.ok choice.download)
  | preloadReferences _ => some (.ok ())
  | validateBatch _ => some choice.verdicts
  | executeBatch _ => some choice.results
  | enqueue _ _ => some (.ok ())
  | appendEvent _ => some (.ok ())
  | ended _ => some ()
  | stopped => none

def execute (q : ImportStatement) (choice : ImportChoice) (db : ImportDb) : ImportDb where
  jobs := db.jobs.update (q.onJob choice) (q.onJob_id choice)
  rows := q.adds.foldl Table.insert
    ((db.rows.filter q.keeps).update (q.onRow choice db) (q.onRow_key choice db))
  timers := q.onTimers db.timers
  outbox := q.onOutbox db.outbox

/-- A statement is rejected, and changes nothing, or is executed. -/
def perform (q : ImportStatement) (choice : ImportChoice) (db : ImportDb) :
    Option (q.Answer × ImportDb) :=
  match choice.rejected.bind fun error => q.reject error with
  | some a => some (a, db)
  | none => (q.answer choice db).map fun a => (a, q.execute choice db)

end ImportStatement

end DddBoilerplate.Import
