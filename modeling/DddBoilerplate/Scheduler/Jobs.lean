/- module: DddBoilerplate/Scheduler/Jobs
   generality: I
   digest: Scheduled jobs, the queue they are dispatched to, and the statements and calls on both. -/

import DddBoilerplate.Concurrency.World
import DddBoilerplate.Domain.Calendar
import DddBoilerplate.Recurring.Templates
import DddBoilerplate.Store.Table

set_option autoImplicit false
set_option relaxedAutoImplicit false
set_option linter.all false

namespace DddBoilerplate.Scheduler

open Concurrency Store
open Recurring (JobStatus)

section Records

inductive ScheduleMode where
  | cron | external
  deriving DecidableEq

inductive JobScope where
  | aggregate | tenant | platform
  deriving DecidableEq

inductive DispatchStatus where
  | success | failed | deadLettered
  deriving DecidableEq

/-- The columns a job is dispatched with; a payload is kept as its text. -/
structure JobColumns where
  tenantId : Option String
  jobType : String
  scope : JobScope
  scheduleMode : ScheduleMode
  cronExpression : Option String
  aggregateType : Option String
  aggregateId : Option String
  payload : Option String
  nextRunAt : Nat
  deriving DecidableEq

/-- A row of `scheduled_jobs`; a date is a number of milliseconds. -/
structure ScheduledJob extends JobColumns where
  id : String
  lastRunAt : Option Nat
  status : JobStatus
  retryCount : Nat
  version : Nat
  lockedUntil : Option Nat
  lockedBy : Option String
  deriving DecidableEq

structure ClaimedJob extends JobColumns where
  id : String
  retryCount : Nat
  version : Nat
  deriving DecidableEq

/-- `SchedulerQueuedJob` -/
structure SchedulerQueuedJob where
  jobId : String
  jobType : String
  tenantId : Option String
  scope : JobScope
  aggregateType : Option String
  aggregateId : Option String
  payload : Option String
  idempotencyKey : String
  scheduleMode : ScheduleMode
  cronExpression : Option String
  deriving DecidableEq

structure ScheduledJobPayload where
  jobId : String
  tenantId : Option String
  jobType : String
  scope : JobScope
  aggregateType : Option String
  aggregateId : Option String
  payload : Option String
  idempotencyKey : String
  attempt : Nat
  deriving DecidableEq

/-- A row of `scheduled_job_dispatch_log`, unique by its idempotency key. -/
structure DispatchLog where
  idempotencyKey : String
  tenantId : Option String
  scheduledJobId : String
  jobType : String
  dispatchedAt : Nat
  completedAt : Nat
  outcome : DispatchStatus
  durationMs : Option Nat
  errorMessage : Option String

inductive QueueState where
  | waiting | active | failed
  deriving DecidableEq

/-- A job in the queue, under its idempotency key. -/
structure QueueEntry where
  job : SchedulerQueuedJob
  attemptsMade : Nat
  state : QueueState

structure SchedulerDb where
  jobs : Table ScheduledJob.id
  logs : Table DispatchLog.idempotencyKey
  queue : List QueueEntry

end Records

section Writes

/-- The guarded updates of the repository. -/
inductive JobWrite where
  | cancel (jobId : String)
  | cancelByAggregate (aggregateType aggregateId : String)
  | reschedule (jobId : String) (nextRunAt : Nat)
  | rescheduleByAggregate (aggregateType aggregateId : String) (nextRunAt : Nat)
  | markPendingWithNextRun (jobId : String) (nextRunAt : Nat) (lastRunAt : Option Nat)
  | touchLastRunAt (jobId : String) (now : Nat)
  | markRunningExternal (jobId : String) (lockedUntil : Nat)
  | settleFailure (jobId : String) (suspended : Bool) (attempts nextRunAt : Nat)
  | releaseStaleClaims (now : Nat)
  | updateWithVersionCheck (jobId : String) (expectedVersion : Nat)
      (cronExpression : Option String) (nextRunAt : Nat)
  deriving DecidableEq

/-- The `where` of an update. -/
def JobWrite.selects : JobWrite → ScheduledJob → Bool
  | cancel jobId, job => job.id = jobId && job.status ≠ .cancelled
  | cancelByAggregate aggregateType aggregateId, job =>
    job.aggregateType = some aggregateType && job.aggregateId = some aggregateId &&
      job.status ≠ .cancelled
  | reschedule jobId _, job => job.id = jobId && job.status ≠ .cancelled
  | rescheduleByAggregate aggregateType aggregateId _, job =>
    job.aggregateType = some aggregateType && job.aggregateId = some aggregateId &&
      job.status ≠ .cancelled
  | markPendingWithNextRun jobId _ _, job =>
    job.id = jobId && job.status ≠ .cancelled && job.status ≠ .suspended
  | touchLastRunAt jobId _, job =>
    job.id = jobId && (job.status = .claimed || job.status = .running)
  | markRunningExternal jobId _, job => job.id = jobId && job.status = .claimed
  -- the `update` of `recordFailure` has no guard
  | settleFailure jobId _ _ _, job => job.id = jobId
  | releaseStaleClaims now, job =>
    (job.status = .claimed || job.status = .running) && job.lockedUntil.any (· < now)
  | updateWithVersionCheck jobId expectedVersion _ _, job =>
    job.id = jobId && job.version = expectedVersion

def ScheduledJob.settle (job : ScheduledJob) (status : JobStatus) : ScheduledJob :=
  { job with
    status := status, lockedUntil := none, lockedBy := none, version := job.version + 1 }

/-- The `data` of an update. -/
def JobWrite.change : JobWrite → ScheduledJob → ScheduledJob
  | cancel _, job => job.settle .cancelled
  | cancelByAggregate _ _, job => job.settle .cancelled
  | reschedule _ nextRunAt, job => { job.settle .pending with nextRunAt := nextRunAt }
  | rescheduleByAggregate _ _ nextRunAt, job => { job.settle .pending with nextRunAt := nextRunAt }
  | markPendingWithNextRun _ nextRunAt lastRunAt, job =>
    { job.settle .pending with
      nextRunAt := nextRunAt, lastRunAt := lastRunAt.orElse fun _ => job.lastRunAt }
  | touchLastRunAt _ now, job => { job with lastRunAt := some now }
  | markRunningExternal _ lockedUntil, job =>
    { job with status := .running, lockedUntil := some lockedUntil }
  | settleFailure _ suspended attempts nextRunAt, job =>
    { job.settle (if suspended then .suspended else .pending) with
      retryCount := attempts, nextRunAt := nextRunAt }
  | releaseStaleClaims _, job => job.settle .pending
  | updateWithVersionCheck _ _ cronExpression nextRunAt, job =>
    { job with
      cronExpression := cronExpression, nextRunAt := nextRunAt, version := job.version + 1 }

theorem JobWrite.change_id (write : JobWrite) (job : ScheduledJob) :
    (write.change job).id = job.id := by
  cases write with
  | cancel | cancelByAggregate | reschedule | rescheduleByAggregate => rfl
  | markPendingWithNextRun | touchLastRunAt | markRunningExternal => rfl
  | settleFailure | releaseStaleClaims | updateWithVersionCheck => rfl

def JobWrite.run (write : JobWrite) (jobs : Table ScheduledJob.id) :
    Nat × Table ScheduledJob.id :=
  jobs.updateMany write.selects write.change write.change_id

/-- What `claimDue` sets. -/
def ScheduledJob.claim (job : ScheduledJob) (lockedUntil : Nat) (lockedBy : String) :
    ScheduledJob :=
  { job with status := .claimed, lockedUntil := some lockedUntil, lockedBy := some lockedBy }

theorem ScheduledJob.claim_id (job : ScheduledJob) (lockedUntil : Nat) (lockedBy : String) :
    (job.claim lockedUntil lockedBy).id = job.id := rfl

def ScheduledJob.toClaimed (job : ScheduledJob) : ClaimedJob :=
  ⟨job.toJobColumns, job.id, job.retryCount, job.version⟩

/-- A selection in the order of the planned runs: eligible rows no one else has locked, the
earliest first, as many as the limit takes. -/
structure Picks (jobs : Table ScheduledJob.id) (eligible : ScheduledJob → Bool) (limit : Nat)
    (locked picked : List String) : Prop where
  nodup : picked.Nodup
  bounded : picked.length ≤ limit
  chosen : ∀ id ∈ picked, id ∉ locked ∧ ∃ row ∈ jobs.rows, row.id = id ∧ eligible row = true
  skipped : ∀ row ∈ jobs.rows, eligible row = true → row.id ∈ picked ∨ row.id ∈ locked ∨
    picked.length = limit ∧
      ∀ other ∈ jobs.rows, other.id ∈ picked → other.nextRunAt ≤ row.nextRunAt

instance (jobs : Table ScheduledJob.id) (eligible : ScheduledJob → Bool) (limit : Nat)
    (locked picked : List String) : Decidable (Picks jobs eligible limit locked picked) :=
  decidable_of_iff
    (picked.Nodup ∧ picked.length ≤ limit ∧
      (∀ id ∈ picked, id ∉ locked ∧ ∃ row ∈ jobs.rows, row.id = id ∧ eligible row = true) ∧
      ∀ row ∈ jobs.rows, eligible row = true → row.id ∈ picked ∨ row.id ∈ locked ∨
        picked.length = limit ∧
          ∀ other ∈ jobs.rows, other.id ∈ picked → other.nextRunAt ≤ row.nextRunAt)
    ⟨fun ⟨nodup, bounded, chosen, skipped⟩ => ⟨nodup, bounded, chosen, skipped⟩,
      fun ⟨nodup, bounded, chosen, skipped⟩ => ⟨nodup, bounded, chosen, skipped⟩⟩

end Writes

section Queue

/-- The queue takes a key once. -/
def push (queue : List QueueEntry) (job : SchedulerQueuedJob) : List QueueEntry :=
  if queue.any (·.job.idempotencyKey = job.idempotencyKey) then queue
  else queue ++ [⟨job, 0, .waiting⟩]

def QueueEntry.activate (key : String) (entry : QueueEntry) : QueueEntry :=
  if entry.job.idempotencyKey = key then { entry with state := .active } else entry

/-- A failed attempt: the job waits for the next one, or is kept as failed after the last. -/
def QueueEntry.fail (key : String) (jobAttempts : Nat) (entry : QueueEntry) : QueueEntry :=
  if entry.job.idempotencyKey = key then
    { entry with
      attemptsMade := entry.attemptsMade + 1
      state := if jobAttempts ≤ entry.attemptsMade + 1 then .failed else .waiting }
  else entry

/-- The job of a worker that died waits again. -/
def QueueEntry.stall (key : String) (entry : QueueEntry) : QueueEntry :=
  if entry.job.idempotencyKey = key ∧ entry.state = .active then { entry with state := .waiting }
  else entry

end Queue

/-- The statements on the tables, each atomic, the calls of the queue, of the lock and of the
handlers. -/
inductive SchedulerStatement where
  | create (job : JobColumns)
  | findById (jobId : String)
  | claimDue (limit now lockedUntil : Nat) (lockedBy : String)
  | listPending (limit : Nat)
  | write (update : JobWrite)
  | insertLog (log : DispatchLog)
  | recordOutcome (log : DispatchLog)
  | acquireLock (jobId : String)
  | enqueue (job : SchedulerQueuedJob)
  | take
  | finish (idempotencyKey : String)
  | failAttempt (idempotencyKey : String) (jobAttempts : Nat)
  | stall (idempotencyKey : String)
  | handle (payload : ScheduledJobPayload)
  | publishJobDue (job : SchedulerQueuedJob)

@[reducible] def SchedulerStatement.Answer : SchedulerStatement → Type
  | create _ => String
  | findById _ => Except String (Option ScheduledJob)
  | claimDue _ _ _ _ => List ClaimedJob
  | listPending _ => List ScheduledJob
  | write _ => Except String Nat
  | insertLog _ => Except String Unit
  | recordOutcome _ => Except String Unit
  | acquireLock _ => Bool
  | enqueue _ => Except String Unit
  | take => Option QueueEntry
  | finish _ => Unit
  | failAttempt _ _ => Nat
  | stall _ => Unit
  | handle _ => Except String Unit
  | publishJobDue _ => Except String Unit

abbrev SchedulerStatement.interface : Interface := ⟨SchedulerStatement, SchedulerStatement.Answer⟩

/-- What the statements leave open: a fresh identifier, the rows others have locked and the order
of the rows, whether the lock is free, which job a worker is given, how a handler ends, and
whether a call fails, before or after it has had its effect. -/
inductive SchedulerChoice where
  | settled
  | created (id : String)
  | picked (locked picked : List String)
  | locked (acquired : Bool)
  | given (idempotencyKey : String)
  | ended (outcome : Except String Unit)
  | refused (message : String)
  | lost (message : String)

def SchedulerStatement.execute :
    (q : SchedulerStatement) → SchedulerChoice → SchedulerDb → Option (q.Answer × SchedulerDb)
  | create job, .created id, db =>
    if (db.jobs.get? id).isSome then none
    else some (id,
      { db with jobs := db.jobs.insert ⟨job, id, none, .pending, 0, 0, none, none⟩ })
  | findById jobId, .settled, db => some (.ok (db.jobs.get? jobId), db)
  | findById _, .refused message, db => some (.error message, db)
  | claimDue limit now lockedUntil lockedBy, .picked locked picked, db =>
    if Picks db.jobs (fun job => job.status = .pending && job.nextRunAt ≤ now) limit locked picked
    then
      some ((picked.filterMap db.jobs.get?).map ScheduledJob.toClaimed,
        { db with
          jobs := (db.jobs.updateMany (fun job => job.id ∈ picked)
            (fun job => job.claim lockedUntil lockedBy)
            fun job => job.claim_id lockedUntil lockedBy).2 })
    else none
  | listPending limit, .picked _ picked, db =>
    if Picks db.jobs (fun job => job.status = .pending) limit [] picked then
      some (picked.filterMap db.jobs.get?, db)
    else none
  | write update, .settled, db =>
    some (.ok (update.run db.jobs).1, { db with jobs := (update.run db.jobs).2 })
  | write _, .refused message, db => some (.error message, db)
  | insertLog log, .settled, db => some (.ok (), { db with logs := db.logs.insert log })
  | insertLog _, .refused message, db => some (.error message, db)
  | recordOutcome log, .settled, db => some (.ok (), { db with logs := db.logs.upsert log })
  | recordOutcome _, .refused message, db => some (.error message, db)
  | acquireLock _, .locked acquired, db => some (acquired, db)
  | enqueue job, .settled, db => some (.ok (), { db with queue := push db.queue job })
  | enqueue _, .refused message, db => some (.error message, db)
  | enqueue job, .lost message, db => some (.error message, { db with queue := push db.queue job })
  | take, .given key, db =>
    match db.queue.find? fun entry => entry.job.idempotencyKey = key ∧ entry.state = .waiting with
    | none => none
    | some entry => some (some entry, { db with queue := db.queue.map (·.activate key) })
  | take, .settled, db => some (none, db)
  | finish key, .settled, db =>
    some ((), { db with queue := db.queue.filter fun entry => entry.job.idempotencyKey ≠ key })
  | failAttempt key jobAttempts, .settled, db =>
    match db.queue.find? fun entry => entry.job.idempotencyKey = key with
    | none => none
    | some entry => some (entry.attemptsMade + 1,
        { db with queue := db.queue.map (·.fail key jobAttempts) })
  | stall key, .settled, db => some ((), { db with queue := db.queue.map (·.stall key) })
  | handle _, .ended outcome, db => some (outcome, db)
  | publishJobDue _, .ended outcome, db => some (outcome, db)
  | _, _, _ => none

abbrev SchedulerProgram := Program SchedulerStatement.interface.world

def clock : SchedulerProgram Nat := .ask .clock .done

def statement (q : SchedulerStatement) : SchedulerProgram q.Answer := .ask (.statement q) .done

/-- A call that throws where it fails. -/
def awaiting {α : Type} (call : SchedulerProgram (Except String α)) : SchedulerProgram α := do
  let outcome ← call
  Program.lift outcome

end DddBoilerplate.Scheduler
