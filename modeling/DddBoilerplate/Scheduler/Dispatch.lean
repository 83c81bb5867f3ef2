/- module: DddBoilerplate/Scheduler/Dispatch
   generality: I
   digest: Dispatching due jobs, executing queued ones, reconciling, and what their owners may do to them. -/

import DddBoilerplate.Domain.Method
import DddBoilerplate.Scheduler.Jobs

set_option autoImplicit false
set_option relaxedAutoImplicit false
set_option linter.all false

namespace DddBoilerplate.Scheduler

open Concurrency Domain
open Recurring (JobStatus assertVisible)

/-- The scheduler's settings, and what it takes from outside: the digest, the next run of a cron
expression after a time, and the job types that have a handler. -/
structure SchedulerConfig where
  batchSize : Nat
  lockTtlMs : Nat
  jobAttempts : Nat
  maxRetries : Nat
  retryBackoffBaseMs : Nat
  sha256 : String → String
  nextRunAt : String → Nat → Except String Nat
  registered : String → Bool

variable (config : SchedulerConfig)

/-- `deriveIdempotencyKey` -/
def deriveIdempotencyKey (jobId : String) (nextRunAt : Nat) : String :=
  config.sha256 s!"{jobId}:{Calendar.toISOString nextRunAt}"

section Repository

inductive FailureOutcome where
  | retrying | suspended | ignored
  deriving DecidableEq

/-- When a job that has failed so often runs again. -/
def backoffAt (now attempts : Nat) : Nat := now + config.retryBackoffBaseMs * 2 ^ (attempts - 1)

/-- `PrismaScheduledJobRepository.recordFailure`: a read, and an update of what was read. -/
def recordFailure (jobId : String) : SchedulerProgram FailureOutcome := do
  let row ← awaiting (statement (.findById jobId))
  match row with
  | none => return .ignored
  | some row =>
    if row.status = .cancelled ∨ row.status = .suspended then return .ignored
    else do
      let attempts := row.retryCount + 1
      let suspended := decide (config.maxRetries ≤ attempts)
      let now ← clock
      let _count ← awaiting (statement (.write (.settleFailure jobId suspended attempts
        (max row.nextRunAt (backoffAt config now attempts)))))
      return if suspended then .suspended else .retrying

/-- `PrismaScheduledJobRepository.claimDue` -/
def claimDue (limit : Nat) (lockedBy : String) : SchedulerProgram (List ClaimedJob) := do
  let now ← clock
  statement (.claimDue limit now (now + config.lockTtlMs) lockedBy)

end Repository

section Dispatching

def ClaimedJob.toQueued (job : ClaimedJob) (idempotencyKey : String) : SchedulerQueuedJob where
  jobId := job.id
  jobType := job.jobType
  tenantId := job.tenantId
  scope := job.scope
  aggregateType := job.aggregateType
  aggregateId := job.aggregateId
  payload := job.payload
  idempotencyKey := idempotencyKey
  scheduleMode := job.scheduleMode
  cronExpression := job.cronExpression

def ClaimedJob.log (job : ClaimedJob) (idempotencyKey : String) (started completedAt : Nat)
    (outcome : DispatchStatus) (errorMessage : Option String) : DispatchLog where
  idempotencyKey := idempotencyKey
  tenantId := job.tenantId
  scheduledJobId := job.id
  jobType := job.jobType
  dispatchedAt := started
  completedAt := completedAt
  outcome := outcome
  durationMs := some (completedAt - started)
  errorMessage := errorMessage

/-- The body of the `try` of `dispatchOne`. -/
def deliver (job : ClaimedJob) (idempotencyKey : String) (started : Nat) :
    SchedulerProgram Unit := do
  awaiting (statement (.enqueue (job.toQueued idempotencyKey)))
  let completedAt ← clock
  awaiting (statement (.insertLog (job.log idempotencyKey started completedAt .success none)))
  match job.scheduleMode, job.cronExpression.getD "" with
  | .external, _ | .cron, "" => do
    let now ← clock
    let _count ← awaiting (statement (.write (.touchLastRunAt job.id now)))
  | .cron, expression => do
    let now ← clock
    let next ← Program.lift (config.nextRunAt expression now)
    let lastRunAt ← clock
    let _count ← awaiting (statement (.write (.markPendingWithNextRun job.id next
      (some lastRunAt))))

/-- The `catch` of `dispatchOne`; what fails in it is logged. -/
def recordDispatchFailure (job : ClaimedJob) (idempotencyKey : String) (started : Nat)
    (message : String) : SchedulerProgram Unit :=
  Program.handle
    (do
      let completedAt ← clock
      awaiting (statement (.recordOutcome
        (job.log idempotencyKey started completedAt .failed (some message))))
      recordFailure config job.id)
    (fun _ => .done ()) fun _ => .done ()

/-- `DispatchDueJobsUseCase.dispatchOne`; the lock is released whatever happens. -/
def dispatchOne (job : ClaimedJob) : SchedulerProgram Unit := do
  let acquired ← statement (.acquireLock job.id)
  match acquired with
  | false => return ()
  | true => do
    let idempotencyKey := deriveIdempotencyKey config job.id job.nextRunAt
    let started ← clock
    Program.handle (deliver config job idempotencyKey started) .done fun message =>
      recordDispatchFailure config job idempotencyKey started message

/-- `DispatchDueJobsUseCase.execute`, as many rounds as its time budget lets it make. -/
def dispatchRounds (limit : Nat) (lockedBy : String) : Nat → SchedulerProgram Unit
  | 0 => return ()
  | rounds + 1 => do
    let claimed ← claimDue config limit lockedBy
    Program.each (dispatchOne config) claimed
    if claimed.length < limit then return () else dispatchRounds limit lockedBy rounds

def dispatchDueJobs (limit : Option Nat) (rounds : Nat) : SchedulerProgram Unit := do
  let lockedBy ← (.ask .randomUUID .done : SchedulerProgram String)
  dispatchRounds config (limit.getD config.batchSize) lockedBy rounds

end Dispatching

section Executing

def SchedulerQueuedJob.toPayload (job : SchedulerQueuedJob) (attempt : Nat) :
    ScheduledJobPayload where
  jobId := job.jobId
  tenantId := job.tenantId
  jobType := job.jobType
  scope := job.scope
  aggregateType := job.aggregateType
  aggregateId := job.aggregateId
  payload := job.payload
  idempotencyKey := job.idempotencyKey
  attempt := attempt

/-- `ScheduledJobProcessor.process`: a read of the status, and the handler or the publication. -/
def process (job : SchedulerQueuedJob) (attempt : Nat) : SchedulerProgram Unit := do
  let row ← awaiting (statement (.findById job.jobId))
  match row with
  | none => fire
  | some row =>
    if row.status = .cancelled ∨ row.status = .suspended then return () else fire
where
  fire : SchedulerProgram Unit :=
    if config.registered job.jobType then awaiting (statement (.handle (job.toPayload attempt)))
    else awaiting (statement (.publishJobDue job))

/-- `BullMqSchedulerJobWorker.process` -/
def workerProcess (entry : QueueEntry) : SchedulerProgram Unit := do
  match entry.job.scheduleMode with
  | .cron => process config entry.job (entry.attemptsMade + 1)
  | .external => do
    let now ← clock
    let _count ← awaiting (statement (.write (.markRunningExternal entry.job.jobId
      (now + config.lockTtlMs))))
    process config entry.job (entry.attemptsMade + 1)

/-- `BullMqSchedulerJobWorker.recordFinalFailure` -/
def recordFinalFailure (job : SchedulerQueuedJob) (message : String) : SchedulerProgram Unit :=
  Program.handle
    (do
      let outcome ← recordFailure config job.jobId
      let completedAt ← clock
      awaiting (statement (.recordOutcome
        { idempotencyKey := job.idempotencyKey
          tenantId := job.tenantId
          scheduledJobId := job.jobId
          jobType := job.jobType
          dispatchedAt := completedAt
          completedAt := completedAt
          outcome := if outcome = .suspended then .deadLettered else .failed
          durationMs := none
          errorMessage := some message })))
    (fun _ => .done ()) fun _ => .done ()

/-- A worker takes a job from the queue and executes it; the queue is told how it ended, and the
last failed attempt is recorded. -/
def work : SchedulerProgram Unit := do
  let taken ← statement .take
  match taken with
  | none => return ()
  | some entry =>
    Program.handle (workerProcess config entry)
      (fun _ => statement (.finish entry.job.idempotencyKey))
      fun message => do
        let attemptsMade ← statement (.failAttempt entry.job.idempotencyKey config.jobAttempts)
        if config.jobAttempts ≤ attemptsMade then recordFinalFailure config entry.job message
        else return ()

end Executing

section Reconciling

/-- A job missed for more than a minute: a cron job skips to its next run, any other is left for
the next tick. -/
def catchUp (now : Nat) (job : ScheduledJob) : SchedulerProgram Unit :=
  if now < job.nextRunAt + 60000 then return ()
  else
    match job.scheduleMode, job.cronExpression.getD "" with
    | .external, _ | .cron, "" => return ()
    | .cron, expression => do
      let now ← clock
      let next ← Program.lift (config.nextRunAt expression now)
      let _count ← awaiting (statement (.write (.markPendingWithNextRun job.id next none)))

/-- `ReconcileMissedJobsUseCase.execute` -/
def reconcileMissedJobs : SchedulerProgram Unit := do
  let now ← clock
  let _released ← awaiting (statement (.write (.releaseStaleClaims now)))
  let overdue ← statement (.listPending 100)
  let now ← clock
  Program.each (catchUp config now) overdue

end Reconciling

section Owners

/-- The job as the caller may see it. -/
def visible (jobId : String) (tenantId : Option String) : SchedulerProgram ScheduledJob := do
  let job ← awaiting (statement (.findById jobId))
  match job with
  | none => .fail s!"Scheduled job '{jobId}' not found"
  | some job => do
    Program.lift (assertVisible job.tenantId tenantId)
    return job

/-- `RegisterScheduledJobUseCase.execute`; the scope and the mode go with the columns they need. -/
def register (input : JobColumns) (nextRunAt : Option Nat) : SchedulerProgram Unit := do
  Program.lift (require (¬(input.scope = .platform ∧ input.tenantId.getD "" ≠ ""))
    "PLATFORM scope forbids tenantId")
  Program.lift (require (¬(input.scope = .tenant ∧ input.tenantId.getD "" = ""))
    "TENANT scope requires tenantId")
  Program.lift (require (¬(input.scope = .aggregate ∧
      (input.aggregateType.getD "" = "" ∨ input.aggregateId.getD "" = "")))
    "AGGREGATE scope requires aggregateType and aggregateId")
  Program.lift (require (¬(input.scope ≠ .aggregate ∧
      (input.aggregateType.getD "" ≠ "" ∨ input.aggregateId.getD "" ≠ "")))
    "Non-AGGREGATE scope forbids aggregateType/aggregateId")
  Program.lift (require (¬(input.scheduleMode = .cron ∧ input.cronExpression.getD "" = ""))
    "Invalid cron expression: cronExpression is required in CRON schedule mode")
  Program.lift (require (¬(input.scheduleMode = .external ∧ input.cronExpression.getD "" ≠ ""))
    "EXTERNAL schedule mode forbids cronExpression")
  match input.scheduleMode, nextRunAt with
  | .cron, _ => do
    let now ← clock
    let next ← Program.lift (config.nextRunAt (input.cronExpression.getD "") now)
    let _id ← statement (.create { input with nextRunAt := next })
  | .external, none => .fail "nextRunAt is required for EXTERNAL schedule mode"
  | .external, some nextRunAt => do
    let _id ← statement (.create { input with nextRunAt := nextRunAt })

/-- `CancelScheduledJobUseCase.execute` -/
def cancel (jobId : String) (tenantId : Option String) : SchedulerProgram Unit := do
  let _job ← visible jobId tenantId
  let _count ← awaiting (statement (.write (.cancel jobId)))

def cancelByAggregate (aggregateType aggregateId : String) : SchedulerProgram Unit := do
  let _count ← awaiting (statement (.write (.cancelByAggregate aggregateType aggregateId)))

/-- `RescheduleExternalJobUseCase.execute` -/
def reschedule (jobId : String) (nextRunAt : Nat) : SchedulerProgram Unit := do
  let _count ← awaiting (statement (.write (.reschedule jobId nextRunAt)))

def rescheduleByAggregate (aggregateType aggregateId : String) (nextRunAt : Nat) :
    SchedulerProgram Unit := do
  let _count ← awaiting (statement (.write
    (.rescheduleByAggregate aggregateType aggregateId nextRunAt)))

/-- `RescheduleExternalJobUseCase.dispatchNow` -/
def dispatchNow (jobId : String) (tenantId : Option String) : SchedulerProgram Unit := do
  let job ← visible jobId tenantId
  if job.status = .cancelled then
    .fail s!"Scheduled job '{jobId}' is cancelled and cannot be re-fired"
  else if job.status = .claimed ∨ job.status = .running then
    .fail s!"Scheduled job '{jobId}' is currently in flight; wait for it to settle before re-firing"
  else do
    let now ← clock
    let _count ← awaiting (statement (.write (.reschedule jobId now)))
    let updated ← awaiting (statement (.findById jobId))
    match updated with
    | none => .fail s!"Scheduled job '{jobId}' not found"
    | some _ => return ()

/-- `UpdateScheduledJobUseCase.execute` -/
def update (jobId : String) (expectedVersion : Nat) (cronExpression : Option String)
    (nextRunAt : Option Nat) (tenantId : Option String) : SchedulerProgram Unit := do
  let existing ← visible jobId tenantId
  match cronExpression with
  | none =>
    match nextRunAt with
    | none => return ()
    | some nextRunAt => store existing.cronExpression nextRunAt
  | some expression => do
    Program.lift (require (existing.scheduleMode = .cron)
      "Invalid cron expression: cronExpression only valid for CRON schedule mode")
    let now ← clock
    let next ← Program.lift (config.nextRunAt expression now)
    store (some expression) (nextRunAt.getD next)
where
  store (cronExpression : Option String) (nextRunAt : Nat) : SchedulerProgram Unit := do
    let count ← awaiting (statement (.write (.updateWithVersionCheck jobId expectedVersion
      cronExpression nextRunAt)))
    if count = 1 then return ()
    else .fail s!"Scheduled job '{jobId}' was modified concurrently (expected version {expectedVersion})"

end Owners

inductive SchedulerEntry where
  | register (input : JobColumns) (nextRunAt : Option Nat)
  | dispatch (limit : Option Nat) (rounds : Nat)
  | work
  | stalled (idempotencyKey : String)
  | reconcile
  | cancel (jobId : String) (tenantId : Option String)
  | cancelByAggregate (aggregateType aggregateId : String)
  | reschedule (jobId : String) (nextRunAt : Nat)
  | rescheduleByAggregate (aggregateType aggregateId : String) (nextRunAt : Nat)
  | dispatchNow (jobId : String) (tenantId : Option String)
  | update (jobId : String) (expectedVersion : Nat) (cronExpression : Option String)
      (nextRunAt : Option Nat) (tenantId : Option String)

def SchedulerEntry.program : SchedulerEntry → SchedulerProgram Unit
  | register input nextRunAt => Scheduler.register config input nextRunAt
  | dispatch limit rounds => dispatchDueJobs config limit rounds
  | work => Scheduler.work config
  | stalled idempotencyKey => statement (.stall idempotencyKey)
  | reconcile => reconcileMissedJobs config
  | cancel jobId tenantId => Scheduler.cancel jobId tenantId
  | cancelByAggregate aggregateType aggregateId =>
    Scheduler.cancelByAggregate aggregateType aggregateId
  | reschedule jobId nextRunAt => Scheduler.reschedule jobId nextRunAt
  | rescheduleByAggregate aggregateType aggregateId nextRunAt =>
    Scheduler.rescheduleByAggregate aggregateType aggregateId nextRunAt
  | dispatchNow jobId tenantId => Scheduler.dispatchNow jobId tenantId
  | update jobId expectedVersion cronExpression nextRunAt tenantId =>
    Scheduler.update config jobId expectedVersion cronExpression nextRunAt tenantId

/-- One table of scheduled jobs, and any number of ticks, workers and owners over it. -/
abbrev schedulerSystem : System :=
  worldSystem SchedulerStatement.execute (SchedulerEntry.program config)

end DddBoilerplate.Scheduler
