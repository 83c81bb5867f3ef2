/- module: DddBoilerplate/Saga/Worker
   generality: I
   digest: The step worker that runs claimed rows, and the scheduler's tick with its two sweeps. -/

import DddBoilerplate.Saga.Engine

set_option autoImplicit false
set_option relaxedAutoImplicit false
set_option linter.all false

open DddBoilerplate.Concurrency

namespace DddBoilerplate.Saga

variable {J : Type}

namespace SagaStepWorker

def backoffMs (E : Environment J) (attempt : Nat) : Nat :=
  min (E.config.retryBaseDelayMs * 2 ^ (attempt - 1)) E.config.retryMaxDelayMs

def settleFailure (E : Environment J) (held : Held J) (error : String) : SagaProgram J Unit :=
  if held.row.kind = .undo then SagaEngine.onUndoFailed held.inst.id error
  else SagaEngine.onDoFailed E held.inst.id held.row.stepId error

def settle (E : Environment J) (held : Held J) (result : SagaActionResult J) :
    SagaProgram J Unit := do
  if result.outcome = .ok then
    ask (.markDone held result.output)
    if held.row.kind = .undo then SagaEngine.onUndoSucceeded held.inst.id
    else SagaEngine.onDoSucceeded E held.inst.id held.row.stepId
  else if result.outcome = .retry ∧ held.row.attempt + 1 < held.row.maxAttempts then
    let now ← ask (.clock .other)
    ask (.reschedule held.row (held.row.attempt + 1)
      (now + backoffMs E (held.row.attempt + 1)) result.error)
  else
    ask (.markFailed (.exhausted held (result.error.getD "Saga action failed")))
    settleFailure E held (result.error.getD "Saga action failed")

def run (E : Environment J) (held : Held J) : SagaProgram J Unit := do
  if (present held.row.action).any E.registered then
    match ← ask (.runAction held) with
    | .ok result => settle E held result
    -- an unexpected throw is retried, exactly like an explicit `retry`
    | .error message => settle E held { outcome := .retry, error := some message }
  else
    ask (.markFailed (.unregistered held))
    settleFailure E held (FailCall.notRegistered held.row)

/-- `LIVE_STATUSES` are the statuses that are not terminal. -/
def execute (E : Environment J) (row : SagaStepRecord J) : SagaProgram J Unit := do
  match ← ask (.findById (.execute row)) with
  | none => ask (.markFailed (.missing row))
  | some ⟨inst, same⟩ =>
    if live : inst.status.isTerminal = false then run E ⟨row, inst, same, live⟩
    else ask (.markSkipped row inst same (by simpa using live))

def executeAll (E : Environment J) : List (SagaStepRecord J) → SagaProgram J Unit
  | [] => pure ()
  | row :: rest => do
    execute E row
    executeAll E rest

def runBatch (E : Environment J) (workerId : String) : SagaProgram J Unit := do
  let now ← ask (.clock .other)
  let rows ← ask (.claimBatch
    { now := now, leaseMs := E.config.workerLeaseSeconds * 1000,
      batchSize := E.config.claimBatchSize, workerId := workerId,
      fairnessCap := E.config.fairnessCap })
  let capped := SagaStepRepository.applyFairnessCap rows E.config.fairnessCap
  if capped.2.isEmpty then executeAll E capped.1
  else
    ask (.releaseOverflow capped.2)
    executeAll E capped.1

end SagaStepWorker

namespace SagaScheduler

def sweepBatch : Nat := 200

def staleLeaseError : String := "lease expired before the step settled"

def expireAll (E : Environment J) : List (WaitRow J) → SagaProgram J Unit
  | [] => pure ()
  | row :: rest => do
    SagaEngine.onWaitTimeout E row
    expireAll E rest

def expireWaitSteps (E : Environment J) : SagaProgram J Unit := do
  let now ← ask (.clock .other)
  let due ← ask (.findExpiredWaits now sweepBatch)
  expireAll E due

def requeueAll : List (SagaStepRecord J) → SagaProgram J Unit
  | [] => pure ()
  | row :: rest => do
    let now ← ask (.clock .other)
    ask (.reschedule row row.attempt now (some staleLeaseError))
    requeueAll rest

def releaseStaleLeases : SagaProgram J Unit := do
  let now ← ask (.clock .other)
  let stale ← ask (.findStaleRunning now sweepBatch)
  requeueAll stale

/-- One tick that got past the `running` flag of its own process, whose worker it names. -/
def tick (E : Environment J) (workerId : String) : SagaProgram J Unit := do
  SagaStepWorker.runBatch E workerId
  expireWaitSteps E
  releaseStaleLeases

def cleanupInbox (E : Environment J) : SagaProgram J Unit := do
  let now ← ask (.clock .other)
  ask (.purgeOlderThan (now - E.config.inboxRetentionDays * 24 * 60 * 60 * 1000))

end SagaScheduler

end DddBoilerplate.Saga
