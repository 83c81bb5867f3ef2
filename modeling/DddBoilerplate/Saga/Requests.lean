/- module: DddBoilerplate/Saga/Requests
   generality: I
   digest: Every awaited call of the saga module with the locals it is made from, and how the tables serve it. -/

import DddBoilerplate.Concurrency.Pool
import DddBoilerplate.Saga.Environment
import DddBoilerplate.Saga.Repository

set_option autoImplicit false
set_option relaxedAutoImplicit false
set_option linter.all false

open DddBoilerplate.Concurrency

namespace DddBoilerplate.Saga

variable {J : Type}

/-- `advance` at a step of its walk: the instance and scope it read, the position it reached. -/
structure Walk (J : Type) where
  inst : SagaInstanceRecord J
  active : inst.status.isActive = true
  now : Nat
  cursor : Nat
  ahead : inst.cursor ≤ cursor
  step : SagaPlanStep
  here : inst.plan.steps[cursor]? = some step
  scope : Scope J

/-- `startCompensation` once the pivot check has passed. -/
structure Compensation (J : Type) where
  inst : SagaInstanceRecord J
  live : inst.status.isTerminal = false
  failedIndex : Nat
  reason : SagaInstanceReason
  error : String
  beforePivot : (inst.plan.pivotIndex.all fun pivot => failedIndex ≤ pivot) = true

/-- `startCompensation` in its loop, with the rows it read. -/
structure Unwinding (J : Type) extends Compensation J where
  rows : List (SagaStepRecord J)
  now : Nat

/-- The row that makes a plan step one to undo: a DO step whose row was read as DONE. -/
def Unwinding.completed (c : Unwinding J) (step : SagaPlanStep) : Option (SagaStepRecord J) :=
  if step.kind = .do_ then
    (c.rows.find? fun row => row.stepId = step.id && row.kind = .do_).filter (·.status = .done)
  else none

/-- The worker with a claimed row and the instance it read for it. -/
structure Held (J : Type) where
  row : SagaStepRecord J
  inst : SagaInstanceRecord J
  same : inst.id = row.instanceId
  live : inst.status.isTerminal = false

abbrev WaitRow (J : Type) := {row : SagaStepRecord J // row.kind = .wait}

/-- Calls of `instances.findById`. -/
inductive FindCall (J : Type) where
  | advance (instanceId : String)
  | onDoSucceeded (instanceId stepId : String)
  | onDoFailed (instanceId stepId error : String) (reason : SagaInstanceReason)
  | onUndoSucceeded (instanceId : String)
  | onUndoFailed (instanceId error : String)
  | onWaitTimeout (row : WaitRow J)
  | cancel (instanceId : String) (reason : SagaInstanceReason)
  | execute (row : SagaStepRecord J)

def FindCall.id : FindCall J → String
  | advance id | onDoSucceeded id _ | onDoFailed id _ _ _ | onUndoSucceeded id
  | onUndoFailed id _ | cancel id _ => id
  | onWaitTimeout row => row.1.instanceId
  | execute row => row.instanceId

/-- Calls of `steps.findByInstance`. -/
inductive RowsCall (J : Type) where
  | advance (inst : SagaInstanceRecord J) (active : inst.status.isActive = true)
  | onUndoSucceeded (inst : SagaInstanceRecord J) (compensating : inst.status = .compensating)
  | cancel (inst : SagaInstanceRecord J) (live : inst.status.isTerminal = false)
      (reason : SagaInstanceReason)
  | startCompensation (c : Compensation J)

def RowsCall.inst : RowsCall J → SagaInstanceRecord J
  | advance inst _ | onUndoSucceeded inst _ | cancel inst _ _ => inst
  | startCompensation c => c.inst

/-- Readings of the clock; the ones with nothing held across them are all alike. -/
inductive ClockCall (J : Type) where
  | advance (inst : SagaInstanceRecord J) (active : inst.status.isActive = true) (scope : Scope J)
  | startCompensation (c : Compensation J) (rows : List (SagaStepRecord J))
  | other

/-- Calls of `steps.createIfAbsent`. -/
inductive CreateCall (J : Type) where
  | recordBypass (w : Walk J)
  | consumeWait (w : Walk J) (row : SagaInboxRecord J) (output : Fields J)
  | park (w : Walk J) (wait : w.step.kind = .wait) (buffered : List (SagaInboxRecord J))
      (timeoutMs : Nat)
  | handOver (w : Walk J) (do_ : w.step.kind = .do_) (input : Option (Fields J))
  | undo (c : Unwinding J) (index : Nat) (below : index < c.failedIndex) (step : SagaPlanStep)
      (here : c.inst.plan.steps[index]? = some step) (row : SagaStepRecord J)
      (completed : c.completed step = some row) (action : String) (input : Fields J)

def CreateCall.inst : CreateCall J → SagaInstanceRecord J
  | recordBypass w | consumeWait w _ _ | park w _ _ _ | handOver w _ _ => w.inst
  | undo c _ _ _ _ _ _ _ _ => c.inst

def CreateCall.input : CreateCall J → InsertStepInput J
  | recordBypass w =>
    { tenantId := w.inst.tenantId, companyId := w.inst.companyId, instanceId := w.inst.id,
      stepId := w.step.id, kind := w.step.kind.toStepKind, action := w.step.action,
      status := .skipped, maxAttempts := w.step.maxAttempts, runAt := w.now }
  | consumeWait w _ output =>
    { tenantId := w.inst.tenantId, companyId := w.inst.companyId, instanceId := w.inst.id,
      stepId := w.step.id, kind := .wait, action := none, status := .done,
      maxAttempts := w.step.maxAttempts, runAt := w.now, output := some output }
  | park w _ _ timeoutMs =>
    { tenantId := w.inst.tenantId, companyId := w.inst.companyId, instanceId := w.inst.id,
      stepId := w.step.id, kind := .wait, action := none, status := .pending,
      maxAttempts := w.step.maxAttempts, runAt := w.now + timeoutMs }
  | handOver w _ input =>
    { tenantId := w.inst.tenantId, companyId := w.inst.companyId, instanceId := w.inst.id,
      stepId := w.step.id, kind := .do_, action := w.step.action, status := .pending,
      maxAttempts := w.step.maxAttempts, runAt := w.now, input := input }
  | undo c _ _ step _ _ _ action input =>
    { tenantId := c.inst.tenantId, companyId := c.inst.companyId, instanceId := c.inst.id,
      stepId := step.id, kind := .undo, action := some action, status := .pending,
      maxAttempts := step.maxAttempts, runAt := c.now, input := some input }

/-- `failedUndoError` -/
def failedUndoError (rows : List (SagaStepRecord J)) : Option String :=
  (rows.find? fun row => row.kind = .undo && row.status = .failed).bind (·.error)

/-- Calls of `instances.updateCas`. -/
inductive CasCall (J : Type) where
  | park (w : Walk J) (wait : w.step.kind = .wait) (buffered : List (SagaInboxRecord J))
  | handOver (w : Walk J) (do_ : w.step.kind = .do_)
  | complete (inst : SagaInstanceRecord J) (active : inst.status.isActive = true) (cursor : Nat)
      (ahead : inst.cursor ≤ cursor)
  | onDoSucceeded (inst : SagaInstanceRecord J) (live : inst.status.isTerminal = false)
      (index : Nat)
  | onUndoSucceeded (inst : SagaInstanceRecord J) (compensating : inst.status = .compensating)
      (rows : List (SagaStepRecord J))
  | onUndoFailed (inst : SagaInstanceRecord J) (live : inst.status.isTerminal = false)
      (error : String)
  | skipTimeout (inst : SagaInstanceRecord J) (live : inst.status.isTerminal = false)
      (row : WaitRow J)
  | cancel (inst : SagaInstanceRecord J) (live : inst.status.isTerminal = false)
      (reason : SagaInstanceReason) (rows : List (SagaStepRecord J))
  | pastPivot (inst : SagaInstanceRecord J) (live : inst.status.isTerminal = false)
      (reason : SagaInstanceReason) (error : String)
  | noUndo (c : Unwinding J) (step : SagaPlanStep)
  | compensate (c : Unwinding J)

namespace CasCall

def inst : CasCall J → SagaInstanceRecord J
  | park w _ _ | handOver w _ => w.inst
  | complete inst _ _ _ | onDoSucceeded inst _ _ | onUndoSucceeded inst _ _
  | onUndoFailed inst _ _ | skipTimeout inst _ _ | cancel inst _ _ _ | pastPivot inst _ _ _ => inst
  | noUndo c _ | compensate c => c.inst

/-- No write of the engine starts from an instance read as ended. -/
theorem live : ∀ c : CasCall J, c.inst.status.isTerminal = false
  | park w _ _ | handOver w _ => SagaInstanceStatus.not_terminal_of_active w.active
  | complete _ active _ _ => SagaInstanceStatus.not_terminal_of_active active
  | onDoSucceeded _ live _ | onUndoFailed _ live _ | skipTimeout _ live _ | cancel _ live _ _
  | pastPivot _ live _ _ => live
  | onUndoSucceeded _ compensating _ => by
    simp only [inst, compensating, SagaInstanceStatus.isTerminal]
  | noUndo c _ | compensate c => c.live

def patch : CasCall J → SagaInstancePatch
  | park w _ _ =>
    { cursor := some w.cursor, status := some .waiting,
      waitingEvent := some (some (match w.step.waitFor with
        | some ref => SagaInstanceRepository.eventLabel ref
        | none => "undefined@undefined")) }
  | handOver w _ =>
    { cursor := some w.cursor, status := some .running, waitingEvent := some none }
  | complete _ _ cursor _ =>
    { status := some .completed, cursor := some cursor, waitingEvent := some none }
  | onDoSucceeded _ _ index => { cursor := some (index + 1) }
  | onUndoSucceeded inst _ rows =>
    { status := some .compensated, error := some ((failedUndoError rows).or inst.error) }
  | onUndoFailed _ _ error => { status := some .failedManual, error := some (some error) }
  | skipTimeout inst _ row =>
    { cursor := some (match inst.plan.indexOf row.1.stepId with
        | some index => index + 1
        | none => inst.cursor),
      waitingEvent := some none, status := some .running }
  | cancel _ _ reason _ => { status := some .cancelled, reason := some reason }
  | pastPivot _ _ reason error =>
    { status := some .failedManual, reason := some reason,
      error := some (some (error ++ " — past the pivot step, no compensation possible")) }
  | noUndo c step =>
    { status := some .failedManual, reason := some c.reason,
      error := some (some ("Step \"" ++ step.id ++
        "\" completed with no undo (and is not a pivot) — manual reversal required")) }
  | compensate c =>
    { status := some .compensating, reason := some c.reason, error := some (some c.error),
      waitingEvent := some none }

end CasCall

/-- Calls of `steps.markFailed`. -/
inductive FailCall (J : Type) where
  | onWaitTimeout (inst : SagaInstanceRecord J) (live : inst.status.isTerminal = false)
      (row : WaitRow J)
  | missing (row : SagaStepRecord J)
  | unregistered (held : Held J)
  | exhausted (held : Held J) (error : String)

namespace FailCall

def row : FailCall J → SagaStepRecord J
  | onWaitTimeout _ _ row => row.1
  | missing row => row
  | unregistered held | exhausted held _ => held.row

def timedOut (row : SagaStepRecord J) : String := "WAIT step \"" ++ row.stepId ++ "\" timed out"

def notRegistered (row : SagaStepRecord J) : String :=
  "Saga action \"" ++ row.action.getD "(none)" ++ "\" is not registered"

def error : FailCall J → String
  | onWaitTimeout _ _ row => timedOut row.1
  | missing _ => "instance missing"
  | unregistered held => notRegistered held.row
  | exhausted _ error => error

end FailCall

/-- `bufferForInstance` and its arguments. -/
structure BufferCall (J : Type) where
  inst : SagaInstanceRecord J
  eventId : String
  eventName : String
  eventVersion : Nat
  payload : Fields J

def BufferCall.input (c : BufferCall J) : InsertInboxInput J where
  tenantId := c.inst.tenantId
  companyId := c.inst.companyId
  consumer := ⟨c.inst.sagaKey, c.inst.id⟩
  eventId := c.eventId
  eventName := c.eventName
  eventVersion := c.eventVersion
  instanceId := c.inst.id
  payload := c.payload

/-- The identifier of the row `tryInsert` has just inserted. -/
def BufferCall.key (c : BufferCall J) : SagaInboxKey :=
  ⟨c.inst.tenantId, c.inst.companyId, ⟨c.inst.sagaKey, c.inst.id⟩, c.eventId⟩

inductive SagaRequest (J : Type) where
  | findById (c : FindCall J)
  | findByInstance (c : RowsCall J)
  | clock (c : ClockCall J)
  | updateCas (c : CasCall J)
  | createIfAbsent (c : CreateCall J)
  | tryInsertLive (input : InsertInstanceInput J)
  | findLiveByKey (sagaKey correlationKey : String)
  | findWaitingByEvent (ref : SagaEventRef) (limit : Nat)
  | claimBatch (input : ClaimStepsInput)
  | releaseOverflow (overflow : List (SagaStepRecord J))
  | markDone (held : Held J) (output : Option (Fields J))
  | markSkipped (row : SagaStepRecord J) (inst : SagaInstanceRecord J)
      (same : inst.id = row.instanceId) (ended : inst.status.isTerminal = true)
  | markFailed (c : FailCall J)
  | reschedule (row : SagaStepRecord J) (attempt runAt : Nat) (error : Option String)
  | findExpiredWaits (now limit : Nat)
  | findStaleRunning (now limit : Nat)
  | tryInsert (c : BufferCall J)
  | markBuffered (c : BufferCall J)
  | listBuffered (w : Walk J) (wait : w.step.kind = .wait) (ref : SagaEventRef)
  | markConsumed (w : Walk J) (row : SagaInboxRecord J)
  | purgeOlderThan (cutoff : Nat)
  /-- `action.do` or `action.undo`: the business work itself. -/
  | runAction (held : Held J)
  | append (inst : SagaInstanceRecord J) (event : SagaEmittedEvent)
  | findActiveByEvent (eventName : String) (eventVersion : Nat)
  | listActive
  | findActive (tenantId companyId sagaKey : String)
  | features (companyId : String)
  | settings (companyId : String)

/-- What a request is answered with. Ports that may throw where the caller catches answer
with the error. -/
@[reducible] def SagaRequest.Answer : SagaRequest J → Type
  | findById c => Option {inst : SagaInstanceRecord J // inst.id = c.id}
  | findByInstance _ => List (SagaStepRecord J)
  | clock _ => Nat
  | updateCas _ => Option (SagaInstanceRecord J)
  | createIfAbsent _ => SagaStepRecord J
  | tryInsertLive _ => Option (SagaInstanceRecord J)
  | findLiveByKey _ _ => List (SagaInstanceRecord J)
  | findWaitingByEvent _ _ => List (SagaInstanceRecord J)
  | claimBatch _ => List (SagaStepRecord J)
  | findExpiredWaits _ _ => List (WaitRow J)
  | findStaleRunning _ _ => List (SagaStepRecord J)
  | tryInsert _ => Option (SagaInboxRecord J)
  | listBuffered _ _ _ => List (SagaInboxRecord J)
  | runAction _ => Except String (SagaActionResult J)
  | findActiveByEvent _ _ => Option SagaDefinitionRecord
  | listActive => List SagaDefinitionRecord
  | findActive _ _ _ => Option SagaCompanyConfigRecord
  | features _ => Except String (List String)
  | settings _ => Except String (Fields J)
  | releaseOverflow _ | markDone _ _ | markSkipped _ _ _ _ | markFailed _ | reschedule _ _ _ _
  | markBuffered _ | markConsumed _ _ | purgeOlderThan _ | append _ _ => Unit

abbrev sagaInterface (J : Type) : Interface := ⟨SagaRequest J, SagaRequest.Answer⟩

abbrev SagaProgram (J : Type) := Program (sagaInterface J)

def ask (q : SagaRequest J) : SagaProgram J q.Answer :=
  @Program.request (sagaInterface J) q

/-- What the tables leave open in an answer. Clocks are read on whichever host makes the
call, so nothing relates one reading to another. -/
inductive SagaChoice (J : Type) where
  | plain
  | time (now : Nat)
  | uuid (id : String)
  | order (ids : List String)
  | claim (picked : List SagaStepKey)
  | outcome (result : Except String (SagaActionResult J))
  | features (keys : Except String (List String))
  | settings (values : Except String (Fields J))

/-- Rows without an `orderBy`, in the order the answer happened to have, cut at a limit. -/
def inOrder (rows : List (SagaInstanceRecord J)) (limit : Nat) (ids : List String) :
    Option (List (SagaInstanceRecord J)) :=
  let picked := ids.filterMap fun id => rows.find? fun row => row.id = id
  if ids.Nodup ∧ picked.length = ids.length ∧ ids.length = min limit rows.length then some picked
  else none

def serve (E : Environment J) : (q : SagaRequest J) → SagaChoice J → SagaDb J →
    Option (q.Answer × SagaDb J)
  | .findById c, _, db => some (db.instances.lookup c.id, db)
  | .findByInstance c, _, db => some (SagaStepRepository.findByInstance db c.inst.id, db)
  | .clock _, .time now, db => some (now, db)
  | .updateCas c, _, db =>
    SagaInstanceRepository.updateCas E.conflict db c.inst.id c.inst.version c.patch
  | .createIfAbsent c, _, db => some (SagaStepRepository.createIfAbsent db c.input)
  | .tryInsertLive input, .uuid id, db =>
    if (db.instances.get? id).isSome then none
    else some (SagaInstanceRepository.tryInsertLive E.conflict db input id)
  | .findLiveByKey sagaKey key, .order ids, db =>
    let rows := SagaInstanceRepository.findLiveByKey db sagaKey key
    (inOrder rows rows.length ids).map (·, db)
  | .findWaitingByEvent ref limit, .order ids, db =>
    (inOrder (SagaInstanceRepository.waitingOn db ref) limit ids).map (·, db)
  | .claimBatch input, .claim picked, db => SagaStepRepository.claimBatch db input picked
  | .releaseOverflow rows, _, db => some ((), SagaStepRepository.releaseOverflow db rows)
  | .markDone held output, _, db => some ((), SagaStepRepository.markDone db held.row.id output)
  | .markSkipped row _ _ _, _, db => some ((), SagaStepRepository.markSkipped db row.id)
  | .markFailed c, _, db => some ((), SagaStepRepository.markFailed db c.row.id c.error)
  | .reschedule row attempt runAt error, _, db =>
    some ((), SagaStepRepository.reschedule db row.id attempt runAt error)
  | .findExpiredWaits now limit, _, db => some (SagaStepRepository.findExpiredWaits db now limit, db)
  | .findStaleRunning now limit, _, db => some (SagaStepRepository.findStaleRunning db now limit, db)
  | .tryInsert c, .time now, db => some (SagaInboxRepository.tryInsert db c.input now)
  | .markBuffered c, _, db => some ((), SagaInboxRepository.markBuffered db c.key)
  | .listBuffered w _ ref, _, db => some (SagaInboxRepository.listBuffered db w.inst.id ref 50, db)
  | .markConsumed _ row, _, db => some ((), SagaInboxRepository.markConsumed db row.id)
  | .purgeOlderThan cutoff, _, db => some ((), SagaInboxRepository.purgeOlderThan db cutoff)
  | .runAction _, .outcome result, db => some (result, db)
  | .append _ event, _, db => some ((), { db with outbox := db.outbox ++ [event] })
  | .findActiveByEvent name version, _, db =>
    some (SagaDefinitionRepository.findActiveByEvent db name version, db)
  | .listActive, _, db => some (SagaDefinitionRepository.listActive db, db)
  | .findActive tenantId companyId sagaKey, _, db =>
    some (SagaCompanyConfigRepository.findActive db tenantId companyId sagaKey, db)
  | .features _, .features keys, db => some (keys, db)
  | .settings _, .settings values, db => some (values, db)
  | _, _, _ => none

end DddBoilerplate.Saga
