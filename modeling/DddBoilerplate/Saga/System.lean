/- module: DddBoilerplate/Saga/System
   generality: I
   digest: The saga module as a pool of calls, and which call each answer leads to. -/

import DddBoilerplate.Saga.Router
import DddBoilerplate.Saga.Worker

set_option autoImplicit false
set_option relaxedAutoImplicit false
set_option linter.all false

open DddBoilerplate.Concurrency

namespace DddBoilerplate.Saga

variable {J : Type}

/-- What may be started at any time: deliveries, ticks and the hourly clean-up, and every
public operation of the engine. -/
inductive SagaEntry (J : Type) where
  | accept (envelope : OutboxEnvelope J)
  | tick (workerId : String)
  | cleanupInbox
  | createAndAdvance (input : InsertInstanceInput J)
  | advance (instanceId : String)
  | onDoSucceeded (instanceId stepId : String)
  | onDoFailed (instanceId stepId error : String) (reason : SagaInstanceReason)
  | onUndoSucceeded (instanceId : String)
  | onUndoFailed (instanceId error : String)
  | onWaitTimeout (row : WaitRow J)
  | cancel (instanceId : String) (reason : SagaInstanceReason)
  | bufferForInstance (c : BufferCall J)

def SagaEntry.program (E : Environment J) : SagaEntry J → SagaProgram J Unit
  | accept envelope => SagaRouter.accept E envelope
  | tick workerId => SagaScheduler.tick E workerId
  | cleanupInbox => SagaScheduler.cleanupInbox E
  | createAndAdvance input => SagaEngine.createAndAdvance E input
  | advance id => SagaEngine.advance E id
  | onDoSucceeded id stepId => SagaEngine.onDoSucceeded E id stepId
  | onDoFailed id stepId error reason => SagaEngine.onDoFailed E id stepId error reason
  | onUndoSucceeded id => SagaEngine.onUndoSucceeded id
  | onUndoFailed id error => SagaEngine.onUndoFailed id error
  | onWaitTimeout row => SagaEngine.onWaitTimeout E row
  | cancel id reason => SagaEngine.cancel E id reason
  | bufferForInstance c => SagaEngine.bufferForInstance E c

abbrev sagaSystem (E : Environment J) : System where
  interface := sagaInterface J
  Store := SagaDb J
  Choice := SagaChoice J
  Entry := SagaEntry J
  program := SagaEntry.program E
  serve := serve E

abbrev SagaPool (E : Environment J) := Pool (sagaSystem E)

abbrev SagaFront (J : Type) := Front (sagaInterface J)

/-- Requests made with nothing read before that matters: the first ones of a function, and
those of the loops around the engine. -/
def SagaRequest.isFresh : SagaRequest J → Bool
  | findById _ | clock .other | tryInsertLive _ | findLiveByKey _ _ | findWaitingByEvent _ _
  | claimBatch _ | releaseOverflow _ | reschedule _ _ _ _ | findExpiredWaits _ _
  | findStaleRunning _ _ | tryInsert _ | purgeOlderThan _ | findActiveByEvent _ _ | listActive
  | findActive _ _ _ | features _ | settings _ => true
  | _ => false

def Fresh : SagaFront J → Prop
  | .asks q => SagaRequest.isFresh q = true
  | _ => True

/-- What `advance` asks first with its walk at a step. -/
def StepFront (E : Environment J) (w : Walk J) (f : SagaFront J) : Prop :=
  (bypasses E w.step w.scope = .ok true ∧ f = .asks (.createIfAbsent (.recordBypass w))) ∨
  (bypasses E w.step w.scope = .ok false ∧
    ((∃ wait ref, w.step.waitFor = some ref ∧ f = .asks (.listBuffered w wait ref)) ∨
      (∃ wait timeout, w.step.waitFor = none ∧
        f = .asks (.createIfAbsent (.park w wait [] timeout))) ∨
      ∃ do_ input, f = .asks (.createIfAbsent (.handOver w do_ input))))

/-- What `advance` asks first with its walk at position `n`. -/
def WalkFront (E : Environment J) (inst : SagaInstanceRecord J) (n : Nat) (scope : Scope J)
    (f : SagaFront J) : Prop :=
  f = .failed ∨
  (inst.plan.steps.length ≤ n ∧ ∃ active ahead, f = .asks (.updateCas (.complete inst active n ahead))) ∨
  ∃ w : Walk J, w.inst = inst ∧ w.cursor = n ∧ w.scope = scope ∧ StepFront E w f

/-- What `startCompensation` asks first. -/
def CompensationFront (inst : SagaInstanceRecord J) (live : inst.status.isTerminal = false)
    (failedIndex : Nat) (reason : SagaInstanceReason) (error : String) (f : SagaFront J) : Prop :=
  (∃ before, f = .asks (.findByInstance
      (.startCompensation ⟨inst, live, failedIndex, reason, error, before⟩))) ∨
  ((∃ pivot, inst.plan.pivotIndex = some pivot ∧ pivot < failedIndex) ∧
    f = .asks (.updateCas (.pastPivot inst live reason error)))

/-- What the loop of `startCompensation` asks first below `n`. -/
def UnwindFront (c : Unwinding J) : Nat → SagaFront J → Prop
  | 0, f => f = .asks (.updateCas (.compensate c))
  | index + 1, f =>
    match c.inst.plan.steps[index]? with
    | none => f = .failed
    | some step =>
      match c.completed step with
      | none => UnwindFront c index f
      | some _ => f = .failed ∨ f = .asks (.updateCas (.noUndo c step)) ∨
          ∃ below step here row completed action input,
            f = .asks (.createIfAbsent (.undo c index below step here row completed action input))

/-- What the worker asks to settle a failed step, once its row is marked. -/
def FailureFront (held : Held J) (f : SagaFront J) : Prop :=
  if held.row.kind = .undo then ∃ error, f = .asks (.findById (.onUndoFailed held.inst.id error))
  else ∃ error, f = .asks (.findById
    (.onDoFailed held.inst.id held.row.stepId error .stepFailed))

/-- Which fronts an answer may lead to. -/
def follow (E : Environment J) : (q : SagaRequest J) → q.Answer → SagaFront J → Prop
  | .findById (.advance _), some ⟨inst, _⟩, f =>
    if active : inst.status.isActive = true then f = .asks (.findByInstance (.advance inst active))
    else Fresh f
  | .findById (.onDoSucceeded _ stepId), some ⟨inst, _⟩, f =>
    if live : inst.status.isTerminal = false then
      match inst.plan.indexOf stepId with
      | none => Fresh f
      | some index => f = .asks (.updateCas (.onDoSucceeded inst live index))
    else Fresh f
  | .findById (.onDoFailed _ stepId error reason), some ⟨inst, _⟩, f =>
    if live : inst.status.isTerminal = false then
      match inst.plan.indexOf stepId with
      | none => Fresh f
      | some index => CompensationFront inst live index reason error f
    else Fresh f
  | .findById (.onUndoSucceeded _), some ⟨inst, _⟩, f =>
    if compensating : inst.status = .compensating then
      f = .asks (.findByInstance (.onUndoSucceeded inst compensating))
    else Fresh f
  | .findById (.onUndoFailed _ error), some ⟨inst, _⟩, f =>
    if live : inst.status.isTerminal = false then
      f = .asks (.updateCas (.onUndoFailed inst live error))
    else Fresh f
  | .findById (.onWaitTimeout row), some ⟨inst, _⟩, f =>
    if live : inst.status.isTerminal = false then
      f = .asks (.markFailed (.onWaitTimeout inst live row))
    else Fresh f
  | .findById (.cancel _ reason), some ⟨inst, _⟩, f =>
    if live : inst.status.isTerminal = false then
      f = .asks (.findByInstance (.cancel inst live reason))
    else Fresh f
  | .findById (.execute row), some ⟨inst, same⟩, f =>
    (∃ live, f = .asks (.runAction ⟨row, inst, same, live⟩)) ∨
    (∃ live, f = .asks (.markFailed (.unregistered ⟨row, inst, same, live⟩))) ∨
    ∃ ended, f = .asks (.markSkipped row inst same ended)
  | .findById (.execute row), none, f => f = .asks (.markFailed (.missing row))
  | .findByInstance (.advance inst active), rows, f =>
    f = .asks (.clock (.advance inst active (buildScope E inst rows)))
  | .findByInstance (.onUndoSucceeded inst compensating), rows, f =>
    if SagaEngine.pendingUndo rows then Fresh f
    else f = .asks (.updateCas (.onUndoSucceeded inst compensating rows))
  | .findByInstance (.cancel inst live reason), rows, f =>
    if SagaEngine.hasCompletedDo rows then
      ∃ error, CompensationFront inst live inst.cursor reason error f
    else f = .asks (.updateCas (.cancel inst live reason rows))
  | .findByInstance (.startCompensation c), rows, f =>
    f = .asks (.clock (.startCompensation c rows))
  | .clock (.advance inst _ scope), _, f => WalkFront E inst inst.cursor scope f
  | .clock (.startCompensation c rows), now, f => UnwindFront ⟨c, rows, now⟩ c.failedIndex f
  | .updateCas (.complete inst _ _ _), _, f => Fresh f ∨ ∃ event, f = .asks (.append inst event)
  | .updateCas (.onDoSucceeded inst _ _), _, f => f = .asks (.findById (.advance inst.id))
  | .updateCas (.skipTimeout inst _ _), _, f => f = .asks (.findById (.advance inst.id))
  | .createIfAbsent (.recordBypass w), _, f => WalkFront E w.inst (w.cursor + 1) w.scope f
  | .createIfAbsent (.consumeWait w row _), _, f => f = .asks (.markConsumed w row)
  | .createIfAbsent (.park w wait buffered _), _, f =>
    f = .asks (.updateCas (.park w wait buffered))
  | .createIfAbsent (.handOver w do_ _), created, f =>
    if created.status = .done ∨ created.status = .skipped then
      ∃ log, WalkFront E w.inst (w.cursor + 1) { w.scope with steps := log } f
    else f = .asks (.updateCas (.handOver w do_))
  | .createIfAbsent (.undo c index _ _ _ _ _ _ _), _, f => UnwindFront c index f
  | .listBuffered w wait _, rows, f =>
    f = .failed ∨
    (∃ row output, firstAccepted E w.inst w.step w.scope rows = .ok (some row) ∧
      f = .asks (.createIfAbsent (.consumeWait w row output))) ∨
    (firstAccepted E w.inst w.step w.scope rows = .ok none ∧
      ∃ timeout, f = .asks (.createIfAbsent (.park w wait rows timeout)))
  | .markConsumed w _, _, f =>
    ∃ log, WalkFront E w.inst (w.cursor + 1) { w.scope with steps := log } f
  | .markDone held _, _, f =>
    if held.row.kind = .undo then f = .asks (.findById (.onUndoSucceeded held.inst.id))
    else f = .asks (.findById (.onDoSucceeded held.inst.id held.row.stepId))
  | .markFailed (.unregistered held), _, f => FailureFront held f
  | .markFailed (.exhausted held _), _, f => FailureFront held f
  | .markFailed (.onWaitTimeout inst live row), _, f =>
    if SagaEngine.compensatesOnTimeout inst.plan row.1.stepId then
      ∃ error, CompensationFront inst live
        ((inst.plan.indexOf row.1.stepId).getD inst.cursor) .timeout error f
    else f = .asks (.updateCas (.skipTimeout inst live row))
  | .runAction held, _, f =>
    Fresh f ∨ (∃ output, f = .asks (.markDone held output)) ∨
    ∃ error, f = .asks (.markFailed (.exhausted held error))
  | .markBuffered c, _, f => f = .asks (.findById (.advance c.inst.id))
  | .tryInsert c, some _, f => f = .asks (.markBuffered c)
  | .tryInsertLive _, some inst, f => f = .asks (.findById (.advance inst.id))
  | _, _, f => Fresh f

end DddBoilerplate.Saga
