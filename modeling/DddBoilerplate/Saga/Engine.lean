/- module: DddBoilerplate/Saga/Engine
   generality: I
   digest: The saga engine: the walk along a plan, waits, compensation, and the hooks that settle steps. -/

import DddBoilerplate.Saga.Requests

set_option autoImplicit false
set_option relaxedAutoImplicit false
set_option linter.all false

open DddBoilerplate.Concurrency

namespace DddBoilerplate.Saga

variable {J : Type}

namespace SagaEngine

/-- `complete` -/
def complete (inst : SagaInstanceRecord J) (active : inst.status.isActive = true) (cursor : Nat)
    (ahead : inst.cursor ≤ cursor) : SagaProgram J Unit := do
  match ← ask (.updateCas (.complete inst active cursor ahead)) with
  | none => pure ()
  | some _ =>
    match inst.plan.onComplete with
    | none => pure ()
    | some onComplete =>
      ask (.append inst ⟨onComplete.emit, inst.sagaKey, inst.id, inst.correlationKey⟩)

/-- `consumeWait`: the event it consumed, or the buffered events it passed over. -/
def consumeWait (E : Environment J) (w : Walk J) (wait : w.step.kind = .wait) :
    SagaProgram J (String ⊕ List (SagaInboxRecord J)) := do
  match w.step.waitFor with
  | none => pure (.inr [])
  | some ref =>
    let buffered ← ask (.listBuffered w wait ref)
    match ← Program.lift (firstAccepted E w.inst w.step w.scope buffered) with
    | none => pure (.inr buffered)
    | some row =>
      let _ ← ask (.createIfAbsent (.consumeWait w row [("eventId", E.string row.eventId)]))
      ask (.markConsumed w row)
      pure (.inl row.eventId)

/-- How long a parked WAIT step may stay. -/
def timeoutMs (E : Environment J) (step : SagaPlanStep) : Except String Nat :=
  match present step.timeout with
  | some duration => E.parseDuration duration
  | none => .ok (E.config.workerLeaseSeconds * 1000)

theorem getElem?_of_drop {α : Type} {l rest : List α} {n : Nat} {a : α}
    (h : l.drop n = a :: rest) : l[n]? = some a := by
  rw [← List.head?_drop, h, List.head?_cons]

theorem drop_succ_of_drop {α : Type} {l rest : List α} {n : Nat} {a : α}
    (h : l.drop n = a :: rest) : l.drop (n + 1) = rest := by
  rw [← List.tail_drop, h, List.tail_cons]

/-- The `while` of `advance`, over the steps from the cursor on. -/
def walk (E : Environment J) (inst : SagaInstanceRecord J) (active : inst.status.isActive = true)
    (now : Nat) : (steps : List SagaPlanStep) → (cursor : Nat) →
    inst.plan.steps.drop cursor = steps → inst.cursor ≤ cursor → Scope J → SagaProgram J Unit
  | [], cursor, _, ahead, _ => complete inst active cursor ahead
  | step :: rest, cursor, steps, ahead, scope => do
    let w : Walk J := ⟨inst, active, now, cursor, ahead, step, getElem?_of_drop steps, scope⟩
    if ← Program.lift (bypasses E step scope) then
      let _ ← ask (.createIfAbsent (.recordBypass w))
      walk E inst active now rest (cursor + 1) (drop_succ_of_drop steps) (by omega) scope
    else
      match kind : step.kind with
      | .wait =>
        match ← consumeWait E w kind with
        | .inl eventId =>
          walk E inst active now rest (cursor + 1) (drop_succ_of_drop steps) (by omega)
            (scope.log step.id ⟨.done, [("eventId", E.string eventId)]⟩)
        | .inr buffered =>
          let timeout ← Program.lift (timeoutMs E step)
          let _ ← ask (.createIfAbsent (.park w kind buffered timeout))
          let _ ← ask (.updateCas (.park w kind buffered))
      | .do_ =>
        let input ← Program.lift (buildInput E step scope)
        let created ← ask (.createIfAbsent (.handOver w kind input))
        if created.status = .done then
          walk E inst active now rest (cursor + 1) (drop_succ_of_drop steps) (by omega)
            (scope.log step.id ⟨.done, created.output.getD []⟩)
        else if created.status = .skipped then
          walk E inst active now rest (cursor + 1) (drop_succ_of_drop steps) (by omega) scope
        else
          -- hand the durable DO step to the worker
          let _ ← ask (.updateCas (.handOver w kind))

def advance (E : Environment J) (instanceId : String) : SagaProgram J Unit := do
  match ← ask (.findById (.advance instanceId)) with
  | none => pure ()
  | some ⟨inst, _⟩ =>
    if active : inst.status.isActive = true then
      let rows ← ask (.findByInstance (.advance inst active))
      let now ← ask (.clock (.advance inst active (buildScope E inst rows)))
      walk E inst active now _ inst.cursor rfl (Nat.le_refl _) (buildScope E inst rows)
    else pure ()

/-- Insert the live instance, unless the index turns it away, and advance it. -/
def createAndAdvance (E : Environment J) (input : InsertInstanceInput J) : SagaProgram J Unit := do
  match ← ask (.tryInsertLive input) with
  | none => pure ()
  | some inst => advance E inst.id

/-- The loop of `startCompensation`, from the step below `n` down to the first. -/
def unwind (E : Environment J) (c : Unwinding J) (scope : Scope J) :
    (n : Nat) → n ≤ c.failedIndex → SagaProgram J Unit
  | 0, _ => do
    let _ ← ask (.updateCas (.compensate c))
  | index + 1, below =>
    match here : c.inst.plan.steps[index]? with
    | none => Program.fail "TypeError: the plan has no step at this index"
    | some step =>
      match completed : c.completed step with
      | none => unwind E c scope index (by omega)
      | some row =>
        match present step.undo with
        | none => do
          let _ ← ask (.updateCas (.noUndo c step))
        | some action => do
          let input ← Program.lift (buildInput E step scope)
          let _ ← ask (.createIfAbsent (.undo c index below step here row completed action
            (Fields.spread (row.output.getD []) (input.getD []))))
          unwind E c scope index (by omega)

def startCompensation (E : Environment J) (inst : SagaInstanceRecord J)
    (live : inst.status.isTerminal = false) (failedIndex : Nat) (reason : SagaInstanceReason)
    (error : String) : SagaProgram J Unit := do
  if before : (inst.plan.pivotIndex.all fun pivot => failedIndex ≤ pivot) = true then
    let c : Compensation J := ⟨inst, live, failedIndex, reason, error, before⟩
    let rows ← ask (.findByInstance (.startCompensation c))
    let now ← ask (.clock (.startCompensation c rows))
    unwind E ⟨c, rows, now⟩ (buildScope E inst rows) failedIndex (Nat.le_refl _)
  else
    let _ ← ask (.updateCas (.pastPivot inst live reason error))

def onDoSucceeded (E : Environment J) (instanceId stepId : String) : SagaProgram J Unit := do
  match ← ask (.findById (.onDoSucceeded instanceId stepId)) with
  | none => pure ()
  | some ⟨inst, _⟩ =>
    if live : inst.status.isTerminal = false then
      match inst.plan.indexOf stepId with
      | none => pure ()
      | some index =>
        let _ ← ask (.updateCas (.onDoSucceeded inst live index))
        advance E inst.id
    else pure ()

def onDoFailed (E : Environment J) (instanceId stepId error : String)
    (reason : SagaInstanceReason := .stepFailed) : SagaProgram J Unit := do
  match ← ask (.findById (.onDoFailed instanceId stepId error reason)) with
  | none => pure ()
  | some ⟨inst, _⟩ =>
    if live : inst.status.isTerminal = false then
      match inst.plan.indexOf stepId with
      | none => pure ()
      | some index => startCompensation E inst live index reason error
    else pure ()

/-- Some UNDO row is still to be settled. -/
def pendingUndo (rows : List (SagaStepRecord J)) : Bool :=
  rows.any fun row => row.kind = .undo && (row.status = .pending || row.status = .running)

def onUndoSucceeded (instanceId : String) : SagaProgram J Unit := do
  match ← ask (.findById (.onUndoSucceeded instanceId)) with
  | none => pure ()
  | some ⟨inst, _⟩ =>
    if compensating : inst.status = .compensating then
      let rows ← ask (.findByInstance (.onUndoSucceeded inst compensating))
      if pendingUndo rows then pure ()
      else
        let _ ← ask (.updateCas (.onUndoSucceeded inst compensating rows))
    else pure ()

def onUndoFailed (instanceId error : String) : SagaProgram J Unit := do
  match ← ask (.findById (.onUndoFailed instanceId error)) with
  | none => pure ()
  | some ⟨inst, _⟩ =>
    if live : inst.status.isTerminal = false then
      let _ ← ask (.updateCas (.onUndoFailed inst live error))
    else pure ()

/-- `planStep?.onTimeout === 'compensate'` -/
def compensatesOnTimeout (plan : SagaPlan) (stepId : String) : Bool :=
  ((plan.steps.find? fun step => step.id = stepId).bind (·.onTimeout)) = some .compensate

def onWaitTimeout (E : Environment J) (stepRow : WaitRow J) : SagaProgram J Unit := do
  match ← ask (.findById (.onWaitTimeout stepRow)) with
  | none => pure ()
  | some ⟨inst, _⟩ =>
    if live : inst.status.isTerminal = false then
      ask (.markFailed (.onWaitTimeout inst live stepRow))
      if compensatesOnTimeout inst.plan stepRow.1.stepId then
        startCompensation E inst live ((inst.plan.indexOf stepRow.1.stepId).getD inst.cursor)
          .timeout (FailCall.timedOut stepRow.1)
      else
        -- skip the wait and keep going
        let _ ← ask (.updateCas (.skipTimeout inst live stepRow))
        advance E inst.id
    else pure ()

/-- Some DO row is DONE. -/
def hasCompletedDo (rows : List (SagaStepRecord J)) : Bool :=
  rows.any fun row => row.kind = .do_ && row.status = .done

def reasonText : SagaInstanceReason → String
  | .stepFailed => "STEP_FAILED"
  | .timeout => "TIMEOUT"
  | .cancelledByEvent => "CANCELLED_BY_EVENT"
  | .cancelledByUser => "CANCELLED_BY_USER"

def cancel (E : Environment J) (instanceId : String) (reason : SagaInstanceReason) :
    SagaProgram J Unit := do
  match ← ask (.findById (.cancel instanceId reason)) with
  | none => pure ()
  | some ⟨inst, _⟩ =>
    if live : inst.status.isTerminal = false then
      let rows ← ask (.findByInstance (.cancel inst live reason))
      if hasCompletedDo rows then
        startCompensation E inst live inst.cursor reason ("Cancelled: " ++ reasonText reason)
      else
        let _ ← ask (.updateCas (.cancel inst live reason rows))
    else pure ()

/-- Buffer an event for an instance, unless it was before, and advance the instance. -/
def bufferForInstance (E : Environment J) (c : BufferCall J) : SagaProgram J Unit := do
  match ← ask (.tryInsert c) with
  | none => pure ()
  | some _ =>
    ask (.markBuffered c)
    advance E c.inst.id

end SagaEngine

end DddBoilerplate.Saga
