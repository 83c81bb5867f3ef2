/- module: DddBoilerplate/Saga/Types
   generality: I
   digest: Statuses, definitions, overlays, frozen plans and persisted rows of the saga platform module. -/

import Mathlib.Data.List.Basic

set_option autoImplicit false
set_option relaxedAutoImplicit false
set_option linter.all false

namespace DddBoilerplate.Saga

inductive SagaInstanceStatus where
  | running
  | waiting
  | compensating
  | completed
  | compensated
  | cancelled
  | failedManual
  deriving DecidableEq

inductive SagaInstanceReason where
  | stepFailed
  | timeout
  | cancelledByEvent
  | cancelledByUser
  deriving DecidableEq

inductive SagaDefinitionStatus where
  | draft
  | active
  | retired
  deriving DecidableEq

inductive SagaCompanyConfigStatus where
  | active
  | invalid
  | retired
  deriving DecidableEq

inductive SagaStepKind where
  | do_
  | wait
  | undo
  deriving DecidableEq

inductive SagaStepStatus where
  | pending
  | running
  | done
  | skipped
  | failed
  deriving DecidableEq

inductive SagaInboxStatus where
  | received
  | buffered
  | consumed
  | ignored
  deriving DecidableEq

namespace SagaInstanceStatus

/-- `TERMINAL_STATUSES` -/
def isTerminal : SagaInstanceStatus → Bool
  | completed | compensated | cancelled | failedManual => true
  | running | waiting | compensating => false

/-- The statuses `advance` goes on with. -/
def isActive : SagaInstanceStatus → Bool
  | running | waiting => true
  | _ => false

theorem not_terminal_of_active {s : SagaInstanceStatus} (h : s.isActive = true) :
    s.isTerminal = false := by
  cases s <;> first | rfl | cases h

theorem isActive_iff {s : SagaInstanceStatus} : s.isActive = true ↔ s = running ∨ s = waiting := by
  cases s <;> simp [isActive]

theorem live_cases {s : SagaInstanceStatus} (h : s.isTerminal = false) :
    s = running ∨ s = waiting ∨ s = compensating := by
  cases s <;> simp_all [isTerminal]

end SagaInstanceStatus

/-- `Record<string, unknown>`, its fields in the order they were written. -/
abbrev Fields (J : Type) := List (String × J)

namespace Fields

variable {J : Type}

/-- `record[field] = value` -/
def assign (field : String) (value : J) : Fields J → Fields J
  | [] => [(field, value)]
  | (f, v) :: rest => if f = field then (f, value) :: rest else (f, v) :: assign field value rest

/-- `{ ...left, ...right }` -/
def spread (left right : Fields J) : Fields J :=
  right.foldl (fun record f => record.assign f.1 f.2) left

end Fields

/-- What JavaScript reads as true of an optional string: present and not empty. -/
def present (s : Option String) : Option String :=
  s.filter fun s => !s.isEmpty

inductive SagaStepPolicy where
  | required
  | standard
  | optional
  deriving DecidableEq

inductive SagaOnTimeout where
  | skip
  | compensate
  deriving DecidableEq

structure SagaEventRef where
  name : String
  version : Nat
  deriving DecidableEq

structure SagaStartSpec where
  event : SagaEventRef
  when_ : Option String := none
  key : String
  context : Option (Fields String) := none

structure SagaRetry where
  maxAttempts : Nat

structure SagaStepSpec where
  id : String
  policy : SagaStepPolicy
  do_ : Option String := none
  undo : Option String := none
  input : Option (Fields String) := none
  waitFor : Option SagaEventRef := none
  match_ : Option String := none
  when_ : Option String := none
  requires : Option (List String) := none
  if_ : Option String := none
  timeout : Option String := none
  onTimeout : Option SagaOnTimeout := none
  retry : Option SagaRetry := none
  pivot : Option Bool := none

structure SagaEmit where
  emit : String

structure SagaDefinitionBody where
  key : String
  version : Nat
  requires : Option (List String) := none
  start : SagaStartSpec
  cancelOn : Option (List SagaEventRef) := none
  steps : List SagaStepSpec
  onComplete : Option SagaEmit := none

structure SagaStepOverlay where
  enabled : Option Bool := none
  if_ : Option String := none
  when_ : Option String := none
  timeout : Option String := none
  retry : Option SagaRetry := none

structure SagaStartOverlay where
  when_ : Option String := none

structure SagaOverlay where
  enabled : Option Bool := none
  start : Option SagaStartOverlay := none
  steps : Option (Fields SagaStepOverlay) := none

/-- A plan holds DO and WAIT steps only; UNDO is the kind of a row. -/
inductive SagaPlanStepKind where
  | do_
  | wait
  deriving DecidableEq

def SagaPlanStepKind.toStepKind : SagaPlanStepKind → SagaStepKind
  | do_ => .do_
  | wait => .wait

structure SagaPlanStep where
  id : String
  kind : SagaPlanStepKind
  action : Option String := none
  undo : Option String := none
  input : Option (Fields String) := none
  waitFor : Option SagaEventRef := none
  match_ : Option String := none
  when_ : Option String := none
  if_ : Option String := none
  timeout : Option String := none
  onTimeout : Option SagaOnTimeout := none
  maxAttempts : Nat
  pivot : Bool := false

structure SagaPlan where
  sagaKey : String
  version : Nat
  steps : List SagaPlanStep
  cancelOn : List SagaEventRef := []
  onComplete : Option SagaEmit := none

/-- `plan.steps.findIndex(step => step.id === stepId)` -/
def SagaPlan.indexOf (plan : SagaPlan) (stepId : String) : Option Nat :=
  plan.steps.findIdx? fun step => step.id = stepId

/-- `plan.steps.findIndex(step => step.pivot)` -/
def SagaPlan.pivotIndex (plan : SagaPlan) : Option Nat :=
  plan.steps.findIdx? fun step => step.pivot

structure SagaDefinitionRecord where
  id : String
  sagaKey : String
  version : Nat
  eventName : String
  eventVersion : Nat
  status : SagaDefinitionStatus
  definition : SagaDefinitionBody

structure SagaCompanyConfigRecord where
  id : String
  tenantId : String
  companyId : String
  sagaKey : String
  overlay : SagaOverlay
  status : SagaCompanyConfigStatus

/-- The frozen context of an instance. -/
structure SagaContext (J : Type) where
  settings : Option (Fields J) := none
  event : Option (Fields J) := none
  start : Option (Fields J) := none

structure SagaInstanceRecord (J : Type) where
  id : String
  tenantId : String
  companyId : String
  sagaKey : String
  correlationKey : String
  status : SagaInstanceStatus
  reason : Option SagaInstanceReason
  plan : SagaPlan
  context : SagaContext J
  cursor : Nat
  waitingEvent : Option String
  error : Option String
  version : Nat

/-- A step row is told apart by its unique (instance, step, kind); its generated
identifier, which is as unique and as permanent, is this triple. -/
structure SagaStepKey where
  instanceId : String
  stepId : String
  kind : SagaStepKind
  deriving DecidableEq

structure SagaStepRecord (J : Type) where
  tenantId : String
  companyId : String
  instanceId : String
  stepId : String
  kind : SagaStepKind
  action : Option String
  status : SagaStepStatus
  attempt : Nat
  maxAttempts : Nat
  runAt : Nat
  lockedBy : Option String
  lockUntil : Option Nat
  input : Option (Fields J)
  output : Option (Fields J)
  error : Option String

def SagaStepRecord.id {J : Type} (row : SagaStepRecord J) : SagaStepKey :=
  ⟨row.instanceId, row.stepId, row.kind⟩

/-- The consumer `sagaKey:instanceId`; an instance identifier is a UUID, so the text tells
the two parts apart. -/
structure SagaConsumer where
  sagaKey : String
  instanceId : String
  deriving DecidableEq

/-- The unique (tenant, company, consumer, event) of an inbox row, standing for its
generated identifier. -/
structure SagaInboxKey where
  tenantId : String
  companyId : String
  consumer : SagaConsumer
  eventId : String
  deriving DecidableEq

structure SagaInboxRecord (J : Type) where
  tenantId : String
  companyId : String
  consumer : SagaConsumer
  eventId : String
  eventName : String
  eventVersion : Nat
  instanceId : String
  payload : Fields J
  status : SagaInboxStatus
  receivedAt : Nat

def SagaInboxRecord.id {J : Type} (row : SagaInboxRecord J) : SagaInboxKey :=
  ⟨row.tenantId, row.companyId, row.consumer, row.eventId⟩

structure SagaTriggerEvent (J : Type) where
  eventId : String
  eventName : String
  eventVersion : Nat
  tenantId : String
  companyId : String
  payload : Fields J

/-- The parts of an outbox envelope the router reads. -/
structure OutboxEnvelope (J : Type) where
  eventId : String
  eventType : String
  eventVersion : Option Nat
  tenantId : Option String
  companyId : Option String
  aggregateType : String
  payload : Fields J

/-- `SagaEmittedEvent`, appended under aggregate type `Saga`. -/
structure SagaEmittedEvent where
  eventName : String
  sagaKey : String
  instanceId : String
  correlationKey : String
  deriving DecidableEq

inductive SagaActionOutcome where
  | ok
  | retry
  | fail
  deriving DecidableEq

structure SagaActionResult (J : Type) where
  outcome : SagaActionOutcome
  output : Option (Fields J) := none
  error : Option String := none

structure ISagaConfig where
  workerLeaseSeconds : Nat
  claimBatchSize : Nat
  fairnessCap : Nat
  retryBaseDelayMs : Nat
  retryMaxDelayMs : Nat
  defaultMaxAttempts : Nat
  inboxRetentionDays : Nat

end DddBoilerplate.Saga
