/- module: DddBoilerplate/Saga/Router
   generality: I
   digest: The inbound port: starting a saga, cancelling one, and delivering events to waiting ones. -/

import DddBoilerplate.Saga.Engine
import DddBoilerplate.Saga.PlanBuilder

set_option autoImplicit false
set_option relaxedAutoImplicit false
set_option linter.all false

open DddBoilerplate.Concurrency

namespace DddBoilerplate.Saga.SagaRouter

variable {J : Type}

def maxInstancesPerEvent : Nat := 100

def isCancelEvent (definition : SagaDefinitionRecord) (event : SagaTriggerEvent J) : Bool :=
  (definition.definition.cancelOn.getD []).any fun ref =>
    ref.name = event.eventName ∧ ref.version = event.eventVersion

/-- The first live instance for a key, whatever step it is parked on. -/
def findTarget (sagaKey correlationKey : String) :
    SagaProgram J (Option (SagaInstanceRecord J)) := do
  let live ← ask (.findLiveByKey sagaKey correlationKey)
  pure live.head?

/-- The scope `{ event: event.payload }`. -/
def eventScope (event : SagaTriggerEvent J) : Scope J := { event := event.payload }

def routeCancel (E : Environment J) (definition : SagaDefinitionRecord)
    (event : SagaTriggerEvent J) : SagaProgram J Unit := do
  let key ← Program.lift (E.renderTemplate definition.definition.start.key (eventScope event))
  match ← findTarget definition.sagaKey key with
  | none => pure ()
  | some inst => SagaEngine.cancel E inst.id .cancelledByEvent

def waitsOn (event : SagaTriggerEvent J) (step : SagaStepSpec) : Bool :=
  step.waitFor = some ⟨event.eventName, event.eventVersion⟩

/-- `targets.set(instance.id, instance)` -/
def setTarget (targets : List (SagaInstanceRecord J)) (inst : SagaInstanceRecord J) :
    List (SagaInstanceRecord J) :=
  if targets.any fun t => t.id = inst.id then
    targets.map fun t => if t.id = inst.id then inst else t
  else targets ++ [inst]

/-- The targets found by the `match` keys of the waiting steps. -/
def matchedTargets (E : Environment J) (definition : SagaDefinitionRecord)
    (event : SagaTriggerEvent J) :
    List SagaStepSpec → List (SagaInstanceRecord J) → SagaProgram J (List (SagaInstanceRecord J))
  | [], targets => pure targets
  | step :: rest, targets => do
    match present step.match_ with
    | none => matchedTargets E definition event rest targets
    | some template =>
      let key ← Program.lift (E.renderTemplate template (eventScope event))
      match ← findTarget definition.sagaKey key with
      | none => matchedTargets E definition event rest targets
      | some inst => matchedTargets E definition event rest (setTarget targets inst)

def bufferAll (E : Environment J) (event : SagaTriggerEvent J) :
    List (SagaInstanceRecord J) → SagaProgram J Unit
  | [] => pure ()
  | inst :: rest => do
    SagaEngine.bufferForInstance E
      ⟨inst, event.eventId, event.eventName, event.eventVersion, event.payload⟩
    bufferAll E event rest

def routeWait (E : Environment J) (definition : SagaDefinitionRecord)
    (event : SagaTriggerEvent J) : SagaProgram J Unit := do
  let waitSteps := definition.definition.steps.filter (waitsOn event)
  if waitSteps.isEmpty then pure ()
  else
    let targets ← matchedTargets E definition event waitSteps []
    let parked ← ask (.findWaitingByEvent ⟨event.eventName, event.eventVersion⟩ maxInstancesPerEvent)
    bufferAll E event
      ((parked.filter fun inst => inst.sagaKey = definition.sagaKey).foldl setTarget targets)

def mapContext (E : Environment J) (mapping : Option (Fields String)) (scope : Scope J) :
    Except String (Fields J) :=
  evaluateAll E scope (mapping.getD [])

/-- What a definition makes of a start event once gating has answered: the instance to
insert, if the filter, the overlay and the plan allow one. -/
def startInput (E : Environment J) (definition : SagaDefinitionRecord)
    (event : SagaTriggerEvent J) (features : List String) (settings : Fields J)
    (config : Option SagaCompanyConfigRecord) : Except String (Option (InsertInstanceInput J)) :=
  let spec := definition.definition.start
  let triggerScope : Scope J :=
    { event := event.payload, saga := some [], settings := some settings, steps := some [] }
  match PlanBuilder.build
      { definition := definition.definition, overlay := config.map (·.overlay),
        features := features, defaultMaxAttempts := E.config.defaultMaxAttempts } with
  | none => .ok none
  | some plan => do
    let correlationKey ← E.renderTemplate spec.key triggerScope
    let start ← mapContext E spec.context triggerScope
    .ok (some {
      tenantId := event.tenantId, companyId := event.companyId, sagaKey := definition.sagaKey,
      correlationKey := correlationKey, plan := plan,
      context := { settings := some settings, event := some event.payload, start := some start } })

def startFilter (E : Environment J) (definition : SagaDefinitionRecord)
    (event : SagaTriggerEvent J) (settings : Fields J) : Except String Bool :=
  match present definition.definition.start.when_ with
  | none => .ok true
  | some condition => E.evaluateCondition condition
      { event := event.payload, saga := some [], settings := some settings, steps := some [] }

def tryStart (E : Environment J) (definition : SagaDefinitionRecord)
    (event : SagaTriggerEvent J) : SagaProgram J Unit := do
  -- a gating lookup that fails is logged and ends the start
  match ← ask (.features event.companyId) with
  | .error _ => pure ()
  | .ok features =>
    match ← ask (.settings event.companyId) with
    | .error _ => pure ()
    | .ok settings =>
      if ← Program.lift (startFilter E definition event settings) then
        let config ← ask (.findActive event.tenantId event.companyId definition.sagaKey)
        match ← Program.lift (startInput E definition event features settings config) with
        | none => pure ()
        | some input => SagaEngine.createAndAdvance E input
      else pure ()

def routeAll (E : Environment J) (event : SagaTriggerEvent J) :
    List SagaDefinitionRecord → SagaProgram J Unit
  | [] => pure ()
  | definition :: rest => do
    if isCancelEvent definition event then routeCancel E definition event
    routeWait E definition event
    routeAll E event rest

def route (E : Environment J) (event : SagaTriggerEvent J) : SagaProgram J Unit := do
  match ← ask (.findActiveByEvent event.eventName event.eventVersion) with
  | some start => tryStart E start event
  | none =>
    let active ← ask .listActive
    routeAll E event active

/-- The trigger event of an envelope that is not a saga's own and names tenant and company. -/
def triggerEvent (envelope : OutboxEnvelope J) : Option (SagaTriggerEvent J) :=
  if envelope.aggregateType = "Saga" then none
  else
    match present envelope.tenantId, present envelope.companyId with
    | some tenantId, some companyId => some {
        eventId := envelope.eventId, eventName := envelope.eventType,
        eventVersion := envelope.eventVersion.getD 1, tenantId := tenantId,
        companyId := companyId, payload := envelope.payload }
    | _, _ => none

def accept (E : Environment J) (envelope : OutboxEnvelope J) : SagaProgram J Unit :=
  match triggerEvent envelope with
  | none => pure ()
  | some event => route E event

end DddBoilerplate.Saga.SagaRouter
