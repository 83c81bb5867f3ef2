/- module: DddBoilerplate/Saga/Environment
   generality: I
   digest: Expression scopes, and what the saga module is wired to: evaluator, configuration, actions, index. -/

import DddBoilerplate.Saga.Types

set_option autoImplicit false
set_option relaxedAutoImplicit false
set_option linter.all false

namespace DddBoilerplate.Saga

variable {J : Type}

/-- An entry of the step execution log. -/
structure StepEntry (J : Type) where
  status : SagaStepStatus
  output : Fields J

/-- Expression scope: the frozen context plus the step execution log. A part that is absent
is a name the scope does not have. -/
structure Scope (J : Type) where
  event : Fields J
  saga : Option (Fields J) := none
  settings : Option (Fields J) := none
  steps : Option (Fields (StepEntry J)) := none

/-- `scope.steps[stepId] = entry` -/
def Scope.log (scope : Scope J) (stepId : String) (entry : StepEntry J) : Scope J :=
  { scope with steps := some ((scope.steps.getD []).assign stepId entry) }

/-- What the module is wired to. Values are of any type `J` with the strings in it; the
expression language enters through its four functions, each of which may throw. -/
structure Environment (J : Type) where
  string : String → J
  evaluateCondition : String → Scope J → Except String Bool
  evaluateExpression : String → Scope J → Except String J
  renderTemplate : String → Scope J → Except String String
  parseDuration : String → Except String Nat
  config : ISagaConfig
  /-- `SagaActionRegistry.has` -/
  registered : String → Bool
  /-- The partial unique index on live instances: the first cannot be stored beside the second. -/
  conflict : SagaInstanceRecord J → SagaInstanceRecord J → Bool

/-- An environment for definitions without conditions, inputs or placeholders: there a
template renders as itself and no other expression is evaluated. The index keeps one live
instance per company and correlation key. -/
def Environment.literal (config : ISagaConfig) (registered : String → Bool) :
    Environment String where
  string := id
  evaluateCondition source _ := .error source
  evaluateExpression source _ := .error source
  renderTemplate template _ := .ok template
  parseDuration duration := .error duration
  config := config
  registered := registered
  conflict inst other :=
    inst.tenantId == other.tenantId && inst.companyId == other.companyId &&
      inst.sagaKey == other.sagaKey && inst.correlationKey == other.correlationKey &&
      !inst.status.isTerminal && !other.status.isTerminal

/-- The defaults of `saga.config.ts`. -/
def ISagaConfig.default : ISagaConfig where
  workerLeaseSeconds := 60
  claimBatchSize := 20
  fairnessCap := 5
  retryBaseDelayMs := 1000
  retryMaxDelayMs := 600000
  defaultMaxAttempts := 5
  inboxRetentionDays := 30

def buildScope (E : Environment J) (inst : SagaInstanceRecord J)
    (stepRows : List (SagaStepRecord J)) : Scope J where
  event := inst.context.event.getD []
  saga := some (((inst.context.start.getD []).assign "key" (E.string inst.correlationKey)).assign
    "correlationKey" (E.string inst.correlationKey))
  settings := some (inst.context.settings.getD [])
  steps := some (stepRows.foldl
    (fun steps row => steps.assign row.stepId ⟨row.status, row.output.getD []⟩) [])

/-- Evaluates every expression of a mapping, in order. -/
def evaluateAll (E : Environment J) (scope : Scope J) : Fields String → Except String (Fields J)
  | [] => .ok []
  | (field, expression) :: rest => do
    let value ← E.evaluateExpression expression scope
    let values ← evaluateAll E scope rest
    .ok ((field, value) :: values)

/-- Resolve a step's `input` expressions against the scope. -/
def buildInput (E : Environment J) (step : SagaPlanStep) (scope : Scope J) :
    Except String (Option (Fields J)) :=
  match step.input with
  | none => .ok none
  | some input => (evaluateAll E scope input).map some

/-- `step.if && !evaluateCondition(step.if, scope)` -/
def bypasses (E : Environment J) (step : SagaPlanStep) (scope : Scope J) : Except String Bool :=
  match present step.if_ with
  | none => .ok false
  | some condition => (E.evaluateCondition condition scope).map not

/-- The event passes a WAIT step's `match` and `when`. -/
def accepts (E : Environment J) (inst : SagaInstanceRecord J) (step : SagaPlanStep)
    (scope : Scope J) (row : SagaInboxRecord J) : Except String Bool := do
  let eventScope := { scope with event := row.payload }
  let matched ← match present step.match_ with
    | none => .ok true
    | some template => do .ok ((← E.renderTemplate template eventScope) == inst.correlationKey)
  if matched then
    match present step.when_ with
    | none => .ok true
    | some condition => E.evaluateCondition condition eventScope
  else .ok false

/-- The first buffered event that passes. -/
def firstAccepted (E : Environment J) (inst : SagaInstanceRecord J) (step : SagaPlanStep)
    (scope : Scope J) : List (SagaInboxRecord J) → Except String (Option (SagaInboxRecord J))
  | [] => .ok none
  | row :: rest => do
    if ← accepts E inst step scope row then .ok (some row)
    else firstAccepted E inst step scope rest

theorem accepts_of_firstAccepted {E : Environment J} {inst : SagaInstanceRecord J}
    {step : SagaPlanStep} {scope : Scope J} {rows : List (SagaInboxRecord J)}
    {row : SagaInboxRecord J} (h : firstAccepted E inst step scope rows = .ok (some row)) :
    row ∈ rows ∧ accepts E inst step scope row = .ok true := by
  induction rows with
  | nil => simp [firstAccepted] at h
  | cons r rest ih =>
    rw [firstAccepted] at h
    cases hr : accepts E inst step scope r with
    | error e => simp [hr, bind, Except.bind] at h
    | ok b =>
      cases b with
      | true =>
        simp only [hr, bind, Except.bind, if_true, Except.ok.injEq, Option.some.injEq] at h
        subst h
        exact ⟨List.mem_cons_self, hr⟩
      | false =>
        have hrest := ih (by simpa [hr, bind, Except.bind] using h)
        exact ⟨List.mem_cons_of_mem _ hrest.1, hrest.2⟩

theorem rejects_of_firstAccepted_none {E : Environment J} {inst : SagaInstanceRecord J}
    {step : SagaPlanStep} {scope : Scope J} {rows : List (SagaInboxRecord J)}
    (h : firstAccepted E inst step scope rows = .ok none) :
    ∀ row ∈ rows, accepts E inst step scope row = .ok false := by
  induction rows with
  | nil => simp
  | cons r rest ih =>
    rw [firstAccepted] at h
    cases hr : accepts E inst step scope r with
    | error e => simp [hr, bind, Except.bind] at h
    | ok b =>
      cases b with
      | true => simp [hr, bind, Except.bind] at h
      | false =>
        have hrest := ih (by simpa [hr, bind, Except.bind] using h)
        intro row hrow
        rcases List.mem_cons.mp hrow with rfl | hrow
        · exact hr
        · exact hrest row hrow

end DddBoilerplate.Saga
