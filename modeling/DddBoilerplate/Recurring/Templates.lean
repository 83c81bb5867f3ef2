/- module: DddBoilerplate/Recurring/Templates
   generality: I
   digest: A recurring template with its scheduled jobs and executions: the commands on it, and a firing. -/

import DddBoilerplate.Recurring.Engine

set_option autoImplicit false
set_option relaxedAutoImplicit false
set_option linter.all false

namespace DddBoilerplate.Recurring

section Records

inductive TemplateStatus where
  | active | paused | cancelled | completed
  deriving DecidableEq

inductive TriggerType where
  | time | event
  deriving DecidableEq

inductive ExecutionStatus where
  | inProgress | success | failed | skipped
  deriving DecidableEq

inductive JobStatus where
  | pending | claimed | running | failed | suspended | cancelled
  deriving DecidableEq

/-- The columns a template is created with; a JSON value is kept as its text. -/
structure TemplateColumns where
  tenantId : Option String
  targetEntityType : String
  partyId : Option String
  partyType : Option String
  currency : String
  triggerType : TriggerType
  eventName : Option String
  frequency : Option RecurrenceFrequency
  interval : Option Int
  startDate : Option Date
  endDate : Option Date
  timeZone : String
  autoPost : Bool
  headerOverrides : Option String
  generationCondition : Option String
  lines : List String
  deriving DecidableEq

/-- A row of `recurring_templates`. -/
structure RecurringTemplate extends TemplateColumns where
  id : String
  status : TemplateStatus
  nextRunDate : Option Date
  lastRunDate : Option Date
  deriving DecidableEq

/-- A row of `scheduled_jobs`. -/
structure ScheduledJob where
  id : String
  jobType : String
  tenantId : Option String
  aggregateType : String
  aggregateId : String
  nextRunAt : Date
  status : JobStatus
  version : Nat
  deriving DecidableEq

/-- A row of `recurring_executions`, unique by its template and its trigger key. -/
structure RecurringExecution where
  id : String
  tenantId : Option String
  scheduleJobId : Option String
  runDate : Option Date
  sourceEventId : Option String
  triggerKey : String
  generatedDocumentType : String
  generatedDocumentId : Option String
  conditionEvaluation : Option String
  status : ExecutionStatus
  skipReason : Option String
  errorMessage : Option String
  deriving DecidableEq

/-- `RecurringOccurrenceRequestedPayload` -/
structure OccurrenceRequested where
  executionId : String
  recurringTemplateId : String
  targetEntityType : String
  partyId : Option String
  partyType : Option String
  currency : String
  autoPost : Bool
  triggerKey : String
  traceId : String
  headerOverrides : Option String
  lines : List String
  tenantId : Option String
  eventPayload : Option String
  deriving DecidableEq

/-- One template and the rows that belong to it: `aggregateId` and `recurringTemplateId` select
no others. -/
structure RecurringState where
  template : Option RecurringTemplate
  jobs : List ScheduledJob
  executions : List RecurringExecution
  requested : List OccurrenceRequested

def RecurringState.empty : RecurringState := ⟨none, [], [], []⟩

end Records

section Scheduler

/-- A job that is due, claimed, or being executed. -/
def ScheduledJob.live (job : ScheduledJob) : Bool :=
  job.status = .pending || job.status = .claimed || job.status = .running

/-- `SchedulerPort.schedule` -/
def schedule (jobs : List ScheduledJob) (id jobType aggregateType aggregateId : String)
    (nextRunAt : Date) (tenantId : Option String) : List ScheduledJob :=
  jobs ++ [⟨id, jobType, tenantId, aggregateType, aggregateId, nextRunAt, .pending, 1⟩]

def ScheduledJob.cancel (job : ScheduledJob) : ScheduledJob :=
  if job.status ≠ .cancelled then { job with status := .cancelled, version := job.version + 1 }
  else job

def ScheduledJob.reschedule (nextRunAt : Date) (job : ScheduledJob) : ScheduledJob :=
  if job.status ≠ .cancelled then
    { job with nextRunAt := nextRunAt, status := .pending, version := job.version + 1 }
  else job

def cancelByAggregate (jobs : List ScheduledJob) : List ScheduledJob :=
  jobs.map ScheduledJob.cancel

def rescheduleByAggregate (jobs : List ScheduledJob) (nextRunAt : Date) : List ScheduledJob :=
  jobs.map (ScheduledJob.reschedule nextRunAt)

/-- A job claimed when it is due, and marked running when a worker takes it. -/
def ScheduledJob.advance (id : String) (was becomes : JobStatus) (job : ScheduledJob) :
    ScheduledJob :=
  if job.id = id ∧ job.status = was then { job with status := becomes } else job

end Scheduler

section Commands

/-- `TenantScope.assertVisible` -/
def assertVisible (resourceTenantId requestTenantId : Option String) : Except String Unit :=
  match requestTenantId, resourceTenantId with
  | some request, some resource =>
    if request ≠ "" ∧ resource ≠ "" ∧ resource ≠ request then .error "Not Found" else .ok ()
  | _, _ => .ok ()

/-- `PARTY_TYPE_BY_TARGET_ENTITY` -/
def partyTypeByTargetEntity : String → Option String
  | "PurchaseOrder" => some "VENDOR"
  | "Bill" => some "VENDOR"
  | "Invoice" => some "CUSTOMER"
  | _ => none

def validateParty (input : TemplateColumns) : Except String Unit :=
  match input.partyType, partyTypeByTargetEntity input.targetEntityType with
  | some partyType, some expected =>
    if partyType ≠ "" ∧ partyType ≠ expected then
      .error s!"partyType '{partyType}' does not correlate with targetEntityType '{input.targetEntityType}'"
    else .ok ()
  | _, _ => .ok ()

def validateTrigger (input : TemplateColumns) : Except String Unit :=
  match input.triggerType with
  | .time =>
    if input.frequency = none ∨ input.interval.getD 0 = 0 ∨ input.startDate = none then
      .error "triggerType 'TIME' requires its matching fields to be set"
    else .ok ()
  | .event =>
    if input.eventName.getD "" = "" then
      .error "triggerType 'EVENT' requires its matching fields to be set"
    else .ok ()

/-- `CreateRecurringTemplateUseCase.validate` -/
def validate (input : TemplateColumns) : Except String Unit := do
  validateParty input
  validateTrigger input
  if input.lines.isEmpty then .error "RecurringTemplate.lines must be a non-empty array"

/-- `CreateRecurringTemplateUseCase.execute` -/
def create (s : RecurringState) (id jobId : String) (input : TemplateColumns) :
    Except String RecurringState := do
  validate input
  let template : RecurringTemplate :=
    { input with id := id, status := .active, nextRunDate := input.startDate, lastRunDate := none }
  match template.triggerType, template.nextRunDate with
  | .time, some nextRunAt =>
    pure { s with
      template := some template
      jobs := schedule s.jobs jobId "Recurring" "RecurringTemplate" id nextRunAt input.tenantId }
  | _, _ => pure { s with template := some template }

/-- What pausing and cancelling share: the template as it is seen, and its jobs cancelled. -/
def stop (s : RecurringState) (status : TemplateStatus) (requestTenantId : Option String) :
    Except String RecurringState :=
  match s.template with
  | none => .error "RecurringTemplate not found"
  | some template => do
    assertVisible template.tenantId requestTenantId
    pure { s with
      template := some { template with status := status }
      jobs := if template.triggerType = .time then cancelByAggregate s.jobs else s.jobs }

/-- `PauseRecurringTemplateUseCase.execute` -/
def pause (s : RecurringState) (requestTenantId : Option String) : Except String RecurringState :=
  stop s .paused requestTenantId

/-- `CancelRecurringTemplateUseCase.execute` -/
def cancel (s : RecurringState) (requestTenantId : Option String) :
    Except String RecurringState :=
  stop s .cancelled requestTenantId

variable (dayjs : Dayjs)

/-- The date a resumed template runs next: counted from the day of the call, without an anchor. -/
def resumeDate (template : RecurringTemplate) (today : Date) : Except String Date :=
  match template.frequency, template.interval with
  | some frequency, some interval =>
    if interval = 0 then .error "RecurringTemplate is missing TIME trigger fields"
    else nextRunDate dayjs frequency interval today template.timeZone none
  | _, _ => .error "RecurringTemplate is missing TIME trigger fields"

/-- `ResumeRecurringTemplateUseCase.execute` -/
def resume (s : RecurringState) (requestTenantId : Option String) (today : Date) :
    Except String RecurringState :=
  match s.template with
  | none => .error "RecurringTemplate not found"
  | some template => do
    assertVisible template.tenantId requestTenantId
    match template.triggerType with
    | .event => pure { s with template := some { template with status := .active } }
    | .time =>
      let next ← resumeDate dayjs template today
      pure { s with
        template := some { template with status := .active, nextRunDate := some next }
        jobs := rescheduleByAggregate s.jobs next }

end Commands

section Generation

/-- What a firing carries; a firing of the scheduler has a job, one of an event has none. -/
structure ScheduledJobPayload where
  jobId : Option String
  tenantId : Option String
  aggregateId : Option String
  sourceEventId : Option String
  eventPayload : Option String

/-- What a firing meets on its way: fresh identifiers, the clock, the condition's evaluation, and
whether the event can be appended. -/
structure Surroundings where
  executionId : String
  traceId : String
  today : Date
  evaluation : Except String (Bool × String)
  appending : Except String Unit

/-- `toISOString().slice(0, 10)` -/
def formatDate (date : Date) : String :=
  String.ofList ((Calendar.toISOString (date * 86400000)).toList.take 10)

/-- The key of the occurrence a firing claims; the date of a template without one is not a
date. -/
def triggerKey (template : RecurringTemplate) (payload : ScheduledJobPayload) :
    Except String String :=
  match payload.jobId with
  | some _ =>
    match template.nextRunDate with
    | some runDate => .ok (formatDate runDate)
    | none => .error "Cannot read properties of null (reading 'toISOString')"
  | none => .ok (payload.sourceEventId.getD "")

def runDate (template : RecurringTemplate) (payload : ScheduledJobPayload) : Option Date :=
  payload.jobId.bind fun _ => template.nextRunDate

/-- The row `claim` inserts. -/
def claimed (template : RecurringTemplate) (payload : ScheduledJobPayload) (key : String)
    (world : Surroundings) : RecurringExecution where
  id := world.executionId
  tenantId := template.tenantId.orElse fun _ => payload.tenantId
  scheduleJobId := payload.jobId
  runDate := runDate template payload
  sourceEventId := if payload.jobId = none then payload.sourceEventId else none
  triggerKey := key
  generatedDocumentType := template.targetEntityType
  generatedDocumentId := none
  conditionEvaluation := none
  status := .inProgress
  skipReason := none
  errorMessage := none

/-- `RecurringExecutionRepository.skip` and `.fail` on the execution just claimed. -/
def RecurringExecution.skip (execution : RecurringExecution) (reason : String)
    (evaluated : Option String) : RecurringExecution :=
  { execution with
    status := .skipped, skipReason := some reason, conditionEvaluation := evaluated }

def RecurringExecution.fail (execution : RecurringExecution) (message : String) :
    RecurringExecution :=
  { execution with status := .failed, errorMessage := some message }

def occurrenceRequested (template : RecurringTemplate) (payload : ScheduledJobPayload)
    (key : String) (world : Surroundings) : OccurrenceRequested where
  executionId := world.executionId
  recurringTemplateId := template.id
  targetEntityType := template.targetEntityType
  partyId := template.partyId
  partyType := template.partyType
  currency := template.currency
  autoPost := template.autoPost
  triggerKey := key
  traceId := world.traceId
  headerOverrides := template.headerOverrides
  lines := template.lines
  tenantId := template.tenantId.orElse fun _ => payload.tenantId
  eventPayload := if payload.jobId = none then payload.eventPayload else none

/-- What becomes of a claimed execution of an active template, and the event it appends. -/
def settle (template : RecurringTemplate) (payload : ScheduledJobPayload) (key : String)
    (world : Surroundings) : RecurringExecution × List OccurrenceRequested :=
  let execution := claimed template payload key world
  let append : RecurringExecution × List OccurrenceRequested :=
    match world.appending with
    | .ok () => (execution, [occurrenceRequested template payload key world])
    | .error message => (execution.fail message, [])
  match template.generationCondition with
  | none => append
  | some _ =>
    match world.evaluation with
    | .ok (true, _) => append
    | .ok (false, evaluated) => (execution.skip "ConditionNotMet" (some evaluated), [])
    | .error message => (execution.fail message, [])

variable (dayjs : Dayjs)

/-- The date after the one that has run; its first default is the start, its second the clock. -/
def followingDate (template : RecurringTemplate) (frequency : RecurrenceFrequency)
    (interval : Int) (today : Date) : Except String Date :=
  nextRunDate dayjs frequency interval
    ((template.nextRunDate.orElse fun _ => template.startDate).getD today) template.timeZone
    template.startDate

/-- `RecurringGenerationHandler.reschedule` -/
def reschedule (s : RecurringState) (template : RecurringTemplate) (today : Date) :
    Except String RecurringState :=
  match template.triggerType, template.frequency, template.interval with
  | .time, some frequency, some interval =>
    if interval = 0 then .ok s
    else do
      let last := (template.nextRunDate.orElse fun _ => template.startDate).getD today
      let next ← followingDate dayjs template frequency interval today
      if template.endDate.any (· < next) then
        pure { s with
          template := some { template with status := .completed, lastRunDate := some last }
          jobs := cancelByAggregate s.jobs }
      else
        pure { s with
          template := some { template with nextRunDate := some next, lastRunDate := some last }
          jobs := rescheduleByAggregate s.jobs next }
  | _, _, _ => .ok s

/-- What a firing checks before it claims. -/
def admitted (s : RecurringState) (payload : ScheduledJobPayload) :
    Except String RecurringTemplate := do
  match payload.aggregateId.getD "" with
  | "" =>
    .error "ScheduledJobPayload.aggregateId is required for RecurringGenerationHandler"
  | aggregateId =>
    match s.template.filter (·.id = aggregateId) with
    | none => .error s!"RecurringTemplate {aggregateId} not found"
    | some template =>
      match payload.tenantId, template.tenantId with
      | some payloadTenant, some tenantId =>
        if payloadTenant ≠ "" ∧ tenantId ≠ "" ∧ payloadTenant ≠ tenantId then
          .error s!"Tenant mismatch on recurring generation: template {template.id} belongs to '{tenantId}' but payload claimed '{payloadTenant}'"
        else .ok template
      | _, _ => .ok template

/-- `RecurringGenerationHandler.handle`, one transaction: an error leaves everything as it was. A
claim that meets an execution with its key leaves nothing either. -/
def handle (s : RecurringState) (payload : ScheduledJobPayload) (world : Surroundings) :
    Except String RecurringState := do
  let template ← admitted s payload
  let key ← triggerKey template payload
  if s.executions.any (·.triggerKey = key) then pure s
  else if template.status ≠ .active then
    let execution := (claimed template payload key world).skip "TemplateNotActive" none
    pure { s with executions := s.executions ++ [execution] }
  else
    let (execution, events) := settle template payload key world
    reschedule dayjs
      { s with
        executions := s.executions ++ [execution]
        requested := s.requested ++ events }
      template world.today

end Generation

section Runs

/-- What is done to a template, one after the other. A firing names the date of the slot it was
dispatched for, which its payload does not carry. -/
inductive Command where
  | create (id jobId : String) (input : TemplateColumns)
  | pause (requestTenantId : Option String)
  | resume (requestTenantId : Option String) (today : Date)
  | cancel (requestTenantId : Option String)
  | claim (jobId : String)
  | start (jobId : String)
  | fire (slot : Date) (payload : ScheduledJobPayload) (world : Surroundings)

variable (dayjs : Dayjs)

/-- A command that fails is rolled back. -/
def attempt (s : RecurringState) (outcome : Except String RecurringState) : RecurringState :=
  match outcome with
  | .ok s' => s'
  | .error _ => s

def step (s : RecurringState) : Command → RecurringState
  | .create id jobId input =>
    if s.template = none then attempt s (create s id jobId input) else s
  | .pause requestTenantId => attempt s (pause s requestTenantId)
  | .resume requestTenantId today => attempt s (resume dayjs s requestTenantId today)
  | .cancel requestTenantId => attempt s (cancel s requestTenantId)
  | .claim jobId => { s with jobs := s.jobs.map (ScheduledJob.advance jobId .pending .claimed) }
  | .start jobId => { s with jobs := s.jobs.map (ScheduledJob.advance jobId .claimed .running) }
  | .fire _ payload world => attempt s (handle dayjs s payload world)

/-- The state after a sequence of commands. -/
def after (commands : List Command) : RecurringState :=
  commands.foldl (step dayjs) RecurringState.empty

theorem after_snoc (commands : List Command) (command : Command) :
    after dayjs (commands ++ [command]) = step dayjs (after dayjs commands) command := by
  simp [after]

end Runs

end DddBoilerplate.Recurring
