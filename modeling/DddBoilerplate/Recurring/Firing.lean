/- module: DddBoilerplate/Recurring/Firing
   generality: I
   digest: What a command or a firing can do to a template, its jobs and its executions. -/

import DddBoilerplate.Recurring.Templates

set_option autoImplicit false
set_option relaxedAutoImplicit false
set_option linter.all false

namespace DddBoilerplate.Recurring

variable {dayjs : Dayjs} {s s' : RecurringState} {template : RecurringTemplate}
variable {payload : ScheduledJobPayload} {world : Surroundings}

theorem template_of_admitted (h : admitted s payload = .ok template) :
    s.template = some template := by
  simp only [admitted] at h
  split at h
  · cases h
  · split at h
    · cases h
    · rename_i aggregateId _ found hfound
      have htemplate : found = template := by
        split at h
        · split at h
          · cases h
          · exact Except.ok.inj h
        · exact Except.ok.inj h
      rw [← htemplate]
      exact (Option.filter_eq_some_iff.mp hfound).1

/-- A template of the scheduler is created with its recurrence and its start. -/
theorem fields_of_validate {input : TemplateColumns} (h : validate input = .ok ())
    (htrigger : input.triggerType = .time) :
    ∃ frequency interval start, input.frequency = some frequency ∧
      input.interval = some interval ∧ interval ≠ 0 ∧ input.startDate = some start := by
  simp only [validate, validateTrigger, htrigger, bind, Except.bind] at h
  cases hparty : validateParty input with
  | error message =>
    rw [hparty] at h
    cases h
  | ok u =>
    rw [hparty] at h
    simp only at h
    split at h
    · cases h
    · rename_i hmissing
      split at hmissing
      · cases hmissing
      · rename_i hset
        simp only [not_or] at hset
        obtain ⟨hfrequency, hinterval, hstart⟩ := hset
        obtain ⟨frequency, hfrequency⟩ := Option.ne_none_iff_exists'.mp hfrequency
        obtain ⟨start, hstart⟩ := Option.ne_none_iff_exists'.mp hstart
        cases hinterval' : input.interval with
        | none => simp [hinterval'] at hinterval
        | some interval =>
          refine ⟨frequency, interval, start, hfrequency, rfl, ?_, hstart⟩
          simpa [hinterval'] using hinterval

/-- What creating a template does: it is active on its start, with a job if it has dates. -/
theorem create_cases {id jobId : String} {input : TemplateColumns}
    (h : create s id jobId input = .ok s') :
    validate input = .ok () ∧ s'.executions = s.executions ∧
      s'.template = some { input with
        id := id, status := .active, nextRunDate := input.startDate, lastRunDate := none } := by
  simp only [create, bind, Except.bind] at h
  cases hvalid : validate input with
  | error message =>
    rw [hvalid] at h
    cases h
  | ok u =>
    rw [hvalid] at h
    simp only at h
    split at h
    · obtain rfl := Except.ok.inj h
      exact ⟨rfl, rfl, rfl⟩
    · obtain rfl := Except.ok.inj h
      exact ⟨rfl, rfl, rfl⟩

/-- What pausing or cancelling a template does, where it goes through. -/
theorem stop_cases {status : TemplateStatus} {requestTenantId : Option String}
    (h : stop s status requestTenantId = .ok s') :
    ∃ template, s.template = some template ∧ s' = { s with
      template := some { template with status := status }
      jobs := if template.triggerType = .time then cancelByAggregate s.jobs else s.jobs } := by
  simp only [stop] at h
  split at h
  · cases h
  · rename_i template htemplate
    simp only [bind, Except.bind] at h
    split at h
    · cases h
    · exact ⟨template, htemplate, (Except.ok.inj h).symm⟩

/-- What resuming a template does, where it goes through. -/
theorem resume_cases {requestTenantId : Option String} {today : Date}
    (h : resume dayjs s requestTenantId today = .ok s') :
    ∃ template, s.template = some template ∧
      assertVisible template.tenantId requestTenantId = .ok () ∧
      (template.triggerType = .event ∧
          s' = { s with template := some { template with status := .active } } ∨
        template.triggerType = .time ∧ ∃ next, resumeDate dayjs template today = .ok next ∧
          s' = { s with
            template := some { template with status := .active, nextRunDate := some next }
            jobs := rescheduleByAggregate s.jobs next }) := by
  simp only [resume] at h
  split at h
  · cases h
  rename_i template htemplate
  simp only [bind, Except.bind] at h
  cases hvisible : assertVisible template.tenantId requestTenantId with
  | error message =>
    rw [hvisible] at h
    cases h
  | ok u =>
    rw [hvisible] at h
    refine ⟨template, htemplate, hvisible, ?_⟩
    cases htrigger : template.triggerType with
    | event =>
      simp only [htrigger] at h
      exact .inl ⟨rfl, (Except.ok.inj h).symm⟩
    | time =>
      simp only [htrigger] at h
      cases hnext : resumeDate dayjs template today with
      | error message =>
        rw [hnext] at h
        cases h
      | ok next =>
        rw [hnext] at h
        exact .inr ⟨rfl, next, rfl, (Except.ok.inj h).symm⟩

/-- Moving a template on: it goes to the following date with its jobs, or it is completed. -/
inductive Moves (dayjs : Dayjs) (s : RecurringState) (template : RecurringTemplate) (today : Date) :
    RecurringState → Prop where
  | stays (h : template.triggerType = .event ∨ template.frequency = none ∨
      template.interval = none ∨ template.interval = some 0) : Moves dayjs s template today s
  | completes (frequency : RecurrenceFrequency) (interval : Int) (last next : Date)
      (htime : template.triggerType = .time) (hfrequency : template.frequency = some frequency)
      (hinterval : template.interval = some interval)
      (hnext : followingDate dayjs template frequency interval today = .ok next)
      (hend : template.endDate.any (· < next) = true) :
      Moves dayjs s template today
        { s with
          template := some { template with status := .completed, lastRunDate := some last }
          jobs := cancelByAggregate s.jobs }
  | advances (frequency : RecurrenceFrequency) (interval : Int) (last next : Date)
      (htime : template.triggerType = .time) (hfrequency : template.frequency = some frequency)
      (hinterval : template.interval = some interval)
      (hnext : followingDate dayjs template frequency interval today = .ok next)
      (hend : template.endDate.any (· < next) = false) :
      Moves dayjs s template today
        { s with
          template := some { template with nextRunDate := some next, lastRunDate := some last }
          jobs := rescheduleByAggregate s.jobs next }

theorem moves_of_reschedule {today : Date}
    (h : reschedule dayjs s template today = .ok s') : Moves dayjs s template today s' := by
  simp only [reschedule] at h
  split at h
  · rename_i frequency interval htime hfrequency hinterval
    split at h
    · rename_i hzero
      obtain rfl := Except.ok.inj h
      exact .stays (.inr (.inr (.inr (by rw [hinterval, hzero]))))
    · cases hnext : followingDate dayjs template frequency interval today with
      | error message =>
        rw [hnext] at h
        cases h
      | ok next =>
        rw [hnext] at h
        simp only [bind, Except.bind, pure, Except.pure] at h
        split at h
        · rename_i hend
          obtain rfl := Except.ok.inj h
          exact .completes frequency interval _ next htime hfrequency hinterval hnext hend
        · rename_i hend
          obtain rfl := Except.ok.inj h
          exact .advances frequency interval _ next htime hfrequency hinterval hnext
            (Bool.eq_false_iff.mpr hend)
  · rename_i hnone
    obtain rfl := Except.ok.inj h
    refine .stays ?_
    cases htime : template.triggerType with
    | event => exact .inl rfl
    | time =>
      cases hfrequency : template.frequency with
      | none => exact .inr (.inl rfl)
      | some frequency =>
        cases hinterval : template.interval with
        | none => exact .inr (.inr (.inl rfl))
        | some interval => exact absurd hinterval (hnone frequency interval htime hfrequency)

/-- What a firing that is not rolled back does: it meets an execution with its key, it claims one
and skips it for a template that is not active, or it claims one and moves the template on. -/
inductive Fires (dayjs : Dayjs) (s : RecurringState) (payload : ScheduledJobPayload)
    (world : Surroundings) (template : RecurringTemplate) (key : String) :
    RecurringState → Prop where
  | collides (hclaimed : s.executions.any (·.triggerKey = key) = true) :
      Fires dayjs s payload world template key s
  | skips (hfree : s.executions.any (·.triggerKey = key) = false)
      (hstatus : template.status ≠ .active) :
      Fires dayjs s payload world template key
        { s with
          executions := s.executions ++
            [(claimed template payload key world).skip "TemplateNotActive" none] }
  | runs (hfree : s.executions.any (·.triggerKey = key) = false)
      (hstatus : template.status = .active) (s' : RecurringState)
      (hmoves : Moves dayjs
        { s with
          executions := s.executions ++ [(settle template payload key world).1]
          requested := s.requested ++ (settle template payload key world).2 }
        template world.today s') :
      Fires dayjs s payload world template key s'

theorem fires_of_handle (h : handle dayjs s payload world = .ok s') :
    ∃ template key, admitted s payload = .ok template ∧ triggerKey template payload = .ok key ∧
      Fires dayjs s payload world template key s' := by
  simp only [handle] at h
  cases hadmitted : admitted s payload with
  | error message =>
    rw [hadmitted] at h
    cases h
  | ok template =>
    rw [hadmitted] at h
    simp only [bind, Except.bind] at h
    cases hkey : triggerKey template payload with
    | error message =>
      rw [hkey] at h
      cases h
    | ok key =>
      rw [hkey] at h
      refine ⟨template, key, rfl, hkey, ?_⟩
      simp only [pure, Except.pure] at h
      split at h
      · rename_i hclaimed
        obtain rfl := Except.ok.inj h
        exact .collides hclaimed
      · rename_i hclaimed
        have hfree := Bool.eq_false_iff.mpr hclaimed
        split at h
        · rename_i hstatus
          obtain rfl := Except.ok.inj h
          exact .skips hfree hstatus
        · rename_i hstatus
          exact .runs hfree (not_not.mp hstatus) s' (moves_of_reschedule h)

/-- The key and the date of the execution a firing claims, whatever becomes of it. -/
theorem settle_claimed (key : String) :
    (settle template payload key world).1.triggerKey = key ∧
      (settle template payload key world).1.runDate = runDate template payload ∧
      (settle template payload key world).1.id = world.executionId := by
  simp only [settle]
  split
  · cases world.appending with
    | ok u => exact ⟨rfl, rfl, rfl⟩
    | error message => exact ⟨rfl, rfl, rfl⟩
  · split
    · cases world.appending with
      | ok u => exact ⟨rfl, rfl, rfl⟩
      | error message => exact ⟨rfl, rfl, rfl⟩
    · exact ⟨rfl, rfl, rfl⟩
    · exact ⟨rfl, rfl, rfl⟩

/-- A firing at the template's own date asks for a later one. -/
theorem lt_followingDate {frequency : RecurrenceFrequency} {interval : Int}
    {today date start next : Date} (hdate : template.nextRunDate = some date)
    (hstart : template.startDate = some start)
    (h : followingDate dayjs template frequency interval today = .ok next) : date < next := by
  simp only [followingDate, hdate, hstart, Option.orElse_some, Option.getD_some] at h
  exact lt_nextRunDate h

end DddBoilerplate.Recurring
