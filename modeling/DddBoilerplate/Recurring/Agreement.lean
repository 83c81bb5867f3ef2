/- module: DddBoilerplate/Recurring/Agreement
   generality: I
   digest: A template and its scheduled job agree exactly as long as no one resumes a stopped one. -/

import Mathlib.Data.List.Induction
import DddBoilerplate.Recurring.Firing

set_option autoImplicit false
set_option relaxedAutoImplicit false
set_option linter.all false

namespace DddBoilerplate.Recurring

variable (dayjs : Dayjs)

/-- A date of the series `startDate + k * interval` of a template. -/
def OnSeries (template : TemplateColumns) (date : Date) : Prop :=
  ∃ frequency interval start k, template.frequency = some frequency ∧
    template.interval = some interval ∧ template.startDate = some start ∧
    date = occurrence dayjs frequency interval.toNat template.timeZone start k

/-- An active template has one live job, due on the template's next date, a date of its series;
any other template has none. -/
structure Agrees (s : RecurringState) : Prop where
  active : ∀ template, s.template = some template → template.triggerType = .time →
    template.status = .active → ∃ job, s.jobs.filter ScheduledJob.live = [job] ∧
      template.nextRunDate = some job.nextRunAt ∧
      OnSeries dayjs template.toTemplateColumns job.nextRunAt
  stopped : ∀ template, s.template = some template → template.triggerType = .time →
    template.status ≠ .active → s.jobs.filter ScheduledJob.live = []

/-- The template has been cancelled, or is completed. -/
def Closed (s : RecurringState) : Prop :=
  ∃ template, s.template = some template ∧ template.triggerType = .time ∧
    (template.status = .cancelled ∨ template.status = .completed)

def Active (s : RecurringState) : Prop :=
  ∃ template, s.template = some template ∧ template.status = .active

/-- Template and job agree between all commands, and what is closed stays so. -/
structure Coherent (commands : List Command) : Prop where
  agrees : ∀ before, before <+: commands → Agrees dayjs (after dayjs before)
  closed : ∀ before later, before ++ later <+: commands → Closed (after dayjs before) →
    ¬ Active (after dayjs (before ++ later))

/-- A resumption that goes through finds its template active, and its date on the series. -/
def Allowed (s : RecurringState) : Command → Prop
  | .resume requestTenantId today => ∀ template date, s.template = some template →
      template.triggerType = .time → assertVisible template.tenantId requestTenantId = .ok () →
      resumeDate dayjs template today = .ok date →
      template.status = .active ∧ OnSeries dayjs template.toTemplateColumns date
  | _ => True

/-- What a template is between commands: active with its job, or stopped with its job cancelled. -/
inductive Standing (s : RecurringState) : Prop where
  | absent (htemplate : s.template = none) (hjobs : s.jobs = [])
  | event (template : RecurringTemplate) (htemplate : s.template = some template)
      (htrigger : template.triggerType = .event)
  | active (template : RecurringTemplate) (job : ScheduledJob)
      (htemplate : s.template = some template) (htrigger : template.triggerType = .time)
      (hstatus : template.status = .active) (hjobs : s.jobs = [job]) (hlive : job.live = true)
      (hnext : template.nextRunDate = some job.nextRunAt)
      (hseries : OnSeries dayjs template.toTemplateColumns job.nextRunAt)
  | stopped (template : RecurringTemplate) (job : ScheduledJob)
      (htemplate : s.template = some template) (htrigger : template.triggerType = .time)
      (hstatus : template.status ≠ .active) (hjobs : s.jobs = [job])
      (hcancelled : job.status = .cancelled)

section Jobs

variable {job : ScheduledJob} {next : Date}

theorem cancel_status (job : ScheduledJob) : job.cancel.status = .cancelled := by
  by_cases h : job.status = .cancelled
  · simp [ScheduledJob.cancel, h]
  · simp [ScheduledJob.cancel, h]

theorem not_live_of_cancelled (h : job.status = .cancelled) : job.live = false := by
  simp [ScheduledJob.live, h]

theorem reschedule_of_live (h : job.live = true) :
    (job.reschedule next).live = true ∧ (job.reschedule next).nextRunAt = next := by
  have hstatus : job.status ≠ .cancelled := by
    intro hcancelled
    rw [not_live_of_cancelled hcancelled] at h
    cases h
  simp [ScheduledJob.reschedule, hstatus, ScheduledJob.live]

theorem reschedule_of_cancelled (h : job.status = .cancelled) : job.reschedule next = job := by
  simp [ScheduledJob.reschedule, h]

/-- Claiming and starting a job leave it live, where and when it was. -/
theorem advance_spec {id : String} {was becomes : JobStatus}
    (hwas : was = .pending ∨ was = .claimed) (hbecomes : becomes = .claimed ∨ becomes = .running) :
    (job.advance id was becomes).nextRunAt = job.nextRunAt ∧
      (job.live = true → (job.advance id was becomes).live = true) ∧
      (job.status = .cancelled → (job.advance id was becomes).status = .cancelled) := by
  simp only [ScheduledJob.advance]
  split
  · rename_i hadvanced
    refine ⟨rfl, ?_, ?_⟩
    · intro _
      rcases hbecomes with rfl | rfl <;> simp [ScheduledJob.live]
    · intro hcancelled
      rw [hcancelled] at hadvanced
      rcases hwas with rfl | rfl <;> simp at hadvanced
  · exact ⟨rfl, fun hlive => hlive, fun hcancelled => hcancelled⟩

end Jobs

variable {dayjs} {s s' : RecurringState} {template : RecurringTemplate}

theorem agrees_of_standing (h : Standing dayjs s) : Agrees dayjs s := by
  cases h with
  | absent htemplate hjobs =>
    constructor
    · intro t ht
      rw [htemplate] at ht
      cases ht
    · intro t ht
      rw [htemplate] at ht
      cases ht
  | event template htemplate htrigger =>
    constructor
    · intro t ht htime
      rw [htemplate] at ht
      cases ht
      rw [htrigger] at htime
      cases htime
    · intro t ht htime
      rw [htemplate] at ht
      cases ht
      rw [htrigger] at htime
      cases htime
  | active template job htemplate htrigger hstatus hjobs hlive hnext hseries =>
    constructor
    · intro t ht htime hactive
      rw [htemplate] at ht
      cases ht
      exact ⟨job, by simp [hjobs, hlive], hnext, hseries⟩
    · intro t ht htime hinactive
      rw [htemplate] at ht
      cases ht
      exact absurd hstatus hinactive
  | stopped template job htemplate htrigger hstatus hjobs hcancelled =>
    constructor
    · intro t ht htime hactive
      rw [htemplate] at ht
      cases ht
      exact absurd hactive hstatus
    · intro t ht htime hinactive
      simp [hjobs, not_live_of_cancelled hcancelled]

/-- Executions and events are no part of it. -/
theorem Standing.congr (h : Standing dayjs s) (htemplate' : s'.template = s.template)
    (hjobs' : s'.jobs = s.jobs) : Standing dayjs s' := by
  cases h with
  | absent htemplate hjobs => exact .absent (htemplate'.trans htemplate) (hjobs'.trans hjobs)
  | event template htemplate htrigger =>
    exact .event template (htemplate'.trans htemplate) htrigger
  | active template job htemplate htrigger hstatus hjobs hlive hnext hseries =>
    exact .active template job (htemplate'.trans htemplate) htrigger hstatus (hjobs'.trans hjobs)
      hlive hnext hseries
  | stopped template job htemplate htrigger hstatus hjobs hcancelled =>
    exact .stopped template job (htemplate'.trans htemplate) htrigger hstatus (hjobs'.trans hjobs)
      hcancelled

theorem Standing.create {id jobId : String} {input : TemplateColumns} (h : Standing dayjs s)
    (habsent : s.template = none) (hcreate : create s id jobId input = .ok s') :
    Standing dayjs s' := by
  have hjobs : s.jobs = [] := by
    cases h with
    | absent htemplate hjobs => exact hjobs
    | event template htemplate => exact absurd (habsent.symm.trans htemplate) (by simp)
    | active template job htemplate => exact absurd (habsent.symm.trans htemplate) (by simp)
    | stopped template job htemplate => exact absurd (habsent.symm.trans htemplate) (by simp)
  simp only [Recurring.create, bind, Except.bind] at hcreate
  cases hvalid : validate input with
  | error message =>
    rw [hvalid] at hcreate
    cases hcreate
  | ok u =>
    rw [hvalid] at hcreate
    cases htrigger : input.triggerType with
    | event =>
      simp only [htrigger] at hcreate
      obtain rfl := Except.ok.inj hcreate
      exact .event _ rfl htrigger
    | time =>
      obtain ⟨frequency, interval, start, hfrequency, hinterval, _, hstart⟩ :=
        fields_of_validate hvalid htrigger
      simp only [htrigger, hstart] at hcreate
      obtain rfl := Except.ok.inj hcreate
      refine .active _ ⟨jobId, "Recurring", input.tenantId, "RecurringTemplate", id, start,
        .pending, 1⟩ rfl htrigger rfl (by simp [schedule, hjobs]) rfl rfl ?_
      exact ⟨frequency, interval, start, 0, hfrequency, hinterval, hstart, by simp [occurrence]⟩

theorem Standing.stop {status : TemplateStatus} {requestTenantId : Option String}
    (h : Standing dayjs s) (hstatus' : status ≠ .active)
    (hstop : stop s status requestTenantId = .ok s') : Standing dayjs s' := by
  obtain ⟨template, htemplate, rfl⟩ := stop_cases hstop
  cases h with
  | absent habsent => exact absurd (htemplate.symm.trans habsent) (by simp)
  | event t ht htrigger =>
    cases htemplate.symm.trans ht
    exact .event _ rfl htrigger
  | active t job ht htrigger hstatus hjobs =>
    cases htemplate.symm.trans ht
    exact .stopped _ job.cancel rfl htrigger hstatus'
      (by simp [htrigger, cancelByAggregate, hjobs]) (cancel_status job)
  | stopped t job ht htrigger hstatus hjobs =>
    cases htemplate.symm.trans ht
    exact .stopped _ job.cancel rfl htrigger hstatus'
      (by simp [htrigger, cancelByAggregate, hjobs]) (cancel_status job)

theorem Standing.resume {requestTenantId : Option String} {today : Date} (h : Standing dayjs s)
    (hallowed : Allowed dayjs s (.resume requestTenantId today))
    (hresume : resume dayjs s requestTenantId today = .ok s') : Standing dayjs s' := by
  obtain ⟨template, htemplate, hvisible, ⟨htrigger, rfl⟩ | ⟨htrigger, next, hnext, rfl⟩⟩ :=
    resume_cases hresume
  · exact .event _ rfl htrigger
  obtain ⟨hactive, hseries⟩ := hallowed template next htemplate htrigger hvisible hnext
  cases h with
  | absent habsent => exact absurd (htemplate.symm.trans habsent) (by simp)
  | event t ht hevent =>
    cases htemplate.symm.trans ht
    exact .event _ rfl hevent
  | active t job ht _ hstatus hjobs hlive =>
    cases htemplate.symm.trans ht
    obtain ⟨hlive', hdate⟩ := @reschedule_of_live job next hlive
    exact .active _ (job.reschedule next) rfl htrigger rfl
      (by simp [rescheduleByAggregate, hjobs]) hlive' (by rw [hdate]) (by rw [hdate]; exact hseries)
  | stopped t job ht _ hstatus =>
    cases htemplate.symm.trans ht
    exact absurd hactive hstatus

theorem Standing.moves {today : Date} (h : Standing dayjs s)
    (htemplate : s.template = some template) (hactive : template.status = .active)
    (hmoves : Moves dayjs s template today s') : Standing dayjs s' := by
  cases h with
  | absent habsent => exact absurd (htemplate.symm.trans habsent) (by simp)
  | event t ht htrigger =>
    cases htemplate.symm.trans ht
    cases hmoves with
    | stays => exact .event _ ht htrigger
    | completes frequency interval last next htime => simp [htrigger] at htime
    | advances frequency interval last next htime => simp [htrigger] at htime
  | stopped t job ht _ hstatus =>
    cases htemplate.symm.trans ht
    exact absurd hactive hstatus
  | active t job ht htrigger hstatus hjobs hlive hnext hseries =>
    cases htemplate.symm.trans ht
    obtain ⟨frequency, interval, start, k, hfrequency, hinterval, hstart, hdate⟩ := hseries
    cases hmoves with
    | stays =>
      exact .active _ job ht htrigger hstatus hjobs hlive hnext
        ⟨frequency, interval, start, k, hfrequency, hinterval, hstart, hdate⟩
    | completes =>
      exact .stopped _ job.cancel rfl htrigger (by simp) (by simp [cancelByAggregate, hjobs])
        (cancel_status job)
    | advances frequency' interval' last next htime hfrequency' hinterval' hfollowing =>
      cases hfrequency.symm.trans hfrequency'
      cases hinterval.symm.trans hinterval'
      simp only [followingDate, hnext, hstart, Option.orElse_some, Option.getD_some] at hfollowing
      obtain ⟨k', hk'⟩ := occurrence_of_nextRunDate hdate hfollowing
      obtain ⟨hlive', hdate'⟩ := @reschedule_of_live job next hlive
      exact .active _ (job.reschedule next) rfl htrigger hactive
        (by simp [rescheduleByAggregate, hjobs]) hlive' (by rw [hdate'])
        ⟨frequency, interval, start, k', hfrequency, hinterval, hstart, by rw [hdate', hk']⟩

theorem Standing.fire {payload : ScheduledJobPayload} {world : Surroundings}
    (h : Standing dayjs s) (hfire : handle dayjs s payload world = .ok s') :
    Standing dayjs s' := by
  obtain ⟨template, key, hadmitted, _, hfires⟩ := fires_of_handle hfire
  have htemplate := template_of_admitted hadmitted
  cases hfires with
  | collides => exact h
  | skips => exact h.congr rfl rfl
  | runs hfree hactive _ hmoves =>
    have hclaimed : Standing dayjs { s with
        executions := s.executions ++ [(settle template payload key world).1]
        requested := s.requested ++ (settle template payload key world).2 } := h.congr rfl rfl
    exact hclaimed.moves htemplate hactive hmoves

theorem Standing.advance {id : String} {was becomes : JobStatus}
    (hwas : was = .pending ∨ was = .claimed) (hbecomes : becomes = .claimed ∨ becomes = .running)
    (h : Standing dayjs s) :
    Standing dayjs { s with jobs := s.jobs.map (ScheduledJob.advance id was becomes) } := by
  cases h with
  | absent htemplate hjobs => exact .absent htemplate (by simp [hjobs])
  | event template htemplate htrigger => exact .event template htemplate htrigger
  | active template job htemplate htrigger hstatus hjobs hlive hnext hseries =>
    obtain ⟨hdate, hlive', _⟩ := @advance_spec job id was becomes hwas hbecomes
    exact .active template (job.advance id was becomes) htemplate htrigger hstatus
      (by simp [hjobs]) (hlive' hlive) (by rw [hdate]; exact hnext) (by rw [hdate]; exact hseries)
  | stopped template job htemplate htrigger hstatus hjobs hcancelled =>
    obtain ⟨_, _, hcancelled'⟩ := @advance_spec job id was becomes hwas hbecomes
    exact .stopped template (job.advance id was becomes) htemplate htrigger hstatus
      (by simp [hjobs]) (hcancelled' hcancelled)

theorem Standing.attempt {outcome : Except String RecurringState} (h : Standing dayjs s)
    (hok : ∀ s', outcome = .ok s' → Standing dayjs s') : Standing dayjs (attempt s outcome) := by
  cases outcome with
  | error message => exact h
  | ok s' => exact hok s' rfl

theorem Standing.step {command : Command} (h : Standing dayjs s)
    (hallowed : Allowed dayjs s command) : Standing dayjs (step dayjs s command) := by
  cases command with
  | create id jobId input =>
    simp only [Recurring.step]
    split
    · rename_i habsent
      exact h.attempt fun _ => h.create habsent
    · exact h
  | pause requestTenantId => exact h.attempt fun _ => h.stop (by simp)
  | resume requestTenantId today => exact h.attempt fun _ => h.resume hallowed
  | cancel requestTenantId => exact h.attempt fun _ => h.stop (by simp)
  | claim jobId => exact h.advance (.inl rfl) (.inl rfl)
  | start jobId => exact h.advance (.inr rfl) (.inr rfl)
  | fire slot payload world => exact h.attempt fun _ => h.fire

theorem standing_of_allowed (commands : List Command)
    (h : ∀ before command, before ++ [command] <+: commands →
      Allowed dayjs (after dayjs before) command) : Standing dayjs (after dayjs commands) := by
  induction commands using List.reverseRecOn with
  | nil => exact .absent rfl rfl
  | append_singleton commands command ih =>
    rw [after_snoc]
    have hstanding := ih fun before command' hbefore =>
      h before command' (hbefore.trans (List.prefix_append _ _))
    exact hstanding.step (h commands command List.prefix_rfl)

/-- A template that is there and not active. -/
def Stopped (s : RecurringState) : Prop :=
  ∃ template, s.template = some template ∧ template.triggerType = .time ∧
    template.status ≠ .active

theorem Stopped.attempt {outcome : Except String RecurringState} (h : Stopped s)
    (hok : ∀ s', outcome = .ok s' → Stopped s') : Stopped (attempt s outcome) := by
  cases outcome with
  | error message => exact h
  | ok s' => exact hok s' rfl

theorem stopped_of_stop {status : TemplateStatus} {requestTenantId : Option String}
    (h : Stopped s) (hstatus : status ≠ .active) (hstop : stop s status requestTenantId = .ok s') :
    Stopped s' := by
  obtain ⟨template, htemplate, htrigger, _⟩ := h
  obtain ⟨t, ht, rfl⟩ := stop_cases hstop
  cases htemplate.symm.trans ht
  exact ⟨_, rfl, htrigger, hstatus⟩

/-- Where resumptions keep to active templates, what is stopped stays stopped. -/
theorem Stopped.step {command : Command} (h : Stopped s) (hallowed : Allowed dayjs s command) :
    Stopped (step dayjs s command) := by
  have hstopped := h
  obtain ⟨template, htemplate, htrigger, hstatus⟩ := h
  cases command with
  | create id jobId input =>
    simp only [Recurring.step, htemplate]
    exact hstopped
  | pause requestTenantId =>
    exact hstopped.attempt fun _ => stopped_of_stop hstopped (by simp)
  | cancel requestTenantId =>
    exact hstopped.attempt fun _ => stopped_of_stop hstopped (by simp)
  | claim jobId => exact hstopped
  | start jobId => exact hstopped
  | resume requestTenantId today =>
    refine hstopped.attempt fun s' hresume => ?_
    obtain ⟨t, ht, hvisible, ⟨hevent, _⟩ | ⟨htime, next, hnext, _⟩⟩ := resume_cases hresume
    · cases htemplate.symm.trans ht
      rw [htrigger] at hevent
      cases hevent
    · cases htemplate.symm.trans ht
      exact absurd (hallowed _ next ht htime hvisible hnext).1 hstatus
  | fire slot payload world =>
    refine hstopped.attempt fun s' hfire => ?_
    obtain ⟨t, key, hadmitted, _, hfires⟩ := fires_of_handle hfire
    cases htemplate.symm.trans (template_of_admitted hadmitted)
    cases hfires with
    | collides => exact hstopped
    | skips => exact ⟨template, htemplate, htrigger, hstatus⟩
    | runs _ hactive => exact absurd hactive hstatus

theorem Stopped.later {before : List Command} (later : List Command)
    (h : Stopped (after dayjs before))
    (hallowed : ∀ earlier command, earlier ++ [command] <+: before ++ later →
      Allowed dayjs (after dayjs earlier) command) : Stopped (after dayjs (before ++ later)) := by
  induction later using List.reverseRecOn with
  | nil => simpa using h
  | append_singleton later command ih =>
    rw [← List.append_assoc, after_snoc]
    have hstopped := ih fun earlier command' hearlier => hallowed earlier command' <| by
      rw [← List.append_assoc]
      exact hearlier.trans (List.prefix_append _ _)
    refine hstopped.step (hallowed _ _ ?_)
    simpa only [List.append_assoc] using List.prefix_rfl

theorem coherent_of_allowed {commands : List Command}
    (h : ∀ before command, before ++ [command] <+: commands →
      Allowed dayjs (after dayjs before) command) : Coherent dayjs commands where
  agrees := by
    intro before hbefore
    exact agrees_of_standing (standing_of_allowed before fun earlier command hearlier =>
      h earlier command (hearlier.trans hbefore))
  closed := by
    intro before later hprefixed hclosed hactive
    obtain ⟨template, htemplate, htrigger, hstatus⟩ := hclosed
    have hstopped : Stopped (after dayjs before) :=
      ⟨template, htemplate, htrigger, by rcases hstatus with h | h <;> simp [h]⟩
    obtain ⟨t, ht, _, hinactive⟩ := hstopped.later later fun earlier command hearlier =>
      h earlier command (hearlier.trans hprefixed)
    obtain ⟨u, hu, hstatus'⟩ := hactive
    cases ht.symm.trans hu
    exact hinactive hstatus'

/-- Any other resumption leaves an active template without a live job, or off its series. -/
theorem allowed_of_agrees {command : Command} (h : Standing dayjs s)
    (hagrees : Agrees dayjs (step dayjs s command)) : Allowed dayjs s command := by
  cases command with
  | create | pause | cancel | claim | start | fire => trivial
  | resume requestTenantId today =>
    intro template next htemplate htrigger hvisible hnext
    have hresumed : step dayjs s (.resume requestTenantId today) = { s with
        template := some { template with status := .active, nextRunDate := some next }
        jobs := rescheduleByAggregate s.jobs next } := by
      simp only [Recurring.step, resume, htemplate, hvisible, htrigger, hnext, bind, Except.bind,
        pure, Except.pure, attempt]
    rw [hresumed] at hagrees
    obtain ⟨job, hlive, hdate, hseries⟩ := hagrees.active _ rfl htrigger rfl
    cases h with
    | absent habsent => exact absurd (htemplate.symm.trans habsent) (by simp)
    | event t ht hevent =>
      cases htemplate.symm.trans ht
      rw [htrigger] at hevent
      cases hevent
    | active t job' ht _ hactive =>
      cases htemplate.symm.trans ht
      refine ⟨hactive, ?_⟩
      rw [Option.some.inj hdate]
      exact hseries
    | stopped t job' ht _ hstatus hjobs hcancelled =>
      simp [hjobs, rescheduleByAggregate, reschedule_of_cancelled hcancelled,
        not_live_of_cancelled hcancelled] at hlive

theorem standing_of_coherent {commands : List Command} (h : Coherent dayjs commands) :
    ∀ before, before <+: commands → Standing dayjs (after dayjs before) := by
  intro before
  induction before using List.reverseRecOn with
  | nil =>
    intro _
    exact .absent rfl rfl
  | append_singleton before command ih =>
    intro hbefore
    have hstanding := ih ((List.prefix_append _ _).trans hbefore)
    have hagrees := h.agrees _ hbefore
    rw [after_snoc] at hagrees ⊢
    exact hstanding.step (allowed_of_agrees hstanding hagrees)

section Example

/-- A daily order from the second of January 2026 on. -/
def dailyOrder : TemplateColumns where
  tenantId := some "t1"
  targetEntityType := "PurchaseOrder"
  partyId := some "v1"
  partyType := some "VENDOR"
  currency := "USD"
  triggerType := .time
  eventName := none
  frequency := some .daily
  interval := some 1
  startDate := some 20455
  endDate := none
  timeZone := "UTC"
  autoPost := false
  headerOverrides := none
  generationCondition := none
  lines := ["line"]

end Example

end DddBoilerplate.Recurring
