/- module: DddBoilerplate/Recurring/Occurrences
   generality: I
   digest: Which firings claim no occurrence early and leave the series ahead of their slot. -/

import Mathlib.Data.List.Induction
import DddBoilerplate.Recurring.Agreement

set_option autoImplicit false
set_option relaxedAutoImplicit false
set_option linter.all false

namespace DddBoilerplate.Recurring

variable (dayjs : Dayjs)

section Statements

/-- A template of the scheduler: its dates and its recurrence are set. -/
structure Timed (template : RecurringTemplate) (frequency : RecurrenceFrequency) (interval : Int)
    (start date : Date) : Prop where
  trigger : template.triggerType = .time
  hasFrequency : template.frequency = some frequency
  hasInterval : template.interval = some interval
  counted : interval ≠ 0
  hasStart : template.startDate = some start
  hasDate : template.nextRunDate = some date

/-- Of the executions a firing adds, none is for a date after its slot. -/
def NotEarly (s s' : RecurringState) (slot : Date) : Prop :=
  ∀ execution ∈ s'.executions, execution ∉ s.executions →
    ∀ date, execution.runDate = some date → date ≤ slot

/-- A template still active after a firing runs next after the slot. -/
def Ahead (s' : RecurringState) (slot : Date) : Prop :=
  ∀ template, s'.template = some template → template.status = .active →
    ∃ date, template.nextRunDate = some date ∧ slot < date

/-- Every date has one execution at most, and every firing of the scheduler on a template of its
own claims none early and leaves the template ahead. -/
structure Faithful (commands : List Command) : Prop where
  once : ∀ date, ((after dayjs commands).executions.filter
    fun execution => execution.runDate = some date).length ≤ 1
  firings : ∀ before slot payload world, before ++ [Command.fire slot payload world] <+: commands →
    payload.jobId ≠ none →
    (∃ template, (after dayjs before).template = some template ∧ template.triggerType = .time) →
    NotEarly (after dayjs before) (after dayjs (before ++ [Command.fire slot payload world])) slot ∧
      Ahead (after dayjs (before ++ [Command.fire slot payload world])) slot

/-- The firing claims the template's next date: it is let in, the date is not taken, and the
recurrence of an active template goes on. -/
structure Fresh (s : RecurringState) (payload : ScheduledJobPayload) (world : Surroundings)
    (template : RecurringTemplate) (date : Date) : Prop where
  letIn : admitted s payload = .ok template
  hasDate : template.nextRunDate = some date
  free : ∀ execution ∈ s.executions, execution.triggerKey ≠ formatDate date
  goesOn : template.status = .active → ∀ frequency interval,
    template.frequency = some frequency → template.interval = some interval →
      ∃ next, followingDate dayjs template frequency interval world.today = .ok next

/-- A firing comes in time: the date it claims is not after its slot and, where the template goes
on, the following one is; a firing that claims nothing finds an active template past its slot. -/
structure OnTime (s : RecurringState) (slot : Date) (payload : ScheduledJobPayload)
    (world : Surroundings) : Prop where
  claims : ∀ template date, Fresh dayjs s payload world template date → date ≤ slot ∧
    (template.status = .active → ∀ frequency interval next,
      template.frequency = some frequency → template.interval = some interval →
      followingDate dayjs template frequency interval world.today = .ok next →
      template.endDate.any (· < next) = false → slot < next)
  passes : (∀ template date, ¬ Fresh dayjs s payload world template date) → Ahead s slot

end Statements

variable {dayjs} {s s' : RecurringState} {template : RecurringTemplate} {slot : Date}
variable {payload : ScheduledJobPayload} {world : Surroundings}

section Firings

variable {frequency : RecurrenceFrequency} {interval : Int} {start date : Date}

theorem any_eq_false_iff (executions : List RecurringExecution) (key : String) :
    executions.any (·.triggerKey = key) = false ↔
      ∀ execution ∈ executions, execution.triggerKey ≠ key := by
  simp

theorem triggerKey_of_timed (h : Timed template frequency interval start date)
    (hjob : payload.jobId ≠ none) : triggerKey template payload = .ok (formatDate date) := by
  obtain ⟨jobId, hjobId⟩ := Option.ne_none_iff_exists'.mp hjob
  simp [triggerKey, hjobId, h.hasDate]

theorem runDate_of_timed (h : Timed template frequency interval start date)
    (hjob : payload.jobId ≠ none) : runDate template payload = some date := by
  obtain ⟨jobId, hjobId⟩ := Option.ne_none_iff_exists'.mp hjob
  simp [runDate, hjobId, h.hasDate]

/-- A firing that claims nothing leaves everything as it was. -/
theorem unchanged_of_not_fresh (h : Timed template frequency interval start date)
    (htemplate : s.template = some template) (hjob : payload.jobId ≠ none)
    (hnot : ∀ template date, ¬ Fresh dayjs s payload world template date) :
    step dayjs s (.fire slot payload world) = s := by
  simp only [step]
  cases hhandle : handle dayjs s payload world with
  | error message => rfl
  | ok s' =>
    obtain ⟨t, key, hadmitted, hkey, hfires⟩ := fires_of_handle hhandle
    cases htemplate.symm.trans (template_of_admitted hadmitted)
    obtain rfl := Except.ok.inj ((triggerKey_of_timed h hjob).symm.trans hkey)
    cases hfires with
    | collides => rfl
    | skips hfree hstatus =>
      refine absurd ?_ (hnot template date)
      exact ⟨hadmitted, h.hasDate, (any_eq_false_iff _ _).1 hfree,
        fun hactive => absurd hactive hstatus⟩
    | runs hfree hstatus _ hmoves =>
      refine absurd ?_ (hnot template date)
      refine ⟨hadmitted, h.hasDate, (any_eq_false_iff _ _).1 hfree, ?_⟩
      intro _ frequency' interval' hfrequency' hinterval'
      cases h.hasFrequency.symm.trans hfrequency'
      cases h.hasInterval.symm.trans hinterval'
      cases hmoves with
      | stays hnone =>
        rcases hnone with hevent | hnone | hnone | hzero
        · rw [h.trigger] at hevent
          cases hevent
        · rw [h.hasFrequency] at hnone
          cases hnone
        · rw [h.hasInterval] at hnone
          cases hnone
        · rw [h.hasInterval] at hzero
          exact absurd (Option.some.inj hzero) h.counted
      | completes frequency' interval' last next htime hfrequency' hinterval' hnext =>
        cases h.hasFrequency.symm.trans hfrequency'
        cases h.hasInterval.symm.trans hinterval'
        exact ⟨next, hnext⟩
      | advances frequency' interval' last next htime hfrequency' hinterval' hnext =>
        cases h.hasFrequency.symm.trans hfrequency'
        cases h.hasInterval.symm.trans hinterval'
        exact ⟨next, hnext⟩

theorem step_fire (h : handle dayjs s payload world = .ok s') :
    step dayjs s (.fire slot payload world) = s' := by
  simp only [step, h, attempt]

/-- What a firing that claims its date adds, and where it leaves the template. -/
theorem fire_of_fresh (h : Timed template frequency interval start date)
    (htemplate : s.template = some template) (hjob : payload.jobId ≠ none)
    (hfresh : Fresh dayjs s payload world template date) :
    ∃ execution : RecurringExecution, execution.runDate = some date ∧
      execution ∉ s.executions ∧
      (step dayjs s (.fire slot payload world)).executions = s.executions ++ [execution] ∧
      (template.status ≠ .active ∧
          (step dayjs s (.fire slot payload world)).template = some template ∨
        template.status = .active ∧ ∃ next,
          followingDate dayjs template frequency interval world.today = .ok next ∧
          ((template.endDate.any (· < next) = true ∧ ∃ t,
              (step dayjs s (.fire slot payload world)).template = some t ∧
                t.status ≠ .active) ∨
            template.endDate.any (· < next) = false ∧ ∃ t,
              (step dayjs s (.fire slot payload world)).template = some t ∧
                t.status = .active ∧ t.nextRunDate = some next)) := by
  have hkey := triggerKey_of_timed h hjob
  have hdate := runDate_of_timed h hjob
  have hfree := (any_eq_false_iff s.executions (formatDate date)).2 hfresh.free
  have hnew : ∀ execution : RecurringExecution, execution.triggerKey = formatDate date →
      execution ∉ s.executions := fun execution hsame hmem => hfresh.free execution hmem hsame
  by_cases hactive : template.status = .active
  · obtain ⟨next, hnext⟩ := hfresh.goesOn hactive _ _ h.hasFrequency h.hasInterval
    obtain ⟨hclaimedKey, hclaimedDate, _⟩ :=
      @settle_claimed template payload world (formatDate date)
    refine ⟨(settle template payload (formatDate date) world).1, hclaimedDate.trans hdate,
      hnew _ hclaimedKey, ?_⟩
    cases hend : template.endDate.any (· < next) with
    | true =>
      have hstep : handle dayjs s payload world = .ok
          { s with
            template := some { template with
              status := .completed
              lastRunDate := some ((template.nextRunDate.orElse fun _ =>
                template.startDate).getD world.today) }
            jobs := cancelByAggregate s.jobs
            executions := s.executions ++ [(settle template payload (formatDate date) world).1]
            requested := s.requested ++ (settle template payload (formatDate date) world).2 } := by
        simp only [handle, hfresh.letIn, hkey, hfree, hactive, reschedule, h.trigger,
          h.hasFrequency, h.hasInterval, h.counted, hnext, hend, bind, Except.bind, pure, Except.pure]
        rfl
      rw [step_fire hstep]
      exact ⟨rfl, .inr ⟨hactive, next, hnext, .inl ⟨hend, _, rfl, by simp⟩⟩⟩
    | false =>
      have hstep : handle dayjs s payload world = .ok
          { s with
            template := some { template with
              nextRunDate := some next
              lastRunDate := some ((template.nextRunDate.orElse fun _ =>
                template.startDate).getD world.today) }
            jobs := rescheduleByAggregate s.jobs next
            executions := s.executions ++ [(settle template payload (formatDate date) world).1]
            requested := s.requested ++ (settle template payload (formatDate date) world).2 } := by
        simp only [handle, hfresh.letIn, hkey, hfree, hactive, reschedule, h.trigger,
          h.hasFrequency, h.hasInterval, h.counted, hnext, hend, bind, Except.bind, pure, Except.pure]
        rfl
      rw [step_fire hstep]
      exact ⟨rfl, .inr ⟨hactive, next, hnext, .inr ⟨hend, _, rfl, hactive, rfl⟩⟩⟩
  · refine ⟨(claimed template payload (formatDate date) world).skip "TemplateNotActive" none,
      hdate, hnew _ rfl, ?_⟩
    have hstep : handle dayjs s payload world = .ok
        { s with
          executions := s.executions ++
            [(claimed template payload (formatDate date) world).skip "TemplateNotActive" none] } := by
      simp only [handle, hfresh.letIn, hkey, hfree, bind, Except.bind, pure, Except.pure]
      rw [if_neg (by simp), if_pos hactive]
    rw [step_fire hstep]
    exact ⟨rfl, .inl ⟨hactive, htemplate⟩⟩

/-- A firing claims nothing early and leaves the template ahead exactly when it comes in time. -/
theorem fire_iff_onTime (h : Timed template frequency interval start date)
    (htemplate : s.template = some template) (hjob : payload.jobId ≠ none) :
    (NotEarly s (step dayjs s (.fire slot payload world)) slot ∧
      Ahead (step dayjs s (.fire slot payload world)) slot) ↔ OnTime dayjs s slot payload world := by
  by_cases hfresh : Fresh dayjs s payload world template date
  · obtain ⟨execution, hdate, hnew, hexecutions, hleft⟩ :=
      @fire_of_fresh dayjs s template slot payload world _ _ _ _ h htemplate hjob hfresh
    have honly : ∀ t d, Fresh dayjs s payload world t d → t = template ∧ d = date := by
      intro t d hother
      cases htemplate.symm.trans (template_of_admitted hother.letIn)
      exact ⟨rfl, Option.some.inj (hother.hasDate.symm.trans h.hasDate)⟩
    have hearly : NotEarly s (step dayjs s (.fire slot payload world)) slot ↔ date ≤ slot := by
      constructor
      · intro hnot
        exact hnot execution (by simp [hexecutions]) hnew date hdate
      · intro hle other hother hnot d hd
        rw [hexecutions] at hother
        rcases List.mem_append.mp hother with hother | hother
        · exact absurd hother hnot
        · obtain rfl := List.mem_singleton.mp hother
          cases hdate.symm.trans hd
          exact hle
    rw [hearly]
    constructor
    · rintro ⟨hle, hahead⟩
      refine ⟨?_, fun hnone => absurd hfresh (hnone template date)⟩
      intro t d hother
      obtain ⟨rfl, rfl⟩ := honly t d hother
      refine ⟨hle, ?_⟩
      intro hactive frequency' interval' next hfrequency' hinterval' hnext hend
      cases h.hasFrequency.symm.trans hfrequency'
      cases h.hasInterval.symm.trans hinterval'
      rcases hleft with ⟨hinactive, _⟩ | ⟨_, next', hnext', ⟨hend', _⟩ |
        ⟨_, u, hu, hustatus, hudate⟩⟩
      · exact absurd hactive hinactive
      · cases hnext'.symm.trans hnext
        rw [hend] at hend'
        cases hend'
      · cases hnext'.symm.trans hnext
        obtain ⟨d, hd, hlt⟩ := hahead u hu hustatus
        cases hudate.symm.trans hd
        exact hlt
    · intro hontime
      obtain ⟨hle, hnexts⟩ := hontime.claims template date hfresh
      refine ⟨hle, ?_⟩
      intro u hu hustatus
      rcases hleft with ⟨hinactive, hsame⟩ | ⟨hactive, next, hnext, ⟨_, v, hv, hvstatus⟩ |
        ⟨hend, v, hv, _, hvdate⟩⟩
      · cases hsame.symm.trans hu
        exact absurd hustatus hinactive
      · cases hv.symm.trans hu
        exact absurd hustatus hvstatus
      · cases hv.symm.trans hu
        exact ⟨next, hvdate, hnexts hactive _ _ next h.hasFrequency h.hasInterval hnext hend⟩
  · have hnone : ∀ t d, ¬ Fresh dayjs s payload world t d := by
      intro t d hother
      cases htemplate.symm.trans (template_of_admitted hother.letIn)
      cases hother.hasDate.symm.trans h.hasDate
      exact hfresh hother
    rw [unchanged_of_not_fresh h htemplate hjob hnone]
    constructor
    · rintro ⟨_, hahead⟩
      exact ⟨fun t d hother => absurd hother (hnone t d), fun _ => hahead⟩
    · intro hontime
      exact ⟨fun execution hmem hnot => absurd hmem hnot, hontime.passes hnone⟩

end Firings

section Runs

/-- Every template of the scheduler has its recurrence and its dates. -/
def Regular (s : RecurringState) : Prop :=
  ∀ template, s.template = some template → template.triggerType = .time →
    ∃ frequency interval start date, Timed template frequency interval start date

theorem Timed.congr {frequency : RecurrenceFrequency} {interval : Int} {start date date' : Date}
    {t : RecurringTemplate} (h : Timed template frequency interval start date)
    (hcolumns : t.toTemplateColumns = template.toTemplateColumns)
    (hdate : t.nextRunDate = some date') : Timed t frequency interval start date' where
  trigger := by rw [hcolumns]; exact h.trigger
  hasFrequency := by rw [hcolumns]; exact h.hasFrequency
  hasInterval := by rw [hcolumns]; exact h.hasInterval
  counted := h.counted
  hasStart := by rw [hcolumns]; exact h.hasStart
  hasDate := hdate

/-- A command keeps the columns of a template it keeps, and gives it a date if it changes it. -/
theorem Regular.of_columns (h : Regular s) (htemplate : s.template = some template)
    (hafter : ∀ t, s'.template = some t → t.toTemplateColumns = template.toTemplateColumns ∧
      (t.nextRunDate = template.nextRunDate ∨ ∃ date, t.nextRunDate = some date)) :
    Regular s' := by
  intro t ht htime
  obtain ⟨hcolumns, hdate⟩ := hafter t ht
  rw [hcolumns] at htime
  obtain ⟨frequency, interval, start, date, htimed⟩ := h template htemplate htime
  rcases hdate with hsame | ⟨date', hdate'⟩
  · exact ⟨frequency, interval, start, date, htimed.congr hcolumns (hsame.trans htimed.hasDate)⟩
  · exact ⟨frequency, interval, start, date', htimed.congr hcolumns hdate'⟩

theorem Regular.attempt {outcome : Except String RecurringState} (h : Regular s)
    (hok : ∀ s', outcome = .ok s' → Regular s') : Regular (attempt s outcome) := by
  cases outcome with
  | error message => exact h
  | ok s' => exact hok s' rfl

theorem Regular.stop {status : TemplateStatus} {requestTenantId : Option String} (h : Regular s)
    (hstop : stop s status requestTenantId = .ok s') : Regular s' := by
  obtain ⟨template, htemplate, rfl⟩ := stop_cases hstop
  refine h.of_columns htemplate fun t ht => ?_
  obtain rfl := Option.some.inj ht
  exact ⟨rfl, .inl rfl⟩

theorem Regular.moves {today : Date} (h : Regular s) (htemplate : s.template = some template)
    (hmoves : Moves dayjs s template today s') : Regular s' := by
  cases hmoves with
  | stays => exact h
  | completes =>
    refine h.of_columns htemplate fun t ht => ?_
    obtain rfl := Option.some.inj ht
    exact ⟨rfl, .inl rfl⟩
  | advances frequency interval last next =>
    refine h.of_columns htemplate fun t ht => ?_
    obtain rfl := Option.some.inj ht
    exact ⟨rfl, .inr ⟨next, rfl⟩⟩

theorem Regular.step {command : Command} (h : Regular s) :
    Regular (step dayjs s command) := by
  cases command with
  | create id jobId input =>
    simp only [Recurring.step]
    split
    · refine h.attempt fun s' hcreate => ?_
      obtain ⟨hvalid, _, htemplate⟩ := create_cases hcreate
      intro t ht htime
      cases htemplate.symm.trans ht
      obtain ⟨frequency, interval, start, hfrequency, hinterval, hcounted, hstart⟩ :=
        fields_of_validate hvalid htime
      exact ⟨frequency, interval, start, start, htime, hfrequency, hinterval, hcounted, hstart,
        hstart⟩
    · exact h
  | pause requestTenantId => exact h.attempt fun _ => h.stop
  | cancel requestTenantId => exact h.attempt fun _ => h.stop
  | claim jobId => exact h
  | start jobId => exact h
  | resume requestTenantId today =>
    refine h.attempt fun s' hresume => ?_
    obtain ⟨template, htemplate, _, ⟨_, rfl⟩ | ⟨_, next, _, rfl⟩⟩ := resume_cases hresume
    · refine h.of_columns htemplate fun t ht => ?_
      obtain rfl := Option.some.inj ht
      exact ⟨rfl, .inl rfl⟩
    · refine h.of_columns htemplate fun t ht => ?_
      obtain rfl := Option.some.inj ht
      exact ⟨rfl, .inr ⟨next, rfl⟩⟩
  | fire slot payload world =>
    refine h.attempt fun s' hfire => ?_
    obtain ⟨template, key, hadmitted, _, hfires⟩ := fires_of_handle hfire
    cases hfires with
    | collides => exact h
    | skips => exact h
    | runs _ _ _ hmoves =>
      have hclaimed : Regular { s with
          executions := s.executions ++ [(settle template payload key world).1]
          requested := s.requested ++ (settle template payload key world).2 } := h
      exact hclaimed.moves (template_of_admitted hadmitted) hmoves

/-- No two executions have one key, and the key of a dated execution is its date. -/
structure Keyed (executions : List RecurringExecution) : Prop where
  distinct : (executions.map (·.triggerKey)).Nodup
  dated : ∀ execution ∈ executions, ∀ date, execution.runDate = some date →
    execution.triggerKey = formatDate date

theorem Keyed.append {executions : List RecurringExecution} {execution : RecurringExecution}
    (h : Keyed executions)
    (hfree : executions.any (·.triggerKey = execution.triggerKey) = false)
    (hdated : ∀ date, execution.runDate = some date → execution.triggerKey = formatDate date) :
    Keyed (executions ++ [execution]) where
  distinct := by
    rw [List.map_append, List.nodup_append]
    refine ⟨h.distinct, by simp, ?_⟩
    intro key hkey key' hkey'
    obtain ⟨other, hother, rfl⟩ := List.mem_map.mp hkey
    simp only [List.map_cons, List.map_nil, List.mem_singleton] at hkey'
    rw [hkey']
    exact (any_eq_false_iff _ _).1 hfree other hother
  dated := by
    intro other hother date hdate
    rcases List.mem_append.mp hother with hother | hother
    · exact h.dated other hother date hdate
    · obtain rfl := List.mem_singleton.mp hother
      exact hdated date hdate

/-- The key of a firing is the date it claims, if it claims one. -/
theorem triggerKey_dated {key : String} (h : triggerKey template payload = .ok key) (date : Date)
    (hdate : runDate template payload = some date) : key = formatDate date := by
  cases hjob : payload.jobId with
  | none => simp [runDate, hjob] at hdate
  | some jobId =>
    simp only [runDate, hjob, Option.bind_some] at hdate
    simp only [triggerKey, hjob, hdate] at h
    exact (Except.ok.inj h).symm

theorem executions_of_moves {today : Date} (h : Moves dayjs s template today s') :
    s'.executions = s.executions := by
  cases h with
  | stays => rfl
  | completes => rfl
  | advances => rfl

theorem Keyed.fire (h : Keyed s.executions) (hfire : handle dayjs s payload world = .ok s') :
    Keyed s'.executions := by
  obtain ⟨template, key, _, hkey, hfires⟩ := fires_of_handle hfire
  cases hfires with
  | collides => exact h
  | skips hfree => exact h.append hfree fun date hdate => triggerKey_dated hkey date hdate
  | runs hfree _ _ hmoves =>
    rw [executions_of_moves hmoves]
    obtain ⟨hclaimedKey, hclaimedDate, _⟩ := @settle_claimed template payload world key
    refine h.append (by rw [hclaimedKey]; exact hfree) fun date hdate => ?_
    rw [hclaimedKey]
    exact triggerKey_dated hkey date (hclaimedDate.symm.trans hdate)

theorem Keyed.step {command : Command} (h : Keyed s.executions) :
    Keyed (step dayjs s command).executions := by
  have hattempt : ∀ outcome : Except String RecurringState,
      (∀ s', outcome = .ok s' → Keyed s'.executions) →
        Keyed (Recurring.attempt s outcome).executions := by
    intro outcome hok
    cases outcome with
    | error message => exact h
    | ok s' => exact hok s' rfl
  cases command with
  | create id jobId input =>
    simp only [Recurring.step]
    split
    · refine hattempt _ fun s' hcreate => ?_
      rw [(create_cases hcreate).2.1]
      exact h
    · exact h
  | pause requestTenantId =>
    refine hattempt _ fun s' hstop => ?_
    obtain ⟨_, _, rfl⟩ := stop_cases hstop
    exact h
  | cancel requestTenantId =>
    refine hattempt _ fun s' hstop => ?_
    obtain ⟨_, _, rfl⟩ := stop_cases hstop
    exact h
  | claim jobId => exact h
  | start jobId => exact h
  | resume requestTenantId today =>
    refine hattempt _ fun s' hresume => ?_
    obtain ⟨_, _, _, ⟨_, rfl⟩ | ⟨_, _, _, rfl⟩⟩ := resume_cases hresume
    · exact h
    · exact h
  | fire slot payload world => exact hattempt _ fun s' => h.fire

/-- A date has one execution at most. -/
theorem Keyed.once {executions : List RecurringExecution} (h : Keyed executions) (date : Date) :
    (executions.filter fun execution => execution.runDate = some date).length ≤ 1 := by
  have hkeys : ((executions.filter fun execution => execution.runDate = some date).map
      (·.triggerKey)).Nodup := h.distinct.sublist (List.filter_sublist.map _)
  have hsame : ∀ key ∈ (executions.filter fun execution => execution.runDate = some date).map
      (·.triggerKey), key = formatDate date := by
    intro key hkey
    obtain ⟨execution, hmem, rfl⟩ := List.mem_map.mp hkey
    obtain ⟨hmem, hdate⟩ := List.mem_filter.mp hmem
    exact h.dated execution hmem date (of_decide_eq_true hdate)
  rw [List.eq_replicate_of_mem hsame] at hkeys
  simpa using List.nodup_replicate.mp hkeys

theorem regular_after (commands : List Command) : Regular (after dayjs commands) := by
  induction commands using List.reverseRecOn with
  | nil =>
    intro template htemplate
    cases htemplate
  | append_singleton commands command ih =>
    rw [after_snoc]
    exact ih.step

theorem keyed_after (commands : List Command) : Keyed (after dayjs commands).executions := by
  induction commands using List.reverseRecOn with
  | nil => exact ⟨List.nodup_nil, fun execution hmem => by cases hmem⟩
  | append_singleton commands command ih =>
    rw [after_snoc]
    exact ih.step

/-- Whatever is done to a template, and in whatever order: a date never has two executions, and
the firings are faithful to their slots exactly when each comes in time. -/
theorem faithful_iff_onTime (dayjs : Dayjs) (commands : List Command) :
    Faithful dayjs commands ↔ ∀ before slot payload world,
      before ++ [.fire slot payload world] <+: commands → payload.jobId ≠ none →
      (∃ template, (after dayjs before).template = some template ∧
        template.triggerType = .time) →
      OnTime dayjs (after dayjs before) slot payload world := by
  constructor
  · intro h before slot payload world hbefore hjob htemplate
    have hfiring := h.firings before slot payload world hbefore hjob htemplate
    obtain ⟨template, htemplate, htime⟩ := htemplate
    obtain ⟨_, _, _, _, htimed⟩ := regular_after before template htemplate htime
    rw [after_snoc] at hfiring
    exact (fire_iff_onTime htimed htemplate hjob).1 hfiring
  · intro h
    refine ⟨(keyed_after commands).once, ?_⟩
    intro before slot payload world hbefore hjob htemplate
    have hontime := h before slot payload world hbefore hjob htemplate
    obtain ⟨template, htemplate, htime⟩ := htemplate
    obtain ⟨_, _, _, _, htimed⟩ := regular_after before template htemplate htime
    rw [after_snoc]
    exact (fire_iff_onTime htimed htemplate hjob).2 hontime

end Runs

section Example

/-- A firing of the job of the daily order, for itself or once more. -/
def dailyFiring : ScheduledJobPayload := ⟨some "job1", some "t1", some "rt1", none, none⟩

def firedOn (today : Date) (executionId : String) : Surroundings :=
  ⟨executionId, "trace", today, .ok (true, ""), .ok ()⟩

/-- The daily order fired twice for its first day. -/
def repeatedly : List Command :=
  [.create "rt1" "job1" dailyOrder, .fire 20455 dailyFiring (firedOn 20455 "e1"),
    .fire 20455 dailyFiring (firedOn 20455 "e2")]

/-- The daily order fired for two days, paused, fired once more, and resumed. -/
def paused : List Command :=
  [.create "rt1" "job1" dailyOrder, .fire 20455 dailyFiring (firedOn 20455 "e1"),
    .fire 20456 dailyFiring (firedOn 20456 "e2"), .pause (some "t1"),
    .fire 20456 dailyFiring (firedOn 20456 "e3"), .resume (some "t1") 20456,
    .fire 20457 dailyFiring (firedOn 20457 "e4")]

/-- Fired twice for the second of January, the daily order claims the third. Fired while it is
paused it gives a date away, and resumed it waits for that date forever. -/
theorem repeated_firing : ¬ Faithful civil repeatedly ∧ ¬ Faithful civil paused := by
  constructor
  · intro h
    have hearly := (h.firings (repeatedly.take 2) 20455 dailyFiring (firedOn 20455 "e2")
      List.prefix_rfl (by simp [dailyFiring]) ⟨_, rfl, rfl⟩).1
    have hclaimed : ∃ execution ∈ (after civil repeatedly).executions,
        execution ∉ (after civil (repeatedly.take 2)).executions ∧
          execution.runDate = some 20456 := by decide
    obtain ⟨execution, hmem, hnew, hdate⟩ := hclaimed
    exact absurd (hearly execution hmem hnew 20456 hdate) (by decide)
  · intro h
    have hahead := (h.firings (paused.take 6) 20457 dailyFiring (firedOn 20457 "e4")
      List.prefix_rfl (by simp [dailyFiring]) ⟨_, rfl, rfl⟩).2
    have hstalled : (after civil paused).template.map (fun t => (t.status, t.nextRunDate)) =
        some (.active, some 20457) := by decide
    obtain ⟨template, htemplate, hfields⟩ := Option.map_eq_some_iff.mp hstalled
    obtain ⟨hstatus, hnext⟩ := Prod.mk.inj hfields
    obtain ⟨date, hdate, hlt⟩ := hahead template htemplate hstatus
    cases hnext.symm.trans hdate
    exact absurd hlt (by decide)

end Example

end DddBoilerplate.Recurring
