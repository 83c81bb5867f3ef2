/- module: DddBoilerplate/Scheduler/Resurrection
   generality: I
   digest: A stopped job stays stopped, unless it was stopped under the eyes of a thread that goes on. -/

import DddBoilerplate.Scheduler.Looks
import DddBoilerplate.Scheduler.Scenario

set_option autoImplicit false
set_option relaxedAutoImplicit false
set_option linter.all false

namespace DddBoilerplate.Scheduler

open Concurrency Store
open Recurring (JobStatus)

variable {config : SchedulerConfig}

section Statements

/-- The handler of a job is started: in the process, or by a message. -/
def Starts (jobId : String) : Label (schedulerSystem config) → Prop
  | .served _ (.statement (.handle payload)) _ _ => payload.jobId = jobId
  | .served _ (.statement (.publishJobDue job)) _ _ => job.jobId = jobId
  | _ => False

/-- A job is rescheduled by its owner. -/
def Reschedules (job : ScheduledJob) : Label (schedulerSystem config) → Prop
  | .served _ (.statement (.write (.reschedule jobId _))) _ _ => jobId = job.id
  | .served _ (.statement (.write (.rescheduleByAggregate aggregateType aggregateId _))) _ _ =>
    job.aggregateType = some aggregateType ∧ job.aggregateId = some aggregateId
  | _ => False

/-- The job is cancelled or suspended. -/
def stopped (db : SchedulerDb) (jobId : String) : Bool :=
  (db.jobs.get? jobId).any fun job => job.status = .cancelled || job.status = .suspended

/-- The update cancels or suspends the job. -/
def JobWrite.stops (job : ScheduledJob) : JobWrite → Bool
  | cancel jobId => jobId = job.id
  | cancelByAggregate aggregateType aggregateId =>
    job.aggregateType = some aggregateType && job.aggregateId = some aggregateId
  | settleFailure jobId suspended _ _ => jobId = job.id && suspended
  | _ => false

/-- Whenever the job is cancelled or suspended, no other tick and no other worker has found it
alive and not yet acted on it. -/
def Considerate (job : ScheduledJob) (trace : List (Label (schedulerSystem config))) : Prop :=
  ∀ (earlier later : List (Label (schedulerSystem config))) i update answer front,
    trace = earlier ++ .served i (.statement (.write update)) answer front :: later →
    update.stops job = true → ∀ j (entry : SchedulerEntry), j ≠ i → (entries earlier)[j]? = some entry →
      entry.executes = true → ¬ Sees (calls j earlier) job.id

/-- A failure is recorded on the job, or its handler started, only while it is not stopped. -/
def Undisturbed (jobId : String) (P : Pool (schedulerSystem config)) :
    Label (schedulerSystem config) → Prop
  | .served _ (.statement (.write (.settleFailure id _ _ _))) _ _ =>
    id = jobId → stopped P.store.db jobId = false
  | .served _ (.statement (.handle payload)) _ _ =>
    payload.jobId = jobId → stopped P.store.db jobId = false
  | .served _ (.statement (.publishJobDue job)) _ _ =>
    job.jobId = jobId → stopped P.store.db jobId = false
  | _ => True

end Statements

section Steps

variable {job job' : ScheduledJob}

/-- An update other than that of a failure leaves a cancelled job cancelled. -/
theorem change_cancelled {write : JobWrite} (hselects : write.selects job = true)
    (hstatus : job.status = .cancelled) :
    (write.change job).status = .cancelled ∨
      ∃ suspended attempts nextRunAt,
        write = .settleFailure job.id suspended attempts nextRunAt := by
  cases write with
  | settleFailure jobId suspended attempts nextRunAt =>
    have hid : job.id = jobId := of_decide_eq_true hselects
    exact .inr ⟨suspended, attempts, nextRunAt, by rw [hid]⟩
  | updateWithVersionCheck => exact .inl hstatus
  | _ => simp [JobWrite.selects, hstatus] at hselects

/-- An update other than that of a failure or of its owner leaves a suspended job stopped. -/
theorem change_suspended {write : JobWrite} (hselects : write.selects job = true)
    (hstatus : job.status = .suspended) :
    ((write.change job).status = .suspended ∨ (write.change job).status = .cancelled) ∨
      (∃ suspended attempts nextRunAt,
        write = .settleFailure job.id suspended attempts nextRunAt) ∨
      (∃ nextRunAt, write = .reschedule job.id nextRunAt) ∨
      ∃ aggregateType aggregateId nextRunAt,
        write = .rescheduleByAggregate aggregateType aggregateId nextRunAt ∧
        job.aggregateType = some aggregateType ∧ job.aggregateId = some aggregateId := by
  cases write with
  | cancel => exact .inl (.inr rfl)
  | cancelByAggregate => exact .inl (.inr rfl)
  | settleFailure jobId suspended attempts nextRunAt =>
    have hid : job.id = jobId := of_decide_eq_true hselects
    exact .inr (.inl ⟨suspended, attempts, nextRunAt, by rw [hid]⟩)
  | reschedule jobId nextRunAt =>
    simp only [JobWrite.selects, Bool.and_eq_true, decide_eq_true_eq] at hselects
    exact .inr (.inr (.inl ⟨nextRunAt, by rw [hselects.1]⟩))
  | rescheduleByAggregate aggregateType aggregateId nextRunAt =>
    simp only [JobWrite.selects, Bool.and_eq_true, decide_eq_true_eq] at hselects
    exact .inr (.inr (.inr ⟨aggregateType, aggregateId, nextRunAt, rfl, hselects.1⟩))
  | updateWithVersionCheck => exact .inl (.inl hstatus)
  | _ => simp [JobWrite.selects, hstatus] at hselects

/-- The parts of a job that name it. -/
def ScheduledJob.identity (job : ScheduledJob) : String × Option String × Option String :=
  (job.id, job.aggregateType, job.aggregateId)

theorem change_identity (write : JobWrite) (job : ScheduledJob) :
    (write.change job).identity = job.identity := by
  cases write with
  | cancel | cancelByAggregate | reschedule | rescheduleByAggregate => rfl
  | markPendingWithNextRun | touchLastRunAt | markRunningExternal => rfl
  | settleFailure | releaseStaleClaims | updateWithVersionCheck => rfl

theorem identity_of_becomes {q : SchedulerStatement} (h : Becomes q job job') :
    job'.identity = job.identity := by
  cases h with
  | same => rfl
  | written write => exact change_identity write job
  | claimed => rfl

variable {P Q : Pool (schedulerSystem config)} {l : Label (schedulerSystem config)}
variable {jobId : String}

theorem stopped_of_get? (hjob : P.store.db.jobs.get? jobId = some job)
    (hstatus : job.status = .cancelled ∨ job.status = .suspended) :
    stopped P.store.db jobId = true := by
  rcases hstatus with h | h <;> simp [stopped, hjob, h]

/-- What a step makes of a job. -/
theorem job_of_step (h : Step (schedulerSystem config) P l Q)
    (hjob : P.store.db.jobs.get? jobId = some job) :
    ∃ job', Q.store.db.jobs.get? jobId = some job' ∧
      (job' = job ∨ ∃ i q a f, l = .served i (.statement q) a f ∧ Becomes q job job') := by
  rcases db_of_step h with hsame | ⟨i, q, a, f, choice, rfl, hexecute⟩
  · rw [hsame]
    exact ⟨job, hjob, .inl rfl⟩
  · obtain ⟨job', hget, hbecomes⟩ := job_of_execute hexecute hjob
    exact ⟨job', hget, .inr ⟨i, q, a, f, rfl, hbecomes⟩⟩

/-- No handler of a stopped job is started. -/
theorem not_starts (hok : Undisturbed jobId P l) (hstopped : stopped P.store.db jobId = true) :
    ¬ Starts jobId l := by
  intro hstarts
  simp only [Starts] at hstarts
  split at hstarts
  · exact absurd (hstopped.symm.trans (hok hstarts)) (by simp)
  · exact absurd (hstopped.symm.trans (hok hstarts)) (by simp)
  · exact hstarts

theorem cancelled_of_step (h : Step (schedulerSystem config) P l Q) (hok : Undisturbed jobId P l)
    (hjob : P.store.db.jobs.get? jobId = some job) (hstatus : job.status = .cancelled) :
    ∃ job', Q.store.db.jobs.get? jobId = some job' ∧ job'.status = .cancelled := by
  obtain ⟨job', hget, rfl | ⟨i, q, a, f, rfl, hbecomes⟩⟩ := job_of_step h hjob
  · exact ⟨job', hget, hstatus⟩
  · refine ⟨job', hget, ?_⟩
    cases hbecomes with
    | same => exact hstatus
    | claimed _ _ _ _ _ hpending =>
      rw [hstatus] at hpending
      cases hpending
    | written write hq hselects =>
      rcases change_cancelled hselects hstatus with hsame | ⟨_, _, _, rfl⟩
      · exact hsame
      · subst hq
        have hstopped := stopped_of_get? hjob (.inl hstatus)
        exact absurd (hstopped.symm.trans (hok (Table.key_of_get? hjob))) (by simp)

theorem suspended_of_step (h : Step (schedulerSystem config) P l Q) (hok : Undisturbed jobId P l)
    (hjob : P.store.db.jobs.get? jobId = some job) (hstatus : job.status = .suspended)
    (howner : ¬ Reschedules job l) :
    ∃ job', Q.store.db.jobs.get? jobId = some job' ∧ job'.identity = job.identity ∧
      (job'.status = .suspended ∨ job'.status = .cancelled) := by
  obtain ⟨job', hget, rfl | ⟨i, q, a, f, rfl, hbecomes⟩⟩ := job_of_step h hjob
  · exact ⟨job', hget, rfl, .inl hstatus⟩
  · refine ⟨job', hget, identity_of_becomes hbecomes, ?_⟩
    cases hbecomes with
    | same => exact .inl hstatus
    | claimed _ _ _ _ _ hpending =>
      rw [hstatus] at hpending
      cases hpending
    | written write hq hselects =>
      subst hq
      rcases change_suspended hselects hstatus with hsame | ⟨_, _, _, rfl⟩ | ⟨_, rfl⟩ |
        ⟨_, _, _, rfl, haggregate⟩
      · exact hsame
      · have hstopped := stopped_of_get? hjob (.inr hstatus)
        exact absurd (hstopped.symm.trans (hok (Table.key_of_get? hjob))) (by simp)
      · exact absurd rfl howner
      · exact absurd haggregate howner

end Steps

section Runs

variable {P Q : Pool (schedulerSystem config)} {trace : List (Label (schedulerSystem config))}
variable {jobId : String} {job : ScheduledJob}

theorem cancelled_of_run (h : Run (Undisturbed jobId) P trace Q)
    (hjob : P.store.db.jobs.get? jobId = some job) (hstatus : job.status = .cancelled) :
    (∃ job', Q.store.db.jobs.get? jobId = some job' ∧ job'.status = .cancelled) ∧
      ∀ l ∈ trace, ¬ Starts jobId l := by
  induction h with
  | nil =>
    refine ⟨⟨job, hjob, hstatus⟩, ?_⟩
    intro l hl
    cases hl
  | snoc hrun hok hstep ih =>
    obtain ⟨⟨job', hjob', hstatus'⟩, hnone⟩ := ih
    refine ⟨cancelled_of_step hstep hok hjob' hstatus', ?_⟩
    intro l hl
    rcases List.mem_append.mp hl with hl | hl
    · exact hnone l hl
    · obtain rfl := List.mem_singleton.mp hl
      exact not_starts hok (stopped_of_get? hjob' (.inl hstatus'))

theorem reschedules_congr {job' : ScheduledJob} (h : job'.identity = job.identity)
    (l : Label (schedulerSystem config)) : Reschedules job' l ↔ Reschedules job l := by
  simp only [ScheduledJob.identity, Prod.mk.injEq] at h
  obtain ⟨hid, htype, haggregate⟩ := h
  simp only [Reschedules, hid, htype, haggregate]

theorem suspended_of_run (h : Run (Undisturbed jobId) P trace Q)
    (hjob : P.store.db.jobs.get? jobId = some job) (hstatus : job.status = .suspended)
    (howner : ∀ l ∈ trace, ¬ Reschedules job l) :
    (∃ job', Q.store.db.jobs.get? jobId = some job' ∧ job'.identity = job.identity ∧
        (job'.status = .suspended ∨ job'.status = .cancelled)) ∧
      ∀ l ∈ trace, ¬ Starts jobId l := by
  induction h with
  | nil =>
    refine ⟨⟨job, hjob, rfl, .inl hstatus⟩, ?_⟩
    intro l hl
    cases hl
  | snoc hrun hok hstep ih =>
    obtain ⟨⟨job', hjob', hidentity, hstatus'⟩, hnone⟩ :=
      ih fun l hl => howner l (List.mem_append_left _ hl)
    refine ⟨?_, ?_⟩
    · rcases hstatus' with hsuspended | hcancelled
      · have howner' := howner _ (List.mem_append_right _ (List.mem_singleton_self _))
        rw [← reschedules_congr hidentity] at howner'
        obtain ⟨job'', hget, hidentity', hstatus''⟩ :=
          suspended_of_step hstep hok hjob' hsuspended howner'
        exact ⟨job'', hget, hidentity'.trans hidentity, hstatus''⟩
      · obtain ⟨job'', hget, rfl | ⟨_, _, _, _, _, hbecomes⟩⟩ := job_of_step hstep hjob'
        · exact ⟨job'', hget, hidentity, .inr hcancelled⟩
        · obtain ⟨job₃, hget₃, hcancelled'⟩ := cancelled_of_step hstep hok hjob' hcancelled
          cases hget.symm.trans hget₃
          exact ⟨job'', hget, (identity_of_becomes hbecomes).trans hidentity, .inr hcancelled'⟩
    · intro l hl
      rcases List.mem_append.mp hl with hl | hl
      · exact hnone l hl
      · obtain rfl := List.mem_singleton.mp hl
        exact not_starts hok (stopped_of_get? hjob' hstatus'.symm)

end Runs

section Looking

variable {P Q R : Pool (schedulerSystem config)} {l : Label (schedulerSystem config)}
variable {trace : List (Label (schedulerSystem config))}
variable {job found : ScheduledJob} {jobId : String}

theorem stops_congr (h : found.identity = job.identity) (update : JobWrite) :
    update.stops found = update.stops job := by
  simp only [ScheduledJob.identity, Prod.mk.injEq] at h
  obtain ⟨hid, htype, haggregate⟩ := h
  simp only [JobWrite.stops, hid, htype, haggregate]

theorem stopped_eq_true (db : SchedulerDb) : stopped db jobId = true ↔
    ∃ job, db.jobs.get? jobId = some job ∧ ¬ job.alive := by
  rw [stopped, Option.any_eq_true]
  simp only [Bool.or_eq_true, decide_eq_true_eq, ScheduledJob.alive, ne_eq, not_and_or, not_not]

/-- A job is stopped by an update that cancels or suspends it. -/
theorem stops_of_becomes {q : SchedulerStatement} (h : Becomes q found job) (halive : found.alive)
    (hdead : ¬ job.alive) : ∃ update, q = .write update ∧ update.stops found = true := by
  cases h with
  | same => exact absurd halive hdead
  | claimed => exact absurd ⟨by simp [ScheduledJob.claim], by simp [ScheduledJob.claim]⟩ hdead
  | written update hq hselects =>
    refine ⟨update, hq, ?_⟩
    cases update with
    | cancel jobId =>
      simp only [JobWrite.selects, Bool.and_eq_true, decide_eq_true_eq] at hselects
      simp [JobWrite.stops, hselects.1]
    | cancelByAggregate aggregateType aggregateId =>
      simp only [JobWrite.selects, Bool.and_eq_true, decide_eq_true_eq] at hselects
      simp [JobWrite.stops, hselects.1]
    | settleFailure jobId suspended attempts nextRunAt =>
      have hid : found.id = jobId := of_decide_eq_true hselects
      cases suspended with
      | true => simp [JobWrite.stops, hid]
      | false => exact absurd ⟨by simp [JobWrite.change, ScheduledJob.settle],
          by simp [JobWrite.change, ScheduledJob.settle]⟩ hdead
    | updateWithVersionCheck => exact absurd halive hdead
    | touchLastRunAt => exact absurd halive hdead
    | _ => exact absurd ⟨by simp [JobWrite.change, ScheduledJob.settle],
        by simp [JobWrite.change, ScheduledJob.settle]⟩ hdead

/-- A step that stops a job is such an update. -/
theorem stops_of_step (h : Step (schedulerSystem config) Q l R)
    (hbefore : stopped Q.store.db jobId = false) (hafter : stopped R.store.db jobId = true)
    (hidentity : ∀ found, Q.store.db.jobs.get? jobId = some found →
      found.identity = job.identity) :
    ∃ i update answer front, l = .served i (.statement (.write update)) answer front ∧
      update.stops job = true := by
  obtain ⟨dead, hdead, hnot⟩ := (stopped_eq_true _).1 hafter
  cases hfound : Q.store.db.jobs.get? jobId with
  | none =>
    rcases db_of_step h with hsame | ⟨i, q, a, f, choice, rfl, hexecute⟩
    · rw [hsame, hfound] at hdead
      cases hdead
    · have hnew := (new_of_execute hexecute hfound hdead).1
      exact absurd ⟨by simp [hnew], by simp [hnew]⟩ hnot
  | some found =>
    have halive : found.alive := by
      by_contra hnot'
      rw [(stopped_eq_true _).2 ⟨found, hfound, hnot'⟩] at hbefore
      cases hbefore
    obtain ⟨job', hget, rfl | ⟨i, q, a, f, rfl, hbecomes⟩⟩ := job_of_step h hfound
    · cases hget.symm.trans hdead
      exact absurd halive hnot
    · cases hget.symm.trans hdead
      obtain ⟨update, rfl, hstops⟩ := stops_of_becomes hbecomes halive hnot
      exact ⟨i, update, a, f, rfl, (stops_congr (hidentity found hfound) update).symm.trans hstops⟩

/-- A job that is there keeps its identity. -/
theorem identity_of_step (h : Step (schedulerSystem config) Q l R)
    (hidentity : ∀ found, R.store.db.jobs.get? jobId = some found →
      found.identity = job.identity) :
    ∀ found, Q.store.db.jobs.get? jobId = some found → found.identity = job.identity := by
  intro found hfound
  obtain ⟨job', hget, rfl | ⟨_, _, _, _, _, hbecomes⟩⟩ := job_of_step h hfound
  · exact hidentity _ hget
  · rw [← identity_of_becomes hbecomes]
    exact hidentity _ hget

/-- A tick or a worker that sees the job alive finds it so. -/
def Clear (jobId : String) (trace : List (Label (schedulerSystem config)))
    (Q : Pool (schedulerSystem config)) : Prop :=
  ∀ j (entry : SchedulerEntry), (entries trace)[j]? = some entry → entry.executes = true →
    Sees (calls j trace) jobId → stopped Q.store.db jobId = false

theorem not_sees_nil : ¬ Sees [] jobId := by
  rintro ⟨row, hseen, _⟩
  cases hseen

theorem Considerate.earlier {later : List (Label (schedulerSystem config))}
    (h : Considerate job (trace ++ later)) : Considerate job trace := by
  intro earlier rest i update answer front htrace hstops
  refine h earlier (rest ++ later) i update answer front ?_ hstops
  rw [htrace]
  simp

/-- What a thread sees with a call of its own is so. -/
theorem clear_of_own {i : Nat} {history : List SchedulerCall}
    {q : SchedulerStatement.interface.world.Request} {a : q.Answer}
    {f : Front SchedulerStatement.interface.world}
    (hstep : Step (schedulerSystem config) Q (.served i q a f) R)
    (hbefore : Sees history jobId → stopped Q.store.db jobId = false)
    (hsees : Sees (history ++ [(⟨q, a⟩ : SchedulerCall)]) jobId) :
    stopped R.store.db jobId = false := by
  obtain ⟨row, hseen, halive⟩ := hsees
  cases q with
  | clock =>
    rw [seen_clock] at hseen
    obtain ⟨_, hstore⟩ := serves_clock hstep.answered
    rw [hstore]
    exact hbefore ⟨row, hseen, halive⟩
  | randomUUID =>
    rw [seen_timeless rfl] at hseen
    cases look_eq_some hseen
  | statement q =>
    rw [seen_timeless rfl] at hseen
    cases look_eq_some hseen
    obtain ⟨choice, db, hexecute, hstore⟩ := serves_statement.mp hstep.answered
    obtain ⟨hsame, hrow⟩ := findById_execute hexecute
    rw [hstore, hsame]
    by_contra hstopped
    rw [Bool.not_eq_false, stopped_eq_true] at hstopped
    obtain ⟨job, hjob, hdead⟩ := hstopped
    refine hdead (halive job ?_)
    rw [hrow row rfl]
    exact hjob

theorem clear_of_run {ok : Pool (schedulerSystem config) → Label (schedulerSystem config) → Prop}
    (hthreads : P.threads = []) (h : Run ok P trace Q)
    (hidentity : ∀ found, Q.store.db.jobs.get? job.id = some found →
      found.identity = job.identity)
    (hconsiderate : Considerate job trace) : Clear job.id trace Q := by
  induction h with
  | nil =>
    intro j entry _ _ hsees
    exact absurd hsees not_sees_nil
  | @snoc trace Q R l hrun hok hstep ih =>
    have hbefore := ih (identity_of_step hstep hidentity) hconsiderate.earlier
    have hall := accounted_of_run hthreads hrun
    intro j entry hentry hexecutes hsees
    cases l with
    | start entry' =>
      rw [calls_start] at hsees
      rw [entries_start] at hentry
      cases hstep
      by_cases hj : j < (entries trace).length
      · rw [List.getElem?_append_left hj] at hentry
        exact hbefore j entry hentry hexecutes hsees
      · rw [hall.later j (by rw [← hall.length]; exact Nat.le_of_not_lt hj)] at hsees
        exact absurd hsees not_sees_nil
    | raised i q =>
      rw [calls_raised] at hsees
      rw [entries_raised] at hentry
      cases hstep
      exact hbefore j entry hentry hexecutes hsees
    | served i q a f =>
      rw [entries_served] at hentry
      by_cases hj : i = j
      · subst hj
        rw [calls_served_self] at hsees
        exact clear_of_own hstep (hbefore i entry hentry hexecutes) hsees
      · rw [calls_served_other hj] at hsees
        have halive := hbefore j entry hentry hexecutes hsees
        by_contra hstopped
        rw [Bool.not_eq_false] at hstopped
        obtain ⟨i', update, answer, front, hl, hstops⟩ :=
          stops_of_step hstep halive hstopped (identity_of_step hstep hidentity)
        cases hl
        exact hconsiderate trace [] i update _ _ rfl hstops j entry (Ne.symm hj) hentry
          hexecutes hsees

/-- Under the condition no step of a run acts on the job after it was stopped. -/
theorem undisturbed_of_considerate
    {ok : Pool (schedulerSystem config) → Label (schedulerSystem config) → Prop}
    (hthreads : P.threads = []) (h : Run ok P trace Q)
    (hidentity : ∀ found, Q.store.db.jobs.get? job.id = some found →
      found.identity = job.identity)
    (hconsiderate : Considerate job trace) (hstep : Step (schedulerSystem config) Q l R) :
    Undisturbed job.id Q l := by
  have hclear := clear_of_run hthreads h hidentity hconsiderate
  have hbecause : ∀ i q a f, l = .served i q a f → ∃ entry : SchedulerEntry,
      (entries trace)[i]? = some entry ∧
        LooksFirst config entry.executes (calls i trace) q := by
    rintro i q a f rfl
    exact looks_of_step hthreads h hstep
  simp only [Undisturbed]
  split
  · rename_i i jobId suspended attempts nextRunAt answer front
    rintro rfl
    obtain ⟨entry, hentry, hexecutes, found, hseen, halive, _⟩ := hbecause _ _ _ _ rfl
    refine hclear i entry hentry hexecutes ⟨some found, hseen, ?_⟩
    intro job' hjob'
    obtain rfl := Option.mem_some_iff.mp hjob'
    exact halive
  · rename_i i payload answer front
    intro hid
    obtain ⟨entry, hentry, hexecutes, hsees⟩ := hbecause _ _ _ _ rfl
    rw [hid] at hsees
    exact hclear i entry hentry hexecutes hsees
  · rename_i i queued answer front
    intro hid
    obtain ⟨entry, hentry, hexecutes, hsees⟩ := hbecause _ _ _ _ rfl
    rw [hid] at hsees
    exact hclear i entry hentry hexecutes hsees
  · trivial

theorem identity_of_run
    {ok : Pool (schedulerSystem config) → Label (schedulerSystem config) → Prop}
    (h : Run ok P trace Q) (hjob : P.store.db.jobs.get? jobId = some job) :
    ∃ found, Q.store.db.jobs.get? jobId = some found ∧ found.identity = job.identity := by
  induction h with
  | nil => exact ⟨job, hjob, rfl⟩
  | snoc hrun hok hstep ih =>
    obtain ⟨found, hfound, hidentity⟩ := ih
    obtain ⟨job', hget, rfl | ⟨_, _, _, _, _, hbecomes⟩⟩ := job_of_step hstep hfound
    · exact ⟨job', hget, hidentity⟩
    · exact ⟨job', hget, (identity_of_becomes hbecomes).trans hidentity⟩

/-- Where no job is stopped while another tick or worker has found it alive and not yet acted: a
cancelled job stays cancelled, a suspended one stopped until its owner reschedules it, and
neither is started. -/
theorem never_resurrected {before later : List (Label (schedulerSystem config))}
    (hthreads : P.threads = []) (hbefore : Run (fun _ _ => True) P before Q)
    (hlater : Run (fun _ _ => True) Q later R)
    (hjob : Q.store.db.jobs.get? job.id = some job)
    (hconsiderate : Considerate job (before ++ later)) :
    (job.status = .cancelled →
      (∃ job', R.store.db.jobs.get? job.id = some job' ∧ job'.status = .cancelled) ∧
        ∀ l ∈ later, ¬ Starts job.id l) ∧
    (job.status = .suspended → (∀ l ∈ later, ¬ Reschedules job l) →
      (∃ job', R.store.db.jobs.get? job.id = some job' ∧
          (job'.status = .suspended ∨ job'.status = .cancelled)) ∧
        ∀ l ∈ later, ¬ Starts job.id l) := by
  have hundisturbed : Run (Undisturbed job.id) Q later R := by
    induction hlater with
    | nil => exact .nil
    | @snoc later S T l hrun _ hstep ih =>
      rw [← List.append_assoc] at hconsiderate
      refine (ih hconsiderate.earlier).snoc ?_ hstep
      obtain ⟨found, hfound, hidentity⟩ := identity_of_run hrun hjob
      refine undisturbed_of_considerate hthreads (hbefore.append hrun) ?_ hconsiderate.earlier hstep
      intro found' hfound'
      cases hfound.symm.trans hfound'
      exact hidentity
  refine ⟨cancelled_of_run hundisturbed hjob, fun hstatus howner => ?_⟩
  obtain ⟨⟨job', hget, _, hstatus'⟩, hnone⟩ := suspended_of_run hundisturbed hjob hstatus howner
  exact ⟨⟨job', hget, hstatus'⟩, hnone⟩

end Looking

section Example

open Scenario

/-- The queue fails, the failure is being recorded, the job is cancelled in between, and waits
again for its run. -/
theorem cancelled_then_pending :
    ∃ (Q R : DemoPool) (trace trace' : List (Label (schedulerSystem demo))),
      Run (fun _ _ => True) (poolOf (jobOf .external .pending 0) []) trace Q ∧
        Run (fun _ _ => True) Q trace' R ∧
        statusOf Q = some .cancelled ∧ statusOf R = some .pending := by
  have hplay : (((poolOf (jobOf .external .pending 0) []).play (fun _ _ => True)
      (missesQueue 0 "d1" 1000 ++ [enter (.cancel "j" (some "t"))] ++ settle 1 2)).bind fun Q =>
        (Q.play (fun _ _ => True) (settle 0 1)).map fun R =>
          decide (statusOf Q = some .cancelled ∧ statusOf R = some .pending)) = some true := by
    decide
  exact Pool.play_reaches hplay

/-- The step is no update that stops the job. -/
def quiet (job : ScheduledJob) : Label (schedulerSystem config) → Bool
  | .served _ (.statement (.write update)) _ _ => !update.stops job
  | _ => true

theorem considerate_of_quiet {job : ScheduledJob} {trace : List (Label (schedulerSystem config))}
    (h : ∀ l ∈ trace, quiet job l = true) : Considerate job trace := by
  rintro earlier later i update answer front rfl hstops
  have hquiet := h _ (List.mem_append_right _ (List.mem_cons_self ..))
  simp [quiet, hstops] at hquiet

/-- A cancelled job taken from the queue is not started. -/
theorem never_resurrected_demo :
    ∃ (Q : DemoPool) (trace : List (Label (schedulerSystem demo))),
      trace.length = 6 ∧
        Run (fun _ _ => True) (poolOf (jobOf .external .cancelled 0)
          [queued (jobOf .external .cancelled 0) "k"]) trace Q ∧
        (∃ job, Q.store.db.jobs.get? "j" = some job ∧ job.status = .cancelled) ∧
        ∀ l ∈ trace, ¬ Starts "j" l := by
  have hplay : (((poolOf (jobOf .external .cancelled 0)
      [queued (jobOf .external .cancelled 0) "k"]).record (fun _ _ => True)
        ([enter .work, serve 0 (.given "k"), tick 0 1000] ++ settle 0 3)).map fun r =>
          decide (r.1.length = 6 ∧ ∀ l ∈ r.1, quiet (jobOf .external .cancelled 0) l = true)) =
            some true := by
    decide
  obtain ⟨Q, trace, hrun, hlength, hquiet⟩ :
      ∃ (Q : DemoPool) (trace : List (Label (schedulerSystem demo))),
        Run (fun _ _ => True) (poolOf (jobOf .external .cancelled 0)
          [queued (jobOf .external .cancelled 0) "k"]) trace Q ∧ trace.length = 6 ∧
            ∀ l ∈ trace, quiet (jobOf .external .cancelled 0) l = true :=
    Pool.record_reach hplay
  have hjob : (poolOf (jobOf .external .cancelled 0)
      [queued (jobOf .external .cancelled 0) "k"]).store.db.jobs.get? "j" =
        some (jobOf .external .cancelled 0) := by decide
  have hkeeps := never_resurrected rfl .nil hrun hjob (considerate_of_quiet hquiet)
  exact ⟨Q, trace, hlength, hrun, hkeeps.1 rfl⟩

end Example

end DddBoilerplate.Scheduler
