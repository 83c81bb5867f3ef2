/- module: DddBoilerplate/Scheduler/Looks
   generality: I
   digest: What a thread has seen of a job when it records a failure on it or starts its handler. -/

import DddBoilerplate.Concurrency.History
import DddBoilerplate.Scheduler.Settlement

set_option autoImplicit false
set_option relaxedAutoImplicit false
set_option linter.all false

namespace DddBoilerplate.Scheduler

open Concurrency
open Recurring (JobStatus)

abbrev SchedulerCall := Call SchedulerStatement.interface.world

section Histories

def SchedulerCall.timeless : SchedulerCall → Bool
  | ⟨.clock, _⟩ => false
  | _ => true

/-- The job a call looks at, and what it sees of it. -/
def SchedulerCall.look? : SchedulerCall → Option (String × Option ScheduledJob)
  | ⟨.statement (.findById jobId), .ok row⟩ => some (jobId, row)
  | _ => none

/-- What a thread looks at: the job it has found last, if it has only asked for the time since. -/
def seen (history : List SchedulerCall) : Option (String × Option ScheduledJob) :=
  (history.filter SchedulerCall.timeless).getLast?.bind SchedulerCall.look?

variable {history : List SchedulerCall}

theorem seen_clock (reading : Nat) :
    seen (history ++ [(⟨.clock, reading⟩ : SchedulerCall)]) = seen history := by
  simp [seen, SchedulerCall.timeless]

theorem seen_timeless {call : SchedulerCall} (h : call.timeless = true) :
    seen (history ++ [call]) = call.look? := by
  simp [seen, h]

theorem look_eq_some {call : SchedulerCall} {jobId : String} {row : Option ScheduledJob}
    (h : call.look? = some (jobId, row)) : call = ⟨.statement (.findById jobId), .ok row⟩ := by
  simp only [SchedulerCall.look?] at h
  split at h
  · cases h
    rfl
  · cases h

/-- The job is neither cancelled nor suspended. -/
def ScheduledJob.alive (job : ScheduledJob) : Prop :=
  job.status ≠ .cancelled ∧ job.status ≠ .suspended

end Histories

/-- The thread has found the job alive, or not at all, and not yet acted on it. -/
def Sees (history : List SchedulerCall) (jobId : String) : Prop :=
  ∃ row, seen history = some (jobId, row) ∧ ∀ job ∈ row, job.alive

/-- The entries that record failures and start handlers. -/
def SchedulerEntry.executes : SchedulerEntry → Bool
  | dispatch _ _ | work => true
  | _ => false

variable (config : SchedulerConfig) (executes : Bool)

/-- A failure is recorded on a job that was seen alive, counted from what was seen; a handler is
started of a job that was seen alive, or not at all. -/
def LooksFirst (history : List SchedulerCall) :
    SchedulerStatement.interface.world.Request → Prop
  | .statement (.write (.settleFailure jobId suspended attempts _)) =>
    executes = true ∧ ∃ job, seen history = some (jobId, some job) ∧ job.alive ∧
      attempts = job.retryCount + 1 ∧ suspended = decide (config.maxRetries ≤ attempts)
  | .statement (.handle payload) => executes = true ∧ Sees history payload.jobId
  | .statement (.publishJobDue queued) => executes = true ∧ Sees history queued.jobId
  | _ => True

/-- Whatever was called before, the program looks first. -/
abbrev Careful {α : Type} (m : SchedulerProgram α) : Prop :=
  ∀ history, Accounted (LooksFirst config executes) (fun _ _ => True) history m

variable {config executes}

section Programs

variable {α β : Type}

theorem Careful.bind {m : SchedulerProgram α} {f : α → SchedulerProgram β}
    (hm : Careful config executes m) (hf : ∀ a, Careful config executes (f a)) : Careful config executes (m >>= f) :=
  fun history => (hm history).bind fun history' a _ => hf a history'

theorem Careful.handle {m : SchedulerProgram α} {f : α → SchedulerProgram β}
    {g : String → SchedulerProgram β} (hm : Careful config executes m) (hf : ∀ a, Careful config executes (f a))
    (hg : ∀ e, Careful config executes (g e)) : Careful config executes (m.handle f g) := by
  intro history
  refine @Accounted.handle _ _ _ _ _ _ _ (fun _ => True) _ _ _ _ (hm history) trivial ?_ ?_ ?_ ?_
  · intro _ _ _ _ _
    trivial
  · intro _ _ h
    exact h
  · intro history' a _ _
    exact hf a history'
  · intro history' e _
    exact hg e history'

theorem Careful.each {f : α → SchedulerProgram Unit} (hf : ∀ a, Careful config executes (f a))
    (as : List α) : Careful config executes (Program.each f as) := by
  induction as with
  | nil =>
    intro _
    trivial
  | cons a as ih => exact (hf a).bind fun _ => ih

theorem careful_done (a : α) : Careful config executes (.done a : SchedulerProgram α) := fun _ => trivial

theorem careful_fail (e : String) : Careful config executes (.fail e : SchedulerProgram α) :=
  fun _ => trivial

theorem careful_lift (m : Except String α) : Careful config executes (Program.lift m) := by
  cases m with
  | ok a => exact careful_done a
  | error e => exact careful_fail e

theorem careful_clock : Careful config executes clock := fun _ => ⟨trivial, fun _ => trivial⟩

/-- A statement that is neither the update of a failure nor the start of a handler. -/
theorem careful_statement {q : SchedulerStatement}
    (hq : ∀ history, LooksFirst config executes history (.statement q)) :
    Careful config executes (statement q) := fun history => ⟨hq history, fun _ => trivial⟩

theorem careful_awaiting {call : SchedulerProgram (Except String α)} (h : Careful config executes call) :
    Careful config executes (awaiting call) := h.bind careful_lift

theorem careful_recordFailure (jobId : String) : Careful config true (recordFailure config jobId) := by
  intro history
  refine ⟨trivial, fun answer => ?_⟩
  cases answer with
  | error message => trivial
  | ok row =>
    cases row with
    | none => trivial
    | some job =>
      change Accounted _ _ _ (if job.status = .cancelled ∨ job.status = .suspended then _ else _)
      split
      · trivial
      · rename_i halive
        rw [not_or] at halive
        refine ⟨trivial, fun now => ⟨?_, fun answer => ?_⟩⟩
        · refine ⟨rfl, job, ?_, halive, rfl, rfl⟩
          rw [seen_clock, seen_timeless rfl]
          rfl
        · cases answer with
          | error message => trivial
          | ok count => trivial

theorem careful_process (job : SchedulerQueuedJob) (attempt : Nat) :
    Careful config true (process config job attempt) := by
  have hfire : ∀ history row, seen history = some (job.jobId, row) → (∀ job ∈ row, job.alive) →
      Accounted (LooksFirst config true) (fun _ _ => True) history
        (process.fire config job attempt) := by
    intro history row hseen halive
    simp only [process.fire]
    split
    · refine ⟨⟨rfl, row, hseen, halive⟩, fun answer => ?_⟩
      exact careful_lift answer _
    · refine ⟨⟨rfl, row, hseen, halive⟩, fun answer => ?_⟩
      exact careful_lift answer _
  intro history
  refine ⟨trivial, fun answer => ?_⟩
  cases answer with
  | error message => trivial
  | ok row =>
    have hseen : seen (history ++
        [(⟨.statement (.findById job.jobId), .ok row⟩ : SchedulerCall)]) =
          some (job.jobId, row) := seen_timeless rfl
    cases row with
    | none => exact hfire _ none hseen fun job h => by cases h
    | some found =>
      change Accounted _ _ _ (if found.status = .cancelled ∨ found.status = .suspended then _ else _)
      split
      · trivial
      · rename_i halive
        rw [not_or] at halive
        refine hfire _ (some found) hseen fun job h => ?_
        obtain rfl := Option.mem_some_iff.mp h
        exact halive

theorem careful_deliver (job : ClaimedJob) (key : String) (started : Nat) :
    Careful config executes (deliver config job key started) := by
  refine (careful_awaiting (careful_statement fun _ => by trivial)).bind fun _ => ?_
  refine careful_clock.bind fun completedAt => ?_
  refine (careful_awaiting (careful_statement fun _ => by trivial)).bind fun _ => ?_
  split
  · refine careful_clock.bind fun now => ?_
    exact (careful_awaiting (careful_statement fun _ => by trivial)).bind fun _ => careful_done ()
  · refine careful_clock.bind fun now => ?_
    exact (careful_awaiting (careful_statement fun _ => by trivial)).bind fun _ => careful_done ()
  · refine careful_clock.bind fun now => (careful_lift _).bind fun next => ?_
    refine careful_clock.bind fun lastRunAt => ?_
    exact (careful_awaiting (careful_statement fun _ => by trivial)).bind fun _ => careful_done ()

theorem careful_dispatchOne (job : ClaimedJob) : Careful config true (dispatchOne config job) := by
  refine (careful_statement fun _ => by trivial).bind fun acquired => ?_
  cases acquired with
  | false => exact careful_done ()
  | true =>
    refine careful_clock.bind fun started => ?_
    refine (careful_deliver job _ started).handle (fun _ => careful_done ()) fun message => ?_
    refine Careful.handle ?_ (fun _ => careful_done ()) fun _ => careful_done ()
    refine careful_clock.bind fun completedAt => ?_
    refine (careful_awaiting (careful_statement fun _ => by trivial)).bind fun _ => ?_
    exact careful_recordFailure job.id

theorem careful_dispatchRounds (limit : Nat) (lockedBy : String) (rounds : Nat) :
    Careful config true (dispatchRounds config limit lockedBy rounds) := by
  induction rounds with
  | zero => exact careful_done ()
  | succ rounds ih =>
    refine Careful.bind ?_ fun claimed => ?_
    · exact careful_clock.bind fun now => careful_statement fun _ => by trivial
    · refine (Careful.each careful_dispatchOne claimed).bind fun _ => ?_
      split
      · exact careful_done ()
      · exact ih

theorem careful_work : Careful config true (work config) := by
  refine (careful_statement fun _ => by trivial).bind fun taken => ?_
  cases taken with
  | none => exact careful_done ()
  | some entry =>
    refine Careful.handle ?_ (fun _ => careful_statement fun _ => by trivial) fun message => ?_
    · simp only [workerProcess]
      split
      · exact careful_process entry.job _
      · refine careful_clock.bind fun now => ?_
        exact (careful_awaiting (careful_statement fun _ => by trivial)).bind fun _ =>
          careful_process entry.job _
    · refine (careful_statement fun _ => by trivial).bind fun attemptsMade => ?_
      split
      · refine Careful.handle ?_ (fun _ => careful_done ()) fun _ => careful_done ()
        refine (careful_recordFailure _).bind fun outcome => ?_
        exact careful_clock.bind fun completedAt =>
          careful_awaiting (careful_statement fun _ => by trivial)
      · exact careful_done ()

theorem careful_catchUp (now : Nat) (job : ScheduledJob) :
    Careful config executes (catchUp config now job) := by
  simp only [catchUp]
  split
  · exact careful_done ()
  · split
    · exact careful_done ()
    · exact careful_done ()
    · refine careful_clock.bind fun now => (careful_lift _).bind fun next => ?_
      exact (careful_awaiting (careful_statement fun _ => by trivial)).bind fun _ => careful_done ()

theorem careful_reconcile : Careful config executes (reconcileMissedJobs config) := by
  refine careful_clock.bind fun now => ?_
  refine (careful_awaiting (careful_statement fun _ => by trivial)).bind fun _ => ?_
  refine (careful_statement fun _ => by trivial).bind fun overdue => ?_
  exact careful_clock.bind fun now => Careful.each (careful_catchUp now) overdue

theorem careful_visible (jobId : String) (tenantId : Option String) :
    Careful config executes (visible jobId tenantId) := by
  refine (careful_awaiting (careful_statement fun _ => by trivial)).bind fun job => ?_
  cases job with
  | none => exact careful_fail _
  | some job => exact (careful_lift _).bind fun _ => careful_done job

/-- An update on its own, if it is not that of a failure. -/
theorem careful_write {update : JobWrite}
    (h : ∀ history, LooksFirst config executes history (.statement (.write update))) :
    Careful config executes (do
      let _count ← awaiting (statement (.write update))) :=
  (careful_awaiting (careful_statement h)).bind fun _ => careful_done ()

theorem careful_register (input : JobColumns) (nextRunAt : Option Nat) :
    Careful config executes (register config input nextRunAt) := by
  refine (careful_lift _).bind fun _ => (careful_lift _).bind fun _ => ?_
  refine (careful_lift _).bind fun _ => (careful_lift _).bind fun _ => ?_
  refine (careful_lift _).bind fun _ => (careful_lift _).bind fun _ => ?_
  split
  · refine careful_clock.bind fun now => (careful_lift _).bind fun next => ?_
    exact (careful_statement fun _ => by trivial).bind fun _ => careful_done ()
  · exact careful_fail _
  · exact (careful_statement fun _ => by trivial).bind fun _ => careful_done ()

theorem careful_dispatchNow (jobId : String) (tenantId : Option String) :
    Careful config executes (dispatchNow jobId tenantId) := by
  refine (careful_visible jobId tenantId).bind fun job => ?_
  split
  · exact careful_fail _
  · split
    · exact careful_fail _
    · refine careful_clock.bind fun now => ?_
      refine (careful_awaiting (careful_statement fun _ => by trivial)).bind fun _ => ?_
      refine (careful_awaiting (careful_statement fun _ => by trivial)).bind fun updated => ?_
      cases updated with
      | none => exact careful_fail _
      | some job => exact careful_done ()

theorem careful_update (jobId : String) (expectedVersion : Nat) (cronExpression : Option String)
    (nextRunAt : Option Nat) (tenantId : Option String) :
    Careful config executes (update config jobId expectedVersion cronExpression nextRunAt tenantId) := by
  have hstore : ∀ cronExpression nextRunAt,
      Careful config executes (update.store jobId expectedVersion cronExpression nextRunAt) := by
    intro cronExpression nextRunAt
    refine (careful_awaiting (careful_statement fun _ => by trivial)).bind fun count => ?_
    split
    · exact careful_done ()
    · exact careful_fail _
  refine (careful_visible jobId tenantId).bind fun existing => ?_
  cases cronExpression with
  | none =>
    cases nextRunAt with
    | none => exact careful_done ()
    | some nextRunAt => exact hstore _ nextRunAt
  | some expression =>
    refine (careful_lift _).bind fun _ => careful_clock.bind fun now => ?_
    exact (careful_lift _).bind fun next => hstore _ _

/-- Every program of the scheduler looks first. -/
theorem careful_program (entry : SchedulerEntry) :
    Careful config entry.executes (entry.program config) := by
  cases entry with
  | register input nextRunAt => exact careful_register input nextRunAt
  | dispatch limit rounds =>
    intro history
    exact ⟨trivial, fun lockedBy => careful_dispatchRounds _ lockedBy rounds _⟩
  | work => exact careful_work
  | stalled idempotencyKey => exact careful_statement fun _ => by trivial
  | reconcile => exact careful_reconcile
  | cancel jobId tenantId =>
    exact (careful_visible jobId tenantId).bind fun _ => (careful_write fun _ => by trivial)
  | cancelByAggregate aggregateType aggregateId => exact careful_write fun _ => by trivial
  | reschedule jobId nextRunAt => exact careful_write fun _ => by trivial
  | rescheduleByAggregate aggregateType aggregateId nextRunAt =>
    exact careful_write fun _ => by trivial
  | dispatchNow jobId tenantId => exact careful_dispatchNow jobId tenantId
  | update jobId expectedVersion cronExpression nextRunAt tenantId =>
    exact careful_update jobId expectedVersion cronExpression nextRunAt tenantId

end Programs

section Runs

variable {P Q R : Pool (schedulerSystem config)}
variable {trace : List (Label (schedulerSystem config))}

/-- Every thread of a run is accounted for by what it has looked at. -/
theorem accounted_of_run
    {ok : Pool (schedulerSystem config) → Label (schedulerSystem config) → Prop}
    (hthreads : P.threads = []) (hrun : Run ok P trace Q) :
    AllAccounted (fun entry : SchedulerEntry => LooksFirst config entry.executes) trace Q :=
  AllAccounted.run (fun entry => careful_program entry []) hrun hthreads

/-- What a thread asks, it asks after having looked. -/
theorem looks_of_step {ok : Pool (schedulerSystem config) → Label (schedulerSystem config) → Prop}
    (hthreads : P.threads = []) (hrun : Run ok P trace Q) {i : Nat}
    {q : SchedulerStatement.interface.world.Request} {a : q.Answer}
    {f : Front SchedulerStatement.interface.world}
    (hstep : Step (schedulerSystem config) Q (.served i q a f) R) :
    ∃ entry : SchedulerEntry, (entries trace)[i]? = some entry ∧
      LooksFirst config entry.executes (calls i trace) q :=
  @because_of_entry (schedulerSystem config) (fun entry => LooksFirst config entry.executes)
    _ _ _ _ _ (fun entry => careful_program entry []) hrun hthreads _ _ _ _ hstep

end Runs

end DddBoilerplate.Scheduler
