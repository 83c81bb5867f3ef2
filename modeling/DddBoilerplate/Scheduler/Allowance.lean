/- module: DddBoilerplate/Scheduler/Allowance
   generality: I
   digest: What the failures of a job count, and when a suspension means that the last of them followed one another. -/

import DddBoilerplate.Scheduler.Looks
import DddBoilerplate.Scheduler.Scenario

set_option autoImplicit false
set_option relaxedAutoImplicit false
set_option linter.all false

namespace DddBoilerplate.Scheduler

open Concurrency Store
open Recurring (JobStatus)

variable {config : SchedulerConfig}

section Outcomes

/-- An execution of the job is over: it succeeded, or its failure has been recorded. -/
def outcome? (jobId : String) : Label (schedulerSystem config) → Option Bool
  | .served _ (.statement (.handle payload)) (.ok _) _ =>
    if payload.jobId = jobId then some true else none
  | .served _ (.statement (.publishJobDue job)) (.ok _) _ =>
    if job.jobId = jobId then some true else none
  | .served _ (.statement (.write (.settleFailure id _ _ _))) (.ok _) _ =>
    if id = jobId then some false else none
  | _ => none

/-- One more outcome after so many failures in a row. -/
def streakAfter (failures : Nat) : Option Bool → Nat
  | none => failures
  | some true => 0
  | some false => failures + 1

/-- The failures of the job since its last success. -/
def streak (jobId : String) (trace : List (Label (schedulerSystem config))) : Nat :=
  trace.foldl (fun failures l => streakAfter failures (outcome? jobId l)) 0

theorem streak_snoc (jobId : String) (trace : List (Label (schedulerSystem config)))
    (l : Label (schedulerSystem config)) :
    streak jobId (trace ++ [l]) = streakAfter (streak jobId trace) (outcome? jobId l) := by
  simp [streak]

/-- An execution of the job succeeds only while no failure of it is counted. -/
def Forgiven (jobId : String) (P : Pool (schedulerSystem config))
    (l : Label (schedulerSystem config)) : Prop :=
  outcome? jobId l = some true →
    ∀ job ∈ P.store.db.jobs.get? jobId, job.retryCount = 0

instance (jobId : String) (P : Pool (schedulerSystem config))
    (l : Label (schedulerSystem config)) : Decidable (Forgiven jobId P l) :=
  inferInstanceAs (Decidable (_ → _))

end Outcomes

section Counting

variable {db db' : SchedulerDb} {choice : SchedulerChoice} {jobId : String}

/-- Some failure of the job is counted. -/
def Counted (jobId : String) (db : SchedulerDb) : Prop :=
  ∃ job, db.jobs.get? jobId = some job ∧ 0 < job.retryCount

/-- The update records a failure of the job. -/
def SchedulerStatement.fails (jobId : String) : SchedulerStatement → Bool
  | write (.settleFailure id _ _ _) => id = jobId
  | _ => false

theorem retryCount_of_becomes {q : SchedulerStatement} {job job' : ScheduledJob}
    (h : Becomes q job job') (hq : q.fails job.id = false) :
    job'.retryCount = job.retryCount := by
  cases h with
  | same => rfl
  | claimed => rfl
  | written update hupdate hselects =>
    subst hupdate
    cases update with
    | settleFailure id suspended attempts nextRunAt =>
      have hid : job.id = id := of_decide_eq_true hselects
      simp [SchedulerStatement.fails, hid] at hq
    | _ => rfl

/-- Any other statement leaves the count, and a new job has none. -/
theorem count_of_execute {q : SchedulerStatement} {a : q.Answer}
    (h : q.execute choice db = some (a, db')) (hq : q.fails jobId = false) {job' : ScheduledJob}
    (hjob' : db'.jobs.get? jobId = some job') :
    job'.retryCount = 0 ∨
      ∃ job, db.jobs.get? jobId = some job ∧ job'.retryCount = job.retryCount := by
  cases hjob : db.jobs.get? jobId with
  | none => exact .inl (new_of_execute h hjob hjob').2
  | some job =>
    obtain ⟨job'', hget, hbecomes⟩ := job_of_execute h hjob
    cases hget.symm.trans hjob'
    rw [← Table.key_of_get? hjob] at hq
    exact .inr ⟨job, rfl, retryCount_of_becomes hbecomes hq⟩

theorem counted_of_execute {q : SchedulerStatement} {a : q.Answer}
    (h : q.execute choice db = some (a, db')) (hq : q.fails jobId = false)
    (hcounted : Counted jobId db) : Counted jobId db' := by
  obtain ⟨job, hjob, hpositive⟩ := hcounted
  obtain ⟨job', hget, hbecomes⟩ := job_of_execute h hjob
  rw [← Table.key_of_get? hjob] at hq
  exact ⟨job', hget, by rw [retryCount_of_becomes hbecomes hq]; exact hpositive⟩

/-- An update that is refused changes nothing. -/
theorem write_execute {update : JobWrite} {answer : Except String Nat}
    (h : (SchedulerStatement.write update).execute choice db = some (answer, db')) :
    (∃ message, answer = .error message ∧ db' = db) ∨
      ∃ count, answer = .ok count ∧ db'.jobs = (update.run db.jobs).2 := by
  cases choice with
  | settled =>
    cases h
    exact .inr ⟨_, rfl, rfl⟩
  | refused message =>
    cases h
    exact .inl ⟨message, rfl, rfl⟩
  | _ => cases h

/-- The failure that is recorded is the count of its job. -/
theorem get?_settleFailure {suspended : Bool} {attempts nextRunAt : Nat} :
    ((JobWrite.settleFailure jobId suspended attempts nextRunAt).run db.jobs).2.get? jobId =
      (db.jobs.get? jobId).map
        (JobWrite.settleFailure jobId suspended attempts nextRunAt).change := by
  rw [JobWrite.run, Table.get?_updateMany (JobWrite.change_id _)]
  cases hjob : db.jobs.get? jobId with
  | none => rfl
  | some job =>
    have hid := Table.key_of_get? hjob
    simp [JobWrite.selects, hid]

end Counting

section Runs

variable {P Q R : Pool (schedulerSystem config)} {l : Label (schedulerSystem config)}
variable {trace : List (Label (schedulerSystem config))} {jobId : String}

/-- The counts of a job, in its row and as the threads have seen it, are of failures in a row. -/
structure Tallied (jobId : String) (trace : List (Label (schedulerSystem config)))
    (Q : Pool (schedulerSystem config)) : Prop where
  row : ∀ job, Q.store.db.jobs.get? jobId = some job → job.retryCount ≤ streak jobId trace
  looked : ∀ i job, seen (calls i trace) = some (jobId, some job) →
    job.retryCount ≤ streak jobId trace ∧ (0 < job.retryCount → Counted jobId Q.store.db)

/-- A step that is no outcome of the job keeps the tally, whatever its thread sees with it. -/
theorem Tallied.of_quiet (h : Tallied jobId trace Q) (houtcome : outcome? jobId l = none)
    (hrow : ∀ job', R.store.db.jobs.get? jobId = some job' → job'.retryCount = 0 ∨
      ∃ job, Q.store.db.jobs.get? jobId = some job ∧ job'.retryCount = job.retryCount)
    (hcounted : Counted jobId Q.store.db → Counted jobId R.store.db)
    (hseen : ∀ i job, seen (calls i (trace ++ [l])) = some (jobId, some job) →
      seen (calls i trace) = some (jobId, some job) ∨ Q.store.db.jobs.get? jobId = some job) :
    Tallied jobId (trace ++ [l]) R := by
  have hstreak : streak jobId (trace ++ [l]) = streak jobId trace := by
    rw [streak_snoc, houtcome]
    rfl
  constructor
  · intro job' hjob'
    rw [hstreak]
    rcases hrow job' hjob' with hzero | ⟨job, hjob, hsame⟩
    · omega
    · rw [hsame]
      exact h.row job hjob
  · intro i job hsees
    rw [hstreak]
    rcases hseen i job hsees with hsees | hjob
    · obtain ⟨hle, hpositive⟩ := h.looked i job hsees
      exact ⟨hle, fun hlt => hcounted (hpositive hlt)⟩
    · exact ⟨h.row job hjob, fun hlt => hcounted ⟨job, hjob, hlt⟩⟩

/-- What a thread sees after a step of its own: what it saw, or the row as it is. -/
theorem seen_of_step {i j : Nat} {q : SchedulerStatement.interface.world.Request} {a : q.Answer}
    {f : Front SchedulerStatement.interface.world} {job : ScheduledJob}
    (hstep : Step (schedulerSystem config) Q (.served i q a f) R)
    (h : seen (calls j (trace ++ [(.served i q a f : Label (schedulerSystem config))])) =
      some (jobId, some job)) :
    seen (calls j trace) = some (jobId, some job) ∨ Q.store.db.jobs.get? jobId = some job := by
  by_cases hj : i = j
  · subst hj
    rw [calls_served_self] at h
    cases q with
    | clock =>
      rw [seen_clock] at h
      exact .inl h
    | randomUUID =>
      rw [seen_timeless rfl] at h
      cases look_eq_some h
    | statement q =>
      rw [seen_timeless rfl] at h
      cases look_eq_some h
      obtain ⟨choice, db, hexecute, _⟩ := serves_statement.mp hstep.answered
      exact .inr ((findById_execute hexecute).2 _ rfl).symm
  · rw [calls_served_other hj] at h
    exact .inl h

theorem fails_of_outcome {i : Nat} {q : SchedulerStatement} {a : q.Answer}
    {f : Front SchedulerStatement.interface.world}
    (h : outcome? jobId (.served i (.statement q) a f : Label (schedulerSystem config)) =
      some false) : q.fails jobId = true := by
  simp only [outcome?] at h
  split at h
  · split at h <;> cases h
  · split at h <;> cases h
  · rename_i heq
    cases heq
    split at h
    · rename_i hid
      simpa [SchedulerStatement.fails] using hid
    · cases h
  · cases h

/-- A success while nothing is counted starts the tally again. -/
theorem Tallied.succeeds {i : Nat} {q : SchedulerStatement} {a : q.Answer}
    {f : Front SchedulerStatement.interface.world} (h : Tallied jobId trace Q)
    (hstep : Step (schedulerSystem config) Q (.served i (.statement q) a f) R)
    (hok : Forgiven jobId Q (.served i (.statement q) a f))
    (houtcome : outcome? jobId (.served i (.statement q) a f : Label (schedulerSystem config)) =
      some true)
    (hq : q.fails jobId = false) :
    Tallied jobId
      (trace ++ [(.served i (.statement q) a f : Label (schedulerSystem config))]) R := by
  have hstreak : streak jobId
      (trace ++ [(.served i (.statement q) a f : Label (schedulerSystem config))]) = 0 := by
    rw [streak_snoc, houtcome]
    rfl
  have hzero := hok houtcome
  obtain ⟨choice, db, hexecute, hstore⟩ := serves_statement.mp hstep.answered
  constructor
  · intro job' hjob'
    rw [hstore] at hjob'
    rcases count_of_execute hexecute hq hjob' with hnew | ⟨job, hjob, hsame⟩
    · omega
    · have hnone := hzero job hjob
      omega
  · intro j job hsees
    have hnone : job.retryCount = 0 := by
      rcases seen_of_step hstep hsees with hsees | hjob
      · by_contra hpositive
        obtain ⟨row, hrow, hcounted⟩ := (h.looked j job hsees).2 (by omega)
        have hfree := hzero row hrow
        omega
      · exact hzero job hjob
    exact ⟨by omega, fun hpositive => by omega⟩

/-- A failure that is recorded was counted from failures in a row. -/
theorem Tallied.fails {i : Nat} {executes suspended : Bool} {attempts nextRunAt count : Nat}
    {f : Front SchedulerStatement.interface.world} (h : Tallied jobId trace Q)
    (hstep : Step (schedulerSystem config) Q
      (.served i (.statement (.write (.settleFailure jobId suspended attempts nextRunAt)))
        (.ok count) f) R)
    (hlooks : LooksFirst config executes (calls i trace)
      (.statement (.write (.settleFailure jobId suspended attempts nextRunAt)))) :
    Tallied jobId (trace ++
      [(.served i (.statement (.write (.settleFailure jobId suspended attempts nextRunAt)))
        (.ok count) f : Label (schedulerSystem config))]) R := by
  obtain ⟨_, job, hseen, _, hattempts, _⟩ := hlooks
  have hstreak : streak jobId (trace ++
      [(.served i (.statement (.write (.settleFailure jobId suspended attempts nextRunAt)))
        (.ok count) f : Label (schedulerSystem config))]) = streak jobId trace + 1 := by
    rw [streak_snoc]
    simp [outcome?, streakAfter]
  have hle := (h.looked i job hseen).1
  obtain ⟨choice, db, hexecute, hstore⟩ := serves_statement.mp hstep.answered
  have hjobs : R.store.db.jobs.get? jobId = (Q.store.db.jobs.get? jobId).map
      (JobWrite.settleFailure jobId suspended attempts nextRunAt).change := by
    rcases write_execute hexecute with ⟨_, herror, _⟩ | ⟨_, _, hjobs⟩
    · cases herror
    · rw [hstore, hjobs]
      exact get?_settleFailure
  have hcounted : ∀ row, Q.store.db.jobs.get? jobId = some row → Counted jobId R.store.db := by
    intro row hrow
    rw [hrow, Option.map_some] at hjobs
    exact ⟨_, hjobs, by simp [JobWrite.change, hattempts]⟩
  constructor
  · intro job' hjob'
    rw [hjobs] at hjob'
    obtain ⟨row, _, rfl⟩ := Option.map_eq_some_iff.mp hjob'
    rw [hstreak]
    simp only [JobWrite.change]
    omega
  · intro j other hsees
    rw [hstreak]
    rcases seen_of_step hstep hsees with hsees | hrow
    · obtain ⟨hle', hpositive⟩ := h.looked j other hsees
      refine ⟨by omega, fun hlt => ?_⟩
      obtain ⟨row, hrow, _⟩ := hpositive hlt
      exact hcounted row hrow
    · have hle' := h.row other hrow
      exact ⟨by omega, fun _ => hcounted other hrow⟩

theorem Tallied.step {ok : Pool (schedulerSystem config) → Label (schedulerSystem config) → Prop}
    (hthreads : P.threads = []) (hrun : Run ok P trace Q) (h : Tallied jobId trace Q)
    (hok : Forgiven jobId Q l) (hstep : Step (schedulerSystem config) Q l R) :
    Tallied jobId (trace ++ [l]) R := by
  have hkeeps : R.store.db = Q.store.db → outcome? jobId l = none →
      (∀ i job, seen (calls i (trace ++ [l])) = some (jobId, some job) →
        seen (calls i trace) = some (jobId, some job) ∨
          Q.store.db.jobs.get? jobId = some job) → Tallied jobId (trace ++ [l]) R := by
    intro hdb houtcome hseen
    refine h.of_quiet houtcome (fun job' hjob' => ?_) (by rw [hdb]; exact id) hseen
    rw [hdb] at hjob'
    exact .inr ⟨job', hjob', rfl⟩
  cases l with
  | start entry =>
    refine hkeeps (by cases hstep; rfl) rfl fun i job hsees => ?_
    rw [calls_start] at hsees
    exact .inl hsees
  | raised i q =>
    refine hkeeps (by cases hstep; rfl) rfl fun j job hsees => ?_
    rw [calls_raised] at hsees
    exact .inl hsees
  | served i q a f =>
    have hseen := fun j job => @seen_of_step config Q R trace jobId i j q a f job hstep
    cases q with
    | clock =>
      obtain ⟨_, hstore⟩ := serves_clock hstep.answered
      exact hkeeps (by rw [hstore]) rfl hseen
    | randomUUID =>
      obtain ⟨_, hstore⟩ := serves_randomUUID hstep.answered
      exact hkeeps (by rw [hstore]) rfl hseen
    | statement q =>
      obtain ⟨choice, db, hexecute, hstore⟩ := serves_statement.mp hstep.answered
      cases hfails : q.fails jobId with
      | false =>
        cases houtcome : outcome? jobId
            (.served i (.statement q) a f : Label (schedulerSystem config)) with
        | none =>
          refine h.of_quiet houtcome (fun job' hjob' => ?_) (fun hcounted => ?_) hseen
          · rw [hstore] at hjob'
            exact count_of_execute hexecute hfails hjob'
          · rw [hstore]
            exact counted_of_execute hexecute hfails hcounted
        | some succeeded =>
          cases succeeded with
          | true => exact h.succeeds hstep hok houtcome hfails
          | false => exact absurd ((fails_of_outcome houtcome).symm.trans hfails) (by simp)
      | true =>
        cases q with
        | write update =>
          cases update with
          | settleFailure id suspended attempts nextRunAt =>
            obtain rfl : id = jobId := of_decide_eq_true hfails
            obtain ⟨entry, _, hlooks⟩ := looks_of_step hthreads hrun hstep
            rcases write_execute hexecute with ⟨message, rfl, hsame⟩ | ⟨count, rfl, _⟩
            · exact hkeeps (by rw [hstore, hsame]) rfl hseen
            · exact h.fails hstep hlooks
          | _ => cases hfails
        | _ => cases hfails

/-- The job is new: nothing is counted of it yet. -/
def Unfailed (jobId : String) (P : Pool (schedulerSystem config)) : Prop :=
  P.threads = [] ∧ ∀ job, P.store.db.jobs.get? jobId = some job → job.retryCount = 0

theorem tallied_of_run (hP : Unfailed jobId P) (h : Run (Forgiven jobId) P trace Q) :
    Tallied jobId trace Q := by
  induction h with
  | nil =>
    constructor
    · intro job hjob
      rw [hP.2 job hjob]
      exact Nat.zero_le _
    · intro i job hsees
      cases hsees
  | snoc hrun hok hstep ih => exact ih.step hP.1 hrun hok hstep

/-- A job is suspended by the update of a failure that found its allowance used up. -/
theorem suspends_of_step (hstep : Step (schedulerSystem config) Q l R)
    (hbefore : ∀ job, Q.store.db.jobs.get? jobId = some job → job.status ≠ .suspended)
    {job' : ScheduledJob} (hjob' : R.store.db.jobs.get? jobId = some job')
    (hafter : job'.status = .suspended) :
    ∃ i attempts nextRunAt count f,
      l = .served i (.statement (.write (.settleFailure jobId true attempts nextRunAt)))
        (.ok count) f := by
  rcases db_of_step hstep with hsame | ⟨i, q, a, f, choice, rfl, hexecute⟩
  · rw [hsame] at hjob'
    exact absurd hafter (hbefore job' hjob')
  · cases hjob : Q.store.db.jobs.get? jobId with
    | none =>
      rw [(new_of_execute hexecute hjob hjob').1] at hafter
      cases hafter
    | some job =>
      obtain ⟨job'', hget, hbecomes⟩ := job_of_execute hexecute hjob
      cases hget.symm.trans hjob'
      have halive := hbefore job hjob
      cases hbecomes with
      | same => exact absurd hafter halive
      | claimed => cases hafter
      | written update hq hselects =>
        subst hq
        rcases write_execute hexecute with ⟨message, rfl, hsame⟩ | ⟨count, rfl, _⟩
        · rw [hsame] at hjob'
          exact absurd hafter (hbefore _ hjob')
        · cases update with
          | settleFailure id suspended attempts nextRunAt =>
            have hid : job.id = id := of_decide_eq_true hselects
            have hkey : job.id = jobId := Table.key_of_get? hjob
            cases suspended with
            | true => exact ⟨i, attempts, nextRunAt, count, f, by rw [← hkey, hid]⟩
            | false => cases hafter
          | touchLastRunAt => exact absurd hafter halive
          | updateWithVersionCheck => exact absurd hafter halive
          | _ => cases hafter

/-- In a run whose executions of a job succeed only while no failure of it is counted, a job is
suspended by so many failures in a row as it is allowed. -/
theorem suspended_by_failures_in_a_row (hP : Unfailed jobId P)
    (hrun : Run (Forgiven jobId) P trace Q) (hstep : Step (schedulerSystem config) Q l R)
    (hbefore : ∀ job, Q.store.db.jobs.get? jobId = some job → job.status ≠ .suspended)
    {job' : ScheduledJob} (hjob' : R.store.db.jobs.get? jobId = some job')
    (hafter : job'.status = .suspended) : config.maxRetries ≤ streak jobId (trace ++ [l]) := by
  obtain ⟨i, attempts, nextRunAt, count, f, rfl⟩ :=
    suspends_of_step hstep hbefore hjob' hafter
  obtain ⟨entry, _, _, job, hseen, _, hattempts, hexhausted⟩ :=
    looks_of_step hP.1 hrun hstep
  have hle := ((tallied_of_run hP hrun).looked i job hseen).1
  have hallowed : config.maxRetries ≤ attempts := of_decide_eq_true hexhausted.symm
  rw [streak_snoc]
  simp only [outcome?, if_true, streakAfter]
  omega

end Runs

section Example

open Scenario

/-- A failure, an hour with a success, and another failure: suspended, with two failures allowed. -/
theorem suspended_after_success :
    ∃ (Q : DemoPool) (trace : List (Label (schedulerSystem demo))),
      Run (fun _ _ => True) (poolOf (jobOf .cron .pending 0) []) trace Q ∧
        statusOf Q = some .suspended ∧ streak "j" trace < demo.maxRetries := by
  have hplay : (((poolOf (jobOf .cron .pending 0) []).record (fun _ _ => True)
      (missesQueue 0 "d1" 1000 ++ settle 0 1 ++
        claims 1 "d2" 100000 ++ settle 1 1 ++ [tick 1 100000] ++ settle 1 1 ++
          [tick 1 100000, tick 1 100000] ++ settle 1 1 ++
        [enter .work, serve 2 (.given "j:1970-01-01T00:01:01.000Z"), serve 2 .settled,
          serve 2 (.ended (.ok ()))] ++ settle 2 1 ++
        missesQueue 3 "d3" 4000000 ++ settle 3 1)).map fun r =>
          decide (statusOf r.2 = some .suspended ∧ streak "j" r.1 < demo.maxRetries)) =
            some true := by
    decide
  exact Pool.record_reach hplay

/-- Two failures in a row. -/
theorem suspended_by_failures_in_a_row_demo :
    ∃ (Q R : DemoPool) (trace : List (Label (schedulerSystem demo)))
      (l : Label (schedulerSystem demo)),
      Run (Forgiven "j") (poolOf (jobOf .cron .pending 0) []) trace Q ∧
        Step (schedulerSystem demo) Q l R ∧ statusOf R = some .suspended ∧
        demo.maxRetries ≤ streak "j" (trace ++ [l]) := by
  have hplay : (((poolOf (jobOf .cron .pending 0) []).record (Forgiven "j")
      (missesQueue 0 "d1" 1000 ++ settle 0 1 ++ missesQueue 1 "d2" 100000)).bind fun r =>
        (r.2.move (serve 1 .settled)).map fun next =>
          decide (statusOf r.2 = some .claimed ∧ statusOf next.2 = some .suspended)) =
            some true := by
    decide
  obtain ⟨Q, trace, ⟨l, R⟩, hrun, hstep, hclaimed, hsuspended⟩ :
      ∃ (Q : DemoPool) (trace : List (Label (schedulerSystem demo)))
        (next : Label (schedulerSystem demo) × DemoPool),
        Run (Forgiven "j") (poolOf (jobOf .cron .pending 0) []) trace Q ∧
          Step (schedulerSystem demo) Q next.1 next.2 ∧ statusOf Q = some .claimed ∧
            statusOf next.2 = some .suspended := by
    obtain ⟨r, hr, hmoved⟩ := Option.bind_eq_some_iff.mp hplay
    obtain ⟨next, hnext, hcheck⟩ := Option.map_eq_some_iff.mp hmoved
    exact ⟨r.2, r.1, next, Pool.record_run hr, Pool.move_step hnext, of_decide_eq_true hcheck⟩
  have hnew : Unfailed "j" (poolOf (jobOf .cron .pending 0) []) := by
    refine ⟨rfl, fun job hjob => ?_⟩
    have hget : (poolOf (jobOf .cron .pending 0) []).store.db.jobs.get? "j" =
        some (jobOf .cron .pending 0) := by decide
    cases hget.symm.trans hjob
    rfl
  obtain ⟨job', hjob', hstatus⟩ := Option.map_eq_some_iff.mp hsuspended
  refine ⟨Q, R, trace, l, hrun, hstep, hsuspended, ?_⟩
  refine suspended_by_failures_in_a_row hnew hrun hstep ?_ hjob' hstatus
  intro job hjob
  have hstill : some job.status = some JobStatus.claimed := by
    rw [← hclaimed, statusOf, hjob, Option.map_some]
  rw [Option.some.inj hstill]
  simp

end Example

end DddBoilerplate.Scheduler
