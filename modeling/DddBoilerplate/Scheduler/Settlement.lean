/- module: DddBoilerplate/Scheduler/Settlement
   generality: I
   digest: What the statements and calls make of a scheduled job. -/

import DddBoilerplate.Scheduler.Dispatch

set_option autoImplicit false
set_option relaxedAutoImplicit false
set_option linter.all false

namespace DddBoilerplate.Scheduler

open Concurrency Store
open Recurring (JobStatus)

section Statements

variable {db db' : SchedulerDb} {choice : SchedulerChoice} {id : String} {job : ScheduledJob}

/-- What a statement makes of a job that is there: nothing, one of the updates, or a claim. -/
inductive Becomes (q : SchedulerStatement) (job : ScheduledJob) : ScheduledJob → Prop where
  | same : Becomes q job job
  | written (write : JobWrite) (hq : q = .write write) (hselects : write.selects job = true) :
      Becomes q job (write.change job)
  | claimed (limit now lockedUntil : Nat) (lockedBy : String)
      (hq : q = .claimDue limit now lockedUntil lockedBy) (hpending : job.status = .pending)
      (hdue : job.nextRunAt ≤ now) : Becomes q job (job.claim lockedUntil lockedBy)

theorem job_of_write (write : JobWrite) (hjob : db.jobs.get? id = some job) :
    ∃ job', (write.run db.jobs).2.get? id = some job' ∧ Becomes (.write write) job job' := by
  rw [JobWrite.run, Table.get?_updateMany write.change_id, hjob, Option.map_some]
  split
  · rename_i hselects
    exact ⟨_, rfl, .written write rfl hselects⟩
  · exact ⟨_, rfl, .same⟩

theorem job_of_claim {limit now lockedUntil : Nat} {lockedBy : String} {locked picked : List String}
    (hpicks : Picks db.jobs (fun job => job.status = .pending && job.nextRunAt ≤ now) limit locked
      picked)
    (hjob : db.jobs.get? id = some job) :
    ∃ job', (db.jobs.updateMany (fun job => job.id ∈ picked)
        (fun job => job.claim lockedUntil lockedBy)
        fun job => job.claim_id lockedUntil lockedBy).2.get? id = some job' ∧
      Becomes (.claimDue limit now lockedUntil lockedBy) job job' := by
  rw [Table.get?_updateMany fun job => job.claim_id lockedUntil lockedBy, hjob, Option.map_some]
  split
  · rename_i hpicked
    obtain ⟨_, row, hrow, hid, heligible⟩ := hpicks.chosen job.id (of_decide_eq_true hpicked)
    have hsame : row = job := by
      have hget := Table.get?_of_mem hrow
      rw [hid, Table.key_of_get? hjob, hjob] at hget
      exact (Option.some.inj hget).symm
    subst hsame
    simp only [Bool.and_eq_true, decide_eq_true_eq] at heligible
    exact ⟨_, rfl, .claimed limit now lockedUntil lockedBy rfl heligible.1 heligible.2⟩
  · exact ⟨_, rfl, .same⟩

/-- The other statements and calls leave the jobs alone. -/
def SchedulerStatement.sparesJobs : SchedulerStatement → Bool
  | create _ | claimDue _ _ _ _ | write _ => false
  | _ => true

theorem jobs_of_spares {q : SchedulerStatement} {a : q.Answer} (hq : q.sparesJobs = true)
    (h : q.execute choice db = some (a, db')) : db'.jobs = db.jobs := by
  cases q with
  | create | claimDue | write => cases hq
  | findById jobId =>
    cases choice with
    | settled | refused => cases h; rfl
    | _ => cases h
  | listPending limit =>
    cases choice with
    | picked locked picked =>
      dsimp only [SchedulerStatement.execute] at h
      split at h
      · cases h
        rfl
      · cases h
    | _ => cases h
  | insertLog log =>
    cases choice with
    | settled | refused => cases h; rfl
    | _ => cases h
  | recordOutcome log =>
    cases choice with
    | settled | refused => cases h; rfl
    | _ => cases h
  | acquireLock jobId =>
    cases choice with
    | locked acquired => cases h; rfl
    | _ => cases h
  | enqueue job =>
    cases choice with
    | settled | refused | lost => cases h; rfl
    | _ => cases h
  | take =>
    cases choice with
    | given key =>
      dsimp only [SchedulerStatement.execute] at h
      split at h
      · cases h
      · cases h
        rfl
    | settled => cases h; rfl
    | _ => cases h
  | finish key =>
    cases choice with
    | settled => cases h; rfl
    | _ => cases h
  | failAttempt key jobAttempts =>
    cases choice with
    | settled =>
      dsimp only [SchedulerStatement.execute] at h
      split at h
      · cases h
      · cases h
        rfl
    | _ => cases h
  | stall key =>
    cases choice with
    | settled => cases h; rfl
    | _ => cases h
  | handle payload =>
    cases choice with
    | ended outcome => cases h; rfl
    | _ => cases h
  | publishJobDue job =>
    cases choice with
    | ended outcome => cases h; rfl
    | _ => cases h

/-- Jobs are never deleted, and change by an update or a claim only. -/
theorem job_of_execute {q : SchedulerStatement} {a : q.Answer}
    (h : q.execute choice db = some (a, db')) (hjob : db.jobs.get? id = some job) :
    ∃ job', db'.jobs.get? id = some job' ∧ Becomes q job job' := by
  cases q with
  | write update =>
    cases choice with
    | settled =>
      cases h
      exact job_of_write update hjob
    | refused message =>
      cases h
      exact ⟨job, hjob, .same⟩
    | _ => cases h
  | claimDue limit now lockedUntil lockedBy =>
    cases choice with
    | picked locked picked =>
      dsimp only [SchedulerStatement.execute] at h
      split at h
      · rename_i hpicks
        cases h
        exact job_of_claim hpicks hjob
      · cases h
    | _ => cases h
  | create columns =>
    cases choice with
    | created fresh =>
      dsimp only [SchedulerStatement.execute] at h
      split at h
      · cases h
      · rename_i hfree
        cases h
        rw [Option.not_isSome_iff_eq_none] at hfree
        refine ⟨job, ?_, .same⟩
        rw [Table.get?_insert hfree]
        split
        · rename_i hid
          change a = id at hid
          rw [hid, hjob] at hfree
          cases hfree
        · exact hjob
    | _ => cases h
  | _ =>
    rw [← jobs_of_spares rfl h] at hjob
    exact ⟨job, hjob, .same⟩

/-- A job that was not there is a new one. -/
theorem new_of_execute {q : SchedulerStatement} {a : q.Answer}
    (h : q.execute choice db = some (a, db')) (hnone : db.jobs.get? id = none)
    (hjob : db'.jobs.get? id = some job) : job.status = .pending ∧ job.retryCount = 0 := by
  cases q with
  | write update =>
    cases choice with
    | settled =>
      cases h
      rw [JobWrite.run, Table.get?_updateMany update.change_id, hnone] at hjob
      cases hjob
    | refused message =>
      cases h
      cases hnone.symm.trans hjob
    | _ => cases h
  | claimDue limit now lockedUntil lockedBy =>
    cases choice with
    | picked locked picked =>
      dsimp only [SchedulerStatement.execute] at h
      split at h
      · cases h
        rw [Table.get?_updateMany fun job => job.claim_id lockedUntil lockedBy, hnone] at hjob
        cases hjob
      · cases h
    | _ => cases h
  | create columns =>
    cases choice with
    | created fresh =>
      dsimp only [SchedulerStatement.execute] at h
      split at h
      · cases h
      · rename_i hfree
        cases h
        rw [Option.not_isSome_iff_eq_none] at hfree
        rw [Table.get?_insert hfree] at hjob
        split at hjob
        · cases hjob
          exact ⟨rfl, rfl⟩
        · cases hnone.symm.trans hjob
    | _ => cases h
  | _ =>
    rw [jobs_of_spares rfl h, hnone] at hjob
    cases hjob

/-- A look at a job answers with its row, and changes nothing. -/
theorem findById_execute {answer : Except String (Option ScheduledJob)}
    (h : (SchedulerStatement.findById id).execute choice db = some (answer, db')) :
    db' = db ∧ ∀ row, answer = .ok row → row = db.jobs.get? id := by
  cases choice with
  | settled =>
    cases h
    exact ⟨rfl, fun row hrow => (Except.ok.inj hrow).symm⟩
  | refused message =>
    cases h
    exact ⟨rfl, fun row hrow => by cases hrow⟩
  | _ => cases h

end Statements

end DddBoilerplate.Scheduler
