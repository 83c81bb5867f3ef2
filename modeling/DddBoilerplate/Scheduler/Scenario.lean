/- module: DddBoilerplate/Scheduler/Scenario
   generality: I
   digest: Words for spelling out one concrete run of the scheduler. -/

import DddBoilerplate.Scheduler.Dispatch

set_option autoImplicit false
set_option relaxedAutoImplicit false
set_option linter.all false

namespace DddBoilerplate.Scheduler.Scenario

open Concurrency
open Recurring (JobStatus)

/-- Two failures suspend, an execution has one attempt, and the digest is the text itself. -/
def demo : SchedulerConfig where
  batchSize := 20
  lockTtlMs := 300000
  jobAttempts := 1
  maxRetries := 2
  retryBackoffBaseMs := 60000
  sha256 text := text
  nextRunAt _ now := .ok (now + 3600000)
  registered _ := true

abbrev DemoPool := Pool (schedulerSystem demo)

abbrev DemoMove := Move (schedulerSystem demo)

/-- A job of an aggregate, or one that runs every hour. -/
def jobOf (mode : ScheduleMode) (status : JobStatus) (nextRunAt : Nat) : ScheduledJob where
  tenantId := some "t"
  jobType := "Recurring"
  scope := if mode = .external then .aggregate else .tenant
  scheduleMode := mode
  cronExpression := if mode = .external then none else some "0 * * * *"
  aggregateType := if mode = .external then some "RecurringTemplate" else none
  aggregateId := if mode = .external then some "rt" else none
  payload := none
  nextRunAt := nextRunAt
  id := "j"
  lastRunAt := none
  status := status
  retryCount := 0
  version := 0
  lockedUntil := none
  lockedBy := none

/-- The job in the queue. -/
def queued (job : ScheduledJob) (key : String) : QueueEntry :=
  ⟨job.toClaimed.toQueued key, 0, .waiting⟩

def poolOf (job : ScheduledJob) (queue : List QueueEntry) : DemoPool :=
  ⟨⟨⟨Store.Table.empty.insert job, Store.Table.empty, queue⟩, 0, []⟩, []⟩

def enter (entry : SchedulerEntry) : DemoMove := .start entry

/-- The thread looks at the clock. -/
def tick (thread time : Nat) : DemoMove := .serve thread (.clock time)

def serve (thread : Nat) (choice : SchedulerChoice) : DemoMove := .serve thread (.statement choice)

/-- So many statements of a thread, nothing left open. -/
def settle (thread calls : Nat) : List DemoMove := List.replicate calls (serve thread .settled)

/-- A tick that claims the job at a time, up to its place in the queue. -/
def claims (thread : Nat) (token : String) (time : Nat) : List DemoMove :=
  [enter (.dispatch none 1), .serve thread (.randomUUID token), tick thread time,
    serve thread (.picked [] ["j"]), serve thread (.locked true), tick thread time]

/-- A tick that claims the job and cannot put it in the queue, up to the look at its row. -/
def missesQueue (thread : Nat) (token : String) (time : Nat) : List DemoMove :=
  claims thread token time ++ [serve thread (.refused "queue unavailable"), tick thread time,
    serve thread .settled, serve thread .settled, tick thread time]

def statusOf (P : DemoPool) : Option JobStatus := (P.store.db.jobs.get? "j").map (·.status)

end DddBoilerplate.Scheduler.Scenario
