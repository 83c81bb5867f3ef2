/- module: DddBoilerplate/Import/Steps
   generality: I
   digest: What one statement makes of the jobs, the rows, the intervals and the events. -/

import DddBoilerplate.Import.Accounts

set_option autoImplicit false
set_option relaxedAutoImplicit false
set_option linter.all false

namespace DddBoilerplate.Import

open Concurrency Store

/-- Jobs as they are created, before anything was done about them. -/
structure Created (db : ImportDb) : Prop where
  status : ∀ job ∈ db.jobs.rows, job.status = .pendingUpload ∨ job.status = .uploaded
  counts : ∀ job ∈ db.jobs.rows, job.counts = ⟨0, 0, 0, 0, 0⟩
  unlocked : ∀ job ∈ db.jobs.rows, job.lockedBy = none
  rows : db.rows.rows = []
  timers : db.timers = []
  outbox : db.outbox = []

section Executes

variable {q : ImportStatement} {choice : ImportChoice} {db db' : ImportDb} {a : q.Answer}

/-- A statement is rejected, or it is executed and answers what the tables say. -/
theorem executed_of_perform (h : q.perform choice db = some (a, db')) :
    db' = db ∧ (∃ error, q.reject error = some a) ∨
      q.answer choice db = some a ∧ db' = q.execute choice db := by
  unfold ImportStatement.perform at h
  split at h
  · rename_i answer hrejected
    obtain ⟨error, _, hreject⟩ := Option.bind_eq_some_iff.mp hrejected
    obtain ⟨rfl, rfl⟩ := Prod.mk.inj (Option.some.inj h)
    exact .inl ⟨rfl, error, hreject⟩
  · obtain ⟨answer, hanswer, heq⟩ := Option.map_eq_some_iff.mp h
    obtain ⟨rfl, rfl⟩ := Prod.mk.inj heq
    exact .inr ⟨hanswer, rfl⟩

theorem get?_jobs_execute (id : String) :
    (q.execute choice db).jobs.get? id = (db.jobs.get? id).map (q.onJob choice) :=
  Table.get?_update (q.onJob_id choice) id

theorem mem_jobs_execute {job : ImportJob} :
    job ∈ (q.execute choice db).jobs.rows ↔ ∃ old ∈ db.jobs.rows, q.onJob choice old = job :=
  @Table.mem_update _ _ _ db.jobs _ (q.onJob_id choice) job

/-- A row was inserted, or it is what the statement made of a row that was there. -/
theorem mem_rows_execute {row : ImportJobRow} (h : row ∈ (q.execute choice db).rows.rows) :
    row ∈ q.adds ∨ ∃ old ∈ db.rows.rows, q.keeps old = true ∧ q.onRow choice db old = row := by
  rcases Table.mem_inserts h with hmem | hmem
  · obtain ⟨old, hold, heq⟩ := Table.mem_update.mp hmem
    obtain ⟨hold, hkept⟩ := List.mem_filter.mp hold
    exact .inr ⟨old, hold, hkept, heq⟩
  · exact .inl hmem

/-- What a statement may make of a row. -/
inductive Rewrites (choice : ImportChoice) (db : ImportDb) (row : ImportJobRow) :
    ImportStatement → ImportJobRow → Prop where
  | kept (q : ImportStatement) : Rewrites choice db row q row
  | claimed (jobId : String) (limit : Nat) (h : row ∈ db.claimable jobId limit choice.locked) :
      Rewrites choice db row (.claimForExecution jobId limit) (row.claim choice.stamp)
  | judged (jobId : String) (verdict : RowVerdict) (hjob : row.importJobId = jobId)
      (hnumber : row.rowNumber = verdict.rowNumber) :
      Rewrites choice db row (.applyValidationVerdict jobId verdict) (row.judge verdict choice.stamp)
  | settled (jobId : String) (settlement : RowExecutionSettlement) (hjob : row.importJobId = jobId)
      (h : row.isSettledBy settlement = true) :
      Rewrites choice db row (.applyExecutionResult jobId settlement)
        (row.settle settlement choice.stamp)
  | reset (olderThan : Nat) (hjob : db.jobHas row (· ∈ [.validated, .executing]) = true)
      (h : row.executionStatus = .processing) :
      Rewrites choice db row (.resetStaleProcessing olderThan) (row.reset choice.stamp)
  | abandoned (hjob : db.jobHas row ImportJobStatus.isTerminal = true)
      (h : row.executionStatus = .processing) :
      Rewrites choice db row .abandonProcessing (row.abandon choice.stamp)

theorem rewrites_onRow (q : ImportStatement) (choice : ImportChoice) (db : ImportDb)
    (row : ImportJobRow) : Rewrites choice db row q (q.onRow choice db row) := by
  cases q with
  | claimForExecution jobId limit =>
    simp only [ImportStatement.onRow]
    split
    · rename_i h
      exact .claimed jobId limit h
    · exact .kept _
  | applyValidationVerdict jobId verdict =>
    simp only [ImportStatement.onRow]
    split
    · rename_i h
      simp only [Bool.and_eq_true, decide_eq_true_eq] at h
      exact .judged jobId verdict h.1 h.2
    · exact .kept _
  | applyExecutionResult jobId settlement =>
    simp only [ImportStatement.onRow]
    split
    · rename_i h
      simp only [Bool.and_eq_true, decide_eq_true_eq] at h
      exact .settled jobId settlement h.1 h.2
    · exact .kept _
  | resetStaleProcessing olderThan =>
    simp only [ImportStatement.onRow]
    split
    · rename_i h
      simp only [Bool.and_eq_true, decide_eq_true_eq] at h
      exact .reset olderThan h.1.1 h.1.2
    · exact .kept _
  | abandonProcessing =>
    simp only [ImportStatement.onRow]
    split
    · rename_i h
      simp only [Bool.and_eq_true, decide_eq_true_eq] at h
      exact .abandoned h.1 h.2
    · exact .kept _
  | _ => exact .kept _

/-- Where a row came from, and what it carries. -/
structure ImportJobRow.SameSource (row row' : ImportJobRow) : Prop where
  importJobId : row'.importJobId = row.importJobId
  rowNumber : row'.rowNumber = row.rowNumber
  rawPayload : row'.rawPayload = row.rawPayload
  mappedPayload : row'.mappedPayload = row.mappedPayload

theorem ImportJobRow.SameSource.trans {row row' row'' : ImportJobRow} (h : row.SameSource row')
    (h' : row'.SameSource row'') : row.SameSource row'' :=
  ⟨h'.importJobId.trans h.importJobId, h'.rowNumber.trans h.rowNumber,
    h'.rawPayload.trans h.rawPayload, h'.mappedPayload.trans h.mappedPayload⟩

theorem sameSource_onRow (row : ImportJobRow) : row.SameSource (q.onRow choice db row) := by
  have hrewrites := rewrites_onRow q choice db row
  generalize q.onRow choice db row = row' at hrewrites ⊢
  cases hrewrites <;> exact ⟨rfl, rfl, rfl, rfl⟩

end Executes

section Steps

variable {Q R : Pool importSystem} {l : Label importSystem}

/-- A step leaves the tables, or executes a statement. -/
theorem executed_of_step (h : Step importSystem Q l R) :
    R.store.db = Q.store.db ∨ ∃ i q a f choice, l = .served i (.statement q) a f ∧
      q.answer choice Q.store.db = some a ∧ R.store.db = q.execute choice Q.store.db := by
  rcases db_of_step h with hsame | ⟨i, q, a, f, choice, rfl, hperform⟩
  · exact .inl hsame
  · rcases executed_of_perform hperform with ⟨hsame, _⟩ | ⟨hanswer, hexecute⟩
    · exact .inl hsame
    · exact .inr ⟨i, q, a, f, choice, rfl, hanswer, hexecute⟩

/-- A statement that is served with an answer no rejection gives is executed. -/
theorem executed_of_served {i : Nat} {q : ImportStatement} {a : q.Answer}
    {f : Front ImportStatement.interface.world}
    (h : Step importSystem Q (.served i (.statement q) a f) R)
    (haccepted : ∀ error, q.reject error ≠ some a) :
    ∃ choice, q.answer choice Q.store.db = some a ∧ R.store.db = q.execute choice Q.store.db := by
  obtain ⟨choice, db, hperform, hstore⟩ := serves_statement.mp h.answered
  rw [hstore]
  rcases executed_of_perform hperform with ⟨_, error, hreject⟩ | ⟨hanswer, hexecute⟩
  · exact absurd hreject (haccepted error)
  · exact ⟨choice, hanswer, hexecute⟩

end Steps

section Jobs

/-- How the status of a job may move. -/
inductive StatusMove : ImportJobStatus → ImportJobStatus → Prop where
  | kept (status : ImportJobStatus) : StatusMove status status
  | moved {source target : ImportJobStatus} (allowed : List ImportJobStatus)
      (hpair : (allowed, target) ∈ transitions) (hsource : source ∈ allowed) :
      StatusMove source target
  | ended {source target : ImportJobStatus} (hopen : source.isTerminal = false)
      (hended : target.isTerminal = true) : StatusMove source target

/-- The counters of a job's rows, their number apart. -/
def RowCounts.tallies (counts : RowCounts) : Nat × Nat × Nat × Nat :=
  (counts.valid, counts.invalid, counts.applied, counts.failed)

theorem isTerminal_verdictOf (fresh : Option ImportJob) : (verdictOf fresh).isTerminal = true := by
  unfold verdictOf
  split <;> rfl

variable {e : ImportEntry} {h : List ImportCall} {q : ImportStatement}

theorem statusMove_onJob (hbecause : because e h (.statement q)) (choice : ImportChoice)
    (job : ImportJob) : StatusMove job.status (q.onJob choice job).status := by
  cases q with
  | transitionStatus jobId allowed target =>
    dsimp only [ImportStatement.onJob]
    split
    · rename_i hmoves
      simp only [Bool.and_eq_true, List.contains_iff_mem] at hmoves
      exact .moved allowed hbecause hmoves.2
    · exact .kept _
  | markTerminal jobId status =>
    dsimp only [ImportStatement.onJob]
    split
    · rename_i hends
      simp only [Bool.and_eq_true, Bool.not_eq_true'] at hends
      refine .ended hends.2 ?_
      rcases hbecause with rfl | rfl | ⟨fresh, _, rfl⟩
      · rfl
      · rfl
      · exact isTerminal_verdictOf fresh
    · exact .kept _
  | tryAcquireLock | heartbeat | releaseLock | setColumnMapping | updateTotalRows
  | setCancelRequested | writeCounts =>
    dsimp only [ImportStatement.onJob]
    split <;> exact .kept _
  | _ => exact .kept _

/-- Only a recount writes the counters. -/
theorem tallies_onJob (choice : ImportChoice) (job : ImportJob) :
    (q.onJob choice job).counts.tallies = job.counts.tallies ∨
      ∃ counts, q = .writeCounts job.id counts ∧ (q.onJob choice job).counts = counts := by
  cases q with
  | writeCounts jobId counts =>
    dsimp only [ImportStatement.onJob]
    split
    · rename_i hid
      exact .inr ⟨counts, by rw [hid], rfl⟩
    · exact .inl rfl
  | transitionStatus | markTerminal | tryAcquireLock | heartbeat | releaseLock | setColumnMapping
  | updateTotalRows | setCancelRequested =>
    dsimp only [ImportStatement.onJob]
    split <;> exact .inl rfl
  | _ => exact .inl rfl

variable {ok : Pool importSystem → Label importSystem → Prop} {P Q R : Pool importSystem}
variable {trace : List (Label importSystem)} {l : Label importSystem} {id : String} {job : ImportJob}

/-- A job after a step was there before it, and what became of it. -/
theorem job_of_step (hrun : Run ok P trace Q) (hidle : P.threads = []) (hstep : Step importSystem Q l R)
    (hjob : R.store.db.jobs.get? id = some job) :
    ∃ old, Q.store.db.jobs.get? id = some old ∧ StatusMove old.status job.status ∧
      (job.counts.tallies = old.counts.tallies ∨ ∃ i f,
        l = .served i (.statement (.writeCounts id job.counts)) (.ok ()) f) := by
  rcases executed_of_step hstep with hsame | ⟨i, q, a, f, choice, rfl, hanswer, hexecute⟩
  · rw [hsame] at hjob
    exact ⟨job, hjob, .kept _, .inl rfl⟩
  · rw [hexecute, get?_jobs_execute] at hjob
    obtain ⟨old, hold, rfl⟩ := Option.map_eq_some_iff.mp hjob
    obtain ⟨e, _, hbecause⟩ := because_of_entry accounted_import hrun hidle hstep
    refine ⟨old, hold, statusMove_onJob hbecause choice old, ?_⟩
    rcases @tallies_onJob q choice old with hkept | ⟨counts, rfl, hcounts⟩
    · exact .inl hkept
    · refine .inr ⟨i, f, ?_⟩
      rw [hcounts, ← Table.key_of_get? hold]
      cases hanswer
      rfl

end Jobs

section Rows

variable {q : ImportStatement} {choice : ImportChoice} {db : ImportDb} {jobId : String}

/-- The rows of a job that a statement neither adds to, deletes nor rewrites. -/
theorem rowsOf_execute (hadds : ∀ row ∈ q.adds, row.importJobId ≠ jobId)
    (hkeeps : ∀ row ∈ db.rowsOf jobId, q.keeps row = true)
    (hrows : ∀ row ∈ db.rowsOf jobId, q.onRow choice db row = row) :
    (q.execute choice db).rowsOf jobId = db.rowsOf jobId := by
  obtain ⟨more, hinserted, hmore⟩ := Table.rows_inserts
    ((db.rows.filter q.keeps).update (q.onRow choice db) (q.onRow_key choice db)) q.adds
  have hnone : more.filter (fun row => decide (row.importJobId = jobId)) = [] :=
    List.filter_eq_nil_iff.mpr fun row hrow => by simpa using hadds row (hmore row hrow)
  have hcomp : (fun row : ImportJobRow => decide (row.importJobId = jobId)) ∘ q.onRow choice db =
      fun row => decide (row.importJobId = jobId) := by
    funext row
    simp only [Function.comp_apply, (sameSource_onRow row).importJobId]
  unfold ImportDb.rowsOf
  calc (q.execute choice db).rows.rows.filter (fun row => decide (row.importJobId = jobId))
      = (((db.rows.rows.filter q.keeps).map (q.onRow choice db)) ++ more).filter
          (fun row => decide (row.importJobId = jobId)) := congrArg _ hinserted
    _ = ((db.rowsOf jobId).filter q.keeps).map (q.onRow choice db) := by
        rw [List.filter_append, hnone, List.append_nil, List.filter_map, hcomp, List.filter_comm]
        rfl
    _ = (db.rowsOf jobId).map (q.onRow choice db) := by
        rw [List.filter_eq_self.mpr hkeeps]
    _ = db.rowsOf jobId := (List.map_congr_left hrows).trans (List.map_id' _)

end Rows

end DddBoilerplate.Import
