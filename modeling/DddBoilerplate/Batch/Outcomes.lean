/- module: DddBoilerplate/Batch/Outcomes
   generality: I
   digest: Rows are settled once, by their last claim; counters never run ahead; completions are true. -/

import DddBoilerplate.Batch.Settling

set_option autoImplicit false
set_option relaxedAutoImplicit false
set_option linter.all false

namespace DddBoilerplate.Batch

open Concurrency Context Store ClsRequestContextService

section Evolution

/-- What may become of a row: one that is settled stays as it is. -/
structure Follows (row row' : BatchOperationJobRow) : Prop where
  id : row'.id = row.id
  job : row'.batchOperationJobId = row.batchOperationJobId
  token : row.claimToken ≤ row'.claimToken
  final : row.status.isSettled = true → row' = row

theorem Follows.refl (row : BatchOperationJobRow) : Follows row row :=
  ⟨rfl, rfl, Nat.le_refl _, fun _ => rfl⟩

/-- What may become of a job: one that has ended stays so, and a request to cancel it is kept. -/
structure Continues (job job' : BatchOperationJob) : Prop where
  total : job'.totalRecords = job.totalRecords
  ended : job.status.isTerminal = true → job'.status = job.status
  cancelled : job.cancelRequested = true → job'.cancelRequested = true

theorem Continues.refl (job : BatchOperationJob) : Continues job job :=
  ⟨rfl, fun _ => rfl, fun hcancelled => hcancelled⟩

theorem Continues.trans {job job' job'' : BatchOperationJob} (h : Continues job job')
    (h' : Continues job' job'') : Continues job job'' where
  total := h'.total.trans h.total
  ended hend := (h'.ended (h.ended hend ▸ hend)).trans (h.ended hend)
  cancelled hcancelled := h'.cancelled (h.cancelled hcancelled)

/-- The rows of a store are rewritten one by one, and others come behind them with a new job; an
ended job stays as it ended. -/
structure Evolves (db db' : BatchDb) (g : BatchOperationJobRow → BatchOperationJobRow)
    (more : List BatchOperationJobRow) : Prop where
  rows : db'.rows.rows = db.rows.rows.map g ++ more
  follows : ∀ row, Follows row (g row)
  fresh : ∀ row ∈ more, db.jobs.get? row.batchOperationJobId = none
  jobs : ∀ jobId job, db.jobs.get? jobId = some job →
    ∃ job', db'.jobs.get? jobId = some job' ∧ Continues job job'

variable {db db' : BatchDb} {g : BatchOperationJobRow → BatchOperationJobRow}
variable {more : List BatchOperationJobRow} {jobId rowId : String}

/-- The row belongs to the job. -/
def BatchDb.Belongs (db : BatchDb) (jobId rowId : String) : Prop :=
  ∃ row, db.rows.get? rowId = some row ∧ row.batchOperationJobId = jobId

/-- No row of the job is left. -/
structure BatchDb.AllSettled (db : BatchDb) (jobId : String) : Prop where
  stored : ∃ job, db.jobs.get? jobId = some job
  settled : ∀ row ∈ db.rowsOf jobId, row.status.isSettled = true

namespace Evolves

theorem get?_rows (h : Evolves db db' g more) {row : BatchOperationJobRow}
    (hrow : db.rows.get? rowId = some row) : db'.rows.get? rowId = some (g row) := by
  refine Table.get?_eq_some.mpr ⟨?_, (h.follows row).id.trans (Table.key_of_get? hrow)⟩
  rw [h.rows]
  exact List.mem_append_left _ (List.mem_map_of_mem (Table.mem_of_get? hrow))

theorem belongs (h : Evolves db db' g more) (hrow : db.Belongs jobId rowId) :
    db'.Belongs jobId rowId := by
  obtain ⟨row, hget, hjob⟩ := hrow
  exact ⟨g row, h.get?_rows hget, (h.follows row).job.trans hjob⟩

theorem rowsOf (h : Evolves db db' g more) (jobId : String) :
    db'.rowsOf jobId = (db.rowsOf jobId).map g ++ more.filter (·.batchOperationJobId = jobId) := by
  have hsame : ((fun row : BatchOperationJobRow => decide (row.batchOperationJobId = jobId)) ∘ g) =
      fun row => decide (row.batchOperationJobId = jobId) := by
    funext row
    simp only [Function.comp_apply, (h.follows row).job]
  rw [BatchDb.rowsOf, h.rows, List.filter_append, List.filter_map, hsame, BatchDb.rowsOf]

/-- A job that is stored gets no further rows. -/
theorem rowsOf_stored (h : Evolves db db' g more) {job : BatchOperationJob}
    (hjob : db.jobs.get? jobId = some job) : db'.rowsOf jobId = (db.rowsOf jobId).map g := by
  rw [h.rowsOf, List.filter_eq_nil_iff.mpr, List.append_nil]
  intro row hrow heq
  have hnone := h.fresh row hrow
  rw [of_decide_eq_true heq, hjob] at hnone
  cases hnone

theorem settles (h : Evolves db db' g more) {p : BatchOperationRowStatus → Bool}
    (hp : ∀ status, p status = true → status.isSettled = true) (row : BatchOperationJobRow)
    (hrow : p row.status = true) : p (g row).status = true := by
  rw [(h.follows row).final (hp _ hrow)]
  exact hrow

theorem countWhere_le (h : Evolves db db' g more) {p : BatchOperationRowStatus → Bool}
    (hp : ∀ status, p status = true → status.isSettled = true) :
    db.countWhere jobId p ≤ db'.countWhere jobId p := by
  rw [BatchDb.countWhere, BatchDb.countWhere, h.rowsOf, List.countP_append, List.countP_map]
  refine Nat.le_trans (List.countP_mono_left fun row _ hrow => ?_) (Nat.le_add_right _ _)
  exact h.settles hp row hrow

theorem allSettled (h : Evolves db db' g more) (hall : db.AllSettled jobId) :
    db'.AllSettled jobId := by
  obtain ⟨job, hjob⟩ := hall.stored
  obtain ⟨job', hjob', _⟩ := h.jobs jobId job hjob
  refine ⟨⟨job', hjob'⟩, fun row hrow => ?_⟩
  rw [h.rowsOf_stored hjob] at hrow
  obtain ⟨row', hrow', rfl⟩ := List.mem_map.mp hrow
  exact h.settles (fun _ hsettled => hsettled) row' (hall.settled row' hrow')

end Evolves

end Evolution

section Effects

variable {db : BatchDb} {jobId rowId : String}

theorem evolves_same {db' : BatchDb} (hrows : db'.rows = db.rows) (hjobs : db'.jobs = db.jobs) :
    Evolves db db' id [] := by
  refine ⟨?_, Follows.refl, fun row hrow => (by cases hrow), fun jobId job hjob => ?_⟩
  · rw [hrows, List.map_id, List.append_nil]
  · exact ⟨job, hjobs ▸ hjob, .refl job⟩

theorem evolves_updateJobs {p : BatchOperationJob → Bool}
    {f : BatchOperationJob → BatchOperationJob} {hf : ∀ job, (f job).id = job.id}
    (hcontinues : ∀ job, p job = true → Continues job (f job)) :
    Evolves db (db.updateJobs p f hf) id [] := by
  refine ⟨?_, Follows.refl, fun row hrow => (by cases hrow), fun jobId job hjob => ?_⟩
  · rw [List.map_id, List.append_nil]
    rfl
  · refine ⟨if p job then f job else job, ?_, ?_⟩
    · rw [BatchDb.updateJobs, Table.get?_updateMany, hjob]
      rfl
    · split
      · rename_i hp
        exact hcontinues job hp
      · exact .refl job

theorem evolves_updateRows {p : BatchOperationJobRow → Bool}
    {f : BatchOperationJobRow → BatchOperationJobRow} {hf : ∀ row, (f row).id = row.id}
    (hfollows : ∀ row, p row = true → Follows row (f row)) :
    Evolves db (db.updateRows p f hf) (fun row => if p row then f row else row) [] := by
  refine ⟨?_, fun row => ?_, fun row hrow => (by cases hrow), fun jobId job hjob => ?_⟩
  · rw [List.append_nil]
    rfl
  · split
    · rename_i hp
      exact hfollows row hp
    · exact Follows.refl row
  · exact ⟨job, hjob, .refl job⟩

/-- Rows whose keys are all free come behind those that are there. -/
theorem rows_inserts_free {t : Table BatchOperationJobRow.id} {rows : List BatchOperationJobRow}
    (hfree : ∀ row ∈ rows, t.get? row.id = none) (hdistinct : (rows.map (·.id)).Nodup) :
    (rows.foldl Table.insert t).rows = t.rows ++ rows := by
  induction rows generalizing t with
  | nil => exact (List.append_nil _).symm
  | cons row rows ih =>
    have hrow := hfree row (List.mem_cons_self ..)
    obtain ⟨hnew, hrest⟩ := List.nodup_cons.mp hdistinct
    rw [List.foldl_cons, ih _ hrest, Table.rows_insert hrow, List.append_assoc]
    · rfl
    · intro row' hrow'
      rw [Table.get?_insert hrow, if_neg]
      · exact hfree row' (List.mem_cons_of_mem _ hrow')
      · intro heq
        exact hnew (List.mem_map.mpr ⟨row', hrow', heq.symm⟩)

/-- The rows that come with a job. -/
theorem createdRows_spec (job : BatchOperationJob) {rowIds ids : List String}
    (hlength : rowIds.length = ids.length) :
    (List.zipWith (BatchDb.createdRow job) rowIds ids).map (·.id) = rowIds ∧
      ∀ row ∈ List.zipWith (BatchDb.createdRow job) rowIds ids,
        row.batchOperationJobId = job.id := by
  induction rowIds generalizing ids with
  | nil => exact ⟨rfl, fun row hrow => by cases hrow⟩
  | cons rowId rowIds ih =>
    cases ids with
    | nil => cases hlength
    | cons entityId ids =>
      obtain ⟨hids, hjobs⟩ := ih (Nat.succ.inj hlength)
      refine ⟨congrArg (rowId :: ·) hids, fun row hrow => ?_⟩
      rcases List.mem_cons.mp hrow with rfl | hrow
      · rfl
      · exact hjobs row hrow

/-- The identifiers a creation draws are all free. -/
structure FreshIds (db : BatchDb) (ids : List String) (id : String) (rowIds : List String) : Prop where
  length : rowIds.length = ids.length
  distinct : rowIds.Nodup
  job : db.jobs.get? id = none
  rows : ∀ rowId ∈ rowIds, db.rows.get? rowId = none

section Created

variable {data : NewBatchOperationJob} {ids rowIds : List String} {id : String}

theorem rows_createJob (h : FreshIds db ids id rowIds) :
    (db.createJob data ids id rowIds).rows.rows = db.rows.rows ++
      List.zipWith (BatchDb.createdRow (BatchDb.created id data ids.length)) rowIds ids := by
  obtain ⟨hids, _⟩ := createdRows_spec (BatchDb.created id data ids.length) h.length
  refine rows_inserts_free (fun row hrow => h.rows row.id ?_) ?_
  · rw [← hids]
    exact List.mem_map_of_mem hrow
  · rw [hids]
    exact h.distinct

theorem jobs_createJob (h : FreshIds db ids id rowIds) (jobId : String) :
    (db.createJob data ids id rowIds).jobs.get? jobId =
      if id = jobId then some (BatchDb.created id data ids.length) else db.jobs.get? jobId :=
  Table.get?_insert h.job jobId

theorem evolves_createJob (h : FreshIds db ids id rowIds) :
    Evolves db (db.createJob data ids id rowIds) (fun row => row)
      (List.zipWith (BatchDb.createdRow (BatchDb.created id data ids.length)) rowIds ids) := by
  obtain ⟨_, hjobs⟩ := createdRows_spec (BatchDb.created id data ids.length) h.length
  refine ⟨?_, Follows.refl, fun row hrow => ?_, fun jobId job hjob => ⟨job, ?_, .refl job⟩⟩
  · rw [List.map_id', rows_createJob h]
  · rw [hjobs row hrow]
    exact h.job
  · rw [jobs_createJob h, if_neg]
    · exact hjob
    · rintro rfl
      cases h.job.symm.trans hjob

end Created

/-- A settlement that came in time has found its row under its own claim. -/
theorem settle_cases {jobId' : String} {claimToken : Nat} {settlement : BatchOperationRowSettlement} :
    (db.settle rowId jobId' claimToken settlement = (false, db)) ∨
      ∃ row, db.rows.get? rowId = some row ∧ row.isHeld claimToken = true ∧
        db.settle rowId jobId' claimToken settlement = (true,
          (db.updateRows (fun row => row.id = rowId && row.isHeld claimToken) settlement.change
            (BatchDb.settled_id settlement)).updateJobs (·.id = jobId')
              (fun job => { job with counters := settlement.count job.counters }) fun _ => rfl) := by
  unfold BatchDb.settle
  by_cases hany : db.rows.rows.any (fun row => row.id = rowId && row.isHeld claimToken) = true
  · rw [if_pos hany]
    obtain ⟨row, hmem, hrow⟩ := List.any_eq_true.mp hany
    rw [Bool.and_eq_true, decide_eq_true_eq] at hrow
    refine .inr ⟨row, ?_, hrow.2, rfl⟩
    rw [← hrow.1]
    exact Table.get?_of_mem hmem
  · rw [if_neg hany]
    exact .inl rfl

theorem unsettled_of_isHeld {row : BatchOperationJobRow} {claimToken : Nat}
    (h : row.isHeld claimToken = true) : row.status = .processing ∧ row.claimToken = claimToken := by
  simpa [BatchOperationJobRow.isHeld] using h

theorem follows_change {row : BatchOperationJobRow} {settlement : BatchOperationRowSettlement}
    (h : row.status = .processing) : Follows row (settlement.change row) := by
  have hopen : ¬ row.status.isSettled = true := by
    rw [h]
    decide
  cases settlement with
  | success resultSnapshot => exact ⟨rfl, rfl, Nat.le_refl _, fun hend => absurd hend hopen⟩
  | failed errorMessage => exact ⟨rfl, rfl, Nat.le_refl _, fun hend => absurd hend hopen⟩
  | skipped skipReason => exact ⟨rfl, rfl, Nat.le_refl _, fun hend => absurd hend hopen⟩

theorem follows_claim (row : BatchOperationJobRow)
    (h : (decide (row.id = rowId) && decide (row.status = .pending)) = true) :
    Follows row row.claim := by
  refine ⟨rfl, rfl, Nat.le_succ _, fun hend => ?_⟩
  rw [Bool.and_eq_true, decide_eq_true_eq, decide_eq_true_eq] at h
  rw [h.2] at hend
  cases hend

theorem evolves_settle {jobId' : String} {claimToken : Nat}
    {settlement : BatchOperationRowSettlement} :
    ∃ g, Evolves db (db.settle rowId jobId' claimToken settlement).2 g [] := by
  rcases @settle_cases db rowId jobId' claimToken settlement with hlate | ⟨row, _, _, hsettle⟩
  · rw [hlate]
    exact ⟨_, evolves_same rfl rfl⟩
  · rw [hsettle]
    have hrows := @evolves_updateRows db (fun row => row.id = rowId && row.isHeld claimToken)
      settlement.change (BatchDb.settled_id settlement) ?_
    · refine ⟨_, ⟨hrows.rows, hrows.follows, hrows.fresh, fun jobId job hjob => ?_⟩⟩
      obtain ⟨job', hjob', hcontinues⟩ := hrows.jobs jobId job hjob
      have hjobs := @evolves_updateJobs (db.updateRows (fun row => row.id = rowId &&
        row.isHeld claimToken) settlement.change (BatchDb.settled_id settlement)) (·.id = jobId')
        (fun job => { job with counters := settlement.count job.counters }) (fun _ => rfl)
        fun _ _ => ⟨rfl, fun _ => rfl, fun hcancelled => hcancelled⟩
      obtain ⟨job'', hjob'', hcontinues'⟩ := hjobs.jobs jobId job' hjob'
      exact ⟨job'', hjob'', hcontinues.trans hcontinues'⟩
    · intro row hrow
      rw [Bool.and_eq_true] at hrow
      exact follows_change (unsettled_of_isHeld hrow.2).1

theorem continues_markRunning (job : BatchOperationJob) (h : (decide (job.id = jobId) &&
    decide (job.status = .pending) && !job.cancelRequested) = true) :
    Continues job { job with status := .running } := by
  refine ⟨rfl, fun hend => ?_, fun hcancelled => hcancelled⟩
  rw [Bool.and_eq_true, Bool.and_eq_true, decide_eq_true_eq, decide_eq_true_eq] at h
  rw [h.1.2] at hend
  cases hend

theorem continues_close {status : BatchOperationJobStatus} (job : BatchOperationJob)
    (h : (decide (job.id = jobId) && !job.status.isTerminal) = true) :
    Continues job { job with status := status } := by
  refine ⟨rfl, fun hend => ?_, fun hcancelled => hcancelled⟩
  rw [Bool.and_eq_true, hend] at h
  cases h.2

/-- Whatever is served, settled rows and ended jobs stay as they are. -/
theorem evolves_of_serve {q : BatchStatement} {choice : BatchChoice} {a : Except String q.Result}
    {db' : BatchDb} (h : q.serve choice db = some (a, db')) : ∃ g more, Evolves db db' g more := by
  have hsame : ∀ {db' : BatchDb}, db'.rows = db.rows → db'.jobs = db.jobs →
      ∃ g more, Evolves db db' g more := fun hrows hjobs => ⟨_, _, evolves_same hrows hjobs⟩
  unfold BatchStatement.serve at h
  split at h
  · cases h
    exact hsame rfl rfl
  · cases h
    exact hsame rfl rfl
  · split at h
    · rename_i hdrawn
      split at h
      · cases h
        exact hsame rfl rfl
      · cases h
        exact ⟨_, _, evolves_createJob ⟨hdrawn.1, hdrawn.2.1, hdrawn.2.2.1, hdrawn.2.2.2.1⟩⟩
    · cases h
  · cases h
    exact hsame rfl rfl
  · cases h
    exact ⟨_, _, evolves_updateJobs continues_markRunning⟩
  · cases h
    exact ⟨_, _, evolves_updateJobs continues_close⟩
  · cases h
    exact hsame rfl rfl
  · cases h
    exact ⟨_, _, evolves_updateJobs fun _ _ => ⟨rfl, fun _ => rfl, fun hcancelled => hcancelled⟩⟩
  · obtain ⟨jobs, _, heq⟩ := Option.map_eq_some_iff.mp h
    cases heq
    exact hsame rfl rfl
  · obtain ⟨jobs, _, heq⟩ := Option.map_eq_some_iff.mp h
    cases heq
    exact hsame rfl rfl
  · split at h
    · cases h
      exact ⟨_, _, evolves_updateJobs fun _ _ => ⟨rfl, fun _ => rfl, fun _ => rfl⟩⟩
    · cases h
      exact hsame rfl rfl
  · cases h
    exact hsame rfl rfl
  · split at h
    · cases h
      exact hsame rfl rfl
    · cases h
  · cases h
    exact ⟨_, _, evolves_updateRows follows_claim⟩
  · cases h
    obtain ⟨g, hsettle⟩ := evolves_settle
    exact ⟨g, _, hsettle⟩
  · cases h
    refine ⟨_, _, evolves_updateRows fun row hp => ⟨rfl, rfl, Nat.le_succ _, fun hend => ?_⟩⟩
    rw [Bool.and_eq_true, Bool.and_eq_true, decide_eq_true_eq, decide_eq_true_eq] at hp
    rw [hp.1.2] at hend
    cases hend
  · cases h
    refine ⟨_, _, evolves_updateRows fun row hp => ⟨rfl, rfl, Nat.le_refl _, fun hend => ?_⟩⟩
    rw [Bool.and_eq_true, decide_eq_true_eq] at hp
    rw [hp.1] at hend
    cases hend
  · cases h
    exact hsame rfl rfl
  · cases h
    exact hsame rfl rfl
  · cases h
    exact hsame rfl rfl
  · cases h
    exact hsame rfl rfl
  · obtain ⟨dispatch, _, heq⟩ := Option.map_eq_some_iff.mp h
    cases heq
    split
    · exact hsame rfl rfl
    · exact hsame rfl rfl
  · cases h
    exact hsame rfl rfl
  · cases h
    exact hsame rfl rfl
  · cases h

end Effects

section Counting

/-- What was counted lags behind what there is, if anything. -/
structure Within (counted actual : BatchOperationCounters) : Prop where
  processed : counted.processedRecords =
    counted.successRecords + counted.failedRecords + counted.skippedRecords
  success : counted.successRecords ≤ actual.successRecords
  failed : counted.failedRecords ≤ actual.failedRecords
  skipped : counted.skippedRecords ≤ actual.skippedRecords

variable {db db' : BatchDb} {g : BatchOperationJobRow → BatchOperationJobRow}
variable {more : List BatchOperationJobRow} {jobId rowId : String} {counters : BatchOperationCounters}

/-- No kind of outcome gets less. -/
theorem Evolves.countWhere_eq_le (h : Evolves db db' g more) (jobId : String)
    {status : BatchOperationRowStatus} (hstatus : status.isSettled = true) :
    db.countWhere jobId (· = status) ≤ db'.countWhere jobId (· = status) := by
  refine h.countWhere_le fun other hother => ?_
  rw [of_decide_eq_true hother]
  exact hstatus

theorem Evolves.within (h : Evolves db db' g more) (hwithin : Within counters (db.countersOf jobId)) :
    Within counters (db'.countersOf jobId) where
  processed := hwithin.processed
  success := Nat.le_trans hwithin.success (h.countWhere_eq_le jobId rfl)
  failed := Nat.le_trans hwithin.failed (h.countWhere_eq_le jobId rfl)
  skipped := Nat.le_trans hwithin.skipped (h.countWhere_eq_le jobId rfl)

/-- The outcomes of a job's rows are three, and add up. -/
theorem countersOf_processed (db : BatchDb) (jobId : String) :
    (db.countersOf jobId).processedRecords = (db.countersOf jobId).successRecords +
      (db.countersOf jobId).failedRecords + (db.countersOf jobId).skippedRecords := by
  simp only [BatchDb.countersOf, BatchDb.countWhere]
  induction db.rowsOf jobId with
  | nil => rfl
  | cons row rows ih =>
    simp only [List.countP_cons, ih]
    cases row.status with
    | pending => simp [BatchOperationRowStatus.isSettled]
    | processing => simp [BatchOperationRowStatus.isSettled]
    | success =>
      simp [BatchOperationRowStatus.isSettled]
      omega
    | failed =>
      simp [BatchOperationRowStatus.isSettled]
      omega
    | skipped =>
      simp [BatchOperationRowStatus.isSettled]
      omega

theorem within_countersOf (db : BatchDb) (jobId : String) :
    Within (db.countersOf jobId) (db.countersOf jobId) :=
  ⟨countersOf_processed db jobId, Nat.le_refl _, Nat.le_refl _, Nat.le_refl _⟩

/-- What lags behind and adds up to as much does not lag behind. -/
theorem Within.eq_of_le {counted actual : BatchOperationCounters} (h : Within counted actual)
    (hactual : actual.processedRecords =
      actual.successRecords + actual.failedRecords + actual.skippedRecords)
    (hle : actual.processedRecords ≤ counted.processedRecords) : counted = actual := by
  obtain ⟨hprocessed, hsuccess, hfailed, hskipped⟩ := h
  cases counted
  cases actual
  simp only [BatchOperationCounters.mk.injEq] at *
  omega

/-- A job whose rows are all counted has none left. -/
theorem allSettled_of_counted {total : Nat} (htotal : (db.rowsOf jobId).length = total)
    (hwithin : Within counters (db.countersOf jobId)) (hall : total ≤ counters.processedRecords) :
    ∀ row ∈ db.rowsOf jobId, row.status.isSettled = true := by
  have hle : (db.rowsOf jobId).length ≤ db.countWhere jobId BatchOperationRowStatus.isSettled := by
    have hcounted := countersOf_processed db jobId
    have hprocessed := hwithin.processed
    have hsuccess := hwithin.success
    have hfailed := hwithin.failed
    have hskipped := hwithin.skipped
    have hsettled : (db.countersOf jobId).processedRecords =
      db.countWhere jobId BatchOperationRowStatus.isSettled := rfl
    omega
  exact List.countP_eq_length.mp (Nat.le_antisymm List.countP_le_length hle)

/-- One element more passes, and none less. -/
theorem succ_countP_le {α : Type} {p q : α → Bool} {xs : List α} {x : α}
    (himp : ∀ y ∈ xs, p y = true → q y = true) (hx : x ∈ xs) (hp : p x = false) (hq : q x = true) :
    xs.countP p + 1 ≤ xs.countP q := by
  induction xs with
  | nil => cases hx
  | cons y ys ih =>
    have hrest : ys.countP p ≤ ys.countP q :=
      List.countP_mono_left fun z hz => himp z (List.mem_cons_of_mem _ hz)
    rw [List.countP_cons, List.countP_cons]
    rcases List.mem_cons.mp hx with rfl | hx
    · rw [if_neg (Bool.not_eq_true _ ▸ hp), if_pos hq]
      omega
    · have hmore := ih (fun z hz => himp z (List.mem_cons_of_mem _ hz)) hx
      have hhead := himp y (List.mem_cons_self ..)
      by_cases hy : p y = true
      · rw [if_pos hy, if_pos (hhead hy)]
        omega
      · rw [if_neg hy]
        omega

/-- A row that is settled is counted, whatever else comes to pass. -/
theorem Evolves.succ_countWhere_le (h : Evolves db db' g more)
    {p : BatchOperationRowStatus → Bool}
    (hp : ∀ status, p status = true → status.isSettled = true) {row : BatchOperationJobRow}
    (hrow : db.rows.get? rowId = some row) (hjob : row.batchOperationJobId = jobId)
    (hopen : p row.status = false) (hdone : p (g row).status = true) :
    db.countWhere jobId p + 1 ≤ db'.countWhere jobId p := by
  rw [BatchDb.countWhere, BatchDb.countWhere, h.rowsOf, List.countP_append, List.countP_map]
  have hmem : row ∈ db.rowsOf jobId :=
    List.mem_filter.mpr ⟨Table.mem_of_get? hrow, decide_eq_true hjob⟩
  have hsucc := @succ_countP_le _ (fun row : BatchOperationJobRow => p row.status)
    ((fun row : BatchOperationJobRow => p row.status) ∘ g) (db.rowsOf jobId) row
    (fun row' _ => h.settles hp row') hmem hopen hdone
  omega

end Counting

section Invariant

/-- The event tells of a job that has ended, with what its rows came to. -/
structure BatchDb.Truthful (db : BatchDb) (event : BatchOperationJobCompletedEvent) : Prop where
  ended : event.status.isTerminal = true
  stored : ∃ job, db.jobs.get? event.jobId = some job ∧ job.status = event.status
  finished : event.status ≠ .cancelled → db.AllSettled event.jobId
  success : event.successRecords ≤ (db.countersOf event.jobId).successRecords
  failed : event.failedRecords ≤ (db.countersOf event.jobId).failedRecords
  skipped : event.skippedRecords ≤ (db.countersOf event.jobId).skippedRecords

/-- Every row has its job, every job its rows and counters that do not run ahead of them. -/
structure BatchDb.Sound (db : BatchDb) : Prop where
  headed : ∀ row ∈ db.rows.rows, ∃ job, db.jobs.get? row.batchOperationJobId = some job
  totals : ∀ job ∈ db.jobs.rows, (db.rowsOf job.id).length = job.totalRecords
  counters : ∀ job ∈ db.jobs.rows, Within job.counters (db.countersOf job.id)
  queued : ∀ dispatch ∈ db.queue, ∀ rowId ∈ dispatch.rowIds, db.Belongs dispatch.jobId rowId
  events : ∀ event ∈ db.events, db.Truthful event

/-- What is known of a job that was found. -/
structure BatchDb.Knows (db : BatchDb) (job : BatchOperationJob) : Prop where
  within : Within job.counters (db.countersOf job.id)
  all : job.totalRecords ≤ job.counters.processedRecords → db.AllSettled job.id

/-- What an answer tells of the store. -/
def Told (db : BatchDb) : BatchCall → Prop
  | ⟨.createJobWithRows _ _, .ok (job, rowIds)⟩ => ∀ rowId ∈ rowIds, db.Belongs job.id rowId
  | ⟨.findJob jobId, .ok (some job)⟩ => job.id = jobId ∧ db.Knows job
  | ⟨.countRows, .ok counted⟩ => ∀ entry ∈ counted, Within entry.2 (db.countersOf entry.1)
  | ⟨.findCompletableJobs, .ok jobs⟩ => ∀ job ∈ jobs, db.AllSettled job.id
  | ⟨.pendingRowIds jobId, .ok rowIds⟩ => ∀ rowId ∈ rowIds, db.Belongs jobId rowId
  | ⟨.takeChunk, .ok dispatch⟩ => ∀ rowId ∈ dispatch.rowIds, db.Belongs dispatch.jobId rowId
  | ⟨.claimRow rowId, .ok (some claimed)⟩ => claimed.id = rowId ∧
      ∃ row, db.rows.get? rowId = some row ∧ claimed.claimToken ≤ row.claimToken
  | ⟨.closeJob jobId status, .ok true⟩ => status.isTerminal = true ∧
      ∃ job, db.jobs.get? jobId = some job ∧ job.status = status
  | ⟨.settleRow rowId _ _ _, .ok true⟩ =>
    ∃ row, db.rows.get? rowId = some row ∧ row.status.isSettled = true
  | _ => True

variable {db db' : BatchDb} {g : BatchOperationJobRow → BatchOperationJobRow}
variable {more : List BatchOperationJobRow}

theorem Evolves.knows (h : Evolves db db' g more) {job : BatchOperationJob} (hjob : db.Knows job) :
    db'.Knows job :=
  ⟨h.within hjob.within, fun hall => h.allSettled (hjob.all hall)⟩

theorem Evolves.ended (h : Evolves db db' g more) {jobId : String} {status : BatchOperationJobStatus}
    (hend : status.isTerminal = true)
    (hjob : ∃ job, db.jobs.get? jobId = some job ∧ job.status = status) :
    ∃ job, db'.jobs.get? jobId = some job ∧ job.status = status := by
  obtain ⟨job, hget, rfl⟩ := hjob
  obtain ⟨job', hget', hcontinues⟩ := h.jobs jobId job hget
  exact ⟨job', hget', hcontinues.ended hend⟩

/-- What was told of the store stays true of it. -/
theorem Evolves.told (h : Evolves db db' g more) {c : BatchCall} (hc : Told db c) : Told db' c := by
  unfold Told at hc
  split at hc
  · exact fun rowId hrow => h.belongs (hc rowId hrow)
  · exact ⟨hc.1, h.knows hc.2⟩
  · exact fun entry hentry => h.within (hc entry hentry)
  · exact fun job hjob => h.allSettled (hc job hjob)
  · exact fun rowId hrow => h.belongs (hc rowId hrow)
  · exact fun rowId hrow => h.belongs (hc rowId hrow)
  · obtain ⟨hid, row, hrow, htoken⟩ := hc
    exact ⟨hid, g row, h.get?_rows hrow, Nat.le_trans htoken (h.follows row).token⟩
  · exact ⟨hc.1, h.ended hc.1 hc.2⟩
  · obtain ⟨row, hrow, hsettled⟩ := hc
    exact ⟨g row, h.get?_rows hrow, h.settles (fun _ hsettled => hsettled) row hsettled⟩
  · unfold Told
    split <;> first | trivial | grind

theorem Evolves.truthful (h : Evolves db db' g more) {event : BatchOperationJobCompletedEvent}
    (hevent : db.Truthful event) : db'.Truthful event where
  ended := hevent.ended
  stored := h.ended hevent.ended hevent.stored
  finished hstatus := h.allSettled (hevent.finished hstatus)
  success := Nat.le_trans hevent.success (h.countWhere_eq_le _ rfl)
  failed := Nat.le_trans hevent.failed (h.countWhere_eq_le _ rfl)
  skipped := Nat.le_trans hevent.skipped (h.countWhere_eq_le _ rfl)

/-- What is left to show of a step: the jobs it writes, the chunks and the events it adds. -/
theorem Evolves.sound (h : Evolves db db' g more) (hsound : db.Sound)
    (hmore : ∀ row ∈ more, ∃ job, db'.jobs.get? row.batchOperationJobId = some job)
    (htotals : ∀ job ∈ db'.jobs.rows, (db'.rowsOf job.id).length = job.totalRecords)
    (hcounters : ∀ job ∈ db'.jobs.rows, Within job.counters (db'.countersOf job.id))
    (hqueue : ∀ dispatch ∈ db'.queue, dispatch ∈ db.queue ∨
      ∀ rowId ∈ dispatch.rowIds, db.Belongs dispatch.jobId rowId)
    (hevents : ∀ event ∈ db'.events, event ∈ db.events ∨ db'.Truthful event) : db'.Sound := by
  refine ⟨fun row hrow => ?_, htotals, hcounters, fun dispatch hd rowId hrow => ?_, fun event he => ?_⟩
  · rw [h.rows] at hrow
    rcases List.mem_append.mp hrow with hrow | hrow
    · obtain ⟨row', hrow', rfl⟩ := List.mem_map.mp hrow
      obtain ⟨job, hjob⟩ := hsound.headed row' hrow'
      obtain ⟨job', hjob', _⟩ := h.jobs _ job hjob
      exact ⟨job', (h.follows row').job ▸ hjob'⟩
    · exact hmore row hrow
  · rcases hqueue dispatch hd with hd | hrows
    · exact h.belongs (hsound.queued dispatch hd rowId hrow)
    · exact h.belongs (hrows rowId hrow)
  · rcases hevents event he with he | htrue
    · exact h.truthful (hsound.events event he)
    · exact htrue

theorem Evolves.totals (h : Evolves db db' g more) (hsound : db.Sound) {job job' : BatchOperationJob}
    (hjob : db.jobs.get? job'.id = some job) (htotal : job'.totalRecords = job.totalRecords) :
    (db'.rowsOf job'.id).length = job'.totalRecords := by
  rw [h.rowsOf_stored hjob, List.length_map, htotal]
  have hkey := Table.key_of_get? hjob
  rw [← hkey]
  exact hsound.totals job (Table.mem_of_get? hjob)

/-- Nothing but the queue and the events changes. -/
theorem sound_same (hsound : db.Sound) (hrows : db'.rows = db.rows) (hjobs : db'.jobs = db.jobs)
    (hqueue : ∀ dispatch ∈ db'.queue, dispatch ∈ db.queue ∨
      ∀ rowId ∈ dispatch.rowIds, db.Belongs dispatch.jobId rowId)
    (hevents : ∀ event ∈ db'.events, event ∈ db.events ∨ db'.Truthful event) : db'.Sound := by
  have hrowsOf : ∀ jobId, db'.rowsOf jobId = db.rowsOf jobId := fun jobId => by
    rw [BatchDb.rowsOf, hrows, BatchDb.rowsOf]
  have hcounters : ∀ jobId, db'.countersOf jobId = db.countersOf jobId := fun jobId => by
    simp only [BatchDb.countersOf, BatchDb.countWhere, hrowsOf]
  refine (evolves_same hrows hjobs).sound hsound (fun row hrow => (by cases hrow))
    (fun job hjob => ?_) (fun job hjob => ?_) hqueue hevents
  · rw [hrowsOf]
    exact hsound.totals job (hjobs ▸ hjob)
  · rw [hcounters]
    exact hsound.counters job (hjobs ▸ hjob)

theorem sound_updateJobs {p : BatchOperationJob → Bool}
    {f : BatchOperationJob → BatchOperationJob} {hf : ∀ job, (f job).id = job.id}
    (hsound : db.Sound) (hcontinues : ∀ job, p job = true → Continues job (f job))
    (hcounters : ∀ job ∈ db.jobs.rows, p job = true →
      Within (f job).counters (db.countersOf job.id)) : (db.updateJobs p f hf).Sound := by
  have hevolves := @evolves_updateJobs db p f hf hcontinues
  have hwritten : ∀ job ∈ (db.updateJobs p f hf).jobs.rows,
      ∃ job' ∈ db.jobs.rows, (if p job' then f job' else job') = job := fun job hjob =>
    (@Table.mem_updateMany _ _ _ db.jobs p f hf job).mp hjob
  refine hevolves.sound hsound (fun row hrow => (by cases hrow)) (fun job hjob => ?_)
    (fun job hjob => ?_) (fun _ hd => .inl hd) fun _ he => .inl he
  · obtain ⟨job', hjob', rfl⟩ := hwritten job hjob
    have hold := Table.get?_of_mem hjob'
    split
    · rename_i hp
      exact hevolves.totals hsound ((hf job').symm ▸ hold) (hcontinues job' hp).total
    · exact hevolves.totals hsound hold rfl
  · obtain ⟨job', hjob', rfl⟩ := hwritten job hjob
    split
    · rename_i hp
      rw [hf]
      exact hcounters job' hjob' hp
    · exact hsound.counters job' hjob'

theorem sound_updateRows {p : BatchOperationJobRow → Bool}
    {f : BatchOperationJobRow → BatchOperationJobRow} {hf : ∀ row, (f row).id = row.id}
    (hsound : db.Sound) (hfollows : ∀ row, p row = true → Follows row (f row)) :
    (db.updateRows p f hf).Sound := by
  have hevolves := @evolves_updateRows db p f hf hfollows
  refine hevolves.sound hsound (fun row hrow => (by cases hrow)) (fun job hjob => ?_)
    (fun job hjob => hevolves.within (hsound.counters job hjob)) (fun _ hd => .inl hd)
    fun _ he => .inl he
  exact hevolves.totals hsound (Table.get?_of_mem hjob) rfl

theorem sound_createJob {data : NewBatchOperationJob} {ids rowIds : List String} {id : String}
    (hsound : db.Sound) (h : FreshIds db ids id rowIds) : (db.createJob data ids id rowIds).Sound := by
  have hevolves := @evolves_createJob db data ids rowIds id h
  obtain ⟨hids, hjobs⟩ := createdRows_spec (BatchDb.created id data ids.length) h.length
  have hlength := congrArg List.length hids
  rw [List.length_map] at hlength
  have hnew : ∀ job ∈ (db.createJob data ids id rowIds).jobs.rows,
      job = BatchDb.created id data ids.length ∨ job ∈ db.jobs.rows := fun job hjob =>
    ((Table.mem_insert h.job).mp hjob).symm
  refine hevolves.sound hsound (fun row hrow => ?_) (fun job hjob => ?_) (fun job hjob => ?_)
    (fun _ hd => .inl hd) fun _ he => .inl he
  · exact ⟨_, (jobs_createJob h _).trans (if_pos (hjobs row hrow).symm)⟩
  · rcases hnew job hjob with rfl | hold
    · -- the rows that were there have jobs that are stored, so the new job's are the new ones
      have hnone : db.rowsOf id = [] := by
        refine List.filter_eq_nil_iff.mpr fun row hrow heq => ?_
        obtain ⟨job, hstored⟩ := hsound.headed row hrow
        rw [of_decide_eq_true heq, h.job] at hstored
        cases hstored
      have hall : ∀ row ∈ List.zipWith (BatchDb.createdRow (BatchDb.created id data ids.length))
          rowIds ids, decide (row.batchOperationJobId = id) = true := fun row hrow =>
        decide_eq_true (hjobs row hrow)
      have hof := hevolves.rowsOf id
      rw [hnone, List.map_nil, List.nil_append, List.filter_eq_self.mpr hall] at hof
      change ((db.createJob data ids id rowIds).rowsOf id).length = ids.length
      rw [hof, hlength, h.length]
    · exact hevolves.totals hsound (Table.get?_of_mem hold) rfl
  · rcases hnew job hjob with rfl | hold
    · exact ⟨rfl, Nat.zero_le _, Nat.zero_le _, Nat.zero_le _⟩
    · exact hevolves.within (hsound.counters job hold)

/-- The row that is settled is counted in the transaction that settles it. -/
theorem sound_settle {rowId jobId : String} {claimToken : Nat}
    {settlement : BatchOperationRowSettlement} (hsound : db.Sound)
    (hbelongs : db.Belongs jobId rowId) : (db.settle rowId jobId claimToken settlement).2.Sound := by
  rcases @settle_cases db rowId jobId claimToken settlement with hlate | ⟨row, hrow, hheld, hsettle⟩
  · rw [hlate]
    exact hsound
  · rw [hsettle]
    obtain ⟨hopen, htoken⟩ := unsettled_of_isHeld hheld
    have hfollows : ∀ row : BatchOperationJobRow, (row.id = rowId && row.isHeld claimToken) = true →
        Follows row (settlement.change row) := fun row hp => by
      rw [Bool.and_eq_true] at hp
      exact follows_change (unsettled_of_isHeld hp.2).1
    have hrows := @sound_updateRows db _ _ (BatchDb.settled_id settlement) hsound hfollows
    have hevolves := @evolves_updateRows db _ _ (BatchDb.settled_id settlement) hfollows
    refine sound_updateJobs hrows (fun _ _ => ⟨rfl, fun _ => rfl, fun hcancelled => hcancelled⟩)
      fun job hjob hp => ?_
    obtain ⟨row', hrow', hjobId⟩ := hbelongs
    cases hrow.symm.trans hrow'
    obtain rfl := of_decide_eq_true hp
    have hbefore := hsound.counters job hjob
    have hafter := hevolves.within hbefore
    have hcounted : ∀ status : BatchOperationRowStatus, status.isSettled = true →
        (settlement.change row).status = status →
        db.countWhere job.id (· = status) + 1 ≤ (db.updateRows (fun row => row.id = rowId &&
          row.isHeld claimToken) settlement.change (BatchDb.settled_id settlement)).countWhere job.id
          (· = status) := by
      intro status hstatus hchange
      refine hevolves.succ_countWhere_le (fun other hother => ?_) hrow hjobId ?_ ?_
      · rw [of_decide_eq_true hother]
        exact hstatus
      · rw [hopen]
        refine decide_eq_false fun heq => ?_
        rw [← heq] at hstatus
        cases hstatus
      · rw [if_pos (by rw [hheld, Table.key_of_get? hrow]; simp)]
        exact decide_eq_true hchange
    have hprocessed := hbefore.processed
    cases settlement with
    | success resultSnapshot =>
      refine ⟨?_, Nat.le_trans (Nat.succ_le_succ hbefore.success) (hcounted .success rfl rfl),
        hafter.failed, hafter.skipped⟩
      simp only [BatchOperationRowSettlement.count]
      omega
    | failed errorMessage =>
      refine ⟨?_, hafter.success, Nat.le_trans (Nat.succ_le_succ hbefore.failed)
        (hcounted .failed rfl rfl), hafter.skipped⟩
      simp only [BatchOperationRowSettlement.count]
      omega
    | skipped skipReason =>
      refine ⟨?_, hafter.success, hafter.failed, Nat.le_trans (Nat.succ_le_succ hbefore.skipped)
        (hcounted .skipped rfl rfl)⟩
      simp only [BatchOperationRowSettlement.count]
      omega

end Invariant

section Served

variable {db db' : BatchDb} {h : List BatchCall} {q : BatchStatement} {choice : BatchChoice}
variable {a : Except String q.Result} {jobId rowId : String}

/-- A row is claimed out of the pending ones, under a token of its own. -/
theorem claimed_of_serve {claimed : ClaimedBatchOperationRow}
    (hserve : (BatchStatement.claimRow rowId).serve choice db = some (.ok (some claimed), db')) :
    ∃ row, db.rows.get? rowId = some row ∧ claimed = row.claim.claimed ∧
      db'.rows.get? rowId = some row.claim := by
  cases choice with
  | settled =>
    change some (Except.ok _, _) = _ at hserve
    obtain ⟨hfound, hdb⟩ := Prod.mk.inj (Option.some.inj hserve)
    obtain ⟨row, hrow, hclaimed⟩ := Option.map_eq_some_iff.mp (Except.ok.inj hfound)
    obtain ⟨hget, hpending⟩ := Option.filter_eq_some_iff.mp hrow
    refine ⟨row, hget, hclaimed.symm, ?_⟩
    have hpicked : (decide (row.id = rowId) && decide (row.status = .pending)) = true := by
      rw [Table.key_of_get? hget, hpending]
      simp
    have hstored := (@evolves_updateRows db
      (fun row => decide (row.id = rowId) && decide (row.status = .pending))
      BatchOperationJobRow.claim (fun _ => rfl) follows_claim).get?_rows hget
    rw [if_pos hpicked] at hstored
    rw [← hdb]
    exact hstored
  | _ => cases hserve

theorem settled_of_serve {claimToken : Nat} {settlement : BatchOperationRowSettlement}
    (hserve : (BatchStatement.settleRow rowId jobId claimToken settlement).serve choice db =
      some (.ok true, db')) :
    ∃ row, db.rows.get? rowId = some row ∧ row.isHeld claimToken = true ∧
      db'.rows.get? rowId = some (settlement.change row) := by
  cases choice with
  | settled =>
    change some (Except.ok _, _) = _ at hserve
    obtain ⟨hanswer, hdb⟩ := Prod.mk.inj (Option.some.inj hserve)
    have hdone := Except.ok.inj hanswer
    rcases @settle_cases db rowId jobId claimToken settlement with hlate | ⟨row, hrow, hheld, hsettle⟩
    · rw [hlate] at hdone
      cases hdone
    · rw [hsettle] at hdb
      refine ⟨row, hrow, hheld, ?_⟩
      rw [← hdb, BatchDb.updateJobs, BatchDb.updateRows, Table.get?_updateMany, hrow,
        Option.map_some, if_pos]
      rw [hheld, Table.key_of_get? hrow]
      simp
  | _ => cases hserve

/-- A job that is closed was open. -/
theorem closed_of_serve {status : BatchOperationJobStatus}
    (hserve : (BatchStatement.closeJob jobId status).serve choice db = some (.ok true, db')) :
    ∃ job, db.jobs.get? jobId = some job ∧ job.status.isTerminal = false ∧
      db'.jobs.get? jobId = some { job with status := status } := by
  cases choice with
  | settled =>
    change some (Except.ok _, _) = _ at hserve
    obtain ⟨hanswer, hdb⟩ := Prod.mk.inj (Option.some.inj hserve)
    obtain ⟨job, hmem, hp⟩ := List.any_eq_true.mp (Except.ok.inj hanswer)
    have hopen : job.id = jobId ∧ job.status.isTerminal = false := by simpa using hp
    have hget : db.jobs.get? jobId = some job := by
      rw [← hopen.1]
      exact Table.get?_of_mem hmem
    refine ⟨job, hget, hopen.2, ?_⟩
    rw [← hdb, BatchDb.updateJobs, Table.get?_updateMany, hget, Option.map_some, if_pos hp]
  | _ => cases hserve

theorem told_error {message : String} : Told db ⟨q, .error message⟩ := by
  cases q <;> trivial

theorem allSettled_of_pick {ids : List String} {jobs : List BatchOperationJob}
    (hpick : db.pick db.isCompletable ids = some jobs) : ∀ job ∈ jobs, db.AllSettled job.id := by
  intro job hjob
  unfold BatchDb.pick at hpick
  split at hpick
  · rename_i hcond
    cases hpick
    obtain ⟨id, hid, hget⟩ := List.mem_filterMap.mp hjob
    have hcompletable := hcond.2.1 id hid
    rw [hget, Option.any_some, BatchDb.isCompletable, Bool.and_eq_true] at hcompletable
    have hkey : job.id = id := Table.key_of_get? hget
    exact ⟨⟨job, hkey ▸ hget⟩, List.all_eq_true.mp hcompletable.2⟩
  · cases hpick

/-- What an answer tells is true when it is given. -/
theorem told_of_serve (hsound : db.Sound) (hreason : Reason h q)
    (hserve : q.serve choice db = some (a, db')) : Told db' ⟨q, a⟩ := by
  have hserved := hserve
  unfold BatchStatement.serve at hserve
  split at hserve
  · cases hserve
    exact told_error
  · cases hserve
    trivial
  · split at hserve
    · rename_i data ids id rowIds order hdrawn
      split at hserve
      · cases hserve
        exact told_error
      · cases hserve
        obtain ⟨hids, hjobs⟩ := createdRows_spec (BatchDb.created id data ids.length) hdrawn.1
        intro rowId hrow
        have hdrawn' : FreshIds db ids id rowIds :=
          ⟨hdrawn.1, hdrawn.2.1, hdrawn.2.2.1, hdrawn.2.2.2.1⟩
        rw [hdrawn.2.2.2.2.mem_iff, ← hids] at hrow
        obtain ⟨row, hmem, rfl⟩ := List.mem_map.mp hrow
        refine ⟨row, Table.get?_of_mem ?_, hjobs row hmem⟩
        rw [rows_createJob hdrawn']
        exact List.mem_append_right _ hmem
    · cases hserve
  · cases hserve
    rename_i jobId
    cases hget : db.jobs.get? jobId with
    | none => trivial
    | some job =>
      have hwithin := hsound.counters job (Table.mem_of_get? hget)
      have hkey : job.id = jobId := Table.key_of_get? hget
      refine ⟨hkey, hwithin, fun hall => ⟨⟨job, hkey ▸ hget⟩, ?_⟩⟩
      exact allSettled_of_counted (hsound.totals job (Table.mem_of_get? hget)) hwithin hall
  · cases hserve
    trivial
  · rename_i jobId status
    cases a with
    | error message => exact told_error
    | ok updated =>
      cases updated with
      | false => trivial
      | true =>
        obtain ⟨job, _, _, hclosed⟩ := closed_of_serve hserved
        exact ⟨hreason, _, hclosed, rfl⟩
  · cases hserve
    intro entry hentry
    obtain ⟨jobId, _, rfl⟩ := List.mem_map.mp hentry
    exact within_countersOf db jobId
  · cases hserve
    trivial
  · obtain ⟨jobs, hpick, heq⟩ := Option.map_eq_some_iff.mp hserve
    cases heq
    exact allSettled_of_pick hpick
  · obtain ⟨jobs, _, heq⟩ := Option.map_eq_some_iff.mp hserve
    cases heq
    trivial
  · split at hserve
    · cases hserve
      trivial
    · cases hserve
      exact told_error
  · cases hserve
    trivial
  · split at hserve
    · rename_i hperm
      cases hserve
      intro rowId hrow
      rw [hperm.mem_iff] at hrow
      obtain ⟨row, hmem, rfl⟩ := List.mem_map.mp hrow
      obtain ⟨hof, _⟩ := List.mem_filter.mp hmem
      obtain ⟨hrow, hjob⟩ := List.mem_filter.mp hof
      exact ⟨row, Table.get?_of_mem hrow, of_decide_eq_true hjob⟩
    · cases hserve
  · cases a with
    | error message => exact told_error
    | ok found =>
      cases found with
      | none => trivial
      | some claimed =>
        obtain ⟨row, hrow, rfl, hclaimed⟩ := claimed_of_serve hserved
        have hkey : row.id = _ := Table.key_of_get? hrow
        exact ⟨hkey, _, hclaimed, Nat.le_refl _⟩
  · cases a with
    | error message => exact told_error
    | ok settled =>
      cases settled with
      | false => trivial
      | true =>
        obtain ⟨row, _, _, hsettled⟩ := settled_of_serve hserved
        refine ⟨_, hsettled, ?_⟩
        rename_i settlement _ _
        cases settlement <;> rfl
  · cases hserve
    trivial
  · cases hserve
    trivial
  · cases hserve
    trivial
  · cases hserve
    trivial
  · cases hserve
    trivial
  · cases hserve
    exact told_error
  · obtain ⟨dispatch, hget, heq⟩ := Option.map_eq_some_iff.mp hserve
    have hqueued := hsound.queued dispatch (List.mem_of_getElem? hget)
    cases heq
    split
    · exact hqueued
    · exact hqueued
  · cases hserve
    trivial
  · cases hserve
    trivial
  · cases hserve

theorem belongs_of_listed (htold : ∀ c ∈ h, Told db c) (hlisted : Listed h jobId rowId) :
    db.Belongs jobId rowId := by
  rcases hlisted with ⟨data, ids, job, rowIds, hcall, rfl, hrow⟩ | ⟨rowIds, hcall, hrow⟩
  · exact htold _ hcall rowId hrow
  · exact htold _ hcall rowId hrow

theorem belongs_of_handed (htold : ∀ c ∈ h, Told db c) (hhanded : Handed h jobId rowId) :
    db.Belongs jobId rowId := by
  rcases hhanded with hlisted | ⟨dispatch, hcall, rfl, hrow⟩
  · exact belongs_of_listed htold hlisted
  · exact htold _ hcall rowId hrow

theorem finished_settled (htold : ∀ c ∈ h, Told db c) (hfinished : Finished h jobId) :
    db.AllSettled jobId := by
  rcases hfinished with ⟨asked, job, hcall, rfl, hall⟩ | ⟨jobs, job, hcall, hjob, rfl⟩
  · exact (htold _ hcall).2.all hall
  · exact htold _ hcall job hjob

/-- The thread that announces a job has closed it, and found it with counters that do not run
ahead. -/
theorem Announces.known {job : BatchOperationJob} (hjob : Announces h job)
    (htold : ∀ c ∈ h, Told db c) :
    ⟨.closeJob job.id job.status, .ok true⟩ ∈ h ∧ Within job.counters (db.countersOf job.id) ∧
      (job.status ≠ .cancelled → db.AllSettled job.id) := by
  obtain ⟨g, jobId, found, ⟨rfl, hfinished, rfl⟩ | ⟨rfl, rfl⟩⟩ := hjob
  · have hfound : (⟨.findJob jobId, .ok (some found)⟩ : BatchCall) ∈
        g ++ [⟨.findJob jobId, .ok (some found)⟩] :=
      List.mem_append_right _ (List.mem_singleton_self _)
    obtain ⟨rfl, hknown⟩ := htold _ (List.mem_append_left _ hfound)
    refine ⟨List.mem_append_right _ (List.mem_singleton_self _), hknown.within, fun _ => ?_⟩
    refine finished_settled (fun c hc => htold c ?_) hfinished
    exact List.mem_append_left _ (List.mem_append_left _ hc)
  · obtain ⟨rfl, hknown⟩ := htold _ (List.mem_append_right _ (List.mem_singleton_self _))
    refine ⟨List.mem_append_left _ (List.mem_append_right _ (List.mem_singleton_self _)),
      hknown.within, fun hstatus => absurd rfl hstatus⟩

theorem truthful_of_announces {job : BatchOperationJob} (htold : ∀ c ∈ h, Told db c)
    (hjob : Announces h job) : db.Truthful job.completedEvent := by
  obtain ⟨hclosed, hwithin, hfinished⟩ := hjob.known htold
  obtain ⟨hend, hstored⟩ := htold _ hclosed
  exact ⟨hend, hstored, hfinished, hwithin.success, hwithin.failed, hwithin.skipped⟩

theorem sound_of_serve (hsound : db.Sound) (htold : ∀ c ∈ h, Told db c) (hreason : Reason h q)
    (hserve : q.serve choice db = some (a, db')) : db'.Sound := by
  have hkept : ∀ {p : BatchOperationJob → Bool} {f : BatchOperationJob → BatchOperationJob}
      {hf : ∀ job, (f job).id = job.id}, (∀ job, p job = true → Continues job (f job)) →
      (∀ job, (f job).counters = job.counters) → (db.updateJobs p f hf).Sound := by
    intro p f hf hcontinues hcounters
    refine sound_updateJobs hsound hcontinues fun job hjob _ => ?_
    rw [hcounters]
    exact hsound.counters job hjob
  have hsame : ∀ {db' : BatchDb}, db'.rows = db.rows → db'.jobs = db.jobs → db'.queue = db.queue →
      db'.events = db.events → db'.Sound := fun hrows hjobs hqueue hevents =>
    sound_same hsound hrows hjobs (fun _ hd => .inl (hqueue ▸ hd)) fun _ he => .inl (hevents ▸ he)
  have hqueued : ∀ {dispatch d : BatchOperationDispatch}, Reason h (.enqueue dispatch) →
      d ∈ db.queue ++ [dispatch] → d ∈ db.queue ∨
        ∀ rowId ∈ d.rowIds, db.Belongs d.jobId rowId := fun hreason hd =>
    (List.mem_append.mp hd).imp_right fun hd => by
      rw [List.mem_singleton.mp hd]
      exact fun rowId hrow => belongs_of_listed htold (hreason rowId hrow)
  unfold BatchStatement.serve at hserve
  split at hserve
  · cases hserve
    exact hsound
  · cases hserve
    exact hsound
  · split at hserve
    · rename_i hdrawn
      split at hserve
      · cases hserve
        exact hsound
      · cases hserve
        exact sound_createJob hsound ⟨hdrawn.1, hdrawn.2.1, hdrawn.2.2.1, hdrawn.2.2.2.1⟩
    · cases hserve
  · cases hserve
    exact hsound
  · cases hserve
    exact hkept continues_markRunning fun _ => rfl
  · cases hserve
    exact hkept continues_close fun _ => rfl
  · cases hserve
    exact hsound
  · -- the counters that are written were counted before, so they lag behind the rows of now
    cases hserve
    obtain ⟨counted, hcall, hentry⟩ := hreason
    refine sound_updateJobs hsound (fun _ _ => ⟨rfl, fun _ => rfl, fun hcancelled => hcancelled⟩)
      fun job _ hp => ?_
    rw [Bool.and_eq_true, decide_eq_true_eq] at hp
    rw [hp.1]
    exact htold _ hcall _ hentry
  · obtain ⟨jobs, _, heq⟩ := Option.map_eq_some_iff.mp hserve
    cases heq
    exact hsound
  · obtain ⟨jobs, _, heq⟩ := Option.map_eq_some_iff.mp hserve
    cases heq
    exact hsound
  · split at hserve
    · cases hserve
      exact hkept (fun _ _ => ⟨rfl, fun _ => rfl, fun _ => rfl⟩) fun _ => rfl
    · cases hserve
      exact hsound
  · cases hserve
    exact hsound
  · split at hserve
    · cases hserve
      exact hsound
    · cases hserve
  · cases hserve
    exact sound_updateRows hsound follows_claim
  · cases hserve
    obtain ⟨asked, claimed, hcall, hhanded, rfl, rfl⟩ := hreason
    rw [(htold _ hcall).1]
    exact sound_settle hsound (belongs_of_handed htold hhanded)
  · cases hserve
    refine sound_updateRows hsound fun row hp => ⟨rfl, rfl, Nat.le_succ _, fun hend => ?_⟩
    rw [Bool.and_eq_true, Bool.and_eq_true, decide_eq_true_eq, decide_eq_true_eq] at hp
    rw [hp.1.2] at hend
    cases hend
  · cases hserve
    refine sound_updateRows hsound fun row hp => ⟨rfl, rfl, Nat.le_refl _, fun hend => ?_⟩
    rw [Bool.and_eq_true, decide_eq_true_eq] at hp
    rw [hp.1] at hend
    cases hend
  · cases hserve
    exact hsound
  · cases hserve
    exact hsound
  · cases hserve
    exact sound_same hsound rfl rfl (fun d hd => hqueued hreason hd) fun _ he => .inl he
  · cases hserve
    exact sound_same hsound rfl rfl (fun d hd => hqueued hreason hd) fun _ he => .inl he
  · obtain ⟨dispatch, _, heq⟩ := Option.map_eq_some_iff.mp hserve
    cases heq
    split
    · exact hsound
    · exact sound_same hsound rfl rfl (fun d hd => .inl (List.mem_of_mem_eraseIdx hd))
        fun _ he => .inl he
  · cases hserve
    rename_i job
    refine sound_same hsound rfl rfl (fun _ hd => .inl hd) fun event he => ?_
    refine (List.mem_append.mp he).imp_right fun he => ?_
    rw [List.mem_singleton.mp he]
    have hevolves : Evolves db { db with events := db.events ++ [job.completedEvent] } id [] :=
      evolves_same rfl rfl
    exact hevolves.truthful (truthful_of_announces htold hreason)
  · cases hserve
    exact hsound
  · cases hserve

end Served

end DddBoilerplate.Batch
