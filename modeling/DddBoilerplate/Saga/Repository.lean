/- module: DddBoilerplate/Saga/Repository
   generality: I
   digest: The five saga tables and every repository operation on them, each one atomic statement. -/

import Mathlib.Data.List.Sort
import DddBoilerplate.Store.Table
import DddBoilerplate.Saga.Types

set_option autoImplicit false
set_option relaxedAutoImplicit false
set_option linter.all false

open DddBoilerplate.Store

namespace DddBoilerplate.Saga

structure SagaDb (J : Type) where
  definitions : List SagaDefinitionRecord
  configs : List SagaCompanyConfigRecord
  instances : Table (@SagaInstanceRecord.id J)
  steps : Table (@SagaStepRecord.id J)
  inbox : Table (@SagaInboxRecord.id J)
  outbox : List SagaEmittedEvent

variable {J : Type}

namespace SagaDefinitionRepository

def findActiveByEvent (db : SagaDb J) (eventName : String) (eventVersion : Nat) :
    Option SagaDefinitionRecord :=
  (db.definitions.filter fun d =>
      d.eventName = eventName ∧ d.eventVersion = eventVersion ∧ d.status = .active).foldl
    (fun newest d =>
      match newest with
      | none => some d
      | some n => if n.version < d.version then some d else some n) none

/-- `orderBy: { sagaKey: 'asc' }` -/
def listActive (db : SagaDb J) : List SagaDefinitionRecord :=
  (db.definitions.filter fun d => d.status = .active).insertionSort fun d e => d.sagaKey ≤ e.sagaKey

end SagaDefinitionRepository

namespace SagaCompanyConfigRepository

def findActive (db : SagaDb J) (tenantId companyId sagaKey : String) :
    Option SagaCompanyConfigRecord :=
  db.configs.find? fun c =>
    c.tenantId = tenantId ∧ c.companyId = companyId ∧ c.sagaKey = sagaKey ∧ c.status = .active

end SagaCompanyConfigRepository

structure InsertInstanceInput (J : Type) where
  tenantId : String
  companyId : String
  sagaKey : String
  correlationKey : String
  plan : SagaPlan
  context : SagaContext J

/-- The row `tryInsertLive` creates under a fresh identifier. -/
def InsertInstanceInput.row (input : InsertInstanceInput J) (id : String) : SagaInstanceRecord J where
  id := id
  tenantId := input.tenantId
  companyId := input.companyId
  sagaKey := input.sagaKey
  correlationKey := input.correlationKey
  status := .running
  reason := none
  plan := input.plan
  context := input.context
  cursor := 0
  waitingEvent := none
  error := none
  version := 1

/-- A `Partial` patch: what is absent stays. -/
structure SagaInstancePatch where
  status : Option SagaInstanceStatus := none
  reason : Option SagaInstanceReason := none
  cursor : Option Nat := none
  waitingEvent : Option (Option String) := none
  error : Option (Option String) := none

def SagaInstancePatch.apply (patch : SagaInstancePatch) (inst : SagaInstanceRecord J) :
    SagaInstanceRecord J :=
  { inst with
    status := patch.status.getD inst.status
    reason := patch.reason.or inst.reason
    cursor := patch.cursor.getD inst.cursor
    waitingEvent := patch.waitingEvent.getD inst.waitingEvent
    error := patch.error.getD inst.error
    version := inst.version + 1 }

@[simp] theorem SagaInstancePatch.apply_id (patch : SagaInstancePatch)
    (inst : SagaInstanceRecord J) : (patch.apply inst).id = inst.id := rfl

@[simp] theorem SagaInstancePatch.apply_version (patch : SagaInstancePatch)
    (inst : SagaInstanceRecord J) : (patch.apply inst).version = inst.version + 1 := rfl

@[simp] theorem SagaInstancePatch.apply_plan (patch : SagaInstancePatch)
    (inst : SagaInstanceRecord J) : (patch.apply inst).plan = inst.plan := rfl

namespace SagaInstanceRepository

/-- The partial unique index on live instances turns the row away. `conflict` is that index:
it is written in a migration outside this source. -/
def taken (conflict : SagaInstanceRecord J → SagaInstanceRecord J → Bool) (db : SagaDb J)
    (inst : SagaInstanceRecord J) : Bool :=
  db.instances.rows.any fun other => other.id ≠ inst.id && conflict inst other

def tryInsertLive (conflict : SagaInstanceRecord J → SagaInstanceRecord J → Bool)
    (db : SagaDb J) (input : InsertInstanceInput J) (id : String) :
    Option (SagaInstanceRecord J) × SagaDb J :=
  let inst := input.row id
  if taken conflict db inst then (none, db)
  else (some inst, { db with instances := db.instances.insert inst })

def findLiveByKey (db : SagaDb J) (sagaKey correlationKey : String) :
    List (SagaInstanceRecord J) :=
  db.instances.rows.filter fun inst =>
    inst.sagaKey = sagaKey ∧ inst.correlationKey = correlationKey ∧ inst.status.isActive

/-- How a parked event is written on the instance. -/
def eventLabel (ref : SagaEventRef) : String := ref.name ++ "@" ++ toString ref.version

def waitingOn (db : SagaDb J) (ref : SagaEventRef) : List (SagaInstanceRecord J) :=
  db.instances.rows.filter fun inst =>
    inst.status = .waiting ∧ inst.waitingEvent = some (eventLabel ref)

/-- `updateMany` on `(id, version)`. -/
def casRow (id : String) (expectedVersion : Nat) (patch : SagaInstancePatch)
    (inst : SagaInstanceRecord J) : SagaInstanceRecord J :=
  if inst.id = id ∧ inst.version = expectedVersion then patch.apply inst else inst

theorem casRow_id (id : String) (expectedVersion : Nat) (patch : SagaInstancePatch)
    (inst : SagaInstanceRecord J) : (casRow id expectedVersion patch inst).id = inst.id := by
  unfold casRow
  split <;> rfl

def writeCas (db : SagaDb J) (id : String) (expectedVersion : Nat) (patch : SagaInstancePatch) :
    SagaDb J :=
  { db with
    instances := db.instances.update (casRow id expectedVersion patch)
      (casRow_id id expectedVersion patch) }

/-- A write fenced on `version`, answered with `none` on a race; a row the unique index
turns away is an error, no answer at all. The reload that follows a write that went through
is folded in: its value only ever reaches a log line. -/
def updateCas (conflict : SagaInstanceRecord J → SagaInstanceRecord J → Bool) (db : SagaDb J)
    (id : String) (expectedVersion : Nat) (patch : SagaInstancePatch) :
    Option (Option (SagaInstanceRecord J) × SagaDb J) :=
  match db.instances.get? id with
  | some inst =>
    if inst.version = expectedVersion then
      if taken conflict db (patch.apply inst) then none
      else some (some (patch.apply inst), writeCas db id expectedVersion patch)
    else some (none, db)
  | none => some (none, db)

end SagaInstanceRepository

structure InsertStepInput (J : Type) where
  tenantId : String
  companyId : String
  instanceId : String
  stepId : String
  kind : SagaStepKind
  action : Option String
  status : SagaStepStatus
  maxAttempts : Nat
  runAt : Nat
  input : Option (Fields J) := none
  output : Option (Fields J) := none

def InsertStepInput.row (input : InsertStepInput J) : SagaStepRecord J where
  tenantId := input.tenantId
  companyId := input.companyId
  instanceId := input.instanceId
  stepId := input.stepId
  kind := input.kind
  action := input.action
  status := input.status
  attempt := 0
  maxAttempts := input.maxAttempts
  runAt := input.runAt
  lockedBy := none
  lockUntil := none
  input := input.input
  output := input.output
  error := none

structure ClaimStepsInput where
  now : Nat
  leaseMs : Nat
  batchSize : Nat
  workerId : String
  fairnessCap : Nat

namespace SagaStepRepository

/-- Looking first, inserting, and looking again after a unique violation: in effect one
statement that answers with the row that is there and inserts when there is none. -/
def createIfAbsent (db : SagaDb J) (input : InsertStepInput J) : SagaStepRecord J × SagaDb J :=
  match db.steps.get? input.row.id with
  | some row => (row, db)
  | none => (input.row, { db with steps := db.steps.insert input.row })

/-- Rows of an instance, oldest first. -/
def findByInstance (db : SagaDb J) (instanceId : String) : List (SagaStepRecord J) :=
  db.steps.rows.filter fun row => row.instanceId = instanceId

/-- What a settling write stores; the lease always ends with it. -/
structure SagaStepPatch (J : Type) where
  status : SagaStepStatus
  attempt : Option Nat := none
  runAt : Option Nat := none
  output : Option (Fields J) := none
  error : Option (Option String) := none

def SagaStepPatch.apply (patch : SagaStepPatch J) (row : SagaStepRecord J) : SagaStepRecord J :=
  { row with
    status := patch.status
    attempt := patch.attempt.getD row.attempt
    runAt := patch.runAt.getD row.runAt
    output := patch.output.or row.output
    error := patch.error.getD row.error
    lockedBy := none
    lockUntil := none }

/-- An `updateMany` on one row under a condition on its status. -/
def settleRow (id : SagaStepKey) (guard : SagaStepStatus → Bool) (patch : SagaStepPatch J)
    (row : SagaStepRecord J) : SagaStepRecord J :=
  if row.id = id ∧ guard row.status = true then patch.apply row else row

theorem settleRow_id (id : SagaStepKey) (guard : SagaStepStatus → Bool) (patch : SagaStepPatch J)
    (row : SagaStepRecord J) : (settleRow id guard patch row).id = row.id := by
  unfold settleRow
  split <;> rfl

def settle (db : SagaDb J) (id : SagaStepKey) (guard : SagaStepStatus → Bool)
    (patch : SagaStepPatch J) : SagaDb J :=
  { db with steps := db.steps.update (settleRow id guard patch) (settleRow_id id guard patch) }

def markDone (db : SagaDb J) (id : SagaStepKey) (output : Option (Fields J)) : SagaDb J :=
  settle db id (· = .running) { status := .done, output := output }

def markSkipped (db : SagaDb J) (id : SagaStepKey) : SagaDb J :=
  settle db id (fun s => s = .pending || s = .running) { status := .skipped }

def markFailed (db : SagaDb J) (id : SagaStepKey) (error : String) : SagaDb J :=
  settle db id (· = .running) { status := .failed, error := some (some error) }

/-- The one settlement whose `where` names nothing but the row. -/
def reschedule (db : SagaDb J) (id : SagaStepKey) (attempt runAt : Nat) (error : Option String) :
    SagaDb J :=
  settle db id (fun _ => true)
    { status := .pending, attempt := some attempt, runAt := some runAt, error := some error }

def claimable (now : Nat) (row : SagaStepRecord J) : Bool :=
  row.status = .pending && (row.kind = .do_ || row.kind = .undo) && row.runAt ≤ now &&
    match row.lockUntil with
    | none => true
    | some t => t < now

def claimRow (input : ClaimStepsInput) (picked : List SagaStepKey) (row : SagaStepRecord J) :
    SagaStepRecord J :=
  if row.id ∈ picked then
    { row with
      status := .running, lockedBy := some input.workerId,
      lockUntil := some (input.now + input.leaseMs) }
  else row

theorem claimRow_id (input : ClaimStepsInput) (picked : List SagaStepKey)
    (row : SagaStepRecord J) : (claimRow input picked row).id = row.id := by
  unfold claimRow
  split <;> rfl

/-- The claiming `UPDATE … RETURNING`, for the rows it picks: due PENDING rows, at most a
batch of them. `SKIP LOCKED` passes over rows another statement holds and `RETURNING` has no
order of its own, so any such selection in any order is possible. The rows come back as they
are stored after the claim, decoded as the mapper means to; `ClaimDecoding` has what becomes of
the names of their columns. -/
def claimBatch (db : SagaDb J) (input : ClaimStepsInput) (picked : List SagaStepKey) :
    Option (List (SagaStepRecord J) × SagaDb J) :=
  if picked.Nodup ∧ picked.length ≤ input.batchSize ∧
      ∀ k ∈ picked, ∃ row ∈ db.steps.rows, row.id = k ∧ claimable input.now row = true then
    let steps := db.steps.update (claimRow input picked) (claimRow_id input picked)
    some (picked.filterMap steps.get?, { db with steps := steps })
  else none

/-- The second statement of a claim: rows over the fairness cap go back. -/
def releaseRow (overflow : List SagaStepKey) (row : SagaStepRecord J) : SagaStepRecord J :=
  if row.id ∈ overflow then { row with status := .pending, lockedBy := none, lockUntil := none }
  else row

theorem releaseRow_id (overflow : List SagaStepKey) (row : SagaStepRecord J) :
    (releaseRow overflow row).id = row.id := by
  unfold releaseRow
  split <;> rfl

def releaseOverflow (db : SagaDb J) (overflow : List (SagaStepRecord J)) : SagaDb J :=
  let ids := overflow.map (·.id)
  { db with steps := db.steps.update (releaseRow ids) (releaseRow_id ids) }

/-- Rows per company up to the cap are kept, in order; the rest overflow. -/
def capRows (fairnessCap : Nat) :
    List (SagaStepRecord J) → List String → List (SagaStepRecord J) × List (SagaStepRecord J)
  | [], _ => ([], [])
  | row :: rest, seen =>
    if fairnessCap ≤ seen.count row.companyId then
      let (claimed, overflow) := capRows fairnessCap rest seen
      (claimed, row :: overflow)
    else
      let (claimed, overflow) := capRows fairnessCap rest (row.companyId :: seen)
      (row :: claimed, overflow)

def applyFairnessCap (rows : List (SagaStepRecord J)) (fairnessCap : Nat) :
    List (SagaStepRecord J) × List (SagaStepRecord J) :=
  if fairnessCap = 0 then (rows, []) else capRows fairnessCap rows []

/-- PENDING WAIT rows whose timeout instant has passed. -/
def expiredWaits (db : SagaDb J) (now limit : Nat) : List (SagaStepRecord J) :=
  ((db.steps.rows.filter fun row =>
      row.kind = .wait ∧ row.status = .pending ∧ row.runAt ≤ now).insertionSort
    fun r s => r.runAt ≤ s.runAt).take limit

theorem kind_of_mem_expiredWaits {db : SagaDb J} {now limit : Nat} {row : SagaStepRecord J}
    (h : row ∈ expiredWaits db now limit) : row.kind = .wait := by
  unfold expiredWaits at h
  have hmem := List.mem_of_mem_take h
  rw [List.mem_insertionSort, List.mem_filter, decide_eq_true_eq] at hmem
  exact hmem.2.1

def findExpiredWaits (db : SagaDb J) (now limit : Nat) :
    List {row : SagaStepRecord J // row.kind = .wait} :=
  (expiredWaits db now limit).attach.map fun row => ⟨row.1, kind_of_mem_expiredWaits row.2⟩

/-- RUNNING rows whose lease is over. -/
def findStaleRunning (db : SagaDb J) (now limit : Nat) : List (SagaStepRecord J) :=
  ((db.steps.rows.filter fun row =>
      row.status = .running ∧ ∃ t ∈ row.lockUntil, t < now).insertionSort
    fun r s => r.lockUntil.getD 0 ≤ s.lockUntil.getD 0).take limit

end SagaStepRepository

structure InsertInboxInput (J : Type) where
  tenantId : String
  companyId : String
  consumer : SagaConsumer
  eventId : String
  eventName : String
  eventVersion : Nat
  instanceId : String
  payload : Fields J

def InsertInboxInput.row (input : InsertInboxInput J) (receivedAt : Nat) : SagaInboxRecord J where
  tenantId := input.tenantId
  companyId := input.companyId
  consumer := input.consumer
  eventId := input.eventId
  eventName := input.eventName
  eventVersion := input.eventVersion
  instanceId := input.instanceId
  payload := input.payload
  status := .received
  receivedAt := receivedAt

namespace SagaInboxRepository

/-- Deduplicates on the unique key; a duplicate answers `none`. -/
def tryInsert (db : SagaDb J) (input : InsertInboxInput J) (receivedAt : Nat) :
    Option (SagaInboxRecord J) × SagaDb J :=
  let row := input.row receivedAt
  match db.inbox.get? row.id with
  | some _ => (none, db)
  | none => (some row, { db with inbox := db.inbox.insert row })

def markRow (id : SagaInboxKey) (status : SagaInboxStatus) (row : SagaInboxRecord J) :
    SagaInboxRecord J :=
  if row.id = id then { row with status := status } else row

theorem markRow_id (id : SagaInboxKey) (status : SagaInboxStatus) (row : SagaInboxRecord J) :
    (markRow id status row).id = row.id := by
  unfold markRow
  split <;> rfl

def mark (db : SagaDb J) (id : SagaInboxKey) (status : SagaInboxStatus) : SagaDb J :=
  { db with inbox := db.inbox.update (markRow id status) (markRow_id id status) }

/-- `where: { id }` only. The instance written beside the status is the row's own. -/
def markBuffered (db : SagaDb J) (id : SagaInboxKey) : SagaDb J := mark db id .buffered

def markConsumed (db : SagaDb J) (id : SagaInboxKey) : SagaDb J := mark db id .consumed

/-- BUFFERED events of an instance, oldest first. -/
def listBuffered (db : SagaDb J) (instanceId : String) (ref : SagaEventRef) (limit : Nat) :
    List (SagaInboxRecord J) :=
  (db.inbox.rows.filter fun row =>
      row.instanceId = instanceId ∧ row.eventName = ref.name ∧ row.eventVersion = ref.version ∧
        row.status = .buffered).take limit

def purgeOlderThan (db : SagaDb J) (cutoff : Nat) : SagaDb J :=
  { db with inbox := db.inbox.filter fun row => cutoff ≤ row.receivedAt }

end SagaInboxRepository

end DddBoilerplate.Saga
