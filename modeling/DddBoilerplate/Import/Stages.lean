/- module: DddBoilerplate/Import/Stages
   generality: I
   digest: The stages of an import job, its commands and its reconciliation, as one system. -/

import DddBoilerplate.Concurrency.History
import DddBoilerplate.Import.Store

set_option autoImplicit false
set_option relaxedAutoImplicit false
set_option linter.all false

namespace DddBoilerplate.Import

open Concurrency Store ImportFileParser

/-- What a running instance has of its own: its build, the version of the handler it registered for
an entity, the parser and the configuration. -/
structure Deployment where
  buildSha : String
  version? : String → Option Nat
  parseFile : Buffer → Option String → String → Nat → Except String ParsedSpreadsheet
  toLowerCase : String → String
  maxRows : Nat
  validationChunkSize : Nat
  executionChunkSize : Nat
  reconciliationWindowMs : Nat
  lockTtlMs : Nat

abbrev ImportProgram := Program ImportStatement.interface.world

section Statements

variable (jobId : String)

def clock : ImportProgram Nat := .ask .clock .done

def findById : ImportProgram (Option ImportJob) := .ask (.statement (.findById jobId)) .lift

def transitionStatus (allowed : List ImportJobStatus) (target : ImportJobStatus) :
    ImportProgram Unit := .ask (.statement (.transitionStatus jobId allowed target)) .lift

def setColumnMapping (mapping : ColumnMapping) : ImportProgram Unit :=
  .ask (.statement (.setColumnMapping jobId mapping)) .lift

def updateTotalRows (totalRows : Nat) : ImportProgram Unit :=
  .ask (.statement (.updateTotalRows jobId totalRows)) .lift

def setCancelRequested : ImportProgram Unit :=
  .ask (.statement (.setCancelRequested jobId)) .lift

def isCancelRequested : ImportProgram Bool :=
  .ask (.statement (.isCancelRequested jobId)) .lift

def markTerminal (status : ImportJobStatus) : ImportProgram (Option ImportJob) :=
  .ask (.statement (.markTerminal jobId status)) .lift

def countRows : ImportProgram (Option RowCounts) := .ask (.statement (.countRows jobId)) .lift

def writeCounts (counts : RowCounts) : ImportProgram Unit :=
  .ask (.statement (.writeCounts jobId counts)) .lift

/-- The rows are read before the header is written. -/
def recountCounters : ImportProgram (Option ImportJob) :=
  countRows jobId >>= fun counted =>
    match counted with
    | some counts => writeCounts jobId counts >>= fun _ => findById jobId
    | none => findById jobId

def bulkInsert (rows : List ImportJobRow) : ImportProgram Unit :=
  .ask (.statement (.bulkInsert rows)) .lift

def listPendingValidation (limit : Nat) : ImportProgram (List ImportJobRow) :=
  .ask (.statement (.listPendingValidation jobId limit)) .lift

def claimForExecution (limit : Nat) : ImportProgram (List ImportJobRow) :=
  .ask (.statement (.claimForExecution jobId limit)) .lift

def applyValidationVerdicts (verdicts : List RowVerdict) : ImportProgram Unit :=
  Program.each (fun verdict => .ask (.statement (.applyValidationVerdict jobId verdict)) .lift)
    verdicts

def applyExecutionResults (results : List RowExecutionSettlement) : ImportProgram Unit :=
  Program.each (fun settlement =>
    .ask (.statement (.applyExecutionResult jobId settlement)) fun applied =>
      .lift applied >>= fun _ => .done ()) results

def deleteByJob : ImportProgram Unit := .ask (.statement (.deleteByJob jobId)) .lift

def findStorageObject (id : String) : ImportProgram (Option StorageObject) :=
  .ask (.statement (.findStorageObject id)) .lift

def download (storageKey : String) : ImportProgram Download :=
  .ask (.statement (.download storageKey)) .lift

def preloadReferences (payloads : List RowPayload) : ImportProgram Unit :=
  .ask (.statement (.preloadReferences payloads)) .lift

def validateBatch (payloads : List RowPayload) : ImportProgram (List RowVerdict) :=
  .ask (.statement (.validateBatch payloads)) .lift

def executeBatch (payloads : List RowPayload) : ImportProgram (List RowResult) :=
  .ask (.statement (.executeBatch payloads)) .lift

def enqueue (stage : ImportStage) : ImportProgram Unit :=
  .ask (.statement (.enqueue stage jobId)) .lift

def appendEvent (event : ImportJobEvent) : ImportProgram Unit :=
  .ask (.statement (.appendEvent event)) .lift

/-- The process stops here. -/
def stopped : ImportProgram Unit := .ask (.statement .stopped) fun never => nomatch never

end Statements

section Outbox

def ImportJob.event (job : ImportJob) (eventType : ImportEventType) (status : ImportJobStatus) :
    ImportJobEvent where
  eventType := eventType
  jobId := job.id
  entityKey := job.entityKey
  status := status
  counts := job.counts
  tenantId := job.tenantId

def writeCompletedEvent (job : ImportJob) : ImportProgram Unit :=
  appendEvent (job.event .completed
    (if job.status = .completedWithErrors then .completedWithErrors else .completed))

def writeFailedEvent (job : ImportJob) : ImportProgram Unit := appendEvent (job.event .failed .failed)

def writeCancelledEvent (job : ImportJob) : ImportProgram Unit :=
  appendEvent (job.event .cancelled .cancelled)

/-- The job is terminalised, and its event is written by whom it was. -/
def terminalise (jobId : String) (status : ImportJobStatus)
    (write : ImportJob → ImportProgram Unit) : ImportProgram Unit :=
  markTerminal jobId status >>= fun ended =>
    match ended with
    | some job => write job
    | none => .done ()

end Outbox

section Stage

/-- `StageLock.acquire`: the owner, where the lock was free. -/
def acquire (deployment : Deployment) (jobId : String) (stage : ImportStage) :
    ImportProgram (Option LockOwner) :=
  .ask .randomUUID fun id =>
    .ask .clock fun (now : Nat) =>
      .ask .clock fun (reading : Nat) =>
        .ask (.statement (.tryAcquireLock jobId (.stage stage id)
            (now + deployment.reconciliationWindowMs) reading)) fun acquired =>
          .lift acquired >>= fun (acquired : Bool) =>
            if acquired then
              .ask (.statement (.setInterval (.stage stage id))) fun _ =>
                .done (some (.stage stage id))
            else .done none

/-- The interval is cleared, and a failure to release the lock is swallowed. -/
def release (jobId : String) (owner : LockOwner) : ImportProgram Unit :=
  .ask (.statement (.clearInterval owner)) fun _ =>
    .ask (.statement (.releaseLock jobId owner)) fun _ => .done ()

/-- `ImportBuildGuard.assert` -/
def assertBuild (deployment : Deployment) (job : ImportJob) : Except String Unit :=
  if job.buildSha.any fun sha => sha ≠ "" && sha ≠ deployment.buildSha then
    .error s!"ImportJob '{job.id}' was parsed by build {job.buildSha.getD default} but this instance runs {deployment.buildSha}"
  else .ok ()

/-- The registered handler, and `ImportBuildGuard.assertDescriptorCurrent`. -/
def assertDescriptorCurrent (deployment : Deployment) (job : ImportJob) : Except String Unit :=
  match deployment.version? job.entityKey with
  | none => .error s!"No ImportHandler registered for entityKey '{job.entityKey}'"
  | some version =>
    if job.descriptorVersion ≠ version then
      .error s!"Import handler '{job.entityKey}' is at descriptor v{version} but ImportJob '{job.id}' was created against v{job.descriptorVersion}; create a new job"
    else .ok ()

/-- The conflict of a job that is not where a call expects it. -/
def notExpected (job : ImportJob) (expected : String) : String :=
  s!"ImportJob '{job.id}' is {job.status.text}; expected one of: {expected}"

/-- What the three stages differ in: the guards after the lock, which go on or return or throw,
the transition that is made before the `try`, and its body. -/
structure StageBody where
  stage : ImportStage
  admits : ImportJob → Except String Bool
  enter : ImportJob → Option (List ImportJobStatus × ImportJobStatus)
  body : ImportJob → ImportProgram Unit

variable (deployment : Deployment) (jobId : String)

/-- `try { body } catch { FAILED; throw } finally { release }` -/
def guardedBody (s : StageBody) (owner : LockOwner) (job : ImportJob) : ImportProgram Unit :=
  ((s.body job).handle .done fun error =>
    terminalise job.id .failed writeFailedEvent >>= fun _ => .fail error).ensuring
      (release jobId owner)

/-- What follows the read under the lock. -/
def admitted (s : StageBody) (owner : LockOwner) (found : Option ImportJob) : ImportProgram Unit :=
  match found with
  | none => .fail s!"ImportJob '{jobId}' not found"
  | some job =>
    match s.admits job with
    | .error e => .fail e
    | .ok false => .done ()
    | .ok true =>
      match s.enter job with
      | none => guardedBody jobId s owner job
      | some (allowed, target) =>
        transitionStatus job.id allowed target >>= fun _ => guardedBody jobId s owner job

def runStage (s : StageBody) : ImportProgram Unit :=
  acquire deployment jobId s.stage >>= fun acquired =>
    match acquired with
    | none => .done ()
    | some owner => findById jobId >>= admitted jobId s owner

def cancelled (job : ImportJob) : ImportProgram Unit :=
  terminalise job.id .cancelled writeCancelledEvent

end Stage

section Parse

variable (deployment : Deployment)

/-- The chunks the rows are inserted in: one is flushed when it has this size, and the last. -/
def flushed {α : Type} (size : Nat) : List α → List α → List (List α)
  | chunk, [] => if chunk.isEmpty then [] else [chunk]
  | chunk, a :: rest =>
    if size ≤ (chunk ++ [a]).length then (chunk ++ [a]) :: flushed size [] rest
    else flushed size (chunk ++ [a]) rest

def parsedRow (job : ImportJob) (mapping : ColumnMapping) (row : ParsedRow) : ImportJobRow where
  importJobId := job.id
  rowNumber := row.rowNumber
  rawPayload := row.values
  mappedPayload := applyMapping row.values mapping
  validationStatus := .pending
  executionStatus := .pending
  executionClaimToken := 0
  validationErrors := []
  errorMessage := none
  entityId := none
  secondaryEntityIds := []
  updatedAt := 0
  processedAt := none

/-- What follows the parsed file. -/
def storeParsed (job : ImportJob) (parsed : ParsedSpreadsheet) : ImportProgram Unit :=
  let mapping := suggestMapping deployment.toLowerCase parsed.headers job.descriptorSnapshot
  deleteByJob job.id >>= fun _ =>
    Program.each bulkInsert (flushed 500 [] (parsed.rows.map (parsedRow job mapping))) >>= fun _ =>
      setColumnMapping job.id mapping >>= fun _ =>
        updateTotalRows job.id parsed.rows.length >>= fun _ =>
          transitionStatus job.id [.parsing] .mapped

def parseBody (job : ImportJob) : ImportProgram Unit :=
  let source : ImportProgram (Option StorageObject) := match job.sourceStorageObjectId with
    | some id => findStorageObject id
    | none => .done none
  source >>= fun object =>
    match object with
    | none => .fail s!"Import source file is missing for '{job.id}'"
    | some object =>
      download object.storageKey >>= fun downloaded =>
        let maxRows := min job.descriptorSnapshot.maxRows deployment.maxRows
        .lift (deployment.parseFile downloaded.body
          (object.contentType.or downloaded.contentType) object.storageKey (maxRows + 1)) >>=
            fun parsed =>
              if maxRows < parsed.rows.length then
                .fail s!"Import file for '{job.entityKey}' has {parsed.rows.length} rows, above the {maxRows}-row limit"
              else storeParsed deployment job parsed

def parseStage : StageBody where
  stage := .parse
  admits job := do
    assertBuild deployment job
    if job.status ∈ [.mapped, .validating, .validated] then return false
    else if job.status ∈ [.uploaded, .parsing] then return true
    else throw (notExpected job "UPLOADED, PARSING")
  enter _ := some ([.uploaded, .parsing], .parsing)
  body := parseBody deployment

/-- `ParseImportJobUseCase.runParse` -/
def runParse (jobId : String) : ImportProgram Unit := runStage deployment jobId (parseStage deployment)

end Parse

section Validate

variable (deployment : Deployment)

def ImportJobRow.payload (row : ImportJobRow) : RowPayload :=
  rowPayload row.rowNumber row.mappedPayload

def structuralErrors (job : ImportJob) (row : ImportJobRow) : List String :=
  structuralValidateRow row.mappedPayload job.descriptorSnapshot

def structuralVerdict (job : ImportJob) (row : ImportJobRow) : RowVerdict :=
  ⟨row.rowNumber, .invalid, some (structuralErrors job row)⟩

/-- A candidate the handler gives no verdict of is invalid. -/
def missingVerdicts (candidates : List ImportJobRow) (verdicts : List RowVerdict) :
    List RowVerdict :=
  (candidates.filter fun row => !(verdicts.map RowVerdict.rowNumber).contains row.rowNumber).map
    fun row => ⟨row.rowNumber, .invalid, some ["handler returned no validation verdict"]⟩

def validateCandidates (job : ImportJob) (candidates : List ImportJobRow) : ImportProgram Unit :=
  if candidates.isEmpty then .done ()
  else
    preloadReferences (candidates.map ImportJobRow.payload) >>= fun _ =>
      validateBatch (candidates.map ImportJobRow.payload) >>= fun verdicts =>
        applyValidationVerdicts job.id (verdicts ++ missingVerdicts candidates verdicts)

def validatePending (job : ImportJob) (pending : List ImportJobRow) : ImportProgram Unit :=
  applyValidationVerdicts job.id ((pending.filter fun row =>
      !(structuralErrors job row).isEmpty).map (structuralVerdict job)) >>= fun _ =>
    validateCandidates job (pending.filter fun row => (structuralErrors job row).isEmpty) >>=
      fun _ => recountCounters job.id >>= fun _ => .done ()

/-- The passes over the rows that are pending, as many as the process lives to make. -/
def validateLoop (job : ImportJob) : Nat → ImportProgram Unit
  | 0 => stopped
  | passes + 1 =>
    isCancelRequested job.id >>= fun cancelRequested =>
      if cancelRequested then cancelled job
      else
        listPendingValidation job.id deployment.validationChunkSize >>= fun pending =>
          if pending.isEmpty then transitionStatus job.id [.validating] .validated
          else validatePending job pending >>= fun _ => validateLoop job passes

def validateStage (passes : Nat) : StageBody where
  stage := .validate
  admits job := do
    assertBuild deployment job
    assertDescriptorCurrent deployment job
    if job.status ∈ [.validated, .executing] then return false
    else if job.status ∈ [.validating, .mapped] then return true
    else throw (notExpected job "MAPPED, VALIDATING")
  enter job := if job.status = .mapped then some ([.mapped], .validating) else none
  body job := validateLoop deployment job passes

/-- `ValidateImportJobUseCase.runValidate` -/
def runValidate (passes : Nat) (jobId : String) : ImportProgram Unit :=
  runStage deployment jobId (validateStage deployment passes)

end Validate

section Execute

variable (deployment : Deployment)

/-- The token of the claim a row came from, or one no row has. -/
def tokenOf (claimed : List ImportJobRow) (rowNumber : Nat) : Int :=
  match claimed.find? fun row => row.rowNumber = rowNumber with
  | some row => row.executionClaimToken
  | none => -1

def settlement (claimed : List ImportJobRow) (result : RowResult) : RowExecutionSettlement :=
  { toRowResult := result, executionClaimToken := tokenOf claimed result.rowNumber }

def skipResult (verdict : RowVerdict) : RowResult :=
  ⟨verdict.rowNumber, .skipped, none, none,
    some (Text.join "; " (verdict.errors.getD ["re-validation failed"]))⟩

def failedResult (message : String) (rowNumber : Nat) : RowResult :=
  ⟨rowNumber, .failed, none, none, some message⟩

/-- The rows a verdict says are valid. -/
def stillValid (verdicts : List RowVerdict) : List Nat :=
  (verdicts.filter fun verdict => verdict.status = .valid).map RowVerdict.rowNumber

/-- Whether the `rowNumber` of a payload is among these numbers. -/
def payloadIn (numbers : List Nat) (payload : RowPayload) : Bool :=
  match payload.lookup "rowNumber" with
  | some (.number n) => numbers.contains n
  | _ => false

/-- The handler executes the rows that are still valid, and each of them has an outcome. -/
def executeValid (job : ImportJob) (claimed : List ImportJobRow) (toExecute : List RowPayload)
    (executingRows : List Nat) : ImportProgram Unit :=
  if toExecute.isEmpty then .done ()
  else
    (executeBatch toExecute >>= fun results =>
      applyExecutionResults job.id (results.map (settlement claimed)) >>= fun _ =>
        applyExecutionResults job.id ((executingRows.filter fun n =>
            !(results.map RowResult.rowNumber).contains n).map fun n =>
          settlement claimed (failedResult "handler returned no execution result" n))).handle
      .done fun message => applyExecutionResults job.id
        (executingRows.map fun n => settlement claimed (failedResult message n))

/-- What follows the verdicts of the re-validation. -/
def executeJudged (job : ImportJob) (claimed : List ImportJobRow) (verdicts : List RowVerdict) :
    ImportProgram Unit :=
  applyExecutionResults job.id ((verdicts.filter fun verdict => verdict.status ≠ .valid).map
      fun verdict => settlement claimed (skipResult verdict)) >>= fun _ =>
    executeValid job claimed
      ((claimed.map ImportJobRow.payload).filter (payloadIn (stillValid verdicts)))
      ((claimed.map ImportJobRow.rowNumber).filter (stillValid verdicts).contains) >>= fun _ =>
        recountCounters job.id >>= fun _ => .done ()

def executeClaimed (job : ImportJob) (claimed : List ImportJobRow) : ImportProgram Unit :=
  preloadReferences (claimed.map ImportJobRow.payload) >>= fun _ =>
    validateBatch (claimed.map ImportJobRow.payload) >>= executeJudged job claimed

/-- The status of a job whose rows were recounted last as this says. -/
def verdictOf (fresh : Option ImportJob) : ImportJobStatus :=
  if fresh.any fun job => 0 < job.counts.failed || 0 < job.counts.invalid then .completedWithErrors
  else .completed

def finishExecution (job : ImportJob) : ImportProgram Unit :=
  recountCounters job.id >>= fun fresh => terminalise job.id (verdictOf fresh) writeCompletedEvent

def executionChunkSize (job : ImportJob) : Nat :=
  if job.descriptorSnapshot.executionChunkSize ≠ 0 then job.descriptorSnapshot.executionChunkSize
  else deployment.executionChunkSize

def executeLoop (job : ImportJob) : Nat → ImportProgram Unit
  | 0 => stopped
  | passes + 1 =>
    isCancelRequested job.id >>= fun cancelRequested =>
      if cancelRequested then cancelled job
      else
        claimForExecution job.id (executionChunkSize deployment job) >>= fun claimed =>
          if claimed.isEmpty then finishExecution job
          else executeClaimed job claimed >>= fun _ => executeLoop job passes

def executeStage (passes : Nat) : StageBody where
  stage := .execute
  admits job := do
    assertBuild deployment job
    assertDescriptorCurrent deployment job
    if job.status.isTerminal then return false
    else if job.status = .executing then return true
    else throw (notExpected job "EXECUTING")
  enter _ := none
  body job := executeLoop deployment job passes

/-- `RunImportExecutionUseCase.runExecute` -/
def runExecute (passes : Nat) (jobId : String) : ImportProgram Unit :=
  runStage deployment jobId (executeStage deployment passes)

end Execute

section Commands

/-- `TenantScope.assertVisible` -/
def isVisible (job : ImportJob) (tenantId : Option String) : Bool :=
  match job.tenantId, tenantId with
  | some owner, some asking => owner = "" || asking = "" || owner = asking
  | _, _ => true

def requireVisibleJob (jobId : String) (tenantId : Option String) : ImportProgram ImportJob :=
  findById jobId >>= fun found =>
    match found with
    | none => .fail s!"ImportJob '{jobId}' not found"
    | some job => if isVisible job tenantId then .done job else .fail "Not Found"

/-- `UpdateImportMappingUseCase.execute` -/
def updateImportMapping (jobId : String) (mapping : ColumnMapping) (tenantId : Option String) :
    ImportProgram Unit :=
  requireVisibleJob jobId tenantId >>= fun job =>
    if job.status ≠ .mapped then .fail (notExpected job "MAPPED")
    else
      let required := (job.descriptorSnapshot.fields.filter ImportFieldDescriptor.required).map
        ImportFieldDescriptor.targetField
      let missing := required.filter fun field => !(mapping.map Prod.snd).contains field
      if !missing.isEmpty then
        .fail (s!"Mapping for '{job.entityKey}' is incomplete; missing required fields: " ++
          Text.join ", " missing)
      else
        setColumnMapping job.id mapping >>= fun _ =>
          transitionStatus job.id [.mapped] .validating >>= fun _ => enqueue job.id .validate

/-- `ExecuteImportJobUseCase.execute` -/
def executeImportJob (jobId : String) (tenantId : Option String) : ImportProgram Unit :=
  requireVisibleJob jobId tenantId >>= fun job =>
    if job.status ≠ .validated then .fail (notExpected job "VALIDATED")
    else
      transitionStatus job.id [.validated] .executing >>= fun _ => enqueue job.id .execute

/-- `CancelImportJobUseCase.execute` -/
def cancelImportJob (jobId : String) (tenantId : Option String) : ImportProgram Unit :=
  requireVisibleJob jobId tenantId >>= fun job =>
    if job.status.isTerminal then .done ()
    else
      setCancelRequested job.id >>= fun _ =>
        if job.status ∈ [.pendingUpload, .uploaded, .mapped, .validated] then cancelled job
        else .done ()

end Commands

section Reconciliation

variable (deployment : Deployment)

def stageFor : ImportJobStatus → Option ImportStage
  | .parsing => some .parse
  | .validating => some .validate
  | .executing => some .execute
  | _ => none

def resume (job : ImportJob) : ImportProgram Unit :=
  match stageFor job.status with
  | none => markTerminal job.id .failed >>= fun _ => .done ()
  | some stage => enqueue job.id stage

/-- A stale job is resumed under its own lock. -/
def takeOverStale (job : ImportJob) : ImportProgram Unit :=
  clock >>= fun reading =>
    clock >>= fun now =>
      clock >>= fun later =>
        .ask (.statement (.tryAcquireLock job.id (.reconcile reading) (now + deployment.lockTtlMs)
            later)) fun acquired =>
          .lift acquired >>= fun (acquired : Bool) =>
            if acquired then
              (resume job).ensuring
                (.ask (.statement (.releaseLock job.id (.reconcile reading))) .lift)
            else .done ()

/-- `ImportReconciliationConsumer.resumeOrphanedStages`, its failures swallowed. -/
def resumeOrphanedStages : ImportProgram Unit :=
  (clock >>= fun now =>
    .ask (.statement (.resetStaleProcessing (now - deployment.reconciliationWindowMs))) fun reset =>
      .lift reset >>= fun _ =>
        .ask (.statement .abandonProcessing) fun abandoned =>
          .lift abandoned >>= fun _ =>
            .ask (.statement (.findStaleJobs (now - deployment.reconciliationWindowMs))) fun stale =>
              .lift stale >>= fun (jobs : List ImportJob) =>
                Program.each (fun job => (takeOverStale deployment job).handle .done fun _ =>
                  .done ()) jobs).handle .done fun _ => .done ()

/-- What an interval does, each time it fires. -/
def tick (jobId : String) (owner : LockOwner) : ImportProgram Unit :=
  .ask (.statement (.intervalIsSet owner)) fun (isSet : Bool) =>
    if isSet then
      clock >>= fun now =>
        clock >>= fun reading =>
          .ask (.statement (.heartbeat jobId owner (now + deployment.reconciliationWindowMs)
            reading)) fun _ => .done ()
    else .done ()

end Reconciliation

/-- What is started: the delivery of a message of a stage, a command, a sweep, or a tick. -/
inductive ImportEntry where
  | delivery (deployment : Deployment) (stage : ImportStage) (jobId : String) (passes : Nat)
  | updateMapping (jobId : String) (mapping : ColumnMapping) (tenantId : Option String)
  | execute (jobId : String) (tenantId : Option String)
  | cancel (jobId : String) (tenantId : Option String)
  | reconcile (deployment : Deployment)
  | tick (deployment : Deployment) (jobId : String) (owner : LockOwner)

/-- The call of a stage, for a job that exists. -/
def stageCall (deployment : Deployment) (stage : ImportStage) (jobId : String) (passes : Nat) :
    ImportProgram Unit :=
  findById jobId >>= fun found =>
    match found with
    | none => .done ()
    | some _ =>
      match stage with
      | .parse => runParse deployment jobId
      | .validate => runValidate deployment passes jobId
      | .execute => runExecute deployment passes jobId

/-- `BullMqImportWorker.process`: the queue is told how the call ended. -/
def process (deployment : Deployment) (stage : ImportStage) (jobId : String) (passes : Nat) :
    ImportProgram Unit :=
  (stageCall deployment stage jobId passes).handle
    (fun _ => .ask (.statement (.ended (.ok ()))) .done)
    fun error => .ask (.statement (.ended (.error error))) .done

def ImportEntry.program : ImportEntry → ImportProgram Unit
  | delivery deployment stage jobId passes => process deployment stage jobId passes
  | updateMapping jobId mapping tenantId => updateImportMapping jobId mapping tenantId
  | execute jobId tenantId => executeImportJob jobId tenantId
  | cancel jobId tenantId => cancelImportJob jobId tenantId
  | reconcile deployment => resumeOrphanedStages deployment
  | tick deployment jobId owner => Import.tick deployment jobId owner

abbrev importSystem : System := worldSystem ImportStatement.perform ImportEntry.program

end DddBoilerplate.Import
