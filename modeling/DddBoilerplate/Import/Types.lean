/- module: DddBoilerplate/Import/Types
   generality: I
   digest: The vocabulary of the import pipeline, and how its parser maps and checks a row. -/

import DddBoilerplate.Domain.Text

set_option autoImplicit false
set_option relaxedAutoImplicit false
set_option linter.all false

namespace DddBoilerplate.Import

open Text

inductive ImportJobStatus where
  | pendingUpload | uploaded | parsing | mapped | validating | validated | executing
  | completed | completedWithErrors | failed | cancelled
  deriving DecidableEq

def ImportJobStatus.text : ImportJobStatus → String
  | pendingUpload => "PENDING_UPLOAD"
  | uploaded => "UPLOADED"
  | parsing => "PARSING"
  | mapped => "MAPPED"
  | validating => "VALIDATING"
  | validated => "VALIDATED"
  | executing => "EXECUTING"
  | completed => "COMPLETED"
  | completedWithErrors => "COMPLETED_WITH_ERRORS"
  | failed => "FAILED"
  | cancelled => "CANCELLED"

/-- The statuses a job can never leave. -/
def ImportJobStatus.isTerminal : ImportJobStatus → Bool
  | completed | completedWithErrors | failed | cancelled => true
  | _ => false

inductive ImportRowValidationStatus where
  | pending | valid | invalid | duplicate
  deriving DecidableEq

inductive ImportRowExecutionStatus where
  | pending | processing | applied | failed | skipped
  deriving DecidableEq

/-- The outcomes of a row. -/
def ImportRowExecutionStatus.isSettled : ImportRowExecutionStatus → Bool
  | applied | failed | skipped => true
  | _ => false

/-- An object of texts: its entries in the order of their keys' first assignments. -/
abbrev Record := List (String × String)

def Record.get? (record : Record) (key : String) : Option String := record.lookup key

/-- `record[key] = value` -/
def Record.assign (record : Record) (key value : String) : Record :=
  if record.any (·.1 = key) then record.map fun entry => if entry.1 = key then (key, value) else entry
  else record ++ [(key, value)]

/-- From the columns of a file to the fields of a descriptor. -/
abbrev ColumnMapping := Record

structure ImportFieldDescriptor where
  targetField : String
  required : Bool
  aliases : List String
  i18nKey : String
  maxLength : Option Nat
  enumValues : Option (List String)
  deriving DecidableEq

structure ImportDescriptor where
  version : Nat
  fields : List ImportFieldDescriptor
  maxRows : Nat
  executionChunkSize : Nat
  deriving DecidableEq

/-- A row of a file, with its number there. -/
structure ParsedRow where
  rowNumber : Nat
  values : Record
  deriving DecidableEq

structure ParsedSpreadsheet where
  headers : List String
  rows : List ParsedRow
  deriving DecidableEq

namespace ImportFileParser

section Mapping

variable (toLowerCase : String → String)

/-- Lower case, without blanks, underscores and hyphens. -/
def normalizeHeader (s : String) : String :=
  String.ofList ((toLowerCase (trim s)).toList.filter fun c => !(isSpace c || c = '_' || c = '-'))

/-- The first header that names a field, for every field. -/
def suggestMapping (headers : List String) (descriptor : ImportDescriptor) : ColumnMapping :=
  descriptor.fields.foldl (fun mapping field =>
    let candidates := (field.targetField :: field.i18nKey :: field.aliases).map
      (normalizeHeader toLowerCase)
    match headers.find? fun header => candidates.contains (normalizeHeader toLowerCase header) with
    | some header => mapping.assign header field.targetField
    | none => mapping) []

end Mapping

/-- The values of the mapped columns under the fields they are mapped to. -/
def applyMapping (raw : Record) (mapping : ColumnMapping) : Record :=
  mapping.foldl (fun out entry =>
    match raw.get? entry.1 with
    | some value => out.assign entry.2 value
    | none => out) []

/-- What is wrong with the value of one field. -/
def fieldErrors (mapped : Record) (field : ImportFieldDescriptor) : List String :=
  match (mapped.get? field.targetField).filter fun value => trim value ≠ "" with
  | none => if field.required then [s!"{field.targetField} is required"] else []
  | some value =>
    let tooLong := match field.maxLength with
      | some maxLength => if maxLength ≠ 0 && maxLength < utf16Length value then
          [s!"{field.targetField} exceeds maxLength {maxLength}"] else []
      | none => []
    let notListed := match field.enumValues with
      | some enumValues => if !enumValues.isEmpty && !enumValues.contains value then
          [s!"{field.targetField} must be one of: " ++ join ", " enumValues] else []
      | none => []
    tooLong ++ notListed

def structuralValidateRow (mapped : Record) (descriptor : ImportDescriptor) : List String :=
  descriptor.fields.flatMap (fieldErrors mapped)

end ImportFileParser

structure RowVerdict where
  rowNumber : Nat
  status : ImportRowValidationStatus
  errors : Option (List String)
  deriving DecidableEq

structure RowResult where
  rowNumber : Nat
  status : ImportRowExecutionStatus
  entityId : Option String
  secondaryEntityIds : Option (List String)
  errorMessage : Option String
  deriving DecidableEq

/-- A result with the token of the claim it came from. -/
structure RowExecutionSettlement extends RowResult where
  executionClaimToken : Int
  deriving DecidableEq

structure ImportJobRow where
  importJobId : String
  rowNumber : Nat
  rawPayload : Record
  mappedPayload : Record
  validationStatus : ImportRowValidationStatus
  executionStatus : ImportRowExecutionStatus
  executionClaimToken : Nat
  validationErrors : List String
  errorMessage : Option String
  entityId : Option String
  secondaryEntityIds : List String
  updatedAt : Nat
  processedAt : Option Nat
  deriving DecidableEq

inductive ImportStage where
  | parse | validate | execute
  deriving DecidableEq

/-- `<stage>:<uuid>`, or `reconcile:<time>`. -/
inductive LockOwner where
  | stage (stage : ImportStage) (id : String)
  | reconcile (reading : Nat)
  deriving DecidableEq

/-- The counters of a job. -/
structure RowCounts where
  total : Nat
  valid : Nat
  invalid : Nat
  applied : Nat
  failed : Nat
  deriving DecidableEq

/-- A row of `import_jobs`; a date is a number of milliseconds. -/
structure ImportJob where
  id : String
  tenantId : Option String
  entityKey : String
  status : ImportJobStatus
  descriptorVersion : Nat
  descriptorSnapshot : ImportDescriptor
  columnMapping : Option ColumnMapping
  counts : RowCounts
  cancelRequested : Bool
  sourceStorageObjectId : Option String
  buildSha : Option String
  heartbeatAt : Option Nat
  lockedUntil : Option Nat
  lockedBy : Option LockOwner
  deriving DecidableEq

/-- What a handler is given of a row: `{ rowNumber, ...mappedPayload }`. -/
inductive Cell where
  | number (n : Nat)
  | text (s : String)
  deriving DecidableEq

abbrev RowPayload := List (String × Cell)

def rowPayload (rowNumber : Nat) (mapped : Record) : RowPayload :=
  if mapped.any (·.1 = "rowNumber") then
    mapped.map fun entry => (entry.1, Cell.text entry.2)
  else ("rowNumber", .number rowNumber) :: mapped.map fun entry => (entry.1, Cell.text entry.2)

structure StorageObject where
  storageKey : String
  contentType : Option String
  deriving DecidableEq

inductive ImportEventType where
  | completed | failed | cancelled
  deriving DecidableEq

/-- The event of a job that ended, with what it says of the job. -/
structure ImportJobEvent where
  eventType : ImportEventType
  jobId : String
  entityKey : String
  status : ImportJobStatus
  counts : RowCounts
  tenantId : Option String
  deriving DecidableEq

end DddBoilerplate.Import
