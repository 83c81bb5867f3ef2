/- module: DddBoilerplate/Messaging/Outbox
   generality: I
   digest: The outbox of published events: its rows, its statements, appending, and the dispatch tick. -/

import DddBoilerplate.Concurrency.World
import DddBoilerplate.Store.Table

set_option autoImplicit false
set_option relaxedAutoImplicit false
set_option linter.all false

namespace DddBoilerplate.Messaging.Outbox

open Concurrency Store

inductive OutboxStatus where
  | pending | published | deadLetter
  deriving DecidableEq

inductive BrokerTarget where
  | rabbitmq | kafka | sqs
  deriving DecidableEq

/-- `DEFAULT_BROKER_TARGET` -/
def defaultBrokerTarget : BrokerTarget := .rabbitmq

abbrev Headers := List (String × String)

/-- The columns that say what happened: `append` writes them, and no one reads the payload. -/
structure EventColumns where
  eventId : String
  eventType : String
  eventVersion : Nat
  tenantId : Option String
  companyId : Option String
  aggregateType : String
  aggregateId : String
  payload : String
  headers : Option Headers
  occurredAt : Nat
  correlationId : Option String
  causationId : Option String
  deriving DecidableEq

/-- A row of `outbox_messages`; a date is a number of milliseconds. -/
structure OutboxMessage extends EventColumns where
  id : String
  createdAt : Nat
  status : OutboxStatus
  nextRetryAt : Option Nat
  attempts : Nat
  claimedAt : Option Nat
  claimToken : Option String
  publishedAt : Option Nat
  lastError : Option String
  deriving DecidableEq

structure OutboxClaimedRecord extends EventColumns where
  id : String
  status : OutboxStatus
  attempts : Nat
  claimToken : String
  claimedAt : Nat

structure OutboxEnvelope extends EventColumns where
  broker : BrokerTarget
  deriving DecidableEq

structure AppendOutboxEventRequest where
  tenantId : Option String
  companyId : Option String
  eventId : String
  eventType : String
  eventVersion : Option Nat
  aggregateType : String
  aggregateId : String
  payload : String
  occurredAt : Option Nat
  correlationId : Option String
  causationId : Option String
  headers : Option Headers
  nextRetryAt : Option Nat

structure OutboxConfig where
  batchSize : Nat
  maxAttempts : Nat
  claimLeaseMs : Nat
  retryBackoffBaseMs : Nat
  retryMaxDelayMs : Nat
  cleanupOlderThanHours : Nat

section Envelope

/-- `record.headers?.[name]` -/
def EventColumns.header? (columns : EventColumns) (name : String) : Option String :=
  columns.headers.bind fun headers => headers.lookup name

def EventColumns.resolveBroker (columns : EventColumns) : BrokerTarget :=
  match columns.header? "broker" with
  | some "rabbitmq" => .rabbitmq
  | some "kafka" => .kafka
  | some "sqs" => .sqs
  | _ => defaultBrokerTarget

def EventColumns.toEnvelope (columns : EventColumns) : OutboxEnvelope where
  toEventColumns :=
    { columns with
      correlationId := columns.correlationId.orElse fun _ => columns.header? "correlation-id"
      causationId := columns.causationId.orElse fun _ => columns.header? "causation-id" }
  broker := columns.resolveBroker

end Envelope

/-- The row `append` creates. -/
def AppendOutboxEventRequest.toRow (request : AppendOutboxEventRequest) (id : String)
    (now createdAt : Nat) : OutboxMessage where
  eventId := request.eventId
  eventType := request.eventType
  eventVersion := request.eventVersion.getD 1
  tenantId := request.tenantId
  companyId := request.companyId
  aggregateType := request.aggregateType
  aggregateId := request.aggregateId
  payload := request.payload
  headers := request.headers
  occurredAt := request.occurredAt.getD now
  correlationId := request.correlationId
  causationId := request.causationId
  id := id
  createdAt := createdAt
  status := .pending
  nextRetryAt := some (request.nextRetryAt.getD (request.occurredAt.getD now))
  attempts := 0
  claimedAt := none
  claimToken := none
  publishedAt := none
  lastError := none

namespace OutboxMessage

def toClaimedRecord (row : OutboxMessage) (claimToken : String) (now : Nat) :
    OutboxClaimedRecord where
  toEventColumns := row.toEventColumns
  id := row.id
  status := row.status
  attempts := row.attempts
  claimToken := row.claimToken.getD claimToken
  claimedAt := row.claimedAt.getD now

/-- `status = 'PENDING' AND (next_retry_at IS NULL OR next_retry_at <= now) AND
(claimed_at IS NULL OR claimed_at <= leaseCutoff)` -/
def due (claimLeaseMs now : Nat) (row : OutboxMessage) : Bool :=
  row.status = .pending && row.nextRetryAt.all (fun next => next ≤ now) &&
    row.claimedAt.all fun claimedAt => claimedAt + claimLeaseMs ≤ now

/-- The rows a claim token still owns. -/
def claimedBy (row : OutboxMessage) (id claimToken : String) : Bool :=
  row.id = id && row.claimToken = some claimToken && row.status = .pending

def claim (row : OutboxMessage) (claimToken : String) (claimedAt : Nat) : OutboxMessage :=
  { row with
    claimToken := some claimToken, claimedAt := some claimedAt, attempts := row.attempts + 1 }

def publish (row : OutboxMessage) (now : Nat) : OutboxMessage :=
  { row with
    status := .published
    publishedAt := some now
    claimedAt := none
    claimToken := none
    lastError := none }

def settleFailed (row : OutboxMessage) (error : String) (status : OutboxStatus)
    (nextRetryAt : Option Nat) : OutboxMessage :=
  { row with
    status := status
    lastError := some error
    nextRetryAt := nextRetryAt
    claimedAt := none
    claimToken := none }

theorem claim_id (row : OutboxMessage) (claimToken : String) (claimedAt : Nat) :
    (row.claim claimToken claimedAt).id = row.id := rfl

theorem publish_id (row : OutboxMessage) (now : Nat) : (row.publish now).id = row.id := rfl

theorem settleFailed_id (row : OutboxMessage) (error : String) (status : OutboxStatus)
    (nextRetryAt : Option Nat) : (row.settleFailed error status nextRetryAt).id = row.id := rfl

def purgeable (hours now : Nat) (row : OutboxMessage) : Bool :=
  row.status = .published && row.publishedAt.any fun publishedAt =>
    publishedAt + hours * 60 * 60 * 1000 < now

end OutboxMessage

/-- The rows, the identifiers drawn so far, and the calls the message queue has had, the last
one first, each with whether it returned. -/
structure OutboxDb where
  messages : Table OutboxMessage.id
  drawn : List String
  publications : List (OutboxEnvelope × Bool)

structure ClaimOutboxOptions where
  batchSize : Nat
  claimLeaseMs : Nat

/-- What the sub-select of a claim may lock: due rows no one else has locked, the oldest first,
as many as the batch takes. -/
structure Selects (messages : Table OutboxMessage.id) (options : ClaimOutboxOptions) (now : Nat)
    (locked picked : List String) : Prop where
  nodup : picked.Nodup
  limit : picked.length ≤ options.batchSize
  due : ∀ id ∈ picked, id ∉ locked ∧
    ∃ row ∈ messages.rows, row.id = id ∧ row.due options.claimLeaseMs now = true
  skipped : ∀ row ∈ messages.rows, row.due options.claimLeaseMs now = true →
    row.id ∈ picked ∨ row.id ∈ locked ∨ picked.length = options.batchSize ∧
      ∀ other ∈ messages.rows, other.id ∈ picked → other.createdAt ≤ row.createdAt

instance (messages : Table OutboxMessage.id) (options : ClaimOutboxOptions) (now : Nat)
    (locked picked : List String) : Decidable (Selects messages options now locked picked) :=
  decidable_of_iff
    (picked.Nodup ∧ picked.length ≤ options.batchSize ∧
      (∀ id ∈ picked, id ∉ locked ∧
        ∃ row ∈ messages.rows, row.id = id ∧ row.due options.claimLeaseMs now = true) ∧
      ∀ row ∈ messages.rows, row.due options.claimLeaseMs now = true →
        row.id ∈ picked ∨ row.id ∈ locked ∨ picked.length = options.batchSize ∧
          ∀ other ∈ messages.rows, other.id ∈ picked → other.createdAt ≤ row.createdAt)
    ⟨fun ⟨nodup, limit, due, skipped⟩ => ⟨nodup, limit, due, skipped⟩,
      fun ⟨nodup, limit, due, skipped⟩ => ⟨nodup, limit, due, skipped⟩⟩

/-- The statements of the repository, each atomic, and the calls of the message queue and of the
event bus. -/
inductive OutboxStatement where
  | create (request : AppendOutboxEventRequest) (now : Nat)
  | claimBatch (options : ClaimOutboxOptions) (now : Nat)
  | publish (envelope : OutboxEnvelope)
  | emit (envelope : OutboxEnvelope)
  | markPublished (id claimToken : String) (now : Nat)
  | findClaimed (id claimToken : String)
  | settleFailed (id claimToken error : String) (status : OutboxStatus) (nextRetryAt : Option Nat)
  | deletePublishedOlderThan (hours now : Nat)

@[reducible] def OutboxStatement.Answer : OutboxStatement → Type
  | create _ _ => OutboxMessage
  | claimBatch _ _ => List OutboxClaimedRecord
  | publish _ => Except String Unit
  | emit _ => Unit
  | markPublished _ _ _ => Nat
  | findClaimed _ _ => Option OutboxMessage
  | settleFailed _ _ _ _ _ => Nat
  | deletePublishedOlderThan _ _ => Nat

abbrev OutboxStatement.interface : Interface := ⟨OutboxStatement, OutboxStatement.Answer⟩

/-- What the statements leave open: fresh identifiers, the clock of the database, the rows others
have locked, the order of the rows of a batch, and the outcome of a publication. -/
inductive OutboxChoice where
  | created (id : String) (createdAt : Nat)
  | claimed (claimToken : String) (claimedAt : Nat) (locked picked : List String)
  | published (outcome : Except String Unit)
  | settled

def OutboxStatement.execute :
    (q : OutboxStatement) → OutboxChoice → OutboxDb → Option (q.Answer × OutboxDb)
  | create request now, .created id createdAt, db =>
    -- the primary key, and the unique index on the event
    if id ∈ db.drawn ∨ (db.messages.get? id).isSome ∨
        (db.messages.rows.any fun row => row.eventId = request.eventId) then none
    else
      let row := request.toRow id now createdAt
      some (row, { db with messages := db.messages.insert row, drawn := id :: db.drawn })
  | claimBatch options now, .claimed claimToken claimedAt locked picked, db =>
    if claimToken ∉ db.drawn ∧ Selects db.messages options now locked picked then
      let messages := (db.messages.updateMany (fun row => row.id ∈ picked)
        (fun row => row.claim claimToken claimedAt) fun row => row.claim_id claimToken claimedAt).2
      some ((picked.filterMap messages.get?).map fun row => row.toClaimedRecord claimToken now,
        { db with messages := messages, drawn := claimToken :: db.drawn })
    else none
  | publish envelope, .published outcome, db =>
    some (outcome, { db with publications := (envelope, outcome.isOk) :: db.publications })
  | emit _, .settled, db => some ((), db)
  | markPublished id claimToken now, .settled, db =>
    let updated := db.messages.updateMany (·.claimedBy id claimToken) (·.publish now)
      fun row => row.publish_id now
    some (updated.1, { db with messages := updated.2 })
  | findClaimed id claimToken, .settled, db =>
    some (db.messages.rows.find? (·.claimedBy id claimToken), db)
  | settleFailed id claimToken error status nextRetryAt, .settled, db =>
    let updated := db.messages.updateMany (·.claimedBy id claimToken)
      (·.settleFailed error status nextRetryAt)
      fun row => row.settleFailed_id error status nextRetryAt
    some (updated.1, { db with messages := updated.2 })
  | deletePublishedOlderThan hours now, .settled, db =>
    let deleted := db.messages.deleteMany (·.purgeable hours now)
    some (deleted.1, { db with messages := deleted.2 })
  | _, _, _ => none

abbrev OutboxProgram := Program OutboxStatement.interface.world

def clock : OutboxProgram Nat := .ask .clock .done

def statement (q : OutboxStatement) : OutboxProgram q.Answer := .ask (.statement q) .done

section Repository

def append (request : AppendOutboxEventRequest) : OutboxProgram OutboxMessage := do
  let now ← clock
  statement (.create request now)

/-- `claimBatch`: its token is drawn by the statement. -/
def claimBatch (options : ClaimOutboxOptions) : OutboxProgram (List OutboxClaimedRecord) := do
  let now ← clock
  statement (.claimBatch options now)

def markPublished (id claimToken : String) : OutboxProgram Unit := do
  let now ← clock
  let _count : Nat ← statement (.markPublished id claimToken now)

def markFailed (id claimToken error : String) (nextRetryAt maxAttempts : Nat) :
    OutboxProgram Unit := do
  let row : Option OutboxMessage ← statement (.findClaimed id claimToken)
  match row with
  | none => return ()
  | some row =>
    let isExhausted := decide (maxAttempts < row.attempts)
    let _count : Nat ← statement (.settleFailed id claimToken error
      (if isExhausted then .deadLetter else .pending)
      (if isExhausted then row.nextRetryAt else some nextRetryAt))

def deletePublishedOlderThan (hours : Nat) : OutboxProgram Nat := do
  let now ← clock
  statement (.deletePublishedOlderThan hours now)

end Repository

section Dispatch

variable (config : OutboxConfig)

def OutboxConfig.delay (attempts : Nat) : Nat :=
  min config.retryMaxDelayMs (config.retryBackoffBaseMs * 2 ^ (attempts - 1))

def settleFailure (record : OutboxClaimedRecord) (error : String) : OutboxProgram Unit := do
  let now ← clock
  markFailed record.id record.claimToken error (now + config.delay record.attempts)
    config.maxAttempts

def dispatchOne (record : OutboxClaimedRecord) : OutboxProgram Unit := do
  let outcome : Except String Unit ← statement (.publish record.toEnvelope)
  match outcome with
  | .error error => settleFailure config record error
  | .ok () =>
    let _emitted : Unit ← statement (.emit record.toEnvelope)
    markPublished record.id record.claimToken

def dispatchEach : List OutboxClaimedRecord → OutboxProgram Unit
  | [] => return ()
  | record :: rest => do
    dispatchOne config record
    dispatchEach rest

/-- `PublishPendingBatchUseCase.execute` -/
def publishPendingBatch : OutboxProgram Nat := do
  let messages ← claimBatch ⟨config.batchSize, config.claimLeaseMs⟩
  dispatchEach config messages
  return messages.length

end Dispatch

inductive OutboxEntry where
  | append (request : AppendOutboxEventRequest)
  | dispatch
  | cleanupPublished

def OutboxEntry.program (config : OutboxConfig) : OutboxEntry → OutboxProgram Unit
  | append request => do
    let _message ← Outbox.append request
  | dispatch => do
    let _published ← publishPendingBatch config
  | cleanupPublished => do
    let _deleted ← deletePublishedOlderThan config.cleanupOlderThanHours

/-- One outbox, and any number of writers, dispatchers and cleanups over it. -/
abbrev outboxSystem (config : OutboxConfig) : System :=
  worldSystem OutboxStatement.execute (OutboxEntry.program config)

end DddBoilerplate.Messaging.Outbox
