/- module: DddBoilerplate/Notification/Requests
   generality: I
   digest: Notification requests and messages, and the statements on their tables, queue and providers. -/

import DddBoilerplate.Concurrency.Program
import DddBoilerplate.Store.Table

set_option autoImplicit false
set_option relaxedAutoImplicit false
set_option linter.all false

namespace DddBoilerplate.Notification

open Concurrency Store

section Types

inductive NotificationPriority where
  | high | normal | low
  deriving DecidableEq

inductive NotificationMode where
  | sync | async
  deriving DecidableEq

inductive NotificationRequestStatus where
  | pending | running | completed | completedWithErrors | failed | noRecipients
  deriving DecidableEq

inductive NotificationMessageStatus where
  | pending | rendering | sent | delivered | bounced | failed | suppressed
  deriving DecidableEq

inductive NotificationSuppressReason where
  | preference | hardBounce | unsubscribe | smsStop | complaint | manualBlock
  deriving DecidableEq

/-- `isTerminalNotificationRequestStatus` -/
def NotificationRequestStatus.isTerminal : NotificationRequestStatus → Bool
  | completed | completedWithErrors | failed | noRecipients => true
  | pending | running => false

structure Recipient where
  recipientRef : String
  address : Option String
  locale : Option String
  channelHints : Option (List String)
  deriving DecidableEq

/-- A payload as its JSON text, or the marker stored in its place. -/
inductive Payload where
  | whole (text : String)
  | truncated (originalBytes : Nat)
  deriving DecidableEq

def capPayload (payload : Option String) (maxBytes : Nat) : Option Payload :=
  payload.map fun text =>
    if text.utf8ByteSize ≤ maxBytes then .whole text else .truncated text.utf8ByteSize

structure NotifyInput where
  notificationType : String
  dedupKey : String
  payload : Option String
  sourceEvent : Option String
  priority : Option NotificationPriority
  tenantId : Option String
  requestedBy : Option String
  traceId : Option String
  deriving DecidableEq

structure NotificationContext where
  tenantId : Option String
  notificationRequestId : String
  notificationType : String
  traceId : Option String
  deriving DecidableEq

structure NewNotificationRequest where
  notificationType : String
  dedupKey : String
  sourceEvent : Option String
  payload : Option Payload
  priority : NotificationPriority
  tenantId : Option String
  requestedBy : Option String
  deriving DecidableEq

/-- A row of `notification_requests`. -/
structure NotificationRequest extends NewNotificationRequest where
  id : String
  mode : NotificationMode
  status : NotificationRequestStatus
  totalMessages : Nat
  sentMessages : Nat
  failedMessages : Nat
  suppressedMessages : Nat
  deriving DecidableEq

structure NewNotificationMessage where
  recipientRef : String
  channel : String
  address : Option String
  locale : Option String
  status : NotificationMessageStatus
  suppressReason : Option NotificationSuppressReason
  deriving DecidableEq

/-- A row of `notification_messages`. -/
structure NotificationMessage extends NewNotificationMessage where
  id : String
  notificationRequestId : String
  tenantId : Option String
  templateId : Option String
  provider : Option String
  providerMessageId : Option String
  errorMessage : Option String
  attemptCount : Nat
  deriving DecidableEq

structure ClaimedNotificationMessage where
  id : String
  notificationRequestId : String
  tenantId : Option String
  recipientRef : String
  channel : String
  address : Option String
  locale : Option String
  deriving DecidableEq

structure NotificationPreference where
  category : String
  channel : String
  optedIn : Bool
  deriving DecidableEq

structure NotificationTemplateVersion where
  id : String
  subject : Option String
  body : String
  deriving DecidableEq

structure RenderedMessage where
  address : String
  subject : Option String
  body : String
  deriving DecidableEq

structure NotificationDispatch where
  notificationRequestId : String
  notificationType : String
  tenantId : Option String
  traceId : Option String
  messageIds : List String
  deriving DecidableEq

structure ChunkJob where
  jobId : String
  dispatch : NotificationDispatch
  deriving DecidableEq

end Types

section Updates

/-- The updates of a request's row; none of them touches its key. -/
inductive RequestWrite where
  | attach (mode : NotificationMode) (totalMessages suppressedMessages : Nat)
  | markRunning
  | incrementSent
  | incrementFailed
  | close (status : NotificationRequestStatus)
  deriving DecidableEq

def RequestWrite.selects : RequestWrite → NotificationRequest → Bool
  | markRunning, request => request.status = .pending
  | _, _ => true

def RequestWrite.change : RequestWrite → NotificationRequest → NotificationRequest
  | attach mode totalMessages suppressedMessages, request =>
    { request with
      mode := mode, totalMessages := totalMessages, suppressedMessages := suppressedMessages,
      status := if mode = .sync then .running else .pending }
  | markRunning, request => { request with status := .running }
  | incrementSent, request => { request with sentMessages := request.sentMessages + 1 }
  | incrementFailed, request => { request with failedMessages := request.failedMessages + 1 }
  | close status, request => { request with status := status }

/-- What identifies a request: its own identifier, and what triggered it. -/
structure RequestKey where
  id : String
  tenantId : Option String
  dedupKey : String
  deriving DecidableEq

def NotificationRequest.key (request : NotificationRequest) : RequestKey :=
  ⟨request.id, request.tenantId, request.dedupKey⟩

theorem RequestWrite.change_key (write : RequestWrite) (request : NotificationRequest) :
    (write.change request).key = request.key := by
  cases write with
  | attach | markRunning | incrementSent | incrementFailed | close => rfl

/-- The updates of a message's row. -/
inductive MessageWrite where
  | claim
  | markSent (templateId provider providerMessageId : String)
  | markFailed (errorMessage : String)
  | reset
  deriving DecidableEq

def MessageWrite.change : MessageWrite → NotificationMessage → NotificationMessage
  | claim, message =>
    { message with status := .rendering, attemptCount := message.attemptCount + 1 }
  | markSent templateId provider providerMessageId, message =>
    { message with
      status := .sent, templateId := some templateId, provider := some provider,
      providerMessageId := some providerMessageId }
  | markFailed errorMessage, message =>
    { message with
      status := .failed, errorMessage := some (String.ofList (errorMessage.toList.take 4000)) }
  | reset, message => { message with status := .pending }

/-- What a message is: a recipient of a request, on a channel. -/
structure MessageKey where
  id : String
  notificationRequestId : String
  recipientRef : String
  channel : String
  deriving DecidableEq

def NotificationMessage.key (message : NotificationMessage) : MessageKey :=
  ⟨message.id, message.notificationRequestId, message.recipientRef, message.channel⟩

def MessageKey.pair (key : MessageKey) : String × String × String :=
  (key.notificationRequestId, key.recipientRef, key.channel)

theorem MessageWrite.change_key (write : MessageWrite) (message : NotificationMessage) :
    (write.change message).key = message.key := by
  cases write with
  | claim | markSent | markFailed | reset => rfl

end Updates

section Tables

/-- No unique index tells two rows without a tenant apart. -/
def RequestKey.Distinct (a b : RequestKey) : Prop :=
  a.tenantId ≠ none → a.tenantId = b.tenantId → a.dedupKey ≠ b.dedupKey

instance (a b : RequestKey) : Decidable (a.Distinct b) :=
  inferInstanceAs (Decidable (a.tenantId ≠ none → a.tenantId = b.tenantId → a.dedupKey ≠ b.dedupKey))

/-- The two tables with their unique indexes, and the chunks in the queue. -/
structure NotificationDb where
  requests : Table NotificationRequest.id
  messages : Table NotificationMessage.id
  queue : List ChunkJob
  distinct : (requests.rows.map NotificationRequest.key).Pairwise RequestKey.Distinct
  paired : ((messages.rows.map NotificationMessage.key).map MessageKey.pair).Nodup

namespace NotificationDb

def empty : NotificationDb := ⟨Table.empty, Table.empty, [], .nil, .nil⟩

def requestKeys (db : NotificationDb) : List RequestKey :=
  db.requests.rows.map NotificationRequest.key

def messageKeys (db : NotificationDb) : List MessageKey :=
  db.messages.rows.map NotificationMessage.key

theorem change_requestId (write : RequestWrite) (request : NotificationRequest) :
    (write.change request).id = request.id :=
  congrArg RequestKey.id (write.change_key request)

theorem change_messageId (write : MessageWrite) (message : NotificationMessage) :
    (write.change message).id = message.id :=
  congrArg MessageKey.id (write.change_key message)

/-- An update of the rows of requests that pass. -/
def writeRequests (db : NotificationDb) (write : RequestWrite) (p : NotificationRequest → Bool) :
    NotificationDb :=
  { db with
    requests := (db.requests.updateMany (fun r => p r && write.selects r) write.change
      (change_requestId write)).2
    distinct := by
      rw [Table.map_updateMany (change_requestId write) write.change_key]
      exact db.distinct }

/-- An update of the rows of messages that pass. -/
def writeMessages (db : NotificationDb) (write : MessageWrite) (p : NotificationMessage → Bool) :
    NotificationDb :=
  { db with
    messages := (db.messages.updateMany p write.change (change_messageId write)).2
    paired := by
      rw [Table.map_updateMany (change_messageId write) write.change_key]
      exact db.paired }

theorem requestKeys_writeRequests {db : NotificationDb} {write : RequestWrite}
    {p : NotificationRequest → Bool} : (db.writeRequests write p).requestKeys = db.requestKeys :=
  Table.map_updateMany (change_requestId write) write.change_key

theorem messageKeys_writeRequests {db : NotificationDb} {write : RequestWrite}
    {p : NotificationRequest → Bool} : (db.writeRequests write p).messageKeys = db.messageKeys :=
  rfl

theorem requestKeys_writeMessages {db : NotificationDb} {write : MessageWrite}
    {p : NotificationMessage → Bool} : (db.writeMessages write p).requestKeys = db.requestKeys :=
  rfl

theorem messageKeys_writeMessages {db : NotificationDb} {write : MessageWrite}
    {p : NotificationMessage → Bool} : (db.writeMessages write p).messageKeys = db.messageKeys :=
  Table.map_updateMany (change_messageId write) write.change_key

/-- A request as it is created. -/
def created (id : String) (data : NewNotificationRequest) : NotificationRequest :=
  ⟨data, id, .async, .pending, 0, 0, 0, 0⟩

/-- A message as it is created. -/
def fannedOut (request : NotificationRequest) (id : String) (data : NewNotificationMessage) :
    NotificationMessage :=
  ⟨data, id, request.id, request.tenantId, none, none, none, none, 0⟩

/-- The insert of a request, refused by the index on `(tenantId, dedupKey)`. -/
def insertRequest (db : NotificationDb) (row : NotificationRequest) : Option NotificationDb :=
  if h : ∀ key ∈ db.requestKeys, key.Distinct row.key then
    if hfree : db.requests.get? row.id = none then
      some { db with
        requests := db.requests.insert row
        distinct := by
          rw [Table.rows_insert hfree, List.map_append, List.pairwise_append]
          refine ⟨db.distinct, List.pairwise_singleton _ _, fun key hkey last hlast => ?_⟩
          rw [List.mem_singleton.mp hlast]
          exact h key hkey }
    else none
  else none

/-- The insert of many messages, refused as a whole by the index on
`(notificationRequestId, recipientRef, channel)`. -/
def insertMessages (db : NotificationDb) (rows : List NotificationMessage) :
    Option NotificationDb :=
  if hid : (db.messages.rows ++ rows |>.map NotificationMessage.id).Nodup then
    if hpair : ((db.messages.rows ++ rows).map NotificationMessage.key |>.map
        MessageKey.pair).Nodup then
      some { db with messages := ⟨db.messages.rows ++ rows, hid⟩, paired := hpair }
    else none
  else none

theorem insertRequest_eq_some {db db' : NotificationDb} {row : NotificationRequest}
    (h : db.insertRequest row = some db') :
    db'.requestKeys = db.requestKeys ++ [row.key] ∧ db'.messageKeys = db.messageKeys ∧
      db'.queue = db.queue := by
  unfold insertRequest at h
  split at h
  · split at h
    · rename_i hfree
      cases h
      refine ⟨?_, rfl, rfl⟩
      simp only [requestKeys, Table.rows_insert hfree, List.map_append, List.map_singleton]
    · cases h
  · cases h

theorem insertMessages_eq_some {db db' : NotificationDb} {rows : List NotificationMessage}
    (h : db.insertMessages rows = some db') :
    db'.requestKeys = db.requestKeys ∧
      db'.messageKeys = db.messageKeys ++ rows.map NotificationMessage.key := by
  unfold insertMessages at h
  split at h
  · split at h
    · cases h
      exact ⟨rfl, List.map_append⟩
    · cases h
  · cases h

end NotificationDb

end Tables

/-- The statements on the tables, each atomic, what is asked of the domain's handler and of the
channel's provider, the calls of the queue, and the answer of a call to its caller. -/
inductive NotificationStatement where
  | findByDedupKey (tenantId : Option String) (dedupKey : String)
  | create (data : NewNotificationRequest)
  | resolveRecipients (notificationType : String) (payload : Option String)
      (context : NotificationContext)
  | resolveModel (notificationType : String) (payload : Option Payload)
      (context : NotificationContext)
  | findForRecipient (tenantId : Option String) (recipientRef : String)
  | isSuppressed (tenantId : Option String) (address channel : String)
  | attachMessages (requestId : String) (mode : NotificationMode)
      (messages : List NewNotificationMessage)
  | findById (requestId : String)
  | update (requestId : String) (write : RequestWrite)
  | markRunning (requestId : String)
  | findResumableRequests
  | messageIds (requestId : String)
  | hasInFlightMessages (requestId : String)
  | claim (messageId : String)
  | resolveActive (tenantId : Option String) (notificationType channel locale : String)
  | send (claimed : ClaimedNotificationMessage) (rendered : RenderedMessage)
  | updateMessage (messageId : String) (write : MessageWrite)
  | resetStuckRendering
  | writeRequestCompletedEvent (request : NotificationRequest)
  | enqueue (job : ChunkJob)
  | takeChunk
  | respond (record : NotificationRequest)
  deriving DecidableEq

/-- What a statement returns that does not throw. -/
@[reducible] def NotificationStatement.Result : NotificationStatement → Type
  | findByDedupKey _ _ => Option NotificationRequest
  | create _ => Option NotificationRequest
  | resolveRecipients _ _ _ => List Recipient
  | resolveModel _ _ _ => String
  | findForRecipient _ _ => List NotificationPreference
  | isSuppressed _ _ _ => Bool
  | attachMessages _ _ _ => NotificationRequest × List NotificationMessage
  | findById _ => Option NotificationRequest
  | update _ _ => NotificationRequest
  | markRunning _ => Unit
  | findResumableRequests => List NotificationRequest
  | messageIds _ => List String
  | hasInFlightMessages _ => Bool
  | claim _ => Option ClaimedNotificationMessage
  | resolveActive _ _ _ _ => Option NotificationTemplateVersion
  | send _ _ => String
  | updateMessage _ _ => Unit
  | resetStuckRendering => Nat
  | writeRequestCompletedEvent _ => Unit
  | enqueue _ => Unit
  | takeChunk => NotificationDispatch
  | respond _ => Unit

abbrev NotificationStatement.interface : Interface :=
  ⟨NotificationStatement, fun q => Except String q.Result⟩

/-- What the statements leave open: which of several rows is found, fresh identifiers, what the
handler, the gate's tables, the templates and the provider answer, which messages have been
rendering for too long, which chunk a worker takes and whether it stays in the queue, and whether
a statement throws, a call of the queue also after it had its effect. -/
inductive NotificationChoice where
  | settled
  | found (id : String)
  | created (id : String)
  | issued (ids : List String)
  | recipients (recipients : List Recipient)
  | preferences (rows : List NotificationPreference)
  | text (text : String)
  | flag (flag : Bool)
  | template (template : Option NotificationTemplateVersion)
  | stuck (ids : List String)
  | taken (index : Nat) (kept : Bool)
  | refused (message : String)
  | lost (message : String)

section Execution

namespace NotificationDb

variable (db : NotificationDb)

def claimedOf (message : NotificationMessage) : ClaimedNotificationMessage :=
  ⟨message.id, message.notificationRequestId, message.tenantId, message.recipientRef,
    message.channel, message.address, message.locale⟩

def inFlight (message : NotificationMessage) : Bool :=
  message.status = .pending || message.status = .rendering

def messagesOf (requestId : String) : List NotificationMessage :=
  db.messages.rows.filter (·.notificationRequestId = requestId)

/-- The queue takes a job's identifier once. -/
def push (job : ChunkJob) : NotificationDb :=
  if db.queue.any (·.jobId = job.jobId) then db else { db with queue := db.queue ++ [job] }

/-- The transaction of `attachMessages`. -/
def attach (requestId : String) (mode : NotificationMode) (messages : List NewNotificationMessage)
    (ids : List String) : Except String (NotificationRequest × List NotificationMessage) ×
      NotificationDb :=
  match db.requests.get? requestId with
  | none => (.error "P2025", db)
  | some request =>
    match db.insertMessages (List.zipWith (fannedOut request) ids messages) with
    | none => (.error "P2002", db)
    | some inserted =>
      let suppressed := messages.countP (·.status = .suppressed)
      let updated := inserted.writeRequests (.attach mode messages.length suppressed)
        (·.id = requestId)
      (.ok ((RequestWrite.attach mode messages.length suppressed).change request,
        updated.messagesOf requestId), updated)

end NotificationDb

open NotificationDb

/-- A row that a lookup by key may find. -/
def matchesKey (tenantId : Option String) (dedupKey : String) (request : NotificationRequest) :
    Bool :=
  request.tenantId = tenantId && request.dedupKey = dedupKey

def NotificationStatement.execute : (q : NotificationStatement) → NotificationChoice →
    NotificationDb → Option (Except String q.Result × NotificationDb)
  | _, .refused message, db => some (.error message, db)
  | findByDedupKey tenantId dedupKey, .settled, db =>
    if db.requests.rows.any (matchesKey tenantId dedupKey) then none else some (.ok none, db)
  | findByDedupKey tenantId dedupKey, .found id, db =>
    ((db.requests.get? id).filter (matchesKey tenantId dedupKey)).map fun row => (.ok (some row), db)
  | create data, .settled, db =>
    if data.tenantId ≠ none ∧ db.requests.rows.any (matchesKey data.tenantId data.dedupKey) then
      some (.ok none, db)
    else none
  | create data, .created id, db =>
    (db.insertRequest (created id data)).map fun db' => (.ok (some (created id data)), db')
  | resolveRecipients _ _ _, .recipients recipients, db => some (.ok recipients, db)
  | resolveModel _ _ _, .text model, db => some (.ok model, db)
  | findForRecipient _ _, .preferences rows, db => some (.ok rows, db)
  | isSuppressed _ _ _, .flag suppressed, db => some (.ok suppressed, db)
  | attachMessages requestId mode messages, .issued ids, db =>
    if ids.length = messages.length ∧ ids.Nodup ∧ ∀ id ∈ ids, db.messages.get? id = none then
      some (db.attach requestId mode messages ids)
    else none
  | findById requestId, .settled, db => some (.ok (db.requests.get? requestId), db)
  | update requestId write, .settled, db =>
    match db.requests.get? requestId with
    | none => some (.error "P2025", db)
    | some row => some (.ok (write.change row), db.writeRequests write (·.id = requestId))
  | markRunning requestId, .settled, db =>
    some (.ok (), db.writeRequests .markRunning (·.id = requestId))
  | findResumableRequests, .settled, db =>
    some (.ok ((db.requests.rows.filter fun request => request.mode = .async &&
      !request.status.isTerminal &&
        (db.messagesOf request.id).any (·.status = .pending)).take 100), db)
  | messageIds requestId, .settled, db =>
    some (.ok (((db.messagesOf requestId).filter (·.status = .pending)).map (·.id)), db)
  | hasInFlightMessages requestId, .settled, db =>
    some (.ok ((db.messagesOf requestId).any inFlight), db)
  | claim messageId, .settled, db =>
    some (.ok (((db.messages.get? messageId).filter (·.status = .pending)).map claimedOf),
      db.writeMessages .claim fun message => message.id = messageId && message.status = .pending)
  | resolveActive _ _ _ _, .template template, db => some (.ok template, db)
  | send _ _, .text providerMessageId, db => some (.ok providerMessageId, db)
  | updateMessage messageId write, .settled, db =>
    match db.messages.get? messageId with
    | none => some (.error "P2025", db)
    | some _ => some (.ok (), db.writeMessages write (·.id = messageId))
  | resetStuckRendering, .stuck ids, db =>
    let stuck := fun message : NotificationMessage =>
      message.status = .rendering && decide (message.id ∈ ids)
    some (.ok (db.messages.rows.countP stuck), db.writeMessages .reset stuck)
  | writeRequestCompletedEvent _, .settled, db => some (.ok (), db)
  | enqueue job, .settled, db => some (.ok (), db.push job)
  | enqueue job, .lost message, db => some (.error message, db.push job)
  | takeChunk, .taken index kept, db =>
    db.queue[index]?.map fun job =>
      (.ok job.dispatch, if kept then db else { db with queue := db.queue.eraseIdx index })
  | respond _, .settled, db => some (.ok (), db)
  | _, _, _ => none

end Execution

end DddBoilerplate.Notification
