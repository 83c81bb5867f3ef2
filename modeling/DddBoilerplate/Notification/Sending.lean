/- module: DddBoilerplate/Notification/Sending
   generality: I
   digest: Sending a notification: the fan-out of a request, its chunks, each message, and what is resumed. -/

import DddBoilerplate.Concurrency.Pool
import DddBoilerplate.Notification.Requests

set_option autoImplicit false
set_option relaxedAutoImplicit false
set_option linter.all false

namespace DddBoilerplate.Notification

open Concurrency

abbrev NotificationProgram := Program NotificationStatement.interface

/-- A statement whose refusal is thrown. -/
def call (q : NotificationStatement) : NotificationProgram q.Result := .ask q Program.lift

structure RegisteredEntry where
  channels : List String
  priority : NotificationPriority

/-- The settings of the pipeline, and what is registered: handlers by notification type, the
providers' names by channel, and the renderer. -/
structure NotificationConfig where
  entries : String → Option RegisteredEntry
  providers : String → Option String
  render : NotificationTemplateVersion → String → Option String × String
  payloadMaxBytes : Nat
  maxRecipientsPerRequest : Nat
  syncMessageThreshold : Nat
  chunkSize : Nat
  chunkSize_pos : 0 < chunkSize

theorem hundred_pos : 0 < 100 := by decide

variable (config : NotificationConfig)

/-- `NotificationHandlerRegistry.requireEntry` -/
def requireEntry (notificationType : String) : Except String RegisteredEntry :=
  match config.entries notificationType with
  | some entry => .ok entry
  | none =>
    .error s!"No NotificationHandler registered for notificationType '{notificationType}'"

/-- `ChannelProviderRegistry.resolve` -/
def resolveProvider (channel : String) : Except String String :=
  match config.providers channel with
  | some provider => .ok provider
  | none => .error s!"No ChannelProvider registered for channel '{channel}'"

section Repository

/-- `createRequest`: a row with the same key is read again in place of the one refused. -/
def createRequest (data : NewNotificationRequest) : NotificationProgram NotificationRequest := do
  let row ← call (.create data)
  match row with
  | some created => return created
  | none => do
    let existing ← call (.findByDedupKey data.tenantId data.dedupKey)
    match existing with
    | some existing => return existing
    | none => .fail "P2002"

def finalise (requestId : String) : NotificationProgram NotificationRequest := do
  let row ← call (.findById requestId)
  match row with
  | none => .fail "P2025"
  | some request =>
    call (.update requestId (.close
      (if request.failedMessages = 0 then .completed
        else if 0 < request.sentMessages then .completedWithErrors else .failed)))

def finaliseNoRecipients (requestId : String) : NotificationProgram NotificationRequest :=
  call (.update requestId (.close .noRecipients))

end Repository

section Queue

/-- Chunks of `size` elements, at most `rounds` of them. -/
def partitionFrom {α : Type} (size : Nat) : Nat → List α → List (List α)
  | 0, _ => []
  | _, [] => []
  | rounds + 1, items => items.take size :: partitionFrom size rounds (items.drop size)

def partition {α : Type} (items : List α) (size : Nat) : List (List α) :=
  partitionFrom size items.length items

def chunkJob (dispatch : NotificationDispatch) (chunk : List String × Nat) : ChunkJob where
  jobId := s!"{dispatch.notificationRequestId}-chunk-{chunk.2}-" ++ chunk.1.headD ""
  dispatch := { dispatch with messageIds := chunk.1 }

def dispatchChunks (dispatch : NotificationDispatch) : NotificationProgram Unit :=
  Program.each (fun chunk => call (.enqueue (chunkJob dispatch chunk)))
    (partition dispatch.messageIds config.chunkSize).zipIdx

end Queue

section Messages

/-- The body of the `try` of `RenderAndSendMessageUseCase`. -/
def renderAndSend (dispatch : NotificationDispatch) (claimed : ClaimedNotificationMessage)
    (model : String) : NotificationProgram Unit :=
  match claimed.address.getD "" with
  | "" => .fail s!"Message {claimed.id} has no resolved address to send to"
  | address => do
    let locale := claimed.locale.getD "en-US"
    let template ← call (.resolveActive claimed.tenantId dispatch.notificationType
      claimed.channel locale)
    match template with
    | none =>
      .fail (s!"No active NotificationTemplate for ({dispatch.notificationType}, " ++
        s!"{claimed.channel}, {locale})")
    | some template => do
      let rendered := config.render template model
      let provider ← Program.lift (resolveProvider config claimed.channel)
      let providerMessageId ← call (.send claimed ⟨address, rendered.1, rendered.2⟩)
      call (.updateMessage claimed.id (.markSent template.id provider providerMessageId))
      let _request ← call (.update dispatch.notificationRequestId .incrementSent)
      return ()

/-- `RenderAndSendMessageUseCase.execute` -/
def processMessage (dispatch : NotificationDispatch) (model messageId : String) :
    NotificationProgram Unit := do
  let claimed ← call (.claim messageId)
  match claimed with
  | none => return ()
  | some claimed =>
    (renderAndSend config dispatch claimed model).handle .done fun message => do
      call (.updateMessage messageId (.markFailed message))
      let _request ← call (.update dispatch.notificationRequestId .incrementFailed)
      return ()

/-- `FinaliseNotificationRequestUseCase.execute` -/
def finaliseRequest (requestId : String) : NotificationProgram Unit := do
  let row ← call (.findById requestId)
  match row with
  | none => return ()
  | some request =>
    if request.status.isTerminal then return ()
    else do
      let inFlight ← call (.hasInFlightMessages requestId)
      if inFlight then return ()
      else do
        let finalised ← finalise requestId
        (call (.writeRequestCompletedEvent finalised)).handle .done fun _ => .done ()

/-- `NotificationWorker.processChunk` -/
def processChunk (dispatch : NotificationDispatch) : NotificationProgram Unit := do
  call (.markRunning dispatch.notificationRequestId)
  let row ← call (.findById dispatch.notificationRequestId)
  match row with
  | none => return ()
  | some request => do
    let _entry ← Program.lift (requireEntry config dispatch.notificationType)
    let model ← call (.resolveModel dispatch.notificationType request.payload
      ⟨dispatch.tenantId, dispatch.notificationRequestId, dispatch.notificationType,
        dispatch.traceId⟩)
    Program.each (processMessage config dispatch model) dispatch.messageIds
    finaliseRequest dispatch.notificationRequestId

end Messages

section Sending

def expandPairs (recipients : List Recipient) (declaredChannels : List String) :
    List (Recipient × String) :=
  recipients.flatMap fun recipient =>
    let hints := recipient.channelHints.getD []
    (if hints = [] then declaredChannels else hints).map fun channel => (recipient, channel)

/-- The message of a pair, as the gate lets it through. -/
def pairMessage (recipient : Recipient) (channel : String) (status : NotificationMessageStatus)
    (suppressReason : Option NotificationSuppressReason) : NewNotificationMessage :=
  ⟨recipient.recipientRef, channel, recipient.address, recipient.locale, status, suppressReason⟩

/-- The gate: consent first, then the block-list, where an address is known. -/
def gate (tenantId : Option String) (notificationType : String) (pair : Recipient × String) :
    NotificationProgram NewNotificationMessage := do
  let (recipient, channel) := pair
  let prefs ← call (.findForRecipient tenantId recipient.recipientRef)
  if prefs.any (fun p => p.category = notificationType &&
      (p.channel = channel || p.channel = "ALL") && !p.optedIn) then
    return pairMessage recipient channel .suppressed (some .preference)
  else
    match recipient.address.getD "" with
    | "" => return pairMessage recipient channel .pending none
    | address => do
      let suppressed ← call (.isSuppressed tenantId address channel)
      return if suppressed then pairMessage recipient channel .suppressed (some .hardBounce)
        else pairMessage recipient channel .pending none

def gates (tenantId : Option String) (notificationType : String) :
    List (Recipient × String) → NotificationProgram (List NewNotificationMessage)
  | [] => return []
  | pair :: pairs => do
    let message ← gate tenantId notificationType pair
    let messages ← gates tenantId notificationType pairs
    return message :: messages

/-- What follows the creation of the request: the recipients, the gate, the messages and their
dispatch. -/
def fanOut (input : NotifyInput) (entry : RegisteredEntry) (priority : NotificationPriority)
    (request : NotificationRequest) : NotificationProgram NotificationRequest := do
  let context : NotificationContext :=
    ⟨input.tenantId, request.id, input.notificationType, input.traceId⟩
  let recipients ← call (.resolveRecipients input.notificationType input.payload context)
  if recipients = [] then finaliseNoRecipients request.id
  else do
    let _model ← call (.resolveModel input.notificationType (input.payload.map .whole) context)
    let pairs := expandPairs recipients entry.channels
    if config.maxRecipientsPerRequest < pairs.length then
      .fail (s!"Fan-out of {pairs.length} messages exceeds the maximum of " ++
        s!"{config.maxRecipientsPerRequest} per notification request")
    else do
      let newMessages ← gates input.tenantId input.notificationType pairs
      let pendingCount := newMessages.countP (·.status = .pending)
      let mode : NotificationMode :=
        if pendingCount ≤ config.syncMessageThreshold ∧ priority = .high then .sync else .async
      let attached ← call (.attachMessages request.id mode newMessages)
      let pendingIds := (attached.2.filter (·.status = .pending)).map (·.id)
      if pendingIds = [] then finalise attached.1.id
      else do
        let dispatch : NotificationDispatch :=
          ⟨attached.1.id, attached.1.notificationType, attached.1.tenantId, input.traceId,
            pendingIds⟩
        match mode with
        | .sync => do
          processChunk config dispatch
          let row ← call (.findById attached.1.id)
          return row.getD attached.1
        | .async =>
          (dispatchChunks config dispatch).handle (fun _ => .done attached.1) fun error => do
            let _request ← finalise attached.1.id
            .fail error

/-- `SendNotificationUseCase.execute` -/
def execute (input : NotifyInput) : NotificationProgram NotificationRequest := do
  let existing ← call (.findByDedupKey input.tenantId input.dedupKey)
  match existing with
  | some existing => return existing
  | none => do
    let entry ← Program.lift (requireEntry config input.notificationType)
    let priority := input.priority.getD entry.priority
    let request ← createRequest
      { notificationType := input.notificationType
        dedupKey := input.dedupKey
        sourceEvent := input.sourceEvent
        payload := capPayload input.payload config.payloadMaxBytes
        priority := priority
        tenantId := input.tenantId
        requestedBy := input.requestedBy }
    fanOut config input entry priority request

end Sending

section Reconciliation

/-- One request of `reconcile`, its pending messages dispatched again. -/
def resume (request : NotificationRequest) : NotificationProgram Unit := do
  let messageIds ← call (.messageIds request.id)
  if messageIds = [] then return ()
  else
    dispatchChunks config
      ⟨request.id, request.notificationType, request.tenantId, none, messageIds⟩

/-- `NotificationReconciliationConsumer.reconcile` -/
def reconcile : NotificationProgram Unit := do
  let _reset ← call .resetStuckRendering
  let resumable ← call .findResumableRequests
  Program.each (resume config) resumable

end Reconciliation

/-- A call that answers its caller, a worker with a chunk, and the sweep. -/
inductive NotificationEntry where
  | send (input : NotifyInput)
  | chunk
  | reconcile

def NotificationEntry.program : NotificationEntry → NotificationProgram Unit
  | send input => do
    let record ← execute config input
    call (.respond record)
  | chunk => do
    let dispatch ← call .takeChunk
    processChunk config dispatch
  | reconcile => Notification.reconcile config

abbrev notificationSystem : System where
  interface := NotificationStatement.interface
  Store := NotificationDb
  Choice := NotificationChoice
  Entry := NotificationEntry
  program := NotificationEntry.program config
  serve := NotificationStatement.execute

end DddBoilerplate.Notification
