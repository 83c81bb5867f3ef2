/- module: DddBoilerplate/Notification/Receipts
   generality: I
   digest: The delivery receipts of the providers, the block-list and the recipients' consent. -/

import DddBoilerplate.Notification.Sending

set_option autoImplicit false
set_option relaxedAutoImplicit false
set_option linter.all false

namespace DddBoilerplate.Notification

open Concurrency Store

section Types

inductive DeliveryStatus where
  | delivered | bounced | failed | complaint | unsubscribed
  deriving DecidableEq

structure DeliveryEvent where
  providerMessageId : String
  status : DeliveryStatus
  reason : Option String
  deriving DecidableEq

/-- The messages a receipt may give: `'DELIVERED' | 'BOUNCED' | 'FAILED'`. -/
inductive ReceiptStatus where
  | delivered | bounced | failed
  deriving DecidableEq

def ReceiptStatus.status : ReceiptStatus → NotificationMessageStatus
  | delivered => .delivered
  | bounced => .bounced
  | failed => .failed

/-- A row of `notification_suppressions`; a date is a number of milliseconds. -/
structure NotificationSuppression where
  id : String
  tenantId : Option String
  address : String
  channel : String
  reason : NotificationSuppressReason
  source : Option String
  expiresAt : Option Nat
  deriving DecidableEq

/-- A row of `notification_preferences`. -/
structure NotificationPreferenceRow extends NotificationPreference where
  id : String
  tenantId : Option String
  recipientRef : String
  deriving DecidableEq

structure UpsertNotificationPreferenceInput where
  tenantId : Option String
  recipientRef : String
  category : String
  channel : String
  optedIn : Bool
  deriving DecidableEq

/-- `MESSAGE_STATUS_RANK` -/
def NotificationMessageStatus.rank : NotificationMessageStatus → Nat
  | pending => 0
  | rendering => 1
  | sent => 2
  | delivered | bounced | failed | suppressed => 3

end Types

section Tables

/-- The pipeline's tables beside the block-list and the consent rows, and the latest time shown. -/
structure ReceiptDb where
  pipeline : NotificationDb
  suppressions : Table NotificationSuppression.id
  preferences : Table NotificationPreferenceRow.id
  now : Nat

/-- What a receipt writes into a message's row. -/
def applied (status : ReceiptStatus) (reason : Option String) (message : NotificationMessage) :
    NotificationMessage :=
  { message with
    status := status.status
    errorMessage := if status = .delivered then message.errorMessage else reason }

/-- `WHERE "providerMessageId" = … AND rank(status) < rank(…)` -/
def advances (providerMessageId : String) (status : ReceiptStatus) (message : NotificationMessage) :
    Bool :=
  message.providerMessageId = some providerMessageId && message.status.rank < status.status.rank

namespace ReceiptDb

variable (db : ReceiptDb)

def applyReceipt (providerMessageId : String) (status : ReceiptStatus) (reason : Option String) :
    NotificationDb :=
  { db.pipeline with
    messages := (db.pipeline.messages.updateMany (advances providerMessageId status)
      (applied status reason) fun _ => rfl).2
    paired := by
      rw [@Table.map_updateMany _ _ NotificationMessage.id _ _ (advances providerMessageId status)
        (applied status reason) (fun _ => rfl) _ fun _ => rfl]
      exact db.pipeline.paired }

theorem get?_applyReceipt {providerMessageId : String} {status : ReceiptStatus}
    {reason : Option String} {id : String} :
    (db.applyReceipt providerMessageId status reason).messages.get? id =
      (db.pipeline.messages.get? id).map fun row =>
        if advances providerMessageId status row then applied status reason row else row :=
  @Table.get?_updateMany _ _ _ NotificationMessage.id _ _ (applied status reason) (fun _ => rfl) id

/-- The row that blocks the address on the channel, at that time. -/
def blocks (tenantId : Option String) (address channel : String) (now : Nat)
    (row : NotificationSuppression) : Bool :=
  row.tenantId = tenantId && row.address = address && row.channel = channel &&
    row.expiresAt.all fun expiresAt => now < expiresAt

def names (tenantId : Option String) (address channel : String) (row : NotificationSuppression) :
    Bool :=
  row.tenantId = tenantId && row.address = address && row.channel = channel

def prefers (tenantId : Option String) (recipientRef category channel : String)
    (row : NotificationPreferenceRow) : Bool :=
  row.tenantId = tenantId && row.recipientRef = recipientRef && row.category = category &&
    row.channel = channel

end ReceiptDb

end Tables

/-- The statements of the pipeline, those on the other two tables and on receipts, and what a provider
makes of the payload of its callback. -/
inductive ReceiptStatement where
  | pipeline (q : NotificationStatement)
  | parseDeliveryReceipt (channel payload : String) (signature : Option String)
  | findByProviderMessageId (providerMessageId : String)
  | applyDeliveryStatus (providerMessageId : String) (status : ReceiptStatus)
      (reason : Option String)
  | findSuppression (tenantId : Option String) (address channel : String)
  | updateSuppression (id : String) (reason : NotificationSuppressReason) (source : Option String)
  | createSuppression (tenantId : Option String) (address channel : String)
      (reason : NotificationSuppressReason) (source : Option String)
  | findPreference (input : UpsertNotificationPreferenceInput)
  | updatePreference (id : String) (optedIn : Bool)
  | createPreference (input : UpsertNotificationPreferenceInput)
  deriving DecidableEq

def ReceiptStatement.ofPipeline : ReceiptStatement → Bool
  | pipeline _ => true
  | _ => false

@[reducible] def ReceiptStatement.Result : ReceiptStatement → Type
  | pipeline q => q.Result
  | parseDeliveryReceipt _ _ _ => List DeliveryEvent
  | findByProviderMessageId _ => Option NotificationMessage
  | applyDeliveryStatus _ _ _ => Option NotificationMessage
  | findSuppression _ _ _ => Option NotificationSuppression
  | updateSuppression _ _ _ => Unit
  | createSuppression _ _ _ _ _ => Unit
  | findPreference _ => Option NotificationPreferenceRow
  | updatePreference _ _ => Unit
  | createPreference _ => Unit

abbrev ReceiptStatement.interface : Interface :=
  ⟨ReceiptStatement, fun q => Except String q.Result⟩

/-- What the statements leave open: what the pipeline's leave open, which of several rows is found, a
fresh identifier, the time, what a callback says, and whether a statement throws. -/
inductive ReceiptChoice where
  | pipeline (choice : NotificationChoice)
  | settled
  | found (id : String)
  | created (id : String)
  | reading (now : Nat)
  | events (events : List DeliveryEvent)
  | refused (message : String)

open ReceiptDb

def ReceiptStatement.execute : (q : ReceiptStatement) → ReceiptChoice →
    ReceiptDb → Option (Except String q.Result × ReceiptDb)
  | _, .refused message, db => some (.error message, db)
  | pipeline (.findForRecipient tenantId recipientRef), .settled, db =>
    some (.ok ((db.preferences.rows.filter fun row =>
      row.tenantId = tenantId && row.recipientRef = recipientRef).map
        NotificationPreferenceRow.toNotificationPreference), db)
  | pipeline (.isSuppressed tenantId address channel), .reading now, db =>
    if db.now ≤ now then
      some (.ok (db.suppressions.rows.any (blocks tenantId address channel now)),
        { db with now := now })
    else none
  | pipeline (.findForRecipient _ _), _, _ => none
  | pipeline (.isSuppressed _ _ _), _, _ => none
  | pipeline q, .pipeline choice, db =>
    (q.execute choice db.pipeline).map fun (a, after) => (a, { db with pipeline := after })
  | parseDeliveryReceipt _ _ _, .events events, db => some (.ok events, db)
  | findByProviderMessageId providerMessageId, .settled, db =>
    if db.pipeline.messages.rows.any (·.providerMessageId = some providerMessageId) then none
    else some (.ok none, db)
  | findByProviderMessageId providerMessageId, .found id, db =>
    ((db.pipeline.messages.get? id).filter
      (·.providerMessageId = some providerMessageId)).map fun row => (.ok (some row), db)
  | applyDeliveryStatus providerMessageId status reason, .settled, db =>
    some (.ok ((db.pipeline.messages.rows.find? (advances providerMessageId status)).map
      (applied status reason)), { db with pipeline := db.applyReceipt providerMessageId status reason })
  | findSuppression tenantId address channel, .settled, db =>
    if db.suppressions.rows.any (names tenantId address channel) then none else some (.ok none, db)
  | findSuppression tenantId address channel, .found id, db =>
    ((db.suppressions.get? id).filter (names tenantId address channel)).map fun row =>
      (.ok (some row), db)
  | updateSuppression id reason source, .settled, db =>
    match db.suppressions.get? id with
    | none => some (.error "P2025", db)
    | some row =>
      some (.ok (), { db with
        suppressions := db.suppressions.put { row with reason := reason, source := source } })
  | createSuppression tenantId address channel reason source, .created id, db =>
    if tenantId ≠ none ∧ db.suppressions.rows.any (names tenantId address channel) then
      some (.error "P2002", db)
    else if db.suppressions.get? id = none then
      some (.ok (), { db with
        suppressions := db.suppressions.insert ⟨id, tenantId, address, channel, reason, source, none⟩ })
    else none
  | findPreference input, .settled, db =>
    if db.preferences.rows.any
        (prefers input.tenantId input.recipientRef input.category input.channel) then none
    else some (.ok none, db)
  | findPreference input, .found id, db =>
    ((db.preferences.get? id).filter
      (prefers input.tenantId input.recipientRef input.category input.channel)).map fun row =>
        (.ok (some row), db)
  | updatePreference id optedIn, .settled, db =>
    match db.preferences.get? id with
    | none => some (.error "P2025", db)
    | some row =>
      some (.ok (), { db with preferences := db.preferences.put { row with optedIn := optedIn } })
  | createPreference input, .created id, db =>
    if input.tenantId ≠ none ∧ db.preferences.rows.any
        (prefers input.tenantId input.recipientRef input.category input.channel) then
      some (.error "P2002", db)
    else if db.preferences.get? id = none then
      some (.ok (), { db with
        preferences := db.preferences.insert
          ⟨⟨input.category, input.channel, input.optedIn⟩, id, input.tenantId, input.recipientRef⟩ })
    else none
  | _, _, _ => none

abbrev ReceiptProgram := Program ReceiptStatement.interface

/-- A program of the pipeline beside the receipts. -/
def beside {α : Type} : NotificationProgram α → ReceiptProgram α
  | .done a => .done a
  | .fail e => .fail e
  | .ask q next => .ask (.pipeline q) fun a => beside (next a)

/-- A statement whose refusal is thrown. -/
def ask (q : ReceiptStatement) : ReceiptProgram q.Result := .ask q Program.lift

/-- `mapDeliveryEvent` -/
def mapDeliveryEvent (status : DeliveryStatus) (channel : String) :
    ReceiptStatus × Option NotificationSuppressReason :=
  match status with
  | .delivered => (.delivered, none)
  | .bounced => (.bounced, some .hardBounce)
  | .complaint => (.bounced, some .complaint)
  | .unsubscribed => (.bounced, some (if channel = "SMS" then .smsStop else .unsubscribe))
  | .failed => (.failed, none)

def suppress (tenantId : Option String) (address channel : String)
    (reason : NotificationSuppressReason) (source : Option String) : ReceiptProgram Unit := do
  let existing ← ask (.findSuppression tenantId address channel)
  match existing with
  | some row => ask (.updateSuppression row.id reason source)
  | none => ask (.createSuppression tenantId address channel reason source)

/-- What a receipt that found its message goes on with. -/
def applyTo (event : DeliveryEvent) (message : NotificationMessage) : ReceiptProgram Unit := do
  let mapped := mapDeliveryEvent event.status message.channel
  let updated ← ask (.applyDeliveryStatus event.providerMessageId mapped.1 event.reason)
  match updated, mapped.2, message.address.getD "" with
  | none, _, _ => return ()
  | some _, none, _ => return ()
  | some _, some _, "" => return ()
  | some _, some reason, address =>
    suppress message.tenantId address message.channel reason message.provider

/-- `ApplyDeliveryEventUseCase.applyOne` -/
def applyOne (event : DeliveryEvent) : ReceiptProgram Unit := do
  let message ← ask (.findByProviderMessageId event.providerMessageId)
  match message with
  | none => return ()
  | some message => applyTo event message

variable (config : NotificationConfig)

/-- `ApplyDeliveryEventUseCase.execute` -/
def applyDeliveryEvents (channel payload : String) (signature : Option String) :
    ReceiptProgram Unit := do
  let _provider ← Program.lift (resolveProvider config channel)
  let events ← ask (.parseDeliveryReceipt channel payload signature)
  Program.each applyOne events

/-- `upsert` of the preferences. -/
def upsertPreference (input : UpsertNotificationPreferenceInput) : ReceiptProgram Unit := do
  let existing ← ask (.findPreference input)
  match existing with
  | some row => ask (.updatePreference row.id input.optedIn)
  | none => ask (.createPreference input)

/-- The entries of the pipeline, a provider's callback, and a recipient's choice. -/
inductive ReceiptEntry where
  | pipeline (entry : NotificationEntry)
  | callback (channel payload : String) (signature : Option String)
  | prefer (input : UpsertNotificationPreferenceInput)

def ReceiptEntry.program : ReceiptEntry → ReceiptProgram Unit
  | pipeline entry => beside (entry.program config)
  | callback channel payload signature => applyDeliveryEvents config channel payload signature
  | prefer input => upsertPreference input

abbrev receiptSystem : System where
  interface := ReceiptStatement.interface
  Store := ReceiptDb
  Choice := ReceiptChoice
  Entry := ReceiptEntry
  program := ReceiptEntry.program config
  serve := ReceiptStatement.execute

end DddBoilerplate.Notification
