/- module: DddBoilerplate/Webhook/Requests
   generality: I
   digest: Webhook subscriptions and deliveries, and the statements on their tables, queue and subscribers. -/

import DddBoilerplate.Concurrency.Program
import DddBoilerplate.Store.Table

set_option autoImplicit false
set_option relaxedAutoImplicit false
set_option linter.all false

namespace DddBoilerplate.Webhook

open Concurrency Store

section Types

inductive WebhookSubscriptionStatus where
  | active | paused | disabled
  deriving DecidableEq

inductive WebhookDeliveryStatus where
  | pending | delivering | delivered | deadLetter
  deriving DecidableEq

structure NewWebhookSubscription where
  tenantId : Option String
  url : String
  secret : String
  eventTypes : List String
  deriving DecidableEq

/-- A row of `webhook_subscriptions`. -/
structure WebhookSubscription extends NewWebhookSubscription where
  id : String
  status : WebhookSubscriptionStatus
  consecutiveFailures : Nat
  deriving DecidableEq

structure UpdateWebhookSubscriptionInput where
  url : Option String
  secret : Option String
  eventTypes : Option (List String)
  status : Option WebhookSubscriptionStatus
  deriving DecidableEq

structure NewWebhookDelivery where
  tenantId : Option String
  subscriptionId : String
  eventId : String
  eventType : String
  payload : String
  deriving DecidableEq

/-- A row of `webhook_deliveries`; a date is a number of milliseconds. -/
structure WebhookDelivery extends NewWebhookDelivery where
  id : String
  status : WebhookDeliveryStatus
  attemptCount : Nat
  nextAttemptAt : Nat
  claimedAt : Option Nat
  lastResponseCode : Option Nat
  lastError : Option String
  createdAt : Nat
  deriving DecidableEq

/-- The headers of a post. -/
structure WebhookHeaders where
  signature : String
  eventType : String
  deliveryId : String
  deriving DecidableEq

/-- The events the webhooks write to the outbox. -/
inductive WebhookEvent where
  | subscriptionAutoPaused (subscriptionId : String) (tenantId : Option String) (reason : String)
  | deliveryExhausted (deliveryId subscriptionId eventType : String) (tenantId : Option String)
  deriving DecidableEq

end Types

section Updates

/-- The updates of one delivery's row. -/
inductive DeliveryWrite where
  | claim (claimedAt : Nat)
  | delivered (responseCode : Nat)
  | failedForRetry (nextAttemptAt : Nat) (responseCode : Option Nat) (error : String)
  | deadLettered (responseCode : Option Nat) (error : String)
  | redelivery (nextAttemptAt : Nat)
  deriving DecidableEq

/-- The status each update asks for. -/
def DeliveryWrite.selects : DeliveryWrite → WebhookDelivery → Bool
  | claim _, row => row.status = .pending
  | delivered _, row => row.status = .delivering
  | failedForRetry _ _ _, row => row.status = .delivering
  | deadLettered _ _, row => row.status = .pending || row.status = .delivering
  | redelivery _, row => row.status = .deadLetter

def DeliveryWrite.change : DeliveryWrite → WebhookDelivery → WebhookDelivery
  | claim claimedAt, row => { row with status := .delivering, claimedAt := some claimedAt }
  | delivered responseCode, row =>
    { row with status := .delivered, lastResponseCode := some responseCode, lastError := none }
  | failedForRetry nextAttemptAt responseCode error, row =>
    { row with
      status := .pending, attemptCount := row.attemptCount + 1, nextAttemptAt := nextAttemptAt,
      claimedAt := none, lastResponseCode := responseCode, lastError := some error }
  | deadLettered responseCode error, row =>
    { row with
      status := .deadLetter, lastResponseCode := responseCode, lastError := some error }
  | redelivery nextAttemptAt, row =>
    { row with status := .pending, nextAttemptAt := nextAttemptAt, claimedAt := none }

theorem DeliveryWrite.change_id (write : DeliveryWrite) (row : WebhookDelivery) :
    (write.change row).id = row.id := by
  cases write with
  | claim | delivered | failedForRetry | deadLettered | redelivery => rfl

/-- What a delivery was made for. -/
def WebhookDelivery.pair (row : WebhookDelivery) : String × String :=
  (row.subscriptionId, row.eventId)

theorem DeliveryWrite.change_new (write : DeliveryWrite) (row : WebhookDelivery) :
    (write.change row).toNewWebhookDelivery = row.toNewWebhookDelivery := by
  cases write with
  | claim | delivered | failedForRetry | deadLettered | redelivery => rfl

/-- The update of `resetStuck` asks for no status. -/
def resetRow (row : WebhookDelivery) : WebhookDelivery :=
  { row with status := .pending, claimedAt := none }

theorem resetRow_id (row : WebhookDelivery) : (resetRow row).id = row.id := rfl

theorem resetRow_pair (row : WebhookDelivery) : (resetRow row).pair = row.pair := rfl

theorem DeliveryWrite.change_pair (write : DeliveryWrite) (row : WebhookDelivery) :
    (write.change row).pair = row.pair := by
  unfold WebhookDelivery.pair
  rw [write.change_new]

/-- The updates of one subscription's row. -/
inductive SubscriptionWrite where
  | update (input : UpdateWebhookSubscriptionInput)
  | outcome (success : Bool)
  deriving DecidableEq

def SubscriptionWrite.change : SubscriptionWrite → WebhookSubscription → WebhookSubscription
  | update input, row =>
    { row with
      url := input.url.getD row.url, secret := input.secret.getD row.secret,
      eventTypes := input.eventTypes.getD row.eventTypes, status := input.status.getD row.status }
  | outcome true, row => { row with consecutiveFailures := 0 }
  | outcome false, row => { row with consecutiveFailures := row.consecutiveFailures + 1 }

theorem SubscriptionWrite.change_id (write : SubscriptionWrite) (row : WebhookSubscription) :
    (write.change row).id = row.id := by
  cases write with
  | update => rfl
  | outcome success => cases success <;> rfl

end Updates

section Tables

/-- The two tables with the unique index on `(subscriptionId, eventId)`, and the events written to
the outbox. -/
structure WebhookDb where
  subscriptions : Table WebhookSubscription.id
  deliveries : Table WebhookDelivery.id
  outbox : List WebhookEvent
  paired : (deliveries.rows.map WebhookDelivery.pair).Nodup

namespace WebhookDb

def empty : WebhookDb := ⟨Table.empty, Table.empty, [], List.nodup_nil⟩

variable (db : WebhookDb)

def writeDelivery (id : String) (write : DeliveryWrite) : Nat × WebhookDb :=
  let p := fun row : WebhookDelivery => decide (row.id = id) && write.selects row
  let updated := db.deliveries.updateMany p write.change write.change_id
  (updated.1,
    { db with
      deliveries := updated.2
      paired := by
        rw [Table.map_updateMany write.change_id write.change_pair]
        exact db.paired })

def resetDeliveries (ids : List String) : Nat × WebhookDb :=
  let updated := db.deliveries.updateMany (fun row => decide (row.id ∈ ids)) resetRow resetRow_id
  (updated.1,
    { db with
      deliveries := updated.2
      paired := by
        rw [Table.map_updateMany resetRow_id resetRow_pair]
        exact db.paired })

def writeSubscription (id : String) (write : SubscriptionWrite) : WebhookDb :=
  { db with
    subscriptions := (db.subscriptions.updateMany (fun row => decide (row.id = id)) write.change
      write.change_id).2 }

/-- A delivery as it is created. -/
def created (id : String) (data : NewWebhookDelivery) (now : Nat) : WebhookDelivery :=
  ⟨data, id, .pending, 0, now, none, none, none, now⟩

/-- The insert of a delivery: refused by the index on the pair, or as the identifier is taken. -/
def insertDelivery (row : WebhookDelivery) : Option WebhookDb :=
  if hpair : row.pair ∉ db.deliveries.rows.map WebhookDelivery.pair then
    if hfree : db.deliveries.get? row.id = none then
      some { db with
        deliveries := db.deliveries.insert row
        paired := by
          rw [Table.rows_insert hfree, List.map_append, List.map_singleton, List.nodup_append]
          refine ⟨db.paired, List.nodup_singleton _, fun pair hmem last hlast => ?_⟩
          rw [List.mem_singleton.mp hlast]
          rintro rfl
          exact hpair hmem }
    else none
  else none

end WebhookDb

end Tables

/-- The statements on the tables, each atomic, the calls of the queue and of the subscriber. -/
inductive WebhookStatement where
  | findActiveByEventType (eventType : String)
  | createDelivery (data : NewWebhookDelivery) (id : String) (now : Nat)
  | enqueueDelivery (deliveryId : String)
  | findDelivery (id : String)
  | writeDelivery (id : String) (write : DeliveryWrite)
  | findStuck (cutoff : Nat)
  | resetDeliveries (ids : List String)
  | findStalePending (cutoff : Nat)
  | findSubscription (id : String)
  | createSubscription (data : NewWebhookSubscription) (id : String)
  | writeSubscription (id : String) (write : SubscriptionWrite)
  | post (url payload : String) (headers : WebhookHeaders)
  | append (event : WebhookEvent)
  deriving DecidableEq

@[reducible] def WebhookStatement.Result : WebhookStatement → Type
  | findActiveByEventType _ => List WebhookSubscription
  | createDelivery _ _ _ => Option WebhookDelivery
  | enqueueDelivery _ => Unit
  | findDelivery _ => Option WebhookDelivery
  | writeDelivery _ _ => Nat
  | findStuck _ => List String
  | resetDeliveries _ => Nat
  | findStalePending _ => List String
  | findSubscription _ => Option WebhookSubscription
  | createSubscription _ _ => WebhookSubscription
  | writeSubscription _ _ => WebhookSubscription
  | post _ _ _ => Nat
  | append _ => Unit

/-- What a call comes back with. It may throw without having had its effect, or after it, with its
answer lost; whoever called it sees an exception in both cases. -/
inductive Reply (α : Type) where
  | ok (value : α)
  | refused (message : String)
  | lost (value : α) (message : String)
  deriving DecidableEq

def Reply.toExcept {α : Type} : Reply α → Except String α
  | ok value => .ok value
  | refused message => .error message
  | lost _ message => .error message

/-- What the call had as its answer, if it had its effect. -/
def Reply.value? {α : Type} : Reply α → Option α
  | ok value => some value
  | refused _ => none
  | lost value _ => some value

/-- The same answer, lost on the way. -/
def Reply.drop {α : Type} (message : String) : Reply α → Reply α
  | ok value => lost value message
  | refused message => refused message
  | lost value message => lost value message

abbrev WebhookStatement.interface : Interface := ⟨WebhookStatement, fun q => Reply q.Result⟩

/-- What the statements leave open: the order of unordered rows, the status a subscriber responds
with, and whether a call throws. -/
inductive WebhookChoice where
  | settled
  | arranged (rows : List WebhookSubscription)
  | responds (statusCode : Nat)
  | refused (message : String)
  | lost (message : String)

section Execution

open WebhookDb

def WebhookDb.activeFor (db : WebhookDb) (eventType : String) : List WebhookSubscription :=
  db.subscriptions.rows.filter fun row =>
    row.status = .active && decide (eventType ∈ row.eventTypes)

/-- What a statement does that does not throw. -/
def WebhookStatement.perform :
    (q : WebhookStatement) → WebhookDb → Option (Reply q.Result × WebhookDb)
  | findActiveByEventType eventType, db => some (.ok (db.activeFor eventType), db)
  | createDelivery data id now, db =>
    if db.subscriptions.get? data.subscriptionId = none then some (.refused "P2003", db)
    else if (data.subscriptionId, data.eventId) ∈ db.deliveries.rows.map WebhookDelivery.pair then
      some (.ok none, db)
    else (db.insertDelivery (created id data now)).map fun db' =>
      (.ok (some (created id data now)), db')
  | enqueueDelivery _, db => some (.ok (), db)
  | findDelivery id, db => some (.ok (db.deliveries.get? id), db)
  | writeDelivery id write, db =>
    some (.ok (db.writeDelivery id write).1, (db.writeDelivery id write).2)
  | findStuck cutoff, db =>
    some (.ok ((db.deliveries.rows.filter fun row => row.status = .delivering &&
      row.claimedAt.any (· < cutoff)).map WebhookDelivery.id), db)
  | resetDeliveries ids, db => some (.ok (db.resetDeliveries ids).1, (db.resetDeliveries ids).2)
  | findStalePending cutoff, db =>
    some (.ok ((db.deliveries.rows.filter fun row => row.status = .pending &&
      row.claimedAt.isNone && decide (row.createdAt < cutoff)).map WebhookDelivery.id), db)
  | findSubscription id, db => some (.ok (db.subscriptions.get? id), db)
  | createSubscription data id, db =>
    if db.subscriptions.get? id = none then
      some (.ok ⟨data, id, .active, 0⟩,
        { db with subscriptions := db.subscriptions.insert ⟨data, id, .active, 0⟩ })
    else none
  | writeSubscription id write, db =>
    match db.subscriptions.get? id with
    | none => some (.refused "not found", db)
    | some row => some (.ok (write.change row), db.writeSubscription id write)
  | post _ _ _, _ => none
  | append event, db => some (.ok (), { db with outbox := db.outbox ++ [event] })

def WebhookStatement.execute (q : WebhookStatement) (choice : WebhookChoice) (db : WebhookDb) :
    Option (Reply q.Result × WebhookDb) :=
  match choice, q with
  | .settled, q => q.perform db
  | .arranged rows, findActiveByEventType eventType =>
    if rows.isPerm (db.activeFor eventType) then some (.ok rows, db) else none
  | .responds statusCode, post _ _ _ => some (.ok statusCode, db)
  | .refused message, _ => some (.refused message, db)
  | .lost message, q => (q.perform db).map fun r => (r.1.drop message, r.2)
  | _, _ => none

end Execution

end DddBoilerplate.Webhook
