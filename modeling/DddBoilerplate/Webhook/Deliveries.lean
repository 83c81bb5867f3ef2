/- module: DddBoilerplate/Webhook/Deliveries
   generality: I
   digest: Fanning out an event to its subscriptions, an attempt at a delivery, and those who look after it. -/

import DddBoilerplate.Concurrency.World
import DddBoilerplate.Recurring.Templates
import DddBoilerplate.Webhook.Requests

set_option autoImplicit false
set_option relaxedAutoImplicit false
set_option linter.all false

namespace DddBoilerplate.Webhook

open Concurrency Store
open Recurring (assertVisible)

/-- The allowlist of event types, and what `getWebhook()` returns. -/
structure WebhookConfig where
  eventTypes : List String
  backoffBaseMs : Nat
  circuitBreakerThreshold : Nat
  reconciliationWindowMs : Nat
  sign : String → String → String

/-- What the dispatcher is handed: an envelope, or anything else. -/
structure MessageEnvelope where
  eventId : Option String
  tenantId : Option String
  payload : String
  deriving DecidableEq

abbrev WebhookProgram := Program WebhookStatement.interface.world

section Programs

def readClock : WebhookProgram Nat := .ask .clock .done

def drawUUID : WebhookProgram String := .ask .randomUUID .done

/-- A call that throws what it comes back with. -/
def call (q : WebhookStatement) : WebhookProgram q.Result :=
  .ask (.statement q) fun reply => Program.lift reply.toExcept

variable (config : WebhookConfig)

/-- `createMany`: a delivery that is there already is passed over. -/
def createMany : List NewWebhookDelivery → WebhookProgram (List WebhookDelivery)
  | [] => return []
  | data :: rest => do
    let id ← drawUUID
    let now ← readClock
    let created : Option WebhookDelivery ← call (.createDelivery data id now)
    let others ← createMany rest
    return created.toList ++ others

/-- `DispatchWebhookEventUseCase.execute` -/
def dispatchWebhookEvent (eventType eventId payload : String) : WebhookProgram Unit := do
  let found : List WebhookSubscription ← call (.findActiveByEventType eventType)
  let created ← createMany (found.map fun subscription =>
    ⟨subscription.tenantId, subscription.id, eventId, eventType, payload⟩)
  Program.each (fun delivery : WebhookDelivery =>
    (call (.enqueueDelivery delivery.id)).handle (fun _ => return ()) fun _ => return ()) created

/-- `WebhookDispatchDispatcher.onEvent` -/
def onEvent (eventName : String) (envelope : Option MessageEnvelope) : WebhookProgram Unit :=
  if eventName ∈ config.eventTypes then do
    let eventId ←
      match envelope.bind MessageEnvelope.eventId with
      | some eventId => pure eventId
      | none => drawUUID
    let payload := (envelope.map MessageEnvelope.payload).getD "{}"
    (dispatchWebhookEvent eventName eventId payload).handle (fun _ => return ()) fun _ => return ()
  else return ()

/-- `claim`: the guarded update, and the row if it was updated. -/
def claim (id : String) : WebhookProgram (Option WebhookDelivery) := do
  let now ← readClock
  let count : Nat ← call (.writeDelivery id (.claim now))
  if count = 0 then return none else call (.findDelivery id)

/-- The digits at the front of a text. -/
def leadingDigits (text : List Char) : List Char := text.takeWhile Char.isDigit

/-- `/status (\d+)/` -/
def extractStatusCode (message : String) : Option Nat :=
  (message.toList.tails.findSome? fun text =>
    match text with
    | 's' :: 't' :: 'a' :: 't' :: 'u' :: 's' :: ' ' :: digit :: rest =>
      if digit.isDigit then some (Nat.ofDigitChars 10 (leadingDigits (digit :: rest)) 0) else none
    | _ => none)

/-- The body of the `try`. -/
def postDelivery (deliveryId : String) (claimed : WebhookDelivery)
    (subscription : WebhookSubscription) : WebhookProgram Unit := do
  let statusCode : Nat ← call (.post subscription.url claimed.payload
    ⟨config.sign subscription.secret claimed.payload, claimed.eventType, claimed.id⟩)
  if 200 ≤ statusCode ∧ statusCode < 300 then do
    let _delivered : Nat ← call (.writeDelivery deliveryId (.delivered statusCode))
    let _updated : WebhookSubscription ←
      call (.writeSubscription subscription.id (.outcome true))
    return ()
  else .fail ("Subscriber responded with status " ++ toString statusCode)

/-- The breaker: it pauses the subscription, and says so. -/
def autoPause (subscription updated : WebhookSubscription) : WebhookProgram Unit := do
  let _paused : WebhookSubscription ←
    call (.writeSubscription subscription.id (.update ⟨none, none, none, some .paused⟩))
  call (.append (.subscriptionAutoPaused subscription.id subscription.tenantId
    (toString updated.consecutiveFailures ++ " consecutive delivery failures")))

/-- The body of the `catch`. -/
def failDelivery (deliveryId : String) (claimed : WebhookDelivery)
    (subscription : WebhookSubscription) (message : String) : WebhookProgram Unit := do
  let now ← readClock
  let _failed : Nat ← call (.writeDelivery deliveryId
    (.failedForRetry (now + config.backoffBaseMs * 2 ^ claimed.attemptCount)
      (extractStatusCode message) message))
  let updated : WebhookSubscription ← call (.writeSubscription subscription.id (.outcome false))
  if updated.status = .active ∧ config.circuitBreakerThreshold ≤ updated.consecutiveFailures then
    autoPause subscription updated
  .fail message

/-- `DeliverWebhookUseCase.execute` -/
def deliverWebhook (deliveryId : String) : WebhookProgram Unit := do
  let claimed ← claim deliveryId
  match claimed with
  | none => return ()
  | some claimed =>
    let found : Option WebhookSubscription ← call (.findSubscription claimed.subscriptionId)
    match found.filter (·.status = .active) with
    | none => do
      let _dead : Nat ← call (.writeDelivery deliveryId (.deadLettered none
        ("WebhookSubscription '" ++ claimed.subscriptionId ++ "' is not ACTIVE")))
      return ()
    | some subscription =>
      (postDelivery config deliveryId claimed subscription).handle (fun _ => return ())
        (failDelivery config deliveryId claimed subscription)

/-- `MarkWebhookDeliveryExhaustedUseCase.execute` -/
def markExhausted (deliveryId lastError : String) : WebhookProgram Unit := do
  let found : Option WebhookDelivery ← call (.findDelivery deliveryId)
  match found with
  | none => return ()
  | some delivery =>
    if delivery.status = .delivered ∨ delivery.status = .deadLetter then return ()
    else do
      let _dead : Nat ←
        call (.writeDelivery deliveryId (.deadLettered delivery.lastResponseCode lastError))
      call (.append (.deliveryExhausted delivery.id delivery.subscriptionId delivery.eventType
        delivery.tenantId))

/-- `WebhookReconciliation.reconcile` -/
def reconcile : WebhookProgram Unit := do
  let now ← readClock
  let stuck : List String ← call (.findStuck (now - config.reconciliationWindowMs))
  if stuck ≠ [] then do
    let _reset : Nat ← call (.resetDeliveries stuck)
  let now ← readClock
  let stale : List String ← call (.findStalePending (now - config.reconciliationWindowMs))
  Program.each (fun id : String => call (.enqueueDelivery id)) (stuck ++ stale).dedup

/-- `RedeliverWebhookUseCase.execute` -/
def redeliverWebhook (deliveryId : String) : WebhookProgram Unit := do
  let now ← readClock
  let count : Nat ← call (.writeDelivery deliveryId (.redelivery now))
  if count = 0 then .fail ("WebhookDelivery '" ++ deliveryId ++ "' not found")
  else do
    let reset : Option WebhookDelivery ← call (.findDelivery deliveryId)
    match reset with
    | none => .fail "No record was found for a query."
    | some reset => call (.enqueueDelivery reset.id)

/-- `CreateWebhookSubscriptionUseCase.execute` -/
def createSubscription (data : NewWebhookSubscription) : WebhookProgram Unit :=
  if ∀ eventType ∈ data.eventTypes, eventType ∈ config.eventTypes then do
    let id ← drawUUID
    let _created : WebhookSubscription ← call (.createSubscription data id)
    return ()
  else .fail "WebhookEventTypeNotAllowedError"

/-- `UpdateWebhookSubscriptionUseCase.execute` -/
def updateSubscription (id : String) (input : UpdateWebhookSubscriptionInput)
    (tenantId : Option String) : WebhookProgram Unit := do
  let found : Option WebhookSubscription ← call (.findSubscription id)
  match found with
  | none => .fail ("WebhookSubscription '" ++ id ++ "' not found")
  | some existing =>
    Program.lift (assertVisible existing.tenantId tenantId)
    if ∀ eventType ∈ input.eventTypes.getD [], eventType ∈ config.eventTypes then do
      let _updated : WebhookSubscription ← call (.writeSubscription id (.update input))
      return ()
    else .fail "WebhookEventTypeNotAllowedError"

/-- Who works on the tables: the dispatcher, the worker with its signal of exhaustion, the cron, and
the operators. -/
inductive WebhookEntry where
  | event (eventName : String) (envelope : Option MessageEnvelope)
  | deliver (deliveryId : String)
  | exhausted (deliveryId lastError : String)
  | reconcile
  | redeliver (deliveryId : String)
  | create (data : NewWebhookSubscription)
  | update (id : String) (input : UpdateWebhookSubscriptionInput) (tenantId : Option String)
  deriving DecidableEq

def WebhookEntry.program : WebhookEntry → WebhookProgram Unit
  | event eventName envelope => onEvent config eventName envelope
  | deliver deliveryId => deliverWebhook config deliveryId
  | exhausted deliveryId lastError => markExhausted deliveryId lastError
  | reconcile => Webhook.reconcile config
  | redeliver deliveryId => redeliverWebhook deliveryId
  | create data => createSubscription config data
  | update id input tenantId => updateSubscription config id input tenantId

abbrev webhookSystem : System :=
  worldSystem WebhookStatement.execute (WebhookEntry.program config)

end Programs

section Demo

/-- One event type, a threshold of two failures, and a window of 100 ms. -/
def demo : WebhookConfig := ⟨["order.created"], 1000, 2, 100, fun secret payload => secret ++ payload⟩

abbrev DemoPool := Pool (webhookSystem demo)

def quiet : DemoPool := ⟨⟨.empty, 0, []⟩, []⟩

/-- An operator subscribes, and an event comes. -/
def subscribed : List (Move (webhookSystem demo)) :=
  [.start (.create ⟨some "t", "url", "secret", ["order.created"]⟩), .serve 0 (.randomUUID "s"),
    .serve 0 (.statement .settled),
    .start (.event "order.created" (some ⟨some "e", some "t", "p"⟩)),
    .serve 1 (.statement .settled), .serve 1 (.randomUUID "d"), .serve 1 (.clock 0),
    .serve 1 (.statement .settled), .serve 1 (.statement .settled)]

/-- An attempt at its delivery, up to the answer to the post. -/
def attempt (i statusCode : Nat) : List (Move (webhookSystem demo)) :=
  [.start (.deliver "d"), .serve i (.clock 0), .serve i (.statement .settled),
    .serve i (.statement .settled), .serve i (.statement .settled),
    .serve i (.statement (.responds statusCode))]

end Demo

end DddBoilerplate.Webhook
