/- module: DddBoilerplate/Webhook/Histories
   generality: I
   digest: Why each call writes what it writes: what it was started for, and what it was answered before. -/

import DddBoilerplate.Concurrency.History
import DddBoilerplate.Webhook.Deliveries

set_option autoImplicit false
set_option relaxedAutoImplicit false
set_option linter.all false

namespace DddBoilerplate.Webhook

open Concurrency Store

abbrev WebhookCall := Call WebhookStatement.interface.world

/-- A call that has claimed its delivery. -/
def WebhookCall.claims : WebhookCall → Bool
  | ⟨.statement (.writeDelivery _ (.claim _)), _⟩ => true
  | _ => false

/-- A call that has given its delivery back. -/
def WebhookCall.fails : WebhookCall → Bool
  | ⟨.statement (.writeDelivery _ (.failedForRetry _ _ _)), _⟩ => true
  | _ => false

/-- A call that writes an event, or the status of a subscription, or the end of a delivery. -/
def WebhookCall.announces : WebhookCall → Bool
  | ⟨.statement (.append _), _⟩ => true
  | ⟨.statement (.writeSubscription _ (.update _)), _⟩ => true
  | ⟨.statement (.writeDelivery _ (.deadLettered _ _)), _⟩ => true
  | _ => false

/-- Nothing of the kind has been asked for. -/
def Free (kind : WebhookCall → Bool) (history : List WebhookCall) : Prop :=
  ∀ call ∈ history, kind call = false

/-- The call has claimed its delivery, and was told so. -/
def ClaimedIn (history : List WebhookCall) (id : String) : Prop :=
  ∃ now count, count ≠ 0 ∧
    (⟨.statement (.writeDelivery id (.claim now)), .ok count⟩ : WebhookCall) ∈ history

/-- It has claimed its delivery and not given it back. -/
structure Holding (history : List WebhookCall) (id : String) : Prop where
  claimed : ClaimedIn history id
  unfailed : Free WebhookCall.fails history

/-- What the breaker writes. -/
def pausing : SubscriptionWrite := .update ⟨none, none, none, some .paused⟩

/-- The row a delivery is made from, for an event and a subscription that was found for it. -/
structure MadeFor (history : List WebhookCall) (eventName : String)
    (envelope : Option MessageEnvelope) (subscription : WebhookSubscription)
    (data : NewWebhookDelivery) : Prop where
  found : ∃ rows, subscription ∈ rows ∧
    (⟨.statement (.findActiveByEventType eventName), .ok rows⟩ : WebhookCall) ∈ history
  tenantId : data.tenantId = subscription.tenantId
  subscriptionId : data.subscriptionId = subscription.id
  eventType : data.eventType = eventName
  payload : data.payload = (envelope.map MessageEnvelope.payload).getD "{}"
  eventId : ∀ eventId, envelope.bind MessageEnvelope.eventId = some eventId → data.eventId = eventId

/-- The breaker trips because of an answer that shows the subscription active, with that many
failures. -/
def TripsBecause (config : WebhookConfig) (history : List WebhookCall) (id : String) : Prop :=
  ∃ updated : WebhookSubscription,
    (⟨.statement (.writeSubscription id (.outcome false)), .ok updated⟩ : WebhookCall) ∈ history ∧
      updated.status = .active ∧ config.circuitBreakerThreshold ≤ updated.consecutiveFailures

def Because (config : WebhookConfig) (entry : WebhookEntry) (history : List WebhookCall) :
    WebhookStatement.interface.world.Request → Prop
  | .statement (.createDelivery data _ _) => ∃ eventName envelope subscription,
    entry = .event eventName envelope ∧ MadeFor history eventName envelope subscription data
  | .statement (.writeDelivery id (.claim _)) =>
    entry = .deliver id ∧ Free WebhookCall.claims history
  | .statement (.writeDelivery id (.delivered _)) => entry = .deliver id ∧ Holding history id
  | .statement (.writeDelivery id (.failedForRetry _ _ _)) =>
    entry = .deliver id ∧ Holding history id
  | .statement (.writeDelivery id (.deadLettered _ _)) =>
    entry = .deliver id ∧ Holding history id ∨
      (∃ lastError, entry = .exhausted id lastError) ∧ Free WebhookCall.announces history
  | .statement (.writeDelivery id (.redelivery _)) => entry = .redeliver id
  | .statement (.resetDeliveries _) => entry = .reconcile
  | .statement (.writeSubscription id (.update input)) =>
    (∃ tenantId, entry = .update id input tenantId) ∨
      (∃ deliveryId, entry = .deliver deliveryId) ∧ .update input = pausing ∧
        TripsBecause config history id ∧ Free WebhookCall.announces history
  | .statement (.writeSubscription _ (.outcome _)) => ∃ deliveryId, entry = .deliver deliveryId
  | .statement (.post url payload headers) => ∃ deliveryId claimed subscription,
    entry = .deliver deliveryId ∧ ClaimedIn history deliveryId ∧
      (⟨.statement (.findDelivery deliveryId), .ok (some claimed)⟩ : WebhookCall) ∈ history ∧
      (⟨.statement (.findSubscription claimed.subscriptionId), .ok (some subscription)⟩ :
        WebhookCall) ∈ history ∧
      subscription.status = .active ∧ url = subscription.url ∧ payload = claimed.payload ∧
      headers = ⟨config.sign subscription.secret claimed.payload, claimed.eventType, claimed.id⟩
  | .statement (.append (.deliveryExhausted deliveryId _ _ _)) =>
    ∃ id lastError row code error count, entry = .exhausted id lastError ∧
      (⟨.statement (.findDelivery id), .ok (some row)⟩ : WebhookCall) ∈ history ∧
      deliveryId = row.id ∧
      ∃ before, Free WebhookCall.announces before ∧ history = before ++
        [⟨.statement (.writeDelivery id (.deadLettered code error)), .ok count⟩]
  | .statement (.append (.subscriptionAutoPaused id _ _)) => ∃ deliveryId row,
    entry = .deliver deliveryId ∧ ∃ before, Free WebhookCall.announces before ∧
      history = before ++ [⟨.statement (.writeSubscription id pausing), .ok row⟩]
  | _ => True

section Accounting

variable {config : WebhookConfig} {entry : WebhookEntry} {history : List WebhookCall}
variable {post : List WebhookCall → Unit → Prop} {id : String}

theorem Free.snoc {kind : WebhookCall → Bool} {call : WebhookCall} (h : Free kind history)
    (hcall : kind call = false) : Free kind (history ++ [call]) := by
  intro call' hmem
  rcases List.mem_append.mp hmem with hmem | hmem
  · exact h call' hmem
  · rw [List.mem_singleton.mp hmem]
    exact hcall

theorem free_nil {kind : WebhookCall → Bool} : Free kind [] := by
  intro call hmem
  cases hmem

theorem ClaimedIn.mono {history' : List WebhookCall} (h : ClaimedIn history id)
    (hsubset : history ⊆ history') : ClaimedIn history' id := by
  obtain ⟨now, count, hcount, hmem⟩ := h
  exact ⟨now, count, hcount, hsubset hmem⟩

theorem ClaimedIn.snoc {call : WebhookCall} (h : ClaimedIn history id) :
    ClaimedIn (history ++ [call]) id := h.mono (List.subset_append_left _ _)

/-- A call whose exceptions are thrown goes on only with what it was answered. -/
theorem accounted_call {α : Type} {q : WebhookStatement}
    {next : Reply q.Result → WebhookProgram α} {post : List WebhookCall → α → Prop}
    (hbecause : Because config entry history (.statement q))
    (hok : ∀ a, Accounted (Because config entry) post (history ++ [⟨.statement q, .ok a⟩])
      (next (.ok a)))
    (hrefused : ∀ message, next (.refused message) = .fail message)
    (hlost : ∀ value message, next (.lost value message) = .fail message) :
    Accounted (Because config entry) post history (.ask (.statement q) next) := by
  refine ⟨hbecause, fun reply => ?_⟩
  cases reply with
  | ok a => exact hok a
  | refused message =>
    rw [hrefused]
    trivial
  | lost value message =>
    rw [hlost]
    trivial

section Fanning

variable {eventName : String} {envelope : Option MessageEnvelope}

theorem MadeFor.mono {history' : List WebhookCall} {subscription : WebhookSubscription}
    {data : NewWebhookDelivery} (h : MadeFor history eventName envelope subscription data)
    (hsubset : history ⊆ history') : MadeFor history' eventName envelope subscription data where
  found := by
    obtain ⟨rows, hrow, hmem⟩ := h.found
    exact ⟨rows, hrow, hsubset hmem⟩
  tenantId := h.tenantId
  subscriptionId := h.subscriptionId
  eventType := h.eventType
  payload := h.payload
  eventId := h.eventId

theorem accounted_createMany {datas : List NewWebhookDelivery}
    (hdatas : ∀ data ∈ datas, ∃ subscription,
      MadeFor history eventName envelope subscription data) :
    Accounted (Because config (.event eventName envelope)) (fun _ _ => True) history
      (createMany datas) := by
  induction datas generalizing history with
  | nil => trivial
  | cons data rest ih =>
    refine ⟨trivial, fun id => ⟨trivial, fun now =>
      accounted_call ?_ (fun created => ?_) (fun _ => rfl) fun _ _ => rfl⟩⟩
    · obtain ⟨subscription, hmade⟩ := hdatas data List.mem_cons_self
      exact ⟨eventName, envelope, subscription, rfl, hmade.mono (by simp)⟩
    · refine (ih fun data' hmem => ?_).bind fun _ _ _ => trivial
      obtain ⟨subscription, hmade⟩ := hdatas data' (List.mem_cons_of_mem _ hmem)
      exact ⟨subscription, hmade.mono (by simp)⟩

theorem accounted_dispatch {eventId payload : String}
    (hpayload : payload = (envelope.map MessageEnvelope.payload).getD "{}")
    (heventId : ∀ id, envelope.bind MessageEnvelope.eventId = some id → eventId = id) :
    Accounted (Because config (.event eventName envelope)) (fun _ _ => True) history
      (dispatchWebhookEvent eventName eventId payload) := by
  refine accounted_call trivial (fun found => ?_) (fun _ => rfl) fun _ _ => rfl
  refine (@accounted_createMany _ _ eventName envelope _ ?_).bind fun h created _ => ?_
  · intro data hmem
    obtain ⟨subscription, hsubscription, rfl⟩ := List.mem_map.mp hmem
    exact ⟨subscription, ⟨found, hsubscription, List.mem_append_right _
      (List.mem_singleton_self _)⟩, rfl, rfl, rfl, hpayload, heventId⟩
  · refine (@Accounted.each _ _ _ (fun _ => True) _ _ _ trivial fun delivery _ h _ => ?_).mono
      (fun _ _ h => h) fun _ _ _ => trivial
    refine ⟨trivial, fun reply => ?_⟩
    cases reply with
    | ok _ | refused _ | lost _ _ => trivial

end Fanning

section Attempts

variable {deliveryId : String} {claimed : WebhookDelivery} {subscription : WebhookSubscription}

/-- What an attempt carries once it has claimed its delivery. -/
structure Attempting (history : List WebhookCall) (deliveryId : String) : Prop where
  held : Holding history deliveryId
  quiet : Free WebhookCall.announces history

theorem Holding.snoc {call : WebhookCall} (h : Holding history deliveryId)
    (hcall : WebhookCall.fails call = false) : Holding (history ++ [call]) deliveryId :=
  ⟨h.claimed.snoc, h.unfailed.snoc hcall⟩

theorem Attempting.snoc {call : WebhookCall} (h : Attempting history deliveryId)
    (hfails : WebhookCall.fails call = false) (hcall : WebhookCall.announces call = false) :
    Attempting (history ++ [call]) deliveryId :=
  ⟨h.held.snoc hfails, h.quiet.snoc hcall⟩

theorem accounted_failDelivery {message : String} (h : Attempting history deliveryId) :
    Accounted (Because config (.deliver deliveryId)) (fun _ _ => True) history
      (failDelivery config deliveryId claimed subscription message) := by
  refine ⟨trivial, fun now => accounted_call ⟨rfl, h.held.snoc rfl⟩ (fun failed => ?_)
    (fun _ => rfl) fun _ _ => rfl⟩
  refine accounted_call ⟨deliveryId, rfl⟩ (fun updated => ?_) (fun _ => rfl) fun _ _ => rfl
  change Accounted _ _ _ (ite _ _ _)
  split
  · rename_i htrips
    refine accounted_call (.inr ⟨⟨deliveryId, rfl⟩, rfl, ⟨updated, ?_, htrips.1, htrips.2⟩,
      ((h.quiet.snoc rfl).snoc rfl).snoc rfl⟩) (fun paused => ?_) (fun _ => rfl) fun _ _ => rfl
    · exact List.mem_append_right _ (List.mem_singleton_self _)
    · refine accounted_call ?_ (fun _ => trivial) (fun _ => rfl) fun _ _ => rfl
      exact ⟨deliveryId, paused, rfl, _, ((h.quiet.snoc rfl).snoc rfl).snoc rfl, rfl⟩
  · trivial

theorem accounted_postDelivery (h : Attempting history deliveryId)
    (hclaimed : (⟨.statement (.findDelivery deliveryId), .ok (some claimed)⟩ : WebhookCall) ∈
      history)
    (hsubscription : (⟨.statement (.findSubscription claimed.subscriptionId),
      .ok (some subscription)⟩ : WebhookCall) ∈ history) (hactive : subscription.status = .active) :
    Accounted (Because config (.deliver deliveryId)) (fun _ _ => True) history
      ((postDelivery config deliveryId claimed subscription).handle (fun _ => return ())
        (failDelivery config deliveryId claimed subscription)) := by
  refine ⟨⟨deliveryId, claimed, subscription, rfl, h.held.claimed, hclaimed, hsubscription, hactive, rfl,
    rfl, rfl⟩, fun reply => ?_⟩
  cases reply with
  | refused message => exact accounted_failDelivery (h.snoc rfl rfl)
  | lost _ message => exact accounted_failDelivery (h.snoc rfl rfl)
  | ok statusCode =>
    change Accounted _ _ _ (Program.handle (ite _ _ _) _ _)
    split
    · refine ⟨⟨rfl, h.held.snoc rfl⟩, fun reply => ?_⟩
      cases reply with
      | refused message => exact accounted_failDelivery ((h.snoc rfl rfl).snoc rfl rfl)
      | lost _ message => exact accounted_failDelivery ((h.snoc rfl rfl).snoc rfl rfl)
      | ok delivered =>
        refine ⟨⟨deliveryId, rfl⟩, fun reply => ?_⟩
        cases reply with
        | refused message =>
          exact accounted_failDelivery (((h.snoc rfl rfl).snoc rfl rfl).snoc rfl rfl)
        | lost _ message =>
          exact accounted_failDelivery (((h.snoc rfl rfl).snoc rfl rfl).snoc rfl rfl)
        | ok updated => trivial
    · exact accounted_failDelivery (h.snoc rfl rfl)

theorem accounted_deliver : Accounted (Because config (.deliver deliveryId)) (fun _ _ => True) []
    (deliverWebhook config deliveryId) := by
  refine ⟨trivial, fun now => accounted_call ⟨rfl, free_nil.snoc rfl⟩ (fun count => ?_)
    (fun _ => rfl) fun _ _ => rfl⟩
  change Accounted _ _ _ (Program.bind (ite _ _ _) _)
  split
  · trivial
  · rename_i hcount
    have hstart : Attempting ([] ++ [⟨.clock, now⟩] ++ [(⟨.statement (.writeDelivery deliveryId
        (.claim now)), .ok count⟩ : WebhookCall)]) deliveryId :=
      ⟨⟨⟨now, count, hcount, List.mem_append_right _ (List.mem_singleton_self _)⟩,
        (free_nil.snoc rfl).snoc rfl⟩, (free_nil.snoc rfl).snoc rfl⟩
    refine accounted_call trivial (fun found => ?_) (fun _ => rfl) fun _ _ => rfl
    cases found with
    | none => trivial
    | some claimed =>
      refine accounted_call trivial (fun subscription? => ?_) (fun _ => rfl) fun _ _ => rfl
      dsimp only [Reply.toExcept, Program.lift, Program.bind]
      cases hactive : subscription?.filter (·.status = .active) with
      | none =>
        refine accounted_call ?_ (fun _ => trivial) (fun _ => rfl) fun _ _ => rfl
        exact .inl ⟨rfl, (hstart.held.snoc rfl).snoc rfl⟩
      | some subscription =>
        obtain ⟨rfl, hstatus⟩ := Option.filter_eq_some_iff.mp hactive
        refine accounted_postDelivery ((hstart.snoc rfl rfl).snoc rfl rfl) ?_ ?_ (of_decide_eq_true hstatus)
        · exact List.mem_append_left _ (List.mem_append_right _ (List.mem_singleton_self _))
        · exact List.mem_append_right _ (List.mem_singleton_self _)

end Attempts

section Others

theorem accounted_event {eventName : String} {envelope : Option MessageEnvelope} :
    Accounted (Because config (.event eventName envelope)) (fun _ _ => True) []
      (onEvent config eventName envelope) := by
  have hguarded : ∀ {history : List WebhookCall} {eventId : String},
      (∀ id, envelope.bind MessageEnvelope.eventId = some id → eventId = id) →
      Accounted (Because config (.event eventName envelope)) (fun _ _ => True) history
        ((dispatchWebhookEvent eventName eventId
          ((envelope.map MessageEnvelope.payload).getD "{}")).handle (fun _ => return ())
            fun _ => return ()) := by
    intro history eventId hid
    exact @Accounted.handle _ _ _ _ _ _ _ (fun _ => True) _ _ _ _ (accounted_dispatch rfl hid)
      trivial (fun _ _ _ _ _ => trivial) (fun _ _ h => h) (fun _ _ _ _ => trivial)
      fun _ _ _ => trivial
  unfold onEvent
  split
  · cases hid : envelope.bind MessageEnvelope.eventId with
    | some eventId =>
      refine hguarded fun id h => ?_
      cases hid.symm.trans h
      rfl
    | none =>
      refine ⟨trivial, fun eventId => hguarded fun id h => ?_⟩
      cases hid.symm.trans h
  · trivial

theorem accounted_exhausted {deliveryId lastError : String} :
    Accounted (Because config (.exhausted deliveryId lastError)) (fun _ _ => True) []
      (markExhausted deliveryId lastError) := by
  refine accounted_call trivial (fun found => ?_) (fun _ => rfl) fun _ _ => rfl
  cases found with
  | none => trivial
  | some delivery =>
    change Accounted _ _ _ (ite _ _ _)
    split
    · trivial
    · refine accounted_call (.inr ⟨⟨lastError, rfl⟩, free_nil.snoc rfl⟩) (fun count => ?_)
        (fun _ => rfl) fun _ _ => rfl
      refine accounted_call ?_ (fun _ => trivial) (fun _ => rfl) fun _ _ => rfl
      refine ⟨deliveryId, lastError, delivery, _, _, count, rfl, ?_, rfl, _, free_nil.snoc rfl, rfl⟩
      exact List.mem_append_left _ (List.mem_append_right _ (List.mem_singleton_self _))

theorem accounted_reconcile : Accounted (Because config .reconcile) (fun _ _ => True) []
    (reconcile config) := by
  have hrest : ∀ {history : List WebhookCall} {stuck : List String},
      Accounted (Because config .reconcile) (fun _ _ => True) history (do
        let now ← readClock
        let stale : List String ← call (.findStalePending (now - config.reconciliationWindowMs))
        Program.each (fun id : String => call (.enqueueDelivery id)) (stuck ++ stale).dedup) := by
    intro history stuck
    refine ⟨trivial, fun now => accounted_call trivial (fun stale => ?_) (fun _ => rfl)
      fun _ _ => rfl⟩
    refine (@Accounted.each _ _ _ (fun _ => True) _ _ _ trivial fun id _ h _ => ?_).mono
      (fun _ _ h => h) fun _ _ _ => trivial
    exact accounted_call trivial (fun _ => trivial) (fun _ => rfl) fun _ _ => rfl
  refine ⟨trivial, fun now => accounted_call trivial (fun stuck => ?_) (fun _ => rfl) fun _ _ => rfl⟩
  change Accounted _ _ _ (ite _ _ _)
  split
  · exact accounted_call rfl (fun _ => hrest) (fun _ => rfl) fun _ _ => rfl
  · exact hrest

theorem accounted_redeliver {deliveryId : String} :
    Accounted (Because config (.redeliver deliveryId)) (fun _ _ => True) []
      (redeliverWebhook deliveryId) := by
  refine ⟨trivial, fun now => accounted_call rfl (fun count => ?_) (fun _ => rfl) fun _ _ => rfl⟩
  change Accounted _ _ _ (ite _ _ _)
  split
  · trivial
  · refine accounted_call trivial (fun reset => ?_) (fun _ => rfl) fun _ _ => rfl
    cases reset with
    | none => trivial
    | some reset => exact accounted_call trivial (fun _ => trivial) (fun _ => rfl) fun _ _ => rfl

theorem accounted_create {data : NewWebhookSubscription} :
    Accounted (Because config (.create data)) (fun _ _ => True) []
      (createSubscription config data) := by
  unfold createSubscription
  split
  · exact ⟨trivial, fun id => accounted_call trivial (fun _ => trivial) (fun _ => rfl) fun _ _ => rfl⟩
  · trivial

theorem accounted_update {input : UpdateWebhookSubscriptionInput} {tenantId : Option String} :
    Accounted (Because config (.update id input tenantId)) (fun _ _ => True) []
      (updateSubscription config id input tenantId) := by
  refine accounted_call trivial (fun found => ?_) (fun _ => rfl) fun _ _ => rfl
  cases found with
  | none => trivial
  | some existing =>
    refine @accounted_lift_bind _ _ _ _ _ _ (Recurring.assertVisible existing.tenantId tenantId) _
      fun _ _ => ?_
    split
    · refine accounted_call ?_ (fun _ => trivial) (fun _ => rfl) fun _ _ => rfl
      exact .inl ⟨tenantId, rfl⟩
    · trivial

theorem accounted_entry (entry : WebhookEntry) :
    Accounted (Because config entry) (fun _ _ => True) [] (entry.program config) := by
  cases entry with
  | event eventName envelope => exact accounted_event
  | deliver deliveryId => exact accounted_deliver
  | exhausted deliveryId lastError => exact accounted_exhausted
  | reconcile => exact accounted_reconcile
  | redeliver deliveryId => exact accounted_redeliver
  | create data => exact accounted_create
  | update id input tenantId => exact accounted_update

end Others

end Accounting

end DddBoilerplate.Webhook
