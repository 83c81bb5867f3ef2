/- module: DddBoilerplate/Webhook/Tenancy
   generality: I
   digest: Whose events reach whose subscriptions: by event type, and under the subscription's tenant. -/

import DddBoilerplate.Concurrency.Stops
import DddBoilerplate.Webhook.Histories
import DddBoilerplate.Webhook.Rows

set_option autoImplicit false
set_option relaxedAutoImplicit false
set_option linter.all false

namespace DddBoilerplate.Webhook

open Concurrency Store

variable {config : WebhookConfig}

section Statements

/-- A subscription that an event is fanned out to: active then, and declaring the type of it. -/
structure FoundActive (P : Pool (webhookSystem config)) (trace : List (Label (webhookSystem config)))
    (eventName : String) (subscription : WebhookSubscription) : Prop where
  reached : ∃ first rest R, trace = first ++ rest ∧ Run (fun _ _ => True) P first R ∧
    subscription ∈ R.store.db.subscriptions.rows
  active : subscription.status = .active
  declared : eventName ∈ subscription.eventTypes

/-- What is posted, and where: the payload of an event, to a subscription it was fanned out to that is
active still, under a delivery with the tenant of that subscription. -/
structure LawfulPost (P : Pool (webhookSystem config)) (trace : List (Label (webhookSystem config)))
    (url payload : String) (delivery : WebhookDelivery) (subscription found : WebhookSubscription)
    (eventName : String) (envelope : Option MessageEnvelope) : Prop where
  target : url = subscription.url
  content : payload = (envelope.map MessageEnvelope.payload).getD "{}"
  raised : ∃ j : Nat, (entries trace)[j]? = some (WebhookEntry.event eventName envelope)
  fanned : FoundActive P trace eventName found
  eventType : delivery.eventType = eventName
  tenantId : delivery.tenantId = found.tenantId
  same : subscription.id = found.id
  active : subscription.status = .active

/-- All that attempts post along a run. -/
def PostsLawfully (P : Pool (webhookSystem config)) (trace : List (Label (webhookSystem config))) :
    Prop :=
  ∀ first rest i url payload headers reply front S S',
    trace = first ++ .served i (.statement (.post url payload headers)) reply front :: rest →
      Run (fun _ _ => True) P first S → Step (webhookSystem config) S
        (.served i (.statement (.post url payload headers)) reply front) S' →
          ∃ delivery subscription found eventName envelope,
            (entries first)[i]? = some (.deliver delivery.id) ∧
              LawfulPost P first url payload delivery subscription found eventName envelope

/-- No subscription of the tenant declares the type, at any point of the run. -/
def Undeclared (P : Pool (webhookSystem config)) (trace : List (Label (webhookSystem config)))
    (tenant eventName : String) : Prop :=
  ∀ first rest R, trace = first ++ rest → Run (fun _ _ => True) P first R →
    ∀ row ∈ R.store.db.subscriptions.rows, row.tenantId = some tenant → eventName ∉ row.eventTypes

/-- The calls of the fan-outs of certain events, in their order, each with the event. -/
def fanOuts (certain : String → Bool) (trace : List (Label (webhookSystem config))) :
    List (WebhookEntry × WebhookCall) :=
  trace.filterMap fun l =>
    match l with
    | .served i q reply _ =>
      match (entries trace)[i]? with
      | some (.event eventName envelope) =>
        if certain eventName then some (.event eventName envelope, ⟨q, reply⟩) else none
      | _ => none
    | _ => none

/-- The delivery a call has made for the tenant. -/
def WebhookCall.made? (tenant : String) : WebhookCall → Option WebhookDelivery
  | ⟨.statement (.createDelivery _ _ _), reply⟩ =>
    (Reply.value? reply).join.filter fun row => row.tenantId = some tenant
  | _ => none

/-- The deliveries made for the tenant, in their order. -/
def deliveriesOf (tenant : String) (trace : List (Label (webhookSystem config))) :
    List WebhookDelivery :=
  trace.filterMap fun l =>
    match l with
    | .served _ q reply _ => WebhookCall.made? tenant ⟨q, reply⟩
    | _ => none

end Statements

section Origins

variable {P Q R : Pool (webhookSystem config)} {l : Label (webhookSystem config)}
variable {trace : List (Label (webhookSystem config))} {i : Nat} {id : String}

theorem MadeFor.snoc {eventName : String} {envelope : Option MessageEnvelope}
    {subscription : WebhookSubscription} {data : NewWebhookDelivery}
    (h : MadeFor (calls i trace) eventName envelope subscription data) :
    MadeFor (calls i (trace ++ [l])) eventName envelope subscription data :=
  h.mono fun _ => mem_calls_append

/-- Every delivery was made for an event and a subscription that was found for it. -/
theorem origin_of_run (hrun : Run (fun _ _ => True) P trace Q) (hthreads : P.threads = [])
    (hempty : P.store.db = .empty) {row : WebhookDelivery}
    (hget : Q.store.db.deliveries.get? id = some row) : ∃ j eventName envelope subscription,
      (entries trace)[j]? = some (.event eventName envelope) ∧
        MadeFor (calls j trace) eventName envelope subscription row.toNewWebhookDelivery := by
  induction hrun generalizing row with
  | nil =>
    rw [hempty] at hget
    cases hget
  | @snoc trace Q R l hrun _ hstep ih =>
    have hkept : ∀ {old : WebhookDelivery}, Q.store.db.deliveries.get? id = some old →
        row.toNewWebhookDelivery = old.toNewWebhookDelivery → ∃ j eventName envelope subscription,
          (entries (trace ++ [l]))[j]? = some (.event eventName envelope) ∧
            MadeFor (calls j (trace ++ [l])) eventName envelope subscription
              row.toNewWebhookDelivery := by
      intro old hold hsame
      obtain ⟨j, eventName, envelope, subscription, hentry, hmade⟩ := ih hold
      exact ⟨j, eventName, envelope, subscription, entry_append hentry, hsame ▸ hmade.snoc⟩
    rcases statement_of_step hstep with ⟨hsame, _⟩ | ⟨i, q, reply, front, choice, rfl, hexecute⟩
    · exact hkept (hsame ▸ hget) rfl
    · have hrow := deliveryStep_of_execute hexecute id
      generalize hcall : (⟨q, reply⟩ : Σ q : WebhookStatement, Reply q.Result) = call at hrow
      cases hrow with
      | kept call db' same => exact hkept (same ▸ hget) rfl
      | created data now reply db' absent there =>
        cases hcall
        cases there.symm.trans hget
        obtain ⟨entry, hentry, eventName, envelope, subscription, rfl, hmade⟩ :=
          because_of_entry accounted_entry hrun hthreads hstep
        exact ⟨i, eventName, envelope, subscription, entry_append hentry, hmade.snoc⟩
      | written write reply db' old hits found selected there =>
        cases there.symm.trans hget
        exact hkept found (write.change_new old)
      | reset ids reply db' old named hits found there =>
        cases there.symm.trans hget
        exact hkept found rfl

/-- What is found for an event is active, and declares its type. -/
theorem found_of_step {eventName : String} {rows : List WebhookSubscription}
    {front : Front WebhookStatement.interface.world}
    (hstep : Step (webhookSystem config) Q
      (.served i (.statement (.findActiveByEventType eventName)) (.ok rows) front) R)
    {row : WebhookSubscription} (hrow : row ∈ rows) :
    row ∈ Q.store.db.subscriptions.rows ∧ row.status = .active ∧ eventName ∈ row.eventTypes := by
  obtain ⟨choice, db, hexecute, _⟩ := serves_statement.mp hstep.answered
  have hactive : row ∈ Q.store.db.activeFor eventName := by
    cases choice with
    | settled =>
      cases hexecute
      exact hrow
    | arranged order =>
      dsimp only [WebhookStatement.execute] at hexecute
      split at hexecute
      · rename_i hperm
        cases hexecute
        exact (List.isPerm_iff.mp hperm).mem_iff.mp hrow
      · cases hexecute
    | responds | refused => cases hexecute
    | lost message =>
      simp [WebhookStatement.execute, WebhookStatement.perform, Reply.drop] at hexecute
  obtain ⟨hmem, hselected⟩ := List.mem_filter.mp hactive
  rw [Bool.and_eq_true, decide_eq_true_eq, decide_eq_true_eq] at hselected
  exact ⟨hmem, hselected⟩

theorem foundActive_of_made (hrun : Run (fun _ _ => True) P trace Q) {eventName : String}
    {envelope : Option MessageEnvelope} {subscription : WebhookSubscription}
    {data : NewWebhookDelivery}
    (h : MadeFor (calls i trace) eventName envelope subscription data) :
    FoundActive P trace eventName subscription := by
  obtain ⟨rows, hrow, hmem⟩ := h.found
  obtain ⟨front, hserved⟩ := mem_calls.mp hmem
  obtain ⟨first, rest, rfl⟩ := List.append_of_mem hserved
  obtain ⟨S, S', hbefore, _, hstep, _⟩ := run_of_append hrun
  obtain ⟨hthere, hactive, hdeclared⟩ := found_of_step hstep hrow
  exact ⟨⟨first, _, S, rfl, hbefore, hthere⟩, hactive, hdeclared⟩

/-- A row that was looked up was there. -/
theorem delivery_of_found (hrun : Run (fun _ _ => True) P trace Q) {row : WebhookDelivery}
    (h : (⟨.statement (.findDelivery id), .ok (some row)⟩ : WebhookCall) ∈ calls i trace) :
    ∃ first rest R, trace = first ++ rest ∧ Run (fun _ _ => True) P first R ∧
      R.store.db.deliveries.get? id = some row := by
  obtain ⟨front, hserved⟩ := mem_calls.mp h
  obtain ⟨first, rest, rfl⟩ := List.append_of_mem hserved
  obtain ⟨S, S', hbefore, _, hstep, _⟩ := run_of_append hrun
  exact ⟨first, _, S, rfl, hbefore, findDelivery_answers hstep⟩

theorem id_of_subscription_found (hrun : Run (fun _ _ => True) P trace Q)
    {row : WebhookSubscription}
    (h : (⟨.statement (.findSubscription id), .ok (some row)⟩ : WebhookCall) ∈ calls i trace) :
    row.id = id := by
  obtain ⟨front, hserved⟩ := mem_calls.mp h
  obtain ⟨first, rest, rfl⟩ := List.append_of_mem hserved
  obtain ⟨S, S', hbefore, _, hstep, _⟩ := run_of_append hrun
  exact Table.key_of_get? (findSubscription_answers hstep)

end Origins

section Posts

variable {P Q R : Pool (webhookSystem config)} {trace : List (Label (webhookSystem config))}
variable {i : Nat}

theorem FoundActive.later {later : List (Label (webhookSystem config))} {eventName : String}
    {subscription : WebhookSubscription} (h : FoundActive P trace eventName subscription) :
    FoundActive P (trace ++ later) eventName subscription where
  reached := by
    obtain ⟨first, rest, S, rfl, hrun, hmem⟩ := h.reached
    exact ⟨first, rest ++ later, S, List.append_assoc _ _ _, hrun, hmem⟩
  active := h.active
  declared := h.declared

/-- An attempt posts what the event of its delivery carried, to the subscription of its delivery. -/
theorem lawfulPost_of_step (hrun : Run (fun _ _ => True) P trace Q) (hthreads : P.threads = [])
    (hempty : P.store.db = .empty) {url payload : String} {headers : WebhookHeaders}
    {reply : Reply Nat} {front : Front WebhookStatement.interface.world}
    (hstep : Step (webhookSystem config) Q
      (.served i (.statement (.post url payload headers)) reply front) R) :
    ∃ delivery subscription found eventName envelope,
      (entries trace)[i]? = some (.deliver delivery.id) ∧
        LawfulPost P trace url payload delivery subscription found eventName envelope := by
  obtain ⟨entry, hentry, deliveryId, claimed, subscription, rfl, _, hclaimed, hsubscription,
    hactive, rfl, rfl, _⟩ := because_of_entry accounted_entry hrun hthreads hstep
  obtain ⟨first, rest, S, rfl, hfirst, hget⟩ := delivery_of_found hrun hclaimed
  obtain ⟨j, eventName, envelope, found, hraised, hmade⟩ :=
    origin_of_run hfirst hthreads hempty hget
  refine ⟨claimed, subscription, found, eventName, envelope, ?_, rfl, hmade.payload,
    ⟨j, entry_later hraised⟩, (foundActive_of_made hfirst hmade).later, hmade.eventType,
    hmade.tenantId, ?_, hactive⟩
  · rw [Table.key_of_get? hget]
    exact hentry
  · rw [id_of_subscription_found hrun hsubscription]
    exact hmade.subscriptionId

end Posts

section Pairs

variable {P Q : Pool (webhookSystem config)} {trace : List (Label (webhookSystem config))}
variable {i : Nat} {tenant : String}

/-- The row that comes back is the one that was made. -/
theorem created_of_step {Q R : Pool (webhookSystem config)} {data : NewWebhookDelivery}
    {id : String} {now : Nat} {reply : Reply (Option WebhookDelivery)}
    {front : Front WebhookStatement.interface.world} {row : WebhookDelivery}
    (hstep : Step (webhookSystem config) Q
      (.served i (.statement (.createDelivery data id now)) reply front) R)
    (hvalue : reply.value? = some (some row)) : row = WebhookDb.created id data now := by
  obtain ⟨choice, db, hexecute, _⟩ := serves_statement.mp hstep.answered
  rcases performed_of_execute hexecute with ⟨value, hsame, hperform⟩ | ⟨_, hnone⟩
  · cases hvalue.symm.trans hsame
    dsimp only [WebhookStatement.perform] at hperform
    split at hperform
    · cases hperform
    · split at hperform
      · cases hperform
      · obtain ⟨_, _, heq⟩ := Option.map_eq_some_iff.mp hperform
        cases heq
        rfl
  · rcases hnone with hnone | ⟨_, heq⟩ | ⟨_, _, _, heq⟩
    · cases hvalue.symm.trans hnone
    · cases heq
    · cases heq

/-- A delivery is made for a tenant by the fan-out of an event one of its subscriptions declares. -/
theorem fanned_of_made (hrun : Run (fun _ _ => True) P trace Q) (hthreads : P.threads = [])
    {q : WorldRequest WebhookStatement.interface} {reply : q.Answer}
    {front : Front WebhookStatement.interface.world} {row : WebhookDelivery}
    (hmem : .served i q reply front ∈ trace)
    (hmade : WebhookCall.made? tenant ⟨q, reply⟩ = some row) : ∃ eventName envelope,
      (entries trace)[i]? = some (.event eventName envelope) ∧
        ¬ Undeclared P trace tenant eventName := by
  unfold WebhookCall.made? at hmade
  split at hmade
  · rename_i data id now reply heq
    cases heq
    obtain ⟨hjoin, htenant⟩ := Option.filter_eq_some_iff.mp hmade
    obtain ⟨entry, hentry, earlier, hearlier, eventName, envelope, subscription, rfl, hdata⟩ :=
      because_of_call accounted_entry hrun hthreads hmem
    refine ⟨eventName, envelope, hentry, fun hundeclared => ?_⟩
    obtain ⟨⟨first, rest, S, heq, hfirst, hthere⟩, _, hdeclared⟩ :=
      foundActive_of_made hrun (hdata.mono hearlier)
    refine hundeclared first rest S heq hfirst subscription hthere ?_ hdeclared
    have hrow : row = WebhookDb.created id data now := by
      obtain ⟨before, after, rfl⟩ := List.append_of_mem hmem
      obtain ⟨S', S'', _, _, hstep, _⟩ := run_of_append hrun
      exact created_of_step hstep (Option.join_eq_some_iff.mp hjoin)
    rw [← hdata.tenantId]
    rw [hrow] at htenant
    exact of_decide_eq_true htenant
  · cases hmade

/-- The deliveries of a tenant are those its own fan-outs make. -/
theorem deliveriesOf_eq (hrun : Run (fun _ _ => True) P trace Q) (hthreads : P.threads = [])
    {certain : String → Bool}
    (hcertain : ∀ eventName, certain eventName = false → Undeclared P trace tenant eventName) :
    deliveriesOf tenant trace =
      (fanOuts certain trace).filterMap fun made => WebhookCall.made? tenant made.2 := by
  unfold deliveriesOf fanOuts
  rw [List.filterMap_filterMap]
  refine List.filterMap_congr fun l hmem => ?_
  cases l with
  | start entry => rfl
  | raised j q => rfl
  | served j q reply front =>
    simp only
    cases hmade : WebhookCall.made? tenant ⟨q, reply⟩ with
    | some row =>
      obtain ⟨eventName, envelope, hentry, hdeclared⟩ := fanned_of_made hrun hthreads hmem hmade
      have hcounted : certain eventName = true := by
        cases hcase : certain eventName with
        | true => rfl
        | false => exact absurd (hcertain eventName hcase) hdeclared
      rw [hentry]
      simp [hcounted, hmade]
    | none =>
      split
      · split
        · exact hmade.symm
        · rfl
      · rfl

end Pairs

section Demos

def ours : WebhookEntry := .create ⟨some "t", "url", "secret", ["order.created"]⟩

def theirs : WebhookEntry := .event "order.created" (some ⟨some "e", some "u", "p"⟩)

/-- A subscription of one tenant, and an event of another. -/
def strange : List (Move (webhookSystem demo)) :=
  [.start ours, .serve 0 (.randomUUID "s"), .serve 0 (.statement .settled), .start theirs,
    .serve 1 (.statement .settled), .serve 1 (.randomUUID "d"), .serve 1 (.clock 0),
    .serve 1 (.statement .settled), .serve 1 (.statement .settled)]

def postsTo (url payload : String) : Label (webhookSystem config) → Bool
  | .served _ (.statement (.post url' payload' _)) _ _ => decide (url' = url ∧ payload' = payload)
  | _ => false

end Demos

end DddBoilerplate.Webhook
