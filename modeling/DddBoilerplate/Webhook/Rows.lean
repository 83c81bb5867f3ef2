/- module: DddBoilerplate/Webhook/Rows
   generality: I
   digest: What one step does to the row of a delivery, and to that of a subscription. -/

import DddBoilerplate.Webhook.Deliveries

set_option autoImplicit false
set_option relaxedAutoImplicit false
set_option linter.all false

namespace DddBoilerplate.Webhook

open Concurrency Store

section Statements

variable {q : WebhookStatement} {choice : WebhookChoice} {db db' : WebhookDb} {id k : String}
variable {reply : Reply q.Result} {write : DeliveryWrite} {ids : List String}
variable {swrite : SubscriptionWrite}

/-- A statement that is refused changes nothing. -/
theorem answered_of_perform (h : q.perform db = some (reply, db')) :
    (∃ value, reply = .ok value) ∨ (∃ message, reply = .refused message) ∧ db' = db := by
  cases q with
  | createDelivery data id now =>
    dsimp only [WebhookStatement.perform] at h
    split at h
    · cases h
      exact .inr ⟨⟨_, rfl⟩, rfl⟩
    · split at h
      · cases h
        exact .inl ⟨_, rfl⟩
      · obtain ⟨_, _, heq⟩ := Option.map_eq_some_iff.mp h
        cases heq
        exact .inl ⟨_, rfl⟩
  | writeSubscription id write =>
    dsimp only [WebhookStatement.perform] at h
    split at h
    · cases h
      exact .inr ⟨⟨_, rfl⟩, rfl⟩
    · cases h
      exact .inl ⟨_, rfl⟩
  | createSubscription data id =>
    dsimp only [WebhookStatement.perform] at h
    split at h
    · cases h
      exact .inl ⟨_, rfl⟩
    · cases h
  | post url payload headers => cases h
  | findActiveByEventType | enqueueDelivery | findDelivery | writeDelivery | findStuck
    | resetDeliveries | findStalePending | findSubscription | append =>
    cases h
    exact .inl ⟨_, rfl⟩

/-- What took place was performed, but for the order of what was found and what a subscriber did. -/
theorem performed_of_execute (h : q.execute choice db = some (reply, db')) :
    (∃ value, reply.value? = some value ∧ q.perform db = some (.ok value, db')) ∨
      db' = db ∧ (reply.value? = none ∨ (∃ eventType, q = .findActiveByEventType eventType) ∨
        ∃ url payload headers, q = .post url payload headers) := by
  cases choice with
  | settled =>
    rcases answered_of_perform h with ⟨value, rfl⟩ | ⟨⟨message, rfl⟩, rfl⟩
    · exact .inl ⟨value, rfl, h⟩
    · exact .inr ⟨rfl, .inl rfl⟩
  | lost message =>
    obtain ⟨⟨result, after⟩, hperform, heq⟩ := Option.map_eq_some_iff.mp h
    cases heq
    rcases answered_of_perform hperform with ⟨value, rfl⟩ | ⟨⟨message, rfl⟩, rfl⟩
    · exact .inl ⟨value, rfl, hperform⟩
    · exact .inr ⟨rfl, .inl rfl⟩
  | refused message =>
    cases h
    exact .inr ⟨rfl, .inl rfl⟩
  | arranged rows =>
    cases q with
    | findActiveByEventType eventType =>
      dsimp only [WebhookStatement.execute] at h
      split at h
      · cases h
        exact .inr ⟨rfl, .inr (.inl ⟨eventType, rfl⟩)⟩
      · cases h
    | _ => cases h
  | responds statusCode =>
    cases q with
    | post url payload headers =>
      cases h
      exact .inr ⟨rfl, .inr (.inr ⟨url, payload, headers, rfl⟩)⟩
    | _ => cases h

/-- Whether a write hit a row. -/
def Reply.hits (reply : Reply Nat) : Bool := reply.value?.any (· ≠ 0)

theorem count_writeDelivery : (db.writeDelivery id write).1 ≠ 0 ↔
    ∃ row, db.deliveries.get? id = some row ∧ write.selects row = true := by
  have hpos : (db.writeDelivery id write).1 ≠ 0 ↔ 0 < db.deliveries.rows.countP
      fun row : WebhookDelivery => decide (row.id = id) && write.selects row := Nat.pos_iff_ne_zero.symm
  rw [hpos, List.countP_pos_iff]
  constructor
  · rintro ⟨row, hmem, hrow⟩
    rw [Bool.and_eq_true, decide_eq_true_eq] at hrow
    exact ⟨row, hrow.1 ▸ Table.get?_of_mem hmem, hrow.2⟩
  · rintro ⟨row, hget, hselects⟩
    refine ⟨row, Table.mem_of_get? hget, ?_⟩
    rw [Bool.and_eq_true, decide_eq_true_eq]
    exact ⟨Table.key_of_get? hget, hselects⟩

theorem get?_writeDelivery : (db.writeDelivery id write).2.deliveries.get? k =
    (db.deliveries.get? k).map fun row =>
      if k = id ∧ write.selects row = true then write.change row else row := by
  unfold WebhookDb.writeDelivery
  rw [Table.get?_updateMany]
  cases hget : db.deliveries.get? k with
  | none => rfl
  | some row =>
    have hkey : row.id = k := Table.key_of_get? hget
    simp [hkey]

theorem get?_resetDeliveries : (db.resetDeliveries ids).2.deliveries.get? k =
    (db.deliveries.get? k).map fun row => if k ∈ ids then resetRow row else row := by
  unfold WebhookDb.resetDeliveries
  rw [Table.get?_updateMany]
  cases hget : db.deliveries.get? k with
  | none => rfl
  | some row =>
    have hkey : row.id = k := Table.key_of_get? hget
    simp [hkey]

theorem get?_writeSubscription : (db.writeSubscription id swrite).subscriptions.get? k =
    (db.subscriptions.get? k).map fun row => if k = id then swrite.change row else row := by
  unfold WebhookDb.writeSubscription
  rw [Table.get?_updateMany]
  cases hget : db.subscriptions.get? k with
  | none => rfl
  | some row =>
    have hkey : row.id = k := Table.key_of_get? hget
    simp [hkey]

/-- A write to a delivery that hits changes the row it selects, and no other. -/
theorem writeDelivery_of_execute {reply : Reply Nat}
    (h : (WebhookStatement.writeDelivery id write).execute choice db = some (reply, db')) :
    db' = (if reply.value? = none then db else (db.writeDelivery id write).2) ∧
      (reply.hits = true ↔ reply.value? ≠ none ∧
        ∃ row, db.deliveries.get? id = some row ∧ write.selects row = true) := by
  rcases performed_of_execute h with ⟨value, hvalue, hperform⟩ | ⟨hsame, hnone⟩
  · cases hperform
    unfold Reply.hits
    rw [hvalue, if_neg (fun h => nomatch h)]
    refine ⟨rfl, ?_⟩
    rw [← count_writeDelivery]
    simp
  · have hvalue : reply.value? = none := by
      rcases hnone with hvalue | ⟨_, heq⟩ | ⟨_, _, _, heq⟩
      · exact hvalue
      · cases heq
      · cases heq
    unfold Reply.hits
    rw [hvalue]
    exact ⟨hsame, by simp⟩

end Statements

section Steps

variable {db db' : WebhookDb} {id : String}

/-- What a statement does to the row of a delivery. -/
inductive DeliveryStep (id : String) (db : WebhookDb) :
    (Σ q : WebhookStatement, Reply q.Result) → WebhookDb → Prop
  | kept (call : Σ q : WebhookStatement, Reply q.Result) (db' : WebhookDb)
      (same : db'.deliveries.get? id = db.deliveries.get? id) : DeliveryStep id db call db'
  | created (data : NewWebhookDelivery) (now : Nat) (reply : Reply (Option WebhookDelivery))
      (db' : WebhookDb) (absent : db.deliveries.get? id = none)
      (there : db'.deliveries.get? id = some (WebhookDb.created id data now)) :
      DeliveryStep id db ⟨.createDelivery data id now, reply⟩ db'
  | written (write : DeliveryWrite) (reply : Reply Nat) (db' : WebhookDb) (row : WebhookDelivery)
      (hits : reply.hits = true) (found : db.deliveries.get? id = some row)
      (selected : write.selects row = true)
      (there : db'.deliveries.get? id = some (write.change row)) :
      DeliveryStep id db ⟨.writeDelivery id write, reply⟩ db'
  | reset (ids : List String) (reply : Reply Nat) (db' : WebhookDb) (row : WebhookDelivery)
      (named : id ∈ ids) (hits : reply.hits = true) (found : db.deliveries.get? id = some row)
      (there : db'.deliveries.get? id = some (resetRow row)) :
      DeliveryStep id db ⟨.resetDeliveries ids, reply⟩ db'

theorem get?_of_insert {row : WebhookDelivery} (h : db.insertDelivery row = some db') :
    db.deliveries.get? row.id = none ∧ db'.subscriptions = db.subscriptions ∧
      ∀ k, db'.deliveries.get? k = if row.id = k then some row else db.deliveries.get? k := by
  unfold WebhookDb.insertDelivery at h
  split at h
  · split at h
    · rename_i hfree
      cases h
      exact ⟨hfree, rfl, fun k => Table.get?_insert hfree k⟩
    · cases h
  · cases h

theorem deliveryStep_of_execute {q : WebhookStatement} {choice : WebhookChoice}
    {reply : Reply q.Result} (h : q.execute choice db = some (reply, db')) (id : String) :
    DeliveryStep id db ⟨q, reply⟩ db' := by
  rcases performed_of_execute h with ⟨value, hvalue, hperform⟩ | ⟨rfl, _⟩
  · cases q with
    | writeDelivery id' write =>
      cases hperform
      obtain ⟨_, hhits⟩ := writeDelivery_of_execute h
      cases hget : db.deliveries.get? id with
      | none =>
        refine .kept _ _ ?_
        rw [get?_writeDelivery, hget]
        rfl
      | some row =>
        by_cases hselected : id = id' ∧ write.selects row = true
        · obtain ⟨rfl, hselects⟩ := hselected
          refine .written write reply _ row ?_ hget hselects ?_
          · exact hhits.mpr ⟨hvalue ▸ Option.some_ne_none _, row, hget, hselects⟩
          · rw [get?_writeDelivery, hget, Option.map_some, if_pos ⟨rfl, hselects⟩]
        · refine .kept _ _ ?_
          rw [get?_writeDelivery, hget, Option.map_some, if_neg hselected]
    | resetDeliveries ids =>
      cases hperform
      cases hget : db.deliveries.get? id with
      | none =>
        refine .kept _ _ ?_
        rw [get?_resetDeliveries, hget]
        rfl
      | some row =>
        by_cases hmem : id ∈ ids
        · refine .reset ids reply _ row hmem ?_ hget ?_
          · have hpos : 0 < db.deliveries.rows.countP fun row => decide (row.id ∈ ids) := by
              refine List.countP_pos_iff.mpr ⟨row, Table.mem_of_get? hget, ?_⟩
              rw [decide_eq_true_eq, Table.key_of_get? hget]
              exact hmem
            unfold Reply.hits
            rw [hvalue]
            exact decide_eq_true (Nat.pos_iff_ne_zero.mp hpos)
          · rw [get?_resetDeliveries, hget, Option.map_some, if_pos hmem]
        · refine .kept _ _ ?_
          rw [get?_resetDeliveries, hget, Option.map_some, if_neg hmem]
    | createDelivery data id' now =>
      dsimp only [WebhookStatement.perform] at hperform
      split at hperform
      · cases hperform
      · split at hperform
        · cases hperform
          exact .kept _ _ rfl
        · obtain ⟨after, hinsert, heq⟩ := Option.map_eq_some_iff.mp hperform
          cases heq
          obtain ⟨hfree, _, hget⟩ := get?_of_insert hinsert
          by_cases hid : id' = id
          · subst hid
            exact .created data now reply _ hfree ((hget _).trans (if_pos rfl))
          · exact .kept _ _ ((hget _).trans (if_neg hid))
    | createSubscription data id' =>
      dsimp only [WebhookStatement.perform] at hperform
      split at hperform
      · cases hperform
        exact .kept _ _ rfl
      · cases hperform
    | writeSubscription id' write =>
      dsimp only [WebhookStatement.perform] at hperform
      split at hperform
      · cases hperform
      · cases hperform
        exact .kept _ _ rfl
    | post url payload headers => cases hperform
    | findActiveByEventType | enqueueDelivery | findDelivery | findStuck | findStalePending
      | findSubscription | append =>
      cases hperform
      exact .kept _ _ rfl
  · exact .kept _ _ rfl

/-- A call that took place on the subscription. -/
def concerns (id : String) : (Σ q : WebhookStatement, Reply q.Result) → Bool
  | ⟨.createSubscription _ id', reply⟩ => decide (id' = id) && (Reply.value? reply).isSome
  | ⟨.writeSubscription id' _, reply⟩ => decide (id' = id) && (Reply.value? reply).isSome
  | _ => false

/-- What a statement does to the row of a subscription. -/
inductive SubscriptionStep (id : String) (db : WebhookDb) :
    (Σ q : WebhookStatement, Reply q.Result) → WebhookDb → Prop
  | kept (call : Σ q : WebhookStatement, Reply q.Result) (db' : WebhookDb)
      (unconcerned : concerns id call = false)
      (same : db'.subscriptions.get? id = db.subscriptions.get? id) : SubscriptionStep id db call db'
  | created (data : NewWebhookSubscription) (reply : Reply WebhookSubscription) (db' : WebhookDb)
      (took : reply.value? ≠ none) (absent : db.subscriptions.get? id = none)
      (there : db'.subscriptions.get? id = some ⟨data, id, .active, 0⟩) :
      SubscriptionStep id db ⟨.createSubscription data id, reply⟩ db'
  | written (write : SubscriptionWrite) (reply : Reply WebhookSubscription) (db' : WebhookDb)
      (row : WebhookSubscription) (took : reply.value? = some (write.change row))
      (found : db.subscriptions.get? id = some row)
      (there : db'.subscriptions.get? id = some (write.change row)) :
      SubscriptionStep id db ⟨.writeSubscription id write, reply⟩ db'

theorem subscriptionStep_of_execute {q : WebhookStatement} {choice : WebhookChoice}
    {reply : Reply q.Result} (h : q.execute choice db = some (reply, db')) (id : String) :
    SubscriptionStep id db ⟨q, reply⟩ db' := by
  rcases performed_of_execute h with ⟨value, hvalue, hperform⟩ | ⟨rfl, hnone⟩
  · cases q with
    | createSubscription data id' =>
      dsimp only [WebhookStatement.perform] at hperform
      split at hperform
      · rename_i hfree
        cases hperform
        by_cases hid : id' = id
        · subst hid
          refine .created data reply _ (hvalue ▸ Option.some_ne_none _) hfree ?_
          exact (Table.get?_insert hfree _).trans (if_pos rfl)
        · refine .kept _ _ ?_ ((Table.get?_insert hfree _).trans (if_neg hid))
          simp [concerns, hid]
      · cases hperform
    | writeSubscription id' write =>
      dsimp only [WebhookStatement.perform] at hperform
      split at hperform
      · cases hperform
      · rename_i row hget
        cases hperform
        by_cases hid : id' = id
        · subst hid
          refine .written write reply _ row hvalue hget ?_
          rw [get?_writeSubscription, hget, Option.map_some, if_pos rfl]
        · refine .kept _ _ ?_ ?_
          · simp [concerns, hid]
          · rw [get?_writeSubscription]
            cases db.subscriptions.get? id with
            | none => rfl
            | some row => rw [Option.map_some, if_neg (Ne.symm hid)]
    | createDelivery data id' now =>
      dsimp only [WebhookStatement.perform] at hperform
      split at hperform
      · cases hperform
      · split at hperform
        · cases hperform
          exact .kept _ _ rfl rfl
        · obtain ⟨after, hinsert, heq⟩ := Option.map_eq_some_iff.mp hperform
          cases heq
          exact .kept _ _ rfl (congrArg (·.get? id) (get?_of_insert hinsert).2.1)
    | post url payload headers => cases hperform
    | findActiveByEventType | enqueueDelivery | findDelivery | writeDelivery | findStuck
      | resetDeliveries | findStalePending | findSubscription | append =>
      cases hperform
      exact .kept _ _ rfl rfl
  · refine .kept _ _ ?_ rfl
    rcases hnone with hvalue | ⟨eventType, rfl⟩ | ⟨url, payload, headers, rfl⟩
    · unfold concerns
      split
      · rename_i heq
        cases heq
        simp [hvalue]
      · rename_i heq
        cases heq
        simp [hvalue]
      · rfl
    · rfl
    · rfl

end Steps

section Answers

variable {config : WebhookConfig} {Q R : Pool (webhookSystem config)} {i : Nat} {id : String}
variable {front : Front WebhookStatement.interface.world}

/-- What a row was looked up by its identifier came back with. -/
theorem findDelivery_answers {found : Option WebhookDelivery}
    (hstep : Step (webhookSystem config) Q
      (.served i (.statement (.findDelivery id)) (.ok found) front) R) :
    Q.store.db.deliveries.get? id = found := by
  obtain ⟨choice, db, hexecute, _⟩ := serves_statement.mp hstep.answered
  rcases performed_of_execute hexecute with ⟨value, hvalue, hperform⟩ | ⟨_, hnone⟩
  · cases hvalue
    simp only [WebhookStatement.perform, Option.some.injEq, Prod.mk.injEq, Reply.ok.injEq]
      at hperform
    exact hperform.1
  · rcases hnone with hnone | ⟨_, heq⟩ | ⟨_, _, _, heq⟩
    · cases hnone
    · cases heq
    · cases heq

theorem findSubscription_answers {found : Option WebhookSubscription}
    (hstep : Step (webhookSystem config) Q
      (.served i (.statement (.findSubscription id)) (.ok found) front) R) :
    Q.store.db.subscriptions.get? id = found := by
  obtain ⟨choice, db, hexecute, _⟩ := serves_statement.mp hstep.answered
  rcases performed_of_execute hexecute with ⟨value, hvalue, hperform⟩ | ⟨_, hnone⟩
  · cases hvalue
    simp only [WebhookStatement.perform, Option.some.injEq, Prod.mk.injEq, Reply.ok.injEq]
      at hperform
    exact hperform.1
  · rcases hnone with hnone | ⟨_, heq⟩ | ⟨_, _, _, heq⟩
    · cases hnone
    · cases heq
    · cases heq

end Answers

end DddBoilerplate.Webhook
