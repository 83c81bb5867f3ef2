/- module: DddBoilerplate/Webhook/Breaker
   generality: I
   digest: The circuit breaker of a subscription against the record of what its attempts came to. -/

import DddBoilerplate.Concurrency.Exchange
import DddBoilerplate.Webhook.Histories
import DddBoilerplate.Webhook.Rows

set_option autoImplicit false
set_option relaxedAutoImplicit false
set_option linter.all false

namespace DddBoilerplate.Webhook

open Concurrency Store

variable {config : WebhookConfig}

section Tallies

/-- The status a subscription was last given, and the failed attempts since a successful one or since
it was made active again. -/
structure Tally where
  status : Option WebhookSubscriptionStatus
  failures : Nat
  deriving DecidableEq

def Tally.outcome (tally : Tally) (success : Bool) : Tally :=
  if success then { tally with failures := 0 } else { tally with failures := tally.failures + 1 }

def Tally.update (tally : Tally) (input : UpdateWebhookSubscriptionInput) : Tally where
  status := if input.status.isSome then input.status else tally.status
  failures :=
    if input.status = some .active ∧ tally.status ≠ some .active then 0 else tally.failures

/-- What a statement that took place adds to it. -/
def Tally.after (tally : Tally) : WebhookStatement → Tally
  | .createSubscription _ _ => ⟨some .active, 0⟩
  | .writeSubscription _ (.outcome success) => tally.outcome success
  | .writeSubscription _ (.update input) => tally.update input
  | _ => tally

def tallyStep (id : String) (tally : Tally) : Label (webhookSystem config) → Tally
  | .served _ (.statement q) reply _ => if concerns id ⟨q, reply⟩ then tally.after q else tally
  | _ => tally

/-- The record of a subscription along a trace. -/
def tallyOf (id : String) (trace : List (Label (webhookSystem config))) : Tally :=
  trace.foldl (tallyStep id) ⟨none, 0⟩

theorem tallyOf_snoc {id : String} {trace : List (Label (webhookSystem config))}
    {l : Label (webhookSystem config)} :
    tallyOf id (trace ++ [l]) = tallyStep id (tallyOf id trace) l := by
  unfold tallyOf
  rw [List.foldl_append, List.foldl_cons, List.foldl_nil]

end Tallies

section Lawful

/-- A call that gives a subscription a status, or clears its failures. -/
def Alters (id : String) : Label (webhookSystem config) → Prop
  | .served _ (.statement (.writeSubscription id' (.outcome true))) reply _ =>
    id' = id ∧ Reply.value? reply ≠ none
  | .served _ (.statement (.writeSubscription id' (.update input))) reply _ =>
    id' = id ∧ input.status ≠ none ∧ Reply.value? reply ≠ none
  | _ => False

/-- The thread records a failed attempt. -/
def RecordsFailure (i : Nat) (id : String) : Label (webhookSystem config) → Prop
  | .served j (.statement (.writeSubscription id' (.outcome false))) _ _ => j = i ∧ id' = id
  | _ => False

/-- The thread gives the subscription a status. -/
def Updates (i : Nat) (id : String) : Label (webhookSystem config) → Prop
  | .served j (.statement (.writeSubscription id' (.update _))) reply _ =>
    j = i ∧ id' = id ∧ Reply.value? reply ≠ none
  | _ => False

/-- The subscription an update makes active. -/
def activations : Label (webhookSystem config) → List String
  | .served _ (.statement (.writeSubscription id (.update input))) _ _ =>
    if input.status = some .active then [id] else []
  | _ => []

/-- A subscription is made active again only with no failures on its counter. -/
def Cleared (Q : Pool (webhookSystem config)) (l : Label (webhookSystem config)) : Prop :=
  ∀ id ∈ activations l, ∀ row ∈ Q.store.db.subscriptions.get? id,
    row.status = .active ∨ row.consecutiveFailures = 0

instance (Q : Pool (webhookSystem config)) (l : Label (webhookSystem config)) :
    Decidable (Cleared Q l) := by
  unfold Cleared
  infer_instance

/-- The call of an attempt breaks off between the breaker's write and its event. -/
def BreaksOff (i : Nat) : Label (webhookSystem config) → Prop
  | .served j (.statement (.writeSubscription _ (.update _))) (.lost _ _) _ => j = i
  | .served j (.statement (.append _)) (.refused _) _ => j = i
  | .raised j (.statement (.append _)) => j = i
  | _ => False

/-- No attempt breaks off between the breaker's write and its event. -/
def Uncut (trace : List (Label (webhookSystem config))) : Prop :=
  ∀ i deliveryId, (entries trace)[i]? = some (.deliver deliveryId) →
    ∀ l ∈ trace, ¬ BreaksOff i l

/-- Between the failure an attempt records and the breaker's write nobody gives the subscription a status
or clears its failures, and no attempt breaks off between that write and its event. -/
structure Undivided (trace : List (Label (webhookSystem config))) : Prop where
  between : ∀ first l rest l' later i id deliveryId, trace = first ++ l :: (rest ++ l' :: later) →
    (entries trace)[i]? = some (.deliver deliveryId) → RecordsFailure i id l → Updates i id l' →
      ∀ l'' ∈ rest, ¬ Alters id l''
  uncut : Uncut trace

/-- A call that pauses the subscription. -/
def WebhookCall.pauses (id : String) : WebhookCall → Bool
  | ⟨.statement (.writeSubscription id' (.update _)), reply⟩ =>
    decide (id' = id) && (Reply.value? reply).isSome
  | _ => false

/-- A call that writes an event of it. -/
def WebhookCall.announcesPaused (id : String) : WebhookCall → Bool
  | ⟨.statement (.append (.subscriptionAutoPaused id' _ _)), reply⟩ =>
    decide (id' = id) && (Reply.value? reply).isSome
  | _ => false

def WebhookDb.standing? (db : WebhookDb) (id : String) : Option WebhookSubscriptionStatus :=
  (db.subscriptions.get? id).map (·.status)

/-- A status an attempt gives its subscription: it pauses one that is active, after as many failures
as there must be. -/
def LawfulTrip (earlier : List (Label (webhookSystem config))) (Q : Pool (webhookSystem config))
    (l : Label (webhookSystem config)) (R : Pool (webhookSystem config)) : Prop :=
  ∀ i id deliveryId, (entries earlier)[i]? = some (.deliver deliveryId) → Updates i id l →
    Q.store.db.standing? id = some .active ∧ R.store.db.standing? id = some .paused ∧
      config.circuitBreakerThreshold ≤ (tallyOf id earlier).failures

/-- What the breaker may do along a run, and the events it writes. -/
structure LawfulBreaker (P : Pool (webhookSystem config))
    (trace : List (Label (webhookSystem config))) : Prop where
  trips : ∀ earlier l later Q R, trace = earlier ++ l :: later → Run Cleared P earlier Q →
    Cleared Q l → Step (webhookSystem config) Q l R → LawfulTrip earlier Q l R
  founded : ∀ i id, (calls i trace).countP (WebhookCall.announcesPaused id) ≠ 0 →
    ∃ deliveryId, (entries trace)[i]? = some (.deliver deliveryId)
  announced : ∀ i id deliveryId, (entries trace)[i]? = some (.deliver deliveryId) →
    (calls i trace).countP (WebhookCall.announcesPaused id) ≤
        (calls i trace).countP (WebhookCall.pauses id) ∧
      (Ended i trace → (calls i trace).countP (WebhookCall.announcesPaused id) =
        (calls i trace).countP (WebhookCall.pauses id))

end Lawful

section Records

variable {P Q R : Pool (webhookSystem config)} {l : Label (webhookSystem config)}
variable {trace : List (Label (webhookSystem config))} {i : Nat} {id : String}
variable {ok : Pool (webhookSystem config) → Label (webhookSystem config) → Prop}

/-- What a step of a run does to the row of a subscription. -/
theorem subscription_of_step (hstep : Step (webhookSystem config) Q l R) (id : String) :
    (R.store.db.subscriptions.get? id = Q.store.db.subscriptions.get? id ∧
      ∀ tally, tallyStep id tally l = tally) ∨
      ∃ i q reply front, l = .served i (.statement q) reply front ∧
        SubscriptionStep id Q.store.db ⟨q, reply⟩ R.store.db := by
  rcases statement_of_step hstep with ⟨hsame, hnot⟩ | ⟨i, q, reply, front, choice, rfl, hexecute⟩
  · refine .inl ⟨hsame ▸ rfl, fun tally => ?_⟩
    unfold tallyStep
    split
    · exact absurd rfl (hnot _ _ _ _)
    · rfl
  · exact .inr ⟨i, q, reply, front, rfl, subscriptionStep_of_execute hexecute id⟩

/-- The record tells the status of a subscription, and does not miss failures. -/
def Recorded (trace : List (Label (webhookSystem config))) (Q : Pool (webhookSystem config)) : Prop :=
  ∀ id row, Q.store.db.subscriptions.get? id = some row →
    (tallyOf id trace).status = some row.status ∧
      row.consecutiveFailures ≤ (tallyOf id trace).failures

theorem recorded_update {input : UpdateWebhookSubscriptionInput} {tally : Tally}
    {old : WebhookSubscription} {reply : Reply WebhookSubscription}
    {front : Front WebhookStatement.interface.world}
    (hok : Cleared Q (.served i (.statement (.writeSubscription id (.update input))) reply front))
    (hget : Q.store.db.subscriptions.get? id = some old) (hstatus : tally.status = some old.status)
    (hfailures : old.consecutiveFailures ≤ tally.failures) :
    (tally.update input).status = some ((SubscriptionWrite.update input).change old).status ∧
      ((SubscriptionWrite.update input).change old).consecutiveFailures ≤
        (tally.update input).failures := by
  constructor
  · cases hinput : input.status with
    | none => simp [Tally.update, SubscriptionWrite.change, hinput, hstatus]
    | some status => simp [Tally.update, SubscriptionWrite.change, hinput]
  · simp only [Tally.update, SubscriptionWrite.change]
    split
    · rename_i hactive
      obtain ⟨hinput, hnot⟩ := hactive
      have hmem : id ∈ activations
          (.served i (.statement (.writeSubscription id (.update input))) reply front :
            Label (webhookSystem config)) := by
        simp [activations, hinput]
      rcases hok id hmem old hget with hsame | hzero
      · exact absurd (hstatus.trans (congrArg some hsame)) hnot
      · exact Nat.le_of_eq hzero
    · exact hfailures

theorem Recorded.step (h : Recorded trace Q) (hok : Cleared Q l)
    (hstep : Step (webhookSystem config) Q l R) : Recorded (trace ++ [l]) R := by
  intro id row hget
  rw [tallyOf_snoc]
  rcases subscription_of_step hstep id with ⟨hsame, htally⟩ | ⟨i, q, reply, front, rfl, hrow⟩
  · rw [htally]
    exact h id row (hsame ▸ hget)
  · simp only [tallyStep]
    generalize hcall : (⟨q, reply⟩ : Σ q : WebhookStatement, Reply q.Result) = call at hrow ⊢
    cases hrow with
    | kept call db' unconcerned same =>
      rw [unconcerned, if_neg Bool.false_ne_true]
      exact h id row (same ▸ hget)
    | created data reply db' took absent there =>
      cases hcall
      have hconcerns : concerns id ⟨.createSubscription data id, reply⟩ = true := by
        simpa [concerns, Option.isSome_iff_ne_none] using took
      rw [hconcerns, if_pos rfl]
      cases there.symm.trans hget
      exact ⟨rfl, Nat.le_refl 0⟩
    | written write reply db' old took found there =>
      cases hcall
      have hconcerns : concerns id ⟨.writeSubscription id write, reply⟩ = true := by
        simp [concerns, took]
      rw [hconcerns, if_pos rfl]
      cases there.symm.trans hget
      obtain ⟨hstatus, hfailures⟩ := h id old found
      cases write with
      | outcome success =>
        cases success with
        | true => exact ⟨hstatus, Nat.le_refl 0⟩
        | false => exact ⟨hstatus, Nat.succ_le_succ hfailures⟩
      | update input => exact recorded_update hok found hstatus hfailures

theorem recorded_of_run (hrun : Run Cleared P trace Q) (hempty : P.store.db = .empty) :
    Recorded trace Q := by
  induction hrun with
  | nil =>
    intro id row hget
    rw [hempty] at hget
    cases hget
  | snoc _ hok hstep ih => exact ih.step hok hstep

/-- A subscription that nobody alters stays active, with no fewer failures. -/
theorem active_of_unaltered (hrun : Run ok P trace Q) (hnone : ∀ l ∈ trace, ¬ Alters id l)
    {row : WebhookSubscription} (hget : P.store.db.subscriptions.get? id = some row)
    (hactive : row.status = .active) : ∃ row', Q.store.db.subscriptions.get? id = some row' ∧
      row'.status = .active ∧ row.consecutiveFailures ≤ row'.consecutiveFailures := by
  induction hrun with
  | nil => exact ⟨row, hget, hactive, Nat.le_refl _⟩
  | @snoc trace Q R l _ _ hstep ih =>
    obtain ⟨row', hget', hactive', hle⟩ := ih fun l' hmem => hnone l' (List.mem_append_left _ hmem)
    have hlast : ¬ Alters id l := hnone l (List.mem_append_right _ (List.mem_singleton_self _))
    rcases subscription_of_step hstep id with ⟨hsame, _⟩ | ⟨j, q, reply, front, rfl, hrow⟩
    · exact ⟨row', hsame ▸ hget', hactive', hle⟩
    · generalize hcall : (⟨q, reply⟩ : Σ q : WebhookStatement, Reply q.Result) = call at hrow
      cases hrow with
      | kept call db' unconcerned same => exact ⟨row', same ▸ hget', hactive', hle⟩
      | created data reply db' took absent there => cases hget'.symm.trans absent
      | written write reply db' old took found there =>
        cases hget'.symm.trans found
        cases hcall
        have htook : Reply.value? reply ≠ none := took ▸ Option.some_ne_none _
        cases write with
        | outcome success =>
          cases success with
          | true => exact absurd ⟨rfl, htook⟩ hlast
          | false => exact ⟨_, there, hactive', Nat.le_succ_of_le hle⟩
        | update input =>
          cases hinput : input.status with
          | some status => exact absurd ⟨rfl, by simp [hinput], htook⟩ hlast
          | none =>
            refine ⟨_, there, ?_, hle⟩
            simp [SubscriptionWrite.change, hinput, hactive']

/-- A write that took place comes back with the row as it left it. -/
theorem wrote_of_step {write : SubscriptionWrite} {reply : Reply WebhookSubscription}
    {front : Front WebhookStatement.interface.world} {value : WebhookSubscription}
    (hstep : Step (webhookSystem config) Q
      (.served i (.statement (.writeSubscription id write)) reply front) R)
    (hvalue : reply.value? = some value) : ∃ row, Q.store.db.subscriptions.get? id = some row ∧
      value = write.change row ∧ R.store.db.subscriptions.get? id = some value := by
  have hconcerns : concerns id ⟨.writeSubscription id write, reply⟩ = true := by
    simp [concerns, hvalue]
  obtain ⟨choice, db, hexecute, hstore⟩ := serves_statement.mp hstep.answered
  have hrow := subscriptionStep_of_execute hexecute id
  rw [hstore]
  generalize hcall : (⟨.writeSubscription id write, reply⟩ :
    Σ q : WebhookStatement, Reply q.Result) = call at hrow hconcerns
  cases hrow with
  | kept call db' unconcerned same =>
    rw [unconcerned] at hconcerns
    cases hconcerns
  | created data reply db' took absent there => cases hcall
  | written write reply db' old took found there =>
    cases hcall
    obtain rfl := Option.some.inj (hvalue.symm.trans took)
    exact ⟨old, found, rfl, there⟩

/-- The breaker trips on an active subscription that has failed often enough. -/
theorem trips_of_step (hrun : Run Cleared P trace Q) (hthreads : P.threads = [])
    (hempty : P.store.db = .empty) {deliveryId : String}
    (hentry : (entries trace)[i]? = some (.deliver deliveryId))
    (hstep : Step (webhookSystem config) Q l R) (hupdates : Updates i id l)
    (hbetween : ∀ first l' rest, trace = first ++ l' :: rest → RecordsFailure i id l' →
      ∀ l'' ∈ rest, ¬ Alters id l'') :
    Q.store.db.standing? id = some .active ∧ R.store.db.standing? id = some .paused ∧
      config.circuitBreakerThreshold ≤ (tallyOf id trace).failures := by
  cases l with
  | start entry => exact hupdates.elim
  | raised j q => exact hupdates.elim
  | served j q reply front =>
    unfold Updates at hupdates
    split at hupdates
    · rename_i heq
      cases heq
      obtain ⟨rfl, rfl, htook⟩ := hupdates
      obtain ⟨entry, hown, hbecause⟩ := because_of_entry accounted_entry hrun hthreads hstep
      cases hentry.symm.trans hown
      rcases hbecause with ⟨_, heq⟩ | ⟨_, hpausing, ⟨updated, hmem, hactive, hthreshold⟩, _⟩
      · cases heq
      · obtain ⟨front', hserved⟩ := mem_calls.mp hmem
        obtain ⟨first, rest, rfl⟩ := List.append_of_mem hserved
        obtain ⟨S, S', _, _, hrecord, hafter⟩ := run_of_append hrun
        obtain ⟨_, _, _, hget⟩ := wrote_of_step hrecord rfl
        obtain ⟨row, hrow, hstatus, hle⟩ := active_of_unaltered hafter
          (hbetween first _ rest rfl ⟨rfl, rfl⟩) hget hactive
        obtain ⟨value, hvalue⟩ := Option.ne_none_iff_exists'.mp htook
        obtain ⟨row', hrow', rfl, hpaused⟩ := wrote_of_step hstep hvalue
        cases hrow.symm.trans hrow'
        unfold WebhookDb.standing?
        rw [hrow, hpaused]
        obtain rfl := SubscriptionWrite.update.inj hpausing
        refine ⟨congrArg some hstatus, rfl, ?_⟩
        exact (hthreshold.trans hle).trans ((recorded_of_run hrun hempty) _ row hrow).2
    · exact hupdates.elim

end Records

section Events

variable {P Q R : Pool (webhookSystem config)} {l : Label (webhookSystem config)}
variable {trace : List (Label (webhookSystem config))} {i : Nat} {id deliveryId : String}
variable {ok : Pool (webhookSystem config) → Label (webhookSystem config) → Prop}

/-- A call after which the event is due. -/
def WebhookCall.suspends : WebhookCall → Bool
  | ⟨.statement (.writeSubscription _ (.update _)), .ok _⟩ => true
  | _ => false

/-- An attempt may be stopped at its event; elsewhere none is due. -/
def announcing : WebhookEntry → WebhookStatement.interface.world.Request → Bool
  | .deliver _, .statement (.append _) => true
  | _, _ => false

def Announced : WebhookEntry → List WebhookCall → Prop
  | .deliver _, history => ∀ before call, history = before ++ [call] → call.suspends = false
  | _, _ => True

theorem announced_snoc {history : List WebhookCall} {call : WebhookCall}
    (h : call.suspends = false) : Announced (.deliver deliveryId) (history ++ [call]) := by
  intro before call' heq
  obtain ⟨_, hlast⟩ := List.append_inj' heq rfl
  rw [← List.singleton_inj.mp hlast]
  exact h

theorem suspends_of_thrown {q : WebhookStatement} {reply : Reply q.Result}
    (h : ∀ value, reply ≠ .ok value) :
    WebhookCall.suspends ⟨.statement q, reply⟩ = false := by
  unfold WebhookCall.suspends
  split
  · rename_i heq
    cases heq
    exact absurd rfl (h _)
  · rfl

/-- A call whose exceptions are thrown ends with nothing due when it throws. -/
theorem concludes_call {history : List WebhookCall} {q : WebhookStatement}
    {next : Reply q.Result → WebhookProgram Unit}
    (hdue : announcing (.deliver deliveryId) (.statement q) = true ∨
      Announced (.deliver deliveryId) history)
    (hok : ∀ a, Concludes (announcing (.deliver deliveryId)) (Announced (.deliver deliveryId))
      (history ++ [⟨.statement q, .ok a⟩]) (next (.ok a)))
    (hrefused : ∀ message, next (.refused message) = .fail message)
    (hlost : ∀ value message, next (.lost value message) = .fail message) :
    Concludes (announcing (.deliver deliveryId)) (Announced (.deliver deliveryId)) history
      (.ask (.statement q) next) := by
  refine ⟨hdue, fun reply => ?_⟩
  cases reply with
  | ok a => exact hok a
  | refused message =>
    rw [hrefused]
    exact announced_snoc (suspends_of_thrown (by rintro value ⟨⟩))
  | lost value message =>
    rw [hlost]
    exact announced_snoc (suspends_of_thrown (by rintro value ⟨⟩))

theorem announced_nil : Announced (.deliver deliveryId) [] := by
  intro before call heq
  simp at heq

variable {claimed : WebhookDelivery} {subscription : WebhookSubscription}

theorem concludes_failDelivery {history : List WebhookCall} {message : String}
    (h : Announced (.deliver deliveryId) history) :
    Concludes (announcing (.deliver deliveryId)) (Announced (.deliver deliveryId)) history
      (failDelivery config deliveryId claimed subscription message) := by
  refine ⟨.inr h, fun now => concludes_call (.inr (announced_snoc rfl)) (fun failed => ?_)
    (fun _ => rfl) fun _ _ => rfl⟩
  refine concludes_call (.inr (announced_snoc rfl)) (fun updated => ?_) (fun _ => rfl)
    fun _ _ => rfl
  change Concludes _ _ _ (ite _ _ _)
  split
  · refine concludes_call (.inr (announced_snoc rfl)) (fun paused => ?_) (fun _ => rfl)
      fun _ _ => rfl
    exact concludes_call (.inl rfl) (fun _ => announced_snoc rfl) (fun _ => rfl) fun _ _ => rfl
  · exact announced_snoc rfl

theorem concludes_postDelivery {history : List WebhookCall}
    (h : Announced (.deliver deliveryId) history) :
    Concludes (announcing (.deliver deliveryId)) (Announced (.deliver deliveryId)) history
      ((postDelivery config deliveryId claimed subscription).handle (fun _ => return ())
        (failDelivery config deliveryId claimed subscription)) := by
  refine ⟨.inr h, fun reply => ?_⟩
  cases reply with
  | refused message => exact concludes_failDelivery (announced_snoc rfl)
  | lost value message => exact concludes_failDelivery (announced_snoc rfl)
  | ok statusCode =>
    change Concludes _ _ _ (Program.handle (ite _ _ _) _ _)
    split
    · refine ⟨.inr (announced_snoc rfl), fun reply => ?_⟩
      cases reply with
      | refused message => exact concludes_failDelivery (announced_snoc rfl)
      | lost value message => exact concludes_failDelivery (announced_snoc rfl)
      | ok delivered =>
        refine ⟨.inr (announced_snoc rfl), fun reply => ?_⟩
        cases reply with
        | refused message => exact concludes_failDelivery (announced_snoc rfl)
        | lost value message => exact concludes_failDelivery (announced_snoc rfl)
        | ok updated => exact announced_snoc rfl
    · exact concludes_failDelivery (announced_snoc rfl)

theorem concludes_deliver : Concludes (announcing (.deliver deliveryId))
    (Announced (.deliver deliveryId)) [] (deliverWebhook config deliveryId) := by
  refine ⟨.inr announced_nil, fun now => concludes_call (.inr (announced_snoc rfl))
    (fun count => ?_) (fun _ => rfl) fun _ _ => rfl⟩
  change Concludes _ _ _ (Program.bind (ite _ _ _) _)
  split
  · exact announced_snoc rfl
  · refine concludes_call (.inr (announced_snoc rfl)) (fun found => ?_) (fun _ => rfl)
      fun _ _ => rfl
    cases found with
    | none => exact announced_snoc rfl
    | some claimed =>
      refine concludes_call (.inr (announced_snoc rfl)) (fun subscription? => ?_) (fun _ => rfl)
        fun _ _ => rfl
      dsimp only [Reply.toExcept, Program.lift, Program.bind]
      cases subscription?.filter (·.status = .active) with
      | none =>
        exact concludes_call (.inr (announced_snoc rfl)) (fun _ => announced_snoc rfl)
          (fun _ => rfl) fun _ _ => rfl
      | some subscription => exact concludes_postDelivery (announced_snoc rfl)

theorem concludes_attempts (entry : WebhookEntry) :
    Concludes (announcing entry) (Announced entry) [] (entry.program config) := by
  cases entry with
  | deliver deliveryId => exact concludes_deliver
  | event | exhausted | reconcile | redeliver | create | update =>
    exact concludes_of_all fun _ => trivial

theorem Uncut.left {later : List (Label (webhookSystem config))} (h : Uncut (trace ++ later)) :
    Uncut trace :=
  fun i deliveryId hentry l hmem =>
    h i deliveryId (entry_later hentry) l (List.mem_append_left _ hmem)

theorem Uncut.uninterrupted (h : Uncut trace) :
    @Uninterrupted (webhookSystem config) announcing Announced trace := by
  rintro earlier i q e later rfl hentry hexempt
  unfold announcing at hexempt
  split at hexempt
  · exact absurd rfl (h i _ (entry_later hentry) _ (List.mem_append_right _ List.mem_cons_self))
  · cases hexempt

theorem countP_pauses_of_free {history : List WebhookCall}
    (h : Free WebhookCall.announces history) :
    history.countP (WebhookCall.pauses id) = 0 ∧
      history.countP (WebhookCall.announcesPaused id) = 0 := by
  constructor
  · refine List.countP_eq_zero.mpr fun call hmem hpauses => ?_
    have hfree := h call hmem
    unfold WebhookCall.pauses at hpauses
    split at hpauses
    · cases hfree
    · cases hpauses
  · refine List.countP_eq_zero.mpr fun call hmem hannounces => ?_
    have hfree := h call hmem
    unfold WebhookCall.announcesPaused at hannounces
    split at hannounces
    · cases hfree
    · cases hannounces

/-- What an attempt appends is the event of the subscription it has just paused. -/
theorem appended_of_attempt (hrun : Run ok P trace Q) (hthreads : P.threads = [])
    (hentry : (entries trace)[i]? = some (.deliver deliveryId)) {event : WebhookEvent}
    {reply : Reply Unit} {front : Front WebhookStatement.interface.world}
    (hstep : Step (webhookSystem config) Q (.served i (.statement (.append event)) reply front) R) :
    ∃ id tenantId reason row before, event = .subscriptionAutoPaused id tenantId reason ∧
      Free WebhookCall.announces before ∧ calls i trace = before ++
        [⟨.statement (.writeSubscription id pausing), .ok row⟩] := by
  obtain ⟨entry, hown, hbecause⟩ := because_of_entry accounted_entry hrun hthreads hstep
  cases hentry.symm.trans hown
  cases event with
  | deliveryExhausted =>
    obtain ⟨_, _, _, _, _, _, heq, _⟩ := hbecause
    cases heq
  | subscriptionAutoPaused id tenantId reason =>
    obtain ⟨_, row, _, before, hfree, hhistory⟩ := hbecause
    exact ⟨id, tenantId, reason, row, before, rfl, hfree, hhistory⟩

/-- A pause that took place comes back. -/
theorem suspends_of_pauses (huncut : Uncut trace)
    (hentry : (entries trace)[i]? = some (.deliver deliveryId)) {call : WebhookCall}
    (hmem : call ∈ calls i trace) (hpauses : WebhookCall.pauses id call = true) :
    call.suspends = true := by
  obtain ⟨q, reply⟩ := call
  obtain ⟨front, hserved⟩ := mem_calls.mp hmem
  unfold WebhookCall.pauses at hpauses
  split at hpauses
  · rename_i key input reply heq
    cases heq
    cases reply with
    | ok row => rfl
    | refused message => simp [Reply.value?] at hpauses
    | lost row message => exact absurd rfl (huncut i deliveryId hentry _ hserved)
  · cases hpauses

theorem pauses_balanced (hrun : Run ok P trace Q) (hthreads : P.threads = [])
    (huncut : Uncut trace) (hentry : (entries trace)[i]? = some (.deliver deliveryId)) :
    Balanced (WebhookCall.pauses id) (WebhookCall.announcesPaused id) (calls i trace) := by
  refine balanced_of_steps hrun fun earlier q reply front later S S' heq hfirst hstep h => ?_
  subst heq
  have hbefore := huncut.left
  obtain ⟨entry, hown, hbecause⟩ := because_of_entry accounted_entry hfirst hthreads hstep
  cases (entry_later hown).symm.trans hentry
  refine h.snoc (fun hmark => ?_) (fun hanswer => ?_) fun before last hhistory hlast => ?_
  · unfold WebhookCall.pauses at hmark
    split at hmark
    · rename_i key input reply heq
      cases heq
      rcases hbecause with ⟨_, heq⟩ | ⟨_, _, _, hfree⟩
      · cases heq
      · obtain ⟨hpauses, hannounces⟩ := @countP_pauses_of_free id _ hfree
        exact ⟨rfl, hpauses.trans hannounces.symm⟩
    · cases hmark
  · unfold WebhookCall.announcesPaused at hanswer
    split at hanswer
    · rename_i key tenantId reason reply heq
      cases heq
      rw [Bool.and_eq_true, decide_eq_true_eq] at hanswer
      obtain ⟨key', _, _, row, before, heq, hfree, hhistory⟩ :=
        appended_of_attempt hfirst hthreads hown hstep
      cases heq
      obtain ⟨hpauses, hannounces⟩ := @countP_pauses_of_free id before hfree
      refine ⟨rfl, ?_⟩
      rw [hhistory, countP_snoc, countP_snoc, hpauses, hannounces]
      simp [WebhookCall.pauses, WebhookCall.announcesPaused, pausing, Reply.value?, hanswer.1]
    · cases hanswer
  · have hsuspends := suspends_of_pauses hbefore hown
      (hhistory ▸ List.mem_append_right _ (List.mem_singleton_self _)) hlast
    rcases final_of_served concludes_attempts hfirst hthreads hbefore.uninterrupted hown hstep with
      hexempt | hannounced
    · unfold announcing at hexempt
      split at hexempt
      · obtain ⟨key, tenantId, reason, row, before', rfl, _, hhistory'⟩ :=
          appended_of_attempt hfirst hthreads hown hstep
        obtain ⟨_, hsame⟩ := List.append_inj' (hhistory.symm.trans hhistory') rfl
        obtain rfl := List.singleton_inj.mp hsame
        have hkey : key = id := by
          simpa [WebhookCall.pauses, pausing, Reply.value?] using hlast
        cases reply with
        | refused message =>
          exact absurd rfl (huncut i _ hentry _ (List.mem_append_right _ List.mem_cons_self))
        | ok value => simp [WebhookCall.announcesPaused, Reply.value?, hkey]
        | lost value message => simp [WebhookCall.announcesPaused, Reply.value?, hkey]
      · cases hexempt
    · rw [hannounced before last hhistory] at hsuspends
      cases hsuspends

/-- An attempt that has ended has written the event of each pause of its own. -/
theorem pauses_of_ended (hrun : Run ok P trace Q) (hthreads : P.threads = [])
    (huncut : Uncut trace) (hentry : (entries trace)[i]? = some (.deliver deliveryId))
    (hended : Ended i trace) : (calls i trace).countP (WebhookCall.announcesPaused id) =
      (calls i trace).countP (WebhookCall.pauses id) := by
  rcases @pauses_balanced _ _ _ _ _ id _ _ hrun hthreads huncut hentry with
    hequal | ⟨_, before, last, hhistory, hlast⟩
  · exact hequal.symm
  · have hsuspends := suspends_of_pauses huncut hentry
      (hhistory ▸ List.mem_append_right _ (List.mem_singleton_self _)) hlast
    have hannounced := final_of_ended concludes_attempts hrun hthreads huncut.uninterrupted
      hentry hended
    rw [hannounced before last hhistory] at hsuspends
    cases hsuspends

theorem paused_founded (hrun : Run ok P trace Q) (hthreads : P.threads = [])
    (hannounced : (calls i trace).countP (WebhookCall.announcesPaused id) ≠ 0) :
    ∃ deliveryId, (entries trace)[i]? = some (.deliver deliveryId) := by
  obtain ⟨⟨q, reply⟩, hmem, hcall⟩ := List.countP_pos_iff.mp (Nat.pos_of_ne_zero hannounced)
  obtain ⟨front, hserved⟩ := mem_calls.mp hmem
  unfold WebhookCall.announcesPaused at hcall
  split at hcall
  · rename_i heq
    cases heq
    obtain ⟨entry, hentry, _, _, deliveryId, _, rfl, _⟩ :=
      because_of_call accounted_entry hrun hthreads hserved
    exact ⟨deliveryId, hentry⟩
  · cases hcall

end Events

section Demos

/-- The rest of an attempt that has failed, up to the record of it. -/
def fails (i : Nat) : List (Move (webhookSystem demo)) :=
  attempt i 500 ++
    ([.serve i (.clock 0), .serve i (.statement .settled), .serve i (.statement .settled)] :
      List (Move (webhookSystem demo)))

/-- Two attempts that fail: the second trips the breaker. -/
def tripped : List (Move (webhookSystem demo)) :=
  subscribed ++ fails 2 ++ fails 3 ++
    ([.serve 3 (.statement .settled), .serve 3 (.statement .settled)] :
      List (Move (webhookSystem demo)))

theorem updates_of_call {l : Label (webhookSystem config)} {i : Nat} {id : String}
    (h : (l.call? i).any (WebhookCall.pauses id) = true) : Updates i id l := by
  cases l with
  | start entry => cases h
  | raised j q => cases h
  | served j q reply front =>
    simp only [Label.call?] at h
    split at h
    · rename_i hj
      simp only [Option.any_some] at h
      unfold WebhookCall.pauses at h
      split at h
      · rename_i heq
        cases heq
        simp only [Bool.and_eq_true, decide_eq_true_eq, Option.isSome_iff_ne_none] at h
        exact ⟨hj, h⟩
      · cases h
    · cases h

/-- The step may alter a subscription. -/
def altering : Label (webhookSystem config) → Bool
  | .served _ (.statement (.writeSubscription _ (.outcome true))) _ _ => true
  | .served _ (.statement (.writeSubscription _ (.update _))) _ _ => true
  | _ => false

/-- The step may cut off an event. -/
def cutting : Label (webhookSystem config) → Bool
  | .served _ (.statement (.writeSubscription _ (.update _))) (.lost _ _) _ => true
  | .served _ (.statement (.append _)) (.refused _) _ => true
  | .raised _ (.statement (.append _)) => true
  | _ => false

theorem undivided_of_single {trace : List (Label (webhookSystem config))}
    (hsingle : trace.countP altering ≤ 1) (hcutting : ∀ l ∈ trace, cutting l = false) :
    Undivided trace where
  between := by
    rintro first l rest l' later i id deliveryId rfl _ _ hupdates l'' hmem halters
    have hlast : altering l' = true := by
      unfold Updates at hupdates
      split at hupdates
      · rfl
      · exact hupdates.elim
    have hinner : altering l'' = true := by
      unfold Alters at halters
      split at halters
      · rfl
      · rfl
      · exact halters.elim
    have hpos : 0 < rest.countP altering := List.countP_pos_iff.mpr ⟨l'', hmem, hinner⟩
    rw [List.countP_append, List.countP_cons, List.countP_append,
      List.countP_cons_of_pos hlast] at hsingle
    omega
  uncut := by
    intro i deliveryId _ l hmem hbreaks
    have hcut := hcutting l hmem
    unfold BreaksOff at hbreaks
    split at hbreaks
    · cases hcut
    · cases hcut
    · cases hcut
    · exact hbreaks

end Demos

end DddBoilerplate.Webhook
