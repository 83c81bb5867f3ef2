/- module: DddBoilerplate/Webhook/Lifecycle
   generality: I
   digest: What becomes of a delivery: which writes move it, who may make them, and what they announce. -/

import DddBoilerplate.Concurrency.Exchange
import DddBoilerplate.Webhook.Histories
import DddBoilerplate.Webhook.Rows

set_option autoImplicit false
set_option relaxedAutoImplicit false
set_option linter.all false

namespace DddBoilerplate.Webhook

open Concurrency Store

variable {config : WebhookConfig}

section Labels

def WebhookDb.status? (db : WebhookDb) (id : String) : Option WebhookDeliveryStatus :=
  (db.deliveries.get? id).map WebhookDelivery.status

/-- The thread claims the delivery. -/
def Claims (i : Nat) (id : String) : Label (webhookSystem config) → Prop
  | .served j (.statement (.writeDelivery id' (.claim _))) reply _ =>
    j = i ∧ id' = id ∧ Reply.hits reply = true
  | _ => False

/-- The thread gives the delivery back that it has claimed. -/
def GivesBack (i : Nat) (id : String) : Label (webhookSystem config) → Prop
  | .served j (.statement (.writeDelivery id' (.failedForRetry _ _ _))) reply _ =>
    j = i ∧ id' = id ∧ Reply.hits reply = true
  | _ => False

/-- The thread settles the delivery it has claimed. -/
def Settles (i : Nat) (id : String) : Label (webhookSystem config) → Prop
  | .served j (.statement (.writeDelivery id' (.delivered _))) _ _ => j = i ∧ id' = id
  | .served j (.statement (.writeDelivery id' (.failedForRetry _ _ _))) _ _ => j = i ∧ id' = id
  | .served j (.statement (.writeDelivery id' (.deadLettered _ _))) _ _ => j = i ∧ id' = id
  | _ => False

/-- The delivery is made free to be claimed by a reset, or by hand. -/
def Reopens (id : String) : Label (webhookSystem config) → Prop
  | .served _ (.statement (.resetDeliveries ids)) reply _ => id ∈ ids ∧ Reply.hits reply = true
  | .served _ (.statement (.writeDelivery id' (.redelivery _))) reply _ =>
    id' = id ∧ Reply.hits reply = true
  | _ => False

/-- The attempt has ended, or has given the delivery back. -/
def Over (i : Nat) (id : String) (trace : List (Label (webhookSystem config))) : Prop :=
  Ended i trace ∨ ∃ l ∈ trace, GivesBack i id l

/-- Another attempt has claimed the delivery since this one did. -/
def Superseded (i : Nat) (id : String) (trace : List (Label (webhookSystem config))) : Prop :=
  ∃ earlier l later, trace = earlier ++ l :: later ∧ Claims i id l ∧
    ∃ j, j ≠ i ∧ ∃ l' ∈ later, Claims j id l'

/-- A call that ends a delivery. -/
def WebhookCall.exhausts (id : String) : WebhookCall → Bool
  | ⟨.statement (.writeDelivery id' (.deadLettered _ _)), reply⟩ =>
    decide (id' = id) && Reply.hits reply
  | _ => false

/-- A call that writes an event that it is exhausted. -/
def WebhookCall.announcesExhausted (id : String) : WebhookCall → Bool
  | ⟨.statement (.append (.deliveryExhausted id' _ _ _)), reply⟩ =>
    decide (id' = id) && (Reply.value? reply).isSome
  | _ => false

/-- The call of a signal of exhaustion breaks off between its write and its event. -/
def Breaks (i : Nat) : Label (webhookSystem config) → Prop
  | .served j (.statement (.writeDelivery _ (.deadLettered _ _))) (.lost _ _) _ => j = i
  | .served j (.statement (.append _)) (.refused _) _ => j = i
  | .raised j (.statement (.append _)) => j = i
  | _ => False

end Labels

section Lawful

/-- The deliveries a reset is about. -/
def resets : Label (webhookSystem config) → List String
  | .served _ (.statement (.resetDeliveries ids)) _ _ => ids
  | _ => []

/-- The delivery whose end is still to be announced. -/
def endings : Label (webhookSystem config) → List String
  | .served _ (.statement (.writeDelivery id (.deadLettered _ _))) _ (.asks _) => [id]
  | _ => []

/-- A reset finds none of its deliveries ended, and the end of an exhausted delivery that is to be
announced finds it not ended. -/
def Undisturbed (Q : Pool (webhookSystem config)) (l : Label (webhookSystem config)) : Prop :=
  (∀ id ∈ resets l,
    Q.store.db.status? id ≠ some .delivered ∧ Q.store.db.status? id ≠ some .deadLetter) ∧
  ∀ id ∈ endings l,
    Q.store.db.status? id = some .pending ∨ Q.store.db.status? id = some .delivering

instance (Q : Pool (webhookSystem config)) (l : Label (webhookSystem config)) :
    Decidable (Undisturbed Q l) := by
  unfold Undisturbed
  infer_instance

/-- A delivery is made free only when the attempts that have claimed it are over, and no call of a
signal of exhaustion breaks off between its write and its event. -/
structure Timely (trace : List (Label (webhookSystem config))) : Prop where
  reopened : ∀ earlier l later i id, trace = earlier ++ l :: later → Reopens id l →
    (∃ l' ∈ earlier, Claims i id l') → Over i id earlier
  unbroken : ∀ i id lastError, (entries trace)[i]? = some (.exhausted id lastError) →
    ∀ l ∈ trace, ¬ Breaks i l

/-- What a step may do to a delivery. -/
structure LawfulStep (earlier : List (Label (webhookSystem config)))
    (Q : Pool (webhookSystem config)) (l : Label (webhookSystem config))
    (R : Pool (webhookSystem config)) : Prop where
  delivered : ∀ id, Q.store.db.status? id = some .delivered →
    R.store.db.status? id = some .delivered ∧ ∀ i, ¬ Claims i id l
  deadLetter : ∀ id, Q.store.db.status? id = some .deadLetter →
    R.store.db.status? id = some .deadLetter ∨
      ∃ i now reply front, (entries earlier)[i]? = some (.redeliver id) ∧
        l = .served i (.statement (.writeDelivery id (.redelivery now))) reply front
  superseded : ∀ i id, Superseded i id earlier → Settles i id l →
    R.store.db.deliveries.get? id = Q.store.db.deliveries.get? id
  exhausted : ∀ i q reply front id lastError,
    (entries earlier)[i]? = some (.exhausted id lastError) → l = .served i q reply front →
      (WebhookCall.exhausts id ⟨q, reply⟩ = true ↔ Q.store.db.status? id ≠ some .deadLetter ∧
        R.store.db.status? id = some .deadLetter)

/-- What a whole run may do to its deliveries, and the events it writes for those it exhausts. -/
structure LawfulRun (P : Pool (webhookSystem config)) (trace : List (Label (webhookSystem config))) :
    Prop where
  steps : ∀ earlier l later Q R, trace = earlier ++ l :: later → Run Undisturbed P earlier Q →
    Undisturbed Q l → Step (webhookSystem config) Q l R → LawfulStep earlier Q l R
  founded : ∀ i id, (calls i trace).countP (WebhookCall.announcesExhausted id) ≠ 0 →
    ∃ lastError, (entries trace)[i]? = some (.exhausted id lastError)
  announced : ∀ i id lastError, (entries trace)[i]? = some (.exhausted id lastError) →
    (calls i trace).countP (WebhookCall.announcesExhausted id) ≤
        (calls i trace).countP (WebhookCall.exhausts id) ∧
      (Ended i trace → (calls i trace).countP (WebhookCall.announcesExhausted id) =
        (calls i trace).countP (WebhookCall.exhausts id))

end Lawful

section Steps

variable {P Q R : Pool (webhookSystem config)} {l : Label (webhookSystem config)}
variable {trace : List (Label (webhookSystem config))} {i j : Nat} {id : String}
variable {ok : Pool (webhookSystem config) → Label (webhookSystem config) → Prop}

/-- What a step of a run does to the row of a delivery. -/
theorem row_of_step (hstep : Step (webhookSystem config) Q l R) (id : String) :
    R.store.db.deliveries.get? id = Q.store.db.deliveries.get? id ∨
      ∃ i q reply front, l = .served i (.statement q) reply front ∧
        DeliveryStep id Q.store.db ⟨q, reply⟩ R.store.db := by
  rcases statement_of_step hstep with ⟨hsame, _⟩ | ⟨i, q, reply, front, choice, rfl, hexecute⟩
  · exact .inl (hsame ▸ rfl)
  · exact .inr ⟨i, q, reply, front, rfl, deliveryStep_of_execute hexecute id⟩

/-- A write that hits finds the row it selects, and changes it. -/
theorem written_of_step {write : DeliveryWrite} {reply : Reply Nat}
    {front : Front WebhookStatement.interface.world}
    (hstep : Step (webhookSystem config) Q
      (.served i (.statement (.writeDelivery id write)) reply front) R)
    (hhits : reply.hits = true) : ∃ row, Q.store.db.deliveries.get? id = some row ∧
      write.selects row = true ∧ R.store.db.deliveries.get? id = some (write.change row) := by
  obtain ⟨choice, db, hexecute, hstore⟩ := serves_statement.mp hstep.answered
  obtain ⟨hdb, hiff⟩ := writeDelivery_of_execute hexecute
  obtain ⟨hvalue, row, hget, hselects⟩ := hiff.mp hhits
  refine ⟨row, hget, hselects, ?_⟩
  rw [hstore, hdb, if_neg hvalue, get?_writeDelivery, hget, Option.map_some,
    if_pos ⟨rfl, hselects⟩]

theorem hits_of_step {write : DeliveryWrite} {reply : Reply Nat} {row : WebhookDelivery}
    {front : Front WebhookStatement.interface.world}
    (hstep : Step (webhookSystem config) Q
      (.served i (.statement (.writeDelivery id write)) reply front) R)
    (hvalue : reply.value? ≠ none) (hget : Q.store.db.deliveries.get? id = some row)
    (hselects : write.selects row = true) : reply.hits = true := by
  obtain ⟨choice, db, hexecute, hstore⟩ := serves_statement.mp hstep.answered
  exact (writeDelivery_of_execute hexecute).2.mpr ⟨hvalue, row, hget, hselects⟩

theorem status_of_get? {db : WebhookDb} {status : WebhookDeliveryStatus}
    (h : db.status? id = some status) : ∃ row, db.deliveries.get? id = some row ∧
      row.status = status := Option.map_eq_some_iff.mp h

/-- A claim finds the delivery free, and leaves it under way. -/
theorem claimed_of_step (hstep : Step (webhookSystem config) Q l R) (hclaims : Claims i id l) :
    Q.store.db.status? id = some .pending ∧ R.store.db.status? id = some .delivering := by
  cases l with
  | start entry => exact hclaims.elim
  | raised j q => exact hclaims.elim
  | served j q reply front =>
    unfold Claims at hclaims
    split at hclaims
    · rename_i heq
      cases heq
      obtain ⟨rfl, rfl, hhits⟩ := hclaims
      obtain ⟨row, hget, hselects, hafter⟩ := written_of_step hstep hhits
      unfold WebhookDb.status?
      rw [hget, hafter]
      exact ⟨congrArg some (of_decide_eq_true hselects), rfl⟩
    · exact hclaims.elim

/-- Ended deliveries stay so, under the condition, but for a redelivery. -/
theorem delivered_of_step (hstep : Step (webhookSystem config) Q l R) (hok : Undisturbed Q l)
    (hdelivered : Q.store.db.status? id = some .delivered) :
    R.store.db.status? id = some .delivered := by
  obtain ⟨row, hget, hstatus⟩ := status_of_get? hdelivered
  rcases row_of_step hstep id with hsame | ⟨k, q, reply, front, rfl, hrow⟩
  · exact (congrArg _ hsame).trans hdelivered
  · generalize hcall : (⟨q, reply⟩ : Σ q : WebhookStatement, Reply q.Result) = call at hrow
    cases hrow with
    | kept call db' same => exact (congrArg _ same).trans hdelivered
    | created data now reply db' absent there => cases hget.symm.trans absent
    | written write reply db' row' hits found selected there =>
      cases hget.symm.trans found
      cases write with
      | claim | delivered | failedForRetry | deadLettered | redelivery =>
        simp [DeliveryWrite.selects, hstatus] at selected
    | reset ids reply db' row' named hits found there =>
      cases hcall
      exact absurd hdelivered (hok.1 id named).1

theorem deadLetter_of_step (hstep : Step (webhookSystem config) Q l R) (hok : Undisturbed Q l)
    (hdead : Q.store.db.status? id = some .deadLetter) :
    R.store.db.status? id = some .deadLetter ∨ ∃ i now reply front,
      l = .served i (.statement (.writeDelivery id (.redelivery now))) reply front := by
  obtain ⟨row, hget, hstatus⟩ := status_of_get? hdead
  rcases row_of_step hstep id with hsame | ⟨k, q, reply, front, rfl, hrow⟩
  · exact .inl ((congrArg _ hsame).trans hdead)
  · generalize hcall : (⟨q, reply⟩ : Σ q : WebhookStatement, Reply q.Result) = call at hrow
    cases hrow with
    | kept call db' same => exact .inl ((congrArg _ same).trans hdead)
    | created data now reply db' absent there => cases hget.symm.trans absent
    | written write reply db' row' hits found selected there =>
      cases hget.symm.trans found
      cases write with
      | redelivery now =>
        cases hcall
        exact .inr ⟨k, now, _, front, rfl⟩
      | claim | delivered | failedForRetry | deadLettered =>
        simp [DeliveryWrite.selects, hstatus] at selected
    | reset ids reply db' row' named hits found there =>
      cases hcall
      exact absurd hdead (hok.1 id named).2

/-- A delivery comes to be ended as exhausted by a write of just that. -/
theorem exhausted_of_step {q : WorldRequest WebhookStatement.interface} {reply : q.Answer}
    {front : Front WebhookStatement.interface.world}
    (hstep : Step (webhookSystem config) Q (.served i q reply front) R) :
    WebhookCall.exhausts id ⟨q, reply⟩ = true ↔
      Q.store.db.status? id ≠ some .deadLetter ∧ R.store.db.status? id = some .deadLetter := by
  constructor
  · intro hexhausts
    unfold WebhookCall.exhausts at hexhausts
    split at hexhausts
    · rename_i heq
      cases heq
      rw [Bool.and_eq_true, decide_eq_true_eq] at hexhausts
      obtain ⟨rfl, hhits⟩ := hexhausts
      obtain ⟨row, hget, hselects, hafter⟩ := written_of_step hstep hhits
      unfold WebhookDb.status?
      rw [hget, hafter]
      refine ⟨fun hdead => ?_, rfl⟩
      have hstatus : row.status = .deadLetter := Option.some.inj hdead
      simp [DeliveryWrite.selects, hstatus] at hselects
    · cases hexhausts
  · rintro ⟨hbefore, hafter⟩
    rcases row_of_step hstep id with hsame | ⟨k, q', reply', front', heq, hrow⟩
    · exact absurd ((congrArg _ hsame).symm.trans hafter) hbefore
    · cases heq
      generalize hcall : (⟨q', reply'⟩ : Σ q : WebhookStatement, Reply q.Result) = call at hrow
      unfold WebhookDb.status? at hafter
      cases hrow with
      | kept call db' same => exact absurd ((congrArg _ same).symm.trans hafter) hbefore
      | created data now reply db' absent there =>
        rw [there] at hafter
        cases hafter
      | written write reply db' row hits found selected there =>
        rw [there] at hafter
        cases write with
        | deadLettered responseCode error =>
          cases hcall
          simpa [WebhookCall.exhausts] using hits
        | claim | delivered | failedForRetry | redelivery => cases hafter
      | reset ids reply db' row named hits found there =>
        rw [there] at hafter
        cases hafter

end Steps

section Attempts

variable {P Q R : Pool (webhookSystem config)} {l : Label (webhookSystem config)}
variable {trace : List (Label (webhookSystem config))} {i j : Nat} {id : String}
variable {ok : Pool (webhookSystem config) → Label (webhookSystem config) → Prop}

theorem Over.snoc (h : Over i id trace) : Over i id (trace ++ [l]) := by
  rcases h with hended | ⟨l', hmem, hgives⟩
  · exact .inl hended.append
  · exact .inr ⟨l', List.mem_append_left _ hmem, hgives⟩

theorem claims_of_held (h : Holding (calls i trace) id) : ∃ l ∈ trace, Claims i id l := by
  obtain ⟨now, count, hcount, hmem⟩ := h.claimed
  obtain ⟨front, hserved⟩ := mem_calls.mp hmem
  refine ⟨_, hserved, rfl, rfl, ?_⟩
  simpa [Reply.hits, Reply.value?] using hcount

/-- Who claims a delivery is an attempt at it. -/
theorem entry_of_claims (hrun : Run ok P trace Q) (hthreads : P.threads = [])
    (h : ∃ l ∈ trace, Claims i id l) : (entries trace)[i]? = some (.deliver id) := by
  obtain ⟨l, hmem, hclaims⟩ := h
  cases l with
  | start entry => exact hclaims.elim
  | raised j q => exact hclaims.elim
  | served j q reply front =>
    unfold Claims at hclaims
    split at hclaims
    · rename_i heq
      cases heq
      obtain ⟨rfl, rfl, _⟩ := hclaims
      obtain ⟨entry, hentry, _, _, rfl, _⟩ :=
        because_of_call accounted_entry hrun hthreads hmem
      exact hentry
    · exact hclaims.elim

/-- A thread that settles its delivery holds it: it has not given it back before. -/
theorem held_of_settles (hrun : Run ok P trace Q) (hthreads : P.threads = [])
    (hstep : Step (webhookSystem config) Q l R) (hsettles : Settles i id l)
    (hclaims : ∃ l ∈ trace, Claims i id l) : Holding (calls i trace) id := by
  have hentry := entry_of_claims hrun hthreads hclaims
  cases l with
  | start entry => exact hsettles.elim
  | raised j q => exact hsettles.elim
  | served j q reply front =>
    unfold Settles at hsettles
    split at hsettles
    · rename_i heq
      cases heq
      obtain ⟨rfl, rfl⟩ := hsettles
      obtain ⟨entry, _, _, hheld⟩ := because_of_entry accounted_entry hrun hthreads hstep
      exact hheld
    · rename_i heq
      cases heq
      obtain ⟨rfl, rfl⟩ := hsettles
      obtain ⟨entry, _, _, hheld⟩ := because_of_entry accounted_entry hrun hthreads hstep
      exact hheld
    · rename_i heq
      cases heq
      obtain ⟨rfl, rfl⟩ := hsettles
      obtain ⟨entry, hown, ⟨_, hheld⟩ | ⟨⟨lastError, rfl⟩, _⟩⟩ :=
        because_of_entry accounted_entry hrun hthreads hstep
      · exact hheld
      · cases hown.symm.trans hentry
    · exact hsettles.elim

/-- An attempt that is over settles nothing. -/
theorem not_over_of_held (hrun : Run ok P trace Q) {q : WorldRequest WebhookStatement.interface}
    {reply : q.Answer} {front : Front WebhookStatement.interface.world}
    (hstep : Step (webhookSystem config) Q (.served i q reply front) R)
    (hheld : Holding (calls i trace) id) : ¬ Over i id trace := by
  rintro (hended | ⟨l, hmem, hgives⟩)
  · exact not_ended_of_served hrun hstep hended
  · cases l with
    | start entry => exact hgives.elim
    | raised j q => exact hgives.elim
    | served j q reply front =>
      unfold GivesBack at hgives
      split at hgives
      · rename_i heq
        cases heq
        obtain ⟨rfl, rfl, _⟩ := hgives
        have hfree := hheld.unfailed _ (mem_calls.mpr ⟨_, hmem⟩)
        cases hfree
      · exact hgives.elim

theorem held_of_givesBack (hrun : Run ok P trace Q) (hthreads : P.threads = [])
    (hstep : Step (webhookSystem config) Q l R) (hgives : GivesBack i id l) :
    Holding (calls i trace) id ∧ ¬ Over i id trace := by
  cases l with
  | start entry => exact hgives.elim
  | raised j q => exact hgives.elim
  | served j q reply front =>
    unfold GivesBack at hgives
    split at hgives
    · rename_i heq
      cases heq
      obtain ⟨rfl, rfl, _⟩ := hgives
      obtain ⟨entry, _, _, hheld⟩ := because_of_entry accounted_entry hrun hthreads hstep
      exact ⟨hheld, not_over_of_held hrun hstep hheld⟩
    · exact hgives.elim

theorem superseded_snoc (h : Superseded i id (trace ++ [l])) :
    Superseded i id trace ∨ (∃ l' ∈ trace, Claims i id l') ∧ ∃ j, j ≠ i ∧ Claims j id l := by
  obtain ⟨earlier, l', later, heq, hclaims, j, hj, l'', hmem, hclaims'⟩ := h
  rcases List.eq_nil_or_concat later with rfl | ⟨later, last, rfl⟩
  · cases hmem
  · rw [List.concat_eq_append, ← List.cons_append, ← List.append_assoc] at heq
    obtain ⟨rfl, hlast⟩ := List.append_inj' heq rfl
    obtain rfl := List.singleton_inj.mp hlast
    rw [List.concat_eq_append] at hmem
    rcases List.mem_append.mp hmem with hbefore | hlast
    · exact .inl ⟨earlier, l', later, rfl, hclaims, j, hj, l'', hbefore, hclaims'⟩
    · rw [List.mem_singleton.mp hlast] at hclaims'
      exact .inr ⟨⟨l', by simp, hclaims⟩, j, hj, hclaims'⟩

theorem claims_iff : Claims i id l ↔ ∃ now reply front, Reply.hits reply = true ∧
    l = .served i (.statement (.writeDelivery id (.claim now))) reply front := by
  constructor
  · intro h
    cases l with
    | start entry => exact h.elim
    | raised j q => exact h.elim
    | served j q reply front =>
      unfold Claims at h
      split at h
      · rename_i heq
        cases heq
        obtain ⟨rfl, rfl, hhits⟩ := h
        exact ⟨_, _, _, hhits, rfl⟩
      · exact h.elim
  · rintro ⟨now, reply, front, hhits, rfl⟩
    exact ⟨rfl, rfl, hhits⟩

/-- Of two attempts that have claimed a delivery one is superseded. -/
theorem superseded_of_claims (hij : i ≠ j) (hi : ∃ l ∈ trace, Claims i id l)
    (hj : ∃ l ∈ trace, Claims j id l) : Superseded i id trace ∨ Superseded j id trace := by
  obtain ⟨l, hmem, hclaims⟩ := hi
  obtain ⟨l', hmem', hclaims'⟩ := hj
  obtain ⟨earlier, later, rfl⟩ := List.append_of_mem hmem
  rcases List.mem_append.mp hmem' with hbefore | hafter
  · obtain ⟨first, rest, rfl⟩ := List.append_of_mem hbefore
    exact .inr ⟨first, l', rest ++ l :: later, by simp, hclaims', i, hij, l, by simp, hclaims⟩
  · rcases List.mem_cons.mp hafter with rfl | hafter
    · obtain ⟨_, _, _, _, rfl⟩ := claims_iff.mp hclaims
      obtain ⟨_, _, _, _, heq⟩ := claims_iff.mp hclaims'
      cases heq
      exact absurd rfl hij
    · exact .inl ⟨earlier, l, later, rfl, hclaims, j, hij.symm, l', hafter, hclaims'⟩

/-- Deliveries that were claimed are there, those that are free again have no attempt that is not over,
and no superseded attempt is not over. -/
structure Relinquished (trace : List (Label (webhookSystem config)))
    (Q : Pool (webhookSystem config)) : Prop where
  there : ∀ i id, (∃ l ∈ trace, Claims i id l) → Q.store.db.status? id ≠ none
  free : ∀ i id, (∃ l ∈ trace, Claims i id l) → Q.store.db.status? id = some .pending →
    Over i id trace
  superseded : ∀ i id, Superseded i id trace → Over i id trace

theorem claims_snoc (h : ∃ l' ∈ trace ++ [l], Claims i id l') :
    (∃ l' ∈ trace, Claims i id l') ∨ Claims i id l := by
  obtain ⟨l', hmem, hclaims⟩ := h
  rcases List.mem_append.mp hmem with hbefore | hlast
  · exact .inl ⟨l', hbefore, hclaims⟩
  · rw [List.mem_singleton.mp hlast] at hclaims
    exact .inr hclaims

theorem status_ne_none_of_step (hstep : Step (webhookSystem config) Q l R)
    (hthere : Q.store.db.status? id ≠ none) : R.store.db.status? id ≠ none := by
  unfold WebhookDb.status? at hthere ⊢
  rw [ne_eq, Option.map_eq_none_iff] at hthere ⊢
  rcases row_of_step hstep id with hsame | ⟨k, q, reply, front, rfl, hrow⟩
  · rw [hsame]
    exact hthere
  · generalize (⟨q, reply⟩ : Σ q : WebhookStatement, Reply q.Result) = call at hrow
    cases hrow with
    | kept call db' same =>
      rw [same]
      exact hthere
    | created data now reply db' absent there => exact absurd absent hthere
    | written write reply db' row hits found selected there =>
      rw [there]
      exact Option.some_ne_none _
    | reset ids reply db' row named hits found there =>
      rw [there]
      exact Option.some_ne_none _

/-- Who leaves a delivery free that was claimed reopens it, or gives it back. -/
theorem freed_of_step (hstep : Step (webhookSystem config) Q l R)
    (hthere : Q.store.db.status? id ≠ none) (hfree : R.store.db.status? id = some .pending) :
    Q.store.db.status? id = some .pending ∨ Reopens id l ∨
      ∃ k, GivesBack k id l := by
  unfold WebhookDb.status? at hfree hthere
  rcases row_of_step hstep id with hsame | ⟨k, q, reply, front, rfl, hrow⟩
  · exact .inl ((congrArg _ hsame).symm.trans hfree)
  · generalize hcall : (⟨q, reply⟩ : Σ q : WebhookStatement, Reply q.Result) = call at hrow
    cases hrow with
    | kept call db' same => exact .inl ((congrArg _ same).symm.trans hfree)
    | created data now reply db' absent there =>
      rw [absent] at hthere
      exact absurd rfl hthere
    | written write reply db' row hits found selected there =>
      rw [there] at hfree
      cases hcall
      cases write with
      | redelivery now => exact .inr (.inl ⟨rfl, hits⟩)
      | failedForRetry nextAttemptAt responseCode error =>
        exact .inr (.inr ⟨k, rfl, rfl, hits⟩)
      | claim | delivered | deadLettered => cases hfree
    | reset ids reply db' row named hits found there =>
      cases hcall
      exact .inr (.inl ⟨named, hits⟩)

theorem Relinquished.step (h : Relinquished trace Q) (hrun : Run ok P trace Q)
    (hthreads : P.threads = [])
    (hreopened : ∀ i id, Reopens id l → (∃ l' ∈ trace, Claims i id l') → Over i id trace)
    (hstep : Step (webhookSystem config) Q l R) : Relinquished (trace ++ [l]) R where
  there := by
    intro i id hclaims
    rcases claims_snoc hclaims with hbefore | hnow
    · exact status_ne_none_of_step hstep (h.there i id hbefore)
    · rw [(claimed_of_step hstep hnow).2]
      exact Option.some_ne_none _
  free := by
    intro i id hclaims hfree
    rcases claims_snoc hclaims with hbefore | hnow
    · rcases freed_of_step hstep (h.there i id hbefore) hfree with
        hpending | hreopens | ⟨k, hgives⟩
      · exact (h.free i id hbefore hpending).snoc
      · exact (hreopened i id hreopens hbefore).snoc
      · by_cases hki : k = i
        · subst hki
          exact .inr ⟨l, List.mem_append_right _ (List.mem_singleton_self _), hgives⟩
        · obtain ⟨hheld, hover⟩ := held_of_givesBack hrun hthreads hstep hgives
          rcases superseded_of_claims (Ne.symm hki) hbefore (claims_of_held hheld) with hi | hk
          · exact (h.superseded i id hi).snoc
          · exact absurd (h.superseded k id hk) hover
    · rw [(claimed_of_step hstep hnow).2] at hfree
      cases hfree
  superseded := by
    intro i id hsuperseded
    rcases superseded_snoc hsuperseded with hbefore | ⟨hclaims, j, _, hnow⟩
    · exact (h.superseded i id hbefore).snoc
    · exact (h.free i id hclaims (claimed_of_step hstep hnow).1).snoc

theorem relinquished_of_run (hrun : Run ok P trace Q) (hthreads : P.threads = [])
    (hreopened : ∀ earlier l later i id, trace = earlier ++ l :: later → Reopens id l →
      (∃ l' ∈ earlier, Claims i id l') → Over i id earlier) : Relinquished trace Q := by
  induction hrun with
  | nil =>
    refine ⟨?_, ?_, ?_⟩
    · rintro i id ⟨l, hmem, _⟩
      cases hmem
    · rintro i id ⟨l, hmem, _⟩
      cases hmem
    · rintro i id ⟨earlier, l, later, heq, _⟩
      simp at heq
  | @snoc trace Q R l hrun _ hstep ih =>
    refine (ih fun earlier l' later i id heq => ?_).step hrun hthreads (fun i id => ?_) hstep
    · exact hreopened earlier l' (later ++ [l]) i id (by rw [heq]; simp)
    · exact hreopened trace l [] i id rfl

/-- A superseded attempt does not change the row any more. -/
theorem kept_of_superseded (hrun : Run ok P trace Q) (hthreads : P.threads = [])
    (hreopened : ∀ earlier l later i id, trace = earlier ++ l :: later → Reopens id l →
      (∃ l' ∈ earlier, Claims i id l') → Over i id earlier)
    (hstep : Step (webhookSystem config) Q l R) (hsuperseded : Superseded i id trace) :
    ¬ Settles i id l := by
  intro hsettles
  have hover := (relinquished_of_run hrun hthreads hreopened).superseded i id hsuperseded
  obtain ⟨earlier, l', later, heq, hclaims, _⟩ := hsuperseded
  have hheld := held_of_settles hrun hthreads hstep hsettles
    ⟨l', heq ▸ List.mem_append_right _ List.mem_cons_self, hclaims⟩
  cases l with
  | start entry => exact hsettles.elim
  | raised j q => exact hsettles.elim
  | served j q reply front =>
    have hj : j = i := by
      unfold Settles at hsettles
      split at hsettles
      all_goals
        first
        | exact hsettles.elim
        | rename_i heq
          cases heq
          exact hsettles.1
    subst hj
    exact not_over_of_held hrun hstep hheld hover

end Attempts

section Events

variable {P Q R : Pool (webhookSystem config)} {l : Label (webhookSystem config)}
variable {trace : List (Label (webhookSystem config))} {i : Nat} {id lastError : String}
variable {ok : Pool (webhookSystem config) → Label (webhookSystem config) → Prop}

/-- A call after which the event is due. -/
def WebhookCall.ends : WebhookCall → Bool
  | ⟨.statement (.writeDelivery _ (.deadLettered _ _)), .ok _⟩ => true
  | _ => false

/-- A signal of exhaustion may be stopped at its event; elsewhere none is due. -/
def exempt : WebhookEntry → WebhookStatement.interface.world.Request → Bool
  | .exhausted _ _, .statement (.append _) => true
  | _, _ => false

def Concluded : WebhookEntry → List WebhookCall → Prop
  | .exhausted _ _, history => ∀ before call, history = before ++ [call] → call.ends = false
  | _, _ => True

theorem concluded_snoc {history : List WebhookCall} {call : WebhookCall}
    (h : call.ends = false) : Concluded (.exhausted id lastError) (history ++ [call]) := by
  intro before call' heq
  obtain ⟨_, hlast⟩ := List.append_inj' heq rfl
  rw [← List.singleton_inj.mp hlast]
  exact h

theorem concludes_exhausted : Concludes (exempt (.exhausted id lastError))
    (Concluded (.exhausted id lastError)) [] (markExhausted id lastError) := by
  have hnil : Concluded (.exhausted id lastError) [] := by
    intro before call heq
    simp at heq
  refine ⟨.inr hnil, fun reply => ?_⟩
  cases reply with
  | refused message => exact concluded_snoc rfl
  | lost value message => exact concluded_snoc rfl
  | ok found =>
    cases found with
    | none => exact concluded_snoc rfl
    | some delivery =>
      change Concludes _ _ _ (ite _ _ _)
      split
      · exact concluded_snoc rfl
      · refine ⟨.inr (concluded_snoc rfl), fun reply => ?_⟩
        cases reply with
        | refused message => exact concluded_snoc rfl
        | lost value message => exact concluded_snoc rfl
        | ok count =>
          refine ⟨.inl rfl, fun reply => ?_⟩
          cases reply with
          | refused message => exact concluded_snoc rfl
          | lost value message => exact concluded_snoc rfl
          | ok value => exact concluded_snoc rfl

theorem concludes_entry (entry : WebhookEntry) :
    Concludes (exempt entry) (Concluded entry) [] (entry.program config) := by
  cases entry with
  | exhausted id lastError => exact concludes_exhausted
  | event | deliver | reconcile | redeliver | create | update =>
    exact concludes_of_all fun _ => trivial

/-- No call of a signal of exhaustion breaks off between its write and its event. -/
def Unbroken (trace : List (Label (webhookSystem config))) : Prop :=
  ∀ i id lastError, (entries trace)[i]? = some (.exhausted id lastError) →
    ∀ l ∈ trace, ¬ Breaks i l

theorem Unbroken.left {later : List (Label (webhookSystem config))}
    (h : Unbroken (trace ++ later)) : Unbroken trace :=
  fun i id lastError hentry l hmem =>
    h i id lastError (entry_later hentry) l (List.mem_append_left _ hmem)

theorem Unbroken.uninterrupted (h : Unbroken trace) :
    @Uninterrupted (webhookSystem config) exempt Concluded trace := by
  rintro earlier i q e later rfl hentry hexempt
  unfold exempt at hexempt
  split at hexempt
  · exact absurd rfl (h i _ _ (entry_later hentry) _ (List.mem_append_right _ List.mem_cons_self))
  · cases hexempt

/-- A row that was looked up has the identifier it was looked up by. -/
theorem id_of_found (hrun : Run ok P trace Q) {row : WebhookDelivery}
    (h : (⟨.statement (.findDelivery id), .ok (some row)⟩ : WebhookCall) ∈ calls i trace) :
    row.id = id := by
  obtain ⟨front, hserved⟩ := mem_calls.mp h
  obtain ⟨earlier, later, rfl⟩ := List.append_of_mem hserved
  obtain ⟨S, S', _, _, hstep, _⟩ := run_of_append hrun
  exact Table.key_of_get? (findDelivery_answers hstep)

/-- The end of a delivery that is to be announced hits its row. -/
theorem hit_of_ended (hrun : Run Undisturbed P trace Q) (hthreads : P.threads = [])
    (hunbroken : Unbroken trace) (hentry : (entries trace)[i]? = some (.exhausted id lastError))
    {key : String} {code : Option Nat} {error : String} {count : Nat}
    (h : (⟨.statement (.writeDelivery key (.deadLettered code error)), .ok count⟩ : WebhookCall) ∈
      calls i trace) : key = id ∧ count ≠ 0 := by
  obtain ⟨front, hserved⟩ := mem_calls.mp h
  obtain ⟨earlier, later, rfl⟩ := List.append_of_mem hserved
  obtain ⟨S, S', hbefore, hok, hstep, _⟩ := run_of_append hrun
  obtain ⟨entry, hown, hbecause⟩ := because_of_entry accounted_entry hbefore hthreads hstep
  cases (entry_later hown).symm.trans hentry
  rcases hbecause with ⟨heq, _⟩ | ⟨⟨_, heq⟩, _⟩
  · cases heq
  · obtain ⟨rfl, rfl⟩ := WebhookEntry.exhausted.inj heq
    have hopen : ¬ Concluded (.exhausted id lastError) (calls i earlier ++
        [⟨.statement (.writeDelivery id (.deadLettered code error)), .ok count⟩]) := by
      intro hconcluded
      cases hconcluded _ _ rfl
    obtain ⟨q, rfl, _⟩ := asks_of_served concludes_entry hbefore hthreads
      hunbroken.left.uninterrupted hown hstep hopen
    have hthere : ∃ row, S.store.db.deliveries.get? id = some row ∧
        (row.status = .pending ∨ row.status = .delivering) := by
      rcases hok.2 id (List.mem_singleton_self _) with hpending | hdelivering
      · obtain ⟨row, hget, hstatus⟩ := status_of_get? hpending
        exact ⟨row, hget, .inl hstatus⟩
      · obtain ⟨row, hget, hstatus⟩ := status_of_get? hdelivering
        exact ⟨row, hget, .inr hstatus⟩
    obtain ⟨row, hget, hstatus⟩ := hthere
    have hhits := hits_of_step hstep (Option.some_ne_none _) hget
      (by rcases hstatus with hstatus | hstatus <;> simp [DeliveryWrite.selects, hstatus])
    exact ⟨rfl, by simpa [Reply.hits, Reply.value?] using hhits⟩

theorem countP_exhausts_of_free {history : List WebhookCall}
    (h : Free WebhookCall.announces history) :
    history.countP (WebhookCall.exhausts id) = 0 ∧
      history.countP (WebhookCall.announcesExhausted id) = 0 := by
  constructor
  · refine List.countP_eq_zero.mpr fun call hmem hexhausts => ?_
    have hfree := h call hmem
    unfold WebhookCall.exhausts at hexhausts
    split at hexhausts
    · cases hfree
    · cases hexhausts
  · refine List.countP_eq_zero.mpr fun call hmem hannounces => ?_
    have hfree := h call hmem
    unfold WebhookCall.announcesExhausted at hannounces
    split at hannounces
    · cases hfree
    · cases hannounces

/-- What a signal of exhaustion appends is the event of its delivery, right after the end of it. -/
theorem appended_of_exhausted (hrun : Run Undisturbed P trace Q) (hthreads : P.threads = [])
    (hunbroken : Unbroken trace) (hentry : (entries trace)[i]? = some (.exhausted id lastError))
    {event : WebhookEvent} {reply : Reply Unit} {front : Front WebhookStatement.interface.world}
    (hstep : Step (webhookSystem config) Q (.served i (.statement (.append event)) reply front) R) :
    (∃ subscriptionId eventType tenantId,
      event = .deliveryExhausted id subscriptionId eventType tenantId) ∧
      (calls i trace).countP (WebhookCall.exhausts id) = 1 ∧
        (calls i trace).countP (WebhookCall.announcesExhausted id) = 0 := by
  obtain ⟨entry, hown, hbecause⟩ := because_of_entry accounted_entry hrun hthreads hstep
  cases hentry.symm.trans hown
  cases event with
  | subscriptionAutoPaused =>
    obtain ⟨_, _, heq, _⟩ := hbecause
    cases heq
  | deliveryExhausted deliveryId subscriptionId eventType tenantId =>
    obtain ⟨_, _, row, code, error, count, heq, hfound, rfl, before, hfree, hhistory⟩ := hbecause
    obtain ⟨rfl, rfl⟩ := WebhookEntry.exhausted.inj heq
    have hid := id_of_found hrun hfound
    obtain ⟨_, hcount⟩ := hit_of_ended hrun hthreads hunbroken hentry
      (hhistory ▸ List.mem_append_right _ (List.mem_singleton_self _))
    obtain ⟨hexhausts, hannounces⟩ := @countP_exhausts_of_free id before hfree
    refine ⟨⟨subscriptionId, eventType, tenantId, by rw [hid]⟩, ?_, ?_⟩
    · rw [hhistory, countP_snoc, hexhausts, if_pos]
      simpa [WebhookCall.exhausts, Reply.hits, Reply.value?] using hcount
    · rw [hhistory, countP_snoc, hannounces, if_neg]
      exact Bool.false_ne_true

/-- An end that hit comes back, if it is to be announced. -/
theorem ends_of_exhausts (hunbroken : Unbroken trace)
    (hentry : (entries trace)[i]? = some (.exhausted id lastError)) {call : WebhookCall}
    (hmem : call ∈ calls i trace) (hexhausts : WebhookCall.exhausts id call = true) :
    call.ends = true := by
  obtain ⟨q, reply⟩ := call
  obtain ⟨front, hserved⟩ := mem_calls.mp hmem
  unfold WebhookCall.exhausts at hexhausts
  split at hexhausts
  · rename_i key code error reply heq
    cases heq
    cases reply with
    | ok count => rfl
    | refused message => simp [Reply.hits, Reply.value?] at hexhausts
    | lost count message => exact absurd rfl (hunbroken i id lastError hentry _ hserved)
  · cases hexhausts

theorem balanced_of_run (hrun : Run Undisturbed P trace Q) (hthreads : P.threads = [])
    (hunbroken : Unbroken trace) (hentry : (entries trace)[i]? = some (.exhausted id lastError)) :
    Balanced (WebhookCall.exhausts id) (WebhookCall.announcesExhausted id) (calls i trace) := by
  refine balanced_of_steps hrun fun earlier q reply front later S S' heq hfirst hstep h => ?_
  subst heq
  have hbefore := hunbroken.left
  obtain ⟨entry, hown, hbecause⟩ := because_of_entry accounted_entry hfirst hthreads hstep
  cases (entry_later hown).symm.trans hentry
  refine h.snoc (fun hmark => ?_) (fun hanswer => ?_) fun before last hhistory hlast => ?_
  · unfold WebhookCall.exhausts at hmark
    split at hmark
    · rename_i key code error reply heq
      cases heq
      rcases hbecause with ⟨heq, _⟩ | ⟨_, hfree⟩
      · cases heq
      · obtain ⟨hexhausts, hannounces⟩ := @countP_exhausts_of_free id _ hfree
        exact ⟨rfl, hexhausts.trans hannounces.symm⟩
    · cases hmark
  · unfold WebhookCall.announcesExhausted at hanswer
    split at hanswer
    · rename_i key subscriptionId eventType tenantId reply heq
      cases heq
      obtain ⟨_, hone, hzero⟩ := appended_of_exhausted hfirst hthreads hbefore hown hstep
      exact ⟨rfl, by omega⟩
    · cases hanswer
  · have hends := ends_of_exhausts hbefore hown
      (hhistory ▸ List.mem_append_right _ (List.mem_singleton_self _)) hlast
    rcases final_of_served concludes_entry hfirst hthreads hbefore.uninterrupted hown hstep with
      hexempt | hconcluded
    · unfold exempt at hexempt
      split at hexempt
      · obtain ⟨⟨subscriptionId, eventType, tenantId, rfl⟩, _⟩ :=
          appended_of_exhausted hfirst hthreads hbefore hown hstep
        cases reply with
        | refused message =>
          exact absurd rfl (hunbroken i id lastError hentry _
            (List.mem_append_right _ List.mem_cons_self))
        | ok value => simp [WebhookCall.announcesExhausted, Reply.value?]
        | lost value message => simp [WebhookCall.announcesExhausted, Reply.value?]
      · cases hexempt
    · rw [hconcluded before last hhistory] at hends
      cases hends

/-- A signal of exhaustion that has ended has written its event. -/
theorem announced_of_ended (hrun : Run Undisturbed P trace Q) (hthreads : P.threads = [])
    (hunbroken : Unbroken trace) (hentry : (entries trace)[i]? = some (.exhausted id lastError))
    (hended : Ended i trace) : (calls i trace).countP (WebhookCall.announcesExhausted id) =
      (calls i trace).countP (WebhookCall.exhausts id) := by
  rcases balanced_of_run hrun hthreads hunbroken hentry with
    hequal | ⟨_, before, last, hhistory, hlast⟩
  · exact hequal.symm
  · have hends := ends_of_exhausts hunbroken hentry
      (hhistory ▸ List.mem_append_right _ (List.mem_singleton_self _)) hlast
    have hconcluded := final_of_ended concludes_entry hrun hthreads hunbroken.uninterrupted
      hentry hended
    rw [hconcluded before last hhistory] at hends
    cases hends

/-- An event that a delivery is exhausted is written by the signal of it. -/
theorem founded_of_run (hrun : Run Undisturbed P trace Q) (hthreads : P.threads = [])
    (hannounced : (calls i trace).countP (WebhookCall.announcesExhausted id) ≠ 0) :
    ∃ lastError, (entries trace)[i]? = some (.exhausted id lastError) := by
  obtain ⟨⟨q, reply⟩, hmem, hcall⟩ := List.countP_pos_iff.mp (Nat.pos_of_ne_zero hannounced)
  obtain ⟨front, hserved⟩ := mem_calls.mp hmem
  unfold WebhookCall.announcesExhausted at hcall
  split at hcall
  · rename_i key subscriptionId eventType tenantId reply heq
    cases heq
    rw [Bool.and_eq_true, decide_eq_true_eq] at hcall
    obtain ⟨entry, hentry, earlier, hearlier, key', lastError, row, code, error, count, rfl,
      hfound, hkey, _⟩ := because_of_call accounted_entry hrun hthreads hserved
    have hid := id_of_found hrun (hearlier _ hfound)
    rw [hkey, hid] at hcall
    rw [hcall.1] at hentry
    exact ⟨lastError, hentry⟩
  · cases hcall

end Events

/-- Where nothing is reset that has ended, no delivery is made free that is being attempted, and no
signal of exhaustion breaks off, deliveries keep to their lifecycle. -/
theorem lawful_of_timely {P Q : Pool (webhookSystem config)}
    {trace : List (Label (webhookSystem config))} (hrun : Run Undisturbed P trace Q)
    (hthreads : P.threads = []) (htimely : Timely trace) : LawfulRun P trace where
  steps := by
    rintro earlier l later Q R rfl hbefore hok hstep
    have hreopened : ∀ first l' rest i id, earlier = first ++ l' :: rest → Reopens id l' →
        (∃ l'' ∈ first, Claims i id l'') → Over i id first := by
      rintro first l' rest i id rfl
      exact htimely.reopened first l' (rest ++ l :: later) i id (by simp)
    refine ⟨fun id hdelivered => ⟨delivered_of_step hstep hok hdelivered, fun i hclaims => ?_⟩,
      fun id hdead => ?_, fun i id hsuperseded hsettles => ?_, ?_⟩
    · rw [(claimed_of_step hstep hclaims).1] at hdelivered
      cases hdelivered
    · rcases deadLetter_of_step hstep hok hdead with hkept | ⟨i, now, reply, front, rfl⟩
      · exact .inl hkept
      · obtain ⟨entry, hentry, rfl⟩ := because_of_entry accounted_entry hbefore hthreads hstep
        exact .inr ⟨i, now, reply, front, hentry, rfl⟩
    · exact absurd hsettles (kept_of_superseded hbefore hthreads hreopened hstep hsuperseded)
    · rintro i q reply front id lastError hentry rfl
      exact exhausted_of_step hstep
  founded := fun i id => founded_of_run hrun hthreads
  announced := fun i id lastError hentry =>
    ⟨(balanced_of_run hrun hthreads htimely.unbroken hentry).le,
      announced_of_ended hrun hthreads htimely.unbroken hentry⟩

section Demos

/-- The delivery is claimed and posted. -/
def posted : List (Move (webhookSystem demo)) :=
  subscribed ++ attempt 2 200

/-- The sweep finds the delivery stuck, the attempt marks it delivered, and the reset makes it free
again. -/
theorem undelivered : ∃ (Q : DemoPool) (trace : List (Label (webhookSystem demo)))
    (r : Label (webhookSystem demo) × DemoPool), Run (fun _ _ => True) quiet trace Q ∧
      Step (webhookSystem demo) Q r.1 r.2 ∧ Q.store.db.status? "d" = some .delivered ∧
        r.2.store.db.status? "d" = some .pending ∧ ¬ LawfulStep trace Q r.1 r.2 := by
  have hplay : ((quiet.play (fun _ _ => True) (posted ++ ([.start .reconcile,
      .serve 3 (.clock 101), .serve 3 (.statement .settled), .serve 2 (.statement .settled)] :
        List (Move (webhookSystem demo))))).bind
        fun Q => (Q.move (.serve 3 (.statement .settled))).bind fun r =>
          (r.2.play (fun _ _ => True) []).map fun _ =>
            decide (Q.store.db.status? "d" = some .delivered ∧
              r.2.store.db.status? "d" = some .pending)) = some true := by
    decide
  obtain ⟨Q, r, _, trace, _, hrun, hstep, _, hdelivered, hpending⟩ :
      ∃ (Q : DemoPool) (r : Label (webhookSystem demo) × DemoPool) (S : DemoPool)
        (trace trace' : List (Label (webhookSystem demo))), Run (fun _ _ => True) quiet trace Q ∧
          Step (webhookSystem demo) Q r.1 r.2 ∧ Run (fun _ _ => True) r.2 trace' S ∧
            Q.store.db.status? "d" = some .delivered ∧ r.2.store.db.status? "d" = some .pending :=
    Pool.play_step_reach hplay
  refine ⟨Q, trace, r, hrun, hstep, hdelivered, hpending, fun h => ?_⟩
  rw [(h.delivered "d" hdelivered).1] at hpending
  cases hpending

/-- The step neither makes a delivery free nor breaks off the call of a signal. -/
def plain : Label (webhookSystem config) → Bool
  | .served _ (.statement (.resetDeliveries _)) _ _ => false
  | .served _ (.statement (.writeDelivery _ (.redelivery _))) _ _ => false
  | .served _ (.statement (.writeDelivery _ (.deadLettered _ _))) (.lost _ _) _ => false
  | .served _ (.statement (.append _)) (.refused _) _ => false
  | .raised _ (.statement (.append _)) => false
  | _ => true

theorem timely_of_plain {trace : List (Label (webhookSystem config))}
    (h : ∀ l ∈ trace, plain l = true) : Timely trace where
  reopened := by
    rintro earlier l later i id rfl hreopens
    have hplain := h l (List.mem_append_right _ List.mem_cons_self)
    unfold Reopens at hreopens
    split at hreopens
    · cases hplain
    · cases hplain
    · exact hreopens.elim
  unbroken := by
    intro i id lastError _ l hmem hbreaks
    have hplain := h l hmem
    unfold Breaks at hbreaks
    split at hbreaks
    · cases hplain
    · cases hplain
    · cases hplain
    · exact hbreaks

/-- The queue gives up on a delivery that is under way, and says so once. -/
theorem lawful_of_timely_demo : ∃ (Q : DemoPool) (trace : List (Label (webhookSystem demo))),
    Run Undisturbed quiet trace Q ∧ Q.store.db.status? "d" = some .deadLetter ∧
      LawfulRun quiet trace := by
  have hplay : ((quiet.record Undisturbed (posted ++ ([.start (.exhausted "d" "timeout"),
      .serve 3 (.statement .settled), .serve 3 (.statement .settled),
        .serve 3 (.statement .settled)] : List (Move (webhookSystem demo))))).map fun r =>
          decide ((∀ l ∈ r.1, plain l = true) ∧ r.2.store.db.status? "d" = some .deadLetter)) =
            some true := by
    decide
  obtain ⟨Q, trace, hrun, hplain, hdead⟩ :
      ∃ (Q : DemoPool) (trace : List (Label (webhookSystem demo))), Run Undisturbed quiet trace Q ∧
        (∀ l ∈ trace, plain l = true) ∧ Q.store.db.status? "d" = some .deadLetter :=
    Pool.record_reach hplay
  exact ⟨Q, trace, hrun, hdead, lawful_of_timely hrun rfl (timely_of_plain hplain)⟩

end Demos

end DddBoilerplate.Webhook
