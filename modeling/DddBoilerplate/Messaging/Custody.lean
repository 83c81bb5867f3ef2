/- module: DddBoilerplate/Messaging/Custody
   generality: I
   digest: Who answers for a message in progress, and when all of them end up settled. -/

import DddBoilerplate.Concurrency.Stops
import DddBoilerplate.Messaging.Acknowledgement

set_option autoImplicit false
set_option relaxedAutoImplicit false
set_option linter.all false

namespace DddBoilerplate.Messaging

open Concurrency Store

variable {config : InboxSweepConfig} {P Q R S : Pool (listenerSystem config)}
variable {trace later : List (Label (listenerSystem config))} {l : Label (listenerSystem config)}
variable {ok : Pool (listenerSystem config) → Label (listenerSystem config) → Prop}
variable {identity : InboxIdentity} {id claimToken : String} {i j k : Nat}
variable {delivery : Nat} {message message' : OccurrenceMessage}

section Conditions

/-- The broker hands out a delivery again only after every attempt at it has thrown or crashed, and
never one that was acknowledged. -/
def Brokered (trace : List (Label (listenerSystem config))) : Prop :=
  ∀ (earlier later : List (Label (listenerSystem config))) delivery message,
    trace = earlier ++ .start (.deliver delivery message) :: later →
      ∀ i message', (entries earlier)[i]? = some (.deliver delivery message') →
        message' = message ∧ Stopped i earlier ∧ ¬ AckedIn (calls i earlier) delivery

/-- The broker has nothing left to hand out. -/
def AllAcknowledged (trace : List (Label (listenerSystem config))) : Prop :=
  ∀ delivery message, ListenerEntry.deliver delivery message ∈ entries trace →
    ∃ i, AckedIn (calls i trace) delivery

/-- No attempt at a delivery looks at its message while the claim of an attempt at the same delivery
is live, or the retry after it is not due. -/
def Unhurried (trace : List (Label (listenerSystem config))) : Prop :=
  ∀ (earlier later : List (Label (listenerSystem config))) j delivery message existing front,
    trace = earlier ++ .served j (.statement (.inbox (.message (.findUnique message.identity))))
        (some existing) front :: later →
      (entries earlier)[j]? = some (.deliver delivery message) →
        existing.status = .inProgress →
          (∃ now, (⟨.clock, now⟩ : ListenerCall) ∈ calls j earlier ∧
            existing.reclaimable config.toInboxConfig now = false) →
              ∀ i message', (entries earlier)[i]? = some (.deliver delivery message') →
                ¬ Acquired (calls i earlier) existing.id existing.claimToken

/-- Every message is processed or parked, and one that was received is there, unless it was purged
after it had been processed. -/
structure AllSettled (P : Pool (listenerSystem config))
    (trace : List (Label (listenerSystem config))) (db : InboxDb) : Prop where
  rows : ∀ row ∈ db.rows, row.status = .processed ∨ row.status = .suspended
  received : ∀ delivery message, ListenerEntry.deliver delivery message ∈ entries trace →
    message.isRequested = true → (∃ row ∈ db.rows, row.identity = message.identity) ∨
      ∃ earlier later R, trace = earlier ++ later ∧ Run (fun _ _ => True) P earlier R ∧
        ∃ row ∈ R.store.db.rows, row.identity = message.identity ∧ row.status = .processed

theorem Brokered.earlier (h : Brokered (trace ++ later)) : Brokered trace := by
  rintro earlier rest delivery message rfl
  exact h earlier (rest ++ later) delivery message (by simp)

theorem Unhurried.earlier (h : Unhurried (trace ++ later)) : Unhurried trace := by
  rintro earlier rest j delivery message existing front rfl
  exact h earlier (rest ++ later) j delivery message existing front (by simp)

end Conditions

section Calls

theorem Acquired.mono {history history' : List ListenerCall} (h : Acquired history id claimToken)
    (hsubset : history ⊆ history') : Acquired history' id claimToken := by
  obtain ⟨call, hmem, hclaimed⟩ := h
  exact ⟨call, hsubset hmem, hclaimed⟩

theorem listenerCalls_subset (i : Nat) : calls i trace ⊆ calls i (trace ++ [l]) :=
  fun _ => mem_calls_append

/-- A call of a longer trace was made before, or by the last step. -/
theorem mem_calls_snoc {q : WorldRequest ListenerStatement.interface} {a : q.Answer}
    (h : (⟨q, a⟩ : ListenerCall) ∈ calls i (trace ++ [l])) :
    (⟨q, a⟩ : ListenerCall) ∈ calls i trace ∨ ∃ f, l = .served i q a f := by
  obtain ⟨f, hmem⟩ := mem_calls.mp h
  rcases List.mem_append.mp hmem with hmem | hmem
  · exact .inl (mem_calls.mpr ⟨f, hmem⟩)
  · exact .inr ⟨f, (List.mem_singleton.mp hmem).symm⟩

/-- Only a claim acquires. -/
theorem claimed_eq_some {call : ListenerCall}
    (h : ListenerCall.claimed? call = some (id, claimToken)) :
    (∃ identity rowId now, call =
      ⟨.statement (.inbox (.message (.insertIfAbsent identity rowId claimToken now))), some id⟩) ∨
      ∃ previous now, call =
        ⟨.statement (.inbox (.message (.reclaim id previous claimToken now))), true⟩ := by
  unfold ListenerCall.claimed? at h
  split at h
  · rename_i identity rowId token now answer
    obtain ⟨found, rfl, heq⟩ := Option.map_eq_some_iff.mp h
    cases heq
    exact .inl ⟨identity, rowId, now, rfl⟩
  · rename_i rowId previous token now answer
    cases answer with
    | true =>
      cases h
      exact .inr ⟨previous, now, rfl⟩
    | false => cases h
  · cases h

/-- A claim is made for a message of the delivery, under a token the thread has drawn. -/
theorem drawn_of_acquired (hrun : Run ok P trace Q) (hthreads : P.threads = [])
    (h : Acquired (calls i trace) id claimToken) :
    (∃ delivery message, (entries trace)[i]? = some (.deliver delivery message)) ∧
      (⟨.randomUUID, claimToken⟩ : ListenerCall) ∈ calls i trace := by
  obtain ⟨⟨q, a⟩, hmem, hclaimed⟩ := h
  obtain ⟨front, hserved⟩ := mem_calls.mp hmem
  obtain ⟨entry, hentry, earlier, hearlier, hbecause⟩ :=
    because_of_call accounted_entry hrun hthreads hserved
  rcases claimed_eq_some hclaimed with ⟨identity, rowId, now, heq⟩ | ⟨previous, now, heq⟩
  · cases heq
    obtain ⟨⟨delivery, message, rfl, _, _⟩, _, htoken, _, _⟩ := hbecause
    exact ⟨⟨delivery, message, hentry⟩, hearlier _ htoken⟩
  · cases heq
    obtain ⟨⟨delivery, message, _, rfl, _, _, _⟩, htoken, _, _⟩ := hbecause
    exact ⟨⟨delivery, message, hentry⟩, hearlier _ htoken⟩

/-- No two threads claim under one token. -/
theorem acquired_once (hrun : Run ok P trace Q) (hthreads : P.threads = []) {id' : String}
    (hi : Acquired (calls i trace) id claimToken) (hj : Acquired (calls j trace) id' claimToken) :
    i = j := by
  obtain ⟨f, hf⟩ := mem_calls.mp (drawn_of_acquired hrun hthreads hi).2
  obtain ⟨g, hg⟩ := mem_calls.mp (drawn_of_acquired hrun hthreads hj).2
  exact drawn_once hrun hf hg

/-- What is completed was claimed by the same thread. -/
theorem acquired_of_completed (hrun : Run ok P trace Q) (hthreads : P.threads = [])
    (h : CompletedIn (calls i trace) id claimToken) : Acquired (calls i trace) id claimToken := by
  obtain ⟨now, completed, hmem⟩ := h
  obtain ⟨front, hserved⟩ := mem_calls.mp hmem
  obtain ⟨entry, _, earlier, hearlier, hbecause⟩ :=
    because_of_call accounted_entry hrun hthreads hserved
  exact Acquired.mono hbecause hearlier

/-- A delivery is acknowledged by an attempt at it that has offered its message to the inbox. -/
theorem attempt_of_acked (hrun : Run ok P trace Q) (hthreads : P.threads = [])
    (h : AckedIn (calls i trace) delivery) :
    ∃ message, (entries trace)[i]? = some (.deliver delivery message) ∧
      (message.isRequested = true → Offered message (calls i trace)) := by
  obtain ⟨front, hserved⟩ := mem_calls.mp h
  obtain ⟨entry, hentry, earlier, hearlier, message, rfl, _, hoffered⟩ :=
    because_of_call accounted_entry hrun hthreads hserved
  exact ⟨message, hentry, fun hrequested => (hoffered hrequested).1.mono hearlier⟩

/-- Of two attempts at a delivery the earlier one has stopped, unacknowledged. -/
theorem attempted (hrun : Run ok P trace Q) (hbrokered : Brokered trace) (hlt : i < j)
    (hi : (entries trace)[i]? = some (.deliver delivery message))
    (hj : (entries trace)[j]? = some (.deliver delivery message')) :
    message = message' ∧ Stopped i trace ∧ ¬ AckedIn (calls i trace) delivery := by
  obtain ⟨earlier, rest, rfl, hlength⟩ := start_of_entry hj
  have hentry : (entries earlier)[i]? = some (.deliver delivery message) := by
    rw [entries_append, List.getElem?_append_left (by omega)] at hi
    exact hi
  obtain ⟨hsame, hstopped, hunacked⟩ :=
    hbrokered earlier rest delivery message' rfl i message hentry
  obtain ⟨S, S', hbefore, hok, hstep, hafter⟩ := run_of_append hrun
  have hlater := (Run.nil.snoc hok hstep).append hafter
  refine ⟨hsame, ?_, ?_⟩
  · obtain ⟨l, hmem, hstops⟩ := hstopped
    exact ⟨l, List.mem_append_left _ hmem, hstops⟩
  · rw [calls_append]
    intro hacked
    rcases List.mem_append.mp hacked with hacked | hacked
    · exact hunacked hacked
    · have hnone := calls_of_stopped hbefore hlater hstopped
      rw [List.nil_append, List.singleton_append] at hnone
      rw [hnone] at hacked
      cases hacked

/-- All attempts at a delivery are at the same message. -/
theorem attempts_alike (hrun : Run ok P trace Q) (hbrokered : Brokered trace)
    (hi : (entries trace)[i]? = some (.deliver delivery message))
    (hj : (entries trace)[j]? = some (.deliver delivery message')) : message = message' := by
  rcases Nat.lt_trichotomy i j with hlt | rfl | hlt
  · exact (attempted hrun hbrokered hlt hi hj).1
  · cases hi.symm.trans hj
    rfl
  · exact (attempted hrun hbrokered hlt hj hi).1.symm

end Calls

section Steps

/-- A message that nobody claims from here on was in progress under its token here. -/
theorem held_before (h : Run ok S later Q) (hno : ∀ i, ¬ Acquired (calls i later) id claimToken)
    {row : InboxMessage} (hrow : row ∈ Q.store.db.rows)
    (hprogress : InProgress identity id claimToken row) :
    ∃ row ∈ S.store.db.rows, InProgress identity id claimToken row := by
  induction h generalizing row with
  | nil => exact ⟨row, hrow, hprogress⟩
  | @snoc later Q R l _ _ hstep ih =>
    have hbefore : ∀ i, ¬ Acquired (calls i later) id claimToken :=
      fun i h => hno i (h.mono (listenerCalls_subset i))
    rcases statement_of_step hstep with ⟨hsame, _⟩ | ⟨i, q, a, f, choice, rfl, hexecute⟩
    · exact ih hbefore (hsame ▸ hrow) hprogress
    · have hlast : (⟨.statement q, a⟩ : ListenerCall) ∈
          calls i (later ++ [(.served i (.statement q) a f : Label (listenerSystem config))]) :=
        mem_calls.mpr ⟨f, List.mem_append_right _ (List.mem_singleton_self _)⟩
      generalize hcall : (⟨q, a⟩ : ListenerAnswer) = call at *
      have hcomes := comes_of_execute hexecute hrow hprogress
      rw [hcall] at hcomes
      cases hcomes with
      | kept _ row there progress _ => exact ih hbefore there progress
      | inserted now =>
        cases hcall
        exact absurd ⟨_, hlast, rfl⟩ (hno i)
      | reclaimed previous now _ _ _ =>
        cases hcall
        exact absurd ⟨_, hlast, rfl⟩ (hno i)

/-- The message of an attempt that has stopped was in progress under its token ever since. -/
theorem held_of_stopped (hbefore : Run ok P trace S) (hafter : Run ok S later Q)
    (hthreads : P.threads = []) (hstopped : Stopped i trace)
    (hacquired : Acquired (calls i (trace ++ later)) id claimToken) {row : InboxMessage}
    (hrow : row ∈ Q.store.db.rows) (hprogress : InProgress identity id claimToken row) :
    Acquired (calls i trace) id claimToken ∧
      ∃ row ∈ S.store.db.rows, InProgress identity id claimToken row := by
  have hnone := calls_of_stopped hbefore hafter hstopped
  refine ⟨?_, held_before hafter (fun k hk => ?_) hrow hprogress⟩
  · rw [calls_append, hnone, List.append_nil] at hacquired
    exact hacquired
  · have hlater : Acquired (calls k (trace ++ later)) id claimToken := by
      rw [calls_append]
      exact hk.mono (List.subset_append_right _ _)
    obtain rfl := acquired_once (hbefore.append hafter) hthreads hlater hacquired
    rw [hnone] at hk
    exact not_acquired_nil hk

/-- Every row was inserted for a message of that identity, under an identifier drawn for it. -/
theorem origin_of_run (hrun : Run ok P trace Q) (hthreads : P.threads = [])
    (hrows : P.store.db.rows = []) : ∀ row ∈ Q.store.db.rows, ∃ i delivery message,
      (entries trace)[i]? = some (.deliver delivery message) ∧ message.identity = row.identity ∧
        (⟨.randomUUID, row.id⟩ : ListenerCall) ∈ calls i trace := by
  induction hrun with
  | nil =>
    intro row hrow
    rw [hrows] at hrow
    cases hrow
  | @snoc trace Q R l hrun _ hstep ih =>
    have hkept : ∀ row ∈ Q.store.db.rows, ∃ i delivery message,
        (entries (trace ++ [l]))[i]? = some (.deliver delivery message) ∧
          message.identity = row.identity ∧
            (⟨.randomUUID, row.id⟩ : ListenerCall) ∈ calls i (trace ++ [l]) := by
      intro row hrow
      obtain ⟨i, delivery, message, hentry, hidentity, hdrawn⟩ := ih row hrow
      exact ⟨i, delivery, message, entry_append hentry, hidentity, mem_calls_append hdrawn⟩
    intro row hrow
    rcases statement_of_step hstep with ⟨hsame, _⟩ | ⟨i, q, a, f, choice, rfl, hexecute⟩
    · exact hkept row (hsame ▸ hrow)
    · rcases origin_of_execute hexecute hrow with ⟨old, hold, hid, hidentity⟩ | ⟨token, now, rfl⟩
      · obtain ⟨i, delivery, message, hentry, hfor, hdrawn⟩ := hkept old hold
        exact ⟨i, delivery, message, hentry, hfor.trans hidentity, hid ▸ hdrawn⟩
      · obtain ⟨e, hentry, ⟨delivery, message, rfl, _, hidentity⟩, hdrawn, _⟩ :=
          because_of_entry accounted_entry hrun hthreads hstep
        exact ⟨i, delivery, message, entry_append hentry, hidentity, mem_calls_append hdrawn⟩

/-- A row that was found was there under the identity it was looked up by. -/
theorem found_of_mem (hrun : Run ok P trace Q) {existing : InboxMessage}
    (h : (⟨.statement (.inbox (.message (.findUnique identity))), some existing⟩ : ListenerCall) ∈
      calls i trace) :
    existing.identity = identity ∧ ∃ earlier later R, trace = earlier ++ later ∧
      Run ok P earlier R ∧ existing ∈ R.store.db.rows := by
  obtain ⟨front, hserved⟩ := mem_calls.mp h
  obtain ⟨earlier, rest, rfl⟩ := List.append_of_mem hserved
  obtain ⟨S, S', hbefore, _, hstep, _⟩ := run_of_append hrun
  obtain ⟨choice, db, hexecute, _⟩ := serves_statement.mp hstep.answered
  have hget := findUnique_answers hexecute
  exact ⟨Table.key_of_get? hget.symm, earlier, _, S, rfl, hbefore, Table.mem_of_get? hget.symm⟩

/-- A row with the identifier of one that was found has its identity. -/
theorem identity_of_found (hrun : Run ok P trace Q) (hthreads : P.threads = [])
    (hrows : P.store.db.rows = []) {existing row : InboxMessage}
    (h : (⟨.statement (.inbox (.message (.findUnique identity))), some existing⟩ : ListenerCall) ∈
      calls i trace) (hrow : row ∈ Q.store.db.rows) (hid : existing.id = row.id) :
    row.identity = identity := by
  obtain ⟨hidentity, earlier, rest, S, rfl, hbefore, hexisting⟩ := found_of_mem hrun h
  obtain ⟨j, delivery, message, hentry, hfor, hdrawn⟩ :=
    origin_of_run hbefore hthreads hrows existing hexisting
  obtain ⟨k, delivery', message', hentry', hfor', hdrawn'⟩ :=
    origin_of_run hrun hthreads hrows row hrow
  obtain ⟨f, hf⟩ := mem_calls.mp hdrawn
  obtain ⟨g, hg⟩ := mem_calls.mp hdrawn'
  rw [hid] at hf
  obtain rfl := drawn_once hrun (List.mem_append_left _ hf) hg
  have hlonger : (entries (earlier ++ rest))[j]? = some (.deliver delivery message) := by
    rw [entries_append, List.getElem?_append_left (List.getElem?_eq_some_iff.mp hentry).1]
    exact hentry
  cases hlonger.symm.trans hentry'
  exact hfor'.symm.trans (hfor.trans hidentity)

end Steps

section Keeping

/-- An attempt answers for a message in progress: it has claimed it under the token the row has, and
neither it nor a later attempt at its delivery has settled the matter. -/
structure InCustody (trace : List (Label (listenerSystem config))) (identity : InboxIdentity)
    (id claimToken : String) (i delivery : Nat) (message : OccurrenceMessage) : Prop where
  entry : (entries trace)[i]? = some (.deliver delivery message)
  requested : message.isRequested = true
  identity : message.identity = identity
  acquired : Acquired (calls i trace) id claimToken
  uncompleted : ∀ k, ¬ CompletedIn (calls k trace) id claimToken
  unacked : ∀ k, ¬ AckedIn (calls k trace) delivery
  last : ∀ k id claimToken message', i < k → Acquired (calls k trace) id claimToken →
    (entries trace)[k]? ≠ some (.deliver delivery message')

/-- A step that neither completes the message, nor acknowledges the delivery, nor claims in a later
attempt at it, leaves the message where it is. -/
theorem InCustody.snoc (hrun : Run ok P trace Q) (hthreads : P.threads = [])
    (h : InCustody trace identity id claimToken i delivery message)
    (hcompleted : ∀ k now completed f, l ≠ .served k (.statement (.complete id claimToken now))
      (.ok completed) f)
    (hacked : ∀ k f, l ≠ .served k (.statement (.ack delivery)) () f)
    (hclaims : ∀ k q a f id claimToken message', i < k → l = .served k q a f →
      ListenerCall.claimed? ⟨q, a⟩ = some (id, claimToken) →
        (entries trace)[k]? ≠ some (.deliver delivery message')) :
    InCustody (trace ++ [l]) identity id claimToken i delivery message where
  entry := entry_append h.entry
  requested := h.requested
  identity := h.identity
  acquired := h.acquired.mono (listenerCalls_subset i)
  uncompleted := by
    rintro k ⟨now, completed, hmem⟩
    rcases mem_calls_snoc hmem with hbefore | ⟨f, heq⟩
    · exact h.uncompleted k ⟨now, completed, hbefore⟩
    · exact hcompleted k now completed f heq
  unacked := by
    intro k hmem
    rcases mem_calls_snoc hmem with hbefore | ⟨f, heq⟩
    · exact h.unacked k hbefore
    · exact hacked k f heq
  last := by
    rintro k id' claimToken' message' hlt ⟨⟨q, a⟩, hmem, hclaimed⟩ hentry
    have hsame : ∀ e, (entries trace)[k]? = some e → e = .deliver delivery message' := by
      intro e he
      cases (entry_append he).symm.trans hentry
      rfl
    rcases mem_calls_snoc hmem with hbefore | ⟨f, heq⟩
    · have hacquired : Acquired (calls k trace) id' claimToken' := ⟨_, hbefore, hclaimed⟩
      obtain ⟨⟨delivery', message'', hstarted⟩, _⟩ := drawn_of_acquired hrun hthreads hacquired
      cases hsame _ hstarted
      exact h.last k id' claimToken' message' hlt hacquired hstarted
    · rcases claimed_eq_some hclaimed with ⟨_, _, _, hcall⟩ | ⟨_, _, hcall⟩
      all_goals
        subst heq
        by_cases hin : ∃ e, (entries trace)[k]? = some e
        · obtain ⟨e, he⟩ := hin
          cases hsame e he
          exact hclaims k q a f id' claimToken' message' hlt rfl hclaimed he
        · rw [entries_served] at hentry
          exact hin ⟨_, hentry⟩

/-- Whoever is being served has not stopped, so there is no later attempt at its delivery. -/
theorem latest_of_served (hrun : Run ok P trace Q) (hbrokered : Brokered trace)
    {q : WorldRequest ListenerStatement.interface} {a : q.Answer}
    {f : Front ListenerStatement.interface.world}
    (hstep : Step (listenerSystem config) Q (.served j q a f) R)
    (hj : (entries trace)[j]? = some (.deliver delivery message))
    (hk : (entries trace)[k]? = some (.deliver delivery message')) : ¬ j < k := by
  intro hlt
  exact not_stopped_of_served hrun hstep (attempted hrun hbrokered hlt hj hk).2.1

/-- A claim puts the message in the custody of the attempt that makes it. -/
theorem custody_of_claim (hrun : Run ok P trace Q) (hthreads : P.threads = [])
    (hbrokered : Brokered trace) {q : ListenerStatement} {a : q.Answer}
    {f : Front ListenerStatement.interface.world}
    (hstep : Step (listenerSystem config) Q (.served j (.statement q) a f) R)
    (hclaimed : ListenerCall.claimed? ⟨.statement q, a⟩ = some (id, claimToken))
    (hentry : (entries trace)[j]? = some (.deliver delivery message))
    (hrequested : message.isRequested = true) (hidentity : message.identity = identity)
    (hdrawn : (⟨.randomUUID, claimToken⟩ : ListenerCall) ∈ calls j trace)
    (hunacked : ∀ delivery, ¬ AckedIn (calls j trace) delivery)
    (hnone : ∀ id claimToken, ¬ Acquired (calls j trace) id claimToken) :
    InCustody (trace ++ [(.served j (.statement q) a f : Label (listenerSystem config))])
      identity id claimToken j delivery message where
  entry := entry_append hentry
  requested := hrequested
  identity := hidentity
  acquired := ⟨⟨.statement q, a⟩, mem_calls.mpr ⟨f, List.mem_append_right _
    (List.mem_singleton_self _)⟩, hclaimed⟩
  uncompleted := by
    rintro k ⟨now, completed, hmem⟩
    rcases mem_calls_snoc hmem with hbefore | ⟨f, heq⟩
    · have hacquired := acquired_of_completed hrun hthreads ⟨now, completed, hbefore⟩
      obtain ⟨g, hg⟩ := mem_calls.mp (drawn_of_acquired hrun hthreads hacquired).2
      obtain ⟨g', hg'⟩ := mem_calls.mp hdrawn
      obtain rfl := drawn_once hrun hg hg'
      exact hnone id claimToken hacquired
    · cases heq
      cases hclaimed
  unacked := by
    intro k hmem
    rcases mem_calls_snoc hmem with hbefore | ⟨f, heq⟩
    · obtain ⟨message', hk, _⟩ := attempt_of_acked hrun hthreads hbefore
      rcases Nat.lt_trichotomy k j with hlt | rfl | hlt
      · exact (attempted hrun hbrokered hlt hk hentry).2.2 hbefore
      · exact hunacked delivery hbefore
      · exact latest_of_served hrun hbrokered hstep hentry hk hlt
    · cases heq
      cases hclaimed
  last := by
    intro k id' claimToken' message' hlt _ hk
    rw [entries_served] at hk
    exact latest_of_served hrun hbrokered hstep hentry hk hlt

/-- A message in custody is not turned away from a later attempt that is unhurried. -/
theorem turnedAway_absurd (hrun : Run ok P trace Q) (hthreads : P.threads = [])
    (hbrokered : Brokered trace) (hunhurried : Unhurried trace)
    (h : InCustody trace identity id claimToken i delivery message) {row : InboxMessage}
    (hrow : row ∈ Q.store.db.rows) (hprogress : InProgress identity id claimToken row)
    (hlt : i < j) (hj : (entries trace)[j]? = some (.deliver delivery message)) :
    ¬ TurnedAway config identity (calls j trace) := by
  rintro ⟨before, found, after, hcalls, hwhy⟩
  obtain ⟨earlier, rest, front, rfl, rfl, rfl⟩ := calls_split hcalls
  obtain ⟨S, S', hbefore, hok, hstep, hafter⟩ := run_of_append hrun
  have hlater := (Run.nil.snoc hok hstep).append hafter
  rw [List.nil_append, List.singleton_append] at hlater
  obtain ⟨e, he, _⟩ := because_of_entry accounted_entry hbefore hthreads hstep
  have hentries : ∀ {n : Nat} {e}, n ≤ j →
      (entries (earlier ++ .served j (.statement (.inbox (.message (.findUnique identity)))) found
        front :: rest))[n]? = some e → (entries earlier)[n]? = some e := by
    intro n e' hle hn
    have hshort := (List.getElem?_eq_some_iff.mp he).1
    rw [entries_append, List.getElem?_append_left (by omega)] at hn
    exact hn
  have hi' := hentries (Nat.le_of_lt hlt) h.entry
  have hj' := hentries (Nat.le_refl j) hj
  obtain ⟨_, hstopped, _⟩ := attempted hbefore hbrokered.earlier hlt hi' hj'
  obtain ⟨hacquired, held, hheld, hholds⟩ :=
    held_of_stopped hbefore hlater hthreads hstopped h.acquired hrow hprogress
  obtain ⟨choice, db, hexecute, _⟩ := serves_statement.mp hstep.answered
  have hget : S.store.db.get? identity = some held := by
    rw [← hholds.identity]
    exact Table.get?_of_mem hheld
  obtain rfl : found = some held := (findUnique_answers hexecute).trans hget
  rcases hwhy held rfl hholds.status with hearly | ⟨token, now, hlost⟩
  · obtain rfl := h.identity
    refine hunhurried earlier rest j delivery message held front rfl hj' hholds.status hearly i
      message hi' ?_
    rw [hholds.id, hholds.claimToken]
    exact hacquired
  · obtain ⟨front', hserved⟩ := mem_calls.mp hlost
    obtain ⟨between, rest', rfl⟩ := List.append_of_mem hserved
    obtain ⟨T, T', hbetween, hok', hstep', hafter'⟩ := run_of_append hafter
    have hlater' := (Run.nil.snoc hok' hstep').append hafter'
    rw [List.nil_append, List.singleton_append] at hlater'
    have hreached := (hbefore.snoc hok hstep).append hbetween
    have hstopped' : Stopped i (earlier ++ [(.served j (.statement (.inbox (.message
        (.findUnique identity)))) (some held) front : Label (listenerSystem config))] ++
          between) := by
      obtain ⟨l, hmem, hstops⟩ := hstopped
      exact ⟨l, List.mem_append_left _ (List.mem_append_left _ hmem), hstops⟩
    have hacquired' := h.acquired
    rw [← List.singleton_append, ← List.append_assoc, ← List.append_assoc] at hacquired'
    obtain ⟨_, held', hheld', hholds'⟩ :=
      held_of_stopped hreached hlater' hthreads hstopped' hacquired' hrow hprogress
    obtain ⟨choice', db', hexecute', _⟩ := serves_statement.mp hstep'.answered
    rw [hholds.id, hholds.claimToken] at hexecute'
    have hanswer := reclaim_answers hexecute' hheld' hholds'
    cases hanswer

/-- The delivery of a message in custody is not acknowledged. -/
theorem ack_absurd (hrun : Run ok P trace Q) (hthreads : P.threads = [])
    (hbrokered : Brokered trace) (hunhurried : Unhurried trace)
    (h : InCustody trace identity id claimToken i delivery message) {row : InboxMessage}
    (hrow : row ∈ Q.store.db.rows) (hprogress : InProgress identity id claimToken row)
    {f : Front ListenerStatement.interface.world} :
    ¬ Step (listenerSystem config) Q (.served j (.statement (.ack delivery)) () f) R := by
  intro hstep
  obtain ⟨e, hj, message', rfl, hcompleted, haway⟩ :=
    because_of_entry accounted_entry hrun hthreads hstep
  rcases Nat.lt_trichotomy i j with hlt | rfl | hlt
  · obtain rfl := attempts_alike hrun hbrokered h.entry hj
    rcases (haway h.requested).2 with ⟨id', claimToken', hacquired⟩ | hturned
    · exact h.last j id' claimToken' message hlt hacquired hj
    · rw [h.identity] at hturned
      exact turnedAway_absurd hrun hthreads hbrokered hunhurried h hrow hprogress hlt hj hturned
  · exact h.uncompleted i (hcompleted id claimToken h.acquired)
  · exact latest_of_served hrun hbrokered hstep hj h.entry hlt

/-- Reclaiming gives a row the new token, or leaves it since the old token does not own it. -/
theorem mem_of_reclaim {inbox : InboxConfig} {db : InboxDb} {previous : String} {now : Nat}
    {row : InboxMessage}
    (h : row ∈ ((InboxRequest.reclaim id previous claimToken now).serve inbox db).2.rows) :
    row.claimToken = claimToken ∨ row ∈ db.rows ∧ row.claimedBy id previous ≠ true := by
  dsimp only [InboxRequest.serve] at h
  obtain ⟨old, hold, rfl⟩ := mem_updateClaimed.mp h
  split
  · exact .inl rfl
  · rename_i hother
    exact .inr ⟨hold, hother⟩

/-- A later attempt that claims the message takes it out of the hands of the earlier one. -/
theorem claim_absurd (hrun : Run ok P trace Q) (hthreads : P.threads = [])
    (hrows : P.store.db.rows = []) (hbrokered : Brokered trace)
    (h : InCustody trace identity id claimToken i delivery message) (hlt : i < j)
    (hj : (entries trace)[j]? = some (.deliver delivery message')) {row row' : InboxMessage}
    (hrow : row ∈ Q.store.db.rows) (hprogress : InProgress identity id claimToken row)
    (hrow' : row' ∈ R.store.db.rows) (hprogress' : InProgress identity id claimToken row')
    {q : WorldRequest ListenerStatement.interface} {a : q.Answer}
    {f : Front ListenerStatement.interface.world} {id' claimToken' : String}
    (hclaimed : ListenerCall.claimed? ⟨q, a⟩ = some (id', claimToken')) :
    ¬ Step (listenerSystem config) Q (.served j q a f) R := by
  intro hstep
  obtain rfl := attempts_alike hrun hbrokered h.entry hj
  obtain ⟨e, he, hbecause⟩ := because_of_entry accounted_entry hrun hthreads hstep
  cases he.symm.trans hj
  rcases claimed_eq_some hclaimed with ⟨identity', rowId, now, heq⟩ | ⟨previous, now, heq⟩
  · cases heq
    obtain ⟨⟨_, _, hdeliver, _, hfor⟩, _⟩ := hbecause
    cases hdeliver
    obtain ⟨choice, db, hexecute, _⟩ := serves_statement.mp hstep.answered
    have hget : Q.store.db.get? identity' = some row := by
      rw [← hfor, h.identity, ← hprogress.identity]
      exact Table.get?_of_mem hrow
    cases choice with
    | settled =>
      have hanswer := congrArg Prod.fst (Option.some.inj hexecute)
      simp only [InboxRequest.serve, hget] at hanswer
      cases hanswer
    | _ => cases hexecute
  · cases heq
    obtain ⟨⟨_, _, existing, hdeliver, _, rfl, hfound⟩, hdrawn, _⟩ := hbecause
    cases hdeliver
    have htokens : claimToken ≠ claimToken' := by
      rintro rfl
      obtain ⟨g, hg⟩ := mem_calls.mp (drawn_of_acquired hrun hthreads h.acquired).2
      obtain ⟨g', hg'⟩ := mem_calls.mp hdrawn
      have hsame := drawn_once hrun hg hg'
      omega
    obtain ⟨choice, db, hexecute, hstore⟩ := serves_statement.mp hstep.answered
    cases choice with
    | settled =>
      have hanswer := congrArg Prod.fst (Option.some.inj hexecute)
      obtain rfl : _ = db := congrArg Prod.snd (Option.some.inj hexecute)
      rw [hstore] at hrow'
      obtain ⟨claimed, hmem, hclaimedBy⟩ := List.any_eq_true.mp hanswer
      have hid : existing.id = claimed.id := by
        simp only [InboxMessage.claimedBy, Bool.and_eq_true, decide_eq_true_eq] at hclaimedBy
        exact hclaimedBy.1.1.symm
      have hclaimedFor := identity_of_found hrun hthreads hrows hfound hmem hid
      rcases @mem_of_reclaim _ _ config.toInboxConfig _ _ _ _ hrow' with htoken | ⟨hold, hother⟩
      · exact htokens (hprogress'.claimToken.symm.trans htoken)
      · have hget := Table.get?_of_mem hold
        rw [hprogress'.identity, ← h.identity, ← hclaimedFor, Table.get?_of_mem hmem] at hget
        obtain rfl := Option.some.inj hget
        exact hother hclaimedBy
    | _ => cases hexecute

/-- Every message in progress is in custody. -/
theorem custody_of_run (hrun : Run ok P trace Q) (hthreads : P.threads = [])
    (hrows : P.store.db.rows = []) (hbrokered : Brokered trace) (hunhurried : Unhurried trace) :
    ∀ row ∈ Q.store.db.rows, InProgress identity id claimToken row →
      ∃ i delivery message, InCustody trace identity id claimToken i delivery message := by
  induction hrun with
  | nil =>
    intro row hrow
    rw [hrows] at hrow
    cases hrow
  | @snoc trace Q R l hrun _ hstep ih =>
    have hbefore := ih hbrokered.earlier hunhurried.earlier
    intro row hrow hprogress
    rcases statement_of_step hstep with ⟨hsame, hother⟩ | ⟨j, q, a, f, choice, rfl, hexecute⟩
    · obtain ⟨i, delivery, message, hcustody⟩ := hbefore row (hsame ▸ hrow) hprogress
      refine ⟨i, delivery, message, hcustody.snoc hrun hthreads ?_ ?_ ?_⟩
      · exact fun k now completed f => hother k _ _ f
      · exact fun k f => hother k _ _ f
      · rintro k q a f id' claimToken' message' _ heq hclaimed
        rcases claimed_eq_some hclaimed with ⟨_, _, _, hcall⟩ | ⟨_, _, hcall⟩
        · cases hcall
          exact absurd heq (hother k _ _ f)
        · cases hcall
          exact absurd heq (hother k _ _ f)
    · generalize hcall : (⟨q, a⟩ : ListenerAnswer) = call at *
      have hcomes := comes_of_execute hexecute hrow hprogress
      rw [hcall] at hcomes
      cases hcomes with
      | kept _ old there progress unsettled =>
        obtain ⟨i, delivery, message, hcustody⟩ := hbefore old there progress
        refine ⟨i, delivery, message, hcustody.snoc hrun hthreads ?_ ?_ ?_⟩
        · intro k now completed g heq
          cases heq
          exact unsettled now completed hcall.symm
        · intro k g heq
          cases heq
          exact ack_absurd hrun hthreads hbrokered.earlier hunhurried.earlier hcustody there
            progress hstep
        · intro k q' a' g id' claimToken' message' hlt heq hclaimed hentry
          cases heq
          exact claim_absurd hrun hthreads hrows hbrokered.earlier hcustody hlt hentry there
            progress hrow hprogress hclaimed hstep
      | inserted now =>
        cases hcall
        obtain ⟨e, hentry, ⟨delivery, message, rfl, hrequested, hidentity⟩, _, hdrawn, hunacked,
          hnone⟩ := because_of_entry accounted_entry hrun hthreads hstep
        exact ⟨j, delivery, message, custody_of_claim hrun hthreads hbrokered.earlier hstep rfl
          hentry hrequested hidentity hdrawn hunacked hnone⟩
      | reclaimed previous now old there own =>
        cases hcall
        obtain ⟨e, hentry, ⟨delivery, message, existing, rfl, hrequested, hid, hfound⟩, hdrawn,
          hunacked, hnone⟩ := because_of_entry accounted_entry hrun hthreads hstep
        have hidentity := identity_of_found hrun hthreads hrows hfound there (hid.trans own.2.symm)
        exact ⟨j, delivery, message, custody_of_claim hrun hthreads hbrokered.earlier hstep rfl
          hentry hrequested (hidentity.symm.trans own.1) hdrawn hunacked hnone⟩

end Keeping

section Settling

/-- A statement removes no row but a processed one. -/
theorem kept_of_execute {db db' : InboxDb} {choice : ListenerChoice} {q : ListenerStatement}
    {a : q.Answer} (h : q.execute config choice db = some (a, db')) {row : InboxMessage}
    (hrow : row ∈ db.rows) :
    row.status = .processed ∨ ∃ row' ∈ db'.rows, row'.identity = row.identity := by
  have hupdate : ∀ {f : InboxMessage → InboxMessage} (hf : ∀ row, (f row).identity = row.identity),
      ∃ row' ∈ (db.update f hf).rows, row'.identity = row.identity :=
    fun {f} hf => ⟨f row, Table.mem_update.mpr ⟨row, hrow, rfl⟩, hf row⟩
  cases q with
  | inbox q =>
    cases choice with
    | settled =>
      cases q with
      | message q =>
        obtain rfl : (q.serve config.toInboxConfig db).2 = db' :=
          congrArg Prod.snd (Option.some.inj h)
        cases q with
        | insertIfAbsent other rowId token now =>
          refine .inr ⟨row, ?_, rfl⟩
          dsimp only [InboxRequest.serve]
          split
          · exact hrow
          · rename_i habsent
            exact (Table.mem_insert habsent).mpr (.inl hrow)
        | findUnique other => exact .inr ⟨row, hrow, rfl⟩
        | reclaim | complete | fail =>
          simp only [InboxRequest.serve, updateClaimed]
          exact .inr (hupdate _)
      | suspendExpired now =>
        cases h
        exact .inr (hupdate _)
      | backoffExpired now =>
        cases h
        exact .inr (hupdate _)
      | deleteProcessedOlderThan now =>
        cases h
        by_cases hprocessed : row.status = .processed
        · exact .inl hprocessed
        · refine .inr ⟨row, List.mem_filter.mpr ⟨hrow, ?_⟩, rfl⟩
          simp [InboxMessage.purgeable, hprocessed]
    | _ => cases h
  | complete rowId token now =>
    cases choice with
    | settled =>
      cases h
      exact .inr (hupdate _)
    | refused message =>
      cases h
      exact .inr ⟨row, hrow, rfl⟩
    | lost message =>
      cases h
      simp only [InboxRequest.serve, updateClaimed]
      exact .inr (hupdate _)
  | generate message =>
    cases choice <;> cases h <;> exact .inr ⟨row, hrow, rfl⟩
  | ack delivery =>
    cases choice with
    | settled =>
      cases h
      exact .inr ⟨row, hrow, rfl⟩
    | _ => cases h

/-- A row that was there is there, or was processed in between. -/
theorem present_of_run (h : Run ok S later Q) {row : InboxMessage} (hrow : row ∈ S.store.db.rows) :
    (∃ row' ∈ Q.store.db.rows, row'.identity = row.identity) ∨
      ∃ between rest R, later = between ++ rest ∧ Run ok S between R ∧
        ∃ row' ∈ R.store.db.rows, row'.identity = row.identity ∧ row'.status = .processed := by
  induction h with
  | nil => exact .inl ⟨row, hrow, rfl⟩
  | @snoc later Q R l hrun _ hstep ih =>
    rcases ih with ⟨row', hrow', hidentity⟩ | ⟨between, rest, T, rfl, hbetween, hprocessed⟩
    · have hkept : row'.status = .processed ∨
          ∃ row'' ∈ R.store.db.rows, row''.identity = row'.identity := by
        rcases statement_of_step hstep with ⟨hsame, _⟩ | ⟨_, _, _, _, _, _, hexecute⟩
        · exact .inr ⟨row', hsame ▸ hrow', rfl⟩
        · exact kept_of_execute hexecute hrow'
      rcases hkept with hprocessed | ⟨row'', hrow'', hidentity'⟩
      · exact .inr ⟨later, [l], Q, rfl, hrun, row', hrow', hidentity, hprocessed⟩
      · exact .inl ⟨row'', hrow'', hidentity'.trans hidentity⟩
    · exact .inr ⟨between, rest ++ [l], T, by simp, hbetween, hprocessed⟩

/-- A message that was offered to the inbox is there right after. -/
theorem present_of_offered {db db' : InboxDb} {choice : ListenerChoice} {now : Nat}
    {answer : Option String}
    (h : (ListenerStatement.inbox (.message (.insertIfAbsent identity id claimToken now))).execute
      config choice db = some (answer, db')) :
    ∃ row ∈ db'.rows, row.identity = identity := by
  cases choice with
  | settled =>
    obtain rfl : _ = db' := congrArg Prod.snd (Option.some.inj h)
    dsimp only [InboxRequest.serve]
    split
    · rename_i row hget
      exact ⟨row, Table.mem_of_get? hget, Table.key_of_get? hget⟩
    · rename_i habsent
      exact ⟨_, (Table.mem_insert habsent).mpr (.inr rfl), rfl⟩
  | _ => cases h

/-- When the broker has nothing left to hand out, every message is settled, unless an attempt came
too early after another at the same delivery. -/
theorem settled_of_acknowledged (hrun : Run (fun _ _ => True) P trace Q) (hthreads : P.threads = [])
    (hrows : P.store.db.rows = []) (hbrokered : Brokered trace) (hunhurried : Unhurried trace)
    (hacked : AllAcknowledged trace) : AllSettled P trace Q.store.db where
  rows := by
    intro row hrow
    cases hstatus : row.status with
    | processed => exact .inl rfl
    | suspended => exact .inr rfl
    | inProgress =>
      obtain ⟨i, delivery, message, hcustody⟩ := custody_of_run hrun hthreads hrows hbrokered
        hunhurried row hrow ⟨hstatus, rfl, rfl, rfl⟩
      obtain ⟨k, hk⟩ := hacked delivery message (List.mem_of_getElem? hcustody.entry)
      exact absurd hk (hcustody.unacked k)
  received := by
    intro delivery message hmem hrequested
    obtain ⟨i, hi⟩ := List.mem_iff_getElem?.mp hmem
    obtain ⟨k, hk⟩ := hacked delivery message hmem
    obtain ⟨message', hentry, hoffered⟩ := attempt_of_acked hrun hthreads hk
    obtain rfl := attempts_alike hrun hbrokered hi hentry
    obtain ⟨id, claimToken, now, answer, hcall⟩ := hoffered hrequested
    obtain ⟨front, hserved⟩ := mem_calls.mp hcall
    obtain ⟨earlier, rest, rfl⟩ := List.append_of_mem hserved
    obtain ⟨S, S', hbefore, hok, hstep, hafter⟩ := run_of_append hrun
    obtain ⟨choice, db, hexecute, hstore⟩ := serves_statement.mp hstep.answered
    obtain ⟨row, hrow, hidentity⟩ := present_of_offered hexecute
    have hthere : row ∈ S'.store.db.rows := by
      rw [hstore]
      exact hrow
    rcases present_of_run hafter hthere with
      ⟨row', hrow', hsame⟩ | ⟨between, rest', T, rfl, hbetween, row', hrow', hsame, hprocessed⟩
    · exact .inl ⟨row', hrow', hsame.trans hidentity⟩
    · refine .inr ⟨_, rest', T, ?_, (hbefore.snoc hok hstep).append hbetween, row', hrow',
        hsame.trans hidentity, hprocessed⟩
      rw [List.append_assoc, List.append_assoc]
      rfl

end Settling

section Example

theorem Brokered.snoc (h : Brokered trace)
    (hstart : ∀ delivery message, l = .start (.deliver delivery message) →
      ∀ i message', (entries trace)[i]? = some (.deliver delivery message') →
        message' = message ∧ Stopped i trace ∧ ¬ AckedIn (calls i trace) delivery) :
    Brokered (trace ++ [l]) := by
  intro earlier rest delivery message heq
  rcases List.eq_nil_or_concat rest with rfl | ⟨rest, last, rfl⟩
  · obtain ⟨rfl, hl⟩ := List.append_inj' heq rfl
    exact hstart delivery message (List.cons.inj hl).1
  · rw [List.concat_eq_append, ← List.cons_append, ← List.append_assoc] at heq
    obtain ⟨htrace, _⟩ := List.append_inj' heq rfl
    exact h earlier rest delivery message htrace

theorem Brokered.append (h : Brokered trace) (hlater : ∀ e ∈ entries later, e = .sweep) :
    Brokered (trace ++ later) := by
  induction later generalizing trace with
  | nil =>
    rw [List.append_nil]
    exact h
  | cons l later ih =>
    rw [← List.singleton_append, entries_append] at hlater
    rw [← List.singleton_append, ← List.append_assoc]
    refine ih (h.snoc fun delivery message hl => ?_) fun e he =>
      hlater e (List.mem_append_right _ he)
    subst hl
    have hsweep := hlater (.deliver delivery message)
      (List.mem_append_left _ (List.mem_singleton_self _))
    cases hsweep

def acknowledges (i delivery : Nat) : Label (listenerSystem config) → Bool
  | .served j (.statement (.ack delivery')) _ _ => decide (j = i ∧ delivery' = delivery)
  | _ => false

theorem ackedIn_iff : AckedIn (calls i trace) delivery ↔
    ∃ l ∈ trace, acknowledges i delivery l = true := by
  constructor
  · intro h
    obtain ⟨front, hserved⟩ := mem_calls.mp h
    exact ⟨_, hserved, by simp [acknowledges]⟩
  · rintro ⟨l, hmem, hacks⟩
    unfold acknowledges at hacks
    split at hacks
    · rename_i j delivery' answer front
      obtain ⟨rfl, rfl⟩ := of_decide_eq_true hacks
      exact mem_calls.mpr ⟨front, hmem⟩
    · cases hacks

/-- One delivery is attempted for the second time at this step, once the first attempt has failed. -/
def RedeliveredAt (n delivery : Nat) (message : OccurrenceMessage)
    (trace : List (Label (listenerSystem config))) : Prop :=
  entries (trace.take n) = [.deliver delivery message] ∧
    ((trace)[n]?).bind Label.entry? = some (.deliver delivery message) ∧
      (∀ e ∈ entries (trace.drop (n + 1)), e = .sweep) ∧ (∃ l ∈ trace.take n, l.stops 0) ∧
        ∀ l ∈ trace.take n, acknowledges 0 delivery l = false

instance (n delivery : Nat) (message : OccurrenceMessage)
    (trace : List (Label (listenerSystem config))) :
    Decidable (RedeliveredAt n delivery message trace) := by
  unfold RedeliveredAt
  infer_instance

theorem split_of_redelivered {n : Nat} (h : RedeliveredAt n delivery message trace) :
    trace = trace.take n ++
      [(.start (.deliver delivery message) : Label (listenerSystem config))] ++
      trace.drop (n + 1) := by
  obtain ⟨_, hstart, _⟩ := h
  obtain ⟨l, hl, hentry⟩ := Option.bind_eq_some_iff.mp hstart
  obtain ⟨hlt, hget⟩ := List.getElem?_eq_some_iff.mp hl
  have hl' : l = .start (.deliver delivery message) := by
    cases l with
    | start entry =>
      cases hentry
      rfl
    | served i q a f => cases hentry
    | raised i q => cases hentry
  rw [← hl', List.append_assoc, List.singleton_append, ← hget, List.cons_getElem_drop_succ,
    List.take_append_drop]

theorem allAcknowledged_of_redelivered {n : Nat} (h : RedeliveredAt n delivery message trace)
    (hacked : ∃ l ∈ trace, acknowledges i delivery l = true) : AllAcknowledged trace := by
  intro delivery' message' hmem
  rw [split_of_redelivered h, entries_append, entries_append, h.1] at hmem
  have hsame : delivery' = delivery := by
    rcases List.mem_append.mp hmem with hmem | hmem
    · rcases List.mem_append.mp hmem with hmem | hmem
      · exact (ListenerEntry.deliver.inj (List.mem_singleton.mp hmem)).1
      · exact (ListenerEntry.deliver.inj (List.mem_singleton.mp hmem)).1
    · cases h.2.2.1 _ hmem
  rw [hsame]
  exact ⟨i, ackedIn_iff.mpr hacked⟩

theorem brokered_of_redelivered {n : Nat} (h : RedeliveredAt n delivery message trace) :
    Brokered trace := by
  rw [split_of_redelivered h]
  obtain ⟨hfirst, _, hrest, hstopped, hunacked⟩ := h
  refine Brokered.append (Brokered.snoc ?_ ?_) hrest
  · intro earlier rest delivery' message' heq i message'' hi
    rw [heq, entries_append] at hfirst
    have hlength := congrArg List.length hfirst
    rw [List.length_append, List.length_singleton] at hlength
    have hmore : 0 < (entries (.start (.deliver delivery' message') :: rest :
        List (Label (listenerSystem config)))).length := by simp [entries, Label.entry?]
    have hi' := (List.getElem?_eq_some_iff.mp hi).1
    omega
  · rintro delivery' message' heq i message'' hi
    obtain ⟨rfl, rfl⟩ := ListenerEntry.deliver.inj (Label.start.inj heq)
    rw [hfirst] at hi
    cases i with
    | zero =>
      cases hi
      refine ⟨rfl, hstopped, fun hacked => ?_⟩
      obtain ⟨l, hmem, hacks⟩ := ackedIn_iff.mp hacked
      cases (hunacked l hmem).symm.trans hacks
    | succ i => cases hi

/-- What the thread has read off the clock. -/
def reading? (i : Nat) : Label (listenerSystem config) → Option Nat
  | .served j .clock now _ => if j = i then some now else none
  | _ => none

/-- If the step finds a message, it may be claimed again by all readings of its thread. -/
def inTime (trace : List (Label (listenerSystem config))) : Label (listenerSystem config) → Bool
  | .served j (.statement (.inbox (.message (.findUnique _)))) (some existing) _ =>
    (trace.filterMap (reading? j)).all (existing.reclaimable config.toInboxConfig ·)
  | _ => true

theorem unhurried_of_inTime (h : ∀ l ∈ trace, inTime trace l = true) : Unhurried trace := by
  rintro earlier rest j delivery message existing front rfl _ _ ⟨now, hnow, hearly⟩
  have hall := h _ (List.mem_append_right _ List.mem_cons_self)
  obtain ⟨front', hserved⟩ := mem_calls.mp hnow
  have hread := List.all_eq_true.mp hall now
    (List.mem_filterMap.mpr ⟨_, List.mem_append_left _ hserved, if_pos rfl⟩)
  cases hearly.symm.trans hread

def brief : InboxSweepConfig := ⟨⟨100, 10, 50⟩, 1, 1000⟩

def requested : OccurrenceMessage :=
  ⟨"RecurringOccurrenceRequested", "PurchaseOrder", "e1", some "t", some "c"⟩

abbrev BriefPool := Pool (listenerSystem brief)

def quiet : BriefPool := ⟨⟨.empty, 0, []⟩, []⟩

/-- An attempt that draws these identifiers at this time, up to its answer from the inbox. -/
def attempt (thread : Nat) (id claimToken : String) (now : Nat) :
    List (Move (listenerSystem brief)) :=
  [.start (.deliver 0 requested), .serve thread (.randomUUID id),
    .serve thread (.randomUUID claimToken), .serve thread (.clock now),
    .serve thread (.statement .settled)]

/-- The first attempt, whose handler throws. -/
def fails : List (Move (listenerSystem brief)) :=
  attempt 0 "r1" "T1" 5 ++
    ([.serve 0 (.statement (.refused "down")), .serve 0 (.clock 6),
      .serve 0 (.statement .settled)] : List (Move (listenerSystem brief)))

/-- The redelivery comes before the retry is due: it is acknowledged, and the message stays in
progress for good; the sweep does not take it up. -/
theorem left_in_progress : ∃ (Q : BriefPool) (trace : List (Label (listenerSystem brief))),
    Run (fun _ _ => True) quiet trace Q ∧ Brokered trace ∧ AllAcknowledged trace ∧
      Q.store.db.rows.map InboxMessage.status = [.inProgress] ∧
        ¬ AllSettled quiet trace Q.store.db := by
  have hplay : ((quiet.record (fun _ _ => True) (fails ++ attempt 1 "r2" "T2" 6 ++
      ([.serve 1 (.statement .settled), .serve 1 (.statement .settled), .start .sweep,
        .serve 2 (.clock 100000), .serve 2 (.statement .settled), .serve 2 (.statement .settled),
        .serve 2 (.clock 100000), .serve 2 (.statement .settled)] :
          List (Move (listenerSystem brief))))).map fun r =>
          decide (RedeliveredAt 8 0 requested r.1 ∧
            (∃ l ∈ r.1, acknowledges 1 0 l = true) ∧
                r.2.store.db.rows.map InboxMessage.status = [.inProgress])) = some true := by
    decide
  obtain ⟨Q, trace, hrun, hredelivered, hacked, hrows⟩ :
      ∃ (Q : BriefPool) (trace : List (Label (listenerSystem brief))),
        Run (fun _ _ => True) quiet trace Q ∧ RedeliveredAt 8 0 requested trace ∧
          (∃ l ∈ trace, acknowledges 1 0 l = true) ∧
              Q.store.db.rows.map InboxMessage.status = [.inProgress] :=
    Pool.record_reach hplay
  refine ⟨Q, trace, hrun, brokered_of_redelivered hredelivered,
    allAcknowledged_of_redelivered hredelivered hacked, hrows, fun h => ?_⟩
  have hmem : InboxStatus.inProgress ∈ Q.store.db.rows.map InboxMessage.status := by simp [hrows]
  obtain ⟨row, hrow, hstatus⟩ := List.mem_map.mp hmem
  rcases h.rows row hrow with hprocessed | hsuspended
  · cases hstatus.symm.trans hprocessed
  · cases hstatus.symm.trans hsuspended

/-- The redelivery comes when the retry is due, and completes. -/
theorem settled_of_acknowledged_demo :
    ∃ (Q : BriefPool) (trace : List (Label (listenerSystem brief))),
      Run (fun _ _ => True) quiet trace Q ∧
        Q.store.db.rows.map InboxMessage.status = [.processed] ∧
          AllSettled quiet trace Q.store.db := by
  have hplay : ((quiet.record (fun _ _ => True) (fails ++ attempt 1 "r2" "T2" 50 ++
      ([.serve 1 (.statement .settled), .serve 1 (.statement .settled),
        .serve 1 (.statement .settled), .serve 1 (.clock 51), .serve 1 (.statement .settled),
        .serve 1 (.statement .settled)] : List (Move (listenerSystem brief))))).map fun r =>
          decide (RedeliveredAt 8 0 requested r.1 ∧
            (∃ l ∈ r.1, acknowledges 1 0 l = true) ∧ (∀ l ∈ r.1, inTime r.1 l = true) ∧
                r.2.store.db.rows.map InboxMessage.status = [.processed])) = some true := by
    decide
  obtain ⟨Q, trace, hrun, hredelivered, hacked, htime, hrows⟩ :
      ∃ (Q : BriefPool) (trace : List (Label (listenerSystem brief))),
        Run (fun _ _ => True) quiet trace Q ∧ RedeliveredAt 8 0 requested trace ∧
          (∃ l ∈ trace, acknowledges 1 0 l = true) ∧ (∀ l ∈ trace, inTime trace l = true) ∧
              Q.store.db.rows.map InboxMessage.status = [.processed] :=
    Pool.record_reach hplay
  exact ⟨Q, trace, hrun, hrows, settled_of_acknowledged hrun rfl rfl
    (brokered_of_redelivered hredelivered) (unhurried_of_inTime htime)
    (allAcknowledged_of_redelivered hredelivered hacked)⟩

end Example

end DddBoilerplate.Messaging
