/- module: DddBoilerplate/Messaging/Acknowledgement
   generality: I
   digest: What a listener did before it acknowledged: it completed its message, or was not given it. -/

import DddBoilerplate.Concurrency.History
import DddBoilerplate.Messaging.Deliveries

set_option autoImplicit false
set_option relaxedAutoImplicit false
set_option linter.all false

namespace DddBoilerplate.Messaging

open Concurrency Store

abbrev ListenerCall := Call ListenerStatement.interface.world

section Histories

/-- What a call claims: the row, and the token it is claimed under. -/
def ListenerCall.claimed? : ListenerCall → Option (String × String)
  | ⟨.statement (.inbox (.message (.insertIfAbsent _ _ claimToken _))), answer⟩ =>
    (answer : Option String).map fun id => (id, claimToken)
  | ⟨.statement (.inbox (.message (.reclaim id _ claimToken _))), answer⟩ =>
    if (answer : Bool) then some (id, claimToken) else none
  | _ => none

/-- The thread has claimed a message under this token. -/
def Acquired (history : List ListenerCall) (id claimToken : String) : Prop :=
  ∃ call ∈ history, ListenerCall.claimed? call = some (id, claimToken)

/-- The thread was told that its completion went through, whether or not a row matched. -/
def CompletedIn (history : List ListenerCall) (id claimToken : String) : Prop :=
  ∃ now completed,
    (⟨.statement (.complete id claimToken now), .ok completed⟩ : ListenerCall) ∈ history

/-- The thread looked the message up, and was not given it: it was not there, or no longer in
progress, or its claim was live or its retry not due, or it was claimed by another first. -/
def TurnedAway (config : InboxSweepConfig) (identity : InboxIdentity)
    (history : List ListenerCall) : Prop :=
  ∃ before row after,
    history = before ++
      (⟨.statement (.inbox (.message (.findUnique identity))), row⟩ : ListenerCall) :: after ∧
    ∀ existing, row = some existing → existing.status = .inProgress →
      (∃ now, (⟨.clock, now⟩ : ListenerCall) ∈ before ∧
        existing.reclaimable config.toInboxConfig now = false) ∨
      ∃ token now, (⟨.statement (.inbox (.message
        (.reclaim existing.id existing.claimToken token now))), false⟩ : ListenerCall) ∈ after

/-- The thread has offered the message to the inbox. -/
def Offered (message : OccurrenceMessage) (history : List ListenerCall) : Prop :=
  ∃ id claimToken now answer, (⟨.statement (.inbox (.message
    (.insertIfAbsent message.identity id claimToken now))), answer⟩ : ListenerCall) ∈ history

/-- The thread has acknowledged its delivery. -/
def AckedIn (history : List ListenerCall) (delivery : Nat) : Prop :=
  (⟨.statement (.ack delivery), ()⟩ : ListenerCall) ∈ history

/-- Why a thread makes its requests. It claims with a token of its own, and once; it completes what
it has claimed; and it acknowledges what it has completed, or was not given. -/
def DeliveryBecause (config : InboxSweepConfig) (entry : ListenerEntry)
    (history : List ListenerCall) : ListenerStatement.interface.world.Request → Prop
  | .statement (.inbox (.message (.insertIfAbsent identity id claimToken _))) =>
    (∃ delivery message, entry = .deliver delivery message ∧ message.isRequested = true ∧
      message.identity = identity) ∧
    (⟨.randomUUID, id⟩ : ListenerCall) ∈ history ∧
    (⟨.randomUUID, claimToken⟩ : ListenerCall) ∈ history ∧
    (∀ delivery, ¬ AckedIn history delivery) ∧ ∀ id claimToken, ¬ Acquired history id claimToken
  | .statement (.inbox (.message (.reclaim id _ claimToken _))) =>
    (∃ delivery message existing, entry = .deliver delivery message ∧
      message.isRequested = true ∧ existing.id = id ∧
      (⟨.statement (.inbox (.message (.findUnique message.identity))), some existing⟩ :
        ListenerCall) ∈ history) ∧
    (⟨.randomUUID, claimToken⟩ : ListenerCall) ∈ history ∧
    (∀ delivery, ¬ AckedIn history delivery) ∧ ∀ id claimToken, ¬ Acquired history id claimToken
  | .statement (.complete id claimToken _) => Acquired history id claimToken
  | .statement (.ack delivery) => ∃ message, entry = .deliver delivery message ∧
    (∀ id claimToken, Acquired history id claimToken → CompletedIn history id claimToken) ∧
    (message.isRequested = true → Offered message history ∧
      ((∃ id claimToken, Acquired history id claimToken) ∨
        TurnedAway config message.identity history))
  | _ => True

variable {config : InboxSweepConfig} {history : List ListenerCall} {id claimToken : String}

theorem not_acquired_nil : ¬ Acquired [] id claimToken := by
  rintro ⟨_, hmem, _⟩
  cases hmem

theorem acquired_snoc {call : ListenerCall} :
    Acquired (history ++ [call]) id claimToken ↔
      Acquired history id claimToken ∨ ListenerCall.claimed? call = some (id, claimToken) := by
  constructor
  · rintro ⟨found, hmem, hclaimed⟩
    rcases List.mem_append.mp hmem with hmem | hmem
    · exact .inl ⟨found, hmem, hclaimed⟩
    · rw [List.mem_singleton.mp hmem] at hclaimed
      exact .inr hclaimed
  · rintro (⟨found, hmem, hclaimed⟩ | hclaimed)
    · exact ⟨found, List.mem_append_left _ hmem, hclaimed⟩
    · exact ⟨call, List.mem_append_right _ (List.mem_singleton_self _), hclaimed⟩

theorem not_acquired_snoc {call : ListenerCall}
    (h : ∀ id claimToken, ¬ Acquired history id claimToken)
    (hcall : ListenerCall.claimed? call = none) :
    ∀ id claimToken, ¬ Acquired (history ++ [call]) id claimToken := by
  intro id claimToken hacquired
  rcases acquired_snoc.mp hacquired with hbefore | hnow
  · exact h id claimToken hbefore
  · cases hcall.symm.trans hnow

/-- The thread has claimed this and nothing else. -/
structure Claims (history : List ListenerCall) (id claimToken : String) : Prop where
  acquired : Acquired history id claimToken
  only : ∀ id' claimToken', Acquired history id' claimToken' → id' = id ∧ claimToken' = claimToken

theorem Claims.snoc {call : ListenerCall} (h : Claims history id claimToken)
    (hcall : ListenerCall.claimed? call = none) :
    Claims (history ++ [call]) id claimToken where
  acquired := acquired_snoc.mpr (.inl h.acquired)
  only := by
    intro id' claimToken' hacquired
    rcases acquired_snoc.mp hacquired with hbefore | hnow
    · exact h.only id' claimToken' hbefore
    · cases hcall.symm.trans hnow

theorem claims_of_call {call : ListenerCall} (h : ∀ id claimToken, ¬ Acquired history id claimToken)
    (hcall : ListenerCall.claimed? call = some (id, claimToken)) :
    Claims (history ++ [call]) id claimToken where
  acquired := acquired_snoc.mpr (.inr hcall)
  only := by
    intro id' claimToken' hacquired
    rcases acquired_snoc.mp hacquired with hbefore | hnow
    · exact absurd hbefore (h id' claimToken')
    · rw [hcall] at hnow
      cases hnow
      exact ⟨rfl, rfl⟩

variable {delivery : Nat} {message : OccurrenceMessage}

theorem Offered.mono {history' : List ListenerCall} (h : Offered message history)
    (hsubset : history ⊆ history') : Offered message history' := by
  obtain ⟨id, claimToken, now, answer, hmem⟩ := h
  exact ⟨id, claimToken, now, answer, hsubset hmem⟩

theorem Offered.snoc {call : ListenerCall} (h : Offered message history) :
    Offered message (history ++ [call]) := h.mono (List.subset_append_left _ _)

/-- Whoever has claimed the message completes it before it acknowledges. -/
theorem accounted_handling {reservation : InboxReservation}
    (h : Claims history reservation.id reservation.claimToken) (hoffered : Offered message history) :
    Accounted (DeliveryBecause config (.deliver delivery message)) (fun _ _ => True) history
      ((handleOccurrence message reservation).handle
        (fun _ => listenerStatement (.ack delivery)) (failOccurrence reservation)) := by
  have hfail : ∀ {history : List ListenerCall} {error : String},
      Accounted (DeliveryBecause config (.deliver delivery message)) (fun _ _ => True) history
        (failOccurrence reservation error) :=
    ⟨trivial, fun now => ⟨trivial, fun failed => trivial⟩⟩
  refine ⟨trivial, fun answer => ?_⟩
  cases answer with
  | error e => exact hfail
  | ok done =>
    refine ⟨trivial, fun now => ⟨((h.snoc rfl).snoc rfl).acquired, fun answer => ?_⟩⟩
    cases answer with
    | error e => exact hfail
    | ok completed =>
      have hclaims : Claims (history ++ [(⟨.statement (.generate message), .ok done⟩ : ListenerCall)]
          ++ [⟨.clock, now⟩] ++
            [⟨.statement (.complete reservation.id reservation.claimToken now), .ok completed⟩])
          reservation.id reservation.claimToken := ((h.snoc rfl).snoc rfl).snoc rfl
      refine ⟨⟨message, rfl, fun id claimToken hacquired => ?_,
        fun _ => ⟨hoffered.snoc.snoc.snoc, .inl ?_⟩⟩,
        fun _ => trivial⟩
      · obtain ⟨rfl, rfl⟩ := hclaims.only id claimToken hacquired
        exact ⟨now, completed, List.mem_append_right _ (List.mem_singleton_self _)⟩
      · exact ⟨_, _, hclaims.acquired⟩

/-- A delivery that was turned away is acknowledged. -/
theorem because_turnedAway (hnone : ∀ id claimToken, ¬ Acquired history id claimToken)
    (hoffered : Offered message history) (haway : TurnedAway config message.identity history) :
    DeliveryBecause config (.deliver delivery message) history (.statement (.ack delivery)) :=
  ⟨message, rfl, fun id claimToken hacquired => absurd hacquired (hnone id claimToken),
    fun _ => ⟨hoffered, .inr haway⟩⟩

theorem accounted_delivery :
    Accounted (DeliveryBecause config (.deliver delivery message)) (fun _ _ => True) []
      (onRecurringOccurrenceRequested config delivery message) := by
  unfold onRecurringOccurrenceRequested
  split
  · rename_i hrequested
    refine ⟨trivial, fun rowId => ⟨trivial, fun token => ⟨trivial, fun now => ?_⟩⟩⟩
    generalize hhistory : ([] ++ [(⟨.randomUUID, rowId⟩ : ListenerCall)] ++
      [⟨.randomUUID, token⟩] ++ [⟨.clock, now⟩]) = history
    have hnone : ∀ id claimToken, ¬ Acquired history id claimToken := by
      rw [← hhistory]
      exact not_acquired_snoc (not_acquired_snoc (not_acquired_snoc
        (fun _ _ => not_acquired_nil) rfl) rfl) rfl
    have hid : (⟨.randomUUID, rowId⟩ : ListenerCall) ∈ history := by simp [← hhistory]
    have htoken : (⟨.randomUUID, token⟩ : ListenerCall) ∈ history := by simp [← hhistory]
    have hnow : (⟨.clock, now⟩ : ListenerCall) ∈ history := by simp [← hhistory]
    have hunacked : ∀ delivery, ¬ AckedIn history delivery := by simp [← hhistory, AckedIn]
    refine ⟨⟨⟨delivery, message, rfl, hrequested, rfl⟩, hid, htoken, hunacked, hnone⟩,
      fun inserted => ?_⟩
    have hoffered : ∀ {answer : Option String}, Offered message (history ++ [(⟨.statement (.inbox
        (.message (.insertIfAbsent message.identity rowId token now))), answer⟩ : ListenerCall)]) :=
      ⟨_, _, _, _, List.mem_append_right _ (List.mem_singleton_self _)⟩
    cases inserted with
    | some id => exact accounted_handling (claims_of_call hnone rfl) hoffered
    | none =>
      refine ⟨trivial, fun found => ?_⟩
      have hnone₂ : ∀ {a : Option String} {found : Option InboxMessage}, a = none →
          ∀ id claimToken, ¬ Acquired (history ++ [(⟨.statement (.inbox (.message (.insertIfAbsent
            message.identity rowId token now))), a⟩ : ListenerCall)] ++
              [⟨.statement (.inbox (.message (.findUnique message.identity))), found⟩])
                id claimToken := by
        rintro a found rfl
        exact not_acquired_snoc (not_acquired_snoc hnone rfl) rfl
      cases found with
      | none =>
        refine ⟨because_turnedAway (hnone₂ rfl) hoffered.snoc ⟨_, none, [], rfl, ?_⟩,
          fun _ => trivial⟩
        intro existing h
        cases h
      | some existing =>
        obtain ⟨id, identity, status, attempts, claimToken, claimedAt, processedAt, nextAttemptAt,
          lastError⟩ := existing
        cases status with
        | suspended =>
          refine ⟨because_turnedAway (hnone₂ rfl) hoffered.snoc ⟨_, some _, [], rfl, ?_⟩,
            fun _ => trivial⟩
          rintro existing ⟨⟩ hstatus
          cases hstatus
        | processed =>
          refine ⟨because_turnedAway (hnone₂ rfl) hoffered.snoc ⟨_, some _, [], rfl, ?_⟩,
            fun _ => trivial⟩
          rintro existing ⟨⟩ hstatus
          cases hstatus
        | inProgress =>
          change Accounted _ _ _ (Program.bind (ite _ _ (ite _ _ _)) _)
          split
          · rename_i hlive
            refine ⟨because_turnedAway (hnone₂ rfl) hoffered.snoc ⟨_, some _, [], rfl, ?_⟩,
              fun _ => trivial⟩
            rintro existing ⟨⟩ _
            refine .inl ⟨now, List.mem_append_left _ hnow, ?_⟩
            simp [InboxMessage.reclaimable, hlive]
          · rename_i hlapsed
            split
            · rename_i hearly
              refine ⟨because_turnedAway (hnone₂ rfl) hoffered.snoc ⟨_, some _, [], rfl, ?_⟩,
                fun _ => trivial⟩
              rintro existing ⟨⟩ _
              refine .inl ⟨now, List.mem_append_left _ hnow, ?_⟩
              simp [InboxMessage.reclaimable, hearly]
            · refine ⟨⟨⟨delivery, message, _, rfl, hrequested, rfl, ?_⟩, ?_, ?_, hnone₂ rfl⟩,
                fun reclaimed => ?_⟩
              · exact List.mem_append_right _ (List.mem_singleton_self _)
              · exact List.mem_append_left _ (List.mem_append_left _ htoken)
              · intro delivery' hacked
                rcases List.mem_append.mp hacked with hacked | hacked
                · rcases List.mem_append.mp hacked with hacked | hacked
                  · exact hunacked delivery' hacked
                  · cases List.mem_singleton.mp hacked
                · cases List.mem_singleton.mp hacked
              · cases reclaimed with
                | true =>
                  exact accounted_handling (claims_of_call (hnone₂ rfl) rfl) hoffered.snoc.snoc
                | false =>
                  refine ⟨because_turnedAway (not_acquired_snoc (hnone₂ rfl) rfl)
                    hoffered.snoc.snoc ⟨_, some _, [_], List.append_assoc _ _ _, ?_⟩,
                      fun _ => trivial⟩
                  rintro existing ⟨⟩ _
                  exact .inr ⟨token, now, List.mem_singleton_self _⟩
  · rename_i hother
    exact ⟨⟨message, rfl, fun id claimToken h => absurd h not_acquired_nil,
      fun h => absurd h hother⟩, fun _ => trivial⟩

theorem accounted_entry (entry : ListenerEntry) :
    Accounted (DeliveryBecause config entry) (fun _ _ => True) [] (entry.program config) := by
  cases entry with
  | deliver delivery message => exact accounted_delivery
  | sweep =>
    exact ⟨trivial, fun _ => ⟨trivial, fun _ => ⟨trivial, fun _ => ⟨trivial, fun _ =>
      ⟨trivial, fun _ => trivial⟩⟩⟩⟩⟩

end Histories

end DddBoilerplate.Messaging
