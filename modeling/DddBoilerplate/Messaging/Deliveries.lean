/- module: DddBoilerplate/Messaging/Deliveries
   generality: I
   digest: A listener behind the inbox: its deliveries, the handler, and what the broker is told at the end. -/

import DddBoilerplate.Concurrency.History
import DddBoilerplate.Concurrency.World
import DddBoilerplate.Messaging.InboxTokens

set_option autoImplicit false
set_option relaxedAutoImplicit false
set_option linter.all false

namespace DddBoilerplate.Messaging

open Concurrency Store

/-- What the listener reads of an envelope and of its payload. -/
structure OccurrenceMessage where
  eventType : String
  targetEntityType : String
  eventId : String
  tenantId : Option String
  companyId : Option String
  deriving DecidableEq

namespace OccurrenceMessage

/-- `'RecurringOccurrenceRequestedRabbitMQListener'` -/
def consumer : String := "RecurringOccurrenceRequestedRabbitMQListener"

def identity (message : OccurrenceMessage) : InboxIdentity :=
  ⟨message.tenantId.getD "", message.companyId.getD "", consumer, message.eventId⟩

/-- The two early returns of the listener are not taken. -/
def isRequested (message : OccurrenceMessage) : Bool :=
  message.eventType = "RecurringOccurrenceRequested" && message.targetEntityType = "PurchaseOrder"

end OccurrenceMessage

/-- The statements of the inbox, its `complete` where a failure is caught, the handler, and the
acknowledgement of a delivery to the broker. -/
inductive ListenerStatement where
  | inbox (q : InboxStatement)
  | complete (id claimToken : String) (now : Nat)
  | generate (message : OccurrenceMessage)
  | ack (delivery : Nat)

@[reducible] def ListenerStatement.Answer : ListenerStatement → Type
  | inbox q => q.Answer
  | complete _ _ _ => Except String Bool
  | generate _ => Except String Unit
  | ack _ => Unit

abbrev ListenerStatement.interface : Interface := ⟨ListenerStatement, ListenerStatement.Answer⟩

/-- Whether a call throws, before or after it has had its effect. -/
inductive ListenerChoice where
  | settled
  | refused (message : String)
  | lost (message : String)

def ListenerStatement.execute (config : InboxSweepConfig) :
    (q : ListenerStatement) → ListenerChoice → InboxDb → Option (q.Answer × InboxDb)
  | inbox q, .settled, db => q.execute config () db
  | complete id claimToken now, .settled, db =>
    let (completed, db') := (InboxRequest.complete id claimToken now).serve config.toInboxConfig db
    some (.ok completed, db')
  | complete _ _ _, .refused message, db => some (.error message, db)
  | complete id claimToken now, .lost message, db =>
    some (.error message,
      ((InboxRequest.complete id claimToken now).serve config.toInboxConfig db).2)
  | generate _, .settled, db => some (.ok (), db)
  | generate _, .refused message, db => some (.error message, db)
  | ack _, .settled, db => some ((), db)
  | _, _, _ => none

abbrev ListenerProgram := Program ListenerStatement.interface.world

section Listening

def readClock : ListenerProgram Nat := .ask .clock .done

def drawUUID : ListenerProgram String := .ask .randomUUID .done

def listenerStatement (q : ListenerStatement) : ListenerProgram q.Answer := .ask (.statement q) .done

def inboxCall (q : InboxRequest) : ListenerProgram q.Answer :=
  .ask (.statement (.inbox (.message q))) .done

/-- What is answered with an exception is thrown. -/
def thrown {α : Type} (m : ListenerProgram (Except String α)) : ListenerProgram α := do
  let answer ← m
  Program.lift answer

/-- The body of the `try`. -/
def handleOccurrence (message : OccurrenceMessage) (reservation : InboxReservation) :
    ListenerProgram Unit := do
  thrown (listenerStatement (.generate message))
  let now ← readClock
  let _completed : Bool ←
    thrown (listenerStatement (.complete reservation.id reservation.claimToken now))
  return ()

/-- The body of the `catch`. -/
def failOccurrence (reservation : InboxReservation) (error : String) : ListenerProgram Unit := do
  let now ← readClock
  let _failed : Bool ← inboxCall (.fail reservation.id reservation.claimToken (some error) now)
  .fail error

variable (config : InboxSweepConfig)

/-- `onRecurringOccurrenceRequested`, and the acknowledgement once it has returned. -/
def onRecurringOccurrenceRequested (delivery : Nat) (message : OccurrenceMessage) :
    ListenerProgram Unit :=
  if message.isRequested then do
    let id ← drawUUID
    let claimToken ← drawUUID
    let now ← readClock
    let result ← receive inboxCall config.toInboxConfig message.identity id claimToken now
    match result with
    | .acquired reservation =>
      (handleOccurrence message reservation).handle
        (fun _ => listenerStatement (.ack delivery)) (failOccurrence reservation)
    | .duplicate | .busy => listenerStatement (.ack delivery)
  else listenerStatement (.ack delivery)

/-- `InboxReconciler.reconcile` -/
def sweepInbox : ListenerProgram Unit := do
  let now ← readClock
  let _suspended : Nat ← listenerStatement (.inbox (.suspendExpired now))
  let _backoffed : Nat ← listenerStatement (.inbox (.backoffExpired now))
  let now ← readClock
  let _purged : Nat ← listenerStatement (.inbox (.deleteProcessedOlderThan now))
  return ()

/-- An attempt at a delivery, and the cron. -/
inductive ListenerEntry where
  | deliver (delivery : Nat) (message : OccurrenceMessage)
  | sweep
  deriving DecidableEq

def ListenerEntry.program : ListenerEntry → ListenerProgram Unit
  | deliver delivery message => onRecurringOccurrenceRequested config delivery message
  | sweep => sweepInbox

/-- One inbox, and any number of deliveries and sweeps over it. -/
abbrev listenerSystem : System :=
  worldSystem (ListenerStatement.execute config) (ListenerEntry.program config)

end Listening

section Rows

variable {config : InboxSweepConfig} {db db' : InboxDb} {choice : ListenerChoice}

abbrev ListenerAnswer := Call ListenerStatement.interface

/-- A message in progress under this token. -/
structure InProgress (identity : InboxIdentity) (id claimToken : String) (row : InboxMessage) :
    Prop where
  status : row.status = .inProgress
  identity : row.identity = identity
  id : row.id = id
  claimToken : row.claimToken = claimToken

/-- Where a message in progress comes from: it was so, and this call has not completed it; or the
call has claimed it. -/
inductive Comes (db : InboxDb) (identity : InboxIdentity) (id claimToken : String) :
    ListenerAnswer → Prop where
  | kept (call : ListenerAnswer) (row : InboxMessage) (there : row ∈ db.rows)
      (progress : InProgress identity id claimToken row)
      (unsettled : ∀ now completed, call ≠ ⟨.complete id claimToken now, .ok completed⟩) :
      Comes db identity id claimToken call
  | inserted (now : Nat) :
      Comes db identity id claimToken
        ⟨.inbox (.message (.insertIfAbsent identity id claimToken now)), some id⟩
  | reclaimed (previous : String) (now : Nat) (row : InboxMessage) (there : row ∈ db.rows)
      (own : row.identity = identity ∧ row.id = id) :
      Comes db identity id claimToken
        ⟨.inbox (.message (.reclaim id previous claimToken now)), true⟩

variable {identity : InboxIdentity} {id claimToken : String}

/-- A call that rewrites rows and completes none leaves those in progress as they are, or claims
none of them. -/
theorem comes_of_same {call : ListenerAnswer} {row : InboxMessage} (hrow : row ∈ db.rows)
    (hprogress : InProgress identity id claimToken row)
    (hcall : ∀ id claimToken now completed, call ≠ ⟨.complete id claimToken now, .ok completed⟩) :
    Comes db identity id claimToken call :=
  .kept call row hrow hprogress (hcall id claimToken)

theorem claimedBy_of_inProgress {row : InboxMessage} (h : InProgress identity id claimToken row) :
    row.claimedBy id claimToken = true := by
  simp [InboxMessage.claimedBy, h.status, h.id, h.claimToken]

theorem comes_of_message {q : InboxRequest} {row' : InboxMessage}
    (hrow' : row' ∈ (q.serve config.toInboxConfig db).2.rows)
    (hprogress : InProgress identity id claimToken row') :
    Comes db identity id claimToken
      ⟨.inbox (.message q), (q.serve config.toInboxConfig db).1⟩ := by
  have hnot : ∀ (q : InboxRequest) (a : q.Answer) id claimToken now completed,
      (⟨.inbox (.message q), a⟩ : ListenerAnswer) ≠ ⟨.complete id claimToken now, .ok completed⟩ := by
    intro q a id claimToken now completed h
    cases h
  cases q with
  | insertIfAbsent other rowId token now =>
    simp only [InboxRequest.serve] at hrow' ⊢
    split at hrow'
    · exact comes_of_same hrow' hprogress (hnot _ _)
    · rename_i habsent
      rcases (Table.mem_insert habsent).mp hrow' with hrow | rfl
      · exact comes_of_same hrow hprogress (hnot _ _)
      · obtain ⟨_, rfl, rfl, rfl⟩ := hprogress
        exact .inserted now
  | findUnique other => exact comes_of_same hrow' hprogress (hnot _ _)
  | reclaim rowId previous token now =>
    simp only [InboxRequest.serve] at hrow' ⊢
    obtain ⟨row, hrow, rfl⟩ := mem_updateClaimed.mp hrow'
    split at hprogress
    · rename_i hclaimed
      obtain ⟨_, hidentity, hid, rfl⟩ := hprogress
      have hany : (updateClaimed db rowId previous (fun row =>
          { row with
            claimToken := token, claimedAt := some now, nextAttemptAt := none,
            attempts := row.attempts + 1 }) fun _ => rfl).1 = true :=
        List.any_eq_true.mpr ⟨row, hrow, hclaimed⟩
      have hrowId : row.id = rowId := by
        simp only [InboxMessage.claimedBy, Bool.and_eq_true, decide_eq_true_eq] at hclaimed
        exact hclaimed.1.1
      obtain rfl : rowId = id := hrowId.symm.trans hid
      rw [hany]
      exact .reclaimed previous now row hrow ⟨hidentity, hrowId⟩
    · exact comes_of_same hrow hprogress (hnot _ _)
  | complete rowId token now =>
    simp only [InboxRequest.serve] at hrow'
    obtain ⟨row, hrow, rfl⟩ := mem_updateClaimed.mp hrow'
    split at hprogress
    · cases hprogress.status
    · exact comes_of_same hrow hprogress (hnot _ _)
  | fail rowId token error now =>
    simp only [InboxRequest.serve] at hrow'
    obtain ⟨row, hrow, rfl⟩ := mem_updateClaimed.mp hrow'
    refine comes_of_same hrow ?_ (hnot _ _)
    split at hprogress
    · exact ⟨hprogress.status, hprogress.identity, hprogress.id, hprogress.claimToken⟩
    · exact hprogress

/-- Completing under a token leaves no message in progress under it. -/
theorem inProgress_of_complete {rowId token : String} {now : Nat} {row' : InboxMessage}
    (hrow' : row' ∈ ((InboxRequest.complete rowId token now).serve config.toInboxConfig db).2.rows)
    (hprogress : InProgress identity id claimToken row') :
    row' ∈ db.rows ∧ ¬ (rowId = id ∧ token = claimToken) := by
  simp only [InboxRequest.serve] at hrow'
  obtain ⟨row, hrow, rfl⟩ := mem_updateClaimed.mp hrow'
  split at hprogress
  · cases hprogress.status
  · rename_i hunclaimed
    rw [if_neg hunclaimed]
    refine ⟨hrow, ?_⟩
    rintro ⟨rfl, rfl⟩
    exact hunclaimed (claimedBy_of_inProgress hprogress)

theorem comes_of_execute {q : ListenerStatement} {a : q.Answer}
    (h : q.execute config choice db = some (a, db')) {row' : InboxMessage} (hrow' : row' ∈ db'.rows)
    (hprogress : InProgress identity id claimToken row') :
    Comes db identity id claimToken ⟨q, a⟩ := by
  cases q with
  | inbox q =>
    have hnot : ∀ id claimToken now completed,
        (⟨.inbox q, a⟩ : ListenerAnswer) ≠ ⟨.complete id claimToken now, .ok completed⟩ := by
      intro id claimToken now completed h
      cases h
    cases choice with
    | settled =>
      cases q with
      | message q =>
        obtain rfl : (q.serve config.toInboxConfig db).1 = a :=
          congrArg Prod.fst (Option.some.inj h)
        obtain rfl : (q.serve config.toInboxConfig db).2 = db' :=
          congrArg Prod.snd (Option.some.inj h)
        exact comes_of_message hrow' hprogress
      | suspendExpired now =>
        cases h
        obtain ⟨row, hrow, heq⟩ := Table.mem_update.mp hrow'
        beta_reduce at heq
        subst heq
        split at hprogress
        · cases hprogress.status
        · exact comes_of_same hrow hprogress hnot
      | backoffExpired now =>
        cases h
        obtain ⟨row, hrow, heq⟩ := Table.mem_update.mp hrow'
        beta_reduce at heq
        subst heq
        refine comes_of_same hrow ?_ hnot
        split at hprogress
        · exact ⟨hprogress.status, hprogress.identity, hprogress.id, hprogress.claimToken⟩
        · exact hprogress
      | deleteProcessedOlderThan now =>
        cases h
        exact comes_of_same (List.mem_filter.mp hrow').1 hprogress hnot
    | _ => cases h
  | complete rowId token now =>
    cases choice with
    | settled =>
      cases h
      obtain ⟨hrow, hopen⟩ := @inProgress_of_complete config _ _ _ _ _ _ _ _ hrow' hprogress
      refine .kept _ row' hrow hprogress fun now' completed heq => ?_
      cases heq
      exact hopen ⟨rfl, rfl⟩
    | refused message =>
      cases h
      exact .kept _ row' hrow' hprogress fun now' completed heq => by cases heq
    | lost message =>
      cases h
      obtain ⟨hrow, _⟩ := @inProgress_of_complete config _ _ _ _ _ _ _ _ hrow' hprogress
      exact .kept _ row' hrow hprogress fun now' completed heq => by cases heq
  | generate message =>
    cases choice with
    | settled =>
      cases h
      exact .kept _ row' hrow' hprogress fun now' completed heq => by cases heq
    | refused message =>
      cases h
      exact .kept _ row' hrow' hprogress fun now' completed heq => by cases heq
    | lost message => cases h
  | ack delivery =>
    cases choice with
    | settled =>
      cases h
      exact .kept _ row' hrow' hprogress fun now' completed heq => by cases heq
    | _ => cases h

/-- Where any row comes from. -/
theorem origin_of_execute {q : ListenerStatement} {a : q.Answer}
    (h : q.execute config choice db = some (a, db')) {row' : InboxMessage}
    (hrow' : row' ∈ db'.rows) :
    (∃ row ∈ db.rows, row.id = row'.id ∧ row.identity = row'.identity) ∨
      ∃ token now, q = .inbox (.message (.insertIfAbsent row'.identity row'.id token now)) := by
  have hupdate : ∀ {f : InboxMessage → InboxMessage} (hf : ∀ row, (f row).identity = row.identity),
      (∀ row, (f row).id = row.id) → row' ∈ (db.update f hf).rows →
        ∃ row ∈ db.rows, row.id = row'.id ∧ row.identity = row'.identity := by
    intro f hf hid hmem
    obtain ⟨row, hrow, rfl⟩ := Table.mem_update.mp hmem
    exact ⟨row, hrow, (hid row).symm, (hf row).symm⟩
  cases q with
  | inbox q =>
    cases choice with
    | settled =>
      cases q with
      | message q =>
        obtain rfl : (q.serve config.toInboxConfig db).2 = db' :=
          congrArg Prod.snd (Option.some.inj h)
        cases q with
        | insertIfAbsent other rowId token now =>
          simp only [InboxRequest.serve] at hrow'
          split at hrow'
          · exact .inl ⟨row', hrow', rfl, rfl⟩
          · rename_i habsent
            rcases (Table.mem_insert habsent).mp hrow' with hrow | rfl
            · exact .inl ⟨row', hrow, rfl, rfl⟩
            · exact .inr ⟨token, now, rfl⟩
        | findUnique other => exact .inl ⟨row', hrow', rfl, rfl⟩
        | reclaim | complete | fail =>
          simp only [InboxRequest.serve, updateClaimed] at hrow'
          refine .inl (hupdate _ (fun row => ?_) hrow')
          split
          · rfl
          · rfl
      | suspendExpired now =>
        cases h
        refine .inl (hupdate _ (fun row => ?_) hrow')
        beta_reduce
        split
        · rfl
        · rfl
      | backoffExpired now =>
        cases h
        refine .inl (hupdate _ (fun row => ?_) hrow')
        beta_reduce
        split
        · rfl
        · rfl
      | deleteProcessedOlderThan now =>
        cases h
        exact .inl ⟨row', (List.mem_filter.mp hrow').1, rfl, rfl⟩
    | _ => cases h
  | complete rowId token now =>
    cases choice with
    | settled =>
      cases h
      refine .inl (hupdate _ (fun row => ?_) hrow')
      beta_reduce
      split
      · rfl
      · rfl
    | refused message =>
      cases h
      exact .inl ⟨row', hrow', rfl, rfl⟩
    | lost message =>
      cases h
      simp only [InboxRequest.serve, updateClaimed] at hrow'
      refine .inl (hupdate _ (fun row => ?_) hrow')
      split
      · rfl
      · rfl
  | generate message =>
    cases choice <;> cases h <;> exact .inl ⟨row', hrow', rfl, rfl⟩
  | ack delivery =>
    cases choice with
    | settled =>
      cases h
      exact .inl ⟨row', hrow', rfl, rfl⟩
    | _ => cases h

/-- A message in progress under a token is reclaimed from it. -/
theorem reclaim_answers {previous token : String} {now : Nat} {answer : Bool} {row : InboxMessage}
    (h : (ListenerStatement.inbox (.message (.reclaim id previous token now))).execute config choice
      db = some (answer, db')) (hrow : row ∈ db.rows)
    (hprogress : InProgress identity id previous row) : answer = true := by
  cases choice with
  | settled =>
    cases h
    exact List.any_eq_true.mpr ⟨row, hrow, claimedBy_of_inProgress hprogress⟩
  | _ => cases h

theorem findUnique_answers {answer : Option InboxMessage}
    (h : (ListenerStatement.inbox (.message (.findUnique identity))).execute config choice db =
      some (answer, db')) : answer = db.get? identity := by
  cases choice with
  | settled =>
    cases h
    rfl
  | _ => cases h

end Rows

end DddBoilerplate.Messaging
