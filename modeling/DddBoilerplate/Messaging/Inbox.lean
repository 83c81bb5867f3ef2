/- module: DddBoilerplate/Messaging/Inbox
   generality: I
   digest: The inbox of consumed messages: its rows, its statements, and receiving a message. -/

import DddBoilerplate.Concurrency.Program
import DddBoilerplate.Store.Table

set_option autoImplicit false
set_option relaxedAutoImplicit false
set_option linter.all false

namespace DddBoilerplate.Messaging

open Concurrency Store

inductive InboxStatus where
  | inProgress | processed | suspended
  deriving DecidableEq

structure InboxIdentity where
  tenantId : String
  companyId : String
  consumer : String
  messageId : String
  deriving DecidableEq

/-- A row of `inbox_messages`; a date is a number of milliseconds. -/
structure InboxMessage where
  id : String
  identity : InboxIdentity
  status : InboxStatus
  attempts : Nat
  claimToken : String
  claimedAt : Option Nat
  processedAt : Option Nat
  nextAttemptAt : Option Nat
  lastError : Option String
  deriving DecidableEq

structure InboxConfig where
  claimLeaseMs : Nat
  retryBaseDelayMs : Nat
  retryMaxDelayMs : Nat

/-- The unique index is on the identity. -/
abbrev InboxDb := Table InboxMessage.identity

/-- The statements of the repository, each atomic. -/
inductive InboxRequest where
  | insertIfAbsent (identity : InboxIdentity) (id claimToken : String) (claimedAt : Nat)
  | findUnique (identity : InboxIdentity)
  | reclaim (id previousClaimToken claimToken : String) (now : Nat)
  | complete (id claimToken : String) (now : Nat)
  | fail (id claimToken : String) (lastError : Option String) (now : Nat)

@[reducible] def InboxRequest.Answer : InboxRequest → Type
  | insertIfAbsent _ _ _ _ => Option String
  | findUnique _ => Option InboxMessage
  | reclaim _ _ _ _ => Bool
  | complete _ _ _ => Bool
  | fail _ _ _ _ => Bool

/-- `LEAST(base * 2 ^ (attempts - 1), max)` -/
def InboxConfig.backoff (config : InboxConfig) (attempts : Nat) : Nat :=
  let base := config.retryBaseDelayMs
  min (base * 2 ^ (attempts - 1)) (max config.retryMaxDelayMs base)

/-- The rows a claim token still owns. -/
def InboxMessage.claimedBy (row : InboxMessage) (id claimToken : String) : Bool :=
  row.id = id && row.claimToken = claimToken && row.status = .inProgress

/-- One guarded update, with whether a row matched. -/
def updateClaimed (db : InboxDb) (id claimToken : String) (f : InboxMessage → InboxMessage)
    (hf : ∀ row, (f row).identity = row.identity) : Bool × InboxDb :=
  (db.rows.any (·.claimedBy id claimToken),
    db.update (fun row => if row.claimedBy id claimToken then f row else row) fun row => by
      split
      · exact hf row
      · rfl)

def InboxRequest.serve (config : InboxConfig) (db : InboxDb) :
    (q : InboxRequest) → q.Answer × InboxDb
  | insertIfAbsent identity id claimToken claimedAt =>
    match db.get? identity with
    | some _ => (none, db)
    | none =>
      (some id, db.insert
        { id := id
          identity := identity
          status := .inProgress
          attempts := 1
          claimToken := claimToken
          claimedAt := some claimedAt
          processedAt := none
          nextAttemptAt := none
          lastError := none })
  | findUnique identity => (db.get? identity, db)
  | reclaim id previousClaimToken claimToken now =>
    updateClaimed db id previousClaimToken
      (fun row =>
        { row with
          claimToken := claimToken
          claimedAt := some now
          nextAttemptAt := none
          attempts := row.attempts + 1 })
      fun _ => rfl
  | complete id claimToken now =>
    updateClaimed db id claimToken
      (fun row =>
        { row with
          status := .processed, processedAt := some now, claimedAt := none, nextAttemptAt := none })
      fun _ => rfl
  | fail id claimToken lastError now =>
    updateClaimed db id claimToken
      (fun row =>
        { row with
          claimedAt := none
          lastError := lastError
          nextAttemptAt := some (now + config.backoff row.attempts) })
      fun _ => rfl

structure InboxReservation where
  id : String
  claimToken : String
  deriving DecidableEq

inductive InboxReceiveResult where
  | acquired (reservation : InboxReservation)
  | duplicate
  | busy
  deriving DecidableEq

section Receive

variable {ι : Interface} (send : (q : InboxRequest) → Program ι q.Answer)

/-- `ReceiveInboxMessageUseCase.execute`: the fresh identifiers and the clock are arguments. -/
def receive (config : InboxConfig) (identity : InboxIdentity) (id claimToken : String)
    (now : Nat) : Program ι InboxReceiveResult := do
  let inserted : Option String ← send (.insertIfAbsent identity id claimToken now)
  match inserted with
  | some id => return .acquired ⟨id, claimToken⟩
  | none =>
    let existing : Option InboxMessage ← send (.findUnique identity)
    match existing with
    | none => return .busy
    | some existing =>
      match existing.status with
      | .suspended => return .busy
      | .processed => return .duplicate
      | .inProgress =>
        if existing.claimedAt.any fun claimedAt => now < claimedAt + config.claimLeaseMs then
          return .busy
        else if existing.nextAttemptAt.any fun next => now < next then
          return .busy
        else
          let reclaimed : Bool ← send (.reclaim existing.id existing.claimToken claimToken now)
          if reclaimed then return .acquired ⟨existing.id, claimToken⟩ else return .busy

end Receive

end DddBoilerplate.Messaging
