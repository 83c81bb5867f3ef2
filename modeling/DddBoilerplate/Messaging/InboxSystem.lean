/- module: DddBoilerplate/Messaging/InboxSystem
   generality: I
   digest: Consumers and the sweep over one inbox: receiving, completing, failing and reconciling. -/

import DddBoilerplate.Concurrency.Control
import DddBoilerplate.Concurrency.World
import DddBoilerplate.Messaging.Inbox

set_option autoImplicit false
set_option relaxedAutoImplicit false
set_option linter.all false

namespace DddBoilerplate.Messaging

open Concurrency Store

/-- What the sweep needs of the configuration besides what a delivery does. -/
structure InboxSweepConfig extends InboxConfig where
  maxAttempts : Nat
  processedRetentionMs : Nat

/-- The statements of consumers, and those of the sweep: the two of `reconcileExpiredClaims`, the
purge. -/
inductive InboxStatement where
  | message (q : InboxRequest)
  | suspendExpired (now : Nat)
  | backoffExpired (now : Nat)
  | deleteProcessedOlderThan (now : Nat)

@[reducible] def InboxStatement.Answer : InboxStatement → Type
  | message q => q.Answer
  | suspendExpired _ => Nat
  | backoffExpired _ => Nat
  | deleteProcessedOlderThan _ => Nat

abbrev InboxStatement.interface : Interface := ⟨InboxStatement, InboxStatement.Answer⟩

/-- `status = 'IN_PROGRESS' AND claimed_at < cutoff` -/
def InboxMessage.lapsed (config : InboxSweepConfig) (now : Nat) (row : InboxMessage) : Bool :=
  row.status = .inProgress && row.claimedAt.any fun claimedAt =>
    claimedAt + config.claimLeaseMs < now

def InboxMessage.purgeable (config : InboxSweepConfig) (now : Nat) (row : InboxMessage) : Bool :=
  row.status = .processed && row.processedAt.any fun processedAt =>
    processedAt + config.processedRetentionMs < now

def InboxStatement.execute (config : InboxSweepConfig) :
    (q : InboxStatement) → Unit → InboxDb → Option (q.Answer × InboxDb)
  | message q, _, db => some (q.serve config.toInboxConfig db)
  | suspendExpired now, _, db =>
    some (db.updateMany (fun row => row.lapsed config now && config.maxAttempts < row.attempts)
      (fun row =>
        { row with
          status := .suspended, claimedAt := none, lastError := some "max attempts exceeded" })
      fun _ => rfl)
  | backoffExpired now, _, db =>
    some (db.updateMany (fun row => row.lapsed config now && row.attempts ≤ config.maxAttempts)
      (fun row =>
        { row with
          claimedAt := none
          nextAttemptAt := some (now + config.backoff row.attempts) })
      fun _ => rfl)
  | deleteProcessedOlderThan now, _, db => some (db.deleteMany (·.purgeable config now))

abbrev InboxProgram := Program InboxStatement.interface.world

def clock : InboxProgram Nat := .ask .clock .done

def randomUUID : InboxProgram String := .ask .randomUUID .done

def statement (q : InboxRequest) : InboxProgram q.Answer := .ask (.statement (.message q)) .done

/-- The calls of the port, and the cron. -/
inductive InboxEntry where
  | receive (identity : InboxIdentity)
  | complete (reservation : InboxReservation)
  | fail (reservation : InboxReservation) (lastError : Option String)
  | reconcile
  deriving DecidableEq

/-- A receive from the moment its token is drawn and the clock is read. -/
def receiveMessage (config : InboxSweepConfig) (identity : InboxIdentity)
    (id claimToken : String) (now : Nat) : InboxProgram InboxReceiveResult :=
  receive statement config.toInboxConfig identity id claimToken now

/-- `InboxReconciler.reconcile` -/
def reconcile : InboxProgram Unit := do
  let now ← clock
  let _suspended : Nat ← .ask (.statement (.suspendExpired now)) .done
  let _backoffed : Nat ← .ask (.statement (.backoffExpired now)) .done
  let now ← clock
  let _purged : Nat ← .ask (.statement (.deleteProcessedOlderThan now)) .done

/-- The call of an entry; what it returns is seen in its last answer. -/
def InboxEntry.program (config : InboxSweepConfig) : InboxEntry → InboxProgram Unit
  | receive identity => do
    let id ← randomUUID
    let claimToken ← randomUUID
    let now ← clock
    let _result ← receiveMessage config identity id claimToken now
  | complete reservation => do
    let now ← clock
    let _completed ← statement (.complete reservation.id reservation.claimToken now)
  | fail reservation lastError => do
    let now ← clock
    let _failed ← statement (.fail reservation.id reservation.claimToken lastError now)
  | reconcile => Messaging.reconcile

/-- One inbox, and any number of consumers and sweeps over it. -/
abbrev inboxSystem (config : InboxSweepConfig) : System :=
  worldSystem (InboxStatement.execute config) (InboxEntry.program config)

/-- What a receive returns when this is the last answer it got. -/
def InboxRequest.reply : (q : InboxRequest) → q.Answer → InboxReceiveResult
  | insertIfAbsent _ _ claimToken _, inserted =>
    match (inserted : Option String) with
    | some id => .acquired ⟨id, claimToken⟩
    | none => .busy
  | findUnique _, existing =>
    match (existing : Option InboxMessage) with
    | some row => if row.status = .processed then .duplicate else .busy
    | none => .busy
  | reclaim id _ claimToken _, reclaimed =>
    match (reclaimed : Bool) with
    | true => .acquired ⟨id, claimToken⟩
    | false => .busy
  | complete _ _ _, _ => .busy
  | fail _ _ _ _, _ => .busy

end DddBoilerplate.Messaging
