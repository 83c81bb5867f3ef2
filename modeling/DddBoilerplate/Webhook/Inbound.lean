/- module: DddBoilerplate/Webhook/Inbound
   generality: I
   digest: Inbound webhooks, deduplicated on the idempotency ledger, and why each call asks what it asks. -/

import DddBoilerplate.Concurrency.Exchange
import DddBoilerplate.Idempotency.Ledger
import DddBoilerplate.Webhook.Requests

set_option autoImplicit false
set_option relaxedAutoImplicit false
set_option linter.all false

namespace DddBoilerplate.InboundWebhook

open Concurrency Store Idempotency
open Webhook (Reply)

section Model

/-- The registered sources with their verifiers, and the digest of a body. -/
structure InboundConfig extends IdempotencyConfig where
  sources : String → Option (String → Option String → Bool)
  hashBody : String → String

structure InboundRequest where
  source : String
  rawBody : String
  signature : Option String
  idempotencyKey : Option String
  deriving DecidableEq

/-- A statement of the ledger, the handler of a source, and the normal return of a call. -/
inductive InboundStatement where
  | ledger (q : IdempotencyStatement)
  | handle (source rawBody : String)
  | acknowledge

@[reducible] def InboundStatement.Answer : InboundStatement → Type
  | ledger q => Reply q.Answer
  | handle _ _ => Except String Unit
  | acknowledge => Unit

abbrev InboundStatement.interface : Interface := ⟨InboundStatement, InboundStatement.Answer⟩

/-- What a statement leaves open: what the ledger does, whether a statement of it throws, before or
after its effect, and the outcome of a handler. -/
inductive InboundChoice where
  | ledger (choice : IdempotencyChoice)
  | refused (message : String)
  | lost (choice : IdempotencyChoice) (message : String)
  | handled (outcome : Except String Unit)

/-- The cache adapter catches what Redis throws. -/
def guarded : IdempotencyStatement → Bool
  | .cacheGet _ => true
  | .cacheSet _ _ _ => true
  | .cacheDelete _ => true
  | _ => false

def InboundStatement.execute :
    (q : InboundStatement) → InboundChoice → IdempotencyDb → Option (q.Answer × IdempotencyDb)
  | ledger q, .ledger choice, db => some (.ok (q.perform choice db).1, (q.perform choice db).2)
  | ledger q, .refused message, db =>
    if guarded q then none else some (.refused message, db)
  | ledger q, .lost choice message, db =>
    if guarded q then none
    else some (.lost (q.perform choice db).1 message, (q.perform choice db).2)
  | handle _ _, .handled outcome, db => some (outcome, db)
  | acknowledge, .handled _, db => some ((), db)
  | _, _, _ => none

abbrev InboundProgram := Program InboundStatement.interface.world

/-- What the use cases of the ledger make of a statement: they catch what an insertion throws. -/
def answered : (q : IdempotencyStatement) → Reply q.Answer → Except String q.Answer
  | .create _ _ _ _ _, .ok row => .ok row
  | .create _ _ _ _ _, .refused _ => .ok none
  | .create _ _ _ _ _, .lost _ _ => .ok none
  | _, reply => reply.toExcept

/-- A use case of the ledger, whose statements may throw. -/
def thrown {α : Type} : IdempotencyProgram α → InboundProgram α
  | .done a => .done a
  | .fail e => .fail e
  | .ask .clock next => .ask .clock fun a => thrown (next a)
  | .ask .randomUUID next => .ask .randomUUID fun a => thrown (next a)
  | .ask (.statement q) next => .ask (.statement (.ledger q)) fun reply =>
      match answered q reply with
      | .ok a => thrown (next a)
      | .error e => .fail e

variable (config : InboundConfig)

/-- `idempotencyKey ?? hashBody(rawBody)` -/
def InboundRequest.key (request : InboundRequest) : String :=
  request.idempotencyKey.getD (config.hashBody request.rawBody)

def InboundRequest.identity (request : InboundRequest) : IdempotencyIdentity :=
  ⟨"", "", "webhook.inbound." ++ request.source, request.key config⟩

/-- `{ success: true }` -/
def successResult : ResultJson := some "\x7b\"success\":true\x7d"

def acknowledged : InboundProgram Unit := .ask (.statement .acknowledge) .done

/-- The body of the `try`. -/
def attempt (request : InboundRequest) (reservation : IdempotencyReservation) :
    InboundProgram Unit :=
  .ask (.statement (.handle request.source request.rawBody)) fun outcome =>
    match (outcome : Except String Unit) with
    | .ok _ => thrown (complete config.toIdempotencyConfig reservation (some successResult))
    | .error e => .fail e

/-- The body of the `catch`. -/
def giveUp (reservation : IdempotencyReservation) (e : String) : InboundProgram Unit :=
  thrown (fail config.toIdempotencyConfig reservation) >>= fun _ => .fail e

/-- What follows the answer of the ledger. -/
def resolved (request : InboundRequest) : IdempotencyReserveResult → InboundProgram Unit
  | .replay _ => acknowledged
  | .busy => acknowledged
  | .keyMismatch => acknowledged
  | .acquired reservation => (attempt config request reservation).handle (fun _ => acknowledged)
      (giveUp config reservation)

def reserveRequest (request : InboundRequest) : IdempotencyReserveRequest :=
  { toIdempotencyIdentity := request.identity config, requestHash := none, ttlMs := none }

/-- `ReceiveInboundWebhookUseCase.execute` -/
def receive (request : InboundRequest) : InboundProgram Unit :=
  match config.sources request.source with
  | none => .fail "UnregisteredWebhookInboundSourceError"
  | some verify =>
    if verify request.rawBody request.signature then
      thrown (reserve config.toIdempotencyConfig (reserveRequest config request)) >>=
        resolved config request
    else .fail "InvalidWebhookSignatureError"

inductive InboundEntry where
  | received (request : InboundRequest)
  | purgeExpired
  deriving DecidableEq

def InboundEntry.program : InboundEntry → InboundProgram Unit
  | received request => receive config request
  | purgeExpired => thrown Idempotency.purgeExpired

/-- The inbound calls of all sources, any number of them at a time, and the purges. -/
abbrev inboundSystem : System :=
  worldSystem InboundStatement.execute (InboundEntry.program config)

end Model

end DddBoilerplate.InboundWebhook
