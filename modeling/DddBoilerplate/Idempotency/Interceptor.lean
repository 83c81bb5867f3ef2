/- module: DddBoilerplate/Idempotency/Interceptor
   generality: I
   digest: The interceptor of the idempotent routes, and the system of the requests sent to them. -/

import DddBoilerplate.Domain.Text
import DddBoilerplate.Idempotency.Ledger

set_option autoImplicit false
set_option relaxedAutoImplicit false
set_option linter.all false

namespace DddBoilerplate.Idempotency

open Concurrency Store Text

/-- The routes that carry `@Idempotent()`. -/
inductive Route where
  | batchOperationSubmit | importCreate | purchaseOrderCreate | grnCreate | grnPost | grnReverse
  deriving DecidableEq

/-- The name of the class, a dot, and the name of the handler. -/
def Route.scope : Route → String
  | batchOperationSubmit => "BatchOperationController.submit"
  | importCreate => "ImportController.create"
  | purchaseOrderCreate => "PurchaseOrderController.create"
  | grnCreate => "GrnController.create"
  | grnPost => "GrnController.post"
  | grnReverse => "GrnController.reverse"

/-- A header that is sent once, or several times. -/
inductive HeaderValue where
  | one (value : String)
  | many (values : List String)
  deriving DecidableEq

structure HttpRequest where
  route : Route
  params : List (String × String)
  body : String
  idempotencyKey : Option HeaderValue
  deriving DecidableEq

/-- The tenant and the company of a request context, as their columns hold them. -/
structure Tenancy where
  tenantId : String
  companyId : String
  tenantFits : tenantId.length ≤ 100
  companyFits : companyId.length ≤ 100

/-- `key.slice(0, 255)`; a header holds one code unit a character. -/
def sliceKey (s : String) : String := String.ofList (s.toList.take 255)

namespace HttpRequest

/-- The full key, where it is not blank. -/
def key? (request : HttpRequest) : Option String :=
  let key := match request.idempotencyKey with
    | none => none
    | some (.one value) => some value
    | some (.many values) => values.head?
  key.filter fun key => trim key ≠ ""

/-- The identity the interceptor reserves under. -/
def identity (tenancy : Tenancy) (request : HttpRequest) (key : String) : IdempotencyIdentity :=
  ⟨tenancy.tenantId, tenancy.companyId, request.route.scope, sliceKey (trim key)⟩

end HttpRequest

/-- What a handler returns: a value as JSON text, or undefined. -/
abbrev Response := Option ResultJson

inductive HttpReply where
  | stored (result : ResultJson)
  | refused (statusCode : Nat) (message : String)
  | ran (outcome : Except String Response)

/-- A statement of the ledger, the handler of a route, the reply, and whether the next statement of
a call whose failure is caught is rejected. -/
inductive HttpStatement where
  | ledger (q : IdempotencyStatement)
  | handle (request : HttpRequest)
  | reply (request : HttpRequest) (reply : HttpReply)
  | rejected

@[reducible] def HttpStatement.Answer : HttpStatement → Type
  | ledger q => q.Answer
  | handle _ => Except String Response
  | reply _ _ => Unit
  | rejected => Bool

abbrev HttpStatement.interface : Interface := ⟨HttpStatement, HttpStatement.Answer⟩

/-- What a statement leaves open: what the ledger does, the outcome of a handler, and whether the
next statement is rejected. -/
structure HttpChoice where
  ledger : IdempotencyChoice
  outcome : Except String Response
  rejected : Bool

def HttpStatement.perform :
    (q : HttpStatement) → HttpChoice → IdempotencyDb → q.Answer × IdempotencyDb
  | ledger q, choice, db => q.perform choice.ledger db
  | handle _, choice, db => (choice.outcome, db)
  | reply _ _, _, db => ((), db)
  | rejected, choice, db => (choice.rejected, db)

abbrev HttpProgram := Program HttpStatement.interface.world

section Programs

variable {α : Type}

/-- A call of the ledger. -/
def ofLedger : IdempotencyProgram α → HttpProgram α
  | .done a => .done a
  | .fail e => .fail e
  | .ask (.statement q) next => .ask (.statement (.ledger q)) fun a => ofLedger (next a)
  | .ask .clock next => .ask .clock fun a => ofLedger (next a)
  | .ask .randomUUID next => .ask .randomUUID fun a => ofLedger (next a)

/-- A call that is caught: it may be rejected at each of its requests, and what follows does not
depend on it. -/
def caught (m : HttpProgram Unit) (rest : HttpProgram α) : HttpProgram α :=
  match m with
  | .done _ => rest
  | .fail _ => rest
  | .ask q next => .ask (.statement .rejected) fun (rejected : Bool) =>
      if rejected then rest else .ask q fun a => caught (next a) rest

end Programs

section Intercept

variable (config : IdempotencyConfig) (tenancy : Tenancy) (request : HttpRequest)

def reserveRequest (key : String) : IdempotencyReserveRequest :=
  { toIdempotencyIdentity := request.identity tenancy key
    requestHash := none
    ttlMs := some config.ttlMs }

/-- What follows the handler. -/
def settled (reservation : IdempotencyReservation) (outcome : Except String Response) :
    HttpProgram HttpReply :=
  match outcome with
  | .ok response =>
    caught (ofLedger (complete config reservation response)) (.done (.ran (.ok response)))
  | .error e => caught (ofLedger (fail config reservation)) (.done (.ran (.error e)))

/-- What follows the answer of the ledger. -/
def resolved (key : String) (result : IdempotencyReserveResult) : HttpProgram HttpReply :=
  match result with
  | .replay value => .done (.stored value)
  | .busy => .done (.refused 409
      s!"An operation with Idempotency-Key '{trim key}' is still in progress; retry later")
  | .keyMismatch => .done (.refused 400
      s!"Idempotency-Key '{trim key}' is associated with another request")
  | .acquired reservation => .ask (.statement (.handle request)) (settled config reservation)

/-- `IdempotencyInterceptor.intercept` -/
def intercept : HttpProgram HttpReply :=
  match request.key? with
  | none => .done (.refused 400 "'Idempotency-Key' header is required for this operation")
  | some key => ofLedger (reserve config (reserveRequest config tenancy request key)) >>=
      resolved config request key

end Intercept

inductive HttpEntry where
  | received (request : HttpRequest)
  | purgeExpired

def HttpEntry.program (config : IdempotencyConfig) (tenancy : Tenancy) :
    HttpEntry → HttpProgram Unit
  | received request => intercept config tenancy request >>= fun reply =>
      .ask (.statement (.reply request reply)) .done
  | purgeExpired => ofLedger Idempotency.purgeExpired

/-- The requests of one tenant and company, any number of them at a time, and the purges. -/
abbrev httpSystem (config : IdempotencyConfig) (tenancy : Tenancy) : System :=
  worldSystem (fun q choice db => some (HttpStatement.perform q choice db))
    (HttpEntry.program config tenancy)

/-- Before the first request. -/
def emptyHttp (config : IdempotencyConfig) (tenancy : Tenancy) (now : Nat) :
    Pool (httpSystem config tenancy) :=
  ⟨⟨⟨Table.empty, []⟩, now, []⟩, []⟩

end DddBoilerplate.Idempotency
