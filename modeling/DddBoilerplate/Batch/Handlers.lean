/- module: DddBoilerplate/Batch/Handlers
   generality: I
   digest: The handlers that are registered for batches and imports, and the commands they pass on. -/

import DddBoilerplate.Batch.Pipeline
import DddBoilerplate.Party.Vendor
import DddBoilerplate.Procurement.Companies

set_option autoImplicit false
set_option relaxedAutoImplicit false
set_option linter.all false

namespace DddBoilerplate.Batch

open Concurrency Party Procurement

/-- What the business modules store. -/
structure BusinessDb where
  procurement : ProcurementDb
  vendors : VendorDb

/-- What the modules are wired to, and the clock. -/
structure Modules where
  around : Surroundings
  casing : Casing
  now : Nat

/-- What the use cases read of a request context. -/
def useCaseContext (ctx : Context.RequestContext) : RequestContext where
  tenantId := ctx .tenantId
  companyId := ctx .companyId
  userId := ctx .userId
  roles := (ctx .roles).getD []
  defaultCurrency := ctx .defaultCurrency
  autoApproveThreshold := ctx .autoApproveThreshold
  overReceiptTolerance := ctx .overReceiptTolerance

/-- The single-record commands that handlers pass on. -/
inductive Command where
  | transitionOrder (id : String) (verb : PurchaseOrderTransition) (reason : Option String)
  | receiveGrn (id : String)
  | postGrn (id : String)
  | createVendor (input : CreateVendorInput) (id : String)
  | importOrder (input : ImportPurchaseOrderRequest) (drawn : Drawn)

section Commands

variable (modules : Modules) (ctx : RequestContext)

/-- The database of a transaction with no other beside it. -/
def Modules.serve (q : ProcurementRequest) (db : ProcurementDb) : q.Answer × ProcurementDb :=
  ProcurementRequest.serve modules.around.wiring.inbox db q

def transact (transaction : Transaction Unit) (db : BusinessDb) : Except String Unit × BusinessDb :=
  let ended := transaction.runAlone modules.serve db.procurement
  (ended.1, { db with procurement := ended.2 })

/-- The events of an order that was saved beside the others, under the request's tenant and
company. -/
def announce (ctx : RequestContext) (reply : Reply) (outbox : List Envelope) : List Envelope :=
  reply.events.foldl (fun outbox event => outbox ++
    [⟨outbox.length, ctx.tenantId, ctx.companyId, "PurchaseOrder", reply.id, .order event⟩]) outbox

/-- What a command comes to when it is issued in a context. -/
def Command.run : Command → BusinessDb → Except String Unit × BusinessDb
  | transitionOrder id verb reason, db =>
    transact modules
      (transitionPurchaseOrder modules.around.wiring ctx id verb reason none modules.now) db
  | receiveGrn id, db => transact modules (Procurement.receiveGrn ctx id none modules.now) db
  | postGrn id, db =>
    transact modules (Procurement.postGrn modules.around.wiring ctx id none modules.now) db
  | createVendor input id, db =>
    match Party.createVendor modules.around.wiring modules.casing ctx input id modules.now
      db.vendors with
    | .ok vendors => (.ok (), { db with vendors := vendors })
    | .error failure => (.error failure.message, db)
  | importOrder input drawn, db =>
    match importPurchaseOrder modules.around ctx modules.now input drawn db.procurement.orders with
    | .ok (reply, orders) =>
      (.ok (), { db with
        procurement := { db.procurement with
          orders := orders
          outbox := announce ctx reply db.procurement.outbox } })
    | .error failure => (.error failure.message, db)

end Commands

section Adapters

/-- `PurchaseOrderBatchOperationAdapter`, `ALLOWED_FROM` -/
def orderAllowedFrom : PurchaseOrderTransition → List PurchaseOrderStatus
  | .submit => [.draft]
  | .approve => [.submitted]
  | .reject => [.submitted]
  | .cancel => [.draft, .submitted, .approved]
  | .complete => []

/-- The operations of the adapter of orders, with the transition of each. -/
def orderOperation : String → Option PurchaseOrderTransition
  | "submit" => some .submit
  | "approve" => some .approve
  | "reject" => some .reject
  | "cancel" => some .cancel
  | _ => none

inductive GrnBatchOperation where
  | receive | complete
  deriving DecidableEq

/-- `GrnBatchOperationAdapter`, `ALLOWED_FROM` -/
def grnAllowedFrom : GrnBatchOperation → List GrnStatus
  | .receive => [.draft]
  | .complete => [.received]

def grnOperation : String → Option GrnBatchOperation
  | "receive" => some .receive
  | "complete" => some .complete
  | _ => none

/-- What the adapters that are registered at boot support. -/
def registeredOperations : String → Option (List String)
  | "PurchaseOrder" => some ["submit", "approve", "reject", "cancel"]
  | "GoodReceiptNote" => some ["receive", "complete"]
  | _ => none

/-- The check of a status ahead of an operation. -/
def preCheck (allowed : Bool) (operationCode status document : String) : ValidationResult :=
  if allowed then ⟨true, none⟩
  else ⟨false, some s!"ALREADY_IN_TARGET_STATE: cannot {operationCode} a {status} {document}"⟩

/-- `params?.reason`, where it is a string. -/
def reasonOf (params : Option Params) : Option String :=
  (params.bind fun params => params.lookup "reason").join

/-- What an operation did, as its snapshot has it. -/
def transitionSnapshot (operationCode statusBefore statusAfter : String) : String :=
  s!"\x7b\"transition\":\"{operationCode}\",\"statusBefore\":\"{statusBefore}\"," ++
    s!"\"statusAfter\":\"{statusAfter}\"\x7d"

variable (modules : Modules) (ctx : RequestContext)

/-- `GetPurchaseOrderUseCase.execute`, of which the adapter reads the status. -/
def orderStatus (id : String) (db : BusinessDb) : Except String PurchaseOrderStatus :=
  match (db.procurement.orders.get? id).filter fun row => ctx.owns row.tenantId with
  | none => .error "Purchase order not found"
  | some row => .ok row.status

/-- `GetGrnUseCase.execute`, of which the adapter reads the status. -/
def grnStatus (id : String) (db : BusinessDb) : Except String GrnStatus :=
  match (db.procurement.grns.get? id).filter fun row => ctx.owns row.tenantId with
  | none => .error "GRN not found"
  | some row => .ok row.status

/-- The command an operation on a record is when it is issued by itself. -/
def commandOf (call : HandlerCall) : Option Command :=
  match call.aggregateType with
  | "PurchaseOrder" => (orderOperation call.operationCode).map fun verb =>
      .transitionOrder call.entityId verb (reasonOf call.params)
  | "GoodReceiptNote" => (grnOperation call.operationCode).map fun operation =>
      match operation with
      | .receive => .receiveGrn call.entityId
      | .complete => .postGrn call.entityId
  | _ => none

/-- `validate` of the adapter of the aggregate. -/
def handlerValidate (call : HandlerCall) (db : BusinessDb) : Except String ValidationResult :=
  match call.aggregateType with
  | "PurchaseOrder" => do
    let status ← orderStatus ctx call.entityId db
    let allowed := ((orderOperation call.operationCode).map orderAllowedFrom).getD []
    return preCheck (allowed.contains status) call.operationCode status.name "purchase order"
  | "GoodReceiptNote" => do
    let status ← grnStatus ctx call.entityId db
    let allowed := ((grnOperation call.operationCode).map grnAllowedFrom).getD []
    return preCheck (allowed.contains status) call.operationCode status.name "goods receipt"
  | aggregateType =>
    .error s!"No BatchOperationHandler registered for aggregateType '{aggregateType}'"

/-- The status of the record an adapter reads before and after its command. -/
def recordStatus (call : HandlerCall) (db : BusinessDb) : Except String String :=
  if call.aggregateType = "PurchaseOrder" then
    (orderStatus ctx call.entityId db).map PurchaseOrderStatus.name
  else (grnStatus ctx call.entityId db).map GrnStatus.name

/-- `execute` of the adapter of the aggregate: what it answers, and what it leaves stored. -/
def handlerExecute (call : HandlerCall) (db : BusinessDb) :
    Except String (Option String) × BusinessDb :=
  match recordStatus ctx call db with
  | .error message => (.error message, db)
  | .ok before =>
    match commandOf call with
    | none => (.error s!"Unsupported GRN batch operation '{call.operationCode}'", db)
    | some command =>
      match command.run modules ctx db with
      | (.error message, db) => (.error message, db)
      | (.ok _, db) =>
        match recordStatus ctx call db with
        | .error message => (.error message, db)
        | .ok after => (.ok (some (transitionSnapshot call.operationCode before after)), db)

end Adapters

section Outcomes

variable (modules : Modules)

/-- What the row of a batch leaves stored: its handler is called in the context it finds. -/
def storedByRow (call : HandlerCall) (db : BusinessDb) : BusinessDb :=
  let ctx := useCaseContext call.requestContext
  match handlerValidate ctx call db with
  | .error _ => db
  | .ok verdict => if verdict.canProceed then (handlerExecute modules ctx call db).2 else db

/-- What the same operation leaves stored when a request issues it by itself. -/
def storedDirectly (ctx : Context.RequestContext) (call : HandlerCall) (db : BusinessDb) :
    BusinessDb :=
  match commandOf call with
  | none => db
  | some command => (command.run modules (useCaseContext ctx) db).2

end Outcomes

end DddBoilerplate.Batch
