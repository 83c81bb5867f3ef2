/- module: DddBoilerplate/Procurement/UseCases
   generality: I
   digest: The use cases of receiving as transactions over the procurement database, and their system. -/

import DddBoilerplate.Concurrency.Pool
import DddBoilerplate.Procurement.Records

set_option autoImplicit false
set_option relaxedAutoImplicit false
set_option linter.all false

namespace DddBoilerplate.Procurement

open Concurrency Domain Messaging Store

structure AbacCheck where
  tenantId : String
  companyId : String
  userId : String
  roles : List String
  defaultCurrency : String
  autoApproveThreshold : ℚ
  overReceiptTolerance : ℚ
  resource : String
  action : String

inductive AbacDecision where
  | allow
  | deny (reason : Option String)

/-- What the module is wired to: the attribute policies and the inbox's configuration. -/
structure Wiring where
  abac : AbacCheck → AbacDecision
  inbox : InboxConfig

abbrev Transaction (α : Type) := Program ProcurementRequest.interface α

section Steps

def check {α : Type} : Except Failure α → Transaction α
  | .ok a => .done a
  | .error failure => .fail failure.message

/-- A method call whose exception ends the transaction. -/
def perform {σ α : Type} (m : Method Failure σ α) (s : σ) : Transaction σ :=
  match m s with
  | (.ok _, s') => .done s'
  | (.error failure, _) => .fail failure.message

def findGrn (ctx : RequestContext) (id : String) : Transaction (Option GrnRow) :=
  .ask (ProcurementRequest.findGrn ctx id) .done

def findByReversalOfId (ctx : RequestContext) (id : String) : Transaction (Option GrnRow) :=
  .ask (ProcurementRequest.findByReversalOfId ctx id) .done

def findOrder (ctx : RequestContext) (id : String) : Transaction (Option PurchaseOrderRow) :=
  .ask (ProcurementRequest.findOrder ctx id) .done

def hasReceipts (ctx : RequestContext) (id : String) : Transaction Bool :=
  .ask (ProcurementRequest.hasReceipts ctx id) .done

def commit (writes : List Write) : Transaction (Except Failure Unit) :=
  .ask (ProcurementRequest.commit writes) .done

def sendInbox (q : InboxRequest) : Transaction q.Answer :=
  .ask (ProcurementRequest.inbox q) .done

/-- `@Transactional()`: the writes of the body are committed when it returns. -/
def transactional (body : Transaction (List Write)) : Transaction Unit := do
  let writes ← body
  let outcome ← commit writes
  check outcome

/-- The events pulled from a note, appended to the outbox. -/
def appendGrnEvents (ctx : RequestContext) (grn : GoodReceiptNote) : List Write :=
  grn.events.map fun event => .append ctx "GoodReceiptNote" grn.id (.grn event)

def appendOrderEvents (ctx : RequestContext) (po : PurchaseOrder) : List Write :=
  po.events.map fun event => .append ctx "PurchaseOrder" po.id (.order event)

end Steps

section PurchaseOrders

variable (wiring : Wiring)

/-- The company of the request, where the policies allow the action. -/
def authorize (ctx : RequestContext) (resource action : String) : Except Failure Unit :=
  match ctx.companyId with
  | none | some "" => .error ⟨404, "Company not found in request context"⟩
  | some companyId =>
    match wiring.abac
      { tenantId := ctx.tenantId.getD ""
        companyId := companyId
        userId := ctx.userId.getD ""
        roles := ctx.roles
        defaultCurrency := ctx.defaultCurrency.getD "USD"
        autoApproveThreshold := ctx.autoApproveThreshold.getD 0
        overReceiptTolerance := ctx.tolerance
        resource := resource
        action := action } with
    | .allow => .ok ()
    | .deny reason => .error ⟨403, reason.getD "ABAC denied"⟩

structure PurchaseOrderReceiptRequest where
  purchaseOrderId : String
  lines : List ReceiptLine
  actorId : Option String

inductive ReceiptStatus where
  | notReceived | partiallyReceived | fullyReceived
  deriving DecidableEq

/-- `PurchaseOrderStatusService.deriveReceiptStatus` -/
def deriveReceiptStatus (lines : List PurchaseOrderLine) : ReceiptStatus :=
  if lines = [] then .notReceived
  else if lines.all fun line => line.quantity ≤ line.receivedQuantity then .fullyReceived
  else if lines.any fun line => 0 < line.receivedQuantity then .partiallyReceived
  else .notReceived

structure ReceiptResultLine where
  productId : String
  orderedQuantity : ℚ
  receivedQuantity : ℚ
  remainingQuantity : ℚ

structure PurchaseOrderReceiptResult where
  purchaseOrderId : String
  receiptStatus : ReceiptStatus
  lines : List ReceiptResultLine

def receiptResult (purchaseOrderId : String) (po : PurchaseOrder) :
    PurchaseOrderReceiptResult where
  purchaseOrderId := purchaseOrderId
  receiptStatus := deriveReceiptStatus po.lines
  lines := po.lines.map fun l =>
    ⟨l.productId, l.quantity, l.receivedQuantity, max 0 (l.quantity - l.receivedQuantity)⟩

/-- `RegisterPurchaseOrderReceiptUseCase.execute`, inside the caller's transaction. -/
def registerReceipt (ctx : RequestContext) (request : PurchaseOrderReceiptRequest) (now : Nat) :
    Transaction (PurchaseOrderReceiptResult × List Write) := do
  check (authorize wiring ctx "PurchaseOrder" "receive")
  let found ← findOrder ctx request.purchaseOrderId
  match found with
  | none => .fail "Purchase order not found"
  | some row =>
    let po ← perform
      (PurchaseOrderFactory.openPoForReceipt request.lines ctx.tolerance request.actorId now)
      (PrismaPurchaseOrderMapper.toDomain row)
    return (receiptResult request.purchaseOrderId po, [.updateOrder ctx po])

inductive PurchaseOrderTransition where
  | submit | approve | reject | cancel | complete
  deriving DecidableEq

def PurchaseOrderTransition.name : PurchaseOrderTransition → String
  | submit => "submit"
  | approve => "approve"
  | reject => "reject"
  | cancel => "cancel"
  | complete => "complete"

/-- `purchase-order.can-approve` -/
def purchaseOrderCanApprove (status : PurchaseOrderStatus) (totalAmount autoApproveThreshold : ℚ) :
    Except Failure Unit :=
  require (status = .submitted → totalAmount ≤ autoApproveThreshold)
    ⟨422, "Policy \"purchase-order-can-approve\" failed"⟩

/-- `PurchaseOrderTransitionUseCase.execute` -/
def transitionPurchaseOrder (ctx : RequestContext) (id : String)
    (transition : PurchaseOrderTransition) (reason actorId : Option String) (now : Nat) :
    Transaction Unit :=
  transactional do
    check (authorize wiring ctx "PurchaseOrder" transition.name)
    let actorId := actorId.or ctx.userId
    let found ← findOrder ctx id
    match found with
    | none => .fail "Purchase order not found"
    | some row =>
      let po := PrismaPurchaseOrderMapper.toDomain row
      let po ←
        match transition with
        | .submit => perform (PurchaseOrder.submit now) po
        | .approve => do
          let total ← check po.total
          check (purchaseOrderCanApprove po.status (total.minorUnits / 100)
            (ctx.autoApproveThreshold.getD 0))
          perform (PurchaseOrder.approve actorId now) po
        | .reject => perform (PurchaseOrder.reject (reason.getD "Rejected") actorId now) po
        | .cancel => do
          let hasPostedReceipts ← hasReceipts ctx po.id
          perform (PurchaseOrder.cancel actorId hasPostedReceipts now) po
        | .complete => perform (PurchaseOrder.complete now) po
      return [Write.updateOrder ctx po] ++ appendOrderEvents ctx po

/-- The use cases that find the order, call one method on it and write it back. -/
def changePurchaseOrder (ctx : RequestContext) (id : String)
    (method : PurchaseOrder.OrderMethod Unit) : Transaction Unit :=
  transactional do
    let found ← findOrder ctx id
    match found with
    | none => .fail "Purchase order not found"
    | some row =>
      let po ← perform method (PrismaPurchaseOrderMapper.toDomain row)
      return [Write.updateOrder ctx po] ++ appendOrderEvents ctx po

def issuePurchaseOrder (ctx : RequestContext) (id : String) (actorId : Option String)
    (now : Nat) : Transaction Unit :=
  changePurchaseOrder ctx id (PurchaseOrder.issue (actorId.or ctx.userId) now)

def closePurchaseOrder (ctx : RequestContext) (id : String) (now : Nat) : Transaction Unit :=
  changePurchaseOrder ctx id (PurchaseOrder.close now)

end PurchaseOrders

section GoodReceiptNotes

variable (wiring : Wiring)

/-- A line of a create request, as validated: at least one unit is received. -/
structure CreateGrnRequestLine where
  productId : String
  receivedQuantity : ℚ
  atLeastOne : 1 ≤ receivedQuantity

/-- A create request; the ordered quantities and prices it brings are not used. -/
structure CreateGrnRequest where
  purchaseOrderId : String
  vendorId : Option String
  currency : Option String
  lines : List CreateGrnRequestLine

/-- Ordered quantity and price are taken from the order's line of the product, the last one. -/
def snapLine (order : PurchaseOrderRow) (line : CreateGrnRequestLine) :
    Except Failure GrnLineInput :=
  match order.lines.reverse.find? fun l => l.productId = line.productId with
  | none => .error ⟨409, s!"Product {line.productId} is not on the purchase order"⟩
  | some poLine =>
    .ok ⟨line.productId, poLine.quantity, line.receivedQuantity, poLine.unitPrice / 100⟩

/-- `CreateGrnUseCase.execute` -/
def createGrn (ctx : RequestContext) (input : CreateGrnRequest) (actorId : Option String)
    (id grnNumber : String) (now : Nat) : Transaction Unit :=
  transactional do
    check (authorize wiring ctx "Grn" "create")
    let currency := (input.currency.or ctx.defaultCurrency).getD "USD"
    let found ← findOrder ctx input.purchaseOrderId
    match found with
    | none => .fail "Purchase order not found"
    | some order =>
      check (require (order.status = .issued ∨ order.status = .approved)
        (Failure.mk 409
          s!"Purchase order is not eligible for receiving (status: {order.status.name})"))
      let vendorId := input.vendorId.getD order.vendorId
      check (require (vendorId = order.vendorId)
        (Failure.mk 409 "GRN vendor does not match the purchase order vendor"))
      let lines ← check (input.lines.mapM (snapLine order))
      let grn ← check (GrnFactory.create
        ⟨grnNumber, input.purchaseOrderId, vendorId, some currency, actorId, lines⟩ id now)
      return [Write.saveGrn ctx grn] ++ appendGrnEvents ctx grn

/-- The use cases that find the note, call one method on it and write it back. -/
def changeGrn (ctx : RequestContext) (id : String) (method : GoodReceiptNote.GrnMethod Unit) :
    Transaction Unit :=
  transactional do
    let found ← findGrn ctx id
    match found with
    | none => .fail "GRN not found"
    | some row =>
      let grn ← perform method (PrismaGrnMapper.toDomain row)
      return [Write.updateGrn ctx grn] ++ appendGrnEvents ctx grn

def addGrnLine (ctx : RequestContext) (id productId : String)
    (orderedQuantity receivedQuantity unitPrice : ℚ) (now : Nat) : Transaction Unit :=
  changeGrn ctx id
    (GoodReceiptNote.addLine productId orderedQuantity receivedQuantity unitPrice now)

def receiveGrn (ctx : RequestContext) (id : String) (actorId : Option String) (now : Nat) :
    Transaction Unit :=
  changeGrn ctx id (GoodReceiptNote.receive (actorId.or ctx.userId) now)

def recordInspectionResult (ctx : RequestContext) (id : String) (lines : List InspectionLine)
    (now : Nat) : Transaction Unit :=
  changeGrn ctx id (GoodReceiptNote.recordInspectionResult lines now)

def cancelGrn (ctx : RequestContext) (id : String) (actorId : Option String) (now : Nat) :
    Transaction Unit :=
  changeGrn ctx id (GoodReceiptNote.cancel (actorId.or ctx.userId) now)

def setGrnLineTracking (ctx : RequestContext) (id productId : String)
    (entries : List TrackingEntry) (now : Nat) : Transaction Unit :=
  changeGrn ctx id (GoodReceiptNote.setLineTracking productId entries now)

/-- The lines a post registers on the order. -/
def GoodReceiptNote.receiptLines (grn : GoodReceiptNote) : List ReceiptLine :=
  grn.lines.map fun l => ⟨l.productId, l.postedQuantity⟩

/-- `PostGrnUseCase.execute`, behind `post`, `complete` and the batch operation `complete`. -/
def postGrn (ctx : RequestContext) (id : String) (actorId : Option String) (now : Nat) :
    Transaction Unit :=
  transactional do
    let found ← findGrn ctx id
    match found with
    | none => .fail "GRN not found"
    | some row =>
      let grn := PrismaGrnMapper.toDomain row
      let (_, writes) ← registerReceipt wiring ctx
        ⟨grn.purchaseOrderId, grn.receiptLines, none⟩ now
      let grn ← perform (GoodReceiptNote.complete (actorId.or ctx.userId) now) grn
      return writes ++ [Write.updateGrn ctx grn] ++ appendGrnEvents ctx grn

/-- The lines of the compensating document: what the post registered, given back. -/
def GoodReceiptNote.reversalLines (grn : GoodReceiptNote) : List ReversalLineInput :=
  grn.lines.map fun line =>
    { productId := line.productId
      orderedQuantity := line.orderedQuantity
      receivedQuantity := -line.postedQuantity
      acceptedQuantity := -line.postedQuantity
      rejectedQuantity := 0
      unitPrice := line.unitPrice }

/-- `ReverseGrnUseCase.execute` -/
def reverseGrn (ctx : RequestContext) (id : String) (actorId : Option String)
    (reversalId grnNumber : String) (now : Nat) : Transaction Unit :=
  transactional do
    let actorId := actorId.or ctx.userId
    let found ← findGrn ctx id
    match found with
    | none => .fail "GRN not found"
    | some row =>
      let original := PrismaGrnMapper.toDomain row
      check (grnReversible original.status)
      let alreadyReversed ← findByReversalOfId ctx original.id
      match alreadyReversed with
      | some _ => .fail "GRN has already been reversed"
      | none =>
        let reversal ← check (GrnFactory.createReversal
          ⟨grnNumber, original.id, original.purchaseOrderId, original.vendorId, original.currency,
            actorId, original.reversalLines⟩ reversalId now)
        let (_, writes) ← registerReceipt wiring ctx
          ⟨original.purchaseOrderId,
            original.reversalLines.map fun l => ⟨l.productId, l.receivedQuantity⟩, none⟩ now
        return writes ++ [Write.saveGrn ctx reversal] ++ appendGrnEvents ctx reversal

end GoodReceiptNotes

section Listener

variable (wiring : Wiring)

/-- The context a listener runs in: tenant and company of the envelope, and nothing else. -/
def listenerContext (tenantId companyId : String) : RequestContext :=
  ⟨some tenantId, some companyId, none, [], none, none, none⟩

/-- What one delivery is given: the fresh identifiers and the times it reads. -/
structure Delivery where
  rowId : String
  claimToken : String
  receivedAt : Nat
  registeredAt : Nat
  settledAt : Nat

/-- `GoodsReceiptPostedListener.onGoodsReceiptPosted`; only this type of event reaches it. -/
def onGoodsReceiptPosted (envelope : Envelope) (delivery : Delivery) : Transaction Unit :=
  match envelope.event with
  | .grn (.goodsReceiptPosted _ purchaseOrderId lines) => do
    let tenantId := envelope.tenantId.getD ""
    let companyId := envelope.companyId.getD ""
    let ctx := listenerContext tenantId companyId
    let received ← Messaging.receive sendInbox wiring.inbox
      ⟨tenantId, companyId, "GoodsReceiptPostedListener", toString envelope.eventId⟩
      delivery.rowId delivery.claimToken delivery.receivedAt
    match received with
    | .acquired reservation =>
      let complete : Transaction Unit := do
        let _ ← sendInbox (.complete reservation.id reservation.claimToken delivery.settledAt)
      if purchaseOrderId = "" then complete
      else
        (transactional do
          let (_, writes) ← registerReceipt wiring ctx
            ⟨purchaseOrderId, lines.map fun l => ⟨l.productId, l.acceptedQuantity⟩,
              some "system"⟩ delivery.registeredAt
          return writes).handle (fun _ => complete) fun error => do
            let _ ← sendInbox
              (.fail reservation.id reservation.claimToken (some error) delivery.settledAt)
            .fail error
    | _ => return ()
  | _ => return ()

end Listener

/-- The commands that may be started, with what their requests bring. -/
inductive ProcurementEntry where
  | registerReceipt (ctx : RequestContext) (request : PurchaseOrderReceiptRequest) (now : Nat)
  | transitionPurchaseOrder (ctx : RequestContext) (id : String)
      (transition : PurchaseOrderTransition) (reason actorId : Option String) (now : Nat)
  | issuePurchaseOrder (ctx : RequestContext) (id : String) (actorId : Option String) (now : Nat)
  | closePurchaseOrder (ctx : RequestContext) (id : String) (now : Nat)
  | createGrn (ctx : RequestContext) (input : CreateGrnRequest) (actorId : Option String)
      (id grnNumber : String) (now : Nat)
  | addGrnLine (ctx : RequestContext) (id productId : String)
      (orderedQuantity receivedQuantity unitPrice : ℚ) (now : Nat)
  | receiveGrn (ctx : RequestContext) (id : String) (actorId : Option String) (now : Nat)
  | recordInspectionResult (ctx : RequestContext) (id : String) (lines : List InspectionLine)
      (now : Nat)
  | postGrn (ctx : RequestContext) (id : String) (actorId : Option String) (now : Nat)
  | cancelGrn (ctx : RequestContext) (id : String) (actorId : Option String) (now : Nat)
  | setGrnLineTracking (ctx : RequestContext) (id productId : String)
      (entries : List TrackingEntry) (now : Nat)
  | reverseGrn (ctx : RequestContext) (id : String) (actorId : Option String)
      (reversalId grnNumber : String) (now : Nat)
  | goodsReceiptPosted (envelope : Envelope) (delivery : Delivery)

def ProcurementEntry.program (wiring : Wiring) : ProcurementEntry → Transaction Unit
  | registerReceipt ctx request now =>
    transactional do
      let (_, writes) ← Procurement.registerReceipt wiring ctx request now
      return writes
  | transitionPurchaseOrder ctx id transition reason actorId now =>
    Procurement.transitionPurchaseOrder wiring ctx id transition reason actorId now
  | issuePurchaseOrder ctx id actorId now => Procurement.issuePurchaseOrder ctx id actorId now
  | closePurchaseOrder ctx id now => Procurement.closePurchaseOrder ctx id now
  | createGrn ctx input actorId id grnNumber now =>
    Procurement.createGrn wiring ctx input actorId id grnNumber now
  | addGrnLine ctx id productId orderedQuantity receivedQuantity unitPrice now =>
    Procurement.addGrnLine ctx id productId orderedQuantity receivedQuantity unitPrice now
  | receiveGrn ctx id actorId now => Procurement.receiveGrn ctx id actorId now
  | recordInspectionResult ctx id lines now =>
    Procurement.recordInspectionResult ctx id lines now
  | postGrn ctx id actorId now => Procurement.postGrn wiring ctx id actorId now
  | cancelGrn ctx id actorId now => Procurement.cancelGrn ctx id actorId now
  | setGrnLineTracking ctx id productId entries now =>
    Procurement.setGrnLineTracking ctx id productId entries now
  | reverseGrn ctx id actorId reversalId grnNumber now =>
    Procurement.reverseGrn wiring ctx id actorId reversalId grnNumber now
  | goodsReceiptPosted envelope delivery =>
    Procurement.onGoodsReceiptPosted wiring envelope delivery

def procurementSystem (wiring : Wiring) : System where
  interface := ProcurementRequest.interface
  Store := ProcurementDb
  Choice := Unit
  Entry := ProcurementEntry
  program := ProcurementEntry.program wiring
  serve q _ db := some (ProcurementRequest.serve wiring.inbox db q)

end DddBoilerplate.Procurement
