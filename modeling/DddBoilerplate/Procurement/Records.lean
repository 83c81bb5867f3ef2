/- module: DddBoilerplate/Procurement/Records
   generality: I
   digest: Purchase order rows, the procurement database, and the atomic requests it serves. -/

import DddBoilerplate.Concurrency.Program
import DddBoilerplate.Messaging.Inbox
import DddBoilerplate.Procurement.PurchaseOrder
import DddBoilerplate.Store.Table

set_option autoImplicit false
set_option relaxedAutoImplicit false
set_option linter.all false

namespace DddBoilerplate.Procurement

open Concurrency Domain Messaging Store

structure RequestContext where
  tenantId : Option String
  companyId : Option String
  userId : Option String
  roles : List String
  defaultCurrency : Option String
  autoApproveThreshold : Option ℚ
  overReceiptTolerance : Option ℚ
  deriving DecidableEq

namespace RequestContext

/-- `TenantScope.where`: a request without a tenant sees every row. -/
def owns (ctx : RequestContext) (tenantId : Option String) : Bool :=
  match ctx.tenantId with
  | some tenant => tenant = "" || tenantId = some tenant
  | none => true

/-- `resolveCompanyId` -/
def company (ctx : RequestContext) : String :=
  (ctx.companyId.or ctx.tenantId).getD "00000000-0000-0000-0000-000000000000"

/-- `ctx.overReceiptTolerance ?? 0` -/
def tolerance (ctx : RequestContext) : ℚ := ctx.overReceiptTolerance.getD 0

end RequestContext

/-- A row of `purchase_order_lines`: integer quantities, amounts in whole minor units. -/
structure PurchaseOrderLineRow where
  productId : String
  quantity : Int
  receivedQuantity : Int
  descriptionSnapshot : Option String
  unitPrice : Nat
  total : Nat
  deriving DecidableEq

/-- A row of `purchase_orders` with its lines, its totals in whole minor units: the index on
(purchaseOrderId, productId) keeps the products of one order apart. -/
structure PurchaseOrderRow where
  id : String
  orderNumber : String
  vendorId : String
  externalReference : Option String
  status : PurchaseOrderStatus
  currency : String
  subtotal : Nat
  total : Nat
  lines : List PurchaseOrderLineRow
  distinct : (lines.map (·.productId)).Nodup
  orderDate : Option Nat
  expectedDeliveryDate : Option Nat
  createdBy : Option String
  approvedBy : Option String
  approvedAt : Option Nat
  rejectedBy : Option String
  rejectedAt : Option Nat
  rejectionReason : Option String
  issuedBy : Option String
  cancelledBy : Option String
  amendedBy : Option String
  amendedAt : Option Nat
  amendmentReason : Option String
  createdAt : Nat
  updatedAt : Nat
  version : Nat
  tenantId : Option String
  companyId : String
  deriving DecidableEq

/-- Some line of the order has a receipt. -/
def PurchaseOrderRow.hasReceipts (row : PurchaseOrderRow) : Bool :=
  row.lines.any fun line => 0 < line.receivedQuantity

/-- An error of the database client, which no filter maps to a status of its own. -/
def prismaError : Failure := ⟨500, "Internal server error"⟩

/-- `this.props.lines.reduce((acc, line) => acc.add(line.total), Money.ZERO(currency))` -/
def PurchaseOrder.subtotal (po : PurchaseOrder) : Except Failure Money :=
  po.lines.foldlM (fun acc line => acc.add line.total) (Money.zero po.currency)

def PurchaseOrder.total (po : PurchaseOrder) : Except Failure Money := po.subtotal

namespace PrismaPurchaseOrderMapper

def toLine (currency : String) (line : PurchaseOrderLineRow) : PurchaseOrderLine :=
  ⟨line.productId, line.quantity, ⟨line.unitPrice, currency⟩, ⟨line.total, currency⟩,
    line.receivedQuantity, line.descriptionSnapshot⟩

/-- The order number was normalised when the order was created. -/
def toDomain (row : PurchaseOrderRow) : PurchaseOrder where
  id := row.id
  orderNumber := row.orderNumber
  vendorId := row.vendorId
  externalReference := row.externalReference
  status := row.status
  currency := row.currency
  lines := row.lines.map (toLine row.currency)
  orderDate := row.orderDate
  expectedDeliveryDate := row.expectedDeliveryDate
  createdBy := row.createdBy
  approvedBy := row.approvedBy
  approvedAt := row.approvedAt
  rejectedBy := row.rejectedBy
  rejectedAt := row.rejectedAt
  rejectionReason := row.rejectionReason
  issuedBy := row.issuedBy
  cancelledBy := row.cancelledBy
  amendedBy := row.amendedBy
  amendedAt := row.amendedAt
  amendmentReason := row.amendmentReason
  lastReceiptBy := none
  lastReceiptAt := none
  createdAt := row.createdAt
  updatedAt := row.updatedAt
  version := row.version
  events := []

/-- One element of `toLinesCreateInput` as the columns take it. -/
def toLineRow (line : PurchaseOrderLine) : Option PurchaseOrderLineRow := do
  let quantity ← integer? line.quantity
  let receivedQuantity ← integer? line.receivedQuantity
  return ⟨line.productId, quantity, receivedQuantity, line.descriptionSnapshot,
    line.unitPrice.minorUnits.toNat, line.total.minorUnits.toNat⟩

/-- `toRow` and `toLinesCreateInput` together, where the columns and the index take them;
the totals of `toRow` throw where the lines' currencies differ. -/
def toRow (po : PurchaseOrder) (tenantId : Option String) (companyId : String) (version : Nat) :
    Except Failure PurchaseOrderRow := do
  let subtotal ← po.subtotal
  let total ← po.total
  match po.lines.mapM toLineRow with
  | none => .error prismaError
  | some lines =>
    if distinct : (lines.map (·.productId)).Nodup then
      .ok
        { id := po.id
          orderNumber := po.orderNumber
          vendorId := po.vendorId
          externalReference := po.externalReference
          status := po.status
          currency := po.currency
          subtotal := subtotal.minorUnits.toNat
          total := total.minorUnits.toNat
          lines := lines
          distinct := distinct
          orderDate := po.orderDate
          expectedDeliveryDate := po.expectedDeliveryDate
          createdBy := po.createdBy
          approvedBy := po.approvedBy
          approvedAt := po.approvedAt
          rejectedBy := po.rejectedBy
          rejectedAt := po.rejectedAt
          rejectionReason := po.rejectionReason
          issuedBy := po.issuedBy
          cancelledBy := po.cancelledBy
          amendedBy := po.amendedBy
          amendedAt := po.amendedAt
          amendmentReason := po.amendmentReason
          createdAt := po.createdAt
          updatedAt := po.updatedAt
          version := version
          tenantId := tenantId
          companyId := companyId }
    else .error prismaError

end PrismaPurchaseOrderMapper

inductive DomainEvent where
  | grn (event : GrnEvent)
  | order (event : PurchaseOrderEvent)
  deriving DecidableEq

/-- A row of the outbox as it is delivered; its identifier is its place. -/
structure Envelope where
  eventId : Nat
  tenantId : Option String
  companyId : Option String
  aggregateType : String
  aggregateId : String
  event : DomainEvent
  deriving DecidableEq

structure ProcurementDb where
  orders : Table PurchaseOrderRow.id
  grns : Table GrnRow.id
  outbox : List Envelope
  inbox : InboxDb

/-- The writes a transaction makes before it commits. -/
inductive Write where
  | saveGrn (ctx : RequestContext) (grn : GoodReceiptNote)
  | updateGrn (ctx : RequestContext) (grn : GoodReceiptNote)
  | updateOrder (ctx : RequestContext) (po : PurchaseOrder)
  | append (ctx : RequestContext) (aggregateType aggregateId : String) (event : DomainEvent)

namespace Write

/-- The document number is unique within the company. -/
def numberTaken (db : ProcurementDb) (row : GrnRow) : Bool :=
  db.grns.rows.any fun other => other.companyId = row.companyId ∧ other.grnNumber = row.grnNumber

def grnConflict : Failure :=
  ⟨409, "GRN was modified concurrently (optimistic concurrency conflict)"⟩

def orderConflict : Failure :=
  ⟨409, "Purchase order was modified concurrently (optimistic concurrency conflict)"⟩

/-- An update is a compare-and-set on (id, version) within the tenant, then the row and its
lines written anew. -/
def apply (db : ProcurementDb) : Write → Except Failure ProcurementDb
  | saveGrn ctx grn =>
    match PrismaGrnMapper.toRow grn ctx.tenantId ctx.company 1 with
    | none => .error prismaError
    | some row =>
      if db.grns.get? row.id = none ∧ numberTaken db row = false then
        .ok { db with grns := db.grns.insert row }
      else .error prismaError
  | updateGrn ctx grn =>
    match db.grns.get? grn.id with
    | none => .error grnConflict
    | some stored =>
      if stored.version = grn.version ∧ ctx.owns stored.tenantId = true then
        match PrismaGrnMapper.toRow grn stored.tenantId stored.companyId (stored.version + 1) with
        | none => .error prismaError
        | some row => .ok { db with grns := db.grns.put row }
      else .error grnConflict
  | updateOrder ctx po =>
    match db.orders.get? po.id with
    | none => .error orderConflict
    | some stored =>
      if stored.version = po.version ∧ ctx.owns stored.tenantId = true then do
        let row ← PrismaPurchaseOrderMapper.toRow po stored.tenantId stored.companyId
          (stored.version + 1)
        return { db with orders := db.orders.put row }
      else .error orderConflict
  | append ctx aggregateType aggregateId event =>
    .ok
      { db with
        outbox := db.outbox ++
          [{ eventId := db.outbox.length
             tenantId := ctx.tenantId
             companyId := ctx.companyId
             aggregateType := aggregateType
             aggregateId := aggregateId
             event := event }] }

end Write

/-- What a transaction asks of the database: reads of what is committed, and one commit of
its writes, which happens as a whole or not at all. -/
inductive ProcurementRequest where
  | findGrn (ctx : RequestContext) (id : String)
  | findByReversalOfId (ctx : RequestContext) (reversalOfId : String)
  | findOrder (ctx : RequestContext) (id : String)
  | hasReceipts (ctx : RequestContext) (purchaseOrderId : String)
  | commit (writes : List Write)
  | inbox (request : InboxRequest)

namespace ProcurementRequest

def Answer : ProcurementRequest → Type
  | findGrn _ _ => Option GrnRow
  | findByReversalOfId _ _ => Option GrnRow
  | findOrder _ _ => Option PurchaseOrderRow
  | hasReceipts _ _ => Bool
  | commit _ => Except Failure Unit
  | inbox request => request.Answer

abbrev interface : Interface := ⟨ProcurementRequest, Answer⟩

def serve (config : InboxConfig) (db : ProcurementDb) :
    (q : ProcurementRequest) → q.Answer × ProcurementDb
  | findGrn ctx id => ((db.grns.get? id).filter fun row => ctx.owns row.tenantId, db)
  | findByReversalOfId ctx reversalOfId =>
    (db.grns.rows.find? fun row =>
      row.reversalOfId = some reversalOfId && ctx.owns row.tenantId, db)
  | findOrder ctx id => ((db.orders.get? id).filter fun row => ctx.owns row.tenantId, db)
  | hasReceipts ctx purchaseOrderId =>
    (((db.orders.get? purchaseOrderId).filter fun row => ctx.owns row.tenantId).any fun row =>
      row.hasReceipts, db)
  | commit writes =>
    match writes.foldlM Write.apply db with
    | .ok db' => (.ok (), db')
    | .error failure => (.error failure, db)
  | inbox request =>
    let served := request.serve config db.inbox
    (served.1, { db with inbox := served.2 })

end ProcurementRequest

end DddBoilerplate.Procurement
