/- module: DddBoilerplate/Procurement/PurchaseOrder
   generality: I
   digest: The purchase order: money, lines, invariants, policies, methods, factory and receipt registration. -/

import DddBoilerplate.Procurement.GoodReceiptNote

set_option autoImplicit false
set_option relaxedAutoImplicit false
set_option linter.all false

namespace DddBoilerplate.Procurement

open Domain (Method require)

/-- The characters `String.prototype.trim` removes. -/
def isTrimmed (c : Char) : Bool :=
  (9 ≤ c.toNat && c.toNat ≤ 13) || (0x2000 ≤ c.toNat && c.toNat ≤ 0x200A) ||
    [0x20, 0xA0, 0x1680, 0x2028, 0x2029, 0x202F, 0x205F, 0x3000, 0xFEFF].contains c.toNat

def trim (s : String) : String :=
  String.ofList ((s.toList.dropWhile isTrimmed).reverse.dropWhile isTrimmed).reverse

/-- `Math.round` -/
def round (q : ℚ) : Int := ⌊q + 1 / 2⌋

/-- Whole minor units of one currency. -/
structure Money where
  minorUnits : Int
  currency : String
  deriving DecidableEq

namespace Money

def zero (currency : String) : Money := ⟨0, currency⟩

def fromMinorUnits (minorUnits : ℚ) (currency : String) : Except Failure Money := do
  require (minorUnits.den = 1) ⟨422, "Money minor units must be an integer"⟩
  require (0 ≤ minorUnits) ⟨422, "Money cannot be negative"⟩
  return ⟨minorUnits.num, currency⟩

def fromDecimal (decimal : ℚ) (currency : String) : Except Failure Money :=
  fromMinorUnits (round (decimal * 100)) currency

def add (money other : Money) : Except Failure Money := do
  require (money.currency = other.currency)
    ⟨422, s!"Currency mismatch: cannot combine {money.currency} with {other.currency}"⟩
  return ⟨money.minorUnits + other.minorUnits, money.currency⟩

def multiply (money : Money) (factor : ℚ) : Money :=
  ⟨round (money.minorUnits * factor), money.currency⟩

/-- `(this.minorUnits / 100).toFixed(2)`, for amounts that are not negative. -/
def toDecimal (money : Money) : String :=
  let units := money.minorUnits.toNat
  let cents := units % 100
  s!"{units / 100}.{cents / 10}{cents % 10}"

end Money

inductive PurchaseOrderStatus where
  | draft | submitted | pendingApproval | approved | issued | hold | revision
  | partiallyReceived | fullyReceived | rejected | cancelled | completed | closed | archived
  deriving DecidableEq

namespace PurchaseOrderStatus

def name : PurchaseOrderStatus → String
  | draft => "DRAFT"
  | submitted => "SUBMITTED"
  | pendingApproval => "PENDINGAPPROVAL"
  | approved => "APPROVED"
  | issued => "ISSUED"
  | hold => "HOLD"
  | revision => "REVISION"
  | partiallyReceived => "PARTIALLYRECEIVED"
  | fullyReceived => "FULLYRECEIVED"
  | rejected => "REJECTED"
  | cancelled => "CANCELLED"
  | completed => "COMPLETED"
  | closed => "CLOSED"
  | archived => "ARCHIVED"

/-- The transition table. -/
def allowed : PurchaseOrderStatus → List PurchaseOrderStatus
  | draft => [submitted, pendingApproval, cancelled]
  | submitted => [pendingApproval, approved, rejected, cancelled]
  | pendingApproval => [approved, rejected, draft]
  | approved => [issued, hold, revision, cancelled]
  | hold => [approved]
  | revision => [approved]
  | issued => [partiallyReceived, fullyReceived, completed, closed]
  | partiallyReceived => [partiallyReceived, fullyReceived, completed, closed, cancelled]
  | fullyReceived => [completed, closed]
  | rejected | cancelled | completed | closed | archived => []

end PurchaseOrderStatus

structure PurchaseOrderLine where
  productId : String
  quantity : ℚ
  unitPrice : Money
  total : Money
  receivedQuantity : ℚ
  descriptionSnapshot : Option String
  deriving DecidableEq

namespace PurchaseOrderLine

def withUpdatedQuantity (line : PurchaseOrderLine) (quantity : ℚ) (unitPrice total : Money) :
    PurchaseOrderLine :=
  { line with quantity := quantity, unitPrice := unitPrice, total := total }

def withAmendedUnitPrice (line : PurchaseOrderLine) (unitPrice total : Money) :
    PurchaseOrderLine :=
  { line with unitPrice := unitPrice, total := total }

/-- The balance grows by a receipt and returns by a reversal. -/
def receive (line : PurchaseOrderLine) (delta : ℚ) : Except Failure PurchaseOrderLine := do
  require (delta.den = 1) ⟨422, "Received quantity delta must be an integer"⟩
  return { line with receivedQuantity := line.receivedQuantity + delta }

end PurchaseOrderLine

/-- The fields an amendment moved, as it returns and publishes them. -/
structure AppliedChanges where
  expectedDeliveryDate : Option (Option Nat)
  lineUnitPrices : Option (List (String × String))
  deriving DecidableEq

inductive PurchaseOrderEvent where
  | created (purchaseOrderId orderNumber vendorId : String)
  | lineAdded (purchaseOrderId productId : String)
  | lineRemoved (purchaseOrderId productId : String)
  | submitted (purchaseOrderId orderNumber vendorId : String)
  | approved (purchaseOrderId : String)
  | rejected (purchaseOrderId reason : String)
  | cancelled (purchaseOrderId : String)
  | issued (purchaseOrderId : String)
  | completed (purchaseOrderId : String)
  | amended (purchaseOrderId : String) (changes : AppliedChanges) (reason : String)
      (actorId : Option String)
  deriving DecidableEq

/-- The aggregate, with the events it holds until they are pulled. -/
structure PurchaseOrder where
  id : String
  orderNumber : String
  vendorId : String
  externalReference : Option String
  status : PurchaseOrderStatus
  currency : String
  lines : List PurchaseOrderLine
  orderDate : Option Nat
  expectedDeliveryDate : Option Nat
  createdBy : Option String
  approvedBy : Option String
  approvedAt : Option Nat
  rejectedBy : Option String
  rejectedAt : Option Nat
  rejectionReason : Option String
  issuedBy : Option String
  cancelledBy : Option String
  amendedBy : Option String
  amendedAt : Option Nat
  amendmentReason : Option String
  lastReceiptBy : Option String
  lastReceiptAt : Option Nat
  createdAt : Nat
  updatedAt : Nat
  version : Nat
  events : List PurchaseOrderEvent
  deriving DecidableEq

section Invariants

def purchaseOrderAmendable (status : PurchaseOrderStatus) : Except Failure Unit :=
  require (status = .issued)
    ⟨422, "Only an issued purchase order can be amended — amend before issuing"⟩

def purchaseOrderCreate (orderNumber vendorId : String) : Except Failure Unit := do
  require (trim orderNumber ≠ "") ⟨422, "Purchase order number is required"⟩
  require (trim vendorId ≠ "") ⟨422, "Purchase order vendor is required"⟩

def orderNumberCreate (orderNumber : String) : Except Failure Unit :=
  require (trim orderNumber ≠ "") ⟨422, "Order number cannot be empty"⟩

def purchaseOrderHasLines (lineCount : Nat) : Except Failure Unit :=
  require (1 ≤ lineCount) ⟨422, "Purchase order must contain at least one line"⟩

/-- An order already in the status it is to take passes. -/
def purchaseOrderStatusTransition (status target : PurchaseOrderStatus) : Except Failure Unit :=
  require (status = target ∨ target ∈ status.allowed)
    ⟨422, s!"Invalid purchase order transition: {status.name} -> {target.name}"⟩

def purchaseOrderEditable (status : PurchaseOrderStatus) : Except Failure Unit :=
  require (status = .draft)
    ⟨422, s!"Cannot modify a purchase order in status {status.name}; only DRAFT orders are editable"⟩

def purchaseOrderLineQuantity (quantity : ℚ) : Except Failure Unit :=
  require (quantity.den = 1 ∧ 0 < quantity) ⟨422, "Line quantity must be a positive integer"⟩

def purchaseOrderCancellation (hasReceipts : Bool) : Except Failure Unit :=
  require (hasReceipts = false)
    ⟨422, "Policy \"purchase-order-cancellation-no-posted-receipts\" failed"⟩

/-- The bound is on the upper side only. A number is shown by its numerator and denominator. -/
def purchaseOrderOverReceipt (orderedQuantity alreadyReceived proposedQuantity tolerance : ℚ) :
    Except Failure Unit :=
  require (alreadyReceived + proposedQuantity ≤ orderedQuantity * (1 + tolerance))
    ⟨422, s!"Over-receipt: {alreadyReceived + proposedQuantity} exceeds allowed " ++
      s!"{orderedQuantity * (1 + tolerance)} (ordered {orderedQuantity} × (1 + {tolerance}))"⟩

end Invariants

/-- What an amendment asks for: a date may also be taken away. -/
structure AmendmentInput where
  expectedDeliveryDate : Option (Option Nat)
  lineUnitPrices : Option (List (String × ℚ))
  reason : String
  actorId : Option String
  deriving DecidableEq

structure HeaderInput where
  orderDate : Option Nat
  expectedDeliveryDate : Option Nat
  externalReference : Option String
  deriving DecidableEq

namespace PurchaseOrder

def addEvent (event : PurchaseOrderEvent) (po : PurchaseOrder) : PurchaseOrder :=
  { po with events := po.events ++ [event] }

def find? (po : PurchaseOrder) (productId : String) : Option PurchaseOrderLine :=
  po.lines.find? fun line => line.productId = productId

def mapLine (productId : String) (f : PurchaseOrderLine → PurchaseOrderLine)
    (lines : List PurchaseOrderLine) : List PurchaseOrderLine :=
  lines.map fun line => if line.productId = productId then f line else line

abbrev OrderMethod (α : Type) := Method Failure PurchaseOrder α

def assertEditable : OrderMethod Unit := do
  let po ← Method.this
  Method.enforce (purchaseOrderEditable po.status)

def updateHeader (input : HeaderInput) (now : Nat) : OrderMethod Unit := do
  assertEditable
  Method.assign fun po =>
    { po with
      orderDate := input.orderDate.or po.orderDate
      expectedDeliveryDate := input.expectedDeliveryDate.or po.expectedDeliveryDate
      externalReference := input.externalReference.or po.externalReference
      updatedAt := now }

/-- A line without receipts yet. -/
def newLine (productId : String) (quantity : ℚ) (unitPrice : Money)
    (descriptionSnapshot : Option String) : PurchaseOrderLine :=
  ⟨productId, quantity, unitPrice, unitPrice.multiply quantity, 0, descriptionSnapshot⟩

def addLine (productId : String) (quantity : ℚ) (unitPrice : Money)
    (descriptionSnapshot : Option String) (now : Nat) : OrderMethod Unit := do
  assertEditable
  Method.enforce (purchaseOrderLineQuantity quantity)
  Method.assign fun po =>
    { po with
      lines :=
        match po.find? productId with
        | some existing =>
          mapLine productId
            (·.withUpdatedQuantity (existing.quantity + quantity) unitPrice
              (unitPrice.multiply (existing.quantity + quantity))) po.lines
        | none => po.lines ++ [newLine productId quantity unitPrice descriptionSnapshot]
      updatedAt := now }
  Method.assign fun po => po.addEvent (.lineAdded po.id productId)

/-- Rewrites the first line of the product: the source compares the line objects. -/
def mapFirst (productId : String) (f : PurchaseOrderLine → PurchaseOrderLine) :
    List PurchaseOrderLine → List PurchaseOrderLine
  | [] => []
  | line :: lines =>
    if line.productId = productId then f line :: lines else line :: mapFirst productId f lines

/-- Returns whether the line changed. -/
def setLine (productId : String) (quantity : ℚ) (unitPrice : Money)
    (descriptionSnapshot : Option String) (now : Nat) : OrderMethod Bool := do
  assertEditable
  Method.enforce (purchaseOrderLineQuantity quantity)
  let po ← Method.this
  let existing := po.find? productId
  if existing.any fun line => line.quantity = quantity ∧ line.unitPrice = unitPrice then
    return false
  Method.assign fun po =>
    { po with
      lines :=
        match existing with
        | some _ =>
          mapFirst productId
            (·.withUpdatedQuantity quantity unitPrice (unitPrice.multiply quantity)) po.lines
        | none => po.lines ++ [newLine productId quantity unitPrice descriptionSnapshot]
      updatedAt := now }
  Method.assign fun po => po.addEvent (.lineAdded po.id productId)
  return true

def removeLine (productId : String) (now : Nat) : OrderMethod Unit := do
  assertEditable
  Method.assign fun po =>
    { po with lines := po.lines.filter fun line => line.productId ≠ productId, updatedAt := now }
  Method.assign fun po => po.addEvent (.lineRemoved po.id productId)

def submit (now : Nat) : OrderMethod Unit := do
  let po ← Method.this
  Method.enforce (purchaseOrderHasLines po.lines.length)
  Method.enforce (purchaseOrderStatusTransition po.status .submitted)
  Method.assign fun po => { po with status := .submitted, updatedAt := now }
  Method.assign fun po => po.addEvent (.submitted po.id po.orderNumber po.vendorId)

def approve (actorId : Option String) (now : Nat) : OrderMethod Unit := do
  let po ← Method.this
  Method.enforce (purchaseOrderStatusTransition po.status .approved)
  Method.assign fun po =>
    { po with status := .approved, approvedBy := actorId, approvedAt := some now, updatedAt := now }
  Method.assign fun po => po.addEvent (.approved po.id)

def reject (reason : String) (actorId : Option String) (now : Nat) : OrderMethod Unit := do
  let po ← Method.this
  Method.enforce (purchaseOrderStatusTransition po.status .rejected)
  Method.assign fun po =>
    { po with
      status := .rejected
      rejectedBy := actorId
      rejectedAt := some now
      rejectionReason := some reason
      updatedAt := now }
  Method.assign fun po => po.addEvent (.rejected po.id reason)

def cancel (actorId : Option String) (hasReceipts : Bool) (now : Nat) : OrderMethod Unit := do
  let po ← Method.this
  Method.enforce (purchaseOrderStatusTransition po.status .cancelled)
  Method.enforce (purchaseOrderCancellation hasReceipts)
  Method.assign fun po =>
    { po with status := .cancelled, cancelledBy := actorId, updatedAt := now }
  Method.assign fun po => po.addEvent (.cancelled po.id)

/-- One round of the loop over the new prices, with its entry of `prices`. -/
def amendPrice (price : String × ℚ) : OrderMethod (String × String) := do
  let po ← Method.this
  match po.find? price.1 with
  | none =>
    Method.enforce (.error ⟨404, s!"Purchase order has no line for product {price.1}"⟩)
  | some line =>
    Method.enforce (require (line.receivedQuantity ≤ 0)
      (Failure.mk 422 (s!"Line {price.1} already has a receipt and cannot be re-priced " ++
        s!"({line.receivedQuantity} received)")))
    let unitPrice ← Method.enforce (Money.fromMinorUnits price.2 po.currency)
    Method.assign fun po =>
      { po with
        lines :=
          mapLine price.1
            (·.withAmendedUnitPrice unitPrice (unitPrice.multiply line.quantity)) po.lines }
    return (price.1, unitPrice.toDecimal)

/-- The loop over the new prices. -/
def amendPrices : List (String × ℚ) → OrderMethod (List (String × String))
  | [] => return []
  | price :: prices => do
    let entry ← amendPrice price
    let entries ← amendPrices prices
    return entry :: entries

def amendDate : Option (Option Nat) → OrderMethod Unit
  | some date => Method.assign fun po => { po with expectedDeliveryDate := date }
  | none => return ()

def amendLines : Option (List (String × ℚ)) → OrderMethod (Option (List (String × String)))
  | some (price :: prices) => some <$> amendPrices (price :: prices)
  | _ => return none

/-- The date and the prices before one that throws stay assigned. -/
def amend (changes : AmendmentInput) (now : Nat) : OrderMethod AppliedChanges := do
  let po ← Method.this
  Method.enforce (purchaseOrderAmendable po.status)
  let reason := trim changes.reason
  Method.enforce (require (reason ≠ "") (Failure.mk 422 "An amendment requires a reason"))
  amendDate changes.expectedDeliveryDate
  let prices ← amendLines changes.lineUnitPrices
  let applied : AppliedChanges := ⟨changes.expectedDeliveryDate, prices⟩
  Method.enforce (require (applied ≠ ⟨none, none⟩)
    (Failure.mk 422 "An amendment must change something"))
  Method.assign fun po =>
    { po with
      amendedBy := changes.actorId.or po.amendedBy
      amendedAt := some now
      amendmentReason := some reason
      updatedAt := now }
  Method.assign fun po => po.addEvent (.amended po.id applied reason changes.actorId)
  return applied

def issue (actorId : Option String) (now : Nat) : OrderMethod Unit := do
  let po ← Method.this
  Method.enforce (purchaseOrderHasLines po.lines.length)
  Method.enforce (purchaseOrderStatusTransition po.status .issued)
  Method.assign fun po => { po with status := .issued, issuedBy := actorId, updatedAt := now }
  Method.assign fun po => po.addEvent (.issued po.id)

def close (now : Nat) : OrderMethod Unit := do
  let po ← Method.this
  Method.enforce (purchaseOrderStatusTransition po.status .completed)
  Method.assign fun po => { po with status := .completed, updatedAt := now }
  Method.assign fun po => po.addEvent (.completed po.id)

/-- Legacy alias. -/
def complete (now : Nat) : OrderMethod Unit := close now

def recordReceipt (actorId : Option String) (now : Nat) : OrderMethod Unit :=
  Method.assign fun po =>
    { po with updatedAt := now, lastReceiptBy := actorId, lastReceiptAt := some now }

end PurchaseOrder

structure CreatePurchaseOrderInput where
  orderNumber : String
  vendorId : String
  currency : Option String
  externalReference : Option String
  orderDate : Option Nat
  expectedDeliveryDate : Option Nat
  createdBy : Option String
  deriving DecidableEq

/-- A line of a receipt: what is to be added to the product's balance. -/
structure ReceiptLine where
  productId : String
  receivedQuantity : ℚ
  deriving DecidableEq

namespace PurchaseOrderFactory

/-- `PurchaseOrderId.generate()` and the clock enter as arguments. -/
def create (input : CreatePurchaseOrderInput) (id : String) (now : Nat) :
    Except Failure PurchaseOrder := do
  purchaseOrderCreate input.orderNumber input.vendorId
  orderNumberCreate input.orderNumber
  let orderNumber := (trim input.orderNumber).toUpper
  let po : PurchaseOrder :=
    { id := id
      orderNumber := orderNumber
      vendorId := input.vendorId
      externalReference := input.externalReference
      status := .draft
      currency := input.currency.getD "USD"
      lines := []
      orderDate := some (input.orderDate.getD now)
      expectedDeliveryDate := input.expectedDeliveryDate
      createdBy := input.createdBy
      approvedBy := none
      approvedAt := none
      rejectedBy := none
      rejectedAt := none
      rejectionReason := none
      issuedBy := none
      cancelledBy := none
      amendedBy := none
      amendedAt := none
      amendmentReason := none
      lastReceiptBy := none
      lastReceiptAt := none
      createdAt := now
      updatedAt := now
      version := 1
      events := [] }
  return po.addEvent (.created id orderNumber input.vendorId)

/-- One round of the loop over the receipt's lines: the line found is changed in place. -/
def registerLine (tolerance : ℚ) (line : ReceiptLine) : PurchaseOrder.OrderMethod Unit := do
  let po ← Method.this
  match po.find? line.productId with
  | none =>
    Method.enforce (.error ⟨404, s!"Product {line.productId} is not on the purchase order"⟩)
  | some poLine =>
    Method.enforce (purchaseOrderOverReceipt poLine.quantity poLine.receivedQuantity
      line.receivedQuantity tolerance)
    let received ← Method.enforce (poLine.receive line.receivedQuantity)
    Method.assign fun po =>
      { po with lines := PurchaseOrder.mapFirst line.productId (fun _ => received) po.lines }

def openPoForReceipt (lines : List ReceiptLine) (tolerance : ℚ) (actorId : Option String)
    (now : Nat) : PurchaseOrder.OrderMethod Unit := do
  let po ← Method.this
  Method.enforce (require (po.status = .issued ∨ po.status = .approved)
    (Failure.mk 422 "Purchase order is not receiving-eligible"))
  lines.forM (registerLine tolerance)
  PurchaseOrder.recordReceipt actorId now

end PurchaseOrderFactory

end DddBoilerplate.Procurement
