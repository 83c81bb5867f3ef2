/- module: DddBoilerplate/Procurement/Scenario
   generality: I
   digest: Words for spelling out one concrete run of receiving: orders, notes, commands and their steps. -/

import DddBoilerplate.Procurement.Transactions

set_option autoImplicit false
set_option relaxedAutoImplicit false
set_option linter.all false

open DddBoilerplate.Concurrency

namespace DddBoilerplate.Procurement.Scenario

/-- Policies that allow everything; the inbox as it is configured by default. -/
def allowing : Wiring where
  abac _ := .allow
  inbox := ⟨60000, 1000, 60000⟩

abbrev DemoPool := Pool (procurementSystem allowing)

abbrev DemoMove := Move (procurementSystem allowing)

/-- A request of tenant `t`, company `c`, under a tolerance. -/
def officer (tolerance : ℚ) : RequestContext where
  tenantId := some "t"
  companyId := some "c"
  userId := some "u"
  roles := []
  defaultCurrency := none
  autoApproveThreshold := none
  overReceiptTolerance := some tolerance

/-- An issued order for a quantity of bolts. -/
def orderFor (quantity received : Int) : PurchaseOrderRow where
  id := "po"
  orderNumber := "PO-1"
  vendorId := "v"
  externalReference := none
  status := .issued
  currency := "USD"
  subtotal := 200 * quantity.toNat
  total := 200 * quantity.toNat
  lines := [⟨"bolt", quantity, received, none, 200, 200 * quantity.toNat⟩]
  distinct := List.nodup_singleton _
  orderDate := none
  expectedDeliveryDate := none
  createdBy := none
  approvedBy := none
  approvedAt := none
  rejectedBy := none
  rejectedAt := none
  rejectionReason := none
  issuedBy := none
  cancelledBy := none
  amendedBy := none
  amendedAt := none
  amendmentReason := none
  createdAt := 0
  updatedAt := 0
  version := 1
  tenantId := some "t"
  companyId := "c"

/-- A note of the order with one line of bolts. -/
def noteOf (id : String) (status : GrnStatus) (received accepted rejected : Int) : GrnRow where
  id := id
  grnNumber := id
  purchaseOrderId := "po"
  vendorId := "v"
  status := status
  currency := "USD"
  lines := [⟨"bolt", 10, received, accepted, rejected, 2⟩]
  distinct := List.nodup_singleton _
  receivedAt := none
  reversalOfId := none
  createdBy := none
  receivedBy := none
  postedBy := none
  cancelledBy := none
  createdAt := 0
  updatedAt := 0
  version := 1
  tenantId := some "t"
  companyId := "c"

/-- One order and these notes. -/
def dbOf (order : PurchaseOrderRow) (notes : List GrnRow) : ProcurementDb where
  orders := Store.Table.empty.insert order
  grns := notes.foldl Store.Table.insert Store.Table.empty
  outbox := []
  inbox := Store.Table.empty

def poolOf (order : PurchaseOrderRow) (notes : List GrnRow) : DemoPool := ⟨dbOf order notes, []⟩

def register (tolerance : ℚ) (lines : List ReceiptLine) : DemoMove :=
  .start (.registerReceipt (officer tolerance) ⟨"po", lines, none⟩ 0)

/-- Posting a note, through any of its endpoints. -/
def post (id : String) (tolerance : ℚ) : DemoMove :=
  .start (.postGrn (officer tolerance) id none 0)

def inspect (id : String) (lines : List InspectionLine) : DemoMove :=
  .start (.recordInspectionResult (officer 0) id lines 0)

/-- Reversing a note; the compensating document takes its identifier for its number. -/
def reverse (id reversalId : String) (tolerance : ℚ) : DemoMove :=
  .start (.reverseGrn (officer tolerance) id none reversalId reversalId 0)

/-- So many calls of one command. -/
def serve (thread calls : Nat) : List DemoMove := List.replicate calls (.serve thread ())

/-- The command returned. -/
def ended : Transaction Unit → Bool
  | .done _ => true
  | _ => false

/-- How much of the bolts has come. -/
def receivedOf (P : DemoPool) : Option ℚ :=
  (P.store.orders.get? "po").map fun order => received "bolt" order.balances

end DddBoilerplate.Procurement.Scenario
