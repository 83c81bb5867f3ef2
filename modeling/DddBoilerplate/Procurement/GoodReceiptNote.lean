/- module: DddBoilerplate/Procurement/GoodReceiptNote
   generality: I
   digest: The goods receipt note: its lines, its invariants, its methods, its factory and its row. -/

import Mathlib.Data.Rat.Floor
import DddBoilerplate.Domain.Method

set_option autoImplicit false
set_option relaxedAutoImplicit false
set_option linter.all false

namespace DddBoilerplate.Procurement

open Domain (Method require)

/-- An error thrown with a `statusCode`. -/
structure Failure where
  statusCode : Nat
  message : String
  deriving DecidableEq

inductive GrnStatus where
  | draft | received | posted | inspected | matched | completed | cancelled | reversed
  deriving DecidableEq

def GrnStatus.name : GrnStatus → String
  | draft => "DRAFT"
  | received => "RECEIVED"
  | posted => "POSTED"
  | inspected => "INSPECTED"
  | matched => "MATCHED"
  | completed => "COMPLETED"
  | cancelled => "CANCELLED"
  | reversed => "REVERSED"

structure TrackingEntry where
  lotNo : Option String
  serialNo : Option String
  quantity : ℚ
  manufactureDate : Option Nat
  expiryDate : Option Nat
  deriving DecidableEq

/-- Quantities are numbers as the requests bring them; a date is a number of milliseconds. -/
structure GrnLine where
  productId : String
  orderedQuantity : ℚ
  receivedQuantity : ℚ
  acceptedQuantity : ℚ
  rejectedQuantity : ℚ
  unitPrice : ℚ
  tracking : List TrackingEntry
  deriving DecidableEq

namespace GrnLine

def create (productId : String) (orderedQuantity receivedQuantity unitPrice : ℚ)
    (acceptedQuantity rejectedQuantity : Option ℚ) (tracking : Option (List TrackingEntry)) :
    GrnLine where
  productId := productId
  orderedQuantity := orderedQuantity
  receivedQuantity := receivedQuantity
  acceptedQuantity := acceptedQuantity.getD receivedQuantity
  rejectedQuantity := rejectedQuantity.getD 0
  unitPrice := unitPrice
  tracking := tracking.getD []

def withReceivedQuantity (line : GrnLine) (receivedQuantity : ℚ) : GrnLine :=
  { line with receivedQuantity := receivedQuantity }

def withTracking (line : GrnLine) (tracking : List TrackingEntry) : GrnLine :=
  { line with tracking := tracking }

def withInspection (line : GrnLine) (acceptedQuantity rejectedQuantity : ℚ) : GrnLine :=
  { line with acceptedQuantity := acceptedQuantity, rejectedQuantity := rejectedQuantity }

/-- What a post registers of the line, announces of it, and a reversal gives back: the same
conditional stands in all three places. -/
def postedQuantity (line : GrnLine) : ℚ :=
  if 0 < line.acceptedQuantity then line.acceptedQuantity else line.receivedQuantity

end GrnLine

/-- A line of `GoodsReceiptPosted` and `GoodsReceiptReversed`. -/
structure PostedLine where
  grnLineId : String
  productId : String
  acceptedQuantity : ℚ
  unitPrice : ℚ
  deriving DecidableEq

inductive GrnEvent where
  | grnCreated (grnId grnNumber purchaseOrderId : String)
  | grnLineAdded (grnId productId : String)
  | grnReceived (grnId : String)
  | grnCompleted (grnId : String)
  | goodsReceiptPosted (grnId purchaseOrderId : String) (lines : List PostedLine)
  | goodsReceiptReversed (grnId reversalOfId purchaseOrderId : String) (lines : List PostedLine)
  | grnCancelled (grnId : String)
  deriving DecidableEq

/-- The aggregate, with the events it holds until they are pulled. -/
structure GoodReceiptNote where
  id : String
  grnNumber : String
  purchaseOrderId : String
  vendorId : String
  status : GrnStatus
  currency : String
  lines : List GrnLine
  receivedAt : Option Nat
  reversalOfId : Option String
  createdBy : Option String
  receivedBy : Option String
  postedBy : Option String
  cancelledBy : Option String
  createdAt : Nat
  updatedAt : Nat
  version : Nat
  events : List GrnEvent
  deriving DecidableEq

section Invariants

def grnCreate (purchaseOrderId : String) : Except Failure Unit :=
  require (purchaseOrderId ≠ "") ⟨422, "Purchase order ID is required to create a GRN"⟩

def grnHasLines (lineCount : Nat) : Except Failure Unit :=
  require (1 ≤ lineCount) ⟨422, "GRN must have at least one line"⟩

def grnReversal (reversalOfId : String) : Except Failure Unit :=
  require (reversalOfId ≠ "") ⟨422, "A reversal document must reference its original GRN"⟩

def grnReversalBalance (receivedQuantity acceptedQuantity rejectedQuantity : ℚ) :
    Except Failure Unit := do
  require (acceptedQuantity + rejectedQuantity = receivedQuantity)
    ⟨422, "Reversal accepted + rejected must equal received quantity"⟩
  require (receivedQuantity < 0)
    ⟨422, "Reversal quantities must be negative (compensating document)"⟩
  require (acceptedQuantity ≤ 0 ∧ rejectedQuantity ≤ 0)
    ⟨422, "Reversal accepted/rejected cannot be positive"⟩

def grnEditable (status : GrnStatus) : Except Failure Unit :=
  require (status = .draft) ⟨422, "GRN cannot be modified in its current status"⟩

def GrnStatus.validTransitions : GrnStatus → List GrnStatus
  | draft => [received, posted, cancelled]
  | received => [posted, inspected, completed, cancelled]
  | posted => [inspected, matched, reversed]
  | inspected => [posted, matched, reversed]
  | matched | completed | cancelled | reversed => []

/-- A document already in the status it is to take passes. -/
def grnStatusTransition (status target : GrnStatus) : Except Failure Unit :=
  require (status = target ∨ target ∈ status.validTransitions)
    ⟨422, "Invalid status transition for GRN"⟩

def grnReversible (status : GrnStatus) : Except Failure Unit :=
  require (status = .completed)
    ⟨422, s!"Only a posted GRN can be reversed (status: {status.name})"⟩

def grnLineQuantity (receivedQuantity : ℚ) : Except Failure Unit :=
  require (0 < receivedQuantity) ⟨422, "Received quantity must be greater than zero"⟩

def grnInspectionBalance (receivedQuantity acceptedQuantity rejectedQuantity : ℚ) :
    Except Failure Unit := do
  require (acceptedQuantity + rejectedQuantity = receivedQuantity)
    ⟨422, "Accepted + rejected must equal received quantity"⟩
  require (0 ≤ acceptedQuantity ∧ 0 ≤ rejectedQuantity)
    ⟨422, "Accepted/rejected quantities cannot be negative"⟩

theorem grnInspectionBalance_eq_ok {r a j : ℚ} {u : Unit} :
    grnInspectionBalance r a j = .ok u ↔ a + j = r ∧ 0 ≤ a ∧ 0 ≤ j := by
  unfold grnInspectionBalance
  by_cases hsum : a + j = r
  · simp [require, hsum, bind, Except.bind]
  · simp [require, hsum, bind, Except.bind]

theorem grnReversalBalance_eq_ok {r a j : ℚ} {u : Unit} :
    grnReversalBalance r a j = .ok u ↔ a + j = r ∧ r < 0 ∧ a ≤ 0 ∧ j ≤ 0 := by
  unfold grnReversalBalance
  by_cases hsum : a + j = r
  · by_cases hneg : r < 0
    · simp [require, hsum, hneg, bind, Except.bind]
    · simp [require, hsum, hneg, bind, Except.bind]
  · simp [require, hsum, bind, Except.bind]

end Invariants

/-- One line of the inspection's outcome. -/
structure InspectionLine where
  productId : String
  acceptedQuantity : ℚ
  rejectedQuantity : ℚ
  deriving DecidableEq

namespace GoodReceiptNote

def addEvent (event : GrnEvent) (grn : GoodReceiptNote) : GoodReceiptNote :=
  { grn with events := grn.events ++ [event] }

def find? (grn : GoodReceiptNote) (productId : String) : Option GrnLine :=
  grn.lines.find? fun line => line.productId = productId

/-- `this.props.lines.map(line => line.productId === productId ? f(line) : line)` -/
def mapLine (productId : String) (f : GrnLine → GrnLine) (lines : List GrnLine) : List GrnLine :=
  lines.map fun line => if line.productId = productId then f line else line

abbrev GrnMethod (α : Type) := Method Failure GoodReceiptNote α

def addLine (productId : String) (orderedQuantity receivedQuantity unitPrice : ℚ) (now : Nat) :
    GrnMethod Unit := do
  let grn ← Method.this
  Method.enforce (grnEditable grn.status)
  Method.enforce (grnLineQuantity receivedQuantity)
  Method.assign fun grn =>
    { grn with
      lines :=
        match grn.find? productId with
        | some existing =>
          mapLine productId
            (·.withReceivedQuantity (existing.receivedQuantity + receivedQuantity)) grn.lines
        | none =>
          grn.lines ++
            [GrnLine.create productId orderedQuantity receivedQuantity unitPrice none none none]
      updatedAt := now }
  Method.assign (addEvent (.grnLineAdded grn.id productId))

def receive (actorId : Option String) (now : Nat) : GrnMethod Unit := do
  let grn ← Method.this
  Method.enforce (grnHasLines grn.lines.length)
  Method.enforce (grnStatusTransition grn.status .received)
  Method.assign fun grn =>
    { grn with status := .received, receivedAt := some now, receivedBy := actorId, updatedAt := now }
  Method.assign (addEvent (.grnReceived grn.id))

/-- The lines of `GoodsReceiptPosted`. -/
def postedLines (grn : GoodReceiptNote) : List PostedLine :=
  grn.lines.map fun l =>
    { grnLineId := s!"{grn.id}:{l.productId}"
      productId := l.productId
      acceptedQuantity := l.postedQuantity
      unitPrice := l.unitPrice }

def complete (actorId : Option String) (now : Nat) : GrnMethod Unit := do
  let grn ← Method.this
  Method.enforce (grnStatusTransition grn.status .completed)
  Method.assign fun grn =>
    { grn with status := .completed, postedBy := actorId, updatedAt := now }
  Method.assign (addEvent (.grnCompleted grn.id))
  Method.assign (addEvent (.goodsReceiptPosted grn.id grn.purchaseOrderId grn.postedLines))

def cancel (actorId : Option String) (now : Nat) : GrnMethod Unit := do
  let grn ← Method.this
  Method.enforce (grnStatusTransition grn.status .cancelled)
  Method.assign fun grn =>
    { grn with status := .cancelled, cancelledBy := actorId, updatedAt := now }
  Method.assign (addEvent (.grnCancelled grn.id))

/-- One round of the loop over the outcome's lines. -/
def inspectLine (result : InspectionLine) : GrnMethod Unit := do
  let grn ← Method.this
  match grn.find? result.productId with
  | none => Method.enforce (.error ⟨422, s!"Product {result.productId} is not on this GRN"⟩)
  | some line =>
    Method.enforce
      (grnInspectionBalance line.receivedQuantity result.acceptedQuantity result.rejectedQuantity)
    Method.assign fun grn =>
      { grn with
        lines :=
          mapLine result.productId
            (·.withInspection result.acceptedQuantity result.rejectedQuantity) grn.lines }

/-- Lines before one that throws keep the split already assigned to them. -/
def recordInspectionResult (lines : List InspectionLine) (now : Nat) : GrnMethod Unit := do
  let grn ← Method.this
  Method.enforce (require (grn.status = .received)
    (Failure.mk 422
      s!"Inspection can only be recorded on a RECEIVED GRN (status: {grn.status.name})"))
  lines.forM inspectLine
  Method.assign fun grn => { grn with updatedAt := now }

def setLineTracking (productId : String) (entries : List TrackingEntry) (now : Nat) :
    GrnMethod Unit :=
  Method.assign fun grn =>
    { grn with lines := mapLine productId (·.withTracking entries) grn.lines, updatedAt := now }

end GoodReceiptNote

structure GrnLineInput where
  productId : String
  orderedQuantity : ℚ
  receivedQuantity : ℚ
  unitPrice : ℚ
  deriving DecidableEq

structure CreateGrnInput where
  grnNumber : String
  purchaseOrderId : String
  vendorId : String
  currency : Option String
  createdBy : Option String
  lines : List GrnLineInput
  deriving DecidableEq

structure ReversalLineInput where
  productId : String
  orderedQuantity : ℚ
  receivedQuantity : ℚ
  acceptedQuantity : ℚ
  rejectedQuantity : ℚ
  unitPrice : ℚ
  deriving DecidableEq

structure CreateGrnReversalInput where
  grnNumber : String
  reversalOfId : String
  purchaseOrderId : String
  vendorId : String
  currency : String
  actorId : Option String
  lines : List ReversalLineInput
  deriving DecidableEq

namespace GrnFactory

/-- `GrnId.generate()` and the clock enter as arguments. -/
def create (input : CreateGrnInput) (id : String) (now : Nat) : Except Failure GoodReceiptNote := do
  grnCreate input.purchaseOrderId
  let grn : GoodReceiptNote :=
    { id := id
      grnNumber := input.grnNumber
      purchaseOrderId := input.purchaseOrderId
      vendorId := input.vendorId
      status := .draft
      currency := input.currency.getD "USD"
      lines := input.lines.map fun line =>
        GrnLine.create line.productId line.orderedQuantity line.receivedQuantity line.unitPrice
          none none none
      receivedAt := none
      reversalOfId := none
      createdBy := input.createdBy
      receivedBy := none
      postedBy := none
      cancelledBy := none
      createdAt := now
      updatedAt := now
      version := 1
      events := [] }
  return grn.addEvent (.grnCreated id input.grnNumber input.purchaseOrderId)

/-- The compensating document as the factory builds it, before its lines are checked. -/
def reversalDocument (input : CreateGrnReversalInput) (id : String) (now : Nat) :
    GoodReceiptNote where
  id := id
  grnNumber := input.grnNumber
  purchaseOrderId := input.purchaseOrderId
  vendorId := input.vendorId
  status := .completed
  currency := input.currency
  lines := input.lines.map fun line =>
    GrnLine.create line.productId line.orderedQuantity line.receivedQuantity line.unitPrice
      (some line.acceptedQuantity) (some line.rejectedQuantity) none
  receivedAt := some now
  reversalOfId := some input.reversalOfId
  createdBy := input.actorId
  receivedBy := input.actorId
  postedBy := input.actorId
  cancelledBy := none
  createdAt := now
  updatedAt := now
  version := 1
  events := []

def createReversal (input : CreateGrnReversalInput) (id : String) (now : Nat) :
    Except Failure GoodReceiptNote := do
  grnReversal input.reversalOfId
  let grn := reversalDocument input id now
  grn.lines.forM fun line =>
    grnReversalBalance line.receivedQuantity line.acceptedQuantity line.rejectedQuantity
  return grn.addEvent
    (.goodsReceiptReversed id input.reversalOfId input.purchaseOrderId
      (grn.lines.map fun line =>
        { grnLineId := s!"{id}:{line.productId}"
          productId := line.productId
          acceptedQuantity := line.acceptedQuantity
          unitPrice := line.unitPrice }))

end GrnFactory

/-- A row of `grn_lines`: its quantity columns are integers. -/
structure GrnLineRow where
  productId : String
  orderedQuantity : Int
  receivedQuantity : Int
  acceptedQuantity : Int
  rejectedQuantity : Int
  unitPrice : ℚ
  deriving DecidableEq

/-- A row of `good_receipt_notes` with its lines: the index on (grnId, productId) keeps the
products of one note apart. -/
structure GrnRow where
  id : String
  grnNumber : String
  purchaseOrderId : String
  vendorId : String
  status : GrnStatus
  currency : String
  lines : List GrnLineRow
  distinct : (lines.map (·.productId)).Nodup
  receivedAt : Option Nat
  reversalOfId : Option String
  createdBy : Option String
  receivedBy : Option String
  postedBy : Option String
  cancelledBy : Option String
  createdAt : Nat
  updatedAt : Nat
  version : Nat
  tenantId : Option String
  companyId : String
  deriving DecidableEq

/-- An integer column takes no other number. -/
def integer? (q : ℚ) : Option Int :=
  if q.den = 1 then some q.num else none

/-- A column of two decimals rounds half away from zero. -/
def decimal2 (q : ℚ) : ℚ :=
  if 0 ≤ q then ⌊q * 100 + 1 / 2⌋ / 100 else -(⌊-q * 100 + 1 / 2⌋ / 100)

theorem integer?_eq_some {q : ℚ} {n : Int} (h : integer? q = some n) : q = n := by
  unfold integer? at h
  split at h
  · rename_i hden
    rw [← Option.some.inj h]
    exact (Rat.den_eq_one_iff q).mp hden |>.symm
  · cases h

theorem integer?_intCast (n : Int) : integer? (n : ℚ) = some n := by
  simp [integer?]

/-- What every element keeps on the way through a loop that may stop, the list keeps. -/
theorem map_of_mapM {α β γ : Type} {f : α → Option β} {g : β → γ} {k : α → γ}
    (hf : ∀ a b, f a = some b → g b = k a) {as : List α} {bs : List β}
    (h : as.mapM f = some bs) : bs.map g = as.map k := by
  induction as generalizing bs with
  | nil =>
    rw [List.mapM_nil] at h
    cases h
    rfl
  | cons a as ih =>
    rw [List.mapM_cons] at h
    simp only [Option.bind_eq_bind, Option.bind_eq_some_iff, Option.pure_def,
      Option.some.injEq] at h
    obtain ⟨b, hb, rest, hrest, rfl⟩ := h
    rw [List.map_cons, List.map_cons, hf a b hb, ih hrest]

/-- The line a write and a read give back: tracking has no column. -/
def GrnLine.stored (line : GrnLine) : GrnLine :=
  { line with unitPrice := decimal2 line.unitPrice, tracking := [] }

namespace PrismaGrnMapper

def toLine (line : GrnLineRow) : GrnLine :=
  GrnLine.create line.productId line.orderedQuantity line.receivedQuantity line.unitPrice
    (some line.acceptedQuantity) (some line.rejectedQuantity) none

def toDomain (row : GrnRow) : GoodReceiptNote where
  id := row.id
  grnNumber := row.grnNumber
  purchaseOrderId := row.purchaseOrderId
  vendorId := row.vendorId
  status := row.status
  currency := row.currency
  lines := row.lines.map toLine
  receivedAt := row.receivedAt
  reversalOfId := row.reversalOfId
  createdBy := row.createdBy
  receivedBy := row.receivedBy
  postedBy := row.postedBy
  cancelledBy := row.cancelledBy
  createdAt := row.createdAt
  updatedAt := row.updatedAt
  version := row.version
  events := []

/-- One element of `toLinesCreateInput` as the columns take it. -/
def toLineRow (line : GrnLine) : Option GrnLineRow := do
  let orderedQuantity ← integer? line.orderedQuantity
  let receivedQuantity ← integer? line.receivedQuantity
  let acceptedQuantity ← integer? line.acceptedQuantity
  let rejectedQuantity ← integer? line.rejectedQuantity
  return { productId := line.productId
           orderedQuantity := orderedQuantity
           receivedQuantity := receivedQuantity
           acceptedQuantity := acceptedQuantity
           rejectedQuantity := rejectedQuantity
           unitPrice := decimal2 line.unitPrice }

/-- `toRow` and `toLinesCreateInput` together, where the columns and the index take them. -/
def toRow (grn : GoodReceiptNote) (tenantId : Option String) (companyId : String)
    (version : Nat) : Option GrnRow :=
  match grn.lines.mapM toLineRow with
  | none => none
  | some lines =>
    if distinct : (lines.map (·.productId)).Nodup then
      some
        { id := grn.id
          grnNumber := grn.grnNumber
          purchaseOrderId := grn.purchaseOrderId
          vendorId := grn.vendorId
          status := grn.status
          currency := grn.currency
          lines := lines
          distinct := distinct
          receivedAt := grn.receivedAt
          reversalOfId := grn.reversalOfId
          createdBy := grn.createdBy
          receivedBy := grn.receivedBy
          postedBy := grn.postedBy
          cancelledBy := grn.cancelledBy
          createdAt := grn.createdAt
          updatedAt := grn.updatedAt
          version := version
          tenantId := tenantId
          companyId := companyId }
    else none

theorem toLine_of_toLineRow {line : GrnLine} {row : GrnLineRow} (h : toLineRow line = some row) :
    toLine row = line.stored := by
  unfold toLineRow at h
  simp only [Option.bind_eq_bind, Option.bind_eq_some_iff, Option.pure_def, Option.some.injEq] at h
  obtain ⟨o, ho, r, hr, a, ha, j, hj, rfl⟩ := h
  unfold toLine GrnLine.create GrnLine.stored
  rw [integer?_eq_some ho, integer?_eq_some hr, integer?_eq_some ha, integer?_eq_some hj]
  rfl

/-- What a row holds of the note it was written from. -/
theorem toRow_eq_some {grn : GoodReceiptNote} {tenantId : Option String} {companyId : String}
    {version : Nat} {row : GrnRow} (h : toRow grn tenantId companyId version = some row) :
    toDomain row = { grn with lines := grn.lines.map GrnLine.stored, version := version,
                              events := [] } ∧
      row.tenantId = tenantId ∧ row.companyId = companyId := by
  unfold toRow at h
  split at h
  · cases h
  · rename_i lines hlines
    split at h
    · cases h
      refine ⟨?_, rfl, rfl⟩
      unfold toDomain
      rw [map_of_mapM (fun _ _ => toLine_of_toLineRow) hlines]
    · cases h

end PrismaGrnMapper

end DddBoilerplate.Procurement
