/- module: DddBoilerplate/Procurement/RecurringOrder
   generality: I
   digest: A purchase order generated in one transaction that catches its own failures: what it leaves. -/

import DddBoilerplate.Procurement.UseCases
import DddBoilerplate.Recurring.Templates

set_option autoImplicit false
set_option relaxedAutoImplicit false
set_option linter.all false

namespace DddBoilerplate.Procurement.RecurringOrder

open Domain Store
open Recurring (RecurringExecution ExecutionStatus)

section Records

/-- An element of the template's lines: `Number(value)` of a quantity or a price, where it is
finite. -/
structure RawLine where
  productId : Option String
  quantity : Option ℚ
  unitPrice : Option ℚ

/-- `RecurringOccurrenceRequestedPayload`, as the consumer reads it. -/
structure OccurrencePayload where
  executionId : String
  targetEntityType : String
  partyId : Option String
  currency : String
  autoPost : Bool
  tenantId : Option String
  lines : List RawLine

structure AddLineInput where
  productId : String
  quantity : ℚ
  unitPrice : ℚ

/-- The tables the generation writes. -/
structure GenerationDb where
  orders : Table PurchaseOrderRow.id
  executions : List RecurringExecution
  outbox : List Envelope

/-- A transaction under way: its view of the tables, what the other connections see, whether a
statement has failed in it, and how many statements it has run. -/
structure Session where
  db : GenerationDb
  committed : GenerationDb
  aborted : Bool
  statements : Nat

/-- What the generation meets: the other connection's answers, the identifiers drawn, the clock,
and which statements of the transaction fail in the database. -/
structure Surroundings where
  vendor : Except String Bool
  product : Nat → Except String (Option String)
  readBack : Except String Unit
  orderNumber : String
  orderId : String
  actorId : Option String
  now : Nat
  fails : Nat → Bool

end Records

section Statements

/-- What the database makes of a statement: it answers, the client refuses it, or it fails. -/
inductive Reply (α : Type) where
  | answers (a : α) (db : GenerationDb)
  | refuses (message : String)
  | breaks (message : String)

abbrev Step (α : Type) := Method String Session α

/-- A statement of the transaction: none runs once one of them has failed. -/
def statement {α : Type} (world : Surroundings) (run : GenerationDb → Reply α) : Step α := fun s =>
  if s.aborted then
    (.error "current transaction is aborted, commands ignored until end of transaction block", s)
  else
    let counted := { s with statements := s.statements + 1 }
    if world.fails s.statements then (.error "database error", { counted with aborted := true })
    else
      match run s.db with
      | .answers a db => (.ok a, { counted with db := db })
      | .refuses message => (.error message, counted)
      | .breaks message => (.error message, { counted with aborted := true })

def throws {α : Type} (outcome : Except Failure α) : Step α :=
  Method.enforce (outcome.mapError Failure.message)

def findExecution (db : GenerationDb) (id : String) : Option RecurringExecution :=
  db.executions.find? (·.id = id)

/-- `RecurringExecutionRepository.complete` and `.fail`. -/
def settleExecution (id : String) (settle : RecurringExecution → RecurringExecution)
    (db : GenerationDb) : Reply Unit :=
  .answers ()
    { db with
      executions := db.executions.map fun execution =>
        if execution.id = id ∧ execution.status = .inProgress then settle execution
        else execution }

def completed (documentId : String) (execution : RecurringExecution) : RecurringExecution :=
  { execution with status := .success, generatedDocumentId := some documentId }

def failed (message : String) (execution : RecurringExecution) : RecurringExecution :=
  { execution with status := .failed, errorMessage := some message }

/-- The order number is unique within the company, and so is an external reference. -/
def taken (db : GenerationDb) (row : PurchaseOrderRow) : Bool :=
  db.orders.rows.any fun other => other.companyId = row.companyId ∧
    (other.orderNumber = row.orderNumber ∨
      row.externalReference ≠ none ∧ other.externalReference = row.externalReference)

/-- `PurchaseOrderCommandRepository.save` -/
def saveOrder (ctx : RequestContext) (po : PurchaseOrder) (db : GenerationDb) : Reply Unit :=
  match PrismaPurchaseOrderMapper.toRow po ctx.tenantId ctx.company 1 with
  | .error failure => .refuses failure.message
  | .ok row =>
    if db.orders.get? row.id = none ∧ taken db row = false then
      .answers () { db with orders := db.orders.insert row }
    else .breaks prismaError.message

def findOrder (ctx : RequestContext) (id : String) (db : GenerationDb) :
    Reply (Option PurchaseOrderRow) :=
  .answers ((db.orders.get? id).filter fun row => ctx.owns row.tenantId) db

/-- `PurchaseOrderCommandRepository.update` -/
def updateOrder (ctx : RequestContext) (po : PurchaseOrder) (db : GenerationDb) : Reply Unit :=
  match db.orders.get? po.id with
  | none => .refuses Write.orderConflict.message
  | some stored =>
    if stored.version = po.version ∧ ctx.owns stored.tenantId = true then
      match PrismaPurchaseOrderMapper.toRow po stored.tenantId stored.companyId
          (stored.version + 1) with
      | .error failure => .refuses failure.message
      | .ok row => .answers () { db with orders := db.orders.put row }
    else .refuses Write.orderConflict.message

def appendEvent (ctx : RequestContext) (orderId : String) (event : PurchaseOrderEvent)
    (db : GenerationDb) : Reply Unit :=
  .answers ()
    { db with
      outbox := db.outbox ++
        [⟨db.outbox.length, ctx.tenantId, ctx.companyId, "PurchaseOrder", orderId,
          .order event⟩] }

end Statements

section UseCase

variable (wiring : Wiring) (world : Surroundings)

/-- `PurchaseOrderRecurringLineService.validateAndMap`, from the element of an index on. -/
def mapLine (index : Nat) (line : RawLine) : Except Failure AddLineInput := do
  let productId := line.productId.getD ""
  require (trim productId ≠ "")
    (Failure.mk 422 s!"Recurring PurchaseOrder lines[{index}].productId is required")
  let quantity ← match line.quantity with
    | some quantity => .ok quantity
    | none =>
      .error (Failure.mk 422 s!"Recurring PurchaseOrder lines[{index}].quantity must be a number")
  let unitPrice ← match line.unitPrice with
    | some unitPrice => .ok unitPrice
    | none =>
      .error (Failure.mk 422 s!"Recurring PurchaseOrder lines[{index}].unitPrice must be a number")
  return ⟨productId, quantity, unitPrice⟩

def mapLines : Nat → List RawLine → Except Failure (List AddLineInput)
  | _, [] => .ok []
  | index, line :: rest => do
    let input ← mapLine index line
    let inputs ← mapLines (index + 1) rest
    return input :: inputs

def validateAndMap (lines : List RawLine) : Except Failure (List AddLineInput) := do
  require (lines ≠ [])
    (Failure.mk 422 "Recurring PurchaseOrder template must have at least one line")
  mapLines 0 lines

/-- The context inside `requestContext.run({ tenantId })`: what `toData` copies, patched. -/
def generationContext (ctx : RequestContext) (command : OccurrencePayload) : RequestContext where
  tenantId := command.tenantId
  companyId := ctx.companyId
  userId := ctx.userId
  roles := ctx.roles
  defaultCurrency := none
  autoApproveThreshold := none
  overReceiptTolerance := none

def orderInput (command : OccurrencePayload) : CreatePurchaseOrderInput where
  orderNumber := world.orderNumber
  vendorId := command.partyId.getD ""
  currency := some command.currency
  externalReference := none
  orderDate := none
  expectedDeliveryDate := none
  createdBy := world.actorId

def sendEvents (ctx : RequestContext) (orderId : String) (events : List PurchaseOrderEvent) :
    Step Unit :=
  events.forM fun event => statement world (appendEvent ctx orderId event)

/-- What `CreatePurchaseOrderUseCase` checks before it draws a number. -/
def authorizeOrder (ctx : RequestContext) : Step Unit := do
  throws (authorize wiring ctx "PurchaseOrder" "create")
  let orderable ← Method.enforce world.vendor
  throws (require (orderable = true)
    (Failure.mk 409 "Vendor is not orderable (blocked or inactive)"))

/-- `CreatePurchaseOrderUseCase.execute`, inside the caller's transaction. -/
def createPurchaseOrder (ctx : RequestContext) (command : OccurrencePayload) : Step String := do
  authorizeOrder wiring world ctx
  statement world fun db => .answers () db
  let po ← throws (PurchaseOrderFactory.create (orderInput world command) world.orderId world.now)
  statement world (saveOrder ctx { po with events := [] })
  sendEvents world ctx po.id po.events
  return po.id

/-- `AddPurchaseOrderLineUseCase.execute`, inside the caller's transaction. -/
def addPurchaseOrderLine (ctx : RequestContext) (id : String) (index : Nat) (line : AddLineInput) :
    Step Unit := do
  throws (authorize wiring ctx "PurchaseOrder" "update")
  let product ← Method.enforce (world.product index)
  match product with
  | none => throws (.error ⟨409, "Product is not purchasable"⟩)
  | some name => do
    let found ← statement world (findOrder ctx id)
    match found with
    | none => throws (.error ⟨404, "Purchase order not found"⟩)
    | some row => do
      let price ← throws (Money.fromDecimal line.unitPrice (ctx.defaultCurrency.getD "USD"))
      let po := PrismaPurchaseOrderMapper.toDomain row
      let (outcome, added) :=
        PurchaseOrder.addLine line.productId line.quantity price (some name) world.now po
      throws outcome
      statement world (updateOrder ctx { added with events := [] })
      sendEvents world ctx id added.events

def addLines (ctx : RequestContext) (id : String) : Nat → List AddLineInput → Step Unit
  | _, [] => pure ()
  | index, line :: rest => do
    addPurchaseOrderLine wiring world ctx id index line
    addLines ctx id (index + 1) rest

/-- `GetPurchaseOrderUseCase.execute`: the query repository reads on the other connection. -/
def getPurchaseOrder (ctx : RequestContext) (id : String) : Step PurchaseOrderRow := do
  Method.enforce world.readBack
  let s ← Method.this
  match (s.committed.orders.get? id).filter fun row => ctx.owns row.tenantId with
  | none => throws (.error ⟨404, "Purchase order not found"⟩)
  | some row => pure row

/-- `PurchaseOrderTransitionUseCase.execute` with `submit`; the audit row is one statement. -/
def submitPurchaseOrder (ctx : RequestContext) (id : String) : Step Unit := do
  throws (authorize wiring ctx "PurchaseOrder" "submit")
  let found ← statement world (findOrder ctx id)
  match found with
  | none => throws (.error ⟨404, "Purchase order not found"⟩)
  | some row => do
    let (outcome, submitted) :=
      PurchaseOrder.submit world.now (PrismaPurchaseOrderMapper.toDomain row)
    throws outcome
    statement world (updateOrder ctx { submitted with events := [] })
    statement world fun db => .answers () db
    sendEvents world ctx id submitted.events

/-- `try { … } catch`: what was written before the exception stays written. -/
def caught (m : Step Unit) (recover : String → Step Unit) : Step Unit := fun s =>
  match m s with
  | (.ok (), s') => (.ok (), s')
  | (.error message, s') => recover message s'

/-- The body of the `try`. -/
def generate (ctx : RequestContext) (command : OccurrencePayload) : Step Unit := do
  let lines ← throws (validateAndMap command.lines)
  let id ← createPurchaseOrder wiring world ctx command
  addLines wiring world ctx id 0 lines
  let _ ← getPurchaseOrder world ctx id
  statement world (settleExecution command.executionId (completed id))
  if command.autoPost then
    caught (submitPurchaseOrder wiring world ctx id) fun _ => pure ()

/-- `GenerateRecurringPurchaseOrderUseCase.run` -/
def run (ctx : RequestContext) (command : OccurrencePayload) : Step Unit := do
  if command.targetEntityType ≠ "" ∧ command.targetEntityType ≠ "PurchaseOrder" then pure ()
  else do
    throws (require (command.executionId ≠ "")
      (Failure.mk 409 "RecurringOccurrenceRequested.executionId is required"))
    throws (require (command.partyId.getD "" ≠ "")
      (Failure.mk 409 "Recurring PurchaseOrder occurrence requires a vendor partyId"))
    let found ← statement world fun db => .answers (findExecution db command.executionId) db
    match found with
    | none => pure ()
    | some execution =>
      if execution.status ≠ .inProgress then pure ()
      else
        caught (generate wiring world ctx command) fun message =>
          statement world (settleExecution command.executionId (failed message))

/-- `@Transactional()`: committed where it returns, and nothing of it where it throws or a
statement of it has failed. -/
def transactional (m : Step Unit) (db : GenerationDb) : Except String Unit × GenerationDb :=
  match m ⟨db, db, false, 0⟩ with
  | (.ok (), s) => (.ok (), if s.aborted then db else s.db)
  | (.error message, _) => (.error message, db)

/-- `GenerateRecurringPurchaseOrderUseCase.execute` -/
def execute (ctx : RequestContext) (command : OccurrencePayload) (db : GenerationDb) :
    Except String Unit × GenerationDb :=
  transactional (run wiring world (generationContext ctx command) command) db

end UseCase

end DddBoilerplate.Procurement.RecurringOrder
