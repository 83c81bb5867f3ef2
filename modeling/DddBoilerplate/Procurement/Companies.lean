/- module: DddBoilerplate/Procurement/Companies
   generality: I
   digest: Every use case on purchase orders over the orders of all companies, and what it sees of another company's. -/

import Mathlib.Data.Fintype.EquivFin
import DddBoilerplate.Procurement.Documents
import DddBoilerplate.Procurement.OrderLines

set_option autoImplicit false
set_option relaxedAutoImplicit false
set_option linter.all false

namespace DddBoilerplate.Procurement

open Domain Store

abbrev Orders := Table PurchaseOrderRow.id

namespace PrismaPurchaseOrderCommandRepository

variable (ctx : RequestContext) (orders : Orders)

/-- `findById`, within `ownedScope`. -/
def findById (id : String) : Option PurchaseOrder :=
  ((orders.get? id).filter fun row => ctx.owns row.tenantId).map
    PrismaPurchaseOrderMapper.toDomain

def findByExternalReference (externalReference : String) : Option PurchaseOrder :=
  (orders.rows.find? fun row =>
    row.externalReference = some externalReference && ctx.owns row.tenantId).map
      PrismaPurchaseOrderMapper.toDomain

/-- The two unique indexes on the orders of a company: one on the number, one on the reference,
which rows without a reference are not in. -/
def clashes (row other : PurchaseOrderRow) : Bool :=
  other.companyId = row.companyId && (other.orderNumber = row.orderNumber ||
    row.externalReference.isSome && other.externalReference = row.externalReference)

def taken (row : PurchaseOrderRow) : Bool :=
  orders.rows.any fun other => other.id ≠ row.id && clashes row other

def save (po : PurchaseOrder) : Except Failure Orders := do
  let row ← PrismaPurchaseOrderMapper.toRow po ctx.tenantId ctx.company 1
  if orders.get? row.id = none ∧ taken orders row = false then .ok (orders.insert row)
  else .error prismaError

/-- A compare-and-set on (id, version) within `ownedScope`, then the row and its lines. -/
def update (po : PurchaseOrder) : Except Failure Orders :=
  match orders.get? po.id with
  | none => .error Write.orderConflict
  | some stored =>
    if stored.version = po.version ∧ ctx.owns stored.tenantId = true then do
      let row ← PrismaPurchaseOrderMapper.toRow po stored.tenantId stored.companyId
        (stored.version + 1)
      if taken orders row = false then .ok (orders.put row) else .error prismaError
    else .error Write.orderConflict

end PrismaPurchaseOrderCommandRepository

open PrismaPurchaseOrderCommandRepository

/-- What the use cases ask of other modules: the policies, the vendors that may be ordered from,
and the products that may be purchased, by their names. -/
structure Surroundings where
  wiring : Wiring
  getOrderableVendor : String → Bool
  getPurchasableProduct : String → Option String

/-- What a use case returns, with the events it publishes. -/
structure Reply where
  id : String
  receipt : Option PurchaseOrderReceiptResult
  events : List PurchaseOrderEvent

abbrev Outcome := Except Failure (Reply × Orders)

def callMethod {α : Type} (method : PurchaseOrder.OrderMethod α) (po : PurchaseOrder) :
    Except Failure (α × PurchaseOrder) :=
  match method po with
  | (.ok a, po') => .ok (a, po')
  | (.error failure, _) => .error failure

def orderNotFound : Failure := ⟨404, "Purchase order not found"⟩

/-- The company is required, with an error that no filter maps to a status. -/
def authorizeEntry (wiring : Wiring) (ctx : RequestContext) (action : String) :
    Except Failure Unit :=
  match ctx.companyId with
  | none | some "" => .error ⟨500, "Company not found in request context"⟩
  | some _ => authorize wiring ctx "PurchaseOrder" action

section UseCases

variable (around : Surroundings) (ctx : RequestContext) (now : Nat)

structure CreatePurchaseOrderRequest where
  vendorId : String
  currency : Option String
  externalReference : Option String
  orderDate : Option Nat
  expectedDeliveryDate : Option Nat
  actorId : Option String

/-- The identifier and the number drawn for an order. -/
structure Drawn where
  id : String
  orderNumber : String

/-- `CreatePurchaseOrderUseCase.execute` -/
def createPurchaseOrder (input : CreatePurchaseOrderRequest) (drawn : Drawn) (orders : Orders) :
    Outcome := do
  authorizeEntry around.wiring ctx "create"
  require (around.getOrderableVendor input.vendorId = true)
    ⟨409, "Vendor is not orderable (blocked or inactive)"⟩
  let po ← PurchaseOrderFactory.create
    { orderNumber := drawn.orderNumber
      vendorId := input.vendorId
      currency := some ((input.currency.or ctx.defaultCurrency).getD "USD")
      externalReference := input.externalReference
      orderDate := input.orderDate
      expectedDeliveryDate := input.expectedDeliveryDate
      createdBy := input.actorId.or ctx.userId } drawn.id now
  let saved ← save ctx orders po
  return (⟨po.id, none, po.events⟩, saved)

/-- The use cases that find an order by its id: what is checked before, and what is done with it,
the order being written back unless nothing changed. -/
def onOrder {α : Type} (gate : Except Failure α) (id : String)
    (act : α → PurchaseOrder → Except Failure (Reply × Option PurchaseOrder)) (orders : Orders) :
    Outcome := do
  let checked ← gate
  match findById ctx orders id with
  | none => .error orderNotFound
  | some po =>
    let (reply, changed) ← act checked po
    match changed with
    | none => .ok (reply, orders)
    | some po =>
      let written ← update ctx orders po
      .ok (reply, written)

/-- One method call on the order, written back. -/
def acting (method : PurchaseOrder.OrderMethod Unit) (po : PurchaseOrder) :
    Except Failure (Reply × Option PurchaseOrder) := do
  let (_, po) ← callMethod method po
  return (⟨po.id, none, po.events⟩, some po)

def referenceConflict : Failure :=
  ⟨409, "externalReference is already used by another purchase order"⟩

/-- The reference is a new one for the order, and some order is found that has it. -/
def referenceTaken (orders : Orders) (po : PurchaseOrder) (reference : Option String) : Bool :=
  match reference with
  | none => false
  | some reference =>
    po.externalReference ≠ some reference &&
      (findByExternalReference ctx orders reference).isSome

/-- `UpdatePurchaseOrderUseCase.execute` -/
def updatePurchaseOrder (id : String) (input : HeaderInput) (orders : Orders) : Outcome :=
  onOrder ctx (.ok ()) id (fun (_ : Unit) po => do
    require (referenceTaken ctx orders po input.externalReference = false) referenceConflict
    acting (PurchaseOrder.updateHeader input now) po) orders

structure LineRequest where
  id : String
  productId : String
  quantity : ℚ
  unitPrice : ℚ
  currency : Option String

/-- The policies, and the name of the product. -/
def purchasable (productId : String) : Except Failure String := do
  authorize around.wiring ctx "PurchaseOrder" "update"
  match around.getPurchasableProduct productId with
  | none => .error ⟨409, "Product is not purchasable"⟩
  | some name => .ok name

/-- `AddPurchaseOrderLineUseCase.execute` -/
def addPurchaseOrderLine (input : LineRequest) (orders : Orders) : Outcome :=
  onOrder ctx (purchasable around ctx input.productId) input.id (fun name po => do
    let price ← Money.fromDecimal input.unitPrice
      ((input.currency.or ctx.defaultCurrency).getD "USD")
    acting (PurchaseOrder.addLine input.productId input.quantity price (some name) now) po) orders

/-- `UpdatePurchaseOrderLineUseCase.execute`: nothing is written where nothing changed. -/
def updatePurchaseOrderLine (input : LineRequest) (orders : Orders) : Outcome :=
  onOrder ctx (purchasable around ctx input.productId) input.id (fun name po => do
    let price ← Money.fromDecimal input.unitPrice
      ((input.currency.or ctx.defaultCurrency).getD "USD")
    let (changed, po) ← callMethod
      (PurchaseOrder.setLine input.productId input.quantity price (some name) now) po
    if changed then return (⟨po.id, none, po.events⟩, some po)
    else return (⟨po.id, none, []⟩, none)) orders

/-- `RemovePurchaseOrderLineUseCase.execute` -/
def removePurchaseOrderLine (id productId : String) (orders : Orders) : Outcome :=
  onOrder ctx (authorize around.wiring ctx "PurchaseOrder" "update") id
    (fun _ => acting (PurchaseOrder.removeLine productId now)) orders

/-- `AmendPurchaseOrderUseCase.execute` -/
def amendPurchaseOrder (id : String) (request : AmendmentInput) (orders : Orders) : Outcome :=
  onOrder ctx (.ok ()) id (fun (_ : Unit) po => do
    let prices ← toLineUnitPrices po.currency (request.lineUnitPrices.getD [])
    let (_, po) ← callMethod (PurchaseOrder.amend
      { request with
        lineUnitPrices := request.lineUnitPrices.map fun _ => prices
        actorId := request.actorId.or ctx.userId } now) po
    return (⟨po.id, none, po.events⟩, some po)) orders

/-- `RegisterPurchaseOrderReceiptUseCase.execute`: no event is pulled. -/
def registerPurchaseOrderReceipt (request : PurchaseOrderReceiptRequest) (orders : Orders) :
    Outcome :=
  onOrder ctx (authorize around.wiring ctx "PurchaseOrder" "receive") request.purchaseOrderId
    (fun _ po => do
      let (_, po) ← callMethod (PurchaseOrderFactory.openPoForReceipt request.lines ctx.tolerance
        request.actorId now) po
      return (⟨po.id, some (receiptResult request.purchaseOrderId po), []⟩, some po)) orders

/-- The method behind a transition, and what is checked before it is called. -/
def transitionMethod (transition : PurchaseOrderTransition) (reason actorId : Option String)
    (po : PurchaseOrder) : Except Failure (PurchaseOrder.OrderMethod Unit) :=
  match transition with
  | .submit => .ok (PurchaseOrder.submit now)
  | .approve => do
    let total ← po.total
    purchaseOrderCanApprove po.status (total.minorUnits / 100) (ctx.autoApproveThreshold.getD 0)
    return PurchaseOrder.approve actorId now
  | .reject => .ok (PurchaseOrder.reject (reason.getD "Rejected") actorId now)
  | .cancel =>
    -- the query reads the lines of the order just found, within the same scope
    .ok (PurchaseOrder.cancel actorId (po.lines.any fun line => 0 < line.receivedQuantity) now)
  | .complete => .ok (PurchaseOrder.complete now)

/-- `PurchaseOrderTransitionUseCase.execute` -/
def purchaseOrderTransition (id : String) (transition : PurchaseOrderTransition)
    (reason actorId : Option String) (orders : Orders) : Outcome :=
  onOrder ctx (authorize around.wiring ctx "PurchaseOrder" transition.name) id (fun _ po => do
    let method ← transitionMethod ctx now transition reason (actorId.or ctx.userId) po
    acting method po) orders

/-- `IssuePurchaseOrderUseCase.execute` -/
def issueOrder (id : String) (actorId : Option String) (orders : Orders) : Outcome :=
  onOrder ctx (.ok ()) id
    (fun (_ : Unit) => acting (PurchaseOrder.issue (actorId.or ctx.userId) now)) orders

/-- `ClosePurchaseOrderUseCase.execute` -/
def closeOrder (id : String) (orders : Orders) : Outcome :=
  onOrder ctx (.ok ()) id (fun (_ : Unit) => acting (PurchaseOrder.close now)) orders

structure ImportLine where
  productId : String
  quantity : ℚ
  unitPrice : ℚ

structure ImportPurchaseOrderRequest where
  externalReference : String
  vendorId : String
  currency : Option String
  lines : List ImportLine

/-- What is refused of an order that has the reference already. -/
def importCheck (input : ImportPurchaseOrderRequest) (existing : PurchaseOrder) :
    Except Failure Unit := do
  require (existing.vendorId = input.vendorId)
    ⟨409, s!"Purchase order '{input.externalReference}' already exists for a different vendor"⟩
  match input.currency with
  | none => .ok ()
  | some currency =>
    require (currency = "" ∨ existing.currency = currency)
      ⟨409, s!"Purchase order '{input.externalReference}' already exists in " ++
        s!"{existing.currency}, not {currency}"⟩

/-- The loop over the lines: the order, and whether any of them changed it. -/
def setLines : List ImportLine → PurchaseOrder → Except Failure (Bool × PurchaseOrder)
  | [], po => .ok (false, po)
  | line :: lines, po => do
    let price ← Money.fromDecimal line.unitPrice po.currency
    let (lineChanged, po) ← callMethod
      (PurchaseOrder.setLine line.productId line.quantity price none now) po
    let (changed, po) ← setLines lines po
    return (lineChanged || changed, po)

/-- The order found, or a new one saved; the events of a new one are sent by then. -/
def findOrCreate (input : ImportPurchaseOrderRequest) (drawn : Drawn) (orders : Orders) :
    Except Failure (PurchaseOrder × List PurchaseOrderEvent × Orders) :=
  match findByExternalReference ctx orders input.externalReference with
  | some existing => do
    importCheck input existing
    return (existing, [], orders)
  | none => do
    require (around.getOrderableVendor input.vendorId = true)
      ⟨409, "Vendor is not orderable (blocked or inactive)"⟩
    let po ← PurchaseOrderFactory.create
      { orderNumber := drawn.orderNumber
        vendorId := input.vendorId
        currency := some ((input.currency.or ctx.defaultCurrency).getD "USD")
        externalReference := some input.externalReference
        orderDate := none
        expectedDeliveryDate := none
        createdBy := ctx.userId } drawn.id now
    let saved ← save ctx orders po
    return ({ po with events := [] }, po.events, saved)

/-- `ImportPurchaseOrderUseCase.execute` -/
def importPurchaseOrder (input : ImportPurchaseOrderRequest) (drawn : Drawn) (orders : Orders) :
    Outcome := do
  authorizeEntry around.wiring ctx "import"
  let (po, sent, orders) ← findOrCreate around ctx now input drawn orders
  let (changed, po) ← setLines now input.lines po
  if changed then
    let written ← update ctx orders po
    return (⟨po.id, none, sent ++ po.events⟩, written)
  else return (⟨po.id, none, sent ++ po.events⟩, orders)

inductive OrderUseCase where
  | create (input : CreatePurchaseOrderRequest) (drawn : Drawn)
  | update (id : String) (input : HeaderInput)
  | addLine (input : LineRequest)
  | updateLine (input : LineRequest)
  | removeLine (id productId : String)
  | amend (id : String) (request : AmendmentInput)
  | receive (request : PurchaseOrderReceiptRequest)
  | transition (id : String) (verb : PurchaseOrderTransition) (reason actorId : Option String)
  | issue (id : String) (actorId : Option String)
  | close (id : String)
  | import_ (input : ImportPurchaseOrderRequest) (drawn : Drawn)

def OrderUseCase.run : OrderUseCase → Orders → Outcome
  | .create input drawn => createPurchaseOrder around ctx now input drawn
  | .update id input => updatePurchaseOrder ctx now id input
  | .addLine input => addPurchaseOrderLine around ctx now input
  | .updateLine input => updatePurchaseOrderLine around ctx now input
  | .removeLine id productId => removePurchaseOrderLine around ctx now id productId
  | .amend id request => amendPurchaseOrder ctx now id request
  | .receive request => registerPurchaseOrderReceipt around ctx now request
  | .transition id verb reason actorId =>
    purchaseOrderTransition around ctx now id verb reason actorId
  | .issue id actorId => issueOrder ctx now id actorId
  | .close id => closeOrder ctx now id
  | .import_ input drawn => importPurchaseOrder around ctx now input drawn

end UseCases

section Isolation

/-- The two stores hold the same orders of the company. -/
def AgreeOn (company : String) (orders orders' : Orders) : Prop :=
  orders.rows.filter (·.companyId = company) = orders'.rows.filter (·.companyId = company)

/-- The two stores hold the same orders of every other company. -/
def SameOthers (company : String) (orders orders' : Orders) : Prop :=
  orders.rows.filter (·.companyId ≠ company) = orders'.rows.filter (·.companyId ≠ company)

instance (company : String) (orders orders' : Orders) :
    Decidable (SameOthers company orders orders') :=
  inferInstanceAs (Decidable (_ = _))

/-- The unique indexes hold. -/
def UniqueKeys (orders : Orders) : Prop :=
  orders.rows.Pairwise fun row other => clashes row other = false

/-- Two runs that answer alike and leave the same orders of the company, each of them every order
of another company as it was. -/
inductive Alike {α : Type} (company : String) (before before' : Orders) :
    Except Failure (α × Orders) → Except Failure (α × Orders) → Prop where
  | refused (failure : Failure) : Alike company before before' (.error failure) (.error failure)
  | done {answer : α} {orders orders' : Orders} : AgreeOn company orders orders' →
    SameOthers company before orders → SameOthers company before' orders' →
    Alike company before before' (.ok (answer, orders)) (.ok (answer, orders'))

/-- The identifier drawn for a new order. -/
def OrderUseCase.drawnId : OrderUseCase → Option String
  | .create _ drawn => some drawn.id
  | .import_ _ drawn => some drawn.id
  | _ => none

/-- A store as the database keeps it, in which the identifier drawn is new. -/
structure Admits (useCase : OrderUseCase) (orders : Orders) : Prop where
  unique : UniqueKeys orders
  fresh : ∀ id ∈ useCase.drawnId, orders.get? id = none

/-- The use case does not depend on the orders of other companies, and leaves them alone. -/
def Isolated (around : Surroundings) (ctx : RequestContext) (now : Nat) (useCase : OrderUseCase)
    (orders : Orders) : Prop :=
  ∀ orders', Admits useCase orders' → AgreeOn ctx.company orders orders' →
    Alike ctx.company orders orders' (useCase.run around ctx now orders)
      (useCase.run around ctx now orders')

end Isolation

section Agreement

variable {company id : String} {orders orders' : Orders} {row stored : PurchaseOrderRow}

theorem SameOthers.trans {first second third : Orders} (h : SameOthers company first second)
    (h' : SameOthers company second third) : SameOthers company first third :=
  Eq.trans h h'

theorem AgreeOn.get?_own (h : AgreeOn company orders orders') (hget : orders.get? id = some row)
    (hown : row.companyId = company) : orders'.get? id = some row := by
  have hmem : row ∈ orders.rows.filter (·.companyId = company) :=
    List.mem_filter.mpr ⟨Table.mem_of_get? hget, decide_eq_true hown⟩
  rw [h] at hmem
  rw [← Table.key_of_get? hget]
  exact Table.get?_of_mem (List.mem_filter.mp hmem).1

/-- Only orders of the same company stand in the way of a row. -/
theorem AgreeOn.taken_own (h : AgreeOn company orders orders') (hown : row.companyId = company) :
    taken orders row = taken orders' row := by
  have hfilter : ∀ orders : Orders, taken orders row =
      (orders.rows.filter (·.companyId = company)).any fun other =>
        other.id ≠ row.id && clashes row other := by
    intro orders
    rw [List.any_filter]
    refine List.any_congr rfl fun other => ?_
    by_cases hother : other.companyId = company
    · simp [hother]
    · have hnot : clashes row other = false := by
        simp [clashes, hown, hother]
      simp [hother, hnot]
  rw [hfilter orders, hfilter orders', h]

theorem rows_put_filter {p : PurchaseOrderRow → Bool} (hget : orders.get? row.id = some stored)
    (hp : p row = p stored) : (orders.put row).rows.filter p =
      (orders.rows.filter p).map fun r => if r.id = row.id then row else r := by
  have hrows : (orders.put row).rows =
      orders.rows.map fun r => if r.id = row.id then row else r := rfl
  rw [hrows, List.filter_map]
  congr 1
  refine List.filter_congr fun r hr => ?_
  show p (if r.id = row.id then row else r) = p r
  by_cases hid : r.id = row.id
  · have hsame : stored = r := by
      have hr' := Table.get?_of_mem hr
      rw [hid, hget] at hr'
      exact Option.some.inj hr'
    rw [if_pos hid, hp, hsame]
  · rw [if_neg hid]

theorem AgreeOn.put (h : AgreeOn company orders orders') (hget : orders.get? row.id = some stored)
    (hstored : stored.companyId = company) (hrow : row.companyId = company) :
    AgreeOn company (orders.put row) (orders'.put row) := by
  have hp : decide (row.companyId = company) = decide (stored.companyId = company) := by
    simp [hstored, hrow]
  unfold AgreeOn
  rw [rows_put_filter hget hp, rows_put_filter (h.get?_own hget hstored) hp, h]

theorem sameOthers_put (hget : orders.get? row.id = some stored)
    (hstored : stored.companyId = company) (hrow : row.companyId = company) :
    SameOthers company orders (orders.put row) := by
  have hp : decide (row.companyId ≠ company) = decide (stored.companyId ≠ company) := by
    simp [hstored, hrow]
  unfold SameOthers
  rw [rows_put_filter hget hp]
  refine ((List.map_congr_left fun r hr => ?_).trans (List.map_id _)).symm
  obtain ⟨hmem, hother⟩ := List.mem_filter.mp hr
  rw [if_neg, id]
  intro hid
  have hr' := Table.get?_of_mem hmem
  rw [hid, hget] at hr'
  cases hr'
  exact of_decide_eq_true hother hstored

theorem AgreeOn.insert (h : AgreeOn company orders orders') (hfree : orders.get? row.id = none)
    (hfree' : orders'.get? row.id = none) :
    AgreeOn company (orders.insert row) (orders'.insert row) := by
  unfold AgreeOn
  rw [Table.rows_insert hfree, Table.rows_insert hfree', List.filter_append, List.filter_append, h]

theorem sameOthers_insert (hfree : orders.get? row.id = none) (hrow : row.companyId = company) :
    SameOthers company orders (orders.insert row) := by
  unfold SameOthers
  rw [Table.rows_insert hfree, List.filter_append]
  simp [hrow]

theorem toRow_identity {po : PurchaseOrder} {tenantId : Option String} {companyId : String}
    {version : Nat} (h : PrismaPurchaseOrderMapper.toRow po tenantId companyId version = .ok row) :
    row.id = po.id ∧ row.companyId = companyId := by
  unfold PrismaPurchaseOrderMapper.toRow at h
  cases hsubtotal : po.subtotal with
  | error e =>
    rw [hsubtotal] at h
    cases h
  | ok total =>
    have htotal : po.total = .ok total := hsubtotal
    rw [hsubtotal, htotal] at h
    dsimp only [bind, Except.bind] at h
    split at h
    · cases h
    · split at h
      · cases h
        exact ⟨rfl, rfl⟩
      · cases h

variable {ctx : RequestContext} {po : PurchaseOrder}

/-- Two writes that end alike: refused both, or one row of the company written in both stores. -/
def WritesAlike (company : String) (orders orders' : Orders)
    (written written' : Except Failure Orders) : Prop :=
  (∃ failure, written = .error failure ∧ written' = .error failure) ∨
    ∃ after after', written = .ok after ∧ written' = .ok after' ∧ AgreeOn company after after' ∧
      SameOthers company orders after ∧ SameOthers company orders' after'

/-- An order of the company is written alike whatever other companies have. -/
theorem AgreeOn.writes (h : AgreeOn company orders orders') (hget : orders.get? po.id = some stored)
    (hown : stored.companyId = company) :
    WritesAlike company orders orders' (update ctx orders po) (update ctx orders' po) := by
  have hget' := h.get?_own hget hown
  unfold PrismaPurchaseOrderCommandRepository.update
  rw [hget, hget']
  dsimp only
  split
  · cases hrow : PrismaPurchaseOrderMapper.toRow po stored.tenantId stored.companyId
      (stored.version + 1) with
    | error failure => exact .inl ⟨failure, rfl, rfl⟩
    | ok row =>
      obtain ⟨hid, hcompany⟩ := toRow_identity hrow
      have hrowOwn : row.companyId = company := hcompany.trans hown
      show WritesAlike company orders orders'
        (if taken orders row = false then _ else _) (if taken orders' row = false then _ else _)
      rw [← h.taken_own hrowOwn]
      split
      · rw [← hid] at hget hget'
        exact .inr ⟨_, _, rfl, rfl, h.put hget hown hrowOwn, sameOthers_put hget hown hrowOwn,
          sameOthers_put hget' hown hrowOwn⟩
      · exact .inl ⟨prismaError, rfl, rfl⟩
  · exact .inl ⟨Write.orderConflict, rfl, rfl⟩

theorem AgreeOn.saves (h : AgreeOn ctx.company orders orders') (hfree : orders.get? po.id = none)
    (hfree' : orders'.get? po.id = none) :
    WritesAlike ctx.company orders orders' (save ctx orders po) (save ctx orders' po) := by
  unfold PrismaPurchaseOrderCommandRepository.save
  cases hrow : PrismaPurchaseOrderMapper.toRow po ctx.tenantId ctx.company 1 with
  | error failure => exact .inl ⟨failure, rfl, rfl⟩
  | ok row =>
    obtain ⟨hid, hcompany⟩ := toRow_identity hrow
    rw [← hid] at hfree hfree'
    show WritesAlike ctx.company orders orders'
      (if orders.get? row.id = none ∧ taken orders row = false then _ else _)
      (if orders'.get? row.id = none ∧ taken orders' row = false then _ else _)
    rw [← h.taken_own hcompany, hfree, hfree']
    split
    · exact .inr ⟨_, _, rfl, rfl, h.insert hfree hfree', sameOthers_insert hfree hcompany,
        sameOthers_insert hfree' hcompany⟩
    · exact .inl ⟨prismaError, rfl, rfl⟩

end Agreement

section Acts

/-- What is written back is the order that was found. -/
def KeepsId (act : PurchaseOrder → Except Failure (Reply × Option PurchaseOrder)) : Prop :=
  ∀ po reply po', act po = .ok (reply, some po') → po'.id = po.id

theorem except_bind_ok {ε α β : Type} {r : Except ε α} {f : α → Except ε β} {b : β}
    (h : (r >>= f) = .ok b) : ∃ a, r = .ok a ∧ f a = .ok b := by
  cases r with
  | error e => cases h
  | ok a => exact ⟨a, rfl, h⟩

variable {α : Type} {now : Nat} {po po' : PurchaseOrder} {a : α}

theorem callMethod_eq_ok {method : PurchaseOrder.OrderMethod α} :
    callMethod method po = .ok (a, po') ↔ method po = (.ok a, po') := by
  unfold callMethod
  cases hrun : method po with
  | mk answer left =>
    cases answer with
    | error failure => exact ⟨fun h => (nomatch h), fun h => (nomatch h)⟩
    | ok b =>
      constructor
      · intro h
        cases h
        rfl
      · intro h
        cases h
        rfl

theorem callMethod_id {method : PurchaseOrder.OrderMethod α}
    (hfixes : Method.Fixes PurchaseOrder.id method) (h : callMethod method po = .ok (a, po')) :
    po'.id = po.id :=
  hfixes.of_returned (callMethod_eq_ok.mp h)

theorem acting_keepsId {method : PurchaseOrder.OrderMethod Unit}
    (hfixes : Method.Fixes PurchaseOrder.id method) : KeepsId (acting method) := by
  intro po reply po' h
  obtain ⟨⟨_, left⟩, hcall, heq⟩ := except_bind_ok h
  cases heq
  exact callMethod_id hfixes hcall

theorem IsOrderCommand.fixes_id {method : PurchaseOrder.OrderMethod Unit}
    (h : IsOrderCommand method) : Method.Fixes PurchaseOrder.id method := fun po =>
  congrArg (fun part : (String × Nat) × List PurchaseOrderLine => part.1.1) (h.fixes po)

theorem assertEditable_fixes : Method.Fixes PurchaseOrder.id PurchaseOrder.assertEditable :=
  .bind .this fun _ => .enforce _

theorem updateHeader_fixes (input : HeaderInput) :
    Method.Fixes PurchaseOrder.id (PurchaseOrder.updateHeader input now) :=
  assertEditable_fixes.bind fun _ => .assign fun _ => rfl

theorem addLine_fixes (productId : String) (quantity : ℚ) (price : Money)
    (description : Option String) :
    Method.Fixes PurchaseOrder.id
      (PurchaseOrder.addLine productId quantity price description now) :=
  assertEditable_fixes.bind fun _ => .bind (.enforce _) fun _ =>
    .bind (.assign fun _ => rfl) fun _ => .assign fun _ => rfl

theorem setLine_fixes (productId : String) (quantity : ℚ) (price : Money)
    (description : Option String) :
    Method.Fixes PurchaseOrder.id
      (PurchaseOrder.setLine productId quantity price description now) := by
  refine assertEditable_fixes.bind fun _ => .bind (.enforce _) fun _ => .bind .this fun po => ?_
  dsimp only
  split
  · exact .pure _
  · exact .bind (.assign fun _ => rfl) fun _ => .bind (.assign fun _ => rfl) fun _ => .pure _

theorem removeLine_fixes (productId : String) :
    Method.Fixes PurchaseOrder.id (PurchaseOrder.removeLine productId now) :=
  assertEditable_fixes.bind fun _ => .bind (.assign fun _ => rfl) fun _ => .assign fun _ => rfl

theorem amendPrices_fixes (prices : List (String × ℚ)) :
    Method.Fixes PurchaseOrder.id (PurchaseOrder.amendPrices prices) := by
  induction prices with
  | nil => exact .pure _
  | cons price prices ih =>
    refine .bind (.bind .this fun po => ?_) fun _ => ih.bind fun _ => .pure _
    cases po.find? price.1 with
    | none => exact .enforce _
    | some line =>
      exact .bind (.enforce _) fun _ => .bind (.enforce _) fun _ =>
        .bind (.assign fun _ => rfl) fun _ => .pure _

theorem amend_fixes (changes : AmendmentInput) :
    Method.Fixes PurchaseOrder.id (PurchaseOrder.amend changes now) := by
  have hdate : Method.Fixes PurchaseOrder.id
      (PurchaseOrder.amendDate changes.expectedDeliveryDate) := by
    cases changes.expectedDeliveryDate with
    | none => exact .pure _
    | some date => exact .assign fun _ => rfl
  have hlines : Method.Fixes PurchaseOrder.id
      (PurchaseOrder.amendLines changes.lineUnitPrices) := by
    unfold PurchaseOrder.amendLines
    split
    · exact (amendPrices_fixes _).bind fun _ => .pure _
    · exact .pure _
  exact .bind .this fun _ => .bind (.enforce _) fun _ => .bind (.enforce _) fun _ =>
    hdate.bind fun _ => hlines.bind fun _ => .bind (.enforce _) fun _ =>
      .bind (.assign fun _ => rfl) fun _ => .bind (.assign fun _ => rfl) fun _ => .pure _

end Acts

section OnOrder

variable {α : Type} {ctx : RequestContext} {id : String} {orders orders' : Orders}
  {row : PurchaseOrderRow} {gate : Except Failure α}
  {act act' : α → PurchaseOrder → Except Failure (Reply × Option PurchaseOrder)}

theorem findById_of_get? (hget : orders.get? id = some row) :
    findById ctx orders id =
      if ctx.owns row.tenantId = true then some (PrismaPurchaseOrderMapper.toDomain row)
      else none := by
  unfold findById
  rw [hget]
  by_cases howns : ctx.owns row.tenantId = true
  · simp [Option.filter, howns]
  · simp [Option.filter, howns]

/-- A use case on an order of the company is the same whatever other companies have. -/
theorem AgreeOn.finds (h : AgreeOn ctx.company orders orders')
    (hget : orders.get? id = some row) (hown : row.companyId = ctx.company)
    (hkeeps : ∀ checked, KeepsId (act checked))
    (hsame : ∀ checked, act checked (PrismaPurchaseOrderMapper.toDomain row) =
      act' checked (PrismaPurchaseOrderMapper.toDomain row)) :
    Alike ctx.company orders orders' (onOrder ctx gate id act orders)
      (onOrder ctx gate id act' orders') := by
  have hget' := h.get?_own hget hown
  unfold Procurement.onOrder
  cases gate with
  | error failure => exact .refused failure
  | ok checked =>
    show Alike _ _ _ (match findById ctx orders id with | none => _ | some po => _)
      (match findById ctx orders' id with | none => _ | some po => _)
    rw [findById_of_get? hget, findById_of_get? hget']
    split
    · rename_i heq
      split at heq
      · cases heq
      · exact .refused orderNotFound
    · rename_i po heq
      split at heq
      · cases heq
        rw [← hsame checked]
        cases hact : act checked (PrismaPurchaseOrderMapper.toDomain row) with
        | error failure => exact .refused failure
        | ok result =>
          obtain ⟨reply, changed⟩ := result
          cases changed with
          | none => exact .done h rfl rfl
          | some po =>
            have hid : po.id = id := (hkeeps checked _ _ _ hact).trans
              (show row.id = id from Table.key_of_get? hget)
            rw [← hid] at hget
            show Alike _ _ _ (update ctx orders po >>= _) (update ctx orders' po >>= _)
            rcases h.writes hget hown with ⟨failure, hw, hw'⟩ | ⟨after, after', hw, hw', hafter⟩
            · rw [hw, hw']
              exact .refused failure
            · rw [hw, hw']
              exact .done hafter.1 hafter.2.1 hafter.2.2
      · cases heq

end OnOrder

section Condition

variable (around : Surroundings) (ctx : RequestContext)

/-- The id is that of an order of the request's company. -/
def Owns (orders : Orders) (id : String) : Prop :=
  ∃ row, orders.get? id = some row ∧ row.companyId = ctx.company

/-- The header brings no reference that is new for the order, or one that an order of the company
within the scope has already. -/
def ReferenceSettled (orders : Orders) (row : PurchaseOrderRow) (reference : Option String) : Prop :=
  ctx.owns row.tenantId = true → ∀ new ∈ reference, row.externalReference ≠ some new →
    ∃ other ∈ orders.rows, other.companyId = ctx.company ∧ ctx.owns other.tenantId = true ∧
      other.externalReference = some new

/-- The use case creates an order, is refused before it looks one up, or is on an order of the
request's company. -/
def OrderUseCase.Confined (orders : Orders) : OrderUseCase → Prop
  | .create _ _ => True
  | .update id input => ∃ row, orders.get? id = some row ∧ row.companyId = ctx.company ∧
      ReferenceSettled ctx orders row input.externalReference
  | .addLine input | .updateLine input =>
    (∃ failure, purchasable around ctx input.productId = .error failure) ∨ Owns ctx orders input.id
  | .removeLine id _ =>
    (∃ failure, authorize around.wiring ctx "PurchaseOrder" "update" = .error failure) ∨
      Owns ctx orders id
  | .receive request =>
    (∃ failure, authorize around.wiring ctx "PurchaseOrder" "receive" = .error failure) ∨
      Owns ctx orders request.purchaseOrderId
  | .transition id verb _ _ =>
    (∃ failure, authorize around.wiring ctx "PurchaseOrder" verb.name = .error failure) ∨
      Owns ctx orders id
  | .amend id _ | .issue id _ | .close id => Owns ctx orders id
  | .import_ _ _ => ∃ failure, authorizeEntry around.wiring ctx "import" = .error failure

end Condition

section Confined

variable {α : Type} {around : Surroundings} {ctx : RequestContext} {now : Nat} {id : String}
  {orders orders' : Orders} {gate : Except Failure α}
  {act : α → PurchaseOrder → Except Failure (Reply × Option PurchaseOrder)}

/-- Refused ahead of the lookup, or on an order of the company. -/
theorem AgreeOn.refused_or_finds (h : AgreeOn ctx.company orders orders')
    (hcases : (∃ failure, gate = .error failure) ∨ Owns ctx orders id)
    (hkeeps : ∀ checked, KeepsId (act checked)) :
    Alike ctx.company orders orders' (onOrder ctx gate id act orders)
      (onOrder ctx gate id act orders') := by
  rcases hcases with ⟨failure, rfl⟩ | ⟨row, hget, hown⟩
  · exact .refused failure
  · exact h.finds hget hown hkeeps fun _ => rfl

theorem purchaseOrderFactory_id {input : CreatePurchaseOrderInput} {po : PurchaseOrder}
    (h : PurchaseOrderFactory.create input id now = .ok po) : po.id = id := by
  obtain ⟨_, _, h⟩ := except_bind_ok h
  obtain ⟨_, _, h⟩ := except_bind_ok h
  cases h
  rfl

theorem AgreeOn.creates (h : AgreeOn ctx.company orders orders') {drawn : Drawn}
    (hfree : orders.get? drawn.id = none) (hfree' : orders'.get? drawn.id = none)
    (input : CreatePurchaseOrderRequest) :
    Alike ctx.company orders orders' (createPurchaseOrder around ctx now input drawn orders)
      (createPurchaseOrder around ctx now input drawn orders') := by
  unfold createPurchaseOrder
  cases authorizeEntry around.wiring ctx "create" with
  | error failure => exact .refused failure
  | ok _ =>
    cases require (around.getOrderableVendor input.vendorId = true)
        (Failure.mk 409 "Vendor is not orderable (blocked or inactive)") with
    | error failure => exact .refused failure
    | ok _ =>
      generalize hinput : (CreatePurchaseOrderInput.mk drawn.orderNumber _ _ _ _ _ _) = fields
      dsimp only [bind, Except.bind]
      cases hpo : PurchaseOrderFactory.create fields drawn.id now with
      | error failure => exact .refused failure
      | ok po =>
        rw [← purchaseOrderFactory_id hpo] at hfree hfree'
        dsimp only
        rcases h.saves hfree hfree' with ⟨failure, hw, hw'⟩ | ⟨after, after', hw, hw', hafter⟩
        · rw [hw, hw']
          exact .refused failure
        · rw [hw, hw']
          exact .done hafter.1 hafter.2.1 hafter.2.2

/-- Whether a reference is taken does not depend on other companies where it is settled. -/
theorem AgreeOn.reference_taken (h : AgreeOn ctx.company orders orders') {row : PurchaseOrderRow}
    (howns : ctx.owns row.tenantId = true) {reference : Option String}
    (hsettled : ReferenceSettled ctx orders row reference) :
    referenceTaken ctx orders (PrismaPurchaseOrderMapper.toDomain row) reference =
      referenceTaken ctx orders' (PrismaPurchaseOrderMapper.toDomain row) reference := by
  have hfound : ∀ (orders : Orders) (new : String), (∃ other ∈ orders.rows,
      ctx.owns other.tenantId = true ∧ other.externalReference = some new) →
      (findByExternalReference ctx orders new).isSome = true := by
    rintro orders new ⟨other, hmem, hvisible, href⟩
    unfold findByExternalReference
    rw [Option.isSome_map, List.find?_isSome]
    exact ⟨other, hmem, by simp [hvisible, href]⟩
  cases reference with
  | none => rfl
  | some new =>
    unfold Procurement.referenceTaken
    by_cases hnew : row.externalReference = some new
    · have hsame : (PrismaPurchaseOrderMapper.toDomain row).externalReference = some new := hnew
      simp [hsame]
    · obtain ⟨other, hmem, hown, hvisible, href⟩ := hsettled howns new rfl hnew
      have hget' : other ∈ orders'.rows :=
        Table.mem_of_get? (h.get?_own (Table.get?_of_mem hmem) hown)
      dsimp only
      rw [hfound orders new ⟨other, hmem, hvisible, href⟩,
        hfound orders' new ⟨other, hget', hvisible, href⟩]

theorem AgreeOn.updateOrder (h : AgreeOn ctx.company orders orders') {row : PurchaseOrderRow}
    (hget : orders.get? id = some row) (hown : row.companyId = ctx.company) {input : HeaderInput}
    (hsettled : ReferenceSettled ctx orders row input.externalReference) :
    Alike ctx.company orders orders' (updatePurchaseOrder ctx now id input orders)
      (updatePurchaseOrder ctx now id input orders') := by
  unfold updatePurchaseOrder
  by_cases howns : ctx.owns row.tenantId = true
  · refine h.finds hget hown (fun _ po reply po' hact => ?_) fun _ => ?_
    · obtain ⟨_, _, hact⟩ := except_bind_ok hact
      exact acting_keepsId (updateHeader_fixes input) po reply po' hact
    · simp only [h.reference_taken howns hsettled]
  · unfold Procurement.onOrder
    show Alike _ _ _ (match findById ctx orders id with | none => _ | some po => _)
      (match findById ctx orders' id with | none => _ | some po => _)
    rw [findById_of_get? hget, findById_of_get? (h.get?_own hget hown), if_neg howns]
    exact .refused orderNotFound

theorem transitionMethod_isOrderCommand {verb : PurchaseOrderTransition}
    {reason actorId : Option String} {po : PurchaseOrder} {method : PurchaseOrder.OrderMethod Unit}
    (h : transitionMethod ctx now verb reason actorId po = .ok method) : IsOrderCommand method := by
  cases verb with
  | submit =>
    cases h
    exact .submit now
  | approve =>
    obtain ⟨_, _, h⟩ := except_bind_ok h
    obtain ⟨_, _, h⟩ := except_bind_ok h
    cases h
    exact .approve actorId now
  | reject =>
    cases h
    exact .reject _ actorId now
  | cancel =>
    cases h
    exact .cancel actorId _ now
  | complete =>
    cases h
    exact .close now

/-- A confined use case does not depend on other companies, and leaves them alone. -/
theorem isolated_of_confined {useCase : OrderUseCase} (hadmits : Admits useCase orders)
    (h : useCase.Confined around ctx orders) : Isolated around ctx now useCase orders := by
  intro orders' hadmits' hagree
  cases useCase with
  | create input drawn =>
    exact hagree.creates (hadmits.fresh _ rfl) (hadmits'.fresh _ rfl) input
  | update id input =>
    obtain ⟨row, hget, hown, hsettled⟩ := h
    exact hagree.updateOrder hget hown hsettled
  | addLine input =>
    refine hagree.refused_or_finds h fun name po reply po' hact => ?_
    obtain ⟨price, _, hact⟩ := except_bind_ok hact
    exact acting_keepsId (addLine_fixes _ _ price _) po reply po' hact
  | updateLine input =>
    refine hagree.refused_or_finds h fun name po reply po' hact => ?_
    obtain ⟨price, _, hact⟩ := except_bind_ok hact
    obtain ⟨⟨changed, left⟩, hcall, hact⟩ := except_bind_ok hact
    cases changed with
    | false => cases hact
    | true =>
      cases hact
      exact callMethod_id (setLine_fixes _ _ price _) hcall
  | removeLine id productId =>
    exact hagree.refused_or_finds h fun _ => acting_keepsId (removeLine_fixes productId)
  | amend id request =>
    refine hagree.refused_or_finds (.inr h) fun _ po reply po' hact => ?_
    obtain ⟨prices, _, hact⟩ := except_bind_ok hact
    obtain ⟨⟨applied, left⟩, hcall, hact⟩ := except_bind_ok hact
    cases hact
    exact callMethod_id (amend_fixes _) hcall
  | receive request =>
    refine hagree.refused_or_finds h fun _ po reply po' hact => ?_
    obtain ⟨⟨_, left⟩, hcall, hact⟩ := except_bind_ok hact
    cases hact
    exact callMethod_id (fun po => congrArg Prod.fst (openPoForReceipt_fixes _ _ _ _ po)) hcall
  | transition id verb reason actorId =>
    refine hagree.refused_or_finds h fun _ po reply po' hact => ?_
    obtain ⟨method, hmethod, hact⟩ := except_bind_ok hact
    exact acting_keepsId (transitionMethod_isOrderCommand hmethod).fixes_id po reply po' hact
  | issue id actorId =>
    exact hagree.refused_or_finds (.inr h) fun _ => acting_keepsId (IsOrderCommand.issue _ now).fixes_id
  | close id =>
    exact hagree.refused_or_finds (.inr h) fun _ => acting_keepsId (IsOrderCommand.close now).fixes_id
  | import_ input drawn =>
    obtain ⟨failure, hrefused⟩ := h
    show Alike _ _ _ (importPurchaseOrder around ctx now input drawn orders)
      (importPurchaseOrder around ctx now input drawn orders')
    unfold importPurchaseOrder
    rw [hrefused]
    exact .refused failure

end Confined

section Strangers

variable {around : Surroundings} {ctx : RequestContext} {now : Nat} {orders orders' : Orders}
  {useCase : OrderUseCase}

/-- An archived order without lines, of a company that is not the request's, within its scope. -/
def stranger (ctx : RequestContext) (id vendorId currency : String) (reference : Option String) :
    PurchaseOrderRow where
  id := id
  orderNumber := ""
  vendorId := vendorId
  externalReference := reference
  status := .archived
  currency := currency
  subtotal := 0
  total := 0
  lines := []
  distinct := List.nodup_nil
  orderDate := none
  expectedDeliveryDate := none
  createdBy := none
  approvedBy := none
  approvedAt := none
  rejectedBy := none
  rejectedAt := none
  rejectionReason := none
  issuedBy := none
  cancelledBy := none
  amendedBy := none
  amendedAt := none
  amendmentReason := none
  createdAt := 0
  updatedAt := 0
  version := 1
  tenantId := ctx.tenantId
  companyId := ctx.company ++ "!"

theorem stranger_visible (id vendorId currency : String) (reference : Option String) :
    ctx.owns (stranger ctx id vendorId currency reference).tenantId = true := by
  show ctx.owns ctx.tenantId = true
  unfold RequestContext.owns
  cases ctx.tenantId with
  | none => rfl
  | some tenant => simp

theorem append_ne_self (s : String) : s ++ "!" ≠ s := by
  intro h
  have hlength := congrArg String.length h
  rw [String.length_append] at hlength
  have hone : ("!" : String).length = 1 := by decide
  omega

/-- The orders of the company alone. -/
def ownOrders (ctx : RequestContext) (orders : Orders) : Orders :=
  orders.filter (·.companyId = ctx.company)

/-- The orders of the company behind one more. -/
def behind (row : PurchaseOrderRow) (orders : Orders) (h : orders.get? row.id = none) : Orders :=
  ⟨row :: orders.rows, by
    rw [List.map_cons]
    refine List.nodup_cons.mpr ⟨fun hmem => ?_, orders.nodup⟩
    obtain ⟨other, hother, hid⟩ := List.mem_map.mp hmem
    exact Table.get?_eq_none.mp h other hother hid⟩

theorem agreeOn_ownOrders : AgreeOn ctx.company orders (ownOrders ctx orders) := by
  unfold AgreeOn ownOrders Table.filter
  rw [List.filter_filter]
  simp

theorem agreeOn_behind {row : PurchaseOrderRow} (hrow : row.companyId ≠ ctx.company)
    (hfree : (ownOrders ctx orders).get? row.id = none) :
    AgreeOn ctx.company orders (behind row (ownOrders ctx orders) hfree) := by
  refine agreeOn_ownOrders.trans ?_
  show _ = List.filter _ (row :: (ownOrders ctx orders).rows)
  rw [List.filter_cons_of_neg (by simpa using hrow)]

theorem uniqueKeys_ownOrders (h : UniqueKeys orders) : UniqueKeys (ownOrders ctx orders) :=
  h.sublist List.filter_sublist

theorem uniqueKeys_behind {row : PurchaseOrderRow} (h : UniqueKeys orders)
    (hrow : row.companyId ≠ ctx.company) (hfree : (ownOrders ctx orders).get? row.id = none) :
    UniqueKeys (behind row (ownOrders ctx orders) hfree) := by
  refine List.pairwise_cons.mpr ⟨fun other hother => ?_, uniqueKeys_ownOrders h⟩
  have hown : other.companyId = ctx.company := of_decide_eq_true (List.mem_filter.mp hother).2
  simp [clashes, hown, hrow.symm]

theorem get?_ownOrders {id : String} (h : ¬Owns ctx orders id) :
    (ownOrders ctx orders).get? id = none := by
  refine Option.eq_none_iff_forall_ne_some.mpr fun row hrow => ?_
  obtain ⟨hget, hown⟩ := Table.get?_filter.mp hrow
  exact h ⟨row, hget, of_decide_eq_true hown⟩

theorem get?_behind {row : PurchaseOrderRow} (hfree : orders.get? row.id = none) :
    (behind row orders hfree).get? row.id = some row :=
  Table.get?_of_mem List.mem_cons_self

theorem Alike.answer {α : Type} {company : String} {before before' : Orders}
    {r r' : Except Failure (α × Orders)} (h : Alike company before before' r r') :
    r.map Prod.fst = r'.map Prod.fst := by
  cases h with
  | refused failure => rfl
  | done _ _ _ => rfl

/-- An isolated use case answers the same in any two stores with the company's orders. -/
theorem Isolated.answers (h : Isolated around ctx now useCase orders) {first second : Orders}
    (hfirst : Admits useCase first) (hagree : AgreeOn ctx.company orders first)
    (hsecond : Admits useCase second) (hagree' : AgreeOn ctx.company orders second) :
    (useCase.run around ctx now first).map Prod.fst =
      (useCase.run around ctx now second).map Prod.fst :=
  (h first hfirst hagree).answer.symm.trans (h second hsecond hagree').answer

theorem map_eq_error {ε α β : Type} {r : Except ε α} {f : α → β} {e : ε} :
    r.map f = .error e ↔ r = .error e := by
  cases r with
  | error e' => exact ⟨fun h => congrArg Except.error (Except.error.inj h),
      fun h => congrArg Except.error (Except.error.inj h)⟩
  | ok a => exact ⟨fun h => (nomatch h), fun h => (nomatch h)⟩

end Strangers

section Refusals

variable {α : Type} {ctx : RequestContext} {now : Nat} {failure : Failure} {orders : Orders}
  {po : PurchaseOrder}

theorem fromDecimal_refused {decimal : ℚ} {currency : String}
    (h : Money.fromDecimal decimal currency = .error failure) : failure.statusCode = 422 := by
  unfold Money.fromDecimal Money.fromMinorUnits require at h
  split at h
  · split at h
    · cases h
    · cases h
      rfl
  · cases h
    rfl

theorem toLineUnitPrices_refused {currency : String} {prices : List (String × ℚ)}
    (h : toLineUnitPrices currency prices = .error failure) : failure.statusCode = 422 := by
  induction prices with
  | nil => cases h
  | cons price prices ih =>
    rw [toLineUnitPrices] at h
    cases hprice : Money.fromDecimal price.2 currency with
    | error e =>
      rw [hprice] at h
      cases h
      exact fromDecimal_refused hprice
    | ok money =>
      rw [hprice] at h
      cases hrest : toLineUnitPrices currency prices with
      | error e =>
        rw [hrest] at h
        cases h
        exact ih hrest
      | ok rest =>
        rw [hrest] at h
        cases h

theorem foldlM_add_refused {lines : List PurchaseOrderLine} {money : Money}
    (h : lines.foldlM (fun acc line => acc.add line.total) money = .error failure) :
    failure.statusCode = 422 := by
  induction lines generalizing money with
  | nil => cases h
  | cons line lines ih =>
    rw [List.foldlM_cons] at h
    cases hadd : money.add line.total with
    | error e =>
      rw [hadd] at h
      cases h
      unfold Money.add require at hadd
      split at hadd
      · cases hadd
      · cases hadd
        rfl
    | ok sum =>
      rw [hadd] at h
      exact ih h

/-- The failures of a write are its own. -/
theorem update_refused (h : update ctx orders po = .error failure) :
    failure = Write.orderConflict ∨ failure = prismaError ∨ failure.statusCode = 422 := by
  unfold PrismaPurchaseOrderCommandRepository.update at h
  split at h
  · cases h
    exact .inl rfl
  · split at h
    · rename_i stored _ _
      cases hrow : PrismaPurchaseOrderMapper.toRow po stored.tenantId stored.companyId
        (stored.version + 1) with
      | error e =>
        rw [hrow] at h
        cases h
        unfold PrismaPurchaseOrderMapper.toRow at hrow
        cases hsubtotal : po.subtotal with
        | error e' =>
          rw [hsubtotal] at hrow
          cases hrow
          exact .inr (.inr (foldlM_add_refused hsubtotal))
        | ok total =>
          have htotal : po.total = .ok total := hsubtotal
          rw [hsubtotal, htotal] at hrow
          dsimp only [bind, Except.bind] at hrow
          split at hrow
          · cases hrow
            exact .inr (.inl rfl)
          · split at hrow
            · cases hrow
            · cases hrow
              exact .inr (.inl rfl)
      | ok row =>
        rw [hrow] at h
        change (if taken orders row = false then _ else _) = Except.error failure at h
        split at h
        · cases h
        · cases h
          exact .inr (.inl rfl)
    · cases h
      exact .inl rfl

end Refusals

section Separation

variable {α : Type} {around : Surroundings} {ctx : RequestContext} {now : Nat} {orders : Orders}
  {useCase : OrderUseCase} {id : String}
  {act : α → PurchaseOrder → Except Failure (Reply × Option PurchaseOrder)}

/-- The order a use case on the id of a stranger finds. -/
def strange (ctx : RequestContext) (id : String) : PurchaseOrder :=
  PrismaPurchaseOrderMapper.toDomain (stranger ctx id "" "" none)

theorem ne_notFound {β : Type} {r : Except Failure β} {failure : Failure}
    (h : r = .error failure) (hcode : failure.statusCode = 422) : r ≠ .error orderNotFound := by
  rw [h]
  intro heq
  rw [Except.error.inj heq] at hcode
  cases hcode

theorem onOrder_found (checked : α) {row : PurchaseOrderRow} (hget : orders.get? id = some row)
    (hvisible : ctx.owns row.tenantId = true) :
    onOrder ctx (.ok checked) id act orders = (do
      let (reply, changed) ← act checked (PrismaPurchaseOrderMapper.toDomain row)
      match changed with
      | none => .ok (reply, orders)
      | some po =>
        let written ← update ctx orders po
        .ok (reply, written)) := by
  unfold onOrder
  show (match findById ctx orders id with | none => _ | some po => _) = _
  rw [findById_of_get? hget, if_pos hvisible]

/-- What is found is answered otherwise than what is not found. -/
theorem onOrder_ne_notFound (checked : α) {row : PurchaseOrderRow}
    (hget : orders.get? id = some row) (hvisible : ctx.owns row.tenantId = true)
    (hact : act checked (PrismaPurchaseOrderMapper.toDomain row) ≠ .error orderNotFound) :
    onOrder ctx (.ok checked) id act orders ≠ .error orderNotFound := by
  rw [onOrder_found checked hget hvisible]
  cases hresult : act checked (PrismaPurchaseOrderMapper.toDomain row) with
  | error failure =>
    rw [hresult] at hact
    intro h
    exact hact (congrArg Except.error (Except.error.inj h))
  | ok result =>
    obtain ⟨reply, changed⟩ := result
    cases changed with
    | none => exact fun h => nomatch h
    | some po =>
      intro h
      cases hwritten : update ctx orders po with
      | ok written =>
        have hrun : (update ctx orders po >>= fun written => .ok (reply, written)) =
            Except.error orderNotFound := h
        rw [hwritten] at hrun
        cases hrun
      | error failure =>
        have hrun : (update ctx orders po >>= fun written => .ok (reply, written)) =
            Except.error orderNotFound := h
        rw [hwritten] at hrun
        have hsame : failure = orderNotFound := Except.error.inj hrun
        rw [hsame] at hwritten
        rcases update_refused hwritten with heq | heq | hcode
        · exact absurd (congrArg Failure.statusCode heq) (by decide)
        · exact absurd (congrArg Failure.statusCode heq) (by decide)
        · exact absurd hcode (by decide)

/-- An isolated use case on an order is refused first, or the order is the company's. -/
theorem owns_of_isolated {gate : Except Failure α}
    {acts : Orders → α → PurchaseOrder → Except Failure (Reply × Option PurchaseOrder)}
    (hrun : ∀ orders, useCase.run around ctx now orders = onOrder ctx gate id (acts orders) orders)
    (hdrawn : useCase.drawnId = none)
    (hact : ∀ orders checked, acts orders checked (strange ctx id) ≠ .error orderNotFound)
    (hunique : UniqueKeys orders) (h : Isolated around ctx now useCase orders) :
    (∃ failure, gate = .error failure) ∨ Owns ctx orders id := by
  cases gate with
  | error failure => exact .inl ⟨failure, rfl⟩
  | ok checked =>
    refine .inr ?_
    by_contra hnot
    have hfree : (ownOrders ctx orders).get? (stranger ctx id "" "" none).id = none :=
      get?_ownOrders hnot
    have hother : (stranger ctx id "" "" none).companyId ≠ ctx.company := append_ne_self _
    have hfresh : ∀ orders : Orders, ∀ id ∈ useCase.drawnId, orders.get? id = none := by
      intro orders id hid
      rw [hdrawn] at hid
      cases hid
    have hsame := h.answers ⟨uniqueKeys_ownOrders hunique, hfresh _⟩ agreeOn_ownOrders
      ⟨uniqueKeys_behind hunique hother hfree, hfresh _⟩ (agreeOn_behind hother hfree)
    rw [hrun, hrun] at hsame
    have hmissing : onOrder ctx (.ok checked) id (acts (ownOrders ctx orders))
        (ownOrders ctx orders) = .error orderNotFound := by
      unfold onOrder
      show (match findById ctx (ownOrders ctx orders) id with | none => _ | some po => _) = _
      have hnone : findById ctx (ownOrders ctx orders) id = none := by
        unfold findById
        rw [get?_ownOrders hnot]
        rfl
      rw [hnone]
    rw [hmissing] at hsame
    exact onOrder_ne_notFound checked (get?_behind hfree) (stranger_visible id "" "" none)
      (hact _ checked) (map_eq_error.mp hsame.symm)

theorem strange_header {input : HeaderInput} (orders : Orders) :
    (do
      require (referenceTaken ctx orders (strange ctx id) input.externalReference = false)
        referenceConflict
      acting (PurchaseOrder.updateHeader input now) (strange ctx id)) ≠ .error orderNotFound := by
  unfold require
  split
  · exact ne_notFound rfl rfl
  · intro h
    exact absurd (congrArg Failure.statusCode (Except.error.inj h)) (by decide)

theorem strange_transition (verb : PurchaseOrderTransition) (reason actorId : Option String) :
    (do
      let method ← transitionMethod ctx now verb reason actorId (strange ctx id)
      acting method (strange ctx id)) ≠ .error orderNotFound := by
  cases verb with
  | submit => exact ne_notFound rfl rfl
  | approve => exact ne_notFound rfl rfl
  | reject => exact ne_notFound rfl rfl
  | cancel => exact ne_notFound rfl rfl
  | complete => exact ne_notFound rfl rfl

theorem strange_addLine (input : LineRequest) (name : String) :
    (do
      let price ← Money.fromDecimal input.unitPrice
        ((input.currency.or ctx.defaultCurrency).getD "USD")
      acting (PurchaseOrder.addLine input.productId input.quantity price (some name) now)
        (strange ctx id)) ≠ .error orderNotFound := by
  cases hprice : Money.fromDecimal input.unitPrice
    ((input.currency.or ctx.defaultCurrency).getD "USD") with
  | error failure => exact ne_notFound rfl (fromDecimal_refused hprice)
  | ok price => exact ne_notFound rfl rfl

theorem strange_updateLine (input : LineRequest) (name : String) :
    (do
      let price ← Money.fromDecimal input.unitPrice
        ((input.currency.or ctx.defaultCurrency).getD "USD")
      let (changed, po) ← callMethod
        (PurchaseOrder.setLine input.productId input.quantity price (some name) now)
        (strange ctx id)
      if changed then return (Reply.mk po.id none po.events, some po)
      else return (Reply.mk po.id none [], none)) ≠ .error orderNotFound := by
  cases hprice : Money.fromDecimal input.unitPrice
    ((input.currency.or ctx.defaultCurrency).getD "USD") with
  | error failure => exact ne_notFound rfl (fromDecimal_refused hprice)
  | ok price => exact ne_notFound rfl rfl

theorem strange_amend (request : AmendmentInput) :
    (do
      let prices ← toLineUnitPrices (strange ctx id).currency (request.lineUnitPrices.getD [])
      let (_, po) ← callMethod (PurchaseOrder.amend
        { request with
          lineUnitPrices := request.lineUnitPrices.map fun _ => prices
          actorId := request.actorId.or ctx.userId } now) (strange ctx id)
      return (Reply.mk po.id none po.events, some po)) ≠ .error orderNotFound := by
  cases hprices : toLineUnitPrices (strange ctx id).currency
    (request.lineUnitPrices.getD []) with
  | error failure => exact ne_notFound rfl (toLineUnitPrices_refused hprices)
  | ok prices => exact ne_notFound rfl rfl

theorem updateHeader_refused {input : HeaderInput} {po : PurchaseOrder} {failure : Failure}
    (h : acting (PurchaseOrder.updateHeader input now) po = .error failure) :
    failure.statusCode = 422 := by
  cases hcheck : purchaseOrderEditable po.status with
  | ok _ =>
    have hrun : ∃ po', PurchaseOrder.updateHeader input now po = (.ok (), po') := by
      unfold PurchaseOrder.updateHeader PurchaseOrder.assertEditable
      simp only [Bind.bind, Method.bind, Method.this, Method.enforce, hcheck]
      exact ⟨_, rfl⟩
    obtain ⟨po', hrun⟩ := hrun
    unfold acting at h
    rw [callMethod_eq_ok.mpr hrun] at h
    cases h
  | error e =>
    have hrun : callMethod (PurchaseOrder.updateHeader input now) po = .error e := by
      unfold callMethod PurchaseOrder.updateHeader PurchaseOrder.assertEditable
      simp only [Bind.bind, Method.bind, Method.this, Method.enforce, hcheck]
    unfold acting at h
    rw [hrun] at h
    cases h
    unfold purchaseOrderEditable require at hcheck
    split at hcheck
    · cases hcheck
    · cases hcheck
      rfl

theorem exists_fresh (orders : Orders) (id : String) :
    ∃ fresh, orders.get? fresh = none ∧ fresh ≠ id := by
  obtain ⟨fresh, hfresh⟩ := Infinite.exists_notMem_finset
    (id :: orders.rows.map (·.id)).toFinset
  rw [List.mem_toFinset, List.mem_cons, not_or] at hfresh
  refine ⟨fresh, Table.get?_eq_none.mpr fun r hr heq => hfresh.2 ?_, hfresh.1⟩
  exact List.mem_map.mpr ⟨r, hr, heq⟩

/-- An isolated update of a header brings a reference that is settled within the company. -/
theorem settled_of_isolated {input : HeaderInput} (hunique : UniqueKeys orders)
    (h : Isolated around ctx now (.update id input) orders) :
    ∃ row, orders.get? id = some row ∧ row.companyId = ctx.company ∧
      ReferenceSettled ctx orders row input.externalReference := by
  have hrun : ∀ orders, (OrderUseCase.update id input).run around ctx now orders =
      onOrder ctx (.ok ()) id (fun _ po => do
        require (referenceTaken ctx orders po input.externalReference = false) referenceConflict
        acting (PurchaseOrder.updateHeader input now) po) orders := fun _ => rfl
  rcases owns_of_isolated hrun rfl (fun orders _ => strange_header orders) hunique h with
    ⟨_, hgate⟩ | ⟨row, hget, hown⟩
  · cases hgate
  refine ⟨row, hget, hown, fun hvisible new hnew hother => ?_⟩
  by_contra hnone
  obtain ⟨fresh, hfree, -⟩ := exists_fresh (ownOrders ctx orders) id
  have hfree' : (ownOrders ctx orders).get? (stranger ctx fresh "" "" (some new)).id = none := hfree
  have hstrange : (stranger ctx fresh "" "" (some new)).companyId ≠ ctx.company := append_ne_self _
  have hfresh : ∀ orders : Orders, ∀ id ∈ (OrderUseCase.update id input).drawnId,
      orders.get? id = none := fun _ _ hid => nomatch hid
  have hagree : AgreeOn ctx.company orders (ownOrders ctx orders) := agreeOn_ownOrders
  have hagree' := agreeOn_behind hstrange hfree'
  have hsame := h.answers ⟨uniqueKeys_ownOrders hunique, hfresh _⟩ hagree
    ⟨uniqueKeys_behind hunique hstrange hfree', hfresh _⟩ hagree'
  have hnew' : input.externalReference = some new := hnew
  have hdiffers : (PrismaPurchaseOrderMapper.toDomain row).externalReference ≠ some new := hother
  have hfirst : referenceTaken ctx (ownOrders ctx orders)
      (PrismaPurchaseOrderMapper.toDomain row) input.externalReference = false := by
    have hmissing : findByExternalReference ctx (ownOrders ctx orders) new = none := by
      unfold findByExternalReference
      rw [Option.map_eq_none_iff, List.find?_eq_none]
      intro other hmem hfound
      obtain ⟨hmem, hcompany⟩ := List.mem_filter.mp hmem
      simp only [Bool.and_eq_true, decide_eq_true_eq] at hfound
      exact hnone ⟨other, hmem, of_decide_eq_true hcompany, hfound.2, hfound.1⟩
    rw [hnew']
    simp [referenceTaken, hmissing]
  have hsecond : referenceTaken ctx (behind _ (ownOrders ctx orders) hfree')
      (PrismaPurchaseOrderMapper.toDomain row) input.externalReference = true := by
    have hfound : (findByExternalReference ctx (behind _ (ownOrders ctx orders) hfree') new).isSome =
        true := by
      unfold findByExternalReference
      rw [Option.isSome_map, List.find?_isSome]
      refine ⟨_, List.mem_cons_self, ?_⟩
      rw [stranger_visible fresh "" "" (some new), Bool.and_true]
      exact decide_eq_true rfl
    rw [hnew']
    simp [referenceTaken, hfound, hdiffers]
  have hconflict : (OrderUseCase.update id input).run around ctx now
      (behind _ (ownOrders ctx orders) hfree') = .error referenceConflict := by
    show onOrder ctx (.ok ()) id _ _ = _
    rw [onOrder_found () (hagree'.get?_own hget hown) hvisible, hsecond]
    rfl
  rw [hconflict] at hsame
  have hown' : onOrder ctx (.ok ()) id _ (ownOrders ctx orders) = .error referenceConflict :=
    map_eq_error.mp hsame
  rw [onOrder_found () (hagree.get?_own hget hown) hvisible, hfirst] at hown'
  change (acting (PurchaseOrder.updateHeader input now) _ >>= _) = _ at hown'
  cases hacting : acting (PurchaseOrder.updateHeader input now)
    (PrismaPurchaseOrderMapper.toDomain row) with
  | error failure =>
    rw [hacting] at hown'
    have hcode := updateHeader_refused hacting
    rw [Except.error.inj hown'] at hcode
    exact absurd hcode (by decide)
  | ok result =>
    obtain ⟨reply, changed⟩ := result
    rw [hacting] at hown'
    cases changed with
    | none => cases hown'
    | some po =>
      change (update ctx (ownOrders ctx orders) po >>= _) = _ at hown'
      cases hwritten : update ctx (ownOrders ctx orders) po with
      | ok written =>
        rw [hwritten] at hown'
        cases hown'
      | error failure =>
        rw [hwritten] at hown'
        rw [Except.error.inj hown'] at hwritten
        rcases update_refused hwritten with heq | heq | hcode
        · exact absurd (congrArg Failure.message heq) (by decide)
        · exact absurd (congrArg Failure.statusCode heq) (by decide)
        · exact absurd hcode (by decide)

theorem setLines_archived {po : PurchaseOrder} (harchived : po.status = .archived)
    (lines : List ImportLine) :
    setLines now lines po = .ok (false, po) ∨
      ∃ failure, setLines now lines po = .error failure ∧ failure.statusCode = 422 := by
  cases lines with
  | nil => exact .inl rfl
  | cons line lines =>
    refine .inr ?_
    rw [setLines]
    cases hprice : Money.fromDecimal line.unitPrice po.currency with
    | error failure => exact ⟨failure, rfl, fromDecimal_refused hprice⟩
    | ok price =>
      obtain ⟨refusal, hcheck, hcode⟩ : ∃ refusal,
          purchaseOrderEditable po.status = .error refusal ∧ refusal.statusCode = 422 := by
        rw [harchived]
        exact ⟨_, rfl, rfl⟩
      have hcall : callMethod (PurchaseOrder.setLine line.productId line.quantity price none now)
          po = .error refusal := by
        unfold callMethod PurchaseOrder.setLine PurchaseOrder.assertEditable
        simp only [Bind.bind, Method.bind, Method.this, Method.enforce, hcheck]
      refine ⟨refusal, ?_, hcode⟩
      show (callMethod _ po >>= _) = _
      rw [hcall]
      rfl

theorem findByExternalReference_behind {row : PurchaseOrderRow} {reference : String}
    (hfree : orders.get? row.id = none) (hreference : row.externalReference = some reference)
    (hvisible : ctx.owns row.tenantId = true) :
    findByExternalReference ctx (behind row orders hfree) reference =
      some (PrismaPurchaseOrderMapper.toDomain row) := by
  unfold findByExternalReference behind
  rw [List.find?_cons_of_pos (by simp [hreference, hvisible])]
  rfl

theorem importCheck_of_other_vendor {input : ImportPurchaseOrderRequest} {existing : PurchaseOrder}
    (h : existing.vendorId ≠ input.vendorId) :
    ∃ failure, importCheck input existing = .error failure ∧ failure.statusCode = 409 := by
  unfold importCheck require
  rw [if_neg h]
  exact ⟨_, rfl, rfl⟩

theorem importCheck_of_same {input : ImportPurchaseOrderRequest} {existing : PurchaseOrder}
    (h : existing.vendorId = input.vendorId)
    (hcurrency : existing.currency = input.currency.getD "USD") :
    importCheck input existing = .ok () := by
  unfold importCheck require
  rw [if_pos h]
  cases hgiven : input.currency with
  | none => rfl
  | some currency =>
    rw [hgiven] at hcurrency
    show (if currency = "" ∨ existing.currency = currency then Except.ok () else _) = _
    rw [if_pos (.inr hcurrency)]

/-- An isolated import is refused. -/
theorem refused_of_isolated {input : ImportPurchaseOrderRequest} {drawn : Drawn}
    (hadmits : Admits (.import_ input drawn) orders)
    (h : Isolated around ctx now (.import_ input drawn) orders) :
    ∃ failure, authorizeEntry around.wiring ctx "import" = .error failure := by
  cases hgate : authorizeEntry around.wiring ctx "import" with
  | error failure => exact ⟨failure, rfl⟩
  | ok _ =>
    exfalso
    obtain ⟨fresh, hfree, hnew⟩ := exists_fresh (ownOrders ctx orders) drawn.id
    have hstore : ∀ vendorId currency, ∃ hfree : (ownOrders ctx orders).get?
        (stranger ctx fresh vendorId currency (some input.externalReference)).id = none,
        Admits (.import_ input drawn) (behind _ (ownOrders ctx orders) hfree) ∧
          AgreeOn ctx.company orders (behind _ (ownOrders ctx orders) hfree) := by
      intro vendorId currency
      have hstrange : (stranger ctx fresh vendorId currency
          (some input.externalReference)).companyId ≠ ctx.company := append_ne_self _
      refine ⟨hfree, ⟨uniqueKeys_behind hadmits.unique hstrange hfree, fun id hid => ?_⟩,
        agreeOn_behind hstrange hfree⟩
      cases hid
      refine Table.get?_eq_none.mpr fun row hrow => ?_
      rcases List.mem_cons.mp hrow with rfl | hrow
      · exact hnew
      · exact Table.get?_eq_none.mp (hadmits.fresh _ rfl) row (List.mem_filter.mp hrow).1
    obtain ⟨hfree₁, hadmits₁, hagree₁⟩ := hstore (input.vendorId ++ "!") ""
    obtain ⟨hfree₂, hadmits₂, hagree₂⟩ := hstore input.vendorId (input.currency.getD "USD")
    have hsame := h.answers hadmits₁ hagree₁ hadmits₂ hagree₂
    have hrun : ∀ store : Orders, (OrderUseCase.import_ input drawn).run around ctx now store = (do
        let (po, sent, orders) ← findOrCreate around ctx now input drawn store
        let (changed, po) ← setLines now input.lines po
        if changed then
          let written ← update ctx orders po
          return (⟨po.id, none, sent ++ po.events⟩, written)
        else return (⟨po.id, none, sent ++ po.events⟩, orders)) := by
      intro store
      show importPurchaseOrder around ctx now input drawn store = _
      unfold importPurchaseOrder
      rw [hgate]
      rfl
    have hfirst : ∃ failure, (OrderUseCase.import_ input drawn).run around ctx now
        (behind _ (ownOrders ctx orders) hfree₁) = .error failure ∧ failure.statusCode = 409 := by
      rw [hrun]
      unfold findOrCreate
      rw [findByExternalReference_behind hfree₁ rfl (stranger_visible _ _ _ _)]
      obtain ⟨failure, hcheck, hcode⟩ := @importCheck_of_other_vendor input
        (PrismaPurchaseOrderMapper.toDomain (stranger ctx fresh (input.vendorId ++ "!") ""
          (some input.externalReference))) (append_ne_self _)
      refine ⟨failure, ?_, hcode⟩
      dsimp only
      rw [hcheck]
      rfl
    have hsecond : ∀ failure, (OrderUseCase.import_ input drawn).run around ctx now
        (behind _ (ownOrders ctx orders) hfree₂) = .error failure → failure.statusCode = 422 := by
      intro failure
      rw [hrun]
      unfold findOrCreate
      rw [findByExternalReference_behind hfree₂ rfl (stranger_visible _ _ _ _)]
      have hcheck := @importCheck_of_same input (PrismaPurchaseOrderMapper.toDomain
        (stranger ctx fresh input.vendorId (input.currency.getD "USD")
          (some input.externalReference))) rfl rfl
      dsimp only
      rw [hcheck]
      intro hfailed
      change (setLines now input.lines _ >>= _) = _ at hfailed
      rcases @setLines_archived now (PrismaPurchaseOrderMapper.toDomain
        (stranger ctx fresh input.vendorId (input.currency.getD "USD")
          (some input.externalReference))) rfl input.lines with hset | ⟨refusal, hset, hcode⟩
      · rw [hset] at hfailed
        cases hfailed
      · rw [hset] at hfailed
        cases hfailed
        exact hcode
    obtain ⟨failure, hfailed, hcode⟩ := hfirst
    rw [hfailed] at hsame
    have hother := hsecond failure (map_eq_error.mp hsame.symm)
    rw [hcode] at hother
    cases hother

theorem confined_of_isolated (hadmits : Admits useCase orders)
    (h : Isolated around ctx now useCase orders) : useCase.Confined around ctx orders := by
  have hunique := hadmits.unique
  have honly : ∀ {id : String}, ((∃ failure, (Except.ok () : Except Failure Unit) = .error failure) ∨
      Owns ctx orders id) → Owns ctx orders id := fun h => h.resolve_left fun ⟨_, hok⟩ => nomatch hok
  cases useCase with
  | create input drawn => trivial
  | update id input => exact settled_of_isolated hunique h
  | addLine input =>
    exact owns_of_isolated (fun _ => rfl) rfl (fun _ name => strange_addLine input name) hunique h
  | updateLine input =>
    exact owns_of_isolated (fun _ => rfl) rfl (fun _ name => strange_updateLine input name) hunique h
  | removeLine id productId =>
    exact owns_of_isolated (fun _ => rfl) rfl (fun _ _ => ne_notFound rfl rfl) hunique h
  | amend id request =>
    exact honly (owns_of_isolated (fun _ => rfl) rfl (fun _ _ => strange_amend request) hunique h)
  | receive request =>
    exact owns_of_isolated (fun _ => rfl) rfl (fun _ _ => ne_notFound rfl rfl) hunique h
  | transition id verb reason actorId =>
    exact owns_of_isolated (fun _ => rfl) rfl
      (fun _ _ => strange_transition verb reason (actorId.or ctx.userId)) hunique h
  | issue id actorId =>
    exact honly (owns_of_isolated (fun _ => rfl) rfl (fun _ _ => ne_notFound rfl rfl) hunique h)
  | close id =>
    exact honly (owns_of_isolated (fun _ => rfl) rfl (fun _ _ => ne_notFound rfl rfl) hunique h)
  | import_ input drawn => exact refused_of_isolated hadmits h

/-- A use case is isolated from the orders of other companies exactly when it creates one, is
refused before it looks one up, or names one of its own company, whose reference is settled. -/
theorem isolated_iff (around : Surroundings) (ctx : RequestContext) (now : Nat)
    (useCase : OrderUseCase) (orders : Orders) (h : Admits useCase orders) :
    Isolated around ctx now useCase orders ↔ useCase.Confined around ctx orders :=
  ⟨confined_of_isolated h, isolated_of_confined h⟩

end Separation

section Scenario

/-- A request of one company of the tenant `t`. -/
def requestOf (company : String) : RequestContext where
  tenantId := some "t"
  companyId := some company
  userId := none
  roles := []
  defaultCurrency := none
  autoApproveThreshold := none
  overReceiptTolerance := none

def open_ : Surroundings where
  wiring := ⟨fun _ => .allow, ⟨60000, 1000, 60000⟩⟩
  getOrderableVendor _ := true
  getPurchasableProduct productId := some productId

/-- A draft of the company `globex` with the reference `R-1`. -/
def globexDraft : PurchaseOrderRow :=
  { stranger (requestOf "acme") "po-1" "vendor" "USD" (some "R-1") with
    status := .draft
    companyId := "globex" }

def globexOrders : Orders := ⟨[globexDraft], by decide⟩

def boltImport : ImportPurchaseOrderRequest := ⟨"R-1", "vendor", none, [⟨"bolt", 2, 1⟩]⟩

theorem admits_globex (useCase : OrderUseCase) (h : useCase.drawnId ≠ some "po-1") :
    Admits useCase globexOrders where
  unique := List.pairwise_singleton _ _
  fresh id hid := by
    refine Table.get?_eq_none.mpr fun row hrow => ?_
    rcases List.mem_singleton.mp hrow with rfl
    rintro rfl
    exact h hid

/-- An import of `acme` with the reference of a draft of `globex` sets its lines on that draft. -/
theorem import_reaches_globex :
    (∃ reply after, (OrderUseCase.import_ boltImport ⟨"po-2", "PO-1"⟩).run open_ (requestOf "acme") 0
      globexOrders = .ok (reply, after) ∧ reply.id = "po-1" ∧
        ¬SameOthers "acme" globexOrders after) ∧
      ¬Isolated open_ (requestOf "acme") 0 (.import_ boltImport ⟨"po-2", "PO-1"⟩) globexOrders := by
  have htold : (match (OrderUseCase.import_ boltImport ⟨"po-2", "PO-1"⟩).run open_
      (requestOf "acme") 0 globexOrders with
    | .ok (reply, after) => decide (reply.id = "po-1" ∧ ¬SameOthers "acme" globexOrders after)
    | .error _ => false) = true := by
    decide +kernel
  cases hrun : (OrderUseCase.import_ boltImport ⟨"po-2", "PO-1"⟩).run open_ (requestOf "acme") 0
    globexOrders with
  | error failure =>
    rw [hrun] at htold
    cases htold
  | ok result =>
    rw [hrun] at htold
    obtain ⟨hid, hchanged⟩ := of_decide_eq_true htold
    refine ⟨⟨result.1, result.2, rfl, hid, hchanged⟩, fun h => ?_⟩
    have halike := h globexOrders (admits_globex _ (by decide)) rfl
    rw [hrun] at halike
    cases halike with
    | done _ hkept _ => exact hchanged hkept

/-- Closing an order of `globex` for `globex` has nothing to do with other companies. -/
theorem close_isolated :
    Isolated open_ (requestOf "globex") 0 (.close "po-1") globexOrders :=
  (isolated_iff open_ (requestOf "globex") 0 (.close "po-1") globexOrders
    (admits_globex _ (by decide))).mpr ⟨globexDraft, by decide, rfl⟩

end Scenario

end DddBoilerplate.Procurement
