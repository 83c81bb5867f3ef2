/- module: DddBoilerplate/Sales/Invoice
   generality: I
   digest: The invoice: its lines, its factory, its row, and creating one from the lines of a template. -/

import Mathlib.Data.List.Forall2
import DddBoilerplate.Procurement.UseCases

set_option autoImplicit false
set_option relaxedAutoImplicit false
set_option linter.all false

namespace DddBoilerplate.Sales

open Domain (require require_eq_ok)
open Procurement (Failure Money RequestContext AbacCheck AbacDecision trim)

section Records

inductive InvoiceStatus where
  | draft | posted | cancelled
  deriving DecidableEq

structure InvoiceLineInput where
  description : String
  quantity : ℚ
  unitPrice : ℚ
  deriving DecidableEq

structure InvoiceLine where
  description : String
  quantity : ℚ
  unitPrice : Money

structure Invoice where
  id : String
  invoiceNo : String
  customerId : String
  status : InvoiceStatus
  currency : String
  lines : List InvoiceLine
  postedAt : Option Nat
  version : Nat

/-- A line in the JSON column of an invoice. -/
structure StoredLine where
  description : String
  quantity : ℚ
  unitPrice : ℚ
  deriving DecidableEq

/-- A row of `invoices`. -/
structure InvoiceRow where
  id : String
  invoiceNo : String
  customerId : String
  status : InvoiceStatus
  currency : String
  totalAmount : ℚ
  lines : List StoredLine
  postedAt : Option Nat
  version : Nat
  tenantId : Option String
  companyId : String
  deriving DecidableEq

inductive InvoiceEvent where
  | created (invoiceId invoiceNo customerId : String) (totalAmount : ℚ) (currency : String)
  | posted (invoiceId invoiceNo : String) (postedAt : Nat)
  deriving DecidableEq

structure CreateInvoiceRequest where
  customerId : String
  currency : Option String
  lines : List InvoiceLineInput
  deriving DecidableEq

/-- An element of a template's lines: `Number(value)` of a quantity or a price, where it is
finite. -/
structure RawLine where
  description : Option String
  quantity : Option ℚ
  unitPrice : Option ℚ
  deriving DecidableEq

end Records

/-- `Money.amount` -/
def amount (money : Money) : ℚ := money.minorUnits / 100

/-- `InvoiceLine.total` -/
def InvoiceLine.total (line : InvoiceLine) : Money := line.unitPrice.multiply line.quantity

/-- `Invoice.totalAmount` -/
def Invoice.totalAmount (invoice : Invoice) : Except Failure Money :=
  invoice.lines.foldlM (fun sum line => sum.add line.total) (Money.zero invoice.currency)

/-- `/^INV-[A-Z0-9-]{1,32}$/` -/
def isInvoiceNumber (invoiceNo : String) : Bool :=
  match invoiceNo.toList with
  | 'I' :: 'N' :: 'V' :: '-' :: rest =>
    1 ≤ rest.length && rest.length ≤ 32 && rest.all fun c => c.isUpper || c.isDigit || c = '-'
  | _ => false

/-- `InvoiceNumber.create`; the numbers drawn are in capitals. -/
def invoiceNumber (value : String) : Except Failure String := do
  require (isInvoiceNumber (trim value) = true)
    (Failure.mk 422 "Invoice number must match INV-<identifier>")
  return trim value

namespace InvoiceFactory

def createLine (currency : String) (line : InvoiceLineInput) : Except Failure InvoiceLine := do
  let unitPrice ← Money.fromDecimal line.unitPrice currency
  require (0 < line.quantity) (Failure.mk 422 "Invoice line quantity must be positive")
  require (0 ≤ unitPrice.minorUnits) (Failure.mk 422 "Invoice line price cannot be negative")
  return ⟨trim line.description, line.quantity, unitPrice⟩

def create (id invoiceNo customerId currency : String) (inputs : List InvoiceLineInput) :
    Except Failure (Invoice × List InvoiceEvent) := do
  require (inputs ≠ []) (Failure.mk 422 "Invoice must have at least one line")
  let lines ← inputs.mapM (createLine currency)
  let number ← invoiceNumber invoiceNo
  let invoice : Invoice := ⟨id, number, customerId, .draft, currency, lines, none, 1⟩
  let total ← invoice.totalAmount
  return (invoice, [.created id number customerId (amount total) currency])

end InvoiceFactory

namespace PrismaInvoiceMapper

def toLine (line : InvoiceLine) : StoredLine :=
  ⟨line.description, line.quantity, amount line.unitPrice⟩

/-- `toRow`, with the tenant and the company `save` stamps it with. -/
def toRow (ctx : RequestContext) (invoice : Invoice) : Except Failure InvoiceRow := do
  let total ← invoice.totalAmount
  return {
    id := invoice.id
    invoiceNo := invoice.invoiceNo
    customerId := invoice.customerId
    status := invoice.status
    currency := invoice.currency
    totalAmount := amount total
    lines := invoice.lines.map toLine
    postedAt := invoice.postedAt
    version := invoice.version
    tenantId := ctx.tenantId
    companyId := ctx.company }

end PrismaInvoiceMapper

section UseCases

/-- What creating an invoice draws: its number from the company's series, and its identifier. -/
structure Drawn where
  invoiceNo : String
  invoiceId : String

variable (abac : AbacCheck → AbacDecision) (ctx : RequestContext)

/-- What `CreateInvoiceUseCase` checks before it draws a number. -/
def authorize (input : CreateInvoiceRequest) : Except Failure Unit :=
  match ctx.companyId with
  | none | some "" => .error ⟨500, "Company not found in request context"⟩
  | some companyId =>
    match abac
      { tenantId := ctx.tenantId.getD ""
        companyId := companyId
        userId := ctx.userId.getD ""
        roles := ctx.roles
        defaultCurrency := ctx.defaultCurrency.getD "USD"
        autoApproveThreshold := ctx.autoApproveThreshold.getD 0
        overReceiptTolerance := ctx.overReceiptTolerance.getD 0
        resource := "Invoice"
        action := "create" } with
    | .deny reason => .error ⟨403, reason.getD "ABAC denied"⟩
    | .allow => do
      require (input.customerId ≠ "") (Failure.mk 409 "customerId is required")
      require (input.lines ≠ []) (Failure.mk 409 "Invoice lines must be a non-empty array")

/-- `CreateInvoiceUseCase.execute`: the row and the events its transaction writes. -/
def createInvoice (drawn : Drawn) (input : CreateInvoiceRequest) :
    Except Failure (InvoiceRow × List InvoiceEvent) := do
  authorize abac ctx input
  let currency := (input.currency.or ctx.defaultCurrency).getD "USD"
  let (invoice, events) ← InvoiceFactory.create drawn.invoiceId drawn.invoiceNo input.customerId
    currency input.lines
  let row ← PrismaInvoiceMapper.toRow ctx invoice
  return (row, events)

/-- `PostInvoiceUseCase.execute` on the row it finds. -/
def postInvoice (now : Nat) (row : InvoiceRow) : Except Failure (InvoiceRow × List InvoiceEvent) :=
  match row.status with
  | .cancelled => .error ⟨422, "Cannot transition invoice from CANCELLED to POSTED"⟩
  | .posted => .ok ({ row with version := row.version + 1 }, [])
  | .draft =>
    .ok ({ row with status := .posted, postedAt := some now, version := row.version + 1 },
      [.posted row.id row.invoiceNo now])

end UseCases

namespace InvoiceRecurringLineService

/-- The checks of one line and the line they make of it. -/
def mapLine (index : Nat) (line : RawLine) : Except Failure InvoiceLineInput := do
  let description := line.description.getD ""
  require (trim description ≠ "")
    (Failure.mk 422 s!"Recurring Invoice lines[{index}].description is required")
  let quantity ← match line.quantity with
    | some quantity => .ok quantity
    | none =>
      .error (Failure.mk 422 s!"Recurring Invoice lines[{index}].quantity must be a number")
  let unitPrice ← match line.unitPrice with
    | some unitPrice => .ok unitPrice
    | none =>
      .error (Failure.mk 422 s!"Recurring Invoice lines[{index}].unitPrice must be a number")
  return ⟨description, quantity, unitPrice⟩

def mapLines : Nat → List RawLine → Except Failure (List InvoiceLineInput)
  | _, [] => .ok []
  | index, line :: rest => do
    let input ← mapLine index line
    let inputs ← mapLines (index + 1) rest
    return input :: inputs

def validateAndMap (lines : List RawLine) : Except Failure (List InvoiceLineInput) := do
  require (lines ≠ []) (Failure.mk 422 "Recurring Invoice template must have at least one line")
  mapLines 0 lines

end InvoiceRecurringLineService

/-- A line of an invoice is the template's, its price in whole minor units. -/
structure Bills (line : RawLine) (stored : StoredLine) : Prop where
  description : ∃ text, line.description = some text ∧ stored.description = trim text
  quantity : line.quantity = some stored.quantity
  unitPrice : ∃ price, line.unitPrice = some price ∧
    stored.unitPrice = Procurement.round (price * 100) / 100

section Lines

theorem of_bind_ok {ε α β : Type} {m : Except ε α} {f : α → Except ε β} {b : β}
    (h : (m >>= f) = .ok b) : ∃ a, m = .ok a ∧ f a = .ok b := by
  cases m with
  | error e => cases h
  | ok a => exact ⟨a, rfl, h⟩

/-- What a loop that returned made of each element. -/
theorem forall₂_of_mapM_ok {ε α β : Type} {f : α → Except ε β} {as : List α} {bs : List β}
    (h : as.mapM f = .ok bs) : List.Forall₂ (fun a b => f a = .ok b) as bs := by
  induction as generalizing bs with
  | nil =>
    rw [List.mapM_nil] at h
    cases h
    exact .nil
  | cons a as ih =>
    rw [List.mapM_cons] at h
    obtain ⟨b, hb, h⟩ := of_bind_ok h
    obtain ⟨rest, hrest, h⟩ := of_bind_ok h
    cases h
    exact .cons hb (ih hrest)

theorem fromDecimal_eq_ok {price : ℚ} {currency : String} {money : Money}
    (h : Money.fromDecimal price currency = .ok money) :
    money.minorUnits = Procurement.round (price * 100) := by
  rw [Money.fromDecimal, Money.fromMinorUnits] at h
  obtain ⟨_, _, h⟩ := of_bind_ok h
  obtain ⟨_, _, h⟩ := of_bind_ok h
  cases h
  simp

theorem mapLine_eq_ok {index : Nat} {line : RawLine} {input : InvoiceLineInput}
    (h : InvoiceRecurringLineService.mapLine index line = .ok input) :
    line = ⟨some input.description, some input.quantity, some input.unitPrice⟩ := by
  obtain ⟨description, quantity, unitPrice⟩ := line
  rw [InvoiceRecurringLineService.mapLine] at h
  obtain ⟨_, hrequired, h⟩ := of_bind_ok h
  have hnonempty := require_eq_ok.mp hrequired
  cases quantity with
  | none => cases h
  | some quantity =>
    cases unitPrice with
    | none => cases h
    | some unitPrice =>
      cases h
      cases description with
      | none => exact absurd rfl hnonempty
      | some description => rfl

theorem mapLines_eq_ok {index : Nat} {lines : List RawLine} {inputs : List InvoiceLineInput}
    (h : InvoiceRecurringLineService.mapLines index lines = .ok inputs) :
    lines = inputs.map fun input =>
      ⟨some input.description, some input.quantity, some input.unitPrice⟩ := by
  induction lines generalizing index inputs with
  | nil =>
    cases h
    rfl
  | cons line rest ih =>
    rw [InvoiceRecurringLineService.mapLines] at h
    obtain ⟨input, hinput, h⟩ := of_bind_ok h
    obtain ⟨others, hothers, h⟩ := of_bind_ok h
    cases h
    rw [List.map_cons, ← ih hothers, ← mapLine_eq_ok hinput]

theorem validateAndMap_eq_ok {lines : List RawLine} {inputs : List InvoiceLineInput}
    (h : InvoiceRecurringLineService.validateAndMap lines = .ok inputs) :
    lines = inputs.map fun input =>
      ⟨some input.description, some input.quantity, some input.unitPrice⟩ := by
  obtain ⟨_, _, h⟩ := of_bind_ok h
  exact mapLines_eq_ok h

theorem createLine_bills {currency : String} {input : InvoiceLineInput} {line : InvoiceLine}
    (h : InvoiceFactory.createLine currency input = .ok line) :
    Bills ⟨some input.description, some input.quantity, some input.unitPrice⟩
      (PrismaInvoiceMapper.toLine line) := by
  obtain ⟨unitPrice, hprice, h⟩ := of_bind_ok h
  obtain ⟨_, _, h⟩ := of_bind_ok h
  obtain ⟨_, _, h⟩ := of_bind_ok h
  cases h
  refine ⟨⟨_, rfl, rfl⟩, rfl, _, rfl, ?_⟩
  rw [PrismaInvoiceMapper.toLine, amount, fromDecimal_eq_ok hprice]

/-- An invoice that is created from the lines of a template has all of them. -/
theorem createInvoice_bills {abac : AbacCheck → AbacDecision} {ctx : RequestContext}
    {drawn : Drawn} {input : CreateInvoiceRequest} {row : InvoiceRow} {events : List InvoiceEvent}
    {lines : List RawLine}
    (hlines : InvoiceRecurringLineService.validateAndMap lines = .ok input.lines)
    (h : createInvoice abac ctx drawn input = .ok (row, events)) :
    row.id = drawn.invoiceId ∧ List.Forall₂ Bills lines row.lines := by
  obtain ⟨_, _, h⟩ := of_bind_ok h
  obtain ⟨⟨invoice, created⟩, hcreate, h⟩ := of_bind_ok h
  obtain ⟨row', hrow, h⟩ := of_bind_ok h
  cases h
  obtain ⟨_, _, hcreate⟩ := of_bind_ok hcreate
  obtain ⟨made, hmade, hcreate⟩ := of_bind_ok hcreate
  obtain ⟨number, _, hcreate⟩ := of_bind_ok hcreate
  obtain ⟨_, _, hcreate⟩ := of_bind_ok hcreate
  cases hcreate
  obtain ⟨_, _, hrow⟩ := of_bind_ok hrow
  cases hrow
  refine ⟨rfl, ?_⟩
  rw [validateAndMap_eq_ok hlines, List.forall₂_map_left_iff, List.forall₂_map_right_iff]
  exact (forall₂_of_mapM_ok hmade).imp fun _ _ hline => createLine_bills hline

end Lines

end DddBoilerplate.Sales
