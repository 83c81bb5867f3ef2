/- module: DddBoilerplate/Sales/RecurringInvoice
   generality: I
   digest: Generating the invoice of an execution, each transaction on its own, beside a sweep. -/

import DddBoilerplate.Concurrency.Entries
import DddBoilerplate.Recurring.Templates
import DddBoilerplate.Sales.Invoice

set_option autoImplicit false
set_option relaxedAutoImplicit false
set_option linter.all false

namespace DddBoilerplate.Sales

open Concurrency
open Procurement (Failure RequestContext AbacCheck AbacDecision)
open Recurring (RecurringExecution ExecutionStatus)

section Statements

/-- `RecurringOccurrenceRequestedPayload`, as the consumer reads it. -/
structure OccurrencePayload where
  executionId : String
  targetEntityType : String
  partyId : Option String
  currency : String
  autoPost : Bool
  tenantId : Option String
  lines : List RawLine

/-- The execution of an event, with the time it was claimed at, and the invoices that have been
committed for it; the last reading of the clock. -/
structure InvoicingDb where
  execution : RecurringExecution
  createdAt : Nat
  invoices : List InvoiceRow
  outbox : List InvoiceEvent
  now : Nat

/-- What is done in one transaction: a statement, or a use case that opens one. -/
inductive InvoicingStatement where
  | findExecution
  | createInvoice (input : CreateInvoiceRequest)
  | getInvoice (id : String)
  | completeExecution (documentId : String)
  | failExecution (message : String)
  | postInvoice (id : String)
  | clock
  | findStale (createdAtOlderThan : Nat)
  | failStale

@[reducible] def InvoicingStatement.Answer : InvoicingStatement → Type
  | findExecution => Option RecurringExecution
  | createInvoice _ => Except String String
  | getInvoice _ => Except String InvoiceRow
  | completeExecution _ => Except String Unit
  | failExecution _ => Unit
  | postInvoice _ => Except String Unit
  | clock => Nat
  | findStale _ => Bool
  | failStale => Unit

abbrev InvoicingStatement.interface : Interface := ⟨InvoicingStatement, InvoicingStatement.Answer⟩

/-- What becomes of a transaction: it fails before it is committed, or the connection is lost
after. -/
inductive Outcome where
  | committed
  | failed (message : String)
  | unacknowledged (message : String)
  deriving DecidableEq

def Outcome.reply {α : Type} (outcome : Outcome) (a : α) (before after : InvoicingDb) :
    Except String α × InvoicingDb :=
  match outcome with
  | committed => (.ok a, after)
  | failed message => (.error message, before)
  | unacknowledged message => (.error message, after)

inductive InvoicingChoice where
  | answers
  | creates (drawn : Drawn) (outcome : Outcome)
  | writes (outcome : Outcome)
  | reads (outcome : Except String Unit)
  | clock (reading : Nat)
  | limits (selected : Bool)

variable (abac : AbacCheck → AbacDecision) (ctx : RequestContext)

/-- `complete`, `fail` and `failStale` on the execution: what is settled stays. -/
def settleExecution (settle : RecurringExecution → RecurringExecution) (s : InvoicingDb) :
    InvoicingDb :=
  if s.execution.status = .inProgress then { s with execution := settle s.execution } else s

def completed (documentId : String) (execution : RecurringExecution) : RecurringExecution :=
  { execution with status := .success, generatedDocumentId := some documentId }

/-- `SweepStaleExecutionsUseCase`'s message. -/
def staleMessage : String := "Consumer did not complete execution in time"

/-- `PostInvoiceUseCase.execute` by its identifier. -/
def postById (id : String) (s : InvoicingDb) : Except Failure InvoicingDb :=
  match s.invoices.find? fun row => row.id = id ∧ ctx.owns row.tenantId = true with
  | none => .error ⟨404, "Invoice not found"⟩
  | some row => do
    let (posted, events) ← postInvoice s.now row
    return { s with
      invoices := s.invoices.map fun other => if other.id = id then posted else other
      outbox := s.outbox ++ events }

/-- The read side answers with the row, or does not see it yet. -/
def readInvoice (id : String) (s : InvoicingDb) : Except String InvoiceRow :=
  match s.invoices.find? fun row => row.id = id ∧ ctx.owns row.tenantId = true with
  | none => .error "Invoice not found"
  | some row => .ok row

def InvoicingStatement.serve : (q : InvoicingStatement) → InvoicingChoice → InvoicingDb →
    Option (q.Answer × InvoicingDb)
  | findExecution, .answers, s => some (some s.execution, s)
  | createInvoice input, .creates drawn outcome, s =>
    match Sales.createInvoice abac ctx drawn input with
    | .error failure => some (.error failure.message, s)
    | .ok (row, events) =>
      some (outcome.reply row.id s
        { s with invoices := s.invoices ++ [row], outbox := s.outbox ++ events })
  | getInvoice id, .reads outcome, s => some (outcome.bind fun _ => readInvoice ctx id s, s)
  | completeExecution documentId, .writes outcome, s =>
    some (outcome.reply () s (settleExecution (completed documentId) s))
  | failExecution message, .answers, s => some ((), settleExecution (·.fail message) s)
  | postInvoice id, .writes outcome, s =>
    match postById ctx id s with
    | .error failure => some (.error failure.message, s)
    | .ok s' => some (outcome.reply () s s')
  | clock, .clock reading, s =>
    if s.now ≤ reading then some (reading, { s with now := reading }) else none
  | findStale createdAtOlderThan, .limits selected, s =>
    some (selected && decide (s.execution.status = .inProgress ∧ s.createdAt < createdAtOlderThan),
      s)
  | failStale, .answers, s => some ((), settleExecution (·.fail staleMessage) s)
  | _, _, _ => none

end Statements

section Programs

abbrev InvoicingProgram := Program InvoicingStatement.interface

def invoiceRequest (command : OccurrencePayload) (lines : List InvoiceLineInput) :
    CreateInvoiceRequest :=
  ⟨command.partyId.getD "", some command.currency, lines⟩

/-- The body of the `try`. -/
def generate (command : OccurrencePayload) : InvoicingProgram Unit :=
  match InvoiceRecurringLineService.validateAndMap command.lines with
  | .error failure => .fail failure.message
  | .ok lines =>
    .ask (.createInvoice (invoiceRequest command lines)) fun created =>
      Program.lift created >>= fun invoiceId => .ask (.getInvoice invoiceId) fun found =>
        Program.lift found >>= fun _ => .ask (.completeExecution invoiceId) fun done =>
          Program.lift done >>= fun _ =>
            if command.autoPost then .ask (.postInvoice invoiceId) fun _ => .done ()
            else .done ()

/-- `GenerateRecurringInvoiceUseCase.run` -/
def run (command : OccurrencePayload) : InvoicingProgram Unit :=
  if command.targetEntityType ≠ "" ∧ command.targetEntityType ≠ "Invoice" then .done ()
  else if command.executionId = "" then
    .fail "RecurringOccurrenceRequested.executionId is required"
  else if command.partyId.getD "" = "" then
    .fail "Recurring Invoice occurrence requires a customer partyId"
  else
    .ask .findExecution fun
      | none => .done ()
      | some execution =>
        if execution.status ≠ .inProgress then .done ()
        else
          (generate command).handle (fun _ => .done ()) fun message =>
            .ask (.failExecution message) fun _ => .done ()

/-- `onRecurringOccurrenceRequested`, of a delivery the inbox lets through. -/
def onRecurringOccurrenceRequested (command : OccurrencePayload) : InvoicingProgram Unit :=
  if command.targetEntityType ≠ "Invoice" then .done () else run command

/-- `STALE_EXECUTION_MS` -/
def staleExecutionMs : Nat := 60 * 60000

/-- `SweepStaleExecutionsUseCase.run` -/
def sweepStaleExecutions : InvoicingProgram Unit :=
  .ask .clock fun now => .ask (.findStale (now - staleExecutionMs)) fun found =>
    if found then .ask .failStale fun _ => .done () else .done ()

inductive InvoicingEntry where
  | delivery
  | sweep
  deriving DecidableEq

/-- The context of the generation: what `toData` copies of the listener's, patched. -/
def generationContext (ctx : RequestContext) (command : OccurrencePayload) : RequestContext where
  tenantId := command.tenantId
  companyId := ctx.companyId
  userId := ctx.userId
  roles := ctx.roles
  defaultCurrency := none
  autoApproveThreshold := none
  overReceiptTolerance := none

/-- One event: its deliveries, any number of times, and the sweeps. -/
abbrev invoicingSystem (abac : AbacCheck → AbacDecision) (ctx : RequestContext)
    (command : OccurrencePayload) : System where
  interface := InvoicingStatement.interface
  Store := InvoicingDb
  Choice := InvoicingChoice
  Entry := InvoicingEntry
  program
    | .delivery => onRecurringOccurrenceRequested command
    | .sweep => sweepStaleExecutions
  serve := InvoicingStatement.serve abac (generationContext ctx command)

/-- The execution has been claimed, and its event has been appended. -/
def claimedDb (execution : RecurringExecution) (createdAt : Nat) : InvoicingDb where
  execution := { execution with status := .inProgress, generatedDocumentId := none }
  createdAt := createdAt
  invoices := []
  outbox := []
  now := createdAt

end Programs

section Statement

variable {abac : AbacCheck → AbacDecision} {ctx : RequestContext} {command : OccurrencePayload}

/-- The handling of the event has ended: its execution is settled, or a delivery has returned. -/
def HandlingEnded (trace : List (Label (invoicingSystem abac ctx command)))
    (P : Pool (invoicingSystem abac ctx command)) : Prop :=
  P.store.execution.status ≠ .inProgress ∨
    ∃ i : Nat, (entries trace)[i]? = some InvoicingEntry.delivery ∧
      P.threads[i]? = some (Program.done ())

/-- One invoice at most, and in the end a success exactly if there is one with all lines. -/
structure GeneratedOnce (trace : List (Label (invoicingSystem abac ctx command)))
    (P : Pool (invoicingSystem abac ctx command)) : Prop where
  once : P.store.invoices.length ≤ 1
  ended : HandlingEnded trace P → (P.store.execution.status = .success ↔
    ∃ row ∈ P.store.invoices, List.Forall₂ Bills command.lines row.lines)

/-- A delivery that has found the execution in progress and has not settled it yet. -/
def handling : Front InvoicingStatement.interface → Bool
  | .asks (.createInvoice _) | .asks (.getInvoice _) | .asks (.completeExecution _)
  | .asks (.failExecution _) => true
  | _ => false

/-- No invoice has been committed for the execution, and no delivery is about to do so. -/
def Untouched (P : Pool (invoicingSystem abac ctx command)) : Prop :=
  P.store.invoices = [] ∧ ∀ p ∈ P.threads, handling p.front = false

/-- An execution in progress is looked up for a delivery, or failed by a sweep, when it is
untouched only, and a delivery that has committed an invoice does not fail it. -/
def Undisturbed (P : Pool (invoicingSystem abac ctx command)) :
    Label (invoicingSystem abac ctx command) → Prop
  | .served _ .findExecution _ _ => P.store.execution.status = .inProgress → Untouched P
  | .served _ .failStale _ _ => P.store.execution.status = .inProgress → Untouched P
  | .served _ (.failExecution _) _ _ =>
    P.store.execution.status = .inProgress → P.store.invoices = []
  | _ => True

end Statement

section Fronts

variable (command : OccurrencePayload)

/-- Where a program goes on after an answer. -/
def follow : (q : InvoicingStatement) → q.Answer → Front InvoicingStatement.interface → Prop
  | .findExecution, found, front =>
    front = .finished ∧ (∀ execution, found = some execution → execution.status ≠ .inProgress) ∨
      ∃ execution, found = some execution ∧ execution.status = .inProgress ∧
        ((∃ lines, InvoiceRecurringLineService.validateAndMap command.lines = .ok lines ∧
            front = .asks (.createInvoice (invoiceRequest command lines))) ∨
          ∃ message, front = .asks (.failExecution message))
  | .createInvoice _, .ok id, front => front = .asks (.getInvoice id)
  | .createInvoice _, .error message, front => front = .asks (.failExecution message)
  | .getInvoice id, .ok _, front => front = .asks (.completeExecution id)
  | .getInvoice _, .error message, front => front = .asks (.failExecution message)
  | .completeExecution id, .ok _, front => front = .finished ∨ front = .asks (.postInvoice id)
  | .completeExecution _, .error message, front => front = .asks (.failExecution message)
  | .failExecution _, _, front => front = .finished
  | .postInvoice _, _, front => front = .finished
  | .clock, now, front => front = .asks (.findStale (now - staleExecutionMs))
  | .findStale _, found, front => front = if found then .asks .failStale else .finished
  | .failStale, _, front => front = .finished

variable {command}

theorem linked_delivery : Linked (follow command) (onRecurringOccurrenceRequested command) := by
  have hfails : ∀ message, Linked (follow command)
      (.ask (.failExecution message) fun _ => .done () : InvoicingProgram Unit) :=
    fun message _ => ⟨rfl, trivial⟩
  rw [onRecurringOccurrenceRequested]
  split
  · trivial
  rw [run]
  split
  · trivial
  split
  · trivial
  split
  · trivial
  intro found
  cases found with
  | none => exact ⟨.inl ⟨rfl, fun _ h => nomatch h⟩, trivial⟩
  | some execution =>
    dsimp only
    split
    · rename_i hsettled
      refine ⟨.inl ⟨rfl, ?_⟩, trivial⟩
      rintro other ⟨⟩
      exact hsettled
    rename_i hopen
    have hopen := not_not.mp hopen
    rw [generate]
    cases hlines : InvoiceRecurringLineService.validateAndMap command.lines with
    | error failure => exact ⟨.inr ⟨execution, rfl, hopen, .inr ⟨_, rfl⟩⟩, hfails _⟩
    | ok lines =>
      refine ⟨.inr ⟨execution, rfl, hopen, .inl ⟨lines, hlines, rfl⟩⟩, ?_⟩
      intro created
      cases created with
      | error message => exact ⟨rfl, hfails message⟩
      | ok invoiceId =>
        refine ⟨rfl, ?_⟩
        intro found
        cases found with
        | error message => exact ⟨rfl, hfails message⟩
        | ok row =>
          refine ⟨rfl, ?_⟩
          intro done
          cases done with
          | error message => exact ⟨rfl, hfails message⟩
          | ok u =>
            cases hpost : command.autoPost with
            | false => exact ⟨.inl (by simp [Program.front]), by simp [Linked]⟩
            | true =>
              refine ⟨.inr (by simp [Program.front]), ?_⟩
              exact fun _ => ⟨rfl, trivial⟩

theorem linked_sweep : Linked (follow command) sweepStaleExecutions := by
  intro now
  refine ⟨rfl, ?_⟩
  intro found
  cases found with
  | false => exact ⟨rfl, trivial⟩
  | true => exact ⟨rfl, fun _ => ⟨rfl, trivial⟩⟩

end Fronts

end DddBoilerplate.Sales
