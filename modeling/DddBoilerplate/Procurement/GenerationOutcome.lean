/- module: DddBoilerplate/Procurement/GenerationOutcome
   generality: I
   digest: A recurring order once saved is committed although its execution has failed. -/

import DddBoilerplate.Procurement.Documents
import DddBoilerplate.Procurement.RecurringOrder
import DddBoilerplate.Procurement.Scenario

set_option autoImplicit false
set_option relaxedAutoImplicit false
set_option linter.all false

namespace DddBoilerplate.Procurement.RecurringOrder

open Domain Store
open Recurring (RecurringExecution ExecutionStatus)

section Relations

/-- Unless a statement has failed: the executions are as they were, and so are the orders. -/
def Stays (s t : Session) : Prop :=
  t.committed = s.committed ∧ (t.aborted = false →
    s.aborted = false ∧ t.db.executions = s.db.executions ∧ t.db.orders = s.db.orders)

/-- Unless a statement has failed: the executions are as they were, and the orders are the same
ones, whatever has become of their rows. -/
def Rewrites (s t : Session) : Prop :=
  t.committed = s.committed ∧ (t.aborted = false →
    s.aborted = false ∧ t.db.executions = s.db.executions ∧
      t.db.orders.rows.map (·.id) = s.db.orders.rows.map (·.id))

theorem Stays.refl (s : Session) : Stays s s := ⟨rfl, fun h => ⟨h, rfl, rfl⟩⟩

theorem Stays.trans (s t u : Session) (h : Stays s t) (h' : Stays t u) : Stays s u := by
  refine ⟨h'.1.trans h.1, fun hlive => ?_⟩
  obtain ⟨hlive', hexecutions', horders'⟩ := h'.2 hlive
  obtain ⟨hlive'', hexecutions, horders⟩ := h.2 hlive'
  exact ⟨hlive'', hexecutions'.trans hexecutions, horders'.trans horders⟩

theorem Rewrites.refl (s : Session) : Rewrites s s := ⟨rfl, fun h => ⟨h, rfl, rfl⟩⟩

theorem Rewrites.trans (s t u : Session) (h : Rewrites s t) (h' : Rewrites t u) :
    Rewrites s u := by
  refine ⟨h'.1.trans h.1, fun hlive => ?_⟩
  obtain ⟨hlive', hexecutions', horders'⟩ := h'.2 hlive
  obtain ⟨hlive'', hexecutions, horders⟩ := h.2 hlive'
  exact ⟨hlive'', hexecutions'.trans hexecutions, horders'.trans horders⟩

variable {α : Type} {world : Surroundings} {run : GenerationDb → Reply α}

/-- What a statement leaves. -/
theorem statement_cases (s : Session) :
    (∃ message, statement world run s = (.error message, s) ∧ s.aborted = true) ∨
    (∃ message, ∃ t : Session, statement world run s = (.error message, t) ∧
      t.committed = s.committed ∧ t.aborted = true) ∨
    (∃ message, statement world run s =
        (.error message, { s with statements := s.statements + 1 }) ∧ s.aborted = false ∧
      run s.db = .refuses message) ∨
    ∃ a db, statement world run s =
        (.ok a, { s with statements := s.statements + 1, db := db }) ∧ s.aborted = false ∧
      run s.db = .answers a db := by
  cases haborted : s.aborted with
  | true =>
    refine .inl ⟨"current transaction is aborted, commands ignored until end of transaction block",
      ?_, rfl⟩
    simp [statement, haborted]
  | false =>
    refine .inr ?_
    cases hfails : world.fails s.statements with
    | true =>
      refine .inl ⟨"database error", { s with statements := s.statements + 1, aborted := true },
        ?_, rfl, rfl⟩
      simp [statement, haborted, hfails]
    | false =>
      cases hrun : run s.db with
      | breaks message =>
        refine .inl ⟨message, { s with statements := s.statements + 1, aborted := true }, ?_, rfl,
          rfl⟩
        simp [statement, haborted, hfails, hrun]
      | refuses message =>
        refine .inr (.inl ⟨message, ?_, rfl, rfl⟩)
        simp [statement, haborted, hfails, hrun]
      | answers a db =>
        refine .inr (.inr ⟨a, db, ?_, rfl, rfl⟩)
        simp [statement, haborted, hfails, hrun]

theorem stays_statement (hrun : ∀ db a db', run db = .answers a db' →
    db'.executions = db.executions ∧ db'.orders = db.orders) :
    Method.Keeps Stays (statement world run) := by
  intro s
  rcases @statement_cases α world run s with ⟨message, h, haborted⟩ |
    ⟨message, t, h, hcommitted, haborted⟩ | ⟨message, h, haborted, _⟩ | ⟨a, db, h, haborted, ha⟩
  · rw [Method.after, h]
    exact Stays.refl s
  · rw [Method.after, h]
    exact ⟨hcommitted, fun hlive => absurd (haborted.symm.trans hlive) (by simp)⟩
  · rw [Method.after, h]
    exact ⟨rfl, fun _ => ⟨haborted, rfl, rfl⟩⟩
  · rw [Method.after, h]
    exact ⟨rfl, fun _ => ⟨haborted, hrun _ _ _ ha⟩⟩

theorem rewrites_statement (hrun : ∀ db a db', run db = .answers a db' →
    db'.executions = db.executions ∧
      db'.orders.rows.map (·.id) = db.orders.rows.map (·.id)) :
    Method.Keeps Rewrites (statement world run) := by
  intro s
  rcases @statement_cases α world run s with ⟨message, h, haborted⟩ |
    ⟨message, t, h, hcommitted, haborted⟩ | ⟨message, h, haborted, _⟩ | ⟨a, db, h, haborted, ha⟩
  · rw [Method.after, h]
    exact Rewrites.refl s
  · rw [Method.after, h]
    exact ⟨hcommitted, fun hlive => absurd (haborted.symm.trans hlive) (by simp)⟩
  · rw [Method.after, h]
    exact ⟨rfl, fun _ => ⟨haborted, rfl, rfl⟩⟩
  · rw [Method.after, h]
    exact ⟨rfl, fun _ => ⟨haborted, hrun _ _ _ ha⟩⟩

end Relations

section Steps

variable {wiring : Wiring} {world : Surroundings} {ctx : RequestContext} {α : Type}

theorem rewrites_throws (outcome : Except Failure α) :
    Method.Keeps Rewrites (throws outcome) := Method.Keeps.enforce Rewrites.refl _

theorem throws_ok {outcome : Except Failure α} {a : α} (h : outcome = .ok a) (s : Session) :
    throws outcome s = (.ok a, s) := by
  simp [throws, h, Except.mapError]

theorem rewrites_append (ctx : RequestContext) (id : String) (event : PurchaseOrderEvent) :
    Method.Keeps Rewrites (statement world (appendEvent ctx id event)) :=
  rewrites_statement fun db a db' h => by
    simp only [appendEvent, Reply.answers.injEq] at h
    obtain ⟨_, rfl⟩ := h
    exact ⟨rfl, rfl⟩

theorem rewrites_sendEvents (id : String) (events : List PurchaseOrderEvent) :
    Method.Keeps Rewrites (sendEvents world ctx id events) :=
  Method.Keeps.forM Rewrites.refl Rewrites.trans _ (rewrites_append ctx id) events

theorem rewrites_findOrder (id : String) :
    Method.Keeps Rewrites (statement world (findOrder ctx id)) :=
  rewrites_statement fun db a db' h => by
    simp only [findOrder, Reply.answers.injEq] at h
    obtain ⟨_, rfl⟩ := h
    exact ⟨rfl, rfl⟩

theorem rewrites_updateOrder (po : PurchaseOrder) :
    Method.Keeps Rewrites (statement world (updateOrder ctx po)) :=
  rewrites_statement fun db a db' h => by
    simp only [updateOrder] at h
    split at h
    · cases h
    · split at h
      · split at h
        · cases h
        · simp only [Reply.answers.injEq] at h
          obtain ⟨_, rfl⟩ := h
          exact ⟨rfl, Table.keys_put _ _⟩
      · cases h

theorem rewrites_addPurchaseOrderLine (id : String) (index : Nat) (line : AddLineInput) :
    Method.Keeps Rewrites (addPurchaseOrderLine wiring world ctx id index line) := by
  refine (rewrites_throws _).bind Rewrites.trans fun _ => ?_
  refine (Method.Keeps.enforce Rewrites.refl _).bind Rewrites.trans fun product => ?_
  cases product with
  | none => exact rewrites_throws _
  | some name =>
    refine (rewrites_findOrder id).bind Rewrites.trans fun found => ?_
    cases found with
    | none => exact rewrites_throws _
    | some row =>
      refine (rewrites_throws _).bind Rewrites.trans fun price => ?_
      refine (rewrites_throws _).bind Rewrites.trans fun _ => ?_
      exact (rewrites_updateOrder _).bind Rewrites.trans fun _ => rewrites_sendEvents id _

theorem rewrites_addLines (id : String) (index : Nat) (lines : List AddLineInput) :
    Method.Keeps Rewrites (addLines wiring world ctx id index lines) := by
  induction lines generalizing index with
  | nil => exact Rewrites.refl
  | cons line rest ih =>
    exact (rewrites_addPurchaseOrderLine id index line).bind Rewrites.trans fun _ => ih (index + 1)

/-- An order no other connection sees yet cannot be read back. -/
theorem getPurchaseOrder_fails {id : String} {s : Session}
    (h : s.committed.orders.get? id = none) :
    ∃ message, getPurchaseOrder world ctx id s = (.error message, s) := by
  cases hread : world.readBack with
  | error message => exact ⟨message, by simp [getPurchaseOrder, hread]⟩
  | ok u => exact ⟨_, by simp [getPurchaseOrder, hread, h, throws, Except.mapError]; rfl⟩

end Steps

section Creation

variable {wiring : Wiring} {world : Surroundings} {ctx : RequestContext}
variable {command : OccurrencePayload} {s t : Session}

/-- What the generation checks before it saves the order. -/
structure Creates (wiring : Wiring) (world : Surroundings) (ctx : RequestContext)
    (command : OccurrencePayload) : Prop where
  authorized : authorize wiring ctx "PurchaseOrder" "create" = .ok ()
  orderable : world.vendor = .ok true
  order : ∃ po, PurchaseOrderFactory.create (orderInput world command) world.orderId world.now =
    .ok po

/-- Unless a statement has failed: the executions are as they were, and there is one order more. -/
def Saved (id : String) (s t : Session) : Prop :=
  t.committed = s.committed ∧ (t.aborted = false →
    t.db.executions = s.db.executions ∧ s.db.orders.get? id = none ∧
      t.db.orders.rows.map (·.id) = s.db.orders.rows.map (·.id) ++ [id])

theorem Saved.rewritten {id : String} {u : Session} (h : Saved id s t) (h' : Rewrites t u) :
    Saved id s u := by
  refine ⟨h'.1.trans h.1, fun hlive => ?_⟩
  obtain ⟨hlive', hexecutions', hids'⟩ := h'.2 hlive
  obtain ⟨hexecutions, hfree, hids⟩ := h.2 hlive'
  exact ⟨hexecutions'.trans hexecutions, hfree, hids'.trans hids⟩

theorem toRow_new {po : PurchaseOrder} (hlines : po.lines = []) (tenantId : Option String)
    (companyId : String) (version : Nat) :
    ∃ row, PrismaPurchaseOrderMapper.toRow po tenantId companyId version = .ok row ∧
      row.id = po.id := by
  have hsubtotal : po.subtotal = .ok (Money.zero po.currency) := by
    simp [PurchaseOrder.subtotal, hlines]
    rfl
  cases hrow : PrismaPurchaseOrderMapper.toRow po tenantId companyId version with
  | ok row => exact ⟨row, rfl, (PrismaPurchaseOrderMapper.toRow_eq_ok hrow).1⟩
  | error failure =>
    have htotal : po.total = .ok (Money.zero po.currency) := hsubtotal
    simp [PrismaPurchaseOrderMapper.toRow, hsubtotal, htotal, hlines, bind, Except.bind] at hrow

/-- A factory's order is a new one, without lines. -/
theorem create_new {input : CreatePurchaseOrderInput} {id : String} {now : Nat}
    {po : PurchaseOrder} (h : PurchaseOrderFactory.create input id now = .ok po) :
    po.id = id ∧ po.lines = [] := by
  simp only [PurchaseOrderFactory.create, bind, Except.bind] at h
  split at h
  · cases h
  · split at h
    · cases h
    · obtain rfl := Except.ok.inj h
      exact ⟨rfl, rfl⟩

/-- Saving a new order: it is inserted, or the statement fails. -/
theorem saveOrder_cases {po : PurchaseOrder} (hlines : po.lines = []) (db : GenerationDb) :
    (∃ message, saveOrder ctx po db = .breaks message) ∨
      ∃ row, row.id = po.id ∧ db.orders.get? po.id = none ∧
        saveOrder ctx po db = .answers () { db with orders := db.orders.insert row } := by
  obtain ⟨row, hrow, hid⟩ := toRow_new hlines ctx.tenantId ctx.company 1
  simp only [saveOrder, hrow]
  split
  · rename_i hfree
    rw [hid] at hfree
    exact .inr ⟨row, hid, hfree.1, rfl⟩
  · exact .inl ⟨_, rfl⟩

theorem saved_statement {po : PurchaseOrder} (hlines : po.lines = []) (s : Session) :
    Saved po.id s ((statement world (saveOrder ctx po)).after s) := by
  rcases @statement_cases Unit world (saveOrder ctx po) s with ⟨message, h, haborted⟩ |
    ⟨message, t, h, hcommitted, haborted⟩ | ⟨message, h, haborted, hrefuses⟩ |
    ⟨a, db, h, haborted, hanswers⟩
  · rw [Method.after, h]
    exact ⟨rfl, fun hlive => absurd (haborted.symm.trans hlive) (by simp)⟩
  · rw [Method.after, h]
    exact ⟨hcommitted, fun hlive => absurd (haborted.symm.trans hlive) (by simp)⟩
  · rcases @saveOrder_cases ctx po hlines s.db with ⟨_, hbreaks⟩ | ⟨_, _, _, hinserts⟩
    · rw [hbreaks] at hrefuses
      cases hrefuses
    · rw [hinserts] at hrefuses
      cases hrefuses
  · rw [Method.after, h]
    refine ⟨rfl, fun _ => ?_⟩
    rcases @saveOrder_cases ctx po hlines s.db with ⟨_, hbreaks⟩ | ⟨row, hid, hfree, hinserts⟩
    · rw [hbreaks] at hanswers
      cases hanswers
    · rw [hinserts] at hanswers
      obtain ⟨_, rfl⟩ := Reply.answers.inj hanswers
      refine ⟨rfl, hfree, ?_⟩
      rw [← hid] at hfree ⊢
      simp [Table.rows_insert hfree]

/-- A statement that returned finds its transaction alive. -/
theorem alive_of_statement {α : Type} {run : GenerationDb → Reply α} {a : α}
    (h : statement world run s = (.ok a, t)) :
    s.aborted = false ∧ t.aborted = false ∧ t.committed = s.committed ∧
      run s.db = .answers a t.db := by
  rcases @statement_cases α world run s with ⟨message, h', _⟩ | ⟨message, u, h', _⟩ |
    ⟨message, h', _⟩ | ⟨b, db, h', haborted, hanswers⟩
  · rw [h'] at h
    cases h
  · rw [h'] at h
    cases h
  · rw [h'] at h
    cases h
  · rw [h'] at h
    cases h
    exact ⟨haborted, haborted, rfl, hanswers⟩

/-- What precedes the order neither writes nor reads. -/
theorem authorizeOrder_cases (s : Session) :
    (authorizeOrder wiring world ctx s = (.ok (), s) ∧
        authorize wiring ctx "PurchaseOrder" "create" = .ok () ∧ world.vendor = .ok true) ∨
      ∃ message, authorizeOrder wiring world ctx s = (.error message, s) ∧
        ¬(authorize wiring ctx "PurchaseOrder" "create" = .ok () ∧ world.vendor = .ok true) := by
  cases hauthorize : authorize wiring ctx "PurchaseOrder" "create" with
  | error failure =>
    refine .inr ⟨failure.message, ?_, fun h => by cases h.1⟩
    simp [authorizeOrder, throws, hauthorize, Except.mapError]
  | ok u =>
    cases hvendor : world.vendor with
    | error message =>
      refine .inr ⟨message, ?_, fun h => by cases h.2⟩
      simp [authorizeOrder, throws, hauthorize, hvendor, Except.mapError]
    | ok orderable =>
      cases orderable with
      | false =>
        refine .inr ⟨"Vendor is not orderable (blocked or inactive)", ?_, fun h => by simp at h⟩
        simp [authorizeOrder, throws, hauthorize, hvendor, Except.mapError, require]
      | true =>
        refine .inl ⟨?_, rfl, rfl⟩
        simp [authorizeOrder, throws, hauthorize, hvendor, Except.mapError, require]

/-- A statement that only reads leaves the tables, whatever becomes of it. -/
theorem stays_touch : Method.Keeps Stays (statement world fun db => .answers () db) :=
  stays_statement fun db a db' h => by
    obtain ⟨_, rfl⟩ := Reply.answers.inj h
    exact ⟨rfl, rfl⟩

/-- Refused, the order is not saved. -/
theorem createPurchaseOrder_refused (h : ¬ Creates wiring world ctx command) (s : Session) :
    ∃ message t, createPurchaseOrder wiring world ctx command s = (.error message, t) ∧
      Stays s t := by
  rw [createPurchaseOrder]
  rcases @authorizeOrder_cases wiring world ctx s with ⟨hauthorized, hallowed, hvendor⟩ |
    ⟨message, hrefused, _⟩
  · rw [Method.bind_of_ok hauthorized]
    have hstays := @stays_touch world s
    rcases htouch : statement world (fun db => .answers () db) s with ⟨outcome, t⟩
    rw [Method.after, htouch] at hstays
    cases outcome with
    | error message => exact ⟨message, t, Method.bind_of_error htouch, hstays⟩
    | ok u =>
      rw [Method.bind_of_ok htouch]
      cases hpo : PurchaseOrderFactory.create (orderInput world command) world.orderId
          world.now with
      | ok po => exact absurd ⟨hallowed, hvendor, po, hpo⟩ h
      | error failure => exact ⟨failure.message, t, rfl, hstays⟩
  · exact ⟨message, s, Method.bind_of_error hrefused, Stays.refl s⟩

/-- Not refused, the order is saved, unless a statement fails. -/
theorem createPurchaseOrder_saved (h : Creates wiring world ctx command) (s : Session) :
    Saved world.orderId s ((createPurchaseOrder wiring world ctx command).after s) ∧
      ∀ id t, createPurchaseOrder wiring world ctx command s = (.ok id, t) →
        id = world.orderId ∧ s.db.orders.get? world.orderId = none := by
  obtain ⟨hallowed, hvendor, po, hpo⟩ := h
  obtain ⟨hid, hlines⟩ := create_new hpo
  have hauthorized : authorizeOrder wiring world ctx s = (.ok (), s) := by
    rcases @authorizeOrder_cases wiring world ctx s with ⟨hok, _⟩ | ⟨_, _, hnot⟩
    · exact hok
    · exact absurd ⟨hallowed, hvendor⟩ hnot
  rw [Method.after, createPurchaseOrder, Method.bind_of_ok hauthorized]
  have hstays := @stays_touch world s
  rcases htouch : statement world (fun db => .answers () db) s with ⟨outcome, t⟩
  rw [Method.after, htouch] at hstays
  cases outcome with
  | error message =>
    rw [Method.bind_of_error htouch]
    refine ⟨⟨hstays.1, fun hlive => ?_⟩, fun id t h => by cases h⟩
    rcases @statement_cases Unit world (fun db => .answers () db) s with ⟨_, h, haborted⟩ |
      ⟨_, u, h, _, haborted⟩ | ⟨_, h, _, hrefuses⟩ | ⟨a, db, h, _⟩
    · cases htouch.symm.trans h
      exact absurd (haborted.symm.trans hlive) (by simp)
    · cases htouch.symm.trans h
      exact absurd (haborted.symm.trans hlive) (by simp)
    · cases hrefuses
    · cases htouch.symm.trans h
  | ok u =>
    obtain ⟨_, _, hcommitted, hanswers⟩ := alive_of_statement htouch
    obtain ⟨_, hdb⟩ := Reply.answers.inj hanswers
    rw [Method.bind_of_ok htouch, Method.bind_of_ok (throws_ok hpo t)]
    have hstored := @saved_statement world ctx { po with events := [] } hlines t
    rcases hsave : statement world (saveOrder ctx { po with events := [] }) t with ⟨outcome, u⟩
    rw [Method.after, hsave] at hstored
    have hsaved : Saved world.orderId s u := by
      refine ⟨hstored.1.trans hcommitted, ?_⟩
      rw [hdb, ← hid]
      exact hstored.2
    cases outcome with
    | error message =>
      rw [Method.bind_of_error hsave]
      exact ⟨hsaved, fun id t h => by cases h⟩
    | ok v =>
      rw [Method.bind_of_ok hsave]
      have hsends : Method.Keeps Rewrites (do
          sendEvents world ctx po.id po.events
          return po.id) :=
        (rewrites_sendEvents po.id po.events).bind Rewrites.trans fun _ => Rewrites.refl
      refine ⟨hsaved.rewritten (hsends u), fun id w h => ?_⟩
      obtain ⟨_, _, _, hreturn⟩ := Method.bind_ok h
      cases hreturn
      obtain ⟨_, _, _, hanswers⟩ := alive_of_statement hsave
      rcases @saveOrder_cases ctx { po with events := [] } hlines t.db with ⟨_, hbreaks⟩ |
        ⟨_, _, hfree, _⟩
      · rw [hbreaks] at hanswers
        cases hanswers
      · rw [hdb, ← hid]
        exact ⟨rfl, hfree⟩

end Creation

section Outcome

variable {wiring : Wiring} {world : Surroundings} {ctx : RequestContext}
variable {command : OccurrencePayload} {db db' : GenerationDb} {execution : RecurringExecution}

/-- The order gets as far as being saved: the lines are well formed, the caller may create orders,
the vendor can be ordered from, and the order itself is valid. -/
structure Saves (wiring : Wiring) (world : Surroundings) (ctx : RequestContext)
    (command : OccurrencePayload) : Prop extends Creates wiring world ctx command where
  lines : ∃ lines, validateAndMap command.lines = .ok lines

/-- The execution has succeeded and there is one order more, its own, with all lines; or it has
failed and the orders are as they were. -/
inductive Complete (command : OccurrencePayload) (db db' : GenerationDb) : Prop where
  | generated (execution : RecurringExecution) (row : PurchaseOrderRow)
      (hfound : findExecution db' command.executionId = some execution)
      (hstatus : execution.status = .success)
      (hdocument : execution.generatedDocumentId = some row.id)
      (hrow : row ∈ db'.orders.rows)
      (hids : db'.orders.rows.map (·.id) = db.orders.rows.map (·.id) ++ [row.id])
      (hlines : row.lines.map (fun line => (some line.productId, some (line.quantity : ℚ))) =
        command.lines.map fun line => (line.productId, line.quantity))
  | refused (execution : RecurringExecution)
      (hfound : findExecution db' command.executionId = some execution)
      (hstatus : execution.status = .failed) (horders : db'.orders = db.orders)

/-- The body of the `try` always throws: the order it reads back is not there for the connection
it reads on. -/
theorem generate_throws (s : Session) (hcommitted : s.committed.orders = s.db.orders) :
    ∃ message t, generate wiring world ctx command s = (.error message, t) ∧
      (Saves wiring world ctx command → Saved world.orderId s t) ∧
      (¬ Saves wiring world ctx command → Stays s t) := by
  cases hlines : validateAndMap command.lines with
  | error failure =>
    refine ⟨failure.message, s, ?_, fun h => ?_, fun _ => Stays.refl s⟩
    · simp [generate, throws, hlines, Except.mapError]
    · obtain ⟨lines, hok⟩ := h.lines
      cases hlines.symm.trans hok
  | ok lines =>
    rw [generate, Method.bind_of_ok (throws_ok hlines s)]
    by_cases hcreates : Creates wiring world ctx command
    · have hsaves : Saves wiring world ctx command := ⟨hcreates, lines, hlines⟩
      obtain ⟨hsaved, hreturns⟩ := createPurchaseOrder_saved hcreates s
      rcases hcreate : createPurchaseOrder wiring world ctx command s with ⟨outcome, t⟩
      rw [Method.after, hcreate] at hsaved
      cases outcome with
      | error message =>
        exact ⟨message, t, Method.bind_of_error hcreate, fun _ => hsaved,
          fun hnot => absurd hsaves hnot⟩
      | ok id =>
        obtain ⟨rfl, hfree⟩ := hreturns id t hcreate
        rw [Method.bind_of_ok hcreate]
        have hrewrites := @rewrites_addLines wiring world ctx world.orderId 0 lines t
        rcases hadd : addLines wiring world ctx world.orderId 0 lines t with ⟨outcome, u⟩
        rw [Method.after, hadd] at hrewrites
        have hsaved' := hsaved.rewritten hrewrites
        cases outcome with
        | error message =>
          exact ⟨message, u, Method.bind_of_error hadd, fun _ => hsaved',
            fun hnot => absurd hsaves hnot⟩
        | ok v =>
          rw [Method.bind_of_ok hadd]
          have hunseen : u.committed.orders.get? world.orderId = none := by
            rw [hsaved'.1, hcommitted]
            exact hfree
          obtain ⟨message, hread⟩ := @getPurchaseOrder_fails world ctx world.orderId u hunseen
          exact ⟨message, u, Method.bind_of_error hread, fun _ => hsaved',
            fun hnot => absurd hsaves hnot⟩
    · obtain ⟨message, t, hrefused, hstays⟩ := createPurchaseOrder_refused hcreates s
      exact ⟨message, t, Method.bind_of_error hrefused,
        fun hsaves => absurd hsaves.toCreates hcreates, fun _ => hstays⟩

theorem findExecution_settle {settle : RecurringExecution → RecurringExecution}
    (hfound : findExecution db command.executionId = some execution)
    (hstatus : execution.status = .inProgress)
    (hid : ∀ execution, (settle execution).id = execution.id) :
    (db.executions.map fun execution =>
        if execution.id = command.executionId ∧ execution.status = .inProgress then
          settle execution
        else execution).find? (·.id = command.executionId) = some (settle execution) := by
  have hkeeps : ∀ execution : RecurringExecution,
      (if execution.id = command.executionId ∧ execution.status = .inProgress then
        settle execution else execution).id = execution.id := by
    intro execution
    split
    · exact hid execution
    · rfl
  simp only [List.find?_map, Function.comp_def, hkeeps]
  have hfind : db.executions.find? (·.id = command.executionId) = some execution := hfound
  have hmatches : execution.id = command.executionId := by
    have := List.find?_some hfind
    simpa using this
  rw [hfind, Option.map_some, if_pos ⟨hmatches, hstatus⟩]

/-- The event is for orders, and its execution waits to be generated. -/
def Pending (command : OccurrencePayload) (db : GenerationDb) : Prop :=
  (command.targetEntityType = "" ∨ command.targetEntityType = "PurchaseOrder") ∧
    ∃ execution, findExecution db command.executionId = some execution ∧
      execution.status = .inProgress

theorem throws_fixes {α : Type} {outcome : Except Failure α} {s t : Session}
    {answer : Except String α} (h : throws outcome s = (answer, t)) : t = s := by
  simp only [throws, Method.enforce_apply] at h
  exact (congrArg Prod.snd h).symm

/-- A run that returned did nothing, or its generation was tried. -/
theorem run_returned {s t : Session} (h : run wiring world ctx command s = (.ok (), t)) :
    (¬ Pending command s.db ∧ t.db = s.db) ∨
      Pending command s.db ∧ ∃ u : Session, u.db = s.db ∧ u.committed = s.committed ∧
        caught (generate wiring world ctx command)
          (fun message => statement world (settleExecution command.executionId (failed message)))
          u = (.ok (), t) := by
  rw [run] at h
  split at h
  · rename_i htarget
    cases h
    refine .inl ⟨fun hpending => ?_, rfl⟩
    rcases hpending.1 with hempty | horder
    · exact htarget.1 hempty
    · exact htarget.2 horder
  · rename_i htarget
    obtain ⟨_, s₁, hexecution, hbehind⟩ := Method.bind_ok h
    obtain rfl := throws_fixes hexecution
    obtain ⟨_, s₂, hparty, hreads⟩ := Method.bind_ok hbehind
    obtain rfl := throws_fixes hparty
    obtain ⟨found, u, hfind, hrest⟩ := Method.bind_ok hreads
    obtain ⟨_, _, hcommitted, hanswers⟩ := alive_of_statement hfind
    obtain ⟨hfound, hdb⟩ := Reply.answers.inj hanswers
    cases found with
    | none =>
      cases hrest
      refine .inl ⟨fun hpending => ?_, hdb.symm⟩
      obtain ⟨_, execution, hother, _⟩ := hpending
      cases hfound.symm.trans hother
    | some execution =>
      simp only at hrest
      split at hrest
      · rename_i hstatus
        cases hrest
        refine .inl ⟨fun hpending => ?_, hdb.symm⟩
        obtain ⟨_, execution', hfound', hstatus'⟩ := hpending
        cases hfound.symm.trans hfound'
        exact hstatus hstatus'
      · rename_i hstatus
        refine .inr ⟨⟨?_, execution, hfound, not_not.mp hstatus⟩, u, hdb.symm, hcommitted, hrest⟩
        by_cases hempty : command.targetEntityType = ""
        · exact .inl hempty
        · exact .inr (not_not.mp fun hother => htarget ⟨hempty, hother⟩)

/-- A delivery of an event whose execution is settled changes nothing. -/
theorem execute_settled (h : ¬ Pending command db) :
    (execute wiring world ctx command db).2 = db := by
  simp only [execute, transactional]
  split
  · rename_i t hrun
    rcases run_returned hrun with ⟨_, hdb⟩ | ⟨hpending, _⟩
    · split
      · rfl
      · exact hdb
    · exact absurd hpending h
  · rfl

/-- What a delivery that returned leaves of a waiting execution. -/
theorem execute_returned (hpending : Pending command db)
    (hreturned : execute wiring world ctx command db = (.ok (), db')) :
    (∃ failure, findExecution db' command.executionId = some failure ∧
      failure.status = .failed) ∧
    (Saves wiring world (generationContext ctx command) command →
      db'.orders.rows.map (·.id) = db.orders.rows.map (·.id) ++ [world.orderId]) ∧
    (¬ Saves wiring world (generationContext ctx command) command → db'.orders = db.orders) := by
  simp only [execute, transactional] at hreturned
  split at hreturned
  · rename_i t hrun
    rcases run_returned hrun with ⟨hnot, _⟩ | ⟨⟨_, execution, hfound, hstatus⟩, u, hdb,
      hcommitted, hcaught⟩
    · exact absurd hpending hnot
    have hsame : u.committed.orders = u.db.orders := by rw [hcommitted, hdb]
    obtain ⟨message, v, hthrows, hsaves, hrefuses⟩ :=
      @generate_throws wiring world (generationContext ctx command) command u hsame
    simp only [caught, hthrows] at hcaught
    obtain ⟨halive, halive', _, hanswers⟩ := alive_of_statement hcaught
    obtain ⟨_, hsettled⟩ := Reply.answers.inj hanswers
    rw [if_neg (by simp [halive'])] at hreturned
    obtain rfl := congrArg Prod.snd hreturned
    simp only [← hsettled]
    have hexecutions : v.db.executions = db.executions := by
      by_cases h : Saves wiring world (generationContext ctx command) command
      · rw [((hsaves h).2 halive).1, hdb]
      · rw [((hrefuses h).2 halive).2.1, hdb]
    refine ⟨⟨failed message execution, ?_, rfl⟩, fun h => ?_, fun h => ?_⟩
    · simp only [findExecution, hexecutions]
      exact findExecution_settle hfound hstatus fun _ => rfl
    · rw [((hsaves h).2 halive).2.2, hdb]
    · rw [((hrefuses h).2 halive).2.2, hdb]
  · cases hreturned

/-- The event delivered again, whatever each delivery meets. -/
def redelivered (wiring : Wiring) (command : OccurrencePayload) (db : GenerationDb)
    (deliveries : List (Surroundings × RequestContext)) : GenerationDb :=
  deliveries.foldl (fun db delivery => (execute wiring delivery.1 delivery.2 command db).2) db

theorem redelivered_settled (h : ¬ Pending command db)
    (deliveries : List (Surroundings × RequestContext)) :
    redelivered wiring command db deliveries = db := by
  induction deliveries with
  | nil => rfl
  | cons delivery deliveries ih =>
    rw [redelivered, List.foldl_cons, execute_settled h]
    exact ih

/-- A delivery that returned has generated its order completely or not at all exactly where the
generation fails before the order is saved; delivered again, the event changes nothing. -/
theorem complete_iff_unsaved (wiring : Wiring) (world : Surroundings) (ctx : RequestContext)
    (command : OccurrencePayload) (db db' : GenerationDb) (hpending : Pending command db)
    (hreturned : execute wiring world ctx command db = (.ok (), db'))
    (later : List (Surroundings × RequestContext)) :
    (Complete command db db' ↔
        ¬ Saves wiring world (generationContext ctx command) command) ∧
      redelivered wiring command db' later = db' := by
  obtain ⟨⟨failure, hfailure, hfailed⟩, hsaved, hrefused⟩ := execute_returned hpending hreturned
  refine ⟨⟨?_, ?_⟩, ?_⟩
  · intro hcomplete hsaves
    have hids := hsaved hsaves
    cases hcomplete with
    | generated execution row hfound hstatus =>
      cases hfailure.symm.trans hfound
      cases hfailed.symm.trans hstatus
    | refused execution hfound hstatus horders =>
      rw [horders] at hids
      simp at hids
  · intro hnot
    exact .refused failure hfailure hfailed (hrefused hnot)
  · refine redelivered_settled (fun h => ?_) later
    obtain ⟨_, execution, hfound, hstatus⟩ := h
    cases hfailure.symm.trans hfound
    cases hfailed.symm.trans hstatus

end Outcome

section Example

/-- An order of two bolts that nothing goes wrong with. -/
def boltsEvent : OccurrencePayload :=
  ⟨"e", "PurchaseOrder", some "v", "USD", false, some "t", [⟨some "bolt", some 2, some 1⟩]⟩

def undisturbed : Surroundings where
  vendor := .ok true
  product _ := .ok (some "Bolt")
  readBack := .ok ()
  orderNumber := "PO-1"
  orderId := "po"
  actorId := none
  now := 0
  fails _ := false

def waiting : RecurringExecution where
  id := "e"
  tenantId := some "t"
  scheduleJobId := some "job1"
  runDate := some 20455
  sourceEventId := none
  triggerKey := "2026-01-02"
  generatedDocumentType := "PurchaseOrder"
  generatedDocumentId := none
  conditionEvaluation := none
  status := .inProgress
  skipReason := none
  errorMessage := none

def beforeBolts : GenerationDb := ⟨Table.empty, [waiting], []⟩

def afterBolts : GenerationDb :=
  (execute Scenario.allowing undisturbed (Scenario.officer 0) boltsEvent beforeBolts).2

/-- Nothing goes wrong, the execution has failed, and its order is there with its line. -/
theorem saved_and_failed :
    (execute Scenario.allowing undisturbed (Scenario.officer 0) boltsEvent beforeBolts).1 = .ok () ∧
      afterBolts.orders.rows.map (fun row => (row.id, row.lines.length)) = [("po", 1)] ∧
      ¬ Complete boltsEvent beforeBolts afterBolts := by
  have hfailed : afterBolts.executions.map (·.status) = [.failed] := by decide +kernel
  have horders : afterBolts.orders.rows.map (fun row => (row.id, row.lines.length)) =
      [("po", 1)] := by decide +kernel
  refine ⟨by decide +kernel, horders, ?_⟩
  intro h
  cases h with
  | generated execution row hfound hstatus =>
    have hmem : execution.status ∈ afterBolts.executions.map (·.status) :=
      List.mem_map_of_mem (List.mem_of_find?_eq_some hfound)
    rw [hfailed, hstatus] at hmem
    simp at hmem
  | refused execution hfound hstatus hsame =>
    rw [hsame] at horders
    cases horders

/-- One delivery of the order of two bolts, and one more. -/
theorem complete_iff_unsaved_bolts :
    (Complete boltsEvent beforeBolts afterBolts ↔
        ¬ Saves Scenario.allowing undisturbed
          (generationContext (Scenario.officer 0) boltsEvent) boltsEvent) ∧
      redelivered Scenario.allowing boltsEvent afterBolts [(undisturbed, Scenario.officer 0)] =
        afterBolts :=
  complete_iff_unsaved Scenario.allowing undisturbed (Scenario.officer 0) boltsEvent beforeBolts
    afterBolts ⟨.inr rfl, waiting, by decide, rfl⟩
    (Prod.ext (by decide +kernel) rfl) [(undisturbed, Scenario.officer 0)]

end Example

end DddBoilerplate.Procurement.RecurringOrder
