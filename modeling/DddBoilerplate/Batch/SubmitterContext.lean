/- module: DddBoilerplate/Batch/SubmitterContext
   generality: I
   digest: The context in which a batch or an import is executed, beside that of the request for it. -/

import DddBoilerplate.Batch.Handlers
import DddBoilerplate.Concurrency.History
import DddBoilerplate.Context.Merging
import DddBoilerplate.Import.Stages
import DddBoilerplate.Procurement.Commits
import DddBoilerplate.Procurement.Scenario
import DddBoilerplate.Procurement.Storing

set_option autoImplicit false
set_option relaxedAutoImplicit false
set_option linter.all false

namespace DddBoilerplate.Batch

open Concurrency Domain Procurement Store

section Commands

variable {modules : Modules} {ctx ctx' : RequestContext} {db : ProcurementDb} {stored : BusinessDb}
variable {id : String} {command : Command} {α : Type}

theorem runAlone_findGrn {f : Option GrnRow → Transaction α} :
    (findGrn ctx id >>= f).runAlone modules.serve db =
      (f ((db.grns.get? id).filter fun row => ctx.owns row.tenantId)).runAlone modules.serve db :=
  rfl

theorem runAlone_commit {writes : List Write} :
    (commit writes >>= check).runAlone modules.serve db =
      match writes.foldlM Write.apply db with
      | .ok db' => (.ok (), db')
      | .error failure => (.error failure.message, db) := by
  change (check (modules.serve (.commit writes) db).1).runAlone modules.serve
    (modules.serve (.commit writes) db).2 = _
  simp only [Modules.serve, ProcurementRequest.serve]
  cases writes.foldlM Write.apply db with
  | ok db' => rfl
  | error failure => rfl

theorem authorize_of_no_company {wiring : Wiring} {resource action : String}
    (h : ctx.companyId = none) : authorize wiring ctx resource action =
      .error ⟨404, "Company not found in request context"⟩ := by
  simp only [authorize, h]

/-- Without a company nothing but a receipt is taken in. -/
theorem run_of_no_company (h : ctx.companyId = none) (hcommand : ∀ id, command ≠ .receiveGrn id) :
    (command.run modules ctx stored).2 = stored := by
  have hrefused := fun wiring resource action =>
    @authorize_of_no_company ctx wiring resource action h
  cases command with
  | transitionOrder id verb reason =>
    simp only [Command.run, transact, transitionPurchaseOrder, transactional, hrefused]
    rfl
  | receiveGrn id => exact absurd rfl (hcommand id)
  | postGrn id =>
    simp only [Command.run, transact, Procurement.postGrn, transactional, registerReceipt, hrefused]
    rw [Program.bind_assoc, runAlone_findGrn]
    cases (stored.procurement.grns.get? id).filter fun row => ctx.owns row.tenantId with
    | none => rfl
    | some row => rfl
  | createVendor input id =>
    simp only [Command.run, Party.createVendor, hrefused]
    rfl
  | importOrder input drawn =>
    have hentry : authorizeEntry modules.around.wiring ctx "import" =
        .error ⟨500, "Company not found in request context"⟩ := by
      simp only [authorizeEntry, h]
    simp only [Command.run, importPurchaseOrder, hentry]
    rfl

end Commands

section Receipts

variable {modules : Modules} {ctx ctx' : RequestContext} {db : ProcurementDb} {stored : BusinessDb}
variable {id : String} {row : GrnRow}

/-- What a note is changed to, with no other transaction beside. -/
theorem runAlone_changeGrn {method : GoodReceiptNote.GrnMethod Unit} :
    (changeGrn ctx id method).runAlone modules.serve db =
      match (db.grns.get? id).filter fun row => ctx.owns row.tenantId with
      | none => (.error "GRN not found", db)
      | some row =>
        match method (PrismaGrnMapper.toDomain row) with
        | (.error failure, _) => (.error failure.message, db)
        | (.ok _, grn) =>
          match ([Write.updateGrn ctx grn] ++ appendGrnEvents ctx grn).foldlM Write.apply db with
          | .ok db' => (.ok (), db')
          | .error failure => (.error failure.message, db) := by
  simp only [changeGrn, transactional]
  rw [Program.bind_assoc, runAlone_findGrn]
  cases (db.grns.get? id).filter fun row => ctx.owns row.tenantId with
  | none => rfl
  | some row =>
    dsimp only [perform]
    rcases method (PrismaGrnMapper.toDomain row) with ⟨outcome, grn⟩
    cases outcome with
    | error failure => rfl
    | ok u => exact runAlone_commit

theorem owns_congr (htenant : ctx'.tenantId = ctx.tenantId) : ctx'.owns = ctx.owns := by
  funext tenantId
  simp only [RequestContext.owns, htenant]

theorem writes_congr {grn : GoodReceiptNote} (htenant : ctx'.tenantId = ctx.tenantId)
    (hcompany : ctx'.companyId = ctx.companyId) :
    ([Write.updateGrn ctx' grn] ++ appendGrnEvents ctx' grn).foldlM Write.apply db =
      ([Write.updateGrn ctx grn] ++ appendGrnEvents ctx grn).foldlM Write.apply db := by
  have hupdate : Write.apply db (.updateGrn ctx' grn) = Write.apply db (.updateGrn ctx grn) := by
    simp only [Write.apply, owns_congr htenant]
  have hevents : ∀ (events : List GrnEvent) (db : ProcurementDb),
      (events.map fun event => Write.append ctx' "GoodReceiptNote" grn.id (.grn event)).foldlM
          Write.apply db =
        (events.map fun event => Write.append ctx "GoodReceiptNote" grn.id (.grn event)).foldlM
          Write.apply db := by
    intro events
    induction events with
    | nil => exact fun _ => rfl
    | cons event events ih =>
      intro db
      simp only [List.map_cons, List.foldlM_cons, Write.apply, htenant, hcompany]
      exact ih _
  simp only [List.singleton_append, List.foldlM_cons, hupdate]
  cases Write.apply db (.updateGrn ctx grn) with
  | error failure => rfl
  | ok db' => exact hevents grn.events db'

/-- A receipt reads the tenant, the company and the user, and nothing else of its context. -/
theorem receive_congr (htenant : ctx'.tenantId = ctx.tenantId)
    (hcompany : ctx'.companyId = ctx.companyId) (huser : ctx'.userId = ctx.userId) :
    (Command.receiveGrn id).run modules ctx' stored =
      (Command.receiveGrn id).run modules ctx stored := by
  have hwrites := fun grn => @writes_congr ctx ctx' stored.procurement grn htenant hcompany
  simp only [Command.run, transact, Procurement.receiveGrn, runAlone_changeGrn, huser,
    owns_congr htenant, hwrites]

theorem receive_of_receivable {grn : GoodReceiptNote} {actorId : Option String} {now : Nat}
    (hlines : grn.lines ≠ []) (hstatus : grn.status = .draft ∨ grn.status = .received) :
    ∃ grn', GoodReceiptNote.receive actorId now grn = (.ok (), grn') ∧ grn'.id = grn.id ∧
      grn'.version = grn.version ∧ grn'.lines = grn.lines := by
  have hcount : grnHasLines grn.lines.length = .ok () :=
    require_eq_ok.mpr (List.length_pos_iff.mpr hlines)
  have htransition : grnStatusTransition grn.status .received = .ok () := by
    rcases hstatus with hstatus | hstatus
    · rw [hstatus]
      rfl
    · rw [hstatus]
      rfl
  have hreceive : GoodReceiptNote.receive actorId now grn =
      (.ok (), { grn with
        status := .received
        receivedAt := some now
        receivedBy := actorId
        updatedAt := now
        events := grn.events ++ [GrnEvent.grnReceived grn.id] }) := by
    unfold GoodReceiptNote.receive
    rw [Method.this_bind, hcount, Method.enforce_ok_bind, htransition, Method.enforce_ok_bind]
    rfl
  exact ⟨_, hreceive, rfl, rfl, rfl⟩

theorem receive_of_not_receivable {grn : GoodReceiptNote} {actorId : Option String} {now : Nat}
    (h : grn.lines = [] ∨ grn.status ≠ .draft ∧ grn.status ≠ .received) :
    ∃ failure, GoodReceiptNote.receive actorId now grn = (.error failure, grn) := by
  unfold GoodReceiptNote.receive
  rw [Method.this_bind]
  rcases Method.enforce_bind_cases (grnHasLines grn.lines.length) _ grn with
    ⟨failure, _, heq⟩ | ⟨_, hcount, heq⟩
  · exact ⟨failure, heq⟩
  · rw [heq]
    have hlines : grn.lines ≠ [] := List.length_pos_iff.mp (require_eq_ok.mp hcount)
    have htransition : grnStatusTransition grn.status .received =
        .error ⟨422, "Invalid status transition for GRN"⟩ := by
      rcases h with h | ⟨hdraft, hreceived⟩
      · exact absurd h hlines
      · cases hstatus : grn.status with
        | draft => exact absurd hstatus hdraft
        | received => exact absurd hstatus hreceived
        | posted | inspected | matched | completed | cancelled | reversed => rfl
    rw [htransition]
    exact ⟨_, rfl⟩

/-- A note that may be received is written anew, so its version goes up. -/
theorem receive_writes (hfound : (stored.procurement.grns.get? id).filter (fun row =>
      ctx.owns row.tenantId) = some row) (hlines : row.lines ≠ [])
    (hstatus : row.status = .draft ∨ row.status = .received) :
    ((Command.receiveGrn id).run modules ctx stored).2 ≠ stored := by
  obtain ⟨hget, howned⟩ := Option.filter_eq_some_iff.mp hfound
  have hid : row.id = id := Table.key_of_get? hget
  have hdomain : (PrismaGrnMapper.toDomain row).lines ≠ [] := by
    simpa [PrismaGrnMapper.toDomain] using hlines
  obtain ⟨grn, hreceive, hgrnId, hversion, hkept⟩ :=
    @receive_of_receivable _ (none.or ctx.userId) modules.now hdomain hstatus
  have hstorable : grn.Storable := by
    obtain ⟨hwhole, hdistinct⟩ := PrismaGrnMapper.storable_toDomain row
    exact ⟨fun line hline => hwhole line (hkept ▸ hline), hkept ▸ hdistinct⟩
  obtain ⟨written, hwritten⟩ := PrismaGrnMapper.toRow_of_storable hstorable row.tenantId
    row.companyId (row.version + 1)
  obtain ⟨outbox, _, houtbox⟩ := @foldlM_append
    { stored.procurement with grns := stored.procurement.grns.put written } ctx _ DomainEvent.grn
    "GoodReceiptNote" grn.id grn.events
  have hsaved : ([Write.updateGrn ctx grn] ++ appendGrnEvents ctx grn).foldlM Write.apply
      stored.procurement = .ok
        { stored.procurement with
          grns := stored.procurement.grns.put written
          outbox := outbox } := by
    have hgrn : stored.procurement.grns.get? grn.id = some row := by
      rw [hgrnId.trans hid]
      exact hget
    have hcurrent : row.version = grn.version := hversion.symm
    have hupdate : Write.apply stored.procurement (.updateGrn ctx grn) = .ok
        { stored.procurement with grns := stored.procurement.grns.put written } := by
      simp only [Write.apply, hgrn]
      rw [if_pos ⟨hcurrent, howned⟩, hwritten]
    rw [List.singleton_append, List.foldlM_cons, hupdate]
    exact houtbox
  have hrun : ((Command.receiveGrn id).run modules ctx stored).2.procurement.grns =
      stored.procurement.grns.put written := by
    simp only [Command.run, transact, Procurement.receiveGrn, runAlone_changeGrn, hfound, hreceive,
      hsaved]
  obtain ⟨hdomainOf, _, _⟩ := PrismaGrnMapper.toRow_eq_some hwritten
  have hwrittenId : written.id = id :=
    (congrArg GoodReceiptNote.id hdomainOf).trans (hgrnId.trans hid)
  have hwrittenVersion : written.version = row.version + 1 :=
    congrArg GoodReceiptNote.version hdomainOf
  intro hsame
  rw [hsame] at hrun
  have hput : (stored.procurement.grns.put written).get? id = some written := by
    rw [Table.get?_put (hwrittenId.symm ▸ hget) id, if_pos hwrittenId]
  rw [← hrun, hget] at hput
  cases hput
  omega

/-- A note that may not be received stays as it is. -/
theorem receive_refused (hfound : (stored.procurement.grns.get? id).filter (fun row =>
      ctx.owns row.tenantId) = some row)
    (h : row.lines = [] ∨ row.status ≠ .draft ∧ row.status ≠ .received) :
    ((Command.receiveGrn id).run modules ctx stored).2 = stored := by
  have hdomain : (PrismaGrnMapper.toDomain row).lines = [] ∨
      (PrismaGrnMapper.toDomain row).status ≠ .draft ∧
        (PrismaGrnMapper.toDomain row).status ≠ .received := by
    refine h.imp (fun hlines => ?_) fun hstatus => hstatus
    simp [PrismaGrnMapper.toDomain, hlines]
  obtain ⟨failure, hreceive⟩ :=
    @receive_of_not_receivable _ (none.or ctx.userId) modules.now hdomain
  simp only [Command.run, transact, Procurement.receiveGrn, runAlone_changeGrn, hfound, hreceive]

theorem receive_of_missing (hmissing : (stored.procurement.grns.get? id).filter (fun row =>
      ctx.owns row.tenantId) = none) :
    ((Command.receiveGrn id).run modules ctx stored).2 = stored := by
  simp only [Command.run, transact, Procurement.receiveGrn, runAlone_changeGrn, hmissing]

end Receipts

section Outcomes

variable {modules : Modules} {ctx : Context.RequestContext} {call : HandlerCall} {db : BusinessDb}
variable {id : String}

/-- A note that was received is received once more, which a request may do. -/
def Rereceives (ctx : Context.RequestContext) (call : HandlerCall) (db : BusinessDb) : Prop :=
  call.aggregateType = "GoodReceiptNote" ∧ call.operationCode = "receive" ∧
    ∃ row, (db.procurement.grns.get? call.entityId).filter (fun row =>
        (useCaseContext ctx).owns row.tenantId) = some row ∧
      row.status = .received ∧ row.lines ≠ []

theorem commandOf_receive : commandOf call = some (.receiveGrn id) ↔
    call.aggregateType = "GoodReceiptNote" ∧ call.operationCode = "receive" ∧
      call.entityId = id := by
  unfold commandOf
  constructor
  · intro h
    split at h
    · cases hoperation : orderOperation call.operationCode with
      | none => simp [hoperation] at h
      | some verb => simp [hoperation] at h
    · rename_i haggregate
      unfold grnOperation at h
      split at h
      · rename_i hoperation
        simp only [Option.map_some, Option.some.injEq, Command.receiveGrn.injEq] at h
        exact ⟨haggregate, hoperation, h⟩
      · simp at h
      · cases h
    · cases h
  · rintro ⟨haggregate, hoperation, hid⟩
    rw [haggregate, hoperation, hid]
    rfl

/-- The handler of a record that is found leaves what its command leaves. -/
theorem handlerExecute_of_command {uctx : RequestContext} {before : String} {command : Command}
    (hstatus : recordStatus uctx call db = .ok before) (hcommand : commandOf call = some command) :
    (handlerExecute modules uctx call db).2 = (command.run modules uctx db).2 := by
  simp only [handlerExecute, hstatus, hcommand]
  rcases hran : command.run modules uctx db with ⟨outcome, db'⟩
  cases outcome with
  | error message => simp only
  | ok u =>
    cases hafter : recordStatus uctx call db' with
    | error message => simp only [hafter]
    | ok after => simp only [hafter]

/-- What a handler leaves stored is left by its command, or is what there was. -/
theorem handlerExecute_stored {uctx : RequestContext} :
    (handlerExecute modules uctx call db).2 = db ∨
      ∃ command, commandOf call = some command ∧
        (handlerExecute modules uctx call db).2 = (command.run modules uctx db).2 := by
  cases hstatus : recordStatus uctx call db with
  | error message =>
    left
    simp only [handlerExecute, hstatus]
  | ok before =>
    cases hcommand : commandOf call with
    | none =>
      left
      simp only [handlerExecute, hstatus, hcommand]
    | some command => exact .inr ⟨command, rfl, handlerExecute_of_command hstatus hcommand⟩

/-- Without a company, what is no receipt leaves everything as it was, on both ways. -/
theorem stored_of_no_receipt (hrow : (useCaseContext call.requestContext).companyId = none)
    (hcompany : (useCaseContext ctx).companyId = none)
    (hcommand : ∀ id, commandOf call ≠ some (.receiveGrn id)) :
    storedByRow modules call db = db ∧ storedDirectly modules ctx call db = db := by
  have hkept : ∀ uctx : RequestContext, uctx.companyId = none → ∀ command,
      commandOf call = some command → (command.run modules uctx db).2 = db := by
    intro uctx hnone command hof
    refine run_of_no_company hnone fun id heq => hcommand id ?_
    rw [hof, heq]
  constructor
  · simp only [storedByRow]
    cases handlerValidate (useCaseContext call.requestContext) call db with
    | error message => rfl
    | ok verdict =>
      simp only
      split
      · rcases @handlerExecute_stored modules call db (useCaseContext call.requestContext) with
          hsame | ⟨command, hof, hran⟩
        · exact hsame
        · exact hran.trans (hkept _ hrow command hof)
      · rfl
  · unfold storedDirectly
    cases hof : commandOf call with
    | none => rfl
    | some command => exact hkept _ hcompany command hof

/-- What a batch's row leaves of a receipt: only a draft is passed on. -/
theorem storedByRow_receive (haggregate : call.aggregateType = "GoodReceiptNote")
    (hoperation : call.operationCode = "receive") :
    storedByRow modules call db =
      match (db.procurement.grns.get? call.entityId).filter fun row =>
          (useCaseContext call.requestContext).owns row.tenantId with
      | none => db
      | some row =>
        if row.status = .draft then ((Command.receiveGrn call.entityId).run modules
          (useCaseContext call.requestContext) db).2 else db := by
  have hcommand : commandOf call = some (.receiveGrn call.entityId) :=
    commandOf_receive.mpr ⟨haggregate, hoperation, rfl⟩
  have hverdict : handlerValidate (useCaseContext call.requestContext) call db =
      (grnStatus (useCaseContext call.requestContext) call.entityId db).map fun status =>
        preCheck ([GrnStatus.draft].contains status) call.operationCode status.name
          "goods receipt" := by
    simp only [handlerValidate, haggregate, hoperation, grnOperation, Option.map_some,
      Option.getD_some, grnAllowedFrom]
    cases grnStatus (useCaseContext call.requestContext) call.entityId db with
    | error message => rfl
    | ok status => rfl
  simp only [storedByRow, hverdict, grnStatus]
  cases hfound : (db.procurement.grns.get? call.entityId).filter fun row =>
      (useCaseContext call.requestContext).owns row.tenantId with
  | none => rfl
  | some row =>
    have hstatus : recordStatus (useCaseContext call.requestContext) call db =
        .ok row.status.name := by
      have horder : ¬ call.aggregateType = "PurchaseOrder" := by
        rw [haggregate]
        decide
      simp only [recordStatus, if_neg horder, grnStatus, hfound]
      rfl
    have hexecuted := @handlerExecute_of_command modules _ _ _ _ _ hstatus hcommand
    by_cases hdraft : row.status = .draft
    · simp only [Except.map, preCheck, hdraft]
      exact hexecuted
    · have hrefused : [GrnStatus.draft].contains row.status = false := by
        simpa using hdraft
      simp only [Except.map, preCheck, hrefused, if_neg hdraft]
      rfl

/-- A request of the tenant `t`, in no company. -/
def tenantOnly : Context.RequestContext
  | .tenantId => some "t"
  | _ => none

end Outcomes

end DddBoilerplate.Batch
