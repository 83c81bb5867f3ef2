/- module: DddBoilerplate/Procurement/Transactions
   generality: I
   digest: Every transaction, whatever runs beside it, commits only what a commit can be. -/

import DddBoilerplate.Procurement.Commits

set_option autoImplicit false
set_option relaxedAutoImplicit false
set_option linter.all false

namespace DddBoilerplate.Procurement

open Concurrency Domain Messaging Store

/-- What neither writes an order nor a note nor an event. -/
structure Untouched (s s' : ProcurementDb) : Prop where
  orders : s'.orders = s.orders
  grns : s'.grns = s.grns
  outbox : s'.outbox = s.outbox

/-- Where a transaction is once it has committed: at its end, or settling its message. -/
def Settled (front : Front ProcurementRequest.interface) : Prop :=
  front = .finished ∨ ∃ id claimToken now, front = .asks (.inbox (.complete id claimToken now))

variable (wiring : Wiring) (tolerances : ℚ → Prop) (ok : Served)

/-- What a served request does: it commits what a use case commits, or it touches nothing. -/
inductive Guarantees (s : ProcurementDb) :
    (q : ProcurementRequest) → q.Answer → Front ProcurementRequest.interface → ProcurementDb →
      Prop where
  | committed {writes : List Write} {front : Front ProcurementRequest.interface}
      {s' : ProcurementDb} (commits : Committed tolerances ok s writes s')
      (settled : Settled front) : Guarantees s (.commit writes) (.ok ()) front s'
  | refused {writes : List Write} {failure : Failure} {front : Front ProcurementRequest.interface}
      {s' : ProcurementDb} (untouched : Untouched s s') :
      Guarantees s (.commit writes) (.error failure) front s'
  | read {q : ProcurementRequest} {a : q.Answer} {front : Front ProcurementRequest.interface}
      {s' : ProcurementDb} (reads : ∀ writes, q ≠ .commit writes) (untouched : Untouched s s') :
      Guarantees s q a front s'

variable {tolerances ok}

theorem Untouched.grows {s s' : ProcurementDb} (h : Untouched s s') : Grows s s' :=
  Grows.of_same h.orders h.grns

variable (tolerances ok)

/-- Rely: rows have later versions. Guarantee: a commit is one of those a use case makes. -/
def discipline : Discipline (procurementSystem wiring) where
  rely := Grows
  guarantee := Guarantees tolerances ok
  refl := Grows.refl
  trans := Grows.trans
  sound := by
    intro s q a front s' h
    cases h with
    | committed commits _ => exact commits.grows
    | refused untouched => exact untouched.grows
    | read _ untouched => exact untouched.grows

/-- The tolerance a command registers receipts with is one of these. -/
def ProcurementEntry.Tolerates : ProcurementEntry → Prop
  | registerReceipt ctx _ _ => tolerances ctx.tolerance
  | postGrn ctx _ _ _ => tolerances ctx.tolerance
  | reverseGrn ctx _ _ _ _ _ => tolerances ctx.tolerance
  | goodsReceiptPosted _ _ => tolerances 0
  | _ => True

instance decidableTolerates [DecidablePred tolerances] (entry : ProcurementEntry) :
    Decidable (entry.Tolerates tolerances) := by
  unfold ProcurementEntry.Tolerates
  split <;> infer_instance

/-- Whatever the others commit meanwhile, these writes are taken as a use case's commit. -/
def Intends (s : ProcurementDb) (writes : List Write) : Prop :=
  ∀ t t', Grows s t → writes.foldlM Write.apply t = .ok t' → Committed tolerances ok t writes t'

variable {wiring tolerances ok}
variable {s : ProcurementDb}

section Phrases

/-- What goes on with a read goes on with what is committed then. -/
theorem secure_findGrn {β : Type} {ctx : RequestContext} {id : String}
    {f : Option GrnRow → Transaction β} {k : β → Transaction Unit}
    {fails : String → Transaction Unit}
    (hsome : ∀ t row, Grows s t → t.grns.get? row.id = some row → row.id = id →
      (discipline wiring tolerances ok).Secure ok ((f (some row)).handle k fails) t)
    (hnone : ∀ t, (discipline wiring tolerances ok).Secure ok ((f none).handle k fails) t) :
    (discipline wiring tolerances ok).Secure ok ((findGrn ctx id >>= f).handle k fails) s := by
  rintro t hgrows a t' ⟨_, hserve⟩ _
  cases hserve
  refine ⟨.read (fun _ => nofun) ⟨rfl, rfl, rfl⟩, ?_⟩
  cases hfound : (t.grns.get? id).filter fun row => ctx.owns row.tenantId with
  | none => exact hnone t
  | some row =>
    obtain ⟨hrow, _⟩ := Option.filter_eq_some_iff.mp hfound
    have hid : row.id = id := Table.key_of_get? hrow
    exact hsome t row hgrows (by rw [hid]; exact hrow) hid

theorem secure_findOrder {β : Type} {ctx : RequestContext} {id : String}
    {f : Option PurchaseOrderRow → Transaction β} {k : β → Transaction Unit}
    {fails : String → Transaction Unit}
    (hsome : ∀ t row, Grows s t → t.orders.get? row.id = some row → row.id = id →
      ctx.owns row.tenantId = true →
      ok t (.findOrder ctx id) (some row) ((f (some row)).handle k fails).front →
      (discipline wiring tolerances ok).Secure ok ((f (some row)).handle k fails) t)
    (hnone : ∀ t, (discipline wiring tolerances ok).Secure ok ((f none).handle k fails) t) :
    (discipline wiring tolerances ok).Secure ok ((findOrder ctx id >>= f).handle k fails) s := by
  rintro t hgrows a t' ⟨_, hserve⟩ hok
  cases hserve
  refine ⟨.read (fun _ => nofun) ⟨rfl, rfl, rfl⟩, ?_⟩
  cases hfound : (t.orders.get? id).filter fun row => ctx.owns row.tenantId with
  | none => exact hnone t
  | some row =>
    simp only [hfound] at hok
    obtain ⟨hrow, howned⟩ := Option.filter_eq_some_iff.mp hfound
    have hid : row.id = id := Table.key_of_get? hrow
    exact hsome t row hgrows (by rw [hid]; exact hrow) hid howned hok

theorem secure_hasReceipts {β : Type} {ctx : RequestContext} {id : String}
    {f : Bool → Transaction β} {k : β → Transaction Unit} {fails : String → Transaction Unit}
    (hf : ∀ t a, Grows s t → (∀ row, t.orders.get? id = some row →
      ctx.owns row.tenantId = true → a = row.hasReceipts) →
      (discipline wiring tolerances ok).Secure ok ((f a).handle k fails) t) :
    (discipline wiring tolerances ok).Secure ok ((hasReceipts ctx id >>= f).handle k fails) s := by
  rintro t hgrows a t' ⟨_, hserve⟩ _
  cases hserve
  refine ⟨.read (fun _ => nofun) ⟨rfl, rfl, rfl⟩, hf _ _ hgrows fun row hrow howned => ?_⟩
  rw [hrow, Option.filter_some, if_pos howned]
  rfl

theorem secure_findByReversalOfId {β : Type} {ctx : RequestContext} {id : String}
    {f : Option GrnRow → Transaction β} {k : β → Transaction Unit}
    {fails : String → Transaction Unit}
    (hf : ∀ t a, Grows s t →
      (discipline wiring tolerances ok).Secure ok ((f a).handle k fails) t) :
    (discipline wiring tolerances ok).Secure ok
      ((findByReversalOfId ctx id >>= f).handle k fails) s := by
  rintro t hgrows a t' ⟨_, hserve⟩ _
  cases hserve
  exact ⟨.read (fun _ => nofun) ⟨rfl, rfl, rfl⟩, hf _ _ hgrows⟩

theorem secure_inbox {q : InboxRequest} {next : q.Answer → Transaction Unit}
    (hnext : ∀ t a, (discipline wiring tolerances ok).Secure ok (next a) t) :
    (discipline wiring tolerances ok).Secure ok (.ask (ProcurementRequest.inbox q) next) s := by
  rintro t hgrows a t' ⟨_, hserve⟩ _
  cases hserve
  exact ⟨.read (fun _ => nofun) ⟨rfl, rfl, rfl⟩, hnext _ _⟩

theorem secure_check {α β : Type} {m : Except Failure α} {f : α → Transaction β}
    {k : β → Transaction Unit} {fails : String → Transaction Unit}
    (hok : ∀ a, m = .ok a →
      (discipline wiring tolerances ok).Secure ok ((f a).handle k fails) s)
    (hfails : ∀ e, (discipline wiring tolerances ok).Secure ok (fails e) s) :
    (discipline wiring tolerances ok).Secure ok ((check m >>= f).handle k fails) s := by
  cases m with
  | ok a => exact hok a rfl
  | error e => exact hfails e.message

theorem perform_ok_bind {σ α β : Type} {m : Method Failure σ α} {object after : σ} {a : α}
    (h : m object = (.ok a, after)) (f : σ → Transaction β) (k : β → Transaction Unit)
    (fails : String → Transaction Unit) :
    (perform m object >>= f).handle k fails = (f after).handle k fails := by
  unfold perform
  rw [h]
  rfl

theorem perform_error_bind {σ α β : Type} {m : Method Failure σ α} {object after : σ} {e : Failure}
    (h : m object = (.error e, after)) (f : σ → Transaction β) (k : β → Transaction Unit)
    (fails : String → Transaction Unit) :
    (perform m object >>= f).handle k fails = fails e.message := by
  unfold perform
  rw [h]
  rfl

theorem secure_perform {σ α β : Type} {m : Method Failure σ α} {object : σ}
    {f : σ → Transaction β} {k : β → Transaction Unit} {fails : String → Transaction Unit}
    (hok : ∀ a after, m object = (.ok a, after) →
      (discipline wiring tolerances ok).Secure ok ((f after).handle k fails) s)
    (hfails : ∀ e, (discipline wiring tolerances ok).Secure ok (fails e) s) :
    (discipline wiring tolerances ok).Secure ok ((perform m object >>= f).handle k fails) s := by
  rcases hrun : m object with ⟨outcome, after⟩
  cases outcome with
  | ok a =>
    rw [perform_ok_bind hrun]
    exact hok a after hrun
  | error e =>
    rw [perform_error_bind hrun]
    exact hfails e.message

/-- A body that only commits what it may is secure as a transaction. -/
theorem secure_transactional {body : Transaction (List Write)} {k : Unit → Transaction Unit}
    {fails : String → Transaction Unit}
    (hbody : ∀ next : List Write → Transaction Unit,
      (∀ writes, (next writes).front = .asks (.commit writes)) →
      (∀ writes t, Intends tolerances ok t writes →
        (discipline wiring tolerances ok).Secure ok (next writes) t) →
      (discipline wiring tolerances ok).Secure ok (body.handle next fails) s)
    (hsettled : Settled (k ()).front)
    (hk : ∀ t, (discipline wiring tolerances ok).Secure ok (k ()) t)
    (hfails : ∀ e t, (discipline wiring tolerances ok).Secure ok (fails e) t) :
    (discipline wiring tolerances ok).Secure ok ((transactional body).handle k fails) s := by
  unfold transactional
  rw [Program.bind_handle]
  refine hbody _ (fun writes => rfl) fun writes t hintends => ?_
  rintro u hgrows a u' ⟨_, hserve⟩ _
  have hserved := Option.some.inj hserve
  dsimp only [ProcurementRequest.serve] at hserved
  split at hserved
  · rename_i db' hfold
    cases hserved
    exact ⟨.committed (hintends u _ hgrows hfold) hsettled, hk _⟩
  · cases hserved
    exact ⟨.refused ⟨rfl, rfl, rfl⟩, hfails _ _⟩

end Phrases

section Writes

variable {t t' : ProcurementDb} {ctx : RequestContext}

/-- The compare-and-set of an order meets the row that was read. -/
theorem updateOrder_applied {po : PurchaseOrder} {row : PurchaseOrderRow} (hgrows : Grows s t)
    (hread : s.orders.get? row.id = some row)
    (hkey : po.key = (PrismaPurchaseOrderMapper.toDomain row).key)
    (h : Write.apply t (.updateOrder ctx po) = .ok t') :
    t.orders.get? row.id = some row ∧ ∃ new,
      PrismaPurchaseOrderMapper.toRow po row.tenantId row.companyId (row.version + 1) = .ok new ∧
        t' = { t with orders := t.orders.put new } := by
  obtain ⟨stored, new, hstored, hversion, hrow, rfl⟩ := apply_updateOrder h
  simp only [PurchaseOrder.key, PrismaPurchaseOrderMapper.toDomain, Prod.mk.injEq] at hkey
  obtain ⟨hid, hread_version⟩ := hkey
  rw [hid] at hstored
  have hsame := hgrows.order_eq hread hstored (hversion.trans hread_version)
  subst hsame
  exact ⟨hstored, new, hrow, rfl⟩

/-- So does that of a note, also behind writes that leave the notes. -/
theorem updateGrn_applied {u u' : ProcurementDb} {grn : GoodReceiptNote} {row : GrnRow}
    (hgrows : Grows s t) (hread : s.grns.get? row.id = some row)
    (hreference : grn.reference = (PrismaGrnMapper.toDomain row).reference)
    (hgrns : u.grns = t.grns) (h : Write.apply u (.updateGrn ctx grn) = .ok u') :
    t.grns.get? row.id = some row ∧ ∃ new,
      PrismaGrnMapper.toRow grn row.tenantId row.companyId (row.version + 1) = some new ∧
        u' = { u with grns := t.grns.put new } := by
  obtain ⟨stored, new, hstored, hversion, hrow, rfl⟩ := apply_updateGrn h
  simp only [GoodReceiptNote.reference, PrismaGrnMapper.toDomain, Prod.mk.injEq] at hreference
  obtain ⟨hid, hread_version, _, _⟩ := hreference
  rw [hid, hgrns] at hstored
  have hsame := hgrows.grn_eq hread hstored (hversion.trans hread_version)
  subst hsame
  exact ⟨hstored, new, hrow, by rw [hgrns]⟩

/-- Events at the end of a transaction's writes. -/
theorem appended {α : Type} {f : α → DomainEvent} {type id : String} {xs : List α}
    (h : (xs.map fun x => Write.append ctx type id (f x)).foldlM Write.apply t = .ok t') :
    Wrote t t' t.orders t.grns (xs.map f) := by
  obtain ⟨outbox, hevents, hfold⟩ := @foldlM_append t ctx _ f type id xs
  rw [hfold] at h
  cases h
  exact ⟨rfl, rfl, hevents⟩

theorem intends_registered {lines : List ReceiptLine} {actorId : Option String} {now : Nat}
    {row : PurchaseOrderRow} {po : PurchaseOrder} (hadmitted : tolerances ctx.tolerance)
    (hread : s.orders.get? row.id = some row)
    (hopened : PurchaseOrderFactory.openPoForReceipt lines ctx.tolerance actorId now
      (PrismaPurchaseOrderMapper.toDomain row) = (.ok (), po)) :
    Intends tolerances ok s [Write.updateOrder ctx po] := by
  intro t t' hgrows hfold
  obtain ⟨middle, happly, hrest⟩ := foldlM_cons_ok hfold
  cases hrest
  have hkey := (openPoForReceipt_fixes lines ctx.tolerance actorId now).of_returned hopened
  obtain ⟨hstored, new, hwritten, rfl⟩ := updateOrder_applied hgrows hread hkey happly
  exact .registered ⟨hadmitted, hstored, ⟨actorId, now, hopened⟩, hwritten⟩
    ⟨rfl, rfl, (List.append_nil _).symm⟩

theorem intends_transitioned {method : PurchaseOrder.OrderMethod Unit} {row : PurchaseOrderRow}
    {po : PurchaseOrder} {s₀ : ProcurementDb} (hcommand : IsOrderCommand method)
    (hread : s₀.orders.get? row.id = some row) (hgrows₀ : Grows s₀ s)
    (hunreceived : po.status = .cancelled → s.orders.get? row.id = some row →
      row.hasReceipts = false)
    (hreturned : method (PrismaPurchaseOrderMapper.toDomain row) = (.ok (), po)) :
    Intends tolerances ok s ([Write.updateOrder ctx po] ++ appendOrderEvents ctx po) := by
  intro t t' hgrows hfold
  obtain ⟨middle, happly, hrest⟩ := foldlM_cons_ok hfold
  have hkey := congrArg Prod.fst (hcommand.fixes.of_returned hreturned)
  obtain ⟨hstored, new, hwritten, rfl⟩ :=
    updateOrder_applied (hgrows₀.trans hgrows) hread hkey happly
  have hwrote := appended hrest
  -- the row was not written meanwhile, so the receipts were looked for on the row that is written
  have hbetween := hgrows₀.order_between hgrows hread hstored
  exact .transitioned hcommand hstored hreturned (fun hstatus => hunreceived hstatus hbetween)
    hwritten
    ⟨hwrote.orders, hwrote.grns, hwrote.events⟩

theorem intends_created {input : CreateGrnInput} {id : String} {now : Nat} {grn : GoodReceiptNote}
    (hpositive : ∀ line ∈ input.lines, 1 ≤ line.receivedQuantity)
    (hbuilt : GrnFactory.create input id now = .ok grn) :
    Intends tolerances ok s ([Write.saveGrn ctx grn] ++ appendGrnEvents ctx grn) := by
  intro t t' hgrows hfold
  obtain ⟨middle, happly, hrest⟩ := foldlM_cons_ok hfold
  obtain ⟨row, hwritten, hfresh, rfl⟩ := apply_saveGrn happly
  have hwrote := appended hrest
  exact .created hpositive hbuilt hwritten hfresh ⟨hwrote.orders, hwrote.grns, hwrote.events⟩

theorem intends_changed {method : GoodReceiptNote.GrnMethod Unit} {row : GrnRow}
    {grn : GoodReceiptNote} (hcommand : IsGrnCommand method)
    (hread : s.grns.get? row.id = some row)
    (hreturned : method (PrismaGrnMapper.toDomain row) = (.ok (), grn)) :
    Intends tolerances ok s ([Write.updateGrn ctx grn] ++ appendGrnEvents ctx grn) := by
  intro t t' hgrows hfold
  obtain ⟨middle, happly, hrest⟩ := foldlM_cons_ok hfold
  obtain ⟨hstored, new, hwritten, rfl⟩ :=
    updateGrn_applied hgrows hread (hcommand.handles hreturned).reference rfl happly
  have hwrote := appended hrest
  exact .changed hcommand ⟨hstored, hreturned, hwritten⟩
    ⟨hwrote.orders, hwrote.grns, hwrote.events⟩

theorem intends_posted {actorId postedBy : Option String} {now posted : Nat} {row : GrnRow}
    {orderRow : PurchaseOrderRow} {po : PurchaseOrder} {grn : GoodReceiptNote} {s₀ : ProcurementDb}
    (hadmitted : tolerances ctx.tolerance) (hread : s₀.grns.get? row.id = some row)
    (hgrows₀ : Grows s₀ s)
    (hreadOrder : s.orders.get? orderRow.id = some orderRow)
    (horder : orderRow.id = row.purchaseOrderId)
    (hopened : PurchaseOrderFactory.openPoForReceipt (PrismaGrnMapper.toDomain row).receiptLines
      ctx.tolerance actorId now (PrismaPurchaseOrderMapper.toDomain orderRow) = (.ok (), po))
    (hreturned : GoodReceiptNote.complete postedBy posted (PrismaGrnMapper.toDomain row) =
      (.ok (), grn)) :
    Intends tolerances ok s
      ([Write.updateOrder ctx po] ++ [Write.updateGrn ctx grn] ++ appendGrnEvents ctx grn) := by
  intro t t' hgrows hfold
  obtain ⟨middle, happly, hrest⟩ := foldlM_cons_ok hfold
  have hkey := (openPoForReceipt_fixes (PrismaGrnMapper.toDomain row).receiptLines ctx.tolerance
    actorId now).of_returned hopened
  obtain ⟨hstoredOrder, newOrder, hwrittenOrder, rfl⟩ :=
    updateOrder_applied hgrows hreadOrder hkey happly
  obtain ⟨middle, happly, hrest⟩ := foldlM_cons_ok hrest
  obtain ⟨_, _, hreference, _, _⟩ := complete_returned hreturned
  obtain ⟨hstored, new, hwritten, rfl⟩ := @updateGrn_applied s₀ t ctx
    { t with orders := t.orders.put newOrder } middle grn row (hgrows₀.trans hgrows) hread hreference rfl happly
  have hwrote := appended hrest
  exact .posted ⟨hadmitted, hstoredOrder, ⟨actorId, now, hopened⟩, hwrittenOrder⟩ horder
    ⟨hstored, hreturned, hwritten⟩ ⟨hwrote.orders, hwrote.grns, hwrote.events⟩

theorem intends_reversed {actorId : Option String} {now reversedAt : Nat} {id : String}
    {original : GrnRow} {input : CreateGrnReversalInput} {orderRow : PurchaseOrderRow}
    {po : PurchaseOrder} {reversal : GoodReceiptNote} {s₀ : ProcurementDb}
    (hadmitted : tolerances ctx.tolerance) (hread : s₀.grns.get? original.id = some original)
    (hcompleted : original.status = .completed) (hgrows₀ : Grows s₀ s)
    (hreadOrder : s.orders.get? orderRow.id = some orderRow)
    (horder : orderRow.id = original.purchaseOrderId)
    (hopened : PurchaseOrderFactory.openPoForReceipt
      (input.lines.map fun l => ⟨l.productId, l.receivedQuantity⟩) ctx.tolerance actorId now
      (PrismaPurchaseOrderMapper.toDomain orderRow) = (.ok (), po))
    (hmet : ok s (.findOrder ctx original.purchaseOrderId) (some orderRow)
      (.asks (ProcurementRequest.commit
        ([Write.updateOrder ctx po] ++ [Write.saveGrn ctx reversal] ++
          appendGrnEvents ctx reversal))))
    (hlines : input.lines = (PrismaGrnMapper.toDomain original).reversalLines)
    (hofId : input.reversalOfId = original.id)
    (hofOrder : input.purchaseOrderId = original.purchaseOrderId)
    (hbuilt : GrnFactory.createReversal input id reversedAt = .ok reversal) :
    Intends tolerances ok s
      ([Write.updateOrder ctx po] ++ [Write.saveGrn ctx reversal] ++
        appendGrnEvents ctx reversal) := by
  intro t t' hgrows hfold
  obtain ⟨middle, happly, hrest⟩ := foldlM_cons_ok hfold
  have hkey := (openPoForReceipt_fixes _ ctx.tolerance actorId now).of_returned hopened
  obtain ⟨hstoredOrder, newOrder, hwrittenOrder, rfl⟩ :=
    updateOrder_applied hgrows hreadOrder hkey happly
  obtain ⟨middle, happly, hrest⟩ := foldlM_cons_ok hrest
  obtain ⟨row, hwritten, hfresh, rfl⟩ := apply_saveGrn happly
  have hwrote := appended hrest
  exact .reversed ⟨hadmitted, hstoredOrder, ⟨actorId, now, hopened⟩, hwrittenOrder⟩ horder
    hread hcompleted hgrows₀ hreadOrder hgrows hmet hlines hofId hofOrder hbuilt hwritten hfresh
    ⟨hwrote.orders, hwrote.grns, hwrote.events⟩

end Writes

section UseCases

/-- Registering a receipt inside a transaction: what follows goes on with the order opened. -/
theorem secure_registerReceipt {β : Type} {ctx : RequestContext}
    {request : PurchaseOrderReceiptRequest} {now : Nat}
    {f : PurchaseOrderReceiptResult × List Write → Transaction β} {k : β → Transaction Unit}
    {fails : String → Transaction Unit}
    (hf : ∀ t row po result, Grows s t → t.orders.get? row.id = some row →
      row.id = request.purchaseOrderId →
      PurchaseOrderFactory.openPoForReceipt request.lines ctx.tolerance request.actorId now
        (PrismaPurchaseOrderMapper.toDomain row) = (.ok (), po) →
      ok t (.findOrder ctx request.purchaseOrderId) (some row)
        ((f (result, [Write.updateOrder ctx po])).handle k fails).front →
      (discipline wiring tolerances ok).Secure ok
        ((f (result, [Write.updateOrder ctx po])).handle k fails) t)
    (hfails : ∀ e t, (discipline wiring tolerances ok).Secure ok (fails e) t) :
    (discipline wiring tolerances ok).Secure ok
      ((registerReceipt wiring ctx request now >>= f).handle k fails) s := by
  unfold registerReceipt
  simp only [Program.bind_assoc]
  refine secure_check (fun _ _ => ?_) fun e => hfails e s
  refine secure_findOrder (fun t row hgrows hrow hid _ hok => ?_) fun t => hfails _ t
  simp only [Program.bind_assoc] at hok ⊢
  rcases hrun : PurchaseOrderFactory.openPoForReceipt request.lines ctx.tolerance request.actorId
    now (PrismaPurchaseOrderMapper.toDomain row) with ⟨outcome, po⟩
  cases outcome with
  | ok u =>
    rw [perform_ok_bind hrun] at hok ⊢
    exact hf t row po _ hgrows hrow hid hrun hok
  | error e =>
    rw [perform_error_bind hrun]
    exact hfails _ t

/-- A transaction on its own. -/
theorem secure_alone {body : Transaction (List Write)}
    (hbody : ∀ next : List Write → Transaction Unit,
      (∀ writes, (next writes).front = .asks (.commit writes)) →
      (∀ writes t, Intends tolerances ok t writes →
        (discipline wiring tolerances ok).Secure ok (next writes) t) →
      (discipline wiring tolerances ok).Secure ok (body.handle next .fail) s) :
    (discipline wiring tolerances ok).Secure ok (transactional body) s := by
  rw [← Program.bind_done (transactional body), Program.bind_eq_handle]
  exact secure_transactional hbody (.inl rfl) (fun _ => trivial) fun _ _ => trivial

theorem secure_changeGrn {ctx : RequestContext} {id : String}
    {method : GoodReceiptNote.GrnMethod Unit} (hcommand : IsGrnCommand method) :
    (discipline wiring tolerances ok).Secure ok (changeGrn ctx id method) s := by
  refine secure_alone fun next _ hnext => ?_
  refine secure_findGrn (fun t row _ hrow _ => ?_) fun t => trivial
  refine secure_perform (fun _ grn hreturned => ?_) fun _ => trivial
  exact hnext _ _ (intends_changed hcommand hrow hreturned)

/-- A method of an order that was read, called and written back with its events. -/
theorem secure_orderCommand {ctx : RequestContext} {method : PurchaseOrder.OrderMethod Unit}
    {row : PurchaseOrderRow} {next : List Write → Transaction Unit}
    {s₀ : ProcurementDb}
    (hnext : ∀ writes t, Intends tolerances ok t writes →
      (discipline wiring tolerances ok).Secure ok (next writes) t)
    (hcommand : IsOrderCommand method) (hrow : s₀.orders.get? row.id = some row)
    (hgrows₀ : Grows s₀ s)
    (hunreceived : ∀ po, method (PrismaPurchaseOrderMapper.toDomain row) = (.ok (), po) →
      po.status = .cancelled → s.orders.get? row.id = some row → row.hasReceipts = false) :
    (discipline wiring tolerances ok).Secure ok
      ((perform method (PrismaPurchaseOrderMapper.toDomain row) >>= fun po =>
        (pure ([Write.updateOrder ctx po] ++ appendOrderEvents ctx po) :
          Transaction (List Write))).handle next .fail) s := by
  refine secure_perform (fun _ po hreturned => ?_) fun _ => trivial
  exact hnext _ _ (intends_transitioned hcommand hrow hgrows₀ (hunreceived po hreturned) hreturned)

/-- A method that does not cancel. -/
theorem secure_otherCommand {ctx : RequestContext} {method : PurchaseOrder.OrderMethod Unit}
    {row : PurchaseOrderRow} {next : List Write → Transaction Unit} {verb : PurchaseOrderVerb}
    (hnext : ∀ writes t, Intends tolerances ok t writes →
      (discipline wiring tolerances ok).Secure ok (next writes) t)
    (hcommand : IsOrderCommand method) (htransits : ∀ po, RefusedOrTransits verb po (method po))
    (hverb : verb.target ≠ .cancelled) (hrow : s.orders.get? row.id = some row) :
    (discipline wiring tolerances ok).Secure ok
      ((perform method (PrismaPurchaseOrderMapper.toDomain row) >>= fun po =>
        (pure ([Write.updateOrder ctx po] ++ appendOrderEvents ctx po) :
          Transaction (List Write))).handle next .fail) s :=
  secure_orderCommand hnext hcommand hrow (.refl s) fun po hreturned hstatus =>
    absurd hstatus (never_cancels htransits hverb _ po hreturned)

theorem secure_changePurchaseOrder {ctx : RequestContext} {id : String}
    {method : PurchaseOrder.OrderMethod Unit} {verb : PurchaseOrderVerb}
    (hcommand : IsOrderCommand method) (htransits : ∀ po, RefusedOrTransits verb po (method po))
    (hverb : verb.target ≠ .cancelled) :
    (discipline wiring tolerances ok).Secure ok (changePurchaseOrder ctx id method) s := by
  refine secure_alone fun next _ hnext => ?_
  refine secure_findOrder (fun t row _ hrow _ _ _ => ?_) fun t => trivial
  exact secure_otherCommand hnext hcommand htransits hverb hrow

theorem secure_transitionPurchaseOrder {ctx : RequestContext} {id : String}
    {transition : PurchaseOrderTransition} {reason actorId : Option String} {now : Nat} :
    (discipline wiring tolerances ok).Secure ok
      (transitionPurchaseOrder wiring ctx id transition reason actorId now) s := by
  refine secure_alone fun next _ hnext => ?_
  refine secure_check (fun _ _ => ?_) fun _ => trivial
  refine secure_findOrder (fun t row _ hrow hid howned _ => ?_) fun t => trivial
  cases transition with
  | submit => exact secure_otherCommand hnext (.submit now) (.submit now) (by decide) hrow
  | approve =>
    simp only
    refine secure_check (fun _ _ => secure_check (fun _ _ => ?_) fun _ => trivial) fun _ => trivial
    exact secure_otherCommand hnext (.approve _ now) (fun po => .approve now po _) (by decide) hrow
  | reject =>
    exact secure_otherCommand hnext (.reject _ _ now) (fun po => .reject now po _ _) (by decide) hrow
  | cancel =>
    simp only
    refine secure_hasReceipts fun u hasPostedReceipts hgrows hanswer => ?_
    refine secure_orderCommand hnext (.cancel _ hasPostedReceipts now) hrow hgrows
      fun po hreturned _ hstored => ?_
    rw [← hanswer row hstored howned]
    exact cancel_unreceived hreturned
  | complete => exact secure_otherCommand hnext (.close now) (.close now) (by decide) hrow

/-- A loop that went through gave each element of its outcome for one it was given. -/
theorem mem_of_mapM_ok {ε α β : Type} {f : α → Except ε β} {as : List α} {bs : List β}
    (h : as.mapM f = .ok bs) : ∀ b ∈ bs, ∃ a ∈ as, f a = .ok b := by
  induction as generalizing bs with
  | nil =>
    rw [List.mapM_nil] at h
    cases h
    exact fun b hb => absurd hb List.not_mem_nil
  | cons a as ih =>
    rw [List.mapM_cons] at h
    cases hhead : f a with
    | error e =>
      rw [hhead] at h
      cases h
    | ok b =>
      cases htail : as.mapM f with
      | error e =>
        rw [hhead, htail] at h
        cases h
      | ok rest =>
        rw [hhead, htail] at h
        cases h
        intro b' hb'
        rcases List.mem_cons.mp hb' with rfl | hb'
        · exact ⟨a, List.mem_cons_self, hhead⟩
        · obtain ⟨a', ha', heq⟩ := ih htail b' hb'
          exact ⟨a', List.mem_cons_of_mem _ ha', heq⟩

theorem atLeastOne_of_snapLine {order : PurchaseOrderRow} {line : CreateGrnRequestLine}
    {snapped : GrnLineInput} (h : snapLine order line = .ok snapped) :
    1 ≤ snapped.receivedQuantity := by
  unfold snapLine at h
  split at h
  · cases h
  · cases h
    exact line.atLeastOne

theorem secure_createGrn {ctx : RequestContext} {input : CreateGrnRequest}
    {actorId : Option String} {id grnNumber : String} {now : Nat} :
    (discipline wiring tolerances ok).Secure ok
      (createGrn wiring ctx input actorId id grnNumber now) s := by
  refine secure_alone fun next _ hnext => ?_
  refine secure_check (fun _ _ => ?_) fun _ => trivial
  refine secure_findOrder (fun t order _ _ _ _ _ => ?_) fun t => trivial
  refine secure_check (fun _ _ => secure_check (fun _ _ => ?_) fun _ => trivial) fun _ => trivial
  refine secure_check (fun lines hlines => ?_) fun _ => trivial
  refine secure_check (fun grn hbuilt => ?_) fun _ => trivial
  refine hnext _ _ (intends_created (fun line hline => ?_) hbuilt)
  obtain ⟨requested, _, hsnapped⟩ := mem_of_mapM_ok hlines line hline
  exact atLeastOne_of_snapLine hsnapped

theorem secure_postGrn {ctx : RequestContext} {id : String} {actorId : Option String} {now : Nat}
    (hadmitted : tolerances ctx.tolerance) :
    (discipline wiring tolerances ok).Secure ok (postGrn wiring ctx id actorId now) s := by
  refine secure_alone fun next _ hnext => ?_
  refine secure_findGrn (fun t row _ hrow _ => ?_) fun t => trivial
  refine secure_registerReceipt (fun u order po result hgrows horder hid hopened _ => ?_)
    fun _ _ => trivial
  refine secure_perform (fun _ grn hreturned => ?_) fun _ => trivial
  exact hnext _ _ (intends_posted hadmitted hrow hgrows horder hid hopened hreturned)

theorem secure_reverseGrn {ctx : RequestContext} {id reversalId grnNumber : String}
    {actorId : Option String} {now : Nat} (hadmitted : tolerances ctx.tolerance) :
    (discipline wiring tolerances ok).Secure ok
      (reverseGrn wiring ctx id actorId reversalId grnNumber now) s := by
  refine secure_alone fun next hfront hnext => ?_
  refine secure_findGrn (fun t original _ hrow _ => ?_) fun t => trivial
  refine secure_check (fun _ hreversible => ?_) fun _ => trivial
  refine secure_findByReversalOfId fun u found hgrows => ?_
  cases found with
  | some _ => trivial
  | none =>
    refine secure_check (fun reversal hbuilt => ?_) fun _ => trivial
    refine secure_registerReceipt (fun v order po result hgrows' horder hid hopened hmet => ?_)
      fun _ _ => trivial
    refine hnext _ _ (intends_reversed hadmitted hrow (require_eq_ok.mp hreversible)
      (hgrows.trans hgrows') horder hid hopened ?_ rfl rfl rfl hbuilt)
    rw [← hfront]
    exact hmet

/-- Receiving a message writes the inbox only. -/
theorem secure_receive {config : InboxConfig} {identity : InboxIdentity} {id claimToken : String}
    {now : Nat} {f : InboxReceiveResult → Transaction Unit}
    (hf : ∀ t result, (discipline wiring tolerances ok).Secure ok (f result) t) :
    (discipline wiring tolerances ok).Secure ok
      (Messaging.receive sendInbox config identity id claimToken now >>= f) s := by
  unfold Messaging.receive
  refine secure_inbox fun t inserted => ?_
  cases inserted with
  | some id => exact hf t _
  | none =>
    refine secure_inbox fun u existing => ?_
    cases existing with
    | none => exact hf u _
    | some existing =>
      dsimp only [Program.bind]
      cases existing.status with
      | suspended => exact hf u _
      | processed => exact hf u _
      | inProgress =>
        simp only
        split
        · exact hf u _
        · split
          · exact hf u _
          · refine secure_inbox fun v reclaimed => ?_
            cases reclaimed <;> exact hf v _

theorem secure_onGoodsReceiptPosted {envelope : Envelope} {delivery : Delivery}
    (hadmitted : tolerances 0) :
    (discipline wiring tolerances ok).Secure ok (onGoodsReceiptPosted wiring envelope delivery)
      s := by
  unfold onGoodsReceiptPosted
  split
  · rename_i grnId purchaseOrderId lines hevent
    refine secure_receive fun t result => ?_
    cases result with
    | acquired reservation =>
      have hcomplete : ∀ u, (discipline wiring tolerances ok).Secure ok
          (sendInbox (.complete reservation.id reservation.claimToken delivery.settledAt) >>=
            fun _ => pure ()) u := fun u => secure_inbox fun _ _ => trivial
      simp only
      split
      · exact hcomplete t
      · refine secure_transactional (fun next _ hnext => ?_) (.inr ⟨_, _, _, rfl⟩) hcomplete
          fun e u => secure_inbox fun _ _ => trivial
        refine secure_registerReceipt (fun u row po result _ hrow _ hopened _ => ?_)
          fun _ _ => secure_inbox fun _ _ => trivial
        exact hnext _ _ (intends_registered hadmitted hrow hopened)
    | duplicate => trivial
    | busy => trivial
  · trivial

end UseCases

/-- Whatever runs beside it, a command within the tolerances keeps the discipline. -/
theorem program_secure (entry : ProcurementEntry) (s : ProcurementDb)
    (htolerates : entry.Tolerates tolerances) :
    (discipline wiring tolerances ok).Secure ok ((procurementSystem wiring).program entry) s := by
  cases entry with
  | registerReceipt ctx request now =>
    refine secure_alone fun next _ hnext => ?_
    refine secure_registerReceipt (fun t row po result _ hrow _ hopened _ => ?_) fun _ _ => trivial
    exact hnext _ _ (intends_registered htolerates hrow hopened)
  | transitionPurchaseOrder ctx id transition reason actorId now =>
    exact secure_transitionPurchaseOrder
  | issuePurchaseOrder ctx id actorId now =>
    exact secure_changePurchaseOrder (.issue _ now) (fun po => .issue now po _) (by decide)
  | closePurchaseOrder ctx id now =>
    exact secure_changePurchaseOrder (.close now) (.close now) (by decide)
  | createGrn ctx input actorId id grnNumber now => exact secure_createGrn
  | addGrnLine ctx id productId o r u now => exact secure_changeGrn (.addLine productId o r u now)
  | receiveGrn ctx id actorId now => exact secure_changeGrn (.receive _ now)
  | recordInspectionResult ctx id lines now =>
    exact secure_changeGrn (.recordInspectionResult lines now)
  | postGrn ctx id actorId now => exact secure_postGrn htolerates
  | cancelGrn ctx id actorId now => exact secure_changeGrn (.cancel _ now)
  | setGrnLineTracking ctx id productId entries now =>
    exact secure_changeGrn (.setLineTracking productId entries now)
  | reverseGrn ctx id actorId reversalId grnNumber now => exact secure_reverseGrn htolerates
  | goodsReceiptPosted envelope delivery => exact secure_onGoodsReceiptPosted htolerates

section Runs

variable {P Q R : Pool (procurementSystem wiring)}
variable {trace : List (Label (procurementSystem wiring))}
variable {okRun : Pool (procurementSystem wiring) → Label (procurementSystem wiring) → Prop}

/-- A run condition that starts commands within the tolerances only, and serves requests only as
`ok` allows. -/
abbrev CoversRun (okRun : Pool (procurementSystem wiring) → Label (procurementSystem wiring) → Prop)
    (tolerances : ℚ → Prop) (ok : Served) : Prop :=
  Discipline.Covers okRun (ProcurementEntry.Tolerates tolerances) ok

theorem allSecure_of_run (hcovers : CoversRun okRun tolerances ok) (hrun : Run okRun P trace Q)
    (hthreads : P.threads = []) : (discipline wiring tolerances ok).AllSecure ok Q :=
  Discipline.AllSecure.run (fun e s h => program_secure e s h) hcovers hrun
    (Discipline.allSecure_of_no_threads hthreads)

/-- Along a run from an idle pool, every served request meets its guarantee. -/
theorem guarantees_of_step (hcovers : CoversRun okRun tolerances ok)
    (hrun : Run okRun P trace Q) (hthreads : P.threads = []) {i : Nat} {q : ProcurementRequest}
    {a : q.Answer} {front : Front ProcurementRequest.interface} (hok : ok Q.store q a front)
    (hstep : Step (procurementSystem wiring) Q (.served i q a front) R) :
    Guarantees tolerances ok Q.store q a front R.store :=
  (allSecure_of_run hcovers hrun hthreads).served hstep hok

/-- What every guarantee keeps holds of every database such a run reaches. -/
theorem invariant_of_procurement {Inv : ProcurementDb → Prop}
    (hcovers : CoversRun okRun tolerances ok)
    (hkeeps : ∀ s q a front s', Inv s → ok s q a front →
      Guarantees tolerances ok s q a front s' → Inv s')
    (hrun : Run okRun P trace Q) (hthreads : P.threads = []) (hinv : Inv P.store) :
    Inv Q.store :=
  @Discipline.invariant_of_run _ (discipline wiring tolerances ok) _ _ _ _ _ _ _
    (fun e s h => program_secure e s h) hcovers hkeeps hrun
    (Discipline.allSecure_of_no_threads hthreads) hinv

/-- A condition on served requests, as a condition on steps. -/
def onServed (ok : Served) : Pool (procurementSystem wiring) → Label (procurementSystem wiring) → Prop
  | P, .served _ q a front => ok P.store q a front
  | _, _ => True

instance [h : ∀ s q a front, Decidable (ok s q a front)] (P : Pool (procurementSystem wiring))
    (l : Label (procurementSystem wiring)) : Decidable (onServed ok P l) :=
  match l with
  | .served _ q a front => h P.store q a front
  | .start _ => .isTrue trivial
  | .raised _ _ => .isTrue trivial

theorem covers_onServed : CoversRun (@onServed wiring ok) (fun _ => True) ok :=
  ⟨fun _ e _ => by cases e <;> trivial, fun _ _ _ _ _ h => h⟩

/-- The request commits such writes, and the commit was taken. -/
def commits (p : List Write → Bool) : (q : ProcurementRequest) → q.Answer → Bool
  | .commit writes, answer =>
    match (answer : Except Failure Unit) with
    | .ok _ => p writes
    | .error _ => false
  | .findGrn _ _, _ => false
  | .findByReversalOfId _ _, _ => false
  | .findOrder _ _, _ => false
  | .hasReceipts _ _, _ => false
  | .inbox _, _ => false

/-- The steps of a run that commit such writes. -/
def committing (p : List Write → Bool) : Label (procurementSystem wiring) → Bool
  | .served _ q a _ => commits p q a
  | _ => false

theorem committing_eq_true {p : List Write → Bool} {l : Label (procurementSystem wiring)}
    (h : committing p l = true) :
    ∃ i writes front, l = .served i (.commit writes) (.ok ()) front ∧ p writes = true := by
  cases l with
  | start e => cases h
  | raised i q => cases h
  | served i q a front =>
    cases q with
    | commit writes =>
      cases a with
      | ok u => exact ⟨i, writes, front, rfl, h⟩
      | error e => cases h
    | findGrn ctx id => cases h
    | findByReversalOfId ctx id => cases h
    | findOrder ctx id => cases h
    | hasReceipts ctx id => cases h
    | inbox request => cases h

theorem committing_of_reads {i : Nat} {q : ProcurementRequest} {a : q.Answer}
    {front : Front ProcurementRequest.interface} {p : List Write → Bool}
    (hreads : ∀ writes, q ≠ .commit writes) :
    committing p (@Label.served (procurementSystem wiring) i q a front) = false := by
  cases q with
  | commit writes => exact absurd rfl (hreads writes)
  | findGrn ctx id => rfl
  | findByReversalOfId ctx id => rfl
  | findOrder ctx id => rfl
  | hasReceipts ctx id => rfl
  | inbox request => rfl

/-- How often such writes were committed along a trace. -/
def times (p : List Write → Bool) (trace : List (Label (procurementSystem wiring))) : Nat :=
  trace.countP (committing p)

theorem times_snoc {p : List Write → Bool} {l : Label (procurementSystem wiring)} :
    times p (trace ++ [l]) = times p trace + if committing p l = true then 1 else 0 := by
  unfold times
  rw [List.countP_append, List.countP_singleton]

theorem times_snoc_of_not {p : List Write → Bool} {l : Label (procurementSystem wiring)}
    (h : committing p l = false) : times p (trace ++ [l]) = times p trace := by
  rw [times_snoc, h]
  rfl

end Runs

end DddBoilerplate.Procurement
