/- module: DddBoilerplate/Procurement/Reversal
   generality: I
   digest: What a reversal gives back of what a post registered, and when it is taken. -/

import DddBoilerplate.Procurement.Positivity
import DddBoilerplate.Procurement.ReversedOnce
import DddBoilerplate.Procurement.Storing

set_option autoImplicit false
set_option relaxedAutoImplicit false
set_option linter.all false

namespace DddBoilerplate.Procurement

open Concurrency Domain Store

section Lines

variable (grn : GoodReceiptNote)

/-- What a reversal registers: the posted lines, negative. -/
def GoodReceiptNote.returnLines : List ReceiptLine :=
  grn.reversalLines.map fun l => ⟨l.productId, l.receivedQuantity⟩

theorem returnLines_eq :
    grn.returnLines = grn.receiptLines.map fun l => ⟨l.productId, -l.receivedQuantity⟩ := by
  unfold GoodReceiptNote.returnLines GoodReceiptNote.reversalLines GoodReceiptNote.receiptLines
  rw [List.map_map, List.map_map]
  rfl

theorem products_receiptLines : grn.receiptLines.map (·.productId) = grn.products := by
  unfold GoodReceiptNote.receiptLines GoodReceiptNote.products
  rw [List.map_map]
  rfl

end Lines

section Document

/-- A loop of checks that all go through goes through. -/
theorem forM_of_ok {α ε : Type} {f : α → Except ε Unit} {xs : List α}
    (h : ∀ x ∈ xs, f x = .ok ()) : xs.forM f = .ok () := by
  induction xs with
  | nil => rfl
  | cons y ys ih =>
    show (f y >>= fun _ => ys.forM f) = _
    rw [h y List.mem_cons_self]
    exact ih fun x hx => h x (List.mem_cons_of_mem y hx)

theorem den_neg {q : ℚ} (h : q.den = 1) : (-q).den = 1 := by
  rw [Rat.neg_den]
  exact h

variable {input : CreateGrnReversalInput} {grn : GoodReceiptNote} {id : String} {now : Nat}

/-- The compensating document of a positive note passes its own checks. -/
theorem createReversal_returns (hid : input.reversalOfId ≠ "") (hpositive : grn.Positive)
    (hlines : input.lines = grn.reversalLines) :
    ∃ reversal, GrnFactory.createReversal input id now = .ok reversal ∧ reversal.id = id ∧
      reversal.grnNumber = input.grnNumber ∧
      reversal.lines = (GrnFactory.reversalDocument input id now).lines := by
  have hof : grnReversal input.reversalOfId = .ok () := require_eq_ok.mpr hid
  have hbalance : (GrnFactory.reversalDocument input id now).lines.forM (fun line =>
      grnReversalBalance line.receivedQuantity line.acceptedQuantity line.rejectedQuantity) =
        .ok () := by
    refine forM_of_ok fun line hline => ?_
    obtain ⟨returned, hreturned, rfl⟩ := List.mem_map.mp hline
    rw [hlines] at hreturned
    obtain ⟨original, horiginal, rfl⟩ := List.mem_map.mp hreturned
    have hposted : 0 < original.postedQuantity :=
      postedQuantity_pos hpositive ⟨original.productId, original.postedQuantity⟩
        (List.mem_map_of_mem horiginal)
    have hnegative : -original.postedQuantity < 0 := neg_neg_of_pos hposted
    exact grnReversalBalance_eq_ok.mpr ⟨add_zero _, hnegative, hnegative.le, le_refl 0⟩
  unfold GrnFactory.createReversal
  rw [hof]
  simp only [bind, Except.bind, hbalance]
  exact ⟨_, rfl, rfl, rfl, rfl⟩

theorem postedQuantity_whole {line : GrnLine} (hstorable : grn.Storable) (hline : line ∈ grn.lines) :
    line.postedQuantity.den = 1 := by
  obtain ⟨_, hreceived, haccepted, _⟩ := hstorable.whole line hline
  unfold GrnLine.postedQuantity
  split
  · exact haccepted
  · exact hreceived

/-- The columns take the compensating document of a note they hold. -/
theorem reversal_storable (hstorable : grn.Storable) (hlines : input.lines = grn.reversalLines)
    {reversal : GoodReceiptNote}
    (hreversal : reversal.lines = (GrnFactory.reversalDocument input id now).lines) :
    reversal.Storable := by
  have hmapped : reversal.lines = grn.lines.map fun line =>
      GrnLine.create line.productId line.orderedQuantity (-line.postedQuantity) line.unitPrice
        (some (-line.postedQuantity)) (some 0) none := by
    rw [hreversal]
    unfold GrnFactory.reversalDocument
    rw [hlines]
    unfold GoodReceiptNote.reversalLines
    rw [List.map_map]
    rfl
  refine ⟨fun line hline => ?_, ?_⟩
  · rw [hmapped] at hline
    obtain ⟨original, horiginal, rfl⟩ := List.mem_map.mp hline
    obtain ⟨hordered, _⟩ := hstorable.whole original horiginal
    have hposted := postedQuantity_whole hstorable horiginal
    exact ⟨hordered, den_neg hposted, den_neg hposted, rfl⟩
  · rw [hmapped, List.map_map]
    exact hstorable.distinct

end Document

/-- What a reverse command needs to find, besides an order that takes the return: the posted
note, not reversed, its eligible order, the permission, and a fresh identifier and number. -/
structure Reversible (wiring : Wiring) (ctx : RequestContext) (s : ProcurementDb) (note : GrnRow)
    (order : PurchaseOrderRow) (reversalId grnNumber : String) : Prop where
  named : note.id ≠ ""
  stored : s.grns.get? note.id = some note
  owned : ctx.owns note.tenantId = true
  completed : note.status = .completed
  unreversed : s.reversals note.id = []
  storedOrder : s.orders.get? note.purchaseOrderId = some order
  ownedOrder : ctx.owns order.tenantId = true
  eligible : order.status.Eligible
  authorized : authorize wiring ctx "PurchaseOrder" "receive" = .ok ()
  freshId : s.grns.get? reversalId = none
  freshNumber : ∀ row ∈ s.grns.rows, row.companyId = ctx.company → row.grnNumber ≠ grnNumber

instance decidableReversible (wiring : Wiring) (ctx : RequestContext) (s : ProcurementDb)
    (note : GrnRow) (order : PurchaseOrderRow) (reversalId grnNumber : String) :
    Decidable (Reversible wiring ctx s note order reversalId grnNumber) :=
  decidable_of_iff
    ((note.id ≠ "" ∧ s.grns.get? note.id = some note ∧ ctx.owns note.tenantId = true ∧
        note.status = .completed ∧ s.reversals note.id = []) ∧
      (s.orders.get? note.purchaseOrderId = some order ∧ ctx.owns order.tenantId = true ∧
        order.status.Eligible) ∧
      authorize wiring ctx "PurchaseOrder" "receive" = .ok () ∧
      s.grns.get? reversalId = none ∧
      ∀ row ∈ s.grns.rows, row.companyId = ctx.company → row.grnNumber ≠ grnNumber)
    ⟨fun ⟨⟨h₁, h₂, h₃, h₄, h₅⟩, ⟨h₆, h₇, h₈⟩, h₉, h₁₀, h₁₁⟩ =>
        ⟨h₁, h₂, h₃, h₄, h₅, h₆, h₇, h₈, h₉, h₁₀, h₁₁⟩,
      fun h => ⟨⟨h.named, h.stored, h.owned, h.completed, h.unreversed⟩,
        ⟨h.storedOrder, h.ownedOrder, h.eligible⟩, h.authorized, h.freshId, h.freshNumber⟩⟩

section Alone

variable (wiring : Wiring)

/-- The database, serving one command with no other beside it. -/
def alone (q : ProcurementRequest) (s : ProcurementDb) : q.Answer × ProcurementDb :=
  ProcurementRequest.serve wiring.inbox s q

def reverseAlone (ctx : RequestContext) (id : String) (actorId : Option String)
    (reversalId grnNumber : String) (now : Nat) (s : ProcurementDb) :
    Except String Unit × ProcurementDb :=
  (reverseGrn wiring ctx id actorId reversalId grnNumber now).runAlone (alone wiring) s

variable {wiring}
variable {ctx : RequestContext} {s : ProcurementDb} {β : Type} {id : String}

theorem runAlone_findGrn {f : Option GrnRow → Transaction β} {row : GrnRow}
    (hstored : s.grns.get? id = some row) (howned : ctx.owns row.tenantId = true) :
    (findGrn ctx id >>= f).runAlone (alone wiring) s = (f (some row)).runAlone (alone wiring) s := by
  show (f ((s.grns.get? id).filter fun row => ctx.owns row.tenantId)).runAlone (alone wiring) s = _
  rw [hstored, Option.filter_some, if_pos howned]

theorem runAlone_findOrder {f : Option PurchaseOrderRow → Transaction β} {row : PurchaseOrderRow}
    (hstored : s.orders.get? id = some row) (howned : ctx.owns row.tenantId = true) :
    (findOrder ctx id >>= f).runAlone (alone wiring) s =
      (f (some row)).runAlone (alone wiring) s := by
  show (f ((s.orders.get? id).filter fun row => ctx.owns row.tenantId)).runAlone (alone wiring) s = _
  rw [hstored, Option.filter_some, if_pos howned]

theorem runAlone_findByReversalOfId {f : Option GrnRow → Transaction β}
    (hnone : s.reversals id = []) :
    (findByReversalOfId ctx id >>= f).runAlone (alone wiring) s =
      (f none).runAlone (alone wiring) s := by
  have hfind : (s.grns.rows.find? fun row =>
      row.reversalOfId = some id && ctx.owns row.tenantId) = none := by
    rw [List.find?_eq_none]
    intro row hrow hfound
    rw [Bool.and_eq_true, decide_eq_true_eq] at hfound
    have hof : row ∈ s.reversals id := mem_reversals.mpr ⟨hrow, hfound.1⟩
    rw [hnone] at hof
    cases hof
  show (f (s.grns.rows.find? fun row =>
    row.reversalOfId = some id && ctx.owns row.tenantId)).runAlone (alone wiring) s = _
  rw [hfind]

theorem runAlone_commit {writes : List Write} {s' : ProcurementDb}
    {f : Except Failure Unit → Transaction β} (hfold : writes.foldlM Write.apply s = .ok s') :
    (commit writes >>= f).runAlone (alone wiring) s = (f (.ok ())).runAlone (alone wiring) s' := by
  have hserve : alone wiring (.commit writes) s = (.ok (), s') := by
    unfold alone
    simp only [ProcurementRequest.serve, hfold]
  show (f (alone wiring (.commit writes) s).1).runAlone (alone wiring) _ = _
  rw [hserve]

variable {request : PurchaseOrderReceiptRequest} {order : PurchaseOrderRow} {now : Nat}
  {po : PurchaseOrder} {f : PurchaseOrderReceiptResult × List Write → Transaction β}

/-- Registering a receipt goes on with the order as opened, or throws what opening it throws. -/
theorem runAlone_registerReceipt (hauthorized : authorize wiring ctx "PurchaseOrder" "receive" = .ok ())
    (hstored : s.orders.get? request.purchaseOrderId = some order)
    (howned : ctx.owns order.tenantId = true)
    (hopened : PurchaseOrderFactory.openPoForReceipt request.lines ctx.tolerance request.actorId now
      (PrismaPurchaseOrderMapper.toDomain order) = (.ok (), po)) :
    (registerReceipt wiring ctx request now >>= f).runAlone (alone wiring) s =
      (f (receiptResult request.purchaseOrderId po, [.updateOrder ctx po])).runAlone
        (alone wiring) s := by
  unfold registerReceipt
  rw [hauthorized]
  simp only [check, Program.done_bind, Program.bind_assoc]
  rw [runAlone_findOrder hstored howned]
  simp only [perform, hopened, Program.done_bind]
  rfl

theorem runAlone_registerReceipt_error {e : Failure}
    (hauthorized : authorize wiring ctx "PurchaseOrder" "receive" = .ok ())
    (hstored : s.orders.get? request.purchaseOrderId = some order)
    (howned : ctx.owns order.tenantId = true)
    (hopened : PurchaseOrderFactory.openPoForReceipt request.lines ctx.tolerance request.actorId now
      (PrismaPurchaseOrderMapper.toDomain order) = (.error e, po)) :
    (registerReceipt wiring ctx request now >>= f).runAlone (alone wiring) s =
      (.error e.message, s) := by
  unfold registerReceipt
  rw [hauthorized]
  simp only [check, Program.done_bind, Program.bind_assoc]
  rw [runAlone_findOrder hstored howned]
  simp only [perform, hopened, Program.fail_bind]
  rfl

end Alone

section Command

variable {wiring : Wiring} {ctx : RequestContext} {s : ProcurementDb} {note : GrnRow}
variable {order : PurchaseOrderRow} {actorId : Option String} {reversalId grnNumber : String}
variable {now : Nat}

/-- The return commits: the order as opened, and the compensating document. -/
theorem reversal_committed (h : Reversible wiring ctx s note order reversalId grnNumber)
    {reversal : GoodReceiptNote} {po : PurchaseOrder}
    (hopened : PurchaseOrderFactory.openPoForReceipt (PrismaGrnMapper.toDomain note).returnLines
      ctx.tolerance none now (PrismaPurchaseOrderMapper.toDomain order) = (.ok (), po))
    (hid : reversal.id = reversalId) (hnumber : reversal.grnNumber = grnNumber)
    (hstorable : reversal.Storable) :
    ∃ (new : PurchaseOrderRow) (s' : ProcurementDb),
      PrismaPurchaseOrderMapper.toRow po order.tenantId order.companyId (order.version + 1) =
        .ok new ∧ s'.orders = s.orders.put new ∧
      ([Write.updateOrder ctx po] ++ [Write.saveGrn ctx reversal] ++
        appendGrnEvents ctx reversal).foldlM Write.apply s = .ok s' := by
  obtain ⟨new, hnew⟩ := PrismaPurchaseOrderMapper.toRow_of_storable
    (openPoForReceipt_storable hopened (PrismaPurchaseOrderMapper.storable_toDomain order))
    order.tenantId order.companyId (order.version + 1)
  obtain ⟨row, hrow⟩ := PrismaGrnMapper.toRow_of_storable hstorable ctx.tenantId ctx.company 1
  have hkey := (openPoForReceipt_fixes _ ctx.tolerance none now).of_returned hopened
  simp only [PurchaseOrder.key, PrismaPurchaseOrderMapper.toDomain, Prod.mk.injEq] at hkey
  have horder : s.orders.get? po.id = some order := by
    have hstored := h.storedOrder
    rw [← Table.key_of_get? hstored] at hstored
    rw [hkey.1]
    exact hstored
  have hordered : Write.apply s (.updateOrder ctx po) =
      .ok { s with orders := s.orders.put new } := by
    simp only [Write.apply, horder, hkey.2, h.ownedOrder, and_self, if_true, hnew]
    rfl
  obtain ⟨hdomain, _, hcompany⟩ := PrismaGrnMapper.toRow_eq_some hrow
  have hfresh : s.grns.get? row.id = none := by
    rw [show row.id = reversal.id from congrArg GoodReceiptNote.id hdomain, hid]
    exact h.freshId
  have htaken : Write.numberTaken { s with orders := s.orders.put new } row = false := by
    unfold Write.numberTaken
    rw [List.any_eq_false]
    intro other hother hsame
    rw [decide_eq_true_eq] at hsame
    refine h.freshNumber other hother (hsame.1.trans hcompany) (hsame.2.trans ?_)
    exact (congrArg GoodReceiptNote.grnNumber hdomain).trans hnumber
  have hsaved : Write.apply { s with orders := s.orders.put new } (.saveGrn ctx reversal) =
      .ok { s with orders := s.orders.put new, grns := s.grns.insert row } := by
    simp only [Write.apply, hrow, hfresh, htaken, and_self, if_true]
  obtain ⟨outbox, _, hfold⟩ := @foldlM_append
    { s with orders := s.orders.put new, grns := s.grns.insert row } ctx _ DomainEvent.grn
    "GoodReceiptNote" reversal.id reversal.events
  have happlied : ([Write.updateOrder ctx po] ++ [Write.saveGrn ctx reversal] ++
      appendGrnEvents ctx reversal).foldlM Write.apply s =
        .ok { s with orders := s.orders.put new, grns := s.grns.insert row, outbox := outbox } := by
    rw [List.append_assoc, List.singleton_append, List.foldlM_cons, hordered]
    show ([Write.saveGrn ctx reversal] ++ appendGrnEvents ctx reversal).foldlM Write.apply _ = _
    rw [List.singleton_append, List.foldlM_cons, hsaved]
    exact hfold
  exact ⟨new, _, hnew, rfl, happlied⟩

/-- Alone, a reverse command goes through exactly where its order takes the return. -/
theorem reverseAlone_cases (h : Reversible wiring ctx s note order reversalId grnNumber)
    (hpositive : (PrismaGrnMapper.toDomain note).Positive) :
    (∃ po new s', PurchaseOrderFactory.openPoForReceipt (PrismaGrnMapper.toDomain note).returnLines
        ctx.tolerance none now (PrismaPurchaseOrderMapper.toDomain order) = (.ok (), po) ∧
      PrismaPurchaseOrderMapper.toRow po order.tenantId order.companyId (order.version + 1) =
        .ok new ∧ s'.orders = s.orders.put new ∧
      reverseAlone wiring ctx note.id actorId reversalId grnNumber now s = (.ok (), s')) ∨
    (∃ e po, PurchaseOrderFactory.openPoForReceipt (PrismaGrnMapper.toDomain note).returnLines
        ctx.tolerance none now (PrismaPurchaseOrderMapper.toDomain order) = (.error e, po) ∧
      reverseAlone wiring ctx note.id actorId reversalId grnNumber now s = (.error e.message, s)) := by
  have hreversible : grnReversible (PrismaGrnMapper.toDomain note).status = .ok () :=
    require_eq_ok.mpr h.completed
  obtain ⟨reversal, hbuilt, hid, hnumber, hlines⟩ := @createReversal_returns
    ⟨grnNumber, (PrismaGrnMapper.toDomain note).id, (PrismaGrnMapper.toDomain note).purchaseOrderId,
      (PrismaGrnMapper.toDomain note).vendorId, (PrismaGrnMapper.toDomain note).currency,
      actorId.or ctx.userId, (PrismaGrnMapper.toDomain note).reversalLines⟩
    (PrismaGrnMapper.toDomain note) reversalId now h.named hpositive rfl
  have hstorable := reversal_storable (PrismaGrnMapper.storable_toDomain note) rfl hlines
  have hstart : reverseAlone wiring ctx note.id actorId reversalId grnNumber now s =
      (registerReceipt wiring ctx
        ⟨note.purchaseOrderId, (PrismaGrnMapper.toDomain note).returnLines, none⟩ now >>= fun r =>
          commit (r.2 ++ [Write.saveGrn ctx reversal] ++ appendGrnEvents ctx reversal) >>=
            check).runAlone (alone wiring) s := by
    unfold reverseAlone reverseGrn transactional
    rw [Program.bind_assoc, runAlone_findGrn h.stored h.owned]
    simp only [hreversible, check, Program.done_bind, Program.bind_assoc]
    have hread := @runAlone_findByReversalOfId wiring ctx s Unit note.id
    refine (hread h.unreversed).trans ?_
    simp only [hbuilt, Program.done_bind, Program.bind_assoc]
    rfl
  rcases hopened : PurchaseOrderFactory.openPoForReceipt (PrismaGrnMapper.toDomain note).returnLines
    ctx.tolerance none now (PrismaPurchaseOrderMapper.toDomain order) with ⟨outcome, po⟩
  cases outcome with
  | error e =>
    refine .inr ⟨e, po, rfl, ?_⟩
    rw [hstart]
    exact runAlone_registerReceipt_error h.authorized h.storedOrder h.ownedOrder hopened
  | ok u =>
    obtain ⟨new, s', hnew, horders, hfold⟩ := reversal_committed h hopened hid hnumber hstorable
    refine .inl ⟨po, new, s', rfl, hnew, horders, ?_⟩
    rw [hstart, runAlone_registerReceipt h.authorized h.storedOrder h.ownedOrder hopened]
    exact runAlone_commit hfold

end Command

section Between

/-- The writes lower no balance of an order. -/
def LowersNone (s : ProcurementDb) (writes : List Write) : Prop :=
  ∀ write ∈ writes, match write with
    | .updateOrder _ po => ∀ stored ∈ s.orders.get? po.id, ∀ b ∈ stored.balances,
        b.receivedQuantity ≤ received b.productId po.balances
    | _ => True

instance (s : ProcurementDb) (writes : List Write) : Decidable (LowersNone s writes) := by
  unfold LowersNone
  refine @List.decidableBAll _ _ (fun write => ?_) writes
  cases write <;> infer_instance

/-- The condition on a served request: what is committed is a receipt, or leaves the balances. -/
def receiptsOnly : Served
  | s, .commit writes, _, _ => LowersNone s writes
  | _, _, _, _ => True

instance (s : ProcurementDb) (q : ProcurementRequest) (a : q.Answer)
    (front : Front ProcurementRequest.interface) : Decidable (receiptsOnly s q a front) := by
  cases q <;> dsimp only [receiptsOnly] <;> infer_instance

/-- An order written later, with the same lines, none of which has come down. -/
structure Raised (before after : PurchaseOrderRow) : Prop where
  products : after.balances.map (·.productId) = before.balances.map (·.productId)
  grown : ∀ productId, received productId before.balances ≤ received productId after.balances

theorem Raised.refl (order : PurchaseOrderRow) : Raised order order := ⟨rfl, fun _ => le_refl _⟩

theorem Raised.trans {a b c : PurchaseOrderRow} (h : Raised a b) (h' : Raised b c) : Raised a c :=
  ⟨h'.products.trans h.products, fun productId => (h.grown productId).trans (h'.grown productId)⟩

variable {tolerances : ℚ → Prop} {ok : Served} {s s' : ProcurementDb} {writes : List Write}

theorem Receives.raised {ctx : RequestContext} {lines : List ReceiptLine}
    {old new : PurchaseOrderRow} {po : PurchaseOrder}
    (h : Receives tolerances s ctx lines old new po) (hwrites : .updateOrder ctx po ∈ writes)
    (hlowers : LowersNone s writes) : Raised old new := by
  obtain ⟨hid, _, _, hregisters⟩ := h.next
  obtain ⟨hpo, _, _, _, hbalances⟩ := PrismaPurchaseOrderMapper.toRow_eq_ok h.written
  refine ⟨hregisters.products, fun productId => ?_⟩
  by_cases hp : productId ∈ old.balances.map (·.productId)
  · obtain ⟨b, hb, rfl⟩ := List.mem_map.mp hp
    have hstored : s.orders.get? po.id = some old := by
      rw [← hpo, hid]
      exact h.stored
    have hgrown := hlowers _ hwrites old hstored b hb
    rw [(received_of_mem old.distinct_balances hb).2, hbalances]
    exact hgrown
  · rw [received_of_not_mem hp, received_of_not_mem (by rw [hregisters.products]; exact hp)]

theorem raised_put {old new : PurchaseOrderRow} (hold : s.orders.get? old.id = some old)
    (hid : new.id = old.id) (hraised : Raised old new) (horders : s'.orders = s.orders.put new)
    {id : String} {order : PurchaseOrderRow} (hstored : s.orders.get? id = some order) :
    ∃ order', s'.orders.get? id = some order' ∧ Raised order order' := by
  rw [horders]
  rcases get?_put_later hold hid hstored with ⟨rfl, hput⟩ | ⟨_, hput⟩
  · exact ⟨new, hput, hraised⟩
  · exact ⟨order, hput, .refl order⟩

/-- A commit that lowers no balance only raises orders. -/
theorem Committed.raised (h : Committed tolerances ok s writes s') (hlowers : LowersNone s writes)
    {id : String} {order : PurchaseOrderRow} (hstored : s.orders.get? id = some order) :
    ∃ order', s'.orders.get? id = some order' ∧ Raised order order' := by
  cases h with
  | registered receives wrote =>
    exact raised_put receives.stored receives.next.1
      (receives.raised List.mem_cons_self hlowers) wrote.orders hstored
  | transitioned command stored returned unreceived written wrote =>
    obtain ⟨hid, _, hbalances⟩ := command.next returned written
    refine raised_put stored hid ⟨by rw [hbalances], fun _ => ?_⟩ wrote.orders hstored
    rw [hbalances]
  | created positive built written fresh wrote =>
    refine ⟨order, ?_, .refl order⟩
    rw [wrote.orders]
    exact hstored
  | changed command rewrites wrote =>
    refine ⟨order, ?_, .refl order⟩
    rw [wrote.orders]
    exact hstored
  | posted receives order rewrites wrote =>
    exact raised_put receives.stored receives.next.1
      (receives.raised List.mem_cons_self hlowers) wrote.orders hstored
  | reversed receives order read completed growsRead readOrder grows met lines ofId ofOrder built
      written fresh wrote =>
    exact raised_put receives.stored receives.next.1
      (receives.raised List.mem_cons_self hlowers) wrote.orders hstored

/-- The post of a note: what it registers, on the order of the note. -/
structure Posted (s s' : ProcurementDb) (note : GrnRow) (before after : PurchaseOrderRow) :
    Prop where
  stored : s'.grns.get? note.id = some note
  completed : note.status = .completed
  storedBefore : s.orders.get? note.purchaseOrderId = some before
  storedAfter : s'.orders.get? note.purchaseOrderId = some after
  registers : ∃ tolerance,
    Registers tolerance (PrismaGrnMapper.toDomain note).receiptLines before.balances after.balances

/-- Whatever commit posts a note, it registers the lines of the note. -/
theorem Committed.posts (h : Committed tolerances ok s writes s') {id : String}
    (hposts : postsNote id writes = true) :
    ∃ note before after, note.id = id ∧ Posted s s' note before after := by
  cases h with
  | registered receives wrote => exact absurd hposts Bool.false_ne_true
  | transitioned command stored returned unreceived written wrote =>
    simp [postsNote, appendOrderEvents, Write.updatesGrn] at hposts
  | created positive built written fresh wrote =>
    simp [postsNote, appendGrnEvents, Write.updatesOrder] at hposts
  | changed command rewrites wrote =>
    simp [postsNote, appendGrnEvents, Write.updatesOrder] at hposts
  | reversed receives order read completed growsRead readOrder grows met lines ofId ofOrder built
      written fresh wrote =>
    simp [postsNote, appendGrnEvents, Write.updatesGrn] at hposts
  | @posted ctx actorId now old new oldOrder newOrder po grn s' receives order rewrites wrote =>
    obtain ⟨_, hstatus, hreference, hlines, _⟩ := complete_returned rewrites.returned
    obtain ⟨hid, _, horder, _, hnew, hreceipt⟩ := rewrites.next hreference
    obtain ⟨hnewOrder, _, _, hregisters⟩ := receives.next
    have hgrn : grn.id = old.id := congrArg Prod.fst hreference
    have hsame : old.id = id := by
      simpa [postsNote, appendGrnEvents, Write.updatesGrn,
        Write.updatesOrder, hgrn] using hposts
    have hbefore : s.orders.get? new.purchaseOrderId = some oldOrder := by
      rw [horder, ← order]
      exact receives.stored
    refine ⟨new, oldOrder, newOrder, hid.trans hsame, ?_, hnew.trans hstatus, hbefore, ?_,
      ctx.tolerance, ?_⟩
    · rw [wrote.grns, Table.get?_put (by rw [hid]; exact rewrites.stored), if_pos rfl]
    · have hkey : newOrder.id = new.purchaseOrderId := hnewOrder.trans (order.trans horder.symm)
      rw [wrote.orders, Table.get?_put (by rw [hkey]; exact hbefore), if_pos hkey]
    · rw [hreceipt, hlines]
      exact hregisters

end Between

/-- A return of positive lines fits exactly where no balance it lowers stays over its limit. -/
theorem returns_iff {tolerance : ℚ} {lines : List ReceiptLine} {order : PurchaseOrderRow}
    (hdistinct : (lines.map (·.productId)).Nodup)
    (hwhole : ∀ line ∈ lines, 0 < line.receivedQuantity ∧ line.receivedQuantity.den = 1)
    (hproducts : ∀ line ∈ lines, line.productId ∈ order.balances.map (·.productId)) :
    (∃ bs', Registers tolerance (lines.map fun l => ⟨l.productId, -l.receivedQuantity⟩)
        order.balances bs') ↔
      ∀ b ∈ order.balances, total b.productId lines ≠ 0 →
        b.receivedQuantity - total b.productId lines ≤ b.quantity * (1 + tolerance) := by
  have hreturned : (lines.map fun l : ReceiptLine =>
      (⟨l.productId, -l.receivedQuantity⟩ : ReceiptLine)).map (·.productId) =
        lines.map (·.productId) := by
    rw [List.map_map]
    rfl
  rw [registers_iff (by rw [hreturned]; exact hdistinct)]
  constructor
  · intro hfits b hb htotal
    have hp : b.productId ∈ lines.map (·.productId) := by
      by_contra hnot
      exact htotal (total_eq_zero hnot)
    obtain ⟨line, hline, hsame⟩ := List.mem_map.mp hp
    obtain ⟨_, b', hb', hlimit⟩ := hfits _ (List.mem_map_of_mem hline)
    rw [show line.productId = b.productId from hsame,
      (received_of_mem order.distinct_balances hb).1] at hb'
    obtain rfl := Option.some.inj hb'
    rw [← hsame, total_of_mem hdistinct hline, sub_eq_add_neg]
    exact hlimit
  · intro hcondition returned hreturned
    obtain ⟨line, hline, rfl⟩ := List.mem_map.mp hreturned
    obtain ⟨b, hb, hsame⟩ := List.mem_map.mp (hproducts line hline)
    obtain ⟨hpos, hden⟩ := hwhole line hline
    have htotal : total b.productId lines = line.receivedQuantity := by
      rw [hsame]
      exact total_of_mem hdistinct hline
    refine ⟨den_neg hden, b, ?_, ?_⟩
    · rw [show line.productId = b.productId from hsame.symm]
      exact (received_of_mem order.distinct_balances hb).1
    · have hlimit := hcondition b hb (by rw [htotal]; exact hpos.ne')
      rw [htotal, sub_eq_add_neg] at hlimit
      exact hlimit

/-- On every line of the order the amount was given back, and no line is below zero. -/
def Undone (amount : String → ℚ) (order : PurchaseOrderRow) (s' : ProcurementDb) : Prop :=
  ∃ order', s'.orders.get? order.id = some order' ∧
    order'.balances = order.balances.map (fun b =>
      { b with receivedQuantity := b.receivedQuantity - amount b.productId }) ∧
    ∀ b ∈ order'.balances, 0 ≤ b.receivedQuantity

section Undoing

variable {wiring : Wiring} {ctx : RequestContext} {s : ProcurementDb} {note : GrnRow}
variable {order : PurchaseOrderRow} {actorId : Option String} {reversalId grnNumber : String}
variable {now : Nat}

/-- Of an order that holds what the note posted, a reversal gives back exactly that, where no
line it lowers stays over its limit. -/
theorem undone_iff (h : Reversible wiring ctx s note order reversalId grnNumber)
    (hpositive : (PrismaGrnMapper.toDomain note).Positive)
    (hproducts : ∀ line ∈ (PrismaGrnMapper.toDomain note).receiptLines,
      line.productId ∈ order.balances.map (·.productId))
    (hheld : ∀ productId, total productId (PrismaGrnMapper.toDomain note).receiptLines ≤
      received productId order.balances) :
    (∃ s', reverseAlone wiring ctx note.id actorId reversalId grnNumber now s = (.ok (), s') ∧
      Undone (fun productId => total productId (PrismaGrnMapper.toDomain note).receiptLines)
        order s') ↔
      ∀ b ∈ order.balances, total b.productId (PrismaGrnMapper.toDomain note).receiptLines ≠ 0 →
        b.receivedQuantity - total b.productId (PrismaGrnMapper.toDomain note).receiptLines ≤
          b.quantity * (1 + ctx.tolerance) := by
  have hstorable := PrismaGrnMapper.storable_toDomain note
  have hdistinct : ((PrismaGrnMapper.toDomain note).receiptLines.map (·.productId)).Nodup := by
    rw [products_receiptLines]
    exact hstorable.distinct
  have hwhole : ∀ line ∈ (PrismaGrnMapper.toDomain note).receiptLines,
      0 < line.receivedQuantity ∧ line.receivedQuantity.den = 1 := by
    intro line hline
    refine ⟨postedQuantity_pos hpositive line hline, ?_⟩
    obtain ⟨original, horiginal, rfl⟩ := List.mem_map.mp hline
    exact postedQuantity_whole hstorable horiginal
  have hreturns := @returns_iff ctx.tolerance _ order hdistinct hwhole hproducts
  rw [← hreturns, ← returnLines_eq]
  have hbalances := PrismaPurchaseOrderMapper.balances_toDomain order
  rcases @reverseAlone_cases wiring ctx s note order actorId reversalId grnNumber now h hpositive
    with ⟨po, new, s', hopened, hwritten, horders, hran⟩ | ⟨e, po, hopened, hran⟩
  · obtain ⟨hid, _, _, _, hnew⟩ := PrismaPurchaseOrderMapper.toRow_eq_ok hwritten
    obtain ⟨_, hregisters⟩ := openPoForReceipt_returned hopened
    rw [hbalances, ← hnew] at hregisters
    refine ⟨fun _ => ⟨new.balances, hregisters⟩, fun _ => ⟨s', hran, new, ?_, ?_, ?_⟩⟩
    · have hkey := congrArg Prod.fst
        ((openPoForReceipt_fixes _ ctx.tolerance none now).of_returned hopened)
      have hnewId : new.id = order.id := hid.trans hkey
      have hstored := h.storedOrder
      rw [← Table.key_of_get? hstored, ← hnewId] at hstored
      rw [horders, Table.get?_put hstored, if_pos hnewId]
    · rw [hregisters.eq_map order.distinct_balances, returnLines_eq]
      refine List.map_congr_left fun b _ => ?_
      rw [total_neg, sub_eq_add_neg]
    · intro b hb
      rw [hregisters.eq_map order.distinct_balances, returnLines_eq] at hb
      obtain ⟨original, horiginal, rfl⟩ := List.mem_map.mp hb
      have hheld' := hheld original.productId
      rw [(received_of_mem order.distinct_balances horiginal).2] at hheld'
      show 0 ≤ original.receivedQuantity + total original.productId _
      rw [total_neg]
      linarith
  · refine ⟨?_, ?_⟩
    · rintro ⟨s', hok, _⟩
      rw [hran] at hok
      cases hok
    · rintro ⟨bs', hregisters⟩
      rw [← hbalances] at hregisters
      obtain ⟨po', hopened'⟩ := @openPoForReceipt_returns _ _ _ none now _ h.eligible hregisters
      rw [hopened] at hopened'
      cases hopened'

end Undoing

section Runs

variable {wiring : Wiring} {P Q Q₀ Q₁ : Pool (procurementSystem wiring)}
variable {trace trace₀ : List (Label (procurementSystem wiring))}

/-- No condition on the requests served. -/
abbrev anyServed : Served := fun _ _ _ _ => True

theorem Run.anyServed {ok : Pool (procurementSystem wiring) → Label (procurementSystem wiring) → Prop}
    (h : Run ok P trace Q) : Run (onServed Procurement.anyServed) P trace Q := by
  refine h.mono fun R l _ => ?_
  cases l <;> trivial

/-- What the guarantees keep under a condition on the requests, a run under it keeps. -/
theorem kept_of_run {ok : Served} {Inv : ProcurementDb → Prop}
    (hsecure : (discipline wiring (fun _ => True) anyServed).AllSecure anyServed P)
    (hkeeps : ∀ s q a front s', Inv s → ok s q a front →
      Guarantees (fun _ => True) anyServed s q a front s' → Inv s')
    (hrun : Run (onServed ok) P trace Q) (hinv : Inv P.store) : Inv Q.store := by
  induction hrun with
  | nil => exact hinv
  | @snoc trace Q R l hrun hok hstep ih =>
    have hQ := Discipline.AllSecure.run (fun e s h => program_secure e s h) covers_onServed
      (Run.anyServed hrun) hsecure
    cases l with
    | start e =>
      cases hstep
      exact ih
    | raised i q =>
      cases hstep
      exact ih
    | served i q a front => exact hkeeps _ _ _ _ _ ih hok (hQ.served hstep trivial)

/-- What a step added of a product to an order. -/
def postedAmount (before after : PurchaseOrderRow) (productId : String) : ℚ :=
  received productId after.balances - received productId before.balances

/-- The store a run of receipts leads to: notes follow what they were, the order was raised. -/
structure ReceivedSince (s : ProcurementDb) (order : PurchaseOrderRow) (s' : ProcurementDb) : Prop where
  grows : Grows s s'
  raised : ∃ order', s'.orders.get? order.id = some order' ∧ Raised order order'
  positive : s'.Positive

theorem receivedSince_step {s t t' : ProcurementDb} {order : PurchaseOrderRow}
    {q : ProcurementRequest} {a : q.Answer} {front : Front ProcurementRequest.interface}
    (h : ReceivedSince s order t) (hok : receiptsOnly t q a front)
    (hguarantee : Guarantees (fun _ => True) anyServed t q a front t') :
    ReceivedSince s order t' := by
  obtain ⟨hgrows, ⟨order', horder', hraised⟩, hpositive⟩ := h
  cases hguarantee with
  | committed commits settled =>
    obtain ⟨order'', horder'', hraised'⟩ := commits.raised hok horder'
    exact ⟨hgrows.trans commits.grows, ⟨order'', horder'', hraised.trans hraised'⟩,
      commits.positive hpositive⟩
  | refused untouched =>
    refine ⟨hgrows.trans untouched.grows, ⟨order', ?_, hraised⟩, hpositive.of_grns untouched.grns⟩
    rw [untouched.orders]
    exact horder'
  | read reads untouched =>
    refine ⟨hgrows.trans untouched.grows, ⟨order', ?_, hraised⟩, hpositive.of_grns untouched.grns⟩
    rw [untouched.orders]
    exact horder'

theorem positive_step {s s' : ProcurementDb} {q : ProcurementRequest} {a : q.Answer}
    {front : Front ProcurementRequest.interface}
    (hguarantee : Guarantees (fun _ => True) anyServed s q a front s') (h : s.Positive) :
    s'.Positive := by
  cases hguarantee with
  | committed commits settled => exact commits.positive h
  | refused untouched => exact h.of_grns untouched.grns
  | read reads untouched => exact h.of_grns untouched.grns

open Scenario

/-- Of ten bolts one was posted for note `a`, and fifteen have come when it can be reversed. -/
def OneOfFifteen (tolerance : ℚ) (s₀ s₁ s : ProcurementDb) : Prop :=
  (s₀.orders.get? "po" = some (orderFor 10 0)) ∧
    (∃ order ∈ s₁.orders.get? "po", order.balances = [⟨"bolt", 10, 1⟩]) ∧
    ∃ note ∈ s.grns.get? "a", ∃ order ∈ s.orders.get? "po",
      (note.id = "a" ∧ note.purchaseOrderId = "po" ∧ note.reversalOfId = none) ∧
      Reversible allowing (officer tolerance) s note order "r" "r" ∧
      order.balances = [⟨"bolt", 10, 15⟩]

instance decidableOneOfFifteen (tolerance : ℚ) (s₀ s₁ s : ProcurementDb) :
    Decidable (OneOfFifteen tolerance s₀ s₁ s) := by
  unfold OneOfFifteen
  infer_instance

instance decidablePools (tolerance : ℚ) (Q₀ Q₁ Q : DemoPool) :
    Decidable (OneOfFifteen tolerance Q₀.store Q₁.store Q.store) :=
  decidableOneOfFifteen tolerance Q₀.store Q₁.store Q.store

/-- One bolt and then fourteen, posted under a tolerance of one half. -/
theorem one_of_fifteen :
    ∃ (Q₀ Q₁ Q : DemoPool) (trace₀ trace : List (Label (procurementSystem allowing))) (i : Nat)
      (writes : List Write) (front : Front ProcurementRequest.interface),
      Run (fun _ _ => True)
        (poolOf (orderFor 10 0) [noteOf "a" .received 1 1 0, noteOf "b" .received 14 14 0]) trace₀
        Q₀ ∧
      Step (procurementSystem allowing) Q₀ (.served i (.commit writes) (.ok ()) front) Q₁ ∧
      postsNote "a" writes = true ∧ Run (onServed receiptsOnly) Q₁ trace Q ∧
      OneOfFifteen 0 Q₀.store Q₁.store Q.store ∧
      OneOfFifteen (1 / 2) Q₀.store Q₁.store Q.store ∧
      (reverseAlone allowing (officer 0) "a" none "r" "r" 0 Q.store).1.isOk = false := by
  have hplay : (((poolOf (orderFor 10 0)
      [noteOf "a" .received 1 1 0, noteOf "b" .received 14 14 0]).play (fun _ _ => True)
      (post "a" (1 / 2) :: serve 0 2)).bind fun Q₀ => (Q₀.move (.serve 0 ())).bind fun r =>
        (r.2.play (onServed receiptsOnly) (post "b" (1 / 2) :: serve 1 3)).map fun (Q : DemoPool) =>
          decide (committing (postsNote "a") r.1 = true ∧
            OneOfFifteen 0 Q₀.store r.2.store Q.store ∧
            OneOfFifteen (1 / 2) Q₀.store r.2.store Q.store ∧
            (reverseAlone allowing (officer 0) "a" none "r" "r" 0 Q.store).1.isOk = false)) =
      some true := by
    decide +kernel
  obtain ⟨Q₀, ⟨l, Q₁⟩, Q, trace₀, trace, hrun₀, hstep, hrun, hcommits, hshown⟩ :=
    Pool.play_step_reach hplay
  obtain ⟨i, writes, front, rfl, hposts⟩ := committing_eq_true hcommits
  exact ⟨Q₀, Q₁, Q, trace₀, trace, i, writes, front, hrun₀, hstep, hposts, hrun, hshown⟩

end Runs

end DddBoilerplate.Procurement
