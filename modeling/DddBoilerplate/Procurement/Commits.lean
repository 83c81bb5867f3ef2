/- module: DddBoilerplate/Procurement/Commits
   generality: I
   digest: What one commit can do to the procurement database, and that every use case commits only that. -/

import DddBoilerplate.Concurrency.RelyGuarantee
import DddBoilerplate.Procurement.Documents

set_option autoImplicit false
set_option relaxedAutoImplicit false
set_option linter.all false

namespace DddBoilerplate.Procurement

open Concurrency Domain Messaging Store

section Writes

variable {db db' : ProcurementDb} {ctx : RequestContext}

theorem apply_updateOrder {po : PurchaseOrder} (h : Write.apply db (.updateOrder ctx po) = .ok db') :
    ∃ stored row, db.orders.get? po.id = some stored ∧ stored.version = po.version ∧
      PrismaPurchaseOrderMapper.toRow po stored.tenantId stored.companyId (stored.version + 1) =
        .ok row ∧
      db' = { db with orders := db.orders.put row } := by
  simp only [Write.apply] at h
  split at h
  · cases h
  · rename_i stored hstored
    split at h
    · rename_i hguard
      cases hrow : PrismaPurchaseOrderMapper.toRow po stored.tenantId stored.companyId
          (stored.version + 1) with
      | error e =>
        rw [hrow] at h
        cases h
      | ok row =>
        rw [hrow] at h
        cases h
        exact ⟨stored, row, hstored, hguard.1, hrow, rfl⟩
    · cases h

theorem apply_updateGrn {grn : GoodReceiptNote}
    (h : Write.apply db (.updateGrn ctx grn) = .ok db') :
    ∃ stored row, db.grns.get? grn.id = some stored ∧ stored.version = grn.version ∧
      PrismaGrnMapper.toRow grn stored.tenantId stored.companyId (stored.version + 1) = some row ∧
      db' = { db with grns := db.grns.put row } := by
  simp only [Write.apply] at h
  split at h
  · cases h
  · rename_i stored hstored
    split at h
    · rename_i hguard
      split at h
      · cases h
      · rename_i row hrow
        cases h
        exact ⟨stored, row, hstored, hguard.1, hrow, rfl⟩
    · cases h

theorem apply_saveGrn {grn : GoodReceiptNote} (h : Write.apply db (.saveGrn ctx grn) = .ok db') :
    ∃ row, PrismaGrnMapper.toRow grn ctx.tenantId ctx.company 1 = some row ∧
      db.grns.get? row.id = none ∧ db' = { db with grns := db.grns.insert row } := by
  simp only [Write.apply] at h
  split at h
  · cases h
  · rename_i row hrow
    split at h
    · rename_i hfree
      cases h
      exact ⟨row, hrow, hfree.1, rfl⟩
    · cases h

/-- The events behind the other writes only lengthen the outbox. -/
theorem foldlM_append {α : Type} (f : α → DomainEvent) (type id : String) (xs : List α) :
    ∃ outbox, outbox.map Envelope.event = db.outbox.map Envelope.event ++ xs.map f ∧
      (xs.map fun x => Write.append ctx type id (f x)).foldlM Write.apply db =
        .ok { db with outbox := outbox } := by
  induction xs generalizing db with
  | nil => exact ⟨db.outbox, by simp, rfl⟩
  | cons x xs ih =>
    obtain ⟨outbox, hevents, hfold⟩ := @ih { db with
      outbox := db.outbox ++ [⟨db.outbox.length, ctx.tenantId, ctx.companyId, type, id, f x⟩] }
    refine ⟨outbox, ?_, hfold⟩
    rw [hevents]
    simp

theorem foldlM_cons_ok {w : Write} {ws : List Write} (h : (w :: ws).foldlM Write.apply db = .ok db') :
    ∃ middle, Write.apply db w = .ok middle ∧ ws.foldlM Write.apply middle = .ok db' := by
  rw [List.foldlM_cons] at h
  cases hw : Write.apply db w with
  | error e =>
    rw [hw] at h
    cases h
  | ok middle =>
    rw [hw] at h
    exact ⟨middle, rfl, h⟩

end Writes

/-- A row of a note and one found for it later: what it refers to stays, and what it posted. -/
structure Follows (row row' : GrnRow) : Prop where
  version : row' = row ∨ row.version < row'.version
  order : row'.purchaseOrderId = row.purchaseOrderId
  reversal : row'.reversalOfId = row.reversalOfId
  posted : row.status = .completed → row'.status = .completed ∧
    (PrismaGrnMapper.toDomain row').receiptLines = (PrismaGrnMapper.toDomain row).receiptLines

theorem Follows.refl (row : GrnRow) : Follows row row := ⟨.inl rfl, rfl, rfl, fun h => ⟨h, rfl⟩⟩

theorem Follows.trans {a b c : GrnRow} (h : Follows a b) (h' : Follows b c) : Follows a c := by
  refine ⟨?_, h'.order.trans h.order, h'.reversal.trans h.reversal, fun hcompleted => ?_⟩
  · rcases h.version with rfl | hv
    · exact h'.version
    · rcases h'.version with rfl | hv'
      · exact .inr hv
      · exact .inr (Nat.lt_trans hv hv')
  · obtain ⟨hb, hlines⟩ := h.posted hcompleted
    obtain ⟨hc, hlines'⟩ := h'.posted hb
    exact ⟨hc, hlines'.trans hlines⟩

/-- What the others may have done meanwhile: a row may have a later version, else it is the
same; a note follows what it was; and a new reversal moved its order's version. -/
structure Grows (s s' : ProcurementDb) : Prop where
  orders : ∀ id row, s.orders.get? id = some row →
    ∃ row', s'.orders.get? id = some row' ∧ (row' = row ∨ row.version < row'.version)
  grns : ∀ id row, s.grns.get? id = some row →
    ∃ row', s'.grns.get? id = some row' ∧ Follows row row'
  reversals : ∀ row ∈ s'.grns.rows, s.grns.get? row.id = none → row.reversalOfId ≠ none →
    ∀ order, s.orders.get? row.purchaseOrderId = some order →
      ∃ order', s'.orders.get? row.purchaseOrderId = some order' ∧ order.version < order'.version

namespace Grows

variable {s t u : ProcurementDb}

theorem of_same (horders : t.orders = s.orders) (hgrns : t.grns = s.grns) : Grows s t := by
  refine ⟨fun id row h => ⟨row, ?_, .inl rfl⟩, fun id row h => ⟨row, ?_, .refl row⟩, ?_⟩
  · rw [horders]
    exact h
  · rw [hgrns]
    exact h
  · intro row hmem hnew
    rw [hgrns] at hmem
    rw [Table.get?_of_mem hmem] at hnew
    cases hnew

theorem refl (s : ProcurementDb) : Grows s s := of_same rfl rfl

theorem trans (h : Grows s t) (h' : Grows t u) : Grows s u := by
  refine ⟨fun id row hrow => ?_, fun id row hrow => ?_, fun row hmem hnew hreversal order horder => ?_⟩
  · obtain ⟨row₁, h₁, hv₁⟩ := h.orders id row hrow
    obtain ⟨row₂, h₂, hv₂⟩ := h'.orders id row₁ h₁
    refine ⟨row₂, h₂, ?_⟩
    rcases hv₁ with rfl | hv₁
    · exact hv₂
    · rcases hv₂ with rfl | hv₂
      · exact .inr hv₁
      · exact .inr (Nat.lt_trans hv₁ hv₂)
  · obtain ⟨row₁, h₁, hf₁⟩ := h.grns id row hrow
    obtain ⟨row₂, h₂, hf₂⟩ := h'.grns id row₁ h₁
    exact ⟨row₂, h₂, hf₁.trans hf₂⟩
  · obtain ⟨order₁, ho₁, hv₁⟩ := h.orders _ _ horder
    obtain ⟨order₂, ho₂, hv₂⟩ := h'.orders _ _ ho₁
    refine ⟨order₂, ho₂, ?_⟩
    cases hmiddle : t.grns.get? row.id with
    | none =>
      -- the reversal came in the second part
      obtain ⟨order', ho', hlt⟩ := h'.reversals row hmem hmiddle hreversal order₁ ho₁
      rw [ho₂] at ho'
      cases ho'
      rcases hv₁ with rfl | hv₁
      · exact hlt
      · exact Nat.lt_trans hv₁ hlt
    | some row₁ =>
      obtain ⟨row', hrow', hfollows⟩ := h'.grns _ _ hmiddle
      rw [Table.get?_of_mem hmem] at hrow'
      cases hrow'
      have hid : row₁.id = row.id := Table.key_of_get? hmiddle
      have hlt : ∃ order', t.orders.get? row₁.purchaseOrderId = some order' ∧
          order.version < order'.version := by
        refine h.reversals row₁ (Table.mem_of_get? hmiddle) ?_ ?_ order ?_
        · rw [hid]
          exact hnew
        · rw [← hfollows.reversal]
          exact hreversal
        · rw [← hfollows.order]
          exact horder
      obtain ⟨order', ho', hlt⟩ := hlt
      rw [← hfollows.order, ho₁] at ho'
      cases ho'
      rcases hv₂ with rfl | hv₂
      · exact hlt
      · exact Nat.lt_trans hlt hv₂

/-- A row that is found again unchanged was there in between. -/
theorem order_between (h : Grows s t) (h' : Grows t u) {id : String} {row : PurchaseOrderRow}
    (hfirst : s.orders.get? id = some row) (hlast : u.orders.get? id = some row) :
    t.orders.get? id = some row := by
  obtain ⟨middle, hmiddle, hv⟩ := h.orders id row hfirst
  obtain ⟨last, hlast', hv'⟩ := h'.orders id middle hmiddle
  rw [hlast] at hlast'
  cases hlast'
  rcases hv with rfl | hlt
  · exact hmiddle
  · rcases hv' with rfl | hlt'
    · exact hmiddle
    · omega

/-- A row that still has the version read is the row read. -/
theorem order_eq (h : Grows s t) {id : String} {row stored : PurchaseOrderRow}
    (hrow : s.orders.get? id = some row) (hstored : t.orders.get? id = some stored)
    (hversion : stored.version = row.version) : stored = row := by
  obtain ⟨row', hrow', hv⟩ := h.orders id row hrow
  rw [hstored] at hrow'
  cases hrow'
  rcases hv with heq | hlt
  · exact heq
  · omega

theorem grn_eq (h : Grows s t) {id : String} {row stored : GrnRow}
    (hrow : s.grns.get? id = some row) (hstored : t.grns.get? id = some stored)
    (hversion : stored.version = row.version) : stored = row := by
  obtain ⟨row', hrow', hfollows⟩ := h.grns id row hrow
  rw [hstored] at hrow'
  cases hrow'
  rcases hfollows.version with heq | hlt
  · exact heq
  · omega

end Grows

/-- An order read, opened for the receipt within an admitted tolerance, and written back. -/
structure Receives (tolerances : ℚ → Prop) (s : ProcurementDb) (ctx : RequestContext) (lines : List ReceiptLine)
    (old new : PurchaseOrderRow) (po : PurchaseOrder) : Prop where
  admitted : tolerances ctx.tolerance
  stored : s.orders.get? old.id = some old
  opened : ∃ actorId now, PurchaseOrderFactory.openPoForReceipt lines ctx.tolerance actorId now
    (PrismaPurchaseOrderMapper.toDomain old) = (.ok (), po)
  written : PrismaPurchaseOrderMapper.toRow po old.tenantId old.companyId (old.version + 1) =
    .ok new

/-- A note read, changed by one method and written back. -/
structure Rewrites (s : ProcurementDb) (method : GoodReceiptNote.GrnMethod Unit)
    (old new : GrnRow) (grn : GoodReceiptNote) : Prop where
  stored : s.grns.get? old.id = some old
  returned : method (PrismaGrnMapper.toDomain old) = (.ok (), grn)
  written : PrismaGrnMapper.toRow grn old.tenantId old.companyId (old.version + 1) = some new

/-- The database after a commit, by table; of the outbox, the events. -/
structure Wrote (s s' : ProcurementDb) (orders : Table PurchaseOrderRow.id)
    (grns : Table GrnRow.id) (events : List DomainEvent) : Prop where
  orders : s'.orders = orders
  grns : s'.grns = grns
  events : s'.outbox.map Envelope.event = s.outbox.map Envelope.event ++ events

/-- A condition on the requests served. -/
abbrev Served :=
  ProcurementDb → (q : ProcurementRequest) → q.Answer → Front ProcurementRequest.interface → Prop

variable (tolerances : ℚ → Prop) (ok : Served)

/-- What a commit can be. An order is cancelled without receipts only; a reversal also tells of
the databases its note and its order were read from. -/
inductive Committed (s : ProcurementDb) : List Write → ProcurementDb → Prop where
  | registered {ctx : RequestContext} {lines : List ReceiptLine} {old new : PurchaseOrderRow}
      {po : PurchaseOrder} {s' : ProcurementDb}
      (receives : Receives tolerances s ctx lines old new po)
      (wrote : Wrote s s' (s.orders.put new) s.grns []) :
      Committed s [Write.updateOrder ctx po] s'
  | transitioned {ctx : RequestContext} {method : PurchaseOrder.OrderMethod Unit}
      {old new : PurchaseOrderRow} {po : PurchaseOrder} {s' : ProcurementDb}
      (command : IsOrderCommand method) (stored : s.orders.get? old.id = some old)
      (returned : method (PrismaPurchaseOrderMapper.toDomain old) = (.ok (), po))
      (unreceived : po.status = .cancelled → old.hasReceipts = false)
      (written : PrismaPurchaseOrderMapper.toRow po old.tenantId old.companyId (old.version + 1) =
        .ok new)
      (wrote : Wrote s s' (s.orders.put new) s.grns (po.events.map .order)) :
      Committed s ([Write.updateOrder ctx po] ++ appendOrderEvents ctx po) s'
  | created {ctx : RequestContext} {input : CreateGrnInput} {id : String} {now : Nat}
      {grn : GoodReceiptNote} {row : GrnRow} {s' : ProcurementDb}
      (positive : ∀ line ∈ input.lines, 1 ≤ line.receivedQuantity)
      (built : GrnFactory.create input id now = .ok grn)
      (written : PrismaGrnMapper.toRow grn ctx.tenantId ctx.company 1 = some row)
      (fresh : s.grns.get? row.id = none)
      (wrote : Wrote s s' s.orders (s.grns.insert row) (grn.events.map .grn)) :
      Committed s ([Write.saveGrn ctx grn] ++ appendGrnEvents ctx grn) s'
  | changed {ctx : RequestContext} {method : GoodReceiptNote.GrnMethod Unit} {old new : GrnRow}
      {grn : GoodReceiptNote} {s' : ProcurementDb} (command : IsGrnCommand method)
      (rewrites : Rewrites s method old new grn)
      (wrote : Wrote s s' s.orders (s.grns.put new) (grn.events.map .grn)) :
      Committed s ([Write.updateGrn ctx grn] ++ appendGrnEvents ctx grn) s'
  | posted {ctx : RequestContext} {actorId : Option String} {now : Nat} {old new : GrnRow}
      {oldOrder newOrder : PurchaseOrderRow} {po : PurchaseOrder} {grn : GoodReceiptNote}
      {s' : ProcurementDb}
      (receives : Receives tolerances s ctx (PrismaGrnMapper.toDomain old).receiptLines oldOrder
        newOrder po)
      (order : oldOrder.id = old.purchaseOrderId)
      (rewrites : Rewrites s (GoodReceiptNote.complete actorId now) old new grn)
      (wrote : Wrote s s' (s.orders.put newOrder) (s.grns.put new) (grn.events.map .grn)) :
      Committed s
        ([Write.updateOrder ctx po] ++ [Write.updateGrn ctx grn] ++ appendGrnEvents ctx grn) s'
  | reversed {ctx : RequestContext} {original row : GrnRow} {input : CreateGrnReversalInput}
      {id : String} {now : Nat} {reversal : GoodReceiptNote}
      {oldOrder newOrder : PurchaseOrderRow} {po : PurchaseOrder} {s₀ s₁ s' : ProcurementDb}
      (receives : Receives tolerances s ctx
        (input.lines.map fun l => ⟨l.productId, l.receivedQuantity⟩) oldOrder newOrder po)
      (order : oldOrder.id = original.purchaseOrderId)
      (read : s₀.grns.get? original.id = some original)
      (completed : original.status = .completed)
      (growsRead : Grows s₀ s₁)
      (readOrder : s₁.orders.get? oldOrder.id = some oldOrder)
      (grows : Grows s₁ s)
      (met : ok s₁ (.findOrder ctx original.purchaseOrderId) (some oldOrder)
        (.asks (ProcurementRequest.commit
          ([Write.updateOrder ctx po] ++ [Write.saveGrn ctx reversal] ++
            appendGrnEvents ctx reversal))))
      (lines : input.lines = (PrismaGrnMapper.toDomain original).reversalLines)
      (ofId : input.reversalOfId = original.id)
      (ofOrder : input.purchaseOrderId = original.purchaseOrderId)
      (built : GrnFactory.createReversal input id now = .ok reversal)
      (written : PrismaGrnMapper.toRow reversal ctx.tenantId ctx.company 1 = some row)
      (fresh : s.grns.get? row.id = none)
      (wrote : Wrote s s' (s.orders.put newOrder) (s.grns.insert row) (reversal.events.map .grn)) :
      Committed s
        ([Write.updateOrder ctx po] ++ [Write.saveGrn ctx reversal] ++ appendGrnEvents ctx reversal)
        s'

section Growth

variable {tolerances ok}
variable {s s' : ProcurementDb} {ctx : RequestContext}

/-- The row written for an order opened for a receipt is the next version of the row read. -/
theorem Receives.next {lines : List ReceiptLine} {old new : PurchaseOrderRow} {po : PurchaseOrder}
    (h : Receives tolerances s ctx lines old new po) :
    new.id = old.id ∧ new.version = old.version + 1 ∧ old.status.Eligible ∧
      Registers ctx.tolerance lines old.balances new.balances := by
  obtain ⟨actorId, now, hopened⟩ := h.opened
  obtain ⟨hid, hversion, _, _, hbalances⟩ := PrismaPurchaseOrderMapper.toRow_eq_ok h.written
  obtain ⟨heligible, hregisters⟩ := openPoForReceipt_returned hopened
  have hkey := (openPoForReceipt_fixes lines ctx.tolerance actorId now).of_returned hopened
  rw [PrismaPurchaseOrderMapper.balances_toDomain, ← hbalances] at hregisters
  exact ⟨hid.trans (congrArg Prod.fst hkey), hversion, heligible, hregisters⟩

/-- The row written for an order a command was called on is the next version of the row read,
with the same balances. -/
theorem IsOrderCommand.next {method : PurchaseOrder.OrderMethod Unit} {old new : PurchaseOrderRow}
    {po : PurchaseOrder} (hcommand : IsOrderCommand method)
    (hreturned : method (PrismaPurchaseOrderMapper.toDomain old) = (.ok (), po))
    (hwritten : PrismaPurchaseOrderMapper.toRow po old.tenantId old.companyId (old.version + 1) =
      .ok new) :
    new.id = old.id ∧ new.version = old.version + 1 ∧ new.balances = old.balances := by
  obtain ⟨hid, hversion, _, _, hbalances⟩ := PrismaPurchaseOrderMapper.toRow_eq_ok hwritten
  have hfixed := hcommand.fixes.of_returned hreturned
  simp only [Prod.mk.injEq] at hfixed
  obtain ⟨hkey, hlines⟩ := hfixed
  refine ⟨hid.trans (congrArg Prod.fst hkey), hversion, ?_⟩
  rw [hbalances, ← PrismaPurchaseOrderMapper.balances_toDomain]
  unfold PurchaseOrder.balances
  rw [hlines]

/-- The row written for a note is the next version of the row read, where the method kept what
the note refers to. -/
theorem Rewrites.next {method : GoodReceiptNote.GrnMethod Unit} {old new : GrnRow}
    {grn : GoodReceiptNote} (h : Rewrites s method old new grn)
    (hreference : grn.reference = (PrismaGrnMapper.toDomain old).reference) :
    new.id = old.id ∧ new.version = old.version + 1 ∧ new.purchaseOrderId = old.purchaseOrderId ∧
      new.reversalOfId = old.reversalOfId ∧ new.status = grn.status ∧
      (PrismaGrnMapper.toDomain new).receiptLines = grn.receiptLines := by
  obtain ⟨hid, hversion, horder, hreversal, hstatus, hlines⟩ := PrismaGrnMapper.toRow_holds h.written
  simp only [GoodReceiptNote.reference, Prod.mk.injEq] at hreference
  obtain ⟨hid', _, horder', hreversal'⟩ := hreference
  exact ⟨hid.trans hid', hversion, horder.trans horder', hreversal.trans hreversal', hstatus, hlines⟩

theorem Rewrites.follows {method : GoodReceiptNote.GrnMethod Unit} {old new : GrnRow}
    {grn : GoodReceiptNote} (h : Rewrites s method old new grn)
    (hreference : grn.reference = (PrismaGrnMapper.toDomain old).reference)
    (hposted : old.status = .completed → grn.status = .completed ∧
      grn.receiptLines = (PrismaGrnMapper.toDomain old).receiptLines) :
    new.id = old.id ∧ Follows old new := by
  obtain ⟨hid, hversion, horder, hreversal, hstatus, hlines⟩ := h.next hreference
  refine ⟨hid, .inr (by omega), horder, hreversal, fun hcompleted => ?_⟩
  rw [hstatus, hlines]
  exact hposted hcompleted

/-- One row replaced by a later version of it. -/
theorem get?_put_later {ρ : Type} {key : ρ → String} {t : Table key} {old new : ρ}
    (hstored : t.get? (key old) = some old) (hkey : key new = key old) {id : String} {row : ρ}
    (hrow : t.get? id = some row) :
    (row = old ∧ (t.put new).get? id = some new) ∨
      (key new ≠ id ∧ (t.put new).get? id = some row) := by
  rw [← hkey] at hstored
  rw [Table.get?_put hstored]
  by_cases hid : key new = id
  · subst hid
    rw [hrow] at hstored
    rw [if_pos rfl]
    exact .inl ⟨Option.some.inj hstored, rfl⟩
  · rw [if_neg hid]
    exact .inr ⟨hid, hrow⟩

/-- Notes are only added, or written as later versions; what may be added besides is a reversal
whose order was written, too. -/
theorem Grows.of_orders_put {old new : PurchaseOrderRow} (hstored : s.orders.get? old.id = some old)
    (hid : new.id = old.id) (hversion : new.version = old.version + 1)
    (horders : s'.orders = s.orders.put new)
    (hgrns : ∀ id row, s.grns.get? id = some row →
      ∃ row', s'.grns.get? id = some row' ∧ Follows row row')
    (hnew : ∀ row ∈ s'.grns.rows, s.grns.get? row.id = none → row.purchaseOrderId = old.id) :
    Grows s s' := by
  refine ⟨fun id row hrow => ?_, hgrns, fun row hmem hfresh _ order horder => ?_⟩
  · rw [horders]
    rcases get?_put_later hstored hid hrow with ⟨rfl, hput⟩ | ⟨_, hput⟩
    · exact ⟨new, hput, .inr (by omega)⟩
    · exact ⟨row, hput, .inl rfl⟩
  · rw [horders]
    rw [hnew row hmem hfresh] at horder ⊢
    rcases get?_put_later hstored hid horder with ⟨rfl, hput⟩ | ⟨hne, _⟩
    · exact ⟨new, hput, by omega⟩
    · exact absurd hid hne

/-- Where the orders stay, a note may be added that is no reversal. -/
theorem Grows.of_orders (horders : s'.orders = s.orders)
    (hgrns : ∀ id row, s.grns.get? id = some row →
      ∃ row', s'.grns.get? id = some row' ∧ Follows row row')
    (hnew : ∀ row ∈ s'.grns.rows, s.grns.get? row.id = none → row.reversalOfId = none) :
    Grows s s' := by
  refine ⟨fun id row hrow => ⟨row, ?_, .inl rfl⟩, hgrns, fun row hmem hfresh hreversal => ?_⟩
  · rw [horders]
    exact hrow
  · exact absurd (hnew row hmem hfresh) hreversal

theorem grns_put {old new : GrnRow} (hstored : s.grns.get? old.id = some old)
    (hid : new.id = old.id) (hfollows : Follows old new) (hgrns : s'.grns = s.grns.put new) :
    (∀ id row, s.grns.get? id = some row →
      ∃ row', s'.grns.get? id = some row' ∧ Follows row row') ∧
      ∀ row ∈ s'.grns.rows, s.grns.get? row.id ≠ none := by
  rw [hgrns]
  refine ⟨fun id row hrow => ?_, fun row hmem => ?_⟩
  · rcases get?_put_later hstored hid hrow with ⟨rfl, hput⟩ | ⟨_, hput⟩
    · exact ⟨new, hput, hfollows⟩
    · exact ⟨row, hput, .refl row⟩
  · rcases Table.mem_put hmem with rfl | hmem
    · rw [hid, hstored]
      exact Option.some_ne_none old
    · rw [Table.get?_of_mem hmem]
      exact Option.some_ne_none row

theorem grns_insert {new : GrnRow} (hfresh : s.grns.get? new.id = none)
    (hgrns : s'.grns = s.grns.insert new) :
    (∀ id row, s.grns.get? id = some row →
      ∃ row', s'.grns.get? id = some row' ∧ Follows row row') ∧
      ∀ row ∈ s'.grns.rows, s.grns.get? row.id = none → row = new := by
  rw [hgrns]
  refine ⟨fun id row hrow => ⟨row, ?_, .refl row⟩, fun row hmem hnone => ?_⟩
  · rw [Table.get?_insert hfresh, if_neg]
    · exact hrow
    · intro hid
      rw [hid, hrow] at hfresh
      cases hfresh
  · rcases (Table.mem_insert hfresh).mp hmem with hmem | rfl
    · rw [Table.get?_of_mem hmem] at hnone
      cases hnone
    · rfl

/-- What a new note of a request is. -/
theorem create_built {input : CreateGrnInput} {id : String} {now : Nat} {grn : GoodReceiptNote}
    (h : GrnFactory.create input id now = .ok grn) :
    grn.status = .draft ∧ grn.reversalOfId = none ∧
      grn.events = [.grnCreated id input.grnNumber input.purchaseOrderId] := by
  unfold GrnFactory.create at h
  cases hcheck : grnCreate input.purchaseOrderId with
  | error e =>
    rw [hcheck] at h
    cases h
  | ok _ =>
    rw [hcheck] at h
    cases h
    exact ⟨rfl, rfl, rfl⟩

/-- What a compensating document is. -/
theorem createReversal_built {input : CreateGrnReversalInput} {id : String} {now : Nat}
    {grn : GoodReceiptNote} (h : GrnFactory.createReversal input id now = .ok grn) :
    grn.status = .completed ∧ grn.purchaseOrderId = input.purchaseOrderId ∧
      grn.reversalOfId = some input.reversalOfId ∧
      (∀ event ∈ grn.events, event.posting? = none) ∧
      grn.receiptLines = (GrnFactory.reversalDocument input id now).receiptLines := by
  unfold GrnFactory.createReversal at h
  cases hcheck : grnReversal input.reversalOfId with
  | error e =>
    rw [hcheck] at h
    cases h
  | ok _ =>
    rw [hcheck] at h
    simp only [bind, Except.bind] at h
    split at h
    · cases h
    · cases h
      refine ⟨rfl, rfl, rfl, fun event hevent => ?_, rfl⟩
      rcases mem_addEvent hevent with hevent | rfl
      · cases hevent
      · rfl

/-- Whatever commits, the others may rely on. -/
theorem Committed.grows {writes : List Write} (h : Committed tolerances ok s writes s') :
    Grows s s' := by
  cases h with
  | registered receives wrote =>
    obtain ⟨hid, hversion, _, _⟩ := receives.next
    refine Grows.of_orders_put receives.stored hid hversion wrote.orders ?_ ?_
    · rw [wrote.grns]
      exact fun id row hrow => ⟨row, hrow, .refl row⟩
    · intro row hmem hfresh
      rw [wrote.grns] at hmem
      rw [Table.get?_of_mem hmem] at hfresh
      cases hfresh
  | transitioned command stored returned unreceived written wrote =>
    obtain ⟨hid, hversion, _⟩ := command.next returned written
    refine Grows.of_orders_put stored hid hversion wrote.orders ?_ ?_
    · rw [wrote.grns]
      exact fun id row hrow => ⟨row, hrow, .refl row⟩
    · intro row hmem hfresh
      rw [wrote.grns] at hmem
      rw [Table.get?_of_mem hmem] at hfresh
      cases hfresh
  | created positive built written fresh wrote =>
    obtain ⟨hkept, hnew⟩ := grns_insert fresh wrote.grns
    refine Grows.of_orders wrote.orders hkept fun row hmem hnone => ?_
    obtain ⟨_, _, _, hreversal, _⟩ := PrismaGrnMapper.toRow_holds written
    rw [hnew row hmem hnone, hreversal]
    exact (create_built built).2.1
  | changed command rewrites wrote =>
    have hhandles := command.handles rewrites.returned
    obtain ⟨hid, hfollows⟩ := rewrites.follows hhandles.reference fun hcompleted =>
      ⟨hhandles.status.mpr hcompleted, hhandles.posted hcompleted⟩
    obtain ⟨hkept, hold⟩ := grns_put rewrites.stored hid hfollows wrote.grns
    exact Grows.of_orders wrote.orders hkept fun row hmem hnone => absurd hnone (hold row hmem)
  | posted receives order rewrites wrote =>
    obtain ⟨hid, hversion, _, _⟩ := receives.next
    obtain ⟨_, hstatus, href, hlines, _⟩ := complete_returned rewrites.returned
    obtain ⟨hgid, hfollows⟩ := rewrites.follows href fun _ => ⟨hstatus, hlines⟩
    obtain ⟨hkept, hold⟩ := grns_put rewrites.stored hgid hfollows wrote.grns
    exact Grows.of_orders_put receives.stored hid hversion wrote.orders hkept
      fun row hmem hnone => absurd hnone (hold row hmem)
  | reversed receives order read completed growsRead readOrder grows met lines ofId ofOrder built
      written fresh wrote =>
    obtain ⟨hid, hversion, _, _⟩ := receives.next
    obtain ⟨hkept, hnew⟩ := grns_insert fresh wrote.grns
    refine Grows.of_orders_put receives.stored hid hversion wrote.orders hkept ?_
    intro row hmem hnone
    obtain ⟨_, _, horder, _⟩ := PrismaGrnMapper.toRow_holds written
    rw [hnew row hmem hnone, horder, (createReversal_built built).2.1, ofOrder, order]

end Growth

end DddBoilerplate.Procurement
