/- module: DddBoilerplate/Procurement/Conservation
   generality: I
   digest: What has come on an order's lines against what its completed notes posted. -/

import DddBoilerplate.Procurement.PostedOnce

set_option autoImplicit false
set_option relaxedAutoImplicit false
set_option linter.all false

namespace DddBoilerplate.Procurement

open Concurrency Domain Store

/-- What one note posted of a product to an order; nothing, unless it is completed. -/
def GrnRow.posted (orderId productId : String) (row : GrnRow) : ℚ :=
  if row.purchaseOrderId = orderId ∧ row.status = .completed then
    total productId (PrismaGrnMapper.toDomain row).receiptLines
  else 0

/-- What the completed notes of an order posted of a product, reversals included. -/
def ProcurementDb.posted (orderId productId : String) (db : ProcurementDb) : ℚ :=
  (db.grns.rows.map (GrnRow.posted orderId productId)).sum

/-- On every line of every order has come what the order's completed notes posted. -/
def ProcurementDb.Conserved (db : ProcurementDb) : Prop :=
  ∀ order ∈ db.orders.rows, ∀ b ∈ order.balances,
    b.receivedQuantity = db.posted order.id b.productId

instance decidableConserved (db : ProcurementDb) : Decidable db.Conserved := by
  unfold ProcurementDb.Conserved
  infer_instance

/-- The writes register a receipt and nothing else: what a delivery commits. -/
def registersAlone : List Write → Bool
  | [.updateOrder _ _] => true
  | _ => false

/-- The writes register the receipt of a note that is COMPLETED already. -/
def repostsNote (s : ProcurementDb) (writes : List Write) : Bool :=
  writes.any Write.updatesOrder && writes.any fun write =>
    match write with
    | .updateGrn _ grn => (s.grns.get? grn.id).any fun row => row.status = .completed
    | _ => false

/-- The condition on a served request: no delivery's registration goes through, and no second
posting of a note. -/
def countsOnce : Served := fun s q a _ =>
  commits (fun writes => registersAlone writes || repostsNote s writes) q a = false

instance (s : ProcurementDb) (q : ProcurementRequest) (a : q.Answer)
    (front : Front ProcurementRequest.interface) : Decidable (countsOnce s q a front) := by
  unfold countsOnce
  infer_instance

section Effects

variable {tolerances : ℚ → Prop} {ok : Served} {s s' : ProcurementDb} {writes : List Write}
variable {orderId productId : String}

theorem posted_put {old new : GrnRow} (hstored : s.grns.get? old.id = some old)
    (hid : new.id = old.id) (hgrns : s'.grns = s.grns.put new) :
    s'.posted orderId productId = s.posted orderId productId +
      (new.posted orderId productId - old.posted orderId productId) := by
  unfold ProcurementDb.posted
  rw [hgrns]
  exact Table.sum_put _ (by rw [hid]; exact hstored)

theorem posted_insert {new : GrnRow} (hfresh : s.grns.get? new.id = none)
    (hgrns : s'.grns = s.grns.insert new) :
    s'.posted orderId productId = s.posted orderId productId + new.posted orderId productId := by
  unfold ProcurementDb.posted
  rw [hgrns]
  exact Table.sum_insert _ hfresh

theorem posted_same (hgrns : s'.grns = s.grns) :
    s'.posted orderId productId = s.posted orderId productId := by
  unfold ProcurementDb.posted
  rw [hgrns]

theorem GrnRow.posted_of_open {row : GrnRow} (h : row.status ≠ .completed) :
    row.posted orderId productId = 0 := by
  unfold GrnRow.posted
  rw [if_neg fun hboth => h hboth.2]

theorem GrnRow.posted_of_completed {row : GrnRow} (h : row.status = .completed) :
    row.posted orderId productId = if orderId = row.purchaseOrderId then
      total productId (PrismaGrnMapper.toDomain row).receiptLines else 0 := by
  unfold GrnRow.posted
  by_cases horder : row.purchaseOrderId = orderId
  · rw [if_pos ⟨horder, h⟩, if_pos horder.symm]
  · rw [if_neg fun hboth => horder hboth.1, if_neg fun heq => horder heq.symm]

/-- A note that follows another without being completed in between posted the same. -/
theorem Follows.posted_eq {row row' : GrnRow} (h : Follows row row')
    (hstatus : row'.status = .completed → row.status = .completed) :
    row'.posted orderId productId = row.posted orderId productId := by
  by_cases hcompleted : row.status = .completed
  · obtain ⟨hcompleted', hlines⟩ := h.posted hcompleted
    rw [GrnRow.posted_of_completed hcompleted, GrnRow.posted_of_completed hcompleted', hlines,
      h.order]
  · rw [GrnRow.posted_of_open hcompleted, GrnRow.posted_of_open fun h' => hcompleted (hstatus h')]

/-- An order rewritten with what its notes posted meanwhile. -/
theorem ProcurementDb.Conserved.put {old new : PurchaseOrderRow} {delta : String → ℚ}
    (h : s.Conserved) (hstored : s.orders.get? old.id = some old) (hid : new.id = old.id)
    (hbalances : new.balances = old.balances.map fun b =>
      { b with receivedQuantity := b.receivedQuantity + delta b.productId })
    (horders : s'.orders = s.orders.put new)
    (hposted : ∀ orderId productId, s'.posted orderId productId =
      s.posted orderId productId + if orderId = old.id then delta productId else 0) :
    s'.Conserved := by
  intro order horder b hb
  have hget := Table.get?_of_mem horder
  rw [horders, Table.get?_put (by rw [hid]; exact hstored)] at hget
  rw [hposted]
  by_cases hsame : new.id = order.id
  · rw [if_pos hsame] at hget
    obtain rfl := Option.some.inj hget
    rw [hbalances] at hb
    obtain ⟨original, horiginal, rfl⟩ := List.mem_map.mp hb
    have hbefore := h old (Table.mem_of_get? hstored) original horiginal
    rw [if_pos hid, hid, ← hbefore]
  · rw [if_neg hsame] at hget
    have hne : order.id ≠ old.id := fun heq => hsame (hid.trans heq.symm)
    rw [if_neg hne, add_zero]
    exact h order (Table.mem_of_get? hget) b hb

theorem ProcurementDb.Conserved.of_orders (h : s.Conserved) (horders : s'.orders = s.orders)
    (hposted : ∀ orderId productId, s'.posted orderId productId = s.posted orderId productId) :
    s'.Conserved := by
  intro order horder b hb
  rw [horders] at horder
  rw [hposted]
  exact h order horder b hb

/-- What a compensating document posted is what was registered for it. -/
theorem receiptLines_reversal {input : CreateGrnReversalInput} {id : String} {now : Nat}
    {original : GoodReceiptNote} (hlines : input.lines = original.reversalLines) :
    (GrnFactory.reversalDocument input id now).receiptLines =
      input.lines.map fun l => ⟨l.productId, l.receivedQuantity⟩ := by
  unfold GoodReceiptNote.receiptLines GrnFactory.reversalDocument
  rw [hlines]
  unfold GoodReceiptNote.reversalLines
  rw [List.map_map, List.map_map, List.map_map]
  refine List.map_congr_left fun line _ => ?_
  simp [GrnLine.create, GrnLine.postedQuantity]

/-- A commit that counts no receipt a second time keeps the orders in line with their notes. -/
theorem Committed.conserved (hcommits : Committed tolerances ok s writes s')
    (halone : registersAlone writes = false) (hreposts : repostsNote s writes = false)
    (h : s.Conserved) : s'.Conserved := by
  cases hcommits with
  | registered receives wrote => exact absurd halone (by simp [registersAlone])
  | transitioned command stored returned unreceived written wrote =>
    obtain ⟨hid, _, hbalances⟩ := command.next returned written
    refine @ProcurementDb.Conserved.put _ _ _ _ (fun _ => 0) h stored hid ?_ wrote.orders ?_
    · simp [hbalances]
    · intro orderId productId
      rw [posted_same wrote.grns, ite_self, add_zero]
  | created positive built written fresh wrote =>
    refine h.of_orders wrote.orders fun orderId productId => ?_
    obtain ⟨_, _, _, _, hstatus, _⟩ := PrismaGrnMapper.toRow_holds written
    have hopen := hstatus.trans (create_built built).1
    rw [posted_insert fresh wrote.grns, GrnRow.posted_of_open (by rw [hopen]; decide), add_zero]
  | changed command rewrites wrote =>
    have hhandles := command.handles rewrites.returned
    obtain ⟨_, _, _, _, hstatus, _⟩ := rewrites.next hhandles.reference
    obtain ⟨hid, hfollows⟩ := rewrites.follows hhandles.reference fun hcompleted =>
      ⟨hhandles.status.mpr hcompleted, hhandles.posted hcompleted⟩
    refine h.of_orders wrote.orders fun orderId productId => ?_
    have hsame := @Follows.posted_eq orderId productId _ _ hfollows fun hcompleted => by
      rw [hstatus] at hcompleted
      exact hhandles.status.mp hcompleted
    rw [posted_put rewrites.stored hid wrote.grns, hsame, sub_self, add_zero]
  | @posted ctx actorId now old new oldOrder newOrder po grn s' receives order rewrites wrote =>
    obtain ⟨_, hcompleted, hreference, hlines, _⟩ := complete_returned rewrites.returned
    obtain ⟨hid, _, horder, _, hstatus, hreceipt⟩ := rewrites.next hreference
    obtain ⟨hidOrder, _, _, hregisters⟩ := receives.next
    have hopen : old.status ≠ .completed := by
      intro hold
      have hgrn : grn.id = old.id := congrArg Prod.fst hreference
      simp [repostsNote, Write.updatesOrder, hgrn, rewrites.stored, hold] at hreposts
    refine @ProcurementDb.Conserved.put _ _ _ _
      (fun productId => total productId (PrismaGrnMapper.toDomain old).receiptLines) h
      receives.stored hidOrder (hregisters.eq_map oldOrder.distinct_balances) wrote.orders
      fun orderId productId => ?_
    rw [posted_put rewrites.stored hid wrote.grns, GrnRow.posted_of_open hopen, sub_zero,
      GrnRow.posted_of_completed (hstatus.trans hcompleted), horder, ← order, hreceipt, hlines]
  | @reversed ctx original row input id now reversal oldOrder newOrder po s₀ s₁ s' receives order
      read completed growsRead readOrder grows met lines ofId ofOrder built written fresh wrote =>
    obtain ⟨hcompleted, hordered, _, _, hreceipt⟩ := createReversal_built built
    obtain ⟨_, _, hrowOrder, _, hstatus, hrowLines⟩ := PrismaGrnMapper.toRow_holds written
    obtain ⟨hidOrder, _, _, hregisters⟩ := receives.next
    refine @ProcurementDb.Conserved.put _ _ _ _
      (fun productId => total productId
        (input.lines.map fun l => ⟨l.productId, l.receivedQuantity⟩)) h
      receives.stored hidOrder (hregisters.eq_map oldOrder.distinct_balances) wrote.orders
      fun orderId productId => ?_
    rw [posted_insert fresh wrote.grns, GrnRow.posted_of_completed (hstatus.trans hcompleted),
      hrowOrder, hordered, ofOrder, ← order, hrowLines, hreceipt, receiptLines_reversal lines]

end Effects

section Runs

variable {wiring : Wiring} {P Q : Pool (procurementSystem wiring)}
variable {trace : List (Label (procurementSystem wiring))}

theorem conserved_step {tolerances : ℚ → Prop} {s s' : ProcurementDb} {q : ProcurementRequest}
    {a : q.Answer} {front : Front ProcurementRequest.interface} (h : s.Conserved)
    (hok : countsOnce s q a front) (hguarantee : Guarantees tolerances countsOnce s q a front s') :
    s'.Conserved := by
  cases hguarantee with
  | @committed writes front s' commits settled =>
    have hneither : (registersAlone writes || repostsNote s writes) = false := hok
    obtain ⟨halone, hreposts⟩ := Bool.or_eq_false_iff.mp hneither
    exact commits.conserved halone hreposts h
  | refused untouched =>
    exact h.of_orders untouched.orders fun _ _ => posted_same untouched.grns
  | read reads untouched =>
    exact h.of_orders untouched.orders fun _ _ => posted_same untouched.grns

/-- Where no delivery registers what a post registered and no note is posted again, on every line
of every order has come, at any moment, what the order's completed notes posted. -/
theorem receipts_are_conserved (hrun : Run (onServed countsOnce) P trace Q)
    (hthreads : P.threads = []) (hconserved : ProcurementDb.Conserved P.store) :
    ProcurementDb.Conserved Q.store :=
  invariant_of_procurement covers_onServed
    (fun _ _ _ _ _ h hok hguarantee => conserved_step h hok hguarantee) hrun hthreads hconserved

open Scenario

/-- The event of the posting of four bolts, as the outbox holds it. -/
def fourBolts : Envelope where
  eventId := 1
  tenantId := some "t"
  companyId := some "c"
  aggregateType := "GoodReceiptNote"
  aggregateId := "grn"
  event := .grn (.goodsReceiptPosted "grn" "po" [⟨"grn:bolt", "bolt", 4, 2⟩])

/-- Four bolts are posted, and the event of it is delivered once: eight have come. -/
theorem registered_again : ∃ (Q : DemoPool) (trace : List (Label (procurementSystem allowing))),
    Run (fun _ _ => True) (poolOf (orderFor 10 0) [noteOf "grn" .received 4 4 0]) trace Q ∧
      fourBolts ∈ Q.store.outbox ∧ Q.threads.all ended = true ∧ receivedOf Q = some 8 ∧
      ProcurementDb.posted "po" "bolt" Q.store = 4 := by
  have hplay : (((poolOf (orderFor 10 0) [noteOf "grn" .received 4 4 0]).play (fun _ _ => True)
      (post "grn" 0 :: serve 0 3 ++ .start (.goodsReceiptPosted fourBolts ⟨"m", "k", 0, 0, 0⟩) ::
        serve 1 4)).map fun Q =>
      decide (fourBolts ∈ Q.store.outbox ∧ Q.threads.all ended = true ∧ receivedOf Q = some 8 ∧
        ProcurementDb.posted "po" "bolt" Q.store = 4)) = some true := by
    decide +kernel
  obtain ⟨Q, trace, hrun, hshown⟩ := Pool.play_reach hplay
  exact ⟨Q, trace, hrun, hshown⟩

/-- Posted and reversed, with the delivery of the event turned away meanwhile. -/
theorem receipts_are_conserved_reversed : ∃ Q : DemoPool, receivedOf Q = some 0 ∧
    ProcurementDb.Conserved Q.store := by
  have hplay : (((poolOf (orderFor 10 0) [noteOf "grn" .received 4 4 0]).play (onServed countsOnce)
      (post "grn" 0 :: serve 0 3 ++ reverse "grn" "r" 0 ::
        .start (.goodsReceiptPosted fourBolts ⟨"m", "k", 0, 0, 0⟩) ::
        serve 2 2 ++ serve 1 4 ++ serve 2 2)).map fun Q =>
      decide (receivedOf Q = some 0)) = some true := by
    decide +kernel
  obtain ⟨Q, trace, hrun, hreceived⟩ := Pool.play_reach hplay
  have hconserved : ProcurementDb.Conserved
      (dbOf (orderFor 10 0) [noteOf "grn" .received 4 4 0]) := by
    decide +kernel
  exact ⟨Q, hreceived, receipts_are_conserved hrun rfl hconserved⟩

end Runs

end DddBoilerplate.Procurement
