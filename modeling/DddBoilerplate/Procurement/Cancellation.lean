/- module: DddBoilerplate/Procurement/Cancellation
   generality: I
   digest: Cancelling beside registering: no cancelled order has receipts, and no receipt is lost. -/

import DddBoilerplate.Concurrency.Entries
import DddBoilerplate.Procurement.Scenario

set_option autoImplicit false
set_option relaxedAutoImplicit false
set_option linter.all false

namespace DddBoilerplate.Procurement

open Concurrency Domain Messaging Store

/-- No line of a cancelled order has a receipt. -/
def ProcurementDb.CancelledUnreceived (db : ProcurementDb) : Prop :=
  ∀ order ∈ db.orders.rows, order.status = .cancelled →
    ∀ line ∈ order.lines, line.receivedQuantity ≤ 0

instance (db : ProcurementDb) : Decidable db.CancelledUnreceived := by
  unfold ProcurementDb.CancelledUnreceived
  infer_instance

section Cancelled

variable {tolerances : ℚ → Prop} {ok : Served} {s s' : ProcurementDb}

theorem unreceived_iff {row : PurchaseOrderRow} :
    row.hasReceipts = false ↔ ∀ line ∈ row.lines, line.receivedQuantity ≤ 0 := by
  simp [PurchaseOrderRow.hasReceipts]

/-- What has come on the lines is in the balances. -/
theorem unreceived_iff_balances {row : PurchaseOrderRow} :
    (∀ line ∈ row.lines, line.receivedQuantity ≤ 0) ↔
      ∀ b ∈ row.balances, b.receivedQuantity ≤ 0 := by
  constructor
  · intro h b hb
    obtain ⟨line, hline, rfl⟩ := List.mem_map.mp hb
    have hle := h line hline
    show (line.receivedQuantity : ℚ) ≤ 0
    exact_mod_cast hle
  · intro h line hline
    have hle := h _ (List.mem_map_of_mem hline)
    have hcast : (line.receivedQuantity : ℚ) ≤ 0 := hle
    exact_mod_cast hcast

theorem ProcurementDb.CancelledUnreceived.put {new : PurchaseOrderRow}
    (h : s.CancelledUnreceived) (horders : s'.orders = s.orders.put new)
    (hnew : new.status = .cancelled → ∀ line ∈ new.lines, line.receivedQuantity ≤ 0) :
    s'.CancelledUnreceived := by
  intro order hmem
  rw [horders] at hmem
  rcases Table.mem_put hmem with rfl | hmem
  · exact hnew
  · exact h order hmem

/-- A receipt leaves an order issued or approved. -/
theorem Receives.status {ctx : RequestContext} {lines : List ReceiptLine}
    {old new : PurchaseOrderRow} {po : PurchaseOrder}
    (h : Receives tolerances s ctx lines old new po) :
    new.status = old.status ∧ old.status.Eligible := by
  obtain ⟨actorId, now, hopened⟩ := h.opened
  obtain ⟨_, _, hstatus, _⟩ := PrismaPurchaseOrderMapper.toRow_eq_ok h.written
  have hkept := (openPoForReceipt_status lines ctx.tolerance actorId now).of_returned hopened
  exact ⟨hstatus.trans hkept, (openPoForReceipt_returned hopened).1⟩

theorem Receives.not_cancelled {ctx : RequestContext} {lines : List ReceiptLine}
    {old new : PurchaseOrderRow} {po : PurchaseOrder}
    (h : Receives tolerances s ctx lines old new po) : new.status ≠ .cancelled := by
  obtain ⟨hstatus, heligible⟩ := h.status
  rw [hstatus]
  rcases heligible with heligible | heligible <;> simp [heligible]

/-- Every commit leaves the cancelled orders without receipts. -/
theorem Committed.cancelledUnreceived {writes : List Write}
    (hcommits : Committed tolerances ok s writes s') (h : s.CancelledUnreceived) :
    s'.CancelledUnreceived := by
  have hsame : s'.orders = s.orders → s'.CancelledUnreceived := by
    intro horders order hmem
    rw [horders] at hmem
    exact h order hmem
  cases hcommits with
  | registered receives wrote =>
    exact h.put wrote.orders fun hstatus => absurd hstatus receives.not_cancelled
  | @transitioned ctx method old new po s' command stored returned unreceived written wrote =>
    refine h.put wrote.orders fun hstatus => ?_
    obtain ⟨_, _, hrow, _⟩ := PrismaPurchaseOrderMapper.toRow_eq_ok written
    obtain ⟨_, _, hbalances⟩ := command.next returned written
    rw [unreceived_iff_balances, hbalances, ← unreceived_iff_balances]
    exact unreceived_iff.mp (unreceived (hrow.symm.trans hstatus))
  | created _ _ _ _ wrote => exact hsame wrote.orders
  | changed _ _ wrote => exact hsame wrote.orders
  | posted receives _ _ wrote =>
    exact h.put wrote.orders fun hstatus => absurd hstatus receives.not_cancelled
  | reversed receives _ _ _ _ _ _ _ _ _ _ _ _ _ wrote =>
    exact h.put wrote.orders fun hstatus => absurd hstatus receives.not_cancelled

theorem cancelledUnreceived_kept {q : ProcurementRequest} {a : q.Answer}
    {front : Front ProcurementRequest.interface} (h : s.CancelledUnreceived)
    (hguarantee : Guarantees tolerances ok s q a front s') : s'.CancelledUnreceived := by
  have hsame : Untouched s s' → s'.CancelledUnreceived := by
    intro huntouched order hmem
    rw [huntouched.orders] at hmem
    exact h order hmem
  cases hguarantee with
  | committed commits _ => exact commits.cancelledUnreceived h
  | refused untouched => exact hsame untouched
  | read _ untouched => exact hsame untouched

end Cancelled

section Orders

variable {wiring : Wiring} {s s' : ProcurementDb}

/-- How much of a product has come on an order. -/
def ProcurementDb.receivedOn (orderId productId : String) (db : ProcurementDb) : ℚ :=
  ((db.orders.get? orderId).map fun row => received productId row.balances).getD 0

theorem receivedOn_put {old new : PurchaseOrderRow} (hstored : s.orders.get? old.id = some old)
    (hid : new.id = old.id) (horders : s'.orders = s.orders.put new) (orderId productId : String) :
    s'.receivedOn orderId productId = s.receivedOn orderId productId +
      if old.id = orderId then received productId new.balances - received productId old.balances
      else 0 := by
  unfold ProcurementDb.receivedOn
  rw [horders, Table.get?_put (by rw [hid]; exact hstored), hid]
  by_cases hsame : old.id = orderId
  · subst hsame
    simp [hstored]
  · simp [hsame]

theorem receivedOn_same (horders : s'.orders = s.orders) (orderId productId : String) :
    s'.receivedOn orderId productId = s.receivedOn orderId productId := by
  unfold ProcurementDb.receivedOn
  rw [horders]

/-- The commands on one order: registrations and transitions. -/
def ProcurementEntry.OnOrder : ProcurementEntry → Prop
  | registerReceipt _ _ _ => True
  | transitionPurchaseOrder _ _ _ _ _ _ => True
  | issuePurchaseOrder _ _ _ _ => True
  | closePurchaseOrder _ _ _ => True
  | _ => False

instance decidableOnOrder (entry : ProcurementEntry) : Decidable entry.OnOrder := by
  apply ProcurementEntry.casesOn (motive := fun entry => Decidable entry.OnOrder) entry <;> intros
    <;> dsimp only [ProcurementEntry.OnOrder] <;> infer_instance

/-- The condition on a run: only such commands are started. -/
def startsOnOrders : Pool (procurementSystem wiring) → Label (procurementSystem wiring) → Prop
  | _, .start entry => entry.OnOrder
  | _, _ => True

instance (P : Pool (procurementSystem wiring)) (l : Label (procurementSystem wiring)) :
    Decidable (startsOnOrders P l) :=
  match l with
  | .start entry => decidableOnOrder entry
  | .served _ _ _ _ => .isTrue trivial
  | .raised _ _ => .isTrue trivial

theorem covers_startsOnOrders :
    CoversRun (@startsOnOrders wiring) (fun _ => True) (fun _ _ _ _ => True) :=
  ⟨fun _ e _ => by cases e <;> trivial, fun _ _ _ _ _ _ => trivial⟩

/-- What a registration brings an order of a product. -/
def ProcurementEntry.brings (orderId productId : String) : ProcurementEntry → ℚ
  | registerReceipt _ request _ =>
    if request.purchaseOrderId = orderId then total productId request.lines else 0
  | _ => 0

/-- What a registration has brought once it returned. -/
def broughtBy (orderId productId : String) (entry : (procurementSystem wiring).Entry)
    (p : Transaction Unit) : ℚ :=
  if p.hasReturned = true then ProcurementEntry.brings orderId productId entry else 0

/-- What follows the opening of the order for a receipt. -/
def registerOpened (ctx : RequestContext) : Except Failure Unit × PurchaseOrder → Transaction Unit
  | (.ok _, po) => .ask (ProcurementRequest.commit [.updateOrder ctx po]) check
  | (.error failure, _) => .fail failure.message

/-- What follows the order a registration finds. -/
def registerFound (ctx : RequestContext) (request : PurchaseOrderReceiptRequest) (now : Nat) :
    Option PurchaseOrderRow → Transaction Unit
  | none => .fail "Purchase order not found"
  | some row =>
    registerOpened ctx (PurchaseOrderFactory.openPoForReceipt request.lines ctx.tolerance
      request.actorId now (PrismaPurchaseOrderMapper.toDomain row))

theorem program_registerReceipt (ctx : RequestContext) (request : PurchaseOrderReceiptRequest)
    (now : Nat) :
    ProcurementEntry.program wiring (.registerReceipt ctx request now) =
        .ask (ProcurementRequest.findOrder ctx request.purchaseOrderId)
          (registerFound ctx request now) ∨
      ∃ error, ProcurementEntry.program wiring (.registerReceipt ctx request now) =
        .fail error := by
  have hprogram : ProcurementEntry.program wiring (.registerReceipt ctx request now) =
    transactional (registerReceipt wiring ctx request now >>= _) := rfl
  rw [hprogram]
  unfold transactional registerReceipt
  cases authorize wiring ctx "PurchaseOrder" "receive" with
  | error failure => exact .inr ⟨failure.message, rfl⟩
  | ok u =>
    left
    show Program.ask _ _ = Program.ask _ _
    congr 1
    funext found
    cases found with
    | none => rfl
    | some row =>
      show (((perform (PurchaseOrderFactory.openPoForReceipt request.lines ctx.tolerance
          request.actorId now) (PrismaPurchaseOrderMapper.toDomain row) >>= fun po =>
        pure (receiptResult request.purchaseOrderId po, [Write.updateOrder ctx po])) >>=
          fun x : PurchaseOrderReceiptResult × List Write => pure x.2) >>= fun writes =>
            commit writes >>= check) = registerOpened ctx (PurchaseOrderFactory.openPoForReceipt
              request.lines ctx.tolerance request.actorId now
              (PrismaPurchaseOrderMapper.toDomain row))
      unfold perform
      rcases PurchaseOrderFactory.openPoForReceipt request.lines ctx.tolerance request.actorId now
        (PrismaPurchaseOrderMapper.toDomain row) with ⟨outcome, po⟩
      cases outcome with
      | ok v => rfl
      | error failure => rfl

/-- Where a registration is: it reads, it writes what it opened from a row it read, or it ended. -/
inductive Registering (ctx : RequestContext) (request : PurchaseOrderReceiptRequest) (now : Nat)
    (s : ProcurementDb) : Transaction Unit → Prop where
  | reading : Registering ctx request now s
      (.ask (ProcurementRequest.findOrder ctx request.purchaseOrderId)
        (registerFound ctx request now))
  | writing {row : PurchaseOrderRow} {po : PurchaseOrder} {s₀ : ProcurementDb}
      (read : s₀.orders.get? row.id = some row) (grows : Grows s₀ s)
      (found : row.id = request.purchaseOrderId)
      (opened : PurchaseOrderFactory.openPoForReceipt request.lines ctx.tolerance request.actorId
        now (PrismaPurchaseOrderMapper.toDomain row) = (.ok (), po)) :
      Registering ctx request now s
        (.ask (ProcurementRequest.commit [.updateOrder ctx po]) check)
  | returned (u : Unit) : Registering ctx request now s (.done u)
  | failed (error : String) : Registering ctx request now s (.fail error)

/-- The writes of a transition: its order, and the event of it. -/
def movesOrder : List Write → Bool
  | .updateOrder _ _ :: .append _ _ _ _ :: _ => true
  | _ => false

/-- All it commits is transitions, and what it returns is as `post` says. -/
abbrev Moving {α : Type} (post : α → Prop) (p : Transaction α) : Prop :=
  Ensures (fun q => ∀ writes, q = ProcurementRequest.commit writes → movesOrder writes = true)
    (fun _ _ => True) post p

/-- All it commits is transitions. -/
def Moves (p : Transaction Unit) : Prop := Moving (fun _ => True) p

/-- Where a command on orders may be. -/
def OnTrack : ProcurementEntry → Transaction Unit → ProcurementDb → Prop
  | .registerReceipt ctx request now, p, s => Registering ctx request now s p
  | .transitionPurchaseOrder _ _ _ _ _ _, p, _ => Moves p
  | .issuePurchaseOrder _ _ _ _, p, _ => Moves p
  | .closePurchaseOrder _ _ _, p, _ => Moves p
  | _, _, _ => True

section Moving

variable {α β : Type} {post : β → Prop}

theorem moving_check {m : Except Failure α} {f : α → Transaction β}
    (hf : ∀ a, Moving post (f a)) : Moving post (check m >>= f) := by
  cases m with
  | ok a => exact hf a
  | error e => trivial

theorem moving_findOrder {ctx : RequestContext} {id : String}
    {f : Option PurchaseOrderRow → Transaction β} (hf : ∀ found, Moving post (f found)) :
    Moving post (findOrder ctx id >>= f) :=
  ⟨fun _ => nofun, fun found _ => hf found⟩

theorem moving_hasReceipts {ctx : RequestContext} {id : String} {f : Bool → Transaction β}
    (hf : ∀ received, Moving post (f received)) : Moving post (hasReceipts ctx id >>= f) :=
  ⟨fun _ => nofun, fun received _ => hf received⟩

theorem moves_transactional {body : Transaction (List Write)}
    (h : Moving (fun writes => movesOrder writes = true) body) : Moves (transactional body) := by
  refine Ensures.bind h fun writes hwrites => ⟨fun writes' heq => ?_, fun outcome _ => ?_⟩
  · cases heq
    exact hwrites
  · cases outcome with
    | ok u => trivial
    | error e => trivial

end Moving

/-- A transition that returned raised an event. -/
theorem RefusedOrTransits.events_ne_nil {verb : PurchaseOrderVerb} {po po' : PurchaseOrder}
    {u : Unit} (h : RefusedOrTransits verb po (.ok u, po')) : po'.events ≠ [] := by
  intro hempty
  have hlifecycle := h.returned.lifecycle
  unfold PurchaseOrder.lifecycle at hlifecycle
  rw [hempty] at hlifecycle
  simp at hlifecycle

theorem movesOrder_of_events {ctx : RequestContext} {po : PurchaseOrder} (h : po.events ≠ []) :
    movesOrder ([Write.updateOrder ctx po] ++ appendOrderEvents ctx po) = true := by
  obtain ⟨event, events, hevents⟩ := List.exists_cons_of_ne_nil h
  unfold appendOrderEvents
  rw [hevents]
  rfl

/-- A method called on an order, and the order written back with its events. -/
theorem moving_perform {ctx : RequestContext} {method : PurchaseOrder.OrderMethod Unit}
    {verb : PurchaseOrderVerb} (htransits : ∀ po, RefusedOrTransits verb po (method po))
    (po : PurchaseOrder) :
    Moving (fun writes => movesOrder writes = true) (perform method po >>= fun po =>
      pure ([Write.updateOrder ctx po] ++ appendOrderEvents ctx po)) := by
  have hpo := htransits po
  unfold perform
  rcases hrun : method po with ⟨outcome, po'⟩
  rw [hrun] at hpo
  cases outcome with
  | error e => trivial
  | ok u => exact movesOrder_of_events hpo.events_ne_nil

theorem moves_changePurchaseOrder {ctx : RequestContext} {id : String}
    {method : PurchaseOrder.OrderMethod Unit} {verb : PurchaseOrderVerb}
    (htransits : ∀ po, RefusedOrTransits verb po (method po)) :
    Moves (changePurchaseOrder ctx id method) := by
  refine moves_transactional (moving_findOrder fun found => ?_)
  cases found with
  | none => trivial
  | some row => exact moving_perform htransits _

theorem moves_transitionPurchaseOrder {ctx : RequestContext} {id : String}
    {transition : PurchaseOrderTransition} {reason actorId : Option String} {now : Nat} :
    Moves (transitionPurchaseOrder wiring ctx id transition reason actorId now) := by
  refine moves_transactional (moving_check fun _ => moving_findOrder fun found => ?_)
  cases found with
  | none => trivial
  | some row =>
    cases transition with
    | submit => exact moving_perform (.submit now) _
    | approve =>
      refine moving_check fun _ => moving_check fun _ => ?_
      exact moving_perform (fun po => .approve now po _) _
    | reject => exact moving_perform (fun po => .reject now po _ _) _
    | cancel =>
      refine moving_hasReceipts fun hasPostedReceipts => ?_
      exact moving_perform (fun po => .cancel now po _ hasPostedReceipts) _
    | complete => exact moving_perform (.close now) _

/-- The answer to a commit, with what it left. -/
theorem commit_cases {writes : List Write} {s s' : ProcurementDb} {a : Except Failure Unit}
    (h : (procurementSystem wiring).Serves (ProcurementRequest.commit writes) s a s') :
    (a = .ok () ∧ writes.foldlM Write.apply s = .ok s') ∨ ((∃ e, a = .error e) ∧ s' = s) := by
  obtain ⟨_, hserve⟩ := h
  have hserved := Option.some.inj hserve
  dsimp only [ProcurementRequest.serve] at hserved
  split at hserved
  · rename_i db' hfold
    cases hserved
    exact .inl ⟨rfl, hfold⟩
  · cases hserved
    exact .inr ⟨⟨_, rfl⟩, rfl⟩

theorem Registering.served {ctx : RequestContext} {request : PurchaseOrderReceiptRequest}
    {now : Nat} {s s' : ProcurementDb} {q : ProcurementRequest}
    {next : q.Answer → Transaction Unit} {a : q.Answer}
    (h : Registering ctx request now s (.ask q next))
    (hserves : (procurementSystem wiring).Serves q s a s') :
    Registering ctx request now s' (next a) := by
  cases h with
  | reading =>
    obtain ⟨_, hserve⟩ := hserves
    cases hserve
    show Registering ctx request now s (registerFound ctx request now _)
    cases hfound : (s.orders.get? request.purchaseOrderId).filter fun row =>
        ctx.owns row.tenantId with
    | none => exact .failed _
    | some row =>
      obtain ⟨hrow, _⟩ := Option.filter_eq_some_iff.mp hfound
      have hid : row.id = request.purchaseOrderId := Table.key_of_get? hrow
      show Registering ctx request now s (registerOpened ctx (PurchaseOrderFactory.openPoForReceipt
        request.lines ctx.tolerance request.actorId now (PrismaPurchaseOrderMapper.toDomain row)))
      rcases hopened : PurchaseOrderFactory.openPoForReceipt request.lines ctx.tolerance
        request.actorId now (PrismaPurchaseOrderMapper.toDomain row) with ⟨outcome, po⟩
      cases outcome with
      | ok u => exact .writing (by rw [hid]; exact hrow) (.refl s) hid hopened
      | error failure => exact .failed _
  | writing read grows found opened =>
    rcases commit_cases hserves with ⟨rfl, _⟩ | ⟨⟨e, rfl⟩, _⟩
    · exact .returned ()
    · exact .failed _

/-- Every command on orders stays on its track, whatever the others commit. -/
theorem tracking : @Tracking (procurementSystem wiring) OnTrack Grows where
  start := by
    intro e s
    cases e with
    | registerReceipt ctx request now =>
      show Registering ctx request now s
        (ProcurementEntry.program wiring (.registerReceipt ctx request now))
      rcases program_registerReceipt ctx request now with hreads | ⟨error, hfails⟩
      · rw [hreads]
        exact .reading
      · rw [hfails]
        exact .failed _
    | transitionPurchaseOrder ctx id transition reason actorId now =>
      exact moves_transitionPurchaseOrder
    | issuePurchaseOrder ctx id actorId now =>
      exact moves_changePurchaseOrder fun po => .issue now po _
    | closePurchaseOrder ctx id now => exact moves_changePurchaseOrder (.close now)
    | _ => trivial
  served := by
    intro e s q next a s' hon hserves
    cases e with
    | registerReceipt ctx request now => exact Registering.served hon hserves
    | transitionPurchaseOrder ctx id transition reason actorId now => exact hon.2 a trivial
    | issuePurchaseOrder ctx id actorId now => exact hon.2 a trivial
    | closePurchaseOrder ctx id now => exact hon.2 a trivial
    | _ => trivial
  raised := by
    intro e s q next error hon
    cases e with
    | registerReceipt ctx request now => exact .failed error
    | _ => trivial
  stable := by
    intro e p s s' hon hgrows
    cases e with
    | registerReceipt ctx request now =>
      have hregistering : Registering ctx request now s p := hon
      cases hregistering with
      | reading => exact .reading
      | writing read grows found opened => exact .writing read (grows.trans hgrows) found opened
      | returned u => exact .returned u
      | failed error => exact .failed error
    | _ => exact hon

section Steps

variable {orderId productId : String}

/-- A registration that is committed brings its order what it was to bring, once. -/
theorem registered_brings {ctx : RequestContext} {request : PurchaseOrderReceiptRequest}
    {now : Nat} {q : ProcurementRequest} {next : q.Answer → Transaction Unit} {a : q.Answer}
    (h : Registering ctx request now s (.ask q next))
    (hserves : (procurementSystem wiring).Serves q s a s') :
    s'.receivedOn orderId productId = s.receivedOn orderId productId +
      @broughtBy wiring orderId productId (.registerReceipt ctx request now) (next a) := by
  cases h with
  | reading =>
    obtain ⟨_, hserve⟩ := hserves
    cases hserve
    have hopen : (registerFound ctx request now ((s.orders.get? request.purchaseOrderId).filter
        fun row => ctx.owns row.tenantId)).hasReturned = false := by
      cases (s.orders.get? request.purchaseOrderId).filter fun row => ctx.owns row.tenantId with
      | none => rfl
      | some row =>
        show (registerOpened ctx (PurchaseOrderFactory.openPoForReceipt request.lines
          ctx.tolerance request.actorId now (PrismaPurchaseOrderMapper.toDomain row))).hasReturned =
            false
        rcases PurchaseOrderFactory.openPoForReceipt request.lines ctx.tolerance request.actorId
          now (PrismaPurchaseOrderMapper.toDomain row) with ⟨outcome, po⟩
        cases outcome with
        | ok u => rfl
        | error failure => rfl
    unfold broughtBy
    rw [if_neg (by rw [hopen]; simp), add_zero]
  | @writing row po s₀ read grows found opened =>
    rcases commit_cases hserves with ⟨rfl, hfold⟩ | ⟨⟨e, rfl⟩, rfl⟩
    · obtain ⟨middle, happly, hrest⟩ := foldlM_cons_ok hfold
      cases hrest
      have hkey := (openPoForReceipt_fixes request.lines ctx.tolerance request.actorId
        now).of_returned opened
      obtain ⟨hstored, new, hwritten, rfl⟩ := updateOrder_applied grows read hkey happly
      have hreceives : Receives (fun _ => True) s ctx request.lines row new po :=
        ⟨trivial, hstored, ⟨request.actorId, now, opened⟩, hwritten⟩
      obtain ⟨hid, _, _, hregisters⟩ := hreceives.next
      rw [@receivedOn_put s { s with orders := s.orders.put new } row new hstored hid rfl,
        hregisters.received]
      show _ = _ + ProcurementEntry.brings orderId productId (.registerReceipt ctx request now)
      unfold ProcurementEntry.brings
      rw [found]
      simp
    · show _ = _ + 0
      rw [add_zero]

/-- A transition that is committed leaves what has come. -/
theorem moved_keeps {writes : List Write}
    (hcommits : Committed (fun _ => True) (fun _ _ _ _ => True) s writes s')
    (hmoves : movesOrder writes = true) :
    s'.receivedOn orderId productId = s.receivedOn orderId productId := by
  cases hcommits with
  | registered _ _ => cases hmoves
  | @transitioned ctx method old new po s' command stored returned unreceived written wrote =>
    obtain ⟨hid, _, hbalances⟩ := command.next returned written
    rw [receivedOn_put stored hid wrote.orders, hbalances, sub_self, ite_self, add_zero]
  | created _ _ _ _ wrote => exact receivedOn_same wrote.orders _ _
  | changed _ _ wrote => exact receivedOn_same wrote.orders _ _
  | posted _ _ _ _ => cases hmoves
  | reversed _ _ _ _ _ _ _ _ _ _ _ _ _ _ => cases hmoves

theorem moving_keeps {q : ProcurementRequest} {next : q.Answer → Transaction Unit} {a : q.Answer}
    {front : Front ProcurementRequest.interface} (h : Moves (.ask q next))
    (hguarantee : Guarantees (fun _ => True) (fun _ _ _ _ => True) s q a front s') :
    s'.receivedOn orderId productId = s.receivedOn orderId productId := by
  cases hguarantee with
  | @committed writes front s' commits _ => exact moved_keeps commits (h.1 writes rfl)
  | refused untouched => exact receivedOn_same untouched.orders _ _
  | read _ untouched => exact receivedOn_same untouched.orders _ _

end Steps

section Runs

variable {P Q R : Pool (procurementSystem wiring)}
variable {trace : List (Label (procurementSystem wiring))}

/-- Every step of such a run is one the others may rely on. -/
theorem grows_of_step {l : Label (procurementSystem wiring)} (hrun : Run startsOnOrders P trace Q)
    (hP : P.threads = []) (hstep : Step (procurementSystem wiring) Q l R) :
    Grows Q.store R.store := by
  cases l with
  | start e =>
    cases hstep
    exact .refl _
  | raised i q =>
    cases hstep
    exact .refl _
  | served i q a front =>
    exact (discipline wiring (fun _ => True) fun _ _ _ _ => True).sound
      (guarantees_of_step covers_startsOnOrders hrun hP trivial hstep)

theorem tracked_of_run (hrun : Run startsOnOrders P trace Q) (hP : P.threads = []) :
    Tracked OnTrack (entries trace) Q :=
  Tracked.run tracking hrun hP fun hrun _ hstep => grows_of_step hrun hP hstep

/-- A command has brought nothing when it starts. -/
theorem broughtBy_program (entry : (procurementSystem wiring).Entry) (orderId productId : String) :
    broughtBy orderId productId entry ((procurementSystem wiring).program entry) = 0 := by
  unfold broughtBy
  cases entry with
  | registerReceipt ctx request now =>
    show (if (ProcurementEntry.program wiring (.registerReceipt ctx request now)).hasReturned =
      true then _ else _) = _
    rcases @program_registerReceipt wiring ctx request now with hreads | ⟨error, hfails⟩
    · rw [hreads]
      rfl
    · rw [hfails]
      rfl
  | _ => exact ite_self 0

/-- A step of a command on orders changes what has come by what the command has brought. -/
theorem served_brings {e : (procurementSystem wiring).Entry} {q : ProcurementRequest}
    {next : q.Answer → Transaction Unit} {a : q.Answer} {s s' : ProcurementDb}
    {front : Front ProcurementRequest.interface} (hentry : ProcurementEntry.OnOrder e)
    (hon : OnTrack e (.ask q next) s) (hserves : (procurementSystem wiring).Serves q s a s')
    (hguarantee : Guarantees (fun _ => True) (fun _ _ _ _ => True) s q a front s')
    (orderId productId : String) :
    s'.receivedOn orderId productId = s.receivedOn orderId productId +
      (broughtBy orderId productId e (next a) - broughtBy orderId productId e (.ask q next)) := by
  have hmoves : Moves (.ask q next) → ProcurementEntry.brings orderId productId e = 0 →
      s'.receivedOn orderId productId = s.receivedOn orderId productId +
        (broughtBy orderId productId e (next a) -
          broughtBy orderId productId e (.ask q next)) := by
    intro hmoves hbrings
    unfold broughtBy
    rw [moving_keeps hmoves hguarantee, hbrings, ite_self, ite_self, sub_zero, add_zero]
  cases e with
  | registerReceipt ctx request now =>
    rw [registered_brings hon hserves]
    show _ = _ + (_ - 0)
    rw [sub_zero]
  | transitionPurchaseOrder ctx id transition reason actorId now => exact hmoves hon rfl
  | issuePurchaseOrder ctx id actorId now => exact hmoves hon rfl
  | closePurchaseOrder ctx id now => exact hmoves hon rfl
  | _ => exact hentry.elim

/-- Whatever transitions run beside them: what has come on an order is what there was, and what
the registrations that returned have brought. -/
theorem received_of_run (hrun : Run startsOnOrders P trace Q) (hP : P.threads = [])
    (orderId productId : String) :
    ProcurementDb.receivedOn orderId productId Q.store =
      ProcurementDb.receivedOn orderId productId P.store +
        tally (broughtBy orderId productId) (entries trace) Q := by
  induction hrun with
  | nil =>
    have hnone : tally (broughtBy orderId productId) (entries ([] : List (Label _))) P = 0 := by
      unfold tally
      rw [hP]
      rfl
    exact (add_zero _).symm.trans (congrArg _ hnone.symm)
  | @snoc trace Q R l hrun hok hstep ih =>
    have htracked := tracked_of_run hrun hP
    have hlength : (entries trace).length = Q.threads.length := htracked.length_eq
    cases l with
    | start entry =>
      have htally := tally_start (broughtBy orderId productId) rfl hlength hstep
      rw [broughtBy_program, add_zero] at htally
      cases hstep
      exact ih.trans (congrArg _ htally.symm)
    | raised i q =>
      obtain ⟨e, next, error, _, htally⟩ :=
        tally_raised (broughtBy orderId productId) hlength hstep
      have hsame : tally (broughtBy orderId productId)
          (entries (trace ++ [(.raised i q : Label (procurementSystem wiring))])) R =
            tally (broughtBy orderId productId) (entries trace) Q + (0 - 0) := htally
      rw [sub_zero, add_zero] at hsame
      cases hstep
      exact ih.trans (congrArg _ hsame.symm)
    | served i q a front =>
      obtain ⟨e, next, he, here, hserves, htally⟩ :=
        tally_served (broughtBy orderId productId) hlength hstep
      have hguarantee := guarantees_of_step covers_startsOnOrders hrun hP trivial hstep
      obtain ⟨e', he', hon⟩ := forall₂_getElem? htracked here
      obtain rfl : e = e' := Option.some.inj (he.symm.trans he')
      have hentry : ProcurementEntry.OnOrder e :=
        entries_of_run hrun (fun _ _ h => h) e (List.mem_of_getElem? he)
      have hbrings := served_brings hentry hon hserves hguarantee orderId productId
      exact hbrings.trans (by
        rw [htally, ← add_assoc]
        exact congrArg (· + _) ih)

theorem covers_all : CoversRun (fun (_ : Pool (procurementSystem wiring)) _ => True)
    (fun _ => True) (fun _ _ _ _ => True) :=
  ⟨fun _ e _ => by cases e <;> trivial, fun _ _ _ _ _ _ => trivial⟩

/-- No cancelled order has receipts, in any run; and where orders are only moved beside the
registrations, what has come on each order, whatever its status became, is what there was and what
the registrations that returned have brought. -/
theorem cancelled_orders_have_no_receipts (hrun : Run (fun _ _ => True) P trace Q)
    (hP : P.threads = []) (hinit : ProcurementDb.CancelledUnreceived P.store) :
    ProcurementDb.CancelledUnreceived Q.store ∧
      (Run startsOnOrders P trace Q → ∀ orderId productId,
        ProcurementDb.receivedOn orderId productId Q.store =
          ProcurementDb.receivedOn orderId productId P.store +
            tally (broughtBy orderId productId) (entries trace) Q) := by
  constructor
  · exact invariant_of_procurement covers_all
      (fun _ _ _ _ _ h _ hguarantee => cancelledUnreceived_kept h hguarantee) hrun hP hinit
  · intro hordered orderId productId
    exact received_of_run hordered hP orderId productId

open Scenario

/-- The transition of the order, by its endpoint. -/
def transition (transition : PurchaseOrderTransition) : DemoMove :=
  .start (.transitionPurchaseOrder (officer 0) "po" transition none none 0)

/-- A cancellation loads an approved order, then four bolts are registered: the cancellation is
turned away, and the bolts have come. -/
theorem cancelled_orders_have_no_receipts_raced : ∃ (Q : DemoPool)
    (trace : List (Label (procurementSystem allowing))),
    Q.threads.map ended = [false, true] ∧ receivedOf Q = some 4 ∧
      ProcurementDb.CancelledUnreceived Q.store ∧
      ProcurementDb.receivedOn "po" "bolt" Q.store = 0 +
        tally (broughtBy "po" "bolt") (entries trace) Q := by
  have hplay : (((poolOf { orderFor 10 0 with status := .approved } []).play startsOnOrders
      (transition .cancel :: register 0 [⟨"bolt", 4⟩] :: serve 0 2 ++ serve 1 2 ++
        serve 0 1)).map fun Q =>
      decide (Q.threads.map ended = [false, true] ∧ receivedOf Q = some 4)) = some true := by
    decide +kernel
  obtain ⟨Q, trace, hrun, hended, hreceived⟩ := Pool.play_reach hplay
  have hinit : ProcurementDb.CancelledUnreceived
      (dbOf { orderFor 10 0 with status := .approved } []) := by
    decide
  obtain ⟨hcancelled, hkept⟩ := cancelled_orders_have_no_receipts
    (hrun.mono fun _ _ _ => trivial) rfl hinit
  have hnone : ProcurementDb.receivedOn "po" "bolt"
      (dbOf { orderFor 10 0 with status := .approved } []) = 0 := by
    decide
  refine ⟨Q, trace, hended, hreceived, hcancelled, ?_⟩
  rw [← hnone]
  exact hkept hrun "po" "bolt"

end Runs

end Orders

end DddBoilerplate.Procurement
