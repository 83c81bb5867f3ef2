/- module: DddBoilerplate/Procurement/ReceivingLimit
   generality: I
   digest: Concurrent registrations never take an order beyond its receiving limit. -/

import DddBoilerplate.Procurement.Scenario

set_option autoImplicit false
set_option relaxedAutoImplicit false
set_option linter.all false

namespace DddBoilerplate.Procurement

open Concurrency Store

variable {wiring : Wiring} {tolerance : ℚ}
variable {P Q : Pool (procurementSystem wiring)} {trace : List (Label (procurementSystem wiring))}

/-- PO-07: every line of every order is within its limit. -/
def ProcurementDb.WithinLimit (tolerance : ℚ) (db : ProcurementDb) : Prop :=
  ∀ order ∈ db.orders.rows, ∀ b ∈ order.balances, b.Within tolerance

instance (db : ProcurementDb) : Decidable (db.WithinLimit tolerance) := by
  unfold ProcurementDb.WithinLimit
  infer_instance

/-- The condition on a run: every command that registers receipts does so under one tolerance. -/
def registersUnder (tolerance : ℚ) : Pool (procurementSystem wiring) →
    Label (procurementSystem wiring) → Prop
  | _, .start entry => entry.Tolerates (· = tolerance)
  | _, _ => True

instance (P : Pool (procurementSystem wiring)) (l : Label (procurementSystem wiring)) :
    Decidable (registersUnder tolerance P l) :=
  match l with
  | .start entry => decidableTolerates (· = tolerance) entry
  | .served _ _ _ _ => .isTrue trivial
  | .raised _ _ => .isTrue trivial

theorem covers_registersUnder :
    CoversRun (@registersUnder wiring tolerance) (· = tolerance) (fun _ _ _ _ => True) :=
  ⟨fun _ _ h => h, fun _ _ _ _ _ _ => trivial⟩

theorem ProcurementDb.WithinLimit.put {s : ProcurementDb} {new : PurchaseOrderRow}
    (h : s.WithinLimit tolerance) (hnew : ∀ b ∈ new.balances, b.Within tolerance)
    {s' : ProcurementDb} (horders : s'.orders = s.orders.put new) : s'.WithinLimit tolerance := by
  intro order hmem
  rw [horders] at hmem
  rcases Table.mem_put hmem with rfl | hmem
  · exact hnew
  · exact h order hmem

theorem Receives.within {s : ProcurementDb} {ctx : RequestContext} {lines : List ReceiptLine}
    {old new : PurchaseOrderRow} {po : PurchaseOrder}
    (h : Receives (· = tolerance) s ctx lines old new po) (hlimit : s.WithinLimit tolerance) :
    ∀ b ∈ new.balances, b.Within tolerance := by
  obtain ⟨_, _, _, hregisters⟩ := h.next
  rw [h.admitted] at hregisters
  exact hregisters.within (hlimit old (Table.mem_of_get? h.stored))

/-- Every commit leaves the orders within their limits. -/
theorem Committed.withinLimit {ok : Served} {s s' : ProcurementDb} {writes : List Write}
    (h : Committed (· = tolerance) ok s writes s') (hlimit : s.WithinLimit tolerance) :
    s'.WithinLimit tolerance := by
  have hsame : s'.orders = s.orders → s'.WithinLimit tolerance := by
    intro horders order hmem
    rw [horders] at hmem
    exact hlimit order hmem
  cases h with
  | registered receives wrote => exact hlimit.put (receives.within hlimit) wrote.orders
  | @transitioned ctx method old new po s' command stored returned unreceived written wrote =>
    obtain ⟨_, _, hbalances⟩ := command.next returned written
    refine hlimit.put ?_ wrote.orders
    rw [hbalances]
    exact hlimit old (Table.mem_of_get? stored)
  | created _ _ _ _ wrote => exact hsame wrote.orders
  | changed _ _ wrote => exact hsame wrote.orders
  | posted receives _ _ wrote => exact hlimit.put (receives.within hlimit) wrote.orders
  | reversed receives _ _ _ _ _ _ _ _ _ _ _ _ _ wrote =>
    exact hlimit.put (receives.within hlimit) wrote.orders

theorem withinLimit_kept {s s' : ProcurementDb} {q : ProcurementRequest} {a : q.Answer}
    {front : Front ProcurementRequest.interface} (hlimit : s.WithinLimit tolerance)
    (h : Guarantees (· = tolerance) (fun _ _ _ _ => True) s q a front s') :
    s'.WithinLimit tolerance := by
  have hsame : Untouched s s' → s'.WithinLimit tolerance := by
    intro huntouched order hmem
    rw [huntouched.orders] at hmem
    exact hlimit order hmem
  cases h with
  | committed commits _ => exact commits.withinLimit hlimit
  | refused untouched => exact hsame untouched
  | read _ untouched => exact hsame untouched

/-- Whatever registrations run at once, every order stays within its limit; and the orders only
change in a step that commits a transaction, never in one that rejects it. -/
theorem receiving_limit_holds (hrun : Run (registersUnder tolerance) P trace Q)
    (hthreads : P.threads = []) (hlimit : P.store.WithinLimit tolerance) :
    Q.store.WithinLimit tolerance ∧
      ∀ l R, registersUnder tolerance Q l → Step (procurementSystem wiring) Q l R →
        R.store.orders = Q.store.orders ∨
          ∃ i writes front, l = .served i (ProcurementRequest.commit writes) (.ok ()) front ∧
            Settled front := by
  refine ⟨?_, fun l R hok hstep => ?_⟩
  · exact invariant_of_procurement covers_registersUnder
      (fun _ _ _ _ _ hinv _ hguarantee => withinLimit_kept hinv hguarantee) hrun hthreads hlimit
  · cases l with
    | start e =>
      cases hstep
      exact .inl rfl
    | raised i q =>
      cases hstep
      exact .inl rfl
    | served i q a front =>
      have hguarantee := guarantees_of_step covers_registersUnder hrun hthreads trivial hstep
      cases hguarantee with
      | committed commits settled => exact .inr ⟨i, _, front, rfl, settled⟩
      | refused untouched => exact .inl untouched.orders
      | read _ untouched => exact .inl untouched.orders

section Runs

open Scenario

/-- Of two receipts for the same ten bolts one is taken, a product named twice in it. -/
theorem receiving_limit_holds_twice : ∃ Q : DemoPool, receivedOf Q = some 7 ∧
    Q.store.WithinLimit 0 := by
  have hplay : (((poolOf (orderFor 10 0) []).play (registersUnder 0)
      (register 0 [⟨"bolt", 3⟩, ⟨"bolt", 4⟩] :: register 0 [⟨"bolt", 4⟩] ::
        serve 0 1 ++ serve 1 1 ++ serve 0 1 ++ serve 1 1)).map fun Q =>
      decide (receivedOf Q = some 7)) = some true := by
    decide +kernel
  obtain ⟨Q, trace, hrun, hreceived⟩ := Pool.play_reach hplay
  have hlimit : (dbOf (orderFor 10 0) []).WithinLimit 0 := by decide +kernel
  exact ⟨Q, hreceived, (receiving_limit_holds hrun rfl hlimit).1⟩

end Runs

end DddBoilerplate.Procurement
