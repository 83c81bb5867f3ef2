/- module: DddBoilerplate/Procurement/Documents
   generality: I
   digest: What the methods of notes and orders keep of them, and what a row keeps of what was written. -/

import DddBoilerplate.Procurement.Balances
import DddBoilerplate.Procurement.OrderLifecycle
import DddBoilerplate.Procurement.UseCases

set_option autoImplicit false
set_option relaxedAutoImplicit false
set_option linter.all false

namespace DddBoilerplate.Procurement

open Domain

section Orders

/-- What the compare-and-set of an order looks at. -/
def PurchaseOrder.key (po : PurchaseOrder) : String × Nat := (po.id, po.version)

/-- The methods of an order that its use cases call on an order of any status. -/
inductive IsOrderCommand : PurchaseOrder.OrderMethod Unit → Prop where
  | submit (now : Nat) : IsOrderCommand (PurchaseOrder.submit now)
  | approve (actorId : Option String) (now : Nat) : IsOrderCommand (PurchaseOrder.approve actorId now)
  | reject (reason : String) (actorId : Option String) (now : Nat) :
      IsOrderCommand (PurchaseOrder.reject reason actorId now)
  | cancel (actorId : Option String) (hasReceipts : Bool) (now : Nat) :
      IsOrderCommand (PurchaseOrder.cancel actorId hasReceipts now)
  | issue (actorId : Option String) (now : Nat) : IsOrderCommand (PurchaseOrder.issue actorId now)
  | close (now : Nat) : IsOrderCommand (PurchaseOrder.close now)

/-- No such method touches the lines. -/
theorem IsOrderCommand.fixes {method : PurchaseOrder.OrderMethod Unit} (h : IsOrderCommand method) :
    Method.Fixes (fun po => (po.key, po.lines)) method := by
  cases h with
  | submit now =>
    refine .bind .this fun po => .bind (.enforce _) fun _ => .bind (.enforce _) fun _ => ?_
    exact .bind (.assign fun _ => rfl) fun _ => .assign fun _ => rfl
  | approve actorId now =>
    refine .bind .this fun po => .bind (.enforce _) fun _ => ?_
    exact .bind (.assign fun _ => rfl) fun _ => .assign fun _ => rfl
  | reject reason actorId now =>
    refine .bind .this fun po => .bind (.enforce _) fun _ => ?_
    exact .bind (.assign fun _ => rfl) fun _ => .assign fun _ => rfl
  | cancel actorId hasReceipts now =>
    refine .bind .this fun po => .bind (.enforce _) fun _ => .bind (.enforce _) fun _ => ?_
    exact .bind (.assign fun _ => rfl) fun _ => .assign fun _ => rfl
  | issue actorId now =>
    refine .bind .this fun po => .bind (.enforce _) fun _ => .bind (.enforce _) fun _ => ?_
    exact .bind (.assign fun _ => rfl) fun _ => .assign fun _ => rfl
  | close now =>
    refine .bind .this fun po => .bind (.enforce _) fun _ => ?_
    exact .bind (.assign fun _ => rfl) fun _ => .assign fun _ => rfl

/-- A method that moves an order elsewhere never leaves it cancelled. -/
theorem never_cancels {method : PurchaseOrder.OrderMethod Unit} {verb : PurchaseOrderVerb}
    (h : ∀ po, RefusedOrTransits verb po (method po)) (hverb : verb.target ≠ .cancelled) :
    ∀ po po', method po = (.ok (), po') → po'.status ≠ .cancelled := by
  intro po po' hreturned
  have htransits := h po
  rw [hreturned] at htransits
  rw [htransits.returned.status]
  exact hverb

/-- An order was cancelled by a call that was told of no receipts. -/
theorem cancel_unreceived {actorId : Option String} {hasReceipts : Bool} {now : Nat}
    {po po' : PurchaseOrder}
    (h : PurchaseOrder.cancel actorId hasReceipts now po = (.ok (), po')) : hasReceipts = false := by
  by_contra htrue
  rw [Bool.not_eq_false] at htrue
  subst htrue
  obtain ⟨⟨e, he⟩, _⟩ := @cancel_refused po actorId now
  rw [h] at he
  cases he

/-- A registration touches the lines only. -/
theorem registerLine_fixes {τ : Type} {part : PurchaseOrder → τ}
    (hpart : ∀ po lines, part { po with lines := lines } = part po) (tolerance : ℚ)
    (line : ReceiptLine) :
    Method.Fixes part (PurchaseOrderFactory.registerLine tolerance line) := by
  refine .bind .this fun po => ?_
  cases po.find? line.productId with
  | none => exact .enforce _
  | some poLine =>
    exact .bind (.enforce _) fun _ => .bind (.enforce _) fun _ => .assign fun po => hpart po _

section Opened

variable (lines : List ReceiptLine) (tolerance : ℚ) (actorId : Option String) (now : Nat)

theorem openPoForReceipt_fixes :
    Method.Fixes PurchaseOrder.key
      (PurchaseOrderFactory.openPoForReceipt lines tolerance actorId now) := by
  refine .bind .this fun po => .bind (.enforce _) fun _ => ?_
  exact .bind (.forM _ (registerLine_fixes (fun _ _ => rfl) tolerance) lines) fun _ =>
    .assign fun _ => rfl

theorem openPoForReceipt_status :
    Method.Fixes PurchaseOrder.status
      (PurchaseOrderFactory.openPoForReceipt lines tolerance actorId now) := by
  refine .bind .this fun po => .bind (.enforce _) fun _ => ?_
  exact .bind (.forM _ (registerLine_fixes (fun _ _ => rfl) tolerance) lines) fun _ =>
    .assign fun _ => rfl

end Opened

namespace PrismaPurchaseOrderMapper

theorem balance_toLineRow {line : PurchaseOrderLine} {row : PurchaseOrderLineRow}
    (h : toLineRow line = some row) : row.balance = line.balance := by
  unfold toLineRow at h
  simp only [Option.bind_eq_bind, Option.bind_eq_some_iff, Option.pure_def, Option.some.injEq] at h
  obtain ⟨quantity, hquantity, received, hreceived, rfl⟩ := h
  unfold PurchaseOrderLineRow.balance PurchaseOrderLine.balance
  rw [integer?_eq_some hquantity, integer?_eq_some hreceived]

/-- What a row holds of the order it was written from. -/
theorem toRow_eq_ok {po : PurchaseOrder} {tenantId : Option String} {companyId : String}
    {version : Nat} {row : PurchaseOrderRow} (h : toRow po tenantId companyId version = .ok row) :
    row.id = po.id ∧ row.version = version ∧ row.status = po.status ∧ row.tenantId = tenantId ∧
      row.balances = po.balances := by
  unfold toRow at h
  cases hsubtotal : po.subtotal with
  | error e =>
    rw [hsubtotal] at h
    cases h
  | ok total =>
    have htotal : po.total = .ok total := hsubtotal
    rw [hsubtotal, htotal] at h
    dsimp only [bind, Except.bind] at h
    split at h
    · cases h
    · rename_i lines hlines
      split at h
      · cases h
        exact ⟨rfl, rfl, rfl, rfl, map_of_mapM (fun _ _ => balance_toLineRow) hlines⟩
      · cases h

theorem balances_toDomain (row : PurchaseOrderRow) : (toDomain row).balances = row.balances := by
  unfold PurchaseOrder.balances PurchaseOrderRow.balances toDomain
  rw [List.map_map]
  rfl

end PrismaPurchaseOrderMapper

end Orders

section Notes

/-- What the compare-and-set of a note looks at, and what the note refers to. -/
def GoodReceiptNote.reference (grn : GoodReceiptNote) :
    String × Nat × String × Option String :=
  (grn.id, grn.version, grn.purchaseOrderId, grn.reversalOfId)

/-- The note whose posting the event reports, and whether it is the one for the order. -/
def GrnEvent.posting? : GrnEvent → Option (Bool × String)
  | .grnCompleted grnId => some (false, grnId)
  | .goodsReceiptPosted grnId _ _ => some (true, grnId)
  | _ => none

/-- The methods of a note that its use cases call, besides `complete`. -/
inductive IsGrnCommand : GoodReceiptNote.GrnMethod Unit → Prop where
  | addLine (productId : String) (o r u : ℚ) (now : Nat) :
      IsGrnCommand (GoodReceiptNote.addLine productId o r u now)
  | receive (actorId : Option String) (now : Nat) : IsGrnCommand (GoodReceiptNote.receive actorId now)
  | recordInspectionResult (lines : List InspectionLine) (now : Nat) :
      IsGrnCommand (GoodReceiptNote.recordInspectionResult lines now)
  | cancel (actorId : Option String) (now : Nat) : IsGrnCommand (GoodReceiptNote.cancel actorId now)
  | setLineTracking (productId : String) (entries : List TrackingEntry) (now : Nat) :
      IsGrnCommand (GoodReceiptNote.setLineTracking productId entries now)

/-- What a command other than `complete` leaves of a note: it neither completes it nor says so,
and of a completed one it leaves what was posted. -/
structure Handles (grn grn' : GoodReceiptNote) : Prop where
  reference : grn'.reference = grn.reference
  status : grn'.status = .completed ↔ grn.status = .completed
  posted : grn.status = .completed → grn'.receiptLines = grn.receiptLines
  events : ∀ event ∈ grn'.events, event ∈ grn.events ∨ event.posting? = none

theorem receiptLines_mapLine {productId : String} {entries : List TrackingEntry}
    (lines : List GrnLine) :
    ((GoodReceiptNote.mapLine productId (·.withTracking entries) lines).map fun l =>
        (⟨l.productId, l.postedQuantity⟩ : ReceiptLine)) =
      lines.map fun l => ⟨l.productId, l.postedQuantity⟩ := by
  unfold GoodReceiptNote.mapLine
  rw [List.map_map]
  refine List.map_congr_left fun line _ => ?_
  show (fun l : GrnLine => (⟨l.productId, l.postedQuantity⟩ : ReceiptLine))
    (if line.productId = productId then line.withTracking entries else line) = _
  split
  · rfl
  · rfl

theorem inspectLine_fixes (result : InspectionLine) :
    Method.Fixes (fun grn : GoodReceiptNote => (grn.reference, grn.status, grn.events))
      (GoodReceiptNote.inspectLine result) := by
  refine .bind .this fun grn => ?_
  cases grn.find? result.productId with
  | none => exact .enforce _
  | some line => exact .bind (.enforce _) fun _ => .assign fun _ => rfl

theorem mem_addEvent {grn : GoodReceiptNote} {event added : GrnEvent}
    (h : event ∈ (grn.addEvent added).events) : event ∈ grn.events ∨ event = added := by
  rcases List.mem_append.mp h with h | h
  · exact .inl h
  · exact .inr (List.mem_singleton.mp h)

variable {grn grn' : GoodReceiptNote}

theorem addLine_handles {productId : String} {o r u : ℚ} {now : Nat}
    (h : GoodReceiptNote.addLine productId o r u now grn = (.ok (), grn')) : Handles grn grn' := by
  unfold GoodReceiptNote.addLine at h
  rw [Method.this_bind] at h
  obtain ⟨_, heditable, h⟩ := Method.enforce_bind_ok h
  obtain ⟨_, _, h⟩ := Method.enforce_bind_ok h
  have hdraft : grn.status = .draft := require_eq_ok.mp heditable
  cases h
  refine ⟨rfl, Iff.rfl, fun hcompleted => ?_, fun event hevent => ?_⟩
  · rw [hdraft] at hcompleted
    cases hcompleted
  · exact (mem_addEvent hevent).imp_right fun heq => by rw [heq]; rfl

theorem receive_handles {actorId : Option String} {now : Nat}
    (h : GoodReceiptNote.receive actorId now grn = (.ok (), grn')) : Handles grn grn' := by
  unfold GoodReceiptNote.receive at h
  rw [Method.this_bind] at h
  obtain ⟨_, _, h⟩ := Method.enforce_bind_ok h
  obtain ⟨_, htransition, h⟩ := Method.enforce_bind_ok h
  have hopen : grn.status ≠ .completed := by
    intro hcompleted
    have hallowed := require_eq_ok.mp htransition
    rw [hcompleted] at hallowed
    revert hallowed
    decide
  cases h
  refine ⟨rfl, ⟨fun hcompleted => ?_, fun hcompleted => absurd hcompleted hopen⟩,
    fun hcompleted => absurd hcompleted hopen, fun event hevent => ?_⟩
  · cases hcompleted
  · exact (mem_addEvent hevent).imp_right fun heq => by rw [heq]; rfl

theorem cancel_handles {actorId : Option String} {now : Nat}
    (h : GoodReceiptNote.cancel actorId now grn = (.ok (), grn')) : Handles grn grn' := by
  unfold GoodReceiptNote.cancel at h
  rw [Method.this_bind] at h
  obtain ⟨_, htransition, h⟩ := Method.enforce_bind_ok h
  have hopen : grn.status ≠ .completed := by
    intro hcompleted
    have hallowed := require_eq_ok.mp htransition
    rw [hcompleted] at hallowed
    revert hallowed
    decide
  cases h
  refine ⟨rfl, ⟨fun hcompleted => ?_, fun hcompleted => absurd hcompleted hopen⟩,
    fun hcompleted => absurd hcompleted hopen, fun event hevent => ?_⟩
  · cases hcompleted
  · exact (mem_addEvent hevent).imp_right fun heq => by rw [heq]; rfl

theorem recordInspectionResult_handles {lines : List InspectionLine} {now : Nat}
    (h : GoodReceiptNote.recordInspectionResult lines now grn = (.ok (), grn')) :
    Handles grn grn' := by
  have hfixes : Method.Fixes (fun grn : GoodReceiptNote => (grn.reference, grn.status, grn.events))
      (GoodReceiptNote.recordInspectionResult lines now) := by
    refine .bind .this fun _ => .bind (.enforce _) fun _ => ?_
    exact .bind (.forM _ inspectLine_fixes lines) fun _ => .assign fun _ => rfl
  have hsame := hfixes.of_returned h
  simp only [Prod.mk.injEq] at hsame
  obtain ⟨hreference, hstatus, hevents⟩ := hsame
  unfold GoodReceiptNote.recordInspectionResult at h
  rw [Method.this_bind] at h
  obtain ⟨_, hreceived, _⟩ := Method.enforce_bind_ok h
  have hopen : grn.status = .received := require_eq_ok.mp hreceived
  refine ⟨hreference, by rw [hstatus], fun hcompleted => ?_, fun event hevent => ?_⟩
  · rw [hopen] at hcompleted
    cases hcompleted
  · rw [hevents] at hevent
    exact .inl hevent

theorem IsGrnCommand.handles {method : GoodReceiptNote.GrnMethod Unit} (hmethod : IsGrnCommand method)
    (h : method grn = (.ok (), grn')) : Handles grn grn' := by
  cases hmethod with
  | addLine productId o r u now => exact addLine_handles h
  | receive actorId now => exact receive_handles h
  | recordInspectionResult lines now => exact recordInspectionResult_handles h
  | cancel actorId now => exact cancel_handles h
  | setLineTracking productId entries now =>
    cases h
    exact ⟨rfl, Iff.rfl, fun _ => receiptLines_mapLine _, fun _ hevent => .inl hevent⟩

namespace PrismaGrnMapper

/-- What of a row the note it was written from says. -/
theorem toRow_holds {tenantId : Option String} {companyId : String} {version : Nat} {row : GrnRow}
    (h : toRow grn tenantId companyId version = some row) :
    row.id = grn.id ∧ row.version = version ∧ row.purchaseOrderId = grn.purchaseOrderId ∧
      row.reversalOfId = grn.reversalOfId ∧ row.status = grn.status ∧
      (toDomain row).receiptLines = grn.receiptLines := by
  obtain ⟨hdomain, _, _⟩ := toRow_eq_some h
  refine ⟨congrArg GoodReceiptNote.id hdomain, congrArg GoodReceiptNote.version hdomain,
    congrArg GoodReceiptNote.purchaseOrderId hdomain, congrArg GoodReceiptNote.reversalOfId hdomain,
    congrArg GoodReceiptNote.status hdomain, ?_⟩
  rw [hdomain]
  unfold GoodReceiptNote.receiptLines
  rw [List.map_map]
  rfl

end PrismaGrnMapper

/-- A note can be completed after it was received, and again after it was completed. -/
theorem complete_returned {actorId : Option String} {now : Nat}
    (h : GoodReceiptNote.complete actorId now grn = (.ok (), grn')) :
    (grn.status = .completed ∨ grn.status = .received) ∧ grn'.status = .completed ∧
      grn'.reference = grn.reference ∧ grn'.receiptLines = grn.receiptLines ∧
      grn'.events = grn.events ++
        [GrnEvent.grnCompleted grn.id,
          .goodsReceiptPosted grn.id grn.purchaseOrderId grn.postedLines] := by
  unfold GoodReceiptNote.complete at h
  rw [Method.this_bind] at h
  obtain ⟨_, htransition, h⟩ := Method.enforce_bind_ok h
  have hallowed := require_eq_ok.mp htransition
  cases h
  refine ⟨?_, rfl, rfl, rfl, List.append_assoc _ [_] [_]⟩
  revert hallowed
  cases grn.status <;> decide

end Notes

end DddBoilerplate.Procurement
