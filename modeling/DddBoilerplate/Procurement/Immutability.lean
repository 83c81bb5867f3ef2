/- module: DddBoilerplate/Procurement/Immutability
   generality: I
   digest: Which operations a posted or a cancelled note refuses, and which it lets through. -/

import DddBoilerplate.Procurement.Reconciliation

set_option autoImplicit false
set_option relaxedAutoImplicit false
set_option linter.all false

namespace DddBoilerplate.Procurement

open Domain

/-- The method of the aggregate behind an operation; a write and a read call none. -/
def GrnOperation.method? (now : Nat) : GrnOperation → Option (GoodReceiptNote.GrnMethod Unit)
  | addLine productId orderedQuantity receivedQuantity unitPrice =>
    some (GoodReceiptNote.addLine productId orderedQuantity receivedQuantity unitPrice now)
  | receive actorId => some (GoodReceiptNote.receive actorId now)
  | recordInspectionResult lines => some (GoodReceiptNote.recordInspectionResult lines now)
  | complete actorId => some (GoodReceiptNote.complete actorId now)
  | cancel actorId => some (GoodReceiptNote.cancel actorId now)
  | setLineTracking productId entries =>
    some (GoodReceiptNote.setLineTracking productId entries now)
  | reload => none

theorem GrnOperation.run_method {operation : GrnOperation} {now : Nat}
    {method : GoodReceiptNote.GrnMethod Unit} (h : operation.method? now = some method)
    (grn : GoodReceiptNote) : operation.run now grn = method.after grn := by
  cases operation with
  | reload => cases h
  | _ =>
    cases h
    rfl

/-- Posted or cancelled. -/
def GoodReceiptNote.IsClosed (grn : GoodReceiptNote) : Prop :=
  grn.status = .completed ∨ grn.status = .cancelled

/-- The call throws, and leaves every property and every event as it was. -/
def Refused (method : GoodReceiptNote.GrnMethod Unit) (grn : GoodReceiptNote) : Prop :=
  ∃ e, method grn = (.error e, grn)

/-- Operations a closed note lets through: tracking has no check of the status, and the check
of a transition passes a note that is already in the target. -/
def GrnOperation.PassesClosed (grn : GoodReceiptNote) : GrnOperation → Prop
  | complete _ => grn.status = .completed
  | cancel _ => grn.status = .cancelled
  | setLineTracking _ _ => True
  | addLine _ _ _ _ | receive _ | recordInspectionResult _ | reload => False

instance (grn : GoodReceiptNote) (operation : GrnOperation) :
    Decidable (operation.PassesClosed grn) := by
  unfold GrnOperation.PassesClosed
  split <;> infer_instance

section Refusals

variable {α : Type} {grn : GoodReceiptNote} {check : Except Failure α}
  {f : α → GoodReceiptNote.GrnMethod Unit}

theorem refused_enforce (h : ∀ a, check = .ok a → Refused (f a) grn) :
    Refused (Method.enforce check >>= f) grn := by
  rcases Method.enforce_bind_cases check f grn with ⟨e, _, he⟩ | ⟨a, hcheck, ha⟩
  · exact ⟨e, he⟩
  · obtain ⟨e, he⟩ := h a hcheck
    exact ⟨e, ha.trans he⟩

theorem refused_require {holds : Prop} [Decidable holds] {error : Failure}
    {f : Unit → GoodReceiptNote.GrnMethod Unit} (h : ¬holds) :
    Refused (Method.enforce (require holds error) >>= f) grn :=
  refused_enforce fun _ hok => absurd (require_eq_ok.mp hok) h

theorem not_refused_of_returns {method : GoodReceiptNote.GrnMethod Unit}
    (h : method.Returns grn) : ¬Refused method grn := by
  rintro ⟨e, he⟩
  obtain ⟨a, ha⟩ := h
  rw [he] at ha
  cases ha

/-- No status but its own leads to a closed one from a closed one. -/
theorem transition_of_closed {target : GrnStatus} (hclosed : grn.IsClosed)
    (h : grn.status = target ∨ target ∈ grn.status.validTransitions) : grn.status = target := by
  refine h.resolve_right ?_
  rcases hclosed with hstatus | hstatus
  · rw [hstatus]
    exact List.not_mem_nil
  · rw [hstatus]
    exact List.not_mem_nil

/-- A method that begins with the check of its transition refuses a closed note, unless the note
is in the target already. -/
theorem refused_transition_iff {target : GrnStatus} {f : Unit → GoodReceiptNote.GrnMethod Unit}
    (hclosed : grn.IsClosed) (hgoes : (f ()).Returns grn) :
    Refused (Method.enforce (grnStatusTransition grn.status target) >>= f) grn ↔
      grn.status ≠ target := by
  constructor
  · intro hrefused hstatus
    refine not_refused_of_returns ?_ hrefused
    obtain ⟨a, ha⟩ := hgoes
    refine ⟨a, ?_⟩
    have hcheck : grnStatusTransition grn.status target = .ok () :=
      require_eq_ok.mpr (.inl hstatus)
    rw [hcheck]
    exact ha
  · intro hne
    exact refused_require fun hallowed => hne (transition_of_closed hclosed hallowed)

theorem refused_addLine (productId : String) (o r u : ℚ) (now : Nat) (hclosed : grn.IsClosed) :
    Refused (GoodReceiptNote.addLine productId o r u now) grn := by
  have hnot : grn.status ≠ .draft := by
    rcases hclosed with hstatus | hstatus <;> simp [hstatus]
  exact @refused_require grn _ _ _ _ hnot

theorem refused_receive (actorId : Option String) (now : Nat) (hclosed : grn.IsClosed) :
    Refused (GoodReceiptNote.receive actorId now) grn := by
  have hnot : grn.status ≠ .received := by
    rcases hclosed with hstatus | hstatus <;> simp [hstatus]
  refine @refused_enforce _ grn (grnHasLines grn.lines.length) _ fun _ _ => ?_
  exact refused_require fun hallowed => hnot (transition_of_closed hclosed hallowed)

theorem refused_recordInspectionResult (lines : List InspectionLine) (now : Nat)
    (hclosed : grn.IsClosed) :
    Refused (GoodReceiptNote.recordInspectionResult lines now) grn := by
  have hnot : grn.status ≠ .received := by
    rcases hclosed with hstatus | hstatus <;> simp [hstatus]
  exact @refused_require grn _ _ _ _ hnot

theorem refused_complete_iff (actorId : Option String) (now : Nat) (hclosed : grn.IsClosed) :
    Refused (GoodReceiptNote.complete actorId now) grn ↔ grn.status ≠ .completed :=
  refused_transition_iff hclosed ⟨(), rfl⟩

theorem refused_cancel_iff (actorId : Option String) (now : Nat) (hclosed : grn.IsClosed) :
    Refused (GoodReceiptNote.cancel actorId now) grn ↔ grn.status ≠ .cancelled :=
  refused_transition_iff hclosed ⟨(), rfl⟩

end Refusals

/-- A posted or cancelled note refuses an operation, and is left as it was, exactly where the
operation is neither tracking nor the transition that was made already. -/
theorem closed_grn_is_immutable {grn : GoodReceiptNote} {operation : GrnOperation} {now : Nat}
    {method : GoodReceiptNote.GrnMethod Unit} (hclosed : grn.IsClosed)
    (hmethod : operation.method? now = some method) :
    Refused method grn ↔ ¬operation.PassesClosed grn := by
  cases operation with
  | addLine productId o r u =>
    cases hmethod
    exact iff_of_true (refused_addLine productId o r u now hclosed) id
  | receive actorId =>
    cases hmethod
    exact iff_of_true (refused_receive actorId now hclosed) id
  | recordInspectionResult lines =>
    cases hmethod
    exact iff_of_true (refused_recordInspectionResult lines now hclosed) id
  | complete actorId =>
    cases hmethod
    exact refused_complete_iff actorId now hclosed
  | cancel actorId =>
    cases hmethod
    exact refused_cancel_iff actorId now hclosed
  | setLineTracking productId entries =>
    cases hmethod
    exact iff_of_false (not_refused_of_returns ⟨(), rfl⟩) fun h => h trivial
  | reload => cases hmethod

/-- A note of five bolts as it stands after it was posted. -/
def postedNote : GoodReceiptNote where
  id := "grn"
  grnNumber := "GRN-00000001"
  purchaseOrderId := "po"
  vendorId := "vendor"
  status := .completed
  currency := "USD"
  lines := [GrnLine.create "bolt" 10 5 2 none none none]
  receivedAt := some 1
  reversalOfId := none
  createdBy := none
  receivedBy := none
  postedBy := some "ann"
  cancelledBy := none
  createdAt := 0
  updatedAt := 2
  version := 3
  events := []

/-- Posted by one, posted again by another: the poster is overwritten and the receipt announced
once more. Its tracking is rewritten as well. -/
theorem posted_note_rewritten :
    postedNote.IsClosed ∧
      (∃ method, (GrnOperation.complete (some "ben")).method? 3 = some method ∧
        method.Returns postedNote ∧ (method.after postedNote).postedBy = some "ben" ∧
        (method.after postedNote).events =
          [.grnCompleted "grn", .goodsReceiptPosted "grn" "po" [⟨"grn:bolt", "bolt", 5, 2⟩]]) ∧
      ∃ method, (GrnOperation.setLineTracking "bolt" [⟨some "lot", none, 5, none, none⟩]).method? 3 =
          some method ∧
        method.Returns postedNote ∧
        (method.after postedNote).lines.map (·.tracking) =
          [[⟨some "lot", none, 5, none, none⟩]] :=
  ⟨.inl rfl, ⟨_, rfl, ⟨(), rfl⟩, rfl, by decide⟩, _, rfl, ⟨(), rfl⟩, rfl⟩

theorem closed_grn_is_immutable_cancel :
    ∃ method, (GrnOperation.cancel (some "ben")).method? 3 = some method ∧
      Refused method postedNote :=
  ⟨_, rfl, (@closed_grn_is_immutable postedNote (.cancel (some "ben")) 3 _ (.inl rfl) rfl).mpr
    (by decide)⟩

end DddBoilerplate.Procurement
