/- module: DddBoilerplate/Procurement/Reconciliation
   generality: I
   digest: Quantity reconciliation of goods receipt notes over every sequence of their operations. -/

import DddBoilerplate.Procurement.GoodReceiptNote
import DddBoilerplate.Store.Keyed

set_option autoImplicit false
set_option relaxedAutoImplicit false
set_option linter.all false

namespace DddBoilerplate.Procurement

open Domain

/-- GRN-01: what was received is what was accepted and what was rejected. -/
def GrnLine.Balanced (line : GrnLine) : Prop :=
  line.receivedQuantity = line.acceptedQuantity + line.rejectedQuantity

instance (line : GrnLine) : Decidable line.Balanced := by
  unfold GrnLine.Balanced
  infer_instance

def GoodReceiptNote.products (grn : GoodReceiptNote) : List String :=
  grn.lines.map (·.productId)

/-- Every line balances, and no product has two lines. -/
def GoodReceiptNote.Reconciled (grn : GoodReceiptNote) : Prop :=
  (∀ line ∈ grn.lines, line.Balanced) ∧ grn.products.Nodup

instance (grn : GoodReceiptNote) : Decidable grn.Reconciled := by
  unfold GoodReceiptNote.Reconciled
  infer_instance

/-- The operations on an existing note; `reload` writes it and reads it back. -/
inductive GrnOperation where
  | addLine (productId : String) (orderedQuantity receivedQuantity unitPrice : ℚ)
  | receive (actorId : Option String)
  | recordInspectionResult (lines : List InspectionLine)
  | complete (actorId : Option String)
  | cancel (actorId : Option String)
  | setLineTracking (productId : String) (entries : List TrackingEntry)
  | reload

/-- The note after an operation, also after one that threw; a refused write leaves it. -/
def GrnOperation.run (now : Nat) (grn : GoodReceiptNote) : GrnOperation → GoodReceiptNote
  | addLine productId orderedQuantity receivedQuantity unitPrice =>
    (GoodReceiptNote.addLine productId orderedQuantity receivedQuantity unitPrice now).after grn
  | receive actorId => (GoodReceiptNote.receive actorId now).after grn
  | recordInspectionResult lines => (GoodReceiptNote.recordInspectionResult lines now).after grn
  | complete actorId => (GoodReceiptNote.complete actorId now).after grn
  | cancel actorId => (GoodReceiptNote.cancel actorId now).after grn
  | setLineTracking productId entries =>
    (GoodReceiptNote.setLineTracking productId entries now).after grn
  | reload =>
    match PrismaGrnMapper.toRow grn none "" grn.version with
    | some row => PrismaGrnMapper.toDomain row
    | none => grn

/-- The two ways a note comes into being. -/
inductive GrnOrigin where
  | create (input : CreateGrnInput)
  | createReversal (input : CreateGrnReversalInput)

def GrnOrigin.build (id : String) (now : Nat) : GrnOrigin → Except Failure GoodReceiptNote
  | create input => GrnFactory.create input id now
  | createReversal input => GrnFactory.createReversal input id now

/-- The notes some sequence of operations leads to, each step meeting its condition. -/
inductive GrnReached (starts : GrnOrigin → Prop) (steps : GoodReceiptNote → GrnOperation → Prop) :
    GoodReceiptNote → Prop where
  | built {origin : GrnOrigin} {id : String} {now : Nat} {grn : GoodReceiptNote} :
      starts origin → origin.build id now = .ok grn → GrnReached starts steps grn
  | operated {grn : GoodReceiptNote} {operation : GrnOperation} {now : Nat} :
      GrnReached starts steps grn → steps grn operation →
        GrnReached starts steps (operation.run now grn)

/-- The lines the note is built from name each product once. -/
def GrnOrigin.NamesProductsOnce : GrnOrigin → Prop
  | create input => (input.lines.map (·.productId)).Nodup
  | createReversal input => (input.lines.map (·.productId)).Nodup

/-- No addition goes through for a product the note already has. -/
def AddsNewProduct (grn : GoodReceiptNote) : GrnOperation → Prop
  | .addLine productId _ receivedQuantity _ =>
    grn.status = .draft → 0 < receivedQuantity → grn.find? productId = none
  | _ => True

namespace GoodReceiptNote

section Lines

variable {productId : String} {f : GrnLine → GrnLine} {lines : List GrnLine}

theorem products_mapLine (hf : ∀ line, (f line).productId = line.productId) :
    (mapLine productId f lines).map (·.productId) = lines.map (·.productId) :=
  Store.keys_mapKey hf

theorem mem_mapLine {line' : GrnLine} (h : line' ∈ mapLine productId f lines) :
    (∃ line ∈ lines, line.productId = productId ∧ line' = f line) ∨
      (line' ∈ lines ∧ line'.productId ≠ productId) :=
  Store.mem_mapKey h

variable {grn : GoodReceiptNote}

theorem mem_of_find? {line : GrnLine} (h : grn.find? productId = some line) :
    line ∈ grn.lines ∧ line.productId = productId :=
  Store.mem_of_findKey h

/-- The line found for a product is its only line. -/
theorem eq_of_find? {line line' : GrnLine} (hdistinct : grn.products.Nodup)
    (h : grn.find? productId = some line) (hmem : line' ∈ grn.lines)
    (hproduct : line'.productId = productId) : line' = line :=
  Store.eq_of_findKey hdistinct h hmem hproduct

end Lines

/-- What leaves the lines alone leaves the note reconciled. -/
theorem Reconciled.of_lines {grn grn' : GoodReceiptNote} (h : grn.Reconciled)
    (hlines : grn'.lines = grn.lines) : grn'.Reconciled := by
  unfold Reconciled products
  rw [hlines]
  exact h

/-- A line rewritten in balance, under its own product, leaves the note reconciled. -/
theorem Reconciled.of_mapLine {grn grn' : GoodReceiptNote} {productId : String}
    {f : GrnLine → GrnLine} (h : grn.Reconciled)
    (hlines : grn'.lines = mapLine productId f grn.lines)
    (hproduct : ∀ line, (f line).productId = line.productId)
    (hbalanced : ∀ line ∈ grn.lines, line.productId = productId → (f line).Balanced) :
    grn'.Reconciled := by
  refine ⟨fun line hline => ?_, ?_⟩
  · rw [hlines] at hline
    rcases mem_mapLine hline with ⟨original, hmem, hp, rfl⟩ | ⟨hmem, _⟩
    · exact hbalanced original hmem hp
    · exact h.1 line hmem
  · unfold products
    rw [hlines, products_mapLine hproduct]
    exact h.2

theorem lines_receive (actorId : Option String) (now : Nat) :
    Method.Fixes GoodReceiptNote.lines (receive actorId now) := by
  refine .bind .this fun grn => .bind (.enforce _) fun _ => .bind (.enforce _) fun _ => ?_
  exact .bind (.assign fun _ => rfl) fun _ => .assign fun _ => rfl

theorem lines_complete (actorId : Option String) (now : Nat) :
    Method.Fixes GoodReceiptNote.lines (complete actorId now) := by
  refine .bind .this fun grn => .bind (.enforce _) fun _ => .bind (.assign fun _ => rfl) fun _ => ?_
  exact .bind (.assign fun _ => rfl) fun _ => .assign fun _ => rfl

theorem lines_cancel (actorId : Option String) (now : Nat) :
    Method.Fixes GoodReceiptNote.lines (cancel actorId now) := by
  refine .bind .this fun grn => .bind (.enforce _) fun _ => ?_
  exact .bind (.assign fun _ => rfl) fun _ => .assign fun _ => rfl

/-- What an addition leaves: the note as it was, or its lines with one more, or with one
line's received quantity raised. -/
theorem addLine_cases (productId : String) (o r u : ℚ) (now : Nat) (grn : GoodReceiptNote) :
    (addLine productId o r u now).after grn = grn ∨
      (grn.status = .draft ∧ 0 < r ∧
        ((addLine productId o r u now).after grn).lines =
          match grn.find? productId with
          | some existing =>
            mapLine productId (·.withReceivedQuantity (existing.receivedQuantity + r)) grn.lines
          | none => grn.lines ++ [GrnLine.create productId o r u none none none]) := by
  unfold addLine Method.after
  simp only [Method.this_bind]
  rcases Method.enforce_bind_cases (grnEditable grn.status) _ grn with ⟨_, _, h⟩ | ⟨_, hdraft, h⟩
  · rw [h]
    exact .inl rfl
  · rw [h]
    rcases Method.enforce_bind_cases (grnLineQuantity r) _ grn with ⟨_, _, h⟩ | ⟨_, hpos, h⟩
    · rw [h]
      exact .inl rfl
    · rw [h]
      exact .inr ⟨require_eq_ok.mp hdraft, require_eq_ok.mp hpos, rfl⟩

theorem reconciled_addLine {productId : String} {o r u : ℚ} {now : Nat} {grn : GoodReceiptNote}
    (h : grn.Reconciled)
    (hnew : grn.status = .draft → 0 < r → grn.find? productId = none) :
    ((addLine productId o r u now).after grn).Reconciled := by
  rcases addLine_cases productId o r u now grn with hsame | ⟨hdraft, hpos, hlines⟩
  · rw [hsame]
    exact h
  · have hfree := hnew hdraft hpos
    rw [hfree] at hlines
    obtain ⟨hbalanced, hdistinct⟩ := h
    refine ⟨fun line hline => ?_, ?_⟩
    · rw [hlines] at hline
      rcases List.mem_append.mp hline with hline | hline
      · exact hbalanced line hline
      · rw [List.mem_singleton.mp hline]
        simp [GrnLine.Balanced, GrnLine.create]
    · unfold products
      rw [hlines]
      exact Store.nodup_keys_append hdistinct hfree

/-- An addition that goes through for a product of the note leaves that line unbalanced. -/
theorem not_reconciled_addLine {productId : String} {o r u : ℚ} {now : Nat}
    {grn : GoodReceiptNote} {existing : GrnLine} (h : grn.Reconciled) (hdraft : grn.status = .draft)
    (hpos : 0 < r) (hfind : grn.find? productId = some existing) :
    ¬((addLine productId o r u now).after grn).Reconciled := by
  intro hreconciled
  obtain ⟨hmem, hproduct⟩ := mem_of_find? hfind
  have hbefore := h.1 existing hmem
  have hlines : ((addLine productId o r u now).after grn).lines =
      mapLine productId (·.withReceivedQuantity (existing.receivedQuantity + r)) grn.lines := by
    unfold addLine Method.after
    simp only [Method.this_bind, grnEditable, grnLineQuantity, require, hdraft, hpos, if_true,
      Method.enforce_ok_bind, Method.assign_bind, Method.assign_apply, addEvent, hfind]
  have hraised : existing.withReceivedQuantity (existing.receivedQuantity + r) ∈
      ((addLine productId o r u now).after grn).lines := by
    rw [hlines]
    refine List.mem_map.mpr ⟨existing, hmem, ?_⟩
    rw [if_pos hproduct]
  have hafter := hreconciled.1 _ hraised
  simp only [GrnLine.Balanced, GrnLine.withReceivedQuantity] at hbefore hafter
  rw [hbefore] at hafter
  linarith

theorem reconciled_inspectLine (result : InspectionLine) :
    Method.Keeps (fun grn grn' => grn.Reconciled → grn'.Reconciled) (inspectLine result) := by
  intro grn h
  unfold inspectLine Method.after
  simp only [Method.this_bind]
  cases hfind : grn.find? result.productId with
  | none => exact h
  | some line =>
    simp only
    rcases Method.enforce_bind_cases (grnInspectionBalance line.receivedQuantity
        result.acceptedQuantity result.rejectedQuantity) _ grn with ⟨_, _, hrun⟩ | ⟨_, hok, hrun⟩
    · rw [hrun]
      exact h
    · rw [hrun]
      obtain ⟨hsum, _, _⟩ := grnInspectionBalance_eq_ok.mp hok
      refine h.of_mapLine rfl (fun _ => rfl) fun line' hmem hproduct => ?_
      have hsame := eq_of_find? h.2 hfind hmem hproduct
      subst hsame
      exact hsum.symm

theorem reconciled_recordInspectionResult (lines : List InspectionLine) (now : Nat) :
    Method.Keeps (fun grn grn' => grn.Reconciled → grn'.Reconciled)
      (recordInspectionResult lines now) := by
  unfold recordInspectionResult
  have hrefl : ∀ grn : GoodReceiptNote, grn.Reconciled → grn.Reconciled := fun _ h => h
  have htrans : ∀ a b c : GoodReceiptNote, (a.Reconciled → b.Reconciled) →
      (b.Reconciled → c.Reconciled) → (a.Reconciled → c.Reconciled) :=
    fun _ _ _ hab hbc h => hbc (hab h)
  refine Method.Keeps.bind htrans (fun grn => hrefl grn) fun grn => ?_
  refine Method.Keeps.bind htrans (Method.Keeps.enforce hrefl _) fun _ => ?_
  refine Method.Keeps.bind htrans
    (Method.Keeps.forM hrefl htrans inspectLine reconciled_inspectLine lines) fun _ => ?_
  exact fun grn h => h.of_lines rfl

theorem reconciled_setLineTracking {productId : String} {entries : List TrackingEntry} {now : Nat}
    {grn : GoodReceiptNote} (h : grn.Reconciled) :
    ((setLineTracking productId entries now).after grn).Reconciled :=
  h.of_mapLine rfl (fun _ => rfl) fun line hmem _ => h.1 line hmem

end GoodReceiptNote

section Built

variable {grn : GoodReceiptNote} {id : String} {now : Nat}

theorem reconciled_create {input : CreateGrnInput} (h : GrnFactory.create input id now = .ok grn)
    (hinput : (input.lines.map (·.productId)).Nodup) : grn.Reconciled := by
  unfold GrnFactory.create at h
  cases hcheck : grnCreate input.purchaseOrderId with
  | error e =>
    rw [hcheck] at h
    cases h
  | ok u =>
    rw [hcheck] at h
    cases h
    refine ⟨fun line hline => ?_, ?_⟩
    · obtain ⟨origin, _, rfl⟩ := List.mem_map.mp hline
      simp [GrnLine.Balanced, GrnLine.create]
    · show ((input.lines.map _).map GrnLine.productId).Nodup
      rw [List.map_map]
      exact hinput

/-- A loop of checks that went through checked every element. -/
theorem ok_of_forM {α ε : Type} {f : α → Except ε Unit} {xs : List α} {u : Unit}
    (h : xs.forM f = .ok u) : ∀ x ∈ xs, f x = .ok () := by
  induction xs with
  | nil => exact fun x hx => absurd hx List.not_mem_nil
  | cons y ys ih =>
    rw [show (y :: ys).forM f = (f y >>= fun _ => ys.forM f) from rfl] at h
    cases hy : f y with
    | error e =>
      rw [hy] at h
      cases h
    | ok v =>
      rw [hy] at h
      intro x hx
      rcases List.mem_cons.mp hx with rfl | hx
      · exact hy
      · exact ih h x hx

theorem reconciled_createReversal {input : CreateGrnReversalInput}
    (h : GrnFactory.createReversal input id now = .ok grn)
    (hinput : (input.lines.map (·.productId)).Nodup) : grn.Reconciled := by
  unfold GrnFactory.createReversal at h
  cases hcheck : grnReversal input.reversalOfId with
  | error e =>
    rw [hcheck] at h
    cases h
  | ok u =>
    rw [hcheck] at h
    simp only [bind, Except.bind] at h
    split at h
    · cases h
    · rename_i hbalance
      cases h
      refine ⟨fun line hline => ?_, ?_⟩
      · exact (grnReversalBalance_eq_ok.mp (ok_of_forM hbalance line hline)).1.symm
      · show ((input.lines.map _).map GrnLine.productId).Nodup
        rw [List.map_map]
        exact hinput

theorem reconciled_reload (h : grn.Reconciled) :
    (GrnOperation.reload.run now grn).Reconciled := by
  unfold GrnOperation.run
  cases hrow : PrismaGrnMapper.toRow grn none "" grn.version with
  | none => exact h
  | some row =>
    simp only
    rw [(PrismaGrnMapper.toRow_eq_some hrow).1]
    refine ⟨fun line hline => ?_, ?_⟩
    · obtain ⟨original, hmem, rfl⟩ := List.mem_map.mp hline
      exact h.1 original hmem
    · show ((grn.lines.map GrnLine.stored).map GrnLine.productId).Nodup
      rw [List.map_map]
      exact h.2

end Built

theorem reconciled_run {grn : GoodReceiptNote} {operation : GrnOperation} {now : Nat}
    (h : grn.Reconciled) (hnew : AddsNewProduct grn operation) :
    (operation.run now grn).Reconciled := by
  cases operation with
  | addLine productId o r u => exact GoodReceiptNote.reconciled_addLine h hnew
  | receive actorId => exact h.of_lines (GoodReceiptNote.lines_receive actorId now grn)
  | recordInspectionResult lines =>
    exact GoodReceiptNote.reconciled_recordInspectionResult lines now grn h
  | complete actorId => exact h.of_lines (GoodReceiptNote.lines_complete actorId now grn)
  | cancel actorId => exact h.of_lines (GoodReceiptNote.lines_cancel actorId now grn)
  | setLineTracking productId entries => exact GoodReceiptNote.reconciled_setLineTracking h
  | reload => exact reconciled_reload h

/-- Built from lines that name each product once, and extended only by new products, a note
stays reconciled. -/
theorem grn_quantities_reconcile {grn : GoodReceiptNote}
    (h : GrnReached GrnOrigin.NamesProductsOnce AddsNewProduct grn) : grn.Reconciled := by
  induction h with
  | @built origin id now grn hstarts hbuild =>
    cases origin with
    | create input => exact reconciled_create hbuild hstarts
    | createReversal input => exact reconciled_createReversal hbuild hstarts
  | operated _ hsteps ih => exact reconciled_run ih hsteps

/-- A request for a note with these lines. -/
def draftInput (lines : List GrnLineInput) : CreateGrnInput where
  grnNumber := "GRN-00000001"
  purchaseOrderId := "po"
  vendorId := "vendor"
  currency := none
  createdBy := none
  lines := lines

/-- Five received, then three more of the same product: eight received, five accepted. -/
theorem added_twice_unbalanced :
    ∃ grn, GrnReached (fun _ => True) (fun _ _ => True) grn ∧ ¬grn.Reconciled := by
  obtain ⟨grn, hgrn, hbad⟩ : ∃ grn,
      (GrnOrigin.create (draftInput [⟨"bolt", 10, 5, 2⟩])).build "grn" 0 = .ok grn ∧
        ¬((GrnOperation.addLine "bolt" 10 3 2).run 1 grn).Reconciled :=
    ⟨_, rfl, by decide +kernel⟩
  exact ⟨_, .operated (.built trivial hgrn) trivial, hbad⟩

theorem grn_quantities_reconcile_two :
    ∃ grn, (GrnOrigin.create (draftInput [⟨"bolt", 10, 5, 2⟩])).build "grn" 0 = .ok grn ∧
      ((GrnOperation.addLine "nut" 10 3 2).run 1 grn).Reconciled :=
  ⟨_, rfl, grn_quantities_reconcile
    (.operated (@GrnReached.built _ _ (.create (draftInput [⟨"bolt", 10, 5, 2⟩])) _ _ _
      (List.nodup_singleton _) rfl) fun _ _ => rfl)⟩

end DddBoilerplate.Procurement
