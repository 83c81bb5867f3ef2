/- module: DddBoilerplate/Procurement/Positivity
   generality: I
   digest: Every line of a stored note that is no reversal received something. -/

import DddBoilerplate.Procurement.Inspection

set_option autoImplicit false
set_option relaxedAutoImplicit false
set_option linter.all false

namespace DddBoilerplate.Procurement

open Domain Store

/-- Every line of the note received something. -/
def GoodReceiptNote.Positive (grn : GoodReceiptNote) : Prop :=
  ∀ line ∈ grn.lines, 0 < line.receivedQuantity

/-- Every note but a compensating one received something on every line. -/
def ProcurementDb.Positive (db : ProcurementDb) : Prop :=
  ∀ row ∈ db.grns.rows, row.reversalOfId = none → (PrismaGrnMapper.toDomain row).Positive

instance (db : ProcurementDb) : Decidable db.Positive := by
  unfold ProcurementDb.Positive GoodReceiptNote.Positive
  infer_instance

variable {grn grn' : GoodReceiptNote}

theorem GoodReceiptNote.Positive.of_lines (h : grn.Positive) (hlines : grn'.lines = grn.lines) :
    grn'.Positive := by
  intro line hline
  rw [hlines] at hline
  exact h line hline

/-- Rewriting a product's lines keeps the note positive where the rewritten ones are. -/
theorem GoodReceiptNote.Positive.of_mapLine {productId : String} {f : GrnLine → GrnLine}
    (h : grn.Positive) (hlines : grn'.lines = mapLine productId f grn.lines)
    (hf : ∀ line, 0 < line.receivedQuantity → 0 < (f line).receivedQuantity) : grn'.Positive := by
  intro line hline
  rw [hlines] at hline
  rcases mem_mapLine hline with ⟨original, hmem, _, rfl⟩ | ⟨hmem, _⟩
  · exact hf original (h original hmem)
  · exact h line hmem

theorem addLine_positive {productId : String} {o r u : ℚ} {now : Nat} (h : grn.Positive) :
    ((GoodReceiptNote.addLine productId o r u now).after grn).Positive := by
  rcases GoodReceiptNote.addLine_cases productId o r u now grn with hsame | ⟨_, hpos, hlines⟩
  · rw [hsame]
    exact h
  · cases hfind : grn.find? productId with
    | none =>
      rw [hfind] at hlines
      intro line hline
      rw [hlines] at hline
      rcases List.mem_append.mp hline with hline | hline
      · exact h line hline
      · rw [List.mem_singleton.mp hline]
        exact hpos
    | some existing =>
      rw [hfind] at hlines
      refine h.of_mapLine hlines fun line _ => ?_
      exact add_pos (h existing (GoodReceiptNote.mem_of_find? hfind).1) hpos

theorem inspectLine_positive (result : InspectionLine) :
    Method.Keeps (fun grn grn' : GoodReceiptNote => grn.Positive → grn'.Positive)
      (GoodReceiptNote.inspectLine result) := by
  intro grn h
  unfold GoodReceiptNote.inspectLine Method.after
  simp only [Method.this_bind]
  cases grn.find? result.productId with
  | none => exact h
  | some line =>
    simp only
    rcases Method.enforce_bind_cases (grnInspectionBalance line.receivedQuantity
        result.acceptedQuantity result.rejectedQuantity) _ grn with ⟨_, _, hrun⟩ | ⟨_, _, hrun⟩
    · rw [hrun]
      exact h
    · rw [hrun]
      exact h.of_mapLine rfl fun _ hpos => hpos

theorem recordInspectionResult_positive (lines : List InspectionLine) (now : Nat) :
    Method.Keeps (fun grn grn' : GoodReceiptNote => grn.Positive → grn'.Positive)
      (GoodReceiptNote.recordInspectionResult lines now) := by
  have hrefl : ∀ grn : GoodReceiptNote, grn.Positive → grn.Positive := fun _ h => h
  have htrans : ∀ a b c : GoodReceiptNote, (a.Positive → b.Positive) →
      (b.Positive → c.Positive) → (a.Positive → c.Positive) := fun _ _ _ hab hbc h => hbc (hab h)
  refine Method.Keeps.bind htrans (fun grn => hrefl grn) fun grn => ?_
  refine Method.Keeps.bind htrans (Method.Keeps.enforce hrefl _) fun _ => ?_
  refine Method.Keeps.bind htrans
    (Method.Keeps.forM hrefl htrans _ inspectLine_positive lines) fun _ => ?_
  exact fun grn h => h.of_lines rfl

/-- No command makes a line that received nothing. -/
theorem IsGrnCommand.positive {method : GoodReceiptNote.GrnMethod Unit}
    (hmethod : IsGrnCommand method) (hrun : method grn = (.ok (), grn')) (h : grn.Positive) :
    grn'.Positive := by
  have hafter : grn' = method.after grn := by
    unfold Method.after
    rw [hrun]
  rw [hafter]
  cases hmethod with
  | addLine productId o r u now => exact addLine_positive h
  | receive actorId now => exact h.of_lines (GoodReceiptNote.lines_receive actorId now grn)
  | recordInspectionResult lines now => exact recordInspectionResult_positive lines now grn h
  | cancel actorId now => exact h.of_lines (GoodReceiptNote.lines_cancel actorId now grn)
  | setLineTracking productId entries now => exact h.of_mapLine rfl fun _ hpos => hpos

theorem create_positive {input : CreateGrnInput} {id : String} {now : Nat}
    (hinput : ∀ line ∈ input.lines, 1 ≤ line.receivedQuantity)
    (h : GrnFactory.create input id now = .ok grn) : grn.Positive := by
  unfold GrnFactory.create at h
  cases hcheck : grnCreate input.purchaseOrderId with
  | error e =>
    rw [hcheck] at h
    cases h
  | ok _ =>
    rw [hcheck] at h
    cases h
    intro line hline
    obtain ⟨origin, hmem, rfl⟩ := List.mem_map.mp hline
    exact lt_of_lt_of_le one_pos (hinput origin hmem)

section Stored

variable {tenantId : Option String} {companyId : String} {version : Nat} {row : GrnRow}

theorem toRow_positive (h : PrismaGrnMapper.toRow grn tenantId companyId version = some row) :
    (PrismaGrnMapper.toDomain row).Positive ↔ grn.Positive := by
  have hlines := congrArg GoodReceiptNote.lines (PrismaGrnMapper.toRow_eq_some h).1
  unfold GoodReceiptNote.Positive
  rw [hlines]
  simp only [List.forall_mem_map]
  exact Iff.rfl

variable {tolerances : ℚ → Prop} {ok : Served} {s s' : ProcurementDb} {writes : List Write}

theorem ProcurementDb.Positive.of_grns (h : s.Positive) (hgrns : s'.grns = s.grns) :
    s'.Positive := by
  unfold ProcurementDb.Positive
  rw [hgrns]
  exact h

/-- A note written anew stays positive where the one read was. -/
theorem ProcurementDb.Positive.of_rewrites {method : GoodReceiptNote.GrnMethod Unit}
    {old new : GrnRow} (h : s.Positive) (hrewrites : Rewrites s method old new grn)
    (hreference : grn.reference = (PrismaGrnMapper.toDomain old).reference)
    (hkept : (PrismaGrnMapper.toDomain old).Positive → grn.Positive)
    (hgrns : s'.grns = s.grns.put new) : s'.Positive := by
  obtain ⟨_, _, _, hreversal, _⟩ := hrewrites.next hreference
  intro row hmem hnone
  rw [hgrns] at hmem
  rcases Table.mem_put hmem with rfl | hmem
  · refine (toRow_positive hrewrites.written).mpr (hkept ?_)
    exact h old (Table.mem_of_get? hrewrites.stored) (hreversal.symm.trans hnone)
  · exact h row hmem hnone

/-- Whatever is committed, the notes stay positive. -/
theorem Committed.positive (hcommits : Committed tolerances ok s writes s') (h : s.Positive) :
    s'.Positive := by
  cases hcommits with
  | registered receives wrote => exact h.of_grns wrote.grns
  | transitioned command stored returned unreceived written wrote => exact h.of_grns wrote.grns
  | created positive built written fresh wrote =>
    intro row hmem hnone
    rw [wrote.grns] at hmem
    rcases (Table.mem_insert fresh).mp hmem with hmem | rfl
    · exact h row hmem hnone
    · exact (toRow_positive written).mpr (create_positive positive built)
  | changed command rewrites wrote =>
    have hreference := (command.handles rewrites.returned).reference
    exact h.of_rewrites rewrites hreference (command.positive rewrites.returned) wrote.grns
  | posted receives order rewrites wrote =>
    obtain ⟨_, _, hreference, _⟩ := complete_returned rewrites.returned
    refine h.of_rewrites rewrites hreference (fun hpos => hpos.of_lines ?_) wrote.grns
    exact (GoodReceiptNote.lines_complete _ _).of_returned rewrites.returned
  | reversed receives order read completed growsRead readOrder grows met lines ofId ofOrder built
      written fresh wrote =>
    intro row hmem hnone
    rw [wrote.grns] at hmem
    rcases (Table.mem_insert fresh).mp hmem with hmem | rfl
    · exact h row hmem hnone
    · obtain ⟨_, _, _, hreversal, _⟩ := PrismaGrnMapper.toRow_holds written
      rw [hreversal, (createReversal_built built).2.2.1] at hnone
      cases hnone

/-- What a positive note posts of a line is more than nothing. -/
theorem postedQuantity_pos (h : grn.Positive) : ∀ line ∈ grn.receiptLines, 0 < line.receivedQuantity := by
  intro line hline
  obtain ⟨original, hmem, rfl⟩ := List.mem_map.mp hline
  show 0 < original.postedQuantity
  unfold GrnLine.postedQuantity
  split
  · assumption
  · exact h original hmem

end Stored

end DddBoilerplate.Procurement
