/- module: DddBoilerplate/Procurement/Inspection
   generality: I
   digest: What posting and reversing a note registers and announces of the goods an inspection rejected. -/

import Mathlib.Algebra.BigOperators.Group.List.Basic
import Mathlib.Data.List.Induction
import DddBoilerplate.Procurement.Reconciliation
import DddBoilerplate.Procurement.Scenario

set_option autoImplicit false
set_option relaxedAutoImplicit false
set_option linter.all false

namespace DddBoilerplate.Procurement

open Concurrency Domain

/-- The split an inspection leaves for a product: the last one it names. -/
def splitOf (productId : String) (results : List InspectionLine) : Option InspectionLine :=
  results.reverse.find? fun result => result.productId = productId

theorem splitOf_append (productId : String) (results : List InspectionLine)
    (result : InspectionLine) :
    splitOf productId (results ++ [result]) =
      if result.productId = productId then some result else splitOf productId results := by
  unfold splitOf
  rw [List.reverse_append, List.reverse_singleton, List.singleton_append, List.find?_cons]
  by_cases hp : result.productId = productId <;> simp [hp]

/-- What an inspection left on a line, where it named the line's product. -/
def Split (results : List InspectionLine) (line : GrnLine) : Prop :=
  ∀ result, splitOf line.productId results = some result →
    line.acceptedQuantity = result.acceptedQuantity ∧
      line.rejectedQuantity = result.rejectedQuantity ∧
      result.acceptedQuantity + result.rejectedQuantity = line.receivedQuantity ∧
      0 ≤ result.acceptedQuantity ∧ 0 ≤ result.rejectedQuantity

section Recording

variable {grn grn' : GoodReceiptNote} {result : InspectionLine} {results : List InspectionLine}

/-- A line recorded was found, balanced, and rewritten. -/
theorem inspectLine_returned (h : GoodReceiptNote.inspectLine result grn = (.ok (), grn')) :
    ∃ line, grn.find? result.productId = some line ∧
      result.acceptedQuantity + result.rejectedQuantity = line.receivedQuantity ∧
      0 ≤ result.acceptedQuantity ∧ 0 ≤ result.rejectedQuantity ∧
      grn'.lines = GoodReceiptNote.mapLine result.productId
        (·.withInspection result.acceptedQuantity result.rejectedQuantity) grn.lines := by
  unfold GoodReceiptNote.inspectLine at h
  rw [Method.this_bind] at h
  cases hfind : grn.find? result.productId with
  | none =>
    rw [hfind] at h
    cases h
  | some line =>
    rw [hfind] at h
    obtain ⟨_, hbalance, h⟩ := Method.enforce_bind_ok h
    obtain ⟨hsum, haccepted, hrejected⟩ := grnInspectionBalance_eq_ok.mp hbalance
    cases h
    exact ⟨line, rfl, hsum, haccepted, hrejected, rfl⟩

theorem inspectLine_products (result : InspectionLine) :
    Method.Fixes GoodReceiptNote.products (GoodReceiptNote.inspectLine result) := by
  refine .bind .this fun grn => ?_
  cases grn.find? result.productId with
  | none => exact .enforce _
  | some line =>
    exact .bind (.enforce _) fun _ => .assign fun grn =>
      GoodReceiptNote.products_mapLine fun _ => rfl

theorem Split.of_inspectLine {line line' : GrnLine} (hproducts : grn.products.Nodup)
    (hfind : grn.find? result.productId = some line)
    (hsum : result.acceptedQuantity + result.rejectedQuantity = line.receivedQuantity)
    (haccepted : 0 ≤ result.acceptedQuantity) (hrejected : 0 ≤ result.rejectedQuantity)
    (hsplit : ∀ line ∈ grn.lines, Split results line)
    (hmem : line' ∈ GoodReceiptNote.mapLine result.productId
      (·.withInspection result.acceptedQuantity result.rejectedQuantity) grn.lines) :
    Split (results ++ [result]) line' := by
  intro last hlast
  rw [splitOf_append] at hlast
  rcases GoodReceiptNote.mem_mapLine hmem with ⟨original, horiginal, hproduct, rfl⟩ | ⟨hkept, hne⟩
  · -- the line named last: by distinctness it is the line that was found
    have hsame : original = line := GoodReceiptNote.eq_of_find? hproducts hfind horiginal hproduct
    have hp : result.productId =
        (original.withInspection result.acceptedQuantity result.rejectedQuantity).productId :=
      hproduct.symm
    rw [if_pos hp] at hlast
    cases hlast
    subst hsame
    exact ⟨rfl, rfl, hsum, haccepted, hrejected⟩
  · rw [if_neg (Ne.symm hne)] at hlast
    exact hsplit line' hkept last hlast

/-- After the loop, every line holds the last split the inspection names for its product. -/
theorem split_of_forM (hproducts : grn.products.Nodup)
    (h : results.forM GoodReceiptNote.inspectLine grn = (.ok (), grn')) :
    ∀ line ∈ grn'.lines, Split results line := by
  induction results using List.reverseRecOn generalizing grn' with
  | nil => exact fun _ _ _ hnone => nomatch hnone
  | append_singleton results result ih =>
    obtain ⟨middle, hinit, hlast⟩ := Method.forM_append_ok h
    obtain ⟨line, hfind, hsum, haccepted, hrejected, hlines⟩ := inspectLine_returned (Method.forM_singleton_ok hlast)
    have hmiddle : middle.products.Nodup := by
      rw [(Method.Fixes.forM _ inspectLine_products results).of_returned hinit]
      exact hproducts
    intro line' hline'
    rw [hlines] at hline'
    exact Split.of_inspectLine hmiddle hfind hsum haccepted hrejected (ih hinit) hline'

/-- Every product the inspection names has a line. -/
theorem named_of_forM (h : results.forM GoodReceiptNote.inspectLine grn = (.ok (), grn')) :
    ∀ result ∈ results, result.productId ∈ grn'.products := by
  induction results using List.reverseRecOn generalizing grn' with
  | nil => exact fun _ hresult => absurd hresult List.not_mem_nil
  | append_singleton results result ih =>
    obtain ⟨middle, hinit, hlast⟩ := Method.forM_append_ok h
    have hproducts := (inspectLine_products result).of_returned (Method.forM_singleton_ok hlast)
    intro named hnamed
    rw [hproducts]
    rcases List.mem_append.mp hnamed with hnamed | hnamed
    · exact ih hinit named hnamed
    · obtain ⟨line, hfind, _⟩ := inspectLine_returned (Method.forM_singleton_ok hlast)
      obtain ⟨hmem, hp⟩ := GoodReceiptNote.mem_of_find? hfind
      rw [List.mem_singleton.mp hnamed, ← hp]
      exact List.mem_map_of_mem hmem

theorem recordInspectionResult_returned {now : Nat}
    (h : GoodReceiptNote.recordInspectionResult results now grn = (.ok (), grn')) :
    ∃ middle, results.forM GoodReceiptNote.inspectLine grn = (.ok (), middle) ∧
      grn'.lines = middle.lines := by
  unfold GoodReceiptNote.recordInspectionResult at h
  rw [Method.this_bind] at h
  obtain ⟨_, _, h⟩ := Method.enforce_bind_ok h
  obtain ⟨_, middle, hmiddle, hassign⟩ := Method.bind_ok h
  cases hassign
  exact ⟨middle, hmiddle, rfl⟩

end Recording

section Posting

variable {grn : GoodReceiptNote} {productId : String}

/-- How much of a product the lines of a note accept. -/
def GoodReceiptNote.accepted (productId : String) (grn : GoodReceiptNote) : List ℚ :=
  (grn.lines.filter fun line => line.productId = productId).map (·.acceptedQuantity)

/-- Of a product, the note registers on its order, announces and gives back what it accepted. -/
structure PostsAccepted (productId : String) (grn : GoodReceiptNote) : Prop where
  registered : (grn.receiptLines.filter fun line => line.productId = productId).map
    (·.receivedQuantity) = grn.accepted productId
  announced : (grn.postedLines.filter fun line => line.productId = productId).map
    (·.acceptedQuantity) = grn.accepted productId
  returned : (grn.reversalLines.filter fun line => line.productId = productId).map
    (fun line => -line.receivedQuantity) = grn.accepted productId
  balance : ∀ po po' tolerance actorId now,
    PurchaseOrderFactory.openPoForReceipt grn.receiptLines tolerance actorId now po =
      (.ok (), po') →
    received productId po'.balances = received productId po.balances + (grn.accepted productId).sum

/-- What the lines of a product are mapped to, of lists derived from the lines. -/
theorem filter_map_lines {α : Type} (f : GrnLine → α) (product : α → String) (quantity : α → ℚ)
    (hproduct : ∀ line, product (f line) = line.productId) (lines : List GrnLine) :
    ((lines.map f).filter fun a => product a = productId).map quantity =
      (lines.filter fun line => line.productId = productId).map fun line => quantity (f line) := by
  rw [List.filter_map, List.map_map]
  congr 1
  refine List.filter_congr fun line _ => ?_
  simp [hproduct]

/-- All of it follows from the one conditional, line by line. -/
theorem postsAccepted_iff :
    PostsAccepted productId grn ↔
      ∀ line ∈ grn.lines, line.productId = productId →
        line.postedQuantity = line.acceptedQuantity := by
  have hregistered : (grn.receiptLines.filter fun line => line.productId = productId).map
      (·.receivedQuantity) =
        (grn.lines.filter fun line => line.productId = productId).map (·.postedQuantity) :=
    filter_map_lines (fun l => (⟨l.productId, l.postedQuantity⟩ : ReceiptLine)) _ _
      (fun _ => rfl) grn.lines
  have hposted : (∀ line ∈ grn.lines, line.productId = productId →
      line.postedQuantity = line.acceptedQuantity) ↔
      (grn.lines.filter fun line => line.productId = productId).map (·.postedQuantity) =
        grn.accepted productId := by
    unfold GoodReceiptNote.accepted
    rw [List.map_inj_left]
    simp only [List.mem_filter, decide_eq_true_eq, and_imp]
  rw [hposted]
  refine ⟨fun h => hregistered.symm.trans h.registered, fun h => ⟨hregistered.trans h, ?_, ?_, ?_⟩⟩
  · unfold GoodReceiptNote.postedLines
    rw [filter_map_lines _ PostedLine.productId _ fun _ => rfl]
    exact h
  · unfold GoodReceiptNote.reversalLines
    rw [filter_map_lines _ ReversalLineInput.productId _ fun _ => rfl, ← h]
    exact List.map_congr_left fun line _ => neg_neg _
  · intro po po' tolerance actorId now hopened
    rw [(openPoForReceipt_returned hopened).2.received, total, hregistered, h]

end Posting

/-- Every product the inspection names is accepted in part, or none of it was rejected. -/
def AcceptsSome (results : List InspectionLine) : Prop :=
  ∀ result ∈ results, ∀ split, splitOf result.productId results = some split →
    0 < split.acceptedQuantity ∨ split.rejectedQuantity = 0

section Rejected

variable {grn inspected : GoodReceiptNote} {results : List InspectionLine} {now : Nat}
variable {tenantId : Option String} {companyId : String} {version : Nat} {row : GrnRow}

/-- The products of a note that was stored are distinct. -/
theorem products_nodup_of_stored
    (hstored : PrismaGrnMapper.toRow grn tenantId companyId version = some row) :
    grn.products.Nodup := by
  have hlines := congrArg GoodReceiptNote.products (PrismaGrnMapper.toRow_eq_some hstored).1
  have hrow : (PrismaGrnMapper.toDomain row).products = row.lines.map (·.productId) := by
    unfold GoodReceiptNote.products PrismaGrnMapper.toDomain
    rw [List.map_map]
    rfl
  have hkept : (grn.lines.map GrnLine.stored).map (·.productId) = grn.products := by
    unfold GoodReceiptNote.products
    rw [List.map_map]
    rfl
  have hdistinct := row.distinct
  rw [← hrow, hlines] at hdistinct
  rw [← hkept]
  exact hdistinct

/-- A line inspected posts what it accepted, unless all of it was rejected. -/
theorem posts_accepted_iff {line : GrnLine} {split : InspectionLine}
    (hsplit : Split results line) (hlast : splitOf line.productId results = some split) :
    line.postedQuantity = line.acceptedQuantity ↔
      0 < split.acceptedQuantity ∨ split.rejectedQuantity = 0 := by
  obtain ⟨haccepted, _, hsum, hnonneg, _⟩ := hsplit split hlast
  unfold GrnLine.postedQuantity
  rw [haccepted]
  by_cases hpos : 0 < split.acceptedQuantity
  · simp [hpos]
  · have hzero : split.acceptedQuantity = 0 := le_antisymm (not_lt.mp hpos) hnonneg
    rw [if_neg hpos, ← hsum, hzero, zero_add]
    simp

/-- A note inspected, stored and read back posts, announces and gives back what was accepted of
every product inspected, exactly where no such product was rejected entirely. -/
theorem rejected_goods_never_count
    (hinspect : GoodReceiptNote.recordInspectionResult results now grn = (.ok (), inspected))
    (hstored : PrismaGrnMapper.toRow inspected tenantId companyId version = some row) :
    (∀ result ∈ results, PostsAccepted result.productId (PrismaGrnMapper.toDomain row)) ↔
      AcceptsSome results := by
  obtain ⟨middle, hloop, hlines⟩ := recordInspectionResult_returned hinspect
  have hproducts : inspected.products = middle.products := by
    unfold GoodReceiptNote.products
    rw [hlines]
  have hnodup : grn.products.Nodup := by
    rw [← (Method.Fixes.forM _ inspectLine_products results).of_returned hloop, ← hproducts]
    exact products_nodup_of_stored hstored
  have hsplit := split_of_forM hnodup hloop
  have hread : (PrismaGrnMapper.toDomain row).lines = inspected.lines.map GrnLine.stored :=
    congrArg GoodReceiptNote.lines (PrismaGrnMapper.toRow_eq_some hstored).1
  have hposts : ∀ productId, PostsAccepted productId (PrismaGrnMapper.toDomain row) ↔
      ∀ line ∈ middle.lines, line.productId = productId →
        line.postedQuantity = line.acceptedQuantity := by
    intro productId
    rw [postsAccepted_iff, hread, hlines]
    simp only [List.mem_map, forall_exists_index, and_imp, forall_apply_eq_imp_iff₂]
    exact Iff.rfl
  constructor
  · intro hall result hresult split hlast
    obtain ⟨line, hmem, hp⟩ := List.mem_map.mp (named_of_forM hloop result hresult)
    rw [← hp] at hlast
    refine (posts_accepted_iff (hsplit line hmem) hlast).mp ?_
    exact (hposts result.productId).mp (hall result hresult) line hmem hp
  · intro haccepts result hresult
    refine (hposts result.productId).mpr fun line hmem hp => ?_
    cases hlast : splitOf line.productId results with
    | none =>
      unfold splitOf at hlast
      have hnone := List.find?_eq_none.mp hlast result (List.mem_reverse.mpr hresult)
      simp [hp] at hnone
    | some split =>
      refine (posts_accepted_iff (hsplit line hmem) hlast).mpr ?_
      exact haccepts result hresult split (by rw [← hp]; exact hlast)

open Scenario

/-- Five bolts received and all rejected: posting registers and announces five. -/
theorem rejected_goods_registered :
    ∃ (Q : DemoPool) (trace : List (Label (procurementSystem allowing))),
      Run (fun _ _ => True) (poolOf (orderFor 10 0) [noteOf "grn" .received 5 5 0]) trace Q ∧
        (Q.store.grns.get? "grn").map (fun row => (row.status, row.lines.map fun line =>
          (line.acceptedQuantity, line.rejectedQuantity))) = some (.completed, [(0, 5)]) ∧
        receivedOf Q = some 5 ∧
        Q.store.outbox.map Envelope.event = [.grn (.grnCompleted "grn"),
          .grn (.goodsReceiptPosted "grn" "po" [⟨"grn:bolt", "bolt", 5, 2⟩])] := by
  have hplay : (((poolOf (orderFor 10 0) [noteOf "grn" .received 5 5 0]).play (fun _ _ => True)
      (inspect "grn" [⟨"bolt", 0, 5⟩] :: serve 0 2 ++ post "grn" 0 :: serve 1 3)).map fun Q =>
      decide ((Q.store.grns.get? "grn").map (fun row => (row.status, row.lines.map fun line =>
          (line.acceptedQuantity, line.rejectedQuantity))) = some (.completed, [(0, 5)]) ∧
        receivedOf Q = some 5 ∧
        Q.store.outbox.map Envelope.event = [.grn (.grnCompleted "grn"),
          .grn (.goodsReceiptPosted "grn" "po" [⟨"grn:bolt", "bolt", 5, 2⟩])])) = some true := by
    decide +kernel
  exact Pool.play_reach hplay

/-- Three of five accepted: three are posted. -/
theorem rejected_goods_never_count_some : ∃ inspected row,
    GoodReceiptNote.recordInspectionResult [⟨"bolt", 3, 2⟩] 0
      (PrismaGrnMapper.toDomain (noteOf "grn" .received 5 5 0)) = (.ok (), inspected) ∧
    PrismaGrnMapper.toRow inspected none "" 2 = some row ∧
    PostsAccepted "bolt" (PrismaGrnMapper.toDomain row) := by
  obtain ⟨inspected, hinspect⟩ : ∃ inspected,
      GoodReceiptNote.recordInspectionResult [⟨"bolt", 3, 2⟩] 0
        (PrismaGrnMapper.toDomain (noteOf "grn" .received 5 5 0)) = (.ok (), inspected) :=
    ⟨_, Prod.ext (by decide +kernel) rfl⟩
  have hinspected : (GoodReceiptNote.recordInspectionResult [⟨"bolt", 3, 2⟩] 0
      (PrismaGrnMapper.toDomain (noteOf "grn" .received 5 5 0))).2 = inspected :=
    congrArg Prod.snd hinspect
  obtain ⟨row, hrow⟩ : ∃ row, PrismaGrnMapper.toRow inspected none "" 2 = some row := by
    refine Option.isSome_iff_exists.mp ?_
    rw [← hinspected]
    decide +kernel
  have haccepts : AcceptsSome [⟨"bolt", 3, 2⟩] := by
    intro result hresult split hsplit
    rw [List.mem_singleton.mp hresult] at hsplit
    cases hsplit
    exact .inl (by decide)
  exact ⟨inspected, row, hinspect, hrow,
    (rejected_goods_never_count hinspect hrow).mpr haccepts ⟨"bolt", 3, 2⟩ List.mem_cons_self⟩

end Rejected

end DddBoilerplate.Procurement
