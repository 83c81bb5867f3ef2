/- module: DddBoilerplate/Procurement/Balances
   generality: I
   digest: Receiving balances of an order, what a receipt does to them, and that the order's methods do that. -/

import Mathlib.Algebra.BigOperators.Group.List.Basic
import DddBoilerplate.Procurement.Records

set_option autoImplicit false
set_option relaxedAutoImplicit false
set_option linter.all false

namespace DddBoilerplate.Procurement

open Domain

/-- What receiving knows of an order line: how much was ordered and how much has come. -/
structure Balance where
  productId : String
  quantity : ℚ
  receivedQuantity : ℚ
  deriving DecidableEq

def PurchaseOrderLine.balance (line : PurchaseOrderLine) : Balance :=
  ⟨line.productId, line.quantity, line.receivedQuantity⟩

def PurchaseOrder.balances (po : PurchaseOrder) : List Balance :=
  po.lines.map PurchaseOrderLine.balance

def PurchaseOrderLineRow.balance (line : PurchaseOrderLineRow) : Balance :=
  ⟨line.productId, line.quantity, line.receivedQuantity⟩

def PurchaseOrderRow.balances (row : PurchaseOrderRow) : List Balance :=
  row.lines.map PurchaseOrderLineRow.balance

/-- The account of a product: its first balance. -/
def account (productId : String) (bs : List Balance) : Option Balance :=
  bs.find? fun b => b.productId = productId

/-- How much of a product has come; nothing, where the order has no line for it. -/
def received (productId : String) (bs : List Balance) : ℚ :=
  ((account productId bs).map (·.receivedQuantity)).getD 0

/-- Adds to the account of a product. -/
def addTo (productId : String) (delta : ℚ) : List Balance → List Balance
  | [] => []
  | b :: bs =>
    if b.productId = productId then { b with receivedQuantity := b.receivedQuantity + delta } :: bs
    else b :: addTo productId delta bs

/-- The receiving limit of a balance. -/
def Balance.Within (tolerance : ℚ) (b : Balance) : Prop :=
  b.receivedQuantity ≤ b.quantity * (1 + tolerance)

instance (tolerance : ℚ) (b : Balance) : Decidable (b.Within tolerance) := by
  unfold Balance.Within
  infer_instance

/-- A whole number of units that fits under the limit of the product's account. -/
def Fits (tolerance : ℚ) (bs : List Balance) (line : ReceiptLine) : Prop :=
  line.receivedQuantity.den = 1 ∧ ∃ b, account line.productId bs = some b ∧
    b.receivedQuantity + line.receivedQuantity ≤ b.quantity * (1 + tolerance)

/-- A receipt, line after line: each has to fit what the lines before it left. -/
inductive Registers (tolerance : ℚ) : List ReceiptLine → List Balance → List Balance → Prop where
  | nil (bs : List Balance) : Registers tolerance [] bs bs
  | cons {line : ReceiptLine} {lines : List ReceiptLine} {bs bs' : List Balance}
      (fits : Fits tolerance bs line)
      (rest : Registers tolerance lines (addTo line.productId line.receivedQuantity bs) bs') :
      Registers tolerance (line :: lines) bs bs'

/-- What a receipt brings of one product, over all of its lines. -/
def total (productId : String) (lines : List ReceiptLine) : ℚ :=
  ((lines.filter fun l => l.productId = productId).map (·.receivedQuantity)).sum

section Accounts

attribute [local simp] addTo

variable {productId other : String} {delta tolerance : ℚ} {bs bs' : List Balance}
  {line : ReceiptLine} {lines : List ReceiptLine}

theorem account_addTo_self :
    account productId (addTo productId delta bs) =
      (account productId bs).map fun b => { b with receivedQuantity := b.receivedQuantity + delta } := by
  induction bs with
  | nil => rfl
  | cons b bs ih =>
    unfold account at ih ⊢
    unfold addTo
    by_cases hp : b.productId = productId
    · simp [hp]
    · simpa [hp] using ih

theorem account_addTo_ne (hne : other ≠ productId) :
    account other (addTo productId delta bs) = account other bs := by
  induction bs with
  | nil => rfl
  | cons b bs ih =>
    unfold addTo account
    by_cases hp : b.productId = productId
    · have hother : b.productId ≠ other := fun h => hne (h.symm.trans hp)
      simp [hp, hne.symm]
    · simp only [hp, if_false, List.find?_cons]
      split
      · rfl
      · exact ih

/-- Only the account of the product grows. -/
theorem received_addTo (haccount : (account productId bs).isSome = true) :
    received other (addTo productId delta bs) =
      received other bs + if other = productId then delta else 0 := by
  unfold received
  by_cases hne : other = productId
  · subst hne
    obtain ⟨b, hb⟩ := Option.isSome_iff_exists.mp haccount
    simp [account_addTo_self, hb]
  · rw [account_addTo_ne hne, if_neg hne, add_zero]

theorem products_addTo :
    (addTo productId delta bs).map (·.productId) = bs.map (·.productId) := by
  induction bs with
  | nil => rfl
  | cons b bs ih =>
    unfold addTo
    split
    · rfl
    · simpa using ih

/-- Every balance is as it was, or is the account of the product with the addition. -/
theorem mem_addTo {b : Balance} (h : b ∈ addTo productId delta bs) :
    b ∈ bs ∨ ∃ old, account productId bs = some old ∧
      b = { old with receivedQuantity := old.receivedQuantity + delta } := by
  induction bs with
  | nil => cases h
  | cons head bs ih =>
    unfold addTo at h
    by_cases hp : head.productId = productId
    · rw [if_pos hp] at h
      rcases List.mem_cons.mp h with rfl | hmem
      · exact .inr ⟨head, by simp [account, hp], rfl⟩
      · exact .inl (List.mem_cons_of_mem _ hmem)
    · rw [if_neg hp] at h
      rcases List.mem_cons.mp h with rfl | hmem
      · exact .inl List.mem_cons_self
      · rcases ih hmem with hmem | ⟨old, hold, heq⟩
        · exact .inl (List.mem_cons_of_mem _ hmem)
        · refine .inr ⟨old, ?_, heq⟩
          unfold account
          rw [List.find?_cons_of_neg (by simpa using hp)]
          exact hold

theorem total_cons :
    total other (line :: lines) =
      (if other = line.productId then line.receivedQuantity else 0) + total other lines := by
  unfold total
  by_cases hp : line.productId = other
  · simp [hp]
  · simp [hp, Ne.symm hp]

theorem total_eq_zero (h : other ∉ lines.map (·.productId)) : total other lines = 0 := by
  induction lines with
  | nil => simp [total]
  | cons line lines ih =>
    rw [List.map_cons, List.mem_cons, not_or] at h
    rw [total_cons, if_neg h.1, zero_add]
    exact ih h.2

/-- A receipt adds to each product what it brings of it. -/
theorem Registers.received (h : Registers tolerance lines bs bs') :
    Procurement.received other bs' = Procurement.received other bs + total other lines := by
  induction h with
  | nil bs => simp [total]
  | cons fits _ ih =>
    obtain ⟨_, b, hb, _⟩ := fits
    rw [ih, received_addTo (by rw [hb]; rfl), total_cons, add_assoc]

theorem Registers.products (h : Registers tolerance lines bs bs') :
    bs'.map (·.productId) = bs.map (·.productId) := by
  induction h with
  | nil bs => rfl
  | cons _ _ ih => exact ih.trans products_addTo

/-- A receipt never takes a balance beyond its limit. -/
theorem Registers.within (h : Registers tolerance lines bs bs')
    (hwithin : ∀ b ∈ bs, b.Within tolerance) : ∀ b ∈ bs', b.Within tolerance := by
  induction h with
  | nil bs => exact hwithin
  | cons fits _ ih =>
    refine ih fun b hb => ?_
    rcases mem_addTo hb with hmem | ⟨old, hold, rfl⟩
    · exact hwithin b hmem
    · obtain ⟨_, b', hb', hlimit⟩ := fits
      rw [hold] at hb'
      cases hb'
      exact hlimit

end Accounts

section Receipts

variable {tolerance : ℚ} {lines : List ReceiptLine} {bs bs' : List Balance}

theorem received_of_mem {bs : List Balance} {b : Balance}
    (hdistinct : (bs.map (·.productId)).Nodup) (hmem : b ∈ bs) :
    account b.productId bs = some b ∧ received b.productId bs = b.receivedQuantity := by
  have haccount : account b.productId bs = some b := by
    cases hfound : account b.productId bs with
    | none =>
      have hnone := List.find?_eq_none.mp hfound b hmem
      simp at hnone
    | some found =>
      have hproduct : found.productId = b.productId := by simpa using List.find?_some hfound
      rw [List.inj_on_of_nodup_map hdistinct (List.mem_of_find?_eq_some hfound) hmem hproduct]
  refine ⟨haccount, ?_⟩
  unfold received
  rw [haccount]
  rfl

theorem received_of_not_mem {bs : List Balance} {productId : String}
    (h : productId ∉ bs.map (·.productId)) : received productId bs = 0 := by
  have hnone : account productId bs = none := by
    refine List.find?_eq_none.mpr fun b hb hp => ?_
    exact h (List.mem_map.mpr ⟨b, hb, of_decide_eq_true hp⟩)
  unfold received
  rw [hnone]
  rfl

theorem total_neg (productId : String) (lines : List ReceiptLine) :
    total productId (lines.map fun l => ⟨l.productId, -l.receivedQuantity⟩) =
      -total productId lines := by
  induction lines with
  | nil => simp [total]
  | cons line lines ih =>
    rw [List.map_cons, total_cons, total_cons, ih]
    by_cases hp : productId = line.productId <;> simp [hp, add_comm]

/-- Of a product with one line, the total is the line. -/
theorem total_of_mem {lines : List ReceiptLine} {line : ReceiptLine}
    (hdistinct : (lines.map (·.productId)).Nodup) (hline : line ∈ lines) :
    total line.productId lines = line.receivedQuantity := by
  induction lines with
  | nil => cases hline
  | cons head lines ih =>
    obtain ⟨hnew, hrest⟩ := List.nodup_cons.mp hdistinct
    rw [total_cons]
    rcases List.mem_cons.mp hline with rfl | hline
    · rw [if_pos rfl, total_eq_zero hnew, add_zero]
    · have hne : line.productId ≠ head.productId :=
        fun heq => hnew (List.mem_map.mpr ⟨line, hline, heq⟩)
      rw [if_neg hne, zero_add]
      exact ih hrest hline

/-- Lines of different products are registered exactly where each of them fits. -/
theorem registers_iff (hdistinct : (lines.map (·.productId)).Nodup) :
    (∃ bs', Registers tolerance lines bs bs') ↔ ∀ line ∈ lines, Fits tolerance bs line := by
  induction lines generalizing bs with
  | nil => exact ⟨fun _ line hline => absurd hline List.not_mem_nil, fun _ => ⟨bs, .nil bs⟩⟩
  | cons line lines ih =>
    obtain ⟨hnew, hrest⟩ := List.nodup_cons.mp hdistinct
    have hsame : ∀ other ∈ lines,
        Fits tolerance (addTo line.productId line.receivedQuantity bs) other ↔
          Fits tolerance bs other := by
      intro other hother
      have hne : other.productId ≠ line.productId :=
        fun heq => hnew (List.mem_map.mpr ⟨other, hother, heq⟩)
      unfold Fits
      rw [account_addTo_ne hne]
    constructor
    · rintro ⟨bs', hregisters⟩
      cases hregisters with
      | cons fits rest =>
        have hfits := (ih hrest).mp ⟨bs', rest⟩
        intro other hother
        rcases List.mem_cons.mp hother with rfl | hother
        · exact fits
        · exact (hsame other hother).mp (hfits other hother)
    · intro hfits
      obtain ⟨bs', hregisters⟩ := (ih hrest).mpr fun other hother =>
        (hsame other hother).mpr (hfits other (List.mem_cons_of_mem line hother))
      exact ⟨bs', .cons (hfits line List.mem_cons_self) hregisters⟩

theorem addTo_eq_map {productId : String} {delta : ℚ} (hdistinct : (bs.map (·.productId)).Nodup) :
    addTo productId delta bs = bs.map fun b =>
      { b with receivedQuantity := b.receivedQuantity + if b.productId = productId then delta else 0 } := by
  induction bs with
  | nil => rfl
  | cons b bs ih =>
    obtain ⟨hnew, hrest⟩ := List.nodup_cons.mp hdistinct
    unfold addTo
    by_cases hp : b.productId = productId
    · have hkept : (bs.map fun b =>
          { b with receivedQuantity := b.receivedQuantity + if b.productId = productId then delta else 0 }) =
            bs := by
        refine (List.map_congr_left fun other hother => ?_).trans (List.map_id bs)
        have hne : other.productId ≠ productId := fun heq =>
          hnew (List.mem_map.mpr ⟨other, hother, heq.trans hp.symm⟩)
        rw [if_neg hne, add_zero]
        rfl
      rw [if_pos hp, List.map_cons, hkept, if_pos hp]
    · rw [if_neg hp, List.map_cons, if_neg hp, add_zero, ih hrest]

/-- Every line registered is of a product of the order. -/
theorem Registers.lines_mem (h : Registers tolerance lines bs bs') :
    ∀ line ∈ lines, line.productId ∈ bs.map (·.productId) := by
  induction h with
  | nil bs => exact fun line hline => absurd hline List.not_mem_nil
  | @cons head lines bs bs' fits rest ih =>
    intro line hline
    rcases List.mem_cons.mp hline with rfl | hline
    · obtain ⟨_, b, hb, _⟩ := fits
      have hp : b.productId = line.productId := by simpa using List.find?_some hb
      exact List.mem_map.mpr ⟨b, List.mem_of_find?_eq_some hb, hp⟩
    · rw [← @products_addTo head.productId head.receivedQuantity]
      exact ih line hline

theorem received_nonneg (productId : String) (h : ∀ b ∈ bs, 0 ≤ b.receivedQuantity) :
    0 ≤ received productId bs := by
  unfold received
  cases hb : account productId bs with
  | none => exact le_refl 0
  | some b => exact h b (List.mem_of_find?_eq_some hb)

/-- What a receipt leaves: on every line, what it brings of the line's product is added. -/
theorem Registers.eq_map (h : Registers tolerance lines bs bs')
    (hdistinct : (bs.map (·.productId)).Nodup) :
    bs' = bs.map fun b =>
      { b with receivedQuantity := b.receivedQuantity + total b.productId lines } := by
  induction h with
  | nil bs => simp [total]
  | @cons line lines bs bs' fits rest ih =>
    rw [ih (by rw [products_addTo]; exact hdistinct), addTo_eq_map hdistinct, List.map_map]
    refine List.map_congr_left fun b _ => ?_
    simp only [Function.comp_apply, total_cons, add_assoc]

theorem PurchaseOrderRow.distinct_balances (row : PurchaseOrderRow) :
    (row.balances.map (·.productId)).Nodup := by
  unfold PurchaseOrderRow.balances
  rw [List.map_map]
  exact row.distinct

end Receipts

section Methods

variable {po po' : PurchaseOrder} {tolerance : ℚ}

theorem balances_mapFirst (productId : String) (line : PurchaseOrderLine) (delta : ℚ)
    (lines : List PurchaseOrderLine)
    (hfind : lines.find? (fun l => l.productId = productId) = some line) :
    (PurchaseOrder.mapFirst productId
      (fun _ => { line with receivedQuantity := line.receivedQuantity + delta }) lines).map
        PurchaseOrderLine.balance =
      addTo productId delta (lines.map PurchaseOrderLine.balance) := by
  induction lines with
  | nil => cases hfind
  | cons head lines ih =>
    by_cases hp : head.productId = productId
    · rw [List.find?_cons_of_pos (by simpa using hp)] at hfind
      cases hfind
      simp [PurchaseOrder.mapFirst, addTo, PurchaseOrderLine.balance, hp]
    · rw [List.find?_cons_of_neg (by simpa using hp)] at hfind
      simp only [PurchaseOrder.mapFirst, List.map_cons, addTo, hp, if_false,
        PurchaseOrderLine.balance]
      exact congrArg _ (ih hfind)

theorem account_balances (productId : String) :
    account productId po.balances = (po.find? productId).map PurchaseOrderLine.balance := by
  unfold account PurchaseOrder.balances PurchaseOrder.find?
  rw [List.find?_map]
  rfl

/-- A line that was registered fitted, and was added to the account of its product. -/
theorem registerLine_returned {line : ReceiptLine}
    (h : PurchaseOrderFactory.registerLine tolerance line po = (.ok (), po')) :
    Fits tolerance po.balances line ∧
      po'.balances = addTo line.productId line.receivedQuantity po.balances := by
  unfold PurchaseOrderFactory.registerLine at h
  rw [Method.this_bind] at h
  cases hfind : po.find? line.productId with
  | none =>
    rw [hfind] at h
    cases h
  | some poLine =>
    rw [hfind] at h
    obtain ⟨_, hlimit, h⟩ := Method.enforce_bind_ok h
    obtain ⟨received, hreceive, h⟩ := Method.enforce_bind_ok h
    have hfits := require_eq_ok.mp hlimit
    unfold PurchaseOrderLine.receive at hreceive
    by_cases hden : line.receivedQuantity.den = 1
    · rw [require, if_pos hden] at hreceive
      cases hreceive
      cases h
      refine ⟨⟨hden, poLine.balance, ?_, hfits⟩, ?_⟩
      · rw [account_balances, hfind]
        rfl
      · exact balances_mapFirst _ _ _ _ hfind
    · rw [require, if_neg hden] at hreceive
      cases hreceive

/-- A line that fits is registered. -/
theorem registerLine_returns {line : ReceiptLine} (h : Fits tolerance po.balances line) :
    ∃ po', PurchaseOrderFactory.registerLine tolerance line po = (.ok (), po') := by
  obtain ⟨hden, b, hb, hlimit⟩ := h
  rw [account_balances] at hb
  obtain ⟨poLine, hfind, rfl⟩ := Option.map_eq_some_iff.mp hb
  unfold PurchaseOrderFactory.registerLine
  rw [Method.this_bind, hfind]
  have hcheck : purchaseOrderOverReceipt poLine.quantity poLine.receivedQuantity
      line.receivedQuantity tolerance = .ok () := require_eq_ok.mpr hlimit
  have hreceive : poLine.receive line.receivedQuantity =
      .ok { poLine with receivedQuantity := poLine.receivedQuantity + line.receivedQuantity } := by
    unfold PurchaseOrderLine.receive
    rw [require, if_pos hden]
    rfl
  simp only [hcheck, hreceive, Method.enforce_ok_bind]
  exact ⟨_, rfl⟩

theorem registerLines_returned {lines : List ReceiptLine}
    (h : lines.forM (PurchaseOrderFactory.registerLine tolerance) po = (.ok (), po')) :
    Registers tolerance lines po.balances po'.balances := by
  induction lines generalizing po with
  | nil =>
    cases h
    exact .nil _
  | cons line lines ih =>
    obtain ⟨middle, hline, hrest⟩ := Method.forM_cons_ok h
    obtain ⟨hfits, hbalances⟩ := registerLine_returned hline
    refine .cons hfits ?_
    rw [← hbalances]
    exact ih hrest

theorem registerLines_returns {lines : List ReceiptLine} {bs : List Balance}
    (h : Registers tolerance lines po.balances bs) :
    ∃ po', lines.forM (PurchaseOrderFactory.registerLine tolerance) po = (.ok (), po') := by
  induction lines generalizing po with
  | nil => exact ⟨po, rfl⟩
  | cons line lines ih =>
    cases h with
    | cons hfits hrest =>
      obtain ⟨middle, hline⟩ := registerLine_returns hfits
      rw [← (registerLine_returned hline).2] at hrest
      obtain ⟨po', hpo'⟩ := ih hrest
      exact ⟨po', Method.forM_cons_of_ok hline hpo'⟩

/-- The statuses in which an order takes receipts. -/
def PurchaseOrderStatus.Eligible (status : PurchaseOrderStatus) : Prop :=
  status = .issued ∨ status = .approved

instance (status : PurchaseOrderStatus) : Decidable status.Eligible := by
  unfold PurchaseOrderStatus.Eligible
  infer_instance

/-- Opening an order for a receipt that returned is registering the receipt on its balances. -/
theorem openPoForReceipt_returned {lines : List ReceiptLine} {actorId : Option String} {now : Nat}
    (h : PurchaseOrderFactory.openPoForReceipt lines tolerance actorId now po = (.ok (), po')) :
    po.status.Eligible ∧ Registers tolerance lines po.balances po'.balances := by
  unfold PurchaseOrderFactory.openPoForReceipt at h
  rw [Method.this_bind] at h
  obtain ⟨_, heligible, h⟩ := Method.enforce_bind_ok h
  refine ⟨require_eq_ok.mp heligible, ?_⟩
  obtain ⟨_, middle, hmiddle, hrecord⟩ := Method.bind_ok h
  have hregisters := registerLines_returned hmiddle
  cases hrecord
  exact hregisters

theorem openPoForReceipt_returns {lines : List ReceiptLine} {actorId : Option String} {now : Nat}
    {bs : List Balance} (heligible : po.status.Eligible)
    (h : Registers tolerance lines po.balances bs) :
    ∃ po', PurchaseOrderFactory.openPoForReceipt lines tolerance actorId now po = (.ok (), po') := by
  obtain ⟨middle, hmiddle⟩ := registerLines_returns h
  have hcheck : require (po.status = .issued ∨ po.status = .approved)
      (Failure.mk 422 "Purchase order is not receiving-eligible") = .ok () :=
    require_eq_ok.mpr heligible
  unfold PurchaseOrderFactory.openPoForReceipt
  rw [Method.this_bind, hcheck, Method.enforce_ok_bind]
  refine ⟨(PurchaseOrder.recordReceipt actorId now middle).2, ?_⟩
  show Method.bind _ _ po = _
  unfold Method.bind
  rw [hmiddle]
  rfl

end Methods

end DddBoilerplate.Procurement
