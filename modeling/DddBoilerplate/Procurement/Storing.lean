/- module: DddBoilerplate/Procurement/Storing
   generality: I
   digest: Which orders and notes the columns and the indexes take, and that receiving keeps orders so. -/

import DddBoilerplate.Procurement.Documents

set_option autoImplicit false
set_option relaxedAutoImplicit false
set_option linter.all false

namespace DddBoilerplate.Procurement

open Domain

/-- A loop goes through where it goes through on every element. -/
theorem mapM_isSome {α β : Type} {f : α → Option β} {as : List α}
    (h : ∀ a ∈ as, (f a).isSome = true) : ∃ bs, as.mapM f = some bs := by
  induction as with
  | nil => exact ⟨[], List.mapM_nil⟩
  | cons a as ih =>
    obtain ⟨b, hb⟩ := Option.isSome_iff_exists.mp (h a List.mem_cons_self)
    obtain ⟨bs, hbs⟩ := ih fun a' ha' => h a' (List.mem_cons_of_mem a ha')
    refine ⟨b :: bs, ?_⟩
    rw [List.mapM_cons, hb, hbs]
    rfl

theorem integer?_isSome {q : ℚ} (h : q.den = 1) : (integer? q).isSome = true := by
  unfold integer?
  rw [if_pos h]
  rfl

section Orders

/-- Whole quantities, one currency, and one line for each product. -/
structure PurchaseOrder.Storable (po : PurchaseOrder) : Prop where
  currency : ∀ line ∈ po.lines, line.total.currency = po.currency
  whole : ∀ line ∈ po.lines, line.quantity.den = 1 ∧ line.receivedQuantity.den = 1
  distinct : (po.lines.map (·.productId)).Nodup

theorem subtotal_of_currency {lines : List PurchaseOrderLine} {acc : Money}
    (h : ∀ line ∈ lines, line.total.currency = acc.currency) :
    ∃ total, lines.foldlM (fun acc line => acc.add line.total) acc = .ok total := by
  induction lines generalizing acc with
  | nil => exact ⟨acc, rfl⟩
  | cons line lines ih =>
    have hsame : acc.currency = line.total.currency := (h line List.mem_cons_self).symm
    have hadd : acc.add line.total =
        .ok ⟨acc.minorUnits + line.total.minorUnits, acc.currency⟩ := by
      unfold Money.add
      rw [require, if_pos hsame]
      rfl
    rw [List.foldlM_cons, hadd]
    exact ih fun line' hline' => h line' (List.mem_cons_of_mem line hline')

namespace PrismaPurchaseOrderMapper

theorem toLineRow_isSome {line : PurchaseOrderLine}
    (h : line.quantity.den = 1 ∧ line.receivedQuantity.den = 1) :
    (toLineRow line).isSome = true := by
  obtain ⟨quantity, hquantity⟩ := Option.isSome_iff_exists.mp (integer?_isSome h.1)
  obtain ⟨received, hreceived⟩ := Option.isSome_iff_exists.mp (integer?_isSome h.2)
  unfold toLineRow
  rw [hquantity, hreceived]
  rfl

theorem productId_toLineRow {line : PurchaseOrderLine} {row : PurchaseOrderLineRow}
    (h : toLineRow line = some row) : row.productId = line.productId :=
  congrArg Balance.productId (balance_toLineRow h)

theorem toRow_of_storable {po : PurchaseOrder} (h : po.Storable) (tenantId : Option String)
    (companyId : String) (version : Nat) : ∃ row, toRow po tenantId companyId version = .ok row := by
  obtain ⟨total, htotal⟩ : ∃ total, po.subtotal = .ok total := subtotal_of_currency h.currency
  obtain ⟨rows, hrows⟩ := mapM_isSome fun line hline => toLineRow_isSome (h.whole line hline)
  have hdistinct : (rows.map (·.productId)).Nodup := by
    rw [map_of_mapM (fun _ _ => productId_toLineRow) hrows]
    exact h.distinct
  have htotal' : po.total = .ok total := htotal
  unfold toRow
  rw [htotal, htotal', hrows]
  simp only [bind, Except.bind, hdistinct, dif_pos]
  exact ⟨_, rfl⟩

theorem storable_toDomain (row : PurchaseOrderRow) : (toDomain row).Storable := by
  refine ⟨fun line hline => ?_, fun line hline => ?_, ?_⟩
  · obtain ⟨lineRow, _, rfl⟩ := List.mem_map.mp hline
    rfl
  · obtain ⟨lineRow, _, rfl⟩ := List.mem_map.mp hline
    exact ⟨Rat.den_intCast _, Rat.den_intCast _⟩
  · show ((row.lines.map (toLine row.currency)).map PurchaseOrderLine.productId).Nodup
    rw [List.map_map]
    exact row.distinct

end PrismaPurchaseOrderMapper

namespace PurchaseOrder

variable {productId : String} {f : PurchaseOrderLine → PurchaseOrderLine}
variable {lines : List PurchaseOrderLine}

theorem mem_mapFirst {line' : PurchaseOrderLine} (h : line' ∈ mapFirst productId f lines) :
    (∃ line ∈ lines, line.productId = productId ∧ line' = f line) ∨ line' ∈ lines := by
  induction lines with
  | nil => cases h
  | cons head lines ih =>
    unfold mapFirst at h
    split at h
    · rename_i hp
      rcases List.mem_cons.mp h with rfl | hmem
      · exact .inl ⟨head, List.mem_cons_self, hp, rfl⟩
      · exact .inr (List.mem_cons_of_mem _ hmem)
    · rcases List.mem_cons.mp h with rfl | hmem
      · exact .inr List.mem_cons_self
      · rcases ih hmem with ⟨line, hline, hp, heq⟩ | hmem
        · exact .inl ⟨line, List.mem_cons_of_mem _ hline, hp, heq⟩
        · exact .inr (List.mem_cons_of_mem _ hmem)

theorem products_mapFirst
    (hf : ∀ line, line.productId = productId → (f line).productId = productId) :
    (mapFirst productId f lines).map (·.productId) = lines.map (·.productId) := by
  induction lines with
  | nil => rfl
  | cons head lines ih =>
    unfold mapFirst
    by_cases hp : head.productId = productId
    · simp [hp, hf head hp]
    · simpa [hp] using ih

end PurchaseOrder

/-- Whole numbers add up to whole numbers. -/
theorem den_add {a b : ℚ} (ha : a.den = 1) (hb : b.den = 1) : (a + b).den = 1 := by
  rw [Rat.den_eq_one_iff] at ha hb
  rw [← ha, ← hb, ← Int.cast_add]
  exact Rat.den_intCast _

theorem registerLine_storable {tolerance : ℚ} {line : ReceiptLine} {po po' : PurchaseOrder}
    (h : PurchaseOrderFactory.registerLine tolerance line po = (.ok (), po'))
    (hstorable : po.Storable) : po'.Storable := by
  unfold PurchaseOrderFactory.registerLine at h
  rw [Method.this_bind] at h
  cases hfind : po.find? line.productId with
  | none =>
    rw [hfind] at h
    cases h
  | some poLine =>
    rw [hfind] at h
    obtain ⟨_, _, h⟩ := Method.enforce_bind_ok h
    obtain ⟨received, hreceive, h⟩ := Method.enforce_bind_ok h
    have hmem : poLine ∈ po.lines := List.mem_of_find?_eq_some hfind
    have hp : poLine.productId = line.productId := by
      simpa [PurchaseOrder.find?] using List.find?_some hfind
    unfold PurchaseOrderLine.receive at hreceive
    by_cases hden : line.receivedQuantity.den = 1
    · rw [require, if_pos hden] at hreceive
      cases hreceive
      cases h
      refine ⟨fun line' hline' => ?_, fun line' hline' => ?_, ?_⟩
      · rcases PurchaseOrder.mem_mapFirst hline' with ⟨_, _, _, rfl⟩ | hline'
        · exact hstorable.currency poLine hmem
        · exact hstorable.currency line' hline'
      · rcases PurchaseOrder.mem_mapFirst hline' with ⟨_, _, _, rfl⟩ | hline'
        · obtain ⟨hquantity, hreceived⟩ := hstorable.whole poLine hmem
          exact ⟨hquantity, den_add hreceived hden⟩
        · exact hstorable.whole line' hline'
      · have hkept := @PurchaseOrder.products_mapFirst line.productId (fun _ =>
          { poLine with receivedQuantity := poLine.receivedQuantity + line.receivedQuantity })
          po.lines fun _ _ => hp
        show ((PurchaseOrder.mapFirst _ _ _).map PurchaseOrderLine.productId).Nodup
        rw [hkept]
        exact hstorable.distinct
    · rw [require, if_neg hden] at hreceive
      cases hreceive

theorem registerLines_storable {tolerance : ℚ} {lines : List ReceiptLine} {po po' : PurchaseOrder}
    (h : lines.forM (PurchaseOrderFactory.registerLine tolerance) po = (.ok (), po'))
    (hstorable : po.Storable) : po'.Storable := by
  induction lines generalizing po with
  | nil =>
    cases h
    exact hstorable
  | cons line lines ih =>
    obtain ⟨middle, hline, hrest⟩ := Method.forM_cons_ok h
    exact ih hrest (registerLine_storable hline hstorable)

/-- An order read from the database and opened for a receipt can be written back. -/
theorem openPoForReceipt_storable {lines : List ReceiptLine} {tolerance : ℚ}
    {actorId : Option String} {now : Nat} {po po' : PurchaseOrder}
    (h : PurchaseOrderFactory.openPoForReceipt lines tolerance actorId now po = (.ok (), po'))
    (hstorable : po.Storable) : po'.Storable := by
  unfold PurchaseOrderFactory.openPoForReceipt at h
  rw [Method.this_bind] at h
  obtain ⟨_, _, h⟩ := Method.enforce_bind_ok h
  obtain ⟨_, middle, hmiddle, hrecord⟩ := Method.bind_ok h
  have hkept := registerLines_storable hmiddle hstorable
  cases hrecord
  exact ⟨hkept.currency, hkept.whole, hkept.distinct⟩

end Orders

section Notes

/-- Whole quantities, and one line for each product. -/
structure GoodReceiptNote.Storable (grn : GoodReceiptNote) : Prop where
  whole : ∀ line ∈ grn.lines, line.orderedQuantity.den = 1 ∧ line.receivedQuantity.den = 1 ∧
    line.acceptedQuantity.den = 1 ∧ line.rejectedQuantity.den = 1
  distinct : (grn.lines.map (·.productId)).Nodup

namespace PrismaGrnMapper

theorem toLineRow_isSome {line : GrnLine} (h : line.orderedQuantity.den = 1 ∧
    line.receivedQuantity.den = 1 ∧ line.acceptedQuantity.den = 1 ∧
    line.rejectedQuantity.den = 1) : (toLineRow line).isSome = true := by
  obtain ⟨ho, hr, ha, hj⟩ := h
  obtain ⟨ordered, hordered⟩ := Option.isSome_iff_exists.mp (integer?_isSome ho)
  obtain ⟨received, hreceived⟩ := Option.isSome_iff_exists.mp (integer?_isSome hr)
  obtain ⟨accepted, haccepted⟩ := Option.isSome_iff_exists.mp (integer?_isSome ha)
  obtain ⟨rejected, hrejected⟩ := Option.isSome_iff_exists.mp (integer?_isSome hj)
  unfold toLineRow
  rw [hordered, hreceived, haccepted, hrejected]
  rfl

theorem toRow_of_storable {grn : GoodReceiptNote} (h : grn.Storable) (tenantId : Option String)
    (companyId : String) (version : Nat) : ∃ row, toRow grn tenantId companyId version = some row := by
  obtain ⟨rows, hrows⟩ := mapM_isSome fun line hline => toLineRow_isSome (h.whole line hline)
  have hproduct : ∀ (line : GrnLine) (row : GrnLineRow), toLineRow line = some row →
      row.productId = line.productId := fun _ _ hrow =>
    congrArg GrnLine.productId (toLine_of_toLineRow hrow)
  have hdistinct : (rows.map (·.productId)).Nodup := by
    rw [map_of_mapM hproduct hrows]
    exact h.distinct
  unfold toRow
  rw [hrows]
  simp only [hdistinct, dif_pos]
  exact ⟨_, rfl⟩

theorem storable_toDomain (row : GrnRow) : (toDomain row).Storable := by
  refine ⟨fun line hline => ?_, ?_⟩
  · obtain ⟨lineRow, _, rfl⟩ := List.mem_map.mp hline
    exact ⟨Rat.den_intCast _, Rat.den_intCast _, Rat.den_intCast _, Rat.den_intCast _⟩
  · show ((row.lines.map toLine).map GrnLine.productId).Nodup
    rw [List.map_map]
    exact row.distinct

end PrismaGrnMapper

end Notes

end DddBoilerplate.Procurement
