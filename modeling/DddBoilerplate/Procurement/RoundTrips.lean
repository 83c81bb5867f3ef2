/- module: DddBoilerplate/Procurement/RoundTrips
   generality: I
   digest: What a note and an order are when they are read back from the rows they were written to. -/

import Mathlib.Tactic.FieldSimp
import DddBoilerplate.Procurement.Storing

set_option autoImplicit false
set_option relaxedAutoImplicit false
set_option linter.all false

namespace DddBoilerplate.Procurement

section Notes

theorem den_of_integer? {q : ℚ} {n : Int} (h : integer? q = some n) : q.den = 1 := by
  rw [integer?_eq_some h]
  exact Rat.den_intCast n

theorem floor_half_of_den {q : ℚ} (h : q.den = 1) : (⌊q + 1 / 2⌋ : ℚ) = q := by
  obtain ⟨n, hn⟩ : ∃ n : ℤ, (n : ℚ) = q := ⟨q.num, (Rat.den_eq_one_iff q).mp h⟩
  have hfloor : ⌊(n : ℚ) + 1 / 2⌋ = n := by
    rw [Int.floor_intCast_add]
    norm_num
  rw [← hn, hfloor]

/-- A column of two decimals gives back what has no more than two. -/
theorem decimal2_eq_self_iff {q : ℚ} : decimal2 q = q ↔ (q * 100).den = 1 := by
  constructor
  · intro h
    unfold decimal2 at h
    split at h
    · have hwhole : q * 100 = (⌊q * 100 + 1 / 2⌋ : ℤ) := by
        rw [div_eq_iff (by norm_num)] at h
        exact h.symm
      rw [hwhole]
      exact Rat.den_intCast _
    · have hwhole : q * 100 = (-⌊-q * 100 + 1 / 2⌋ : ℤ) := by
        have hquotient : (⌊-q * 100 + 1 / 2⌋ : ℚ) / 100 = -q := by linarith
        rw [div_eq_iff (by norm_num)] at hquotient
        push_cast
        linarith
      rw [hwhole]
      exact Rat.den_intCast _
  · intro h
    unfold decimal2
    split
    · rw [floor_half_of_den h]
      field_simp
    · have hneg : (-q * 100).den = 1 := by
        rw [neg_mul, Rat.neg_den]
        exact h
      rw [floor_half_of_den hneg]
      field_simp

/-- The columns of a line take the line, and nothing of it is without a column. -/
structure GrnLine.Kept (line : GrnLine) : Prop where
  untracked : line.tracking = []
  price : (line.unitPrice * 100).den = 1

theorem GrnLine.stored_eq_self_iff {line : GrnLine} : line.stored = line ↔ line.Kept := by
  unfold GrnLine.stored
  rw [GrnLine.mk.injEq]
  constructor
  · rintro ⟨-, -, -, -, -, hprice, htracking⟩
    exact ⟨htracking.symm, decimal2_eq_self_iff.mp hprice⟩
  · intro h
    exact ⟨rfl, rfl, rfl, rfl, rfl, decimal2_eq_self_iff.mpr h.price, h.untracked.symm⟩

namespace GoodReceiptNote

/-- The same note, but for its version and the events that it has not raised yet. -/
def SameProps (read written : GoodReceiptNote) : Prop :=
  { read with version := written.version, events := written.events } = written

/-- The note is written, and what is read of its row is the note. -/
def RoundTrips (grn : GoodReceiptNote) (tenantId : Option String) (companyId : String)
    (version : Nat) : Prop :=
  ∃ row, PrismaGrnMapper.toRow grn tenantId companyId version = some row ∧
    (PrismaGrnMapper.toDomain row).SameProps grn

variable {grn : GoodReceiptNote} {tenantId : Option String} {companyId : String} {version : Nat}

theorem storable_of_toRow {row : GrnRow}
    (h : PrismaGrnMapper.toRow grn tenantId companyId version = some row) : grn.Storable := by
  have hread := (PrismaGrnMapper.toRow_eq_some h).1
  have hlines : (PrismaGrnMapper.toDomain row).lines = grn.lines.map GrnLine.stored :=
    congrArg GoodReceiptNote.lines hread
  have hstorable := PrismaGrnMapper.storable_toDomain row
  refine ⟨fun line hline => ?_, ?_⟩
  · exact hstorable.whole line.stored (hlines ▸ List.mem_map_of_mem hline)
  · have hdistinct := hstorable.distinct
    rw [hlines, List.map_map] at hdistinct
    exact hdistinct

/-- A note comes back as it was just where every line has columns for all it holds. -/
theorem roundTrips_iff_kept : grn.RoundTrips tenantId companyId version ↔
    grn.Storable ∧ ∀ line ∈ grn.lines, line.Kept := by
  have hsame : ∀ row, PrismaGrnMapper.toRow grn tenantId companyId version = some row →
      ((PrismaGrnMapper.toDomain row).SameProps grn ↔ ∀ line ∈ grn.lines, line.Kept) := by
    intro row hrow
    obtain ⟨hread, _, _⟩ := PrismaGrnMapper.toRow_eq_some hrow
    have hlines : (PrismaGrnMapper.toDomain row).SameProps grn ↔
        grn.lines.map GrnLine.stored = grn.lines := by
      unfold SameProps
      rw [hread]
      constructor
      · exact fun h => congrArg GoodReceiptNote.lines h
      · intro h
        simp only [h]
    have hmap : grn.lines.map GrnLine.stored = grn.lines ↔
        ∀ line ∈ grn.lines, line.stored = line := by
      conv_lhs => rw [← List.map_id'' (fun _ => rfl) grn.lines]
      rw [List.map_map]
      exact List.map_inj_left
    rw [hlines, hmap]
    exact forall₂_congr fun line _ => GrnLine.stored_eq_self_iff
  constructor
  · rintro ⟨row, hrow, hprops⟩
    exact ⟨storable_of_toRow hrow, (hsame row hrow).mp hprops⟩
  · rintro ⟨hstorable, hkept⟩
    obtain ⟨row, hrow⟩ := PrismaGrnMapper.toRow_of_storable hstorable tenantId companyId version
    exact ⟨row, hrow, (hsame row hrow).mpr hkept⟩

/-- Two units that came in under their serial numbers. -/
def serialNumbered : GoodReceiptNote where
  id := "grn-1"
  grnNumber := "GRN-1"
  purchaseOrderId := "po-1"
  vendorId := "vendor-1"
  status := .draft
  currency := "USD"
  lines := [GrnLine.create "pump" 2 2 5 none none none]
  receivedAt := none
  reversalOfId := none
  createdBy := some "ann"
  receivedBy := none
  postedBy := none
  cancelledBy := none
  createdAt := 0
  updatedAt := 0
  version := 1
  events := []

def serials : List TrackingEntry :=
  [⟨none, some "s-1", 1, none, none⟩, ⟨none, some "s-2", 1, none, none⟩]

/-- The serial numbers a command gave to a line are lost with the write. -/
theorem serials_lost : ¬ ∀ (grn : GoodReceiptNote) (tenantId : Option String) (companyId : String)
    (version : Nat), grn.RoundTrips tenantId companyId version := by
  intro h
  have htracked := h (setLineTracking "pump" serials 1 serialNumbered).2 none "acme" 1
  obtain ⟨_, hkept⟩ := roundTrips_iff_kept.mp htracked
  have hline := hkept ((GrnLine.create "pump" 2 2 5 none none none).withTracking serials)
    (by decide)
  cases hline.untracked

end GoodReceiptNote

end Notes

section Orders

namespace PrismaPurchaseOrderMapper

variable {line : PurchaseOrderLine} {currency : String}

/-- Whole quantities and amounts of this currency that are not negative. -/
structure Writable (line : PurchaseOrderLine) (currency : String) : Prop where
  quantity : line.quantity.den = 1
  receivedQuantity : line.receivedQuantity.den = 1
  unitPrice : line.unitPrice.currency = currency ∧ 0 ≤ line.unitPrice.minorUnits
  total : line.total.currency = currency ∧ 0 ≤ line.total.minorUnits

theorem toLine_toLineRow {row : PurchaseOrderLineRow} (h : toLineRow line = some row)
    (hwritable : Writable line currency) : toLine currency row = line := by
  simp only [toLineRow, Option.bind_eq_bind, Option.bind_eq_some_iff, Option.pure_def,
    Option.some.injEq] at h
  obtain ⟨quantity, hquantity, received, hreceived, rfl⟩ := h
  obtain ⟨hpriceCurrency, hprice⟩ := hwritable.unitPrice
  obtain ⟨htotalCurrency, htotal⟩ := hwritable.total
  obtain ⟨productId, lineQuantity, ⟨price, priceCurrency⟩, ⟨total, totalCurrency⟩, lineReceived,
    description⟩ := line
  simp only at hpriceCurrency hprice htotalCurrency htotal hquantity hreceived
  subst hpriceCurrency
  subst htotalCurrency
  simp only [toLine, Int.toNat_of_nonneg hprice, Int.toNat_of_nonneg htotal,
    ← integer?_eq_some hquantity, ← integer?_eq_some hreceived]

theorem toLines_toLineRows {lines : List PurchaseOrderLine} {rows : List PurchaseOrderLineRow}
    (hrows : lines.mapM toLineRow = some rows)
    (hwritable : ∀ line ∈ lines, Writable line currency) : rows.map (toLine currency) = lines := by
  induction lines generalizing rows with
  | nil =>
    rw [List.mapM_nil] at hrows
    cases hrows
    rfl
  | cons line lines ih =>
    rw [List.mapM_cons] at hrows
    simp only [Option.bind_eq_bind, Option.bind_eq_some_iff, Option.pure_def,
      Option.some.injEq] at hrows
    obtain ⟨row, hrow, rest, hrest, rfl⟩ := hrows
    rw [List.map_cons, toLine_toLineRow hrow (hwritable line List.mem_cons_self),
      ih hrest fun line' hline' => hwritable line' (List.mem_cons_of_mem _ hline')]

end PrismaPurchaseOrderMapper

namespace PurchaseOrder

/-- An order the columns take: one currency, whole numbers, and one line for each product. -/
structure PersistedLegal (po : PurchaseOrder) : Prop where
  lines : ∀ line ∈ po.lines, PrismaPurchaseOrderMapper.Writable line po.currency
  distinct : (po.lines.map (·.productId)).Nodup

/-- The order is written, and what is read of its row is the order, but for the time of its last
change, its version and its events. Neither time is written with the order: the columns have their
own, which for an order that is saved first is the time of the database. -/
def RoundTrips (po : PurchaseOrder) (tenantId : Option String) (companyId : String)
    (version createdAt updatedAt : Nat) : Prop :=
  ∃ row, PrismaPurchaseOrderMapper.toRow po tenantId companyId version = .ok row ∧
    { PrismaPurchaseOrderMapper.toDomain
        { row with createdAt := createdAt, updatedAt := updatedAt } with
      updatedAt := po.updatedAt, version := po.version, events := po.events } = po

variable {po : PurchaseOrder} {tenantId : Option String} {companyId : String}
variable {version createdAt updatedAt : Nat}

theorem PersistedLegal.storable (h : po.PersistedLegal) : po.Storable :=
  ⟨fun line hline => (h.lines line hline).total.1,
    fun line hline => ⟨(h.lines line hline).quantity, (h.lines line hline).receivedQuantity⟩,
    h.distinct⟩

/-- What is read of the row a legal order was written to: its last receipt has no columns. -/
theorem toDomain_toRow {row : PurchaseOrderRow} (h : po.PersistedLegal)
    (hrow : PrismaPurchaseOrderMapper.toRow po tenantId companyId version = .ok row) :
    PrismaPurchaseOrderMapper.toDomain row =
      { po with lastReceiptBy := none, lastReceiptAt := none, version := version, events := [] } := by
  obtain ⟨total, htotal⟩ : ∃ total, po.subtotal = .ok total :=
    subtotal_of_currency h.storable.currency
  have htotal' : po.total = .ok total := htotal
  unfold PrismaPurchaseOrderMapper.toRow at hrow
  rw [htotal, htotal'] at hrow
  simp only [bind, Except.bind] at hrow
  split at hrow
  · cases hrow
  · rename_i lines hlines
    split at hrow
    · cases hrow
      have hread := PrismaPurchaseOrderMapper.toLines_toLineRows hlines h.lines
      simp only [PrismaPurchaseOrderMapper.toDomain, hread]
    · cases hrow

/-- An order that was issued for two pumps. -/
def issuedForPumps : PurchaseOrder where
  id := "po-1"
  orderNumber := "PO-1"
  vendorId := "vendor-1"
  externalReference := none
  status := .issued
  currency := "USD"
  lines := [⟨"pump", 2, ⟨500, "USD"⟩, ⟨1000, "USD"⟩, 0, none⟩]
  orderDate := none
  expectedDeliveryDate := none
  createdBy := some "ann"
  approvedBy := none
  approvedAt := none
  rejectedBy := none
  rejectedAt := none
  rejectionReason := none
  issuedBy := some "ann"
  cancelledBy := none
  amendedBy := none
  amendedAt := none
  amendmentReason := none
  lastReceiptBy := none
  lastReceiptAt := none
  createdAt := 0
  updatedAt := 0
  version := 1
  events := []

theorem issuedForPumps_legal (actorId : Option String) (now : Nat) :
    (recordReceipt actorId now issuedForPumps).2.PersistedLegal := by
  refine ⟨fun line hline => ?_, List.nodup_singleton _⟩
  obtain rfl := List.mem_singleton.mp hline
  exact ⟨by decide, by decide, ⟨rfl, by decide⟩, ⟨rfl, by decide⟩⟩

end PurchaseOrder

end Orders

end DddBoilerplate.Procurement
