/- module: DddBoilerplate/Procurement/OrderLines
   generality: I
   digest: The lines and the totals of every purchase order that any sequence of commands writes. -/

import DddBoilerplate.Procurement.OrderLifecycle
import DddBoilerplate.Procurement.Storing
import DddBoilerplate.Store.Keyed

set_option autoImplicit false
set_option relaxedAutoImplicit false
set_option linter.all false

namespace DddBoilerplate.Procurement

open Domain Store

section Commands

/-- `PurchaseOrderPricingService.toLineUnitPrices` -/
def toLineUnitPrices (currency : String) : List (String × ℚ) → Except Failure (List (String × ℚ))
  | [] => .ok []
  | (productId, amount) :: prices => do
    let price ← Money.fromDecimal amount currency
    let rest ← toLineUnitPrices currency prices
    return (productId, price.minorUnits) :: rest

/-- The commands on an order, with what their requests bring: prices are decimal numbers. -/
inductive PurchaseOrderCommand where
  | addLine (productId : String) (quantity unitPrice : ℚ) (currency : String)
      (descriptionSnapshot : Option String)
  | setLine (productId : String) (quantity unitPrice : ℚ) (currency : String)
      (descriptionSnapshot : Option String)
  | removeLine (productId : String)
  | updateHeader (input : HeaderInput)
  | amend (changes : AmendmentInput)
  | receive (lines : List ReceiptLine) (tolerance : ℚ) (actorId : Option String)
  | submit
  | approve (actorId : Option String)
  | reject (reason : String) (actorId : Option String)
  | cancel (actorId : Option String) (hasReceipts : Bool)
  | issue (actorId : Option String)
  | complete

/-- What the use case of a command does to the order it found. -/
def PurchaseOrderCommand.call (now : Nat) : PurchaseOrderCommand → PurchaseOrder.OrderMethod Unit
  | addLine productId quantity unitPrice currency descriptionSnapshot => do
    let price ← Method.enforce (Money.fromDecimal unitPrice currency)
    PurchaseOrder.addLine productId quantity price descriptionSnapshot now
  | setLine productId quantity unitPrice currency descriptionSnapshot => do
    let price ← Method.enforce (Money.fromDecimal unitPrice currency)
    let _ ← PurchaseOrder.setLine productId quantity price descriptionSnapshot now
  | removeLine productId => PurchaseOrder.removeLine productId now
  | updateHeader input => PurchaseOrder.updateHeader input now
  | amend changes => do
    let po ← Method.this
    let prices ← Method.enforce (toLineUnitPrices po.currency (changes.lineUnitPrices.getD []))
    let lineUnitPrices := changes.lineUnitPrices.map fun _ => prices
    let _ ← PurchaseOrder.amend { changes with lineUnitPrices := lineUnitPrices } now
  | receive lines tolerance actorId =>
    PurchaseOrderFactory.openPoForReceipt lines tolerance actorId now
  | submit => PurchaseOrder.submit now
  | approve actorId => PurchaseOrder.approve actorId now
  | reject reason actorId => PurchaseOrder.reject reason actorId now
  | cancel actorId hasReceipts => PurchaseOrder.cancel actorId hasReceipts now
  | issue actorId => PurchaseOrder.issue actorId now
  | complete => PurchaseOrder.complete now

/-- The orders some sequence of commands leads to, also through commands that threw halfway,
written and read back at any point. -/
inductive OrderReached : PurchaseOrder → Prop where
  | created {input : CreatePurchaseOrderInput} {id : String} {now : Nat} {po : PurchaseOrder} :
      PurchaseOrderFactory.create input id now = .ok po → OrderReached po
  | called {po : PurchaseOrder} {command : PurchaseOrderCommand} {now : Nat} :
      OrderReached po → OrderReached ((command.call now).after po)
  | reloaded {po : PurchaseOrder} {tenantId : Option String} {companyId : String} {version : Nat}
      {row : PurchaseOrderRow} :
      OrderReached po → PrismaPurchaseOrderMapper.toRow po tenantId companyId version = .ok row →
        OrderReached (PrismaPurchaseOrderMapper.toDomain row)

end Commands

section Amounts

variable {price : Money} {quantity : ℚ}

theorem fromMinorUnits_nonneg {minorUnits : ℚ} {currency : String}
    (h : Money.fromMinorUnits minorUnits currency = .ok price) : 0 ≤ price.minorUnits := by
  by_cases hden : minorUnits.den = 1
  · by_cases hneg : 0 ≤ minorUnits
    · simp only [Money.fromMinorUnits, require, hden, hneg, if_true] at h
      cases h
      exact Rat.num_nonneg.mpr hneg
    · simp [Money.fromMinorUnits, require, hden, hneg, bind, Except.bind] at h
  · simp [Money.fromMinorUnits, require, hden, bind, Except.bind] at h

/-- A whole multiple of a price is not rounded. -/
theorem multiply_intCast (price : Money) (n : Int) :
    price.multiply n = ⟨price.minorUnits * n, price.currency⟩ := by
  have hfloor : round ((price.minorUnits : ℚ) * (n : ℚ)) = price.minorUnits * n := by
    unfold round
    rw [← Int.cast_mul, Int.floor_intCast_add]
    norm_num
  unfold Money.multiply
  rw [hfloor]

theorem eq_intCast_of_den {q : ℚ} (h : q.den = 1) : q = (q.num : ℚ) :=
  ((Rat.den_eq_one_iff q).mp h).symm

end Amounts

/-- A whole positive quantity, and the price of it for a total. -/
structure PurchaseOrderLine.Priced (line : PurchaseOrderLine) : Prop where
  whole : line.quantity.den = 1
  positive : 0 < line.quantity
  price : 0 ≤ line.unitPrice.minorUnits
  total : line.total = line.unitPrice.multiply line.quantity

/-- Every line is priced, and no product has two lines. -/
structure PurchaseOrder.Consistent (po : PurchaseOrder) : Prop where
  priced : ∀ line ∈ po.lines, line.Priced
  distinct : (po.lines.map (·.productId)).Nodup

/-- PO lines as they are stored: products apart, positive quantities, totals that add up. -/
structure PurchaseOrderRow.Consistent (row : PurchaseOrderRow) : Prop where
  distinct : (row.lines.map (·.productId)).Nodup
  positive : ∀ line ∈ row.lines, 0 < line.quantity
  lineTotal : ∀ line ∈ row.lines, (line.total : Int) = line.unitPrice * line.quantity
  subtotal : row.subtotal = (row.lines.map (·.total)).sum
  total : row.total = (row.lines.map (·.total)).sum

namespace PurchaseOrder

variable {po po' : PurchaseOrder} {productId : String} {quantity : ℚ} {price : Money}
variable {description : Option String} {now : Nat}

theorem Consistent.of_lines (h : po.Consistent) (hlines : po'.lines = po.lines) :
    po'.Consistent := by
  refine ⟨?_, ?_⟩
  · rw [hlines]
    exact h.priced
  · rw [hlines]
    exact h.distinct

theorem priced_newLine (hden : quantity.den = 1) (hpos : 0 < quantity)
    (hprice : 0 ≤ price.minorUnits) : (newLine productId quantity price description).Priced :=
  ⟨hden, hpos, hprice, rfl⟩

theorem priced_withUpdatedQuantity {line : PurchaseOrderLine} (hden : quantity.den = 1)
    (hpos : 0 < quantity) (hprice : 0 ≤ price.minorUnits) :
    (line.withUpdatedQuantity quantity price (price.multiply quantity)).Priced :=
  ⟨hden, hpos, hprice, rfl⟩

/-- A line for a product that had none. -/
theorem Consistent.append (h : po.Consistent) {line : PurchaseOrderLine} (hpriced : line.Priced)
    (hfree : po.find? line.productId = none) (hlines : po'.lines = po.lines ++ [line]) :
    po'.Consistent := by
  refine ⟨fun line' hmem => ?_, ?_⟩
  · rw [hlines] at hmem
    rcases List.mem_append.mp hmem with hmem | hmem
    · exact h.priced line' hmem
    · rw [List.mem_singleton.mp hmem]
      exact hpriced
  · rw [hlines]
    exact nodup_keys_append h.distinct hfree

/-- The lines of a product rewritten with priced ones. -/
theorem Consistent.mapLine (h : po.Consistent) (productId : String)
    (f : PurchaseOrderLine → PurchaseOrderLine)
    (hproduct : ∀ line, (f line).productId = line.productId)
    (hpriced : ∀ line ∈ po.lines, line.productId = productId → (f line).Priced)
    (hlines : po'.lines = mapLine productId f po.lines) : po'.Consistent := by
  refine ⟨fun line' hmem => ?_, ?_⟩
  · rw [hlines] at hmem
    rcases mem_mapKey hmem with ⟨line, hline, hp, rfl⟩ | ⟨hmem, _⟩
    · exact hpriced line hline hp
    · exact h.priced line' hmem
  · rw [hlines]
    have hkeys : (PurchaseOrder.mapLine productId f po.lines).map (·.productId) =
        po.lines.map (·.productId) := keys_mapKey hproduct
    rw [hkeys]
    exact h.distinct

theorem Consistent.mapFirst (h : po.Consistent) (productId : String)
    (f : PurchaseOrderLine → PurchaseOrderLine)
    (hproduct : ∀ line, line.productId = productId → (f line).productId = productId)
    (hpriced : ∀ line ∈ po.lines, line.productId = productId → (f line).Priced)
    (hlines : po'.lines = mapFirst productId f po.lines) : po'.Consistent := by
  refine ⟨fun line' hmem => ?_, ?_⟩
  · rw [hlines] at hmem
    rcases mem_mapFirst hmem with ⟨line, hline, hp, rfl⟩ | hmem
    · exact hpriced line hline hp
    · exact h.priced line' hmem
  · rw [hlines, products_mapFirst hproduct]
    exact h.distinct

theorem lineQuantity_eq_ok {u : Unit} :
    purchaseOrderLineQuantity quantity = .ok u ↔ quantity.den = 1 ∧ 0 < quantity := by
  exact require_eq_ok

/-- What asks for an editable order leaves another one as it is. -/
theorem after_assertEditable_cases {α : Type} (f : Unit → OrderMethod α) (po : PurchaseOrder) :
    (assertEditable >>= f).after po = po ∨ (assertEditable >>= f).after po = (f ()).after po := by
  have hcheck : assertEditable po = (purchaseOrderEditable po.status, po) := rfl
  show (Method.bind assertEditable f po).2 = po ∨
    (Method.bind assertEditable f po).2 = (f () po).2
  unfold Method.bind
  rw [hcheck]
  cases purchaseOrderEditable po.status with
  | error e => exact Or.inl rfl
  | ok u => exact Or.inr rfl

theorem consistent_addLine (h : po.Consistent) (hprice : 0 ≤ price.minorUnits) :
    ((addLine productId quantity price description now).after po).Consistent := by
  rcases after_assertEditable_cases _ po with hsame | hgoes
  · exact h.of_lines (congrArg PurchaseOrder.lines hsame)
  rcases Method.after_enforce_cases (purchaseOrderLineQuantity quantity) _ po with
    hsame | ⟨_, hquantity, hadds⟩
  · exact h.of_lines (congrArg PurchaseOrder.lines (hgoes.trans hsame))
  obtain ⟨hden, hpos⟩ := lineQuantity_eq_ok.mp hquantity
  have hlines := congrArg PurchaseOrder.lines (hgoes.trans hadds)
  cases hfind : po.find? productId with
  | none =>
    have hpriced : (newLine productId quantity price description).Priced :=
      priced_newLine hden hpos hprice
    refine h.append hpriced hfind (hlines.trans ?_)
    simp only [Method.after, Method.assign_bind, Method.assign_apply, addEvent, hfind]
  | some existing =>
    have hexisting := h.priced existing (mem_of_findKey hfind).1
    have hsum : (existing.quantity + quantity).den = 1 := den_add hexisting.whole hden
    have hsumpos : 0 < existing.quantity + quantity := add_pos hexisting.positive hpos
    refine h.mapLine productId (·.withUpdatedQuantity (existing.quantity + quantity) price
      (price.multiply (existing.quantity + quantity))) (fun _ => rfl)
      (fun _ _ _ => priced_withUpdatedQuantity hsum hsumpos hprice) (hlines.trans ?_)
    simp only [Method.after, Method.assign_bind, Method.assign_apply, addEvent, hfind]

theorem consistent_setLine (h : po.Consistent) (hprice : 0 ≤ price.minorUnits) :
    ((setLine productId quantity price description now).after po).Consistent := by
  rcases after_assertEditable_cases _ po with hsame | hgoes
  · exact h.of_lines (congrArg PurchaseOrder.lines hsame)
  rcases Method.after_enforce_cases (purchaseOrderLineQuantity quantity) _ po with
    hsame | ⟨_, hquantity, hsets⟩
  · exact h.of_lines (congrArg PurchaseOrder.lines (hgoes.trans hsame))
  obtain ⟨hden, hpos⟩ := lineQuantity_eq_ok.mp hquantity
  have hlines := congrArg PurchaseOrder.lines (hgoes.trans hsets)
  by_cases hsettled : ((po.find? productId).any fun line =>
      line.quantity = quantity ∧ line.unitPrice = price) = true
  · refine h.of_lines (hlines.trans ?_)
    simp only [Method.after, Method.this_bind, hsettled, if_true, Method.pure_apply]
  · have hassigned := hlines
    simp only [Method.after, Method.this_bind, hsettled] at hassigned
    cases hfind : po.find? productId with
    | none =>
      have hpriced : (newLine productId quantity price description).Priced :=
        priced_newLine hden hpos hprice
      refine h.append hpriced hfind (hassigned.trans ?_)
      rw [hfind]
      rfl
    | some existing =>
      refine h.mapFirst productId (·.withUpdatedQuantity quantity price (price.multiply quantity))
        (fun _ hp => hp)
        (fun _ _ _ => priced_withUpdatedQuantity hden hpos hprice) (hassigned.trans ?_)
      rw [hfind]
      rfl

theorem consistent_removeLine (h : po.Consistent) :
    ((removeLine productId now).after po).Consistent := by
  rcases after_assertEditable_cases _ po with hsame | hgoes
  · exact h.of_lines (congrArg PurchaseOrder.lines hsame)
  have hlines : ((removeLine productId now).after po).lines =
      po.lines.filter fun line => line.productId ≠ productId :=
    congrArg PurchaseOrder.lines hgoes
  refine ⟨fun line hmem => ?_, ?_⟩
  · rw [hlines] at hmem
    exact h.priced line (List.mem_of_mem_filter hmem)
  · rw [hlines]
    exact h.distinct.sublist (List.filter_sublist.map _)

theorem consistent_updateHeader {input : HeaderInput} (h : po.Consistent) :
    ((updateHeader input now).after po).Consistent := by
  have hfixes : Method.Fixes PurchaseOrder.lines (updateHeader input now) :=
    .bind (.bind .this fun _ => .enforce _) fun _ => .assign fun _ => rfl
  exact h.of_lines (hfixes po)

/-- A price is amended at the quantity of the only line of the product. -/
theorem consistent_amendPrice (entry : String × ℚ) (h : po.Consistent) :
    ((amendPrice entry).after po).Consistent := by
  unfold amendPrice
  rw [Method.after, Method.this_bind]
  cases hfind : po.find? entry.1 with
  | none => exact h
  | some line =>
    change (Method.after (Method.enforce _ >>= _) po).Consistent
    rcases Method.after_enforce_cases (require (line.receivedQuantity ≤ 0) _) _ po with
      hsame | ⟨_, _, hgoes⟩
    · rw [hsame]
      exact h
    rw [hgoes]
    rcases Method.after_enforce_cases (Money.fromMinorUnits entry.2 po.currency) _ po with
      hsame | ⟨unitPrice, hmoney, hamends⟩
    · rw [hsame]
      exact h
    rw [hamends]
    refine h.mapLine entry.1 (·.withAmendedUnitPrice unitPrice (unitPrice.multiply line.quantity))
      (fun _ => rfl) (fun line' hmem hp => ?_) rfl
    have honly : line' = line := eq_of_findKey h.distinct hfind hmem hp
    have hline := h.priced line' hmem
    rw [honly] at hline ⊢
    exact ⟨hline.whole, hline.positive, fromMinorUnits_nonneg hmoney, rfl⟩

/-- What every part of a call keeps, the call keeps. -/
def KeepsConsistent {α : Type} (m : OrderMethod α) : Prop :=
  Method.Keeps (fun po po' => po.Consistent → po'.Consistent) m

theorem KeepsConsistent.bind {α β : Type} {m : OrderMethod α} {f : α → OrderMethod β}
    (hm : KeepsConsistent m) (hf : ∀ a, KeepsConsistent (f a)) : KeepsConsistent (m >>= f) := by
  refine Method.Keeps.bind ?_ hm hf
  intro _ _ _ hfirst hsecond h
  exact hsecond (hfirst h)

theorem KeepsConsistent.of_fixes {α : Type} {m : OrderMethod α}
    (h : Method.Fixes PurchaseOrder.lines m) : KeepsConsistent m :=
  fun po hpo => hpo.of_lines (h po)

theorem keepsConsistent_amendPrices (entries : List (String × ℚ)) :
    KeepsConsistent (amendPrices entries) := by
  induction entries with
  | nil => exact .of_fixes (.pure [])
  | cons entry entries ih =>
    refine KeepsConsistent.bind (fun _ h => consistent_amendPrice entry h) fun _ => ?_
    exact ih.bind fun _ => .of_fixes (.pure _)

theorem keepsConsistent_amend (changes : AmendmentInput) : KeepsConsistent (amend changes now) := by
  refine KeepsConsistent.bind (.of_fixes .this) fun po => ?_
  refine KeepsConsistent.bind (.of_fixes (.enforce _)) fun _ => ?_
  refine KeepsConsistent.bind (.of_fixes (.enforce _)) fun _ => ?_
  refine KeepsConsistent.bind (.of_fixes ?_) fun _ => ?_
  · cases changes.expectedDeliveryDate with
    | none => exact .pure ()
    | some date => exact .assign fun _ => rfl
  refine KeepsConsistent.bind ?_ fun prices => ?_
  · rcases changes.lineUnitPrices with _ | _ | ⟨entry, entries⟩
    · exact .of_fixes (.pure none)
    · exact .of_fixes (.pure none)
    · exact (keepsConsistent_amendPrices (entry :: entries)).bind fun _ => .of_fixes (.pure _)
  refine KeepsConsistent.bind (.of_fixes (.enforce _)) fun _ => ?_
  refine KeepsConsistent.bind (.of_fixes (.assign fun _ => rfl)) fun _ => ?_
  exact KeepsConsistent.bind (.of_fixes (.assign fun _ => rfl)) fun _ => .of_fixes (.pure _)

theorem keepsConsistent_registerLine (tolerance : ℚ) (line : ReceiptLine) :
    KeepsConsistent (PurchaseOrderFactory.registerLine tolerance line) := by
  intro po h
  unfold PurchaseOrderFactory.registerLine
  rw [Method.after, Method.this_bind]
  cases hfind : po.find? line.productId with
  | none => exact h
  | some poLine =>
    change (Method.after (Method.enforce _ >>= _) po).Consistent
    obtain ⟨hmem, hp⟩ := mem_of_findKey hfind
    rcases Method.after_enforce_cases (purchaseOrderOverReceipt poLine.quantity
      poLine.receivedQuantity line.receivedQuantity tolerance) _ po with hsame | ⟨_, _, hgoes⟩
    · rw [hsame]
      exact h
    rw [hgoes]
    rcases Method.after_enforce_cases (poLine.receive line.receivedQuantity) _ po with
      hsame | ⟨received, hreceive, hreceives⟩
    · rw [hsame]
      exact h
    rw [hreceives]
    have hreceived : received.productId = poLine.productId ∧ received.Priced := by
      by_cases hden : line.receivedQuantity.den = 1
      · rw [PurchaseOrderLine.receive, require, if_pos hden] at hreceive
        cases hreceive
        have hline := h.priced poLine hmem
        exact ⟨rfl, hline.whole, hline.positive, hline.price, hline.total⟩
      · rw [PurchaseOrderLine.receive, require, if_neg hden] at hreceive
        cases hreceive
    exact h.mapFirst line.productId (fun _ => received) (fun _ _ => hreceived.1.trans hp)
      (fun _ _ _ => hreceived.2) rfl

theorem keepsConsistent_openPoForReceipt (lines : List ReceiptLine) (tolerance : ℚ)
    (actorId : Option String) :
    KeepsConsistent (PurchaseOrderFactory.openPoForReceipt lines tolerance actorId now) := by
  refine KeepsConsistent.bind (.of_fixes .this) fun po => ?_
  refine KeepsConsistent.bind (.of_fixes (.enforce _)) fun _ => ?_
  refine KeepsConsistent.bind ?_ fun _ => .of_fixes (.assign fun _ => rfl)
  exact Method.Keeps.forM (fun _ h => h) (fun _ _ _ hfirst hsecond h => hsecond (hfirst h)) _
    (keepsConsistent_registerLine tolerance) lines

/-- The methods of the lifecycle leave the lines. -/
theorem keepsConsistent_of_command {method : OrderMethod Unit} (h : IsOrderCommand method) :
    KeepsConsistent method :=
  .of_fixes fun po => congrArg Prod.snd (h.fixes po)

theorem fromDecimal_nonneg {decimal : ℚ} {currency : String}
    (h : Money.fromDecimal decimal currency = .ok price) : 0 ≤ price.minorUnits :=
  fromMinorUnits_nonneg h

end PurchaseOrder

/-- Every command keeps the lines consistent, also where it throws. -/
theorem consistent_call {po : PurchaseOrder} (command : PurchaseOrderCommand) (now : Nat)
    (h : po.Consistent) : ((command.call now).after po).Consistent := by
  cases command with
  | addLine productId quantity unitPrice currency description =>
    rcases Method.after_enforce_cases (Money.fromDecimal unitPrice currency)
      (fun price => PurchaseOrder.addLine productId quantity price description now) po with
      hsame | ⟨price, hprice, hadds⟩
    · exact h.of_lines (congrArg PurchaseOrder.lines hsame)
    · rw [PurchaseOrderCommand.call, hadds]
      exact PurchaseOrder.consistent_addLine h (PurchaseOrder.fromDecimal_nonneg hprice)
  | setLine productId quantity unitPrice currency description =>
    rcases Method.after_enforce_cases (Money.fromDecimal unitPrice currency) (fun price => do
        let _ ← PurchaseOrder.setLine productId quantity price description now) po with
      hsame | ⟨price, hprice, hsets⟩
    · exact h.of_lines (congrArg PurchaseOrder.lines hsame)
    · rw [PurchaseOrderCommand.call, hsets, Method.after_bind_pure]
      exact PurchaseOrder.consistent_setLine h (PurchaseOrder.fromDecimal_nonneg hprice)
  | removeLine productId => exact PurchaseOrder.consistent_removeLine h
  | updateHeader input => exact PurchaseOrder.consistent_updateHeader h
  | amend changes =>
    refine PurchaseOrder.KeepsConsistent.bind (.of_fixes .this) (fun _ => ?_) po h
    refine PurchaseOrder.KeepsConsistent.bind (.of_fixes (.enforce _)) fun _ => ?_
    exact (PurchaseOrder.keepsConsistent_amend _).bind fun _ => .of_fixes (.pure ())
  | receive lines tolerance actorId =>
    exact PurchaseOrder.keepsConsistent_openPoForReceipt lines tolerance actorId po h
  | submit => exact PurchaseOrder.keepsConsistent_of_command (.submit now) po h
  | approve actorId => exact PurchaseOrder.keepsConsistent_of_command (.approve actorId now) po h
  | reject reason actorId =>
    exact PurchaseOrder.keepsConsistent_of_command (.reject reason actorId now) po h
  | cancel actorId hasReceipts =>
    exact PurchaseOrder.keepsConsistent_of_command (.cancel actorId hasReceipts now) po h
  | issue actorId => exact PurchaseOrder.keepsConsistent_of_command (.issue actorId now) po h
  | complete => exact PurchaseOrder.keepsConsistent_of_command (.close now) po h

theorem consistent_create {input : CreatePurchaseOrderInput} {id : String} {now : Nat}
    {po : PurchaseOrder} (h : PurchaseOrderFactory.create input id now = .ok po) :
    po.Consistent := by
  have hempty : po.lines = [] := by
    simp only [PurchaseOrderFactory.create, bind, Except.bind] at h
    split at h
    · cases h
    · split at h
      · cases h
      · cases h
        rfl
  refine ⟨fun line hmem => ?_, ?_⟩
  · rw [hempty] at hmem
    cases hmem
  · rw [hempty]
    exact List.nodup_nil

section Stored

variable {po : PurchaseOrder} {tenantId : Option String} {companyId : String} {version : Nat}
variable {row : PurchaseOrderRow}

/-- A sum that goes through is the sum of the lines' totals, all in its currency. -/
theorem foldlM_add_eq_ok {lines : List PurchaseOrderLine} {acc total : Money}
    (h : lines.foldlM (fun acc line => acc.add line.total) acc = .ok total) :
    total.minorUnits = acc.minorUnits + (lines.map (·.total.minorUnits)).sum ∧
      ∀ line ∈ lines, line.total.currency = acc.currency := by
  induction lines generalizing acc with
  | nil =>
    cases h
    simp
  | cons line lines ih =>
    rw [List.foldlM_cons] at h
    by_cases hsame : acc.currency = line.total.currency
    · have hadd : acc.add line.total =
          .ok ⟨acc.minorUnits + line.total.minorUnits, acc.currency⟩ := by
        unfold Money.add
        rw [require, if_pos hsame]
        rfl
      rw [hadd] at h
      obtain ⟨hsum, hcurrency⟩ := ih h
      refine ⟨?_, fun line' hmem => ?_⟩
      · rw [hsum, List.map_cons, List.sum_cons, add_assoc]
      · rcases List.mem_cons.mp hmem with rfl | hmem
        · exact hsame.symm
        · exact hcurrency line' hmem
    · have hadd : ∃ e, acc.add line.total = .error e := by
        unfold Money.add
        rw [require, if_neg hsame]
        exact ⟨_, rfl⟩
      obtain ⟨e, he⟩ := hadd
      rw [he] at h
      cases h

/-- What the columns took of an order. -/
theorem toRow_columns (h : PrismaPurchaseOrderMapper.toRow po tenantId companyId version = .ok row) :
    ∃ subtotal, po.subtotal = .ok subtotal ∧ row.subtotal = subtotal.minorUnits.toNat ∧
      row.total = subtotal.minorUnits.toNat ∧ row.currency = po.currency ∧
      po.lines.mapM PrismaPurchaseOrderMapper.toLineRow = some row.lines := by
  unfold PrismaPurchaseOrderMapper.toRow at h
  cases hsubtotal : po.subtotal with
  | error e =>
    rw [hsubtotal] at h
    cases h
  | ok subtotal =>
    have htotal : po.total = .ok subtotal := hsubtotal
    rw [hsubtotal, htotal] at h
    simp only [bind, Except.bind] at h
    split at h
    · cases h
    · rename_i lines hlines
      split at h
      · cases h
        exact ⟨subtotal, rfl, rfl, rfl, rfl, hlines⟩
      · cases h

/-- A line row holds the amounts of the priced line it was written from. -/
theorem toLineRow_priced {line : PurchaseOrderLine} {lineRow : PurchaseOrderLineRow}
    (h : PrismaPurchaseOrderMapper.toLineRow line = some lineRow) (hpriced : line.Priced) :
    0 < lineRow.quantity ∧ (lineRow.total : Int) = lineRow.unitPrice * lineRow.quantity ∧
      (lineRow.total : Int) = line.total.minorUnits := by
  simp only [PrismaPurchaseOrderMapper.toLineRow, Option.bind_eq_bind, Option.bind_eq_some_iff,
    Option.pure_def, Option.some.injEq] at h
  obtain ⟨quantity, hquantity, _, _, rfl⟩ := h
  have hcast : line.quantity = (quantity : ℚ) := integer?_eq_some hquantity
  have hpos : 0 < quantity := by
    have hpositive := hpriced.positive
    rw [hcast] at hpositive
    exact_mod_cast hpositive
  have htotal : line.total.minorUnits = line.unitPrice.minorUnits * quantity := by
    rw [hpriced.total, hcast, multiply_intCast]
  have hnonneg : 0 ≤ line.total.minorUnits := by
    rw [htotal]
    exact mul_nonneg hpriced.price hpos.le
  refine ⟨hpos, ?_, Int.toNat_of_nonneg hnonneg⟩
  calc (line.total.minorUnits.toNat : Int)
      = line.total.minorUnits := Int.toNat_of_nonneg hnonneg
    _ = line.unitPrice.minorUnits * quantity := htotal
    _ = line.unitPrice.minorUnits.toNat * quantity := by rw [Int.toNat_of_nonneg hpriced.price]

/-- Along a loop that went through, elements and outcomes correspond. -/
theorem forall₂_of_mapM {α β : Type} {f : α → Option β} {as : List α} {bs : List β}
    (h : as.mapM f = some bs) : List.Forall₂ (fun a b => f a = some b) as bs := by
  induction as generalizing bs with
  | nil =>
    rw [List.mapM_nil] at h
    cases h
    exact .nil
  | cons a as ih =>
    rw [List.mapM_cons] at h
    simp only [Option.bind_eq_bind, Option.bind_eq_some_iff, Option.pure_def,
      Option.some.injEq] at h
    obtain ⟨b, hb, rest, hrest, rfl⟩ := h
    exact .cons hb (ih hrest)

/-- The columns of priced lines: positive quantities, and totals that are theirs. -/
theorem rows_of_priced {lines : List PurchaseOrderLine} {rows : List PurchaseOrderLineRow}
    (h : List.Forall₂ (fun line lineRow =>
      PrismaPurchaseOrderMapper.toLineRow line = some lineRow) lines rows)
    (hpriced : ∀ line ∈ lines, line.Priced) :
    (∀ lineRow ∈ rows, 0 < lineRow.quantity ∧
        (lineRow.total : Int) = lineRow.unitPrice * lineRow.quantity) ∧
      (((rows.map (·.total)).sum : Nat) : Int) = (lines.map (·.total.minorUnits)).sum := by
  induction h with
  | nil => simp
  | @cons line lineRow lines rows hline _ ih =>
    obtain ⟨hpos, hproduct, htotal⟩ := toLineRow_priced hline (hpriced line List.mem_cons_self)
    obtain ⟨hrows, hsum⟩ := ih fun line' hmem => hpriced line' (List.mem_cons_of_mem line hmem)
    refine ⟨fun row' hmem => ?_, ?_⟩
    · rcases List.mem_cons.mp hmem with rfl | hmem
      · exact ⟨hpos, hproduct⟩
      · exact hrows row' hmem
    · rw [List.map_cons, List.sum_cons, List.map_cons, List.sum_cons, Nat.cast_add, htotal, hsum]

/-- What a consistent order writes is consistent, and every line of it was in its currency. -/
theorem consistent_toRow (hpo : po.Consistent)
    (h : PrismaPurchaseOrderMapper.toRow po tenantId companyId version = .ok row) :
    row.Consistent ∧ ∀ line ∈ po.lines,
      line.unitPrice.currency = row.currency ∧ line.total.currency = row.currency := by
  obtain ⟨subtotal, hsubtotal, hstored, htotal, hcurrency, hlines⟩ := toRow_columns h
  obtain ⟨hsum, hsame⟩ := foldlM_add_eq_ok hsubtotal
  obtain ⟨hrows, hrowsum⟩ := rows_of_priced (forall₂_of_mapM hlines) hpo.priced
  have hamount : subtotal.minorUnits.toNat = (row.lines.map (·.total)).sum := by
    have hzero : (Money.zero po.currency).minorUnits = 0 := rfl
    rw [hsum, hzero, zero_add, ← hrowsum]
    exact Int.toNat_natCast _
  refine ⟨⟨row.distinct, fun line hmem => (hrows line hmem).1, fun line hmem => (hrows line hmem).2,
    hstored.trans hamount, htotal.trans hamount⟩, fun line hmem => ?_⟩
  have htotalCurrency : line.total.currency = row.currency := (hsame line hmem).trans hcurrency.symm
  refine ⟨?_, htotalCurrency⟩
  rw [← htotalCurrency, (hpo.priced line hmem).total]
  rfl

/-- A row read back is the consistent order it was. -/
theorem consistent_toDomain (h : row.Consistent) :
    (PrismaPurchaseOrderMapper.toDomain row).Consistent := by
  refine ⟨fun line hmem => ?_, ?_⟩
  · obtain ⟨lineRow, hrow, rfl⟩ := List.mem_map.mp hmem
    refine ⟨Rat.den_intCast _, ?_, Int.natCast_nonneg _, ?_⟩
    · show (0 : ℚ) < (lineRow.quantity : ℚ)
      exact_mod_cast h.positive lineRow hrow
    · show (⟨lineRow.total, row.currency⟩ : Money) =
        Money.multiply ⟨lineRow.unitPrice, row.currency⟩ (lineRow.quantity : ℚ)
      rw [multiply_intCast, h.lineTotal lineRow hrow]
  · exact (PrismaPurchaseOrderMapper.storable_toDomain row).distinct

theorem consistent_of_reached (h : OrderReached po) : po.Consistent := by
  induction h with
  | created hcreate => exact consistent_create hcreate
  | called _ ih => exact consistent_call _ _ ih
  | reloaded _ hwritten ih => exact consistent_toDomain (consistent_toRow ih hwritten).1

/-- Whatever sequence of commands led to an order, what is written of it has one line for each
product, positive quantities, totals that are price times quantity and add up, and one currency. -/
theorem order_lines_are_consistent (hreached : OrderReached po)
    (hwritten : PrismaPurchaseOrderMapper.toRow po tenantId companyId version = .ok row) :
    (po.lines.map (·.productId)).Nodup ∧ row.Consistent ∧ ∀ line ∈ po.lines,
      line.unitPrice.currency = row.currency ∧ line.total.currency = row.currency := by
  have hpo := consistent_of_reached hreached
  exact ⟨hpo.distinct, consistent_toRow hpo hwritten⟩

/-- Three bolts and one more, at another price. -/
theorem order_lines_are_consistent_merged : ∃ (created : PurchaseOrder) (row : PurchaseOrderRow),
    PurchaseOrderFactory.create orderInput "po" 0 = .ok created ∧
      row.lines = [⟨"bolt", 4, 0, some "Bolt", 250, 1000⟩] ∧ row.Consistent := by
  obtain ⟨created, hcreate, hshown⟩ : ∃ created,
      PurchaseOrderFactory.create orderInput "po" 0 = .ok created ∧
        (match PrismaPurchaseOrderMapper.toRow
          (((PurchaseOrderCommand.addLine "bolt" 1 (5 / 2) "USD" none).call 2).after
            (((PurchaseOrderCommand.addLine "bolt" 3 2 "USD" (some "Bolt")).call 1).after created))
          none "c" 1 with
        | .ok row => decide (row.lines = [⟨"bolt", 4, 0, some "Bolt", 250, 1000⟩])
        | .error _ => false) = true :=
    ⟨_, rfl, by decide +kernel⟩
  split at hshown
  · rename_i row hwritten
    exact ⟨created, row, hcreate, of_decide_eq_true hshown,
      (order_lines_are_consistent (.called (.called (.created hcreate))) hwritten).2.1⟩
  · cases hshown

end Stored

end DddBoilerplate.Procurement
