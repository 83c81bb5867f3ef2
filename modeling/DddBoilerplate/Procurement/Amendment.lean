/- module: DddBoilerplate/Procurement/Amendment
   generality: I
   digest: What an amendment of an issued order leaves behind, whether it returns or throws. -/

import DddBoilerplate.Procurement.OrderLines

set_option autoImplicit false
set_option relaxedAutoImplicit false
set_option linter.all false

namespace DddBoilerplate.Procurement.PurchaseOrder

open Domain (Method require require_eq_ok require_eq_error)

section Prices

/-- The loop throws at this entry: no line of the product, a receipt on it, or no amount. -/
def Refuses (po : PurchaseOrder) (price : String × ℚ) : Prop :=
  match po.find? price.1 with
  | none => True
  | some line => 0 < line.receivedQuantity ∨ price.2.den ≠ 1 ∨ price.2 < 0

instance (po : PurchaseOrder) (price : String × ℚ) : Decidable (po.Refuses price) := by
  unfold Refuses
  split <;> infer_instance

/-- The quantity the total is computed with: that of the product's first line. -/
def firstQuantity (po : PurchaseOrder) (productId : String) : ℚ :=
  ((po.find? productId).map (·.quantity)).getD 0

/-- A line at an amended price. -/
def repriced (po : PurchaseOrder) (price : ℚ) (line : PurchaseOrderLine) : PurchaseOrderLine :=
  let unitPrice : Money := ⟨price.num, po.currency⟩
  line.withAmendedUnitPrice unitPrice (unitPrice.multiply (po.firstQuantity line.productId))

/-- The order behind one round of the loop that did not throw. -/
def reprice (po : PurchaseOrder) (price : String × ℚ) : PurchaseOrder :=
  { po with lines := mapLine price.1 (po.repriced price.2) po.lines }

variable {po : PurchaseOrder} {price other : String × ℚ} {prices : List (String × ℚ)}
variable {productId : String}

theorem find?_reprice :
    (po.reprice price).find? productId =
      (po.find? productId).map fun line =>
        if line.productId = price.1 then po.repriced price.2 line else line := by
  unfold find? reprice mapLine
  rw [List.find?_map]
  congr 2
  funext line
  show decide ((if line.productId = price.1 then po.repriced price.2 line else line).productId =
    productId) = _
  split <;> rfl

theorem refuses_reprice : (po.reprice price).Refuses other ↔ po.Refuses other := by
  unfold Refuses
  rw [find?_reprice]
  cases po.find? other.1 with
  | none => exact Iff.rfl
  | some line =>
    simp only [Option.map_some]
    split <;> exact Iff.rfl

theorem firstQuantity_reprice : (po.reprice price).firstQuantity productId =
    po.firstQuantity productId := by
  unfold firstQuantity
  rw [find?_reprice, Option.map_map]
  congr 2
  funext line
  show (if line.productId = price.1 then po.repriced price.2 line else line).quantity = _
  split <;> rfl

theorem repriced_reprice (amount : ℚ) :
    (po.reprice price).repriced amount = po.repriced amount := by
  funext line
  unfold repriced
  rw [firstQuantity_reprice]
  rfl

theorem fromMinorUnits_cases (amount : ℚ) (currency : String) :
    (amount.den = 1 ∧ 0 ≤ amount ∧
      Money.fromMinorUnits amount currency = .ok ⟨amount.num, currency⟩) ∨
      ((amount.den ≠ 1 ∨ amount < 0) ∧ ∃ e, Money.fromMinorUnits amount currency = .error e) := by
  unfold Money.fromMinorUnits require
  by_cases hden : amount.den = 1
  · by_cases hneg : 0 ≤ amount
    · refine .inl ⟨hden, hneg, ?_⟩
      rw [if_pos hden, if_pos hneg]
      rfl
    · refine .inr ⟨.inr (not_le.mp hneg), ⟨422, "Money cannot be negative"⟩, ?_⟩
      rw [if_pos hden, if_neg hneg]
      rfl
  · refine .inr ⟨.inl hden, ⟨422, "Money minor units must be an integer"⟩, ?_⟩
    rw [if_neg hden]
    rfl

/-- The total at the quantity of the line found is the total at the first quantity. -/
theorem mapLine_repriced {line : PurchaseOrderLine} (hfind : po.find? price.1 = some line) :
    mapLine price.1 (·.withAmendedUnitPrice ⟨price.2.num, po.currency⟩
      ((Money.mk price.2.num po.currency).multiply line.quantity)) po.lines =
      mapLine price.1 (po.repriced price.2) po.lines := by
  unfold mapLine
  refine List.map_congr_left fun other _ => ?_
  by_cases hproduct : other.productId = price.1
  · simp only [repriced, firstQuantity, hproduct, hfind, Option.map_some, Option.getD_some]
  · simp only [if_neg hproduct]

/-- One round throws and assigns nothing, or prices the lines of its product. -/
theorem amendPrice_cases (po : PurchaseOrder) (price : String × ℚ) :
    (po.Refuses price ∧ ∃ e, amendPrice price po = (.error e, po)) ∨
      (¬po.Refuses price ∧ ∃ entry, amendPrice price po = (.ok entry, po.reprice price)) := by
  have hthis : amendPrice price po = (match po.find? price.1 with
    | none => _
    | some line => _ : OrderMethod (String × String)) po := rfl
  cases hfind : po.find? price.1 with
  | none =>
    rw [hfind] at hthis
    refine .inl ⟨?_, _, hthis⟩
    simp only [Refuses, hfind]
  | some line =>
    simp only [hfind] at hthis
    have hrefuses : po.Refuses price ↔
        0 < line.receivedQuantity ∨ price.2.den ≠ 1 ∨ price.2 < 0 := by
      simp only [Refuses, hfind]
    by_cases hreceived : line.receivedQuantity ≤ 0
    · rw [require, if_pos hreceived, Method.enforce_ok_bind] at hthis
      rcases fromMinorUnits_cases price.2 po.currency with
        ⟨hden, hneg, hmoney⟩ | ⟨hbad, e, hmoney⟩
      · rw [hmoney, Method.enforce_ok_bind, Method.assign_bind, mapLine_repriced hfind] at hthis
        refine .inr ⟨fun h => ?_, _, hthis⟩
        rcases hrefuses.mp h with h | h | h
        · exact absurd h (not_lt.mpr hreceived)
        · exact h hden
        · exact absurd h (not_lt.mpr hneg)
      · rw [hmoney, Method.enforce_error_bind] at hthis
        exact .inl ⟨hrefuses.mpr (.inr hbad), e, hthis⟩
    · rw [require, if_neg hreceived, Method.enforce_error_bind] at hthis
      exact .inl ⟨hrefuses.mpr (.inl (not_le.mp hreceived)), _, hthis⟩

/-- The entries ahead of the first one the loop throws at. -/
def accepted (po : PurchaseOrder) (prices : List (String × ℚ)) : List (String × ℚ) :=
  prices.takeWhile fun price => ¬po.Refuses price

theorem accepted_reprice (prices : List (String × ℚ)) :
    (po.reprice price).accepted prices = po.accepted prices := by
  unfold accepted
  congr 1
  funext other
  simp only [refuses_reprice]

/-- The loop prices what it accepts, and returns where it accepts everything. -/
theorem amendPrices_apply (po : PurchaseOrder) (prices : List (String × ℚ)) :
    (amendPrices prices).after po = (po.accepted prices).foldl reprice po ∧
      ((amendPrices prices).Returns po ↔ po.accepted prices = prices) := by
  induction prices generalizing po with
  | nil => exact ⟨rfl, fun _ => rfl, fun _ => ⟨[], rfl⟩⟩
  | cons price prices ih =>
    rcases amendPrice_cases po price with ⟨hrefuses, e, he⟩ | ⟨haccepts, entry, hentry⟩
    · have hnone : po.accepted (price :: prices) = [] := by
        unfold accepted
        rw [List.takeWhile_cons_of_neg]
        simpa using hrefuses
      have hrun : amendPrices (price :: prices) po = (.error e, po) := Method.bind_of_error he
      refine ⟨?_, ?_⟩
      · rw [Method.after, hrun, hnone]
        rfl
      · rw [hnone]
        constructor
        · rintro ⟨a, ha⟩
          rw [hrun] at ha
          cases ha
        · intro h
          cases h
    · have hsome : po.accepted (price :: prices) = price :: po.accepted prices := by
        unfold accepted
        rw [List.takeWhile_cons_of_pos]
        simpa using haccepts
      have hrun : amendPrices (price :: prices) po =
          (amendPrices prices >>= fun entries => pure (entry :: entries)) (po.reprice price) :=
        Method.bind_of_ok hentry
      obtain ⟨hafter, hreturns⟩ := ih (po.reprice price)
      rw [accepted_reprice] at hafter hreturns
      refine ⟨?_, ?_⟩
      · rw [hsome, List.foldl_cons, ← hafter, ← Method.after_bind_pure (amendPrices prices)
          (entry :: ·)]
        exact congrArg Prod.snd hrun
      · rw [hsome, List.cons_inj_right, ← hreturns]
        unfold Method.Returns
        rw [hrun]
        exact Method.returns_bind_pure

/-- A line as a whole record of prices leaves it. -/
def pricedBy (po : PurchaseOrder) (prices : List (String × ℚ)) (line : PurchaseOrderLine) :
    PurchaseOrderLine :=
  match prices.lookup line.productId with
  | some amount => po.repriced amount line
  | none => line

theorem pricedBy_of_not_mem {line : PurchaseOrderLine}
    (h : line.productId ∉ prices.map Prod.fst) : po.pricedBy prices line = line := by
  have hnone : prices.lookup line.productId = none := by
    refine List.lookup_eq_none_iff.mpr fun entry hmem => ?_
    have hne : line.productId ≠ entry.1 := fun heq => h (heq ▸ List.mem_map_of_mem hmem)
    simpa using hne
  simp only [pricedBy, hnone]

theorem pricedBy_of_mem {line : PurchaseOrderLine} (hkeys : (prices.map Prod.fst).Nodup)
    (hmem : price ∈ prices) (hproduct : line.productId = price.1) :
    po.pricedBy prices line = po.repriced price.2 line := by
  have hsome : prices.lookup line.productId = some price.2 := by
    rw [hproduct]
    clear hproduct
    induction prices with
    | nil => cases hmem
    | cons entry prices ih =>
      obtain ⟨hfresh, hkeys⟩ := List.nodup_cons.mp hkeys
      rcases List.mem_cons.mp hmem with rfl | hmem
      · exact List.lookup_cons_self
      · have hne : price.1 ≠ entry.1 := fun heq => hfresh (heq ▸ List.mem_map_of_mem hmem)
        rw [List.lookup_cons, beq_false_of_ne hne]
        exact ih hkeys hmem
  simp only [pricedBy, hsome]

theorem pricedBy_cases (po : PurchaseOrder) (prices : List (String × ℚ))
    (line : PurchaseOrderLine) :
    (line.productId ∉ prices.map Prod.fst ∧ po.pricedBy prices line = line) ∨
      ∃ amount, po.pricedBy prices line = po.repriced amount line := by
  by_cases h : line.productId ∈ prices.map Prod.fst
  · unfold pricedBy
    cases hlookup : prices.lookup line.productId with
    | some amount => exact .inr ⟨amount, rfl⟩
    | none =>
      obtain ⟨entry, hmem, hproduct⟩ := List.mem_map.mp h
      have hne := List.lookup_eq_none_iff.mp hlookup entry hmem
      rw [hproduct] at hne
      simp at hne
  · exact .inl ⟨h, pricedBy_of_not_mem h⟩

theorem pricedBy_reprice : (po.reprice price).pricedBy prices = po.pricedBy prices := by
  funext line
  unfold pricedBy
  cases prices.lookup line.productId with
  | some amount => exact congrFun (repriced_reprice amount) line
  | none => rfl

/-- The prices of a record reach one line each, in whatever order. -/
theorem foldl_reprice (po : PurchaseOrder) (hkeys : (prices.map Prod.fst).Nodup) :
    prices.foldl reprice po = { po with lines := po.lines.map (po.pricedBy prices) } := by
  induction prices generalizing po with
  | nil =>
    have hlines : po.lines.map (po.pricedBy []) = po.lines := by
      have hid : po.pricedBy [] = fun line => line := rfl
      rw [hid, List.map_id']
    rw [hlines]
    rfl
  | cons price prices ih =>
    obtain ⟨hfresh, hkeys'⟩ := List.nodup_cons.mp hkeys
    rw [List.foldl_cons, ih _ hkeys', pricedBy_reprice]
    have hlines : (mapLine price.1 (po.repriced price.2) po.lines).map (po.pricedBy prices) =
        po.lines.map (po.pricedBy (price :: prices)) := by
      unfold mapLine
      rw [List.map_map]
      refine List.map_congr_left fun line _ => ?_
      by_cases hproduct : line.productId = price.1
      · have hpriced : (po.repriced price.2 line).productId ∉ prices.map Prod.fst := by
          show line.productId ∉ _
          rw [hproduct]
          exact hfresh
        rw [Function.comp_apply, if_pos hproduct, pricedBy_of_not_mem hpriced,
          pricedBy_of_mem hkeys List.mem_cons_self hproduct]
      · have hskip : (price :: prices).lookup line.productId = prices.lookup line.productId := by
          rw [List.lookup_cons, beq_false_of_ne hproduct]
        simp only [Function.comp_apply, if_neg hproduct, pricedBy, hskip]
    simp only [reprice, hlines]

/-- The entry moves no line, or none that satisfies `p`. -/
def Moves (po : PurchaseOrder) (p : PurchaseOrderLine → Prop) (price : String × ℚ) : Prop :=
  ∃ line ∈ po.lines, line.productId = price.1 ∧ p line ∧ po.repriced price.2 line ≠ line

theorem forall_pricedBy_iff (po : PurchaseOrder) (p : PurchaseOrderLine → Prop)
    (hkeys : (prices.map Prod.fst).Nodup) :
    (∀ line ∈ po.lines, p line → po.pricedBy prices line = line) ↔
      ∀ price ∈ prices, ¬po.Moves p price := by
  constructor
  · intro h price hmem ⟨line, hline, hproduct, hp, hmoves⟩
    rw [← pricedBy_of_mem hkeys hmem hproduct] at hmoves
    exact hmoves (h line hline hp)
  · intro h line hline hp
    by_cases hlisted : line.productId ∈ prices.map Prod.fst
    · obtain ⟨price, hmem, hproduct⟩ := List.mem_map.mp hlisted
      rw [pricedBy_of_mem hkeys hmem hproduct.symm]
      by_contra hmoves
      exact h price hmem ⟨line, hline, hproduct.symm, hp, hmoves⟩
    · exact pricedBy_of_not_mem hlisted

end Prices

section Amend

variable {po : PurchaseOrder} {changes : AmendmentInput} {now : Nat}

/-- The entries of the record of prices, absent or empty alike. -/
def prices (changes : AmendmentInput) : List (String × ℚ) := changes.lineUnitPrices.getD []

/-- The order with the date of the amendment. -/
def dated (changes : AmendmentInput) (po : PurchaseOrder) : PurchaseOrder :=
  { po with expectedDeliveryDate := changes.expectedDeliveryDate.getD po.expectedDeliveryDate }

/-- The order with the trail of the amendment: who, when and why, and the event that says so. -/
def stamped (changes : AmendmentInput) (applied : AppliedChanges) (now : Nat)
    (po : PurchaseOrder) : PurchaseOrder :=
  { po with
    amendedBy := changes.actorId.or po.amendedBy
    amendedAt := some now
    amendmentReason := some (trim changes.reason)
    updatedAt := now
    events := po.events ++
      [PurchaseOrderEvent.amended po.id applied (trim changes.reason) changes.actorId] }

theorem amendDate_apply : amendDate changes.expectedDeliveryDate po = (.ok (), dated changes po) := by
  unfold dated
  cases changes.expectedDeliveryDate with
  | none => rfl
  | some date => rfl

theorem amendLines_cases (po : PurchaseOrder) (changes : AmendmentInput) :
    (po.accepted (prices changes) ≠ prices changes ∧ ∃ e,
      amendLines changes.lineUnitPrices po =
        (.error e, (po.accepted (prices changes)).foldl reprice po)) ∨
      (po.accepted (prices changes) = prices changes ∧ ∃ entries,
        (entries = none ↔ prices changes = []) ∧
          amendLines changes.lineUnitPrices po =
            (.ok entries, (prices changes).foldl reprice po)) := by
  unfold prices
  rcases changes.lineUnitPrices with _ | _ | ⟨price, rest⟩
  · exact .inr ⟨rfl, none, ⟨fun _ => rfl, fun _ => rfl⟩, rfl⟩
  · exact .inr ⟨rfl, none, ⟨fun _ => rfl, fun _ => rfl⟩, rfl⟩
  · obtain ⟨hafter, hreturns⟩ := amendPrices_apply po (price :: rest)
    show (po.accepted (price :: rest) ≠ price :: rest ∧ _) ∨ _
    have hrun : amendLines (some (price :: rest)) po =
        (amendPrices (price :: rest) >>= fun entries => pure (some entries)) po := rfl
    simp only [Option.getD_some]
    rw [hrun]
    rcases hout : amendPrices (price :: rest) po with ⟨outcome, left⟩
    have hleft : left = (po.accepted (price :: rest)).foldl reprice po := by
      rw [← hafter, Method.after, hout]
    subst hleft
    cases outcome with
    | error e =>
      refine .inl ⟨fun hall => ?_, e, Method.bind_of_error hout⟩
      obtain ⟨_, hok⟩ := hreturns.mpr hall
      rw [hout] at hok
      cases hok
    | ok entries =>
      have hall := hreturns.mp ⟨entries, congrArg Prod.fst hout⟩
      rw [hall] at hout
      refine .inr ⟨hall, some entries, ⟨fun h => ?_, fun h => ?_⟩, Method.bind_of_ok hout⟩
      · cases h
      · cases h

theorem accepted_dated (entries : List (String × ℚ)) :
    (dated changes po).accepted entries = po.accepted entries := rfl

/-- What a call of `amend` on an issued order does, branch by branch. -/
inductive AmendStep (changes : AmendmentInput) (now : Nat) (po : PurchaseOrder) :
    Except Failure AppliedChanges × PurchaseOrder → Prop
  | unreasoned (e : Failure) (hreason : trim changes.reason = "") :
    AmendStep changes now po (.error e, po)
  | refused (e : Failure) (hreason : trim changes.reason ≠ "")
    (hrefused : po.accepted (prices changes) ≠ prices changes) :
    AmendStep changes now po
      (.error e, (po.accepted (prices changes)).foldl reprice (dated changes po))
  | idle (e : Failure) (hprices : prices changes = []) : AmendStep changes now po (.error e, po)
  | amended (applied : AppliedChanges) (hreason : trim changes.reason ≠ "")
    (haccepted : po.accepted (prices changes) = prices changes) :
    AmendStep changes now po
      (.ok applied, stamped changes applied now ((prices changes).foldl reprice (dated changes po)))

theorem amend_step (po : PurchaseOrder) (changes : AmendmentInput) (now : Nat)
    (hissued : po.status = .issued) :
    AmendStep changes now po (amend changes now po) := by
  have hstatus : purchaseOrderAmendable po.status = .ok () := require_eq_ok.mpr hissued
  have hthis : amend changes now po = (Method.enforce (purchaseOrderAmendable po.status) >>= _) po :=
    rfl
  rw [hthis, hstatus, Method.enforce_ok_bind]
  rcases Method.enforce_bind_cases (require (trim changes.reason ≠ "")
    (Failure.mk 422 "An amendment requires a reason")) _ po with ⟨e, herr, h⟩ | ⟨_, hok, h⟩
  · rw [h]
    exact .unreasoned e (not_not.mp (require_eq_error.mp herr).1)
  have hreason := require_eq_ok.mp hok
  rw [h, Method.bind_of_ok amendDate_apply]
  rcases amendLines_cases (dated changes po) changes with
    ⟨hrefused, e, herr⟩ | ⟨haccepted, entries, hentries, hok⟩
  · rw [Method.bind_of_error herr]
    exact .refused e hreason hrefused
  · rw [Method.bind_of_ok hok]
    rcases Method.enforce_bind_cases
      (require ((⟨changes.expectedDeliveryDate, entries⟩ : AppliedChanges) ≠ ⟨none, none⟩)
        (Failure.mk 422 "An amendment must change something")) _ _ with ⟨e, herr, h⟩ | ⟨_, _, h⟩
    · rw [h]
      have hnone := not_not.mp (require_eq_error.mp herr).1
      have hdate : changes.expectedDeliveryDate = none := congrArg (·.expectedDeliveryDate) hnone
      have hprices : prices changes = [] := hentries.mp (congrArg (·.lineUnitPrices) hnone)
      have hsame : dated changes po = po := by
        unfold dated
        rw [hdate]
        rfl
      rw [hprices, hsame]
      exact .idle e hprices
    · rw [h]
      exact .amended _ hreason haccepted

/-- Of the lines an amendment did not list nothing moved, of the others the price and total. -/
def MovesTerms (changes : AmendmentInput) (line line' : PurchaseOrderLine) : Prop :=
  line' = line.withAmendedUnitPrice line'.unitPrice line'.total ∧
    (line.productId ∉ (prices changes).map Prod.fst → line' = line)

/-- The order behind an amendment that returned: date, listed terms and trail moved. -/
structure Amended (changes : AmendmentInput) (now : Nat) (po po' : PurchaseOrder) : Prop where
  header : ∃ applied,
    po' = { stamped changes applied now (dated changes po) with lines := po'.lines }
  lines : List.Forall₂ (MovesTerms changes) po.lines po'.lines

/-- The price, total and balance of a line with receipts did not move. -/
def KeepsReceived (po po' : PurchaseOrder) : Prop :=
  List.Forall₂ (fun line line' => 0 < line.receivedQuantity →
    line'.unitPrice = line.unitPrice ∧ line'.total = line.total ∧
      line'.receivedQuantity = line.receivedQuantity) po.lines po'.lines

/-- Thrown with the aggregate as it was, or returned with the commercial terms moved; and in
neither case the terms of a line with receipts. -/
def AllOrNothing (changes : AmendmentInput) (now : Nat) (po : PurchaseOrder) : Prop :=
  let call := amend changes now po
  ((∃ e, call.1 = .error e) ∧ call.2 = po ∨ (∃ applied, call.1 = .ok applied) ∧
    Amended changes now po call.2) ∧ KeepsReceived po call.2

/-- No reason is given; or the loop accepts every entry, and none prices a line with receipts
behind the first of its product; or it throws, and neither the date nor an entry ahead of the
one it throws at moves anything. -/
def AmendsWhole (changes : AmendmentInput) (po : PurchaseOrder) : Prop :=
  trim changes.reason = "" ∨
    (po.accepted (prices changes) = prices changes ∧
      ∀ price ∈ prices changes, ¬po.Moves (fun line => 0 < line.receivedQuantity) price) ∨
    (po.accepted (prices changes) ≠ prices changes ∧
      changes.expectedDeliveryDate.getD po.expectedDeliveryDate = po.expectedDeliveryDate ∧
      ∀ price ∈ po.accepted (prices changes), ¬po.Moves (fun _ => True) price)

theorem pricedBy_eq_iff (po : PurchaseOrder) (entries : List (String × ℚ))
    (line : PurchaseOrderLine) :
    ((po.pricedBy entries line).unitPrice = line.unitPrice ∧
      (po.pricedBy entries line).total = line.total ∧
      (po.pricedBy entries line).receivedQuantity = line.receivedQuantity) ↔
      po.pricedBy entries line = line := by
  constructor
  · rintro ⟨hprice, htotal, -⟩
    rcases pricedBy_cases po entries line with ⟨-, h⟩ | ⟨amount, h⟩
    · exact h
    · rw [h] at hprice htotal ⊢
      calc po.repriced amount line
          = line.withAmendedUnitPrice (po.repriced amount line).unitPrice
              (po.repriced amount line).total := rfl
        _ = line.withAmendedUnitPrice line.unitPrice line.total := by rw [hprice, htotal]
        _ = line := rfl
  · intro h
    rw [h]
    exact ⟨rfl, rfl, rfl⟩

theorem movesTerms_pricedBy (line : PurchaseOrderLine) :
    MovesTerms changes line (po.pricedBy (prices changes) line) := by
  rcases pricedBy_cases po (prices changes) line with ⟨-, h⟩ | ⟨amount, h⟩
  · rw [h]
    exact ⟨rfl, fun _ => rfl⟩
  · refine ⟨?_, fun hfresh => pricedBy_of_not_mem hfresh⟩
    rw [h]
    rfl

theorem keepsReceived_refl (po : PurchaseOrder) : KeepsReceived po po :=
  List.forall₂_same.mpr fun _ _ _ => ⟨rfl, rfl, rfl⟩

/-- An amendment is all or nothing exactly where it fails ahead of its first assignment, or does
not fail and prices no line with receipts. -/
theorem amend_allOrNothing_iff (po : PurchaseOrder) (changes : AmendmentInput) (now : Nat)
    (hissued : po.status = .issued) (hrecord : ((prices changes).map Prod.fst).Nodup) :
    AllOrNothing changes now po ↔ AmendsWhole changes po := by
  have hstep := amend_step po changes now hissued
  unfold AllOrNothing AmendsWhole
  generalize amend changes now po = call at hstep
  have haccepted : ((po.accepted (prices changes)).map Prod.fst).Nodup :=
    hrecord.sublist ((List.takeWhile_sublist _).map _)
  cases hstep with
  | unreasoned e hreason =>
    exact iff_of_true ⟨.inl ⟨⟨e, rfl⟩, rfl⟩, keepsReceived_refl po⟩ (.inl hreason)
  | idle e hprices =>
    refine iff_of_true ⟨.inl ⟨⟨e, rfl⟩, rfl⟩, keepsReceived_refl po⟩ (.inr (.inl ?_))
    rw [hprices]
    exact ⟨rfl, fun _ h => nomatch h⟩
  | refused e hreason hrefused =>
    have hlines := foldl_reprice (dated changes po) haccepted
    have hmoves := forall_pricedBy_iff po (fun _ => True) haccepted
    constructor
    · rintro ⟨⟨-, hsame⟩ | ⟨⟨_, hok⟩, -⟩, -⟩
      · refine .inr (.inr ⟨hrefused, ?_, hmoves.mp fun line hline _ => ?_⟩)
        · rw [hlines] at hsame
          exact congrArg PurchaseOrder.expectedDeliveryDate hsame
        · rw [hlines] at hsame
          have hmap : po.lines.map (po.pricedBy (po.accepted (prices changes))) =
              po.lines.map fun line => line :=
            (congrArg PurchaseOrder.lines hsame).trans (List.map_id' po.lines).symm
          exact List.map_inj_left.mp hmap line hline
      · cases hok
    · rintro (h | ⟨h, -⟩ | ⟨-, hdate, hstays⟩)
      · exact absurd h hreason
      · exact absurd h hrefused
      · have hsame : (po.accepted (prices changes)).foldl reprice (dated changes po) = po := by
          have hmap : po.lines.map (po.pricedBy (po.accepted (prices changes))) = po.lines := by
            refine (List.map_congr_left fun line hline => ?_).trans (List.map_id' po.lines)
            exact hmoves.mpr hstays line hline trivial
          have hdated : dated changes po = po := by
            unfold dated
            rw [hdate]
          rw [hlines, hdated, hmap]
        rw [hsame]
        exact ⟨.inl ⟨⟨e, rfl⟩, rfl⟩, keepsReceived_refl po⟩
  | amended applied hreason hall =>
    have hlines := foldl_reprice (dated changes po) hrecord
    have hkeeps : KeepsReceived po
        (stamped changes applied now ((prices changes).foldl reprice (dated changes po))) ↔
        ∀ price ∈ prices changes, ¬po.Moves (fun line => 0 < line.receivedQuantity) price := by
      rw [hlines, ← forall_pricedBy_iff po _ hrecord]
      unfold KeepsReceived
      show List.Forall₂ _ po.lines (po.lines.map (po.pricedBy (prices changes))) ↔ _
      rw [List.forall₂_map_right_iff, List.forall₂_same]
      exact forall₂_congr fun line _ => imp_congr_right fun _ => pricedBy_eq_iff po _ line
    constructor
    · rintro ⟨-, hkept⟩
      exact .inr (.inl ⟨hall, hkeeps.mp hkept⟩)
    · rintro (h | ⟨-, hstays⟩ | ⟨h, -⟩)
      · exact absurd h hreason
      · refine ⟨.inr ⟨⟨applied, rfl⟩, ⟨applied, ?_⟩, ?_⟩, hkeeps.mpr hstays⟩
        · rw [hlines]
          rfl
        · rw [hlines]
          show List.Forall₂ _ po.lines (po.lines.map (po.pricedBy (prices changes)))
          rw [List.forall₂_map_right_iff, List.forall₂_same]
          exact fun line _ => movesTerms_pricedBy line
      · exact absurd hall h

end Amend

section Scenario

def issuedOrder : PurchaseOrder :=
  { id := "po"
    orderNumber := "PO-1"
    vendorId := "vendor"
    externalReference := none
    status := .issued
    currency := "USD"
    lines := [⟨"bolt", 2, ⟨100, "USD"⟩, ⟨200, "USD"⟩, 0, none⟩]
    orderDate := some 0
    expectedDeliveryDate := some 7
    createdBy := none
    approvedBy := none
    approvedAt := none
    rejectedBy := none
    rejectedAt := none
    rejectionReason := none
    issuedBy := none
    cancelledBy := none
    amendedBy := none
    amendedAt := none
    amendmentReason := none
    lastReceiptBy := none
    lastReceiptAt := none
    createdAt := 0
    updatedAt := 0
    version := 1
    events := [] }

def repricing (lineUnitPrices : List (String × ℚ)) : AmendmentInput :=
  { expectedDeliveryDate := some (some 9)
    lineUnitPrices := some lineUnitPrices
    reason := "renegotiated"
    actorId := none }

/-- The bolt is priced before the loop throws at the nut, which is on no line. -/
theorem amended_then_thrown :
    issuedOrder.status = .issued ∧
      ¬AllOrNothing (repricing [("bolt", 150), ("nut", 10)]) 1 issuedOrder ∧
      ((amend (repricing [("bolt", 150), ("nut", 10)]) 1 issuedOrder).2.lines.map
        (·.unitPrice.minorUnits)) = [150] ∧
      (amend (repricing [("bolt", 150), ("nut", 10)]) 1 issuedOrder).2.expectedDeliveryDate =
        some 9 := by
  have hlines : (amend (repricing [("bolt", 150), ("nut", 10)]) 1 issuedOrder).2.lines.map
      (·.unitPrice.minorUnits) = [150] := by decide
  have hdate : (amend (repricing [("bolt", 150), ("nut", 10)]) 1 issuedOrder).2.expectedDeliveryDate =
      some 9 := by decide
  have hthrown : (amend (repricing [("bolt", 150), ("nut", 10)]) 1 issuedOrder).1 =
      .error ⟨404, "Purchase order has no line for product nut"⟩ := by decide
  refine ⟨rfl, ?_, hlines, hdate⟩
  rintro ⟨⟨-, hsame⟩ | ⟨⟨_, hok⟩, -⟩, -⟩
  · rw [hsame] at hdate
    exact absurd hdate (by decide)
  · rw [hthrown] at hok
    cases hok

/-- One accepted entry and a new date: the amendment goes through whole. -/
theorem amended_whole :
    AllOrNothing (repricing [("bolt", 150)]) 1 issuedOrder ∧
      ((amend (repricing [("bolt", 150)]) 1 issuedOrder).2.lines.map
        (·.total.minorUnits)) = [300] := by
  refine ⟨(amend_allOrNothing_iff issuedOrder (repricing [("bolt", 150)]) 1 rfl
    (by decide)).mpr (.inr (.inl ⟨by decide +kernel, ?_⟩)), by decide +kernel⟩
  rintro price - ⟨line, hline, -, hreceived, -⟩
  rw [List.mem_singleton.mp hline] at hreceived
  exact absurd hreceived (by decide)

end Scenario

end DddBoilerplate.Procurement.PurchaseOrder
