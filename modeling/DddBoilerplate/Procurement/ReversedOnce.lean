/- module: DddBoilerplate/Procurement/ReversedOnce
   generality: I
   digest: How often a posted note is reversed over every interleaving of its reversals. -/

import DddBoilerplate.Procurement.PostedOnce

set_option autoImplicit false
set_option relaxedAutoImplicit false
set_option linter.all false

namespace DddBoilerplate.Procurement

open Concurrency Domain Store

def Write.savesReversal (id : String) : Write → Bool
  | saveGrn _ grn => grn.reversalOfId = some id
  | _ => false

/-- The writes that give a receipt back to an order for the reversal of a note. -/
def reversesNote (id : String) (writes : List Write) : Bool :=
  writes.any Write.updatesOrder && writes.any (Write.savesReversal id)

/-- The reversal documents stored for a note. -/
def ProcurementDb.reversals (id : String) (db : ProcurementDb) : List GrnRow :=
  db.grns.rows.filter fun row => row.reversalOfId = some id

/-- The reversals of a note are for the order the note is for. -/
def OfOneOrder (id : String) (db : ProcurementDb) : Prop :=
  ∀ reversal ∈ db.reversals id, ∃ row, db.grns.get? id = some row ∧
    reversal.purchaseOrderId = row.purchaseOrderId

/-- The condition on a served request: what leads to the commit of a reversal of the note,
the reading of its order, finds no reversal of the note stored. -/
def readsOrderUnreversed (id : String) : Served
  | s, _, _, .asks (.commit writes) => reversesNote id writes = true → s.reversals id = []
  | _, _, _, _ => True

instance (id : String) (s : ProcurementDb) (q : ProcurementRequest) (a : q.Answer)
    (front : Front ProcurementRequest.interface) :
    Decidable (readsOrderUnreversed id s q a front) := by
  unfold readsOrderUnreversed
  split <;> infer_instance

section Effects

variable {tolerances : ℚ → Prop} {s s' : ProcurementDb} {writes : List Write} {id : String}

theorem mem_reversals {row : GrnRow} :
    row ∈ s.reversals id ↔ row ∈ s.grns.rows ∧ row.reversalOfId = some id := by
  simp [ProcurementDb.reversals]

/-- Between the reading of the order and a commit that still finds its version, no reversal
came. -/
theorem no_reversal_since {t : ProcurementDb} {original : GrnRow} {order : PurchaseOrderRow}
    (hgrows : Grows t s) (hnone : t.reversals id = []) (hone : OfOneOrder id s)
    (horiginal : s.grns.get? id = some original) (horder : order.id = original.purchaseOrderId)
    (hread : t.orders.get? order.id = some order) (hstored : s.orders.get? order.id = some order) :
    s.reversals id = [] := by
  by_contra hsome
  obtain ⟨reversal, hreversal⟩ := List.exists_mem_of_ne_nil _ hsome
  obtain ⟨hmem, hof⟩ := mem_reversals.mp hreversal
  obtain ⟨row, hrow, hsame⟩ := hone reversal hreversal
  rw [horiginal] at hrow
  obtain rfl := Option.some.inj hrow
  cases hbefore : t.grns.get? reversal.id with
  | none =>
    have hread' : t.orders.get? reversal.purchaseOrderId = some order := by
      rw [hsame, ← horder]
      exact hread
    have hne : reversal.reversalOfId ≠ none := by
      rw [hof]
      exact Option.some_ne_none id
    obtain ⟨order', horder', hlt⟩ := hgrows.reversals reversal hmem hbefore hne order hread'
    rw [hsame, ← horder, hstored] at horder'
    obtain rfl := Option.some.inj horder'
    exact Nat.lt_irrefl _ hlt
  | some before =>
    obtain ⟨after, hafter, hfollows⟩ := hgrows.grns _ _ hbefore
    rw [Table.get?_of_mem hmem] at hafter
    obtain rfl := Option.some.inj hafter
    have hthen : before ∈ t.reversals id :=
      mem_reversals.mpr ⟨Table.mem_of_get? hbefore, hfollows.reversal.symm.trans hof⟩
    rw [hnone] at hthen
    cases hthen

theorem OfOneOrder.grows (h : OfOneOrder id s) (hgrows : Grows s s')
    (hnew : ∀ reversal ∈ s'.reversals id, s.grns.get? reversal.id = none →
      ∃ row, s'.grns.get? id = some row ∧ reversal.purchaseOrderId = row.purchaseOrderId) :
    OfOneOrder id s' := by
  intro reversal hreversal
  obtain ⟨hmem, hof⟩ := mem_reversals.mp hreversal
  cases hbefore : s.grns.get? reversal.id with
  | none => exact hnew reversal hreversal hbefore
  | some before =>
    obtain ⟨after, hafter, hfollows⟩ := hgrows.grns _ _ hbefore
    rw [Table.get?_of_mem hmem] at hafter
    obtain rfl := Option.some.inj hafter
    have hthen : before ∈ s.reversals id :=
      mem_reversals.mpr ⟨Table.mem_of_get? hbefore, hfollows.reversal.symm.trans hof⟩
    obtain ⟨row, hrow, hsame⟩ := h before hthen
    obtain ⟨row', hrow', hkept⟩ := hgrows.grns _ _ hrow
    exact ⟨row', hrow', by rw [hfollows.order, hsame, hkept.order]⟩

theorem reversals_length (db : ProcurementDb) :
    (db.reversals id).length = db.grns.rows.countP fun row => row.reversalOfId = some id := by
  rw [List.countP_eq_length_filter]
  rfl

theorem reversals_put {old new : GrnRow} (hstored : s.grns.get? old.id = some old)
    (hid : new.id = old.id) (hsame : new.reversalOfId = old.reversalOfId)
    (hgrns : s'.grns = s.grns.put new) : (s'.reversals id).length = (s.reversals id).length := by
  rw [reversals_length, reversals_length, hgrns]
  refine Table.countP_put (by rw [hid]; exact hstored) ?_
  rw [hsame]

theorem reversals_insert {new : GrnRow} (hfresh : s.grns.get? new.id = none)
    (hgrns : s'.grns = s.grns.insert new) :
    s'.reversals id = s.reversals id ++ if new.reversalOfId = some id then [new] else [] := by
  unfold ProcurementDb.reversals
  rw [hgrns, Table.rows_insert hfresh, List.filter_append, List.filter_singleton]
  by_cases hof : new.reversalOfId = some id <;> simp [hof]

/-- Where the notes stay, or none is new, no reversal is. -/
theorem not_new_of_grns (hgrns : s'.grns = s.grns) :
    (s'.reversals id).length = (s.reversals id).length ∧
      ∀ row ∈ s'.reversals id, s.grns.get? row.id ≠ none := by
  have hsame : s'.reversals id = s.reversals id := by
    unfold ProcurementDb.reversals
    rw [hgrns]
  refine ⟨congrArg _ hsame, fun row hrow => ?_⟩
  rw [hsame] at hrow
  rw [Table.get?_of_mem (mem_reversals.mp hrow).1]
  exact Option.some_ne_none row

theorem not_new_of_put {old new : GrnRow} (hstored : s.grns.get? old.id = some old)
    (hid : new.id = old.id) (hfollows : Follows old new) (hgrns : s'.grns = s.grns.put new) :
    (s'.reversals id).length = (s.reversals id).length ∧
      ∀ row ∈ s'.reversals id, s.grns.get? row.id ≠ none := by
  refine ⟨reversals_put hstored hid hfollows.reversal hgrns, fun row hrow => ?_⟩
  exact (grns_put hstored hid hfollows hgrns).2 row (mem_reversals.mp hrow).1

/-- A commit adds the first reversal of the note, or no reversal of it. -/
theorem Committed.reversing (h : Committed tolerances (readsOrderUnreversed id) s writes s')
    (hone : OfOneOrder id s) :
    (reversesNote id writes = true ∧ s.reversals id = [] ∧ (s'.reversals id).length = 1 ∧
        OfOneOrder id s') ∨
      (reversesNote id writes = false ∧ (s'.reversals id).length = (s.reversals id).length ∧
        ∀ row ∈ s'.reversals id, s.grns.get? row.id ≠ none) := by
  cases h with
  | registered receives wrote => exact .inr ⟨rfl, not_new_of_grns wrote.grns⟩
  | transitioned command stored returned unreceived written wrote =>
    refine .inr ⟨?_, not_new_of_grns wrote.grns⟩
    simp [reversesNote, appendOrderEvents, Write.savesReversal]
  | @created ctx input id' now grn row s' positive built written fresh wrote =>
    have hnone : row.reversalOfId = none := by
      obtain ⟨_, _, _, hreversal, _⟩ := PrismaGrnMapper.toRow_holds written
      exact hreversal.trans (create_built built).2.1
    have hsame := @reversals_insert s s' id row fresh wrote.grns
    rw [hnone, if_neg (by simp), List.append_nil] at hsame
    refine .inr ⟨?_, congrArg _ hsame, fun reversal hreversal => ?_⟩
    · simp [reversesNote, appendGrnEvents, Write.updatesOrder]
    · rw [hsame] at hreversal
      rw [Table.get?_of_mem (mem_reversals.mp hreversal).1]
      exact Option.some_ne_none reversal
  | changed command rewrites wrote =>
    have hhandles := command.handles rewrites.returned
    obtain ⟨hid, hfollows⟩ := rewrites.follows hhandles.reference fun hcompleted =>
      ⟨hhandles.status.mpr hcompleted, hhandles.posted hcompleted⟩
    refine .inr ⟨?_, not_new_of_put rewrites.stored hid hfollows wrote.grns⟩
    simp [reversesNote, appendGrnEvents, Write.updatesOrder]
  | posted receives order rewrites wrote =>
    obtain ⟨_, hstatus, hreference, hlines, _⟩ := complete_returned rewrites.returned
    obtain ⟨hid, hfollows⟩ := rewrites.follows hreference fun _ => ⟨hstatus, hlines⟩
    refine .inr ⟨?_, not_new_of_put rewrites.stored hid hfollows wrote.grns⟩
    simp [reversesNote, appendGrnEvents, Write.savesReversal]
  | @reversed ctx original row input id' now reversal oldOrder newOrder po s₀ s₁ s' receives order
      read completed growsRead readOrder grows met lines ofId ofOrder built written fresh wrote =>
    obtain ⟨_, hordered, hof, _, _⟩ := createReversal_built built
    obtain ⟨_, _, hrowOrder, hrowOf, _⟩ := PrismaGrnMapper.toRow_holds written
    rw [hof, ofId] at hrowOf
    rw [hordered, ofOrder] at hrowOrder
    have hreverses : reversesNote id ([Write.updateOrder ctx po] ++ [Write.saveGrn ctx reversal] ++
        appendGrnEvents ctx reversal) = decide (original.id = id) := by
      simp [reversesNote, appendGrnEvents, Write.savesReversal,
        Write.updatesOrder, hof, ofId]
    have hinserted := @reversals_insert s s' id row fresh wrote.grns
    obtain ⟨stored, hstored, hfollows⟩ := (growsRead.trans grows).grns _ _ read
    by_cases hsame : original.id = id
    · subst hsame
      have horder : oldOrder.id = stored.purchaseOrderId := order.trans hfollows.order.symm
      have hunreversed : s₁.reversals original.id = [] := met (hreverses.trans (decide_eq_true rfl))
      have hnone := no_reversal_since grows hunreversed hone hstored horder readOrder
        receives.stored
      rw [hnone, List.nil_append, if_pos hrowOf] at hinserted
      refine .inl ⟨hreverses.trans (decide_eq_true rfl), hnone, by rw [hinserted]; rfl, ?_⟩
      intro other hother
      rw [hinserted] at hother
      obtain ⟨kept, hkept, hfollows'⟩ := (grns_insert fresh wrote.grns).1 _ _ hstored
      refine ⟨kept, hkept, ?_⟩
      rw [List.mem_singleton.mp hother, hrowOrder, hfollows'.order, hfollows.order]
    · have hnot : row.reversalOfId ≠ some id := by
        rw [hrowOf]
        simpa using hsame
      rw [if_neg hnot, List.append_nil] at hinserted
      refine .inr ⟨hreverses.trans (decide_eq_false hsame), congrArg _ hinserted, ?_⟩
      intro other hother
      rw [hinserted] at hother
      rw [Table.get?_of_mem (mem_reversals.mp hother).1]
      exact Option.some_ne_none other

end Effects

section Runs

variable {wiring : Wiring} {id : String}
variable {P Q R : Pool (procurementSystem wiring)}
variable {trace : List (Label (procurementSystem wiring))} {l : Label (procurementSystem wiring)}

/-- Every reversing left one document, and there was at most one. -/
structure ReversedAtMostOnce (id : String) (trace : List (Label (procurementSystem wiring)))
    (Q : Pool (procurementSystem wiring)) : Prop where
  once : times (reversesNote id) trace ≤ 1
  documents : (ProcurementDb.reversals id Q.store).length = times (reversesNote id) trace
  ofOneOrder : OfOneOrder id Q.store

theorem ReversedAtMostOnce.of_unchanged (h : ReversedAtMostOnce id trace Q)
    (hstep : committing (reversesNote id) l = false) (hgrows : Grows Q.store R.store)
    (hnone : (ProcurementDb.reversals id R.store).length =
        (ProcurementDb.reversals id Q.store).length ∧
      ∀ row ∈ ProcurementDb.reversals id R.store, Q.store.grns.get? row.id ≠ none) :
    ReversedAtMostOnce id (trace ++ [l]) R := by
  have hsame := @times_snoc_of_not wiring trace (reversesNote id) l hstep
  refine ⟨hsame ▸ h.once, ?_, ?_⟩
  · rw [hnone.1, hsame]
    exact h.documents
  · exact h.ofOneOrder.grows hgrows fun row hrow hfresh => absurd hfresh (hnone.2 row hrow)

theorem reversedAtMostOnce_step {i : Nat} {q : ProcurementRequest} {a : q.Answer}
    {front : Front ProcurementRequest.interface} {tolerances : ℚ → Prop}
    (h : ReversedAtMostOnce id trace Q)
    (hguarantee : Guarantees tolerances (readsOrderUnreversed id) Q.store q a front R.store) :
    ReversedAtMostOnce id
      (trace ++ [(.served i q a front : Label (procurementSystem wiring))]) R := by
  cases hguarantee with
  | read reads untouched =>
    exact h.of_unchanged (committing_of_reads reads) untouched.grows
      (not_new_of_grns untouched.grns)
  | refused untouched => exact h.of_unchanged rfl untouched.grows (not_new_of_grns untouched.grns)
  | @committed writes front s' commits settled =>
    rcases commits.reversing h.ofOneOrder with ⟨hreverses, hnone, hone, hof⟩ | ⟨hreverses, hnone⟩
    · have hzero : times (reversesNote id) trace = 0 := by
        rw [← h.documents, hnone]
        rfl
      have htimes : times (reversesNote id) (trace ++
          [(.served i (.commit writes) (.ok ()) front : Label (procurementSystem wiring))]) =
            1 := by
        rw [times_snoc, hzero, if_pos (by exact hreverses)]
      exact ⟨htimes.le, hone.trans htimes.symm, hof⟩
    · exact h.of_unchanged (by exact hreverses) commits.grows hnone

/-- Where every reversal reads its order before any reversal of the note is stored, the note is
reversed at most once, and its order gives the receipt back at most once. -/
theorem grn_is_reversed_once (hrun : Run (onServed (readsOrderUnreversed id)) P trace Q)
    (hthreads : P.threads = []) (hunreversed : ProcurementDb.reversals id P.store = []) :
    (ProcurementDb.reversals id Q.store).length ≤ 1 ∧ times (reversesNote id) trace ≤ 1 := by
  have hreversed : ReversedAtMostOnce id trace Q := by
    induction hrun with
    | nil =>
      refine ⟨Nat.zero_le 1, congrArg List.length hunreversed, fun row hrow => ?_⟩
      rw [hunreversed] at hrow
      cases hrow
    | @snoc trace Q R l hrun hok hstep ih =>
      cases l with
      | start e =>
        cases hstep
        exact ih.of_unchanged rfl (.refl _) (not_new_of_grns rfl)
      | raised i q =>
        cases hstep
        exact ih.of_unchanged rfl (.refl _) (not_new_of_grns rfl)
      | served i q a front =>
        exact reversedAtMostOnce_step ih
          (guarantees_of_step covers_onServed hrun hthreads hok hstep)
  exact ⟨hreversed.documents.trans_le hreversed.once, hreversed.once⟩

open Scenario

/-- Two reversals both check before either commits, and the second reads the order after the
first: both commit, and the balance of the four posted bolts falls to minus four. -/
theorem reversed_twice : ∃ (Q : DemoPool) (trace : List (Label (procurementSystem allowing))),
    Run (fun _ _ => True) (poolOf (orderFor 10 4) [noteOf "grn" .completed 4 4 0]) trace Q ∧
      (ProcurementDb.reversals "grn" Q.store).length = 2 ∧
      times (reversesNote "grn") trace = 2 ∧ receivedOf Q = some (-4) := by
  have hplay : (((poolOf (orderFor 10 4) [noteOf "grn" .completed 4 4 0]).record (fun _ _ => True)
      (reverse "grn" "r1" 0 :: reverse "grn" "r2" 0 ::
        serve 0 2 ++ serve 1 2 ++ serve 0 2 ++ serve 1 2)).map fun r =>
      decide ((ProcurementDb.reversals "grn" r.2.store).length = 2 ∧
        times (reversesNote "grn") r.1 = 2 ∧ receivedOf r.2 = some (-4))) = some true := by
    decide +kernel
  exact Pool.record_reach hplay

/-- Two reversals that both read the order before either commits: the second is turned away. -/
theorem grn_is_reversed_once_race : ∃ Q : DemoPool, receivedOf Q = some 0 ∧
    (ProcurementDb.reversals "grn" Q.store).length ≤ 1 := by
  have hplay : (((poolOf (orderFor 10 4) [noteOf "grn" .completed 4 4 0]).play
      (onServed (readsOrderUnreversed "grn"))
      (reverse "grn" "r1" 0 :: reverse "grn" "r2" 0 ::
        serve 0 3 ++ serve 1 3 ++ serve 0 1 ++ serve 1 1)).map fun Q =>
      decide (receivedOf Q = some 0)) = some true := by
    decide +kernel
  obtain ⟨Q, trace, hrun, hreceived⟩ := Pool.play_reach hplay
  exact ⟨Q, hreceived, (grn_is_reversed_once hrun rfl (by decide)).1⟩

end Runs

end DddBoilerplate.Procurement
