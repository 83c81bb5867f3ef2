/- module: DddBoilerplate/Procurement/OrderLifecycle
   generality: I
   digest: Lifecycle events and actor trail of purchase orders over every sequence of their operations. -/

import Mathlib.Data.List.Nodup
import DddBoilerplate.Procurement.PurchaseOrder

set_option autoImplicit false
set_option relaxedAutoImplicit false
set_option linter.all false

namespace DddBoilerplate.Procurement

open Domain

/-- The operations that move an order from one status to another. -/
inductive PurchaseOrderVerb where
  | submit | approve | reject | cancel | issue | complete
  deriving DecidableEq

def PurchaseOrderVerb.target : PurchaseOrderVerb → PurchaseOrderStatus
  | submit => .submitted
  | approve => .approved
  | reject => .rejected
  | cancel => .cancelled
  | issue => .issued
  | complete => .completed

/-- The verb a lifecycle event reports. -/
def PurchaseOrderEvent.verb? : PurchaseOrderEvent → Option PurchaseOrderVerb
  | submitted _ _ _ => some .submit
  | approved _ => some .approve
  | rejected _ _ => some .reject
  | cancelled _ => some .cancel
  | issued _ => some .issue
  | completed _ => some .complete
  | created _ _ _ | lineAdded _ _ | lineRemoved _ _ | amended _ _ _ _ => none

inductive PurchaseOrderOperation where
  | submit
  | approve (actorId : Option String)
  | reject (reason : String) (actorId : Option String)
  | cancel (actorId : Option String) (hasReceipts : Bool)
  | issue (actorId : Option String)
  | complete
  | amend (changes : AmendmentInput)
  | updateHeader (input : HeaderInput)
  | addLine (productId : String) (quantity : ℚ) (unitPrice : Money)
      (descriptionSnapshot : Option String)
  | setLine (productId : String) (quantity : ℚ) (unitPrice : Money)
      (descriptionSnapshot : Option String)
  | removeLine (productId : String)

namespace PurchaseOrderOperation

def call (now : Nat) : PurchaseOrderOperation → PurchaseOrder.OrderMethod Unit
  | submit => PurchaseOrder.submit now
  | approve actorId => PurchaseOrder.approve actorId now
  | reject reason actorId => PurchaseOrder.reject reason actorId now
  | cancel actorId hasReceipts => PurchaseOrder.cancel actorId hasReceipts now
  | issue actorId => PurchaseOrder.issue actorId now
  | complete => PurchaseOrder.complete now
  | amend changes => do
    let _ ← PurchaseOrder.amend changes now
  | updateHeader input => PurchaseOrder.updateHeader input now
  | addLine productId quantity unitPrice descriptionSnapshot =>
    PurchaseOrder.addLine productId quantity unitPrice descriptionSnapshot now
  | setLine productId quantity unitPrice descriptionSnapshot => do
    let _ ← PurchaseOrder.setLine productId quantity unitPrice descriptionSnapshot now
  | removeLine productId => PurchaseOrder.removeLine productId now

/-- The operation asks for the status the order already has, and nothing else refuses it. -/
def Repeats (po : PurchaseOrder) : PurchaseOrderOperation → Prop
  | submit => po.status = .submitted
  | approve _ => po.status = .approved
  | reject _ _ => po.status = .rejected
  | cancel _ hasReceipts => po.status = .cancelled ∧ hasReceipts = false
  | issue _ => po.status = .issued
  | complete => po.status = .completed
  | _ => False

instance (po : PurchaseOrder) (operation : PurchaseOrderOperation) :
    Decidable (Repeats po operation) := by
  unfold Repeats
  split <;> infer_instance

end PurchaseOrderOperation

/-- What a verb writes besides the status: who, when and why. -/
structure TrailEntry where
  actor : Option String
  date : Option Nat
  reason : Option String
  deriving DecidableEq

namespace PurchaseOrder

/-- The actor and approval trail, by the verb that writes it. -/
def trail (po : PurchaseOrder) : PurchaseOrderVerb → TrailEntry
  | .approve => ⟨po.approvedBy, po.approvedAt, none⟩
  | .reject => ⟨po.rejectedBy, po.rejectedAt, po.rejectionReason⟩
  | .issue => ⟨po.issuedBy, none, none⟩
  | .cancel => ⟨po.cancelledBy, none, none⟩
  | .submit | .complete => ⟨none, none, none⟩

/-- The lifecycle events raised so far, in order. -/
def lifecycle (po : PurchaseOrder) : List PurchaseOrderVerb :=
  po.events.filterMap (·.verb?)

/-- How often the event of a verb was raised. -/
def raised (po : PurchaseOrder) (verb : PurchaseOrderVerb) : Nat :=
  po.lifecycle.count verb

/-- The order has reached an end of its life. -/
def IsTerminal (po : PurchaseOrder) : Prop :=
  po.status = .rejected ∨ po.status = .cancelled ∨ po.status = .completed

end PurchaseOrder

/-- The orders some sequence of operations leads to, each meeting the condition. -/
inductive OrderRun (steps : PurchaseOrder → PurchaseOrderOperation → Prop) (po : PurchaseOrder) :
    PurchaseOrder → Prop where
  | refl : OrderRun steps po po
  | step {po' : PurchaseOrder} {operation : PurchaseOrderOperation} {now : Nat} :
      OrderRun steps po po' → steps po' operation →
        OrderRun steps po ((operation.call now).after po')

/-- The lifecycle did not move. -/
structure SameLifecycle (po po' : PurchaseOrder) : Prop where
  status : po'.status = po.status
  trail : po'.trail = po.trail
  lifecycle : po'.lifecycle = po.lifecycle

/-- One transition: allowed from the status it found, written to the verb's own part of the
trail, and reported once. -/
structure Transits (verb : PurchaseOrderVerb) (po po' : PurchaseOrder) : Prop where
  allowed : po.status = verb.target ∨ verb.target ∈ po.status.allowed
  status : po'.status = verb.target
  trail : ∀ other, other ≠ verb → po'.trail other = po.trail other
  lifecycle : po'.lifecycle = po.lifecycle ++ [verb]

namespace SameLifecycle

theorem refl (po : PurchaseOrder) : SameLifecycle po po := ⟨rfl, rfl, rfl⟩

theorem trans {a b c : PurchaseOrder} (h : SameLifecycle a b) (h' : SameLifecycle b c) :
    SameLifecycle a c :=
  ⟨h'.status.trans h.status, h'.trail.trans h.trail, h'.lifecycle.trans h.lifecycle⟩

/-- An event that reports no verb is no part of the lifecycle. -/
theorem addEvent (po : PurchaseOrder) (event : PurchaseOrderEvent) (h : event.verb? = none) :
    SameLifecycle po (po.addEvent event) := by
  refine ⟨rfl, rfl, ?_⟩
  simp [PurchaseOrder.lifecycle, PurchaseOrder.addEvent, h]

theorem bind {α β : Type} {m : PurchaseOrder.OrderMethod α} {f : α → PurchaseOrder.OrderMethod β}
    (hm : Method.Keeps SameLifecycle m) (hf : ∀ a, Method.Keeps SameLifecycle (f a)) :
    Method.Keeps SameLifecycle (m >>= f) := by
  refine Method.Keeps.bind ?_ hm hf
  intro _ _ _ h h'
  exact h.trans h'

theorem enforce {α : Type} (check : Except Failure α) :
    Method.Keeps SameLifecycle (Method.enforce check : PurchaseOrder.OrderMethod α) :=
  Method.Keeps.enforce refl check

theorem this : Method.Keeps SameLifecycle (Method.this : PurchaseOrder.OrderMethod _) := refl

theorem pure {α : Type} (a : α) :
    Method.Keeps SameLifecycle (Pure.pure a : PurchaseOrder.OrderMethod α) := refl

theorem updateHeader (input : HeaderInput) (now : Nat) :
    Method.Keeps SameLifecycle (PurchaseOrder.updateHeader input now) :=
  bind (bind this fun _ => enforce _) fun _ _ => ⟨rfl, rfl, rfl⟩

theorem addLine (productId : String) (quantity : ℚ) (unitPrice : Money)
    (descriptionSnapshot : Option String) (now : Nat) :
    Method.Keeps SameLifecycle
      (PurchaseOrder.addLine productId quantity unitPrice descriptionSnapshot now) :=
  bind (bind this fun _ => enforce _) fun _ =>
    bind (enforce _) fun _ =>
      bind (fun _ => ⟨rfl, rfl, rfl⟩) fun _ po => addEvent po _ rfl

theorem setLine (productId : String) (quantity : ℚ) (unitPrice : Money)
    (descriptionSnapshot : Option String) (now : Nat) :
    Method.Keeps SameLifecycle
      (PurchaseOrder.setLine productId quantity unitPrice descriptionSnapshot now) := by
  refine bind (bind this fun _ => enforce _) fun _ => bind (enforce _) fun _ =>
    bind this fun po => ?_
  show Method.Keeps SameLifecycle (if _ then _ else _)
  split
  · exact pure false
  · exact bind (fun _ => ⟨rfl, rfl, rfl⟩) fun _ =>
      bind (fun po => addEvent po _ rfl) fun _ => pure true

theorem removeLine (productId : String) (now : Nat) :
    Method.Keeps SameLifecycle (PurchaseOrder.removeLine productId now) :=
  bind (bind this fun _ => enforce _) fun _ =>
    bind (fun _ => ⟨rfl, rfl, rfl⟩) fun _ po => addEvent po _ rfl

theorem amendPrice (price : String × ℚ) :
    Method.Keeps SameLifecycle (PurchaseOrder.amendPrice price) := by
  refine bind this fun po => ?_
  cases po.find? price.1 with
  | none => exact enforce _
  | some line =>
    exact bind (enforce _) fun _ => bind (enforce _) fun _ =>
      bind (fun _ => ⟨rfl, rfl, rfl⟩) fun _ => pure _

theorem amendPrices (prices : List (String × ℚ)) :
    Method.Keeps SameLifecycle (PurchaseOrder.amendPrices prices) := by
  induction prices with
  | nil => exact pure []
  | cons price prices ih =>
    exact bind (amendPrice price) fun _ => bind ih fun _ => pure _

theorem amendDate (date : Option (Option Nat)) :
    Method.Keeps SameLifecycle (PurchaseOrder.amendDate date) := by
  cases date with
  | none => exact pure ()
  | some date => exact fun _ => ⟨rfl, rfl, rfl⟩

theorem amendLines (prices : Option (List (String × ℚ))) :
    Method.Keeps SameLifecycle (PurchaseOrder.amendLines prices) := by
  unfold PurchaseOrder.amendLines
  split
  · exact bind (amendPrices _) fun _ => pure _
  · exact pure none

theorem amend (changes : AmendmentInput) (now : Nat) :
    Method.Keeps SameLifecycle (PurchaseOrder.amend changes now) := by
  refine bind this fun _ => bind (enforce _) fun _ => bind (enforce _) fun _ => ?_
  refine bind (amendDate _) fun _ => bind (amendLines _) fun _ => bind (enforce _) fun _ => ?_
  exact bind (fun _ => ⟨rfl, rfl, rfl⟩) fun _ => bind (fun po => addEvent po _ rfl) fun _ => pure _

end SameLifecycle

/-- A call threw before it assigned anything, or made its transition. -/
def RefusedOrTransits (verb : PurchaseOrderVerb) (po : PurchaseOrder)
    (result : Except Failure Unit × PurchaseOrder) : Prop :=
  ((∃ e, result.1 = .error e) ∧ result.2 = po) ∨ Transits verb po result.2

namespace RefusedOrTransits

variable {verb : PurchaseOrderVerb} {po : PurchaseOrder}

theorem enforce {α : Type} {check : Except Failure α} {f : α → PurchaseOrder.OrderMethod Unit}
    (hok : ∀ a, check = .ok a → RefusedOrTransits verb po (f a po)) :
    RefusedOrTransits verb po ((Method.enforce check >>= f) po) := by
  rcases Method.enforce_bind_cases check f po with ⟨e, _, h⟩ | ⟨a, hcheck, h⟩
  · rw [h]
    exact .inl ⟨⟨e, rfl⟩, rfl⟩
  · rw [h]
    exact hok a hcheck

/-- Behind the last check, the status is set, the trail written and the event raised. -/
theorem assign {write : PurchaseOrder → PurchaseOrder} {event : PurchaseOrder → PurchaseOrderEvent}
    (hallowed : po.status = verb.target ∨ verb.target ∈ po.status.allowed)
    (hstatus : (write po).status = verb.target)
    (htrail : ∀ other, other ≠ verb → (write po).trail other = po.trail other)
    (hevents : (write po).events = po.events) (hverb : (event (write po)).verb? = some verb) :
    RefusedOrTransits verb po
      ((Method.assign write >>= fun _ => Method.assign fun po => po.addEvent (event po)) po) := by
  refine .inr ⟨hallowed, hstatus, htrail, ?_⟩
  show (((write po).addEvent (event (write po))).events.filterMap (·.verb?)) = _
  unfold PurchaseOrder.addEvent PurchaseOrder.lifecycle
  rw [hevents, List.filterMap_append]
  simp [hverb]

section Methods

variable (now : Nat) (po : PurchaseOrder)

theorem submit : RefusedOrTransits .submit po (PurchaseOrder.submit now po) := by
  unfold PurchaseOrder.submit
  rw [Method.this_bind]
  refine enforce fun _ _ => enforce fun _ hok => ?_
  exact assign (require_eq_ok.mp hok) rfl (fun other hne => by cases other <;> trivial) rfl rfl

theorem approve (actorId : Option String) :
    RefusedOrTransits .approve po (PurchaseOrder.approve actorId now po) := by
  unfold PurchaseOrder.approve
  rw [Method.this_bind]
  refine enforce fun _ hok => ?_
  exact assign (require_eq_ok.mp hok) rfl (fun other hne => by cases other <;> trivial) rfl rfl

theorem reject (reason : String) (actorId : Option String) :
    RefusedOrTransits .reject po (PurchaseOrder.reject reason actorId now po) := by
  unfold PurchaseOrder.reject
  rw [Method.this_bind]
  refine enforce fun _ hok => ?_
  exact assign (require_eq_ok.mp hok) rfl (fun other hne => by cases other <;> trivial) rfl rfl

theorem cancel (actorId : Option String) (hasReceipts : Bool) :
    RefusedOrTransits .cancel po (PurchaseOrder.cancel actorId hasReceipts now po) := by
  unfold PurchaseOrder.cancel
  rw [Method.this_bind]
  refine enforce fun _ hok => enforce fun _ _ => ?_
  exact assign (require_eq_ok.mp hok) rfl (fun other hne => by cases other <;> trivial) rfl rfl

theorem issue (actorId : Option String) :
    RefusedOrTransits .issue po (PurchaseOrder.issue actorId now po) := by
  unfold PurchaseOrder.issue
  rw [Method.this_bind]
  refine enforce fun _ _ => enforce fun _ hok => ?_
  exact assign (require_eq_ok.mp hok) rfl (fun other hne => by cases other <;> trivial) rfl rfl

theorem close : RefusedOrTransits .complete po (PurchaseOrder.close now po) := by
  unfold PurchaseOrder.close
  rw [Method.this_bind]
  refine enforce fun _ hok => ?_
  exact assign (require_eq_ok.mp hok) rfl (fun other hne => by cases other <;> trivial) rfl rfl

end Methods

/-- A call that returned made its transition. -/
theorem returned {po' : PurchaseOrder} {u : Unit} (h : RefusedOrTransits verb po (.ok u, po')) :
    Transits verb po po' := by
  rcases h with ⟨⟨e, he⟩, _⟩ | htransits
  · cases he
  · exact htransits

end RefusedOrTransits

section Calls

variable {po : PurchaseOrder}

/-- A call that begins with a check throws, or the check held. -/
theorem throws_or_checked {α β : Type} {check : Except Failure α}
    {f : α → PurchaseOrder.OrderMethod β} {holds : Prop} (hcheck : ∀ a, check = .ok a → holds) :
    (∃ e, ((Method.enforce check >>= f) po).1 = .error e) ∨ holds := by
  rcases Method.enforce_bind_cases check f po with ⟨e, _, h⟩ | ⟨a, hok, _⟩
  · rw [h]
    exact .inl ⟨e, rfl⟩
  · exact .inr (hcheck a hok)

/-- What throws still throws when its value is to be dropped. -/
theorem throws_bind {α β : Type} {m : PurchaseOrder.OrderMethod α}
    {f : α → PurchaseOrder.OrderMethod β} (h : ∃ e, (m po).1 = .error e) :
    ∃ e, ((m >>= f) po).1 = .error e := by
  obtain ⟨e, he⟩ := h
  refine ⟨e, ?_⟩
  show (Method.bind m f po).1 = .error e
  unfold Method.bind
  split
  · rename_i a s' heq
    rw [heq] at he
    cases he
  · rename_i e' s' heq
    rw [heq] at he
    cases he
    rfl

/-- Lines and header change in a draft only. -/
theorem throws_or_draft {α : Type} {f : Unit → PurchaseOrder.OrderMethod α} :
    (∃ e, ((PurchaseOrder.assertEditable >>= f) po).1 = .error e) ∨ po.status = .draft :=
  throws_or_checked fun _ h => require_eq_ok.mp h

theorem amend_throws_or_issued (changes : AmendmentInput) (now : Nat) :
    (∃ e, (PurchaseOrder.amend changes now po).1 = .error e) ∨ po.status = .issued := by
  unfold PurchaseOrder.amend
  rw [Method.this_bind]
  exact throws_or_checked fun _ h => require_eq_ok.mp h

/-- The policy refuses to cancel an order with receipts. -/
theorem cancel_refused (actorId : Option String) (now : Nat) :
    (∃ e, (PurchaseOrder.cancel actorId true now po).1 = .error e) ∧
      (PurchaseOrder.cancel actorId true now po).2 = po := by
  unfold PurchaseOrder.cancel
  rw [Method.this_bind]
  rcases Method.enforce_bind_cases (purchaseOrderStatusTransition po.status .cancelled) _ po with
    ⟨e, _, h⟩ | ⟨_, _, h⟩
  · rw [h]
    exact ⟨⟨e, rfl⟩, rfl⟩
  · rw [h]
    exact ⟨⟨_, rfl⟩, rfl⟩

/-- The lifecycle did not move; the call threw, unless the order was a draft or an issued one. -/
def Stays (po : PurchaseOrder) (m : PurchaseOrder.OrderMethod Unit) : Prop :=
  SameLifecycle po (m.after po) ∧
    ((∃ e, (m po).1 = .error e) ∨ po.status = .draft ∨ po.status = .issued)

theorem RefusedOrTransits.cases {verb : PurchaseOrderVerb} {m : PurchaseOrder.OrderMethod Unit}
    {repeats : Prop} (h : RefusedOrTransits verb po (m po))
    (hrepeats : po.status = verb.target → repeats) :
    Stays po m ∨ ∃ verb, Transits verb po (m.after po) ∧ (po.status = verb.target → repeats) := by
  rcases h with ⟨herror, hsame⟩ | htransits
  · refine .inl ⟨?_, .inl herror⟩
    show SameLifecycle po (m po).2
    rw [hsame]
    exact .refl po
  · exact .inr ⟨verb, htransits, hrepeats⟩

/-- An operation leaves the lifecycle, or makes one transition; to the status the order
already has only as `Repeats` says. -/
theorem call_cases (operation : PurchaseOrderOperation) (now : Nat) (po : PurchaseOrder) :
    Stays po (operation.call now) ∨
      ∃ verb, Transits verb po ((operation.call now).after po) ∧
        (po.status = verb.target → operation.Repeats po) := by
  cases operation with
  | submit => exact (RefusedOrTransits.submit now po).cases id
  | approve actorId => exact (RefusedOrTransits.approve now po actorId).cases id
  | reject reason actorId => exact (RefusedOrTransits.reject now po reason actorId).cases id
  | cancel actorId hasReceipts =>
    cases hasReceipts with
    | false => exact (RefusedOrTransits.cancel now po actorId false).cases fun h => ⟨h, rfl⟩
    | true =>
      obtain ⟨herror, hsame⟩ := @cancel_refused po actorId now
      refine .inl ⟨?_, .inl herror⟩
      show SameLifecycle po (PurchaseOrder.cancel actorId true now po).2
      rw [hsame]
      exact .refl po
  | issue actorId => exact (RefusedOrTransits.issue now po actorId).cases id
  | complete => exact (RefusedOrTransits.close now po).cases id
  | amend changes =>
    refine .inl ⟨SameLifecycle.bind (.amend changes now) (fun _ => .pure _) po, ?_⟩
    exact (amend_throws_or_issued changes now).imp throws_bind .inr
  | updateHeader input =>
    exact .inl ⟨.updateHeader input now po, throws_or_draft.imp id .inl⟩
  | addLine productId quantity unitPrice description =>
    refine .inl ⟨.addLine productId quantity unitPrice description now po, ?_⟩
    exact throws_or_draft.imp id .inl
  | setLine productId quantity unitPrice description =>
    refine .inl ⟨SameLifecycle.bind (.setLine productId quantity unitPrice description now)
      (fun _ => .pure _) po, ?_⟩
    exact throws_or_draft.imp throws_bind .inl
  | removeLine productId =>
    exact .inl ⟨.removeLine productId now po, throws_or_draft.imp id .inl⟩

end Calls

/-- The lifecycles that lead to a status; no operation leads to the others. -/
def PurchaseOrderStatus.histories : PurchaseOrderStatus → List (List PurchaseOrderVerb)
  | draft => [[]]
  | submitted => [[.submit]]
  | approved => [[.submit, .approve]]
  | issued => [[.submit, .approve, .issue]]
  | completed => [[.submit, .approve, .issue, .complete]]
  | rejected => [[.submit, .reject]]
  | cancelled => [[.cancel], [.submit, .cancel], [.submit, .approve, .cancel]]
  | _ => []

theorem histories_nodup (status : PurchaseOrderStatus) :
    ∀ history ∈ status.histories, history.Nodup := by
  cases status <;> decide

/-- A transition that moves extends a history of the status it leaves. -/
theorem histories_append {status : PurchaseOrderStatus} {history : List PurchaseOrderVerb}
    {verb : PurchaseOrderVerb} (hhistory : history ∈ status.histories)
    (hallowed : verb.target ∈ status.allowed) : history ++ [verb] ∈ verb.target.histories := by
  cases status <;> cases verb <;>
    simp_all [PurchaseOrderStatus.histories, PurchaseOrderStatus.allowed, PurchaseOrderVerb.target]

/-- The lifecycle is a history of the status, and what no event reported was never written. -/
structure PurchaseOrder.Told (po : PurchaseOrder) : Prop where
  history : po.lifecycle ∈ po.status.histories
  unwritten : ∀ verb, verb ∉ po.lifecycle → po.trail verb = ⟨none, none, none⟩

theorem told_create {input : CreatePurchaseOrderInput} {id : String} {now : Nat}
    {po : PurchaseOrder} (h : PurchaseOrderFactory.create input id now = .ok po) : po.Told := by
  unfold PurchaseOrderFactory.create at h
  cases hcreate : purchaseOrderCreate input.orderNumber input.vendorId with
  | error e =>
    rw [hcreate] at h
    cases h
  | ok _ =>
    cases hnumber : orderNumberCreate input.orderNumber with
    | error e =>
      rw [hcreate, hnumber] at h
      cases h
    | ok _ =>
      rw [hcreate, hnumber] at h
      cases h
      exact ⟨List.mem_singleton_self _, fun verb _ => by cases verb <;> rfl⟩

theorem Transits.told {verb : PurchaseOrderVerb} {po po' : PurchaseOrder}
    (h : Transits verb po po') (htold : po.Told) (hmoves : po.status ≠ verb.target) : po'.Told := by
  have hallowed := h.allowed.resolve_left hmoves
  refine ⟨?_, fun other hother => ?_⟩
  · rw [h.lifecycle, h.status]
    exact histories_append htold.history hallowed
  · rw [h.lifecycle, List.mem_append, not_or] at hother
    have hne : other ≠ verb := by simpa using hother.2
    rw [h.trail other hne]
    exact htold.unwritten other hother.1

theorem SameLifecycle.told {po po' : PurchaseOrder} (h : SameLifecycle po po') (htold : po.Told) :
    po'.Told := by
  refine ⟨?_, ?_⟩
  · rw [h.lifecycle, h.status]
    exact htold.history
  · rw [h.lifecycle, h.trail]
    exact htold.unwritten

/-- The condition on a step: it is no repetition. -/
def NotRepeated (po : PurchaseOrder) (operation : PurchaseOrderOperation) : Prop :=
  ¬operation.Repeats po

instance (po : PurchaseOrder) (operation : PurchaseOrderOperation) :
    Decidable (NotRepeated po operation) := by
  unfold NotRepeated
  infer_instance

theorem told_call {po : PurchaseOrder} {operation : PurchaseOrderOperation} (now : Nat)
    (htold : po.Told) (h : NotRepeated po operation) : ((operation.call now).after po).Told := by
  rcases call_cases operation now po with ⟨hsame, _⟩ | ⟨verb, htransits, hrepeats⟩
  · exact hsame.told htold
  · exact htransits.told htold fun hstatus => h (hrepeats hstatus)

theorem told_of_run {po po' : PurchaseOrder} (htold : po.Told) (h : OrderRun NotRepeated po po') :
    po'.Told := by
  induction h with
  | refl => exact htold
  | step _ hstep ih => exact told_call _ ih hstep

/-- A verb that was reported stays reported, and its part of the trail is as it was. -/
def TrailKept (po po' : PurchaseOrder) : Prop :=
  ∀ verb, verb ∈ po.lifecycle → verb ∈ po'.lifecycle ∧ po'.trail verb = po.trail verb

/-- A verb that was reported is not taken again, so its part is not written again. -/
theorem trailKept_call {po : PurchaseOrder} {operation : PurchaseOrderOperation} (now : Nat)
    (htold : po.Told) (h : NotRepeated po operation) :
    TrailKept po ((operation.call now).after po) := by
  intro verb hverb
  rcases call_cases operation now po with ⟨hsame, _⟩ | ⟨taken, htransits, hrepeats⟩
  · rw [hsame.lifecycle, hsame.trail]
    exact ⟨hverb, rfl⟩
  · have hmoves : po.status ≠ taken.target := fun hstatus => h (hrepeats hstatus)
    have hnodup := histories_nodup _ _ (htransits.told htold hmoves).history
    rw [htransits.lifecycle] at hnodup
    have hne : verb ≠ taken := by
      intro heq
      subst heq
      exact List.disjoint_of_nodup_append hnodup hverb (List.mem_singleton_self _)
    rw [htransits.lifecycle, htransits.trail verb hne]
    exact ⟨List.mem_append_left _ hverb, rfl⟩

theorem trailKept_of_run {po po' : PurchaseOrder} (htold : po.Told)
    (h : OrderRun NotRepeated po po') : TrailKept po po' := by
  induction h with
  | refl => exact fun _ hverb => ⟨hverb, rfl⟩
  | step hrun hstep ih =>
    intro verb hverb
    obtain ⟨hmem, hsame⟩ := ih verb hverb
    obtain ⟨hmem', hsame'⟩ := trailKept_call _ (told_of_run htold hrun) hstep verb hmem
    exact ⟨hmem', hsame'.trans hsame⟩

/-- An order at an end of its life refuses every operation and stays as it is. -/
theorem throws_of_terminal {po : PurchaseOrder} {operation : PurchaseOrderOperation} (now : Nat)
    (hterminal : po.IsTerminal) (h : NotRepeated po operation) :
    ¬(operation.call now).Returns po ∧ SameLifecycle po ((operation.call now).after po) := by
  rcases call_cases operation now po with ⟨hsame, herror⟩ | ⟨verb, htransits, hrepeats⟩
  · refine ⟨?_, hsame⟩
    have hopen : ¬(po.status = .draft ∨ po.status = .issued) := by
      rcases hterminal with hs | hs | hs <;> rw [hs] <;> decide
    obtain ⟨e, he⟩ := herror.resolve_right hopen
    rintro ⟨u, hu⟩
    rw [he] at hu
    cases hu
  · have hallowed := htransits.allowed.resolve_left fun hstatus => h (hrepeats hstatus)
    rcases hterminal with hs | hs | hs <;> rw [hs] at hallowed <;> cases hallowed

/-- From its creation on, over operations none of which repeats a transition: each lifecycle
event is raised at most once, an ended order refuses everything, and the trail is written once. -/
theorem order_lifecycle_is_unique {input : CreatePurchaseOrderInput} {id : String} {now : Nat}
    {created po : PurchaseOrder} (hcreate : PurchaseOrderFactory.create input id now = .ok created)
    (hrun : OrderRun NotRepeated created po) :
    (∀ verb, po.raised verb ≤ 1) ∧
      (po.IsTerminal → ∀ operation now, NotRepeated po operation →
        ¬(operation.call now).Returns po ∧ ((operation.call now).after po).status = po.status ∧
          ((operation.call now).after po).trail = po.trail) ∧
      ∀ po', OrderRun NotRepeated po po' → ∀ verb,
        po.raised verb ≠ 0 ∨ po.trail verb ≠ ⟨none, none, none⟩ →
          po'.trail verb = po.trail verb := by
  have htold := told_of_run (told_create hcreate) hrun
  refine ⟨fun verb => ?_, fun hterminal operation now hop => ?_, fun po' hrun' verb hwritten => ?_⟩
  · exact List.nodup_iff_count_le_one.mp (histories_nodup _ _ htold.history) verb
  · obtain ⟨hthrows, hsame⟩ := throws_of_terminal now hterminal hop
    exact ⟨hthrows, hsame.status, hsame.trail⟩
  · refine (trailKept_of_run htold hrun' verb ?_).2
    by_contra hmem
    rcases hwritten with hraised | htrail
    · exact hraised (List.count_eq_zero.mpr hmem)
    · exact htrail (htold.unwritten verb hmem)

/-- An order as a request creates it. -/
def orderInput : CreatePurchaseOrderInput where
  orderNumber := "PO-00000001"
  vendorId := "vendor"
  currency := none
  externalReference := none
  orderDate := none
  expectedDeliveryDate := none
  createdBy := none

/-- Cancelled by one, then by another: the second call returns, overwrites who cancelled and
raises the event again. -/
theorem cancelled_twice :
    ∃ created, PurchaseOrderFactory.create orderInput "po" 0 = .ok created ∧
      ∃ first second, OrderRun (fun _ _ => True) created first ∧
        OrderRun (fun _ _ => True) first second ∧ first.IsTerminal ∧
        ((PurchaseOrderOperation.cancel (some "ben") false).call 2).Returns first ∧
        first.cancelledBy = some "ann" ∧ second.cancelledBy = some "ben" ∧
        second.raised .cancel = 2 :=
  ⟨_, rfl, _, _, @OrderRun.step _ _ _ (.cancel (some "ann") false) 1 .refl trivial,
    @OrderRun.step _ _ _ (.cancel (some "ben") false) 2 .refl trivial,
    .inr (.inl rfl), ⟨(), rfl⟩, rfl, rfl, by decide⟩

theorem order_lifecycle_is_unique_cancel :
    ∃ created, PurchaseOrderFactory.create orderInput "po" 0 = .ok created ∧
      ∀ verb, (((PurchaseOrderOperation.cancel (some "ann") false).call 1).after created).raised
        verb ≤ 1 :=
  ⟨_, rfl, (@order_lifecycle_is_unique orderInput "po" 0 _ _ rfl
    (@OrderRun.step _ _ _ (.cancel (some "ann") false) 1 .refl (by decide))).1⟩

end DddBoilerplate.Procurement
