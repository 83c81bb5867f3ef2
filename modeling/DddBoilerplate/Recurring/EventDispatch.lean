/- module: DddBoilerplate/Recurring/EventDispatch
   generality: I
   digest: The templates an event on the bus fires, and when they keep to its tenant. -/

import Mathlib.Data.List.Induction
import Mathlib.Data.List.Nodup
import DddBoilerplate.Recurring.Firing

set_option autoImplicit false
set_option relaxedAutoImplicit false
set_option linter.all false

namespace DddBoilerplate.Recurring

/-- What the dispatcher reads of the envelope of an event; its payload is kept as its text. -/
structure MessageEnvelope where
  eventId : String
  eventType : String
  tenantId : Option String
  payload : String
  deriving DecidableEq

/-- A delivery of an event on the bus, with what the firing of each template meets. -/
structure Delivery where
  envelope : MessageEnvelope
  meets : String → Surroundings

/-- A call of the handler for a template that was found. -/
structure EventFiring where
  template : RecurringTemplate
  delivery : Delivery

section Dispatcher

def RecurringTemplate.listensTo (template : RecurringTemplate) (eventName : String) : Bool :=
  template.eventName = some eventName ∧ template.status = .active

/-- `RecurringTemplateRepositoryPort.findActiveByEventName`; without a tenant it looks through the
templates of all of them. -/
def findActiveByEventName (templates : List RecurringTemplate) (eventName : String)
    (tenantId : Option String) : List RecurringTemplate :=
  templates.filter fun template =>
    template.listensTo eventName && tenantId.all (template.tenantId = some ·)

namespace EventFiring

def eventId (firing : EventFiring) : String := firing.delivery.envelope.eventId

def payload (firing : EventFiring) : ScheduledJobPayload where
  jobId := none
  tenantId := firing.template.tenantId
  aggregateId := some firing.template.id
  sourceEventId := some firing.eventId
  eventPayload := some firing.delivery.envelope.payload

def surroundings (firing : EventFiring) : Surroundings := firing.delivery.meets firing.template.id

/-- The firing is for an event and a template. -/
def isFor (templateId eventId : String) (firing : EventFiring) : Bool :=
  firing.template.id = templateId ∧ firing.eventId = eventId

/-- Nothing keeps the firing from asking for a document. -/
def Asks (firing : EventFiring) : Prop :=
  (firing.template.generationCondition = none ∨
    ∃ evaluated, firing.surroundings.evaluation = .ok (true, evaluated)) ∧
  firing.surroundings.appending = .ok ()

end EventFiring

/-- `DomainEventDispatcher.onEvent`: the calls of the handler it makes. -/
def onEvent (templates : List RecurringTemplate) (delivery : Delivery) : List EventFiring :=
  (findActiveByEventName templates delivery.envelope.eventType none).map (⟨·, delivery⟩)

variable (dayjs : Dayjs)

/-- What a firing does to a template and its rows. -/
def receive (s : RecurringState) (firing : EventFiring) : RecurringState :=
  if s.template.any (·.id = firing.template.id) then
    attempt s (handle dayjs s firing.payload firing.surroundings)
  else s

/-- What a firing does to the templates and their rows. -/
def fireAll (tables : List RecurringState) (firing : EventFiring) : List RecurringState :=
  tables.map (receive dayjs · firing)

end Dispatcher

/-- The templates with an EVENT trigger, of all tenants. -/
structure EventTemplates where
  rows : List RecurringTemplate
  identified : ∀ template ∈ rows, template.id ≠ ""
  distinct : (rows.map (·.id)).Nodup
  triggered : ∀ template ∈ rows, template.triggerType = .event

/-- The tables before any event. -/
def EventTemplates.tables (templates : EventTemplates) : List RecurringState :=
  templates.rows.map fun template => ⟨some template, [], [], []⟩

/-- Deliveries of events, the same one several times perhaps, and the firings they lead to: the
handlers of two deliveries may overlap, so they stand in any order. -/
structure Traffic (templates : EventTemplates) where
  deliveries : List Delivery
  sameEvent : ∀ delivery ∈ deliveries, ∀ other ∈ deliveries,
    delivery.envelope.eventId = other.envelope.eventId → delivery.envelope = other.envelope
  firings : List EventFiring
  dispatched : firings.Perm (deliveries.flatMap (onEvent templates.rows))

section Statement

variable (dayjs : Dayjs)

def generated (templates : EventTemplates) (firings : List EventFiring) : List RecurringState :=
  firings.foldl (fireAll dayjs) templates.tables

def executionsOf (tenantId : String) (tables : List RecurringState) : List RecurringExecution :=
  tables.flatMap fun s => s.executions.filter (·.tenantId = some tenantId)

/-- Event-triggered generation stays in its tenant and happens once. -/
structure StaysInTenant (templates : EventTemplates) (traffic : Traffic templates) : Prop where
  exact : ∀ s ∈ generated dayjs templates traffic.firings,
    ∀ template, s.template = some template → ∀ eventId,
      (∃ execution ∈ s.executions, execution.triggerKey = eventId) ↔
      ∃ delivery ∈ traffic.deliveries, delivery.envelope.eventId = eventId ∧
        template.listensTo delivery.envelope.eventType = true ∧
        (template.tenantId = none ∨ template.tenantId = delivery.envelope.tenantId)
  once : ∀ s ∈ generated dayjs templates traffic.firings,
    (s.executions.map (·.triggerKey)).Nodup
  carries : ∀ s ∈ generated dayjs templates traffic.firings, ∀ request ∈ s.requested,
    ∀ delivery ∈ traffic.deliveries, delivery.envelope.eventId = request.triggerKey →
      request.tenantId = delivery.envelope.tenantId
  isolated : ∀ tenantId other : String, tenantId ≠ other →
    executionsOf other (generated dayjs templates traffic.firings) =
      executionsOf other (generated dayjs templates
        (traffic.firings.filter fun firing => firing.delivery.envelope.tenantId ≠ some tenantId))

/-- The first firing of a template for an event. -/
def First (firings : List EventFiring) (firing : EventFiring) : Prop :=
  firings.find? (EventFiring.isFor firing.template.id firing.eventId) = some firing

/-- An event finds templates of its own tenant only, or some without a tenant that do not ask for
a document. -/
def FindsItsOwn (firings : List EventFiring) : Prop :=
  ∀ firing, First firings firing →
    firing.template.tenantId = firing.delivery.envelope.tenantId ∨
      firing.template.tenantId = none ∧ ¬ firing.Asks

end Statement

section Firings

variable {dayjs : Dayjs} {s : RecurringState} {template : RecurringTemplate}
variable {firing : EventFiring} {firings : List EventFiring}

/-- The dispatcher gives the handler the template's own tenant, so it is never refused. -/
theorem admitted_payload (htemplate : s.template = some firing.template)
    (hid : firing.template.id ≠ "") : admitted s firing.payload = .ok firing.template := by
  have haggregate : firing.payload.aggregateId.getD "" = firing.template.id := rfl
  have hfound : s.template.filter (·.id = firing.template.id) = some firing.template := by
    rw [htemplate, Option.filter_some, if_pos (by simp)]
  have hpayload : firing.payload.tenantId = firing.template.tenantId := rfl
  simp only [admitted, haggregate, hfound, hpayload]
  cases htenant : firing.template.tenantId with
  | none => rfl
  | some tenantId => simp only [ne_eq, not_true_eq_false, and_false, if_false]

/-- A template of an event is not rescheduled. -/
theorem reschedule_event {today : Date} (h : template.triggerType = .event) :
    reschedule dayjs s template today = .ok s := by
  simp only [reschedule, h]

/-- What a firing of an active template adds to its rows. -/
def EventFiring.record (firing : EventFiring) (s : RecurringState) : RecurringState :=
  if s.executions.any (·.triggerKey = firing.eventId) then s
  else
    let settled := settle firing.template firing.payload firing.eventId firing.surroundings
    { s with
      executions := s.executions ++ [settled.1]
      requested := s.requested ++ settled.2 }

theorem handle_event (htemplate : s.template = some firing.template)
    (hid : firing.template.id ≠ "") (hevent : firing.template.triggerType = .event)
    (hactive : firing.template.status = .active) :
    handle dayjs s firing.payload firing.surroundings = .ok (firing.record s) := by
  have hkey : triggerKey firing.template firing.payload = .ok firing.eventId := rfl
  have hadmitted := admitted_payload htemplate hid
  simp only [handle, hadmitted, hkey, bind, Except.bind, pure, Except.pure, hactive, ne_eq,
    not_true_eq_false, if_false, reschedule_event hevent, EventFiring.record]
  split
  · rfl
  · rfl

/-- A firing of another template leaves the rows of this one. -/
theorem receive_other (htemplate : s.template = some template)
    (hother : template.id ≠ firing.template.id) : receive dayjs s firing = s := by
  have hnone : s.template.any (·.id = firing.template.id) = false := by
    simp [htemplate, hother]
  rw [receive, hnone]
  rfl

theorem receive_own (htemplate : s.template = some firing.template)
    (hid : firing.template.id ≠ "") (hevent : firing.template.triggerType = .event)
    (hactive : firing.template.status = .active) : receive dayjs s firing = firing.record s := by
  have hown : s.template.any (·.id = firing.template.id) = true := by simp [htemplate]
  rw [receive, if_pos hown, handle_event htemplate hid hevent hactive]
  rfl

theorem tenantId_orElse_self (tenantId : Option String) :
    (tenantId.orElse fun _ => tenantId) = tenantId := by
  cases tenantId with
  | none => rfl
  | some tenantId => rfl

/-- The execution a firing claims has the key of its event and the tenant of its template. -/
theorem settle_execution (firing : EventFiring) :
    let settled := settle firing.template firing.payload firing.eventId firing.surroundings
    settled.1.triggerKey = firing.eventId ∧ settled.1.tenantId = firing.template.tenantId := by
  have htenant := tenantId_orElse_self firing.template.tenantId
  simp only [settle]
  split
  · cases firing.surroundings.appending with
    | ok u => exact ⟨rfl, htenant⟩
    | error message => exact ⟨rfl, htenant⟩
  · split
    · cases firing.surroundings.appending with
      | ok u => exact ⟨rfl, htenant⟩
      | error message => exact ⟨rfl, htenant⟩
    · exact ⟨rfl, htenant⟩
    · exact ⟨rfl, htenant⟩

/-- A firing asks for a document if nothing keeps it from it, in the tenant of its template. -/
theorem mem_settle_requested (firing : EventFiring) (request : OccurrenceRequested) :
    request ∈ (settle firing.template firing.payload firing.eventId firing.surroundings).2 ↔
      firing.Asks ∧ request =
        occurrenceRequested firing.template firing.payload firing.eventId firing.surroundings := by
  simp only [settle, EventFiring.Asks]
  cases hcondition : firing.template.generationCondition with
  | none =>
    cases happending : firing.surroundings.appending with
    | ok u => simp
    | error message => simp
  | some condition =>
    cases hevaluation : firing.surroundings.evaluation with
    | error message => simp
    | ok evaluated =>
      obtain ⟨passed, values⟩ := evaluated
      cases passed with
      | false => simp
      | true =>
        cases happending : firing.surroundings.appending with
        | ok u => simp
        | error message => simp

end Firings

section Series

variable (dayjs : Dayjs)

/-- The rows of a template after some firings. -/
def series (template : RecurringTemplate) (firings : List EventFiring) : RecurringState :=
  firings.foldl (receive dayjs) ⟨some template, [], [], []⟩

theorem series_snoc (template : RecurringTemplate) (firings : List EventFiring)
    (firing : EventFiring) :
    series dayjs template (firings ++ [firing]) =
      receive dayjs (series dayjs template firings) firing := by
  simp [series]

theorem foldl_fireAll (firings : List EventFiring) (tables : List RecurringState) :
    firings.foldl (fireAll dayjs) tables =
      tables.map fun s => firings.foldl (receive dayjs) s := by
  induction firings generalizing tables with
  | nil => simp
  | cons firing firings ih =>
    simp only [List.foldl_cons, ih, fireAll, List.map_map]
    rfl

/-- The templates do not meet: each has the rows its own firings lead to. -/
theorem generated_eq (templates : EventTemplates) (firings : List EventFiring) :
    generated dayjs templates firings =
      templates.rows.map fun template => series dayjs template firings := by
  rw [generated, foldl_fireAll, EventTemplates.tables, List.map_map]
  rfl

/-- What the rows of a template are after some firings: an execution for each event, and the
request of the first firing for it. -/
structure Recorded (template : RecurringTemplate) (firings : List EventFiring)
    (s : RecurringState) : Prop where
  owner : s.template = some template
  keys : ∀ eventId, s.executions.any (·.triggerKey = eventId) =
    firings.any (EventFiring.isFor template.id eventId)
  once : (s.executions.map (·.triggerKey)).Nodup
  tenants : ∀ execution ∈ s.executions, execution.tenantId = template.tenantId
  requests : ∀ request, request ∈ s.requested ↔ ∃ firing,
    firings.find? (EventFiring.isFor template.id request.triggerKey) = some firing ∧
      firing.Asks ∧ request =
        occurrenceRequested firing.template firing.payload firing.eventId firing.surroundings

variable {dayjs} {template : RecurringTemplate} {firings : List EventFiring}
variable {firing : EventFiring} {s : RecurringState}

theorem recorded_nil : Recorded template [] ⟨some template, [], [], []⟩ where
  owner := rfl
  keys _ := rfl
  once := List.nodup_nil
  tenants := by simp
  requests := by simp

theorem isFor_iff {templateId eventId : String} :
    firing.isFor templateId eventId = true ↔
      firing.template.id = templateId ∧ firing.eventId = eventId := by
  simp [EventFiring.isFor]

/-- A firing that is not the first for its event changes none of them. -/
theorem find?_snoc_of_ne {p : EventFiring → Bool} (h : p firing = false) :
    (firings ++ [firing]).find? p = firings.find? p := by
  rw [List.find?_append, List.find?_cons_of_neg (by simp [h]), List.find?_nil, Option.or_none]

theorem Recorded.other (h : Recorded template firings s)
    (hother : template.id ≠ firing.template.id) :
    Recorded template (firings ++ [firing]) (receive dayjs s firing) := by
  have hnot : ∀ eventId, firing.isFor template.id eventId = false := by
    intro eventId
    rw [Bool.eq_false_iff, ne_eq, isFor_iff]
    rintro ⟨hid, _⟩
    exact hother hid.symm
  rw [receive_other h.owner hother]
  refine ⟨h.owner, ?_, h.once, h.tenants, ?_⟩
  · intro eventId
    rw [List.any_append, h.keys]
    simp [hnot]
  · intro request
    rw [find?_snoc_of_ne (hnot _)]
    exact h.requests request

/-- The event has been seen: nothing changes. -/
theorem Recorded.repeated (h : Recorded firing.template firings s)
    (hclaimed : s.executions.any (·.triggerKey = firing.eventId) = true) :
    Recorded firing.template (firings ++ [firing]) (firing.record s) := by
  have hseen : firings.any (EventFiring.isFor firing.template.id firing.eventId) = true := by
    rw [← h.keys]
    exact hclaimed
  rw [EventFiring.record, if_pos hclaimed]
  refine ⟨h.owner, ?_, h.once, h.tenants, ?_⟩
  · intro eventId
    rw [h.keys, List.any_append]
    by_cases hsame : firing.eventId = eventId
    · subst hsame
      rw [hseen, Bool.true_or]
    · have hnot : firing.isFor firing.template.id eventId = false := by
        simp [EventFiring.isFor, hsame]
      simp [hnot]
  · intro request
    rw [h.requests, List.find?_append]
    by_cases hsame : firing.eventId = request.triggerKey
    · rw [← hsame]
      obtain ⟨first, hfirst⟩ := Option.isSome_iff_exists.mp (List.find?_isSome.mpr
        (List.any_eq_true.mp hseen))
      rw [hfirst, Option.some_or]
    · have hnot : firing.isFor firing.template.id request.triggerKey = false := by
        simp [EventFiring.isFor, hsame]
      rw [List.find?_cons_of_neg (by simp [hnot]), List.find?_nil, Option.or_none]

/-- The event is new: its execution is claimed, and its document asked for. -/
theorem Recorded.new (h : Recorded firing.template firings s)
    (hfree : s.executions.any (·.triggerKey = firing.eventId) = false) :
    Recorded firing.template (firings ++ [firing]) (firing.record s) := by
  obtain ⟨hkey, htenant⟩ := settle_execution firing
  have hunseen : firings.any (EventFiring.isFor firing.template.id firing.eventId) = false := by
    rw [← h.keys]
    exact hfree
  rw [EventFiring.record, if_neg (by rw [hfree]; exact Bool.false_ne_true)]
  refine ⟨h.owner, ?_, ?_, ?_, ?_⟩
  · intro eventId
    have hisFor : firing.isFor firing.template.id eventId = decide (firing.eventId = eventId) := by
      simp [EventFiring.isFor]
    simp only [List.any_append, List.any_cons, List.any_nil, Bool.or_false, h.keys, hkey, hisFor]
  · rw [List.map_append, List.nodup_append]
    refine ⟨h.once, by simp, ?_⟩
    intro key hmem key' hmem'
    obtain ⟨execution, hexecution, rfl⟩ := List.mem_map.mp hmem
    simp only [List.map_cons, List.map_nil, List.mem_singleton] at hmem'
    rw [hmem', hkey]
    intro hsame
    have hany : s.executions.any (·.triggerKey = firing.eventId) = true :=
      List.any_eq_true.mpr ⟨execution, hexecution, decide_eq_true hsame⟩
    rw [hfree] at hany
    exact Bool.false_ne_true hany
  · intro execution hmem
    rcases List.mem_append.mp hmem with hmem | hmem
    · exact h.tenants execution hmem
    · rw [List.mem_singleton.mp hmem]
      exact htenant
  · intro request
    rw [List.mem_append, h.requests, mem_settle_requested, List.find?_append]
    by_cases hsame : firing.eventId = request.triggerKey
    · have hnone : firings.find? (EventFiring.isFor firing.template.id request.triggerKey) =
          none := by
        rw [List.find?_eq_none]
        intro earlier hearlier hfor
        rw [← hsame] at hfor
        have hany : firings.any (EventFiring.isFor firing.template.id firing.eventId) = true :=
          List.any_eq_true.mpr ⟨earlier, hearlier, hfor⟩
        rw [hunseen] at hany
        exact Bool.false_ne_true hany
      have hfor : firing.isFor firing.template.id request.triggerKey = true :=
        isFor_iff.mpr ⟨rfl, hsame⟩
      rw [hnone, Option.none_or, List.find?_cons_of_pos hfor]
      constructor
      · rintro (⟨_, hnothing, _⟩ | hasks)
        · cases hnothing
        · exact ⟨firing, rfl, hasks⟩
      · rintro ⟨first, hfirst, hasks⟩
        obtain rfl := Option.some.inj hfirst
        exact .inr hasks
    · have hnot : firing.isFor firing.template.id request.triggerKey = false := by
        simp [EventFiring.isFor, hsame]
      rw [List.find?_cons_of_neg (by simp [hnot]), List.find?_nil, Option.or_none]
      constructor
      · rintro (hearlier | ⟨_, hrequest⟩)
        · exact hearlier
        · refine absurd ?_ hsame
          rw [hrequest]
          rfl
      · exact .inl

/-- The firings are of templates of the table that listen to their event. -/
def Dispatches (templates : EventTemplates) (firings : List EventFiring) : Prop :=
  ∀ firing ∈ firings, firing.template ∈ templates.rows ∧
    firing.template.listensTo firing.delivery.envelope.eventType = true

theorem eq_of_id {templates : EventTemplates} {other : RecurringTemplate}
    (h : template ∈ templates.rows) (hother : other ∈ templates.rows)
    (hid : template.id = other.id) : template = other :=
  List.inj_on_of_nodup_map templates.distinct h hother hid

theorem recorded_series {templates : EventTemplates} (h : template ∈ templates.rows)
    (hfirings : Dispatches templates firings) :
    Recorded template firings (series dayjs template firings) := by
  induction firings using List.reverseRecOn with
  | nil => exact recorded_nil
  | append_singleton firings firing ih =>
    have hrecorded := ih fun earlier hearlier =>
      hfirings earlier (List.mem_append_left _ hearlier)
    obtain ⟨hrow, hlistens⟩ := hfirings firing (by simp)
    rw [series_snoc]
    by_cases hid : template.id = firing.template.id
    · obtain rfl := eq_of_id h hrow hid
      have hactive : firing.template.status = .active := by
        simp only [RecurringTemplate.listensTo, decide_eq_true_eq] at hlistens
        exact hlistens.2
      rw [receive_own hrecorded.owner (templates.identified _ h) (templates.triggered _ h) hactive]
      by_cases hclaimed : (series dayjs firing.template firings).executions.any
          (·.triggerKey = firing.eventId) = true
      · exact hrecorded.repeated hclaimed
      · exact hrecorded.new (Bool.eq_false_iff.mpr hclaimed)
    · exact hrecorded.other hid

end Series

section Tenancy

variable {dayjs : Dayjs} {templates : EventTemplates} {traffic : Traffic templates}
variable {template : RecurringTemplate} {firing : EventFiring} {firings : List EventFiring}

theorem mem_onEvent {rows : List RecurringTemplate} {delivery : Delivery} :
    firing ∈ onEvent rows delivery ↔ firing.delivery = delivery ∧ firing.template ∈ rows ∧
      firing.template.listensTo delivery.envelope.eventType = true := by
  simp only [onEvent, findActiveByEventName, Option.all_none, Bool.and_true, List.mem_map,
    List.mem_filter]
  constructor
  · rintro ⟨template, ⟨hrow, hlistens⟩, rfl⟩
    exact ⟨rfl, hrow, hlistens⟩
  · rintro ⟨rfl, hrow, hlistens⟩
    exact ⟨firing.template, ⟨hrow, hlistens⟩, rfl⟩

/-- A delivery fires each template that listens to it, and no others are fired. -/
theorem mem_firings : firing ∈ traffic.firings ↔ firing.delivery ∈ traffic.deliveries ∧
    firing.template ∈ templates.rows ∧
    firing.template.listensTo firing.delivery.envelope.eventType = true := by
  rw [traffic.dispatched.mem_iff, List.mem_flatMap]
  constructor
  · rintro ⟨delivery, hdelivery, hfired⟩
    obtain ⟨rfl, hrow, hlistens⟩ := mem_onEvent.mp hfired
    exact ⟨hdelivery, hrow, hlistens⟩
  · rintro ⟨hdelivery, hrow, hlistens⟩
    exact ⟨firing.delivery, hdelivery, mem_onEvent.mpr ⟨rfl, hrow, hlistens⟩⟩

theorem dispatches_traffic (traffic : Traffic templates) :
    Dispatches templates traffic.firings := by
  intro firing hfiring
  exact (mem_firings.mp hfiring).2

theorem mem_of_first (h : First firings firing) : firing ∈ firings := List.mem_of_find?_eq_some h

theorem first_of_find? {templateId eventId : String}
    (h : firings.find? (EventFiring.isFor templateId eventId) = some firing) :
    First firings firing ∧ firing.template.id = templateId ∧ firing.eventId = eventId := by
  obtain ⟨rfl, rfl⟩ := isFor_iff.mp (List.find?_some h)
  exact ⟨h, rfl, rfl⟩

theorem exists_first (h : firing ∈ firings) : ∃ first, First firings first ∧
    first.template.id = firing.template.id ∧ first.eventId = firing.eventId := by
  have hsome : (firings.find? (EventFiring.isFor firing.template.id firing.eventId)).isSome :=
    List.find?_isSome.mpr ⟨firing, h, isFor_iff.mpr ⟨rfl, rfl⟩⟩
  obtain ⟨first, hfirst⟩ := Option.isSome_iff_exists.mp hsome
  exact ⟨first, first_of_find? hfirst⟩

/-- Firings for one event and one template agree on the template and on the event. -/
theorem same_of_keys {other : EventFiring} (h : firing ∈ traffic.firings)
    (hother : other ∈ traffic.firings) (hid : firing.template.id = other.template.id)
    (hevent : firing.eventId = other.eventId) :
    firing.template = other.template ∧ firing.delivery.envelope = other.delivery.envelope := by
  obtain ⟨hdelivery, hrow, _⟩ := mem_firings.mp h
  obtain ⟨hdelivery', hrow', _⟩ := mem_firings.mp hother
  exact ⟨eq_of_id hrow hrow' hid, traffic.sameEvent _ hdelivery _ hdelivery' hevent⟩

theorem mem_generated {s : RecurringState} (h : s ∈ generated dayjs templates firings) :
    ∃ template ∈ templates.rows, s = series dayjs template firings := by
  rw [generated_eq] at h
  obtain ⟨template, hrow, rfl⟩ := List.mem_map.mp h
  exact ⟨template, hrow, rfl⟩

/-- A template has an execution for each event it has been fired for. -/
theorem claimed_iff (hrow : template ∈ templates.rows) (hfirings : Dispatches templates firings)
    (eventId : String) :
    (∃ execution ∈ (series dayjs template firings).executions,
      execution.triggerKey = eventId) ↔
    ∃ firing ∈ firings, firing.template = template ∧ firing.eventId = eventId := by
  have hkeys := (@recorded_series dayjs template firings templates hrow hfirings).keys eventId
  have hany : (∃ execution ∈ (series dayjs template firings).executions,
      execution.triggerKey = eventId) ↔
      firings.any (EventFiring.isFor template.id eventId) = true := by
    rw [← hkeys]
    simp
  rw [hany, List.any_eq_true]
  constructor
  · rintro ⟨firing, hfiring, hfor⟩
    obtain ⟨hid, hevent⟩ := isFor_iff.mp hfor
    exact ⟨firing, hfiring, eq_of_id (hfirings firing hfiring).1 hrow hid, hevent⟩
  · rintro ⟨firing, hfiring, rfl, hevent⟩
    exact ⟨firing, hfiring, isFor_iff.mpr ⟨rfl, hevent⟩⟩

/-- The templates an event finds of another tenant are none. -/
theorem tenant_of_findsItsOwn (h : FindsItsOwn traffic.firings)
    (hfiring : firing ∈ traffic.firings) : firing.template.tenantId = none ∨
      firing.template.tenantId = firing.delivery.envelope.tenantId := by
  obtain ⟨first, hfirst, hid, hevent⟩ := exists_first hfiring
  obtain ⟨htemplate, henvelope⟩ := same_of_keys (mem_of_first hfirst) hfiring hid hevent
  rw [← htemplate, ← henvelope]
  rcases h first hfirst with htenant | ⟨hnone, _⟩
  · exact .inr htenant
  · exact .inl hnone

theorem series_filter {p : EventFiring → Bool} (hrow : template ∈ templates.rows)
    (hfirings : Dispatches templates firings)
    (hkept : ∀ firing ∈ firings, firing.template = template → p firing = true) :
    series dayjs template (firings.filter p) = series dayjs template firings := by
  induction firings using List.reverseRecOn with
  | nil => rfl
  | append_singleton firings firing ih =>
    have hearlier : Dispatches templates firings := fun earlier hmem =>
      hfirings earlier (List.mem_append_left _ hmem)
    have hseries := ih hearlier fun earlier hmem => hkept earlier (List.mem_append_left _ hmem)
    rw [List.filter_append, series_snoc, ← hseries]
    cases hp : p firing with
    | true => rw [List.filter_cons_of_pos hp, List.filter_nil, series_snoc]
    | false =>
      have hother : template.id ≠ firing.template.id := by
        intro hid
        have hsame := eq_of_id hrow (hfirings firing (by simp)).1 hid
        rw [hkept firing (by simp) hsame.symm] at hp
        cases hp
      have howner := (@recorded_series dayjs template firings templates hrow hearlier).owner
      rw [← hseries] at howner
      rw [List.filter_cons_of_neg (by simp [hp]), List.filter_nil, List.append_nil,
        receive_other howner hother]

/-- The executions of a tenant are those of the tenant's templates. -/
theorem executionsOf_generated (tenantId : String) (hfirings : Dispatches templates firings) :
    executionsOf tenantId (generated dayjs templates firings) =
      templates.rows.flatMap fun template =>
        if template.tenantId = some tenantId then (series dayjs template firings).executions
        else [] := by
  rw [executionsOf, generated_eq, List.flatMap_map]
  refine List.flatMap_congr fun template hrow => ?_
  have htenants := (@recorded_series dayjs template firings templates hrow hfirings).tenants
  split
  · rename_i htenant
    rw [List.filter_eq_self]
    intro execution hexecution
    rw [htenants execution hexecution]
    exact decide_eq_true htenant
  · rename_i htenant
    rw [List.filter_eq_nil_iff]
    intro execution hexecution
    rw [htenants execution hexecution]
    simpa using htenant

theorem isolated_of_findsItsOwn (h : FindsItsOwn traffic.firings) {tenantId other : String}
    (hother : tenantId ≠ other) :
    executionsOf other (generated dayjs templates traffic.firings) =
      executionsOf other (generated dayjs templates (traffic.firings.filter fun firing =>
        firing.delivery.envelope.tenantId ≠ some tenantId)) := by
  have hall := dispatches_traffic traffic
  have hkept : Dispatches templates (traffic.firings.filter fun firing =>
      firing.delivery.envelope.tenantId ≠ some tenantId) := fun firing hmem =>
    hall firing (List.mem_filter.mp hmem).1
  rw [executionsOf_generated other hall, executionsOf_generated other hkept]
  refine List.flatMap_congr fun template hrow => ?_
  split
  · rename_i htenant
    have hown : ∀ firing ∈ traffic.firings, firing.template = template →
        decide (firing.delivery.envelope.tenantId ≠ some tenantId) = true := by
      intro firing hfiring hsame
      rw [decide_eq_true_iff]
      intro hforeign
      rcases tenant_of_findsItsOwn h hfiring with hnone | heq
      · rw [hsame, htenant] at hnone
        cases hnone
      · rw [hsame, htenant, hforeign] at heq
        exact hother (Option.some.inj heq).symm
    rw [series_filter hrow hall hown]
  · rfl

theorem staysInTenant_of_findsItsOwn (h : FindsItsOwn traffic.firings) :
    StaysInTenant dayjs templates traffic := by
  have hall := dispatches_traffic traffic
  refine ⟨?_, ?_, ?_, fun tenantId other hother => isolated_of_findsItsOwn h hother⟩
  · intro s hs template htemplate eventId
    obtain ⟨row, hrow, rfl⟩ := mem_generated hs
    have howner := (@recorded_series dayjs row traffic.firings templates hrow hall).owner
    obtain rfl := Option.some.inj (howner.symm.trans htemplate)
    rw [claimed_iff hrow hall]
    constructor
    · rintro ⟨firing, hfiring, rfl, hevent⟩
      obtain ⟨hdelivery, _, hlistens⟩ := mem_firings.mp hfiring
      exact ⟨firing.delivery, hdelivery, hevent, hlistens, tenant_of_findsItsOwn h hfiring⟩
    · rintro ⟨delivery, hdelivery, hevent, hlistens, _⟩
      have hfiring : (⟨row, delivery⟩ : EventFiring) ∈ traffic.firings :=
        mem_firings.mpr ⟨hdelivery, hrow, hlistens⟩
      exact ⟨_, hfiring, rfl, hevent⟩
  · intro s hs
    obtain ⟨row, hrow, rfl⟩ := mem_generated hs
    exact (recorded_series hrow hall).once
  · intro s hs request hrequest delivery hdelivery hevent
    obtain ⟨row, hrow, rfl⟩ := mem_generated hs
    obtain ⟨firing, hfind, hasks, rfl⟩ :=
      ((recorded_series hrow hall).requests request).mp hrequest
    obtain ⟨hfirst, _, _⟩ := first_of_find? hfind
    obtain ⟨hfired, _, _⟩ := mem_firings.mp (mem_of_first hfirst)
    have henvelope := traffic.sameEvent delivery hdelivery firing.delivery hfired hevent
    have htenant : firing.template.tenantId = firing.delivery.envelope.tenantId := by
      rcases h firing hfirst with htenant | ⟨_, hsilent⟩
      · exact htenant
      · exact absurd hasks hsilent
    rw [henvelope, ← htenant]
    exact tenantId_orElse_self _

theorem findsItsOwn_of_staysInTenant (h : StaysInTenant dayjs templates traffic) :
    FindsItsOwn traffic.firings := by
  have hall := dispatches_traffic traffic
  intro firing hfirst
  have hfiring := mem_of_first hfirst
  obtain ⟨hdelivery, hrow, _⟩ := mem_firings.mp hfiring
  have hrecorded := @recorded_series dayjs firing.template traffic.firings templates hrow hall
  have hs : series dayjs firing.template traffic.firings ∈
      generated dayjs templates traffic.firings := by
    rw [generated_eq]
    exact List.mem_map_of_mem hrow
  have hclaimed := (@claimed_iff dayjs _ _ _ hrow hall firing.eventId).mpr
    ⟨firing, hfiring, rfl, rfl⟩
  obtain ⟨delivery, hdelivery', hevent, _, htenant⟩ :=
    (h.exact _ hs firing.template hrecorded.owner firing.eventId).mp hclaimed
  have henvelope := traffic.sameEvent delivery hdelivery' firing.delivery hdelivery hevent
  rw [henvelope] at htenant
  rcases htenant with hnone | htenant
  · by_cases hasks : firing.Asks
    · left
      have hrequest := (hrecorded.requests (occurrenceRequested firing.template firing.payload
        firing.eventId firing.surroundings)).mpr ⟨firing, hfirst, hasks, rfl⟩
      have hcarried := h.carries _ hs _ hrequest firing.delivery hdelivery rfl
      rw [← hcarried]
      exact (tenantId_orElse_self _).symm
    · exact .inr ⟨hnone, hasks⟩
  · exact .inl htenant

/-- Whatever events arrive, and however often: event-triggered generation stays in its tenant
exactly if no event finds a template of another tenant, or has one without a tenant ask for a
document. -/
theorem staysInTenant_iff (dayjs : Dayjs) (templates : EventTemplates)
    (traffic : Traffic templates) :
    StaysInTenant dayjs templates traffic ↔ FindsItsOwn traffic.firings :=
  ⟨findsItsOwn_of_staysInTenant, staysInTenant_of_findsItsOwn⟩

end Tenancy

section Example

/-- A template of tenant t1, for approved orders. -/
def approvalTemplate : RecurringTemplate where
  tenantId := some "t1"
  targetEntityType := "Invoice"
  partyId := some "customer"
  partyType := some "CUSTOMER"
  currency := "USD"
  triggerType := .event
  eventName := some "PurchaseOrderApproved"
  frequency := none
  interval := none
  startDate := none
  endDate := none
  timeZone := "UTC"
  autoPost := false
  headerOverrides := none
  generationCondition := none
  lines := ["line"]
  id := "rt1"
  status := .active
  nextRunDate := none
  lastRunDate := none

def approvalTemplates : EventTemplates where
  rows := [approvalTemplate]
  identified := by simp [approvalTemplate]
  distinct := by simp
  triggered := by simp [approvalTemplate]

/-- An order is approved in tenant t2. -/
def approvedElsewhere : Delivery where
  envelope := ⟨"e1", "PurchaseOrderApproved", some "t2", "order"⟩
  meets _ := ⟨"x1", "trace", 20455, .ok (true, ""), .ok ()⟩

def elsewhere : Traffic approvalTemplates where
  deliveries := [approvedElsewhere]
  sameEvent := by simp
  firings := [⟨approvalTemplate, approvedElsewhere⟩]
  dispatched := by
    have hlistens : approvalTemplate.listensTo approvedElsewhere.envelope.eventType = true := by
      decide
    simp [onEvent, findActiveByEventName, approvalTemplates, hlistens]

/-- The event of tenant t2 has the template of tenant t1 ask for an invoice. -/
theorem approval_crosses_tenants : ¬ StaysInTenant civil approvalTemplates elsewhere := by
  intro h
  have hrun : generated civil approvalTemplates elsewhere.firings =
      [(⟨approvalTemplate, approvedElsewhere⟩ : EventFiring).record
        ⟨some approvalTemplate, [], [], []⟩] := by
    rfl
  have hrequest := h.carries _ (by rw [hrun]; exact List.mem_singleton_self _) _
    (List.mem_singleton_self _) approvedElsewhere (List.mem_singleton_self _) rfl
  exact absurd hrequest (by decide)

end Example

end DddBoilerplate.Recurring
