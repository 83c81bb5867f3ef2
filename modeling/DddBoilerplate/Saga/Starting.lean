/- module: DddBoilerplate/Saga/Starting
   generality: I
   digest: Which definitions an event starts, next to those whose gates all let it. -/

import Mathlib.Data.Fintype.EquivFin
import DddBoilerplate.Concurrency.Sequential
import DddBoilerplate.Saga.Scenario

set_option autoImplicit false
set_option relaxedAutoImplicit false
set_option linter.all false

open DddBoilerplate.Concurrency DddBoilerplate.Store

namespace DddBoilerplate.Saga

variable {J : Type} {E : Environment J}

section Quiet

/-- The one request that adds an instance. -/
def SagaRequest.inserts : SagaRequest J → Bool
  | tryInsertLive _ => true
  | _ => false

/-- Adds no instance. -/
abbrev Quiet {α : Type} (m : SagaProgram J α) : Prop :=
  @Guarded (sagaInterface J) α (fun q => SagaRequest.inserts q = false) (fun _ _ => True) m

variable {α β : Type}

theorem quiet_ask {q : SagaRequest J} {f : q.Answer → SagaProgram J α} (hq : q.inserts = false)
    (hf : ∀ a, Quiet (f a)) : Quiet (ask q >>= f) := ⟨hq, fun a _ => hf a⟩

theorem quiet_done (a : α) : Quiet (Program.done a : SagaProgram J α) := trivial

theorem quiet_lift {m : Except String α} {f : α → SagaProgram J β} (hf : ∀ a, Quiet (f a)) :
    Quiet (Program.lift m >>= f) := Ensures.lift_bind fun a _ => hf a

namespace SagaEngine

theorem complete_quiet (inst : SagaInstanceRecord J) (active : inst.status.isActive = true)
    (cursor : Nat) (ahead : inst.cursor ≤ cursor) : Quiet (complete inst active cursor ahead) := by
  refine quiet_ask rfl fun written => ?_
  cases written with
  | none => exact quiet_done ()
  | some _ =>
    cases hcomplete : inst.plan.onComplete with
    | none =>
      simp only [hcomplete]
      exact quiet_done ()
    | some emitted =>
      simp only [hcomplete]
      exact ⟨rfl, fun _ _ => trivial⟩

theorem consumeWait_quiet (w : Walk J) (wait : w.step.kind = .wait) :
    Quiet (consumeWait E w wait) := by
  unfold consumeWait
  split
  · exact quiet_done _
  · refine quiet_ask rfl fun buffered => quiet_lift fun found => ?_
    cases found with
    | none => exact quiet_done _
    | some row => exact quiet_ask rfl fun _ => quiet_ask rfl fun _ => quiet_done _

theorem walk_quiet {inst : SagaInstanceRecord J} {active : inst.status.isActive = true} {now : Nat}
    {steps : List SagaPlanStep} {cursor : Nat} {hsteps : inst.plan.steps.drop cursor = steps}
    {ahead : inst.cursor ≤ cursor} {scope : Scope J} :
    Quiet (walk E inst active now steps cursor hsteps ahead scope) := by
  induction steps generalizing cursor scope with
  | nil => exact complete_quiet inst active cursor ahead
  | cons step rest ih =>
    unfold walk
    refine quiet_lift fun bypassed => ?_
    split
    · exact quiet_ask rfl fun _ => ih
    · split
      · refine Guarded.bind (consumeWait_quiet _ _) fun consumed => ?_
        cases consumed with
        | inl eventId => exact ih
        | inr buffered =>
          refine quiet_lift fun timeout => quiet_ask rfl fun _ => quiet_ask rfl fun _ => ?_
          exact quiet_done _
      · refine quiet_lift fun input => quiet_ask rfl fun created => ?_
        split
        · exact ih
        · split
          · exact ih
          · exact quiet_ask rfl fun _ => quiet_done _

theorem advance_quiet (instanceId : String) : Quiet (advance E instanceId) := by
  refine quiet_ask rfl fun found => ?_
  cases found with
  | none => exact quiet_done ()
  | some found =>
    obtain ⟨inst, hid⟩ := found
    dsimp only
    split
    · exact quiet_ask rfl fun rows => quiet_ask rfl fun now => walk_quiet
    · exact quiet_done ()

theorem unwind_quiet (c : Unwinding J) (scope : Scope J) (n : Nat) (below : n ≤ c.failedIndex) :
    Quiet (unwind E c scope n below) := by
  induction n with
  | zero => exact quiet_ask rfl fun _ => quiet_done _
  | succ index ih =>
    unfold unwind
    split
    · trivial
    · split
      · exact ih _
      · split
        · exact quiet_ask rfl fun _ => quiet_done _
        · exact quiet_lift fun input => quiet_ask rfl fun _ => ih _

theorem startCompensation_quiet (inst : SagaInstanceRecord J)
    (live : inst.status.isTerminal = false) (failedIndex : Nat) (reason : SagaInstanceReason)
    (error : String) : Quiet (startCompensation E inst live failedIndex reason error) := by
  unfold startCompensation
  split
  · exact quiet_ask rfl fun rows => quiet_ask rfl fun now => unwind_quiet _ _ _ _
  · exact quiet_ask rfl fun _ => quiet_done _

theorem cancel_quiet (instanceId : String) (reason : SagaInstanceReason) :
    Quiet (cancel E instanceId reason) := by
  refine quiet_ask rfl fun found => ?_
  cases found with
  | none => exact quiet_done ()
  | some found =>
    obtain ⟨inst, hid⟩ := found
    dsimp only
    split
    · refine quiet_ask rfl fun rows => ?_
      split
      · exact startCompensation_quiet _ _ _ _ _
      · exact quiet_ask rfl fun _ => quiet_done _
    · exact quiet_done ()

theorem bufferForInstance_quiet (c : BufferCall J) : Quiet (bufferForInstance E c) := by
  refine quiet_ask rfl fun inserted => ?_
  cases inserted with
  | none => exact quiet_done ()
  | some _ => exact quiet_ask rfl fun _ => advance_quiet _

end SagaEngine

namespace SagaRouter

theorem findTarget_quiet (sagaKey key : String) :
    Quiet (findTarget sagaKey key : SagaProgram J _) := quiet_ask rfl fun _ => quiet_done _

theorem routeCancel_quiet (definition : SagaDefinitionRecord) (event : SagaTriggerEvent J) :
    Quiet (routeCancel E definition event) := by
  refine quiet_lift fun key => (findTarget_quiet _ _).bind fun target => ?_
  cases target with
  | none => exact quiet_done ()
  | some inst => exact SagaEngine.cancel_quiet _ _

theorem matchedTargets_quiet (definition : SagaDefinitionRecord) (event : SagaTriggerEvent J)
    (steps : List SagaStepSpec) (targets : List (SagaInstanceRecord J)) :
    Quiet (matchedTargets E definition event steps targets) := by
  induction steps generalizing targets with
  | nil => exact quiet_done _
  | cons step rest ih =>
    unfold matchedTargets
    split
    · exact ih _
    · refine quiet_lift fun key => (findTarget_quiet _ _).bind fun target => ?_
      cases target with
      | none => exact ih _
      | some inst => exact ih _

theorem bufferAll_quiet (event : SagaTriggerEvent J) (targets : List (SagaInstanceRecord J)) :
    Quiet (bufferAll E event targets) := by
  induction targets with
  | nil => exact quiet_done ()
  | cons inst rest ih => exact (SagaEngine.bufferForInstance_quiet _).bind fun _ => ih

theorem routeWait_quiet (definition : SagaDefinitionRecord) (event : SagaTriggerEvent J) :
    Quiet (routeWait E definition event) := by
  unfold routeWait
  dsimp only
  split
  · exact quiet_done ()
  · refine (matchedTargets_quiet _ _ _ _).bind fun targets => quiet_ask rfl fun parked => ?_
    exact bufferAll_quiet _ _

theorem routeAll_quiet (event : SagaTriggerEvent J) (definitions : List SagaDefinitionRecord) :
    Quiet (routeAll E event definitions) := by
  induction definitions with
  | nil => exact quiet_done ()
  | cons definition rest ih =>
    have hrest : Quiet (routeWait E definition event >>= fun _ => routeAll E event rest) :=
      (routeWait_quiet _ _).bind fun _ => ih
    unfold routeAll
    split
    · exact (routeCancel_quiet _ _).bind fun _ => hrest
    · exact hrest

end SagaRouter

/-- What an instance was inserted with. -/
def SagaInstanceRecord.origin (inst : SagaInstanceRecord J) : InsertInstanceInput J where
  tenantId := inst.tenantId
  companyId := inst.companyId
  sagaKey := inst.sagaKey
  correlationKey := inst.correlationKey
  plan := inst.plan
  context := inst.context

/-- What is stored under an identifier was inserted so. -/
def SagaDb.origin? (db : SagaDb J) (id : String) : Option (InsertInstanceInput J) :=
  (db.instances.get? id).map (·.origin)

theorem origin?_of_serves {q : SagaRequest J} {a : q.Answer} {db db' : SagaDb J}
    (h : SagaServes E q db a db') (hq : q.inserts = false) (id : String) :
    db'.origin? id = db.origin? id := by
  unfold SagaDb.origin?
  cases instances_after h id with
  | unchanged same => rw [same]
  | written c cur call target before fenced after =>
    rw [before, after]
    rfl
  | inserted input call before after =>
    rw [call] at hq
    cases hq

/-- Whatever a quiet program does, who was inserted how stays. -/
theorem origin?_of_proceed {α : Type} {p p' : SagaProgram J α} {choices : List (SagaChoice J)}
    {db db' : SagaDb J} (hp : Quiet p)
    (h : @proceed (sagaSystem E) α p choices db = some (p', db')) (id : String) :
    db'.origin? id = db.origin? id := by
  have hserve : ∀ (q : SagaRequest J) (a : q.Answer) (s s' : SagaDb J),
      s.origin? id = db.origin? id → q.inserts = false → SagaServes E q s a s' →
        s'.origin? id = db.origin? id ∧ True :=
    fun q a s s' hs hq hserves => ⟨(origin?_of_serves hserves hq id).trans hs, trivial⟩
  exact (@Ensures.proceed (sagaSystem E) α _ _ _ (fun s => s.origin? id = db.origin? id) hserve
    p p' choices db db' hp rfl h).2

end Quiet

section Gates

/-- What a start's conditions and templates are evaluated on. -/
def triggerScope (event : SagaTriggerEvent J) (settings : Fields J) : Scope J where
  event := event.payload
  saga := some []
  settings := some settings
  steps := some []

/-- The trigger event of an envelope of a company. -/
def companyEvent (envelope : OutboxEnvelope J) (tenantId companyId : String) :
    SagaTriggerEvent J where
  eventId := envelope.eventId
  eventName := envelope.eventType
  eventVersion := envelope.eventVersion.getD 1
  tenantId := tenantId
  companyId := companyId
  payload := envelope.payload

/-- There is no condition, or it is true. -/
def Passes (E : Environment J) (scope : Scope J) (condition : Option String) : Prop :=
  ∀ source, present condition = some source → E.evaluateCondition source scope = .ok true

def overlayOf? (db : SagaDb J) (event : SagaTriggerEvent J) (d : SagaDefinitionRecord) :
    Option SagaOverlay :=
  (SagaCompanyConfigRepository.findActive db event.tenantId event.companyId d.sagaKey).map
    (·.overlay)

/-- The condition that the company sets on the start of a saga. -/
def overlayWhen (db : SagaDb J) (event : SagaTriggerEvent J) (d : SagaDefinitionRecord) :
    Option String :=
  ((overlayOf? db event d).bind (·.start)).bind (·.when_)

def planOf (E : Environment J) (db : SagaDb J) (event : SagaTriggerEvent J)
    (features : List String) (d : SagaDefinitionRecord) : Option SagaPlan :=
  PlanBuilder.build
    { definition := d.definition, overlay := overlayOf? db event d, features := features,
      defaultMaxAttempts := E.config.defaultMaxAttempts }

/-- A live instance of the company has this saga and this correlation key. -/
def LiveWithKey (db : SagaDb J) (event : SagaTriggerEvent J) (sagaKey key : String) : Prop :=
  ∃ inst ∈ db.instances.rows, inst.status.isTerminal = false ∧ inst.tenantId = event.tenantId ∧
    inst.companyId = event.companyId ∧ inst.sagaKey = sagaKey ∧ inst.correlationKey = key

/-- An ACTIVE definition that this event starts. -/
structure StartsOn (db : SagaDb J) (event : SagaTriggerEvent J) (d : SagaDefinitionRecord) :
    Prop where
  stored : d ∈ db.definitions
  active : d.status = .active
  name : d.eventName = event.eventName
  version : d.eventVersion = event.eventVersion

/-- The gates of a start other than the company's own condition. -/
structure OtherGates (E : Environment J) (db : SagaDb J) (event : SagaTriggerEvent J)
    (features : List String) (settings : Fields J) (d : SagaDefinitionRecord) : Prop where
  own : Passes E (triggerScope event settings) d.definition.start.when_
  plan : (planOf E db event features d).isSome
  free : ∃ key, E.renderTemplate d.definition.start.key (triggerScope event settings) = .ok key ∧
    ¬ LiveWithKey db event d.sagaKey key

/-- All gates of a start. -/
structure Gates (E : Environment J) (db : SagaDb J) (event : SagaTriggerEvent J)
    (features : List String) (settings : Fields J) (d : SagaDefinitionRecord) : Prop
    extends OtherGates E db event features settings d where
  overlay : Passes E (triggerScope event settings) (overlayWhen db event d)

/-- An instance that was not there before is one of this definition, for this event. -/
structure NewInstance (E : Environment J) (db db' : SagaDb J) (event : SagaTriggerEvent J)
    (settings : Fields J) (d : SagaDefinitionRecord) (inst : SagaInstanceRecord J) : Prop where
  stored : inst ∈ db'.instances.rows
  absent : db.instances.get? inst.id = none
  tenantId : inst.tenantId = event.tenantId
  companyId : inst.companyId = event.companyId
  sagaKey : inst.sagaKey = d.sagaKey
  key : E.renderTemplate d.definition.start.key (triggerScope event settings) =
    .ok inst.correlationKey

/-- New instances exist for exactly the definitions that the event starts and whose gates all let
it. -/
structure StartsExactly (E : Environment J) (db db' : SagaDb J) (event : SagaTriggerEvent J)
    (features : List String) (settings : Fields J) : Prop where
  exact : ∀ d, StartsOn db event d →
    ((∃ inst, NewInstance E db db' event settings d inst) ↔
      Gates E db event features settings d)
  only : ∀ inst ∈ db'.instances.rows, db.instances.get? inst.id = none →
    ∃ d, StartsOn db event d ∧ NewInstance E db db' event settings d inst

/-- The one definition that the router tries. -/
def picked (db : SagaDb J) (envelope : OutboxEnvelope J) : Option SagaDefinitionRecord :=
  if envelope.aggregateType = "Saga" then none
  else SagaDefinitionRepository.findActiveByEvent db envelope.eventType
    (envelope.eventVersion.getD 1)

/-- No other definition passes its gates; and where the one that is tried passes the other gates,
the company's own condition is true just where the start context can be evaluated. -/
structure OnePasses (E : Environment J) (db : SagaDb J) (envelope : OutboxEnvelope J)
    (event : SagaTriggerEvent J) (features : List String) (settings : Fields J) : Prop where
  others : ∀ d, StartsOn db event d → picked db envelope ≠ some d →
    ¬ Gates E db event features settings d
  overlay : ∀ d, picked db envelope = some d → OtherGates E db event features settings d →
    (Passes E (triggerScope event settings) (overlayWhen db event d) ↔
      ∃ start, SagaRouter.mapContext E d.definition.start.context (triggerScope event settings) =
        .ok start)

end Gates

section Accepting

/-- The requests of the router up to the insertion of an instance. -/
def SagaRequest.gates : SagaRequest J → Bool
  | findActiveByEvent _ _ | features _ | settings _ | findActive _ _ _ | tryInsertLive _ => true
  | _ => false

/-- No gate is left to ask: the program has ended, or goes on behind them. -/
def Decided (p : SagaProgram J Unit) : Prop := ∀ q, p.front = .asks q → q.gates = false

/-- The features and the settings of the company are these. -/
def Answers (features : List String) (settings : Fields J) : SagaChoice J → Prop
  | .features keys => keys = .ok features
  | .settings values => values = .ok settings
  | _ => True

/-- The event has been accepted, alone, by a store that was `db`. -/
def Accepted (E : Environment J) (envelope : OutboxEnvelope J) (features : List String)
    (settings : Fields J) (db db' : SagaDb J) : Prop :=
  ∃ choices p', @proceed (sagaSystem E) Unit (SagaRouter.accept E envelope) choices db =
    some (p', db') ∧ Decided p' ∧ ∀ c ∈ choices, Answers features settings c

/-- What the router proposes to insert for a definition, once its lookups have answered. -/
def Proposed (E : Environment J) (db : SagaDb J) (event : SagaTriggerEvent J)
    (features : List String) (settings : Fields J) (d : SagaDefinitionRecord)
    (input : InsertInstanceInput J) : Prop :=
  SagaRouter.startFilter E d event settings = .ok true ∧
    SagaRouter.startInput E d event features settings
      (SagaCompanyConfigRepository.findActive db event.tenantId event.companyId d.sagaKey) =
        .ok (some input)

variable {db db' : SagaDb J} {event : SagaTriggerEvent J} {features : List String}
variable {settings : Fields J} {d : SagaDefinitionRecord} {input : InsertInstanceInput J}

theorem startFilter_iff : SagaRouter.startFilter E d event settings = .ok true ↔
    Passes E (triggerScope event settings) d.definition.start.when_ := by
  unfold SagaRouter.startFilter Passes
  cases hcondition : present d.definition.start.when_ with
  | none => simp
  | some condition =>
    simp only [Option.some.injEq, forall_eq']
    exact Iff.rfl

/-- The plan, the key and the start context make what is proposed. -/
theorem proposed_iff : Proposed E db event features settings d input ↔
    Passes E (triggerScope event settings) d.definition.start.when_ ∧
      ∃ plan key start, planOf E db event features d = some plan ∧
        E.renderTemplate d.definition.start.key (triggerScope event settings) = .ok key ∧
        SagaRouter.mapContext E d.definition.start.context (triggerScope event settings) =
          .ok start ∧
        input = ⟨event.tenantId, event.companyId, d.sagaKey, key, plan,
          ⟨some settings, some event.payload, some start⟩⟩ := by
  unfold Proposed
  rw [startFilter_iff]
  refine and_congr_right fun _ => ?_
  unfold SagaRouter.startInput planOf overlayOf?
  dsimp only
  generalize PlanBuilder.build _ = planned
  cases planned with
  | none => simp
  | some plan =>
    simp only [Option.some.injEq, exists_eq_left']
    change (E.renderTemplate _ (triggerScope event settings) >>= _) = _ ↔ _
    cases hkey : E.renderTemplate d.definition.start.key (triggerScope event settings) with
    | error e => simp [bind, Except.bind]
    | ok key =>
      change (SagaRouter.mapContext E _ (triggerScope event settings) >>= _) = _ ↔ _
      cases hstart : SagaRouter.mapContext E d.definition.start.context
          (triggerScope event settings) with
      | error e => simp [bind, Except.bind]
      | ok start => simp [bind, Except.bind, eq_comm]

/-- A gate that is behind the program was answered. -/
theorem proceed_gate {q : SagaRequest J} {next : q.Answer → SagaProgram J Unit}
    {p' : SagaProgram J Unit} {choices : List (SagaChoice J)} (hq : q.gates = true)
    (h : @proceed (sagaSystem E) Unit (ask q >>= next) choices db = some (p', db'))
    (hdecided : Decided p') (hchoices : ∀ c ∈ choices, Answers features settings c) :
    ∃ c rest a middle, Answers features settings c ∧ serve E q c db = some (a, middle) ∧
      @proceed (sagaSystem E) Unit (next a) rest middle = some (p', db') ∧
        ∀ c ∈ rest, Answers features settings c := by
  cases choices with
  | nil =>
    cases h
    have hbehind := hdecided q rfl
    rw [hq] at hbehind
    cases hbehind
  | cons c rest =>
    obtain ⟨a, middle, hserve, hrest⟩ := proceed_ask.mp h
    exact ⟨c, rest, a, middle, hchoices c List.mem_cons_self, hserve, hrest,
      fun c' hc' => hchoices c' (List.mem_cons_of_mem _ hc')⟩

theorem proceed_ended {p p' : SagaProgram J Unit} {choices : List (SagaChoice J)}
    (hp : ∀ q, p.front ≠ .asks q)
    (h : @proceed (sagaSystem E) Unit p choices db = some (p', db')) : db' = db := by
  cases choices with
  | nil =>
    rw [proceed_nil] at h
    cases h
    rfl
  | cons c rest =>
    cases p with
    | done a => cases h
    | fail e => cases h
    | ask q next => exact absurd rfl (hp q)

/-- What has become of a proposal: it was inserted, or the index turned it away. -/
inductive Outcome (E : Environment J) (db db' : SagaDb J) (input : InsertInstanceInput J) : Prop
  where
  | inserted (id : String) (absent : db.instances.get? id = none)
      (free : SagaInstanceRepository.taken E.conflict db (input.row id) = false)
      (after : ∀ id', db'.origin? id' = if id = id' then some input else db.origin? id')
  | turnedAway (id : String) (absent : db.instances.get? id = none)
      (taken : SagaInstanceRepository.taken E.conflict db (input.row id) = true)
      (after : ∀ id', db'.origin? id' = db.origin? id')

theorem outcome_of_createAndAdvance {p' : SagaProgram J Unit} {choices : List (SagaChoice J)}
    (h : @proceed (sagaSystem E) Unit (SagaEngine.createAndAdvance E input) choices db =
      some (p', db'))
    (hdecided : Decided p') (hchoices : ∀ c ∈ choices, Answers features settings c) :
    Outcome E db db' input := by
  obtain ⟨c, rest, a, middle, _, hserve, hrest, _⟩ := proceed_gate rfl h hdecided hchoices
  obtain ⟨id, habsent, hinsert⟩ := serves_tryInsertLive ⟨c, hserve⟩
  unfold SagaInstanceRepository.tryInsertLive at hinsert
  dsimp only at hinsert
  split at hinsert
  · rename_i htaken
    cases hinsert
    have hended : ∀ q, (Program.done () : SagaProgram J Unit).front ≠ .asks q := by
      intro q hfront
      cases hfront
    rw [proceed_ended hended hrest]
    exact .turnedAway id habsent htaken fun _ => rfl
  · rename_i hfree
    cases hinsert
    refine .inserted id habsent (Bool.eq_false_of_not_eq_true hfree) fun id' => ?_
    rw [origin?_of_proceed (SagaEngine.advance_quiet _) hrest id']
    unfold SagaDb.origin?
    rw [Table.get?_insert habsent]
    change (if id = id' then _ else _ : Option _).map _ = _
    split <;> rfl

/-- What an accepted start event comes to: nothing was proposed and nothing inserted, or what was
proposed came out. -/
theorem outcome_of_tryStart {p' : SagaProgram J Unit} {choices : List (SagaChoice J)}
    (h : @proceed (sagaSystem E) Unit (SagaRouter.tryStart E d event) choices db = some (p', db'))
    (hdecided : Decided p') (hchoices : ∀ c ∈ choices, Answers features settings c) :
    ((∀ id, db'.origin? id = db.origin? id) ∧
        ∀ input, ¬ Proposed E db event features settings d input) ∨
      ∃ input, Proposed E db event features settings d input ∧ Outcome E db db' input := by
  have hkept : ∀ {p : SagaProgram J Unit} {rest : List (SagaChoice J)},
      (∀ q, p.front ≠ .asks q) → @proceed (sagaSystem E) Unit p rest db = some (p', db') →
        ∀ id, db'.origin? id = db.origin? id := by
    intro p rest hp hrest id
    rw [proceed_ended hp hrest]
  have hfailed : ∀ (e : String) q, (Program.fail e : SagaProgram J Unit).front ≠ .asks q := by
    intro e q hfront
    cases hfront
  have hdone : ∀ q, (Program.done () : SagaProgram J Unit).front ≠ .asks q := by
    intro q hfront
    cases hfront
  obtain ⟨c, rest, a, middle, hc, hserve, hrest, hchoices⟩ := proceed_gate rfl h hdecided hchoices
  cases c with
  | features keys =>
    obtain rfl : keys = .ok features := hc
    cases hserve
    obtain ⟨c, rest, a, middle, hc, hserve, hrest, hchoices⟩ :=
      proceed_gate rfl hrest hdecided hchoices
    cases c with
    | settings values =>
      obtain rfl : values = .ok settings := hc
      cases hserve
      dsimp only at hrest
      cases hfilter : SagaRouter.startFilter E d event settings with
      | error e =>
        rw [hfilter] at hrest
        refine .inl ⟨hkept (hfailed e) hrest, fun input hproposed => ?_⟩
        cases hfilter.symm.trans hproposed.1
      | ok passes =>
        rw [hfilter] at hrest
        cases passes with
        | false =>
          refine .inl ⟨hkept hdone hrest, fun input hproposed => ?_⟩
          cases hfilter.symm.trans hproposed.1
        | true =>
          obtain ⟨c, rest, a, middle, _, hserve, hrest, hchoices⟩ :=
            proceed_gate rfl hrest hdecided hchoices
          cases hserve
          cases hinput : SagaRouter.startInput E d event features settings
              (SagaCompanyConfigRepository.findActive db event.tenantId event.companyId
                d.sagaKey) with
          | error e =>
            rw [hinput] at hrest
            refine .inl ⟨hkept (hfailed e) hrest, fun input hproposed => ?_⟩
            cases hinput.symm.trans hproposed.2
          | ok proposal =>
            rw [hinput] at hrest
            cases proposal with
            | none =>
              refine .inl ⟨hkept hdone hrest, fun input hproposed => ?_⟩
              cases hinput.symm.trans hproposed.2
            | some input =>
              exact .inr ⟨input, ⟨hfilter, hinput⟩,
                outcome_of_createAndAdvance hrest hdecided hchoices⟩
    | plain | time | uuid | order | claim | outcome | features => cases hserve
  | plain | time | uuid | order | claim | outcome | settings => cases hserve

theorem outcome_of_accepted {envelope : OutboxEnvelope J} {tenantId companyId : String}
    (htenant : present envelope.tenantId = some tenantId)
    (hcompany : present envelope.companyId = some companyId)
    (h : Accepted E envelope features settings db db') :
    ((∀ id, db'.origin? id = db.origin? id) ∧ ∀ d, picked db envelope = some d → ∀ input,
        ¬ Proposed E db (companyEvent envelope tenantId companyId) features settings d input) ∨
      ∃ d input, picked db envelope = some d ∧
        Proposed E db (companyEvent envelope tenantId companyId) features settings d input ∧
          Outcome E db db' input := by
  obtain ⟨choices, p', hproceed, hdecided, hchoices⟩ := h
  unfold SagaRouter.accept SagaRouter.triggerEvent at hproceed
  unfold picked
  by_cases hsaga : envelope.aggregateType = "Saga"
  · rw [if_pos hsaga] at hproceed
    rw [if_pos hsaga]
    have hended : ∀ q, (Program.done () : SagaProgram J Unit).front ≠ .asks q := by
      intro q hfront
      cases hfront
    rw [proceed_ended hended hproceed]
    exact .inl ⟨fun _ => rfl, fun d hd => nomatch hd⟩
  · rw [if_neg hsaga, htenant, hcompany] at hproceed
    rw [if_neg hsaga]
    obtain ⟨c, rest, a, middle, _, hserve, hrest, hchoices⟩ :=
      proceed_gate rfl hproceed hdecided hchoices
    cases hserve
    change proceed (match SagaDefinitionRepository.findActiveByEvent db envelope.eventType
      (envelope.eventVersion.getD 1) with | _ => _) rest db = _ at hrest
    cases hpicked : SagaDefinitionRepository.findActiveByEvent db envelope.eventType
        (envelope.eventVersion.getD 1) with
    | none =>
      refine .inl ⟨fun id => ?_, fun d hd => nomatch hd⟩
      have hquiet : Quiet (ask .listActive >>= fun active =>
          SagaRouter.routeAll E (companyEvent envelope tenantId companyId) active) :=
        quiet_ask rfl fun active => SagaRouter.routeAll_quiet _ _
      rw [hpicked] at hrest
      exact origin?_of_proceed hquiet hrest id
    | some d =>
      rw [hpicked] at hrest
      rcases outcome_of_tryStart hrest hdecided hchoices with
        ⟨hsame, hnone⟩ | ⟨input, hproposed, hout⟩
      · refine .inl ⟨hsame, fun d' hd' => ?_⟩
        cases hd'
        exact hnone
      · exact .inr ⟨d, input, rfl, hproposed, hout⟩

end Accepting

section Exactly

variable {db db' : SagaDb J} {event : SagaTriggerEvent J} {features : List String}
variable {settings : Fields J} {d : SagaDefinitionRecord} {input : InsertInstanceInput J}

/-- The partial unique index: one live instance for a company, a saga and a correlation key. -/
def KeepsOneLive (E : Environment J) : Prop :=
  ∀ inst other : SagaInstanceRecord J, E.conflict inst other = true ↔
    inst.tenantId = other.tenantId ∧ inst.companyId = other.companyId ∧
      inst.sagaKey = other.sagaKey ∧ inst.correlationKey = other.correlationKey ∧
        inst.status.isTerminal = false ∧ other.status.isTerminal = false

/-- The other partial unique index: one ACTIVE definition for a key. -/
def OneActivePerKey (db : SagaDb J) : Prop :=
  ∀ d ∈ db.definitions, ∀ d' ∈ db.definitions, d.status = .active → d'.status = .active →
    d.sagaKey = d'.sagaKey → d = d'

theorem taken_iff (hindex : KeepsOneLive E) {id : String} (habsent : db.instances.get? id = none)
    (htenant : input.tenantId = event.tenantId) (hcompany : input.companyId = event.companyId) :
    SagaInstanceRepository.taken E.conflict db (input.row id) = true ↔
      LiveWithKey db event input.sagaKey input.correlationKey := by
  unfold SagaInstanceRepository.taken LiveWithKey
  rw [List.any_eq_true]
  refine exists_congr fun other => and_congr_right fun hmem => ?_
  have hother : other.id ≠ id := Table.get?_eq_none.mp habsent other hmem
  rw [Bool.and_eq_true, hindex, decide_eq_true_eq]
  constructor
  · rintro ⟨_, htenant', hcompany', hsaga, hkey, _, hlive⟩
    exact ⟨hlive, htenant'.symm.trans htenant, hcompany'.symm.trans hcompany, hsaga.symm,
      hkey.symm⟩
  · rintro ⟨hlive, htenant', hcompany', hsaga, hkey⟩
    exact ⟨hother, htenant.trans htenant'.symm, hcompany.trans hcompany'.symm, hsaga.symm,
      hkey.symm, rfl, hlive⟩

theorem stored_of_origin {id : String} (h : db.origin? id = some input) :
    ∃ inst ∈ db.instances.rows, inst.id = id ∧ inst.origin = input := by
  obtain ⟨inst, hget, horigin⟩ := Option.map_eq_some_iff.mp h
  exact ⟨inst, Table.mem_of_get? hget, Table.key_of_get? hget, horigin⟩

theorem origin?_eq_none {id : String} : db.origin? id = none ↔ db.instances.get? id = none :=
  Option.map_eq_none_iff

theorem origin?_of_mem {inst : SagaInstanceRecord J} (h : inst ∈ db.instances.rows) :
    db.origin? inst.id = some inst.origin := by
  unfold SagaDb.origin?
  rw [Table.get?_of_mem h]
  rfl

/-- Where nothing was inserted, nothing is new. -/
theorem not_new_of_same (h : ∀ id, db'.origin? id = db.origin? id) {inst : SagaInstanceRecord J}
    (hmem : inst ∈ db'.instances.rows) : db.instances.get? inst.id ≠ none := by
  intro habsent
  have horigin := origin?_of_mem hmem
  rw [h, origin?_eq_none.mpr habsent] at horigin
  cases horigin

/-- A loop that keeps what it has or takes the next one ends with the first or with one of them. -/
theorem mem_of_foldl_choice {α : Type} {f : Option α → α → Option α}
    (hf : ∀ newest a, f newest a = newest ∨ f newest a = some a) (as : List α)
    (newest : Option α) {a : α} (h : as.foldl f newest = some a) : newest = some a ∨ a ∈ as := by
  induction as generalizing newest with
  | nil => exact .inl h
  | cons b as ih =>
    rcases ih _ h with hnewest | hmem
    · rcases hf newest b with hkept | htaken
      · exact .inl (hkept ▸ hnewest)
      · rw [htaken] at hnewest
        cases hnewest
        exact .inr List.mem_cons_self
    · exact .inr (List.mem_cons_of_mem _ hmem)

/-- The definition the router tries is one that the event starts. -/
theorem startsOn_of_picked {envelope : OutboxEnvelope J} {tenantId companyId : String}
    (h : picked db envelope = some d) :
    StartsOn db (companyEvent envelope tenantId companyId) d := by
  unfold picked at h
  split at h
  · cases h
  · refine (mem_of_foldl_choice ?_ _ _ h).elim (fun hnone => ?_) fun hmem => ?_
    · intro newest d'
      cases newest with
      | none => exact .inr rfl
      | some n => exact (ite_eq_or_eq _ _ _).symm
    · cases hnone
    · rw [List.mem_filter, decide_eq_true_eq] at hmem
      exact ⟨hmem.1, hmem.2.2.2, hmem.2.1, hmem.2.2.1⟩

/-- Something is proposed, under a free key, where the other gates pass and the start context can
be evaluated. -/
theorem proposed_free_iff :
    (∃ input, Proposed E db event features settings d input ∧
      ¬ LiveWithKey db event d.sagaKey input.correlationKey) ↔
    OtherGates E db event features settings d ∧ ∃ start,
      SagaRouter.mapContext E d.definition.start.context (triggerScope event settings) =
        .ok start := by
  constructor
  · rintro ⟨input, hproposed, hfree⟩
    obtain ⟨hown, plan, key, start, hplan, hkey, hstart, rfl⟩ := proposed_iff.mp hproposed
    exact ⟨⟨hown, Option.isSome_iff_exists.mpr ⟨plan, hplan⟩, key, hkey, hfree⟩, start, hstart⟩
  · rintro ⟨⟨hown, hplan, key, hkey, hfree⟩, start, hstart⟩
    obtain ⟨plan, hplan⟩ := Option.isSome_iff_exists.mp hplan
    exact ⟨_, proposed_iff.mpr ⟨hown, plan, key, start, hplan, hkey, hstart, rfl⟩, hfree⟩

theorem Proposed.unique {input' : InsertInstanceInput J}
    (h : Proposed E db event features settings d input)
    (h' : Proposed E db event features settings d input') : input = input' := by
  have heq := h.2.symm.trans h'.2
  rw [Except.ok.injEq, Option.some.injEq] at heq
  exact heq

/-- The instance that was inserted is new, and no other is. -/
theorem newInstance_of_origin {id : String} (habsent : db.instances.get? id = none)
    (hafter : ∀ id', db'.origin? id' = if id = id' then some input else db.origin? id')
    (hproposed : Proposed E db event features settings d input) :
    (∃ inst, NewInstance E db db' event settings d inst) ∧
      ∀ inst ∈ db'.instances.rows, db.instances.get? inst.id = none →
        NewInstance E db db' event settings d inst := by
  obtain ⟨_, plan, key, start, _, hkey, _, rfl⟩ := proposed_iff.mp hproposed
  have hnew : ∀ inst ∈ db'.instances.rows, db.instances.get? inst.id = none →
      NewInstance E db db' event settings d inst := by
    intro inst hmem hinst
    have horigin := origin?_of_mem hmem
    rw [hafter] at horigin
    split at horigin
    · rw [Option.some.injEq, InsertInstanceInput.mk.injEq] at horigin
      obtain ⟨htenant, hcompany, hsaga, hcorrelation, _, _⟩ := horigin
      exact ⟨hmem, hinst, htenant.symm, hcompany.symm, hsaga.symm,
        hkey.trans (congrArg Except.ok hcorrelation)⟩
    · rw [origin?_eq_none.mpr hinst] at horigin
      cases horigin
  refine ⟨?_, hnew⟩
  have hstored := hafter id
  rw [if_pos rfl] at hstored
  obtain ⟨inst, hmem, hid, _⟩ := stored_of_origin hstored
  exact ⟨inst, hnew inst hmem (hid.symm ▸ habsent)⟩

variable {envelope : OutboxEnvelope J} {tenantId companyId : String}

/-- The event starts the one definition that is tried, if its other gates pass and its start
context can be evaluated, and no other. -/
theorem new_iff (hindex : KeepsOneLive E) (hkeys : OneActivePerKey db)
    (htenant : present envelope.tenantId = some tenantId)
    (hcompany : present envelope.companyId = some companyId)
    (h : Accepted E envelope features settings db db')
    (hevent : companyEvent envelope tenantId companyId = event) :
    (∀ d, StartsOn db event d → ((∃ inst, NewInstance E db db' event settings d inst) ↔
      picked db envelope = some d ∧ OtherGates E db event features settings d ∧ ∃ start,
        SagaRouter.mapContext E d.definition.start.context (triggerScope event settings) =
          .ok start)) ∧
    ∀ inst ∈ db'.instances.rows, db.instances.get? inst.id = none →
      ∃ d, StartsOn db event d ∧ NewInstance E db db' event settings d inst := by
  rcases outcome_of_accepted htenant hcompany h with
    ⟨hsame, hnone⟩ | ⟨d, input, hpicked, hproposed, hout⟩
  · rw [hevent] at hnone
    refine ⟨fun d _ => ⟨fun ⟨inst, hnew⟩ => ?_, fun ⟨hpicked, hpasses⟩ => ?_⟩,
      fun inst hmem hinst => ?_⟩
    · exact absurd hnew.absent (not_new_of_same hsame hnew.stored)
    · obtain ⟨input, hproposed, _⟩ := proposed_free_iff.mpr hpasses
      exact absurd hproposed (hnone d hpicked input)
    · exact absurd hinst (not_new_of_same hsame hmem)
  · have hstarts : StartsOn db (companyEvent envelope tenantId companyId) d :=
      startsOn_of_picked hpicked
    rw [hevent] at hproposed hstarts
    have hinput : input.tenantId = event.tenantId ∧ input.companyId = event.companyId ∧
        input.sagaKey = d.sagaKey := by
      obtain ⟨_, plan, key, start, _, _, _, rfl⟩ := proposed_iff.mp hproposed
      exact ⟨rfl, rfl, rfl⟩
    obtain ⟨hinputTenant, hinputCompany, hinputSaga⟩ := hinput
    cases hout with
    | turnedAway id habsent htaken hafter =>
      rw [taken_iff hindex habsent hinputTenant hinputCompany, hinputSaga] at htaken
      refine ⟨fun d' _ => ⟨fun ⟨inst, hnew⟩ => ?_, fun ⟨hpicked', hpasses⟩ => ?_⟩,
        fun inst hmem hinst => ?_⟩
      · exact absurd hnew.absent (not_new_of_same hafter hnew.stored)
      · cases hpicked.symm.trans hpicked'
        obtain ⟨input', hproposed', hfree⟩ := proposed_free_iff.mpr hpasses
        rw [← hproposed.unique hproposed'] at hfree
        exact absurd htaken hfree
      · exact absurd hinst (not_new_of_same hafter hmem)
    | inserted id habsent hfree hafter =>
      obtain ⟨hexists, hnew⟩ := newInstance_of_origin habsent hafter hproposed
      have hlive : ¬ LiveWithKey db event d.sagaKey input.correlationKey := by
        rw [← hinputSaga, ← taken_iff hindex habsent hinputTenant hinputCompany, hfree]
        exact Bool.false_ne_true
      refine ⟨fun d' hd' => ⟨fun ⟨inst, hinst⟩ => ?_, fun ⟨hpicked', _⟩ => ?_⟩,
        fun inst hmem hinst => ?_⟩
      · have hsaga := hinst.sagaKey.symm.trans (hnew inst hinst.stored hinst.absent).sagaKey
        obtain rfl := hkeys _ hd'.stored _ hstarts.stored hd'.active hstarts.active hsaga
        exact ⟨hpicked, proposed_free_iff.mp ⟨input, hproposed, hlive⟩⟩
      · cases hpicked.symm.trans hpicked'
        exact hexists
      · exact ⟨d, hstarts, hnew inst hmem hinst⟩

end Exactly

section Existence

variable {db : SagaDb J} {features : List String} {settings : Fields J}

/-- Served alone, with these features and settings, the program can get past its gates. -/
def Decides (E : Environment J) (features : List String) (settings : Fields J)
    (p : SagaProgram J Unit) (db : SagaDb J) : Prop :=
  ∃ choices p' db', @proceed (sagaSystem E) Unit p choices db = some (p', db') ∧ Decided p' ∧
    ∀ c ∈ choices, Answers features settings c

theorem Decides.now {p : SagaProgram J Unit} (h : Decided p) : Decides E features settings p db :=
  ⟨[], p, db, proceed_nil _ _, h, fun c hc => nomatch hc⟩

theorem Decides.ask {q : SagaRequest J} {next : q.Answer → SagaProgram J Unit}
    {c : SagaChoice J} {a : q.Answer} {middle : SagaDb J} (hc : Answers features settings c)
    (hserve : serve E q c db = some (a, middle)) (h : Decides E features settings (next a) middle) :
    Decides E features settings (Saga.ask q >>= next) db := by
  obtain ⟨choices, p', db', hproceed, hdecided, hchoices⟩ := h
  refine ⟨c :: choices, p', db', proceed_cons hserve hproceed, hdecided, fun c' hc' => ?_⟩
  rcases List.mem_cons.mp hc' with rfl | hc'
  · exact hc
  · exact hchoices c' hc'

theorem exists_absent (db : SagaDb J) : ∃ id, db.instances.get? id = none := by
  have hinfinite : Infinite String :=
    Infinite.of_injective String.ofList fun _ _ h => String.ofList_inj.mp h
  obtain ⟨id, hid⟩ := Infinite.exists_notMem_finset (db.instances.rows.map (·.id)).toFinset
  refine ⟨id, Table.get?_eq_none.mpr fun inst hinst heq => hid ?_⟩
  rw [List.mem_toFinset, List.mem_map]
  exact ⟨inst, hinst, heq⟩

theorem createAndAdvance_decides (input : InsertInstanceInput J) :
    Decides E features settings (SagaEngine.createAndAdvance E input) db := by
  obtain ⟨id, habsent⟩ := exists_absent db
  obtain ⟨inserted, middle, hserve⟩ : ∃ inserted middle,
      serve E (.tryInsertLive input) (.uuid id) db = some (inserted, middle) := by
    rw [serve, habsent]
    exact ⟨_, _, rfl⟩
  refine .ask (c := .uuid id) trivial hserve (.now fun q hq => ?_)
  cases inserted with
  | none => cases hq
  | some inst =>
    cases hq
    rfl

/-- Every event of a company can be accepted. -/
theorem exists_accepted (envelope : OutboxEnvelope J) :
    ∃ db', Accepted E envelope features settings db db' := by
  suffices h : Decides E features settings (SagaRouter.accept E envelope) db by
    obtain ⟨choices, p', db', h⟩ := h
    exact ⟨db', choices, p', h⟩
  have hdone : Decided (Program.done () : SagaProgram J Unit) := fun q hq => nomatch hq
  have hfailed : ∀ e, Decided (Program.fail e : SagaProgram J Unit) := fun e q hq => nomatch hq
  unfold SagaRouter.accept
  cases htrigger : SagaRouter.triggerEvent envelope with
  | none => exact .now hdone
  | some event =>
    refine .ask (c := .plain) trivial rfl ?_
    cases SagaDefinitionRepository.findActiveByEvent db event.eventName event.eventVersion with
    | none =>
      refine .now fun q hq => ?_
      cases hq
      rfl
    | some d =>
      refine .ask (c := .features (.ok features)) rfl rfl ?_
      refine .ask (c := .settings (.ok settings)) rfl rfl ?_
      dsimp only
      cases SagaRouter.startFilter E d event settings with
      | error e => exact .now (hfailed e)
      | ok passes =>
        cases passes with
        | false => exact .now hdone
        | true =>
          refine .ask (c := .plain) trivial rfl ?_
          cases SagaRouter.startInput E d event features settings
              (SagaCompanyConfigRepository.findActive db event.tenantId event.companyId
                d.sagaKey) with
          | error e => exact .now (hfailed e)
          | ok proposal =>
            cases proposal with
            | none => exact .now hdone
            | some input => exact createAndAdvance_decides input

end Existence

section Example

open Scenario

/-- Conditions are one of two words. -/
def worded : Environment String :=
  { demo with
    evaluateCondition := fun source _ =>
      if source = "true" then .ok true else if source = "false" then .ok false else .error source }

theorem worded_keepsOneLive : KeepsOneLive worded := by
  intro inst other
  simp [worded, Environment.literal, and_assoc]

def receiptSaga : SagaDefinitionRecord := definitionOf [doStep "post"] []

/-- Another saga that the same event starts. -/
def letterSaga : SagaDefinitionRecord := { receiptSaga with id := "d2", sagaKey := "letter" }

/-- The company lets no receipt saga start. -/
def closedConfig : SagaCompanyConfigRecord where
  id := "o"
  tenantId := "t"
  companyId := "c"
  sagaKey := "receipt"
  overlay := { start := some { when_ := some "false" } }
  status := .active

def startedEnvelope : OutboxEnvelope String :=
  ⟨"e", "Started", some 1, some "t", some "c", "Receipt", []⟩

def startedEvent : SagaTriggerEvent String := companyEvent startedEnvelope "t" "c"

/-- Whether the program is past its gates. -/
def pastGates (p : SagaProgram String Unit) : Bool :=
  match p.front with
  | .asks q => !q.gates
  | _ => true

theorem decided_of_pastGates {p : SagaProgram String Unit} (h : pastGates p = true) :
    Decided p := by
  intro q hq
  rw [pastGates, hq] at h
  simpa using h

theorem answers_insertion : ∀ c ∈ insertion, Answers [] ([] : Fields String) c := by
  simp [insertion, Answers]

/-- The instance that a store is left with by the event, from the insertion on. -/
theorem accepted_inserting {db : SagaDb String} {sagaKeys : List String}
    (h : (@proceed (sagaSystem worded) Unit (SagaRouter.accept worded startedEnvelope) insertion
      db).map (fun r => (pastGates r.1, r.2.instances.rows.map (·.sagaKey))) =
        some (true, sagaKeys)) :
    ∃ db', Accepted worded startedEnvelope [] [] db db' ∧
      db'.instances.rows.map (·.sagaKey) = sagaKeys := by
  obtain ⟨⟨p', db'⟩, hproceed, heq⟩ := Option.map_eq_some_iff.mp h
  rw [Prod.mk.injEq] at heq
  exact ⟨db', ⟨insertion, p', hproceed, decided_of_pastGates heq.1, answers_insertion⟩, heq.2⟩

end Example

end DddBoilerplate.Saga
