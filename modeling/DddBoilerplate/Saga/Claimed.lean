/- module: DddBoilerplate/Saga/Claimed
   generality: I
   digest: Rows are only worked on by the call that claimed them or read them as stale; none is missing. -/

import DddBoilerplate.Saga.Invariant

set_option autoImplicit false
set_option relaxedAutoImplicit false
set_option linter.all false

open DddBoilerplate.Concurrency DddBoilerplate.Store

namespace DddBoilerplate.Saga

variable {J : Type} {E : Environment J} {db db' : SagaDb J}

/-- The rows a call has in hand: those it claimed, and those it read as stale. -/
structure InHand (J : Type) where
  claimed : SagaStepRecord J → Prop
  stale : SagaStepRecord J → Prop

/-- A row that is taken up or settled was claimed; the sweep queues stale ones again too. -/
def TakesUp (known : InHand J) : SagaRequest J → Prop
  | .findById (.execute row) | .markSkipped row _ _ _ | .markFailed (.missing row) =>
    known.claimed row
  | .runAction held | .markDone held _ | .markFailed (.unregistered held)
  | .markFailed (.exhausted held _) => known.claimed held.row
  | .reschedule row _ _ _ => known.claimed row ∨ known.stale row
  | .releaseOverflow overflow => ∀ row ∈ overflow, known.claimed row
  | _ => True

/-- Where such rows come from. -/
def Claims (known : InHand J) : (q : SagaRequest J) → q.Answer → Prop
  | .claimBatch _, rows => ∀ row ∈ rows, known.claimed row
  | .findStaleRunning _ _, rows => ∀ row ∈ rows, known.stale row
  | _, _ => True

abbrev KeepsTo {α : Type} (known : InHand J) (m : SagaProgram J α) : Prop :=
  Guarded (TakesUp known) (Claims known) m

variable {known : InHand J}

theorem keeps_ask {α : Type} {q : SagaRequest J} {next : q.Answer → SagaProgram J α}
    (hq : TakesUp known q) (hnext : ∀ a, Claims known q a → KeepsTo known (next a)) :
    KeepsTo known (ask q >>= next) :=
  ⟨hq, hnext⟩

theorem keeps_pure {α : Type} (a : α) : KeepsTo known (pure a : SagaProgram J α) := trivial

namespace SagaEngine

theorem complete_keeps (inst : SagaInstanceRecord J) (active : inst.status.isActive = true)
    (cursor : Nat) (ahead : inst.cursor ≤ cursor) :
    KeepsTo known (complete inst active cursor ahead) := by
  refine keeps_ask trivial fun updated _ => ?_
  cases updated with
  | none => exact keeps_pure ()
  | some inst' =>
    cases inst.plan.onComplete with
    | none => exact keeps_pure ()
    | some onComplete => exact keeps_ask trivial fun _ _ => keeps_pure ()

theorem consumeWait_keeps (w : Walk J) (wait : w.step.kind = .wait) :
    KeepsTo known (consumeWait E w wait) := by
  unfold consumeWait
  split
  · exact keeps_pure _
  · refine keeps_ask trivial fun buffered _ => Ensures.lift_bind fun found _ => ?_
    cases found with
    | none => exact keeps_pure _
    | some row => exact keeps_ask trivial fun _ _ => keeps_ask trivial fun _ _ => keeps_pure _

theorem walk_keeps (inst : SagaInstanceRecord J) (active : inst.status.isActive = true)
    (now : Nat) (steps : List SagaPlanStep) (cursor : Nat)
    (hsteps : inst.plan.steps.drop cursor = steps) (ahead : inst.cursor ≤ cursor)
    (scope : Scope J) : KeepsTo known (walk E inst active now steps cursor hsteps ahead scope) := by
  induction steps generalizing cursor scope with
  | nil => exact complete_keeps inst active cursor ahead
  | cons step rest ih =>
    rw [walk]
    refine Ensures.lift_bind fun bypassed _ => ?_
    cases bypassed with
    | true => exact keeps_ask trivial fun _ _ => ih _ _ _ _
    | false =>
      simp only [Bool.false_eq_true, if_false]
      split
      · refine Guarded.bind (consumeWait_keeps _ _) fun found => ?_
        cases found with
        | inl eventId => exact ih _ _ _ _
        | inr buffered =>
          refine Ensures.lift_bind fun timeout _ => ?_
          exact keeps_ask trivial fun _ _ => keeps_ask trivial fun _ _ => keeps_pure _
      · refine Ensures.lift_bind fun input _ => keeps_ask trivial fun created _ => ?_
        split
        · exact ih _ _ _ _
        · split
          · exact ih _ _ _ _
          · exact keeps_ask trivial fun _ _ => keeps_pure _

theorem advance_keeps (instanceId : String) : KeepsTo known (advance E instanceId) := by
  refine keeps_ask trivial fun found _ => ?_
  rcases found with _ | ⟨inst, _⟩
  · exact keeps_pure ()
  · dsimp only
    split
    · exact keeps_ask trivial fun rows _ => keeps_ask trivial fun now _ => walk_keeps _ _ _ _ _ _ _ _
    · exact keeps_pure ()

theorem createAndAdvance_keeps (input : InsertInstanceInput J) :
    KeepsTo known (createAndAdvance E input) := by
  refine keeps_ask trivial fun inserted _ => ?_
  cases inserted with
  | none => exact keeps_pure ()
  | some inst => exact advance_keeps inst.id

theorem unwind_keeps (c : Unwinding J) (scope : Scope J) (n : Nat) (below : n ≤ c.failedIndex) :
    KeepsTo known (unwind E c scope n below) := by
  induction n with
  | zero => exact keeps_ask trivial fun _ _ => keeps_pure _
  | succ index ih =>
    unfold unwind
    split
    · trivial
    · split
      · exact ih _
      · split
        · exact keeps_ask trivial fun _ _ => keeps_pure _
        · exact Ensures.lift_bind fun input _ => keeps_ask trivial fun _ _ => ih _

theorem startCompensation_keeps (inst : SagaInstanceRecord J)
    (live : inst.status.isTerminal = false) (failedIndex : Nat) (reason : SagaInstanceReason)
    (error : String) : KeepsTo known (startCompensation E inst live failedIndex reason error) := by
  unfold startCompensation
  split
  · exact keeps_ask trivial fun rows _ => keeps_ask trivial fun now _ => unwind_keeps _ _ _ _
  · exact keeps_ask trivial fun _ _ => keeps_pure _

theorem onDoSucceeded_keeps (instanceId stepId : String) :
    KeepsTo known (onDoSucceeded E instanceId stepId) := by
  refine keeps_ask trivial fun found _ => ?_
  rcases found with _ | ⟨inst, _⟩
  · exact keeps_pure ()
  · dsimp only
    split
    · split
      · exact keeps_pure ()
      · exact keeps_ask trivial fun _ _ => advance_keeps inst.id
    · exact keeps_pure ()

theorem onDoFailed_keeps (instanceId stepId error : String) (reason : SagaInstanceReason) :
    KeepsTo known (onDoFailed E instanceId stepId error reason) := by
  refine keeps_ask trivial fun found _ => ?_
  rcases found with _ | ⟨inst, _⟩
  · exact keeps_pure ()
  · dsimp only
    split
    · split
      · exact keeps_pure ()
      · exact startCompensation_keeps _ _ _ _ _
    · exact keeps_pure ()

theorem onUndoSucceeded_keeps (instanceId : String) :
    KeepsTo known (onUndoSucceeded instanceId : SagaProgram J Unit) := by
  refine keeps_ask trivial fun found _ => ?_
  rcases found with _ | ⟨inst, _⟩
  · exact keeps_pure ()
  · dsimp only
    split
    · refine keeps_ask trivial fun rows _ => ?_
      split
      · exact keeps_pure ()
      · exact keeps_ask trivial fun _ _ => keeps_pure _
    · exact keeps_pure ()

theorem onUndoFailed_keeps (instanceId error : String) :
    KeepsTo known (onUndoFailed instanceId error : SagaProgram J Unit) := by
  refine keeps_ask trivial fun found _ => ?_
  rcases found with _ | ⟨inst, _⟩
  · exact keeps_pure ()
  · dsimp only
    split
    · exact keeps_ask trivial fun _ _ => keeps_pure _
    · exact keeps_pure ()

theorem onWaitTimeout_keeps (row : WaitRow J) : KeepsTo known (onWaitTimeout E row) := by
  refine keeps_ask trivial fun found _ => ?_
  rcases found with _ | ⟨inst, _⟩
  · exact keeps_pure ()
  · dsimp only
    split
    · refine keeps_ask trivial fun _ _ => ?_
      split
      · exact startCompensation_keeps _ _ _ _ _
      · exact keeps_ask trivial fun _ _ => advance_keeps inst.id
    · exact keeps_pure ()

theorem cancel_keeps (instanceId : String) (reason : SagaInstanceReason) :
    KeepsTo known (cancel E instanceId reason) := by
  refine keeps_ask trivial fun found _ => ?_
  rcases found with _ | ⟨inst, _⟩
  · exact keeps_pure ()
  · dsimp only
    split
    · refine keeps_ask trivial fun rows _ => ?_
      split
      · exact startCompensation_keeps _ _ _ _ _
      · exact keeps_ask trivial fun _ _ => keeps_pure _
    · exact keeps_pure ()

theorem bufferForInstance_keeps (c : BufferCall J) : KeepsTo known (bufferForInstance E c) := by
  refine keeps_ask trivial fun inserted _ => ?_
  cases inserted with
  | none => exact keeps_pure ()
  | some row => exact keeps_ask trivial fun _ _ => advance_keeps c.inst.id

end SagaEngine

namespace SagaStepWorker

theorem settleFailure_keeps (held : Held J) (error : String) :
    KeepsTo known (settleFailure E held error) := by
  unfold settleFailure
  split
  · exact SagaEngine.onUndoFailed_keeps _ _
  · exact SagaEngine.onDoFailed_keeps _ _ _ _

theorem settle_keeps {held : Held J} (hrow : known.claimed held.row)
    (result : SagaActionResult J) : KeepsTo known (settle E held result) := by
  unfold settle
  split
  · refine keeps_ask hrow fun _ _ => ?_
    split
    · exact SagaEngine.onUndoSucceeded_keeps _
    · exact SagaEngine.onDoSucceeded_keeps _ _
  · split
    · exact keeps_ask trivial fun now _ => keeps_ask (.inl hrow) fun _ _ => keeps_pure _
    · exact keeps_ask hrow fun _ _ => settleFailure_keeps held _

theorem run_keeps {held : Held J} (hrow : known.claimed held.row) :
    KeepsTo known (run E held) := by
  unfold run
  split
  · refine keeps_ask hrow fun result _ => ?_
    cases result with
    | ok result => exact settle_keeps hrow _
    | error message => exact settle_keeps hrow _
  · exact keeps_ask hrow fun _ _ => settleFailure_keeps _ _

theorem execute_keeps {row : SagaStepRecord J} (hrow : known.claimed row) :
    KeepsTo known (execute E row) := by
  refine keeps_ask hrow fun found _ => ?_
  rcases found with _ | ⟨inst, same⟩
  · exact keeps_ask hrow fun _ _ => keeps_pure _
  · dsimp only
    split
    · rename_i live
      have hheld : known.claimed (Held.row ⟨row, inst, same, live⟩) := hrow
      exact run_keeps hheld
    · exact keeps_ask hrow fun _ _ => keeps_pure _

theorem executeAll_keeps {rows : List (SagaStepRecord J)}
    (hrows : ∀ row ∈ rows, known.claimed row) : KeepsTo known (executeAll E rows) := by
  induction rows with
  | nil => exact keeps_pure ()
  | cons row rest ih =>
    exact Guarded.bind (execute_keeps (hrows row List.mem_cons_self))
      fun _ => ih fun row' hrow' => hrows row' (List.mem_cons_of_mem _ hrow')

/-- Neither part of a capped claim holds a row the claim does not. -/
theorem mem_capRows {fairnessCap : Nat} {row : SagaStepRecord J} (rows : List (SagaStepRecord J))
    (seen : List String)
    (h : row ∈ (SagaStepRepository.capRows fairnessCap rows seen).1 ∨
      row ∈ (SagaStepRepository.capRows fairnessCap rows seen).2) : row ∈ rows := by
  induction rows generalizing seen with
  | nil => rcases h with h | h <;> cases h
  | cons r rest ih =>
    unfold SagaStepRepository.capRows at h
    split at h
    · rcases h with h | h
      · exact List.mem_cons_of_mem _ (ih seen (.inl h))
      · rcases List.mem_cons.mp h with rfl | h
        · exact List.mem_cons_self
        · exact List.mem_cons_of_mem _ (ih seen (.inr h))
    · rcases h with h | h
      · rcases List.mem_cons.mp h with rfl | h
        · exact List.mem_cons_self
        · exact List.mem_cons_of_mem _ (ih _ (.inl h))
      · exact List.mem_cons_of_mem _ (ih _ (.inr h))

theorem mem_applyFairnessCap {fairnessCap : Nat} {row : SagaStepRecord J}
    {rows : List (SagaStepRecord J)}
    (h : row ∈ (SagaStepRepository.applyFairnessCap rows fairnessCap).1 ∨
      row ∈ (SagaStepRepository.applyFairnessCap rows fairnessCap).2) : row ∈ rows := by
  unfold SagaStepRepository.applyFairnessCap at h
  split at h
  · rcases h with h | h
    · exact h
    · cases h
  · exact mem_capRows rows [] h

theorem runBatch_keeps (workerId : String) : KeepsTo known (runBatch E workerId) := by
  refine keeps_ask trivial fun now _ => keeps_ask trivial fun rows hrows => ?_
  have hclaimed : KeepsTo known (executeAll E
      (SagaStepRepository.applyFairnessCap rows E.config.fairnessCap).1) :=
    executeAll_keeps fun row hrow => hrows row (mem_applyFairnessCap (.inl hrow))
  dsimp only
  split
  · exact hclaimed
  · exact keeps_ask (fun row hrow => hrows row (mem_applyFairnessCap (.inr hrow)))
      fun _ _ => hclaimed

end SagaStepWorker

namespace SagaScheduler

theorem expireAll_keeps (rows : List (WaitRow J)) : KeepsTo known (expireAll E rows) := by
  induction rows with
  | nil => exact keeps_pure ()
  | cons row rest ih => exact Guarded.bind (SagaEngine.onWaitTimeout_keeps row) fun _ => ih

theorem requeueAll_keeps {rows : List (SagaStepRecord J)} (hrows : ∀ row ∈ rows, known.stale row) :
    KeepsTo known (requeueAll rows) := by
  induction rows with
  | nil => exact keeps_pure ()
  | cons row rest ih =>
    have hrow := hrows row List.mem_cons_self
    exact keeps_ask trivial fun now _ => keeps_ask (.inr hrow) fun _ _ =>
      ih fun row' hrow' => hrows row' (List.mem_cons_of_mem _ hrow')

theorem tick_keeps (workerId : String) : KeepsTo known (tick E workerId) := by
  refine Guarded.bind (SagaStepWorker.runBatch_keeps workerId) fun _ => ?_
  refine Guarded.bind (keeps_ask trivial fun now _ =>
    keeps_ask trivial fun due _ => expireAll_keeps due) fun _ => ?_
  exact keeps_ask trivial fun now _ => keeps_ask trivial fun stale hstale => requeueAll_keeps hstale

end SagaScheduler

namespace SagaRouter

theorem findTarget_keeps (sagaKey key : String) :
    KeepsTo known (findTarget sagaKey key : SagaProgram J _) :=
  keeps_ask trivial fun _ _ => keeps_pure _

theorem routeCancel_keeps (definition : SagaDefinitionRecord) (event : SagaTriggerEvent J) :
    KeepsTo known (routeCancel E definition event) := by
  refine Ensures.lift_bind fun key _ => Guarded.bind (findTarget_keeps _ _) fun found => ?_
  cases found with
  | none => exact keeps_pure ()
  | some inst => exact SagaEngine.cancel_keeps _ _

theorem matchedTargets_keeps (definition : SagaDefinitionRecord) (event : SagaTriggerEvent J)
    (steps : List SagaStepSpec) (targets : List (SagaInstanceRecord J)) :
    KeepsTo known (matchedTargets E definition event steps targets) := by
  induction steps generalizing targets with
  | nil => exact keeps_pure _
  | cons step rest ih =>
    unfold matchedTargets
    split
    · exact ih _
    · refine Ensures.lift_bind fun key _ => Guarded.bind (findTarget_keeps _ _) fun found => ?_
      cases found with
      | none => exact ih _
      | some inst => exact ih _

theorem bufferAll_keeps (event : SagaTriggerEvent J) (targets : List (SagaInstanceRecord J)) :
    KeepsTo known (bufferAll E event targets) := by
  induction targets with
  | nil => exact keeps_pure ()
  | cons inst rest ih => exact Guarded.bind (SagaEngine.bufferForInstance_keeps _) fun _ => ih

theorem routeWait_keeps (definition : SagaDefinitionRecord) (event : SagaTriggerEvent J) :
    KeepsTo known (routeWait E definition event) := by
  unfold routeWait
  dsimp only
  split
  · exact keeps_pure ()
  · exact Guarded.bind (matchedTargets_keeps _ _ _ _) fun targets =>
      keeps_ask trivial fun parked _ => bufferAll_keeps _ _

theorem tryStart_keeps (definition : SagaDefinitionRecord) (event : SagaTriggerEvent J) :
    KeepsTo known (tryStart E definition event) := by
  refine keeps_ask trivial fun features _ => ?_
  cases features with
  | error message => exact keeps_pure ()
  | ok features =>
    refine keeps_ask trivial fun settings _ => ?_
    cases settings with
    | error message => exact keeps_pure ()
    | ok settings =>
      refine Ensures.lift_bind fun starts _ => ?_
      split
      · refine keeps_ask trivial fun config _ => Ensures.lift_bind fun input _ => ?_
        cases input with
        | none => exact keeps_pure ()
        | some input => exact SagaEngine.createAndAdvance_keeps input
      · exact keeps_pure ()

theorem routeAll_keeps (event : SagaTriggerEvent J) (definitions : List SagaDefinitionRecord) :
    KeepsTo known (routeAll E event definitions) := by
  induction definitions with
  | nil => exact keeps_pure ()
  | cons definition rest ih =>
    have hrest : KeepsTo known (routeWait E definition event >>= fun _ => routeAll E event rest) :=
      Guarded.bind (routeWait_keeps _ _) fun _ => ih
    unfold routeAll
    dsimp only
    split
    · exact Guarded.bind (routeCancel_keeps _ _) fun _ => hrest
    · exact hrest

theorem accept_keeps (envelope : OutboxEnvelope J) : KeepsTo known (accept E envelope) := by
  unfold accept
  split
  · exact keeps_pure ()
  · refine keeps_ask trivial fun start _ => ?_
    cases start with
    | some definition => exact tryStart_keeps _ _
    | none => exact keeps_ask trivial fun active _ => routeAll_keeps _ _

end SagaRouter

theorem program_keeps (entry : SagaEntry J) : KeepsTo known (entry.program E) := by
  cases entry with
  | accept envelope => exact SagaRouter.accept_keeps envelope
  | tick workerId => exact SagaScheduler.tick_keeps workerId
  | cleanupInbox => exact keeps_ask trivial fun now _ => keeps_ask trivial fun _ _ => keeps_pure _
  | createAndAdvance input => exact SagaEngine.createAndAdvance_keeps input
  | advance id => exact SagaEngine.advance_keeps id
  | onDoSucceeded id stepId => exact SagaEngine.onDoSucceeded_keeps id stepId
  | onDoFailed id stepId error reason => exact SagaEngine.onDoFailed_keeps id stepId error reason
  | onUndoSucceeded id => exact SagaEngine.onUndoSucceeded_keeps id
  | onUndoFailed id error => exact SagaEngine.onUndoFailed_keeps id error
  | onWaitTimeout row => exact SagaEngine.onWaitTimeout_keeps row
  | cancel id reason => exact SagaEngine.cancel_keeps id reason
  | bufferForInstance c => exact SagaEngine.bufferForInstance_keeps c

/-- An instance is reported missing right after the worker looked for it in vain. -/
theorem follow_missing {q : SagaRequest J} {a : q.Answer} {row : SagaStepRecord J}
    (h : follow E q a (.asks (.markFailed (.missing row)))) :
    ∃ hq : q = .findById (.execute row), hq ▸ a = none := by
  have hq : q.function = .execute := by
    rcases follow_function h rfl with hf | ⟨hf, _⟩
    · exact hf.symm
    · cases hf
  cases executeCall_of_function hq with
  | execute row' =>
    rcases a with _ | ⟨found, hid⟩
    · cases h
      exact ⟨rfl, rfl⟩
    · rcases h with ⟨_, h⟩ | ⟨_, h⟩ | ⟨_, h⟩ <;> cases h
  | missing row' => cases h
  | unregistered held => cases fresh_of_failure h
  | exhausted held error => cases fresh_of_failure h
  | runAction held => rcases h with h | ⟨_, h⟩ | ⟨_, h⟩ <;> cases h
  | markDone held output =>
    dsimp only [follow] at h
    split at h <;> cases h
  | markSkipped row' inst same ended => cases h

/-- The instance is stored. -/
def SagaDb.Stored (db : SagaDb J) (id : String) : Prop := ∃ inst, db.instances.get? id = some inst

/-- The row is stored. -/
def SagaDb.HasRow (db : SagaDb J) (k : SagaStepKey) : Prop := ∃ row, db.steps.get? k = some row

theorem stored_after {q : SagaRequest J} {a : q.Answer} (h : SagaServes E q db a db')
    {id : String} (hid : db.Stored id) : db'.Stored id := by
  obtain ⟨inst, hinst⟩ := hid
  cases instances_after h id with
  | unchanged same => exact ⟨inst, same.trans hinst⟩
  | inserted input call before after => exact ⟨_, after⟩
  | written c cur call target before fenced after => exact ⟨_, after⟩

theorem hasRow_after {q : SagaRequest J} {a : q.Answer} (h : SagaServes E q db a db')
    {k : SagaStepKey} (hk : db.HasRow k) : db'.HasRow k := by
  obtain ⟨row, hrow⟩ := hk
  cases steps_after h k with
  | unchanged same => exact ⟨row, same.trans hrow⟩
  | changed old new before after change => exact ⟨_, after⟩
  | inserted c call key before after => exact ⟨_, after⟩

theorem mem_claimBatch {input : ClaimStepsInput} {rows : List (SagaStepRecord J)}
    (h : SagaServes E (.claimBatch input) db rows db') {row : SagaStepRecord J}
    (hrow : row ∈ rows) : row ∈ db'.steps.rows := by
  obtain ⟨picked, hclaim⟩ := serves_claimBatch h
  unfold SagaStepRepository.claimBatch at hclaim
  split at hclaim
  · obtain ⟨hrows, hdb⟩ := Prod.mk.inj (Option.some.inj hclaim)
    rw [← hrows] at hrow
    obtain ⟨k, _, hget⟩ := List.mem_filterMap.mp hrow
    rw [← hdb]
    exact Table.mem_of_get? hget
  · cases hclaim

/-- Every step row has its instance, every row about to be taken up is stored, and no worker
is about to report an instance missing. -/
structure Claimed (P : SagaPool E) : Prop where
  rows : ∀ k, P.store.HasRow k → P.store.Stored k.instanceId
  threads : ∀ p ∈ P.threads, ∀ known : InHand J, (∀ row, P.store.HasRow row.id → known.claimed row) →
    (∀ row, known.stale row) → KeepsTo known p
  found : ∀ p ∈ P.threads, ∀ row, p.front ≠ .asks (.markFailed (.missing row))

variable {ok : SagaPool E → Label (sagaSystem E) → Prop} {P Q : SagaPool E}
variable {trace : List (Label (sagaSystem E))} {l : Label (sagaSystem E)}

/-- A row that is taken up is stored. -/
theorem Claimed.takes {i : Nat} {row : SagaStepRecord J}
    {next : SagaRequest.Answer (.findById (.execute row)) → SagaProgram J Unit} (hP : Claimed P)
    (here : P.threads[i]? = some (@Program.ask (sagaInterface J) Unit (.findById (.execute row)) next)) :
    P.store.HasRow row.id :=
  (hP.threads _ (List.mem_of_getElem? here) ⟨fun row => P.store.HasRow row.id, fun _ => True⟩
    (fun _ h => h) fun _ => trivial).1

theorem rows_stored_after {q : SagaRequest J} {a : q.Answer} (h : SagaServes E q db a db')
    (hheld : HeldKnown db (.asks q)) (hrows : ∀ k, db.HasRow k → db.Stored k.instanceId)
    (k : SagaStepKey) (hk : db'.HasRow k) : db'.Stored k.instanceId := by
  obtain ⟨row, hrow⟩ := hk
  cases steps_after h k with
  | unchanged same => exact stored_after h (hrows k ⟨row, same.symm.trans hrow⟩)
  | changed old new before after change => exact stored_after h (hrows k ⟨old, before⟩)
  | inserted c call key before after =>
    subst call
    have hkey : c.inst.id = k.instanceId := by
      have hid := congrArg SagaStepKey.instanceId key
      cases c <;> exact hid
    obtain ⟨cur, hcur, _⟩ := (hheld c.inst rfl).known
    rw [hkey] at hcur
    exact stored_after h ⟨cur, hcur⟩

theorem Claimed.step (hsound : Sound P) (hP : Claimed P) (h : Step (sagaSystem E) P l Q) :
    Claimed Q := by
  cases h with
  | start store threads entry =>
    refine ⟨hP.rows, fun p hp known hknown hstale => ?_, fun p hp row hrow => ?_⟩
    · rcases List.mem_append.mp hp with hp | hp
      · exact hP.threads p hp known hknown hstale
      · rw [List.mem_singleton.mp hp]
        exact program_keeps entry
    · rcases List.mem_append.mp hp with hp | hp
      · exact hP.found p hp row hrow
      · rw [List.mem_singleton.mp hp] at hrow
        have hfresh := program_fresh (E := E) entry
        rw [hrow] at hfresh
        cases hfresh
  | @served store store' threads i q next a here answered =>
    have hmem := List.mem_of_getElem? here
    have hrows := rows_stored_after answered (hsound.known _ hmem) hP.rows
    refine ⟨hrows, fun p hp known hknown hstale => ?_, fun p hp row hrow => ?_⟩
    · have hbefore (row : SagaStepRecord J) (hk : store.HasRow row.id) : known.claimed row :=
        hknown row (hasRow_after answered hk)
      rcases mem_set_cases hp with rfl | ⟨j, _, hp⟩
      · refine (hP.threads _ hmem known hbefore hstale).2 a ?_
        cases q with
        | claimBatch input =>
          intro row hrow
          have hclaimed := mem_claimBatch answered hrow
          exact hknown row ⟨row, Table.get?_of_mem hclaimed⟩
        | findStaleRunning now limit => exact fun row _ => hstale row
        | _ => trivial
      · exact hP.threads p (List.mem_of_getElem? hp) known hbefore hstale
    · rcases mem_set_cases hp with rfl | ⟨j, _, hp⟩
      · have hfollow := (hsound.linked _ hmem a).1
        rw [hrow] at hfollow
        obtain ⟨rfl, hnone⟩ := follow_missing hfollow
        obtain ⟨inst, hinst⟩ : store.Stored row.instanceId := hP.rows row.id (hP.takes here)
        obtain ⟨found, hfound, _⟩ := found_of_statusOf answered (SagaDb.statusOf_of_get? hinst)
        rw [hfound] at hnone
        cases hnone
      · exact hP.found p (List.mem_of_getElem? hp) row hrow
  | raised here error =>
    refine ⟨hP.rows, fun p hp known hknown hstale => ?_, fun p hp row hrow => ?_⟩
    · rcases mem_set_cases hp with rfl | ⟨j, _, hp⟩
      · trivial
      · exact hP.threads p (List.mem_of_getElem? hp) known hknown hstale
    · rcases mem_set_cases hp with rfl | ⟨j, _, hp⟩
      · cases hrow
      · exact hP.found p (List.mem_of_getElem? hp) row hrow

theorem claimed_of_run (h : Run ok P trace Q) (hP : Initial P) : Claimed Q := by
  refine (h.strengthen fun h => sound_of_run h hP.sound).invariant ?_
    fun _ _ _ hQ hok hs => hQ.step hok.2 hs
  refine ⟨fun k hk => ?_, fun p hp => ?_, fun p hp => ?_⟩
  · obtain ⟨row, hrow⟩ := hk
    rw [hP.steps] at hrow
    cases hrow
  · simp [hP.threads] at hp
  · simp [hP.threads] at hp

end DddBoilerplate.Saga
