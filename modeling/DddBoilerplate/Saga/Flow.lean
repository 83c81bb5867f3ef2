/- module: DddBoilerplate/Saga/Flow
   generality: I
   digest: Every function of the saga module goes from call to call as `follow` says. -/

import DddBoilerplate.Saga.System

set_option autoImplicit false
set_option relaxedAutoImplicit false
set_option linter.all false

open DddBoilerplate.Concurrency

namespace DddBoilerplate.Saga

variable {J : Type} (E : Environment J)

/-- A part of the saga module, entered at one of the given fronts. -/
abbrev SagaPhrase {α : Type} (entry : SagaFront J → Prop) (m : SagaProgram J α) : Prop :=
  Phrase (follow E) Fresh entry m

variable {E}

theorem done_phrase {entry : SagaFront J → Prop} (hentry : ∀ f, Fresh f → entry f) :
    SagaPhrase E entry (pure () : SagaProgram J Unit) :=
  Phrase.done hentry ()

/-- The last call of a function: what follows it is fresh. -/
theorem last_phrase {α : Type} {entry : SagaFront J → Prop} {q : SagaRequest J}
    (henter : entry (.asks q)) (hleave : ∀ a f, Fresh f → follow E q a f) (g : q.Answer → α) :
    SagaPhrase E entry (ask q >>= fun a => (pure (g a) : SagaProgram J α)) :=
  Phrase.ask henter fun a => Phrase.done (hleave a) _

theorem ask_phrase {α : Type} {entry : SagaFront J → Prop} {q : SagaRequest J}
    {next : q.Answer → SagaProgram J α} (henter : entry (.asks q))
    (hnext : ∀ a, SagaPhrase E (follow E q a) (next a)) :
    SagaPhrase E entry (ask q >>= next) :=
  Phrase.ask henter hnext

section Branches

variable {c a b : Prop} [Decidable c]

theorem at_then {p : c → Prop} {q : ¬c → Prop} (h : c) (hp : p h) : dite c p q := by
  rw [dif_pos h]
  exact hp

theorem at_else {p : c → Prop} {q : ¬c → Prop} (h : ¬c) (hq : q h) : dite c p q := by
  rw [dif_neg h]
  exact hq

theorem within_then (h : c) (ha : a) : if c then a else b := by
  rw [if_pos h]
  exact ha

theorem within_else (h : ¬c) (hb : b) : if c then a else b := by
  rw [if_neg h]
  exact hb

end Branches

namespace SagaEngine

theorem complete_phrase (inst : SagaInstanceRecord J) (active : inst.status.isActive = true)
    (cursor : Nat) (ahead : inst.cursor ≤ cursor) {entry : SagaFront J → Prop}
    (henter : entry (.asks (.updateCas (.complete inst active cursor ahead)))) :
    SagaPhrase E entry (complete inst active cursor ahead) := by
  refine ask_phrase henter fun updated => ?_
  cases updated with
  | none => exact done_phrase fun _ hf => .inl hf
  | some inst' =>
    cases hplan : inst.plan.onComplete with
    | none => exact done_phrase fun _ hf => .inl hf
    | some onComplete =>
      exact Phrase.ask (.inr ⟨_, rfl⟩) fun _ => Phrase.done (fun _ hf => hf) _

/-- A walk that parks: the WAIT row first, then the write. -/
theorem park_phrase (w : Walk J) (wait : w.step.kind = .wait)
    (buffered : List (SagaInboxRecord J)) {entry : SagaFront J → Prop} (hfail : entry .failed)
    (henter : ∀ timeout, entry (.asks (.createIfAbsent (.park w wait buffered timeout)))) :
    SagaPhrase E entry (do
      let timeout ← Program.lift (timeoutMs E w.step)
      let _ ← ask (.createIfAbsent (.park w wait buffered timeout))
      let _ ← ask (.updateCas (.park w wait buffered))) := by
  refine Phrase.lift_bind (fun _ _ => hfail) fun timeout _ => ?_
  refine ask_phrase (henter timeout) fun _ => ?_
  exact last_phrase rfl (fun _ _ hf => by exact hf) fun _ => ()

theorem walk_phrase (inst : SagaInstanceRecord J) (active : inst.status.isActive = true)
    (now : Nat) (steps : List SagaPlanStep) (cursor : Nat)
    (hsteps : inst.plan.steps.drop cursor = steps) (ahead : inst.cursor ≤ cursor)
    (scope : Scope J) :
    SagaPhrase E (WalkFront E inst cursor scope) (walk E inst active now steps cursor hsteps ahead scope) := by
  induction steps generalizing cursor scope with
  | nil =>
    exact complete_phrase inst active cursor ahead
      (.inr (.inl ⟨List.drop_eq_nil_iff.mp hsteps, active, ahead, rfl⟩))
  | cons step rest ih =>
    rw [walk]
    have here := getElem?_of_drop hsteps
    refine Phrase.lift_bind (fun _ _ => .inl rfl) fun bypassed hbypassed => ?_
    cases bypassed with
    | true =>
      refine ask_phrase (.inr (.inr ⟨⟨inst, active, now, cursor, ahead, step, here, scope⟩,
        rfl, rfl, rfl, .inl ⟨hbypassed, rfl⟩⟩)) fun _ => ?_
      exact ih (cursor + 1) _ _ scope
    | false =>
      simp only [Bool.false_eq_true, if_false]
      let w : Walk J := ⟨inst, active, now, cursor, ahead, step, here, scope⟩
      have at_step (f : SagaFront J) (hf : (∃ wait ref, step.waitFor = some ref ∧
          f = .asks (.listBuffered w wait ref)) ∨
          (∃ wait timeout, step.waitFor = none ∧ f = .asks (.createIfAbsent (.park w wait [] timeout))) ∨
          ∃ do_ input, f = .asks (.createIfAbsent (.handOver w do_ input))) :
          WalkFront E inst cursor scope f :=
        .inr (.inr ⟨w, rfl, rfl, rfl, .inr ⟨hbypassed, hf⟩⟩)
      split
      · rename_i kind
        unfold consumeWait
        cases hwait : step.waitFor with
        | none =>
          exact park_phrase w kind [] (.inl rfl) fun timeout =>
            at_step _ (.inr (.inl ⟨kind, timeout, hwait, rfl⟩))
        | some ref =>
          rw [Program.bind_assoc]
          refine ask_phrase (at_step _ (.inl ⟨kind, ref, hwait, rfl⟩)) fun buffered => ?_
          rw [Program.bind_assoc]
          refine Phrase.lift_bind (fun _ _ => .inl rfl) fun found hfound => ?_
          cases found with
          | none =>
            exact park_phrase w kind buffered (.inl rfl) fun timeout =>
              .inr (.inr ⟨hfound, timeout, rfl⟩)
          | some row =>
            refine ask_phrase (.inr (.inl ⟨row, _, hfound, rfl⟩)) fun _ => ?_
            refine ask_phrase rfl fun _ => ?_
            exact (ih (cursor + 1) _ _ _).mono fun _ hf => ⟨_, hf⟩
      · rename_i kind
        refine Phrase.lift_bind (fun _ _ => .inl rfl) fun input _ => ?_
        refine ask_phrase (at_step _ (.inr (.inr ⟨kind, input, rfl⟩))) fun created => ?_
        by_cases hdone : created.status = .done
        · rw [if_pos hdone]
          exact (ih (cursor + 1) _ _ _).mono fun f hf => within_then (.inl hdone) ⟨_, hf⟩
        · rw [if_neg hdone]
          by_cases hskipped : created.status = .skipped
          · rw [if_pos hskipped]
            exact (ih (cursor + 1) _ _ _).mono fun f hf => within_then (.inr hskipped) ⟨_, hf⟩
          · rw [if_neg hskipped]
            have hneither : ¬(created.status = .done ∨ created.status = .skipped) :=
              not_or.mpr ⟨hdone, hskipped⟩
            refine last_phrase ?_ (fun _ _ hf => by exact hf) fun _ => ()
            exact within_else hneither rfl

theorem advance_phrase (instanceId : String) {entry : SagaFront J → Prop}
    (henter : entry (.asks (.findById (.advance instanceId)))) :
    SagaPhrase E entry (advance E instanceId) := by
  refine ask_phrase henter fun found => ?_
  rcases found with _ | ⟨inst, _⟩
  · exact done_phrase fun _ hf => hf
  · dsimp only
    split
    · rename_i active
      refine ask_phrase (at_then active rfl) fun rows => ?_
      refine ask_phrase rfl fun now => ?_
      exact walk_phrase inst active now _ _ rfl (Nat.le_refl _) _
    · rename_i active
      exact done_phrase fun f hf => at_else active hf

theorem createAndAdvance_phrase (input : InsertInstanceInput J) :
    SagaPhrase E Fresh (createAndAdvance E input) := by
  refine ask_phrase rfl fun inserted => ?_
  cases inserted with
  | none => exact done_phrase fun _ hf => hf
  | some inst => exact advance_phrase inst.id rfl

theorem unwind_phrase (c : Unwinding J) (scope : Scope J) (n : Nat) (below : n ≤ c.failedIndex) :
    SagaPhrase E (UnwindFront c n) (unwind E c scope n below) := by
  induction n with
  | zero => exact last_phrase rfl (fun _ _ hf => by exact hf) fun _ => ()
  | succ index ih =>
    unfold unwind
    split
    · rename_i here
      exact Phrase.fail (by simp only [UnwindFront, here]) _
    · rename_i step here
      split
      · rename_i completed
        exact (ih (by omega)).mono fun f hf => by simpa only [UnwindFront, here, completed] using hf
      · rename_i row completed
        have entry (f : SagaFront J) (hf : f = .failed ∨ f = .asks (.updateCas (.noUndo c step)) ∨
            ∃ below step here row completed action input,
              f = .asks (.createIfAbsent (.undo c index below step here row completed action input))) :
            UnwindFront c (index + 1) f := by
          simpa only [UnwindFront, here, completed] using hf
        split
        · refine last_phrase (entry _ (.inr (.inl rfl))) (fun _ _ hf => by exact hf) fun _ => ()
        · rename_i action _
          refine Phrase.lift_bind (fun _ _ => entry _ (.inl rfl)) fun input _ => ?_
          refine ask_phrase (entry _ (.inr (.inr
            ⟨below, step, here, row, completed, action, _, rfl⟩))) fun _ => ?_
          exact ih (by omega)

theorem startCompensation_phrase (inst : SagaInstanceRecord J)
    (live : inst.status.isTerminal = false) (failedIndex : Nat) (reason : SagaInstanceReason)
    (error : String) {entry : SagaFront J → Prop}
    (henter : ∀ f, CompensationFront inst live failedIndex reason error f → entry f) :
    SagaPhrase E entry (startCompensation E inst live failedIndex reason error) := by
  unfold startCompensation
  split
  · rename_i before
    refine ask_phrase (henter _ (.inl ⟨before, rfl⟩)) fun rows => ?_
    refine ask_phrase rfl fun now => ?_
    exact unwind_phrase _ _ _ _
  · rename_i after
    refine last_phrase (henter _ (.inr ⟨?_, rfl⟩)) (fun _ _ hf => by exact hf) fun _ => ()
    cases hpivot : inst.plan.pivotIndex with
    | none => simp [hpivot] at after
    | some pivot =>
      simp only [hpivot, Option.all_some, decide_eq_true_eq, Nat.not_le] at after
      exact ⟨pivot, rfl, after⟩

theorem onDoSucceeded_phrase (instanceId stepId : String) {entry : SagaFront J → Prop}
    (henter : entry (.asks (.findById (.onDoSucceeded instanceId stepId)))) :
    SagaPhrase E entry (onDoSucceeded E instanceId stepId) := by
  refine ask_phrase henter fun found => ?_
  rcases found with _ | ⟨inst, _⟩
  · exact done_phrase fun _ hf => hf
  · dsimp only
    split
    · rename_i live
      split
      · rename_i hindex
        refine done_phrase fun f hf => at_then live ?_
        rw [hindex]
        exact hf
      · rename_i index hindex
        refine ask_phrase (at_then live ?_) fun _ => advance_phrase inst.id rfl
        rw [hindex]
    · rename_i live
      exact done_phrase fun f hf => at_else live hf

theorem onDoFailed_phrase (instanceId stepId error : String) (reason : SagaInstanceReason)
    {entry : SagaFront J → Prop}
    (henter : entry (.asks (.findById (.onDoFailed instanceId stepId error reason)))) :
    SagaPhrase E entry (onDoFailed E instanceId stepId error reason) := by
  refine ask_phrase henter fun found => ?_
  rcases found with _ | ⟨inst, _⟩
  · exact done_phrase fun _ hf => hf
  · dsimp only
    split
    · rename_i live
      split
      · rename_i hindex
        refine done_phrase fun f hf => at_then live ?_
        rw [hindex]
        exact hf
      · rename_i index hindex
        refine startCompensation_phrase inst live index reason error fun f hf => ?_
        refine at_then live ?_
        rw [hindex]
        exact hf
    · rename_i live
      exact done_phrase fun f hf => at_else live hf

theorem onUndoSucceeded_phrase (instanceId : String) {entry : SagaFront J → Prop}
    (henter : entry (.asks (.findById (.onUndoSucceeded instanceId)))) :
    SagaPhrase E entry (onUndoSucceeded instanceId) := by
  refine ask_phrase henter fun found => ?_
  rcases found with _ | ⟨inst, _⟩
  · exact done_phrase fun _ hf => hf
  · dsimp only
    split
    · rename_i compensating
      refine ask_phrase (at_then compensating rfl) fun rows => ?_
      split
      · rename_i pending
        exact done_phrase fun f hf => within_then pending hf
      · rename_i pending
        refine last_phrase ?_ (fun _ _ hf => by exact hf) fun _ => ()
        exact within_else pending rfl
    · rename_i compensating
      exact done_phrase fun f hf => at_else compensating hf

theorem onUndoFailed_phrase (instanceId error : String) {entry : SagaFront J → Prop}
    (henter : entry (.asks (.findById (.onUndoFailed instanceId error)))) :
    SagaPhrase E entry (onUndoFailed instanceId error) := by
  refine ask_phrase henter fun found => ?_
  rcases found with _ | ⟨inst, _⟩
  · exact done_phrase fun _ hf => hf
  · dsimp only
    split
    · rename_i live
      refine last_phrase ?_ (fun _ _ hf => by exact hf) fun _ => ()
      exact at_then live rfl
    · rename_i live
      exact done_phrase fun f hf => at_else live hf

theorem onWaitTimeout_phrase (row : WaitRow J) : SagaPhrase E Fresh (onWaitTimeout E row) := by
  refine ask_phrase rfl fun found => ?_
  rcases found with _ | ⟨inst, _⟩
  · exact done_phrase fun _ hf => hf
  · dsimp only
    split
    · rename_i live
      refine ask_phrase (at_then live rfl) fun _ => ?_
      split
      · rename_i compensates
        exact startCompensation_phrase inst live _ _ _ fun f hf =>
          within_then compensates ⟨_, hf⟩
      · rename_i skips
        refine ask_phrase (within_else skips rfl) fun _ => ?_
        exact advance_phrase inst.id rfl
    · rename_i live
      exact done_phrase fun f hf => at_else live hf

theorem cancel_phrase (instanceId : String) (reason : SagaInstanceReason) :
    SagaPhrase E Fresh (cancel E instanceId reason) := by
  refine ask_phrase rfl fun found => ?_
  rcases found with _ | ⟨inst, _⟩
  · exact done_phrase fun _ hf => hf
  · dsimp only
    split
    · rename_i live
      refine ask_phrase (at_then live rfl) fun rows => ?_
      split
      · rename_i completed
        exact startCompensation_phrase inst live _ _ _ fun f hf =>
          within_then completed ⟨_, hf⟩
      · rename_i none_
        refine last_phrase ?_ (fun _ _ hf => by exact hf) fun _ => ()
        exact within_else none_ rfl
    · rename_i live
      exact done_phrase fun f hf => at_else live hf

theorem bufferForInstance_phrase (c : BufferCall J) : SagaPhrase E Fresh (bufferForInstance E c) := by
  refine ask_phrase rfl fun inserted => ?_
  cases inserted with
  | none => exact done_phrase fun _ hf => hf
  | some row =>
    refine ask_phrase rfl fun _ => ?_
    exact advance_phrase c.inst.id rfl

end SagaEngine

namespace SagaStepWorker

theorem settleFailure_phrase (held : Held J) (error : String) {entry : SagaFront J → Prop}
    (henter : ∀ f, FailureFront held f → entry f) :
    SagaPhrase E entry (settleFailure E held error) := by
  unfold settleFailure
  split
  · rename_i undo
    exact SagaEngine.onUndoFailed_phrase _ _ (henter _ (by rw [FailureFront, if_pos undo]; exact ⟨_, rfl⟩))
  · rename_i do_
    exact SagaEngine.onDoFailed_phrase _ _ _ _
      (henter _ (by rw [FailureFront, if_neg do_]; exact ⟨_, rfl⟩))

theorem settle_phrase (held : Held J) (result : SagaActionResult J) {entry : SagaFront J → Prop}
    (henter : ∀ f, Fresh f ∨ (∃ output, f = .asks (.markDone held output)) ∨
      (∃ error, f = .asks (.markFailed (.exhausted held error))) → entry f) :
    SagaPhrase E entry (settle E held result) := by
  unfold settle
  split
  · refine ask_phrase (henter _ (.inr (.inl ⟨_, rfl⟩))) fun _ => ?_
    split
    · rename_i undo
      exact SagaEngine.onUndoSucceeded_phrase _ (within_then undo rfl)
    · rename_i do_
      exact SagaEngine.onDoSucceeded_phrase _ _ (within_else do_ rfl)
  · split
    · refine ask_phrase (henter _ (.inl rfl)) fun now => ?_
      exact Phrase.ask rfl fun _ => Phrase.done (fun _ hf => hf) _
    · refine ask_phrase (henter _ (.inr (.inr ⟨_, rfl⟩))) fun _ => ?_
      exact settleFailure_phrase held _ fun _ hf => hf

theorem execute_phrase (row : SagaStepRecord J) : SagaPhrase E Fresh (execute E row) := by
  refine ask_phrase rfl fun found => ?_
  rcases found with _ | ⟨inst, same⟩
  · exact Phrase.ask rfl fun _ => Phrase.done (fun _ hf => hf) _
  · dsimp only
    split
    · rename_i live
      unfold run
      split
      · refine ask_phrase (.inl ⟨live, rfl⟩) fun result => ?_
        cases result with
        | ok result => exact settle_phrase _ result fun _ hf => hf
        | error message => exact settle_phrase _ _ fun _ hf => hf
      · refine ask_phrase (.inr (.inl ⟨live, rfl⟩)) fun _ => ?_
        exact settleFailure_phrase _ _ fun _ hf => hf
    · exact Phrase.ask (.inr (.inr ⟨_, rfl⟩)) fun _ => Phrase.done (fun _ hf => hf) _

theorem executeAll_phrase (rows : List (SagaStepRecord J)) {entry : SagaFront J → Prop}
    (hentry : ∀ f, Fresh f → entry f) : SagaPhrase E entry (executeAll E rows) := by
  induction rows generalizing entry with
  | nil => exact done_phrase hentry
  | cons row rest ih =>
    exact ((execute_phrase row).mono hentry).bind fun _ => ih fun _ hf => hf

theorem runBatch_phrase (workerId : String) : SagaPhrase E Fresh (runBatch E workerId) := by
  refine ask_phrase rfl fun now => ?_
  refine ask_phrase rfl fun rows => ?_
  dsimp only
  split
  · exact executeAll_phrase _ fun _ hf => hf
  · refine ask_phrase rfl fun _ => ?_
    exact executeAll_phrase _ fun _ hf => hf

end SagaStepWorker

namespace SagaScheduler

theorem expireAll_phrase (rows : List (WaitRow J)) {entry : SagaFront J → Prop}
    (hentry : ∀ f, Fresh f → entry f) : SagaPhrase E entry (expireAll E rows) := by
  induction rows generalizing entry with
  | nil => exact done_phrase hentry
  | cons row rest ih =>
    exact ((SagaEngine.onWaitTimeout_phrase row).mono hentry).bind fun _ => ih fun _ hf => hf

theorem requeueAll_phrase (rows : List (SagaStepRecord J)) {entry : SagaFront J → Prop}
    (hentry : ∀ f, Fresh f → entry f) : SagaPhrase E entry (requeueAll rows) := by
  induction rows generalizing entry with
  | nil => exact done_phrase hentry
  | cons row rest ih =>
    refine ask_phrase (hentry _ rfl) fun now => ?_
    exact ask_phrase rfl fun _ => ih fun _ hf => hf

theorem expireWaitSteps_phrase : SagaPhrase E Fresh (expireWaitSteps E) := by
  refine ask_phrase rfl fun now => ?_
  exact ask_phrase rfl fun due => expireAll_phrase due fun _ hf => hf

theorem releaseStaleLeases_phrase : SagaPhrase E Fresh releaseStaleLeases := by
  refine ask_phrase rfl fun now => ?_
  exact ask_phrase rfl fun stale => requeueAll_phrase stale fun _ hf => hf

theorem tick_phrase (workerId : String) : SagaPhrase E Fresh (tick E workerId) :=
  (SagaStepWorker.runBatch_phrase workerId).bind fun _ =>
    expireWaitSteps_phrase.bind fun _ => releaseStaleLeases_phrase

theorem cleanupInbox_phrase : SagaPhrase E Fresh (cleanupInbox E) := by
  refine ask_phrase rfl fun now => ?_
  exact Phrase.ask rfl fun _ => Phrase.done (fun _ hf => hf) _

end SagaScheduler

namespace SagaRouter

theorem findTarget_phrase (sagaKey correlationKey : String) :
    SagaPhrase E Fresh (findTarget sagaKey correlationKey) :=
  ask_phrase rfl fun live => Phrase.done (fun _ hf => hf) (List.head? live)

theorem routeCancel_phrase (definition : SagaDefinitionRecord) (event : SagaTriggerEvent J) :
    SagaPhrase E Fresh (routeCancel E definition event) := by
  refine Phrase.lift_bind (fun _ _ => trivial) fun key _ => ?_
  refine (findTarget_phrase _ _).bind fun target => ?_
  cases target with
  | none => exact done_phrase fun _ hf => hf
  | some inst => exact SagaEngine.cancel_phrase _ _

theorem matchedTargets_phrase (definition : SagaDefinitionRecord) (event : SagaTriggerEvent J)
    (steps : List SagaStepSpec) (targets : List (SagaInstanceRecord J)) :
    SagaPhrase E Fresh (matchedTargets E definition event steps targets) := by
  induction steps generalizing targets with
  | nil => exact Phrase.done (fun _ hf => hf) _
  | cons step rest ih =>
    unfold matchedTargets
    split
    · exact ih targets
    · refine Phrase.lift_bind (fun _ _ => trivial) fun key _ => ?_
      refine (findTarget_phrase _ _).bind fun target => ?_
      cases target with
      | none => exact ih targets
      | some inst => exact ih _

theorem bufferAll_phrase (event : SagaTriggerEvent J) (targets : List (SagaInstanceRecord J))
    {entry : SagaFront J → Prop} (hentry : ∀ f, Fresh f → entry f) :
    SagaPhrase E entry (bufferAll E event targets) := by
  induction targets generalizing entry with
  | nil => exact done_phrase hentry
  | cons inst rest ih =>
    exact ((SagaEngine.bufferForInstance_phrase _).mono hentry).bind fun _ => ih fun _ hf => hf

theorem routeWait_phrase (definition : SagaDefinitionRecord) (event : SagaTriggerEvent J) :
    SagaPhrase E Fresh (routeWait E definition event) := by
  unfold routeWait
  dsimp only
  split
  · exact done_phrase fun _ hf => hf
  · refine (matchedTargets_phrase definition event _ _).bind fun targets => ?_
    exact ask_phrase rfl fun parked => bufferAll_phrase event _ fun _ hf => hf

theorem tryStart_phrase (definition : SagaDefinitionRecord) (event : SagaTriggerEvent J)
    {entry : SagaFront J → Prop} (hentry : ∀ f, Fresh f → entry f) :
    SagaPhrase E entry (tryStart E definition event) := by
  refine ask_phrase (hentry _ rfl) fun features => ?_
  cases features with
  | error _ => exact done_phrase fun _ hf => hf
  | ok features =>
    refine ask_phrase rfl fun settings => ?_
    cases settings with
    | error _ => exact done_phrase fun _ hf => hf
    | ok settings =>
      refine Phrase.lift_bind (fun _ _ => trivial) fun passed _ => ?_
      cases passed with
      | false => exact done_phrase fun _ hf => hf
      | true =>
        refine ask_phrase rfl fun config => ?_
        refine Phrase.lift_bind (fun _ _ => trivial) fun input _ => ?_
        cases input with
        | none => exact done_phrase fun _ hf => hf
        | some input => exact SagaEngine.createAndAdvance_phrase input

theorem routeAll_phrase (event : SagaTriggerEvent J) (active : List SagaDefinitionRecord)
    {entry : SagaFront J → Prop} (hentry : ∀ f, Fresh f → entry f) :
    SagaPhrase E entry (routeAll E event active) := by
  induction active generalizing entry with
  | nil => exact done_phrase hentry
  | cons definition rest ih =>
    refine Phrase.mono ?_ hentry
    unfold routeAll
    split
    · exact (routeCancel_phrase definition event).bind fun _ =>
        (routeWait_phrase definition event).bind fun _ => ih fun _ hf => hf
    · exact (routeWait_phrase definition event).bind fun _ => ih fun _ hf => hf

theorem accept_phrase (envelope : OutboxEnvelope J) : SagaPhrase E Fresh (accept E envelope) := by
  unfold accept
  split
  · exact done_phrase fun _ hf => hf
  · rename_i event _
    refine ask_phrase rfl fun start => ?_
    cases start with
    | some start => exact tryStart_phrase start event fun _ hf => hf
    | none => exact ask_phrase rfl fun active => routeAll_phrase event active fun _ hf => hf

end SagaRouter

theorem program_phrase (entry : SagaEntry J) : SagaPhrase E Fresh (entry.program E) := by
  cases entry with
  | accept envelope => exact SagaRouter.accept_phrase envelope
  | tick workerId => exact SagaScheduler.tick_phrase workerId
  | cleanupInbox => exact SagaScheduler.cleanupInbox_phrase
  | createAndAdvance input => exact SagaEngine.createAndAdvance_phrase input
  | advance id => exact SagaEngine.advance_phrase id rfl
  | onDoSucceeded id stepId => exact SagaEngine.onDoSucceeded_phrase id stepId rfl
  | onDoFailed id stepId error reason => exact SagaEngine.onDoFailed_phrase id stepId error reason rfl
  | onUndoSucceeded id => exact SagaEngine.onUndoSucceeded_phrase id rfl
  | onUndoFailed id error => exact SagaEngine.onUndoFailed_phrase id error rfl
  | onWaitTimeout row => exact SagaEngine.onWaitTimeout_phrase row
  | cancel id reason => exact SagaEngine.cancel_phrase id reason
  | bufferForInstance c => exact SagaEngine.bufferForInstance_phrase c

/-- Whatever is started begins at a fresh front. -/
theorem program_fresh (entry : SagaEntry J) : Fresh (entry.program E).front :=
  ((program_phrase entry).linked trivial).1

theorem program_linked (entry : SagaEntry J) : Linked (follow E) (entry.program E) :=
  ((program_phrase entry).linked trivial).2

end DddBoilerplate.Saga
