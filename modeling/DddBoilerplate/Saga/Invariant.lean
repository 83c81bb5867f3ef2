/- module: DddBoilerplate/Saga/Invariant
   generality: I
   digest: What holds along every run: instances only gain versions, and what a call holds was once stored. -/

import DddBoilerplate.Saga.Effects

set_option autoImplicit false
set_option relaxedAutoImplicit false
set_option linter.all false

open DddBoilerplate.Concurrency DddBoilerplate.Store

namespace DddBoilerplate.Saga

variable {J : Type} {E : Environment J} {db db' : SagaDb J}

def SagaDb.statusOf (db : SagaDb J) (id : String) : Option SagaInstanceStatus :=
  (db.instances.get? id).map (·.status)

theorem SagaDb.statusOf_of_get? {id : String} {inst : SagaInstanceRecord J}
    (h : db.instances.get? id = some inst) : db.statusOf id = some inst.status := by
  rw [statusOf, h, Option.map_some]

theorem SagaDb.statusOf_eq {id : String} {inst : SagaInstanceRecord J} {s : SagaInstanceStatus}
    (h : db.statusOf id = some s) (hinst : db.instances.get? id = some inst) : inst.status = s := by
  rw [statusOf_of_get? hinst] at h
  exact Option.some.inj h

/-- The fields of an instance no write touches. -/
def SagaInstanceRecord.frozen (inst : SagaInstanceRecord J) :
    String × String × String × String × SagaPlan × SagaContext J :=
  (inst.tenantId, inst.companyId, inst.sagaKey, inst.correlationKey, inst.plan, inst.context)

theorem SagaInstancePatch.apply_frozen (patch : SagaInstancePatch) (inst : SagaInstanceRecord J) :
    (patch.apply inst).frozen = inst.frozen := rfl

/-- The record was stored under its identifier at some time: the stored one has the same
frozen fields and no lower version, and is this one as long as the version is, or when this
one has ended. -/
structure Known (db : SagaDb J) (inst : SagaInstanceRecord J) : Prop where
  intro ::
  known : ∃ cur, db.instances.get? inst.id = some cur ∧ cur.frozen = inst.frozen ∧
    inst.version ≤ cur.version ∧ (cur.version = inst.version → cur = inst) ∧
    (inst.status.isTerminal = true → cur = inst)

theorem Known.of_get? {inst : SagaInstanceRecord J} (h : db.instances.get? inst.id = some inst) :
    Known db inst :=
  ⟨inst, h, rfl, Nat.le_refl _, fun _ => rfl, fun _ => rfl⟩

/-- A fenced write that goes through goes through on the very record it was prepared from. -/
theorem Known.eq_of_version {inst cur : SagaInstanceRecord J} (h : Known db inst)
    (hcur : db.instances.get? inst.id = some cur) (hversion : cur.version = inst.version) :
    cur = inst := by
  obtain ⟨cur', hcur', _, _, hsame, _⟩ := h.known
  rw [hcur] at hcur'
  obtain rfl := Option.some.inj hcur'
  exact hsame hversion

theorem Known.plan_eq {inst cur : SagaInstanceRecord J} (h : Known db inst)
    (hcur : db.instances.get? inst.id = some cur) : cur.plan = inst.plan := by
  obtain ⟨cur', hcur', hfrozen, _⟩ := h.known
  rw [hcur] at hcur'
  obtain rfl := Option.some.inj hcur'
  simp only [SagaInstanceRecord.frozen, Prod.mk.injEq] at hfrozen
  exact hfrozen.2.2.2.2.1

theorem Known.ended {inst : SagaInstanceRecord J} (h : Known db inst)
    (hended : inst.status.isTerminal = true) : db.instances.get? inst.id = some inst := by
  obtain ⟨cur, hcur, _, _, _, hterminal⟩ := h.known
  rw [← hterminal hended] at hcur ⊢
  rw [hterminal hended] at hcur ⊢
  exact hcur

/-- The instance a call relies on having read. -/
def SagaRequest.held : SagaRequest J → Option (SagaInstanceRecord J)
  | findByInstance c => some c.inst
  | clock (.advance inst _ _) => some inst
  | clock (.startCompensation c _) => some c.inst
  | updateCas c => some c.inst
  | createIfAbsent c => some c.inst
  | markDone held _ | runAction held => some held.inst
  | markSkipped _ inst _ _ => some inst
  | markFailed (.onWaitTimeout inst _ _) => some inst
  | markFailed (.unregistered held) | markFailed (.exhausted held _) => some held.inst
  | listBuffered w _ _ | markConsumed w _ => some w.inst
  | append inst _ => some inst
  | _ => none

/-- The instance an answer hands to the call that follows it. -/
def SagaRequest.answered : (q : SagaRequest J) → q.Answer → Option (SagaInstanceRecord J)
  | findById _, some inst => some inst.1
  | _, _ => none

theorem held_of_fresh {q : SagaRequest J} (h : Fresh (.asks q)) : q.held = none := by
  cases q with
  | clock c =>
    cases c with
    | other => rfl
    | _ => cases h
  | findById | tryInsertLive | findLiveByKey | findWaitingByEvent | claimBatch | releaseOverflow
  | reschedule | findExpiredWaits | findStaleRunning | tryInsert | purgeOlderThan
  | findActiveByEvent | listActive | findActive | features | settings => rfl
  | _ => cases h

theorem held_of_walk {inst : SagaInstanceRecord J} {n : Nat} {scope : Scope J}
    {q : SagaRequest J} (h : WalkFront E inst n scope (.asks q)) : q.held = some inst := by
  rcases h with h | ⟨_, _, _, h⟩ | ⟨w, rfl, _, _, hstep⟩
  · cases h
  · cases h; rfl
  · rcases hstep with ⟨_, h⟩ | ⟨_, ⟨_, _, _, h⟩ | ⟨_, _, _, h⟩ | ⟨_, _, h⟩⟩ <;> cases h <;> rfl

theorem held_of_compensation {inst : SagaInstanceRecord J} {live : inst.status.isTerminal = false}
    {failedIndex : Nat} {reason : SagaInstanceReason} {error : String} {q : SagaRequest J}
    (h : CompensationFront inst live failedIndex reason error (.asks q)) : q.held = some inst := by
  rcases h with ⟨_, h⟩ | ⟨_, h⟩ <;> cases h <;> rfl

theorem held_of_unwind {c : Unwinding J} {n : Nat} {q : SagaRequest J}
    (h : UnwindFront c n (.asks q)) : q.held = some c.inst := by
  induction n with
  | zero => cases h; rfl
  | succ index ih =>
    unfold UnwindFront at h
    split at h
    · cases h
    · split at h
      · exact ih h
      · rcases h with h | h | ⟨_, _, _, _, _, _, _, h⟩ <;> cases h <;> rfl

theorem held_of_failure {held : Held J} {q : SagaRequest J} (h : FailureFront held (.asks q)) :
    q.held = none := by
  unfold FailureFront at h
  split at h <;> obtain ⟨_, h⟩ := h <;> cases h <;> rfl

theorem not_held_of_fresh {q : SagaRequest J} (h : Fresh (.asks q))
    {inst : SagaInstanceRecord J} (hheld : q.held = some inst) : False := by
  rw [held_of_fresh h] at hheld
  cases hheld

/-- The function that reads an instance goes on with that one. -/
theorem follow_findById {c : FindCall J} {a : Option {inst : SagaInstanceRecord J // inst.id = c.id}}
    {q' : SagaRequest J} (h : follow E (.findById c) a (.asks q')) {inst : SagaInstanceRecord J}
    (hheld : q'.held = some inst) : SagaRequest.answered (.findById c) a = some inst := by
  rcases a with _ | ⟨found, hid⟩
  · cases c with
    | execute row => cases h; cases hheld
    | _ => exact (not_held_of_fresh h hheld).elim
  · suffices hsame : q'.held = some found from hsame.symm.trans hheld
    cases c with
    | advance id =>
      dsimp only [follow] at h
      split at h
      · cases h; rfl
      · exact (not_held_of_fresh h hheld).elim
    | onDoSucceeded id stepId =>
      dsimp only [follow] at h
      split at h
      · split at h
        · exact (not_held_of_fresh h hheld).elim
        · cases h; rfl
      · exact (not_held_of_fresh h hheld).elim
    | onDoFailed id stepId error reason =>
      dsimp only [follow] at h
      split at h
      · split at h
        · exact (not_held_of_fresh h hheld).elim
        · exact held_of_compensation h
      · exact (not_held_of_fresh h hheld).elim
    | onUndoSucceeded id =>
      dsimp only [follow] at h
      split at h
      · cases h; rfl
      · exact (not_held_of_fresh h hheld).elim
    | onUndoFailed id error =>
      dsimp only [follow] at h
      split at h
      · cases h; rfl
      · exact (not_held_of_fresh h hheld).elim
    | onWaitTimeout row =>
      dsimp only [follow] at h
      split at h
      · cases h; rfl
      · exact (not_held_of_fresh h hheld).elim
    | cancel id reason =>
      dsimp only [follow] at h
      split at h
      · cases h; rfl
      · exact (not_held_of_fresh h hheld).elim
    | execute row =>
      rcases h with ⟨_, h⟩ | ⟨_, h⟩ | ⟨_, h⟩ <;> cases h <;> rfl

/-- A call holds the instance the call before it held, or the one that call was answered with. -/
theorem follow_held {q q' : SagaRequest J} {a : q.Answer} (h : follow E q a (.asks q'))
    {inst : SagaInstanceRecord J} (hheld : q'.held = some inst) :
    q.held = some inst ∨ q.answered a = some inst := by
  have fresh (hf : Fresh (.asks q')) : q.held = some inst ∨ q.answered a = some inst :=
    (not_held_of_fresh hf hheld).elim
  cases q with
  | findById c => exact .inr (follow_findById h hheld)
  | findByInstance c =>
    left
    cases c with
    | advance inst' active => cases h; exact hheld
    | onUndoSucceeded inst' compensating =>
      dsimp only [follow] at h
      split at h
      · exact (not_held_of_fresh h hheld).elim
      · cases h; exact hheld
    | cancel inst' live reason =>
      dsimp only [follow] at h
      split at h
      · obtain ⟨_, h⟩ := h
        exact (held_of_compensation h).symm.trans hheld
      · cases h; exact hheld
    | startCompensation c => cases h; exact hheld
  | clock c =>
    cases c with
    | advance inst' active scope => exact .inl ((held_of_walk h).symm.trans hheld)
    | startCompensation c rows => exact .inl ((held_of_unwind h).symm.trans hheld)
    | other => exact fresh h
  | updateCas c =>
    cases c with
    | complete inst' active cursor ahead =>
      rcases h with h | ⟨_, h⟩
      · exact fresh h
      · cases h; exact .inl hheld
    | onDoSucceeded inst' live index => cases h; cases hheld
    | skipTimeout inst' live row => cases h; cases hheld
    | _ => exact fresh h
  | createIfAbsent c =>
    left
    cases c with
    | recordBypass w => exact (held_of_walk h).symm.trans hheld
    | consumeWait w row output => cases h; exact hheld
    | park w wait buffered timeout => cases h; exact hheld
    | handOver w do_ input =>
      dsimp only [follow] at h
      split at h
      · obtain ⟨_, h⟩ := h
        exact (held_of_walk h).symm.trans hheld
      · cases h; exact hheld
    | undo c index below step here row completed action input =>
      exact (held_of_unwind h).symm.trans hheld
  | listBuffered w wait ref =>
    rcases h with h | ⟨_, _, _, h⟩ | ⟨_, _, h⟩ <;> cases h <;> exact .inl hheld
  | markConsumed w row =>
    obtain ⟨_, h⟩ := h
    exact .inl ((held_of_walk h).symm.trans hheld)
  | markDone held output =>
    dsimp only [follow] at h
    split at h <;> cases h <;> cases hheld
  | markFailed c =>
    cases c with
    | onWaitTimeout inst' live row =>
      dsimp only [follow] at h
      split at h
      · obtain ⟨_, h⟩ := h
        exact .inl ((held_of_compensation h).symm.trans hheld)
      · cases h; exact .inl hheld
    | missing row => exact fresh h
    | unregistered held => rw [held_of_failure h] at hheld; cases hheld
    | exhausted held error => rw [held_of_failure h] at hheld; cases hheld
  | runAction held =>
    rcases h with h | ⟨_, h⟩ | ⟨_, h⟩
    · exact fresh h
    · cases h; exact .inl hheld
    · cases h; exact .inl hheld
  | markBuffered c => cases h; cases hheld
  | tryInsert c =>
    cases a with
    | none => exact fresh h
    | some row => cases h; cases hheld
  | tryInsertLive input =>
    cases a with
    | none => exact fresh h
    | some inst' => cases h; cases hheld
  | _ => exact fresh h

/-- The function of the engine, or of the worker, that makes a call. -/
inductive SagaFunction where
  | advance
  | createAndAdvance
  | startCompensation
  | onDoSucceeded
  | onDoFailed
  | onUndoSucceeded
  | onUndoFailed
  | onWaitTimeout
  | cancel
  | bufferForInstance
  | execute
  | other
  deriving DecidableEq

def SagaRequest.function : SagaRequest J → SagaFunction
  | findById (.advance _) | findByInstance (.advance _ _) | clock (.advance _ _ _)
  | updateCas (.park _ _ _) | updateCas (.handOver _ _) | updateCas (.complete _ _ _ _)
  | createIfAbsent (.recordBypass _) | createIfAbsent (.consumeWait _ _ _)
  | createIfAbsent (.park _ _ _ _) | createIfAbsent (.handOver _ _ _)
  | listBuffered _ _ _ | markConsumed _ _ | append _ _ => .advance
  | tryInsertLive _ => .createAndAdvance
  | findByInstance (.startCompensation _) | clock (.startCompensation _ _)
  | createIfAbsent (.undo _ _ _ _ _ _ _ _ _) | updateCas (.pastPivot _ _ _ _)
  | updateCas (.noUndo _ _) | updateCas (.compensate _) => .startCompensation
  | findById (.onDoSucceeded _ _) | updateCas (.onDoSucceeded _ _ _) => .onDoSucceeded
  | findById (.onDoFailed _ _ _ _) => .onDoFailed
  | findById (.onUndoSucceeded _) | findByInstance (.onUndoSucceeded _ _)
  | updateCas (.onUndoSucceeded _ _ _) => .onUndoSucceeded
  | findById (.onUndoFailed _ _) | updateCas (.onUndoFailed _ _ _) => .onUndoFailed
  | findById (.onWaitTimeout _) | markFailed (.onWaitTimeout _ _ _)
  | updateCas (.skipTimeout _ _ _) => .onWaitTimeout
  | findById (.cancel _ _) | findByInstance (.cancel _ _ _) | updateCas (.cancel _ _ _ _) => .cancel
  | tryInsert _ | markBuffered _ => .bufferForInstance
  | findById (.execute _) | markFailed (.missing _) | markFailed (.unregistered _)
  | markFailed (.exhausted _ _) | runAction _ | markDone _ _ | markSkipped _ _ _ _ => .execute
  | _ => .other

theorem function_of_walk {inst : SagaInstanceRecord J} {n : Nat} {scope : Scope J}
    {q : SagaRequest J} (h : WalkFront E inst n scope (.asks q)) : q.function = .advance := by
  rcases h with h | ⟨_, _, _, h⟩ | ⟨w, rfl, _, _, hstep⟩
  · cases h
  · cases h; rfl
  · rcases hstep with ⟨_, h⟩ | ⟨_, ⟨_, _, _, h⟩ | ⟨_, _, _, h⟩ | ⟨_, _, h⟩⟩ <;> cases h <;> rfl

theorem function_of_compensation {inst : SagaInstanceRecord J}
    {live : inst.status.isTerminal = false} {failedIndex : Nat} {reason : SagaInstanceReason}
    {error : String} {q : SagaRequest J}
    (h : CompensationFront inst live failedIndex reason error (.asks q)) :
    q.function = .startCompensation := by
  rcases h with ⟨_, h⟩ | ⟨_, h⟩ <;> cases h <;> rfl

theorem function_of_unwind {c : Unwinding J} {n : Nat} {q : SagaRequest J}
    (h : UnwindFront c n (.asks q)) : q.function = .startCompensation := by
  induction n with
  | zero => cases h; rfl
  | succ index ih =>
    unfold UnwindFront at h
    split at h
    · cases h
    · split at h
      · exact ih h
      · rcases h with h | h | ⟨_, _, _, _, _, _, _, h⟩ <;> cases h <;> rfl

theorem fresh_of_failure {held : Held J} {q : SagaRequest J} (h : FailureFront held (.asks q)) :
    q.isFresh = true := by
  unfold FailureFront at h
  split at h <;> obtain ⟨_, h⟩ := h <;> cases h <;> rfl

/-- A call that relies on what was read before it belongs to the function whose call was
answered, or is the start of a compensation by one of the functions that start one. -/
theorem follow_function {q q' : SagaRequest J} {a : q.Answer} (h : follow E q a (.asks q'))
    (hfresh : q'.isFresh = false) :
    q'.function = q.function ∨
      (q'.function = .startCompensation ∧
        (q.function = .onDoFailed ∨ q.function = .cancel ∨ q.function = .onWaitTimeout)) := by
  have fresh (hf : Fresh (.asks q')) : q'.function = q.function ∨
      (q'.function = .startCompensation ∧
        (q.function = .onDoFailed ∨ q.function = .cancel ∨ q.function = .onWaitTimeout)) := by
    rw [Fresh, hfresh] at hf
    cases hf
  cases q with
  | findById c =>
    rcases a with _ | ⟨found, hid⟩
    · cases c with
      | execute row => cases h; exact .inl rfl
      | _ => exact fresh h
    · cases c with
      | onDoSucceeded id stepId =>
        dsimp only [follow] at h
        split at h
        · split at h
          · exact fresh h
          · cases h; exact .inl rfl
        · exact fresh h
      | onDoFailed id stepId error reason =>
        dsimp only [follow] at h
        split at h
        · split at h
          · exact fresh h
          · exact .inr ⟨function_of_compensation h, .inl rfl⟩
        · exact fresh h
      | execute row =>
        rcases h with ⟨_, h⟩ | ⟨_, h⟩ | ⟨_, h⟩ <;> cases h <;> exact .inl rfl
      | _ =>
        dsimp only [follow] at h
        split at h
        · cases h; exact .inl rfl
        · exact fresh h
  | findByInstance c =>
    cases c with
    | advance inst' active => cases h; exact .inl rfl
    | onUndoSucceeded inst' compensating =>
      dsimp only [follow] at h
      split at h
      · exact fresh h
      · cases h; exact .inl rfl
    | cancel inst' live reason =>
      dsimp only [follow] at h
      split at h
      · obtain ⟨_, h⟩ := h
        exact .inr ⟨function_of_compensation h, .inr (.inl rfl)⟩
      · cases h; exact .inl rfl
    | startCompensation c => cases h; exact .inl rfl
  | clock c =>
    cases c with
    | advance inst' active scope => exact .inl (function_of_walk h)
    | startCompensation c rows => exact .inl (function_of_unwind h)
    | other => exact fresh h
  | updateCas c =>
    cases c with
    | complete inst' active cursor ahead =>
      rcases h with h | ⟨_, h⟩
      · exact fresh h
      · cases h; exact .inl rfl
    | onDoSucceeded inst' live index => cases h; cases hfresh
    | skipTimeout inst' live row => cases h; cases hfresh
    | _ => exact fresh h
  | createIfAbsent c =>
    cases c with
    | recordBypass w => exact .inl (function_of_walk h)
    | consumeWait w row output => cases h; exact .inl rfl
    | park w wait buffered timeout => cases h; exact .inl rfl
    | handOver w do_ input =>
      dsimp only [follow] at h
      split at h
      · obtain ⟨_, h⟩ := h
        exact .inl (function_of_walk h)
      · cases h; exact .inl rfl
    | undo c index below step here row completed action input => exact .inl (function_of_unwind h)
  | listBuffered w wait ref =>
    rcases h with h | ⟨_, _, _, h⟩ | ⟨_, _, h⟩ <;> cases h <;> exact .inl rfl
  | markConsumed w row =>
    obtain ⟨_, h⟩ := h
    exact .inl (function_of_walk h)
  | markDone held output =>
    dsimp only [follow] at h
    split at h <;> cases h <;> cases hfresh
  | markFailed c =>
    cases c with
    | onWaitTimeout inst' live row =>
      dsimp only [follow] at h
      split at h
      · obtain ⟨_, h⟩ := h
        exact .inr ⟨function_of_compensation h, .inr (.inr rfl)⟩
      · cases h; exact .inl rfl
    | missing row => exact fresh h
    | unregistered held => rw [fresh_of_failure h] at hfresh; cases hfresh
    | exhausted held error => rw [fresh_of_failure h] at hfresh; cases hfresh
  | runAction held =>
    rcases h with h | ⟨_, h⟩ | ⟨_, h⟩
    · exact fresh h
    · cases h; exact .inl rfl
    · cases h; exact .inl rfl
  | markBuffered c => cases h; cases hfresh
  | tryInsert c =>
    cases a with
    | none => exact fresh h
    | some row => cases h; exact .inl rfl
  | tryInsertLive input =>
    cases a with
    | none => exact fresh h
    | some inst' => cases h; cases hfresh
  | _ => exact fresh h

/-- The calls of the worker about one claimed row. -/
inductive ExecuteCall : SagaRequest J → Prop where
  | execute (row : SagaStepRecord J) : ExecuteCall (.findById (.execute row))
  | missing (row : SagaStepRecord J) : ExecuteCall (.markFailed (.missing row))
  | unregistered (held : Held J) : ExecuteCall (.markFailed (.unregistered held))
  | exhausted (held : Held J) (error : String) : ExecuteCall (.markFailed (.exhausted held error))
  | runAction (held : Held J) : ExecuteCall (.runAction held)
  | markDone (held : Held J) (output : Option (Fields J)) : ExecuteCall (.markDone held output)
  | markSkipped (row : SagaStepRecord J) (inst : SagaInstanceRecord J)
      (same : inst.id = row.instanceId) (ended : inst.status.isTerminal = true) :
      ExecuteCall (.markSkipped row inst same ended)

theorem executeCall_of_function {q : SagaRequest J} (h : q.function = .execute) :
    ExecuteCall q := by
  cases q with
  | findById c =>
    cases c with
    | execute row => exact .execute row
    | _ => cases h
  | markFailed c =>
    cases c with
    | onWaitTimeout inst live row => cases h
    | missing row => exact .missing row
    | unregistered held => exact .unregistered held
    | exhausted held error => exact .exhausted held error
  | runAction held => exact .runAction held
  | markDone held output => exact .markDone held output
  | markSkipped row inst same ended => exact .markSkipped row inst same ended
  | findByInstance c => cases c <;> cases h
  | clock c => cases c <;> cases h
  | updateCas c => cases c <;> cases h
  | createIfAbsent c => cases c <;> cases h
  | _ => cases h

/-- An action is called, and a row of an ended instance skipped, right after the worker read
the instance of the row. -/
theorem follow_execute {q q' : SagaRequest J} {a : q.Answer} (h : follow E q a (.asks q'))
    {row : SagaStepRecord J} {inst : SagaInstanceRecord J}
    (hq' : (∃ held : Held J, q' = .runAction held ∧ held.row = row ∧ held.inst = inst) ∨
      ∃ same ended, q' = .markSkipped row inst same ended) :
    q = .findById (.execute row) ∧ q.answered a = some inst := by
  have hfunction : q'.function = .execute ∧ q'.isFresh = false := by
    rcases hq' with ⟨_, rfl, _⟩ | ⟨_, _, rfl⟩ <;> exact ⟨rfl, rfl⟩
  have hq : q.function = .execute := by
    rcases follow_function h hfunction.2 with hf | ⟨hf, _⟩
    · rw [← hf, hfunction.1]
    · rw [hfunction.1] at hf
      cases hf
  have not_fresh (hf : q'.isFresh = true) : False := by
    rw [hfunction.2] at hf
    cases hf
  cases executeCall_of_function hq with
  | execute row' =>
    rcases a with _ | ⟨found, hid⟩
    · cases h
      rcases hq' with ⟨_, h, _⟩ | ⟨_, _, h⟩ <;> cases h
    · rcases h with ⟨_, h⟩ | ⟨_, h⟩ | ⟨_, h⟩ <;> cases h <;>
        rcases hq' with ⟨_, h, hrow, hinst⟩ | ⟨_, _, h⟩ <;> cases h
      · exact ⟨by rw [← hrow], congrArg some hinst⟩
      · exact ⟨rfl, rfl⟩
  | missing row' => exact (not_fresh h).elim
  | unregistered held' => exact (not_fresh (fresh_of_failure h)).elim
  | exhausted held' error => exact (not_fresh (fresh_of_failure h)).elim
  | runAction held' =>
    rcases h with h | ⟨_, h⟩ | ⟨_, h⟩
    · exact (not_fresh h).elim
    · cases h
      rcases hq' with ⟨_, h, _⟩ | ⟨_, _, h⟩ <;> cases h
    · cases h
      rcases hq' with ⟨_, h, _⟩ | ⟨_, _, h⟩ <;> cases h
  | markDone held' output =>
    dsimp only [follow] at h
    split at h <;> cases h <;> exact (not_fresh rfl).elim
  | markSkipped row' inst' same ended => exact (not_fresh h).elim

theorem follow_runAction {q : SagaRequest J} {a : q.Answer} {held : Held J}
    (h : follow E q a (.asks (.runAction held))) :
    q = .findById (.execute held.row) ∧ q.answered a = some held.inst :=
  follow_execute h (.inl ⟨held, rfl, rfl, rfl⟩)

section Stored

/-- The one fact about writes that everything about versions rests on: a write that goes
through starts from the stored record, which had not ended. -/
theorem known_after {q : SagaRequest J} {a : q.Answer} (h : SagaServes E q db a db')
    (hq : ∀ inst, q.held = some inst → Known db inst) {inst : SagaInstanceRecord J}
    (hinst : Known db inst) : Known db' inst := by
  obtain ⟨cur, hcur, hfrozen, hle, hsame, hended⟩ := hinst.known
  cases instances_after h inst.id with
  | unchanged same => exact ⟨cur, same.trans hcur, hfrozen, hle, hsame, hended⟩
  | inserted input call before after => rw [hcur] at before; cases before
  | written c cur' call target before fenced after =>
    rw [hcur] at before
    obtain rfl := Option.some.inj before
    subst call
    have hc : cur = c.inst := (hq c.inst rfl).eq_of_version (target ▸ hcur) fenced
    refine ⟨_, after, hfrozen, ?_, ?_, ?_⟩
    · rw [SagaInstancePatch.apply_version]
      omega
    · intro hversion
      rw [SagaInstancePatch.apply_version] at hversion
      omega
    · intro hterminal
      have hstatus := c.live
      rw [← hc, hended hterminal, hterminal] at hstatus
      cases hstatus

def HeldKnown (db : SagaDb J) : SagaFront J → Prop
  | .asks q => ∀ inst, SagaRequest.held q = some inst → Known db inst
  | _ => True

theorem heldKnown_of_fresh {f : SagaFront J} (h : Fresh f) : HeldKnown db f := by
  cases f with
  | asks q => exact fun inst hheld => (not_held_of_fresh h hheld).elim
  | _ => trivial

theorem get?_answered {q : SagaRequest J} {a : q.Answer} (h : SagaServes E q db a db')
    {inst : SagaInstanceRecord J} (hanswered : q.answered a = some inst) :
    db'.instances.get? inst.id = some inst := by
  cases q with
  | findById c =>
    obtain ⟨hlookup, hdb⟩ := serves_findById h
    cases a with
    | none => cases hanswered
    | some found =>
      obtain rfl := Option.some.inj hanswered
      rw [hdb, found.2]
      exact Table.lookup_eq_some.mp hlookup
  | _ => cases hanswered

/-- An instance that is stored is found, with the status it has. -/
theorem found_of_statusOf {c : FindCall J} {a : Option {inst : SagaInstanceRecord J // inst.id = c.id}}
    (h : SagaServes E (.findById c) db a db') {s : SagaInstanceStatus}
    (hs : db.statusOf c.id = some s) : ∃ found, a = some found ∧ found.1.status = s := by
  obtain ⟨hlookup, _⟩ := serves_findById h
  obtain ⟨inst, hinst, hstatus⟩ := Option.map_eq_some_iff.mp hs
  cases a with
  | none =>
    rw [Table.lookup_eq_none.mp hlookup] at hinst
    cases hinst
  | some found =>
    rw [Table.lookup_eq_some.mp hlookup] at hinst
    exact ⟨found, rfl, Option.some.inj hinst ▸ hstatus⟩

theorem heldKnown_outline (ok : SagaPool E → Label (sagaSystem E) → Prop) :
    Outline ok (follow E) (fun _ => True) HeldKnown where
  start _ e _ := heldKnown_of_fresh (program_fresh e)
  failed _ := trivial
  own P i q next a db' _ _ hserves _ hat := by
    refine ⟨trivial, fun f hf => ?_⟩
    cases f with
    | asks q' =>
      intro inst hheld
      rcases follow_held hf hheld with hq | ha
      · exact known_after hserves hat (hat inst hq)
      · exact .of_get? (get?_answered hserves ha)
    | finished => trivial
    | failed => trivial
  other P i q next a db' _ _ hserves _ hat j p _ _ hp := by
    cases hf : p.front with
    | asks q' =>
      rw [hf] at hp
      exact fun inst hheld => known_after hserves hat (hp inst hheld)
    | finished => trivial
    | failed => trivial

end Stored

/-- No saga has been started and nothing is going on. -/
structure Initial (P : SagaPool E) : Prop where
  threads : P.threads = []
  instances : P.store.instances = Table.empty
  steps : P.store.steps = Table.empty
  inbox : P.store.inbox = Table.empty

/-- Definitions and overlays, and no saga yet. -/
def SagaDb.fresh (definitions : List SagaDefinitionRecord)
    (configs : List SagaCompanyConfigRecord) : SagaDb J :=
  ⟨definitions, configs, Table.empty, Table.empty, Table.empty, []⟩

theorem initial_fresh (definitions : List SagaDefinitionRecord)
    (configs : List SagaCompanyConfigRecord) :
    Initial (⟨SagaDb.fresh definitions configs, []⟩ : SagaPool E) :=
  ⟨rfl, rfl, rfl, rfl⟩

/-- A condition on the calls that are served, as a condition on steps. -/
def atCall (cond : SagaPool E → Nat → SagaRequest J → Prop) (P : SagaPool E) :
    Label (sagaSystem E) → Prop
  | .served i q _ _ => cond P i q
  | _ => True

instance (cond : SagaPool E → Nat → SagaRequest J → Prop) [h : ∀ P i q, Decidable (cond P i q)]
    (P : SagaPool E) (l : Label (sagaSystem E)) : Decidable (atCall cond P l) :=
  match l with
  | .served i q _ _ => h P i q
  | .start _ => isTrue trivial
  | .raised _ _ => isTrue trivial

/-- No condition: every step there is. -/
abbrev anyStep (_ : SagaPool E) (_ : Label (sagaSystem E)) : Prop := True

/-- What every pool reached from an initial one satisfies. -/
structure Sound (P : SagaPool E) : Prop where
  linked : P.Linked (follow E)
  known : ∀ p ∈ P.threads, HeldKnown P.store p.front

variable {ok : SagaPool E → Label (sagaSystem E) → Prop} {P Q R : SagaPool E}
variable {trace trace' : List (Label (sagaSystem E))} {l : Label (sagaSystem E)}

theorem Initial.sound (h : Initial P) : Sound P :=
  ⟨fun p hp => by simp [h.threads] at hp, fun p hp => by simp [h.threads] at hp⟩

theorem sound_of_run (h : Run ok P trace Q) (hP : Sound P) : Sound Q :=
  ⟨h.linked program_linked hP.linked,
    ((heldKnown_outline ok).run program_linked h hP.linked ⟨trivial, hP.known⟩).2⟩

theorem Sound.held {i : Nat} {q : SagaRequest J} {next : q.Answer → SagaProgram J Unit}
    (hP : Sound P) (here : P.threads[i]? = some (@Program.ask (sagaInterface J) Unit q next))
    {inst : SagaInstanceRecord J} (hheld : q.held = some inst) : Known P.store inst :=
  hP.known _ (List.mem_of_getElem? here) inst hheld

/-- The walk of `advance` a call belongs to. -/
def SagaRequest.walk : SagaRequest J → Option (Walk J)
  | createIfAbsent (.recordBypass w) | createIfAbsent (.consumeWait w _ _)
  | createIfAbsent (.park w _ _ _) | createIfAbsent (.handOver w _ _)
  | updateCas (.park w _ _) | updateCas (.handOver w _)
  | listBuffered w _ _ | markConsumed w _ => some w
  | _ => none

theorem held_of_walk_eq {q : SagaRequest J} {w : Walk J} (h : q.walk = some w) :
    q.held = some w.inst := by
  cases q with
  | createIfAbsent c => cases c <;> cases h <;> rfl
  | updateCas c => cases c <;> cases h <;> rfl
  | listBuffered w' wait ref => cases h; rfl
  | markConsumed w' row => cases h; rfl
  | _ => cases h

/-- What a step can do to an instance, in terms of the call that does it. -/
inductive InstanceChange (P : SagaPool E) (l : Label (sagaSystem E)) (Q : SagaPool E)
    (id : String) : Prop where
  | unchanged (same : Q.store.instances.get? id = P.store.instances.get? id)
  | written (i : Nat) (c : CasCall J) (a : Option (SagaInstanceRecord J))
      (front : SagaFront J)
      (label : l = .served i (SagaRequest.updateCas c) a front) (target : c.inst.id = id)
      (before : P.store.instances.get? id = some c.inst)
      (after : Q.store.instances.get? id = some (c.patch.apply c.inst))
  | inserted (input : InsertInstanceInput J) (before : P.store.instances.get? id = none)
      (after : Q.store.instances.get? id = some (input.row id))

theorem Sound.instance_change (hP : Sound P) (h : Step (sagaSystem E) P l Q) (id : String) :
    InstanceChange P l Q id := by
  cases h with
  | start store threads entry => exact .unchanged rfl
  | raised here error => exact .unchanged rfl
  | served here answered =>
    cases instances_after answered id with
    | unchanged same => exact .unchanged same
    | inserted input call before after => exact .inserted input before after
    | written c cur call target before fenced after =>
      subst call
      have hknown := hP.known _ (List.mem_of_getElem? here) c.inst rfl
      have hcur : cur = c.inst := hknown.eq_of_version (target ▸ before) fenced
      subst hcur
      exact .written _ c _ _ rfl target before after

end DddBoilerplate.Saga
