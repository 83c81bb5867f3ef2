/- module: DddBoilerplate/Saga/Undo
   generality: I
   digest: How step rows become DONE and SKIPPED, and the UNDO rows the loop of compensation leaves behind it. -/

import DddBoilerplate.Saga.Claimed

set_option autoImplicit false
set_option relaxedAutoImplicit false
set_option linter.all false

open DddBoilerplate.Concurrency DddBoilerplate.Store

namespace DddBoilerplate.Saga

variable {J : Type} {E : Environment J} {db db' : SagaDb J}

def SagaDb.stepStatus (db : SagaDb J) (k : SagaStepKey) : Option SagaStepStatus :=
  (db.steps.get? k).map (·.status)

theorem SagaDb.stepStatus_of_get? {k : SagaStepKey} {row : SagaStepRecord J}
    (h : db.steps.get? k = some row) : db.stepStatus k = some row.status := by
  rw [stepStatus, h, Option.map_some]

theorem SagaDb.stepStatus_eq {k : SagaStepKey} {row : SagaStepRecord J} {s : SagaStepStatus}
    (h : db.stepStatus k = some s) (hrow : db.steps.get? k = some row) : row.status = s := by
  rw [stepStatus_of_get? hrow] at h
  exact Option.some.inj h

theorem SagaDb.hasRow_of_stepStatus {k : SagaStepKey} {s : SagaStepStatus}
    (h : db.stepStatus k = some s) : db.HasRow k := by
  obtain ⟨row, hrow, _⟩ := Option.map_eq_some_iff.mp h
  exact ⟨row, hrow⟩

/-- The DO row of the step is DONE. -/
def SagaDb.DoneDo (db : SagaDb J) (id stepId : String) : Prop :=
  db.stepStatus ⟨id, stepId, .do_⟩ = some .done

instance (db : SagaDb J) (id stepId : String) : Decidable (db.DoneDo id stepId) :=
  inferInstanceAs (Decidable (_ = _))

section Rows

/-- The writes of a step row that do not look at its status. -/
def SagaRequest.requeues : SagaRequest J → SagaStepKey → Bool
  | .reschedule row _ _ _, k => row.id = k
  | .releaseOverflow overflow, k => k ∈ overflow.map (·.id)
  | _, _ => false

/-- A row becomes DONE when the worker marks it; only a WAIT row is inserted DONE. -/
theorem done_after {q : SagaRequest J} {a : q.Answer} (h : SagaServes E q db a db')
    {k : SagaStepKey} (hk : db'.stepStatus k = some .done) (hkind : k.kind ≠ .wait) :
    db.stepStatus k = some .done ∨ (db.stepStatus k = some .running ∧
      ∃ held output, q = .markDone held output ∧ held.row.id = k) := by
  cases steps_after h k with
  | unchanged same =>
    left
    rwa [SagaDb.stepStatus, same] at hk
  | changed old new before after change =>
    have hnew := SagaDb.stepStatus_eq hk after
    cases change with
    | done held output old target running =>
      refine .inr ⟨?_, held, output, rfl, target.symm.trans (Table.key_of_get? before)⟩
      rw [SagaDb.stepStatus_of_get? before, running]
    | _ => cases hnew
  | inserted c call key before after =>
    have hnew := SagaDb.stepStatus_eq hk after
    have hkey := congrArg SagaStepKey.kind key
    cases c with
    | consumeWait w row output => exact (hkind hkey.symm).elim
    | _ => cases hnew

/-- A row that is DONE stays so unless it is queued again. -/
theorem done_stays {q : SagaRequest J} {a : q.Answer} (h : SagaServes E q db a db')
    {k : SagaStepKey} (hk : db.stepStatus k = some .done) (hq : q.requeues k = false) :
    db'.stepStatus k = some .done := by
  cases steps_after h k with
  | unchanged same => rwa [SagaDb.stepStatus, same]
  | inserted c call key before after =>
    rw [SagaDb.stepStatus, before] at hk
    cases hk
  | changed old new before after change =>
    have hold := SagaDb.stepStatus_eq hk before
    have hkey : old.id = k := Table.key_of_get? before
    cases change with
    | claimed input old claimable =>
      simp [SagaStepRepository.claimable, hold] at claimable
    | released overflow old mem =>
      rw [hkey] at mem
      simp [SagaRequest.requeues, mem] at hq
    | done held output old target running => rw [hold] at running; cases running
    | skipped held inst same ended old target open_ =>
      rw [hold] at open_
      rcases open_ with h | h <;> cases h
    | failed c old target running => rw [hold] at running; cases running
    | rescheduled held attempt runAt error old target =>
      rw [hkey] at target
      simp [SagaRequest.requeues, target] at hq

theorem toStepKind_ne_undo (kind : SagaPlanStepKind) : kind.toStepKind ≠ .undo := by
  cases kind <;> decide

/-- The call queues no DONE row among these again. -/
def KeepsDone (keys : SagaStepKey → Bool) (db : SagaDb J) : SagaRequest J → Prop
  | .reschedule row _ _ _ => keys row.id = true → db.stepStatus row.id ≠ some .done
  | .releaseOverflow overflow =>
    ∀ row ∈ overflow, keys row.id = true → db.stepStatus row.id ≠ some .done
  | _ => True

instance (keys : SagaStepKey → Bool) (db : SagaDb J) (q : SagaRequest J) :
    Decidable (KeepsDone keys db q) := by
  apply SagaRequest.casesOn (motive := fun q => Decidable (KeepsDone keys db q)) q <;> intros
    <;> dsimp only [KeepsDone] <;> infer_instance

theorem KeepsDone.stays {keys : SagaStepKey → Bool} {q : SagaRequest J} {a : q.Answer}
    (hq : KeepsDone keys db q) (h : SagaServes E q db a db') {k : SagaStepKey}
    (hkey : keys k = true) (hk : db.stepStatus k = some .done) : db'.stepStatus k = some .done := by
  refine done_stays h hk ?_
  cases hrequeues : q.requeues k with
  | false => rfl
  | true =>
    exfalso
    cases q with
    | reschedule row attempt runAt error =>
      obtain rfl : row.id = k := of_decide_eq_true hrequeues
      exact hq hkey hk
    | releaseOverflow overflow =>
      obtain ⟨row, hrow, rfl⟩ := List.mem_map.mp (of_decide_eq_true hrequeues)
      exact hq row hrow hkey hk
    | _ => cases hrequeues

/-- A row other than a bypassed step becomes SKIPPED when the worker finds its instance ended. -/
theorem skipped_after {q : SagaRequest J} {a : q.Answer} (h : SagaServes E q db a db')
    {k : SagaStepKey} (hk : db'.stepStatus k = some .skipped) (hkind : k.kind = .undo) :
    db.stepStatus k = some .skipped ∨
      ∃ row inst same ended, q = .markSkipped row inst same ended ∧ row.id = k := by
  cases steps_after h k with
  | unchanged same =>
    left
    rwa [SagaDb.stepStatus, same] at hk
  | changed old new before after change =>
    have hnew := SagaDb.stepStatus_eq hk after
    cases change with
    | skipped held inst same ended old target open_ =>
      exact .inr ⟨held, inst, same, ended, rfl, target.symm.trans (Table.key_of_get? before)⟩
    | _ => cases hnew
  | inserted c call key before after =>
    have hnew := SagaDb.stepStatus_eq hk after
    have hkey := congrArg SagaStepKey.kind key
    rw [hkind] at hkey
    cases c with
    | recordBypass w => exact (toStepKind_ne_undo w.step.kind hkey).elim
    | _ => cases hnew

/-- An UNDO row is only ever created by the loop of compensation. -/
theorem undo_created {q : SagaRequest J} {a : q.Answer} (h : SagaServes E q db a db')
    {k : SagaStepKey} (hkind : k.kind = .undo) (hk : db'.HasRow k) :
    db.HasRow k ∨ ∃ c index below step here row completed action input,
      q = .createIfAbsent (.undo c index below step here row completed action input) ∧
        k = ⟨c.inst.id, step.id, .undo⟩ := by
  obtain ⟨row, hrow⟩ := hk
  cases steps_after h k with
  | unchanged same => exact .inl ⟨row, same.symm.trans hrow⟩
  | changed old new before after change => exact .inl ⟨old, before⟩
  | inserted c call key before after =>
    right
    have hkey := congrArg SagaStepKey.kind key
    rw [hkind] at hkey
    cases c with
    | undo c index below step here row completed action input =>
      exact ⟨c, index, below, step, here, row, completed, action, input, call, key.symm⟩
    | recordBypass w => exact (toStepKind_ne_undo w.step.kind hkey).elim
    | _ => cases hkey

theorem hasRow_created {c : CreateCall J} {row : SagaStepRecord J}
    (h : SagaServes E (.createIfAbsent c) db row db') : db'.HasRow c.input.row.id := by
  have hcreate := serves_createIfAbsent h
  unfold SagaStepRepository.createIfAbsent at hcreate
  split at hcreate
  · rename_i old hold
    rw [← (Prod.mk.inj hcreate).2]
    exact ⟨old, hold⟩
  · rename_i hnone
    rw [← (Prod.mk.inj hcreate).2]
    exact ⟨_, (Table.get?_insert hnone _).trans (if_pos rfl)⟩

/-- UNDO rows are only skipped once their instance has ended. -/
def SkippedEnded (db : SagaDb J) : Prop :=
  ∀ k : SagaStepKey, k.kind = .undo → db.stepStatus k = some .skipped →
    ∃ inst, db.instances.get? k.instanceId = some inst ∧ inst.status.isTerminal = true

theorem skippedEnded_after {q : SagaRequest J} {a : q.Answer} (h : SagaServes E q db a db')
    (hheld : HeldKnown db (.asks q)) (hskipped : SkippedEnded db) : SkippedEnded db' := by
  intro k hkind hk
  have hended : ∃ inst, db.instances.get? k.instanceId = some inst ∧
      inst.status.isTerminal = true := by
    rcases skipped_after h hk hkind with hbefore | ⟨row, inst, same, ended, rfl, hrow⟩
    · exact hskipped k hkind hbefore
    · have hinst := (hheld inst rfl).ended ended
      rw [same, show row.instanceId = k.instanceId from congrArg SagaStepKey.instanceId hrow] at hinst
      exact ⟨inst, hinst, ended⟩
  obtain ⟨inst, hinst, hterminal⟩ := hended
  refine ⟨inst, ?_, hterminal⟩
  have hid : inst.id = k.instanceId := Table.key_of_get? hinst
  have hknown := known_after h hheld (Known.of_get? (hid ▸ hinst))
  exact hid ▸ hknown.ended hterminal

/-- The keys of the UNDO rows. -/
def isUndo (k : SagaStepKey) : Bool := k.kind = .undo

end Rows

section Unwound

/-- The step lies below the failed one and its DO row was read as DONE. -/
def Unwinding.covers (c : Unwinding J) (stepId : String) : Bool :=
  (c.inst.plan.steps.take c.failedIndex).any fun step =>
    step.id = stepId && (c.completed step).isSome

theorem Unwinding.covers_iff {c : Unwinding J} {stepId : String} (h : c.covers stepId = true) :
    ∃ index step, index < c.failedIndex ∧ c.inst.plan.steps[index]? = some step ∧
      step.id = stepId ∧ (c.completed step).isSome = true := by
  obtain ⟨step, hstep, hcompleted⟩ := List.any_eq_true.mp h
  obtain ⟨index, hindex⟩ := List.mem_iff_getElem?.mp hstep
  rw [List.getElem?_take] at hindex
  split at hindex
  · rename_i hlt
    rw [Bool.and_eq_true, decide_eq_true_eq] at hcompleted
    exact ⟨index, step, hlt, hindex, hcompleted.1, hcompleted.2⟩
  · cases hindex

/-- Every plan step from `n` up to the failed one that was read as completed has its UNDO row. -/
def Unwound (db : SagaDb J) (c : Unwinding J) (n : Nat) : Prop :=
  ∀ index step, n ≤ index → index < c.failedIndex → c.inst.plan.steps[index]? = some step →
    (c.completed step).isSome = true → db.HasRow ⟨c.inst.id, step.id, .undo⟩

/-- How far the loop has come when it makes a call. -/
def UnwoundAt (db : SagaDb J) : SagaFront J → Prop
  | .asks (.createIfAbsent (.undo c index _ _ _ _ _ _ _)) => Unwound db c (index + 1)
  | .asks (.updateCas (.compensate c)) => Unwound db c 0
  | _ => True

theorem unwoundAt_of_fresh {f : SagaFront J} (h : Fresh f) : UnwoundAt db f := by
  cases f with
  | asks q =>
    cases q with
    | createIfAbsent c => cases h
    | updateCas c => cases h
    | _ => trivial
  | _ => trivial

theorem Unwound.front {c : Unwinding J} {n : Nat} {f : SagaFront J} (h : Unwound db c n)
    (hf : UnwindFront c n f) : UnwoundAt db f := by
  induction n with
  | zero => cases hf; exact h
  | succ n ih =>
    unfold UnwindFront at hf
    split at hf
    · rw [hf]
      trivial
    · rename_i step here
      split at hf
      · rename_i hnot
        refine ih (fun index step' hle hlt hstep hcompleted => ?_) hf
        rcases Nat.eq_or_lt_of_le hle with rfl | hle
        · rw [here] at hstep
          obtain rfl := Option.some.inj hstep
          rw [hnot] at hcompleted
          cases hcompleted
        · exact h index step' hle hlt hstep hcompleted
      · rcases hf with rfl | rfl | ⟨_, _, _, _, _, _, _, rfl⟩
        · trivial
        · trivial
        · exact h

theorem unwound_after {q : SagaRequest J} {a : q.Answer} (h : SagaServes E q db a db')
    {c : Unwinding J} {n : Nat} (hc : Unwound db c n) : Unwound db' c n :=
  fun index step hle hlt hstep hcompleted => hasRow_after h (hc index step hle hlt hstep hcompleted)

theorem unwoundAt_after {q : SagaRequest J} {a : q.Answer} (h : SagaServes E q db a db')
    {f : SagaFront J} (hf : UnwoundAt db f) : UnwoundAt db' f := by
  cases f with
  | asks q' =>
    cases q' with
    | createIfAbsent c => cases c <;> first | trivial | exact unwound_after h hf
    | updateCas c => cases c <;> first | trivial | exact unwound_after h hf
    | _ => trivial
  | _ => trivial

/-- Which call of `startCompensation` leads to another one. -/
inductive CompensationStep : (q : SagaRequest J) → q.Answer → SagaRequest J → Prop where
  | entered {q q' : SagaRequest J} {a : q.Answer} {inst : SagaInstanceRecord J}
      {live : inst.status.isTerminal = false} {failedIndex : Nat} {reason : SagaInstanceReason}
      {error : String} (front : CompensationFront inst live failedIndex reason error (.asks q')) :
      CompensationStep q a q'
  | read (c : Compensation J) (rows : List (SagaStepRecord J)) :
      CompensationStep (.findByInstance (.startCompensation c)) rows
        (.clock (.startCompensation c rows))
  | first (c : Compensation J) (rows : List (SagaStepRecord J)) (now : Nat) {q' : SagaRequest J}
      (front : UnwindFront ⟨c, rows, now⟩ c.failedIndex (.asks q')) :
      CompensationStep (.clock (.startCompensation c rows)) now q'
  | next (c : Unwinding J) (index : Nat) (below : index < c.failedIndex) (step : SagaPlanStep)
      (here : c.inst.plan.steps[index]? = some step) (row : SagaStepRecord J)
      (completed : c.completed step = some row) (action : String) (input : Fields J)
      (answer : SagaStepRecord J) {q' : SagaRequest J} (front : UnwindFront c index (.asks q')) :
      CompensationStep
        (.createIfAbsent (.undo c index below step here row completed action input)) answer q'

theorem not_fresh_of_compensation {q : SagaRequest J} (h : q.function = .startCompensation) :
    q.isFresh = false := by
  cases q with
  | findById c => cases c <;> cases h
  | clock c => cases c <;> first | rfl | cases h
  | _ => first | rfl | cases h

theorem follow_compensation {q q' : SagaRequest J} {a : q.Answer} (h : follow E q a (.asks q'))
    (hq' : q'.function = .startCompensation) : CompensationStep q a q' := by
  have hfresh := not_fresh_of_compensation hq'
  have fresh (hf : Fresh (.asks q')) : CompensationStep q a q' := by
    rw [Fresh, hfresh] at hf
    cases hf
  have hq : q.function = .startCompensation ∨ q.function = .onDoFailed ∨ q.function = .cancel ∨
      q.function = .onWaitTimeout := by
    rcases follow_function h hfresh with hf | ⟨_, hf⟩
    · exact .inl (hf.symm.trans hq')
    · exact .inr hf
  cases q with
  | findById c =>
    rcases a with _ | ⟨found, hid⟩
    · cases c with
      | execute row => cases h; cases hq'
      | _ => exact fresh h
    · cases c with
      | onDoFailed id stepId error reason =>
        dsimp only [follow] at h
        split at h
        · split at h
          · exact fresh h
          · exact .entered h
        · exact fresh h
      | cancel id reason =>
        dsimp only [follow] at h
        split at h
        · cases h; cases hq'
        · exact fresh h
      | onWaitTimeout row =>
        dsimp only [follow] at h
        split at h
        · cases h; cases hq'
        · exact fresh h
      | _ => rcases hq with hq | hq | hq | hq <;> cases hq
  | findByInstance c =>
    cases c with
    | cancel inst live reason =>
      dsimp only [follow] at h
      split at h
      · obtain ⟨_, h⟩ := h
        exact .entered h
      · cases h; cases hq'
    | startCompensation c => cases h; exact .read c a
    | _ => rcases hq with hq | hq | hq | hq <;> cases hq
  | clock c =>
    cases c with
    | startCompensation c rows => exact .first c rows a h
    | _ => rcases hq with hq | hq | hq | hq <;> cases hq
  | updateCas c =>
    cases c with
    | skipTimeout inst live row => cases h; cases hq'
    | cancel inst live reason rows => exact fresh h
    | pastPivot inst live reason error => exact fresh h
    | noUndo c step => exact fresh h
    | compensate c => exact fresh h
    | _ => rcases hq with hq | hq | hq | hq <;> cases hq
  | createIfAbsent c =>
    cases c with
    | undo c index below step here row completed action input =>
      exact .next c index below step here row completed action input a h
    | _ => rcases hq with hq | hq | hq | hq <;> cases hq
  | markFailed c =>
    cases c with
    | onWaitTimeout inst live row =>
      dsimp only [follow] at h
      split at h
      · obtain ⟨_, h⟩ := h
        exact .entered h
      · cases h; cases hq'
    | _ => rcases hq with hq | hq | hq | hq <;> cases hq
  | _ => rcases hq with hq | hq | hq | hq <;> cases hq

/-- The loop keeps its place from one call to the next. -/
theorem unwoundAt_next {q : SagaRequest J} {a : q.Answer} {f : SagaFront J}
    (h : SagaServes E q db a db') (hf : follow E q a f) (hq : UnwoundAt db (.asks q)) :
    UnwoundAt db' f := by
  cases f with
  | asks q' =>
    by_cases hfunction : q'.function = .startCompensation
    · cases follow_compensation hf hfunction with
      | entered front => rcases front with ⟨_, front⟩ | ⟨_, front⟩ <;> cases front <;> trivial
      | read c rows => trivial
      | first c rows now front =>
        refine Unwound.front (fun index step hle hlt => ?_) front
        exact absurd hlt (Nat.not_lt.mpr hle)
      | next c index below step here row completed action input answer front =>
        refine Unwound.front (fun index' step' hle hlt hstep hcompleted => ?_) front
        rcases Nat.eq_or_lt_of_le hle with rfl | hle
        · rw [here] at hstep
          obtain rfl := Option.some.inj hstep
          exact hasRow_created h
        · exact unwound_after h hq index' step' hle hlt hstep hcompleted
    · cases q' with
      | createIfAbsent c => cases c <;> trivial
      | updateCas c => cases c <;> trivial
      | _ => trivial
  | _ => trivial

end Unwound

/-- What holds of UNDO rows in every run. -/
structure Undone (P : SagaPool E) : Prop where
  skipped : SkippedEnded P.store
  unwound : ∀ p ∈ P.threads, UnwoundAt P.store p.front

variable {ok : SagaPool E → Label (sagaSystem E) → Prop} {P Q : SagaPool E}
variable {trace : List (Label (sagaSystem E))}

theorem undone_outline :
    Outline (fun (P : SagaPool E) (_ : Label (sagaSystem E)) => Sound P) (follow E) SkippedEnded
      UnwoundAt where
  start _ e _ := unwoundAt_of_fresh (program_fresh e)
  failed _ := trivial
  own _ _ _ _ _ _ here hok hserves hskipped hat :=
    ⟨skippedEnded_after hserves (fun _ => hok.held here) hskipped,
      fun _ hf => unwoundAt_next hserves hf hat⟩
  other _ _ _ _ _ _ _ _ hserves _ _ _ _ _ _ hp := unwoundAt_after hserves hp

theorem undone_of_run (h : Run ok P trace Q) (hP : Initial P) : Undone Q := by
  have hstart : Outline.Holds SkippedEnded UnwoundAt P := by
    refine ⟨fun k _ hk => ?_, fun p hp => by simp [hP.threads] at hp⟩
    rw [SagaDb.stepStatus, hP.steps] at hk
    cases hk
  have hrun : Run (fun P _ => Sound P) P trace Q :=
    (h.strengthen fun h => sound_of_run h hP.sound).mono fun _ _ hok => hok.2
  have hend := undone_outline.run program_linked hrun hP.sound.linked hstart
  exact ⟨hend.1, hend.2⟩

end DddBoilerplate.Saga
