/- module: DddBoilerplate/Saga/Pivot
   generality: I
   digest: After the pivot no UNDO row is created, and UNDO actions run while compensating, under conditions on what races with compensation. -/

import DddBoilerplate.Saga.Lifecycle
import DddBoilerplate.Saga.Undo

set_option autoImplicit false
set_option relaxedAutoImplicit false
set_option linter.all false

open DddBoilerplate.Concurrency DddBoilerplate.Store

namespace DddBoilerplate.Saga

variable {J : Type} {E : Environment J} {db db' : SagaDb J}

/-- The plan's pivot is a step of this identifier. -/
def SagaPlan.isPivot (plan : SagaPlan) (stepId : String) : Bool :=
  (plan.steps.find? (·.pivot)).any fun step => step.id = stepId

/-- The pivot's DO row is DONE. -/
def PivotDone (db : SagaDb J) (inst : SagaInstanceRecord J) : Prop :=
  ∃ stepId, inst.plan.isPivot stepId = true ∧ db.DoneDo inst.id stepId

theorem pivotDone_iff {inst : SagaInstanceRecord J} :
    PivotDone db inst ↔ ∃ step ∈ inst.plan.steps.find? (·.pivot), db.DoneDo inst.id step.id := by
  constructor
  · rintro ⟨stepId, hpivot, hdone⟩
    obtain ⟨step, hstep, hid⟩ := (Option.any_eq_true _ _).mp hpivot
    exact ⟨step, hstep, of_decide_eq_true hid ▸ hdone⟩
  · rintro ⟨step, hstep, hdone⟩
    exact ⟨step.id, (Option.any_eq_true _ _).mpr ⟨step, hstep, decide_eq_true rfl⟩, hdone⟩

instance (db : SagaDb J) (inst : SagaInstanceRecord J) : Decidable (PivotDone db inst) :=
  decidable_of_iff _ pivotDone_iff.symm

/-- The keys of the pivots' DO rows. -/
def isPivotRow (db : SagaDb J) (k : SagaStepKey) : Bool :=
  k.kind = .do_ && (db.instances.get? k.instanceId).any fun inst => inst.plan.isPivot k.stepId

/-- The instance a compensation that has read the rows is about to insert UNDO rows for. -/
def inserting : SagaFront J → Option (SagaInstanceRecord J)
  | .asks (.clock (.startCompensation c _)) => some c.inst
  | .asks (.createIfAbsent (.undo c _ _ _ _ _ _ _ _)) => some c.inst
  | _ => none

/-- Compensation reads its rows before the pivot is DONE, the pivot does not become DONE while
it inserts UNDO rows, and its DONE row is not queued again; no worker takes up an UNDO row of
a RUNNING or WAITING instance, and no write ends a compensation while a worker is about to
call an UNDO action of it. -/
def respectsPivot (P : SagaPool E) (_ : Nat) (q : SagaRequest J) : Prop :=
  KeepsDone (isPivotRow P.store) P.store q ∧
  match q with
  | .findByInstance (.startCompensation c) => ¬ PivotDone P.store c.inst
  | .markDone held _ =>
    isPivotRow P.store held.row.id = true → P.store.stepStatus held.row.id = some .running →
      ∀ p ∈ P.threads, ∀ inst ∈ inserting p.front, inst.id ≠ held.inst.id
  | .findById (.execute row) => row.kind = .undo →
      (P.store.statusOf row.instanceId).all fun s => !s.isActive
  | .updateCas c =>
    Applies P.store c → P.store.statusOf c.inst.id = some .compensating →
      (c.patch.apply c.inst).status ≠ .compensating →
        ∀ p ∈ P.threads, ∀ held ∈ aboutToRun p.front, held.inst.id = c.inst.id →
          held.row.kind ≠ .undo
  | _ => True

instance (P : SagaPool E) (i : Nat) (q : SagaRequest J) : Decidable (respectsPivot P i q) := by
  apply SagaRequest.casesOn (motive := fun q => Decidable (respectsPivot P i q)) q
  · intro c
    apply FindCall.casesOn (motive := fun c => Decidable (respectsPivot P i (.findById c))) c
      <;> intros <;> dsimp only [respectsPivot] <;> infer_instance
  · intro c
    apply RowsCall.casesOn (motive := fun c => Decidable (respectsPivot P i (.findByInstance c))) c
      <;> intros <;> dsimp only [respectsPivot] <;> infer_instance
  all_goals
    intros
    dsimp only [respectsPivot]
    infer_instance

section Inserting

theorem inserting_of_fresh {f : SagaFront J} (h : Fresh f) : inserting f = none := by
  cases f with
  | asks q =>
    cases q with
    | clock c => cases c <;> first | rfl | cases h
    | createIfAbsent c => cases h
    | _ => rfl
  | _ => rfl

/-- An insertion of UNDO rows goes on for the same instance, or starts after reading the rows. -/
theorem follow_inserting {q : SagaRequest J} {a : q.Answer} {f : SagaFront J}
    (h : follow E q a f) {inst : SagaInstanceRecord J} (hf : inserting f = some inst) :
    inserting (.asks q) = some inst ∨
      ∃ c, q = .findByInstance (.startCompensation c) ∧ c.inst = inst := by
  cases f with
  | asks q' =>
    have hfunction : q'.function = .startCompensation := by
      cases q' with
      | clock c => cases c <;> first | rfl | cases hf
      | createIfAbsent c => cases c <;> first | rfl | cases hf
      | _ => cases hf
    have held_eq (held : SagaInstanceRecord J) (hheld : q'.held = some held) : held = inst := by
      cases q' with
      | clock c =>
        cases c with
        | startCompensation c rows =>
          exact (Option.some.inj hheld).symm.trans (Option.some.inj hf)
        | _ => cases hf
      | createIfAbsent c =>
        cases c with
        | undo c => exact (Option.some.inj hheld).symm.trans (Option.some.inj hf)
        | _ => cases hf
      | _ => cases hf
    cases follow_compensation h hfunction with
    | entered front => rcases front with ⟨_, front⟩ | ⟨_, front⟩ <;> cases front <;> cases hf
    | read c rows => exact .inr ⟨c, rfl, Option.some.inj hf⟩
    | first c rows now front => exact .inl (congrArg some (held_eq _ (held_of_unwind front)))
    | next c index below step here row completed action input answer front =>
      exact .inl (congrArg some (held_eq _ (held_of_unwind front)))
  | _ => cases hf

/-- Inserting UNDO rows, with the pivot not DONE. -/
def BeforePivot (db : SagaDb J) (f : SagaFront J) : Prop :=
  ∀ inst ∈ inserting f, Known db inst ∧ ¬ PivotDone db inst

theorem isPivotRow_of_known {inst : SagaInstanceRecord J} (h : Known db inst) {stepId : String}
    (hpivot : inst.plan.isPivot stepId = true) : isPivotRow db ⟨inst.id, stepId, .do_⟩ = true := by
  obtain ⟨cur, hcur, _⟩ := h.known
  have hplan := h.plan_eq hcur
  simp only [isPivotRow, hcur, Option.any_some, hplan, hpivot, decide_true, Bool.and_self]

theorem beforePivot_outline :
    Outline (fun P l => atCall (respectsPivot (E := E)) P l ∧ Sound P) (follow E)
      (fun _ => True) BeforePivot where
  start _ e _ := by
    intro inst hinst
    rw [inserting_of_fresh (program_fresh e)] at hinst
    cases hinst
  failed _ := fun _ hinst => by cases hinst
  own P i q next a db' here hok hserves _ hat := by
    have hcall : respectsPivot P i q := hok.1
    refine ⟨trivial, fun f hf inst hinst => ?_⟩
    rcases follow_inserting hf hinst with hq | ⟨c, rfl, rfl⟩
    · obtain ⟨hknown, hnot⟩ := hat inst hq
      refine ⟨known_after hserves (fun _ => hok.2.held here) hknown, ?_⟩
      rintro ⟨stepId, hpivot, hdone⟩
      rcases done_after hserves hdone (fun hkind => by cases hkind) with
        hbefore | ⟨_, held, output, rfl, _⟩
      · exact hnot ⟨stepId, hpivot, hbefore⟩
      · cases hq
    · rw [(serves_findByInstance hserves).2]
      exact ⟨hok.2.held here rfl, hcall.2⟩
  other P i q next a db' here hok hserves _ _ j p _ hp hat := by
    have hcall : respectsPivot P i q := hok.1
    intro inst hinst
    obtain ⟨hknown, hnot⟩ := hat inst hinst
    refine ⟨known_after hserves (fun _ => hok.2.held here) hknown, ?_⟩
    rintro ⟨stepId, hpivot, hdone⟩
    rcases done_after hserves hdone (fun hkind => by cases hkind) with
      hbefore | ⟨hrunning, held, output, rfl, hrow⟩
    · exact hnot ⟨stepId, hpivot, hbefore⟩
    · have hpivotRow := isPivotRow_of_known hknown hpivot
      rw [← hrow] at hpivotRow hrunning
      have hid : held.inst.id = inst.id :=
        held.same.trans (congrArg SagaStepKey.instanceId hrow)
      exact hcall.2 hpivotRow hrunning p (List.mem_of_getElem? hp) inst hinst hid.symm

end Inserting

section Undoing

/-- A worker about to call an UNDO action holds an instance that is compensating. -/
def UndoWhileCompensating (db : SagaDb J) (f : SagaFront J) : Prop :=
  ∀ held ∈ aboutToRun f, held.row.kind = .undo → db.statusOf held.inst.id = some .compensating

theorem undoWhileCompensating_outline :
    Outline (fun P l => atCall (respectsPivot (E := E)) P l ∧ Sound P) (follow E)
      (fun _ => True) UndoWhileCompensating where
  start _ e _ := by
    intro held hheld
    rw [aboutToRun_of_fresh (program_fresh e)] at hheld
    cases hheld
  failed _ := fun _ hheld => by cases hheld
  own P i q next a db' here hok hserves _ _ := by
    refine ⟨trivial, fun f hf held hheld hkind => ?_⟩
    obtain ⟨rfl, hanswered⟩ := follow_aboutToRun hf hheld
    have hcall : respectsPivot P i (.findById (.execute held.row)) := hok.1
    have hget := get?_answered hserves hanswered
    rw [(serves_findById hserves).2] at hget ⊢
    have hnot := hcall.2 hkind
    rw [← held.same, SagaDb.statusOf_of_get? hget] at hnot
    rw [SagaDb.statusOf_of_get? hget]
    rcases SagaInstanceStatus.live_cases held.live with hs | hs | hs
    · rw [hs] at hnot; cases hnot
    · rw [hs] at hnot; cases hnot
    · exact congrArg some hs
  other P i q next a db' here hok hserves _ _ j p _ hp hat := by
    intro held hheld hkind
    have hbefore := hat held hheld hkind
    obtain ⟨cur, hcur, hstatus⟩ := Option.map_eq_some_iff.mp hbefore
    cases instances_after hserves held.inst.id with
    | unchanged same => rwa [SagaDb.statusOf, same]
    | inserted input call before after => rw [hcur] at before; cases before
    | written c cur' call target before fenced after =>
      subst call
      have hcall : respectsPivot P i (.updateCas c) := hok.1
      obtain rfl := (hok.2.held here rfl).eq_of_version (target ▸ before) fenced
      have happlies : Applies P.store c := ⟨c.inst, target ▸ before, rfl⟩
      rw [SagaDb.statusOf_of_get? after]
      by_contra hleft
      refine hcall.2 happlies (target ▸ hbefore) (fun hs => hleft (congrArg some hs)) p
        (List.mem_of_getElem? hp) held hheld target.symm hkind

end Undoing

variable {P Q R : SagaPool E} {trace trace' : List (Label (sagaSystem E))}

/-- The pivot of the instance stays DONE, and there are no UNDO rows that were not there. -/
def NoUndoSince (db : SagaDb J) (inst : SagaInstanceRecord J) (P : SagaPool E) : Prop :=
  Known P.store inst ∧ PivotDone P.store inst ∧
    ∀ k : SagaStepKey, k.instanceId = inst.id → k.kind = .undo → P.store.HasRow k → db.HasRow k

theorem noUndoSince_step {l : Label (sagaSystem E)} {inst : SagaInstanceRecord J}
    (hsound : Sound P) (hbefore : ∀ p ∈ P.threads, BeforePivot P.store p.front)
    (hok : atCall respectsPivot P l) (h : Step (sagaSystem E) P l Q)
    (hP : NoUndoSince db inst P) : NoUndoSince db inst Q := by
  obtain ⟨hknown, ⟨stepId, hpivot, hdone⟩, hnone⟩ := hP
  cases h with
  | start store threads entry => exact ⟨hknown, ⟨stepId, hpivot, hdone⟩, hnone⟩
  | raised here error => exact ⟨hknown, ⟨stepId, hpivot, hdone⟩, hnone⟩
  | @served store store' threads i q next a here answered =>
    have hcall : respectsPivot ⟨store, threads⟩ i q := hok
    refine ⟨known_after answered (hsound.known _ (List.mem_of_getElem? here)) hknown,
      ⟨stepId, hpivot, hcall.1.stays answered (isPivotRow_of_known hknown hpivot) hdone⟩,
      fun k hid hkind hrow => ?_⟩
    rcases undo_created answered hkind hrow with hrow |
      ⟨c, index, below, step, hstep, row, completed, action, input, rfl, hk⟩
    · exact hnone k hid hkind hrow
    · have hinst : c.inst.id = inst.id := by
        rw [← hid, hk]
      obtain ⟨hknown', hnot⟩ := hbefore _ (List.mem_of_getElem? here) c.inst rfl
      obtain ⟨cur, hcur, _⟩ := hknown.known
      have hplan : c.inst.plan = inst.plan := by
        rw [← hknown'.plan_eq (hinst ▸ hcur), ← hknown.plan_eq hcur]
      refine (hnot ⟨stepId, ?_, ?_⟩).elim
      · rw [hplan]
        exact hpivot
      · rw [hinst]
        exact hdone

section Runs

open Scenario

private def pivotStep (id : String) : SagaStepSpec := { doStep id with pivot := some true }

/-- `x` is done, and the pivot `p` too, but the cursor has not moved past it yet. -/
private def pivotMarked : List DemoMove :=
  deliver "Started" :: serveAll 0 (insertion ++ advancing 0 ++ handingOver) ++
  .start (.tick "w") :: serveAll 1 (working 0 ⟨"i", "x", .do_⟩ ++ advancing 0 ++ handingOver) ++
  .start (.tick "w") :: serveAll 2 [.time 0, .claim [⟨"i", "p", .do_⟩], .plain,
    .outcome (.ok { outcome := .ok }), .plain]

/-- A cancel in between decides from the cursor and inserts the UNDO row of `x`; another
worker takes it up before the instance is COMPENSATING. -/
private def cancelledAtPivot : List DemoMove :=
  deliver "Stop" :: serveAll 3 [.plain, .plain, .order ["i"], .plain, .plain, .plain, .time 0,
    .plain] ++
  .start (.tick "w") :: serveAll 4 [.time 0, .claim [⟨"i", "x", .undo⟩], .plain]

private def pivotDefinition : SagaDefinitionRecord :=
  definitionOf [doStep "x", pivotStep "p"] [⟨"Stop", 1⟩]

/-- The worker is about to call the action of an UNDO row. -/
private def aboutToUndo (P : SagaPool demo) : Bool :=
  P.threads.any fun p => (aboutToRun p.front).any fun held => held.row.kind = .undo

end Runs

end DddBoilerplate.Saga
