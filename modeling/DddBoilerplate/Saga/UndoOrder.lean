/- module: DddBoilerplate/Saga/UndoOrder
   generality: I
   digest: UNDO actions run in reverse order as long as the worker only takes up the last UNDO row still open. -/

import DddBoilerplate.Saga.Lifecycle
import DddBoilerplate.Saga.Undo

set_option autoImplicit false
set_option relaxedAutoImplicit false
set_option linter.all false

open DddBoilerplate.Concurrency DddBoilerplate.Store

namespace DddBoilerplate.Saga

variable {J : Type} {E : Environment J} {db db' : SagaDb J}

/-- The plan steps after a step. -/
def SagaPlan.after (plan : SagaPlan) (stepId : String) : List SagaPlanStep :=
  match plan.indexOf stepId with
  | some index => plan.steps.drop (index + 1)
  | none => []

/-- No two steps of the plan share an identifier. -/
def SagaPlan.Distinct (plan : SagaPlan) : Prop := (plan.steps.map (·.id)).Nodup

instance (plan : SagaPlan) : Decidable plan.Distinct :=
  inferInstanceAs (Decidable (List.Nodup _))

theorem SagaPlan.indexOf_eq {plan : SagaPlan} (h : plan.Distinct) {index : Nat}
    {step : SagaPlanStep} (hstep : plan.steps[index]? = some step) :
    plan.indexOf step.id = some index := by
  obtain ⟨hlt, hget⟩ := List.getElem?_eq_some_iff.mp hstep
  refine List.findIdx?_eq_some_iff_getElem.mpr ⟨hlt, by simp [hget], fun j hj => ?_⟩
  rw [decide_eq_true_eq]
  intro hid
  have hj' : j < (plan.steps.map (·.id)).length := by rw [List.length_map]; omega
  have hindex : index < (plan.steps.map (·.id)).length := by rwa [List.length_map]
  have hinj : (plan.steps.map (·.id))[j] = (plan.steps.map (·.id))[index] ↔ j = index :=
    List.Nodup.getElem_inj_iff h
  simp only [List.getElem_map, hget, hid, true_iff] at hinj
  omega

theorem SagaPlan.mem_after {plan : SagaPlan} (h : plan.Distinct) {index : Nat}
    {step step' : SagaPlanStep} (hstep : plan.steps[index]? = some step) :
    step' ∈ plan.after step.id ↔ ∃ j, index < j ∧ plan.steps[j]? = some step' := by
  rw [SagaPlan.after, indexOf_eq h hstep]
  simp only [List.mem_iff_getElem?, List.getElem?_drop]
  constructor
  · rintro ⟨j, hj⟩
    exact ⟨index + 1 + j, by omega, hj⟩
  · rintro ⟨j, hlt, hj⟩
    exact ⟨j - (index + 1), by rwa [show index + 1 + (j - (index + 1)) = j by omega]⟩

/-- An UNDO row that is still to be run, or could not be. -/
def unsettled (db : SagaDb J) (k : SagaStepKey) : Bool :=
  (db.stepStatus k).any fun s => s = .pending || s = .running || s = .failed

/-- Plans have distinct steps; an UNDO row is inserted when every later step that is DONE was
read so, below the failed one; no step becomes DONE behind an UNDO row of an earlier one; the
worker takes up no UNDO row before those of later steps are settled; and no DONE UNDO row is
queued again. -/
def undoesInReverse (P : SagaPool E) (_ : Nat) (q : SagaRequest J) : Prop :=
  KeepsDone isUndo P.store q ∧
  match q with
  | .tryInsertLive input => input.plan.Distinct
  | .createIfAbsent (.undo c _ _ step _ _ _ _ _) =>
    ∀ step' ∈ c.inst.plan.after step.id, P.store.DoneDo c.inst.id step'.id →
      c.covers step'.id = true
  | .markDone held _ =>
    held.row.kind = .do_ → P.store.stepStatus held.row.id = some .running →
      ∀ row ∈ P.store.steps.rows, row.instanceId = held.inst.id → row.kind = .undo →
        ∀ step' ∈ held.inst.plan.after row.stepId, step'.id ≠ held.row.stepId
  | .findById (.execute row) => row.kind = .undo →
    ∀ inst ∈ P.store.instances.get? row.instanceId, ∀ step' ∈ inst.plan.after row.stepId,
      unsettled P.store ⟨row.instanceId, step'.id, .undo⟩ = false
  | _ => True

instance (P : SagaPool E) (i : Nat) (q : SagaRequest J) : Decidable (undoesInReverse P i q) := by
  apply SagaRequest.casesOn (motive := fun q => Decidable (undoesInReverse P i q)) q
  case findById =>
    intro c
    apply FindCall.casesOn (motive := fun c => Decidable (undoesInReverse P i (.findById c))) c
      <;> intros <;> dsimp only [undoesInReverse] <;> infer_instance
  case createIfAbsent =>
    intro c
    apply CreateCall.casesOn
      (motive := fun c => Decidable (undoesInReverse P i (.createIfAbsent c))) c
      <;> intros <;> dsimp only [undoesInReverse] <;> infer_instance
  all_goals
    intros
    dsimp only [undoesInReverse]
    infer_instance

/-- Where a step has its UNDO row, so has every later step that is DONE. -/
structure Ordered (db : SagaDb J) : Prop where
  distinct : ∀ id inst, db.instances.get? id = some inst → inst.plan.Distinct
  later : ∀ id inst, db.instances.get? id = some inst → ∀ stepId,
    db.HasRow ⟨id, stepId, .undo⟩ → ∀ step' ∈ inst.plan.after stepId, db.DoneDo id step'.id →
      db.HasRow ⟨id, step'.id, .undo⟩

/-- About to call an UNDO action, with those of all later steps done. -/
def LaterUndone (db : SagaDb J) (f : SagaFront J) : Prop :=
  ∀ held ∈ aboutToRun f, held.row.kind = .undo → db.HasRow held.row.id ∧
    ∀ step' ∈ held.inst.plan.after held.row.stepId, db.DoneDo held.inst.id step'.id →
      db.stepStatus ⟨held.inst.id, step'.id, .undo⟩ = some .done

/-- The facts the order rests on. -/
structure OrderGrounds (P : SagaPool E) : Prop where
  sound : Sound P
  claimed : Claimed P
  undone : Undone P

variable {P Q : SagaPool E} {trace : List (Label (sagaSystem E))}

/-- A step that becomes DONE has no UNDO row of an earlier step before it. -/
theorem doneDo_before_undo {i : Nat} {q : SagaRequest J} {a : q.Answer}
    {next : q.Answer → SagaProgram J Unit} (hP : OrderGrounds P)
    (here : P.threads[i]? = some (@Program.ask (sagaInterface J) Unit q next))
    (hok : undoesInReverse P i q) (h : SagaServes E q P.store a db')
    {inst : SagaInstanceRecord J} (hknown : Known P.store inst) {stepId : String}
    (hundo : P.store.HasRow ⟨inst.id, stepId, .undo⟩) {step' : SagaPlanStep}
    (hafter : step' ∈ inst.plan.after stepId) (hdone : db'.DoneDo inst.id step'.id) :
    P.store.DoneDo inst.id step'.id := by
  rcases done_after h hdone (fun hkind => by cases hkind) with
    hbefore | ⟨hrunning, held, output, rfl, hrow⟩
  · exact hbefore
  · exfalso
    obtain ⟨row, hget⟩ := hundo
    have hkey : row.id = ⟨inst.id, stepId, .undo⟩ := Table.key_of_get? hget
    have hid : held.inst.id = inst.id := held.same.trans (congrArg SagaStepKey.instanceId hrow)
    obtain ⟨cur, hcur, _⟩ := hknown.known
    have hplan : held.inst.plan = inst.plan := by
      rw [← (hP.sound.held here rfl).plan_eq (hid ▸ hcur), ← hknown.plan_eq hcur]
    rw [← hrow] at hrunning
    refine hok.2 (congrArg SagaStepKey.kind hrow) hrunning row (Table.mem_of_get? hget)
      ((congrArg SagaStepKey.instanceId hkey).trans hid.symm) (congrArg SagaStepKey.kind hkey)
      step' ?_ (congrArg SagaStepKey.stepId hrow).symm
    rw [hplan, show row.stepId = stepId from congrArg SagaStepKey.stepId hkey]
    exact hafter

/-- An instance is stored with its plan before a call too, or inserted by it with a plan of
distinct steps and no rows. -/
theorem stored_before {q : SagaRequest J} {a : q.Answer} {P : SagaPool E} (hP : OrderGrounds P)
    (h : SagaServes E q P.store a db') {id : String} {inst : SagaInstanceRecord J}
    (hinst : db'.instances.get? id = some inst) :
    (∃ before, P.store.instances.get? id = some before ∧ before.plan = inst.plan) ∨
      ∃ input, q = .tryInsertLive input ∧ inst.plan = input.plan ∧
        ∀ k : SagaStepKey, k.instanceId = id → ¬ P.store.HasRow k := by
  cases instances_after h id with
  | unchanged same => exact .inl ⟨inst, same.symm.trans hinst, rfl⟩
  | inserted input call before after =>
    rw [hinst] at after
    obtain rfl := Option.some.inj after
    refine .inr ⟨input, call, rfl, fun k hid hk => ?_⟩
    obtain ⟨cur, hcur⟩ := hP.claimed.rows k hk
    rw [hid, before] at hcur
    cases hcur
  | written c cur call target before fenced after =>
    rw [hinst] at after
    obtain rfl := Option.some.inj after
    exact .inl ⟨cur, before, rfl⟩

theorem ordered_after {i : Nat} {q : SagaRequest J} {a : q.Answer}
    {next : q.Answer → SagaProgram J Unit} (hP : OrderGrounds P)
    (here : P.threads[i]? = some (@Program.ask (sagaInterface J) Unit q next))
    (hok : undoesInReverse P i q) (h : SagaServes E q P.store a db') (hinv : Ordered P.store) :
    Ordered db' := by
  refine ⟨fun id inst hinst => ?_, fun id inst hinst stepId hundo step' hafter hdone => ?_⟩
  · rcases stored_before hP h hinst with ⟨before, hbefore, hplan⟩ | ⟨input, rfl, hplan, _⟩
    · rw [← hplan]
      exact hinv.distinct id before hbefore
    · rw [hplan]
      exact hok.2
  · rcases stored_before hP h hinst with ⟨before, hbefore, hplan⟩ | ⟨input, rfl, hplan, hnone⟩
    · have hid : before.id = id := Table.key_of_get? hbefore
      have hknown : Known P.store before := .of_get? (hid ▸ hbefore)
      rw [← hplan] at hafter
      subst hid
      rcases undo_created h rfl hundo with hrow |
        ⟨c, index, below, step, hstep, row, completed, action, input, rfl, hk⟩
      · exact hasRow_after h (hinv.later _ before hbefore stepId hrow step' hafter
          (doneDo_before_undo hP here hok h hknown hrow hafter hdone))
      · have hinst' : c.inst.id = before.id := (congrArg SagaStepKey.instanceId hk).symm
        obtain rfl : stepId = step.id := congrArg SagaStepKey.stepId hk
        have hplan' : before.plan = c.inst.plan :=
          (hP.sound.held here rfl).plan_eq (hinst' ▸ hbefore)
        have hdistinct := hinv.distinct _ before hbefore
        have hdone' : P.store.DoneDo before.id step'.id := by
          rcases done_after h hdone (fun hkind => by cases hkind) with hdo | ⟨_, _, _, hq, _⟩
          · exact hdo
          · cases hq
        rw [hplan'] at hafter hdistinct
        rw [← hinst'] at hdone' ⊢
        obtain ⟨index', step'', hlt, hstep', hid', hcompleted⟩ :=
          Unwinding.covers_iff (hok.2 step' hafter hdone')
        obtain ⟨j, hj, hget⟩ := (SagaPlan.mem_after hdistinct hstep).mp hafter
        have hindex : index' = j := by
          have hfirst := SagaPlan.indexOf_eq hdistinct hstep'
          rw [hid', SagaPlan.indexOf_eq hdistinct hget] at hfirst
          exact (Option.some.inj hfirst).symm
        have hunwound := hP.undone.unwound _ (List.mem_of_getElem? here)
        rw [← hid']
        exact hasRow_after h (hunwound index' step'' (by omega) hlt hstep' hcompleted)
    · rcases undo_created h rfl hundo with hrow | ⟨_, _, _, _, _, _, _, _, _, hq, _⟩
      · exact (hnone _ rfl hrow).elim
      · cases hq

theorem laterUndone_next {i : Nat} {q : SagaRequest J} {a : q.Answer} {f : SagaFront J}
    {next : q.Answer → SagaProgram J Unit} (hP : OrderGrounds P)
    (here : P.threads[i]? = some (@Program.ask (sagaInterface J) Unit q next))
    (hok : undoesInReverse P i q) (h : SagaServes E q P.store a db') (hf : follow E q a f)
    (hinv : Ordered P.store) : LaterUndone db' f := by
  intro held hheld hkind
  obtain ⟨rfl, hanswered⟩ := follow_aboutToRun hf hheld
  have hget := get?_answered h hanswered
  obtain ⟨_, rfl⟩ := serves_findById h
  have hrow := hP.claimed.takes here
  have hkey : held.row.id = ⟨held.inst.id, held.row.stepId, .undo⟩ := by
    rw [SagaStepRecord.id, held.same, hkind]
  refine ⟨hrow, fun step' hafter hdone => ?_⟩
  rw [hkey] at hrow
  obtain ⟨undo, hundo⟩ := hinv.later _ held.inst hget _ hrow step' hafter hdone
  have hsettled := hok.2 hkind held.inst (held.same ▸ hget) step' hafter
  rw [← held.same, unsettled, SagaDb.stepStatus_of_get? hundo] at hsettled
  rw [SagaDb.stepStatus_of_get? hundo]
  cases hs : undo.status with
  | done => rfl
  | skipped =>
    have hskipped := SagaDb.stepStatus_of_get? hundo
    rw [hs] at hskipped
    obtain ⟨cur, hcur, hterminal⟩ := hP.undone.skipped _ rfl hskipped
    rw [show _ = some held.inst from hget] at hcur
    obtain rfl := Option.some.inj hcur
    rw [held.live] at hterminal
    cases hterminal
  | _ => simp [hs] at hsettled

theorem laterUndone_after {i : Nat} {q : SagaRequest J} {a : q.Answer} {f : SagaFront J}
    {next : q.Answer → SagaProgram J Unit} (hP : OrderGrounds P)
    (here : P.threads[i]? = some (@Program.ask (sagaInterface J) Unit q next))
    (hok : undoesInReverse P i q) (h : SagaServes E q P.store a db')
    (hknown : HeldKnown P.store f) (hat : LaterUndone P.store f) : LaterUndone db' f := by
  intro held hheld hkind
  obtain ⟨hrow, hlater⟩ := hat held hheld hkind
  refine ⟨hasRow_after h hrow, fun step' hafter hdone => ?_⟩
  have hkey : held.row.id = ⟨held.inst.id, held.row.stepId, .undo⟩ := by
    rw [SagaStepRecord.id, held.same, hkind]
  rw [hkey] at hrow
  have hknown' : Known P.store held.inst := by
    cases f with
    | asks q' =>
      cases q' with
      | runAction held' =>
        obtain rfl := Option.some.inj hheld
        exact hknown held'.inst rfl
      | _ => cases hheld
    | _ => cases hheld
  exact hok.1.stays h rfl (hlater step' hafter
    (doneDo_before_undo hP here hok h hknown' hrow hafter hdone))

theorem ordered_outline :
    Outline (fun P l => atCall (undoesInReverse (E := E)) P l ∧ OrderGrounds P) (follow E)
      Ordered LaterUndone where
  start _ e _ := by
    intro held hheld
    rw [aboutToRun_of_fresh (program_fresh e)] at hheld
    cases hheld
  failed _ := fun _ hheld => by cases hheld
  own P i q next a db' here hok hserves hinv _ := by
    have hcall : undoesInReverse P i q := hok.1
    exact ⟨ordered_after hok.2 here hcall hserves hinv,
      fun f hf => laterUndone_next hok.2 here hcall hserves hf hinv⟩
  other P i q next a db' here hok hserves _ _ j p _ hp hat := by
    have hcall : undoesInReverse P i q := hok.1
    exact laterUndone_after hok.2 here hcall hserves
      (hok.2.sound.known p (List.mem_of_getElem? hp)) hat

section Runs

open Scenario

private def twoSteps : SagaDefinitionRecord :=
  definitionOf [doStep "x", doStep "y", waitStep "a" .compensate] []

/-- Both steps are done, and the wait after them has compensated: two UNDO rows, equally due. -/
private def bothDone : List DemoMove :=
  deliver "Started" :: serveAll 0 (insertion ++ advancing 0 ++ handingOver) ++
  .start (.tick "w") :: serveAll 1 (working 0 ⟨"i", "x", .do_⟩ ++ advancing 0 ++ handingOver) ++
  .start (.tick "w") :: serveAll 2 (working 0 ⟨"i", "y", .do_⟩ ++ advancing 0 ++ parking) ++
  .start (.tick "w") :: serveAll 3 (sweeping 100000 ++ undoingTimeout 100000 ++ [SagaChoice.plain])

/-- A worker claims the UNDO row of `x` and is about to call its action. -/
private def takingUpX (thread : Nat) : List DemoMove :=
  .start (.tick "w") :: serveAll thread [.time 100000, .claim [⟨"i", "x", .undo⟩], .plain]

/-- A worker is about to call the UNDO action of the first step of `twoSteps`. -/
private def UndoingFirst (P : SagaPool demo) : Prop :=
  ∃ p ∈ P.threads, ∃ held ∈ aboutToRun p.front, held.inst.id = "i" ∧ held.row.kind = .undo ∧
    (∃ step ∈ held.inst.plan.steps[0]?, step.id = held.row.stepId) ∧
    ∃ step ∈ held.inst.plan.steps[1]?, step.id = "y"

private instance (P : SagaPool demo) : Decidable (UndoingFirst P) :=
  inferInstanceAs (Decidable (∃ p ∈ P.threads, _))

end Runs

end DddBoilerplate.Saga
