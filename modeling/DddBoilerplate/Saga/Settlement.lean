/- module: DddBoilerplate/Saga/Settlement
   generality: I
   digest: A compensating instance has an UNDO row still to settle, as long as no settlement is lost and none starts empty. -/

import DddBoilerplate.Saga.Claimed
import DddBoilerplate.Saga.Lifecycle

set_option autoImplicit false
set_option relaxedAutoImplicit false
set_option linter.all false

open DddBoilerplate.Concurrency DddBoilerplate.Store

namespace DddBoilerplate.Saga

variable {J : Type} {E : Environment J} {db db' : SagaDb J}

/-- The instance whose UNDO row was settled last, from the settling write up to the last
write of `onUndoSucceeded` or `onUndoFailed`. -/
def settling : SagaFront J → Option String
  | .asks (.findById (.onUndoSucceeded id)) => some id
  | .asks (.findById (.onUndoFailed id _)) => some id
  | .asks (.findByInstance (.onUndoSucceeded inst _)) => some inst.id
  | .asks (.updateCas (.onUndoSucceeded inst _ _)) => some inst.id
  | .asks (.updateCas (.onUndoFailed inst _ _)) => some inst.id
  | _ => none

/-- An UNDO row of the instance is PENDING or RUNNING. -/
def OpenUndo (db : SagaDb J) (id : String) : Prop :=
  ∃ row ∈ db.steps.rows, row.instanceId = id ∧ row.kind = .undo ∧
    (row.status = .pending ∨ row.status = .running)

instance (db : SagaDb J) (id : String) : Decidable (OpenUndo db id) :=
  inferInstanceAs (Decidable (∃ row ∈ db.steps.rows, _))

/-- Something is still to come of the compensation, whatever becomes of thread `i`. -/
def StillDue (P : SagaPool E) (i : Nat) (id : String) : Prop :=
  OpenUndo P.store id ∨ ∃ j < P.threads.length, j ≠ i ∧
    (P.threads[j]?.bind fun p => settling p.front) = some id

instance (P : SagaPool E) (i : Nat) (id : String) : Decidable (StillDue P i id) :=
  inferInstanceAs (Decidable (_ ∨ _))

/-- Compensation starts with an UNDO row to settle, and a settlement of a compensating
instance is lost to a concurrent write, or rejected, only while another one is due. -/
def settlesCompensation (P : SagaPool E) : Label (sagaSystem E) → Prop
  | .served i (.updateCas c) _ _ =>
    if Applies P.store c then c.startsCompensation = true → StillDue P i c.inst.id
    else ∀ id ∈ settling (.asks (.updateCas c)),
      P.store.statusOf id = some .compensating → StillDue P i id
  | .raised i q => ∀ id ∈ settling (.asks q),
      P.store.statusOf id = some .compensating → StillDue P i id
  | _ => True

instance (P : SagaPool E) (l : Label (sagaSystem E)) : Decidable (settlesCompensation P l) := by
  unfold settlesCompensation
  split <;> infer_instance

/-- A compensating instance has an UNDO row to settle, or a settlement is being written. -/
def Unfinished (P : SagaPool E) : Prop :=
  ∀ id, P.store.statusOf id = some .compensating →
    OpenUndo P.store id ∨ ∃ p ∈ P.threads, settling p.front = some id

theorem openUndo_of_pendingUndo {id : String}
    (h : SagaEngine.pendingUndo (SagaStepRepository.findByInstance db id) = true) :
    OpenUndo db id := by
  obtain ⟨row, hrow, hopen⟩ := List.any_eq_true.mp h
  obtain ⟨hmem, hid⟩ := List.mem_filter.mp hrow
  simp only [Bool.and_eq_true, Bool.or_eq_true, decide_eq_true_eq] at hid hopen
  exact ⟨row, hmem, hid, hopen.1, hopen.2⟩

/-- A call of a settlement leads to the next one, unless it found rows still to settle,
ended the compensation, or was lost. -/
theorem settling_served {q : SagaRequest J} {a : q.Answer} {f : SagaFront J} {id : String}
    (h : SagaServes E q db a db') (hf : follow E q a f) (hq : settling (.asks q) = some id)
    (hbefore : db.statusOf id = some .compensating) (hafter : db'.statusOf id = some .compensating) :
    settling f = some id ∨ OpenUndo db' id ∨ ∃ c, q = .updateCas c ∧ ¬ Applies db c := by
  cases q with
  | findById c =>
    left
    cases c with
    | onUndoSucceeded id' =>
      obtain rfl := Option.some.inj hq
      obtain ⟨found, rfl, hstatus⟩ := found_of_statusOf h hbefore
      dsimp only [follow] at hf
      rw [dif_pos hstatus] at hf
      rw [hf]
      exact congrArg some found.2
    | onUndoFailed id' error =>
      obtain rfl := Option.some.inj hq
      obtain ⟨found, rfl, hstatus⟩ := found_of_statusOf h hbefore
      have hlive : found.1.status.isTerminal = false := by rw [hstatus]; rfl
      dsimp only [follow] at hf
      rw [dif_pos hlive] at hf
      rw [hf]
      exact congrArg some found.2
    | _ => cases hq
  | findByInstance c =>
    cases c with
    | onUndoSucceeded inst compensating =>
      obtain ⟨hrows, rfl⟩ := serves_findByInstance h
      obtain rfl := Option.some.inj hq
      dsimp only [follow] at hf
      split at hf
      · rename_i hpending
        rw [hrows] at hpending
        exact .inr (.inl (openUndo_of_pendingUndo hpending))
      · rw [hf]
        exact .inl rfl
    | _ => cases hq
  | updateCas c =>
    by_cases happlies : Applies db c
    · exfalso
      obtain ⟨cur, hcur, hversion⟩ := happlies
      have hid : c.inst.id = id := by
        cases c <;> first | exact Option.some.inj hq | cases hq
      have hstatus := SagaDb.statusOf_eq hafter (hid ▸ written_of_applies h hcur hversion)
      cases c with
      | onUndoSucceeded inst compensating rows => cases hstatus
      | onUndoFailed inst live error => cases hstatus
      | _ => cases hq
    · exact .inr (.inr ⟨c, rfl, happlies⟩)
  | _ => cases hq

theorem failureFront_of_undo {held : Held J} {f : SagaFront J} (h : FailureFront held f)
    (hundo : held.row.kind = .undo) :
    ∃ error, f = .asks (.findById (.onUndoFailed held.inst.id error)) := by
  simpa only [FailureFront, if_pos hundo] using h

/-- A row that is settled no longer stands open: its settlement is then on its way. -/
theorem openUndo_served {q : SagaRequest J} {a : q.Answer} {f : SagaFront J} {id : String}
    (h : SagaServes E q db a db') (hf : follow E q a f) (hheld : HeldKnown db (.asks q))
    (hfound : ∀ row, q ≠ .markFailed (.missing row))
    (hstatus : db.statusOf id = some .compensating) (hopen : OpenUndo db id) :
    OpenUndo db' id ∨ settling f = some id := by
  obtain ⟨row, hmem, hid, hkind, hrow⟩ := hopen
  have hget := Table.get?_of_mem hmem
  cases steps_after h row.id with
  | unchanged same =>
    exact .inl ⟨row, Table.mem_of_get? (same.trans hget), hid, hkind, hrow⟩
  | inserted c call key before after => rw [hget] at before; cases before
  | changed old new before after change =>
    rw [hget] at before
    obtain rfl := Option.some.inj before
    have hmem' := Table.mem_of_get? after
    cases change with
    | claimed input old claimable => exact .inl ⟨_, hmem', hid, hkind, .inr rfl⟩
    | released overflow old mem => exact .inl ⟨_, hmem', hid, hkind, .inl rfl⟩
    | rescheduled held attempt runAt error old target =>
      exact .inl ⟨_, hmem', hid, hkind, .inl rfl⟩
    | done held output old target running =>
      right
      have hundo : held.row.kind = .undo := (congrArg SagaStepKey.kind target).symm.trans hkind
      have hinst : held.inst.id = id :=
        held.same.trans ((congrArg SagaStepKey.instanceId target).symm.trans hid)
      dsimp only [follow] at hf
      rw [if_pos hundo] at hf
      rw [hf]
      exact congrArg some hinst
    | skipped held inst same ended old target open_ =>
      have hinst : inst.id = id :=
        same.trans ((congrArg SagaStepKey.instanceId target).symm.trans hid)
      have hcur := (hheld inst rfl).ended ended
      rw [hinst] at hcur
      rw [SagaDb.statusOf_eq hstatus hcur] at ended
      cases ended
    | failed c old target running =>
      right
      have hundo : c.row.kind = .undo := (congrArg SagaStepKey.kind target).symm.trans hkind
      have hinst : c.row.instanceId = id := (congrArg SagaStepKey.instanceId target).symm.trans hid
      cases c with
      | onWaitTimeout inst live row => cases row.2.symm.trans hundo
      | missing row => exact (hfound row rfl).elim
      | unregistered held =>
        obtain ⟨_, rfl⟩ := failureFront_of_undo hf hundo
        exact congrArg some (held.same.trans hinst)
      | exhausted held error =>
        obtain ⟨_, rfl⟩ := failureFront_of_undo hf hundo
        exact congrArg some (held.same.trans hinst)

variable {P Q : SagaPool E} {trace : List (Label (sagaSystem E))} {l : Label (sagaSystem E)}

/-- What is due apart from the thread that moved is due after its move. -/
theorem unfinished_of_stillDue {store : SagaDb J} {threads : List (SagaProgram J Unit)} {i : Nat}
    {p' : SagaProgram J Unit} {id : String}
    (h : StillDue (⟨store, threads⟩ : SagaPool E) i id) {store' : SagaDb J}
    (hopen : OpenUndo store id → OpenUndo store' id) :
    OpenUndo store' id ∨ ∃ p ∈ threads.set i p', settling p.front = some id := by
  rcases h with h | ⟨j, _, hj, hsettling⟩
  · exact .inl (hopen h)
  · obtain ⟨p, hp, hsettling⟩ := Option.bind_eq_some_iff.mp hsettling
    refine .inr ⟨p, List.mem_iff_getElem?.mpr ⟨j, ?_⟩, hsettling⟩
    rwa [List.getElem?_set_ne (Ne.symm hj)]

theorem steps_updateCas {c : CasCall J} {a : Option (SagaInstanceRecord J)}
    (h : SagaServes E (.updateCas c) db a db') : db'.steps = db.steps := by
  by_cases happlies : Applies db c
  · obtain ⟨cur, hcur, hversion⟩ := happlies
    rw [serves_updateCas_some h hcur hversion]
    rfl
  · rw [(serves_updateCas_lost h happlies).1]

theorem Unfinished.step (hsound : Sound P) (hclaimed : Claimed P) (hP : Unfinished P)
    (hok : settlesCompensation P l) (h : Step (sagaSystem E) P l Q) : Unfinished Q := by
  intro id hafter
  cases h with
  | start store threads entry =>
    rcases hP id hafter with hopen | ⟨p, hp, hsettling⟩
    · exact .inl hopen
    · exact .inr ⟨p, List.mem_append_left _ hp, hsettling⟩
  | @raised store threads i q next here error =>
    rcases hP id hafter with hopen | ⟨p, hp, hsettling⟩
    · exact .inl hopen
    · rcases mem_set_of_mem here hp with rfl | hp
      · exact unfinished_of_stillDue (hok id hsettling hafter) fun h => h
      · exact .inr ⟨p, hp, hsettling⟩
  | @served store store' threads i q next a here answered =>
    have hmem := List.mem_of_getElem? here
    have hfollow := (hsound.linked _ hmem a).1
    have hheld := hsound.known _ hmem
    by_cases hbefore : store.statusOf id = some .compensating
    · rcases hP id hbefore with hopen | ⟨p, hp, hsettling⟩
      · rcases openUndo_served answered hfollow hheld
          (fun row hq => hclaimed.found _ hmem row (congrArg Front.asks hq)) hbefore hopen with
          hopen | hsettling
        · exact .inl hopen
        · exact .inr ⟨_, mem_set_self here, hsettling⟩
      · rcases mem_set_of_mem here hp with rfl | hp
        · rcases settling_served answered hfollow hsettling hbefore hafter with
            hsettling | hopen | ⟨c, rfl, hlost⟩
          · exact .inr ⟨_, mem_set_self here, hsettling⟩
          · exact .inl hopen
          · have hdue := hok
            simp only [settlesCompensation, if_neg hlost] at hdue
            refine unfinished_of_stillDue (hdue id hsettling hbefore) fun h => ?_
            rwa [(serves_updateCas_lost answered hlost).1]
        · exact .inr ⟨p, hp, hsettling⟩
    · -- compensation starts with this write
      obtain ⟨cur, hcur, hstatus⟩ := Option.map_eq_some_iff.mp hafter
      cases instances_after answered id with
      | unchanged same =>
        rw [same] at hcur
        exact (hbefore (hstatus ▸ SagaDb.statusOf_of_get? hcur)).elim
      | inserted input call before after =>
        rw [after] at hcur
        obtain rfl := Option.some.inj hcur
        cases hstatus
      | written c cur' call target before fenced after =>
        subst call
        obtain rfl := (hheld c.inst rfl).eq_of_version (target ▸ before) fenced
        rw [after] at hcur
        obtain rfl := Option.some.inj hcur
        have happlies : Applies store c := ⟨c.inst, target ▸ before, rfl⟩
        have hdue := hok
        simp only [settlesCompensation, if_pos happlies] at hdue
        rcases CasCall.starts hstatus with hs | hstarts
        · exact (hbefore (hs ▸ SagaDb.statusOf_of_get? before)).elim
        · have hdue := hdue hstarts
          rw [target] at hdue
          refine unfinished_of_stillDue hdue fun ⟨row, hrow, hundo⟩ => ⟨row, ?_, hundo⟩
          rwa [steps_updateCas answered]

theorem unfinished_of_run (h : Run settlesCompensation P trace Q) (hP : Initial P) :
    Unfinished Q := by
  refine ((h.strengthen fun h => sound_of_run h hP.sound).strengthen fun h =>
    claimed_of_run h hP).invariant ?_ fun _ _ _ hQ hok hs => hQ.step hok.1.2 hok.2 hok.1.1 hs
  intro id hid
  rw [SagaDb.statusOf, hP.instances] at hid
  cases hid

/-- The engine, as opposed to the worker, the scheduler and the router. -/
def SagaFunction.isEngine : SagaFunction → Bool
  | .execute | .other => false
  | _ => true

def inEngine : SagaFront J → Bool
  | .asks q => (SagaRequest.function q).isEngine
  | _ => false

/-- No call of the engine is in progress. -/
def Quiescent (P : SagaPool E) : Prop := ∀ p ∈ P.threads, inEngine p.front = false

instance (P : SagaPool E) : Decidable (Quiescent P) :=
  inferInstanceAs (Decidable (∀ p ∈ P.threads, _))

theorem inEngine_of_settling {f : SagaFront J} {id : String} (h : settling f = some id) :
    inEngine f = true := by
  cases f with
  | asks q =>
    cases q with
    | findById c => cases c <;> first | rfl | cases h
    | findByInstance c => cases c <;> rfl
    | updateCas c => cases c <;> rfl
    | _ => cases h
  | _ => cases h

/-- With no engine call in progress, a compensating instance has an UNDO row to settle. -/
theorem compensating_has_open_undo (hinit : Initial P) (h : Run settlesCompensation P trace Q)
    (hquiescent : Quiescent Q) {id : String} {inst : SagaInstanceRecord J}
    (hinst : Q.store.instances.get? id = some inst) (hstatus : inst.status = .compensating) :
    ∃ row ∈ Q.store.steps.rows, row.instanceId = id ∧ row.kind = .undo ∧
      (row.status = .pending ∨ row.status = .running) := by
  have hcompensating : Q.store.statusOf id = some .compensating := by
    rw [SagaDb.statusOf_of_get? hinst, hstatus]
  rcases unfinished_of_run h hinit id hcompensating with hopen | ⟨p, hp, hsettling⟩
  · exact hopen
  · have hengine := inEngine_of_settling hsettling
    rw [hquiescent p hp] at hengine
    cases hengine

section Runs

open Scenario

/-- A wait that compensates when it times out, with nothing done before it. -/
theorem stuck_compensating : ∃ (Q : SagaPool demo) (trace : List (Label (sagaSystem demo))),
    Run anyStep (emptyPool (definitionOf [waitStep "a" .compensate] [])) trace Q ∧ Quiescent Q ∧
      statusOf Q = some .compensating ∧ ∀ row ∈ Q.store.steps.rows, row.kind ≠ .undo := by
  have hplay : (((emptyPool (definitionOf [waitStep "a" .compensate] [])).play anyStep
      (deliver "Started" :: serveAll 0 (insertion ++ advancing 0 ++ parking) ++
        .start (.tick "w") :: serveAll 1 (sweeping 100000 ++ compensatingTimeout 100000))).map fun Q =>
      decide (Quiescent Q ∧ statusOf Q = some .compensating ∧
        ∀ row ∈ Q.store.steps.rows, row.kind ≠ .undo)) = some true := by
    decide
  exact Pool.play_reach hplay

/-- The step `x` is done and the wait after it times out: its UNDO row is PENDING. -/
theorem compensating_has_open_undo_step : ∃ (Q : SagaPool demo),
    statusOf Q = some .compensating ∧ ∃ row ∈ Q.store.steps.rows, row.instanceId = "i" ∧
      row.kind = .undo ∧ (row.status = .pending ∨ row.status = .running) := by
  have hplay : (((emptyPool (definitionOf [doStep "x", waitStep "a" .compensate] [])).play
      settlesCompensation
      (deliver "Started" :: serveAll 0 (insertion ++ advancing 0 ++ handingOver) ++
        .start (.tick "w") :: serveAll 1 (working 0 ⟨"i", "x", .do_⟩ ++ advancing 0 ++ parking) ++
        .start (.tick "w") :: serveAll 2 (sweeping 100000 ++ undoingTimeout 100000))).map fun Q =>
      decide (Quiescent Q ∧ statusOf Q = some .compensating)) = some true := by
    decide
  obtain ⟨Q, trace, hrun, hquiescent, hstatus⟩ := Pool.play_reach hplay
  obtain ⟨inst, hinst, hcompensating⟩ := Option.map_eq_some_iff.mp hstatus
  exact ⟨Q, hstatus, compensating_has_open_undo (initial_emptyPool _) hrun hquiescent hinst
    hcompensating⟩

end Runs

end DddBoilerplate.Saga
