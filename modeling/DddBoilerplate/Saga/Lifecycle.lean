/- module: DddBoilerplate/Saga/Lifecycle
   generality: I
   digest: Statuses move along their graph and a compensation is never left forwards, under two conditions on writes and two on the worker. -/

import DddBoilerplate.Saga.Scenario

set_option autoImplicit false
set_option relaxedAutoImplicit false
set_option linter.all false

open DddBoilerplate.Concurrency DddBoilerplate.Store

namespace DddBoilerplate.Saga

variable {J : Type} {E : Environment J} {db db' : SagaDb J}

namespace SagaInstanceStatus

/-- The lifecycle graph. -/
def edges : SagaInstanceStatus → List SagaInstanceStatus
  | running => [waiting, compensating, completed, cancelled, failedManual]
  | waiting => [running, compensating, completed, cancelled, failedManual]
  | compensating => [compensated, failedManual]
  | completed | compensated | cancelled | failedManual => []

/-- Staying, or one edge of the graph. -/
def Moves (s s' : SagaInstanceStatus) : Prop := s' = s ∨ s' ∈ s.edges

instance (s s' : SagaInstanceStatus) : Decidable (Moves s s') :=
  inferInstanceAs (Decidable (_ ∨ _))

/-- What becomes of a compensation. -/
def isCompensation : SagaInstanceStatus → Bool
  | compensating | compensated | failedManual => true
  | _ => false

theorem Moves.isCompensation {s s' : SagaInstanceStatus} (h : Moves s s')
    (hs : s.isCompensation = true) : s'.isCompensation = true := by
  rcases h with rfl | h
  · exact hs
  · cases s with
    | compensating =>
      rcases List.mem_pair.mp h with rfl | rfl <;> rfl
    | compensated => cases h
    | failedManual => cases h
    | _ => cases hs

end SagaInstanceStatus

open SagaInstanceStatus

/-- The two writes prepared from any instance that has not ended, that set a status of their
own whether or not the instance is compensating. -/
def CasCall.ignoresCompensation : CasCall J → Bool
  | skipTimeout _ _ _ | cancel _ _ _ _ => true
  | _ => false

def CasCall.startsCompensation : CasCall J → Bool
  | compensate _ => true
  | _ => false

/-- The row a thread is about to call the action of. -/
def aboutToRun : SagaFront J → Option (Held J)
  | .asks (.runAction held) => some held
  | _ => none

/-- No thread is about to call a forward action of the instance. -/
def NoForwardAction (P : SagaPool E) (id : String) : Prop :=
  ∀ p ∈ P.threads, ∀ held ∈ aboutToRun p.front, held.inst.id = id → held.row.kind = .undo

instance (P : SagaPool E) (id : String) : Decidable (NoForwardAction P id) :=
  inferInstanceAs (Decidable (∀ p ∈ P.threads, _))

/-- A write of a skipped timeout or of a cancel without completed steps does not go through on
a compensating instance, compensation does not start while a worker is about to call a forward
action, and no worker takes up a forward row of a compensating instance. -/
def respectsCompensation (P : SagaPool E) (_ : Nat) : SagaRequest J → Prop
  | .updateCas c => Applies P.store c →
      (c.ignoresCompensation = true → P.store.statusOf c.inst.id ≠ some .compensating) ∧
      (c.startsCompensation = true → NoForwardAction P c.inst.id)
  | .findById (.execute row) => row.kind ≠ .undo →
      P.store.statusOf row.instanceId ≠ some .compensating
  | _ => True

instance (P : SagaPool E) (i : Nat) (q : SagaRequest J) :
    Decidable (respectsCompensation P i q) := by
  apply SagaRequest.casesOn (motive := fun q => Decidable (respectsCompensation P i q)) q
  · intro c
    apply FindCall.casesOn (motive := fun c => Decidable (respectsCompensation P i (.findById c))) c
      <;> intros <;> dsimp only [respectsCompensation] <;> infer_instance
  all_goals
    intros
    dsimp only [respectsCompensation]
    infer_instance

/-- A write moves the status along the graph unless it ignores a compensation. -/
theorem CasCall.moves {c : CasCall J}
    (h : c.ignoresCompensation = true → c.inst.status ≠ .compensating) :
    Moves c.inst.status (c.patch.apply c.inst).status := by
  have hlive := live_cases c.live
  cases c with
  | park w wait buffered =>
    rcases isActive_iff.mp w.active with hs | hs <;> simp [CasCall.patch, CasCall.inst,
      SagaInstancePatch.apply, Moves, hs, edges]
  | handOver w do_ =>
    rcases isActive_iff.mp w.active with hs | hs <;> simp [CasCall.patch, CasCall.inst,
      SagaInstancePatch.apply, Moves, hs, edges]
  | complete inst active cursor ahead =>
    rcases isActive_iff.mp active with hs | hs <;> simp [CasCall.patch, CasCall.inst,
      SagaInstancePatch.apply, Moves, hs, edges]
  | onDoSucceeded inst live index => exact .inl rfl
  | onUndoSucceeded inst compensating rows =>
    simp [CasCall.patch, CasCall.inst, SagaInstancePatch.apply, Moves, compensating, edges]
  | onUndoFailed inst live error =>
    rcases hlive with hs | hs | hs <;> simp_all [CasCall.patch, CasCall.inst,
      SagaInstancePatch.apply, Moves, edges]
  | skipTimeout inst live row =>
    have hne := h rfl
    rcases hlive with hs | hs | hs <;> simp_all [CasCall.patch, CasCall.inst,
      SagaInstancePatch.apply, Moves, edges]
  | cancel inst live reason rows =>
    have hne := h rfl
    rcases hlive with hs | hs | hs <;> simp_all [CasCall.patch, CasCall.inst,
      SagaInstancePatch.apply, Moves, edges]
  | pastPivot inst live reason error =>
    rcases hlive with hs | hs | hs <;> simp_all [CasCall.patch, CasCall.inst,
      SagaInstancePatch.apply, Moves, edges]
  | noUndo c step =>
    rcases hlive with hs | hs | hs <;> simp_all [CasCall.patch, CasCall.inst,
      SagaInstancePatch.apply, Moves, edges]
  | compensate c =>
    rcases hlive with hs | hs | hs <;> simp_all [CasCall.patch, CasCall.inst,
      SagaInstancePatch.apply, Moves, edges]

/-- A write ends up COMPENSATING only where the instance was already, or by the last write of
`startCompensation`. -/
theorem CasCall.starts {c : CasCall J} (h : (c.patch.apply c.inst).status = .compensating) :
    c.inst.status = .compensating ∨ c.startsCompensation = true := by
  cases c with
  | compensate c => exact .inr rfl
  | onDoSucceeded inst live index => exact .inl h
  | _ => cases h

variable {P Q R : SagaPool E} {trace trace' : List (Label (sagaSystem E))}

/-- What a step of a run that respects compensation makes of one instance. -/
theorem moves_of_step {l : Label (sagaSystem E)} (hP : Sound P)
    (hok : atCall respectsCompensation P l) (h : Step (sagaSystem E) P l Q) {id : String}
    {inst : SagaInstanceRecord J} (hinst : P.store.instances.get? id = some inst) :
    ∃ inst', Q.store.instances.get? id = some inst' ∧ Moves inst.status inst'.status := by
  cases hP.instance_change h id with
  | unchanged same => exact ⟨inst, same.trans hinst, .inl rfl⟩
  | inserted input before after => rw [hinst] at before; cases before
  | written i c a front label target before after =>
    subst label
    rw [hinst] at before
    obtain rfl := Option.some.inj before
    have happlies : Applies P.store c := ⟨c.inst, target ▸ hinst, rfl⟩
    have hguard := (hok happlies).1
    rw [target, SagaDb.statusOf_of_get? hinst] at hguard
    exact ⟨_, after, CasCall.moves fun hc hs => hguard hc (congrArg some hs)⟩

/-- An ended instance is never written again. -/
theorem ended_of_step {l : Label (sagaSystem E)} (hP : Sound P) (h : Step (sagaSystem E) P l Q)
    {id : String} {inst : SagaInstanceRecord J} (hinst : P.store.instances.get? id = some inst)
    (hended : inst.status.isTerminal = true) : Q.store.instances.get? id = some inst := by
  cases hP.instance_change h id with
  | unchanged same => exact same.trans hinst
  | inserted input before after => rw [hinst] at before; cases before
  | written i c a front label target before after =>
    rw [hinst] at before
    obtain rfl := Option.some.inj before
    rw [c.live] at hended
    cases hended

section Actions

/-- A worker about to call a forward action read an instance that is still not compensating. -/
def ForwardBeforeCompensation (db : SagaDb J) (f : SagaFront J) : Prop :=
  ∀ held ∈ aboutToRun f, held.row.kind ≠ .undo → db.statusOf held.inst.id ≠ some .compensating

theorem aboutToRun_of_fresh {f : SagaFront J} (h : Fresh f) : aboutToRun f = none := by
  cases f with
  | asks q =>
    cases q with
    | runAction held => cases h
    | _ => rfl
  | _ => rfl

theorem front_of_aboutToRun {f : SagaFront J} {held : Held J} (h : aboutToRun f = some held) :
    f = .asks (.runAction held) := by
  cases f with
  | asks q =>
    cases q with
    | runAction held' => rw [Option.some.inj h]
    | _ => cases h
  | _ => cases h

/-- The front of a worker that is about to call an action shows which call led there. -/
theorem follow_aboutToRun {q : SagaRequest J} {a : q.Answer} {f : SagaFront J}
    (h : follow E q a f) {held : Held J} (hheld : aboutToRun f = some held) :
    q = .findById (.execute held.row) ∧ q.answered a = some held.inst := by
  cases f with
  | asks q' =>
    cases q' with
    | runAction held' =>
      obtain rfl := Option.some.inj hheld
      exact follow_runAction h
    | _ => cases hheld
  | _ => cases hheld

theorem forward_outline :
    Outline (fun P l => atCall (respectsCompensation (E := E)) P l ∧ Sound P) (follow E)
      (fun _ => True) ForwardBeforeCompensation where
  start _ e _ := by
    intro held hheld
    rw [aboutToRun_of_fresh (program_fresh e)] at hheld
    cases hheld
  failed _ := fun _ hheld => by cases hheld
  own P i q next a db' _ hok hserves _ _ := by
    refine ⟨trivial, fun f hf held hheld hkind => ?_⟩
    obtain ⟨rfl, hanswered⟩ := follow_aboutToRun hf hheld
    have hcall : respectsCompensation P i (.findById (.execute held.row)) := hok.1
    have hget := get?_answered hserves hanswered
    rw [(serves_findById hserves).2] at hget ⊢
    rw [held.same]
    exact hcall hkind
  other P i q next a db' here hok hserves _ _ j p hj hp hat := by
    intro held hheld hkind hcompensating
    have hbefore := hat held hheld hkind
    obtain ⟨cur, hcur, hstatus⟩ := Option.map_eq_some_iff.mp hcompensating
    cases instances_after hserves held.inst.id with
    | unchanged same =>
      rw [same] at hcur
      exact hbefore (hstatus ▸ SagaDb.statusOf_of_get? hcur)
    | inserted input call before after =>
      rw [after] at hcur
      obtain rfl := Option.some.inj hcur
      cases hstatus
    | written c cur' call target before fenced after =>
      subst call
      have hcall : respectsCompensation P i (.updateCas c) := hok.1
      obtain rfl := (hok.2.held here rfl).eq_of_version (target ▸ before) fenced
      rw [after] at hcur
      obtain rfl := Option.some.inj hcur
      rcases CasCall.starts hstatus with hs | hstarts
      · exact hbefore (hs ▸ SagaDb.statusOf_of_get? before)
      · have happlies : Applies P.store c := ⟨c.inst, target ▸ before, rfl⟩
        exact hkind ((hcall happlies).2 hstarts p (List.mem_of_getElem? hp) held hheld target.symm)

/-- The instance is compensating, or that compensation has ended. -/
def Compensates (id : String) (db : SagaDb J) : Prop :=
  ∃ cur, db.instances.get? id = some cur ∧ cur.status.isCompensation = true

def OnlyUndo (id : String) (_ : SagaDb J) (f : SagaFront J) : Prop :=
  ∀ held ∈ aboutToRun f, held.inst.id = id → held.row.kind = .undo

theorem compensates_after {id : String} {i : Nat} {q : SagaRequest J} {a : q.Answer}
    (hok : respectsCompensation P i q) (h : SagaServes E q P.store a db')
    (hheld : HeldKnown P.store (.asks q)) (hcompensates : Compensates id P.store) :
    Compensates id db' := by
  obtain ⟨cur, hcur, hstatus⟩ := hcompensates
  cases instances_after h id with
  | unchanged same => exact ⟨cur, same.trans hcur, hstatus⟩
  | inserted input call before after => rw [hcur] at before; cases before
  | written c cur' call target before fenced after =>
    subst call
    rw [hcur] at before
    obtain rfl := Option.some.inj before
    have hguard := (hok ⟨cur, target ▸ hcur, fenced⟩).1
    obtain rfl := (hheld c.inst rfl).eq_of_version (target ▸ hcur) fenced
    rw [target, SagaDb.statusOf_of_get? hcur] at hguard
    exact ⟨_, after, (CasCall.moves fun hc hs => hguard hc (congrArg some hs)).isCompensation hstatus⟩

theorem onlyUndo_outline (id : String) :
    Outline (fun P l => atCall (respectsCompensation (E := E)) P l ∧ Sound P) (follow E)
      (Compensates id) (OnlyUndo id) where
  start _ e _ := by
    intro held hheld
    rw [aboutToRun_of_fresh (program_fresh e)] at hheld
    cases hheld
  failed _ := fun _ hheld => by cases hheld
  own P i q next a db' here hok hserves hcompensates _ := by
    have hcall : respectsCompensation P i q := hok.1
    have hcompensates' := compensates_after hcall hserves (fun _ => hok.2.held here) hcompensates
    refine ⟨hcompensates', fun f hf held hheld hid => ?_⟩
    obtain ⟨rfl, hanswered⟩ := follow_aboutToRun hf hheld
    by_contra hkind
    have hnot := hcall hkind
    have hget := get?_answered hserves hanswered
    obtain ⟨cur, hcur, hstatus⟩ := hcompensates'
    rw [← hid, hget] at hcur
    obtain rfl := Option.some.inj hcur
    rw [(serves_findById hserves).2] at hget
    rw [← held.same, SagaDb.statusOf_of_get? hget] at hnot
    -- the worker goes on only with an instance that has not ended
    rcases live_cases held.live with hs | hs | hs
    · rw [hs] at hstatus; cases hstatus
    · rw [hs] at hstatus; cases hstatus
    · exact hnot (congrArg some hs)
  other P i q next a db' _ _ _ _ _ j p _ _ hat := hat

end Actions

/-- The instance is stored, and as it was if it had ended. -/
def Kept (id : String) (inst : SagaInstanceRecord J) (P : SagaPool E) : Prop :=
  ∃ inst', P.store.instances.get? id = some inst' ∧ (inst.status.isTerminal = true → inst' = inst)

theorem kept_of_run (hQ : Sound Q) (hR : Run (atCall respectsCompensation) Q trace' R)
    {id : String} {inst : SagaInstanceRecord J} (hinst : Q.store.instances.get? id = some inst) :
    Kept id inst R := by
  refine (hR.strengthen fun h => sound_of_run h hQ).invariant ⟨inst, hinst, fun _ => rfl⟩ ?_
  rintro S l S' ⟨cur, hcur, hended⟩ ⟨hok, hsound⟩ hstep
  obtain ⟨cur', hcur', _⟩ := moves_of_step hsound hok hstep hcur
  refine ⟨cur', hcur', fun hterminal => ?_⟩
  have hsame := ended_of_step hsound hstep hcur (by rw [hended hterminal]; exact hterminal)
  rw [hcur'] at hsame
  rw [Option.some.inj hsame]
  exact hended hterminal

/-- From any reached pool on, every further step moves the status of an instance along the
graph, an ended instance stays as it is, and an instance that is compensating stays with its
compensation while no worker is about to call one of its forward actions. -/
theorem compensation_is_never_left (hinit : Initial P)
    (hQ : Run (atCall respectsCompensation) P trace Q)
    (hR : Run (atCall respectsCompensation) Q trace' R) {id : String}
    {inst : SagaInstanceRecord J} (hinst : Q.store.instances.get? id = some inst) :
    ∃ inst', R.store.instances.get? id = some inst' ∧
      (∀ l S, atCall respectsCompensation R l → Step (sagaSystem E) R l S →
        ∃ inst'', S.store.instances.get? id = some inst'' ∧ Moves inst'.status inst''.status) ∧
      (inst.status.isTerminal = true → inst' = inst) ∧
      (inst.status = .compensating → inst'.status.isCompensation = true ∧ NoForwardAction R id) := by
  have hsoundQ := sound_of_run hQ hinit.sound
  have hsoundR := sound_of_run hR hsoundQ
  obtain ⟨inst', hinst', hended⟩ := kept_of_run hsoundQ hR hinst
  refine ⟨inst', hinst', fun l S hok hstep => moves_of_step hsoundR hok hstep hinst', hended,
    fun hcompensating => ?_⟩
  have hforward := forward_outline.run program_linked
    (hQ.strengthen fun h => sound_of_run h hinit.sound) hinit.sound.linked
    ⟨trivial, fun p hp => by simp [hinit.threads] at hp⟩
  have hstart : Outline.Holds (Compensates id) (OnlyUndo id) Q := by
    refine ⟨⟨inst, hinst, by rw [hcompensating]; rfl⟩, fun p hp held hheld hid => ?_⟩
    by_contra hkind
    have hnot := hforward.2 p hp held hheld hkind
    rw [hid, SagaDb.statusOf_of_get? hinst] at hnot
    exact hnot (congrArg some hcompensating)
  have hend := (onlyUndo_outline id).run program_linked
    (hR.strengthen fun h => sound_of_run h hsoundQ) hsoundQ.linked hstart
  obtain ⟨cur, hcur, hstatus⟩ := hend.1
  rw [hinst'] at hcur
  obtain rfl := Option.some.inj hcur
  exact ⟨hstatus, hend.2⟩

section Runs

open Scenario

/-- A wait that is skipped when it times out, and one that compensates. -/
private def skipThenCompensate : SagaDefinitionRecord :=
  definitionOf [waitStep "a" .skip, waitStep "b" .compensate] []

/-- Parked on `a`, then on `b`; the next sweep finds both rows, skips `a` once more and
compensates for `b`. -/
private def bothTimeouts : List DemoMove :=
  deliver "Started" :: serveAll 0 (insertion ++ advancing 0 ++ parking) ++
  .start (.tick "w") :: serveAll 1 (sweeping 100000 ++ skipping ++ advancing 100000 ++ parking) ++
  .start (.tick "w") :: serveAll 2 (sweeping 200000 ++ skipping ++ advancing 200000 ++ parking ++
    compensatingTimeout 200000)

/-- The WAIT row of `a` is PENDING for ever: the sweep after that puts the compensating
instance back to RUNNING. -/
theorem compensation_left : ∃ (Q R : SagaPool demo) (trace trace' : List (Label (sagaSystem demo))),
    Run anyStep (emptyPool skipThenCompensate) trace Q ∧ Run anyStep Q trace' R ∧
      statusOf Q = some .compensating ∧ statusOf R = some .running := by
  have hplay : (((emptyPool skipThenCompensate).play anyStep bothTimeouts).bind fun Q =>
      (Q.play anyStep (.start (.tick "w") :: serveAll 3 (sweeping 300000 ++ skipping))).map
        fun R => decide (statusOf Q = some .compensating ∧ statusOf R = some .running)) =
      some true := by
    decide
  exact Pool.play_reaches hplay

/-- A run in which compensation is respected, with a wait that compensates. -/
theorem compensation_is_never_left_wait : ∃ (R : SagaPool demo) (inst : SagaInstanceRecord String),
    R.store.instances.get? "i" = some inst ∧ inst.status.isCompensation = true := by
  have hplay : (((emptyPool (definitionOf [waitStep "a" .compensate] [])).play
      (atCall respectsCompensation)
      (deliver "Started" :: serveAll 0 (insertion ++ advancing 0 ++ parking) ++
        .start (.tick "w") :: serveAll 1 (sweeping 100000 ++ compensatingTimeout 100000))).bind fun Q =>
      (Q.play (atCall respectsCompensation) (.start (.tick "w") :: serveAll 2 (sweeping 200000))).map
        fun _ => decide (statusOf Q = some .compensating)) = some true := by
    decide
  obtain ⟨Q, R, trace, trace', hQ, hR, hcheck⟩ := Pool.play_reaches hplay
  obtain ⟨inst, hinst, hstatus⟩ := Option.map_eq_some_iff.mp hcheck
  obtain ⟨inst', hinst', _, _, hcompensates⟩ :=
    compensation_is_never_left (initial_emptyPool _) hQ hR hinst
  exact ⟨R, inst', hinst', (hcompensates hstatus).1⟩

end Runs

end DddBoilerplate.Saga
