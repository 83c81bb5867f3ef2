/- module: DddBoilerplate/Saga/Compensation
   generality: I
   digest: A compensated or cancelled instance has undone what it did, as long as no forward work is in flight when it starts. -/

import DddBoilerplate.Saga.Lifecycle
import DddBoilerplate.Saga.Undo

set_option autoImplicit false
set_option relaxedAutoImplicit false
set_option linter.all false

open DddBoilerplate.Concurrency DddBoilerplate.Store

namespace DddBoilerplate.Saga

variable {J : Type} {E : Environment J} {db db' : SagaDb J}

/-- The row whose action a worker is calling, or whose success it is about to record. -/
def workingOn : SagaFront J → Option (Held J)
  | .asks (.runAction held) | .asks (.markDone held _) => some held
  | _ => none

/-- No worker is at work on a forward row of the instance. -/
def NoForwardWork (P : SagaPool E) (id : String) : Prop :=
  ∀ p ∈ P.threads, ∀ held ∈ workingOn p.front, held.inst.id = id → held.row.kind = .undo

instance (P : SagaPool E) (id : String) : Decidable (NoForwardWork P id) :=
  inferInstanceAs (Decidable (∀ p ∈ P.threads, _))

def undoFailed (rows : List (SagaStepRecord J)) : Bool :=
  rows.any fun row => row.kind = .undo && row.status = .failed

/-- What a write decides from the rows read before it is still so when it goes through: a
cancel has no completed step, compensation covers every one, and no UNDO row had failed when
it ended. -/
def CasCall.accounts (db : SagaDb J) : CasCall J → Prop
  | cancel inst _ _ _ =>
    SagaEngine.hasCompletedDo (SagaStepRepository.findByInstance db inst.id) = false
  | compensate c => ∀ row ∈ SagaStepRepository.findByInstance db c.inst.id,
      row.kind = .do_ → row.status = .done → c.covers row.stepId = true
  | onUndoSucceeded _ _ rows => undoFailed rows = false
  | _ => True

instance (db : SagaDb J) (c : CasCall J) : Decidable (c.accounts db) := by
  unfold CasCall.accounts
  split <;> infer_instance

/-- The two writes that end forward work. -/
def CasCall.endsForward : CasCall J → Bool
  | cancel _ _ _ _ | compensate _ => true
  | _ => false

/-- A cancel and the start of compensation go through with no forward work in flight, writes
account for the rows stored, no worker takes up a forward row of a compensating instance, and
no DONE UNDO row is queued again. -/
def compensatesCompletely (P : SagaPool E) (_ : Nat) (q : SagaRequest J) : Prop :=
  KeepsDone isUndo P.store q ∧
  match q with
  | .updateCas c => Applies P.store c →
      (c.endsForward = true → NoForwardWork P c.inst.id) ∧ c.accounts P.store
  | .findById (.execute row) => row.kind ≠ .undo →
      P.store.statusOf row.instanceId ≠ some .compensating
  | _ => True

instance (P : SagaPool E) (i : Nat) (q : SagaRequest J) :
    Decidable (compensatesCompletely P i q) := by
  apply SagaRequest.casesOn (motive := fun q => Decidable (compensatesCompletely P i q)) q
  · intro c
    apply FindCall.casesOn
      (motive := fun c => Decidable (compensatesCompletely P i (.findById c))) c
      <;> intros <;> dsimp only [compensatesCompletely] <;> infer_instance
  all_goals
    intros
    dsimp only [compensatesCompletely]
    infer_instance

section Forward

/-- Forward work is over. -/
def SagaInstanceStatus.isOver : SagaInstanceStatus → Bool
  | compensating | compensated | cancelled => true
  | _ => false

theorem CasCall.isOver {c : CasCall J} (h : (c.patch.apply c.inst).status.isOver = true) :
    c.inst.status.isOver = true ∨ c.endsForward = true := by
  cases c with
  | cancel inst live reason rows => exact .inr rfl
  | compensate c => exact .inr rfl
  | onDoSucceeded inst live index => exact .inl h
  | onUndoSucceeded inst compensating rows =>
    left
    rw [CasCall.inst, compensating]
    rfl
  | _ => cases h

/-- A worker at forward work holds an instance whose forward work is not over. -/
def ForwardOpen (db : SagaDb J) (f : SagaFront J) : Prop :=
  ∀ held ∈ workingOn f, held.row.kind ≠ .undo →
    ∃ cur, db.instances.get? held.inst.id = some cur ∧ cur.status.isOver = false

theorem workingOn_of_fresh {f : SagaFront J} (h : Fresh f) : workingOn f = none := by
  cases f with
  | asks q =>
    cases q with
    | runAction held => cases h
    | markDone held output => cases h
    | _ => rfl
  | _ => rfl

/-- A worker goes on with the row it is at, or has just read its instance. -/
theorem follow_workingOn {q : SagaRequest J} {a : q.Answer} {f : SagaFront J}
    (h : follow E q a f) {held : Held J} (hheld : workingOn f = some held) :
    workingOn (.asks q) = some held ∨
      (q = .findById (.execute held.row) ∧ q.answered a = some held.inst) := by
  cases f with
  | asks q' =>
    cases q' with
    | runAction held' =>
      obtain rfl := Option.some.inj hheld
      exact .inr (follow_runAction h)
    | markDone held' output =>
      obtain rfl := Option.some.inj hheld
      left
      have hq : q.function = .execute := by
        rcases follow_function h rfl with hf | ⟨hf, _⟩
        · exact hf.symm
        · cases hf
      cases executeCall_of_function hq with
      | execute row =>
        rcases a with _ | ⟨found, hid⟩
        · cases h
        · rcases h with ⟨_, h⟩ | ⟨_, h⟩ | ⟨_, h⟩ <;> cases h
      | missing row => cases h
      | unregistered held => cases fresh_of_failure h
      | exhausted held error => cases fresh_of_failure h
      | runAction held =>
        rcases h with h | ⟨_, h⟩ | ⟨_, h⟩
        · cases h
        · cases h; rfl
        · cases h
      | markDone held output =>
        dsimp only [follow] at h
        split at h <;> cases h
      | markSkipped row inst same ended => cases h
    | _ => cases hheld
  | _ => cases hheld

theorem forwardOpen_outline :
    Outline (fun P l => atCall (compensatesCompletely (E := E)) P l ∧ Sound P) (follow E)
      (fun _ => True) ForwardOpen where
  start _ e _ := by
    intro held hheld
    rw [workingOn_of_fresh (program_fresh e)] at hheld
    cases hheld
  failed _ := fun _ hheld => by cases hheld
  own P i q next a db' _ hok hserves _ hat := by
    refine ⟨trivial, fun f hf held hheld hkind => ?_⟩
    rcases follow_workingOn hf hheld with hq | ⟨rfl, hanswered⟩
    · obtain ⟨cur, hcur, hstatus⟩ := hat held hq hkind
      cases instances_after hserves held.inst.id with
      | unchanged same => exact ⟨cur, same.trans hcur, hstatus⟩
      | inserted input call before after => rw [hcur] at before; cases before
      | written c cur' call target before fenced after => subst call; cases hq
    · have hcall : compensatesCompletely P i (.findById (.execute held.row)) := hok.1
      have hget := get?_answered hserves hanswered
      refine ⟨held.inst, hget, ?_⟩
      rw [(serves_findById hserves).2] at hget
      have hnot := hcall.2 hkind
      rw [← held.same, SagaDb.statusOf_of_get? hget] at hnot
      rcases SagaInstanceStatus.live_cases held.live with hs | hs | hs
      · rw [hs]; rfl
      · rw [hs]; rfl
      · exact (hnot (congrArg some hs)).elim
  other P i q next a db' here hok hserves _ _ j p _ hp hat := by
    intro held hheld hkind
    obtain ⟨cur, hcur, hstatus⟩ := hat held hheld hkind
    cases instances_after hserves held.inst.id with
    | unchanged same => exact ⟨cur, same.trans hcur, hstatus⟩
    | inserted input call before after => rw [hcur] at before; cases before
    | written c cur' call target before fenced after =>
      subst call
      have hcall : compensatesCompletely P i (.updateCas c) := hok.1
      rw [hcur] at before
      obtain rfl := Option.some.inj before
      obtain rfl := (hok.2.held here rfl).eq_of_version (target ▸ hcur) fenced
      refine ⟨_, after, ?_⟩
      by_contra hover
      rw [Bool.not_eq_false] at hover
      rcases CasCall.isOver hover with hs | hends
      · rw [hstatus] at hs
        cases hs
      · have happlies : Applies P.store c := ⟨c.inst, target ▸ hcur, rfl⟩
        have hnone := (hcall.2 happlies).1 hends
        exact hkind (hnone p (List.mem_of_getElem? hp) held hheld target.symm)

end Forward

section Accounts

/-- What holds of the completed steps of compensating, compensated and cancelled instances. -/
structure Accounted (db : SagaDb J) : Prop where
  compensating : ∀ id stepId, db.statusOf id = some .compensating → db.DoneDo id stepId →
    db.HasRow ⟨id, stepId, .undo⟩
  compensated : ∀ id stepId, db.statusOf id = some .compensated → db.DoneDo id stepId →
    db.stepStatus ⟨id, stepId, .undo⟩ = some .done
  cancelled : ∀ id stepId, db.statusOf id = some .cancelled → ¬ db.DoneDo id stepId

/-- About to end a compensation whose instance is as it was read: every completed step has
been undone, unless an UNDO row had failed. -/
def AllUndone (db : SagaDb J) : SagaFront J → Prop
  | .asks (.updateCas (.onUndoSucceeded inst _ rows)) =>
    db.instances.get? inst.id = some inst → undoFailed rows = false →
      ∀ stepId, db.DoneDo inst.id stepId → db.stepStatus ⟨inst.id, stepId, .undo⟩ = some .done
  | _ => True

/-- The facts the accounts rest on. -/
structure Grounds (P : SagaPool E) : Prop where
  sound : Sound P
  undone : Undone P
  forward : ∀ p ∈ P.threads, ForwardOpen P.store p.front

variable {P Q R : SagaPool E} {trace trace' : List (Label (sagaSystem E))}

/-- No DO row of an instance becomes DONE once its forward work is over. -/
theorem doneDo_before {i : Nat} {q : SagaRequest J} {a : q.Answer}
    {next : q.Answer → SagaProgram J Unit} (hP : Grounds P)
    (here : P.threads[i]? = some (@Program.ask (sagaInterface J) Unit q next))
    (h : SagaServes E q P.store a db') {id stepId : String} {s : SagaInstanceStatus}
    (hstatus : P.store.statusOf id = some s) (hover : s.isOver = true)
    (hdone : db'.DoneDo id stepId) : P.store.DoneDo id stepId := by
  rcases done_after h hdone (fun hkind => by cases hkind) with hbefore | ⟨_, held, output, rfl, hrow⟩
  · exact hbefore
  · have hkind : held.row.kind ≠ .undo := by
      rw [show held.row.kind = .do_ from congrArg SagaStepKey.kind hrow]
      decide
    have hid : held.inst.id = id := held.same.trans (congrArg SagaStepKey.instanceId hrow)
    obtain ⟨cur, hcur, hopen⟩ := hP.forward _ (List.mem_of_getElem? here) held rfl hkind
    rw [hid] at hcur
    rw [SagaDb.statusOf_eq hstatus hcur, hover] at hopen
    cases hopen

theorem mem_findByInstance {k : SagaStepKey} {row : SagaStepRecord J}
    (h : db.steps.get? k = some row) :
    row ∈ SagaStepRepository.findByInstance db k.instanceId := by
  have hkey : row.id = k := Table.key_of_get? h
  refine List.mem_filter.mpr ⟨Table.mem_of_get? h, decide_eq_true ?_⟩
  exact congrArg SagaStepKey.instanceId hkey

/-- A row of the instance read as DONE, by its key. -/
theorem mem_of_doneDo {id stepId : String} (h : db.DoneDo id stepId) :
    ∃ row ∈ SagaStepRepository.findByInstance db id, row.stepId = stepId ∧ row.kind = .do_ ∧
      row.status = .done := by
  obtain ⟨row, hrow, hstatus⟩ := Option.map_eq_some_iff.mp h
  have hkey : row.id = ⟨id, stepId, .do_⟩ := Table.key_of_get? hrow
  exact ⟨row, mem_findByInstance hrow, congrArg SagaStepKey.stepId hkey,
    congrArg SagaStepKey.kind hkey, hstatus⟩

theorem stepStatus_updateCas {c : CasCall J} {a : Option (SagaInstanceRecord J)}
    (h : SagaServes E (.updateCas c) db a db') (k : SagaStepKey) :
    db'.stepStatus k = db.stepStatus k := by
  cases steps_after h k with
  | unchanged same => rw [SagaDb.stepStatus, SagaDb.stepStatus, same]
  | changed old new before after change => cases change
  | inserted c' call key before after => cases call

/-- A status after a call is the one before it, or set by a write that goes through. -/
theorem status_cases {q : SagaRequest J} {a : q.Answer} (h : SagaServes E q db a db')
    (hheld : HeldKnown db (.asks q)) {id : String} {s : SagaInstanceStatus}
    (hs : db'.statusOf id = some s) (hrunning : s ≠ .running) :
    db.statusOf id = some s ∨ ∃ c, q = .updateCas c ∧ c.inst.id = id ∧ Applies db c ∧
      db.instances.get? c.inst.id = some c.inst ∧ (c.patch.apply c.inst).status = s := by
  obtain ⟨cur, hcur, hstatus⟩ := Option.map_eq_some_iff.mp hs
  cases instances_after h id with
  | unchanged same =>
    left
    rwa [SagaDb.statusOf, ← same]
  | inserted input call before after =>
    rw [after] at hcur
    obtain rfl := Option.some.inj hcur
    exact (hrunning hstatus.symm).elim
  | written c cur' call target before fenced after =>
    subst call
    obtain rfl := (hheld c.inst rfl).eq_of_version (target ▸ before) fenced
    rw [after] at hcur
    obtain rfl := Option.some.inj hcur
    exact .inr ⟨c, rfl, target, ⟨c.inst, target ▸ before, rfl⟩, target ▸ before, hstatus⟩

theorem accounted_after {i : Nat} {q : SagaRequest J} {a : q.Answer}
    {next : q.Answer → SagaProgram J Unit} (hP : Grounds P)
    (here : P.threads[i]? = some (@Program.ask (sagaInterface J) Unit q next))
    (hok : compensatesCompletely P i q) (h : SagaServes E q P.store a db')
    (hinv : Accounted P.store) (hat : AllUndone P.store (.asks q)) : Accounted db' := by
  have hheld : HeldKnown P.store (.asks q) := fun _ => hP.sound.held here
  refine ⟨fun id stepId hs hdone => ?_, fun id stepId hs hdone => ?_, fun id stepId hs hdone => ?_⟩
  · rcases status_cases h hheld hs (by decide) with hbefore | ⟨c, rfl, rfl, happlies, hget, hpatch⟩
    · exact hasRow_after h (hinv.compensating id stepId hbefore
        (doneDo_before hP here h hbefore rfl hdone))
    · have hdone' : P.store.DoneDo c.inst.id stepId := by
        rwa [SagaDb.DoneDo, ← stepStatus_updateCas h]
      rcases CasCall.starts hpatch with hs' | hstarts
      · exact hasRow_after h (hinv.compensating _ stepId
          (hs' ▸ SagaDb.statusOf_of_get? hget) hdone')
      · cases c with
        | compensate c =>
          obtain ⟨row, hrow, rfl, hkind, hstatus⟩ := mem_of_doneDo hdone'
          obtain ⟨index, step, hlt, hstep, hid, hcompleted⟩ :=
            Unwinding.covers_iff ((hok.2 happlies).2 row hrow hkind hstatus)
          have hunwound := hP.undone.unwound _ (List.mem_of_getElem? here)
          rw [← hid]
          exact hasRow_after h (hunwound index step (Nat.zero_le _) hlt hstep hcompleted)
        | _ => cases hstarts
  · rcases status_cases h hheld hs (by decide) with hbefore | ⟨c, rfl, rfl, happlies, hget, hpatch⟩
    · exact hok.1.stays h rfl (hinv.compensated id stepId hbefore
        (doneDo_before hP here h hbefore rfl hdone))
    · have hdone' : P.store.DoneDo c.inst.id stepId := by
        rwa [SagaDb.DoneDo, ← stepStatus_updateCas h]
      rw [stepStatus_updateCas h]
      cases c with
      | onUndoSucceeded inst compensating rows =>
        exact hat hget (hok.2 happlies).2 stepId hdone'
      | onDoSucceeded inst live index => rw [show inst.status = _ from hpatch] at live; cases live
      | _ => cases hpatch
  · rcases status_cases h hheld hs (by decide) with hbefore | ⟨c, rfl, rfl, happlies, hget, hpatch⟩
    · exact hinv.cancelled id stepId hbefore (doneDo_before hP here h hbefore rfl hdone)
    · have hdone' : P.store.DoneDo c.inst.id stepId := by
        rwa [SagaDb.DoneDo, ← stepStatus_updateCas h]
      cases c with
      | cancel inst live reason rows =>
        obtain ⟨row, hrow, _, hkind, hstatus⟩ := mem_of_doneDo hdone'
        have hnone := List.any_eq_false.mp (hok.2 happlies).2 row hrow
        simp [hkind, hstatus] at hnone
      | onDoSucceeded inst live index => rw [show inst.status = _ from hpatch] at live; cases live
      | _ => cases hpatch

/-- The last write of `onUndoSucceeded` comes right after it read the rows, none open. -/
theorem follow_allUndone {q : SagaRequest J} {a : q.Answer} {inst : SagaInstanceRecord J}
    {compensating : inst.status = .compensating} {rows : List (SagaStepRecord J)}
    (h : follow E q a (.asks (.updateCas (.onUndoSucceeded inst compensating rows))))
    (hserves : SagaServes E q db a db') :
    rows = SagaStepRepository.findByInstance db inst.id ∧ db' = db ∧
      SagaEngine.pendingUndo rows = false := by
  have hq : q.function = .onUndoSucceeded := by
    rcases follow_function h rfl with hf | ⟨hf, _⟩
    · exact hf.symm
    · cases hf
  cases q with
  | findById c =>
    cases c with
    | onUndoSucceeded id =>
      rcases a with _ | ⟨found, hid⟩
      · cases h
      · dsimp only [follow] at h
        split at h <;> cases h
    | _ => cases hq
  | findByInstance c =>
    cases c with
    | onUndoSucceeded inst' compensating' =>
      obtain ⟨hrows, hdb⟩ := serves_findByInstance hserves
      dsimp only [follow] at h
      split at h
      · cases h
      · rename_i hpending
        cases h
        exact ⟨hrows, hdb, by simpa using hpending⟩
    | _ => cases hq
  | clock c => cases c <;> cases hq
  | updateCas c =>
    cases c with
    | onUndoSucceeded inst' compensating' rows' => cases h
    | _ => cases hq
  | createIfAbsent c => cases c <;> cases hq
  | markFailed c => cases c <;> cases hq
  | _ => cases hq

theorem allUndone_next {q : SagaRequest J} {a : q.Answer} {f : SagaFront J} (hP : Grounds P)
    (h : SagaServes E q P.store a db') (hf : follow E q a f) (hinv : Accounted P.store) :
    AllUndone db' f := by
  cases f with
  | asks q' =>
    cases q' with
    | updateCas c =>
      cases c with
      | onUndoSucceeded inst compensating rows =>
        intro hget hfailed stepId hdone
        obtain ⟨hrows, rfl, hpending⟩ := follow_allUndone hf h
        have hstatus : P.store.statusOf inst.id = some .compensating := by
          rw [SagaDb.statusOf_of_get? hget, compensating]
        obtain ⟨row, hrow⟩ := hinv.compensating inst.id stepId hstatus hdone
        have hmem := mem_findByInstance hrow
        rw [← hrows] at hmem
        have hkind : row.kind = .undo := congrArg SagaStepKey.kind (Table.key_of_get? hrow)
        have hnotOpen := List.any_eq_false.mp hpending row hmem
        have hnotFailed := List.any_eq_false.mp hfailed row hmem
        rw [SagaDb.stepStatus_of_get? hrow]
        cases hs : row.status with
        | done => rfl
        | pending => simp [hkind, hs] at hnotOpen
        | running => simp [hkind, hs] at hnotOpen
        | failed => simp [hkind, hs] at hnotFailed
        | skipped =>
          have hskipped := SagaDb.stepStatus_of_get? hrow
          rw [hs] at hskipped
          obtain ⟨cur, hcur, hterminal⟩ := hP.undone.skipped _ rfl hskipped
          rw [show _ = some inst from hget] at hcur
          obtain rfl := Option.some.inj hcur
          rw [compensating] at hterminal
          cases hterminal
      | _ => trivial
    | _ => trivial
  | _ => trivial

/-- The stored instance is the one read only as long as no write came between. -/
theorem get?_before {q : SagaRequest J} {a : q.Answer} (h : SagaServes E q db a db')
    {inst : SagaInstanceRecord J} (hknown : Known db inst)
    (hafter : db'.instances.get? inst.id = some inst) : db.instances.get? inst.id = some inst := by
  obtain ⟨cur, hcur, _, hle, _⟩ := hknown.known
  cases instances_after h inst.id with
  | unchanged same => rwa [← same]
  | inserted input call before after => rw [hcur] at before; cases before
  | written c cur' call target before fenced after =>
    rw [hcur] at before
    obtain rfl := Option.some.inj before
    rw [hafter] at after
    have hversion := congrArg SagaInstanceRecord.version (Option.some.inj after)
    rw [SagaInstancePatch.apply_version] at hversion
    omega

theorem allUndone_after {i : Nat} {q : SagaRequest J} {a : q.Answer} {f : SagaFront J}
    {next : q.Answer → SagaProgram J Unit} (hP : Grounds P)
    (here : P.threads[i]? = some (@Program.ask (sagaInterface J) Unit q next))
    (hok : compensatesCompletely P i q) (h : SagaServes E q P.store a db')
    (hknown : HeldKnown P.store f) (hat : AllUndone P.store f) : AllUndone db' f := by
  cases f with
  | asks q' =>
    cases q' with
    | updateCas c =>
      cases c with
      | onUndoSucceeded inst compensating rows =>
        intro hget hfailed stepId hdone
        have hbefore := get?_before h (hknown inst rfl) hget
        have hstatus : P.store.statusOf inst.id = some .compensating := by
          rw [SagaDb.statusOf_of_get? hbefore, compensating]
        exact hok.1.stays h rfl (hat hbefore hfailed stepId
          (doneDo_before hP here h hstatus rfl hdone))
      | _ => trivial
    | _ => trivial
  | _ => trivial

theorem accounted_outline :
    Outline (fun P l => atCall (compensatesCompletely (E := E)) P l ∧ Grounds P) (follow E)
      Accounted AllUndone where
  start _ e _ := by
    have hfresh := program_fresh (E := E) e
    cases hf : ((sagaSystem E).program e).front with
    | asks q =>
      cases q with
      | updateCas c => rw [show (e.program E).front = _ from hf] at hfresh; cases hfresh
      | _ => trivial
    | _ => trivial
  failed _ := trivial
  own P i q next a db' here hok hserves hinv hat := by
    have hcall : compensatesCompletely P i q := hok.1
    exact ⟨accounted_after hok.2 here hcall hserves hinv hat,
      fun f hf => allUndone_next hok.2 hserves hf hinv⟩
  other P i q next a db' here hok hserves _ _ j p _ hp hat := by
    have hcall : compensatesCompletely P i q := hok.1
    exact allUndone_after hok.2 here hcall hserves
      (hok.2.sound.known p (List.mem_of_getElem? hp)) hat

theorem grounds_of_run (h : Run (atCall compensatesCompletely) P trace Q) (hP : Initial P) :
    Grounds Q := by
  have hforward := forwardOpen_outline.run program_linked
    (h.strengthen fun h => sound_of_run h hP.sound) hP.sound.linked
    ⟨trivial, fun p hp => by simp [hP.threads] at hp⟩
  exact ⟨sound_of_run h hP.sound, undone_of_run h hP, hforward.2⟩

theorem accounted_of_run (h : Run (atCall compensatesCompletely) P trace Q) (hP : Initial P) :
    Accounted Q.store := by
  have hnone (id : String) (s : SagaInstanceStatus) : P.store.statusOf id ≠ some s := by
    rw [SagaDb.statusOf, hP.instances]
    exact fun h => by cases h
  have hstart : Outline.Holds Accounted AllUndone P :=
    ⟨⟨fun id _ hs => (hnone id _ hs).elim, fun id _ hs => (hnone id _ hs).elim,
      fun id _ hs => (hnone id _ hs).elim⟩, fun p hp => by simp [hP.threads] at hp⟩
  exact (accounted_outline.run program_linked (h.strengthen fun h => grounds_of_run h hP)
    hP.sound.linked hstart).1

end Accounts

variable {P Q R : SagaPool E} {trace trace' : List (Label (sagaSystem E))}

/-- The instance is as it ended, and no DO row of it has become DONE since. -/
def NoneDoneSince (db : SagaDb J) (id : String) (inst : SagaInstanceRecord J) (P : SagaPool E) :
    Prop :=
  P.store.instances.get? id = some inst ∧ ∀ stepId, P.store.DoneDo id stepId → db.DoneDo id stepId

/-- Once an instance is COMPENSATED or CANCELLED, no DO row of it becomes DONE. -/
theorem no_later_doneDo (hinit : Initial P) (hQ : Run (atCall compensatesCompletely) P trace Q)
    (hR : Run (atCall compensatesCompletely) Q trace' R) {id : String}
    {inst : SagaInstanceRecord J} (hinst : Q.store.instances.get? id = some inst)
    (hended : inst.status.isTerminal = true) (hover : inst.status.isOver = true) :
    NoneDoneSince Q.store id inst R := by
  have hstart : NoneDoneSince Q.store id inst Q := ⟨hinst, fun _ h => h⟩
  refine (hR.strengthen fun h => grounds_of_run (hQ.append h) hinit).invariant
    hstart ?_
  rintro S l S' ⟨hget, hbefore⟩ ⟨_, hgrounds⟩ hstep
  refine ⟨ended_of_step hgrounds.sound hstep hget hended, fun stepId hdone => ?_⟩
  cases hstep with
  | start store threads entry => exact hbefore stepId hdone
  | raised here error => exact hbefore stepId hdone
  | served here answered =>
    exact hbefore stepId (doneDo_before hgrounds here answered
      (SagaDb.statusOf_of_get? hget) hover hdone)

section Runs

open Scenario

/-- The worker is calling the action of `x` when the cancel event comes. -/
private def cancelledAtWork : List DemoMove :=
  deliver "Started" :: serveAll 0 (insertion ++ advancing 0 ++ handingOver) ++
  .start (.tick "w") :: serveAll 1 [.time 0, .claim [⟨"i", "x", .do_⟩], .plain] ++
  deliver "Stop" :: serveAll 2 [.plain, .plain, .order ["i"], .plain, .plain, .plain]

/-- The step `x` is done, the wait after it compensates, and the UNDO of `x` is run. -/
private def undoneStep : List DemoMove :=
  deliver "Started" :: serveAll 0 (insertion ++ advancing 0 ++ handingOver) ++
  .start (.tick "w") :: serveAll 1 (working 0 ⟨"i", "x", .do_⟩ ++ advancing 0 ++ parking) ++
  .start (.tick "w") :: serveAll 2 (sweeping 100000 ++ undoingTimeout 100000) ++
  .start (.tick "w") :: serveAll 3 (working 100000 ⟨"i", "x", .undo⟩ ++ [SagaChoice.plain])

end Runs

end DddBoilerplate.Saga
