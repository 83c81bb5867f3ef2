/- module: DddBoilerplate/Saga/WaitOutcome
   generality: I
   digest: A WAIT step is settled once, by one consumed event, as long as no timeout takes effect and no two walks consume for it. -/

import DddBoilerplate.Saga.Delivery

set_option autoImplicit false
set_option relaxedAutoImplicit false
set_option linter.all false

open DddBoilerplate.Concurrency DddBoilerplate.Store

namespace DddBoilerplate.Saga

variable {J : Type} {E : Environment J} {db db' : SagaDb J}

/-- An event is consumed for the step at position `n` of the instance. -/
def consumesFor (id : String) (n : Nat) : Label (sagaSystem E) → Bool
  | .served _ (.markConsumed w _) _ _ => w.inst.id = id && w.cursor = n
  | _ => false

/-- The timeout of a WAIT row of the instance takes effect: every write of `onWaitTimeout`
comes after this one. -/
def timesOut (id stepId : String) : Label (sagaSystem E) → Bool
  | .served _ (.markFailed (.onWaitTimeout inst _ row)) _ _ =>
    inst.id = id && row.1.stepId = stepId
  | _ => false

/-- The walk that consumes an event is the one furthest ahead, and the instance is active and
not ahead of it. -/
def Foremost (P : SagaPool E) (i : Nat) (w : Walk J) : Prop :=
  (∀ cur ∈ P.store.instances.get? w.inst.id,
    cur.status.isActive = true ∧ cur.cursor ≤ w.cursor) ∧
  ∀ j < P.threads.length, j ≠ i → ∀ reached ∈ P.threads[j]?.bind fun p => position p.front,
    reached.1 = w.inst.id → reached.2 ≤ w.cursor

instance (P : SagaPool E) (i : Nat) (w : Walk J) : Decidable (Foremost P i w) :=
  inferInstanceAs (Decidable (_ ∧ _))

/-- Walks are kept, only the foremost one consumes, and a sweep finds the instances of expired
WAIT rows ended. -/
def settlesWaitsOnce (P : SagaPool E) (l : Label (sagaSystem E)) : Prop :=
  keepsWalks P l ∧
  match l with
  | .served i (.markConsumed w _) _ _ => Foremost P i w
  | .served _ (.findById (.onWaitTimeout row)) _ _ =>
    ∀ s ∈ P.store.statusOf row.1.instanceId, s.isTerminal = true
  | _ => True

instance (P : SagaPool E) (l : Label (sagaSystem E)) : Decidable (settlesWaitsOnce P l) := by
  apply Label.casesOn (motive := fun l => Decidable (settlesWaitsOnce P l)) l
  case served =>
    intro i q
    apply SagaRequest.casesOn
      (motive := fun q => ∀ (a : q.Answer) f, Decidable (settlesWaitsOnce P (.served i q a f))) q
    case findById =>
      intro c
      apply FindCall.casesOn (motive := fun c => ∀ (a : (SagaRequest.findById c).Answer) f,
        Decidable (settlesWaitsOnce P (.served i (.findById c) a f))) c
        <;> intros <;> dsimp only [settlesWaitsOnce] <;> infer_instance
    all_goals
      intros
      dsimp only [settlesWaitsOnce]
      infer_instance
  all_goals
    intros
    dsimp only [settlesWaitsOnce]
    infer_instance

/-- The call is no write of a timeout. -/
def NotTimingOut (_ : SagaDb J) : SagaFront J → Prop
  | .asks q => ∀ inst live row, q ≠ .markFailed (.onWaitTimeout inst live row)
  | _ => True

theorem notTimingOut_of_fresh {f : SagaFront J} (h : Fresh f) : NotTimingOut db f := by
  cases f with
  | asks q =>
    rintro inst live row rfl
    cases h
  | finished => trivial
  | failed => trivial

/-- `markFailed` for a timeout comes right after the instance was found not to have ended. -/
theorem follow_onWaitTimeout {q : SagaRequest J} {a : q.Answer} {inst : SagaInstanceRecord J}
    {live : inst.status.isTerminal = false} {row : WaitRow J}
    (h : follow E q a (.asks (.markFailed (.onWaitTimeout inst live row)))) :
    q = .findById (.onWaitTimeout row) ∧ q.answered a = some inst := by
  have hfunction : q.function = .onWaitTimeout := by
    rcases follow_function h rfl with hq | ⟨hq, _⟩
    · exact hq.symm
    · cases hq
  cases q with
  | findById c =>
    cases c with
    | onWaitTimeout row' =>
      rcases a with _ | ⟨found, hid⟩
      · cases h
      · dsimp only [follow] at h
        split at h
        · cases h
          exact ⟨rfl, rfl⟩
        · cases h
    | _ => cases hfunction
  | markFailed c =>
    cases c with
    | onWaitTimeout inst' live' row' =>
      dsimp only [follow] at h
      split at h
      · obtain ⟨_, ⟨_, h⟩ | ⟨_, h⟩⟩ := h <;> cases h
      · cases h
    | _ => cases hfunction
  | updateCas c =>
    cases c with
    | skipTimeout inst' live' row' => cases h
    | _ => cases hfunction
  | findByInstance c => cases c <;> cases hfunction
  | clock c => cases c <;> cases hfunction
  | createIfAbsent c => cases c <;> cases hfunction
  | _ => cases hfunction

theorem notTimingOut_outline :
    Outline (settlesWaitsOnce (E := E)) (follow E) (fun _ => True) NotTimingOut where
  start _ e _ := notTimingOut_of_fresh (program_fresh e)
  failed _ := trivial
  own P i q next a db' _ hok hserves _ _ := by
    refine ⟨trivial, fun f hf => ?_⟩
    cases f with
    | asks q' =>
      rintro inst live row rfl
      obtain ⟨rfl, hanswered⟩ := follow_onWaitTimeout hf
      have hended : ∀ s ∈ P.store.statusOf row.1.instanceId, s.isTerminal = true := hok.2
      have hget := get?_answered hserves hanswered
      rw [(serves_findById hserves).2] at hget
      have hid : inst.id = row.1.instanceId := by
        rcases a with _ | ⟨found, hid⟩
        · cases hanswered
        · rw [← Option.some.inj hanswered]
          exact hid
      rw [hid] at hget
      have hterminal := hended inst.status (SagaDb.statusOf_of_get? hget)
      rw [live] at hterminal
      cases hterminal
    | finished => trivial
    | failed => trivial
  other _ _ _ _ _ _ _ _ _ _ _ _ _ _ _ hat := hat

variable {P Q : SagaPool E} {trace : List (Label (sagaSystem E))} {l : Label (sagaSystem E)}

theorem no_timeout_of_run (hinit : Initial P) (h : Run settlesWaitsOnce P trace Q)
    (id stepId : String) : trace.countP (timesOut id stepId) = 0 := by
  induction h with
  | nil => rfl
  | @snoc trace Q R l hrun hok hstep ih =>
    have hfronts := (notTimingOut_outline.run program_linked hrun hinit.sound.linked
      ⟨trivial, fun p hp => by simp [hinit.threads] at hp⟩).2
    have hl : timesOut id stepId l = false := by
      cases hstep with
      | start store threads entry => rfl
      | raised here error => rfl
      | @served store store' threads i q next a here answered =>
        cases q with
        | markFailed c =>
          cases c with
          | onWaitTimeout inst live row =>
            exact (hfronts _ (List.mem_of_getElem? here) inst live row rfl).elim
          | _ => rfl
        | _ => rfl
    rw [List.countP_append, List.countP_singleton, hl, ih]
    rfl

/-- The foremost walk at a step is the first to consume an event for it. -/
theorem not_consumed_before (hsound : Sound P) (hQ : Run keepsWalks P trace Q) {i : Nat}
    {w : Walk J} {row : SagaInboxRecord J}
    {next : Unit → SagaProgram J Unit}
    (here : Q.threads[i]? = some (@Program.ask (sagaInterface J) Unit (.markConsumed w row) next))
    (hforemost : Foremost Q i w) : trace.countP (consumesFor w.inst.id w.cursor) = 0 := by
  rw [List.countP_eq_zero]
  intro l hl hconsumes
  cases l with
  | start entry => cases hconsumes
  | raised i q => cases hconsumes
  | served j q a front =>
    cases q with
    | markConsumed w' row' =>
      simp only [consumesFor, Bool.and_eq_true, decide_eq_true_eq] at hconsumes
      obtain ⟨cur, hcur, hpast⟩ := past_of_run hsound hQ hl
      rw [hconsumes.1] at hcur
      rw [hconsumes.1, hconsumes.2] at hpast
      obtain ⟨hactive, hle⟩ := hforemost.1 cur hcur
      rcases hpast hactive with hlt | ⟨p, hp, m, hm, hposition⟩
      · omega
      · obtain ⟨k, hk⟩ := List.mem_iff_getElem?.mp hp
        by_cases hki : k = i
        · subst hki
          rw [here] at hk
          rw [← Option.some.inj hk] at hposition
          have hcursor := congrArg Prod.snd (Option.some.inj hposition)
          have hcursor : w.cursor = m := hcursor
          omega
        · have hlt : k < Q.threads.length := (List.getElem?_eq_some_iff.mp hk).1
          have hle := hforemost.2 k hlt hki (w.inst.id, m) (by
            rw [hk]
            exact hposition) rfl
          have hle : m ≤ w.cursor := hle
          omega
    | _ => cases hconsumes

/-- At most one event is consumed for each WAIT step, and no timeout takes effect. -/
theorem wait_has_one_outcome (hinit : Initial P) (h : Run settlesWaitsOnce P trace Q)
    (id : String) (n : Nat) (stepId : String) :
    trace.countP (consumesFor id n) + trace.countP (timesOut id stepId) ≤ 1 := by
  rw [no_timeout_of_run hinit h, Nat.add_zero]
  induction h with
  | nil => exact Nat.zero_le 1
  | @snoc trace Q R l hrun hok hstep ih =>
    rw [List.countP_append, List.countP_singleton]
    by_cases hl : consumesFor id n l = true
    · cases hstep with
      | start store threads entry => cases hl
      | raised here error => cases hl
      | @served store store' threads i q next a here answered =>
        cases q with
        | markConsumed w row =>
          have hl' := hl
          simp only [consumesFor, Bool.and_eq_true, decide_eq_true_eq] at hl'
          obtain ⟨rfl, rfl⟩ := hl'
          have hzero := not_consumed_before hinit.sound (hrun.mono fun _ _ hok => hok.1) here hok.2
          rw [hzero, if_pos hl]
        | _ => cases hl
    · rw [if_neg hl]
      exact ih

/-- No WAIT row is ever RUNNING. -/
def WaitNeverRuns (P : SagaPool E) : Prop :=
  ∀ row ∈ P.store.steps.rows, row.kind = .wait → row.status ≠ .running

theorem waitNeverRuns_of_run {ok : SagaPool E → Label (sagaSystem E) → Prop} (hinit : Initial P)
    (h : Run ok P trace Q) : WaitNeverRuns Q := by
  have hstart : WaitNeverRuns P := by
    intro row hrow
    rw [hinit.steps] at hrow
    cases hrow
  refine h.invariant hstart fun Q l R hQ _ hstep => ?_
  cases hstep with
  | start store threads entry => exact hQ
  | raised here error => exact hQ
  | served here answered =>
    intro row hrow hkind
    have hget := Table.get?_of_mem hrow
    cases steps_after answered row.id with
    | unchanged same => exact hQ row (Table.mem_of_get? (same.symm.trans hget)) hkind
    | inserted c call key before after =>
      rw [hget] at after
      rw [Option.some.inj after]
      cases c <;> exact fun h => by cases h
    | changed old new before after change =>
      rw [hget] at after
      obtain rfl := Option.some.inj after
      cases change with
      | claimed input old claimable =>
        have hkind : old.kind = .wait := hkind
        simp [SagaStepRepository.claimable, hkind] at claimable
      | _ => exact fun h => by cases h

/-- `markFailed` asks for a RUNNING row: a timeout that takes effect leaves the row it was
taken for PENDING, for the next sweep to find. -/
theorem timeout_leaves_row_due {ok : SagaPool E → Label (sagaSystem E) → Prop} (hinit : Initial P)
    (h : Run ok P trace Q) {i : Nat} {inst : SagaInstanceRecord J}
    {live : inst.status.isTerminal = false} {row : WaitRow J} {a : Unit} {f : SagaFront J}
    {R : SagaPool E}
    (hstep : Step (sagaSystem E) Q
      (.served i (SagaRequest.markFailed (.onWaitTimeout inst live row)) a f) R)
    (now limit : Nat) :
    SagaStepRepository.expiredWaits R.store now limit =
      SagaStepRepository.expiredWaits Q.store now limit := by
  have hnever := waitNeverRuns_of_run hinit h
  cases hstep with
  | @served store store' threads _ _ next _ here answered =>
    have hdb : store' = SagaStepRepository.markFailed store row.1.id
        (FailCall.onWaitTimeout inst live row).error := by
      obtain ⟨_, h⟩ := answered
      cases h
      rfl
    have hrows : store'.steps.rows = store.steps.rows := by
      rw [hdb]
      have hsame : ∀ r ∈ store.steps.rows, SagaStepRepository.settleRow row.1.id
          (· = .running) { status := .failed, error := some (some (FailCall.timedOut row.1)) } r =
            r := by
        intro r hr
        refine if_neg fun ⟨hid, hrunning⟩ => hnever r hr ?_ (of_decide_eq_true hrunning)
        exact (congrArg SagaStepKey.kind hid).trans row.2
      exact (List.map_congr_left hsame).trans (List.map_id _)
    unfold SagaStepRepository.expiredWaits
    rw [hrows]

section Runs

open Scenario

/-- The event of `a` comes in time and the saga is parked on `b`; the sweep after that still
finds the row of `a`. -/
private def consumedThenTimedOut : List DemoMove :=
  deliver "Started" :: serveAll 0 (insertion ++ advancing 0 ++ parking) ++
  deliver "a" :: serveAll 1 (buffering ++ advancing 50000 ++ consuming ++ parking)

/-- An event was consumed for `a`, then its timeout compensates the saga, and the row of `a` is
due again. -/
theorem wait_settled_twice :
    ∃ (Q R : SagaPool demo) (trace trace' : List (Label (sagaSystem demo))),
      Run anyStep (emptyPool (definitionOf [waitStep "a" .compensate, waitStep "b" .skip] [])) trace Q ∧
        Run anyStep Q trace' R ∧
        (statusOf Q = some .waiting ∧ cursorOf Q = some 1 ∧
          Q.store.inbox.rows.map (fun row => (row.eventName, row.status)) = [("a", .consumed)]) ∧
        statusOf R = some .compensating ∧
        (SagaStepRepository.expiredWaits R.store 100000 200).map (·.stepId) = ["a"] := by
  have hplay : (((emptyPool (definitionOf [waitStep "a" .compensate, waitStep "b" .skip] [])).play
      anyStep consumedThenTimedOut).bind fun Q =>
      (Q.play anyStep (.start (.tick "w") :: serveAll 2 (sweeping 100000 ++ compensatingTimeout 100000))).map
        fun R => decide ((statusOf Q = some .waiting ∧ cursorOf Q = some 1 ∧
          Q.store.inbox.rows.map (fun row => (row.eventName, row.status)) = [("a", .consumed)]) ∧
        statusOf R = some .compensating ∧
        (SagaStepRepository.expiredWaits R.store 100000 200).map (·.stepId) = ["a"])) =
      some true := by
    decide
  exact Pool.play_reaches hplay

/-- A run with a consumed event and a sweep after the saga has ended. -/
theorem wait_has_one_outcome_wait : ∃ (Q : SagaPool demo) (trace : List (Label (sagaSystem demo))),
    statusOf Q = some .completed ∧
      trace.countP (consumesFor "i" 0) + trace.countP (timesOut "i" "a") ≤ 1 := by
  have hplay : (((emptyPool (definitionOf [waitStep "a" .compensate] [])).play settlesWaitsOnce
      (deliver "Started" :: serveAll 0 (insertion ++ advancing 0 ++ parking) ++
        deliver "a" :: serveAll 1
            (buffering ++ advancing 50000 ++ consuming ++ [SagaChoice.plain]) ++
        .start (.tick "w") :: serveAll 2 (sweeping 100000 ++ [SagaChoice.plain]))).map fun Q =>
      decide (statusOf Q = some .completed)) = some true := by
    decide
  obtain ⟨Q, trace, hrun, hstatus⟩ := Pool.play_reach hplay
  exact ⟨Q, trace, hstatus, wait_has_one_outcome (initial_emptyPool _) hrun "i" 0 "a"⟩

end Runs

end DddBoilerplate.Saga
