/- module: DddBoilerplate/Saga/Cursor
   generality: I
   digest: The cursor of an instance never moves back, as long as no step behind it is settled. -/

import DddBoilerplate.Saga.Scenario

set_option autoImplicit false
set_option relaxedAutoImplicit false
set_option linter.all false

open DddBoilerplate.Concurrency DddBoilerplate.Store

namespace DddBoilerplate.Saga

variable {J : Type} {E : Environment J} {db db' : SagaDb J}

/-- The plan index a write settles: `onDoSucceeded` and a skipped timeout put the cursor
right behind it, wherever the cursor is. -/
def CasCall.settledIndex : CasCall J → Option Nat
  | onDoSucceeded _ _ index => some index
  | skipTimeout inst _ row => inst.plan.indexOf row.1.stepId
  | _ => none

/-- A settling write that goes through is for a step at the stored cursor or after it. -/
def settlesInOrder (P : SagaPool E) (_ : Nat) : SagaRequest J → Prop
  | .updateCas c => Applies P.store c → ∀ index ∈ c.settledIndex,
      ∀ cur ∈ P.store.instances.get? c.inst.id, cur.cursor ≤ index + 1
  | _ => True

instance (P : SagaPool E) (i : Nat) (q : SagaRequest J) : Decidable (settlesInOrder P i q) := by
  unfold settlesInOrder
  split <;> infer_instance

/-- A write that is not for a step behind the cursor keeps the cursor or moves it on. -/
theorem CasCall.cursor_le {c : CasCall J}
    (h : ∀ index ∈ c.settledIndex, c.inst.cursor ≤ index + 1) :
    c.inst.cursor ≤ (c.patch.apply c.inst).cursor := by
  cases c with
  | park w wait buffered => exact w.ahead
  | handOver w do_ => exact w.ahead
  | complete inst active cursor ahead => exact ahead
  | onDoSucceeded inst live index => exact h index rfl
  | skipTimeout inst live row =>
    simp only [CasCall.patch, SagaInstancePatch.apply, Option.getD_some, CasCall.inst] at h ⊢
    cases hindex : inst.plan.indexOf row.1.stepId with
    | none => exact Nat.le_refl _
    | some index => exact h index hindex
  | _ => exact Nat.le_refl _

/-- The stored instance has come at least this far since it had this version. -/
def Reached (id : String) (version cursor : Nat) (db : SagaDb J) : Prop :=
  ∃ cur, db.instances.get? id = some cur ∧ version ≤ cur.version ∧ cursor ≤ cur.cursor

/-- A call that holds the instance at this version or a later one holds it as far. -/
def HeldReached (id : String) (version cursor : Nat) (_ : SagaDb J) : SagaFront J → Prop
  | .asks q => ∀ inst, SagaRequest.held q = some inst → inst.id = id → version ≤ inst.version →
      cursor ≤ inst.cursor
  | _ => True

theorem reached_after {id : String} {version cursor : Nat} {P : SagaPool E} {i : Nat}
    {q : SagaRequest J} {a : q.Answer} (hok : settlesInOrder P i q)
    (h : SagaServes E q P.store a db') (hheld : HeldKnown P.store (.asks q))
    (hreached : Reached id version cursor P.store) : Reached id version cursor db' := by
  obtain ⟨cur, hcur, hversion, hcursor⟩ := hreached
  cases instances_after h id with
  | unchanged same => exact ⟨cur, same.trans hcur, hversion, hcursor⟩
  | inserted input call before after => rw [hcur] at before; cases before
  | written c cur' call target before fenced after =>
    subst call
    subst target
    rw [hcur] at before
    obtain rfl := Option.some.inj before
    have horder := hok ⟨cur, hcur, fenced⟩
    obtain rfl := (hheld c.inst rfl).eq_of_version hcur fenced
    have hle := CasCall.cursor_le fun index hindex => horder index hindex _ hcur
    exact ⟨_, after, by rw [SagaInstancePatch.apply_version]; omega, by omega⟩

theorem heldReached_answered {id : String} {version cursor : Nat} {q : SagaRequest J}
    {a : q.Answer} (h : SagaServes E q db a db') (hreached : Reached id version cursor db')
    {inst : SagaInstanceRecord J} (hanswered : q.answered a = some inst) (hid : inst.id = id) :
    cursor ≤ inst.cursor := by
  obtain ⟨cur, hcur, _, hcursor⟩ := hreached
  have hget := get?_answered h hanswered
  rw [hid, hcur] at hget
  rwa [Option.some.inj hget] at hcursor

theorem reached_outline (id : String) (version cursor : Nat) :
    Outline (fun P l => atCall (settlesInOrder (E := E)) P l ∧ Sound P) (follow E)
      (Reached id version cursor) (HeldReached id version cursor) where
  start _ e _ := by
    cases hf : ((sagaSystem E).program e).front with
    | asks q =>
      intro inst hheld
      have hfresh : Fresh ((sagaSystem E).program e).front := program_fresh e
      rw [hf] at hfresh
      exact (not_held_of_fresh hfresh hheld).elim
    | finished => trivial
    | failed => trivial
  failed _ := trivial
  own P i q next a db' here hok hserves hreached hat := by
    have hcall : settlesInOrder P i q := hok.1
    have hreached' := reached_after hcall hserves (fun _ => hok.2.held here) hreached
    refine ⟨hreached', fun f hf => ?_⟩
    cases f with
    | asks q' =>
      intro inst hheld hid hversion
      rcases follow_held hf hheld with hq | ha
      · exact hat inst hq hid hversion
      · exact heldReached_answered hserves hreached' ha hid
    | finished => trivial
    | failed => trivial
  other P i q next a db' _ _ _ _ _ j p _ _ hp := by
    cases hf : p.front with
    | asks q' => rw [hf] at hp; exact hp
    | finished => trivial
    | failed => trivial

variable {P Q R : SagaPool E} {trace trace' : List (Label (sagaSystem E))}

/-- From any reached pool on, the cursor of an instance stays at least as far, and a walk of
`advance` whose instance was read at the version of that pool or later stays as far too. -/
theorem cursor_never_rewinds (hinit : Initial P) (hQ : Run (atCall settlesInOrder) P trace Q)
    (hR : Run (atCall settlesInOrder) Q trace' R) {id : String} {inst : SagaInstanceRecord J}
    (hinst : Q.store.instances.get? id = some inst) :
    (∃ inst', R.store.instances.get? id = some inst' ∧ inst.cursor ≤ inst'.cursor) ∧
      ∀ p ∈ R.threads, ∀ q w, p.front = .asks q → SagaRequest.walk q = some w →
        w.inst.id = id → inst.version ≤ w.inst.version → inst.cursor ≤ w.cursor := by
  have hsound := sound_of_run hQ hinit.sound
  have hstart : Outline.Holds (Reached id inst.version inst.cursor)
      (HeldReached id inst.version inst.cursor) Q := by
    refine ⟨⟨inst, hinst, Nat.le_refl _, Nat.le_refl _⟩, fun p hp => ?_⟩
    cases hf : p.front with
    | asks q =>
      intro held hheld hid hversion
      have hknown : Known Q.store held := by
        have h := hsound.known p hp
        rw [hf] at h
        exact h held hheld
      obtain ⟨cur, hcur, _, hle, hsame, _⟩ := hknown.known
      rw [hid, hinst] at hcur
      obtain rfl := Option.some.inj hcur
      rw [hsame (by omega)]
    | finished => trivial
    | failed => trivial
  have hend := (reached_outline id inst.version inst.cursor).run program_linked
    (hR.strengthen fun h => sound_of_run h hsound) hsound.linked hstart
  obtain ⟨⟨inst', hinst', _, hcursor⟩, hfronts⟩ := hend
  refine ⟨⟨inst', hinst', hcursor⟩, fun p hp q w hf hw hid hversion => ?_⟩
  have hat := hfronts p hp
  rw [hf] at hat
  exact (hat w.inst (held_of_walk_eq hw) hid hversion).trans w.ahead

section Runs

open Scenario

/-- Three waits, each skipped when it times out. -/
private def threeWaits : SagaDefinitionRecord :=
  definitionOf [waitStep "a" .skip, waitStep "b" .skip, waitStep "c" .skip] []

/-- Parked on `a`; `a` times out, and the saga is parked on `b`. -/
private def firstTimeout : List DemoMove :=
  deliver "Started" :: serveAll 0 (insertion ++ advancing 0 ++ parking) ++
  .start (.tick "w") :: serveAll 1 (sweeping 100000 ++ skipping ++ advancing 100000 ++ parking)

/-- `b` arrives in time, and the saga is parked on `c`. -/
private def secondEvent : List DemoMove :=
  deliver "b" :: serveAll 2 (buffering ++ advancing 110000 ++ consuming ++ parking)

/-- The WAIT row of `a` is still PENDING when the next sweep comes: its timeout takes effect
again and puts the cursor back behind `a`. -/
theorem cursor_rewound : ∃ (Q R : SagaPool demo) (trace trace' : List (Label (sagaSystem demo)))
    (inst inst' : SagaInstanceRecord String),
    Run anyStep (emptyPool threeWaits) trace Q ∧ Run anyStep Q trace' R ∧
      Q.store.instances.get? "i" = some inst ∧ R.store.instances.get? "i" = some inst' ∧
      inst.cursor = 2 ∧ inst'.cursor = 1 := by
  have hplay : (((emptyPool threeWaits).play anyStep (firstTimeout ++ secondEvent)).bind fun Q =>
      (Q.play anyStep (.start (.tick "w") :: serveAll 3 (sweeping 120000 ++ skipping))).map
        fun R => decide (cursorOf Q = some 2 ∧ cursorOf R = some 1)) = some true := by
    decide
  obtain ⟨Q, R, trace, trace', hQ, hR, hcheck⟩ := Pool.play_reaches hplay
  obtain ⟨inst, hinst, hcursor⟩ := Option.map_eq_some_iff.mp hcheck.1
  obtain ⟨inst', hinst', hcursor'⟩ := Option.map_eq_some_iff.mp hcheck.2
  exact ⟨Q, R, trace, trace', inst, inst', hQ, hR, hinst, hinst', hcursor, hcursor'⟩

/-- A run that settles in order: one timeout, then one event. -/
theorem cursor_never_rewinds_waits : ∃ (R : SagaPool demo) (inst : SagaInstanceRecord String),
    R.store.instances.get? "i" = some inst ∧ 1 ≤ inst.cursor := by
  have hplay : (((emptyPool threeWaits).play (atCall settlesInOrder) firstTimeout).bind fun Q =>
      (Q.play (atCall settlesInOrder) secondEvent).map
        fun _ => decide (cursorOf Q = some 1)) = some true := by
    decide
  obtain ⟨Q, R, trace, trace', hQ, hR, hcheck⟩ := Pool.play_reaches hplay
  obtain ⟨inst, hinst, hcursor⟩ := Option.map_eq_some_iff.mp hcheck
  obtain ⟨inst', hinst', hle⟩ :=
    (cursor_never_rewinds (initial_emptyPool threeWaits) hQ hR hinst).1
  exact ⟨R, inst', hinst', hcursor ▸ hle⟩

end Runs

end DddBoilerplate.Saga
