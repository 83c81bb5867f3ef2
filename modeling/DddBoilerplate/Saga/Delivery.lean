/- module: DddBoilerplate/Saga/Delivery
   generality: I
   digest: A parked instance has looked at every buffered event it waits for, or a call of `advance` is about to. -/

import DddBoilerplate.Saga.Walks

set_option autoImplicit false
set_option relaxedAutoImplicit false
set_option linter.all false

open DddBoilerplate.Concurrency DddBoilerplate.Store

namespace DddBoilerplate.Saga

variable {J : Type} {E : Environment J} {db db' : SagaDb J}

/-- A scope of the instance: what is frozen on it, with some log of steps. -/
def OwnScope (E : Environment J) (inst : SagaInstanceRecord J) (scope : Scope J) : Prop :=
  ∃ log, scope = { buildScope E inst [] with steps := log }

theorem ownScope_buildScope (inst : SagaInstanceRecord J) (rows : List (SagaStepRecord J)) :
    OwnScope E inst (buildScope E inst rows) :=
  ⟨(buildScope E inst rows).steps, rfl⟩

theorem OwnScope.log {inst : SagaInstanceRecord J} {scope : Scope J} (h : OwnScope E inst scope)
    (log : Option (Fields (StepEntry J))) : OwnScope E inst { scope with steps := log } := by
  obtain ⟨_, rfl⟩ := h
  exact ⟨log, rfl⟩

/-- The buffered events a walk has passed over, when it is about to park. -/
def SagaRequest.passedOver : SagaRequest J → Option (Walk J × List (SagaInboxRecord J))
  | createIfAbsent (.park w _ buffered _) | updateCas (.park w _ buffered) => some (w, buffered)
  | _ => none

/-- What a walk knows: it evaluates in a scope of its instance, asks for the events of its
step, and has rejected each of those it passed over. -/
def Weighed (E : Environment J) : SagaFront J → Prop
  | .asks (.clock (.advance inst _ scope)) => OwnScope E inst scope
  | .asks (.listBuffered w _ ref) => OwnScope E w.inst w.scope ∧ w.step.waitFor = some ref
  | .asks q => ∀ w ∈ q.walk, OwnScope E w.inst w.scope ∧
      ∀ buffered, q.passedOver = some (w, buffered) → w.step.waitFor ≠ none →
        firstAccepted E w.inst w.step w.scope buffered = .ok none
  | _ => True

theorem weighed_of_fresh {f : SagaFront J} (h : Fresh f) : Weighed E f := by
  cases f with
  | asks q =>
    cases q with
    | clock c =>
      cases c with
      | other => exact fun _ hw => by cases hw
      | _ => cases h
    | findById | tryInsertLive | findLiveByKey | findWaitingByEvent | claimBatch | releaseOverflow
    | reschedule | findExpiredWaits | findStaleRunning | tryInsert | purgeOlderThan
    | findActiveByEvent | listActive | findActive | features | settings =>
      exact fun _ hw => by cases hw
    | _ => cases h
  | finished => trivial
  | failed => trivial

theorem weighed_of_no_walk {q : SagaRequest J} (hwalk : q.walk = none)
    (hclock : ∀ inst active scope, q ≠ .clock (.advance inst active scope)) :
    Weighed E (.asks q) := by
  unfold Weighed
  split
  · rename_i inst active scope heq
    exact (hclock inst active scope (Front.asks.inj heq)).elim
  · rename_i heq
    obtain rfl := Front.asks.inj heq
    cases hwalk
  · rename_i heq
    obtain rfl := Front.asks.inj heq
    intro w hw
    rw [hwalk] at hw
    cases hw
  · rename_i hno
    exact trivial

theorem weighed_of_walkFront {inst : SagaInstanceRecord J} {n : Nat} {scope : Scope J}
    {f : SagaFront J} (hscope : OwnScope E inst scope) (h : WalkFront E inst n scope f) :
    Weighed E f := by
  rcases h with rfl | ⟨_, _, _, rfl⟩ | ⟨w, rfl, _, rfl, hstep⟩
  · trivial
  · exact fun _ hw => by cases hw
  · rcases hstep with ⟨_, rfl⟩ | ⟨_, ⟨_, _, href, rfl⟩ | ⟨_, _, hnone, rfl⟩ | ⟨_, _, rfl⟩⟩
    · rintro _ ⟨⟩
      exact ⟨hscope, fun _ h => by cases h⟩
    · exact ⟨hscope, href⟩
    · rintro _ ⟨⟩
      exact ⟨hscope, fun _ _ hsome => (hsome hnone).elim⟩
    · rintro _ ⟨⟩
      exact ⟨hscope, fun _ h => by cases h⟩

/-- The calls of `advance`. -/
inductive AdvanceCall : SagaRequest J → Prop where
  | findById (id : String) : AdvanceCall (.findById (.advance id))
  | findByInstance (inst : SagaInstanceRecord J) (active : inst.status.isActive = true) :
      AdvanceCall (.findByInstance (.advance inst active))
  | clock (inst : SagaInstanceRecord J) (active : inst.status.isActive = true) (scope : Scope J) :
      AdvanceCall (.clock (.advance inst active scope))
  | recordBypass (w : Walk J) : AdvanceCall (.createIfAbsent (.recordBypass w))
  | consumeWait (w : Walk J) (row : SagaInboxRecord J) (output : Fields J) :
      AdvanceCall (.createIfAbsent (.consumeWait w row output))
  | waitRow (w : Walk J) (wait : w.step.kind = .wait) (buffered : List (SagaInboxRecord J))
      (timeoutMs : Nat) : AdvanceCall (.createIfAbsent (.park w wait buffered timeoutMs))
  | doRow (w : Walk J) (do_ : w.step.kind = .do_) (input : Option (Fields J)) :
      AdvanceCall (.createIfAbsent (.handOver w do_ input))
  | listBuffered (w : Walk J) (wait : w.step.kind = .wait) (ref : SagaEventRef) :
      AdvanceCall (.listBuffered w wait ref)
  | markConsumed (w : Walk J) (row : SagaInboxRecord J) : AdvanceCall (.markConsumed w row)
  | park (w : Walk J) (wait : w.step.kind = .wait) (buffered : List (SagaInboxRecord J)) :
      AdvanceCall (.updateCas (.park w wait buffered))
  | handOver (w : Walk J) (do_ : w.step.kind = .do_) : AdvanceCall (.updateCas (.handOver w do_))
  | complete (inst : SagaInstanceRecord J) (active : inst.status.isActive = true) (cursor : Nat)
      (ahead : inst.cursor ≤ cursor) :
      AdvanceCall (.updateCas (.complete inst active cursor ahead))
  | append (inst : SagaInstanceRecord J) (event : SagaEmittedEvent) :
      AdvanceCall (.append inst event)

theorem advanceCall_of_function {q : SagaRequest J} (h : q.function = .advance) :
    AdvanceCall q := by
  cases q with
  | findById c =>
    cases c with
    | advance id => exact .findById id
    | _ => cases h
  | findByInstance c =>
    cases c with
    | advance inst active => exact .findByInstance inst active
    | _ => cases h
  | clock c =>
    cases c with
    | advance inst active scope => exact .clock inst active scope
    | _ => cases h
  | createIfAbsent c =>
    cases c with
    | recordBypass w => exact .recordBypass w
    | consumeWait w row output => exact .consumeWait w row output
    | park w wait buffered timeoutMs => exact .waitRow w wait buffered timeoutMs
    | handOver w do_ input => exact .doRow w do_ input
    | undo => cases h
  | updateCas c =>
    cases c with
    | park w wait buffered => exact .park w wait buffered
    | handOver w do_ => exact .handOver w do_
    | complete inst active cursor ahead => exact .complete inst active cursor ahead
    | _ => cases h
  | listBuffered w wait ref => exact .listBuffered w wait ref
  | markConsumed w row => exact .markConsumed w row
  | append inst event => exact .append inst event
  | markFailed c => cases c <;> cases h
  | _ => cases h

theorem function_of_walk_eq {q : SagaRequest J} {w : Walk J} (h : q.walk = some w) :
    q.function = .advance ∧ q.isFresh = false := by
  cases q with
  | createIfAbsent c => cases c <;> first | exact ⟨rfl, rfl⟩ | cases h
  | updateCas c => cases c <;> first | exact ⟨rfl, rfl⟩ | cases h
  | listBuffered w' wait ref => exact ⟨rfl, rfl⟩
  | markConsumed w' row => exact ⟨rfl, rfl⟩
  | _ => cases h

/-- A call of `advance` that relies on an earlier one comes after a call of `advance`. -/
theorem advanceCall_of_follow {q q' : SagaRequest J} {a : q.Answer} (h : follow E q a (.asks q'))
    (hfunction : q'.function = .advance) (hfresh : q'.isFresh = false) : AdvanceCall q := by
  refine advanceCall_of_function ?_
  rcases follow_function h hfresh with hq | ⟨hq, _⟩
  · rw [← hq, hfunction]
  · rw [hfunction] at hq
    cases hq

theorem weighed_follow {q : SagaRequest J} {a : q.Answer} {f : SagaFront J} (h : follow E q a f)
    (hq : Weighed E (.asks q)) : Weighed E f := by
  cases f with
  | finished => trivial
  | failed => trivial
  | asks q' =>
    by_cases hadvance : q'.function = .advance ∧ q'.isFresh = false
    · cases advanceCall_of_follow h hadvance.1 hadvance.2 with
      | findById id =>
        rcases a with _ | ⟨inst, _⟩
        · exact weighed_of_fresh h
        · dsimp only [follow] at h
          split at h
          · cases h
            exact fun _ hw => by cases hw
          · exact weighed_of_fresh h
      | findByInstance inst active =>
        cases h
        exact ownScope_buildScope inst a
      | clock inst active scope => exact weighed_of_walkFront hq h
      | recordBypass w => exact weighed_of_walkFront (hq w rfl).1 h
      | consumeWait w row output =>
        cases h
        rintro _ ⟨⟩
        exact ⟨(hq w rfl).1, fun _ hpassed => by cases hpassed⟩
      | waitRow w wait buffered timeoutMs =>
        cases h
        exact hq
      | doRow w do_ input =>
        dsimp only [follow] at h
        split at h
        · obtain ⟨log, h⟩ := h
          exact weighed_of_walkFront ((hq w rfl).1.log log) h
        · cases h
          rintro _ ⟨⟩
          exact ⟨(hq w rfl).1, fun _ hpassed => by cases hpassed⟩
      | listBuffered w wait ref =>
        rcases h with h | ⟨_, _, _, h⟩ | ⟨hnone, _, h⟩
        · cases h
        · cases h
          rintro _ ⟨⟩
          exact ⟨hq.1, fun _ hpassed => by cases hpassed⟩
        · cases h
          rintro _ ⟨⟩
          refine ⟨hq.1, fun buffered hpassed _ => ?_⟩
          obtain ⟨_, rfl⟩ := Prod.mk.inj (Option.some.inj hpassed)
          exact hnone
      | markConsumed w row =>
        obtain ⟨log, h⟩ := h
        exact weighed_of_walkFront ((hq w rfl).1.log log) h
      | park w wait buffered => exact weighed_of_fresh h
      | handOver w do_ => exact weighed_of_fresh h
      | complete inst active cursor ahead =>
        rcases h with h | ⟨_, h⟩
        · exact weighed_of_fresh h
        · cases h
          exact fun _ hw => by cases hw
      | append inst event => exact weighed_of_fresh h
    · refine weighed_of_no_walk (Option.eq_none_iff_forall_not_mem.mpr fun w hw => ?_) ?_
      · exact hadvance (function_of_walk_eq hw)
      · rintro inst active scope rfl
        exact hadvance ⟨rfl, rfl⟩

theorem weighed_outline (ok : SagaPool E → Label (sagaSystem E) → Prop) :
    Outline ok (follow E) (fun _ => True) (fun _ f => Weighed E f) where
  start _ e _ := weighed_of_fresh (program_fresh e)
  failed _ := trivial
  own _ _ _ _ _ _ _ _ _ _ hat := ⟨trivial, fun _ hf => weighed_follow hf hat⟩
  other _ _ _ _ _ _ _ _ _ _ _ _ _ _ _ hp := hp

/-- An inbox row lies with the instance of its consumer. -/
def Addressed (db : SagaDb J) : Prop :=
  ∀ row ∈ db.inbox.rows, row.instanceId = row.consumer.instanceId

/-- A row is BUFFERED because it was, or because `markBuffered` has just made it so. -/
theorem buffered_before {q : SagaRequest J} {a : q.Answer} (h : SagaServes E q db a db')
    (haddressed : Addressed db) {row : SagaInboxRecord J} (hrow : row ∈ db'.inbox.rows)
    (hbuffered : row.status = .buffered) :
    row ∈ db.inbox.rows ∨ ∃ c, q = .markBuffered c ∧ c.inst.id = row.instanceId := by
  have hget := Table.get?_of_mem hrow
  cases inbox_after h row.id with
  | unchanged same => exact .inl (Table.mem_of_get? (same.symm.trans hget))
  | inserted c now call key before after =>
    rw [hget] at after
    rw [Option.some.inj after] at hbuffered
    cases hbuffered
  | buffered c row' call key before after =>
    refine .inr ⟨c, call, ?_⟩
    rw [hget] at after
    have hrow' := haddressed row' (Table.mem_of_get? before)
    have hkey : row'.id = row.id := Table.key_of_get? before
    have hconsumer := congrArg (fun k => k.consumer.instanceId) (key.trans hkey.symm)
    rw [Option.some.inj after]
    exact hconsumer.trans hrow'.symm
  | consumed w event row' call key before after =>
    rw [hget] at after
    rw [Option.some.inj after] at hbuffered
    cases hbuffered
  | purged cutoff call after => rw [hget] at after; cases after

theorem addressed_after {q : SagaRequest J} {a : q.Answer} (h : SagaServes E q db a db')
    (haddressed : Addressed db) : Addressed db' := by
  intro row hrow
  have hget := Table.get?_of_mem hrow
  cases inbox_after h row.id with
  | unchanged same => exact haddressed row (Table.mem_of_get? (same.symm.trans hget))
  | inserted c now call key before after =>
    rw [hget] at after
    rw [Option.some.inj after]
    rfl
  | buffered c row' call key before after =>
    rw [hget] at after
    rw [Option.some.inj after]
    exact haddressed row' (Table.mem_of_get? before)
  | consumed w event row' call key before after =>
    rw [hget] at after
    rw [Option.some.inj after]
    exact haddressed row' (Table.mem_of_get? before)
  | purged cutoff call after => rw [hget] at after; cases after

/-- A call of `advance` that will not park the instance at position `n` without having
rejected the event. -/
def Watches (row : SagaInboxRecord J) (id : String) (n : Nat) : SagaFront J → Prop
  | .asks q => q.advances = some id ∧
      ∀ w buffered, q.passedOver = some (w, buffered) → w.cursor = n → row ∈ buffered
  | _ => False

theorem watches_findById (row : SagaInboxRecord J) (id : String) (n : Nat) :
    Watches row id n (.asks (.findById (.advance id))) :=
  ⟨rfl, fun _ _ h => by cases h⟩

theorem watches_of_walkFront {row : SagaInboxRecord J} {inst : SagaInstanceRecord J} {m n : Nat}
    {scope : Scope J} {f : SagaFront J} {step : SagaPlanStep} (h : WalkFront E inst m scope f)
    (hfailed : f ≠ .failed) (hstep : inst.plan.steps[n]? = some step) (hwaits : step.waitFor ≠ none) :
    Watches row inst.id n f := by
  rcases h with h | ⟨_, _, _, rfl⟩ | ⟨w, rfl, _, _, hfront⟩
  · exact (hfailed h).elim
  · exact ⟨rfl, fun _ _ h => by cases h⟩
  · rcases hfront with ⟨_, rfl⟩ | ⟨_, ⟨_, _, _, rfl⟩ | ⟨_, _, hnone, rfl⟩ | ⟨_, _, rfl⟩⟩
    · exact ⟨rfl, fun _ _ h => by cases h⟩
    · exact ⟨rfl, fun _ _ h => by cases h⟩
    · refine ⟨rfl, fun _ _ hpassed hn => ?_⟩
      obtain ⟨rfl, _⟩ := Prod.mk.inj (Option.some.inj hpassed)
      have here := w.here
      rw [hn, hstep] at here
      rw [Option.some.inj here] at hwaits
      exact (hwaits hnone).elim
    · exact ⟨rfl, fun _ _ h => by cases h⟩

/-- BUFFERED, for this instance and this event. -/
structure IsBuffered (db : SagaDb J) (id : String) (ref : SagaEventRef)
    (row : SagaInboxRecord J) : Prop where
  mem : row ∈ db.inbox.rows
  instance_ : row.instanceId = id
  name : row.eventName = ref.name
  version : row.eventVersion = ref.version
  status : row.status = .buffered

/-- A list of no more than fifty buffered events is all of them. -/
theorem mem_listBuffered {id : String} {ref : SagaEventRef} {row : SagaInboxRecord J}
    (h : IsBuffered db id ref row)
    (hfits : (SagaInboxRepository.listBuffered db id ref 51).length ≤ 50) :
    row ∈ SagaInboxRepository.listBuffered db id ref 50 := by
  unfold SagaInboxRepository.listBuffered at hfits ⊢
  rw [List.length_take] at hfits
  rw [List.take_of_length_le (by omega), List.mem_filter, decide_eq_true_eq]
  exact ⟨h.mem, h.instance_, h.name, h.version, h.status⟩

/-- No more than fifty events are buffered for a step when its walk lists them. -/
def listsAll (P : SagaPool E) : Label (sagaSystem E) → Prop
  | .served _ (.listBuffered w _ ref) _ _ =>
    (SagaInboxRepository.listBuffered P.store w.inst.id ref 51).length ≤ 50
  | _ => True

instance (P : SagaPool E) (l : Label (sagaSystem E)) : Decidable (listsAll P l) := by
  apply Label.casesOn (motive := fun l => Decidable (listsAll P l)) l
  case served =>
    intro i q
    apply SagaRequest.casesOn
      (motive := fun q => ∀ (a : q.Answer) f, Decidable (listsAll P (.served i q a f))) q
      <;> intros <;> dsimp only [listsAll] <;> infer_instance
  all_goals
    intros
    dsimp only [listsAll]
    infer_instance

/-- Walks are kept, and each lists all there is. -/
def keepsEvents (P : SagaPool E) (l : Label (sagaSystem E)) : Prop := keepsWalks P l ∧ listsAll P l

instance (P : SagaPool E) (l : Label (sagaSystem E)) : Decidable (keepsEvents P l) :=
  inferInstanceAs (Decidable (_ ∧ _))

variable {P Q : SagaPool E} {trace : List (Label (sagaSystem E))} {l : Label (sagaSystem E)}

/-- What a watching call goes on with watches too, up to the last write. -/
theorem watches_served {i : Nat} {q : SagaRequest J} {a : q.Answer} {f : SagaFront J}
    {cur : SagaInstanceRecord J} {row : SagaInboxRecord J} {step : SagaPlanStep}
    {ref : SagaEventRef} {n : Nat} (hok : keepsEvents P (.served i q a f))
    (h : SagaServes E q P.store a db') (hf : follow E q a f) (hq : Weighed E (.asks q))
    (hheld : HeldKnown P.store (.asks q)) (hcas : ∀ c, q ≠ .updateCas c)
    (hcur : P.store.instances.get? cur.id = some cur) (hactive : cur.status.isActive = true)
    (hstep : cur.plan.steps[n]? = some step) (href : step.waitFor = some ref)
    (hrow : IsBuffered P.store cur.id ref row) (hwatches : Watches row cur.id n (.asks q)) :
    Watches row cur.id n f := by
  have hwaits : step.waitFor ≠ none := by
    rw [href]
    exact Option.some_ne_none ref
  have hfailed : f ≠ .failed := not_failed hok.1 hcas hwatches.1
    (by rw [SagaDb.isActive_of_get? hcur, hactive])
  -- the plan of the stored instance is the plan the call holds
  have on_walk {inst : SagaInstanceRecord J} {m : Nat} {scope : Scope J}
      (hinst : SagaRequest.held q = some inst) (hid : inst.id = cur.id)
      (hwalk : WalkFront E inst m scope f) : Watches row cur.id n f := by
    have hplan := (hheld inst hinst).plan_eq (by rw [hid]; exact hcur)
    rw [hplan] at hstep
    rw [← hid]
    exact watches_of_walkFront hwalk hfailed hstep hwaits
  obtain ⟨hid, hpassed⟩ := hwatches
  cases advanceCall_of_function (function_of_advances hid) with
  | findById id =>
    obtain rfl := Option.some.inj hid
    obtain ⟨hlookup, _⟩ := serves_findById h
    cases a with
    | none => cases hcur.symm.trans (Table.lookup_eq_none.mp hlookup)
    | some found =>
      have hfound := hcur.symm.trans (Table.lookup_eq_some.mp hlookup)
      obtain ⟨inst, hinst⟩ := found
      obtain rfl : cur = inst := Option.some.inj hfound
      dsimp only [follow] at hf
      rw [dif_pos hactive] at hf
      rw [hf]
      exact ⟨rfl, fun _ _ h => by cases h⟩
  | findByInstance inst active =>
    rw [hf]
    exact ⟨hid, fun _ _ h => by cases h⟩
  | clock inst active scope => exact on_walk rfl (Option.some.inj hid) hf
  | recordBypass w => exact on_walk rfl (Option.some.inj hid) hf
  | consumeWait w event output =>
    rw [hf]
    exact ⟨hid, fun _ _ h => by cases h⟩
  | waitRow w wait buffered timeoutMs =>
    rw [hf]
    exact ⟨hid, hpassed⟩
  | doRow w do_ input =>
    dsimp only [follow] at hf
    split at hf
    · obtain ⟨log, hf⟩ := hf
      exact on_walk rfl (Option.some.inj hid) hf
    · rw [hf]
      exact ⟨hid, fun _ _ h => by cases h⟩
  | listBuffered w wait ref' =>
    have hinst : w.inst.id = cur.id := Option.some.inj hid
    rcases hf with hf | ⟨_, _, _, rfl⟩ | ⟨_, _, rfl⟩
    · exact (hfailed hf).elim
    · exact ⟨hid, fun _ _ h => by cases h⟩
    · refine ⟨hid, fun _ _ hpassed hn => ?_⟩
      obtain ⟨rfl, rfl⟩ := Prod.mk.inj (Option.some.inj hpassed)
      have hplan := (hheld w.inst rfl).plan_eq (by rw [hinst]; exact hcur)
      have here := w.here
      rw [hn, ← hplan, hstep] at here
      obtain rfl := Option.some.inj here
      obtain rfl := Option.some.inj (href.symm.trans hq.2)
      rw [(serves_listBuffered h).1, hinst]
      have hfits := hok.2
      simp only [listsAll, hinst] at hfits
      exact mem_listBuffered hrow hfits
  | markConsumed w event =>
    obtain ⟨log, hf⟩ := hf
    exact on_walk rfl (Option.some.inj hid) hf
  | park w wait buffered => exact (hcas _ rfl).elim
  | handOver w do_ => exact (hcas _ rfl).elim
  | complete inst active cursor ahead => exact (hcas _ rfl).elim
  | append inst event => cases hid

/-- The event does not pass the step, in some scope of the instance. -/
def Rejected (E : Environment J) (inst : SagaInstanceRecord J) (step : SagaPlanStep)
    (row : SagaInboxRecord J) : Prop :=
  ∃ scope, OwnScope E inst scope ∧ accepts E inst step scope row = .ok false

theorem rejected_of_passedOver {w : Walk J} {buffered : List (SagaInboxRecord J)}
    {row : SagaInboxRecord J} {q : SagaRequest J} (h : Weighed E (.asks q))
    (hq : q.passedOver = some (w, buffered)) (hwaits : w.step.waitFor ≠ none)
    (hrow : row ∈ buffered) : Rejected E w.inst w.step row := by
  have hweighed : OwnScope E w.inst w.scope ∧
      firstAccepted E w.inst w.step w.scope buffered = .ok none := by
    cases q with
    | createIfAbsent c =>
      cases c with
      | park w' wait buffered' timeoutMs =>
        obtain ⟨rfl, rfl⟩ := Prod.mk.inj (Option.some.inj hq)
        exact ⟨(h w' rfl).1, (h w' rfl).2 _ rfl hwaits⟩
      | _ => cases hq
    | updateCas c =>
      cases c with
      | park w' wait buffered' =>
        obtain ⟨rfl, rfl⟩ := Prod.mk.inj (Option.some.inj hq)
        exact ⟨(h w' rfl).1, (h w' rfl).2 _ rfl hwaits⟩
      | _ => cases hq
    | _ => cases hq
  exact ⟨w.scope, hweighed.1, rejects_of_firstAccepted_none hweighed.2 row hrow⟩

/-- What is frozen on an instance is all a verdict takes from it. -/
theorem Rejected.of_frozen {inst inst' : SagaInstanceRecord J} {step : SagaPlanStep}
    {row : SagaInboxRecord J} (h : Rejected E inst step row) (hfrozen : inst'.frozen = inst.frozen) :
    Rejected E inst' step row := by
  obtain ⟨_, ⟨log, rfl⟩, hreject⟩ := h
  simp only [SagaInstanceRecord.frozen, Prod.mk.injEq] at hfrozen
  obtain ⟨_, _, _, hkey, _, hcontext⟩ := hfrozen
  refine ⟨_, ⟨log, rfl⟩, ?_⟩
  unfold accepts buildScope at hreject ⊢
  rwa [hkey, hcontext]

/-- A call about to park an instance has seen every buffered event, or another call that
started from the same instance is to see the rest. -/
def Attended (P : SagaPool E) : Prop :=
  ∀ p ∈ P.threads, ∀ q, p.front = .asks q → ∀ w buffered, q.passedOver = some (w, buffered) →
    P.store.instances.get? w.inst.id = some w.inst → ∀ ref, w.step.waitFor = some ref →
    ∀ row, IsBuffered P.store w.inst.id ref row →
      row ∈ buffered ∨ ∃ p' ∈ P.threads, Watches row w.inst.id w.cursor p'.front ∧
        ∀ q' inst, p'.front = .asks q' → q'.held = some inst → inst = w.inst

/-- A parked instance has rejected every buffered event it waits for, or a call of `advance`
is to see it. -/
def Heeded (P : SagaPool E) : Prop :=
  ∀ cur step ref row, P.store.instances.get? cur.id = some cur → cur.status = .waiting →
    cur.plan.steps[cur.cursor]? = some step → step.waitFor = some ref →
    IsBuffered P.store cur.id ref row →
      Rejected E cur step row ∨ ∃ p ∈ P.threads, Watches row cur.id cur.cursor p.front

/-- Everything that is known along a run. -/
structure Informed (P : SagaPool E) : Prop where
  sound : Sound P
  weighed : ∀ p ∈ P.threads, Weighed E p.front
  addressed : Addressed P.store

theorem informed_of_run {ok : SagaPool E → Label (sagaSystem E) → Prop} (h : Run ok P trace Q)
    (hP : Initial P) : Informed Q := by
  refine ⟨sound_of_run h hP.sound, ((weighed_outline ok).run program_linked h hP.sound.linked
    ⟨trivial, fun p hp => by simp [hP.threads] at hp⟩).2, ?_⟩
  induction h with
  | nil =>
    intro row hrow
    rw [hP.inbox] at hrow
    cases hrow
  | snoc _ _ hs ih =>
    cases hs with
    | start store threads entry => exact ih
    | served here answered => exact addressed_after answered ih
    | raised here error => exact ih

section Steps

variable {store store' : SagaDb J} {threads : List (SagaProgram J Unit)} {i : Nat}
  {q : SagaRequest J} {next : q.Answer → SagaProgram J Unit} {a : q.Answer}

/-- An event that has just become BUFFERED is about to be looked at. -/
theorem watched_of_markBuffered {c : BufferCall J} {a : Unit} {f : SagaFront J}
    {row : SagaInboxRecord J} {id : String} {n : Nat} (hf : follow E (.markBuffered c) a f)
    (hid : c.inst.id = id) : Watches row id n f := by
  rw [hf, hid]
  exact watches_findById row id n

theorem IsBuffered.before {db db' : SagaDb J} (haddressed : Addressed db)
    (h : SagaServes E q db a db') {id : String} {ref : SagaEventRef} {row : SagaInboxRecord J}
    (hrow : IsBuffered db' id ref row) :
    IsBuffered db id ref row ∨ ∃ c, q = .markBuffered c ∧ c.inst.id = id := by
  rcases buffered_before h haddressed hrow.mem hrow.status with hmem | ⟨c, hq, hid⟩
  · exact .inl ⟨hmem, hrow.instance_, hrow.name, hrow.version, hrow.status⟩
  · exact .inr ⟨c, hq, hid.trans hrow.instance_⟩

/-- A parked instance that a write leaves WAITING was parked by that write, or is about to be
advanced again. -/
theorem waiting_after {c : CasCall J} {b : Option (SagaInstanceRecord J)} {f : SagaFront J}
    (hf : follow E (.updateCas c) b f) (hwaiting : (c.patch.apply c.inst).status = .waiting) :
    (∃ w wait buffered, c = .park w wait buffered) ∨ f = .asks (.findById (.advance c.inst.id)) := by
  cases c with
  | park w wait buffered => exact .inl ⟨w, wait, buffered, rfl⟩
  | onDoSucceeded inst live index => exact .inr hf
  | _ => cases hwaiting

theorem heeded_updateCas {c : CasCall J} {next : Option (SagaInstanceRecord J) → SagaProgram J Unit}
    {b : Option (SagaInstanceRecord J)}
    (hinformed : Informed (⟨store, threads⟩ : SagaPool E))
    (hattended : Attended (⟨store, threads⟩ : SagaPool E))
    (hheeded : Heeded (⟨store, threads⟩ : SagaPool E))
    (here : threads[i]? = some (@Program.ask (sagaInterface J) Unit (.updateCas c) next))
    (hok : keepsEvents (⟨store, threads⟩ : SagaPool E) (.served i (.updateCas c) b (next b).front))
    (h : SagaServes E (.updateCas c) store b store') :
    Heeded (⟨store', threads.set i (next b)⟩ : SagaPool E) := by
  intro cur step ref row hcur hwaiting hstep href hrow
  have hmem := List.mem_of_getElem? here
  have hwaits : step.waitFor ≠ none := by
    rw [href]
    exact Option.some_ne_none ref
  have hknown : Known store c.inst := hinformed.sound.held here rfl
  have hbefore : IsBuffered store cur.id ref row := by
    rcases hrow.before hinformed.addressed h with hrow | ⟨_, hq, _⟩
    · exact hrow
    · cases hq
  by_cases happlies : Applies store c
  · obtain ⟨cur', hcur', hversion⟩ := happlies
    obtain rfl := hknown.eq_of_version hcur' hversion
    by_cases hid : c.inst.id = cur.id
    · -- the instance as it was just written
      have hwritten := written_of_applies h hcur' rfl
      rw [hid, hcur] at hwritten
      obtain rfl := Option.some.inj hwritten
      have hfollow := (hinformed.sound.linked _ hmem b).1
      rcases waiting_after hfollow hwaiting with ⟨w, wait, buffered, rfl⟩ | hadvance
      · have hstep : w.inst.plan.steps[w.cursor]? = some step := hstep
        obtain rfl := Option.some.inj (w.here.symm.trans hstep)
        have hrejected (hbuffered : row ∈ buffered) :
            Rejected E ((CasCall.park w wait buffered).patch.apply w.inst) w.step row :=
          (rejected_of_passedOver (hinformed.weighed _ hmem) rfl hwaits hbuffered).of_frozen rfl
        rcases hattended _ hmem _ rfl w buffered rfl hcur' ref href row hbefore with
          hbuffered | ⟨p, hp, hwatches, _⟩
        · exact .inl (hrejected hbuffered)
        · rcases mem_set_of_mem here hp with rfl | hp
          · exact .inl (hrejected (hwatches.2 w buffered rfl rfl))
          · exact .inr ⟨p, hp, hwatches⟩
      · refine .inr ⟨next b, @mem_set_self (sagaSystem E) _ _ _ _ here, ?_⟩
        rw [hadvance]
        exact watches_findById row _ _
    · have hsame : store'.instances.get? cur.id = store.instances.get? cur.id := by
        cases instances_updateCas h cur.id with
        | unchanged same => exact same
        | written c' _ call target _ _ _ =>
          obtain rfl := SagaRequest.updateCas.inj call
          exact (hid target).elim
        | inserted _ call _ _ => cases call
      rcases hheeded cur step ref row (hsame.symm.trans hcur) hwaiting hstep href hbefore with
        hrejected | ⟨p, hp, hwatches⟩
      · exact .inl hrejected
      · rcases mem_set_of_mem here hp with rfl | hp
        · have hc : c.inst.id = cur.id := by
            have hadvances := hwatches.1
            cases c <;> first | exact Option.some.inj hadvances | cases hadvances
          exact (hid hc).elim
        · exact .inr ⟨p, hp, hwatches⟩
  · obtain ⟨rfl, _⟩ := serves_updateCas_lost h happlies
    rcases hheeded cur step ref row hcur hwaiting hstep href hbefore with hrejected | ⟨p, hp, hwatches⟩
    · exact .inl hrejected
    · rcases mem_set_of_mem here hp with rfl | hp
      · -- the lost write of a watching walk would have parked the instance where it is
        have hlost := hok.1
        simp only [keepsWalks, if_neg happlies] at hlost
        have hactive : cur.status.isActive = true := by
          rw [hwaiting]
          rfl
        have hc : c.inst.id = cur.id := by
          have hadvances := hwatches.1
          cases c <;> first | exact Option.some.inj hadvances | cases hadvances
        obtain ⟨_, hparked⟩ := hlost (Option.isSome_of_mem hwatches.1) cur (by rw [hc]; exact hcur) hactive
        obtain ⟨hstatus, hcursor⟩ := hparked hwaiting
        cases c with
        | park w wait buffered =>
          have hcursor : w.cursor = cur.cursor := hcursor
          have hc : w.inst.id = cur.id := hc
          obtain ⟨cur', hcur', hfrozen, _⟩ := hknown.known
          have hplan := hknown.plan_eq (by rw [show (CasCall.park w wait buffered).inst = w.inst from rfl, hc]; exact hcur)
          have hcur'' : store'.instances.get? w.inst.id = some cur' := hcur'
          rw [hc, hcur] at hcur''
          obtain rfl := Option.some.inj hcur''
          have here' := w.here
          rw [hcursor, ← show cur.plan = w.inst.plan from hplan, hstep] at here'
          obtain rfl := Option.some.inj here'
          exact .inl ((rejected_of_passedOver (hinformed.weighed _ hmem) rfl hwaits
            (hwatches.2 w buffered rfl hcursor)).of_frozen hfrozen)
        | onDoSucceeded inst live index => cases hwatches.1
        | _ => cases hstatus
      · exact .inr ⟨p, hp, hwatches⟩

theorem Heeded.step (hinformed : Informed P) (hattended : Attended P) (hheeded : Heeded P)
    (hok : keepsEvents P l) (h : Step (sagaSystem E) P l Q) : Heeded Q := by
  cases h with
  | start store threads entry =>
    intro cur step ref row hcur hwaiting hstep href hrow
    rcases hheeded cur step ref row hcur hwaiting hstep href hrow with h | ⟨p, hp, hwatches⟩
    · exact .inl h
    · exact .inr ⟨p, List.mem_append_left _ hp, hwatches⟩
  | @raised store threads i q next here error =>
    intro cur step ref row hcur hwaiting hstep href hrow
    rcases hheeded cur step ref row hcur hwaiting hstep href hrow with h | ⟨p, hp, hwatches⟩
    · exact .inl h
    · rcases mem_set_of_mem here hp with rfl | hp
      · have hnot := hok.1 _ hwatches.1
        rw [SagaDb.isActive_of_get? hcur, hwaiting] at hnot
        cases hnot
      · exact .inr ⟨p, hp, hwatches⟩
  | @served store store' threads i q next a here answered =>
    by_cases hcas : ∃ c, q = .updateCas c
    · obtain ⟨c, rfl⟩ := hcas
      exact heeded_updateCas hinformed hattended hheeded here hok answered
    · have hcas (c : CasCall J) : q ≠ .updateCas c := fun h => hcas ⟨c, h⟩
      intro cur step ref row hcur hwaiting hstep href hrow
      have hmem := List.mem_of_getElem? here
      have hfollow := (hinformed.sound.linked _ hmem a).1
      rcases hrow.before hinformed.addressed answered with hbefore | ⟨c, rfl, hid⟩
      · cases instances_after answered cur.id with
        | inserted input call before after =>
          have hcur : store'.instances.get? cur.id = some cur := hcur
          rw [after] at hcur
          rw [← Option.some.inj hcur] at hwaiting
          cases hwaiting
        | written c cur' call target before fenced after => exact (hcas c call).elim
        | unchanged same =>
          have hcur := same.symm.trans hcur
          rcases hheeded cur step ref row hcur hwaiting hstep href hbefore with h | ⟨p, hp, hwatches⟩
          · exact .inl h
          · rcases mem_set_of_mem here hp with rfl | hp
            · refine .inr ⟨_, mem_set_self here, ?_⟩
              exact watches_served hok answered hfollow (hinformed.weighed _ hmem)
                (hinformed.sound.known _ hmem) hcas hcur (by rw [hwaiting]; rfl) hstep href hbefore
                hwatches
            · exact .inr ⟨p, hp, hwatches⟩
      · exact .inr ⟨_, mem_set_self here, watched_of_markBuffered hfollow hid⟩

/-- A walk that is about to park has just listed the events, or was about to park before. -/
theorem passedOver_before {q q' : SagaRequest J} {a : q.Answer} (h : follow E q a (.asks q'))
    {w : Walk J} {buffered : List (SagaInboxRecord J)} (hq' : q'.passedOver = some (w, buffered))
    (hwaits : w.step.waitFor ≠ none) :
    q.passedOver = some (w, buffered) ∨ ∃ wait ref, q = .listBuffered w wait ref ∧
      ∀ db db', SagaServes E q db a db' →
        buffered = SagaInboxRepository.listBuffered db w.inst.id ref 50 := by
  have not_walk {inst : SagaInstanceRecord J} {n : Nat} {scope : Scope J}
      (h : WalkFront E inst n scope (.asks q')) : False := by
    rcases h with h | ⟨_, _, _, h⟩ | ⟨w', _, _, _, hstep⟩
    · cases h
    · cases h
      cases hq'
    · rcases hstep with ⟨_, h⟩ | ⟨_, ⟨_, _, _, h⟩ | ⟨_, _, hnone, h⟩ | ⟨_, _, h⟩⟩
      · cases h
        cases hq'
      · cases h
        cases hq'
      · cases h
        obtain ⟨rfl, _⟩ := Prod.mk.inj (Option.some.inj hq')
        exact hwaits hnone
      · cases h
        cases hq'
  have hfunction : q'.function = .advance ∧ q'.isFresh = false := by
    cases q' with
    | createIfAbsent c => cases c <;> first | exact ⟨rfl, rfl⟩ | cases hq'
    | updateCas c => cases c <;> first | exact ⟨rfl, rfl⟩ | cases hq'
    | _ => cases hq'
  have not_fresh (hf : Fresh (.asks q')) : False := by
    rw [Fresh, hfunction.2] at hf
    cases hf
  cases advanceCall_of_follow h hfunction.1 hfunction.2 with
  | findById id =>
    rcases a with _ | ⟨inst, _⟩
    · exact (not_fresh h).elim
    · dsimp only [follow] at h
      split at h
      · cases h
        cases hq'
      · exact (not_fresh h).elim
  | findByInstance inst active =>
    cases h
    cases hq'
  | clock inst active scope => exact (not_walk h).elim
  | recordBypass w' => exact (not_walk h).elim
  | consumeWait w' row output =>
    cases h
    cases hq'
  | waitRow w' wait buffered' timeoutMs =>
    cases h
    exact .inl hq'
  | doRow w' do_ input =>
    dsimp only [follow] at h
    split at h
    · obtain ⟨_, h⟩ := h
      exact (not_walk h).elim
    · cases h
      cases hq'
  | listBuffered w' wait ref =>
    rcases h with h | ⟨_, _, _, h⟩ | ⟨_, _, h⟩
    · cases h
    · cases h
      cases hq'
    · cases h
      obtain ⟨rfl, rfl⟩ := Prod.mk.inj (Option.some.inj hq')
      exact .inr ⟨wait, ref, rfl, fun _ _ hserves => (serves_listBuffered hserves).1⟩
  | markConsumed w' row =>
    obtain ⟨_, h⟩ := h
    exact (not_walk h).elim
  | park w' wait buffered' => exact (not_fresh h).elim
  | handOver w' do_ => exact (not_fresh h).elim
  | complete inst active cursor ahead =>
    rcases h with h | ⟨_, h⟩
    · exact (not_fresh h).elim
    · cases h
      cases hq'
  | append inst event => exact (not_fresh h).elim

theorem held_of_passedOver {q : SagaRequest J} {w : Walk J} {buffered : List (SagaInboxRecord J)}
    (h : q.passedOver = some (w, buffered)) : q.held = some w.inst := by
  cases q with
  | createIfAbsent c =>
    cases c <;> cases h
    rfl
  | updateCas c =>
    cases c <;> cases h
    rfl
  | _ => cases h

/-- A write that goes through leaves no call that is about to park from the new version. -/
theorem not_passedOver_after {q q' : SagaRequest J} {a : q.Answer} {c : CasCall J}
    (h : follow E q a (.asks q')) (hq : q = .updateCas c) {w : Walk J}
    {buffered : List (SagaInboxRecord J)} (hq' : q'.passedOver = some (w, buffered)) : False := by
  subst hq
  have hfresh : q'.isFresh = false := by
    cases q' with
    | createIfAbsent c => rfl
    | updateCas c => rfl
    | _ => cases hq'
  cases c with
  | complete inst active cursor ahead =>
    rcases h with h | ⟨_, h⟩
    · rw [Fresh, hfresh] at h
      cases h
    · cases h
      cases hq'
  | onDoSucceeded inst live index =>
    cases h
    cases hq'
  | skipTimeout inst live row =>
    cases h
    cases hq'
  | _ =>
    have hfresh' : q'.isFresh = true := h
    rw [hfresh] at hfresh'
    cases hfresh'

theorem Attended.step (hinformed : Informed P) (hattended : Attended P) (hok : keepsEvents P l)
    (h : Step (sagaSystem E) P l Q) : Attended Q := by
  cases h with
  | start store threads entry =>
    intro p hp q hq w buffered hpassed hcur ref href row hrow
    rcases List.mem_append.mp hp with hp | hp
    · rcases hattended p hp q hq w buffered hpassed hcur ref href row hrow with h | ⟨p', hp', h⟩
      · exact .inl h
      · exact .inr ⟨p', List.mem_append_left _ hp', h⟩
    · have hfresh : Fresh ((sagaSystem E).program entry).front := program_fresh entry
      rw [← List.mem_singleton.mp hp, hq] at hfresh
      exact (not_held_of_fresh hfresh (held_of_passedOver hpassed)).elim
  | @raised store threads i q next here error =>
    intro p hp q' hq w buffered hpassed hcur ref href row hrow
    rcases mem_set_cases hp with rfl | ⟨j, _, hp⟩
    · cases hq
    · rcases hattended p (List.mem_of_getElem? hp) q' hq w buffered hpassed hcur ref href row hrow with
        h | ⟨p', hp', hwatches, hcurrent⟩
      · exact .inl h
      · rcases mem_set_of_mem here hp' with rfl | hp'
        · have hnot := hok.1 _ hwatches.1
          rw [SagaDb.isActive_of_get? hcur, w.active] at hnot
          cases hnot
        · exact .inr ⟨p', hp', hwatches, hcurrent⟩
  | @served store store' threads i q next a here answered =>
    intro p hp q' hq w buffered hpassed hcur ref href row hrow
    have hmem := List.mem_of_getElem? here
    have hfollow := (hinformed.sound.linked _ hmem a).1
    have hwaits : w.step.waitFor ≠ none := by
      rw [href]
      exact Option.some_ne_none ref
    -- the walk started from what was stored before this step too
    have hbefore : store.instances.get? w.inst.id = some w.inst := by
      cases instances_after answered w.inst.id with
      | unchanged same => exact same.symm.trans hcur
      | inserted input call before after =>
        subst call
        rcases mem_set_cases hp with rfl | ⟨j, _, hp⟩
        · rw [hq] at hfollow
          cases a with
          | none => exact (not_held_of_fresh hfollow (held_of_passedOver hpassed)).elim
          | some inst => cases hfollow; cases hpassed
        · have hknown := hinformed.sound.known p (List.mem_of_getElem? hp)
          rw [hq] at hknown
          obtain ⟨cur', hcur', _⟩ := (hknown w.inst (held_of_passedOver hpassed)).known
          rw [before] at hcur'
          cases hcur'
      | written c cur' call target before fenced after =>
        rcases mem_set_cases hp with rfl | ⟨j, _, hp⟩
        · rw [hq] at hfollow
          exact (not_passedOver_after hfollow call hpassed).elim
        · have hknown := hinformed.sound.known p (List.mem_of_getElem? hp)
          rw [hq] at hknown
          obtain ⟨cur'', hcur'', _, hle, _⟩ := (hknown w.inst (held_of_passedOver hpassed)).known
          rw [before] at hcur''
          obtain rfl := Option.some.inj hcur''
          have hcur : store'.instances.get? w.inst.id = some w.inst := hcur
          rw [hcur] at after
          have hversion := congrArg SagaInstanceRecord.version (Option.some.inj after)
          rw [SagaInstancePatch.apply_version] at hversion
          omega
    rcases hrow.before hinformed.addressed answered with hrow' | ⟨c, rfl, hid⟩
    · -- whether it is this thread or another one that is about to park, it was before, or has
      -- just listed the event
      have hparking : row ∈ buffered ∨ ∃ p ∈ threads, ∃ q, p.front = .asks q ∧
          q.passedOver = some (w, buffered) := by
        rcases mem_set_cases hp with rfl | ⟨j, _, hp⟩
        · rw [hq] at hfollow
          rcases passedOver_before hfollow hpassed hwaits with hpassed | ⟨wait, ref', rfl, hlisted⟩
          · exact .inr ⟨_, hmem, q, rfl, hpassed⟩
          · left
            have href' : w.step.waitFor = some ref' := (hinformed.weighed _ hmem).2
            obtain rfl := Option.some.inj (href.symm.trans href')
            rw [hlisted store store' answered]
            exact mem_listBuffered hrow' hok.2
        · exact .inr ⟨p, List.mem_of_getElem? hp, q', hq, hpassed⟩
      rcases hparking with h | ⟨p₀, hp₀, q₀, hq₀, hpassed₀⟩
      · exact .inl h
      rcases hattended p₀ hp₀ q₀ hq₀ w buffered hpassed₀ hbefore ref href row hrow' with
        h | ⟨p', hp', hwatches, hcurrent⟩
      · exact .inl h
      rcases mem_set_of_mem here hp' with rfl | hp'
      · -- the call that was to see the event moves
        by_cases hcas : ∃ c, q = .updateCas c
        · obtain ⟨c, rfl⟩ := hcas
          have hinst : c.inst = w.inst := hcurrent _ c.inst rfl rfl
          have hwritten := written_of_applies answered (by rw [hinst]; exact hbefore) (by rw [hinst])
          have hcur : store'.instances.get? w.inst.id = some w.inst := hcur
          rw [hinst, hcur] at hwritten
          have hversion := congrArg SagaInstanceRecord.version (Option.some.inj hwritten)
          rw [SagaInstancePatch.apply_version] at hversion
          omega
        · have hcas (c : CasCall J) : q ≠ .updateCas c := fun h => hcas ⟨c, h⟩
          have hwatches' := watches_served hok answered hfollow (hinformed.weighed _ hmem)
            (hinformed.sound.known _ hmem) hcas hbefore w.active w.here href hrow' hwatches
          refine .inr ⟨_, mem_set_self here, hwatches', fun q₁ inst hfront hheld => ?_⟩
          rw [hfront] at hfollow hwatches'
          rcases follow_held hfollow hheld with hheld | hanswered
          · exact hcurrent q inst rfl hheld
          · have hget := get?_answered answered hanswered
            have hid : inst.id = w.inst.id := by
              have hadvances := hwatches'.1
              cases advanceCall_of_function (function_of_advances hwatches.1) with
              | findById id =>
                rcases a with _ | ⟨found, hfound⟩
                · cases hanswered
                · obtain rfl := Option.some.inj hanswered
                  exact hfound.trans (Option.some.inj hwatches.1)
              | _ => cases hanswered
            rw [hid] at hget
            exact Option.some.inj (hget.symm.trans hcur)
      · exact .inr ⟨p', hp', hwatches, hcurrent⟩
    · -- the event has just become BUFFERED, and its own call is next
      refine .inr ⟨_, mem_set_self here, watched_of_markBuffered hfollow hid, fun q₁ inst hfront hheld => ?_⟩
      have hf : (next a).front = .asks (.findById (.advance c.inst.id)) := hfollow
      rw [hfront] at hf
      cases hf
      cases hheld

end Steps

theorem heeded_of_run (h : Run keepsEvents P trace Q) (hP : Initial P) : Attended Q ∧ Heeded Q := by
  have hstrong := h.strengthen fun h => informed_of_run h hP
  induction hstrong with
  | nil =>
    refine ⟨fun p hp => by simp [hP.threads] at hp, fun cur step ref row hcur => ?_⟩
    rw [hP.instances] at hcur
    cases hcur
  | snoc hrun hok hs ih =>
    obtain ⟨hattended, hheeded⟩ := ih (hrun.mono fun _ _ hok => hok.1)
    exact ⟨hattended.step hok.2 hok.1 hs, hheeded.step hok.2 hattended hok.1 hs⟩

/-- The verdict on the event does not depend on the log of steps. -/
def IgnoresLog (E : Environment J) (inst : SagaInstanceRecord J) (step : SagaPlanStep)
    (row : SagaInboxRecord J) : Prop :=
  ∀ scope log, accepts E inst step { scope with steps := log } row = accepts E inst step scope row

theorem not_accepted_of_rejected {inst : SagaInstanceRecord J} {step : SagaPlanStep}
    {row : SagaInboxRecord J} (h : Rejected E inst step row) (hlog : IgnoresLog E inst step row)
    (rows : List (SagaStepRecord J)) :
    accepts E inst step (buildScope E inst rows) row ≠ .ok true := by
  obtain ⟨_, ⟨log, rfl⟩, hreject⟩ := h
  have hsame := hlog (buildScope E inst []) (buildScope E inst rows).steps
  rw [hlog] at hreject
  rw [hreject] at hsame
  have hscope : buildScope E inst rows =
      { buildScope E inst [] with steps := (buildScope E inst rows).steps } := rfl
  rw [hscope, hsame]
  exact fun h => by cases h

theorem inEngine_of_advances {q : SagaRequest J} {id : String} (h : q.advances = some id) :
    inEngine (.asks q : SagaFront J) = true := by
  rw [inEngine, function_of_advances h]
  rfl

/-- With no engine call in progress, an instance has left every step an event was consumed
for, unless it is not active any more, and no buffered event of a parked instance passes the
step it is parked at. -/
theorem waiting_saga_keeps_its_events (hinit : Initial P) (h : Run keepsEvents P trace Q)
    (hquiescent : Quiescent Q) :
    (∀ i w row a f, .served i (SagaRequest.markConsumed w row) a f ∈ trace →
      ∃ inst, Q.store.instances.get? w.inst.id = some inst ∧
        (inst.status.isActive = true → w.cursor < inst.cursor)) ∧
    ∀ inst step ref row, Q.store.instances.get? inst.id = some inst → inst.status = .waiting →
      inst.plan.steps[inst.cursor]? = some step → step.waitFor = some ref →
      IsBuffered Q.store inst.id ref row → IgnoresLog E inst step row →
        accepts E inst step
          (buildScope E inst (SagaStepRepository.findByInstance Q.store inst.id)) row ≠ .ok true := by
  have not_engine {p : SagaProgram J Unit} (hp : p ∈ Q.threads) {q : SagaRequest J} {id : String}
      (hq : p.front = .asks q) (hadvances : q.advances = some id) : False := by
    have hengine := inEngine_of_advances hadvances
    rw [← hq, hquiescent p hp] at hengine
    cases hengine
  constructor
  · intro i w row a f hmem
    obtain ⟨inst, hinst, hpast⟩ := past_of_run hinit.sound (h.mono fun _ _ hok => hok.1) hmem
    refine ⟨inst, hinst, fun hactive => ?_⟩
    rcases hpast hactive with hlt | ⟨p, hp, m, _, hposition⟩
    · exact hlt
    · cases hf : p.front with
      | asks q =>
        rw [hf] at hposition
        exact (not_engine hp hf (advances_of_position hposition)).elim
      | finished => rw [hf] at hposition; cases hposition
      | failed => rw [hf] at hposition; cases hposition
  · intro inst step ref row hinst hwaiting hstep href hrow hlog
    rcases (heeded_of_run h hinit).2 inst step ref row hinst hwaiting hstep href hrow with
      hrejected | ⟨p, hp, hwatches⟩
    · exact not_accepted_of_rejected hrejected hlog _
    · cases hf : p.front with
      | asks q =>
        rw [hf] at hwatches
        exact (not_engine hp hf hwatches.1).elim
      | finished => rw [hf] at hwatches; exact hwatches.elim
      | failed => rw [hf] at hwatches; exact hwatches.elim

section Runs

open Scenario

/-- A wait on event `name` for the instance whose key the template renders to. -/
private def matchedStep (name key : String) : SagaStepSpec :=
  { waitStep name .skip with match_ := some key }

/-- One walk has listed the buffered events and written its WAIT row; the event comes, a second
walk consumes it and is about to complete; the first one parks. -/
private def lostWakeup : List DemoMove :=
  deliver "Started" :: serveAll 0 (insertion ++ advancing 0 ++ [SagaChoice.plain, .plain]) ++
  deliver "a" :: serveAll 1 [.plain, .plain, .order ["i"], .order [], .time 0, .plain] ++
  serveAll 1 (advancing 0 ++ consuming) ++ serveAll 0 [.plain] ++ serveAll 1 [.plain]

/-- The second walk loses its write, and nobody looks: the instance waits for an event that has
been consumed. -/
theorem waiting_for_a_consumed_event :
    ∃ (Q : SagaPool demo) (trace : List (Label (sagaSystem demo))),
      Run anyStep (emptyPool (definitionOf [matchedStep "a" "R1"] [])) trace Q ∧
        Quiescent Q ∧ statusOf Q = some .waiting ∧ cursorOf Q = some 0 ∧
        Q.store.inbox.rows.map (fun row => (row.eventName, row.status)) = [("a", .consumed)] := by
  have hplay : (((emptyPool (definitionOf [matchedStep "a" "R1"] [])).play anyStep
      lostWakeup).map fun Q => decide (Quiescent Q ∧ statusOf Q = some .waiting ∧
        cursorOf Q = some 0 ∧ Q.store.inbox.rows.map
          (fun row => (row.eventName, row.status)) = [("a", .consumed)])) = some true := by
    decide
  exact Pool.play_reach hplay

/-- Parked on `a`, which comes; parked on `b`, which comes but does not match. -/
private def matchedAndNot : List DemoMove :=
  deliver "Started" :: serveAll 0 (insertion ++ advancing 0 ++ parking) ++
  deliver "a" :: serveAll 1 (buffering ++ advancing 0 ++ consuming ++ parking) ++
  deliver "b" :: serveAll 2 ([SagaChoice.plain, .plain, .order [], .order ["i"], .time 0, .plain] ++
    advancing 0 ++ parking)

/-- The buffered event `b` is one the instance was right to pass over. -/
theorem waiting_saga_keeps_its_events_two : ∃ (Q : SagaPool demo) (inst : SagaInstanceRecord String)
    (step : SagaPlanStep) (row : SagaInboxRecord String),
    inst.status = .waiting ∧ IsBuffered Q.store inst.id ⟨"b", 1⟩ row ∧
      accepts demo inst step
        (buildScope demo inst (SagaStepRepository.findByInstance Q.store inst.id)) row ≠ .ok true := by
  have hplay : (((emptyPool (definitionOf [waitStep "a" .skip, matchedStep "b" "R2"] [])).play
      keepsEvents matchedAndNot).map fun Q => decide (Quiescent Q ∧
        ∃ inst ∈ Q.store.instances.get? "i", inst.status = .waiting ∧
          ∃ step ∈ inst.plan.steps[inst.cursor]?, step.waitFor = some ⟨"b", 1⟩ ∧
            ∃ row ∈ Q.store.inbox.rows, row.instanceId = "i" ∧ row.eventName = "b" ∧
              row.eventVersion = 1 ∧ row.status = .buffered)) = some true := by
    decide
  obtain ⟨Q, trace, hrun, hquiescent, inst, hinst, hwaiting, step, hstep, href, row, hrow⟩ :=
    Pool.play_reach hplay
  have hid : inst.id = "i" := Table.key_of_get? hinst
  have hbuffered : IsBuffered Q.store inst.id ⟨"b", 1⟩ row :=
    ⟨hrow.1, hrow.2.1.trans hid.symm, hrow.2.2.1, hrow.2.2.2.1, hrow.2.2.2.2⟩
  refine ⟨Q, inst, step, row, hwaiting, hbuffered, ?_⟩
  exact (waiting_saga_keeps_its_events (initial_emptyPool _) hrun hquiescent).2 inst step ⟨"b", 1⟩
    row (hid ▸ hinst) hwaiting hstep href hbuffered fun _ _ => rfl

end Runs

end DddBoilerplate.Saga
