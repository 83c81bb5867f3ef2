/- module: DddBoilerplate/Saga/Walks
   generality: I
   digest: What a walk of `advance` has consumed an event for stays behind its instance, as long as lost writes are made up for. -/

import DddBoilerplate.Saga.Cursor
import DddBoilerplate.Saga.Settlement

set_option autoImplicit false
set_option relaxedAutoImplicit false
set_option linter.all false

open DddBoilerplate.Concurrency DddBoilerplate.Store

namespace DddBoilerplate.Saga

variable {J : Type} {E : Environment J} {db db' : SagaDb J}

/-- The instance `advance` is at work on, from reading it up to its last write. -/
def SagaRequest.advances : SagaRequest J → Option String
  | findById (.advance id) => some id
  | findByInstance (.advance inst _) => some inst.id
  | clock (.advance inst _ _) => some inst.id
  | updateCas (.complete inst _ _ _) => some inst.id
  | q => q.walk.map (·.inst.id)

/-- The instance of a walk and the position it has reached. -/
def SagaRequest.position : SagaRequest J → Option (String × Nat)
  | updateCas (.complete inst _ cursor _) => some (inst.id, cursor)
  | q => q.walk.map fun w => (w.inst.id, w.cursor)

def position : SagaFront J → Option (String × Nat)
  | .asks q => q.position
  | _ => none

theorem advances_of_position {q : SagaRequest J} {id : String} {n : Nat}
    (h : q.position = some (id, n)) : q.advances = some id := by
  cases q with
  | updateCas c => cases c <;> cases h <;> rfl
  | createIfAbsent c => cases c <;> cases h <;> rfl
  | listBuffered w wait ref => cases h; rfl
  | markConsumed w row => cases h; rfl
  | _ => cases h

theorem function_of_advances {q : SagaRequest J} {id : String} (h : q.advances = some id) :
    q.function = .advance := by
  cases q with
  | findById c => cases c <;> first | rfl | cases h
  | findByInstance c => cases c <;> first | rfl | cases h
  | clock c => cases c <;> first | rfl | cases h
  | updateCas c => cases c <;> first | rfl | cases h
  | createIfAbsent c => cases c <;> first | rfl | cases h
  | listBuffered w wait ref => rfl
  | markConsumed w row => rfl
  | _ => cases h

theorem position_of_walkFront {inst : SagaInstanceRecord J} {n : Nat} {scope : Scope J}
    {f : SagaFront J} (h : WalkFront E inst n scope f) :
    f = .failed ∨ position f = some (inst.id, n) := by
  rcases h with h | ⟨_, _, _, rfl⟩ | ⟨w, rfl, rfl, _, hstep⟩
  · exact .inl h
  · exact .inr rfl
  · rcases hstep with ⟨_, rfl⟩ | ⟨_, ⟨_, _, _, rfl⟩ | ⟨_, _, _, rfl⟩ | ⟨_, _, rfl⟩⟩ <;>
      exact .inr rfl

/-- A walk goes on from where it is, up to its last write, unless it throws. -/
theorem position_follow {q : SagaRequest J} {a : q.Answer} {f : SagaFront J} {id : String} {n : Nat}
    (h : follow E q a f) (hq : q.position = some (id, n)) (hcas : ∀ c, q ≠ .updateCas c) :
    f = .failed ∨ ∃ n', n ≤ n' ∧ position f = some (id, n') := by
  have on_walk {inst : SagaInstanceRecord J} {m : Nat} {scope : Scope J}
      (h : WalkFront E inst (m + 1) scope f) (hid : (inst.id, m) = (id, n)) :
      f = .failed ∨ ∃ n', n ≤ n' ∧ position f = some (id, n') := by
    obtain ⟨rfl, rfl⟩ := Prod.mk.inj hid
    rcases position_of_walkFront h with h | h
    · exact .inl h
    · exact .inr ⟨m + 1, Nat.le_succ m, h⟩
  cases q with
  | updateCas c => exact (hcas c rfl).elim
  | createIfAbsent c =>
    cases c with
    | recordBypass w => exact on_walk h (Option.some.inj hq)
    | consumeWait w row output => cases h; exact .inr ⟨n, Nat.le_refl n, hq⟩
    | park w wait buffered timeout => cases h; exact .inr ⟨n, Nat.le_refl n, hq⟩
    | handOver w do_ input =>
      dsimp only [follow] at h
      split at h
      · obtain ⟨_, h⟩ := h
        exact on_walk h (Option.some.inj hq)
      · cases h; exact .inr ⟨n, Nat.le_refl n, hq⟩
    | undo => cases hq
  | listBuffered w wait ref =>
    rcases h with h | ⟨_, _, _, rfl⟩ | ⟨_, _, rfl⟩
    · exact .inl h
    · exact .inr ⟨n, Nat.le_refl n, hq⟩
    · exact .inr ⟨n, Nat.le_refl n, hq⟩
  | markConsumed w row =>
    obtain ⟨_, h⟩ := h
    exact on_walk h (Option.some.inj hq)
  | _ => cases hq

/-- The last write of a walk puts the cursor where the walk is. -/
theorem cursor_of_position {c : CasCall J} {id : String} {n : Nat}
    (h : (SagaRequest.updateCas c).position = some (id, n)) :
    c.inst.id = id ∧ (c.patch.apply c.inst).cursor = n := by
  cases c with
  | park w wait buffered => cases h; exact ⟨rfl, rfl⟩
  | handOver w do_ => cases h; exact ⟨rfl, rfl⟩
  | complete inst active cursor ahead => cases h; exact ⟨rfl, rfl⟩
  | _ => cases h

/-- A skipped timeout sets an instance going again, whatever became of it. -/
def CasCall.resumes : CasCall J → Bool
  | skipTimeout _ _ _ => true
  | _ => false

theorem CasCall.active_before {c : CasCall J} (h : (c.patch.apply c.inst).status.isActive = true) :
    c.inst.status.isActive = true ∨ (c.resumes = true ∧ c.inst.status = .compensating) := by
  cases c with
  | park w wait buffered => exact .inl w.active
  | handOver w do_ => exact .inl w.active
  | complete inst active cursor ahead => exact .inl active
  | onDoSucceeded inst live index => exact .inl h
  | skipTimeout inst live row =>
    rcases SagaInstanceStatus.live_cases live with hs | hs | hs
    · exact .inl (by rw [CasCall.inst, hs]; rfl)
    · exact .inl (by rw [CasCall.inst, hs]; rfl)
    · exact .inr ⟨rfl, hs⟩
  | _ => cases h

def SagaDb.isActive (db : SagaDb J) (id : String) : Bool :=
  (db.statusOf id).any (·.isActive)

theorem SagaDb.isActive_of_get? {id : String} {inst : SagaInstanceRecord J}
    (h : db.instances.get? id = some inst) : db.isActive id = inst.status.isActive := by
  rw [isActive, statusOf_of_get? h, Option.any_some]

/-- A lost write of `advance` finds the instance at least as far, and, if it is parked, parked
where the walk would have parked it. -/
def MadeUpFor (db : SagaDb J) (c : CasCall J) : Prop :=
  ∀ cur ∈ db.instances.get? c.inst.id, cur.status.isActive = true →
    (c.patch.apply c.inst).cursor ≤ cur.cursor ∧
    (cur.status = .waiting →
      (c.patch.apply c.inst).status = .waiting ∧ (c.patch.apply c.inst).cursor = cur.cursor)

instance (db : SagaDb J) (c : CasCall J) : Decidable (MadeUpFor db c) :=
  inferInstanceAs (Decidable (∀ cur ∈ db.instances.get? c.inst.id, _))

/-- The call is not one of `advance` for an active instance. -/
def NotAdvancing (db : SagaDb J) (q : SagaRequest J) : Prop :=
  ∀ id ∈ q.advances, db.isActive id = false

instance (db : SagaDb J) (q : SagaRequest J) : Decidable (NotAdvancing db q) :=
  inferInstanceAs (Decidable (∀ id ∈ q.advances, _))

/-- A settling write is for a step at the cursor or after it and sets no compensating instance
going again, a lost write of `advance` is made up for, and `advance` neither throws nor is cut
short on an active instance. -/
def keepsWalks (P : SagaPool E) : Label (sagaSystem E) → Prop
  | .served _ (.updateCas c) _ _ =>
    if Applies P.store c then
      (∀ index ∈ c.settledIndex, ∀ cur ∈ P.store.instances.get? c.inst.id,
        cur.cursor ≤ index + 1) ∧
      (c.resumes = true → P.store.statusOf c.inst.id ≠ some .compensating)
    else (SagaRequest.updateCas c).advances.isSome = true → MadeUpFor P.store c
  | .served _ q _ .failed => NotAdvancing P.store q
  | .raised _ q => NotAdvancing P.store q
  | _ => True

/-- What is said of a thread's next move is decided move by move. -/
def decidableAt {p : SagaFront J → Prop} (asks : ∀ q, Decidable (p (.asks q)))
    (finished : Decidable (p .finished)) (failed : Decidable (p .failed)) :
    ∀ f, Decidable (p f)
  | .asks q => asks q
  | .finished => finished
  | .failed => failed

instance (P : SagaPool E) (l : Label (sagaSystem E)) : Decidable (keepsWalks P l) := by
  apply Label.casesOn (motive := fun l => Decidable (keepsWalks P l)) l
  case served =>
    intro i q
    apply SagaRequest.casesOn
      (motive := fun q => ∀ (a : q.Answer) f, Decidable (keepsWalks P (.served i q a f))) q
    case updateCas =>
      intros
      dsimp only [keepsWalks]
      infer_instance
    all_goals
      intros
      rename_i f
      apply decidableAt _ _ _ f <;> intros <;> dsimp only [keepsWalks] <;> infer_instance
  all_goals
    intros
    dsimp only [keepsWalks]
    infer_instance

variable {P Q : SagaPool E} {trace : List (Label (sagaSystem E))} {l : Label (sagaSystem E)}

/-- A walk of an active instance does not throw. -/
theorem not_failed {i : Nat} {q : SagaRequest J} {a : q.Answer} {f : SagaFront J} {id : String}
    (hok : keepsWalks P (.served i q a f)) (hcas : ∀ c, q ≠ .updateCas c)
    (hq : q.advances = some id) (hactive : P.store.isActive id = true) : f ≠ .failed := by
  rintro rfl
  have hnot : NotAdvancing P.store q := by
    cases q with
    | updateCas c => exact (hcas c rfl).elim
    | _ => exact hok
  rw [hnot id hq] at hactive
  cases hactive

/-- The instance has left position `n`, or is not active any more, or a walk that has left it
is still to write. -/
def Past (P : SagaPool E) (id : String) (n : Nat) : Prop :=
  ∃ cur, P.store.instances.get? id = some cur ∧ (cur.status.isActive = true →
    n < cur.cursor ∨ ∃ p ∈ P.threads, ∃ m, n < m ∧ position p.front = some (id, m))

section Past

variable {store store' : SagaDb J} {threads : List (SagaProgram J Unit)} {i n : Nat} {id : String}
  {next : Option (SagaInstanceRecord J) → SagaProgram J Unit}

/-- The write that decides: it puts the cursor where its walk is, or keeps it, or is lost with
the instance as far as the walk. -/
theorem past_updateCas {c : CasCall J} {a : Option (SagaInstanceRecord J)} {f : SagaFront J}
    (hsound : Sound (⟨store, threads⟩ : SagaPool E))
    (here : threads[i]? = some (@Program.ask (sagaInterface J) Unit (.updateCas c) next))
    (hok : keepsWalks (⟨store, threads⟩ : SagaPool E) (.served i (.updateCas c) a f))
    (h : SagaServes E (.updateCas c) store a store')
    (hpast : Past (⟨store, threads⟩ : SagaPool E) id n) (p' : SagaProgram J Unit) :
    Past (⟨store', threads.set i p'⟩ : SagaPool E) id n := by
  obtain ⟨cur, hcur, hpast⟩ := hpast
  have hknown : Known store c.inst := hsound.held here rfl
  by_cases happlies : Applies store c
  · simp only [keepsWalks, if_pos happlies] at hok
    obtain ⟨cur', hcur', hversion⟩ := happlies
    obtain rfl := hknown.eq_of_version hcur' hversion
    cases instances_after h id with
    | inserted input call before after => rw [hcur] at before; cases before
    | unchanged same =>
      refine ⟨cur, same.trans hcur, fun hactive => ?_⟩
      rcases hpast hactive with hlt | ⟨p, hp, m, hm, hposition⟩
      · exact .inl hlt
      · rcases mem_set_of_mem here hp with rfl | hp
        · -- the writing thread wrote this instance
          obtain ⟨hid, _⟩ := cursor_of_position hposition
          have hwritten := written_of_applies h hcur' rfl
          rw [hid, same, ← hid, hcur'] at hwritten
          have hversion := congrArg SagaInstanceRecord.version (Option.some.inj hwritten)
          rw [SagaInstancePatch.apply_version] at hversion
          omega
        · exact .inr ⟨p, hp, m, hm, hposition⟩
    | written c' cur'' call target before fenced after =>
      obtain rfl := SagaRequest.updateCas.inj call
      subst target
      rw [hcur'] at before
      obtain rfl := Option.some.inj before
      rw [hcur'] at hcur
      obtain rfl := Option.some.inj hcur
      refine ⟨_, after, fun hactive => ?_⟩
      rcases CasCall.active_before hactive with hbefore | ⟨hresumes, hcompensating⟩
      · have hle := CasCall.cursor_le fun index hindex => hok.1 index hindex _ hcur'
        rcases hpast hbefore with hlt | ⟨p, hp, m, hm, hposition⟩
        · exact .inl (by omega)
        · rcases mem_set_of_mem here hp with rfl | hp
          · obtain ⟨_, hcursor⟩ := cursor_of_position hposition
            exact .inl (by omega)
          · exact .inr ⟨p, hp, m, hm, hposition⟩
      · exact (hok.2 hresumes (hcompensating ▸ SagaDb.statusOf_of_get? hcur')).elim
  · simp only [keepsWalks, if_neg happlies] at hok
    obtain ⟨rfl, _⟩ := serves_updateCas_lost h happlies
    refine ⟨cur, hcur, fun hactive => ?_⟩
    rcases hpast hactive with hlt | ⟨p, hp, m, hm, hposition⟩
    · exact .inl hlt
    · rcases mem_set_of_mem here hp with rfl | hp
      · obtain ⟨hid, hcursor⟩ := cursor_of_position hposition
        have hmade := hok (Option.isSome_of_mem (advances_of_position hposition)) cur
          (by rw [hid]; exact hcur) hactive
        exact .inl (by omega)
      · exact .inr ⟨p, hp, m, hm, hposition⟩

end Past

theorem Past.step {id : String} {n : Nat} (hsound : Sound P) (hpast : Past P id n)
    (hok : keepsWalks P l) (h : Step (sagaSystem E) P l Q) : Past Q id n := by
  cases h with
  | start store threads entry =>
    obtain ⟨cur, hcur, hpast⟩ := hpast
    refine ⟨cur, hcur, fun hactive => ?_⟩
    rcases hpast hactive with hlt | ⟨p, hp, hposition⟩
    · exact .inl hlt
    · exact .inr ⟨p, List.mem_append_left _ hp, hposition⟩
  | @raised store threads i q next here error =>
    obtain ⟨cur, hcur, hpast⟩ := hpast
    refine ⟨cur, hcur, fun hactive => ?_⟩
    rcases hpast hactive with hlt | ⟨p, hp, m, hm, hposition⟩
    · exact .inl hlt
    · rcases mem_set_of_mem here hp with rfl | hp
      · have hnot := hok id (advances_of_position hposition)
        rw [SagaDb.isActive_of_get? hcur, hactive] at hnot
        cases hnot
      · exact .inr ⟨p, hp, m, hm, hposition⟩
  | @served store store' threads i q next a here answered =>
    by_cases hcas : ∃ c, q = .updateCas c
    · obtain ⟨c, rfl⟩ := hcas
      exact past_updateCas hsound here hok answered hpast _
    · have hcas (c : CasCall J) : q ≠ .updateCas c := fun h => hcas ⟨c, h⟩
      obtain ⟨cur, hcur, hpast⟩ := hpast
      cases instances_after answered id with
      | inserted input call before after => rw [hcur] at before; cases before
      | written c cur' call target before fenced after => exact (hcas c call).elim
      | unchanged same =>
        refine ⟨cur, same.trans hcur, fun hactive => ?_⟩
        rcases hpast hactive with hlt | ⟨p, hp, m, hm, hposition⟩
        · exact .inl hlt
        · rcases mem_set_of_mem here hp with rfl | hp
          · have hfollow := (hsound.linked _ (List.mem_of_getElem? here) a).1
            rcases position_follow hfollow hposition hcas with hfailed | ⟨m', hm', hposition'⟩
            · have hactive' : store.isActive id = true := by
                rw [SagaDb.isActive_of_get? hcur, hactive]
              exact (not_failed hok hcas (advances_of_position hposition) hactive' hfailed).elim
            · exact .inr ⟨_, mem_set_self here, m', by omega, hposition'⟩
          · exact .inr ⟨p, hp, m, hm, hposition⟩

/-- Right after an event is consumed for a step, the walk that consumed it has left the step. -/
theorem past_markConsumed {i : Nat} {w : Walk J} {row : SagaInboxRecord J} {a : Unit}
    {f : SagaFront J} (hsound : Sound P) (hok : keepsWalks P (.served i (.markConsumed w row) a f))
    (h : Step (sagaSystem E) P (.served i (.markConsumed w row) a f) Q) :
    Past Q w.inst.id w.cursor := by
  cases h with
  | @served store store' threads _ _ next _ here answered =>
    obtain ⟨cur, hcur, _⟩ := (hsound.held here rfl).known
    have hsame : store'.instances = store.instances := by
      obtain ⟨_, h⟩ := answered
      cases h
      rfl
    refine ⟨cur, hsame ▸ hcur, fun hactive => .inr ⟨_, mem_set_self here, w.cursor + 1, by omega, ?_⟩⟩
    obtain ⟨_, hwalk⟩ := (hsound.linked _ (List.mem_of_getElem? here) a).1
    rcases position_of_walkFront hwalk with hfailed | hposition
    · have hactive' : store.isActive w.inst.id = true := by
        rw [SagaDb.isActive_of_get? hcur, hactive]
      exact (not_failed hok (fun _ h => by cases h) rfl hactive' hfailed).elim
    · exact hposition

/-- Every step an event was consumed for stays behind the instance. -/
theorem past_of_run (hP : Sound P) (h : Run keepsWalks P trace Q) {i : Nat} {w : Walk J}
    {row : SagaInboxRecord J} {a : Unit} {f : SagaFront J}
    (hmem : .served i (SagaRequest.markConsumed w row) a f ∈ trace) :
    Past Q w.inst.id w.cursor := by
  induction h with
  | nil => cases hmem
  | @snoc trace Q R l hrun hok hstep ih =>
    have hsound := sound_of_run hrun hP
    rcases List.mem_append.mp hmem with hmem | hmem
    · exact (ih hmem).step hsound hok hstep
    · obtain rfl := List.mem_singleton.mp hmem
      exact past_markConsumed hsound hok hstep

end DddBoilerplate.Saga
