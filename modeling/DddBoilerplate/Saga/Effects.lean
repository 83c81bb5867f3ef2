/- module: DddBoilerplate/Saga/Effects
   generality: I
   digest: What one served call can do to an instance, to a step row and to an inbox row. -/

import DddBoilerplate.Saga.Flow

set_option autoImplicit false
set_option relaxedAutoImplicit false
set_option linter.all false

open DddBoilerplate.Concurrency DddBoilerplate.Store

namespace DddBoilerplate.Saga

variable {J : Type} {E : Environment J} {db db' : SagaDb J}

abbrev SagaServes (E : Environment J) (q : SagaRequest J) (db : SagaDb J) (a : q.Answer)
    (db' : SagaDb J) : Prop :=
  (sagaSystem E).Serves q db a db'

def SagaRequest.isWrite : SagaRequest J → Bool
  | updateCas _ | createIfAbsent _ | tryInsertLive _ | claimBatch _ | releaseOverflow _
  | markDone _ _ | markSkipped _ _ _ _ | markFailed _ | reschedule _ _ _ _ | tryInsert _
  | markBuffered _ | markConsumed _ _ | purgeOlderThan _ | append _ _ => true
  | _ => false

theorem serves_read {q : SagaRequest J} {a : q.Answer} (hq : q.isWrite = false)
    (h : SagaServes E q db a db') : db' = db := by
  obtain ⟨choice, h⟩ := h
  change serve E q choice db = some (a, db') at h
  cases q with
  | findById c => exact (Prod.mk.inj (Option.some.inj h)).2.symm
  | findByInstance c => exact (Prod.mk.inj (Option.some.inj h)).2.symm
  | clock c =>
    cases choice with
    | time now =>
      exact (Prod.mk.inj (Option.some.inj h)).2.symm
    | _ => cases h
  | findLiveByKey sagaKey key =>
    cases choice with
    | order ids =>
      obtain ⟨_, _, h⟩ := Option.map_eq_some_iff.mp h
      exact (Prod.mk.inj h).2.symm
    | _ => cases h
  | findWaitingByEvent ref limit =>
    cases choice with
    | order ids =>
      obtain ⟨_, _, h⟩ := Option.map_eq_some_iff.mp h
      exact (Prod.mk.inj h).2.symm
    | _ => cases h
  | findExpiredWaits now limit => exact (Prod.mk.inj (Option.some.inj h)).2.symm
  | findStaleRunning now limit => exact (Prod.mk.inj (Option.some.inj h)).2.symm
  | listBuffered w wait ref => exact (Prod.mk.inj (Option.some.inj h)).2.symm
  | runAction held =>
    cases choice with
    | outcome result =>
      exact (Prod.mk.inj (Option.some.inj h)).2.symm
    | _ => cases h
  | findActiveByEvent name version => exact (Prod.mk.inj (Option.some.inj h)).2.symm
  | listActive => exact (Prod.mk.inj (Option.some.inj h)).2.symm
  | findActive tenantId companyId sagaKey => exact (Prod.mk.inj (Option.some.inj h)).2.symm
  | features companyId =>
    cases choice with
    | features keys =>
      exact (Prod.mk.inj (Option.some.inj h)).2.symm
    | _ => cases h
  | settings companyId =>
    cases choice with
    | settings values =>
      exact (Prod.mk.inj (Option.some.inj h)).2.symm
    | _ => cases h
  | _ => cases hq

section Answers

theorem serves_findById {c : FindCall J} {a : Option {inst : SagaInstanceRecord J // inst.id = c.id}}
    (h : SagaServes E (.findById c) db a db') : db.instances.lookup c.id = a ∧ db' = db := by
  obtain ⟨_, h⟩ := h
  have heq := Prod.mk.inj (Option.some.inj h)
  exact ⟨heq.1, heq.2.symm⟩

theorem serves_findByInstance {c : RowsCall J} {rows : List (SagaStepRecord J)}
    (h : SagaServes E (.findByInstance c) db rows db') :
    rows = SagaStepRepository.findByInstance db c.inst.id ∧ db' = db := by
  obtain ⟨_, h⟩ := h
  have heq := Prod.mk.inj (Option.some.inj h)
  exact ⟨heq.1.symm, heq.2.symm⟩

theorem serves_listBuffered {w : Walk J} {wait : w.step.kind = .wait} {ref : SagaEventRef}
    {rows : List (SagaInboxRecord J)} (h : SagaServes E (.listBuffered w wait ref) db rows db') :
    rows = SagaInboxRepository.listBuffered db w.inst.id ref 50 ∧ db' = db := by
  obtain ⟨_, h⟩ := h
  have heq := Prod.mk.inj (Option.some.inj h)
  exact ⟨heq.1.symm, heq.2.symm⟩

theorem serves_createIfAbsent {c : CreateCall J} {row : SagaStepRecord J}
    (h : SagaServes E (.createIfAbsent c) db row db') :
    SagaStepRepository.createIfAbsent db c.input = (row, db') := by
  obtain ⟨_, h⟩ := h
  exact Option.some.inj h

theorem serves_updateCas {c : CasCall J} {a : Option (SagaInstanceRecord J)}
    (h : SagaServes E (.updateCas c) db a db') :
    SagaInstanceRepository.updateCas E.conflict db c.inst.id c.inst.version c.patch =
      some (a, db') := by
  obtain ⟨_, h⟩ := h
  exact h

theorem serves_tryInsertLive {input : InsertInstanceInput J} {a : Option (SagaInstanceRecord J)}
    (h : SagaServes E (.tryInsertLive input) db a db') :
    ∃ id, db.instances.get? id = none ∧
      SagaInstanceRepository.tryInsertLive E.conflict db input id = (a, db') := by
  obtain ⟨choice, h⟩ := h
  change serve E (.tryInsertLive input) choice db = some (a, db') at h
  cases choice with
  | uuid id =>
    change (if (db.instances.get? id).isSome then none
      else some (SagaInstanceRepository.tryInsertLive E.conflict db input id)) = _ at h
    cases hid : db.instances.get? id with
    | some inst => simp [hid] at h
    | none =>
      rw [hid] at h
      exact ⟨id, hid, Option.some.inj h⟩
  | _ => cases h

theorem serves_claimBatch {input : ClaimStepsInput} {rows : List (SagaStepRecord J)}
    (h : SagaServes E (.claimBatch input) db rows db') :
    ∃ picked, SagaStepRepository.claimBatch db input picked = some (rows, db') := by
  obtain ⟨choice, h⟩ := h
  change serve E (.claimBatch input) choice db = some (rows, db') at h
  cases choice with
  | claim picked => exact ⟨picked, h⟩
  | _ => cases h

theorem serves_tryInsert {c : BufferCall J} {a : Option (SagaInboxRecord J)}
    (h : SagaServes E (.tryInsert c) db a db') :
    ∃ now, SagaInboxRepository.tryInsert db c.input now = (a, db') := by
  obtain ⟨choice, h⟩ := h
  change serve E (.tryInsert c) choice db = some (a, db') at h
  cases choice with
  | time now => exact ⟨now, Option.some.inj h⟩
  | _ => cases h

end Answers

section Instances

/-- The write went through: the version it was fenced on was still there. -/
def Applies (db : SagaDb J) (c : CasCall J) : Prop :=
  ∃ cur, db.instances.get? c.inst.id = some cur ∧ cur.version = c.inst.version

instance (db : SagaDb J) (c : CasCall J) : Decidable (Applies db c) :=
  match h : db.instances.get? c.inst.id with
  | some cur =>
    if hv : cur.version = c.inst.version then isTrue ⟨cur, h, hv⟩
    else isFalse fun ⟨_, hcur, hversion⟩ => hv (by rw [h] at hcur; rwa [Option.some.inj hcur])
  | none => isFalse fun ⟨_, hcur, _⟩ => by rw [h] at hcur; cases hcur

theorem serves_updateCas_some {c : CasCall J} {cur : SagaInstanceRecord J}
    {a : Option (SagaInstanceRecord J)} (h : SagaServes E (.updateCas c) db a db')
    (hcur : db.instances.get? c.inst.id = some cur) (hversion : cur.version = c.inst.version) :
    db' = SagaInstanceRepository.writeCas db c.inst.id c.inst.version c.patch := by
  have hcas := serves_updateCas h
  simp only [SagaInstanceRepository.updateCas, hcur, hversion, if_true] at hcas
  split at hcas
  · cases hcas
  · exact (Prod.mk.inj (Option.some.inj hcas)).2.symm

theorem serves_updateCas_lost {c : CasCall J} {a : Option (SagaInstanceRecord J)}
    (h : SagaServes E (.updateCas c) db a db') (hlost : ¬ Applies db c) : db' = db ∧ a = none := by
  have hcas := serves_updateCas h
  unfold SagaInstanceRepository.updateCas at hcas
  split at hcas
  · rename_i cur hcur
    have hversion : cur.version ≠ c.inst.version := fun hv => hlost ⟨cur, hcur, hv⟩
    rw [if_neg hversion] at hcas
    have heq := Prod.mk.inj (Option.some.inj hcas)
    exact ⟨heq.2.symm, heq.1.symm⟩
  · have heq := Prod.mk.inj (Option.some.inj hcas)
    exact ⟨heq.2.symm, heq.1.symm⟩

theorem written_of_applies {c : CasCall J} {cur : SagaInstanceRecord J}
    {a : Option (SagaInstanceRecord J)} (h : SagaServes E (.updateCas c) db a db')
    (hcur : db.instances.get? c.inst.id = some cur) (hversion : cur.version = c.inst.version) :
    db'.instances.get? c.inst.id = some (c.patch.apply cur) := by
  have hget : db'.instances.get? c.inst.id = (db.instances.get? c.inst.id).map
      (SagaInstanceRepository.casRow c.inst.id c.inst.version c.patch) := by
    rw [serves_updateCas_some h hcur hversion]
    exact Table.get?_update (SagaInstanceRepository.casRow_id _ _ _) _
  rw [hget, hcur, Option.map_some, SagaInstanceRepository.casRow,
    if_pos ⟨Table.key_of_get? hcur, hversion⟩]

/-- What one served call can do to an instance. -/
inductive InstanceStep (q : SagaRequest J) (db db' : SagaDb J) (id : String) : Prop where
  | unchanged (same : db'.instances.get? id = db.instances.get? id)
  | written (c : CasCall J) (cur : SagaInstanceRecord J) (call : q = .updateCas c)
      (target : c.inst.id = id) (before : db.instances.get? id = some cur)
      (fenced : cur.version = c.inst.version)
      (after : db'.instances.get? id = some (c.patch.apply cur))
  | inserted (input : InsertInstanceInput J) (call : q = .tryInsertLive input)
      (before : db.instances.get? id = none)
      (after : db'.instances.get? id = some (input.row id))

theorem instances_updateCas {c : CasCall J} {a : Option (SagaInstanceRecord J)}
    (h : SagaServes E (.updateCas c) db a db') (id : String) :
    InstanceStep (.updateCas c) db db' id := by
  by_cases happlies : Applies db c
  · obtain ⟨cur, hcur, hversion⟩ := happlies
    have hdb := serves_updateCas_some h hcur hversion
    have hget : db'.instances.get? id = (db.instances.get? id).map
        (SagaInstanceRepository.casRow c.inst.id c.inst.version c.patch) := by
      rw [hdb]
      exact Table.get?_update (SagaInstanceRepository.casRow_id _ _ _) id
    by_cases hid : c.inst.id = id
    · subst hid
      exact .written c cur rfl rfl hcur hversion (written_of_applies h hcur hversion)
    · refine .unchanged ?_
      rw [hget]
      cases hother : db.instances.get? id with
      | none => rfl
      | some other =>
        have hkey : other.id = id := Table.key_of_get? hother
        rw [Option.map_some, SagaInstanceRepository.casRow, if_neg]
        rintro ⟨heq, _⟩
        exact hid (heq.symm.trans hkey)
  · exact .unchanged (by rw [(serves_updateCas_lost h happlies).1])

theorem instances_tryInsertLive {input : InsertInstanceInput J}
    {a : Option (SagaInstanceRecord J)} (h : SagaServes E (.tryInsertLive input) db a db')
    (id : String) : InstanceStep (.tryInsertLive input) db db' id := by
  obtain ⟨new, hnew, hinsert⟩ := serves_tryInsertLive h
  simp only [SagaInstanceRepository.tryInsertLive] at hinsert
  split at hinsert
  · exact .unchanged (by rw [(Prod.mk.inj hinsert).2])
  · have hdb := (Prod.mk.inj hinsert).2
    have hnew' : db.instances.get? (input.row new).id = none := hnew
    have hget := Table.get?_insert hnew' id
    by_cases hid : new = id
    · subst hid
      refine .inserted input rfl hnew ?_
      rw [← hdb, hget]
      exact if_pos rfl
    · refine .unchanged ?_
      rw [← hdb, hget]
      exact if_neg hid

theorem instances_after {q : SagaRequest J} {a : q.Answer} (h : SagaServes E q db a db')
    (id : String) : InstanceStep q db db' id := by
  cases q with
  | updateCas c => exact instances_updateCas h id
  | tryInsertLive input => exact instances_tryInsertLive h id
  | createIfAbsent c =>
    have hcreate := serves_createIfAbsent h
    unfold SagaStepRepository.createIfAbsent at hcreate
    split at hcreate <;> exact .unchanged (by rw [← (Prod.mk.inj hcreate).2])
  | claimBatch input =>
    obtain ⟨picked, hclaim⟩ := serves_claimBatch h
    unfold SagaStepRepository.claimBatch at hclaim
    split at hclaim
    · exact .unchanged (by rw [← (Prod.mk.inj (Option.some.inj hclaim)).2])
    · cases hclaim
  | tryInsert c =>
    obtain ⟨now, hinsert⟩ := serves_tryInsert h
    unfold SagaInboxRepository.tryInsert at hinsert
    dsimp only at hinsert
    split at hinsert <;> exact .unchanged (by rw [← (Prod.mk.inj hinsert).2])
  | releaseOverflow overflow => obtain ⟨_, h⟩ := h; cases h; exact .unchanged rfl
  | markDone held output => obtain ⟨_, h⟩ := h; cases h; exact .unchanged rfl
  | markSkipped row inst same ended => obtain ⟨_, h⟩ := h; cases h; exact .unchanged rfl
  | markFailed c => obtain ⟨_, h⟩ := h; cases h; exact .unchanged rfl
  | reschedule row attempt runAt error => obtain ⟨_, h⟩ := h; cases h; exact .unchanged rfl
  | markBuffered c => obtain ⟨_, h⟩ := h; cases h; exact .unchanged rfl
  | markConsumed w row => obtain ⟨_, h⟩ := h; cases h; exact .unchanged rfl
  | purgeOlderThan cutoff => obtain ⟨_, h⟩ := h; cases h; exact .unchanged rfl
  | append inst event => obtain ⟨_, h⟩ := h; cases h; exact .unchanged rfl
  | _ => exact .unchanged (by rw [serves_read rfl h])

end Instances

section Steps

open SagaStepRepository

/-- What a served call other than an insertion can make of a step row. -/
inductive RowChange : SagaRequest J → SagaStepRecord J → SagaStepRecord J → Prop where
  | claimed (input : ClaimStepsInput) (row : SagaStepRecord J)
      (claimable : claimable input.now row = true) :
      RowChange (.claimBatch input) row
        { row with
          status := .running, lockedBy := some input.workerId,
          lockUntil := some (input.now + input.leaseMs) }
  | released (overflow : List (SagaStepRecord J)) (row : SagaStepRecord J)
      (mem : row.id ∈ overflow.map (·.id)) :
      RowChange (.releaseOverflow overflow) row
        { row with status := .pending, lockedBy := none, lockUntil := none }
  | done (held : Held J) (output : Option (Fields J)) (row : SagaStepRecord J)
      (target : row.id = held.row.id) (running : row.status = .running) :
      RowChange (.markDone held output) row
        (SagaStepPatch.apply { status := .done, output := output } row)
  | skipped (held : SagaStepRecord J) (inst : SagaInstanceRecord J)
      (same : inst.id = held.instanceId) (ended : inst.status.isTerminal = true)
      (row : SagaStepRecord J) (target : row.id = held.id)
      (open_ : row.status = .pending ∨ row.status = .running) :
      RowChange (.markSkipped held inst same ended) row
        (SagaStepPatch.apply { status := .skipped } row)
  | failed (c : FailCall J) (row : SagaStepRecord J) (target : row.id = c.row.id)
      (running : row.status = .running) :
      RowChange (.markFailed c) row
        (SagaStepPatch.apply { status := .failed, error := some (some c.error) } row)
  | rescheduled (held : SagaStepRecord J) (attempt runAt : Nat) (error : Option String)
      (row : SagaStepRecord J) (target : row.id = held.id) :
      RowChange (.reschedule held attempt runAt error) row
        (SagaStepPatch.apply
          { status := .pending, attempt := some attempt, runAt := some runAt, error := some error }
          row)

/-- What one served call can do to a step row. -/
inductive StepRowStep (q : SagaRequest J) (db db' : SagaDb J) (k : SagaStepKey) : Prop where
  | unchanged (same : db'.steps.get? k = db.steps.get? k)
  | changed (row row' : SagaStepRecord J) (before : db.steps.get? k = some row)
      (after : db'.steps.get? k = some row') (change : RowChange q row row')
  | inserted (c : CreateCall J) (call : q = .createIfAbsent c) (key : c.input.row.id = k)
      (before : db.steps.get? k = none) (after : db'.steps.get? k = some c.input.row)

theorem steps_update {q : SagaRequest J} {f : SagaStepRecord J → SagaStepRecord J}
    {hf : ∀ row, (f row).id = row.id} (hsteps : db'.steps = db.steps.update f hf)
    (hchange : ∀ row, f row = row ∨ RowChange q row (f row)) (k : SagaStepKey) :
    StepRowStep q db db' k := by
  have hget : db'.steps.get? k = (db.steps.get? k).map f := by
    rw [hsteps]
    exact Table.get?_update hf k
  cases hrow : db.steps.get? k with
  | none => exact .unchanged (by rw [hget, hrow]; rfl)
  | some row =>
    rw [hrow, Option.map_some] at hget
    rcases hchange row with hsame | hrow'
    · exact .unchanged (by rw [hget, hsame, hrow])
    · exact .changed row (f row) hrow hget hrow'

theorem settleRow_cases (id : SagaStepKey) (guard : SagaStepStatus → Bool)
    (patch : SagaStepPatch J) (row : SagaStepRecord J) :
    settleRow id guard patch row = row ∨
      (row.id = id ∧ guard row.status = true ∧ settleRow id guard patch row = patch.apply row) := by
  unfold settleRow
  split
  · rename_i h
    exact .inr ⟨h.1, h.2, rfl⟩
  · exact .inl rfl

/-- One settling write, given what its guard and its row make of the call. -/
theorem steps_settle {q : SagaRequest J} {id : SagaStepKey} {guard : SagaStepStatus → Bool}
    {patch : SagaStepPatch J} (hdb : db' = settle db id guard patch)
    (hchange : ∀ row : SagaStepRecord J, row.id = id → guard row.status = true →
      RowChange q row (patch.apply row)) (k : SagaStepKey) : StepRowStep q db db' k := by
  have hsteps : db'.steps = db.steps.update (settleRow id guard patch)
      (settleRow_id id guard patch) := by rw [hdb]; rfl
  refine steps_update hsteps (fun row => ?_) k
  rcases settleRow_cases id guard patch row with hsame | ⟨hid, hguard, happly⟩
  · exact .inl hsame
  · rw [happly]
    exact .inr (hchange row hid hguard)

theorem steps_claimBatch {input : ClaimStepsInput} {rows : List (SagaStepRecord J)}
    (h : SagaServes E (.claimBatch input) db rows db') (k : SagaStepKey) :
    StepRowStep (.claimBatch input) db db' k := by
  obtain ⟨picked, hclaim⟩ := serves_claimBatch h
  unfold claimBatch at hclaim
  split at hclaim
  · rename_i hpicked
    have hdb := (Prod.mk.inj (Option.some.inj hclaim)).2
    have hget : db'.steps.get? k = (db.steps.get? k).map (claimRow input picked) := by
      rw [← hdb]
      exact Table.get?_update (claimRow_id input picked) k
    cases hrow : db.steps.get? k with
    | none => exact .unchanged (by rw [hget, hrow]; rfl)
    | some row =>
      rw [hrow, Option.map_some] at hget
      have hkey : row.id = k := Table.key_of_get? hrow
      by_cases hmem : row.id ∈ picked
      · obtain ⟨row', hrow', hid, hclaimable⟩ := hpicked.2.2 _ hmem
        have heq : row' = row := by
          have hget' := Table.get?_of_mem hrow'
          rw [hid, hkey, hrow] at hget'
          exact (Option.some.inj hget').symm
        rw [claimRow, if_pos hmem] at hget
        exact .changed row _ hrow hget (.claimed input row (heq ▸ hclaimable))
      · rw [claimRow, if_neg hmem] at hget
        exact .unchanged (by rw [hget, hrow])
  · cases hclaim

theorem steps_createIfAbsent {c : CreateCall J} {row : SagaStepRecord J}
    (h : SagaServes E (.createIfAbsent c) db row db') (k : SagaStepKey) :
    StepRowStep (.createIfAbsent c) db db' k := by
  have hcreate := serves_createIfAbsent h
  unfold createIfAbsent at hcreate
  split at hcreate
  · exact .unchanged (by rw [← (Prod.mk.inj hcreate).2])
  · rename_i hnone
    have hdb := (Prod.mk.inj hcreate).2
    have hget := Table.get?_insert hnone k
    by_cases hk : c.input.row.id = k
    · refine .inserted c rfl hk (hk ▸ hnone) ?_
      rw [← hdb, hget, if_pos hk]
    · refine .unchanged ?_
      rw [← hdb, hget, if_neg hk]

theorem steps_after {q : SagaRequest J} {a : q.Answer} (h : SagaServes E q db a db')
    (k : SagaStepKey) : StepRowStep q db db' k := by
  cases q with
  | createIfAbsent c => exact steps_createIfAbsent h k
  | claimBatch input => exact steps_claimBatch h k
  | releaseOverflow overflow =>
    obtain ⟨_, h⟩ := h
    cases h
    have hsteps : (releaseOverflow db overflow).steps =
        db.steps.update (releaseRow (overflow.map (·.id))) (releaseRow_id _) := rfl
    refine steps_update hsteps (fun row => ?_) k
    by_cases hmem : row.id ∈ overflow.map (·.id)
    · rw [releaseRow, if_pos hmem]
      exact .inr (.released overflow row hmem)
    · exact .inl (if_neg hmem)
  | markDone held output =>
    obtain ⟨_, h⟩ := h
    cases h
    exact steps_settle rfl (fun row hid hg => .done held output row hid (by simpa using hg)) k
  | markSkipped row inst same ended =>
    obtain ⟨_, h⟩ := h
    cases h
    exact steps_settle rfl
      (fun r hid hg => .skipped row inst same ended r hid (by simpa using hg)) k
  | markFailed c =>
    obtain ⟨_, h⟩ := h
    cases h
    exact steps_settle rfl (fun row hid hg => .failed c row hid (by simpa using hg)) k
  | reschedule row attempt runAt error =>
    obtain ⟨_, h⟩ := h
    cases h
    exact steps_settle rfl (fun r hid _ => .rescheduled row attempt runAt error r hid) k
  | updateCas c =>
    refine .unchanged ?_
    by_cases happlies : Applies db c
    · obtain ⟨cur, hcur, hversion⟩ := happlies
      rw [serves_updateCas_some h hcur hversion]
      rfl
    · rw [(serves_updateCas_lost h happlies).1]
  | tryInsertLive input =>
    obtain ⟨id, _, hinsert⟩ := serves_tryInsertLive h
    simp only [SagaInstanceRepository.tryInsertLive] at hinsert
    split at hinsert <;> exact .unchanged (by rw [← (Prod.mk.inj hinsert).2])
  | tryInsert c =>
    obtain ⟨now, hinsert⟩ := serves_tryInsert h
    unfold SagaInboxRepository.tryInsert at hinsert
    dsimp only at hinsert
    split at hinsert <;> exact .unchanged (by rw [← (Prod.mk.inj hinsert).2])
  | markBuffered c => obtain ⟨_, h⟩ := h; cases h; exact .unchanged rfl
  | markConsumed w row => obtain ⟨_, h⟩ := h; cases h; exact .unchanged rfl
  | purgeOlderThan cutoff => obtain ⟨_, h⟩ := h; cases h; exact .unchanged rfl
  | append inst event => obtain ⟨_, h⟩ := h; cases h; exact .unchanged rfl
  | _ => exact .unchanged (by rw [serves_read rfl h])

end Steps

section Inbox

open SagaInboxRepository

/-- What one served call can do to an inbox row. -/
inductive InboxStep (q : SagaRequest J) (db db' : SagaDb J) (k : SagaInboxKey) : Prop where
  | unchanged (same : db'.inbox.get? k = db.inbox.get? k)
  | inserted (c : BufferCall J) (now : Nat) (call : q = .tryInsert c) (key : c.key = k)
      (before : db.inbox.get? k = none) (after : db'.inbox.get? k = some (c.input.row now))
  | buffered (c : BufferCall J) (row : SagaInboxRecord J) (call : q = .markBuffered c)
      (key : c.key = k) (before : db.inbox.get? k = some row)
      (after : db'.inbox.get? k = some { row with status := .buffered })
  | consumed (w : Walk J) (event row : SagaInboxRecord J) (call : q = .markConsumed w event)
      (key : event.id = k) (before : db.inbox.get? k = some row)
      (after : db'.inbox.get? k = some { row with status := .consumed })
  | purged (cutoff : Nat) (call : q = .purgeOlderThan cutoff) (after : db'.inbox.get? k = none)

theorem inbox_mark (db : SagaDb J) (id k : SagaInboxKey) (status : SagaInboxStatus) :
    (mark db id status).inbox.get? k = db.inbox.get? k ∨
      ∃ row, id = k ∧ db.inbox.get? k = some row ∧
        (mark db id status).inbox.get? k = some { row with status := status } := by
  have hget : (mark db id status).inbox.get? k = (db.inbox.get? k).map (markRow id status) :=
    Table.get?_update (markRow_id id status) k
  cases hrow : db.inbox.get? k with
  | none => exact .inl (by rw [hget, hrow]; rfl)
  | some row =>
    rw [hrow, Option.map_some] at hget
    have hkey : row.id = k := Table.key_of_get? hrow
    by_cases hid : row.id = id
    · rw [markRow, if_pos hid] at hget
      exact .inr ⟨row, hid.symm.trans hkey, rfl, hget⟩
    · rw [markRow, if_neg hid] at hget
      exact .inl hget

theorem inbox_after {q : SagaRequest J} {a : q.Answer} (h : SagaServes E q db a db')
    (k : SagaInboxKey) : InboxStep q db db' k := by
  cases q with
  | tryInsert c =>
    obtain ⟨now, hinsert⟩ := serves_tryInsert h
    unfold SagaInboxRepository.tryInsert at hinsert
    dsimp only at hinsert
    split at hinsert
    · exact .unchanged (by rw [← (Prod.mk.inj hinsert).2])
    · rename_i hnone
      have hdb := (Prod.mk.inj hinsert).2
      have hget := Table.get?_insert hnone k
      by_cases hk : c.key = k
      · refine .inserted c now rfl hk (hk ▸ hnone) ?_
        rw [← hdb, hget]
        exact if_pos hk
      · refine .unchanged ?_
        rw [← hdb, hget]
        exact if_neg hk
  | markBuffered c =>
    obtain ⟨_, h⟩ := h
    cases h
    rcases inbox_mark db c.key k .buffered with h | ⟨row, hk, hb, ha⟩
    · exact .unchanged h
    · exact .buffered c row rfl hk hb ha
  | markConsumed w row =>
    obtain ⟨_, h⟩ := h
    cases h
    rcases inbox_mark db row.id k .consumed with h | ⟨r, hk, hb, ha⟩
    · exact .unchanged h
    · exact .consumed w row r rfl hk hb ha
  | purgeOlderThan cutoff =>
    obtain ⟨_, h⟩ := h
    cases h
    cases hget : (purgeOlderThan db cutoff).inbox.get? k with
    | none => exact .purged cutoff rfl hget
    | some row => exact .unchanged (by rw [hget, (Table.get?_filter.mp hget).1])
  | updateCas c =>
    refine .unchanged ?_
    by_cases happlies : Applies db c
    · obtain ⟨cur, hcur, hversion⟩ := happlies
      rw [serves_updateCas_some h hcur hversion]
      rfl
    · rw [(serves_updateCas_lost h happlies).1]
  | tryInsertLive input =>
    obtain ⟨id, _, hinsert⟩ := serves_tryInsertLive h
    simp only [SagaInstanceRepository.tryInsertLive] at hinsert
    split at hinsert <;> exact .unchanged (by rw [← (Prod.mk.inj hinsert).2])
  | createIfAbsent c =>
    have hcreate := serves_createIfAbsent h
    unfold SagaStepRepository.createIfAbsent at hcreate
    split at hcreate <;> exact .unchanged (by rw [← (Prod.mk.inj hcreate).2])
  | claimBatch input =>
    obtain ⟨picked, hclaim⟩ := serves_claimBatch h
    unfold SagaStepRepository.claimBatch at hclaim
    split at hclaim
    · exact .unchanged (by rw [← (Prod.mk.inj (Option.some.inj hclaim)).2])
    · cases hclaim
  | releaseOverflow overflow => obtain ⟨_, h⟩ := h; cases h; exact .unchanged rfl
  | markDone held output => obtain ⟨_, h⟩ := h; cases h; exact .unchanged rfl
  | markSkipped row inst same ended => obtain ⟨_, h⟩ := h; cases h; exact .unchanged rfl
  | markFailed c => obtain ⟨_, h⟩ := h; cases h; exact .unchanged rfl
  | reschedule row attempt runAt error => obtain ⟨_, h⟩ := h; cases h; exact .unchanged rfl
  | append inst event => obtain ⟨_, h⟩ := h; cases h; exact .unchanged rfl
  | _ => exact .unchanged (by rw [serves_read rfl h])

end Inbox

end DddBoilerplate.Saga
