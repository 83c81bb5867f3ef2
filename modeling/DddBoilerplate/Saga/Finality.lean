/- module: DddBoilerplate/Saga/Finality
   generality: I
   digest: A settled step row stays settled, and a lease is only given up by its holder or once it has expired. -/

import DddBoilerplate.Saga.Claimed
import DddBoilerplate.Saga.Scenario
import DddBoilerplate.Saga.Undo

set_option autoImplicit false
set_option relaxedAutoImplicit false
set_option linter.all false

open DddBoilerplate.Concurrency DddBoilerplate.Store

namespace DddBoilerplate.Saga

variable {J : Type} {E : Environment J} {db db' : SagaDb J}

section Lease

/-- Who holds the row, and until when. -/
def SagaStepRecord.lease (row : SagaStepRecord J) : Option String × Option Nat :=
  (row.lockedBy, row.lockUntil)

def SagaStepStatus.isSettled : SagaStepStatus → Bool
  | done | failed | skipped => true
  | pending | running => false

/-- The stored row is RUNNING under the lease of the row in hand. -/
def SagaStepRecord.HeldAs (row held : SagaStepRecord J) : Prop :=
  row.status = .running ∧ row.lease = held.lease

instance (row held : SagaStepRecord J) : Decidable (row.HeldAs held) :=
  inferInstanceAs (Decidable (_ ∧ _))

/-- The rows in hand of a call that settles rows or gives them back. -/
def SagaRequest.settles : SagaRequest J → List (SagaStepRecord J)
  | .markDone held _ => [held.row]
  | .markSkipped row _ _ _ | .reschedule row _ _ _ => [row]
  | .markFailed c => [c.row]
  | .releaseOverflow overflow => overflow
  | _ => []

/-- The statuses such a call writes over. -/
def SagaRequest.overwrites : SagaRequest J → SagaStepStatus → Bool
  | .markDone _ _, s | .markFailed _, s => s = .running
  | .markSkipped _ _ _ _, s => s = .pending || s = .running
  | .reschedule _ _ _ _, _ | .releaseOverflow _, _ => true
  | _, _ => false

/-- A row whose status the call writes over is still RUNNING under the lease in hand. -/
def MeetsLease (db : SagaDb J) (q : SagaRequest J) : Prop :=
  ∀ held ∈ q.settles, ∀ row ∈ db.steps.get? held.id,
    q.overwrites row.status = true → row.HeldAs held

instance (db : SagaDb J) (q : SagaRequest J) : Decidable (MeetsLease db q) :=
  inferInstanceAs (Decidable (∀ held ∈ q.settles, _))

/-- A stored row changes by being claimed, or by a call that has it in hand. -/
theorem RowChange.cases_of {q : SagaRequest J} {row row' : SagaStepRecord J}
    (h : RowChange q row row') :
    (row.status = .pending ∧ ∃ input, q = .claimBatch input) ∨
      ∃ held ∈ q.settles, held.id = row.id ∧ q.overwrites row.status = true := by
  cases h with
  | claimed input row claimable =>
    left
    simp only [SagaStepRepository.claimable, Bool.and_eq_true, decide_eq_true_eq] at claimable
    exact ⟨claimable.1.1.1, input, rfl⟩
  | released overflow row mem =>
    obtain ⟨held, hheld, hid⟩ := List.mem_map.mp mem
    exact .inr ⟨held, hheld, hid, rfl⟩
  | done held output row target running =>
    exact .inr ⟨held.row, List.mem_singleton_self _, target.symm, decide_eq_true running⟩
  | skipped held inst same ended row target open_ =>
    refine .inr ⟨held, List.mem_singleton_self _, target.symm, ?_⟩
    simpa [SagaRequest.overwrites] using open_
  | failed c row target running =>
    exact .inr ⟨c.row, List.mem_singleton_self _, target.symm, decide_eq_true running⟩
  | rescheduled held attempt runAt error row target =>
    exact .inr ⟨held, List.mem_singleton_self _, target.symm, rfl⟩

/-- Under the condition only PENDING rows and rows still held change. -/
theorem MeetsLease.changes {q : SagaRequest J} (hq : MeetsLease db q) {k : SagaStepKey}
    {row row' : SagaStepRecord J} (hrow : db.steps.get? k = some row) (h : RowChange q row row') :
    (row.status = .pending ∧ ∃ input, q = .claimBatch input) ∨
      ∃ held ∈ q.settles, held.id = k ∧ row.HeldAs held := by
  have hkey : row.id = k := Table.key_of_get? hrow
  rcases h.cases_of with hclaimed | ⟨held, hheld, hid, hover⟩
  · exact .inl hclaimed
  · right
    have hget : db.steps.get? held.id = some row := by rw [hid, hkey, hrow]
    exact ⟨held, hheld, hid.trans hkey, hq held hheld row hget hover⟩

/-- Only a call that gives rows back makes one PENDING, and it has those in hand. -/
theorem RowChange.taken {q : SagaRequest J} {row row' : SagaStepRecord J} (h : RowChange q row row')
    (hpending : row'.status = .pending) {known : InHand J} (htakes : TakesUp known q) :
    ∀ held ∈ q.settles, known.claimed held ∨ known.stale held := by
  intro held hheld
  cases h with
  | released overflow row mem => exact .inl (htakes held hheld)
  | rescheduled held' attempt runAt error row target =>
    rw [List.mem_singleton.mp hheld]
    exact htakes
  | _ => cases hpending

theorem settled_after {q : SagaRequest J} {a : q.Answer} (h : SagaServes E q db a db')
    (hq : MeetsLease db q) {k : SagaStepKey} {row : SagaStepRecord J}
    (hrow : db.steps.get? k = some row) (hsettled : row.status.isSettled = true) :
    db'.steps.get? k = some row := by
  cases steps_after h k with
  | unchanged same => rw [same, hrow]
  | inserted c call key before after =>
    rw [hrow] at before
    cases before
  | changed old new before after change =>
    obtain rfl : row = old := Option.some.inj (hrow.symm.trans before)
    rcases hq.changes before change with ⟨hpending, _⟩ | ⟨held, _, _, hrunning, _⟩
    · rw [hpending] at hsettled
      cases hsettled
    · rw [hrunning] at hsettled
      cases hsettled

theorem settle_eq_self {id : SagaStepKey} {guard : SagaStepStatus → Bool}
    {patch : SagaStepRepository.SagaStepPatch J}
    (h : ∀ row ∈ db.steps.get? id, guard row.status = false) :
    SagaStepRepository.settle db id guard patch = db := by
  have hrows (row : SagaStepRecord J) (hrow : row ∈ db.steps.rows) :
      SagaStepRepository.settleRow id guard patch row = row := by
    refine if_neg fun ⟨hid, hguard⟩ => ?_
    rw [h row (hid ▸ Table.get?_of_mem hrow)] at hguard
    cases hguard
  unfold SagaStepRepository.settle
  rw [Table.update_eq_self hrows]

/-- The call has rows in hand, and none of them is stored under the lease in hand. -/
def LostLease (db : SagaDb J) (q : SagaRequest J) : Prop :=
  q.settles ≠ [] ∧ ∀ held ∈ q.settles, ∀ row ∈ db.steps.get? held.id, ¬ row.HeldAs held

theorem unchanged_of_lost {q : SagaRequest J} {a : q.Answer} (h : SagaServes E q db a db')
    (hq : MeetsLease db q) (hlost : LostLease db q) : db' = db := by
  have hturned (held : SagaStepRecord J) (hheld : held ∈ q.settles) (row : SagaStepRecord J)
      (hrow : row ∈ db.steps.get? held.id) : q.overwrites row.status = false :=
    Bool.eq_false_iff.mpr fun hover => hlost.2 held hheld row hrow (hq held hheld row hrow hover)
  cases q with
  | markDone held output =>
    obtain ⟨_, h⟩ := h
    cases h
    exact settle_eq_self (hturned held.row (List.mem_singleton_self _))
  | markSkipped row inst same ended =>
    obtain ⟨_, h⟩ := h
    cases h
    exact settle_eq_self (hturned row (List.mem_singleton_self _))
  | markFailed c =>
    obtain ⟨_, h⟩ := h
    cases h
    exact settle_eq_self (hturned c.row (List.mem_singleton_self _))
  | reschedule row attempt runAt error =>
    obtain ⟨_, h⟩ := h
    cases h
    exact settle_eq_self (hturned row (List.mem_singleton_self _))
  | releaseOverflow overflow =>
    obtain ⟨_, h⟩ := h
    cases h
    have hrows (row : SagaStepRecord J) (hrow : row ∈ db.steps.rows) :
        SagaStepRepository.releaseRow (overflow.map (·.id)) row = row := by
      refine if_neg fun hmem => ?_
      obtain ⟨held, hheld, hid⟩ := List.mem_map.mp hmem
      cases hturned held hheld row (hid ▸ Table.get?_of_mem hrow)
    unfold SagaStepRepository.releaseOverflow
    simp only [Table.update_eq_self hrows]
  | _ => exact (hlost.1 rfl).elim

/-- A claimed row is RUNNING, and the worker that claimed it has the lease. -/
theorem leased_of_claimBatch {input : ClaimStepsInput} {rows : List (SagaStepRecord J)}
    (h : SagaServes E (.claimBatch input) db rows db') {row : SagaStepRecord J}
    (hrow : row ∈ rows) : row.lockedBy = some input.workerId := by
  obtain ⟨picked, hclaim⟩ := serves_claimBatch h
  unfold SagaStepRepository.claimBatch at hclaim
  split at hclaim
  · obtain ⟨hrows, _⟩ := Prod.mk.inj (Option.some.inj hclaim)
    rw [← hrows] at hrow
    obtain ⟨k, hk, hget⟩ := List.mem_filterMap.mp hrow
    rw [Table.get?_update (SagaStepRepository.claimRow_id input picked)] at hget
    obtain ⟨old, hold, rfl⟩ := Option.map_eq_some_iff.mp hget
    have hmem : old.id ∈ picked := Table.key_of_get? hold ▸ hk
    rw [SagaStepRepository.claimRow, if_pos hmem]
  · cases hclaim

/-- A row read as stale has a lease that was over at the instant it was read for. -/
theorem expired_of_findStaleRunning {now limit : Nat} {rows : List (SagaStepRecord J)}
    (h : SagaServes E (.findStaleRunning now limit) db rows db') {row : SagaStepRecord J}
    (hrow : row ∈ rows) : ∃ t ∈ row.lockUntil, t < now := by
  obtain ⟨_, h⟩ := h
  obtain ⟨hrows, _⟩ := Prod.mk.inj (Option.some.inj h)
  rw [← hrows] at hrow
  have hmem := List.mem_of_mem_take hrow
  rw [List.mem_insertionSort, List.mem_filter, decide_eq_true_eq] at hmem
  exact hmem.2.2

end Lease

section Provenance

/-- The thread claimed the row. -/
def ClaimedBy (trace : List (Label (sagaSystem E))) (i : Nat) (row : SagaStepRecord J) : Prop :=
  ∃ input rows f, .served i (SagaRequest.claimBatch input) rows f ∈ trace ∧ row ∈ rows

/-- The thread read the row among the stale ones. -/
def ReadStale (trace : List (Label (sagaSystem E))) (i : Nat) (row : SagaStepRecord J) : Prop :=
  ∃ now limit rows f, .served i (SagaRequest.findStaleRunning now limit) rows f ∈ trace ∧
    row ∈ rows

variable {ok : SagaPool E → Label (sagaSystem E) → Prop} {P Q R : SagaPool E}
variable {trace : List (Label (sagaSystem E))} {l : Label (sagaSystem E)}

theorem ClaimedBy.snoc {i : Nat} {row : SagaStepRecord J} (h : ClaimedBy trace i row) :
    ClaimedBy (trace ++ [l]) i row := by
  obtain ⟨input, rows, f, hmem, hrow⟩ := h
  exact ⟨input, rows, f, List.mem_append_left _ hmem, hrow⟩

theorem ReadStale.snoc {i : Nat} {row : SagaStepRecord J} (h : ReadStale trace i row) :
    ReadStale (trace ++ [l]) i row := by
  obtain ⟨now, limit, rows, f, hmem, hrow⟩ := h
  exact ⟨now, limit, rows, f, List.mem_append_left _ hmem, hrow⟩

/-- What every thread works on was handed to it in the trace. -/
def Handed (trace : List (Label (sagaSystem E))) (Q : SagaPool E) : Prop :=
  ∀ (i : Nat) (p : SagaProgram J Unit), Q.threads[i]? = some p → ∀ known : InHand J,
    (∀ row, ClaimedBy trace i row → known.claimed row) →
    (∀ row, ReadStale trace i row → known.stale row) → KeepsTo known p

theorem Handed.step (hQ : Handed trace Q) (hstep : Step (sagaSystem E) Q l R) :
    Handed (trace ++ [l]) R := by
  intro i p hp known hclaimed hstale
  have hclaimed' (row : SagaStepRecord J) (h : ClaimedBy trace i row) : known.claimed row :=
    hclaimed row h.snoc
  have hstale' (row : SagaStepRecord J) (h : ReadStale trace i row) : known.stale row :=
    hstale row h.snoc
  cases hstep with
  | start store threads entry =>
    by_cases hi : i < threads.length
    · rw [List.getElem?_append_left hi] at hp
      exact hQ i p hp known hclaimed' hstale'
    · rw [List.getElem?_append_right (by omega)] at hp
      obtain rfl := List.mem_singleton.mp (List.mem_of_getElem? hp)
      exact program_keeps entry
  | @served store store' threads j q next a here answered =>
    by_cases hij : j = i
    · subst hij
      have hlt := (List.getElem?_eq_some_iff.mp here).1
      rw [List.getElem?_set_self hlt] at hp
      obtain rfl := Option.some.inj hp
      refine (hQ j _ here known hclaimed' hstale').2 a ?_
      have hlast : Label.served j q a (next a).front ∈
          trace ++ [Label.served j q a (next a).front] := List.mem_append_right _ (.head _)
      cases q with
      | claimBatch input => exact fun row hrow => hclaimed row ⟨input, a, _, hlast, hrow⟩
      | findStaleRunning now limit =>
        exact fun row hrow => hstale row ⟨now, limit, a, _, hlast, hrow⟩
      | _ => trivial
    · rw [List.getElem?_set_ne hij] at hp
      exact hQ i p hp known hclaimed' hstale'
  | @raised store threads j q next here error =>
    by_cases hij : j = i
    · subst hij
      have hlt := (List.getElem?_eq_some_iff.mp here).1
      rw [List.getElem?_set_self hlt] at hp
      obtain rfl := Option.some.inj hp
      trivial
    · rw [List.getElem?_set_ne hij] at hp
      exact hQ i p hp known hclaimed' hstale'

theorem handed_of_run (hrun : Run ok P trace Q) (hP : P.threads = []) : Handed trace Q := by
  induction hrun with
  | nil =>
    intro i p hp
    rw [hP] at hp
    cases hp
  | snoc _ _ hstep ih => exact ih.step hstep

/-- Every settling call and every sweep is served in time, or is turned away by its guard. -/
def settlesInTime (P : SagaPool E) (_ : Nat) (q : SagaRequest J) : Prop := MeetsLease P.store q

instance (P : SagaPool E) (i : Nat) (q : SagaRequest J) : Decidable (settlesInTime P i q) :=
  inferInstanceAs (Decidable (MeetsLease P.store q))

/-- The thread claimed the row under the lease it has, or read it with that lease over. -/
def MayGiveBack (trace : List (Label (sagaSystem E))) (i : Nat) (row : SagaStepRecord J) : Prop :=
  (∃ input rows f, .served i (SagaRequest.claimBatch input) rows f ∈ trace ∧
    row.lockedBy = some input.workerId ∧ ∃ held ∈ rows, held.id = row.id ∧ row.HeldAs held) ∨
  ∃ now limit rows f, .served i (SagaRequest.findStaleRunning now limit) rows f ∈ trace ∧
    (∃ t ∈ row.lockUntil, t < now) ∧ ∃ held ∈ rows, held.id = row.id ∧ row.HeldAs held

theorem settled_of_run {k : SagaStepKey} {row : SagaStepRecord J}
    (hrun : Run (atCall settlesInTime) Q trace R) (hrow : Q.store.steps.get? k = some row)
    (hsettled : row.status.isSettled = true) : R.store.steps.get? k = some row := by
  induction hrun with
  | nil => exact hrow
  | snoc _ hok hstep ih =>
    cases hstep with
    | start store threads entry => exact ih
    | raised here error => exact ih
    | served here answered => exact settled_after answered hok ih hsettled

/-- A RUNNING row goes back to PENDING by a thread that has it in hand. -/
theorem given_back (hrun : Run ok P trace Q) (hP : P.threads = []) {i : Nat}
    {q : SagaRequest J} {a : q.Answer} {f : SagaFront J}
    (hstep : Step (sagaSystem E) Q (.served i q a f) R) (hq : MeetsLease Q.store q)
    {k : SagaStepKey} {row row' : SagaStepRecord J} (hrow : Q.store.steps.get? k = some row)
    (hrunning : row.status = .running) (hrow' : R.store.steps.get? k = some row')
    (hpending : row'.status = .pending) : MayGiveBack trace i row := by
  have hhanded := handed_of_run hrun hP
  have hkey : row.id = k := Table.key_of_get? hrow
  cases hstep with
  | @served store store' threads i q next a here answered =>
    have huses : TakesUp ⟨ClaimedBy trace i, ReadStale trace i⟩ q :=
      (hhanded i _ here ⟨ClaimedBy trace i, ReadStale trace i⟩ (fun _ h => h) fun _ h => h).1
    cases steps_after answered k with
    | unchanged same =>
      obtain rfl : row' = row := Option.some.inj (hrow'.symm.trans (same.trans hrow))
      rw [hrunning] at hpending
      cases hpending
    | inserted c call key before after =>
      rw [hrow] at before
      cases before
    | changed old new before after change =>
      obtain rfl : row = old := Option.some.inj (hrow.symm.trans before)
      obtain rfl : row' = new := Option.some.inj (hrow'.symm.trans after)
      rcases hq.changes before change with ⟨hold, _⟩ | ⟨held, hheld, hid, hheldAs⟩
      · rw [hrunning] at hold
        cases hold
      · have hlease : row.lease = held.lease := hheldAs.2
        have hsame : held.id = row.id := hid.trans hkey.symm
        rcases change.taken hpending huses held hheld with
          ⟨input, rows, g, hmem, hin⟩ | ⟨now, limit, rows, g, hmem, hin⟩
        · obtain ⟨s, s', hclaim⟩ := hrun.served_of_mem hmem
          have hby : row.lockedBy = held.lockedBy := congrArg Prod.fst hlease
          exact .inl ⟨input, rows, g, hmem, hby.trans (leased_of_claimBatch hclaim hin),
            held, hin, hsame, hheldAs⟩
        · obtain ⟨s, s', hread⟩ := hrun.served_of_mem hmem
          have huntil : row.lockUntil = held.lockUntil := congrArg Prod.snd hlease
          obtain ⟨t, ht, hlt⟩ := expired_of_findStaleRunning hread hin
          exact .inr ⟨now, limit, rows, g, hmem, ⟨t, huntil.trans ht, hlt⟩, held, hin, hsame,
            hheldAs⟩

section Runs

open Scenario

/-- A worker whose action hangs past its lease; the sweep of another tick queues its row
again, and a third tick settles it. -/
private def overtaken : List DemoMove :=
  deliver "Started" :: serveAll 0 (insertion ++ advancing 0 ++ handingOver) ++
  .start (.tick "slow") :: serveAll 1 [.time 0, .claim [⟨"i", "x", .do_⟩], .plain] ++
  .start (.tick "sweeper") :: serveAll 2 (sweeping 100000 ++ [SagaChoice.time 100000, .plain,
    .time 100000, .plain]) ++
  .start (.tick "w") :: serveAll 3 [.time 200000, .claim [⟨"i", "x", .do_⟩], .plain,
    .outcome (.ok { outcome := .ok }), .plain]

/-- The hung action asks for a retry at last. -/
private def lateRetry : List DemoMove :=
  serveAll 1 [.outcome (.ok { outcome := .retry }), .time 300000, .plain]

end Runs

end Provenance

end DddBoilerplate.Saga
