/- module: DddBoilerplate/Batch/Completions
   generality: I
   digest: A row is settled once, a job is closed once, and its completion is told once and truly. -/

import DddBoilerplate.Batch.Outcomes

set_option autoImplicit false
set_option relaxedAutoImplicit false
set_option linter.all false

namespace DddBoilerplate.Batch

open Concurrency Context Store ClsRequestContextService

section Order

variable {db db' : BatchDb} {q : BatchStatement} {choice : BatchChoice} {a : Except String q.Result}
variable {c : BatchCall}

/-- The call took the row, under this token. -/
def Claims (c : BatchCall) (rowId : String) (claimToken : Nat) : Prop :=
  ∃ claimed, c = ⟨.claimRow rowId, .ok (some claimed)⟩ ∧ claimed.claimToken = claimToken

/-- The call settled the row, under this token. -/
def Settles (c : BatchCall) (rowId : String) (claimToken : Nat) : Prop :=
  ∃ jobId settlement, c = ⟨.settleRow rowId jobId claimToken settlement, .ok true⟩

/-- The call ended the job. -/
def Closes (c : BatchCall) (jobId : String) : Prop :=
  ∃ status, c = ⟨.closeJob jobId status, .ok true⟩

/-- How a call stands to those behind it: claims of a row rise, the last of them may settle it, and
nothing is settled, claimed after that, or closed a second time. -/
structure Precedes (c c' : BatchCall) : Prop where
  claims : ∀ rowId n n', Claims c rowId n → Claims c' rowId n' → n < n'
  settles : ∀ rowId n n', Claims c rowId n → Settles c' rowId n' → n ≤ n'
  unclaimed : ∀ rowId n n', Settles c rowId n → ¬ Claims c' rowId n'
  settled : ∀ rowId n n', Settles c rowId n → ¬ Settles c' rowId n'
  closed : ∀ jobId, Closes c jobId → ¬ Closes c' jobId

theorem precedes_of_serve (htold : Told db c) (hserve : q.serve choice db = some (a, db')) :
    Precedes c ⟨q, a⟩ := by
  refine ⟨?_, ?_, ?_, ?_, ?_⟩
  · rintro rowId n n' ⟨claimed, rfl, rfl⟩ ⟨claimed', heq, rfl⟩
    cases heq
    obtain ⟨_, row, hrow, htoken⟩ := htold
    obtain ⟨row', hrow', rfl, _⟩ := claimed_of_serve hserve
    cases hrow.symm.trans hrow'
    exact Nat.lt_succ_of_le htoken
  · rintro rowId n n' ⟨claimed, rfl, rfl⟩ ⟨jobId, settlement, heq⟩
    cases heq
    obtain ⟨_, row, hrow, htoken⟩ := htold
    obtain ⟨row', hrow', hheld, _⟩ := settled_of_serve hserve
    cases hrow.symm.trans hrow'
    rw [(unsettled_of_isHeld hheld).2] at htoken
    exact htoken
  · rintro rowId n n' ⟨jobId, settlement, rfl⟩ ⟨claimed, heq, _⟩
    cases heq
    obtain ⟨row, hrow, hsettled⟩ := htold
    obtain ⟨row', hrow', _, hclaimed⟩ := claimed_of_serve hserve
    cases hrow.symm.trans hrow'
    -- a settled row stays as it is, so its token cannot have gone up
    obtain ⟨g, more, hevolves⟩ := evolves_of_serve hserve
    have hstays := hevolves.get?_rows hrow
    rw [(hevolves.follows row).final hsettled, hclaimed] at hstays
    have htoken := congrArg BatchOperationJobRow.claimToken (Option.some.inj hstays)
    exact absurd htoken (Nat.succ_ne_self _)
  · rintro rowId n n' ⟨jobId, settlement, rfl⟩ ⟨jobId', settlement', heq⟩
    cases heq
    obtain ⟨row, hrow, hsettled⟩ := htold
    obtain ⟨row', hrow', hheld, _⟩ := settled_of_serve hserve
    cases hrow.symm.trans hrow'
    rw [(unsettled_of_isHeld hheld).1] at hsettled
    cases hsettled
  · rintro jobId ⟨status, rfl⟩ ⟨status', heq⟩
    cases heq
    obtain ⟨hend, job, hjob, rfl⟩ := htold
    obtain ⟨job', hjob', hopen, _⟩ := closed_of_serve hserve
    cases hjob.symm.trans hjob'
    rw [hopen] at hend
    cases hend

end Order

section Runs

variable {config : BatchConfig} {ok : Pool (batchSystem config) → Label (batchSystem config) → Prop}
variable {trace later : List (Label (batchSystem config))} {Q R : Pool (batchSystem config)}
variable {i : Nat} {rowId jobId : String} {claimToken : Nat}
variable {settlement : BatchOperationRowSettlement}

theorem sound_empty : BatchDb.empty.Sound where
  headed row hrow := by cases hrow
  totals job hjob := by cases hjob
  counters job hjob := by cases hjob
  queued dispatch hd := by cases hd
  events event he := by cases he

/-- The programs of the pipeline keep the tables sound, and what they are told stays true. -/
theorem batch_telling : @Telling (batchSystem config) (fun _ => Reason) BatchDb.Sound Told where
  accounted := program_reason
  kept hsound htold hreason hserves := by
    obtain ⟨choice, hserve⟩ := hserves
    exact sound_of_serve hsound htold hreason hserve
  told hsound hreason hserves := by
    obtain ⟨choice, hserve⟩ := hserves
    exact told_of_serve hsound hreason hserve
  stays hserves hc := by
    obtain ⟨choice, hserve⟩ := hserves
    obtain ⟨g, more, hevolves⟩ := evolves_of_serve hserve
    exact hevolves.told hc

theorem known_of_run (hrun : Run ok ⟨BatchDb.empty, []⟩ trace Q) :
    Q.store.Sound ∧ ∀ i, ∀ c ∈ calls i trace, Told Q.store c :=
  batch_telling.run hrun rfl sound_empty

theorem precedes_of_run (hrun : Run ok ⟨BatchDb.empty, []⟩ trace Q) : InOrder Precedes trace := by
  refine batch_telling.inOrder ?_ hrun rfl sound_empty
  intro e h q db a db' c _ _ hserves htold
  obtain ⟨choice, hserve⟩ := hserves
  exact precedes_of_serve htold hserve

theorem evolves_of_step {l : Label (batchSystem config)} (hstep : Step (batchSystem config) Q l R) :
    ∃ g more, Evolves Q.store R.store g more := by
  cases l with
  | start e =>
    cases hstep
    exact ⟨_, _, evolves_same rfl rfl⟩
  | raised i q =>
    cases hstep
    exact ⟨_, _, evolves_same rfl rfl⟩
  | served i q a f =>
    obtain ⟨choice, hserve⟩ := hstep.answered
    exact evolves_of_serve hserve

/-- The row is as the settlement left it that found it under this claim. -/
def BatchDb.Stands (db : BatchDb) (rowId jobId : String) (claimToken : Nat)
    (settlement : BatchOperationRowSettlement) : Prop :=
  ∃ row : BatchOperationJobRow, row.batchOperationJobId = jobId ∧ row.isHeld claimToken = true ∧
    db.rows.get? rowId = some (settlement.change row)

theorem stands_of_settled {f : Front BatchStatement.interface}
    (hrun : Run ok ⟨BatchDb.empty, []⟩ trace Q)
    (hmem : @Label.served (batchSystem config) i (.settleRow rowId jobId claimToken settlement)
      (.ok true) f ∈ trace) :
    Q.store.Stands rowId jobId claimToken settlement := by
  induction hrun with
  | nil => cases hmem
  | @snoc trace Q R l hrun hok hstep ih =>
    rcases List.mem_append.mp hmem with hmem | hmem
    · obtain ⟨row, hjob, hheld, hrow⟩ := ih hmem
      obtain ⟨g, more, hevolves⟩ := evolves_of_step hstep
      refine ⟨row, hjob, hheld, ?_⟩
      rw [hevolves.get?_rows hrow, (hevolves.follows _).final (by cases settlement <;> rfl)]
    · cases List.mem_singleton.mp hmem
      have hready := batch_telling.ready hrun rfl sound_empty hstep
      obtain ⟨_, _, asked, claimed, hcall, hhanded, hid, _⟩ := hready.entry
      obtain ⟨row', hrow', hjob⟩ := belongs_of_handed (hready.told i) hhanded
      obtain ⟨choice, hserve⟩ := hstep.answered
      obtain ⟨row, hrow, hheld, hstored⟩ := settled_of_serve hserve
      rw [← hid, (hready.told i _ hcall).1] at hrow
      cases hrow.symm.trans hrow'
      exact ⟨row', hjob, hheld, hstored⟩

/-- What the settlement of a row has behind it and before it, over a whole run. -/
structure SettledOnce (trace : List (Label (batchSystem config))) (db : BatchDb) (i : Nat)
    (rowId jobId : String) (claimToken : Nat) (settlement : BatchOperationRowSettlement) : Prop where
  stands : db.Stands rowId jobId claimToken settlement
  claimed : ∃ c ∈ calls i trace, Claims c rowId claimToken
  latest : ∀ j, ∀ c ∈ calls j trace, ∀ n, Claims c rowId n →
    n ≤ claimToken ∧ (n = claimToken → j = i)
  once : ∃ before l after, trace = before ++ l :: after ∧
    l.call? i = some ⟨.settleRow rowId jobId claimToken settlement, .ok true⟩ ∧
      ∀ j, ∀ c ∈ calls j (before ++ after), ∀ n, ¬ Settles c rowId n

/-- A settlement that is taken is the row's only one: it is made by the thread of its last claim,
under the token of that claim, and the row stays as it left it. -/
theorem row_settled_once (hrun : Run ok ⟨BatchDb.empty, []⟩ trace Q)
    (hsettled : ⟨.settleRow rowId jobId claimToken settlement, .ok true⟩ ∈ calls i trace) :
    SettledOnce trace Q.store i rowId jobId claimToken settlement := by
  have hordered := precedes_of_run hrun
  obtain ⟨_, htold⟩ := known_of_run hrun
  obtain ⟨f, hmem⟩ := mem_calls.mp hsettled
  obtain ⟨_, _, earlier, hearlier, asked, claimed, hcall, _, hid, htoken⟩ :=
    because_of_call program_reason hrun rfl hmem
  have hown := hearlier _ hcall
  have hasked : claimed.id = asked := (htold i _ hown).1
  have hclaim : Claims ⟨.claimRow asked, .ok (some claimed)⟩ rowId claimToken :=
    ⟨claimed, by rw [← hasked, hid], htoken⟩
  have hsettle : Settles ⟨.settleRow rowId jobId claimToken settlement, .ok true⟩ rowId claimToken :=
    ⟨jobId, settlement, rfl⟩
  refine ⟨stands_of_settled hrun hmem, ⟨_, hown, hclaim⟩, fun j c hc n hclaims => ?_, ?_⟩
  · have hle : n ≤ claimToken := by
      rcases hordered.compare hc hsettled with ⟨_, rfl⟩ | hbefore | hafter
      · obtain ⟨_, heq, _⟩ := hclaims
        cases heq
      · exact hbefore.settles rowId n claimToken hclaims hsettle
      · exact absurd hclaims (hafter.unclaimed rowId claimToken n hsettle)
    refine ⟨hle, ?_⟩
    rintro rfl
    rcases hordered.compare hc hown with ⟨hthread, _⟩ | hbefore | hafter
    · exact hthread
    · exact absurd (hbefore.claims rowId n n hclaims hclaim) (Nat.lt_irrefl n)
    · exact absurd (hafter.claims rowId n n hclaim hclaims) (Nat.lt_irrefl n)
  · have honce := @InOrder.once _ trace i Precedes hordered (fun c => ∃ n, Settles c rowId n) ?_ _
      hsettled ⟨claimToken, hsettle⟩
    · obtain ⟨before, l, after, htrace, hl, hnone⟩ := honce
      exact ⟨before, l, after, htrace, hl, fun j c hc n hn => hnone j c hc ⟨n, hn⟩⟩
    · rintro c c' hprecedes ⟨n, hn⟩ ⟨n', hn'⟩
      exact hprecedes.settled rowId n n' hn hn'

/-- A job is closed by one call at most, and stays as that call closed it. -/
theorem job_closed_once {status : BatchOperationJobStatus}
    (hrun : Run ok ⟨BatchDb.empty, []⟩ trace Q)
    (hclosed : ⟨.closeJob jobId status, .ok true⟩ ∈ calls i trace) :
    (∃ job, Q.store.jobs.get? jobId = some job ∧ job.status = status ∧ status.isTerminal = true) ∧
      ∃ before l after, trace = before ++ l :: after ∧
        l.call? i = some ⟨.closeJob jobId status, .ok true⟩ ∧
          ∀ j, ∀ c ∈ calls j (before ++ after), ¬ Closes c jobId := by
  obtain ⟨hend, job, hjob, hstatus⟩ := (known_of_run hrun).2 i _ hclosed
  refine ⟨⟨job, hjob, hstatus, hend⟩, ?_⟩
  have hordered := precedes_of_run hrun
  exact @InOrder.once _ trace i Precedes hordered (fun c => Closes c jobId)
    (fun c c' hprecedes => hprecedes.closed jobId) _ hclosed ⟨status, rfl⟩

/-- A job's counters never run ahead of its rows, and where they count all of them they are exact. -/
theorem counters_never_ahead (hrun : Run ok ⟨BatchDb.empty, []⟩ trace Q) :
    ∀ job ∈ Q.store.jobs.rows, (Q.store.rowsOf job.id).length = job.totalRecords ∧
      Within job.counters (Q.store.countersOf job.id) ∧
        (job.totalRecords ≤ job.counters.processedRecords →
          job.counters = Q.store.countersOf job.id ∧
            ∀ row ∈ Q.store.rowsOf job.id, row.status.isSettled = true) := by
  intro job hjob
  obtain ⟨hsound, _⟩ := known_of_run hrun
  have hlength := hsound.totals job hjob
  have hwithin := hsound.counters job hjob
  refine ⟨hlength, hwithin, fun hall => ⟨?_, allSettled_of_counted hlength hwithin hall⟩⟩
  have hactual : (Q.store.countersOf job.id).processedRecords ≤ (Q.store.rowsOf job.id).length :=
    List.countP_le_length
  exact hwithin.eq_of_le (countersOf_processed _ _) (by omega)

end Runs

section Announcements

variable {config : BatchConfig} {ok : Pool (batchSystem config) → Label (batchSystem config) → Prop}
variable {trace : List (Label (batchSystem config))} {Q R : Pool (batchSystem config)}
variable {h : List BatchCall} {db db' : BatchDb} {job : BatchOperationJob}

/-- The event a call writes. -/
def announced : BatchCall → Option BatchOperationJobCompletedEvent
  | ⟨.writeJobCompletedEvent job, .ok _⟩ => some job.completedEvent
  | _ => none

def announcement : Label (batchSystem config) → Option BatchOperationJobCompletedEvent
  | .served _ q a _ => announced ⟨q, a⟩
  | _ => none

theorem announced_error {q : BatchStatement} {message : String} :
    announced ⟨q, .error message⟩ = none := by
  cases q <;> rfl

theorem announced_of_some {c : BatchCall} {event : BatchOperationJobCompletedEvent}
    (hc : announced c = some event) :
    ∃ job, c = ⟨.writeJobCompletedEvent job, .ok ()⟩ ∧ event = job.completedEvent := by
  unfold announced at hc
  split at hc
  · cases hc
    exact ⟨_, rfl, rfl⟩
  · cases hc

theorem written_of_announcement {l : Label (batchSystem config)}
    {event : BatchOperationJobCompletedEvent} (hl : announcement l = some event) :
    ∃ i job f, l = .served i (.writeJobCompletedEvent job) (.ok ()) f ∧
      event = job.completedEvent := by
  cases l with
  | start e => cases hl
  | raised i q => cases hl
  | served i q a f =>
    obtain ⟨job, heq, hevent⟩ := announced_of_some hl
    cases heq
    exact ⟨i, job, f, rfl, hevent⟩

/-- Nothing else writes an event. -/
theorem events_of_serve {q : BatchStatement} {choice : BatchChoice} {a : Except String q.Result}
    (hserve : q.serve choice db = some (a, db')) :
    db'.events = db.events ++ (announced ⟨q, a⟩).toList := by
  have hquiet : ∀ {c : BatchCall} {db' : BatchDb}, announced c = none → db'.events = db.events →
      db'.events = db.events ++ (announced c).toList := fun hnone hsame => by
    rw [hnone, hsame, Option.toList_none, List.append_nil]
  have hsettle : ∀ (rowId jobId : String) (claimToken : Nat) (settlement),
      (db.settle rowId jobId claimToken settlement).2.events = db.events := by
    intro rowId jobId claimToken settlement
    rcases @settle_cases db rowId jobId claimToken settlement with hlate | ⟨row, _, _, hsettle⟩
    · rw [hlate]
    · rw [hsettle]
      rfl
  unfold BatchStatement.serve at hserve
  split at hserve
  · cases hserve
    exact hquiet announced_error rfl
  · cases hserve
    exact hquiet rfl rfl
  · split at hserve
    · split at hserve
      · cases hserve
        exact hquiet rfl rfl
      · cases hserve
        exact hquiet rfl rfl
    · cases hserve
  · cases hserve
    exact hquiet rfl rfl
  · cases hserve
    exact hquiet rfl rfl
  · cases hserve
    exact hquiet rfl rfl
  · cases hserve
    exact hquiet rfl rfl
  · cases hserve
    exact hquiet rfl rfl
  · obtain ⟨jobs, _, heq⟩ := Option.map_eq_some_iff.mp hserve
    cases heq
    exact hquiet rfl rfl
  · obtain ⟨jobs, _, heq⟩ := Option.map_eq_some_iff.mp hserve
    cases heq
    exact hquiet rfl rfl
  · split at hserve
    · cases hserve
      exact hquiet rfl rfl
    · cases hserve
      exact hquiet rfl rfl
  · cases hserve
    exact hquiet rfl rfl
  · split at hserve
    · cases hserve
      exact hquiet rfl rfl
    · cases hserve
  · cases hserve
    exact hquiet rfl rfl
  · cases hserve
    exact hquiet rfl (hsettle _ _ _ _)
  · cases hserve
    exact hquiet rfl rfl
  · cases hserve
    exact hquiet rfl rfl
  · cases hserve
    exact hquiet rfl rfl
  · cases hserve
    exact hquiet rfl rfl
  · cases hserve
    exact hquiet rfl rfl
  · cases hserve
    exact hquiet announced_error rfl
  · obtain ⟨dispatch, _, heq⟩ := Option.map_eq_some_iff.mp hserve
    cases heq
    split
    · exact hquiet rfl rfl
    · exact hquiet rfl rfl
  · cases hserve
    rfl
  · cases hserve
    exact hquiet rfl rfl
  · cases hserve

/-- The events of a run are those its calls have written, in their order. -/
theorem events_of_run (hrun : Run ok ⟨BatchDb.empty, []⟩ trace Q) :
    Q.store.events = trace.filterMap announcement := by
  induction hrun with
  | nil => rfl
  | @snoc trace Q R l hrun hok hstep ih =>
    rw [List.filterMap_append, ← ih]
    cases l with
    | start e =>
      cases hstep
      exact (List.append_nil _).symm
    | raised i q =>
      cases hstep
      exact (List.append_nil _).symm
    | served i q a f =>
      obtain ⟨choice, hserve⟩ := hstep.answered
      rw [events_of_serve hserve]
      have hlast : [Label.served i q a f].filterMap announcement =
          (announced ⟨q, a⟩ : Option BatchOperationJobCompletedEvent).toList := by
        simp only [List.filterMap_cons, announcement, List.filterMap_nil]
        cases announced ⟨q, a⟩ <;> rfl
      rw [hlast]

/-- What is followed by two other calls alone is followed by both of them. -/
theorem mem_behind {g g' rest : List BatchCall} {w c d : BatchCall}
    (heq : g ++ w :: rest = g' ++ [c] ++ [d]) (hc : w ≠ c) (hd : w ≠ d) : c ∈ rest ∧ d ∈ rest := by
  rcases List.eq_nil_or_concat' rest with rfl | ⟨rest, x, rfl⟩
  · obtain ⟨_, hlast⟩ := List.append_inj' heq rfl
    exact absurd (List.cons.inj hlast).1 hd
  · rw [← List.cons_append, ← List.append_assoc] at heq
    obtain ⟨hinit, hlast⟩ := List.append_inj' heq rfl
    obtain rfl := (List.cons.inj hlast).1
    rcases List.eq_nil_or_concat' rest with rfl | ⟨rest, y, rfl⟩
    · obtain ⟨_, hlast⟩ := List.append_inj' hinit rfl
      exact absurd (List.cons.inj hlast).1 hc
    · rw [← List.cons_append, ← List.append_assoc] at hinit
      obtain ⟨_, hlast⟩ := List.append_inj' hinit rfl
      obtain rfl := (List.cons.inj hlast).1
      simp

/-- The last two calls before an announcement are those that close the job. -/
theorem Announces.closing (hjob : Announces h job) (htold : ∀ c ∈ h, Told db c) :
    ∃ g c d, h = g ++ [c] ++ [d] ∧ (Closes c job.id ∨ Closes d job.id) ∧
      ∀ w, (announced w).isSome = true → w ≠ c ∧ w ≠ d := by
  have hother : ∀ {c : BatchCall}, announced c = none → ∀ w, (announced w).isSome = true → w ≠ c := by
    rintro c hnone w hsome rfl
    rw [hnone] at hsome
    cases hsome
  obtain ⟨g, jobId, found, ⟨rfl, _, rfl⟩ | ⟨rfl, rfl⟩⟩ := hjob
  · obtain ⟨rfl, _⟩ := htold _ (List.mem_append_left _ (List.mem_append_right _
      (List.mem_singleton_self _)))
    exact ⟨g, _, _, rfl, .inr ⟨_, rfl⟩, fun w hw => ⟨hother rfl w hw, hother rfl w hw⟩⟩
  · obtain ⟨rfl, _⟩ := htold _ (List.mem_append_right _ (List.mem_singleton_self _))
    exact ⟨g, _, _, rfl, .inl ⟨_, rfl⟩, fun w hw => ⟨hother rfl w hw, hother rfl w hw⟩⟩

/-- A job that is announced was not announced before: the thread has just closed it itself, and
nobody closes it twice. -/
theorem ne_of_announced {i k : Nat} {job' : BatchOperationJob} {a' : Except String Unit}
    {f' : Front BatchStatement.interface} (hrun : Run ok ⟨BatchDb.empty, []⟩ trace Q)
    (hstep : Step (batchSystem config) Q (.served k (.writeJobCompletedEvent job') a' f') R)
    (hmem : ⟨.writeJobCompletedEvent job, .ok ()⟩ ∈ calls i trace) : job.id ≠ job'.id := by
  intro hsame
  have hordered := precedes_of_run hrun
  obtain ⟨_, htold⟩ := known_of_run hrun
  obtain ⟨_, _, hjob'⟩ := because_of_entry program_reason hrun rfl hstep
  obtain ⟨g', c, d, hlast, hclose', hother⟩ := Announces.closing hjob' (htold k)
  obtain ⟨g, rest, hsplit⟩ := List.append_of_mem hmem
  obtain ⟨_, hjob⟩ := because_of_split program_reason hrun rfl hsplit
  obtain ⟨hclose, _⟩ := Announces.known hjob fun c hc =>
    htold i c (hsplit ▸ List.mem_append_left _ hc)
  have hfirst : Closes ⟨.closeJob job.id job.status, .ok true⟩ job'.id := ⟨_, by rw [hsame]⟩
  obtain ⟨e, he, hcloses⟩ : ∃ e, (e = c ∨ e = d) ∧ Closes e job'.id := by
    rcases hclose' with hc | hd
    · exact ⟨c, .inl rfl, hc⟩
    · exact ⟨d, .inr rfl, hd⟩
  have hmem' : e ∈ calls k trace := by
    rw [hlast]
    rcases he with rfl | rfl <;> simp
  have hmem₁ : ⟨.closeJob job.id job.status, .ok true⟩ ∈ calls i trace :=
    hsplit ▸ List.mem_append_left _ hclose
  rcases hordered.compare hmem₁ hmem' with ⟨rfl, _⟩ | hbefore | hafter
  · -- the same thread: its two announcements are apart, and so are the calls that close before them
    have hown := hordered.own i
    obtain ⟨hc, hd⟩ := mem_behind (hsplit.symm.trans hlast) (hother _ rfl).1 (hother _ rfl).2
    have hrest : e ∈ rest := by
      rcases he with rfl | rfl
      · exact hc
      · exact hd
    rw [hsplit] at hown
    have hbefore := (List.pairwise_append.mp hown).2.2 _ hclose e (List.mem_cons_of_mem _ hrest)
    exact hbefore.closed job'.id hfirst hcloses
  · exact hbefore.closed job'.id hfirst hcloses
  · exact hafter.closed job'.id hcloses hfirst

theorem announcements_apart (hrun : Run ok ⟨BatchDb.empty, []⟩ trace Q) :
    trace.Pairwise fun l l' => ∀ event, announcement l = some event →
      ∀ event', announcement l' = some event' → event.jobId ≠ event'.jobId := by
  induction hrun with
  | nil => exact List.Pairwise.nil
  | @snoc trace Q R l hrun hok hstep ih =>
    refine List.pairwise_append.mpr ⟨ih, List.pairwise_singleton _ _, fun l₁ hl₁ l₂ hl₂ => ?_⟩
    intro event hevent event' hevent'
    obtain rfl := List.mem_singleton.mp hl₂
    obtain ⟨i, job, f, rfl, rfl⟩ := written_of_announcement hevent
    obtain ⟨k, job', f', rfl, rfl⟩ := written_of_announcement hevent'
    exact ne_of_announced hrun hstep (mem_calls.mpr ⟨f, hl₁⟩)

/-- No job is announced twice, and what is announced of a job is true: it has ended so, all its rows
are settled unless it was cancelled, and no more is told of them than there is. -/
theorem completions_announced_once (hrun : Run ok ⟨BatchDb.empty, []⟩ trace Q) :
    (Q.store.events.map (·.jobId)).Nodup ∧ ∀ event ∈ Q.store.events, Q.store.Truthful event := by
  refine ⟨?_, (known_of_run hrun).1.events⟩
  rw [events_of_run hrun, List.Nodup, List.pairwise_map, List.pairwise_filterMap]
  exact announcements_apart hrun

end Announcements

section Demos

def settlementOf : BatchCall → Option (String × String × Nat × BatchOperationRowSettlement)
  | ⟨.settleRow rowId jobId claimToken settlement, .ok true⟩ =>
    some (rowId, jobId, claimToken, settlement)
  | _ => none

def closingOf : BatchCall → Option (String × BatchOperationJobStatus)
  | ⟨.closeJob jobId status, .ok true⟩ => some (jobId, status)
  | _ => none

theorem settlementOf_eq_some {c : BatchCall} {rowId jobId : String} {claimToken : Nat}
    {settlement : BatchOperationRowSettlement}
    (h : settlementOf c = some (rowId, jobId, claimToken, settlement)) :
    c = ⟨.settleRow rowId jobId claimToken settlement, .ok true⟩ := by
  unfold settlementOf at h
  split at h
  · cases h
    rfl
  · cases h

theorem closingOf_eq_some {c : BatchCall} {jobId : String} {status : BatchOperationJobStatus}
    (h : closingOf c = some (jobId, status)) : c = ⟨.closeJob jobId status, .ok true⟩ := by
  unfold closingOf at h
  split at h
  · cases h
    rfl
  · cases h

theorem cancelling_run : ∃ (Q : DemoPool) (trace : List (Label (batchSystem demo))),
    Run (fun _ _ => True) ⟨BatchDb.empty, []⟩ trace Q ∧
      (calls 0 trace).filterMap settlementOf = [("r", "j", 1, .success none)] ∧
      (calls 0 trace).filterMap closingOf = [("j", .completed)] ∧
      Q.store.jobs.rows.map (·.counters) = [⟨1, 1, 0, 0⟩] ∧
      Q.store.events.map (·.jobId) = ["j"] := by
  have hplay : (((⟨BatchDb.empty, []⟩ : DemoPool).record (fun _ _ => True) cancelling).map fun r =>
      decide ((calls 0 r.1).filterMap settlementOf = [("r", "j", 1, .success none)] ∧
        (calls 0 r.1).filterMap closingOf = [("j", .completed)] ∧
        r.2.store.jobs.rows.map (·.counters) = [⟨1, 1, 0, 0⟩] ∧
        r.2.store.events.map (·.jobId) = ["j"])) = some true := by
    decide
  obtain ⟨⟨trace, Q⟩, hrecord, hcheck⟩ := Option.map_eq_some_iff.mp hplay
  exact ⟨Q, trace, Pool.record_run hrecord, of_decide_eq_true hcheck⟩

theorem row_settled_once_cancelling : ∃ (Q : DemoPool) (trace : List (Label (batchSystem demo))),
    Run (fun _ _ => True) ⟨BatchDb.empty, []⟩ trace Q ∧
      SettledOnce trace Q.store 0 "r" "j" 1 (.success none) := by
  obtain ⟨Q, trace, hrun, hsettled, _⟩ := cancelling_run
  have hmem := List.mem_singleton_self ("r", "j", 1, BatchOperationRowSettlement.success none)
  rw [← hsettled] at hmem
  obtain ⟨c, hc, hcall⟩ := List.mem_filterMap.mp hmem
  rw [settlementOf_eq_some hcall] at hc
  exact ⟨Q, trace, hrun, row_settled_once hrun hc⟩

theorem job_closed_once_cancelling : ∃ (Q : DemoPool) (trace : List (Label (batchSystem demo))),
    Run (fun _ _ => True) ⟨BatchDb.empty, []⟩ trace Q ∧
      ∃ job, Q.store.jobs.get? "j" = some job ∧ job.status = .completed := by
  obtain ⟨Q, trace, hrun, _, hclosed, _⟩ := cancelling_run
  have hmem := List.mem_singleton_self ("j", BatchOperationJobStatus.completed)
  rw [← hclosed] at hmem
  obtain ⟨c, hc, hcall⟩ := List.mem_filterMap.mp hmem
  rw [closingOf_eq_some hcall] at hc
  obtain ⟨⟨job, hjob, hstatus, _⟩, _⟩ := job_closed_once hrun hc
  exact ⟨Q, trace, hrun, job, hjob, hstatus⟩

theorem counters_never_ahead_cancelling : ∃ Q : DemoPool,
    Q.store.jobs.rows.map (·.counters) = [⟨1, 1, 0, 0⟩] ∧
      ∀ job ∈ Q.store.jobs.rows, (Q.store.rowsOf job.id).length = job.totalRecords := by
  obtain ⟨Q, trace, hrun, _, _, hcounters, _⟩ := cancelling_run
  exact ⟨Q, hcounters, fun job hjob => (counters_never_ahead hrun job hjob).1⟩

theorem completions_announced_once_cancelling : ∃ Q : DemoPool,
    Q.store.events.map (·.jobId) = ["j"] ∧ ∀ event ∈ Q.store.events, Q.store.Truthful event := by
  obtain ⟨Q, trace, hrun, _, _, _, hevents⟩ := cancelling_run
  exact ⟨Q, hevents, (completions_announced_once hrun).2⟩

end Demos

end DddBoilerplate.Batch
