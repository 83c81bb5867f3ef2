/- module: DddBoilerplate/Batch/Cancelling
   generality: I
   digest: A row that a handler is called for was claimed before anyone asked to cancel its job. -/

import DddBoilerplate.Batch.Completions

set_option autoImplicit false
set_option relaxedAutoImplicit false
set_option linter.all false

namespace DddBoilerplate.Batch

open Concurrency Context Store ClsRequestContextService

section Clearance

/-- The row of the call was claimed, and its job then found with no request to cancel it. -/
def Cleared (h : List BatchCall) (call : HandlerCall) : Prop :=
  ∃ g rowId claimed g', h = g ++ [⟨.claimRow rowId, .ok (some claimed)⟩] ++
      [⟨.isCancelRequested call.context.batchOperationJobId, .ok false⟩] ++ g' ∧
    claimed.entityId = call.entityId

/-- What a handler is called for is cleared. -/
def Clearance (h : List BatchCall) (q : BatchStatement) : Prop :=
  ∀ call, q.handled? = some call → Cleared h call

/-- No handler is called. -/
abbrev Handless {α : Type} (m : BatchProgram α) : Prop :=
  Always (fun _ (q : BatchStatement) => q.handled? = none) m

variable {α : Type} {config : BatchConfig} {store : ClsStore} {dispatch : BatchOperationDispatch}
variable {h : List BatchCall}

theorem clearance_of_unhandled {q : BatchStatement} (hq : q.handled? = none) : Clearance h q := by
  intro call hcall
  rw [hq] at hcall
  cases hcall

theorem handless_call {q : BatchStatement} (hq : q.handled? = none) : Handless (call q) :=
  always_call fun _ => hq

theorem accounted_of_handless {m : BatchProgram α} (hm : Handless m) :
    Accounted Clearance (fun _ _ => True) h m :=
  (hm h).mono (fun _ _ => clearance_of_unhandled) fun _ _ _ => trivial

theorem handless_of_plain {m : BatchProgram α} (hm : AllPlain m) : Handless m := by
  refine always_mono hm fun _ q hq => ?_
  cases q with
  | validate call => exact hq.elim
  | execute call => exact hq.elim
  | _ => rfl

section Rows

variable {claimed : ClaimedBatchOperationRow}

/-- A handler is called for this row of the chunk. -/
def OfRow (claimed : ClaimedBatchOperationRow) (dispatch : BatchOperationDispatch)
    (q : BatchStatement) : Prop :=
  ∀ call, q.handled? = some call →
    call.context.batchOperationJobId = dispatch.jobId ∧ claimed.entityId = call.entityId

theorem settleClaimed_ofRow (settlement : BatchOperationRowSettlement) :
    Always (fun _ => OfRow claimed dispatch) (settleClaimed claimed dispatch.jobId settlement) :=
  always_mono (handless_of_plain (settleClaimed_plain claimed dispatch.jobId settlement))
    fun _ q hq call hcall => by
      rw [hq] at hcall
      cases hcall

theorem ofRow_of_handled {requestContext : RequestContext} {q : BatchStatement}
    (hq : q.handled? = some (handlerCall requestContext dispatch claimed.entityId)) :
    OfRow claimed dispatch q := by
  intro call hcall
  rw [hq] at hcall
  cases hcall
  exact ⟨rfl, rfl⟩

theorem runHandler_ofRow (requestContext : RequestContext) :
    Always (fun _ => OfRow claimed dispatch)
      (runHandler config requestContext dispatch claimed) := by
  unfold runHandler
  refine Always.handle ?_ (fun _ => .done _) fun message =>
    (settleClaimed_ofRow _).bind fun _ => .done _
  refine (always_call fun _ => ofRow_of_handled rfl).bind fun verdict => ?_
  split
  · exact settleClaimed_ofRow _
  · exact (always_call fun _ => ofRow_of_handled rfl).bind fun _ => settleClaimed_ofRow _

theorem processRow_clearance (rowId : String) :
    Accounted Clearance (fun _ _ => True) h (processRow config store dispatch rowId) := by
  unfold processRow
  refine accounted_call (clearance_of_unhandled rfl) fun cancelRequested => ?_
  split
  · trivial
  · refine accounted_call (clearance_of_unhandled rfl) fun found => ?_
    cases found with
    | none => trivial
    | some claimed =>
      refine accounted_call (clearance_of_unhandled rfl) fun cancelRequested => ?_
      cases cancelRequested with
      | true =>
        have hskipped : Handless (settleClaimed claimed dispatch.jobId
            (.skipped "CANCELLED_BY_REQUEST") >>= fun _ => .done RowOutcome.cancelled) :=
          (handless_of_plain (settleClaimed_plain claimed _ _)).bind fun _ => .done _
        exact accounted_of_handless hskipped
      | false =>
        have hrest : Always (fun _ => OfRow claimed dispatch) (do
            let _handler ← Program.lift (resolveHandler config dispatch.aggregateType)
            (runHandler config (entering store (dispatchPatch dispatch)) dispatch claimed).handle
              .done fun message => do
                settleClaimed claimed dispatch.jobId (.failed message)
                return .processed) := by
          refine (Always.lift _).bind fun _ => ?_
          exact (runHandler_ofRow _).handle (fun _ => .done _) fun message =>
            (settleClaimed_ofRow _).bind fun _ => .done _
        refine (hrest _).since.mono (fun h' q hq call hcall => ?_) fun _ _ _ => trivial
        obtain ⟨⟨g', hbehind⟩, hof⟩ := hq
        obtain ⟨hjob, hentity⟩ := hof call hcall
        exact ⟨_, rowId, claimed, g', by rw [hjob]; exact hbehind.symm, hentity⟩

theorem processRows_clearance (rowIds : List String) :
    Accounted Clearance (fun _ _ => True) h (processRows config store dispatch rowIds) := by
  induction rowIds generalizing h with
  | nil => trivial
  | cons rowId rowIds ih =>
    refine (processRow_clearance rowId).bind fun h' outcome _ => ?_
    cases outcome with
    | processed => exact ih
    | skippedClaim => exact ih
    | cancelled => trivial

theorem processChunk_clearance :
    Accounted Clearance (fun _ _ => True) h (processChunk config store dispatch) := by
  refine accounted_call (clearance_of_unhandled rfl) fun _ => ?_
  exact (processRows_clearance _).bind fun _ _ _ =>
    accounted_of_handless (handless_of_plain (finaliseIfComplete_plain _))

end Rows

section Entries

theorem dispatchChunks_handless : Handless (dispatchChunks config dispatch) :=
  Always.each (fun _ => handless_call rfl) _

theorem create_clearance {ctx : RequestContext} {input : SubmitBatchOperationInput} :
    Accounted Clearance (fun _ _ => True) h (createBatchOperationJob config ctx input) := by
  refine accounted_lift_bind fun _ _ => ?_
  refine accounted_call (clearance_of_unhandled rfl) fun jobNo => ?_
  refine accounted_call (clearance_of_unhandled rfl) fun created => ?_
  obtain ⟨job, rowIds⟩ := created
  cases (input.completed ctx).mode config with
  | sync =>
    simp only
    refine processChunk_clearance.bind fun h' _ _ => ?_
    exact accounted_call (clearance_of_unhandled rfl) fun found => trivial
  | async =>
    simp only
    have hhandled : Handless ((dispatchChunks config
        (job.dispatch (input.completed ctx).traceId rowIds)).handle (fun _ => .done job)
          fun error => markJobFailed job.id >>= fun _ => .fail error) :=
      dispatchChunks_handless.handle (fun _ => .done _) fun error =>
        (handless_of_plain (markJobFailed_plain _)).bind fun _ => .fail _
    exact accounted_of_handless hhandled

theorem redispatch_handless (job : BatchOperationJob) : Handless (redispatch config job) := by
  refine Always.handle ?_ (fun _ => .done _) fun _ => .done _
  refine (handless_call rfl).bind fun rowIds => ?_
  split
  · exact .done _
  · exact dispatchChunks_handless

theorem reconcile_handless : Handless (reconcile config) := by
  refine Always.handle ?_ (fun _ => .done _) fun _ => .done _
  refine (handless_call rfl).bind fun _ => (handless_call rfl).bind fun _ => ?_
  have hrecounted : Handless recountJobCounters :=
    (handless_call rfl).bind fun counted => Always.each (fun _ => handless_call rfl) _
  refine hrecounted.bind fun _ => (handless_call rfl).bind fun completable => ?_
  refine (Always.each (fun job => handless_of_plain (finaliseCompletable_plain job)) _).bind
    fun _ => ?_
  exact (handless_call rfl).bind fun resumable => Always.each redispatch_handless _

theorem program_clearance (entry : BatchEntry) :
    Accounted Clearance (fun _ _ => True) [] (BatchEntry.program config entry) := by
  cases entry with
  | submit ctx dto =>
    exact create_clearance.bind fun h job _ => accounted_of_handless (handless_call rfl)
  | chunk =>
    exact accounted_call (clearance_of_unhandled rfl) fun dispatch => processChunk_clearance
  | cancel jobId tenantId =>
    have hcancel : Handless (BatchEntry.program config (.cancel jobId tenantId)) :=
      (handless_of_plain (cancelBatchOperationJob_plain jobId tenantId)).bind fun _ =>
        handless_call rfl
    exact accounted_of_handless hcancel
  | reconcile => exact accounted_of_handless reconcile_handless

end Entries

end Clearance

section Cancelled

variable {config : BatchConfig} {ok : Pool (batchSystem config) → Label (batchSystem config) → Prop}
variable {before after : List (Label (batchSystem config))} {Q : Pool (batchSystem config)}
variable {db db' : BatchDb} {q : BatchStatement} {choice : BatchChoice} {a : Except String q.Result}

/-- The call has asked to cancel the job. -/
def Cancels (c : BatchCall) (jobId : String) : Prop := c = ⟨.setCancelRequested jobId, .ok ()⟩

/-- Whom a call has told to cancel a job, it stays told. -/
def CancelTold (db : BatchDb) (c : BatchCall) : Prop :=
  ∀ jobId, Cancels c jobId → ∃ job, db.jobs.get? jobId = some job ∧ job.cancelRequested = true

theorem cancelTold_of_serve (hserve : q.serve choice db = some (a, db')) :
    CancelTold db' ⟨q, a⟩ := by
  intro jobId hcancels
  cases hcancels
  cases choice with
  | settled =>
    change (if _ then some (Except.ok _, _) else some (Except.error _, _)) = _ at hserve
    split at hserve
    · rename_i hfound
      obtain ⟨_, hdb⟩ := Prod.mk.inj (Option.some.inj hserve)
      obtain ⟨job, hjob⟩ := Option.isSome_iff_exists.mp hfound
      refine ⟨{ job with cancelRequested := true }, ?_, rfl⟩
      have hkey : job.id = jobId := Table.key_of_get? hjob
      rw [← hdb, BatchDb.updateJobs, Table.get?_updateMany, hjob, Option.map_some, if_pos]
      exact decide_eq_true hkey
    · cases hserve
  | _ => cases hserve

theorem unseen_of_serve {jobId : String} {job : BatchOperationJob}
    (hjob : db.jobs.get? jobId = some job) (hcancelled : job.cancelRequested = true)
    (hserve : (BatchStatement.isCancelRequested jobId).serve choice db = some (.ok false, db')) :
    False := by
  cases choice with
  | settled =>
    change some (Except.ok _, _) = _ at hserve
    obtain ⟨hanswer, _⟩ := Prod.mk.inj (Option.some.inj hserve)
    have hfalse := Except.ok.inj hanswer
    rw [hjob, Option.any_some, hcancelled] at hfalse
    cases hfalse
  | _ => cases hserve

theorem cancel_telling :
    @Telling (batchSystem config) (fun _ => Clearance) (fun _ => True) CancelTold where
  accounted := program_clearance
  kept _ _ _ _ := trivial
  told _ _ hserves := by
    obtain ⟨choice, hserve⟩ := hserves
    exact cancelTold_of_serve hserve
  stays hserves hc := by
    obtain ⟨choice, hserve⟩ := hserves
    obtain ⟨g, more, hevolves⟩ := evolves_of_serve hserve
    intro jobId hcancels
    obtain ⟨job, hjob, hcancelled⟩ := hc jobId hcancels
    obtain ⟨job', hjob', hcontinues⟩ := hevolves.jobs jobId job hjob
    exact ⟨job', hjob', hcontinues.cancelled hcancelled⟩

/-- Once a job is to be cancelled, nobody finds it otherwise. -/
theorem cancel_seen {trace : List (Label (batchSystem config))}
    (hrun : Run ok ⟨BatchDb.empty, []⟩ trace Q) :
    InOrder (fun c (c' : BatchCall) => ∀ jobId, Cancels c jobId →
      c' ≠ ⟨.isCancelRequested jobId, .ok false⟩) trace := by
  refine cancel_telling.inOrder ?_ hrun rfl trivial
  intro e h q db a db' c _ _ hserves htold jobId hcancels heq
  cases heq
  obtain ⟨choice, hserve⟩ := hserves
  obtain ⟨job, hjob, hcancelled⟩ := htold jobId hcancels
  exact unseen_of_serve hjob hcancelled hserve

theorem mem_before_of_split {α : Type} {xs ys g t : List α} {x y : α}
    (heq : xs ++ ys = g ++ x :: y :: t) (hy : y ∉ ys) : x ∈ xs := by
  rw [List.append_cons] at heq
  rcases List.append_eq_append_iff.mp heq with ⟨m, _, hys⟩ | ⟨m, hxs, _⟩
  · exact absurd (hys ▸ List.mem_append_right _ (List.mem_cons_self ..)) hy
  · rw [hxs]
    simp

/-- Whenever a job is asked to be cancelled, a row that a handler is called for, then or later, had
been claimed before by the thread that calls it. -/
theorem claimed_before_cancel {l : Label (batchSystem config)} {i k : Nat} {call : HandlerCall}
    (hrun : Run ok ⟨BatchDb.empty, []⟩ (before ++ l :: after) Q)
    (hcancel : l.call? k = some ⟨.setCancelRequested call.context.batchOperationJobId, .ok ()⟩)
    (hmem : ⟨q, a⟩ ∈ calls i (before ++ l :: after)) (hq : q.handled? = some call) :
    ∃ rowId claimed, ⟨.claimRow rowId, .ok (some claimed)⟩ ∈ calls i before ∧
      claimed.entityId = call.entityId := by
  obtain ⟨g, rest, hsplit⟩ := List.append_of_mem hmem
  obtain ⟨_, hbecause⟩ := because_of_split program_clearance hrun rfl hsplit
  obtain ⟨g₀, rowId, claimed, g', rfl, hentity⟩ := hbecause call hq
  obtain ⟨_, hlater, _⟩ := List.pairwise_append.mp (cancel_seen hrun)
  refine ⟨rowId, claimed, ?_, hentity⟩
  rw [calls, List.filterMap_append] at hsplit
  simp only [List.append_assoc, List.cons_append, List.nil_append] at hsplit
  refine mem_before_of_split hsplit fun hseen => ?_
  -- a check behind the request to cancel would have found it
  obtain ⟨l', hl', hcall⟩ := List.mem_filterMap.mp hseen
  rcases List.mem_cons.mp hl' with rfl | hl'
  · cases l' with
    | start e => cases hcall
    | raised j q' => cases hcall
    | served j q' a' f =>
      simp only [Label.call?] at hcancel hcall
      split at hcancel
      · split at hcall
        · cases hcancel
          cases hcall
        · cases hcall
      · cases hcancel
  · exact (List.pairwise_cons.mp hlater).1 l' hl' k i _ _ hcancel hcall _ rfl rfl

end Cancelled

section Demos

def cancelOf : BatchCall → Option String
  | ⟨.setCancelRequested jobId, .ok ()⟩ => some jobId
  | _ => none

theorem cancelOf_eq_some {c : BatchCall} {jobId : String} (h : cancelOf c = some jobId) :
    c = ⟨.setCancelRequested jobId, .ok ()⟩ := by
  unfold cancelOf at h
  split at h
  · cases h
    rfl
  · cases h

/-- The job is cancelled between the claim of its row and the call of the handler. -/
def interrupted : List (Move (batchSystem demo)) :=
  cancelling.take 7 ++ ([.start (.cancel "j" (some "t")), .serve 1 .settled, .serve 1 .settled,
    .serve 0 (.verdict ⟨true, none⟩)] : List (Move (batchSystem demo)))

theorem claimed_before_cancel_interrupted :
    ∃ (before after : List (Label (batchSystem demo))) (Q : DemoPool)
      (l : Label (batchSystem demo)) (call : HandlerCall) (rowId : String)
      (claimed : ClaimedBatchOperationRow),
        Run (fun _ _ => True) ⟨BatchDb.empty, []⟩ (before ++ l :: after) Q ∧
        l.call? 1 = some ⟨.setCancelRequested call.context.batchOperationJobId, .ok ()⟩ ∧
        ⟨.claimRow rowId, .ok (some claimed)⟩ ∈ calls 0 before ∧
          claimed.entityId = call.entityId := by
  have hplay : (((⟨BatchDb.empty, []⟩ : DemoPool).record (fun _ _ => True) interrupted).map
      fun r => decide ((calls 1 r.1).filterMap cancelOf = ["j"] ∧
        ((calls 0 r.1).filterMap fun c => BatchStatement.handled? c.1).map
          (fun call => call.context.batchOperationJobId) = ["j"])) = some true := by
    decide
  obtain ⟨⟨trace, Q⟩, hrecord, hcheck⟩ := Option.map_eq_some_iff.mp hplay
  obtain ⟨hcancels, hhandled⟩ := of_decide_eq_true hcheck
  have hrun := Pool.record_run hrecord
  have hcancel := List.mem_singleton_self "j"
  rw [← hcancels] at hcancel
  obtain ⟨c, hc, hcall⟩ := List.mem_filterMap.mp hcancel
  rw [cancelOf_eq_some hcall] at hc
  have hmem := List.mem_singleton_self "j"
  rw [← hhandled] at hmem
  obtain ⟨call, hcalled, hjob⟩ := List.mem_map.mp hmem
  obtain ⟨⟨q, a⟩, hq, hof⟩ := List.mem_filterMap.mp hcalled
  obtain ⟨l, hl, hlabel⟩ := List.mem_filterMap.mp hc
  obtain ⟨before, after, rfl⟩ := List.append_of_mem hl
  rw [← hjob] at hlabel
  obtain ⟨rowId, claimed, hclaimed, hentity⟩ := claimed_before_cancel hrun hlabel hq hof
  exact ⟨before, after, Q, l, call, rowId, claimed, hrun, hlabel, hclaimed, hentity⟩

end Demos

end DddBoilerplate.Batch
