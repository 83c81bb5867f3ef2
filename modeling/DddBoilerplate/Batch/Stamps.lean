/- module: DddBoilerplate/Batch/Stamps
   generality: I
   digest: What the jobs and the chunks of a run keep of the requests that submitted them. -/

import DddBoilerplate.Batch.Pipeline
import DddBoilerplate.Concurrency.History

set_option autoImplicit false
set_option relaxedAutoImplicit false
set_option linter.all false

namespace DddBoilerplate.Batch

open Concurrency Context Store ClsRequestContextService

abbrev BatchCall := Call BatchStatement.interface

section Calls

variable {because : List BatchCall → BatchStatement → Prop} {h : List BatchCall}
variable {q : BatchStatement} {α : Type}

theorem always_call (hq : ∀ h, because h q) : Always because (call q) := by
  intro h
  refine ⟨hq h, fun a => ?_⟩
  cases a with
  | ok value => trivial
  | error failure => trivial

theorem always_mono {because' : List BatchCall → BatchStatement → Prop} {m : BatchProgram α}
    (hm : Always because m) (himp : ∀ h q, because h q → because' h q) : Always because' m :=
  fun h => (hm h).mono himp fun _ _ _ => trivial

/-- What follows a statement knows its answer. -/
theorem accounted_call {f : q.Result → BatchProgram α} {post : List BatchCall → α → Prop}
    (hq : because h q) (hf : ∀ value, Accounted because post (h ++ [⟨q, .ok value⟩]) (f value)) :
    Accounted because post h (call q >>= f) := by
  refine ⟨hq, fun a => ?_⟩
  cases a with
  | ok value => exact hf value
  | error failure => trivial

end Calls

section Plain

/-- The request neither creates a job, nor passes a chunk on, nor calls a handler. -/
def Plain : BatchStatement → Prop
  | .validate _ | .execute _ | .createJobWithRows _ _ | .enqueue _ => False
  | _ => True

abbrev AllPlain {α : Type} (m : BatchProgram α) : Prop := Always (fun _ => Plain) m

theorem closeJob_plain (jobId : String) (status : BatchOperationJobStatus) :
    AllPlain (call (.closeJob jobId status)) := always_call fun _ => trivial

theorem findJob_plain (jobId : String) : AllPlain (call (.findJob jobId)) :=
  always_call fun _ => trivial

theorem settleClaimed_plain (claimed : ClaimedBatchOperationRow) (jobId : String)
    (settlement : BatchOperationRowSettlement) :
    AllPlain (settleClaimed claimed jobId settlement) :=
  (always_call fun _ => trivial).bind fun _ => .done ()

theorem finaliseJob_plain (jobId : String) : AllPlain (finaliseJob jobId) := by
  refine (findJob_plain _).bind fun found => ?_
  cases found with
  | none => exact .done _
  | some job => exact (closeJob_plain _ _).bind fun updated => .done _

theorem finaliseCancelled_plain (jobId : String) : AllPlain (finaliseCancelled jobId) := by
  refine (closeJob_plain _ _).bind fun updated => ?_
  split
  · exact (findJob_plain _).bind fun found => .done _
  · exact .done _

theorem markJobFailed_plain (jobId : String) : AllPlain (markJobFailed jobId) :=
  (closeJob_plain _ _).bind fun _ => .done _

theorem finaliseDue_plain (job : BatchOperationJob) : AllPlain (finaliseDue job) := by
  unfold finaliseDue
  split
  · exact finaliseJob_plain _
  · split
    · refine (always_call fun _ => trivial).bind fun pending => ?_
      split
      · exact finaliseCancelled_plain _
      · exact .done _
    · exact .done _

theorem finaliseIfComplete_plain (jobId : String) : AllPlain (finaliseIfComplete jobId) := by
  refine (findJob_plain _).bind fun found => ?_
  cases found with
  | none => exact .done _
  | some job =>
    simp only
    split
    · exact .done _
    · refine (finaliseDue_plain job).bind fun finalised => ?_
      cases finalised with
      | none => exact .done _
      | some finalised =>
        exact (always_call fun _ => trivial).handle (fun _ => .done _) fun _ => .done _

theorem cancelBatchOperationJob_plain (jobId : String) (tenantId : Option String) :
    AllPlain (cancelBatchOperationJob jobId tenantId) := by
  refine (findJob_plain _).bind fun found => ?_
  cases found with
  | none => exact .fail _
  | some job =>
    refine (Always.lift _).bind fun _ => ?_
    split
    · exact .fail _
    · refine (always_call fun _ => trivial).bind fun _ => Always.bind ?_ fun cancelled => ?_
      · refine (always_call fun _ => trivial).bind fun pending => ?_
        split
        · exact finaliseCancelled_plain _
        · exact .done _
      · cases cancelled with
        | none => exact (findJob_plain _).bind fun found => .done _
        | some cancelled => exact .done _

theorem isolated_plain {body : BatchProgram Unit} (h : AllPlain body) : AllPlain (isolated body) :=
  Always.handle h (fun _ => .done _) fun _ => .done _

theorem finaliseCompletable_plain (candidate : BatchOperationJob) :
    AllPlain (finaliseCompletable candidate) := by
  refine isolated_plain ((finaliseJob_plain _).bind fun finalised => ?_)
  cases finalised with
  | none => exact .done _
  | some finalised => exact always_call fun _ => trivial

end Plain

variable (config : BatchConfig)

section Rows

/-- The handler is called for a row of the chunk, in the context the row is run with. -/
def CalledIn (store : ClsStore) (dispatch : BatchOperationDispatch) (call : HandlerCall) : Prop :=
  ∃ entityId, call = handlerCall (entering store (dispatchPatch dispatch)) dispatch entityId

/-- What a worker asks for a chunk. -/
def AskedIn (store : ClsStore) (dispatch : BatchOperationDispatch) : BatchStatement → Prop
  | .validate call | .execute call => CalledIn store dispatch call
  | .createJobWithRows _ _ | .enqueue _ => False
  | _ => True

variable {config}
variable {store : ClsStore} {dispatch : BatchOperationDispatch}

abbrev OfChunk {α : Type} (store : ClsStore) (dispatch : BatchOperationDispatch)
    (m : BatchProgram α) : Prop :=
  Always (fun _ => AskedIn store dispatch) m

theorem ofChunk_of_plain {α : Type} {m : BatchProgram α} (h : AllPlain m) :
    OfChunk store dispatch m := by
  refine always_mono h fun _ q hq => ?_
  cases q with
  | validate call => exact hq.elim
  | execute call => exact hq.elim
  | createJobWithRows data ids => exact hq.elim
  | enqueue dispatch => exact hq.elim
  | _ => trivial

theorem settleClaimed_ofChunk (claimed : ClaimedBatchOperationRow) (jobId : String)
    (settlement : BatchOperationRowSettlement) :
    OfChunk store dispatch (settleClaimed claimed jobId settlement) :=
  ofChunk_of_plain (settleClaimed_plain _ _ _)

theorem runHandler_ofChunk (claimed : ClaimedBatchOperationRow) :
    OfChunk store dispatch
      (runHandler config (entering store (dispatchPatch dispatch)) dispatch claimed) := by
  have hcalled : CalledIn store dispatch
      (handlerCall (entering store (dispatchPatch dispatch)) dispatch claimed.entityId) := ⟨_, rfl⟩
  unfold runHandler
  refine Always.handle ?_ (fun _ => .done _) fun message =>
    (settleClaimed_ofChunk _ _ _).bind fun _ => .done _
  refine (always_call fun _ => hcalled).bind fun verdict => ?_
  split
  · exact settleClaimed_ofChunk _ _ _
  · exact (always_call fun _ => hcalled).bind fun _ => settleClaimed_ofChunk _ _ _

theorem processRow_ofChunk (rowId : String) :
    OfChunk store dispatch (processRow config store dispatch rowId) := by
  unfold processRow
  refine (always_call fun _ => trivial).bind fun cancelRequested => ?_
  split
  · exact .done _
  · refine (always_call fun _ => trivial).bind fun claimed => ?_
    cases claimed with
    | none => exact .done _
    | some claimed =>
      refine (always_call fun _ => trivial).bind fun cancelRequested => ?_
      split
      · exact (settleClaimed_ofChunk _ _ _).bind fun _ => .done _
      · refine (Always.lift _).bind fun _ => ?_
        exact (runHandler_ofChunk claimed).handle (fun _ => .done _) fun message =>
          (settleClaimed_ofChunk _ _ _).bind fun _ => .done _

theorem processRows_ofChunk (rowIds : List String) :
    OfChunk store dispatch (processRows config store dispatch rowIds) := by
  induction rowIds with
  | nil => exact .done ()
  | cons rowId rowIds ih =>
    refine (processRow_ofChunk rowId).bind fun outcome => ?_
    cases outcome with
    | processed => exact ih
    | skippedClaim => exact ih
    | cancelled => exact .done ()

/-- All a worker does with a chunk. -/
theorem processChunk_ofChunk : OfChunk store dispatch (processChunk config store dispatch) :=
  (always_call fun _ => trivial).bind fun _ => (processRows_ofChunk dispatch.rowIds).bind fun _ =>
    ofChunk_of_plain (finaliseIfComplete_plain dispatch.jobId)

end Rows

section Entries

/-- The job was answered as created for the queue, or as one to go on with. -/
def Dispatched (h : List BatchCall) (job : BatchOperationJob) : Prop :=
  (∃ data ids rowIds, ⟨.createJobWithRows data ids, .ok (job, rowIds)⟩ ∈ h ∧ data.mode = .async) ∨
    ∃ jobs, ⟨.findResumableJobs, .ok jobs⟩ ∈ h ∧ job ∈ jobs

/-- The call is made by the request that submitted its job, or for a chunk from the queue. -/
def Handled (entry : BatchEntry) (h : List BatchCall) (call : HandlerCall) : Prop :=
  (∃ ctx dto data ids job rowIds traceId rows, entry = .submit ctx dto ∧ data.mode = .sync ∧
      ⟨.createJobWithRows data ids, .ok (job, rowIds)⟩ ∈ h ∧
      CalledIn (some (some ctx)) (job.dispatch traceId rows) call) ∨
    ∃ dispatch, ⟨.takeChunk, .ok dispatch⟩ ∈ h ∧ CalledIn none dispatch call

/-- What the requests that concern the origin of a job are made because of. -/
def Because (entry : BatchEntry) (h : List BatchCall) : BatchStatement → Prop
  | .validate call | .execute call => Handled entry h call
  | .enqueue dispatch =>
    ∃ job traceId rowIds, dispatch = job.dispatch traceId rowIds ∧ Dispatched h job
  | .createJobWithRows data _ => ∃ ctx dto jobNo, entry = .submit ctx dto ∧
      data = (dto.input.completed ctx).newJob config jobNo
  | _ => True

variable {config}
variable {entry : BatchEntry} {h : List BatchCall}

theorem because_of_asked {store : ClsStore} {dispatch : BatchOperationDispatch}
    {q : BatchStatement}
    (hcall : ∀ call, CalledIn store dispatch call → Handled entry h call)
    (hasked : AskedIn store dispatch q) : Because config entry h q := by
  cases q with
  | validate call => exact hcall call hasked
  | execute call => exact hcall call hasked
  | createJobWithRows data ids => exact hasked.elim
  | enqueue dispatch => exact hasked.elim
  | _ => trivial

theorem because_of_plain {q : BatchStatement} (hq : Plain q) : Because config entry h q := by
  cases q with
  | validate call => exact hq.elim
  | execute call => exact hq.elim
  | createJobWithRows data ids => exact hq.elim
  | enqueue dispatch => exact hq.elim
  | _ => trivial

theorem always_of_plain {α : Type} {m : BatchProgram α} (hm : AllPlain m) :
    Always (Because config entry) m :=
  always_mono hm fun _ _ => because_of_plain

theorem Dispatched.mono {h' : List BatchCall} {job : BatchOperationJob} (hjob : Dispatched h job)
    (hsub : h ⊆ h') : Dispatched h' job := by
  rcases hjob with ⟨data, ids, rowIds, hcreated, hmode⟩ | ⟨jobs, hresumable, hjob⟩
  · exact .inl ⟨data, ids, rowIds, hsub hcreated, hmode⟩
  · exact .inr ⟨jobs, hsub hresumable, hjob⟩

/-- A chunk is processed because of how its scope and its dispatch came about. -/
theorem processChunk_because {store : ClsStore} {dispatch : BatchOperationDispatch}
    (hcall : ∀ h', h <+: h' → ∀ call, CalledIn store dispatch call → Handled entry h' call) :
    Accounted (Because config entry) (fun _ _ => True) h
      (processChunk config store dispatch) :=
  (processChunk_ofChunk h).since.mono (fun _ _ hq => because_of_asked (hcall _ hq.1) hq.2)
    fun _ _ _ => trivial

theorem dispatchChunks_because {job : BatchOperationJob} {traceId : Option String}
    {rowIds : List String} (hjob : Dispatched h job) :
    Accounted (Because config entry) (fun h' _ => Dispatched h' job) h
      (dispatchChunks config (job.dispatch traceId rowIds)) := by
  refine Accounted.each hjob fun chunk _ h hkept => ?_
  refine ⟨⟨job, traceId, chunk, rfl, hkept⟩, fun a => ?_⟩
  cases a with
  | ok u => exact hkept.mono (List.subset_append_left _ _)
  | error failure => trivial

/-- What was answered before is not forgotten where a failure is. -/
theorem isolated_because {call : BatchCall} {body : BatchProgram Unit}
    (hbody : Accounted (Because config entry) (fun _ _ => True) h body) (hcall : call ∈ h) :
    Accounted (Because config entry) (fun h' _ => call ∈ h') h (isolated body) := by
  have hkept : ∀ h q a, call ∈ h → Because config entry h q → call ∈ h ++ [⟨q, a⟩] :=
    fun h q a hcall _ => List.mem_append_left _ hcall
  exact hbody.handle hcall hkept (fun _ _ hq => hq) (fun _ _ hcall _ => hcall) fun _ _ hcall => hcall

theorem redispatch_because {jobs : List BatchOperationJob} {job : BatchOperationJob}
    (hjob : job ∈ jobs) (hresumable : ⟨.findResumableJobs, .ok jobs⟩ ∈ h) :
    Accounted (Because config entry) (fun h' _ => ⟨.findResumableJobs, .ok jobs⟩ ∈ h') h
      (redispatch config job) := by
  refine isolated_because (accounted_call trivial fun rowIds => ?_) hresumable
  split
  · trivial
  · have hlisted := List.mem_append_left [⟨.pendingRowIds job.id, .ok rowIds⟩] hresumable
    exact (dispatchChunks_because (.inr ⟨jobs, hlisted, hjob⟩)).mono (fun _ _ hq => hq)
      fun _ _ _ => trivial

theorem reconcile_because :
    Accounted (Because config entry) (fun _ _ => True) h (reconcile config) := by
  have hbody : Accounted (Because config entry) (fun _ _ => True) h (do
      call .resetStuckRows
      call .abandonRows
      recountJobCounters
      let completable ← call .findCompletableJobs
      Program.each finaliseCompletable completable
      let resumable ← call .findResumableJobs
      Program.each (redispatch config) resumable) := by
    refine accounted_call trivial fun _ => accounted_call trivial fun _ => ?_
    have hrecount : AllPlain recountJobCounters :=
      (always_call fun _ => trivial).bind fun counted =>
        Always.each (fun entry => always_call fun _ => trivial) counted
    refine (always_of_plain hrecount _).bind fun h _ _ => ?_
    refine accounted_call trivial fun completable => ?_
    refine (always_of_plain (Always.each finaliseCompletable_plain completable) _).bind
      fun h' _ _ => ?_
    refine accounted_call trivial fun resumable => ?_
    have hlisted : (⟨.findResumableJobs, .ok resumable⟩ : BatchCall) ∈
        h' ++ [⟨.findResumableJobs, .ok resumable⟩] :=
      List.mem_append_right _ (List.mem_singleton_self _)
    have heach := @Accounted.each _ _ (Because config entry) (fun h =>
      (⟨.findResumableJobs, .ok resumable⟩ : BatchCall) ∈ h) (redispatch config) resumable _ hlisted
      fun job hjob h hkept => redispatch_because hjob hkept
    exact heach.mono (fun _ _ hq => hq) fun _ _ _ => trivial
  have hhandled := @Accounted.handle _ _ _ (Because config entry) _ (fun _ _ => True)
    (Because config entry) (fun _ => True) h _ (fun _ => .done ()) (fun _ => .done ()) hbody trivial
  exact hhandled (fun _ _ _ _ _ => trivial) (fun _ _ hq => hq) (fun _ _ _ _ => trivial)
    fun _ _ _ => trivial

/-- A request's own chunk is processed in its scope, and one for the queue is handed on. -/
theorem create_because {ctx : RequestContext} {dto : SubmitBatchOperationDto} :
    Accounted (Because config (.submit ctx dto)) (fun _ _ => True) []
      (createBatchOperationJob config ctx dto.input) := by
  refine accounted_lift_bind fun _ _ => ?_
  refine accounted_call trivial fun jobNo => ?_
  refine accounted_call ⟨ctx, dto, jobNo, rfl, rfl⟩ fun created => ?_
  obtain ⟨job, rowIds⟩ := created
  have hmode : ((dto.input.completed ctx).newJob config jobNo).mode =
      (dto.input.completed ctx).mode config := rfl
  generalize (dto.input.completed ctx).newJob config jobNo = data at *
  generalize (dto.input.completed ctx).records = ids
  have hcreated : (⟨.createJobWithRows data ids, .ok (job, rowIds)⟩ : BatchCall) ∈
      ([] ++ [⟨.nextNumber, .ok jobNo⟩]) ++ [⟨.createJobWithRows data ids, .ok (job, rowIds)⟩] :=
    List.mem_append_right _ (List.mem_singleton_self _)
  cases hcase : (dto.input.completed ctx).mode config with
  | sync =>
    simp only
    refine Accounted.bind (processChunk_because fun h' hpre call hcalled => ?_) fun h' _ _ => ?_
    · exact .inl ⟨ctx, dto, data, ids, job, rowIds, _, rowIds, rfl, hmode.trans hcase,
        hpre.subset hcreated, hcalled⟩
    · exact accounted_call trivial fun found => trivial
  | async =>
    simp only
    have hchunks := @dispatchChunks_because config (.submit ctx dto) _ job
      (dto.input.completed ctx).traceId rowIds (.inl ⟨data, ids, rowIds, hcreated, hmode.trans hcase⟩)
    have hhandled := @Accounted.handle _ _ _ (Because config (.submit ctx dto)) _ (fun _ _ => True)
      (Because config (.submit ctx dto)) (fun _ => True) _ _ (fun _ => .done job)
      (fun error => markJobFailed job.id >>= fun _ => .fail error) hchunks trivial
    exact hhandled (fun _ _ _ _ _ => trivial) (fun _ _ hq => hq) (fun _ _ _ _ => trivial)
      fun h' error _ => (always_of_plain (markJobFailed_plain job.id) h').bind fun _ _ _ => trivial

theorem submit_because {ctx : RequestContext} {dto : SubmitBatchOperationDto} :
    Accounted (Because config (.submit ctx dto)) (fun _ _ => True) []
      (BatchEntry.program config (.submit ctx dto)) := by
  have hrespond : ∀ job, Always (Because config (.submit ctx dto)) (call (.respond job)) :=
    fun job => always_call fun _ => trivial
  exact create_because.bind fun h job _ => hrespond job h

theorem program_because (entry : BatchEntry) :
    Accounted (Because config entry) (fun _ _ => True) [] (BatchEntry.program config entry) := by
  cases entry with
  | submit ctx dto => exact submit_because
  | chunk =>
    refine accounted_call trivial fun dispatch => ?_
    refine processChunk_because fun h' hpre call hcalled => ?_
    have htaken := hpre.subset (List.mem_append_right _ (List.mem_singleton_self _))
    exact .inr ⟨dispatch, htaken, hcalled⟩
  | cancel jobId tenantId =>
    have hcancel : AllPlain (BatchEntry.program config (.cancel jobId tenantId)) :=
      (cancelBatchOperationJob_plain jobId tenantId).bind fun _ => always_call fun _ => trivial
    exact always_of_plain hcancel []
  | reconcile => exact reconcile_because

end Entries

section Effects

/-- What a job keeps of its submission. -/
structure Stamp where
  tenantId : Option String
  companyId : Option String
  mode : BatchOperationMode

def NewBatchOperationJob.stamp (data : NewBatchOperationJob) : Stamp :=
  ⟨data.tenantId, data.companyId, data.mode⟩

/-- A chunk in the queue is one of a job for the queue. -/
def BatchOperationDispatch.stamp (dispatch : BatchOperationDispatch) : Stamp :=
  ⟨dispatch.tenantId, dispatch.companyId, .async⟩

def BatchDb.stampOf (db : BatchDb) (jobId : String) : Option Stamp :=
  (db.jobs.get? jobId).map fun job => job.toNewBatchOperationJob.stamp

/-- What a call does to the stamps and to the queue, and what its answer says of them. -/
inductive Effect (db : BatchDb) : BatchCall → BatchDb → Prop where
  | creates {data : NewBatchOperationJob} {ids rowIds : List String} {job : BatchOperationJob}
      {db' : BatchDb} (free : db.stampOf job.id = none) (stamp : job.stamp = data.stamp)
      (stamps : ∀ id, db'.stampOf id = if job.id = id then some job.stamp else db.stampOf id)
      (queue : db'.queue = db.queue) :
      Effect db ⟨.createJobWithRows data ids, .ok (job, rowIds)⟩ db'
  | enqueues {dispatch : BatchOperationDispatch} {a : Except String Unit} {db' : BatchDb}
      (stamps : db'.stampOf = db.stampOf) (queue : ∀ d ∈ db'.queue, d ∈ db.queue ∨ d = dispatch) :
      Effect db ⟨.enqueue dispatch, a⟩ db'
  | takes {dispatch : BatchOperationDispatch} {db' : BatchDb} (queued : dispatch ∈ db.queue)
      (stamps : db'.stampOf = db.stampOf) (queue : db'.queue ⊆ db.queue) :
      Effect db ⟨.takeChunk, .ok dispatch⟩ db'
  | resumes {jobs : List BatchOperationJob}
      (stored : ∀ job ∈ jobs, db.stampOf job.id = some job.stamp ∧ job.mode = .async) :
      Effect db ⟨.findResumableJobs, .ok jobs⟩ db
  | keeps {q : BatchStatement} {a : Except String q.Result} {db' : BatchDb}
      (notCreated : ∀ data ids answer, (⟨q, a⟩ : BatchCall) ≠
        ⟨.createJobWithRows data ids, .ok answer⟩)
      (notTaken : ∀ dispatch, (⟨q, a⟩ : BatchCall) ≠ ⟨.takeChunk, .ok dispatch⟩)
      (notResumed : ∀ jobs, (⟨q, a⟩ : BatchCall) ≠ ⟨.findResumableJobs, .ok jobs⟩)
      (stamps : db'.stampOf = db.stampOf) (queue : db'.queue = db.queue) : Effect db ⟨q, a⟩ db'

variable {db db' : BatchDb}

theorem stampOf_updateJobs {p : BatchOperationJob → Bool}
    {f : BatchOperationJob → BatchOperationJob} {hf : ∀ job, (f job).id = job.id}
    (hstamp : ∀ job, (f job).stamp = job.stamp) :
    (db.updateJobs p f hf).stampOf = db.stampOf := by
  funext id
  simp only [BatchDb.stampOf, BatchDb.updateJobs, Table.get?_updateMany, Option.map_map]
  cases db.jobs.get? id with
  | none => rfl
  | some job =>
    simp only [Option.map_some, Function.comp_apply]
    split
    · rw [hstamp]
    · rfl

/-- The statements whose answers say where a job comes from. -/
def BatchStatement.tellsOrigin : BatchStatement → Bool
  | createJobWithRows _ _ | takeChunk | findResumableJobs => true
  | _ => false

/-- A call of no such kind that leaves the stamps and the queue. -/
theorem Effect.of_other {q : BatchStatement} {a : Except String q.Result}
    (hq : q.tellsOrigin = false) (hstamps : db'.stampOf = db.stampOf)
    (hqueue : db'.queue = db.queue) : Effect db ⟨q, a⟩ db' := by
  refine .keeps (fun data ids answer h => ?_) (fun dispatch h => ?_) (fun jobs h => ?_) hstamps
    hqueue
  · cases (Sigma.mk.inj h).1
    cases hq
  · cases (Sigma.mk.inj h).1
    cases hq
  · cases (Sigma.mk.inj h).1
    cases hq

theorem effect_refused {q : BatchStatement} {message : String} :
    Effect db ⟨q, .error message⟩ db :=
  .keeps (fun _ _ _ h => nomatch h) (fun _ h => nomatch h) (fun _ h => nomatch h) rfl rfl

theorem effect_created {data : NewBatchOperationJob} {ids rowIds order : List String} {id : String}
    (hfree : db.jobs.get? id = none) :
    Effect db ⟨.createJobWithRows data ids, .ok (BatchDb.created id data ids.length, order)⟩
      (db.createJob data ids id rowIds) := by
  have hstamps : ∀ jobId, (db.createJob data ids id rowIds).stampOf jobId =
      if id = jobId then some data.stamp else db.stampOf jobId := by
    intro jobId
    have hget := @Table.get?_insert _ _ _ _ db.jobs (BatchDb.created id data ids.length) hfree jobId
    simp only [BatchDb.stampOf, BatchDb.createJob, hget]
    by_cases hid : id = jobId
    · simp [BatchDb.created, hid]
    · simp [BatchDb.created, hid]
  refine .creates ?_ rfl hstamps rfl
  simp [BatchDb.stampOf, BatchDb.created, hfree]

theorem stored_of_pick {ids : List String} {jobs : List BatchOperationJob}
    (h : db.pick db.isResumable ids = some jobs) :
    ∀ job ∈ jobs, db.stampOf job.id = some job.stamp ∧ job.mode = .async := by
  intro job hjob
  unfold BatchDb.pick at h
  split at h
  · rename_i hpick
    cases h
    obtain ⟨id, hid, hget⟩ := List.mem_filterMap.mp hjob
    have hresumable := hpick.2.1 id hid
    rw [hget] at hresumable
    have hkey : job.id = id := Table.key_of_get? hget
    simp only [Option.any_some, BatchDb.isResumable, Bool.and_eq_true, decide_eq_true_eq]
      at hresumable
    refine ⟨?_, hresumable.1.1.2⟩
    rw [BatchDb.stampOf, hkey, hget]
    rfl
  · cases h

theorem settle_stamps {rowId jobId : String} {claimToken : Nat}
    {settlement : BatchOperationRowSettlement} :
    (db.settle rowId jobId claimToken settlement).2.stampOf = db.stampOf ∧
      (db.settle rowId jobId claimToken settlement).2.queue = db.queue := by
  simp only [BatchDb.settle]
  split
  · exact ⟨stampOf_updateJobs fun _ => rfl, rfl⟩
  · exact ⟨rfl, rfl⟩

theorem effect_of_serve {q : BatchStatement} {choice : BatchChoice} {a : Except String q.Result}
    (h : q.serve choice db = some (a, db')) : Effect db ⟨q, a⟩ db' := by
  unfold BatchStatement.serve at h
  split at h
  · cases h
    exact effect_refused
  · cases h
    exact .of_other rfl rfl rfl
  · split at h
    · rename_i id rowIds order hfresh
      split at h
      · cases h
        exact effect_refused
      · cases h
        exact effect_created hfresh.2.2.1
    · cases h
  · cases h
    exact .of_other rfl rfl rfl
  · cases h
    exact .of_other rfl (stampOf_updateJobs fun _ => rfl) rfl
  · cases h
    exact .of_other rfl (stampOf_updateJobs fun _ => rfl) rfl
  · cases h
    exact .of_other rfl rfl rfl
  · cases h
    exact .of_other rfl (stampOf_updateJobs fun _ => rfl) rfl
  · obtain ⟨jobs, _, heq⟩ := Option.map_eq_some_iff.mp h
    cases heq
    exact .of_other rfl rfl rfl
  · obtain ⟨jobs, hpick, heq⟩ := Option.map_eq_some_iff.mp h
    cases heq
    exact .resumes (stored_of_pick hpick)
  · split at h
    · cases h
      exact .of_other rfl (stampOf_updateJobs fun _ => rfl) rfl
    · cases h
      exact effect_refused
  · cases h
    exact .of_other rfl rfl rfl
  · split at h
    · cases h
      exact .of_other rfl rfl rfl
    · cases h
  · cases h
    exact .of_other rfl rfl rfl
  · cases h
    exact .of_other rfl settle_stamps.1 settle_stamps.2
  · cases h
    exact .of_other rfl rfl rfl
  · cases h
    exact .of_other rfl rfl rfl
  · cases h
    exact .of_other rfl rfl rfl
  · cases h
    exact .of_other rfl rfl rfl
  · cases h
    exact .enqueues rfl fun d hd => (List.mem_append.mp hd).imp_right List.mem_singleton.mp
  · cases h
    exact .enqueues rfl fun d hd => (List.mem_append.mp hd).imp_right List.mem_singleton.mp
  · rename_i index kept
    obtain ⟨dispatch, hget, heq⟩ := Option.map_eq_some_iff.mp h
    cases heq
    have hqueued : dispatch ∈ db.queue := List.mem_of_getElem? hget
    cases kept with
    | true => exact .takes hqueued rfl (List.Subset.refl _)
    | false => exact .takes hqueued rfl (List.eraseIdx_subset ..)
  · cases h
    exact .of_other rfl rfl rfl
  · cases h
    exact .of_other rfl rfl rfl
  · cases h

end Effects

section Ledger

variable {db db' : BatchDb} {trace : List (Label (batchSystem config))}

/-- A request in this context submitted the job. -/
def SubmittedBy (trace : List (Label (batchSystem config))) (jobId : String) (ctx : RequestContext)
    (dto : SubmitBatchOperationDto) : Prop :=
  ∃ (i : Nat) (data : NewBatchOperationJob) (ids : List String) (job : BatchOperationJob)
    (rowIds : List String), (entries trace)[i]? = some (.submit ctx dto) ∧
      (⟨.createJobWithRows data ids, .ok (job, rowIds)⟩ : BatchCall) ∈ calls i trace ∧ job.id = jobId

/-- The stamp a request gives to its job: the controller passes no company on. -/
def submissionStamp (ctx : RequestContext) (dto : SubmitBatchOperationDto) : Stamp :=
  ⟨ctx .tenantId, none, dto.input.mode config⟩

/-- What a call was answered of a job is what is stored of it. -/
structure Consistent (db : BatchDb) (call : BatchCall) : Prop where
  created : ∀ data ids job rowIds, call = ⟨.createJobWithRows data ids, .ok (job, rowIds)⟩ →
    db.stampOf job.id = some job.stamp ∧ job.stamp = data.stamp
  taken : ∀ dispatch, call = ⟨.takeChunk, .ok dispatch⟩ →
    db.stampOf dispatch.jobId = some dispatch.stamp
  resumed : ∀ jobs, call = ⟨.findResumableJobs, .ok jobs⟩ →
    ∀ job ∈ jobs, db.stampOf job.id = some job.stamp ∧ job.mode = .async

/-- Every job has the stamp of its submission, and all that is passed on agrees with it. -/
structure Ledger (trace : List (Label (batchSystem config))) (db : BatchDb) : Prop where
  submitted : ∀ jobId ctx dto, SubmittedBy config trace jobId ctx dto →
    db.stampOf jobId = some (submissionStamp config ctx dto)
  origin : ∀ jobId stamp, db.stampOf jobId = some stamp →
    ∃ ctx dto, SubmittedBy config trace jobId ctx dto
  queued : ∀ dispatch ∈ db.queue, db.stampOf dispatch.jobId = some dispatch.stamp
  told : ∀ i, ∀ call ∈ calls i trace, Consistent db call

variable {config}

theorem Consistent.grows {call : BatchCall} (h : Consistent db call)
    (hgrows : ∀ id stamp, db.stampOf id = some stamp → db'.stampOf id = some stamp) :
    Consistent db' call where
  created data ids job rowIds heq :=
    ⟨hgrows _ _ (h.created data ids job rowIds heq).1, (h.created data ids job rowIds heq).2⟩
  taken dispatch heq := hgrows _ _ (h.taken dispatch heq)
  resumed jobs heq job hjob :=
    ⟨hgrows _ _ (h.resumed jobs heq job hjob).1, (h.resumed jobs heq job hjob).2⟩

/-- A chunk that is handed on is one of the job it was made from. -/
theorem stamp_of_dispatched {h : List BatchCall} {job : BatchOperationJob}
    {traceId : Option String} {rowIds : List String} (hjob : Dispatched h job)
    (htold : ∀ call ∈ h, Consistent db call) :
    db.stampOf (job.dispatch traceId rowIds).jobId = some (job.dispatch traceId rowIds).stamp := by
  have hstamp : db.stampOf job.id = some job.stamp ∧ job.mode = .async := by
    rcases hjob with ⟨data, ids, rowIds, hcreated, hmode⟩ | ⟨jobs, hresumable, hjob⟩
    · obtain ⟨hstamp, hsame⟩ := (htold _ hcreated).created _ _ _ _ rfl
      exact ⟨hstamp, (congrArg Stamp.mode hsame).trans hmode⟩
    · exact (htold _ hresumable).resumed _ rfl job hjob
  obtain ⟨hstored, hasync⟩ := hstamp
  change db.stampOf job.id = _
  rw [hstored]
  simp only [NewBatchOperationJob.stamp, BatchOperationDispatch.stamp, BatchOperationJob.dispatch,
    hasync]

/-- What was stored of a job's origin stays, whatever is served. -/
theorem Effect.grows {call : BatchCall} (h : Effect db call db') {id : String} {stamp : Stamp}
    (hstamp : db.stampOf id = some stamp) : db'.stampOf id = some stamp := by
  cases h with
  | @creates data ids rowIds job db' hfree _ hstamps hqueue =>
    rw [hstamps, if_neg]
    · exact hstamp
    · rintro rfl
      cases hfree.symm.trans hstamp
  | enqueues hstamps hqueue => rw [hstamps, hstamp]
  | takes hqueued hstamps hqueue => rw [hstamps, hstamp]
  | resumes hstored => exact hstamp
  | keeps hcreated htaken hresumed hstamps hqueue => rw [hstamps, hstamp]

/-- What is answered of a job agrees with what is stored of it by then. -/
theorem Effect.consistent {call : BatchCall} (h : Effect db call db')
    (hqueued : ∀ dispatch ∈ db.queue, db.stampOf dispatch.jobId = some dispatch.stamp) :
    Consistent db' call := by
  cases h with
  | @creates data ids rowIds job db' hfree hsame hstamps hqueue =>
    refine ⟨fun _ _ _ _ heq => ?_, fun _ heq => ?_, fun _ heq => ?_⟩
    · cases heq
      exact ⟨(hstamps _).trans (if_pos rfl), hsame⟩
    · cases heq
    · cases heq
  | enqueues hstamps hqueue =>
    exact ⟨fun _ _ _ _ heq => (nomatch heq), fun _ heq => (nomatch heq), fun _ heq => (nomatch heq)⟩
  | takes htaken hstamps hqueue =>
    refine ⟨fun _ _ _ _ heq => (nomatch heq), fun _ heq => ?_, fun _ heq => (nomatch heq)⟩
    cases heq
    rw [hstamps]
    exact hqueued _ htaken
  | resumes hstored =>
    refine ⟨fun _ _ _ _ heq => (nomatch heq), fun _ heq => (nomatch heq), fun _ heq => ?_⟩
    cases heq
    exact hstored
  | keeps hcreated htaken hresumed hstamps hqueue =>
    exact ⟨fun _ _ _ _ heq => absurd heq (hcreated _ _ _), fun _ heq => absurd heq (htaken _),
      fun _ heq => absurd heq (hresumed _)⟩

section Runs

variable {Q R : Pool (batchSystem config)} {ok : Pool (batchSystem config) → Label _ → Prop}

theorem SubmittedBy.append {later : List (Label (batchSystem config))} {jobId : String}
    {ctx : RequestContext} {dto : SubmitBatchOperationDto}
    (h : SubmittedBy config trace jobId ctx dto) :
    SubmittedBy config (trace ++ later) jobId ctx dto := by
  obtain ⟨i, data, ids, job, rowIds, hentry, hcall, hid⟩ := h
  refine ⟨i, data, ids, job, rowIds, entry_later hentry, ?_, hid⟩
  rw [calls, List.filterMap_append]
  exact List.mem_append_left _ hcall

/-- A job that was not submitted before is submitted by the step. -/
theorem SubmittedBy.of_snoc (hcounted : AllAccounted (Because config) trace Q)
    {l : Label (batchSystem config)} {jobId : String} {ctx : RequestContext}
    {dto : SubmitBatchOperationDto} (h : SubmittedBy config (trace ++ [l]) jobId ctx dto)
    (hstep : Step (batchSystem config) Q l R) :
    SubmittedBy config trace jobId ctx dto ∨
      ∃ i f data ids job rowIds, (entries trace)[i]? = some (.submit ctx dto) ∧
        l = .served i (.createJobWithRows data ids) (.ok (job, rowIds)) f ∧ job.id = jobId := by
  obtain ⟨i, data, ids, job, rowIds, hentry, hcall, hid⟩ := h
  cases l with
  | start e =>
    rw [calls_start] at hcall
    have hlt : i < (entries trace).length := by
      by_contra hge
      rw [hcounted.length] at hge
      rw [hcounted.later i (Nat.le_of_not_lt hge)] at hcall
      cases hcall
    rw [entries_start, List.getElem?_append_left hlt] at hentry
    exact .inl ⟨i, data, ids, job, rowIds, hentry, hcall, hid⟩
  | raised j q =>
    rw [calls_raised] at hcall
    rw [entries_raised] at hentry
    exact .inl ⟨i, data, ids, job, rowIds, hentry, hcall, hid⟩
  | served j q a f =>
    rw [entries_served] at hentry
    by_cases hj : j = i
    · subst hj
      rw [calls_served_self] at hcall
      rcases List.mem_append.mp hcall with hcall | hcall
      · exact .inl ⟨j, data, ids, job, rowIds, hentry, hcall, hid⟩
      · cases List.mem_singleton.mp hcall
        exact .inr ⟨j, f, data, ids, job, rowIds, hentry, rfl, hid⟩
    · rw [calls_served_other hj] at hcall
      exact .inl ⟨i, data, ids, job, rowIds, hentry, hcall, hid⟩

theorem stamp_newJob {ctx : RequestContext} {dto : SubmitBatchOperationDto} {jobNo : String} :
    ((dto.input.completed ctx).newJob config jobNo).stamp = submissionStamp config ctx dto := rfl

/-- The ledger is kept by whatever is served. -/
theorem Ledger.served {i : Nat} {q : BatchStatement} {a : Except String q.Result}
    {f : Front BatchStatement.interface} {entry : BatchEntry}
    (h : Ledger config trace Q.store) (hcounted : AllAccounted (Because config) trace Q)
    (hstep : Step (batchSystem config) Q (.served i q a f) R)
    (hentry : (entries trace)[i]? = some entry) (hbecause : Because config entry (calls i trace) q)
    (heffect : Effect Q.store ⟨q, a⟩ R.store) :
    Ledger config (trace ++ [(.served i q a f : Label (batchSystem config))]) R.store := by
  have hgrows : ∀ id stamp, Q.store.stampOf id = some stamp → R.store.stampOf id = some stamp :=
    fun id stamp hstamp => heffect.grows hstamp
  refine ⟨fun jobId ctx dto hsubmitted => ?_, fun jobId stamp hstamp => ?_, fun dispatch hqueued => ?_,
    fun j call hcall => ?_⟩
  · rcases hsubmitted.of_snoc hcounted hstep with hbefore | ⟨j, f', data, ids, job, rowIds, hof, hl, rfl⟩
    · exact hgrows _ _ (h.submitted jobId ctx dto hbefore)
    · cases hl
      obtain ⟨hstored, hsame⟩ := (heffect.consistent h.queued).created _ _ _ _ rfl
      cases hentry.symm.trans hof
      obtain ⟨ctx', dto', jobNo, hsubmit, rfl⟩ := hbecause
      cases hsubmit
      rw [hstored, hsame, stamp_newJob]
  · have hbefore : Q.store.stampOf jobId = some stamp →
        ∃ ctx dto, SubmittedBy config (trace ++ [(.served i q a f : Label (batchSystem config))])
          jobId ctx dto := by
      intro hstored
      obtain ⟨ctx, dto, hsubmitted⟩ := h.origin jobId stamp hstored
      exact ⟨ctx, dto, hsubmitted.append⟩
    generalize R.store = db' at *
    cases heffect with
    | @creates data ids rowIds job _ hfree _ hstamps hqueue =>
      by_cases hid : job.id = jobId
      · obtain ⟨ctx, dto, jobNo, hsubmit, _⟩ := hbecause
        refine ⟨ctx, dto, i, data, ids, job, rowIds, entry_append (hsubmit ▸ hentry), ?_, hid⟩
        rw [calls_served_self]
        exact List.mem_append_right _ (List.mem_singleton_self _)
      · rw [hstamps, if_neg hid] at hstamp
        exact hbefore hstamp
    | enqueues hstamps hqueue => exact hbefore (hstamps ▸ hstamp)
    | takes htaken hstamps hqueue => exact hbefore (hstamps ▸ hstamp)
    | resumes hstored => exact hbefore hstamp
    | keeps hcreated htaken hresumed hstamps hqueue => exact hbefore (hstamps ▸ hstamp)
  · have hbefore : dispatch ∈ Q.store.queue →
        R.store.stampOf dispatch.jobId = some dispatch.stamp := fun hmem =>
      hgrows _ _ (h.queued dispatch hmem)
    generalize R.store = db' at *
    cases heffect with
    | creates hfree hsame hstamps hqueue => exact hbefore (hqueue ▸ hqueued)
    | enqueues hstamps hqueue =>
      rcases hqueue dispatch hqueued with hmem | rfl
      · exact hbefore hmem
      · obtain ⟨job, traceId, rowIds, rfl, hjob⟩ := hbecause
        exact hgrows _ _ (stamp_of_dispatched hjob (h.told i))
    | takes htaken hstamps hqueue => exact hbefore (hqueue hqueued)
    | resumes hstored => exact hbefore hqueued
    | keeps hcreated htaken hresumed hstamps hqueue => exact hbefore (hqueue ▸ hqueued)
  · by_cases hj : i = j
    · subst hj
      rw [calls_served_self] at hcall
      rcases List.mem_append.mp hcall with hcall | hcall
      · exact (h.told i call hcall).grows hgrows
      · rw [List.mem_singleton.mp hcall]
        exact heffect.consistent h.queued
    · rw [calls_served_other hj] at hcall
      exact (h.told j call hcall).grows hgrows

/-- Nor does anything change where nothing is served. -/
theorem Ledger.unserved {l : Label (batchSystem config)} (h : Ledger config trace Q.store)
    (hcounted : AllAccounted (Because config) trace Q) (hstep : Step (batchSystem config) Q l R)
    (hstore : R.store = Q.store) (hcalls : ∀ i, calls i (trace ++ [l]) = calls i trace)
    (hl : ∀ (i : Nat) (q : BatchStatement) (a : Except String q.Result) f, l ≠ .served i q a f) :
    Ledger config (trace ++ [l]) R.store := by
  rw [hstore]
  refine ⟨fun jobId ctx dto hsubmitted => ?_, fun jobId stamp hstamp => ?_, h.queued,
    fun i call hcall => h.told i call (hcalls i ▸ hcall)⟩
  · rcases hsubmitted.of_snoc hcounted hstep with hbefore | ⟨i, f, data, ids, job, rowIds, _, heq, _⟩
    · exact h.submitted jobId ctx dto hbefore
    · exact absurd heq (hl i _ _ f)
  · obtain ⟨ctx, dto, hsubmitted⟩ := h.origin jobId stamp hstamp
    exact ⟨ctx, dto, hsubmitted.append⟩

/-- In every run the jobs, the chunks and what is known of them agree with the submissions. -/
theorem ledger_of_run (hrun : Run ok ⟨BatchDb.empty, []⟩ trace Q) :
    Ledger config trace Q.store := by
  induction hrun with
  | nil =>
    refine ⟨fun jobId ctx dto hsubmitted => ?_, fun jobId stamp hstamp => (nomatch hstamp),
      fun dispatch hqueued => (nomatch hqueued), fun i call hcall => (nomatch hcall)⟩
    obtain ⟨i, data, ids, job, rowIds, hentry, _, _⟩ := hsubmitted
    cases hentry
  | @snoc trace Q R l hrun _ hstep ih =>
    have hcounted := AllAccounted.run program_because hrun rfl
    cases l with
    | served i q a f =>
      obtain ⟨entry, hentry, hbecause⟩ := because_of_entry program_because hrun rfl hstep
      obtain ⟨choice, hserve⟩ := hstep.answered
      exact ih.served hcounted hstep hentry hbecause (effect_of_serve hserve)
    | start e =>
      have hstore : R.store = Q.store := by
        cases hstep
        rfl
      exact ih.unserved hcounted hstep hstore (fun i => calls_start) fun _ _ _ _ => nofun
    | raised i q =>
      have hstore : R.store = Q.store := by
        cases hstep
        rfl
      exact ih.unserved hcounted hstep hstore (fun i => calls_raised) fun _ _ _ _ => nofun

end Runs

end Ledger

section Handling

variable {config}
variable {trace : List (Label (batchSystem config))} {Q : Pool (batchSystem config)}
variable {ok : Pool (batchSystem config) → Label (batchSystem config) → Prop}
variable {entry : BatchEntry} {h : List BatchCall} {q : BatchStatement} {call : HandlerCall}

/-- The call of a handler that is asked for. -/
def BatchStatement.handled? : BatchStatement → Option HandlerCall
  | validate call => some call
  | execute call => some call
  | _ => none

theorem handled_of_because (hbecause : Because config entry h q) (hq : q.handled? = some call) :
    Handled entry h call := by
  cases q with
  | validate other =>
    cases hq
    exact hbecause
  | execute other =>
    cases hq
    exact hbecause
  | _ => cases hq

/-- A row is run in the tenant and the company of its chunk, whatever the scope it is run in. -/
theorem entering_dispatchPatch (store : ClsStore) (dispatch : BatchOperationDispatch) :
    entering store (dispatchPatch dispatch) .tenantId = dispatch.tenantId ∧
      entering store (dispatchPatch dispatch) .companyId = dispatch.companyId := by
  unfold entering
  cases get store with
  | none => exact ⟨rfl, rfl⟩
  | some existing => exact ⟨rfl, rfl⟩

/-- Every handler is called in the tenant that its job was submitted in and in no company, with the
submitter as its user only where the request itself works the job off. -/
theorem handled_as_submitted {i : Nat} {a : Except String q.Result}
    (hrun : Run ok ⟨BatchDb.empty, []⟩ trace Q) (hmem : ⟨q, a⟩ ∈ calls i trace)
    (hq : q.handled? = some call) :
    (∃ ctx dto, SubmittedBy config trace call.context.batchOperationJobId ctx dto ∧
        call.requestContext .userId =
          if dto.input.mode config = .sync then ctx .userId else none) ∧
      ∀ ctx dto, SubmittedBy config trace call.context.batchOperationJobId ctx dto →
        call.requestContext .tenantId = ctx .tenantId ∧ call.requestContext .companyId = none := by
  have hledger := ledger_of_run hrun
  have hstamped : ∀ {store : ClsStore} {dispatch : BatchOperationDispatch} {stamp : Stamp},
      CalledIn store dispatch call → Q.store.stampOf dispatch.jobId = some stamp →
      stamp.tenantId = dispatch.tenantId → stamp.companyId = dispatch.companyId →
      ∀ ctx dto, SubmittedBy config trace call.context.batchOperationJobId ctx dto →
        call.requestContext .tenantId = ctx .tenantId ∧ call.requestContext .companyId = none := by
    rintro store dispatch stamp ⟨entityId, rfl⟩ hstored htenant hcompany ctx dto hsubmitted
    cases hstored.symm.trans (hledger.submitted _ ctx dto hsubmitted)
    obtain ⟨hentered, hcompany'⟩ := entering_dispatchPatch store dispatch
    exact ⟨hentered.trans htenant.symm, hcompany'.trans hcompany.symm⟩
  obtain ⟨f, hserved⟩ := mem_calls.mp hmem
  obtain ⟨entry, hentry, earlier, hearlier, hbecause⟩ :=
    because_of_call program_because hrun rfl hserved
  rcases handled_of_because hbecause hq with
    ⟨ctx, dto, data, ids, job, rowIds, traceId, rows, rfl, hsync, hcreated, hcalled⟩ |
      ⟨dispatch, htaken, hcalled⟩
  · have hown := hearlier _ hcreated
    obtain ⟨hstored, hsame⟩ := (hledger.told i _ hown).created _ _ _ _ rfl
    have hsubmitted : SubmittedBy config trace job.id ctx dto :=
      ⟨i, data, ids, job, rowIds, hentry, hown, rfl⟩
    have hmode : dto.input.mode config = .sync := by
      have hstamp := Option.some.inj (hstored.symm.trans (hledger.submitted _ ctx dto hsubmitted))
      exact (congrArg Stamp.mode (hstamp.symm.trans hsame)).trans hsync
    refine ⟨⟨ctx, dto, ?_, ?_⟩, hstamped hcalled hstored rfl rfl⟩
    · obtain ⟨_, rfl⟩ := hcalled
      exact hsubmitted
    · rw [if_pos hmode]
      obtain ⟨_, rfl⟩ := hcalled
      rfl
  · have hstored := (hledger.told i _ (hearlier _ htaken)).taken _ rfl
    obtain ⟨ctx, dto, hsubmitted⟩ := hledger.origin _ _ hstored
    have hmode : dto.input.mode config ≠ .sync := by
      have hstamp := Option.some.inj (hstored.symm.trans (hledger.submitted _ ctx dto hsubmitted))
      have hasync : dto.input.mode config = .async := (congrArg Stamp.mode hstamp).symm
      rw [hasync]
      decide
    refine ⟨⟨ctx, dto, ?_, ?_⟩, hstamped hcalled hstored rfl rfl⟩
    · obtain ⟨_, rfl⟩ := hcalled
      exact hsubmitted
    · rw [if_neg hmode]
      obtain ⟨_, rfl⟩ := hcalled
      rfl

end Handling

section Demos

def demo : BatchConfig where
  supportedOperations := fun _ => some ["cancel"]
  multiTenant := true
  maxRecordsPerJob := 10
  syncThreshold := 1
  chunkSize := 1
  chunkSize_pos := Nat.one_pos
  resultSnapshotMaxBytes := 100

abbrev DemoPool : Type := Pool (batchSystem demo)

/-- A request of the user `u` in the company `c` of the tenant `t`. -/
def submitter : RequestContext
  | .tenantId => some "t"
  | .companyId => some "c"
  | .userId => some "u"
  | _ => none

/-- One order is cancelled as a batch, in the request that asks for it. -/
def cancelling : List (Move (batchSystem demo)) :=
  .start (.submit submitter ⟨"PurchaseOrder", "cancel", ["po"], none⟩) ::
    [.number "B-1", .created "j" ["r"] ["r"], .settled, .settled, .settled, .settled,
      .verdict ⟨true, none⟩, .snapshot none, .settled, .settled, .settled, .settled, .settled,
      .settled, .settled].map (.serve 0)

/-- The order is cancelled for the tenant and for the user, but for no company. -/
theorem handled_as_submitted_cancelling :
    ∃ (trace : List (Label (batchSystem demo))) (q : BatchStatement) (a : Except String q.Result)
      (call : HandlerCall), ⟨q, a⟩ ∈ calls 0 trace ∧ q.handled? = some call ∧
        ∃ ctx dto, SubmittedBy demo trace call.context.batchOperationJobId ctx dto ∧
          call.requestContext .tenantId = ctx .tenantId ∧
          call.requestContext .companyId = none := by
  have hplay : (((⟨BatchDb.empty, []⟩ : DemoPool).record (fun _ _ => True) cancelling).map fun r =>
      decide (((calls 0 r.1).filterMap fun c => BatchStatement.handled? c.1).map
        (fun call => call.context.batchOperationJobId) = ["j", "j"])) = some true := by
    decide
  obtain ⟨⟨trace, Q⟩, hrecord, hcheck⟩ := Option.map_eq_some_iff.mp hplay
  have hmem := List.mem_cons_self (a := "j") (l := ["j"])
  rw [← of_decide_eq_true hcheck] at hmem
  obtain ⟨call, hcall, _⟩ := List.mem_map.mp hmem
  obtain ⟨⟨q, a⟩, hc, hq⟩ := List.mem_filterMap.mp hcall
  obtain ⟨⟨ctx, dto, hsubmitted, _⟩, hall⟩ :=
    handled_as_submitted (Pool.record_run hrecord) hc hq
  exact ⟨trace, q, a, call, hc, hq, ctx, dto, hsubmitted, hall ctx dto hsubmitted⟩

end Demos

end DddBoilerplate.Batch
