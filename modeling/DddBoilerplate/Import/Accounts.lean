/- module: DddBoilerplate/Import/Accounts
   generality: I
   digest: Why a stage, a command or a sweep makes each of its requests. -/

import DddBoilerplate.Import.Stages

set_option autoImplicit false
set_option relaxedAutoImplicit false
set_option linter.all false

namespace DddBoilerplate.Import

open Concurrency Store ImportFileParser

abbrev ImportCall := Call ImportStatement.interface.world

/-- The statements of the stage lock, and the report that follows its release. -/
def ImportStatement.isLock : ImportStatement → Bool
  | tryAcquireLock _ _ _ _ | setInterval _ | clearInterval _ | releaseLock _ _ | ended _ => true
  | _ => false

def isLockRequest : WorldRequest ImportStatement.interface → Bool
  | .statement q => q.isLock
  | .clock => false
  | .randomUUID => false

def isLockCall (call : ImportCall) : Bool := isLockRequest call.1

def lockCalls (h : List ImportCall) : List ImportCall := h.filter isLockCall

/-- What was answered since the interval was set. -/
def sinceLocked : List ImportCall → List ImportCall
  | [] => []
  | ⟨.statement (.setInterval _), _⟩ :: rest => rest
  | _ :: rest => sinceLocked rest

/-- A call read under its lock a job its guards admit, and made the transition that precedes its
`try`. -/
def Entered (s : StageBody) (h : List ImportCall) : Prop :=
  match sinceLocked h with
  | ⟨.statement (.findById _), .ok (some job)⟩ :: rest => s.admits job = .ok true ∧
    (s.enter job = none ∨ ∃ jobId allowed target,
      ⟨.statement (.transitionStatus jobId allowed target), .ok ()⟩ ∈ rest.take 1)
  | _ => False

/-- The lock was acquired with this owner, and its interval set. -/
def Acquired (jobId : String) (owner : LockOwner) (h : List ImportCall) : Prop :=
  ∃ lockedUntil now, lockCalls h =
    [⟨.statement (.tryAcquireLock jobId owner lockedUntil now), .ok true⟩,
      ⟨.statement (.setInterval owner), ()⟩]

/-- The interval was cleared then. -/
def Cleared (jobId : String) (owner : LockOwner) (h : List ImportCall) : Prop :=
  ∃ lockedUntil now, lockCalls h =
    [⟨.statement (.tryAcquireLock jobId owner lockedUntil now), .ok true⟩,
      ⟨.statement (.setInterval owner), ()⟩, ⟨.statement (.clearInterval owner), ()⟩]

/-- The lock was released then, or its release was rejected. -/
def Released (jobId : String) (owner : LockOwner) (outcome : Except String Unit)
    (h : List ImportCall) : Prop :=
  ∃ lockedUntil now, lockCalls h =
    [⟨.statement (.tryAcquireLock jobId owner lockedUntil now), .ok true⟩,
      ⟨.statement (.setInterval owner), ()⟩, ⟨.statement (.clearInterval owner), ()⟩,
      ⟨.statement (.releaseLock jobId owner), outcome⟩]

/-- A call that ends did not have the lock, or left its `try` and released it, or never entered. -/
def LockEnded (s : StageBody) (jobId : String) (h : List ImportCall) : Prop :=
  (∀ owner lockedUntil now,
      ⟨.statement (.tryAcquireLock jobId owner lockedUntil now), .ok true⟩ ∉ h) ∨
    (∃ owner outcome, Released jobId owner outcome h ∧ Entered s h) ∨
      ∃ owner, Acquired jobId owner h ∧ ¬ Entered s h

/-- The stage a delivery is of. -/
def stageBody (deployment : Deployment) (passes : Nat) : ImportStage → StageBody
  | .parse => parseStage deployment
  | .validate => validateStage deployment passes
  | .execute => executeStage deployment passes

/-- The rows a call read, to validate or to execute them. -/
def RowsRead (jobId : String) (rows : List ImportJobRow) (h : List ImportCall) : Prop :=
  ∃ limit, ⟨.statement (.listPendingValidation jobId limit), .ok rows⟩ ∈ h ∨
    ⟨.statement (.claimForExecution jobId limit), .ok rows⟩ ∈ h

/-- The payloads are those of rows the call read. -/
def Handed (payloads : List RowPayload) (h : List ImportCall) : Prop :=
  ∃ jobId rows, RowsRead jobId rows h ∧ ∀ payload ∈ payloads, ∃ row ∈ rows, payload = row.payload

/-- The file of a job, as a call downloaded and parsed it. -/
def Parsed (deployment : Deployment) (job : ImportJob) (sheet : ParsedSpreadsheet)
    (h : List ImportCall) : Prop :=
  ∃ jobId storageKey downloaded contentType, ⟨.statement (.findById jobId), .ok (some job)⟩ ∈ h ∧
    ⟨.statement (.download storageKey), .ok downloaded⟩ ∈ h ∧
      deployment.parseFile downloaded.body contentType storageKey
        (min job.descriptorSnapshot.maxRows deployment.maxRows + 1) = .ok sheet

/-- The mapping a parse suggests. -/
def suggested (deployment : Deployment) (job : ImportJob) (sheet : ParsedSpreadsheet) :
    ColumnMapping :=
  suggestMapping deployment.toLowerCase sheet.headers job.descriptorSnapshot

/-- The transitions the pipeline makes. -/
def transitions : List (List ImportJobStatus × ImportJobStatus) :=
  [([.uploaded, .parsing], .parsing), ([.parsing], .mapped), ([.mapped], .validating),
    ([.validating], .validated), ([.validated], .executing)]

/-- The last claim came back empty, and the rows were recounted since. -/
def Finishing (jobId : String) (fresh : Option ImportJob) (h : List ImportCall) : Prop :=
  ∃ h₀ limit,
    h = h₀ ++ [⟨.statement (.claimForExecution jobId limit), .ok []⟩,
        ⟨.statement (.countRows jobId), .ok none⟩, ⟨.statement (.findById jobId), .ok fresh⟩] ∨
      ∃ counts, h = h₀ ++ [⟨.statement (.claimForExecution jobId limit), .ok []⟩,
        ⟨.statement (.countRows jobId), .ok (some counts)⟩,
        ⟨.statement (.writeCounts jobId counts), .ok ()⟩, ⟨.statement (.findById jobId), .ok fresh⟩]

/-- The event of the status that was set last. -/
def Announces (event : ImportJobEvent) (h : List ImportCall) : Prop :=
  ∃ h₀ jobId status job, h = h₀ ++ [⟨.statement (.markTerminal jobId status), .ok (some job)⟩] ∧
    event.jobId = job.id

/-- Why an entry makes a request. -/
def because (e : ImportEntry) (h : List ImportCall) :
    WorldRequest ImportStatement.interface → Prop
  | .statement q => match q with
    | .tryAcquireLock jobId owner _ _ =>
      (∃ deployment stage passes id, e = .delivery deployment stage jobId passes ∧
        owner = .stage stage id ∧ ⟨.randomUUID, id⟩ ∈ h ∧ lockCalls h = []) ∨
      ∃ deployment reading, e = .reconcile deployment ∧ owner = .reconcile reading
    | .setInterval owner => ∃ deployment stage jobId passes id lockedUntil now,
        e = .delivery deployment stage jobId passes ∧ owner = .stage stage id ∧
          lockCalls h = [⟨.statement (.tryAcquireLock jobId owner lockedUntil now), .ok true⟩]
    | .clearInterval owner => ∃ jobId, Acquired jobId owner h
    | .releaseLock jobId owner => Cleared jobId owner h ∨
        ∃ deployment reading, e = .reconcile deployment ∧ owner = .reconcile reading
    | .ended _ => ∃ deployment stage jobId passes, e = .delivery deployment stage jobId passes ∧
        LockEnded (stageBody deployment passes stage) jobId h
    | .heartbeat _ owner _ _ => ⟨.statement (.intervalIsSet owner), true⟩ ∈ h
    | .transitionStatus _ allowed target => (allowed, target) ∈ transitions
    | .markTerminal jobId status => status = .failed ∨ status = .cancelled ∨
        ∃ fresh, Finishing jobId fresh h ∧ status = verdictOf fresh
    | .bulkInsert rows => ∃ deployment stage jobId passes job sheet,
        e = .delivery deployment stage jobId passes ∧ Parsed deployment job sheet h ∧
          ∀ row ∈ rows, ∃ source ∈ sheet.rows,
            row = parsedRow job (suggested deployment job sheet) source
    | .claimForExecution jobId _ => ∃ asked job,
        ⟨.statement (.findById asked), .ok (some job)⟩ ∈ h ∧ job.id = jobId ∧ job.status = .executing
    | .applyExecutionResult jobId settlement => ∃ limit claimed,
        ⟨.statement (.claimForExecution jobId limit), .ok claimed⟩ ∈ h ∧
          settlement.executionClaimToken = tokenOf claimed settlement.rowNumber
    | .preloadReferences payloads => Handed payloads h
    | .validateBatch payloads => Handed payloads h
    | .executeBatch payloads => Handed payloads h
    | .resetStaleProcessing _ => ∃ deployment, e = .reconcile deployment
    | .abandonProcessing => ∃ deployment, e = .reconcile deployment
    | .appendEvent event => Announces event h
    | _ => True
  | _ => True

/-- A request of a body, which leaves the stage lock alone. -/
def Plain (e : ImportEntry) (h : List ImportCall) (q : WorldRequest ImportStatement.interface) :
    Prop := isLockRequest q = false ∧ because e h q

section Bodies

variable {e : ImportEntry} {h : List ImportCall}

/-- Any history will do for what follows. -/
abbrev Sound (e : ImportEntry) (h : List ImportCall) {α : Type} (m : ImportProgram α) : Prop :=
  Accounted (Plain e) (fun _ _ => True) h m

theorem sound_lift {α : Type} {m : Except String α} :
    Sound e h (.lift m : ImportProgram α) := accounted_lift fun _ _ => trivial

theorem Sound.bind {α β : Type} {m : ImportProgram α} {f : α → ImportProgram β} (hm : Sound e h m)
    (hf : ∀ h' a, h <+: h' → Sound e h' (f a)) : Sound e h (m >>= f) :=
  hm.grown.bind fun h' a hgrown => hf h' a hgrown.1

theorem Sound.each {α : Type} {f : α → ImportProgram Unit} {as : List α}
    (hf : ∀ a ∈ as, ∀ h', h <+: h' → Sound e h' (f a)) : Sound e h (Program.each f as) := by
  have hkept : Accounted (Plain e) (fun h' _ => h <+: h') h (Program.each f as) := by
    refine Accounted.each (List.prefix_refl h) fun a ha h' hpre => ?_
    exact (hf a ha h' hpre).grown.mono (fun _ _ hq => hq) fun h'' _ hgrown =>
      hpre.trans hgrown.1
  exact hkept.mono (fun _ _ hq => hq) fun _ _ _ => trivial

theorem sound_transitionStatus {jobId : String} {allowed : List ImportJobStatus}
    {target : ImportJobStatus} (hpair : (allowed, target) ∈ transitions) :
    Sound e h (transitionStatus jobId allowed target) := ⟨⟨rfl, hpair⟩, fun _ => sound_lift⟩

theorem sound_terminalise {jobId : String} {status : ImportJobStatus}
    {write : ImportJob → ImportProgram Unit}
    (hstatus : because e h (.statement (.markTerminal jobId status)))
    (hwrite : ∀ job, ∃ eventType announced, write job = appendEvent (job.event eventType announced)) :
    Sound e h (terminalise jobId status write) := by
  refine ⟨⟨rfl, hstatus⟩, fun answer => accounted_lift_bind fun ended hended => ?_⟩
  cases ended with
  | none => trivial
  | some job =>
    obtain ⟨eventType, announced, heq⟩ := hwrite job
    show Sound e _ (write job)
    rw [heq]
    refine ⟨⟨rfl, h, jobId, status, job, ?_, rfl⟩, fun _ => sound_lift⟩
    rw [hended]

theorem sound_cancelled {job : ImportJob} : Sound e h (cancelled job) :=
  sound_terminalise (.inr (.inl rfl)) fun _ => ⟨_, _, rfl⟩

/-- A recount, with the calls it makes. -/
theorem accounted_recountCounters {jobId : String} :
    Accounted (Plain e) (fun h' fresh =>
      h' = h ++ [⟨.statement (.countRows jobId), .ok none⟩,
          ⟨.statement (.findById jobId), .ok fresh⟩] ∨
        ∃ counts, h' = h ++ [⟨.statement (.countRows jobId), .ok (some counts)⟩,
          ⟨.statement (.writeCounts jobId counts), .ok ()⟩,
          ⟨.statement (.findById jobId), .ok fresh⟩]) h (recountCounters jobId) := by
  refine ⟨⟨rfl, trivial⟩, fun answer => accounted_lift_bind fun counted hcounted => ?_⟩
  subst hcounted
  cases counted with
  | none =>
    refine ⟨⟨rfl, trivial⟩, fun found => accounted_lift fun fresh hfresh => .inl ?_⟩
    rw [hfresh, List.append_assoc]
    rfl
  | some counts =>
    refine ⟨⟨rfl, trivial⟩, fun written => accounted_lift_bind fun _ hwritten => ?_⟩
    refine ⟨⟨rfl, trivial⟩, fun found => accounted_lift fun fresh hfresh => .inr ⟨counts, ?_⟩⟩
    rw [hfresh, hwritten, List.append_assoc, List.append_assoc]
    rfl

theorem sound_recountCounters {jobId : String} : Sound e h (recountCounters jobId) :=
  accounted_recountCounters.mono (fun _ _ hq => hq) fun _ _ _ => trivial

theorem sound_finishExecution {job : ImportJob} {limit : Nat}
    (hclaimed : ∃ h₀, h = h₀ ++ [⟨.statement (.claimForExecution job.id limit), .ok []⟩]) :
    Sound e h (finishExecution job) := by
  obtain ⟨h₀, rfl⟩ := hclaimed
  refine accounted_recountCounters.bind fun h' fresh hrecounted => ?_
  refine sound_terminalise (.inr (.inr ⟨fresh, ⟨h₀, limit, ?_⟩, rfl⟩)) fun _ => ⟨_, _, rfl⟩
  rcases hrecounted with rfl | ⟨counts, rfl⟩
  · refine .inl ?_
    rw [List.append_assoc]
    rfl
  · refine .inr ⟨counts, ?_⟩
    rw [List.append_assoc]
    rfl

theorem sound_applyExecutionResults {jobId : String} {limit : Nat} {claimed : List ImportJobRow}
    {results : List RowResult}
    (hclaimed : ⟨.statement (.claimForExecution jobId limit), .ok claimed⟩ ∈ h) :
    Sound e h (applyExecutionResults jobId (results.map (settlement claimed))) := by
  refine Sound.each fun s hs h' hpre => ?_
  obtain ⟨result, _, rfl⟩ := List.mem_map.mp hs
  exact ⟨⟨rfl, limit, claimed, hpre.subset hclaimed, rfl⟩, fun _ =>
    accounted_lift_bind fun _ _ => trivial⟩

theorem sound_applyValidationVerdicts {jobId : String} {verdicts : List RowVerdict} :
    Sound e h (applyValidationVerdicts jobId verdicts) :=
  Sound.each fun _ _ _ _ => ⟨⟨rfl, trivial⟩, fun _ => sound_lift⟩

theorem sound_executeValid {job : ImportJob} {claimed : List ImportJobRow} {limit : Nat}
    {toExecute : List RowPayload} {executingRows : List Nat}
    (hclaimed : ⟨.statement (.claimForExecution job.id limit), .ok claimed⟩ ∈ h)
    (hpayloads : ∀ payload ∈ toExecute, ∃ row ∈ claimed, payload = row.payload) :
    Sound e h (executeValid job claimed toExecute executingRows) := by
  unfold executeValid
  split
  · trivial
  · have hresults : ∀ h', h <+: h' → ∀ rows : List RowResult,
        Sound e h' (applyExecutionResults job.id (rows.map (settlement claimed))) :=
      fun h' hpre rows => sound_applyExecutionResults (hpre.subset hclaimed)
    have hfailed : ∀ h', h <+: h' → ∀ (message : String) (numbers : List Nat),
        Sound e h' (applyExecutionResults job.id
          (numbers.map fun n => settlement claimed (failedResult message n))) := by
      intro h' hpre message numbers
      have hmap := hresults h' hpre (numbers.map (failedResult message))
      rwa [List.map_map] at hmap
    refine @Accounted.handle _ _ _ _ (fun _ _ => True) _ (Plain e) (fun h' => h <+: h') _ _ _ _ ?_
      (List.prefix_refl h) (fun h' q a hpre _ => hpre.trans (List.prefix_append _ _))
      (fun _ _ hq => hq)
      (fun _ _ _ _ => trivial) fun h' message hpre => hfailed h' hpre message _
    refine ⟨⟨rfl, job.id, claimed, ⟨limit, .inr hclaimed⟩, hpayloads⟩, fun answer =>
      accounted_lift_bind fun results _ => ?_⟩
    refine (hresults _ (List.prefix_append _ _) results).bind fun h' _ hpre => ?_
    exact hfailed h' ((List.prefix_append _ _).trans hpre) _ _

theorem sound_executeJudged {job : ImportJob} {claimed : List ImportJobRow} {limit : Nat}
    {verdicts : List RowVerdict}
    (hclaimed : ⟨.statement (.claimForExecution job.id limit), .ok claimed⟩ ∈ h) :
    Sound e h (executeJudged job claimed verdicts) := by
  have hskipped := @sound_applyExecutionResults e h job.id limit claimed
    ((verdicts.filter fun verdict => verdict.status ≠ .valid).map skipResult) hclaimed
  rw [List.map_map] at hskipped
  refine hskipped.bind fun h₁ _ hpre₁ => ?_
  refine (sound_executeValid (hpre₁.subset hclaimed) ?_).bind fun h₂ _ _ => ?_
  · intro payload hpayload
    obtain ⟨row, hrow, rfl⟩ := List.mem_map.mp (List.mem_filter.mp hpayload).1
    exact ⟨row, hrow, rfl⟩
  · exact sound_recountCounters.bind fun _ _ _ => trivial

theorem sound_executeClaimed {job : ImportJob} {claimed : List ImportJobRow} {limit : Nat}
    (hclaimed : ⟨.statement (.claimForExecution job.id limit), .ok claimed⟩ ∈ h) :
    Sound e h (executeClaimed job claimed) := by
  have hhanded : ∀ h', h <+: h' → Handed (claimed.map ImportJobRow.payload) h' := by
    intro h' hpre
    refine ⟨job.id, claimed, ⟨limit, .inr (hpre.subset hclaimed)⟩, fun payload hpayload => ?_⟩
    obtain ⟨row, hrow, rfl⟩ := List.mem_map.mp hpayload
    exact ⟨row, hrow, rfl⟩
  refine ⟨⟨rfl, hhanded h (List.prefix_refl h)⟩, fun _ => accounted_lift_bind fun _ _ => ?_⟩
  refine ⟨⟨rfl, hhanded _ (List.prefix_append _ _)⟩, fun _ => accounted_lift_bind fun verdicts _ => ?_⟩
  exact sound_executeJudged (List.mem_append_left _ (List.mem_append_left _ hclaimed))

theorem sound_executeLoop {deployment : Deployment} {job : ImportJob} {asked : String} {passes : Nat}
    (hread : ⟨.statement (.findById asked), .ok (some job)⟩ ∈ h) (hstatus : job.status = .executing) :
    Sound e h (executeLoop deployment job passes) := by
  induction passes generalizing h with
  | zero => exact ⟨⟨rfl, trivial⟩, fun never => nomatch never⟩
  | succ passes ih =>
    refine ⟨⟨rfl, trivial⟩, fun checked => accounted_lift_bind fun cancelRequested _ => ?_⟩
    show Accounted _ _ _ (ite _ _ _)
    split
    · exact sound_cancelled
    · have hread₁ : ⟨.statement (.findById asked), .ok (some job)⟩ ∈
          h ++ [⟨.statement (.isCancelRequested job.id), checked⟩] := List.mem_append_left _ hread
      refine ⟨⟨rfl, asked, job, hread₁, rfl, hstatus⟩, fun answer =>
        accounted_lift_bind fun claimed hclaimed => ?_⟩
      subst hclaimed
      show Accounted _ _ _ (ite _ _ _)
      split
      · rename_i hempty
        obtain rfl := List.isEmpty_iff.mp hempty
        exact sound_finishExecution ⟨_, rfl⟩
      · refine (sound_executeClaimed (List.mem_append_right _ (List.mem_singleton_self _))).bind ?_
        exact fun h' _ hpre => ih (hpre.subset (List.mem_append_left _ hread₁))

theorem sound_validatePending {job : ImportJob} {pending : List ImportJobRow} {limit : Nat}
    (hpending : ⟨.statement (.listPendingValidation job.id limit), .ok pending⟩ ∈ h) :
    Sound e h (validatePending job pending) := by
  refine sound_applyValidationVerdicts.bind fun h₁ _ hpre₁ => ?_
  refine Sound.bind ?_ fun h₂ _ _ => sound_recountCounters.bind fun _ _ _ => trivial
  unfold validateCandidates
  split
  · trivial
  · have hhanded : ∀ h', h₁ <+: h' → Handed ((pending.filter fun row =>
        (structuralErrors job row).isEmpty).map ImportJobRow.payload) h' := by
      intro h' hpre
      refine ⟨job.id, pending, ⟨limit, .inl ((hpre₁.trans hpre).subset hpending)⟩, ?_⟩
      intro payload hpayload
      obtain ⟨row, hrow, rfl⟩ := List.mem_map.mp hpayload
      exact ⟨row, (List.mem_filter.mp hrow).1, rfl⟩
    refine ⟨⟨rfl, hhanded h₁ (List.prefix_refl _)⟩, fun _ => accounted_lift_bind fun _ _ => ?_⟩
    refine ⟨⟨rfl, hhanded _ (List.prefix_append _ _)⟩, fun _ => accounted_lift_bind fun _ _ => ?_⟩
    exact sound_applyValidationVerdicts

theorem sound_validateLoop {deployment : Deployment} {job : ImportJob} {passes : Nat} :
    Sound e h (validateLoop deployment job passes) := by
  induction passes generalizing h with
  | zero => exact ⟨⟨rfl, trivial⟩, fun never => nomatch never⟩
  | succ passes ih =>
    refine ⟨⟨rfl, trivial⟩, fun _ => accounted_lift_bind fun cancelRequested _ => ?_⟩
    show Accounted _ _ _ (ite _ _ _)
    split
    · exact sound_cancelled
    · refine ⟨⟨rfl, trivial⟩, fun answer => accounted_lift_bind fun pending hpending => ?_⟩
      subst hpending
      show Accounted _ _ _ (ite _ _ _)
      split
      · exact sound_transitionStatus (by simp [transitions])
      · refine (sound_validatePending
          (List.mem_append_right _ (List.mem_singleton_self _))).bind ?_
        exact fun _ _ _ => ih

theorem mem_flushed {α : Type} {size : Nat} {chunk as part : List α} {a : α}
    (hpart : part ∈ flushed size chunk as) (ha : a ∈ part) : a ∈ chunk ∨ a ∈ as := by
  induction as generalizing chunk with
  | nil =>
    simp only [flushed] at hpart
    split at hpart
    · cases hpart
    · exact .inl (List.mem_singleton.mp hpart ▸ ha)
  | cons b rest ih =>
    have hsnoc : a ∈ chunk ++ [b] → a ∈ chunk ∨ a ∈ b :: rest := by
      intro hmem
      rcases List.mem_append.mp hmem with hmem | hmem
      · exact .inl hmem
      · exact .inr (List.mem_singleton.mp hmem ▸ List.mem_cons_self ..)
    simp only [flushed] at hpart
    split at hpart
    · rcases List.mem_cons.mp hpart with rfl | hpart
      · exact hsnoc ha
      · rcases ih hpart with hmem | hmem
        · cases hmem
        · exact .inr (List.mem_cons_of_mem _ hmem)
    · rcases ih hpart with hmem | hmem
      · exact hsnoc hmem
      · exact .inr (List.mem_cons_of_mem _ hmem)

theorem sound_parseBody {deployment : Deployment} {stage : ImportStage} {jobId : String}
    {passes : Nat} {asked : String} {job : ImportJob}
    (hentry : e = .delivery deployment stage jobId passes)
    (hread : ⟨.statement (.findById asked), .ok (some job)⟩ ∈ h) :
    Sound e h (parseBody deployment job) := by
  refine Sound.bind (?_ : Sound e h _) fun h₁ object hpre₁ => ?_
  · split
    · exact ⟨⟨rfl, trivial⟩, fun _ => sound_lift⟩
    · trivial
  cases object with
  | none => trivial
  | some object =>
    refine ⟨⟨rfl, trivial⟩, fun answer => accounted_lift_bind fun downloaded hdownloaded => ?_⟩
    subst hdownloaded
    refine accounted_lift_bind fun sheet hsheet => ?_
    show Accounted _ _ _ (ite _ _ _)
    split
    · trivial
    · have hparsed : Parsed deployment job sheet (h₁ ++
          [⟨.statement (.download object.storageKey), .ok downloaded⟩]) :=
        ⟨asked, object.storageKey, downloaded, _, List.mem_append_left _ (hpre₁.subset hread),
          List.mem_append_right _ (List.mem_singleton_self _), hsheet⟩
      have hgrown : ∀ {h h'}, Parsed deployment job sheet h → h <+: h' →
          Parsed deployment job sheet h' := by
        rintro h h' ⟨asked, storageKey, downloaded, contentType, hread, hdownload, hfile⟩ hpre
        exact ⟨asked, storageKey, downloaded, contentType, hpre.subset hread,
          hpre.subset hdownload, hfile⟩
      refine ⟨⟨rfl, trivial⟩, fun _ => accounted_lift_bind fun _ _ => ?_⟩
      refine Sound.bind (Sound.each fun rows hrows h₂ hpre₂ => ?_) fun _ _ _ =>
        ⟨⟨rfl, trivial⟩, fun _ => accounted_lift_bind fun _ _ => ⟨⟨rfl, trivial⟩, fun _ =>
          accounted_lift_bind fun _ _ => sound_transitionStatus (by simp [transitions])⟩⟩
      refine ⟨⟨rfl, deployment, stage, jobId, passes, job, sheet, hentry, ?_, fun row hrow => ?_⟩,
        fun _ => sound_lift⟩
      · exact hgrown hparsed ((List.prefix_append _ _).trans hpre₂)
      · rcases mem_flushed hrows hrow with hmem | hmem
        · cases hmem
        · obtain ⟨source, hsource, rfl⟩ := List.mem_map.mp hmem
          exact ⟨source, hsource, rfl⟩

end Bodies

section Locks

variable {e : ImportEntry} {h : List ImportCall} {s : StageBody} {jobId : String} {owner : LockOwner}

theorem lockCalls_plain {q : WorldRequest ImportStatement.interface} {a : q.Answer}
    (hq : isLockRequest q = false) : lockCalls (h ++ [⟨q, a⟩]) = lockCalls h := by
  simp [lockCalls, isLockCall, hq]

theorem lockCalls_lock {q : WorldRequest ImportStatement.interface} {a : q.Answer}
    (hq : isLockRequest q = true) : lockCalls (h ++ [⟨q, a⟩]) = lockCalls h ++ [⟨q, a⟩] := by
  simp [lockCalls, isLockCall, hq]

theorem sinceLocked_append {call : ImportCall} {rest more : List ImportCall}
    (hsince : sinceLocked h = call :: rest) : sinceLocked (h ++ more) = call :: (rest ++ more) := by
  induction h with
  | nil => cases hsince
  | cons first h ih =>
    rw [List.cons_append]
    unfold sinceLocked at hsince ⊢
    split at hsince
    · cases hsince
    · rename_i heq
      cases heq
      rw [hsince]
      rfl
    · rename_i hother heq
      cases heq
      split
      · rename_i heq
        cases heq
      · rename_i heq
        cases heq
        exact (hother _ _ rfl).elim
      · rename_i heq
        cases heq
        exact ih hsince

theorem Entered.append {more : List ImportCall} (hentered : Entered s h) : Entered s (h ++ more) := by
  unfold Entered at hentered
  split at hentered
  · rename_i asked job rest hsince
    obtain ⟨hadmits, henter⟩ := hentered
    unfold Entered
    rw [sinceLocked_append hsince]
    refine ⟨hadmits, henter.imp id ?_⟩
    rintro ⟨jobId, allowed, target, hmem⟩
    refine ⟨jobId, allowed, target, ?_⟩
    cases rest with
    | nil => cases hmem
    | cons call rest => exact hmem
  · cases hentered

/-- A call in its `try`: it has the lock, and entered with this job. -/
structure Inside (s : StageBody) (jobId : String) (owner : LockOwner) (job : ImportJob)
    (h : List ImportCall) : Prop where
  acquired : Acquired jobId owner h
  entered : Entered s h
  read : ⟨.statement (.findById jobId), .ok (some job)⟩ ∈ h

theorem Inside.snoc {job : ImportJob} {q : WorldRequest ImportStatement.interface} {a : q.Answer}
    (h₀ : Inside s jobId owner job h) (hplain : Plain e h q) :
    Inside s jobId owner job (h ++ [⟨q, a⟩]) := by
  refine ⟨?_, h₀.entered.append, List.mem_append_left _ h₀.read⟩
  obtain ⟨lockedUntil, now, hcalls⟩ := h₀.acquired
  exact ⟨lockedUntil, now, (lockCalls_plain hplain.1).trans hcalls⟩

/-- The queue is told. -/
def report (outcome : Except String Unit) : ImportProgram Unit :=
  .ask (.statement (.ended outcome)) .done

theorem accounted_report {deployment : Deployment} {stage : ImportStage} {passes : Nat}
    {outcome : Except String Unit} (hentry : e = .delivery deployment stage jobId passes)
    (hended : LockEnded (stageBody deployment passes stage) jobId h) :
    Accounted (because e) (fun _ _ => True) h (report outcome) :=
  ⟨⟨deployment, stage, jobId, passes, hentry, hended⟩, fun _ => trivial⟩

theorem accounted_release {m : ImportProgram Unit} (hacquired : Acquired jobId owner h)
    (hentered : Entered s h)
    (hm : ∀ h' outcome, Released jobId owner outcome h' → Entered s h' →
      Accounted (because e) (fun _ _ => True) h' m) :
    Accounted (because e) (fun _ _ => True) h (release jobId owner >>= fun _ => m) := by
  obtain ⟨lockedUntil, now, hcalls⟩ := hacquired
  refine ⟨⟨jobId, lockedUntil, now, hcalls⟩, fun cleared => ⟨.inl ⟨lockedUntil, now, ?_⟩,
    fun outcome => hm _ outcome ⟨lockedUntil, now, ?_⟩ hentered.append.append⟩⟩
  · rw [lockCalls_lock rfl, hcalls]
    rfl
  · rw [lockCalls_lock rfl, lockCalls_lock rfl, hcalls]
    rfl

theorem accounted_guardedBody {deployment : Deployment} {stage : ImportStage} {passes : Nat}
    {job : ImportJob} (hentry : e = .delivery deployment stage jobId passes)
    (hinside : Inside (stageBody deployment passes stage) jobId owner job h)
    (hbody : Sound e h ((stageBody deployment passes stage).body job)) :
    Accounted (because e) (fun _ _ => True) h
      ((guardedBody jobId (stageBody deployment passes stage) owner job).handle
        (fun _ => report (.ok ())) fun error => report (.error error)) := by
  have hreleased : ∀ h outcome, Inside (stageBody deployment passes stage) jobId owner job h →
      Accounted (because e) (fun _ _ => True) h
        (release jobId owner >>= fun _ => report outcome) := fun h outcome hinside =>
    accounted_release hinside.acquired hinside.entered fun h' _ hreleased hentered =>
      accounted_report hentry (.inr (.inl ⟨owner, _, hreleased, hentered⟩))
  have hsnoc : ∀ h q a, Inside (stageBody deployment passes stage) jobId owner job h →
      Plain e h q → Inside (stageBody deployment passes stage) jobId owner job (h ++ [⟨q, a⟩]) :=
    fun h q a hinside hplain => hinside.snoc hplain
  unfold guardedBody Program.ensuring
  rw [Program.handle_handle, Program.handle_handle]
  refine hbody.handle hinside hsnoc (fun _ _ hplain => hplain.2) (fun h' _ hinside' _ =>
    hreleased h' _ hinside') fun h' error hinside' => ?_
  -- the job is failed first, whatever becomes of that
  rw [Program.bind_handle]
  refine Accounted.handle (sound_terminalise (.inl rfl) fun _ => ⟨_, _, rfl⟩) hinside' hsnoc
    (fun _ _ hplain => hplain.2) (fun h'' _ hinside'' _ => hreleased h'' _ hinside'') fun h'' _ hinside'' =>
      hreleased h'' _ hinside''

/-- What is left of a call that read a job under its lock. -/
theorem accounted_admitted {deployment : Deployment} {stage : ImportStage} {passes : Nat}
    {found : Option ImportJob} {h₀ : List ImportCall}
    (hentry : e = .delivery deployment stage jobId passes)
    (hh : h = h₀ ++ [⟨.statement (.findById jobId), .ok found⟩])
    (hsince : sinceLocked h = [⟨.statement (.findById jobId), .ok found⟩])
    (hacquired : Acquired jobId owner h)
    (hbody : ∀ h job, ⟨.statement (.findById jobId), .ok (some job)⟩ ∈ h →
      (stageBody deployment passes stage).admits job = .ok true →
        Sound e h ((stageBody deployment passes stage).body job)) 
    (henter : ∀ job allowed target,
      (stageBody deployment passes stage).enter job = some (allowed, target) →
        (allowed, target) ∈ transitions) :
    Accounted (because e) (fun _ _ => True) h
      ((admitted jobId (stageBody deployment passes stage) owner found).handle
        (fun _ => report (.ok ())) fun error => report (.error error)) := by
  have hout : ∀ h outcome, Acquired jobId owner h → ¬ Entered (stageBody deployment passes stage) h →
      Accounted (because e) (fun _ _ => True) h (report outcome) := fun h outcome hacquired hnot =>
    accounted_report hentry (.inr (.inr ⟨owner, hacquired, hnot⟩))
  cases found with
  | none =>
    refine hout h _ hacquired ?_
    unfold Entered
    rw [hsince]
    exact id
  | some job =>
    have hread : ⟨.statement (.findById jobId), .ok (some job)⟩ ∈ h :=
      hh ▸ List.mem_append_right _ (List.mem_singleton_self _)
    cases hadmits : (stageBody deployment passes stage).admits job with
    | error error =>
      simp only [admitted, hadmits]
      refine hout h _ hacquired ?_
      unfold Entered
      rw [hsince]
      rintro ⟨hadmitted, _⟩
      cases hadmits.symm.trans hadmitted
    | ok goes =>
      cases goes with
      | false =>
        simp only [admitted, hadmits]
        refine hout h _ hacquired ?_
        unfold Entered
        rw [hsince]
        rintro ⟨hadmitted, _⟩
        cases hadmits.symm.trans hadmitted
      | true =>
        cases hpair : (stageBody deployment passes stage).enter job with
        | none =>
          have hentered : Entered (stageBody deployment passes stage) h := by
            unfold Entered
            rw [hsince]
            exact ⟨hadmits, .inl hpair⟩
          simp only [admitted, hadmits, hpair]
          exact accounted_guardedBody hentry ⟨hacquired, hentered, hread⟩ (hbody h job hread hadmits)
        | some pair =>
          obtain ⟨allowed, target⟩ := pair
          simp only [admitted, hadmits, hpair]
          refine ⟨henter job allowed target hpair, fun (moved : Except String Unit) => ?_⟩
          have hacquired' : Acquired jobId owner (h ++
              [⟨.statement (.transitionStatus job.id allowed target), moved⟩]) := by
            obtain ⟨lockedUntil, now, hcalls⟩ := hacquired
            exact ⟨lockedUntil, now, (lockCalls_plain rfl).trans hcalls⟩
          have hsince' := @sinceLocked_append _ _ _
            [⟨.statement (.transitionStatus job.id allowed target), moved⟩] hsince
          cases moved with
          | error error =>
            refine hout _ _ hacquired' ?_
            unfold Entered
            rw [hsince']
            rintro ⟨_, hnone | ⟨jobId, allowed, target, hmem⟩⟩
            · cases hpair.symm.trans hnone
            · cases List.mem_singleton.mp hmem
          | ok moved =>
            have hentered : Entered (stageBody deployment passes stage) (h ++
                [⟨.statement (.transitionStatus job.id allowed target), .ok moved⟩]) := by
              unfold Entered
              rw [hsince']
              exact ⟨hadmits, .inr ⟨job.id, allowed, target, List.mem_singleton_self _⟩⟩
            have hread' := List.mem_append_left
              [⟨.statement (.transitionStatus job.id allowed target), .ok moved⟩] hread
            exact accounted_guardedBody hentry ⟨hacquired', hentered, hread'⟩
              (hbody _ job hread' hadmits)

end Locks

section Entries

theorem admits_executing {deployment : Deployment} {passes : Nat} {job : ImportJob}
    (h : (executeStage deployment passes).admits job = .ok true) : job.status = .executing := by
  simp only [executeStage] at h
  cases hbuild : assertBuild deployment job with
  | error error =>
    rw [hbuild] at h
    cases h
  | ok checked =>
    cases hcurrent : assertDescriptorCurrent deployment job with
    | error error =>
      rw [hbuild, hcurrent] at h
      cases h
    | ok current =>
      rw [hbuild, hcurrent] at h
      replace h : (if job.status.isTerminal then .ok false
        else if job.status = .executing then .ok true
        else .error (notExpected job "EXECUTING") : Except String Bool) = .ok true := h
      split at h
      · cases h
      · split at h
        · assumption
        · cases h

theorem accounted_runStage {deployment : Deployment} {stage : ImportStage} {jobId : String}
    {passes : Nat} {found : Option ImportJob} :
    Accounted (because (.delivery deployment stage jobId passes)) (fun _ _ => True)
      [⟨.statement (.findById jobId), .ok found⟩]
      ((runStage deployment jobId (stageBody deployment passes stage)).handle
        (fun _ => report (.ok ())) fun error => report (.error error)) := by
  have hout : ∀ (h : List ImportCall) outcome, (∀ owner lockedUntil now,
      ⟨.statement (.tryAcquireLock jobId owner lockedUntil now), .ok true⟩ ∉ h) →
        Accounted (because (.delivery deployment stage jobId passes)) (fun _ _ => True) h
          (report outcome) := fun h outcome hnever => accounted_report rfl (.inl hnever)
  have hstage : (stageBody deployment passes stage).stage = stage := by
    cases stage <;> rfl
  refine ⟨trivial, fun (id : String) => ⟨trivial, fun (now : Nat) => ⟨trivial, fun (reading : Nat) => ?_⟩⟩⟩
  refine ⟨.inl ⟨deployment, stage, passes, id, rfl, ?_, by simp, rfl⟩,
    fun (acquired : Except String Bool) => ?_⟩
  · rw [hstage]
  · cases acquired with
    | error error =>
      refine hout _ _ fun owner lockedUntil now hmem => ?_
      simp at hmem
    | ok acquired =>
      cases acquired with
      | false =>
        refine hout _ _ fun owner lockedUntil now hmem => ?_
        simp at hmem
        cases hmem.2
      | true =>
        refine ⟨⟨deployment, stage, jobId, passes, id, _, _, rfl, congrArg (LockOwner.stage · id) hstage,
          rfl⟩, fun _ => ⟨trivial, fun (found : Except String (Option ImportJob)) => ?_⟩⟩
        cases found with
        | error error =>
          exact accounted_report rfl (.inr (.inr ⟨_, ⟨_, _, rfl⟩, fun hentered => hentered⟩))
        | ok found =>
          refine accounted_admitted rfl rfl rfl ⟨_, _, rfl⟩ ?_ ?_
          · intro h job hread hadmits
            cases stage with
            | parse => exact sound_parseBody rfl hread
            | validate => exact sound_validateLoop
            | execute => exact sound_executeLoop hread (admits_executing hadmits)
          · intro job allowed target henter
            cases stage with
            | parse =>
              cases henter
              simp [transitions]
            | validate =>
              simp only [stageBody, validateStage] at henter
              split at henter
              · cases henter
                simp [transitions]
              · cases henter
            | execute => cases henter

theorem accounted_process {deployment : Deployment} {stage : ImportStage} {jobId : String}
    {passes : Nat} :
    Accounted (because (.delivery deployment stage jobId passes)) (fun _ _ => True) []
      (process deployment stage jobId passes) := by
  have hout : ∀ (found : Except String (Option ImportJob)) outcome,
      Accounted (because (.delivery deployment stage jobId passes)) (fun _ _ => True)
        [⟨.statement (.findById jobId), found⟩] (report outcome) := by
    intro found outcome
    refine accounted_report rfl (.inl fun owner lockedUntil now hmem => ?_)
    cases List.mem_singleton.mp hmem
  refine ⟨trivial, fun (found : Except String (Option ImportJob)) => ?_⟩
  cases found with
  | error error => exact hout _ _
  | ok found =>
    cases found with
    | none => exact hout _ _
    | some job =>
      have hrun := @accounted_runStage deployment stage jobId passes (some job)
      cases stage with
      | parse => exact hrun
      | validate => exact hrun
      | execute => exact hrun

theorem sound_requireVisibleJob {e : ImportEntry} {jobId : String} {tenantId : Option String} :
    Sound e [] (requireVisibleJob jobId tenantId) := by
  refine ⟨⟨rfl, trivial⟩, fun _ => accounted_lift_bind fun found _ => ?_⟩
  cases found with
  | none => trivial
  | some job =>
    show Accounted _ _ _ (ite _ _ _)
    split
    · trivial
    · trivial

theorem sound_enqueue {e : ImportEntry} {h : List ImportCall} {jobId : String}
    {stage : ImportStage} : Sound e h (enqueue jobId stage) :=
  ⟨⟨rfl, trivial⟩, fun _ => sound_lift⟩

theorem sound_updateImportMapping {e : ImportEntry} {jobId : String} {mapping : ColumnMapping}
    {tenantId : Option String} : Sound e [] (updateImportMapping jobId mapping tenantId) := by
  refine sound_requireVisibleJob.bind fun h job _ => ?_
  show Accounted _ _ _ (ite _ _ _)
  split
  · trivial
  · show Accounted _ _ _ (ite _ _ _)
    split
    · trivial
    · refine ⟨⟨rfl, trivial⟩, fun _ => accounted_lift_bind fun _ _ => ?_⟩
      exact (sound_transitionStatus (by simp [transitions])).bind fun _ _ _ => sound_enqueue

theorem sound_executeImportJob {e : ImportEntry} {jobId : String} {tenantId : Option String} :
    Sound e [] (executeImportJob jobId tenantId) := by
  refine sound_requireVisibleJob.bind fun h job _ => ?_
  show Accounted _ _ _ (ite _ _ _)
  split
  · trivial
  · exact (sound_transitionStatus (by simp [transitions])).bind fun _ _ _ => sound_enqueue

theorem sound_cancelImportJob {e : ImportEntry} {jobId : String} {tenantId : Option String} :
    Sound e [] (cancelImportJob jobId tenantId) := by
  refine sound_requireVisibleJob.bind fun h job _ => ?_
  show Accounted _ _ _ (ite _ _ _)
  split
  · trivial
  · refine ⟨⟨rfl, trivial⟩, fun _ => accounted_lift_bind fun _ _ => ?_⟩
    show Accounted _ _ _ (ite _ _ _)
    split
    · exact sound_cancelled
    · trivial

variable {deployment : Deployment}

theorem accounted_takeOverStale {h : List ImportCall} {job : ImportJob} :
    Accounted (because (.reconcile deployment)) (fun _ _ => True) h
      ((takeOverStale deployment job).handle .done fun _ => .done ()) := by
  have htrivial : ∀ (h : List ImportCall) (m : ImportProgram Unit),
      Accounted (because (.reconcile deployment)) (fun _ _ => True) h m →
        Accounted (because (.reconcile deployment)) (fun _ _ => True) h
          (m.handle .done fun _ => .done ()) := fun h m hm =>
    @Accounted.handle _ _ _ _ _ _ _ (fun _ => True) _ _ _ _ hm trivial (fun _ _ _ _ _ => trivial)
      (fun _ _ hq => hq) (fun _ _ _ _ => trivial) fun _ _ _ => trivial
  refine htrivial h _ ⟨trivial, fun (reading : Nat) => ⟨trivial, fun (now : Nat) =>
    ⟨trivial, fun (later : Nat) => ?_⟩⟩⟩
  refine ⟨.inr ⟨deployment, reading, rfl, rfl⟩, fun _ => accounted_lift_bind fun acquired _ => ?_⟩
  show Accounted _ _ _ (ite _ _ _)
  split
  · have hrelease : ∀ (h : List ImportCall) (last : ImportProgram Unit),
        (∀ h, Accounted (because (.reconcile deployment)) (fun _ _ => True) h last) →
          Accounted (because (.reconcile deployment)) (fun _ _ => True) h
            ((.ask (.statement (.releaseLock job.id (.reconcile reading))) .lift :
              ImportProgram Unit) >>= fun _ => last) := fun h last hlast =>
      ⟨.inr ⟨deployment, reading, rfl, rfl⟩, fun _ => accounted_lift_bind fun _ _ => hlast _⟩
    have hresume : ∀ h, Sound (.reconcile deployment) h (resume job) := by
      intro h
      unfold resume
      split
      · exact ⟨⟨rfl, .inl rfl⟩, fun _ => accounted_lift_bind fun _ _ => trivial⟩
      · exact sound_enqueue
    exact @Accounted.handle _ _ _ _ _ _ _ (fun _ => True) _ _ _ _ (hresume _) trivial
      (fun _ _ _ _ _ => trivial) (fun _ _ hplain => hplain.2)
      (fun h _ _ _ => hrelease h _ fun _ => trivial) fun h _ _ => hrelease h _ fun _ => trivial
  · trivial

theorem accounted_resumeOrphanedStages :
    Accounted (because (.reconcile deployment)) (fun _ _ => True) []
      (resumeOrphanedStages deployment) := by
  refine @Accounted.handle _ _ _ _ (fun _ _ => True) _ (because (.reconcile deployment))
    (fun _ => True) _ _ _ _ ?_ trivial (fun _ _ _ _ _ => trivial) (fun _ _ hq => hq)
    (fun _ _ _ _ => trivial) fun _ _ _ => trivial
  refine ⟨trivial, fun now => ⟨⟨deployment, rfl⟩, fun _ => accounted_lift_bind fun _ _ =>
    ⟨⟨deployment, rfl⟩, fun _ => accounted_lift_bind fun _ _ => ⟨trivial, fun _ =>
      accounted_lift_bind fun jobs _ => ?_⟩⟩⟩⟩
  exact @Accounted.each _ _ _ (fun _ => True) _ _ _ trivial fun job _ h _ =>
    accounted_takeOverStale.mono (fun _ _ hq => hq) fun _ _ _ => trivial

theorem accounted_tick {jobId : String} {owner : LockOwner} :
    Accounted (because (.tick deployment jobId owner)) (fun _ _ => True) []
      (tick deployment jobId owner) := by
  refine ⟨trivial, fun (isSet : Bool) => ?_⟩
  cases isSet with
  | false => trivial
  | true =>
    refine ⟨trivial, fun now => ⟨trivial, fun reading => ⟨?_, fun _ => trivial⟩⟩⟩
    exact List.mem_cons_self ..

/-- Every request an entry makes is made because of what it was answered before. -/
theorem accounted_import (e : ImportEntry) :
    Accounted (because e) (fun _ _ => True) [] e.program := by
  have hplain : ∀ {m : ImportProgram Unit}, Sound e [] m →
      Accounted (because e) (fun _ _ => True) [] m := fun hm =>
    hm.mono (fun _ _ hplain => hplain.2) fun _ _ _ => trivial
  cases e with
  | delivery deployment stage jobId passes => exact accounted_process
  | updateMapping jobId mapping tenantId => exact hplain sound_updateImportMapping
  | execute jobId tenantId => exact hplain sound_executeImportJob
  | cancel jobId tenantId => exact hplain sound_cancelImportJob
  | reconcile deployment => exact accounted_resumeOrphanedStages
  | tick deployment jobId owner => exact accounted_tick

end Entries

end DddBoilerplate.Import
