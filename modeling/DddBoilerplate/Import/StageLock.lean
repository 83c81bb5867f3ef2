/- module: DddBoilerplate/Import/StageLock
   generality: I
   digest: Which stage calls leave their lock free and their interval cleared. -/

import DddBoilerplate.Import.Scenario

set_option autoImplicit false
set_option relaxedAutoImplicit false
set_option linter.all false

namespace DddBoilerplate.Import

open Concurrency Store

variable {ok : Pool importSystem → Label importSystem → Prop} {P Q R : Pool importSystem}
variable {trace : List (Label importSystem)} {l : Label importSystem}
variable {i j : Nat} {owner : LockOwner} {jobId : String}

section Owners

/-- The owner has the identifier that the call drew. -/
def Drawn (owner : LockOwner) (h : List ImportCall) : Prop :=
  ∃ stage id, owner = .stage stage id ∧ ⟨.randomUUID, id⟩ ∈ h

/-- No owner is drawn by two calls. -/
theorem Drawn.unique (hrun : Run ok P trace Q) (hi : Drawn owner (calls i trace))
    (hj : Drawn owner (calls j trace)) : i = j := by
  obtain ⟨stage, id, rfl, hi⟩ := hi
  obtain ⟨stage', id', heq, hj⟩ := hj
  obtain ⟨rfl, rfl⟩ := LockOwner.stage.inj heq
  obtain ⟨f, hf⟩ := mem_calls.mp hi
  obtain ⟨g, hg⟩ := mem_calls.mp hj
  exact drawn_once hrun hf hg

theorem Drawn.append (h : Drawn owner (calls i trace)) : Drawn owner (calls i (trace ++ [l])) := by
  obtain ⟨stage, id, rfl, hdrawn⟩ := h
  exact ⟨stage, id, rfl, mem_calls_append hdrawn⟩

variable (hrun : Run ok P trace Q) (hidle : P.threads = [])
include hrun hidle

theorem drawn_of_acquired {stage : ImportStage} {id : String} {lockedUntil now : Nat}
    {a : Except String Bool}
    (h : ⟨.statement (.tryAcquireLock jobId (.stage stage id) lockedUntil now), a⟩ ∈ calls i trace) :
    Drawn (.stage stage id) (calls i trace) := by
  obtain ⟨f, hmem⟩ := mem_calls.mp h
  obtain ⟨e, _, earlier, hearlier, hbecause⟩ := because_of_call accounted_import hrun hidle hmem
  rcases hbecause with ⟨_, stage', _, id', _, heq, hdrawn, _⟩ | ⟨_, _, _, heq⟩
  · exact ⟨stage', id', heq, hearlier _ hdrawn⟩
  · cases heq

theorem drawn_of_set (h : ⟨.statement (.setInterval owner), ()⟩ ∈ calls i trace) :
    Drawn owner (calls i trace) := by
  obtain ⟨f, hmem⟩ := mem_calls.mp h
  obtain ⟨e, _, earlier, hearlier, hbecause⟩ := because_of_call accounted_import hrun hidle hmem
  obtain ⟨_, _, _, _, _, lockedUntil, now, _, rfl, hcalls⟩ := hbecause
  have hacquired := List.mem_of_mem_filter (hcalls ▸ List.mem_cons_self ..)
  exact drawn_of_acquired hrun hidle (hearlier _ hacquired)

theorem drawn_of_cleared (h : ⟨.statement (.clearInterval owner), ()⟩ ∈ calls i trace) :
    Drawn owner (calls i trace) := by
  obtain ⟨f, hmem⟩ := mem_calls.mp h
  obtain ⟨e, _, earlier, hearlier, jobId, lockedUntil, now, hcalls⟩ :=
    because_of_call accounted_import hrun hidle hmem
  have hset := List.mem_of_mem_filter (hcalls ▸ List.mem_cons_of_mem _ (List.mem_cons_self ..))
  exact drawn_of_set hrun hidle (hearlier _ hset)

end Owners

section Timers

/-- The call set the interval of this owner, and has not cleared it. -/
def Renews (owner : LockOwner) (h : List ImportCall) : Prop :=
  ⟨.statement (.setInterval owner), ()⟩ ∈ h ∧ ⟨.statement (.clearInterval owner), ()⟩ ∉ h

theorem mem_calls_snoc {q : WorldRequest ImportStatement.interface} {a : q.Answer} :
    (⟨q, a⟩ : ImportCall) ∈ calls i (trace ++ [l]) ↔
      (⟨q, a⟩ : ImportCall) ∈ calls i trace ∨ ∃ f, l = .served i q a f := by
  constructor
  · intro h
    obtain ⟨f, hmem⟩ := mem_calls.mp h
    rcases List.mem_append.mp hmem with hmem | hmem
    · exact .inl (mem_calls.mpr ⟨f, hmem⟩)
    · exact .inr ⟨f, (List.mem_singleton.mp hmem).symm⟩
  · rintro (h | ⟨f, rfl⟩)
    · exact mem_calls_append h
    · exact mem_calls.mpr ⟨f, List.mem_append_right _ (List.mem_singleton_self _)⟩

theorem set_of_step {f : Front ImportStatement.interface.world}
    (h : Step importSystem Q (.served i (.statement (.setInterval owner)) () f) R) :
    owner ∈ R.store.db.timers := by
  obtain ⟨choice, _, hexecute⟩ := executed_of_served h fun _ heq => by cases heq
  rw [hexecute]
  exact List.mem_cons_self ..

theorem cleared_of_step {f : Front ImportStatement.interface.world}
    (h : Step importSystem Q (.served i (.statement (.clearInterval owner)) () f) R) :
    owner ∉ R.store.db.timers := by
  obtain ⟨choice, _, hexecute⟩ := executed_of_served h fun _ heq => by cases heq
  rw [hexecute]
  intro hmem
  exact of_decide_eq_true (List.mem_filter.mp hmem).2 rfl

/-- An interval is set in its call. -/
theorem set_of_mem (h : Step importSystem Q l R) (hmem : owner ∈ R.store.db.timers) :
    owner ∈ Q.store.db.timers ∨
      ∃ i f, l = .served i (.statement (.setInterval owner)) () f := by
  rcases executed_of_step h with hsame | ⟨i, q, a, f, choice, rfl, _, hexecute⟩
  · exact .inl (hsame ▸ hmem)
  · rw [hexecute] at hmem
    cases q with
    | setInterval owner' =>
      rcases List.mem_cons.mp hmem with rfl | hmem
      · exact .inr ⟨i, f, rfl⟩
      · exact .inl hmem
    | clearInterval owner' => exact .inl (List.mem_filter.mp hmem).1
    | _ => exact .inl hmem

/-- And cleared in its call. -/
theorem cleared_of_not_mem (h : Step importSystem Q l R) (hmem : owner ∈ Q.store.db.timers)
    (hgone : owner ∉ R.store.db.timers) :
    ∃ i f, l = .served i (.statement (.clearInterval owner)) () f := by
  rcases executed_of_step h with hsame | ⟨i, q, a, f, choice, rfl, _, hexecute⟩
  · exact absurd (hsame ▸ hmem) hgone
  · rw [hexecute] at hgone
    cases q with
    | setInterval owner' => exact absurd (List.mem_cons_of_mem _ hmem) hgone
    | clearInterval owner' =>
      by_cases heq : owner = owner'
      · subst heq
        exact ⟨i, f, rfl⟩
      · exact absurd (List.mem_filter.mpr ⟨hmem, decide_eq_true heq⟩) hgone
    | _ => exact absurd hmem hgone

theorem renews_of_mem (hrun : Run ok P trace Q) (hidle : P.threads = [])
    (hcreated : Created P.store.db) (hmem : owner ∈ Q.store.db.timers) :
    ∃ i, Renews owner (calls i trace) := by
  induction hrun with
  | nil =>
    rw [hcreated.timers] at hmem
    cases hmem
  | @snoc trace Q R l hrun _ hstep ih =>
    rcases set_of_mem hstep hmem with hbefore | ⟨i, f, rfl⟩
    · obtain ⟨i, hset, hcleared⟩ := ih hbefore
      refine ⟨i, mem_calls_append hset, fun hclear => ?_⟩
      rcases mem_calls_snoc.mp hclear with hclear | ⟨f, rfl⟩
      · exact hcleared hclear
      · exact cleared_of_step hstep hmem
    · refine ⟨i, mem_calls_snoc.mpr (.inr ⟨f, rfl⟩), fun hclear => ?_⟩
      rcases mem_calls_snoc.mp hclear with hclear | ⟨g, heq⟩
      · -- nothing but the lock was asked for before the interval is set
        obtain ⟨e, _, _, _, _, _, _, _, _, _, _, hcalls⟩ :=
          because_of_entry accounted_import hrun hidle hstep
        have hlock : (⟨.statement (.clearInterval owner), ()⟩ : ImportCall) ∈
            lockCalls (calls i trace) := List.mem_filter.mpr ⟨hclear, rfl⟩
        rw [hcalls] at hlock
        cases List.mem_singleton.mp hlock
      · cases heq

theorem mem_of_renews (hrun : Run ok P trace Q) (hidle : P.threads = [])
    (hrenews : Renews owner (calls i trace)) : owner ∈ Q.store.db.timers := by
  induction hrun with
  | nil => cases hrenews.1
  | @snoc trace Q R l hrun hok hstep ih =>
    obtain ⟨hset, hcleared⟩ := hrenews
    rcases mem_calls_snoc.mp hset with hearlier | ⟨f, rfl⟩
    · have hbefore := ih ⟨hearlier, fun hclear => hcleared (mem_calls_append hclear)⟩
      refine by_contra fun hgone => ?_
      obtain ⟨j, f, rfl⟩ := cleared_of_not_mem hstep hbefore hgone
      -- the call that clears the interval is the one that set it
      have hrun' := hrun.snoc hok hstep
      have hclear := (@mem_calls_snoc trace _ j (.statement (.clearInterval owner)) ()).mpr
        (.inr ⟨f, rfl⟩)
      obtain rfl : j = i := Drawn.unique hrun' (drawn_of_cleared hrun' hidle hclear)
        (drawn_of_set hrun hidle hearlier).append
      exact hcleared hclear
    · exact set_of_step hstep

end Timers

section Locks

/-- The call acquired the lock of the job for this owner, and has not released it. -/
def Holds (jobId : String) (owner : LockOwner) (h : List ImportCall) : Prop :=
  (∃ lockedUntil now, ⟨.statement (.tryAcquireLock jobId owner lockedUntil now), .ok true⟩ ∈ h) ∧
    ⟨.statement (.releaseLock jobId owner), .ok ()⟩ ∉ h

/-- Only its acquisition makes an owner the owner of a lock, and its release leaves it none. -/
theorem lockedBy_onJob {q : ImportStatement} {choice : ImportChoice} {job : ImportJob}
    (h : (q.onJob choice job).lockedBy = some owner) :
    (∃ lockedUntil now, q = .tryAcquireLock job.id owner lockedUntil now ∧
      job.isLockable owner now = true) ∨
      job.lockedBy = some owner ∧ q ≠ .releaseLock job.id owner := by
  cases q with
  | tryAcquireLock jobId owner' lockedUntil now =>
    dsimp only [ImportStatement.onJob] at h
    split at h
    · rename_i hlock
      simp only [Bool.and_eq_true, decide_eq_true_eq] at hlock
      obtain rfl := Option.some.inj h
      exact .inl ⟨lockedUntil, now, by rw [hlock.1], hlock.2⟩
    · exact .inr ⟨h, fun heq => by cases heq⟩
  | releaseLock jobId owner' =>
    dsimp only [ImportStatement.onJob] at h
    split at h
    · cases h
    · rename_i hother
      refine .inr ⟨h, fun heq => hother ?_⟩
      cases heq
      simp [h]
  | markTerminal jobId status =>
    dsimp only [ImportStatement.onJob] at h
    split at h
    · cases h
    · exact .inr ⟨h, fun heq => by cases heq⟩
  | heartbeat | transitionStatus | setColumnMapping | updateTotalRows | setCancelRequested
  | writeCounts =>
    dsimp only [ImportStatement.onJob] at h
    split at h <;> exact .inr ⟨h, fun heq => by cases heq⟩
  | _ => exact .inr ⟨h, fun heq => by cases heq⟩

/-- Whoever a stage lock is held by acquired it and has not released it since. -/
theorem holds_of_lockedBy {stage : ImportStage} {id : String} {job : ImportJob}
    (hrun : Run ok P trace Q) (hidle : P.threads = []) (hcreated : Created P.store.db)
    (hjob : job ∈ Q.store.db.jobs.rows) (hlocked : job.lockedBy = some (.stage stage id)) :
    ∃ i, Holds job.id (.stage stage id) (calls i trace) := by
  induction hrun generalizing job with
  | nil =>
    rw [hcreated.unlocked job hjob] at hlocked
    cases hlocked
  | @snoc trace Q R l hrun _ hstep ih =>
    -- the lock would be free after a release
    have hkept : ∀ i f, l ≠ .served i (.statement (.releaseLock job.id (.stage stage id))) (.ok ()) f := by
      rintro i f rfl
      obtain ⟨choice, _, hexecute⟩ := executed_of_served hstep fun _ heq => by cases heq
      rw [hexecute] at hjob
      obtain ⟨old, _, heq⟩ := mem_jobs_execute.mp hjob
      have hid : job.id = old.id := heq ▸ ImportStatement.onJob_id _ choice old
      rw [← heq] at hlocked
      rcases lockedBy_onJob hlocked with ⟨_, _, heq, _⟩ | ⟨_, hne⟩
      · cases heq
      · exact hne (by rw [hid])
    have hbefore : (∃ i, Holds job.id (.stage stage id) (calls i trace)) →
        ∃ i, Holds job.id (.stage stage id) (calls i (trace ++ [l])) := by
      rintro ⟨i, ⟨lockedUntil, now, hacquired⟩, hreleased⟩
      refine ⟨i, ⟨lockedUntil, now, mem_calls_append hacquired⟩, fun hrelease => ?_⟩
      rcases mem_calls_snoc.mp hrelease with hrelease | ⟨f, heq⟩
      · exact hreleased hrelease
      · exact hkept i f heq
    rcases executed_of_step hstep with hsame | ⟨i, q, a, f, choice, rfl, hanswer, hexecute⟩
    · exact hbefore (ih (hsame ▸ hjob) hlocked)
    · rw [hexecute] at hjob
      obtain ⟨old, hold, rfl⟩ := mem_jobs_execute.mp hjob
      rw [ImportStatement.onJob_id] at hbefore ⊢
      rcases lockedBy_onJob hlocked with ⟨lockedUntil, now, rfl, hlockable⟩ | ⟨hwas, _⟩
      · have hfound : Q.store.db.jobs.get? old.id = some old := Table.get?_of_mem hold
        simp only [ImportStatement.answer, hfound, Option.any_some, hlockable] at hanswer
        cases hanswer
        refine ⟨i, ⟨lockedUntil, now, mem_calls_snoc.mpr (.inr ⟨f, rfl⟩)⟩, fun hrelease => ?_⟩
        rcases mem_calls_snoc.mp hrelease with hrelease | ⟨g, heq⟩
        · obtain ⟨e, _, ⟨_, _, _, _, _, _, _, hnone⟩ | ⟨_, _, _, heq⟩⟩ :=
            because_of_entry accounted_import hrun hidle hstep
          · have hlock : (⟨.statement (.releaseLock old.id (.stage stage id)), .ok ()⟩ : ImportCall) ∈
                lockCalls (calls i trace) := List.mem_filter.mpr ⟨hrelease, rfl⟩
            rw [hnone] at hlock
            cases hlock
          · cases heq
        · cases heq
      · exact hbefore (ih hold hwas)

end Locks

section Freed

/-- The database accepts the release of a stage lock. -/
def ReleaseAccepted (_ : Pool importSystem) : Label importSystem → Prop
  | .served _ (.statement (.releaseLock _ (.stage _ _))) (.error _) _ => False
  | _ => True

instance (Q : Pool importSystem) (l : Label importSystem) : Decidable (ReleaseAccepted Q l) := by
  unfold ReleaseAccepted
  split <;> infer_instance

/-- The owner has no interval and no lock. -/
def Freed (owner : LockOwner) (Q : Pool importSystem) : Prop :=
  owner ∉ Q.store.db.timers ∧ ∀ job ∈ Q.store.db.jobs.rows, job.lockedBy ≠ some owner

/-- A call acquired the lock, and has not both cleared its interval and released it. -/
def Occupied (jobId : String) (owner : LockOwner) (h : List ImportCall) : Prop :=
  (∃ lockedUntil now, ⟨.statement (.tryAcquireLock jobId owner lockedUntil now), .ok true⟩ ∈ h) ∧
    (⟨.statement (.clearInterval owner), ()⟩ ∉ h ∨
      ⟨.statement (.releaseLock jobId owner), .ok ()⟩ ∉ h)

theorem acquired_of_set (hrun : Run ok P trace Q) (hidle : P.threads = [])
    (h : ⟨.statement (.setInterval owner), ()⟩ ∈ calls i trace) : ∃ jobId lockedUntil now,
      ⟨.statement (.tryAcquireLock jobId owner lockedUntil now), .ok true⟩ ∈ calls i trace := by
  obtain ⟨f, hmem⟩ := mem_calls.mp h
  obtain ⟨e, _, earlier, hearlier, hbecause⟩ := because_of_call accounted_import hrun hidle hmem
  obtain ⟨_, _, jobId, _, _, lockedUntil, now, _, rfl, hcalls⟩ := hbecause
  exact ⟨jobId, lockedUntil, now, hearlier _ (List.mem_of_mem_filter (hcalls ▸ List.mem_cons_self ..))⟩

/-- What is not freed is occupied by the one call that drew the owner. -/
theorem occupied_of_not_freed {stage : ImportStage} {id : String} (hrun : Run ok P trace Q)
    (hidle : P.threads = []) (hcreated : Created P.store.db) (h : ¬ Freed (.stage stage id) Q) :
    ∃ i jobId, Occupied jobId (.stage stage id) (calls i trace) := by
  by_cases hmem : LockOwner.stage stage id ∈ Q.store.db.timers
  · obtain ⟨i, hset, hcleared⟩ := renews_of_mem hrun hidle hcreated hmem
    obtain ⟨jobId, lockedUntil, now, hacquired⟩ := acquired_of_set hrun hidle hset
    exact ⟨i, jobId, ⟨lockedUntil, now, hacquired⟩, .inl hcleared⟩
  · by_contra hnone
    refine h ⟨hmem, fun job hjob hlocked => ?_⟩
    obtain ⟨i, hacquired, hreleased⟩ := holds_of_lockedBy hrun hidle hcreated hjob hlocked
    exact hnone ⟨i, job.id, hacquired, .inr hreleased⟩

/-- A lock call of a thread that acquired the lock of one job is about that job and its owner. -/
theorem acquired_once {owner' : LockOwner} {jobId' : String} {h : List ImportCall}
    {lockedUntil now lockedUntil' now' : Nat} {rest : List ImportCall}
    (hcalls : lockCalls h =
      ⟨.statement (.tryAcquireLock jobId owner lockedUntil now), .ok true⟩ :: rest)
    (hrest : ∀ call ∈ rest, ∀ jobId owner lockedUntil now answer,
      call ≠ ⟨.statement (.tryAcquireLock jobId owner lockedUntil now), answer⟩)
    (hacquired : ⟨.statement (.tryAcquireLock jobId' owner' lockedUntil' now'), .ok true⟩ ∈ h) :
    jobId' = jobId ∧ owner' = owner := by
  have hlock := List.mem_filter.mpr ⟨hacquired, (rfl : isLockCall _ = true)⟩
  rw [show h.filter isLockCall = lockCalls h from rfl, hcalls] at hlock
  rcases List.mem_cons.mp hlock with heq | hmem
  · cases heq
    exact ⟨rfl, rfl⟩
  · exact absurd rfl (hrest _ hmem _ _ _ _ _)

/-- A call that ends with the lock acquired left its `try`, or never entered it. -/
theorem lockEnded_cases {s : StageBody} {h : List ImportCall} {lockedUntil now : Nat}
    (hended : LockEnded s jobId h)
    (hacquired : ⟨.statement (.tryAcquireLock jobId owner lockedUntil now), .ok true⟩ ∈ h) :
    (⟨.statement (.clearInterval owner), ()⟩ ∈ h ∧
      (∃ outcome, ⟨.statement (.releaseLock jobId owner), outcome⟩ ∈ h) ∧ Entered s h) ∨
    ((⟨.statement (.setInterval owner), ()⟩ ∈ h ∧ ⟨.statement (.clearInterval owner), ()⟩ ∉ h) ∧
      ¬ Entered s h) := by
  rcases hended with hnever | ⟨owner', outcome, ⟨lockedUntil', now', hcalls⟩, hentered⟩ |
    ⟨owner', ⟨lockedUntil', now', hcalls⟩, hnot⟩
  · exact absurd hacquired (hnever owner lockedUntil now)
  · obtain ⟨_, rfl⟩ := acquired_once hcalls (by simp) hacquired
    have hmem : ∀ call ∈ lockCalls h, call ∈ h := fun call hcall => List.mem_of_mem_filter hcall
    rw [hcalls] at hmem
    exact .inl ⟨hmem _ (by simp), ⟨outcome, hmem _ (by simp)⟩, hentered⟩
  · obtain ⟨_, rfl⟩ := acquired_once hcalls (by simp) hacquired
    have hmem : ∀ call ∈ lockCalls h, call ∈ h := fun call hcall => List.mem_of_mem_filter hcall
    rw [hcalls] at hmem
    refine .inr ⟨⟨hmem _ (by simp), fun hclear => ?_⟩, hnot⟩
    have hlock := List.mem_filter.mpr ⟨hclear, (rfl : isLockCall _ = true)⟩
    rw [show h.filter isLockCall = lockCalls h from rfl, hcalls] at hlock
    simp at hlock

theorem accepted_of_mem (hrun : Run ReleaseAccepted P trace Q) {stage : ImportStage} {id : String}
    {outcome : Except String Unit}
    (h : ⟨.statement (.releaseLock jobId (.stage stage id)), outcome⟩ ∈ calls i trace) :
    outcome = .ok () := by
  obtain ⟨f, hmem⟩ := mem_calls.mp h
  have haccepted := hrun.forall_mem (p := fun l => ReleaseAccepted P l) (fun _ _ h => h) _ hmem
  cases outcome with
  | error error => exact haccepted.elim
  | ok released => rfl

theorem same_of_ended {outcome : Except String Unit} {f : Front ImportStatement.interface.world}
    (h : Step importSystem Q (.served i (.statement (.ended outcome)) () f) R) :
    Freed owner R ↔ Freed owner Q := by
  obtain ⟨choice, _, hexecute⟩ := executed_of_served h fun _ heq => by cases heq
  unfold Freed
  rw [hexecute]
  refine and_congr Iff.rfl ⟨fun hjobs job hjob => hjobs job ?_, fun hjobs job hjob => hjobs job ?_⟩
  · exact mem_jobs_execute.mpr ⟨job, hjob, rfl⟩
  · obtain ⟨old, hold, rfl⟩ := mem_jobs_execute.mp hjob
    exact hold

/-- A delivery asks for no lock but that of its own job. -/
theorem asked_of_acquired (hrun : Run ok P trace Q) (hidle : P.threads = [])
    {deployment : Deployment} {stage : ImportStage} {passes lockedUntil now : Nat} {asked : String}
    {a : Except String Bool} (he : (entries trace)[i]? = some (.delivery deployment stage jobId passes))
    (h : ⟨.statement (.tryAcquireLock asked owner lockedUntil now), a⟩ ∈ calls i trace) :
    asked = jobId := by
  obtain ⟨f, hmem⟩ := mem_calls.mp h
  obtain ⟨e, he', _, _, ⟨_, _, _, _, rfl, _⟩ | ⟨_, _, rfl, _⟩⟩ :=
    because_of_call accounted_import hrun hidle hmem
  · rw [he] at he'
    cases he'
    rfl
  · rw [he] at he'
    cases he'

/-- A call that ends leaves its lock free and its interval cleared exactly when it had entered. -/
theorem freed_iff_entered (hrun : Run ReleaseAccepted P trace Q) (hidle : P.threads = [])
    (hcreated : Created P.store.db) {outcome : Except String Unit}
    {f : Front ImportStatement.interface.world} {deployment : Deployment} {stage : ImportStage}
    {passes lockedUntil now : Nat}
    (hstep : Step importSystem Q (.served i (.statement (.ended outcome)) () f) R)
    (he : (entries trace)[i]? = some (.delivery deployment stage jobId passes))
    (hacquired : ⟨.statement (.tryAcquireLock jobId owner lockedUntil now), .ok true⟩ ∈
      calls i trace) :
    Freed owner R ↔ Entered (stageBody deployment passes stage) (calls i trace) := by
  obtain ⟨e, he', _, _, _, _, heq, hended⟩ := because_of_entry accounted_import hrun hidle hstep
  rw [he] at he'
  cases he'
  cases heq
  rw [same_of_ended hstep]
  rcases lockEnded_cases hended hacquired with ⟨hcleared, ⟨outcome, hrelease⟩, hentered⟩ |
    ⟨hrenews, hnot⟩
  · refine ⟨fun _ => hentered, fun _ => by_contra fun hbusy => ?_⟩
    obtain ⟨stage', id, rfl⟩ : ∃ stage id, owner = .stage stage id := by
      obtain ⟨stage', id, heq, _⟩ := drawn_of_cleared hrun hidle hcleared
      exact ⟨stage', id, heq⟩
    obtain ⟨j, asked, ⟨_, _, hother⟩, hpending⟩ := occupied_of_not_freed hrun hidle hcreated hbusy
    obtain rfl : j = i := Drawn.unique hrun (drawn_of_acquired hrun hidle hother)
      (drawn_of_acquired hrun hidle hacquired)
    obtain rfl := asked_of_acquired hrun hidle he hother
    obtain rfl := accepted_of_mem hrun hrelease
    exact hpending.elim (absurd hcleared) (absurd hrelease)
  · refine ⟨fun hfreed => ?_, fun hentered => absurd hentered hnot⟩
    exact absurd (mem_of_renews hrun hidle hrenews) hfreed.1

/-- Every call that ended with the lock of its job acquired had entered. -/
def EndedEntered (trace : List (Label importSystem)) : Prop :=
  ∀ (earlier : List (Label importSystem)) i outcome f deployment stage jobId passes owner lockedUntil
      now,
    earlier ++ [(.served i (.statement (.ended outcome)) () f : Label importSystem)] <+: trace →
      (entries earlier)[i]? = some (.delivery deployment stage jobId passes) →
        ⟨.statement (.tryAcquireLock jobId owner lockedUntil now), .ok true⟩ ∈ calls i earlier →
          Entered (stageBody deployment passes stage) (calls i earlier)

/-- No stage call is in progress. -/
def AllEnded (trace : List (Label importSystem)) : Prop :=
  ∀ i deployment stage jobId passes,
    (entries trace)[i]? = some (.delivery deployment stage jobId passes) →
      ∃ outcome, ⟨.statement (.ended outcome), ()⟩ ∈ calls i trace

theorem delivery_of_acquired {stage : ImportStage} {id : String} (hrun : Run ok P trace Q)
    (hidle : P.threads = []) {lockedUntil now : Nat} {a : Except String Bool}
    (h : ⟨.statement (.tryAcquireLock jobId (.stage stage id) lockedUntil now), a⟩ ∈ calls i trace) :
    ∃ deployment passes, (entries trace)[i]? = some (.delivery deployment stage jobId passes) := by
  obtain ⟨f, hmem⟩ := mem_calls.mp h
  obtain ⟨e, he, _, _, ⟨deployment, _, passes, _, rfl, heq, _⟩ | ⟨_, _, _, heq⟩⟩ :=
    because_of_call accounted_import hrun hidle hmem
  · cases heq
    exact ⟨deployment, passes, he⟩
  · cases heq

/-- A call that occupies its lock has not ended. -/
theorem not_ended_of_occupied {stage : ImportStage} {id : String}
    (hrun : Run ReleaseAccepted P trace Q) (hidle : P.threads = []) (hended : EndedEntered trace)
    (hoccupied : Occupied jobId (.stage stage id) (calls i trace)) {outcome : Except String Unit} :
    ⟨.statement (.ended outcome), ()⟩ ∉ calls i trace := by
  induction hrun with
  | nil =>
    intro hmem
    cases hmem
  | @snoc trace Q R l hrun hok hstep ih =>
    intro hmem
    obtain ⟨⟨lockedUntil, now, hacquired⟩, hpending⟩ := hoccupied
    have hpending' : ⟨.statement (.clearInterval (.stage stage id)), ()⟩ ∉ calls i trace ∨
        ⟨.statement (.releaseLock jobId (.stage stage id)), .ok ()⟩ ∉ calls i trace :=
      hpending.imp (fun hnot hclear => hnot (mem_calls_append hclear))
        fun hnot hrelease => hnot (mem_calls_append hrelease)
    rcases mem_calls_snoc.mp hmem with hbefore | ⟨f, rfl⟩
    · rcases mem_calls_snoc.mp hacquired with hearlier | ⟨f, rfl⟩
      · refine ih (fun earlier i outcome f deployment stage jobId passes owner lockedUntil now hpre =>
          hended earlier i outcome f deployment stage jobId passes owner lockedUntil now
            (hpre.trans (List.prefix_append _ _))) ⟨⟨_, _, hearlier⟩, hpending'⟩ hbefore
      · -- the lock is asked for before anything is reported
        obtain ⟨e, _, ⟨_, _, _, _, _, _, _, hnone⟩ | ⟨_, _, _, heq⟩⟩ :=
          because_of_entry accounted_import hrun hidle hstep
        · have hlock := List.mem_filter.mpr ⟨hbefore, (rfl : isLockCall _ = true)⟩
          rw [show (calls i trace).filter isLockCall = lockCalls (calls i trace) from rfl, hnone] at hlock
          cases hlock
        · cases heq
    · rcases mem_calls_snoc.mp hacquired with hearlier | ⟨g, heq⟩
      · obtain ⟨deployment, passes, he⟩ := delivery_of_acquired hrun hidle hearlier
        have hentered := hended trace i outcome f deployment stage jobId passes _ _ _
          (List.prefix_refl _) he hearlier
        obtain ⟨e, he', _, _, _, _, heq, hlock⟩ := because_of_entry accounted_import hrun hidle hstep
        rw [he] at he'
        cases he'
        cases heq
        rcases lockEnded_cases hlock hearlier with ⟨hcleared, ⟨outcome, hrelease⟩, _⟩ | ⟨_, hnot⟩
        · obtain rfl := accepted_of_mem hrun hrelease
          exact hpending'.elim (absurd hcleared) (absurd hrelease)
        · exact hnot hentered
      · cases heq

/-- With every ended call entered and none in progress, no stage has an interval or a lock. -/
theorem freed_of_allEnded (hrun : Run ReleaseAccepted P trace Q) (hidle : P.threads = [])
    (hcreated : Created P.store.db) (hended : EndedEntered trace) (hall : AllEnded trace)
    (stage : ImportStage) (id : String) : Freed (.stage stage id) Q := by
  by_contra hbusy
  obtain ⟨i, jobId, hoccupied⟩ := occupied_of_not_freed hrun hidle hcreated hbusy
  obtain ⟨_, _, hacquired⟩ := hoccupied.1
  obtain ⟨deployment, passes, he⟩ := delivery_of_acquired hrun hidle hacquired
  obtain ⟨outcome, hmem⟩ := hall i deployment stage jobId passes he
  exact not_ended_of_occupied hrun hidle hended hoccupied hmem

/-- Where the database accepts the releases: a stage call that acquired the lock leaves it free, and
its interval cleared, exactly when it passed its guards and so entered its `try`; and once all calls
have ended, each as it entered, no interval is set, no stage holds a lock, and a job that is not
terminal can be locked as soon as the lease that may be left on it has passed. -/
theorem stage_lock_freed_iff (hrun : Run ReleaseAccepted P trace Q) (hidle : P.threads = [])
    (hcreated : Created P.store.db) :
    (∀ i outcome f R deployment stage jobId passes owner lockedUntil now,
      Step importSystem Q (.served i (.statement (.ended outcome)) () f) R →
        (entries trace)[i]? = some (.delivery deployment stage jobId passes) →
          ⟨.statement (.tryAcquireLock jobId owner lockedUntil now), .ok true⟩ ∈ calls i trace →
            (Freed owner R ↔ Entered (stageBody deployment passes stage) (calls i trace))) ∧
    (EndedEntered trace → AllEnded trace → Q.store.db.timers = [] ∧
      ∀ job ∈ Q.store.db.jobs.rows, (∀ stage id, job.lockedBy ≠ some (.stage stage id)) ∧
        (job.status.isTerminal = false → ∀ owner now,
          (∀ lease, job.lockedUntil = some lease → lease < now) → job.isLockable owner now = true)) := by
  refine ⟨fun i outcome f R deployment stage jobId passes owner lockedUntil now hstep he hacquired =>
    freed_iff_entered hrun hidle hcreated hstep he hacquired, fun hended hall => ⟨?_, ?_⟩⟩
  · refine List.eq_nil_iff_forall_not_mem.mpr fun owner hmem => ?_
    obtain ⟨i, hset, _⟩ := renews_of_mem hrun hidle hcreated hmem
    obtain ⟨stage, id, rfl, _⟩ := drawn_of_set hrun hidle hset
    exact (freed_of_allEnded hrun hidle hcreated hended hall stage id).1 hmem
  · refine fun job hjob => ⟨fun stage id =>
      (freed_of_allEnded hrun hidle hcreated hended hall stage id).2 job hjob, ?_⟩
    intro hopen owner now hpassed
    unfold ImportJob.isLockable
    rw [hopen]
    cases hlease : job.lockedUntil with
    | none => simp
    | some lease => simp [hpassed lease hlease]

end Freed

section Leaked

open Scenario

/-- The call has the lock, and its interval is set when it ends. -/
def Leaked (trace : List (Label importSystem)) (r : Label importSystem × Pool importSystem) : Prop :=
  (match r.1 with
    | .served i (.statement (.ended (.error _))) _ _ => i = 0
    | _ => False) ∧
  ((calls 0 trace).any fun call => match call with
    | ⟨.statement (.tryAcquireLock jobId owner _ _), .ok true⟩ =>
      jobId = "j" && owner = .stage .validate "v"
    | _ => false) = true ∧
  ((entries trace)[0]?.any fun e => match e with
    | .delivery _ stage jobId _ => stage = .validate && jobId = "j"
    | _ => false) = true ∧
  LockOwner.stage .validate "v" ∈ r.2.store.db.timers

instance (trace : List (Label importSystem)) (r : Label importSystem × Pool importSystem) :
    Decidable (Leaked trace r) := by
  unfold Leaked
  refine @instDecidableAnd _ _ ?_ inferInstance
  split <;> infer_instance

/-- A stage is delivered to a job whose status it does not expect. -/
theorem leaked_reached : ∃ Q trace r, Run ReleaseAccepted createdPool trace Q ∧
    Step importSystem Q r.1 r.2 ∧ Leaked trace r := by
  have hplay : ((createdPool.record ReleaseAccepted (delivering 0 .validate "v")).bind fun r =>
      (r.2.move (statement 0 quiet)).map fun s => decide (Leaked r.1 s)) = some true := by
    decide
  exact Pool.record_step_reach hplay

/-- The call that ended, its entry and its lock. -/
theorem Leaked.ended {Q : Pool importSystem} {trace : List (Label importSystem)}
    {r : Label importSystem × Pool importSystem} (h : Leaked trace r)
    (hstep : Step importSystem Q r.1 r.2) :
    ∃ outcome f deployment passes lockedUntil now,
      Step importSystem Q (.served 0 (.statement (.ended outcome)) () f) r.2 ∧
        (entries trace)[0]? = some (.delivery deployment .validate "j" passes) ∧
          ⟨.statement (.tryAcquireLock "j" (.stage .validate "v") lockedUntil now), .ok true⟩ ∈
            calls 0 trace := by
  obtain ⟨l, R⟩ := r
  obtain ⟨hlabel, hcall, hentry, _⟩ := h
  obtain ⟨call, hcall, hacquired⟩ := List.any_eq_true.mp hcall
  obtain ⟨e, he, hentry⟩ := (Option.any_eq_true _ _).mp hentry
  split at hlabel
  · rename_i j error a f heq
    subst hlabel
    obtain rfl : l = _ := heq
    split at hacquired
    · split at hentry
      · simp only [Bool.and_eq_true, decide_eq_true_eq] at hacquired hentry
        obtain ⟨rfl, rfl⟩ := hacquired
        obtain ⟨rfl, rfl⟩ := hentry
        exact ⟨_, f, _, _, _, _, hstep, he, hcall⟩
      · cases hentry
    · cases hacquired
  · cases hlabel

/-- The call throws, and its interval goes on renewing the lock. -/
theorem stage_lock_leaked : ∃ Q trace outcome f R lockedUntil now,
    Run ReleaseAccepted createdPool trace Q ∧
      Step importSystem Q (.served 0 (.statement (.ended outcome)) () f) R ∧
        ⟨.statement (.tryAcquireLock "j" (.stage .validate "v") lockedUntil now), .ok true⟩ ∈
          calls 0 trace ∧ ¬ Freed (.stage .validate "v") R := by
  obtain ⟨Q, trace, r, hrun, hstep, hleaked⟩ := leaked_reached
  obtain ⟨outcome, f, _, _, lockedUntil, now, hended, _, hacquired⟩ := hleaked.ended hstep
  exact ⟨Q, trace, outcome, f, r.2, lockedUntil, now, hrun, hended, hacquired,
    fun hfreed => hfreed.1 hleaked.2.2.2⟩

theorem stage_lock_freed_iff_leaked : ∃ Q trace deployment passes,
    Run ReleaseAccepted createdPool trace Q ∧
      (entries trace)[0]? = some (.delivery deployment .validate "j" passes) ∧
        ¬ Entered (stageBody deployment passes .validate) (calls 0 trace) := by
  obtain ⟨Q, trace, r, hrun, hstep, hleaked⟩ := leaked_reached
  obtain ⟨outcome, f, deployment, passes, _, _, hended, he, hacquired⟩ := hleaked.ended hstep
  refine ⟨Q, trace, deployment, passes, hrun, he, fun hentered => ?_⟩
  have hfreed := ((stage_lock_freed_iff hrun rfl created_createdPool).1 _ _ _ _ _ _ _ _ _ _ _ hended he
    hacquired).mpr hentered
  exact hfreed.1 hleaked.2.2.2

end Leaked

end DddBoilerplate.Import
