/- module: DddBoilerplate/Webhook/InboundHandling
   generality: I
   digest: Whether an acknowledged inbound webhook has been handled, and how often. -/

import DddBoilerplate.Webhook.InboundClaims

set_option autoImplicit false
set_option relaxedAutoImplicit false
set_option linter.all false

namespace DddBoilerplate.InboundWebhook

open Concurrency Store Idempotency
open Webhook (Reply)

variable {config : InboundConfig}

section Found

variable {P Q R : Pool (inboundSystem config)} {l : Label (inboundSystem config)}
variable {trace : List (Label (inboundSystem config))} {i j : Nat}
variable {identity : IdempotencyIdentity} {row : IdempotencyRow}

/-- An entry of the cache is set, or was there. -/
theorem cached_of_perform {q : IdempotencyStatement} {c : IdempotencyChoice} {db : IdempotencyDb}
    {entry : CacheEntry} (h : entry ∈ (q.perform c db).2.cache) :
    entry ∈ db.cache ∨ ∃ ttlMs, q = .cacheSet entry.key entry.value ttlMs := by
  cases q with
  | cacheSet key value ttlMs =>
    dsimp only [IdempotencyStatement.perform] at h
    split at h
    · rcases List.mem_cons.mp h with rfl | h
      · exact .inr ⟨ttlMs, rfl⟩
      · exact .inl (List.mem_filter.mp h).1
    · exact .inl h
  | cacheDelete key =>
    dsimp only [IdempotencyStatement.perform] at h
    split at h
    · exact .inl (List.mem_filter.mp h).1
    · exact .inl h
  | create identity claimToken expiresAt requestHash claimedAt =>
    dsimp only [IdempotencyStatement.perform] at h
    split at h <;> exact .inl h
  | cacheGet key => exact .inl h
  | findByIdentity identity => exact .inl h
  | findById id => exact .inl h
  | respond identity result => exact .inl h
  | takeOver identity claimToken now claimLeaseMs expiresAt claimedAt => exact .inl h
  | complete reservation result completedAt => exact .inl h
  | deleteClaim reservation => exact .inl h
  | purgeExpired now => exact .inl h

/-- A row that was found was the one of its identity then. -/
theorem row_of_found (hrun : Run Undisturbed P trace Q) (hP : P.threads = [])
    (hmem : (⟨.statement (.ledger (.findByIdentity identity)), .ok (some row)⟩ : InboundCall) ∈
      calls i trace) :
    ∃ earlier later f S, trace = earlier ++ .served i (.statement (.ledger (.findByIdentity
      identity))) (.ok (some row)) f :: later ∧ Run Undisturbed P earlier S ∧
        i < (entries earlier).length ∧ S.store.db.keys.get? identity = some row := by
  obtain ⟨f, hserved⟩ := mem_calls.mp hmem
  obtain ⟨earlier, later, rfl⟩ := List.append_of_mem hserved
  obtain ⟨S, _, hbefore, _, hstep, _⟩ := run_of_append hrun
  refine ⟨earlier, later, f, S, rfl, hbefore, ?_, ?_⟩
  · obtain ⟨e, hentry, _⟩ := because_of_entry accounted_entry hbefore hP hstep
    exact (List.getElem?_eq_some_iff.mp hentry).1
  · obtain ⟨choice, db, hexecute, _⟩ := serves_statement.mp hstep.answered
    rcases performed_of_execute hexecute with ⟨c, hvalue, _⟩ | ⟨hvalue, _⟩
    · exact (Option.some.inj hvalue).symm
    · cases hvalue

theorem handled_of_found (hrun : Run Undisturbed P trace Q) (hP : P.threads = [])
    (hempty : P.store.db.keys = Table.empty)
    (hmem : (⟨.statement (.ledger (.findByIdentity identity)), .ok (some row)⟩ : InboundCall) ∈
      calls i trace) (hcompleted : row.status = .completed) :
    HandledFor (fun request => request.identity config = identity) trace := by
  obtain ⟨earlier, later, f, S, rfl, hbefore, _, hrow⟩ := row_of_found hrun hP hmem
  exact (handled_of_completed hbefore hP hempty hrow hcompleted).append

/-- A value in the cache is that of a call that has been handled. -/
theorem handled_of_cached (hrun : Run Undisturbed P trace Q) (hP : P.threads = [])
    (hempty : P.store.db = ⟨Table.empty, []⟩) {entry : CacheEntry}
    (hentry : entry ∈ Q.store.db.cache) :
    HandledFor (fun request => config.buildKey (request.identity config) = entry.key) trace := by
  induction hrun with
  | nil =>
    rw [hempty] at hentry
    cases hentry
  | @snoc trace Q R l hrun hok hstep ih =>
    rcases ledger_of_step hstep with hsame | ⟨i, q, reply, f, c, rfl, _, hdb⟩
    · rw [hsame] at hentry
      exact (ih hentry).append
    · rw [hdb] at hentry
      rcases cached_of_perform hentry with hentry | ⟨ttlMs, rfl⟩
      · exact (ih hentry).append
      · obtain ⟨e, he, hbecause⟩ := because_of_entry accounted_entry hrun hP hstep
        obtain ⟨request, rfl, hverified, hkey, hfound | hhandled⟩ :=
          received_of_because hbecause fun _ h => by cases h
        · obtain ⟨row, hcompleted, hmem⟩ := hfound
          have hkeys : P.store.db.keys = Table.empty := by rw [hempty]
          refine ((handled_of_found hrun hP hkeys hmem hcompleted).mono ?_).append
          rintro other hidentity
          rw [hidentity, hkey]
        · exact HandledFor.append ⟨i, request, he, hverified, hkey.symm, hhandled⟩

theorem handled_of_hit (hrun : Run Undisturbed P trace Q) (hP : P.threads = [])
    (hempty : P.store.db = ⟨Table.empty, []⟩) {key : String} {value : ResultJson}
    (hmem : (⟨.statement (.ledger (.cacheGet key)), .ok (some value)⟩ : InboundCall) ∈
      calls i trace) :
    HandledFor (fun request => config.buildKey (request.identity config) = key) trace := by
  obtain ⟨f, hserved⟩ := mem_calls.mp hmem
  obtain ⟨earlier, later, rfl⟩ := List.append_of_mem hserved
  obtain ⟨S, _, hbefore, _, hstep, _⟩ := run_of_append hrun
  obtain ⟨choice, db, hexecute, _⟩ := serves_statement.mp hstep.answered
  rcases performed_of_execute hexecute with ⟨c, hvalue, _⟩ | ⟨hvalue, _⟩
  · have hcached : S.store.db.cached c.redis key = some value := (Option.some.inj hvalue).symm
    obtain ⟨now, _, hbound⟩ := Option.bind_eq_some_iff.mp hcached
    obtain ⟨entry, hfind, _⟩ := Option.bind_eq_some_iff.mp hbound
    have hkey := List.find?_some hfind
    simp only [Bool.and_eq_true, decide_eq_true_eq] at hkey
    refine ((handled_of_cached hbefore hP hempty (List.mem_of_find?_eq_some hfind)).mono ?_).append
    rintro other hother
    exact hother.trans hkey.1
  · cases hvalue

end Found

section Histories

variable {ok : Pool (inboundSystem config) → Label (inboundSystem config) → Prop}
variable {P Q R : Pool (inboundSystem config)} {l : Label (inboundSystem config)}
variable {trace : List (Label (inboundSystem config))} {i j : Nat} {request : InboundRequest}

/-- The call has returned normally. -/
def AcknowledgedIn (history : List InboundCall) : Prop :=
  (⟨.statement .acknowledge, ()⟩ : InboundCall) ∈ history

/-- What the handler has been called for is what the call is for. -/
theorem handledIn_of_mem (hrun : Run ok P trace Q) (hP : P.threads = [])
    (hentry : (entries trace)[i]? = some (.received request)) {source rawBody : String}
    (hmem : (⟨.statement (.handle source rawBody), .ok ()⟩ : InboundCall) ∈ calls i trace) :
    HandledIn request (calls i trace) := by
  obtain ⟨f, hserved⟩ := mem_calls.mp hmem
  obtain ⟨e, he, earlier, _, hbecause⟩ := because_of_call accounted_entry hrun hP hserved
  cases he.symm.trans hentry
  obtain ⟨_, rfl, rfl, _⟩ := hbecause
  exact hmem

/-- A call that has claimed returns normally only after its handler. -/
theorem handledIn_of_acknowledged (hrun : Run ok P trace Q) (hP : P.threads = [])
    (hentry : (entries trace)[i]? = some (.received request))
    (hacknowledged : AcknowledgedIn (calls i trace)) :
    HandledIn request (calls i trace) ∨ ∀ call ∈ calls i trace, claimOf call = none := by
  have hkept : AcknowledgedIn (calls i trace) →
      (∃ source rawBody, (⟨.statement (.handle source rawBody), .ok ()⟩ : InboundCall) ∈
        calls i trace) ∨ ∀ call ∈ calls i trace, claimOf call = none := by
    refine @calls_of_run (inboundSystem config) (BecauseOf config) _ _ _ _
      (fun history => AcknowledgedIn history → (∃ source rawBody,
        (⟨.statement (.handle source rawBody), .ok ()⟩ : InboundCall) ∈ history) ∨
          ∀ call ∈ history, claimOf call = none) accounted_entry ?_ ?_ hrun hP i
    · intro hmem
      cases hmem
    · intro e history q a hkept hbecause hafter
      rcases List.mem_append.mp hafter with hmem | hmem
      · rcases hkept hmem with ⟨source, rawBody, hhandled⟩ | hnone
        · exact .inl ⟨source, rawBody, List.mem_append_left _ hhandled⟩
        · refine .inr (List.forall_mem_append.mpr ⟨hnone, List.forall_mem_singleton.mpr ?_⟩)
          -- nothing is claimed any more once a call has returned
          refine Option.eq_none_iff_forall_ne_some.mpr fun row hclaim => ?_
          obtain ⟨_, _, _, _, _, heq⟩ := claimOf_eq_some hclaim
          cases heq
          obtain ⟨_, _, _, _, _, _, hidle, _⟩ :=
            received_of_because hbecause fun _ h => by cases h
          cases (hidle.unworked _ hmem : works ⟨.statement .acknowledge, ()⟩ = false)
      · cases List.mem_singleton.mp hmem
        obtain ⟨other, _, _, hhandled | ⟨_, hnone⟩⟩ :=
          received_of_because hbecause fun _ h => by cases h
        · exact .inl ⟨_, _, List.mem_append_left _ hhandled⟩
        · exact .inr (List.forall_mem_append.mpr ⟨hnone, List.forall_mem_singleton.mpr rfl⟩)
  rcases hkept hacknowledged with ⟨source, rawBody, hmem⟩ | hnone
  · exact .inl (handledIn_of_mem hrun hP hentry hmem)
  · exact .inr hnone

/-- A settlement comes after a call of the handler. -/
theorem worked_of_settled (hrun : Run ok P trace Q) (hP : P.threads = [])
    (hsettled : SettledIn (calls i trace)) : ∃ call ∈ calls i trace, works call = true := by
  have hcompleted : ∀ {reservation result completedAt reply},
      (⟨.statement (.ledger (.complete reservation result completedAt)), reply⟩ : InboundCall) ∈
        calls i trace → ∃ call ∈ calls i trace, works call = true := by
    intro reservation result completedAt reply hmem
    obtain ⟨f, hserved⟩ := mem_calls.mp hmem
    obtain ⟨e, _, earlier, hearlier, hbecause⟩ :=
      because_of_call accounted_entry hrun hP hserved
    obtain ⟨_, _, _, _, hhandled⟩ := received_of_because hbecause fun _ h => by cases h
    exact ⟨_, hearlier _ hhandled, rfl⟩
  obtain ⟨call, hmem, hsettles⟩ := hsettled
  rcases settles_eq_true hsettles with ⟨_, _, _, reply, rfl, _⟩ | ⟨reservation, reply, rfl, _⟩
  · exact hcompleted hmem
  · obtain ⟨f, hserved⟩ := mem_calls.mp hmem
    obtain ⟨e, _, earlier, hearlier, hbecause⟩ :=
      because_of_call accounted_entry hrun hP hserved
    obtain ⟨_, _, _, _, ⟨_, hfailed⟩ | ⟨_, _, _, _, hmem'⟩⟩ :=
      received_of_because hbecause fun _ h => by cases h
    · exact ⟨_, hearlier _ hfailed, rfl⟩
    · exact hcompleted (hearlier _ hmem')

end Histories

section Handling

/-- Calls with one key in the cache are for one body. -/
def Keyed (trace : List (Label (inboundSystem config))) : Prop :=
  ∀ one another, InboundEntry.received one ∈ entries trace →
    InboundEntry.received another ∈ entries trace →
    Verified config one → Verified config another →
      config.buildKey (one.identity config) = config.buildKey (another.identity config) →
        one.source = another.source ∧ one.rawBody = another.rawBody

/-- A provider starts a call again when it has ended without returning normally. -/
def Retried (trace : List (Label (inboundSystem config))) : Prop :=
  ∀ i request, (entries trace)[i]? = some (.received request) → Verified config request →
    Ended i trace → ¬ AcknowledgedIn (calls i trace) →
      ∃ earlier later, trace = earlier ++ .start (.received request) :: later ∧ Ended i earlier

/-- No verified call is in progress. -/
def Quiet (trace : List (Label (inboundSystem config))) : Prop :=
  ∀ i request, (entries trace)[i]? = some (.received request) → Verified config request →
    Ended i trace

/-- No call is stopped with a claim it has not settled. -/
def Uncrashed (trace : List (Label (inboundSystem config))) : Prop :=
  Uninterrupted (fun _ _ => true) (fun _ => Concluded) trace

/-- What is acknowledged has been handled once no call is in progress, and what has one key is handled
again only after its window. -/
structure HandlesAll (trace : List (Label (inboundSystem config))) : Prop where
  handled : Quiet trace → ∀ i request, (entries trace)[i]? = some (.received request) →
    Verified config request → AcknowledgedIn (calls i trace) →
      ∃ j, (⟨.statement (.handle request.source request.rawBody), .ok ()⟩ : InboundCall) ∈
        calls j trace
  once : ∀ (earlier later : List (Label (inboundSystem config))) i one j another f,
    trace = earlier ++
      .served j (.statement (.handle another.source another.rawBody)) (.ok ()) f :: later →
    (entries earlier)[i]? = some (.received one) →
      (entries earlier)[j]? = some (.received another) → one.source = another.source →
        one.key config = another.key config → HandledIn one (calls i earlier) →
          ∃ reading, (calls i earlier).head? = some ⟨.clock, reading⟩ ∧
            Passed (reading + config.ttlMs) earlier

variable {P Q R : Pool (inboundSystem config)} {l : Label (inboundSystem config)}
variable {trace : List (Label (inboundSystem config))} {i j : Nat}

theorem lt_of_ended {ok : Pool (inboundSystem config) → Label (inboundSystem config) → Prop}
    (hrun : Run ok P trace Q) (hP : P.threads = []) (hended : Ended i trace) :
    i < (entries trace).length := by
  obtain ⟨p, hp, _⟩ := front_of_ended hrun hended
  have hlength := (AllAccounted.run accounted_entry hrun hP).length
  rw [hlength]
  exact (List.getElem?_eq_some_iff.mp hp).1

/-- A call that still holds its claim has not ended. -/
theorem not_ended_of_holder (hrun : Run Undisturbed P trace Q) (hP : P.threads = [])
    (hstops : Uncrashed trace) {identity : IdempotencyIdentity} {row : IdempotencyRow}
    (hclaimed : Claimed i identity row trace) (hunsettled : ¬ SettledIn (calls i trace)) :
    ¬ Ended i trace := by
  intro hended
  obtain ⟨request, hentry, _⟩ := claimBy_of_claimed hrun hP hclaimed
  rcases final_of_ended (fun e => concludes_of_caught (accounted_caught e)) hrun hP hstops hentry
    hended with hnone | hsettled | ⟨reservation, message, hrefused⟩
  · obtain ⟨call, hmem, hclaiming⟩ := hclaimed
    cases (hnone call hmem).symm.trans hclaiming.claimOf
  · exact hunsettled hsettled
  · obtain ⟨f, hserved⟩ := mem_calls.mp hrefused
    obtain ⟨earlier, later, rfl⟩ := List.append_of_mem hserved
    obtain ⟨R, S, _, hok, _, _⟩ := run_of_append hrun
    exact hok

/-- Every verified call is handled in the end, by itself or by a call for the same body. -/
theorem handled_of_received (hrun : Run Undisturbed P trace Q) (hP : P.threads = [])
    (hempty : P.store.db = ⟨Table.empty, []⟩) (hstops : Uncrashed trace) (hkeyed : Keyed trace)
    (hretried : Retried trace) (hquiet : Quiet trace) {request : InboundRequest}
    (hentry : (entries trace)[i]? = some (.received request)) (hverified : Verified config request) :
    ∃ j, (⟨.statement (.handle request.source request.rawBody), .ok ()⟩ : InboundCall) ∈
      calls j trace := by
  have hkeys : P.store.db.keys = Table.empty := by rw [hempty]
  -- the number of calls that may still be started after this one
  induction hn : (entries trace).length - i using Nat.strong_induction_on generalizing i request with
  | _ n ih =>
    -- a call that is started again after this one is handled
    have hagain : ∀ {j : Nat} {other}, (entries trace)[j]? = some (.received other) →
        Verified config other → ¬ AcknowledgedIn (calls j trace) →
          (∀ earlier S, Run Undisturbed P earlier S → earlier <+: trace → Ended j earlier →
            i < (entries earlier).length) →
              ∃ j, (⟨.statement (.handle other.source other.rawBody), .ok ()⟩ : InboundCall) ∈
                calls j trace := by
      intro j other hother hverified hopen hlate
      obtain ⟨earlier, later, heq, hended⟩ :=
        hretried j other hother hverified (hquiet j other hother hverified) hopen
      obtain ⟨S, _, hbefore, _⟩ := run_of_append (heq ▸ hrun)
      have hlt := hlate earlier S hbefore ⟨_, heq.symm⟩ hended
      have hnew : (entries trace)[(entries earlier).length]? = some (.received other) := by
        rw [heq, entries_append, List.getElem?_append_right (Nat.le_refl _), Nat.sub_self]
        rfl
      have hlength := (List.getElem?_eq_some_iff.mp hnew).1
      exact ih _ (by omega) hnew hverified rfl
    have hlike : ∀ {j : Nat} {other}, (entries trace)[j]? = some (.received other) →
        Verified config other → config.buildKey (other.identity config) =
          config.buildKey (request.identity config) →
            other.source = request.source ∧ other.rawBody = request.rawBody := by
      intro j other hother hverified' hkey
      exact hkeyed other request (List.mem_of_getElem? hother) (List.mem_of_getElem? hentry)
        hverified' hverified hkey
    have hfound : HandledFor (fun other => config.buildKey (other.identity config) =
        config.buildKey (request.identity config)) trace →
          ∃ j, (⟨.statement (.handle request.source request.rawBody), .ok ()⟩ : InboundCall) ∈
            calls j trace := by
      rintro ⟨j, other, hother, hverified', hkey, hhandled⟩
      obtain ⟨hsource, hbody⟩ := hlike hother hverified' hkey
      exact ⟨j, by rw [← hsource, ← hbody]; exact hhandled⟩
    by_cases hacknowledged : AcknowledgedIn (calls i trace)
    · obtain ⟨f, hserved⟩ := mem_calls.mp hacknowledged
      obtain ⟨e, he, before, hbefore, hbecause⟩ :=
        because_of_call accounted_entry hrun hP hserved
      cases he.symm.trans hentry
      rcases hbecause.2 with hhandled | ⟨⟨value, hhit⟩ | ⟨row, hrow⟩, _⟩
      · exact ⟨i, hbefore _ hhandled⟩
      · exact hfound (handled_of_hit hrun hP hempty (hbefore _ hhit))
      · cases hstatus : row.status with
        | completed =>
          refine hfound ((handled_of_found hrun hP hkeys (hbefore _ hrow) hstatus).mono ?_)
          rintro other hidentity
          rw [hidentity]
        | inProgress =>
          obtain ⟨earlier, later, f, S, heq, hrun', hlt, hget⟩ :=
            row_of_found hrun hP (hbefore _ hrow)
          obtain ⟨j, hclaimed, hunsettled⟩ := holder_of_row hrun' hP hkeys hget hstatus
          have hclaimed' : Claimed j (request.identity config) row trace := heq ▸ hclaimed.append
          obtain ⟨other, hother, hclaim, hidentity⟩ := claimBy_of_claimed hrun hP hclaimed'
          obtain ⟨hsource, hbody⟩ := hlike hother hclaim.verified
            (by rw [← hclaim.identity, hidentity])
          rw [← hsource, ← hbody]
          by_cases hacknowledged' : AcknowledgedIn (calls j trace)
          · rcases handledIn_of_acknowledged hrun hP hother hacknowledged' with hhandled | hnone
            · exact ⟨j, hhandled⟩
            · obtain ⟨call, hmem, hclaiming⟩ := hclaimed'
              cases (hnone call hmem).symm.trans hclaiming.claimOf
          · refine hagain hother hclaim.verified hacknowledged' fun upto S' _ hupto hended => ?_
            -- the holder ends only after this call has found its row
            rcases List.prefix_or_prefix_of_prefix hupto ⟨_, heq.symm⟩ with ⟨more, rfl⟩ | ⟨more, rfl⟩
            · rw [heq] at hstops
              exact absurd hended.append (not_ended_of_holder hrun' hP hstops.left hclaimed hunsettled)
            · rw [entries_append, List.length_append]
              exact Nat.lt_add_right _ hlt
    · refine hagain hentry hverified hacknowledged fun earlier S hbefore _ hended => ?_
      exact lt_of_ended hbefore hP hended

theorem InboundRequest.identity_eq {one another : InboundRequest}
    (hsource : one.source = another.source) (hkey : one.key config = another.key config) :
    one.identity config = another.identity config := by
  unfold InboundRequest.identity
  rw [hsource, hkey]

/-- Who calls the handler, or has called it, has claimed the row. -/
theorem claimed_of_handled (hrun : Run Undisturbed P trace Q) (hP : P.threads = [])
    {request : InboundRequest} (hentry : (entries trace)[i]? = some (.received request))
    (hhandled : HandledIn request (calls i trace)) :
    ∃ row, Claimed i (request.identity config) row trace := by
  obtain ⟨f, hserved⟩ := mem_calls.mp hhandled
  obtain ⟨e, he, before, hbefore, hbecause⟩ := because_of_call accounted_entry hrun hP hserved
  cases he.symm.trans hentry
  obtain ⟨_, _, _, ⟨reservation, howns⟩, _⟩ := hbecause
  obtain ⟨row, hclaimed, _⟩ := claimed_of_owns hrun (howns.of_subset hbefore)
  exact ⟨row, hclaimed⟩

/-- A thread calls the handler once. -/
theorem not_failed_of_handled (hrun : Run Undisturbed P trace Q) (hP : P.threads = [])
    {request : InboundRequest} (hhandled : HandledIn request (calls i trace)) :
    ¬ FailedIn (calls i trace) := by
  rintro ⟨source, rawBody, e, hfailed⟩
  have hsame := @only_of_run (inboundSystem config) (BecauseOf config) _ _ _ _
    (fun call => ∃ source rawBody outcome, call = ⟨.statement (.handle source rawBody), outcome⟩)
    accounted_entry ?_ hrun hP _ _ _ hhandled hfailed ⟨_, _, _, rfl⟩ ⟨_, _, _, rfl⟩
  · cases hsame
  · rintro e history q a hbecause ⟨source, rawBody, outcome, heq⟩ call hmem
      ⟨source', rawBody', outcome', rfl⟩
    cases heq
    obtain ⟨_, _, _, _, _, _, hworks⟩ := received_of_because hbecause fun _ h => by cases h
    cases (hworks _ hmem : works ⟨.statement (.handle source' rawBody'), outcome'⟩ = false)

theorem handled_once (hrun : Run Undisturbed P trace Q) (hP : P.threads = [])
    {one another : InboundRequest} {f : Front InboundStatement.interface.world}
    (hstep : Step (inboundSystem config) Q (.served j
      (.statement (.handle another.source another.rawBody)) (.ok ()) f) R)
    (hone : (entries trace)[i]? = some (.received one))
    (hanother : (entries trace)[j]? = some (.received another))
    (hidentity : one.identity config = another.identity config)
    (hhandled : HandledIn one (calls i trace)) :
    ∃ reading, (calls i trace).head? = some ⟨.clock, reading⟩ ∧
      Passed (reading + config.ttlMs) trace := by
  obtain ⟨e, he, hbecause⟩ := because_of_entry accounted_entry hrun hP hstep
  cases he.symm.trans hanother
  obtain ⟨_, _, _, ⟨reservation, howns⟩, hunworked⟩ := hbecause
  obtain ⟨row', hclaimed', _⟩ := claimed_of_owns hrun howns
  have hunsettled : ¬ SettledIn (calls j trace) := by
    intro hsettled
    obtain ⟨call, hmem, hworks⟩ := worked_of_settled hrun hP hsettled
    rw [hunworked call hmem] at hworks
    cases hworks
  have hrow' := row_of_claimed hrun hP hclaimed' hunsettled
  obtain ⟨row, hclaimed⟩ := claimed_of_handled hrun hP hone hhandled
  rw [hidentity] at hclaimed
  obtain ⟨_, hentry, hclaim, _⟩ := claimBy_of_claimed hrun hP hclaimed
  obtain ⟨_, _, hclaim', _⟩ := claimBy_of_claimed hrun hP hclaimed'
  by_cases hsettled : SettledIn (calls i trace)
  · rcases rests_of_settled hrun hP hclaimed hsettled with hfailed | ⟨row'', hrow'', hcompleted, _⟩ |
      hpassed
    · exact absurd hfailed (not_failed_of_handled hrun hP hhandled)
    · cases hrow'.symm.trans hrow''
      cases hclaim'.status.symm.trans hcompleted
    · obtain ⟨reading, hhead, heq⟩ := hclaim.window
      exact ⟨reading, hhead, heq ▸ hpassed⟩
  · -- both hold the one row, and are the same thread
    have hrow := row_of_claimed hrun hP hclaimed hsettled
    cases hrow.symm.trans hrow'
    obtain rfl := claimed_by hrun hP hclaimed hclaimed' rfl
    cases (hunworked _ hhandled : works ⟨.statement (.handle _ _), _⟩ = false)

/-- Where no call crashes with its claim, no claim outlives its lease and a key stands for one body, what
is acknowledged is handled, and once within the window. -/
theorem handlesAll_of_undisturbed (hrun : Run Undisturbed P trace Q) (hP : P.threads = [])
    (hempty : P.store.db = ⟨Table.empty, []⟩) (hstops : Uncrashed trace) (hkeyed : Keyed trace)
    (hretried : Retried trace) : HandlesAll trace where
  handled := fun hquiet _ _ hentry hverified _ =>
    handled_of_received hrun hP hempty hstops hkeyed hretried hquiet hentry hverified
  once := by
    rintro earlier later i one j another f rfl hone hanother hsource hkey hhandled
    obtain ⟨R, S, hbefore, _, hstep, _⟩ := run_of_append hrun
    exact handled_once hbefore hP hstep hone hanother (InboundRequest.identity_eq hsource hkey)
      hhandled

end Handling

section Demos

def demo : InboundConfig where
  ttlMs := 1000
  claimLeaseMs := 100
  redisPrefix := "p"
  sources := fun _ => some fun _ _ => true
  hashBody := id

def delivery : InboundRequest := ⟨"stripe", "paid", none, some "k"⟩

abbrev DemoPool := Pool (inboundSystem demo)

def quiet : DemoPool := ⟨⟨⟨.empty, []⟩, 0, []⟩, []⟩

/-- A statement of the ledger. -/
def asks (thread now : Nat) (id : String) : Move (inboundSystem demo) :=
  .serve thread (.statement (.ledger ⟨some now, id, false⟩))

/-- A call that comes to its insertion. -/
def arrives (thread now : Nat) (id : String) : List (Move (inboundSystem demo)) :=
  [.start (.received delivery), .serve thread (.clock now), asks thread now id,
    .serve thread (.randomUUID id), .serve thread (.clock now), asks thread now id]

/-- What is left to do for whoever asks for the handler, or for the normal return. -/
def proceeds (thread : Nat) (outcome : Except String Unit) : Move (inboundSystem demo) :=
  .serve thread (.statement (.handled outcome))

def acknowledges : InboundCall → Bool
  | ⟨.statement .acknowledge, _⟩ => true
  | _ => false

theorem acknowledgedIn_of_any {history : List InboundCall} (h : history.any acknowledges = true) :
    AcknowledgedIn history := by
  obtain ⟨call, hmem, hcall⟩ := List.any_eq_true.mp h
  unfold acknowledges at hcall
  split at hcall
  · exact hmem
  · cases hcall

/-- The step is a successful call of the handler. -/
def handling : Label (inboundSystem demo) → Bool
  | .served _ (.statement (.handle _ _)) (.ok _) _ => true
  | _ => false

/-- The calls of a trace that are all for one delivery, and the step at which the first is started
again. -/
def Redelivered (n : Nat) (trace : List (Label (inboundSystem demo))) : Prop :=
  (∀ e ∈ (entries trace : List InboundEntry), e = .received delivery) ∧
    (∀ i < (entries trace).length, ∃ l ∈ trace, l.ends i) ∧
    (((trace)[n]?).bind Label.entry? : Option InboundEntry) = some (.received delivery) ∧
    (∃ l ∈ trace.take n, l.ends 0) ∧
    ∀ i < (entries trace).length, i ≠ 0 → (calls i trace).any acknowledges = true

instance (n : Nat) (trace : List (Label (inboundSystem demo))) : Decidable (Redelivered n trace) := by
  unfold Redelivered
  infer_instance

theorem Redelivered.keyed {n : Nat} {trace : List (Label (inboundSystem demo))}
    (h : Redelivered n trace) : Keyed trace := by
  intro one another hone hanother _ _ _
  cases h.1 _ hone
  cases h.1 _ hanother
  exact ⟨rfl, rfl⟩

theorem Redelivered.quiet {n : Nat} {trace : List (Label (inboundSystem demo))}
    (h : Redelivered n trace) : Quiet trace := by
  intro i request hentry _
  exact h.2.1 i (List.getElem?_eq_some_iff.mp hentry).1

theorem Redelivered.retried {n : Nat} {trace : List (Label (inboundSystem demo))}
    (h : Redelivered n trace) : Retried trace := by
  intro i request hentry _ _ hopen
  obtain ⟨hentries, _, hstart, hended, hacknowledged⟩ := h
  cases hentries _ (List.mem_of_getElem? hentry)
  by_cases hi : i = 0
  · subst hi
    obtain ⟨l, hl, hentry⟩ := Option.bind_eq_some_iff.mp hstart
    obtain ⟨hlt, hget⟩ := List.getElem?_eq_some_iff.mp hl
    cases l with
    | served i q a f => cases hentry
    | raised i q => cases hentry
    | start e =>
      cases hentry
      refine ⟨trace.take n, trace.drop (n + 1), ?_, hended⟩
      rw [← hget, List.cons_getElem_drop_succ, List.take_append_drop]
  · refine absurd (acknowledgedIn_of_any (hacknowledged i ?_ hi)) hopen
    exact (List.getElem?_eq_some_iff.mp hentry).1

/-- A call that crashes with its claim, and the provider's next one, which finds it busy. -/
theorem acknowledged_unhandled : ∃ (Q : DemoPool) (trace : List (Label (inboundSystem demo))),
    Run (fun _ _ => True) quiet trace Q ∧ Keyed trace ∧ Retried trace ∧ Quiet trace ∧
      ¬ HandlesAll trace := by
  have hplay : ((quiet.record (fun _ _ => True) (arrives 0 0 "a" ++ [Move.raise 0] ++
      arrives 1 10 "b" ++ [asks 1 10 "b", .serve 1 (.clock 10), asks 1 10 "b",
        proceeds 1 (.ok ())])).map fun r => decide (Redelivered 7 r.1 ∧ 1 < (entries r.1).length ∧
          ∀ l ∈ r.1, handling l = false)) = some true := by
    decide +kernel
  obtain ⟨Q, trace, hrun, hdelivered, hone, hnone⟩ :
      ∃ (Q : DemoPool) (trace : List (Label (inboundSystem demo))),
        Run (fun _ _ => True) quiet trace Q ∧ Redelivered 7 trace ∧ 1 < (entries trace).length ∧
          ∀ l ∈ trace, handling l = false :=
    Pool.record_reach hplay
  refine ⟨Q, trace, hrun, hdelivered.keyed, hdelivered.retried, hdelivered.quiet, fun h => ?_⟩
  have hentry : (entries trace)[1]? = some (InboundEntry.received delivery) := by
    rw [List.getElem?_eq_getElem hone]
    exact congrArg some (hdelivered.1 _ (List.getElem_mem hone))
  obtain ⟨j, hmem⟩ := h.handled hdelivered.quiet 1 delivery hentry ⟨_, rfl, rfl⟩
    (acknowledgedIn_of_any (hdelivered.2.2.2.2 1 hone (by decide)))
  obtain ⟨f, hserved⟩ := mem_calls.mp hmem
  cases hnone _ hserved

/-- The step serves a statement that does not throw, and that asks for no lease and no expiry. -/
def smooth : Label (inboundSystem demo) → Bool
  | .served _ (.statement (.ledger (.takeOver _ _ _ _ _ _))) _ _ => false
  | .served _ (.statement (.ledger (.purgeExpired _))) _ _ => false
  | .served _ (.statement (.ledger _)) (.ok _) _ => true
  | .served _ (.statement (.ledger _)) _ _ => false
  | .raised _ _ => false
  | _ => true

theorem undisturbed_of_smooth {Q : DemoPool} {l : Label (inboundSystem demo)}
    (h : smooth l = true) : Undisturbed Q l := by
  unfold Undisturbed
  split
  · cases h
  · cases h
  · cases h
  · cases h
  · cases h
  · trivial

/-- A call whose handler fails, the provider's next one, and one more for the same key. -/
theorem handlesAll_demo : ∃ (Q : DemoPool) (trace : List (Label (inboundSystem demo))),
    Run Undisturbed quiet trace Q ∧ trace.countP handling = 1 ∧ Retried trace ∧ Quiet trace ∧
      HandlesAll trace := by
  have hplay : ((quiet.record (fun _ l => smooth l = true) (arrives 0 0 "a" ++
      [proceeds 0 (.error "down"), asks 0 0 "a", asks 0 0 "a"] ++ arrives 1 10 "b" ++
        [proceeds 1 (.ok ()), .serve 1 (.clock 11), asks 1 11 "b", asks 1 11 "b",
          .serve 1 (.clock 12), asks 1 12 "b", proceeds 1 (.ok ()), .start (.received delivery),
          .serve 2 (.clock 20), asks 2 20 "c", proceeds 2 (.ok ())])).map fun r =>
            decide (Redelivered 9 r.1 ∧ r.1.countP handling = 1)) = some true := by
    decide +kernel
  obtain ⟨Q, trace, hrun, hdelivered, hone⟩ :
      ∃ (Q : DemoPool) (trace : List (Label (inboundSystem demo))),
        Run (fun _ l => smooth l = true) quiet trace Q ∧ Redelivered 9 trace ∧
          trace.countP handling = 1 :=
    Pool.record_reach hplay
  have hsmooth : Run Undisturbed quiet trace Q := hrun.mono fun _ _ => undisturbed_of_smooth
  have hstops : Uncrashed trace := by
    rintro earlier i q e later rfl _ _
    have hraised := hrun.forall_mem (fun _ _ h => h) _
      (List.mem_append_right _ (List.mem_cons_self ..))
    cases hraised
  exact ⟨Q, trace, hsmooth, hone, hdelivered.retried, hdelivered.quiet,
    handlesAll_of_undisturbed hsmooth rfl rfl hstops hdelivered.keyed hdelivered.retried⟩

end Demos

end DddBoilerplate.InboundWebhook
