/- module: DddBoilerplate/Webhook/InboundClaims
   generality: I
   digest: What the inbound calls make of the rows of the ledger, and whose claim a row is. -/

import DddBoilerplate.Idempotency.Claims
import DddBoilerplate.Webhook.InboundHistories

set_option autoImplicit false
set_option relaxedAutoImplicit false
set_option linter.all false

namespace DddBoilerplate.InboundWebhook

open Concurrency Store Idempotency
open Webhook (Reply)

variable {config : InboundConfig}

section Conditions

/-- The ledger's writes on a claim do not throw, no claim outlives its lease, and none expires before
it is completed. -/
def Undisturbed (Q : Pool (inboundSystem config)) : Label (inboundSystem config) → Prop
  | .served _ (.statement (.ledger (.create _ _ _ _ _))) (.lost (some _) _) _ => False
  | .served _ (.statement (.ledger (.complete _ _ _))) (.refused _) _ => False
  | .served _ (.statement (.ledger (.deleteClaim _))) (.refused _) _ => False
  | .served _ (.statement (.ledger (.takeOver identity _ now claimLeaseMs _ _))) _ _ =>
    ∀ row ∈ Q.store.db.keys.rows, row.lapsed identity now claimLeaseMs = false
  | .served _ (.statement (.ledger (.purgeExpired now))) _ _ =>
    ∀ row ∈ Q.store.db.keys.rows, row.expiresAt < now → row.status = .completed
  | _ => True

end Conditions

section Rows

variable {db db' : IdempotencyDb} {choice : InboundChoice} {identity : IdempotencyIdentity}
variable {row : IdempotencyRow}
variable {ok : Pool (inboundSystem config) → Label (inboundSystem config) → Prop}
variable {P Q R : Pool (inboundSystem config)} {l : Label (inboundSystem config)}
variable {trace : List (Label (inboundSystem config))}

/-- A statement of the ledger was performed, whatever came back of its answer, or it was not. -/
theorem performed_of_execute {q : IdempotencyStatement} {reply : Reply q.Answer}
    (h : (InboundStatement.ledger q).execute choice db = some (reply, db')) :
    (∃ c, reply.value? = some (q.perform c db).1 ∧ db' = (q.perform c db).2) ∨
      reply.value? = none ∧ db' = db := by
  cases choice with
  | ledger choice =>
    cases h
    exact .inl ⟨choice, rfl, rfl⟩
  | refused message =>
    dsimp only [InboundStatement.execute] at h
    split at h
    · cases h
    · cases h
      exact .inr ⟨rfl, rfl⟩
  | lost choice message =>
    dsimp only [InboundStatement.execute] at h
    split at h
    · cases h
    · cases h
      exact .inl ⟨choice, rfl, rfl⟩
  | handled outcome => cases h

theorem performed_of_step {i : Nat} {q : IdempotencyStatement} {reply : Reply q.Answer}
    {f : Front InboundStatement.interface.world}
    (hstep : Step (inboundSystem config) Q (.served i (.statement (.ledger q)) reply f) R)
    (hvalue : reply.value?.isSome = true) :
    ∃ c, reply.value? = some (q.perform c Q.store.db).1 ∧
      R.store.db = (q.perform c Q.store.db).2 := by
  obtain ⟨choice, db, hexecute, hstore⟩ := serves_statement.mp hstep.answered
  rcases performed_of_execute hexecute with ⟨c, hvalue', rfl⟩ | ⟨hvalue', _⟩
  · exact ⟨c, hvalue', by rw [hstore]⟩
  · rw [hvalue'] at hvalue
    cases hvalue

/-- Only a statement of the ledger that is performed changes the ledger. -/
theorem ledger_of_step (hstep : Step (inboundSystem config) Q l R) :
    R.store.db = Q.store.db ∨ ∃ i q reply f c,
      l = .served i (.statement (.ledger q)) reply f ∧
        Reply.value? reply = some (q.perform c Q.store.db).1 ∧
          R.store.db = (q.perform c Q.store.db).2 := by
  rcases db_of_step hstep with hsame | ⟨i, q, reply, f, choice, rfl, hexecute⟩
  · exact .inl hsame
  · cases q with
    | ledger q =>
      rcases performed_of_execute hexecute with ⟨c, hvalue, hdb⟩ | ⟨_, hsame⟩
      · exact .inr ⟨i, q, reply, f, c, rfl, hvalue, hdb⟩
      · exact .inl hsame
    | handle source rawBody =>
      cases choice with
      | handled outcome => exact .inl (congrArg Prod.snd (Option.some.inj hexecute)).symm
      | ledger choice => cases hexecute
      | refused message => cases hexecute
      | lost choice message => cases hexecute
    | acknowledge =>
      cases choice with
      | handled outcome => exact .inl (congrArg Prod.snd (Option.some.inj hexecute)).symm
      | ledger choice => cases hexecute
      | refused message => cases hexecute
      | lost choice message => cases hexecute

theorem row_of_step (hstep : Step (inboundSystem config) Q l R)
    (hrow : Q.store.db.keys.get? identity = some row) :
    R.store.db.keys.get? identity = some row ∨
      ∃ i q reply f, l = .served i (.statement (.ledger q)) reply f ∧
        (Reply.value? reply).isSome = true ∧
          Alters identity row q (R.store.db.keys.get? identity) := by
  rcases ledger_of_step hstep with hsame | ⟨i, q, reply, f, c, rfl, hvalue, hdb⟩
  · exact .inl (hsame ▸ hrow)
  · rcases @alters_of_perform _ c _ _ q hrow with hkept | halters
    · exact .inl (by rw [hdb]; exact hkept)
    · exact .inr ⟨i, q, reply, f, rfl, by rw [hvalue]; rfl, by rw [hdb]; exact halters⟩

/-- The row an insertion adds, and what it is answered. -/
inductive Inserts (identity : IdempotencyIdentity) (row : IdempotencyRow) :
    (q : IdempotencyStatement) → q.Answer → Prop where
  | inserted (claimToken : String) (expiresAt : Nat) (requestHash : Option String)
      (claimedAt : Nat) (id : String)
      (hrow : row = .claimed id identity claimToken expiresAt requestHash claimedAt) :
      Inserts identity row (.create identity claimToken expiresAt requestHash claimedAt) (some row)

theorem inserts_of_perform {q : IdempotencyStatement} {c : IdempotencyChoice}
    (hfree : db.keys.get? identity = none)
    (hrow : (q.perform c db).2.keys.get? identity = some row) :
    Inserts identity row q (q.perform c db).1 := by
  have hsame : db.keys.get? identity = some row → False := by
    intro h
    cases hfree.symm.trans h
  cases q with
  | cacheGet key => exact (hsame hrow).elim
  | findByIdentity identity' => exact (hsame hrow).elim
  | findById id => exact (hsame hrow).elim
  | respond identity' result => exact (hsame hrow).elim
  | cacheSet key value ttlMs =>
    dsimp only [IdempotencyStatement.perform] at hrow
    split at hrow <;> exact (hsame hrow).elim
  | cacheDelete key =>
    dsimp only [IdempotencyStatement.perform] at hrow
    split at hrow <;> exact (hsame hrow).elim
  | takeOver identity' claimToken now claimLeaseMs expiresAt claimedAt =>
    rw [get?_takeOver, hfree] at hrow
    cases hrow
  | complete reservation result completedAt =>
    rw [get?_complete, hfree] at hrow
    cases hrow
  | deleteClaim reservation => exact (hsame (Table.get?_deleteMany.mp hrow).1).elim
  | purgeExpired now => exact (hsame (Table.get?_deleteMany.mp hrow).1).elim
  | create identity' claimToken expiresAt requestHash claimedAt =>
    simp only [IdempotencyStatement.perform] at hrow ⊢
    split at hrow
    · exact (hsame hrow).elim
    · rename_i hfits
      rw [if_neg hfits]
      simp only [Bool.or_eq_true, not_or, Bool.not_eq_true, Option.isSome_eq_false_iff,
        Option.isNone_iff_eq_none] at hfits
      rw [Table.get?_insert hfits.1.2] at hrow
      split at hrow
      · rename_i hidentity
        obtain rfl : identity' = identity := hidentity
        cases hrow
        exact .inserted claimToken expiresAt requestHash claimedAt c.id rfl
      · exact (hsame hrow).elim

/-- An insertion that is answered with a row has put it where there was none. -/
theorem inserted_of_perform {claimToken : String} {expiresAt claimedAt : Nat}
    {requestHash : Option String} {c : IdempotencyChoice}
    (h : ((IdempotencyStatement.create identity claimToken expiresAt requestHash claimedAt).perform c
      db).1 = some row) :
    db.keys.get? identity = none ∧
      ((IdempotencyStatement.create identity claimToken expiresAt requestHash claimedAt).perform c
        db).2.keys.get? identity = some row ∧
      ∃ id, row = .claimed id identity claimToken expiresAt requestHash claimedAt := by
  simp only [IdempotencyStatement.perform] at h ⊢
  split at h
  · cases h
  · rename_i hfits
    rw [if_neg hfits]
    simp only [Bool.or_eq_true, not_or, Bool.not_eq_true, Option.isSome_eq_false_iff,
      Option.isNone_iff_eq_none] at hfits
    cases h
    refine ⟨hfits.1.2, ?_, c.id, rfl⟩
    rw [Table.get?_insert hfits.1.2]
    exact if_pos rfl

end Rows

section Claims

variable {ok : Pool (inboundSystem config) → Label (inboundSystem config) → Prop}
variable {P Q R : Pool (inboundSystem config)} {l : Label (inboundSystem config)}
variable {trace : List (Label (inboundSystem config))} {i j : Nat}
variable {identity identity' : IdempotencyIdentity} {row row' : IdempotencyRow}

/-- A call that claims the row for the identity. -/
def Claiming (identity : IdempotencyIdentity) (row : IdempotencyRow) (call : InboundCall) : Prop :=
  ∃ claimToken expiresAt requestHash claimedAt, call =
    ⟨.statement (.ledger (.create identity claimToken expiresAt requestHash claimedAt)), .ok (some row)⟩

theorem claimOf_eq_some {call : InboundCall} (h : claimOf call = some row) :
    ∃ identity, Claiming identity row call := by
  unfold claimOf at h
  split at h
  · cases h
    exact ⟨_, _, _, _, _, rfl⟩
  · cases h

theorem Claiming.claimOf {call : InboundCall} (h : Claiming identity row call) :
    claimOf call = some row := by
  obtain ⟨claimToken, expiresAt, requestHash, claimedAt, rfl⟩ := h
  rfl

/-- The thread has claimed the row for the identity. -/
def Claimed (i : Nat) (identity : IdempotencyIdentity) (row : IdempotencyRow)
    (trace : List (Label (inboundSystem config))) : Prop :=
  ∃ call ∈ calls i trace, Claiming identity row call

theorem Claimed.append {later : List (Label (inboundSystem config))}
    (h : Claimed i identity row trace) : Claimed i identity row (trace ++ later) := by
  obtain ⟨call, hmem, hclaiming⟩ := h
  refine ⟨call, ?_, hclaiming⟩
  rw [calls_append]
  exact List.mem_append_left _ hmem

/-- A thread has claimed a row before the last step, or claims it there. -/
theorem claimed_snoc (h : Claimed i identity row (trace ++ [l])) :
    Claimed i identity row trace ∨ ∃ call f, l = .served i call.1 call.2 f ∧ Claiming identity row call := by
  obtain ⟨call, hmem, hclaiming⟩ := h
  rw [calls_append] at hmem
  rcases List.mem_append.mp hmem with hmem | hmem
  · exact .inl ⟨call, hmem, hclaiming⟩
  · obtain ⟨f, hf⟩ := mem_calls.mp hmem
    exact .inr ⟨call, f, (List.mem_singleton.mp hf).symm, hclaiming⟩

/-- What is known of a claim and of the call that made it. -/
structure ClaimBy (config : InboundConfig) (request : InboundRequest)
    (history : List InboundCall) (row : IdempotencyRow) : Prop where
  verified : Verified config request
  identity : row.identity = request.identity config
  drawn : (⟨.randomUUID, row.claimToken⟩ : InboundCall) ∈ history
  status : row.status = .inProgress
  version : row.version = 1
  window : ∃ reading, history.head? = some ⟨.clock, reading⟩ ∧
    row.expiresAt = reading + config.ttlMs

theorem head?_append_of_some {α : Type} {xs ys : List α} {x : α} (h : xs.head? = some x) :
    (xs ++ ys).head? = some x := by
  rw [List.head?_append, h]
  rfl

/-- The row a claim was answered with is the one it has put in the ledger, where there was none. -/
theorem row_of_claiming {call : InboundCall} {f : Front InboundStatement.interface.world}
    (hstep : Step (inboundSystem config) Q (.served i call.1 call.2 f) R)
    (hclaiming : Claiming identity row call) :
    Q.store.db.keys.get? identity = none ∧ R.store.db.keys.get? identity = some row ∧
      ∃ id claimToken expiresAt requestHash claimedAt,
        row = .claimed id identity claimToken expiresAt requestHash claimedAt ∧ call.1 =
          .statement (.ledger (.create identity claimToken expiresAt requestHash claimedAt)) := by
  obtain ⟨claimToken, expiresAt, requestHash, claimedAt, rfl⟩ := hclaiming
  obtain ⟨choice, db, hexecute, hstore⟩ := serves_statement.mp hstep.answered
  have hdb : R.store.db = db := by rw [hstore]
  rcases performed_of_execute hexecute with ⟨c, hvalue, rfl⟩ | ⟨hvalue, _⟩
  · obtain ⟨hfree, hrow, id, heq⟩ := inserted_of_perform (Option.some.inj hvalue).symm
    rw [hdb]
    exact ⟨hfree, hrow, id, claimToken, expiresAt, requestHash, claimedAt, heq, rfl⟩
  · cases hvalue

theorem token_of_claim (hrun : Run ok P trace Q) {claimToken : String} {expiresAt claimedAt : Nat}
    {requestHash : Option String}
    (hmem : (⟨.statement (.ledger (.create identity claimToken expiresAt requestHash claimedAt)),
      .ok (some row)⟩ : InboundCall) ∈ calls i trace) : row.claimToken = claimToken := by
  obtain ⟨f, hserved⟩ := mem_calls.mp hmem
  obtain ⟨earlier, later, rfl⟩ := List.append_of_mem hserved
  obtain ⟨R, S, _, _, hstep, _⟩ := run_of_append hrun
  obtain ⟨_, _, id, token, _, _, _, rfl, heq⟩ := @row_of_claiming _ _ _ _ _ row
    ⟨.statement (.ledger (.create identity claimToken expiresAt requestHash claimedAt)),
      .ok (some row)⟩ _ hstep ⟨claimToken, expiresAt, requestHash, claimedAt, rfl⟩
  cases heq
  rfl

theorem claimBy_of_claimed (hrun : Run ok P trace Q) (hP : P.threads = [])
    (h : Claimed i identity row trace) :
    ∃ request, (entries trace)[i]? = some (.received request) ∧
      ClaimBy config request (calls i trace) row ∧ row.identity = identity := by
  obtain ⟨⟨q, reply⟩, hmem, hclaiming⟩ := h
  obtain ⟨f, hserved⟩ := mem_calls.mp hmem
  obtain ⟨earlier, later, rfl⟩ := List.append_of_mem hserved
  obtain ⟨R, S, hbefore, _, hstep, _⟩ := run_of_append hrun
  obtain ⟨e, hentry, hbecause⟩ := because_of_entry accounted_entry hbefore hP hstep
  obtain ⟨_, _, id, claimToken, expiresAt, requestHash, claimedAt, rfl, rfl⟩ :=
    row_of_claiming hstep hclaiming
  obtain ⟨request, rfl, hverified, hidentity, rfl, hdrawn, _, reading, hhead, rfl⟩ :=
    received_of_because hbecause fun _ h => by cases h
  refine ⟨request, entry_later hentry, ?_, rfl⟩
  rw [calls_append]
  exact ⟨hverified, hidentity, List.mem_append_left _ hdrawn, rfl, rfl, reading,
    head?_append_of_some hhead, rfl⟩

/-- A thread claims once. -/
theorem claimed_once (hrun : Run ok P trace Q) (hP : P.threads = [])
    (h : Claimed i identity row trace) (h' : Claimed i identity' row' trace) : row = row' := by
  obtain ⟨call, hmem, hclaiming⟩ := h
  obtain ⟨call', hmem', hclaiming'⟩ := h'
  have hsame : call = call' := by
    refine @only_of_run _ _ _ _ _ _ (fun call => ∃ row, claimOf call = some row) accounted_entry ?_
      hrun hP _ _ _ hmem hmem' ⟨row, hclaiming.claimOf⟩ ⟨row', hclaiming'.claimOf⟩
    rintro e history q a hbecause ⟨row, hclaim⟩ call hcall ⟨other, hother⟩
    obtain ⟨_, _, _, _, _, heq⟩ := claimOf_eq_some hclaim
    cases heq
    obtain ⟨request, _, _, _, _, _, hidle, _⟩ :=
      received_of_because hbecause fun _ h => by cases h
    cases (hidle.unclaimed call hcall).symm.trans hother
  rw [← hsame] at hclaiming'
  exact Option.some.inj (hclaiming.claimOf.symm.trans hclaiming'.claimOf)

/-- A token is that of one thread. -/
theorem claimed_by (hrun : Run ok P trace Q) (hP : P.threads = [])
    (h : Claimed i identity row trace) (h' : Claimed j identity' row' trace)
    (htoken : row.claimToken = row'.claimToken) : i = j := by
  obtain ⟨_, _, hclaim, _⟩ := claimBy_of_claimed hrun hP h
  obtain ⟨_, _, hclaim', _⟩ := claimBy_of_claimed hrun hP h'
  obtain ⟨_, hdrawn⟩ := mem_calls.mp hclaim.drawn
  obtain ⟨_, hdrawn'⟩ := mem_calls.mp hclaim'.drawn
  rw [htoken] at hdrawn
  exact drawn_once hrun hdrawn hdrawn'

/-- No claim is taken over. -/
theorem untaken (hrun : Run Undisturbed P trace Q) {claimToken : String}
    {now claimLeaseMs expiresAt claimedAt count : Nat}
    (hmem : (⟨.statement (.ledger (.takeOver identity claimToken now claimLeaseMs expiresAt claimedAt)),
      .ok count⟩ : InboundCall) ∈ calls i trace) : count = 0 := by
  obtain ⟨f, hserved⟩ := mem_calls.mp hmem
  obtain ⟨earlier, later, rfl⟩ := List.append_of_mem hserved
  obtain ⟨R, S, _, hok, hstep, _⟩ := run_of_append hrun
  obtain ⟨choice, db, hexecute, _⟩ := serves_statement.mp hstep.answered
  rcases performed_of_execute hexecute with ⟨c, hvalue, _⟩ | ⟨hvalue, _⟩
  · have hcount : count = R.store.db.keys.rows.countP (·.lapsed identity now claimLeaseMs) :=
      Option.some.inj hvalue
    rw [hcount, List.countP_eq_zero]
    intro row hrow
    rw [hok row hrow]
    exact Bool.false_ne_true
  · cases hvalue

/-- The reservation of a call is that of the row it has claimed. -/
theorem claimed_of_owns (hrun : Run Undisturbed P trace Q)
    {reservation : IdempotencyReservation} (h : Owns identity (calls i trace) reservation) :
    ∃ row, Claimed i identity row trace ∧
      reservation = ⟨identity, row.id, row.claimToken, row.version⟩ := by
  rcases h with ⟨claimToken, expiresAt, claimedAt, row, hmem, rfl⟩ |
    ⟨_, _, _, _, _, count, hcount, hmem, _⟩
  · have hclaimed : Claimed i identity row trace :=
      ⟨_, hmem, claimToken, expiresAt, none, claimedAt, rfl⟩
    exact ⟨row, hclaimed, by rw [token_of_claim hrun hmem]⟩
  · exact absurd (untaken hrun hmem) hcount

end Claims

section Holders

variable {P Q R : Pool (inboundSystem config)} {l : Label (inboundSystem config)}
variable {trace : List (Label (inboundSystem config))} {i j : Nat}
variable {identity : IdempotencyIdentity} {row : IdempotencyRow}

/-- Who completes a row has handled the call it has claimed the row for. -/
theorem completer_of_step (hrun : Run Undisturbed P trace Q) (hP : P.threads = [])
    {reservation : IdempotencyReservation} {result : ResultJson} {completedAt : Nat}
    {reply : Reply Nat} {f : Front InboundStatement.interface.world}
    (hstep : Step (inboundSystem config) Q (.served i
      (.statement (.ledger (.complete reservation result completedAt))) reply f) R) :
    ∃ request row, (entries trace)[i]? = some (.received request) ∧
      Claimed i (request.identity config) row trace ∧
      reservation = ⟨request.identity config, row.id, row.claimToken, row.version⟩ ∧
      HandledIn request (calls i trace) := by
  obtain ⟨e, hentry, hbecause⟩ := because_of_entry accounted_entry hrun hP hstep
  obtain ⟨request, rfl, _, howns, hhandled⟩ :=
    received_of_because hbecause fun _ h => by cases h
  obtain ⟨row, hclaimed, heq⟩ := claimed_of_owns hrun howns
  exact ⟨request, row, hentry, hclaimed, heq, hhandled⟩

/-- Who gives a row back has given up the call it has claimed the row for. -/
theorem releaser_of_step (hrun : Run Undisturbed P trace Q) (hP : P.threads = [])
    {reservation : IdempotencyReservation} {reply : Reply Nat}
    {f : Front InboundStatement.interface.world}
    (hstep : Step (inboundSystem config) Q (.served i
      (.statement (.ledger (.deleteClaim reservation))) reply f) R) :
    ∃ request row, (entries trace)[i]? = some (.received request) ∧
      Claimed i (request.identity config) row trace ∧
      reservation = ⟨request.identity config, row.id, row.claimToken, row.version⟩ ∧
      GivenUp request (calls i trace) := by
  obtain ⟨e, hentry, hbecause⟩ := because_of_entry accounted_entry hrun hP hstep
  obtain ⟨request, rfl, _, howns, hgiven⟩ :=
    received_of_because hbecause fun _ h => by cases h
  obtain ⟨row, hclaimed, heq⟩ := claimed_of_owns hrun howns
  exact ⟨request, row, hentry, hclaimed, heq, hgiven⟩

theorem ownedBy_self (hstatus : row.status = .inProgress) :
    row.ownedBy ⟨identity, row.id, row.claimToken, row.version⟩ = true := by
  simp [IdempotencyRow.ownedBy, hstatus]

theorem settles_eq_true {call : InboundCall} (h : settles call = true) :
    (∃ reservation result completedAt reply, call =
      ⟨.statement (.ledger (.complete reservation result completedAt)), reply⟩ ∧
        (Reply.value? reply).isSome = true) ∨
    ∃ reservation reply, call = ⟨.statement (.ledger (.deleteClaim reservation)), reply⟩ ∧
      (Reply.value? reply).isSome = true := by
  unfold settles at h
  split at h
  · exact .inl ⟨_, _, _, _, rfl, h⟩
  · exact .inr ⟨_, _, rfl, h⟩
  · cases h

/-- The settlement of a claim completes its row, or deletes it, for the call was given up. -/
theorem settled_of_step (hrun : Run Undisturbed P trace Q) (hP : P.threads = [])
    {q : InboundStatement.interface.world.Request} {reply : InboundStatement.interface.world.Answer q}
    {f : Front InboundStatement.interface.world}
    (hstep : Step (inboundSystem config) Q (.served i q reply f) R)
    (hsettles : settles ⟨q, reply⟩ = true) (hclaimed : Claimed i identity row trace)
    (hrow : Q.store.db.keys.get? identity = some row) :
    (∃ result completedAt, R.store.db.keys.get? identity = some (row.complete result completedAt)) ∨
      R.store.db.keys.get? identity = none ∧
        ∃ request, (entries trace)[i]? = some (.received request) ∧
          GivenUp request (calls i trace) := by
  obtain ⟨_, _, hclaim, _⟩ := claimBy_of_claimed hrun hP hclaimed
  rcases settles_eq_true hsettles with
    ⟨reservation, result, completedAt, reply, heq, hvalue⟩ | ⟨reservation, reply, heq, hvalue⟩
  · cases heq
    obtain ⟨_, row', _, hclaimed', rfl, _⟩ := completer_of_step hrun hP hstep
    obtain rfl := claimed_once hrun hP hclaimed hclaimed'
    obtain ⟨c, _, hdb⟩ := performed_of_step hstep hvalue
    refine .inl ⟨result, completedAt, ?_⟩
    rw [hdb, get?_complete, hrow, Option.map_some, if_pos (ownedBy_self hclaim.status)]
  · cases heq
    obtain ⟨request, row', hentry, hclaimed', rfl, hgiven⟩ := releaser_of_step hrun hP hstep
    obtain rfl := claimed_once hrun hP hclaimed hclaimed'
    obtain ⟨c, _, hdb⟩ := performed_of_step hstep hvalue
    refine .inr ⟨?_, request, hentry, hgiven⟩
    rw [hdb]
    exact get?_deleted hrow (ownedBy_self hclaim.status)

theorem settled_snoc : SettledIn (calls i (trace ++ [l])) ↔ SettledIn (calls i trace) ∨
    ∃ q a f, l = .served i q a f ∧ settles ⟨q, a⟩ = true := by
  rw [calls_append]
  constructor
  · rintro ⟨⟨q, a⟩, hmem, hsettles⟩
    rcases List.mem_append.mp hmem with hmem | hmem
    · exact .inl ⟨_, hmem, hsettles⟩
    · obtain ⟨f, hf⟩ := mem_calls.mp hmem
      exact .inr ⟨q, a, f, (List.mem_singleton.mp hf).symm, hsettles⟩
  · rintro (⟨call, hmem, hsettles⟩ | ⟨q, a, f, rfl, hsettles⟩)
    · exact ⟨call, List.mem_append_left _ hmem, hsettles⟩
    · refine ⟨⟨q, a⟩, List.mem_append_right _ (mem_calls.mpr ⟨f, ?_⟩), hsettles⟩
      exact List.mem_singleton_self _

/-- A row goes on being what it is unless it is completed, deleted by its holder, or has expired. -/
theorem row_of_undisturbed (hok : Undisturbed Q l) (hstep : Step (inboundSystem config) Q l R)
    (hrow : Q.store.db.keys.get? identity = some row) :
    R.store.db.keys.get? identity = some row ∨
      (∃ i reservation result completedAt reply f, l = .served i
        (.statement (.ledger (.complete reservation result completedAt))) reply f ∧
          row.ownedBy reservation = true ∧ (Reply.value? reply).isSome = true ∧
            R.store.db.keys.get? identity = some (row.complete result completedAt)) ∨
      (∃ i reservation reply f, l = .served i (.statement (.ledger (.deleteClaim reservation)))
        reply f ∧ row.ownedBy reservation = true ∧ (Reply.value? reply).isSome = true ∧
          R.store.db.keys.get? identity = none) ∨
      ∃ i now reply f, l = .served i (.statement (.ledger (.purgeExpired now))) reply f ∧
        row.status = .completed ∧ row.expiresAt < now ∧ R.store.db.keys.get? identity = none := by
  rcases row_of_step hstep hrow with hkept | ⟨i, q, reply, f, rfl, hvalue, halters⟩
  · exact .inl hkept
  · right
    generalize R.store.db.keys.get? identity = left at halters
    cases halters with
    | takenOver claimToken now claimLeaseMs expiresAt claimedAt hlapsed =>
      rw [hok row (Table.mem_of_get? hrow)] at hlapsed
      cases hlapsed
    | completed reservation result completedAt howned =>
      exact .inl ⟨i, reservation, result, completedAt, reply, f, rfl, howned, hvalue, rfl⟩
    | deleted reservation howned =>
      exact .inr (.inl ⟨i, reservation, reply, f, rfl, howned, hvalue, rfl⟩)
    | purged now hexpired =>
      exact .inr (.inr ⟨i, now, reply, f, rfl, hok row (Table.mem_of_get? hrow) hexpired, hexpired,
        rfl⟩)

/-- A row appears by a claim. -/
theorem claiming_of_step (hok : Undisturbed Q l) (hstep : Step (inboundSystem config) Q l R)
    (hfree : Q.store.db.keys.get? identity = none)
    (hrow : R.store.db.keys.get? identity = some row) :
    ∃ i call f, l = .served i call.1 call.2 f ∧ Claiming identity row call := by
  rcases ledger_of_step hstep with hsame | ⟨i, q, reply, f, c, rfl, hvalue, hdb⟩
  · rw [hsame, hfree] at hrow
    cases hrow
  · rw [hdb] at hrow
    have hinserts := @inserts_of_perform _ _ _ _ c hfree hrow
    generalize (q.perform c Q.store.db).1 = answer at hinserts hvalue
    cases hinserts with
    | inserted claimToken expiresAt requestHash claimedAt id heq =>
      cases reply with
      | ok value =>
        obtain rfl := Option.some.inj hvalue
        exact ⟨i, ⟨_, _⟩, f, rfl, claimToken, expiresAt, requestHash, claimedAt, rfl⟩
      | refused message => cases hvalue
      | lost value message =>
        obtain rfl := Option.some.inj hvalue
        exact hok.elim

/-- A claim is made by a thread that has done nothing else before. -/
theorem idle_of_claiming (hrun : Run Undisturbed P trace Q) (hP : P.threads = [])
    {call : InboundCall} {f : Front InboundStatement.interface.world}
    (hstep : Step (inboundSystem config) Q (.served i call.1 call.2 f) R)
    (hclaiming : Claiming identity row call) : Idle (calls i trace) := by
  obtain ⟨e, _, hbecause⟩ := because_of_entry accounted_entry hrun hP hstep
  obtain ⟨claimToken, expiresAt, requestHash, claimedAt, rfl⟩ := hclaiming
  obtain ⟨request, rfl, _, _, _, _, hidle, _⟩ :=
    received_of_because hbecause fun _ h => by cases h
  exact hidle

/-- A row in progress is one a thread has claimed and not settled. -/
theorem holder_of_row (hrun : Run Undisturbed P trace Q) (hP : P.threads = [])
    (hempty : P.store.db.keys = Table.empty)
    (hrow : Q.store.db.keys.get? identity = some row) (hstatus : row.status = .inProgress) :
    ∃ i, Claimed i identity row trace ∧ ¬ SettledIn (calls i trace) := by
  induction hrun with
  | nil =>
    rw [hempty] at hrow
    cases hrow
  | @snoc trace Q R l hrun hok hstep ih =>
    cases hbefore : Q.store.db.keys.get? identity with
    | none =>
      obtain ⟨i, call, f, rfl, hclaiming⟩ := claiming_of_step hok hstep hbefore hrow
      refine ⟨i, ⟨call, mem_calls.mpr ⟨f, ?_⟩, hclaiming⟩, ?_⟩
      · exact List.mem_append_right _ (List.mem_singleton_self _)
      rw [settled_snoc]
      rintro (hsettled | ⟨q, a, g, heq, hsettles⟩)
      · exact (idle_of_claiming hrun hP hstep hclaiming).unsettled hsettled
      · obtain ⟨claimToken, expiresAt, requestHash, claimedAt, rfl⟩ := hclaiming
        cases heq
        cases hsettles
    | some old =>
      rcases row_of_undisturbed hok hstep hbefore with hkept |
        ⟨_, _, result, completedAt, _, _, _, _, _, hafter⟩ | ⟨_, _, _, _, _, _, _, hafter⟩ |
        ⟨_, _, _, _, _, _, _, hafter⟩
      · cases hkept.symm.trans hrow
        obtain ⟨i, hclaimed, hunsettled⟩ := ih hbefore
        refine ⟨i, hclaimed.append, ?_⟩
        rw [settled_snoc]
        rintro (hsettled | ⟨q, a, g, rfl, hsettles⟩)
        · exact hunsettled hsettled
        · -- its settlement would not have left the row as it was
          rcases settled_of_step hrun hP hstep hsettles hclaimed hbefore with
            ⟨result, completedAt, hafter⟩ | ⟨hafter, _⟩
          · rw [hafter] at hkept
            rw [← Option.some.inj hkept] at hstatus
            cases hstatus
          · cases hafter.symm.trans hkept
      · rw [hafter] at hrow
        cases hrow
        cases hstatus
      · cases hafter.symm.trans hrow
      · cases hafter.symm.trans hrow

/-- A claim that is not settled is the row of its identity. -/
theorem row_of_claimed (hrun : Run Undisturbed P trace Q) (hP : P.threads = [])
    (hclaimed : Claimed i identity row trace) (hunsettled : ¬ SettledIn (calls i trace)) :
    Q.store.db.keys.get? identity = some row := by
  induction hrun with
  | nil =>
    obtain ⟨call, hmem, _⟩ := hclaimed
    cases hmem
  | @snoc trace Q R l hrun hok hstep ih =>
    rcases claimed_snoc hclaimed with hbefore | ⟨call, f, rfl, hclaiming⟩
    · have hopen : ¬ SettledIn (calls i trace) := fun h => hunsettled (settled_snoc.mpr (.inl h))
      have hrow := ih hbefore hopen
      obtain ⟨_, _, hclaim, _⟩ := claimBy_of_claimed hrun hP hbefore
      have hother : ∀ {j identity' row' reservation}, Claimed j identity' row' trace →
          reservation = ⟨identity', row'.id, row'.claimToken, row'.version⟩ →
            row.ownedBy reservation = true → j = i := by
        rintro j identity' row' _ hclaimed' rfl howned
        exact claimed_by hrun hP hclaimed' hbefore (IdempotencyRow.ownedBy_eq_true howned).1.symm
      rcases row_of_undisturbed hok hstep hrow with hkept |
        ⟨j, _, result, completedAt, reply, f, rfl, howned, hvalue, _⟩ |
        ⟨j, _, reply, f, rfl, howned, hvalue, _⟩ | ⟨j, now, reply, f, rfl, hcompleted, _, _⟩
      · exact hkept
      · obtain ⟨_, _, _, hclaimed', heq, _⟩ := completer_of_step hrun hP hstep
        obtain rfl := hother hclaimed' heq howned
        refine absurd (settled_snoc.mpr (.inr ⟨_, reply, f, rfl, ?_⟩)) hunsettled
        exact hvalue
      · obtain ⟨_, _, _, hclaimed', heq, _⟩ := releaser_of_step hrun hP hstep
        obtain rfl := hother hclaimed' heq howned
        refine absurd (settled_snoc.mpr (.inr ⟨_, reply, f, rfl, ?_⟩)) hunsettled
        exact hvalue
      · cases hclaim.status.symm.trans hcompleted
    · exact (row_of_claiming hstep hclaiming).2.1

end Holders

section Settlements

variable {P Q R : Pool (inboundSystem config)} {l : Label (inboundSystem config)}
variable {trace : List (Label (inboundSystem config))} {i j : Nat}
variable {identity : IdempotencyIdentity} {row : IdempotencyRow}

/-- The handler of the call has thrown. -/
def FailedIn (history : List InboundCall) : Prop :=
  ∃ source rawBody e, (⟨.statement (.handle source rawBody), .error e⟩ : InboundCall) ∈ history

/-- A time past that one has been read. -/
def Passed (time : Nat) (trace : List (Label (inboundSystem config))) : Prop :=
  ∃ i reading, (⟨.clock, reading⟩ : InboundCall) ∈ calls i trace ∧ time < reading

/-- The identity is completed until that time, or it has passed. -/
def Rests (identity : IdempotencyIdentity) (expiresAt : Nat)
    (trace : List (Label (inboundSystem config))) (Q : Pool (inboundSystem config)) : Prop :=
  (∃ row, Q.store.db.keys.get? identity = some row ∧ row.status = .completed ∧
    row.expiresAt = expiresAt) ∨ Passed expiresAt trace

theorem Rests.step {expiresAt : Nat} (h : Rests identity expiresAt trace Q)
    (hrun : Run Undisturbed P trace Q) (hP : P.threads = []) (hok : Undisturbed Q l)
    (hstep : Step (inboundSystem config) Q l R) : Rests identity expiresAt (trace ++ [l]) R := by
  rcases h with ⟨row, hrow, hcompleted, rfl⟩ | ⟨i, reading, hread, hpassed⟩
  · have hlocked : ∀ {reservation}, row.ownedBy reservation ≠ true := by
      intro reservation howned
      cases hcompleted.symm.trans (IdempotencyRow.ownedBy_eq_true howned).2
    rcases row_of_undisturbed hok hstep hrow with hkept | ⟨_, _, _, _, _, _, _, howned, _, _⟩ |
      ⟨_, _, _, _, _, howned, _, _⟩ | ⟨i, now, reply, f, rfl, _, hexpired, _⟩
    · exact .inl ⟨row, hkept, hcompleted, rfl⟩
    · exact absurd howned hlocked
    · exact absurd howned hlocked
    · obtain ⟨e, _, hbecause⟩ := because_of_entry accounted_entry hrun hP hstep
      refine .inr ⟨i, now, mem_calls_append ?_, hexpired⟩
      cases e with
      | received request => exact hbecause.2.elim
      | purgeExpired =>
        rcases hbecause with heq | ⟨_, hmem, heq⟩
        · cases heq
        · cases heq
          exact hmem
  · exact .inr ⟨i, reading, mem_calls_append hread, hpassed⟩

theorem settled_of_complete (hrun : Run Undisturbed P trace Q) {reservation : IdempotencyReservation}
    {result : ResultJson} {completedAt : Nat} {reply : Reply Nat}
    (hmem : (⟨.statement (.ledger (.complete reservation result completedAt)), reply⟩ :
      InboundCall) ∈ calls i trace) : SettledIn (calls i trace) := by
  refine ⟨_, hmem, ?_⟩
  obtain ⟨f, hserved⟩ := mem_calls.mp hmem
  obtain ⟨earlier, later, rfl⟩ := List.append_of_mem hserved
  obtain ⟨R, S, _, hok, _, _⟩ := run_of_append hrun
  cases reply with
  | ok count => rfl
  | lost count message => rfl
  | refused message => exact hok.elim

/-- A claim that is settled rests, unless its handler has thrown. -/
theorem rests_of_settled (hrun : Run Undisturbed P trace Q) (hP : P.threads = [])
    (hclaimed : Claimed i identity row trace) (hsettled : SettledIn (calls i trace)) :
    FailedIn (calls i trace) ∨ Rests identity row.expiresAt trace Q := by
  induction hrun with
  | nil =>
    obtain ⟨call, hmem, _⟩ := hclaimed
    cases hmem
  | @snoc trace Q R l hrun hok hstep ih =>
    have hkept : FailedIn (calls i trace) → FailedIn (calls i (trace ++ [l])) := by
      rintro ⟨source, rawBody, e, hmem⟩
      exact ⟨source, rawBody, e, mem_calls_append hmem⟩
    rcases claimed_snoc hclaimed with hbefore | ⟨call, f, rfl, hclaiming⟩
    · by_cases hsettled' : SettledIn (calls i trace)
      · rcases ih hbefore hsettled' with hfailed | hrests
        · exact .inl (hkept hfailed)
        · exact .inr (hrests.step hrun hP hok hstep)
      · have hrow := row_of_claimed hrun hP hbefore hsettled'
        rcases settled_snoc.mp hsettled with h | ⟨q, a, f, rfl, hsettles⟩
        · exact absurd h hsettled'
        · rcases settled_of_step hrun hP hstep hsettles hbefore hrow with
            ⟨result, completedAt, hafter⟩ | ⟨_, request, _, ⟨e, hmem⟩ | ⟨_, _, _, _, hmem⟩⟩
          · exact .inr (.inl ⟨_, hafter, rfl, rfl⟩)
          · exact .inl (hkept ⟨_, _, e, hmem⟩)
          · exact absurd (settled_of_complete hrun hmem) hsettled'
    · exfalso
      rcases settled_snoc.mp hsettled with h | ⟨q, a, g, heq, hsettles⟩
      · exact (idle_of_claiming hrun hP hstep hclaiming).unsettled h
      · obtain ⟨claimToken, expiresAt, requestHash, claimedAt, rfl⟩ := hclaiming
        cases heq
        cases hsettles

/-- Some call like that has been handled. -/
def HandledFor (like : InboundRequest → Prop) (trace : List (Label (inboundSystem config))) : Prop :=
  ∃ i request, (entries trace)[i]? = some (.received request) ∧ Verified config request ∧
    like request ∧ HandledIn request (calls i trace)

theorem HandledFor.append {like : InboundRequest → Prop}
    {later : List (Label (inboundSystem config))} (h : HandledFor like trace) :
    HandledFor like (trace ++ later) := by
  obtain ⟨i, request, hentry, hverified, hlike, hhandled⟩ := h
  refine ⟨i, request, entry_later hentry, hverified, hlike, ?_⟩
  rw [calls_append]
  exact List.mem_append_left _ hhandled

theorem HandledFor.mono {like like' : InboundRequest → Prop} (h : HandledFor like trace)
    (himp : ∀ request, like request → like' request) : HandledFor like' trace := by
  obtain ⟨i, request, hentry, hverified, hlike, hhandled⟩ := h
  exact ⟨i, request, hentry, hverified, himp request hlike, hhandled⟩

/-- A completed row is that of a call that has been handled. -/
theorem handled_of_completed (hrun : Run Undisturbed P trace Q) (hP : P.threads = [])
    (hempty : P.store.db.keys = Table.empty) (hrow : Q.store.db.keys.get? identity = some row)
    (hcompleted : row.status = .completed) :
    HandledFor (fun request => request.identity config = identity) trace := by
  induction hrun with
  | nil =>
    rw [hempty] at hrow
    cases hrow
  | @snoc trace Q R l hrun hok hstep ih =>
    cases hbefore : Q.store.db.keys.get? identity with
    | none =>
      obtain ⟨i, call, f, rfl, hclaiming⟩ := claiming_of_step hok hstep hbefore hrow
      obtain ⟨_, _, _, _, _, _, _, rfl, _⟩ := row_of_claiming hstep hclaiming
      cases hcompleted
    | some old =>
      rcases row_of_undisturbed hok hstep hbefore with hkept |
        ⟨j, _, result, completedAt, reply, f, rfl, howned, _, _⟩ | ⟨_, _, _, _, _, _, _, hafter⟩ |
        ⟨_, _, _, _, _, _, _, hafter⟩
      · cases hkept.symm.trans hrow
        exact (ih hbefore).append
      · obtain ⟨htoken, hstatus⟩ := IdempotencyRow.ownedBy_eq_true howned
        obtain ⟨request, row', hentry, hclaimed, rfl, hhandled⟩ := completer_of_step hrun hP hstep
        obtain ⟨i, hholder, _⟩ := holder_of_row hrun hP hempty hbefore hstatus
        obtain rfl := claimed_by hrun hP hholder hclaimed htoken
        obtain rfl := claimed_once hrun hP hholder hclaimed
        obtain ⟨request', hentry', hclaim, hidentity⟩ := claimBy_of_claimed hrun hP hholder
        cases hentry.symm.trans hentry'
        refine HandledFor.append ⟨i, request, hentry, hclaim.verified, ?_, hhandled⟩
        exact hclaim.identity.symm.trans hidentity
      · cases hafter.symm.trans hrow
      · cases hafter.symm.trans hrow

end Settlements

end DddBoilerplate.InboundWebhook
