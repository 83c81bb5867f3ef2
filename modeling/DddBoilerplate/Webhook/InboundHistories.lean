/- module: DddBoilerplate/Webhook/InboundHistories
   generality: I
   digest: Why each inbound call asks what it asks, and what it leaves behind when it ends. -/

import DddBoilerplate.Webhook.Inbound

set_option autoImplicit false
set_option relaxedAutoImplicit false
set_option linter.all false

namespace DddBoilerplate.InboundWebhook

open Concurrency Store Idempotency
open Webhook (Reply)

abbrev InboundCall := Call InboundStatement.interface.world

section Calls

/-- The row a call has claimed by its insertion. -/
def claimOf : InboundCall → Option IdempotencyRow
  | ⟨.statement (.ledger (.create _ _ _ _ _)), .ok (some row)⟩ => some row
  | _ => none

/-- A call of the handler, or the normal return. -/
def works : InboundCall → Bool
  | ⟨.statement (.handle _ _), _⟩ => true
  | ⟨.statement .acknowledge, _⟩ => true
  | _ => false

/-- A call that settles a claim. -/
def settles : InboundCall → Bool
  | ⟨.statement (.ledger (.complete _ _ _)), reply⟩ => (Reply.value? reply).isSome
  | ⟨.statement (.ledger (.deleteClaim _)), reply⟩ => (Reply.value? reply).isSome
  | _ => false

def SettledIn (history : List InboundCall) : Prop := ∃ call ∈ history, settles call = true

/-- A call before any claim. -/
def idle (call : InboundCall) : Bool :=
  (claimOf call).isNone && !works call && !settles call

/-- Nothing is claimed yet, and neither has the handler run nor the call returned. -/
def Idle (history : List InboundCall) : Prop := ∀ call ∈ history, idle call = true

/-- The reservation is that of a claim the call has made. -/
def Owns (identity : IdempotencyIdentity) (history : List InboundCall)
    (reservation : IdempotencyReservation) : Prop :=
  (∃ claimToken expiresAt claimedAt row,
    (⟨.statement (.ledger (.create identity claimToken expiresAt none claimedAt)), .ok (some row)⟩ :
      InboundCall) ∈ history ∧
        reservation = ⟨identity, row.id, claimToken, row.version⟩) ∨
    ∃ claimToken now claimLeaseMs expiresAt claimedAt count, count ≠ 0 ∧
      (⟨.statement (.ledger (.takeOver identity claimToken now claimLeaseMs expiresAt claimedAt)),
        .ok count⟩ : InboundCall) ∈ history ∧ reservation.toIdempotencyIdentity = identity

variable (config : InboundConfig)

/-- The handler of the request has returned. -/
def HandledIn (request : InboundRequest) (history : List InboundCall) : Prop :=
  (⟨.statement (.handle request.source request.rawBody), .ok ()⟩ : InboundCall) ∈ history

/-- Why the claim is given back. -/
def GivenUp (request : InboundRequest) (history : List InboundCall) : Prop :=
  (∃ e, (⟨.statement (.handle request.source request.rawBody), .error e⟩ : InboundCall) ∈ history) ∨
    ∃ reservation result completedAt reply,
      (⟨.statement (.ledger (.complete reservation result completedAt)), reply⟩ : InboundCall) ∈
        history

/-- The call has found what another one has left under its key. -/
def FoundIn (request : InboundRequest) (history : List InboundCall) : Prop :=
  (∃ value, (⟨.statement (.ledger (.cacheGet (config.buildKey (request.identity config)))),
    .ok (some value)⟩ : InboundCall) ∈ history) ∨
    ∃ row, (⟨.statement (.ledger (.findByIdentity (request.identity config))), .ok (some row)⟩ :
      InboundCall) ∈ history

/-- Why a call for the request asks what it asks. -/
def Because (request : InboundRequest) (history : List InboundCall) :
    InboundStatement.interface.world.Request → Prop
  | .statement (.ledger (.create identity claimToken expiresAt requestHash _)) =>
    identity = request.identity config ∧ requestHash = none ∧
      (⟨.randomUUID, claimToken⟩ : InboundCall) ∈ history ∧ Idle history ∧
        ∃ reading, history.head? = some ⟨.clock, reading⟩ ∧ expiresAt = reading + config.ttlMs
  | .statement (.ledger (.takeOver identity _ _ _ _ _)) => identity = request.identity config
  | .statement (.ledger (.complete reservation _ _)) =>
    Owns (request.identity config) history reservation ∧ HandledIn request history
  | .statement (.ledger (.deleteClaim reservation)) =>
    Owns (request.identity config) history reservation ∧ GivenUp request history
  | .statement (.ledger (.cacheSet key _ _)) => key = config.buildKey (request.identity config) ∧
    ((∃ row : IdempotencyRow, row.status = .completed ∧
      (⟨.statement (.ledger (.findByIdentity (request.identity config))), .ok (some row)⟩ :
        InboundCall) ∈ history) ∨ HandledIn request history)
  | .statement (.ledger (.purgeExpired _)) => False
  | .statement (.handle source rawBody) => source = request.source ∧ rawBody = request.rawBody ∧
    (∃ reservation, Owns (request.identity config) history reservation) ∧
      ∀ call ∈ history, works call = false
  | .statement .acknowledge => HandledIn request history ∨
    FoundIn config request history ∧ ∀ call ∈ history, claimOf call = none
  | _ => True

/-- The body is one the source has signed. -/
def Verified (request : InboundRequest) : Prop :=
  ∃ verify, config.sources request.source = some verify ∧
    verify request.rawBody request.signature = true

/-- Why any call asks what it asks. -/
def BecauseOf : InboundEntry → List InboundCall → InboundStatement.interface.world.Request → Prop
  | .received request => fun history q => Verified config request ∧ Because config request history q
  | .purgeExpired => fun history q => q = .clock ∨
    ∃ now, (⟨.clock, now⟩ : InboundCall) ∈ history ∧ q = .statement (.ledger (.purgeExpired now))

end Calls

section Accounting

variable {config : InboundConfig} {request : InboundRequest} {history : List InboundCall}

theorem Idle.snoc {call : InboundCall} (h : Idle history) (hcall : idle call = true) :
    Idle (history ++ [call]) := by
  intro call' hmem
  rcases List.mem_append.mp hmem with hmem | hmem
  · exact h call' hmem
  · rw [List.mem_singleton.mp hmem]
    exact hcall

theorem idle_nil : Idle [] := by
  intro call hmem
  cases hmem

theorem Idle.unclaimed (h : Idle history) : ∀ call ∈ history, claimOf call = none := by
  intro call hmem
  have hidle := h call hmem
  simp only [idle, Bool.and_eq_true, Option.isNone_iff_eq_none] at hidle
  exact hidle.1.1

theorem Idle.unworked (h : Idle history) : ∀ call ∈ history, works call = false := by
  intro call hmem
  have hidle := h call hmem
  simp only [idle, Bool.and_eq_true, Bool.not_eq_true'] at hidle
  exact hidle.1.2

theorem Idle.unsettled (h : Idle history) : ¬ SettledIn history := by
  rintro ⟨call, hmem, hsettles⟩
  have hidle := h call hmem
  simp only [idle, Bool.and_eq_true, Bool.not_eq_true', hsettles] at hidle
  exact absurd hidle.2 (by decide)

/-- A statement whose exceptions are thrown goes on only with what it was answered. -/
theorem accounted_thrown {α : Type} {q : IdempotencyStatement}
    {next : q.Answer → IdempotencyProgram α} {post : List InboundCall → Except String α → Prop}
    (hbecause : Because config request history (.statement (.ledger q)))
    (hthrows : ∀ reply, answered q reply = reply.toExcept)
    (herror : ∀ reply e, post (history ++ [⟨.statement (.ledger q), reply⟩]) (.error e))
    (hok : ∀ a, Accounted (Because config request) post
      (history ++ [⟨.statement (.ledger q), .ok a⟩]) (thrown (next a)).caught) :
    Accounted (Because config request) post history (thrown (.ask (.statement q) next)).caught := by
  rw [thrown]
  refine ⟨hbecause, fun reply => ?_⟩
  simp only [hthrows]
  cases reply with
  | ok a => exact hok a
  | refused message => exact herror _ message
  | lost value message => exact herror _ message

/-- An insertion that threw is one that claimed nothing, for the call. -/
theorem accounted_insertion {α : Type} {identity : IdempotencyIdentity} {claimToken : String}
    {expiresAt claimedAt : Nat} {requestHash : Option String}
    {next : Option IdempotencyRow → IdempotencyProgram α}
    {post : List InboundCall → Except String α → Prop}
    (hbecause : Because config request history
      (.statement (.ledger (.create identity claimToken expiresAt requestHash claimedAt))))
    (hsome : ∀ row, Accounted (Because config request) post
      (history ++ [⟨.statement (.ledger (.create identity claimToken expiresAt requestHash claimedAt)),
        .ok (some row)⟩]) (thrown (next (some row))).caught)
    (hnone : ∀ call, idle call = true →
      Accounted (Because config request) post (history ++ [call]) (thrown (next none)).caught) :
    Accounted (Because config request) post history (thrown (.ask
      (.statement (.create identity claimToken expiresAt requestHash claimedAt)) next)).caught := by
  rw [thrown]
  refine ⟨hbecause, fun reply => ?_⟩
  cases reply with
  | ok row =>
    cases (row : Option IdempotencyRow) with
    | some row => exact hsome row
    | none => exact hnone _ rfl
  | refused message => exact hnone _ rfl
  | lost row message => exact hnone _ rfl

/-- What the outcome of the ledger's call rests on. -/
def Answers (config : InboundConfig) (request : InboundRequest) (history : List InboundCall) :
    Except String IdempotencyReserveResult → Prop
  | .ok (.acquired reservation) => Owns (request.identity config) history reservation ∧
    ∀ call ∈ history, works call = false
  | .ok _ => FoundIn config request history ∧ Idle history
  | .error _ => Idle history

theorem accounted_inspect {claimToken : String} {now expiresAt : Nat} {existing : IdempotencyRow}
    (hidle : Idle history)
    (hfound : (⟨.statement (.ledger (.findByIdentity (request.identity config))),
      .ok (some existing)⟩ : InboundCall) ∈ history) :
    Accounted (Because config request) (Answers config request) history
      (thrown (inspect config.toIdempotencyConfig (reserveRequest config request) claimToken now
        expiresAt existing)).caught := by
  have hreason : FoundIn config request history := .inr ⟨existing, hfound⟩
  unfold inspect
  split
  · exact ⟨hreason, hidle⟩
  · split
    · rename_i hstatus
      refine ⟨trivial, fun reading => ?_⟩
      have hread : Idle (history ++ [⟨.clock, reading⟩]) := hidle.snoc rfl
      have hfound' := List.mem_append_left [(⟨.clock, reading⟩ : InboundCall)] hfound
      change Accounted _ _ _ (thrown (ite _ _ _)).caught
      split
      · refine accounted_thrown ⟨rfl, .inl ⟨existing, hstatus, hfound'⟩⟩ (fun _ => rfl)
          (fun _ _ => hread.snoc rfl) fun stored => ?_
        exact ⟨.inr ⟨existing, List.mem_append_left _ hfound'⟩, hread.snoc rfl⟩
      · exact ⟨.inr ⟨existing, hfound'⟩, hread⟩
    · refine ⟨trivial, fun claimedAt => ?_⟩
      have hread : Idle (history ++ [⟨.clock, claimedAt⟩]) := hidle.snoc rfl
      refine accounted_thrown rfl (fun _ => rfl) (fun _ _ => hread.snoc rfl) fun count => ?_
      have hasked : Idle (history ++ [⟨.clock, claimedAt⟩] ++
          [⟨.statement (.ledger (.takeOver (request.identity config) claimToken now
            config.claimLeaseMs expiresAt claimedAt)), .ok count⟩]) := hread.snoc rfl
      change Accounted _ _ _ (thrown (ite (count = 0) _ _ >>= _)).caught
      split
      · exact ⟨.inr ⟨existing, List.mem_append_left _ (List.mem_append_left _ hfound)⟩, hasked⟩
      · rename_i hcount
        refine accounted_thrown trivial (fun _ => rfl) (fun _ _ => hasked.snoc rfl) fun taken => ?_
        have hafter : Idle (_ ++ [⟨.statement (.ledger (.findByIdentity (request.identity config))),
          .ok taken⟩]) := hasked.snoc rfl
        cases (taken : Option IdempotencyRow) with
        | none =>
          refine ⟨.inr ⟨existing, ?_⟩, hafter⟩
          exact List.mem_append_left _ (List.mem_append_left _ (List.mem_append_left _ hfound))
        | some row =>
          refine ⟨.inr ⟨claimToken, now, _, expiresAt, claimedAt, count, hcount, ?_, rfl⟩, ?_⟩
          · exact List.mem_append_left _ (List.mem_append_right _ (List.mem_singleton_self _))
          · exact hafter.unworked

theorem accounted_retried {claimToken : String} {reading : Nat} (hidle : Idle history)
    (hdrawn : (⟨.randomUUID, claimToken⟩ : InboundCall) ∈ history)
    (hread : history.head? = some ⟨.clock, reading⟩) :
    Accounted (Because config request) (Answers config request) history
      (thrown (insertClaim (request.identity config) claimToken (reading + config.ttlMs) none >>=
        retried (reserveRequest config request) claimToken)).caught := by
  refine ⟨trivial, fun claimedAt => ?_⟩
  have hidle' : Idle (history ++ [⟨.clock, claimedAt⟩]) := hidle.snoc rfl
  refine accounted_insertion ⟨rfl, rfl, List.mem_append_left _ hdrawn, hidle', reading, ?_, rfl⟩
    (fun row => ?_) fun call hcall => hidle'.snoc hcall
  · rw [List.head?_append, hread]
    rfl
  · refine ⟨.inl ⟨claimToken, reading + config.ttlMs, claimedAt, row, ?_, rfl⟩, ?_⟩
    · exact List.mem_append_right _ (List.mem_singleton_self _)
    · exact List.forall_mem_append.mpr ⟨hidle'.unworked, List.forall_mem_singleton.mpr rfl⟩

theorem accounted_reserve :
    Accounted (Because config request) (Answers config request) []
      (thrown (reserve config.toIdempotencyConfig (reserveRequest config request))).caught := by
  rw [reserve_eq]
  refine ⟨trivial, fun now => ?_⟩
  have hread : Idle [⟨.clock, now⟩] := idle_nil.snoc rfl
  refine accounted_thrown trivial (fun _ => rfl) (fun _ _ => hread.snoc rfl) fun cached => ?_
  cases (cached : Option ResultJson) with
  | some value =>
    refine ⟨.inl ⟨value, ?_⟩, hread.snoc rfl⟩
    exact List.mem_append_right _ (List.mem_singleton_self _)
  | none =>
    refine ⟨trivial, fun claimToken => ⟨trivial, fun claimedAt => ?_⟩⟩
    have hasked : Idle ([⟨.clock, now⟩] ++
        [⟨.statement (.ledger (.cacheGet (config.buildKey (request.identity config)))), .ok none⟩] ++
        [⟨.randomUUID, claimToken⟩] ++ [⟨.clock, claimedAt⟩]) :=
      ((hread.snoc rfl).snoc rfl).snoc rfl
    have hdrawn : (⟨.randomUUID, claimToken⟩ : InboundCall) ∈ [⟨.clock, now⟩] ++
        [⟨.statement (.ledger (.cacheGet (config.buildKey (request.identity config)))), .ok none⟩] ++
        [⟨.randomUUID, claimToken⟩] ++ [⟨.clock, claimedAt⟩] :=
      List.mem_append_left _ (List.mem_append_right _ (List.mem_singleton_self _))
    refine accounted_insertion ⟨rfl, rfl, hdrawn, hasked, now, rfl, rfl⟩ (fun row => ?_) ?_
    · refine ⟨.inl ⟨claimToken, now + config.ttlMs, claimedAt, row, ?_, rfl⟩, ?_⟩
      · exact List.mem_append_right _ (List.mem_singleton_self _)
      · exact List.forall_mem_append.mpr ⟨hasked.unworked, List.forall_mem_singleton.mpr rfl⟩
    · intro call hcall
      refine accounted_thrown trivial (fun _ => rfl) (fun _ _ => (hasked.snoc hcall).snoc rfl) ?_
      intro existing
      have hfound : Idle (_ ++ [call] ++ [⟨.statement (.ledger (.findByIdentity
          (request.identity config))), .ok existing⟩]) := (hasked.snoc hcall).snoc rfl
      cases (existing : Option IdempotencyRow) with
      | none =>
        refine accounted_retried hfound ?_ rfl
        exact List.mem_append_left _ (List.mem_append_left _ hdrawn)
      | some existing =>
        exact accounted_inspect hfound (List.mem_append_right _ (List.mem_singleton_self _))

theorem Owns.of_subset {identity : IdempotencyIdentity} {reservation : IdempotencyReservation}
    {later : List InboundCall} (h : Owns identity history reservation)
    (hlater : ∀ call ∈ history, call ∈ later) : Owns identity later reservation := by
  rcases h with ⟨claimToken, expiresAt, claimedAt, row, hmem, heq⟩ |
    ⟨claimToken, now, claimLeaseMs, expiresAt, claimedAt, count, hcount, hmem, heq⟩
  · exact .inl ⟨claimToken, expiresAt, claimedAt, row, hlater _ hmem, heq⟩
  · exact .inr ⟨claimToken, now, claimLeaseMs, expiresAt, claimedAt, count, hcount, hlater _ hmem,
      heq⟩

theorem Owns.append {identity : IdempotencyIdentity} {reservation : IdempotencyReservation}
    {more : List InboundCall} (h : Owns identity history reservation) :
    Owns identity (history ++ more) reservation :=
  h.of_subset fun _ => List.mem_append_left _

theorem Owns.identity_eq {identity : IdempotencyIdentity} {reservation : IdempotencyReservation}
    (h : Owns identity history reservation) : reservation.toIdempotencyIdentity = identity := by
  rcases h with ⟨_, _, _, _, _, rfl⟩ | ⟨_, _, _, _, _, _, _, _, heq⟩
  · rfl
  · exact heq

/-- A claim that was made is settled, but where its release was refused. -/
def Concluded (history : List InboundCall) : Prop :=
  (∀ call ∈ history, claimOf call = none) ∨ SettledIn history ∨
    ∃ reservation message, (⟨.statement (.ledger (.deleteClaim reservation)), .refused message⟩ :
      InboundCall) ∈ history

theorem Concluded.snoc {call : InboundCall} (h : Concluded history) (hcall : claimOf call = none) :
    Concluded (history ++ [call]) := by
  rcases h with hnone | ⟨call', hmem, hsettles⟩ | ⟨reservation, message, hmem⟩
  · exact .inl (List.forall_mem_append.mpr ⟨hnone, List.forall_mem_singleton.mpr hcall⟩)
  · exact .inr (.inl ⟨call', List.mem_append_left _ hmem, hsettles⟩)
  · exact .inr (.inr ⟨reservation, message, List.mem_append_left _ hmem⟩)

/-- A reply to the release of a claim settles it, or the release was refused. -/
theorem concluded_released {reservation : IdempotencyReservation} (reply : Reply Nat) :
    Concluded (history ++ [⟨.statement (.ledger (.deleteClaim reservation)), reply⟩]) := by
  have hlast : ∀ call : InboundCall, call ∈ history ++ [call] := by
    intro call
    exact List.mem_append_right _ (List.mem_singleton_self _)
  cases reply with
  | ok count => exact .inr (.inl ⟨_, hlast _, rfl⟩)
  | lost count message => exact .inr (.inl ⟨_, hlast _, rfl⟩)
  | refused message => exact .inr (.inr ⟨reservation, message, hlast _⟩)

theorem accounted_giveUp {reservation : IdempotencyReservation} {e : String}
    (howns : Owns (request.identity config) history reservation) (hgiven : GivenUp request history) :
    Accounted (Because config request) (fun h _ => Concluded h) history
      (giveUp config reservation e).caught := by
  have hfail : Accounted (Because config request) (fun h _ => Concluded h) history
      (thrown (fail config.toIdempotencyConfig reservation)).caught := by
    refine accounted_thrown ⟨howns, hgiven⟩ (fun _ => rfl)
      (fun reply _ => concluded_released reply) fun count => ?_
    have hreleased := @concluded_released history reservation (.ok count)
    change Accounted _ _ _ (thrown (ite (count = 0) _ _)).caught
    split
    · exact hreleased
    · exact accounted_thrown trivial (fun _ => rfl) (fun _ _ => hreleased.snoc rfl)
        fun _ => hreleased.snoc rfl
  exact hfail.caught_bind (fun _ _ h => h) fun _ _ h => h

/-- What the outcome of the completion rests on. -/
def Completes (config : InboundConfig) (request : InboundRequest)
    (reservation : IdempotencyReservation) (history : List InboundCall) :
    Except String Unit → Prop
  | .ok _ => HandledIn request history ∧ SettledIn history
  | .error _ => Owns (request.identity config) history reservation ∧ GivenUp request history

theorem completes_of_settled {reservation : IdempotencyReservation}
    (howns : Owns (request.identity config) history reservation)
    (hhandled : HandledIn request history) (hgiven : GivenUp request history)
    (hsettled : SettledIn history) {later : List InboundCall} (hlater : history <+: later)
    (outcome : Except String Unit) : Completes config request reservation later outcome := by
  obtain ⟨more, rfl⟩ := hlater
  cases outcome with
  | ok value =>
    obtain ⟨call, hmem, hsettles⟩ := hsettled
    exact ⟨List.mem_append_left _ hhandled, call, List.mem_append_left _ hmem, hsettles⟩
  | error e =>
    refine ⟨howns.append, ?_⟩
    rcases hgiven with ⟨e, hmem⟩ | ⟨reservation, result, completedAt, reply, hmem⟩
    · exact .inl ⟨e, List.mem_append_left _ hmem⟩
    · exact .inr ⟨reservation, result, completedAt, reply, List.mem_append_left _ hmem⟩

theorem accounted_complete {reservation : IdempotencyReservation}
    (howns : Owns (request.identity config) history reservation)
    (hhandled : HandledIn request history) :
    Accounted (Because config request) (Completes config request reservation) history
      (thrown (complete config.toIdempotencyConfig reservation (some successResult))).caught := by
  refine ⟨trivial, fun completedAt => ?_⟩
  have howns' := @Owns.append _ _ _ [⟨.clock, completedAt⟩] howns
  have hhandled' : HandledIn request (history ++ [⟨.clock, completedAt⟩]) :=
    List.mem_append_left _ hhandled
  change Accounted _ _ _ (thrown (.ask (.statement
    (.complete reservation successResult completedAt)) _)).caught
  refine accounted_thrown ⟨howns', hhandled'⟩ (fun _ => rfl) (fun reply e => ?_) fun count => ?_
  · refine ⟨howns'.append, .inr ⟨reservation, successResult, completedAt, reply, ?_⟩⟩
    exact List.mem_append_right _ (List.mem_singleton_self _)
  · have hlast := List.mem_append_right (history ++ [⟨.clock, completedAt⟩]) (List.mem_singleton_self
      (⟨.statement (.ledger (.complete reservation successResult completedAt)), .ok count⟩ :
        InboundCall))
    have hcompletes {later} := @completes_of_settled config request _ reservation howns'.append
      (List.mem_append_left _ hhandled')
      (.inr ⟨reservation, successResult, completedAt, _, hlast⟩) ⟨_, hlast, rfl⟩ later
    change Accounted _ _ _ (thrown (ite (count = 0) _ _ >>= _)).caught
    split
    · exact hcompletes (List.prefix_refl _) (.ok ())
    · refine accounted_thrown trivial (fun _ => rfl)
        (fun _ e => hcompletes (List.prefix_append _ _) (.error e)) fun row => ?_
      cases (row : Option IdempotencyRow) with
      | none => exact hcompletes (List.prefix_append _ _) (.ok ())
      | some row =>
        refine ⟨trivial, fun now => ?_⟩
        have htwo : ∀ (h : List InboundCall) call call', h <+: h ++ [call] ++ [call'] :=
          fun h _ _ => (List.prefix_append h _).trans (List.prefix_append _ _)
        change Accounted _ _ _ (thrown (ite _ _ _)).caught
        split
        · refine accounted_thrown ⟨?_, .inr ?_⟩ (fun _ => rfl)
            (fun _ e => hcompletes ((htwo _ _ _).trans (List.prefix_append _ _)) (.error e))
            fun _ => hcompletes ((htwo _ _ _).trans (List.prefix_append _ _)) (.ok ())
          · rw [← howns.identity_eq]
          · exact (htwo _ _ _).subset (List.mem_append_left _ hhandled')
        · exact hcompletes (htwo _ _ _) (.ok ())

theorem accounted_resolved {result : IdempotencyReserveResult}
    (hanswers : Answers config request history (.ok result)) :
    Accounted (Because config request) (fun h _ => Concluded h) history
      (resolved config request result).caught := by
  have hfound : ∀ {result}, Answers config request history (.ok result) →
      (∀ reservation, result ≠ .acquired reservation) →
        Accounted (Because config request) (fun h _ => Concluded h) history
          acknowledged.caught := by
    intro result hanswers hother
    have hidle : FoundIn config request history ∧ Idle history := by
      cases result with
      | replay value => exact hanswers
      | busy => exact hanswers
      | keyMismatch => exact hanswers
      | acquired reservation => exact absurd rfl (hother reservation)
    refine ⟨.inr ⟨hidle.1, hidle.2.unclaimed⟩, fun _ => ?_⟩
    exact Concluded.snoc (.inl hidle.2.unclaimed) rfl
  cases result with
  | replay value => exact hfound hanswers fun _ h => by cases h
  | busy => exact hfound hanswers fun _ h => by cases h
  | keyMismatch => exact hfound hanswers fun _ h => by cases h
  | acquired reservation =>
    obtain ⟨howns, hunworked⟩ := hanswers
    refine ⟨⟨rfl, rfl, ⟨reservation, howns⟩, hunworked⟩, fun outcome => ?_⟩
    cases (outcome : Except String Unit) with
    | ok value =>
      have hhandled : HandledIn request (history ++
          [⟨.statement (.handle request.source request.rawBody), .ok ()⟩]) :=
        List.mem_append_right _ (List.mem_singleton_self _)
      refine (accounted_complete howns.append hhandled).caught_handle ?_ ?_
      · rintro h - ⟨hhandled, hsettled⟩
        refine ⟨.inl hhandled, fun _ => ?_⟩
        exact Concluded.snoc (.inr (.inl hsettled)) rfl
      · rintro h e ⟨howns, hgiven⟩
        exact accounted_giveUp howns hgiven
    | error e =>
      refine accounted_giveUp howns.append (.inl ⟨e, ?_⟩)
      exact List.mem_append_right _ (List.mem_singleton_self _)

/-- A call of an entry, with what it leaves behind when it ends. -/
theorem accounted_caught (e : InboundEntry) :
    Accounted (BecauseOf config e) (fun h _ => Concluded h) [] (e.program config).caught := by
  cases e with
  | received request =>
    have hidle : Concluded [] := .inl fun call hmem => by cases hmem
    change Accounted _ _ _ (receive config request).caught
    unfold receive
    split
    · exact hidle
    · rename_i verify hsource
      split
      · rename_i hverify
        have hreceive := @accounted_reserve config request |>.caught_bind
          (fun _ _ => accounted_resolved) fun h e hidle => .inl hidle.unclaimed
        exact hreceive.mono (fun _ _ h => ⟨⟨verify, hsource, hverify⟩, h⟩) fun _ _ h => h
      · exact hidle
  | purgeExpired =>
    refine ⟨.inl rfl, fun now => ?_⟩
    change Accounted _ _ _ (thrown (.ask (.statement (.purgeExpired now)) _)).caught
    rw [thrown]
    refine ⟨.inr ⟨now, List.mem_append_right _ (List.mem_singleton_self _), rfl⟩, fun reply => ?_⟩
    have hnone : Concluded ([] ++ [⟨.clock, now⟩] ++
        [⟨.statement (.ledger (.purgeExpired now)), reply⟩]) :=
      Concluded.snoc (Concluded.snoc (.inl fun call hmem => by cases hmem) rfl) rfl
    cases reply with
    | ok count => exact hnone
    | refused message => exact hnone
    | lost count message => exact hnone

/-- Any statement but a purge is one of an inbound call. -/
theorem received_of_because {e : InboundEntry} {q : InboundStatement}
    (h : BecauseOf config e history (.statement q))
    (hq : ∀ now, q ≠ .ledger (.purgeExpired now)) :
    ∃ request, e = .received request ∧ Verified config request ∧
      Because config request history (.statement q) := by
  cases e with
  | received request => exact ⟨request, rfl, h.1, h.2⟩
  | purgeExpired =>
    rcases h with heq | ⟨now, _, heq⟩
    · cases heq
    · cases heq
      exact absurd rfl (hq now)

theorem accounted_entry (e : InboundEntry) :
    Accounted (BecauseOf config e) (fun _ _ => True) [] (e.program config) :=
  (accounted_caught e).of_caught.mono (fun _ _ h => h) fun _ _ _ => trivial

end Accounting

end DddBoilerplate.InboundWebhook
