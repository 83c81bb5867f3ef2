/- module: DddBoilerplate/Idempotency/ExactlyOnce
   generality: I
   digest: One live claim of an identity, and one completion, replayed until its row expires. -/

import DddBoilerplate.Idempotency.Cache
import DddBoilerplate.Idempotency.Claims

set_option autoImplicit false
set_option relaxedAutoImplicit false
set_option linter.all false

namespace DddBoilerplate.Idempotency

open Concurrency Store

variable {config : IdempotencyConfig} {identity : IdempotencyIdentity}

/-- With the cache empty a lookup misses. -/
def cacheMisses : Label (idempotencySystem config) → Prop
  | .served _ (.statement (.cacheGet _)) a _ => (a : Option ResultJson) = none
  | _ => True

/-- A purge does not take a claim of the identity whose lease still runs. -/
def purgeSpares (identity : IdempotencyIdentity) (Q : Pool (idempotencySystem config)) :
    Label (idempotencySystem config) → Prop
  | .served _ (.statement (.purgeExpired now)) _ _ =>
    (Q.store.db.keys.get? identity).any (fun row =>
      row.expiresAt < now && row.status = .inProgress &&
        row.claimedAt.any fun claimedAt => Q.store.now ≤ claimedAt + config.claimLeaseMs) = false
  | _ => True

/-- The reservation under that token is completed or given up. -/
def settles (claimToken : String) : Label (idempotencySystem config) → Prop
  | .served _ (.statement (.complete reservation _ _)) _ _ => reservation.claimToken = claimToken
  | .served _ (.statement (.deleteClaim reservation)) _ _ => reservation.claimToken = claimToken
  | _ => False

/-- The answer of a reserve of the identity, with this reservation. -/
def answers (identity : IdempotencyIdentity) (reservation : IdempotencyReservation) :
    Call IdempotencyStatement.interface.world → Prop
  | ⟨.statement (.respond identity' (.acquired reservation')), _⟩ =>
    identity' = identity ∧ reservation' = reservation
  | _ => False

/-- A caller was answered with this reservation, has not settled it, and its lease still runs. -/
structure Live (identity : IdempotencyIdentity) (trace : List (Label (idempotencySystem config)))
    (Q : Pool (idempotencySystem config)) (i : Nat) (reservation : IdempotencyReservation) :
    Prop where
  responded : ∃ call ∈ calls i trace, answers identity reservation call
  unsettled : ∀ l ∈ trace, ¬ settles reservation.claimToken l
  leased : ∃ claimedAt, (∃ call ∈ calls i trace,
    claimsWith identity reservation.claimToken claimedAt call) ∧
      Q.store.now ≤ claimedAt + config.claimLeaseMs

/-- The row of the identity is the claim under that token, made at that time. -/
structure Holds (identity : IdempotencyIdentity) (claimToken : String) (claimedAt : Nat)
    (db : IdempotencyDb) (row : IdempotencyRow) : Prop where
  found : db.keys.get? identity = some row
  claimToken : row.claimToken = claimToken
  status : row.status = .inProgress
  claimedAt : row.claimedAt = some claimedAt

section Claims

variable {ok : Pool (idempotencySystem config) → Label (idempotencySystem config) → Prop}
variable {P Q R : Pool (idempotencySystem config)} {l : Label (idempotencySystem config)}
variable {trace : List (Label (idempotencySystem config))}
variable {claimToken : String} {claimedAt : Nat} {row : IdempotencyRow}

/-- A step makes of the row of an identity what the statement it serves makes of it. -/
theorem row_of_step (hstep : Step (idempotencySystem config) Q l R)
    (hrow : Q.store.db.keys.get? identity = some row) :
    R.store.db.keys.get? identity = some row ∨
      ∃ i q a f, l = .served i (.statement q) a f ∧
        Alters identity row q (R.store.db.keys.get? identity) := by
  rcases db_of_step hstep with hsame | ⟨i, q, a, f, choice, rfl, hexecute⟩
  · exact .inl (hsame ▸ hrow)
  · have hdb : R.store.db = (q.perform choice Q.store.db).2 := by
      have heq := Option.some.inj hexecute
      rw [heq]
    rcases @alters_of_perform _ choice _ _ q hrow with hkept | halters
    · exact .inl (by rw [hdb]; exact hkept)
    · exact .inr ⟨i, q, a, f, rfl, by rw [hdb]; exact halters⟩

/-- A claim that succeeds leaves its row. -/
theorem holds_of_claims {i : Nat} {q : IdempotencyStatement} {a : q.Answer}
    {f : Front IdempotencyStatement.interface.world}
    (hstep : Step (idempotencySystem config) Q (.served i (.statement q) a f) R)
    (hclaims : claimsWith identity claimToken claimedAt ⟨.statement q, a⟩) :
    ∃ row, Holds identity claimToken claimedAt R.store.db row := by
  obtain ⟨choice, db, hexecute, hstore⟩ := serves_statement.mp hstep.answered
  have heq : q.perform choice Q.store.db = (a, db) := Option.some.inj hexecute
  rw [hstore]
  cases q with
  | create identity' claimToken' expiresAt requestHash claimedAt' =>
    obtain ⟨rfl, rfl, rfl, hsome⟩ := hclaims
    dsimp only [IdempotencyStatement.perform] at heq
    split at heq
    · cases heq
      cases hsome
    · rename_i hfree
      simp only [Bool.or_eq_true, not_or, Bool.not_eq_true, Option.isSome_eq_false_iff,
        Option.isNone_iff_eq_none] at hfree
      cases heq
      refine ⟨.claimed choice.id identity' claimToken' expiresAt requestHash claimedAt', ?_, rfl, rfl,
        rfl⟩
      show (Table.insert _ _).get? identity' = _
      rw [Table.get?_insert hfree.1.2]
      exact if_pos rfl
  | takeOver identity' claimToken' now claimLeaseMs expiresAt claimedAt' =>
    obtain ⟨rfl, rfl, rfl, hcount⟩ := hclaims
    cases heq
    obtain ⟨row, hmem, hlapsed⟩ := List.countP_pos_iff.mp hcount
    have hidentity := (IdempotencyRow.lapsed_eq_true hlapsed).1
    have hrow : Q.store.db.keys.get? identity' = some row := hidentity ▸ Table.get?_of_mem hmem
    refine ⟨row.takeOver claimToken' expiresAt claimedAt', ?_, rfl,
      (IdempotencyRow.lapsed_eq_true hlapsed).2.1, rfl⟩
    have hget := (@get?_takeOver Q.store.db choice identity' identity' claimToken' now claimLeaseMs
      expiresAt claimedAt')
    rw [hrow, Option.map_some, if_pos hlapsed] at hget
    exact hget
  | cacheGet key => cases hclaims
  | cacheSet key value ttlMs => cases hclaims
  | cacheDelete key => cases hclaims
  | findByIdentity identity' => cases hclaims
  | findById id => cases hclaims
  | complete reservation result completedAt => cases hclaims
  | deleteClaim reservation => cases hclaims
  | purgeExpired now => cases hclaims
  | respond identity' result => cases hclaims

/-- While its lease runs a claim is not taken over; only its holder settles it. -/
theorem Holds.step (hrun : Run ok P trace Q) (hP : P.threads = [])
    (hstep : Step (idempotencySystem config) Q l R)
    (hspares : purgeSpares identity Q l) (hunsettled : ¬ settles claimToken l)
    (hleased : Q.store.now ≤ claimedAt + config.claimLeaseMs)
    (h : Holds identity claimToken claimedAt Q.store.db row) :
    Holds identity claimToken claimedAt R.store.db row := by
  rcases row_of_step hstep h.found with hkept | ⟨i, q, a, f, rfl, halters⟩
  · exact ⟨hkept, h.claimToken, h.status, h.claimedAt⟩
  · exfalso
    generalize R.store.db.keys.get? identity = left at halters
    cases halters with
    | takenOver token now claimLeaseMs expiresAt claimedAt' hlapsed =>
      obtain ⟨_, hread, rfl⟩ := because_of_run accounted_program hrun hP hstep
      obtain ⟨_, hmem⟩ := mem_calls.mp hread
      have hnow := read_of_mem hrun hmem
      obtain ⟨_, _, claimed, hclaimed, hlate⟩ := IdempotencyRow.lapsed_eq_true hlapsed
      rw [h.claimedAt] at hclaimed
      cases hclaimed
      omega
    | completed reservation result completedAt howned =>
      exact hunsettled ((IdempotencyRow.ownedBy_eq_true howned).1.symm.trans h.claimToken)
    | deleted reservation howned =>
      exact hunsettled ((IdempotencyRow.ownedBy_eq_true howned).1.symm.trans h.claimToken)
    | purged now hexpired =>
      simp only [purgeSpares, h.found, Option.any_some, h.status, h.claimedAt] at hspares
      simp [hexpired, hleased] at hspares

/-- As long as it is not settled and its lease runs, a claim is the row of its identity. -/
theorem holds_of_run (hrun : Run (purgeSpares identity) P trace Q) (hP : P.threads = []) {i : Nat}
    {call : Call IdempotencyStatement.interface.world} (hcall : call ∈ calls i trace)
    (hclaims : claimsWith identity claimToken claimedAt call)
    (hunsettled : ∀ l ∈ trace, ¬ settles claimToken l)
    (hleased : Q.store.now ≤ claimedAt + config.claimLeaseMs) :
    ∃ row, Holds identity claimToken claimedAt Q.store.db row := by
  obtain ⟨q, a⟩ := call
  obtain ⟨f, hmem⟩ := mem_calls.mp hcall
  clear hcall
  induction hrun with
  | nil => cases hmem
  | @snoc trace Q R l hrun hspares hstep ih =>
    have hbefore := (later_of_step hstep).now
    rcases List.mem_append.mp hmem with hmem | hmem
    · have hearlier : ∀ l ∈ trace, ¬ settles claimToken l := fun l hl =>
        hunsettled l (List.mem_append_left _ hl)
      obtain ⟨row, hholds⟩ := ih hearlier (by omega) hmem
      have hlast := hunsettled l (List.mem_append_right _ (List.mem_singleton_self l))
      exact ⟨row, hholds.step hrun hP hstep hspares hlast (by omega)⟩
    · obtain rfl := List.mem_singleton.mp hmem
      cases q with
      | statement q => exact holds_of_claims hstep hclaims
      | clock => cases hclaims
      | randomUUID => cases hclaims

/-- A caller claims with a token it has drawn. -/
theorem drawn_of_claims (hrun : Run ok P trace Q) (hP : P.threads = []) {i : Nat}
    {call : Call IdempotencyStatement.interface.world} (hcall : call ∈ calls i trace)
    (hclaims : claimsWith identity claimToken claimedAt call) :
    ∃ f, (.served i .randomUUID claimToken f : Label (idempotencySystem config)) ∈ trace := by
  obtain ⟨q, a⟩ := call
  obtain ⟨f, hmem⟩ := mem_calls.mp hcall
  obtain ⟨earlier, hearlier, hbecause⟩ := because_of_mem accounted_program hrun hP hmem
  cases q with
  | clock => cases hclaims
  | randomUUID => cases hclaims
  | statement q =>
    cases q with
    | create identity' claimToken' expiresAt requestHash claimedAt' =>
      obtain ⟨_, rfl, _⟩ := hclaims
      exact mem_calls.mp (hearlier _ hbecause)
    | takeOver identity' claimToken' now claimLeaseMs expiresAt claimedAt' =>
      obtain ⟨_, rfl, _⟩ := hclaims
      exact mem_calls.mp (hearlier _ hbecause.1)
    | cacheGet key => cases hclaims
    | cacheSet key value ttlMs => cases hclaims
    | cacheDelete key => cases hclaims
    | findByIdentity identity' => cases hclaims
    | findById id => cases hclaims
    | complete reservation result completedAt => cases hclaims
    | deleteClaim reservation => cases hclaims
    | purgeExpired now => cases hclaims
    | respond identity' result => cases hclaims

theorem live_once (hrun : Run (purgeSpares identity) P trace Q) (hP : P.threads = []) {i j : Nat}
    {reservation other : IdempotencyReservation} (hi : Live identity trace Q i reservation)
    (hj : Live identity trace Q j other) :
    i = j ∧ reservation.claimToken = other.claimToken := by
  obtain ⟨claimedAt, ⟨call, hcall, hclaims⟩, hleased⟩ := hi.leased
  obtain ⟨claimedAt', ⟨call', hcall', hclaims'⟩, hleased'⟩ := hj.leased
  obtain ⟨row, hholds⟩ := holds_of_run hrun hP hcall hclaims hi.unsettled hleased
  obtain ⟨row', hholds'⟩ := holds_of_run hrun hP hcall' hclaims' hj.unsettled hleased'
  obtain rfl : row = row' := Option.some.inj (hholds.found.symm.trans hholds'.found)
  have htoken : reservation.claimToken = other.claimToken :=
    hholds.claimToken.symm.trans hholds'.claimToken
  obtain ⟨f, hdrawn⟩ := drawn_of_claims hrun hP hcall hclaims
  obtain ⟨f', hdrawn'⟩ := drawn_of_claims hrun hP hcall' hclaims'
  rw [htoken] at hdrawn
  exact ⟨drawn_once hrun hdrawn hdrawn', htoken⟩

end Claims

section Completion

/-- The result a step completes the row of the identity with. -/
def completes (identity : IdempotencyIdentity) (Q : Pool (idempotencySystem config)) :
    Label (idempotencySystem config) → Option ResultJson
  | .served _ (.statement (.complete reservation result _)) _ _ =>
    if (Q.store.db.keys.get? identity).any (·.ownedBy reservation) then some result else none
  | _ => none

/-- A purge that takes the row. -/
def purges (row : IdempotencyRow) : Label (idempotencySystem config) → Prop
  | .served _ (.statement (.purgeExpired now)) _ _ => row.expiresAt < now
  | _ => False

/-- What a completed row answers. -/
def answerOf (row : IdempotencyRow) (request : IdempotencyReserveRequest) :
    IdempotencyReserveResult :=
  if hashesDiffer row.requestHash request.requestHash then .keyMismatch else .replay row.resultJson

variable {ok : Pool (idempotencySystem config) → Label (idempotencySystem config) → Prop}
variable {P Q R S T : Pool (idempotencySystem config)}
variable {l : Label (idempotencySystem config)}
variable {trace trace' : List (Label (idempotencySystem config))}
variable {row : IdempotencyRow} {result : ResultJson} {request : IdempotencyReserveRequest}

theorem cacheMisses_of_completes (h : completes identity Q l = some result) : cacheMisses l := by
  unfold completes at h
  split at h
  · trivial
  · cases h

theorem completed_of_completes (hstep : Step (idempotencySystem config) Q l R)
    (h : completes identity Q l = some result) :
    ∃ row, R.store.db.keys.get? identity = some row ∧ row.status = .completed ∧
      row.resultJson = result := by
  cases l with
  | start e => cases h
  | raised i q => cases h
  | served i q a f =>
    cases q with
    | clock => cases h
    | randomUUID => cases h
    | statement q =>
      cases q with
      | complete reservation result' completedAt =>
        simp only [completes] at h
        split at h
        · rename_i howned
          cases h
          obtain ⟨row, hrow, howned⟩ := (Option.any_eq_true _ _).mp howned
          obtain ⟨choice, db, hexecute, hstore⟩ := serves_statement.mp hstep.answered
          cases hexecute
          refine ⟨row.complete result completedAt, ?_, rfl, rfl⟩
          have hget := @get?_complete Q.store.db choice identity reservation result completedAt
          rw [hrow, Option.map_some, if_pos howned] at hget
          rw [hstore]
          exact hget
        · cases h
      | create identity' claimToken expiresAt requestHash claimedAt => cases h
      | takeOver identity' claimToken now claimLeaseMs expiresAt claimedAt => cases h
      | cacheGet key => cases h
      | cacheSet key value ttlMs => cases h
      | cacheDelete key => cases h
      | findByIdentity identity' => cases h
      | findById id => cases h
      | deleteClaim reservation => cases h
      | purgeExpired now => cases h
      | respond identity' answer => cases h

/-- Nothing but a purge changes a completed row. -/
theorem kept_of_step (hstep : Step (idempotencySystem config) Q l R)
    (hrow : Q.store.db.keys.get? identity = some row) (hcompleted : row.status = .completed) :
    R.store.db.keys.get? identity = some row ∨ purges row l := by
  rcases row_of_step hstep hrow with hkept | ⟨i, q, a, f, rfl, halters⟩
  · exact .inl hkept
  · generalize R.store.db.keys.get? identity = left at halters
    cases halters with
    | takenOver token now claimLeaseMs expiresAt claimedAt hlapsed =>
      have hstatus := (IdempotencyRow.lapsed_eq_true hlapsed).2.1
      cases hcompleted.symm.trans hstatus
    | completed reservation result completedAt howned =>
      have hstatus := (IdempotencyRow.ownedBy_eq_true howned).2
      cases hcompleted.symm.trans hstatus
    | deleted reservation howned =>
      have hstatus := (IdempotencyRow.ownedBy_eq_true howned).2
      cases hcompleted.symm.trans hstatus
    | purged now hexpired => exact .inr hexpired

theorem kept_of_run (hrun : Run ok R trace' S)
    (hrow : R.store.db.keys.get? identity = some row) (hcompleted : row.status = .completed) :
    S.store.db.keys.get? identity = some row ∨ ∃ l ∈ trace', purges row l := by
  induction hrun with
  | nil => exact .inl hrow
  | @snoc trace' S T l hrun _ hstep ih =>
    rcases ih with hkept | ⟨l', hl', hpurges⟩
    · rcases kept_of_step hstep hkept hcompleted with hkept | hpurges
      · exact .inl hkept
      · exact .inr ⟨l, List.mem_append_right _ (List.mem_singleton_self l), hpurges⟩
    · exact .inr ⟨l', List.mem_append_left _ hl', hpurges⟩

/-- A completed row is not completed again. -/
theorem completes_of_completed (hrow : S.store.db.keys.get? identity = some row)
    (hcompleted : row.status = .completed) : completes identity S l = none := by
  unfold completes
  split
  · rename_i reservation result completedAt _ _
    rw [hrow, Option.any_some, if_neg]
    intro howned
    have hstatus := (IdempotencyRow.ownedBy_eq_true howned).2
    cases hcompleted.symm.trans hstatus
  · rfl

/-- What a call meets while the row stays: its lookup misses, its insertion is turned away, and it
finds the row. -/
def meets (identity : IdempotencyIdentity) (row : IdempotencyRow) :
    (q : WorldRequest IdempotencyStatement.interface) → q.Answer → Prop
  | .statement (.cacheGet _), cached => (cached : Option ResultJson) = none
  | .statement (.create identity' _ _ _ _), inserted =>
    identity' = identity → (inserted : Option IdempotencyRow) = none
  | .statement (.findByIdentity identity'), existing =>
    identity' = identity → (existing : Option IdempotencyRow) = some row
  | _, _ => True

/-- A call answers as the row does. -/
def answersAs (row : IdempotencyRow) (request : IdempotencyReserveRequest) :
    WorldRequest IdempotencyStatement.interface → Prop
  | .statement (.respond _ answer) => answer = answerOf row request
  | _ => True

/-- A reserve with this request keeps to what the row answers. -/
def Bound (config : IdempotencyConfig) (row : IdempotencyRow) (request : IdempotencyReserveRequest)
    (e : (idempotencySystem config).Entry) (p : IdempotencyProgram Unit) : Prop :=
  e = .reserve request →
    Guarded (answersAs row request) (meets request.toIdempotencyIdentity row) p

theorem reserve_answersAs (hcompleted : row.status = .completed) :
    Guarded (answersAs row request) (meets request.toIdempotencyIdentity row)
      ((IdempotencyEntry.reserve request).program config) := by
  have hreserve : Ensures (answersAs row request) (meets request.toIdempotencyIdentity row)
      (fun answer => answer = answerOf row request) (reserve config request) := by
    rw [reserve_eq]
    refine ⟨trivial, fun now _ => ⟨trivial, fun cached hcached => ?_⟩⟩
    obtain rfl : cached = none := hcached
    refine ⟨trivial, fun claimToken _ => ⟨trivial, fun claimedAt _ => ⟨trivial, ?_⟩⟩⟩
    intro answer hanswer
    obtain rfl : answer = none := hanswer rfl
    refine ⟨trivial, fun existing hexisting => ?_⟩
    obtain rfl : existing = some row := hexisting rfl
    show Ensures _ _ _ (inspect config request claimToken now _ row)
    unfold inspect
    split
    · rename_i hdiffer
      exact (if_pos hdiffer).symm
    · rename_i hsame
      have hreplay : IdempotencyReserveResult.replay row.resultJson = answerOf row request :=
        (if_neg hsame).symm
      rw [hcompleted]
      refine ⟨trivial, fun reading _ => ?_⟩
      show Ensures _ _ _ (ite _ _ _)
      split
      · exact ⟨trivial, fun _ _ => hreplay⟩
      · exact hreplay
  exact hreserve.bind fun answer hanswer => ⟨hanswer, fun _ _ => trivial⟩

theorem meets_of_serves {w w' : World IdempotencyDb}
    {q : WorldRequest IdempotencyStatement.interface} {a : q.Answer} {i : Nat}
    {f : Front IdempotencyStatement.interface.world}
    (hserves : (idempotencySystem config).Serves q w a w')
    (hmiss : cacheMisses (.served i q a f : Label (idempotencySystem config)))
    (hrow : w.db.keys.get? identity = some row) : meets identity row q a := by
  cases q with
  | clock => trivial
  | randomUUID => trivial
  | statement q =>
    obtain ⟨choice, db, hexecute, _⟩ := serves_statement.mp hserves
    have heq : q.perform choice w.db = (a, db) := Option.some.inj hexecute
    cases q with
    | cacheGet key => exact hmiss
    | create identity' claimToken expiresAt requestHash claimedAt =>
      rintro rfl
      rw [perform_create_taken hrow] at heq
      cases heq
      rfl
    | findByIdentity identity' =>
      rintro rfl
      cases heq
      exact hrow
    | takeOver identity' claimToken now claimLeaseMs expiresAt claimedAt => trivial
    | cacheSet key value ttlMs => trivial
    | cacheDelete key => trivial
    | findById id => trivial
    | complete reservation result completedAt => trivial
    | deleteClaim reservation => trivial
    | purgeExpired now => trivial
    | respond identity' answer => trivial

/-- Before its expiry a row is not purged. -/
theorem not_purges_of_run {l : Label (idempotencySystem config)} (hrun : Run ok P trace Q)
    (hP : P.threads = []) (hfresh : Q.store.now < row.expiresAt) (hmem : l ∈ trace) :
    ¬ purges row l := by
  intro hpurges
  cases l with
  | start e => exact hpurges
  | raised i q => exact hpurges
  | served i q a f =>
    cases q with
    | clock => exact hpurges
    | randomUUID => exact hpurges
    | statement q =>
      cases q with
      | purgeExpired now =>
        obtain ⟨earlier, hearlier, hread⟩ := because_of_mem accounted_program hrun hP hmem
        obtain ⟨_, hclock⟩ := mem_calls.mp (hearlier _ hread)
        have hnow := read_of_mem hrun hclock
        have hexpired : row.expiresAt < now := hpurges
        omega
      | create identity' claimToken expiresAt requestHash claimedAt => exact hpurges
      | takeOver identity' claimToken now claimLeaseMs expiresAt claimedAt => exact hpurges
      | cacheGet key => exact hpurges
      | cacheSet key value ttlMs => exact hpurges
      | cacheDelete key => exact hpurges
      | findByIdentity identity' => exact hpurges
      | findById id => exact hpurges
      | complete reservation result completedAt => exact hpurges
      | deleteClaim reservation => exact hpurges
      | respond identity' answer => exact hpurges

/-- A reserve begun when the row was completed answers as the row does, while the row stays. -/
theorem answer_of_completed {started : List IdempotencyEntry} {j : Nat}
    {answer : IdempotencyReserveResult} {f : Front IdempotencyStatement.interface.world}
    (hrun : Run (fun _ l => cacheMisses l ∧ ¬ purges row l) R trace' S)
    (hrow : R.store.db.keys.get? request.toIdempotencyIdentity = some row)
    (hcompleted : row.status = .completed) (hstarted : started.length = R.threads.length)
    (hj : R.threads.length ≤ j) (hentry : (started ++ entries trace')[j]? = some (.reserve request))
    (hstep : Step (idempotencySystem config) S
      (.served j (.statement (.respond request.toIdempotencyIdentity answer)) () f) T) :
    answer = answerOf row request := by
  obtain ⟨next, hthread⟩ := hstep.asked
  have hknown : ∀ {trace' S}, Run (fun _ l => cacheMisses l ∧ ¬ purges row l) R trace' S →
      S.store.db.keys.get? request.toIdempotencyIdentity = some row := by
    intro trace' S hrun
    rcases kept_of_run hrun hrow hcompleted with hkept | ⟨l, hl, hpurges⟩
    · exact hkept
    · exact absurd hpurges (hrun.forall_mem (fun _ _ h => h.2) l hl)
  have hbound := @Run.entered_later (idempotencySystem config) (Bound config row request)
    (fun S => S.store.db.keys.get? request.toIdempotencyIdentity = some row) R S trace' _ started j
    (.reserve request) _ hrun hstarted hknown
    (fun e he => by
      subst he
      exact reserve_answersAs hcompleted)
    (fun S i e q next a s' hrow hok hbound hserves he =>
      (hbound he).2 a (meets_of_serves hserves hok.1 hrow))
    (fun e q next error _ _ => trivial) hj hentry hthread
  exact (hbound rfl).1

/-- As long as no purge takes a claim whose lease runs, at most one caller holds a live one. A
completion leaves its result in the row of the identity, which nothing changes before a purge takes
it as expired; until then nothing completes again, and every reserve begun since and answered
before the expiry answers as the row does. -/
theorem ledger_is_exactly_once {now : Nat} :
    (∀ {Q trace}, Run (purgeSpares identity) (emptyLedger config now) trace Q →
      ∀ i j reservation other, Live identity trace Q i reservation → Live identity trace Q j other →
        i = j ∧ reservation.claimToken = other.claimToken) ∧
    ∀ {Q trace l R result}, Run (fun _ => cacheMisses) (emptyLedger config now) trace Q →
      Step (idempotencySystem config) Q l R → completes identity Q l = some result →
      ∃ row, R.store.db.keys.get? identity = some row ∧ row.status = .completed ∧
        row.resultJson = result ∧
        ∀ {S trace' l' T}, Run (fun _ => cacheMisses) R trace' S →
          Step (idempotencySystem config) S l' T →
          ((∀ l ∈ trace', ¬ purges row l) → S.store.db.keys.get? identity = some row ∧
            completes identity S l' = none) ∧
          ∀ j request answer f,
            l' = .served j (.statement (.respond identity answer)) () f →
            (entries (trace ++ [l] ++ trace'))[j]? = some (.reserve request) →
            request.toIdempotencyIdentity = identity → R.threads.length ≤ j →
            S.store.now < row.expiresAt → answer = answerOf row request := by
  refine ⟨fun hrun i j reservation other hi hj => live_once hrun rfl hi hj, ?_⟩
  intro Q trace l R result hrun hstep hcompletes
  obtain ⟨row, hrow, hcompleted, hresult⟩ := completed_of_completes hstep hcompletes
  refine ⟨row, hrow, hcompleted, hresult, fun {S trace' l' T} hrun' hstep' => ⟨?_, ?_⟩⟩
  · intro hspared
    have hkept : S.store.db.keys.get? identity = some row := by
      rcases kept_of_run hrun' hrow hcompleted with hkept | ⟨l, hl, hpurges⟩
      · exact hkept
      · exact absurd hpurges (hspared l hl)
    exact ⟨hkept, completes_of_completed hkept hcompleted⟩
  · intro j request answer f hl' hentry hidentity hj hfresh
    subst hidentity hl'
    have hmiss := cacheMisses_of_completes hcompletes
    have hwhole := (hrun.snoc hmiss hstep).append hrun'
    have hspared : ∀ l ∈ trace', ¬ purges row l := fun l hl =>
      not_purges_of_run hwhole rfl hfresh (List.mem_append_right _ hl)
    have hlength : (entries (trace ++ [l])).length = R.threads.length := by
      rw [(hrun.snoc hmiss hstep).length_threads]
      simp [emptyLedger]
    rw [entries_append] at hentry
    exact answer_of_completed (hrun'.restrict hspared) hrow hcompleted hlength hj hentry hstep'

end Completion

section Reached

instance (l : Label (idempotencySystem config)) : Decidable (cacheMisses l) := by
  unfold cacheMisses
  split <;> infer_instance

instance (Q : Pool (idempotencySystem config)) (l : Label (idempotencySystem config)) :
    Decidable (purgeSpares identity Q l) := by
  unfold purgeSpares
  split <;> infer_instance

instance (claimToken : String) (l : Label (idempotencySystem config)) :
    Decidable (settles claimToken l) := by
  unfold settles
  split <;> infer_instance

instance (reservation : IdempotencyReservation)
    (call : Call IdempotencyStatement.interface.world) :
    Decidable (answers identity reservation call) := by
  unfold answers
  split <;> infer_instance

instance (claimToken : String) (claimedAt : Nat)
    (call : Call IdempotencyStatement.interface.world) :
    Decidable (claimsWith identity claimToken claimedAt call) := by
  unfold claimsWith
  split <;> infer_instance

/-- The answer a program is about to give. -/
def responding : IdempotencyProgram Unit → Option IdempotencyReserveResult
  | .ask (.statement (.respond _ answer)) _ => some answer
  | _ => none

/-- A statement answered with Redis down, a new row under this identifier. -/
def uncached (thread : Nat) (id : String) : Move (idempotencySystem demo) :=
  .serve thread (.statement ⟨none, id, false⟩)

/-- A reserve up to the row it finds. -/
def finding (thread now : Nat) (request : IdempotencyReserveRequest) (claimToken : String) :
    List (Move (idempotencySystem demo)) :=
  [.start (.reserve request), .serve thread (.clock now), uncached thread "",
    .serve thread (.randomUUID claimToken), .serve thread (.clock now), uncached thread "",
    uncached thread ""]

/-- Its claim expires before its lease. -/
def shortLived : IdempotencyReserveRequest := { payment with ttlMs := some 10 }

/-- The reservation of the caller that comes after the purge. -/
def secondReservation : IdempotencyReservation := ⟨payment.toIdempotencyIdentity, "r2", "v", 1⟩

/-- Both reservations are given, neither is settled, and the first lease still runs. -/
def BothGiven (trace : List (Label (idempotencySystem demo))) (Q : Pool (idempotencySystem demo)) :
    Prop :=
  ((∃ call ∈ calls 0 trace, answers payment.toIdempotencyIdentity reservation call) ∧
      ∃ call ∈ calls 0 trace, claimsWith payment.toIdempotencyIdentity "u" 5 call) ∧
    ((∃ call ∈ calls 2 trace, answers payment.toIdempotencyIdentity secondReservation call) ∧
      ∃ call ∈ calls 2 trace, claimsWith payment.toIdempotencyIdentity "v" 25 call) ∧
    (∀ l ∈ trace, ¬ settles "u" l ∧ ¬ settles "v" l) ∧ Q.store.now ≤ 5 + 100

instance (trace : List (Label (idempotencySystem demo))) (Q : Pool (idempotencySystem demo)) :
    Decidable (BothGiven trace Q) := by
  unfold BothGiven
  infer_instance

/-- Completed, then asked for with another payload before the expiry: the caller is refused. Asked
for after the expiry and before a purge, it is replayed; and a purge makes room for a second live
reservation. -/
theorem ledger_is_not_exactly_once :
    (∃ (Q R : Pool (idempotencySystem demo)) (trace trace' : List (Label (idempotencySystem demo))),
      Run (fun _ => cacheMisses) (emptyLedger demo 0) trace Q ∧ Run (fun _ => cacheMisses) Q trace' R ∧
        Q.threads.length = 2 ∧ (Q.store.db.keys.get? payment.toIdempotencyIdentity).any (fun row =>
          row.status = .completed && R.store.now < row.expiresAt) = true ∧
        R.threads[2]?.bind responding = some .keyMismatch) ∧
    (∃ (Q R : Pool (idempotencySystem demo)) (trace trace' : List (Label (idempotencySystem demo))),
      Run (fun _ => cacheMisses) (emptyLedger demo 0) trace Q ∧ Run (fun _ => cacheMisses) Q trace' R ∧
        Q.threads.length = 2 ∧ (R.store.db.keys.get? payment.toIdempotencyIdentity).any (fun row =>
          row.status = .completed && row.expiresAt ≤ R.store.now) = true ∧
        R.threads[2]?.bind responding = some (.replay (some "1"))) ∧
    ∃ (Q : Pool (idempotencySystem demo)) (trace : List (Label (idempotencySystem demo))),
      Run (fun _ => cacheMisses) (emptyLedger demo 0) trace Q ∧
        Live payment.toIdempotencyIdentity trace Q 0 reservation ∧
        Live payment.toIdempotencyIdentity trace Q 2 secondReservation := by
  refine ⟨?_, ?_, ?_⟩
  · have hplay : (((emptyLedger demo 0).play (fun _ => cacheMisses)
        (reserved 0 5 payment "r" "u" ++ completed 1 9 reservation (some "1"))).bind fun Q =>
        (Q.play (fun _ => cacheMisses) (finding 2 20 otherPayload "v")).map fun R =>
          decide (Q.threads.length = 2 ∧
            (Q.store.db.keys.get? payment.toIdempotencyIdentity).any (fun row =>
              row.status = .completed && R.store.now < row.expiresAt) = true ∧
            R.threads[2]?.bind responding = some .keyMismatch)) = some true := by
      decide
    exact Pool.play_reaches hplay
  · have hplay : (((emptyLedger demo 0).play (fun _ => cacheMisses)
        (reserved 0 5 payment "r" "u" ++ completed 1 9 reservation (some "1"))).bind fun Q =>
        (Q.play (fun _ => cacheMisses)
          (finding 2 2000 payment "v" ++
            ([.serve 2 (.clock 2000)] : List (Move (idempotencySystem demo))))).map fun R =>
          decide (Q.threads.length = 2 ∧
            (R.store.db.keys.get? payment.toIdempotencyIdentity).any (fun row =>
              row.status = .completed && row.expiresAt ≤ R.store.now) = true ∧
            R.threads[2]?.bind responding = some (.replay (some "1")))) = some true := by
      decide
    exact Pool.play_reaches hplay
  · have hplay : (((emptyLedger demo 0).record (fun _ => cacheMisses)
        (reserved 0 5 shortLived "r" "u" ++
          ([.start .purgeExpired, .serve 1 (.clock 20), uncached 1 ""] :
            List (Move (idempotencySystem demo))) ++
          reserved 2 25 payment "r2" "v")).map
        fun (r : List (Label (idempotencySystem demo)) × Pool (idempotencySystem demo)) =>
        decide (BothGiven r.1 r.2)) = some true := by
      decide
    have hreach : ∃ Q trace, Run (fun _ => cacheMisses) (emptyLedger demo 0) trace Q ∧
        BothGiven trace Q := Pool.record_reach hplay
    obtain ⟨Q, trace, hrun, ⟨hanswers, hclaims⟩, ⟨hanswers', hclaims'⟩, hunsettled, hnow⟩ := hreach
    refine ⟨Q, trace, hrun, ⟨hanswers, fun l hl => (hunsettled l hl).1, 5, hclaims, hnow⟩, ?_⟩
    refine ⟨hanswers', fun l hl => (hunsettled l hl).2, 25, hclaims', ?_⟩
    exact Nat.le_trans hnow (by decide)

/-- Completed, and asked for again with the same payload. -/
theorem ledger_is_exactly_once_replayed : ∃ (R : Pool (idempotencySystem demo))
    (row : IdempotencyRow),
    R.store.db.keys.get? payment.toIdempotencyIdentity = some row ∧ row.resultJson = some "1" := by
  have hplay : (((emptyLedger demo 0).play (fun _ => cacheMisses)
      (reserved 0 5 payment "r" "u" ++
        ([.start (.complete reservation (some (some "1"))), .serve 1 (.clock 9)] :
          List (Move (idempotencySystem demo))))).bind fun Q =>
      (Q.move (uncached 1 "")).bind fun r =>
        (r.2.play (fun _ => cacheMisses) (finding 2 20 payment "v" ++
          ([.serve 2 (.clock 20), uncached 2 ""] :
            List (Move (idempotencySystem demo))))).map fun S =>
          decide (completes payment.toIdempotencyIdentity Q r.1 = some (some "1") ∧
            S.threads[2]?.bind responding = some (.replay (some "1")))) = some true := by
    decide
  obtain ⟨Q, r, S, trace, trace', hrun, hstep, hrun', hcompletes, _⟩ := Pool.play_step_reach hplay
  obtain ⟨row, hrow, _, hresult, _⟩ :=
    (@ledger_is_exactly_once demo payment.toIdempotencyIdentity 0).2 hrun hstep hcompletes
  exact ⟨r.2, row, hrow, hresult⟩

end Reached

end DddBoilerplate.Idempotency
