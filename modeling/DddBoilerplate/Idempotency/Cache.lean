/- module: DddBoilerplate/Idempotency/Cache
   generality: I
   digest: Reserving with the result cache against reserving on the ledger alone. -/

import DddBoilerplate.Idempotency.Ledger

set_option autoImplicit false
set_option relaxedAutoImplicit false
set_option linter.all false

namespace DddBoilerplate.Idempotency

open Concurrency Store

/-- What one call meets besides the ledger and the cache, request by request: the readings of the
clock, its token, and what the statements leave open. -/
structure Surroundings where
  reading : Nat → Nat
  token : String
  choice : Nat → IdempotencyChoice

/-- A call alone, each request answered at once. -/
def serveAlone (σ : Surroundings) : (q : WorldRequest IdempotencyStatement.interface) →
    IdempotencyDb × Nat → q.Answer × (IdempotencyDb × Nat)
  | .clock, (db, n) => (σ.reading n, (db, n + 1))
  | .randomUUID, (db, n) => (σ.token, (db, n + 1))
  | .statement q, (db, n) =>
    ((q.perform (σ.choice n) db).1, ((q.perform (σ.choice n) db).2, n + 1))

section Alone

variable (σ : Surroundings) (config : IdempotencyConfig) (request : IdempotencyReserveRequest)

/-- What a reserve returns on this ledger with this cache. -/
def reserveAlone (db : IdempotencyDb) : Except String IdempotencyReserveResult :=
  ((reserve config request).runAlone (serveAlone σ) (db, 0)).1

/-- The key of a request is cached, as its lookup finds it. -/
def hit (db : IdempotencyDb) : Option ResultJson :=
  db.cached (σ.choice 1).redis (config.buildKey request.toIdempotencyIdentity)

end Alone

section Agreement

variable {σ : Surroundings} {config : IdempotencyConfig} {request : IdempotencyReserveRequest}
variable {db : IdempotencyDb} {value : ResultJson}

/-- Every request but the lookup in the cache. -/
def asksLedger : WorldRequest IdempotencyStatement.interface → Prop
  | .statement (.cacheGet _) => False
  | _ => True

theorem missed_asks {now : Nat} :
    Guarded asksLedger (fun _ _ => True) (missed config request now) := by
  refine ⟨trivial, fun claimToken _ => ⟨trivial, fun claimedAt _ => ⟨trivial, fun answer _ => ?_⟩⟩⟩
  cases (answer : Option IdempotencyRow) with
  | some row => trivial
  | none =>
    refine ⟨trivial, fun existing _ => ?_⟩
    cases (existing : Option IdempotencyRow) with
    | none =>
      refine ⟨trivial, fun claimedAt _ => ⟨trivial, fun answer _ => ?_⟩⟩
      cases (answer : Option IdempotencyRow) with
      | some row => trivial
      | none => trivial
    | some existing =>
      show Ensures _ _ _ (inspect config request claimToken now _ existing)
      unfold inspect
      split
      · trivial
      · split
        · refine ⟨trivial, fun reading _ => ?_⟩
          show Ensures _ _ _ (ite _ _ _)
          split
          · exact ⟨trivial, fun _ _ => trivial⟩
          · trivial
        · refine ⟨trivial, fun claimedAt _ => ⟨trivial, fun count _ => ?_⟩⟩
          show Ensures _ _ _ (ite _ _ _ >>= _)
          split
          · trivial
          · refine ⟨trivial, fun taken _ => ?_⟩
            cases (taken : Option IdempotencyRow) with
            | some row => trivial
            | none => trivial

/-- After a miss the cache makes no difference. -/
theorem missed_agree {now n : Nat} {db' : IdempotencyDb} (hkeys : db'.keys = db.keys) :
    ((missed config request now).runAlone (serveAlone σ) (db', n)).1 =
      ((missed config request now).runAlone (serveAlone σ) (db, n)).1 := by
  have hserve : ∀ (q : WorldRequest IdempotencyStatement.interface) (s t : IdempotencyDb × Nat),
      (t.1.keys = s.1.keys ∧ t.2 = s.2) → asksLedger q →
        (serveAlone σ q t).1 = (serveAlone σ q s).1 ∧
          ((serveAlone σ q t).2.1.keys = (serveAlone σ q s).2.1.keys ∧
            (serveAlone σ q t).2.2 = (serveAlone σ q s).2.2) ∧ True := by
    rintro q ⟨⟨keys, cache⟩, n⟩ ⟨⟨_, cache'⟩, _⟩ ⟨rfl, rfl⟩ hasks
    cases q with
    | clock => exact ⟨rfl, ⟨rfl, rfl⟩, trivial⟩
    | randomUUID => exact ⟨rfl, ⟨rfl, rfl⟩, trivial⟩
    | statement q =>
      cases q with
      | cacheGet key => exact hasks.elim
      | cacheSet key value ttlMs =>
        refine ⟨rfl, ⟨?_, rfl⟩, trivial⟩
        simp only [serveAlone, IdempotencyStatement.perform]
        split <;> rfl
      | cacheDelete key =>
        refine ⟨rfl, ⟨?_, rfl⟩, trivial⟩
        simp only [serveAlone, IdempotencyStatement.perform]
        split <;> rfl
      | create identity claimToken expiresAt requestHash claimedAt =>
        simp only [serveAlone, IdempotencyStatement.perform]
        split <;> simp
      | findByIdentity identity => exact ⟨rfl, ⟨rfl, rfl⟩, trivial⟩
      | takeOver identity claimToken now claimLeaseMs expiresAt claimedAt =>
        exact ⟨rfl, ⟨rfl, rfl⟩, trivial⟩
      | findById id => exact ⟨rfl, ⟨rfl, rfl⟩, trivial⟩
      | complete reservation result completedAt => exact ⟨rfl, ⟨rfl, rfl⟩, trivial⟩
      | deleteClaim reservation => exact ⟨rfl, ⟨rfl, rfl⟩, trivial⟩
      | purgeExpired now => exact ⟨rfl, ⟨rfl, rfl⟩, trivial⟩
      | respond identity result => exact ⟨rfl, ⟨rfl, rfl⟩, trivial⟩
  exact missed_asks.runAlone_agree hserve ⟨hkeys, rfl⟩

theorem reserveAlone_of_hit (h : hit σ config request db = some value) :
    reserveAlone σ config request db = .ok (.replay value) := by
  unfold reserveAlone
  rw [reserve_eq]
  simp only [Program.runAlone_ask]
  have hcached : (serveAlone σ (.statement (.cacheGet (config.buildKey
      request.toIdempotencyIdentity))) (db, 1)).1 = some value := h
  rw [show (serveAlone σ .clock (db, 0)).2 = (db, 1) from rfl, hcached]
  rfl

theorem reserveAlone_of_miss (h : hit σ config request db = none) :
    reserveAlone σ config request db =
      ((missed config request (σ.reading 0)).runAlone (serveAlone σ) (db, 2)).1 := by
  unfold reserveAlone
  rw [reserve_eq]
  simp only [Program.runAlone_ask]
  have hcached : (serveAlone σ (.statement (.cacheGet (config.buildKey
      request.toIdempotencyIdentity))) (db, 1)).1 = none := h
  rw [show (serveAlone σ .clock (db, 0)).2 = (db, 1) from rfl, hcached]
  rfl

/-- The row of the request's own identity replays this value. -/
def Replays (request : IdempotencyReserveRequest) (db : IdempotencyDb) (value : ResultJson) : Prop :=
  ∃ row, db.keys.get? request.toIdempotencyIdentity = some row ∧ row.status = .completed ∧
    hashesDiffer row.requestHash request.requestHash = false ∧ row.resultJson = value

theorem perform_create_taken {identity : IdempotencyIdentity} {claimToken : String}
    {expiresAt claimedAt : Nat} {requestHash : Option String} {choice : IdempotencyChoice}
    {row : IdempotencyRow} (hrow : db.keys.get? identity = some row) :
    IdempotencyStatement.perform (.create identity claimToken expiresAt requestHash claimedAt)
      choice db = (none, db) :=
  if_pos (by simp [hrow])

theorem perform_create_none {identity : IdempotencyIdentity} {claimToken : String}
    {expiresAt claimedAt : Nat} {requestHash : Option String} {choice : IdempotencyChoice}
    (h : (IdempotencyStatement.perform
      (.create identity claimToken expiresAt requestHash claimedAt) choice db).1 = none) :
    IdempotencyStatement.perform (.create identity claimToken expiresAt requestHash claimedAt)
      choice db = (none, db) := by
  simp only [IdempotencyStatement.perform] at h ⊢
  split at h
  · rename_i hrefused
    rw [if_pos hrefused]
  · cases h

/-- An insertion that is answered with a row acquires, and one that is refused the second time
throws. -/
theorem retried_never_replays {claimToken : String} {expiresAt : Nat} {s : IdempotencyDb × Nat} :
    ((insertClaim request.toIdempotencyIdentity claimToken expiresAt request.requestHash >>=
      retried request claimToken).runAlone (serveAlone σ) s).1 ≠ .ok (.replay value) := by
  show (Program.runAlone _ (retried request claimToken _) _).1 ≠ _
  generalize (serveAlone σ (.statement (.create _ _ _ _ _)) _).1 = answer
  intro h
  cases (answer : Option IdempotencyRow) with
  | some row => cases h
  | none => cases h

theorem contended_never_replays {claimToken : String} {now expiresAt : Nat}
    {s : IdempotencyDb × Nat} :
    ((takeoverExpiredClaim request.toIdempotencyIdentity claimToken now config.claimLeaseMs
      expiresAt >>= takenOver request claimToken).runAlone (serveAlone σ) s).1 ≠
        .ok (.replay value) := by
  have htaken : ∀ taken t, ((takenOver request claimToken taken).runAlone (serveAlone σ) t).1 ≠
      .ok (.replay value) := by
    intro taken t h
    cases taken with
    | some row => cases h
    | none => cases h
  rw [Program.runAlone_bind]
  split
  · exact htaken _ _
  · intro h
    cases h

theorem inspect_replays_iff {claimToken : String} {now expiresAt : Nat} {row : IdempotencyRow}
    {s : IdempotencyDb × Nat} :
    ((inspect config request claimToken now expiresAt row).runAlone (serveAlone σ) s).1 =
        .ok (.replay value) ↔
      row.status = .completed ∧ hashesDiffer row.requestHash request.requestHash = false ∧
        row.resultJson = value := by
  have hreplayed : ((replayed config request row).runAlone (serveAlone σ) s).1 =
      .ok (.replay row.resultJson) := by
    unfold replayed
    rw [Program.runAlone_ask]
    split <;> rfl
  unfold inspect
  cases hdiffer : hashesDiffer row.requestHash request.requestHash with
  | true =>
    constructor
    · intro h
      cases h
    · rintro ⟨_, hsame, _⟩
      cases hsame
  | false =>
    rw [if_neg Bool.false_ne_true]
    split
    · rename_i hstatus
      rw [hreplayed]
      constructor
      · intro h
        cases h
        exact ⟨hstatus, rfl, rfl⟩
      · rintro ⟨_, _, rfl⟩
        rfl
    · rename_i hstatus
      constructor
      · exact fun h => (contended_never_replays h).elim
      · rintro ⟨hcompleted, _⟩
        cases hstatus.symm.trans hcompleted

/-- The row is found, and looked into. -/
theorem inserted_replays_iff {claimToken : String} {now expiresAt n : Nat} :
    ((inserted config request claimToken now expiresAt none).runAlone (serveAlone σ) (db, n)).1 =
        .ok (.replay value) ↔
      Replays request db value := by
  have hfound : ∀ existing, db.keys.get? request.toIdempotencyIdentity = existing →
      (((inserted config request claimToken now expiresAt none).runAlone (serveAlone σ)
        (db, n)).1 = .ok (.replay value) ↔
          ∃ row, existing = some row ∧ row.status = .completed ∧
            hashesDiffer row.requestHash request.requestHash = false ∧ row.resultJson = value) := by
    intro existing hexisting
    have hanswer : (serveAlone σ (.statement (.findByIdentity request.toIdempotencyIdentity))
      (db, n)).1 = existing := hexisting
    unfold inserted
    rw [Program.runAlone_ask, hanswer]
    cases existing with
    | none =>
      constructor
      · exact fun h => (retried_never_replays h).elim
      · rintro ⟨row, hrow, _⟩
        cases hrow
    | some row =>
      constructor
      · exact fun h => ⟨row, rfl, inspect_replays_iff.mp h⟩
      · rintro ⟨_, hrow, hreplays⟩
        cases hrow
        exact inspect_replays_iff.mpr hreplays
  exact hfound _ rfl

/-- After a miss, only the request's own row is replayed. -/
theorem missed_replays_iff {now n : Nat} :
    ((missed config request now).runAlone (serveAlone σ) (db, n)).1 = .ok (.replay value) ↔
      Replays request db value := by
  let created := IdempotencyStatement.perform (.create request.toIdempotencyIdentity σ.token
    (now + request.ttlMs.getD config.ttlMs) request.requestHash (σ.reading (n + 1)))
      (σ.choice (n + 2)) db
  show ((inserted config request σ.token now _ created.1).runAlone (serveAlone σ)
    (created.2, n + 3)).1 = _ ↔ _
  cases hcreated : created.1 with
  | none =>
    have hsame : created = (none, db) := perform_create_none hcreated
    rw [hsame]
    exact inserted_replays_iff
  | some row =>
    constructor
    · intro h
      cases h
    · rintro ⟨existing, hrow, _⟩
      have htaken : created = (none, db) := perform_create_taken hrow
      rw [htaken] at hcreated
      cases hcreated

/-- With the cache a reserve answers as on the ledger alone exactly when its key is not cached, or
is cached with what the row of its own identity replays to it. -/
theorem reserve_agrees_with_ledger_iff :
    reserveAlone σ config request db = reserveAlone σ config request { db with cache := [] } ↔
      ∀ value, hit σ config request db = some value → Replays request db value := by
  have hempty : hit σ config request { db with cache := [] } = none := by
    unfold hit IdempotencyDb.cached
    cases (σ.choice 1).redis <;> rfl
  have hledger : ((missed config request (σ.reading 0)).runAlone (serveAlone σ)
      ({ db with cache := [] }, 2)).1 =
        ((missed config request (σ.reading 0)).runAlone (serveAlone σ) (db, 2)).1 :=
    missed_agree rfl
  rw [reserveAlone_of_miss hempty, hledger]
  cases hhit : hit σ config request db with
  | none =>
    rw [reserveAlone_of_miss hhit]
    constructor
    · intro _ value h
      cases h
    · intro _
      rfl
  | some value =>
    rw [reserveAlone_of_hit hhit]
    constructor
    · intro h value' hvalue
      cases hvalue
      exact missed_replays_iff.mp h.symm
    · intro h
      exact (missed_replays_iff.mpr (h value rfl)).symm

end Agreement

section Reached

/-- A ledger before its first call. -/
def emptyLedger (config : IdempotencyConfig) (now : Nat) : Pool (idempotencySystem config) :=
  ⟨⟨⟨Table.empty, []⟩, now, []⟩, []⟩

/-- A result is replayed for a second, and a claim is held for a tenth of it. -/
def demo : IdempotencyConfig := ⟨1000, 100, "idempotency"⟩

def payment : IdempotencyReserveRequest := ⟨⟨"t", "c", "pay", "order:7"⟩, some "a", none⟩

/-- The same key with another payload. -/
def otherPayload : IdempotencyReserveRequest := { payment with requestHash := some "b" }

/-- Another identity, whose parts join to the same key. -/
def otherIdentity : IdempotencyReserveRequest := ⟨⟨"t", "c", "pay:order", "7"⟩, some "a", none⟩

def reservation : IdempotencyReservation := ⟨payment.toIdempotencyIdentity, "r", "u", 1⟩

/-- A statement answered at this time of Redis, a new row under this identifier. -/
def answered (thread now : Nat) (id : String) : Move (idempotencySystem demo) :=
  .serve thread (.statement ⟨some now, id, false⟩)

/-- A reserve that inserts its claim. -/
def reserved (thread now : Nat) (request : IdempotencyReserveRequest) (id claimToken : String) :
    List (Move (idempotencySystem demo)) :=
  [.start (.reserve request), .serve thread (.clock now), answered thread now id,
    .serve thread (.randomUUID claimToken), .serve thread (.clock now), answered thread now id,
    answered thread now id]

def completed (thread now : Nat) (reservation : IdempotencyReservation) (result : ResultJson) :
    List (Move (idempotencySystem demo)) :=
  [.start (.complete reservation (some result)), .serve thread (.clock now),
    answered thread now "", answered thread now "", .serve thread (.clock now),
    answered thread now ""]

def later : Surroundings := ⟨fun _ => 20, "v", fun _ => ⟨some 20, "r2", false⟩⟩

/-- Completed and cached: another payload and another identity are both answered with the cached
result, where the ledger alone refuses the one and acquires the other. -/
theorem hit_answers_for_others : ∃ (Q : Pool (idempotencySystem demo))
    (trace : List (Label (idempotencySystem demo))),
    Run (fun _ _ => True) (emptyLedger demo 0) trace Q ∧
      reserveAlone later demo otherPayload Q.store.db = .ok (.replay (some "1")) ∧
      reserveAlone later demo otherPayload { Q.store.db with cache := [] } = .ok .keyMismatch ∧
      reserveAlone later demo otherIdentity Q.store.db = .ok (.replay (some "1")) ∧
      reserveAlone later demo otherIdentity { Q.store.db with cache := [] } =
        .ok (.acquired ⟨otherIdentity.toIdempotencyIdentity, "r2", "v", 1⟩) := by
  have hplay : ((((emptyLedger demo 0).play (fun _ _ => True)
      (reserved 0 5 payment "r" "u" ++ completed 1 9 reservation (some "1"))).map fun Q =>
      decide (reserveAlone later demo otherPayload Q.store.db = .ok (.replay (some "1")) ∧
        reserveAlone later demo otherPayload { Q.store.db with cache := [] } = .ok .keyMismatch ∧
        reserveAlone later demo otherIdentity Q.store.db = .ok (.replay (some "1")) ∧
        reserveAlone later demo otherIdentity { Q.store.db with cache := [] } =
          .ok (.acquired ⟨otherIdentity.toIdempotencyIdentity, "r2", "v", 1⟩))) = some true) := by
    decide
  exact Pool.play_reach hplay

end Reached

end DddBoilerplate.Idempotency
