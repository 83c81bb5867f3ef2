/- module: DddBoilerplate/Idempotency/Ledger
   generality: I
   digest: The idempotency ledger and its result cache: rows, statements, and the calls of the port. -/

import DddBoilerplate.Concurrency.World
import DddBoilerplate.Store.Table

set_option autoImplicit false
set_option relaxedAutoImplicit false
set_option linter.all false

namespace DddBoilerplate.Idempotency

open Concurrency Store

inductive IdempotencyStatus where
  | inProgress | completed
  deriving DecidableEq

structure IdempotencyIdentity where
  tenantId : String
  companyId : String
  scope : String
  key : String
  deriving DecidableEq

/-- A result as JSON text, where `none` is null. -/
abbrev ResultJson := Option String

/-- A row of `idempotency_keys`; a date is a number of milliseconds. -/
structure IdempotencyRow where
  id : String
  identity : IdempotencyIdentity
  requestHash : Option String
  status : IdempotencyStatus
  claimToken : String
  version : Nat
  resultJson : ResultJson
  claimedAt : Option Nat
  completedAt : Option Nat
  expiresAt : Nat
  deriving DecidableEq

structure IdempotencyReserveRequest extends IdempotencyIdentity where
  requestHash : Option String
  ttlMs : Option Nat

structure IdempotencyReservation extends IdempotencyIdentity where
  id : String
  claimToken : String
  version : Nat
  deriving DecidableEq

inductive IdempotencyReserveResult where
  | acquired (reservation : IdempotencyReservation)
  | replay (result : ResultJson)
  | busy
  | keyMismatch
  deriving DecidableEq

structure IdempotencyConfig where
  ttlMs : Nat
  claimLeaseMs : Nat
  redisPrefix : String

/-- A value under a key of Redis until it expires; a value of `none` is one `JSON.parse` refuses. -/
structure CacheEntry where
  key : String
  value : Option ResultJson
  expiresAt : Nat
  deriving DecidableEq

/-- The unique index is on the identity. -/
structure IdempotencyDb where
  keys : Table IdempotencyRow.identity
  cache : List CacheEntry

/-- What the statements leave open: the time of Redis, which may be down, the identifier of a new
row, and whether an insertion is refused for another reason than its row. -/
structure IdempotencyChoice where
  redis : Option Nat
  id : String
  refused : Bool

/-- The statements of the repository and of the cache adapter, each atomic, and the moment a
caller of `reserve` has its result. -/
inductive IdempotencyStatement where
  | cacheGet (key : String)
  | cacheSet (key : String) (value : Option ResultJson) (ttlMs : Nat)
  | cacheDelete (key : String)
  | create (identity : IdempotencyIdentity) (claimToken : String) (expiresAt : Nat)
      (requestHash : Option String) (claimedAt : Nat)
  | findByIdentity (identity : IdempotencyIdentity)
  | takeOver (identity : IdempotencyIdentity) (claimToken : String)
      (now claimLeaseMs expiresAt claimedAt : Nat)
  | findById (id : String)
  | complete (reservation : IdempotencyReservation) (result : ResultJson) (completedAt : Nat)
  | deleteClaim (reservation : IdempotencyReservation)
  | purgeExpired (now : Nat)
  | respond (identity : IdempotencyIdentity) (result : IdempotencyReserveResult)

@[reducible] def IdempotencyStatement.Answer : IdempotencyStatement → Type
  | cacheGet _ => Option ResultJson
  | cacheSet _ _ _ => Unit
  | cacheDelete _ => Unit
  | create _ _ _ _ _ => Option IdempotencyRow
  | findByIdentity _ => Option IdempotencyRow
  | takeOver _ _ _ _ _ _ => Nat
  | findById _ => Option IdempotencyRow
  | complete _ _ _ => Nat
  | deleteClaim _ => Nat
  | purgeExpired _ => Nat
  | respond _ _ => Unit

abbrev IdempotencyStatement.interface : Interface :=
  ⟨IdempotencyStatement, IdempotencyStatement.Answer⟩

/-- The widths of the columns. -/
def IdempotencyIdentity.fits (identity : IdempotencyIdentity) (requestHash : Option String) : Bool :=
  identity.tenantId.length ≤ 100 && identity.companyId.length ≤ 100 &&
    identity.scope.length ≤ 200 && identity.key.length ≤ 500 &&
    requestHash.all fun hash => hash.length ≤ 128

namespace IdempotencyRow

/-- The row an insertion claims. -/
def claimed (id : String) (identity : IdempotencyIdentity) (claimToken : String) (expiresAt : Nat)
    (requestHash : Option String) (claimedAt : Nat) : IdempotencyRow where
  id := id
  identity := identity
  requestHash := requestHash
  status := .inProgress
  claimToken := claimToken
  version := 1
  resultJson := none
  claimedAt := some claimedAt
  completedAt := none
  expiresAt := expiresAt

/-- `status = 'IN_PROGRESS' AND claimed_at < cutoff` -/
def lapsed (identity : IdempotencyIdentity) (now claimLeaseMs : Nat) (row : IdempotencyRow) : Bool :=
  row.identity = identity && row.status = .inProgress &&
    row.claimedAt.any fun claimedAt => claimedAt + claimLeaseMs < now

/-- The rows a reservation still owns. -/
def ownedBy (row : IdempotencyRow) (reservation : IdempotencyReservation) : Bool :=
  row.id = reservation.id && row.claimToken = reservation.claimToken &&
    row.version = reservation.version && row.status = .inProgress

def takeOver (row : IdempotencyRow) (claimToken : String) (expiresAt claimedAt : Nat) :
    IdempotencyRow :=
  { row with
    claimToken := claimToken
    resultJson := none
    expiresAt := expiresAt
    claimedAt := some claimedAt
    version := row.version + 1 }

def complete (row : IdempotencyRow) (result : ResultJson) (completedAt : Nat) : IdempotencyRow :=
  { row with
    status := .completed
    resultJson := result
    completedAt := some completedAt
    version := row.version + 1 }

theorem takeOver_identity (row : IdempotencyRow) (claimToken : String) (expiresAt claimedAt : Nat) :
    (row.takeOver claimToken expiresAt claimedAt).identity = row.identity := rfl

theorem complete_identity (row : IdempotencyRow) (result : ResultJson) (completedAt : Nat) :
    (row.complete result completedAt).identity = row.identity := rfl

end IdempotencyRow

/-- A hit is an entry that has not expired and that parses; with Redis down there is none. -/
def IdempotencyDb.cached (db : IdempotencyDb) (redis : Option Nat) (key : String) :
    Option ResultJson :=
  redis.bind fun now =>
    (db.cache.find? fun entry => entry.key = key && now < entry.expiresAt).bind CacheEntry.value

def IdempotencyStatement.perform :
    (q : IdempotencyStatement) → IdempotencyChoice → IdempotencyDb → q.Answer × IdempotencyDb
  | cacheGet key, choice, db => (db.cached choice.redis key, db)
  | cacheSet key value ttlMs, choice, db =>
    match choice.redis with
    | some now =>
      ((), { db with cache := ⟨key, value, now + ttlMs⟩ :: db.cache.filter (·.key ≠ key) })
    | none => ((), db)
  | cacheDelete key, choice, db =>
    match choice.redis with
    | some _ => ((), { db with cache := db.cache.filter (·.key ≠ key) })
    | none => ((), db)
  | create identity claimToken expiresAt requestHash claimedAt, choice, db =>
    if choice.refused || !identity.fits requestHash || (db.keys.get? identity).isSome ||
        db.keys.rows.any (·.id = choice.id) then (none, db)
    else
      let row := IdempotencyRow.claimed choice.id identity claimToken expiresAt requestHash claimedAt
      (some row, { db with keys := db.keys.insert row })
  | findByIdentity identity, _, db => (db.keys.get? identity, db)
  | takeOver identity claimToken now claimLeaseMs expiresAt claimedAt, _, db =>
    let updated := db.keys.updateMany (·.lapsed identity now claimLeaseMs)
      (·.takeOver claimToken expiresAt claimedAt)
      fun row => row.takeOver_identity claimToken expiresAt claimedAt
    (updated.1, { db with keys := updated.2 })
  | findById id, _, db => (db.keys.rows.find? (·.id = id), db)
  | complete reservation result completedAt, _, db =>
    let updated := db.keys.updateMany (·.ownedBy reservation) (·.complete result completedAt)
      fun row => row.complete_identity result completedAt
    (updated.1, { db with keys := updated.2 })
  | deleteClaim reservation, _, db =>
    let deleted := db.keys.deleteMany (·.ownedBy reservation)
    (deleted.1, { db with keys := deleted.2 })
  | purgeExpired now, _, db =>
    let deleted := db.keys.deleteMany (·.expiresAt < now)
    (deleted.1, { db with keys := deleted.2 })
  | respond _ _, _, db => ((), db)

abbrev IdempotencyProgram := Program IdempotencyStatement.interface.world

def clock : IdempotencyProgram Nat := .ask .clock .done

def randomUUID : IdempotencyProgram String := .ask .randomUUID .done

def statement (q : IdempotencyStatement) : IdempotencyProgram q.Answer := .ask (.statement q) .done

def IdempotencyConfig.buildKey (config : IdempotencyConfig) (identity : IdempotencyIdentity) :
    String :=
  ":".intercalate
    [config.redisPrefix, identity.tenantId, identity.companyId, identity.scope, identity.key]

section Repository

/-- `insertClaim`: `none` is an insertion that threw. -/
def insertClaim (identity : IdempotencyIdentity) (claimToken : String) (expiresAt : Nat)
    (requestHash : Option String) : IdempotencyProgram (Option IdempotencyRow) := do
  let claimedAt ← clock
  statement (.create identity claimToken expiresAt requestHash claimedAt)

def takeoverExpiredClaim (identity : IdempotencyIdentity) (claimToken : String)
    (now claimLeaseMs expiresAt : Nat) : IdempotencyProgram (Option IdempotencyRow) := do
  let claimedAt ← clock
  let count : Nat ← statement (.takeOver identity claimToken now claimLeaseMs expiresAt claimedAt)
  if count = 0 then return none else statement (.findByIdentity identity)

/-- `completeCas`: the expiry of the row it completed. -/
def completeCas (reservation : IdempotencyReservation) (result : ResultJson) :
    IdempotencyProgram (Option Nat) := do
  let completedAt ← clock
  let count : Nat ← statement (.complete reservation result completedAt)
  if count = 0 then return none
  else
    let row : Option IdempotencyRow ← statement (.findById reservation.id)
    return row.map IdempotencyRow.expiresAt

end Repository

/-- Both hashes are given, and they differ. -/
def hashesDiffer (stored requested : Option String) : Bool :=
  stored.any fun stored => requested.any fun requested =>
    stored ≠ "" && requested ≠ "" && stored ≠ requested

def acquired (identity : IdempotencyIdentity) (claimToken : String) (row : IdempotencyRow) :
    IdempotencyReserveResult :=
  .acquired { toIdempotencyIdentity := identity, id := row.id, claimToken, version := row.version }

section UseCases

variable (config : IdempotencyConfig)

/-- `ReserveIdempotencyUseCase.execute` -/
def reserve (request : IdempotencyReserveRequest) :
    IdempotencyProgram IdempotencyReserveResult := do
  let now ← clock
  let expiresAt := now + request.ttlMs.getD config.ttlMs
  let identity := request.toIdempotencyIdentity
  let cacheKey := config.buildKey identity
  let cached : Option ResultJson ← statement (.cacheGet cacheKey)
  match cached with
  | some value => return .replay value
  | none =>
    let claimToken ← randomUUID
    let inserted ← insertClaim identity claimToken expiresAt request.requestHash
    match inserted with
    | some row => return acquired identity claimToken row
    | none =>
      let existing : Option IdempotencyRow ← statement (.findByIdentity identity)
      match existing with
      | none =>
        let inserted ← insertClaim identity claimToken expiresAt request.requestHash
        match inserted with
        | some row => return acquired identity claimToken row
        | none => .fail "insertion refused"
      | some existing =>
        if hashesDiffer existing.requestHash request.requestHash then return .keyMismatch
        else
          match existing.status with
          | .completed =>
            let reading ← clock
            if reading < existing.expiresAt then
              let _stored : Unit ← statement
                (.cacheSet cacheKey (some existing.resultJson) (existing.expiresAt - reading))
              return .replay existing.resultJson
            else return .replay existing.resultJson
          | .inProgress =>
            let taken ← takeoverExpiredClaim identity claimToken now config.claimLeaseMs expiresAt
            match taken with
            | some row => return acquired identity claimToken row
            | none => return .busy

/-- `CompleteIdempotencyUseCase.execute`: an undefined result is stored as null, and its text in
the cache does not parse. -/
def complete (reservation : IdempotencyReservation) (result : Option ResultJson) :
    IdempotencyProgram Unit := do
  let completed ← completeCas reservation (result.getD none)
  match completed with
  | none => return ()
  | some expiresAt =>
    let now ← clock
    if now < expiresAt then
      statement (.cacheSet (config.buildKey reservation.toIdempotencyIdentity) result
        (expiresAt - now))
    else return ()

/-- `FailIdempotencyUseCase.execute` -/
def fail (reservation : IdempotencyReservation) : IdempotencyProgram Unit := do
  let count : Nat ← statement (.deleteClaim reservation)
  if count = 0 then return ()
  else statement (.cacheDelete (config.buildKey reservation.toIdempotencyIdentity))

/-- `IdempotencyReconciliation.purgeExpired` -/
def purgeExpired : IdempotencyProgram Unit := do
  let now ← clock
  let _purged : Nat ← statement (.purgeExpired now)

end UseCases

section Phases

variable (config : IdempotencyConfig) (request : IdempotencyReserveRequest)

/-- What follows a completed row. -/
def replayed (existing : IdempotencyRow) : IdempotencyProgram IdempotencyReserveResult :=
  .ask .clock fun reading =>
    if reading < existing.expiresAt then
      .ask (.statement (.cacheSet (config.buildKey request.toIdempotencyIdentity)
        (some existing.resultJson) (existing.expiresAt - reading))) fun _ =>
          .done (.replay existing.resultJson)
    else .done (.replay existing.resultJson)

/-- What follows the row a takeover reads back. -/
def takenOver (claimToken : String) (taken : Option IdempotencyRow) :
    IdempotencyProgram IdempotencyReserveResult :=
  match taken with
  | some row => return acquired request.toIdempotencyIdentity claimToken row
  | none => return .busy

/-- What follows a row that is found. -/
def inspect (claimToken : String) (now expiresAt : Nat) (existing : IdempotencyRow) :
    IdempotencyProgram IdempotencyReserveResult :=
  if hashesDiffer existing.requestHash request.requestHash then return .keyMismatch
  else
    match existing.status with
    | .completed => replayed config request existing
    | .inProgress =>
      takeoverExpiredClaim request.toIdempotencyIdentity claimToken now config.claimLeaseMs
        expiresAt >>= takenOver request claimToken

/-- What follows the second insertion, after the row was gone. -/
def retried (claimToken : String) (inserted : Option IdempotencyRow) :
    IdempotencyProgram IdempotencyReserveResult :=
  match inserted with
  | some row => return acquired request.toIdempotencyIdentity claimToken row
  | none => .fail "insertion refused"

/-- What follows the first insertion. -/
def inserted (claimToken : String) (now expiresAt : Nat) (inserted : Option IdempotencyRow) :
    IdempotencyProgram IdempotencyReserveResult :=
  match inserted with
  | some row => return acquired request.toIdempotencyIdentity claimToken row
  | none =>
    .ask (.statement (.findByIdentity request.toIdempotencyIdentity)) fun existing =>
      match (existing : Option IdempotencyRow) with
      | none => insertClaim request.toIdempotencyIdentity claimToken expiresAt request.requestHash >>=
          retried request claimToken
      | some existing => inspect config request claimToken now expiresAt existing

/-- What follows a miss. -/
def missed (now : Nat) : IdempotencyProgram IdempotencyReserveResult :=
  .ask .randomUUID fun claimToken =>
    insertClaim request.toIdempotencyIdentity claimToken (now + request.ttlMs.getD config.ttlMs)
      request.requestHash >>=
        inserted config request claimToken now (now + request.ttlMs.getD config.ttlMs)

/-- What follows the lookup in the cache. -/
def lookedUp (now : Nat) (cached : Option ResultJson) :
    IdempotencyProgram IdempotencyReserveResult :=
  match cached with
  | some value => return .replay value
  | none => missed config request now

theorem reserve_eq : reserve config request =
    .ask .clock fun now =>
      .ask (.statement (.cacheGet (config.buildKey request.toIdempotencyIdentity)))
        (lookedUp config request now) := by
  show Program.ask _ _ = Program.ask _ _
  congr 1
  funext now
  show Program.ask _ _ = Program.ask _ _
  congr 1
  funext cached
  cases cached with
  | some value => rfl
  | none =>
    show Program.ask _ _ = Program.ask _ _
    congr 1
    funext claimToken
    show Program.ask _ _ = Program.ask _ _
    congr 1
    funext claimedAt
    show Program.ask _ _ = Program.ask _ _
    congr 1
    funext answer
    cases answer with
    | some row => rfl
    | none =>
      show Program.ask _ _ = Program.ask _ _
      congr 1
      funext existing
      cases existing with
      | some existing => rfl
      | none => rfl

end Phases

inductive IdempotencyEntry where
  | reserve (request : IdempotencyReserveRequest)
  | complete (reservation : IdempotencyReservation) (result : Option ResultJson)
  | fail (reservation : IdempotencyReservation)
  | purgeExpired

def IdempotencyEntry.program (config : IdempotencyConfig) :
    IdempotencyEntry → IdempotencyProgram Unit
  | reserve request => do
    let result ← Idempotency.reserve config request
    statement (.respond request.toIdempotencyIdentity result)
  | complete reservation result => Idempotency.complete config reservation result
  | fail reservation => Idempotency.fail config reservation
  | purgeExpired => Idempotency.purgeExpired

/-- One ledger with its cache, and any number of callers and purges over it. -/
abbrev idempotencySystem (config : IdempotencyConfig) : System :=
  worldSystem (fun q choice db => some (IdempotencyStatement.perform q choice db))
    (IdempotencyEntry.program config)

end DddBoilerplate.Idempotency
