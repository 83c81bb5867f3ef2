/- module: DddBoilerplate/Locking/Redis
   generality: I
   digest: The distributed lock: its Redis commands, its three use cases, and the system of its clients. -/

import DddBoilerplate.Concurrency.World
import DddBoilerplate.Store.Table

set_option autoImplicit false
set_option relaxedAutoImplicit false
set_option linter.all false

namespace DddBoilerplate.Locking

open Concurrency Store

/-- The owner of a lock is text, and a fencing counter is a number. -/
inductive RedisValue where
  | text (value : String)
  | counter (value : Nat)
  deriving DecidableEq

/-- A value under a key; one without an expiry stays. -/
structure RedisEntry where
  key : String
  value : RedisValue
  expiresAt : Option Nat
  deriving DecidableEq

/-- The keyspace, and the time of the last command. -/
structure Redis where
  entries : Table RedisEntry.key
  now : Nat

/-- An entry has not expired. -/
def RedisEntry.liveAt (entry : RedisEntry) (now : Nat) : Bool := entry.expiresAt.all (now ≤ ·)

/-- `GET` -/
def Redis.get? (redis : Redis) (key : String) : Option RedisEntry :=
  (redis.entries.get? key).filter (·.liveAt redis.now)

def Redis.put (redis : Redis) (entry : RedisEntry) : Redis :=
  { redis with entries := redis.entries.upsert entry }

def Redis.del (redis : Redis) (key : String) : Redis :=
  { redis with entries := redis.entries.filter (·.key ≠ key) }

structure DistributedLockTicket where
  lockId : String
  lockKey : String
  ownerToken : String
  fencingToken : Nat
  acquiredAt : Nat
  expiresAt : Nat
  deriving DecidableEq

inductive DistributedLockAcquireResult where
  | acquired (ticket : DistributedLockTicket)
  | busy (retryAfterMs : Nat)
  deriving DecidableEq

inductive DistributedLockRenewResult where
  | renewed (ticket : DistributedLockTicket)
  | lost
  deriving DecidableEq

/-- The commands and scripts of the adapter, each atomic, and the moment a caller has its result. -/
inductive LockCommand where
  | setNx (key value : String) (leaseMs : Nat)
  | pexpireIfOwner (key value : String) (leaseMs : Nat)
  | delIfOwner (key value : String)
  | incr (key : String)
  | answerAcquire (result : DistributedLockAcquireResult)
  | answerRenew (result : DistributedLockRenewResult)

@[reducible] def LockCommand.Answer : LockCommand → Type
  | setNx _ _ _ => Bool
  | pexpireIfOwner _ _ _ => Bool
  | delIfOwner _ _ => Bool
  | incr _ => Nat
  | answerAcquire _ => Unit
  | answerRenew _ => Unit

abbrev LockCommand.interface : Interface := ⟨LockCommand, LockCommand.Answer⟩

section Commands

variable (redis : Redis)

/-- `SET key value PX leaseMs NX` -/
def Redis.setNx (key value : String) (leaseMs : Nat) : Bool × Redis :=
  match redis.get? key with
  | some _ => (false, redis)
  | none => (true, redis.put ⟨key, .text value, some (redis.now + leaseMs)⟩)

/-- The script of `renew`; an expiry that is not in the future deletes the key. -/
def Redis.pexpireIfOwner (key value : String) (leaseMs : Nat) : Bool × Redis :=
  match redis.get? key with
  | some entry =>
    if entry.value = .text value then
      (true, if leaseMs = 0 then redis.del key
        else redis.put { entry with expiresAt := some (redis.now + leaseMs) })
    else (false, redis)
  | none => (false, redis)

/-- The script of `release`. -/
def Redis.delIfOwner (key value : String) : Bool × Redis :=
  match redis.get? key with
  | some entry => if entry.value = .text value then (true, redis.del key) else (false, redis)
  | none => (false, redis)

/-- `INCR`, an error on text. -/
def Redis.incr (key : String) : Option (Nat × Redis) :=
  match redis.get? key with
  | none => some (1, redis.put ⟨key, .counter 1, none⟩)
  | some ⟨_, .counter value, expiresAt⟩ =>
    some (value + 1, redis.put ⟨key, .counter (value + 1), expiresAt⟩)
  | some ⟨_, .text _, _⟩ => none

end Commands

/-- A command reaches Redis at a time no earlier than the last one; with Redis unavailable the
scripts fail closed and there is no fencing token. -/
def LockCommand.perform : (q : LockCommand) → Option Nat → Redis → Option (q.Answer × Redis)
  | answerAcquire _, _, redis => some ((), redis)
  | answerRenew _, _, redis => some ((), redis)
  | setNx _ _ _, none, redis => some (false, redis)
  | pexpireIfOwner _ _ _, none, redis => some (false, redis)
  | delIfOwner _ _, none, redis => some (false, redis)
  | incr _, none, _ => none
  | setNx key value leaseMs, some now, redis =>
    if redis.now ≤ now ∧ 0 < leaseMs then some ({ redis with now }.setNx key value leaseMs)
    else none
  | pexpireIfOwner key value leaseMs, some now, redis =>
    if redis.now ≤ now then some ({ redis with now }.pexpireIfOwner key value leaseMs) else none
  | delIfOwner key value, some now, redis =>
    if redis.now ≤ now then some ({ redis with now }.delIfOwner key value) else none
  | incr key, some now, redis => if redis.now ≤ now then { redis with now }.incr key else none

structure LockingConfig where
  defaultLeaseMs : Nat
  minLeaseMs : Nat
  maxLeaseMs : Nat

structure DistributedLockIdentity where
  tenantId : String
  companyId : String
  scope : String
  resource : String
  deriving DecidableEq

structure DistributedLockAcquireRequest extends DistributedLockIdentity where
  leaseMs : Option Nat

structure DistributedLockRenewRequest where
  ticket : DistributedLockTicket
  leaseMs : Option Nat

/-- `LockKeyBuilder.build` -/
def DistributedLockIdentity.build (identity : DistributedLockIdentity) : String :=
  ":".intercalate [identity.tenantId, identity.companyId, identity.scope, identity.resource]

abbrev LockProgram := Program LockCommand.interface.world

def clock : LockProgram Nat := .ask .clock .done

def randomUUID : LockProgram String := .ask .randomUUID .done

def command (q : LockCommand) : LockProgram q.Answer := .ask (.statement q) .done

section Adapter

def keyPrefix : String := "lock:"

def fencePrefix : String := "lock:fence:"

def redisAcquire (key value : String) (leaseMs : Nat) : LockProgram Bool :=
  command (.setNx (keyPrefix ++ key) value leaseMs)

def redisRenew (key value : String) (leaseMs : Nat) : LockProgram Bool :=
  command (.pexpireIfOwner (keyPrefix ++ key) value leaseMs)

def redisRelease (key value : String) : LockProgram Bool :=
  command (.delIfOwner (keyPrefix ++ key) value)

def nextFencingToken (key : String) : LockProgram Nat := command (.incr (fencePrefix ++ key))

end Adapter

section UseCases

variable (config : LockingConfig)

def LockingConfig.clamp (leaseMs : Option Nat) : Nat :=
  min (max (leaseMs.getD config.defaultLeaseMs) config.minLeaseMs) config.maxLeaseMs

/-- `AcquireDistributedLockUseCase.execute` -/
def acquire (request : DistributedLockAcquireRequest) :
    LockProgram DistributedLockAcquireResult := do
  let leaseMs := config.clamp request.leaseMs
  let lockKey := request.toDistributedLockIdentity.build
  let ownerToken ← randomUUID
  let acquired ← redisAcquire lockKey ownerToken leaseMs
  if !acquired then return .busy leaseMs
  else
    let fencingToken ← nextFencingToken lockKey
    let now ← clock
    let lockId ← randomUUID
    return .acquired
      { lockId, lockKey, ownerToken, fencingToken, acquiredAt := now, expiresAt := now + leaseMs }

/-- `RenewDistributedLockUseCase.execute` -/
def renew (request : DistributedLockRenewRequest) : LockProgram DistributedLockRenewResult := do
  let leaseMs := config.clamp request.leaseMs
  let renewed ← redisRenew request.ticket.lockKey request.ticket.ownerToken leaseMs
  if !renewed then return .lost
  else
    let now ← clock
    return .renewed { request.ticket with expiresAt := now + leaseMs }

/-- `ReleaseDistributedLockUseCase.execute` -/
def release (ticket : DistributedLockTicket) : LockProgram Unit := do
  let _released ← redisRelease ticket.lockKey ticket.ownerToken

end UseCases

inductive LockEntry where
  | acquire (request : DistributedLockAcquireRequest)
  | renew (request : DistributedLockRenewRequest)
  | release (ticket : DistributedLockTicket)

def LockEntry.program (config : LockingConfig) : LockEntry → LockProgram Unit
  | acquire request => do
    let result ← Locking.acquire config request
    command (.answerAcquire result)
  | renew request => do
    let result ← Locking.renew config request
    command (.answerRenew result)
  | release ticket => Locking.release ticket

/-- One Redis and any number of clients; one that is not served again has died or pauses. -/
abbrev lockSystem (config : LockingConfig) : System :=
  worldSystem LockCommand.perform (LockEntry.program config)

/-- A keyspace before its first command. -/
def emptyRedis (config : LockingConfig) (now : Nat) : Pool (lockSystem config) :=
  ⟨⟨⟨Table.empty, now⟩, now, []⟩, []⟩

end DddBoilerplate.Locking
