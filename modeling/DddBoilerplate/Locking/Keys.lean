/- module: DddBoilerplate/Locking/Keys
   generality: I
   digest: Which identities have their locks and their fencing counters apart in Redis. -/

import DddBoilerplate.Domain.Joined
import DddBoilerplate.Locking.Fencing

set_option autoImplicit false
set_option relaxedAutoImplicit false
set_option linter.all false

namespace DddBoilerplate.Locking

open Joined Store

namespace DistributedLockIdentity

/-- The key of the lock in Redis. -/
def lockKey (identity : DistributedLockIdentity) : String := keyPrefix ++ identity.build

/-- The key of its fencing counter. -/
def fenceKey (identity : DistributedLockIdentity) : String := fencePrefix ++ identity.build

def parts (identity : DistributedLockIdentity) : List String :=
  [identity.tenantId, identity.companyId, identity.scope, identity.resource]

/-- What stands between the colons of the parts, one after the other. -/
def pieces (identity : DistributedLockIdentity) : List (List Char) :=
  identity.parts.flatMap (Joined.pieces ':')

/-- The one lock's keys and the other's are four keys. -/
def Separate (a b : DistributedLockIdentity) : Prop :=
  a.lockKey ≠ b.lockKey ∧ a.lockKey ≠ b.fenceKey ∧ a.fenceKey ≠ b.lockKey ∧
    a.fenceKey ≠ b.fenceKey

/-- No part of the identity has a colon. -/
def Plain (identity : DistributedLockIdentity) : Prop :=
  ∀ part ∈ identity.parts, ':' ∉ part.toList

variable {a b : DistributedLockIdentity}

theorem build_eq_joined : a.build = joined ':' a.parts := rfl

theorem pieces_build : Joined.pieces ':' a.build = a.pieces := by
  have hne : a.parts ≠ [] := List.cons_ne_nil _ _
  rw [build_eq_joined, pieces_joined hne]
  rfl

theorem build_inj_iff : a.build = b.build ↔ a.pieces = b.pieces := by
  rw [← pieces_build, ← pieces_build, pieces_inj]

/-- A fencing counter's key is the key of a lock whose pieces are these behind `fence`. -/
theorem build_eq_fence_iff : a.build = "fence:" ++ b.build ↔
    a.pieces = "fence".toList :: b.pieces := by
  have hfence : "fence:" ++ b.build = "fence" ++ String.singleton ':' ++ b.build := by
    have hword : "fence:" = "fence" ++ String.singleton ':' := by decide
    rw [hword]
  have hfree : ':' ∉ "fence".toList := by decide
  rw [← pieces_build, ← @pieces_inj ':', hfence, pieces_append, pieces_of_free hfree,
    pieces_build, pieces_build]
  rfl

theorem lockKey_inj_iff : a.lockKey = b.lockKey ↔ a.pieces = b.pieces := by
  rw [← build_inj_iff]
  exact String.append_right_inj keyPrefix

theorem fenceKey_inj_iff : a.fenceKey = b.fenceKey ↔ a.pieces = b.pieces := by
  rw [← build_inj_iff]
  exact String.append_right_inj fencePrefix

theorem lockKey_eq_fenceKey_iff : a.lockKey = b.fenceKey ↔
    a.pieces = "fence".toList :: b.pieces := by
  have hnested : b.fenceKey = keyPrefix ++ ("fence:" ++ b.build) := by
    have hprefix : fencePrefix = keyPrefix ++ "fence:" := by decide
    rw [fenceKey, hprefix, String.append_assoc]
  rw [← build_eq_fence_iff, hnested]
  exact String.append_right_inj keyPrefix

theorem separate_iff : Separate a b ↔ a.pieces ≠ b.pieces ∧
    a.pieces ≠ "fence".toList :: b.pieces ∧ b.pieces ≠ "fence".toList :: a.pieces := by
  unfold Separate
  rw [ne_comm (a := a.fenceKey) (b := b.lockKey), ne_eq, ne_eq, ne_eq, ne_eq, lockKey_inj_iff,
    fenceKey_inj_iff, lockKey_eq_fenceKey_iff, lockKey_eq_fenceKey_iff]
  tauto

/-- Identities without colons are apart as soon as they differ. -/
theorem separate_of_plain (ha : a.Plain) (hb : b.Plain) (hne : a ≠ b) : Separate a b := by
  rw [separate_iff]
  have hfence : ∀ c d : DistributedLockIdentity, c.Plain → d.Plain →
      c.pieces ≠ "fence".toList :: d.pieces := by
    intro c d hc hd hpieces
    have hfree : ∀ part ∈ "fence" :: d.parts, ':' ∉ part.toList := by
      intro part hpart
      rcases List.mem_cons.mp hpart with rfl | hpart
      · decide
      · exact hd part hpart
    have hparts : c.parts = "fence" :: d.parts := parts_of_pieces hpieces hc hfree
    have hlength := congrArg List.length hparts
    simp [parts] at hlength
  refine ⟨fun hpieces => hne ?_, hfence a b ha hb, hfence b a hb ha⟩
  have hparts : a.parts = b.parts := parts_of_pieces hpieces ha hb
  obtain ⟨tenantId, companyId, scope, resource⟩ := a
  obtain ⟨tenantId', companyId', scope', resource'⟩ := b
  simpa [parts] using hparts

end DistributedLockIdentity

section Outcomes

/-- The key a command is about. -/
def LockCommand.key? : LockCommand → Option String
  | setNx key _ _ | pexpireIfOwner key _ _ | delIfOwner key _ | incr key => some key
  | answerAcquire _ | answerRenew _ => none

/-- A command of an operation on this identity. -/
def DistributedLockIdentity.Has (identity : DistributedLockIdentity) : LockCommand → Prop
  | .setNx key _ _ | .pexpireIfOwner key _ _ | .delIfOwner key _ => key = identity.lockKey
  | .incr key => key = identity.fenceKey
  | .answerAcquire _ | .answerRenew _ => False

/-- Behind any command of the other identity, a command is answered as it would have been without
it, only later. -/
def DistributedLockIdentity.Undisturbed (a b : DistributedLockIdentity) : Prop :=
  ∀ (q q' : LockCommand), a.Has q → b.Has q' →
    ∀ (redis redis' : Redis) (choice choice' : Option Nat) (answer : q'.Answer),
      q'.perform choice' redis = some (answer, redis') →
        (q.perform choice redis').map Prod.fst =
          (q.perform choice { redis with now := redis'.now }).map Prod.fst

variable {redis redis' : Redis} {key key' value : String} {choice : Option Nat} {leaseMs : Nat}

theorem setNx_frame (hne : key' ≠ key) :
    (redis.setNx key' value leaseMs).2.entries.get? key = redis.entries.get? key := by
  unfold Redis.setNx
  split
  · rfl
  · rw [get?_put, if_neg hne]

theorem pexpireIfOwner_frame (hne : key' ≠ key) :
    (redis.pexpireIfOwner key' value leaseMs).2.entries.get? key = redis.entries.get? key := by
  unfold Redis.pexpireIfOwner
  split
  · rename_i found hfound
    have hsame : found.key = key' := by
      unfold Redis.get? at hfound
      exact Table.key_of_get? (Option.filter_eq_some_iff.mp hfound).1
    split
    · show (ite _ _ _ : Redis).entries.get? key = _
      split
      · exact get?_del hne
      · rw [get?_put, if_neg (hsame ▸ hne)]
    · rfl
  · rfl

theorem delIfOwner_frame (hne : key' ≠ key) :
    (redis.delIfOwner key' value).2.entries.get? key = redis.entries.get? key := by
  unfold Redis.delIfOwner
  split
  · split
    · exact get?_del hne
    · rfl
  · rfl

theorem incr_frame {n : Nat} (hne : key' ≠ key) (h : redis.incr key' = some (n, redis')) :
    redis'.entries.get? key = redis.entries.get? key := by
  unfold Redis.incr at h
  split at h
  · cases h
    rw [get?_put, if_neg hne]
  · cases h
    rw [get?_put, if_neg hne]
  · cases h

/-- A command leaves all keys but its own. -/
theorem perform_frame {q : LockCommand} {answer : q.Answer} (hkey : q.key? = some key')
    (hne : key' ≠ key) (h : q.perform choice redis = some (answer, redis')) :
    redis'.entries.get? key = redis.entries.get? key := by
  cases q with
  | answerAcquire result => cases hkey
  | answerRenew result => cases hkey
  | setNx key' value leaseMs =>
    cases hkey
    cases choice with
    | none =>
      cases h
      rfl
    | some now =>
      dsimp only [LockCommand.perform] at h
      split at h
      · obtain rfl : ({ redis with now }.setNx key' value leaseMs).2 = redis' :=
          congrArg Prod.snd (Option.some.inj h)
        exact setNx_frame hne
      · cases h
  | pexpireIfOwner key' value leaseMs =>
    cases hkey
    cases choice with
    | none =>
      cases h
      rfl
    | some now =>
      dsimp only [LockCommand.perform] at h
      split at h
      · obtain rfl : ({ redis with now }.pexpireIfOwner key' value leaseMs).2 = redis' :=
          congrArg Prod.snd (Option.some.inj h)
        exact pexpireIfOwner_frame hne
      · cases h
  | delIfOwner key' value =>
    cases hkey
    cases choice with
    | none =>
      cases h
      rfl
    | some now =>
      dsimp only [LockCommand.perform] at h
      split at h
      · obtain rfl : ({ redis with now }.delIfOwner key' value).2 = redis' :=
          congrArg Prod.snd (Option.some.inj h)
        exact delIfOwner_frame hne
      · cases h
  | incr key' =>
    cases hkey
    cases choice with
    | none => cases h
    | some now =>
      dsimp only [LockCommand.perform] at h
      split at h
      · have hframe := incr_frame hne h
        exact hframe
      · cases h

/-- What a command answers goes by the entry of its key and by the time. -/
theorem perform_congr {q : LockCommand} (hkey : q.key? = some key)
    (hentry : redis.entries.get? key = redis'.entries.get? key) (hnow : redis.now = redis'.now) :
    (q.perform choice redis).map Prod.fst = (q.perform choice redis').map Prod.fst := by
  have hget : ∀ now, ({ redis with now } : Redis).get? key = ({ redis' with now } : Redis).get? key :=
    fun now => by simp only [Redis.get?, hentry]
  cases q with
  | answerAcquire result => cases hkey
  | answerRenew result => cases hkey
  | setNx key value leaseMs =>
    cases hkey
    cases choice with
    | none => rfl
    | some now =>
      simp only [LockCommand.perform, hnow]
      split
      · simp only [Redis.setNx, hget now, Option.map_some]
        split <;> rfl
      · rfl
  | pexpireIfOwner key value leaseMs =>
    cases hkey
    cases choice with
    | none => rfl
    | some now =>
      simp only [LockCommand.perform, hnow]
      split
      · simp only [Redis.pexpireIfOwner, hget now, Option.map_some]
        split
        · split <;> rfl
        · rfl
      · rfl
  | delIfOwner key value =>
    cases hkey
    cases choice with
    | none => rfl
    | some now =>
      simp only [LockCommand.perform, hnow]
      split
      · simp only [Redis.delIfOwner, hget now, Option.map_some]
        split
        · split <;> rfl
        · rfl
      · rfl
  | incr key =>
    cases hkey
    cases choice with
    | none => rfl
    | some now =>
      simp only [LockCommand.perform, hnow]
      split
      · simp only [Redis.incr, hget now]
        split <;> rfl
      · rfl

namespace DistributedLockIdentity

variable {a b : DistributedLockIdentity}

theorem key_of_has {q : LockCommand} (h : a.Has q) :
    ∃ key, q.key? = some key ∧ (key = a.lockKey ∨ key = a.fenceKey) := by
  cases q with
  | setNx key value leaseMs => exact ⟨key, rfl, .inl h⟩
  | pexpireIfOwner key value leaseMs => exact ⟨key, rfl, .inl h⟩
  | delIfOwner key value => exact ⟨key, rfl, .inl h⟩
  | incr key => exact ⟨key, rfl, .inr h⟩
  | answerAcquire result => exact h.elim
  | answerRenew result => exact h.elim

/-- Operations on identities whose keys are apart do not meet. -/
theorem undisturbed_of_separate (h : Separate a b) : a.Undisturbed b := by
  intro q q' hq hq' redis redis' choice choice' answer hperform
  obtain ⟨key, hkey, hof⟩ := key_of_has hq
  obtain ⟨key', hkey', hof'⟩ := key_of_has hq'
  obtain ⟨hlock, hlockFence, hfenceLock, hfence⟩ := h
  have hne : key' ≠ key := by
    rcases hof with rfl | rfl
    · rcases hof' with rfl | rfl
      · exact hlock.symm
      · exact hlockFence.symm
    · rcases hof' with rfl | rfl
      · exact hfenceLock.symm
      · exact hfence.symm
  have hframe := perform_frame hkey' hne hperform
  exact perform_congr hkey hframe rfl

/-- Two identities have their locks and counters apart, and are operated on as if the other were
not there, just where they come to different pieces, also behind `fence`. -/
theorem apart_iff : Separate a b ∧ a.Undisturbed b ∧ b.Undisturbed a ↔
    a.pieces ≠ b.pieces ∧ a.pieces ≠ "fence".toList :: b.pieces ∧
      b.pieces ≠ "fence".toList :: a.pieces := by
  constructor
  · exact fun h => separate_iff.mp h.1
  · intro h
    obtain ⟨hpieces, hfence, hfence'⟩ := h
    have hseparate : Separate a b := separate_iff.mpr ⟨hpieces, hfence, hfence'⟩
    have hseparate' : Separate b a := separate_iff.mpr ⟨hpieces.symm, hfence', hfence⟩
    exact ⟨hseparate, undisturbed_of_separate hseparate, undisturbed_of_separate hseparate'⟩

/-- One lock is held for a warehouse of a shop, and for a shop of that name. -/
theorem shared_key : ¬ ∀ a b : DistributedLockIdentity, (∀ part ∈ a.parts, part ≠ "") →
    (∀ part ∈ b.parts, part ≠ "") → a ≠ b → Separate a b ∧ a.Undisturbed b ∧ b.Undisturbed a := by
  intro h
  have hshared := h ⟨"acme", "c1", "stock:eu", "7"⟩ ⟨"acme", "c1", "stock", "eu:7"⟩ (by decide)
    (by decide) (by decide)
  exact hshared.1.1 (by decide)

end DistributedLockIdentity

end Outcomes

end DddBoilerplate.Locking
