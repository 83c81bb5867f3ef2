/- module: DddBoilerplate/Locking/Fencing
   generality: I
   digest: One live lease of a lock, and the order of its fencing tokens. -/

import DddBoilerplate.Concurrency.History
import DddBoilerplate.Locking.Redis

set_option autoImplicit false
set_option relaxedAutoImplicit false
set_option linter.all false

namespace DddBoilerplate.Locking

open Concurrency Store

section Entries

variable {redis redis' : Redis} {key key' value : String} {entry : RedisEntry} {leaseMs : Nat}

theorem get?_of_live (h : redis.entries.get? key = some entry)
    (hlive : entry.liveAt redis.now = true) : redis.get? key = some entry := by
  unfold Redis.get?
  rw [h]
  simp [hlive]

theorem get?_put : (redis.put entry).entries.get? key =
    if entry.key = key then some entry else redis.entries.get? key := Table.get?_upsert

theorem get?_del (hne : key' ≠ key) :
    (redis.del key').entries.get? key = redis.entries.get? key := by
  refine Option.ext fun found => ?_
  unfold Redis.del
  rw [Table.get?_filter]
  constructor
  · exact fun h => h.1
  · intro h
    refine ⟨h, decide_eq_true ?_⟩
    rw [Table.key_of_get? h]
    exact hne.symm

/-- What a command may make of an entry that is live: its owner moves its expiry or deletes it,
and a counter counts. -/
inductive Alters (key : String) (entry : RedisEntry) :
    (q : LockCommand) → q.Answer → Option RedisEntry → Prop where
  | renewed (value : String) (leaseMs : Nat) (after : Option RedisEntry)
      (howner : entry.value = .text value) :
      Alters key entry (.pexpireIfOwner key value leaseMs) true after
  | released (value : String) (after : Option RedisEntry) (howner : entry.value = .text value) :
      Alters key entry (.delIfOwner key value) true after
  | counted (n : Nat) (hcounter : entry.value = .counter n) :
      Alters key entry (.incr key) (n + 1) (some { entry with value := .counter (n + 1) })

theorem setNx_live (hentry : redis.entries.get? key = some entry)
    (hlive : entry.liveAt redis.now = true) :
    (redis.setNx key' value leaseMs).2.entries.get? key = some entry := by
  unfold Redis.setNx
  cases hfound : redis.get? key' with
  | some found => exact hentry
  | none =>
    dsimp only
    rw [get?_put, if_neg]
    · exact hentry
    · rintro rfl
      rw [get?_of_live hentry hlive] at hfound
      cases hfound

theorem pexpireIfOwner_live (hentry : redis.entries.get? key = some entry)
    (hlive : entry.liveAt redis.now = true) :
    (redis.pexpireIfOwner key' value leaseMs).2.entries.get? key = some entry ∨
      Alters key entry (.pexpireIfOwner key' value leaseMs)
        (redis.pexpireIfOwner key' value leaseMs).1
        ((redis.pexpireIfOwner key' value leaseMs).2.entries.get? key) := by
  unfold Redis.pexpireIfOwner
  by_cases hkey : key' = key
  · subst hkey
    rw [get?_of_live hentry hlive]
    by_cases howner : entry.value = .text value
    · simp only [if_pos howner]
      exact .inr (.renewed value leaseMs _ howner)
    · simp only [if_neg howner]
      exact .inl hentry
  · left
    cases hfound : redis.get? key' with
    | none => exact hentry
    | some found =>
      have hsame : found.key = key' := by
        unfold Redis.get? at hfound
        exact Table.key_of_get? (Option.filter_eq_some_iff.mp hfound).1
      dsimp only
      split
      · show (ite _ _ _ : Redis).entries.get? key = _
        split
        · rw [get?_del hkey]
          exact hentry
        · rw [get?_put, if_neg]
          · exact hentry
          · rw [← hsame] at hkey
            exact hkey
      · exact hentry

theorem delIfOwner_live (hentry : redis.entries.get? key = some entry)
    (hlive : entry.liveAt redis.now = true) :
    (redis.delIfOwner key' value).2.entries.get? key = some entry ∨
      Alters key entry (.delIfOwner key' value) (redis.delIfOwner key' value).1
        ((redis.delIfOwner key' value).2.entries.get? key) := by
  unfold Redis.delIfOwner
  by_cases hkey : key' = key
  · subst hkey
    rw [get?_of_live hentry hlive]
    by_cases howner : entry.value = .text value
    · simp only [if_pos howner]
      exact .inr (.released value _ howner)
    · simp only [if_neg howner]
      exact .inl hentry
  · left
    cases redis.get? key' with
    | none => exact hentry
    | some found =>
      dsimp only
      split
      · rw [get?_del hkey]
        exact hentry
      · exact hentry

theorem incr_live {n : Nat} (hentry : redis.entries.get? key = some entry)
    (hlive : entry.liveAt redis.now = true) (h : redis.incr key' = some (n, redis')) :
    redis'.entries.get? key = some entry ∨
      Alters key entry (.incr key') n (redis'.entries.get? key) := by
  unfold Redis.incr at h
  by_cases hkey : key' = key
  · subst hkey
    rw [get?_of_live hentry hlive] at h
    obtain ⟨entryKey, entryValue, expiresAt⟩ := entry
    obtain rfl : entryKey = key' := Table.key_of_get? hentry
    cases entryValue with
    | text value => cases h
    | counter m =>
      cases h
      rw [get?_put, if_pos rfl]
      exact .inr (.counted m rfl)
  · left
    split at h
    · cases h
      rw [get?_put, if_neg hkey]
      exact hentry
    · rename_i found value expiresAt hfound
      cases h
      rw [get?_put, if_neg hkey]
      exact hentry
    · cases h

theorem now_setNx : (redis.setNx key value leaseMs).2.now = redis.now := by
  unfold Redis.setNx
  cases redis.get? key <;> rfl

theorem now_pexpireIfOwner : (redis.pexpireIfOwner key value leaseMs).2.now = redis.now := by
  unfold Redis.pexpireIfOwner
  cases redis.get? key with
  | none => rfl
  | some entry =>
    dsimp only
    split
    · show (ite _ _ _ : Redis).now = _
      split <;> rfl
    · rfl

theorem now_delIfOwner : (redis.delIfOwner key value).2.now = redis.now := by
  unfold Redis.delIfOwner
  cases redis.get? key with
  | none => rfl
  | some entry =>
    dsimp only
    split <;> rfl

theorem now_incr {n : Nat} (h : redis.incr key = some (n, redis')) : redis'.now = redis.now := by
  unfold Redis.incr at h
  split at h
  · cases h
    rfl
  · cases h
    rfl
  · cases h

/-- The time of Redis goes on, and an entry that is live at a command stays as it is but for its
owner and the counter. -/
theorem perform_live {q : LockCommand} {choice : Option Nat} {a : q.Answer}
    (h : q.perform choice redis = some (a, redis')) :
    redis.now ≤ redis'.now ∧
      ∀ entry, redis.entries.get? key = some entry → entry.liveAt redis'.now = true →
        redis'.entries.get? key = some entry ∨ Alters key entry q a (redis'.entries.get? key) := by
  cases q with
  | answerAcquire result =>
    cases h
    exact ⟨Nat.le_refl _, fun entry hentry _ => .inl hentry⟩
  | answerRenew result =>
    cases h
    exact ⟨Nat.le_refl _, fun entry hentry _ => .inl hentry⟩
  | setNx key' value leaseMs =>
    cases choice with
    | none =>
      cases h
      exact ⟨Nat.le_refl _, fun entry hentry _ => .inl hentry⟩
    | some now =>
      dsimp only [LockCommand.perform] at h
      split at h
      · rename_i hnow
        have hredis : ({ redis with now }.setNx key' value leaseMs).2 = redis' :=
          congrArg Prod.snd (Option.some.inj h)
        rw [← hredis, now_setNx]
        exact ⟨hnow.1, fun entry hentry hlive => .inl (setNx_live hentry hlive)⟩
      · cases h
  | pexpireIfOwner key' value leaseMs =>
    cases choice with
    | none =>
      cases h
      exact ⟨Nat.le_refl _, fun entry hentry _ => .inl hentry⟩
    | some now =>
      dsimp only [LockCommand.perform] at h
      split at h
      · rename_i hnow
        have hresult := Option.some.inj h
        have hredis : ({ redis with now }.pexpireIfOwner key' value leaseMs).2 = redis' :=
          congrArg Prod.snd hresult
        have hanswer : ({ redis with now }.pexpireIfOwner key' value leaseMs).1 = a :=
          congrArg Prod.fst hresult
        rw [← hredis, ← hanswer, now_pexpireIfOwner]
        exact ⟨hnow, fun entry hentry hlive => pexpireIfOwner_live hentry hlive⟩
      · cases h
  | delIfOwner key' value =>
    cases choice with
    | none =>
      cases h
      exact ⟨Nat.le_refl _, fun entry hentry _ => .inl hentry⟩
    | some now =>
      dsimp only [LockCommand.perform] at h
      split at h
      · rename_i hnow
        have hresult := Option.some.inj h
        have hredis : ({ redis with now }.delIfOwner key' value).2 = redis' :=
          congrArg Prod.snd hresult
        have hanswer : ({ redis with now }.delIfOwner key' value).1 = a :=
          congrArg Prod.fst hresult
        rw [← hredis, ← hanswer, now_delIfOwner]
        exact ⟨hnow, fun entry hentry hlive => delIfOwner_live hentry hlive⟩
      · cases h
  | incr key' =>
    cases choice with
    | none => cases h
    | some now =>
      dsimp only [LockCommand.perform] at h
      split at h
      · rename_i hnow
        rw [now_incr h]
        refine ⟨hnow, fun entry hentry hlive => ?_⟩
        exact @incr_live { redis with now } redis' key key' entry a hentry hlive h
      · cases h

end Entries

section Leases

variable {config : LockingConfig} {key token : String}

/-- A client is given the lease of the lock under its token, for so long. -/
def grants (key token : String) : Label (lockSystem config) → Option Nat
  | .served _ (.statement (.setNx key' value leaseMs)) answer _ =>
    if key' = keyPrefix ++ key ∧ value = token ∧ (answer : Bool) = true then some leaseMs else none
  | .served _ (.statement (.pexpireIfOwner key' value leaseMs)) answer _ =>
    if key' = keyPrefix ++ key ∧ value = token ∧ (answer : Bool) = true then some leaseMs else none
  | _ => none

/-- The lease under that token is renewed or released. -/
def touches (key token : String) : Label (lockSystem config) → Prop
  | .served _ (.statement (.pexpireIfOwner key' value _)) answer _ =>
    key' = keyPrefix ++ key ∧ value = token ∧ (answer : Bool) = true
  | .served _ (.statement (.delIfOwner key' value)) answer _ =>
    key' = keyPrefix ++ key ∧ value = token ∧ (answer : Bool) = true
  | _ => False

/-- The last lease given under that token has neither been released nor run out. -/
def LiveLease (key token : String) (P : Pool (lockSystem config))
    (trace : List (Label (lockSystem config))) (S : Pool (lockSystem config)) : Prop :=
  ∃ before l after Q R leaseMs, trace = before ++ [l] ++ after ∧
    Run (fun _ _ => True) P before Q ∧ Step (lockSystem config) Q l R ∧
    Run (fun _ _ => True) R after S ∧ grants key token l = some leaseMs ∧
    (∀ l ∈ after, ¬ touches key token l) ∧ S.store.db.now < R.store.db.now + leaseMs

/-- The entry of a lock held under that token until then. -/
def leaseEntry (key token : String) (expiresAt : Nat) : RedisEntry :=
  ⟨keyPrefix ++ key, .text token, some expiresAt⟩

variable {ok : Pool (lockSystem config) → Label (lockSystem config) → Prop}
variable {P Q R S : Pool (lockSystem config)} {l : Label (lockSystem config)}
variable {trace trace' : List (Label (lockSystem config))} {leaseMs : Nat}

theorem entry_of_setNx {redis : Redis} {key value : String}
    (h : (redis.setNx key value leaseMs).1 = true) :
    (redis.setNx key value leaseMs).2.entries.get? key =
      some ⟨key, .text value, some (redis.now + leaseMs)⟩ := by
  unfold Redis.setNx at h ⊢
  cases hfound : redis.get? key with
  | some entry =>
    rw [hfound] at h
    cases h
  | none =>
    dsimp only
    rw [get?_put, if_pos rfl]

theorem entry_of_pexpireIfOwner {redis : Redis} {key value : String} (hlease : 0 < leaseMs)
    (h : (redis.pexpireIfOwner key value leaseMs).1 = true) :
    (redis.pexpireIfOwner key value leaseMs).2.entries.get? key =
      some ⟨key, .text value, some (redis.now + leaseMs)⟩ := by
  unfold Redis.pexpireIfOwner at h ⊢
  cases hentry : redis.get? key with
  | none =>
    rw [hentry] at h
    cases h
  | some entry =>
    rw [hentry] at h
    have hkey : entry.key = key := by
      unfold Redis.get? at hentry
      exact Table.key_of_get? (Option.filter_eq_some_iff.mp hentry).1
    by_cases howner : entry.value = .text value
    · simp only [if_pos howner, if_neg (Nat.ne_of_gt hlease)]
      rw [get?_put, if_pos hkey, howner, hkey]
    · simp only [if_neg howner] at h
      cases h

/-- The lease that is given is the entry of the lock. -/
theorem entry_of_grants (hstep : Step (lockSystem config) Q l R)
    (hgrants : grants key token l = some leaseMs) (hlease : 0 < leaseMs) :
    R.store.db.entries.get? (keyPrefix ++ key) =
      some (leaseEntry key token (R.store.db.now + leaseMs)) := by
  cases l with
  | start e => cases hgrants
  | raised i q => cases hgrants
  | served i q a f =>
    cases q with
    | clock => cases hgrants
    | randomUUID => cases hgrants
    | statement q =>
      obtain ⟨choice, db, hperform, hstore⟩ := serves_statement.mp hstep.answered
      rw [hstore]
      show db.entries.get? _ = some (leaseEntry _ _ (db.now + _))
      cases q with
      | setNx key' value leaseMs' =>
        dsimp only [grants] at hgrants
        split at hgrants
        · rename_i hsame
          obtain ⟨rfl, rfl, rfl⟩ := hsame
          cases hgrants
          cases choice with
          | none => cases hperform
          | some now =>
            dsimp only [LockCommand.perform] at hperform
            split at hperform
            · have hresult := Option.some.inj hperform
              have hdb : ({ Q.store.db with now }.setNx _ value leaseMs).2 = db :=
                congrArg Prod.snd hresult
              rw [← hdb, entry_of_setNx (congrArg Prod.fst hresult), now_setNx]
              rfl
            · cases hperform
        · cases hgrants
      | pexpireIfOwner key' value leaseMs' =>
        dsimp only [grants] at hgrants
        split at hgrants
        · rename_i hsame
          obtain ⟨rfl, rfl, rfl⟩ := hsame
          cases hgrants
          cases choice with
          | none => cases hperform
          | some now =>
            dsimp only [LockCommand.perform] at hperform
            split at hperform
            · have hresult := Option.some.inj hperform
              have hdb : ({ Q.store.db with now }.pexpireIfOwner _ value leaseMs).2 = db :=
                congrArg Prod.snd hresult
              rw [← hdb, entry_of_pexpireIfOwner hlease (congrArg Prod.fst hresult),
                now_pexpireIfOwner]
              rfl
            · cases hperform
        · cases hgrants
      | delIfOwner key' value => cases hgrants
      | incr key' => cases hgrants
      | answerAcquire result => cases hgrants
      | answerRenew result => cases hgrants

/-- A step leaves an entry that is live at it, or serves a command that alters it. -/
theorem live_of_step (hstep : Step (lockSystem config) Q l R) :
    Q.store.db.now ≤ R.store.db.now ∧
      ∀ key entry, Q.store.db.entries.get? key = some entry →
        entry.liveAt R.store.db.now = true →
        R.store.db.entries.get? key = some entry ∨
          ∃ i q a f, l = .served i (.statement q) a f ∧
            Alters key entry q a (R.store.db.entries.get? key) := by
  rcases db_of_step hstep with hsame | ⟨i, q, a, f, choice, rfl, hperform⟩
  · rw [hsame]
    exact ⟨Nat.le_refl _, fun key entry hentry _ => .inl hentry⟩
  · refine ⟨(@perform_live _ _ "" _ _ _ hperform).1, fun key entry hentry hlive => ?_⟩
    rcases (perform_live hperform).2 entry hentry hlive with hkept | halters
    · exact .inl hkept
    · exact .inr ⟨i, q, a, f, rfl, halters⟩

theorem redis_now_of_run (hrun : Run ok R trace' S) : R.store.db.now ≤ S.store.db.now := by
  induction hrun with
  | nil => exact Nat.le_refl _
  | snoc _ _ hstep ih => exact Nat.le_trans ih (live_of_step hstep).1

/-- The entry of a lease stays until its holder renews or releases it, or it runs out. -/
theorem leased_run {expiresAt : Nat} (hrun : Run ok R trace' S)
    (hentry : R.store.db.entries.get? (keyPrefix ++ key) = some (leaseEntry key token expiresAt))
    (huntouched : ∀ l ∈ trace', ¬ touches key token l) (hlive : S.store.db.now ≤ expiresAt) :
    S.store.db.entries.get? (keyPrefix ++ key) = some (leaseEntry key token expiresAt) := by
  induction hrun with
  | nil => exact hentry
  | @snoc trace' S T l hrun _ hstep ih =>
    obtain ⟨hnow, hkept⟩ := live_of_step hstep
    have hbefore := ih (fun l hl => huntouched l (List.mem_append_left _ hl)) (by omega)
    have hlast := huntouched l (List.mem_append_right _ (List.mem_singleton_self l))
    rcases hkept _ _ hbefore (decide_eq_true hlive) with hkept | ⟨i, q, a, f, rfl, halters⟩
    · exact hkept
    · exfalso
      generalize T.store.db.entries.get? (keyPrefix ++ key) = after at halters
      cases halters with
      | renewed value leaseMs after howner =>
        cases howner
        exact hlast ⟨rfl, rfl, rfl⟩
      | released value after howner =>
        cases howner
        exact hlast ⟨rfl, rfl, rfl⟩
      | counted n hcounter => cases hcounter

theorem entry_of_liveLease (h : LiveLease key token P trace S) :
    ∃ expiresAt, S.store.db.entries.get? (keyPrefix ++ key) =
      some (leaseEntry key token expiresAt) := by
  obtain ⟨before, l, after, Q, R, leaseMs, rfl, _, hstep, hafter, hgrants, huntouched, hlive⟩ := h
  have hforth := redis_now_of_run hafter
  have hentry := entry_of_grants hstep hgrants (by omega)
  exact ⟨_, leased_run hafter hentry huntouched (Nat.le_of_lt hlive)⟩

theorem liveLease_once {token' : String} (h : LiveLease key token P trace S)
    (h' : LiveLease key token' P trace S) : token = token' := by
  obtain ⟨expiresAt, hentry⟩ := entry_of_liveLease h
  obtain ⟨expiresAt', hentry'⟩ := entry_of_liveLease h'
  have heq := hentry.symm.trans hentry'
  simp only [leaseEntry, Option.some.injEq, RedisEntry.mk.injEq, RedisValue.text.injEq] at heq
  exact heq.2.1

/-- A renewal or a release under another token leaves the entry of the holder. -/
theorem stale_changes_nothing {i : Nat} {q : LockCommand} {a : q.Answer}
    {f : Front LockCommand.interface.world} {entry : RedisEntry}
    (hstep : Step (lockSystem config) Q (.served i (.statement q) a f) R)
    (hstale : (∃ leaseMs, q = .pexpireIfOwner (keyPrefix ++ key) token leaseMs) ∨
      q = .delIfOwner (keyPrefix ++ key) token)
    (hentry : Q.store.db.entries.get? (keyPrefix ++ key) = some entry)
    (hlive : entry.liveAt R.store.db.now = true) (hother : entry.value ≠ .text token) :
    R.store.db.entries.get? (keyPrefix ++ key) = some entry := by
  rcases (live_of_step hstep).2 _ _ hentry hlive with hkept | ⟨i', q', a', f', heq, halters⟩
  · exact hkept
  · exfalso
    cases heq
    generalize R.store.db.entries.get? (keyPrefix ++ key) = after at halters
    cases halters with
    | renewed value leaseMs after howner =>
      rcases hstale with ⟨leaseMs', heq⟩ | heq
      · cases heq
        exact hother howner
      · cases heq
    | released value after howner =>
      rcases hstale with ⟨leaseMs', heq⟩ | heq
      · cases heq
      · cases heq
        exact hother howner
    | counted n hcounter =>
      rcases hstale with ⟨leaseMs', heq⟩ | heq
      · cases heq
      · cases heq

end Leases

section Counters

variable {redis redis' : Redis} {key key' value : String} {leaseMs : Nat}

/-- No counter expires. -/
def Lasting (redis : Redis) : Prop :=
  ∀ key entry n, redis.entries.get? key = some entry → entry.value = .counter n →
    entry.expiresAt = none

theorem mem_of_get? {entry : RedisEntry} (h : redis.get? key = some entry) :
    redis.entries.get? key = some entry := by
  unfold Redis.get? at h
  exact (Option.filter_eq_some_iff.mp h).1

theorem Lasting.put {entry : RedisEntry} (h : Lasting redis)
    (hentry : ∀ n, entry.value = .counter n → entry.expiresAt = none) :
    Lasting (redis.put entry) := by
  intro key found n hfound hcounter
  rw [get?_put] at hfound
  split at hfound
  · cases hfound
    exact hentry n hcounter
  · exact h key found n hfound hcounter

theorem Lasting.del (h : Lasting redis) : Lasting (redis.del key) := by
  intro key' found n hfound hcounter
  exact h key' found n (Table.get?_filter.mp hfound).1 hcounter

theorem Lasting.setNx (h : Lasting redis) : Lasting (redis.setNx key value leaseMs).2 := by
  unfold Redis.setNx
  cases redis.get? key with
  | some entry => exact h
  | none => exact h.put fun n heq => nomatch heq

theorem Lasting.pexpireIfOwner (h : Lasting redis) :
    Lasting (redis.pexpireIfOwner key value leaseMs).2 := by
  unfold Redis.pexpireIfOwner
  cases redis.get? key with
  | none => exact h
  | some entry =>
    dsimp only
    split
    · rename_i howner
      show Lasting (ite _ _ _)
      split
      · exact h.del
      · refine h.put fun n heq => ?_
        rw [howner] at heq
        cases heq
    · exact h

theorem Lasting.delIfOwner (h : Lasting redis) : Lasting (redis.delIfOwner key value).2 := by
  unfold Redis.delIfOwner
  cases redis.get? key with
  | none => exact h
  | some entry =>
    dsimp only
    split
    · exact h.del
    · exact h

theorem Lasting.incr {n : Nat} (h : Lasting redis) (hincr : redis.incr key = some (n, redis')) :
    Lasting redis' := by
  unfold Redis.incr at hincr
  split at hincr
  · cases hincr
    exact h.put fun n _ => rfl
  · rename_i found m expiresAt hfound
    have hnone : expiresAt = none := h _ _ m (mem_of_get? hfound) rfl
    cases hincr
    exact h.put fun _ _ => hnone
  · cases hincr

theorem Lasting.perform {q : LockCommand} {choice : Option Nat} {a : q.Answer} (h : Lasting redis)
    (hperform : q.perform choice redis = some (a, redis')) : Lasting redis' := by
  cases q with
  | answerAcquire result =>
    cases hperform
    exact h
  | answerRenew result =>
    cases hperform
    exact h
  | setNx key' value leaseMs =>
    cases choice with
    | none =>
      cases hperform
      exact h
    | some now =>
      dsimp only [LockCommand.perform] at hperform
      split at hperform
      · have hredis : ({ redis with now }.setNx key' value leaseMs).2 = redis' :=
          congrArg Prod.snd (Option.some.inj hperform)
        rw [← hredis]
        exact Lasting.setNx h
      · cases hperform
  | pexpireIfOwner key' value leaseMs =>
    cases choice with
    | none =>
      cases hperform
      exact h
    | some now =>
      dsimp only [LockCommand.perform] at hperform
      split at hperform
      · have hredis : ({ redis with now }.pexpireIfOwner key' value leaseMs).2 = redis' :=
          congrArg Prod.snd (Option.some.inj hperform)
        rw [← hredis]
        exact Lasting.pexpireIfOwner h
      · cases hperform
  | delIfOwner key' value =>
    cases choice with
    | none =>
      cases hperform
      exact h
    | some now =>
      dsimp only [LockCommand.perform] at hperform
      split at hperform
      · have hredis : ({ redis with now }.delIfOwner key' value).2 = redis' :=
          congrArg Prod.snd (Option.some.inj hperform)
        rw [← hredis]
        exact Lasting.delIfOwner h
      · cases hperform
  | incr key' =>
    cases choice with
    | none => cases hperform
    | some now =>
      dsimp only [LockCommand.perform] at hperform
      split at hperform
      · exact @Lasting.incr { redis with now } redis' key' a h hperform
      · cases hperform

variable {config : LockingConfig}
variable {ok : Pool (lockSystem config) → Label (lockSystem config) → Prop}
variable {P Q R S : Pool (lockSystem config)} {l : Label (lockSystem config)}
variable {trace trace' : List (Label (lockSystem config))}

theorem lasting_of_run (hrun : Run ok P trace Q) (hP : Lasting P.store.db) :
    Lasting Q.store.db := by
  induction hrun with
  | nil => exact hP
  | snoc _ _ hstep ih =>
    rcases db_of_step hstep with hsame | ⟨i, q, a, f, choice, rfl, hperform⟩
    · rw [hsame]
      exact ih
    · exact ih.perform hperform

/-- The counter of a lock. -/
def fenceEntry (key : String) (n : Nat) : RedisEntry := ⟨fencePrefix ++ key, .counter n, none⟩

/-- A client draws this fencing token of the lock. -/
def draws (key : String) (i : Nat) (n : Nat) : Label (lockSystem config) → Prop
  | .served i' (.statement (.incr key')) n' _ => i' = i ∧ key' = fencePrefix ++ key ∧ (n' : Nat) = n
  | _ => False

theorem served_of_draws {i n : Nat} (h : draws key i n l) :
    ∃ f, l = .served i (.statement (.incr (fencePrefix ++ key))) n f := by
  unfold draws at h
  split at h
  · rename_i i' key' n' f
    obtain ⟨rfl, rfl, rfl⟩ := h
    exact ⟨f, rfl⟩
  · cases h

/-- A token that is drawn is the counter. -/
theorem entry_of_draws {i n : Nat} (hstep : Step (lockSystem config) Q l R)
    (hlasting : Lasting Q.store.db) (h : draws key i n l) :
    R.store.db.entries.get? (fencePrefix ++ key) = some (fenceEntry key n) := by
  obtain ⟨f, rfl⟩ := served_of_draws h
  obtain ⟨choice, db, hperform, hstore⟩ := serves_statement.mp hstep.answered
  rw [hstore]
  cases choice with
  | none => cases hperform
  | some now =>
    dsimp only [LockCommand.perform] at hperform
    split at hperform
    · unfold Redis.incr at hperform
      split at hperform
      · cases hperform
        rw [get?_put, if_pos rfl]
        rfl
      · rename_i found m expiresAt hfound
        cases hperform
        have hnone : expiresAt = none :=
          hlasting _ _ m (@mem_of_get? { Q.store.db with now } _ _ hfound) rfl
        rw [get?_put, if_pos rfl, hnone]
        rfl
      · cases hperform
    · cases hperform

/-- From its counter on a lock gives greater tokens only. -/
theorem lt_of_draws {i m n : Nat} (hstep : Step (lockSystem config) Q l R)
    (hentry : Q.store.db.entries.get? (fencePrefix ++ key) = some (fenceEntry key m))
    (h : draws key i n l) : m < n := by
  obtain ⟨f, rfl⟩ := served_of_draws h
  obtain ⟨choice, db, hperform, hstore⟩ := serves_statement.mp hstep.answered
  cases choice with
  | none => cases hperform
  | some now =>
    dsimp only [LockCommand.perform] at hperform
    split at hperform
    · have hfound := @get?_of_live { Q.store.db with now } _ _ hentry rfl
      unfold Redis.incr at hperform
      rw [hfound] at hperform
      cases hperform
      exact Nat.lt_succ_self m
    · cases hperform

/-- The counter of a lock stays, and never goes back. -/
theorem counted_run {m : Nat} (hrun : Run ok R trace' S)
    (hentry : R.store.db.entries.get? (fencePrefix ++ key) = some (fenceEntry key m)) :
    ∃ n, m ≤ n ∧ S.store.db.entries.get? (fencePrefix ++ key) = some (fenceEntry key n) := by
  induction hrun with
  | nil => exact ⟨m, Nat.le_refl _, hentry⟩
  | @snoc trace' S T l hrun _ hstep ih =>
    obtain ⟨n, hle, hentry⟩ := ih
    rcases (live_of_step hstep).2 _ _ hentry rfl with hkept | ⟨i, q, a, f, rfl, halters⟩
    · exact ⟨n, hle, hkept⟩
    · generalize T.store.db.entries.get? (fencePrefix ++ key) = after at halters ⊢
      cases halters with
      | renewed value leaseMs after howner => cases howner
      | released value after howner => cases howner
      | counted n' hcounter =>
        cases hcounter
        exact ⟨n + 1, Nat.le_succ_of_le hle, rfl⟩

/-- Along a run the tokens that are drawn increase. -/
theorem draws_increase {l l' : Label (lockSystem config)} {i j m n x y : Nat}
    (hrun : Run ok P trace Q) (hP : Lasting P.store.db) (hm : (trace)[m]? = some l)
    (hn : (trace)[n]? = some l') (hlt : m < n) (hx : draws key i x l) (hy : draws key j y l') :
    x < y := by
  obtain ⟨R, S, hbefore, _, hstep, hafter⟩ := hrun.split hm
  have hentry := entry_of_draws hstep (lasting_of_run hbefore hP) hx
  have hlater : (trace.drop (m + 1))[n - (m + 1)]? = some l' := by
    rw [List.getElem?_drop, Nat.add_sub_cancel' hlt]
    exact hn
  obtain ⟨T, U, hbetween, _, hstep', _⟩ := hafter.split hlater
  obtain ⟨k, hle, hentry'⟩ := counted_run hbetween hentry
  exact Nat.lt_of_le_of_lt hle (lt_of_draws hstep' hentry' hy)

section Tickets

/-- Why a client sends a command: it drew the owner token, it draws one fencing token, and that
one is in the ticket. -/
def because (h : List (Call LockCommand.interface.world)) : WorldRequest LockCommand.interface → Prop
  | .statement (.setNx _ ownerToken _) => ⟨.randomUUID, ownerToken⟩ ∈ h
  | .statement (.incr _) => ∀ key (n : Nat), ⟨.statement (.incr key), n⟩ ∉ h
  | .statement (.answerAcquire (.acquired ticket)) =>
    ⟨.statement (.incr (fencePrefix ++ ticket.lockKey)), ticket.fencingToken⟩ ∈ h
  | _ => True

attribute [local simp] because draws

theorem accounted_program (e : LockEntry) :
    Accounted because (fun _ _ => True) [] (e.program config) := by
  cases e with
  | acquire request =>
    refine ⟨trivial, fun ownerToken => ⟨by simp [because], fun acquired => ?_⟩⟩
    cases (acquired : Bool) with
    | false => exact ⟨trivial, fun _ => trivial⟩
    | true =>
      refine ⟨by simp [because], fun fencingToken => ⟨trivial, fun now => ⟨trivial, fun lockId => ?_⟩⟩⟩
      exact ⟨by simp [because], fun _ => trivial⟩
  | renew request =>
    refine ⟨trivial, fun renewed => ?_⟩
    cases (renewed : Bool) with
    | false => exact ⟨trivial, fun _ => trivial⟩
    | true => exact ⟨trivial, fun now => ⟨trivial, fun _ => trivial⟩⟩
  | release ticket => exact ⟨trivial, fun _ => trivial⟩

/-- A client takes the lock under its owner token. -/
def takes (key ownerToken : String) (i : Nat) : Label (lockSystem config) → Prop
  | .served i' (.statement (.setNx key' value _)) answer _ =>
    i' = i ∧ key' = keyPrefix ++ key ∧ value = ownerToken ∧ (answer : Bool) = true
  | _ => False

/-- The fencing token of the ticket of the lock that a client is answered with. -/
def tokenOf (key : String) : Call LockCommand.interface.world → Option Nat
  | ⟨.statement (.answerAcquire (.acquired ticket)), _⟩ =>
    if ticket.lockKey = key then some ticket.fencingToken else none
  | _ => none

attribute [local simp] takes tokenOf

/-- A client has the ticket of the lock with this fencing token. -/
def Handed (key : String) (trace : List (Label (lockSystem config))) (i n : Nat) : Prop :=
  ∃ call ∈ calls i trace, tokenOf key call = some n

/-- An owner token is one client's. -/
theorem takes_once {ownerToken : String} {i j : Nat} {l l' : Label (lockSystem config)}
    (hrun : Run ok P trace Q) (hP : P.threads = []) (hl : l ∈ trace) (hl' : l' ∈ trace)
    (hi : takes key ownerToken i l) (hj : takes key ownerToken j l') : i = j := by
  have hdrawn : ∀ {i l}, l ∈ trace → takes key ownerToken i l →
      ∃ f, (.served i .randomUUID ownerToken f : Label (lockSystem config)) ∈ trace := by
    intro i l hl htakes
    unfold takes at htakes
    split at htakes
    · obtain ⟨rfl, rfl, rfl, rfl⟩ := htakes
      obtain ⟨earlier, hearlier, hbecause⟩ := because_of_mem accounted_program hrun hP hl
      exact mem_calls.mp (hearlier _ hbecause)
    · cases htakes
  obtain ⟨f, hf⟩ := hdrawn hl hi
  obtain ⟨g, hg⟩ := hdrawn hl' hj
  exact drawn_once hrun hf hg

/-- The fencing token of a ticket was drawn by the client that has it. -/
theorem drawn_of_handed {i n : Nat} (hrun : Run ok P trace Q) (hP : P.threads = [])
    (h : Handed key trace i n) : ∃ (m : Nat) (l : Label (lockSystem config)),
      (trace)[m]? = some l ∧ draws key i n l := by
  obtain ⟨call, hcall, htoken⟩ := h
  unfold tokenOf at htoken
  split at htoken
  · rename_i ticket answer
    split at htoken
    · rename_i hkey
      cases htoken
      subst hkey
      obtain ⟨f, hmem⟩ := mem_calls.mp hcall
      obtain ⟨earlier, hearlier, hbecause⟩ := because_of_mem accounted_program hrun hP hmem
      obtain ⟨g, hdraw⟩ := mem_calls.mp (hearlier _ hbecause)
      obtain ⟨m, hm⟩ := List.mem_iff_getElem?.mp hdraw
      exact ⟨m, _, hm, rfl, rfl, rfl⟩
    · cases htoken
  · cases htoken

/-- A client draws once. -/
theorem draws_once {l l' : Label (lockSystem config)} {i m n x y : Nat} (hrun : Run ok P trace Q)
    (hP : P.threads = []) (hm : (trace)[m]? = some l) (hn : (trace)[n]? = some l')
    (hx : draws key i x l) (hy : draws key i y l') : x = y := by
  have hnever : ∀ {l l' : Label (lockSystem config)} {m n x y : Nat}, (trace)[m]? = some l →
      (trace)[n]? = some l' → draws key i x l → draws key i y l' → ¬ m < n := by
    intro l l' m n x y hm hn hx hy hlt
    obtain ⟨R, S, hbefore, _, hstep, _⟩ := hrun.split hn
    obtain ⟨f, rfl⟩ := served_of_draws hx
    obtain ⟨g, rfl⟩ := served_of_draws hy
    have hnone := because_of_run accounted_program hbefore hP hstep
    refine hnone (fencePrefix ++ key) x (mem_calls.mpr ⟨f, ?_⟩)
    refine List.mem_iff_getElem?.mpr ⟨m, ?_⟩
    rw [List.getElem?_take_of_lt hlt]
    exact hm
  have hle := hnever hm hn hx hy
  have hge := hnever hn hm hy hx
  obtain rfl : m = n := by omega
  rw [hm] at hn
  obtain rfl := Option.some.inj hn
  obtain ⟨f, rfl⟩ := served_of_draws hx
  obtain ⟨_, _, hsame⟩ := hy
  exact hsame

end Tickets

section Order

/-- The one client took the lock before the other did. -/
def TookBefore (key : String) (trace : List (Label (lockSystem config))) (i j : Nat) : Prop :=
  ∃ (m n : Nat) (ownerToken ownerToken' : String) (l l' : Label (lockSystem config)), m < n ∧
    (trace)[m]? = some l ∧ (trace)[n]? = some l' ∧ takes key ownerToken i l ∧
      takes key ownerToken' j l'

/-- The one client drew its fencing token before the other did. -/
def DrewBefore (key : String) (trace : List (Label (lockSystem config))) (i j : Nat) : Prop :=
  ∃ (m n x y : Nat) (l l' : Label (lockSystem config)), m < n ∧
    (trace)[m]? = some l ∧ (trace)[n]? = some l' ∧ draws key i x l ∧ draws key j y l'

/-- Who took the lock later has the greater fencing token. -/
def FencingOrders (key : String) (trace : List (Label (lockSystem config))) : Prop :=
  ∀ i j x y, TookBefore key trace i j → Handed key trace i x → Handed key trace j y → x < y

/-- No client is overtaken between taking the lock and drawing its token. -/
def DrawnInOrder (key : String) (trace : List (Label (lockSystem config))) : Prop :=
  ∀ i j x y, TookBefore key trace i j → Handed key trace i x → Handed key trace j y →
    DrewBefore key trace i j

theorem fencingOrders_iff (hrun : Run ok P trace Q) (hP : P.threads = [])
    (hlasting : Lasting P.store.db) : FencingOrders key trace ↔ DrawnInOrder key trace := by
  constructor
  · intro h i j x y hbefore hx hy
    have hxy := h i j x y hbefore hx hy
    obtain ⟨m, l, hm, hl⟩ := drawn_of_handed hrun hP hx
    obtain ⟨n, l', hn, hl'⟩ := drawn_of_handed hrun hP hy
    rcases Nat.lt_trichotomy m n with hless | rfl | hgreater
    · exact ⟨m, n, x, y, l, l', hless, hm, hn, hl, hl'⟩
    · exfalso
      rw [hm] at hn
      obtain rfl := Option.some.inj hn
      obtain ⟨f, rfl⟩ := served_of_draws hl
      obtain ⟨_, _, hsame⟩ := hl'
      have heq : x = y := hsame
      omega
    · exfalso
      have hyx := draws_increase hrun hlasting hn hm hgreater hl' hl
      omega
  · intro h i j x y hbefore hx hy
    obtain ⟨m, l, hm, hl⟩ := drawn_of_handed hrun hP hx
    obtain ⟨n, l', hn, hl'⟩ := drawn_of_handed hrun hP hy
    obtain ⟨m', n', x', y', k, k', hless, hm', hn', hk, hk'⟩ := h i j x y hbefore hx hy
    obtain rfl : x' = x := draws_once hrun hP hm' hm hk hl
    obtain rfl : y' = y := draws_once hrun hP hn' hn hk' hl'
    exact draws_increase hrun hlasting hm' hn' hless hk hk'

/-- At most one lease of a lock is live, under a token that is one client's; a renewal or a release
under another token leaves it; and the fencing tokens order the holders exactly when they are drawn
in the order in which the lock was taken. -/
theorem fencing_tokens_order_iff {now : Nat}
    (hrun : Run (fun _ _ => True) (emptyRedis config now) trace Q) :
    (∀ token token', LiveLease key token (emptyRedis config now) trace Q →
      LiveLease key token' (emptyRedis config now) trace Q → token = token') ∧
    (∀ i j ownerToken l l', l ∈ trace → l' ∈ trace → takes key ownerToken i l →
      takes key ownerToken j l' → i = j) ∧
    (∀ i (q : LockCommand) (a : q.Answer) f R token entry,
      Step (lockSystem config) Q (.served i (.statement q) a f) R →
      ((∃ leaseMs, q = .pexpireIfOwner (keyPrefix ++ key) token leaseMs) ∨
        q = .delIfOwner (keyPrefix ++ key) token) →
      Q.store.db.entries.get? (keyPrefix ++ key) = some entry →
      entry.liveAt R.store.db.now = true → entry.value ≠ .text token →
      R.store.db.entries.get? (keyPrefix ++ key) = some entry) ∧
    (FencingOrders key trace ↔ DrawnInOrder key trace) := by
  refine ⟨fun token token' h h' => liveLease_once h h', ?_, ?_, ?_⟩
  · intro i j ownerToken l l' hl hl' hi hj
    exact takes_once hrun rfl hl hl' hi hj
  · intro i q a f R token entry hstep hstale hentry hlive hother
    exact stale_changes_nothing hstep hstale hentry hlive hother
  · exact fencingOrders_iff hrun rfl fun key entry n hentry _ => by cases hentry

/-- Leases of five seconds. -/
def demo : LockingConfig := ⟨5000, 5000, 5000⟩

def stock : DistributedLockAcquireRequest := ⟨⟨"t", "c", "stock", "7"⟩, none⟩

/-- A command that reaches Redis at this time. -/
def sent (thread now : Nat) : Move (lockSystem demo) := .serve thread (.statement (some now))

def taking (thread now : Nat) (ownerToken : String) : List (Move (lockSystem demo)) :=
  [.start (.acquire stock), .serve thread (.randomUUID ownerToken), sent thread now]

def drawing (thread now : Nat) (lockId : String) : List (Move (lockSystem demo)) :=
  [sent thread now, .serve thread (.clock now), .serve thread (.randomUUID lockId),
    sent thread now]

instance (key ownerToken : String) (i : Nat) (l : Label (lockSystem config)) :
    Decidable (takes key ownerToken i l) := by
  unfold takes
  split <;> infer_instance

/-- The first client took the lock before the second and has the greater token. -/
def Overtaken (trace : List (Label (lockSystem demo))) (_ : Pool (lockSystem demo)) : Prop :=
  (trace)[2]?.any (fun l => takes stock.build "a" 0 l) = true ∧
    (trace)[5]?.any (fun l => takes stock.build "b" 1 l) = true ∧
    (∃ call ∈ calls 0 trace, tokenOf stock.build call = some 2) ∧
    ∃ call ∈ calls 1 trace, tokenOf stock.build call = some 1

instance (trace : List (Label (lockSystem demo))) (Q : Pool (lockSystem demo)) :
    Decidable (Overtaken trace Q) := by
  unfold Overtaken
  infer_instance

theorem Overtaken.not_orders {Q : Pool (lockSystem demo)} {trace : List (Label (lockSystem demo))}
    (h : Overtaken trace Q) : ¬ FencingOrders stock.build trace := by
  obtain ⟨hfirst, hsecond, htwo, hone⟩ := h
  obtain ⟨l, hl, htakes⟩ := (Option.any_eq_true _ _).mp hfirst
  obtain ⟨l', hl', htakes'⟩ := (Option.any_eq_true _ _).mp hsecond
  intro horders
  have hbefore : TookBefore stock.build trace 0 1 :=
    ⟨2, 5, "a", "b", l, l', by decide, hl, hl', of_decide_eq_true htakes, of_decide_eq_true htakes'⟩
  exact absurd (horders 0 1 2 1 hbefore htwo hone) (by decide)

/-- A client that pauses past its lease draws after the next holder. -/
theorem overtaken_reached : ∃ Q trace,
    Run (fun _ _ => True) (emptyRedis demo 0) trace Q ∧ Overtaken trace Q := by
  have hplay : (((emptyRedis demo 0).record (fun _ _ => True)
      (taking 0 10 "a" ++ taking 1 6000 "b" ++ drawing 1 6001 "d" ++ drawing 0 6002 "e")).map
        fun r => decide (Overtaken r.1 r.2)) = some true := by
    decide
  exact Pool.record_reach hplay

theorem fencing_token_overtaken : ∃ (Q : Pool (lockSystem demo))
    (trace : List (Label (lockSystem demo))),
    Run (fun _ _ => True) (emptyRedis demo 0) trace Q ∧ ¬ FencingOrders stock.build trace := by
  obtain ⟨Q, trace, hrun, hovertaken⟩ := overtaken_reached
  exact ⟨Q, trace, hrun, hovertaken.not_orders⟩

theorem fencing_tokens_order_iff_overtaken : ∃ (Q : Pool (lockSystem demo))
    (trace : List (Label (lockSystem demo))),
    Run (fun _ _ => True) (emptyRedis demo 0) trace Q ∧ ¬ DrawnInOrder stock.build trace := by
  obtain ⟨Q, trace, hrun, hovertaken⟩ := overtaken_reached
  have horder := (@fencing_tokens_order_iff stock.build demo Q trace 0 hrun).2.2.2
  exact ⟨Q, trace, hrun, fun hdrawn => hovertaken.not_orders (horder.mpr hdrawn)⟩

end Order

end Counters

end DddBoilerplate.Locking
