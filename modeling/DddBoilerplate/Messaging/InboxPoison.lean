/- module: DddBoilerplate/Messaging/InboxPoison
   generality: I
   digest: How often a message is handed out, and when one that keeps failing is parked. -/

import DddBoilerplate.Messaging.InboxExclusivity

set_option autoImplicit false
set_option relaxedAutoImplicit false
set_option linter.all false

namespace DddBoilerplate.Messaging

open Concurrency Store

variable {config : InboxSweepConfig}

/-- A receive of this message returns with this step, and has acquired it. -/
def acquiredOn (identity : InboxIdentity) (started : List InboxEntry)
    (l : Label (inboxSystem config)) : Bool :=
  match returned started l with
  | some (_, other, .acquired _) => other = identity
  | _ => false

/-- How many times a message was handed out. -/
def handOuts (identity : InboxIdentity) (trace : List (Label (inboxSystem config))) : Nat :=
  countAlong (acquiredOn identity) [] trace

/-- The condition on a run: no call fails a claim past the last attempt, which clears its time and
hides it from the sweep; and no receive reclaims one before a sweep has seen it lapse. The purge
has not come to the message. -/
def sweepSees (identity : InboxIdentity) (P : Pool (inboxSystem config)) :
    Label (inboxSystem config) → Prop
  | .served _ (.statement (.message (.fail id claimToken _ _))) _ _ =>
    (P.store.db.get? identity).any (fun row =>
      row.claimedBy id claimToken && config.maxAttempts < row.attempts) = false
  | .served _ (.statement (.message (.reclaim id claimToken _ _))) _ _ =>
    (P.store.db.get? identity).any (fun row =>
      row.claimedBy id claimToken && row.claimedAt.isSome && config.maxAttempts < row.attempts) =
        false
  | .served _ (.statement (.deleteProcessedOlderThan now)) _ _ =>
    (P.store.db.get? identity).any (·.purgeable config now) = false
  | _ => True

instance (identity : InboxIdentity) (P : Pool (inboxSystem config))
    (l : Label (inboxSystem config)) : Decidable (sweepSees identity P l) := by
  apply Label.casesOn (motive := fun l => Decidable (sweepSees identity P l)) l
  case served =>
    intro i q
    apply WorldRequest.casesOn (motive := fun q => ∀ (a : q.Answer) f,
      Decidable (sweepSees identity P (.served i q a f))) q
    case statement =>
      intro q
      apply InboxStatement.casesOn (motive := fun q =>
        ∀ (a : (inboxSystem config).interface.Answer (.statement q)) f, Decidable (sweepSees identity P (.served i (.statement q) a f))) q
      case message =>
        intro q
        apply InboxRequest.casesOn (motive := fun q =>
          ∀ (a : (inboxSystem config).interface.Answer (.statement (.message q))) f,
            Decidable (sweepSees identity P (.served i (.statement (.message q)) a f))) q
          <;> intros <;> dsimp only [sweepSees] <;> infer_instance
      all_goals
        intros
        dsimp only [sweepSees]
        infer_instance
    all_goals
      intros
      dsimp only [sweepSees]
      infer_instance
  all_goals
    intros
    dsimp only [sweepSees]
    infer_instance

/-- What is kept of a row that was handed out so many times. -/
structure Counted (config : InboxSweepConfig) (times : Nat) (row : InboxMessage) : Prop where
  times : times ≤ row.attempts
  bound : row.attempts ≤ config.maxAttempts + 1
  claimed : row.status = .inProgress → config.maxAttempts < row.attempts →
    row.claimedAt.isSome = true

/-- A message not there was not handed out. -/
def CountedIn (identity : InboxIdentity) (times : Nat) (config : InboxSweepConfig) (db : InboxDb) :
    Prop :=
  match db.get? identity with
  | none => times = 0
  | some row => Counted config times row

section Steps

variable {Q R : Pool (inboxSystem config)} {l : Label (inboxSystem config)}
variable {points : List (InboxEntry × InboxPoint)} {identity : InboxIdentity}

theorem acquiredOn_served {started : List InboxEntry} {i : Nat} {e : InboxEntry}
    {q : InboxRequest} {a : q.Answer} {f : Front InboxStatement.interface.world}
    (he : started[i]? = some e)
    (h : @acquiredOn config identity started (.served i (.statement (.message q)) a f) = true) :
    e = .receive identity ∧ ∃ reservation, q.reply a = .acquired reservation := by
  unfold acquiredOn at h
  split at h
  · rename_i j other reservation hreturned
    have hother : other = identity := of_decide_eq_true h
    unfold returned at hreturned
    split at hreturned
    · rename_i heq
      cases heq
      rw [he] at hreturned
      cases e with
      | receive identity' =>
        simp only [Option.some.injEq, Prod.mk.injEq] at hreturned
        obtain ⟨_, hidentity, hreply⟩ := hreturned
        exact ⟨congrArg _ (hidentity.trans hother), reservation, hreply⟩
      | complete reservation => cases hreturned
      | fail reservation lastError => cases hreturned
      | reconcile => cases hreturned
    · cases hreturned
  · cases h

/-- A row that keeps its attempts, its claim with it if it is in progress past the last. -/
theorem Counted.same {times : Nat} {row row' : InboxMessage} (h : Counted config times row)
    (hattempts : row'.attempts = row.attempts)
    (hclaimed : row'.status = .inProgress → config.maxAttempts < row.attempts →
      row.status = .inProgress ∧ row'.claimedAt = row.claimedAt) : Counted config times row' where
  times := hattempts ▸ h.times
  bound := hattempts ▸ h.bound
  claimed := by
    intro hstatus hpast
    rw [hattempts] at hpast
    obtain ⟨hprogress, hsame⟩ := hclaimed hstatus hpast
    rw [hsame]
    exact h.claimed hprogress hpast

/-- A row claimed again, not past the last attempt. -/
theorem Counted.reclaimed {times : Nat} {row row' : InboxMessage} (h : Counted config times row)
    (hstatus : row.status = .inProgress)
    (hseen : row.claimedAt.isSome = true → row.attempts ≤ config.maxAttempts)
    (hattempts : row'.attempts = row.attempts + 1) (hclaimed : row'.claimedAt.isSome = true) :
    Counted config (times + 1) row' := by
  have hle : row.attempts ≤ config.maxAttempts := by
    by_contra hpast
    exact hpast (hseen (h.claimed hstatus (by omega)))
  refine ⟨?_, ?_, fun _ _ => hclaimed⟩
  · have htimes := h.times
    omega
  · omega

theorem Counted.mono {times times' : Nat} {row : InboxMessage} (h : Counted config times row)
    (hle : times' ≤ times) : Counted config times' row :=
  ⟨Nat.le_trans hle h.times, h.bound, h.claimed⟩

/-- A guarded update, on the row of one message. -/
theorem countedIn_updateClaimed {times times' : Nat} {db : InboxDb} {id claimToken : String}
    {f : InboxMessage → InboxMessage} (h : CountedIn identity times config db)
    (hsame : (∀ row, db.get? identity = some row → ¬ row.claimedBy id claimToken = true) →
      times' ≤ times)
    (hrow : ∀ row, db.get? identity = some row → row.claimedBy id claimToken = true →
      Counted config times row → Counted config times' (f row))
    (hf : ∀ row, (f row).identity = row.identity) :
    CountedIn identity times' config (updateClaimed db id claimToken f hf).2 := by
  unfold CountedIn at h ⊢
  rw [get?_updateClaimed]
  cases hget : db.get? identity with
  | none =>
    rw [hget] at h
    have hno := hsame fun row hsome => by rw [hget] at hsome; cases hsome
    simp only [Option.map_none]
    have hzero : times = 0 := h
    omega
  | some row =>
    rw [hget] at h
    simp only [Option.map_some]
    by_cases hby : row.claimedBy id claimToken = true
    · rw [if_pos hby]
      exact hrow row hget hby h
    · rw [if_neg hby]
      refine Counted.mono h (hsame fun row' hsome => ?_)
      rw [hget] at hsome
      cases hsome
      exact hby

/-- A sweep, on the row of one message. -/
theorem countedIn_updateMany {times : Nat} {db : InboxDb} {p : InboxMessage → Bool}
    {f : InboxMessage → InboxMessage} (h : CountedIn identity times config db)
    (hrow : ∀ row, p row = true → Counted config times row → Counted config times (f row))
    (hf : ∀ row, (f row).identity = row.identity) :
    CountedIn identity times config (db.updateMany p f hf).2 := by
  unfold CountedIn at h ⊢
  rw [Table.get?_updateMany]
  cases hget : db.get? identity with
  | none =>
    rw [hget] at h
    exact h
  | some row =>
    rw [hget] at h
    simp only [Option.map_some]
    by_cases hp : p row = true
    · rw [if_pos hp]
      exact hrow row hp h
    · rw [if_neg hp]
      exact h

theorem countedIn_deleteMany {times : Nat} {db : InboxDb} {p : InboxMessage → Bool}
    (h : CountedIn identity times config db)
    (hkept : ∀ row, db.get? identity = some row → p row = false) :
    CountedIn identity times config (db.deleteMany p).2 := by
  unfold CountedIn at h ⊢
  cases hget : db.get? identity with
  | some row =>
    rw [Table.get?_deleteMany.mpr ⟨hget, hkept row hget⟩]
    rw [hget] at h
    exact h
  | none =>
    cases hdeleted : (db.deleteMany p).2.get? identity with
    | none =>
      rw [hget] at h
      exact h
    | some row =>
      obtain ⟨hsome, _⟩ := Table.get?_deleteMany.mp hdeleted
      rw [hget] at hsome
      cases hsome

/-- An insertion, on the row of one message. -/
theorem countedIn_insertIfAbsent {times more : Nat} {db : InboxDb} {other : InboxIdentity}
    {id claimToken : String} {now : Nat} (h : CountedIn identity times config db) (hle : more ≤ 1)
    (hother : other ≠ identity → more = 0)
    (hpresent : (db.get? identity).isSome = true → more = 0) :
    CountedIn identity (times + more) config (InboxRequest.serve config.toInboxConfig db
      (.insertIfAbsent other id claimToken now)).2 := by
  unfold CountedIn at h ⊢
  cases hget : db.get? identity with
  | some row =>
    rw [get?_insertIfAbsent hget, hpresent (by rw [hget]; rfl)]
    rw [hget] at h
    exact h
  | none =>
    rw [hget] at h
    have hzero : times = 0 := h
    cases habsent : db.get? other with
    | some row =>
      have hne : other ≠ identity := by
        rintro rfl
        rw [hget] at habsent
        cases habsent
      simp only [InboxRequest.serve, habsent, hget, hother hne]
      exact h
    | none =>
      simp only [InboxRequest.serve, habsent]
      rw [Table.get?_insert habsent]
      by_cases hsame : other = identity
      · rw [if_pos hsame]
        refine ⟨?_, Nat.le_add_left _ _, fun _ _ => rfl⟩
        show times + more ≤ 1
        omega
      · rw [if_neg hsame, hget, hother hsame]
        exact h

variable {started : List InboxEntry} {i : Nat} {e : InboxEntry}
variable {f : Front InboxStatement.interface.world} {times : Nat}

/-- One more if this step hands the message out. -/
def counting (identity : InboxIdentity) (started : List InboxEntry)
    (l : Label (inboxSystem config)) : Nat :=
  if acquiredOn identity started l then 1 else 0

theorem counting_le {started : List InboxEntry} {l : Label (inboxSystem config)} :
    counting identity started l ≤ 1 := by
  unfold counting
  split <;> omega

theorem counting_of_not {started : List InboxEntry} {q : InboxRequest} {a : q.Answer}
    (he : started[i]? = some e)
    (hnot : e = .receive identity → ∀ reservation, q.reply a ≠ .acquired reservation) :
    @counting config identity started (.served i (.statement (.message q)) a f) = 0 := by
  unfold counting
  rw [if_neg]
  intro hacquired
  obtain ⟨hentry, reservation, hreply⟩ := acquiredOn_served he hacquired
  exact hnot hentry reservation hreply

theorem countedIn_acts {q : WorldRequest InboxStatement.interface} {a : q.Answer} {db : InboxDb}
    (hacts : Acts config Q.store e q a db) (he : started[i]? = some e)
    (hok : sweepSees identity Q (.served i q a f))
    (h : CountedIn identity times config Q.store.db) :
    CountedIn identity (times + @counting config identity started (.served i q a f)) config db := by
  cases hacts with
  | clock e now => exact h
  | randomUUID e id => exact h
  | insertIfAbsent other id token now =>
    refine countedIn_insertIfAbsent h counting_le (fun hother => ?_) fun hpresent => ?_
    · refine counting_of_not he fun hentry => absurd ?_ hother
      injection hentry
    · refine counting_of_not he fun hentry reservation => ?_
      injection hentry with hidentity
      subst hidentity
      obtain ⟨row, hget⟩ := Option.isSome_iff_exists.mp hpresent
      simp [InboxRequest.reply, InboxRequest.serve, hget]
  | findUnique other =>
    rw [counting_of_not he fun _ _ => by
      simp only [InboxRequest.reply]
      split
      · split <;> (intro h; cases h)
      · intro h
        cases h]
    exact h
  | reclaim token now existing hfound hnow =>
    have hle := @counting_le config identity started
      (.served i (.statement (.message (.reclaim existing.id existing.claimToken token now)))
        (InboxRequest.serve config.toInboxConfig Q.store.db
          (.reclaim existing.id existing.claimToken token now)).1 f)
    refine countedIn_updateClaimed h (fun hnone => ?_) (fun row hget hby hcounted => ?_) ?_
    · rw [counting_of_not he fun hentry reservation => ?_]
      · exact Nat.le_refl _
      · injection hentry with hidentity
        simp only [InboxRequest.reply]
        split
        · rename_i hany
          obtain ⟨row, hrow, hby⟩ := hfound.reclaimed hany
          exact absurd hby (hnone row (hidentity ▸ hrow))
        · intro heq
          cases heq
    · refine Counted.mono (hcounted.reclaimed (claimedBy_iff.mp hby).2.2 ?_ rfl rfl) (by omega)
      intro hclaimed
      simpa [sweepSees, hget, hby, hclaimed] using hok
    · exact fun _ => rfl
  | complete reservation now =>
    rw [counting_of_not he fun _ _ => by simp [InboxRequest.reply]]
    refine countedIn_updateClaimed h (fun _ => Nat.le_refl _) (fun row _ _ hcounted => ?_) ?_
    · exact hcounted.same rfl fun heq => by cases heq
    · exact fun _ => rfl
  | fail reservation lastError now =>
    rw [counting_of_not he fun _ _ => by simp [InboxRequest.reply]]
    refine countedIn_updateClaimed h (fun _ => Nat.le_refl _) (fun row hget hby hcounted => ?_) ?_
    · refine hcounted.same rfl fun _ hpast => ?_
      simp [sweepSees, hget, hby] at hok
      omega
    · exact fun _ => rfl
  | sweep q n db now hnow hq hexecute =>
    rcases hq with rfl | rfl | rfl
    · cases hexecute
      refine countedIn_updateMany h (fun row _ hcounted => ?_) ?_
      · exact hcounted.same rfl fun heq => by cases heq
      · exact fun _ => rfl
    · cases hexecute
      refine countedIn_updateMany h (fun row hp hcounted => ?_) ?_
      · refine hcounted.same rfl fun _ hpast => ?_
        simp at hp
        omega
      · exact fun _ => rfl
    · cases hexecute
      exact countedIn_deleteMany h fun row hget => by simpa [sweepSees, hget] using hok

theorem countedIn_step {started : List InboxEntry} (hstands : InboxStands points Q)
    (hstarted : points.map Prod.fst = started) (hok : sweepSees identity Q l)
    (h : CountedIn identity times config Q.store.db) (hstep : Step (inboxSystem config) Q l R) :
    CountedIn identity (times + counting identity started l) config R.store.db := by
  cases l with
  | start e =>
    cases hstep
    exact h
  | raised i q =>
    cases hstep
    exact h
  | served i q a f =>
    obtain ⟨e, he, hacts⟩ := acts_of_step hstands hstep
    exact countedIn_acts hacts (hstarted ▸ he) hok h

/-- A row past its last attempt that a sweep sees is parked. -/
theorem suspended_of_sweep {row : InboxMessage} {now claimedAt n : Nat}
    (hrow : Q.store.db.get? identity = some row) (hstatus : row.status = .inProgress)
    (hclaimed : row.claimedAt = some claimedAt) (hpast : config.maxAttempts < row.attempts)
    (hlate : claimedAt + config.claimLeaseMs < now)
    (hserves : (inboxSystem config).Serves (.statement (.suspendExpired now)) Q.store n R.store) :
    ∃ row', R.store.db.get? identity = some row' ∧ row'.status = .suspended := by
  obtain ⟨_, db, hexecute, hR⟩ := serves_statement.mp hserves
  have hdb : _ = db := congrArg Prod.snd (Option.some.inj hexecute)
  rw [hR, ← hdb, Table.get?_updateMany, hrow]
  have hseen : (row.lapsed config now && config.maxAttempts < row.attempts) = true := by
    simp [InboxMessage.lapsed, hstatus, hclaimed, hlate, hpast]
  exact ⟨_, rfl, by simp [hseen]⟩

/-- A parked row stays. -/
theorem suspended_step {row : InboxMessage} (hstands : InboxStands points Q)
    (hrow : Q.store.db.get? identity = some row) (hstatus : row.status = .suspended)
    (hstep : Step (inboxSystem config) Q l R) : R.store.db.get? identity = some row := by
  cases l with
  | start e =>
    cases hstep
    exact hrow
  | raised i q =>
    cases hstep
    exact hrow
  | served i q a f =>
    obtain ⟨e, _, hacts⟩ := acts_of_step hstands hstep
    refine acts_ended hacts hrow (by simp [hstatus]) fun now _ => ?_
    simp [InboxMessage.purgeable, hstatus]

end Steps

section Runs

variable {Q R : Pool (inboxSystem config)} {l : Label (inboxSystem config)}
variable {trace : List (Label (inboxSystem config))} {identity : InboxIdentity}

theorem countedIn_of_run {now : Nat}
    (hrun : Run (sweepSees identity) (emptyInbox config now) trace Q) :
    CountedIn identity (handOuts identity trace) config Q.store.db := by
  induction hrun with
  | nil => rfl
  | @snoc trace Q R l hrun hok hstep ih =>
    obtain ⟨points, hentries, hstands⟩ := stands_of_run hrun
    have hstep' := countedIn_step hstands hentries hok ih hstep
    unfold handOuts
    rw [countAlong_snoc]
    exact hstep'

/-- Where every failure past the last attempt is left for a sweep to see, a message is handed out
at most once more than the attempts it may have, and is parked by the next sweep after its last
claim has lapsed, for good. -/
theorem poison_is_parked {now : Nat}
    (hrun : Run (sweepSees identity) (emptyInbox config now) trace Q) :
    handOuts identity trace ≤ config.maxAttempts + 1 ∧
      ∀ row, Q.store.db.get? identity = some row →
        handOuts identity trace ≤ row.attempts ∧ row.attempts ≤ config.maxAttempts + 1 ∧
        (row.status = .inProgress → config.maxAttempts < row.attempts →
          ∃ claimedAt, row.claimedAt = some claimedAt ∧
            ∀ i time n f R, claimedAt + config.claimLeaseMs < time →
              Step (inboxSystem config) Q (.served i (.statement (.suspendExpired time)) n f) R →
              ∃ row', R.store.db.get? identity = some row' ∧ row'.status = .suspended) ∧
        (row.status = .suspended → ∀ l R, Step (inboxSystem config) Q l R →
          R.store.db.get? identity = some row) := by
  have hcounted := countedIn_of_run hrun
  unfold CountedIn at hcounted
  constructor
  · cases hget : Q.store.db.get? identity with
    | none =>
      rw [hget] at hcounted
      have hzero : handOuts identity trace = 0 := hcounted
      omega
    | some row =>
      rw [hget] at hcounted
      exact Nat.le_trans hcounted.times hcounted.bound
  · intro row hget
    rw [hget] at hcounted
    refine ⟨hcounted.times, hcounted.bound, fun hstatus hpast => ?_, fun hstatus l R hstep => ?_⟩
    · obtain ⟨claimedAt, hclaimed⟩ := Option.isSome_iff_exists.mp (hcounted.claimed hstatus hpast)
      refine ⟨claimedAt, hclaimed, fun i time n f R hlate hstep => ?_⟩
      exact suspended_of_sweep hget hstatus hclaimed hpast hlate hstep.answered
    · obtain ⟨points, _, hstands⟩ := stands_of_run hrun
      exact suspended_step hstands hget hstatus hstep

def failed (thread : Nat) (reservation : InboxReservation) (now : Nat) :
    List (Move (inboxSystem demo)) :=
  [.start (.fail reservation none), .serve thread (.clock now), answer thread]

def swept (thread now : Nat) : List (Move (inboxSystem demo)) :=
  [.start .reconcile, .serve thread (.clock now), answer thread, answer thread,
    .serve thread (.clock now), answer thread]

/-- A handler that fails every time, with a sweep after each failure: the message is parked never,
and handed out more often than it may be. -/
theorem handed_out_again : ∃ (Q : Pool (inboxSystem demo)) (trace : List (Label (inboxSystem demo))),
    Run (fun _ _ => True) (emptyInbox demo 0) trace Q ∧
      demo.maxAttempts + 1 < handOuts message trace ∧
      (Q.store.db.get? message).map (fun row => (row.status, row.attempts)) =
        some (.inProgress, 3) := by
  have hplay : ((((emptyInbox demo 0).record (fun _ _ => True)
      (arrive 0 "r" "t" 0 ++ [answer 0] ++ failed 1 ⟨"r", "t"⟩ 1 ++ swept 2 500 ++
        arrive 3 "r2" "t2" 600 ++ [answer 3, answer 3, answer 3] ++ failed 4 ⟨"r", "t2"⟩ 601 ++
        swept 5 1000 ++ arrive 6 "r3" "t3" 1100 ++ [answer 6, answer 6, answer 6])).map fun r =>
      decide (demo.maxAttempts + 1 < handOuts message r.1 ∧
        (r.2.store.db.get? message).map (fun row => (row.status, row.attempts)) =
          some (.inProgress, 3))) = some true) := by
    decide
  exact Pool.record_reach hplay

/-- Failed once, then crashed: parked by the sweep. -/
theorem poison_is_parked_crashed : ∃ (Q : Pool (inboxSystem demo))
    (trace : List (Label (inboxSystem demo))) (row : InboxMessage),
    Q.store.db.get? message = some row ∧ row.status = .suspended ∧
      handOuts message trace ≤ demo.maxAttempts + 1 ∧
      ∀ l R, Step (inboxSystem demo) Q l R → R.store.db.get? message = some row := by
  have hplay : ((((emptyInbox demo 0).play (sweepSees message)
      (arrive 0 "r" "t" 0 ++ [answer 0] ++ failed 1 ⟨"r", "t"⟩ 1 ++
        arrive 2 "r2" "t2" 600 ++ [answer 2, answer 2, answer 2] ++ swept 3 1000)).map fun Q =>
      decide ((Q.store.db.get? message).map (·.status) = some .suspended)) = some true) := by
    decide
  obtain ⟨Q, trace, hrun, hstatus⟩ := Pool.play_reach hplay
  obtain ⟨row, hrow, hsuspended⟩ := Option.map_eq_some_iff.mp hstatus
  obtain ⟨htimes, hrows⟩ := poison_is_parked hrun
  exact ⟨Q, trace, row, hrow, hsuspended, htimes, (hrows row hrow).2.2.2 hsuspended⟩

end Runs

end DddBoilerplate.Messaging
