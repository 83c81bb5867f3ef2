/- module: DddBoilerplate/Messaging/InboxExclusivity
   generality: I
   digest: One live claim on a message at a time, one completion, and only duplicates after it. -/

import DddBoilerplate.Messaging.InboxTokens

set_option autoImplicit false
set_option relaxedAutoImplicit false
set_option linter.all false

namespace DddBoilerplate.Messaging

open Concurrency Store

variable {config : InboxSweepConfig}

/-- An inbox no message has come to yet. -/
def emptyInbox (config : InboxSweepConfig) (now : Nat) : Pool (inboxSystem config) :=
  ⟨⟨Table.empty, now, []⟩, []⟩

/-- The receive that returns with this step: its thread, its message and its result. -/
def returned (started : List InboxEntry) :
    Label (inboxSystem config) → Option (Nat × InboxIdentity × InboxReceiveResult)
  | .served i (.statement (.message q)) a .finished =>
    match started[i]? with
    | some (.receive identity) => some (i, identity, q.reply a)
    | _ => none
  | _ => none

/-- A reservation is completed or failed. -/
def settles (reservation : InboxReservation) : Label (inboxSystem config) → Prop
  | .served _ (.statement (.message (.complete id claimToken _))) completed _ =>
    (completed : Bool) = true ∧ reservation = ⟨id, claimToken⟩
  | .served _ (.statement (.message (.fail id claimToken _ _))) failed _ =>
    (failed : Bool) = true ∧ reservation = ⟨id, claimToken⟩
  | _ => False

/-- A message is completed: its row is the one the call still owns. -/
def completes (identity : InboxIdentity) (P : Pool (inboxSystem config)) :
    Label (inboxSystem config) → Prop
  | .served _ (.statement (.message (.complete id claimToken _))) _ _ =>
    (P.store.db.get? identity).any (·.claimedBy id claimToken) = true
  | _ => False

instance (identity : InboxIdentity) (P : Pool (inboxSystem config))
    (l : Label (inboxSystem config)) : Decidable (completes identity P l) := by
  unfold completes
  split <;> infer_instance

/-- The purge does not take this message yet. -/
def purgeNotReached (identity : InboxIdentity) (P : Pool (inboxSystem config)) :
    Label (inboxSystem config) → Prop
  | .served _ (.statement (.deleteProcessedOlderThan now)) _ _ =>
    (P.store.db.get? identity).any (·.purgeable config now) = false
  | _ => True

instance (identity : InboxIdentity) (P : Pool (inboxSystem config))
    (l : Label (inboxSystem config)) : Decidable (purgeNotReached identity P l) := by
  unfold purgeNotReached
  split <;> infer_instance

/-- The row is under a reservation, claimed at this time. -/
def Held (identity : InboxIdentity) (reservation : InboxReservation) (claimedAt : Nat)
    (w : World InboxDb) : Prop :=
  ∃ row, w.db.get? identity = some row ∧ row.id = reservation.id ∧
    row.claimToken = reservation.claimToken ∧ row.status = .inProgress ∧
      row.claimedAt = some claimedAt

section Statements

variable {db : InboxDb} {identity : InboxIdentity}

theorem get?_updateClaimed {id claimToken : String} {f : InboxMessage → InboxMessage}
    {hf : ∀ row, (f row).identity = row.identity} :
    (updateClaimed db id claimToken f hf).2.get? identity =
      (db.get? identity).map fun row => if row.claimedBy id claimToken then f row else row := by
  unfold updateClaimed
  rw [Table.get?_update]

theorem claimedBy_iff {row : InboxMessage} {id claimToken : String} :
    row.claimedBy id claimToken = true ↔
      row.id = id ∧ row.claimToken = claimToken ∧ row.status = .inProgress := by
  simp [InboxMessage.claimedBy, and_assoc]

/-- An insertion changes no row that is there. -/
theorem get?_insertIfAbsent {other : InboxIdentity} {id claimToken : String} {now : Nat}
    {row : InboxMessage} (h : db.get? identity = some row) :
    (InboxRequest.serve config.toInboxConfig db
      (.insertIfAbsent other id claimToken now)).2.get? identity = some row := by
  dsimp only [InboxRequest.serve]
  split
  · exact h
  · rename_i habsent
    rw [Table.get?_insert habsent]
    have hne : other ≠ identity := by
      rintro rfl
      rw [h] at habsent
      cases habsent
    simp [hne, h]

/-- Rows the statement does not touch stay. -/
theorem get?_updateMany_of_not {p : InboxMessage → Bool} {f : InboxMessage → InboxMessage}
    {row : InboxMessage} (h : db.get? identity = some row) (hp : p row = false)
    (hf : ∀ row, (f row).identity = row.identity) :
    (db.updateMany p f hf).2.get? identity = some row := by
  rw [Table.get?_updateMany, h]
  simp [hp]

theorem get?_updateClaimed_of_not {id claimToken : String} {f : InboxMessage → InboxMessage}
    {row : InboxMessage} (h : db.get? identity = some row)
    (hnot : ¬ row.claimedBy id claimToken = true) (hf : ∀ row, (f row).identity = row.identity) :
    (updateClaimed db id claimToken f hf).2.get? identity = some row := by
  rw [get?_updateClaimed, h]
  simp [hnot]

end Statements

section Steps

variable {P Q R : Pool (inboxSystem config)} {l : Label (inboxSystem config)}
variable {trace : List (Label (inboxSystem config))} {points : List (InboxEntry × InboxPoint)}
variable {identity : InboxIdentity} {reservation : InboxReservation} {claimedAt : Nat}

/-- The callers of a pool at their points. -/
abbrev InboxStands (points : List (InboxEntry × InboxPoint)) (P : Pool (inboxSystem config)) :
    Prop :=
  @Annotated.Stands (inboxSystem config) InboxPoint (InboxAt config) TokensDistinct (Knows config)
    Strangers points P

theorem stands_of_run {ok : Pool (inboxSystem config) → Label (inboxSystem config) → Prop}
    {now : Nat} (hrun : Run ok (emptyInbox config now) trace Q) :
    ∃ points, points.map Prod.fst = entries trace ∧ InboxStands points Q := by
  have hempty : TokensDistinct (emptyInbox config now).store :=
    ⟨fun _ h => (by cases h), fun _ h => (by cases h)⟩
  obtain ⟨points, hentries, hstands⟩ :=
    (Annotated.stands_of_no_threads hempty rfl).run (inbox_annotated ok) hrun
  exact ⟨points, by simpa using hentries, hstands⟩

/-- The lease has run out. -/
def Lapsed (config : InboxSweepConfig) (claimedAt : Nat) (w : World InboxDb) : Prop :=
  claimedAt + config.claimLeaseMs ≤ w.now

theorem due_of_reclaimable {row : InboxMessage} {now : Nat}
    (h : row.reclaimable config.toInboxConfig now = true) (hclaimed : row.claimedAt = some claimedAt) :
    claimedAt + config.claimLeaseMs ≤ now := by
  simp only [InboxMessage.reclaimable, hclaimed, Option.any_some, Bool.and_eq_true,
    Bool.not_eq_true', decide_eq_false_iff_not, not_lt] at h
  exact h.1.2

theorem due_of_lapsed {row : InboxMessage} {now : Nat} (h : row.lapsed config now = true)
    (hclaimed : row.claimedAt = some claimedAt) : claimedAt + config.claimLeaseMs < now := by
  simp only [InboxMessage.lapsed, hclaimed, Option.any_some, Bool.and_eq_true,
    decide_eq_true_eq] at h
  exact h.2

/-- A caller that reclaims a held row has seen its lease run out. -/
theorem Found.lapsed {e : InboxEntry} {token : Option String} {now : Nat}
    {existing row : InboxMessage} {w : World InboxDb}
    (h : Found config e ⟨token, some now, some existing⟩ existing w) (hnow : now ≤ w.now)
    (hrow : row ∈ w.db.rows) (hby : row.claimedBy existing.id existing.claimToken = true)
    (hclaimed : row.claimedAt = some claimedAt) : Lapsed config claimedAt w := by
  obtain ⟨_, _, _, ⟨reading, hreading, hdue⟩, hstays⟩ := h
  cases hreading
  rcases (hstays row hrow (claimedBy_iff.mp hby).2.1).2 with hsame | hnone
  · exact Nat.le_trans (due_of_reclaimable hdue (hsame.symm.trans hclaimed)) hnow
  · rw [hnone] at hclaimed
    cases hclaimed

/-- A served call, by what it does. -/
theorem acts_of_step {i : Nat} {q : WorldRequest InboxStatement.interface} {a : q.Answer}
    {f : Front InboxStatement.interface.world} (hstands : InboxStands points Q)
    (hstep : Step (inboxSystem config) Q (.served i q a f) R) :
    ∃ e, (points.map Prod.fst)[i]? = some e ∧ Acts config Q.store e q a R.store.db := by
  obtain ⟨e, k, next, hpoint, hat, hk, _, hserves⟩ := hstands.served hstep
  exact ⟨e, by simp [hpoint], acts_of_served hat hk hserves⟩

/-- A row in progress stays as it is unless a call owns it or has seen its lease run out. -/
theorem acts_keeps {e : InboxEntry} {q : WorldRequest InboxStatement.interface} {a : q.Answer}
    {w : World InboxDb} {db : InboxDb} {row : InboxMessage} (h : Acts config w e q a db)
    (hrow : w.db.get? identity = some row) (hstatus : row.status = .inProgress)
    (hclaimed : row.claimedAt = some claimedAt) :
    db.get? identity = some row ∨ Lapsed config claimedAt w ∨
      ∃ reservation : InboxReservation, row.claimedBy reservation.id reservation.claimToken = true ∧
        ∀ i f, @settles config reservation (.served i q a f) := by
  have hmem := Table.mem_of_get? hrow
  cases h with
  | clock e now => exact .inl hrow
  | randomUUID e id => exact .inl hrow
  | insertIfAbsent other id token now => exact .inl (get?_insertIfAbsent hrow)
  | findUnique other => exact .inl hrow
  | reclaim token now existing hfound hnow =>
    by_cases hby : row.claimedBy existing.id existing.claimToken = true
    · exact .inr (.inl (hfound.lapsed hnow hmem hby hclaimed))
    · refine .inl (get?_updateClaimed_of_not hrow hby ?_)
      exact fun _ => rfl
  | complete reservation now =>
    by_cases hby : row.claimedBy reservation.id reservation.claimToken = true
    · exact .inr (.inr ⟨reservation, hby, fun _ _ =>
        ⟨List.any_eq_true.mpr ⟨row, hmem, hby⟩, rfl⟩⟩)
    · refine .inl (get?_updateClaimed_of_not hrow hby ?_)
      exact fun _ => rfl
  | fail reservation lastError now =>
    by_cases hby : row.claimedBy reservation.id reservation.claimToken = true
    · exact .inr (.inr ⟨reservation, hby, fun _ _ =>
        ⟨List.any_eq_true.mpr ⟨row, hmem, hby⟩, rfl⟩⟩)
    · refine .inl (get?_updateClaimed_of_not hrow hby ?_)
      exact fun _ => rfl
  | sweep q n db now hnow hq hexecute =>
    by_cases hlapsed : row.lapsed config now = true
    · exact .inr (.inl (Nat.le_trans (Nat.le_of_lt (due_of_lapsed hlapsed hclaimed)) hnow))
    · rcases hq with rfl | rfl | rfl
      · cases hexecute
        refine .inl (get?_updateMany_of_not hrow (by simp [hlapsed]) ?_)
        exact fun _ => rfl
      · cases hexecute
        refine .inl (get?_updateMany_of_not hrow (by simp [hlapsed]) ?_)
        exact fun _ => rfl
      · cases hexecute
        refine .inl (Table.get?_deleteMany.mpr ⟨hrow, ?_⟩)
        simp [InboxMessage.purgeable, hstatus]

/-- A claim stays until its reservation is settled or its lease has run out. -/
theorem held_step (hstands : InboxStands points Q) (hunsettled : ¬ settles reservation l)
    (hheld : Held identity reservation claimedAt Q.store) (hstep : Step (inboxSystem config) Q l R) :
    Held identity reservation claimedAt R.store ∨ Lapsed config claimedAt R.store := by
  cases l with
  | start e =>
    cases hstep
    exact .inl hheld
  | raised i q =>
    cases hstep
    exact .inl hheld
  | served i q a f =>
    obtain ⟨e, _, hacts⟩ := acts_of_step hstands hstep
    obtain ⟨row, hrow, hid, htoken, hstatus, hclaimed⟩ := hheld
    rcases acts_keeps hacts hrow hstatus hclaimed with hkept | hlapsed | ⟨settled, hby, hsettles⟩
    · exact .inl ⟨row, hkept, hid, htoken, hstatus, hclaimed⟩
    · exact .inr (Nat.le_trans hlapsed (later_of_step hstep).now)
    · obtain ⟨hid', htoken', _⟩ := claimedBy_iff.mp hby
      have hsame : settled = reservation := by
        cases settled
        cases reservation
        simp_all
      exact absurd (hsame ▸ hsettles i f) hunsettled

theorem held_run {trace' : List (Label (inboxSystem config))} (hstands : InboxStands points Q)
    (hheld : Held identity reservation claimedAt Q.store)
    (hrun : Run (fun _ l => ¬ settles reservation l) Q trace' R) :
    Held identity reservation claimedAt R.store ∨ Lapsed config claimedAt R.store := by
  induction hrun with
  | nil => exact .inl hheld
  | @snoc trace' S R l hrun hunsettled hstep ih =>
    obtain ⟨points', _, hstands'⟩ := hstands.run (inbox_annotated _) hrun
    rcases ih with hheld | hlapsed
    · exact held_step hstands' hunsettled hheld hstep
    · exact .inr (Nat.le_trans hlapsed (later_of_step hstep).now)

theorem returned_entry {started : List InboxEntry} {i : Nat} {result : InboxReceiveResult}
    (h : returned started l = some (i, identity, result)) :
    started[i]? = some (.receive identity) := by
  unfold returned at h
  split at h
  · split at h
    · rename_i hentry
      cases h
      exact hentry
    · cases h
  · cases h

/-- A receive that returns, by the answer it returns on. -/
theorem returned_cases {i : Nat} {result : InboxReceiveResult} (hstands : InboxStands points Q)
    (hstep : Step (inboxSystem config) Q l R)
    (h : returned (points.map Prod.fst) l = some (i, identity, result)) :
    ∃ (q : InboxRequest) (a : q.Answer),
      l = .served i (.statement (.message q)) a .finished ∧ result = q.reply a ∧
        Acts config Q.store (.receive identity) (.statement (.message q)) a R.store.db := by
  unfold returned at h
  split at h
  · rename_i j q a
    obtain ⟨e, hentry, hacts⟩ := acts_of_step hstands hstep
    rw [hentry] at h
    cases e with
    | receive other =>
      cases h
      exact ⟨q, a, rfl, rfl, hacts⟩
    | complete reservation => cases h
    | fail reservation lastError => cases h
    | reconcile => cases h
  · cases h

/-- The row a caller that found it reclaims is the row of its message. -/
theorem Found.reclaimed {e : InboxEntry} {k : InboxPoint} {existing : InboxMessage}
    {w : World InboxDb} (h : Found config e k existing w)
    (hany : w.db.rows.any (·.claimedBy existing.id existing.claimToken) = true) :
    ∃ row, w.db.get? existing.identity = some row ∧
      row.claimedBy existing.id existing.claimToken = true := by
  obtain ⟨row, hmem, hby⟩ := List.any_eq_true.mp hany
  have hidentity := (h.stays row hmem (claimedBy_iff.mp hby).2.1).1
  exact ⟨row, hidentity ▸ Table.get?_of_mem hmem, hby⟩

/-- What acquired a message: its insertion, or a reclaim of a row in progress. -/
theorem acquired_cases {i : Nat} (hstands : InboxStands points Q)
    (hstep : Step (inboxSystem config) Q l R)
    (hreturned : returned (points.map Prod.fst) l = some (i, identity, .acquired reservation)) :
    (∃ now, Q.store.db.get? identity = none ∧ Held identity reservation now R.store) ∨
    ∃ existing token now row, Found config (.receive identity) ⟨some token, some now, some existing⟩
        existing Q.store ∧ now ≤ Q.store.now ∧ Q.store.db.get? identity = some row ∧
      row.claimedBy existing.id existing.claimToken = true ∧
      Held identity reservation now R.store := by
  obtain ⟨q, a, rfl, hresult, hacts⟩ := returned_cases hstands hstep hreturned
  unfold Held
  generalize R.store.db = db at hacts
  cases hacts with
  | insertIfAbsent identity id token now =>
    simp only [InboxRequest.serve] at hresult ⊢
    cases habsent : Q.store.db.get? identity with
    | some row =>
      rw [habsent] at hresult
      cases hresult
    | none =>
      rw [habsent] at hresult
      cases hresult
      refine .inl ⟨now, rfl, ⟨id, identity, .inProgress, 1, token, some now, none, none, none⟩, ?_,
        rfl, rfl, rfl, rfl⟩
      rw [Table.get?_insert habsent]
      simp
  | findUnique identity =>
    simp only [InboxRequest.reply] at hresult
    split at hresult
    · split at hresult
      · cases hresult
      · cases hresult
    · cases hresult
  | reclaim token now existing hfound hnow =>
    simp only [InboxRequest.reply] at hresult
    split at hresult
    · rename_i hany
      cases hresult
      obtain ⟨row, hrow, hby⟩ := hfound.reclaimed hany
      refine .inr ⟨existing, token, now, row, hfound, hnow, hrow, hby, ?_⟩
      dsimp only [InboxRequest.serve]
      rw [get?_updateClaimed, hrow]
      obtain ⟨hid, _, hstatus⟩ := claimedBy_iff.mp hby
      exact ⟨_, rfl, by simp [hby, hid], by simp [hby], by simp [hby, hstatus], by simp [hby]⟩
    · cases hresult

/-- A receive that acquires puts the row under its reservation. -/
theorem held_of_acquired {i : Nat} (hstands : InboxStands points Q)
    (hstep : Step (inboxSystem config) Q l R)
    (hreturned : returned (points.map Prod.fst) l = some (i, identity, .acquired reservation)) :
    ∃ claimedAt, Held identity reservation claimedAt R.store := by
  rcases acquired_cases hstands hstep hreturned with ⟨now, _, hheld⟩ | ⟨_, _, now, _, _, _, _, _, hheld⟩
  · exact ⟨now, hheld⟩
  · exact ⟨now, hheld⟩

/-- A receive acquires a held message only when the lease has run out. -/
theorem lapsed_of_acquired {i : Nat} {other : InboxReservation} (hstands : InboxStands points Q)
    (hstep : Step (inboxSystem config) Q l R)
    (hreturned : returned (points.map Prod.fst) l = some (i, identity, .acquired other))
    (hheld : Held identity reservation claimedAt Q.store) : Lapsed config claimedAt Q.store := by
  obtain ⟨row, hrow, _, _, _, hclaimed⟩ := hheld
  rcases acquired_cases hstands hstep hreturned with
    ⟨_, habsent, _⟩ | ⟨existing, token, now, row', hfound, hnow, hrow', hby, _⟩
  · rw [hrow] at habsent
    cases habsent
  · obtain rfl : row = row' := Option.some.inj (hrow.symm.trans hrow')
    exact hfound.lapsed hnow (Table.mem_of_get? hrow) hby hclaimed

/-- A completed message: its row is processed. -/
def Processed (identity : InboxIdentity) (row : InboxMessage) (w : World InboxDb) : Prop :=
  w.db.get? identity = some row ∧ row.status = .processed

/-- Completing leaves the row processed. -/
theorem processed_of_completes (hstands : InboxStands points Q)
    (hstep : Step (inboxSystem config) Q l R) (h : completes identity Q l) :
    ∃ row, Processed identity row R.store := by
  unfold completes at h
  split at h
  · rename_i i id token now a f
    obtain ⟨row, hrow, hby⟩ := (Option.any_eq_true _ _).mp h
    obtain ⟨e, _, hacts⟩ := acts_of_step hstands hstep
    unfold Processed
    generalize R.store.db = db at hacts
    cases hacts with
    | complete reservation now =>
      dsimp only [InboxRequest.serve]
      rw [get?_updateClaimed, hrow]
      exact ⟨_, rfl, by simp [hby]⟩
    | sweep q n db now hnow hq hexecute => simp at hq
  · exact h.elim

theorem not_claimedBy_of_ended {row : InboxMessage} (hstatus : row.status ≠ .inProgress)
    {id claimToken : String} : ¬ row.claimedBy id claimToken = true :=
  fun hby => hstatus (claimedBy_iff.mp hby).2.2

theorem not_completes_of_processed {row : InboxMessage} (h : Processed identity row Q.store) :
    ¬ completes identity Q l := by
  intro hcompletes
  unfold completes at hcompletes
  split at hcompletes
  · obtain ⟨row', hrow', hby⟩ := (Option.any_eq_true _ _).mp hcompletes
    obtain rfl : row = row' := Option.some.inj (h.1.symm.trans hrow')
    exact not_claimedBy_of_ended (by simp [h.2]) hby
  · exact hcompletes

/-- Nothing but the purge changes a row that is not in progress. -/
theorem acts_ended {e : InboxEntry} {q : WorldRequest InboxStatement.interface} {a : q.Answer}
    {w : World InboxDb} {db : InboxDb} {row : InboxMessage} (h : Acts config w e q a db)
    (hrow : w.db.get? identity = some row) (hstatus : row.status ≠ .inProgress)
    (hpurge : ∀ now, q = .statement (.deleteProcessedOlderThan now) →
      row.purgeable config now = false) : db.get? identity = some row := by
  have hlive : ∀ now, row.lapsed config now = false := by
    intro now
    simp [InboxMessage.lapsed, hstatus]
  cases h with
  | clock e now => exact hrow
  | randomUUID e id => exact hrow
  | insertIfAbsent other id token now => exact get?_insertIfAbsent hrow
  | findUnique other => exact hrow
  | reclaim token now existing hfound hnow =>
    refine get?_updateClaimed_of_not hrow (not_claimedBy_of_ended hstatus) ?_
    exact fun _ => rfl
  | complete reservation now =>
    refine get?_updateClaimed_of_not hrow (not_claimedBy_of_ended hstatus) ?_
    exact fun _ => rfl
  | fail reservation lastError now =>
    refine get?_updateClaimed_of_not hrow (not_claimedBy_of_ended hstatus) ?_
    exact fun _ => rfl
  | sweep q n db now hnow hq hexecute =>
    rcases hq with rfl | rfl | rfl
    · cases hexecute
      refine get?_updateMany_of_not hrow (by simp [hlive]) ?_
      exact fun _ => rfl
    · cases hexecute
      refine get?_updateMany_of_not hrow (by simp [hlive]) ?_
      exact fun _ => rfl
    · cases hexecute
      exact Table.get?_deleteMany.mpr ⟨hrow, hpurge now rfl⟩

theorem processed_step {row : InboxMessage} (hstands : InboxStands points Q)
    (hpurge : purgeNotReached identity Q l) (h : Processed identity row Q.store)
    (hstep : Step (inboxSystem config) Q l R) : Processed identity row R.store := by
  cases l with
  | start e =>
    cases hstep
    exact h
  | raised i q =>
    cases hstep
    exact h
  | served i q a f =>
    obtain ⟨e, _, hacts⟩ := acts_of_step hstands hstep
    refine ⟨acts_ended hacts h.1 (by simp [h.2]) ?_, h.2⟩
    rintro now rfl
    simpa [purgeNotReached, h.1] using hpurge

/-- A receive does not return on an insertion that was refused. -/
theorem inserting_front {e : InboxEntry} {k : InboxPoint} {id token : String} {now : Nat}
    {next : Option String → InboxProgram Unit}
    (h : InboxAt config e k
      (.ask (.statement (.message (.insertIfAbsent identity id token now))) next)) :
    (next none).front ≠ .finished := by
  cases h with
  | inserting identity id token now => nofun

theorem reclaiming_existing {e : InboxEntry} {k : InboxPoint} {id previous token : String}
    {now : Nat} {next : Bool → InboxProgram Unit}
    (h : InboxAt config e k
      (.ask (.statement (.message (.reclaim id previous token now))) next)) :
    k.existing ≠ none := by
  cases h with
  | reclaiming identity token now existing => nofun

/-- Where a receive is that found no row it could reclaim. -/
def Fresh (config : InboxSweepConfig) (identity : InboxIdentity) (e : InboxEntry)
    (p : InboxProgram Unit) : Prop :=
  e = .receive identity → ∃ k, InboxAt config e k p ∧ k.existing = none

/-- A receive that looks a processed row up finds nothing to reclaim. -/
theorem Fresh.served {e : InboxEntry} {q : WorldRequest InboxStatement.interface} {a : q.Answer}
    {next : q.Answer → InboxProgram Unit} {w w' : World InboxDb} {row : InboxMessage}
    (h : Fresh config identity e (.ask q next)) (hprocessed : Processed identity row w)
    (hserves : (inboxSystem config).Serves q w a w') : Fresh config identity e (next a) := by
  intro he
  obtain ⟨k, hat, hexisting⟩ := h he
  subst he
  cases hat with
  | begun _ => exact ⟨_, .identified identity a, rfl⟩
  | identified _ id => exact ⟨_, .drawn identity id a, rfl⟩
  | drawn _ id token =>
    refine ⟨⟨some token, some a, none⟩, ?_, rfl⟩
    show InboxAt config _ _ (receiveMessage config identity id token a >>= fun _ => .done ())
    rw [receiveMessage_eq]
    exact .inserting identity id token a
  | inserting _ id token now =>
    cases a with
    | some id => exact ⟨.idle, .returned _, rfl⟩
    | none => exact ⟨_, .looking identity token now, rfl⟩
  | looking _ token now =>
    obtain ⟨_, db, hexecute, rfl⟩ := serves_statement.mp hserves
    cases hexecute
    have hstop : row.reclaimable config.toInboxConfig now = false := by
      simp [InboxMessage.reclaimable, hprocessed.2]
    refine ⟨.idle, ?_, rfl⟩
    simpa [lookedUp, hprocessed.1, hstop] using InboxAt.returned _
  | reclaiming _ token now existing => cases hexisting

/-- A receive that returns on a processed row has not acquired; unless it had found the row
before, it returns a duplicate. -/
theorem returned_processed {i : Nat} {result : InboxReceiveResult} {row : InboxMessage}
    (hstands : InboxStands points Q) (hstep : Step (inboxSystem config) Q l R)
    (hprocessed : Processed identity row Q.store)
    (h : returned (points.map Prod.fst) l = some (i, identity, result)) :
    (∀ reservation, result ≠ .acquired reservation) ∧
      ((∀ p, Q.threads[i]? = some p → Fresh config identity (.receive identity) p) →
        result = .duplicate) := by
  obtain ⟨q, a, rfl, rfl, hacts⟩ := returned_cases hstands hstep h
  obtain ⟨hrow, hstatus⟩ := hprocessed
  obtain ⟨e, k, next, _, hat, _, hfront, _⟩ := hstands.served hstep
  obtain ⟨next', hthread⟩ := hstep.asked
  generalize R.store.db = db at hacts
  cases hacts with
  | insertIfAbsent identity id token now =>
    have hrefused : (InboxRequest.serve config.toInboxConfig Q.store.db
        (.insertIfAbsent identity id token now)).1 = (none : Option String) := by
      dsimp only [InboxRequest.serve]
      rw [hrow]
    rw [hrefused] at hfront
    exact absurd hfront.symm (inserting_front hat)
  | findUnique identity =>
    simp [InboxRequest.reply, hrow, hstatus]
  | reclaim token now existing hfound hnow =>
    have hlost : (InboxRequest.serve config.toInboxConfig Q.store.db
        (.reclaim existing.id existing.claimToken token now)).1 = false := by
      rw [Bool.eq_false_iff]
      intro hany
      obtain ⟨row', hrow', hby⟩ := hfound.reclaimed hany
      obtain rfl : row = row' := Option.some.inj (hrow.symm.trans hrow')
      exact not_claimedBy_of_ended (by simp [hstatus]) hby
    rw [hlost]
    refine ⟨fun reservation heq => (by cases heq), fun hfresh => ?_⟩
    obtain ⟨k, hat, hexisting⟩ := hfresh _ hthread rfl
    exact absurd hexisting (reclaiming_existing hat)

end Steps

section Runs

variable {P Q R Q' R' : Pool (inboxSystem config)} {l l' : Label (inboxSystem config)}
variable {trace trace' : List (Label (inboxSystem config))}
variable {points : List (InboxEntry × InboxPoint)} {identity : InboxIdentity}

theorem processed_run {row : InboxMessage} (hstands : InboxStands points R)
    (h : Processed identity row R.store) (hrun : Run (purgeNotReached identity) R trace' Q) :
    Processed identity row Q.store := by
  induction hrun with
  | nil => exact h
  | snoc hrun hpurge hstep ih =>
    obtain ⟨points', _, hstands'⟩ := hstands.run (inbox_annotated _) hrun
    exact processed_step hstands' hpurge ih hstep

/-- A receive started when its row was processed never finds one to reclaim. -/
theorem fresh_run {row : InboxMessage} (hstands : InboxStands points R)
    (h : Processed identity row R.store) (hrun : Run (purgeNotReached identity) R trace' Q) {i : Nat}
    {p : InboxProgram Unit} (hi : R.threads.length ≤ i)
    (hentry : (points.map Prod.fst ++ entries trace')[i]? = some (.receive identity))
    (hp : Q.threads[i]? = some p) : Fresh config identity (.receive identity) p := by
  have hlength : (points.map Prod.fst).length = R.threads.length := by
    rw [List.length_map]
    exact hstands.threads.length_eq
  exact @Run.entered_later (inboxSystem config) (Fresh config identity)
    (fun S => Processed identity row S.store) R Q trace' _ _ i (.receive identity) p hrun hlength
    (fun hrun => processed_run hstands h hrun)
    (fun e _ => ⟨.idle, inboxAt_program e, rfl⟩)
    (fun S _ e q next a s' hprocessed _ hfresh hserves => hfresh.served hprocessed hserves)
    (fun e q next error _ _ => ⟨.idle, .threw e error, rfl⟩) hi hentry hp

/-- A message acquired is not acquired again before its reservation is settled or its lease has
run out; once completed it is completed only once, nothing but the purge changes its row, and
every receive begun since returns a duplicate. -/
theorem inbox_claims_are_exclusive {now : Nat}
    (hrun : Run (fun _ _ => True) (emptyInbox config now) trace Q)
    (hstep : Step (inboxSystem config) Q l R) :
    (∀ i reservation,
      returned (entries trace) l = some (i, identity, .acquired reservation) →
      ∃ claimedAt, Held identity reservation claimedAt R.store ∧
        ∀ {trace' Q' l' R'}, Run (fun _ l => ¬ settles reservation l) R trace' Q' →
          Step (inboxSystem config) Q' l' R' → ∀ i' other,
          returned (entries (trace ++ [l] ++ trace')) l' = some (i', identity, .acquired other) →
          claimedAt + config.claimLeaseMs ≤ Q'.store.now) ∧
    (completes identity Q l → ∃ row, Processed identity row R.store ∧
      ∀ {trace' Q'}, Run (purgeNotReached identity) R trace' Q' →
        Processed identity row Q'.store ∧
        ∀ {l' R'}, Step (inboxSystem config) Q' l' R' → ¬ completes identity Q' l' ∧
          ∀ i result, returned (entries (trace ++ [l] ++ trace')) l' = some (i, identity, result) →
            (∀ reservation, result ≠ .acquired reservation) ∧
              (R.threads.length ≤ i → result = .duplicate)) := by
  obtain ⟨points, hentries, hstands⟩ := stands_of_run hrun
  obtain ⟨points₁, hentries₁, hstands₁⟩ := hstands.step (inbox_annotated fun _ _ => True) trivial hstep
  have htotal : ∀ trace', entries (trace ++ [l] ++ trace') =
      points₁.map Prod.fst ++ entries trace' := by
    intro trace'
    rw [entries_append, entries_append, hentries₁, hentries]
  constructor
  · intro i reservation hreturned
    rw [← hentries] at hreturned
    obtain ⟨claimedAt, hheld⟩ := held_of_acquired hstands hstep hreturned
    refine ⟨claimedAt, hheld, fun {trace' Q' l' R'} hrun' hstep' i' other hreturned' => ?_⟩
    obtain ⟨points₂, hentries₂, hstands₂⟩ := hstands₁.run (inbox_annotated _) hrun'
    rw [htotal, ← hentries₂] at hreturned'
    rcases held_run hstands₁ hheld hrun' with hheld' | hlapsed
    · exact lapsed_of_acquired hstands₂ hstep' hreturned' hheld'
    · exact hlapsed
  · intro hcompletes
    obtain ⟨row, hprocessed⟩ := processed_of_completes hstands hstep hcompletes
    refine ⟨row, hprocessed, fun {trace' Q'} hrun' => ?_⟩
    have hprocessed' := processed_run hstands₁ hprocessed hrun'
    refine ⟨hprocessed', fun {l' R'} hstep' => ⟨?_, fun i result hreturned => ?_⟩⟩
    · exact not_completes_of_processed hprocessed'
    · obtain ⟨points₂, hentries₂, hstands₂⟩ := hstands₁.run (inbox_annotated _) hrun'
      rw [htotal, ← hentries₂] at hreturned
      obtain ⟨hnever, hduplicate⟩ := returned_processed hstands₂ hstep' hprocessed' hreturned
      refine ⟨hnever, fun hi => hduplicate fun p hp => ?_⟩
      refine fresh_run hstands₁ hprocessed hrun' hi ?_ hp
      rw [← hentries₂]
      exact returned_entry hreturned

/-- A lease of a hundred milliseconds, parked past the first attempt. -/
def demo : InboxSweepConfig := ⟨⟨100, 10, 50⟩, 1, 1000⟩

def message : InboxIdentity := ⟨"t", "c", "listener", "m"⟩

/-- Draws the row's identifier and the token, and reads the clock. -/
def arrive (thread : Nat) (id token : String) (now : Nat) : List (Move (inboxSystem demo)) :=
  [.start (.receive message), .serve thread (.randomUUID id), .serve thread (.randomUUID token),
    .serve thread (.clock now)]

def answer (thread : Nat) : Move (inboxSystem demo) := .serve thread (.statement ())

/-- Delivered, completed, and delivered again. -/
theorem inbox_claims_are_exclusive_completed : ∃ (S : Pool (inboxSystem demo)) (row : InboxMessage),
    S.threads.length = 3 ∧ Processed message row S.store := by
  have hplay : ((((emptyInbox demo 0).play (fun _ _ => True)
      (arrive 0 "r" "t" 5 ++ [answer 0, .start (.complete ⟨"r", "t"⟩), .serve 1 (.clock 7)])).bind
        fun Q => (Q.move (answer 1)).bind fun r =>
          (r.2.play (purgeNotReached message) (arrive 2 "r2" "t2" 9 ++ [answer 2])).map fun S =>
            decide (completes message Q r.1 ∧ S.threads.length = 3)) = some true) := by
    decide
  obtain ⟨Q, r, S, trace, trace', hrun, hstep, hrun', hcompletes, hlength⟩ :=
    Pool.play_step_reach hplay
  obtain ⟨row, _, hlater⟩ := (inbox_claims_are_exclusive hrun hstep).2 hcompletes
  exact ⟨S, row, hlength, (hlater hrun').1⟩

end Runs

end DddBoilerplate.Messaging
