/- module: DddBoilerplate/Messaging/OutboxParking
   generality: I
   digest: What a dead letter has behind it: claims past the ceiling, and a publication that failed. -/

import DddBoilerplate.Messaging.OutboxSettlement

set_option autoImplicit false
set_option relaxedAutoImplicit false
set_option linter.all false

namespace DddBoilerplate.Messaging.Outbox

open Concurrency Store

variable {config : OutboxConfig}

section Counts

/-- A claim that returned the row. -/
def claims (id : String) : Label (outboxSystem config) → Bool
  | .served _ (.statement (.claimBatch _ _)) records _ =>
    (records : List OutboxClaimedRecord).any fun record => record.id = id
  | _ => false

/-- A publication of the event that threw. -/
def failures (columns : EventColumns) : Label (outboxSystem config) → Bool
  | .served _ (.statement (.publish envelope)) outcome _ =>
    envelope = columns.toEnvelope && !Except.isOk (outcome : Except String Unit)
  | _ => false

variable {db db' : OutboxDb} {P Q : Pool (outboxSystem config)}
variable {trace : List (Label (outboxSystem config))}
variable {ok : Pool (outboxSystem config) → Label (outboxSystem config) → Prop}

/-- Only a claim that returns a row raises its attempts, and by one. -/
theorem attempts_of_executes {q : OutboxStatement} {a : q.Answer} (h : Executes db q a db')
    {i : Nat} {f : Front (outboxSystem config).interface} {row' : OutboxMessage}
    (hrow' : row' ∈ db'.messages.rows) :
    row'.attempts = 0 ∨ ∃ row ∈ db.messages.rows, row.id = row'.id ∧
      row'.attempts ≤ row.attempts + if claims row'.id (executed i q a f) then 1 else 0 := by
  have hsame : row' ∈ db.messages.rows → row'.attempts = 0 ∨ ∃ row ∈ db.messages.rows,
      row.id = row'.id ∧
        row'.attempts ≤ row.attempts + if claims row'.id (executed i q a f) then 1 else 0 :=
    fun hrow => .inr ⟨row', hrow, rfl, Nat.le_add_right _ _⟩
  cases h with
  | create request now id createdAt hfresh hnew =>
    rcases (Table.mem_insert hnew).mp hrow' with hrow | rfl
    · exact hsame hrow
    · exact .inl rfl
  | claimBatch options now claimToken claimedAt locked picked hfresh hselects =>
    obtain ⟨row, hrow, rfl⟩ := mem_claimedMessages.mp hrow'
    by_cases hpicked : row.id ∈ picked
    · simp only [hpicked, if_true]
      refine .inr ⟨row, hrow, rfl, ?_⟩
      have hget := @get?_claimedMessages db.messages picked claimToken row.id claimedAt
      rw [Table.get?_of_mem hrow, Option.map_some, if_pos hpicked] at hget
      have hrecord : (row.claim claimToken claimedAt).toClaimedRecord claimToken now ∈
          claimedRecords (claimedMessages db.messages picked claimToken claimedAt) picked
            claimToken now :=
        List.mem_map.mpr ⟨_, List.mem_filterMap.mpr ⟨row.id, hpicked, hget⟩, rfl⟩
      have hclaims : claims (row.claim claimToken claimedAt).id (executed i
          (.claimBatch options now) (claimedRecords (claimedMessages db.messages picked claimToken
            claimedAt) picked claimToken now) f) = true :=
        List.any_eq_true.mpr ⟨_, hrecord, decide_eq_true rfl⟩
      rw [if_pos hclaims]
      exact Nat.le_refl _
    · simp only [hpicked, if_false]
      exact .inr ⟨row, hrow, rfl, Nat.le_add_right _ _⟩
  | publish envelope outcome => exact hsame hrow'
  | emit envelope => exact hsame hrow'
  | findClaimed id claimToken => exact hsame hrow'
  | markPublished id claimToken now n =>
    have hpublish := fun row : OutboxMessage => row.publish_id now
    obtain ⟨row, hrow, rfl⟩ := (mem_settledMessages hpublish).mp hrow'
    refine .inr ⟨row, hrow, ?_, ?_⟩
    · split <;> rfl
    · split <;> exact Nat.le_add_right _ _
  | settleFailed id claimToken error status nextRetryAt n =>
    have hsettle := fun row : OutboxMessage => row.settleFailed_id error status nextRetryAt
    obtain ⟨row, hrow, rfl⟩ := (mem_settledMessages hsettle).mp hrow'
    refine .inr ⟨row, hrow, ?_, ?_⟩
    · split <;> rfl
    · split <;> exact Nat.le_add_right _ _
  | deletePublishedOlderThan hours now n =>
    have hget := Table.get?_deleteMany.mp (Table.get?_of_mem hrow')
    exact hsame (Table.mem_of_get? hget.1)

theorem attempts_le_claims (hP : Begins P) (hrun : Run ok P trace Q) :
    ∀ row ∈ Q.store.db.messages.rows, row.attempts ≤ trace.countP (claims row.id) := by
  induction hrun with
  | nil =>
    intro row hrow
    rw [hP.messages] at hrow
    cases hrow
  | @snoc trace Q R l hrun hok hstep ih =>
    intro row hrow
    rw [List.countP_append, List.countP_singleton]
    rcases db_of_step hstep with hsame | ⟨i, q, a, f, choice, rfl, hexecute⟩
    · rw [hsame] at hrow
      exact Nat.le_trans (ih row hrow) (Nat.le_add_right _ _)
    · rcases attempts_of_executes (executes_of_execute hexecute) hrow with
        hnew | ⟨old, hold, hid, hattempts⟩
      · rw [hnew]
        exact Nat.zero_le _
      · have hearlier := ih old hold
        rw [hid] at hearlier
        exact Nat.le_trans hattempts (Nat.add_le_add_right hearlier _)

theorem failures_pos {columns : EventColumns} (h : Attempted trace columns false) :
    0 < trace.countP (failures columns) := by
  obtain ⟨i, outcome, f, hmem, houtcome⟩ := h
  refine List.countP_pos_iff.mpr ⟨_, hmem, ?_⟩
  simp [failures, houtcome]

end Counts

section Runs

variable {P Q : Pool (outboxSystem config)} {trace : List (Label (outboxSystem config))}

/-- A dead letter was claimed more often than it may be attempted, and a publication of it was
attempted and failed. -/
theorem parked_after_claims (hP : Begins P) (hrun : Run (fun _ _ => True) P trace Q) {id : String}
    {row : OutboxMessage} (hrow : Q.store.db.messages.get? id = some row)
    (hstatus : row.status = .deadLetter) :
    config.maxAttempts < trace.countP (claims id) ∧
      0 < trace.countP (failures row.toEventColumns) := by
  have hmem := Table.mem_of_get? hrow
  obtain ⟨hexhausted, hfailed⟩ := (sound_of_run hP hrun row hmem).parked hstatus
  obtain rfl := Table.key_of_get? hrow
  constructor
  · exact Nat.lt_of_lt_of_le hexhausted (attempts_le_claims hP hrun row hmem)
  · exact failures_pos (attempted_of_run hP hrun hfailed)

/-- The publication throws, the clock is read, the row is looked up and settled. -/
def refused (thread now : Nat) : List (Move (outboxSystem demo)) :=
  [.serve thread (.statement (.published (.error "broker down"))), .serve thread (.clock now),
    .serve thread (.statement .settled), .serve thread (.statement .settled)]

/-- A dispatcher dies with its claim, and the next one's publication fails: one failure, where
parking would take more than one. -/
theorem parked_after_one_failure :
    ∃ (Q : Pool (outboxSystem demo)) (trace : List (Label (outboxSystem demo)))
      (row : OutboxMessage), Run (fun _ _ => True) (emptyOutbox demo) trace Q ∧
        Q.store.db.messages.get? "m" = some row ∧ row.status = .deadLetter ∧
        ¬ demo.maxAttempts < trace.countP (failures row.toEventColumns) := by
  have hplay : ((((emptyOutbox demo).record (fun _ _ => True)
      (appended 0 5 ++ claimed 1 6 "a" ++ claimed 2 110 "b" ++ refused 2 115)).map fun r =>
      decide ((r.2.store.db.messages.get? "m").any (fun row => row.status = .deadLetter ∧
        ¬ demo.maxAttempts < r.1.countP (failures row.toEventColumns)) = true)) = some true) := by
    decide
  have hreach : ∃ (Q : Pool (outboxSystem demo)) (trace : List (Label (outboxSystem demo))),
      Run (fun _ _ => True) (emptyOutbox demo) trace Q ∧
        (Q.store.db.messages.get? "m").any (fun row => row.status = .deadLetter ∧
          ¬ demo.maxAttempts < trace.countP (failures row.toEventColumns)) = true :=
    Pool.record_reach hplay
  obtain ⟨Q, trace, hrun, hrow⟩ := hreach
  obtain ⟨row, hrow, hparked⟩ := (Option.any_eq_true _ _).mp hrow
  obtain ⟨hstatus, hfailures⟩ := of_decide_eq_true hparked
  exact ⟨Q, trace, row, hrun, hrow, hstatus, hfailures⟩

theorem parked_after_claims_demo :
    ∃ (Q : Pool (outboxSystem demo)) (trace : List (Label (outboxSystem demo)))
      (row : OutboxMessage), Q.store.db.messages.get? "m" = some row ∧
        row.status = .deadLetter ∧ demo.maxAttempts < trace.countP (claims "m") := by
  have hplay : ((((emptyOutbox demo).play (fun _ _ => True)
      (appended 0 5 ++ claimed 1 6 "a" ++ refused 1 8 ++ claimed 2 110 "b" ++
        refused 2 115)).map fun Q =>
      decide ((Q.store.db.messages.get? "m").map (·.status) = some .deadLetter)) = some true) := by
    decide
  obtain ⟨Q, trace, hrun, hrows⟩ := Pool.play_reach hplay
  obtain ⟨row, hrow, hstatus⟩ := Option.map_eq_some_iff.mp hrows
  have hparked := parked_after_claims begins_emptyOutbox hrun hrow hstatus
  exact ⟨Q, trace, row, hrow, hstatus, hparked.1⟩

end Runs

end DddBoilerplate.Messaging.Outbox
