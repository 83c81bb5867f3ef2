/- module: DddBoilerplate/Messaging/OutboxClaims
   generality: I
   digest: What the statements make of the rows of the outbox, and what each dispatcher knows of its claims. -/

import DddBoilerplate.Concurrency.Entries
import DddBoilerplate.Messaging.Outbox

set_option autoImplicit false
set_option relaxedAutoImplicit false
set_option linter.all false

namespace DddBoilerplate.Messaging.Outbox

open Concurrency Store

section Statements

/-- The records a claim returns. -/
def claimedRecords (messages : Table OutboxMessage.id) (picked : List String)
    (claimToken : String) (now : Nat) : List OutboxClaimedRecord :=
  (picked.filterMap messages.get?).map fun row => row.toClaimedRecord claimToken now

/-- The rows after a claim. -/
def claimedMessages (messages : Table OutboxMessage.id) (picked : List String)
    (claimToken : String) (claimedAt : Nat) : Table OutboxMessage.id :=
  (messages.updateMany (fun row => row.id ∈ picked) (fun row => row.claim claimToken claimedAt)
    fun row => row.claim_id claimToken claimedAt).2

/-- The rows after a settlement. -/
def settledMessages (messages : Table OutboxMessage.id) (id claimToken : String)
    (f : OutboxMessage → OutboxMessage) (hf : ∀ row, (f row).id = row.id) :
    Table OutboxMessage.id :=
  (messages.updateMany (·.claimedBy id claimToken) f hf).2

theorem get?_claimedMessages {messages : Table OutboxMessage.id} {picked : List String}
    {claimToken id : String} {claimedAt : Nat} :
    (claimedMessages messages picked claimToken claimedAt).get? id =
      (messages.get? id).map fun row =>
        if row.id ∈ picked then row.claim claimToken claimedAt else row := by
  rw [claimedMessages, Table.get?_updateMany]
  simp

theorem get?_settledMessages {messages : Table OutboxMessage.id} {id claimToken key : String}
    {f : OutboxMessage → OutboxMessage} {hf : ∀ row, (f row).id = row.id} :
    (settledMessages messages id claimToken f hf).get? key =
      (messages.get? key).map fun row => if row.claimedBy id claimToken then f row else row := by
  rw [settledMessages, Table.get?_updateMany]

theorem mem_claimedMessages {messages : Table OutboxMessage.id} {picked : List String}
    {claimToken : String} {claimedAt : Nat} {row : OutboxMessage} :
    row ∈ (claimedMessages messages picked claimToken claimedAt).rows ↔
      ∃ original ∈ messages.rows,
        (if original.id ∈ picked then original.claim claimToken claimedAt else original) = row := by
  rw [claimedMessages, Table.mem_updateMany]
  simp

theorem mem_settledMessages {messages : Table OutboxMessage.id} {id claimToken : String}
    {f : OutboxMessage → OutboxMessage} (hf : ∀ row, (f row).id = row.id) {row : OutboxMessage} :
    row ∈ (settledMessages messages id claimToken f hf).rows ↔
      ∃ original ∈ messages.rows,
        (if original.claimedBy id claimToken then f original else original) = row := by
  rw [settledMessages, Table.mem_updateMany]

/-- A statement, one answer it may give, and the outbox it leaves. -/
inductive Executes (db : OutboxDb) : (q : OutboxStatement) → q.Answer → OutboxDb → Prop where
  | create (request : AppendOutboxEventRequest) (now : Nat) (id : String) (createdAt : Nat)
      (hfresh : id ∉ db.drawn) (hnew : db.messages.get? id = none) :
      Executes db (.create request now) (request.toRow id now createdAt)
        { db with
          messages := db.messages.insert (request.toRow id now createdAt), drawn := id :: db.drawn }
  | claimBatch (options : ClaimOutboxOptions) (now : Nat) (claimToken : String) (claimedAt : Nat)
      (locked picked : List String) (hfresh : claimToken ∉ db.drawn)
      (hselects : Selects db.messages options now locked picked) :
      Executes db (.claimBatch options now)
        (claimedRecords (claimedMessages db.messages picked claimToken claimedAt) picked claimToken
          now)
        { db with
          messages := claimedMessages db.messages picked claimToken claimedAt
          drawn := claimToken :: db.drawn }
  | publish (envelope : OutboxEnvelope) (outcome : Except String Unit) :
      Executes db (.publish envelope) outcome
        { db with publications := (envelope, outcome.isOk) :: db.publications }
  | emit (envelope : OutboxEnvelope) : Executes db (.emit envelope) () db
  | markPublished (id claimToken : String) (now n : Nat) :
      Executes db (.markPublished id claimToken now) n
        { db with
          messages := settledMessages db.messages id claimToken (·.publish now)
            fun row => row.publish_id now }
  | findClaimed (id claimToken : String) :
      Executes db (.findClaimed id claimToken)
        (db.messages.rows.find? (·.claimedBy id claimToken)) db
  | settleFailed (id claimToken error : String) (status : OutboxStatus) (nextRetryAt : Option Nat)
      (n : Nat) : Executes db (.settleFailed id claimToken error status nextRetryAt) n
        { db with
          messages := settledMessages db.messages id claimToken
            (·.settleFailed error status nextRetryAt)
            fun row => row.settleFailed_id error status nextRetryAt }
  | deletePublishedOlderThan (hours now n : Nat) :
      Executes db (.deletePublishedOlderThan hours now) n
        { db with messages := (db.messages.deleteMany (·.purgeable hours now)).2 }

variable {db db' : OutboxDb} {choice : OutboxChoice}

theorem executes_of_execute {q : OutboxStatement} {a : q.Answer}
    (h : q.execute choice db = some (a, db')) : Executes db q a db' := by
  cases q with
  | create request now =>
    cases choice with
    | created id createdAt =>
      dsimp only [OutboxStatement.execute] at h
      split at h
      · cases h
      · rename_i hfree
        cases h
        simp only [not_or, Option.not_isSome_iff_eq_none] at hfree
        exact .create request now id createdAt hfree.1 hfree.2.1
    | claimed claimToken claimedAt locked picked => cases h
    | published outcome => cases h
    | settled => cases h
  | claimBatch options now =>
    cases choice with
    | claimed claimToken claimedAt locked picked =>
      dsimp only [OutboxStatement.execute] at h
      split at h
      · rename_i hpicked
        cases h
        exact .claimBatch options now claimToken claimedAt locked picked hpicked.1 hpicked.2
      · cases h
    | created id createdAt => cases h
    | published outcome => cases h
    | settled => cases h
  | publish envelope =>
    cases choice with
    | published outcome =>
      cases h
      exact .publish envelope a
    | created id createdAt => cases h
    | claimed claimToken claimedAt locked picked => cases h
    | settled => cases h
  | emit envelope =>
    cases choice with
    | settled =>
      cases h
      exact .emit envelope
    | created id createdAt => cases h
    | claimed claimToken claimedAt locked picked => cases h
    | published outcome => cases h
  | markPublished id claimToken now =>
    cases choice with
    | settled =>
      cases h
      exact .markPublished id claimToken now _
    | created id createdAt => cases h
    | claimed claimToken claimedAt locked picked => cases h
    | published outcome => cases h
  | findClaimed id claimToken =>
    cases choice with
    | settled =>
      cases h
      exact .findClaimed id claimToken
    | created id createdAt => cases h
    | claimed claimToken claimedAt locked picked => cases h
    | published outcome => cases h
  | settleFailed id claimToken error status nextRetryAt =>
    cases choice with
    | settled =>
      cases h
      exact .settleFailed id claimToken error status nextRetryAt _
    | created id createdAt => cases h
    | claimed claimToken claimedAt locked picked => cases h
    | published outcome => cases h
  | deletePublishedOlderThan hours now =>
    cases choice with
    | settled =>
      cases h
      exact .deletePublishedOlderThan hours now _
    | created id createdAt => cases h
    | claimed claimToken claimedAt locked picked => cases h
    | published outcome => cases h

end Statements

section Evolution

variable {db db' db'' : OutboxDb}

/-- What may become of the outbox, whoever is served. A token drawn before is on no row it was not
on, a settled row stays unless it was published, and what is gone does not come back. -/
structure Evolves (db db' : OutboxDb) : Prop where
  drawn : ∀ id ∈ db.drawn, id ∈ db'.drawn
  publications : ∀ publication ∈ db.publications, publication ∈ db'.publications
  claimed : ∀ id row token, db'.messages.get? id = some row → row.claimToken = some token →
    token ∈ db.drawn → db.messages.get? id = some row
  settled : ∀ id row, id ∈ db.drawn → db.messages.get? id = some row → row.status ≠ .pending →
    db'.messages.get? id = some row ∨ row.status = .published ∧ db'.messages.get? id = none
  gone : ∀ id ∈ db.drawn, db.messages.get? id = none → db'.messages.get? id = none

theorem Evolves.refl (db : OutboxDb) : Evolves db db where
  drawn := fun _ h => h
  publications := fun _ h => h
  claimed := fun _ _ _ h _ _ => h
  settled := fun _ _ _ h _ => .inl h
  gone := fun _ _ h => h

theorem Evolves.trans (h : Evolves db db') (h' : Evolves db' db'') : Evolves db db'' where
  drawn := fun id hid => h'.drawn id (h.drawn id hid)
  publications := fun p hp => h'.publications p (h.publications p hp)
  claimed := by
    intro id row token hrow htoken hdrawn
    have hmiddle := h'.claimed id row token hrow htoken (h.drawn token hdrawn)
    exact h.claimed id row token hmiddle htoken hdrawn
  settled := by
    intro id row hid hrow hstatus
    rcases h.settled id row hid hrow hstatus with hkept | ⟨hpublished, hgone⟩
    · exact h'.settled id row (h.drawn id hid) hkept hstatus
    · exact .inr ⟨hpublished, h'.gone id (h.drawn id hid) hgone⟩
  gone := fun id hid hnone => h'.gone id (h.drawn id hid) (h.gone id hid hnone)

/-- Pending rows rewritten in place, none of them left to a token drawn before. -/
theorem evolves_of_updateMany {p : OutboxMessage → Bool} {f : OutboxMessage → OutboxMessage}
    {hf : ∀ row, (f row).id = row.id} {drawn : List String} (hdrawn : ∀ id ∈ db.drawn, id ∈ drawn)
    (hpending : ∀ row ∈ db.messages.rows, p row = true → row.status = .pending)
    (hfree : ∀ row, ∀ token ∈ db.drawn, (f row).claimToken ≠ some token) :
    Evolves db { db with messages := (db.messages.updateMany p f hf).2, drawn := drawn } where
  drawn := hdrawn
  publications := fun _ h => h
  claimed := by
    intro id row token hrow htoken hold
    rw [Table.get?_updateMany] at hrow
    obtain ⟨original, horiginal, rfl⟩ := Option.map_eq_some_iff.mp hrow
    split at htoken
    · exact absurd htoken (hfree original token hold)
    · rename_i hp
      rw [horiginal, if_neg hp]
  settled := by
    intro id row _ hrow hstatus
    have hp : ¬p row = true := fun hp => hstatus (hpending row (Table.mem_of_get? hrow) hp)
    left
    rw [Table.get?_updateMany, hrow, Option.map_some, if_neg hp]
  gone := by
    intro id _ hnone
    rw [Table.get?_updateMany, hnone]
    rfl

theorem evolves_of_insert {row : OutboxMessage} (hfresh : row.id ∉ db.drawn)
    (hnew : db.messages.get? row.id = none) (hfree : row.claimToken = none) :
    Evolves db { db with messages := db.messages.insert row, drawn := row.id :: db.drawn } where
  drawn := fun _ h => List.mem_cons_of_mem _ h
  publications := fun _ h => h
  claimed := by
    intro id found token hfound htoken _
    rw [Table.get?_insert hnew] at hfound
    split at hfound
    · cases hfound
      rw [hfree] at htoken
      cases htoken
    · exact hfound
  settled := by
    intro id found hid hfound _
    have hother : row.id ≠ id := fun heq => hfresh (heq ▸ hid)
    left
    rw [Table.get?_insert hnew, if_neg hother]
    exact hfound
  gone := by
    intro id hid hnone
    have hother : row.id ≠ id := fun heq => hfresh (heq ▸ hid)
    rw [Table.get?_insert hnew, if_neg hother]
    exact hnone

theorem evolves_of_deleteMany {p : OutboxMessage → Bool}
    (hp : ∀ row, p row = true → row.status = .published) :
    Evolves db { db with messages := (db.messages.deleteMany p).2 } where
  drawn := fun _ h => h
  publications := fun _ h => h
  claimed := fun _ _ _ hrow _ _ => (Table.get?_deleteMany.mp hrow).1
  settled := by
    intro id row _ hrow _
    by_cases hdeleted : p row = true
    · right
      refine ⟨hp row hdeleted, Option.eq_none_iff_forall_ne_some.mpr fun found hfound => ?_⟩
      obtain ⟨hold, hkept⟩ := Table.get?_deleteMany.mp hfound
      rw [hrow] at hold
      cases hold
      rw [hdeleted] at hkept
      cases hkept
    · exact .inl (Table.get?_deleteMany.mpr ⟨hrow, by simpa using hdeleted⟩)
  gone := by
    intro id _ hnone
    refine Option.eq_none_iff_forall_ne_some.mpr fun found hfound => ?_
    rw [(Table.get?_deleteMany.mp hfound).1] at hnone
    cases hnone

/-- A row picked by a claim is the due row under its identifier. -/
theorem Selects.pending {messages : Table OutboxMessage.id} {options : ClaimOutboxOptions}
    {now : Nat} {locked picked : List String} (h : Selects messages options now locked picked)
    {row : OutboxMessage} (hrow : row ∈ messages.rows) (hpicked : row.id ∈ picked) :
    row.status = .pending ∧ row.due options.claimLeaseMs now = true := by
  obtain ⟨_, found, hfound, hid, hdue⟩ := h.due row.id hpicked
  have hget := Table.get?_of_mem hrow
  rw [← hid, Table.get?_of_mem hfound] at hget
  cases hget
  have hpending := hdue
  simp only [OutboxMessage.due, Bool.and_eq_true, decide_eq_true_eq] at hpending
  exact ⟨hpending.1.1, hdue⟩

theorem OutboxMessage.pending_of_claimedBy {row : OutboxMessage} {id claimToken : String}
    (h : row.claimedBy id claimToken = true) :
    row.id = id ∧ row.claimToken = some claimToken ∧ row.status = .pending := by
  simp only [OutboxMessage.claimedBy, Bool.and_eq_true, decide_eq_true_eq] at h
  exact ⟨h.1.1, h.1.2, h.2⟩

theorem evolves_of_executes {q : OutboxStatement} {a : q.Answer} (h : Executes db q a db') :
    Evolves db db' := by
  cases h with
  | create request now id createdAt hfresh hnew => exact evolves_of_insert hfresh hnew rfl
  | claimBatch options now claimToken claimedAt locked picked hfresh hselects =>
    refine evolves_of_updateMany (fun _ h => List.mem_cons_of_mem _ h) ?_ ?_
    · intro row hrow hpicked
      exact (hselects.pending hrow (by simpa using hpicked)).1
    · intro row token htoken heq
      cases heq
      exact hfresh htoken
  | publish envelope outcome =>
    exact { Evolves.refl db with publications := fun _ h => List.mem_cons_of_mem _ h }
  | emit envelope => exact Evolves.refl db
  | findClaimed id claimToken => exact Evolves.refl db
  | markPublished id claimToken now n =>
    refine evolves_of_updateMany (fun _ h => h) ?_ ?_
    · exact fun _ _ hp => (OutboxMessage.pending_of_claimedBy hp).2.2
    · intro row token _ heq
      cases heq
  | settleFailed id claimToken error status nextRetryAt n =>
    refine evolves_of_updateMany (fun _ h => h) ?_ ?_
    · exact fun _ _ hp => (OutboxMessage.pending_of_claimedBy hp).2.2
    · intro row token _ heq
      cases heq
  | deletePublishedOlderThan hours now n =>
    refine evolves_of_deleteMany fun row hp => ?_
    simp only [OutboxMessage.purgeable, Bool.and_eq_true, decide_eq_true_eq] at hp
    exact hp.1

variable {config : OutboxConfig} {P Q : Pool (outboxSystem config)}
variable {l : Label (outboxSystem config)} {trace : List (Label (outboxSystem config))}
variable {ok : Pool (outboxSystem config) → Label (outboxSystem config) → Prop}

theorem evolves_of_step (h : Step (outboxSystem config) P l Q) :
    Evolves P.store.db Q.store.db := by
  rcases db_of_step h with hsame | ⟨i, q, a, f, choice, _, hexecute⟩
  · rw [hsame]
    exact Evolves.refl _
  · exact evolves_of_executes (executes_of_execute hexecute)

theorem evolves_of_run (h : Run ok P trace Q) : Evolves P.store.db Q.store.db := by
  induction h with
  | nil => exact Evolves.refl _
  | snoc _ _ hstep ih => exact ih.trans (evolves_of_step hstep)

end Evolution

section Dispatchers

variable (config : OutboxConfig)

/-- What a dispatcher knows of a record it claimed: a row that still has its token still has its
columns. -/
structure Holds (record : OutboxClaimedRecord) (db : OutboxDb) : Prop where
  drawn : record.claimToken ∈ db.drawn
  row : ∀ row, db.messages.get? record.id = some row → row.claimToken = some record.claimToken →
    row.toEventColumns = record.toEventColumns

theorem Holds.later {record : OutboxClaimedRecord} {db db' : OutboxDb} (h : Holds record db)
    (hevolves : Evolves db db') : Holds record db' where
  drawn := hevolves.drawn _ h.drawn
  row := by
    intro row hrow htoken
    exact h.row row (hevolves.claimed _ _ _ hrow htoken h.drawn) htoken

/-- A record a claim returned, with the row it was read from. -/
theorem mem_claimedRecords {messages : Table OutboxMessage.id} {picked : List String}
    {claimToken : String} {claimedAt now : Nat} {record : OutboxClaimedRecord}
    (h : record ∈ claimedRecords (claimedMessages messages picked claimToken claimedAt) picked
      claimToken now) :
    ∃ row, messages.get? record.id = some row ∧ record.id ∈ picked ∧
      record = (row.claim claimToken claimedAt).toClaimedRecord claimToken now ∧
      (claimedMessages messages picked claimToken claimedAt).get? record.id =
        some (row.claim claimToken claimedAt) := by
  obtain ⟨claimed, hclaimed, rfl⟩ := List.mem_map.mp h
  obtain ⟨id, hid, hget⟩ := List.mem_filterMap.mp hclaimed
  obtain rfl := Table.key_of_get? hget
  have hrow := hget
  rw [get?_claimedMessages] at hrow
  obtain ⟨row, hfound, heq⟩ := Option.map_eq_some_iff.mp hrow
  have hkey := Table.key_of_get? hfound
  rw [if_pos (hkey ▸ hid)] at heq
  subst heq
  exact ⟨row, hfound, hid, rfl, hget⟩

/-- What is left of a tick that returns that number. -/
def remaining (records : List OutboxClaimedRecord) (count : Nat) : OutboxProgram Unit :=
  (dispatchEach config records >>= fun _ => .done count) >>= fun _ => .done ()

/-- What follows the row `markFailed` looks up. -/
def found (record : OutboxClaimedRecord) (error : String) (nextRetryAt : Nat)
    (next : OutboxProgram Unit) (row : Option OutboxMessage) : OutboxProgram Unit :=
  match row with
  | none => next
  | some row =>
    .ask (.statement (.settleFailed record.id record.claimToken error
      (if decide (config.maxAttempts < row.attempts) then .deadLetter else .pending)
      (if decide (config.maxAttempts < row.attempts) then row.nextRetryAt else some nextRetryAt)))
      fun _ => next

/-- What follows a publication. -/
def published (record : OutboxClaimedRecord) (next : OutboxProgram Unit)
    (outcome : Except String Unit) : OutboxProgram Unit :=
  match outcome with
  | .error error => .ask .clock fun now =>
    .ask (.statement (.findClaimed record.id record.claimToken))
      (found config record error (now + config.delay record.attempts) next)
  | .ok _ => .ask (.statement (.emit record.toEnvelope)) fun _ => .ask .clock fun now =>
    .ask (.statement (.markPublished record.id record.claimToken now)) fun _ => next

theorem remaining_cons {record : OutboxClaimedRecord} {rest : List OutboxClaimedRecord}
    {count : Nat} :
    remaining config (record :: rest) count =
      .ask (.statement (.publish record.toEnvelope))
        (published config record (remaining config rest count)) := by
  show Program.ask _ _ = Program.ask _ _
  congr 1
  funext outcome
  cases outcome with
  | ok _ => rfl
  | error error =>
    show Program.ask _ _ = Program.ask _ _
    congr 1
    funext now
    show Program.ask _ _ = Program.ask _ _
    congr 1
    funext row
    cases row with
    | none => rfl
    | some row => rfl

/-- Where a caller of the outbox may be, with what it knows there. -/
inductive OutboxOn : OutboxEntry → OutboxProgram Unit → World OutboxDb → Prop where
  | appending (request : AppendOutboxEventRequest) (w : World OutboxDb) :
      OutboxOn (.append request)
        (.ask .clock fun now => .ask (.statement (.create request now)) fun _ => .done ()) w
  | creating (request : AppendOutboxEventRequest) (now : Nat) (w : World OutboxDb) :
      OutboxOn (.append request) (.ask (.statement (.create request now)) fun _ => .done ()) w
  | ticking (w : World OutboxDb) :
      OutboxOn .dispatch
        (.ask .clock fun now =>
          .ask (.statement (.claimBatch ⟨config.batchSize, config.claimLeaseMs⟩ now))
            fun records => remaining config records records.length) w
  | claiming (now : Nat) (w : World OutboxDb) :
      OutboxOn .dispatch
        (.ask (.statement (.claimBatch ⟨config.batchSize, config.claimLeaseMs⟩ now))
          fun records => remaining config records records.length) w
  | publishing (record : OutboxClaimedRecord) (rest : List OutboxClaimedRecord) (count : Nat)
      (w : World OutboxDb) (held : ∀ r ∈ record :: rest, Holds r w.db) :
      OutboxOn .dispatch (.ask (.statement (.publish record.toEnvelope))
        (published config record (remaining config rest count))) w
  | emitting (record : OutboxClaimedRecord) (rest : List OutboxClaimedRecord) (count : Nat)
      (w : World OutboxDb) (held : ∀ r ∈ record :: rest, Holds r w.db)
      (accepted : (record.toEnvelope, true) ∈ w.db.publications) :
      OutboxOn .dispatch (.ask (.statement (.emit record.toEnvelope)) fun _ => .ask .clock fun now =>
        .ask (.statement (.markPublished record.id record.claimToken now)) fun _ =>
          remaining config rest count) w
  | stamping (record : OutboxClaimedRecord) (rest : List OutboxClaimedRecord) (count : Nat)
      (w : World OutboxDb) (held : ∀ r ∈ record :: rest, Holds r w.db)
      (accepted : (record.toEnvelope, true) ∈ w.db.publications) :
      OutboxOn .dispatch (.ask .clock fun now =>
        .ask (.statement (.markPublished record.id record.claimToken now)) fun _ =>
          remaining config rest count) w
  | marking (record : OutboxClaimedRecord) (rest : List OutboxClaimedRecord) (count now : Nat)
      (w : World OutboxDb) (held : ∀ r ∈ record :: rest, Holds r w.db)
      (accepted : (record.toEnvelope, true) ∈ w.db.publications) :
      OutboxOn .dispatch (.ask (.statement (.markPublished record.id record.claimToken now)) fun _ =>
        remaining config rest count) w
  | delaying (record : OutboxClaimedRecord) (rest : List OutboxClaimedRecord) (count : Nat)
      (error : String) (w : World OutboxDb) (held : ∀ r ∈ record :: rest, Holds r w.db)
      (failed : (record.toEnvelope, false) ∈ w.db.publications) :
      OutboxOn .dispatch (.ask .clock fun now =>
        .ask (.statement (.findClaimed record.id record.claimToken))
          (found config record error (now + config.delay record.attempts)
            (remaining config rest count))) w
  | looking (record : OutboxClaimedRecord) (rest : List OutboxClaimedRecord) (count : Nat)
      (error : String) (nextRetryAt : Nat) (w : World OutboxDb)
      (held : ∀ r ∈ record :: rest, Holds r w.db)
      (failed : (record.toEnvelope, false) ∈ w.db.publications) :
      OutboxOn .dispatch (.ask (.statement (.findClaimed record.id record.claimToken))
        (found config record error nextRetryAt (remaining config rest count))) w
  | settling (record : OutboxClaimedRecord) (rest : List OutboxClaimedRecord) (count : Nat)
      (error : String) (nextRetryAt : Nat) (row : OutboxMessage) (w : World OutboxDb)
      (held : ∀ r ∈ record :: rest, Holds r w.db)
      (failed : (record.toEnvelope, false) ∈ w.db.publications)
      (same : ∀ row', w.db.messages.get? record.id = some row' →
        row'.claimToken = some record.claimToken → row' = row) :
      OutboxOn .dispatch
        (found config record error nextRetryAt (remaining config rest count) (some row)) w
  | cleaning (w : World OutboxDb) :
      OutboxOn .cleanupPublished (.ask .clock fun now =>
        .ask (.statement (.deletePublishedOlderThan config.cleanupOlderThanHours now)) fun _ =>
          .done ()) w
  | deleting (now : Nat) (w : World OutboxDb) :
      OutboxOn .cleanupPublished
        (.ask (.statement (.deletePublishedOlderThan config.cleanupOlderThanHours now)) fun _ =>
          .done ()) w
  | returned (e : OutboxEntry) (w : World OutboxDb) : OutboxOn e (.done ()) w
  | threw (e : OutboxEntry) (error : String) (w : World OutboxDb) : OutboxOn e (.fail error) w

variable {config}

theorem outboxOn_remaining {records : List OutboxClaimedRecord} {count : Nat} {w : World OutboxDb}
    (held : ∀ r ∈ records, Holds r w.db) :
    OutboxOn config .dispatch (remaining config records count) w := by
  cases records with
  | nil => exact .returned _ w
  | cons record rest =>
    rw [remaining_cons]
    exact .publishing record rest count w held

theorem outboxOn_found {record : OutboxClaimedRecord} {rest : List OutboxClaimedRecord}
    {count : Nat} {error : String} {nextRetryAt : Nat} {w : World OutboxDb}
    (held : ∀ r ∈ record :: rest, Holds r w.db)
    (failed : (record.toEnvelope, false) ∈ w.db.publications) :
    OutboxOn config .dispatch (found config record error nextRetryAt (remaining config rest count)
      (w.db.messages.rows.find? (·.claimedBy record.id record.claimToken))) w := by
  cases hfind : w.db.messages.rows.find? (·.claimedBy record.id record.claimToken) with
  | none => exact outboxOn_remaining fun r hr => held r (List.mem_cons_of_mem _ hr)
  | some row =>
    refine .settling record rest count error nextRetryAt row w held failed fun row' hrow' _ => ?_
    have hclaimed := OutboxMessage.pending_of_claimedBy
      (by simpa using List.find?_some hfind : row.claimedBy record.id record.claimToken = true)
    have hrow := Table.get?_of_mem (List.mem_of_find?_eq_some hfind)
    rw [hclaimed.1, hrow'] at hrow
    exact Option.some.inj hrow

/-- The records a claim returns are held. -/
theorem holds_of_claimBatch {db : OutboxDb} {picked : List String} {claimToken : String}
    {claimedAt now : Nat} {record : OutboxClaimedRecord}
    (h : record ∈ claimedRecords (claimedMessages db.messages picked claimToken claimedAt) picked
      claimToken now) :
    Holds record { db with
      messages := claimedMessages db.messages picked claimToken claimedAt
      drawn := claimToken :: db.drawn } := by
  obtain ⟨row, _, _, hrecord, hget⟩ := mem_claimedRecords h
  constructor
  · rw [hrecord]
    exact List.mem_cons_self
  · intro row' hrow' _
    rw [hget] at hrow'
    rw [← Option.some.inj hrow', hrecord]
    rfl

theorem outboxOn_later {e : OutboxEntry} {p : OutboxProgram Unit} {w w' : World OutboxDb}
    (h : OutboxOn config e p w) (hevolves : Evolves w.db w'.db) : OutboxOn config e p w' := by
  cases h with
  | appending request => exact .appending request w'
  | creating request now => exact .creating request now w'
  | ticking => exact .ticking w'
  | claiming now => exact .claiming now w'
  | publishing record rest count _ held =>
    exact .publishing record rest count w' fun r hr => (held r hr).later hevolves
  | emitting record rest count _ held accepted =>
    exact .emitting record rest count w' (fun r hr => (held r hr).later hevolves)
      (hevolves.publications _ accepted)
  | stamping record rest count _ held accepted =>
    exact .stamping record rest count w' (fun r hr => (held r hr).later hevolves)
      (hevolves.publications _ accepted)
  | marking record rest count now _ held accepted =>
    exact .marking record rest count now w' (fun r hr => (held r hr).later hevolves)
      (hevolves.publications _ accepted)
  | delaying record rest count error _ held failed =>
    exact .delaying record rest count error w' (fun r hr => (held r hr).later hevolves)
      (hevolves.publications _ failed)
  | looking record rest count error nextRetryAt _ held failed =>
    exact .looking record rest count error nextRetryAt w' (fun r hr => (held r hr).later hevolves)
      (hevolves.publications _ failed)
  | settling record rest count error nextRetryAt row _ held failed same =>
    refine .settling record rest count error nextRetryAt row w'
      (fun r hr => (held r hr).later hevolves) (hevolves.publications _ failed) ?_
    intro row' hrow' htoken
    have hdrawn := (held record List.mem_cons_self).drawn
    exact same row' (hevolves.claimed _ _ _ hrow' htoken hdrawn) htoken
  | cleaning => exact .cleaning w'
  | deleting now => exact .deleting now w'
  | returned => exact .returned e w'
  | threw _ error => exact .threw e error w'

/-- The statements of the outbox, and what follows each. -/
theorem outboxOn_served {e : OutboxEntry} {q : OutboxStatement.interface.world.Request}
    {next : OutboxStatement.interface.world.Answer q → OutboxProgram Unit}
    {a : OutboxStatement.interface.world.Answer q} {w w' : World OutboxDb}
    (h : OutboxOn config e (.ask q next) w) (hserves : (outboxSystem config).Serves q w a w') :
    OutboxOn config e (next a) w' := by
  have hevolves : Evolves w.db w'.db := by
    cases q with
    | statement q =>
      obtain ⟨choice, db, hexecute, rfl⟩ := serves_statement.mp hserves
      exact evolves_of_executes (executes_of_execute hexecute)
    | clock =>
      obtain ⟨_, rfl⟩ := serves_clock hserves
      exact Evolves.refl _
    | randomUUID =>
      obtain ⟨_, rfl⟩ := serves_randomUUID hserves
      exact Evolves.refl _
  have hlater := outboxOn_later h hevolves
  cases hlater with
  | appending request => exact .creating request a w'
  | creating request now => exact .returned _ w'
  | ticking => exact .claiming a w'
  | claiming now =>
    obtain ⟨choice, db, hexecute, rfl⟩ := serves_statement.mp hserves
    cases executes_of_execute hexecute with
    | claimBatch options now claimToken claimedAt locked picked =>
      exact outboxOn_remaining fun record hrecord => holds_of_claimBatch hrecord
  | publishing record rest count _ held =>
    obtain ⟨choice, db, hexecute, rfl⟩ := serves_statement.mp hserves
    cases executes_of_execute hexecute with
    | publish envelope outcome =>
      cases a with
      | ok _ => exact .emitting record rest count _ held List.mem_cons_self
      | error error => exact .delaying record rest count error _ held List.mem_cons_self
  | emitting record rest count _ held accepted => exact .stamping record rest count w' held accepted
  | stamping record rest count _ held accepted =>
    exact .marking record rest count a w' held accepted
  | marking record rest count now _ held accepted =>
    exact outboxOn_remaining fun r hr => held r (List.mem_cons_of_mem _ hr)
  | delaying record rest count error _ held failed =>
    exact .looking record rest count error _ w' held failed
  | looking record rest count error nextRetryAt _ held failed =>
    obtain ⟨choice, db, hexecute, rfl⟩ := serves_statement.mp hserves
    cases executes_of_execute hexecute with
    | findClaimed id claimToken => exact outboxOn_found held failed
  | settling record rest count error nextRetryAt row _ held failed same =>
    exact outboxOn_remaining fun r hr => held r (List.mem_cons_of_mem _ hr)
  | cleaning => exact .deleting a w'
  | deleting now => exact .returned _ w'

/-- Every caller of the outbox, step by step. -/
theorem outbox_tracking :
    @Tracking (outboxSystem config) (OutboxOn config) (fun w w' => Evolves w.db w'.db) where
  start := by
    intro e w
    cases e with
    | append request => exact .appending request w
    | dispatch => exact .ticking w
    | cleanupPublished => exact .cleaning w
  served := fun _ _ _ _ _ _ h hserves => outboxOn_served h hserves
  raised := fun e s _ _ error _ => .threw e error s
  stable := fun _ _ _ _ h hevolves => outboxOn_later h hevolves

end Dispatchers

end DddBoilerplate.Messaging.Outbox
