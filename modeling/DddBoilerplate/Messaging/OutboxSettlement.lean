/- module: DddBoilerplate/Messaging/OutboxSettlement
   generality: I
   digest: Every row of the outbox is settled once, by the dispatcher that holds it, and none is lost. -/

import Mathlib.Data.Fintype.EquivFin
import DddBoilerplate.Messaging.OutboxClaims

set_option autoImplicit false
set_option relaxedAutoImplicit false
set_option linter.all false

namespace DddBoilerplate.Messaging.Outbox

open Concurrency Store

variable {config : OutboxConfig}

section Justified

/-- What the caller of a settlement knows of the row it settles. -/
def Justified (config : OutboxConfig) (db : OutboxDb) : OutboxStatement → Prop
  | .claimBatch options _ => options = ⟨config.batchSize, config.claimLeaseMs⟩
  | .markPublished id claimToken _ => ∀ row, db.messages.get? id = some row →
      row.claimToken = some claimToken → (row.toEnvelope, true) ∈ db.publications
  | .settleFailed id claimToken _ status _ => ∀ row, db.messages.get? id = some row →
      row.claimToken = some claimToken → (row.toEnvelope, false) ∈ db.publications ∧
        (status = .pending ∨ status = .deadLetter ∧ config.maxAttempts < row.attempts)
  | .deletePublishedOlderThan hours _ => hours = config.cleanupOlderThanHours
  | _ => True

theorem Holds.envelope {record : OutboxClaimedRecord} {db : OutboxDb} {row : OutboxMessage}
    (h : Holds record db) (hrow : db.messages.get? record.id = some row)
    (htoken : row.claimToken = some record.claimToken) : row.toEnvelope = record.toEnvelope :=
  congrArg EventColumns.toEnvelope (h.row row hrow htoken)

theorem justified_of_outboxOn {e : OutboxEntry} {q : OutboxStatement}
    {next : q.Answer → OutboxProgram Unit} {w : World OutboxDb}
    (h : OutboxOn config e (.ask (.statement q) next) w) : Justified config w.db q := by
  cases h with
  | creating request now => trivial
  | claiming now => rfl
  | publishing record rest count _ held => trivial
  | emitting record rest count _ held accepted => trivial
  | marking record rest count now _ held accepted =>
    intro row hrow htoken
    rw [(held record List.mem_cons_self).envelope hrow htoken]
    exact accepted
  | looking record rest count error nextRetryAt _ held failed => trivial
  | settling record rest count error nextRetryAt row _ held failed same =>
    intro row' hrow htoken
    rw [(held record List.mem_cons_self).envelope hrow htoken]
    refine ⟨failed, ?_⟩
    by_cases hexhausted : config.maxAttempts < row.attempts
    · rw [same row' hrow htoken]
      exact .inr ⟨by simp [hexhausted], hexhausted⟩
    · exact .inl (by simp [hexhausted])
  | deleting now => rfl

variable {P Q R : Pool (outboxSystem config)} {trace : List (Label (outboxSystem config))}
variable {ok : Pool (outboxSystem config) → Label (outboxSystem config) → Prop}

/-- Every statement of a run that starts idle is justified where it is served. -/
theorem justified_of_run (hP : P.threads = []) (hrun : Run ok P trace Q) {i : Nat}
    {q : OutboxStatement} {a : q.Answer} {f : Front (outboxSystem config).interface}
    (hstep : Step (outboxSystem config) Q (.served i (.statement q) a f) R) :
    Justified config Q.store.db q := by
  have htracked := Tracked.run outbox_tracking hrun hP fun _ _ hstep => evolves_of_step hstep
  obtain ⟨next, here⟩ := hstep.asked
  obtain ⟨e, _, hon⟩ := forall₂_getElem? htracked here
  exact justified_of_outboxOn hon

end Justified

section Sound

variable {db db' : OutboxDb}

/-- What the status and the claim of a row say. -/
structure Rests (config : OutboxConfig) (db : OutboxDb) (row : OutboxMessage) : Prop where
  drawn : row.id ∈ db.drawn
  token : ∀ token, row.claimToken = some token → token ∈ db.drawn ∧ row.status = .pending
  published : row.status = .published → (row.toEnvelope, true) ∈ db.publications
  parked : row.status = .deadLetter →
    config.maxAttempts < row.attempts ∧ (row.toEnvelope, false) ∈ db.publications

def Sound (config : OutboxConfig) (db : OutboxDb) : Prop :=
  ∀ row ∈ db.messages.rows, Rests config db row

theorem Rests.later {row : OutboxMessage} (h : Rests config db row) (hevolves : Evolves db db') :
    Rests config db' row where
  drawn := hevolves.drawn _ h.drawn
  token := fun token htoken => ⟨hevolves.drawn _ (h.token token htoken).1, (h.token token htoken).2⟩
  published := fun hstatus => hevolves.publications _ (h.published hstatus)
  parked := fun hstatus => ⟨(h.parked hstatus).1, hevolves.publications _ (h.parked hstatus).2⟩

/-- Rows rewritten in place, each to one that rests as well. -/
theorem sound_of_updateMany {p : OutboxMessage → Bool} {f : OutboxMessage → OutboxMessage}
    (hf : ∀ row, (f row).id = row.id) (h : Sound config db)
    (hevolves : Evolves db db') (hmessages : db'.messages = (db.messages.updateMany p f hf).2)
    (hrests : ∀ row ∈ db.messages.rows, p row = true → Rests config db' (f row)) :
    Sound config db' := by
  intro row hrow
  rw [hmessages] at hrow
  obtain ⟨original, horiginal, rfl⟩ := Table.mem_updateMany.mp hrow
  by_cases hp : p original = true
  · rw [if_pos hp]
    exact hrests original horiginal hp
  · rw [if_neg hp]
    exact (h original horiginal).later hevolves

theorem sound_of_executes {q : OutboxStatement} {a : q.Answer} (h : Sound config db)
    (hjustified : Justified config db q) (hexecutes : Executes db q a db') : Sound config db' := by
  have hevolves := evolves_of_executes hexecutes
  cases hexecutes with
  | create request now id createdAt hfresh hnew =>
    intro row hrow
    rcases (Table.mem_insert hnew).mp hrow with hrow | rfl
    · exact (h row hrow).later hevolves
    · exact ⟨List.mem_cons_self, fun _ h => (by cases h), fun h => (by cases h),
        fun h => (by cases h)⟩
  | claimBatch options now claimToken claimedAt locked picked hfresh hselects =>
    have hclaim := fun row : OutboxMessage => row.claim_id claimToken claimedAt
    refine sound_of_updateMany hclaim h hevolves rfl fun row hrow hpicked => ?_
    have hpending := (hselects.pending hrow (by simpa using hpicked)).1
    refine ⟨hevolves.drawn _ (h row hrow).drawn, ?_, ?_, ?_⟩
    · intro token htoken
      cases htoken
      exact ⟨List.mem_cons_self, hpending⟩
    · intro hstatus
      cases hpending.symm.trans hstatus
    · intro hstatus
      cases hpending.symm.trans hstatus
  | publish envelope outcome => exact fun row hrow => (h row hrow).later hevolves
  | emit envelope => exact h
  | findClaimed id claimToken => exact h
  | markPublished id claimToken now n =>
    have hpublish := fun row : OutboxMessage => row.publish_id now
    refine sound_of_updateMany hpublish h hevolves rfl fun row hrow hp => ?_
    obtain ⟨rfl, htoken, _⟩ := OutboxMessage.pending_of_claimedBy hp
    have hpublished := hjustified row (Table.get?_of_mem hrow) htoken
    exact ⟨(h row hrow).drawn, fun _ h => (by cases h), fun _ => hpublished, fun h => (by cases h)⟩
  | settleFailed id claimToken error status nextRetryAt n =>
    have hsettle := fun row : OutboxMessage => row.settleFailed_id error status nextRetryAt
    refine sound_of_updateMany hsettle h hevolves rfl fun row hrow hp => ?_
    obtain ⟨rfl, htoken, _⟩ := OutboxMessage.pending_of_claimedBy hp
    obtain ⟨hfailed, hstatus⟩ := hjustified row (Table.get?_of_mem hrow) htoken
    refine ⟨(h row hrow).drawn, fun _ h => (by cases h), ?_, ?_⟩
    · intro hpublished
      obtain rfl : status = .published := hpublished
      rcases hstatus with hstatus | ⟨hstatus, _⟩
      · cases hstatus
      · cases hstatus
    · intro hparked
      obtain rfl : status = .deadLetter := hparked
      rcases hstatus with hstatus | ⟨_, hexhausted⟩
      · cases hstatus
      · exact ⟨hexhausted, hfailed⟩
  | deletePublishedOlderThan hours now n =>
    intro row hrow
    have hget := Table.get?_deleteMany.mp (Table.get?_of_mem hrow)
    exact (h row (Table.mem_of_get? hget.1)).later hevolves

/-- An outbox before its first event, with no call of the message queue yet. -/
structure Begins (P : Pool (outboxSystem config)) : Prop where
  threads : P.threads = []
  messages : P.store.db.messages.rows = []
  publications : P.store.db.publications = []

variable {P Q R : Pool (outboxSystem config)} {trace : List (Label (outboxSystem config))}
variable {ok : Pool (outboxSystem config) → Label (outboxSystem config) → Prop}

theorem sound_of_run (hP : Begins P) (hrun : Run ok P trace Q) : Sound config Q.store.db := by
  induction hrun with
  | nil =>
    intro row hrow
    rw [hP.messages] at hrow
    cases hrow
  | snoc hrun hok hstep ih =>
    rcases db_of_step hstep with hsame | ⟨i, q, a, f, choice, rfl, hexecute⟩
    · rw [hsame]
      exact ih
    · exact sound_of_executes ih (justified_of_run hP.threads hrun hstep)
        (executes_of_execute hexecute)

end Sound

section Traces

variable {db db' : OutboxDb} {P Q R S : Pool (outboxSystem config)}
variable {trace : List (Label (outboxSystem config))}
variable {ok : Pool (outboxSystem config) → Label (outboxSystem config) → Prop}

/-- A statement of a thread that is served. -/
abbrev executed (i : Nat) (q : OutboxStatement) (a : q.Answer)
    (f : Front (outboxSystem config).interface) : Label (outboxSystem config) :=
  .served i (.statement q) a f

/-- A publication of this event returned, or threw. -/
def Attempted (trace : List (Label (outboxSystem config))) (columns : EventColumns)
    (accepted : Bool) : Prop :=
  ∃ i outcome f, executed i (.publish columns.toEnvelope) outcome f ∈ trace ∧
    outcome.isOk = accepted

/-- A cleanup took this published row, past its retention. -/
def Purged (trace : List (Label (outboxSystem config))) (row : OutboxMessage) : Prop :=
  row.status = .published ∧ ∃ i now n f,
    executed i (.deletePublishedOlderThan config.cleanupOlderThanHours now) n f ∈ trace ∧
      row.purgeable config.cleanupOlderThanHours now = true

theorem publications_of_executes {q : OutboxStatement} {a : q.Answer}
    (h : Executes db q a db') {publication : OutboxEnvelope × Bool}
    (hmem : publication ∈ db'.publications) :
    publication ∈ db.publications ∨ ∃ outcome, q = .publish publication.1 ∧ HEq a outcome ∧
      Except.isOk (outcome : Except String Unit) = publication.2 := by
  cases h with
  | publish envelope outcome =>
    rcases List.mem_cons.mp hmem with rfl | hmem
    · exact .inr ⟨outcome, rfl, .rfl, rfl⟩
    · exact .inl hmem
  | create request now id createdAt hfresh hnew => exact .inl hmem
  | claimBatch options now claimToken claimedAt locked picked hfresh hselects => exact .inl hmem
  | emit envelope => exact .inl hmem
  | findClaimed id claimToken => exact .inl hmem
  | markPublished id claimToken now n => exact .inl hmem
  | settleFailed id claimToken error status nextRetryAt n => exact .inl hmem
  | deletePublishedOlderThan hours now n => exact .inl hmem

/-- Every call the message queue has had is one of the run's. -/
theorem attempted_of_run (hP : Begins P) (hrun : Run ok P trace Q) {columns : EventColumns}
    {accepted : Bool} (hmem : (columns.toEnvelope, accepted) ∈ Q.store.db.publications) :
    Attempted trace columns accepted := by
  induction hrun with
  | nil =>
    rw [hP.publications] at hmem
    cases hmem
  | snoc hrun hok hstep ih =>
    have hearlier : ∀ {trace' : List (Label (outboxSystem config))} {l},
        Attempted trace' columns accepted → Attempted (trace' ++ [l]) columns accepted :=
      fun ⟨i, outcome, f, hserved, h⟩ =>
        ⟨i, outcome, f, List.mem_append_left _ hserved, h⟩
    rcases db_of_step hstep with hsame | ⟨i, q, a, f, choice, rfl, hexecute⟩
    · rw [hsame] at hmem
      exact hearlier (ih hmem)
    · rcases publications_of_executes (executes_of_execute hexecute) hmem with
        hmem | ⟨_, rfl, rfl, haccepted⟩
      · exact hearlier (ih hmem)
      · exact ⟨i, a, f, by simp, haccepted⟩

/-- Only a cleanup takes a row out. -/
theorem deleted_of_executes {q : OutboxStatement} {a : q.Answer} (h : Executes db q a db')
    {id : String} {row : OutboxMessage} (hrow : db.messages.get? id = some row)
    (hgone : db'.messages.get? id = none) :
    ∃ hours now, q = .deletePublishedOlderThan hours now ∧ row.purgeable hours now = true := by
  cases h with
  | create request now newId createdAt hfresh hnew =>
    rw [Table.get?_insert hnew] at hgone
    split at hgone
    · cases hgone
    · cases hrow.symm.trans hgone
  | claimBatch options now claimToken claimedAt locked picked hfresh hselects =>
    simp [get?_claimedMessages, hrow] at hgone
  | publish envelope outcome => cases hrow.symm.trans hgone
  | emit envelope => cases hrow.symm.trans hgone
  | findClaimed id' claimToken => cases hrow.symm.trans hgone
  | markPublished id' claimToken now n =>
    simp [get?_settledMessages, hrow] at hgone
  | settleFailed id' claimToken error status nextRetryAt n =>
    simp [get?_settledMessages, hrow] at hgone
  | deletePublishedOlderThan hours now n =>
    refine ⟨hours, now, rfl, ?_⟩
    by_cases hp : row.purgeable hours now = true
    · exact hp
    · have hkept := Table.get?_deleteMany.mpr ⟨hrow, by simpa using hp⟩
      cases hkept.symm.trans hgone

/-- A settled row stays as it is, unless it was published and a cleanup takes it. -/
theorem settled_of_run (hP : Begins P) (hrun : Run ok P trace Q) {id : String}
    {row : OutboxMessage} (hrow : Q.store.db.messages.get? id = some row)
    (hstatus : row.status ≠ .pending) {later : List (Label (outboxSystem config))}
    (hlater : Run ok Q later R) :
    R.store.db.messages.get? id = some row ∨
      R.store.db.messages.get? id = none ∧ Purged later row := by
  have hid : id ∈ Q.store.db.drawn := by
    rw [← Table.key_of_get? hrow]
    exact (sound_of_run hP hrun row (Table.mem_of_get? hrow)).drawn
  induction hlater with
  | nil => exact .inl hrow
  | @snoc later Q' R l hlater hok hstep ih =>
    have hdrawn := (evolves_of_run hlater).drawn id hid
    have hevolves := evolves_of_step hstep
    rcases ih with hkept | ⟨hgone, hpublished, i, now, n, f, hserved, hpurgeable⟩
    · rcases hevolves.settled id row hdrawn hkept hstatus with hkept' | ⟨hpublished, hgone⟩
      · exact .inl hkept'
      · rcases db_of_step hstep with hsame | ⟨i, q, a, f, choice, rfl, hexecute⟩
        · rw [hsame, hkept] at hgone
          cases hgone
        · have hjustified := justified_of_run hP.threads (hrun.append hlater) hstep
          obtain ⟨hours, now, rfl, hpurgeable⟩ :=
            deleted_of_executes (executes_of_execute hexecute) hkept hgone
          obtain rfl : hours = config.cleanupOlderThanHours := hjustified
          exact .inr ⟨hgone, hpublished, i, now, a, f, by simp, hpurgeable⟩
    · exact .inr ⟨hevolves.gone id hdrawn hgone, hpublished, i, now, n, f,
        List.mem_append_left _ hserved, hpurgeable⟩

/-- A statement that settles a claim. -/
def settles (id claimToken : String) : OutboxStatement → Prop
  | .markPublished id' claimToken' _ => id' = id ∧ claimToken' = claimToken
  | .settleFailed id' claimToken' _ _ _ => id' = id ∧ claimToken' = claimToken
  | _ => False

/-- A settlement finds no row when none has its token. -/
theorem settles_nothing {q : OutboxStatement} {a : q.Answer} (h : Executes db q a db')
    {id claimToken : String} (hq : settles id claimToken q)
    (hrow : ∀ row, db.messages.get? id = some row → row.claimToken ≠ some claimToken) :
    db' = db := by
  have hkept : ∀ (f : OutboxMessage → OutboxMessage) (hf : ∀ row, (f row).id = row.id),
      settledMessages db.messages id claimToken f hf = db.messages := by
    intro f hf
    refine Table.updateMany_eq_self hf fun row hmem => ?_
    rw [← Bool.not_eq_true]
    intro hclaimed
    obtain ⟨rfl, htoken, _⟩ := OutboxMessage.pending_of_claimedBy hclaimed
    exact hrow row (Table.get?_of_mem hmem) htoken
  cases h with
  | markPublished id' claimToken' now n =>
    obtain ⟨rfl, rfl⟩ := hq
    rw [hkept]
  | settleFailed id' claimToken' error status nextRetryAt n =>
    obtain ⟨rfl, rfl⟩ := hq
    rw [hkept]
  | create request now newId createdAt hfresh hnew => cases hq
  | claimBatch options now claimToken' claimedAt locked picked hfresh hselects => cases hq
  | publish envelope outcome => cases hq
  | emit envelope => rfl
  | findClaimed id' claimToken' => rfl
  | deletePublishedOlderThan hours now n => cases hq

/-- Once a row is claimed with another token, the one it had is nowhere, for good. -/
theorem taken_over (hP : Begins P) (hrun : Run ok P trace Q) {i : Nat} {options : ClaimOutboxOptions}
    {now : Nat} {records : List OutboxClaimedRecord} {f : Front (outboxSystem config).interface}
    (hstep : Step (outboxSystem config) Q (executed i (.claimBatch options now) records f) R)
    {record : OutboxClaimedRecord} (hrecord : record ∈ records) {row : OutboxMessage}
    {claimToken : String} (hrow : Q.store.db.messages.get? record.id = some row)
    (htoken : row.claimToken = some claimToken) {later : List (Label (outboxSystem config))}
    (hlater : Run ok R later S) {row' : OutboxMessage}
    (hrow' : S.store.db.messages.get? record.id = some row') :
    row'.claimToken ≠ some claimToken := by
  intro htoken'
  have hdrawn := ((sound_of_run hP hrun row (Table.mem_of_get? hrow)).token _ htoken).1
  have hafter := (evolves_of_step hstep).drawn _ hdrawn
  have hfound := (evolves_of_run hlater).claimed _ row' _ hrow' htoken' hafter
  obtain ⟨choice, db, hexecute, hstore⟩ := serves_statement.mp hstep.answered
  have hexecutes := executes_of_execute hexecute
  rw [hstore] at hfound
  cases hexecutes with
  | claimBatch options now newToken claimedAt locked picked hfresh hselects =>
    obtain ⟨original, _, _, _, hclaimed⟩ := mem_claimedRecords hrecord
    have hsame := hclaimed.symm.trans hfound
    obtain rfl := Option.some.inj hsame
    obtain rfl : newToken = claimToken := Option.some.inj htoken'
    exact hfresh hdrawn

end Traces

section Kept

variable {db db' : OutboxDb} {P Q R S : Pool (outboxSystem config)}
variable {trace : List (Label (outboxSystem config))}
variable {ok : Pool (outboxSystem config) → Label (outboxSystem config) → Prop}

/-- The event is on its row, or has been published. -/
def Kept (db : OutboxDb) (id : String) (columns : EventColumns) : Prop :=
  (∃ row, db.messages.get? id = some row ∧ row.toEventColumns = columns) ∨
    (columns.toEnvelope, true) ∈ db.publications

theorem kept_of_executes {q : OutboxStatement} {a : q.Answer} (hsound : Sound config db)
    (h : Executes db q a db') {id : String} {columns : EventColumns} (hkept : Kept db id columns) :
    Kept db' id columns := by
  have hevolves := evolves_of_executes h
  rcases hkept with ⟨row, hrow, hcolumns⟩ | hpublished
  · cases h with
    | create request now newId createdAt hfresh hnew =>
      refine .inl ⟨row, ?_, hcolumns⟩
      rw [Table.get?_insert hnew, if_neg]
      · exact hrow
      · rintro rfl
        cases hrow.symm.trans hnew
    | claimBatch options now claimToken claimedAt locked picked hfresh hselects =>
      refine .inl ⟨if row.id ∈ picked then row.claim claimToken claimedAt else row, ?_, ?_⟩
      · simp only [get?_claimedMessages, hrow, Option.map_some]
      · rw [← hcolumns]
        split <;> rfl
    | publish envelope outcome => exact .inl ⟨row, hrow, hcolumns⟩
    | emit envelope => exact .inl ⟨row, hrow, hcolumns⟩
    | findClaimed id' claimToken => exact .inl ⟨row, hrow, hcolumns⟩
    | markPublished id' claimToken now n =>
      refine .inl ⟨if row.claimedBy id' claimToken then row.publish now else row, ?_, ?_⟩
      · simp only [get?_settledMessages, hrow, Option.map_some]
      · rw [← hcolumns]
        split <;> rfl
    | settleFailed id' claimToken error status nextRetryAt n =>
      refine .inl ⟨if row.claimedBy id' claimToken then row.settleFailed error status nextRetryAt
        else row, ?_, ?_⟩
      · simp only [get?_settledMessages, hrow, Option.map_some]
      · rw [← hcolumns]
        split <;> rfl
    | deletePublishedOlderThan hours now n =>
      by_cases hp : row.purgeable hours now = true
      · right
        have hstatus := hp
        simp only [OutboxMessage.purgeable, Bool.and_eq_true, decide_eq_true_eq] at hstatus
        rw [← hcolumns]
        exact (hsound row (Table.mem_of_get? hrow)).published hstatus.1
      · exact .inl ⟨row, Table.get?_deleteMany.mpr ⟨hrow, by simpa using hp⟩, hcolumns⟩
  · exact .inr (hevolves.publications _ hpublished)

/-- An event that was appended is on its row, or has been published. -/
theorem kept_of_run (hP : Begins P) (hrun : Run ok P trace Q) {i : Nat}
    {request : AppendOutboxEventRequest} {now : Nat} {row : OutboxMessage}
    {f : Front (outboxSystem config).interface}
    (happended : executed i (.create request now) row f ∈ trace) :
    Kept Q.store.db row.id row.toEventColumns := by
  induction hrun with
  | nil => cases happended
  | @snoc trace Q R l hrun hok hstep ih =>
    rcases List.mem_append.mp happended with hearlier | hlast
    · rcases db_of_step hstep with hsame | ⟨j, q, a, g, choice, rfl, hexecute⟩
      · rw [hsame]
        exact ih hearlier
      · exact kept_of_executes (sound_of_run hP hrun) (executes_of_execute hexecute) (ih hearlier)
    · obtain rfl := List.mem_singleton.mp hlast
      obtain ⟨choice, db, hexecute, hstore⟩ := serves_statement.mp hstep.answered
      rw [hstore]
      cases executes_of_execute hexecute with
      | create request now id createdAt hfresh hnew =>
        refine .inl ⟨_, ?_, rfl⟩
        show (Q.store.db.messages.insert _).get? _ = _
        rw [Table.get?_insert hnew, if_pos rfl]

end Kept

section Due

variable {db db' : OutboxDb} {options : ClaimOutboxOptions} {now : Nat}

/-- Pending, its retry due, and its lease run out. -/
structure Ready (claimLeaseMs now : Nat) (row : OutboxMessage) : Prop where
  pending : row.status = .pending
  retry : ∀ next, row.nextRetryAt = some next → next ≤ now
  lease : ∀ claimedAt, row.claimedAt = some claimedAt → claimedAt + claimLeaseMs ≤ now

theorem Ready.due {claimLeaseMs : Nat} {row : OutboxMessage} (h : Ready claimLeaseMs now row) :
    row.due claimLeaseMs now = true := by
  have hretry : row.nextRetryAt.all (fun next => next ≤ now) = true := by
    cases hnext : row.nextRetryAt with
    | none => rfl
    | some next => exact decide_eq_true (h.retry next hnext)
  have hlease : row.claimedAt.all (fun claimedAt => claimedAt + claimLeaseMs ≤ now) = true := by
    cases hclaimed : row.claimedAt with
    | none => rfl
    | some claimedAt => exact decide_eq_true (h.lease claimedAt hclaimed)
  simp [OutboxMessage.due, h.pending, hretry, hlease]

theorem execute_claimBatch {claimToken : String} {claimedAt : Nat} {locked picked : List String}
    (hfresh : claimToken ∉ db.drawn) (hselects : Selects db.messages options now locked picked) :
    (OutboxStatement.claimBatch options now).execute (.claimed claimToken claimedAt locked picked)
      db = some (claimedRecords (claimedMessages db.messages picked claimToken claimedAt) picked
        claimToken now, { db with
          messages := claimedMessages db.messages picked claimToken claimedAt
          drawn := claimToken :: db.drawn }) :=
  if_pos ⟨hfresh, hselects⟩

/-- If all other rows are locked, a claim takes the row. -/
theorem claim_of_ready {id : String} {row : OutboxMessage} (hrow : db.messages.get? id = some row)
    (hready : Ready options.claimLeaseMs now row) (hbatch : 0 < options.batchSize) :
    ∃ choice records db' record, (OutboxStatement.claimBatch options now).execute choice db =
      some (records, db') ∧ record ∈ records ∧ record.id = id := by
  obtain ⟨claimToken, hfresh⟩ := Infinite.exists_notMem_finset db.drawn.toFinset
  rw [List.mem_toFinset] at hfresh
  have hmem := Table.mem_of_get? hrow
  obtain rfl := Table.key_of_get? hrow
  have hselects : Selects db.messages options now
      ((db.messages.rows.map OutboxMessage.id).filter (· ≠ row.id)) [row.id] := by
    refine ⟨List.nodup_singleton _, hbatch, ?_, ?_⟩
    · intro id hid
      obtain rfl := List.mem_singleton.mp hid
      exact ⟨by simp, row, hmem, rfl, hready.due⟩
    · intro other hother _
      by_cases hsame : other.id = row.id
      · exact .inl (List.mem_singleton.mpr hsame)
      · refine .inr (.inl (List.mem_filter.mpr ⟨List.mem_map.mpr ⟨other, hother, rfl⟩, ?_⟩))
        simpa using hsame
  have hclaimed := @get?_claimedMessages db.messages [row.id] claimToken row.id now
  rw [hrow, Option.map_some, if_pos (List.mem_singleton_self _)] at hclaimed
  refine ⟨_, _, _, (row.claim claimToken now).toClaimedRecord claimToken now,
    @execute_claimBatch _ _ _ claimToken now _ _ hfresh hselects, ?_, rfl⟩
  refine List.mem_map.mpr ⟨row.claim claimToken now, ?_, rfl⟩
  exact List.mem_filterMap.mpr ⟨row.id, List.mem_singleton_self _, hclaimed⟩

/-- A claim takes a row that is ready and not locked, or its batch is full of rows no younger. -/
theorem claimed_of_ready {claimToken id : String} {claimedAt : Nat} {locked picked : List String}
    {records : List OutboxClaimedRecord} {row : OutboxMessage}
    (h : (OutboxStatement.claimBatch options now).execute
      (.claimed claimToken claimedAt locked picked) db = some (records, db'))
    (hrow : db.messages.get? id = some row) (hready : Ready options.claimLeaseMs now row)
    (hlocked : id ∉ locked) :
    (∃ record ∈ records, record.id = id ∧ record.claimToken = claimToken ∧
      db'.messages.get? id = some (row.claim claimToken claimedAt)) ∨
    (records.length = options.batchSize ∧ ∀ record ∈ records, ∀ other,
      db.messages.get? record.id = some other → other.createdAt ≤ row.createdAt) := by
  by_cases hpicked : claimToken ∉ db.drawn ∧ Selects db.messages options now locked picked
  · obtain ⟨hfresh, hselects⟩ := hpicked
    rw [execute_claimBatch hfresh hselects] at h
    obtain rfl := Table.key_of_get? hrow
    have hclaimed : ∀ {id : String} {original : OutboxMessage}, id ∈ picked →
        db.messages.get? id = some original →
        (claimedMessages db.messages picked claimToken claimedAt).get? id =
          some (original.claim claimToken claimedAt) := by
      intro id original hid hget
      rw [get?_claimedMessages, hget, Option.map_some, Table.key_of_get? hget, if_pos hid]
    obtain ⟨hrecords, hdb⟩ := Prod.mk.inj (Option.some.inj h)
    have hdb : db'.messages = claimedMessages db.messages picked claimToken claimedAt :=
      congrArg OutboxDb.messages hdb.symm
    rcases hselects.skipped row (Table.mem_of_get? hrow) hready.due with hid | hid | hfull
    · left
      have hget := hclaimed hid hrow
      refine ⟨(row.claim claimToken claimedAt).toClaimedRecord claimToken now, ?_, rfl, rfl, ?_⟩
      · rw [← hrecords]
        exact List.mem_map.mpr ⟨_, List.mem_filterMap.mpr ⟨row.id, hid, hget⟩, rfl⟩
      · rw [hdb]
        exact hget
    · exact absurd hid hlocked
    · right
      obtain ⟨hlength, hyounger⟩ := hfull
      constructor
      · rw [← hrecords, claimedRecords, List.length_map, ← hlength]
        refine List.filterMap_length_eq_length.mpr fun id hid => ?_
        obtain ⟨_, found, hfound, rfl, _⟩ := hselects.due id hid
        rw [hclaimed hid (Table.get?_of_mem hfound)]
        rfl
      · intro record hrecord other hother
        rw [← hrecords] at hrecord
        obtain ⟨_, _, hid, _, _⟩ := mem_claimedRecords hrecord
        refine hyounger other (Table.mem_of_get? hother) ?_
        rw [Table.key_of_get? hother]
        exact hid
  · have hnone : (OutboxStatement.claimBatch options now).execute
        (.claimed claimToken claimedAt locked picked) db = none := if_neg hpicked
    cases hnone.symm.trans h

end Due

section Runs

variable {P Q : Pool (outboxSystem config)} {trace : List (Label (outboxSystem config))}

/-- Settled rows stay settled; a row is published only after a publication of its event returned;
a claim that was taken over settles nothing; a pending row is claimed again once its retry is due
and its lease has run out, and no appended event is lost. -/
theorem outbox_settlement_is_safe (hP : Begins P) (hrun : Run (fun _ _ => True) P trace Q) :
    (∀ id row, Q.store.db.messages.get? id = some row → row.status ≠ .pending →
      ∀ {later R}, Run (fun _ _ => True) Q later R →
        R.store.db.messages.get? id = some row ∨
          R.store.db.messages.get? id = none ∧ Purged later row) ∧
    (∀ id row, Q.store.db.messages.get? id = some row → row.status = .published →
      Attempted trace row.toEventColumns true) ∧
    (∀ {i options now records f R}, Step (outboxSystem config) Q
        (executed i (.claimBatch options now) records f) R →
      ∀ record ∈ records, ∀ row claimToken, Q.store.db.messages.get? record.id = some row →
        row.claimToken = some claimToken → ∀ {later S}, Run (fun _ _ => True) R later S →
          ∀ {j q a g T}, settles record.id claimToken q →
            Step (outboxSystem config) S (executed j q a g) T → T.store.db = S.store.db) ∧
    (∀ id row now, Q.store.db.messages.get? id = some row → Ready config.claimLeaseMs now row →
      (0 < config.batchSize → ∃ choice records db record,
        (OutboxStatement.claimBatch ⟨config.batchSize, config.claimLeaseMs⟩ now).execute choice
          Q.store.db = some (records, db) ∧ record ∈ records ∧ record.id = id) ∧
      ∀ claimToken claimedAt locked picked records db, id ∉ locked →
        (OutboxStatement.claimBatch ⟨config.batchSize, config.claimLeaseMs⟩ now).execute
          (.claimed claimToken claimedAt locked picked) Q.store.db = some (records, db) →
        (∃ record ∈ records, record.id = id ∧ record.claimToken = claimToken ∧
          db.messages.get? id = some (row.claim claimToken claimedAt)) ∨
        (records.length = config.batchSize ∧ ∀ record ∈ records, ∀ other,
          Q.store.db.messages.get? record.id = some other → other.createdAt ≤ row.createdAt)) ∧
    (∀ {i request now row f}, executed i (.create request now) row f ∈ trace →
      (∃ found, Q.store.db.messages.get? row.id = some found ∧
        found.toEventColumns = row.toEventColumns) ∨ Attempted trace row.toEventColumns true) := by
  have hsound := sound_of_run hP hrun
  refine ⟨?_, ?_, ?_, ?_, ?_⟩
  · intro id row hrow hstatus later R hlater
    exact settled_of_run hP hrun hrow hstatus hlater
  · intro id row hrow hstatus
    exact attempted_of_run hP hrun ((hsound row (Table.mem_of_get? hrow)).published hstatus)
  · intro i options now records f R hstep record hrecord row claimToken hrow htoken later S hlater
      j q a g T hsettles hsettle
    obtain ⟨choice, db, hexecute, hstore⟩ := serves_statement.mp hsettle.answered
    rw [hstore]
    refine settles_nothing (executes_of_execute hexecute) hsettles fun row' hrow' => ?_
    exact taken_over hP hrun hstep hrecord hrow htoken hlater hrow'
  · intro id row now hrow hready
    refine ⟨fun hbatch => ?_, ?_⟩
    · exact @claim_of_ready _ ⟨config.batchSize, config.claimLeaseMs⟩ now id row hrow hready hbatch
    · intro claimToken claimedAt locked picked records db hlocked hexecute
      exact claimed_of_ready hexecute hrow hready hlocked
  · intro i request now row f happended
    rcases kept_of_run hP hrun happended with hkept | hpublished
    · exact .inl hkept
    · exact .inr (attempted_of_run hP hrun hpublished)

/-- Batches of one, a lease of a hundred milliseconds, one retry. -/
def demo : OutboxConfig := ⟨1, 1, 100, 10, 50, 24⟩

def emptyOutbox (config : OutboxConfig) : Pool (outboxSystem config) :=
  ⟨⟨⟨Table.empty, [], []⟩, 0, []⟩, []⟩

theorem begins_emptyOutbox : Begins (emptyOutbox config) := ⟨rfl, rfl, rfl⟩

def event : AppendOutboxEventRequest where
  tenantId := some "t"
  companyId := none
  eventId := "e"
  eventType := "OrderCreated"
  eventVersion := none
  aggregateType := "SalesOrder"
  aggregateId := "o"
  payload := ""
  occurredAt := some 3
  correlationId := none
  causationId := none
  headers := none
  nextRetryAt := none

def appended (thread now : Nat) : List (Move (outboxSystem demo)) :=
  [.start (.append event), .serve thread (.clock now), .serve thread (.statement (.created "m" now))]

def claimed (thread now : Nat) (claimToken : String) : List (Move (outboxSystem demo)) :=
  [.start .dispatch, .serve thread (.clock now),
    .serve thread (.statement (.claimed claimToken now [] ["m"]))]

def accept (thread : Nat) : Move (outboxSystem demo) :=
  .serve thread (.statement (.published (.ok ())))

/-- The call of the bus, the clock, and the update. -/
def marked (thread now : Nat) : List (Move (outboxSystem demo)) :=
  [.serve thread (.statement .settled), .serve thread (.clock now),
    .serve thread (.statement .settled)]

/-- Two dispatchers publish the event, the slow one after its claim was taken over. -/
theorem outbox_settlement_is_safe_taken_over :
    ∃ (Q : Pool (outboxSystem demo)) (trace : List (Label (outboxSystem demo)))
      (row : OutboxMessage), Q.store.db.messages.get? "m" = some row ∧
        row.publishedAt = some 120 ∧ Q.store.db.publications.length = 2 ∧
        Attempted trace row.toEventColumns true := by
  have hplay : ((((emptyOutbox demo).play (fun _ _ => True)
      (appended 0 5 ++ claimed 1 6 "a" ++ claimed 2 110 "b" ++ [accept 1] ++ marked 1 115 ++
        [accept 2] ++ marked 2 120)).map fun Q =>
      decide ((Q.store.db.messages.get? "m").map (fun row => (row.status, row.publishedAt)) =
        some (.published, some 120) ∧ Q.store.db.publications.length = 2)) = some true) := by
    decide
  obtain ⟨Q, trace, hrun, hrows, hlength⟩ := Pool.play_reach hplay
  obtain ⟨row, hrow, hpublished⟩ := Option.map_eq_some_iff.mp hrows
  obtain ⟨hstatus, htime⟩ := Prod.mk.inj hpublished
  refine ⟨Q, trace, row, hrow, htime, hlength, ?_⟩
  exact (outbox_settlement_is_safe begins_emptyOutbox hrun).2.1 "m" row hrow hstatus

end Runs

end DddBoilerplate.Messaging.Outbox
