/- module: DddBoilerplate/Messaging/InboxTokens
   generality: I
   digest: Where each caller of the inbox stands, and why a claim token never comes back to a row. -/

import DddBoilerplate.Messaging.InboxSystem

set_option autoImplicit false
set_option relaxedAutoImplicit false
set_option linter.all false

namespace DddBoilerplate.Messaging

open Concurrency Store

variable {config : InboxSweepConfig}

section Points

/-- What a caller carries: the token it drew, the time it read, the row it found. -/
structure InboxPoint where
  token : Option String
  reading : Option Nat
  existing : Option InboxMessage

def InboxPoint.idle : InboxPoint := ⟨none, none, none⟩

/-- All tokens a caller knows: its own, and the one of the row it found. -/
def InboxPoint.tokens (k : InboxPoint) : List String :=
  k.token.toList ++ (k.existing.map InboxMessage.claimToken).toList

/-- The found row may be claimed again: its claim has lapsed, and the retry is due. -/
def InboxMessage.reclaimable (config : InboxConfig) (now : Nat) (row : InboxMessage) : Bool :=
  row.status = .inProgress && !(row.claimedAt.any fun claimedAt =>
    now < claimedAt + config.claimLeaseMs) && !(row.nextAttemptAt.any fun next => now < next)

variable (config : InboxSweepConfig) (identity : InboxIdentity)

/-- What follows the row a receive finds. -/
def lookedUp (claimToken : String) (now : Nat) (existing : Option InboxMessage) :
    InboxProgram InboxReceiveResult :=
  match existing with
  | some row =>
    if row.reclaimable config.toInboxConfig now then
      .ask (.statement (.message (.reclaim row.id row.claimToken claimToken now))) fun reclaimed =>
        .done (InboxRequest.reply (.reclaim row.id row.claimToken claimToken now) reclaimed)
    else .done (InboxRequest.reply (.findUnique identity) existing)
  | none => .done (InboxRequest.reply (.findUnique identity) existing)

/-- What follows the insertion. -/
def inserted (id claimToken : String) (now : Nat) (answer : Option String) :
    InboxProgram InboxReceiveResult :=
  match answer with
  | some _ => .done (InboxRequest.reply (.insertIfAbsent identity id claimToken now) answer)
  | none => .ask (.statement (.message (.findUnique identity)))
      (lookedUp config identity claimToken now)

/-- A receive ends right after the answer that decides its result. -/
theorem receiveMessage_eq {id claimToken : String} {now : Nat} :
    receiveMessage config identity id claimToken now =
      .ask (.statement (.message (.insertIfAbsent identity id claimToken now)))
        (inserted config identity id claimToken now) := by
  show Program.ask _ _ = Program.ask _ _
  congr 1
  funext found
  cases found with
  | some id => rfl
  | none =>
    show Program.ask _ _ = Program.ask _ _
    congr 1
    funext existing
    cases existing with
    | none => rfl
    | some existing =>
      obtain ⟨rowId, rowIdentity, status, attempts, token, claimedAt, processedAt, next, error⟩ :=
        existing
      simp only [lookedUp, InboxMessage.reclaimable, InboxRequest.reply, Program.bind]
      cases status with
      | suspended => rfl
      | processed => rfl
      | inProgress =>
        by_cases hlive : (claimedAt.any fun claimedAt =>
            now < claimedAt + config.claimLeaseMs) = true
        · simp [hlive]
          rfl
        · by_cases hdue : (next.any fun next => now < next) = true
          · simp [hlive, hdue]
            rfl
          · simp only [hlive, hdue]
            show Program.ask _ _ = Program.ask _ _
            congr 1
            funext reclaimed
            cases reclaimed with
            | true => rfl
            | false => rfl

end Points

/-- Where a caller may be, with what it carries there. -/
inductive InboxAt (config : InboxSweepConfig) : InboxEntry → InboxPoint → InboxProgram Unit → Prop where
  | begun (identity : InboxIdentity) : InboxAt config (.receive identity) .idle
      (.ask .randomUUID fun id =>
        .ask .randomUUID fun claimToken => .ask .clock fun now =>
          receiveMessage config identity id claimToken now >>= fun _ => .done ())
  | identified (identity : InboxIdentity) (id : String) :
      InboxAt config (.receive identity) .idle (.ask .randomUUID fun claimToken => .ask .clock fun now =>
        receiveMessage config identity id claimToken now >>= fun _ => .done ())
  | drawn (identity : InboxIdentity) (id claimToken : String) :
      InboxAt config (.receive identity) ⟨some claimToken, none, none⟩ (.ask .clock fun now =>
        receiveMessage config identity id claimToken now >>= fun _ => .done ())
  | inserting (identity : InboxIdentity) (id claimToken : String) (now : Nat) :
      InboxAt config (.receive identity) ⟨some claimToken, some now, none⟩
        (.ask (.statement (.message (.insertIfAbsent identity id claimToken now))) fun answer =>
          inserted config identity id claimToken now answer >>= fun _ => .done ())
  | looking (identity : InboxIdentity) (claimToken : String) (now : Nat) :
      InboxAt config (.receive identity) ⟨some claimToken, some now, none⟩
        (.ask (.statement (.message (.findUnique identity))) fun existing =>
          lookedUp config identity claimToken now existing >>= fun _ => .done ())
  | reclaiming (identity : InboxIdentity) (claimToken : String) (now : Nat) (existing : InboxMessage) :
      InboxAt config (.receive identity) ⟨some claimToken, some now, some existing⟩
        (.ask (.statement (.message (.reclaim existing.id existing.claimToken claimToken now)))
          fun _ => .done ())
  | completing (reservation : InboxReservation) :
      InboxAt config (.complete reservation) .idle (.ask .clock fun now => .ask (.statement (.message
        (.complete reservation.id reservation.claimToken now))) fun _ => .done ())
  | completed (reservation : InboxReservation) (now : Nat) :
      InboxAt config (.complete reservation) .idle (.ask (.statement (.message
        (.complete reservation.id reservation.claimToken now))) fun _ => .done ())
  | failing (reservation : InboxReservation) (lastError : Option String) :
      InboxAt config (.fail reservation lastError) .idle (.ask .clock fun now => .ask (.statement (.message
        (.fail reservation.id reservation.claimToken lastError now))) fun _ => .done ())
  | failed (reservation : InboxReservation) (lastError : Option String) (now : Nat) :
      InboxAt config (.fail reservation lastError) .idle (.ask (.statement (.message
        (.fail reservation.id reservation.claimToken lastError now))) fun _ => .done ())
  | reconciling (next : Nat → InboxProgram Unit)
      (hnext : ∀ now, InboxAt config .reconcile ⟨none, some now, none⟩ (next now)) :
      InboxAt config .reconcile .idle (.ask .clock next)
  | suspending (now : Nat) (next : Nat → InboxProgram Unit)
      (hnext : ∀ n, InboxAt config .reconcile ⟨none, some now, none⟩ (next n)) :
      InboxAt config .reconcile ⟨none, some now, none⟩ (.ask (.statement (.suspendExpired now)) next)
  | backingOff (now : Nat) (next : Nat → InboxProgram Unit)
      (hnext : ∀ n, InboxAt config .reconcile .idle (next n)) :
      InboxAt config .reconcile ⟨none, some now, none⟩ (.ask (.statement (.backoffExpired now)) next)
  | purging (now : Nat) : InboxAt config .reconcile ⟨none, some now, none⟩
      (.ask (.statement (.deleteProcessedOlderThan now)) fun _ => .done ())
  | returned (entry : InboxEntry) : InboxAt config entry .idle (.done ())
  | threw (entry : InboxEntry) (error : String) : InboxAt config entry .idle (.fail error)

theorem inboxAt_program (entry : InboxEntry) :
    InboxAt config entry .idle (entry.program config) := by
  cases entry with
  | receive identity => exact .begun identity
  | complete reservation => exact .completing reservation
  | fail reservation lastError => exact .failing reservation lastError
  | reconcile =>
    refine .reconciling _ fun now => .suspending now _ fun _ => .backingOff now _ fun _ => ?_
    exact .reconciling _ fun now => .purging now

/-- The tokens of the rows were drawn, and no two rows have one in common. -/
structure TokensDistinct (w : World InboxDb) : Prop where
  issued : ∀ row ∈ w.db.rows, row.claimToken ∈ w.issued
  distinct : ∀ row ∈ w.db.rows, ∀ row' ∈ w.db.rows,
    row.claimToken = row'.claimToken → row.identity = row'.identity

/-- A row that was found, on what is there now: wherever its token still is, the claim under it is
the one found, or was given up. -/
structure Found (config : InboxSweepConfig) (entry : InboxEntry) (k : InboxPoint)
    (existing : InboxMessage) (w : World InboxDb) : Prop where
  issued : existing.claimToken ∈ w.issued
  foreign : k.token ≠ some existing.claimToken
  found : entry = .receive existing.identity
  due : ∃ now, k.reading = some now ∧ existing.reclaimable config.toInboxConfig now = true
  stays : ∀ row ∈ w.db.rows, row.claimToken = existing.claimToken →
    row.identity = existing.identity ∧
      (row.claimedAt = existing.claimedAt ∨ row.claimedAt = none)

/-- What a caller knows: its token is on no row yet, and the time it read has come. -/
structure Knows (config : InboxSweepConfig) (entry : InboxEntry) (k : InboxPoint)
    (w : World InboxDb) : Prop where
  token : ∀ token, k.token = some token →
    token ∈ w.issued ∧ ∀ row ∈ w.db.rows, row.claimToken ≠ token
  reading : ∀ now, k.reading = some now → now ≤ w.now
  existing : ∀ existing, k.existing = some existing → Found config entry k existing w

/-- Neither caller's own token is known to the other. -/
def Strangers (k k₂ : InboxPoint) : Prop :=
  (∀ token, k.token = some token → token ∉ k₂.tokens) ∧
    ∀ token, k₂.token = some token → token ∉ k.tokens

theorem Strangers.symm {k k₂ : InboxPoint} (h : Strangers k k₂) : Strangers k₂ k := ⟨h.2, h.1⟩

theorem strangers_idle (k : InboxPoint) : Strangers .idle k :=
  ⟨fun _ h => (by cases h), fun _ _ h => (by cases h)⟩

theorem knows_idle {entry : InboxEntry} {w : World InboxDb} : Knows config entry .idle w :=
  ⟨fun _ h => (by cases h), fun _ h => (by cases h), fun _ h => (by cases h)⟩

/-- What a statement leaves: a row is as it was, or its claim is given up, or it has the token of
the caller, whose message it is. -/
def Leaves (entry : InboxEntry) (k : InboxPoint) (db db' : InboxDb) : Prop :=
  ∀ row' ∈ db'.rows,
    (∃ row ∈ db.rows, row'.identity = row.identity ∧ row'.claimToken = row.claimToken ∧
      (row'.claimedAt = row.claimedAt ∨ row'.claimedAt = none)) ∨
    (k.token = some row'.claimToken ∧ entry = .receive row'.identity)

section Leaves

variable {entry : InboxEntry} {k k₂ : InboxPoint} {w : World InboxDb} {db' : InboxDb}

theorem leaves_same {db : InboxDb} : Leaves entry k db db :=
  fun row hrow => .inl ⟨row, hrow, rfl, rfl, .inl rfl⟩

/-- A statement that only gives claims up. -/
theorem leaves_of_update {db db' : InboxDb}
    (h : ∀ row' ∈ db'.rows, ∃ row ∈ db.rows, row' = row ∨
      row'.identity = row.identity ∧ row'.claimToken = row.claimToken ∧ row'.claimedAt = none) :
    Leaves entry k db db' := by
  intro row' hrow'
  obtain ⟨row, hrow, rfl | ⟨hidentity, htoken, hclaimed⟩⟩ := h row' hrow'
  · exact .inl ⟨row', hrow, rfl, rfl, .inl rfl⟩
  · exact .inl ⟨row, hrow, hidentity, htoken, .inr hclaimed⟩

theorem leaves_updateMany {db : InboxDb} {p : InboxMessage → Bool}
    {f : InboxMessage → InboxMessage} (hf : ∀ row, (f row).identity = row.identity)
    (hgives : ∀ row, (f row).claimToken = row.claimToken ∧ (f row).claimedAt = none) :
    Leaves entry k db (db.updateMany p f hf).2 := by
  refine leaves_of_update fun row' hrow' => ?_
  obtain ⟨row, hrow, rfl⟩ := Table.mem_updateMany.mp hrow'
  refine ⟨row, hrow, ?_⟩
  split
  · exact .inr ⟨hf row, hgives row⟩
  · exact .inl rfl

theorem mem_updateClaimed {db : InboxDb} {id claimToken : String}
    {f : InboxMessage → InboxMessage} {hf : ∀ row, (f row).identity = row.identity}
    {row' : InboxMessage} : row' ∈ (updateClaimed db id claimToken f hf).2.rows ↔
      ∃ row ∈ db.rows, (if row.claimedBy id claimToken then f row else row) = row' := by
  simp [updateClaimed, Table.update]

theorem leaves_updateClaimed {db : InboxDb} {id claimToken : String}
    {f : InboxMessage → InboxMessage} (hf : ∀ row, (f row).identity = row.identity)
    (hgives : ∀ row, (f row).claimToken = row.claimToken ∧ (f row).claimedAt = none) :
    Leaves entry k db (updateClaimed db id claimToken f hf).2 := by
  refine leaves_of_update fun row' hrow' => ?_
  obtain ⟨row, hrow, rfl⟩ := mem_updateClaimed.mp hrow'
  refine ⟨row, hrow, ?_⟩
  split
  · exact .inr ⟨hf row, hgives row⟩
  · exact .inl rfl

theorem leaves_deleteMany {db : InboxDb} {p : InboxMessage → Bool} :
    Leaves entry k db (db.deleteMany p).2 := by
  refine leaves_of_update fun row' hrow' => ⟨row', ?_, .inl rfl⟩
  exact (List.mem_filter.mp hrow').1

/-- An insertion, or nothing. -/
theorem leaves_insertIfAbsent {identity : InboxIdentity} {id claimToken : String} {now : Nat}
    {a : Option String} {db : InboxDb}
    (h : InboxRequest.serve config.toInboxConfig db
      (.insertIfAbsent identity id claimToken now) = (a, db')) (hk : k.token = some claimToken) :
    Leaves (.receive identity) k db db' := by
  dsimp only [InboxRequest.serve] at h
  split at h
  · cases h
    exact leaves_same
  · rename_i habsent
    cases h
    intro row' hrow'
    rcases (Table.mem_insert habsent).mp hrow' with hrow' | rfl
    · exact leaves_same row' hrow'
    · exact .inr ⟨hk, rfl⟩

theorem insertIfAbsent_none {identity : InboxIdentity} {id claimToken : String} {now : Nat}
    {db : InboxDb} (h : InboxRequest.serve config.toInboxConfig db
      (.insertIfAbsent identity id claimToken now) = ((none : Option String), db')) : db' = db := by
  dsimp only [InboxRequest.serve] at h
  split at h
  · cases h
    rfl
  · cases h

theorem leaves_reclaim {existing : InboxMessage} {claimToken : String} {now : Nat}
    (hfound : Found config entry k existing w) (hk : k.token = some claimToken) :
    Leaves entry k w.db (InboxRequest.serve config.toInboxConfig w.db
      (.reclaim existing.id existing.claimToken claimToken now)).2 := by
  intro row' hrow'
  simp only [InboxRequest.serve] at hrow'
  obtain ⟨row, hrow, rfl⟩ := mem_updateClaimed.mp hrow'
  split
  · rename_i hclaimed
    simp only [InboxMessage.claimedBy, Bool.and_eq_true, decide_eq_true_eq] at hclaimed
    obtain ⟨hidentity, _⟩ := hfound.stays row hrow hclaimed.1.2
    exact .inr ⟨hk, hidentity ▸ hfound.found⟩
  · exact leaves_same row hrow

theorem Leaves.tokensDistinct (h : Leaves entry k w.db db') (hw : TokensDistinct w)
    (hk : Knows config entry k w) : TokensDistinct { w with db := db' } where
  issued := by
    intro row' hrow'
    rcases h row' hrow' with ⟨row, hrow, _, htoken, _⟩ | ⟨htoken, _⟩
    · rw [htoken]
      exact hw.issued row hrow
    · exact (hk.token _ htoken).1
  distinct := by
    intro row₁ h₁ row₂ h₂ hsame
    rcases h row₁ h₁ with ⟨old₁, hold₁, hid₁, htoken₁, _⟩ | ⟨htoken₁, hentry₁⟩
    · rcases h row₂ h₂ with ⟨old₂, hold₂, hid₂, htoken₂, _⟩ | ⟨htoken₂, _⟩
      · rw [hid₁, hid₂]
        exact hw.distinct old₁ hold₁ old₂ hold₂ (htoken₁ ▸ htoken₂ ▸ hsame)
      · exact absurd (htoken₁.symm.trans hsame) ((hk.token _ htoken₂).2 old₁ hold₁)
    · rcases h row₂ h₂ with ⟨old₂, hold₂, _, htoken₂, _⟩ | ⟨_, hentry₂⟩
      · exact absurd (htoken₂.symm.trans hsame.symm) ((hk.token _ htoken₁).2 old₂ hold₂)
      · have hentries : InboxEntry.receive row₁.identity = .receive row₂.identity :=
          hentry₁.symm.trans hentry₂
        injection hentries

/-- Every other caller keeps what it knows. -/
theorem Leaves.knows {entry₂ : InboxEntry} (h : Leaves entry k w.db db')
    (hk : Knows config entry₂ k₂ w) (hstrangers : Strangers k k₂) :
    Knows config entry₂ k₂ { w with db := db' } where
  token := by
    intro token htoken
    obtain ⟨hissued, hnone⟩ := hk.token token htoken
    refine ⟨hissued, fun row' hrow' => ?_⟩
    rcases h row' hrow' with ⟨row, hrow, _, hsame, _⟩ | ⟨hown, _⟩
    · rw [hsame]
      exact hnone row hrow
    · intro heq
      refine hstrangers.2 token htoken ?_
      simp [InboxPoint.tokens, hown, heq]
  reading := hk.reading
  existing := by
    intro existing hexisting
    obtain ⟨hissued, hforeign, hfound, hdue, hstays⟩ := hk.existing existing hexisting
    refine ⟨hissued, hforeign, hfound, hdue, fun row' hrow' heq => ?_⟩
    rcases h row' hrow' with ⟨row, hrow, hid, hsame, hclaimed⟩ | ⟨hown, _⟩
    · obtain ⟨hidentity, hclaim⟩ := hstays row hrow (hsame ▸ heq)
      refine ⟨hid.trans hidentity, ?_⟩
      rcases hclaimed with hclaimed | hclaimed
      · rw [hclaimed]
        exact hclaim
      · exact .inr hclaimed
    · refine absurd ?_ (hstrangers.1 _ hown)
      simp [InboxPoint.tokens, hexisting, heq]

theorem Knows.later {w' : World InboxDb} (h : Knows config entry k w) (hlater : w.Later w')
    (hdb : w'.db = w.db) : Knows config entry k w' where
  token := by
    intro token htoken
    rw [hdb]
    exact ⟨hlater.issued _ (h.token token htoken).1, (h.token token htoken).2⟩
  reading := fun now hnow => Nat.le_trans (h.reading now hnow) hlater.now
  existing := by
    intro existing hexisting
    obtain ⟨hissued, hforeign, hfound, hdue, hstays⟩ := h.existing existing hexisting
    refine ⟨hlater.issued _ hissued, hforeign, hfound, hdue, ?_⟩
    rw [hdb]
    exact hstays

theorem TokensDistinct.later {w' : World InboxDb} (h : TokensDistinct w) (hlater : w.Later w')
    (hdb : w'.db = w.db) : TokensDistinct w' := by
  constructor
  · rw [hdb]
    exact fun row hrow => hlater.issued _ (h.issued row hrow)
  · rw [hdb]
    exact h.distinct

/-- What a caller knows whose program has come to its next point. -/
structure Moves (config : InboxSweepConfig) (entry : InboxEntry) (k : InboxPoint)
    (w w' : World InboxDb) (p : InboxProgram Unit) : Prop where
  store : TokensDistinct w'
  point : ∃ k', InboxAt config entry k' p ∧ Knows config entry k' w' ∧
    ∀ entry₂ k₂, Knows config entry₂ k₂ w → Strangers k k₂ →
      Knows config entry₂ k₂ w' ∧ Strangers k' k₂

/-- A statement after which the caller is at a point where it carries nothing more. -/
theorem moves_idle {p : InboxProgram Unit} (hleaves : Leaves entry k w.db db')
    (hw : TokensDistinct w) (hk : Knows config entry k w) (hat : InboxAt config entry .idle p) :
    Moves config entry k w { w with db := db' } p where
  store := hleaves.tokensDistinct hw hk
  point := ⟨.idle, hat, knows_idle, fun _ k₂ hk₂ hstrangers =>
    ⟨hleaves.knows hk₂ hstrangers, strangers_idle k₂⟩⟩

/-- A statement that changes nothing. -/
theorem moves_same {p : InboxProgram Unit} (hw : TokensDistinct w) (hk : Knows config entry k w)
    (hat : InboxAt config entry k p) : Moves config entry k w w p :=
  ⟨hw, k, hat, hk, fun _ _ hk₂ hstrangers => ⟨hk₂, hstrangers⟩⟩

/-- A statement of a caller that carries nothing but the time. -/
theorem moves_timed {p : InboxProgram Unit} {now : Nat}
    (hleaves : Leaves entry ⟨none, some now, none⟩ w.db db') (hw : TokensDistinct w)
    (hk : Knows config entry ⟨none, some now, none⟩ w)
    (hat : InboxAt config entry ⟨none, some now, none⟩ p) :
    Moves config entry ⟨none, some now, none⟩ w { w with db := db' } p where
  store := hleaves.tokensDistinct hw hk
  point := by
    refine ⟨_, hat, hleaves.knows hk ?_, fun _ _ hk₂ hstrangers =>
      ⟨hleaves.knows hk₂ hstrangers, hstrangers⟩⟩
    exact ⟨fun _ h => (by cases h), fun _ h => (by cases h)⟩

/-- The clock is read. -/
theorem moves_clock {now : Nat} {k' : InboxPoint} {p : InboxProgram Unit} (hle : w.now ≤ now)
    (hw : TokensDistinct w) (hk : Knows config entry k w) (hat : InboxAt config entry k' p)
    (htoken : k'.token = k.token) (hreading : k'.reading = some now ∨ k'.reading = none)
    (hexisting : k'.existing = none) : Moves config entry k w { w with now := now } p := by
  have hlater : w.Later { w with now := now } := ⟨hle, fun _ h => h⟩
  refine ⟨hw.later hlater rfl, k', hat, ?_, fun _ k₂ hk₂ hstrangers =>
    ⟨hk₂.later hlater rfl, ?_⟩⟩
  · refine ⟨?_, ?_, ?_⟩
    · rw [htoken]
      exact hk.token
    · intro t ht
      rcases hreading with hreading | hreading
      · rw [hreading] at ht
        cases ht
        exact Nat.le_refl _
      · rw [hreading] at ht
        cases ht
    · rw [hexisting]
      intro existing h
      cases h
  · obtain ⟨hown, hother⟩ := hstrangers
    constructor
    · rw [htoken]
      exact hown
    · intro token ht
      have hnot := hother token ht
      simp only [InboxPoint.tokens, htoken, hexisting, List.mem_append, not_or] at hnot ⊢
      exact ⟨hnot.1, by simp⟩

/-- An identifier is drawn, to be the token or not. -/
theorem moves_drawn {token : String} {p : InboxProgram Unit} (hfresh : token ∉ w.issued)
    (hw : TokensDistinct w) (hat : InboxAt config entry k p)
    (hk : k = .idle ∨ k = ⟨some token, none, none⟩) :
    Moves config entry .idle w { w with issued := token :: w.issued } p := by
  have hlater : w.Later { w with issued := token :: w.issued } :=
    ⟨Nat.le_refl _, fun _ h => List.mem_cons_of_mem _ h⟩
  refine ⟨hw.later hlater rfl, k, hat, ?_, fun _ k₂ hk₂ _ => ⟨hk₂.later hlater rfl, ?_⟩⟩
  · rcases hk with rfl | rfl
    · exact knows_idle
    · refine ⟨?_, fun _ h => (by cases h), fun _ h => (by cases h)⟩
      intro token' htoken
      cases htoken
      refine ⟨List.mem_cons_self, fun row hrow heq => hfresh ?_⟩
      exact heq ▸ hw.issued row hrow
  · rcases hk with rfl | rfl
    · exact strangers_idle k₂
    · have hnew : token ∉ k₂.tokens := by
        intro hmem
        simp only [InboxPoint.tokens, List.mem_append, Option.mem_toList, Option.map_eq_some_iff]
          at hmem
        rcases hmem with hmem | ⟨existing, hexisting, rfl⟩
        · exact hfresh (hk₂.token token hmem).1
        · exact hfresh (hk₂.existing existing hexisting).issued
      constructor
      · intro token' htoken
        cases htoken
        exact hnew
      · intro token' htoken hmem
        simp only [InboxPoint.tokens, Option.map_none, Option.toList_none, List.append_nil,
          Option.mem_toList, Option.some.injEq] at hmem
        subst hmem
        refine hnew ?_
        simp [InboxPoint.tokens, htoken]

/-- The row is looked up, and may be claimed again. -/
theorem moves_found {identity : InboxIdentity} {claimToken : String} {now : Nat}
    {existing : InboxMessage} (hw : TokensDistinct w)
    (hk : Knows config (.receive identity) ⟨some claimToken, some now, none⟩ w)
    (hfound : w.db.get? identity = some existing)
    (hdue : existing.reclaimable config.toInboxConfig now = true) {p : InboxProgram Unit}
    (hat : InboxAt config (.receive identity) ⟨some claimToken, some now, some existing⟩ p) :
    Moves config (.receive identity) ⟨some claimToken, some now, none⟩ w w p := by
  have hrow : existing ∈ w.db.rows := Table.mem_of_get? hfound
  obtain rfl : existing.identity = identity := Table.key_of_get? hfound
  refine ⟨hw, _, hat, ⟨hk.token, hk.reading, ?_⟩, fun _ k₂ hk₂ hstrangers => ⟨hk₂, ?_⟩⟩
  · intro row hexisting
    cases hexisting
    refine ⟨hw.issued existing hrow, ?_, rfl, ⟨now, rfl, hdue⟩, fun row hmem hsame => ?_⟩
    · intro heq
      cases heq
      exact (hk.token _ rfl).2 existing hrow rfl
    · have hidentity := hw.distinct row hmem existing hrow hsame
      have hget := Table.get?_of_mem hmem
      rw [hidentity, hfound] at hget
      cases hget
      exact ⟨rfl, .inl rfl⟩
  · constructor
    · exact hstrangers.1
    · intro token htoken hmem
      have hnot := hstrangers.2 token htoken
      simp only [InboxPoint.tokens, Option.toList_some, Option.map_none, Option.map_some,
        Option.toList_none, List.append_nil, List.mem_singleton, List.mem_append] at hnot hmem
      rcases hmem with rfl | rfl
      · exact hnot rfl
      · exact (hk₂.token _ htoken).2 existing hrow rfl

end Leaves

/-- Every caller of the inbox, step by step. -/
theorem inbox_annotated (ok : Pool (inboxSystem config) → Label (inboxSystem config) → Prop) :
    @Annotated (inboxSystem config) InboxPoint ok (InboxAt config) TokensDistinct (Knows config)
      Strangers where
  symm := Strangers.symm
  start := fun _ e _ _ => ⟨.idle, inboxAt_program e, knows_idle, fun _ k₂ _ => strangers_idle k₂⟩
  raised := by
    intro e k q next error s hat hk
    exact ⟨.idle, .threw e error, knows_idle, fun k₂ _ => strangers_idle k₂⟩
  served := by
    intro P i e k q next a s' _ hw hk hat hserves
    have hmoves : Moves config e k P.store s' (next a) := by
      cases hat with
      | begun identity =>
        obtain ⟨hfresh, rfl⟩ := serves_randomUUID hserves
        exact moves_drawn hfresh hw (.identified identity a) (.inl rfl)
      | identified identity id =>
        obtain ⟨hfresh, rfl⟩ := serves_randomUUID hserves
        exact moves_drawn hfresh hw (.drawn identity id a) (.inr rfl)
      | drawn identity id claimToken =>
        obtain ⟨hle, rfl⟩ := serves_clock hserves
        have hat : InboxAt config (.receive identity) ⟨some claimToken, some a, none⟩
            (receiveMessage config identity id claimToken a >>= fun _ => .done ()) := by
          rw [receiveMessage_eq]
          exact .inserting identity id claimToken a
        exact moves_clock hle hw hk hat rfl (.inl rfl) rfl
      | inserting identity id claimToken now =>
        obtain ⟨_, db, hexecute, rfl⟩ := serves_statement.mp hserves
        have hserve := Option.some.inj hexecute
        have hleaves : Leaves (.receive identity) ⟨some claimToken, some now, none⟩ P.store.db db :=
          leaves_insertIfAbsent hserve rfl
        cases a with
        | some id => exact moves_idle hleaves hw hk (.returned _)
        | none =>
          obtain rfl := insertIfAbsent_none hserve
          exact moves_same hw hk (.looking identity claimToken now)
      | looking identity claimToken now =>
        obtain ⟨_, db, hexecute, rfl⟩ := serves_statement.mp hserves
        cases hexecute
        cases hfound : P.store.db.get? identity with
        | none => exact moves_idle leaves_same hw hk (.returned _)
        | some existing =>
          by_cases hdue : existing.reclaimable config.toInboxConfig now = true
          · have hat := @InboxAt.reclaiming config identity claimToken now existing
            refine moves_found hw hk hfound hdue ?_
            simpa [lookedUp, hdue] using hat
          · refine moves_idle leaves_same hw hk ?_
            simpa [lookedUp, hdue] using InboxAt.returned _
      | reclaiming identity claimToken now existing =>
        obtain ⟨_, db, hexecute, rfl⟩ := serves_statement.mp hserves
        cases hexecute
        exact moves_idle (leaves_reclaim (hk.existing existing rfl) rfl) hw hk (.returned _)
      | completing reservation =>
        obtain ⟨hle, rfl⟩ := serves_clock hserves
        exact moves_clock hle hw hk (.completed reservation a) rfl (.inr rfl) rfl
      | completed reservation now =>
        obtain ⟨_, db, hexecute, rfl⟩ := serves_statement.mp hserves
        cases hexecute
        refine moves_idle (leaves_updateClaimed ?_ ?_) hw hk (.returned _)
        · exact fun _ => rfl
        · exact fun _ => ⟨rfl, rfl⟩
      | failing reservation lastError =>
        obtain ⟨hle, rfl⟩ := serves_clock hserves
        exact moves_clock hle hw hk (.failed reservation lastError a) rfl (.inr rfl) rfl
      | failed reservation lastError now =>
        obtain ⟨_, db, hexecute, rfl⟩ := serves_statement.mp hserves
        cases hexecute
        refine moves_idle (leaves_updateClaimed ?_ ?_) hw hk (.returned _)
        · exact fun _ => rfl
        · exact fun _ => ⟨rfl, rfl⟩
      | reconciling next hnext =>
        obtain ⟨hle, rfl⟩ := serves_clock hserves
        exact moves_clock hle hw hk (hnext a) rfl (.inl rfl) rfl
      | suspending now next hnext =>
        obtain ⟨_, db, hexecute, rfl⟩ := serves_statement.mp hserves
        cases hexecute
        refine moves_timed (leaves_updateMany ?_ ?_) hw hk (hnext _)
        · exact fun _ => rfl
        · exact fun _ => ⟨rfl, rfl⟩
      | backingOff now next hnext =>
        obtain ⟨_, db, hexecute, rfl⟩ := serves_statement.mp hserves
        cases hexecute
        refine moves_idle (leaves_updateMany ?_ ?_) hw hk (hnext _)
        · exact fun _ => rfl
        · exact fun _ => ⟨rfl, rfl⟩
      | purging now =>
        obtain ⟨_, db, hexecute, rfl⟩ := serves_statement.mp hserves
        cases hexecute
        exact moves_idle leaves_deleteMany hw hk (.returned _)
    exact ⟨hmoves.store, hmoves.point⟩

/-- What a call that is served does to the database, by the entry it belongs to. -/
inductive Acts (config : InboxSweepConfig) (w : World InboxDb) :
    InboxEntry → (q : WorldRequest InboxStatement.interface) → q.Answer → InboxDb → Prop where
  | clock (entry : InboxEntry) (now : Nat) : Acts config w entry .clock now w.db
  | randomUUID (entry : InboxEntry) (id : String) : Acts config w entry .randomUUID id w.db
  | insertIfAbsent (identity : InboxIdentity) (id claimToken : String) (now : Nat) :
      Acts config w (.receive identity)
        (.statement (.message (.insertIfAbsent identity id claimToken now)))
        (InboxRequest.serve config.toInboxConfig w.db
          (.insertIfAbsent identity id claimToken now)).1
        (InboxRequest.serve config.toInboxConfig w.db
          (.insertIfAbsent identity id claimToken now)).2
  | findUnique (identity : InboxIdentity) :
      Acts config w (.receive identity) (.statement (.message (.findUnique identity)))
        (w.db.get? identity) w.db
  | reclaim (claimToken : String) (now : Nat) (existing : InboxMessage)
      (hfound : Found config (.receive existing.identity)
        ⟨some claimToken, some now, some existing⟩ existing w) (hnow : now ≤ w.now) :
      Acts config w (.receive existing.identity)
        (.statement (.message (.reclaim existing.id existing.claimToken claimToken now)))
        (InboxRequest.serve config.toInboxConfig w.db
          (.reclaim existing.id existing.claimToken claimToken now)).1
        (InboxRequest.serve config.toInboxConfig w.db
          (.reclaim existing.id existing.claimToken claimToken now)).2
  | complete (reservation : InboxReservation) (now : Nat) :
      Acts config w (.complete reservation)
        (.statement (.message (.complete reservation.id reservation.claimToken now)))
        (InboxRequest.serve config.toInboxConfig w.db
          (.complete reservation.id reservation.claimToken now)).1
        (InboxRequest.serve config.toInboxConfig w.db
          (.complete reservation.id reservation.claimToken now)).2
  | fail (reservation : InboxReservation) (lastError : Option String) (now : Nat) :
      Acts config w (.fail reservation lastError)
        (.statement (.message (.fail reservation.id reservation.claimToken lastError now)))
        (InboxRequest.serve config.toInboxConfig w.db
          (.fail reservation.id reservation.claimToken lastError now)).1
        (InboxRequest.serve config.toInboxConfig w.db
          (.fail reservation.id reservation.claimToken lastError now)).2
  | sweep (q : InboxStatement) (n : q.Answer) (db : InboxDb) (now : Nat) (hnow : now ≤ w.now)
      (hq : q = .suspendExpired now ∨ q = .backoffExpired now ∨ q = .deleteProcessedOlderThan now)
      (hexecute : q.execute config () w.db = some (n, db)) :
      Acts config w .reconcile (.statement q) n db

theorem acts_of_served {w w' : World InboxDb} {e : InboxEntry} {k : InboxPoint}
    {q : WorldRequest InboxStatement.interface} {a : q.Answer} {next : q.Answer → InboxProgram Unit}
    (hat : InboxAt config e k (.ask q next)) (hk : Knows config e k w)
    (hserves : (inboxSystem config).Serves q w a w') :
    Acts config w e q a w'.db := by
  cases hat with
  | begun identity =>
    obtain ⟨_, rfl⟩ := serves_randomUUID hserves
    exact .randomUUID _ a
  | identified identity id =>
    obtain ⟨_, rfl⟩ := serves_randomUUID hserves
    exact .randomUUID _ a
  | drawn identity id claimToken =>
    obtain ⟨_, rfl⟩ := serves_clock hserves
    exact .clock _ a
  | inserting identity id claimToken now =>
    obtain ⟨_, db, hexecute, rfl⟩ := serves_statement.mp hserves
    have hserve := Option.some.inj hexecute
    obtain ⟨rfl, rfl⟩ := Prod.mk.inj hserve.symm
    exact .insertIfAbsent identity id claimToken now
  | looking identity claimToken now =>
    obtain ⟨_, db, hexecute, rfl⟩ := serves_statement.mp hserves
    cases hexecute
    exact .findUnique identity
  | reclaiming identity claimToken now existing =>
    have hfound := hk.existing existing rfl
    have hentry : InboxEntry.receive identity = .receive existing.identity := hfound.found
    obtain rfl : identity = existing.identity := by injection hentry
    obtain ⟨_, db, hexecute, rfl⟩ := serves_statement.mp hserves
    cases hexecute
    exact .reclaim claimToken now existing hfound (hk.reading now rfl)
  | completing reservation =>
    obtain ⟨_, rfl⟩ := serves_clock hserves
    exact .clock _ a
  | completed reservation now =>
    obtain ⟨_, db, hexecute, rfl⟩ := serves_statement.mp hserves
    cases hexecute
    exact .complete reservation now
  | failing reservation lastError =>
    obtain ⟨_, rfl⟩ := serves_clock hserves
    exact .clock _ a
  | failed reservation lastError now =>
    obtain ⟨_, db, hexecute, rfl⟩ := serves_statement.mp hserves
    cases hexecute
    exact .fail reservation lastError now
  | reconciling next hnext =>
    obtain ⟨_, rfl⟩ := serves_clock hserves
    exact .clock _ a
  | suspending now next hnext =>
    obtain ⟨_, db, hexecute, rfl⟩ := serves_statement.mp hserves
    exact .sweep _ _ _ now (hk.reading now rfl) (.inl rfl) hexecute
  | backingOff now next hnext =>
    obtain ⟨_, db, hexecute, rfl⟩ := serves_statement.mp hserves
    exact .sweep _ _ _ now (hk.reading now rfl) (.inr (.inl rfl)) hexecute
  | purging now =>
    obtain ⟨_, db, hexecute, rfl⟩ := serves_statement.mp hserves
    exact .sweep _ _ _ now (hk.reading now rfl) (.inr (.inr rfl)) hexecute

end DddBoilerplate.Messaging
