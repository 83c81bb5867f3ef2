/- module: DddBoilerplate/Notification/Blocks
   generality: I
   digest: The block-list along a run, and what a callback that came to its end has done with its receipts. -/

import DddBoilerplate.Concurrency.Stops
import DddBoilerplate.Notification.Attempts

set_option autoImplicit false
set_option relaxedAutoImplicit false
set_option linter.all false

namespace DddBoilerplate.Notification

open Concurrency Store ReceiptDb

section Rows

variable {db db' : ReceiptDb} {choice : ReceiptChoice} {id : String}

/-- What no statement changes of a row of the block-list. -/
def NotificationSuppression.standing (row : NotificationSuppression) :
    Option String × String × String × Option Nat :=
  (row.tenantId, row.address, row.channel, row.expiresAt)

/-- The address is blocked on the channel, without an expiry. -/
def ReceiptDb.Blocked (db : ReceiptDb) (tenantId : Option String) (address channel : String) : Prop :=
  ∃ row ∈ db.suppressions.rows, row.standing = (tenantId, address, channel, none)

/-- The block-list stays, or one row of it is written over, or one is added. -/
inductive SuppressionStep (db db' : ReceiptDb) :
    (q : ReceiptStatement) → Except String q.Result → Prop where
  | kept (q : ReceiptStatement) (a : Except String q.Result)
      (same : db'.suppressions = db.suppressions) : SuppressionStep db db' q a
  | updated (id : String) (reason : NotificationSuppressReason) (source : Option String)
      (row : NotificationSuppression) (found : db.suppressions.get? id = some row)
      (written : db'.suppressions =
        db.suppressions.put { row with reason := reason, source := source }) :
      SuppressionStep db db' (.updateSuppression id reason source) (.ok ())
  | created (tenantId : Option String) (address channel : String)
      (reason : NotificationSuppressReason) (source : Option String) (id : String)
      (free : db.suppressions.get? id = none)
      (written : db'.suppressions =
        db.suppressions.insert ⟨id, tenantId, address, channel, reason, source, none⟩) :
      SuppressionStep db db' (.createSuppression tenantId address channel reason source) (.ok ())

theorem suppressions_of_execute {q : ReceiptStatement} {a : Except String q.Result}
    (h : q.execute choice db = some (a, db')) : SuppressionStep db db' q a := by
  cases q with
  | updateSuppression id reason source =>
    cases choice with
    | settled =>
      dsimp only [ReceiptStatement.execute] at h
      split at h
      · cases h
        exact .kept _ _ rfl
      · rename_i row hrow
        cases h
        exact .updated _ _ _ row hrow rfl
    | refused message =>
      cases h
      exact .kept _ _ rfl
    | _ => cases h
  | createSuppression tenantId address channel reason source =>
    cases choice with
    | created id =>
      dsimp only [ReceiptStatement.execute] at h
      split at h
      · cases h
        exact .kept _ _ rfl
      · split at h
        · rename_i hfree
          cases h
          exact .created _ _ _ _ _ id hfree rfl
        · cases h
    | refused message =>
      cases h
      exact .kept _ _ rfl
    | _ => cases h
  | pipeline q =>
    refine .kept _ _ ?_
    cases choice with
    | refused message =>
      cases h
      rfl
    | pipeline choice =>
      cases q with
      | findForRecipient tenantId recipientRef => cases h
      | isSuppressed tenantId address channel => cases h
      | _ =>
        obtain ⟨⟨a', after⟩, hexecute, heq⟩ := Option.map_eq_some_iff.mp h
        cases heq
        rfl
    | settled =>
      cases q with
      | findForRecipient tenantId recipientRef =>
        cases h
        rfl
      | _ => cases h
    | reading now =>
      cases q with
      | isSuppressed tenantId address channel =>
        dsimp only [ReceiptStatement.execute] at h
        split at h
        · cases h
          rfl
        · cases h
      | _ => cases h
    | found id => cases q <;> cases h
    | created id => cases q <;> cases h
    | events events => cases q <;> cases h
  | findByProviderMessageId providerMessageId =>
    refine .kept _ _ ?_
    cases choice with
    | settled =>
      dsimp only [ReceiptStatement.execute] at h
      split at h
      · cases h
      · cases h
        rfl
    | found id =>
      obtain ⟨row, _, heq⟩ := Option.map_eq_some_iff.mp h
      cases heq
      rfl
    | refused message =>
      cases h
      rfl
    | _ => cases h
  | findSuppression tenantId address channel =>
    refine .kept _ _ ?_
    cases choice with
    | settled =>
      dsimp only [ReceiptStatement.execute] at h
      split at h
      · cases h
      · cases h
        rfl
    | found id =>
      obtain ⟨row, _, heq⟩ := Option.map_eq_some_iff.mp h
      cases heq
      rfl
    | refused message =>
      cases h
      rfl
    | _ => cases h
  | findPreference input =>
    refine .kept _ _ ?_
    cases choice with
    | settled =>
      dsimp only [ReceiptStatement.execute] at h
      split at h
      · cases h
      · cases h
        rfl
    | found id =>
      obtain ⟨row, _, heq⟩ := Option.map_eq_some_iff.mp h
      cases heq
      rfl
    | refused message =>
      cases h
      rfl
    | _ => cases h
  | updatePreference id optedIn =>
    refine .kept _ _ ?_
    cases choice with
    | settled =>
      dsimp only [ReceiptStatement.execute] at h
      split at h
      · cases h
        rfl
      · cases h
        rfl
    | refused message =>
      cases h
      rfl
    | _ => cases h
  | createPreference input =>
    refine .kept _ _ ?_
    cases choice with
    | created id =>
      dsimp only [ReceiptStatement.execute] at h
      split at h
      · cases h
        rfl
      · split at h
        · cases h
          rfl
        · cases h
    | refused message =>
      cases h
      rfl
    | _ => cases h
  | parseDeliveryReceipt channel payload signature =>
    cases choice <;> cases h <;> exact .kept _ _ rfl
  | applyDeliveryStatus providerMessageId status reason =>
    cases choice <;> cases h <;> exact .kept _ _ rfl

/-- Nothing takes a row off the block-list, or changes whom it blocks. -/
theorem SuppressionStep.stands {q : ReceiptStatement} {a : Except String q.Result}
    {row : NotificationSuppression} (h : SuppressionStep db db' q a)
    (hrow : db.suppressions.get? id = some row) :
    ∃ row', db'.suppressions.get? id = some row' ∧ row'.standing = row.standing := by
  cases h with
  | kept q a same => exact ⟨row, same ▸ hrow, rfl⟩
  | updated id' reason source row' found written =>
    have hkey : row'.id = id' := Table.key_of_get? found
    rw [written, @Table.get?_put _ _ _ _ _
      { row' with reason := reason, source := source } row' (by rw [hkey]; exact found)]
    by_cases hid : row'.id = id
    · rw [if_pos hid]
      rw [← hid, hkey] at hrow
      cases found.symm.trans hrow
      exact ⟨_, rfl, rfl⟩
    · rw [if_neg hid]
      exact ⟨row, hrow, rfl⟩
  | created tenantId address channel reason source id' free written =>
    rw [written, @Table.get?_insert _ _ _ NotificationSuppression.id _
      ⟨id', tenantId, address, channel, reason, source, none⟩ free]
    by_cases hid : id' = id
    · rw [hid] at free
      cases free.symm.trans hrow
    · rw [if_neg hid]
      exact ⟨row, hrow, rfl⟩

theorem SuppressionStep.blocked {q : ReceiptStatement} {a : Except String q.Result}
    {tenantId : Option String} {address channel : String} (h : SuppressionStep db db' q a)
    (hblocked : db.Blocked tenantId address channel) : db'.Blocked tenantId address channel := by
  obtain ⟨row, hmem, hstanding⟩ := hblocked
  obtain ⟨row', hrow', hsame⟩ := h.stands (Table.get?_of_mem hmem)
  exact ⟨row', Table.mem_of_get? hrow', hsame.trans hstanding⟩

/-- An address is blocked anew only by the creation of its row. -/
theorem SuppressionStep.blocked_cases {q : ReceiptStatement} {a : Except String q.Result}
    {tenantId : Option String} {address channel : String} (h : SuppressionStep db db' q a)
    (hblocked : db'.Blocked tenantId address channel) :
    db.Blocked tenantId address channel ∨ ∃ reason source,
      (⟨q, a⟩ : ReceiptCall) = ⟨.createSuppression tenantId address channel reason source, .ok ()⟩ := by
  obtain ⟨row, hmem, hstanding⟩ := hblocked
  cases h with
  | kept q a same => exact .inl ⟨row, same ▸ hmem, hstanding⟩
  | updated id' reason source row' found written =>
    rw [written] at hmem
    rcases Table.mem_put hmem with rfl | hmem
    · exact .inl ⟨row', Table.mem_of_get? found, hstanding⟩
    · exact .inl ⟨row, hmem, hstanding⟩
  | created tenantId' address' channel' reason source id' free written =>
    rw [written] at hmem
    rcases (Table.mem_insert free).mp hmem with hmem | rfl
    · exact .inl ⟨row, hmem, hstanding⟩
    · cases hstanding
      exact .inr ⟨reason, source, rfl⟩

section Answers

variable {tenantId : Option String} {address channel : String} {row : NotificationSuppression}
variable {reason : NotificationSuppressReason} {source : Option String}

theorem suppression_found
    (h : (ReceiptStatement.findSuppression tenantId address channel).execute choice db =
      some (.ok (some row), db')) :
    db'.suppressions.get? row.id = some row ∧
      row.standing = (tenantId, address, channel, row.expiresAt) := by
  cases choice with
  | settled =>
    dsimp only [ReceiptStatement.execute] at h
    split at h
    · cases h
    · cases h
  | found id =>
    obtain ⟨found, hfound, heq⟩ := Option.map_eq_some_iff.mp h
    cases heq
    obtain ⟨hget, hnames⟩ := Option.filter_eq_some_iff.mp hfound
    refine ⟨(Table.key_of_get? hget : row.id = id) ▸ hget, ?_⟩
    simp only [names, Bool.and_eq_true, decide_eq_true_iff] at hnames
    rw [NotificationSuppression.standing, hnames.1.1, hnames.1.2, hnames.2]
  | refused message => cases h
  | _ => cases h

theorem suppression_updated
    (h : (ReceiptStatement.updateSuppression id reason source).execute choice db =
      some (.ok (), db')) : ∃ row, db.suppressions.get? id = some row := by
  cases choice with
  | settled =>
    dsimp only [ReceiptStatement.execute] at h
    split at h
    · cases h
    · rename_i row hrow
      exact ⟨row, hrow⟩
  | refused message => cases h
  | _ => cases h

theorem suppression_created
    (h : (ReceiptStatement.createSuppression tenantId address channel reason source).execute choice
      db = some (.ok (), db')) : db'.Blocked tenantId address channel := by
  cases choice with
  | created id =>
    dsimp only [ReceiptStatement.execute] at h
    split at h
    · cases h
    · split at h
      · rename_i hfree
        cases h
        exact ⟨_, (Table.mem_insert hfree).mpr (.inr rfl), rfl⟩
      · cases h
  | refused message => cases h
  | _ => cases h

theorem lookup_missed {providerMessageId : String}
    (h : (ReceiptStatement.findByProviderMessageId providerMessageId).execute choice db =
      some (.ok none, db')) :
    ∀ row ∈ db.pipeline.messages.rows, row.providerMessageId ≠ some providerMessageId := by
  cases choice with
  | settled =>
    dsimp only [ReceiptStatement.execute] at h
    split at h
    · cases h
    · rename_i hnone
      intro row hmem hlinked
      exact hnone (List.any_eq_true.mpr ⟨row, hmem, decide_eq_true hlinked⟩)
  | found id =>
    obtain ⟨row, _, heq⟩ := Option.map_eq_some_iff.mp h
    cases heq
  | refused message => cases h
  | _ => cases h

theorem receipt_applied {providerMessageId : String} {status : ReceiptStatus}
    {reason : Option String} {updated : Option NotificationMessage}
    (h : (ReceiptStatement.applyDeliveryStatus providerMessageId status reason).execute choice db =
      some (.ok updated, db'))
    (hadvances : ∃ row ∈ db.pipeline.messages.rows, advances providerMessageId status row = true) :
    updated ≠ none := by
  cases choice with
  | settled =>
    obtain ⟨hanswer, _⟩ := Prod.mk.inj (Option.some.inj h)
    obtain ⟨row, hmem, hadvanced⟩ := hadvances
    rw [← Except.ok.inj hanswer, Ne, Option.map_eq_none_iff, List.find?_eq_none]
    intro hnone
    exact hnone row hmem hadvanced
  | refused message => cases h
  | _ => cases h

end Answers

end Rows

section Callbacks

variable {history more : List ReceiptCall} {event : DeliveryEvent}

/-- The receipts that ask not to be written to again. -/
def DeliveryStatus.rejects : DeliveryStatus → Bool
  | bounced => true
  | complaint => true
  | unsubscribed => true
  | delivered => false
  | failed => false

/-- The address was put on the block-list, or its row was written over. -/
def Recorded (tenantId : Option String) (address channel : String) (history : List ReceiptCall) :
    Prop :=
  (∃ row reason source,
    (⟨.findSuppression tenantId address channel, .ok (some row)⟩ : ReceiptCall) ∈ history ∧
      (⟨.updateSuppression row.id reason source, .ok ()⟩ : ReceiptCall) ∈ history) ∨
  ∃ reason source,
    (⟨.createSuppression tenantId address channel reason source, .ok ()⟩ : ReceiptCall) ∈ history

/-- The receipt found no message; or it was applied to the one it found, and where it rejects and
was not too late the message's address was recorded. -/
def Applied (event : DeliveryEvent) (history : List ReceiptCall) : Prop :=
  (⟨.findByProviderMessageId event.providerMessageId, .ok none⟩ : ReceiptCall) ∈ history ∨
  ∃ before after message updated,
    history = before ++ ⟨.applyDeliveryStatus event.providerMessageId
      (mapDeliveryEvent event.status message.channel).1 event.reason, .ok updated⟩ :: after ∧
    (⟨.findByProviderMessageId event.providerMessageId, .ok (some message)⟩ : ReceiptCall) ∈ before ∧
    (event.status.rejects = true → updated ≠ none → message.address.getD "" ≠ "" →
      Recorded message.tenantId (message.address.getD "") message.channel history)

theorem Recorded.append {tenantId : Option String} {address channel : String}
    (h : Recorded tenantId address channel history) :
    Recorded tenantId address channel (history ++ more) := by
  rcases h with ⟨row, reason, source, hfound, hupdated⟩ | ⟨reason, source, hcreated⟩
  · exact .inl ⟨row, reason, source, List.mem_append_left _ hfound, List.mem_append_left _ hupdated⟩
  · exact .inr ⟨reason, source, List.mem_append_left _ hcreated⟩

theorem Applied.append (h : Applied event history) : Applied event (history ++ more) := by
  rcases h with hnone | ⟨before, after, message, updated, rfl, hfound, hrecorded⟩
  · exact .inl (List.mem_append_left _ hnone)
  · refine .inr ⟨before, after ++ more, message, updated, by simp, hfound, ?_⟩
    intro hrejects hupdated haddress
    exact (hrecorded hrejects hupdated haddress).append

/-- A suppression that returns has recorded the address. -/
theorem accounted_suppress {tenantId : Option String} {address channel : String}
    {reason : NotificationSuppressReason} {source : Option String} :
    Accounted (fun _ _ => True) (fun h _ => Recorded tenantId address channel h) history
      (suppress tenantId address channel reason source) := by
  refine ⟨trivial, fun answer => accounted_lift_bind fun existing hexisting => ?_⟩
  subst hexisting
  cases existing with
  | some row =>
    refine ⟨trivial, fun answer => accounted_lift fun updated hupdated => ?_⟩
    subst hupdated
    refine .inl ⟨row, reason, source, ?_, ?_⟩
    · exact List.mem_append_left _ (List.mem_append_right _ (List.mem_singleton_self _))
    · exact List.mem_append_right _ (List.mem_singleton_self _)
  | none =>
    refine ⟨trivial, fun answer => accounted_lift fun created hcreated => ?_⟩
    subst hcreated
    exact .inr ⟨reason, source, List.mem_append_right _ (List.mem_singleton_self _)⟩

/-- Only what does not reject gives no reason to suppress. -/
theorem mapDeliveryEvent_rejects {status : DeliveryStatus} {channel : String} :
    (mapDeliveryEvent status channel).2 = none ↔ status.rejects = false := by
  cases status <;> simp [mapDeliveryEvent, DeliveryStatus.rejects]

theorem mapDeliveryEvent_bounced {status : DeliveryStatus} {channel : String}
    (h : status.rejects = true) : (mapDeliveryEvent status channel).1 = .bounced := by
  cases status with
  | delivered => cases h
  | failed => cases h
  | bounced | complaint | unsubscribed => rfl

theorem accounted_applyOne :
    Accounted (fun _ _ => True) (fun h _ => Applied event h) history (applyOne event) := by
  refine ⟨trivial, fun answer => accounted_lift_bind fun found hfound => ?_⟩
  subst hfound
  cases found with
  | none => exact .inl (List.mem_append_right _ (List.mem_singleton_self _))
  | some message =>
    refine ⟨trivial, fun answer => accounted_lift_bind fun updated hupdated => ?_⟩
    subst hupdated
    have happlied : ∀ more, (event.status.rejects = true → updated ≠ none →
        message.address.getD "" ≠ "" → Recorded message.tenantId (message.address.getD "")
          message.channel (history ++ [⟨.findByProviderMessageId event.providerMessageId,
            .ok (some message)⟩] ++ [⟨.applyDeliveryStatus event.providerMessageId
              (mapDeliveryEvent event.status message.channel).1 event.reason, .ok updated⟩] ++
                more)) →
        Applied event (history ++ [⟨.findByProviderMessageId event.providerMessageId,
            .ok (some message)⟩] ++ [⟨.applyDeliveryStatus event.providerMessageId
              (mapDeliveryEvent event.status message.channel).1 event.reason, .ok updated⟩] ++
                more) := by
      intro more hrecorded
      refine .inr ⟨_, more, message, updated, List.append_assoc .., ?_, hrecorded⟩
      exact List.mem_append_right _ (List.mem_singleton_self _)
    have hunrecorded := happlied []
    rw [List.append_nil] at hunrecorded
    split
    · exact hunrecorded fun _ hupdated => absurd rfl hupdated
    · rename_i hnone
      refine hunrecorded fun hrejects => ?_
      rw [mapDeliveryEvent_rejects.mp hnone] at hrejects
      cases hrejects
    · rename_i hempty
      exact hunrecorded fun _ _ haddress => absurd hempty haddress
    · refine accounted_suppress.grown.mono (fun _ _ _ => trivial) ?_
      rintro h _ ⟨⟨more, rfl⟩, hrecorded⟩
      exact happlied more fun _ _ _ => hrecorded

/-- A callback that returns has applied every receipt it was told of. -/
theorem accounted_callback {config : NotificationConfig} {channel payload : String}
    {signature : Option String} :
    Accounted (fun _ _ => True) (fun (h : List ReceiptCall) _ => ∀ events rest,
        h = ⟨.parseDeliveryReceipt channel payload signature, .ok events⟩ :: rest →
          ∀ event ∈ events, Applied event h) []
      (applyDeliveryEvents config channel payload signature) := by
  refine accounted_lift_bind fun provider _ => ?_
  refine ⟨trivial, fun answer => accounted_lift_bind fun events hevents => ?_⟩
  subst hevents
  have heach : ∀ events h, Accounted (fun _ _ => True) (fun h' _ => h <+: h' ∧
      ∀ event ∈ events, Applied event h') h (Program.each applyOne events) := by
    intro events
    induction events with
    | nil => exact fun h => ⟨List.prefix_rfl, fun event hmem => by cases hmem⟩
    | cons event events ih =>
      intro h
      refine accounted_applyOne.grown.bind fun h' _ hfirst => (ih h').mono (fun _ _ h => h) ?_
      rintro h'' _ ⟨hgrown, hrest⟩
      refine ⟨hfirst.1.trans hgrown, fun event' hmem => ?_⟩
      rcases List.mem_cons.mp hmem with rfl | hmem
      · obtain ⟨more, rfl⟩ := hgrown
        exact hfirst.2.append
      · exact hrest event' hmem
  refine (heach events _).mono (fun _ _ h => h) ?_
  rintro h _ ⟨⟨more, rfl⟩, hall⟩ events' rest heq
  cases heq
  exact hall

end Callbacks

end DddBoilerplate.Notification
