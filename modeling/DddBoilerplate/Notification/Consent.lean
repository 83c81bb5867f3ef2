/- module: DddBoilerplate/Notification/Consent
   generality: I
   digest: When bounces, complaints, unsubscriptions and preferences are honoured by what is sent. -/

import DddBoilerplate.Notification.Blocks
import DddBoilerplate.Notification.Gate
import DddBoilerplate.Notification.Statuses

set_option autoImplicit false
set_option relaxedAutoImplicit false
set_option linter.all false

namespace DddBoilerplate.Notification

open Concurrency Store NotificationDb ReceiptDb

section Statements

variable {config : NotificationConfig}

/-- The message is to this address of the tenant, on this channel. -/
def ClaimedNotificationMessage.goesTo (claimed : ClaimedNotificationMessage)
    (tenantId : Option String) (address channel : String) : Prop :=
  claimed.tenantId = tenantId ∧ claimed.address = some address ∧ claimed.channel = channel

/-- The provider took the message under this identifier. -/
def SentAs (claimed : ClaimedNotificationMessage) (providerMessageId : String)
    (trace : List (Label (receiptSystem config))) : Prop :=
  ∃ k rendered front,
    .served k (.pipeline (.send claimed rendered)) (.ok providerMessageId) front ∈ trace

/-- The callback of the thread brought this receipt. -/
def Told (j : Nat) (event : DeliveryEvent) (trace : List (Label (receiptSystem config))) : Prop :=
  ∃ channel payload signature events rest,
    (entries trace : List ReceiptEntry)[j]? = some (.callback channel payload signature) ∧
      calls j trace = ⟨.parseDeliveryReceipt channel payload signature, .ok events⟩ :: rest ∧
        event ∈ events

/-- A receipt that rejects was accepted, of a message that went to the address. -/
def Rejected (tenantId : Option String) (address channel : String)
    (trace : List (Label (receiptSystem config))) : Prop :=
  ∃ j event claimed, Told j event trace ∧ (∃ q a, .served j q a .finished ∈ trace) ∧
    event.status.rejects = true ∧ SentAs claimed event.providerMessageId trace ∧
      claimed.goesTo tenantId address channel

/-- Whether no row of the block-list was created for the address since the thread found it free. -/
def looksFree (i : Nat) (tenantId : Option String) (address channel : String) (current : Bool) :
    Label (receiptSystem config) → Bool
  | .served j (.pipeline (.isSuppressed tenantId' address' channel')) (.ok false) _ =>
    current || decide (j = i ∧ tenantId' = tenantId ∧ address' = address ∧ channel' = channel)
  | .served _ (.createSuppression tenantId' address' channel' _ _) (.ok ()) _ =>
    current && !decide (tenantId' = tenantId ∧ address' = address ∧ channel' = channel)
  | _ => current

def freeSinceLook (i : Nat) (tenantId : Option String) (address channel : String)
    (trace : List (Label (receiptSystem config))) : Bool :=
  trace.foldl (looksFree i tenantId address channel) false

/-- A provider gives an identifier for one address only; a receipt that rejects is looked up once its
message is linked, and applied while it advances it or once the address is blocked for good; a row
of the block-list that is written over has no expiry; and messages are attached to a request of
their type, while nobody was put on the block-list whom the gate had found free. -/
structure Lawful (earlier : List (Label (receiptSystem config))) (Q : Pool (receiptSystem config))
    (l : Label (receiptSystem config)) (_R : Pool (receiptSystem config)) : Prop where
  distinct : ∀ k claimed rendered providerMessageId front other,
    l = .served k (.pipeline (.send claimed rendered)) (.ok providerMessageId) front →
      SentAs other providerMessageId earlier → other.tenantId = claimed.tenantId ∧
        other.address = claimed.address ∧ other.channel = claimed.channel
  linked : ∀ j event answer front,
    l = .served j (.findByProviderMessageId event.providerMessageId) answer front →
      Told j event earlier → event.status.rejects = true →
        ∃ row ∈ Q.store.pipeline.messages.rows, row.providerMessageId = some event.providerMessageId
  advanced : ∀ j providerMessageId reason answer front message,
    l = .served j (.applyDeliveryStatus providerMessageId .bounced reason) answer front →
      ⟨.findByProviderMessageId providerMessageId, .ok (some message)⟩ ∈ calls j earlier →
        (∃ row ∈ Q.store.pipeline.messages.rows, advances providerMessageId .bounced row = true) ∨
          Q.store.Blocked message.tenantId (message.address.getD "") message.channel
  lasting : ∀ j id reason source answer front row,
    l = .served j (.updateSuppression id reason source) answer front →
      Q.store.suppressions.get? id = some row → row.expiresAt = none
  current : ∀ i requestId mode messages answer front tenantId address channel,
    l = .served i (.pipeline (.attachMessages requestId mode messages)) answer front →
      (⟨.isSuppressed tenantId address channel, .ok false⟩ : NotificationCall) ∈ workOf i earlier →
        freeSinceLook i tenantId address channel earlier = true
  typed : ∀ i input requestId mode messages answer front request,
    l = .served i (.pipeline (.attachMessages requestId mode messages)) answer front →
      (entries earlier : List ReceiptEntry)[i]? = some (.pipeline (.send input)) →
        Q.store.pipeline.requests.get? requestId = some request →
          request.notificationType = input.notificationType

/-- From a pool on, what is handed to a provider for an address of which a receipt that rejects was
accepted had been created by then; and of all that is handed over, the fan-out that attached it had
looked, and the consent rows did not opt out of the request's type on that channel. -/
structure Honoured (trace : List (Label (receiptSystem config))) (Q : Pool (receiptSystem config))
    (later : List (Label (receiptSystem config))) (R : Pool (receiptSystem config)) : Prop where
  rejected : ∀ tenantId address channel, Rejected tenantId address channel trace →
    ∀ k claimed rendered answer front,
      .served k (.pipeline (.send claimed rendered)) answer front ∈ later →
        claimed.goesTo tenantId address channel →
          ∃ row, Q.store.pipeline.messages.get? claimed.id = some row
  consented : ∀ k claimed rendered answer front,
    .served k (.pipeline (.send claimed rendered)) answer front ∈ later →
      ∃ request i mode messages attached rows,
        R.store.pipeline.requests.get? claimed.notificationRequestId = some request ∧
          (⟨.attachMessages claimed.notificationRequestId mode messages, attached⟩ :
            NotificationCall) ∈ workOf i later ∧
          (⟨.findForRecipient claimed.tenantId claimed.recipientRef, .ok rows⟩ :
            NotificationCall) ∈ workOf i later ∧
          optsOut rows request.notificationType claimed.channel = false

end Statements

section Known

variable {config : NotificationConfig} {trace : List (Label (receiptSystem config))}
variable {P Q R : Pool (receiptSystem config)} {l : Label (receiptSystem config)}
variable {id : String} {i : Nat} {row row' : NotificationMessage}
variable {ok : Pool (receiptSystem config) → Label (receiptSystem config) → Prop}

/-- What the pipeline's threads ask for, they ask for through the gate; the others ask nothing of it. -/
def GatedEntry : ReceiptEntry → List ReceiptCall → ReceiptStatement → Prop
  | .pipeline entry, history, q => Beside (Gated entry) history q
  | .callback _ _ _, history, q => Beside (fun _ _ => False) history q
  | .prefer _, history, q => Beside (fun _ _ => False) history q

theorem gated_entry (entry : ReceiptEntry) :
    Accounted (GatedEntry entry) (fun _ _ => True) [] (entry.program config) := by
  cases entry with
  | pipeline entry => exact @accounted_beside _ _ (fun _ _ => True) [] _ (gated_program entry)
  | callback channel payload signature =>
    exact @always_callback (fun _ _ => False) config channel payload signature []
  | prefer input => exact @always_upsertPreference (fun _ _ => False) input []

theorem gated_of_step (hrun : Run ok P trace Q) (hP : P.threads = []) {q : NotificationStatement}
    {a : Except String q.Result} {front : Front ReceiptStatement.interface}
    (hstep : Step (receiptSystem config) Q (.served i (.pipeline q) a front) R) :
    ∃ entry, (entries trace : List ReceiptEntry)[i]? = some (.pipeline entry) ∧
      Gated entry (workOf i trace) q := by
  obtain ⟨entry, hentry, hbecause⟩ :=
    @because_of_entry (receiptSystem config) GatedEntry _ _ _ _ _ gated_entry hrun hP _ _ _ _ hstep
  cases entry with
  | pipeline entry => exact ⟨entry, hentry, hbecause⟩
  | callback channel payload signature => exact hbecause.elim
  | prefer input => exact hbecause.elim

/-- A change keeps what a claim tells of a message, and never leaves it suppressed. -/
theorem claimedOf_changed (h : @Changed config id row l row') :
    claimedOf row' = claimedOf row ∧ row'.status ≠ .suppressed := by
  cases h with
  | rewritten i q a front row' rewrites =>
    cases rewrites with
    | claimed hpending => exact ⟨rfl, fun h => by cases h⟩
    | written write => cases write <;> exact ⟨rfl, fun h => by cases h⟩
    | reset count hrendering => exact ⟨rfl, fun h => by cases h⟩
  | received i providerMessageId status reason a front advanced =>
    cases status <;> exact ⟨rfl, fun h => by cases h⟩

theorem claimedOf_of_step (hstep : Step (receiptSystem config) Q l R)
    (hrow : Q.store.pipeline.messages.get? id = some row) :
    ∃ row', R.store.pipeline.messages.get? id = some row' ∧ claimedOf row' = claimedOf row ∧
      (row.status ≠ .suppressed → row'.status ≠ .suppressed) := by
  obtain ⟨row', hrow', rfl | hchanged⟩ := row_of_step hstep hrow
  · exact ⟨row', hrow', rfl, fun h => h⟩
  · obtain ⟨hclaimed, hstatus⟩ := claimedOf_changed hchanged
    exact ⟨row', hrow', hclaimed, fun _ => hstatus⟩

theorem mem_workOf {q : NotificationStatement} {a : Except String q.Result} :
    (⟨q, a⟩ : NotificationCall) ∈ workOf i trace ↔
      ∃ front, .served i (.pipeline q) a front ∈ trace :=
  mem_pipelineCalls.trans mem_calls

theorem mem_workOf_snoc {q : NotificationStatement} {a : Except String q.Result}
    (h : (⟨q, a⟩ : NotificationCall) ∈ workOf i (trace ++ [l])) :
    (⟨q, a⟩ : NotificationCall) ∈ workOf i trace ∨ ∃ front, l = .served i (.pipeline q) a front := by
  obtain ⟨front, hmem⟩ := mem_workOf.mp h
  rcases List.mem_append.mp hmem with hmem | hmem
  · exact .inl (mem_workOf.mpr ⟨front, hmem⟩)
  · exact .inr ⟨front, (List.mem_singleton.mp hmem).symm⟩

theorem SentAs.append {claimed : ClaimedNotificationMessage} {providerMessageId : String}
    (h : SentAs claimed providerMessageId trace) {later : List (Label (receiptSystem config))} :
    SentAs claimed providerMessageId (trace ++ later) := by
  obtain ⟨k, rendered, front, hmem⟩ := h
  exact ⟨k, rendered, front, List.mem_append_left _ hmem⟩

/-- A message that was claimed is as it was claimed, and is not suppressed; one that is linked was
sent under that identifier; one that is suppressed is not linked. -/
structure Known (trace : List (Label (receiptSystem config))) (Q : Pool (receiptSystem config)) :
    Prop where
  claimed : ∀ i id claimed,
    (⟨.claim id, .ok (some claimed)⟩ : NotificationCall) ∈ workOf i trace →
      ∃ row, Q.store.pipeline.messages.get? id = some row ∧ claimed = claimedOf row ∧
        row.status ≠ .suppressed
  linked : ∀ id row providerMessageId, Q.store.pipeline.messages.get? id = some row →
    row.providerMessageId = some providerMessageId → SentAs (claimedOf row) providerMessageId trace
  unlinked : ∀ id row, Q.store.pipeline.messages.get? id = some row → row.status = .suppressed →
    row.providerMessageId = none

theorem claimed_of_step (hknown : Known trace Q) (hstep : Step (receiptSystem config) Q l R)
    {claimed : ClaimedNotificationMessage}
    (h : (⟨.claim id, .ok (some claimed)⟩ : NotificationCall) ∈ workOf i (trace ++ [l])) :
    ∃ row, R.store.pipeline.messages.get? id = some row ∧ claimed = claimedOf row ∧
      row.status ≠ .suppressed := by
  rcases mem_workOf_snoc h with hbefore | ⟨front, rfl⟩
  · obtain ⟨row, hrow, hclaimed, hstatus⟩ := hknown.claimed i id claimed hbefore
    obtain ⟨row', hrow', hsame, hkept⟩ := claimedOf_of_step hstep hrow
    exact ⟨row', hrow', hclaimed.trans hsame.symm, hkept hstatus⟩
  · obtain ⟨choice, hexecute⟩ := hstep.answered
    cases pipeline_of_execute hexecute with
    | served q choice a answered =>
      obtain ⟨row, _, _, hclaimed, hrow⟩ := claim_answered answered
      exact ⟨_, hrow, hclaimed, fun h => by cases h⟩
    | kept q a other same => cases other

/-- What a suppressed message is left by: nothing. -/
theorem suppressed_stays (hrun : Run ok P trace Q) (hP : P.threads = []) (hknown : Known trace Q)
    (hstep : Step (receiptSystem config) Q l R)
    (hrow : Q.store.pipeline.messages.get? id = some row) (hstatus : row.status = .suppressed) :
    R.store.pipeline.messages.get? id = some row := by
  obtain ⟨row', hrow', rfl | hchanged⟩ := row_of_step hstep hrow
  · exact hrow'
  · cases hchanged with
    | rewritten i q a front row' rewrites =>
      cases rewrites with
      | claimed hpending => cases hpending.symm.trans hstatus
      | reset count hrendering => cases hrendering.symm.trans hstatus
      | written write =>
        have hclaimed : HasClaimed id (workOf i trace) := by
          obtain ⟨entry, _, hgated⟩ := gated_of_step hrun hP hstep
          cases write with
          | markSent templateId provider providerMessageId =>
            obtain ⟨claimed, rendered, rfl, ⟨messageId, hmem⟩, _⟩ := hgated
            have hid := claimsOwn_of_run hrun _ hmem
            exact ⟨claimed, (show claimed.id = messageId from hid) ▸ hmem⟩
          | markFailed error => exact hgated
          | claim => exact hgated.elim
          | reset => exact hgated.elim
        obtain ⟨claimed, hmem⟩ := hclaimed
        obtain ⟨row', hrow'', _, hother⟩ := hknown.claimed i id claimed hmem
        cases hrow.symm.trans hrow''
        exact absurd hstatus hother
    | received i providerMessageId status reason a front advanced =>
      have hlinked := of_decide_eq_true (Bool.and_eq_true_iff.mp advanced).1
      cases (hknown.unlinked id row hrow hstatus).symm.trans hlinked

theorem linked_of_step (hrun : Run ok P trace Q) (hP : P.threads = []) (hknown : Known trace Q)
    (hstep : Step (receiptSystem config) Q l R) {providerMessageId : String}
    (hrow' : R.store.pipeline.messages.get? id = some row')
    (hlinked : row'.providerMessageId = some providerMessageId) :
    SentAs (claimedOf row') providerMessageId (trace ++ [l]) := by
  cases hrow : Q.store.pipeline.messages.get? id with
  | none =>
    obtain ⟨_, _, _, _, _, _, _, _, _, hattached⟩ := attached_of_step hstep hrow hrow'
    cases hattached.unlinked.symm.trans hlinked
  | some row =>
    obtain ⟨row'', hrow'', hcases⟩ := row_of_step hstep hrow
    cases hrow'.symm.trans hrow''
    rcases hcases with rfl | hchanged
    · exact (hknown.linked id row' providerMessageId hrow hlinked).append
    · have hsame := (claimedOf_changed hchanged).1
      have hkept : row.providerMessageId = some providerMessageId →
          SentAs (claimedOf row') providerMessageId (trace ++ [l]) := by
        intro hbefore
        rw [hsame]
        exact (hknown.linked id row providerMessageId hrow hbefore).append
      cases hchanged with
      | received i providerMessageId' status reason a front advanced => exact hkept hlinked
      | rewritten i q a front row' rewrites =>
        cases rewrites with
        | claimed hpending => exact hkept hlinked
        | reset count hrendering => exact hkept hlinked
        | written write =>
          cases write with
          | claim => exact hkept hlinked
          | reset => exact hkept hlinked
          | markFailed error => exact hkept hlinked
          | markSent templateId provider providerMessageId' =>
            cases hlinked
            obtain ⟨_, _, claimed, rendered, hid, ⟨messageId, hclaim⟩, hsent⟩ :=
              gated_of_step hrun hP hstep
            have hown : claimed.id = messageId := claimsOwn_of_run hrun _ hclaim
            obtain ⟨row'', hrow'', rfl, _⟩ := hknown.claimed i messageId claimed hclaim
            rw [← hown, hid, hrow] at hrow''
            cases hrow''
            obtain ⟨front', hmem⟩ := mem_workOf.mp hsent
            exact ⟨i, rendered, front', List.mem_append_left _ hmem⟩

theorem known_of_run (hrun : Run ok P trace Q) (hP : P.threads = [])
    (hempty : P.store.pipeline = NotificationDb.empty) : Known trace Q := by
  induction hrun with
  | nil =>
    constructor
    · intro i id claimed hmem
      cases hmem
    · intro id row providerMessageId hrow
      rw [hempty] at hrow
      cases hrow
    · intro id row hrow
      rw [hempty] at hrow
      cases hrow
  | @snoc trace Q R l hrun _ hstep ih =>
    constructor
    · intro i id claimed hmem
      exact claimed_of_step ih hstep hmem
    · intro id row providerMessageId hrow hlinked
      exact linked_of_step hrun hP ih hstep hrow hlinked
    · intro id row' hrow' hstatus
      cases hrow : Q.store.pipeline.messages.get? id with
      | none =>
        obtain ⟨_, _, _, _, _, _, _, _, _, hattached⟩ := attached_of_step hstep hrow hrow'
        exact hattached.unlinked
      | some row =>
        obtain ⟨row'', hrow'', _, hkept⟩ := claimedOf_of_step hstep hrow
        cases hrow'.symm.trans hrow''
        have hbefore : row.status = .suppressed := by
          by_contra hother
          exact hkept hother hstatus
        have hsame := suppressed_stays hrun hP ih hstep hrow hbefore
        cases hrow'.symm.trans hsame
        exact ih.unlinked id row' hrow hstatus

end Known

section Blocking

variable {config : NotificationConfig} {trace later : List (Label (receiptSystem config))}
variable {P Q R : Pool (receiptSystem config)} {l : Label (receiptSystem config)}
variable {tenantId : Option String} {address channel : String} {i : Nat}
variable {ok : Pool (receiptSystem config) → Label (receiptSystem config) → Prop}

theorem blocked_of_step (hstep : Step (receiptSystem config) Q l R)
    (hblocked : Q.store.Blocked tenantId address channel) :
    R.store.Blocked tenantId address channel := by
  cases hstep with
  | start store threads entry => exact hblocked
  | raised here error => exact hblocked
  | served here answered =>
    obtain ⟨choice, hexecute⟩ := answered
    exact (suppressions_of_execute hexecute).blocked hblocked

theorem blocked_of_run (hrun : Run ok P trace Q) (hblocked : P.store.Blocked tenantId address channel) :
    Q.store.Blocked tenantId address channel :=
  hrun.invariant hblocked fun _ _ _ hblocked _ hstep => blocked_of_step hstep hblocked

/-- A row of the block-list is there for good, as far as it matters. -/
theorem standing_of_run {id : String} {row : NotificationSuppression} (hrun : Run ok P trace Q)
    (hrow : P.store.suppressions.get? id = some row) :
    ∃ row', Q.store.suppressions.get? id = some row' ∧ row'.standing = row.standing := by
  induction hrun with
  | nil => exact ⟨row, hrow, rfl⟩
  | snoc _ _ hstep ih =>
    obtain ⟨row', hrow', hstanding⟩ := ih
    cases hstep with
    | start store threads entry => exact ⟨row', hrow', hstanding⟩
    | raised here error => exact ⟨row', hrow', hstanding⟩
    | served here answered =>
      obtain ⟨choice, hexecute⟩ := answered
      obtain ⟨row'', hrow'', hsame⟩ := (suppressions_of_execute hexecute).stands hrow'
      exact ⟨row'', hrow'', hsame.trans hstanding⟩

theorem freeSinceLook_snoc : freeSinceLook i tenantId address channel (trace ++ [l]) =
    looksFree i tenantId address channel (freeSinceLook i tenantId address channel trace) l := by
  simp [freeSinceLook]

/-- An address that the gate finds free is not blocked for good. -/
theorem free_of_look {db db' : ReceiptDb} {choice : ReceiptChoice}
    (h : (ReceiptStatement.pipeline (.isSuppressed tenantId address channel)).execute choice db =
      some (.ok false, db')) : ¬ db.Blocked tenantId address channel := by
  rintro ⟨⟨id, tenantId', address', channel', reason, source, expiresAt⟩, hmem, hstanding⟩
  cases choice with
  | reading now =>
    dsimp only [ReceiptStatement.execute] at h
    split at h
    · obtain ⟨hanswer, _⟩ := Prod.mk.inj (Option.some.inj h)
      have hnone := List.any_eq_false.mp (Except.ok.inj hanswer) _ hmem
      cases hstanding
      simp [blocks] at hnone
    · cases h
  | refused message => cases h
  | _ => cases h

/-- As long as no row was created for an address since it was found free, it is not blocked. -/
theorem free_of_run (hrun : Run ok P trace Q)
    (hfree : freeSinceLook i tenantId address channel trace = true) :
    ¬ Q.store.Blocked tenantId address channel := by
  induction hrun with
  | nil => cases hfree
  | @snoc trace Q R l _ _ hstep ih =>
    rw [freeSinceLook_snoc] at hfree
    intro hblocked
    cases hstep with
    | start store threads entry => exact ih hfree hblocked
    | raised here error => exact ih hfree hblocked
    | @served store store' threads j q next a here answered =>
      obtain ⟨choice, hexecute⟩ := answered
      have hbefore : store.Blocked tenantId address channel →
          freeSinceLook i tenantId address channel trace = false := by
        intro hblocked
        exact Bool.eq_false_iff.mpr fun hfree => ih hfree hblocked
      generalize (next a).front = front at hfree
      rcases (suppressions_of_execute hexecute).blocked_cases hblocked with
        hblocked' | ⟨reason, source, hcall⟩
      · have hnot := hbefore hblocked'
        rw [hnot] at hfree
        unfold looksFree at hfree
        split at hfree
        · rename_i hlabel
          cases hlabel
          obtain ⟨rfl, rfl, rfl, rfl⟩ := of_decide_eq_true ((Bool.false_or _).symm.trans hfree)
          exact free_of_look hexecute hblocked'
        · rw [Bool.false_and] at hfree
          cases hfree
        · cases hfree
      · cases hcall
        simp [looksFree] at hfree

/-- What a caller gave stays in its request's row. -/
theorem request_of_step {requestId : String} {request : NotificationRequest}
    (hstep : Step (receiptSystem config) Q l R)
    (hrequest : Q.store.pipeline.requests.get? requestId = some request) :
    ∃ request', R.store.pipeline.requests.get? requestId = some request' ∧
      request'.toNewNotificationRequest = request.toNewNotificationRequest := by
  cases hstep with
  | start store threads entry => exact ⟨request, hrequest, rfl⟩
  | raised here error => exact ⟨request, hrequest, rfl⟩
  | @served store store' threads i q next a here answered =>
    obtain ⟨choice, hexecute⟩ := answered
    cases pipeline_of_execute hexecute with
    | kept q a other same => exact ⟨request, same ▸ hrequest, rfl⟩
    | served q choice a answered => exact data_of_execute answered hrequest
    | received providerMessageId status reason a written =>
      refine ⟨request, ?_, rfl⟩
      rw [written]
      exact hrequest

/-- The request in hand is there, and its row is the tenant's. -/
theorem tenant_of_run (hrun : Run ok P trace Q) {requestId : String}
    (hgiven : GivenFor tenantId requestId (workOf i trace)) :
    ∃ request, Q.store.pipeline.requests.get? requestId = some request ∧
      request.tenantId = tenantId := by
  induction hrun with
  | nil =>
    obtain ⟨row, _, ⟨_, _, hmem⟩ | ⟨_, hmem⟩⟩ := hgiven
    · cases hmem
    · cases hmem
  | @snoc trace Q R l _ _ hstep ih =>
    have hlater : (∃ request, Q.store.pipeline.requests.get? requestId = some request ∧
        request.tenantId = tenantId) → ∃ request,
          R.store.pipeline.requests.get? requestId = some request ∧
            request.tenantId = tenantId := by
      rintro ⟨request, hrequest, rfl⟩
      obtain ⟨request', hrequest', hsame⟩ := request_of_step hstep hrequest
      exact ⟨request', hrequest', congrArg NewNotificationRequest.tenantId hsame⟩
    obtain ⟨row, rfl, ⟨data, rfl, hmem⟩ | ⟨dedupKey, hmem⟩⟩ := hgiven
    · rcases mem_workOf_snoc hmem with hmem | ⟨front, rfl⟩
      · exact hlater (ih ⟨row, rfl, .inl ⟨data, rfl, hmem⟩⟩)
      · obtain ⟨choice, hexecute⟩ := hstep.answered
        cases pipeline_of_execute hexecute with
        | served q choice a answered => exact ⟨row, create_answered answered⟩
        | kept q a other same => cases other
    · rcases mem_workOf_snoc hmem with hmem | ⟨front, rfl⟩
      · exact hlater (ih ⟨row, rfl, .inr ⟨dedupKey, hmem⟩⟩)
      · obtain ⟨choice, hexecute⟩ := hstep.answered
        cases pipeline_of_execute hexecute with
        | served q choice a answered => exact ⟨row, find_answered answered⟩
        | kept q a other same => cases other

end Blocking

section Acceptance

variable {config : NotificationConfig} {trace : List (Label (receiptSystem config))}
variable {P Q : Pool (receiptSystem config)} {tenantId : Option String} {address channel : String}
variable {j : Nat} {event : DeliveryEvent} {providerMessageId : String}
variable {ok : Pool (receiptSystem config) → Label (receiptSystem config) → Prop}

/-- What a callback that returns has done, by its entry. -/
def Answered : ReceiptEntry → List ReceiptCall → Prop
  | .callback channel payload signature, history => ∀ events rest,
      history = ⟨.parseDeliveryReceipt channel payload signature, .ok events⟩ :: rest →
        ∀ event ∈ events, Applied event history
  | .pipeline _, _ => True
  | .prefer _, _ => True

theorem accounted_answered (entry : ReceiptEntry) :
    Accounted (fun _ _ => True) (fun h _ => Answered entry h) [] (entry.program config) := by
  cases entry with
  | pipeline entry => exact accounted_any
  | callback channel payload signature => exact accounted_callback
  | prefer input => exact accounted_any

theorem applied_of_accepted (hrun : Run ok P trace Q) (hP : P.threads = [])
    (htold : Told j event trace) (hreturned : ∃ q a, .served j q a .finished ∈ trace) :
    Applied event (calls j trace) := by
  obtain ⟨channel, payload, signature, events, rest, hentry, hcalls, hevent⟩ := htold
  obtain ⟨q, a, hmem⟩ := hreturned
  obtain ⟨entry, hentry', hanswered⟩ := @returned_of_run (receiptSystem config) (fun _ _ _ => True)
    _ _ _ _ Answered accounted_answered hrun hP _ _ _ hmem
  cases hentry.symm.trans hentry'
  exact hanswered events rest hcalls event hevent

/-- The callback had been told of a receipt before it looked for the message. -/
theorem told_before {earlier later : List (Label (receiptSystem config))} {q : ReceiptStatement}
    {a : Except String q.Result} {front : Front ReceiptStatement.interface}
    (hrun : Run ok P (earlier ++ .served j q a front :: later) Q) (hP : P.threads = [])
    (htold : Told j event (earlier ++ .served j q a front :: later))
    (hq : ∀ channel payload signature, q ≠ .parseDeliveryReceipt channel payload signature) :
    Told j event earlier := by
  obtain ⟨channel, payload, signature, events, rest, hentry, hcalls, hevent⟩ := htold
  obtain ⟨R, S, hbefore, _, hstep, _⟩ := run_of_append hrun
  obtain ⟨entry, hentry', _⟩ := @because_of_entry (receiptSystem config) (fun _ _ _ => True) _ _ _ _ _
    (fun e => accounted_any) hbefore hP _ _ _ _ hstep
  cases hentry.symm.trans (@entry_later (receiptSystem config) _ _ _ _ hentry')
  refine ⟨channel, payload, signature, events, ?_⟩
  rw [calls_append] at hcalls
  cases hhead : calls j earlier with
  | nil =>
    rw [hhead] at hcalls
    simp only [calls, List.filterMap_cons, Label.call?, if_pos, List.nil_append] at hcalls
    cases hcalls
    exact absurd rfl (hq channel payload signature)
  | cons first more =>
    rw [hhead] at hcalls
    cases hcalls
    exact ⟨more, hentry', rfl, hevent⟩

/-- A message found by a provider's identifier was sent under it. -/
theorem sent_of_found (hrun : Run ok P trace Q) (hP : P.threads = [])
    (hempty : P.store.pipeline = NotificationDb.empty) {message : NotificationMessage}
    (hfound : ⟨.findByProviderMessageId providerMessageId, .ok (some message)⟩ ∈ calls j trace) :
    SentAs (claimedOf message) providerMessageId trace := by
  obtain ⟨front, hmem⟩ := mem_calls.mp hfound
  obtain ⟨earlier, later, rfl⟩ := List.append_of_mem hmem
  obtain ⟨R, S, hbefore, _, hstep, _⟩ := run_of_append hrun
  have hknown := known_of_run hbefore hP hempty
  obtain ⟨choice, hexecute⟩ := hstep.answered
  cases choice with
  | settled =>
    dsimp only [ReceiptStatement.execute] at hexecute
    split at hexecute
    · cases hexecute
    · cases hexecute
  | found id =>
    obtain ⟨row, hrow, heq⟩ := Option.map_eq_some_iff.mp hexecute
    obtain ⟨hanswer, _⟩ := Prod.mk.inj heq
    cases hanswer
    obtain ⟨hget, hlinked⟩ := Option.filter_eq_some_iff.mp hrow
    exact (hknown.linked id message providerMessageId hget (of_decide_eq_true hlinked)).append
  | refused error => cases hexecute
  | _ => cases hexecute

/-- One identifier of a provider, one address. -/
theorem target_of_sent (hrun : TracedRun Lawful P trace Q) {a b : ClaimedNotificationMessage}
    (ha : SentAs a providerMessageId trace) (hb : SentAs b providerMessageId trace) :
    a.tenantId = b.tenantId ∧ a.address = b.address ∧ a.channel = b.channel := by
  induction hrun with
  | nil =>
    obtain ⟨_, _, _, hmem⟩ := ha
    cases hmem
  | @snoc trace Q R l _ hok _ ih =>
    have hcases : ∀ {claimed}, SentAs claimed providerMessageId (trace ++ [l]) →
        SentAs claimed providerMessageId trace ∨ ∃ k rendered front,
          l = .served k (.pipeline (.send claimed rendered)) (.ok providerMessageId) front := by
      rintro claimed ⟨k, rendered, front, hmem⟩
      rcases List.mem_append.mp hmem with hmem | hmem
      · exact .inl ⟨k, rendered, front, hmem⟩
      · exact .inr ⟨k, rendered, front, (List.mem_singleton.mp hmem).symm⟩
    rcases hcases ha with ha | ⟨k, rendered, front, hl⟩
    · rcases hcases hb with hb | ⟨k', rendered', front', hl'⟩
      · exact ih ha hb
      · exact hok.distinct k' b rendered' providerMessageId front' a hl' ha
    · rcases hcases hb with hb | ⟨k', rendered', front', hl'⟩
      · obtain ⟨htenant, haddress, hchannel⟩ :=
          hok.distinct k a rendered providerMessageId front b hl hb
        exact ⟨htenant.symm, haddress.symm, hchannel.symm⟩
      · cases hl.symm.trans hl'
        exact ⟨rfl, rfl, rfl⟩

/-- What is handed over has an address. -/
theorem address_of_sent (hrun : Run ok P trace Q) (hP : P.threads = []) {k : Nat}
    {claimed : ClaimedNotificationMessage} {rendered : RenderedMessage}
    {answer : Except String String} {front : Front ReceiptStatement.interface}
    (hmem : .served k (.pipeline (.send claimed rendered)) answer front ∈ trace) :
    claimed.address.getD "" ≠ "" := by
  obtain ⟨earlier, later, rfl⟩ := List.append_of_mem hmem
  obtain ⟨R, S, hbefore, _, hstep, _⟩ := run_of_append hrun
  obtain ⟨_, _, _, haddress⟩ := gated_of_step hbefore hP hstep
  exact haddress

/-- An address that was recorded is blocked for good. -/
theorem blocked_of_recorded (hrun : TracedRun Lawful P trace Q)
    (hrecorded : Recorded tenantId address channel (calls j trace)) :
    Q.store.Blocked tenantId address channel := by
  rcases hrecorded with ⟨row, reason, source, hfound, hupdated⟩ | ⟨reason, source, hcreated⟩
  · have hnamed : ∃ row', Q.store.suppressions.get? row.id = some row' ∧
        row'.standing = (tenantId, address, channel, row.expiresAt) := by
      obtain ⟨front, hmem⟩ := mem_calls.mp hfound
      obtain ⟨earlier, later, rfl⟩ := List.append_of_mem hmem
      obtain ⟨R, S, _, _, hstep, hlater⟩ := hrun.split
      obtain ⟨choice, hexecute⟩ := hstep.answered
      obtain ⟨hget, hstanding⟩ := suppression_found hexecute
      obtain ⟨row', hrow', hsame⟩ := standing_of_run hlater hget
      exact ⟨row', hrow', hsame.trans hstanding⟩
    obtain ⟨row', hrow', hstanding⟩ := hnamed
    have hlasting : row'.expiresAt = none := by
      obtain ⟨front, hmem⟩ := mem_calls.mp hupdated
      obtain ⟨earlier, later, rfl⟩ := List.append_of_mem hmem
      obtain ⟨R, S, _, hok, hstep, hlater⟩ := hrun.split
      obtain ⟨choice, hexecute⟩ := hstep.answered
      obtain ⟨before, hbefore⟩ := suppression_updated hexecute
      have hnone := hok.lasting j row.id reason source _ front before rfl hbefore
      obtain ⟨after, hafter, hsame⟩ := (suppressions_of_execute hexecute).stands hbefore
      obtain ⟨last, hlast, hsame'⟩ := standing_of_run hlater hafter
      cases hrow'.symm.trans hlast
      have hexpiry := congrArg (fun standing => standing.2.2.2) (hsame'.trans hsame)
      exact hexpiry.trans hnone
    refine ⟨row', Table.mem_of_get? hrow', ?_⟩
    have hexpiry : row'.expiresAt = row.expiresAt :=
      congrArg (fun standing => standing.2.2.2) hstanding
    rw [hstanding, ← hexpiry, hlasting]
  · obtain ⟨front, hmem⟩ := mem_calls.mp hcreated
    obtain ⟨earlier, later, rfl⟩ := List.append_of_mem hmem
    obtain ⟨R, S, _, _, hstep, hlater⟩ := hrun.split
    obtain ⟨choice, hexecute⟩ := hstep.answered
    exact blocked_of_run hlater (suppression_created hexecute)

/-- Where a receipt that rejects was accepted, its address is blocked for good. -/
theorem blocked_of_rejected (hrun : TracedRun Lawful P trace Q) (hP : P.threads = [])
    (hempty : P.store.pipeline = NotificationDb.empty)
    (hrejected : Rejected tenantId address channel trace) :
    Q.store.Blocked tenantId address channel := by
  obtain ⟨j, event, claimed, htold, hreturned, hrejects, hsent, rfl, haddress, rfl⟩ := hrejected
  have hnonempty : address ≠ "" := by
    obtain ⟨k, rendered, front, hmem⟩ := hsent
    have hknown := address_of_sent hrun.run hP hmem
    rw [haddress] at hknown
    exact hknown
  rcases applied_of_accepted hrun.run hP htold hreturned with
    hnone | ⟨before, after, message, updated, hcalls, hfound, hrecorded⟩
  · obtain ⟨front, hmem⟩ := mem_calls.mp hnone
    obtain ⟨earlier, later, rfl⟩ := List.append_of_mem hmem
    obtain ⟨R, S, hbefore, hok, hstep, _⟩ := hrun.split
    have htold' := told_before hrun.run hP htold fun _ _ _ h => by cases h
    obtain ⟨row, hrow, hlinked⟩ := hok.linked j event _ front rfl htold' hrejects
    obtain ⟨choice, hexecute⟩ := hstep.answered
    exact absurd hlinked (lookup_missed hexecute row hrow)
  · obtain ⟨earlier, later, front, rfl, hearlier, _⟩ := calls_split hcalls
    obtain ⟨R, S, hbefore, hok, hstep, hlater⟩ := hrun.split
    rw [← hearlier] at hfound
    obtain ⟨htenant, haddress', hchannel⟩ :=
      target_of_sent hrun (sent_of_found hbefore.run hP hempty hfound).append hsent
    have hbounced := @mapDeliveryEvent_bounced event.status message.channel hrejects
    have hknown : message.address.getD "" = address := by
      rw [show message.address = claimed.address from haddress', haddress]
      rfl
    rw [← show message.tenantId = claimed.tenantId from htenant, ← hknown,
      ← show message.channel = claimed.channel from hchannel]
    rcases hok.advanced j event.providerMessageId event.reason _ front message
      (by rw [hbounced]) hfound with hadvances | hblocked
    · obtain ⟨choice, hexecute⟩ := hstep.answered
      rw [← hbounced] at hadvances
      refine blocked_of_recorded hrun (hrecorded hrejects (receipt_applied hexecute hadvances) ?_)
      rw [hknown]
      exact hnonempty
    · exact blocked_of_run hlater (blocked_of_step hstep hblocked)

end Acceptance

section Honour

variable {config : NotificationConfig} {trace later : List (Label (receiptSystem config))}
variable {P Q R : Pool (receiptSystem config)} {l : Label (receiptSystem config)}
variable {tenantId : Option String} {address channel id : String} {row : NotificationMessage}

/-- What let a message through: the fan-out that attaches it, the type of its request, the rows the
gate was given, and an address that is not blocked. -/
structure Passed (trace : List (Label (receiptSystem config))) (Q : Pool (receiptSystem config))
    (l : Label (receiptSystem config)) (row : NotificationMessage) : Prop where
  attached : ∃ i mode messages answer front request rows,
    l = .served i (.pipeline (.attachMessages row.notificationRequestId mode messages)) answer front ∧
      Q.store.pipeline.requests.get? row.notificationRequestId = some request ∧
      (⟨.findForRecipient row.tenantId row.recipientRef, .ok rows⟩ : NotificationCall) ∈
        workOf i trace ∧ optsOut rows request.notificationType row.channel = false
  unblocked : ∀ address, row.address = some address → address ≠ "" →
    ¬ Q.store.Blocked row.tenantId address row.channel

/-- A message that is new is suppressed, or was let through. -/
theorem passed_of_step (hrun : TracedRun Lawful P trace Q) (hP : P.threads = [])
    (hok : Lawful trace Q l R) (hstep : Step (receiptSystem config) Q l R)
    (hfree : Q.store.pipeline.messages.get? id = none)
    (hrow : R.store.pipeline.messages.get? id = some row) :
    row.status = .suppressed ∨ Passed trace Q l row := by
  obtain ⟨i, requestId, mode, messages, answer, front, request, rfl, hrequest, hattached⟩ :=
    attached_of_step hstep hfree hrow
  obtain ⟨entry, hentry, input, rfl, hgiven, hmessages⟩ := gated_of_step hrun.run hP hstep
  obtain ⟨request', hrequest', htenant⟩ := tenant_of_run hrun.run hgiven
  cases hrequest.symm.trans hrequest'
  have htype := hok.typed i input requestId mode messages answer front request rfl hentry hrequest
  rcases hmessages _ hattached.data with hsuppressed | ⟨_, hcleared⟩
  · exact .inl hsuppressed
  · refine .inr ⟨?_, ?_⟩
    · obtain ⟨rows, hrows, hopts⟩ := hcleared.consented
      refine ⟨i, mode, messages, answer, front, request, rows, ?_, ?_, ?_, ?_⟩
      · rw [hattached.request]
      · rw [hattached.request]
        exact hrequest
      · rw [hattached.tenant, htenant]
        exact hrows
      · rw [htype]
        exact hopts
    · intro address haddress hnonempty
      have hlooked := hcleared.unblocked address haddress hnonempty
      rw [hattached.tenant, htenant]
      exact free_of_run hrun.run
        (hok.current i requestId mode messages answer front _ address _ rfl hlooked)

/-- From where an address is blocked for good, the messages attached for it are suppressed. -/
theorem suppressed_since (hrun : TracedRun Lawful P trace Q) (hP : P.threads = [])
    (hempty : P.store.pipeline = NotificationDb.empty)
    (hblocked : Q.store.Blocked tenantId address channel) (hnonempty : address ≠ "")
    (hlater : Continued Lawful trace Q later R) :
    R.store.Blocked tenantId address channel ∧ ∀ id row,
      Q.store.pipeline.messages.get? id = none → R.store.pipeline.messages.get? id = some row →
        row.tenantId = tenantId → row.address = some address → row.channel = channel →
          row.status = .suppressed := by
  induction hlater with
  | nil =>
    refine ⟨hblocked, fun id row hfree hrow => ?_⟩
    cases hfree.symm.trans hrow
  | @snoc later R S l hbefore hok hstep ih =>
    obtain ⟨hblocked', hsuppressed⟩ := ih
    have hrun' := hbefore.run hrun
    refine ⟨blocked_of_step hstep hblocked', fun id row' hfree hrow' htenant haddress hchannel => ?_⟩
    cases hrow : R.store.pipeline.messages.get? id with
    | none =>
      rcases passed_of_step hrun' hP hok hstep hrow hrow' with hstatus | hpassed
      · exact hstatus
      · refine absurd ?_ (hpassed.unblocked address haddress hnonempty)
        rw [htenant, hchannel]
        exact hblocked'
    | some row =>
      obtain ⟨row'', hrow'', hsame, _⟩ := claimedOf_of_step hstep hrow
      cases hrow'.symm.trans hrow''
      have hstatus := hsuppressed id row hfree hrow
        ((congrArg ClaimedNotificationMessage.tenantId hsame).symm.trans htenant)
        ((congrArg ClaimedNotificationMessage.address hsame).symm.trans haddress)
        ((congrArg ClaimedNotificationMessage.channel hsame).symm.trans hchannel)
      have hknown := known_of_run hrun'.run hP hempty
      cases hrow'.symm.trans (suppressed_stays hrun'.run hP hknown hstep hrow hstatus)
      exact hstatus

theorem mem_workOf_append {i : Nat} {q : NotificationStatement} {a : Except String q.Result}
    (h : (⟨q, a⟩ : NotificationCall) ∈ workOf i trace) :
    (⟨q, a⟩ : NotificationCall) ∈ workOf i (trace ++ later) := by
  obtain ⟨front, hmem⟩ := mem_workOf.mp h
  exact mem_workOf.mpr ⟨front, List.mem_append_left _ hmem⟩

/-- Every message that is not suppressed was let through by its fan-out. -/
theorem consented_of_run (hrun : TracedRun Lawful P trace Q) (hP : P.threads = [])
    (hempty : P.store.pipeline = NotificationDb.empty) {id : String} {row : NotificationMessage}
    (hrow : Q.store.pipeline.messages.get? id = some row) (hstatus : row.status ≠ .suppressed) :
    ∃ request i mode messages attached rows,
      Q.store.pipeline.requests.get? row.notificationRequestId = some request ∧
        (⟨.attachMessages row.notificationRequestId mode messages, attached⟩ : NotificationCall) ∈
          workOf i trace ∧
        (⟨.findForRecipient row.tenantId row.recipientRef, .ok rows⟩ : NotificationCall) ∈
          workOf i trace ∧ optsOut rows request.notificationType row.channel = false := by
  induction hrun generalizing row with
  | nil =>
    rw [hempty] at hrow
    cases hrow
  | @snoc trace Q R l hrun hok hstep ih =>
    cases hbefore : Q.store.pipeline.messages.get? id with
    | none =>
      obtain ⟨i, mode, messages, answer, front, request, rows, rfl, hrequest, hrows, hopts⟩ :=
        ((passed_of_step hrun hP hok hstep hbefore hrow).resolve_left hstatus).attached
      obtain ⟨request', hrequest', hsame⟩ := request_of_step hstep hrequest
      refine ⟨request', i, mode, messages, answer, rows, hrequest', ?_, mem_workOf_append hrows, ?_⟩
      · exact mem_workOf.mpr ⟨front, List.mem_append_right _ (List.mem_singleton_self _)⟩
      · rw [show request'.notificationType = request.notificationType from
          congrArg NewNotificationRequest.notificationType hsame]
        exact hopts
    | some before =>
      have hstatus' : before.status ≠ .suppressed := by
        intro hsuppressed
        have hknown := known_of_run hrun.run hP hempty
        cases hrow.symm.trans (suppressed_stays hrun.run hP hknown hstep hbefore hsuppressed)
        exact hstatus hsuppressed
      obtain ⟨request, i, mode, messages, attached, rows, hrequest, hattached, hrows, hopts⟩ :=
        ih hbefore hstatus'
      obtain ⟨row', hrow', hkept, _⟩ := claimedOf_of_step hstep hbefore
      cases hrow.symm.trans hrow'
      obtain ⟨request', hrequest', hsame⟩ := request_of_step hstep hrequest
      have hof : row.notificationRequestId = before.notificationRequestId :=
        congrArg ClaimedNotificationMessage.notificationRequestId hkept
      have htenant : row.tenantId = before.tenantId :=
        congrArg ClaimedNotificationMessage.tenantId hkept
      have hrecipient : row.recipientRef = before.recipientRef :=
        congrArg ClaimedNotificationMessage.recipientRef hkept
      have hchannel : row.channel = before.channel :=
        congrArg ClaimedNotificationMessage.channel hkept
      have htype : request'.notificationType = request.notificationType :=
        congrArg NewNotificationRequest.notificationType hsame
      rw [hof, htenant, hrecipient, hchannel]
      refine ⟨request', i, mode, messages, attached, rows, hrequest', mem_workOf_append hattached,
        mem_workOf_append hrows, ?_⟩
      rw [htype]
      exact hopts

/-- What is handed over is a message that is not suppressed. -/
theorem row_of_sent (hrun : Run (fun _ _ => True) P trace Q) (hP : P.threads = [])
    (hempty : P.store.pipeline = NotificationDb.empty) {k : Nat}
    {claimed : ClaimedNotificationMessage} {rendered : RenderedMessage}
    {answer : Except String String} {front : Front ReceiptStatement.interface}
    (hmem : .served k (.pipeline (.send claimed rendered)) answer front ∈ trace) :
    ∃ row, Q.store.pipeline.messages.get? claimed.id = some row ∧ claimed = claimedOf row ∧
      row.status ≠ .suppressed := by
  obtain ⟨earlier, rest, rfl⟩ := List.append_of_mem hmem
  obtain ⟨R, S, hbefore, _, hstep, _⟩ := run_of_append hrun
  obtain ⟨_, _, ⟨messageId, hclaim⟩, _⟩ := gated_of_step hbefore hP hstep
  obtain ⟨row, hrow, hclaimed, hstatus⟩ :=
    (known_of_run hrun hP hempty).claimed k messageId claimed (mem_workOf_append hclaim)
  refine ⟨row, ?_, hclaimed, hstatus⟩
  rw [hclaimed, show (claimedOf row).id = messageId from (Table.key_of_get? hrow : row.id = messageId)]
  exact hrow

/-- The gate is given the recipient's rows as they are then. -/
theorem preferences_of_step {i : Nat} {recipientRef : String} {rows : List NotificationPreference}
    {front : Front ReceiptStatement.interface}
    (hstep : Step (receiptSystem config) Q
      (.served i (.pipeline (.findForRecipient tenantId recipientRef)) (.ok rows) front) R) :
    rows = (Q.store.preferences.rows.filter fun row =>
      row.tenantId = tenantId && row.recipientRef = recipientRef).map
        NotificationPreferenceRow.toNotificationPreference := by
  obtain ⟨choice, hexecute⟩ := hstep.answered
  cases choice with
  | settled =>
    obtain ⟨hanswer, _⟩ := Prod.mk.inj (Option.some.inj hexecute)
    exact (Except.ok.inj hanswer).symm
  | refused message => cases hexecute
  | _ => cases hexecute

/-- In a lawful run receipts that reject are honoured, and so are the consent rows, which are read as
they are at the fan-out. -/
theorem honoured_of_lawful (suppressions : Table NotificationSuppression.id)
    (preferences : Table NotificationPreferenceRow.id) (now : Nat) :
    (∀ {trace later : List (Label (receiptSystem config))} {Q R : Pool (receiptSystem config)},
      TracedRun Lawful ⟨⟨.empty, suppressions, preferences, now⟩, []⟩ trace Q →
        Continued Lawful trace Q later R → Honoured trace Q later R) ∧
    ∀ {Q R : Pool (receiptSystem config)} {i : Nat} {tenantId : Option String}
      {recipientRef : String} {rows : List NotificationPreference}
      {front : Front ReceiptStatement.interface},
      Step (receiptSystem config) Q
        (.served i (.pipeline (.findForRecipient tenantId recipientRef)) (.ok rows) front) R →
        rows = (Q.store.preferences.rows.filter fun row =>
          row.tenantId = tenantId && row.recipientRef = recipientRef).map
            NotificationPreferenceRow.toNotificationPreference := by
  refine ⟨fun hrun hlater => ⟨?_, ?_⟩, preferences_of_step⟩
  · rintro tenantId address channel hrejected k claimed rendered answer front hmem ⟨htenant, haddress, hchannel⟩
    have hnonempty : address ≠ "" := by
      have hknown := address_of_sent (hlater.run hrun).run rfl hmem
      rw [haddress] at hknown
      exact hknown
    obtain ⟨row, hrow, hclaimed, hstatus⟩ := row_of_sent (hlater.run hrun).run rfl rfl hmem
    have hblocked := blocked_of_rejected hrun rfl rfl hrejected
    obtain ⟨_, hsuppressed⟩ := suppressed_since hrun rfl rfl hblocked hnonempty hlater
    rw [hclaimed] at htenant haddress hchannel
    refine Option.ne_none_iff_exists'.mp fun hfree => ?_
    exact hstatus (hsuppressed claimed.id row hfree hrow htenant haddress hchannel)
  · intro k claimed rendered answer front hmem
    obtain ⟨row, hrow, rfl, hstatus⟩ := row_of_sent (hlater.run hrun).run rfl rfl hmem
    exact consented_of_run (hlater.run hrun) rfl rfl hrow hstatus

end Honour

section Example

variable {config : NotificationConfig} {trace : List (Label (receiptSystem config))}
variable {P Q : Pool (receiptSystem config)} {j : Nat} {event : DeliveryEvent}

/-- The receipts a callback was told of. -/
def receiptsOf (j : Nat) (trace : List (Label (receiptSystem config))) : List DeliveryEvent :=
  match (entries trace : List ReceiptEntry)[j]?, calls j trace with
  | some (.callback channel payload signature),
      ⟨.parseDeliveryReceipt channel' payload' signature', .ok events⟩ :: _ =>
    if channel' = channel ∧ payload' = payload ∧ signature' = signature then events else []
  | _, _ => []

theorem told_of_receipts (h : event ∈ receiptsOf j trace) : Told j event trace := by
  unfold receiptsOf at h
  split at h
  · rename_i channel payload signature channel' payload' signature' events rest hentry hcalls
    split at h
    · rename_i hsame
      obtain ⟨rfl, rfl, rfl⟩ := hsame
      exact ⟨_, _, _, events, rest, hentry, hcalls, h⟩
    · cases h
  · cases h

/-- The callback returned. -/
def returns (j : Nat) : Label (receiptSystem config) → Bool
  | .served i _ _ .finished => decide (i = j)
  | _ => false

/-- The message is handed over, under this identifier where one is asked for. -/
def handsOverAs (claimed : ClaimedNotificationMessage) (providerMessageId : Option String) :
    Label (receiptSystem config) → Bool
  | .served _ (.pipeline (.send claimed' _)) (.ok providerMessageId') _ =>
    decide (claimed' = claimed) && providerMessageId.all fun id => id = providerMessageId'
  | _ => false

theorem handed_of_label {claimed : ClaimedNotificationMessage} {providerMessageId : Option String}
    (h : ∃ l ∈ trace, handsOverAs claimed providerMessageId l = true) :
    ∃ k rendered id front, .served k (.pipeline (.send claimed rendered)) (.ok id) front ∈ trace ∧
      ∀ id', providerMessageId = some id' → id' = id := by
  obtain ⟨l, hmem, hl⟩ := h
  unfold handsOverAs at hl
  split at hl
  · rename_i k claimed' rendered id front
    obtain ⟨hclaimed, hid⟩ := Bool.and_eq_true_iff.mp hl
    rw [of_decide_eq_true hclaimed] at hmem
    refine ⟨k, rendered, id, front, hmem, ?_⟩
    rintro id' rfl
    exact of_decide_eq_true hid
  · cases hl

theorem rejected_of_labels {claimed : ClaimedNotificationMessage} {address : String}
    (htold : event ∈ receiptsOf j trace) (hreturned : ∃ l ∈ trace, returns j l = true)
    (hrejects : event.status.rejects = true)
    (hsent : ∃ l ∈ trace, handsOverAs claimed (some event.providerMessageId) l = true)
    (haddress : claimed.address = some address) :
    Rejected claimed.tenantId address claimed.channel trace := by
  obtain ⟨l, hmem, hl⟩ := hreturned
  obtain ⟨k, rendered, id, front, hserved, hid⟩ := handed_of_label hsent
  refine ⟨j, event, claimed, told_of_receipts htold, ?_, hrejects, ⟨k, rendered, front, ?_⟩, rfl,
    haddress, rfl⟩
  · unfold returns at hl
    split at hl
    · rename_i i q a
      rw [of_decide_eq_true hl] at hmem
      exact ⟨q, a, hmem⟩
    · cases hl
  · rw [hid _ rfl]
    exact hserved

/-- The message of a call to the one recipient. -/
def mailTo (id requestId : String) : ClaimedNotificationMessage :=
  ⟨id, requestId, some "t", "u", "EMAIL", some "u@x", none⟩

/-- A worker with the chunk at this place of the queue, to what the provider answers. -/
def handsOverAt (index : Nat) (providerMessageId : String) : List ReceiptChoice :=
  .pipeline (.taken index true) :: (handsOver providerMessageId).tail

/-- A message is delivered, and then its recipient unsubscribes; the receipt is accepted, but a
message that is created afterwards for the same address is handed over. -/
theorem unsubscribed_then_sent :
    ¬ ∀ {trace later : List MailLabel} {Q R : MailPool},
      TracedRun (fun _ _ _ _ => True) quiet trace Q →
        Continued (fun _ _ _ _ => True) trace Q later R → Honoured trace Q later R := by
  have hplay : ((quiet.record (fun _ _ => True)
      ([sends "k1"] ++ serves 0 (fansOut "r1" "m1") ++ [works] ++
        serves 1 (handsOver "p1" ++ [ReceiptChoice.pipeline .settled]) ++
          [calledBack] ++ serves 2 (callsBack "p1" "m1" .delivered) ++
            [calledBack] ++
              serves 3 (callsBack "p1" "m1" .unsubscribed))).bind fun r =>
          (r.2.record (fun _ _ => True) ([sends "k2"] ++ serves 4 (fansOut "r2" "m2") ++ [works] ++
            serves 5 (handsOverAt 1 "p2"))).map fun s =>
              decide (⟨"p1", .unsubscribed, none⟩ ∈ receiptsOf 3 r.1 ∧
                (∃ l ∈ r.1, returns 3 l = true) ∧
                  (∃ l ∈ r.1, handsOverAs (mailTo "m1" "r1") (some "p1") l = true) ∧
                    statusOf r.2 "m2" = none ∧
                      ∃ l ∈ s.1, handsOverAs (mailTo "m2" "r2") none l = true)) = some true := by
    decide
  obtain ⟨Q, R, trace, later, hrun, hlater, htold, hreturned, hsent, hfree, hhanded⟩ :
      ∃ (Q R : MailPool) (trace later : List MailLabel), Run (fun _ _ => True) quiet trace Q ∧
        Run (fun _ _ => True) Q later R ∧ ⟨"p1", .unsubscribed, none⟩ ∈ receiptsOf 3 trace ∧
          (∃ l ∈ trace, returns 3 l = true) ∧
            (∃ l ∈ trace, handsOverAs (mailTo "m1" "r1") (some "p1") l = true) ∧
              statusOf Q "m2" = none ∧ ∃ l ∈ later, handsOverAs (mailTo "m2" "r2") none l = true :=
    Pool.record_reaches hplay
  intro hhonoured
  have hrejected := rejected_of_labels htold hreturned rfl hsent rfl
  obtain ⟨k, rendered, id, front, hmem, _⟩ := handed_of_label hhanded
  obtain ⟨row, hrow⟩ := (hhonoured (hrun.traced fun _ _ _ _ _ _ => trivial)
    (hlater.continued fun _ _ _ _ _ _ => trivial)).rejected _ _ _ hrejected k _ rendered _ front
      (List.mem_append_right _ hmem) ⟨rfl, rfl, rfl⟩
  rw [statusOf, Option.map_eq_none_iff] at hfree
  cases hfree.symm.trans hrow

/-- Calls of one type to one address, receipts of messages that are linked and not settled yet, and
no row of the block-list written over. -/
def plainAt (Q : Pool (receiptSystem config)) : Label (receiptSystem config) → Bool
  | .start (.pipeline (.send input)) => input.notificationType = "InvoiceOverdue"
  | .served _ (.pipeline (.send claimed _)) _ _ =>
    decide (claimed.tenantId = some "t" ∧ claimed.address = some "u@x" ∧ claimed.channel = "EMAIL")
  | .served _ (.findByProviderMessageId id) _ _ =>
    Q.store.pipeline.messages.rows.any fun row => row.providerMessageId = some id
  | .served _ (.applyDeliveryStatus id .bounced _) _ _ =>
    Q.store.pipeline.messages.rows.any (advances id .bounced)
  | .served _ (.updateSuppression _ _ _) _ _ => false
  | .served _ (.pipeline (.attachMessages requestId _ _)) _ _ =>
    (Q.store.pipeline.requests.get? requestId).all (·.notificationType = "InvoiceOverdue")
  | _ => true

/-- Nobody was put on the block-list whom the gate had found free. -/
def freshAt (earlier : List (Label (receiptSystem config))) : Label (receiptSystem config) → Bool
  | .served i (.pipeline (.attachMessages _ _ _)) _ _ => (workOf i earlier).all fun
    | ⟨.isSuppressed tenantId address channel, .ok false⟩ =>
      freeSinceLook i tenantId address channel earlier
    | _ => true
  | _ => true

def freshAlong : List (Label (receiptSystem config)) → List (Label (receiptSystem config)) → Bool
  | _, [] => true
  | earlier, l :: rest => freshAt earlier l && freshAlong (earlier ++ [l]) rest

theorem freshAlong_append {earlier rest more : List (Label (receiptSystem config))} :
    freshAlong earlier (rest ++ more) =
      (freshAlong earlier rest && freshAlong (earlier ++ rest) more) := by
  induction rest generalizing earlier with
  | nil => simp [freshAlong]
  | cons l rest ih =>
    rw [List.cons_append, freshAlong, freshAlong, ih, Bool.and_assoc, List.append_assoc,
      List.singleton_append]

theorem lawful_of_plain {R : Pool (receiptSystem config)} {l : Label (receiptSystem config)}
    (hrun : Run (fun Q l => plainAt Q l = true) P trace Q) (hplain : plainAt Q l = true)
    (hfresh : freshAt trace l = true) : Lawful trace Q l R where
  distinct := by
    rintro k claimed rendered id front other rfl ⟨k', rendered', front', hmem⟩
    have hsame : ∀ l ∈ trace, ∃ Q, plainAt Q l = true :=
      hrun.forall_mem fun Q _ h => ⟨Q, h⟩
    obtain ⟨_, hother⟩ := hsame _ hmem
    obtain ⟨htenant, haddress, hchannel⟩ := of_decide_eq_true hplain
    obtain ⟨htenant', haddress', hchannel'⟩ := of_decide_eq_true hother
    exact ⟨htenant'.trans htenant.symm, haddress'.trans haddress.symm, hchannel'.trans hchannel.symm⟩
  linked := by
    rintro j event answer front rfl _ _
    obtain ⟨row, hmem, hlinked⟩ := List.any_eq_true.mp hplain
    exact ⟨row, hmem, of_decide_eq_true hlinked⟩
  advanced := by
    rintro j id reason answer front message rfl _
    exact .inl (List.any_eq_true.mp hplain)
  lasting := by
    rintro j id reason source answer front row rfl _
    cases hplain
  current := by
    rintro i requestId mode messages answer front tenantId address channel rfl hmem
    exact List.all_eq_true.mp hfresh _ hmem
  typed := by
    rintro i input requestId mode messages answer front request rfl hentry hrequest
    have hinput : ∀ e ∈ (entries trace : List ReceiptEntry), ∀ input,
        e = .pipeline (.send input) → input.notificationType = "InvoiceOverdue" := by
      refine @entries_of_run (receiptSystem config) _ _ _ _ (fun e => ∀ input,
        e = .pipeline (.send input) → input.notificationType = "InvoiceOverdue") hrun ?_
      rintro Q e h input rfl
      exact of_decide_eq_true h
    have htype := hinput _ (List.mem_of_getElem? hentry) input rfl
    have hplain' : (Q.store.pipeline.requests.get? requestId).all
        (·.notificationType = "InvoiceOverdue") = true := hplain
    rw [hrequest] at hplain'
    exact (of_decide_eq_true hplain').trans htype.symm

theorem lawfulRun_of_plain (hrun : Run (fun Q l => plainAt Q l = true) P trace Q)
    (hfresh : freshAlong [] trace = true) : TracedRun Lawful P trace Q := by
  induction hrun with
  | nil => exact .nil
  | @snoc trace Q R l hrun hok hstep ih =>
    rw [freshAlong_append, List.nil_append] at hfresh
    obtain ⟨hbefore, hlast⟩ := Bool.and_eq_true_iff.mp hfresh
    exact (ih hbefore).snoc (lawful_of_plain hrun hok (Bool.and_eq_true_iff.mp hlast).1) hstep

theorem lawful_later_of_plain {later : List (Label (receiptSystem config))}
    {R : Pool (receiptSystem config)} (hrun : Run (fun Q l => plainAt Q l = true) P trace Q)
    (hlater : Run (fun Q l => plainAt Q l = true) Q later R)
    (hfresh : freshAlong [] (trace ++ later) = true) :
    Continued Lawful trace Q (trace ++ later) R := by
  induction hlater with
  | nil =>
    rw [List.append_nil]
    exact .nil
  | @snoc later R S l hlater hok hstep ih =>
    rw [← List.append_assoc, freshAlong_append, List.nil_append] at hfresh
    obtain ⟨hbefore, hlast⟩ := Bool.and_eq_true_iff.mp hfresh
    rw [← List.append_assoc]
    exact (ih hbefore).snoc
      (lawful_of_plain (hrun.append hlater) hok (Bool.and_eq_true_iff.mp hlast).1) hstep

/-- A message bounces, and the next one for the address is suppressed. -/
theorem bounced_then_suppressed :
    ∃ (trace later : List MailLabel) (Q R : MailPool), TracedRun Lawful quiet trace Q ∧
      Rejected (some "t") "u@x" "EMAIL" trace ∧ Continued Lawful trace Q later R ∧
        statusOf Q "m2" = none ∧ statusOf R "m2" = some .suppressed ∧ Honoured trace Q later R := by
  have hplay : ((quiet.record (fun Q l => plainAt Q l = true)
      ([sends "k1"] ++ serves 0 (fansOut "r1" "m1") ++ [works] ++
        serves 1 (handsOver "p1" ++ [ReceiptChoice.pipeline .settled]) ++
          [calledBack] ++
            serves 2 (callsBack "p1" "m1" .bounced ++
              [ReceiptChoice.settled, .created "s1"]))).bind fun r =>
          (r.2.record (fun Q l => plainAt Q l = true)
            ([sends "k2"] ++ serves 3 (fansOut "r2" "m2"))).map fun s =>
              decide (⟨"p1", .bounced, none⟩ ∈ receiptsOf 2 r.1 ∧ (∃ l ∈ r.1, returns 2 l = true) ∧
                (∃ l ∈ r.1, handsOverAs (mailTo "m1" "r1") (some "p1") l = true) ∧
                  freshAlong [] r.1 = true ∧ freshAlong [] (r.1 ++ s.1) = true ∧
                    statusOf r.2 "m2" = none ∧ statusOf s.2 "m2" = some .suppressed)) =
      some true := by
    decide
  obtain ⟨Q, R, trace, later, hrun, hlater, htold, hreturned, hsent, hfresh, hfresh', hnew, hstatus⟩ :
      ∃ (Q R : MailPool) (trace later : List MailLabel),
        Run (fun Q l => plainAt Q l = true) quiet trace Q ∧
          Run (fun Q l => plainAt Q l = true) Q later R ∧
            ⟨"p1", .bounced, none⟩ ∈ receiptsOf 2 trace ∧ (∃ l ∈ trace, returns 2 l = true) ∧
              (∃ l ∈ trace, handsOverAs (mailTo "m1" "r1") (some "p1") l = true) ∧
                freshAlong [] trace = true ∧ freshAlong [] (trace ++ later) = true ∧
                  statusOf Q "m2" = none ∧ statusOf R "m2" = some .suppressed :=
    Pool.record_reaches hplay
  have hlawful := lawfulRun_of_plain hrun hfresh
  have hcontinued := lawful_later_of_plain hrun hlater hfresh'
  exact ⟨trace, trace ++ later, Q, R, hlawful, rejected_of_labels htold hreturned rfl hsent rfl,
    hcontinued, hnew, hstatus, (honoured_of_lawful .empty .empty 0).1 hlawful hcontinued⟩

end Example

end DddBoilerplate.Notification
