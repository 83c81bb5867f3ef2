/- module: DddBoilerplate/Notification/Gate
   generality: I
   digest: What the gate has looked up for the messages that are attached, handed over and recorded as sent. -/

import DddBoilerplate.Notification.Attempts

set_option autoImplicit false
set_option relaxedAutoImplicit false
set_option linter.all false

namespace DddBoilerplate.Notification

open Concurrency

section Reasons

variable {config : NotificationConfig} {history : List NotificationCall}

/-- The consent rows opt out of the category, on that channel or on all. -/
def optsOut (rows : List NotificationPreference) (category channel : String) : Bool :=
  rows.any fun p => p.category = category && (p.channel = channel || p.channel = "ALL") && !p.optedIn

/-- The gate found no row that opts out, and, where the address is known, that it is not blocked. -/
structure Cleared (history : List NotificationCall) (tenantId : Option String) (category : String)
    (data : NewNotificationMessage) : Prop where
  consented : ∃ rows,
    (⟨.findForRecipient tenantId data.recipientRef, .ok rows⟩ : NotificationCall) ∈ history ∧
      optsOut rows category data.channel = false
  unblocked : ∀ address, data.address = some address → address ≠ "" →
    (⟨.isSuppressed tenantId address data.channel, .ok false⟩ : NotificationCall) ∈ history

/-- The request was created for the tenant by this thread, or found among the tenant's. -/
def GivenFor (tenantId : Option String) (requestId : String) (history : List NotificationCall) :
    Prop :=
  ∃ row : NotificationRequest, row.id = requestId ∧
    ((∃ data : NewNotificationRequest, data.tenantId = tenantId ∧
        (⟨.create data, .ok (some row)⟩ : NotificationCall) ∈ history) ∨
      ∃ dedupKey, (⟨.findByDedupKey tenantId dedupKey, .ok (some row)⟩ : NotificationCall) ∈ history)

/-- What is attached went through the gate; what is handed over was claimed and has an address; what
is recorded as sent was handed over. -/
def Gated (entry : NotificationEntry) (history : List NotificationCall) :
    NotificationStatement → Prop
  | .attachMessages requestId _ messages =>
    ∃ input, entry = .send input ∧ GivenFor input.tenantId requestId history ∧
      ∀ data ∈ messages, data.status = .suppressed ∨
        data.status = .pending ∧ Cleared history input.tenantId input.notificationType data
  | .send claimed _ => Claimed history claimed ∧ claimed.address.getD "" ≠ ""
  | .updateMessage id (.markSent _ _ providerMessageId) =>
    ∃ claimed rendered, claimed.id = id ∧ Claimed history claimed ∧
      (⟨.send claimed rendered, .ok providerMessageId⟩ : NotificationCall) ∈ history
  | .updateMessage id (.markFailed _) => HasClaimed id history
  | .updateMessage _ .claim => False
  | .updateMessage _ .reset => False
  | _ => True

variable {entry : NotificationEntry}

theorem free_gated (h : List NotificationCall) (q : NotificationStatement)
    (hq : q.isFree = true) : Gated entry h q := by
  cases q with
  | attachMessages requestId mode messages => cases hq
  | send claimed rendered => cases hq
  | updateMessage messageId write => cases hq
  | _ => trivial

theorem Cleared.append {tenantId : Option String} {category : String}
    {data : NewNotificationMessage} (h : Cleared history tenantId category data)
    {more : List NotificationCall} : Cleared (history ++ more) tenantId category data where
  consented := by
    obtain ⟨rows, hrows, hopts⟩ := h.consented
    exact ⟨rows, List.mem_append_left _ hrows, hopts⟩
  unblocked := fun address haddress hnonempty =>
    List.mem_append_left _ (h.unblocked address haddress hnonempty)

theorem GivenFor.append {tenantId : Option String} {requestId : String}
    (h : GivenFor tenantId requestId history) {more : List NotificationCall} :
    GivenFor tenantId requestId (history ++ more) := by
  obtain ⟨row, hid, hrow⟩ := h
  refine ⟨row, hid, ?_⟩
  rcases hrow with ⟨data, htenant, hcreated⟩ | ⟨dedupKey, hfound⟩
  · exact .inl ⟨data, htenant, List.mem_append_left _ hcreated⟩
  · exact .inr ⟨dedupKey, List.mem_append_left _ hfound⟩

/-- One message through the gate. -/
theorem gated_gate {tenantId : Option String} {notificationType : String}
    {pair : Recipient × String} :
    Accounted (Gated entry) (fun h data => data.status = .suppressed ∨
      data.status = .pending ∧ Cleared h tenantId notificationType data) history
      (gate tenantId notificationType pair) := by
  obtain ⟨recipient, channel⟩ := pair
  refine ⟨trivial, fun answer => accounted_lift_bind fun rows hrows => ?_⟩
  subst hrows
  split
  · exact .inl rfl
  · rename_i hopts
    have hconsented : ∀ (more : List NotificationCall) (data : NewNotificationMessage),
        data.recipientRef = recipient.recipientRef →
        data.channel = channel → ∃ rows',
          (⟨.findForRecipient tenantId data.recipientRef, .ok rows'⟩ : NotificationCall) ∈
            history ++ [⟨.findForRecipient tenantId recipient.recipientRef, .ok rows⟩] ++ more ∧
              optsOut rows' notificationType data.channel = false := by
      rintro more data hrecipient rfl
      refine ⟨rows, ?_, eq_false_of_ne_true hopts⟩
      rw [hrecipient]
      exact List.mem_append_left _ (List.mem_append_right _ (List.mem_singleton_self _))
    split
    · rename_i hempty
      refine .inr ⟨rfl, ?_, ?_⟩
      · simpa using hconsented [] (pairMessage recipient channel .pending none) rfl rfl
      · intro address haddress hnonempty
        have hknown : recipient.address = some address := haddress
        rw [hknown] at hempty
        exact absurd hempty hnonempty
    · refine ⟨trivial, fun answer => accounted_lift_bind fun suppressed hsuppressed => ?_⟩
      subst hsuppressed
      cases suppressed with
      | true => exact .inl rfl
      | false =>
        refine .inr ⟨rfl, hconsented _ _ rfl rfl, ?_⟩
        intro address' hknown _
        have hknown' : recipient.address = some address' := hknown
        have hsame : recipient.address.getD "" = address' := by rw [hknown']; rfl
        rw [hsame]
        exact List.mem_append_right _ (List.mem_singleton_self _)

theorem gated_gates {tenantId : Option String} {notificationType : String}
    {pairs : List (Recipient × String)} :
    Accounted (Gated entry) (fun h messages => ∀ data ∈ messages, data.status = .suppressed ∨
      data.status = .pending ∧ Cleared h tenantId notificationType data) history
      (gates tenantId notificationType pairs) := by
  induction pairs generalizing history with
  | nil =>
    intro data hmem
    cases hmem
  | cons pair pairs ih =>
    refine gated_gate.bind fun h message hmessage => ih.grown.bind fun h' messages hmessages => ?_
    obtain ⟨⟨more, rfl⟩, hrest⟩ := hmessages
    intro data hmem
    rcases List.mem_cons.mp hmem with rfl | hmem
    · exact hmessage.imp_right fun h => ⟨h.1, h.2.append⟩
    · exact hrest data hmem

theorem gated_renderAndSend {dispatch : NotificationDispatch}
    {claimed : ClaimedNotificationMessage} {model : String} (hclaimed : Claimed history claimed) :
    Accounted (Gated entry) (fun _ _ => True) history
      (renderAndSend config dispatch claimed model) := by
  unfold renderAndSend
  split
  · trivial
  · rename_i hnonempty
    refine ⟨trivial, fun answer => accounted_lift_bind fun template _ => ?_⟩
    cases template with
    | none => trivial
    | some template =>
      refine accounted_lift_bind fun provider _ => ?_
      refine ⟨⟨hclaimed.append _, hnonempty⟩, fun answer' => ?_⟩
      refine accounted_lift_bind fun providerMessageId hsent => ?_
      subst hsent
      refine ⟨⟨claimed, _, rfl, (hclaimed.append _).append _,
        List.mem_append_right _ (List.mem_singleton_self _)⟩, fun answer'' => ?_⟩
      refine accounted_lift_bind fun _ _ => ?_
      exact ((always_free free_gated _ rfl).bind fun _ => Always.done ()) _

theorem gated_processMessage (dispatch : NotificationDispatch) (model messageId : String) :
    Always (Gated entry) (processMessage config dispatch model messageId) := by
  intro h
  refine ⟨trivial, fun answer => accounted_lift_bind fun claimed hanswer => ?_⟩
  subst hanswer
  cases claimed with
  | none => trivial
  | some claimed =>
    have hclaimed : HasClaimed messageId (h ++ [⟨.claim messageId, .ok (some claimed)⟩]) :=
      ⟨claimed, List.mem_append_right _ (List.mem_singleton_self _)⟩
    refine @Accounted.handle _ _ _ _ _ _ _ (HasClaimed messageId) _ _ _ _
      (gated_renderAndSend ⟨messageId, List.mem_append_right _ (List.mem_singleton_self _)⟩)
      hclaimed (fun h q a hkept _ => hkept.append) (fun _ _ h => h) (fun _ _ _ _ => trivial)
      fun h' message hkept => ?_
    refine ⟨hkept, fun answer' => accounted_lift_bind fun _ _ => ?_⟩
    exact ((always_free free_gated _ rfl).bind fun _ => Always.done ()) _

/-- The request in hand is the tenant's. -/
theorem gated_createRequest {data : NewNotificationRequest} :
    Accounted (Gated entry) (fun h row => GivenFor data.tenantId row.id h) history
      (createRequest data) := by
  refine ⟨trivial, fun answer => accounted_lift_bind fun row hrow => ?_⟩
  subst hrow
  cases row with
  | some created =>
    exact ⟨created, rfl, .inl ⟨data, rfl, List.mem_append_right _ (List.mem_singleton_self _)⟩⟩
  | none =>
    refine ⟨trivial, fun answer => accounted_lift_bind fun row hrow => ?_⟩
    subst hrow
    cases row with
    | none => trivial
    | some existing =>
      exact ⟨existing, rfl, .inr ⟨_, List.mem_append_right _ (List.mem_singleton_self _)⟩⟩

theorem gated_fanOut {input : NotifyInput} {registered : RegisteredEntry}
    {priority : NotificationPriority} {request : NotificationRequest}
    (hgiven : GivenFor input.tenantId request.id history) :
    Accounted (Gated (.send input)) (fun _ _ => True) history
      (fanOut config input registered priority request) := by
  refine ⟨trivial, fun answer => accounted_lift_bind fun recipients _ => ?_⟩
  split
  · exact always_free free_gated _ rfl _
  · refine ⟨trivial, fun answer => accounted_lift_bind fun model _ => ?_⟩
    simp only
    split
    · trivial
    · refine gated_gates.grown.bind ?_
      rintro h messages ⟨⟨more, rfl⟩, hmessages⟩
      refine ⟨⟨input, rfl, ?_, hmessages⟩, fun answer => ?_⟩
      · exact hgiven.append.append.append
      · refine accounted_lift_bind fun attached _ => ?_
        by_cases hpending : (attached.2.filter (·.status = .pending)).map (·.id) = []
        · rw [if_pos hpending]
          exact always_finalise (inner_of_free free_gated) _ _
        · rw [if_neg hpending]
          exact always_dispatched free_gated gated_processMessage _ _

theorem gated_execute {input : NotifyInput} :
    Accounted (Gated (.send input)) (fun _ _ => True) [] (execute config input) := by
  refine ⟨trivial, fun answer => accounted_lift_bind fun existing _ => ?_⟩
  cases existing with
  | some existing => trivial
  | none =>
    refine accounted_lift_bind fun registered _ => ?_
    exact gated_createRequest.bind fun h request hgiven => gated_fanOut hgiven

theorem gated_program (entry : NotificationEntry) :
    Accounted (Gated entry) (fun _ _ => True) [] (entry.program config) := by
  cases entry with
  | send input =>
    refine gated_execute.bind fun h record _ => ?_
    exact always_free free_gated (.respond record) rfl h
  | chunk => exact always_chunk free_gated gated_processMessage []
  | reconcile => exact always_reconcile free_gated []

end Reasons

end DddBoilerplate.Notification
