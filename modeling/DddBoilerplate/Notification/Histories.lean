/- module: DddBoilerplate/Notification/Histories
   generality: I
   digest: What a call has done with the request it has in hand when it answers its caller. -/

import DddBoilerplate.Concurrency.History
import DddBoilerplate.Notification.Sending

set_option autoImplicit false
set_option relaxedAutoImplicit false
set_option linter.all false

namespace DddBoilerplate.Notification

open Concurrency

abbrev NotificationCall := Call NotificationStatement.interface

section Calls

/-- The request a call of the repository answers with: one found by its key, or created. -/
def NotificationCall.given? : NotificationCall → Option String
  | ⟨.findByDedupKey _ _, .ok (some row)⟩ => some row.id
  | ⟨.create _, .ok (some row)⟩ => some row.id
  | _ => none

def NotificationCall.creates : NotificationCall → Bool
  | ⟨.create _, _⟩ => true
  | _ => false

/-- The request a thread is at work on: the one it has created, or found in the way of its own. -/
def InHand (history : List NotificationCall) (requestId : String) : Prop :=
  (∃ call ∈ history, NotificationCall.creates call = true) ∧
    ∃ call ∈ history, NotificationCall.given? call = some requestId

variable (config : NotificationConfig)

/-- The thread asked for the recipients, and closed the request where there are none, or attached
one message for each pair of them. -/
def FannedBy (history : List NotificationCall) (requestId : String) : Prop :=
  ∃ notificationType payload context recipients,
    (⟨.resolveRecipients notificationType payload context, .ok recipients⟩ : NotificationCall) ∈
        history ∧
      ((recipients = [] ∧ ∃ row,
          (⟨.update requestId (.close .noRecipients), .ok row⟩ : NotificationCall) ∈ history) ∨
        ∃ entry mode messages attached, config.entries notificationType = some entry ∧
          (⟨.attachMessages requestId mode messages, .ok attached⟩ : NotificationCall) ∈ history ∧
            messages.map (fun message => (message.recipientRef, message.channel)) =
              (expandPairs recipients entry.channels).map fun pair => (pair.1.recipientRef, pair.2))

end Calls

/-- A row that is asked for by its identifier has it. -/
def NotificationCall.honest : NotificationCall → Prop
  | ⟨.update requestId _, .ok row⟩ => row.id = requestId
  | ⟨.attachMessages requestId _ _, .ok attached⟩ => attached.1.id = requestId
  | ⟨.findById requestId, .ok (some row)⟩ => row.id = requestId
  | _ => True

abbrev AllHonest (history : List NotificationCall) : Prop :=
  ∀ call ∈ history, NotificationCall.honest call

/-- The thread has claimed the message. -/
def Claimed (history : List NotificationCall) (claimed : ClaimedNotificationMessage) : Prop :=
  ∃ messageId, (⟨.claim messageId, .ok (some claimed)⟩ : NotificationCall) ∈ history

/-- Requests that neither look for a key, nor create, nor answer; only claimed messages are sent. -/
def Plain (history : List NotificationCall) : NotificationStatement → Prop
  | .findByDedupKey _ _ | .create _ | .respond _ => False
  | .send claimed _ => Claimed history claimed
  | _ => True

/-- A caller is answered with a request that was found or created, and what the thread had in hand
is fanned out by then. -/
def Because (config : NotificationConfig) (history : List NotificationCall) :
    NotificationStatement → Prop
  | .respond record => AllHonest history →
      (∃ call ∈ history, NotificationCall.given? call = some record.id) ∧
        ∀ requestId, InHand history requestId → FannedBy config history requestId
  | .send claimed _ => Claimed history claimed
  | _ => True

/-- The thread is at work on this request and no other. -/
structure Held (requestId : String) (history : List NotificationCall) : Prop where
  given : ∃ call ∈ history, NotificationCall.given? call = some requestId
  only : ∀ call ∈ history, ∀ id, NotificationCall.given? call = some id → id = requestId

section Plain

variable {α β : Type} {config : NotificationConfig}

/-- Whatever was called before, the program is plain. -/
abbrev IsPlain (m : NotificationProgram α) : Prop :=
  ∀ history, Accounted Plain (fun _ _ => True) history m

theorem IsPlain.bind {m : NotificationProgram α} {f : α → NotificationProgram β} (hm : IsPlain m)
    (hf : ∀ a, IsPlain (f a)) : IsPlain (m >>= f) :=
  fun history => (hm history).bind fun history' a _ => hf a history'

theorem plain_done (a : α) : IsPlain (.done a : NotificationProgram α) := fun _ => trivial

theorem plain_fail (e : String) : IsPlain (.fail e : NotificationProgram α) := fun _ => trivial

theorem plain_lift (m : Except String α) : IsPlain (Program.lift m) := by
  cases m with
  | ok a => exact plain_done a
  | error e => exact plain_fail e

theorem plain_call {q : NotificationStatement}
    (hq : ∀ history, Plain history q) : IsPlain (call q) :=
  fun history => ⟨hq history, fun a => plain_lift a _⟩

theorem IsPlain.each {f : α → NotificationProgram Unit} (hf : ∀ a, IsPlain (f a)) (as : List α) :
    IsPlain (Program.each f as) := by
  induction as with
  | nil => exact plain_done ()
  | cons a as ih => exact (hf a).bind fun _ => ih

/-- What a handled program keeps, and so both ways on from it. -/
theorem IsPlain.handle {m : NotificationProgram α} {f : α → NotificationProgram β}
    {g : String → NotificationProgram β} (hm : IsPlain m) (hf : ∀ a, IsPlain (f a))
    (hg : ∀ e, IsPlain (g e)) : IsPlain (m.handle f g) := by
  intro history
  refine @Accounted.handle _ _ _ _ _ _ _ (fun _ => True) _ _ _ _ (hm history) trivial ?_ ?_ ?_ ?_
  · intro _ _ _ _ _
    trivial
  · intro _ _ h
    exact h
  · intro history' a _ _
    exact hf a history'
  · intro history' e _
    exact hg e history'

theorem plain_dispatchChunks (dispatch : NotificationDispatch) :
    IsPlain (dispatchChunks config dispatch) :=
  IsPlain.each (fun _ => plain_call fun _ => by trivial) _

theorem plain_finalise (requestId : String) : IsPlain (finalise requestId) := by
  refine IsPlain.bind (plain_call fun _ => by trivial) fun row => ?_
  cases row with
  | none => exact plain_fail _
  | some request => exact plain_call fun _ => by trivial

theorem Claimed.append {history : List NotificationCall} {claimed : ClaimedNotificationMessage}
    (h : Claimed history claimed) (more : List NotificationCall) :
    Claimed (history ++ more) claimed :=
  h.imp fun _ hmem => List.mem_append_left more hmem

/-- A claimed message may be sent. -/
theorem plain_renderAndSend {dispatch : NotificationDispatch} {model : String}
    {claimed : ClaimedNotificationMessage} {history : List NotificationCall}
    (hclaimed : Claimed history claimed) :
    Accounted Plain (fun _ _ => True) history (renderAndSend config dispatch claimed model) := by
  unfold renderAndSend
  split
  · trivial
  · refine ⟨trivial, fun answer => accounted_lift_bind fun template _ => ?_⟩
    cases template with
    | none => trivial
    | some template =>
      refine accounted_lift_bind fun provider _ => ⟨hclaimed.append _, fun receipt => ?_⟩
      refine accounted_lift_bind fun providerMessageId _ => ?_
      refine IsPlain.bind (plain_call fun _ => by trivial) (fun _ => ?_) _
      exact IsPlain.bind (plain_call fun _ => by trivial) fun _ => plain_done ()

theorem plain_processMessage (dispatch : NotificationDispatch) (model messageId : String) :
    IsPlain (processMessage config dispatch model messageId) := by
  intro history
  refine ⟨trivial, fun answer => accounted_lift_bind fun claimed hanswer => ?_⟩
  cases claimed with
  | none => trivial
  | some claimed =>
    have hclaimed : Claimed (history ++ [⟨.claim messageId, answer⟩]) claimed :=
      ⟨messageId, hanswer ▸ List.mem_append_right _ (List.mem_singleton_self _)⟩
    refine @Accounted.handle _ _ _ _ _ _ _ (fun h => Claimed h claimed) _ _ _ _
      (plain_renderAndSend hclaimed) hclaimed (fun h q a hkept _ => hkept.append _)
      (fun _ _ h => h) (fun _ _ _ _ => trivial) ?_
    intro history' message _
    refine IsPlain.bind (plain_call fun _ => by trivial) (fun _ => ?_) _
    exact IsPlain.bind (plain_call fun _ => by trivial) fun _ => plain_done ()

theorem plain_finaliseRequest (requestId : String) : IsPlain (finaliseRequest requestId) := by
  refine IsPlain.bind (plain_call fun _ => by trivial) fun row => ?_
  cases row with
  | none => exact plain_done ()
  | some request =>
    simp only
    split
    · exact plain_done ()
    · refine IsPlain.bind (plain_call fun _ => by trivial) fun inFlight => ?_
      split
      · exact plain_done ()
      · refine (plain_finalise _).bind fun finalised => ?_
        exact IsPlain.handle (plain_call fun _ => by trivial) plain_done fun _ => plain_done ()

theorem plain_processChunk (dispatch : NotificationDispatch) :
    IsPlain (processChunk config dispatch) := by
  refine IsPlain.bind (plain_call fun _ => by trivial) fun _ => ?_
  refine IsPlain.bind (plain_call fun _ => by trivial) fun row => ?_
  cases row with
  | none => exact plain_done ()
  | some request =>
    refine (plain_lift _).bind fun _ => ?_
    refine IsPlain.bind (plain_call fun _ => by trivial) fun model => ?_
    refine (IsPlain.each (fun _ => plain_processMessage _ _ _) _).bind fun _ => ?_
    exact plain_finaliseRequest _

theorem plain_resume (request : NotificationRequest) : IsPlain (resume config request) := by
  refine IsPlain.bind (plain_call fun _ => by trivial) fun messageIds => ?_
  split
  · exact plain_done ()
  · exact plain_dispatchChunks _

theorem plain_reconcile : IsPlain (reconcile config) := by
  refine IsPlain.bind (plain_call fun _ => by trivial) fun _ => ?_
  refine IsPlain.bind (plain_call fun _ => by trivial) fun resumable => ?_
  exact IsPlain.each plain_resume _

theorem accounted_gate {tenantId : Option String} {notificationType : String}
    {pair : Recipient × String} {history : List NotificationCall} :
    Accounted Plain (fun _ message =>
        (message.recipientRef, message.channel) = (pair.1.recipientRef, pair.2)) history
      (gate tenantId notificationType pair) := by
  obtain ⟨recipient, channel⟩ := pair
  refine ⟨trivial, fun answer => accounted_lift_bind fun prefs _ => ?_⟩
  split
  · rfl
  · split
    · rfl
    · refine ⟨trivial, fun answer' => accounted_lift_bind fun suppressed _ => ?_⟩
      cases suppressed with
      | false => rfl
      | true => rfl

/-- The gate lets through one message for each pair. -/
theorem accounted_gates {tenantId : Option String} {notificationType : String}
    {pairs : List (Recipient × String)} {history : List NotificationCall} :
    Accounted Plain (fun _ messages =>
        messages.map (fun message => (message.recipientRef, message.channel)) =
          pairs.map fun pair => (pair.1.recipientRef, pair.2)) history
      (gates tenantId notificationType pairs) := by
  induction pairs generalizing history with
  | nil => rfl
  | cons pair pairs ih =>
    refine accounted_gate.bind fun h message hmessage => ih.bind fun h' messages hmessages => ?_
    exact (List.map_cons ..).trans (congrArg₂ List.cons hmessage hmessages)

end Plain

section Fanning

variable {α : Type} {config : NotificationConfig} {history history' : List NotificationCall}
variable {requestId : String}

theorem given_of_plain {q : NotificationStatement} (h : Plain history q) (a : Except String q.Result) :
    NotificationCall.given? ⟨q, a⟩ = none := by
  cases q with
  | findByDedupKey => exact h.elim
  | create => exact h.elim
  | _ => rfl

theorem Held.snoc (h : Held requestId history) {call : NotificationCall}
    (hcall : NotificationCall.given? call = none) : Held requestId (history ++ [call]) where
  given := by
    obtain ⟨found, hmem, hgiven⟩ := h.given
    exact ⟨found, List.mem_append_left _ hmem, hgiven⟩
  only := by
    intro found hmem id hgiven
    rcases List.mem_append.mp hmem with hmem | hmem
    · exact h.only found hmem id hgiven
    · rw [List.mem_singleton.mp hmem, hcall] at hgiven
      cases hgiven

theorem FannedBy.mono (h : FannedBy config history requestId) (hsubset : history ⊆ history') :
    FannedBy config history' requestId := by
  obtain ⟨notificationType, payload, context, recipients, hrecipients, h⟩ := h
  refine ⟨notificationType, payload, context, recipients, hsubset hrecipients, ?_⟩
  rcases h with ⟨hnone, row, hrow⟩ | ⟨entry, mode, messages, attached, hentry, hattached, hpairs⟩
  · exact .inl ⟨hnone, row, hsubset hrow⟩
  · exact .inr ⟨entry, mode, messages, attached, hentry, hsubset hattached, hpairs⟩

/-- A plain program leaves the thread at work on what it was at work on. -/
theorem held_of_plain {m : NotificationProgram α} {post : List NotificationCall → α → Prop}
    (hm : Accounted Plain post history m) (hheld : Held requestId history) :
    Accounted (Because config)
      (fun h a => (Held requestId h ∧ history <+: h) ∧ post h a) history m := by
  have hkept := @Accounted.keeping _ _ _ _ (fun h => Held requestId h ∧ history <+: h) _ _ hm
    ⟨hheld, List.prefix_rfl⟩ fun h q a hkept hplain =>
      ⟨hkept.1.snoc (given_of_plain hplain a), hkept.2.trans (List.prefix_append _ _)⟩
  refine hkept.mono ?_ fun _ _ h => h
  intro h q hplain
  cases q with
  | send => exact hplain
  | respond => exact hplain.elim
  | _ => trivial

theorem accounted_finalise :
    Accounted Plain (fun h record => AllHonest h → record.id = requestId) history
      (finalise requestId) := by
  refine ⟨trivial, fun answer => accounted_lift_bind fun row _ => ?_⟩
  cases row with
  | none => trivial
  | some request =>
    refine ⟨trivial, fun answer' => accounted_lift fun updated hupdated hhonest => ?_⟩
    subst hupdated
    exact hhonest _ (List.mem_append_right _ (List.mem_singleton_self _))

/-- After the messages are attached, the record returned is that of the request. -/
theorem accounted_dispatch {dispatch : NotificationDispatch} {attached : NotificationRequest}
    (mode : NotificationMode) :
    Accounted Plain (fun h record => AllHonest h → record.id = attached.id) history
      (match mode with
        | .sync => do
          processChunk config dispatch
          let row ← call (.findById attached.id)
          return row.getD attached
        | .async =>
          (dispatchChunks config dispatch).handle (fun _ => .done attached) fun error => do
            let _request ← finalise attached.id
            .fail error) := by
  cases mode with
  | sync =>
    refine (plain_processChunk dispatch history).bind fun h _ _ => ?_
    refine ⟨trivial, fun answer => accounted_lift_bind fun row hrow hhonest => ?_⟩
    subst hrow
    cases row with
    | none => rfl
    | some row => exact hhonest _ (List.mem_append_right _ (List.mem_singleton_self _))
  | async =>
    refine @Accounted.handle _ _ _ _ _ _ _ (fun _ => True) _ _ _ _
      (plain_dispatchChunks dispatch history) trivial (fun _ _ _ _ _ => trivial)
      (fun _ _ h => h) (fun _ _ _ _ _ => rfl) ?_
    intro h error _
    exact accounted_finalise.bind fun _ _ _ => trivial

/-- Once its messages are attached, the request is fanned out whatever plain steps follow. -/
theorem accounted_attached {m : NotificationProgram NotificationRequest}
    (attached : NotificationRequest)
    (hm : Accounted Plain (fun h record => AllHonest h → record.id = attached.id) history m)
    (hheld : Held requestId history) (hfanned : FannedBy config history requestId)
    (hid : AllHonest history → attached.id = requestId) :
    Accounted (Because config)
      (fun h record => Held requestId h ∧ FannedBy config h requestId ∧
        (AllHonest h → record.id = requestId)) history m := by
  refine (held_of_plain hm hheld).mono (fun _ _ h => h) ?_
  rintro h record ⟨⟨hheld', hgrown⟩, hrecord⟩
  refine ⟨hheld', hfanned.mono hgrown.subset, fun hhonest => ?_⟩
  exact (hrecord hhonest).trans (hid fun call hmem => hhonest call (hgrown.subset hmem))

theorem accounted_fanOut {input : NotifyInput} {entry : RegisteredEntry}
    {priority : NotificationPriority} {request : NotificationRequest}
    (hentry : config.entries input.notificationType = some entry)
    (hheld : Held request.id history) :
    Accounted (Because config)
      (fun h record => Held request.id h ∧ FannedBy config h request.id ∧
        (AllHonest h → record.id = request.id)) history
      (fanOut config input entry priority request) := by
  refine ⟨trivial, fun answer => accounted_lift_bind fun recipients hrecipients => ?_⟩
  subst hrecipients
  split
  · rename_i hnone
    refine ⟨trivial, fun answer => accounted_lift fun row hrow => ?_⟩
    subst hrow
    refine ⟨(hheld.snoc rfl).snoc rfl, ⟨input.notificationType, input.payload, _, recipients, ?_,
      .inl ⟨hnone, row, ?_⟩⟩, fun hhonest => ?_⟩
    · exact List.mem_append_left _ (List.mem_append_right _ (List.mem_singleton_self _))
    · exact List.mem_append_right _ (List.mem_singleton_self _)
    · exact hhonest _ (List.mem_append_right _ (List.mem_singleton_self _))
  · refine ⟨trivial, fun answer => accounted_lift_bind fun model hmodel => ?_⟩
    subst hmodel
    simp only
    split
    · trivial
    · refine (held_of_plain accounted_gates ((hheld.snoc rfl).snoc rfl)).bind ?_
      rintro h messages ⟨⟨hgated, hgrown⟩, hpairs⟩
      refine ⟨trivial, fun answer => accounted_lift_bind fun attached hattached => ?_⟩
      subst hattached
      refine accounted_attached attached.1 ?_ (hgated.snoc rfl) ⟨input.notificationType, input.payload, _,
        recipients, ?_, .inr ⟨entry, _, messages, attached, hentry, ?_, hpairs⟩⟩ fun hhonest => ?_
      · by_cases hpending : (attached.2.filter (·.status = .pending)).map (·.id) = []
        · rw [if_pos hpending]
          exact accounted_finalise
        · rw [if_neg hpending]
          exact accounted_dispatch _
      · refine List.mem_append_left _ (hgrown.subset ?_)
        exact List.mem_append_left _ (List.mem_append_right _ (List.mem_singleton_self _))
      · exact List.mem_append_right _ (List.mem_singleton_self _)
      · exact hhonest _ (List.mem_append_right _ (List.mem_singleton_self _))

/-- The row created, or the one found in its way, is the one the thread is at work on. -/
theorem accounted_createRequest {data : NewNotificationRequest}
    (hnone : ∀ call ∈ history, NotificationCall.given? call = none) :
    Accounted (Because config) (fun h row => Held row.id h) history (createRequest data) := by
  have hheld : ∀ {h : List NotificationCall} {call : NotificationCall} {row : NotificationRequest},
      (∀ call ∈ h, NotificationCall.given? call = none) →
        NotificationCall.given? call = some row.id → Held row.id (h ++ [call]) := by
    intro h call row hnone hgiven
    refine ⟨⟨call, List.mem_append_right _ (List.mem_singleton_self _), hgiven⟩, ?_⟩
    intro found hmem id hfound
    rcases List.mem_append.mp hmem with hmem | hmem
    · cases (hnone found hmem).symm.trans hfound
    · rw [List.mem_singleton.mp hmem, hgiven] at hfound
      exact (Option.some.inj hfound).symm
  refine ⟨trivial, fun answer => accounted_lift_bind fun row hrow => ?_⟩
  subst hrow
  cases row with
  | some created => exact hheld hnone rfl
  | none =>
    refine ⟨trivial, fun answer => accounted_lift_bind fun row hrow => ?_⟩
    subst hrow
    cases row with
    | none => trivial
    | some existing =>
      refine hheld ?_ rfl
      intro call hmem
      rcases List.mem_append.mp hmem with hmem | hmem
      · exact hnone call hmem
      · rw [List.mem_singleton.mp hmem]
        rfl

theorem accounted_execute (input : NotifyInput) :
    Accounted (Because config) (fun h record => AllHonest h →
        (∃ call ∈ h, NotificationCall.given? call = some record.id) ∧
          ∀ id, InHand h id → FannedBy config h id) [] (execute config input) := by
  refine ⟨trivial, fun answer => accounted_lift_bind fun existing hexisting => ?_⟩
  subst hexisting
  cases existing with
  | some existing =>
    intro _
    refine ⟨⟨_, List.mem_singleton_self _, rfl⟩, ?_⟩
    rintro id ⟨⟨call, hmem, hcreates⟩, _⟩
    rw [List.mem_singleton.mp hmem] at hcreates
    cases hcreates
  | none =>
    refine accounted_lift_bind fun entry hentry => ?_
    have hregistered : config.entries input.notificationType = some entry := by
      unfold requireEntry at hentry
      split at hentry
      · rename_i registered hregistered
        exact hregistered.trans (congrArg some (Except.ok.inj hentry))
      · cases hentry
    refine (accounted_createRequest ?_).bind fun h request hheld => ?_
    · intro call hmem
      rw [List.mem_singleton.mp hmem]
      rfl
    · refine (accounted_fanOut hregistered hheld).mono (fun _ _ h => h) ?_
      rintro h' record ⟨hheld', hfanned, hid⟩ hhonest
      rw [hid hhonest]
      refine ⟨hheld'.given, ?_⟩
      rintro id ⟨_, call, hmem, hgiven⟩
      rw [hheld'.only call hmem id hgiven]
      exact hfanned

/-- Whatever the entry, a caller is answered with what has been done. -/
theorem accounted_program (entry : NotificationEntry) :
    Accounted (Because config) (fun _ _ => True) [] (entry.program config) := by
  have hplain : ∀ {m : NotificationProgram Unit}, IsPlain m →
      Accounted (Because config) (fun _ _ => True) [] m := by
    intro m hm
    refine (hm []).mono ?_ fun _ _ h => h
    intro h q hq
    cases q with
    | send => exact hq
    | respond => exact hq.elim
    | _ => trivial
  cases entry with
  | send input =>
    refine (accounted_execute input).bind fun h record hrecord => ?_
    exact ⟨hrecord, fun answer => accounted_lift fun _ _ => trivial⟩
  | chunk =>
    refine hplain (IsPlain.bind (plain_call fun _ => by trivial) fun _ => ?_)
    exact plain_processChunk _
  | reconcile => exact hplain plain_reconcile

end Fanning

end DddBoilerplate.Notification
