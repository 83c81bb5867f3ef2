/- module: DddBoilerplate/Notification/Attempts
   generality: I
   digest: Attempts at a message: claimed, settled, and what each write of a worker is made after. -/

import DddBoilerplate.Notification.Histories
import DddBoilerplate.Notification.Receipts

set_option autoImplicit false
set_option relaxedAutoImplicit false
set_option linter.all false

namespace DddBoilerplate.Notification

open Concurrency

abbrev ReceiptCall := Call ReceiptStatement.interface

section Besides

variable {α : Type} {because : List NotificationCall → NotificationStatement → Prop}
variable {post : List NotificationCall → α → Prop} {history : List ReceiptCall}

def ReceiptCall.pipeline? : ReceiptCall → Option NotificationCall
  | ⟨.pipeline q, a⟩ => some ⟨q, a⟩
  | _ => none

/-- The calls among them that are the pipeline's. -/
def pipelineCalls (history : List ReceiptCall) : List NotificationCall :=
  history.filterMap ReceiptCall.pipeline?

theorem pipelineCalls_snoc {q : NotificationStatement} {a : Except String q.Result} :
    pipelineCalls (history ++ [⟨.pipeline q, a⟩]) = pipelineCalls history ++ [⟨q, a⟩] := by
  simp [pipelineCalls, ReceiptCall.pipeline?]

theorem mem_pipelineCalls {q : NotificationStatement} {a : Except String q.Result} :
    ⟨q, a⟩ ∈ pipelineCalls history ↔ (⟨.pipeline q, a⟩ : ReceiptCall) ∈ history := by
  constructor
  · intro h
    obtain ⟨⟨q', a'⟩, hmem, hcall⟩ := List.mem_filterMap.mp h
    cases q' with
    | pipeline q' =>
      cases hcall
      exact hmem
    | _ => cases hcall
  · intro h
    exact List.mem_filterMap.mpr ⟨_, h, rfl⟩

/-- The pipeline's requests are made for its own reasons; the others for any. -/
def Beside (because : List NotificationCall → NotificationStatement → Prop)
    (history : List ReceiptCall) : ReceiptStatement → Prop
  | .pipeline q => because (pipelineCalls history) q
  | _ => True

theorem accounted_beside {m : NotificationProgram α}
    (hm : Accounted because post (pipelineCalls history) m) :
    Accounted (Beside because) (fun h a => post (pipelineCalls h) a) history (beside m) := by
  induction m generalizing history with
  | done a => exact hm
  | fail e => trivial
  | ask q next ih =>
    refine ⟨hm.1, fun a => ih a ?_⟩
    rw [pipelineCalls_snoc]
    exact hm.2 a

/-- A statement of the receipts or of the consent, which the pipeline has no part in. -/
theorem always_ask {q : ReceiptStatement}
    (hq : ∀ h, Beside because h q) : Always (Beside because) (ask q) :=
  fun h => ⟨hq h, fun a => Always.lift a _⟩

theorem always_suppress (tenantId : Option String) (address channel : String)
    (reason : NotificationSuppressReason) (source : Option String) :
    Always (Beside because) (suppress tenantId address channel reason source) := by
  refine Always.bind (always_ask fun _ => trivial) fun existing => ?_
  cases existing with
  | some row => exact always_ask fun _ => trivial
  | none => exact always_ask fun _ => trivial

theorem always_applyOne (event : DeliveryEvent) : Always (Beside because) (applyOne event) := by
  refine Always.bind (always_ask fun _ => trivial) fun message => ?_
  cases message with
  | none => exact Always.done ()
  | some message =>
    refine Always.bind (always_ask fun _ => trivial) fun updated => ?_
    split
    · exact Always.done ()
    · exact Always.done ()
    · exact Always.done ()
    · exact always_suppress _ _ _ _ _

theorem always_upsertPreference (input : UpsertNotificationPreferenceInput) :
    Always (Beside because) (upsertPreference input) := by
  refine Always.bind (always_ask fun _ => trivial) fun existing => ?_
  cases existing with
  | some row => exact always_ask fun _ => trivial
  | none => exact always_ask fun _ => trivial

theorem always_callback {config : NotificationConfig} (channel payload : String)
    (signature : Option String) :
    Always (Beside because) (applyDeliveryEvents config channel payload signature) := by
  refine (Always.lift _).bind fun provider => ?_
  refine Always.bind (always_ask fun _ => trivial) fun events => ?_
  exact Always.each always_applyOne events

/-- Where the pipeline's entries have reasons for what they ask, so have all. -/
theorem always_receiptProgram {config : NotificationConfig}
    (hpipeline : ∀ entry : NotificationEntry, Accounted because (fun _ _ => True) []
      (entry.program config)) (entry : ReceiptEntry) :
    Accounted (Beside because) (fun _ _ => True) [] (entry.program config) := by
  cases entry with
  | pipeline entry => exact @accounted_beside _ because (fun _ _ => True) [] _ (hpipeline entry)
  | callback channel payload signature => exact always_callback channel payload signature []
  | prefer input => exact always_upsertPreference input []

end Besides

/-- A statement that neither attaches messages, nor hands one over, nor records what came of it. -/
def NotificationStatement.isFree : NotificationStatement → Bool
  | attachMessages _ _ _ => false
  | send _ _ => false
  | updateMessage _ _ => false
  | _ => true

/-- A statement of the gate, or of the end of a request. -/
def NotificationStatement.isInner : NotificationStatement → Bool
  | findForRecipient _ _ | isSuppressed _ _ _ => true
  | findById _ | update _ _ | hasInFlightMessages _ | writeRequestCompletedEvent _ => true
  | _ => false

theorem NotificationStatement.isFree_of_isInner {q : NotificationStatement} (h : q.isInner = true) :
    q.isFree = true := by
  cases q with
  | attachMessages | send | updateMessage => cases h
  | _ => rfl

section Inner

variable {because : List NotificationCall → NotificationStatement → Prop}
variable (hinner : ∀ h q, NotificationStatement.isInner q = true → because h q)

include hinner

theorem always_inner (q : NotificationStatement) (hq : q.isInner = true) :
    Always because (call q) := fun h => ⟨hinner h q hq, fun a => Always.lift a _⟩

theorem always_finalise (requestId : String) : Always because (finalise requestId) := by
  refine (always_inner hinner _ rfl).bind fun row => ?_
  cases row with
  | none => exact Always.fail _
  | some request => exact always_inner hinner _ rfl

theorem always_finaliseRequest (requestId : String) :
    Always because (finaliseRequest requestId) := by
  refine (always_inner hinner _ rfl).bind fun row => ?_
  cases row with
  | none => exact Always.done ()
  | some request =>
    simp only
    split
    · exact Always.done ()
    · refine (always_inner hinner _ rfl).bind fun inFlight => ?_
      split
      · exact Always.done ()
      · refine (always_finalise hinner _).bind fun finalised => ?_
        exact (always_inner hinner _ rfl).handle Always.done fun _ => Always.done ()

theorem always_gates {tenantId : Option String} {notificationType : String}
    (pairs : List (Recipient × String)) :
    Always because (gates tenantId notificationType pairs) := by
  induction pairs with
  | nil => exact Always.done []
  | cons pair pairs ih =>
    have hgate : Always because (gate tenantId notificationType pair) := by
      obtain ⟨recipient, channel⟩ := pair
      refine (always_inner hinner _ rfl).bind fun prefs => ?_
      split
      · exact Always.done _
      · split
        · exact Always.done _
        · exact (always_inner hinner _ rfl).bind fun _ => Always.done _
    exact hgate.bind fun message => ih.bind fun messages => Always.done (message :: messages)

end Inner

section Walks

variable {config : NotificationConfig}
variable {because : List NotificationCall → NotificationStatement → Prop}
variable (hfree : ∀ h q, NotificationStatement.isFree q = true → because h q)

include hfree

theorem inner_of_free (h : List NotificationCall) (q : NotificationStatement)
    (hq : q.isInner = true) : because h q := hfree h q (NotificationStatement.isFree_of_isInner hq)

theorem always_free (q : NotificationStatement) (hq : q.isFree = true) :
    Always because (call q) := fun h => ⟨hfree h q hq, fun a => Always.lift a _⟩

theorem always_dispatchChunks (dispatch : NotificationDispatch) :
    Always because (dispatchChunks config dispatch) := Always.each (fun _ => always_free hfree _ rfl) _

theorem always_createRequest (data : NewNotificationRequest) :
    Always because (createRequest data) := by
  refine (always_free hfree _ rfl).bind fun row => ?_
  cases row with
  | some created => exact Always.done _
  | none =>
    refine (always_free hfree _ rfl).bind fun existing => ?_
    cases existing with
    | some existing => exact Always.done _
    | none => exact Always.fail _

theorem always_resume (request : NotificationRequest) :
    Always because (resume config request) := by
  refine (always_free hfree _ rfl).bind fun messageIds => ?_
  split
  · exact Always.done ()
  · exact always_dispatchChunks hfree _

theorem always_reconcile : Always because (reconcile config) := by
  refine (always_free hfree _ rfl).bind fun _ => (always_free hfree _ rfl).bind fun resumable => ?_
  exact Always.each (always_resume hfree) _

variable (hmessage : ∀ dispatch model messageId,
  Always because (processMessage config dispatch model messageId))

include hmessage

theorem always_processChunk (dispatch : NotificationDispatch) :
    Always because (processChunk config dispatch) := by
  refine (always_free hfree _ rfl).bind fun _ => (always_free hfree _ rfl).bind fun row => ?_
  cases row with
  | none => exact Always.done ()
  | some request =>
    refine (Always.lift _).bind fun _ => (always_free hfree _ rfl).bind fun model => ?_
    refine (Always.each (fun _ => hmessage _ _ _) _).bind fun _ => ?_
    exact always_finaliseRequest (inner_of_free hfree) _

/-- What follows the attachment of the messages of a request. -/
theorem always_dispatched {dispatch : NotificationDispatch} {attached : NotificationRequest}
    (mode : NotificationMode) :
    Always because
      (match mode with
        | .sync => do
          processChunk config dispatch
          let row ← call (.findById attached.id)
          return row.getD attached
        | .async =>
          (dispatchChunks config dispatch).handle (fun _ => .done attached) fun error => do
            let _request ← finalise attached.id
            .fail error) := by
  cases mode with
  | sync =>
    refine (always_processChunk hfree hmessage _).bind fun _ => ?_
    exact (always_free hfree _ rfl).bind fun row => Always.done _
  | async =>
    refine (always_dispatchChunks hfree _).handle (fun _ => Always.done _) fun error => ?_
    exact (always_finalise (inner_of_free hfree) _).bind fun _ => Always.fail _

theorem always_chunk : Always because (NotificationEntry.chunk.program config) :=
  (always_free hfree _ rfl).bind fun dispatch => always_processChunk hfree hmessage dispatch

end Walks

section Attempts

variable {config : NotificationConfig} {α : Type} {id : String}
variable {history : List NotificationCall} {c : NotificationCall}

/-- Whether an attempt at the message is open, as one more call leaves it. -/
def attempt (id : String) (current : Bool) : NotificationCall → Bool
  | ⟨.claim messageId, .ok (some _)⟩ => current || decide (messageId = id)
  | ⟨.updateMessage messageId _, .ok ()⟩ => current && !decide (messageId = id)
  | _ => current

/-- The thread has claimed the message, and has not recorded an outcome of it since. -/
def atWork (id : String) (history : List NotificationCall) : Bool :=
  history.foldl (attempt id) false

theorem atWork_snoc : atWork id (history ++ [c]) = attempt id (atWork id history) c := by
  simp [atWork]

/-- The message was claimed. -/
def HasClaimed (id : String) (history : List NotificationCall) : Prop :=
  ∃ claimed, (⟨.claim id, .ok (some claimed)⟩ : NotificationCall) ∈ history

/-- A claim answers with the message it was made for. -/
def NotificationCall.claimsOwn : NotificationCall → Prop
  | ⟨.claim messageId, .ok (some claimed)⟩ => claimed.id = messageId
  | _ => True

abbrev ClaimsOwn (history : List NotificationCall) : Prop :=
  ∀ call ∈ history, NotificationCall.claimsOwn call

/-- A message is recorded as sent by a thread that is at work on it, and as failed by one that has
claimed it; a worker writes nothing else. -/
def Attempted (history : List NotificationCall) : NotificationStatement → Prop
  | .updateMessage id (.markSent _ _ _) =>
    ClaimsOwn history → HasClaimed id history ∧ atWork id history = true
  | .updateMessage id (.markFailed _) => HasClaimed id history
  | .updateMessage _ .claim => False
  | .updateMessage _ .reset => False
  | _ => True

theorem HasClaimed.append (h : HasClaimed id history) {more : List NotificationCall} :
    HasClaimed id (history ++ more) :=
  h.imp fun _ hmem => List.mem_append_left more hmem

theorem ClaimsOwn.left {more : List NotificationCall} (h : ClaimsOwn (history ++ more)) :
    ClaimsOwn history := fun call hcall => h call (List.mem_append_left more hcall)

theorem free_attempted (h : List NotificationCall) (q : NotificationStatement)
    (hq : q.isFree = true) : Attempted h q := by
  cases q with
  | updateMessage messageId write => cases hq
  | _ => trivial

/-- What the claim of a message goes on with records its outcome. -/
theorem attempted_renderAndSend {dispatch : NotificationDispatch}
    {claimed : ClaimedNotificationMessage} {model : String}
    (hwork : ClaimsOwn history → HasClaimed claimed.id history ∧ atWork claimed.id history = true) :
    Accounted Attempted (fun _ _ => True) history (renderAndSend config dispatch claimed model) := by
  unfold renderAndSend
  split
  · trivial
  · refine ⟨trivial, fun answer => accounted_lift_bind fun template _ => ?_⟩
    cases template with
    | none => trivial
    | some template =>
      refine accounted_lift_bind fun provider _ => ⟨trivial, fun answer' => ?_⟩
      refine accounted_lift_bind fun providerMessageId _ => ?_
      refine ⟨fun hown => ?_, fun answer'' => accounted_lift_bind fun _ _ => ?_⟩
      · obtain ⟨hclaimed, hat⟩ := hwork hown.left.left
        refine ⟨hclaimed.append.append, ?_⟩
        rw [atWork_snoc, atWork_snoc]
        exact hat
      · exact ((always_free free_attempted _ rfl).bind fun _ => Always.done ()) _

theorem attempted_processMessage (dispatch : NotificationDispatch) (model messageId : String) :
    Always Attempted (processMessage config dispatch model messageId) := by
  intro h
  refine ⟨trivial, fun answer => accounted_lift_bind fun claimed hanswer => ?_⟩
  subst hanswer
  cases claimed with
  | none => trivial
  | some claimed =>
    have hclaimed : HasClaimed messageId (h ++ [⟨.claim messageId, .ok (some claimed)⟩]) :=
      ⟨claimed, List.mem_append_right _ (List.mem_singleton_self _)⟩
    refine @Accounted.handle _ _ _ _ _ _ _ (HasClaimed messageId) _ _ _ _
      (attempted_renderAndSend fun hown => ?_) hclaimed (fun h q a hkept _ => hkept.append)
      (fun _ _ h => h) (fun _ _ _ _ => trivial) fun h' message hkept => ?_
    · obtain rfl : claimed.id = messageId := hown _ (List.mem_append_right _ (List.mem_singleton_self _))
      refine ⟨hclaimed, ?_⟩
      rw [atWork_snoc]
      simp [attempt]
    · refine ⟨hkept, fun answer' => accounted_lift_bind fun _ _ => ?_⟩
      exact ((always_free free_attempted _ rfl).bind fun _ => Always.done ()) _

theorem attempted_fanOut {input : NotifyInput} {entry : RegisteredEntry}
    {priority : NotificationPriority} {request : NotificationRequest} :
    Always Attempted (fanOut config input entry priority request) := by
  refine (always_free free_attempted _ rfl).bind fun recipients => ?_
  split
  · exact always_free free_attempted _ rfl
  · refine (always_free free_attempted _ rfl).bind fun model => ?_
    simp only
    split
    · exact Always.fail _
    · refine (always_gates (inner_of_free free_attempted) _).bind fun messages => ?_
      refine Always.bind (fun h => ⟨trivial, fun a => Always.lift a _⟩) fun attached => ?_
      split
      · exact always_finalise (inner_of_free free_attempted) _
      · exact always_dispatched free_attempted attempted_processMessage _

theorem attempted_execute (input : NotifyInput) : Always Attempted (execute config input) := by
  refine (always_free free_attempted (.findByDedupKey _ _) rfl).bind fun existing => ?_
  cases existing with
  | some existing => exact Always.done _
  | none =>
    refine (Always.lift _).bind fun entry => ?_
    exact (always_createRequest free_attempted _).bind fun request => attempted_fanOut

theorem attempted_program (entry : NotificationEntry) :
    Always Attempted (entry.program config) := by
  cases entry with
  | send input =>
    refine (attempted_execute input).bind fun record => ?_
    exact always_free free_attempted (.respond record) rfl
  | chunk => exact always_chunk free_attempted attempted_processMessage
  | reconcile => exact always_reconcile free_attempted

end Attempts

end DddBoilerplate.Notification
