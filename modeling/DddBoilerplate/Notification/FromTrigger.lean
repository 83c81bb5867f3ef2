/- module: DddBoilerplate/Notification/FromTrigger
   generality: I
   digest: Which messages are rendered from the payload their notification was sent with. -/

import DddBoilerplate.Concurrency.Stops
import DddBoilerplate.Notification.Attempts
import DddBoilerplate.Notification.Rows
import DddBoilerplate.Notification.TemplateText

set_option autoImplicit false
set_option relaxedAutoImplicit false
set_option linter.all false

namespace DddBoilerplate.Notification

open Concurrency Store NotificationDb

section Sources

variable (config : NotificationConfig)

/-- The row a call of `SendNotificationUseCase` asks for. -/
def requestData (input : NotifyInput) (priority : NotificationPriority) : NewNotificationRequest where
  notificationType := input.notificationType
  dedupKey := input.dedupKey
  sourceEvent := input.sourceEvent
  payload := capPayload input.payload config.payloadMaxBytes
  priority := priority
  tenantId := input.tenantId
  requestedBy := input.requestedBy

/-- The dispatch names a request, with what its row says of it. -/
def NotificationDispatch.isOf (dispatch : NotificationDispatch) (request : NotificationRequest) :
    Prop :=
  dispatch.notificationRequestId = request.id ∧
    dispatch.notificationType = request.notificationType ∧ dispatch.tenantId = request.tenantId

/-- Where a dispatch comes from: messages just attached, pending ones found, or the queue. -/
inductive Dispatches (h : List NotificationCall) (dispatch : NotificationDispatch) : Prop where
  | attached {requestId : String} {mode : NotificationMode}
      {messages : List NewNotificationMessage}
      {attached : NotificationRequest × List NotificationMessage}
      (answered : ⟨.attachMessages requestId mode messages, .ok attached⟩ ∈ h)
      (own : dispatch.isOf attached.1) (ids : dispatch.messageIds ⊆ attached.2.map (·.id))
  | resumed {requests : List NotificationRequest} {request : NotificationRequest}
      {messageIds : List String} (answered : ⟨.findResumableRequests, .ok requests⟩ ∈ h)
      (listed : request ∈ requests) (pending : ⟨.messageIds request.id, .ok messageIds⟩ ∈ h)
      (own : dispatch.isOf request) (ids : dispatch.messageIds ⊆ messageIds)
  | taken (answered : ⟨.takeChunk, .ok dispatch⟩ ∈ h)

def NotificationDispatch.context (dispatch : NotificationDispatch) : NotificationContext :=
  ⟨dispatch.tenantId, dispatch.notificationRequestId, dispatch.notificationType, dispatch.traceId⟩

/-- The model of a chunk: what the handler answered on the stored payload of the request. -/
structure Modelled (h : List NotificationCall) (dispatch : NotificationDispatch)
    (request : NotificationRequest) (model : String) : Prop where
  dispatched : Dispatches h dispatch
  found : ⟨.findById dispatch.notificationRequestId, .ok (some request)⟩ ∈ h
  resolved : ⟨.resolveModel dispatch.notificationType request.payload dispatch.context,
    .ok model⟩ ∈ h

/-- What is handed to a provider: a message of the chunk, the chunk's model, the active template. -/
def HandedFor (h : List NotificationCall) (claimed : ClaimedNotificationMessage)
    (rendered : RenderedMessage) : Prop :=
  ∃ dispatch request model messageId template address, Modelled h dispatch request model ∧
    messageId ∈ dispatch.messageIds ∧ ⟨.claim messageId, .ok (some claimed)⟩ ∈ h ∧
      ⟨.resolveActive claimed.tenantId dispatch.notificationType claimed.channel
        (claimed.locale.getD "en-US"), .ok (some template)⟩ ∈ h ∧
          rendered = ⟨address, (config.render template model).1, (config.render template model).2⟩

/-- What the statements that concern the origin of a message are made because of. -/
def Sourced (entry : NotificationEntry) (h : List NotificationCall) : NotificationStatement → Prop
  | .findByDedupKey tenantId _ => ∃ input, entry = .send input ∧ tenantId = input.tenantId
  | .create data => ∃ input priority, entry = .send input ∧ data = requestData config input priority
  | .enqueue job => Dispatches h job.dispatch
  | .send claimed rendered => HandedFor config h claimed rendered
  | _ => True

variable {config}
variable {entry : NotificationEntry} {h h' : List NotificationCall}
variable {dispatch : NotificationDispatch} {request : NotificationRequest} {model : String}

theorem Dispatches.mono (hd : Dispatches h dispatch) (hsub : h ⊆ h') : Dispatches h' dispatch := by
  cases hd with
  | attached answered own ids => exact .attached (hsub answered) own ids
  | resumed answered listed pending own ids =>
    exact .resumed (hsub answered) listed (hsub pending) own ids
  | taken answered => exact .taken (hsub answered)

theorem Modelled.mono (hm : Modelled h dispatch request model) (hsub : h ⊆ h') :
    Modelled h' dispatch request model :=
  ⟨hm.dispatched.mono hsub, hsub hm.found, hsub hm.resolved⟩

theorem sourced_inner (h : List NotificationCall) (q : NotificationStatement)
    (hq : q.isInner = true) : Sourced config entry h q := by
  cases q with
  | findByDedupKey | create | enqueue | send => cases hq
  | _ => trivial

theorem mem_snoc {α : Type} {l : List α} {a : α} : a ∈ l ++ [a] :=
  List.mem_append_right l (List.mem_singleton_self a)

/-- A claimed message is handed over with the model of its chunk. -/
theorem sourced_renderAndSend {claimed : ClaimedNotificationMessage} {messageId : String}
    (hmodel : Modelled h dispatch request model) (hid : messageId ∈ dispatch.messageIds)
    (hclaimed : ⟨.claim messageId, .ok (some claimed)⟩ ∈ h) :
    Accounted (Sourced config entry) (fun _ _ => True) h
      (renderAndSend config dispatch claimed model) := by
  unfold renderAndSend
  split
  · trivial
  · rename_i address _
    refine ⟨trivial, fun answer => accounted_lift_bind fun template hanswer => ?_⟩
    subst hanswer
    cases template with
    | none => trivial
    | some template =>
      refine accounted_lift_bind fun provider _ => ⟨?_, fun answer => ?_⟩
      · exact ⟨dispatch, request, model, messageId, template, _,
          hmodel.mono (List.subset_append_left _ _), hid, List.mem_append_left _ hclaimed, mem_snoc,
          rfl⟩
      · refine accounted_lift_bind fun _ _ => ⟨trivial, fun answer' => ?_⟩
        refine accounted_lift_bind fun _ _ => ?_
        exact ((always_inner sourced_inner _ rfl).bind fun _ => Always.done ()) _

theorem sourced_processMessage {messageId : String} (hmodel : Modelled h dispatch request model)
    (hid : messageId ∈ dispatch.messageIds) :
    Accounted (Sourced config entry) (fun h' _ => Modelled h' dispatch request model) h
      (processMessage config dispatch model messageId) := by
  have hkept : ∀ h q a, Modelled h dispatch request model → Sourced config entry h q →
      Modelled (h ++ [⟨q, a⟩]) dispatch request model :=
    fun h q a hm _ => hm.mono (List.subset_append_left _ _)
  suffices hmade : Accounted (Sourced config entry) (fun _ _ => True) h
      (processMessage config dispatch model messageId) from
    (hmade.keeping hmodel hkept).mono (fun _ _ hq => hq) fun _ _ hpost => hpost.1
  refine ⟨trivial, fun answer => accounted_lift_bind fun claimed hanswer => ?_⟩
  subst hanswer
  cases claimed with
  | none => trivial
  | some claimed =>
    refine @Accounted.handle _ _ _ _ _ _ _ (fun _ => True) _ _ _ _
      (sourced_renderAndSend (hmodel.mono (List.subset_append_left _ _)) hid mem_snoc) trivial
      (fun _ _ _ _ _ => trivial) (fun _ _ hq => hq) (fun _ _ _ _ => trivial) fun h' message _ => ?_
    refine ⟨trivial, fun answer => accounted_lift_bind fun _ _ => ?_⟩
    exact ((always_inner sourced_inner _ rfl).bind fun _ => Always.done ()) _

/-- A chunk is processed with the model of its request. -/
theorem sourced_processChunk (hd : Dispatches h dispatch) :
    Accounted (Sourced config entry) (fun _ _ => True) h (processChunk config dispatch) := by
  refine ⟨trivial, fun answer => accounted_lift_bind fun _ _ => ?_⟩
  refine ⟨trivial, fun answer' => accounted_lift_bind fun row hrow => ?_⟩
  subst hrow
  cases row with
  | none => trivial
  | some request =>
    refine accounted_lift_bind fun _ _ => ⟨trivial, fun answer'' => ?_⟩
    refine accounted_lift_bind fun model hmodel => ?_
    subst hmodel
    have hmodelled : Modelled (h ++ [⟨.markRunning dispatch.notificationRequestId, answer⟩] ++
        [⟨.findById dispatch.notificationRequestId, .ok (some request)⟩] ++
        [⟨.resolveModel dispatch.notificationType request.payload dispatch.context, .ok model⟩])
        dispatch request model :=
      ⟨hd.mono fun call hcall => List.mem_append_left _ (List.mem_append_left _
        (List.mem_append_left _ hcall)), List.mem_append_left _ mem_snoc, mem_snoc⟩
    refine Accounted.bind (?_ : Accounted (Sourced config entry)
      (fun h' _ => Modelled h' dispatch request model) _
        (Program.each (processMessage config dispatch model) dispatch.messageIds)) fun h' _ _ => ?_
    · exact Accounted.each hmodelled fun messageId hid h' hkept => sourced_processMessage hkept hid
    · exact always_finaliseRequest sourced_inner _ _

/-- A chunk of a dispatch is one of the dispatch's own. -/
theorem Dispatches.chunk (hd : Dispatches h dispatch) {ids : List String}
    (hids : ids ⊆ dispatch.messageIds) : Dispatches h { dispatch with messageIds := ids } ∨
      ⟨.takeChunk, .ok dispatch⟩ ∈ h := by
  cases hd with
  | attached answered own hsub => exact .inl (.attached answered own fun id hid => hsub (hids hid))
  | resumed answered listed pending own hsub =>
    exact .inl (.resumed answered listed pending own fun id hid => hsub (hids hid))
  | taken answered => exact .inr answered

theorem mem_partitionFrom {α : Type} {size rounds : Nat} {items chunk : List α}
    (hchunk : chunk ∈ partitionFrom size rounds items) : chunk ⊆ items := by
  induction rounds generalizing items with
  | zero => cases hchunk
  | succ rounds ih =>
    cases items with
    | nil => cases hchunk
    | cons a items =>
      rcases List.mem_cons.mp hchunk with rfl | hrest
      · exact List.take_subset _ _
      · exact fun b hb => List.mem_of_mem_drop (ih hrest hb)

/-- The chunks of messages attached or found are enqueued. -/
theorem sourced_dispatchChunks
    (hd : ∀ ids, ids ⊆ dispatch.messageIds → Dispatches h { dispatch with messageIds := ids }) :
    Accounted (Sourced config entry) (fun _ _ => True) h (dispatchChunks config dispatch) := by
  have hkept : ∀ h' h'', (∀ ids, ids ⊆ dispatch.messageIds →
      Dispatches h' { dispatch with messageIds := ids }) → ∀ ids, ids ⊆ dispatch.messageIds →
        Dispatches (h' ++ h'') { dispatch with messageIds := ids } :=
    fun h' h'' hd ids hids => (hd ids hids).mono (List.subset_append_left _ _)
  have heach : Accounted (Sourced config entry) (fun h' _ => ∀ ids, ids ⊆ dispatch.messageIds →
      Dispatches h' { dispatch with messageIds := ids }) h (dispatchChunks config dispatch) := by
    refine Accounted.each hd fun chunk hchunk h' hd' => ?_
    have hids : chunk.1 ⊆ dispatch.messageIds :=
      mem_partitionFrom (List.fst_mem_of_mem_zipIdx hchunk)
    refine ⟨hd' chunk.1 hids, fun answer => ?_⟩
    cases answer with
    | ok u => exact hkept _ _ hd'
    | error e => trivial
  exact heach.mono (fun _ _ hq => hq) fun _ _ _ => trivial

theorem sourced_resume {requests : List NotificationRequest} (hrequest : request ∈ requests)
    (hlisted : ⟨.findResumableRequests, .ok requests⟩ ∈ h) :
    Accounted (Sourced config entry) (fun _ _ => True) h (resume config request) := by
  refine ⟨trivial, fun answer => accounted_lift_bind fun messageIds hanswer => ?_⟩
  subst hanswer
  split
  · trivial
  · refine sourced_dispatchChunks fun ids hids => ?_
    exact .resumed (List.mem_append_left _ hlisted) hrequest mem_snoc ⟨rfl, rfl, rfl⟩ hids

theorem sourced_reconcile :
    Accounted (Sourced config entry) (fun _ _ => True) h (reconcile config) := by
  refine ⟨trivial, fun answer => accounted_lift_bind fun _ _ => ?_⟩
  refine ⟨trivial, fun answer' => accounted_lift_bind fun requests hrequests => ?_⟩
  subst hrequests
  have hkept : ∀ h q a, ⟨.findResumableRequests, .ok requests⟩ ∈ h → Sourced config entry h q →
      (⟨.findResumableRequests, .ok requests⟩ : NotificationCall) ∈ h ++ [⟨q, a⟩] :=
    fun h q a hmem _ => List.mem_append_left _ hmem
  suffices heach : Accounted (Sourced config entry)
      (fun h _ => ⟨.findResumableRequests, .ok requests⟩ ∈ h) _
        (Program.each (resume config) requests) from
    heach.mono (fun _ _ hq => hq) fun _ _ _ => trivial
  refine Accounted.each mem_snoc fun request hrequest h' hlisted => ?_
  exact ((sourced_resume hrequest hlisted).keeping hlisted hkept).mono (fun _ _ hq => hq)
    fun _ _ hpost => hpost.1

/-- What follows the attachment of the messages of a request. -/
theorem sourced_dispatched {attached : NotificationRequest} (mode : NotificationMode)
    (hd : ∀ ids, ids ⊆ dispatch.messageIds → Dispatches h { dispatch with messageIds := ids }) :
    Accounted (Sourced config entry) (fun _ _ => True) h
      (match mode with
        | .sync => do
          processChunk config dispatch
          let row ← call (.findById attached.id)
          return row.getD attached
        | .async =>
          (dispatchChunks config dispatch).handle (fun _ => .done attached) fun error => do
            let _request ← finalise attached.id
            .fail error) := by
  cases mode with
  | sync =>
    refine (sourced_processChunk (hd dispatch.messageIds (List.Subset.refl _))).bind fun h' _ _ => ?_
    exact ((always_inner sourced_inner _ rfl).bind fun row => Always.done _) _
  | async =>
    refine @Accounted.handle _ _ _ _ _ _ _ (fun _ => True) _ _ _ _ (sourced_dispatchChunks hd)
      trivial (fun _ _ _ _ _ => trivial) (fun _ _ hq => hq) (fun _ _ _ _ => trivial)
      fun h' error _ => ?_
    exact ((always_finalise sourced_inner _).bind fun _ => Always.fail _) _

theorem sourced_fanOut {input : NotifyInput} {registered : RegisteredEntry}
    {priority : NotificationPriority} :
    Accounted (Sourced config entry) (fun _ _ => True) h
      (fanOut config input registered priority request) := by
  refine ⟨trivial, fun answer => accounted_lift_bind fun recipients _ => ?_⟩
  split
  · exact always_inner sourced_inner _ rfl _
  · refine ⟨trivial, fun answer' => accounted_lift_bind fun _ _ => ?_⟩
    simp only
    split
    · trivial
    · refine (always_gates sourced_inner _ _).bind fun h' messages _ => ?_
      refine ⟨trivial, fun answer'' => accounted_lift_bind fun attached hattached => ?_⟩
      subst hattached
      by_cases hpending : (attached.2.filter (·.status = .pending)).map (·.id) = []
      · rw [if_pos hpending]
        exact always_finalise sourced_inner _ _
      · rw [if_neg hpending]
        refine sourced_dispatched _ fun ids hids => .attached mem_snoc ⟨rfl, rfl, rfl⟩ ?_
        exact fun id hid => List.map_subset _ (List.filter_subset_self _) (hids hid)

/-- Whatever the entry, its statements are made because of what they concern. -/
theorem program_sourced (entry : NotificationEntry) :
    Accounted (Sourced config entry) (fun _ _ => True) [] (entry.program config) := by
  cases entry with
  | send input =>
    refine (?_ : Accounted (Sourced config (.send input)) (fun _ _ => True) []
      (execute config input)).bind fun h record _ =>
        ⟨trivial, fun answer => Always.lift answer _⟩
    refine ⟨⟨input, rfl, rfl⟩, fun answer => accounted_lift_bind fun existing _ => ?_⟩
    cases existing with
    | some existing => trivial
    | none =>
      refine accounted_lift_bind fun registered _ => ?_
      refine Accounted.bind (?_ : Accounted (Sourced config (.send input)) (fun _ _ => True) _
        (createRequest (requestData config input _))) fun h request _ => sourced_fanOut
      refine ⟨⟨input, _, rfl, rfl⟩, fun answer' => accounted_lift_bind fun row _ => ?_⟩
      cases row with
      | some created => trivial
      | none =>
        refine ⟨⟨input, rfl, rfl⟩, fun answer'' => accounted_lift_bind fun existing _ => ?_⟩
        cases existing with
        | some existing => trivial
        | none => trivial
  | chunk =>
    refine ⟨trivial, fun answer => accounted_lift_bind fun dispatch hanswer => ?_⟩
    subst hanswer
    exact sourced_processChunk (.taken mem_snoc)
  | reconcile => exact sourced_reconcile

end Sources

section Rows

variable {db db' : NotificationDb} {choice : NotificationChoice} {dispatch : NotificationDispatch}

/-- What a request's row was created from; it stays. -/
def NotificationDb.dataOf (db : NotificationDb) (requestId : String) :
    Option NewNotificationRequest :=
  (db.requests.get? requestId).map (·.toNewNotificationRequest)

/-- The request a message belongs to, and its tenant. -/
def NotificationDb.holderOf (db : NotificationDb) (messageId : String) :
    Option (String × Option String) :=
  (db.messages.get? messageId).map fun row => (row.notificationRequestId, row.tenantId)

/-- A dispatch is of a request there is, and its messages are that request's. -/
structure Owned (db : NotificationDb) (dispatch : NotificationDispatch) : Prop where
  data : ∃ data, db.dataOf dispatch.notificationRequestId = some data ∧
    data.notificationType = dispatch.notificationType ∧ data.tenantId = dispatch.tenantId
  messages : ∀ id ∈ dispatch.messageIds, ∃ tenantId,
    db.holderOf id = some (dispatch.notificationRequestId, tenantId)

/-- What a call was answered is what is stored. -/
def Consistent (db : NotificationDb) : NotificationCall → Prop
  | ⟨.create data, .ok (some row)⟩ => db.dataOf row.id = some data
  | ⟨.findByDedupKey tenantId _, .ok (some row)⟩ =>
    ∃ data, db.dataOf row.id = some data ∧ data.tenantId = tenantId
  | ⟨.attachMessages _ _ _, .ok attached⟩ =>
    db.dataOf attached.1.id = some attached.1.toNewNotificationRequest ∧
      ∀ message ∈ attached.2, ∃ tenantId, db.holderOf message.id = some (attached.1.id, tenantId)
  | ⟨.findById requestId, .ok (some row)⟩ =>
    db.dataOf requestId = some row.toNewNotificationRequest
  | ⟨.findResumableRequests, .ok rows⟩ =>
    ∀ row ∈ rows, db.dataOf row.id = some row.toNewNotificationRequest
  | ⟨.messageIds requestId, .ok ids⟩ =>
    ∀ id ∈ ids, ∃ tenantId, db.holderOf id = some (requestId, tenantId)
  | ⟨.takeChunk, .ok dispatch⟩ => Owned db dispatch
  | ⟨.claim messageId, .ok (some claimed)⟩ =>
    db.holderOf messageId = some (claimed.notificationRequestId, claimed.tenantId)
  | _ => True

/-- What is stored stays. -/
structure Grows (db db' : NotificationDb) : Prop where
  data : ∀ id data, db.dataOf id = some data → db'.dataOf id = some data
  holder : ∀ id holder, db.holderOf id = some holder → db'.holderOf id = some holder

theorem Owned.grows (h : Owned db dispatch) (hgrows : Grows db db') : Owned db' dispatch where
  data := by
    obtain ⟨data, hdata, hrest⟩ := h.data
    exact ⟨data, hgrows.data _ _ hdata, hrest⟩
  messages id hid := (h.messages id hid).imp fun _ hholder => hgrows.holder _ _ hholder

theorem Consistent.grows {call : NotificationCall} (h : Consistent db call)
    (hgrows : Grows db db') : Consistent db' call := by
  unfold Consistent at h ⊢
  split at h
  · exact hgrows.data _ _ h
  · obtain ⟨data, hdata, htenant⟩ := h
    exact ⟨data, hgrows.data _ _ hdata, htenant⟩
  · exact ⟨hgrows.data _ _ h.1, fun message hmessage =>
      (h.2 message hmessage).imp fun _ hholder => hgrows.holder _ _ hholder⟩
  · exact hgrows.data _ _ h
  · exact fun row hrow => hgrows.data _ _ (h row hrow)
  · exact fun id hid => (h id hid).imp fun _ hholder => hgrows.holder _ _ hholder
  · exact h.grows hgrows
  · exact hgrows.holder _ _ h
  · trivial

theorem holder_change (write : MessageWrite) (row : NotificationMessage) :
    (write.change row).notificationRequestId = row.notificationRequestId ∧
      (write.change row).tenantId = row.tenantId := by
  cases write with
  | claim | markSent | markFailed | reset => exact ⟨rfl, rfl⟩

theorem grows_of_execute {q : NotificationStatement} {a : Except String q.Result}
    (h : q.execute choice db = some (a, db')) : Grows db db' where
  data id data hdata := by
    obtain ⟨request, hrequest, rfl⟩ := Option.map_eq_some_iff.mp hdata
    obtain ⟨request', hrequest', heq⟩ := data_of_execute h hrequest
    rw [NotificationDb.dataOf, hrequest', Option.map_some, heq]
  holder id holder hholder := by
    obtain ⟨row, hrow, rfl⟩ := Option.map_eq_some_iff.mp hholder
    obtain ⟨row', hrow', hcases⟩ := row_of_execute h hrow
    rw [NotificationDb.holderOf, hrow', Option.map_some]
    rcases hcases with rfl | hrewrites
    · rfl
    · cases hrewrites with
      | claimed hpending => rfl
      | written write => rw [(holder_change write row).1, (holder_change write row).2]
      | reset count hrendering => rfl

theorem holderOf_of_mem {row : NotificationMessage} {requestId : String}
    (h : row ∈ db.messagesOf requestId) : ∃ tenantId, db.holderOf row.id = some (requestId, tenantId) := by
  obtain ⟨hmem, hrequest⟩ := List.mem_filter.mp h
  refine ⟨row.tenantId, ?_⟩
  rw [NotificationDb.holderOf, Table.get?_of_mem hmem, Option.map_some, of_decide_eq_true hrequest]

/-- An attachment answers with the request's row and the messages of that request. -/
theorem attach_answered {requestId : String} {mode : NotificationMode}
    {messages : List NewNotificationMessage} {ids : List String}
    {attached : NotificationRequest × List NotificationMessage}
    (h : db.attach requestId mode messages ids = (.ok attached, db')) :
    db'.dataOf attached.1.id = some attached.1.toNewNotificationRequest ∧
      ∀ message ∈ attached.2, ∃ tenantId,
        db'.holderOf message.id = some (attached.1.id, tenantId) := by
  have hrequests := @requests_attach db requestId mode messages ids requestId
  rw [h] at hrequests
  unfold NotificationDb.attach at h
  cases hrequest : db.requests.get? requestId with
  | none =>
    rw [hrequest] at h
    cases h
  | some request =>
    rw [hrequest] at h
    simp only at h
    split at h
    · cases h
    · rename_i inserted hinserted
      cases h
      have hid : request.id = requestId := Table.key_of_get? hrequest
      refine ⟨?_, fun message hmessage => ?_⟩
      · change NotificationDb.dataOf _ request.id = _
        rw [NotificationDb.dataOf, hid]
        rcases hrequests with hsame | ⟨_, hwritten⟩
        · rw [hsame, hrequest]
          rfl
        · rw [hwritten, hrequest]
          rfl
      · obtain ⟨tenantId, hholder⟩ := holderOf_of_mem hmessage
        refine ⟨tenantId, hholder.trans ?_⟩
        rw [← hid]
        rfl

/-- What a statement answers of a request or a message is what is stored by then. -/
theorem consistent_of_execute {q : NotificationStatement} {a : Except String q.Result}
    (h : q.execute choice db = some (a, db'))
    (hqueue : ∀ job ∈ db.queue, Owned db job.dispatch) : Consistent db' ⟨q, a⟩ := by
  cases a with
  | error e => cases q <;> trivial
  | ok answer =>
    cases q with
    | create data =>
      cases answer with
      | none => trivial
      | some row =>
        obtain ⟨hrow, _⟩ := create_answered h
        change db'.dataOf row.id = some data
        rw [NotificationDb.dataOf, hrow, Option.map_some]
        cases choice with
        | settled =>
          dsimp only [NotificationStatement.execute] at h
          split at h <;> cases h
        | created id =>
          obtain ⟨inserted, _, heq⟩ := Option.map_eq_some_iff.mp h
          cases heq
          rfl
        | _ => cases h
    | findByDedupKey tenantId dedupKey =>
      cases answer with
      | none => trivial
      | some row =>
        obtain ⟨hrow, htenant⟩ := find_answered h
        refine ⟨row.toNewNotificationRequest, ?_, htenant⟩
        rw [NotificationDb.dataOf, hrow, Option.map_some]
    | attachMessages requestId mode messages =>
      cases choice with
      | issued ids =>
        dsimp only [NotificationStatement.execute] at h
        split at h
        · exact attach_answered (Option.some.inj h)
        · cases h
      | _ => cases h
    | findById requestId =>
      cases choice with
      | settled =>
        obtain ⟨hanswer, rfl⟩ := Prod.mk.inj (Option.some.inj h)
        cases answer with
        | none => trivial
        | some row =>
          change db.dataOf requestId = _
          rw [NotificationDb.dataOf, Except.ok.inj hanswer, Option.map_some]
      | _ => cases h
    | findResumableRequests =>
      cases choice with
      | settled =>
        obtain ⟨hanswer, rfl⟩ := Prod.mk.inj (Option.some.inj h)
        obtain rfl := Except.ok.inj hanswer
        intro row hrow
        have hmem := List.mem_of_mem_filter (List.mem_of_mem_take hrow)
        rw [NotificationDb.dataOf, Table.get?_of_mem hmem, Option.map_some]
      | _ => cases h
    | messageIds requestId =>
      cases choice with
      | settled =>
        obtain ⟨hanswer, rfl⟩ := Prod.mk.inj (Option.some.inj h)
        obtain rfl := Except.ok.inj hanswer
        intro id hid
        obtain ⟨row, hrow, rfl⟩ := List.mem_map.mp hid
        exact holderOf_of_mem (List.mem_of_mem_filter hrow)
      | _ => cases h
    | takeChunk =>
      cases choice with
      | taken index kept =>
        obtain ⟨job, hjob, heq⟩ := Option.map_eq_some_iff.mp h
        have howned := hqueue job (List.mem_of_getElem? hjob)
        have hgrows := grows_of_execute h
        cases heq
        exact howned.grows hgrows
      | _ => cases h
    | claim messageId =>
      cases answer with
      | none => trivial
      | some claimed =>
        obtain ⟨row, hrow, _, rfl, hrow'⟩ := claim_answered h
        change db'.holderOf messageId = _
        rw [NotificationDb.holderOf, hrow', Option.map_some]
        rfl
    | _ => trivial

theorem queue_attach {requestId : String} {mode : NotificationMode}
    {messages : List NewNotificationMessage} {ids : List String} :
    (db.attach requestId mode messages ids).2.queue = db.queue := by
  unfold NotificationDb.attach
  split
  · rfl
  · simp only
    split
    · rfl
    · rename_i inserted hinserted
      unfold NotificationDb.insertMessages at hinserted
      split at hinserted
      · split at hinserted
        · cases hinserted
          rfl
        · cases hinserted
      · cases hinserted

/-- Only what is enqueued comes into the queue. -/
theorem queue_of_execute {q : NotificationStatement} {a : Except String q.Result}
    (h : q.execute choice db = some (a, db')) {job : ChunkJob} (hjob : job ∈ db'.queue) :
    job ∈ db.queue ∨ q = .enqueue job := by
  have hpush : ∀ new : ChunkJob, job ∈ (db.push new).queue →
      job ∈ db.queue ∨ NotificationStatement.enqueue new = .enqueue job := by
    intro new hmem
    unfold NotificationDb.push at hmem
    split at hmem
    · exact .inl hmem
    · exact (List.mem_append.mp hmem).imp_right fun hlast => by rw [List.mem_singleton.mp hlast]
  cases q with
  | enqueue new =>
    cases choice with
    | settled =>
      cases h
      exact hpush new hjob
    | lost message =>
      cases h
      exact hpush new hjob
    | refused message =>
      cases h
      exact .inl hjob
    | _ => cases h
  | takeChunk =>
    refine .inl ?_
    cases choice with
    | taken index kept =>
      obtain ⟨taken, _, heq⟩ := Option.map_eq_some_iff.mp h
      cases kept with
      | true =>
        cases heq
        exact hjob
      | false =>
        cases heq
        exact List.mem_of_mem_eraseIdx hjob
    | refused message =>
      cases h
      exact hjob
    | _ => cases h
  | create data =>
    refine .inl ?_
    cases choice with
    | created id =>
      obtain ⟨inserted, hinserted, heq⟩ := Option.map_eq_some_iff.mp h
      cases heq
      exact (NotificationDb.insertRequest_eq_some hinserted).2.2 ▸ hjob
    | settled =>
      dsimp only [NotificationStatement.execute] at h
      split at h
      · cases h
        exact hjob
      · cases h
    | refused message =>
      cases h
      exact hjob
    | _ => cases h
  | attachMessages requestId mode messages =>
    refine .inl ?_
    cases choice with
    | issued ids =>
      dsimp only [NotificationStatement.execute] at h
      split at h
      · obtain rfl : (db.attach requestId mode messages ids).2 = db' :=
          congrArg Prod.snd (Option.some.inj h)
        exact queue_attach ▸ hjob
      · cases h
    | refused message =>
      cases h
      exact hjob
    | _ => cases h
  | findByDedupKey tenantId dedupKey =>
    refine .inl ?_
    cases choice with
    | found id =>
      obtain ⟨row, _, heq⟩ := Option.map_eq_some_iff.mp h
      cases heq
      exact hjob
    | settled =>
      dsimp only [NotificationStatement.execute] at h
      split at h
      · cases h
      · cases h
        exact hjob
    | refused message =>
      cases h
      exact hjob
    | _ => cases h
  | update requestId write =>
    refine .inl ?_
    cases choice with
    | settled =>
      dsimp only [NotificationStatement.execute] at h
      split at h <;> cases h <;> exact hjob
    | refused message =>
      cases h
      exact hjob
    | _ => cases h
  | updateMessage messageId write =>
    refine .inl ?_
    cases choice with
    | settled =>
      dsimp only [NotificationStatement.execute] at h
      split at h <;> cases h <;> exact hjob
    | refused message =>
      cases h
      exact hjob
    | _ => cases h
  | _ => cases choice <;> cases h <;> exact .inl hjob

/-- A request there was not before is the one that was created. -/
theorem origin_of_execute {q : NotificationStatement} {a : Except String q.Result}
    (h : q.execute choice db = some (a, db')) {id : String} {data : NewNotificationRequest}
    (hdata : db'.dataOf id = some data) :
    db.dataOf id = some data ∨ ∃ row, row.id = id ∧
      (⟨q, a⟩ : NotificationCall) = ⟨.create data, .ok (some row)⟩ := by
  cases hbefore : db.dataOf id with
  | some data' =>
    have hsame := (grows_of_execute h).data id data' hbefore
    rw [hdata] at hsame
    exact .inl hsame.symm
  | none =>
    have hfree : db.requests.get? id = none := Option.map_eq_none_iff.mp hbefore
    obtain ⟨request, hrequest, rfl⟩ := Option.map_eq_some_iff.mp hdata
    rcases requests_of_execute h with hsame | ⟨data, id', rfl, hfree', hrows⟩ |
      ⟨id', mode, messages, ids, rfl, rfl⟩ | ⟨id', write, rfl, rfl⟩ | ⟨id', rfl, rfl⟩
    · rw [hsame, hfree] at hrequest
      cases hrequest
    · refine .inr ?_
      cases choice with
      | created id'' =>
        obtain ⟨inserted, hinserted, heq⟩ := Option.map_eq_some_iff.mp h
        cases heq
        obtain ⟨hunused, hinsert⟩ := requests_insertRequest hinserted
        rw [hinsert, @Table.get?_insert _ _ _ NotificationRequest.id _ (created id'' data) hunused]
          at hrequest
        split at hrequest
        · rename_i hid
          cases hrequest
          exact ⟨created id'' data, hid, rfl⟩
        · rw [hfree] at hrequest
          cases hrequest
      | settled =>
        dsimp only [NotificationStatement.execute] at h
        split at h
        · cases h
          rw [hfree] at hrequest
          cases hrequest
        · cases h
      | refused message =>
        cases h
        rw [hfree] at hrequest
        cases hrequest
      | _ => cases h
    · rcases @requests_attach db id' mode messages ids id with hsame | ⟨_, hwritten⟩
      · rw [hsame, hfree] at hrequest
        cases hrequest
      · rw [hwritten, hfree] at hrequest
        cases hrequest
    · rw [get?_writeRequests, hfree] at hrequest
      cases hrequest
    · rw [get?_writeRequests, hfree] at hrequest
      cases hrequest

/-- A message has the tenant of its request. -/
theorem tenant_of_execute {q : NotificationStatement} {a : Except String q.Result}
    (h : q.execute choice db = some (a, db'))
    (hbefore : ∀ id requestId tenantId, db.holderOf id = some (requestId, tenantId) →
      ∃ data, db.dataOf requestId = some data ∧ data.tenantId = tenantId)
    {id requestId : String} {tenantId : Option String}
    (hholder : db'.holderOf id = some (requestId, tenantId)) :
    ∃ data, db'.dataOf requestId = some data ∧ data.tenantId = tenantId := by
  have hgrows := grows_of_execute h
  have hstored : ∀ holder, db.holderOf id = some holder → holder = (requestId, tenantId) := by
    intro holder hold
    have hnew := hgrows.holder id holder hold
    rw [hholder] at hnew
    exact (Option.some.inj hnew).symm
  cases hmessage : db.messages.get? id with
  | some row =>
    have hold : db.holderOf id = some (row.notificationRequestId, row.tenantId) := by
      rw [NotificationDb.holderOf, hmessage, Option.map_some]
    rw [hstored _ hold] at hold
    obtain ⟨data, hdata, htenant⟩ := hbefore id requestId tenantId hold
    exact ⟨data, hgrows.data _ _ hdata, htenant⟩
  | none =>
    obtain ⟨row, hrow, heq⟩ := Option.map_eq_some_iff.mp hholder
    obtain ⟨requestId', mode, messages, request, rfl, hrequest, hattached⟩ :=
      attached_of_execute h hmessage hrow
    obtain ⟨hid, htenant⟩ := Prod.mk.inj heq
    refine ⟨request.toNewNotificationRequest, hgrows.data _ _ ?_, ?_⟩
    · rw [← hid, hattached.request, NotificationDb.dataOf, hrequest, Option.map_some]
    · rw [← htenant, hattached.tenant]

end Rows

section Ledger

variable {config : NotificationConfig} {db : NotificationDb}
variable {trace : List (Label (notificationSystem config))}

/-- Every request was created by a call that is on record, a message has the tenant of its request,
and all that was answered or is enqueued agrees with what is stored. -/
structure Ledger (trace : List (Label (notificationSystem config))) (db : NotificationDb) :
    Prop where
  origin : ∀ id data, db.dataOf id = some data → ∃ (i : Nat) (input : NotifyInput)
    (priority : NotificationPriority) (row : NotificationRequest),
      (entries trace)[i]? = some (.send input) ∧ row.id = id ∧
        data = requestData config input priority ∧
          (⟨.create data, .ok (some row)⟩ : NotificationCall) ∈ calls i trace
  tenants : ∀ id requestId tenantId, db.holderOf id = some (requestId, tenantId) →
    ∃ data, db.dataOf requestId = some data ∧ data.tenantId = tenantId
  queued : ∀ job ∈ db.queue, Owned db job.dispatch
  told : ∀ i, ∀ call ∈ calls i trace, Consistent db call

/-- A dispatch that a thread has in hand is of the request it names. -/
theorem owned_of_dispatches {h : List NotificationCall} {dispatch : NotificationDispatch}
    (hd : Dispatches h dispatch) (htold : ∀ call ∈ h, Consistent db call) : Owned db dispatch := by
  cases hd with
  | @attached requestId mode messages attached answered own ids =>
    obtain ⟨hdata, hmessages⟩ : db.dataOf attached.1.id = some attached.1.toNewNotificationRequest ∧
        ∀ message ∈ attached.2, ∃ tenantId, db.holderOf message.id = some (attached.1.id, tenantId) :=
      htold _ answered
    obtain ⟨hid, htype, htenant⟩ := own
    refine ⟨⟨_, hid ▸ hdata, htype.symm, htenant.symm⟩, fun id hmem => ?_⟩
    obtain ⟨message, hmessage, rfl⟩ := List.mem_map.mp (ids hmem)
    rw [hid]
    exact hmessages message hmessage
  | @resumed requests request messageIds answered listed pending own ids =>
    have hrows : ∀ row ∈ requests, db.dataOf row.id = some row.toNewNotificationRequest :=
      htold _ answered
    have hmessages : ∀ id ∈ messageIds, ∃ tenantId, db.holderOf id = some (request.id, tenantId) :=
      htold _ pending
    obtain ⟨hid, htype, htenant⟩ := own
    refine ⟨⟨_, hid ▸ hrows request listed, htype.symm, htenant.symm⟩, fun id hmem => ?_⟩
    rw [hid]
    exact hmessages id (ids hmem)
  | taken answered => exact htold _ answered

section Runs

variable {Q R : Pool (notificationSystem config)}
variable {ok : Pool (notificationSystem config) → Label (notificationSystem config) → Prop}

/-- The ledger is kept by whatever is served. -/
theorem Ledger.served {i : Nat} {q : NotificationStatement} {a : Except String q.Result}
    {f : Front NotificationStatement.interface} {entry : NotificationEntry}
    (h : Ledger trace Q.store) (hentry : (entries trace)[i]? = some entry)
    (hsourced : Sourced config entry (calls i trace) q)
    (hserved : ∃ choice, q.execute choice Q.store = some (a, R.store)) :
    Ledger (trace ++ [(.served i q a f : Label (notificationSystem config))]) R.store := by
  obtain ⟨choice, hexecute⟩ := hserved
  have hgrows := grows_of_execute hexecute
  refine ⟨fun id data hdata => ?_, fun id requestId tenantId hholder => ?_, fun job hjob => ?_,
    fun j call hcall => ?_⟩
  · rcases origin_of_execute hexecute hdata with hbefore | ⟨row, hid, hcall⟩
    · obtain ⟨j, input, priority, row, hof, hid, hmade, hcreated⟩ := h.origin id data hbefore
      exact ⟨j, input, priority, row, entry_append hof, hid, hmade, mem_calls_append hcreated⟩
    · cases hcall
      obtain ⟨input, priority, rfl, hmade⟩ := hsourced
      refine ⟨i, input, priority, row, entry_append hentry, hid, hmade, ?_⟩
      rw [calls_served_self]
      exact mem_snoc
  · exact tenant_of_execute hexecute h.tenants hholder
  · rcases queue_of_execute hexecute hjob with hbefore | rfl
    · exact (h.queued job hbefore).grows hgrows
    · exact (owned_of_dispatches hsourced (h.told i)).grows hgrows
  · by_cases hj : i = j
    · subst hj
      rw [calls_served_self] at hcall
      rcases List.mem_append.mp hcall with hcall | hcall
      · exact (h.told i call hcall).grows hgrows
      · rw [List.mem_singleton.mp hcall]
        exact consistent_of_execute hexecute h.queued
    · rw [calls_served_other hj] at hcall
      exact (h.told j call hcall).grows hgrows

/-- Nor does anything change where nothing is served. -/
theorem Ledger.unserved {l : Label (notificationSystem config)} (h : Ledger trace Q.store)
    (hcalls : ∀ i, calls i (trace ++ [l]) = calls i trace) : Ledger (trace ++ [l]) Q.store where
  origin id data hdata := by
    obtain ⟨j, input, priority, row, hof, hid, hmade, hcreated⟩ := h.origin id data hdata
    exact ⟨j, input, priority, row, entry_append hof, hid, hmade, mem_calls_append hcreated⟩
  tenants := h.tenants
  queued := h.queued
  told i call hcall := h.told i call (hcalls i ▸ hcall)

theorem ledger_of_run
    (hrun : Run ok (⟨NotificationDb.empty, []⟩ : Pool (notificationSystem config)) trace Q) :
    Ledger trace Q.store := by
  generalize hP : (⟨NotificationDb.empty, []⟩ : Pool (notificationSystem config)) = P at hrun
  induction hrun with
  | nil =>
    subst hP
    refine ⟨fun id data hdata => ?_, fun id requestId tenantId hholder => ?_, fun job hjob => ?_,
      fun i call hcall => ?_⟩
    · cases hdata
    · cases hholder
    · cases hjob
    · cases hcall
  | @snoc trace Q R l hrun _ hstep ih =>
    have hledger := ih
    have hstep' := hstep
    cases hstep with
    | start store threads entry => exact hledger.unserved fun i => calls_start
    | @served store store' threads i q next a here answered =>
      obtain ⟨entry, hentry, hsourced⟩ :=
        because_of_entry program_sourced hrun (hP ▸ rfl) hstep'
      exact hledger.served hentry hsourced answered
    | raised here error => exact hledger.unserved fun i => calls_raised

end Runs

end Ledger

section Rendering

/-- The pipeline with its own renderer, where a handler's answer stands for a model. -/
def NotificationConfig.rendering (config : NotificationConfig) (inherited : Inherited)
    (valueOf : String → ModelValue) : NotificationConfig :=
  { config with
    render := fun version model => TemplateRenderer.render inherited version (valueOf model) }

variable {config : NotificationConfig}

/-- A call that created the request, or found it in the way of its own, was made with this input. -/
def Triggers (trace : List (Label (notificationSystem config))) (requestId : String)
    (input : NotifyInput) : Prop :=
  ∃ i : Nat, (entries trace)[i]? = some (.send input) ∧ InHand (calls i trace) requestId

/-- The message is the rendering of the active template with the model the handler resolved from the
payload that was given. -/
def RenderedOf (valueOf : String → ModelValue) (h : List NotificationCall) (input : NotifyInput)
    (claimed : ClaimedNotificationMessage) (rendered : RenderedMessage) : Prop :=
  ∃ traceId model template,
    ⟨.resolveModel input.notificationType (input.payload.map .whole) ⟨input.tenantId,
      claimed.notificationRequestId, input.notificationType, traceId⟩, .ok model⟩ ∈ h ∧
    ⟨.resolveActive input.tenantId input.notificationType claimed.channel
      (claimed.locale.getD "en-US"), .ok (some template)⟩ ∈ h ∧
    RenderedFrom (valueOf model) template rendered

/-- What a message handed to a provider has to do with its trigger. -/
structure FromTrigger (valueOf : String → ModelValue)
    (trace : List (Label (notificationSystem config))) (i : Nat)
    (claimed : ClaimedNotificationMessage) (rendered : RenderedMessage) : Prop where
  triggered : ∃ input, Triggers trace claimed.notificationRequestId input
  rendered : ∀ input, Triggers trace claimed.notificationRequestId input →
    RenderedOf valueOf (calls i trace) input claimed rendered

/-- The payloads given are within the limit, the calls at work on one request agree, and no template
names what a model only inherits. -/
structure Untroubled (inherited : Inherited) (valueOf : String → ModelValue)
    (trace : List (Label (notificationSystem config))) : Prop where
  small : ∀ requestId input, Triggers trace requestId input → ∀ text, input.payload = some text →
    text.utf8ByteSize ≤ config.payloadMaxBytes
  agree : ∀ requestId input input', Triggers trace requestId input →
    Triggers trace requestId input' →
      input.notificationType = input'.notificationType ∧ input.payload = input'.payload
  own : ∀ i notificationType payload context model tenantId channel locale template,
    ⟨.resolveModel notificationType payload context, .ok model⟩ ∈ calls i trace →
    ⟨.resolveActive tenantId notificationType channel locale, .ok (some template)⟩ ∈ calls i trace →
      OwnPaths inherited (valueOf model) template.body ∧
        ∀ subject, template.subject = some subject → OwnPaths inherited (valueOf model) subject

theorem capPayload_of_small {payload : Option String} {maxBytes : Nat}
    (h : ∀ text, payload = some text → text.utf8ByteSize ≤ maxBytes) :
    capPayload payload maxBytes = payload.map .whole := by
  cases payload with
  | none => rfl
  | some text => exact congrArg some (if_pos (h text rfl))

variable {trace : List (Label (notificationSystem config))} {Q : Pool (notificationSystem config)}
variable {ok : Pool (notificationSystem config) → Label (notificationSystem config) → Prop}

/-- What a call with this input is at work on has the tenant of the input. -/
theorem tenant_of_triggers
    (hrun : Run ok (⟨NotificationDb.empty, []⟩ : Pool (notificationSystem config)) trace Q)
    {requestId : String} {input : NotifyInput} (h : Triggers trace requestId input) :
    ∃ data, Q.store.dataOf requestId = some data ∧ data.tenantId = input.tenantId := by
  have hledger := ledger_of_run hrun
  obtain ⟨i, hentry, _, ⟨q, a⟩, hcall, hgiven⟩ := h
  obtain ⟨f, hserved⟩ := mem_calls.mp hcall
  obtain ⟨entry, hof, earlier, _, hsourced⟩ :=
    because_of_call program_sourced hrun rfl hserved
  cases hof.symm.trans hentry
  have htold := hledger.told i _ hcall
  unfold NotificationCall.given? at hgiven
  split at hgiven
  · rename_i tenantId dedupKey row heq
    cases heq
    cases hgiven
    obtain ⟨input', hsend, htenant⟩ := hsourced
    cases hsend
    rw [← htenant]
    exact htold
  · rename_i data row heq
    cases heq
    cases hgiven
    obtain ⟨input', priority, hsend, hmade⟩ := hsourced
    cases hsend
    exact ⟨data, htold, congrArg (·.tenantId) hmade⟩
  · cases hgiven

/-- What is handed to a provider is rendered from the payload as it was stored for the call that
created the request. -/
theorem rendered_from_stored
    (hrun : Run ok (⟨NotificationDb.empty, []⟩ : Pool (notificationSystem config)) trace Q)
    {i : Nat} {claimed : ClaimedNotificationMessage} {rendered : RenderedMessage}
    {a : Except String String} {f : Front NotificationStatement.interface}
    (hmem : .served i (.send claimed rendered) a f ∈ trace) :
    ∃ input traceId model template address,
      Triggers trace claimed.notificationRequestId input ∧ claimed.tenantId = input.tenantId ∧
      ⟨.resolveModel input.notificationType (capPayload input.payload config.payloadMaxBytes)
        ⟨claimed.tenantId, claimed.notificationRequestId, input.notificationType, traceId⟩,
          .ok model⟩ ∈ calls i trace ∧
      ⟨.resolveActive claimed.tenantId input.notificationType claimed.channel
        (claimed.locale.getD "en-US"), .ok (some template)⟩ ∈ calls i trace ∧
      rendered = ⟨address, (config.render template model).1, (config.render template model).2⟩ := by
  have hledger := ledger_of_run hrun
  obtain ⟨entry, _, earlier, hearlier, hsourced⟩ :=
    because_of_call program_sourced hrun rfl hmem
  obtain ⟨dispatch, request, model, messageId, template, address, hmodelled, hid, hclaimed, hactive,
    heq⟩ := hsourced
  have htold : ∀ call ∈ earlier, Consistent Q.store call := fun call hcall =>
    hledger.told i call (hearlier call hcall)
  -- the message and the dispatch are of one request
  have howned := owned_of_dispatches hmodelled.dispatched htold
  have hholder : Q.store.holderOf messageId =
      some (claimed.notificationRequestId, claimed.tenantId) := htold _ hclaimed
  obtain ⟨tenantId, hheld⟩ := howned.messages messageId hid
  have hrequest : claimed.notificationRequestId = dispatch.notificationRequestId :=
    (Prod.mk.inj (Option.some.inj (hholder.symm.trans hheld))).1
  -- which has the data of the call that created it
  have hfound : Q.store.dataOf dispatch.notificationRequestId =
      some request.toNewNotificationRequest := htold _ hmodelled.found
  obtain ⟨data, hdata, htype, htenant⟩ := howned.data
  obtain rfl : request.toNewNotificationRequest = data :=
    Option.some.inj (hfound.symm.trans hdata)
  obtain ⟨data, hdata', htenant'⟩ := hledger.tenants _ _ _ hholder
  obtain rfl : request.toNewNotificationRequest = data := by
    rw [hrequest] at hdata'
    exact Option.some.inj (hfound.symm.trans hdata')
  obtain ⟨j, input, priority, row, hentry, hrow, hmade, hcreated⟩ := hledger.origin _ _ hfound
  have hpayload : request.payload = capPayload input.payload config.payloadMaxBytes :=
    congrArg NewNotificationRequest.payload hmade
  have htype' : dispatch.notificationType = input.notificationType :=
    htype.symm.trans (congrArg NewNotificationRequest.notificationType hmade)
  have htriggers : Triggers trace claimed.notificationRequestId input := by
    refine ⟨j, hentry, ⟨_, hcreated, rfl⟩, _, hcreated, ?_⟩
    rw [hrequest, ← hrow]
    rfl
  refine ⟨input, dispatch.traceId, model, template, address, htriggers, ?_, ?_, ?_, heq⟩
  · exact htenant'.symm.trans (congrArg NewNotificationRequest.tenantId hmade)
  · rw [← hpayload, ← htype', ← htenant', htenant, hrequest]
    exact hearlier _ hmodelled.resolved
  · rw [← htype']
    exact hearlier _ hactive

/-- In an untroubled run, every message is rendered from the payload its notification was sent with,
whoever processes it and however often it was dispatched. -/
theorem rendered_from_trigger (config : NotificationConfig) (inherited : Inherited)
    (valueOf : String → ModelValue)
    {trace : List (Label (notificationSystem (config.rendering inherited valueOf)))}
    {Q : Pool (notificationSystem (config.rendering inherited valueOf))}
    {ok : Pool (notificationSystem (config.rendering inherited valueOf)) →
      Label (notificationSystem (config.rendering inherited valueOf)) → Prop}
    (hrun : Run ok ⟨NotificationDb.empty, []⟩ trace Q)
    (huntroubled : Untroubled inherited valueOf trace) {i : Nat}
    {claimed : ClaimedNotificationMessage} {rendered : RenderedMessage} {a : Except String String}
    {f : Front NotificationStatement.interface}
    (hmem : .served i (.send claimed rendered) a f ∈ trace) :
    FromTrigger valueOf trace i claimed rendered := by
  obtain ⟨first, traceId, model, template, address, hfirst, htenant, hresolved, hactive, rfl⟩ :=
    rendered_from_stored hrun hmem
  refine ⟨⟨first, hfirst⟩, fun input hinput => ?_⟩
  obtain ⟨htype, hpayload⟩ := huntroubled.agree _ first input hfirst hinput
  obtain ⟨data, hdata, hof⟩ := tenant_of_triggers hrun hfirst
  obtain ⟨data', hdata', hof'⟩ := tenant_of_triggers hrun hinput
  obtain rfl : data = data' := Option.some.inj (hdata.symm.trans hdata')
  have hgiven : claimed.tenantId = input.tenantId := htenant.trans (hof.symm.trans hof')
  rw [capPayload_of_small (huntroubled.small _ first hfirst), htype, hpayload, hgiven] at hresolved
  rw [htype, hgiven] at hactive
  obtain ⟨hbody, hsubject⟩ := huntroubled.own i _ _ _ model _ _ _ template hresolved hactive
  exact ⟨traceId, model, template, hresolved, hactive, renderedFrom_render address hbody hsubject⟩

end Rendering

section Example

/-- What objects inherit, as far as these templates ask. -/
def fromPrototype : Inherited := fun _ key =>
  if key ∈ ["constructor", "toString", "valueOf", "hasOwnProperty"] then some .function else none

/-- The order approved, or nothing where there is no payload to find it by. -/
def approvedOrder (model : String) : ModelValue :=
  if model = "found" then .object [("order", .object [("no", .string "PO-1")])] else .object []

/-- Payloads of ten bytes, and one channel with high priority. -/
def orderMail : NotificationConfig where
  entries _ := some ⟨["EMAIL"], .high⟩
  providers _ := some "ses"
  render _ _ := (none, "")
  payloadMaxBytes := 10
  maxRecipientsPerRequest := 10000
  syncMessageThreshold := 5
  chunkSize := 100
  chunkSize_pos := hundred_pos

abbrev OrderSystem : System :=
  notificationSystem (orderMail.rendering fromPrototype approvedOrder)

def unsent : Pool OrderSystem := ⟨.empty, []⟩

/-- `{{order.no}} approved` -/
def approvedTemplate : NotificationTemplateVersion := ⟨"t1", none, "\x7b\x7border.no\x7d\x7d approved"⟩

/-- `{{toString}} approved` -/
def inheritedTemplate : NotificationTemplateVersion := ⟨"t1", none, "\x7b\x7btoString\x7d\x7d approved"⟩

def approval (payload : String) : NotifyInput :=
  ⟨"PurchaseOrderApproved", "k", some payload, none, none, some "t", none, none⟩

/-- A call of this payload, up to the message that is handed over: the handler finds the order by
the payload that was given, and answers this of the one that was stored. -/
def approves (payload : String) (stored : String) (template : NotificationTemplateVersion) :
    List (Move OrderSystem) :=
  .start (.send (approval payload)) ::
    [.settled, .created "r1", .recipients [⟨"v", some "v@x", none, none⟩], .text "found",
      .preferences [], .flag false, .issued ["m1"], .settled, .settled, .text stored, .settled,
      .template (some template), .text "p1"].map (.serve 0)

/-- On the payload that was given the handler found the order, and this template is the active
one. -/
def tells (template : NotificationTemplateVersion) : Label OrderSystem → Bool
  | .served _ (.resolveModel _ (some (.whole _)) _) (.ok model) _ => decide (model = "found")
  | .served _ (.resolveModel _ none _) (.ok _) _ => false
  | .served _ (.resolveActive _ _ _ _) (.ok (some active)) _ => decide (active = template)
  | _ => true

/-- The message that was handed over has this body. -/
def handsOverBody (body : String) : Label OrderSystem → Bool
  | .served _ (.send _ rendered) _ _ => decide (rendered.body = body)
  | _ => false

variable {trace : List (Label OrderSystem)} {i : Nat} {claimed : ClaimedNotificationMessage}
variable {rendered : RenderedMessage}

/-- What was handed over is the rendering of that template with that order. -/
theorem body_of_fromTrigger {template : NotificationTemplateVersion}
    (h : FromTrigger approvedOrder trace i claimed rendered)
    (htells : ∀ l ∈ trace, tells template l = true) :
    rendered.body.toList =
      replaceFrom (valueText (approvedOrder "found")) 0 template.body.toList := by
  obtain ⟨input, htriggers⟩ := h.triggered
  obtain ⟨traceId, model, active, hresolved, hactive, hrendered⟩ := h.rendered input htriggers
  obtain ⟨f, hresolved⟩ := mem_calls.mp hresolved
  obtain ⟨f', hactive⟩ := mem_calls.mp hactive
  have hmodel := htells _ hresolved
  obtain rfl : active = template := of_decide_eq_true (htells _ hactive)
  cases hpayload : input.payload with
  | none =>
    rw [hpayload] at hmodel
    cases hmodel
  | some text =>
    rw [hpayload] at hmodel
    obtain rfl : model = "found" := of_decide_eq_true hmodel
    exact rendered_iff.mp hrendered.body

theorem handed_of_body {body : String} (h : ∃ l ∈ trace, handsOverBody body l = true) :
    ∃ i claimed rendered a f, .served i (.send claimed rendered) a f ∈ trace ∧
      rendered.body = body := by
  obtain ⟨l, hl, hbody⟩ := h
  unfold handsOverBody at hbody
  split at hbody
  · exact ⟨_, _, _, _, _, hl, of_decide_eq_true hbody⟩
  · cases hbody

/-- A payload of eleven bytes is replaced by a marker, in which the handler finds no order; and a
template's placeholder for a name no model has, but every object inherits, is not left empty. -/
theorem rendered_from_marker :
    (∃ (Q : Pool OrderSystem) (trace : List (Label OrderSystem)),
      Run (fun _ _ => True) unsent trace Q ∧ ∃ i claimed rendered a f,
        .served i (.send claimed rendered) a f ∈ trace ∧ rendered.body = " approved" ∧
          ¬ FromTrigger approvedOrder trace i claimed rendered) ∧
    ∃ (Q : Pool OrderSystem) (trace : List (Label OrderSystem)),
      Run (fun _ _ => True) unsent trace Q ∧ ∃ i claimed rendered a f,
        .served i (.send claimed rendered) a f ∈ trace ∧ rendered.body = "undefined approved" ∧
          ¬ FromTrigger approvedOrder trace i claimed rendered := by
  constructor
  · have hplay : ((unsent.record (fun _ _ => True)
        (approves "\x7b\"no\":1234\x7d" "missed" approvedTemplate)).map fun r =>
          decide ((∀ l ∈ r.1, tells approvedTemplate l = true) ∧
            ∃ l ∈ r.1, handsOverBody " approved" l = true)) = some true := by
      decide
    obtain ⟨Q, trace, hrun, htells, hhanded⟩ :
        ∃ (Q : Pool OrderSystem) (trace : List (Label OrderSystem)),
          Run (fun _ _ => True) unsent trace Q ∧ (∀ l ∈ trace, tells approvedTemplate l = true) ∧
            ∃ l ∈ trace, handsOverBody " approved" l = true := Pool.record_reach hplay
    obtain ⟨i, claimed, rendered, a, f, hmem, hbody⟩ := handed_of_body hhanded
    refine ⟨Q, trace, hrun, i, claimed, rendered, a, f, hmem, hbody, fun h => ?_⟩
    have hmade := body_of_fromTrigger h htells
    rw [hbody] at hmade
    exact absurd hmade (by decide)
  · have hplay : ((unsent.record (fun _ _ => True)
        (approves "\x7b\"no\":1\x7d" "found" inheritedTemplate)).map fun r =>
          decide ((∀ l ∈ r.1, tells inheritedTemplate l = true) ∧
            ∃ l ∈ r.1, handsOverBody "undefined approved" l = true)) = some true := by
      decide
    obtain ⟨Q, trace, hrun, htells, hhanded⟩ :
        ∃ (Q : Pool OrderSystem) (trace : List (Label OrderSystem)),
          Run (fun _ _ => True) unsent trace Q ∧ (∀ l ∈ trace, tells inheritedTemplate l = true) ∧
            ∃ l ∈ trace, handsOverBody "undefined approved" l = true := Pool.record_reach hplay
    obtain ⟨i, claimed, rendered, a, f, hmem, hbody⟩ := handed_of_body hhanded
    refine ⟨Q, trace, hrun, i, claimed, rendered, a, f, hmem, hbody, fun h => ?_⟩
    have hmade := body_of_fromTrigger h htells
    rw [hbody] at hmade
    exact absurd hmade (by decide)

/-- There are only calls of this payload, for which the handler finds the order, and this template
is the active one. -/
def onlyApproves (payload : String) (template : NotificationTemplateVersion) :
    Label OrderSystem → Bool
  | .start (.send input) => decide (input = approval payload)
  | .served _ (.resolveModel _ _ _) (.ok model) _ => decide (model = "found")
  | .served _ (.resolveActive _ _ _ _) (.ok (some active)) _ => decide (active = template)
  | _ => true

theorem untroubled_of_onlyApproves {payload : String} {template : NotificationTemplateVersion}
    (h : ∀ l ∈ trace, onlyApproves payload template l = true) (hsmall : payload.utf8ByteSize ≤ 10)
    (hbody : OwnPaths fromPrototype (approvedOrder "found") template.body)
    (hsubject : template.subject = none) :
    @Untroubled (orderMail.rendering fromPrototype approvedOrder) fromPrototype
      approvedOrder trace := by
  have hinput : ∀ requestId input, Triggers trace requestId input → input = approval payload := by
    rintro requestId input ⟨i, hentry, _⟩
    obtain ⟨earlier, later, rfl, _⟩ := start_of_entry hentry
    exact of_decide_eq_true (h _ (List.mem_append_right _ List.mem_cons_self))
  refine ⟨fun requestId input hin text htext => ?_, fun requestId input input' hin hin' => ?_, ?_⟩
  · rw [hinput _ _ hin] at htext
    exact Option.some.inj htext ▸ hsmall
  · rw [hinput _ _ hin, hinput _ _ hin']
    exact ⟨rfl, rfl⟩
  · intro i notificationType payload' context model tenantId channel locale active hmodel hactive
    obtain ⟨f, hmodel⟩ := mem_calls.mp hmodel
    obtain ⟨f', hactive⟩ := mem_calls.mp hactive
    obtain rfl : model = "found" := of_decide_eq_true (h _ hmodel)
    obtain rfl : active = template := of_decide_eq_true (h _ hactive)
    refine ⟨hbody, fun subject heq => ?_⟩
    rw [hsubject] at heq
    cases heq

/-- A payload within the limit. -/
theorem rendered_from_trigger_approved :
    ∃ (Q : Pool OrderSystem) (trace : List (Label OrderSystem)),
      Run (fun _ _ => True) unsent trace Q ∧ ∃ i claimed rendered a f,
        .served i (.send claimed rendered) a f ∈ trace ∧ rendered.body = "PO-1 approved" ∧
          FromTrigger approvedOrder trace i claimed rendered := by
  have hplay : ((unsent.record (fun _ _ => True)
      (approves "\x7b\"no\":1\x7d" "found" approvedTemplate)).map fun r =>
        decide ((∀ l ∈ r.1, onlyApproves "\x7b\"no\":1\x7d" approvedTemplate l = true) ∧
          ∃ l ∈ r.1, handsOverBody "PO-1 approved" l = true)) = some true := by
    decide
  obtain ⟨Q, trace, hrun, honly, hhanded⟩ :
      ∃ (Q : Pool OrderSystem) (trace : List (Label OrderSystem)),
        Run (fun _ _ => True) unsent trace Q ∧
          (∀ l ∈ trace, onlyApproves "\x7b\"no\":1\x7d" approvedTemplate l = true) ∧
            ∃ l ∈ trace, handsOverBody "PO-1 approved" l = true := Pool.record_reach hplay
  obtain ⟨i, claimed, rendered, a, f, hmem, hbody⟩ := handed_of_body hhanded
  have hown : OwnPaths fromPrototype (approvedOrder "found") approvedTemplate.body :=
    ownPaths_of_matches (by decide)
  exact ⟨Q, trace, hrun, i, claimed, rendered, a, f, hmem, hbody,
    rendered_from_trigger orderMail fromPrototype approvedOrder hrun
      (untroubled_of_onlyApproves honly (by decide) hown rfl) hmem⟩

end Example

end DddBoilerplate.Notification
