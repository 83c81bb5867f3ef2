/- module: DddBoilerplate/Notification/Rows
   generality: I
   digest: What a statement of the pipeline makes of one message's row, and of one request's. -/

import DddBoilerplate.Notification.Requests

set_option autoImplicit false
set_option relaxedAutoImplicit false
set_option linter.all false

namespace DddBoilerplate.Notification

open Concurrency Store NotificationDb

variable {db db' : NotificationDb} {choice : NotificationChoice} {id : String}

section Messages

/-- The updates of a message's row, and what each leaves of it. -/
inductive Rewrites (id : String) (row : NotificationMessage) :
    (q : NotificationStatement) → Except String q.Result → NotificationMessage → Prop where
  | claimed (hpending : row.status = .pending) :
      Rewrites id row (.claim id) (.ok (some (claimedOf row))) (MessageWrite.claim.change row)
  | written (write : MessageWrite) :
      Rewrites id row (.updateMessage id write) (.ok ()) (write.change row)
  | reset (count : Nat) (hrendering : row.status = .rendering) :
      Rewrites id row .resetStuckRendering (.ok count) (MessageWrite.reset.change row)

/-- A message that is attached, as its request has it. -/
structure Attached (row : NotificationMessage) (requestId : String) (tenantId : Option String)
    (messages : List NewNotificationMessage) : Prop where
  data : row.toNewNotificationMessage ∈ messages
  request : row.notificationRequestId = requestId
  tenant : row.tenantId = tenantId
  unlinked : row.providerMessageId = none

theorem get?_writeMessages {write : MessageWrite} {p : NotificationMessage → Bool} :
    (db.writeMessages write p).messages.get? id =
      (db.messages.get? id).map fun row => if p row then write.change row else row :=
  Table.get?_updateMany (change_messageId write)

theorem messages_push {job : ChunkJob} : (db.push job).messages = db.messages := by
  unfold NotificationDb.push
  split <;> rfl

theorem messages_insertRequest {row : NotificationRequest} (h : db.insertRequest row = some db') :
    db'.messages = db.messages := by
  unfold NotificationDb.insertRequest at h
  split at h
  · split at h
    · cases h
      rfl
    · cases h
  · cases h

theorem mem_fannedOut {request : NotificationRequest} {ids : List String}
    {messages : List NewNotificationMessage} {row : NotificationMessage}
    (h : row ∈ List.zipWith (fannedOut request) ids messages) :
    Attached row request.id request.tenantId messages := by
  induction ids generalizing messages with
  | nil => cases h
  | cons first ids ih =>
    cases messages with
    | nil => cases h
    | cons data messages =>
      rcases List.mem_cons.mp h with rfl | h
      · exact ⟨List.mem_cons_self, rfl, rfl, rfl⟩
      · obtain ⟨hdata, hrequest, htenant, hunlinked⟩ := ih h
        exact ⟨List.mem_cons_of_mem _ hdata, hrequest, htenant, hunlinked⟩

/-- Attaching messages adds them to the table, or does nothing. -/
theorem messages_attach {requestId : String} {mode : NotificationMode}
    {messages : List NewNotificationMessage} {ids : List String} :
    (db.attach requestId mode messages ids).2 = db ∨
      ∃ request, db.requests.get? requestId = some request ∧
        (db.attach requestId mode messages ids).2.messages.rows =
          db.messages.rows ++ List.zipWith (fannedOut request) ids messages := by
  unfold NotificationDb.attach
  cases hrequest : db.requests.get? requestId with
  | none => exact .inl rfl
  | some request =>
    simp only
    cases hinserted : db.insertMessages (List.zipWith (fannedOut request) ids messages) with
    | none => exact .inl rfl
    | some inserted =>
      refine .inr ⟨request, rfl, ?_⟩
      unfold NotificationDb.insertMessages at hinserted
      split at hinserted
      · split at hinserted
        · cases hinserted
          rfl
        · cases hinserted
      · cases hinserted

/-- Only four statements touch the messages. -/
theorem messages_of_execute {q : NotificationStatement} {a : Except String q.Result}
    (h : q.execute choice db = some (a, db')) :
    db'.messages = db.messages ∨
      (∃ requestId mode messages ids, q = .attachMessages requestId mode messages ∧
        db' = (db.attach requestId mode messages ids).2) ∨
      (∃ messageId, q = .claim messageId) ∨ (∃ messageId write, q = .updateMessage messageId write) ∨
        q = .resetStuckRendering := by
  cases q with
  | create data =>
    refine .inl ?_
    cases choice with
    | settled =>
      dsimp only [NotificationStatement.execute] at h
      split at h
      · cases h
        rfl
      · cases h
    | created id =>
      obtain ⟨inserted, hinserted, heq⟩ := Option.map_eq_some_iff.mp h
      cases heq
      exact messages_insertRequest hinserted
    | refused message =>
      cases h
      rfl
    | _ => cases h
  | attachMessages requestId mode messages =>
    cases choice with
    | issued ids =>
      dsimp only [NotificationStatement.execute] at h
      split at h
      · exact .inr (.inl ⟨requestId, mode, messages, ids, rfl,
          (congrArg Prod.snd (Option.some.inj h)).symm⟩)
      · cases h
    | refused message =>
      cases h
      exact .inl rfl
    | _ => cases h
  | findByDedupKey tenantId dedupKey =>
    refine .inl ?_
    cases choice with
    | settled =>
      dsimp only [NotificationStatement.execute] at h
      split at h
      · cases h
      · cases h
        rfl
    | found id =>
      obtain ⟨row, _, heq⟩ := Option.map_eq_some_iff.mp h
      cases heq
      rfl
    | refused message =>
      cases h
      rfl
    | _ => cases h
  | update requestId write =>
    refine .inl ?_
    cases choice with
    | settled =>
      dsimp only [NotificationStatement.execute] at h
      split at h
      · cases h
        rfl
      · cases h
        rfl
    | refused message =>
      cases h
      rfl
    | _ => cases h
  | enqueue job =>
    refine .inl ?_
    cases choice with
    | settled =>
      cases h
      exact messages_push
    | lost message =>
      cases h
      exact messages_push
    | refused message =>
      cases h
      rfl
    | _ => cases h
  | takeChunk =>
    refine .inl ?_
    cases choice with
    | taken index kept =>
      obtain ⟨job, _, heq⟩ := Option.map_eq_some_iff.mp h
      cases kept with
      | false =>
        cases heq
        rfl
      | true =>
        cases heq
        rfl
    | refused message =>
      cases h
      rfl
    | _ => cases h
  | claim messageId => exact .inr (.inr (.inl ⟨messageId, rfl⟩))
  | updateMessage messageId write => exact .inr (.inr (.inr (.inl ⟨messageId, write, rfl⟩)))
  | resetStuckRendering => exact .inr (.inr (.inr (.inr rfl)))
  | _ => cases choice <;> cases h <;> exact .inl rfl

/-- A claim that is answered finds its message pending, and leaves it rendering. -/
theorem claim_answered {claimed : ClaimedNotificationMessage}
    (h : (NotificationStatement.claim id).execute choice db = some (.ok (some claimed), db')) :
    ∃ row, db.messages.get? id = some row ∧ row.status = .pending ∧ claimed = claimedOf row ∧
      db'.messages.get? id = some (MessageWrite.claim.change row) := by
  cases choice with
  | settled =>
    obtain ⟨hanswer, rfl⟩ := Prod.mk.inj (Option.some.inj h)
    obtain ⟨row, hrow, rfl⟩ := Option.map_eq_some_iff.mp (Except.ok.inj hanswer)
    obtain ⟨hget, hpending⟩ := Option.filter_eq_some_iff.mp hrow
    have hstatus : row.status = .pending := of_decide_eq_true hpending
    refine ⟨row, hget, hstatus, rfl, ?_⟩
    rw [get?_writeMessages, hget, Option.map_some, if_pos]
    simp [Table.key_of_get? hget, hstatus]
  | refused message => cases h
  | _ => cases h

theorem update_answered {write : MessageWrite}
    (h : (NotificationStatement.updateMessage id write).execute choice db = some (.ok (), db')) :
    ∃ row, db.messages.get? id = some row ∧ db'.messages.get? id = some (write.change row) := by
  cases choice with
  | settled =>
    dsimp only [NotificationStatement.execute] at h
    split at h
    · cases h
    · rename_i row hget
      cases h
      refine ⟨row, hget, ?_⟩
      rw [get?_writeMessages, hget, Option.map_some, if_pos]
      simp [Table.key_of_get? hget]
  | refused message => cases h
  | _ => cases h

/-- A write that is refused leaves the messages as they are. -/
theorem update_refused {write : MessageWrite} {error : String}
    (h : (NotificationStatement.updateMessage id write).execute choice db =
      some (.error error, db')) : db'.messages = db.messages := by
  cases choice with
  | settled =>
    dsimp only [NotificationStatement.execute] at h
    split at h
    · cases h
      rfl
    · cases h
  | refused message =>
    cases h
    rfl
  | _ => cases h

/-- What becomes of a message's row: it stays, or is rewritten by one of three statements. -/
theorem row_of_execute {q : NotificationStatement} {a : Except String q.Result}
    {row : NotificationMessage} (h : q.execute choice db = some (a, db'))
    (hrow : db.messages.get? id = some row) :
    ∃ row', db'.messages.get? id = some row' ∧ (row' = row ∨ Rewrites id row q a row') := by
  have hid := Table.key_of_get? hrow
  rcases messages_of_execute h with hsame | ⟨requestId, mode, messages, ids, rfl, hattach⟩ |
    ⟨messageId, rfl⟩ | ⟨messageId, write, rfl⟩ | rfl
  · exact ⟨row, hsame ▸ hrow, .inl rfl⟩
  · refine ⟨row, ?_, .inl rfl⟩
    rcases @messages_attach db requestId mode messages ids with hsame | ⟨request, _, hrows⟩
    · rw [hattach, hsame]
      exact hrow
    · rw [Table.get?_eq_some, hattach, hrows]
      exact ⟨List.mem_append_left _ (Table.mem_of_get? hrow), hid⟩
  · cases choice with
    | settled =>
      cases h
      by_cases hclaims : messageId = id ∧ row.status = .pending
      · obtain ⟨rfl, hpending⟩ := hclaims
        refine ⟨MessageWrite.claim.change row, ?_, .inr ?_⟩
        · rw [get?_writeMessages, hrow, Option.map_some, if_pos]
          simp [hid, hpending]
        · have hfound : (db.messages.get? messageId).filter (·.status = .pending) = some row := by
            simp [hrow, Option.filter, hpending]
          rw [hfound]
          exact .claimed hpending
      · refine ⟨row, ?_, .inl rfl⟩
        rw [get?_writeMessages, hrow, Option.map_some, if_neg]
        rw [Bool.and_eq_true, decide_eq_true_iff, decide_eq_true_iff, hid]
        exact fun h => hclaims ⟨h.1.symm, h.2⟩
    | refused message =>
      cases h
      exact ⟨row, hrow, .inl rfl⟩
    | _ => cases h
  · cases choice with
    | settled =>
      dsimp only [NotificationStatement.execute] at h
      split at h
      · cases h
        exact ⟨row, hrow, .inl rfl⟩
      · cases h
        by_cases hwrites : messageId = id
        · subst hwrites
          refine ⟨write.change row, ?_, .inr (.written write)⟩
          rw [get?_writeMessages, hrow, Option.map_some, if_pos]
          simp [hid]
        · refine ⟨row, ?_, .inl rfl⟩
          rw [get?_writeMessages, hrow, Option.map_some, if_neg]
          rw [decide_eq_true_iff, hid]
          exact fun h => hwrites h.symm
    | refused message =>
      cases h
      exact ⟨row, hrow, .inl rfl⟩
    | _ => cases h
  · cases choice with
    | stuck ids =>
      cases h
      by_cases hstuck : row.status = .rendering ∧ row.id ∈ ids
      · refine ⟨MessageWrite.reset.change row, ?_, .inr (.reset _ hstuck.1)⟩
        rw [get?_writeMessages, hrow, Option.map_some, if_pos]
        simpa using hstuck
      · refine ⟨row, ?_, .inl rfl⟩
        rw [get?_writeMessages, hrow, Option.map_some, if_neg]
        simpa using hstuck
    | refused message =>
      cases h
      exact ⟨row, hrow, .inl rfl⟩
    | _ => cases h

/-- A message that is new was attached to its request. -/
theorem attached_of_execute {q : NotificationStatement} {a : Except String q.Result}
    {row : NotificationMessage} (h : q.execute choice db = some (a, db'))
    (hfree : db.messages.get? id = none) (hrow : db'.messages.get? id = some row) :
    ∃ requestId mode messages request, q = .attachMessages requestId mode messages ∧
      db.requests.get? requestId = some request ∧ Attached row requestId request.tenantId messages := by
  rcases messages_of_execute h with hsame | ⟨requestId, mode, messages, ids, rfl, hattach⟩ |
    ⟨messageId, rfl⟩ | ⟨messageId, write, rfl⟩ | rfl
  · rw [hsame, hfree] at hrow
    cases hrow
  · rcases @messages_attach db requestId mode messages ids with hsame | ⟨request, hrequest, hrows⟩
    · rw [hattach, hsame, hfree] at hrow
      cases hrow
    · obtain ⟨hmem, hid⟩ := Table.get?_eq_some.mp hrow
      rw [hattach, hrows] at hmem
      rcases List.mem_append.mp hmem with hmem | hmem
      · exact absurd hid (Table.get?_eq_none.mp hfree row hmem)
      · refine ⟨requestId, mode, messages, request, rfl, hrequest, ?_⟩
        exact Table.key_of_get? hrequest ▸ mem_fannedOut hmem
  · cases choice with
    | settled =>
      cases h
      rw [get?_writeMessages, hfree] at hrow
      cases hrow
    | refused message =>
      cases h
      cases hfree.symm.trans hrow
    | _ => cases h
  · cases choice with
    | settled =>
      dsimp only [NotificationStatement.execute] at h
      split at h
      · cases h
        cases hfree.symm.trans hrow
      · cases h
        rw [get?_writeMessages, hfree] at hrow
        cases hrow
    | refused message =>
      cases h
      cases hfree.symm.trans hrow
    | _ => cases h
  · cases choice with
    | stuck ids =>
      cases h
      rw [get?_writeMessages, hfree] at hrow
      cases hrow
    | refused message =>
      cases h
      cases hfree.symm.trans hrow
    | _ => cases h

end Messages

section Requests

variable {requestId : String} {request : NotificationRequest}

/-- The updates of a request's row, and what each leaves of it. -/
inductive Closes (requestId : String) (request : NotificationRequest) :
    NotificationStatement → NotificationRequest → Prop where
  | attached (mode : NotificationMode) (messages : List NewNotificationMessage) :
      Closes requestId request (.attachMessages requestId mode messages)
        ((RequestWrite.attach mode messages.length
          (messages.countP (·.status = .suppressed))).change request)
  | written (write : RequestWrite) (selected : write.selects request = true) :
      Closes requestId request (.update requestId write) (write.change request)
  | started (selected : RequestWrite.markRunning.selects request = true) :
      Closes requestId request (.markRunning requestId) (RequestWrite.markRunning.change request)

theorem change_data (write : RequestWrite) (request : NotificationRequest) :
    (write.change request).toNewNotificationRequest = request.toNewNotificationRequest := by
  cases write with
  | attach | markRunning | incrementSent | incrementFailed | close => rfl

theorem get?_writeRequests {write : RequestWrite} {p : NotificationRequest → Bool} :
    (db.writeRequests write p).requests.get? requestId =
      (db.requests.get? requestId).map fun row =>
        if p row && write.selects row then write.change row else row :=
  Table.get?_updateMany (change_requestId write)

theorem requests_push {job : ChunkJob} : (db.push job).requests = db.requests := by
  unfold NotificationDb.push
  split <;> rfl

theorem requests_insertMessages {rows : List NotificationMessage}
    (h : db.insertMessages rows = some db') : db'.requests = db.requests := by
  unfold NotificationDb.insertMessages at h
  split at h
  · split at h
    · cases h
      rfl
    · cases h
  · cases h

theorem requests_insertRequest {row : NotificationRequest} (h : db.insertRequest row = some db') :
    db.requests.get? row.id = none ∧ db'.requests = db.requests.insert row := by
  unfold NotificationDb.insertRequest at h
  split at h
  · split at h
    · rename_i hfree
      cases h
      exact ⟨hfree, rfl⟩
    · cases h
  · cases h

/-- Attaching messages writes their number into the request's row, or does nothing. -/
theorem requests_attach {mode : NotificationMode} {messages : List NewNotificationMessage}
    {ids : List String} {id : String} :
    (db.attach requestId mode messages ids).2.requests.get? id = db.requests.get? id ∨
      id = requestId ∧ (db.attach requestId mode messages ids).2.requests.get? id =
        (db.requests.get? id).map (RequestWrite.attach mode messages.length
          (messages.countP (·.status = .suppressed))).change := by
  unfold NotificationDb.attach
  cases hrequest : db.requests.get? requestId with
  | none => exact .inl rfl
  | some request =>
    simp only
    cases hinserted : db.insertMessages (List.zipWith (fannedOut request) ids messages) with
    | none => exact .inl rfl
    | some inserted =>
      simp only [get?_writeRequests, requests_insertMessages hinserted]
      by_cases hid : id = requestId
      · refine .inr ⟨hid, ?_⟩
        subst hid
        rw [hrequest, Option.map_some, Option.map_some, if_pos]
        simp [Table.key_of_get? hrequest, RequestWrite.selects]
      · refine .inl ?_
        cases hget : db.requests.get? id with
        | none => rfl
        | some other =>
          rw [Option.map_some, if_neg]
          rw [Bool.and_eq_true, decide_eq_true_iff, Table.key_of_get? hget]
          exact fun h => hid h.1

/-- Only four statements touch the requests. -/
theorem requests_of_execute {q : NotificationStatement} {a : Except String q.Result}
    (h : q.execute choice db = some (a, db')) :
    db'.requests = db.requests ∨
      (∃ data id, q = .create data ∧ db.requests.get? id = none ∧
        db'.requests = db.requests.insert (created id data)) ∨
      (∃ requestId mode messages ids, q = .attachMessages requestId mode messages ∧
        db' = (db.attach requestId mode messages ids).2) ∨
      (∃ requestId write, q = .update requestId write ∧
        db' = db.writeRequests write (·.id = requestId)) ∨
      ∃ requestId, q = .markRunning requestId ∧
        db' = db.writeRequests .markRunning (·.id = requestId) := by
  cases q with
  | create data =>
    cases choice with
    | settled =>
      refine .inl ?_
      dsimp only [NotificationStatement.execute] at h
      split at h
      · cases h
        rfl
      · cases h
    | created id =>
      obtain ⟨inserted, hinserted, heq⟩ := Option.map_eq_some_iff.mp h
      cases heq
      obtain ⟨hfree, hrows⟩ := requests_insertRequest hinserted
      exact .inr (.inl ⟨data, id, rfl, hfree, hrows⟩)
    | refused message =>
      cases h
      exact .inl rfl
    | _ => cases h
  | attachMessages requestId mode messages =>
    cases choice with
    | issued ids =>
      dsimp only [NotificationStatement.execute] at h
      split at h
      · exact .inr (.inr (.inl ⟨requestId, mode, messages, ids, rfl,
          (congrArg Prod.snd (Option.some.inj h)).symm⟩))
      · cases h
    | refused message =>
      cases h
      exact .inl rfl
    | _ => cases h
  | findByDedupKey tenantId dedupKey =>
    refine .inl ?_
    cases choice with
    | settled =>
      dsimp only [NotificationStatement.execute] at h
      split at h
      · cases h
      · cases h
        rfl
    | found id =>
      obtain ⟨row, _, heq⟩ := Option.map_eq_some_iff.mp h
      cases heq
      rfl
    | refused message =>
      cases h
      rfl
    | _ => cases h
  | update requestId write =>
    cases choice with
    | settled =>
      dsimp only [NotificationStatement.execute] at h
      split at h
      · cases h
        exact .inl rfl
      · cases h
        exact .inr (.inr (.inr (.inl ⟨requestId, write, rfl, rfl⟩)))
    | refused message =>
      cases h
      exact .inl rfl
    | _ => cases h
  | markRunning requestId =>
    cases choice with
    | settled =>
      cases h
      exact .inr (.inr (.inr (.inr ⟨requestId, rfl, rfl⟩)))
    | refused message =>
      cases h
      exact .inl rfl
    | _ => cases h
  | updateMessage messageId write =>
    refine .inl ?_
    cases choice with
    | settled =>
      dsimp only [NotificationStatement.execute] at h
      split at h
      · cases h
        rfl
      · cases h
        rfl
    | refused message =>
      cases h
      rfl
    | _ => cases h
  | enqueue job =>
    refine .inl ?_
    cases choice with
    | settled =>
      cases h
      exact requests_push
    | lost message =>
      cases h
      exact requests_push
    | refused message =>
      cases h
      rfl
    | _ => cases h
  | takeChunk =>
    refine .inl ?_
    cases choice with
    | taken index kept =>
      obtain ⟨job, _, heq⟩ := Option.map_eq_some_iff.mp h
      cases kept with
      | false =>
        cases heq
        rfl
      | true =>
        cases heq
        rfl
    | refused message =>
      cases h
      rfl
    | _ => cases h
  | _ => cases choice <;> cases h <;> exact .inl rfl

/-- What becomes of a request's row: it stays, or is rewritten by one of three statements. -/
theorem request_of_execute {q : NotificationStatement} {a : Except String q.Result}
    (h : q.execute choice db = some (a, db')) (hrequest : db.requests.get? requestId = some request) :
    ∃ request', db'.requests.get? requestId = some request' ∧
      (request' = request ∨ Closes requestId request q request') := by
  have hid := Table.key_of_get? hrequest
  rcases requests_of_execute h with hsame | ⟨data, id, rfl, hfree, hrows⟩ |
    ⟨id, mode, messages, ids, rfl, rfl⟩ | ⟨id, write, rfl, rfl⟩ | ⟨id, rfl, rfl⟩
  · exact ⟨request, hsame ▸ hrequest, .inl rfl⟩
  · refine ⟨request, ?_, .inl rfl⟩
    rw [hrows, @Table.get?_insert _ _ _ NotificationRequest.id _ (created id data) hfree, if_neg]
    · exact hrequest
    · rintro rfl
      cases hfree.symm.trans hrequest
  · rcases @requests_attach db id mode messages ids requestId with hsame | ⟨rfl, hwritten⟩
    · exact ⟨request, hsame.trans hrequest, .inl rfl⟩
    · rw [hrequest] at hwritten
      exact ⟨_, hwritten, .inr (.attached mode messages)⟩
  · rw [get?_writeRequests, hrequest, Option.map_some]
    refine ⟨_, rfl, ?_⟩
    split
    · rename_i hselected
      obtain ⟨hown, hselects⟩ := Bool.and_eq_true_iff.mp hselected
      rw [← of_decide_eq_true hown, hid]
      exact .inr (.written write hselects)
    · exact .inl rfl
  · rw [get?_writeRequests, hrequest, Option.map_some]
    refine ⟨_, rfl, ?_⟩
    split
    · rename_i hselected
      obtain ⟨hown, hselects⟩ := Bool.and_eq_true_iff.mp hselected
      rw [← of_decide_eq_true hown, hid]
      exact .inr (.started hselects)
    · exact .inl rfl

/-- What a caller gave stays in its request's row. -/
theorem data_of_execute {q : NotificationStatement} {a : Except String q.Result}
    (h : q.execute choice db = some (a, db')) (hrequest : db.requests.get? requestId = some request) :
    ∃ request', db'.requests.get? requestId = some request' ∧
      request'.toNewNotificationRequest = request.toNewNotificationRequest := by
  obtain ⟨request', hrequest', hcases⟩ := request_of_execute h hrequest
  refine ⟨request', hrequest', ?_⟩
  rcases hcases with rfl | hcloses
  · rfl
  · cases hcloses with
    | attached mode messages => exact change_data _ _
    | written write selected => exact change_data _ _
    | started selected => exact change_data _ _

theorem create_answered {data : NewNotificationRequest} {row : NotificationRequest}
    (h : (NotificationStatement.create data).execute choice db = some (.ok (some row), db')) :
    db'.requests.get? row.id = some row ∧ row.tenantId = data.tenantId := by
  cases choice with
  | settled =>
    dsimp only [NotificationStatement.execute] at h
    split at h
    · cases h
    · cases h
  | created id =>
    obtain ⟨inserted, hinserted, heq⟩ := Option.map_eq_some_iff.mp h
    cases heq
    obtain ⟨hfree, hrows⟩ := requests_insertRequest hinserted
    refine ⟨?_, rfl⟩
    rw [hrows, @Table.get?_insert _ _ _ NotificationRequest.id _ (created id data) hfree, if_pos rfl]
  | refused message => cases h
  | _ => cases h

theorem find_answered {tenantId : Option String} {dedupKey : String} {row : NotificationRequest}
    (h : (NotificationStatement.findByDedupKey tenantId dedupKey).execute choice db =
      some (.ok (some row), db')) :
    db'.requests.get? row.id = some row ∧ row.tenantId = tenantId := by
  cases choice with
  | settled =>
    dsimp only [NotificationStatement.execute] at h
    split at h
    · cases h
    · cases h
  | found id =>
    obtain ⟨found, hfound, heq⟩ := Option.map_eq_some_iff.mp h
    cases heq
    obtain ⟨hget, hmatches⟩ := Option.filter_eq_some_iff.mp hfound
    refine ⟨?_, of_decide_eq_true (Bool.and_eq_true_iff.mp hmatches).1⟩
    rw [Table.key_of_get? hget]
    exact hget
  | refused message => cases h
  | _ => cases h

end Requests

end DddBoilerplate.Notification
