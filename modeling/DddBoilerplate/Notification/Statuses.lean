/- module: DddBoilerplate/Notification/Statuses
   generality: I
   digest: The status of a message only moves forward, as long as attempts settle in time. -/

import Mathlib.Data.List.Induction
import DddBoilerplate.Concurrency.Traced
import DddBoilerplate.Notification.Attempts
import DddBoilerplate.Notification.Rows

set_option autoImplicit false
set_option relaxedAutoImplicit false
set_option linter.all false

namespace DddBoilerplate.Notification

open Concurrency Store NotificationDb ReceiptDb

variable {config : NotificationConfig}

section Steps

variable {db db' : ReceiptDb} {choice : ReceiptChoice} {id : String}

/-- A statement leaves the pipeline's tables, is one of the pipeline's, or applies a receipt. -/
inductive PipelineStep (db db' : ReceiptDb) :
    (q : ReceiptStatement) → Except String q.Result → Prop where
  | kept (q : ReceiptStatement) (a : Except String q.Result) (other : q.ofPipeline = false)
      (same : db'.pipeline = db.pipeline) : PipelineStep db db' q a
  | served (q : NotificationStatement) (choice : NotificationChoice) (a : Except String q.Result)
      (answered : q.execute choice db.pipeline = some (a, db'.pipeline)) :
      PipelineStep db db' (.pipeline q) a
  | received (providerMessageId : String) (status : ReceiptStatus) (reason : Option String)
      (a : Except String (Option NotificationMessage))
      (written : db'.pipeline = db.applyReceipt providerMessageId status reason) :
      PipelineStep db db' (.applyDeliveryStatus providerMessageId status reason) a

theorem pipeline_of_execute {q : ReceiptStatement} {a : Except String q.Result}
    (h : q.execute choice db = some (a, db')) : PipelineStep db db' q a := by
  cases q with
  | pipeline q =>
    cases choice with
    | refused message =>
      cases h
      exact .served _ (.refused message) _ (by cases q <;> rfl)
    | pipeline choice =>
      cases q with
      | findForRecipient tenantId recipientRef => cases h
      | isSuppressed tenantId address channel => cases h
      | _ =>
        obtain ⟨⟨a', after⟩, hexecute, heq⟩ := Option.map_eq_some_iff.mp h
        cases heq
        exact .served _ choice _ hexecute
    | settled =>
      cases q with
      | findForRecipient tenantId recipientRef =>
        cases h
        exact .served _ (.preferences _) _ rfl
      | _ => cases h
    | reading now =>
      cases q with
      | isSuppressed tenantId address channel =>
        dsimp only [ReceiptStatement.execute] at h
        split at h
        · cases h
          exact .served _ (.flag _) _ rfl
        · cases h
      | _ => cases h
    | found id => cases q <;> cases h
    | created id => cases q <;> cases h
    | events events => cases q <;> cases h
  | applyDeliveryStatus providerMessageId status reason =>
    cases choice with
    | settled =>
      cases h
      exact .received _ _ _ _ rfl
    | refused message =>
      cases h
      exact .kept _ _ rfl rfl
    | _ => cases h
  | parseDeliveryReceipt channel payload signature =>
    cases choice <;> cases h <;> exact .kept _ _ rfl rfl
  | findByProviderMessageId providerMessageId =>
    cases choice with
    | settled =>
      dsimp only [ReceiptStatement.execute] at h
      split at h
      · cases h
      · cases h
        exact .kept _ _ rfl rfl
    | found id =>
      obtain ⟨row, _, heq⟩ := Option.map_eq_some_iff.mp h
      cases heq
      exact .kept _ _ rfl rfl
    | refused message =>
      cases h
      exact .kept _ _ rfl rfl
    | _ => cases h
  | findSuppression tenantId address channel =>
    cases choice with
    | settled =>
      dsimp only [ReceiptStatement.execute] at h
      split at h
      · cases h
      · cases h
        exact .kept _ _ rfl rfl
    | found id =>
      obtain ⟨row, _, heq⟩ := Option.map_eq_some_iff.mp h
      cases heq
      exact .kept _ _ rfl rfl
    | refused message =>
      cases h
      exact .kept _ _ rfl rfl
    | _ => cases h
  | updateSuppression id reason source =>
    cases choice with
    | settled =>
      dsimp only [ReceiptStatement.execute] at h
      split at h
      · cases h
        exact .kept _ _ rfl rfl
      · cases h
        exact .kept _ _ rfl rfl
    | refused message =>
      cases h
      exact .kept _ _ rfl rfl
    | _ => cases h
  | createSuppression tenantId address channel reason source =>
    cases choice with
    | created id =>
      dsimp only [ReceiptStatement.execute] at h
      split at h
      · cases h
        exact .kept _ _ rfl rfl
      · split at h
        · cases h
          exact .kept _ _ rfl rfl
        · cases h
    | refused message =>
      cases h
      exact .kept _ _ rfl rfl
    | _ => cases h
  | findPreference input =>
    cases choice with
    | settled =>
      dsimp only [ReceiptStatement.execute] at h
      split at h
      · cases h
      · cases h
        exact .kept _ _ rfl rfl
    | found id =>
      obtain ⟨row, _, heq⟩ := Option.map_eq_some_iff.mp h
      cases heq
      exact .kept _ _ rfl rfl
    | refused message =>
      cases h
      exact .kept _ _ rfl rfl
    | _ => cases h
  | updatePreference id optedIn =>
    cases choice with
    | settled =>
      dsimp only [ReceiptStatement.execute] at h
      split at h
      · cases h
        exact .kept _ _ rfl rfl
      · cases h
        exact .kept _ _ rfl rfl
    | refused message =>
      cases h
      exact .kept _ _ rfl rfl
    | _ => cases h
  | createPreference input =>
    cases choice with
    | created id =>
      dsimp only [ReceiptStatement.execute] at h
      split at h
      · cases h
        exact .kept _ _ rfl rfl
      · split at h
        · cases h
          exact .kept _ _ rfl rfl
        · cases h
    | refused message =>
      cases h
      exact .kept _ _ rfl rfl
    | _ => cases h

/-- What a step makes of a message's row, where it does not leave it. -/
inductive Changed (id : String) (row : NotificationMessage) :
    Label (receiptSystem config) → NotificationMessage → Prop where
  | rewritten (i : Nat) (q : NotificationStatement) (a : Except String q.Result)
      (front : Front ReceiptStatement.interface) (row' : NotificationMessage)
      (rewrites : Rewrites id row q a row') :
      Changed id row (.served i (.pipeline q) a front) row'
  | received (i : Nat) (providerMessageId : String) (status : ReceiptStatus)
      (reason : Option String) (a : Except String (Option NotificationMessage))
      (front : Front ReceiptStatement.interface)
      (advanced : advances providerMessageId status row = true) :
      Changed id row (.served i (.applyDeliveryStatus providerMessageId status reason) a front)
        (applied status reason row)

variable {Q R : Pool (receiptSystem config)} {l : Label (receiptSystem config)}
variable {row : NotificationMessage}

/-- No message is deleted; each stays as it is or is changed. -/
theorem row_of_step (hstep : Step (receiptSystem config) Q l R)
    (hrow : Q.store.pipeline.messages.get? id = some row) :
    ∃ row', R.store.pipeline.messages.get? id = some row' ∧
      (row' = row ∨ @Changed config id row l row') := by
  cases hstep with
  | start store threads entry => exact ⟨row, hrow, .inl rfl⟩
  | raised here error => exact ⟨row, hrow, .inl rfl⟩
  | @served store store' threads i q next a here answered =>
    obtain ⟨choice, hexecute⟩ := answered
    generalize hfront : (next a).front = front
    cases pipeline_of_execute hexecute with
    | kept q a other same => exact ⟨row, same ▸ hrow, .inl rfl⟩
    | served q choice a answered =>
      obtain ⟨row', hrow', hcases⟩ := row_of_execute answered hrow
      exact ⟨row', hrow', hcases.imp_right (.rewritten i q a front row')⟩
    | received providerMessageId status reason a written =>
      have hget : store'.pipeline.messages.get? id =
          some (if advances providerMessageId status row then applied status reason row else row) := by
        rw [written, get?_applyReceipt, hrow, Option.map_some]
      refine ⟨_, hget, ?_⟩
      split
      · rename_i hadvanced
        exact .inr (.received i _ _ _ a front hadvanced)
      · exact .inl rfl

/-- A message that is new was attached to its request. -/
theorem attached_of_step (hstep : Step (receiptSystem config) Q l R)
    (hfree : Q.store.pipeline.messages.get? id = none)
    (hrow : R.store.pipeline.messages.get? id = some row) :
    ∃ i requestId mode messages answer front request,
      l = .served i (.pipeline (.attachMessages requestId mode messages)) answer front ∧
        Q.store.pipeline.requests.get? requestId = some request ∧
          Attached row requestId request.tenantId messages := by
  cases hstep with
  | start store threads entry => cases hfree.symm.trans hrow
  | raised here error => cases hfree.symm.trans hrow
  | @served store store' threads i q next a here answered =>
    obtain ⟨choice, hexecute⟩ := answered
    generalize hfront : (next a).front = front
    cases pipeline_of_execute hexecute with
    | kept q a other same =>
      rw [same, hfree] at hrow
      cases hrow
    | served q choice a answered =>
      obtain ⟨requestId, mode, messages, request, rfl, hrequest, hattached⟩ :=
        attached_of_execute answered hfree hrow
      exact ⟨i, requestId, mode, messages, a, front, request, rfl, hrequest, hattached⟩
    | received providerMessageId status reason a written =>
      rw [written, get?_applyReceipt, hfree] at hrow
      cases hrow

end Steps

section Statements

/-- Who has claimed the message last, as one more step leaves it. -/
def claims (id : String) (current : Option Nat) : Label (receiptSystem config) → Option Nat
  | .served i (.pipeline (.claim messageId)) (.ok (some _)) _ =>
    if messageId = id then some i else current
  | _ => current

def lastClaimer (id : String) (trace : List (Label (receiptSystem config))) : Option Nat :=
  trace.foldl (claims id) none

/-- What a thread has had answered of the pipeline. -/
abbrev workOf (i : Nat) (trace : List (Label (receiptSystem config))) : List NotificationCall :=
  pipelineCalls (calls i trace)

/-- The thread has claimed the message, and another has claimed it since. -/
def Superseded (id : String) (i : Nat) (trace : List (Label (receiptSystem config))) : Prop :=
  HasClaimed id (workOf i trace) ∧ lastClaimer id trace ≠ some i

/-- An attempt settles its message only while no other has claimed it since; and one that has
recorded it as sent goes on to record a failure only while no receipt has come. -/
structure Timely (earlier : List (Label (receiptSystem config))) (Q : Pool (receiptSystem config))
    (l : Label (receiptSystem config)) (_R : Pool (receiptSystem config)) : Prop where
  current : ∀ i id write front, l = .served i (.pipeline (.updateMessage id write)) (.ok ()) front →
    ¬ Superseded id i earlier
  unreceipted : ∀ i id error front,
    l = .served i (.pipeline (.updateMessage id (.markFailed error))) (.ok ()) front →
      atWork id (workOf i earlier) = false →
        ∃ row, Q.store.pipeline.messages.get? id = some row ∧ row.status = .sent

/-- The step resets messages that have been rendering for too long. -/
def Resets (l : Label (receiptSystem config)) : Prop :=
  ∃ i answer front, l = .served i (.pipeline .resetStuckRendering) answer front

/-- A step moves the status of a message forward, if at all, but for a reset; the statuses of the
highest rank stay; and the late settlement of a superseded attempt changes nothing. -/
structure Forward (earlier : List (Label (receiptSystem config))) (Q : Pool (receiptSystem config))
    (l : Label (receiptSystem config)) (R : Pool (receiptSystem config)) : Prop where
  moved : ∀ id row, Q.store.pipeline.messages.get? id = some row →
    ∃ row', R.store.pipeline.messages.get? id = some row' ∧
      (row'.status = row.status ∨ row.status.rank < row'.status.rank ∨
        Resets l ∧ row.status = .rendering ∧ row'.status = .pending)
  settled : ∀ id row, Q.store.pipeline.messages.get? id = some row → row.status.rank = 3 →
    ∃ row', R.store.pipeline.messages.get? id = some row' ∧ row'.status = row.status
  late : ∀ i id write answer front,
    l = .served i (.pipeline (.updateMessage id write)) answer front → Superseded id i earlier →
      R.store.pipeline.messages.get? id = Q.store.pipeline.messages.get? id

end Statements

section Runs

variable {trace : List (Label (receiptSystem config))} {P Q R : Pool (receiptSystem config)}
variable {l : Label (receiptSystem config)} {id : String} {i : Nat}
variable {ok : Pool (receiptSystem config) → Label (receiptSystem config) → Prop}

theorem lastClaimer_snoc : lastClaimer id (trace ++ [l]) = claims id (lastClaimer id trace) l := by
  simp [lastClaimer]

theorem workOf_snoc {q : NotificationStatement} {a : Except String q.Result}
    {front : Front ReceiptStatement.interface} :
    workOf i (trace ++ [(.served i (.pipeline q) a front : Label (receiptSystem config))]) =
      workOf i trace ++ [⟨q, a⟩] := by
  unfold workOf
  rw [calls_served_self, pipelineCalls_snoc]

/-- Every claim of a run answers with the message it was made for. -/
theorem claimsOwn_of_run (hrun : Run ok P trace Q) : ClaimsOwn (workOf i trace) := by
  rintro ⟨q, a⟩ hmem
  obtain ⟨front, hlabel⟩ := mem_calls.mp (mem_pipelineCalls.mp hmem)
  obtain ⟨s, s', choice, hexecute⟩ := hrun.served_of_mem hlabel
  cases q with
  | claim messageId =>
    cases a with
    | error e => trivial
    | ok claimed =>
      cases claimed with
      | none => trivial
      | some claimed =>
        cases pipeline_of_execute hexecute with
        | served q choice a answered =>
          obtain ⟨row, hget, _, rfl, _⟩ := claim_answered answered
          exact (Table.key_of_get? hget : row.id = messageId)
        | kept q a other same => cases other
  | _ => trivial

/-- What an attempt was asked for by: its own claim, and its being open where it is recorded as sent. -/
theorem attempted_of_step (hrun : Run ok P trace Q) (hP : P.threads = [])
    {q : NotificationStatement} {a : Except String q.Result}
    {front : Front ReceiptStatement.interface}
    (hstep : Step (receiptSystem config) Q (.served i (.pipeline q) a front) R) :
    Attempted (workOf i trace) q :=
  @because_of_run (receiptSystem config) _ _ _ _ _ _
    (always_receiptProgram fun entry => attempted_program entry []) hrun hP _ _ _ _ hstep

/-- A message that is not sent yet has no receipt, and whoever has claimed it last and not recorded
it still has it to do. -/
structure Ordered (trace : List (Label (receiptSystem config))) (Q : Pool (receiptSystem config)) :
    Prop where
  unlinked : ∀ id row, Q.store.pipeline.messages.get? id = some row → row.status.rank < 2 →
    row.providerMessageId = none
  waiting : ∀ id i, lastClaimer id trace = some i → atWork id (workOf i trace) = true →
    ∃ row, Q.store.pipeline.messages.get? id = some row ∧ row.status.rank < 2

/-- An outcome is recorded by who has claimed the message last, over a status of lower rank. -/
theorem advanced_of_written (hrun : TracedRun Timely P trace Q) (hP : P.threads = [])
    (hordered : Ordered trace Q) {write : MessageWrite} {front : Front ReceiptStatement.interface}
    (hok : Timely trace Q (.served i (.pipeline (.updateMessage id write)) (.ok ()) front) R)
    (hstep : Step (receiptSystem config) Q
      (.served i (.pipeline (.updateMessage id write)) (.ok ()) front) R)
    {row : NotificationMessage} (hrow : Q.store.pipeline.messages.get? id = some row) :
    lastClaimer id trace = some i ∧ row.status.rank < (write.change row).status.rank ∧
      2 ≤ (write.change row).status.rank := by
  have hattempted := attempted_of_step hrun.run hP hstep
  have hlast : HasClaimed id (workOf i trace) → lastClaimer id trace = some i := by
    intro hclaimed
    by_contra hother
    exact hok.current i id write front rfl ⟨hclaimed, hother⟩
  have hbelow : lastClaimer id trace = some i → atWork id (workOf i trace) = true →
      row.status.rank < 2 := by
    intro hclaimer hwork
    obtain ⟨row', hrow', hrank⟩ := hordered.waiting id i hclaimer hwork
    cases hrow.symm.trans hrow'
    exact hrank
  cases write with
  | markSent templateId provider providerMessageId =>
    obtain ⟨hclaimed, hwork⟩ := hattempted (claimsOwn_of_run hrun.run)
    have hclaimer := hlast hclaimed
    exact ⟨hclaimer, hbelow hclaimer hwork, Nat.le_refl 2⟩
  | markFailed error =>
    have hclaimer := hlast hattempted
    refine ⟨hclaimer, ?_, Nat.le_succ 2⟩
    show row.status.rank < 3
    cases hwork : atWork id (workOf i trace) with
    | true =>
      have hrank := hbelow hclaimer hwork
      omega
    | false =>
      obtain ⟨row', hrow', hsent⟩ := hok.unreceipted i id error front rfl hwork
      cases hrow.symm.trans hrow'
      rw [hsent]
      decide
  | claim => exact hattempted.elim
  | reset => exact hattempted.elim

/-- What a step of a timely run makes of a status: it stays, or advances, or is reset. -/
theorem status_of_changed (hrun : TracedRun Timely P trace Q) (hP : P.threads = [])
    (hordered : Ordered trace Q) (hok : Timely trace Q l R) (hstep : Step (receiptSystem config) Q l R)
    {row row' : NotificationMessage} (hrow : Q.store.pipeline.messages.get? id = some row)
    (hchanged : @Changed config id row l row') :
    row.status.rank < row'.status.rank ∨
      Resets l ∧ row.status = .rendering ∧ row'.status = .pending := by
  cases hchanged with
  | rewritten i q a front row' rewrites =>
    cases rewrites with
    | claimed hpending =>
      refine .inl ?_
      rw [hpending]
      exact Nat.zero_lt_one
    | written write => exact .inl (advanced_of_written hrun hP hordered hok hstep hrow).2.1
    | reset count hrendering => exact .inr ⟨⟨i, _, front, rfl⟩, hrendering, rfl⟩
  | received i providerMessageId status reason a front advanced =>
    exact .inl (of_decide_eq_true (Bool.and_eq_true_iff.mp advanced).2)

theorem unlinked_of_step (hrun : TracedRun Timely P trace Q) (hP : P.threads = [])
    (hordered : Ordered trace Q) (hok : Timely trace Q l R) (hstep : Step (receiptSystem config) Q l R)
    {row' : NotificationMessage} (hrow' : R.store.pipeline.messages.get? id = some row')
    (hrank : row'.status.rank < 2) : row'.providerMessageId = none := by
  cases hrow : Q.store.pipeline.messages.get? id with
  | none =>
    obtain ⟨_, _, _, _, _, _, _, _, _, hattached⟩ := attached_of_step hstep hrow hrow'
    exact hattached.unlinked
  | some row =>
    obtain ⟨row'', hrow'', hcases⟩ := row_of_step hstep hrow
    cases hrow'.symm.trans hrow''
    rcases hcases with rfl | hchanged
    · exact hordered.unlinked id row' hrow hrank
    · cases hchanged with
      | rewritten i q a front row' rewrites =>
        cases rewrites with
        | claimed hpending =>
          exact hordered.unlinked id row hrow (by rw [hpending]; decide)
        | written write =>
          have habove := (advanced_of_written hrun hP hordered hok hstep hrow).2.2
          omega
        | reset count hrendering =>
          exact hordered.unlinked id row hrow (by rw [hrendering]; decide)
      | received i providerMessageId status reason a front advanced =>
        cases status <;> exact absurd hrank (by simp [applied, ReceiptStatus.status,
          NotificationMessageStatus.rank])

theorem lastClaimer_cases (h : lastClaimer id (trace ++ [l]) = some i) :
    lastClaimer id trace = some i ∨
      ∃ claimed front, l = .served i (.pipeline (.claim id)) (.ok (some claimed)) front := by
  rw [lastClaimer_snoc] at h
  unfold claims at h
  split at h
  · rename_i j messageId claimed front
    split at h
    · rename_i hid
      cases h
      exact .inr ⟨claimed, front, hid ▸ rfl⟩
    · exact .inl h
  · exact .inl h

/-- An attempt that is open was open before, or was just begun; and it was not just settled. -/
theorem atWork_cases (h : atWork id (workOf i (trace ++ [l])) = true) :
    (atWork id (workOf i trace) = true ∨
      ∃ claimed front, l = .served i (.pipeline (.claim id)) (.ok (some claimed)) front) ∧
    ∀ write front, l ≠ .served i (.pipeline (.updateMessage id write)) (.ok ()) front := by
  cases l with
  | start entry =>
    rw [workOf, calls_start] at h
    exact ⟨.inl h, fun write front hl => by cases hl⟩
  | raised j q =>
    rw [workOf, calls_raised] at h
    exact ⟨.inl h, fun write front hl => by cases hl⟩
  | served j q a front =>
    by_cases hj : j = i
    · subst hj
      cases q with
      | pipeline q =>
        rw [workOf_snoc, atWork_snoc] at h
        unfold attempt at h
        split at h
        · rename_i messageId claimed heq
          cases heq
          refine ⟨?_, fun write front' hl => by cases hl⟩
          rcases Bool.or_eq_true_iff.mp h with hwork | hid
          · exact .inl hwork
          · exact .inr ⟨claimed, front, by rw [of_decide_eq_true hid]⟩
        · rename_i messageId write heq
          cases heq
          obtain ⟨hwork, hid⟩ := Bool.and_eq_true_iff.mp h
          refine ⟨.inl hwork, fun write' front' hl => ?_⟩
          cases hl
          simp at hid
        · rename_i hclaim hupdate
          refine ⟨.inl h, fun write' front' hl => ?_⟩
          cases hl
          exact hupdate id write' rfl
      | _ =>
        rw [workOf, calls_served_self] at h
        simp only [pipelineCalls, List.filterMap_append, List.filterMap_cons, List.filterMap_nil,
          ReceiptCall.pipeline?, List.append_nil] at h
        exact ⟨.inl h, fun write front' hl => by cases hl⟩
    · rw [workOf, calls_served_other hj] at h
      refine ⟨.inl h, fun write front' hl => ?_⟩
      cases hl
      exact hj rfl

theorem waiting_of_step (hrun : TracedRun Timely P trace Q) (hP : P.threads = [])
    (hordered : Ordered trace Q) (hok : Timely trace Q l R) (hstep : Step (receiptSystem config) Q l R)
    (hclaimer : lastClaimer id (trace ++ [l]) = some i)
    (hwork : atWork id (workOf i (trace ++ [l])) = true) :
    ∃ row, R.store.pipeline.messages.get? id = some row ∧ row.status.rank < 2 := by
  obtain ⟨hopen, hunsettled⟩ := atWork_cases hwork
  by_cases hclaim : ∃ claimed front,
      l = .served i (.pipeline (.claim id)) (.ok (some claimed)) front
  · obtain ⟨claimed, front, rfl⟩ := hclaim
    obtain ⟨choice, hexecute⟩ := hstep.answered
    cases pipeline_of_execute hexecute with
    | served q choice a answered =>
      obtain ⟨row, _, _, _, hrow⟩ := claim_answered answered
      exact ⟨_, hrow, Nat.lt_succ_self 1⟩
    | kept q a other same => cases other
  · have hclaimer' := (lastClaimer_cases hclaimer).resolve_right hclaim
    obtain ⟨row, hrow, hrank⟩ := hordered.waiting id i hclaimer' (hopen.resolve_right hclaim)
    obtain ⟨row', hrow', hcases⟩ := row_of_step hstep hrow
    refine ⟨row', hrow', ?_⟩
    rcases hcases with rfl | hchanged
    · exact hrank
    · cases hchanged with
      | rewritten j q a front row' rewrites =>
        cases rewrites with
        | claimed hpending => exact Nat.lt_succ_self 1
        | written write =>
          obtain ⟨hlast, _⟩ := advanced_of_written hrun hP hordered hok hstep hrow
          cases hclaimer'.symm.trans hlast
          exact absurd rfl (hunsettled write front)
        | reset count hrendering => exact Nat.zero_lt_two
      | received j providerMessageId status reason a front advanced =>
        have hlinked := of_decide_eq_true (Bool.and_eq_true_iff.mp advanced).1
        cases (hordered.unlinked id row hrow hrank).symm.trans hlinked

/-- Along a timely run the messages stay ordered. -/
theorem ordered_of_run (hrun : TracedRun Timely P trace Q) (hP : P.threads = [])
    (hempty : P.store.pipeline = NotificationDb.empty) : Ordered trace Q := by
  induction hrun with
  | nil =>
    constructor
    · intro id row hrow
      rw [hempty] at hrow
      cases hrow
    · intro id i hclaimer
      cases hclaimer
  | @snoc trace Q R l hrun hok hstep ih =>
    constructor
    · intro id row hrow hrank
      exact unlinked_of_step hrun hP ih hok hstep hrow hrank
    · intro id i hclaimer hwork
      exact waiting_of_step hrun hP ih hok hstep hclaimer hwork

theorem forward_of_step (hrun : TracedRun Timely P trace Q) (hP : P.threads = [])
    (hempty : P.store.pipeline = NotificationDb.empty) (hok : Timely trace Q l R)
    (hstep : Step (receiptSystem config) Q l R) : Forward trace Q l R := by
  have hordered := ordered_of_run hrun hP hempty
  have hmoved : ∀ id row, Q.store.pipeline.messages.get? id = some row →
      ∃ row', R.store.pipeline.messages.get? id = some row' ∧
        (row'.status = row.status ∨ row.status.rank < row'.status.rank ∨
          Resets l ∧ row.status = .rendering ∧ row'.status = .pending) := by
    intro id row hrow
    obtain ⟨row', hrow', hcases⟩ := row_of_step hstep hrow
    refine ⟨row', hrow', ?_⟩
    rcases hcases with rfl | hchanged
    · exact .inl rfl
    · exact .inr (status_of_changed hrun hP hordered hok hstep hrow hchanged)
  refine ⟨hmoved, ?_, ?_⟩
  · intro id row hrow hrank
    obtain ⟨row', hrow', hsame | hadvanced | ⟨_, hrendering, _⟩⟩ := hmoved id row hrow
    · exact ⟨row', hrow', hsame⟩
    · have hbound : row'.status.rank ≤ 3 := by
        cases row'.status <;> decide
      omega
    · rw [hrendering] at hrank
      cases hrank
  · rintro i id write answer front rfl hsuperseded
    cases answer with
    | ok done => exact absurd hsuperseded (hok.current i id write front rfl)
    | error e =>
      obtain ⟨choice, hexecute⟩ := hstep.answered
      cases pipeline_of_execute hexecute with
      | served q choice a answered => rw [update_refused answered]
      | kept q a other same => cases other

/-- In a timely run every step moves the statuses forward only, and a status of the highest rank is
there to stay. -/
theorem forward_of_timely (suppressions : Table NotificationSuppression.id)
    (preferences : Table NotificationPreferenceRow.id) (now : Nat) :
    (∀ {trace : List (Label (receiptSystem config))} {Q R : Pool (receiptSystem config)}
      {l : Label (receiptSystem config)},
      TracedRun Timely ⟨⟨.empty, suppressions, preferences, now⟩, []⟩ trace Q →
        Timely trace Q l R → Step (receiptSystem config) Q l R → Forward trace Q l R) ∧
    ∀ {trace later : List (Label (receiptSystem config))} {Q R : Pool (receiptSystem config)}
      {id : String} {row : NotificationMessage},
      TracedRun Timely ⟨⟨.empty, suppressions, preferences, now⟩, []⟩ trace Q →
        Continued Timely trace Q later R → Q.store.pipeline.messages.get? id = some row →
          row.status.rank = 3 → ∃ row', R.store.pipeline.messages.get? id = some row' ∧
            row'.status = row.status := by
  refine ⟨fun hrun hok hstep => forward_of_step hrun rfl rfl hok hstep, ?_⟩
  intro trace later Q R id row hrun hlater hrow hrank
  induction hlater with
  | nil => exact ⟨row, hrow, rfl⟩
  | snoc before hok hstep ih =>
    obtain ⟨row', hrow', hstatus⟩ := ih
    have hforward := forward_of_step (before.run hrun) rfl rfl hok hstep
    obtain ⟨row'', hrow'', hsame⟩ := hforward.settled id row' hrow' (by rw [hstatus, hrank])
    exact ⟨row'', hrow'', hsame.trans hstatus⟩

end Runs

section Example

/-- Every type goes to e-mail, through the queue. -/
def mailing : NotificationConfig where
  entries _ := some ⟨["EMAIL"], .normal⟩
  providers _ := some "ses"
  render template model := (template.subject, template.body ++ model)
  payloadMaxBytes := 65536
  maxRecipientsPerRequest := 10000
  syncMessageThreshold := 5
  chunkSize := 100
  chunkSize_pos := hundred_pos

abbrev MailPool := Pool (receiptSystem mailing)

abbrev MailLabel := Label (receiptSystem mailing)

def quiet : MailPool := ⟨⟨.empty, .empty, .empty, 0⟩, []⟩

def sends (key : String) : Move (receiptSystem mailing) :=
  .start (.pipeline (.send ⟨"InvoiceOverdue", key, none, none, none, some "t", none, none⟩))

def works : Move (receiptSystem mailing) := .start (.pipeline .chunk)

def reconciles : Move (receiptSystem mailing) := .start (.pipeline .reconcile)

/-- A provider's callback comes in. -/
def calledBack : Move (receiptSystem mailing) := .start (.callback "EMAIL" "" none)

def serves (thread : Nat) (choices : List ReceiptChoice) : List (Move (receiptSystem mailing)) :=
  choices.map (.serve thread)

/-- A call that attaches one message and enqueues it. -/
def fansOut (requestId messageId : String) : List ReceiptChoice :=
  [.pipeline .settled, .pipeline (.created requestId),
    .pipeline (.recipients [⟨"u", some "u@x", none, none⟩]), .pipeline (.text "model"), .settled,
    .reading 0, .pipeline (.issued [messageId]), .pipeline .settled]

/-- A worker, from the chunk in the queue to what the provider answers. -/
def handsOver (providerMessageId : String) : List ReceiptChoice :=
  [.pipeline (.taken 0 true), .pipeline .settled, .pipeline .settled, .pipeline (.text "model"),
    .pipeline .settled, .pipeline (.template (some ⟨"t1", none, "body"⟩)),
    .pipeline (.text providerMessageId)]

/-- A provider's callback, up to the message it finds. -/
def callsBack (providerMessageId messageId : String) (status : DeliveryStatus) :
    List ReceiptChoice :=
  [.events [⟨providerMessageId, status, none⟩], .found messageId, .settled]

def statusOf (Q : MailPool) (id : String) : Option NotificationMessageStatus :=
  (Q.store.pipeline.messages.get? id).map (·.status)

/-- An attempt is reset as stuck, and its message claimed again, sent and delivered; then the first
attempt is over, and the message is SENT again. -/
theorem delivered_then_sent :
    ¬ ∀ {trace : List MailLabel} {Q R : MailPool} {l : MailLabel},
      TracedRun (fun _ _ _ _ => True) quiet trace Q → Step (receiptSystem mailing) Q l R →
        Forward trace Q l R := by
  have hplay : ((quiet.play (fun _ _ => True)
      ([sends "k"] ++ serves 0 (fansOut "r1" "m1") ++ [works] ++ serves 1 (handsOver "p1") ++
        [reconciles] ++ serves 2 [.pipeline (.stuck ["m1"])] ++ [works] ++
          serves 3 (handsOver "p2" ++ [ReceiptChoice.pipeline .settled]) ++
            [calledBack] ++ serves 4 (callsBack "p2" "m1" .delivered))).bind
              fun Q => (Q.move (.serve 1 (.pipeline .settled))).bind fun r =>
                (r.2.play (fun _ _ => True) []).map fun _ =>
                  decide (statusOf Q "m1" = some .delivered ∧ statusOf r.2 "m1" = some .sent)) =
        some true := by
    decide
  obtain ⟨Q, r, _, trace, _, hrun, hstep, _, hbefore, hafter⟩ :
      ∃ (Q : MailPool) (r : MailLabel × MailPool) (S : MailPool) (trace trace' : List MailLabel),
        Run (fun _ _ => True) quiet trace Q ∧ Step (receiptSystem mailing) Q r.1 r.2 ∧
          Run (fun _ _ => True) r.2 trace' S ∧ statusOf Q "m1" = some .delivered ∧
            statusOf r.2 "m1" = some .sent := Pool.play_step_reach hplay
  intro hforward
  obtain ⟨row, hrow, hdelivered⟩ := Option.map_eq_some_iff.mp hbefore
  obtain ⟨row', hrow', hsame⟩ := (hforward (hrun.traced fun _ _ _ _ _ _ => trivial) hstep).settled
    "m1" row hrow (by rw [hdelivered]; rfl)
  obtain ⟨row'', hrow'', hsent⟩ := Option.map_eq_some_iff.mp hafter
  cases hrow'.symm.trans hrow''
  rw [hsent, hdelivered] at hsame
  cases hsame

/-- Only this thread claims, and no failure is recorded. -/
def claimsAlone (j : Nat) : Label (receiptSystem config) → Bool
  | .served i (.pipeline (.claim _)) (.ok (some _)) _ => decide (i = j)
  | .served _ (.pipeline (.updateMessage _ (.markFailed _))) _ _ => false
  | _ => true

variable {trace : List (Label (receiptSystem config))} {P Q : Pool (receiptSystem config)}
variable {i j : Nat} {id : String}

theorem lastClaimer_of_alone (h : ∀ l ∈ trace, claimsAlone j l = true)
    (hclaimed : HasClaimed id (workOf i trace)) : lastClaimer id trace = some i := by
  have hlast : ∀ trace : List (Label (receiptSystem config)), (∀ l ∈ trace, claimsAlone j l = true) →
      ∀ claimed front, .served i (.pipeline (.claim id)) (.ok (some claimed)) front ∈ trace →
        lastClaimer id trace = some i := by
    intro trace
    induction trace using List.reverseRecOn with
    | nil =>
      intro _ claimed front hmem
      cases hmem
    | append_singleton trace l ih =>
      intro h claimed front hmem
      have hj : i = j := of_decide_eq_true (h _ hmem)
      rw [lastClaimer_snoc]
      rcases List.mem_append.mp hmem with hmem | hmem
      · rw [ih (fun l' hl' => h l' (List.mem_append_left _ hl')) claimed front hmem]
        unfold claims
        split
        · rename_i k messageId claimed' front'
          have hk : k = j := of_decide_eq_true (h _ (List.mem_append_right _ (List.mem_singleton_self _)))
          rw [hk, hj, ite_self]
        · rfl
      · rw [← List.mem_singleton.mp hmem]
        simp [claims]
  obtain ⟨claimed, hmem⟩ := hclaimed
  obtain ⟨front, hserved⟩ := mem_calls.mp (mem_pipelineCalls.mp hmem)
  exact hlast trace h claimed front hserved

theorem timely_of_alone {l : Label (receiptSystem config)} {Q R : Pool (receiptSystem config)}
    (h : ∀ l ∈ trace, claimsAlone j l = true) (hl : claimsAlone j l = true) : Timely trace Q l R where
  current := by
    rintro i id write front _ ⟨hclaimed, hother⟩
    exact hother (lastClaimer_of_alone h hclaimed)
  unreceipted := by
    rintro i id error front rfl
    cases hl

theorem timelyRun_of_alone (hrun : Run (fun _ l => claimsAlone j l = true) P trace Q) :
    TracedRun Timely P trace Q := by
  induction hrun with
  | nil => exact .nil
  | snoc hrun hok hstep ih =>
    exact ih.snoc (timely_of_alone (hrun.forall_mem fun _ _ h => h) hok) hstep

/-- One worker sends the message, and its receipt takes it from SENT to DELIVERED. -/
theorem delivered_once_sent :
    ∃ (Q R : MailPool) (l : MailLabel) (trace : List MailLabel), TracedRun Timely quiet trace Q ∧
      statusOf Q "m1" = some .sent ∧ statusOf R "m1" = some .delivered ∧ Forward trace Q l R := by
  have hplay : ((quiet.play (fun _ l => claimsAlone 1 l = true)
      ([sends "k"] ++ serves 0 (fansOut "r1" "m1") ++ [works] ++
        serves 1 (handsOver "p1" ++ [ReceiptChoice.pipeline .settled]) ++ [calledBack] ++
          serves 2 [.events [⟨"p1", .delivered, none⟩], .found "m1"])).bind fun Q =>
            (Q.move (.serve 2 .settled)).bind fun r =>
              (r.2.play (fun _ _ => True) []).map fun _ =>
                decide (claimsAlone 1 r.1 = true ∧ statusOf Q "m1" = some .sent ∧
                  statusOf r.2 "m1" = some .delivered)) = some true := by
    decide
  obtain ⟨Q, r, _, trace, _, hrun, hstep, _, halone, hbefore, hafter⟩ :
      ∃ (Q : MailPool) (r : MailLabel × MailPool) (S : MailPool) (trace trace' : List MailLabel),
        Run (fun _ l => claimsAlone 1 l = true) quiet trace Q ∧
          Step (receiptSystem mailing) Q r.1 r.2 ∧ Run (fun _ _ => True) r.2 trace' S ∧
            claimsAlone 1 r.1 = true ∧ statusOf Q "m1" = some .sent ∧
              statusOf r.2 "m1" = some .delivered := Pool.play_step_reach hplay
  have htimely := timelyRun_of_alone hrun
  refine ⟨Q, r.2, r.1, trace, htimely, hbefore, hafter, ?_⟩
  exact (forward_of_timely .empty .empty 0).1 htimely
    (timely_of_alone (hrun.forall_mem fun _ _ h => h) halone) hstep

end Example

end DddBoilerplate.Notification
