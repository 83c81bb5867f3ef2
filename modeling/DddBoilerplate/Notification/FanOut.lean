/- module: DddBoilerplate/Notification/FanOut
   generality: I
   digest: When a notification is fanned out once: one request for a key, one message for a pair, no empty request. -/

import Mathlib.Data.List.Pairwise
import DddBoilerplate.Concurrency.Stops
import DddBoilerplate.Notification.Histories

set_option autoImplicit false
set_option relaxedAutoImplicit false
set_option linter.all false

namespace DddBoilerplate.Notification

open Concurrency Store

section Statements

variable {config : NotificationConfig}

/-- The fan-out of the request was completed along the trace. -/
def FannedOut (trace : List (Label (notificationSystem config))) (requestId : String) : Prop :=
  ∃ i, FannedBy config (calls i trace) requestId

/-- A claimed message is handed to its channel's provider. -/
def HandsOver (m : ClaimedNotificationMessage) : Label (notificationSystem config) → Prop
  | .served _ (.send claimed _) _ _ => claimed = m
  | _ => False

/-- Whether a thread's look that found no request of the key is the last word on it. -/
def look (i : Nat) (tenantId : Option String) (dedupKey : String) (current : Bool) :
    Label (notificationSystem config) → Bool
  | .served j (.findByDedupKey tenantId' dedupKey') (.ok none) _ =>
    current || decide (j = i ∧ tenantId' = tenantId ∧ dedupKey' = dedupKey)
  | .served _ (.create data) (.ok (some _)) _ =>
    current && !decide (data.tenantId = tenantId ∧ data.dedupKey = dedupKey)
  | _ => current

def lookIsCurrent (i : Nat) (tenantId : Option String) (dedupKey : String)
    (trace : List (Label (notificationSystem config))) : Bool :=
  trace.foldl (look i tenantId dedupKey) false

/-- A call without a tenant creates a request only while no other has created one of the key since
it looked; and a call ends early only where the request it is at work on is fanned out, or where
another call that goes on is at work on it. -/
structure Orderly (trace : List (Label (notificationSystem config))) : Prop where
  current : ∀ (earlier later : List (Label (notificationSystem config))) i data row front,
    trace = earlier ++ .served i (.create data) (.ok (some row)) front :: later →
      data.tenantId = none → lookIsCurrent i none data.dedupKey earlier = true
  carried : ∀ (earlier later : List (Label (notificationSystem config))) l i requestId,
    trace = earlier ++ l :: later → l.stops i → InHand (calls i (earlier ++ [l])) requestId →
      FannedOut earlier requestId ∨
        ∃ j, j ≠ i ∧ InHand (calls j earlier) requestId ∧ ¬ Stopped j earlier

/-- One request for a key; of each pair at most one message handed to a provider; and no call
returns a request that is not fanned out, unless another call that goes on is at work on it. -/
structure FannedOutOnce (trace : List (Label (notificationSystem config)))
    (db : NotificationDb) : Prop where
  single : ∀ a ∈ db.requestKeys, ∀ b ∈ db.requestKeys,
    a.tenantId = b.tenantId → a.dedupKey = b.dedupKey → a = b
  handed : ∀ m m', (∃ l ∈ trace, HandsOver m l) → (∃ l ∈ trace, HandsOver m' l) →
    ∀ a ∈ db.requestKeys, ∀ b ∈ db.requestKeys, a.id = m.notificationRequestId →
      b.id = m'.notificationRequestId → a.tenantId = b.tenantId → a.dedupKey = b.dedupKey →
        m.recipientRef = m'.recipientRef → m.channel = m'.channel → m.id = m'.id
  completed : ∀ earlier later i record answer front,
    trace = earlier ++ .served i (.respond record) answer front :: later →
      FannedOut earlier record.id ∨
        ∃ j, j ≠ i ∧ InHand (calls j earlier) record.id ∧ ¬ Stopped j earlier

end Statements

section Rows

variable {db db' : NotificationDb} {choice : NotificationChoice}

/-- The identities of the requests grow with each creation, and with nothing else. -/
inductive Requested (db db' : NotificationDb) : NotificationCall → Prop where
  | kept (call : NotificationCall) (same : db'.requestKeys = db.requestKeys) :
      Requested db db' call
  | created (data : NewNotificationRequest) (row : NotificationRequest)
      (own : row.key = ⟨row.id, data.tenantId, data.dedupKey⟩)
      (grown : db'.requestKeys = db.requestKeys ++ [row.key]) :
      Requested db db' ⟨.create data, .ok (some row)⟩

theorem keys_attach {requestId : String} {mode : NotificationMode}
    {messages : List NewNotificationMessage} {ids : List String} :
    (db.attach requestId mode messages ids).2.requestKeys = db.requestKeys ∧
      db.messageKeys <+: (db.attach requestId mode messages ids).2.messageKeys := by
  unfold NotificationDb.attach
  cases hrequest : db.requests.get? requestId with
  | none => exact ⟨rfl, List.prefix_rfl⟩
  | some request =>
    simp only
    cases hinserted :
        db.insertMessages (List.zipWith (NotificationDb.fannedOut request) ids messages) with
    | none => exact ⟨rfl, List.prefix_rfl⟩
    | some inserted =>
      obtain ⟨hrequests, hmessages⟩ := NotificationDb.insertMessages_eq_some hinserted
      simp only
      refine ⟨NotificationDb.requestKeys_writeRequests.trans hrequests, ?_⟩
      rw [NotificationDb.messageKeys_writeRequests, hmessages]
      exact List.prefix_append _ _

theorem keys_push {job : ChunkJob} :
    (db.push job).requestKeys = db.requestKeys ∧ (db.push job).messageKeys = db.messageKeys := by
  unfold NotificationDb.push
  split
  · exact ⟨rfl, rfl⟩
  · exact ⟨rfl, rfl⟩

theorem keys_of_execute {q : NotificationStatement} {a : Except String q.Result}
    (h : q.execute choice db = some (a, db')) :
    Requested db db' ⟨q, a⟩ ∧ db.messageKeys <+: db'.messageKeys := by
  cases q with
  | create data =>
    cases choice with
    | settled =>
      dsimp only [NotificationStatement.execute] at h
      split at h
      · cases h
        exact ⟨.kept _ rfl, List.prefix_rfl⟩
      · cases h
    | created id =>
      obtain ⟨inserted, hinserted, heq⟩ := Option.map_eq_some_iff.mp h
      cases heq
      obtain ⟨hrequests, hmessages, _⟩ := NotificationDb.insertRequest_eq_some hinserted
      exact ⟨.created _ _ rfl hrequests, hmessages ▸ List.prefix_rfl⟩
    | refused message =>
      cases h
      exact ⟨.kept _ rfl, List.prefix_rfl⟩
    | _ => cases h
  | attachMessages requestId mode messages =>
    cases choice with
    | issued ids =>
      dsimp only [NotificationStatement.execute] at h
      split at h
      · obtain rfl : (db.attach requestId mode messages ids).2 = db' :=
          congrArg Prod.snd (Option.some.inj h)
        exact ⟨.kept _ keys_attach.1, keys_attach.2⟩
      · cases h
    | refused message =>
      cases h
      exact ⟨.kept _ rfl, List.prefix_rfl⟩
    | _ => cases h
  | findByDedupKey tenantId dedupKey =>
    cases choice with
    | settled =>
      dsimp only [NotificationStatement.execute] at h
      split at h
      · cases h
      · cases h
        exact ⟨.kept _ rfl, List.prefix_rfl⟩
    | found id =>
      obtain ⟨row, _, heq⟩ := Option.map_eq_some_iff.mp h
      cases heq
      exact ⟨.kept _ rfl, List.prefix_rfl⟩
    | refused message =>
      cases h
      exact ⟨.kept _ rfl, List.prefix_rfl⟩
    | _ => cases h
  | update requestId write =>
    cases choice with
    | settled =>
      dsimp only [NotificationStatement.execute] at h
      split at h
      · cases h
        exact ⟨.kept _ rfl, List.prefix_rfl⟩
      · cases h
        exact ⟨.kept _ NotificationDb.requestKeys_writeRequests, List.prefix_rfl⟩
    | refused message =>
      cases h
      exact ⟨.kept _ rfl, List.prefix_rfl⟩
    | _ => cases h
  | markRunning requestId =>
    cases choice with
    | settled =>
      cases h
      exact ⟨.kept _ NotificationDb.requestKeys_writeRequests, List.prefix_rfl⟩
    | refused message =>
      cases h
      exact ⟨.kept _ rfl, List.prefix_rfl⟩
    | _ => cases h
  | claim messageId =>
    cases choice with
    | settled =>
      cases h
      exact ⟨.kept _ rfl, NotificationDb.messageKeys_writeMessages ▸ List.prefix_rfl⟩
    | refused message =>
      cases h
      exact ⟨.kept _ rfl, List.prefix_rfl⟩
    | _ => cases h
  | updateMessage messageId write =>
    cases choice with
    | settled =>
      dsimp only [NotificationStatement.execute] at h
      split at h
      · cases h
        exact ⟨.kept _ rfl, List.prefix_rfl⟩
      · cases h
        exact ⟨.kept _ rfl, NotificationDb.messageKeys_writeMessages ▸ List.prefix_rfl⟩
    | refused message =>
      cases h
      exact ⟨.kept _ rfl, List.prefix_rfl⟩
    | _ => cases h
  | resetStuckRendering =>
    cases choice with
    | stuck ids =>
      cases h
      exact ⟨.kept _ rfl, NotificationDb.messageKeys_writeMessages ▸ List.prefix_rfl⟩
    | refused message =>
      cases h
      exact ⟨.kept _ rfl, List.prefix_rfl⟩
    | _ => cases h
  | enqueue job =>
    cases choice with
    | settled =>
      cases h
      exact ⟨.kept _ keys_push.1, keys_push.2 ▸ List.prefix_rfl⟩
    | lost message =>
      cases h
      exact ⟨.kept _ keys_push.1, keys_push.2 ▸ List.prefix_rfl⟩
    | refused message =>
      cases h
      exact ⟨.kept _ rfl, List.prefix_rfl⟩
    | _ => cases h
  | takeChunk =>
    cases choice with
    | taken index kept =>
      obtain ⟨job, _, heq⟩ := Option.map_eq_some_iff.mp h
      cases kept with
      | false =>
        cases heq
        exact ⟨.kept _ rfl, List.prefix_rfl⟩
      | true =>
        cases heq
        exact ⟨.kept _ rfl, List.prefix_rfl⟩
    | refused message =>
      cases h
      exact ⟨.kept _ rfl, List.prefix_rfl⟩
    | _ => cases h
  | _ =>
    cases choice <;> cases h <;> exact ⟨.kept _ rfl, List.prefix_rfl⟩

end Rows

section Runs

variable {config : NotificationConfig} {P Q R : Pool (notificationSystem config)}
variable {trace later : List (Label (notificationSystem config))}
variable {l : Label (notificationSystem config)} {requestId : String} {i : Nat}
variable {ok : Pool (notificationSystem config) → Label (notificationSystem config) → Prop}

/-- What a step does to the identities of the rows. -/
theorem keys_of_step (h : Step (notificationSystem config) Q l R) :
    Q.store.messageKeys <+: R.store.messageKeys ∧
      (R.store.requestKeys = Q.store.requestKeys ∨
        ∃ i data row front, l = .served i (.create data) (.ok (some row)) front ∧
          row.key = ⟨row.id, data.tenantId, data.dedupKey⟩ ∧
            R.store.requestKeys = Q.store.requestKeys ++ [row.key]) := by
  cases h with
  | start store threads entry => exact ⟨List.prefix_rfl, .inl rfl⟩
  | @served store store' threads i q next a here answered =>
    obtain ⟨choice, hexecute⟩ := answered
    obtain ⟨hrequested, hmessages⟩ := keys_of_execute hexecute
    refine ⟨hmessages, ?_⟩
    generalize hfront : (next a).front = front
    cases hrequested with
    | kept call same => exact .inl same
    | created data row own grown => exact .inr ⟨i, data, row, front, rfl, own, grown⟩
  | raised here error => exact ⟨List.prefix_rfl, .inl rfl⟩

theorem requestKeys_mono (h : Step (notificationSystem config) Q l R) {key : RequestKey}
    (hkey : key ∈ Q.store.requestKeys) : key ∈ R.store.requestKeys := by
  rcases (keys_of_step h).2 with hsame | ⟨_, _, _, _, _, _, hgrown⟩
  · rwa [hsame]
  · rw [hgrown]
    exact List.mem_append_left _ hkey

theorem lookIsCurrent_snoc {tenantId : Option String} {dedupKey : String} :
    lookIsCurrent i tenantId dedupKey (trace ++ [l]) =
      look i tenantId dedupKey (lookIsCurrent i tenantId dedupKey trace) l := by
  simp [lookIsCurrent]

/-- A look that is the last word on a key: it was so before, or it is this one. -/
theorem look_eq_true {tenantId : Option String} {dedupKey : String} {current : Bool}
    (h : look i tenantId dedupKey current l = true) :
    current = true ∨ ∃ front, l = .served i (.findByDedupKey tenantId dedupKey) (.ok none) front := by
  unfold look at h
  split at h
  · rename_i j tenantId' dedupKey' front
    rcases Bool.or_eq_true_iff.mp h with h | h
    · exact .inl h
    · obtain ⟨rfl, rfl, rfl⟩ := of_decide_eq_true h
      exact .inr ⟨front, rfl⟩
  · exact .inl (Bool.and_eq_true_iff.mp h).1
  · exact .inl h

theorem none_found {db db' : NotificationDb} {choice : NotificationChoice}
    {tenantId : Option String} {dedupKey : String}
    (h : (NotificationStatement.findByDedupKey tenantId dedupKey).execute choice db =
      some (.ok none, db')) :
    ∀ key ∈ db.requestKeys, ¬ (key.tenantId = tenantId ∧ key.dedupKey = dedupKey) := by
  cases choice with
  | settled =>
    dsimp only [NotificationStatement.execute] at h
    split at h
    · cases h
    · rename_i hnone
      rintro key hkey ⟨rfl, rfl⟩
      obtain ⟨row, hrow, rfl⟩ := List.mem_map.mp hkey
      refine hnone (List.any_eq_true.mpr ⟨row, hrow, ?_⟩)
      simp [matchesKey, NotificationRequest.key]
  | found id =>
    obtain ⟨row, _, heq⟩ := Option.map_eq_some_iff.mp h
    cases heq
  | refused message => cases h
  | _ => cases h

/-- As long as a look that found nothing is the last word on a key, no request has it. -/
theorem clear_of_look {tenantId : Option String} {dedupKey : String} (hrun : Run ok P trace Q)
    (h : lookIsCurrent i tenantId dedupKey trace = true) :
    ∀ key ∈ Q.store.requestKeys, ¬ (key.tenantId = tenantId ∧ key.dedupKey = dedupKey) := by
  induction hrun with
  | nil => cases h
  | @snoc trace Q R l hrun _ hstep ih =>
    rw [lookIsCurrent_snoc] at h
    have hclear : ∀ key ∈ Q.store.requestKeys,
        ¬ (key.tenantId = tenantId ∧ key.dedupKey = dedupKey) := by
      rcases look_eq_true h with hbefore | ⟨front, rfl⟩
      · exact ih hbefore
      · obtain ⟨choice, hexecute⟩ := hstep.answered
        exact none_found hexecute
    rcases (keys_of_step hstep).2 with hsame | ⟨j, data, row, front, rfl, hown, hgrown⟩
    · rwa [hsame]
    · rw [hgrown]
      rintro key hkey ⟨htenant, hdedup⟩
      rcases List.mem_append.mp hkey with hkey | hkey
      · exact hclear key hkey ⟨htenant, hdedup⟩
      · rw [List.mem_singleton.mp hkey, hown] at htenant hdedup
        have hother := (Bool.and_eq_true_iff.mp h).2
        simp only at htenant hdedup
        simp [htenant, hdedup] at hother

theorem Orderly.earlier (h : Orderly (trace ++ later)) : Orderly trace where
  current := by
    rintro earlier rest i data row front rfl htenant
    exact h.current earlier (rest ++ later) i data row front (by simp) htenant
  carried := by
    rintro earlier rest l i id rfl hstops hhand
    exact h.carried earlier (rest ++ later) l i id (by simp) hstops hhand

/-- One request for a key. -/
theorem single_of_run (hrun : Run ok P trace Q) (hP : P.store.requestKeys = [])
    (horderly : Orderly trace) :
    Q.store.requestKeys.Pairwise fun a b => a.tenantId = b.tenantId → a.dedupKey ≠ b.dedupKey := by
  induction hrun with
  | nil =>
    rw [hP]
    exact .nil
  | @snoc trace Q R l hrun _ hstep ih =>
    have hbefore := ih horderly.earlier
    rcases (keys_of_step hstep).2 with hsame | ⟨i, data, row, front, rfl, hown, hgrown⟩
    · rwa [hsame]
    · have hdistinct := R.store.distinct
      change R.store.requestKeys.Pairwise _ at hdistinct
      rw [hgrown, List.pairwise_append] at hdistinct ⊢
      refine ⟨hbefore, List.pairwise_singleton _ _, fun key hkey last hlast htenant hdedup => ?_⟩
      obtain rfl := List.mem_singleton.mp hlast
      rw [hown] at htenant hdedup
      by_cases hnone : data.tenantId = none
      · have hcurrent := horderly.current trace [] i data row front rfl hnone
        exact clear_of_look hrun hcurrent key hkey ⟨htenant.trans hnone, hdedup⟩
      · refine hdistinct.2.2 key hkey row.key (List.mem_singleton_self _) ?_ ?_ ?_
        · rw [htenant]
          exact hnone
        · rw [hown]
          exact htenant
        · rw [hown]
          exact hdedup

/-- A claim answers with what its message is. -/
theorem claimed_of_execute {db db' : NotificationDb} {choice : NotificationChoice}
    {messageId : String} {m : ClaimedNotificationMessage}
    (h : (NotificationStatement.claim messageId).execute choice db = some (.ok (some m), db')) :
    (⟨m.id, m.notificationRequestId, m.recipientRef, m.channel⟩ : MessageKey) ∈
      db.messageKeys := by
  cases choice with
  | settled =>
    have hfound := Except.ok.inj (congrArg Prod.fst (Option.some.inj h))
    obtain ⟨message, hmessage, rfl⟩ := Option.map_eq_some_iff.mp hfound
    obtain ⟨hget, _⟩ := Option.filter_eq_some_iff.mp hmessage
    exact List.mem_map.mpr ⟨message, Table.mem_of_get? hget, rfl⟩
  | refused message => cases h
  | _ => cases h

theorem claimed_of_run (hrun : Run ok P trace Q) {messageId : String}
    {m : ClaimedNotificationMessage} {front : Front NotificationStatement.interface}
    (hmem : (Label.served i (NotificationStatement.claim messageId) (.ok (some m)) front :
      Label (notificationSystem config)) ∈ trace) :
    (⟨m.id, m.notificationRequestId, m.recipientRef, m.channel⟩ : MessageKey) ∈
      Q.store.messageKeys := by
  induction hrun with
  | nil => cases hmem
  | @snoc trace Q R l hrun _ hstep ih =>
    refine (keys_of_step hstep).1.subset ?_
    rcases List.mem_append.mp hmem with hmem | hmem
    · exact ih hmem
    · obtain rfl := List.mem_singleton.mp hmem
      obtain ⟨choice, hexecute⟩ := hstep.answered
      exact claimed_of_execute hexecute

theorem all_accounted (entry : NotificationEntry) :
    Accounted (Because config) (fun _ _ => True) [] ((notificationSystem config).program entry) :=
  accounted_program entry

/-- A message that is handed to a provider is one of the rows. -/
theorem row_of_handed (hrun : Run ok P trace Q) (hthreads : P.threads = [])
    {m : ClaimedNotificationMessage} (hmem : ∃ l ∈ trace, HandsOver m l) :
    (⟨m.id, m.notificationRequestId, m.recipientRef, m.channel⟩ : MessageKey) ∈
      Q.store.messageKeys := by
  obtain ⟨l, hmem, hhands⟩ := hmem
  unfold HandsOver at hhands
  split at hhands
  · rename_i i claimed rendered answer front
    subst hhands
    obtain ⟨earlier, hearlier, messageId, hclaim⟩ :=
      because_of_mem all_accounted hrun hthreads hmem
    obtain ⟨front', hserved⟩ := mem_calls.mp (hearlier _ hclaim)
    exact claimed_of_run hrun hserved
  · exact hhands.elim

/-- Of a pair at most one message is handed over. -/
theorem handed_once (hrun : Run ok P trace Q) (hthreads : P.threads = [])
    {m m' : ClaimedNotificationMessage} (hm : ∃ l ∈ trace, HandsOver m l)
    (hm' : ∃ l ∈ trace, HandsOver m' l)
    (hrequest : m.notificationRequestId = m'.notificationRequestId)
    (hrecipient : m.recipientRef = m'.recipientRef) (hchannel : m.channel = m'.channel) :
    m.id = m'.id := by
  have hrow := row_of_handed hrun hthreads hm
  have hrow' := row_of_handed hrun hthreads hm'
  have hsame := List.inj_on_of_nodup_map Q.store.paired hrow hrow'
    (by simp [MessageKey.pair, hrequest, hrecipient, hchannel])
  exact congrArg MessageKey.id hsame

/-- A call answers about a request with its own row. -/
theorem honest_of_execute {db db' : NotificationDb} {choice : NotificationChoice}
    {q : NotificationStatement} {a : Except String q.Result}
    (h : q.execute choice db = some (a, db')) : NotificationCall.honest ⟨q, a⟩ := by
  cases q with
  | update requestId write =>
    cases choice with
    | settled =>
      dsimp only [NotificationStatement.execute] at h
      split at h
      · cases h
        trivial
      · rename_i row hrow
        cases h
        exact (NotificationDb.change_requestId write row).trans (Table.key_of_get? hrow)
    | refused message =>
      cases h
      trivial
    | _ => cases h
  | attachMessages requestId mode messages =>
    cases choice with
    | issued ids =>
      dsimp only [NotificationStatement.execute] at h
      split at h
      · obtain rfl : (db.attach requestId mode messages ids).1 = a :=
          congrArg Prod.fst (Option.some.inj h)
        unfold NotificationDb.attach
        cases hrequest : db.requests.get? requestId with
        | none => trivial
        | some request =>
          simp only
          split
          · trivial
          · exact (NotificationDb.change_requestId _ request).trans (Table.key_of_get? hrequest)
      · cases h
    | refused message =>
      cases h
      trivial
    | _ => cases h
  | findById requestId =>
    cases choice with
    | settled =>
      obtain rfl : Except.ok (db.requests.get? requestId) = a :=
        congrArg Prod.fst (Option.some.inj h)
      cases hrow : db.requests.get? requestId with
      | none => trivial
      | some row => exact Table.key_of_get? hrow
    | refused message =>
      cases h
      trivial
    | _ => cases h
  | _ => trivial

theorem honest_of_run (hrun : Run ok P trace Q) : AllHonest (calls i trace) := by
  rintro ⟨q, a⟩ hmem
  obtain ⟨front, hserved⟩ := mem_calls.mp hmem
  obtain ⟨s, s', choice, hexecute⟩ := hrun.served_of_mem hserved
  exact honest_of_execute hexecute

/-- A request that a call was answered with is one of the rows. -/
theorem given_of_execute {db db' : NotificationDb} {choice : NotificationChoice}
    {q : NotificationStatement} {a : Except String q.Result}
    (h : q.execute choice db = some (a, db'))
    (hgiven : NotificationCall.given? ⟨q, a⟩ = some requestId) :
    ∃ key ∈ db'.requestKeys, key.id = requestId := by
  cases q with
  | findByDedupKey tenantId dedupKey =>
    cases choice with
    | settled =>
      dsimp only [NotificationStatement.execute] at h
      split at h
      · cases h
      · cases h
        cases hgiven
    | found id =>
      obtain ⟨row, hrow, heq⟩ := Option.map_eq_some_iff.mp h
      cases heq
      obtain ⟨hget, _⟩ := Option.filter_eq_some_iff.mp hrow
      exact ⟨row.key, List.mem_map.mpr ⟨row, Table.mem_of_get? hget, rfl⟩,
        Option.some.inj hgiven⟩
    | refused message =>
      cases h
      cases hgiven
    | _ => cases h
  | create data =>
    cases choice with
    | settled =>
      dsimp only [NotificationStatement.execute] at h
      split at h
      · cases h
        cases hgiven
      · cases h
    | created id =>
      obtain ⟨inserted, hinserted, heq⟩ := Option.map_eq_some_iff.mp h
      cases heq
      obtain ⟨hgrown, _⟩ := NotificationDb.insertRequest_eq_some hinserted
      rw [hgrown]
      exact ⟨_, List.mem_append_right _ (List.mem_singleton_self _), Option.some.inj hgiven⟩
    | refused message =>
      cases h
      cases hgiven
    | _ => cases h
  | _ => cases hgiven

theorem given_of_run (hrun : Run ok P trace Q) {call : NotificationCall}
    (hmem : call ∈ calls i trace) (hgiven : NotificationCall.given? call = some requestId) :
    ∃ key ∈ Q.store.requestKeys, key.id = requestId := by
  obtain ⟨q, a⟩ := call
  obtain ⟨front, hserved⟩ := mem_calls.mp hmem
  induction hrun with
  | nil => cases hserved
  | @snoc trace Q R l hrun _ hstep ih =>
    rcases List.mem_append.mp hserved with hserved | hserved
    · obtain ⟨key, hkey, hid⟩ := ih (mem_calls.mpr ⟨front, hserved⟩) hserved
      exact ⟨key, requestKeys_mono hstep hkey, hid⟩
    · obtain rfl := List.mem_singleton.mp hserved
      obtain ⟨choice, hexecute⟩ := hstep.answered
      exact given_of_execute hexecute hgiven

theorem InHand.mono {history history' : List NotificationCall} (h : InHand history requestId)
    (hsubset : history ⊆ history') : InHand history' requestId := by
  obtain ⟨⟨call, hmem, hcreates⟩, call', hmem', hgiven⟩ := h
  exact ⟨⟨call, hsubset hmem, hcreates⟩, call', hsubset hmem', hgiven⟩

theorem calls_subset (i : Nat) : calls i trace ⊆ calls i (trace ++ [l]) := fun _ => mem_calls_append

theorem FannedOut.snoc (h : FannedOut trace requestId) : FannedOut (trace ++ [l]) requestId := by
  obtain ⟨i, hi⟩ := h
  exact ⟨i, hi.mono (calls_subset i)⟩

/-- The request is fanned out, or in the hands of a call that goes on. -/
def Carried (trace : List (Label (notificationSystem config))) (requestId : String) : Prop :=
  FannedOut trace requestId ∨ ∃ j, InHand (calls j trace) requestId ∧ ¬ Stopped j trace

/-- A request in the hands of a thread that may end with this step is carried on. -/
theorem carried_of_inHand {j : Nat} (horderly : Orderly (trace ++ [l]))
    (hhand : InHand (calls j (trace ++ [l])) requestId) (hgoes : ¬ Stopped j trace) :
    Carried (trace ++ [l]) requestId := by
  by_cases hstops : l.stops j
  · rcases horderly.carried trace [] l j requestId rfl hstops hhand with hfanned | hother
    · exact .inl hfanned.snoc
    · obtain ⟨k, hk, hhand', hgoes'⟩ := hother
      refine .inr ⟨k, hhand'.mono (calls_subset k), fun hstopped => ?_⟩
      rcases stopped_snoc.mp hstopped with hbefore | hnow
      · exact hgoes' hbefore
      · exact hk (stops_unique hnow hstops)
  · refine .inr ⟨j, hhand, fun hstopped => ?_⟩
    rcases stopped_snoc.mp hstopped with hbefore | hnow
    · exact hgoes hbefore
    · exact hstops hnow

theorem Carried.snoc (h : Carried trace requestId) (horderly : Orderly (trace ++ [l])) :
    Carried (trace ++ [l]) requestId := by
  rcases h with hfanned | ⟨j, hhand, hgoes⟩
  · exact .inl hfanned.snoc
  · exact carried_of_inHand horderly (hhand.mono (calls_subset j)) hgoes

/-- No request is left empty by all. -/
theorem carried_of_run (hrun : Run ok P trace Q) (hP : P.store.requestKeys = [])
    (horderly : Orderly trace) : ∀ key ∈ Q.store.requestKeys, Carried trace key.id := by
  induction hrun with
  | nil =>
    intro key hkey
    rw [hP] at hkey
    cases hkey
  | @snoc trace Q R l hrun _ hstep ih =>
    have hbefore := ih horderly.earlier
    intro key hkey
    rcases (keys_of_step hstep).2 with hsame | ⟨i, data, row, front, rfl, hown, hgrown⟩
    · rw [hsame] at hkey
      exact (hbefore key hkey).snoc horderly
    · rw [hgrown] at hkey
      rcases List.mem_append.mp hkey with hkey | hkey
      · exact (hbefore key hkey).snoc horderly
      · obtain rfl := List.mem_singleton.mp hkey
        have hmem : (⟨.create data, .ok (some row)⟩ : NotificationCall) ∈
            calls i (trace ++ [(.served i (NotificationStatement.create data) (.ok (some row)) front :
              Label (notificationSystem config))]) :=
          mem_calls.mpr ⟨front, List.mem_append_right _ (List.mem_singleton_self _)⟩
        refine carried_of_inHand horderly ⟨⟨_, hmem, rfl⟩, _, hmem, rfl⟩ ?_
        exact not_stopped_of_served hrun hstep

/-- An answer to a caller is about a request that is fanned out, or carried on by another call. -/
theorem completed_of_run {Q' : Pool (notificationSystem config)} {i : Nat}
    {record : NotificationRequest} {answer : Except String Unit}
    {front : Front NotificationStatement.interface} (hrun : Run ok P trace Q)
    (hthreads : P.threads = []) (hP : P.store.requestKeys = []) (horderly : Orderly trace)
    (hstep : Step (notificationSystem config) Q (.served i (.respond record) answer front) Q') :
    FannedOut trace record.id ∨
      ∃ j, j ≠ i ∧ InHand (calls j trace) record.id ∧ ¬ Stopped j trace := by
  have hbecause : Because config (calls i trace) (.respond record) :=
    because_of_run all_accounted hrun hthreads hstep
  obtain ⟨⟨call, hmem, hgiven⟩, hfanned⟩ := hbecause (honest_of_run hrun)
  obtain ⟨key, hkey, hid⟩ := given_of_run hrun hmem hgiven
  rcases carried_of_run hrun hP horderly key hkey with hdone | ⟨j, hhand, hgoes⟩
  · exact .inl (hid ▸ hdone)
  · rw [hid] at hhand
    by_cases hj : j = i
    · rw [hj] at hhand
      exact .inl ⟨i, hfanned _ hhand⟩
    · exact .inr ⟨j, hj, hhand, hgoes⟩

theorem single_request (hrun : Run ok P trace Q) (hP : P.store.requestKeys = [])
    (horderly : Orderly trace) :
    ∀ a ∈ Q.store.requestKeys, ∀ b ∈ Q.store.requestKeys,
      a.tenantId = b.tenantId → a.dedupKey = b.dedupKey → a = b := by
  have hpairs := single_of_run hrun hP horderly
  have hsymm : Std.Symm fun a b : RequestKey =>
      a.tenantId = b.tenantId → a.dedupKey ≠ b.dedupKey :=
    ⟨fun _ _ h htenant hdedup => h htenant.symm hdedup.symm⟩
  intro a ha b hb htenant hdedup
  by_contra hne
  exact hpairs.forall ha hb hne htenant hdedup

/-- In an orderly run notifications are fanned out once. -/
theorem fanned_out_once (hrun : Run (fun _ _ => True) P trace Q) (hthreads : P.threads = [])
    (hP : P.store.requestKeys = []) (horderly : Orderly trace) :
    FannedOutOnce trace Q.store where
  single := single_request hrun hP horderly
  handed := by
    intro m m' hm hm' a ha b hb haid hbid htenant hdedup hrecipient hchannel
    have hsame := single_request hrun hP horderly a ha b hb htenant hdedup
    have hrequest : m.notificationRequestId = m'.notificationRequestId := by
      rw [← haid, ← hbid, hsame]
    exact handed_once hrun hthreads hm hm' hrequest hrecipient hchannel
  completed := by
    rintro earlier later i record answer front rfl
    obtain ⟨S, S', hbefore, _, hstep, _⟩ := run_of_append hrun
    exact completed_of_run hbefore hthreads hP horderly.earlier hstep

end Runs

section Example

/-- Every type goes to e-mail with high priority. -/
def demo : NotificationConfig where
  entries _ := some ⟨["EMAIL"], .high⟩
  providers _ := some "ses"
  render template model := (template.subject, template.body ++ model)
  payloadMaxBytes := 65536
  maxRecipientsPerRequest := 10000
  syncMessageThreshold := 5
  chunkSize := 100
  chunkSize_pos := by decide

abbrev DemoPool := Pool (notificationSystem demo)

abbrev DemoLabel := Label (notificationSystem demo)

def idle : DemoPool := ⟨.empty, []⟩

/-- A call for the key `k`. -/
def sending (tenantId : Option String) : Move (notificationSystem demo) :=
  .start (.send ⟨"InvoiceOverdue", "k", none, none, none, tenantId, none, none⟩)

def moves (thread : Nat) (choices : List NotificationChoice) : List (Move (notificationSystem demo)) :=
  choices.map (.serve thread)

/-- From the recipients to the answer, for one recipient. -/
def fansOutTo (messageId : String) : List NotificationChoice :=
  [.recipients [⟨"u", some "u@x", none, none⟩], .text "model", .preferences [], .flag false,
    .issued [messageId], .settled, .settled, .text "model", .settled,
    .template (some ⟨"t1", none, "body"⟩), .text "p1", .settled, .settled, .settled, .settled,
    .settled, .settled, .settled, .settled, .settled]

/-- The message of the one recipient. -/
def claimedAs (id requestId : String) (tenantId : Option String) : ClaimedNotificationMessage :=
  ⟨id, requestId, tenantId, "u", "EMAIL", some "u@x", none⟩

variable {config : NotificationConfig}

instance (m : ClaimedNotificationMessage) (l : Label (notificationSystem config)) :
    Decidable (HandsOver m l) := by
  unfold HandsOver
  split
  · infer_instance
  · infer_instance

/-- The step tells the recipients. -/
def tellsRecipients : Label (notificationSystem config) → Bool
  | .served _ (.resolveRecipients _ _ _) _ _ => true
  | _ => false

/-- The step is a create of a thread other than this one. -/
def createsElsewhere (i : Nat) : Label (notificationSystem config) → Bool
  | .served j (.create _) _ _ => decide (j ≠ i)
  | _ => false

/-- The step answers a caller of this thread with this request. -/
def answers (i : Nat) (requestId : String) : Label (notificationSystem config) → Bool
  | .served j (.respond record) _ _ => decide (j = i ∧ record.id = requestId)
  | _ => false

variable {trace : List (Label (notificationSystem config))} {requestId : String} {i : Nat}

theorem not_fannedOut_of_untold (h : ∀ l ∈ trace, tellsRecipients l = false) :
    ¬ FannedOut trace requestId := by
  rintro ⟨j, _, _, _, _, hmem, _⟩
  obtain ⟨front, hserved⟩ := mem_calls.mp hmem
  cases h _ hserved

theorem inHand_of_creator {j : Nat} (h : ∀ l ∈ trace, createsElsewhere i l = false)
    (hhand : InHand (calls j trace) requestId) : j = i := by
  obtain ⟨⟨⟨q, a⟩, hmem, hcreates⟩, _⟩ := hhand
  obtain ⟨front, hserved⟩ := mem_calls.mp hmem
  have hhere := h _ hserved
  cases q with
  | create data => simpa [createsElsewhere] using hhere
  | _ => cases hcreates

/-- Two calls without a tenant make two requests, and the one recipient gets two messages; and a
call that dies before it knows the recipients leaves a request that the next call returns. -/
theorem fanned_out_twice_and_never :
    (∃ (Q : DemoPool) (trace : List DemoLabel), Run (fun _ _ => True) idle trace Q ∧
      Q.store.requestKeys = [⟨"r1", none, "k"⟩, ⟨"r2", none, "k"⟩] ∧
        (∃ l ∈ trace, HandsOver (claimedAs "m1" "r1" none) l) ∧
          (∃ l ∈ trace, HandsOver (claimedAs "m2" "r2" none) l) ∧
            ¬ FannedOutOnce trace Q.store) ∧
    ∃ (Q : DemoPool) (trace : List DemoLabel), Run (fun _ _ => True) idle trace Q ∧
      Q.store.requestKeys = [⟨"r1", some "t", "k"⟩] ∧ Q.store.messageKeys = [] ∧
        ¬ FannedOutOnce trace Q.store := by
  constructor
  · have hplay : ((idle.record (fun _ _ => True)
        ([sending none, sending none] ++ moves 0 [.settled] ++ moves 1 [.settled] ++
          moves 0 (.created "r1" :: fansOutTo "m1") ++
            moves 1 (.created "r2" :: fansOutTo "m2"))).map fun r =>
              decide (r.2.store.requestKeys = [⟨"r1", none, "k"⟩, ⟨"r2", none, "k"⟩] ∧
                (∃ l ∈ r.1, HandsOver (claimedAs "m1" "r1" none) l) ∧
                  ∃ l ∈ r.1, HandsOver (claimedAs "m2" "r2" none) l)) = some true := by
      decide
    obtain ⟨Q, trace, hrun, hkeys, hfirst, hsecond⟩ :
        ∃ (Q : DemoPool) (trace : List DemoLabel), Run (fun _ _ => True) idle trace Q ∧
          Q.store.requestKeys = [⟨"r1", none, "k"⟩, ⟨"r2", none, "k"⟩] ∧
            (∃ l ∈ trace, HandsOver (claimedAs "m1" "r1" none) l) ∧
              ∃ l ∈ trace, HandsOver (claimedAs "m2" "r2" none) l :=
      Pool.record_reach hplay
    refine ⟨Q, trace, hrun, hkeys, hfirst, hsecond, fun h => ?_⟩
    have hsame := h.single ⟨"r1", none, "k"⟩ (by simp [hkeys]) ⟨"r2", none, "k"⟩ (by simp [hkeys])
      rfl rfl
    exact absurd hsame (by decide)
  · have hplay : ((idle.record (fun _ _ => True)
        ([sending (some "t")] ++ moves 0 [.settled, .created "r1"] ++
          [Move.raise 0, sending (some "t")] ++ moves 1 [.found "r1"])).bind fun r =>
            (r.2.move (.serve 1 .settled)).map fun s =>
              decide (s.2.store.requestKeys = [⟨"r1", some "t", "k"⟩] ∧
                s.2.store.messageKeys = [] ∧ answers 1 "r1" s.1 = true ∧
                  (∀ l ∈ r.1, tellsRecipients l = false) ∧
                    (∀ l ∈ r.1, createsElsewhere 0 l = false) ∧ ∃ l ∈ r.1, l.stops 0)) =
          some true := by
      decide
    obtain ⟨Q, trace, ⟨l, R⟩, hrun, hstep, hkeys, hmessages, hanswers, huntold, hcreator, hstopped⟩ :
        ∃ (Q : DemoPool) (trace : List DemoLabel) (r : DemoLabel × DemoPool),
          Run (fun _ _ => True) idle trace Q ∧ Step (notificationSystem demo) Q r.1 r.2 ∧
            r.2.store.requestKeys = [⟨"r1", some "t", "k"⟩] ∧ r.2.store.messageKeys = [] ∧
              answers 1 "r1" r.1 = true ∧ (∀ l ∈ trace, tellsRecipients l = false) ∧
                (∀ l ∈ trace, createsElsewhere 0 l = false) ∧ ∃ l ∈ trace, l.stops 0 :=
      Pool.record_step_reach hplay
    refine ⟨R, trace ++ [l], hrun.snoc trivial hstep, hkeys, hmessages, fun h => ?_⟩
    unfold answers at hanswers
    split at hanswers
    · rename_i j record answer front hl
      obtain ⟨rfl, hid⟩ := of_decide_eq_true hanswers
      change l = _ at hl
      rcases h.completed trace [] _ record answer front (by rw [hl]) with hfanned | ⟨k, _, hhand, hgoes⟩
      · exact not_fannedOut_of_untold huntold hfanned
      · obtain rfl := inHand_of_creator hcreator hhand
        exact hgoes hstopped
    · cases hanswers

/-- The step ends no thread and creates no request without a tenant. -/
def untroubled : Label (notificationSystem config) → Bool
  | .served _ _ _ .failed => false
  | .raised _ _ => false
  | .served _ (.create data) _ _ => decide (data.tenantId ≠ none)
  | _ => true

theorem orderly_of_untroubled (h : ∀ l ∈ trace, untroubled l = true) : Orderly trace where
  current := by
    rintro earlier later i data row front rfl htenant
    have hl := h _ (List.mem_append_right _ (List.mem_cons_self ..))
    cases front with
    | failed => cases hl
    | asks request => simp [untroubled, htenant] at hl
    | finished => simp [untroubled, htenant] at hl
  carried := by
    rintro earlier later l i id rfl hstops _
    have hl := h _ (List.mem_append_right _ (List.mem_cons_self ..))
    cases l with
    | start entry => exact hstops.elim
    | raised j q => cases hl
    | served j q a front =>
      obtain ⟨rfl, _⟩ := stops_served.mp hstops
      cases hl

/-- A call of a tenant, and the same call again. -/
theorem fanned_out_once_demo :
    ∃ (Q : DemoPool) (trace : List DemoLabel), Run (fun _ _ => True) idle trace Q ∧
      (∃ l ∈ trace, HandsOver (claimedAs "m1" "r1" (some "t")) l) ∧
        (∃ l ∈ trace, answers 1 "r1" l = true) ∧ FannedOutOnce trace Q.store := by
  have hplay : ((idle.record (fun _ _ => True)
      ([sending (some "t")] ++ moves 0 (.settled :: .created "r1" :: fansOutTo "m1") ++
        [sending (some "t")] ++ moves 1 [.found "r1", .settled])).map fun r =>
          decide ((∃ l ∈ r.1, HandsOver (claimedAs "m1" "r1" (some "t")) l) ∧
            (∃ l ∈ r.1, answers 1 "r1" l = true) ∧ ∀ l ∈ r.1, untroubled l = true)) =
              some true := by
    decide
  obtain ⟨Q, trace, hrun, hhands, hanswers, huntroubled⟩ :
      ∃ (Q : DemoPool) (trace : List DemoLabel), Run (fun _ _ => True) idle trace Q ∧
        (∃ l ∈ trace, HandsOver (claimedAs "m1" "r1" (some "t")) l) ∧
          (∃ l ∈ trace, answers 1 "r1" l = true) ∧ ∀ l ∈ trace, untroubled l = true :=
    Pool.record_reach hplay
  exact ⟨Q, trace, hrun, hhands, hanswers,
    fanned_out_once hrun rfl rfl (orderly_of_untroubled huntroubled)⟩

end Example

end DddBoilerplate.Notification
