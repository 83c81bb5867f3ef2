/- module: DddBoilerplate/Sales/GeneratedOnce
   generality: I
   digest: An undisturbed generation commits one invoice at most, and succeeds exactly with it. -/

import DddBoilerplate.Sales.RecurringInvoice

set_option autoImplicit false
set_option relaxedAutoImplicit false
set_option linter.all false

namespace DddBoilerplate.Sales

open Concurrency
open Procurement (Failure RequestContext AbacCheck AbacDecision)
open Recurring (RecurringExecution ExecutionStatus)

section Serves

variable {abac : AbacCheck → AbacDecision} {ctx : RequestContext} {command : OccurrencePayload}
variable {s s' : InvoicingDb}

/-- What an invoice is known by, whatever its status. -/
def InvoiceRow.content (row : InvoiceRow) : String × List StoredLine := (row.id, row.lines)

theorem serves_findExecution {a : Option RecurringExecution}
    (h : (invoicingSystem abac ctx command).Serves .findExecution s a s') :
    a = some s.execution ∧ s' = s := by
  obtain ⟨choice, hserve⟩ := h
  cases choice <;> cases hserve
  exact ⟨rfl, rfl⟩

/-- An invoice is created, whether this is acknowledged or not, or nothing is. -/
theorem serves_createInvoice {input : CreateInvoiceRequest} {a : Except String String}
    (h : (invoicingSystem abac ctx command).Serves (.createInvoice input) s a s') :
    (∃ message, a = .error message ∧ s' = s) ∨
    ∃ drawn row events,
      createInvoice abac (generationContext ctx command) drawn input = .ok (row, events) ∧
      s' = { s with invoices := s.invoices ++ [row], outbox := s.outbox ++ events } ∧
      (a = .ok row.id ∨ ∃ message, a = .error message) := by
  obtain ⟨choice, hserve⟩ := h
  cases choice with
  | creates drawn outcome =>
    dsimp only [InvoicingStatement.serve] at hserve
    cases hcreate : createInvoice abac (generationContext ctx command) drawn input with
    | error failure =>
      rw [hcreate] at hserve
      cases hserve
      exact .inl ⟨_, rfl, rfl⟩
    | ok made =>
      obtain ⟨row, events⟩ := made
      rw [hcreate] at hserve
      cases outcome with
      | committed =>
        cases hserve
        exact .inr ⟨drawn, row, events, hcreate, rfl, .inl rfl⟩
      | failed message =>
        cases hserve
        exact .inl ⟨_, rfl, rfl⟩
      | unacknowledged message =>
        cases hserve
        exact .inr ⟨drawn, row, events, hcreate, rfl, .inr ⟨_, rfl⟩⟩
  | answers => cases hserve
  | writes outcome => cases hserve
  | reads outcome => cases hserve
  | clock reading => cases hserve
  | limits selected => cases hserve

theorem serves_getInvoice {id : String} {a : Except String InvoiceRow}
    (h : (invoicingSystem abac ctx command).Serves (.getInvoice id) s a s') : s' = s := by
  obtain ⟨choice, hserve⟩ := h
  cases choice <;> cases hserve
  rfl

/-- The execution is completed, whether this is acknowledged or not, or nothing is. -/
theorem serves_completeExecution {id : String} {a : Except String Unit}
    (h : (invoicingSystem abac ctx command).Serves (.completeExecution id) s a s') :
    (∃ message, a = .error message) ∧ s' = s ∨ s' = settleExecution (completed id) s := by
  obtain ⟨choice, hserve⟩ := h
  cases choice with
  | writes outcome =>
    cases outcome with
    | committed =>
      cases hserve
      exact .inr rfl
    | failed message =>
      cases hserve
      exact .inl ⟨⟨_, rfl⟩, rfl⟩
    | unacknowledged message =>
      cases hserve
      exact .inr rfl
  | answers => cases hserve
  | creates drawn outcome => cases hserve
  | reads outcome => cases hserve
  | clock reading => cases hserve
  | limits selected => cases hserve

theorem serves_failExecution {message : String} {a : Unit}
    (h : (invoicingSystem abac ctx command).Serves (.failExecution message) s a s') :
    s' = settleExecution (·.fail message) s := by
  obtain ⟨choice, hserve⟩ := h
  cases choice <;> cases hserve
  rfl

theorem serves_failStale {a : Unit}
    (h : (invoicingSystem abac ctx command).Serves .failStale s a s') :
    s' = settleExecution (·.fail staleMessage) s := by
  obtain ⟨choice, hserve⟩ := h
  cases choice <;> cases hserve
  rfl

theorem serves_findStale {time : Nat} {a : Bool}
    (h : (invoicingSystem abac ctx command).Serves (.findStale time) s a s') : s' = s := by
  obtain ⟨choice, hserve⟩ := h
  cases choice <;> cases hserve
  rfl

theorem serves_clock {a : Nat}
    (h : (invoicingSystem abac ctx command).Serves .clock s a s') :
    s'.execution = s.execution ∧ s'.invoices = s.invoices := by
  obtain ⟨choice, hserve⟩ := h
  cases choice with
  | clock reading =>
    dsimp only [InvoicingStatement.serve] at hserve
    split at hserve
    · cases hserve
      exact ⟨rfl, rfl⟩
    · cases hserve
  | answers => cases hserve
  | creates drawn outcome => cases hserve
  | reads outcome => cases hserve
  | writes outcome => cases hserve
  | limits selected => cases hserve

theorem postInvoice_content {now : Nat} {row posted : InvoiceRow} {events : List InvoiceEvent}
    (h : postInvoice now row = .ok (posted, events)) : posted.content = row.content := by
  simp only [postInvoice] at h
  cases hstatus : row.status with
  | draft =>
    rw [hstatus] at h
    cases h
    rfl
  | posted =>
    rw [hstatus] at h
    cases h
    rfl
  | cancelled =>
    rw [hstatus] at h
    cases h

theorem postById_keeps {id : String} (h : postById ctx id s = .ok s') :
    s'.execution = s.execution ∧ (s.invoices.length ≤ 1 →
      s'.invoices.map InvoiceRow.content = s.invoices.map InvoiceRow.content) := by
  simp only [postById] at h
  split at h
  · cases h
  rename_i row hfound
  obtain ⟨⟨posted, events⟩, hposted, h⟩ := of_bind_ok h
  cases h
  have hrow := List.mem_of_find?_eq_some hfound
  have hcontent := postInvoice_content hposted
  refine ⟨rfl, fun hids => ?_⟩
  rw [List.map_map]
  apply List.map_congr_left
  intro other hother
  have hsame : other = row := by
    obtain hnil | ⟨only, honly⟩ := Nat.le_one_iff_eq_zero_or_eq_one.mp hids |>.imp
      List.eq_nil_of_length_eq_zero List.length_eq_one_iff.mp
    · rw [hnil] at hother
      cases hother
    · rw [honly] at hother hrow
      rw [List.mem_singleton.mp hother, List.mem_singleton.mp hrow]
  simp only [Function.comp_apply]
  split
  · rw [hcontent, hsame]
  · rfl

/-- Posting changes an invoice in its status only. -/
theorem serves_postInvoice {id : String} {a : Except String Unit}
    (h : (invoicingSystem abac ctx command).Serves (.postInvoice id) s a s') :
    s'.execution = s.execution ∧ (s.invoices.length ≤ 1 →
      s'.invoices.map InvoiceRow.content = s.invoices.map InvoiceRow.content) := by
  obtain ⟨choice, hserve⟩ := h
  cases choice with
  | writes outcome =>
    dsimp only [InvoicingStatement.serve] at hserve
    cases hpost : postById (generationContext ctx command) id s with
    | error failure =>
      rw [hpost] at hserve
      cases hserve
      exact ⟨rfl, fun _ => rfl⟩
    | ok posted =>
      rw [hpost] at hserve
      have hkeeps := postById_keeps hpost
      cases outcome with
      | committed =>
        cases hserve
        exact hkeeps
      | failed message =>
        cases hserve
        exact ⟨rfl, fun _ => rfl⟩
      | unacknowledged message =>
        cases hserve
        exact hkeeps
  | answers => cases hserve
  | creates drawn outcome => cases hserve
  | reads outcome => cases hserve
  | clock reading => cases hserve
  | limits selected => cases hserve

/-- What settling does: an execution in progress is settled, any other stays. -/
theorem settleExecution_cases (settle : RecurringExecution → RecurringExecution)
    (s : InvoicingDb) :
    s.execution.status = .inProgress ∧
        settleExecution settle s = { s with execution := settle s.execution } ∨
      s.execution.status ≠ .inProgress ∧ settleExecution settle s = s := by
  by_cases hopen : s.execution.status = .inProgress
  · exact .inl ⟨hopen, by rw [settleExecution, if_pos hopen]⟩
  · exact .inr ⟨hopen, by rw [settleExecution, if_neg hopen]⟩

/-- An execution that is settled stays so. -/
theorem settled_of_serves {q : InvoicingStatement} {a : q.Answer}
    (h : (invoicingSystem abac ctx command).Serves q s a s')
    (hsettled : s.execution.status ≠ .inProgress) : s'.execution.status ≠ .inProgress := by
  have hsettle : ∀ settle, settleExecution settle s = s := fun settle => by
    rw [settleExecution, if_neg hsettled]
  cases q with
  | findExecution =>
    obtain ⟨_, rfl⟩ := serves_findExecution h
    exact hsettled
  | createInvoice input =>
    rcases serves_createInvoice h with ⟨_, _, rfl⟩ | ⟨_, _, _, _, rfl, _⟩
    · exact hsettled
    · exact hsettled
  | getInvoice id =>
    rw [serves_getInvoice h]
    exact hsettled
  | completeExecution id =>
    rcases serves_completeExecution h with ⟨_, rfl⟩ | rfl
    · exact hsettled
    · rw [hsettle]
      exact hsettled
  | failExecution message =>
    rw [serves_failExecution h, hsettle]
    exact hsettled
  | postInvoice id =>
    rw [(serves_postInvoice h).1]
    exact hsettled
  | clock =>
    rw [(serves_clock h).1]
    exact hsettled
  | findStale time =>
    rw [serves_findStale h]
    exact hsettled
  | failStale =>
    rw [serves_failStale h, hsettle]
    exact hsettled

end Serves

section Runs

variable {abac : AbacCheck → AbacDecision} {ctx : RequestContext} {command : OccurrencePayload}
variable {trace : List (Label (invoicingSystem abac ctx command))}
variable {P Q : Pool (invoicingSystem abac ctx command)}
variable {l : Label (invoicingSystem abac ctx command)}

theorem linked_program (e : InvoicingEntry) :
    Linked (follow command) ((invoicingSystem abac ctx command).program e) := by
  cases e with
  | delivery => exact linked_delivery
  | sweep => exact linked_sweep

/-- One delivery at a time is about to settle the execution. -/
def Exclusive (P : Pool (invoicingSystem abac ctx command)) : Prop :=
  ∀ (i j : Nat) (p p' : InvoicingProgram Unit), P.threads[i]? = some p → P.threads[j]? = some p' →
    handling p.front = true → handling p'.front = true → i = j

theorem handling_program (e : InvoicingEntry) :
    handling ((invoicingSystem abac ctx command).program e).front = false := by
  cases e with
  | sweep => rfl
  | delivery =>
    change handling (onRecurringOccurrenceRequested command).front = false
    rw [onRecurringOccurrenceRequested]
    split
    · rfl
    rw [run]
    split
    · rfl
    split
    · rfl
    split
    · rfl
    · rfl

/-- A program that goes on to settle the execution was about to already, or has just found it in
progress. -/
theorem handling_of_follow {q : InvoicingStatement} {a : q.Answer}
    {front : Front InvoicingStatement.interface} (h : follow command q a front)
    (hhandling : handling front = true) :
    handling (.asks q) = true ∨ ∃ execution : RecurringExecution,
      (⟨q, a⟩ : Σ q : InvoicingStatement, q.Answer) = ⟨.findExecution, some execution⟩ ∧
        execution.status = .inProgress := by
  cases q with
  | findExecution =>
    rcases h with ⟨rfl, _⟩ | ⟨execution, hfound, hopen, _⟩
    · cases hhandling
    · exact .inr ⟨execution, by rw [hfound], hopen⟩
  | createInvoice input => exact .inl rfl
  | getInvoice id => exact .inl rfl
  | completeExecution id => exact .inl rfl
  | failExecution message => exact .inl rfl
  | postInvoice id =>
    obtain rfl : front = .finished := h
    cases hhandling
  | clock =>
    obtain rfl : front = .asks (.findStale (a - staleExecutionMs)) := h
    cases hhandling
  | findStale time =>
    have hfront : front = if a then .asks .failStale else .finished := h
    cases a with
    | false =>
      rw [hfront] at hhandling
      cases hhandling
    | true =>
      rw [hfront] at hhandling
      cases hhandling
  | failStale =>
    obtain rfl : front = .finished := h
    cases hhandling

theorem Exclusive.step (h : Exclusive P) (hlinked : P.Linked (follow command))
    (hok : Undisturbed P l) (hstep : Step (invoicingSystem abac ctx command) P l Q) :
    Exclusive Q := by
  cases hstep with
  | start store threads e =>
    have hnew : ∀ (i : Nat) (p : InvoicingProgram Unit),
        (threads ++ [(invoicingSystem abac ctx command).program e])[i]? = some p →
        handling p.front = true → threads[i]? = some p := by
      intro i p hi hhandling
      rcases Nat.lt_or_ge i threads.length with hlt | hge
      · rwa [List.getElem?_append_left hlt] at hi
      · rw [List.getElem?_append_right hge] at hi
        have hp := List.mem_singleton.mp (List.mem_of_getElem? hi)
        rw [hp, handling_program] at hhandling
        cases hhandling
    intro i j p p' hi hj hp hp'
    exact h i j p p' (hnew i p hi hp) (hnew j p' hj hp') hp hp'
  | @served store store' threads i q next a here answered =>
    have hlink := (hlinked _ (List.mem_of_getElem? here) a).1
    have hfirst : handling (next a).front = true →
        ∀ (j : Nat) (p : InvoicingProgram Unit), j ≠ i → threads[j]? = some p →
          handling p.front = false := by
      intro hhandling j p hj hp
      rcases handling_of_follow hlink hhandling with hasks | ⟨execution, heq, hopen⟩
      · by_contra hother
        exact hj (h i j _ p here hp hasks (Bool.eq_true_of_not_eq_false hother)).symm
      · cases heq
        obtain ⟨ha, _⟩ := serves_findExecution answered
        obtain rfl := Option.some.inj ha
        exact (hok hopen).2 p (List.mem_of_getElem? hp)
    intro j k p p' hj hk hp hp'
    rw [List.getElem?_set] at hj hk
    split at hj
    · rename_i hij
      split at hk
      · rename_i hik
        rw [← hij, ← hik]
      · rename_i hik
        split at hj
        · cases hj
          exact absurd hp' (by rw [hfirst hp k p' (fun hki => hik hki.symm) hk]; decide)
        · cases hj
    · rename_i hij
      split at hk
      · split at hk
        · cases hk
          exact absurd hp (by rw [hfirst hp' j p (fun hji => hij hji.symm) hj]; decide)
        · cases hk
      · exact h j k p p' hj hk hp hp'
  | @raised store threads i q next here error =>
    have hkept : ∀ (j : Nat) (p : InvoicingProgram Unit),
        (threads.set i (.fail error))[j]? = some p → handling p.front = true →
          threads[j]? = some p := by
      intro j p hj hhandling
      rw [List.getElem?_set] at hj
      split at hj
      · split at hj
        · cases hj
          cases hhandling
        · cases hj
      · exact hj
    intro j k p p' hj hk hp hp'
    exact h j k p p' (hkept j p hj hp) (hkept k p' hk hp') hp hp'

theorem exclusive_of_run (hrun : Run Undisturbed P trace Q) (hP : P.threads = []) :
    Q.Linked (follow command) ∧ Exclusive Q := by
  have hstart : P.Linked (follow command) ∧ Exclusive P := by
    constructor
    · intro p hp
      rw [hP] at hp
      cases hp
    · intro i j p p' hi
      rw [hP] at hi
      cases hi
  refine @Run.invariant _ _ _ _ _ (fun Q => Q.Linked (follow command) ∧ Exclusive Q) hrun hstart ?_
  · rintro Q l R ⟨hlinked, hexclusive⟩ hok hstep
    exact ⟨hstep.linked linked_program hlinked, hexclusive.step hlinked hok hstep⟩

end Runs

section Outline

variable {abac : AbacCheck → AbacDecision} {ctx : RequestContext} {command : OccurrencePayload}
variable {s s' : InvoicingDb}

/-- What the tables keep to: one invoice at most, with all lines; a success has one, a failure has
none. -/
structure Sound (command : OccurrencePayload) (s : InvoicingDb) : Prop where
  once : s.invoices.length ≤ 1
  billed : ∀ row ∈ s.invoices, List.Forall₂ Bills command.lines row.lines
  success : s.execution.status = .success → s.invoices ≠ []
  otherwise : s.execution.status ≠ .inProgress → s.execution.status ≠ .success → s.invoices = []

/-- What is known where a delivery makes its next request. -/
def Known (command : OccurrencePayload) (s : InvoicingDb) :
    Front InvoicingStatement.interface → Prop
  | .asks (.createInvoice input) => s.execution.status = .inProgress ∧ s.invoices = [] ∧
      InvoiceRecurringLineService.validateAndMap command.lines = .ok input.lines
  | .asks (.getInvoice _) | .asks (.completeExecution _) =>
    s.execution.status = .inProgress ∧ s.invoices ≠ []
  | _ => True

/-- The condition, with what is known of every pool it leads to. -/
def Guarded (P : Pool (invoicingSystem abac ctx command))
    (l : Label (invoicingSystem abac ctx command)) : Prop :=
  Undisturbed P l ∧ P.Linked (follow command) ∧ Exclusive P

/-- Where nobody is about to settle the execution, nothing is known. -/
theorem known_of_not_handling {front : Front InvoicingStatement.interface}
    (h : handling front = false) : Known command s front := by
  cases front with
  | finished => trivial
  | failed => trivial
  | asks q =>
    cases q with
    | createInvoice input => cases h
    | getInvoice id => cases h
    | completeExecution id => cases h
    | _ => trivial

theorem known_program (s : InvoicingDb) (e : InvoicingEntry) :
    Known command s ((invoicingSystem abac ctx command).program e).front :=
  known_of_not_handling (handling_program e)

/-- Failing an execution that has no invoice is sound. -/
theorem Sound.failed (h : Sound command s)
    (hnone : s.execution.status = .inProgress → s.invoices = []) (message : String) :
    Sound command (settleExecution (·.fail message) s) := by
  rcases settleExecution_cases (·.fail message) s with ⟨hopen, heq⟩ | ⟨_, heq⟩
  · rw [heq]
    exact ⟨h.once, h.billed, (fun hsuccess => nomatch hsuccess), fun _ _ => hnone hopen⟩
  · rw [heq]
    exact h

/-- Completing an execution that has an invoice is sound. -/
theorem Sound.completed (h : Sound command s) (hsome : s.invoices ≠ []) (id : String) :
    Sound command (settleExecution (completed id) s) := by
  rcases settleExecution_cases (Sales.completed id) s with ⟨_, heq⟩ | ⟨_, heq⟩
  · rw [heq]
    exact ⟨h.once, h.billed, fun _ => hsome, fun _ hnot => absurd rfl hnot⟩
  · rw [heq]
    exact h

/-- The first invoice of an execution is sound. -/
theorem sound_created (hopen : s.execution.status = .inProgress) (hnone : s.invoices = []) {row : InvoiceRow} {events : List InvoiceEvent}
    (hbills : List.Forall₂ Bills command.lines row.lines) :
    Sound command { s with invoices := s.invoices ++ [row], outbox := s.outbox ++ events } where
  once := by simp [hnone]
  billed := by
    intro other hother
    simp only [hnone, List.nil_append, List.mem_singleton] at hother
    rw [hother]
    exact hbills
  success := by
    intro hsuccess
    rw [hopen] at hsuccess
    cases hsuccess
  otherwise := fun hsettled _ => absurd hopen hsettled

theorem Sound.same (h : Sound command s) (hexecution : s'.execution = s.execution)
    (hcontent : s'.invoices.map InvoiceRow.content = s.invoices.map InvoiceRow.content) :
    Sound command s' := by
  have hlength : s'.invoices.length = s.invoices.length := by
    have hlengths := congrArg List.length hcontent
    simpa using hlengths
  have hnil : s'.invoices = [] ↔ s.invoices = [] := by
    rw [← List.length_eq_zero_iff, ← List.length_eq_zero_iff, hlength]
  refine ⟨by rw [hlength]; exact h.once, ?_, ?_, ?_⟩
  · intro row hrow
    have hmem : row.content ∈ s.invoices.map InvoiceRow.content := by
      rw [← hcontent]
      exact List.mem_map_of_mem hrow
    obtain ⟨before, hbefore, hsame⟩ := List.mem_map.mp hmem
    have hlines : before.lines = row.lines := (Prod.mk.inj hsame).2
    rw [← hlines]
    exact h.billed before hbefore
  · rw [hexecution, ne_eq, hnil]
    exact h.success
  · rw [hexecution, hnil]
    exact h.otherwise

theorem known_same {front : Front InvoicingStatement.interface}
    (hexecution : s'.execution = s.execution) (hnil : s'.invoices = [] ↔ s.invoices = [])
    (h : Known command s front) : Known command s' front := by
  cases front with
  | finished => trivial
  | failed => trivial
  | asks q =>
    cases q with
    | createInvoice input => exact ⟨by rw [hexecution]; exact h.1, hnil.mpr h.2.1, h.2.2⟩
    | getInvoice id => exact ⟨by rw [hexecution]; exact h.1, fun hn => h.2 (hnil.mp hn)⟩
    | completeExecution id => exact ⟨by rw [hexecution]; exact h.1, fun hn => h.2 (hnil.mp hn)⟩
    | _ => trivial

theorem nil_iff_of_content
    (hcontent : s'.invoices.map InvoiceRow.content = s.invoices.map InvoiceRow.content) :
    s'.invoices = [] ↔ s.invoices = [] := by
  rw [← List.map_eq_nil_iff, hcontent, List.map_eq_nil_iff]

theorem sound_of_served {P : Pool (invoicingSystem abac ctx command)} {i : Nat}
    {q : InvoicingStatement} {a : q.Answer} {f : Front InvoicingStatement.interface}
    (hok : Undisturbed P (.served i q a f))
    (hserves : (invoicingSystem abac ctx command).Serves q P.store a s')
    (hsound : Sound command P.store) (hknown : Known command P.store (.asks q)) :
    Sound command s' := by
  cases q with
  | findExecution =>
    obtain ⟨_, rfl⟩ := serves_findExecution hserves
    exact hsound
  | createInvoice input =>
    obtain ⟨hopen, hnone, hlines⟩ := hknown
    rcases serves_createInvoice hserves with ⟨_, _, rfl⟩ | ⟨_, row, _, hcreate, rfl, _⟩
    · exact hsound
    · exact sound_created hopen hnone (createInvoice_bills hlines hcreate).2
  | getInvoice id =>
    rw [serves_getInvoice hserves]
    exact hsound
  | completeExecution id =>
    rcases serves_completeExecution hserves with ⟨_, rfl⟩ | rfl
    · exact hsound
    · exact hsound.completed hknown.2 id
  | failExecution message =>
    rw [serves_failExecution hserves]
    exact hsound.failed hok message
  | postInvoice id =>
    obtain ⟨hexecution, hcontent⟩ := serves_postInvoice hserves
    exact hsound.same hexecution (hcontent hsound.once)
  | clock =>
    obtain ⟨hexecution, hinvoices⟩ := serves_clock hserves
    exact hsound.same hexecution (by rw [hinvoices])
  | findStale time =>
    rw [serves_findStale hserves]
    exact hsound
  | failStale =>
    rw [serves_failStale hserves]
    exact hsound.failed (fun hopen => (hok hopen).1) staleMessage

/-- What a delivery finds out by a step of its own. -/
theorem known_of_served {P : Pool (invoicingSystem abac ctx command)} {i : Nat}
    {q : InvoicingStatement} {a : q.Answer} {f front : Front InvoicingStatement.interface}
    (hok : Undisturbed P (.served i q a f))
    (hserves : (invoicingSystem abac ctx command).Serves q P.store a s')
    (hknown : Known command P.store (.asks q)) (hfollow : follow command q a front) :
    Known command s' front := by
  cases q with
  | findExecution =>
    obtain ⟨rfl, rfl⟩ := serves_findExecution hserves
    rcases hfollow with ⟨rfl, _⟩ | ⟨execution, hfound, hopen, hnext⟩
    · trivial
    · obtain rfl := Option.some.inj hfound
      rcases hnext with ⟨lines, hlines, rfl⟩ | ⟨message, rfl⟩
      · exact ⟨hopen, (hok hopen).1, hlines⟩
      · trivial
  | createInvoice input =>
    cases a with
    | error message =>
      obtain rfl : front = .asks (.failExecution message) := hfollow
      trivial
    | ok id =>
      obtain rfl : front = .asks (.getInvoice id) := hfollow
      rcases serves_createInvoice hserves with ⟨_, herror, _⟩ | ⟨_, row, _, _, rfl, _⟩
      · cases herror
      · exact ⟨hknown.1, by simp⟩
  | getInvoice id =>
    cases a with
    | error message =>
      obtain rfl : front = .asks (.failExecution message) := hfollow
      trivial
    | ok row =>
      obtain rfl : front = .asks (.completeExecution id) := hfollow
      rw [serves_getInvoice hserves]
      exact hknown
  | completeExecution id =>
    cases a with
    | error message =>
      obtain rfl : front = .asks (.failExecution message) := hfollow
      trivial
    | ok u =>
      rcases hfollow with rfl | rfl
      · trivial
      · trivial
  | failExecution message =>
    obtain rfl : front = .finished := hfollow
    trivial
  | postInvoice id =>
    obtain rfl : front = .finished := hfollow
    trivial
  | clock =>
    obtain rfl : front = .asks (.findStale (a - staleExecutionMs)) := hfollow
    trivial
  | findStale time =>
    have hfront : front = if a then .asks .failStale else .finished := hfollow
    cases a with
    | false =>
      rw [hfront]
      trivial
    | true =>
      rw [hfront]
      trivial
  | failStale =>
    obtain rfl : front = .finished := hfollow
    trivial

/-- What another delivery knows, a step leaves. -/
theorem known_of_other {P : Pool (invoicingSystem abac ctx command)} {i j : Nat}
    {q : InvoicingStatement} {next : q.Answer → InvoicingProgram Unit} {a : q.Answer}
    {f : Front InvoicingStatement.interface} {p : InvoicingProgram Unit}
    (here : P.threads[i]? = some (.ask q next)) (hok : Undisturbed P (.served i q a f))
    (hexclusive : Exclusive P)
    (hserves : (invoicingSystem abac ctx command).Serves q P.store a s')
    (hsound : Sound command P.store) (hij : j ≠ i) (hp : P.threads[j]? = some p)
    (hknown : Known command P.store p.front) : Known command s' p.front := by
  by_cases hhandling : handling p.front = true
  · have hnot : handling (.asks q) = false := by
      by_contra hasks
      exact hij (hexclusive i j _ p here hp (Bool.eq_true_of_not_eq_false hasks) hhandling).symm
    cases q with
    | findExecution =>
      obtain ⟨_, rfl⟩ := serves_findExecution hserves
      exact hknown
    | postInvoice id =>
      obtain ⟨hexecution, hcontent⟩ := serves_postInvoice hserves
      exact known_same hexecution (nil_iff_of_content (hcontent hsound.once)) hknown
    | clock =>
      obtain ⟨hexecution, hinvoices⟩ := serves_clock hserves
      exact known_same hexecution (by rw [hinvoices]) hknown
    | findStale time =>
      rw [serves_findStale hserves]
      exact hknown
    | failStale =>
      rw [serves_failStale hserves]
      rcases settleExecution_cases (·.fail staleMessage) P.store with ⟨hopen, _⟩ | ⟨_, heq⟩
      · have hfree := (hok hopen).2 p (List.mem_of_getElem? hp)
        rw [hhandling] at hfree
        cases hfree
      · rw [heq]
        exact hknown
    | createInvoice input => cases hnot
    | getInvoice id => cases hnot
    | completeExecution id => cases hnot
    | failExecution message => cases hnot
  · exact known_of_not_handling (Bool.eq_false_iff.mpr hhandling)

theorem generation_outline :
    @Outline (invoicingSystem abac ctx command) Guarded (follow command) (Sound command)
      (Known command) where
  start := fun s e _ => known_program s e
  failed := fun _ => trivial
  own := by
    intro P i q next a s' _ hok hserves hsound hknown
    exact ⟨sound_of_served hok.1 hserves hsound hknown, fun front hfollow =>
      known_of_served hok.1 hserves hknown hfollow⟩
  other := by
    intro P i q next a s' here hok hserves hsound _ j p hij hp hknown
    exact known_of_other here hok.1 hok.2.2 hserves hsound hij hp hknown

end Outline

section Ending

variable {abac : AbacCheck → AbacDecision} {ctx : RequestContext} {command : OccurrencePayload}
variable {trace : List (Label (invoicingSystem abac ctx command))}
variable {P Q : Pool (invoicingSystem abac ctx command)} {s s' : InvoicingDb}

/-- Where a delivery is that has settled the execution, or has found it settled. -/
def Settles (s : InvoicingDb) : Front InvoicingStatement.interface → Prop
  | .finished | .asks (.postInvoice _) => s.execution.status ≠ .inProgress
  | .asks .clock | .asks (.findStale _) | .asks .failStale => False
  | _ => True

def OnDelivery (command : OccurrencePayload) (e : InvoicingEntry) (p : InvoicingProgram Unit)
    (s : InvoicingDb) : Prop :=
  e = .delivery → Linked (follow command) p ∧ Settles s p.front

theorem settles_of_served {q : InvoicingStatement} {a : q.Answer}
    {front : Front InvoicingStatement.interface}
    (hserves : (invoicingSystem abac ctx command).Serves q s a s')
    (hsettles : Settles s (.asks q)) (hfollow : follow command q a front) : Settles s' front := by
  have hsettled : ∀ settle, (settle s.execution).status ≠ ExecutionStatus.inProgress →
      (settleExecution settle s).execution.status ≠ .inProgress := by
    intro settle hdone
    rcases settleExecution_cases settle s with ⟨_, heq⟩ | ⟨hopen, heq⟩
    · rw [heq]
      exact hdone
    · rw [heq]
      exact hopen
  cases q with
  | findExecution =>
    obtain ⟨rfl, rfl⟩ := serves_findExecution hserves
    rcases hfollow with ⟨rfl, hdone⟩ | ⟨_, _, _, ⟨_, _, rfl⟩ | ⟨_, rfl⟩⟩
    · exact hdone _ rfl
    · trivial
    · trivial
  | createInvoice input =>
    cases a with
    | error message =>
      obtain rfl : front = .asks (.failExecution message) := hfollow
      trivial
    | ok id =>
      obtain rfl : front = .asks (.getInvoice id) := hfollow
      trivial
  | getInvoice id =>
    cases a with
    | error message =>
      obtain rfl : front = .asks (.failExecution message) := hfollow
      trivial
    | ok row =>
      obtain rfl : front = .asks (.completeExecution id) := hfollow
      trivial
  | completeExecution id =>
    cases a with
    | error message =>
      obtain rfl : front = .asks (.failExecution message) := hfollow
      trivial
    | ok u =>
      have hdone : s'.execution.status ≠ .inProgress := by
        rcases serves_completeExecution hserves with ⟨⟨_, herror⟩, _⟩ | rfl
        · cases herror
        · exact hsettled (completed id) (fun h => nomatch h)
      rcases hfollow with rfl | rfl
      · exact hdone
      · exact hdone
  | failExecution message =>
    obtain rfl : front = .finished := hfollow
    rw [serves_failExecution hserves]
    exact hsettled (·.fail message) (fun h => nomatch h)
  | postInvoice id =>
    obtain rfl : front = .finished := hfollow
    exact settled_of_serves hserves hsettles
  | clock => exact hsettles.elim
  | findStale time => exact hsettles.elim
  | failStale => exact hsettles.elim

theorem settles_later {front : Front InvoicingStatement.interface} (h : Settles s front)
    (hlater : s.execution.status ≠ .inProgress → s'.execution.status ≠ .inProgress) :
    Settles s' front := by
  cases front with
  | finished => exact hlater h
  | failed => trivial
  | asks q =>
    cases q with
    | postInvoice id => exact hlater h
    | clock => exact h
    | findStale time => exact h
    | failStale => exact h
    | _ => trivial

/-- A delivery of an event for an invoice looks the execution up, or throws. -/
theorem settles_program (hinvoice : command.targetEntityType = "Invoice") (s : InvoicingDb) :
    Settles s (onRecurringOccurrenceRequested command).front := by
  rw [onRecurringOccurrenceRequested, if_neg (fun h => h hinvoice), run,
    if_neg (fun h => h.2 hinvoice)]
  split
  · trivial
  split
  · trivial
  · trivial

theorem tracking_delivery (hinvoice : command.targetEntityType = "Invoice") :
    @Tracking (invoicingSystem abac ctx command) (OnDelivery command)
      (fun s s' => s.execution.status ≠ .inProgress → s'.execution.status ≠ .inProgress) where
  start := by
    rintro e s rfl
    exact ⟨linked_delivery, settles_program hinvoice s⟩
  served := by
    intro e s q next a s' hon hserves he
    obtain ⟨hlinked, hsettles⟩ := hon he
    exact ⟨(hlinked a).2, settles_of_served hserves hsettles (hlinked a).1⟩
  raised := fun _ _ _ _ _ _ _ => ⟨trivial, trivial⟩
  stable := by
    intro e p s s' hon hlater he
    exact ⟨(hon he).1, settles_later (hon he).2 hlater⟩

/-- Once its handling has ended, an execution is settled. -/
theorem settled_of_ended {ok : Pool (invoicingSystem abac ctx command) →
      Label (invoicingSystem abac ctx command) → Prop}
    (hinvoice : command.targetEntityType = "Invoice") (hrun : Run ok P trace Q)
    (hP : P.threads = []) (h : HandlingEnded trace Q) :
    Q.store.execution.status ≠ .inProgress := by
  rcases h with h | ⟨i, hentry, hreturned⟩
  · exact h
  · have htracked : Tracked (OnDelivery command) (entries trace) Q := by
      refine Tracked.run (tracking_delivery hinvoice) hrun hP ?_
      intro _ Q l R _ _ hstep hsettled
      cases hstep with
      | start => exact hsettled
      | served here answered => exact settled_of_serves answered hsettled
      | raised => exact hsettled
    obtain ⟨e, he, hon⟩ := forall₂_getElem? htracked hreturned
    cases hentry.symm.trans he
    exact (hon rfl).2

end Ending

section Example

variable {abac : AbacCheck → AbacDecision} {ctx : RequestContext} {command : OccurrencePayload}

instance (P : Pool (invoicingSystem abac ctx command)) : Decidable (Untouched P) :=
  inferInstanceAs (Decidable (P.store.invoices = [] ∧ ∀ p ∈ P.threads, handling p.front = false))

instance (P : Pool (invoicingSystem abac ctx command))
    (l : Label (invoicingSystem abac ctx command)) : Decidable (Undisturbed P l) :=
  match l with
  | .served _ .findExecution _ _ =>
    inferInstanceAs (Decidable (P.store.execution.status = .inProgress → Untouched P))
  | .served _ .failStale _ _ =>
    inferInstanceAs (Decidable (P.store.execution.status = .inProgress → Untouched P))
  | .served _ (.failExecution _) _ _ =>
    inferInstanceAs (Decidable
      (P.store.execution.status = .inProgress → P.store.invoices = []))
  | .served _ (.createInvoice _) _ _ | .served _ (.getInvoice _) _ _
  | .served _ (.completeExecution _) _ _ | .served _ (.postInvoice _) _ _
  | .served _ .clock _ _ | .served _ (.findStale _) _ _ | .start _ | .raised _ _ => .isTrue trivial

/-- A monthly rent, for a customer of the company acme. -/
def monthlyRent : OccurrencePayload where
  executionId := "x1"
  targetEntityType := "Invoice"
  partyId := some "customer"
  currency := "USD"
  autoPost := false
  tenantId := some "t1"
  lines := [⟨some "Rent", some 1, some 100⟩]

def acmeContext : RequestContext := ⟨some "t1", some "acme", none, [], none, none, none⟩

def rentExecution : RecurringExecution :=
  ⟨"x1", some "t1", some "job1", some 20455, none, "2026-01-02", "Invoice", none, none, .inProgress,
    none, none⟩

abbrev rentSystem : System := invoicingSystem (fun _ => .allow) acmeContext monthlyRent

def claimedRent : Pool rentSystem := ⟨claimedDb rentExecution 0, []⟩

/-- A delivery up to the invoice it commits. -/
def billing (thread : Nat) (invoiceNo invoiceId : String) : List (Move rentSystem) :=
  [.start .delivery, .serve thread .answers,
    .serve thread (.creates ⟨invoiceNo, invoiceId⟩ .committed)]

def billedRun : List (Move rentSystem) :=
  billing 0 "INV-00000001" "i1" ++
    ([.serve 0 (.reads (.ok ())), .serve 0 (.writes .committed)] : List (Move rentSystem))

/-- The invoice cannot be read back. -/
def unreadRun : List (Move rentSystem) :=
  billing 0 "INV-00000001" "i1" ++
    ([.serve 0 (.reads (.error "timeout")), .serve 0 .answers] : List (Move rentSystem))

/-- The handling is cut off, and the event is delivered once more. -/
def redeliveredRun : List (Move rentSystem) :=
  billing 0 "INV-00000001" "i1" ++ .raise 0 :: billing 1 "INV-00000002" "i2"

end Example

end DddBoilerplate.Sales
