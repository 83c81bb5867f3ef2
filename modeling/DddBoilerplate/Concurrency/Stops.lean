/- module: DddBoilerplate/Concurrency/Stops
   generality: G
   digest: Threads that end before their program does: by an exception, or by a request never answered. -/

import DddBoilerplate.Concurrency.History

set_option autoImplicit false
set_option relaxedAutoImplicit false
set_option linter.all false

namespace DddBoilerplate.Concurrency

variable {sys : System}

/-- The step ends a thread early. -/
def Label.stops (i : Nat) : Label sys → Prop
  | start _ => False
  | served j _ _ .failed => j = i
  | served _ _ _ _ => False
  | raised j _ => j = i

instance (i : Nat) (l : Label sys) : Decidable (l.stops i) :=
  match l with
  | .start _ => inferInstanceAs (Decidable False)
  | .served j _ _ .failed => inferInstanceAs (Decidable (j = i))
  | .served _ _ _ .finished => inferInstanceAs (Decidable False)
  | .served _ _ _ (.asks _) => inferInstanceAs (Decidable False)
  | .raised j _ => inferInstanceAs (Decidable (j = i))

/-- The thread ended early somewhere along the trace. -/
def Stopped (i : Nat) (trace : List (Label sys)) : Prop := ∃ l ∈ trace, l.stops i

variable {trace : List (Label sys)} {i j : Nat} {l : Label sys} {P Q R : Pool sys}
variable {ok : Pool sys → Label sys → Prop}

theorem stopped_snoc : Stopped i (trace ++ [l]) ↔ Stopped i trace ∨ l.stops i := by
  constructor
  · rintro ⟨l', hmem, hstops⟩
    rcases List.mem_append.mp hmem with hmem | hmem
    · exact .inl ⟨l', hmem, hstops⟩
    · rw [List.mem_singleton.mp hmem] at hstops
      exact .inr hstops
  · rintro (⟨l', hmem, hstops⟩ | hstops)
    · exact ⟨l', List.mem_append_left _ hmem, hstops⟩
    · exact ⟨l, List.mem_append_right _ (List.mem_singleton_self _), hstops⟩

theorem stops_served {q : sys.interface.Request} {a : sys.interface.Answer q}
    {f : Front sys.interface} :
    (Label.served j q a f : Label sys).stops i ↔ f = .failed ∧ j = i := by
  cases f with
  | failed => simp [Label.stops]
  | asks request => simp [Label.stops]
  | finished => simp [Label.stops]

/-- One step ends at most one thread. -/
theorem stops_unique (hi : l.stops i) (hj : l.stops j) : i = j := by
  cases l with
  | start entry => exact hi.elim
  | served k q a f => exact (stops_served.mp hi).2.symm.trans (stops_served.mp hj).2
  | raised k q => exact (hi : k = i).symm.trans hj

/-- A run is a run up to any of its steps, the step, and a run from there. -/
theorem run_of_append {later : List (Label sys)} (h : Run ok P (trace ++ l :: later) Q) :
    ∃ R S, Run ok P trace R ∧ ok R l ∧ Step sys R l S ∧ Run ok S later Q := by
  have hl : (trace ++ l :: later)[trace.length]? = some l := by simp
  have hdrop : (trace ++ l :: later).drop (trace.length + 1) = later := by
    rw [List.drop_append, List.drop_of_length_le (by omega)]
    simp
  obtain ⟨R, S, hbefore, hok, hstep, hafter⟩ := h.split hl
  rw [List.take_left] at hbefore
  rw [hdrop] at hafter
  exact ⟨R, S, hbefore, hok, hstep, hafter⟩

/-- A thread that stopped has failed for good. -/
theorem failed_of_stopped (hrun : Run ok P trace Q) (hstopped : Stopped i trace) :
    ∃ e, Q.threads[i]? = some (.fail e) := by
  induction hrun with
  | nil =>
    obtain ⟨_, hmem, _⟩ := hstopped
    cases hmem
  | @snoc trace Q R l _ _ hstep ih =>
    rcases stopped_snoc.mp hstopped with hbefore | hnow
    · obtain ⟨e, he⟩ := ih hbefore
      have hlt := (List.getElem?_eq_some_iff.mp he).1
      refine ⟨e, ?_⟩
      cases hstep with
      | start store threads entry =>
        exact (List.getElem?_append_left hlt).trans he
      | @served store store' threads j q next a here answered =>
        have hj : j ≠ i := by
          rintro rfl
          cases here.symm.trans he
        exact (List.getElem?_set_ne hj).trans he
      | @raised store threads j q next here error =>
        have hj : j ≠ i := by
          rintro rfl
          cases here.symm.trans he
        exact (List.getElem?_set_ne hj).trans he
    · cases hstep with
      | start store threads entry => exact hnow.elim
      | @served store store' threads j q next a here answered =>
        obtain ⟨hfailed, rfl⟩ := stops_served.mp hnow
        have hlt := (List.getElem?_eq_some_iff.mp here).1
        rw [List.getElem?_set_self hlt]
        cases hnext : next a with
        | fail e => exact ⟨e, rfl⟩
        | done value =>
          rw [hnext] at hfailed
          cases hfailed
        | ask request more =>
          rw [hnext] at hfailed
          cases hfailed
      | @raised store threads j q next here error =>
        obtain rfl : j = i := hnow
        exact ⟨error, List.getElem?_set_self (List.getElem?_eq_some_iff.mp here).1⟩

/-- A thread that is served has not stopped. -/
theorem not_stopped_of_served (hrun : Run ok P trace Q) {q : sys.interface.Request}
    {a : sys.interface.Answer q} {f : Front sys.interface}
    (hstep : Step sys Q (.served i q a f) R) : ¬ Stopped i trace := by
  intro hstopped
  obtain ⟨e, he⟩ := failed_of_stopped hrun hstopped
  obtain ⟨next, here⟩ := hstep.asked
  cases here.symm.trans he

/-- A thread that stopped has no calls from there on. -/
theorem calls_of_stopped {later : List (Label sys)} (hrun : Run ok P trace Q)
    (hlater : Run ok Q later R) (hstopped : Stopped i trace) : calls i later = [] := by
  induction hlater with
  | nil => rfl
  | @snoc later S R l hbefore _ hstep ih =>
    cases l with
    | start entry =>
      rw [calls_start]
      exact ih
    | raised j q =>
      rw [calls_raised]
      exact ih
    | served j q a f =>
      by_cases hj : j = i
      · subst hj
        refine absurd ?_ (not_stopped_of_served (hrun.append hbefore) hstep)
        obtain ⟨l, hmem, hstops⟩ := hstopped
        exact ⟨l, List.mem_append_left _ hmem, hstops⟩
      · rw [calls_served_other hj]
        exact ih

theorem calls_append {later : List (Label sys)} :
    calls i (trace ++ later) = calls i trace ++ calls i later := by
  simp [calls]

/-- A call of a thread stands somewhere in the trace, with those before it before. -/
theorem calls_split {before after : List (Call sys.interface)} {q : sys.interface.Request}
    {a : sys.interface.Answer q} (h : calls i trace = before ++ ⟨q, a⟩ :: after) :
    ∃ earlier later f, trace = earlier ++ .served i q a f :: later ∧ calls i earlier = before ∧
      calls i later = after := by
  obtain ⟨earlier, rest, rfl, hbefore, hrest⟩ := List.filterMap_eq_append_iff.mp h
  obtain ⟨others, l, later, rfl, hothers, hl, hafter⟩ := List.filterMap_eq_cons_iff.mp hrest
  have hnone : calls i others = [] := List.filterMap_eq_nil_iff.mpr hothers
  cases l with
  | start entry => cases hl
  | raised j q' => cases hl
  | served j q' a' f =>
    simp only [Label.call?] at hl
    split at hl
    · rename_i hj
      subst hj
      cases hl
      refine ⟨earlier ++ others, later, f, by simp, ?_, hafter⟩
      rw [calls_append, hnone, List.append_nil]
      exact hbefore
    · cases hl

/-- The step that started a thread stands in the trace after those that started the earlier ones. -/
theorem start_of_entry {e : sys.Entry} (h : (entries trace)[j]? = some e) :
    ∃ earlier later, trace = earlier ++ .start e :: later ∧ (entries earlier).length = j := by
  obtain ⟨hlt, hget⟩ := List.getElem?_eq_some_iff.mp h
  have hsplit : entries trace = (entries trace).take j ++ e :: (entries trace).drop (j + 1) := by
    rw [← hget, List.cons_getElem_drop_succ, List.take_append_drop]
  obtain ⟨earlier, rest, rfl, hbefore, hrest⟩ := List.filterMap_eq_append_iff.mp hsplit
  obtain ⟨others, l, later, rfl, hothers, hl, _⟩ := List.filterMap_eq_cons_iff.mp hrest
  have hnone : entries others = [] := List.filterMap_eq_nil_iff.mpr hothers
  cases l with
  | served k q a f => cases hl
  | raised k q => cases hl
  | start entry =>
    cases hl
    refine ⟨earlier ++ others, later, by simp, ?_⟩
    rw [entries_append, hnone, List.append_nil]
    have hlength := congrArg List.length hbefore
    rw [List.length_take, Nat.min_eq_left (Nat.le_of_lt hlt)] at hlength
    exact hlength

section Ends

/-- The step ends a thread, early or not. -/
def Label.ends (i : Nat) : Label sys → Prop
  | start _ => False
  | served j _ _ .failed => j = i
  | served j _ _ .finished => j = i
  | served _ _ _ (.asks _) => False
  | raised j _ => j = i

instance (i : Nat) (l : Label sys) : Decidable (l.ends i) :=
  match l with
  | .start _ => inferInstanceAs (Decidable False)
  | .served j _ _ .failed => inferInstanceAs (Decidable (j = i))
  | .served j _ _ .finished => inferInstanceAs (Decidable (j = i))
  | .served _ _ _ (.asks _) => inferInstanceAs (Decidable False)
  | .raised j _ => inferInstanceAs (Decidable (j = i))

def Ended (i : Nat) (trace : List (Label sys)) : Prop := ∃ l ∈ trace, l.ends i

theorem Ended.append {later : List (Label sys)} (h : Ended i trace) : Ended i (trace ++ later) := by
  obtain ⟨l, hmem, hends⟩ := h
  exact ⟨l, List.mem_append_left _ hmem, hends⟩

theorem ended_snoc : Ended i (trace ++ [l]) ↔ Ended i trace ∨ l.ends i := by
  constructor
  · rintro ⟨l', hmem, hends⟩
    rcases List.mem_append.mp hmem with hmem | hmem
    · exact .inl ⟨l', hmem, hends⟩
    · rw [List.mem_singleton.mp hmem] at hends
      exact .inr hends
  · rintro (hbefore | hends)
    · exact hbefore.append
    · exact ⟨l, List.mem_append_right _ (List.mem_singleton_self _), hends⟩

/-- A thread that has ended asks for nothing. -/
theorem front_of_ended (hrun : Run ok P trace Q) (hended : Ended i trace) :
    ∃ p, Q.threads[i]? = some p ∧ ∀ q, p.front ≠ .asks q := by
  induction hrun with
  | nil =>
    obtain ⟨_, hmem, _⟩ := hended
    cases hmem
  | @snoc trace Q R l _ _ hstep ih =>
    rcases ended_snoc.mp hended with hbefore | hnow
    · obtain ⟨p, hp, hfront⟩ := ih hbefore
      have hlt := (List.getElem?_eq_some_iff.mp hp).1
      have hother : ∀ {j q next p'}, Q.threads[j]? = some (.ask q next) →
          (Q.threads.set j p')[i]? = some p := by
        intro j q next p' here
        have hj : j ≠ i := by
          rintro rfl
          rw [hp] at here
          cases here
          exact hfront q rfl
        exact (List.getElem?_set_ne hj).trans hp
      refine ⟨p, ?_, hfront⟩
      cases hstep with
      | start store threads entry => exact (List.getElem?_append_left hlt).trans hp
      | served here answered => exact hother here
      | raised here error => exact hother here
    · cases hstep with
      | start store threads entry => exact hnow.elim
      | @served store store' threads j q next a here answered =>
        have hlt := (List.getElem?_eq_some_iff.mp here).1
        cases hnext : next a with
        | fail e =>
          rw [hnext] at hnow
          obtain rfl : j = i := hnow
          exact ⟨_, List.getElem?_set_self hlt, fun q h => by cases h⟩
        | done value =>
          rw [hnext] at hnow
          obtain rfl : j = i := hnow
          exact ⟨_, List.getElem?_set_self hlt, fun q h => by cases h⟩
        | ask request more =>
          rw [hnext] at hnow
          exact hnow.elim
      | @raised store threads j q next here error =>
        obtain rfl : j = i := hnow
        exact ⟨_, List.getElem?_set_self (List.getElem?_eq_some_iff.mp here).1,
          fun q h => by cases h⟩

/-- A thread that is served, or rejected, has not ended. -/
theorem not_ended_of_asking (hrun : Run ok P trace Q) {q : sys.interface.Request}
    {next : sys.interface.Answer q → Program sys.interface Unit}
    (here : Q.threads[i]? = some (.ask q next)) : ¬ Ended i trace := by
  intro hended
  obtain ⟨p, hp, hfront⟩ := front_of_ended hrun hended
  cases here.symm.trans hp
  exact hfront q rfl

theorem not_ended_of_served (hrun : Run ok P trace Q) {q : sys.interface.Request}
    {a : sys.interface.Answer q} {f : Front sys.interface}
    (hstep : Step sys Q (.served i q a f) R) : ¬ Ended i trace := by
  obtain ⟨next, here⟩ := hstep.asked
  exact not_ended_of_asking hrun here

/-- A thread that asks for something goes on asking for it until it is served, or rejected. -/
theorem asking_until (hrun : Run ok P trace Q) {q : sys.interface.Request}
    {next : sys.interface.Answer q → Program sys.interface Unit}
    (here : P.threads[i]? = some (.ask q next)) :
    (calls i trace = [] ∧ Q.threads[i]? = some (.ask q next)) ∨
      ∃ earlier l later, trace = earlier ++ l :: later ∧ calls i earlier = [] ∧
        (l = .raised i q ∨ ∃ a, l = .served i q a (next a).front) := by
  induction hrun with
  | nil => exact .inl ⟨rfl, here⟩
  | @snoc trace Q R l _ _ hstep ih =>
    rcases ih with ⟨hcalls, hasking⟩ | ⟨earlier, l', later, rfl, hcalls, hl⟩
    · have hlt := (List.getElem?_eq_some_iff.mp hasking).1
      cases hstep with
      | start store threads entry =>
        refine .inl ⟨by rw [calls_start]; exact hcalls, ?_⟩
        exact (List.getElem?_append_left hlt).trans hasking
      | @served store store' threads j q' next' a here' answered =>
        by_cases hj : j = i
        · subst hj
          cases here'.symm.trans hasking
          exact .inr ⟨trace, _, [], rfl, hcalls, .inr ⟨a, rfl⟩⟩
        · refine .inl ⟨by rw [calls_served_other hj]; exact hcalls, ?_⟩
          exact (List.getElem?_set_ne hj).trans hasking
      | @raised store threads j q' next' here' error =>
        by_cases hj : j = i
        · subst hj
          cases here'.symm.trans hasking
          exact .inr ⟨trace, _, [], rfl, hcalls, .inl rfl⟩
        · refine .inl ⟨by rw [calls_raised]; exact hcalls, ?_⟩
          exact (List.getElem?_set_ne hj).trans hasking
    · exact .inr ⟨earlier, l', later ++ [l], by simp, hcalls, hl⟩

end Ends

end DddBoilerplate.Concurrency
