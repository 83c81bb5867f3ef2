/- module: DddBoilerplate/Concurrency/Exchange
   generality: G
   digest: Calls that are owed another one, and threads that make it before they end. -/

import DddBoilerplate.Concurrency.Stops

set_option autoImplicit false
set_option relaxedAutoImplicit false
set_option linter.all false

namespace DddBoilerplate.Concurrency

section Lists

variable {α : Type} {mark answer : α → Bool} {history : List α} {call : α}

/-- Every mark has had its answer, but for a last one that is still owed it. -/
def Balanced (mark answer : α → Bool) (history : List α) : Prop :=
  history.countP mark = history.countP answer ∨
    history.countP mark = history.countP answer + 1 ∧
      ∃ before last, history = before ++ [last] ∧ mark last = true

theorem countP_snoc {p : α → Bool} :
    (history ++ [call]).countP p = history.countP p + if p call then 1 else 0 := by
  rw [List.countP_append, List.countP_singleton]

/-- A mark is made where nothing is owed, and where something is owed the answer comes next. -/
theorem Balanced.snoc (h : Balanced mark answer history)
    (hmark : mark call = true → answer call = false ∧ history.countP mark = history.countP answer)
    (hanswer : answer call = true → mark call = false ∧
      history.countP mark = history.countP answer + 1)
    (howed : ∀ before last, history = before ++ [last] → mark last = true → answer call = true) :
    Balanced mark answer (history ++ [call]) := by
  unfold Balanced
  rw [countP_snoc, countP_snoc]
  cases hm : mark call with
  | true =>
    obtain ⟨ha, hequal⟩ := hmark hm
    refine .inr ⟨?_, history, call, rfl, hm⟩
    simp only [ha, if_true, Bool.false_eq_true, if_false]
    omega
  | false =>
    cases ha : answer call with
    | true =>
      obtain ⟨_, hone⟩ := hanswer ha
      refine .inl ?_
      simp only [if_true, Bool.false_eq_true, if_false]
      omega
    | false =>
      rcases h with hequal | ⟨_, before, last, heq, hlast⟩
      · refine .inl ?_
        simp only [Bool.false_eq_true, if_false]
        omega
      · rw [howed before last heq hlast] at ha
        cases ha

theorem Balanced.le (h : Balanced mark answer history) :
    history.countP answer ≤ history.countP mark := by
  rcases h with hequal | ⟨hone, _⟩ <;> omega

end Lists

section Programs

variable {ι : Interface} {α β : Type} (exempt : ι.Request → Bool) (final : List (Call ι) → Prop)

/-- Wherever the program ends its history is final, and so it is wherever it may be stopped, but where
it asks for what is exempt from that. -/
def Concludes : List (Call ι) → Program ι α → Prop
  | h, .ask q next => (exempt q = true ∨ final h) ∧ ∀ a, Concludes (h ++ [⟨q, a⟩]) (next a)
  | h, .done _ => final h
  | h, .fail _ => final h

variable {exempt} {final}

theorem concludes_of_all (hfinal : ∀ h, final h) {h : List (Call ι)} {p : Program ι α} :
    Concludes exempt final h p := by
  induction p generalizing h with
  | done a => exact hfinal h
  | fail e => exact hfinal h
  | ask q next ih => exact ⟨.inr (hfinal h), fun a => ih a⟩

theorem concludes_of_caught {because : List (Call ι) → ι.Request → Prop} {h : List (Call ι)}
    {p : Program ι α} (hp : Accounted because (fun h _ => final h) h p.caught) :
    Concludes (fun _ => true) final h p := by
  induction p generalizing h with
  | done a => exact hp
  | fail e => exact hp
  | ask q next ih => exact ⟨.inl rfl, fun a => ih a (hp.2 a)⟩

end Programs

section Runs

variable {sys : System} {ok : Pool sys → Label sys → Prop} {P Q R : Pool sys}
variable {trace : List (Label sys)} {exempt : sys.Entry → sys.interface.Request → Bool}
variable {final : sys.Entry → List (Call sys.interface) → Prop}

/-- No thread is stopped where it asks for what is exempt, unless its history is final there. -/
def Uninterrupted (exempt : sys.Entry → sys.interface.Request → Bool)
    (final : sys.Entry → List (Call sys.interface) → Prop) (trace : List (Label sys)) : Prop :=
  ∀ earlier i q e later, trace = earlier ++ .raised i q :: later →
    (entries earlier)[i]? = some e → exempt e q = true → final e (calls i earlier)

theorem Uninterrupted.left {later : List (Label sys)}
    (h : Uninterrupted exempt final (trace ++ later)) : Uninterrupted exempt final trace := by
  intro earlier i q e rest heq
  exact h earlier i q e (rest ++ later) (by rw [heq]; simp)

/-- Each thread still concludes, if none is stopped there. -/
theorem concludes_of_run (hprogram : ∀ e, Concludes (exempt e) (final e) [] (sys.program e))
    (hrun : Run ok P trace Q) (hP : P.threads = [])
    (hraised : Uninterrupted exempt final trace) {i : Nat}
    {p : Program sys.interface Unit} (hp : Q.threads[i]? = some p) :
    ∃ e, (entries trace)[i]? = some e ∧ Concludes (exempt e) (final e) (calls i trace) p := by
  induction hrun generalizing i p with
  | nil =>
    rw [hP] at hp
    cases hp
  | @snoc trace Q R l hrun _ hstep ih =>
    have hbefore : ∀ {i p}, Q.threads[i]? = some p → ∃ e, (entries trace)[i]? = some e ∧
        Concludes (exempt e) (final e) (calls i trace) p :=
      fun hp => ih hraised.left hp
    have hfollows := AllAccounted.run (fun e => accounted_any) hrun hP
    cases hstep with
    | start store threads entry =>
      rw [calls_start, entries_start]
      have hlength : (entries trace).length = threads.length := hfollows.length
      by_cases hi : i < threads.length
      · rw [List.getElem?_append_left hi] at hp
        rw [List.getElem?_append_left (hlength ▸ hi)]
        exact hbefore hp
      · rw [hfollows.later i (Nat.le_of_not_lt hi)]
        rw [List.getElem?_append_right (Nat.le_of_not_lt hi)] at hp
        rw [List.getElem?_append_right (hlength ▸ Nat.le_of_not_lt hi), hlength]
        have hzero : i - threads.length = 0 := by
          simpa using (List.getElem?_eq_some_iff.mp hp).1
        rw [hzero] at hp ⊢
        cases hp
        exact ⟨entry, rfl, hprogram entry⟩
    | @served store store' threads j q next a here answered =>
      rw [entries_served]
      by_cases hj : j = i
      · subst hj
        rw [List.getElem?_set_self (List.getElem?_eq_some_iff.mp here).1] at hp
        cases hp
        rw [calls_served_self]
        obtain ⟨e, he, hconcludes⟩ := hbefore here
        exact ⟨e, he, hconcludes.2 a⟩
      · rw [List.getElem?_set_ne hj] at hp
        rw [calls_served_other hj]
        exact hbefore hp
    | @raised store threads j q next here error =>
      rw [calls_raised, entries_raised]
      by_cases hj : j = i
      · subst hj
        rw [List.getElem?_set_self (List.getElem?_eq_some_iff.mp here).1] at hp
        cases hp
        obtain ⟨e, he, hconcludes⟩ := hbefore here
        refine ⟨e, he, ?_⟩
        rcases hconcludes.1 with hexempt | hfinal
        · exact hraised trace j q e [] rfl he hexempt
        · exact hfinal
      · rw [List.getElem?_set_ne hj] at hp
        exact hbefore hp

theorem Step.continued {i : Nat} {q : sys.interface.Request} {a : sys.interface.Answer q}
    {f : Front sys.interface} (h : Step sys P (.served i q a f) Q) :
    ∃ next, P.threads[i]? = some (.ask q next) ∧ (next a).front = f := by
  cases h with
  | served here answered => exact ⟨_, here, rfl⟩

/-- The history of a thread that has ended is final. -/
theorem final_of_ended (hprogram : ∀ e, Concludes (exempt e) (final e) [] (sys.program e))
    (hrun : Run ok P trace Q) (hP : P.threads = [])
    (hraised : Uninterrupted exempt final trace) {i : Nat} {e : sys.Entry}
    (hentry : (entries trace)[i]? = some e) (hended : Ended i trace) : final e (calls i trace) := by
  obtain ⟨p, hp, hfront⟩ := front_of_ended hrun hended
  obtain ⟨e', he', hconcludes⟩ := concludes_of_run hprogram hrun hP hraised hp
  cases hentry.symm.trans he'
  cases p with
  | done a => exact hconcludes
  | fail e => exact hconcludes
  | ask q next => exact absurd rfl (hfront q)

/-- What a thread asks for is exempt, or its history is final. -/
theorem final_of_served (hprogram : ∀ e, Concludes (exempt e) (final e) [] (sys.program e))
    (hrun : Run ok P trace Q) (hP : P.threads = [])
    (hraised : Uninterrupted exempt final trace) {i : Nat} {e : sys.Entry}
    (hentry : (entries trace)[i]? = some e) {q : sys.interface.Request}
    {a : sys.interface.Answer q} {f : Front sys.interface}
    (hstep : Step sys Q (.served i q a f) R) : exempt e q = true ∨ final e (calls i trace) := by
  obtain ⟨next, here⟩ := hstep.asked
  obtain ⟨e', he', hconcludes⟩ := concludes_of_run hprogram hrun hP hraised here
  cases hentry.symm.trans he'
  exact hconcludes.1

/-- A thread whose history is not final with an answer asks for what is exempt. -/
theorem asks_of_served (hprogram : ∀ e, Concludes (exempt e) (final e) [] (sys.program e))
    (hrun : Run ok P trace Q) (hP : P.threads = [])
    (hraised : Uninterrupted exempt final trace) {i : Nat} {e : sys.Entry} (hentry : (entries trace)[i]? = some e)
    {q : sys.interface.Request} {a : sys.interface.Answer q} {f : Front sys.interface}
    (hstep : Step sys Q (.served i q a f) R) (hopen : ¬ final e (calls i trace ++ [⟨q, a⟩])) :
    ∃ q', f = .asks q' ∧ exempt e q' = true := by
  obtain ⟨next, here⟩ := hstep.asked
  obtain ⟨e', he', hconcludes⟩ := concludes_of_run hprogram hrun hP hraised here
  cases hentry.symm.trans he'
  obtain ⟨next', here', rfl⟩ := hstep.continued
  cases here.symm.trans here'
  have hnext := hconcludes.2 a
  cases hcase : next a with
  | done value =>
    rw [hcase] at hnext
    exact absurd hnext hopen
  | fail error =>
    rw [hcase] at hnext
    exact absurd hnext hopen
  | ask q' more =>
    rw [hcase] at hnext
    exact ⟨q', rfl, hnext.1.resolve_right hopen⟩

/-- A thread is in balance if each of its calls keeps it. -/
theorem balanced_of_steps {mark answer : Call sys.interface → Bool} {i : Nat}
    (hrun : Run ok P trace Q)
    (hsteps : ∀ earlier q a f later S S', trace = earlier ++ .served i q a f :: later →
      Run ok P earlier S → Step sys S (.served i q a f) S' →
        Balanced mark answer (calls i earlier) →
          Balanced mark answer (calls i earlier ++ [⟨q, a⟩])) :
    Balanced mark answer (calls i trace) := by
  induction hrun with
  | nil => exact .inl rfl
  | @snoc trace Q R l hrun _ hstep ih =>
    have hbefore : Balanced mark answer (calls i trace) := by
      refine ih fun earlier q a f later S S' heq => ?_
      exact hsteps earlier q a f (later ++ [l]) S S' (by rw [heq]; simp)
    cases l with
    | start entry =>
      rw [calls_start]
      exact hbefore
    | raised j q =>
      rw [calls_raised]
      exact hbefore
    | served j q a f =>
      by_cases hj : j = i
      · subst hj
        rw [calls_served_self]
        exact hsteps trace q a f [] Q R rfl hrun hstep hbefore
      · rw [calls_served_other hj]
        exact hbefore

end Runs

end DddBoilerplate.Concurrency
