/- module: DddBoilerplate/Concurrency/History
   generality: G
   digest: What a thread has had answered so far, and programs whose requests are accounted for by it. -/

import DddBoilerplate.Concurrency.Entries

set_option autoImplicit false
set_option relaxedAutoImplicit false
set_option linter.all false

namespace DddBoilerplate.Concurrency

/-- A request with its answer. -/
abbrev Call (ι : Interface) : Type := Σ q : ι.Request, ι.Answer q

section Programs

variable {ι : Interface} {α β : Type} (because : List (Call ι) → ι.Request → Prop)

/-- Every request of the program is made because of what was answered before it, and so is what
it returns. -/
def Accounted (post : List (Call ι) → α → Prop) : List (Call ι) → Program ι α → Prop
  | h, .ask q next => because h q ∧ ∀ a, Accounted post (h ++ [⟨q, a⟩]) (next a)
  | h, .done a => post h a
  | _, .fail _ => True

variable {because} {post : List (Call ι) → α → Prop} {post' : List (Call ι) → β → Prop}

theorem Accounted.bind {h : List (Call ι)} {m : Program ι α} {f : α → Program ι β}
    (hm : Accounted because post h m)
    (hf : ∀ h a, post h a → Accounted because post' h (f a)) :
    Accounted because post' h (m >>= f) := by
  induction m generalizing h with
  | done a => exact hf h a hm
  | fail e => trivial
  | ask q next ih => exact ⟨hm.1, fun a => ih a (hm.2 a)⟩

theorem Accounted.mono {because' : List (Call ι) → ι.Request → Prop}
    {post' : List (Call ι) → α → Prop} {h : List (Call ι)} {m : Program ι α}
    (hm : Accounted because post h m) (himp : ∀ h q, because h q → because' h q)
    (hpost : ∀ h a, post h a → post' h a) : Accounted because' post' h m := by
  induction m generalizing h with
  | done a => exact hpost h a hm
  | fail e => trivial
  | ask q next ih => exact ⟨himp h q hm.1, fun a => ih a (hm.2 a)⟩

/-- Every program makes its requests, for whatever reason. -/
theorem accounted_any {h : List (Call ι)} {m : Program ι α} :
    Accounted (fun _ _ => True) (fun _ _ => True) h m := by
  induction m generalizing h with
  | done a => trivial
  | fail e => trivial
  | ask q next ih => exact ⟨trivial, fun a => ih a⟩

/-- Every request of the program is made behind the history that it started with. -/
theorem Accounted.since {h : List (Call ι)} {m : Program ι α} (hm : Accounted because post h m) :
    Accounted (fun h' q => h <+: h' ∧ because h' q) (fun h' a => h <+: h' ∧ post h' a) h m := by
  suffices hsince : ∀ h₀, h₀ <+: h → Accounted (fun h' q => h₀ <+: h' ∧ because h' q)
      (fun h' a => h₀ <+: h' ∧ post h' a) h m from hsince h (List.prefix_refl h)
  intro h₀ hpre
  induction m generalizing h with
  | done a => exact ⟨hpre, hm⟩
  | fail e => trivial
  | ask q next ih =>
    exact ⟨⟨hpre, hm.1⟩, fun a => ih a (hm.2 a) (hpre.trans (List.prefix_append h _))⟩

/-- The history grows along the program. -/
theorem Accounted.grown {h : List (Call ι)} {m : Program ι α} (hm : Accounted because post h m) :
    Accounted because (fun h' a => h <+: h' ∧ post h' a) h m :=
  hm.since.mono (fun _ _ hq => hq.2) fun _ _ hpost => hpost

/-- What every call keeps is kept along the program. -/
theorem Accounted.keeping {Kept : List (Call ι) → Prop} {h : List (Call ι)} {m : Program ι α}
    (hm : Accounted because post h m) (hkept : Kept h)
    (hsnoc : ∀ h q a, Kept h → because h q → Kept (h ++ [⟨q, a⟩])) :
    Accounted because (fun h a => Kept h ∧ post h a) h m := by
  induction m generalizing h with
  | done a => exact ⟨hkept, hm⟩
  | fail e => trivial
  | ask q next ih => exact ⟨hm.1, fun a => ih a (hm.2 a) (hsnoc h q a hkept hm.1)⟩

/-- What follows a program that may throw goes by what its requests keep. -/
theorem Accounted.handle {because' : List (Call ι) → ι.Request → Prop} {Kept : List (Call ι) → Prop}
    {h : List (Call ι)} {m : Program ι α} {f : α → Program ι β} {g : String → Program ι β}
    (hm : Accounted because post h m) (hkept : Kept h)
    (hsnoc : ∀ h q a, Kept h → because h q → Kept (h ++ [⟨q, a⟩]))
    (himp : ∀ h q, because h q → because' h q)
    (hf : ∀ h a, Kept h → post h a → Accounted because' post' h (f a))
    (hg : ∀ h e, Kept h → Accounted because' post' h (g e)) :
    Accounted because' post' h (m.handle f g) := by
  induction m generalizing h with
  | done a => exact hf h a hkept hm
  | fail e => exact hg h e hkept
  | ask q next ih => exact ⟨himp h q hm.1, fun a => ih a (hm.2 a) (hsnoc h q a hkept hm.1)⟩

/-- What follows a program goes by what it came to. -/
theorem Accounted.caught_handle {post : List (Call ι) → Except String α → Prop}
    {post' : List (Call ι) → Except String β → Prop} {h : List (Call ι)} {m : Program ι α}
    {f : α → Program ι β} {g : String → Program ι β} (hm : Accounted because post h m.caught)
    (hf : ∀ h a, post h (.ok a) → Accounted because post' h (f a).caught)
    (hg : ∀ h e, post h (.error e) → Accounted because post' h (g e).caught) :
    Accounted because post' h (m.handle f g).caught := by
  induction m generalizing h with
  | done a => exact hf h a hm
  | fail e => exact hg h e hm
  | ask q next ih => exact ⟨hm.1, fun a => ih a (hm.2 a)⟩

theorem Accounted.caught_bind {post : List (Call ι) → Except String α → Prop}
    {post' : List (Call ι) → Except String β → Prop} {h : List (Call ι)} {m : Program ι α}
    {f : α → Program ι β} (hm : Accounted because post h m.caught)
    (hf : ∀ h a, post h (.ok a) → Accounted because post' h (f a).caught)
    (herror : ∀ h e, post h (.error e) → post' h (.error e)) :
    Accounted because post' h (m >>= f).caught := by
  rw [Program.bind_eq_handle]
  exact hm.caught_handle hf herror

theorem Accounted.of_caught {post : List (Call ι) → Except String α → Prop} {h : List (Call ι)}
    {m : Program ι α} (hm : Accounted because post h m.caught) :
    Accounted because (fun h a => post h (.ok a)) h m := by
  induction m generalizing h with
  | done a => exact hm
  | fail e => trivial
  | ask q next ih => exact ⟨hm.1, fun a => ih a (hm.2 a)⟩

theorem accounted_lift {h : List (Call ι)} {m : Except String α} (hpost : ∀ a, m = .ok a → post h a) :
    Accounted because post h (Program.lift m) := by
  cases m with
  | ok a => exact hpost a rfl
  | error e => trivial

theorem accounted_lift_bind {h : List (Call ι)} {m : Except String α} {f : α → Program ι β}
    (hf : ∀ a, m = .ok a → Accounted because post' h (f a)) :
    Accounted because post' h (Program.lift m >>= f) := by
  cases m with
  | ok a => exact hf a rfl
  | error e => trivial

/-- A program for each element of a list keeps what each of them keeps. -/
theorem Accounted.each {Kept : List (Call ι) → Prop} {f : α → Program ι Unit} {as : List α}
    {h : List (Call ι)} (hkept : Kept h)
    (hf : ∀ a ∈ as, ∀ h, Kept h → Accounted because (fun h' _ => Kept h') h (f a)) :
    Accounted because (fun h' _ => Kept h') h (Program.each f as) := by
  induction as generalizing h with
  | nil => exact hkept
  | cons a as ih =>
    refine (hf a (List.mem_cons_self ..) h hkept).bind fun h' _ hkept' => ih hkept' ?_
    exact fun a' ha' => hf a' (List.mem_cons_of_mem _ ha')

/-- Whatever was answered before, every request of the program is made for a reason. -/
abbrev Always (because : List (Call ι) → ι.Request → Prop) (m : Program ι α) : Prop :=
  ∀ h, Accounted because (fun _ _ => True) h m

namespace Always

theorem done (a : α) : Always because (.done a : Program ι α) := fun _ => trivial

theorem fail (e : String) : Always because (.fail e : Program ι α) := fun _ => trivial

theorem bind {m : Program ι α} {f : α → Program ι β} (hm : Always because m)
    (hf : ∀ a, Always because (f a)) : Always because (m >>= f) :=
  fun h => (hm h).bind fun h' a _ => hf a h'

/-- What a handled program keeps to, and so both ways on from it. -/
theorem handle {m : Program ι α} {f : α → Program ι β} {g : String → Program ι β}
    (hm : Always because m) (hf : ∀ a, Always because (f a)) (hg : ∀ e, Always because (g e)) :
    Always because (m.handle f g) := by
  intro h
  refine @Accounted.handle _ _ _ _ _ _ _ (fun _ => True) _ _ _ _ (hm h) trivial ?_ ?_ ?_ ?_
  · intro _ _ _ _ _
    trivial
  · intro _ _ hq
    exact hq
  · intro h' a _ _
    exact hf a h'
  · intro h' e _
    exact hg e h'

theorem each {f : α → Program ι Unit} (hf : ∀ a, Always because (f a)) (as : List α) :
    Always because (Program.each f as) := by
  induction as with
  | nil => exact done ()
  | cons a as ih => exact (hf a).bind fun _ => ih

theorem lift (m : Except String α) : Always because (Program.lift m) := by
  cases m with
  | ok a => exact done a
  | error e => exact fail e

end Always

end Programs

section Calls

variable {sys : System}

def Label.call? (i : Nat) : Label sys → Option (Call sys.interface)
  | start _ => none
  | served j q a _ => if j = i then some ⟨q, a⟩ else none
  | raised _ _ => none

/-- What a thread has had answered along a trace. -/
def calls (i : Nat) (trace : List (Label sys)) : List (Call sys.interface) :=
  trace.filterMap (Label.call? i)

variable {trace : List (Label sys)} {i j : Nat} {q : sys.interface.Request}
variable {a : sys.interface.Answer q} {f : Front sys.interface}

theorem mem_calls : ⟨q, a⟩ ∈ calls i trace ↔ ∃ f, .served i q a f ∈ trace := by
  constructor
  · intro h
    obtain ⟨l, hl, hcall⟩ := List.mem_filterMap.mp h
    cases l with
    | start entry => cases hcall
    | served j q' a' f =>
      simp only [Label.call?] at hcall
      split at hcall
      · rename_i hj
        cases hcall
        exact ⟨f, hj ▸ hl⟩
      · cases hcall
    | raised j q' => cases hcall
  · rintro ⟨f, h⟩
    exact List.mem_filterMap.mpr ⟨_, h, if_pos rfl⟩

theorem calls_served_self :
    calls i (trace ++ [Label.served i q a f]) = calls i trace ++ [⟨q, a⟩] := by
  simp [calls, Label.call?]

theorem calls_served_other (hj : j ≠ i) :
    calls i (trace ++ [Label.served j q a f]) = calls i trace := by
  simp [calls, Label.call?, hj]

theorem calls_start {entry : sys.Entry} :
    calls i (trace ++ [Label.start entry]) = calls i trace := by
  simp [calls, Label.call?]

theorem calls_raised : calls i (trace ++ [Label.raised j q]) = calls i trace := by
  simp [calls, Label.call?]

end Calls

section Runs

variable {sys : System}
variable {because : sys.Entry → List (Call sys.interface) → sys.interface.Request → Prop}
variable {ok : Pool sys → Label sys → Prop} {P Q R : Pool sys} {trace : List (Label sys)}

/-- Each thread is accounted for by its entry and its own calls, and those to come have none. -/
structure AllAccounted
    (because : sys.Entry → List (Call sys.interface) → sys.interface.Request → Prop)
    (trace : List (Label sys)) (Q : Pool sys) : Prop where
  threads : ∀ i p, Q.threads[i]? = some p → ∃ e, (entries trace)[i]? = some e ∧
    Accounted (because e) (fun _ _ => True) (calls i trace) p
  length : (entries trace).length = Q.threads.length
  later : ∀ i, Q.threads.length ≤ i → calls i trace = []

theorem AllAccounted.step {l : Label sys}
    (hprogram : ∀ e, Accounted (because e) (fun _ _ => True) [] (sys.program e))
    (h : AllAccounted because trace Q) (hstep : Step sys Q l R) :
    AllAccounted because (trace ++ [l]) R := by
  cases hstep with
  | start store threads entry =>
    refine ⟨fun i p hp => ?_, ?_, fun i hi => ?_⟩
    · rw [calls_start, entries_start]
      have hlength : (entries trace).length = threads.length := h.length
      by_cases hi : i < threads.length
      · rw [List.getElem?_append_left hi] at hp
        rw [List.getElem?_append_left (hlength ▸ hi)]
        exact h.threads i p hp
      · rw [h.later i (Nat.le_of_not_lt hi)]
        rw [List.getElem?_append_right (Nat.le_of_not_lt hi)] at hp
        rw [List.getElem?_append_right (hlength ▸ Nat.le_of_not_lt hi), hlength]
        have hzero : i - threads.length = 0 := by
          simpa using (List.getElem?_eq_some_iff.mp hp).1
        rw [hzero] at hp ⊢
        cases hp
        exact ⟨entry, rfl, hprogram entry⟩
    · rw [entries_start, List.length_append, List.length_append, h.length]
      rfl
    · rw [calls_start]
      refine h.later i (Nat.le_trans ?_ hi)
      simp
  | @served store store' threads j q next a here answered =>
    refine ⟨fun i p hp => ?_, ?_, fun i hi => ?_⟩
    · rw [entries_served]
      by_cases hj : j = i
      · subst hj
        obtain ⟨hlt, _⟩ := List.getElem?_eq_some_iff.mp here
        rw [List.getElem?_set_self hlt] at hp
        cases hp
        rw [calls_served_self]
        obtain ⟨e, he, haccounted⟩ := h.threads j _ here
        exact ⟨e, he, haccounted.2 a⟩
      · rw [List.getElem?_set_ne hj] at hp
        rw [calls_served_other hj]
        exact h.threads i p hp
    · rw [entries_served, List.length_set]
      exact h.length
    · rw [List.length_set] at hi
      obtain ⟨hlt, _⟩ := List.getElem?_eq_some_iff.mp here
      have hj : j ≠ i := by omega
      rw [calls_served_other hj]
      exact h.later i hi
  | @raised store threads j q next here error =>
    refine ⟨fun i p hp => ?_, ?_, fun i hi => ?_⟩
    · rw [calls_raised, entries_raised]
      by_cases hj : j = i
      · subst hj
        obtain ⟨hlt, _⟩ := List.getElem?_eq_some_iff.mp here
        rw [List.getElem?_set_self hlt] at hp
        cases hp
        obtain ⟨e, he, _⟩ := h.threads j _ here
        exact ⟨e, he, trivial⟩
      · rw [List.getElem?_set_ne hj] at hp
        exact h.threads i p hp
    · rw [entries_raised, List.length_set]
      exact h.length
    · rw [calls_raised]
      rw [List.length_set] at hi
      exact h.later i hi

theorem AllAccounted.run
    (hprogram : ∀ e, Accounted (because e) (fun _ _ => True) [] (sys.program e))
    (hrun : Run ok P trace Q) (hP : P.threads = []) : AllAccounted because trace Q := by
  induction hrun with
  | nil =>
    refine ⟨fun i p hp => ?_, ?_, fun i _ => rfl⟩
    · rw [hP] at hp
      cases hp
    · rw [hP]
      rfl
  | snoc _ _ hstep ih => exact ih.step hprogram hstep

/-- Every request a run serves is made because of the entry of its thread and of what the thread was
answered before. -/
theorem because_of_entry
    (hprogram : ∀ e, Accounted (because e) (fun _ _ => True) [] (sys.program e))
    (hrun : Run ok P trace Q) (hP : P.threads = []) {i : Nat} {q : sys.interface.Request}
    {a : sys.interface.Answer q} {f : Front sys.interface}
    (hstep : Step sys Q (.served i q a f) R) :
    ∃ e, (entries trace)[i]? = some e ∧ because e (calls i trace) q := by
  obtain ⟨next, here⟩ := hstep.asked
  obtain ⟨e, he, haccounted⟩ := (AllAccounted.run hprogram hrun hP).threads i _ here
  exact ⟨e, he, haccounted.1⟩

theorem mem_calls_append {i : Nat} {call : Call sys.interface} {l : Label sys}
    (h : call ∈ calls i trace) : call ∈ calls i (trace ++ [l]) := by
  obtain ⟨q, a⟩ := call
  obtain ⟨f, hf⟩ := mem_calls.mp h
  exact mem_calls.mpr ⟨f, List.mem_append_left _ hf⟩

theorem entry_later {later : List (Label sys)} {i : Nat} {e : sys.Entry}
    (h : (entries trace)[i]? = some e) : (entries (trace ++ later))[i]? = some e := by
  obtain ⟨hlt, _⟩ := List.getElem?_eq_some_iff.mp h
  rw [entries_append, List.getElem?_append_left hlt]
  exact h

theorem entry_append {i : Nat} {e : sys.Entry} {l : Label sys} (h : (entries trace)[i]? = some e) :
    (entries (trace ++ [l]))[i]? = some e := entry_later h

/-- The same of every call of a trace. -/
theorem because_of_call
    (hprogram : ∀ e, Accounted (because e) (fun _ _ => True) [] (sys.program e))
    (hrun : Run ok P trace Q) (hP : P.threads = []) {i : Nat} {q : sys.interface.Request}
    {a : sys.interface.Answer q} {f : Front sys.interface} (hmem : .served i q a f ∈ trace) :
    ∃ e, (entries trace)[i]? = some e ∧
      ∃ earlier, (∀ call ∈ earlier, call ∈ calls i trace) ∧ because e earlier q := by
  induction hrun with
  | nil => cases hmem
  | @snoc trace Q R l hrun hok hstep ih =>
    rcases List.mem_append.mp hmem with hmem | hmem
    · obtain ⟨e, he, earlier, hearlier, hbecause⟩ := ih hmem
      exact ⟨e, entry_append he, earlier, fun call hcall => mem_calls_append (hearlier call hcall),
        hbecause⟩
    · obtain rfl := List.mem_singleton.mp hmem
      obtain ⟨e, he, hbecause⟩ := because_of_entry hprogram hrun hP hstep
      exact ⟨e, entry_append he, calls i trace, fun _ => mem_calls_append, hbecause⟩

/-- What every call a thread may make adds to a history keeps, holds of all histories of a run. -/
theorem calls_of_run {Kept : List (Call sys.interface) → Prop}
    (hprogram : ∀ e, Accounted (because e) (fun _ _ => True) [] (sys.program e))
    (hnil : Kept []) (hsnoc : ∀ e h q a, Kept h → because e h q → Kept (h ++ [⟨q, a⟩]))
    (hrun : Run ok P trace Q) (hP : P.threads = []) (i : Nat) : Kept (calls i trace) := by
  induction hrun with
  | nil => exact hnil
  | @snoc trace Q R l hrun _ hstep ih =>
    cases l with
    | start e =>
      rw [calls_start]
      exact ih
    | raised j q =>
      rw [calls_raised]
      exact ih
    | served j q a f =>
      by_cases hj : j = i
      · subst hj
        rw [calls_served_self]
        obtain ⟨e, _, hbecause⟩ := because_of_entry hprogram hrun hP hstep
        exact hsnoc e _ q a ih hbecause
      · rw [calls_served_other hj]
        exact ih

/-- What each answer, and each rejection, keeps of a thread where it is holds of all threads of a
run. -/
theorem followed_of_run
    {follows : sys.Entry → List (Call sys.interface) → Program sys.interface Unit → Prop}
    (hprogram : ∀ e, follows e [] (sys.program e))
    (hserved : ∀ e h q next a, follows e h (.ask q next) → follows e (h ++ [⟨q, a⟩]) (next a))
    (hraised : ∀ e h q next error, follows e h (.ask q next) → follows e h (.fail error))
    (hrun : Run ok P trace Q) (hP : P.threads = []) {i : Nat} {p : Program sys.interface Unit}
    (hp : Q.threads[i]? = some p) :
    ∃ e, (entries trace)[i]? = some e ∧ follows e (calls i trace) p := by
  induction hrun generalizing i p with
  | nil =>
    rw [hP] at hp
    cases hp
  | @snoc trace Q R l hrun _ hstep ih =>
    have hcounted := AllAccounted.run (fun e => accounted_any) hrun hP
    cases hstep with
    | start store threads entry =>
      rw [calls_start, entries_start]
      have hlength : (entries trace).length = threads.length := hcounted.length
      by_cases hi : i < threads.length
      · rw [List.getElem?_append_left hi] at hp
        rw [List.getElem?_append_left (hlength ▸ hi)]
        exact ih hp
      · rw [hcounted.later i (Nat.le_of_not_lt hi)]
        rw [List.getElem?_append_right (Nat.le_of_not_lt hi)] at hp
        rw [List.getElem?_append_right (hlength ▸ Nat.le_of_not_lt hi), hlength]
        have hzero : i - threads.length = 0 := by
          simpa using (List.getElem?_eq_some_iff.mp hp).1
        rw [hzero] at hp ⊢
        cases hp
        exact ⟨entry, rfl, hprogram entry⟩
    | @served store store' threads j q next a here answered =>
      rw [entries_served]
      by_cases hj : j = i
      · subst hj
        rw [List.getElem?_set_self (List.getElem?_eq_some_iff.mp here).1] at hp
        cases hp
        rw [calls_served_self]
        obtain ⟨e, he, hfollows⟩ := ih here
        exact ⟨e, he, hserved e _ q next a hfollows⟩
      · rw [List.getElem?_set_ne hj] at hp
        rw [calls_served_other hj]
        exact ih hp
    | @raised store threads j q next here error =>
      rw [calls_raised, entries_raised]
      by_cases hj : j = i
      · subst hj
        rw [List.getElem?_set_self (List.getElem?_eq_some_iff.mp here).1] at hp
        cases hp
        obtain ⟨e, he, hfollows⟩ := ih here
        exact ⟨e, he, hraised e _ q next error hfollows⟩
      · rw [List.getElem?_set_ne hj] at hp
        exact ih hp

/-- What a program comes to holds of the history of a thread that has come to its end. -/
theorem returned_of_run {post : sys.Entry → List (Call sys.interface) → Prop}
    (hprogram : ∀ e, Accounted (because e) (fun h _ => post e h) [] (sys.program e))
    (hrun : Run ok P trace Q) (hP : P.threads = []) {i : Nat} {q : sys.interface.Request}
    {a : sys.interface.Answer q} (hmem : .served i q a .finished ∈ trace) :
    ∃ e, (entries trace)[i]? = some e ∧ post e (calls i trace) := by
  have hreturned : ∃ value, Q.threads[i]? = some (.done value) := by
    induction hrun with
    | nil => cases hmem
    | @snoc trace Q R l _ _ hstep ih =>
      rcases List.mem_append.mp hmem with hmem | hmem
      · obtain ⟨value, hvalue⟩ := ih hmem
        have hlt := (List.getElem?_eq_some_iff.mp hvalue).1
        have hother : ∀ {j q next}, Q.threads[j]? = some (.ask q next) → j ≠ i := by
          rintro j q next here rfl
          cases here.symm.trans hvalue
        refine ⟨value, ?_⟩
        cases hstep with
        | start store threads entry => exact (List.getElem?_append_left hlt).trans hvalue
        | served here answered => exact (List.getElem?_set_ne (hother here)).trans hvalue
        | raised here error => exact (List.getElem?_set_ne (hother here)).trans hvalue
      · rw [← List.mem_singleton.mp hmem] at hstep
        generalize hfront : Front.finished = front at hstep
        cases hstep with
        | @served store store' threads j q next a here answered =>
          rw [List.getElem?_set_self (List.getElem?_eq_some_iff.mp here).1]
          cases hnext : next a with
          | done value => exact ⟨value, rfl⟩
          | fail error =>
            rw [hnext] at hfront
            cases hfront
          | ask request more =>
            rw [hnext] at hfront
            cases hfront
  obtain ⟨value, hvalue⟩ := hreturned
  exact @followed_of_run _ _ _ _ _ (fun e h p => Accounted (because e) (fun h _ => post e h) h p)
    hprogram (fun e h q next a haccounted => haccounted.2 a) (fun _ _ _ _ _ _ => trivial) hrun hP
    _ _ hvalue

/-- A thread makes one call of a kind that is made where none of it was made before. -/
theorem only_of_run {mark : Call sys.interface → Prop}
    (hprogram : ∀ e, Accounted (because e) (fun _ _ => True) [] (sys.program e))
    (hfirst : ∀ e h q a, because e h q → mark ⟨q, a⟩ → ∀ call ∈ h, ¬ mark call)
    (hrun : Run ok P trace Q) (hP : P.threads = []) {i : Nat} {call call' : Call sys.interface}
    (hcall : call ∈ calls i trace) (hcall' : call' ∈ calls i trace) (hmark : mark call)
    (hmark' : mark call') : call = call' := by
  have honly : ∀ call ∈ calls i trace, ∀ call' ∈ calls i trace, mark call → mark call' →
      call = call' := by
    refine @calls_of_run _ because _ _ _ _ (fun h => ∀ call ∈ h, ∀ call' ∈ h, mark call →
      mark call' → call = call') hprogram ?_ ?_ hrun hP i
    · intro call hmem
      cases hmem
    · intro e h q a hkept hbecause call hmem call' hmem' hmark hmark'
      rcases List.mem_append.mp hmem with hmem | hmem
      · rcases List.mem_append.mp hmem' with hmem' | hmem'
        · exact hkept call hmem call' hmem' hmark hmark'
        · rw [List.mem_singleton.mp hmem'] at hmark'
          exact absurd hmark (hfirst e h q a hbecause hmark' call hmem)
      · rw [List.mem_singleton.mp hmem] at hmark ⊢
        rcases List.mem_append.mp hmem' with hmem' | hmem'
        · exact absurd hmark' (hfirst e h q a hbecause hmark call' hmem')
        · exact (List.mem_singleton.mp hmem').symm
  exact honly call hcall call' hcall' hmark hmark'

section Alike

variable {because : List (Call sys.interface) → sys.interface.Request → Prop}

/-- Where all entries account alike, a request a run serves is made because of what its thread was
answered before. -/
theorem because_of_run (hprogram : ∀ e, Accounted because (fun _ _ => True) [] (sys.program e))
    (hrun : Run ok P trace Q) (hP : P.threads = []) {i : Nat} {q : sys.interface.Request}
    {a : sys.interface.Answer q} {f : Front sys.interface}
    (hstep : Step sys Q (.served i q a f) R) : because (calls i trace) q := by
  obtain ⟨_, _, hbecause⟩ := @because_of_entry _ (fun _ => because) _ _ _ _ _ hprogram hrun hP _ _ _ _
    hstep
  exact hbecause

theorem because_of_mem (hprogram : ∀ e, Accounted because (fun _ _ => True) [] (sys.program e))
    (hrun : Run ok P trace Q) (hP : P.threads = []) {i : Nat} {q : sys.interface.Request}
    {a : sys.interface.Answer q} {f : Front sys.interface} (hmem : .served i q a f ∈ trace) :
    ∃ earlier, (∀ call ∈ earlier, call ∈ calls i trace) ∧ because earlier q := by
  obtain ⟨_, _, hbecause⟩ := @because_of_call _ (fun _ => because) _ _ _ _ hprogram hrun hP _ _ _ _
    hmem
  exact hbecause

end Alike

end Runs

end DddBoilerplate.Concurrency
