/- module: DddBoilerplate/Concurrency/Sequential
   generality: G
   digest: One program served alone, choice by choice: what it returns, keeps, and does not depend on. -/

import Mathlib.Data.List.Induction
import DddBoilerplate.Concurrency.Pool

set_option autoImplicit false
set_option relaxedAutoImplicit false
set_option linter.all false

namespace DddBoilerplate.Concurrency

variable {sys : System} {α β : Type}

/-- Serves the program one request for each choice; what is left of it, and the store. -/
def proceed : Program sys.interface α → List sys.Choice → sys.Store →
    Option (Program sys.interface α × sys.Store)
  | p, [], s => some (p, s)
  | .ask q next, c :: rest, s =>
    match sys.serve q c s with
    | some (a, s') => proceed (next a) rest s'
    | none => none
  | .done _, _ :: _, _ => none
  | .fail _, _ :: _, _ => none

/-- Served alone from the one store, the program returns and leaves the other. -/
def Returns (p : Program sys.interface α) (s : sys.Store) (a : α) (s' : sys.Store) : Prop :=
  ∃ choices, proceed p choices s = some (.done a, s')

@[simp] theorem proceed_nil (p : Program sys.interface α) (s : sys.Store) :
    proceed p [] s = some (p, s) := by
  cases p <;> rfl

theorem proceed_request {q : sys.interface.Request} {next : sys.interface.Answer q →
      Program sys.interface α} {c : sys.Choice} {rest : List sys.Choice} {s : sys.Store} :
    proceed (.ask q next) (c :: rest) s =
      (sys.serve q c s).bind fun r => proceed (next r.1) rest r.2 := by
  rw [proceed]
  cases sys.serve q c s <;> rfl

theorem proceed_ask {q : sys.interface.Request} {next : sys.interface.Answer q →
      Program sys.interface α} {c : sys.Choice} {rest : List sys.Choice} {s s' : sys.Store}
    {p' : Program sys.interface α} :
    proceed (.ask q next) (c :: rest) s = some (p', s') ↔
      ∃ a middle, sys.serve q c s = some (a, middle) ∧ proceed (next a) rest middle = some (p', s') := by
  rw [proceed_request]
  cases hserve : sys.serve q c s with
  | none => simp
  | some r =>
    obtain ⟨a, middle⟩ := r
    simp

theorem proceed_cons {q : sys.interface.Request} {next : sys.interface.Answer q →
      Program sys.interface α} {c : sys.Choice} {rest : List sys.Choice} {s middle : sys.Store}
    {a : sys.interface.Answer q} {r : Option (Program sys.interface α × sys.Store)}
    (hserve : sys.serve q c s = some (a, middle)) (h : proceed (next a) rest middle = r) :
    proceed (.ask q next) (c :: rest) s = r := by
  rw [proceed_request, hserve]
  exact h

/-- A program served alone is a run of the pool in which no other thread moves. -/
theorem run_of_proceed {p p' : Program sys.interface Unit} {choices : List sys.Choice}
    {s s' : sys.Store} {threads : List (Program sys.interface Unit)} {i : Nat}
    (here : threads[i]? = some p) (h : proceed p choices s = some (p', s')) :
    ∃ trace, (∀ l ∈ trace, ∃ q a f, l = .served i q a f) ∧
      Run (fun _ _ => True) ⟨s, threads⟩ trace ⟨s', threads.set i p'⟩ := by
  induction choices generalizing p s threads with
  | nil =>
    rw [proceed_nil] at h
    obtain ⟨rfl, rfl⟩ := Prod.mk.inj (Option.some.inj h)
    obtain ⟨hlt, hget⟩ := List.getElem?_eq_some_iff.mp here
    have hsame : threads.set i p = threads := by
      rw [← hget]
      exact List.set_getElem_self hlt
    rw [hsame]
    exact ⟨[], fun l hl => (List.not_mem_nil hl).elim, .nil⟩
  | cons c rest ih =>
    cases p with
    | done a => cases h
    | fail e => cases h
    | ask q next =>
      obtain ⟨a, middle, hserve, hrest⟩ := Iff.mp proceed_ask h
      obtain ⟨hlt, _⟩ := List.getElem?_eq_some_iff.mp here
      have hmoved : (threads.set i (next a))[i]? = some (next a) := List.getElem?_set_self hlt
      obtain ⟨trace, hserved, hrun⟩ := ih hmoved hrest
      rw [List.set_set] at hrun
      refine ⟨_, ?_, (Run.nil.snoc trivial (.served here ⟨c, hserve⟩)).append hrun⟩
      intro l hl
      rcases List.mem_append.mp hl with hl | hl
      · exact ⟨_, _, _, List.mem_singleton.mp hl⟩
      · exact hserved l hl

/-- Any programs of the system may be started, one after the other. -/
theorem run_of_starts (es : List sys.Entry) (P : Pool sys) :
    Run (fun _ _ => True) P (es.map .start) ⟨P.store, P.threads ++ es.map sys.program⟩ := by
  induction es using List.reverseRecOn with
  | nil =>
    rw [List.map_nil, List.map_nil, List.append_nil]
    exact .nil
  | append_singleton es e ih =>
    rw [List.map_append, List.map_append, ← List.append_assoc]
    exact ih.snoc trivial (.start _ _ e)

section Returns

variable {m : Program sys.interface α} {f : α → Program sys.interface β}
variable {s s' : sys.Store} {a : α} {b : β}

theorem returns_done {a' : α} : Returns (.done a : Program sys.interface α) s a' s' ↔
    a' = a ∧ s' = s := by
  constructor
  · rintro ⟨choices, h⟩
    cases choices with
    | nil =>
      cases h
      exact ⟨rfl, rfl⟩
    | cons c rest => cases h
  · rintro ⟨rfl, rfl⟩
    exact ⟨[], rfl⟩

theorem not_returns_fail {e : String} :
    ¬ Returns (.fail e : Program sys.interface α) s a s' := by
  rintro ⟨choices, h⟩
  cases choices <;> cases h

theorem returns_ask {q : sys.interface.Request}
    {next : sys.interface.Answer q → Program sys.interface α} :
    Returns (.ask q next) s a s' ↔
      ∃ answer middle, sys.Serves q s answer middle ∧ Returns (next answer) middle a s' := by
  constructor
  · rintro ⟨choices, h⟩
    cases choices with
    | nil => cases h
    | cons c rest =>
      obtain ⟨answer, middle, hserve, hrest⟩ := Iff.mp proceed_ask h
      exact ⟨answer, middle, ⟨c, hserve⟩, rest, hrest⟩
  · rintro ⟨answer, middle, ⟨c, hserve⟩, rest, hrest⟩
    exact ⟨c :: rest, proceed_ask.mpr ⟨answer, middle, hserve, hrest⟩⟩

/-- What a sequence returned, its parts returned one after the other. -/
theorem returns_bind : Returns (m >>= f) s b s' ↔
    ∃ a middle, Returns m s a middle ∧ Returns (f a) middle b s' := by
  induction m generalizing s with
  | done a =>
    rw [Program.done_bind]
    constructor
    · exact fun h => ⟨a, s, returns_done.mpr ⟨rfl, rfl⟩, h⟩
    · rintro ⟨a', middle, hm, h⟩
      obtain ⟨rfl, rfl⟩ := returns_done.mp hm
      exact h
  | fail e =>
    rw [Program.fail_bind]
    constructor
    · exact fun h => (not_returns_fail h).elim
    · rintro ⟨a', middle, hm, _⟩
      exact (not_returns_fail hm).elim
  | ask q next ih =>
    rw [Program.ask_bind, returns_ask]
    constructor
    · rintro ⟨answer, first, hserve, hrest⟩
      obtain ⟨a', middle, hm, hf⟩ := (ih answer).mp hrest
      exact ⟨a', middle, returns_ask.mpr ⟨answer, first, hserve, hm⟩, hf⟩
    · rintro ⟨a', middle, hm, hf⟩
      obtain ⟨answer, first, hserve, hrest⟩ := returns_ask.mp hm
      exact ⟨answer, first, hserve, (ih answer).mpr ⟨a', middle, hrest, hf⟩⟩

theorem returns_lift_bind {m : Except String α} :
    Returns (Program.lift m >>= f) s b s' ↔ ∃ a, m = .ok a ∧ Returns (f a) s b s' := by
  cases m with
  | ok a => simp
  | error e =>
    rw [Program.lift_error_bind]
    constructor
    · exact fun h => (not_returns_fail h).elim
    · rintro ⟨a, ha, _⟩
      cases ha

end Returns

section Guarded

variable {asks : sys.interface.Request → Prop}
variable {gives : (q : sys.interface.Request) → sys.interface.Answer q → Prop}

/-- While a program keeps to requests that keep an invariant, and the invariant makes the
answers what the program was checked against, both stay. -/
theorem Ensures.proceed {post : α → Prop} {Inv : sys.Store → Prop}
    (hserve : ∀ q a s s', Inv s → asks q → sys.Serves q s a s' → Inv s' ∧ gives q a)
    {p p' : Program sys.interface α} {choices : List sys.Choice} {s s' : sys.Store}
    (hp : Ensures asks gives post p) (hs : Inv s)
    (h : Concurrency.proceed p choices s = some (p', s')) :
    Ensures asks gives post p' ∧ Inv s' := by
  induction choices generalizing p s with
  | nil =>
    rw [proceed_nil] at h
    obtain ⟨rfl, rfl⟩ := Prod.mk.inj (Option.some.inj h)
    exact ⟨hp, hs⟩
  | cons c rest ih =>
    cases p with
    | done a => cases h
    | fail e => cases h
    | ask q next =>
      obtain ⟨a, middle, hc, hrest⟩ := Iff.mp proceed_ask h
      obtain ⟨hmiddle, ha⟩ := hserve q a s middle hs hp.1 ⟨c, hc⟩
      exact ih (hp.2 a ha) hmiddle hrest

theorem Ensures.returns {post : α → Prop} {Inv : sys.Store → Prop}
    (hserve : ∀ q a s s', Inv s → asks q → sys.Serves q s a s' → Inv s' ∧ gives q a)
    {p : Program sys.interface α} {s s' : sys.Store} {a : α} (hp : Ensures asks gives post p)
    (hs : Inv s) (h : Returns p s a s') : post a ∧ Inv s' := by
  obtain ⟨choices, h⟩ := h
  exact hp.proceed hserve hs h

/-- Two stores that look alike to the requests of a program, and stay so, take it through the
same requests. -/
theorem Ensures.agree {post : α → Prop} {rel : sys.Store → sys.Store → Prop}
    (hserve : ∀ q c s t r, rel s t → asks q → sys.serve q c s = some r →
      ∀ r', sys.serve q c t = some r' → r'.1 = r.1 ∧ rel r.2 r'.2 ∧ gives q r.1)
    {p p' p'' : Program sys.interface α} {choices : List sys.Choice} {s s' t t' : sys.Store}
    (hp : Ensures asks gives post p) (hst : rel s t)
    (h : Concurrency.proceed p choices s = some (p', s'))
    (h' : Concurrency.proceed p choices t = some (p'', t')) : p'' = p' ∧ rel s' t' := by
  induction choices generalizing p s t with
  | nil =>
    rw [proceed_nil] at h h'
    obtain ⟨rfl, rfl⟩ := Prod.mk.inj (Option.some.inj h)
    obtain ⟨rfl, rfl⟩ := Prod.mk.inj (Option.some.inj h')
    exact ⟨rfl, hst⟩
  | cons c rest ih =>
    cases p with
    | done a => cases h
    | fail e => cases h
    | ask q next =>
      obtain ⟨a, middle, hc, hrest⟩ := Iff.mp proceed_ask h
      obtain ⟨a', middle', hc', hrest'⟩ := Iff.mp proceed_ask h'
      obtain ⟨ha, hrel, hgives⟩ := hserve q c s t _ hst hp.1 hc _ hc'
      obtain rfl : a' = a := ha
      exact ih (hp.2 a' hgives) hrel hrest hrest'

end Guarded

end DddBoilerplate.Concurrency
