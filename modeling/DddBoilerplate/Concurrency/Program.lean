/- module: DddBoilerplate/Concurrency/Program
   generality: G
   digest: Programs as trees of atomic requests, and the fronts they pass from one request to the next. -/

import Mathlib.Logic.Relation

set_option autoImplicit false
set_option relaxedAutoImplicit false
set_option linter.all false

namespace DddBoilerplate.Concurrency

/-- The atomic requests a program may make, each with the type of its answer. -/
structure Interface where
  Request : Type
  Answer : Request → Type

/-- A program between two requests holds nothing but its continuation: other programs
may be served any number of times before it receives its answer. -/
inductive Program (ι : Interface) (α : Type) where
  | done (value : α)
  | fail (error : String)
  | ask (request : ι.Request) (next : ι.Answer request → Program ι α)

namespace Program

variable {ι : Interface} {α β γ : Type}

def bind : Program ι α → (α → Program ι β) → Program ι β
  | done value, f => f value
  | fail error, _ => fail error
  | ask request next, f => ask request fun answer => bind (next answer) f

instance : Monad (Program ι) where
  pure := done
  bind := bind

/-- One request, returning its answer. -/
def request (q : ι.Request) : Program ι (ι.Answer q) := ask q done

/-- A pure computation that may throw. -/
def lift : Except String α → Program ι α
  | .ok value => done value
  | .error error => fail error

@[simp] theorem pure_bind' (a : α) (f : α → Program ι β) : (pure a : Program ι α) >>= f = f a := rfl

@[simp] theorem done_bind (a : α) (f : α → Program ι β) : done a >>= f = f a := rfl

@[simp] theorem fail_bind (e : String) (f : α → Program ι β) : fail e >>= f = fail e := rfl

@[simp] theorem ask_bind (q : ι.Request) (next : ι.Answer q → Program ι α) (f : α → Program ι β) :
    ask q next >>= f = ask q fun a => next a >>= f := rfl

@[simp] theorem request_bind (q : ι.Request) (f : ι.Answer q → Program ι β) :
    request q >>= f = ask q f := rfl

@[simp] theorem lift_ok_bind (a : α) (f : α → Program ι β) :
    (lift (.ok a) : Program ι α) >>= f = f a := rfl

@[simp] theorem lift_error_bind (e : String) (f : α → Program ι β) :
    (lift (.error e) : Program ι α) >>= f = fail e := rfl

theorem bind_assoc (m : Program ι α) (f : α → Program ι β) (g : β → Program ι γ) :
    m >>= f >>= g = m >>= fun a => f a >>= g := by
  induction m with
  | done a => rfl
  | fail e => rfl
  | ask q next ih =>
    simp only [ask_bind]
    congr 1
    funext a
    exact ih a

theorem bind_done (m : Program ι α) : m >>= done = m := by
  induction m with
  | done a => rfl
  | fail e => rfl
  | ask q next ih =>
    simp only [ask_bind]
    congr 1
    funext a
    exact ih a

/-- Goes on with `f` where the program returns and with `g` where it throws. -/
def handle (m : Program ι α) (f : α → Program ι β) (g : String → Program ι β) : Program ι β :=
  match m with
  | done value => f value
  | fail error => g error
  | ask request next => ask request fun answer => handle (next answer) f g

@[simp] theorem handle_done (a : α) (f : α → Program ι β) (g : String → Program ι β) :
    (done a : Program ι α).handle f g = f a := rfl

@[simp] theorem handle_fail (e : String) (f : α → Program ι β) (g : String → Program ι β) :
    (fail e : Program ι α).handle f g = g e := rfl

@[simp] theorem handle_ask (q : ι.Request) (next : ι.Answer q → Program ι α)
    (f : α → Program ι β) (g : String → Program ι β) :
    (ask q next).handle f g = ask q fun a => (next a).handle f g := rfl

/-- An exception no one handles ends the program. -/
theorem bind_eq_handle (m : Program ι α) (f : α → Program ι β) : m >>= f = m.handle f fail := by
  induction m with
  | done a => rfl
  | fail e => rfl
  | ask q next ih =>
    rw [ask_bind, handle_ask]
    congr 1
    funext a
    exact ih a

theorem bind_handle (m : Program ι α) (f : α → Program ι β) (g : β → Program ι γ)
    (h : String → Program ι γ) : (m >>= f).handle g h = m.handle (fun a => (f a).handle g h) h := by
  induction m with
  | done a => rfl
  | fail e => rfl
  | ask q next ih =>
    rw [ask_bind, handle_ask, handle_ask]
    congr 1
    funext a
    exact ih a

theorem handle_handle {δ : Type} (m : Program ι α) (f : α → Program ι β) (g : String → Program ι β)
    (f' : β → Program ι δ) (g' : String → Program ι δ) :
    (m.handle f g).handle f' g' =
      m.handle (fun a => (f a).handle f' g') fun e => (g e).handle f' g' := by
  induction m with
  | done a => rfl
  | fail e => rfl
  | ask q next ih =>
    rw [handle_ask, handle_ask, handle_ask]
    congr 1
    funext a
    exact ih a

/-- The program with what it comes to as its value, whether it returns or throws. -/
def caught (m : Program ι α) : Program ι (Except String α) :=
  m.handle (fun a => done (.ok a)) fun error => done (.error error)

/-- Goes on with `last` whether the program returns or throws. -/
def ensuring (m : Program ι α) (last : Program ι Unit) : Program ι α :=
  m.handle (fun a => last >>= fun _ => done a) fun error => last >>= fun _ => fail error

/-- A program for each element of a list. -/
def each (f : α → Program ι Unit) : List α → Program ι Unit
  | [] => done ()
  | a :: as => f a >>= fun _ => each f as

section Alone

variable {S : Type} (serve : (q : ι.Request) → S → ι.Answer q × S)

/-- The program with no other beside it, each request answered at once. -/
def runAlone : Program ι α → S → Except String α × S
  | done value, s => (.ok value, s)
  | fail error, s => (.error error, s)
  | ask request next, s => runAlone (next (serve request s).1) (serve request s).2

@[simp] theorem runAlone_done (a : α) (s : S) : (done a : Program ι α).runAlone serve s = (.ok a, s) :=
  rfl

@[simp] theorem runAlone_fail (e : String) (s : S) :
    (fail e : Program ι α).runAlone serve s = (.error e, s) := rfl

@[simp] theorem runAlone_ask (q : ι.Request) (next : ι.Answer q → Program ι α) (s : S) :
    (ask q next).runAlone serve s = (next (serve q s).1).runAlone serve (serve q s).2 := rfl

theorem runAlone_bind (m : Program ι α) (f : α → Program ι β) (s : S) :
    (m >>= f).runAlone serve s =
      match m.runAlone serve s with
      | (.ok a, s') => (f a).runAlone serve s'
      | (.error e, s') => (.error e, s') := by
  induction m generalizing s with
  | done a => rfl
  | fail e => rfl
  | ask q next ih =>
    rw [ask_bind, runAlone_ask, runAlone_ask]
    exact ih _ _

/-- What a sequence returned, its parts returned one after the other. -/
theorem runAlone_bind_ok {m : Program ι α} {f : α → Program ι β} {s s' : S} {b : β} :
    (m >>= f).runAlone serve s = (.ok b, s') ↔
      ∃ a middle, m.runAlone serve s = (.ok a, middle) ∧
        (f a).runAlone serve middle = (.ok b, s') := by
  rw [runAlone_bind]
  rcases m.runAlone serve s with ⟨outcome, middle⟩
  cases outcome with
  | ok a =>
    refine ⟨fun h => ⟨a, middle, rfl, h⟩, ?_⟩
    rintro ⟨a', middle', heq, h⟩
    cases heq
    exact h
  | error e =>
    refine ⟨fun h => ?_, ?_⟩
    · cases h
    · rintro ⟨a', middle', heq, h⟩
      cases heq

end Alone

end Program

/-- What a program shows from outside: its next request, or how it ended. -/
inductive Front (ι : Interface) where
  | asks (request : ι.Request)
  | finished
  | failed

def Program.front {ι : Interface} {α : Type} : Program ι α → Front ι
  | .done _ => .finished
  | .fail _ => .failed
  | .ask q _ => .asks q

section Linked

variable {ι : Interface}
variable (follow : (q : ι.Request) → ι.Answer q → Front ι → Prop)
variable (fresh : Front ι → Prop)

/-- Every answer leads to a front that `follow` allows after that request and answer. -/
def Linked : Program ι Unit → Prop
  | .ask q next => ∀ a, follow q a (next a).front ∧ Linked (next a)
  | _ => True

/-- Followed by anything that starts at a fresh front, a phrase is linked and shows a front
among its entries; phrases compose like the calls of the functions they stand for. -/
def Phrase {α : Type} (entry : Front ι → Prop) (m : Program ι α) : Prop :=
  ∀ rest : α → Program ι Unit,
    (∀ a, fresh (rest a).front ∧ Linked follow (rest a)) →
      entry (m >>= rest).front ∧ Linked follow (m >>= rest)

variable {follow fresh}
variable {entry entry' : Front ι → Prop} {α β : Type}

theorem Phrase.mono {m : Program ι α} (hm : Phrase follow fresh entry m)
    (himp : ∀ f, entry f → entry' f) : Phrase follow fresh entry' m :=
  fun rest hrest => ⟨himp _ (hm rest hrest).1, (hm rest hrest).2⟩

theorem Phrase.done (hentry : ∀ f, fresh f → entry f) (a : α) :
    Phrase follow fresh entry (Program.done a : Program ι α) :=
  fun _ hrest => ⟨hentry _ (hrest a).1, (hrest a).2⟩

theorem Phrase.fail (hfail : entry .failed) (e : String) :
    Phrase follow fresh entry (Program.fail e : Program ι α) :=
  fun _ _ => ⟨hfail, trivial⟩

/-- A request, with what follows it entered as `follow` says. -/
theorem Phrase.ask {q : ι.Request} {next : ι.Answer q → Program ι α} (henter : entry (.asks q))
    (hnext : ∀ a, Phrase follow fresh (follow q a) (next a)) :
    Phrase follow fresh entry (Program.ask q next) :=
  fun rest hrest => ⟨henter, fun a => hnext a rest hrest⟩

theorem Phrase.lift_bind {m : Except String α} {f : α → Program ι β}
    (hfail : ∀ e, m = .error e → entry .failed)
    (hf : ∀ a, m = .ok a → Phrase follow fresh entry (f a)) :
    Phrase follow fresh entry (Program.lift m >>= f) := by
  cases m with
  | ok a => exact hf a rfl
  | error e => exact Phrase.fail (hfail e rfl) e

theorem Phrase.bind {m : Program ι α} {f : α → Program ι β}
    (hm : Phrase follow fresh entry m) (hf : ∀ a, Phrase follow fresh fresh (f a)) :
    Phrase follow fresh entry (m >>= f) := by
  intro rest hrest
  rw [Program.bind_assoc]
  exact hm _ fun a => hf a rest hrest

theorem Phrase.linked {m : Program ι Unit} (hm : Phrase follow fresh entry m)
    (hfinished : fresh .finished) : entry m.front ∧ Linked follow m := by
  have h := hm Program.done fun _ => ⟨hfinished, trivial⟩
  rwa [Program.bind_done] at h

end Linked

section Guarded

variable {ι : Interface} {α β : Type}
variable (asks : ι.Request → Prop) (gives : (q : ι.Request) → ι.Answer q → Prop)

/-- Answered as `gives` says, the program keeps to the requests of `asks`, and what it
returns is as `post` says. -/
def Ensures (post : α → Prop) : Program ι α → Prop
  | .ask q next => asks q ∧ ∀ a, gives q a → Ensures post (next a)
  | .done a => post a
  | .fail _ => True

/-- Answered as `gives` says, the program keeps to the requests of `asks`. -/
abbrev Guarded (m : Program ι α) : Prop := Ensures asks gives (fun _ => True) m

variable {asks gives} {post : α → Prop} {post' : β → Prop}

theorem Ensures.bind {m : Program ι α} {f : α → Program ι β} (hm : Ensures asks gives post m)
    (hf : ∀ a, post a → Ensures asks gives post' (f a)) :
    Ensures asks gives post' (m >>= f) := by
  induction m with
  | done a => exact hf a hm
  | fail e => trivial
  | ask q next ih =>
    obtain ⟨hq, hnext⟩ := hm
    exact ⟨hq, fun a ha => ih a (hnext a ha)⟩

theorem Guarded.bind {m : Program ι α} {f : α → Program ι β} (hm : Guarded asks gives m)
    (hf : ∀ a, Guarded asks gives (f a)) : Guarded asks gives (m >>= f) :=
  Ensures.bind hm fun a _ => hf a

/-- Two stores that look alike to the requests of a program, and stay so, give it one outcome. -/
theorem Ensures.runAlone_agree {S : Type} {serve : (q : ι.Request) → S → ι.Answer q × S}
    {rel : S → S → Prop} (hserve : ∀ q s t, rel s t → asks q →
      (serve q t).1 = (serve q s).1 ∧ rel (serve q s).2 (serve q t).2 ∧ gives q (serve q s).1)
    {m : Program ι α} {s t : S} (hm : Ensures asks gives post m) (hst : rel s t) :
    (m.runAlone serve t).1 = (m.runAlone serve s).1 := by
  induction m generalizing s t with
  | done a => rfl
  | fail e => rfl
  | ask q next ih =>
    obtain ⟨hanswer, hrel, hgives⟩ := hserve q s t hst hm.1
    rw [Program.runAlone_ask, Program.runAlone_ask, hanswer]
    exact ih _ (hm.2 _ hgives) hrel

theorem Ensures.lift_bind {m : Except String α} {f : α → Program ι β}
    (hf : ∀ a, m = .ok a → Ensures asks gives post' (f a)) :
    Ensures asks gives post' (Program.lift m >>= f) := by
  cases m with
  | ok a => exact hf a rfl
  | error e => trivial

end Guarded

end DddBoilerplate.Concurrency
