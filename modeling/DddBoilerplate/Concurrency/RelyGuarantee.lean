/- module: DddBoilerplate/Concurrency/RelyGuarantee
   generality: G
   digest: Rely and guarantee for pools: each program proved alone, against what the others may do. -/

import DddBoilerplate.Concurrency.Pool

set_option autoImplicit false
set_option relaxedAutoImplicit false
set_option linter.all false

namespace DddBoilerplate.Concurrency

/-- What every program may rely on between two of its requests, and what each served request
guarantees; a guarantee is never more than the others rely on. -/
structure Discipline (sys : System) where
  rely : sys.Store → sys.Store → Prop
  guarantee : sys.Store → (q : sys.interface.Request) → sys.interface.Answer q →
    Front sys.interface → sys.Store → Prop
  refl : ∀ s, rely s s
  trans : ∀ {s t u}, rely s t → rely t u → rely s u
  sound : ∀ {s q a f t}, guarantee s q a f t → rely s t

namespace Discipline

variable {sys : System} (D : Discipline sys)
variable (ok : sys.Store → (q : sys.interface.Request) → sys.interface.Answer q →
  Front sys.interface → Prop)

/-- From this store on, whatever the others do within what they may, every request of the
program that is served under the condition meets its guarantee. -/
def Secure : Program sys.interface Unit → sys.Store → Prop
  | .ask q next, s => ∀ s', D.rely s s' → ∀ a s'', sys.Serves q s' a s'' →
      ok s' q a (next a).front → D.guarantee s' q a (next a).front s'' ∧ Secure (next a) s''
  | _, _ => True

variable {D ok}

theorem Secure.of_rely {p : Program sys.interface Unit} {s t : sys.Store} (h : D.Secure ok p s)
    (hrely : D.rely s t) : D.Secure ok p t := by
  cases p with
  | done a => trivial
  | fail e => trivial
  | ask q next => exact fun s' hs' => h s' (D.trans hrely hs')

/-- A step condition on pools that implies the condition on served requests, and starts
admitted programs only. -/
structure Covers (okRun : Pool sys → Label sys → Prop) (admitted : sys.Entry → Prop)
    (ok : sys.Store → (q : sys.interface.Request) → sys.interface.Answer q →
      Front sys.interface → Prop) : Prop where
  start : ∀ P e, okRun P (.start e) → admitted e
  served : ∀ P i q a f, okRun P (.served i q a f) → ok P.store q a f

/-- Every thread of the pool is secure where the pool stands. -/
def AllSecure (D : Discipline sys) (ok : sys.Store → (q : sys.interface.Request) →
    sys.interface.Answer q → Front sys.interface → Prop) (P : Pool sys) : Prop :=
  ∀ p ∈ P.threads, D.Secure ok p P.store

variable {okRun : Pool sys → Label sys → Prop} {admitted : sys.Entry → Prop}
variable {P Q R : Pool sys} {l : Label sys}
variable {trace : List (Label sys)}

/-- A served request of a secure pool meets its guarantee. -/
theorem AllSecure.served (h : D.AllSecure ok P) {i : Nat} {q : sys.interface.Request}
    {a : sys.interface.Answer q} {f : Front sys.interface}
    (hstep : Step sys P (.served i q a f) Q) (hok : ok P.store q a f) :
    D.guarantee P.store q a f Q.store := by
  cases hstep with
  | served here answered =>
    exact (h _ (List.mem_of_getElem? here) _ (D.refl _) _ _ answered hok).1

theorem AllSecure.step (hprogram : ∀ e s, admitted e → D.Secure ok (sys.program e) s)
    (hcovers : Covers okRun admitted ok) (h : D.AllSecure ok P) (hok : okRun P l)
    (hstep : Step sys P l Q) : D.AllSecure ok Q := by
  intro p hp
  cases hstep with
  | start store threads entry =>
    rcases List.mem_append.mp hp with hp | hp
    · exact h p hp
    · rw [List.mem_singleton.mp hp]
      exact hprogram entry store (hcovers.start _ _ hok)
  | @served store store' threads i q next a here answered =>
    have hserved := h _ (List.mem_of_getElem? here) _ (D.refl _) _ _ answered
      (hcovers.served _ _ _ _ _ hok)
    rcases mem_set_cases hp with rfl | ⟨j, _, hp⟩
    · exact hserved.2
    · exact (h p (List.mem_of_getElem? hp)).of_rely (D.sound hserved.1)
  | raised here error =>
    rcases mem_set_cases hp with rfl | ⟨j, _, hp⟩
    · trivial
    · exact h p (List.mem_of_getElem? hp)

/-- Programs secure alone are secure together, along every run. -/
theorem AllSecure.run (hprogram : ∀ e s, admitted e → D.Secure ok (sys.program e) s)
    (hcovers : Covers okRun admitted ok) (hrun : Run okRun P trace Q) (h : D.AllSecure ok P) :
    D.AllSecure ok Q := by
  induction hrun with
  | nil => exact h
  | snoc _ hok hstep ih => exact ih.step hprogram hcovers hok hstep

/-- What every guarantee keeps, every step of a secure pool keeps. -/
theorem AllSecure.keeps {Inv : sys.Store → Prop} (h : D.AllSecure ok P)
    (hcovers : Covers okRun admitted ok)
    (hkeeps : ∀ s q a f s', Inv s → ok s q a f → D.guarantee s q a f s' → Inv s')
    (hinv : Inv P.store) (hok : okRun P l) (hstep : Step sys P l Q) : Inv Q.store := by
  cases l with
  | start e =>
    cases hstep
    exact hinv
  | served i q a f =>
    have hcovered := hcovers.served _ _ _ _ _ hok
    exact hkeeps _ _ _ _ _ hinv hcovered (h.served hstep hcovered)
  | raised i q =>
    cases hstep
    exact hinv

/-- What the guarantees keep holds of every store a run reaches. -/
theorem invariant_of_run {Inv : sys.Store → Prop}
    (hprogram : ∀ e s, admitted e → D.Secure ok (sys.program e) s)
    (hcovers : Covers okRun admitted ok)
    (hkeeps : ∀ s q a f s', Inv s → ok s q a f → D.guarantee s q a f s' → Inv s')
    (hrun : Run okRun P trace Q) (h : D.AllSecure ok P) (hinv : Inv P.store) : Inv Q.store := by
  induction hrun with
  | nil => exact hinv
  | snoc hrun hok hstep ih =>
    exact (h.run hprogram hcovers hrun).keeps hcovers hkeeps ih hok hstep

theorem allSecure_of_no_threads (h : P.threads = []) : D.AllSecure ok P := by
  intro p hp
  rw [h] at hp
  cases hp

end Discipline

end DddBoilerplate.Concurrency
