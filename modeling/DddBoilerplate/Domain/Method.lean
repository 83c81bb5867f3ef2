/- module: DddBoilerplate/Domain/Method
   generality: G
   digest: Methods of mutable objects that may throw halfway, checks, and what a call keeps. -/

import Mathlib.Data.List.Basic

set_option autoImplicit false
set_option relaxedAutoImplicit false
set_option linter.all false

namespace DddBoilerplate.Domain

/-- A call on a mutable object: what it assigned before it threw stays assigned. -/
def Method (ε σ α : Type) : Type := σ → Except ε α × σ

namespace Method

variable {ε σ α β : Type}

/-- The object a call leaves, whether it threw or not. -/
def after (m : Method ε σ α) (s : σ) : σ := (m s).2

/-- The call returned. -/
def Returns (m : Method ε σ α) (s : σ) : Prop := ∃ a, (m s).1 = .ok a

instance (m : Method ε σ α) (s : σ) : Decidable (m.Returns s) :=
  match h : (m s).1 with
  | .ok a => .isTrue ⟨a, h⟩
  | .error e => .isFalse fun ⟨a, ha⟩ => by rw [h] at ha; cases ha

def bind (m : Method ε σ α) (f : α → Method ε σ β) : Method ε σ β := fun s =>
  match m s with
  | (.ok a, s') => f a s'
  | (.error e, s') => (.error e, s')

instance : Monad (Method ε σ) where
  pure a := fun s => (.ok a, s)
  bind := bind

/-- The object itself, as it stands. -/
def this : Method ε σ σ := fun s => (.ok s, s)

def assign (f : σ → σ) : Method ε σ Unit := fun s => (.ok (), f s)

/-- A check that throws or lets the call go on. -/
def enforce (check : Except ε α) : Method ε σ α := fun s => (check, s)

@[simp] theorem pure_apply (a : α) (s : σ) : (pure a : Method ε σ α) s = (.ok a, s) := rfl

@[simp] theorem this_bind (f : σ → Method ε σ β) (s : σ) : (this >>= f) s = f s s := rfl

@[simp] theorem assign_bind (g : σ → σ) (f : Unit → Method ε σ β) (s : σ) :
    (assign g >>= f) s = f () (g s) := rfl

@[simp] theorem assign_apply (g : σ → σ) (s : σ) :
    (assign g : Method ε σ Unit) s = (.ok (), g s) := rfl

@[simp] theorem enforce_apply (check : Except ε α) (s : σ) :
    (enforce check : Method ε σ α) s = (check, s) := rfl

@[simp] theorem enforce_ok_bind (a : α) (f : α → Method ε σ β) (s : σ) :
    (enforce (.ok a) >>= f) s = f a s := rfl

@[simp] theorem enforce_error_bind (e : ε) (f : α → Method ε σ β) (s : σ) :
    (enforce (.error e : Except ε α) >>= f) s = (.error e, s) := rfl

/-- A check either threw and changed nothing, or the call went on behind it. -/
theorem enforce_bind_cases (check : Except ε α) (f : α → Method ε σ β) (s : σ) :
    (∃ e, check = .error e ∧ (enforce check >>= f) s = (.error e, s)) ∨
      ∃ a, check = .ok a ∧ (enforce check >>= f) s = f a s := by
  cases check with
  | error e => exact .inl ⟨e, rfl, rfl⟩
  | ok a => exact .inr ⟨a, rfl, rfl⟩

theorem enforce_bind_ok {check : Except ε α} {f : α → Method ε σ β} {s s' : σ} {b : β}
    (h : (enforce check >>= f) s = (.ok b, s')) : ∃ a, check = .ok a ∧ f a s = (.ok b, s') := by
  rcases enforce_bind_cases check f s with ⟨e, _, he⟩ | ⟨a, hcheck, ha⟩
  · rw [he] at h
    cases h
  · exact ⟨a, hcheck, ha.symm.trans h⟩

/-- The object behind a check: as it was, or as the call left it behind the check. -/
theorem after_enforce_cases (check : Except ε α) (f : α → Method ε σ β) (s : σ) :
    (enforce check >>= f).after s = s ∨
      ∃ a, check = .ok a ∧ (enforce check >>= f).after s = (f a).after s := by
  rcases enforce_bind_cases check f s with ⟨e, _, h⟩ | ⟨a, hcheck, h⟩
  · exact .inl (congrArg Prod.snd h)
  · exact .inr ⟨a, hcheck, congrArg Prod.snd h⟩

/-- Dropping what a call returned leaves the object the call left. -/
theorem after_bind_pure (m : Method ε σ α) (f : α → β) (s : σ) :
    (m >>= fun a => pure (f a)).after s = m.after s := by
  show (Method.bind m (fun a => pure (f a)) s).2 = (m s).2
  unfold Method.bind
  rcases m s with ⟨outcome, s'⟩
  cases outcome with
  | ok a => rfl
  | error e => rfl

theorem returns_bind_pure {m : Method ε σ α} {f : α → β} {s : σ} :
    (m >>= fun a => pure (f a)).Returns s ↔ m.Returns s := by
  show (∃ b, (Method.bind m (fun a => pure (f a)) s).1 = .ok b) ↔ ∃ a, (m s).1 = .ok a
  unfold Method.bind
  rcases m s with ⟨outcome, s'⟩
  cases outcome with
  | ok a => exact ⟨fun _ => ⟨a, rfl⟩, fun _ => ⟨f a, rfl⟩⟩
  | error e => exact ⟨fun ⟨_, h⟩ => (nomatch h), fun ⟨_, h⟩ => (nomatch h)⟩

/-- What returned in sequence returned in each part. -/
theorem bind_ok {m : Method ε σ α} {f : α → Method ε σ β} {s s' : σ} {b : β}
    (h : (m >>= f) s = (.ok b, s')) :
    ∃ a middle, m s = (.ok a, middle) ∧ f a middle = (.ok b, s') := by
  change Method.bind m f s = _ at h
  unfold Method.bind at h
  split at h
  · rename_i a middle hm
    exact ⟨a, middle, hm, h⟩
  · cases h

theorem bind_of_ok {m : Method ε σ α} {f : α → Method ε σ β} {s t : σ} {a : α}
    (h : m s = (.ok a, t)) : (m >>= f) s = f a t := by
  show Method.bind m f s = _
  simp only [Method.bind, h]

theorem bind_of_error {m : Method ε σ α} {f : α → Method ε σ β} {s t : σ} {e : ε}
    (h : m s = (.error e, t)) : (m >>= f) s = (.error e, t) := by
  show Method.bind m f s = _
  simp only [Method.bind, h]

section Loops

variable {γ : Type} {f : γ → Method ε σ Unit} {c : γ} {cs ds : List γ} {s s' : σ}

theorem forM_cons_ok (h : (c :: cs).forM f s = (.ok (), s')) :
    ∃ middle, f c s = (.ok (), middle) ∧ cs.forM f middle = (.ok (), s') := by
  obtain ⟨_, middle, hc, hcs⟩ := bind_ok h
  exact ⟨middle, hc, hcs⟩

theorem forM_cons_of_ok {middle : σ} (hc : f c s = (.ok (), middle))
    (hcs : cs.forM f middle = (.ok (), s')) : (c :: cs).forM f s = (.ok (), s') := by
  show Method.bind (f c) (fun _ => cs.forM f) s = _
  unfold Method.bind
  rw [hc]
  exact hcs

theorem forM_append_ok (h : (cs ++ ds).forM f s = (.ok (), s')) :
    ∃ middle, cs.forM f s = (.ok (), middle) ∧ ds.forM f middle = (.ok (), s') := by
  induction cs generalizing s with
  | nil => exact ⟨s, rfl, h⟩
  | cons c cs ih =>
    obtain ⟨first, hc, hrest⟩ := forM_cons_ok h
    obtain ⟨middle, hcs, hds⟩ := ih hrest
    exact ⟨middle, forM_cons_of_ok hc hcs, hds⟩

theorem forM_singleton_ok (h : [c].forM f s = (.ok (), s')) : f c s = (.ok (), s') := by
  obtain ⟨middle, hc, hnil⟩ := forM_cons_ok h
  cases hnil
  exact hc

end Loops

section Keeps

/-- Every call leaves the object in relation to what it was, also a call that throws. -/
def Keeps (rel : σ → σ → Prop) (m : Method ε σ α) : Prop := ∀ s, rel s (m.after s)

variable {rel : σ → σ → Prop}

theorem Keeps.enforce (hrefl : ∀ s, rel s s) (check : Except ε α) :
    Keeps rel (enforce check : Method ε σ α) := fun s => hrefl s

theorem Keeps.bind (htrans : ∀ s t u, rel s t → rel t u → rel s u) {m : Method ε σ α}
    {f : α → Method ε σ β} (hm : Keeps rel m) (hf : ∀ a, Keeps rel (f a)) :
    Keeps rel (m >>= f) := by
  intro s
  have hms := hm s
  show rel s (Method.bind m f s).2
  unfold Method.bind
  unfold after at hms
  split
  · rename_i a s' heq
    rw [heq] at hms
    exact htrans _ _ _ hms (hf a s')
  · rename_i e s' heq
    rw [heq] at hms
    exact hms

/-- A loop keeps what each of its rounds keeps. -/
theorem Keeps.forM {γ : Type} (hrefl : ∀ s, rel s s)
    (htrans : ∀ s t u, rel s t → rel t u → rel s u) (f : γ → Method ε σ Unit)
    (hf : ∀ c, Keeps rel (f c)) (cs : List γ) : Keeps rel (cs.forM f) := by
  induction cs with
  | nil => exact fun s => hrefl s
  | cons c cs ih => exact (hf c).bind htrans fun _ => ih

end Keeps

section Fixes

variable {τ : Type}

/-- No call changes this part of the object, also none that throws. -/
def Fixes (part : σ → τ) (m : Method ε σ α) : Prop := ∀ s, part (m.after s) = part s

variable {part : σ → τ}

theorem Fixes.this : Fixes part (Method.this : Method ε σ σ) := fun _ => rfl

theorem Fixes.pure (a : α) : Fixes part (Pure.pure a : Method ε σ α) := fun _ => rfl

theorem Fixes.enforce (check : Except ε α) : Fixes part (Method.enforce check : Method ε σ α) :=
  fun _ => rfl

theorem Fixes.assign {f : σ → σ} (hf : ∀ s, part (f s) = part s) :
    Fixes part (Method.assign f : Method ε σ Unit) := hf

theorem Fixes.bind {m : Method ε σ α} {f : α → Method ε σ β} (hm : Fixes part m)
    (hf : ∀ a, Fixes part (f a)) : Fixes part (m >>= f) := by
  have hkeeps : Keeps (fun s t => part t = part s) (m >>= f) := by
    refine Keeps.bind ?_ hm hf
    intro _ _ _ h h'
    exact h'.trans h
  exact hkeeps

theorem Fixes.forM {γ : Type} (f : γ → Method ε σ Unit) (hf : ∀ c, Fixes part (f c))
    (cs : List γ) : Fixes part (cs.forM f) := by
  induction cs with
  | nil => exact fun _ => rfl
  | cons c cs ih => exact (hf c).bind fun _ => ih

theorem Fixes.of_returned {m : Method ε σ α} (h : Fixes part m) {s s' : σ} {a : α}
    (hrun : m s = (.ok a, s')) : part s' = part s := by
  have hs := h s
  unfold after at hs
  rw [hrun] at hs
  exact hs

end Fixes

end Method

/-- A condition to be met, with what is thrown where it is not. -/
def require {ε : Type} (holds : Prop) [Decidable holds] (error : ε) : Except ε Unit :=
  if holds then .ok () else .error error

@[simp] theorem require_eq_ok {ε : Type} {holds : Prop} [Decidable holds] {error : ε} {u : Unit} :
    require holds error = .ok u ↔ holds := by
  unfold require
  split
  · rename_i h
    exact ⟨fun _ => h, fun _ => rfl⟩
  · rename_i h
    exact ⟨fun hok => (nomatch hok), fun hholds => absurd hholds h⟩

theorem require_eq_error {ε : Type} {holds : Prop} [Decidable holds] {error e : ε} :
    require holds error = .error e ↔ ¬holds ∧ error = e := by
  unfold require
  split
  · rename_i h
    exact ⟨fun herr => (nomatch herr), fun hn => absurd h hn.1⟩
  · rename_i h
    exact ⟨fun herr => ⟨h, Except.error.inj herr⟩, fun hn => congrArg _ hn.2⟩

end DddBoilerplate.Domain
