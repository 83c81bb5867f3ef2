/- module: DddBoilerplate/Concurrency/Entries
   generality: G
   digest: Threads beside the entries they were started with: what each one is at, and their tally. -/

import Mathlib.Algebra.BigOperators.Group.List.Basic
import Mathlib.Data.List.Forall2
import Mathlib.Tactic.Abel
import DddBoilerplate.Concurrency.Pool

set_option autoImplicit false
set_option relaxedAutoImplicit false
set_option linter.all false

namespace DddBoilerplate.Concurrency

variable {sys : System}

def Label.entry? : Label sys → Option sys.Entry
  | start entry => some entry
  | served _ _ _ _ => none
  | raised _ _ => none

/-- The entries started along a trace: the i-th is the i-th thread's. -/
def entries (trace : List (Label sys)) : List sys.Entry := trace.filterMap Label.entry?

/-- The program came to its end. -/
def Program.hasReturned {ι : Interface} {α : Type} : Program ι α → Bool
  | done _ => true
  | fail _ => false
  | ask _ _ => false

section Entries

variable {trace : List (Label sys)}

theorem entries_start (entry : sys.Entry) :
    entries (trace ++ [Label.start entry]) = entries trace ++ [entry] := by
  simp [entries, Label.entry?]

theorem entries_served {i : Nat} {q : sys.interface.Request} {a : sys.interface.Answer q}
    {f : Front sys.interface} : entries (trace ++ [Label.served i q a f]) = entries trace := by
  simp [entries, Label.entry?]

theorem entries_raised {i : Nat} {q : sys.interface.Request} :
    entries (trace ++ [Label.raised i q]) = entries trace := by
  simp [entries, Label.entry?]

theorem entries_append {trace' : List (Label sys)} :
    entries (trace ++ trace') = entries trace ++ entries trace' := by
  simp [entries]

theorem entries_starts (es : List sys.Entry) : entries (es.map (@Label.start sys)) = es := by
  induction es with
  | nil => rfl
  | cons e es ih => exact congrArg (e :: ·) ih

theorem served_not_mem_starts {es : List sys.Entry} {i : Nat} {q : sys.interface.Request}
    {a : sys.interface.Answer q} {f : Front sys.interface} :
    Label.served i q a f ∉ es.map (@Label.start sys) := by
  intro hmem
  obtain ⟨e, _, heq⟩ := List.mem_map.mp hmem
  cases heq

/-- What a run asks of the entries it starts holds of all of them. -/
theorem entries_of_run {ok : Pool sys → Label sys → Prop} {P Q : Pool sys}
    {admitted : sys.Entry → Prop} (hrun : Run ok P trace Q)
    (hstart : ∀ P e, ok P (.start e) → admitted e) : ∀ e ∈ entries trace, admitted e := by
  induction hrun with
  | nil =>
    intro e he
    cases he
  | @snoc trace Q R l _ hok _ ih =>
    intro e he
    cases l with
    | start entry =>
      rw [entries_start] at he
      rcases List.mem_append.mp he with he | he
      · exact ih e he
      · rw [List.mem_singleton.mp he]
        exact hstart Q entry hok
    | served i q a f =>
      rw [entries_served] at he
      exact ih e he
    | raised i q =>
      rw [entries_raised] at he
      exact ih e he

end Entries

section Lists

variable {α β : Type} {R S : α → β → Prop} {as : List α} {bs : List β} {i : Nat} {a : α} {b b' : β}

theorem forall₂_getElem? (h : List.Forall₂ R as bs) (hb : bs[i]? = some b) :
    ∃ a, as[i]? = some a ∧ R a b := by
  induction h generalizing i with
  | nil => simp at hb
  | @cons a b₀ as bs hab _ ih =>
    cases i with
    | zero =>
      simp only [List.getElem?_cons_zero, Option.some.injEq] at hb ⊢
      exact ⟨a, rfl, hb ▸ hab⟩
    | succ i =>
      simp only [List.getElem?_cons_succ] at hb ⊢
      exact ih hb

/-- One element replaced by another in relation; the others stay in relation. -/
theorem forall₂_set (h : List.Forall₂ R as bs) (hkept : ∀ a b, R a b → S a b)
    (ha : as[i]? = some a) (hab : S a b') : List.Forall₂ S as (bs.set i b') := by
  induction h generalizing i with
  | nil => exact .nil
  | @cons a₀ b₀ as bs hab₀ hrest ih =>
    cases i with
    | zero =>
      simp only [List.getElem?_cons_zero, Option.some.injEq] at ha
      subst ha
      exact .cons hab (hrest.imp hkept)
    | succ i =>
      simp only [List.getElem?_cons_succ] at ha
      exact .cons (hkept a₀ b₀ hab₀) (ih ha)

/-- A sum over two lists, with one element of the second replaced. -/
theorem sum_zipWith_set {γ : Type} [AddCommGroup γ] (f : α → β → γ) (ha : as[i]? = some a)
    (hb : bs[i]? = some b) :
    (List.zipWith f as (bs.set i b')).sum = (List.zipWith f as bs).sum + (f a b' - f a b) := by
  induction as generalizing bs i with
  | nil => simp at ha
  | cons a₀ as ih =>
    cases bs with
    | nil => simp at hb
    | cons b₀ bs =>
      cases i with
      | zero =>
        simp only [List.getElem?_cons_zero, Option.some.injEq] at ha hb
        subst ha hb
        simp only [List.set_cons_zero, List.zipWith_cons_cons, List.sum_cons]
        abel
      | succ i =>
        simp only [List.getElem?_cons_succ] at ha hb
        simp only [List.set_cons_succ, List.zipWith_cons_cons, List.sum_cons, ih ha hb]
        abel

end Lists

section Tracking

variable (On : sys.Entry → Program sys.interface Unit → sys.Store → Prop)
variable (rely : sys.Store → sys.Store → Prop)

/-- What is known of a thread by its entry: of the program at its start, after each of its own
steps, and whatever the others do. -/
structure Tracking : Prop where
  start : ∀ e s, On e (sys.program e) s
  served : ∀ e s q next a s', On e (.ask q next) s → sys.Serves q s a s' → On e (next a) s'
  raised : ∀ e s q next error, On e (.ask q next) s → On e (.fail error) s
  stable : ∀ e p s s', On e p s → rely s s' → On e p s'

/-- Every thread is where its entry may be. -/
def Tracked (started : List sys.Entry) (P : Pool sys) : Prop :=
  List.Forall₂ (fun e p => On e p P.store) started P.threads

variable {On rely} {P Q R : Pool sys} {trace : List (Label sys)} {l : Label sys}

theorem Tracked.step (O : Tracking On rely) (h : Tracked On (entries trace) Q)
    (hstep : Step sys Q l R) (hrely : rely Q.store R.store) :
    Tracked On (entries (trace ++ [l])) R := by
  cases hstep with
  | start store threads entry =>
    rw [entries_start]
    refine List.rel_append h (.cons (O.start entry store) .nil)
  | @served store store' threads i q next a here answered =>
    rw [entries_served]
    obtain ⟨e, he, hon⟩ := forall₂_getElem? h here
    exact forall₂_set h (fun e p hp => O.stable e p store store' hp hrely) he
      (O.served e store q next a store' hon answered)
  | @raised store threads i q next here error =>
    rw [entries_raised]
    obtain ⟨e, he, hon⟩ := forall₂_getElem? h here
    exact forall₂_set h (fun e p hp => hp) he (O.raised e store q next error hon)

/-- Along a run from an idle pool whose steps the others may rely on. -/
theorem Tracked.run {ok : Pool sys → Label sys → Prop} (O : Tracking On rely)
    (hrun : Run ok P trace Q) (hP : P.threads = [])
    (hrely : ∀ {trace Q l R}, Run ok P trace Q → ok Q l → Step sys Q l R → rely Q.store R.store) :
    Tracked On (entries trace) Q := by
  induction hrun with
  | nil =>
    unfold Tracked
    rw [hP]
    exact .nil
  | snoc hrun hok hstep ih => exact ih.step O hstep (hrely hrun hok hstep)

end Tracking

section Later

variable {On : sys.Entry → Program sys.interface Unit → Prop} {Known : Pool sys → Prop}
variable {P Q R : Pool sys} {trace : List (Label sys)} {ok : Pool sys → Label sys → Prop}

/-- The threads a run has started stand after those that were there, each where its entry may be;
what is known of every pool of the run may be used at their steps. -/
theorem Run.started_later (hrun : Run ok P trace Q)
    (hknown : ∀ {trace Q}, Run ok P trace Q → Known Q)
    (hstart : ∀ e, On e (sys.program e))
    (hserved : ∀ Q i e q next a s', Known Q → ok Q (.served i q a (next a).front) →
      On e (.ask q next) → sys.Serves q Q.store a s' → On e (next a))
    (hraised : ∀ e q next error, On e (.ask q next) → On e (.fail error)) :
    P.threads.length ≤ Q.threads.length ∧
      List.Forall₂ On (entries trace) (Q.threads.drop P.threads.length) := by
  have hset : ∀ {as : List sys.Entry} {ps : List (Program sys.interface Unit)} {i : Nat}
      {p p' : Program sys.interface Unit}, List.Forall₂ On as ps → ps[i]? = some p →
      (∀ e, On e p → On e p') → List.Forall₂ On as (ps.set i p') := by
    intro as ps i p p' h hp hon
    obtain ⟨e, he, hep⟩ := forall₂_getElem? h hp
    exact forall₂_set h (fun _ _ h => h) he (hon e hep)
  have hthread : ∀ {ps : List (Program sys.interface Unit)} {n i : Nat}
      {p p' : Program sys.interface Unit} {as : List sys.Entry}, n ≤ ps.length →
      List.Forall₂ On as (ps.drop n) → ps[i]? = some p → (∀ e, On e p → On e p') →
      List.Forall₂ On as ((ps.set i p').drop n) := by
    intro ps n i p p' as hle h hp hon
    rw [List.drop_set]
    split
    · exact h
    · rename_i hge
      refine hset h ?_ hon
      rw [List.getElem?_drop, Nat.add_sub_cancel' (Nat.le_of_not_lt hge)]
      exact hp
  induction hrun with
  | nil => exact ⟨Nat.le_refl _, by simp [entries]⟩
  | @snoc trace Q R l hrun hok hstep ih =>
    obtain ⟨hle, hlater⟩ := ih
    cases hstep with
    | start store threads entry =>
      rw [entries_start]
      refine ⟨Nat.le_trans hle (by simp), ?_⟩
      rw [List.drop_append_of_le_length hle]
      exact List.rel_append hlater (.cons (hstart entry) .nil)
    | @served store store' threads i q next a here answered =>
      rw [entries_served]
      refine ⟨by simpa using hle, hthread hle hlater here fun e hon => ?_⟩
      exact hserved _ i e q next a store' (hknown hrun) hok hon answered
    | @raised store threads i q next here error =>
      rw [entries_raised]
      exact ⟨by simpa using hle, hthread hle hlater here fun e hon => hraised e q next error hon⟩

/-- The same of one thread, by its place. -/
theorem Run.entered_later {started : List sys.Entry} {i : Nat} {e : sys.Entry}
    {p : Program sys.interface Unit} (hrun : Run ok P trace Q)
    (hstarted : started.length = P.threads.length)
    (hknown : ∀ {trace Q}, Run ok P trace Q → Known Q)
    (hstart : ∀ e, On e (sys.program e))
    (hserved : ∀ Q i e q next a s', Known Q → ok Q (.served i q a (next a).front) →
      On e (.ask q next) → sys.Serves q Q.store a s' → On e (next a))
    (hraised : ∀ e q next error, On e (.ask q next) → On e (.fail error))
    (hi : P.threads.length ≤ i) (hentry : (started ++ entries trace)[i]? = some e)
    (hp : Q.threads[i]? = some p) : On e p := by
  obtain ⟨_, hlater⟩ := hrun.started_later hknown hstart hserved hraised
  rw [List.getElem?_append_right (hstarted ▸ hi), hstarted] at hentry
  have hdropped : (Q.threads.drop P.threads.length)[i - P.threads.length]? = some p := by
    rw [List.getElem?_drop, Nat.add_sub_cancel' hi]
    exact hp
  obtain ⟨e', he', hon⟩ := forall₂_getElem? hlater hdropped
  rw [hentry] at he'
  cases he'
  exact hon

end Later

section Lengths

variable {ok : Pool sys → Label sys → Prop} {P Q : Pool sys} {trace : List (Label sys)}

/-- As many threads as entries. -/
theorem Run.length_threads (hrun : Run ok P trace Q) :
    Q.threads.length = P.threads.length + (entries trace).length := by
  induction hrun with
  | nil => simp [entries]
  | snoc _ _ hstep ih =>
    cases hstep with
    | start store threads entry =>
      rw [entries_start, List.length_append, List.length_append, ih]
      simp [Nat.add_assoc]
    | served here answered =>
      rw [entries_served, List.length_set]
      exact ih
    | raised here error =>
      rw [entries_raised, List.length_set]
      exact ih

end Lengths

section Along

variable (f : List sys.Entry → Label sys → Bool)

/-- How many steps of a trace pass, each judged by the entries started before it. -/
def countAlong : List sys.Entry → List (Label sys) → Nat
  | _, [] => 0
  | started, l :: rest =>
    (if f started l then 1 else 0) + countAlong (started ++ entries [l]) rest

theorem countAlong_snoc {started : List sys.Entry} {trace : List (Label sys)} {l : Label sys} :
    countAlong f started (trace ++ [l]) =
      countAlong f started trace + if f (started ++ entries trace) l then 1 else 0 := by
  induction trace generalizing started with
  | nil => simp [countAlong, entries]
  | cons l' trace ih =>
    rw [List.cons_append, countAlong, countAlong, ih, List.append_assoc, ← entries_append,
      List.singleton_append, Nat.add_assoc]

end Along

section Tally

variable {γ : Type} [AddCommGroup γ] (f : sys.Entry → Program sys.interface Unit → γ)
variable {P Q R : Pool sys} {trace : List (Label sys)}

/-- The sum of what each thread contributes, by its entry. -/
def tally (started : List sys.Entry) (P : Pool sys) : γ := (List.zipWith f started P.threads).sum

theorem tally_start {entry : sys.Entry} {l : Label sys} (hl : l = .start entry)
    (hlength : (entries trace).length = Q.threads.length) (hstep : Step sys Q l R) :
    tally f (entries (trace ++ [l])) R =
      tally f (entries trace) Q + f entry (sys.program entry) := by
  subst hl
  cases hstep with
  | start store threads entry =>
    unfold tally
    rw [entries_start, List.zipWith_append hlength, List.sum_append]
    simp

/-- A served thread contributes what its entry does where it is now. -/
theorem tally_served {i : Nat} {q : sys.interface.Request} {a : sys.interface.Answer q}
    {front : Front sys.interface} (hlength : (entries trace).length = Q.threads.length)
    (hstep : Step sys Q (.served i q a front) R) :
    ∃ e next, (entries trace)[i]? = some e ∧ Q.threads[i]? = some (.ask q next) ∧
      sys.Serves q Q.store a R.store ∧
      tally f (entries (trace ++ [Label.served i q a front])) R =
        tally f (entries trace) Q + (f e (next a) - f e (.ask q next)) := by
  cases hstep with
  | @served store store' threads i q next a here answered =>
    have hlt : i < (entries trace).length := by
      rw [hlength]
      exact (List.getElem?_eq_some_iff.mp here).1
    refine ⟨(entries trace)[i], next, List.getElem?_eq_getElem hlt, here, answered, ?_⟩
    unfold tally
    rw [entries_served]
    exact sum_zipWith_set f (List.getElem?_eq_getElem hlt) here

theorem tally_raised {i : Nat} {q : sys.interface.Request}
    (hlength : (entries trace).length = Q.threads.length)
    (hstep : Step sys Q (.raised i q) R) :
    ∃ e next error, (entries trace)[i]? = some e ∧
      tally f (entries (trace ++ [Label.raised i q])) R =
        tally f (entries trace) Q + (f e (.fail error) - f e (.ask q next)) := by
  cases hstep with
  | @raised store threads i q next here error =>
    have hlt : i < (entries trace).length := by
      rw [hlength]
      exact (List.getElem?_eq_some_iff.mp here).1
    refine ⟨(entries trace)[i], next, error, List.getElem?_eq_getElem hlt, ?_⟩
    unfold tally
    rw [entries_raised]
    exact sum_zipWith_set f (List.getElem?_eq_getElem hlt) here

end Tally

end DddBoilerplate.Concurrency
