/- module: DddBoilerplate/Concurrency/Control
   generality: G
   digest: Control points: what is known of each thread where it is, and of any two threads together. -/

import DddBoilerplate.Concurrency.Entries

set_option autoImplicit false
set_option relaxedAutoImplicit false
set_option linter.all false

namespace DddBoilerplate.Concurrency

variable {sys : System} {κ : Type}

section Lists

variable {α β : Type} {R S : α → β → Prop} {as : List α} {bs : List β} {i : Nat} {a a' : α} {b' : β}

/-- Both lists changed at one place; the others go from one relation to the other. -/
theorem forall₂_set_set (h : List.Forall₂ R as bs)
    (hothers : ∀ (j : Nat) (a : α) (b : β), j ≠ i → as[j]? = some a → R a b → S a b)
    (hab : S a' b') : List.Forall₂ S (as.set i a') (bs.set i b') := by
  induction h generalizing i with
  | nil => exact .nil
  | @cons a₀ b₀ as bs hab₀ hrest ih =>
    cases i with
    | zero =>
      refine .cons hab ?_
      refine List.forall₂_iff_get.mpr ⟨hrest.length_eq, fun n hn hn' => ?_⟩
      have hR := (List.forall₂_iff_get.mp hrest).2 n hn hn'
      exact hothers (n + 1) _ _ (Nat.succ_ne_zero n) (by simp [hn]) hR
    | succ i =>
      refine .cons (hothers 0 a₀ b₀ (by omega) rfl hab₀) (ih fun j a b hj ha hR => ?_)
      exact hothers (j + 1) a b (by omega) (by simpa using ha) hR

/-- Any two elements at different places are in the relation. -/
def Mutually (apart : α → α → Prop) (cs : List α) : Prop :=
  ∀ (i j : Nat) (c d : α), i ≠ j → cs[i]? = some c → cs[j]? = some d → apart c d

variable {apart : α → α → Prop} {cs : List α} {c c' : α}

theorem Mutually.set (h : Mutually apart cs) (hsymm : ∀ {c d}, apart c d → apart d c)
    (hc : cs[i]? = some c)
    (haway : ∀ (j : Nat) (d : α), cs[j]? = some d → apart c d → apart c' d) :
    Mutually apart (cs.set i c') := by
  have hlt : i < cs.length := (List.getElem?_eq_some_iff.mp hc).1
  intro j k d d' hjk hd hd'
  by_cases hj : i = j
  · subst hj
    rw [List.getElem?_set_self hlt] at hd
    rw [List.getElem?_set_ne hjk] at hd'
    cases hd
    exact haway k d' hd' (h i k c d' hjk hc hd')
  · rw [List.getElem?_set_ne hj] at hd
    by_cases hk : i = k
    · subst hk
      rw [List.getElem?_set_self hlt] at hd'
      cases hd'
      exact hsymm (haway j d hd (h i j c d hj hc hd))
    · rw [List.getElem?_set_ne hk] at hd'
      exact h j k d d' hjk hd hd'

theorem Mutually.concat (h : Mutually apart cs) (hsymm : ∀ {c d}, apart c d → apart d c)
    (haway : ∀ (j : Nat) (d : α), cs[j]? = some d → apart c d) :
    Mutually apart (cs ++ [c]) := by
  have hcases : ∀ (j : Nat) (d : α), (cs ++ [c])[j]? = some d →
      cs[j]? = some d ∨ j = cs.length ∧ d = c := by
    intro j d hd
    rcases Nat.lt_or_ge j cs.length with hlt | hge
    · rw [List.getElem?_append_left hlt] at hd
      exact .inl hd
    · rw [List.getElem?_append_right hge] at hd
      obtain ⟨hlt, rfl⟩ := List.getElem?_eq_some_iff.mp hd
      have hzero : j - cs.length = 0 := by simpa using hlt
      exact .inr ⟨by omega, by simp [hzero]⟩
  intro j k d d' hjk hd hd'
  rcases hcases j d hd with hd | ⟨hj, rfl⟩
  · rcases hcases k d' hd' with hd' | ⟨hk, hnew⟩
    · exact h j k d d' hjk hd hd'
    · exact hnew ▸ hsymm (haway j d hd)
  · rcases hcases k d' hd' with hd' | ⟨hk, _⟩
    · exact haway k d' hd'
    · exact absurd (hj.trans hk.symm) hjk

end Lists

/-- Programs annotated at their control points. A point says which program is left of its entry;
`Local` is what is known there, `Apart` what is known of two threads, and `Global` of the store.
The thread that moves finds its next point, and every other thread keeps what it knows. -/
structure Annotated (ok : Pool sys → Label sys → Prop)
    (At : sys.Entry → κ → Program sys.interface Unit → Prop)
    (Global : sys.Store → Prop) (Local : sys.Entry → κ → sys.Store → Prop)
    (Apart : κ → κ → Prop) : Prop where
  symm : ∀ {k k₂}, Apart k k₂ → Apart k₂ k
  start : ∀ P e, ok P (.start e) → Global P.store →
    ∃ k, At e k (sys.program e) ∧ Local e k P.store ∧ ∀ e₂ k₂, Local e₂ k₂ P.store → Apart k k₂
  served : ∀ P i e k q next a s', ok P (.served i q a (next a).front) → Global P.store →
    Local e k P.store → At e k (.ask q next) → sys.Serves q P.store a s' →
    Global s' ∧ ∃ k', At e k' (next a) ∧ Local e k' s' ∧
      ∀ e₂ k₂, Local e₂ k₂ P.store → Apart k k₂ → Local e₂ k₂ s' ∧ Apart k' k₂
  raised : ∀ e k q next error s, At e k (.ask q next) → Local e k s →
    ∃ k', At e k' (.fail error) ∧ Local e k' s ∧ ∀ k₂, Apart k k₂ → Apart k' k₂

namespace Annotated

variable {ok : Pool sys → Label sys → Prop}
variable {At : sys.Entry → κ → Program sys.interface Unit → Prop}
variable {Global : sys.Store → Prop} {Local : sys.Entry → κ → sys.Store → Prop}
variable {Apart : κ → κ → Prop}

/-- A pool with its threads at these points. -/
structure Stands (At : sys.Entry → κ → Program sys.interface Unit → Prop)
    (Global : sys.Store → Prop) (Local : sys.Entry → κ → sys.Store → Prop)
    (Apart : κ → κ → Prop) (points : List (sys.Entry × κ)) (P : Pool sys) : Prop where
  store : Global P.store
  threads : List.Forall₂ (fun c p => At c.1 c.2 p ∧ Local c.1 c.2 P.store) points P.threads
  apart : Mutually (fun c d => Apart c.2 d.2) points

theorem stands_of_no_threads {P : Pool sys} (hstore : Global P.store) (hP : P.threads = []) :
    Stands At Global Local Apart [] P where
  store := hstore
  threads := by
    rw [hP]
    exact .nil
  apart := by
    intro i j c d _ hc
    cases hc

variable {P Q R : Pool sys} {points : List (sys.Entry × κ)} {l : Label sys}
variable {trace : List (Label sys)}

theorem Stands.known (h : Stands At Global Local Apart points P) {i : Nat} {c : sys.Entry × κ}
    (hc : points[i]? = some c) : Local c.1 c.2 P.store := by
  obtain ⟨hlength, hthreads⟩ := List.forall₂_iff_get.mp h.threads
  obtain ⟨hlt, rfl⟩ := List.getElem?_eq_some_iff.mp hc
  exact (hthreads i hlt (hlength ▸ hlt)).2

/-- Where the thread that is served next stands. -/
theorem Stands.served (h : Stands At Global Local Apart points P) {i : Nat}
    {q : sys.interface.Request} {a : sys.interface.Answer q} {f : Front sys.interface}
    (hstep : Step sys P (.served i q a f) Q) :
    ∃ e k next, points[i]? = some (e, k) ∧ At e k (.ask q next) ∧ Local e k P.store ∧
      f = (next a).front ∧ sys.Serves q P.store a Q.store := by
  cases hstep with
  | @served store store' threads i q next a here answered =>
    obtain ⟨⟨e, k⟩, hpoint, hat, hknown⟩ := forall₂_getElem? h.threads here
    exact ⟨e, k, next, hpoint, hat, hknown, rfl, answered⟩

theorem map_fst_set {e : sys.Entry} {k k' : κ} {i : Nat} (hpoint : points[i]? = some (e, k)) :
    (points.set i (e, k')).map Prod.fst = points.map Prod.fst := by
  obtain ⟨hlt, heq⟩ := List.getElem?_eq_some_iff.mp hpoint
  have hlt' : i < (points.map Prod.fst).length := by simpa using hlt
  have hfst : (points.map Prod.fst)[i] = e := by simp [heq]
  rw [List.map_set]
  show (points.map Prod.fst).set i e = points.map Prod.fst
  rw [← hfst, List.set_getElem_self]

theorem Stands.step (A : Annotated ok At Global Local Apart)
    (h : Stands At Global Local Apart points Q) (hok : ok Q l) (hstep : Step sys Q l R) :
    ∃ points', points'.map Prod.fst = points.map Prod.fst ++ entries [l] ∧
      Stands At Global Local Apart points' R := by
  cases hstep with
  | start store threads entry =>
    obtain ⟨k, hat, hknown, haway⟩ := A.start _ entry hok h.store
    refine ⟨points ++ [(entry, k)], by simp [entries, Label.entry?], h.store,
      List.rel_append h.threads (.cons ⟨hat, hknown⟩ .nil), ?_⟩
    exact h.apart.concat A.symm fun j d hd => haway d.1 d.2 (h.known hd)
  | @served store store' threads i q next a here answered =>
    obtain ⟨⟨e, k⟩, hpoint, hat, hknown⟩ := forall₂_getElem? h.threads here
    obtain ⟨hstore, k', hat', hknown', hothers⟩ :=
      A.served _ i e k q next a store' hok h.store hknown hat answered
    refine ⟨points.set i (e, k'), by simp [map_fst_set hpoint, entries, Label.entry?], hstore,
      forall₂_set_set h.threads ?_ ⟨hat', hknown'⟩, ?_⟩
    · intro j c p hj hc hp
      exact ⟨hp.1, (hothers c.1 c.2 hp.2 (h.apart i j (e, k) c (Ne.symm hj) hpoint hc)).1⟩
    · exact h.apart.set A.symm hpoint fun j d hd hapart =>
        (hothers d.1 d.2 (h.known hd) hapart).2
  | @raised store threads i q next here error =>
    obtain ⟨⟨e, k⟩, hpoint, hat, hknown⟩ := forall₂_getElem? h.threads here
    obtain ⟨k', hat', hknown', hothers⟩ := A.raised e k q next error store hat hknown
    refine ⟨points.set i (e, k'), by simp [map_fst_set hpoint, entries, Label.entry?], h.store,
      forall₂_set_set h.threads (fun _ _ _ _ _ hp => hp) ⟨hat', hknown'⟩, ?_⟩
    exact h.apart.set A.symm hpoint fun _ d _ hapart => hothers d.2 hapart

/-- Wherever a run leads, its threads stand at some points, each of its own entry. -/
theorem Stands.run (A : Annotated ok At Global Local Apart)
    (h : Stands At Global Local Apart points P) (hrun : Run ok P trace Q) :
    ∃ points', points'.map Prod.fst = points.map Prod.fst ++ entries trace ∧
      Stands At Global Local Apart points' Q := by
  induction hrun with
  | nil => exact ⟨points, by simp [entries], h⟩
  | @snoc trace Q R l _ hok hstep ih =>
    obtain ⟨points', hentries, hstands⟩ := ih
    obtain ⟨points'', hentries', hstands'⟩ := hstands.step A hok hstep
    refine ⟨points'', ?_, hstands'⟩
    rw [hentries', hentries, List.append_assoc]
    simp [entries]

end Annotated

end DddBoilerplate.Concurrency
