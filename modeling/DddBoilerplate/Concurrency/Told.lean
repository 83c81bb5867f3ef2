/- module: DddBoilerplate/Concurrency/Told
   generality: G
   digest: Invariants of a store beside what its answers tell of it and what stays true of that. -/

import DddBoilerplate.Concurrency.History

set_option autoImplicit false
set_option relaxedAutoImplicit false
set_option linter.all false

namespace DddBoilerplate.Concurrency

variable {sys : System}
variable {because : sys.Entry → List (Call sys.interface) → sys.interface.Request → Prop}

/-- The programs are accounted for, what is served so keeps an invariant of the store, and what an
answer tells of the store is true when it is given and stays true. -/
structure Telling
    (because : sys.Entry → List (Call sys.interface) → sys.interface.Request → Prop)
    (Inv : sys.Store → Prop) (Told : sys.Store → Call sys.interface → Prop) : Prop where
  accounted : ∀ e, Accounted (because e) (fun _ _ => True) [] (sys.program e)
  kept : ∀ {e h q s a s'}, Inv s → (∀ c ∈ h, Told s c) → because e h q → sys.Serves q s a s' → Inv s'
  told : ∀ {e h q s a s'}, Inv s → because e h q → sys.Serves q s a s' → Told s' ⟨q, a⟩
  stays : ∀ {q s a s' c}, sys.Serves q s a s' → Told s c → Told s' c

/-- What is known where a thread is about to be answered. -/
structure Ready
    (because : sys.Entry → List (Call sys.interface) → sys.interface.Request → Prop)
    (Inv : sys.Store → Prop) (Told : sys.Store → Call sys.interface → Prop)
    (trace : List (Label sys)) (Q : Pool sys) (i : Nat) (q : sys.interface.Request) : Prop where
  entry : ∃ e, (entries trace)[i]? = some e ∧ because e (calls i trace) q
  inv : Inv Q.store
  told : ∀ j, ∀ c ∈ calls j trace, Told Q.store c

variable {Inv : sys.Store → Prop} {Told : sys.Store → Call sys.interface → Prop}
variable {ok : Pool sys → Label sys → Prop} {P Q R : Pool sys} {trace : List (Label sys)}
variable {i j : Nat} {q : sys.interface.Request} {a : sys.interface.Answer q}
variable {f : Front sys.interface}

namespace Telling

/-- The invariant holds wherever a run leads, and so does all that was told on the way. -/
theorem run (T : Telling because Inv Told) (hrun : Run ok P trace Q) (hP : P.threads = [])
    (hinit : Inv P.store) : Inv Q.store ∧ ∀ i, ∀ c ∈ calls i trace, Told Q.store c := by
  induction hrun with
  | nil =>
    refine ⟨hinit, fun i c hc => ?_⟩
    cases hc
  | @snoc trace Q R l hrun hok hstep ih =>
    obtain ⟨hinv, htold⟩ := ih
    cases l with
    | start e =>
      have hstore : R.store = Q.store := by
        cases hstep
        rfl
      rw [hstore]
      refine ⟨hinv, fun i c hc => htold i c ?_⟩
      rwa [calls_start] at hc
    | raised j q =>
      have hstore : R.store = Q.store := by
        cases hstep
        rfl
      rw [hstore]
      refine ⟨hinv, fun i c hc => htold i c ?_⟩
      rwa [calls_raised] at hc
    | served j q a f =>
      obtain ⟨e, _, hbecause⟩ := because_of_entry T.accounted hrun hP hstep
      have hserves := hstep.answered
      refine ⟨T.kept hinv (htold j) hbecause hserves, fun i c hc => ?_⟩
      by_cases hj : j = i
      · subst hj
        rw [calls_served_self] at hc
        rcases List.mem_append.mp hc with hc | hc
        · exact T.stays hserves (htold j c hc)
        · rw [List.mem_singleton.mp hc]
          exact T.told hinv hbecause hserves
      · rw [calls_served_other hj] at hc
        exact T.stays hserves (htold i c hc)

theorem ready (T : Telling because Inv Told) (hrun : Run ok P trace Q) (hP : P.threads = [])
    (hinit : Inv P.store) (hstep : Step sys Q (.served i q a f) R) :
    Ready because Inv Told trace Q i q := by
  obtain ⟨hinv, htold⟩ := T.run hrun hP hinit
  exact ⟨because_of_entry T.accounted hrun hP hstep, hinv, htold⟩

end Telling

section Order

variable {rel : Call sys.interface → Call sys.interface → Prop}

/-- Any two calls of a trace, the earlier one first, are in the relation. -/
def InOrder (rel : Call sys.interface → Call sys.interface → Prop) (trace : List (Label sys)) : Prop :=
  trace.Pairwise fun l l' => ∀ i j c c', l.call? i = some c → l'.call? j = some c' → rel c c'

/-- A relation in which what was told stands to whatever is served then orders all the calls. -/
theorem Telling.inOrder (T : Telling because Inv Told)
    (hrel : ∀ {e h q s a s' c}, Inv s → because e h q → sys.Serves q s a s' → Told s c →
      rel c ⟨q, a⟩)
    (hrun : Run ok P trace Q) (hP : P.threads = []) (hinit : Inv P.store) : InOrder rel trace := by
  induction hrun with
  | nil => exact List.Pairwise.nil
  | @snoc trace Q R l hrun hok hstep ih =>
    refine List.pairwise_append.mpr ⟨ih, List.pairwise_singleton _ _, fun l₁ hl₁ l₂ hl₂ => ?_⟩
    intro i j c c' hc hc'
    rw [List.mem_singleton.mp hl₂] at hc'
    cases l with
    | start e => cases hc'
    | raised k q => cases hc'
    | served k q a f =>
      simp only [Label.call?] at hc'
      split at hc'
      · cases hc'
        have hready := T.ready hrun hP hinit hstep
        obtain ⟨e, _, hbecause⟩ := hready.entry
        have hmem : c ∈ calls i trace := List.mem_filterMap.mpr ⟨l₁, hl₁, hc⟩
        exact hrel hready.inv hbecause hstep.answered (hready.told i c hmem)
      · cases hc'

theorem compare_of_pairwise {α : Type} {r : α → α → Prop} {xs : List α} (h : xs.Pairwise r)
    {x y : α} (hx : x ∈ xs) (hy : y ∈ xs) : x = y ∨ r x y ∨ r y x := by
  induction h with
  | nil => cases hx
  | @cons z xs hz _ ih =>
    rcases List.mem_cons.mp hx with rfl | hxs
    · rcases List.mem_cons.mp hy with rfl | hys
      · exact .inl rfl
      · exact .inr (.inl (hz y hys))
    · rcases List.mem_cons.mp hy with rfl | hys
      · exact .inr (.inr (hz x hxs))
      · exact ih hxs hys

/-- Two calls of a trace are one and the same, or one comes after the other. -/
theorem InOrder.compare (h : InOrder rel trace) {c c' : Call sys.interface}
    (hc : c ∈ calls i trace) (hc' : c' ∈ calls j trace) :
    (i = j ∧ c = c') ∨ rel c c' ∨ rel c' c := by
  obtain ⟨q, a⟩ := c
  obtain ⟨q', a'⟩ := c'
  obtain ⟨f, hf⟩ := mem_calls.mp hc
  obtain ⟨f', hf'⟩ := mem_calls.mp hc'
  rcases compare_of_pairwise h hf hf' with heq | hbefore | hafter
  · cases heq
    exact .inl ⟨rfl, rfl⟩
  · exact .inr (.inl (hbefore i j _ _ (if_pos rfl) (if_pos rfl)))
  · exact .inr (.inr (hafter j i _ _ (if_pos rfl) (if_pos rfl)))

/-- The calls of one thread are in the order of the trace. -/
theorem InOrder.own (h : InOrder rel trace) (i : Nat) : (calls i trace).Pairwise rel :=
  List.pairwise_filterMap.mpr (h.imp fun hl c hc c' hc' => hl i i c c' hc hc')

/-- Where the relation rules out a second call of a kind, a call of that kind is the only one. -/
theorem InOrder.once (h : InOrder rel trace) {kind : Call sys.interface → Prop}
    (hrel : ∀ c c', rel c c' → kind c → ¬ kind c') {c : Call sys.interface} (hc : c ∈ calls i trace)
    (hkind : kind c) : ∃ before l after, trace = before ++ l :: after ∧ l.call? i = some c ∧
      ∀ j, ∀ c' ∈ calls j (before ++ after), ¬ kind c' := by
  obtain ⟨l, hl, hcall⟩ := List.mem_filterMap.mp hc
  obtain ⟨before, after, rfl⟩ := List.append_of_mem hl
  obtain ⟨_, hlater, hcross⟩ := List.pairwise_append.mp h
  refine ⟨before, l, after, rfl, hcall, fun j c' hc' hkind' => ?_⟩
  obtain ⟨l', hl', hcall'⟩ := List.mem_filterMap.mp hc'
  rcases List.mem_append.mp hl' with hl' | hl'
  · exact hrel c' c (hcross l' hl' l (List.mem_cons_self ..) j i c' c hcall' hcall) hkind' hkind
  · exact hrel c c' ((List.pairwise_cons.mp hlater).1 l' hl' i j c c' hcall hcall') hkind hkind'

end Order

/-- What is called for stands behind each call of a thread, at the calls before it. -/
theorem because_of_split
    (hprogram : ∀ e, Accounted (because e) (fun _ _ => True) [] (sys.program e))
    (hrun : Run ok P trace Q) (hP : P.threads = []) {g rest : List (Call sys.interface)}
    (hsplit : calls i trace = g ++ ⟨q, a⟩ :: rest) : ∃ e, because e g q := by
  suffices hkept : ∀ g q a rest, calls i trace = g ++ ⟨q, a⟩ :: rest → ∃ e, because e g q from
    hkept g q a rest hsplit
  refine @calls_of_run _ because _ _ _ _
    (fun h => ∀ g q a rest, h = g ++ ⟨q, a⟩ :: rest → ∃ e, because e g q) hprogram ?_ ?_ hrun hP i
  · intro g q a rest hnil
    simp at hnil
  · intro e h q' a' hkept hbecause g q a rest heq
    rcases List.eq_nil_or_concat' rest with rfl | ⟨rest', c, rfl⟩
    · obtain ⟨rfl, hlast⟩ := List.append_inj' heq rfl
      cases hlast
      exact ⟨e, hbecause⟩
    · rw [← List.cons_append, ← List.append_assoc] at heq
      exact hkept g q a rest' (List.append_inj' heq rfl).1

end DddBoilerplate.Concurrency
