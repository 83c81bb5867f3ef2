/- module: DddBoilerplate/Concurrency/Traced
   generality: G
   digest: Runs whose steps are asked for a condition that sees what came before them. -/

import DddBoilerplate.Concurrency.Stops

set_option autoImplicit false
set_option relaxedAutoImplicit false
set_option linter.all false

namespace DddBoilerplate.Concurrency

variable {sys : System}

/-- A run, each step of which meets a condition on the trace so far and on the pools around it. -/
inductive TracedRun (ok : List (Label sys) → Pool sys → Label sys → Pool sys → Prop) (P : Pool sys) :
    List (Label sys) → Pool sys → Prop where
  | nil : TracedRun ok P [] P
  | snoc {trace : List (Label sys)} {Q R : Pool sys} {l : Label sys} (run : TracedRun ok P trace Q)
      (hok : ok trace Q l R) (step : Step sys Q l R) : TracedRun ok P (trace ++ [l]) R

variable {ok : List (Label sys) → Pool sys → Label sys → Pool sys → Prop}
variable {ok' : Pool sys → Label sys → Prop} {P Q R : Pool sys} {trace : List (Label sys)}
variable {l : Label sys}

/-- A traced run that has come to a pool goes on from there to another. -/
inductive Continued (ok : List (Label sys) → Pool sys → Label sys → Pool sys → Prop)
    (trace : List (Label sys)) (Q : Pool sys) : List (Label sys) → Pool sys → Prop where
  | nil : Continued ok trace Q trace Q
  | snoc {later : List (Label sys)} {R S : Pool sys} {l : Label sys}
      (before : Continued ok trace Q later R) (hok : ok later R l S) (step : Step sys R l S) :
      Continued ok trace Q (later ++ [l]) S

theorem Continued.run {later : List (Label sys)} (h : Continued ok trace Q later R)
    (hrun : TracedRun ok P trace Q) : TracedRun ok P later R := by
  induction h with
  | nil => exact hrun
  | snoc _ hok hstep ih => exact ih.snoc hok hstep

theorem TracedRun.run (h : TracedRun ok P trace Q) : Run (fun _ _ => True) P trace Q := by
  induction h with
  | nil => exact .nil
  | snoc _ _ hstep ih => exact ih.snoc trivial hstep

/-- A run whose steps meet the condition whatever came before them. -/
theorem Run.traced (h : Run ok' P trace Q)
    (himp : ∀ trace Q l R, ok' Q l → Step sys Q l R → ok trace Q l R) : TracedRun ok P trace Q := by
  induction h with
  | nil => exact .nil
  | snoc _ hok hstep ih => exact ih.snoc (himp _ _ _ _ hok hstep) hstep

theorem Run.continued {later : List (Label sys)} (h : Run ok' Q later R)
    (himp : ∀ trace Q l R, ok' Q l → Step sys Q l R → ok trace Q l R) :
    Continued ok trace Q (trace ++ later) R := by
  induction h with
  | nil =>
    rw [List.append_nil]
    exact .nil
  | snoc _ hok hstep ih =>
    rw [← List.append_assoc]
    exact ih.snoc (himp _ _ _ _ hok hstep) hstep

/-- Executing two runs, one after the other, and looking at their traces and pools. -/
theorem Pool.record_reaches [∀ P l, Decidable (ok' P l)] {moves moves' : List (Move sys)}
    {check : List (Label sys) → Pool sys → List (Label sys) → Pool sys → Prop}
    [∀ trace Q trace' R, Decidable (check trace Q trace' R)]
    (h : ((P.record ok' moves).bind fun r => (r.2.record ok' moves').map fun s =>
      decide (check r.1 r.2 s.1 s.2)) = some true) :
    ∃ Q R trace trace', Run ok' P trace Q ∧ Run ok' Q trace' R ∧ check trace Q trace' R := by
  obtain ⟨⟨trace, Q⟩, hQ, h⟩ := Option.bind_eq_some_iff.mp h
  obtain ⟨⟨trace', R⟩, hR, h⟩ := Option.map_eq_some_iff.mp h
  exact ⟨Q, R, trace, trace', Pool.record_run hQ, Pool.record_run hR, of_decide_eq_true h⟩

/-- A traced run is one up to any of its steps, the step, and the steps from there. -/
theorem TracedRun.split {later : List (Label sys)} (h : TracedRun ok P (trace ++ l :: later) Q) :
    ∃ R S, TracedRun ok P trace R ∧ ok trace R l S ∧ Step sys R l S ∧
      Run (fun _ _ => True) S later Q := by
  generalize hall : trace ++ l :: later = all at h
  induction h generalizing later with
  | nil => simp at hall
  | @snoc before R S last hrun hok hstep ih =>
    rcases List.eq_nil_or_concat later with rfl | ⟨init, last', rfl⟩
    · obtain ⟨rfl, hlast⟩ := List.append_inj' hall rfl
      cases hlast
      exact ⟨R, S, hrun, hok, hstep, .nil⟩
    · have heq : trace ++ l :: init ++ [last'] = before ++ [last] := by
        rw [← hall]
        simp
      obtain ⟨hinit, hlast⟩ := List.append_inj' heq rfl
      cases hlast
      obtain ⟨R', S', hbefore, hok', hstep', hafter⟩ := ih hinit
      rw [List.concat_eq_append]
      exact ⟨R', S', hbefore, hok', hstep', hafter.snoc trivial hstep⟩

end DddBoilerplate.Concurrency
