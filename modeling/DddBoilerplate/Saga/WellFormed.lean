/- module: DddBoilerplate/Saga/WellFormed
   generality: I
   digest: When an expression throws: its text is malformed, or its value goes missing in the scope. -/

import DddBoilerplate.Saga.Scanning

set_option autoImplicit false
set_option relaxedAutoImplicit false
set_option linter.all false

namespace DddBoilerplate.Saga.Expression

open Text (trim)

section Evaluation

variable {ν : Type} {R : Runtime ν} {scope : Scope ν} {source : String}

/-- The text is one of the expression, whatever the scope. -/
def ReadsAs (R : Runtime ν) (source : String) (e : Expr ν) : Prop :=
  ∃ ts, Scans R (trim source).toList ts ∧ Derives .or [e] ts []

/-- Some path of the expression runs into null or a missing value ahead of its last property, or
an order comparison meets an operand without a number. -/
def Stops (R : Runtime ν) (scope : Scope ν) (e : Expr ν) : Prop :=
  PathBreaks R scope e ∨ Unordered R scope e

/-- The call throws an error. -/
def throws {α : Type} : Except Failure α → Bool
  | .error (.thrown _) => true
  | _ => false

theorem mapError_eq_ok_iff {α : Type} {f : Failure → Failure} {r : Except Failure α} {a : α} :
    r.mapError f = .ok a ↔ r = .ok a := by
  cases r with
  | error e => exact ⟨fun h => (nomatch h), fun h => (nomatch h)⟩
  | ok b => exact Iff.rfl

theorem evaluateExpression_of_blank (h : trim source = "") :
    evaluateExpression R source scope = .ok .undefined := by
  unfold evaluateExpression
  rw [if_pos h]

theorem evaluateExpression_of_not_blank (h : trim source ≠ "") :
    evaluateExpression R source scope =
      (tokenize R (trim source) >>= parse R (trim source) scope).mapError
        (rethrown (trim source)) := by
  unfold evaluateExpression
  rw [if_neg h]

/-- An expression is evaluated as any expression its text reads as. -/
theorem evaluateExpression_eq_ok_iff (h : trim source ≠ "") (v : Value ν) :
    evaluateExpression R source scope = .ok v ↔
      ∃ e, ReadsAs R source e ∧ eval R scope e = some v := by
  rw [evaluateExpression_of_not_blank h, mapError_eq_ok_iff]
  constructor
  · intro hrun
    obtain ⟨ts, htokens, hparse⟩ := of_bind_ok hrun
    obtain ⟨e, hderives, heval⟩ := (parse_eq_ok_iff ts v).mp hparse
    exact ⟨e, ⟨ts, tokenize_eq_ok_iff.mp htokens, hderives⟩, heval⟩
  · rintro ⟨e, ⟨ts, hscans, hderives⟩, heval⟩
    rw [tokenize_eq_ok_iff.mpr hscans]
    exact (parse_eq_ok_iff ts v).mpr ⟨e, hderives, heval⟩

theorem rethrown_thrown (trimmed message : String) :
    ∃ message', rethrown trimmed (.thrown message) = .thrown message' := by
  simp only [rethrown]
  split
  · exact ⟨_, rfl⟩
  · exact ⟨_, rfl⟩

theorem evaluateExpression_fueled :
    evaluateExpression R source scope ≠ .error .outOfFuel := by
  by_cases hblank : trim source = ""
  · rw [evaluateExpression_of_blank hblank]
    exact fun h => nomatch h
  · rw [evaluateExpression_of_not_blank hblank]
    intro h
    cases hrun : (tokenize R (trim source) >>= parse R (trim source) scope) with
    | ok v =>
      rw [hrun] at h
      cases h
    | error e =>
      rw [hrun] at h
      cases e with
      | thrown message =>
        obtain ⟨message', heq⟩ := rethrown_thrown (trim source) message
        have hthrown : rethrown (trim source) (.thrown message) = .outOfFuel := Except.error.inj h
        rw [heq] at hthrown
        cases hthrown
      | outOfFuel =>
        rcases of_bind_error hrun with htokens | ⟨ts, _, hparse⟩
        · exact tokenize_fueled _ htokens
        · exact parse_fueled ts hparse

/-- An evaluation ends one way or the other. -/
theorem throws_iff :
    throws (evaluateExpression R source scope) = true ↔
      ¬∃ v, evaluateExpression R source scope = .ok v := by
  have hfuel : evaluateExpression R source scope ≠ .error .outOfFuel := evaluateExpression_fueled
  cases hrun : evaluateExpression R source scope with
  | ok v => exact ⟨fun h => (nomatch h), fun h => absurd ⟨v, rfl⟩ h⟩
  | error e =>
    cases e with
    | thrown message => exact ⟨fun _ ⟨_, h⟩ => (nomatch h), fun _ => rfl⟩
    | outOfFuel => exact absurd hrun hfuel

theorem not_readsAs_blank (h : trim source = "") (e : Expr ν) : ¬ReadsAs R source e := by
  rintro ⟨ts, hscans, hderives⟩
  rw [h] at hscans
  cases hscans
  exact absurd hderives.length_lt (Nat.not_lt_zero _)

theorem eval_eq_of_readsAs {e e' : Expr ν} (h : ReadsAs R source e) (h' : ReadsAs R source e') :
    eval R scope e = eval R scope e' := by
  obtain ⟨ts, hscans, hderives⟩ := h
  obtain ⟨ts', hscans', hderives'⟩ := h'
  rw [hscans'.unique hscans] at hderives'
  exact eval_eq_of_derives hderives hderives'

/-- A well-formed text throws exactly where its value goes missing. -/
theorem throws_iff_stops {e : Expr ν} (h : ReadsAs R source e) :
    throws (evaluateExpression R source scope) = true ↔ Stops R scope e := by
  have hblank : trim source ≠ "" := fun hblank => not_readsAs_blank hblank e h
  rw [throws_iff]
  unfold Stops
  rw [← eval_eq_none_iff]
  constructor
  · intro hnone
    cases heval : eval R scope e with
    | none => rfl
    | some v =>
      exact absurd ⟨v, (evaluateExpression_eq_ok_iff hblank v).mpr ⟨e, h, heval⟩⟩ hnone
  · rintro hnone ⟨v, hok⟩
    obtain ⟨e', hreads, heval⟩ := (evaluateExpression_eq_ok_iff hblank v).mp hok
    rw [eval_eq_of_readsAs h hreads, heval] at hnone
    cases hnone

/-- A malformed text throws in every scope; a blank one in none. -/
theorem throws_of_malformed (h : ∀ e : Expr ν, ¬ReadsAs R source e) :
    throws (evaluateExpression R source scope) = true ↔ trim source ≠ "" := by
  by_cases hblank : trim source = ""
  · rw [evaluateExpression_of_blank hblank]
    exact ⟨fun h => (nomatch h), fun h => absurd hblank h⟩
  · refine iff_of_true (throws_iff.mpr ?_) hblank
    rintro ⟨v, hok⟩
    obtain ⟨e, hreads, _⟩ := (evaluateExpression_eq_ok_iff hblank v).mp hok
    exact h e hreads

/-- Two scopes agree on whether a text throws exactly when it is malformed, or in both or in
neither of them a path of it breaks off or an operand of an order comparison has no number. -/
theorem throws_agree_iff (R : Runtime ν) (source : String) (first second : Scope ν) :
    (throws (evaluateExpression R source first) = true ↔
      throws (evaluateExpression R source second) = true) ↔
    ∀ e, ReadsAs R source e → (Stops R first e ↔ Stops R second e) := by
  constructor
  · intro hagree e hreads
    rw [← throws_iff_stops hreads, ← throws_iff_stops hreads]
    exact hagree
  · intro hstops
    by_cases hreads : ∃ e, ReadsAs R source e
    · obtain ⟨e, hreads⟩ := hreads
      rw [throws_iff_stops hreads, throws_iff_stops hreads]
      exact hstops e hreads
    · have hmalformed : ∀ e : Expr ν, ¬ReadsAs R source e := fun e he => hreads ⟨e, he⟩
      rw [throws_of_malformed hmalformed, throws_of_malformed hmalformed]

end Evaluation

section Scenario

/-- Whole numbers and `NaN`, and objects without inherited properties: enough to run the
expressions below. -/
def plainRuntime : Runtime (Option Nat) where
  number raw := raw.toNat?
  numberText
    | some n => toString n
    | none => "NaN"
  toNumber
    | .number n => some n
    | .bool b => some (some b.toNat)
    | .null => some (some 0)
    | .string s => some s.toNat?
    | _ => some none
  ofLength n := some n
  zero := some 0
  equal a b := a.isSome && a == b
  lessThan
    | some a, some b => a < b
    | _, _ => false
  lessOrEqual
    | some a, some b => a ≤ b
    | _, _ => false
  inherited _ _ := .undefined

/-- `a.b.c` is read where `a.b` is an object, and throws where `a` is null. -/
theorem path_throws_at_null :
    ¬(throws (evaluateExpression plainRuntime "a.b.c"
        [("a", .object 1 [("b", .object 2 [("c", .bool true)])])]) = true ↔
      throws (evaluateExpression plainRuntime "a.b.c" [("a", .null)]) = true) := by
  decide +kernel

end Scenario

end DddBoilerplate.Saga.Expression
