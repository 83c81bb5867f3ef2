/- module: DddBoilerplate/Saga/Narrowing
   generality: I
   digest: What a company overlay can do to the plan of a definition, and when it only narrows it. -/

import Mathlib.Data.List.Forall2
import DddBoilerplate.Saga.Conjunction

set_option autoImplicit false
set_option relaxedAutoImplicit false
set_option linter.all false

namespace DddBoilerplate.Saga.Expression

open PlanBuilder (notBlank PlanBuildInput andConditions buildSteps build isEnabled hasAll toPlanStep)
open Text (trim)

variable {ν : Type} {R : Runtime ν} {scope : Scope ν} {source : String}

section Escapes

/-- The text reads as an expression that is true in the scope. -/
def Holds (R : Runtime ν) (scope : Scope ν) (source : String) : Prop :=
  ∃ e v, ReadsAs R source e ∧ eval R scope e = some v ∧ truthy R v = true

/-- The overlay closes the parenthesis put around it, and what it goes on with is an alternative
to the definition's condition, and true in the scope. -/
def BreaksOut (R : Runtime ν) (scope : Scope ν) (own overlay : String) : Prop :=
  PlainEdges own ∧ ∃ tokens first rest alternative v w,
    Scans R (overlay.toList ++ [')']) tokens ∧
    Derives .and [first] (.punct .openParen :: tokens) (.punct .orOr :: rest) ∧
    eval R scope first = some v ∧
    Derives .or [alternative] rest [] ∧ eval R scope alternative = some w ∧ truthy R w = true

theorem holds_iff (h : trim source ≠ "") :
    evaluateCondition R (some source) scope = .ok true ↔ Holds R scope source :=
  evaluateCondition_eq_ok_iff h true

/-- A whole parse is a first operand of `||`, and the loop over the operands behind it. -/
theorem parse_split {ts : List (Token ν)} {v : Value ν} (h : parse R source scope ts = .ok v) :
    ∃ n first mid, 8 * ts.length + 4 ≤ n ∧ andFrom R source scope none n ts = .ok (first, mid) ∧
      orLoop R source scope (n + 1) first mid = .ok (v, []) := by
  obtain ⟨⟨value, rest⟩, hread, h⟩ := of_bind_ok h
  cases rest with
  | cons token rest => cases h
  | nil =>
    cases h
    have hrun : orFrom R source scope none (8 * ts.length + 7) ts = .ok (v, []) := hread
    obtain ⟨⟨first, mid⟩, hfirst, hloop⟩ := of_bind_ok hrun
    exact ⟨8 * ts.length + 6, first, mid, by omega, hfirst, hloop⟩

/-- What an operand stuck at a dot leaves, the loop leaves too. -/
theorem not_startsDot_of_orLoop {n : Nat} {first v : Value ν} {mid : List (Token ν)}
    (h : orLoop R source scope n first mid = .ok (v, [])) : ¬StartsDot mid := by
  intro hdot
  obtain ⟨rest, heq⟩ := stuck_orLoop hdot v [] h
  cases heq

variable {own overlay : String} {e : Expr ν} {ts : List (Token ν)}

/-- The tokens of a combination, and the descent over them. -/
theorem parse_of_holds (hown : Scans R (trim own).toList ts)
    (h : Holds R scope (combined own overlay)) :
    PlainEdges own ∧ ∃ tokens v, Scans R (overlay.toList ++ [')']) tokens ∧
      truthy R v = true ∧ parse R "" scope (.punct .openParen :: (ts ++ .punct .closeParen ::
        .punct .andAnd :: .punct .openParen :: tokens)) = .ok v := by
  obtain ⟨e', v, ⟨us, hscans, hderives⟩, heval, htrue⟩ := h
  rw [trim_combined] at hscans
  obtain ⟨hplain, tokens, rfl, htokens⟩ := (scans_combined_iff hown us).mp hscans
  exact ⟨hplain, tokens, v, htokens, htrue, (parse_eq_ok_iff _ v).mpr ⟨e', hderives, heval⟩⟩

/-- No combination is true where the definition's condition stops. -/
theorem not_holds_of_stops (hreads : ReadsAs R own e) (hnone : eval R scope e = none) :
    ¬Holds R scope (combined own overlay) := by
  intro h
  obtain ⟨ts, hscans, hderives⟩ := hreads
  obtain ⟨-, tokens, v, -, -, hparse⟩ := parse_of_holds hscans h
  obtain ⟨n, first, mid, hn, hfirst, hloop⟩ := parse_split hparse
  have hread : Reads R "" scope .and [e] _ _ :=
    (hderives.parenthesised (.punct .andAnd :: .punct .openParen :: tokens)).reads
  have hstuck := hread e rfl (ends_of_punct (by decide) rfl) none n hn
  rw [hnone] at hstuck
  exact not_startsDot_of_orLoop hloop (hstuck first mid hfirst)

/-- Where the definition's condition is false, a combination with it is true exactly when the
overlay breaks out. -/
theorem holds_combined_iff {v : Value ν} (hreads : ReadsAs R own e)
    (heval : eval R scope e = some v) (hfalse : truthy R v = false) :
    Holds R scope (combined own overlay) ↔ BreaksOut R scope own overlay := by
  obtain ⟨ts, hscans, hderives⟩ := hreads
  constructor
  · intro h
    obtain ⟨hplain, tokens, value, htokens, htrue, hparse⟩ := parse_of_holds hscans h
    obtain ⟨n, first, mid, hn, hfirst, hloop⟩ := parse_split hparse
    have hdot := not_startsDot_of_orLoop hloop
    have hread : Reads R "" scope .and [e] _ _ :=
      (hderives.parenthesised (.punct .andAnd :: .punct .openParen :: tokens)).reads
    have hrun := hread e rfl (ends_of_punct (by decide) rfl) none n hn
    rw [heval] at hrun
    obtain ⟨m, hm, hrun⟩ := hrun
    obtain ⟨m, rfl⟩ : ∃ k, m = k + 1 := ⟨m - 1, by omega⟩
    rw [hfirst, andLoop_succ] at hrun
    rcases (Sound.all m).andFrom_sound hrun.symm with hstuck | ⟨e₁, w₁, hderives₁, heval₁, rfl⟩
    · exact absurd hstuck hdot
    · have hjoined : truthy R (joinAnd R (some (truthy R (joinAnd R none v))) w₁) = false := by
        simp only [joinAnd, truthy_bool, hfalse, Bool.false_and]
      rcases (Sound.all (n + 1)).orLoop hloop with ⟨rfl, -⟩ | ⟨rest, rfl, hstuck | hmore⟩
      · rw [hjoined] at htrue
        cases htrue
      · obtain ⟨_, heq⟩ := hstuck
        cases heq
      · obtain ⟨e₂, w₂, hderives₂, heval₂, rfl⟩ := hmore
        rw [truthy_bool, hjoined, Bool.false_or] at htrue
        exact ⟨hplain, tokens, e₁, rest, e₂, w₁, w₂, htokens, hderives₁, heval₁, hderives₂,
          heval₂, htrue⟩
  · rintro ⟨hplain, tokens, e₁, rest, e₂, w₁, w₂, htokens, hderives₁, heval₁, hderives₂, heval₂,
      htrue⟩
    have hjoint := (scans_combined_iff hscans _).mpr ⟨hplain, tokens, rfl, htokens⟩
    refine ⟨.binary .or (.binary .and e e₁) e₂, .bool true,
      ⟨_, (trim_combined own overlay).symm ▸ hjoint, ?_⟩, ?_, rfl⟩
    · exact .disj (.alternative (.conj (hderives.parenthesised _) hderives₁)) hderives₂
    · rw [eval_binary, eval_binary, heval, heval₁, heval₂]
      show some (Value.bool (_ || truthy R w₂)) = some (.bool true)
      rw [htrue, Bool.or_true]

end Escapes

section Confinement

/-- An overlay condition cannot be true where the definition's condition is not: it does not
break out of its parentheses where that one is false, and does not complete a malformed one. -/
def Confined (R : Runtime ν) (scope : Scope ν) (own overlay : Option String) : Prop :=
  ∀ c d, Present own overlay c d →
    (∀ e v, ReadsAs R c e → eval R scope e = some v → truthy R v = false →
      ¬BreaksOut R scope c d) ∧
    ((∀ e, ¬ReadsAs R c e) → ¬Holds R scope (combined c d))

/-- The plan's condition of a step is true only where the definition's is. -/
def Narrower (R : Runtime ν) (scope : Scope ν) (planned own : Option String) : Prop :=
  evaluateCondition R planned scope = .ok true → evaluateCondition R own scope = .ok true

theorem narrower_iff (own overlay : Option String) :
    Narrower R scope (andConditions own overlay) own ↔ Confined R scope own overlay := by
  by_cases hpresent : ∃ c d, Present own overlay c d
  · obtain ⟨c, d, hboth⟩ := hpresent
    have hconfined : Confined R scope own overlay ↔
        (∀ e v, ReadsAs R c e → eval R scope e = some v → truthy R v = false →
          ¬BreaksOut R scope c d) ∧
        ((∀ e, ¬ReadsAs R c e) → ¬Holds R scope (combined c d)) := by
      refine ⟨fun h => h c d hboth, fun h c' d' h' => ?_⟩
      cases h'.1.symm.trans hboth.1
      cases h'.2.1.symm.trans hboth.2.1
      exact h
    unfold Narrower
    rw [hconfined, andConditions_present hboth, hboth.1, holds_iff (combined_not_blank c d),
      holds_iff hboth.2.2.1]
    constructor
    · intro h
      refine ⟨fun e v hreads heval hfalse hbreaks => ?_, fun hmalformed hholds => ?_⟩
      · obtain ⟨e', v', hreads', heval', htrue⟩ :=
          h ((holds_combined_iff hreads heval hfalse).mpr hbreaks)
        rw [eval_eq_of_readsAs hreads' hreads, heval] at heval'
        cases heval'
        rw [hfalse] at htrue
        cases htrue
      · obtain ⟨e, _, hreads, _⟩ := h hholds
        exact hmalformed e hreads
    · rintro ⟨hinside, hmalformed⟩ hholds
      by_cases hreads : ∃ e, ReadsAs R c e
      · obtain ⟨e, hreads⟩ := hreads
        cases heval : eval R scope e with
        | none => exact absurd hholds (not_holds_of_stops hreads heval)
        | some v =>
          cases htrue : truthy R v with
          | true => exact ⟨e, v, hreads, heval, htrue⟩
          | false =>
            exact absurd ((holds_combined_iff hreads heval htrue).mp hholds)
              (hinside e v hreads heval htrue)
      · exact absurd hholds (hmalformed fun e he => hreads ⟨e, he⟩)
  · have hnone : ∀ c d, ¬Present own overlay c d := fun c d h => hpresent ⟨c, d, h⟩
    refine iff_of_true ?_ fun c d h => absurd h (hnone c d)
    intro h
    rcases @andConditions_neutral _ R scope own overlay hnone with
      ⟨-, hown, -⟩ | ⟨heq, -⟩ | ⟨-, hown⟩
    · exact hown
    · rwa [heq] at h
    · exact hown

end Confinement

section Pairs

variable {α β : Type} {P : α → β → Prop} {xs : List α} {ys : List β}

theorem exists_of_forall₂_left (h : List.Forall₂ P xs ys) {x : α} (hx : x ∈ xs) :
    ∃ y ∈ ys, P x y := by
  induction h with
  | nil => cases hx
  | cons hhead _ ih =>
    rcases List.mem_cons.mp hx with rfl | hx
    · exact ⟨_, List.mem_cons_self, hhead⟩
    · obtain ⟨y, hy, hxy⟩ := ih hx
      exact ⟨y, List.mem_cons_of_mem _ hy, hxy⟩

theorem exists_of_forall₂_right (h : List.Forall₂ P xs ys) {y : β} (hy : y ∈ ys) :
    ∃ x ∈ xs, P x y :=
  exists_of_forall₂_left (P := flip P) h.flip hy

end Pairs

section Plans

/-- What the overlay says of a step. -/
def overlayOf (input : PlanBuildInput) (spec : SagaStepSpec) : Option SagaStepOverlay :=
  (input.overlay.bind (·.steps)).bind (·.lookup spec.id)

/-- The step of the plan is the one made of this step of the definition. -/
def MadeOf (input : PlanBuildInput) (spec : SagaStepSpec) (step : SagaPlanStep) : Prop :=
  toPlanStep spec (overlayOf input spec) input.defaultMaxAttempts = some step

/-- A step with neither an action nor an event to wait for makes no step of a plan. -/
def Acts (spec : SagaStepSpec) : Prop := ¬((present spec.do_).isNone ∧ spec.waitFor.isNone)

/-- Neither the policy nor a missing feature leaves the step out. -/
def Kept (input : PlanBuildInput) (spec : SagaStepSpec) : Prop :=
  isEnabled spec (overlayOf input spec) = true ∧ hasAll spec.requires input.features = true ∧
    Acts spec

instance (input : PlanBuildInput) : DecidablePred (Kept input) := fun _ =>
  inferInstanceAs (Decidable (_ ∧ _ ∧ ¬(_ ∧ _)))

/-- The plan has some of the definition's steps in their order, the required ones among them,
and none of its conditions is true where the definition's is not. -/
def OnlyNarrows (R : Runtime ν) (scope : Scope ν) (input : PlanBuildInput) (plan : SagaPlan) :
    Prop :=
  ∃ kept : List SagaStepSpec, kept.Sublist input.definition.steps ∧
    (∀ spec ∈ input.definition.steps, spec.policy = .required → spec ∈ kept) ∧
    List.Forall₂ (fun spec step => MadeOf input spec step ∧ step.id = spec.id ∧
      Narrower R scope step.if_ spec.if_ ∧ Narrower R scope step.when_ spec.when_) kept plan.steps

variable {input : PlanBuildInput} {spec spec' : SagaStepSpec} {step : SagaPlanStep}

theorem MadeOf.facts (h : MadeOf input spec step) :
    Acts spec ∧ step.id = spec.id ∧
      step.if_ = andConditions spec.if_ ((overlayOf input spec).bind (·.if_)) ∧
      step.when_ = andConditions spec.when_ ((overlayOf input spec).bind (·.when_)) := by
  unfold MadeOf toPlanStep at h
  split at h
  · cases h
  · rename_i hacts
    cases h
    exact ⟨hacts, rfl, rfl, rfl⟩

theorem Acts.madeOf (h : Acts spec) : ∃ step, MadeOf input spec step := by
  unfold MadeOf toPlanStep
  rw [if_neg h]
  exact ⟨_, rfl⟩

theorem toPlanStep_of_not_acts (h : ¬Acts spec) (overlay : Option SagaStepOverlay) (attempts : Nat) :
    toPlanStep spec overlay attempts = none := by
  unfold toPlanStep
  exact if_pos (not_not.mp h)

/-- The loop plans the steps that are kept, and gives up where a required one lacks a feature. -/
theorem buildSteps_eq_some {steps : List SagaStepSpec} {planned : List SagaPlanStep}
    (h : buildSteps input steps = some planned) :
    (∀ spec ∈ steps, spec.policy = .required → hasAll spec.requires input.features = true) ∧
      List.Forall₂ (MadeOf input) (steps.filter (Kept input)) planned := by
  induction steps generalizing planned with
  | nil =>
    cases h
    exact ⟨by simp, .nil⟩
  | cons spec rest ih =>
    rw [List.forall_mem_cons]
    rw [buildSteps] at h
    change (if isEnabled spec (overlayOf input spec) = true then _ else _) = _ at h
    by_cases henabled : isEnabled spec (overlayOf input spec) = true
    · rw [if_pos henabled] at h
      by_cases hfeatures : hasAll spec.requires input.features = true
      · rw [if_pos hfeatures] at h
        obtain ⟨steps, hrest, heq⟩ := Option.map_eq_some_iff.mp h
        change (toPlanStep spec (overlayOf input spec) input.defaultMaxAttempts).toList ++ steps =
          planned at heq
        obtain ⟨hrequired, hmades⟩ := ih hrest
        refine ⟨⟨fun _ => hfeatures, hrequired⟩, ?_⟩
        by_cases hacts : Acts spec
        · obtain ⟨step, hmade⟩ := @Acts.madeOf input spec hacts
          have hkept : Kept input spec := ⟨henabled, hfeatures, hacts⟩
          rw [show toPlanStep _ _ _ = some step from hmade] at heq
          rw [List.filter_cons_of_pos (by simpa using hkept), ← heq]
          exact .cons hmade hmades
        · have hout : ¬Kept input spec := fun hkept => hacts hkept.2.2
          rw [toPlanStep_of_not_acts hacts] at heq
          rw [List.filter_cons_of_neg (by simpa using hout), ← heq]
          exact hmades
      · rw [if_neg hfeatures] at h
        have hout : ¬Kept input spec := fun hkept => hfeatures hkept.2.1
        split at h
        · cases h
        · rename_i hoptional
          obtain ⟨hrequired, hmades⟩ := ih h
          rw [List.filter_cons_of_neg (by simpa using hout)]
          exact ⟨⟨fun hp => absurd hp hoptional, hrequired⟩, hmades⟩
    · rw [if_neg henabled] at h
      have hout : ¬Kept input spec := fun hkept => henabled hkept.1
      obtain ⟨hrequired, hmades⟩ := ih h
      rw [List.filter_cons_of_neg (by simpa using hout)]
      refine ⟨⟨fun hp => absurd ?_ henabled, hrequired⟩, hmades⟩
      simp only [isEnabled, hp]

/-- Combined with the same overlay, two conditions give one text only if they mean the same. -/
theorem evaluateCondition_of_andConditions_eq {own own' overlay : Option String}
    (h : andConditions own overlay = andConditions own' overlay) :
    evaluateCondition R own scope = evaluateCondition R own' scope := by
  have hfilter : ∀ o : Option String,
      evaluateCondition R (o.filter notBlank) scope = evaluateCondition R o scope := by
    intro o
    cases o with
    | none => rfl
    | some c =>
      by_cases hc : trim c = ""
      · rw [filter_blank hc, evaluateCondition_of_blank hc]
        rfl
      · rw [filter_present hc]
  have hlonger : ∀ c d : String, combined c d ≠ d := by
    intro c d heq
    have hlength := congrArg (fun s => s.toList.length) heq
    simp only [toList_combined, List.length_cons, List.length_append] at hlength
    omega
  have hsame : own.filter notBlank = own'.filter notBlank := by
    unfold andConditions at h
    generalize own.filter notBlank = left at h ⊢
    generalize own'.filter notBlank = left' at h ⊢
    generalize overlay.filter notBlank = right at h
    cases right with
    | none => cases left <;> cases left' <;> exact h
    | some d =>
      cases left with
      | none =>
        cases left' with
        | none => rfl
        | some c' => exact absurd (Option.some.inj h).symm (hlonger c' d)
      | some c =>
        cases left' with
        | none => exact absurd (Option.some.inj h) (hlonger c d)
        | some c' =>
          have hlist : (combined c d).toList = (combined c' d).toList :=
            congrArg String.toList (Option.some.inj h)
          rw [toList_combined, toList_combined] at hlist
          exact congrArg some (String.toList_inj.mp
            (List.append_cancel_right (List.cons.inj hlist).2))
  rw [← hfilter own, ← hfilter own', hsame]

theorem steps_of_build {plan : SagaPlan} (h : build input = some plan) :
    buildSteps input input.definition.steps = some plan.steps := by
  unfold build at h
  split at h
  · cases h
  · split at h
    · split at h
      · cases h
      · cases h
      · rename_i hsteps
        cases h
        exact hsteps
    · cases h

/-- The required steps act, and the overlay confines itself at every step that is kept. -/
def Contained (R : Runtime ν) (scope : Scope ν) (input : PlanBuildInput) : Prop :=
  ∀ spec ∈ input.definition.steps, (spec.policy = .required → Acts spec) ∧
    (Kept input spec → Confined R scope spec.if_ ((overlayOf input spec).bind (·.if_)) ∧
      Confined R scope spec.when_ ((overlayOf input spec).bind (·.when_)))

/-- One step of the plan cannot come of two steps whose conditions differ in the scope. -/
theorem MadeOf.same (h : MadeOf input spec step) (h' : MadeOf input spec' step) :
    evaluateCondition R spec.if_ scope = evaluateCondition R spec'.if_ scope ∧
      evaluateCondition R spec.when_ scope = evaluateCondition R spec'.when_ scope := by
  obtain ⟨-, hid, hif, hwhen⟩ := h.facts
  obtain ⟨-, hid', hif', hwhen'⟩ := h'.facts
  have hoverlay : overlayOf input spec = overlayOf input spec' := by
    unfold overlayOf
    rw [← hid, hid']
  rw [hoverlay] at hif hwhen
  exact ⟨evaluateCondition_of_andConditions_eq (hif.symm.trans hif'),
    evaluateCondition_of_andConditions_eq (hwhen.symm.trans hwhen')⟩

/-- A plan only narrows the definition exactly when its required steps act and the overlay's
conditions stay inside the parentheses put around them. -/
theorem build_onlyNarrows_iff (R : Runtime ν) (scope : Scope ν) (input : PlanBuildInput)
    (plan : SagaPlan) (h : build input = some plan) :
    OnlyNarrows R scope input plan ↔ Contained R scope input := by
  obtain ⟨hfeatures, hmades⟩ := buildSteps_eq_some (steps_of_build h)
  constructor
  · rintro ⟨kept, -, hrequired, hpairs⟩ spec hspec
    refine ⟨fun hp => ?_, fun hkept => ?_⟩
    · obtain ⟨step, -, hmade, -⟩ := exists_of_forall₂_left hpairs (hrequired spec hspec hp)
      exact hmade.facts.1
    · have hmem : spec ∈ input.definition.steps.filter (Kept input) :=
        List.mem_filter.mpr ⟨hspec, by simpa using hkept⟩
      obtain ⟨step, hstep, hmade⟩ := exists_of_forall₂_left hmades hmem
      obtain ⟨spec', -, hmade', -, hif, hwhen⟩ := exists_of_forall₂_right hpairs hstep
      obtain ⟨hsameIf, hsameWhen⟩ := @MadeOf.same ν R scope input spec spec' step hmade hmade'
      obtain ⟨-, -, heqIf, heqWhen⟩ := hmade.facts
      unfold Narrower at hif hwhen
      rw [← hsameIf, heqIf] at hif
      rw [← hsameWhen, heqWhen] at hwhen
      exact ⟨(narrower_iff _ _).mp hif, (narrower_iff _ _).mp hwhen⟩
  · intro hcontained
    refine ⟨input.definition.steps.filter (Kept input), List.filter_sublist, ?_, ?_⟩
    · intro spec hspec hp
      refine List.mem_filter.mpr ⟨hspec, decide_eq_true ⟨?_, hfeatures spec hspec hp, ?_⟩⟩
      · simp only [isEnabled, hp]
      · exact (hcontained spec hspec).1 hp
    · have hpairs := (List.forall₂_and_left _ _).mpr ⟨fun spec hspec => hspec, hmades⟩
      refine hpairs.imp fun spec step ⟨hspec, hmade⟩ => ?_
      obtain ⟨hin, hkept⟩ := List.mem_filter.mp hspec
      obtain ⟨hif, hwhen⟩ := (hcontained spec hin).2 (of_decide_eq_true hkept)
      obtain ⟨-, hid, heqIf, heqWhen⟩ := hmade.facts
      refine ⟨hmade, hid, ?_, ?_⟩
      · rw [heqIf]
        exact (narrower_iff _ _).mpr hif
      · rw [heqWhen]
        exact (narrower_iff _ _).mpr hwhen

/-- A definition of one step under a condition, with an overlay condition for it. -/
def oneStep (own overlay : String) : PlanBuildInput where
  definition := {
    key := "billing", version := 1, start := { event := ⟨"InvoiceIssued", 1⟩, key := "x" }
    steps := [{ id := "post", policy := .standard, do_ := some "ledger.post", if_ := some own }] }
  overlay := some { steps := some [("post", { if_ := some overlay })] }
  features := []
  defaultMaxAttempts := 3

/-- The overlay `true) || (true` makes a true condition of `false`. -/
theorem overlay_widens :
    ∃ plan, build (oneStep "false" "true) || (true") = some plan ∧
      ¬OnlyNarrows plainRuntime [] (oneStep "false" "true) || (true") plan := by
  refine ⟨_, rfl, ?_⟩
  rintro ⟨kept, hsub, -, hpairs⟩
  obtain ⟨spec, hspec, -, -, hif, -⟩ := exists_of_forall₂_right hpairs List.mem_cons_self
  have hown := hsub.subset hspec
  rcases List.mem_singleton.mp hown with rfl
  exact absurd (hif (by decide +kernel)) (by decide +kernel)

/-- The overlay `!x` leaves the condition `'a' == "a"` as narrow as it was. -/
theorem overlay_narrows : ∃ plan,
    OnlyNarrows plainRuntime [] (oneStep "'a' == \"a\"" "!x") plan := by
  refine ⟨_, (build_onlyNarrows_iff plainRuntime [] (oneStep "'a' == \"a\"" "!x") _ rfl).mpr ?_⟩
  intro spec hspec
  rcases List.mem_singleton.mp hspec with rfl
  refine ⟨fun hp => (nomatch hp), fun _ => ⟨?_, (narrower_iff _ _).mp fun _ => rfl⟩⟩
  exact (narrower_iff _ _).mp fun _ => by decide +kernel

end Plans

end DddBoilerplate.Saga.Expression
