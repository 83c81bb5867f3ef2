/- module: DddBoilerplate/Saga/PlanBuilder
   generality: I
   digest: Merging a definition with a company overlay into the plan frozen on an instance. -/

import DddBoilerplate.Domain.Text
import DddBoilerplate.Saga.Types

set_option autoImplicit false
set_option relaxedAutoImplicit false
set_option linter.all false

namespace DddBoilerplate.Saga.PlanBuilder

structure PlanBuildInput where
  definition : SagaDefinitionBody
  overlay : Option SagaOverlay
  features : List String
  defaultMaxAttempts : Nat

/-- `Boolean(c && c.trim())` -/
def notBlank (s : String) : Bool := Text.trim s != ""

/-- AND-combine two optional conditions; absent conditions are neutral. -/
def andConditions (left right : Option String) : Option String :=
  match left.filter notBlank, right.filter notBlank with
  | none, none => none
  | some c, none => some c
  | none, some c => some c
  | some c, some d => some ("(" ++ c ++ ") && (" ++ d ++ ")")

def hasAll (required : Option (List String)) (features : List String) : Bool :=
  match required with
  | none => true
  | some keys => keys.all features.contains

def isEnabled (spec : SagaStepSpec) (overlay : Option SagaStepOverlay) : Bool :=
  match spec.policy with
  | .required => true
  | .optional => (overlay.bind (·.enabled)).getD false
  | .standard => (overlay.bind (·.enabled)).getD true

def toPlanStep (spec : SagaStepSpec) (overlay : Option SagaStepOverlay)
    (defaultMaxAttempts : Nat) : Option SagaPlanStep :=
  if (present spec.do_).isNone ∧ spec.waitFor.isNone then none
  else
    some {
      id := spec.id
      kind := if spec.waitFor.isSome then .wait else .do_
      action := spec.do_
      undo := spec.undo
      input := spec.input
      waitFor := spec.waitFor
      match_ := spec.match_
      when_ := andConditions spec.when_ (overlay.bind (·.when_))
      if_ := andConditions spec.if_ (overlay.bind (·.if_))
      timeout := (overlay.bind (·.timeout)).or spec.timeout
      onTimeout := if spec.waitFor.isSome then some (spec.onTimeout.getD .skip) else none
      maxAttempts := (((overlay.bind (·.retry)).or spec.retry).map (·.maxAttempts)).getD
        defaultMaxAttempts
      pivot := spec.pivot.getD false }

/-- The loop of `build`; `none` when a required step lacks its features. -/
def buildSteps (input : PlanBuildInput) : List SagaStepSpec → Option (List SagaPlanStep)
  | [] => some []
  | spec :: rest =>
    let overlay := (input.overlay.bind (·.steps)).bind (·.lookup spec.id)
    if isEnabled spec overlay then
      if hasAll spec.requires input.features then
        (buildSteps input rest).map fun steps =>
          (toPlanStep spec overlay input.defaultMaxAttempts).toList ++ steps
      else if spec.policy = .required then none
      else buildSteps input rest
    else buildSteps input rest

def build (input : PlanBuildInput) : Option SagaPlan :=
  if input.overlay.bind (·.enabled) = some false then none
  else if hasAll input.definition.requires input.features then
    match buildSteps input input.definition.steps with
    | none => none
    | some [] => none
    | some steps => some {
        sagaKey := input.definition.key
        version := input.definition.version
        steps := steps
        cancelOn := input.definition.cancelOn.getD []
        onComplete := input.definition.onComplete }
  else none

end DddBoilerplate.Saga.PlanBuilder
