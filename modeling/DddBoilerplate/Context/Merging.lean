/- module: DddBoilerplate/Context/Merging
   generality: I
   digest: What a context ought to hold at every point, and that it does unless a patch drops the company. -/

import DddBoilerplate.Context.RequestContext

set_option autoImplicit false
set_option relaxedAutoImplicit false
set_option linter.all false

namespace DddBoilerplate.Context

open ClsRequestContextService

/-- What is in force at a point: a context, and the patches since, the most recent first. -/
structure Scope where
  base : RequestContext
  patches : List RequestContextPatch

namespace Scope

/-- The most recent patch that mentions a field decides on it. -/
def value (scope : Scope) : RequestContext := fun field =>
  match scope.patches.findSome? fun patch => patch field with
  | some mentioned => mentioned
  | none => scope.base field

def push (scope : Scope) (patch : RequestContextPatch) : Scope :=
  ⟨scope.base, patch :: scope.patches⟩

/-- Where there is no context yet, a patch is added to the empty one. -/
def under (scope : Option Scope) (patch : RequestContextPatch) : Scope :=
  (scope.getD ⟨RequestContext.create emptyContext, []⟩).push patch

end Scope

/-- What ought to be seen at the points of a script, and whether it throws. A run has its patch in
force for its body and for nothing else. -/
def expected (active : Bool) : Script → Option Scope → List (Option Scope) × Bool
  | .done, scope => ([scope], false)
  | .throw, scope => ([scope], true)
  | .set patch rest, scope =>
    if active then
      let after := expected true rest (some (Scope.under scope patch))
      (scope :: after.1, after.2)
    else ([scope], true)
  | .run patch body caught rest, scope =>
    let inside := expected true body (some (Scope.under scope patch))
    if inside.2 && !caught then (scope :: inside.1, true)
    else
      let after := expected active rest scope
      (scope :: inside.1 ++ after.1, after.2)

/-- The company configuration. -/
def companyFields : List ContextField :=
  [.defaultCurrency, .autoApproveThreshold, .overReceiptTolerance]

/-- A patch that is merged into a context mentions each company field the context has a value of. -/
def KeepsCompany (scope : Option Scope) (patch : RequestContextPatch) : Prop :=
  ∀ current, scope = some current → ∀ field ∈ companyFields, current.value field ≠ none →
    patch field ≠ none

/-- All patches of a script that are merged do. -/
def AllKeepCompany (active : Bool) : Script → Option Scope → Prop
  | .done, _ => True
  | .throw, _ => True
  | .set patch rest, scope =>
    active = true → KeepsCompany scope patch ∧
      AllKeepCompany true rest (some (Scope.under scope patch))
  | .run patch body caught rest, scope =>
    KeepsCompany scope patch ∧ AllKeepCompany true body (some (Scope.under scope patch)) ∧
      (((expected true body (some (Scope.under scope patch))).2 && !caught) = false →
        AllKeepCompany active rest scope)

/-- The context that is in the store at the start. -/
def initially (store : ClsStore) : Option Scope := (get store).map fun context => ⟨context, []⟩

/-- At all points the context has the values it ought to have. -/
def MergesFaithfully (nested : IfNested) (script : Script) (store : ClsStore) : Prop :=
  (play nested script store).points =
    (expected store.isSome script (initially store)).1.map (Option.map Scope.value) ∧
  (play nested script store).threw = (expected store.isSome script (initially store)).2

section Values

variable {scope : Scope} {patch : RequestContextPatch} {field : ContextField}

theorem value_push :
    (scope.push patch).value field = ((patch field).getD (scope.value field)) := by
  simp only [Scope.value, Scope.push, List.findSome?_cons]
  cases patch field with
  | none => rfl
  | some mentioned => rfl

theorem merge_apply (context : RequestContext) (field : ContextField) :
    context.merge patch field =
      (patch field).getD (if field ∈ companyFields then none else context field) := by
  simp only [RequestContext.merge, RequestContext.create, RequestContextPatch.spread]
  cases hpatch : patch field with
  | some mentioned => rfl
  | none => cases field <;> rfl

theorem create_spread_apply :
    RequestContext.create (emptyContext.spread patch) field =
      (patch field).getD (RequestContext.create emptyContext field) := by
  simp only [RequestContext.create, RequestContextPatch.spread]
  cases patch field with
  | some mentioned => rfl
  | none => rfl

/-- Merging gives the value it ought to exactly if no company field is dropped. -/
theorem merge_value_iff : scope.value.merge patch = (scope.push patch).value ↔
    KeepsCompany (some scope) patch := by
  constructor
  · rintro h current ⟨⟩ field hfield hvalue hpatch
    have hhere := congrFun h field
    rw [merge_apply, value_push, hpatch, if_pos hfield] at hhere
    exact hvalue hhere.symm
  · intro h
    funext field
    rw [merge_apply, value_push]
    cases hpatch : patch field with
    | some mentioned => rfl
    | none =>
      by_cases hfield : field ∈ companyFields
      · have hnone : scope.value field = none := by
          by_contra hvalue
          exact h scope rfl field hfield hvalue hpatch
        rw [if_pos hfield, hnone]
      · rw [if_neg hfield]

theorem empty_has_no_company (hfield : field ∈ companyFields) :
    RequestContext.create emptyContext field = none := by
  cases field <;> first | rfl | exact absurd hfield (by decide)

/-- The context a `set` or a `run` puts in the place of the one it finds. -/
def mergedSet (held : Option RequestContext) (patch : RequestContextPatch) : RequestContext :=
  match held with
  | some existing => existing.merge patch
  | none => RequestContext.create (emptyContext.spread patch)

theorem set_none : set none patch = .error noActiveContext := rfl

theorem set_some (held : Option RequestContext) :
    set (some held) patch = .ok (some (some (mergedSet held patch))) := by
  cases held with
  | none => rfl
  | some existing => rfl

theorem under_value_apply {held : Option Scope} : (Scope.under held patch).value field =
    (patch field).getD ((held.getD ⟨RequestContext.create emptyContext, []⟩).value field) :=
  value_push

theorem mergedSet_value_iff {held : Option Scope} :
    mergedSet (held.map Scope.value) patch = (Scope.under held patch).value ↔
      KeepsCompany held patch := by
  cases held with
  | some scope => exact merge_value_iff
  | none =>
    refine ⟨fun _ current h => (by cases h), fun _ => ?_⟩
    funext field
    rw [under_value_apply]
    exact create_spread_apply

theorem mergedRun_value_iff {held : Option Scope} :
    ((held.map Scope.value).getD (RequestContext.create emptyContext)).merge patch =
      (Scope.under held patch).value ↔ KeepsCompany held patch := by
  cases held with
  | some scope => exact merge_value_iff
  | none =>
    refine ⟨fun _ current h => (by cases h), fun _ => ?_⟩
    funext field
    rw [under_value_apply, Option.map_none, Option.getD_none, merge_apply]
    congr 1
    by_cases hfield : field ∈ companyFields
    · rw [if_pos hfield]
      exact (empty_has_no_company hfield).symm
    · rw [if_neg hfield]
      rfl

end Values

section Points

attribute [local simp] play expected AllKeepCompany

variable {nested : IfNested} {store : ClsStore} {script : Script} {scope : Option Scope}

theorem isSome_leave {previous : Option RequestContext} :
    (nested.leave store previous).isSome = store.isSome := by
  cases nested with
  | inherit => rfl
  | reuse =>
    cases store with
    | none => rfl
    | some held => rfl

/-- A run leaves the context as it was before it. -/
theorem get_leave : get (nested.leave store (nested.enter store)) = get store := by
  cases nested with
  | inherit => rfl
  | reuse =>
    cases store with
    | none => rfl
    | some held => rfl

/-- How a script goes does not depend on what the contexts hold. -/
theorem shape_of_play (script : Script) : ∀ {store : ClsStore} {scope : Option Scope},
    (play nested script store).points.length = (expected store.isSome script scope).1.length ∧
      (play nested script store).threw = (expected store.isSome script scope).2 := by
  induction script with
  | done => exact ⟨rfl, rfl⟩
  | throw => exact ⟨rfl, rfl⟩
  | set patch rest ih =>
    intro store scope
    cases store with
    | none => exact ⟨rfl, rfl⟩
    | some held =>
      have hrest := @ih (some (some (mergedSet held patch))) (some (Scope.under scope patch))
      simp only [play, expected, set_some, Option.isSome_some, if_true, List.length_cons]
      exact ⟨congrArg (· + 1) hrest.1, hrest.2⟩
  | run patch body caught rest ihbody ihrest =>
    intro store scope
    have hbody := @ihbody (some (some (((nested.enter store).getD
      (RequestContext.create emptyContext)).merge patch))) (some (Scope.under scope patch))
    have hrest := @ihrest (nested.leave store (nested.enter store)) scope
    rw [isSome_leave] at hrest
    simp only [play, expected]
    rw [hbody.2]
    cases hthrown : (expected true body (some (Scope.under scope patch))).2 && !caught with
    | true =>
      simp only [Option.isSome_some, hthrown, if_true, List.length_cons]
      exact ⟨congrArg (· + 1) hbody.1, trivial⟩
    | false =>
      simp only [Option.isSome_some, hthrown, Bool.false_eq_true, if_false, List.cons_append,
        List.length_cons, List.length_append]
      refine ⟨?_, hrest.2⟩
      rw [hbody.1, hrest.1]
      rfl

/-- The first point of a script shows the context it starts with. -/
theorem head_play : (play nested script store).points.head? = some (get store) := by
  cases script with
  | done => rfl
  | throw => rfl
  | set patch rest =>
    simp only [play]
    split
    · rfl
    · rfl
  | run patch body caught rest =>
    simp only [play]
    split
    · rfl
    · rfl

/-- A run shows its callback the merged context next. -/
theorem point_of_run {patch : RequestContextPatch} {body rest : Script} {caught : Bool} :
    (play nested (.run patch body caught rest) store).points[1]? =
      some (some (entering store patch)) := by
  obtain ⟨point, points, hpoints⟩ : ∃ point points,
      (play nested body (some (some (entering store patch)))).points = point :: points :=
    List.exists_cons_of_ne_nil fun hnil => by
      have hhead := @head_play nested (some (some (entering store patch))) body
      rw [hnil] at hhead
      cases hhead
  have hpoint : point = some (entering store patch) := by
    have hhead := @head_play nested (some (some (entering store patch))) body
    rw [hpoints] at hhead
    exact Option.some.inj hhead
  simp only [play]
  change (if (_ : Bool) = true then (_ : Played) else _).points[1]? = _
  split
  · change ((play nested body (some (some (entering store patch)))).points)[0]? = _
    rw [hpoints, hpoint]
    rfl
  · change ((play nested body (some (some (entering store patch)))).points ++ _)[0]? = _
    rw [hpoints, hpoint]
    rfl

theorem head_expected {active : Bool} : (expected active script scope).1.head? = some scope := by
  cases script with
  | done => rfl
  | throw => rfl
  | set patch rest =>
    simp only [expected]
    split
    · rfl
    · rfl
  | run patch body caught rest =>
    simp only [expected]
    split
    · rfl
    · rfl

/-- Points that agree start from the same context. -/
theorem get_of_points {active : Bool} (h : (play nested script store).points =
    (expected active script scope).1.map (Option.map Scope.value)) :
    get store = scope.map Scope.value := by
  have hhead := congrArg List.head? h
  rw [head_play, List.head?_map, head_expected] at hhead
  exact Option.some.inj hhead

theorem points_iff (script : Script) : ∀ {store : ClsStore} {scope : Option Scope},
    get store = scope.map Scope.value → ((play nested script store).points =
      (expected store.isSome script scope).1.map (Option.map Scope.value) ↔
        AllKeepCompany store.isSome script scope) := by
  induction script with
  | done =>
    intro store scope hget
    exact ⟨fun _ => trivial, fun _ => congrArg (fun point => [point]) hget⟩
  | throw =>
    intro store scope hget
    exact ⟨fun _ => trivial, fun _ => congrArg (fun point => [point]) hget⟩
  | set patch rest ih =>
    intro store scope hget
    cases store with
    | none =>
      refine ⟨fun _ h => (by cases h), fun _ => ?_⟩
      exact congrArg (fun point => [point]) hget
    | some held =>
      have hheld : held = scope.map Scope.value := hget
      simp only [play, expected, AllKeepCompany, set_some, Option.isSome_some, if_true,
        List.map_cons, List.cons.injEq, forall_const]
      constructor
      · rintro ⟨_, htail⟩
        have hmerged := get_of_points htail
        have hsame : mergedSet held patch = (Scope.under scope patch).value :=
          Option.some.inj hmerged
        refine ⟨mergedSet_value_iff.mp (hheld ▸ hsame), (ih ?_).mp htail⟩
        exact hmerged
      · rintro ⟨hkeeps, hrest⟩
        refine ⟨hget, (ih ?_).mpr hrest⟩
        rw [hheld, mergedSet_value_iff.mpr hkeeps]
        rfl
  | run patch body caught rest ihbody ihrest =>
    intro store scope hget
    have henter : nested.enter store = scope.map Scope.value := hget
    have hleave : get (nested.leave store (nested.enter store)) = scope.map Scope.value :=
      get_leave.trans hget
    have hshape := @shape_of_play nested body (some (some (((nested.enter store).getD
      (RequestContext.create emptyContext)).merge patch))) (some (Scope.under scope patch))
    have hmerged : ((nested.enter store).getD (RequestContext.create emptyContext)).merge patch =
        (Scope.under scope patch).value ↔ KeepsCompany scope patch := by
      rw [henter]
      exact mergedRun_value_iff
    have hbody : KeepsCompany scope patch → ((play nested body (some (some
        (((nested.enter store).getD (RequestContext.create emptyContext)).merge patch)))).points =
          (expected true body (some (Scope.under scope patch))).1.map (Option.map Scope.value) ↔
            AllKeepCompany true body (some (Scope.under scope patch))) := by
      intro hkeeps
      exact @ihbody (some (some _)) _ (congrArg some (hmerged.mpr hkeeps))
    have hrest := @ihrest _ scope hleave
    rw [isSome_leave] at hrest
    have hkeeps_of : (play nested body (some (some (((nested.enter store).getD
        (RequestContext.create emptyContext)).merge patch)))).points =
          (expected true body (some (Scope.under scope patch))).1.map (Option.map Scope.value) →
            KeepsCompany scope patch :=
      fun h => hmerged.mp (Option.some.inj (get_of_points h))
    simp only [play, expected, AllKeepCompany]
    rw [hshape.2]
    cases hthrown : (expected true body (some (Scope.under scope patch))).2 && !caught with
    | true =>
      simp only [Option.isSome_some, hthrown, if_true, List.map_cons, List.cons.injEq,
        Bool.true_eq_false, false_implies, and_true]
      constructor
      · rintro ⟨_, hinside⟩
        exact ⟨hkeeps_of hinside, (hbody (hkeeps_of hinside)).mp hinside⟩
      · rintro ⟨hkeeps, hinside⟩
        exact ⟨hget, (hbody hkeeps).mpr hinside⟩
    | false =>
      simp only [Option.isSome_some, hthrown, Bool.false_eq_true, if_false, List.cons_append,
        List.map_cons, List.map_append, List.cons.injEq, forall_const]
      constructor
      · rintro ⟨_, hall⟩
        obtain ⟨hinside, hafter⟩ := List.append_inj hall (by
          rw [List.length_map]
          exact hshape.1)
        exact ⟨hkeeps_of hinside, (hbody (hkeeps_of hinside)).mp hinside, hrest.mp hafter⟩
      · rintro ⟨hkeeps, hinside, hafter⟩
        refine ⟨hget, ?_⟩
        rw [(hbody hkeeps).mpr hinside, hrest.mpr hafter]

end Points

section Results

variable {nested : IfNested} {store : ClsStore} {script : Script}

theorem mergesFaithfully_iff :
    MergesFaithfully nested script store ↔
      AllKeepCompany store.isSome script (initially store) := by
  have hget : get store = (initially store).map Scope.value := by
    unfold initially
    cases get store with
    | none => rfl
    | some context => rfl
  exact ⟨fun h => (points_iff script hget).mp h.1,
    fun h => ⟨(points_iff script hget).mpr h, (shape_of_play script).2⟩⟩

/-- The stamp of the middleware, and the merge of the interceptor after it. -/
def httpScript (company : CompanyConfig) (requestId : String) (identity : VerifiedIdentity)
    (request : HttpRequest) : Script :=
  .set (companyConfigPatch company) (.set (identityPatch requestId identity request) .done)

/-- The identity mentions no field of the company. -/
theorem identityPatch_company {requestId : String} {identity : VerifiedIdentity}
    {request : HttpRequest} {field : ContextField} (hfield : field ∈ companyFields) :
    identityPatch requestId identity request field = none := by
  cases field <;> first | rfl | exact absurd hfield (by decide)

theorem httpScript_unfaithful (company : CompanyConfig) (requestId : String)
    (identity : VerifiedIdentity) (request : HttpRequest) (held : Option RequestContext) :
    ¬ MergesFaithfully nested (httpScript company requestId identity request) (some held) := by
  rw [mergesFaithfully_iff]
  intro h
  obtain ⟨hkeeps, _⟩ := (h rfl).2 rfl
  refine hkeeps _ rfl .defaultCurrency (by decide) ?_ (identityPatch_company (by decide))
  rw [under_value_apply]
  exact Option.some_ne_none company.defaultCurrency

/-- Once the middleware has stamped the company of a request, the interceptor drops it. -/
theorem intercept_drops_company {requestId companyId : String}
    {stored : Option VerifiedIdentity} {multi : Bool} {request : HttpRequest}
    {company : CompanyConfig} {getCompanyConfig : String → Except String CompanyConfig}
    {held : Option RequestContext} (hcompany : request.companyId = some companyId)
    (hnamed : companyId ≠ "") (hconfig : getCompanyConfig companyId = .ok company) :
    ∃ stamped context,
      stampCompanyConfig getCompanyConfig request (some held) = some (some stamped) ∧
      stamped .defaultCurrency = some company.defaultCurrency ∧
      intercept requestId stored multi request (some (some stamped)) =
        .ok (some (some context)) ∧
      ∀ field ∈ companyFields, context field = none := by
  refine ⟨mergedSet held (companyConfigPatch company), _, ?_, ?_, set_some _, fun field hfield => ?_⟩
  · simp only [stampCompanyConfig, hcompany, hnamed, if_false, hconfig, set_some]
  · cases held with
    | none => rfl
    | some existing => rfl
  · simp only [mergedSet]
    rw [merge_apply, identityPatch_company hfield, if_pos hfield]
    rfl

/-- A sequence of merges and runs is faithful exactly if each merged patch mentions what the company
has configured; a run restores the context before it; and the merge of a request's identity after
the stamp of its company is never faithful. -/
theorem merging_iff_company_mentioned (nested : IfNested) :
    (∀ script store, MergesFaithfully nested script store ↔
      AllKeepCompany store.isSome script (initially store)) ∧
    (∀ patch body caught store,
      get (play nested (.run patch body caught .done) store).store = get store) ∧
    ∀ company requestId identity request held,
      ¬ MergesFaithfully nested (httpScript company requestId identity request) (some held) := by
  refine ⟨fun script store => mergesFaithfully_iff, fun patch body caught store => ?_,
    httpScript_unfaithful⟩
  simp only [play]
  split
  · exact get_leave
  · exact get_leave

def acme : CompanyConfig := ⟨"EUR", 500, 1 / 20⟩

def acmeRequest : HttpRequest := ⟨none, some "t", some "acme", some "u", none, none, "10.0.0.1", none⟩

/-- A request of a company with a currency, a threshold and a tolerance: the use cases read none of
them. -/
theorem company_config_lost :
    ∃ stamped context, stampCompanyConfig (fun _ => .ok acme) acmeRequest (some none) =
        some (some stamped) ∧ stamped .overReceiptTolerance = some (1 / 20) ∧
      intercept "r" none false acmeRequest (some (some stamped)) =
        .ok (some (some context)) ∧
      context .defaultCurrency = none ∧ context .autoApproveThreshold = none ∧
        context .overReceiptTolerance = none ∧
      ¬ MergesFaithfully .inherit (httpScript acme "r" ⟨some "t", some "acme", some "u", []⟩
        acmeRequest) (some none) := by
  refine ⟨_, _, rfl, rfl, rfl, rfl, rfl, rfl, ?_⟩
  exact httpScript_unfaithful _ _ _ _ _

end Results

end DddBoilerplate.Context
