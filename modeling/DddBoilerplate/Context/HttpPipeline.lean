/- module: DddBoilerplate/Context/HttpPipeline
   generality: I
   digest: A request on its way to its route: the middleware, the guards and the interceptor. -/

import DddBoilerplate.Context.Merging

set_option autoImplicit false
set_option relaxedAutoImplicit false
set_option linter.all false

namespace DddBoilerplate.Context

open ClsRequestContextService

section Guards

inductive HttpFailure where
  | unauthorized (message : String)
  | forbidden (message : String)
  | internal (message : String)
  deriving DecidableEq

/-- `roles` of a token: `string[] | string`. -/
inductive RolesClaim where
  | list (roles : List String)
  | text (roles : String)

structure TenantJwtClaims where
  sub : Option String
  tenantId : Option String
  companyId : Option String
  roles : Option RolesClaim

/-- The tenancy mode, the verification of a token against the secret, the policy behind the roles
of routes, and the configurations of companies. -/
structure HttpSite where
  multi : Bool
  verifyAsync : String → Except String TenantJwtClaims
  can : String → String → String → Bool
  getCompanyConfig : String → Except String CompanyConfig

/-- A request with its header of authorization, and the metadata of its route. -/
structure HttpCall where
  request : HttpRequest
  authorization : Option String
  skipTenancy : Bool
  rbac : Option (String × String)

/-- What follows `Bearer `. -/
def bearerToken (header : String) : Option String :=
  if "Bearer ".toList.isPrefixOf header.toList then some (String.ofList (header.toList.drop 7))
  else none

def TenantJwtClaims.parsedRoles (claims : TenantJwtClaims) : List String :=
  match claims.roles with
  | some (.list roles) => roles
  | some (.text roles) => parseRoles (some roles)
  | none => parseRoles (some "")

def TenantJwtClaims.identity (claims : TenantJwtClaims) : VerifiedIdentity :=
  ⟨claims.tenantId, claims.companyId, claims.sub, claims.parsedRoles⟩

variable (site : HttpSite)

/-- `TenancyAuthGuard.canActivate`: the identity it leaves on the request. -/
def tenancyAuthGuard (call : HttpCall) : Except HttpFailure (Option VerifiedIdentity) :=
  if !site.multi then .ok none
  else if call.skipTenancy then .ok none
  else
    match call.authorization.bind bearerToken with
    | none => .error (.unauthorized "Missing bearer token")
    | some token =>
      match site.verifyAsync token with
      | .error _ => .error (.unauthorized "Invalid or expired token")
      | .ok claims =>
        if claims.tenantId.getD "" = "" then
          .error (.forbidden "Token is missing the tenantId claim")
        else .ok (some claims.identity)

/-- `RbacGuard.canActivate` -/
def rbacGuard (call : HttpCall) (store : ClsStore) : Except HttpFailure Unit :=
  match call.rbac with
  | none => .ok ()
  | some (resource, action) =>
    let userId := ((get store).bind fun context => context .userId).getD ""
    if userId = "" then .error (.forbidden "No authenticated user")
    else if site.can userId resource action then .ok ()
    else .error (.forbidden s!"RBAC denied: {action} on {resource}")

/-- The scope of a request when its guards run. The middleware of the company stands before or
behind the one that opens the scope. -/
def openedScope (call : HttpCall) (inScope : Bool) : ClsStore :=
  some (stampCompanyConfig site.getCompanyConfig call.request
    (if inScope then some none else none)).join

/-- All that a request passes before its route: the guards run ahead of every interceptor. -/
def reachRoute (requestId : String) (call : HttpCall) (inScope : Bool) :
    Except HttpFailure (Option RequestContext) := do
  let stored ← tenancyAuthGuard site call
  rbacGuard site call (openedScope site call inScope)
  match intercept requestId stored site.multi call.request (openedScope site call inScope) with
  | .error message => .error (.internal message)
  | .ok store => .ok (get store)

end Guards

section Identity

variable {site : HttpSite} {requestId : String} {call : HttpCall} {inScope : Bool}

/-- The context of a request, out of its identity alone. -/
def identityContext (requestId : String) (identity : VerifiedIdentity) (request : HttpRequest) :
    RequestContext :=
  RequestContext.create (identityPatch requestId identity request)

/-- Whatever the scope held, the interceptor leaves the identity in it and nothing besides. -/
theorem intercept_some {stored : Option VerifiedIdentity} {multi : Bool} {request : HttpRequest}
    (held : Option RequestContext) :
    intercept requestId stored multi request (some held) = .ok (some (some
      (identityContext requestId (resolveIdentity stored multi request) request))) := by
  have hmerged : mergedSet held
      (identityPatch requestId (resolveIdentity stored multi request) request) =
        identityContext requestId (resolveIdentity stored multi request) request := by
    funext field
    cases held with
    | none => cases field <;> rfl
    | some existing => cases field <;> rfl
  rw [intercept, set_some, hmerged]

/-- Nobody has put a user into the scope yet when the guards run. -/
theorem user_of_openedScope :
    (get (openedScope site call inScope)).bind (fun context => context .userId) = none := by
  unfold openedScope stampCompanyConfig
  cases call.request.companyId with
  | none => cases inScope <;> rfl
  | some companyId =>
    simp only
    split
    · cases inScope <;> rfl
    · cases site.getCompanyConfig companyId with
      | error message => cases inScope <;> rfl
      | ok company => cases inScope <;> rfl

theorem rbacGuard_openedScope : rbacGuard site call (openedScope site call inScope) =
    if call.rbac.isSome then .error (.forbidden "No authenticated user") else .ok () := by
  unfold rbacGuard
  cases call.rbac with
  | none => rfl
  | some metadata =>
    dsimp only
    rw [user_of_openedScope]
    rfl

/-- A request reaches its route in the context of its identity, unless the route asks for a role. -/
theorem reachRoute_eq : reachRoute site requestId call inScope =
    (tenancyAuthGuard site call).bind fun stored =>
      if call.rbac.isSome then .error (.forbidden "No authenticated user")
      else .ok (some (identityContext requestId
        (resolveIdentity stored site.multi call.request) call.request)) := by
  unfold reachRoute
  rw [rbacGuard_openedScope]
  cases tenancyAuthGuard site call with
  | error failure => rfl
  | ok stored =>
    have hscope : intercept requestId stored site.multi call.request
        (openedScope site call inScope) = .ok (some (some (identityContext requestId
          (resolveIdentity stored site.multi call.request) call.request))) := intercept_some _
    dsimp only [bind, Except.bind]
    rw [hscope]
    cases call.rbac with
    | some metadata => rfl
    | none => rfl

end Identity

section Boundary

variable {site : HttpSite} {requestId : String} {call : HttpCall} {inScope : Bool}

theorem tenancyAuthGuard_ok_iff (hmulti : site.multi = true) (hskip : call.skipTenancy = false)
    {stored : Option VerifiedIdentity} : tenancyAuthGuard site call = .ok stored ↔
      ∃ token claims, call.authorization.bind bearerToken = some token ∧
        site.verifyAsync token = .ok claims ∧ claims.tenantId.getD "" ≠ "" ∧
          stored = some claims.identity := by
  unfold tenancyAuthGuard
  rw [hmulti, hskip]
  simp only [Bool.not_true, Bool.false_eq_true, if_false]
  cases hheader : call.authorization.bind bearerToken with
  | none =>
    constructor
    · intro h
      cases h
    · rintro ⟨token, claims, hsome, -⟩
      cases hsome
  | some token =>
    simp only
    cases hverified : site.verifyAsync token with
    | error message =>
      constructor
      · intro h
        cases h
      · rintro ⟨token', claims, hsome, hok, -⟩
        cases hsome
        cases hverified.symm.trans hok
    | ok claims =>
      by_cases htenant : claims.tenantId.getD "" = ""
      · simp only [htenant, if_true]
        constructor
        · intro h
          cases h
        · rintro ⟨token', claims', hsome, hok, hnamed, -⟩
          cases hsome
          cases hverified.symm.trans hok
          exact absurd htenant hnamed
      · simp only [htenant, if_false]
        constructor
        · intro h
          cases h
          exact ⟨token, claims, rfl, hverified, htenant, rfl⟩
        · rintro ⟨token', claims', hsome, hok, -, rfl⟩
          cases hsome
          cases hverified.symm.trans hok
          rfl

/-- In a deployment with several tenants a request reaches a route that is no exception exactly with
a verified token that names a tenant, where the route asks for no role; and then the context is
that of the token. -/
theorem identity_from_token (hmulti : site.multi = true) (hskip : call.skipTenancy = false)
    {context : Option RequestContext} :
    reachRoute site requestId call inScope = .ok context ↔
      call.rbac = none ∧ ∃ token claims, call.authorization.bind bearerToken = some token ∧
        site.verifyAsync token = .ok claims ∧ claims.tenantId.getD "" ≠ "" ∧
          context = some (identityContext requestId claims.identity call.request) := by
  rw [reachRoute_eq]
  constructor
  · intro h
    cases hguard : tenancyAuthGuard site call with
    | error failure =>
      rw [hguard] at h
      cases h
    | ok stored =>
      rw [hguard] at h
      obtain ⟨token, claims, hheader, hverified, htenant, rfl⟩ :=
        (tenancyAuthGuard_ok_iff hmulti hskip).mp hguard
      cases hrbac : call.rbac with
      | some metadata =>
        rw [hrbac] at h
        cases h
      | none =>
        rw [hrbac] at h
        cases h
        exact ⟨rfl, token, claims, hheader, hverified, htenant, rfl⟩
  · rintro ⟨hrbac, token, claims, hheader, hverified, htenant, rfl⟩
    have hguard := (tenancyAuthGuard_ok_iff hmulti hskip).mpr
      ⟨token, claims, hheader, hverified, htenant, rfl⟩
    rw [hguard, hrbac]
    rfl

/-- Two calls that differ in nothing but the headers that name a tenant, a company, a user and their
roles. -/
structure HttpCall.SameButNamed (call call' : HttpCall) : Prop where
  authorization : call'.authorization = call.authorization
  skipTenancy : call'.skipTenancy = call.skipTenancy
  rbac : call'.rbac = call.rbac
  correlationId : call'.request.correlationId = call.request.correlationId
  acceptLanguage : call'.request.acceptLanguage = call.request.acceptLanguage
  ip : call'.request.ip = call.request.ip
  userAgent : call'.request.userAgent = call.request.userAgent

theorem HttpCall.SameButNamed.identityContext_eq {call' : HttpCall} (h : call.SameButNamed call')
    (identity : VerifiedIdentity) : identityContext requestId identity call'.request =
      identityContext requestId identity call.request := by
  funext field
  cases field with
  | correlationId =>
    change some (call'.request.correlationId.getD requestId) =
      some (call.request.correlationId.getD requestId)
    rw [h.correlationId]
  | locale =>
    change some (call'.request.acceptLanguage.getD "en") =
      some (call.request.acceptLanguage.getD "en")
    rw [h.acceptLanguage]
  | ip => exact congrArg some h.ip
  | userAgent => exact h.userAgent
  | _ => rfl

/-- In a deployment with several tenants nothing depends on the headers that name somebody. -/
theorem headers_name_nobody (hmulti : site.multi = true) {call' : HttpCall}
    (h : call.SameButNamed call') (inScope' : Bool) :
    reachRoute site requestId call' inScope' = reachRoute site requestId call inScope := by
  have hguard : tenancyAuthGuard site call' = tenancyAuthGuard site call := by
    unfold tenancyAuthGuard
    rw [h.skipTenancy, h.authorization]
  have hresolved : ∀ stored, resolveIdentity stored site.multi call'.request =
      resolveIdentity stored site.multi call.request := by
    intro stored
    rw [hmulti]
    cases stored with
    | none => rfl
    | some identity => rfl
  rw [reachRoute_eq, reachRoute_eq, hguard, h.rbac]
  simp only [hresolved, h.identityContext_eq]

/-- A route that asks for a role is closed to everybody: its guard looks for a user before any
request has one. -/
theorem roles_refuse_everybody (hrbac : call.rbac ≠ none) :
    ∃ failure, reachRoute site requestId call inScope = .error failure ∧
      ((tenancyAuthGuard site call).isOk = true →
        failure = .forbidden "No authenticated user") := by
  rw [reachRoute_eq]
  have hsome : call.rbac.isSome = true := Option.isSome_iff_ne_none.mpr hrbac
  cases tenancyAuthGuard site call with
  | error failure => exact ⟨failure, rfl, fun hok => by cases hok⟩
  | ok stored =>
    refine ⟨.forbidden "No authenticated user", ?_, fun _ => rfl⟩
    change (if call.rbac.isSome = true then _ else _) = _
    rw [if_pos hsome]

end Boundary

section Demos

/-- Several tenants; the token `t-1` is one of the user `u` of the tenant `t`. -/
def tokenSite : HttpSite where
  multi := true
  verifyAsync token :=
    if token = "t-1" then .ok ⟨some "u", some "t", none, some (.text "buyer")⟩
    else .error "jwt malformed"
  can _ _ _ := true
  getCompanyConfig _ := .ok acme

/-- A call with this token whose headers name another tenant. -/
def pretender : HttpCall where
  request := { acmeRequest with tenantId := some "victim" }
  authorization := some "Bearer t-1"
  skipTenancy := false
  rbac := none

theorem identity_from_token_pretender :
    ∃ context, reachRoute tokenSite "r" pretender true = .ok (some context) ∧
      context .tenantId = some "t" ∧ context .companyId = none :=
  ⟨_, (identity_from_token rfl rfl).mpr ⟨rfl, "t-1", _, by decide, rfl, by decide, rfl⟩, rfl, rfl⟩

theorem headers_name_nobody_pretender :
    reachRoute tokenSite "r" { pretender with request := acmeRequest } true =
      reachRoute tokenSite "r" pretender true :=
  @headers_name_nobody tokenSite "r" pretender true rfl _ ⟨rfl, rfl, rfl, rfl, rfl, rfl, rfl⟩ true

theorem roles_refuse_everybody_buyer :
    ∃ failure, reachRoute tokenSite "r"
      { pretender with rbac := some ("PurchaseOrder", "approve") } true = .error failure := by
  obtain ⟨failure, hrefused, _⟩ := @roles_refuse_everybody tokenSite "r"
    { pretender with rbac := some ("PurchaseOrder", "approve") } true (Option.some_ne_none _)
  exact ⟨failure, hrefused⟩

end Demos

end DddBoilerplate.Context
