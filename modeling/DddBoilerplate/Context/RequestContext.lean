/- module: DddBoilerplate/Context/RequestContext
   generality: I
   digest: The request context: its fields, merging a patch into it, and the scopes it lives in. -/

import Mathlib.Data.Rat.Defs
import DddBoilerplate.Domain.Text

set_option autoImplicit false
set_option relaxedAutoImplicit false
set_option linter.all false

namespace DddBoilerplate.Context

/-- The fields of `RequestContextData`. -/
inductive ContextField where
  | requestId | correlationId | tenantId | companyId | userId | roles | locale | ip | userAgent
  | defaultCurrency | autoApproveThreshold | overReceiptTolerance
  deriving DecidableEq

@[reducible] def ContextField.Value : ContextField → Type
  | requestId | correlationId | tenantId | companyId | userId => String
  | roles => List String
  | locale | ip | userAgent | defaultCurrency => String
  | autoApproveThreshold | overReceiptTolerance => ℚ

/-- `Partial<RequestContextData>`: a field it mentions may still be `undefined`. -/
abbrev RequestContextPatch := (field : ContextField) → Option (Option field.Value)

/-- A snapshot: every field, `undefined` or not. -/
abbrev RequestContext := (field : ContextField) → Option field.Value

/-- `{ ...first, ...second }` -/
def RequestContextPatch.spread (first second : RequestContextPatch) : RequestContextPatch :=
  fun field => (second field).or (first field)

namespace RequestContext

def create (data : RequestContextPatch) : RequestContext := fun field => (data field).join

def toData (context : RequestContext) : RequestContextPatch
  | .requestId => some (context .requestId)
  | .correlationId => some (context .correlationId)
  | .tenantId => some (context .tenantId)
  | .companyId => some (context .companyId)
  | .userId => some (context .userId)
  | .roles => some (context .roles)
  | .locale => some (context .locale)
  | .ip => some (context .ip)
  | .userAgent => some (context .userAgent)
  | .defaultCurrency => none
  | .autoApproveThreshold => none
  | .overReceiptTolerance => none

/-- `with` -/
def merge (context : RequestContext) (patch : RequestContextPatch) : RequestContext :=
  create (RequestContextPatch.spread context.toData patch)

end RequestContext

def emptyContext : RequestContextPatch
  | .requestId => some (some "")
  | .correlationId => some (some "")
  | .roles => some (some [])
  | .locale => some (some "en")
  | _ => none

/-- What the scope of an asynchronous call holds under the key of the context; outside of any scope
nothing can be held. -/
abbrev ClsStore := Option (Option RequestContext)

/-- What a scope opened inside another one does: it starts from a copy of it, or it is the same. -/
inductive IfNested where
  | inherit | reuse

/-- `cls.run`: the scope its callback sees. -/
def IfNested.enter (_ : IfNested) (store : ClsStore) : Option RequestContext := store.join

/-- What the scope around it holds once the callback has left this behind. -/
def IfNested.leave : IfNested → ClsStore → Option RequestContext → ClsStore
  | inherit, store, _ => store
  | reuse, none, _ => none
  | reuse, some _, inside => some inside

def noActiveContext : String := "Cannot set the key. No CLS context available."

namespace ClsRequestContextService

def get (store : ClsStore) : Option RequestContext := store.join

def clsSet (store : ClsStore) (context : RequestContext) : Except String ClsStore :=
  match store with
  | none => .error noActiveContext
  | some _ => .ok (some (some context))

def set (store : ClsStore) (patch : RequestContextPatch) : Except String ClsStore :=
  match get store with
  | some existing => clsSet store (existing.merge patch)
  | none => clsSet store (RequestContext.create (emptyContext.spread patch))

end ClsRequestContextService

open ClsRequestContextService

/-- What a caller does with the context; a `run` stands inside a `try` or not. -/
inductive Script where
  | done
  | throw
  | set (patch : RequestContextPatch) (rest : Script)
  | run (patch : RequestContextPatch) (body : Script) (caught : Bool) (rest : Script)

/-- The contexts seen at all points of a script, whether it has thrown, and the scope it leaves. -/
structure Played where
  points : List (Option RequestContext)
  threw : Bool
  store : ClsStore

/-- `run` sets the merged context inside of the scope it opens, and in the end what was there. -/
def play (nested : IfNested) : Script → ClsStore → Played
  | .done, store => ⟨[get store], false, store⟩
  | .throw, store => ⟨[get store], true, store⟩
  | .set patch rest, store =>
    match ClsRequestContextService.set store patch with
    | .error _ => ⟨[get store], true, store⟩
    | .ok store' =>
      let after := play nested rest store'
      ⟨get store :: after.points, after.threw, after.store⟩
  | .run patch body caught rest, store =>
    let previous := nested.enter store
    let base := previous.getD (RequestContext.create emptyContext)
    let inside := play nested body (some (some (base.merge patch)))
    let left := nested.leave store previous
    if inside.threw && !caught then ⟨get store :: inside.points, true, left⟩
    else
      let after := play nested rest left
      ⟨get store :: inside.points ++ after.points, after.threw, after.store⟩

/-- `run`: the context its callback starts with. -/
def ClsRequestContextService.entering (store : ClsStore) (patch : RequestContextPatch) :
    RequestContext :=
  ((ClsRequestContextService.get store).getD (RequestContext.create emptyContext)).merge patch

section Http

/-- What the middleware and the interceptor read of a request. -/
structure HttpRequest where
  correlationId : Option String
  tenantId : Option String
  companyId : Option String
  userId : Option String
  roles : Option String
  acceptLanguage : Option String
  ip : String
  userAgent : Option String

structure VerifiedIdentity where
  tenantId : Option String
  companyId : Option String
  userId : Option String
  roles : List String

structure CompanyConfig where
  defaultCurrency : String
  autoApproveThreshold : ℚ
  overReceiptTolerance : ℚ

def companyConfigPatch (company : CompanyConfig) : RequestContextPatch
  | .defaultCurrency => some (some company.defaultCurrency)
  | .autoApproveThreshold => some (some company.autoApproveThreshold)
  | .overReceiptTolerance => some (some company.overReceiptTolerance)
  | _ => none

/-- `CompanyConfigContextMiddleware.use`: what fails is left out. -/
def stampCompanyConfig (getCompanyConfig : String → Except String CompanyConfig)
    (request : HttpRequest) (store : ClsStore) : ClsStore :=
  match request.companyId with
  | none => store
  | some companyId =>
    if companyId = "" then store
    else
      match getCompanyConfig companyId with
      | .error _ => store
      | .ok company =>
        match ClsRequestContextService.set store (companyConfigPatch company) with
        | .error _ => store
        | .ok store' => store'

/-- `?.split(',').map(r => r.trim()).filter(Boolean) ?? []` -/
def parseRoles (roles : Option String) : List String :=
  (roles.map fun roles => ((roles.splitOn ",").map Text.trim).filter (· ≠ "")).getD []

/-- `resolveIdentity`: the verified identity, or in `single` mode the headers. -/
def resolveIdentity (stored : Option VerifiedIdentity) (multi : Bool) (request : HttpRequest) :
    VerifiedIdentity :=
  match stored with
  | some identity => identity
  | none =>
    if multi then ⟨none, none, none, []⟩
    else ⟨request.tenantId, request.companyId, request.userId, parseRoles request.roles⟩

def identityPatch (requestId : String) (identity : VerifiedIdentity) (request : HttpRequest) :
    RequestContextPatch
  | .requestId => some (some requestId)
  | .correlationId => some (some (request.correlationId.getD requestId))
  | .tenantId => some identity.tenantId
  | .companyId => some identity.companyId
  | .userId => some identity.userId
  | .roles => some (some identity.roles)
  | .locale => some (some (request.acceptLanguage.getD "en"))
  | .ip => some (some request.ip)
  | .userAgent => some request.userAgent
  | _ => none

/-- `RequestIdInterceptor.intercept` of an HTTP request. -/
def intercept (requestId : String) (stored : Option VerifiedIdentity) (multi : Bool)
    (request : HttpRequest) (store : ClsStore) : Except String ClsStore :=
  ClsRequestContextService.set store
    (identityPatch requestId (resolveIdentity stored multi request) request)

end Http

end DddBoilerplate.Context
