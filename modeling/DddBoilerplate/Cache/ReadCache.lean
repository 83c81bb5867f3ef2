/- module: DddBoilerplate/Cache/ReadCache
   generality: I
   digest: The keys of the read cache, the routes that are cached, and reads over a shared cache. -/

import DddBoilerplate.Concurrency.Pool
import DddBoilerplate.Domain.Text
import DddBoilerplate.Store.Table

set_option autoImplicit false
set_option relaxedAutoImplicit false
set_option linter.all false

namespace DddBoilerplate.Cache

open Concurrency Store

structure CacheConfig where
  keyPrefix : String
  keyVersion : String

structure CacheKey where
  tenantId : Option String
  companyId : Option String
  space : String
  resource : String
  variant : Option String

/-- `CacheService.buildKey` -/
def CacheConfig.buildKey (config : CacheConfig) (identity : CacheKey) : String :=
  Text.join ":"
    [config.keyPrefix, config.keyVersion, identity.tenantId.getD "platform",
      identity.companyId.getD "platform", identity.space, identity.resource,
      identity.variant.getD "default"]

section Routes

/-- The GET routes with one of the two interceptors. -/
inductive CachedRoute where
  | getPurchaseOrder | listPurchaseOrders | purchaseOrderReceipts
  | purchaseOrderRemainingQuantities | getGrn | listGrns
  deriving DecidableEq

/-- `@Cacheable({ resource })`, or `CacheResponseInterceptor`. -/
inductive Caching where
  | cacheable (resource : Option String)
  | response
  deriving DecidableEq

namespace CachedRoute

def caching : CachedRoute → Caching
  | getPurchaseOrder => .cacheable (some "purchase-order")
  | getGrn => .cacheable (some "grn")
  | listPurchaseOrders | purchaseOrderReceipts | purchaseOrderRemainingQuantities | listGrns =>
    .response

/-- There is an `:id` in the path. -/
def hasId : CachedRoute → Bool
  | getPurchaseOrder | purchaseOrderReceipts | purchaseOrderRemainingQuantities | getGrn => true
  | listPurchaseOrders | listGrns => false

end CachedRoute

/-- `.replace(/s$/, '')` -/
def withoutFinalS (s : String) : String :=
  match s.toList.reverse with
  | 's' :: rest => String.ofList rest.reverse
  | _ => s

/-- `CacheableInterceptor.deriveResource` -/
def deriveResource (originalUrl : String) : String :=
  let segments := (originalUrl.splitOn "/").filter (· ≠ "")
  let last := if 2 ≤ segments.length then segments[segments.length - 2]? else none
  withoutFinalS ((segments[2]?.or last).getD "default")

/-- Which cached route a GET of a URL goes to, with the path parameter. -/
abbrev Router := String → Option (CachedRoute × Option String)

/-- A GET of a cached route, with the tenant and the company of its context. -/
structure ReadRequest (router : Router) where
  tenantId : Option String
  companyId : Option String
  originalUrl : String
  route : CachedRoute
  id : Option String
  routed : router originalUrl = some (route, id)
  named : id.isSome = route.hasId
  fromRoot : ∃ path, originalUrl.toList = '/' :: path

variable {router : Router}

namespace ReadRequest

/-- `buildKey` of the interceptor of the route: the one keys by the URL, the other by the `:id`. -/
def identity (request : ReadRequest router) : CacheKey where
  tenantId := request.tenantId
  companyId := request.companyId
  space := "http"
  resource := match request.route.caching with
    | .cacheable resource => resource.getD (deriveResource request.originalUrl)
    | .response => request.originalUrl
  variant := match request.route.caching with
    | .cacheable _ => some (request.id.getD "list")
    | .response => none

def cacheKey (config : CacheConfig) (request : ReadRequest router) : String :=
  config.buildKey request.identity

end ReadRequest

end Routes

section Cache

/-- What a handler returned, with the request that it was returned for. -/
structure CacheEntry (router : Router) where
  writtenFor : ReadRequest router
  value : String

def CacheEntry.key {router : Router} (config : CacheConfig) (entry : CacheEntry router) : String :=
  entry.writtenFor.cacheKey config

/-- The commands to the cache, the handler of a route, the answer of a request, and the deletion of
a key behind a command. -/
inductive CacheStatement (router : Router) where
  | get (request : ReadRequest router)
  | handle (request : ReadRequest router)
  | respond (request : ReadRequest router) (value : String)
  | set (request : ReadRequest router) (value : String)
  | delete (key : String)

@[reducible] def CacheStatement.Answer {router : Router} : CacheStatement router → Type
  | get _ => Option (CacheEntry router)
  | handle _ => Except String String
  | respond _ _ => Unit
  | set _ _ => Unit
  | delete _ => Unit

abbrev CacheStatement.interface (router : Router) : Interface :=
  ⟨CacheStatement router, CacheStatement.Answer⟩

/-- What is left open: the answer of a handler, and whether the cache does its work. A key that has
expired and a value that is too large are misses and writes that are left out. -/
inductive CacheChoice where
  | settled
  | failed
  | handled (outcome : Except String String)

variable (config : CacheConfig) (router : Router)

def CacheStatement.serve : (q : CacheStatement router) → CacheChoice →
    Table (@CacheEntry.key router config) →
      Option (q.Answer × Table (@CacheEntry.key router config))
  | get request, .settled, entries => some (entries.get? (request.cacheKey config), entries)
  | get _, .failed, entries => some (none, entries)
  | handle _, .handled outcome, entries => some (outcome, entries)
  | respond _ _, .settled, entries => some ((), entries)
  | set request value, .settled, entries => some ((), entries.upsert ⟨request, value⟩)
  | set _ _, .failed, entries => some ((), entries)
  | delete key, .settled, entries =>
    some ((), entries.filter fun entry => entry.key config ≠ key)
  | delete _, .failed, entries => some ((), entries)
  | _, _, _ => none

abbrev CacheProgram := Program (CacheStatement.interface router) Unit

/-- `intercept`: a value that was cached is the answer; otherwise the handler answers, and what it
returned is written behind the answer. -/
def intercept (request : ReadRequest router) : CacheProgram router :=
  .ask (.get request) fun cached : Option (CacheEntry router) =>
    match cached with
    | some entry => .ask (.respond request entry.value) .done
    | none =>
      .ask (.handle request) fun outcome =>
        .lift outcome >>= fun value =>
          .ask (.respond request value) fun _ => .ask (.set request value) .done

/-- A GET, or a command that is done and evicts this key. -/
inductive CacheCall where
  | read (request : ReadRequest router)
  | evict (key : String)

def CacheCall.program : CacheCall router → CacheProgram router
  | read request => intercept router request
  | evict key => .ask (.delete key) .done

abbrev cacheSystem : System where
  interface := CacheStatement.interface router
  Store := Table (@CacheEntry.key router config)
  Choice := CacheChoice
  Entry := CacheCall router
  program := CacheCall.program router
  serve := CacheStatement.serve config router

end Cache

end DddBoilerplate.Cache
