/- module: DddBoilerplate/Idempotency/OwnReply
   generality: I
   digest: Whose result an idempotent route replays, and how often its handler runs. -/

import DddBoilerplate.Concurrency.Sequential
import DddBoilerplate.Idempotency.Cache
import DddBoilerplate.Idempotency.Claims
import DddBoilerplate.Idempotency.Interceptor

set_option autoImplicit false
set_option relaxedAutoImplicit false
set_option linter.all false

namespace DddBoilerplate.Idempotency

open Concurrency Store Text

section Accounts

variable (config : IdempotencyConfig) (tenancy : Tenancy)

/-- The identity a request reserves under. -/
def Reserves (request : HttpRequest) (identity : IdempotencyIdentity) : Prop :=
  ∃ key, request.key? = some key ∧ identity = request.identity tenancy key

/-- No handler has run. -/
def Unhandled (h : List (Call HttpStatement.interface.world)) : Prop :=
  ∀ request outcome, ⟨.statement (.handle request), outcome⟩ ∉ h

/-- The result of the identity, as a call found it in the cache or in its row. -/
def Found (identity : IdempotencyIdentity) (h : List (Call HttpStatement.interface.world))
    (value : ResultJson) : Prop :=
  ⟨.statement (.ledger (.cacheGet (config.buildKey identity))), some value⟩ ∈ h ∨
    ∃ row : IdempotencyRow, ⟨.statement (.ledger (.findByIdentity identity)), some row⟩ ∈ h ∧
      row.status = .completed ∧ row.resultJson = value

/-- Why a request is answered so. -/
def becauseReply (request : HttpRequest) (h : List (Call HttpStatement.interface.world)) :
    HttpReply → Prop
  | .stored value => Unhandled h ∧
    ∃ identity, Reserves tenancy request identity ∧ Found config identity h value
  | .refused _ _ => Unhandled h
  | .ran outcome => ⟨.statement (.handle request), outcome⟩ ∈ h

/-- Why the interceptor makes a request of the ledger, runs the handler or replies. -/
def becauseRequest (request : HttpRequest) (h : List (Call HttpStatement.interface.world)) :
    WorldRequest HttpStatement.interface → Prop
  | .statement (.ledger (.create identity claimToken _ _ _)) =>
    Reserves tenancy request identity ∧ ⟨.randomUUID, claimToken⟩ ∈ h
  | .statement (.ledger (.takeOver identity claimToken _ _ _ _)) =>
    Reserves tenancy request identity ∧ ⟨.randomUUID, claimToken⟩ ∈ h
  | .statement (.ledger (.complete reservation result _)) =>
    ⟨.randomUUID, reservation.claimToken⟩ ∈ h ∧ ∃ response : Response,
      ⟨.statement (.handle request), .ok response⟩ ∈ h ∧ response.getD none = result
  | .statement (.ledger (.cacheSet key value _)) => ∃ identity, Reserves tenancy request identity ∧
    key = config.buildKey identity ∧ ((∃ result, value = some result ∧ Found config identity h result) ∨
      ∃ response : Response, ⟨.statement (.handle request), .ok response⟩ ∈ h ∧ value = response)
  | .statement (.handle request') => request' = request ∧ Unhandled h ∧
    ∀ request reply, ⟨.statement (.reply request reply), ()⟩ ∉ h
  | .statement (.reply request' reply) =>
    request' = request ∧ becauseReply config tenancy request h reply
  | _ => True

def becauseHttp : HttpEntry → List (Call HttpStatement.interface.world) →
    WorldRequest HttpStatement.interface → Prop
  | .received request, h, q => becauseRequest config tenancy request h q
  | .purgeExpired, _, .statement (.ledger (.purgeExpired _)) => True
  | .purgeExpired, _, .clock => True
  | .purgeExpired, _, _ => False


variable {config tenancy}

/-- A call of the ledger, as the interceptor makes it. -/
def lifted : Call IdempotencyStatement.interface.world → Call HttpStatement.interface.world
  | ⟨.statement q, a⟩ => ⟨.statement (.ledger q), a⟩
  | ⟨.clock, a⟩ => ⟨.clock, a⟩
  | ⟨.randomUUID, a⟩ => ⟨.randomUUID, a⟩

def liftedRequest : WorldRequest IdempotencyStatement.interface →
    WorldRequest HttpStatement.interface
  | .statement q => .statement (.ledger q)
  | .clock => .clock
  | .randomUUID => .randomUUID

theorem accounted_ofLedger {α : Type}
    {asks : List (Call IdempotencyStatement.interface.world) →
      WorldRequest IdempotencyStatement.interface → Prop}
    {returns : List (Call IdempotencyStatement.interface.world) → α → Prop}
    {because : List (Call HttpStatement.interface.world) →
      WorldRequest HttpStatement.interface → Prop}
    (himp : ∀ h q, asks h q → because (h.map lifted) (liftedRequest q)) {m : IdempotencyProgram α}
    {h : List (Call IdempotencyStatement.interface.world)} (hm : Accounted asks returns h m) :
    Accounted because (fun h' a => ∃ h, h' = h.map lifted ∧ returns h a) (h.map lifted)
      (ofLedger m) := by
  induction m generalizing h with
  | done a => exact ⟨h, rfl, hm⟩
  | fail e => trivial
  | ask q next ih =>
    have hnext := fun a => ih a (hm.2 a)
    simp only [List.map_append, List.map_singleton] at hnext
    cases q with
    | statement q => exact ⟨himp h _ hm.1, hnext⟩
    | clock => exact ⟨himp h _ hm.1, hnext⟩
    | randomUUID => exact ⟨himp h _ hm.1, hnext⟩

theorem unhandled_lifted {h : List (Call IdempotencyStatement.interface.world)} :
    Unhandled (h.map lifted) := by
  intro request outcome hmem
  obtain ⟨⟨q, a⟩, _, heq⟩ := List.mem_map.mp hmem
  cases q with
  | statement q => cases heq
  | clock => cases heq
  | randomUUID => cases heq

theorem mem_lifted_randomUUID {h : List (Call IdempotencyStatement.interface.world)} {id : String}
    (hmem : ⟨.randomUUID, id⟩ ∈ h) : ⟨.randomUUID, id⟩ ∈ h.map lifted :=
  List.mem_map.mpr ⟨_, hmem, rfl⟩

theorem mem_lifted_statement {h : List (Call IdempotencyStatement.interface.world)}
    {q : IdempotencyStatement} {a : q.Answer} (hmem : ⟨.statement q, a⟩ ∈ h) :
    ⟨.statement (.ledger q), a⟩ ∈ h.map lifted :=
  List.mem_map.mpr ⟨_, hmem, rfl⟩

theorem becauseRequest_of_reserveAsks {request : HttpRequest} {identity : IdempotencyIdentity}
    (hreserves : Reserves tenancy request identity)
    (h : List (Call IdempotencyStatement.interface.world))
    (q : WorldRequest IdempotencyStatement.interface) (hasks : reserveAsks config identity h q) :
    becauseRequest config tenancy request (h.map lifted) (liftedRequest q) := by
  cases q with
  | clock => trivial
  | randomUUID => trivial
  | statement q =>
    cases q with
    | create identity' claimToken expiresAt requestHash claimedAt =>
      obtain ⟨rfl, hdrawn⟩ := hasks
      exact ⟨hreserves, mem_lifted_randomUUID hdrawn⟩
    | takeOver identity' claimToken now claimLeaseMs expiresAt claimedAt =>
      obtain ⟨rfl, hdrawn, _⟩ := hasks
      exact ⟨hreserves, mem_lifted_randomUUID hdrawn⟩
    | cacheSet key value ttlMs =>
      obtain ⟨hkey, row, hfound, hcompleted, hvalue⟩ := hasks
      refine ⟨identity, hreserves, hkey, .inl ⟨row.resultJson, hvalue, .inr ⟨row, ?_, hcompleted, rfl⟩⟩⟩
      exact mem_lifted_statement hfound
    | cacheGet key => trivial
    | findByIdentity identity' => trivial
    | complete reservation result completedAt => cases hasks
    | cacheDelete key => trivial
    | findById id => trivial
    | deleteClaim reservation => trivial
    | purgeExpired now => trivial
    | respond identity' result => trivial

/-- A call that is caught adds to the history, and what follows goes by what was there before. -/
theorem accounted_caught {α : Type} {asks : WorldRequest IdempotencyStatement.interface → Prop}
    {because : List (Call HttpStatement.interface.world) →
      WorldRequest HttpStatement.interface → Prop}
    {post : List (Call HttpStatement.interface.world) → α → Prop}
    {h₀ h : List (Call HttpStatement.interface.world)} {rest : HttpProgram α}
    {m : IdempotencyProgram Unit} (hm : Guarded asks (fun _ _ => True) m)
    (himp : ∀ h q, (∀ c ∈ h₀, c ∈ h) → asks q → because h (liftedRequest q))
    (hrejected : ∀ h, because h (.statement .rejected))
    (hrest : ∀ h, (∀ c ∈ h₀, c ∈ h) → Accounted because post h rest)
    (hmore : ∀ c ∈ h₀, c ∈ h) : Accounted because post h (caught (ofLedger m) rest) := by
  have hsnoc : ∀ {h : List (Call HttpStatement.interface.world)} {c}, (∀ c ∈ h₀, c ∈ h) →
      ∀ c' ∈ h₀, c' ∈ h ++ [c] := fun hmore c' hc' => List.mem_append_left _ (hmore c' hc')
  induction m generalizing h with
  | done a => exact hrest h hmore
  | fail e => exact hrest h hmore
  | ask q next ih =>
    obtain ⟨hasks, hnext⟩ := hm
    cases q with
    | statement q =>
      refine ⟨hrejected h, fun (rejected : Bool) => ?_⟩
      cases rejected with
      | true => exact hrest _ (hsnoc hmore)
      | false => exact ⟨himp _ _ (hsnoc hmore) hasks, fun a => ih a (hnext a trivial) (hsnoc (hsnoc hmore))⟩
    | clock =>
      refine ⟨hrejected h, fun (rejected : Bool) => ?_⟩
      cases rejected with
      | true => exact hrest _ (hsnoc hmore)
      | false => exact ⟨himp _ _ (hsnoc hmore) hasks, fun a => ih a (hnext a trivial) (hsnoc (hsnoc hmore))⟩
    | randomUUID =>
      refine ⟨hrejected h, fun (rejected : Bool) => ?_⟩
      cases rejected with
      | true => exact hrest _ (hsnoc hmore)
      | false => exact ⟨himp _ _ (hsnoc hmore) hasks, fun a => ih a (hnext a trivial) (hsnoc (hsnoc hmore))⟩

/-- What a completion asks of the ledger. -/
def completeAsks (config : IdempotencyConfig) (reservation : IdempotencyReservation)
    (response : Response) : WorldRequest IdempotencyStatement.interface → Prop
  | .statement (.complete reservation' result _) =>
    reservation' = reservation ∧ result = response.getD none
  | .statement (.cacheSet key value _) =>
    key = config.buildKey reservation.toIdempotencyIdentity ∧ value = response
  | .statement (.findById _) => True
  | .clock => True
  | _ => False

theorem complete_asks {reservation : IdempotencyReservation} {response : Response} :
    Guarded (completeAsks config reservation response) (fun _ _ => True)
      (complete config reservation response) := by
  refine ⟨trivial, fun completedAt _ => ⟨⟨rfl, rfl⟩, fun count _ => ?_⟩⟩
  show Ensures _ _ _ ((ite _ _ _ : IdempotencyProgram (Option Nat)) >>= _)
  split
  · trivial
  · refine ⟨trivial, fun row _ => ?_⟩
    cases (row : Option IdempotencyRow) with
    | none => trivial
    | some row =>
      refine ⟨trivial, fun now _ => ?_⟩
      show Ensures _ _ _ (ite _ _ _)
      split
      · exact ⟨⟨rfl, rfl⟩, fun _ _ => trivial⟩
      · trivial

/-- What a failure asks of it. -/
def failAsks : WorldRequest IdempotencyStatement.interface → Prop
  | .statement (.deleteClaim _) => True
  | .statement (.cacheDelete _) => True
  | _ => False

theorem fail_asks {reservation : IdempotencyReservation} :
    Guarded failAsks (fun _ _ => True) (fail config reservation) := by
  refine ⟨trivial, fun count _ => ?_⟩
  show Ensures _ _ _ (ite _ _ _)
  split
  · trivial
  · exact ⟨trivial, fun _ _ => trivial⟩

theorem accounted_settled {request : HttpRequest} {reservation : IdempotencyReservation}
    {outcome : Except String Response} {h : List (Call HttpStatement.interface.world)}
    (hreserves : Reserves tenancy request reservation.toIdempotencyIdentity)
    (hdrawn : ⟨.randomUUID, reservation.claimToken⟩ ∈ h)
    (hran : ⟨.statement (.handle request), outcome⟩ ∈ h) :
    Accounted (becauseRequest config tenancy request) (becauseReply config tenancy request) h
      (settled config reservation outcome) := by
  cases outcome with
  | error e =>
    refine @accounted_caught _ _ _ _ h h _ _ fail_asks ?_ (fun _ => trivial)
      (fun h' hmore => hmore _ hran) fun _ hc => hc
    intro h' q hmore hasks
    cases q with
    | clock => trivial
    | randomUUID => trivial
    | statement q =>
      cases q with
      | deleteClaim reservation => trivial
      | cacheDelete key => trivial
      | _ => cases hasks
  | ok response =>
    refine @accounted_caught _ _ _ _ h h _ _ complete_asks ?_ (fun _ => trivial)
      (fun h' hmore => hmore _ hran) fun _ hc => hc
    intro h' q hmore hasks
    cases q with
    | clock => trivial
    | randomUUID => trivial
    | statement q =>
      cases q with
      | complete reservation' result completedAt =>
        obtain ⟨rfl, rfl⟩ := hasks
        exact ⟨hmore _ hdrawn, response, hmore _ hran, rfl⟩
      | cacheSet key value ttlMs =>
        obtain ⟨rfl, rfl⟩ := hasks
        exact ⟨_, hreserves, rfl, .inr ⟨value, hmore _ hran, rfl⟩⟩
      | findById id => trivial
      | _ => cases hasks

theorem found_of_replay {identity : IdempotencyIdentity} {value : ResultJson}
    {h : List (Call IdempotencyStatement.interface.world)}
    (hreplay : reserveReturns config identity h (.replay value)) :
    Found config identity (h.map lifted) value := by
  rcases hreplay with hhit | ⟨row, hrow, hcompleted, hvalue⟩
  · exact .inl (mem_lifted_statement hhit)
  · exact .inr ⟨row, mem_lifted_statement hrow, hcompleted, hvalue⟩

theorem accounted_intercept {request : HttpRequest} :
    Accounted (becauseRequest config tenancy request) (becauseReply config tenancy request) []
      (intercept config tenancy request) := by
  unfold intercept
  split
  · exact fun _ _ hmem => (List.not_mem_nil hmem).elim
  · rename_i key hkey
    have hreserves : Reserves tenancy request (request.identity tenancy key) := ⟨key, hkey, rfl⟩
    have hreserve := accounted_ofLedger (becauseRequest_of_reserveAsks hreserves)
      (@accounted_reserve config (reserveRequest config tenancy request key))
    refine Accounted.bind hreserve ?_
    rintro h' result ⟨h, rfl, hreturns⟩
    cases result with
    | replay value => exact ⟨unhandled_lifted, _, hreserves, found_of_replay hreturns⟩
    | busy => exact unhandled_lifted
    | keyMismatch => exact unhandled_lifted
    | acquired reservation =>
      obtain ⟨hidentity, hdrawn, _⟩ := hreturns
      refine ⟨⟨rfl, unhandled_lifted, ?_⟩, fun outcome => ?_⟩
      · intro request reply hmem
        obtain ⟨⟨q, a⟩, _, heq⟩ := List.mem_map.mp hmem
        cases q with
        | statement q => cases heq
        | clock => cases heq
        | randomUUID => cases heq
      · refine accounted_settled ?_ ?_ (List.mem_append_right _ (List.mem_singleton_self _))
        · rw [hidentity]
          exact hreserves
        · exact List.mem_append_left _ (mem_lifted_randomUUID hdrawn)

theorem accounted_http (e : HttpEntry) :
    Accounted (becauseHttp config tenancy e) (fun _ _ => True) [] (e.program config tenancy) := by
  cases e with
  | received request =>
    exact accounted_intercept.bind fun h reply hreply => ⟨⟨rfl, hreply⟩, fun _ => trivial⟩
  | purgeExpired => exact ⟨trivial, fun now => ⟨trivial, fun _ => trivial⟩⟩

end Accounts

section Writes

variable {db : IdempotencyDb} {choice : IdempotencyChoice} {row : IdempotencyRow}

/-- The rows a statement writes. -/
inductive Writes (db : IdempotencyDb) : IdempotencyStatement → IdempotencyRow → Prop where
  | created (id : String) (identity : IdempotencyIdentity) (claimToken : String)
      (expiresAt : Nat) (requestHash : Option String) (claimedAt : Nat) :
      Writes db (.create identity claimToken expiresAt requestHash claimedAt)
        (.claimed id identity claimToken expiresAt requestHash claimedAt)
  | takenOver (old : IdempotencyRow) (identity : IdempotencyIdentity) (claimToken : String)
      (now claimLeaseMs expiresAt claimedAt : Nat) (hmem : old ∈ db.keys.rows)
      (hlapsed : old.lapsed identity now claimLeaseMs = true) :
      Writes db (.takeOver identity claimToken now claimLeaseMs expiresAt claimedAt)
        (old.takeOver claimToken expiresAt claimedAt)
  | completed (old : IdempotencyRow) (reservation : IdempotencyReservation) (result : ResultJson)
      (completedAt : Nat) (hmem : old ∈ db.keys.rows) (howned : old.ownedBy reservation = true) :
      Writes db (.complete reservation result completedAt) (old.complete result completedAt)

theorem writes_of_mem {q : IdempotencyStatement} (h : row ∈ (q.perform choice db).2.keys.rows) :
    row ∈ db.keys.rows ∨ Writes db q row := by
  cases q with
  | create identity claimToken expiresAt requestHash claimedAt =>
    dsimp only [IdempotencyStatement.perform] at h
    split at h
    · exact .inl h
    · rename_i hfree
      simp only [Bool.or_eq_true, not_or, Bool.not_eq_true, Option.isSome_eq_false_iff,
        Option.isNone_iff_eq_none] at hfree
      have hmem : row ∈ (db.keys.insert _).rows := h
      rcases (Table.mem_insert hfree.1.2).mp hmem with hmem | rfl
      · exact .inl hmem
      · exact .inr (.created choice.id identity claimToken expiresAt requestHash claimedAt)
  | takeOver identity claimToken now claimLeaseMs expiresAt claimedAt =>
    obtain ⟨old, hmem, heq⟩ := (@Table.mem_updateMany _ _ _ db.keys _ _
      (fun row => row.takeOver_identity claimToken expiresAt claimedAt) row).mp h
    split at heq
    · rename_i hlapsed
      rw [← heq]
      exact .inr (.takenOver old identity claimToken now claimLeaseMs expiresAt claimedAt hmem hlapsed)
    · exact .inl (heq ▸ hmem)
  | complete reservation result completedAt =>
    obtain ⟨old, hmem, heq⟩ := (@Table.mem_updateMany _ _ _ db.keys _ _
      (fun row => row.complete_identity result completedAt) row).mp h
    split at heq
    · rename_i howned
      rw [← heq]
      exact .inr (.completed old reservation result completedAt hmem howned)
    · exact .inl (heq ▸ hmem)
  | deleteClaim reservation => exact .inl (List.mem_filter.mp h).1
  | purgeExpired now => exact .inl (List.mem_filter.mp h).1
  | cacheGet key => exact .inl h
  | cacheSet key value ttlMs =>
    dsimp only [IdempotencyStatement.perform] at h
    split at h <;> exact .inl h
  | cacheDelete key =>
    dsimp only [IdempotencyStatement.perform] at h
    split at h <;> exact .inl h
  | findByIdentity identity => exact .inl h
  | findById id => exact .inl h
  | respond identity result => exact .inl h

theorem cached_of_mem {q : IdempotencyStatement} {entry : CacheEntry}
    (h : entry ∈ (q.perform choice db).2.cache) :
    entry ∈ db.cache ∨ ∃ ttlMs, q = .cacheSet entry.key entry.value ttlMs := by
  cases q with
  | cacheSet key value ttlMs =>
    dsimp only [IdempotencyStatement.perform] at h
    split at h
    · rcases List.mem_cons.mp h with rfl | hmem
      · exact .inr ⟨ttlMs, rfl⟩
      · exact .inl (List.mem_filter.mp hmem).1
    · exact .inl h
  | cacheDelete key =>
    dsimp only [IdempotencyStatement.perform] at h
    split at h
    · exact .inl (List.mem_filter.mp h).1
    · exact .inl h
  | create identity claimToken expiresAt requestHash claimedAt =>
    dsimp only [IdempotencyStatement.perform] at h
    split at h <;> exact .inl h
  | takeOver identity claimToken now claimLeaseMs expiresAt claimedAt => exact .inl h
  | complete reservation result completedAt => exact .inl h
  | deleteClaim reservation => exact .inl h
  | purgeExpired now => exact .inl h
  | cacheGet key => exact .inl h
  | findByIdentity identity => exact .inl h
  | findById id => exact .inl h
  | respond identity result => exact .inl h

end Writes

section Provenance

variable {config : IdempotencyConfig} {tenancy : Tenancy}

/-- The handler of a request of the identity returned this result. -/
def Produced (trace : List (Label (httpSystem config tenancy))) (identity : IdempotencyIdentity)
    (value : ResultJson) : Prop :=
  ∃ i request, ∃ response : Response, (entries trace)[i]? = some (.received request) ∧
    Reserves tenancy request identity ∧
      ⟨.statement (.handle request), .ok response⟩ ∈ calls i trace ∧ response.getD none = value

/-- A request of the identity drew this token. -/
def Drawn (trace : List (Label (httpSystem config tenancy))) (identity : IdempotencyIdentity)
    (claimToken : String) : Prop :=
  ∃ i request, (entries trace)[i]? = some (.received request) ∧ Reserves tenancy request identity ∧
    ⟨.randomUUID, claimToken⟩ ∈ calls i trace

/-- Whatever is stored, and whatever was found, some request of its identity produced. -/
structure Traced (trace : List (Label (httpSystem config tenancy))) (db : IdempotencyDb) :
    Prop where
  drawn : ∀ row ∈ db.keys.rows, Drawn trace row.identity row.claimToken
  produced : ∀ row ∈ db.keys.rows, row.status = .completed →
    Produced trace row.identity row.resultJson
  cached : ∀ entry ∈ db.cache, ∀ value, entry.value = some value →
    ∃ identity, entry.key = config.buildKey identity ∧ Produced trace identity value
  found : ∀ i identity, ∀ row : IdempotencyRow,
    ⟨.statement (.ledger (.findByIdentity identity)), some row⟩ ∈ calls i trace →
      row.status = .completed → Produced trace identity row.resultJson
  hit : ∀ i key, ∀ value : ResultJson,
    ⟨.statement (.ledger (.cacheGet key)), some value⟩ ∈ calls i trace →
      ∃ identity, key = config.buildKey identity ∧ Produced trace identity value

variable {ok : Pool (httpSystem config tenancy) → Label (httpSystem config tenancy) → Prop}
variable {P Q R : Pool (httpSystem config tenancy)} {l : Label (httpSystem config tenancy)}
variable {trace : List (Label (httpSystem config tenancy))} {identity : IdempotencyIdentity}

theorem Produced.append {value : ResultJson} (h : Produced trace identity value) :
    Produced (trace ++ [l]) identity value := by
  obtain ⟨i, request, response, hentry, hreserves, hran, hvalue⟩ := h
  exact ⟨i, request, response, entry_append hentry, hreserves, mem_calls_append hran, hvalue⟩

theorem Drawn.append {claimToken : String} (h : Drawn trace identity claimToken) :
    Drawn (trace ++ [l]) identity claimToken := by
  obtain ⟨i, request, hentry, hreserves, hdrawn⟩ := h
  exact ⟨i, request, entry_append hentry, hreserves, mem_calls_append hdrawn⟩

/-- A call is one of those before, or the one served. -/
theorem call_cases {i : Nat} {q : WorldRequest HttpStatement.interface} {a : q.Answer}
    (h : (⟨q, a⟩ : Call HttpStatement.interface.world) ∈ calls i (trace ++ [l])) :
    ⟨q, a⟩ ∈ calls i trace ∨ ∃ f, l = .served i q a f := by
  obtain ⟨f, hmem⟩ := mem_calls.mp h
  rcases List.mem_append.mp hmem with hmem | hmem
  · exact .inl (mem_calls.mpr ⟨f, hmem⟩)
  · exact .inr ⟨f, (List.mem_singleton.mp hmem).symm⟩

/-- What a statement of the ledger finds was stored before. -/
theorem Traced.of_same (h : Traced trace Q.store.db)
    (hstep : Step (httpSystem config tenancy) Q l R) :
    (∀ i identity, ∀ row : IdempotencyRow,
      ⟨.statement (.ledger (.findByIdentity identity)), some row⟩ ∈ calls i (trace ++ [l]) →
        row.status = .completed → Produced (trace ++ [l]) identity row.resultJson) ∧
    ∀ i key, ∀ value : ResultJson,
      ⟨.statement (.ledger (.cacheGet key)), some value⟩ ∈ calls i (trace ++ [l]) →
        ∃ identity, key = config.buildKey identity ∧ Produced (trace ++ [l]) identity value := by
  constructor
  · intro i identity row hcall hcompleted
    rcases call_cases hcall with hcall | ⟨f, rfl⟩
    · exact (h.found i identity row hcall hcompleted).append
    · obtain ⟨choice, db, hperform, _⟩ := serves_statement.mp hstep.answered
      have hfound : Q.store.db.keys.get? identity = some row :=
        congrArg Prod.fst (Option.some.inj hperform)
      obtain rfl : row.identity = identity := Table.key_of_get? hfound
      exact (h.produced row (Table.mem_of_get? hfound) hcompleted).append
  · intro i key value hcall
    rcases call_cases hcall with hcall | ⟨f, rfl⟩
    · obtain ⟨identity, hkey, hproduced⟩ := h.hit i key value hcall
      exact ⟨identity, hkey, hproduced.append⟩
    · obtain ⟨choice, db, hperform, _⟩ := serves_statement.mp hstep.answered
      have hcached : Q.store.db.cached choice.ledger.redis key = some value :=
        congrArg Prod.fst (Option.some.inj hperform)
      obtain ⟨now, _, hentry⟩ := Option.bind_eq_some_iff.mp hcached
      obtain ⟨entry, hfind, hvalue⟩ := Option.bind_eq_some_iff.mp hentry
      have hkey : entry.key = key := by
        have hpasses := List.find?_some hfind
        simp only [Bool.and_eq_true, decide_eq_true_eq] at hpasses
        exact hpasses.1
      obtain ⟨identity, hsame, hproduced⟩ :=
        h.cached entry (List.mem_of_find?_eq_some hfind) value hvalue
      exact ⟨identity, hkey.symm.trans hsame, hproduced.append⟩

/-- The statements of the ledger keep it so. -/
theorem Traced.statement {i : Nat} {q : IdempotencyStatement} {a : q.Answer}
    {f : Front HttpStatement.interface.world} (h : Traced trace Q.store.db) (hrun : Run ok P trace Q)
    (hP : P.threads = [])
    (hstep : Step (httpSystem config tenancy) Q (.served i (.statement (.ledger q)) a f) R) :
    Traced (trace ++ [(.served i (.statement (.ledger q)) a f : Label (httpSystem config tenancy))])
      R.store.db := by
  obtain ⟨hfound, hhit⟩ := h.of_same hstep
  obtain ⟨choice, db, hperform, hstore⟩ := serves_statement.mp hstep.answered
  have hdb : R.store.db = (q.perform choice.ledger Q.store.db).2 := by
    rw [hstore]
    exact (congrArg Prod.snd (Option.some.inj hperform)).symm
  obtain ⟨e, hentry, hbecause⟩ := because_of_entry accounted_http hrun hP hstep
  have hcall : ∀ {c}, c ∈ calls i trace → c ∈ calls i
      (trace ++ [(.served i (.statement (.ledger q)) a f : Label (httpSystem config tenancy))]) :=
    fun hc => mem_calls_append hc
  refine ⟨?_, ?_, ?_, hfound, hhit⟩
  · intro row hrow
    rw [hdb] at hrow
    rcases writes_of_mem hrow with hold | hwrites
    · exact (h.drawn row hold).append
    · cases hwrites with
      | created id identity claimToken expiresAt requestHash claimedAt =>
        cases e with
        | purgeExpired => cases hbecause
        | received request =>
          exact ⟨i, request, entry_append hentry, hbecause.1, hcall hbecause.2⟩
      | takenOver old identity claimToken now claimLeaseMs expiresAt claimedAt hmem hlapsed =>
        cases e with
        | purgeExpired => cases hbecause
        | received request =>
          obtain rfl := (IdempotencyRow.lapsed_eq_true hlapsed).1
          exact ⟨i, request, entry_append hentry, hbecause.1, hcall hbecause.2⟩
      | completed old reservation result completedAt hmem howned => exact (h.drawn old hmem).append
  · intro row hrow hcompleted
    rw [hdb] at hrow
    rcases writes_of_mem hrow with hold | hwrites
    · exact (h.produced row hold hcompleted).append
    · cases hwrites with
      | created id identity claimToken expiresAt requestHash claimedAt => cases hcompleted
      | takenOver old identity claimToken now claimLeaseMs expiresAt claimedAt hmem hlapsed =>
        have hstatus := (IdempotencyRow.lapsed_eq_true hlapsed).2.1
        cases hstatus.symm.trans hcompleted
      | completed old reservation result completedAt hmem howned =>
        cases e with
        | purgeExpired => cases hbecause
        | received request =>
          -- the token of the row was drawn by the call that completes it
          obtain ⟨hdrawn, response, hran, hresult⟩ := hbecause
          obtain ⟨j, request', hentry', hreserves', hdrawn'⟩ := h.drawn old hmem
          rw [(IdempotencyRow.ownedBy_eq_true howned).1] at hdrawn'
          obtain ⟨g, hg⟩ := mem_calls.mp hdrawn
          obtain ⟨g', hg'⟩ := mem_calls.mp hdrawn'
          obtain rfl := drawn_once hrun hg hg'
          rw [hentry] at hentry'
          cases hentry'
          exact ⟨i, request, response, entry_append hentry, hreserves', hcall hran, hresult⟩
  · intro entry hentry' value hvalue
    rw [hdb] at hentry'
    rcases cached_of_mem hentry' with hold | ⟨ttlMs, rfl⟩
    · obtain ⟨identity, hkey, hproduced⟩ := h.cached entry hold value hvalue
      exact ⟨identity, hkey, hproduced.append⟩
    · cases e with
      | purgeExpired => cases hbecause
      | received request =>
        obtain ⟨identity, hreserves, hkey, hfrom⟩ := hbecause
        rcases hfrom with ⟨result, heq, hfoundHere⟩ | ⟨response, hran, heq⟩
        · rw [hvalue] at heq
          cases heq
          rcases hfoundHere with hcached | ⟨row, hrow, hcompleted, rfl⟩
          · obtain ⟨identity', hsame, hproduced⟩ := h.hit i _ value hcached
            exact ⟨identity', hkey.trans hsame, hproduced.append⟩
          · exact ⟨identity, hkey, (h.found i identity row hrow hcompleted).append⟩
        · rw [hvalue] at heq
          refine ⟨identity, hkey, i, request, response, entry_append hentry, hreserves, hcall hran, ?_⟩
          rw [← heq]
          rfl

theorem Traced.same (h : Traced trace Q.store.db) (hstep : Step (httpSystem config tenancy) Q l R)
    (hdb : R.store.db = Q.store.db) : Traced (trace ++ [l]) R.store.db := by
  obtain ⟨hfound, hhit⟩ := h.of_same hstep
  rw [hdb]
  refine ⟨fun row hrow => (h.drawn row hrow).append,
    fun row hrow hcompleted => (h.produced row hrow hcompleted).append,
    fun entry hentry value hvalue => ?_, hfound, hhit⟩
  obtain ⟨identity, hkey, hproduced⟩ := h.cached entry hentry value hvalue
  exact ⟨identity, hkey, hproduced.append⟩

theorem traced_of_run {now : Nat} (hrun : Run ok (emptyHttp config tenancy now) trace Q) :
    Traced trace Q.store.db := by
  induction hrun with
  | nil =>
    refine ⟨?_, ?_, ?_, ?_, ?_⟩
    · intro row hrow
      cases hrow
    · intro row hrow
      cases hrow
    · intro entry hentry
      cases hentry
    · intro i identity row hcall
      cases hcall
    · intro i key value hcall
      cases hcall
  | @snoc trace Q R l hrun _ hstep ih =>
    rcases db_of_step hstep with hsame | ⟨i, q, a, f, choice, rfl, hperform⟩
    · exact ih.same hstep hsame
    · cases q with
      | ledger q => exact ih.statement hrun rfl hstep
      | handle request => exact ih.same hstep (congrArg Prod.snd (Option.some.inj hperform)).symm
      | reply request reply => exact ih.same hstep (congrArg Prod.snd (Option.some.inj hperform)).symm
      | rejected => exact ih.same hstep (congrArg Prod.snd (Option.some.inj hperform)).symm

end Provenance

section Answers

variable {config : IdempotencyConfig} {tenancy : Tenancy}

theorem toList_buildKey (identity : IdempotencyIdentity) :
    (config.buildKey identity).toList = config.redisPrefix.toList ++ ':' :: (identity.tenantId.toList
      ++ ':' :: (identity.companyId.toList ++ ':' :: (identity.scope.toList ++ ':' ::
        identity.key.toList))) := by
  have hjoined : config.buildKey identity = config.redisPrefix ++ ":" ++ identity.tenantId ++ ":" ++
    identity.companyId ++ ":" ++ identity.scope ++ ":" ++ identity.key := rfl
  rw [hjoined]
  simp [String.toList_append, List.append_assoc]

theorem scope_no_colon (route : Route) : ':' ∉ route.scope.toList := by
  cases route <;> decide

theorem scope_injective {route route' : Route} (h : route.scope = route'.scope) : route = route' := by
  revert h
  cases route <;> cases route' <;> decide

/-- A text is split at its first colon in one way. -/
theorem split_at_first {c : Char} {xs ys us vs : List Char} (hxs : c ∉ xs) (hus : c ∉ us)
    (h : xs ++ c :: ys = us ++ c :: vs) : xs = us ∧ ys = vs := by
  induction xs generalizing us with
  | nil =>
    cases us with
    | nil => exact ⟨rfl, (List.cons.inj h).2⟩
    | cons u us =>
      obtain ⟨rfl, _⟩ := List.cons.inj h
      exact (hus (List.mem_cons_self ..)).elim
  | cons x xs ih =>
    cases us with
    | nil =>
      obtain ⟨rfl, _⟩ := List.cons.inj h
      exact (hxs (List.mem_cons_self ..)).elim
    | cons u us =>
      obtain ⟨rfl, htail⟩ := List.cons.inj h
      obtain ⟨rfl, rfl⟩ := ih (fun hmem => hxs (List.mem_cons_of_mem _ hmem))
        (fun hmem => hus (List.mem_cons_of_mem _ hmem)) htail
      exact ⟨rfl, rfl⟩

/-- Within a tenancy, a key of the cache is that of one identity. -/
theorem reserved_of_buildKey {request request' : HttpRequest}
    {identity identity' : IdempotencyIdentity} (h : Reserves tenancy request identity)
    (h' : Reserves tenancy request' identity')
    (hkey : config.buildKey identity = config.buildKey identity') : identity = identity' := by
  obtain ⟨key, _, rfl⟩ := h
  obtain ⟨key', _, rfl⟩ := h'
  have hlists := congrArg String.toList hkey
  rw [toList_buildKey, toList_buildKey] at hlists
  have htail := List.append_cancel_left hlists
  obtain ⟨_, htail⟩ := List.cons.inj htail
  obtain ⟨_, htail⟩ := List.cons.inj (List.append_cancel_left htail)
  obtain ⟨_, htail⟩ := List.cons.inj (List.append_cancel_left htail)
  obtain ⟨hscope, hkeys⟩ := split_at_first (scope_no_colon request.route)
    (scope_no_colon request'.route) htail
  have hscopes : request.route.scope = request'.route.scope := String.toList_inj.mp hscope
  have hsliced : sliceKey (trim key) = sliceKey (trim key') := String.toList_inj.mp hkeys
  simp only [HttpRequest.identity, hscopes, hsliced]

/-- The key as it was sent, without the blanks around it. -/
def HttpRequest.fullKey? (request : HttpRequest) : Option String := request.key?.map trim

/-- A full key that is sent again on its route is reserved under the same identity. -/
theorem reserves_of_fullKey (tenancy : Tenancy) {request request' : HttpRequest} {key : String}
    (hroute : request.route = request'.route) (h : request.fullKey? = some key)
    (h' : request'.fullKey? = some key) :
    ∃ identity, Reserves tenancy request identity ∧ Reserves tenancy request' identity := by
  obtain ⟨sent, hsent, htrim⟩ := Option.map_eq_some_iff.mp h
  obtain ⟨sent', hsent', htrim'⟩ := Option.map_eq_some_iff.mp h'
  refine ⟨request.identity tenancy sent, ⟨sent, hsent, rfl⟩, sent', hsent', ?_⟩
  simp only [HttpRequest.identity, hroute, htrim, htrim']

/-- The same route, path parameters, body and full key. -/
def Same (request request' : HttpRequest) : Prop :=
  request.route = request'.route ∧ request.params = request'.params ∧
    request.body = request'.body ∧ request.fullKey? = request'.fullKey?

/-- No two of the requests that differ reserve under one identity. -/
def Distinguished (tenancy : Tenancy) (requests : List HttpRequest) : Prop :=
  ∀ request ∈ requests, ∀ request' ∈ requests, ∀ identity, Reserves tenancy request identity →
    Reserves tenancy request' identity → Same request request'

def HttpEntry.request? : HttpEntry → Option HttpRequest
  | received request => some request
  | purgeExpired => none

/-- The requests that were sent. -/
def httpRequests (trace : List (Label (httpSystem config tenancy))) : List HttpRequest :=
  (entries trace).filterMap HttpEntry.request?

def isHandle (call : Call HttpStatement.interface.world) : Bool :=
  match call with
  | ⟨.statement (.handle _), _⟩ => true
  | _ => false

/-- How often a handler ran. -/
def handled (h : List (Call HttpStatement.interface.world)) : Nat := h.countP isHandle

/-- How often the handler of a request that is answered so runs. -/
def HttpReply.runs : HttpReply → Nat
  | stored _ => 0
  | refused _ _ => 0
  | ran _ => 1

def HttpReply.isRefusal : HttpReply → Bool
  | stored _ => false
  | refused _ _ => true
  | ran _ => false

/-- What a request was answered. -/
def Replied (trace : List (Label (httpSystem config tenancy))) (i : Nat) (request : HttpRequest)
    (reply : HttpReply) : Prop :=
  (⟨.statement (.reply request reply), ()⟩ : Call HttpStatement.interface.world) ∈ calls i trace

/-- A stored result is of the same request, a key that is used again for another request of its
route is refused, and the handler runs once for a request it answers. -/
structure Proper (trace : List (Label (httpSystem config tenancy))) : Prop where
  own : ∀ i request value, Replied trace i request (.stored value) →
    ∃ j request', (entries trace)[j]? = some (.received request') ∧ Same request request' ∧
      ∃ response : Response,
        (⟨.statement (.handle request'), .ok response⟩ : Call HttpStatement.interface.world) ∈
          calls j trace ∧ response.getD none = value
  refused : ∀ i j request request' reply reply', ∀ key, Replied trace i request reply →
    Replied trace j request' reply' → request.route = request'.route →
      request.fullKey? = some key → request'.fullKey? = some key → ¬ Same request request' →
        reply.isRefusal = true ∨ reply'.isRefusal = true
  once : ∀ i request reply, Replied trace i request reply → handled (calls i trace) = reply.runs

theorem handled_append {h : List (Call HttpStatement.interface.world)}
    {call : Call HttpStatement.interface.world} :
    handled (h ++ [call]) = handled h + if isHandle call then 1 else 0 := by
  simp [handled, List.countP_append, List.countP_singleton]

theorem handled_of_unhandled {h : List (Call HttpStatement.interface.world)} (hnone : Unhandled h) :
    handled h = 0 := by
  refine List.countP_eq_zero.mpr fun call hmem hhandle => ?_
  unfold isHandle at hhandle
  split at hhandle
  · exact hnone _ _ hmem
  · cases hhandle

theorem handled_pos {h : List (Call HttpStatement.interface.world)} {request : HttpRequest}
    {outcome : Except String Response} (hmem : ⟨.statement (.handle request), outcome⟩ ∈ h) :
    0 < handled h :=
  List.countP_pos_iff.mpr ⟨_, hmem, rfl⟩

/-- A call of a request runs the handler once at the most, and as often as its reply says. -/
def HandledOnce (h : List (Call HttpStatement.interface.world)) : Prop :=
  handled h ≤ 1 ∧ ∀ request reply, ⟨.statement (.reply request reply), ()⟩ ∈ h →
    handled h = reply.runs

theorem HandledOnce.other {h : List (Call HttpStatement.interface.world)}
    {call : Call HttpStatement.interface.world} (hone : HandledOnce h) (hhandle : isHandle call = false)
    (hreply : ∀ request reply, call ≠ ⟨.statement (.reply request reply), ()⟩) :
    HandledOnce (h ++ [call]) := by
  have hsame : handled (h ++ [call]) = handled h := by
    rw [handled_append, hhandle]
    rfl
  refine ⟨hsame ▸ hone.1, fun request reply hmem => ?_⟩
  rcases List.mem_append.mp hmem with hmem | hmem
  · exact hsame.trans (hone.2 request reply hmem)
  · exact (hreply request reply (List.mem_singleton.mp hmem).symm).elim

theorem HandledOnce.snoc {e : HttpEntry} {h : List (Call HttpStatement.interface.world)}
    {q : WorldRequest HttpStatement.interface} {a : q.Answer} (hone : HandledOnce h)
    (hbecause : becauseHttp config tenancy e h q) : HandledOnce (h ++ [⟨q, a⟩]) := by
  cases q with
  | clock => exact hone.other rfl fun _ _ heq => by cases heq
  | randomUUID => exact hone.other rfl fun _ _ heq => by cases heq
  | statement q =>
    cases q with
    | ledger q => exact hone.other rfl fun _ _ heq => by cases heq
    | rejected => exact hone.other rfl fun _ _ heq => by cases heq
    | handle request =>
      cases e with
      | purgeExpired => cases hbecause
      | received request' =>
        obtain ⟨_, hnone, hnoReply⟩ := hbecause
        have hcount : handled (h ++ [⟨.statement (.handle request), a⟩]) = 1 := by
          rw [handled_append, handled_of_unhandled hnone]
          rfl
        refine ⟨Nat.le_of_eq hcount, fun request'' reply hmem => ?_⟩
        rcases List.mem_append.mp hmem with hmem | hmem
        · exact (hnoReply _ _ hmem).elim
        · cases List.mem_singleton.mp hmem
    | reply request reply =>
      cases e with
      | purgeExpired => cases hbecause
      | received request' =>
        obtain ⟨_, hreply⟩ := hbecause
        have hsame : handled (h ++ [⟨.statement (.reply request reply), a⟩]) = handled h := by
          rw [handled_append]
          rfl
        have hruns : handled h = reply.runs := by
          cases reply with
          | stored value => exact handled_of_unhandled hreply.1
          | refused statusCode message => exact handled_of_unhandled hreply
          | ran outcome => exact Nat.le_antisymm hone.1 (handled_pos hreply)
        refine ⟨hsame ▸ hone.1, fun request'' reply' hmem => hsame.trans ?_⟩
        rcases List.mem_append.mp hmem with hmem | hmem
        · exact hone.2 _ _ hmem
        · cases List.mem_singleton.mp hmem
          exact hruns

variable {ok : Pool (httpSystem config tenancy) → Label (httpSystem config tenancy) → Prop}
variable {Q : Pool (httpSystem config tenancy)} {trace : List (Label (httpSystem config tenancy))}
variable {now : Nat}

theorem handledOnce_of_run (hrun : Run ok (emptyHttp config tenancy now) trace Q) (i : Nat) :
    HandledOnce (calls i trace) :=
  calls_of_run accounted_http
    ⟨Nat.zero_le _, fun _ _ hmem => (List.not_mem_nil hmem).elim⟩
    (fun _ _ _ _ hone hbecause => hone.snoc hbecause) hrun rfl i

/-- A reply of a thread is that of its own request. -/
theorem because_of_replied (hrun : Run ok (emptyHttp config tenancy now) trace Q) {i : Nat}
    {request : HttpRequest} {reply : HttpReply} (h : Replied trace i request reply) :
    (entries trace)[i]? = some (.received request) ∧
      ∃ earlier, (∀ call ∈ earlier, call ∈ calls i trace) ∧
        becauseReply config tenancy request earlier reply := by
  obtain ⟨f, hmem⟩ := mem_calls.mp h
  obtain ⟨e, hentry, earlier, hearlier, hbecause⟩ := because_of_call accounted_http hrun rfl hmem
  cases e with
  | purgeExpired => cases hbecause
  | received request' =>
    obtain ⟨rfl, hreply⟩ := hbecause
    exact ⟨hentry, earlier, hearlier, hreply⟩

theorem mem_httpRequests {i : Nat} {request : HttpRequest}
    (h : (entries trace)[i]? = some (.received request)) : request ∈ httpRequests trace :=
  List.mem_filterMap.mpr ⟨_, List.mem_of_getElem? h, rfl⟩

theorem proper_of_distinguished (hrun : Run ok (emptyHttp config tenancy now) trace Q)
    (hdistinguished : Distinguished tenancy (httpRequests trace)) : Proper trace := by
  refine ⟨?_, ?_, ?_⟩
  · intro i request value hreplied
    obtain ⟨hentry, earlier, hearlier, _, identity, hreserves, hfound⟩ :=
      because_of_replied hrun hreplied
    have htraced := traced_of_run hrun
    have hproduced : Produced trace identity value := by
      rcases hfound with hhit | ⟨row, hrow, hcompleted, rfl⟩
      · obtain ⟨identity', hkey, hproduced⟩ := htraced.hit i _ value (hearlier _ hhit)
        obtain ⟨j, request', _, _, hreserves', _⟩ := id hproduced
        rw [reserved_of_buildKey hreserves hreserves' hkey]
        exact hproduced
      · exact htraced.found i identity row (hearlier _ hrow) hcompleted
    obtain ⟨j, request', response, hentry', hreserves', hran, hvalue⟩ := hproduced
    exact ⟨j, request', hentry', hdistinguished _ (mem_httpRequests hentry) _
      (mem_httpRequests hentry') identity hreserves hreserves', response, hran, hvalue⟩
  · intro i j request request' reply reply' key hreplied hreplied' hroute hfull hfull' hdiffer
    obtain ⟨hentry, _⟩ := because_of_replied hrun hreplied
    obtain ⟨hentry', _⟩ := because_of_replied hrun hreplied'
    obtain ⟨identity, hreserves, hreserves'⟩ := reserves_of_fullKey tenancy hroute hfull hfull'
    exact (hdiffer (hdistinguished _ (mem_httpRequests hentry) _ (mem_httpRequests hentry')
      identity hreserves hreserves')).elim
  · intro i request reply hreplied
    exact (handledOnce_of_run hrun i).2 request reply hreplied

end Answers

section Shared

variable {config : IdempotencyConfig} {tenancy : Tenancy}

/-- Redis is down, a new row is `r`, and the handler returns one. -/
def choice₁ : HttpChoice := ⟨⟨none, "r", false⟩, .ok (some (some "1")), false⟩

def answered₁ : WorldChoice HttpChoice := .statement choice₁

/-- A request that claims its identity, runs its handler and completes its row. -/
def completing (now : Nat) : List (WorldChoice HttpChoice) :=
  [.clock now, answered₁, .randomUUID "u", .clock now, answered₁, answered₁, answered₁, .clock now,
    answered₁, answered₁]

/-- A request that finds a completed row. -/
def replaying (now ttlMs : Nat) : List (WorldChoice HttpChoice) :=
  [.clock now, answered₁, .randomUUID "v", .clock now, answered₁, answered₁,
    .clock (now + ttlMs)]

/-- The row the first request leaves. -/
def row₁ (config : IdempotencyConfig) (identity : IdempotencyIdentity) (now : Nat) :
    IdempotencyRow :=
  (IdempotencyRow.claimed "r" identity "u" (now + config.ttlMs) none now).complete (some "1") now

theorem create_first {identity : IdempotencyIdentity} {expiresAt now : Nat}
    (hfits : identity.fits none = true) :
    IdempotencyStatement.perform (.create identity "u" expiresAt none now) choice₁.ledger
        ⟨Table.empty, []⟩ =
      (some (.claimed "r" identity "u" expiresAt none now),
        ⟨Table.empty.insert (.claimed "r" identity "u" expiresAt none now), []⟩) := by
  dsimp only [IdempotencyStatement.perform]
  rw [if_neg]
  · rfl
  · simp [choice₁, hfits, Table.empty, Table.get?]

theorem get?_first (row : IdempotencyRow) :
    ((Table.empty : Table IdempotencyRow.identity).insert row).get? row.identity = some row := by
  rw [Table.get?_insert rfl]
  exact if_pos rfl

theorem program_of_key {request : HttpRequest} {key : String} (hkey : request.key? = some key) :
    HttpEntry.program config tenancy (.received request) =
      (ofLedger (reserve config (reserveRequest config tenancy request key)) >>=
        resolved config request key) >>= fun reply =>
          .ask (.statement (.reply request reply)) .done := by
  show intercept config tenancy request >>= _ = _
  unfold intercept
  simp only [hkey]

/-- A statement of the ledger, answered as the ledger does. -/
theorem serve_ledger {q : IdempotencyStatement} {w : World IdempotencyDb}
    {r : q.Answer × IdempotencyDb} (hperform : q.perform choice₁.ledger w.db = r) :
    (httpSystem config tenancy).serve (.statement (.ledger q)) answered₁ w =
      some (r.1, { w with db := r.2 }) := by
  subst hperform
  rfl

theorem proceed_completing {request : HttpRequest} {key : String} {now : Nat}
    (hkey : request.key? = some key) (hfits : (request.identity tenancy key).fits none = true) :
    ∃ p w, @proceed (httpSystem config tenancy) _
        (HttpEntry.program config tenancy (.received request)) (completing now)
        ⟨⟨Table.empty, []⟩, now, []⟩ = some (p, w) ∧ w.now = now ∧ w.issued = ["u"] ∧
      w.db.keys.get? (request.identity tenancy key) =
        some (row₁ config (request.identity tenancy key) now) := by
  let claimed := IdempotencyRow.claimed "r" (request.identity tenancy key) "u" (now + config.ttlMs)
    none now
  have hcreate := @serve_ledger config tenancy _ ⟨⟨Table.empty, []⟩, now, ["u"]⟩ _
    (@create_first (request.identity tenancy key) (now + config.ttlMs) now hfits)
  rw [program_of_key hkey, reserve_eq]
  refine ⟨_, _, proceed_cons (if_pos (Nat.le_refl _)) (proceed_cons rfl (proceed_cons rfl
    (proceed_cons (if_pos (Nat.le_refl _)) (proceed_cons hcreate (proceed_cons rfl (proceed_cons rfl
      (proceed_cons (if_pos (Nat.le_refl _)) (proceed_cons rfl (proceed_cons rfl rfl))))))))),
    ?_, ?_, ?_⟩
  · rfl
  · rfl
  · have hget := @get?_complete ⟨Table.empty.insert claimed, []⟩ choice₁.ledger
      (request.identity tenancy key) ⟨request.identity tenancy key, "r", "u", 1⟩ (some "1") now
    refine hget.trans ?_
    have hinserted := get?_first claimed
    have hidentity : claimed.identity = request.identity tenancy key := rfl
    rw [hidentity] at hinserted
    rw [hinserted, Option.map_some, if_pos]
    · rfl
    · simp [IdempotencyRow.ownedBy, claimed, IdempotencyRow.claimed]

theorem proceed_replaying {request : HttpRequest} {key : String} {w : World IdempotencyDb}
    (hkey : request.key? = some key) (hissued : w.issued = ["u"])
    (hrow : w.db.keys.get? (request.identity tenancy key) =
      some (row₁ config (request.identity tenancy key) w.now)) :
    ∃ w', @proceed (httpSystem config tenancy) _
        (HttpEntry.program config tenancy (.received request))
        (replaying w.now config.ttlMs) w =
      some (.ask (.statement (.reply request (.stored (some "1")))) .done, w') := by
  obtain ⟨db, now, issued⟩ := w
  obtain rfl : issued = ["u"] := hissued
  have htaken := @serve_ledger config tenancy _ ⟨db, now, ["v", "u"]⟩ _
    (@perform_create_taken db (request.identity tenancy key) "v" (now + config.ttlMs) now none
      choice₁.ledger _ hrow)
  have hfound := @serve_ledger config tenancy (.findByIdentity (request.identity tenancy key))
    ⟨db, now, ["v", "u"]⟩
    (some (row₁ config (request.identity tenancy key) now), db) (Prod.ext hrow rfl)
  have hcached := @serve_ledger config tenancy
    (.cacheGet (config.buildKey (request.identity tenancy key))) ⟨db, now, ["u"]⟩ (none, db) rfl
  rw [program_of_key hkey, reserve_eq]
  refine ⟨⟨db, now + config.ttlMs, ["v", "u"]⟩, proceed_cons (if_pos (Nat.le_refl _)) (proceed_cons hcached (proceed_cons rfl
    (proceed_cons (if_pos (Nat.le_refl _)) (proceed_cons htaken (proceed_cons hfound
      (proceed_cons (if_pos (Nat.le_add_right _ _)) ?_))))))⟩
  -- the row has expired by then, and is replayed without being cached
  have hexpired : ¬ now + config.ttlMs < now + config.ttlMs := Nat.lt_irrefl _
  rw [proceed_nil]
  show some ((ofLedger (ite (now + config.ttlMs < now + config.ttlMs) _ _) >>=
    resolved config request key) >>= _, _) = _
  rw [if_neg hexpired]
  rfl

theorem fits_of_key {request : HttpRequest} {key : String} :
    (request.identity tenancy key).fits none = true := by
  have hscope : request.route.scope.length ≤ 200 := by
    cases request.route <;> decide
  have hkey : (sliceKey (trim key)).length ≤ 255 := by
    simp [sliceKey, Nat.min_le_left]
  have hwide : (sliceKey (trim key)).length ≤ 500 := by omega
  simp only [IdempotencyIdentity.fits, HttpRequest.identity, Option.all_none, Bool.and_true,
    Bool.and_eq_true]
  exact ⟨⟨⟨decide_eq_true tenancy.tenantFits, decide_eq_true tenancy.companyFits⟩,
    decide_eq_true hscope⟩, decide_eq_true hwide⟩

theorem Same.refl (request : HttpRequest) : Same request request := ⟨rfl, rfl, rfl, rfl⟩

theorem Same.symm {request request' : HttpRequest} (h : Same request request') :
    Same request' request :=
  ⟨h.1.symm, h.2.1.symm, h.2.2.1.symm, h.2.2.2.symm⟩

/-- Of two requests that reserve under one identity, the second may be sent the result of the
first. -/
theorem run_shares {requests : List HttpRequest} {first second : HttpRequest} {key key' : String}
    {a b : Nat} (now : Nat) (ha : requests[a]? = some first) (hb : requests[b]? = some second)
    (hab : a ≠ b) (hkey : first.key? = some key) (hkey' : second.key? = some key')
    (hidentity : first.identity tenancy key = second.identity tenancy key') :
    ∃ (trace : List (Label (httpSystem config tenancy))) (Q : Pool (httpSystem config tenancy)),
      Run (fun _ _ => True) (emptyHttp config tenancy now) trace Q ∧
        entries trace = requests.map .received ∧ Replied trace b second (.stored (some "1")) ∧
          ∀ j q x f, .served j q x f ∈ trace → j = a ∨ j = b := by
  let es := requests.map HttpEntry.received
  let threads := es.map (HttpEntry.program config tenancy)
  have hstarts := @run_of_starts (httpSystem config tenancy) es (emptyHttp config tenancy now)
  have hthread : ∀ {i : Nat} {request}, requests[i]? = some request →
      threads[i]? = some (HttpEntry.program config tenancy (.received request)) := by
    intro i request hi
    simp only [threads, es, List.getElem?_map, hi, Option.map_some]
  obtain ⟨p, w, hcompleting, hnow, hissued, hrow⟩ :=
    @proceed_completing config tenancy first key now hkey fits_of_key
  rw [← hnow, hidentity] at hrow
  obtain ⟨w', hreplaying⟩ := proceed_replaying hkey' hissued hrow
  obtain ⟨trace, hserved, hrun⟩ := run_of_proceed (hthread ha) hcompleting
  have hnext : (threads.set a p)[b]? =
      some (HttpEntry.program config tenancy (.received second)) := by
    rw [List.getElem?_set_ne hab]
    exact hthread hb
  obtain ⟨trace', hserved', hrun'⟩ := run_of_proceed hnext hreplaying
  have hlast : ((threads.set a p).set b (.ask (.statement (.reply second (.stored (some "1"))))
      .done))[b]? = some (.ask (.statement (.reply second (.stored (some "1")))) .done) := by
    obtain ⟨hlt, _⟩ := List.getElem?_eq_some_iff.mp hnext
    exact List.getElem?_set_self hlt
  have hreply := @Step.served (httpSystem config tenancy) w' w' _ b _ _ () hlast ⟨answered₁, rfl⟩
  refine ⟨_, _, ((hstarts.append hrun).append hrun').snoc trivial hreply, ?_, ?_, ?_⟩
  · have hnone : ∀ {i : Nat} {trace : List (Label (httpSystem config tenancy))},
        (∀ l ∈ trace, ∃ q a f, l = .served i q a f) → entries trace = [] := by
      intro i trace hserved
      refine List.filterMap_eq_nil_iff.mpr fun l hl => ?_
      obtain ⟨q, a, f, rfl⟩ := hserved l hl
      rfl
    rw [entries_served, entries_append, entries_append, entries_starts, hnone hserved,
      hnone hserved', List.append_nil, List.append_nil]
  · exact mem_calls.mpr ⟨_, List.mem_append_right _ (List.mem_singleton_self _)⟩
  · intro j q x f hmem
    rcases List.mem_append.mp hmem with hmem | hmem
    · rcases List.mem_append.mp hmem with hmem | hmem
      · rcases List.mem_append.mp hmem with hmem | hmem
        · exact (served_not_mem_starts hmem).elim
        · obtain ⟨_, _, _, heq⟩ := hserved _ hmem
          cases heq
          exact .inl rfl
      · obtain ⟨_, _, _, heq⟩ := hserved' _ hmem
        cases heq
        exact .inr rfl
    · cases List.mem_singleton.mp hmem
      exact .inr rfl

theorem shares_of_undistinguished {requests : List HttpRequest} (now : Nat)
    (h : ¬ Distinguished tenancy requests) :
    ∃ (trace : List (Label (httpSystem config tenancy))) (Q : Pool (httpSystem config tenancy)),
      Run (fun _ _ => True) (emptyHttp config tenancy now) trace Q ∧ httpRequests trace = requests ∧
        ¬ Proper trace := by
  simp only [Distinguished, not_forall] at h
  obtain ⟨first, hfirst, second, hsecond, identity, ⟨key, hkey, rfl⟩, ⟨key', hkey', hidentity⟩,
    hdiffer⟩ := h
  obtain ⟨a, ha⟩ := List.mem_iff_getElem?.mp hfirst
  obtain ⟨b, hb⟩ := List.mem_iff_getElem?.mp hsecond
  have hab : a ≠ b := by
    rintro rfl
    rw [ha] at hb
    cases hb
    exact hdiffer (Same.refl first)
  obtain ⟨trace, Q, hrun, hentries, hreplied, hlabels⟩ :=
    @run_shares config tenancy _ _ _ _ _ _ _ now ha hb hab hkey hkey' hidentity
  refine ⟨trace, Q, hrun, ?_, fun hproper => ?_⟩
  · rw [httpRequests, hentries, List.filterMap_map]
    exact List.filterMap_some
  · -- the handler that returned the result ran for the first request or for the second itself
    obtain ⟨j, request, hentry, hsame, response, hran, _⟩ := hproper.own b second _ hreplied
    obtain ⟨f, hmem⟩ := mem_calls.mp hran
    rcases hlabels j _ _ f hmem with rfl | rfl
    · rw [hentries, List.getElem?_map, ha] at hentry
      cases hentry
      exact hdiffer hsame.symm
    · have hnever : handled (calls j trace) = 0 := hproper.once j second _ hreplied
      have hpos := handled_pos hran
      omega

/-- The replies of all runs of these requests are proper exactly when no two of them that differ
reserve under one identity. -/
theorem replies_are_proper_iff (config : IdempotencyConfig) (tenancy : Tenancy) (now : Nat)
    (requests : List HttpRequest) :
    (∀ trace Q, Run (fun _ _ => True) (emptyHttp config tenancy now) trace Q →
      httpRequests trace = requests → Proper trace) ↔ Distinguished tenancy requests := by
  constructor
  · intro hproper
    by_contra hshared
    obtain ⟨trace, Q, hrun, hrequests, hnot⟩ := shares_of_undistinguished now hshared
    exact hnot (hproper trace Q hrun hrequests)
  · rintro hdistinguished trace Q hrun rfl
    exact proper_of_distinguished hrun hdistinguished

/-- `POST /grns/:id/post`, with a key. -/
def postOf (id : String) : HttpRequest := ⟨.grnPost, [("id", id)], "", some (.one "k")⟩

/-- A second note is posted with the key of the first, and is sent the first one's result. -/
theorem reply_of_other_request :
    ∃ (trace : List (Label (httpSystem ⟨86400000, 60000, "idem"⟩ ⟨"t", "c", by decide, by decide⟩)))
      (Q : Pool (httpSystem ⟨86400000, 60000, "idem"⟩ ⟨"t", "c", by decide, by decide⟩)),
      Run (fun _ _ => True) (emptyHttp _ _ 0) trace Q ∧
        httpRequests trace = [postOf "a", postOf "b"] ∧ ¬ Proper trace := by
  refine shares_of_undistinguished 0 fun hdistinguished => ?_
  have hkey : ∀ id, (postOf id).key? = some "k" := fun id => rfl
  obtain ⟨_, hparams, _⟩ := hdistinguished (postOf "a") (by simp) (postOf "b") (by simp) _
    ⟨"k", hkey "a", rfl⟩ ⟨"k", hkey "b", rfl⟩
  revert hparams
  decide

end Shared

end DddBoilerplate.Idempotency
