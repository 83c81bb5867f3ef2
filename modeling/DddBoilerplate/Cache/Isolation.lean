/- module: DddBoilerplate/Cache/Isolation
   generality: I
   digest: Whose entry a read may be answered from, over all identifiers and all URLs. -/

import DddBoilerplate.Cache.ReadCache
import DddBoilerplate.Concurrency.History
import DddBoilerplate.Domain.Joined

set_option autoImplicit false
set_option relaxedAutoImplicit false
set_option linter.all false

namespace DddBoilerplate.Cache

open Concurrency Joined Store

section Keys

variable {router : Router}

namespace ReadRequest

/-- What stands between the colons of the tenant and of the company, in the key. -/
def scopePieces (request : ReadRequest router) : List (List Char) :=
  pieces ':' (request.tenantId.getD "platform") ++ pieces ':' (request.companyId.getD "platform")

/-- The same tenant and the same company, or none in both. -/
def SameScope (r r' : ReadRequest router) : Prop :=
  r.tenantId = r'.tenantId ∧ r.companyId = r'.companyId

/-- The pieces of the one scope are not those of the other, and do not go on, with the word that
comes behind them in every key, as those of the other do. -/
def Apart (r r' : ReadRequest router) : Prop :=
  r.scopePieces ≠ r'.scopePieces ∧
    ¬ (r.scopePieces ++ ["http".toList]) <+: r'.scopePieces ∧
      ¬ (r'.scopePieces ++ ["http".toList]) <+: r.scopePieces

/-- Identifiers without colons, none of them the word that stands for no identifier. -/
def Plain (request : ReadRequest router) : Prop :=
  ∀ id ∈ [request.tenantId, request.companyId], ∀ text ∈ id, text ≠ "platform" ∧ ':' ∉ text.toList

/-- What a cached route reads by: its `:id`, and where the URL is the key, the URL with its query. -/
structure SameReading (r r' : ReadRequest router) : Prop where
  scope : r.SameScope r'
  route : r.route = r'.route
  id : r.id = r'.id
  url : r.route.caching = .response → r.originalUrl = r'.originalUrl

/-- What comes behind the scope. -/
def readingPieces (request : ReadRequest router) : List (List Char) :=
  pieces ':' request.identity.resource ++ pieces ':' (request.identity.variant.getD "default")

variable {r r' : ReadRequest router} {config : CacheConfig}

theorem pieces_cacheKey : pieces ':' (r.cacheKey config) =
    (pieces ':' config.keyPrefix ++ pieces ':' config.keyVersion) ++
      (r.scopePieces ++ ("http".toList :: r.readingPieces)) := by
  have hjoined : r.cacheKey config = joined ':'
      [config.keyPrefix, config.keyVersion, r.tenantId.getD "platform",
        r.companyId.getD "platform", "http", r.identity.resource,
        r.identity.variant.getD "default"] := rfl
  have hspace : pieces ':' "http" = ["http".toList] := pieces_of_free (by decide)
  rw [hjoined, pieces_joined (List.cons_ne_nil _ _)]
  simp only [List.flatMap_cons, List.flatMap_nil, List.append_nil, hspace, scopePieces,
    readingPieces, List.append_assoc, List.cons_append, List.nil_append]

/-- Equal keys agree behind the prefix and the version. -/
theorem scoped_of_cacheKey_eq (h : r.cacheKey config = r'.cacheKey config) :
    r.scopePieces ++ ("http".toList :: r.readingPieces) =
      r'.scopePieces ++ ("http".toList :: r'.readingPieces) := by
  have hpieces := congrArg (pieces ':') h
  rw [pieces_cacheKey, pieces_cacheKey] at hpieces
  exact List.append_cancel_left hpieces

theorem SameScope.scopePieces_eq (h : SameScope r r') : r.scopePieces = r'.scopePieces := by
  unfold scopePieces
  rw [h.1, h.2]

/-- Scopes that are apart never meet in a key. -/
theorem Apart.cacheKey_ne (h : Apart r r') : r.cacheKey config ≠ r'.cacheKey config := by
  intro hkey
  obtain ⟨hne, hnot, hnot'⟩ := h
  have hgoesOn : ∀ p p' x x' more : List (List Char), p' = p ++ more →
      "http".toList :: x = more ++ "http".toList :: x' →
        p = p' ∨ (p ++ ["http".toList]) <+: p' := by
    intro p p' x x' more hp hmore
    cases more with
    | nil =>
      rw [List.append_nil] at hp
      exact .inl hp.symm
    | cons word more =>
      rw [List.cons_append, List.cons.injEq] at hmore
      refine .inr ⟨more, ?_⟩
      rw [hp, hmore.1, List.append_assoc]
      rfl
  rcases List.append_eq_append_iff.mp (scoped_of_cacheKey_eq hkey) with
    ⟨more, hp, hmore⟩ | ⟨more, hp, hmore⟩
  · rcases hgoesOn _ _ _ _ _ hp hmore with heq | hprefix
    · exact hne heq
    · exact hnot hprefix
  · rcases hgoesOn _ _ _ _ _ hp hmore with heq | hprefix
    · exact hne heq.symm
    · exact hnot' hprefix

theorem pieces_of_plain {id : Option String}
    (h : ∀ text ∈ id, text ≠ "platform" ∧ ':' ∉ text.toList) :
    pieces ':' (id.getD "platform") = [(id.getD "platform").toList] := by
  cases id with
  | none => exact pieces_of_free (by decide)
  | some text => exact pieces_of_free (h text rfl).2

theorem eq_of_getD_eq {id id' : Option String}
    (h : ∀ text ∈ id, text ≠ "platform" ∧ ':' ∉ text.toList)
    (h' : ∀ text ∈ id', text ≠ "platform" ∧ ':' ∉ text.toList)
    (heq : id.getD "platform" = id'.getD "platform") : id = id' := by
  cases id with
  | none =>
    cases id' with
    | none => rfl
    | some text' => exact absurd heq.symm (h' text' rfl).1
  | some text =>
    cases id' with
    | none => exact absurd heq (h text rfl).1
    | some text' => exact congrArg some heq

theorem Plain.scopePieces_eq (h : r.Plain) : r.scopePieces =
    [(r.tenantId.getD "platform").toList, (r.companyId.getD "platform").toList] := by
  unfold scopePieces
  rw [pieces_of_plain (h _ (by simp)), pieces_of_plain (h _ (by simp))]
  rfl

/-- Plain scopes are the same or apart. -/
theorem Plain.sameScope_or_apart (h : r.Plain) (h' : r'.Plain) : r.SameScope r' ∨ r.Apart r' := by
  have hshort : ∀ s s' : ReadRequest router, s.Plain → s'.Plain →
      ¬ (s.scopePieces ++ ["http".toList]) <+: s'.scopePieces := by
    intro s s' hs hs' hprefix
    have hlength := hprefix.length_le
    rw [hs.scopePieces_eq, hs'.scopePieces_eq] at hlength
    simp at hlength
  by_cases hpieces : r.scopePieces = r'.scopePieces
  · rw [h.scopePieces_eq, h'.scopePieces_eq, List.cons.injEq, List.cons.injEq, String.toList_inj,
      String.toList_inj] at hpieces
    exact .inl ⟨eq_of_getD_eq (h _ (by simp)) (h' _ (by simp)) hpieces.1,
      eq_of_getD_eq (h _ (by simp)) (h' _ (by simp)) hpieces.2.1⟩
  · exact .inr ⟨hpieces, hshort r r' h h', hshort r' r h' h⟩

/-- The resource and the variant of a route that is keyed by its `:id`. -/
theorem readingPieces_of_id {resource id : String}
    (hcaching : r.route.caching = .cacheable (some resource)) (hfree : ':' ∉ resource.toList)
    (hid : r.id = some id) :
    r.readingPieces = resource.toList :: pieces ':' id := by
  unfold readingPieces identity
  simp only [hcaching, hid, Option.getD_some]
  rw [pieces_of_free hfree]
  rfl

theorem readingPieces_of_url (hcaching : r.route.caching = .response) :
    r.readingPieces = pieces ':' r.originalUrl ++ ["default".toList] := by
  have hdefault : pieces ':' "default" = ["default".toList] := pieces_of_free (by decide)
  unfold readingPieces identity
  simp only [hcaching, Option.getD_none, hdefault]

/-- The `:id` routes and what they are called in the key. -/
theorem caching_cases (route : CachedRoute) :
    (route.caching = .response) ∨ ∃ resource, route.caching = .cacheable (some resource) ∧
      route.hasId = true ∧ ':' ∉ resource.toList ∧ resource.toList.head? ≠ some '/' ∧
        ∀ route' : CachedRoute, route'.caching = .cacheable (some resource) → route' = route := by
  cases route
  case getPurchaseOrder | getGrn =>
    refine .inr ⟨_, rfl, rfl, by decide, by decide, ?_⟩
    intro route' hroute'
    cases route' <;> first | rfl | exact absurd hroute' (by decide)
  all_goals exact .inl rfl

/-- The key of an `:id` route is none of a route that is keyed by its URL. -/
theorem readingPieces_ne {resource : String} (hid : r.id.isSome)
    (hcaching : r.route.caching = .cacheable (some resource)) (hfree : ':' ∉ resource.toList)
    (hhead : resource.toList.head? ≠ some '/') (hcaching' : r'.route.caching = .response) :
    r.readingPieces ≠ r'.readingPieces := by
  intro heq
  obtain ⟨id, hid⟩ := Option.isSome_iff_exists.mp hid
  obtain ⟨path, hpath⟩ := r'.fromRoot
  rw [readingPieces_of_id hcaching hfree hid, readingPieces_of_url hcaching'] at heq
  have hfirst : ∃ first rest, pieces ':' r'.originalUrl = ('/' :: first) :: rest := by
    obtain ⟨first, rest, hsplit⟩ := List.exists_cons_of_ne_nil (List.splitOn_ne_nil ':' path)
    refine ⟨first, rest, ?_⟩
    unfold pieces
    rw [hpath, List.splitOn_cons_eq_if_modifyHead, if_neg (by decide), hsplit]
    rfl
  obtain ⟨first, rest, hfirst⟩ := hfirst
  rw [hfirst, List.cons_append, List.cons.injEq] at heq
  exact hhead (heq.1 ▸ rfl)

/-- Within one scope, a key is read by one route with one `:id` only, or with one URL. -/
theorem SameScope.sameReading (h : SameScope r r') (hkey : r.cacheKey config = r'.cacheKey config) :
    SameReading r r' := by
  have hscoped := scoped_of_cacheKey_eq hkey
  rw [h.scopePieces_eq, List.append_cancel_left_eq, List.cons.injEq] at hscoped
  have heq := hscoped.2
  rcases caching_cases r.route with hurl | ⟨resource, hcaching, hid, hfree, hhead, honly⟩
  · rcases caching_cases r'.route with hurl' | ⟨resource', hcaching', hid', hfree', hhead', _⟩
    · rw [readingPieces_of_url hurl, readingPieces_of_url hurl', List.append_cancel_right_eq,
        pieces_inj] at heq
      have hrouted := r.routed
      rw [heq, r'.routed, Option.some.injEq, Prod.mk.injEq] at hrouted
      exact ⟨h, hrouted.1.symm, hrouted.2.symm, fun _ => heq⟩
    · rw [← r'.named] at hid'
      exact absurd heq.symm (readingPieces_ne hid' hcaching' hfree' hhead' hurl)
  · rcases caching_cases r'.route with hurl' | ⟨resource', hcaching', hid', hfree', hhead', _⟩
    · rw [← r.named] at hid
      exact absurd heq (readingPieces_ne hid hcaching hfree hhead hurl')
    · rw [← r.named] at hid
      rw [← r'.named] at hid'
      obtain ⟨id, hid⟩ := Option.isSome_iff_exists.mp hid
      obtain ⟨id', hid'⟩ := Option.isSome_iff_exists.mp hid'
      rw [readingPieces_of_id hcaching hfree hid, readingPieces_of_id hcaching' hfree' hid',
        List.cons.injEq, String.toList_inj, pieces_inj] at heq
      obtain ⟨rfl, rfl⟩ := heq
      refine ⟨h, (honly _ hcaching').symm, hid.trans hid'.symm, fun hresponse => ?_⟩
      rw [hcaching] at hresponse
      cases hresponse

end ReadRequest

end Keys

section Runs

variable {config : CacheConfig} {router : Router}

/-- What a request is made for: the handler's value is what is answered and what is written. -/
def because (call : CacheCall router) (h : List (Call (CacheStatement.interface router))) :
    CacheStatement router → Prop
  | .get request | .handle request => call = .read request
  | .set request value => ⟨.handle request, Except.ok value⟩ ∈ h
  | .respond request value => ⟨.handle request, Except.ok value⟩ ∈ h ∨
      ∃ entry : CacheEntry router, entry.value = value ∧ ⟨.get request, some entry⟩ ∈ h
  | .delete key => call = .evict key

theorem program_because (call : CacheCall router) :
    Accounted (because call) (fun _ _ => True) [] (call.program router) := by
  cases call with
  | evict key => exact ⟨rfl, fun _ => trivial⟩
  | read request =>
    refine ⟨rfl, fun cached => ?_⟩
    cases cached with
    | some entry => exact ⟨.inr ⟨entry, rfl, List.mem_singleton_self _⟩, fun _ => trivial⟩
    | none =>
      refine ⟨rfl, fun outcome => accounted_lift_bind fun value hvalue => ?_⟩
      subst hvalue
      refine ⟨.inl (List.mem_append_right _ (List.mem_singleton_self _)), fun _ => ?_⟩
      refine ⟨?_, fun _ => trivial⟩
      exact List.mem_append_left _ (List.mem_append_right _ (List.mem_singleton_self _))

variable {ok : Pool (cacheSystem config router) → Label (cacheSystem config router) → Prop}
variable {Q : Pool (cacheSystem config router)} {trace : List (Label (cacheSystem config router))}

/-- A handler returned this value for this request. -/
def HandledFor (trace : List (Label (cacheSystem config router))) (request : ReadRequest router)
    (value : String) : Prop :=
  ∃ i f, Label.served i (CacheStatement.handle request) (Except.ok value) f ∈ trace

theorem HandledFor.append {request : ReadRequest router} {value : String}
    {l : Label (cacheSystem config router)} (h : HandledFor trace request value) :
    HandledFor (trace ++ [l]) request value := by
  obtain ⟨i, f, hmem⟩ := h
  exact ⟨i, f, List.mem_append_left _ hmem⟩

/-- What a command leaves in the cache was there before, or is the value that it writes. -/
theorem mem_of_serve {q : CacheStatement router} {choice : CacheChoice} {a : q.Answer}
    {entries entries' : Table (@CacheEntry.key router config)}
    (h : q.serve config router choice entries = some (a, entries')) {entry : CacheEntry router}
    (hmem : entry ∈ entries'.rows) :
    entry ∈ entries.rows ∨ q = .set entry.writtenFor entry.value := by
  unfold CacheStatement.serve at h
  split at h <;> cases h
  · exact .inl hmem
  · exact .inl hmem
  · exact .inl hmem
  · exact .inl hmem
  · rename_i request value
    have hget := Table.get?_of_mem hmem
    rw [Table.get?_upsert] at hget
    split at hget
    · cases hget
      exact .inr rfl
    · exact .inl (Table.mem_of_get? hget)
  · exact .inl hmem
  · exact .inl (List.mem_of_mem_filter hmem)
  · exact .inl hmem

/-- Every entry holds what a handler returned for the request that it was written for. -/
theorem handled_of_run (hrun : Run ok ⟨Table.empty, []⟩ trace Q) {entry : CacheEntry router}
    (hmem : entry ∈ Q.store.rows) : HandledFor trace entry.writtenFor entry.value := by
  induction hrun with
  | nil => cases hmem
  | @snoc trace Q R l hrun hok hstep ih =>
    cases hstep with
    | start => exact (ih hmem).append
    | raised => exact (ih hmem).append
    | @served store store' threads i q next a here answered =>
      obtain ⟨choice, hserve⟩ := answered
      rcases mem_of_serve hserve hmem with hmem | rfl
      · exact (ih hmem).append
      · have hstep : Step (cacheSystem config router) ⟨store, threads⟩
            (.served i (CacheStatement.set entry.writtenFor entry.value) a (next a).front)
            ⟨store', threads.set i (next a)⟩ := .served here ⟨choice, hserve⟩
        obtain ⟨call, _, hhandled⟩ := because_of_entry program_because hrun rfl hstep
        obtain ⟨f, hf⟩ := mem_calls.mp hhandled
        exact ⟨i, f, List.mem_append_left _ hf⟩

theorem entry_of_serve {request : ReadRequest router} {choice : CacheChoice}
    {entry : CacheEntry router} {entries entries' : Table (@CacheEntry.key router config)}
    (h : (CacheStatement.get request).serve config router choice entries =
      some (some entry, entries')) : entries.get? (request.cacheKey config) = some entry := by
  cases choice with
  | settled =>
    rw [CacheStatement.serve, Option.some.injEq, Prod.mk.injEq] at h
    exact h.1
  | failed => cases h
  | handled outcome => cases h

/-- A read that is answered from the cache finds an entry under its own key. -/
theorem found_of_run (hrun : Run ok ⟨Table.empty, []⟩ trace Q) {i : Nat}
    {request : ReadRequest router} {entry : CacheEntry router}
    {f : Front (CacheStatement.interface router)}
    (hmem : Label.served i (CacheStatement.get request) (some entry) f ∈ trace) :
    entry.writtenFor.cacheKey config = request.cacheKey config ∧
      HandledFor trace entry.writtenFor entry.value := by
  induction hrun with
  | nil => cases hmem
  | @snoc trace Q R l hrun hok hstep ih =>
    rcases List.mem_append.mp hmem with hmem | hmem
    · exact ⟨(ih hmem).1, (ih hmem).2.append⟩
    · obtain rfl := List.mem_singleton.mp hmem
      obtain ⟨choice, hserve⟩ := hstep.answered
      have hget := entry_of_serve hserve
      have hkey : entry.key config = request.cacheKey config := Table.key_of_get? hget
      exact ⟨hkey, (handled_of_run hrun (Table.mem_of_get? hget)).append⟩

/-- A read under the key of another may be answered from what was written for that one. -/
theorem shared_of_cacheKey_eq {r r' : ReadRequest router} (value : String)
    (hkey : r.cacheKey config = r'.cacheKey config) :
    ∃ trace, ∃ Q : Pool (cacheSystem config router),
      Run (fun _ _ => True) ⟨Table.empty, []⟩ trace Q ∧
        ∃ i f, Label.served i (CacheStatement.get r') (some ⟨r, value⟩) f ∈ trace := by
  have hwritten : (Table.upsert Table.empty ⟨r, value⟩ :
      Table (@CacheEntry.key router config)).get? (r'.cacheKey config) = some ⟨r, value⟩ := by
    rw [Table.get?_upsert]
    exact if_pos hkey
  have hget : System.Serves (cacheSystem config router) (.get r')
      (Table.upsert Table.empty ⟨r, value⟩) (some ⟨r, value⟩) (Table.upsert Table.empty ⟨r, value⟩) :=
    ⟨.settled, congrArg (fun entry => some (entry, _)) hwritten⟩
  have hread : Run (fun _ _ => True) (⟨Table.empty, []⟩ : Pool (cacheSystem config router)) _ _ :=
    Run.nil.snoc trivial (.start _ _ (CacheCall.read r))
  have hmissed := hread.snoc trivial (.served (i := 0) rfl ⟨.settled, rfl⟩)
  have hhandled := hmissed.snoc trivial (.served (i := 0) rfl ⟨.handled (.ok value), rfl⟩)
  have hresponded := hhandled.snoc trivial (.served (i := 0) rfl ⟨.settled, rfl⟩)
  have hset := hresponded.snoc trivial (.served (i := 0) rfl ⟨.settled, rfl⟩)
  have hagain := hset.snoc trivial (.start _ _ (CacheCall.read r'))
  have hfound := hagain.snoc trivial (.served (i := 1) rfl hget)
  exact ⟨_, _, hfound, 1, _, List.mem_append_right _ (List.mem_singleton_self _)⟩

/-- Whatever runs: within one scope, or between scopes that are apart, a read is answered only from
what a handler returned for the same tenant, company, route and `:id`, and for the same URL where
that is the key; and the keys of scopes that are apart are never the same. -/
theorem answered_within_scope (config : CacheConfig) (router : Router)
    (ok : Pool (cacheSystem config router) → Label (cacheSystem config router) → Prop)
    (trace : List (Label (cacheSystem config router))) (Q : Pool (cacheSystem config router))
    (hrun : Run ok ⟨Table.empty, []⟩ trace Q) :
    (∀ i f, ∀ request : ReadRequest router, ∀ entry : CacheEntry router,
      Label.served i (CacheStatement.get request) (some entry) f ∈ trace →
        entry.writtenFor.SameScope request ∨ entry.writtenFor.Apart request →
          entry.writtenFor.SameReading request ∧
            HandledFor trace entry.writtenFor entry.value) ∧
      ∀ r r' : ReadRequest router, r.Apart r' → r.cacheKey config ≠ r'.cacheKey config := by
  refine ⟨fun i f request entry hmem hscopes => ?_, fun r r' hapart => hapart.cacheKey_ne⟩
  obtain ⟨hkey, hhandled⟩ := found_of_run hrun hmem
  rcases hscopes with hsame | hapart
  · exact ⟨hsame.sameReading hkey, hhandled⟩
  · exact absurd hkey hapart.cacheKey_ne

end Runs

section Example

/-- The routes of the two controllers; the query is not part of the path. -/
def routes : Router := fun url =>
  match ((url.toList.takeWhile (· ≠ '?')).splitOn '/').map String.ofList with
  | ["", "api", "v1", "purchase-orders"] => some (.listPurchaseOrders, none)
  | ["", "api", "v1", "purchase-orders", id] => some (.getPurchaseOrder, some id)
  | ["", "api", "v1", "purchase-orders", id, "receipts"] => some (.purchaseOrderReceipts, some id)
  | ["", "api", "v1", "purchase-orders", id, "remaining-quantities"] =>
    some (.purchaseOrderRemainingQuantities, some id)
  | ["", "api", "v1", "grn"] => some (.listGrns, none)
  | ["", "api", "v1", "grn", id] => some (.getGrn, some id)
  | _ => none

def cacheConfig : CacheConfig := ⟨"cache", "v1"⟩

/-- A GET of the order 7. -/
def getOrder (tenantId companyId : String) : ReadRequest routes where
  tenantId := some tenantId
  companyId := some companyId
  originalUrl := "/api/v1/purchase-orders/7"
  route := .getPurchaseOrder
  id := some "7"
  routed := by decide
  named := rfl
  fromRoot := ⟨_, rfl⟩

/-- The same with a query. -/
def getOrderForMobile (tenantId companyId : String) : ReadRequest routes where
  tenantId := some tenantId
  companyId := some companyId
  originalUrl := "/api/v1/purchase-orders/7?device=mobile"
  route := .getPurchaseOrder
  id := some "7"
  routed := by decide
  named := rfl
  fromRoot := ⟨_, rfl⟩

theorem order_answered_within_scope :
    ∃ trace, ∃ Q : Pool (cacheSystem cacheConfig routes),
      Run (fun _ _ => True) ⟨Table.empty, []⟩ trace Q ∧
        ∃ i f, ∃ entry : CacheEntry routes,
          Label.served i (CacheStatement.get (getOrder "t1" "acme")) (some entry) f ∈ trace ∧
            entry.writtenFor.SameReading (getOrder "t1" "acme") := by
  obtain ⟨trace, Q, hrun, i, f, hfound⟩ :=
    shared_of_cacheKey_eq "order 7" (rfl : (getOrder "t1" "acme").cacheKey cacheConfig = _)
  have hwithin := (answered_within_scope _ _ _ trace Q hrun).1 i f _ _ hfound (.inl ⟨rfl, rfl⟩)
  exact ⟨trace, Q, hrun, i, f, _, hfound, hwithin.1⟩

/-- The query is no part of the key of an `:id` route; and a colon in an identifier shifts what is
the tenant and what is the company. -/
theorem order_answered_across :
    (∃ trace, ∃ Q : Pool (cacheSystem cacheConfig routes),
      Run (fun _ _ => True) ⟨Table.empty, []⟩ trace Q ∧
        ∃ i f, ∃ entry : CacheEntry routes,
          Label.served i (CacheStatement.get (getOrder "t1" "acme")) (some entry) f ∈ trace ∧
            entry.writtenFor.originalUrl ≠ (getOrder "t1" "acme").originalUrl) ∧
    ∃ trace, ∃ Q : Pool (cacheSystem cacheConfig routes),
      Run (fun _ _ => True) ⟨Table.empty, []⟩ trace Q ∧
        ∃ i f, ∃ entry : CacheEntry routes,
          Label.served i (CacheStatement.get (getOrder "a" "b:c")) (some entry) f ∈ trace ∧
            entry.writtenFor.tenantId ≠ (getOrder "a" "b:c").tenantId := by
  constructor
  · have hkey : (getOrderForMobile "t1" "acme").cacheKey cacheConfig =
        (getOrder "t1" "acme").cacheKey cacheConfig := by decide
    obtain ⟨trace, Q, hrun, i, f, hfound⟩ := shared_of_cacheKey_eq "order 7" hkey
    exact ⟨trace, Q, hrun, i, f, _, hfound, by decide⟩
  · have hkey : (getOrder "a:b" "c").cacheKey cacheConfig =
        (getOrder "a" "b:c").cacheKey cacheConfig := by decide
    obtain ⟨trace, Q, hrun, i, f, hfound⟩ := shared_of_cacheKey_eq "order 7" hkey
    exact ⟨trace, Q, hrun, i, f, _, hfound, by decide⟩

end Example

end DddBoilerplate.Cache
