/- module: DddBoilerplate/Idempotency/Claims
   generality: I
   digest: What a statement makes of the row of an identity, and what each caller of the ledger goes by. -/

import DddBoilerplate.Concurrency.History
import DddBoilerplate.Idempotency.Ledger

set_option autoImplicit false
set_option relaxedAutoImplicit false
set_option linter.all false

namespace DddBoilerplate.Idempotency

open Concurrency Store

section Rows

variable {db : IdempotencyDb} {choice : IdempotencyChoice} {identity : IdempotencyIdentity}
variable {row : IdempotencyRow}

/-- The four guarded writes, and what each leaves of the row of its identity. -/
inductive Alters (identity : IdempotencyIdentity) (row : IdempotencyRow) :
    IdempotencyStatement → Option IdempotencyRow → Prop where
  | takenOver (claimToken : String) (now claimLeaseMs expiresAt claimedAt : Nat)
      (hlapsed : row.lapsed identity now claimLeaseMs = true) :
      Alters identity row (.takeOver identity claimToken now claimLeaseMs expiresAt claimedAt)
        (some (row.takeOver claimToken expiresAt claimedAt))
  | completed (reservation : IdempotencyReservation) (result : ResultJson) (completedAt : Nat)
      (howned : row.ownedBy reservation = true) :
      Alters identity row (.complete reservation result completedAt)
        (some (row.complete result completedAt))
  | deleted (reservation : IdempotencyReservation) (howned : row.ownedBy reservation = true) :
      Alters identity row (.deleteClaim reservation) none
  | purged (now : Nat) (hexpired : row.expiresAt < now) :
      Alters identity row (.purgeExpired now) none

theorem get?_deleted {p : IdempotencyRow → Bool} (hrow : db.keys.get? identity = some row)
    (hp : p row = true) : (db.keys.deleteMany p).2.get? identity = none := by
  refine Option.eq_none_iff_forall_ne_some.mpr fun found hfound => ?_
  obtain ⟨hold, hkept⟩ := Table.get?_deleteMany.mp hfound
  rw [hrow] at hold
  cases hold
  rw [hp] at hkept
  cases hkept

theorem get?_takeOver {identity' : IdempotencyIdentity} {claimToken : String}
    {now claimLeaseMs expiresAt claimedAt : Nat} :
    ((IdempotencyStatement.takeOver identity' claimToken now claimLeaseMs expiresAt
      claimedAt).perform choice db).2.keys.get? identity =
        (db.keys.get? identity).map fun row =>
          if row.lapsed identity' now claimLeaseMs then row.takeOver claimToken expiresAt claimedAt
          else row :=
  Table.get?_updateMany fun row => row.takeOver_identity claimToken expiresAt claimedAt

theorem get?_complete {reservation : IdempotencyReservation} {result : ResultJson}
    {completedAt : Nat} :
    ((IdempotencyStatement.complete reservation result completedAt).perform choice
      db).2.keys.get? identity =
        (db.keys.get? identity).map fun row =>
          if row.ownedBy reservation then row.complete result completedAt else row :=
  Table.get?_updateMany fun row => row.complete_identity result completedAt

/-- A row stays as it is, but for the guarded writes. -/
theorem alters_of_perform (q : IdempotencyStatement) (hrow : db.keys.get? identity = some row) :
    (q.perform choice db).2.keys.get? identity = some row ∨
      Alters identity row q ((q.perform choice db).2.keys.get? identity) := by
  cases q with
  | cacheGet key => exact .inl hrow
  | cacheSet key value ttlMs =>
    left
    dsimp only [IdempotencyStatement.perform]
    split <;> exact hrow
  | cacheDelete key =>
    left
    dsimp only [IdempotencyStatement.perform]
    split <;> exact hrow
  | create identity' claimToken expiresAt requestHash claimedAt =>
    left
    dsimp only [IdempotencyStatement.perform]
    split
    · exact hrow
    · rename_i hfree
      simp only [Bool.or_eq_true, not_or, Bool.not_eq_true, Option.isSome_eq_false_iff,
        Option.isNone_iff_eq_none] at hfree
      have hnew := hfree.1.2
      show (db.keys.insert _).get? identity = _
      rw [Table.get?_insert hnew, if_neg]
      · exact hrow
      · rintro rfl
        cases hrow.symm.trans hnew
  | findByIdentity identity' => exact .inl hrow
  | findById id => exact .inl hrow
  | respond identity' result => exact .inl hrow
  | takeOver identity' claimToken now claimLeaseMs expiresAt claimedAt =>
    rw [get?_takeOver, hrow, Option.map_some]
    by_cases hlapsed : row.lapsed identity' now claimLeaseMs = true
    · rw [if_pos hlapsed]
      have hidentity : row.identity = identity' := by
        simp only [IdempotencyRow.lapsed, Bool.and_eq_true, decide_eq_true_eq] at hlapsed
        exact hlapsed.1.1
      obtain rfl : identity' = identity := hidentity.symm.trans (Table.key_of_get? hrow)
      exact .inr (.takenOver claimToken now claimLeaseMs expiresAt claimedAt hlapsed)
    · exact .inl (by rw [if_neg hlapsed])
  | complete reservation result completedAt =>
    rw [get?_complete, hrow, Option.map_some]
    by_cases howned : row.ownedBy reservation = true
    · rw [if_pos howned]
      exact .inr (.completed reservation result completedAt howned)
    · exact .inl (by rw [if_neg howned])
  | deleteClaim reservation =>
    by_cases howned : row.ownedBy reservation = true
    · right
      have hgone : (IdempotencyStatement.perform (.deleteClaim reservation) choice
        db).2.keys.get? identity = none := get?_deleted hrow howned
      rw [hgone]
      exact .deleted reservation howned
    · exact .inl (Table.get?_deleteMany.mpr ⟨hrow, by simpa using howned⟩)
  | purgeExpired now =>
    by_cases hexpired : row.expiresAt < now
    · right
      have hgone : (IdempotencyStatement.perform (.purgeExpired now) choice
        db).2.keys.get? identity = none := get?_deleted hrow (decide_eq_true hexpired)
      rw [hgone]
      exact .purged now hexpired
    · exact .inl (Table.get?_deleteMany.mpr ⟨hrow, decide_eq_false hexpired⟩)

theorem IdempotencyRow.ownedBy_eq_true {reservation : IdempotencyReservation}
    (h : row.ownedBy reservation = true) :
    row.claimToken = reservation.claimToken ∧ row.status = .inProgress := by
  simp only [IdempotencyRow.ownedBy, Bool.and_eq_true, decide_eq_true_eq] at h
  exact ⟨h.1.1.2, h.2⟩

theorem IdempotencyRow.lapsed_eq_true {now claimLeaseMs : Nat}
    (h : row.lapsed identity now claimLeaseMs = true) : row.identity = identity ∧
      row.status = .inProgress ∧
        ∃ claimedAt, row.claimedAt = some claimedAt ∧ claimedAt + claimLeaseMs < now := by
  simp only [IdempotencyRow.lapsed, Bool.and_eq_true, decide_eq_true_eq] at h
  obtain ⟨claimedAt, hclaimed, hlapsed⟩ := (Option.any_eq_true _ _).mp h.2
  exact ⟨h.1.1, h.1.2, claimedAt, hclaimed, of_decide_eq_true hlapsed⟩

end Rows

section Accounts

/-- A claim of the identity under that token, at that time. -/
def claimsWith (identity : IdempotencyIdentity) (claimToken : String) (claimedAt : Nat) :
    Call IdempotencyStatement.interface.world → Prop
  | ⟨.statement (.create identity' claimToken' _ _ claimedAt'), row⟩ =>
    identity' = identity ∧ claimToken' = claimToken ∧ claimedAt' = claimedAt ∧
      Option.isSome row = true
  | ⟨.statement (.takeOver identity' claimToken' _ _ _ claimedAt'), n⟩ =>
    identity' = identity ∧ claimToken' = claimToken ∧ claimedAt' = claimedAt ∧ 0 < (n : Nat)
  | _ => False

/-- Why a reserve of the identity makes a request: it drew the token it claims with, read the clock
before, and caches what it found. -/
def reserveAsks (config : IdempotencyConfig) (identity : IdempotencyIdentity)
    (h : List (Call IdempotencyStatement.interface.world)) :
    WorldRequest IdempotencyStatement.interface → Prop
  | .clock => True
  | .randomUUID => True
  | .statement (.cacheGet _) => True
  | .statement (.findByIdentity _) => True
  | .statement (.create identity' claimToken _ _ _) =>
    identity' = identity ∧ ⟨.randomUUID, claimToken⟩ ∈ h
  | .statement (.takeOver identity' claimToken now claimLeaseMs _ _) =>
    identity' = identity ∧ ⟨.randomUUID, claimToken⟩ ∈ h ∧ ⟨.clock, now⟩ ∈ h ∧
      claimLeaseMs = config.claimLeaseMs
  | .statement (.cacheSet key value _) => key = config.buildKey identity ∧
    ∃ row : IdempotencyRow, ⟨.statement (.findByIdentity identity), some row⟩ ∈ h ∧
      row.status = .completed ∧ value = some row.resultJson
  | _ => False

/-- What a reserve of the identity returns: a reservation it claimed, or a result it found. -/
def reserveReturns (config : IdempotencyConfig) (identity : IdempotencyIdentity)
    (h : List (Call IdempotencyStatement.interface.world)) : IdempotencyReserveResult → Prop
  | .acquired reservation => reservation.toIdempotencyIdentity = identity ∧
    ⟨.randomUUID, reservation.claimToken⟩ ∈ h ∧
      ∃ claimedAt, ∃ call ∈ h, claimsWith identity reservation.claimToken claimedAt call
  | .replay value => ⟨.statement (.cacheGet (config.buildKey identity)), some value⟩ ∈ h ∨
    ∃ row : IdempotencyRow, ⟨.statement (.findByIdentity identity), some row⟩ ∈ h ∧
      row.status = .completed ∧ row.resultJson = value
  | .busy => True
  | .keyMismatch => True

variable {config : IdempotencyConfig} {request : IdempotencyReserveRequest}

/-- An insertion that is answered with a row is a claim. -/
theorem claimsWith_create {identity : IdempotencyIdentity} {claimToken : String}
    {expiresAt claimedAt : Nat} {requestHash : Option String} {row : IdempotencyRow} :
    claimsWith identity claimToken claimedAt
      ⟨.statement (.create identity claimToken expiresAt requestHash claimedAt), some row⟩ :=
  ⟨rfl, rfl, rfl, rfl⟩

/-- A takeover that updates a row is one. -/
theorem claimsWith_takeOver {identity : IdempotencyIdentity} {claimToken : String}
    {now claimLeaseMs expiresAt claimedAt n : Nat} (hn : n ≠ 0) :
    claimsWith identity claimToken claimedAt
      ⟨.statement (.takeOver identity claimToken now claimLeaseMs expiresAt claimedAt), n⟩ :=
  ⟨rfl, rfl, rfl, Nat.pos_of_ne_zero hn⟩

theorem reserveReturns_acquired {identity : IdempotencyIdentity} {claimToken : String}
    {row : IdempotencyRow} {claimedAt : Nat} {h : List (Call IdempotencyStatement.interface.world)}
    {call : Call IdempotencyStatement.interface.world} (hdrawn : ⟨.randomUUID, claimToken⟩ ∈ h)
    (hclaims : claimsWith identity claimToken claimedAt call) (hmem : call ∈ h) :
    reserveReturns config identity h (acquired identity claimToken row) :=
  ⟨rfl, hdrawn, claimedAt, call, hmem, hclaims⟩

theorem accounted_inspect {h : List (Call IdempotencyStatement.interface.world)}
    {claimToken : String} {now expiresAt : Nat} {existing : IdempotencyRow}
    (hdrawn : ⟨.randomUUID, claimToken⟩ ∈ h) (hread : ⟨.clock, now⟩ ∈ h)
    (hfound : ⟨.statement (.findByIdentity request.toIdempotencyIdentity), some existing⟩ ∈ h) :
    Accounted (reserveAsks config request.toIdempotencyIdentity)
      (reserveReturns config request.toIdempotencyIdentity) h
      (inspect config request claimToken now expiresAt existing) := by
  unfold inspect
  split
  · trivial
  · split
    · rename_i hstatus
      refine ⟨trivial, fun reading => ?_⟩
      show Accounted _ _ _ (ite _ _ _)
      split
      · refine ⟨⟨rfl, existing, List.mem_append_left _ hfound, hstatus, rfl⟩, fun _ => .inr ?_⟩
        exact ⟨existing, List.mem_append_left _ (List.mem_append_left _ hfound), hstatus, rfl⟩
      · exact .inr ⟨existing, List.mem_append_left _ hfound, hstatus, rfl⟩
    · refine ⟨trivial, fun claimedAt => ⟨?_, fun count => ?_⟩⟩
      · exact ⟨rfl, List.mem_append_left _ hdrawn, List.mem_append_left _ hread, rfl⟩
      · show Accounted _ _ _ (ite _ _ _ >>= _)
        split
        · trivial
        · rename_i hcount
          refine ⟨trivial, fun taken => ?_⟩
          cases (taken : Option IdempotencyRow) with
          | none => trivial
          | some row =>
            have hclaims := @claimsWith_takeOver request.toIdempotencyIdentity claimToken now
              config.claimLeaseMs expiresAt claimedAt count hcount
            refine reserveReturns_acquired ?_ hclaims ?_
            · exact List.mem_append_left _ (List.mem_append_left _ (List.mem_append_left _ hdrawn))
            · exact List.mem_append_left _ (List.mem_append_right _ (List.mem_singleton_self _))

theorem accounted_reserve :
    Accounted (reserveAsks config request.toIdempotencyIdentity)
      (reserveReturns config request.toIdempotencyIdentity) [] (reserve config request) := by
  rw [reserve_eq]
  refine ⟨trivial, fun now => ⟨trivial, fun cached => ?_⟩⟩
  cases (cached : Option ResultJson) with
  | some value => exact .inl (List.mem_append_right _ (List.mem_singleton_self _))
  | none =>
    refine ⟨trivial, fun claimToken => ⟨trivial, fun claimedAt => ⟨by simp [reserveAsks], ?_⟩⟩⟩
    intro answer
    cases answer with
    | some row =>
      have hclaims := @claimsWith_create request.toIdempotencyIdentity claimToken
        (now + request.ttlMs.getD config.ttlMs) claimedAt request.requestHash row
      refine reserveReturns_acquired (by simp) hclaims ?_
      exact List.mem_append_right _ (List.mem_singleton_self _)
    | none =>
      refine ⟨trivial, fun existing => ?_⟩
      cases existing with
      | none =>
        refine ⟨trivial, fun claimedAt => ⟨by simp [reserveAsks], fun answer => ?_⟩⟩
        cases answer with
        | some row =>
          have hclaims := @claimsWith_create request.toIdempotencyIdentity claimToken
            (now + request.ttlMs.getD config.ttlMs) claimedAt request.requestHash row
          refine reserveReturns_acquired (by simp) hclaims ?_
          exact List.mem_append_right _ (List.mem_singleton_self _)
        | none => trivial
      | some existing => exact accounted_inspect (by simp) (by simp) (by simp)

/-- Why any call of the port makes a request. -/
def because (config : IdempotencyConfig) (h : List (Call IdempotencyStatement.interface.world)) :
    WorldRequest IdempotencyStatement.interface → Prop
  | .statement (.create _ claimToken _ _ _) => ⟨.randomUUID, claimToken⟩ ∈ h
  | .statement (.takeOver _ claimToken now claimLeaseMs _ _) =>
    ⟨.randomUUID, claimToken⟩ ∈ h ∧ ⟨.clock, now⟩ ∈ h ∧ claimLeaseMs = config.claimLeaseMs
  | .statement (.purgeExpired now) => ⟨.clock, now⟩ ∈ h
  | .statement (.respond identity (.acquired reservation)) =>
    ∃ claimedAt, ∃ call ∈ h, claimsWith identity reservation.claimToken claimedAt call
  | _ => True

theorem because_of_reserveAsks {identity : IdempotencyIdentity}
    {h : List (Call IdempotencyStatement.interface.world)}
    {q : WorldRequest IdempotencyStatement.interface} (hasks : reserveAsks config identity h q) :
    because config h q := by
  cases q with
  | clock => trivial
  | randomUUID => trivial
  | statement q =>
    cases q with
    | create identity' claimToken expiresAt requestHash claimedAt => exact hasks.2
    | takeOver identity' claimToken now claimLeaseMs expiresAt claimedAt => exact hasks.2
    | purgeExpired now => cases hasks
    | respond identity' result => cases hasks
    | cacheGet key => trivial
    | cacheSet key value ttlMs => trivial
    | cacheDelete key => trivial
    | findByIdentity identity' => trivial
    | findById id => trivial
    | complete reservation result completedAt => trivial
    | deleteClaim reservation => trivial

/-- Every call of the port, and the purge. -/
theorem accounted_program (e : IdempotencyEntry) :
    Accounted (because config) (fun _ _ => True) [] (e.program config) := by
  cases e with
  | reserve request =>
    have hreserve := (@accounted_reserve config request).mono (fun _ _ => because_of_reserveAsks)
      fun _ _ hreturns => hreturns
    refine hreserve.bind fun h result hreturns => ⟨?_, fun _ => trivial⟩
    cases result with
    | acquired reservation => exact hreturns.2.2
    | replay value => trivial
    | busy => trivial
    | keyMismatch => trivial
  | complete reservation result =>
    refine ⟨trivial, fun completedAt => ⟨trivial, fun count => ?_⟩⟩
    show Accounted _ _ _ ((ite _ _ _ : IdempotencyProgram (Option Nat)) >>= _)
    split
    · trivial
    · refine ⟨trivial, fun row => ?_⟩
      cases (row : Option IdempotencyRow) with
      | none => trivial
      | some row =>
        refine ⟨trivial, fun now => ?_⟩
        show Accounted _ _ _ (ite _ _ _)
        split
        · exact ⟨trivial, fun _ => trivial⟩
        · trivial
  | fail reservation =>
    refine ⟨trivial, fun count => ?_⟩
    show Accounted _ _ _ (ite _ _ _)
    split
    · trivial
    · exact ⟨trivial, fun _ => trivial⟩
  | purgeExpired => exact ⟨trivial, fun now => ⟨by simp [because], fun _ => trivial⟩⟩

end Accounts

end DddBoilerplate.Idempotency
