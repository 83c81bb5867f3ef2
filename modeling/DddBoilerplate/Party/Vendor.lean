/- module: DddBoilerplate/Party/Vendor
   generality: I
   digest: Vendors: what their factory checks, their rows, and the use case that creates one. -/

import DddBoilerplate.Domain.Text
import DddBoilerplate.Procurement.UseCases

set_option autoImplicit false
set_option relaxedAutoImplicit false
set_option linter.all false

namespace DddBoilerplate.Party

open Domain Procurement Store

inductive VendorStatus where
  | active | inactive | blocked
  deriving DecidableEq

structure CreateVendorInput where
  code : String
  name : String
  email : Option String
  phone : Option String
  address : Option String

structure Vendor where
  id : String
  code : String
  name : String
  email : Option String
  phone : Option String
  address : Option String
  status : VendorStatus
  createdAt : Nat
  updatedAt : Nat
  version : Nat
  deriving DecidableEq

/-- The one event a new vendor holds. -/
structure VendorCreated where
  vendorId : String
  code : String
  name : String
  deriving DecidableEq

/-- The case mappings of the language. -/
structure Casing where
  toUpperCase : String → String
  toLowerCase : String → String

section Invariants

/-- `/^[A-Z0-9-]{2,32}$/` -/
def isVendorCode (s : String) : Bool :=
  2 ≤ s.length && s.length ≤ 32 &&
    s.toList.all fun c => ('A' ≤ c && c ≤ 'Z') || ('0' ≤ c && c ≤ '9') || c = '-'

/-- `/^[^\s@]+@[^\s@]+\.[^\s@]+$/` -/
def isVendorEmail (s : String) : Bool :=
  match s.splitOn "@" with
  | [local_, domain] =>
    local_ ≠ "" && !(s.toList.any Text.isSpace) &&
      ((domain.toList.drop 1).dropLast).contains '.'
  | _ => false

/-- `input ? … : …` -/
def truthy (input : Option String) : Option String := input.filter (· ≠ "")

/-- `vendor.create` -/
def vendorCreate (input : CreateVendorInput) : Except Failure Unit := do
  require (Text.trim input.code ≠ "") ⟨422, "Vendor code is required"⟩
  require (Text.trim input.name ≠ "") ⟨422, "Vendor name is required"⟩
  require (∀ email ∈ input.email, Text.trim email ≠ "") ⟨422, "Vendor email cannot be blank"⟩

variable (casing : Casing)

/-- `vendor-code.create` -/
def vendorCodeCreate (code : String) : Except Failure Unit := do
  let normalized := casing.toUpperCase (Text.trim code)
  require (normalized ≠ "") ⟨422, "Vendor code cannot be empty"⟩
  require (isVendorCode normalized = true)
    ⟨422, "Vendor code must be 2-32 chars of letters, digits or dashes"⟩

/-- `vendor-name.create` -/
def vendorNameCreate (name : String) : Except Failure Unit := do
  require (Text.trim name ≠ "") ⟨422, "Vendor name cannot be empty"⟩
  require (Text.utf16Length (Text.trim name) ≤ 200)
    ⟨422, "Vendor name cannot exceed 200 characters"⟩

/-- `vendor-email.create`, of an email that there is. -/
def vendorEmailCreate (email : String) : Except Failure Unit :=
  require (isVendorEmail (casing.toLowerCase (Text.trim email)) = true)
    ⟨422, "Invalid vendor email"⟩

end Invariants

section Factory

variable (casing : Casing)

/-- `VendorFactory.create`; the identifier and the clock enter as arguments. -/
def vendorFactoryCreate (input : CreateVendorInput) (id : String) (now : Nat) :
    Except Failure (Vendor × VendorCreated) := do
  vendorCreate input
  vendorCodeCreate casing input.code
  vendorNameCreate input.name
  (truthy input.email).forM (vendorEmailCreate casing)
  let vendor : Vendor :=
    { id := id
      code := casing.toUpperCase (Text.trim input.code)
      name := Text.trim input.name
      email := (truthy input.email).map fun email => casing.toLowerCase (Text.trim email)
      phone := truthy (input.phone.map Text.trim)
      address := truthy (input.address.map Text.trim)
      status := .active
      createdAt := now
      updatedAt := now
      version := 1 }
  return (vendor, ⟨vendor.id, vendor.code, vendor.name⟩)

end Factory

/-- A row of `vendors`. -/
structure VendorRow extends Vendor where
  tenantId : Option String
  companyId : String
  deriving DecidableEq

/-- A row of the outbox with the event of a vendor. -/
structure VendorEnvelope where
  tenantId : Option String
  companyId : Option String
  event : VendorCreated
  deriving DecidableEq

structure VendorDb where
  vendors : Table fun row : VendorRow => row.id
  outbox : List VendorEnvelope

section UseCases

variable (wiring : Wiring) (casing : Casing) (ctx : RequestContext)

/-- `sharedScope`: rows without a tenant are visible to all of them. -/
def shares (tenantId : Option String) : Bool := ctx.owns tenantId || tenantId.isNone

/-- `findByCode` -/
def findByCode (db : VendorDb) (code : String) : Option VendorRow :=
  db.vendors.rows.find? fun row => row.code = code && shares ctx row.tenantId

/-- `save`: the code is unique within the company. -/
def save (db : VendorDb) (vendor : Vendor) : Except Failure VendorDb :=
  let row : VendorRow := ⟨vendor, ctx.tenantId, ctx.company⟩
  if db.vendors.get? row.id = none ∧
      ∀ other ∈ db.vendors.rows, other.companyId = row.companyId → other.code ≠ row.code then
    .ok { db with vendors := db.vendors.insert row }
  else .error prismaError

/-- `CreateVendorUseCase.execute` -/
def createVendor (input : CreateVendorInput) (id : String) (now : Nat) (db : VendorDb) :
    Except Failure VendorDb := do
  authorize wiring ctx "Vendor" "create"
  let (vendor, event) ← vendorFactoryCreate casing input id now
  require (findByCode ctx db vendor.code = none)
    ⟨409, s!"Vendor with code \"{vendor.code}\" already exists"⟩
  let saved ← save ctx db vendor
  return { saved with outbox := saved.outbox ++ [⟨ctx.tenantId, ctx.companyId, event⟩] }

end UseCases

end DddBoilerplate.Party
