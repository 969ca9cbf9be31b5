import VectorClient.Json.Source
import VectorClient.Tenant.Basic

/-!
# Tenants as documents
-/

namespace VectorClient

open Json (Source)

namespace TenantStatus

def toJson : TenantStatus → Json
  | .active => .string "Active"
  | .inactive => .string "Inactive"
  | .offloaded => .string "Offloaded"
  | .offloading => .string "Offloading"
  | .onloading => .string "Onloading"
  | .unknown raw => .object [("Unknown", .string raw)]

/-- The status that is written by its name alone. -/
def ofPlainName? : String → Option TenantStatus
  | "Active" => some .active
  | "Inactive" => some .inactive
  | "Offloaded" => some .offloaded
  | "Offloading" => some .offloading
  | "Onloading" => some .onloading
  | _ => none

def ofSource? : Json.Decoder TenantStatus := fun s => do
  let (name, value) ← s.variant?
  if name = "Unknown" then return .unknown (← Source.required Source.string? value)
  else
    let status ← ofPlainName? name
    if Source.isUnit value then return status else none

end TenantStatus

namespace Tenant

def toJson (t : Tenant) : Json :=
  .object [("name", .string t.name), ("activity_status", t.status.toJson)]

def ofSource? : Json.Decoder Tenant := fun s => do
  match ← s.fields? ["name", "activity_status"] with
  | [name, status] =>
    let name ← Source.required Source.string? name
    let status ← Source.required TenantStatus.ofSource? status
    return { name, status }
  | _ => none

end Tenant

end VectorClient
