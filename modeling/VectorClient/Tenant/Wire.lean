import VectorClient.Capability
import VectorClient.Tenant.Basic
import VectorClient.Wire.Enumeration
import VectorClient.Wire.Tenant

/-!
# Tenant statuses by name and number

Servers have renamed their statuses. Every name and number that was ever used is read; written are
the names that the server knows and the present numbers.
-/

namespace VectorClient

namespace TenantStatus

/-! ### Names -/

/-- The status of a name, present or older; any other name is kept. -/
def ofName : String → TenantStatus
  | "ACTIVE" | "HOT" => .active
  | "INACTIVE" | "COLD" => .inactive
  | "OFFLOADED" | "FROZEN" => .offloaded
  | "OFFLOADING" | "FREEZING" => .offloading
  | "ONLOADING" | "UNFREEZING" => .onloading
  | raw => .unknown raw

/-- The name of servers that know the present names. -/
def presentName : TenantStatus → String
  | .active => "ACTIVE"
  | .inactive => "INACTIVE"
  | .offloaded => "OFFLOADED"
  | .offloading => "OFFLOADING"
  | .onloading => "ONLOADING"
  | .unknown raw => raw

/-- The name of older servers. -/
def olderName : TenantStatus → String
  | .active => "HOT"
  | .inactive => "COLD"
  | .offloaded => "FROZEN"
  | .offloading => "FREEZING"
  | .onloading => "UNFREEZING"
  | .unknown raw => raw

def nameFor (caps : Capabilities) (status : TenantStatus) : String :=
  if caps.supports .offloadedTenantNames then status.presentName else status.olderName

/-! ### Numbers -/

/-- The text of a number in errors: its name in the contract, if it has one. -/
def numberText (n : Int32) : String :=
  (Wire.EnumType.tenantActivityStatus.valueName? n.toInt).getD (toString n.toInt)

/-- The status of a number, present or older. -/
def ofNumber (n : Int32) : Except Error TenantStatus :=
  match n.toInt with
  | 7 | 1 => .ok .active
  | 8 | 2 => .ok .inactive
  | 9 | 4 => .ok .offloaded
  | 10 | 6 => .ok .offloading
  | 11 | 5 => .ok .onloading
  | _ => .error (.unsupportedStatus (numberText n))

def number : TenantStatus → Except Error Int32
  | .active => .ok 7
  | .inactive => .ok 8
  | .offloaded => .ok 9
  | .offloading => .ok 10
  | .onloading => .ok 11
  | .unknown raw => .error (.unsupportedStatus raw)

end TenantStatus

def Tenant.ofWire (t : Wire.Tenant) : Except Error Tenant := do
  let status ← TenantStatus.ofNumber t.activityStatus
  return { name := t.name, status }

/-- The tenants of a reply, or the error of the first with an unknown status. -/
def Wire.TenantsReply.read (reply : Wire.TenantsReply) : Except Error (List VectorClient.Tenant) :=
  reply.tenants.mapM Tenant.ofWire

end VectorClient
