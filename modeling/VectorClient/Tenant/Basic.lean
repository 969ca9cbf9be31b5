/-!
# Tenants

A tenant of a collection and whether its data is at hand. Statuses are kept by their present
meaning, whatever name a server uses for them.
-/

namespace VectorClient

inductive TenantStatus
  | active
  | inactive
  | offloaded
  | offloading
  | onloading
  /-- A name without a known meaning, kept as it is. -/
  | unknown (raw : String)
deriving DecidableEq, Repr

structure Tenant where
  name : String
  status : TenantStatus := .active
deriving DecidableEq, Repr

end VectorClient
