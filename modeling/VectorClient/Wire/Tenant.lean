import VectorClient.Wire.Vectors

/-!
# Tenant messages
-/

namespace VectorClient.Wire

structure TenantsRequest where
  collection : String
  names : Option (List String)
deriving DecidableEq, Repr

structure Tenant where
  name : String
  activityStatus : Int32
deriving DecidableEq, Repr

structure TenantsReply where
  tenants : List Tenant := []
deriving DecidableEq, Repr

def TenantsRequest.toFields (r : TenantsRequest) : Fields :=
  .plain 1 (.string r.collection) ++
    .optional 2 (r.names.map fun names => .message (texts 1 names))

def TenantsReply.ofFields (f : Fields) : TenantsReply :=
  { tenants := (f.messages 2).map fun t => ⟨t.string 1, t.int32 2⟩ }

end VectorClient.Wire
