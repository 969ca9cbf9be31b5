import VectorClient.Session.Collection

/-!
# Operations

All that a caller can ask of a collection, and what is answered.
-/

namespace VectorClient

inductive Operation
  | capabilities
  | buildRequest (s : Search)
  | query (s : Search)
  | queryGrouped (s : Search) (g : Search.GroupByOptions)
  | generate (s : Search) (g : Search.GenerativeOptions)
  | generateGrouped (s : Search) (generative : Search.GenerativeOptions) (g : Search.GroupByOptions)
  | fetchById (id : Uuid) (o : Search.CommonOptions)
  | insertMany (objects : List BatchObject)
  | tenants (names : Option (List String))

inductive Answer
  | capabilities (caps : Capabilities)
  | request (r : Wire.SearchRequest)
  | objects (found : List Object)
  | groups (found : GroupedResult Object)
  | generated (found : GenerativeResult)
  | generatedGroups (found : GroupedResult Generated)
  | object (found : Option Object)
  | inserted (result : BatchResult)
  | tenants (found : List Tenant)

def Collection.perform (c : Collection) : Operation → Action Answer
  | .capabilities => do return .capabilities (← Connection.resolve)
  | .buildRequest s => do return .request (← c.buildRequest s)
  | .query s => do return .objects (← c.query s)
  | .queryGrouped s g => do return .groups (← c.queryGrouped s g)
  | .generate s g => do return .generated (← c.generate s g)
  | .generateGrouped s generative g => do
    return .generatedGroups (← c.generateGrouped s generative g)
  | .fetchById id o => do return .object (← c.fetchById id o)
  | .insertMany objects => do return .inserted (← c.insertMany objects)
  | .tenants names => do return .tenants (← c.tenants names)

end VectorClient
