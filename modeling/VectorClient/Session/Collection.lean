import VectorClient.Batch.Wire
import VectorClient.Config.Settings
import VectorClient.Reply.Wire
import VectorClient.Search.Composition
import VectorClient.Session.Connection
import VectorClient.Tenant.Wire

/-!
# Collections

What can be done with one collection over a connection. Everything that can be checked is checked
before anything is sent.
-/

namespace VectorClient

structure Collection where
  context : CollectionContext
  batchSize : Nat := ({} : Settings).batchSize
  batchSize_pos : 0 < batchSize := by decide
deriving Repr

namespace Collection

/-! ### Deriving collections -/

def withBatchSize (c : Collection) (size : Nat) : Collection :=
  { c with batchSize := max size 1, batchSize_pos := by omega }

/-- The same collection with the objects of a tenant. -/
def withTenant (c : Collection) (tenant : String) : Collection :=
  { c with context := { c.context with tenant := some tenant } }

def withConsistencyLevel (c : Collection) (level : ConsistencyLevel) : Collection :=
  { c with context := { c.context with consistencyLevel := some level } }

def ofSettings (name : String) (s : Settings) : Collection :=
  ({ context := { name, consistencyLevel := s.consistencyLevel } } : Collection).withBatchSize
    s.batchSize

/-! ### Searching

What is added to a request is added by a builder of its own, for which the version is looked up
once more. -/

def builder (c : Collection) : Action Search.RequestBuilder := do
  let caps ← Connection.resolve
  return ⟨c.context, caps⟩

/-- The request for a search, which is not sent. -/
def buildRequest (c : Collection) (s : Search) : Action Wire.SearchRequest := do
  let b ← c.builder
  .withFiles fun files => b.request files s

def query (c : Collection) (s : Search) : Action (List Object) := do
  let request ← c.buildRequest s
  let reply ← Connection.search request
  .lift (reply.objects c.context.name)

def queryGrouped (c : Collection) (s : Search) (g : Search.GroupByOptions) :
    Action (GroupedResult Object) := do
  let request ← c.buildRequest s
  let _ ← c.builder
  let request ← .lift (Search.withGroupBy request g)
  let reply ← Connection.search request
  .lift (reply.grouped c.context.name)

def generate (c : Collection) (s : Search) (g : Search.GenerativeOptions) :
    Action GenerativeResult := do
  let request ← c.buildRequest s
  let _ ← c.builder
  let request ← .lift (Search.withGenerative request g)
  let reply ← Connection.search request
  .lift (reply.generated c.context.name)

def generateGrouped (c : Collection) (s : Search) (generative : Search.GenerativeOptions)
    (g : Search.GroupByOptions) : Action (GroupedResult Generated) := do
  let request ← c.buildRequest s
  let _ ← c.builder
  let request ← .lift (Search.withGroupBy request g)
  let request ← .lift (Search.withGenerative request generative)
  let reply ← Connection.search request
  .lift (reply.generatedGroups c.context.name)

def fetchById (c : Collection) (id : Uuid) (options : Search.CommonOptions) :
    Action (Option Object) := do
  let b ← c.builder
  let request ← .lift (b.fetchById id options)
  let reply ← Connection.search request
  let objects ← .lift (reply.objects c.context.name)
  return objects.head?

/-! ### Inserting -/

/-- Objects without a collection go into this one. -/
def fillCollection (c : Collection) (o : BatchObject) : BatchObject :=
  if o.collection = "" then { o with collection := c.context.name } else o

/-- The wire objects of a batch, with fresh ids where the caller gave none. -/
def mapObjects (c : Collection) (caps : Capabilities) (objects : List BatchObject) :
    Action (List Wire.BatchObject) := fun backend connection =>
  match Batch.toWire backend.freshId connection.issued c.context.usesNamedVectors c.context.tenant
      caps objects with
  | .ok sent =>
    (.ok sent, { connection with issued := connection.issued + BatchObject.countUnnamed objects })
  | .error e => (.error e, connection)

/-- Sends the pieces of a batch one after the other and adds their outcomes; the first piece that
fails is the last. -/
def sendPieces (level : Option Int32) (result : BatchResult) :
    List (List BatchObject × List Wire.BatchObject) → Action BatchResult
  | [] => pure result
  | (objects, sent) :: rest => do
    let (reply, elapsed) ← Connection.batch ⟨sent, level⟩
    let outcome ← .lift (Batch.ofReply reply objects sent elapsed)
    sendPieces level (result.merge outcome) rest

/-- Inserts objects in pieces of the batch size. Objects that the server refuses are part of the
outcome. -/
def insertMany (c : Collection) (objects : List BatchObject) : Action BatchResult := do
  let caps ← Connection.resolve
  let objects := objects.map c.fillCollection
  let sent ← c.mapObjects caps objects
  sendPieces (c.context.consistencyLevel.map ConsistencyLevel.number) {}
    ((chunks c.batchSize objects).zip (chunks c.batchSize sent))

/-! ### Tenants -/

/-- The tenants of the collection, all of them or those with certain names. -/
def tenants (c : Collection) (names : Option (List String)) : Action (List Tenant) := do
  let reply ← Connection.tenants ⟨c.context.name, names⟩
  .lift reply.read

end Collection

end VectorClient
