import VectorClient.Wire.Batch
import VectorClient.Wire.Decode
import VectorClient.Wire.Named
import VectorClient.Wire.Reply
import VectorClient.Wire.Search
import VectorClient.Wire.Tenant

/-!
# Messages of a type

A type whose values are sent, or received, as messages of one declared type. Its bytes and its named
form follow from the fields.
-/

namespace VectorClient.Wire

/-- Values that are sent as messages. -/
class Outgoing (α : Type) where
  type : MessageType
  toFields : α → Fields

/-- Values that are received as messages. -/
class Incoming (α : Type) where
  type : MessageType
  ofFields : Fields → α

namespace Outgoing

variable {α : Type} [Outgoing α]

def bytes (a : α) : Bytes := encode (type α) (toFields a)

def named (a : α) : Json := toNamed (type α) (toFields a)

instance : Outgoing Properties := ⟨.properties, Properties.toFields⟩
instance : Outgoing Value := ⟨.value, Value.toFields⟩
instance : Outgoing Vectors := ⟨.vectors, Vectors.toFields⟩
instance : Outgoing Filters := ⟨.filters, Filters.toFields⟩
instance : Outgoing FilterTarget := ⟨.filterTarget, FilterTarget.toFields⟩
instance : Outgoing Move := ⟨.move, Move.toFields⟩
instance : Outgoing SearchOperatorOptions := ⟨.searchOperatorOptions, SearchOperatorOptions.toFields⟩
instance : Outgoing SearchRequest := ⟨.searchRequest, SearchRequest.toFields⟩
instance : Outgoing BatchObject := ⟨.batchObject, BatchObject.toFields⟩
instance : Outgoing BatchRequest := ⟨.batchObjectsRequest, BatchRequest.toFields⟩
instance : Outgoing TenantsRequest := ⟨.tenantsGetRequest, TenantsRequest.toFields⟩

end Outgoing

namespace Incoming

variable {α : Type} [Incoming α]

def ofBytes? (b : Bytes) : Option α := (decode (type α) b).map ofFields

def ofNamed? (j : Json) : Option α := (Wire.ofNamed? (type α) j).map ofFields

instance : Incoming Properties := ⟨.properties, Properties.ofFields⟩
instance : Incoming Value := ⟨.value, Value.ofFields⟩
instance : Incoming Vectors := ⟨.vectors, Vectors.ofFields⟩
instance : Incoming MetadataResult := ⟨.metadataResult, MetadataResult.ofFields⟩
instance : Incoming SearchReply := ⟨.searchReply, SearchReply.ofFields⟩
instance : Incoming BatchObject := ⟨.batchObject, BatchObject.ofFields⟩
instance : Incoming BatchReply := ⟨.batchObjectsReply, BatchReply.ofFields⟩
instance : Incoming TenantsReply := ⟨.tenantsGetReply, TenantsReply.ofFields⟩

end Incoming

end VectorClient.Wire
