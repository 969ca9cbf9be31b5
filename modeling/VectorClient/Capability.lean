import VectorClient.Version

/-!
# Capabilities

Features whose messages a server understands from a version on. A feature of an older server is
never used in a message; asking for it is an error that names it.
-/

namespace VectorClient

inductive Capability
  /-- Lists that are typed as a whole. -/
  | typedListValues
  | multiTargetSearch
  | perTargetWeights
  /-- A multi-vector, or several vectors, for one target. -/
  | multiVectorPerTarget
  /-- How many words of a keyword query must match. -/
  | keywordOperator
  /-- The present names of tenant statuses. -/
  | offloadedTenantNames
deriving DecidableEq, Repr

namespace Capability

def all : List Capability :=
  [.typedListValues, .multiTargetSearch, .perTargetWeights, .multiVectorPerTarget,
    .keywordOperator, .offloadedTenantNames]

def since : Capability → Version
  | .typedListValues => ⟨1, 25, 0⟩
  | .multiTargetSearch => ⟨1, 26, 0⟩
  | .offloadedTenantNames => ⟨1, 26, 0⟩
  | .perTargetWeights => ⟨1, 27, 0⟩
  | .multiVectorPerTarget => ⟨1, 27, 0⟩
  | .keywordOperator => ⟨1, 31, 0⟩

def description : Capability → String
  | .typedListValues => "Typed list property values"
  | .multiTargetSearch => "Multi-target vector search"
  | .perTargetWeights => "Per-target vector weights"
  | .multiVectorPerTarget => "Multiple vectors per target"
  | .keywordOperator => "BM25 search operators"
  | .offloadedTenantNames => "Offloaded tenant activity statuses"

end Capability

/-- What the server of a version accepts. -/
structure Capabilities where
  version : Version
deriving DecidableEq, Repr, Inhabited

namespace Capabilities

/-- Everything that this library can say. -/
def latest : Capabilities := ⟨⟨1, 31, 0⟩⟩

def supports (caps : Capabilities) (c : Capability) : Bool := c.since ≤ caps.version

def unsupported (caps : Capabilities) (c : Capability) : Error :=
  .unsupportedFeature c.description caps.version.text

def require (caps : Capabilities) (c : Capability) : Except Error Unit :=
  if caps.supports c then .ok () else .error (caps.unsupported c)

end Capabilities

end VectorClient
