import VectorClient.Capability
import VectorClient.Config.Variables

/-!
# Settings

How to reach a server and how to talk to it. Without a version the server is taken to be the
latest.
-/

namespace VectorClient

structure Settings where
  url : String := "http://localhost:50051"
  serverVersion : Option String := none
  timeoutSeconds : Nat := 30
  batchSize : Nat := 100
  consistencyLevel : Option ConsistencyLevel := none
deriving DecidableEq, Repr

namespace Settings

def capabilities (s : Settings) : Except Error Capabilities :=
  match s.serverVersion with
  | none => .ok .latest
  | some raw => (Version.read raw).map Capabilities.mk

/-! ### Settings from the environment -/

def batchSizeKey : String := "WEAVIATE_BATCH_SIZE"
def consistencyLevelKey : String := "WEAVIATE_CONSISTENCY_LEVEL"
def urlKey : String := "WEAVIATE_GRPC_URL"
def serverVersionKey : String := "WEAVIATE_SERVER_VERSION"
def timeoutKey : String := "WEAVIATE_TIMEOUT_SECS"

/-- The name of a level, in letters of either case. -/
def readLevel (raw : String) : Except String ConsistencyLevel :=
  match ConsistencyLevel.read? raw with
  | some level => .ok level
  | none => .error "Matching variant not found"

def batchSizeOf (env : Variables) : Except ConfigFault Nat := do
  let size ← env.parse Variables.readNat batchSizeKey ({} : Settings).batchSize
  if size = 0 then .error (.badVariable batchSizeKey "batch size must be at least 1")
  else return size

/-- A blank level is none. -/
def consistencyLevelOf (env : Variables) : Except ConfigFault (Option ConsistencyLevel) :=
  match env.optional consistencyLevelKey with
  | none => .ok none
  | some raw =>
    match readLevel (Text.trim raw) with
    | .ok level => .ok (some level)
    | .error details => .error (.badVariable consistencyLevelKey details)

/-- Settings from variables; those that are unset have their defaults. -/
def ofVariables (env : Variables) : Except ConfigFault Settings := do
  let defaults : Settings := {}
  let batchSize ← batchSizeOf env
  let consistencyLevel ← consistencyLevelOf env
  let timeoutSeconds ← env.parse Variables.readNat timeoutKey defaults.timeoutSeconds
  return {
    url := env.orDefault urlKey defaults.url
    serverVersion := env.optional serverVersionKey
    timeoutSeconds
    batchSize
    consistencyLevel }

end Settings

end VectorClient
