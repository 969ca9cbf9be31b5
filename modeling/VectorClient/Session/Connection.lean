import VectorClient.Capability
import VectorClient.Wire.Batch
import VectorClient.Wire.Reply
import VectorClient.Wire.Search
import VectorClient.Wire.Tenant

/-!
# Connections

A connection records the calls that were made on it, in order, and keeps the version of the server
once it is known. What lies behind it is a `Backend`: its answers may depend on all calls so far.
-/

namespace VectorClient

open Number

inductive Call
  | version
  | search (request : Wire.SearchRequest)
  | batch (request : Wire.BatchRequest)
  | tenants (request : Wire.TenantsRequest)
deriving Repr, BEq

/-- What a connection depends on. Answers are given to the last of the calls so far. -/
structure Backend where
  version : List Call → Except Error Version
  search : List Call → Except Error Wire.SearchReply
  batch : List Call → Except Error Wire.BatchReply
  tenants : List Call → Except Error Wire.TenantsReply
  /-- How many seconds the last call took. -/
  elapsed : List Call → Double
  file : String → Option (List UInt8)
  freshId : Nat → Uuid

structure Connection where
  calls : List Call := []
  capabilities : Option Capabilities := none
  /-- How many fresh ids have been given out. -/
  issued : Nat := 0
deriving Repr

/-- A step on a connection. What was called stays called, also if the step fails. -/
abbrev Action (α : Type) := Backend → Connection → Except Error α × Connection

namespace Action

variable {α β : Type}

def pure (a : α) : Action α := fun _ c => (.ok a, c)

def bind (x : Action α) (f : α → Action β) : Action β := fun backend c =>
  match x backend c with
  | (.ok a, c) => f a backend c
  | (.error e, c) => (.error e, c)

instance : Monad Action where
  pure := pure
  bind := bind

/-- A step that does not touch the connection. -/
def lift (r : Except Error α) : Action α := fun _ c => (r, c)

/-- A step that looks at files alone. -/
def withFiles (f : (String → Option (List UInt8)) → Except Error α) : Action α :=
  fun backend c => (f backend.file, c)

/-- Records a call and takes its answer. -/
def send (call : Call) (answer : Backend → List Call → Except Error α) : Action α :=
  fun backend c =>
    let calls := c.calls ++ [call]
    (answer backend calls, { c with calls })

end Action

namespace Connection

/-- What the server accepts. Its version is asked for until it is known, and then kept. -/
def resolve : Action Capabilities := fun backend c =>
  match c.capabilities with
  | some caps => (.ok caps, c)
  | none =>
    match Action.send .version Backend.version backend c with
    | (.ok version, c) => (.ok ⟨version⟩, { c with capabilities := some ⟨version⟩ })
    | (.error e, c) => (.error e, c)

def search (request : Wire.SearchRequest) : Action Wire.SearchReply :=
  Action.send (.search request) Backend.search

def batch (request : Wire.BatchRequest) : Action (Wire.BatchReply × Double) :=
  Action.send (.batch request) fun backend calls =>
    (backend.batch calls).map fun reply => (reply, backend.elapsed calls)

def tenants (request : Wire.TenantsRequest) : Action Wire.TenantsReply :=
  Action.send (.tenants request) Backend.tenants

end Connection

end VectorClient
