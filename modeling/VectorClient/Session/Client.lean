import VectorClient.Session.Operation

/-!
# Clients

A client works on one collection over one of the connections that are open. What is derived from it
stays on its connection, and so shares the version of the server with it.
-/

namespace VectorClient

structure Client where
  collection : Collection
  /-- Which of the open connections it is on. -/
  connection : Nat

namespace Client

def withBatchSize (k : Client) (size : Nat) : Client :=
  { k with collection := k.collection.withBatchSize size }

def withTenant (k : Client) (tenant : String) : Client :=
  { k with collection := k.collection.withTenant tenant }

def withConsistencyLevel (k : Client) (level : ConsistencyLevel) : Client :=
  { k with collection := k.collection.withConsistencyLevel level }

/-- An operation over the connection of the client, with all that are open. -/
def perform (k : Client) (op : Operation) (backends : Nat → Backend)
    (connections : Nat → Connection) : Except Error Answer × (Nat → Connection) :=
  let (outcome, after) :=
    k.collection.perform op (backends k.connection) (connections k.connection)
  (outcome, fun i => if i = k.connection then after else connections i)

end Client

end VectorClient
