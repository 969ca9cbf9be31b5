/-!
# Filter targets

A target is a property, the count of a reference, or a chain of references. A chain is open while
it ends in a link; `extend` puts another target behind that link.
-/

namespace VectorClient.Filter

/-- A reference to follow; the collection is set where it may lead into several. -/
structure Link where
  name : String
  collection : Option String := none
deriving DecidableEq, Repr

inductive Target
  | property (name : String)
  /-- How many objects a reference leads to. -/
  | count (link : String)
  /-- A chain that ends in a link. -/
  | dangling (link : Link)
  | via (link : Link) (next : Target)
deriving DecidableEq, Repr

namespace Target

/-- Whether the chain ends in a property or a count. -/
def isTerminal : Target → Bool
  | .property _ => true
  | .count _ => true
  | .dangling _ => false
  | .via _ next => next.isTerminal

/-- The chain as text, with a question mark for an open end. -/
def path : Target → String
  | .property name => name
  | .count link => "count(" ++ link ++ ")"
  | .dangling link => link.name ++ ">?"
  | .via link next => link.name ++ ">" ++ next.path

/-- Puts `leaf` behind the open end; a terminal target has none and stays. -/
def extend (chain leaf : Target) : Target :=
  match chain with
  | .property name => .property name
  | .count link => .count link
  | .dangling link => .via link leaf
  | .via link next => .via link (next.extend leaf)

/-! ### Properties that every object has -/

def id : Target := .property "_id"

def creationTime : Target := .property "_creationTimeUnix"

def updateTime : Target := .property "_lastUpdateTimeUnix"

/-- The length of a text or a list. -/
def length (name : String) : Target := .property ("len(" ++ name ++ ")")

end Target

/-- A chain of references that still needs its end. -/
structure Traversal where
  chain : Target
deriving DecidableEq, Repr

namespace Traversal

def start (link : Link) : Traversal := ⟨.dangling link⟩

def follow (t : Traversal) (link : Link) : Traversal := ⟨t.chain.extend (.dangling link)⟩

def finish (t : Traversal) (leaf : Target) : Target := t.chain.extend leaf

end Traversal

end VectorClient.Filter
