/-!
# Pieces of one size

A list is cut into pieces of one size, of which only the last may be shorter.
-/

namespace VectorClient

variable {α : Type}

/-- Pieces of `size` from the front, at most `count` of them. -/
def chunksUpTo (size : Nat) : Nat → List α → List (List α)
  | 0, _ => []
  | _ + 1, [] => []
  | count + 1, xs => xs.take size :: chunksUpTo size count (xs.drop size)

/-- All pieces of a positive `size`. -/
def chunks (size : Nat) (xs : List α) : List (List α) := chunksUpTo size xs.length xs

end VectorClient
