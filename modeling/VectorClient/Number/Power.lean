/-!
# Powers and word ranges

Powers of two and ten, and which whole numbers a word with a sign can hold. Powers are stated with
`Nat.pow`, so that they are the same terms whatever algebra is in scope.
-/

namespace VectorClient.Number

def pow2 (n : Nat) : Nat := Nat.pow 2 n

def pow10 (n : Nat) : Nat := Nat.pow 10 n

/-- Whether a word of `bits` bits with a sign can hold the number. -/
def fitsSigned (bits : Nat) (n : Int) : Bool :=
  -(pow2 (bits - 1) : Int) ≤ n && n < pow2 (bits - 1)

end VectorClient.Number
