import VectorClient.Proofs.Number.Rounding

/-!
# Whole numbers that are doubles

The double of a whole number has the value of the number iff there is a double of that value.
-/

namespace VectorClient.Number

/-- The exact value of a finite double, in units. -/
def Double.value? (x : Double) : Option Int := if x.isFinite then some x.units else none

/-- Some double has the value of the whole number. -/
def Representable (n : Int) : Prop := ∃ x : Double, x.value? = some (n * Format.double.one)

namespace Double

theorem value?_eq_some {x : Double} {u : Int} :
    x.value? = some u ↔ x.isFinite = true ∧ x.units = u := by
  unfold value?
  split
  · rename_i finite
    simp [finite]
  · rename_i infinite
    simp [infinite]

theorem signed_natAbs (n : Int) (one : Nat) :
    (if n < 0 then -((n.natAbs * one : Nat) : Int) else ((n.natAbs * one : Nat) : Int)) =
      n * one := by
  rw [Int.natCast_mul]
  split
  · rename_i negative
    rw [← Int.neg_mul, Int.ofNat_natAbs_of_nonpos (Int.le_of_lt negative), Int.neg_neg]
  · rename_i nonnegative
    rw [Int.natAbs_of_nonneg (Int.not_lt.mp nonnegative)]

theorem Exact.value?_ofInt {n : Int} (exact : Exact n) :
    (Double.ofInt n).value? = some (n * Format.double.one) := by
  obtain ⟨finite, sign, same⟩ := exact.ofInt
  rw [value?_eq_some, Double.units, sign, same, ← signed_natAbs]
  exact ⟨finite, by simp only [decide_eq_true_eq]⟩

theorem magnitude_of_value? {x : Double} {n : Int} {one : Nat}
    (exact : x.value? = some (n * one)) :
    x.magnitude < Format.double.infinity ∧
      Format.double.units x.magnitude = n.natAbs * one := by
  obtain ⟨finite, value⟩ := value?_eq_some.mp exact
  have abs := congrArg Int.natAbs value
  rw [Int.natAbs_mul, units, apply_ite Int.natAbs, Int.natAbs_neg, ite_self] at abs
  exact ⟨of_decide_eq_true finite, abs⟩

theorem value?_ofInt_iff {n : Int} :
    (ofInt n).value? = some (n * Format.double.one) ↔ Representable n := by
  refine ⟨fun exact => ⟨ofInt n, exact⟩, ?_⟩
  rintro ⟨x, exact⟩
  obtain ⟨finite, same⟩ := magnitude_of_value? exact
  exact (exact_of_units finite same).value?_ofInt

theorem representable_of_small {n : Int} (small : n.natAbs ≤ pow2 53) : Representable n :=
  value?_ofInt_iff.mp (exact_of_small small).value?_ofInt

end Double

end VectorClient.Number
