import VectorClient.Number.Power

/-!
# Arithmetic of powers

What is used of the powers of two, for which only the exponent counts.
-/

namespace VectorClient.Number

theorem pow2_pos (n : Nat) : 0 < pow2 n := Nat.pow_pos (by decide)

@[simp] theorem pow2_zero : pow2 0 = 1 := rfl

theorem pow2_succ (n : Nat) : pow2 (n + 1) = 2 * pow2 n := Nat.mul_comm _ _

theorem pow2_add (m n : Nat) : pow2 (m + n) = pow2 m * pow2 n := by
  induction n with
  | zero => exact (Nat.mul_one _).symm
  | succ n ih => rw [← Nat.add_assoc, pow2_succ, ih, pow2_succ, Nat.mul_left_comm]

theorem pow2_le {m n : Nat} (le : m ≤ n) : pow2 m ≤ pow2 n := by
  obtain ⟨k, rfl⟩ := Nat.exists_eq_add_of_le le
  rw [pow2_add]
  exact Nat.le_mul_of_pos_right _ (pow2_pos k)

theorem pow2_dvd {m n : Nat} (le : m ≤ n) : pow2 m ∣ pow2 n := by
  obtain ⟨k, rfl⟩ := Nat.exists_eq_add_of_le le
  exact ⟨pow2 k, pow2_add m k⟩

theorem pow2_log2_le {n : Nat} (positive : 0 < n) : pow2 n.log2 ≤ n :=
  Nat.log2_self_le (Nat.ne_of_gt positive)

theorem lt_pow2_log2 (n : Nat) : n < pow2 (n.log2 + 1) := Nat.lt_log2_self

end VectorClient.Number
