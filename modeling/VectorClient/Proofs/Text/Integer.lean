import VectorClient.Text.Integer

/-!
# Whole numbers that are read

A text without a minus sign is read as a whole number iff it holds decimal digits, at least one,
behind at most one plus sign, and the number that they spell is within the limit.
-/

namespace VectorClient.Text

/-! ### Digits -/

theorem digitValue?_of_isDigit {c : Char} (digit : c.isDigit = true) :
    digitValue? c = some (c.toNat - '0'.toNat) := by
  have range : '0' ≤ c ∧ c ≤ '9' := by
    simp only [Char.isDigit, Bool.and_eq_true, decide_eq_true_eq] at digit
    exact digit
  exact if_pos range

theorem digitValue?_of_not_isDigit {c : Char} (other : ¬ c.isDigit = true) :
    digitValue? c = none := by
  refine if_neg fun range => other ?_
  simp only [Char.isDigit, Bool.and_eq_true, decide_eq_true_eq]
  exact range

/-- Digits that follow a number only make it larger. -/
theorem le_ofDigitChars (digits : List Char) (n : Nat) : n ≤ Nat.ofDigitChars 10 digits n := by
  induction digits generalizing n with
  | nil => exact Nat.le_of_eq Nat.ofDigitChars_nil.symm
  | cons c rest ih =>
    rw [Nat.ofDigitChars_cons]
    have longer := ih (10 * n + (c.toNat - '0'.toNat))
    omega

structure Numeral (digits : List Char) (n : Nat) : Prop where
  present : digits ≠ []
  decimal : ∀ c ∈ digits, c.isDigit = true
  value : Nat.ofDigitChars 10 digits 0 = n

theorem numeral_toString (n : Nat) : Numeral (toString n).toList n := by
  rw [Nat.toString_eq_ofList_toDigits, String.toList_ofList]
  refine ⟨Nat.toDigits_ne_nil, fun c listed => ?_, Nat.ofDigitChars_ten_toDigits⟩
  exact Nat.isDigit_of_mem_toDigits (by decide) (by decide) listed

theorem Numeral.not_mem {digits : List Char} {n : Nat} (numeral : Numeral digits n) {c : Char}
    (other : c.isDigit = false) : c ∉ digits := by
  intro listed
  rw [numeral.decimal c listed] at other
  cases other

/-! ### Readers -/

variable {limit n k : Nat} {fault : IntegerFault} {digits cs : List Char}

/-- The number never falls again, so that the limit counts for the whole number alone. -/
theorem readDigits_ok (within : n ≤ limit) :
    readDigits limit fault n digits = .ok k ↔
      (∀ c ∈ digits, c.isDigit = true) ∧ Nat.ofDigitChars 10 digits n = k ∧ k ≤ limit := by
  induction digits generalizing n with
  | nil =>
    rw [readDigits, Nat.ofDigitChars_nil, Except.ok.injEq]
    constructor
    · rintro rfl
      exact ⟨nofun, rfl, within⟩
    · rintro ⟨_, same, _⟩
      exact same
  | cons c rest ih =>
    rw [readDigits, Nat.ofDigitChars_cons, List.forall_mem_cons]
    by_cases digit : c.isDigit = true
    · rw [digitValue?_of_isDigit digit, and_iff_right digit]
      dsimp only
      by_cases exceeds : limit < 10 * n + (c.toNat - '0'.toNat)
      · rw [if_pos exceeds]
        refine iff_of_false nofun ?_
        rintro ⟨_, rfl, small⟩
        have longer := le_ofDigitChars rest (10 * n + (c.toNat - '0'.toNat))
        omega
      · rw [if_neg exceeds]
        exact ih (Nat.le_of_not_lt exceeds)
    · rw [digitValue?_of_not_isDigit digit]
      refine iff_of_false nofun ?_
      rintro ⟨⟨first, _⟩, _⟩
      exact digit first

theorem readDigits_zero_ok (present : digits ≠ []) :
    readDigits limit fault 0 digits = .ok n ↔ Numeral digits n ∧ n ≤ limit := by
  rw [readDigits_ok (Nat.zero_le limit)]
  constructor
  · rintro ⟨decimal, value, small⟩
    exact ⟨⟨present, decimal, value⟩, small⟩
  · rintro ⟨numeral, small⟩
    exact ⟨numeral.decimal, numeral.value, small⟩

theorem readUnsigned_ok : readUnsigned limit cs = .ok n ↔
    ∃ digits, (cs = digits ∨ cs = '+' :: digits) ∧ Numeral digits n ∧ n ≤ limit := by
  have noSign : ∀ {rest : List Char}, ¬ Numeral ('+' :: rest) n := fun numeral =>
    numeral.not_mem (by decide) List.mem_cons_self
  unfold readUnsigned
  split
  · refine iff_of_false nofun ?_
    rintro ⟨_, rfl | same, numeral, _⟩
    · exact numeral.present rfl
    · cases same
  · refine iff_of_false nofun ?_
    rintro ⟨_, rfl | same, numeral, _⟩
    · exact noSign numeral
    · cases same
      exact numeral.present rfl
  · rename_i digits present
    rw [readDigits_zero_ok present]
    constructor
    · intro spelled
      exact ⟨digits, .inr rfl, spelled⟩
    · rintro ⟨_, rfl | same, numeral, small⟩
      · exact absurd numeral noSign
      · cases same
        exact ⟨numeral, small⟩
  · rename_i present _ unsigned
    rw [readDigits_zero_ok present]
    constructor
    · intro spelled
      exact ⟨cs, .inl rfl, spelled⟩
    · rintro ⟨digits, rfl | same, spelled⟩
      · exact spelled
      · exact absurd same (unsigned digits)

theorem readUnsigned_ok_of_unsigned (unsigned : '+' ∉ cs) :
    readUnsigned limit cs = .ok n ↔ Numeral cs n ∧ n ≤ limit := by
  rw [readUnsigned_ok]
  constructor
  · rintro ⟨_, rfl | rfl, spelled⟩
    · exact spelled
    · exact absurd List.mem_cons_self unsigned
  · intro spelled
    exact ⟨cs, .inl rfl, spelled⟩

end VectorClient.Text
