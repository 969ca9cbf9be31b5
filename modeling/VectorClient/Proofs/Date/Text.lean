import VectorClient.Date.Text
import VectorClient.Proofs.Date.Calendar
import VectorClient.Proofs.Text.Integer

/-!
# Dates read back

A date whose year has four digits is read from its own text, down to the nanosecond and with its
leap second. No other date is read from its own text.
-/

namespace VectorClient.Date

open Number

/-! ### Digits -/

theorem isDigit_of_mem_padded {width n : Nat} {c : Char} (member : c ∈ padded width n) :
    c.isDigit = true := by
  rcases List.mem_append.mp member with zero | digit
  · exact (List.mem_replicate.mp zero).2 ▸ rfl
  · exact (Text.numeral_toString n).decimal c digit

theorem length_padded {width n : Nat} (positive : 0 < width) (small : n < pow10 width) :
    (padded width n).length = width := by
  have fits : (Nat.toDigits 10 n).length ≤ width :=
    (Nat.length_toDigits_le_iff (by decide) positive).mpr small
  simp only [padded, Nat.toString_eq_ofList_toDigits, String.toList_ofList, List.length_append,
    List.length_replicate]
  omega

theorem ofDigitChars_padded (width n : Nat) : Nat.ofDigitChars 10 (padded width n) 0 = n := by
  simp only [padded, Nat.ofDigitChars_append, Nat.ofDigitChars_replicate_zero, Nat.mul_zero,
    (Text.numeral_toString n).value]

theorem foldl_digits {digits : List Char} (all : ∀ c ∈ digits, c.isDigit = true) (n : Nat) :
    digits.foldl (fun n c => n.bind fun n => (Text.digitValue? c).map (10 * n + ·)) (some n) =
      some (Nat.ofDigitChars 10 digits n) := by
  induction digits generalizing n with
  | nil => rw [Nat.ofDigitChars_nil, List.foldl_nil]
  | cons c rest ih =>
    rw [List.foldl_cons, Option.bind_some, Text.digitValue?_of_isDigit (all c List.mem_cons_self),
      Option.map_some, ih fun d member => all d (List.mem_cons_of_mem _ member),
      Nat.ofDigitChars_cons]

theorem takeDigits?_append {digits : List Char} (all : ∀ c ∈ digits, c.isDigit = true)
    (rest : List Char) :
    takeDigits? digits.length (digits ++ rest) = some (Nat.ofDigitChars 10 digits 0, rest) := by
  have enough : digits.length ≤ (digits ++ rest).length := by simp
  rw [takeDigits?, if_pos enough, List.take_left' rfl, List.drop_left' rfl, foldl_digits all,
    Option.map_some]

theorem takeDigits?_padded {width n : Nat} (positive : 0 < width) (small : n < pow10 width)
    (rest : List Char) : takeDigits? width (padded width n ++ rest) = some (n, rest) := by
  have taken := takeDigits?_append (fun _ => @isDigit_of_mem_padded width n _) rest
  rwa [length_padded positive small, ofDigitChars_padded] at taken

/-! ### Fractions -/

theorem takeFraction?_padded {width n : Nat} (positive : 0 < width) (atMost : width ≤ 9)
    (small : n < pow10 width) :
    takeFraction? ('.' :: (padded width n ++ ['Z'])) = some (n * pow10 (9 - width), ['Z']) := by
  have length := length_padded positive small
  have all : ∀ c ∈ padded width n, c.isDigit = true := fun _ => isDigit_of_mem_padded
  have digits : (padded width n ++ ['Z']).takeWhile Char.isDigit = padded width n := by
    rw [List.takeWhile_append_of_pos all]
    exact List.append_nil _
  have rest : (padded width n ++ ['Z']).dropWhile Char.isDigit = ['Z'] := by
    rw [List.dropWhile_append_of_pos all]
    rfl
  have kept : (padded width n).take 9 = padded width n := List.take_of_length_le (by omega)
  have nonempty : padded width n ≠ [] := List.ne_nil_of_length_pos (by omega)
  have read := takeDigits?_padded positive small []
  rw [List.append_nil] at read
  simp only [takeFraction?, digits, rest, kept, if_neg nonempty, length, read, Option.map_some]

theorem takeFraction?_fractionChars {nanos : Nat} (small : nanos < nanosPerSecond) :
    takeFraction? (fractionChars nanos ++ ['Z']) = some (nanos, ['Z']) := by
  have bound : nanos < 1000000000 := small
  unfold fractionChars
  split
  case isTrue none =>
    rw [none]
    rfl
  split
  case isTrue millis =>
    have short : nanos / 1000000 < pow10 3 := show nanos / 1000000 < 1000 by omega
    rw [List.cons_append, takeFraction?_padded (by decide) (by decide) short]
    have value : nanos / 1000000 * 1000000 = nanos := by omega
    exact congrArg (fun n => some (n, ['Z'])) value
  split
  case isTrue micros =>
    have short : nanos / 1000 < pow10 6 := show nanos / 1000 < 1000000 by omega
    rw [List.cons_append, takeFraction?_padded (by decide) (by decide) short]
    have value : nanos / 1000 * 1000 = nanos := by omega
    exact congrArg (fun n => some (n, ['Z'])) value
  · rw [List.cons_append, takeFraction?_padded (by decide) (by decide) small]
    exact congrArg (fun n => some (n, ['Z'])) (Nat.mul_one nanos)

/-! ### Whole dates -/

/-- A leap second is shown as the second after the last one of its minute. -/
def leapSecond (d : Date) : Nat := if nanosPerSecond ≤ d.nanos then 1 else 0

theorem secondOfDay_lt (d : Date) : d.secondOfDay < 86400 := by
  have := Int.emod_lt_of_pos d.seconds (show (0 : Int) < 86400 by decide)
  rw [secondOfDay, secondsPerDay, Int.fmod_eq_emod_of_nonneg _ (by decide)]
  omega

theorem seconds_eq (d : Date) :
    d.seconds = d.seconds.fdiv secondsPerDay * secondsPerDay + d.secondOfDay := by
  rw [secondOfDay, secondsPerDay, Int.fmod_eq_emod_of_nonneg _ (by decide),
    Int.fdiv_eq_ediv_of_nonneg _ (by decide)]
  omega

theorem shown_second (d : Date) :
    min (d.secondOfDay % 60 + d.leapSecond) 59 = d.secondOfDay % 60 ∧
      d.secondOfDay % 60 + d.leapSecond ≤ 60 ∧
      d.nanos - d.leapSecond * nanosPerSecond < nanosPerSecond ∧
      (d.nanos - d.leapSecond * nanosPerSecond +
        if d.secondOfDay % 60 + d.leapSecond = 60 then nanosPerSecond else 0) = d.nanos := by
  obtain ⟨_, _, kept⟩ := d.isKept
  have seconds := d.seconds_eq
  unfold secondsPerDay at seconds
  unfold leapSecond
  rcases kept with short | ⟨atEnd, long⟩
  · rw [if_neg (Nat.not_le.mpr short), if_neg (by omega)]
    omega
  · by_cases leap : nanosPerSecond ≤ d.nanos
    · rw [if_pos leap, if_pos (by omega)]
      omega
    · rw [if_neg leap, if_neg (by omega)]
      omega

/-- Years that four digits can show. -/
def HasPlainYear (d : Date) : Prop := 0 ≤ d.civil.year ∧ d.civil.year ≤ 9999

instance (d : Date) : Decidable d.HasPlainYear := inferInstanceAs (Decidable (_ ∧ _))

theorem chars_of_plain {d : Date} (plain : d.HasPlainYear) :
    d.chars = padded 4 d.civil.year.toNat ++ '-' :: (padded 2 d.civil.month ++ '-' ::
      (padded 2 d.civil.day ++ 'T' :: (padded 2 (d.secondOfDay / 3600) ++ ':' ::
        (padded 2 (d.secondOfDay / 60 % 60) ++ ':' ::
          (padded 2 (d.secondOfDay % 60 + d.leapSecond) ++
            (fractionChars (d.nanos - d.leapSecond * nanosPerSecond) ++ ['Z'])))))) := by
  have year : yearChars d.civil.year = padded 4 d.civil.year.toNat := if_pos plain
  simp only [chars, year, leapSecond, List.append_assoc, List.cons_append, List.nil_append]

theorem takeDigits?_two {n : Nat} (small : n ≤ 99) (rest : List Char) :
    takeDigits? 2 (padded 2 n ++ rest) = some (n, rest) :=
  takeDigits?_padded (by decide) (Nat.lt_succ_of_le small) rest

theorem takeChar?_cons (c : Char) (rest : List Char) : takeChar? c (c :: rest) = some rest :=
  if_pos rfl

theorem bind_of_some {α β : Type} {x : Option α} {a : α} (taken : x = some a)
    (next : α → Option β) : (x >>= next) = next a :=
  taken ▸ rfl

theorem readChars?_fields {year month day hour minute second nanos : Nat} {fraction : List Char}
    (year_lt : year < pow10 4) (month_le : month ≤ 99) (day_le : day ≤ 99) (hour_le : hour ≤ 99)
    (minute_le : minute ≤ 99) (second_le : second ≤ 99)
    (fraction_eq : takeFraction? (fraction ++ ['Z']) = some (nanos, ['Z'])) :
    readChars? (padded 4 year ++ '-' :: (padded 2 month ++ '-' :: (padded 2 day ++ 'T' ::
      (padded 2 hour ++ ':' :: (padded 2 minute ++ ':' :: (padded 2 second ++
        (fraction ++ ['Z']))))))) =
      if Civil.isValid ⟨year, month, day⟩ ∧ hour ≤ 23 ∧ minute ≤ 59 ∧ second ≤ 60 then
        ofParts? (Civil.toDays ⟨year, month, day⟩ * secondsPerDay +
            (hour * 3600 + minute * 60 + (min second 59 : Nat)))
          (nanos + if second = 60 then nanosPerSecond else 0)
      else none := by
  refine (bind_of_some (takeDigits?_padded (by decide) year_lt _) _).trans ?_
  refine (bind_of_some (takeChar?_cons '-' _) _).trans ?_
  refine (bind_of_some (takeDigits?_two month_le _) _).trans ?_
  refine (bind_of_some (takeChar?_cons '-' _) _).trans ?_
  refine (bind_of_some (takeDigits?_two day_le _) _).trans ?_
  refine (bind_of_some (show takeSeparator? ('T' :: _) = some _ from rfl) _).trans ?_
  refine (bind_of_some (takeDigits?_two hour_le _) _).trans ?_
  refine (bind_of_some (takeChar?_cons ':' _) _).trans ?_
  refine (bind_of_some (takeDigits?_two minute_le _) _).trans ?_
  refine (bind_of_some (takeChar?_cons ':' _) _).trans ?_
  refine (bind_of_some (takeDigits?_two second_le _) _).trans ?_
  refine (bind_of_some fraction_eq _).trans ?_
  refine (bind_of_some (show takeOffset? ['Z'] = some (0, []) from rfl) _).trans ?_
  simp only [true_and, Int.sub_zero]

theorem readChars?_chars {d : Date} (plain : d.HasPlainYear) : readChars? d.chars = some d := by
  obtain ⟨shown, second_le, fraction_lt, nanos_eq⟩ := d.shown_second
  have valid : d.civil.isValid = true := Civil.isValid_ofDays _
  have days : d.civil.toDays = d.seconds.fdiv secondsPerDay := Civil.toDays_ofDays _
  have second_lt := d.secondOfDay_lt
  have year_eq : (d.civil.year.toNat : Int) = d.civil.year := Int.toNat_of_nonneg plain.1
  have year_lt : d.civil.year.toNat < pow10 4 := by
    have := plain.2
    show d.civil.year.toNat < 10000
    omega
  have hour_le : d.secondOfDay / 3600 ≤ 23 := by omega
  have minute_le : d.secondOfDay / 60 % 60 ≤ 59 := by omega
  have inDay : ((d.secondOfDay / 3600 : Nat) : Int) * 3600 + (d.secondOfDay / 60 % 60 : Nat) * 60 +
      (d.secondOfDay % 60 : Nat) = d.secondOfDay := by omega
  rw [chars_of_plain plain, readChars?_fields year_lt
    (Nat.le_trans (Civil.month_le valid) (by decide))
    (Nat.le_trans (Civil.day_le valid) (by decide))
    (Nat.le_trans hour_le (by decide)) (Nat.le_trans minute_le (by decide))
    (Nat.le_trans second_le (by decide)) (takeFraction?_fractionChars fraction_lt), year_eq,
    if_pos ⟨valid, hour_le, minute_le, second_le⟩, shown, days, inDay, ← d.seconds_eq, nanos_eq]
  exact dif_pos d.isKept

theorem read?_text {d : Date} (plain : d.HasPlainYear) : read? d.text = some d := by
  rw [read?, text, String.toList_ofList]
  exact readChars?_chars plain

/-! ### Dates that are not read -/

theorem takeDigits?_of_not_digit {c : Char} (notDigit : Text.digitValue? c = none) (count : Nat)
    (rest : List Char) : takeDigits? (count + 1) (c :: rest) = none := by
  have failed (digits : List Char) : digits.foldl
      (fun n c => n.bind fun n => (Text.digitValue? c).map (10 * n + ·)) none = none := by
    induction digits with
    | nil => rfl
    | cons d digits ih => rw [List.foldl_cons, Option.bind_none, ih]
  unfold takeDigits?
  split
  · rw [List.take_succ_cons, List.foldl_cons, notDigit, Option.bind_some, Option.map_none, failed,
      Option.map_none]
  · rfl

/-- The sign in front of a longer year is not a digit. -/
theorem read?_text_of_not_plain {d : Date} (notPlain : ¬ d.HasPlainYear) : read? d.text = none := by
  have ⟨sign, rest, chars_eq, notDigit⟩ :
      ∃ sign rest, d.chars = sign :: rest ∧ Text.digitValue? sign = none := by
    have year : yearChars d.civil.year =
        (if d.civil.year < 0 then '-' else '+') :: padded 4 d.civil.year.natAbs := if_neg notPlain
    simp only [chars, year, List.cons_append]
    refine ⟨_, _, rfl, ?_⟩
    split <;> rfl
  rw [read?, text, String.toList_ofList, chars_eq, readChars?, takeDigits?_of_not_digit notDigit]
  rfl

theorem read?_text_iff {d e : Date} : read? d.text = some e ↔ e = d ∧ d.HasPlainYear := by
  constructor
  · intro read
    by_cases plain : d.HasPlainYear
    · exact ⟨Option.some.inj (read.symm.trans (read?_text plain)), plain⟩
    · cases read.symm.trans (read?_text_of_not_plain plain)
  · rintro ⟨rfl, plain⟩
    exact read?_text plain

end VectorClient.Date
