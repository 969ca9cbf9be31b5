import VectorClient.Uuid

/-!
# Ids as text

The text of an id reads back as that id.
-/

namespace VectorClient

namespace Text

theorem hexValue?_hexDigit {value : Nat} (small : value < 16) :
    hexValue? (hexDigit value) = some value := by
  have all : ∀ v : Fin 16, hexValue? (hexDigit v) = some v.val := by decide
  exact all ⟨value, small⟩

theorem length_hexBytes (bytes : List UInt8) : (hexBytes bytes).length = 2 * bytes.length := by
  induction bytes with
  | nil => rfl
  | cons b rest ih =>
    simp only [hexBytes, List.flatMap_cons, List.length_append, List.length_cons] at ih ⊢
    rw [ih]
    simp only [hexByte, List.length_cons, List.length_nil]
    omega

theorem readHexBytes?_hexBytes (bytes : List UInt8) :
    readHexBytes? (hexBytes bytes) = some bytes := by
  induction bytes with
  | nil => rfl
  | cons b rest ih =>
    have high : b.toNat / 16 < 16 := by
      have := b.toNat_lt
      omega
    have low : b.toNat % 16 < 16 := Nat.mod_lt _ (by decide)
    have halves : UInt8.ofNat (16 * (b.toNat / 16) + b.toNat % 16) = b := by
      rw [Nat.div_add_mod]
      exact UInt8.ofNat_toNat
    simp only [hexBytes, List.flatMap_cons] at ih ⊢
    simp only [hexByte, List.cons_append, List.nil_append, readHexBytes?, hexValue?_hexDigit high,
      hexValue?_hexDigit low, ih, Option.bind_eq_bind, Option.bind_some, halves]
    rfl

end Text

namespace Uuid

open Text

theorem length_group {digits : List Char} (size : digits.length = 32) :
    (group digits).length = 36 := by
  simp only [group, List.length_append, List.length_take, List.length_drop, List.length_cons,
    List.length_nil, size]
  decide

theorem ungroup?_parts {a b c d e : List Char} (a_length : a.length = 8) (b_length : b.length = 4)
    (c_length : c.length = 4) (d_length : d.length = 4) (e_length : e.length = 12) :
    ungroup? (a ++ ['-'] ++ b ++ ['-'] ++ c ++ ['-'] ++ d ++ ['-'] ++ e) =
      some (a ++ b ++ c ++ d ++ e) := by
  simp (disch := omega) [ungroup?, List.getElem?_append, List.getElem?_cons_zero,
    List.drop_append, List.drop_of_length_le, a_length, b_length, c_length, d_length, e_length]

theorem take_append_drop_of_drop {α : Type} (xs : List α) (n m : Nat) :
    (xs.drop n).take m ++ xs.drop (n + m) = xs.drop n := by
  rw [← List.drop_drop, List.take_append_drop]

theorem ungroup?_group {digits : List Char} (size : digits.length = 32) :
    ungroup? (group digits) = some digits := by
  have parts := @ungroup?_parts (digits.take 8) ((digits.drop 8).take 4) ((digits.drop 12).take 4)
    ((digits.drop 16).take 4) (digits.drop 20) (by simp [size]) (by simp [size]) (by simp [size])
    (by simp [size]) (by simp [size])
  rw [group, parts]
  simp only [List.append_assoc, take_append_drop_of_drop digits 16 4,
    take_append_drop_of_drop digits 12 4, take_append_drop_of_drop digits 8 4,
    List.take_append_drop]

theorem length_chars (id : Uuid) : id.chars.length = 36 :=
  length_group (by rw [length_hexBytes, id.size_eq])

theorem readChars?_chars (id : Uuid) : readChars? id.chars = some id := by
  have digits : (hexBytes id.octets).length = 32 := by rw [length_hexBytes, id.size_eq]
  have grouped : readChars? id.chars = readGrouped? id.chars := by
    simp [readChars?, length_chars]
  rw [grouped, readGrouped?, chars, ungroup?_group digits, Option.bind_some, ofDigits?,
    readHexBytes?_hexBytes, Option.bind_some, ofOctets?, dif_pos id.size_eq]

theorem read?_text (id : Uuid) : read? id.text = some id := by
  rw [read?, text, String.toList_ofList]
  exact readChars?_chars id

theorem text_injective {a b : Uuid} (same : a.text = b.text) : a = b :=
  Option.some.inj ((read?_text a).symm.trans ((congrArg read? same).trans (read?_text b)))

end Uuid

end VectorClient
