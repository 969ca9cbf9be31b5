import Mathlib.Data.List.DropRight
import VectorClient.Text.Blank

/-!
# Trimmed text

A text is trimmed to the part between two runs of white space that neither begins nor ends with
white space itself. There is one such part.
-/

namespace VectorClient

/-! ### Runs at the ends of a list -/

section Runs

variable {α : Type} {p : α → Bool} {xs ys : List α}

theorem of_mem_head?_dropWhile {a : α} (first : a ∈ (xs.dropWhile p).head?) : p a = false := by
  have stopped := List.head?_dropWhile_not p xs
  rw [Option.mem_def.mp first] at stopped
  exact stopped

theorem dropWhile_append_of_stop (run : ∀ a ∈ xs, p a = true)
    (stop : ∀ a ∈ ys.head?, p a = false) : (xs ++ ys).dropWhile p = ys := by
  rw [List.dropWhile_append_of_pos run]
  cases ys with
  | nil => rfl
  | cons a rest => exact List.dropWhile_cons_of_neg (by rw [stop a rfl]; decide)

theorem takeWhile_append_of_stop (run : ∀ a ∈ xs, p a = true)
    (stop : ∀ a ∈ ys.head?, p a = false) : (xs ++ ys).takeWhile p = xs := by
  rw [List.takeWhile_append_of_pos run]
  cases ys with
  | nil => exact List.append_nil xs
  | cons a rest =>
    rw [List.takeWhile_cons_of_neg (by rw [stop a rfl]; decide), List.append_nil]

theorem rdropWhile_append_of_stop (stop : ∀ a ∈ xs.getLast?, p a = false)
    (run : ∀ a ∈ ys, p a = true) : (xs ++ ys).rdropWhile p = xs := by
  have turned : (ys.reverse ++ xs.reverse).dropWhile p = xs.reverse := by
    apply dropWhile_append_of_stop
    · intro a listed
      exact run a (List.mem_reverse.mp listed)
    · rwa [List.head?_reverse]
  rw [List.rdropWhile, List.reverse_append, turned, List.reverse_reverse]

theorem of_mem_getLast?_rdropWhile {a : α} (last : a ∈ (xs.rdropWhile p).getLast?) :
    p a = false := by
  rw [List.rdropWhile, List.getLast?_reverse] at last
  exact of_mem_head?_dropWhile last

theorem mem_head?_of_rdropWhile {a : α} (first : a ∈ (xs.rdropWhile p).head?) : a ∈ xs.head? := by
  have back : xs.rdropWhile p ++ xs.rtakeWhile p = xs := List.rdropWhile_append_rtakeWhile
  rw [← back, List.head?_append, Option.mem_def.mp first]
  rfl

theorem rdropWhile_cons_of_neg {a : α} (stop : p a = false) :
    (a :: xs).rdropWhile p = a :: xs.rdropWhile p := by
  rw [List.rdropWhile, List.reverse_cons, List.dropWhile_append,
    List.dropWhile_cons_of_neg (by rw [stop]; decide)]
  split
  case isTrue none =>
    rw [List.rdropWhile, List.isEmpty_iff.mp none]
    rfl
  case isFalse some =>
    rw [List.reverse_append, List.rdropWhile]
    rfl

theorem of_mem_head?_append {a : α} (first : a ∈ (xs ++ ys).head?) : a ∈ xs ∨ a ∈ ys.head? := by
  rw [List.head?_append, Option.mem_def, Option.or_eq_some_iff] at first
  rcases first with first | ⟨_, first⟩
  · exact .inl (List.mem_of_head? first)
  · exact .inr first

theorem of_mem_getLast?_append {a : α} (last : a ∈ (xs ++ ys).getLast?) :
    a ∈ xs ∨ a ∈ ys.getLast? := by
  rw [List.getLast?_append, Option.mem_def, Option.or_eq_some_iff] at last
  rcases last with last | ⟨_, last⟩
  · exact .inr last
  · exact .inl (List.mem_of_getLast? last)

end Runs

namespace Text

inductive Trims : List Char → List Char → Prop
  | intro {before inner after : List Char} (blank_before : ∀ c ∈ before, isWhiteSpace c = true)
      (first : ∀ c ∈ inner.head?, isWhiteSpace c = false)
      (last : ∀ c ∈ inner.getLast?, isWhiteSpace c = false)
      (blank_after : ∀ c ∈ after, isWhiteSpace c = true) : Trims (before ++ (inner ++ after)) inner

theorem trims_trimChars (cs : List Char) : Trims cs (trimChars cs) := by
  have front : cs.takeWhile isWhiteSpace ++ cs.dropWhile isWhiteSpace = cs :=
    List.takeWhile_append_dropWhile
  have back : trimChars cs ++ (cs.dropWhile isWhiteSpace).rtakeWhile isWhiteSpace =
      cs.dropWhile isWhiteSpace := List.rdropWhile_append_rtakeWhile
  have trims : Trims (cs.takeWhile isWhiteSpace ++
      (trimChars cs ++ (cs.dropWhile isWhiteSpace).rtakeWhile isWhiteSpace)) (trimChars cs) := by
    refine .intro ?_ ?_ ?_ ?_
    · intro c listed
      exact List.mem_takeWhile_imp listed
    · intro c first
      exact of_mem_head?_dropWhile (mem_head?_of_rdropWhile first)
    · intro c last
      exact of_mem_getLast?_rdropWhile last
    · intro c listed
      exact List.mem_rtakeWhile_imp listed
  rwa [back, front] at trims

theorem trimChars_of_trims {cs inner : List Char} (trims : Trims cs inner) :
    trimChars cs = inner := by
  obtain ⟨blank_before, first, last, blank_after⟩ := trims
  rename_i before after
  show ((before ++ (inner ++ after)).dropWhile isWhiteSpace).rdropWhile isWhiteSpace = inner
  by_cases empty : inner = []
  · -- Nothing stops the blanks in front, which run through to the end.
    subst empty
    rw [List.nil_append, List.dropWhile_append_of_pos blank_before,
      List.dropWhile_eq_nil_iff.mpr blank_after]
    rfl
  · have stop : ∀ c ∈ (inner ++ after).head?, isWhiteSpace c = false := by
      rwa [List.head?_append_of_ne_nil _ empty]
    rw [dropWhile_append_of_stop blank_before stop, rdropWhile_append_of_stop last blank_after]

theorem trimChars_eq_iff {cs inner : List Char} : trimChars cs = inner ↔ Trims cs inner := by
  constructor
  · rintro rfl
    exact trims_trimChars cs
  · exact trimChars_of_trims

theorem trims_of_solid {before front behind after : List Char}
    (blank_before : ∀ c ∈ before, isWhiteSpace c = true)
    (solid : ∀ c ∈ front, isWhiteSpace c = false)
    (next : ∀ c ∈ behind.head?, isWhiteSpace c = false)
    (blank_after : ∀ c ∈ after, isWhiteSpace c = true) :
    Trims (before ++ (front ++ (behind ++ after))) (front ++ behind.rdropWhile isWhiteSpace) := by
  have split : behind.rdropWhile isWhiteSpace ++ (behind.rtakeWhile isWhiteSpace ++ after) =
      behind ++ after := by
    rw [← List.append_assoc, List.rdropWhile_append_rtakeWhile]
  rw [← split, ← List.append_assoc front]
  refine .intro blank_before ?_ ?_ ?_
  · intro c first
    rcases of_mem_head?_append first with inside | later
    · exact solid c inside
    · exact next c (mem_head?_of_rdropWhile later)
  · intro c last
    rcases of_mem_getLast?_append last with inside | later
    · exact solid c inside
    · exact of_mem_getLast?_rdropWhile later
  · intro c listed
    rcases List.mem_append.mp listed with later | outside
    · exact List.mem_rtakeWhile_imp later
    · exact blank_after c outside

theorem isBlank_iff {s : String} :
    isBlank s = true ↔ ∀ c ∈ s.toList, isWhiteSpace c = true :=
  List.all_eq_true

theorem isWhiteSpace_of_isDigit {c : Char} (digit : c.isDigit = true) :
    isWhiteSpace c = false := by
  have range : 48 ≤ c.toNat ∧ c.toNat ≤ 57 := by
    simp only [Char.isDigit, Bool.and_eq_true, decide_eq_true_eq] at digit
    exact digit
  have apart : ∀ bounds ∈ whiteSpaceRanges, bounds.2 < 48 ∨ 57 < bounds.1 := by decide
  rw [isWhiteSpace, List.any_eq_false]
  intro bounds listed
  have outside := apart bounds listed
  simp only [Bool.and_eq_true, decide_eq_true_eq]
  omega

end Text

end VectorClient
