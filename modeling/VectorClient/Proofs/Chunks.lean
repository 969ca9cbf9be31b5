import VectorClient.Chunks

/-!
# Pieces of a list

The pieces of a list make up the list again, all but the last have the size that was asked for, and
so the element at a position stands in the piece that its quotient names.
-/

namespace VectorClient

variable {α β : Type}

/-! ### Recursion without the bound -/

theorem chunksUpTo_of_length_le {size : Nat} (positive : 0 < size) {count : Nat} {xs : List α}
    (enough : xs.length ≤ count) : chunksUpTo size count xs = chunks size xs := by
  unfold chunks
  generalize bound : xs.length = least
  have below : xs.length ≤ least := by omega
  have atMost : least ≤ count := by omega
  clear bound enough
  induction least generalizing count xs with
  | zero =>
    obtain rfl := List.length_eq_zero_iff.mp (Nat.le_zero.mp below)
    cases count <;> rfl
  | succ least ih =>
    obtain ⟨count, rfl⟩ := Nat.exists_eq_add_of_le' (Nat.le_trans (Nat.succ_pos least) atMost)
    cases xs with
    | nil => rfl
    | cons x rest =>
      simp only [chunksUpTo]
      rw [ih (by simp only [List.length_drop, List.length_cons] at below ⊢; omega) (by omega)]

@[simp] theorem chunks_nil (size : Nat) : chunks size ([] : List α) = [] := rfl

theorem chunks_of_ne_nil {size : Nat} (positive : 0 < size) {xs : List α} (nonempty : xs ≠ []) :
    chunks size xs = xs.take size :: chunks size (xs.drop size) := by
  cases xs with
  | nil => exact absurd rfl nonempty
  | cons x rest =>
    have shorter : ((x :: rest).drop size).length ≤ rest.length := by
      simp only [List.length_drop, List.length_cons]
      omega
    exact congrArg (_ :: ·) (chunksUpTo_of_length_le positive shorter)

/-- Induction along the pieces: a list is empty, or has a first piece and what follows it. -/
theorem chunks_induction {size : Nat} (positive : 0 < size) {motive : List α → Prop}
    (nil : motive []) (next : ∀ xs, xs ≠ [] → motive (xs.drop size) → motive xs) (xs : List α) :
    motive xs := by
  generalize bound : xs.length = n
  induction n using Nat.strongRecOn generalizing xs with
  | ind n ih =>
    by_cases empty : xs = []
    · exact empty ▸ nil
    · have := List.length_pos_iff.mpr empty
      exact next xs empty (ih _ (by simp only [List.length_drop]; omega) _ rfl)

/-! ### What the pieces hold -/

theorem flatten_chunks {size : Nat} (positive : 0 < size) (xs : List α) :
    (chunks size xs).flatten = xs := by
  induction xs using chunks_induction positive with
  | nil => rfl
  | next xs nonempty ih =>
    rw [chunks_of_ne_nil positive nonempty, List.flatten_cons, ih, List.take_append_drop]

theorem map_chunks {size : Nat} (positive : 0 < size) (f : α → β) (xs : List α) :
    chunks size (xs.map f) = (chunks size xs).map (List.map f) := by
  induction xs using chunks_induction positive with
  | nil => rfl
  | next xs nonempty ih =>
    rw [chunks_of_ne_nil positive (by simpa using nonempty), chunks_of_ne_nil positive nonempty,
      List.map_cons, ← ih, List.map_take, List.map_drop]

theorem zip_chunks {size : Nat} (positive : 0 < size) {xs : List α} {ys : List β}
    (length_eq : xs.length = ys.length) :
    (chunks size xs).zip (chunks size ys) = (chunks size (xs.zip ys)).map List.unzip := by
  have first : (xs.zip ys).map Prod.fst = xs := List.map_fst_zip (by omega)
  have second : (xs.zip ys).map Prod.snd = ys := List.map_snd_zip (by omega)
  generalize xs.zip ys = pairs at first second ⊢
  subst first second
  rw [map_chunks positive, map_chunks positive, List.zip_map']
  exact List.map_congr_left fun piece _ => List.unzip_eq_map.symm

theorem chunks_flatten {size : Nat} (positive : 0 < size) {pieces : List (List α)}
    (lengths : ∀ piece ∈ pieces, piece.length = size) : chunks size pieces.flatten = pieces := by
  induction pieces with
  | nil => rfl
  | cons piece rest ih =>
    obtain ⟨full, rest_full⟩ := List.forall_mem_cons.mp lengths
    have nonempty : (piece :: rest).flatten ≠ [] := by
      intro empty
      have none := congrArg List.length (List.append_eq_nil_iff.mp empty).1
      rw [full, List.length_nil] at none
      omega
    rw [chunks_of_ne_nil positive nonempty, List.flatten_cons, List.take_left' full,
      List.drop_left' full, ih rest_full]

theorem chunks_flatMap {size : Nat} (positive : 0 < size) {f : α → List β}
    (length_eq : ∀ a, (f a).length = size) (xs : List α) :
    chunks size (xs.flatMap f) = xs.map f := by
  rw [List.flatMap_def]
  exact chunks_flatten positive (List.forall_mem_map.mpr fun a _ => length_eq a)

/-! ### Their lengths -/

theorem length_chunk_of_not_last {size : Nat} (positive : 0 < size) (xs : List α) :
    ∀ piece ∈ (chunks size xs).dropLast, piece.length = size := by
  induction xs using chunks_induction positive with
  | nil => simp
  | next xs nonempty ih =>
    rw [chunks_of_ne_nil positive nonempty]
    by_cases done : xs.drop size = []
    · simp [done]
    · have more : chunks size (xs.drop size) ≠ [] := by
        rw [chunks_of_ne_nil positive done]
        exact List.cons_ne_nil _ _
      rw [List.dropLast_cons_of_ne_nil more]
      intro piece member
      rcases List.mem_cons.mp member with rfl | later
      · have := List.length_pos_iff.mpr done
        simp only [List.length_drop, List.length_take] at this ⊢
        omega
      · exact ih piece later

theorem length_of_mem_chunks {size : Nat} (positive : 0 < size) {xs : List α}
    (whole : xs.length % size = 0) : ∀ piece ∈ chunks size xs, piece.length = size := by
  induction xs using chunks_induction positive with
  | nil => exact nofun
  | next xs nonempty ih =>
    have fits : size ≤ xs.length :=
      Nat.le_of_dvd (List.length_pos_iff.mpr nonempty) (Nat.dvd_of_mod_eq_zero whole)
    have rest_whole : (xs.drop size).length % size = 0 := by
      rw [List.length_drop, ← Nat.mod_eq_sub_mod fits, whole]
    rw [chunks_of_ne_nil positive nonempty, List.forall_mem_cons]
    exact ⟨List.length_take_of_le fits, ih rest_whole⟩

/-! ### Positions -/

/-- In lists that are as long as the pieces of a list, a position is that of its list and that in
the list. -/
theorem getElem?_flatten_of_lengths {size : Nat} (positive : 0 < size) {lists : List (List α)}
    {xs : List β} (lengths : lists.map List.length = (chunks size xs).map List.length) (i : Nat) :
    lists.flatten[i]? = lists[i / size]?.bind (·[i % size]?) := by
  induction xs using chunks_induction positive generalizing lists i with
  | nil =>
    obtain rfl := List.map_eq_nil_iff.mp lengths
    simp
  | next xs nonempty ih =>
    rw [chunks_of_ne_nil positive nonempty, List.map_cons, List.map_eq_cons_iff] at lengths
    obtain ⟨first, rest, rfl, first_length, rest_lengths⟩ := lengths
    rw [List.length_take] at first_length
    rw [List.flatten_cons]
    by_cases full : size ≤ xs.length
    · have first_full : first.length = size := by omega
      by_cases inFirst : i < size
      · rw [List.getElem?_append_left (by omega), Nat.div_eq_of_lt inFirst,
          Nat.mod_eq_of_lt inFirst, List.getElem?_cons_zero, Option.bind_some]
      · obtain ⟨k, rfl⟩ := Nat.exists_eq_add_of_le (show size ≤ i by omega)
        rw [List.getElem?_append_right (by omega), first_full, Nat.add_sub_cancel_left,
          ih rest_lengths, Nat.add_div_left _ positive, Nat.add_mod_left, List.getElem?_cons_succ]
    · -- The first list is short, so that none follows it.
      rw [List.drop_eq_nil_of_le (by omega), chunks_nil] at rest_lengths
      obtain rfl := List.map_eq_nil_iff.mp rest_lengths
      rw [List.flatten_nil, List.append_nil]
      by_cases inFirst : i < size
      · rw [Nat.div_eq_of_lt inFirst, Nat.mod_eq_of_lt inFirst, List.getElem?_cons_zero,
          Option.bind_some]
      · obtain ⟨k, rfl⟩ := Nat.exists_eq_add_of_le (show size ≤ i by omega)
        rw [List.getElem?_eq_none (by omega), Nat.add_div_left _ positive, List.getElem?_cons_succ]
        rfl

theorem getElem?_chunks {size : Nat} (positive : 0 < size) (xs : List α) (i : Nat) :
    (chunks size xs)[i / size]?.bind (·[i % size]?) = xs[i]? := by
  rw [← getElem?_flatten_of_lengths positive rfl, flatten_chunks positive]

end VectorClient
