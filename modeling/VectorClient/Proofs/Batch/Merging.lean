import Mathlib.Data.List.Sort
import VectorClient.Proofs.Batch.Result

/-!
# Merged outcomes

The two maps of an outcome and its list of responses say the same of each position iff the maps are
those of the list. Outcomes like that are closed under merging, which is associative and has the
empty outcome as its neutral element, time apart.
-/

namespace VectorClient

namespace BatchResult

variable {α : Type}

/-- Entries by position, as a map holds them. -/
def Ascends (entries : List (Nat × α)) : Prop := entries.Pairwise fun a b => a.1 < b.1

structure Agrees (r : BatchResult) : Prop where
  ids_ascend : Ascends r.ids
  errors_ascend : Ascends r.errors
  disjoint : ∀ i ∈ r.ids.map Prod.fst, i ∉ r.errors.map Prod.fst
  covered : ∀ i, i ∈ r.ids.map Prod.fst ∨ i ∈ r.errors.map Prod.fst ↔ i < r.responses.length
  inserted : ∀ i id, (i, id) ∈ r.ids → r.responses[i]? = some (.inserted id)
  refused : ∀ i error, (i, error) ∈ r.errors → r.responses[i]? = some (.refused error)
  flagged : r.hasErrors = true ↔ r.errors ≠ []

/-! ### The maps of a list of responses -/

theorem mem_positions {pick : BatchResponse → Option α} {start i : Nat} {a : α}
    {xs : List BatchResponse} :
    (i, a) ∈ positions pick start xs ↔ ∃ k, i = start + k ∧ xs[k]?.bind pick = some a := by
  induction xs generalizing start with
  | nil => simp [positions]
  | cons x rest ih =>
    have here : (i, a) ∈ ((pick x).map (start, ·)).toList ↔ i = start ∧ pick x = some a := by
      cases pick x <;> simp [eq_comm]
    rw [positions, List.mem_append, here, ih]
    constructor
    · rintro (⟨rfl, picked⟩ | ⟨k, rfl, picked⟩)
      · exact ⟨0, rfl, picked⟩
      · exact ⟨k + 1, by omega, picked⟩
    · rintro ⟨k, rfl, picked⟩
      cases k with
      | zero => exact .inl ⟨rfl, picked⟩
      | succ k => exact .inr ⟨k, by omega, picked⟩

theorem mem_positions_zero {pick : BatchResponse → Option α} {i : Nat} {a : α}
    {xs : List BatchResponse} :
    (i, a) ∈ positions pick 0 xs ↔ ∃ response, xs[i]? = some response ∧ pick response = some a := by
  rw [mem_positions, ← Option.bind_eq_some_iff]
  constructor
  · rintro ⟨k, same, picked⟩
    rwa [same, Nat.zero_add]
  · intro picked
    exact ⟨i, (Nat.zero_add i).symm, picked⟩

theorem ascends_positions (pick : BatchResponse → Option α) (start : Nat)
    (xs : List BatchResponse) : Ascends (positions pick start xs) := by
  induction xs generalizing start with
  | nil => exact .nil
  | cons x rest ih =>
    rw [positions]
    refine List.pairwise_append.mpr ⟨?_, ih (start + 1), ?_⟩
    · cases pick x <;> simp
    · intro first atStart later behind
      obtain ⟨k, place, _⟩ := mem_positions.mp (show (later.1, later.2) ∈ _ from behind)
      have same : first.1 = start := by
        cases picked : pick x <;> simp_all
      omega

theorem mem_keys {entries : List (Nat × α)} {i : Nat} :
    i ∈ entries.map Prod.fst ↔ ∃ a, (i, a) ∈ entries := by
  simp only [List.mem_map, Prod.exists, exists_and_right, exists_eq_right]

theorem Ascends.eq_of_mem_iff {xs ys : List (Nat × α)} (ascending : Ascends xs)
    (ascending' : Ascends ys) (same : ∀ e, e ∈ xs ↔ e ∈ ys) : xs = ys := by
  have : Std.Irrefl fun a b : Nat × α => a.1 < b.1 := ⟨fun a => Nat.lt_irrefl a.1⟩
  have : Std.Antisymm fun a b : Nat × α => a.1 < b.1 :=
    ⟨fun _ _ before after => absurd after (Nat.lt_asymm before)⟩
  exact List.Pairwise.eq_of_mem_iff ascending ascending' same

namespace Agrees

variable {r : BatchResult}

theorem mem_ids (agrees : r.Agrees) {i : Nat} {id : Uuid} :
    (i, id) ∈ r.ids ↔ r.responses[i]? = some (.inserted id) := by
  refine ⟨agrees.inserted i id, fun at_i => ?_⟩
  have inside := (List.getElem?_eq_some_iff.mp at_i).1
  obtain listed | listed := (agrees.covered i).mpr inside
  · obtain ⟨id', member⟩ := mem_keys.mp listed
    have same := Option.some.inj (at_i.symm.trans (agrees.inserted i id' member))
    obtain rfl := BatchResponse.inserted.inj same
    exact member
  · obtain ⟨error, member⟩ := mem_keys.mp listed
    cases at_i.symm.trans (agrees.refused i error member)

theorem mem_errors (agrees : r.Agrees) {i : Nat} {error : RefusedObject} :
    (i, error) ∈ r.errors ↔ r.responses[i]? = some (.refused error) := by
  refine ⟨agrees.refused i error, fun at_i => ?_⟩
  have inside := (List.getElem?_eq_some_iff.mp at_i).1
  obtain listed | listed := (agrees.covered i).mpr inside
  · obtain ⟨id, member⟩ := mem_keys.mp listed
    cases at_i.symm.trans (agrees.inserted i id member)
  · obtain ⟨error', member⟩ := mem_keys.mp listed
    have same := Option.some.inj (at_i.symm.trans (agrees.refused i error' member))
    obtain rfl := BatchResponse.refused.inj same
    exact member

end Agrees

end BatchResult

theorem BatchResponse.id?_eq_some {response : BatchResponse} {id : Uuid} :
    response.id? = some id ↔ response = .inserted id := by
  cases response <;> simp [id?]

theorem BatchResponse.error?_eq_some {response : BatchResponse} {error : RefusedObject} :
    response.error? = some error ↔ response = .refused error := by
  cases response <;> simp [error?]

namespace BatchResult

theorem mem_positions_id? {xs : List BatchResponse} {i : Nat} {id : Uuid} :
    (i, id) ∈ positions BatchResponse.id? 0 xs ↔ xs[i]? = some (.inserted id) := by
  simp only [mem_positions_zero, BatchResponse.id?_eq_some, exists_eq_right]

theorem mem_positions_error? {xs : List BatchResponse} {i : Nat} {error : RefusedObject} :
    (i, error) ∈ positions BatchResponse.error? 0 xs ↔ xs[i]? = some (.refused error) := by
  simp only [mem_positions_zero, BatchResponse.error?_eq_some, exists_eq_right]

theorem inserted_or_refused {xs : List BatchResponse} {i : Nat} :
    ((∃ id, xs[i]? = some (.inserted id)) ∨ ∃ error, xs[i]? = some (.refused error)) ↔
      i < xs.length := by
  constructor
  · rintro (⟨_, at_i⟩ | ⟨_, at_i⟩)
    · exact (List.getElem?_eq_some_iff.mp at_i).1
    · exact (List.getElem?_eq_some_iff.mp at_i).1
  · intro inside
    rw [List.getElem?_eq_getElem inside]
    cases xs[i] with
    | inserted id => exact .inl ⟨id, rfl⟩
    | refused error => exact .inr ⟨error, rfl⟩

namespace Consistent

variable {r : BatchResult}

theorem mem_ids (consistent : r.Consistent) {i : Nat} {id : Uuid} :
    (i, id) ∈ r.ids ↔ r.responses[i]? = some (.inserted id) := by
  rw [consistent.ids_eq, mem_positions_id?]

theorem mem_errors (consistent : r.Consistent) {i : Nat} {error : RefusedObject} :
    (i, error) ∈ r.errors ↔ r.responses[i]? = some (.refused error) := by
  rw [consistent.errors_eq, mem_positions_error?]

theorem agrees (consistent : r.Consistent) : r.Agrees where
  ids_ascend := by
    rw [consistent.ids_eq]
    exact ascends_positions _ _ _
  errors_ascend := by
    rw [consistent.errors_eq]
    exact ascends_positions _ _ _
  disjoint := by
    intro i listed shared
    obtain ⟨id, member⟩ := mem_keys.mp listed
    obtain ⟨error, member'⟩ := mem_keys.mp shared
    cases (consistent.mem_ids.mp member).symm.trans (consistent.mem_errors.mp member')
  covered := by
    intro i
    simp only [mem_keys, consistent.mem_ids, consistent.mem_errors]
    exact inserted_or_refused
  inserted _ _ := consistent.mem_ids.mp
  refused _ _ := consistent.mem_errors.mp
  flagged := by
    rw [consistent.hasErrors_eq]
    simp

end Consistent

theorem Agrees.consistent {r : BatchResult} (agrees : r.Agrees) : r.Consistent where
  ids_eq := by
    refine agrees.ids_ascend.eq_of_mem_iff (ascends_positions _ _ _) ?_
    rintro ⟨i, id⟩
    rw [agrees.mem_ids, mem_positions_id?]
  errors_eq := by
    refine agrees.errors_ascend.eq_of_mem_iff (ascends_positions _ _ _) ?_
    rintro ⟨i, error⟩
    rw [agrees.mem_errors, mem_positions_error?]
  hasErrors_eq := by
    rw [Bool.eq_iff_iff, agrees.flagged]
    simp

/-! ### Merging -/

/-- The outcome without the time that it took. -/
def untimed (r : BatchResult) : BatchResult := { r with elapsedSeconds := .zero }

theorem shift_append {α : Type} (offset : Nat) (xs ys : List (Nat × α)) :
    shift offset (xs ++ ys) = shift offset xs ++ shift offset ys := List.map_append

theorem shift_shift {α : Type} (first second : Nat) (entries : List (Nat × α)) :
    shift first (shift second entries) = shift (first + second) entries := by
  simp only [shift, List.map_map]
  refine List.map_congr_left fun entry _ => ?_
  simp only [Function.comp_apply, Prod.mk.injEq, and_true]
  omega

theorem shift_zero {α : Type} (entries : List (Nat × α)) : shift 0 entries = entries :=
  List.map_id entries

theorem untimed_merge_assoc (a b c : BatchResult) :
    ((a.merge b).merge c).untimed = (a.merge (b.merge c)).untimed := by
  simp only [merge, untimed, shift_append, shift_shift, List.length_append, List.append_assoc,
    Bool.or_assoc]

theorem untimed_merge_empty (r : BatchResult) : (r.merge {}).untimed = r.untimed := by
  simp [merge, untimed, shift]

theorem untimed_empty_merge (r : BatchResult) : (merge {} r).untimed = r.untimed := by
  simp [merge, untimed, shift_zero]

end BatchResult

end VectorClient
