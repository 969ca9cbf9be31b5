import VectorClient.Batch.Basic

/-!
# Consistent outcomes

An outcome is consistent when its ids and its errors are those of its responses, by position.
Adding a response and merging keep outcomes consistent, so that in the outcome of a whole insert
the entries at a position are those of the response at that position.
-/

namespace VectorClient

def BatchResponse.id? : BatchResponse → Option Uuid
  | .inserted id => some id
  | .refused _ => none

def BatchResponse.error? : BatchResponse → Option RefusedObject
  | .inserted _ => none
  | .refused error => some error

namespace BatchResult

variable {α : Type}

/-- What is picked from responses, the first of which has the position `i`. -/
def positions (pick : BatchResponse → Option α) (i : Nat) : List BatchResponse → List (Nat × α)
  | [] => []
  | response :: rest => ((pick response).map (i, ·)).toList ++ positions pick (i + 1) rest

structure Consistent (r : BatchResult) : Prop where
  ids_eq : r.ids = positions BatchResponse.id? 0 r.responses
  errors_eq : r.errors = positions BatchResponse.error? 0 r.responses
  hasErrors_eq : r.hasErrors = !r.errors.isEmpty

/-! ### Entries by position -/

theorem positions_append (pick : BatchResponse → Option α) (i : Nat) (xs ys : List BatchResponse) :
    positions pick i (xs ++ ys) = positions pick i xs ++ positions pick (i + xs.length) ys := by
  induction xs generalizing i with
  | nil => rfl
  | cons x rest ih =>
    rw [List.cons_append, positions, positions, ih, List.append_assoc, List.length_cons,
      show i + 1 + rest.length = i + (rest.length + 1) by omega]

theorem positions_shift (pick : BatchResponse → Option α) (i offset : Nat)
    (xs : List BatchResponse) :
    positions pick (i + offset) xs = shift offset (positions pick i xs) := by
  induction xs generalizing i with
  | nil => rfl
  | cons x rest ih =>
    rw [positions, positions, show i + offset + 1 = i + 1 + offset by omega, ih]
    cases pick x <;> simp [shift]

theorem lookup_positions_before (pick : BatchResponse → Option α) {i j : Nat} (before : j < i)
    (xs : List BatchResponse) : (positions pick i xs).lookup j = none := by
  induction xs generalizing i with
  | nil => rfl
  | cons x rest ih =>
    rw [positions]
    cases pick x with
    | none => exact ih (Nat.lt_succ_of_lt before)
    | some a =>
      have different : (j == i) = false := beq_false_of_ne (Nat.ne_of_lt before)
      simp only [Option.map_some, Option.toList_some, List.singleton_append, List.lookup_cons,
        different]
      exact ih (Nat.lt_succ_of_lt before)

theorem lookup_positions (pick : BatchResponse → Option α) (start i : Nat)
    (xs : List BatchResponse) : (positions pick start xs).lookup (start + i) = xs[i]?.bind pick := by
  induction xs generalizing start i with
  | nil => rfl
  | cons x rest ih =>
    rw [positions]
    cases i with
    | zero =>
      rw [List.getElem?_cons_zero, Option.bind_some]
      cases pick x with
      | none => exact lookup_positions_before pick (Nat.lt_succ_self start) rest
      | some a => simp
    | succ i =>
      have different : (start + (i + 1) == start) = false := beq_false_of_ne (by omega)
      have later := ih (start + 1) i
      rw [show start + 1 + i = start + (i + 1) by omega] at later
      rw [List.getElem?_cons_succ, ← later]
      cases pick x <;> simp [List.lookup_cons, different]

namespace Consistent

variable {r first second : BatchResult}

theorem lookup_ids (consistent : r.Consistent) (i : Nat) :
    r.ids.lookup i = r.responses[i]?.bind BatchResponse.id? := by
  have found := lookup_positions BatchResponse.id? 0 i r.responses
  rwa [Nat.zero_add, ← consistent.ids_eq] at found

theorem lookup_errors (consistent : r.Consistent) (i : Nat) :
    r.errors.lookup i = r.responses[i]?.bind BatchResponse.error? := by
  have found := lookup_positions BatchResponse.error? 0 i r.responses
  rwa [Nat.zero_add, ← consistent.errors_eq] at found

theorem entries_of_refused (consistent : r.Consistent) {i : Nat} {error : RefusedObject}
    (responded : r.responses[i]? = some (.refused error)) :
    r.errors.lookup i = some error ∧ r.ids.lookup i = none := by
  rw [consistent.lookup_errors, consistent.lookup_ids, responded]
  exact ⟨rfl, rfl⟩

theorem entries_of_inserted (consistent : r.Consistent) {i : Nat} {id : Uuid}
    (responded : r.responses[i]? = some (.inserted id)) :
    r.ids.lookup i = some id ∧ r.errors.lookup i = none := by
  rw [consistent.lookup_errors, consistent.lookup_ids, responded]
  exact ⟨rfl, rfl⟩

/-! ### Outcomes that stay consistent -/

theorem empty (elapsedSeconds : Number.Double) : Consistent { elapsedSeconds } := ⟨rfl, rfl, rfl⟩

theorem push (consistent : r.Consistent) (response : BatchResponse) :
    (r.push response).Consistent := by
  cases response with
  | inserted id =>
    refine ⟨?_, ?_, consistent.hasErrors_eq⟩
    · simp [BatchResult.push, positions_append, positions, BatchResponse.id?, consistent.ids_eq]
    · simp [BatchResult.push, positions_append, positions, BatchResponse.error?,
        consistent.errors_eq]
  | refused error =>
    refine ⟨?_, ?_, ?_⟩
    · simp [BatchResult.push, positions_append, positions, BatchResponse.id?, consistent.ids_eq]
    · simp [BatchResult.push, positions_append, positions, BatchResponse.error?,
        consistent.errors_eq]
    · simp [BatchResult.push]

theorem foldl_push (consistent : r.Consistent) (responses : List BatchResponse) :
    (responses.foldl BatchResult.push r).Consistent := by
  induction responses generalizing r with
  | nil => exact consistent
  | cons response rest ih => exact ih (consistent.push response)

theorem merge (left : first.Consistent) (right : second.Consistent) :
    (first.merge second).Consistent := by
  refine ⟨?_, ?_, ?_⟩
  · simp only [BatchResult.merge]
    rw [positions_append, positions_shift, ← left.ids_eq, ← right.ids_eq]
  · simp only [BatchResult.merge]
    rw [positions_append, positions_shift, ← left.errors_eq, ← right.errors_eq]
  · simp only [BatchResult.merge, left.hasErrors_eq, right.hasErrors_eq, shift]
    cases first.errors <;> simp

end Consistent

@[simp] theorem push_responses (r : BatchResult) (response : BatchResponse) :
    (r.push response).responses = r.responses ++ [response] := by
  cases response <;> rfl

theorem foldl_push_responses (r : BatchResult) (responses : List BatchResponse) :
    (responses.foldl push r).responses = r.responses ++ responses := by
  induction responses generalizing r with
  | nil => simp
  | cons response rest ih =>
    rw [List.foldl_cons, ih, push_responses, List.append_assoc, List.singleton_append]

theorem responses_of_pushed (elapsedSeconds : Number.Double) (responses : List BatchResponse) :
    (responses.foldl push { elapsedSeconds }).responses = responses := by
  rw [foldl_push_responses]
  rfl

@[simp] theorem merge_responses (first second : BatchResult) :
    (first.merge second).responses = first.responses ++ second.responses := rfl

end BatchResult

end VectorClient
