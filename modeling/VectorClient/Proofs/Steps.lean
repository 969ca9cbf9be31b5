import Mathlib.Data.List.Forall2

/-!
# Steps that can fail

What a composed step that succeeds says about its parts.
-/

namespace VectorClient

variable {ε α β γ : Type}

theorem bind_ok {x : Except ε α} {f : α → Except ε β} {b : β} :
    (x >>= f) = .ok b ↔ ∃ a, x = .ok a ∧ f a = .ok b := by
  cases x with
  | error e =>
    constructor
    · intro failed
      cases failed
    · rintro ⟨_, failed, _⟩
      cases failed
  | ok a =>
    refine ⟨fun done => ⟨a, rfl, done⟩, ?_⟩
    rintro ⟨a', same, done⟩
    cases same
    exact done

theorem bind_error {x : Except ε α} {f : α → Except ε β} {e : ε} :
    (x >>= f) = .error e ↔ x = .error e ∨ ∃ a, x = .ok a ∧ f a = .error e := by
  cases x with
  | error e' =>
    constructor
    · intro failed
      cases failed
      exact .inl rfl
    · rintro (failed | ⟨_, done, _⟩)
      · cases failed
        rfl
      · cases done
  | ok a =>
    constructor
    · intro failed
      exact .inr ⟨a, rfl, failed⟩
    · rintro (failed | ⟨_, same, failed⟩)
      · cases failed
      · cases same
        exact failed

theorem map_ok {f : α → β} {x : Except ε α} {b : β} :
    x.map f = .ok b ↔ ∃ a, x = .ok a ∧ f a = b := by
  cases x with
  | error e =>
    constructor
    · intro failed
      cases failed
    · rintro ⟨_, failed, _⟩
      cases failed
  | ok a =>
    refine ⟨fun done => ⟨a, rfl, Except.ok.inj done⟩, ?_⟩
    rintro ⟨a', same, rfl⟩
    cases same
    rfl

theorem map_error {f : α → β} {x : Except ε α} {e : ε} : x.map f = .error e ↔ x = .error e := by
  cases x <;> simp [Except.map]

theorem map_accepts {f : α → β} {x : Except ε α} : (∃ b, x.map f = .ok b) ↔ ∃ a, x = .ok a := by
  cases x with
  | error e => exact ⟨nofun, nofun⟩
  | ok a => exact ⟨fun _ => ⟨a, rfl⟩, fun _ => ⟨f a, rfl⟩⟩

theorem bind_accepts {x : Except ε α} {f : α → Except ε β} :
    (∃ b, (x >>= f) = .ok b) ↔ ∃ a, x = .ok a ∧ ∃ b, f a = .ok b := by
  simp only [bind_ok]
  constructor
  · rintro ⟨b, a, first, second⟩
    exact ⟨a, first, b, second⟩
  · rintro ⟨a, first, b, second⟩
    exact ⟨b, a, first, second⟩

theorem pure_accepts {a : α} : (∃ b, (pure a : Except ε α) = .ok b) ↔ True :=
  iff_true_intro ⟨a, rfl⟩

theorem pure_ok {a b : α} (h : (pure a : Except ε α) = .ok b) : a = b := Except.ok.inj h

theorem mapM_cons_ok {f : α → Except ε β} {x : α} {xs : List α} {ys : List β} :
    (x :: xs).mapM f = .ok ys ↔ ∃ y rest, f x = .ok y ∧ xs.mapM f = .ok rest ∧ ys = y :: rest := by
  rw [List.mapM_cons, bind_ok]
  constructor
  · rintro ⟨y, first, others⟩
    obtain ⟨rest, mapped, same⟩ := bind_ok.mp others
    exact ⟨y, rest, first, mapped, (pure_ok same).symm⟩
  · rintro ⟨y, rest, first, mapped, rfl⟩
    exact ⟨y, first, bind_ok.mpr ⟨rest, mapped, rfl⟩⟩

theorem mapM_ok_of_forall {f : α → Except ε β} {g : α → β} {xs : List α}
    (each : ∀ x ∈ xs, f x = .ok (g x)) : xs.mapM f = .ok (xs.map g) := by
  induction xs with
  | nil => rfl
  | cons x xs ih =>
    exact mapM_cons_ok.mpr ⟨g x, xs.map g, each x List.mem_cons_self,
      ih fun x' member => each x' (List.mem_cons_of_mem _ member), rfl⟩

theorem mapM_ok_iff {f : α → Except ε β} {xs : List α} {ys : List β} :
    xs.mapM f = .ok ys ↔ List.Forall₂ (fun x y => f x = .ok y) xs ys := by
  induction xs generalizing ys with
  | nil =>
    rw [List.forall₂_nil_left_iff]
    exact ⟨fun done => (pure_ok done).symm, fun none => none ▸ rfl⟩
  | cons x xs ih =>
    rw [mapM_cons_ok, List.forall₂_cons_left_iff]
    constructor
    · rintro ⟨y, rest, first, others, rfl⟩
      exact ⟨y, rest, first, ih.mp others, rfl⟩
    · rintro ⟨y, rest, first, others, rfl⟩
      exact ⟨y, rest, first, ih.mpr others, rfl⟩

theorem exists_forall₂ {R : α → β → Prop} {xs : List α} :
    (∃ ys, List.Forall₂ R xs ys) ↔ ∀ x ∈ xs, ∃ y, R x y := by
  induction xs with
  | nil => exact ⟨fun _ => nofun, fun _ => ⟨[], .nil⟩⟩
  | cons x xs ih =>
    rw [List.forall_mem_cons, ← ih]
    constructor
    · rintro ⟨ys, each⟩
      obtain ⟨y, rest, first, others, _⟩ := List.forall₂_cons_left_iff.mp each
      exact ⟨⟨y, first⟩, rest, others⟩
    · rintro ⟨⟨y, first⟩, rest, others⟩
      exact ⟨y :: rest, .cons first others⟩

theorem exists_of_forall₂ {R : α → β → Prop} {xs : List α} {ys : List β}
    (each : List.Forall₂ R xs ys) : ∀ y ∈ ys, ∃ x ∈ xs, R x y := by
  have listed := (List.forall₂_and_left xs ys).mpr ⟨fun _ member => member, each⟩
  exact exists_forall₂.mp ⟨xs, List.Forall₂.flip listed⟩

theorem getElem?_of_forall₂ {R : α → β → Prop} {xs : List α} {ys : List β}
    (each : List.Forall₂ R xs ys) {i : Nat} {x : α} (at_i : xs[i]? = some x) :
    ∃ y, ys[i]? = some y ∧ R x y := by
  induction each generalizing i with
  | nil => simp at at_i
  | @cons x' y _ _ first _ ih =>
    cases i with
    | zero =>
      obtain rfl := Option.some.inj at_i
      exact ⟨y, rfl, first⟩
    | succ i => exact ih at_i

theorem mapM_accepts {f : α → Except ε β} {xs : List α} :
    (∃ ys, xs.mapM f = .ok ys) ↔ ∀ x ∈ xs, ∃ y, f x = .ok y := by
  simp only [mapM_ok_iff, exists_forall₂]

theorem mapM_some_iff {f : α → Option β} {xs : List α} {ys : List β} :
    xs.mapM f = some ys ↔ List.Forall₂ (fun x y => f x = some y) xs ys := by
  induction xs generalizing ys with
  | nil =>
    rw [List.forall₂_nil_left_iff]
    exact ⟨fun done => (Option.some.inj done).symm, fun none => none ▸ rfl⟩
  | cons x xs ih =>
    rw [List.mapM_cons, Option.bind_eq_bind, Option.bind_eq_some_iff, List.forall₂_cons_left_iff]
    constructor
    · rintro ⟨y, first, others⟩
      obtain ⟨rest, mapped, same⟩ := Option.bind_eq_some_iff.mp others
      exact ⟨y, rest, first, ih.mp mapped, (Option.some.inj same).symm⟩
    · rintro ⟨y, rest, first, others, rfl⟩
      exact ⟨y, first, Option.bind_eq_some_iff.mpr ⟨rest, ih.mpr others, rfl⟩⟩

theorem mapM_none_iff {f : α → Option β} {xs : List α} :
    xs.mapM f = none ↔ ∃ x ∈ xs, f x = none := by
  have failed : xs.mapM f = none ↔ ¬∃ ys, xs.mapM f = some ys := by
    rw [Option.eq_none_iff_forall_ne_some, not_exists]
  simp only [failed, mapM_some_iff, exists_forall₂, not_forall, exists_prop,
    ← Option.eq_none_iff_forall_ne_some, not_exists]

theorem mapM_error_of_first {f : α → Except ε β} {earlier later : List α} {x : α} {e : ε}
    (passed : ∀ y ∈ earlier, ∃ b, f y = .ok b) (failed : f x = .error e) :
    (earlier ++ x :: later).mapM f = .error e := by
  induction earlier with
  | nil =>
    rw [List.nil_append, List.mapM_cons, failed]
    rfl
  | cons y rest ih =>
    obtain ⟨b, first⟩ := passed y List.mem_cons_self
    have others := ih fun z member => passed z (List.mem_cons_of_mem _ member)
    rw [List.cons_append, List.mapM_cons, first, others]
    rfl

theorem mapM_error_iff {f : α → Except ε β} {xs : List α} {e : ε} :
    xs.mapM f = .error e ↔ ∃ earlier x later, xs = earlier ++ x :: later ∧
      (∀ y ∈ earlier, ∃ b, f y = .ok b) ∧ f x = .error e := by
  constructor
  · intro failed
    induction xs with
    | nil => cases failed
    | cons x xs ih =>
      rw [List.mapM_cons] at failed
      obtain first | ⟨b, first, others⟩ := bind_error.mp failed
      · exact ⟨[], x, xs, rfl, nofun, first⟩
      · obtain later | ⟨_, _, impossible⟩ := bind_error.mp others
        · obtain ⟨earlier, y, after, split, passed, failed⟩ := ih later
          refine ⟨x :: earlier, y, after, by rw [split, List.cons_append], ?_, failed⟩
          exact List.forall_mem_cons.mpr ⟨⟨b, first⟩, passed⟩
        · cases impossible
  · rintro ⟨earlier, x, later, rfl, passed, failed⟩
    exact mapM_error_of_first passed failed

/-- Items that were written one by one are read one by one. -/
theorem mapM_map_of_inverse {write : α → β} {read : β → Except ε α} {xs : List α}
    (inverse : ∀ x ∈ xs, read (write x) = .ok x) : (xs.map write).mapM read = .ok xs := by
  induction xs with
  | nil => rfl
  | cons x xs ih =>
    exact mapM_cons_ok.mpr ⟨x, xs, inverse x List.mem_cons_self,
      ih fun x' member => inverse x' (List.mem_cons_of_mem _ member), rfl⟩

theorem length_of_mapM_ok {f : α → Except ε β} {xs : List α} {ys : List β}
    (mapped : xs.mapM f = .ok ys) : ys.length = xs.length := by
  induction xs generalizing ys with
  | nil =>
    obtain rfl := pure_ok mapped
    rfl
  | cons x xs ih =>
    obtain ⟨y, rest, _, others, rfl⟩ := mapM_cons_ok.mp mapped
    rw [List.length_cons, List.length_cons, ih others]

theorem getElem?_of_mapM_ok {f : α → Except ε β} {xs : List α} {ys : List β}
    (mapped : xs.mapM f = .ok ys) {i : Nat} {x : α} (at_i : xs[i]? = some x) :
    ∃ y, ys[i]? = some y ∧ f x = .ok y :=
  getElem?_of_forall₂ (mapM_ok_iff.mp mapped) at_i

/-! ### Results that are changed afterwards -/

theorem mapM_map_result (f : α → Except ε β) (g : β → γ) (xs : List α) :
    xs.mapM (fun x => (f x).map g) = (xs.mapM f).map (List.map g) := by
  induction xs with
  | nil => rfl
  | cons x xs ih =>
    rw [List.mapM_cons, List.mapM_cons, ih]
    cases f x with
    | error e => rfl
    | ok y => cases xs.mapM f <;> rfl

theorem foldlM_map_state {f : β → α → Except ε β} {f' : γ → α → Except ε γ} {g : β → γ}
    (step : ∀ b x, f' (g b) x = (f b x).map g) (xs : List α) (start : β) :
    xs.foldlM f' (g start) = (xs.foldlM f start).map g := by
  induction xs generalizing start with
  | nil => rfl
  | cons x xs ih =>
    rw [List.foldlM_cons, List.foldlM_cons, step]
    cases f start x with
    | error e => rfl
    | ok next => exact ih next

/-! ### Faults -/

def fault? : Except ε α → Option ε
  | .ok _ => none
  | .error e => some e

theorem fault?_eq_some {x : Except ε α} {e : ε} : fault? x = some e ↔ x = .error e := by
  cases x <;> simp [fault?]

theorem fault?_eq_none {x : Except ε α} : fault? x = none ↔ ∃ a, x = .ok a := by
  cases x <;> simp [fault?]

/-- Of two steps the first fault counts, when that of the second does not depend on the first. -/
theorem fault?_bind {x : Except ε α} {f : α → Except ε β} {later : Option ε}
    (second : ∀ a, x = .ok a → fault? (f a) = later) : fault? (x >>= f) = (fault? x).or later := by
  cases x with
  | ok a => exact second a rfl
  | error e => rfl

theorem fault?_bind_pure {x : Except ε α} {g : α → β} :
    fault? (x >>= fun a => pure (g a)) = fault? x := by
  cases x <;> rfl

end VectorClient
