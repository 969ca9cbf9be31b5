import VectorClient.Batch.Wire
import VectorClient.Proofs.Batch.Result
import VectorClient.Proofs.Steps
import VectorClient.Proofs.Uuid

/-!
# Replies to batches

A reply is read iff its errors are about objects of the batch and the objects that no error is about
were sent with ids. The outcome is consistent and has one response for each object: the last error
about its position, or the id that was sent with it.
-/

namespace VectorClient

namespace Wire

/-- The error is about one of `size` objects. -/
def BatchError.IsInside (size : Nat) (e : BatchError) : Prop :=
  0 ≤ e.index.toInt ∧ e.index.toInt < size

instance (size : Nat) (e : BatchError) : Decidable (e.IsInside size) :=
  inferInstanceAs (Decidable (_ ∧ _))

def BatchReply.lastError? (reply : BatchReply) (i : Nat) : Option BatchError :=
  (reply.errors.filter fun e => e.index.toInt = (i : Int)).getLast?

/-- The response to an object at a position that was sent in this form. -/
def BatchReply.answer? (reply : BatchReply) (i : Nat) (o : VectorClient.BatchObject)
    (sent : BatchObject) : Option BatchResponse :=
  match reply.lastError? i with
  | some e => some (.refused ⟨e.error, o, o.id⟩)
  | none => (Uuid.read? sent.uuid).map .inserted

variable {reply : BatchReply} {i : Nat}

theorem BatchReply.lastError?_eq_none :
    reply.lastError? i = none ↔ ∀ e ∈ reply.errors, e.index.toInt ≠ (i : Int) := by
  simp only [lastError?, List.getLast?_eq_none_iff, List.filter_eq_nil_iff, decide_eq_true_eq]

theorem BatchReply.answer?_accepts {o : VectorClient.BatchObject} {sent : BatchObject} :
    (∃ r, reply.answer? i o sent = some r) ↔
      (reply.lastError? i = none → ∃ id, Uuid.read? sent.uuid = some id) := by
  unfold answer?
  cases reply.lastError? i with
  | some e => exact ⟨nofun, fun _ => ⟨_, rfl⟩⟩
  | none => simp

theorem BatchReply.answer?_eq_refused {o : VectorClient.BatchObject} {sent : BatchObject}
    {error : RefusedObject} :
    reply.answer? i o sent = some (.refused error) ↔
      ∃ e, reply.lastError? i = some e ∧ error = ⟨e.error, o, o.id⟩ := by
  unfold answer?
  cases reply.lastError? i with
  | some e => simp [eq_comm]
  | none => simp

end Wire

namespace Batch

inductive Answered (reply : Wire.BatchReply) (i : Nat) (o : BatchObject) (sent : Wire.BatchObject) :
    BatchResponse → Prop
  | refused {e : Wire.BatchError} (told : reply.lastError? i = some e) :
    Answered reply i o sent (.refused ⟨e.error, o, o.id⟩)
  | inserted {id : Uuid} (silent : reply.lastError? i = none) (sentAs : sent.uuid = id.text) :
    Answered reply i o sent (.inserted id)

/-! ### Failed positions -/

theorem position_ok {size : Nat} {e : Wire.BatchError} {i : Nat} :
    position size e.index = .ok i ↔ e.IsInside size ∧ i = e.index.toInt.toNat := by
  unfold position Wire.BatchError.IsInside
  split
  · rename_i inside
    obtain ⟨nonneg, below⟩ := inside
    rw [Except.ok.injEq]
    exact ⟨fun same => ⟨⟨nonneg, by omega⟩, same.symm⟩, fun found => found.2.symm⟩
  · rename_i outside
    constructor
    · intro failed
      cases failed
    · rintro ⟨⟨nonneg, below⟩, _⟩
      exact absurd ⟨nonneg, by omega⟩ outside

theorem failures_inside {size : Nat} {errors : List Wire.BatchError}
    (inside : ∀ e ∈ errors, e.IsInside size) :
    failures size errors = .ok (errors.map fun e => (e.index.toInt.toNat, e.error)) := by
  refine mapM_ok_of_forall fun e member => ?_
  rw [position_ok.mpr ⟨inside e member, rfl⟩]
  rfl

theorem failures_ok {size : Nat} {errors : List Wire.BatchError} {failed : List (Nat × String)} :
    failures size errors = .ok failed ↔ (∀ e ∈ errors, e.IsInside size) ∧
      failed = errors.map fun e => (e.index.toInt.toNat, e.error) := by
  constructor
  · intro read
    have inside : ∀ e ∈ errors, e.IsInside size := by
      intro e member
      obtain ⟨_, placed⟩ := mapM_accepts.mp ⟨failed, read⟩ e member
      obtain ⟨_, found, _⟩ := bind_ok.mp placed
      exact (position_ok.mp found).1
    exact ⟨inside, Except.ok.inj (read.symm.trans (failures_inside inside))⟩
  · rintro ⟨inside, rfl⟩
    exact failures_inside inside

/-- Later messages about a position replace earlier ones. -/
theorem lastMessage?_failures {reply : Wire.BatchReply} {size : Nat}
    (inside : ∀ e ∈ reply.errors, e.IsInside size) (i : Nat) :
    lastMessage? (reply.errors.map fun e => (e.index.toInt.toNat, e.error)) i =
      (reply.lastError? i).map (·.error) := by
  have same : ∀ e ∈ reply.errors,
      decide (e.index.toInt.toNat = i) = decide (e.index.toInt = (i : Int)) := by
    intro e member
    have := (inside e member).1
    exact decide_eq_decide.mpr (by omega)
  rw [lastMessage?, Wire.BatchReply.lastError?, ← List.map_reverse, List.find?_map, Option.map_map,
    ← List.filter_congr same, List.getLast?_filter]
  rfl

/-! ### Responses -/

theorem response_ok {reply : Wire.BatchReply} {failed : List (Nat × String)} {i : Nat}
    (known : lastMessage? failed i = (reply.lastError? i).map (·.error)) {o : BatchObject}
    {sent : Wire.BatchObject} {r : BatchResponse} :
    response failed i o sent = .ok r ↔ reply.answer? i o sent = some r := by
  unfold response sentId Wire.BatchReply.answer?
  rw [known]
  cases reply.lastError? i with
  | some e => simp
  | none => cases Uuid.read? sent.uuid <;> simp [Except.map]

theorem responses_eq (failed : List (Nat × String)) (start : Nat)
    (pairs : List (BatchObject × Wire.BatchObject)) :
    responses failed start pairs =
      (pairs.zipIdx start).mapM fun x => response failed x.2 x.1.1 x.1.2 := by
  induction pairs generalizing start with
  | nil => rfl
  | cons pair rest ih =>
    rw [List.zipIdx_cons, List.mapM_cons, ← ih]
    rfl

theorem ofReply_ok {reply : Wire.BatchReply} {objects : List BatchObject}
    {sent : List Wire.BatchObject} {elapsed : Number.Double} {r : BatchResult} :
    ofReply reply objects sent elapsed = .ok r ↔
      objects.length = sent.length ∧ (∀ e ∈ reply.errors, e.IsInside objects.length) ∧
      ∃ all, List.Forall₂ (fun x response => reply.answer? x.2 x.1.1 x.1.2 = some response)
          (objects.zip sent).zipIdx all ∧
        r = all.foldl BatchResult.push { elapsedSeconds := elapsed } := by
  unfold ofReply
  split
  · rename_i differ
    exact ⟨nofun, fun ⟨same, _⟩ => absurd same differ⟩
  · rename_i same
    rw [not_not] at same
    simp only [bind_ok, failures_ok, same, true_and]
    constructor
    · rintro ⟨_, ⟨inside, rfl⟩, all, read, done⟩
      rw [responses_eq, mapM_ok_iff] at read
      simp only [response_ok (lastMessage?_failures inside _)] at read
      exact ⟨inside, all, read, (pure_ok done).symm⟩
    · rintro ⟨inside, all, answered, rfl⟩
      refine ⟨_, ⟨inside, rfl⟩, all, ?_, rfl⟩
      rw [responses_eq, mapM_ok_iff]
      simpa only [response_ok (lastMessage?_failures inside _)] using answered

theorem answered_of_answer? {reply : Wire.BatchReply} {i : Nat} {o : BatchObject}
    {sent : Wire.BatchObject} {r : BatchResponse} (named : ∃ id : Uuid, sent.uuid = id.text)
    (answer : reply.answer? i o sent = some r) : Answered reply i o sent r := by
  obtain ⟨id, sentAs⟩ := named
  unfold Wire.BatchReply.answer? at answer
  cases told : reply.lastError? i with
  | some e =>
    rw [told] at answer
    obtain rfl := Option.some.inj answer
    exact .refused told
  | none =>
    rw [told, sentAs, Uuid.read?_text] at answer
    obtain rfl := Option.some.inj answer
    exact .inserted told sentAs

theorem ofReply_answered {reply : Wire.BatchReply} {pairs : List (BatchObject × Wire.BatchObject)}
    (inside : ∀ e ∈ reply.errors, e.IsInside pairs.length)
    (named : ∀ p ∈ pairs, ∃ id : Uuid, p.2.uuid = id.text) (elapsed : Number.Double) :
    ∃ r, ofReply reply (pairs.map Prod.fst) (pairs.map Prod.snd) elapsed = .ok r ∧ r.Consistent ∧
      r.responses.length = pairs.length ∧
      ∀ k p, pairs[k]? = some p → ∃ response, r.responses[k]? = some response ∧
        Answered reply k p.1 p.2 response := by
  have together : (pairs.map Prod.fst).zip (pairs.map Prod.snd) = pairs := by
    rw [← List.unzip_fst, ← List.unzip_snd, List.zip_unzip]
  have answers : ∀ x ∈ pairs.zipIdx, ∃ response, reply.answer? x.2 x.1.1 x.1.2 = some response := by
    intro x member
    refine Wire.BatchReply.answer?_accepts.mpr fun _ => ?_
    obtain ⟨id, sentAs⟩ := named x.1 (List.fst_mem_of_mem_zipIdx member)
    exact ⟨id, by rw [sentAs, Uuid.read?_text]⟩
  obtain ⟨all, each⟩ := exists_forall₂.mpr answers
  have outcome := BatchResult.responses_of_pushed elapsed all
  refine ⟨all.foldl BatchResult.push { elapsedSeconds := elapsed }, ofReply_ok.mpr ?_,
    (BatchResult.Consistent.empty elapsed).foldl_push all, ?_, ?_⟩
  · rw [together, List.length_map, List.length_map]
    exact ⟨rfl, inside, all, each, rfl⟩
  · rw [outcome, ← each.length_eq, List.length_zipIdx]
  · intro k p at_k
    have indexed : pairs.zipIdx[k]? = some (p, k) := by
      rw [List.getElem?_zipIdx, at_k, Option.map_some, Nat.zero_add]
    obtain ⟨response, found, answer⟩ := getElem?_of_forall₂ each indexed
    rw [outcome]
    exact ⟨response, found, answered_of_answer? (named p (List.mem_of_getElem? at_k)) answer⟩

end Batch

end VectorClient
