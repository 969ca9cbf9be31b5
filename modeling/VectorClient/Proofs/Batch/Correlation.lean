import VectorClient.Proofs.Batch.Merging
import VectorClient.Proofs.Batch.Reply

/-!
# Replies and the objects they are about

The outcome that is read from a reply agrees with itself, has a response for each object and refuses
those that the reply has an error about. Its parts are put together in any grouping.
-/

namespace VectorClient

namespace BatchResult

namespace Agrees

variable {a b : BatchResult}

theorem empty (elapsedSeconds : Number.Double) : Agrees { elapsedSeconds } :=
  (Consistent.empty elapsedSeconds).agrees

theorem merge (first : a.Agrees) (second : b.Agrees) : (a.merge b).Agrees :=
  (first.consistent.merge second.consistent).agrees

theorem refused_iff (agrees : a.Agrees) {i : Nat} :
    i ∈ a.errors.map Prod.fst ↔ ∃ error, a.responses[i]? = some (.refused error) := by
  rw [mem_keys]
  simp only [agrees.mem_errors]

end Agrees

end BatchResult

namespace Batch

structure Correlates (reply : Wire.BatchReply) (objects : List BatchObject)
    (sent : List Wire.BatchObject) (r : BatchResult) : Prop where
  agrees : r.Agrees
  length_eq : r.responses.length = objects.length
  refused : ∀ i : Nat, i ∈ r.errors.map Prod.fst ↔ ∃ e ∈ reply.errors, e.index.toInt = (i : Int)
  answered : ∀ i o w, objects[i]? = some o → sent[i]? = some w →
    r.responses[i]? = reply.answer? i o w

variable {reply : Wire.BatchReply} {objects : List BatchObject} {sent : List Wire.BatchObject}
  {elapsed : Number.Double}

theorem mem_zipIdx_zip {i : Nat} {o : BatchObject} {w : Wire.BatchObject} :
    ((o, w), i) ∈ (objects.zip sent).zipIdx ↔ objects[i]? = some o ∧ sent[i]? = some w := by
  rw [List.mem_zipIdx_iff_getElem?, List.getElem?_zip_eq_some]

theorem exists_both (same : objects.length = sent.length) {i : Nat} (inside : i < objects.length) :
    ∃ o w, objects[i]? = some o ∧ sent[i]? = some w :=
  ⟨_, _, List.getElem?_eq_getElem inside, List.getElem?_eq_getElem (same ▸ inside)⟩

theorem ofReply_accepts :
    (∃ r, ofReply reply objects sent elapsed = .ok r) ↔
      objects.length = sent.length ∧ (∀ e ∈ reply.errors, e.IsInside objects.length) ∧
      ∀ i w, sent[i]? = some w → reply.lastError? i = none →
        ∃ id, Uuid.read? w.uuid = some id := by
  have all_answered : (∃ r, ofReply reply objects sent elapsed = .ok r) ↔
      objects.length = sent.length ∧ (∀ e ∈ reply.errors, e.IsInside objects.length) ∧
      ∀ x ∈ (objects.zip sent).zipIdx, ∃ response,
        reply.answer? x.2 x.1.1 x.1.2 = some response := by
    rw [← exists_forall₂]
    constructor
    · rintro ⟨r, read⟩
      obtain ⟨same, inside, all, each, _⟩ := ofReply_ok.mp read
      exact ⟨same, inside, all, each⟩
    · rintro ⟨same, inside, all, each⟩
      exact ⟨_, ofReply_ok.mpr ⟨same, inside, all, each, rfl⟩⟩
  rw [all_answered]
  refine and_congr_right fun same => and_congr_right fun _ => ?_
  simp only [Wire.BatchReply.answer?_accepts]
  constructor
  · intro each i w at_i
    have listed : i < objects.length := same ▸ (List.getElem?_eq_some_iff.mp at_i).1
    obtain ⟨o, w', here, there⟩ := exists_both same listed
    obtain rfl := Option.some.inj (there.symm.trans at_i)
    exact each _ (mem_zipIdx_zip.mpr ⟨here, there⟩)
  · rintro each ⟨⟨o, w⟩, i⟩ member
    exact each i w (mem_zipIdx_zip.mp member).2

theorem correlates_of_ofReply {r : BatchResult}
    (read : ofReply reply objects sent elapsed = .ok r) : Correlates reply objects sent r := by
  obtain ⟨same, inside, all, each, rfl⟩ := ofReply_ok.mp read
  have agrees := ((BatchResult.Consistent.empty elapsed).foldl_push all).agrees
  have outcome := BatchResult.responses_of_pushed elapsed all
  have length_eq : all.length = objects.length := by
    rw [← each.length_eq, List.length_zipIdx, List.length_zip, same, Nat.min_self]
  have answered : ∀ i o w, objects[i]? = some o → sent[i]? = some w →
      all[i]? = reply.answer? i o w := by
    intro i o w here there
    have paired : (objects.zip sent)[i]? = some (o, w) :=
      List.getElem?_zip_eq_some.mpr ⟨here, there⟩
    have indexed : (objects.zip sent).zipIdx[i]? = some ((o, w), i) := by
      rw [List.getElem?_zipIdx, paired, Option.map_some, Nat.zero_add]
    obtain ⟨response, found, answer⟩ := getElem?_of_forall₂ each indexed
    rw [found, answer]
  refine ⟨agrees, by rw [outcome, length_eq], fun i => ?_, by rwa [outcome]⟩
  -- An object is refused iff its answer is, which is so when the reply has a last error about it.
  rw [agrees.refused_iff, outcome]
  constructor
  · rintro ⟨error, found⟩
    have listed : i < objects.length := length_eq ▸ (List.getElem?_eq_some_iff.mp found).1
    obtain ⟨o, w, here, there⟩ := exists_both same listed
    rw [answered i o w here there] at found
    obtain ⟨e, told, _⟩ := Wire.BatchReply.answer?_eq_refused.mp found
    by_contra silent
    have untold : reply.lastError? i = none := by
      rw [Wire.BatchReply.lastError?_eq_none]
      exact fun e member about => silent ⟨e, member, about⟩
    cases untold.symm.trans told
  · rintro ⟨e, member, about⟩
    have below := (inside e member).2
    have listed : i < objects.length := by omega
    obtain ⟨o, w, here, there⟩ := exists_both same listed
    cases told : reply.lastError? i with
    | none => exact absurd about (Wire.BatchReply.lastError?_eq_none.mp told e member)
    | some last =>
      refine ⟨⟨last.error, o, o.id⟩, ?_⟩
      rw [answered i o w here there, Wire.BatchReply.answer?_eq_refused]
      exact ⟨last, told, rfl⟩

/-- A reply is read iff its errors are about objects of the batch and the other objects were sent
with ids. What is read correlates with the objects. Outcomes that agree with themselves are merged to
such outcomes, in any grouping, and the empty one is neutral. -/
theorem outcomes_correlate (reply : Wire.BatchReply) (objects : List BatchObject)
    (sent : List Wire.BatchObject) (elapsed : Number.Double) :
    ((∃ r, ofReply reply objects sent elapsed = .ok r) ↔
      objects.length = sent.length ∧ (∀ e ∈ reply.errors, e.IsInside objects.length) ∧
      ∀ i w, sent[i]? = some w → reply.lastError? i = none →
        ∃ id, Uuid.read? w.uuid = some id) ∧
    (∀ r, ofReply reply objects sent elapsed = .ok r → Correlates reply objects sent r) ∧
    (∀ a b : BatchResult, a.Agrees → b.Agrees →
      (a.merge b).Agrees ∧ (a.merge b).responses = a.responses ++ b.responses) ∧
    (∀ a b c : BatchResult, a.Agrees → b.Agrees → c.Agrees →
      ((a.merge b).merge c).untimed = (a.merge (b.merge c)).untimed) ∧
    ({} : BatchResult).Agrees ∧
    ∀ r : BatchResult, r.Agrees →
      (r.merge {}).untimed = r.untimed ∧ (BatchResult.merge {} r).untimed = r.untimed := by
  refine ⟨ofReply_accepts, fun _ => correlates_of_ofReply, ?_, ?_, .empty .zero, ?_⟩
  · intro a b first second
    exact ⟨first.merge second, BatchResult.merge_responses a b⟩
  · intro a b c _ _ _
    exact BatchResult.untimed_merge_assoc a b c
  · intro r _
    exact ⟨r.untimed_merge_empty, r.untimed_empty_merge⟩

/-- Of two errors about the second object the last one counts, and the id of that object is not
read. -/
theorem outcomes_correlate_repeated :
    let o : BatchObject := { collection := "Article" }
    let sent : List Wire.BatchObject := [
      { uuid := (Uuid.ofNat 7).text, collection := "Article" },
      { uuid := "none", collection := "Article" }]
    let reply : Wire.BatchReply := { errors := [⟨1, "busy"⟩, ⟨1, "full"⟩] }
    ∃ r, Batch.ofReply reply [o, o] sent .zero = .ok r ∧ r.Agrees ∧
      r.responses = [.inserted (.ofNat 7), .refused ⟨"full", o, none⟩] ∧
      (r.merge r).Agrees ∧ (r.merge r).responses.length = 4 ∧
      ((r.merge r).merge r).untimed = (r.merge (r.merge r)).untimed ∧
      (r.merge {}).untimed = r.untimed := by
  intro o sent reply
  obtain ⟨accepts, correlates, merged, grouped, _, neutral⟩ :=
    outcomes_correlate reply [o, o] sent .zero
  have first_told : reply.lastError? 0 = none := by decide
  have second_told : reply.lastError? 1 = some ⟨1, "full"⟩ := by decide
  have named : ∀ i w, sent[i]? = some w → reply.lastError? i = none →
      ∃ id, Uuid.read? w.uuid = some id := by
    intro i w at_i silent
    match i with
    | 0 =>
      obtain rfl := Option.some.inj at_i
      exact ⟨_, Uuid.read?_text (.ofNat 7)⟩
    | 1 => cases second_told.symm.trans silent
  obtain ⟨r, read⟩ := accepts.mpr ⟨rfl, by decide, named⟩
  obtain ⟨agrees, length_eq, _, answered⟩ := correlates r read
  have first : r.responses[0]? = some (.inserted (.ofNat 7)) := by
    rw [answered 0 o _ rfl rfl, Wire.BatchReply.answer?, first_told, Uuid.read?_text]
    rfl
  have second : r.responses[1]? = some (.refused ⟨"full", o, none⟩) := by
    rw [answered 1 o _ rfl rfl, Wire.BatchReply.answer?, second_told]
  have both : r.responses = [.inserted (.ofNat 7), .refused ⟨"full", o, none⟩] := by
    obtain ⟨x, y, split⟩ := List.length_eq_two.mp length_eq
    rw [split] at first second ⊢
    rw [Option.some.inj first, Option.some.inj second]
  obtain ⟨merged_agrees, appended⟩ := merged r r agrees agrees
  refine ⟨r, read, agrees, both, merged_agrees, ?_, grouped r r r agrees agrees agrees,
    (neutral r agrees).1⟩
  rw [appended, List.length_append, both]
  rfl

end Batch

end VectorClient
