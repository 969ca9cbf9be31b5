import VectorClient.Proofs.Batch.Objects
import VectorClient.Proofs.Batch.Reply
import VectorClient.Proofs.Chunks
import VectorClient.Proofs.Session.Action
import VectorClient.Session.Script

/-!
# Inserting in pieces

The position of an object is its only link to what the server says about it. `insertMany_correlates`
follows it through the pieces that are sent and the merging of their outcomes: each object gets the
last error that the reply to its piece has for its place in the piece, or the id it was sent with.
-/

namespace VectorClient

theorem Connection.batch_of_answer {backend : Backend} {connection : Connection}
    {request : Wire.BatchRequest} {reply : Wire.BatchReply}
    (answer : backend.batch (connection.calls ++ [.batch request]) = .ok reply) :
    Connection.batch request backend connection =
      (.ok (reply, backend.elapsed (connection.calls ++ [.batch request])),
        { connection with calls := connection.calls ++ [.batch request] }) := by
  simp only [batch, Action.send, answer]
  rfl

inductive Backend.Takes (backend : Backend) :
    List Call → List Wire.BatchRequest → List Wire.BatchReply → Prop
  | done (calls : List Call) : Takes backend calls [] []
  | next {calls : List Call} {request : Wire.BatchRequest} {reply : Wire.BatchReply}
      {requests : List Wire.BatchRequest} {replies : List Wire.BatchReply}
      (answer : backend.batch (calls ++ [.batch request]) = .ok reply)
      (inside : ∀ e ∈ reply.errors, e.IsInside request.objects.length)
      (later : Takes backend (calls ++ [.batch request]) requests replies) :
      Takes backend calls (request :: requests) (reply :: replies)

namespace Collection

/-- The requests that carry the wire objects of a batch. -/
def requests (c : Collection) (sent : List Wire.BatchObject) : List Wire.BatchRequest :=
  (chunks c.batchSize sent).map (⟨·, c.context.consistencyLevel.map ConsistencyLevel.number⟩)

theorem flatMap_requests (c : Collection) (sent : List Wire.BatchObject) :
    (c.requests sent).flatMap (·.objects) = sent := by
  rw [requests, List.flatMap_map, List.flatMap_id', flatten_chunks c.batchSize_pos]

theorem length_requests_of_not_last (c : Collection) (sent : List Wire.BatchObject) :
    ∀ request ∈ (c.requests sent).dropLast, request.objects.length = c.batchSize := by
  intro request member
  rw [requests, ← List.map_dropLast] at member
  obtain ⟨piece, earlier, rfl⟩ := List.mem_map.mp member
  exact length_chunk_of_not_last c.batchSize_pos sent piece earlier

/-! ### One piece after the other -/

def pieceRequest (level : Option Int32) (piece : List (BatchObject × Wire.BatchObject)) :
    Wire.BatchRequest := ⟨piece.map Prod.snd, level⟩

/-- The responses to a piece, of which each answers the object at its place. -/
def PieceAnswered (reply : Wire.BatchReply) (piece : List (BatchObject × Wire.BatchObject))
    (responses : List BatchResponse) : Prop :=
  responses.length = piece.length ∧ ∀ k p, piece[k]? = some p →
    ∃ response, responses[k]? = some response ∧ Batch.Answered reply k p.1 p.2 response

/-- What one piece does: its request is recorded, and its outcome is merged. -/
theorem sendPieces_cons {backend : Backend} {level : Option Int32}
    {piece : List (BatchObject × Wire.BatchObject)} {reply : Wire.BatchReply}
    {connection : Connection} {start outcome : BatchResult} {elapsed : Number.Double}
    (answer : backend.batch (connection.calls ++ [.batch (pieceRequest level piece)]) = .ok reply)
    (took : backend.elapsed (connection.calls ++ [.batch (pieceRequest level piece)]) = elapsed)
    (read : Batch.ofReply reply (piece.map Prod.fst) (piece.map Prod.snd) elapsed = .ok outcome)
    (rest : List (List BatchObject × List Wire.BatchObject)) :
    sendPieces level start (piece.unzip :: rest) backend connection =
      sendPieces level (start.merge outcome) rest backend
        { connection with calls := connection.calls ++ [.batch (pieceRequest level piece)] } := by
  have sent := Connection.batch_of_answer answer
  rw [took] at sent
  rw [List.unzip_eq_map, sendPieces, ← pieceRequest, Action.bind_of_ok sent]
  refine Action.bind_of_ok ?_
  rw [Action.lift, read]

theorem sendPieces_answered {backend : Backend} {level : Option Int32}
    {pieces : List (List (BatchObject × Wire.BatchObject))} {replies : List Wire.BatchReply}
    {connection : Connection} {start : BatchResult}
    (takes : backend.Takes connection.calls (pieces.map (pieceRequest level)) replies)
    (named : ∀ piece ∈ pieces, ∀ p ∈ piece, ∃ id : Uuid, p.2.uuid = id.text)
    (consistent : start.Consistent) :
    ∃ (r : BatchResult) (parts : List (List BatchResponse)),
      sendPieces level start (pieces.map List.unzip) backend connection =
        (.ok r, { connection with
          calls := connection.calls ++ (pieces.map (pieceRequest level)).map .batch }) ∧
      r.Consistent ∧ r.responses = start.responses ++ parts.flatten ∧
      parts.map List.length = pieces.map List.length ∧
      ∀ (j : Nat) piece, pieces[j]? = some piece → ∃ reply part, replies[j]? = some reply ∧
        parts[j]? = some part ∧ PieceAnswered reply piece part := by
  induction pieces generalizing replies connection start with
  | nil =>
    refine ⟨start, [], ?_, consistent, by simp, rfl, by simp⟩
    simp only [List.map_nil, sendPieces, List.append_nil]
    rfl
  | cons piece rest ih =>
    cases takes with
    | next answer inside later =>
      rename_i reply replies
      rw [pieceRequest, List.length_map] at inside
      obtain ⟨outcome, read, outcome_consistent, answered⟩ :=
        Batch.ofReply_answered inside (named piece List.mem_cons_self)
          (backend.elapsed (connection.calls ++ [.batch (pieceRequest level piece)]))
      obtain ⟨r, parts, run, r_consistent, responses_eq, lengths, each⟩ :=
        @ih replies { connection with
            calls := connection.calls ++ [.batch (pieceRequest level piece)] } _ later
          (fun p member => named p (List.mem_cons_of_mem _ member))
          (consistent.merge outcome_consistent)
      refine ⟨r, outcome.responses :: parts, ?_, r_consistent, ?_, ?_, ?_⟩
      · rw [List.map_cons, sendPieces_cons answer rfl read, run, List.map_cons, List.map_cons,
          List.append_assoc]
        rfl
      · rw [responses_eq, BatchResult.merge_responses, List.flatten_cons, List.append_assoc]
      · rw [List.map_cons, List.map_cons, lengths, answered.1]
      · intro j piece' at_j
        cases j with
        | zero =>
          obtain rfl := Option.some.inj at_j
          exact ⟨reply, outcome.responses, rfl, rfl, answered⟩
        | succ j => exact each j piece' at_j

/-- The object at a place is answered by the reply to its piece, at its place in the piece. -/
theorem answered_at {size : Nat} (positive : 0 < size)
    {pairs : List (BatchObject × Wire.BatchObject)} {replies : List Wire.BatchReply}
    {parts : List (List BatchResponse)}
    (lengths : parts.map List.length = (chunks size pairs).map List.length)
    (each : ∀ (j : Nat) piece, (chunks size pairs)[j]? = some piece → ∃ reply part,
      replies[j]? = some reply ∧ parts[j]? = some part ∧ PieceAnswered reply piece part)
    {i : Nat} {p : BatchObject × Wire.BatchObject} (placed : pairs[i]? = some p) :
    ∃ reply response, replies[i / size]? = some reply ∧ parts.flatten[i]? = some response ∧
      Batch.Answered reply (i % size) p.1 p.2 response := by
  rw [← getElem?_chunks positive, Option.bind_eq_some_iff] at placed
  obtain ⟨piece, piece_at, place⟩ := placed
  obtain ⟨reply, part, reply_at, part_at, _, answered⟩ := each _ _ piece_at
  obtain ⟨response, response_at, answer⟩ := answered _ _ place
  refine ⟨reply, response, reply_at, ?_, answer⟩
  rw [getElem?_flatten_of_lengths positive lengths, part_at]
  exact response_at

/-! ### The whole insert -/

theorem fillCollection_eq (c : Collection) (o : BatchObject) :
    c.fillCollection o =
      { o with collection := if o.collection = "" then c.context.name else o.collection } := by
  rw [fillCollection]
  split <;> rfl

@[simp] theorem fillCollection_id (c : Collection) (o : BatchObject) :
    (c.fillCollection o).id = o.id := by
  rw [fillCollection_eq]

theorem insertMany_of_mapped (c : Collection) {backend : Backend}
    {connection resolved : Connection} {caps : Capabilities} {objects : List BatchObject}
    {sent : List Wire.BatchObject}
    (known : Connection.resolve backend connection = (.ok caps, resolved))
    (mapped : Batch.toWire backend.freshId resolved.issued c.context.usesNamedVectors
      c.context.tenant caps (objects.map c.fillCollection) = .ok sent) :
    c.insertMany objects backend connection =
      sendPieces (c.context.consistencyLevel.map ConsistencyLevel.number) {}
        ((chunks c.batchSize ((objects.map c.fillCollection).zip sent)).map List.unzip) backend
        { resolved with
          issued := resolved.issued + BatchObject.countUnnamed (objects.map c.fillCollection) } := by
  have together : (objects.map c.fillCollection).length = sent.length :=
    (Batch.length_toWire mapped).symm
  have done : c.mapObjects caps (objects.map c.fillCollection) backend resolved =
      (.ok sent, { resolved with
        issued := resolved.issued + BatchObject.countUnnamed (objects.map c.fillCollection) }) := by
    simp only [mapObjects, mapped]
  rw [insertMany, Action.bind_of_ok known, Action.bind_of_ok done,
    zip_chunks c.batchSize_pos together]

theorem requests_eq_pieces (c : Collection) {objects : List BatchObject}
    {sent : List Wire.BatchObject} (together : objects.length = sent.length) :
    c.requests sent = (chunks c.batchSize (objects.zip sent)).map
      (pieceRequest (c.context.consistencyLevel.map ConsistencyLevel.number)) := by
  have second : (objects.zip sent).map Prod.snd = sent := List.map_snd_zip (by omega)
  rw [requests]
  conv => lhs; rw [← second]
  rw [map_chunks c.batchSize_pos, List.map_map]
  rfl

theorem named_of_mem_pieces (c : Collection) {fresh : Nat → Uuid} {issued : Nat}
    {caps : Capabilities} {objects : List BatchObject} {sent : List Wire.BatchObject}
    (mapped : Batch.toWire fresh issued c.context.usesNamedVectors c.context.tenant caps objects =
      .ok sent) {piece : List (BatchObject × Wire.BatchObject)}
    (listed : piece ∈ chunks c.batchSize (objects.zip sent)) :
    ∀ p ∈ piece, ∃ id : Uuid, p.2.uuid = id.text := by
  intro p member
  have paired : p ∈ objects.zip sent := by
    rw [← flatten_chunks c.batchSize_pos (objects.zip sent)]
    exact List.mem_flatten.mpr ⟨piece, listed, member⟩
  exact Batch.uuid_toWire mapped (List.of_mem_zip paired).2

/-- Every object gets what the reply to its piece says last about its place in the piece, and
otherwise the id that was sent with it. An error carries the object as it was given, with the
collection filled in where it had none. -/
theorem insertMany_correlates (c : Collection) {backend : Backend}
    {connection resolved : Connection} {caps : Capabilities} {objects : List BatchObject}
    {sent : List Wire.BatchObject} {replies : List Wire.BatchReply}
    (known : Connection.resolve backend connection = (.ok caps, resolved))
    (mapped : Batch.toWire backend.freshId resolved.issued c.context.usesNamedVectors
      c.context.tenant caps (objects.map fun o =>
        { o with collection := if o.collection = "" then c.context.name else o.collection }) =
      .ok sent)
    (takes : backend.Takes resolved.calls (c.requests sent) replies) :
    ∃ r final, c.insertMany objects backend connection = (.ok r, final) ∧
      final.calls = resolved.calls ++ (c.requests sent).map .batch ∧
      (c.requests sent).flatMap (·.objects) = sent ∧
      (∀ request ∈ (c.requests sent).dropLast, request.objects.length = c.batchSize) ∧
      r.Consistent ∧ r.responses.length = objects.length ∧
      ∀ (i : Nat) o, objects[i]? = some o → ∃ reply, replies[i / c.batchSize]? = some reply ∧
        let filled : BatchObject :=
          { o with collection := if o.collection = "" then c.context.name else o.collection }
        match reply.lastError? (i % c.batchSize) with
        | some e =>
          r.errors.lookup i = some ⟨e.error, filled, o.id⟩ ∧
          r.ids.lookup i = none ∧
          r.responses[i]? = some (.refused ⟨e.error, filled, o.id⟩)
        | none => ∃ w id, sent[i]? = some w ∧ w.uuid = id.text ∧
          (∀ given, o.id = some given → id = given) ∧
          r.ids.lookup i = some id ∧ r.errors.lookup i = none ∧
          r.responses[i]? = some (.inserted id) := by
  simp only [← fillCollection_eq] at mapped ⊢
  have together : (objects.map c.fillCollection).length = sent.length :=
    (Batch.length_toWire mapped).symm
  rw [c.requests_eq_pieces together] at takes
  obtain ⟨r, parts, run, consistent, responses_eq, lengths, each⟩ :=
    @sendPieces_answered backend _ _ replies { resolved with
      issued := resolved.issued + BatchObject.countUnnamed (objects.map c.fillCollection) } {} takes
      (fun _ listed => c.named_of_mem_pieces mapped listed) (.empty _)
  have all_responses : r.responses = parts.flatten := by rw [responses_eq]; rfl
  refine ⟨r, _, (c.insertMany_of_mapped known mapped).trans run, ?_, c.flatMap_requests sent,
    c.length_requests_of_not_last sent, consistent, ?_, ?_⟩
  · rw [c.requests_eq_pieces together]
  · have pieces_length : (parts.map List.length).sum = objects.length := by
      rw [lengths, ← List.length_flatten, flatten_chunks c.batchSize_pos, List.length_zip, together,
        Nat.min_self, ← together, List.length_map]
    rw [all_responses, List.length_flatten, pieces_length]
  · intro i o at_i
    have filled : (objects.map c.fillCollection)[i]? = some (c.fillCollection o) := by
      rw [List.getElem?_map, at_i]
      rfl
    obtain ⟨_, w, _, sent_at, _⟩ := Batch.getElem?_toWire mapped filled
    have paired : ((objects.map c.fillCollection).zip sent)[i]? = some (c.fillCollection o, w) :=
      List.getElem?_zip_eq_some.mpr ⟨filled, sent_at⟩
    obtain ⟨reply, response, reply_at, responded, answer⟩ :=
      answered_at c.batchSize_pos lengths each paired
    rw [← all_responses] at responded
    refine ⟨reply, reply_at, ?_⟩
    cases answer with
    | refused told =>
      rw [fillCollection_id] at responded
      rw [told]
      obtain ⟨error, no_id⟩ := consistent.entries_of_refused responded
      exact ⟨error, no_id, responded⟩
    | inserted silent sentAs =>
      rename_i id
      rw [silent]
      obtain ⟨found, no_error⟩ := consistent.entries_of_inserted responded
      refine ⟨w, id, sent_at, sentAs, fun given own => ?_, found, no_error, responded⟩
      exact Batch.given_of_toWire mapped filled sent_at sentAs (by rwa [fillCollection_id])

/-- Three objects in pieces of two: the reply to the second piece calls the last one by its place
there. -/
theorem insertMany_correlates_last_piece :
    let c : Collection := { context := { name := "Article" }, batchSize := 2 }
    let objects : List BatchObject :=
      [{ id := some (.ofNat 1) }, { id := some (.ofNat 2) }, { collection := "Author" }]
    let replies : List Wire.BatchReply :=
      [{ errors := [⟨1, "first"⟩] }, { errors := [⟨0, "old"⟩, ⟨0, "new"⟩] }]
    let backend := ({ batches := replies.map .ok } : Script).backend Uuid.ofNat
    let resolved : Connection :=
      { calls := [.version], capabilities := some ⟨Script.defaultVersion⟩ }
    let sent : List Wire.BatchObject :=
      [{ uuid := (Uuid.ofNat 1).text, collection := "Article" },
        { uuid := (Uuid.ofNat 2).text, collection := "Article" },
        { uuid := (Uuid.ofNat 0).text, collection := "Author" }]
    Connection.resolve backend {} = (.ok ⟨Script.defaultVersion⟩, resolved) ∧
      Batch.toWire backend.freshId resolved.issued false none ⟨Script.defaultVersion⟩
        (objects.map fun o =>
          { o with collection := if o.collection = "" then "Article" else o.collection }) =
        .ok sent ∧
      backend.Takes resolved.calls (c.requests sent) replies ∧
      ∃ r final, c.insertMany objects backend {} = (.ok r, final) ∧
        r.errors.lookup 2 = some ⟨"new", { collection := "Author" }, none⟩ ∧
        r.ids.lookup 2 = none := by
  intro c objects replies backend resolved sent
  have known : Connection.resolve backend {} = (.ok ⟨Script.defaultVersion⟩, resolved) := rfl
  have mapped : Batch.toWire backend.freshId resolved.issued false none ⟨Script.defaultVersion⟩
      (objects.map fun o =>
        { o with collection := if o.collection = "" then "Article" else o.collection }) =
      .ok sent := rfl
  have takes : backend.Takes resolved.calls (c.requests sent) replies :=
    .next rfl (by decide) (.next rfl (by decide) (.done _))
  refine ⟨known, mapped, takes, ?_⟩
  obtain ⟨r, final, run, _, _, _, _, _, each⟩ := c.insertMany_correlates known mapped takes
  obtain ⟨reply, same, told⟩ := each 2 { collection := "Author" } rfl
  have second : replies[2 / c.batchSize]? = some { errors := [⟨0, "old"⟩, ⟨0, "new"⟩] } := by decide
  obtain rfl := Option.some.inj (second.symm.trans same)
  have last : Wire.BatchReply.lastError? { errors := [⟨0, "old"⟩, ⟨0, "new"⟩] } (2 % c.batchSize) =
      some ⟨0, "new"⟩ := by decide
  rw [last] at told
  exact ⟨r, final, run, told.1, told.2.1⟩

end Collection

end VectorClient
