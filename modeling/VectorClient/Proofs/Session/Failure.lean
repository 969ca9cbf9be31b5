import VectorClient.Proofs.Session.Insert

/-!
# Inserts that fail

An insert ends with the first piece that fails: that piece and those before it have been sent, each
once and in order, and nothing after it. What cannot be mapped is never sent.
-/

namespace VectorClient

/-- A request fails if its call does, or at the first error of its reply that is not about one of
its objects. -/
inductive Backend.Fails (backend : Backend) (calls : List Call) (request : Wire.BatchRequest) :
    Error → Prop
  | call {e : Error} (answer : backend.batch (calls ++ [.batch request]) = .error e) :
      Fails backend calls request e
  | index {reply : Wire.BatchReply} {earlier later : List Wire.BatchError}
      {entry : Wire.BatchError} (answer : backend.batch (calls ++ [.batch request]) = .ok reply)
      (entries : reply.errors = earlier ++ entry :: later)
      (inside : ∀ e ∈ earlier, e.IsInside request.objects.length)
      (outside : ¬ entry.IsInside request.objects.length) :
      Fails backend calls request (.wireDecode (.batchIndex entry.index request.objects.length))

/-- The batches that were sent on a connection, in order. -/
def Connection.batches (c : Connection) : List Wire.BatchRequest :=
  c.calls.filterMap fun
    | .batch request => some request
    | _ => none

theorem Connection.batches_of_calls {c final : Connection} {requests : List Wire.BatchRequest}
    (sent : final.calls = c.calls ++ requests.map .batch) :
    final.batches = c.batches ++ requests := by
  have each : (requests.map Call.batch).filterMap (fun
      | .batch request => some request
      | _ => none) = requests := by
    rw [List.filterMap_map]
    exact List.filterMap_some
  rw [batches, sent, List.filterMap_append, each]
  rfl

theorem Connection.resolve_batches {backend : Backend} {connection resolved : Connection}
    {caps : Capabilities} (known : Connection.resolve backend connection = (.ok caps, resolved)) :
    resolved.batches = connection.batches := by
  cases resolve_resolves known with
  | held => rfl
  | told => simp [batches]

/-! ### Errors about no object of the batch -/

namespace Batch

theorem position_outside {size : Nat} {entry : Wire.BatchError} (outside : ¬ entry.IsInside size) :
    position size entry.index = .error (.wireDecode (.batchIndex entry.index size)) := by
  rw [position, if_neg]
  rintro ⟨nonneg, below⟩
  exact outside ⟨nonneg, by omega⟩

theorem failures_outside {size : Nat} {earlier later : List Wire.BatchError}
    {entry : Wire.BatchError} (inside : ∀ e ∈ earlier, e.IsInside size)
    (outside : ¬ entry.IsInside size) :
    failures size (earlier ++ entry :: later) =
      .error (.wireDecode (.batchIndex entry.index size)) := by
  refine mapM_error_of_first (fun e member => ?_) ?_
  · rw [position_ok.mpr ⟨inside e member, rfl⟩]
    exact ⟨_, rfl⟩
  · rw [position_outside outside]
    rfl

theorem ofReply_outside {reply : Wire.BatchReply} {pairs : List (BatchObject × Wire.BatchObject)}
    {earlier later : List Wire.BatchError} {entry : Wire.BatchError}
    (entries : reply.errors = earlier ++ entry :: later)
    (inside : ∀ e ∈ earlier, e.IsInside pairs.length) (outside : ¬ entry.IsInside pairs.length)
    (elapsed : Number.Double) :
    ofReply reply (pairs.map Prod.fst) (pairs.map Prod.snd) elapsed =
      .error (.wireDecode (.batchIndex entry.index pairs.length)) := by
  rw [ofReply, if_neg (by simp), List.length_map, entries, failures_outside inside outside]
  rfl

end Batch

/-! ### The first piece that fails -/

/-- All requests are taken, or the first that fails comes after those that are taken. -/
theorem Backend.takes_or_fails (backend : Backend) (calls : List Call)
    (requests : List Wire.BatchRequest) :
    (∃ replies, backend.Takes calls requests replies) ∨
      ∃ earlier request later replies e, requests = earlier ++ request :: later ∧
        backend.Takes calls earlier replies ∧
        backend.Fails (calls ++ earlier.map .batch) request e := by
  induction requests generalizing calls with
  | nil => exact .inl ⟨[], .done calls⟩
  | cons request rest ih =>
    cases answer : backend.batch (calls ++ [.batch request]) with
    | error e =>
      refine .inr ⟨[], request, rest, [], e, rfl, .done calls, .call ?_⟩
      rwa [List.map_nil, List.append_nil]
    | ok reply =>
      let isOutside (e : Wire.BatchError) : Bool := !decide (e.IsInside request.objects.length)
      cases first : reply.errors.find? isOutside with
      | some entry =>
        obtain ⟨outside, before, after, entries, inside⟩ :=
          List.find?_eq_some_iff_append.mp first
        refine .inr ⟨[], request, rest, [], _, rfl, .done calls, .index ?_ entries ?_ ?_⟩
        · rwa [List.map_nil, List.append_nil]
        · intro e member
          simpa [isOutside] using inside e member
        · simpa [isOutside] using outside
      | none =>
        have inside : ∀ e ∈ reply.errors, e.IsInside request.objects.length := by
          intro e member
          simpa [isOutside] using List.find?_eq_none.mp first e member
        obtain ⟨replies, takes⟩ | ⟨earlier, failing, later, replies, e, split, takes, fails⟩ :=
          ih (calls ++ [.batch request])
        · exact .inl ⟨reply :: replies, .next answer inside takes⟩
        · refine .inr ⟨request :: earlier, failing, later, reply :: replies, e, ?_,
            .next answer inside takes, ?_⟩
          · rw [split, List.cons_append]
          · rwa [List.map_cons, ← List.singleton_append, ← List.append_assoc]

namespace Collection

theorem sendPieces_cons_fails {backend : Backend} {level : Option Int32}
    {piece : List (BatchObject × Wire.BatchObject)} {connection : Connection} {e : Error}
    (fails : backend.Fails connection.calls (pieceRequest level piece) e) (start : BatchResult)
    (rest : List (List BatchObject × List Wire.BatchObject)) :
    sendPieces level start (piece.unzip :: rest) backend connection =
      (.error e,
        { connection with calls := connection.calls ++ [.batch (pieceRequest level piece)] }) := by
  rw [List.unzip_eq_map, sendPieces, ← pieceRequest]
  cases fails with
  | call answer =>
    refine Action.bind_of_error ?_
    simp only [Connection.batch, Action.send, answer]
    rfl
  | index answer entries inside outside =>
    rename_i reply earlier later entry
    have length_eq : (pieceRequest level piece).objects.length = piece.length := by
      rw [pieceRequest, List.length_map]
    rw [length_eq] at inside outside ⊢
    rw [Action.bind_of_ok (Connection.batch_of_answer answer)]
    refine Action.bind_of_error ?_
    rw [Action.lift, Batch.ofReply_outside entries inside outside]

/-- The pieces before the one that fails are sent, then that one, and no other. -/
theorem sendPieces_fails {backend : Backend} {level : Option Int32}
    {earlier later : List (List (BatchObject × Wire.BatchObject))}
    {piece : List (BatchObject × Wire.BatchObject)} {replies : List Wire.BatchReply}
    {connection : Connection} {e : Error}
    (takes : backend.Takes connection.calls (earlier.map (pieceRequest level)) replies)
    (named : ∀ piece ∈ earlier, ∀ p ∈ piece, ∃ id : Uuid, p.2.uuid = id.text)
    (fails : backend.Fails (connection.calls ++ (earlier.map (pieceRequest level)).map .batch)
      (pieceRequest level piece) e) (start : BatchResult) :
    sendPieces level start ((earlier ++ piece :: later).map List.unzip) backend connection =
      (.error e, { connection with calls := connection.calls ++
        ((earlier ++ [piece]).map (pieceRequest level)).map .batch }) := by
  induction earlier generalizing connection replies start with
  | nil =>
    rw [List.map_nil, List.map_nil, List.append_nil] at fails
    exact sendPieces_cons_fails fails start (later.map List.unzip)
  | cons first rest ih =>
    cases takes with
    | next answer inside further =>
      rename_i reply replies
      rw [pieceRequest, List.length_map] at inside
      obtain ⟨outcome, read, _⟩ :=
        Batch.ofReply_answered inside (named first List.mem_cons_self)
          (backend.elapsed (connection.calls ++ [.batch (pieceRequest level first)]))
      rw [List.map_cons, List.map_cons, ← List.singleton_append, ← List.append_assoc] at fails
      -- The other pieces start from a connection on which the first has been called.
      have run := @ih replies { connection with
          calls := connection.calls ++ [.batch (pieceRequest level first)] } further
        (fun p member => named p (List.mem_cons_of_mem _ member)) fails (start.merge outcome)
      rw [List.cons_append, List.map_cons, sendPieces_cons answer rfl read, run]
      simp

/-! ### The whole insert -/

section Inserting

variable (c : Collection) {backend : Backend} {connection resolved : Connection}
  {caps : Capabilities} {objects : List BatchObject} {sent : List Wire.BatchObject}

variable (known : Connection.resolve backend connection = (.ok caps, resolved))

include known

theorem insertMany_of_unmapped {e : Error}
    (unmapped : Batch.toWire backend.freshId resolved.issued c.context.usesNamedVectors
      c.context.tenant caps (objects.map c.fillCollection) = .error e) :
    c.insertMany objects backend connection = (.error e, resolved) := by
  have failed : c.mapObjects caps (objects.map c.fillCollection) backend resolved =
      (.error e, resolved) := by
    simp only [mapObjects, unmapped]
  rw [insertMany, Action.bind_of_ok known, Action.bind_of_error failed]

theorem insertMany_nil : c.insertMany [] backend connection = (.ok {}, resolved) := by
  rw [c.insertMany_of_mapped known rfl]
  rfl

variable (mapped : Batch.toWire backend.freshId resolved.issued c.context.usesNamedVectors
  c.context.tenant caps (objects.map c.fillCollection) = .ok sent)

include mapped

theorem insertMany_takes {replies : List Wire.BatchReply}
    (takes : backend.Takes resolved.calls (c.requests sent) replies) :
    ∃ r, c.insertMany objects backend connection = (.ok r, { resolved with
      calls := resolved.calls ++ (c.requests sent).map .batch
      issued := resolved.issued + BatchObject.countUnnamed (objects.map c.fillCollection) }) := by
  have together : (objects.map c.fillCollection).length = sent.length :=
    (Batch.length_toWire mapped).symm
  rw [c.requests_eq_pieces together] at takes ⊢
  obtain ⟨r, _, run, _⟩ := @sendPieces_answered backend _ _ replies { resolved with
      issued := resolved.issued + BatchObject.countUnnamed (objects.map c.fillCollection) } {} takes
    (fun piece listed => c.named_of_mem_pieces mapped listed) (.empty _)
  exact ⟨r, (c.insertMany_of_mapped known mapped).trans run⟩

theorem insertMany_fails {earlier later : List Wire.BatchRequest} {request : Wire.BatchRequest}
    {replies : List Wire.BatchReply} {e : Error}
    (split : c.requests sent = earlier ++ request :: later)
    (takes : backend.Takes resolved.calls earlier replies)
    (fails : backend.Fails (resolved.calls ++ earlier.map .batch) request e) :
    c.insertMany objects backend connection = (.error e, { resolved with
      calls := resolved.calls ++ (earlier ++ [request]).map .batch
      issued := resolved.issued + BatchObject.countUnnamed (objects.map c.fillCollection) }) := by
  have together : (objects.map c.fillCollection).length = sent.length :=
    (Batch.length_toWire mapped).symm
  rw [c.requests_eq_pieces together] at split
  obtain ⟨before, rest, pieces_eq, rfl, others⟩ := List.map_eq_append_iff.mp split
  obtain ⟨piece, after, rfl, rfl, rfl⟩ := List.map_eq_cons_iff.mp others
  have named : ∀ piece ∈ before, ∀ p ∈ piece, ∃ id : Uuid, p.2.uuid = id.text := by
    intro piece member
    refine c.named_of_mem_pieces mapped ?_
    rw [pieces_eq]
    exact List.mem_append_left _ member
  have run := @sendPieces_fails backend _ before after piece replies { resolved with
      issued := resolved.issued + BatchObject.countUnnamed (objects.map c.fillCollection) } e takes
    named fails {}
  rw [← pieces_eq, ← c.insertMany_of_mapped known mapped, List.map_append,
    List.map_singleton] at run
  exact run

end Inserting

/-- An insert sends nothing when an object cannot be mapped. Otherwise it fails iff a piece does,
with the error of the first that fails, and has then sent that piece and those before it. -/
theorem insertMany_stops (c : Collection) {backend : Backend} {connection resolved : Connection}
    {caps : Capabilities} (objects : List BatchObject)
    (known : Connection.resolve backend connection = (.ok caps, resolved)) :
    let mapped := Batch.toWire backend.freshId resolved.issued c.context.usesNamedVectors
      c.context.tenant caps (objects.map fun o =>
        { o with collection := if o.collection = "" then c.context.name else o.collection })
    (∀ e, mapped = .error e → ∃ final, c.insertMany objects backend connection = (.error e, final) ∧
      final.batches = connection.batches) ∧
    (∀ sent earlier request later replies e, mapped = .ok sent →
      c.requests sent = earlier ++ request :: later →
      backend.Takes resolved.calls earlier replies →
      backend.Fails (resolved.calls ++ earlier.map .batch) request e →
        ∃ final, c.insertMany objects backend connection = (.error e, final) ∧
          final.batches = connection.batches ++ (earlier ++ [request])) ∧
    (∀ sent e final, mapped = .ok sent →
      c.insertMany objects backend connection = (.error e, final) →
      ∃ earlier request later replies, c.requests sent = earlier ++ request :: later ∧
        backend.Takes resolved.calls earlier replies ∧
        backend.Fails (resolved.calls ++ earlier.map .batch) request e) ∧
    (objects = [] → ∃ final, c.insertMany objects backend connection = (.ok {}, final) ∧
      final.batches = connection.batches) := by
  simp only [← fillCollection_eq]
  have kept := Connection.resolve_batches known
  refine ⟨?_, ?_, ?_, ?_⟩
  · intro e unmapped
    exact ⟨resolved, c.insertMany_of_unmapped known unmapped, kept⟩
  · intro sent earlier request later replies e mapped split takes fails
    refine ⟨_, c.insertMany_fails known mapped split takes fails, ?_⟩
    rw [← kept]
    exact Connection.batches_of_calls rfl
  · intro sent e final mapped failed
    obtain ⟨replies, takes⟩ | ⟨earlier, request, later, replies, first, split, takes, fails⟩ :=
      backend.takes_or_fails resolved.calls (c.requests sent)
    · obtain ⟨r, run⟩ := c.insertMany_takes known mapped takes
      rw [run] at failed
      cases (Prod.mk.inj failed).1
    · have run := c.insertMany_fails known mapped split takes fails
      obtain rfl : first = e := Except.error.inj (Prod.mk.inj (run.symm.trans failed)).1
      exact ⟨earlier, request, later, replies, split, takes, fails⟩
  · rintro rfl
    exact ⟨resolved, c.insertMany_nil known, kept⟩

/-- Two objects and then one: an error about a second place is in range for the first piece only. -/
theorem insertMany_stops_shorter_piece :
    let c : Collection := { context := { name := "Article" }, batchSize := 2 }
    let objects : List BatchObject :=
      [{ id := some (.ofNat 1) }, { id := some (.ofNat 2) }, { id := some (.ofNat 3) }]
    let reply : Wire.BatchReply := { errors := [⟨1, "refused"⟩] }
    let backend := ({ batches := [.ok reply, .ok reply] } : Script).backend Uuid.ofNat
    let resolved : Connection :=
      { calls := [.version], capabilities := some ⟨Script.defaultVersion⟩ }
    let sent (n : Nat) : Wire.BatchObject :=
      { uuid := (Uuid.ofNat n).text, collection := "Article" }
    Connection.resolve backend {} = (.ok ⟨Script.defaultVersion⟩, resolved) ∧
      ∃ final, c.insertMany objects backend {} = (.error (.wireDecode (.batchIndex 1 1)), final) ∧
        final.batches = [⟨[sent 1, sent 2], none⟩, ⟨[sent 3], none⟩] := by
  intro c objects reply backend resolved sent
  have known : Connection.resolve backend {} = (.ok ⟨Script.defaultVersion⟩, resolved) := rfl
  obtain ⟨_, stops, _, _⟩ := c.insertMany_stops objects known
  have takes : backend.Takes resolved.calls [⟨[sent 1, sent 2], none⟩] [reply] :=
    .next rfl (by decide) (.done _)
  have fails : backend.Fails (resolved.calls ++ [.batch ⟨[sent 1, sent 2], none⟩]) ⟨[sent 3], none⟩
      (.wireDecode (.batchIndex 1 1)) := by
    have entries : reply.errors = [] ++ ⟨1, "refused"⟩ :: [] := rfl
    exact .index rfl entries (by simp) (by decide)
  exact ⟨known, stops [sent 1, sent 2, sent 3] _ _ [] _ _ rfl rfl takes fails⟩

end Collection

end VectorClient
