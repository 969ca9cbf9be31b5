import VectorClient.Proofs.Session.Failure
import VectorClient.Session.Operation

/-!
# What operations do

Which calls an operation on a collection makes, in which order, and how it ends. Every operation
but the listing of tenants starts by asking for the version; after that it sends at most one search,
or the pieces of one batch.
-/

namespace VectorClient

open Search (RequestBuilder withGroupBy withGenerative)

structure Ask where
  request : Except Error Wire.SearchRequest
  read : Wire.SearchReply → Except Error Answer

namespace Operation

/-- Only tenants are listed the same way by every version. -/
def needsVersion : Operation → Bool
  | .tenants _ => false
  | _ => true

/-- What an operation asks for that searches. -/
def ask? (b : RequestBuilder) (files : String → Option (List UInt8)) : Operation → Option Ask
  | .query s => some ⟨b.request files s, fun reply => (reply.objects b.context.name).map .objects⟩
  | .queryGrouped s g => some {
      request := b.request files s >>= (withGroupBy · g)
      read := fun reply => (reply.grouped b.context.name).map .groups }
  | .generate s g => some {
      request := b.request files s >>= (withGenerative · g)
      read := fun reply => (reply.generated b.context.name).map .generated }
  | .generateGrouped s generative g => some {
      request := b.request files s >>= fun r => withGroupBy r g >>= (withGenerative · generative)
      read := fun reply => (reply.generatedGroups b.context.name).map .generatedGroups }
  | .fetchById id o => some {
      request := b.fetchById id o
      read := fun reply => ((reply.objects b.context.name).map List.head?).map .object }
  | _ => none

end Operation

/-- Sends a request if it can be built, and reads the reply. -/
def searching {α : Type} (request : Except Error Wire.SearchRequest)
    (read : Wire.SearchReply → Except Error α) : Action α := do
  let request ← .lift request
  let reply ← Connection.search request
  .lift (read reply)

section Searching

variable {α β : Type} {backend : Backend} {connection : Connection}

theorem searching_error (e : Error) (read : Wire.SearchReply → Except Error α) :
    searching (.error e) read backend connection = (.error e, connection) := rfl

theorem searching_ok (r : Wire.SearchRequest) (read : Wire.SearchReply → Except Error α) :
    searching (.ok r) read backend connection =
      (backend.search (connection.calls ++ [.search r]) >>= read,
        { connection with calls := connection.calls ++ [.search r] }) :=
  Action.bind_lift rfl

theorem searching_of_run {x : Action Wire.SearchRequest} {before : Connection}
    {request : Except Error Wire.SearchRequest} (run : x backend before = (request, connection))
    (read : Wire.SearchReply → Except Error α) :
    (x >>= fun r => searching (.ok r) read) backend before =
      searching request read backend connection := by
  cases request with
  | error e => exact Action.bind_of_error run
  | ok r => exact Action.bind_of_ok run

theorem searching_bind (request : Except Error Wire.SearchRequest)
    (add : Wire.SearchRequest → Except Error Wire.SearchRequest)
    (read : Wire.SearchReply → Except Error α) :
    (Action.lift request >>= fun r => searching (add r) read) = searching (request >>= add) read := by
  cases request <;> rfl

theorem searching_map {x : Action α} {before : Connection}
    {request : Except Error Wire.SearchRequest} {read : Wire.SearchReply → Except Error α}
    (f : α → β) (run : x backend before = searching request read backend connection) :
    (do return f (← x) : Action β) backend before =
      searching request (fun reply => (read reply).map f) backend connection := by
  cases request with
  | error e => exact Action.bind_pure run
  | ok r =>
    rw [searching_ok] at run ⊢
    rw [Action.bind_pure run]
    cases backend.search (connection.calls ++ [.search r]) <;> rfl

end Searching

namespace Collection

/-! ### What operations do once the version is known -/

/-- The calls and the outcome of an operation once the version is known, after other calls and with
`issued` ids given out before. -/
inductive Does (c : Collection) (backend : Backend) (caps : Capabilities) (calls : List Call)
    (issued : Nat) : Operation → List Call → Except Error Answer → Prop
  | capabilities : Does c backend caps calls issued .capabilities [] (.ok (.capabilities caps))
  | buildRequest (s : Search) :
      Does c backend caps calls issued (.buildRequest s) []
        ((RequestBuilder.request ⟨c.context, caps⟩ backend.file s).map .request)
  | refused {op : Operation} {ask : Ask} {e : Error}
      (asks : op.ask? ⟨c.context, caps⟩ backend.file = some ask) (refused : ask.request = .error e) :
      Does c backend caps calls issued op [] (.error e)
  | asked {op : Operation} {ask : Ask} {r : Wire.SearchRequest}
      (asks : op.ask? ⟨c.context, caps⟩ backend.file = some ask) (built : ask.request = .ok r) :
      Does c backend caps calls issued op [.search r]
        (backend.search (calls ++ [.search r]) >>= ask.read)
  | unmapped {objects : List BatchObject} {e : Error}
      (unmapped : Batch.toWire backend.freshId issued c.context.usesNamedVectors c.context.tenant
        caps (objects.map c.fillCollection) = .error e) :
      Does c backend caps calls issued (.insertMany objects) [] (.error e)
  | inserted {objects : List BatchObject} {sent : List Wire.BatchObject}
      {replies : List Wire.BatchReply} {result : BatchResult}
      (mapped : Batch.toWire backend.freshId issued c.context.usesNamedVectors c.context.tenant
        caps (objects.map c.fillCollection) = .ok sent)
      (takes : backend.Takes calls (c.requests sent) replies) :
      Does c backend caps calls issued (.insertMany objects) ((c.requests sent).map .batch)
        (.ok (.inserted result))
  | stopped {objects : List BatchObject} {sent : List Wire.BatchObject}
      {earlier later : List Wire.BatchRequest} {request : Wire.BatchRequest}
      {replies : List Wire.BatchReply} {e : Error}
      (mapped : Batch.toWire backend.freshId issued c.context.usesNamedVectors c.context.tenant
        caps (objects.map c.fillCollection) = .ok sent)
      (split : c.requests sent = earlier ++ request :: later)
      (takes : backend.Takes calls earlier replies)
      (fails : backend.Fails (calls ++ earlier.map .batch) request e) :
      Does c backend caps calls issued (.insertMany objects) ((earlier ++ [request]).map .batch)
        (.error e)

variable (c : Collection) {backend : Backend} {before resolved : Connection} {caps : Capabilities}

/-! ### Searching -/

theorem builder_eq (known : Connection.resolve backend before = (.ok caps, resolved)) :
    c.builder backend before = (.ok ⟨c.context, caps⟩, resolved) :=
  Action.bind_of_ok known

theorem buildRequest_eq (s : Search)
    (known : Connection.resolve backend before = (.ok caps, resolved)) :
    c.buildRequest s backend before =
      (RequestBuilder.request ⟨c.context, caps⟩ backend.file s, resolved) := by
  rw [buildRequest, Action.bind_of_ok (c.builder_eq known)]
  rfl

/-- Adding to a request takes another look at the version, which is known by then. -/
theorem addTo_eq {α : Type} (s : Search)
    (add : Wire.SearchRequest → Except Error Wire.SearchRequest)
    (read : Wire.SearchReply → Except Error α)
    (known : Connection.resolve backend before = (.ok caps, resolved)) :
    (do
      let r ← c.buildRequest s
      let _ ← c.builder
      searching (add r) read) backend before =
      searching (RequestBuilder.request ⟨c.context, caps⟩ backend.file s >>= add) read backend
        resolved := by
  have first := c.buildRequest_eq s known
  -- The builder that adds finds the version held, so that it makes no call of its own.
  have again : Connection.resolve backend resolved = (.ok caps, resolved) :=
    Connection.resolve_of_held (Connection.capabilities_of_resolve known)
  cases built : RequestBuilder.request ⟨c.context, caps⟩ backend.file s with
  | error e =>
    rw [built] at first
    exact Action.bind_of_error first
  | ok r =>
    rw [built] at first
    rw [Action.bind_of_ok first, Action.bind_of_ok (c.builder_eq again)]
    rfl

theorem generateGrouped_eq (s : Search) (generative : Search.GenerativeOptions)
    (g : Search.GroupByOptions)
    (known : Connection.resolve backend before = (.ok caps, resolved)) :
    c.generateGrouped s generative g backend before =
      searching (RequestBuilder.request ⟨c.context, caps⟩ backend.file s >>= fun r =>
        withGroupBy r g >>= (withGenerative · generative))
        (·.generatedGroups c.context.name) backend resolved := by
  have both (r : Wire.SearchRequest) := searching_bind (withGroupBy r g)
    (withGenerative · generative) (·.generatedGroups c.context.name)
  rw [← c.addTo_eq s _ _ known]
  simp only [← both]
  rfl

theorem fetchById_eq (id : Uuid) (o : Search.CommonOptions)
    (known : Connection.resolve backend before = (.ok caps, resolved)) :
    c.fetchById id o backend before =
      searching (RequestBuilder.fetchById ⟨c.context, caps⟩ id o)
        (fun reply => (reply.objects c.context.name).map List.head?) backend resolved := by
  have searches : c.fetchById id o = c.builder >>= fun b =>
      (do return List.head? (← searching (b.fetchById id o) (·.objects c.context.name))) := by
    simp only [fetchById, searching, Action.bind_assoc]
  rw [searches, Action.bind_of_ok (c.builder_eq known)]
  exact searching_map _ rfl

theorem perform_of_ask {op : Operation} {ask : Ask}
    (known : Connection.resolve backend before = (.ok caps, resolved))
    (asks : op.ask? ⟨c.context, caps⟩ backend.file = some ask) :
    c.perform op backend before = searching ask.request ask.read backend resolved := by
  cases op with
  | query s =>
    obtain rfl := Option.some.inj asks
    exact searching_map _ (searching_of_run (c.buildRequest_eq s known) _)
  | queryGrouped s g =>
    obtain rfl := Option.some.inj asks
    exact searching_map _ (c.addTo_eq s (withGroupBy · g) _ known)
  | generate s g =>
    obtain rfl := Option.some.inj asks
    exact searching_map _ (c.addTo_eq s (withGenerative · g) _ known)
  | generateGrouped s generative g =>
    obtain rfl := Option.some.inj asks
    exact searching_map _ (c.generateGrouped_eq s generative g known)
  | fetchById id o =>
    obtain rfl := Option.some.inj asks
    exact searching_map _ (c.fetchById_eq id o known)
  | capabilities => cases asks
  | buildRequest => cases asks
  | insertMany => cases asks
  | tenants => cases asks

/-! ### One operation -/

section Known

variable (known : Connection.resolve backend before = (.ok caps, resolved))

include known

theorem does_of_ask {op : Operation} {ask : Ask}
    (asks : op.ask? ⟨c.context, caps⟩ backend.file = some ask) :
    ∃ made outcome, c.Does backend caps resolved.calls resolved.issued op made outcome ∧
      c.perform op backend before =
        (outcome, { resolved with calls := resolved.calls ++ made }) := by
  rw [c.perform_of_ask known asks]
  cases built : ask.request with
  | error e =>
    refine ⟨[], _, .refused asks built, ?_⟩
    rw [searching_error, List.append_nil]
  | ok r => exact ⟨[.search r], _, .asked asks built, searching_ok r ask.read⟩

theorem does_insertMany (objects : List BatchObject) :
    ∃ made issued outcome,
      c.Does backend caps resolved.calls resolved.issued (.insertMany objects) made outcome ∧
      c.perform (.insertMany objects) backend before =
        (outcome, { resolved with calls := resolved.calls ++ made, issued }) := by
  cases mapped : Batch.toWire backend.freshId resolved.issued c.context.usesNamedVectors
      c.context.tenant caps (objects.map c.fillCollection) with
  | error e =>
    refine ⟨[], resolved.issued, _, .unmapped mapped, ?_⟩
    rw [List.append_nil]
    exact Action.bind_pure (c.insertMany_of_unmapped known mapped)
  | ok sent =>
    -- The first piece that fails is the last that is sent.
    obtain ⟨replies, takes⟩ | ⟨earlier, request, later, replies, e, split, takes, fails⟩ :=
      backend.takes_or_fails resolved.calls (c.requests sent)
    · obtain ⟨result, run⟩ := c.insertMany_takes known mapped takes
      exact ⟨_, _, _, .inserted mapped takes, Action.bind_pure run⟩
    · have run := c.insertMany_fails known mapped split takes fails
      exact ⟨_, _, _, .stopped mapped split takes fails, Action.bind_pure run⟩

theorem does_of_known {op : Operation} (needs : op.needsVersion = true) :
    ∃ made issued outcome, c.Does backend caps resolved.calls resolved.issued op made outcome ∧
      c.perform op backend before =
        (outcome, { resolved with calls := resolved.calls ++ made, issued }) := by
  cases asks : op.ask? ⟨c.context, caps⟩ backend.file with
  | some ask =>
    obtain ⟨made, outcome, does, run⟩ := c.does_of_ask known asks
    exact ⟨made, resolved.issued, outcome, does, run⟩
  | none =>
    cases op with
    | capabilities =>
      refine ⟨[], resolved.issued, _, .capabilities, ?_⟩
      rw [List.append_nil]
      exact Action.bind_pure known
    | buildRequest s =>
      refine ⟨[], resolved.issued, _, .buildRequest s, ?_⟩
      rw [List.append_nil]
      exact Action.bind_pure (c.buildRequest_eq s known)
    | insertMany objects => exact c.does_insertMany known objects
    | tenants => cases needs
    | query => cases asks
    | queryGrouped => cases asks
    | generate => cases asks
    | generateGrouped => cases asks
    | fetchById => cases asks

end Known

theorem perform_of_unresolved {op : Operation} {e : Error} (needs : op.needsVersion = true)
    (failed : Connection.resolve backend before = (.error e, resolved)) :
    c.perform op backend before = (.error e, resolved) := by
  have noBuilder : c.builder backend before = (.error e, resolved) := Action.bind_of_error failed
  have noRequest (s : Search) : c.buildRequest s backend before = (.error e, resolved) :=
    Action.bind_of_error noBuilder
  cases op with
  | capabilities => exact Action.bind_pure failed
  | buildRequest s => exact Action.bind_pure (noRequest s)
  | query s => exact Action.bind_pure (Action.bind_of_error (noRequest s))
  | queryGrouped s g => exact Action.bind_pure (Action.bind_of_error (noRequest s))
  | generate s g => exact Action.bind_pure (Action.bind_of_error (noRequest s))
  | generateGrouped s generative g => exact Action.bind_pure (Action.bind_of_error (noRequest s))
  | fetchById id o => exact Action.bind_pure (Action.bind_of_error noBuilder)
  | insertMany objects => exact Action.bind_pure (Action.bind_of_error failed)
  | tenants => cases needs

inductive Performs (c : Collection) (backend : Backend) (before : Connection) :
    Operation → List Call → Except Error Answer → Option Capabilities → Prop
  | tenants (names : Option (List String)) :
      Performs c backend before (.tenants names) [.tenants ⟨c.context.name, names⟩]
        (backend.tenants (before.calls ++ [.tenants ⟨c.context.name, names⟩]) >>= fun reply =>
          reply.read.map .tenants) before.capabilities
  | held {op : Operation} {caps : Capabilities} {made : List Call} {outcome : Except Error Answer}
      (needs : op.needsVersion = true) (held : before.capabilities = some caps)
      (does : c.Does backend caps before.calls before.issued op made outcome) :
      Performs c backend before op made outcome (some caps)
  | told {op : Operation} {v : Version} {made : List Call} {outcome : Except Error Answer}
      (needs : op.needsVersion = true) (unknown : before.capabilities = none)
      (answer : backend.version (before.calls ++ [.version]) = .ok v)
      (does : c.Does backend ⟨v⟩ (before.calls ++ [.version]) before.issued op made outcome) :
      Performs c backend before op (.version :: made) outcome (some ⟨v⟩)
  | failed {op : Operation} {e : Error}
      (needs : op.needsVersion = true) (unknown : before.capabilities = none)
      (answer : backend.version (before.calls ++ [.version]) = .error e) :
      Performs c backend before op [.version] (.error e) none

theorem perform_tenants (names : Option (List String)) :
    c.perform (.tenants names) backend before =
      (backend.tenants (before.calls ++ [.tenants ⟨c.context.name, names⟩]) >>= fun reply =>
        reply.read.map .tenants,
        { before with calls := before.calls ++ [.tenants ⟨c.context.name, names⟩] }) := by
  have listed : c.tenants names backend before =
      (backend.tenants (before.calls ++ [.tenants ⟨c.context.name, names⟩]) >>= (·.read),
        { before with calls := before.calls ++ [.tenants ⟨c.context.name, names⟩] }) :=
    Action.bind_lift rfl
  rw [perform, Action.bind_pure listed]
  cases backend.tenants (before.calls ++ [.tenants ⟨c.context.name, names⟩]) <;> rfl

/-- Operations do nothing else, and their calls are added to those before. -/
theorem performs (backend : Backend) (before : Connection) (op : Operation) :
    ∃ made outcome capabilities issued, c.Performs backend before op made outcome capabilities ∧
      c.perform op backend before = (outcome, ⟨before.calls ++ made, capabilities, issued⟩) := by
  cases needs : op.needsVersion with
  | false =>
    cases op with
    | tenants names => exact ⟨_, _, _, _, .tenants names, c.perform_tenants names⟩
    | _ => cases needs
  | true =>
    cases run : Connection.resolve backend before with
    | mk outcome resolved =>
      cases Connection.resolve_resolves run with
      | held held =>
        obtain ⟨made, issued, outcome, does, performed⟩ := c.does_of_known run needs
        rw [held] at performed
        exact ⟨made, outcome, _, issued, .held needs held does, performed⟩
      | told unknown answer =>
        obtain ⟨made, issued, outcome, does, performed⟩ := c.does_of_known run needs
        rw [List.append_assoc] at performed
        exact ⟨_, outcome, _, issued, .told needs unknown answer does, performed⟩
      | failed unknown answer =>
        have performed := c.perform_of_unresolved needs run
        rw [unknown] at performed
        exact ⟨_, _, _, _, .failed needs unknown answer, performed⟩

end Collection

end VectorClient
