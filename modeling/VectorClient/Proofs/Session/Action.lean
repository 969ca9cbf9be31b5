import VectorClient.Session.Collection

/-!
# Steps on a connection

How a composed step goes on, and what asking for the version of the server does.
-/

namespace VectorClient

variable {backend : Backend}

namespace Action

variable {α β : Type} {x : Action α} {before after : Connection}

theorem bind_of_ok {f : α → Action β} {a : α} (done : x backend before = (.ok a, after)) :
    (x >>= f) backend before = f a backend after := by
  change Action.bind x f backend before = _
  rw [Action.bind, done]

theorem bind_of_error {f : α → Action β} {e : Error} (failed : x backend before = (.error e, after)) :
    (x >>= f) backend before = (.error e, after) := by
  change Action.bind x f backend before = _
  rw [Action.bind, failed]

theorem bind_assoc {γ : Type} (x : Action α) (f : α → Action β) (g : β → Action γ) :
    x >>= f >>= g = x >>= fun a => f a >>= g := by
  funext backend c
  change bind (bind x f) g backend c = bind x (fun a => bind (f a) g) backend c
  rw [bind, bind, bind]
  rcases x backend c with ⟨_ | _, _⟩ <;> rfl

theorem bind_lift {r : Except Error α} {f : α → Except Error β}
    (run : x backend before = (r, after)) :
    (x >>= fun a => lift (f a)) backend before = (r >>= f, after) := by
  cases r with
  | ok a => exact bind_of_ok run
  | error e => exact bind_of_error run

theorem bind_pure {r : Except Error α} {f : α → β} (run : x backend before = (r, after)) :
    (do return f (← x) : Action β) backend before = (r.map f, after) := by
  cases r with
  | ok a => exact bind_of_ok run
  | error e => exact bind_of_error run

end Action

namespace Connection

inductive Resolves (backend : Backend) (c : Connection) :
    Except Error Capabilities → Connection → Prop
  | held {caps : Capabilities} (held : c.capabilities = some caps) : Resolves backend c (.ok caps) c
  | told {v : Version} (unknown : c.capabilities = none)
      (answer : backend.version (c.calls ++ [.version]) = .ok v) :
      Resolves backend c (.ok ⟨v⟩)
        { c with calls := c.calls ++ [.version], capabilities := some ⟨v⟩ }
  | failed {e : Error} (unknown : c.capabilities = none)
      (answer : backend.version (c.calls ++ [.version]) = .error e) :
      Resolves backend c (.error e) { c with calls := c.calls ++ [.version] }

theorem resolve_resolves {c after : Connection} {outcome : Except Error Capabilities}
    (run : resolve backend c = (outcome, after)) : Resolves backend c outcome after := by
  unfold resolve Action.send at run
  split at run
  · rename_i held
    obtain ⟨rfl, rfl⟩ := Prod.mk.inj run
    exact .held held
  · rename_i unknown
    cases answer : backend.version (c.calls ++ [.version]) with
    | error e =>
      simp only [answer] at run
      obtain ⟨rfl, rfl⟩ := Prod.mk.inj run
      exact .failed unknown answer
    | ok v =>
      simp only [answer] at run
      obtain ⟨rfl, rfl⟩ := Prod.mk.inj run
      exact .told unknown answer

theorem resolve_of_held {c : Connection} {caps : Capabilities} (held : c.capabilities = some caps) :
    resolve backend c = (.ok caps, c) := by
  simp only [resolve, held]

theorem capabilities_of_resolve {c resolved : Connection} {caps : Capabilities}
    (known : resolve backend c = (.ok caps, resolved)) : resolved.capabilities = some caps := by
  cases resolve_resolves known with
  | held held => exact held
  | told => rfl

end Connection

end VectorClient
