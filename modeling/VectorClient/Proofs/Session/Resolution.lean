import Mathlib.Data.List.Infix
import VectorClient.Proofs.Session.Operation
import VectorClient.Session.Client

/-!
# The version of the server

The version is asked for until it is told, and then kept: what a connection holds is the first
version that any of its calls has told. This is the invariant of all operations of all clients.
Clients that are derived from one client share its connection, and so never ask for a version that
one of them was told.
-/

namespace VectorClient

/-! ### The first version that is told -/

namespace Backend

variable (backend : Backend)

/-- The version that the last of the calls has told. -/
def told? (calls : List Call) : Option Version :=
  match calls.getLast? with
  | some .version => (backend.version calls).toOption
  | _ => none

/-- The first version that any of the calls has told. -/
def firstVersion? (calls : List Call) : Option Version := calls.inits.findSome? backend.told?

theorem firstVersion?_concat (calls : List Call) (call : Call) :
    backend.firstVersion? (calls ++ [call]) =
      (backend.firstVersion? calls).or (backend.told? (calls ++ [call])) := by
  simp [firstVersion?, List.inits_append, List.findSome?_append]

theorem told?_version (calls : List Call) :
    backend.told? (calls ++ [.version]) = (backend.version (calls ++ [.version])).toOption := by
  simp [told?]

theorem told?_of_ne {call : Call} (other : call ≠ .version) (calls : List Call) :
    backend.told? (calls ++ [call]) = none := by
  cases call <;> simp_all [told?]

theorem firstVersion?_append {calls made : List Call} (quiet : .version ∉ made) :
    backend.firstVersion? (calls ++ made) = backend.firstVersion? calls := by
  induction made generalizing calls with
  | nil => rw [List.append_nil]
  | cons call rest ih =>
    obtain ⟨other, rest_quiet⟩ := List.ne_and_not_mem_of_not_mem_cons quiet
    rw [List.append_cons, ih rest_quiet, firstVersion?_concat, backend.told?_of_ne other.symm,
      Option.or_none]

end Backend

/-! ### One operation -/

variable {c : Collection} {backend : Backend} {before : Connection} {op : Operation}
  {made : List Call} {outcome : Except Error Answer}

/-- What is known of the server is the first version that it told. -/
def Connection.Keeps (backend : Backend) (c : Connection) : Prop :=
  c.capabilities = (backend.firstVersion? c.calls).map Capabilities.mk

theorem Connection.Keeps.known_iff (keeps : before.Keeps backend) {v : Version} :
    before.capabilities = some ⟨v⟩ ↔ backend.firstVersion? before.calls = some v := by
  rw [keeps]
  cases backend.firstVersion? before.calls <;> simp

theorem Connection.Keeps.unknown_iff (keeps : before.Keeps backend) :
    before.capabilities = none ↔ backend.firstVersion? before.calls = none := by
  rw [keeps, Option.map_eq_none_iff]

namespace Collection

/-- Once the version is known, no operation asks for it. -/
theorem Does.quiet {caps : Capabilities} {calls : List Call} {issued : Nat}
    (does : c.Does backend caps calls issued op made outcome) : .version ∉ made := by
  cases does with
  | capabilities => exact List.not_mem_nil
  | buildRequest => exact List.not_mem_nil
  | refused => exact List.not_mem_nil
  | asked => simp
  | unmapped => exact List.not_mem_nil
  | inserted => simp
  | stopped => simp

namespace Performs

variable {capabilities : Option Capabilities}

theorem keeps (keeps : before.Keeps backend)
    (performs : c.Performs backend before op made outcome capabilities) (issued : Nat) :
    Connection.Keeps backend ⟨before.calls ++ made, capabilities, issued⟩ := by
  unfold Connection.Keeps
  cases performs with
  | tenants names =>
    rw [backend.firstVersion?_append (by simp)]
    exact keeps
  | held _ held does =>
    rw [backend.firstVersion?_append does.quiet, ← held]
    exact keeps
  | told _ unknown answer does =>
    -- Nothing was told before this answer, and the calls after it tell nothing.
    rw [List.append_cons, backend.firstVersion?_append does.quiet, backend.firstVersion?_concat,
      keeps.unknown_iff.mp unknown, backend.told?_version, answer]
    rfl
  | failed _ unknown answer =>
    rw [backend.firstVersion?_concat, keeps.unknown_iff.mp unknown, backend.told?_version, answer]
    rfl

theorem quiet (performs : c.Performs backend before op made outcome capabilities)
    (noNeed : op.needsVersion = false) : .version ∉ made := by
  cases performs with
  | tenants names => simp
  | _ needs => cases noNeed.symm.trans needs

theorem of_known {caps : Capabilities} (known : before.capabilities = some caps)
    (performs : c.Performs backend before op made outcome capabilities) :
    capabilities = some caps ∧ .version ∉ made ∧ (op.needsVersion = true →
      c.Does backend caps before.calls before.issued op made outcome) := by
  cases performs with
  | tenants names => exact ⟨known, by simp, nofun⟩
  | held _ held does =>
    obtain rfl := Option.some.inj (held.symm.trans known)
    exact ⟨rfl, does.quiet, fun _ => does⟩
  | told _ unknown => cases unknown.symm.trans known
  | failed _ unknown => cases unknown.symm.trans known

theorem of_unknown (unknown : before.capabilities = none) (needs : op.needsVersion = true)
    (performs : c.Performs backend before op made outcome capabilities) :
    ∃ rest, made = .version :: rest ∧ .version ∉ rest ∧
      (∀ e, backend.version (before.calls ++ [.version]) = .error e →
        outcome = .error e ∧ rest = [] ∧ capabilities = none) ∧
      (∀ v, backend.version (before.calls ++ [.version]) = .ok v →
        capabilities = some ⟨v⟩ ∧
        c.Does backend ⟨v⟩ (before.calls ++ [.version]) before.issued op rest outcome) := by
  cases performs with
  | tenants names => cases needs
  | held _ held => cases unknown.symm.trans held
  | told _ _ answer does =>
    refine ⟨_, rfl, does.quiet, fun e failed => ?_, fun v told => ?_⟩
    · cases answer.symm.trans failed
    · obtain rfl := Except.ok.inj (answer.symm.trans told)
      exact ⟨rfl, does⟩
  | failed _ _ answer =>
    refine ⟨_, rfl, List.not_mem_nil, fun e failed => ?_, fun v told => ?_⟩
    · obtain rfl := Except.error.inj (answer.symm.trans failed)
      exact ⟨rfl, rfl, rfl⟩
    · cases answer.symm.trans told

end Performs

end Collection

/-! ### Operations one after the other -/

namespace Client

inductive Derives (origin : Client) : Client → Prop
  | clone : Derives origin origin
  | withBatchSize {k : Client} (derived : Derives origin k) (size : Nat) :
      Derives origin (k.withBatchSize size)
  | withTenant {k : Client} (derived : Derives origin k) (tenant : String) :
      Derives origin (k.withTenant tenant)
  | withConsistencyLevel {k : Client} (derived : Derives origin k) (level : ConsistencyLevel) :
      Derives origin (k.withConsistencyLevel level)

theorem Derives.connection_eq {origin k : Client} (derived : origin.Derives k) :
    k.connection = origin.connection := by
  induction derived with
  | clone => rfl
  | withBatchSize _ _ ih => exact ih
  | withTenant _ _ ih => exact ih
  | withConsistencyLevel _ _ ih => exact ih

def performAll (backends : Nat → Backend) (connections : Nat → Connection) :
    List (Client × Operation) → Nat → Connection
  | [] => connections
  | (k, op) :: rest => performAll backends (k.perform op backends connections).2 rest

variable {backends : Nat → Backend} {connections : Nat → Connection}

theorem perform_keeps (keeps : ∀ i, (connections i).Keeps (backends i)) (k : Client)
    (op : Operation) (i : Nat) : ((k.perform op backends connections).2 i).Keeps (backends i) := by
  obtain ⟨made, outcome, capabilities, issued, performs, run⟩ :=
    k.collection.performs (backends k.connection) (connections k.connection) op
  simp only [perform, run]
  by_cases own : i = k.connection
  · rw [if_pos own, own]
    exact performs.keeps (keeps k.connection) issued
  · rw [if_neg own]
    exact keeps i

theorem performAll_keeps (keeps : ∀ i, (connections i).Keeps (backends i))
    (steps : List (Client × Operation)) (i : Nat) :
    (performAll backends connections steps i).Keeps (backends i) := by
  induction steps generalizing connections with
  | nil => exact keeps i
  | cons step rest ih =>
    obtain ⟨k, op⟩ := step
    exact ih (perform_keeps keeps k op)

/-- Whatever clients have done before: once a version was told over the connection of a client, an
operation of any client derived from it does what it does for that version and does not ask again.
Until then it asks once before anything else, and does nothing more if that fails. Tenants are
listed without asking, and other connections are left alone. -/
theorem version_resolved_once (backends : Nat → Backend) (steps : List (Client × Operation))
    {origin k : Client} (derived : origin.Derives k) (op : Operation) :
    let connections := performAll backends (fun _ => {}) steps
    let backend := backends origin.connection
    let before := connections origin.connection
    ∃ made outcome after, k.perform op backends connections =
        (outcome, fun i => if i = origin.connection then after else connections i) ∧
      after.calls = before.calls ++ made ∧
      (op.needsVersion = false → .version ∉ made) ∧
      (∀ v, backend.firstVersion? before.calls = some v →
        backend.firstVersion? after.calls = some v ∧ .version ∉ made ∧
        (op.needsVersion = true →
          k.collection.Does backend ⟨v⟩ before.calls before.issued op made outcome)) ∧
      (backend.firstVersion? before.calls = none → op.needsVersion = true →
        ∃ rest, made = .version :: rest ∧ .version ∉ rest ∧
          (∀ e, backend.version (before.calls ++ [.version]) = .error e →
            outcome = .error e ∧ rest = [] ∧ backend.firstVersion? after.calls = none) ∧
          (∀ v, backend.version (before.calls ++ [.version]) = .ok v →
            backend.firstVersion? after.calls = some v ∧ k.collection.Does backend ⟨v⟩
              (before.calls ++ [.version]) before.issued op rest outcome)) := by
  intro connections backend before
  have start (i : Nat) : Connection.Keeps (backends i) {} := rfl
  have keeps : before.Keeps backend := performAll_keeps start steps origin.connection
  obtain ⟨made, outcome, capabilities, issued, performs, run⟩ :=
    k.collection.performs backend before op
  have kept := performs.keeps keeps issued
  refine ⟨made, outcome, ⟨before.calls ++ made, capabilities, issued⟩, ?_, rfl, performs.quiet,
    ?_, ?_⟩
  · rw [perform, derived.connection_eq, run]
  · intro v known
    obtain ⟨held, quiet, does⟩ := performs.of_known (keeps.known_iff.mpr known)
    exact ⟨kept.known_iff.mp held, quiet, does⟩
  · intro unknown needs
    obtain ⟨rest, rfl, quiet, failed, told⟩ :=
      performs.of_unknown (keeps.unknown_iff.mpr unknown) needs
    refine ⟨rest, rfl, quiet, fun e answer => ?_, fun v answer => ?_⟩
    · obtain ⟨ends, nothing, none_held⟩ := failed e answer
      exact ⟨ends, nothing, kept.unknown_iff.mp none_held⟩
    · obtain ⟨held, does⟩ := told v answer
      exact ⟨kept.known_iff.mp held, does⟩

/-- The server is asked for the second time after an answer that failed. What it would answer for
the third time has no influence, nor has what another server answers over its own connection. -/
theorem version_resolved_once_after_failure :
    let answers : List (Except Error Version) :=
      [.error (.query "GraphQL" "unavailable"), .ok ⟨1, 25, 0⟩, .ok ⟨1, 31, 0⟩]
    let backend := ({ versions := answers } : Script).backend Uuid.ofNat
    let other := ({} : Script).backend Uuid.ofNat
    let backends (i : Nat) : Backend := if i = 0 then backend else other
    let k : Client := ⟨{ context := { name := "Article" } }, 0⟩
    let apart : Client := { k with connection := 1 }
    let steps : List (Client × Operation) :=
      [(k, .capabilities), (apart, .capabilities), (k.withTenant "a", .tenants none),
        (k.withConsistencyLevel .all, .insertMany [])]
    let connections := performAll backends (fun _ => {}) steps
    let before := connections 0
    let derived := (k.withTenant "a").withBatchSize 5
    let op : Operation := .query (.keywords "shoes" {})
    k.Derives derived ∧ before.calls.countP Call.isVersion = 2 ∧
      backend.version (before.calls ++ [.version]) = .ok ⟨1, 31, 0⟩ ∧
      ∃ made outcome after, derived.perform op backends connections =
          (outcome, fun i => if i = 0 then after else connections i) ∧
        after.calls = before.calls ++ made ∧ .version ∉ made ∧ derived.collection.Does backend
          ⟨⟨1, 25, 0⟩⟩ before.calls before.issued op made outcome := by
  intro answers backend other backends k apart steps connections before derived op
  have derives : k.Derives derived := (Derives.clone.withTenant "a").withBatchSize 5
  refine ⟨derives, rfl, rfl, ?_⟩
  have first : backend.firstVersion? before.calls = some ⟨1, 25, 0⟩ := rfl
  obtain ⟨made, outcome, after, run, calls, _, known, _⟩ :=
    version_resolved_once backends steps derives op
  obtain ⟨_, quiet, does⟩ := known _ first
  exact ⟨made, outcome, after, run, calls, quiet, does rfl⟩

end Client

end VectorClient
