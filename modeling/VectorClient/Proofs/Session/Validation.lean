import VectorClient.Proofs.Reply.Faults
import VectorClient.Proofs.Session.Operation

/-!
# Validation before sending

An error of validation means that nothing but the version was asked for. Such errors come from
building requests and mapping objects, which is done before anything is sent; afterwards only the
backend and the readers of its replies can fail, and their errors are of other kinds.
-/

namespace VectorClient

/-- Errors of the backend itself: a call failed, or its connection is not set up. -/
def Error.isOfBackend : Error → Bool
  | .query _ _ | .batch _ _ | .config _ => true
  | _ => false

theorem Error.isLocalValidation_of_backend {e : Error} (own : e.isOfBackend = true) :
    e.isLocalValidation = false := by
  cases e <;> first | rfl | cases own

structure Backend.FailsAsBackend (backend : Backend) : Prop where
  version : ∀ calls e, backend.version calls = .error e → e.isOfBackend = true
  search : ∀ calls e, backend.search calls = .error e → e.isOfBackend = true
  batch : ∀ calls e, backend.batch calls = .error e → e.isOfBackend = true
  tenants : ∀ calls e, backend.tenants calls = .error e → e.isOfBackend = true

theorem Script.mem_of_answer_error {α : Type} {ofKind : Call → Bool}
    {answers : List (Except Error α)} {fallback : α} {calls : List Call} {e : Error}
    (failed : answer ofKind answers fallback calls = .error e) : .error e ∈ answers := by
  unfold answer at failed
  cases listed : answers[calls.countP ofKind - 1]? with
  | none =>
    rw [listed] at failed
    cases failed
  | some a =>
    rw [listed] at failed
    obtain rfl : a = .error e := failed
    exact List.mem_of_getElem? listed

/-! ### Failures after sending -/

theorem valid_of_answer {α β : Type} {answer : Except Error α} {read : α → Except Error β}
    (own : ∀ e, answer = .error e → e.isOfBackend = true) (faults : ∀ a, OnlyReplyFaults (read a))
    {e : Error} (failed : (answer >>= read) = .error e) : e.isLocalValidation = false := by
  cases answer with
  | ok a => exact Error.isLocalValidation_of_replyFault (faults a e failed)
  | error e' =>
    obtain rfl := Except.error.inj failed
    exact Error.isLocalValidation_of_backend (own e' rfl)

namespace Operation

/-- Whether an operation returns what a search finds. -/
def isSearch : Operation → Bool
  | .query _ | .queryGrouped _ _ | .generate _ _ | .generateGrouped _ _ _ | .fetchById _ _ => true
  | _ => false

theorem ask?_read_faults {op : Operation} {b : Search.RequestBuilder}
    {files : String → Option (List UInt8)} {ask : Ask} (asks : op.ask? b files = some ask)
    (reply : Wire.SearchReply) : OnlyReplyFaults (ask.read reply) := by
  cases op with
  | query =>
    obtain rfl := Option.some.inj asks
    exact (reply.objects_faults _).map _
  | queryGrouped =>
    obtain rfl := Option.some.inj asks
    exact (reply.grouped_faults _).map _
  | generate =>
    obtain rfl := Option.some.inj asks
    exact (reply.generated_faults _).map _
  | generateGrouped =>
    obtain rfl := Option.some.inj asks
    exact (reply.generatedGroups_faults _).map _
  | fetchById =>
    obtain rfl := Option.some.inj asks
    exact ((reply.objects_faults _).map _).map _
  | capabilities => cases asks
  | buildRequest => cases asks
  | insertMany => cases asks
  | tenants => cases asks

end Operation

theorem Backend.FailsAsBackend.batch_failure {backend : Backend} (own : backend.FailsAsBackend)
    {calls : List Call} {request : Wire.BatchRequest} {e : Error}
    (fails : backend.Fails calls request e) : e.isLocalValidation = false := by
  cases fails with
  | call answer => exact Error.isLocalValidation_of_backend (own.batch _ e answer)
  | index => rfl

/-! ### One operation -/

namespace Collection

variable {c : Collection} {backend : Backend} {before : Connection} {op : Operation}
  {made : List Call} {outcome : Except Error Answer}

/-- Once the version is known, an operation that ends in an error of validation has sent nothing. -/
theorem Does.sent_nothing {caps : Capabilities} {calls : List Call} {issued : Nat}
    (own : backend.FailsAsBackend) (does : c.Does backend caps calls issued op made outcome)
    {e : Error} (failed : outcome = .error e) (invalid : e.isLocalValidation = true) :
    made = [] := by
  cases does with
  | capabilities => rfl
  | buildRequest => rfl
  | refused => rfl
  | unmapped => rfl
  | asked asks built =>
    -- The search is sent here, so that only the answer or its reading can fail.
    have valid := valid_of_answer (own.search _) (Operation.ask?_read_faults asks) failed
    cases invalid.symm.trans valid
  | inserted => cases failed
  | stopped mapped split takes fails =>
    obtain rfl := Except.error.inj failed
    cases invalid.symm.trans (own.batch_failure fails)

theorem Does.searched_once {caps : Capabilities} {calls : List Call} {issued : Nat}
    (does : c.Does backend caps calls issued op made outcome) (searches : op.isSearch = true)
    {a : Answer} (done : outcome = .ok a) : made.countP Call.isSearch = 1 := by
  cases does with
  | capabilities => cases searches
  | buildRequest => cases searches
  | refused => cases done
  | asked => rfl
  | unmapped => cases searches
  | inserted => cases searches
  | stopped => cases searches

theorem Performs.only_version {capabilities : Option Capabilities} (own : backend.FailsAsBackend)
    (performs : c.Performs backend before op made outcome capabilities) {e : Error}
    (failed : outcome = .error e) (invalid : e.isLocalValidation = true) :
    ∀ call ∈ made, call = .version := by
  cases performs with
  | tenants names =>
    have valid := valid_of_answer (own.tenants _)
      (fun reply => reply.read_faults.map Answer.tenants) failed
    cases invalid.symm.trans valid
  | held _ _ does => simp [does.sent_nothing own failed invalid]
  | told _ _ _ does => simp [does.sent_nothing own failed invalid]
  | failed => simp

theorem Performs.searched_once {capabilities : Option Capabilities}
    (performs : c.Performs backend before op made outcome capabilities)
    (searches : op.isSearch = true) {a : Answer} (done : outcome = .ok a) :
    made.countP Call.isSearch = 1 := by
  cases performs with
  | tenants names => cases searches
  | held _ _ does => exact does.searched_once searches done
  | told _ _ _ does => exact does.searched_once searches done
  | failed => cases done

/-- An operation that ends in an error of validation has called nothing but the version, and a
search that succeeds has called the search once. -/
theorem invalid_sends_nothing (own : backend.FailsAsBackend) (c : Collection) (op : Operation)
    (before : Connection) :
    ∃ made outcome after, c.perform op backend before = (outcome, after) ∧
      after.calls = before.calls ++ made ∧
      (∀ e, outcome = .error e → e.isLocalValidation = true → ∀ call ∈ made, call = .version) ∧
      (op.isSearch = true → ∀ a, outcome = .ok a → made.countP Call.isSearch = 1) := by
  obtain ⟨made, outcome, capabilities, issued, performs, run⟩ := c.performs backend before op
  refine ⟨made, outcome, _, run, rfl, fun e failed invalid => ?_, fun searches a done => ?_⟩
  · exact performs.only_version own failed invalid
  · exact performs.searched_once searches done

/-- A search in no groups is refused before it is sent, and without groups it is sent. -/
theorem invalid_sends_nothing_in_no_groups :
    let failure : Error := .query "gRPC" "unavailable"
    let backend := ({ tenants := [.error failure] } : Script).backend Uuid.ofNat
    let c : Collection := { context := { name := "Article" } }
    let s : Search := .keywords "shoes" {}
    backend.FailsAsBackend ∧
      (∃ made after, c.perform (.queryGrouped s ⟨"kind", 0, 1⟩) backend {} =
          (.error (.invalidInput .emptyGroups), after) ∧
        after.calls = [] ++ made ∧ ∀ call ∈ made, call = .version) ∧
      ∃ made after, c.perform (.query s) backend {} = (.ok (.objects []), after) ∧
        after.calls = [] ++ made ∧ made.countP Call.isSearch = 1 := by
  intro failure backend c s
  have own : backend.FailsAsBackend := by
    refine ⟨fun _ e failed => ?_, fun _ e failed => ?_, fun _ e failed => ?_, fun calls e failed => ?_⟩
    · cases failed
    · cases failed
    · cases failed
    · obtain rfl : e = failure := by simpa using Script.mem_of_answer_error failed
      rfl
  refine ⟨own, ?_, ?_⟩
  · obtain ⟨made, outcome, after, run, calls, only, _⟩ :=
      invalid_sends_nothing own c (.queryGrouped s ⟨"kind", 0, 1⟩) {}
    have refused : outcome = .error (.invalidInput .emptyGroups) := congrArg Prod.fst run.symm
    subst refused
    exact ⟨made, after, run, calls, only _ rfl rfl⟩
  · obtain ⟨made, outcome, after, run, calls, _, once⟩ := invalid_sends_nothing own c (.query s) {}
    have found : outcome = .ok (.objects []) := congrArg Prod.fst run.symm
    subst found
    exact ⟨made, after, run, calls, once rfl _ rfl⟩

end Collection

end VectorClient
