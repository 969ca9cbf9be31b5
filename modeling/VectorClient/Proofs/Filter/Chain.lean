import VectorClient.Proofs.Filter.Serialization

/-!
# Chains of links

A traversal puts its links one behind the other and its end behind the last. So a target holds every
name that it was built from, and a blank one is found wherever it stands. Only the name of a
property whose length is meant is put into a text that is never blank.
-/

namespace VectorClient.Filter

/-! ### Links in order -/

def Link.names (link : Link) : List String := link.name :: link.collection.toList

def Target.behind (links : List Link) (t : Target) : Target := links.foldr .via t

namespace Target

variable {links : List Link} {t leaf : Target}

theorem isTerminal_behind : (t.behind links).isTerminal = t.isTerminal := by
  induction links with
  | nil => rfl
  | cons link rest ih => exact ih

theorem names_behind : (t.behind links).names = links.flatMap Link.names ++ t.names := by
  induction links with
  | nil => rfl
  | cons link rest ih =>
    rw [List.flatMap_cons, List.append_assoc, ← ih]
    rfl

theorem complete_behind : (t.behind links).Complete ↔
    (∀ name ∈ links.flatMap Link.names, Text.isBlank name = false) ∧ t.Complete := by
  constructor
  · rintro ⟨terminal, named⟩
    rw [names_behind, List.forall_mem_append] at named
    exact ⟨named.1, isTerminal_behind.symm.trans terminal, named.2⟩
  · rintro ⟨links_named, terminal, named⟩
    refine ⟨isTerminal_behind.trans terminal, ?_⟩
    rw [names_behind, List.forall_mem_append]
    exact ⟨links_named, named⟩

theorem extend_behind : (t.behind links).extend leaf = (t.extend leaf).behind links := by
  induction links with
  | nil => rfl
  | cons link rest ih => exact congrArg (via link) ih

end Target

namespace Traversal

/-- The traversal has followed the links, and what it is finished with comes behind them. -/
def Follows (t : Traversal) (links : List Link) : Prop := ∀ leaf, t.finish leaf = leaf.behind links

theorem follows_start (link : Link) : (start link).Follows [link] := fun _ => rfl

theorem Follows.follow {t : Traversal} {links : List Link} (follows : t.Follows links)
    (link : Link) : (t.follow link).Follows (links ++ [link]) := by
  intro leaf
  have next : (t.follow link).chain = (Target.dangling link).behind links := follows _
  rw [finish, next, Target.extend_behind, Target.behind, Target.behind, List.foldr_append]
  rfl

theorem Follows.foldl {t : Traversal} {links : List Link} (follows : t.Follows links)
    (more : List Link) : (more.foldl Traversal.follow t).Follows (links ++ more) := by
  induction more generalizing t links with
  | nil => rwa [List.append_nil]
  | cons link rest ih =>
    rw [List.append_cons]
    exact ih (follows.follow link)

end Traversal

/-! ### Paths -/

inductive Ending
  | property (name : String)
  | count (link : String)
  | id
  | creationTime
  | updateTime

namespace Ending

def target : Ending → Target
  | .property name => .property name
  | .count link => .count link
  | .id => Target.id
  | .creationTime => Target.creationTime
  | .updateTime => Target.updateTime

def names : Ending → List String
  | .property name => [name]
  | .count link => [link]
  | .id | .creationTime | .updateTime => []

theorem complete_iff {e : Ending} :
    e.target.Complete ↔ ∀ name ∈ e.names, Text.isBlank name = false := by
  cases e with
  | property | count => exact ⟨Target.Complete.named, fun named => ⟨rfl, named⟩⟩
  | id | creationTime | updateTime => exact ⟨fun _ => nofun, fun _ => ⟨rfl, by decide⟩⟩

end Ending

inductive Path
  | direct (ending : Ending)
  | length (name : String)
  | through (first : Link) (rest : List Link) (ending : Ending)

namespace Path

def target : Path → Target
  | .direct ending => ending.target
  | .length name => Target.length name
  | .through first rest ending =>
    (rest.foldl Traversal.follow (Traversal.start first)).finish ending.target

def names : Path → List String
  | .direct ending => ending.names
  | .length name => [name]
  | .through first rest ending => (first :: rest).flatMap Link.names ++ ending.names

theorem isBlank_length (name : String) : Text.isBlank ("len(" ++ name ++ ")") = false := by
  rw [Text.isBlank, String.toList_append, String.toList_append, List.all_append, List.all_append]
  rfl

theorem target_through (first : Link) (rest : List Link) (ending : Ending) :
    (Path.through first rest ending).target = ending.target.behind (first :: rest) :=
  Traversal.Follows.foldl (Traversal.follows_start first) rest ending.target

/-- A target is complete iff no name that was given is blank, or it is a length. -/
theorem complete_iff {p : Path} : p.target.Complete ↔
    (∀ name ∈ p.names, Text.isBlank name = false) ∨ ∃ name, p = .length name := by
  cases p with
  | direct ending => simpa [target, names] using ending.complete_iff
  | length name =>
    have complete : (Target.length name).Complete :=
      ⟨rfl, List.forall_mem_singleton.mpr (isBlank_length name)⟩
    exact ⟨fun _ => .inr ⟨name, rfl⟩, fun _ => complete⟩
  | through first rest ending =>
    rw [target_through, Target.complete_behind, ending.complete_iff, names,
      List.forall_mem_append]
    simp

end Path

/-! ### What is refused -/

theorem fault?_compare {operator : Operator} {target : Target} {value : Literal}
    (accepted : operator.accepts value = true) :
    fault? (Filter.compare operator target value).serialize =
      target.fault?.map .invalidFilterTarget := by
  rw [serialize, if_pos accepted, fault?_bind_pure, target.fault?_resolve]

/-- A filter with a value that its operator takes is refused for its target iff a name that was
given for it is blank, and else sent. The name of a length is not looked at. -/
theorem blank_name_refused_iff {operator : Operator} {value : Literal}
    (accepted : operator.accepts value = true) (p : Path) :
    ((∃ fault, (Filter.compare operator p.target value).serialize =
        .error (.invalidFilterTarget fault)) ↔
      (∃ name ∈ p.names, Text.isBlank name = true) ∧ ∀ name, p ≠ .length name) ∧
    ((∃ w, (Filter.compare operator p.target value).serialize = .ok w) ↔
      (∀ name ∈ p.names, Text.isBlank name = false) ∨ ∃ name, p = .length name) := by
  have sent : (∃ w, (Filter.compare operator p.target value).serialize = .ok w) ↔
      p.target.fault? = none := by
    rw [← fault?_eq_none, fault?_compare accepted, Option.map_eq_none_iff]
  have refused : (∃ fault, (Filter.compare operator p.target value).serialize =
      .error (.invalidFilterTarget fault)) ↔ ¬ p.target.fault? = none := by
    simp only [← fault?_eq_some, fault?_compare accepted]
    cases p.target.fault? <;> simp
  rw [sent, refused, Target.fault?_eq_none, Path.complete_iff]
  exact ⟨by simp, Iff.rfl⟩

/-- Behind two links that are named, the second one leads into a collection that is not. -/
theorem blank_name_refused_iff_in_chain :
    let p : Path := .through ⟨"writtenBy", none⟩ [⟨"livesIn", some " "⟩] (.count "districts")
    Operator.greaterThan.accepts (.int 3) = true ∧
      p.names = ["writtenBy", "livesIn", " ", "districts"] ∧
      (∃ name ∈ p.names, Text.isBlank name = true) ∧
      ∃ fault, (Filter.compare .greaterThan p.target (.int 3)).serialize =
        .error (.invalidFilterTarget fault) := by
  intro p
  have blank : ∃ name ∈ p.names, Text.isBlank name = true := ⟨" ", by decide, by decide⟩
  exact ⟨rfl, rfl, blank, (blank_name_refused_iff rfl p).1.mpr ⟨blank, nofun⟩⟩

/-- The length of a property without a name is sent as the property `len()`. The property itself,
and the count of a reference without a name, are refused. -/
theorem blank_length_sent :
    let equals (p : Path) : Filter := .compare .equal p.target (.int 3)
    Text.isBlank "" = true ∧ Operator.equal.accepts (.int 3) = true ∧
      (∃ w, (equals (.length "")).serialize = .ok w ∧ w.target = some (.property "len()")) ∧
      (equals (.direct (.property ""))).serialize = .error (.invalidFilterTarget .blankProperty) ∧
      (equals (.direct (.count ""))).serialize = .error (.invalidFilterTarget .blankReference) := by
  intro equals
  exact ⟨rfl, rfl, ⟨_, rfl, rfl⟩, rfl, rfl⟩

end VectorClient.Filter
