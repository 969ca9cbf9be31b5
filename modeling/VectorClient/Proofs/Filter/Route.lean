import VectorClient.Proofs.Filter.Chain

/-!
# Routes

A chain is its links from the outside in, and its end. Attaching a chain to an open one appends the
links and takes over the end, so that chains put together from the same pieces in one order are the
same however the pieces are grouped. A traversal is open after each of its calls, and its target is
resolved to the links that were called for, in that order, and the end.
-/

namespace VectorClient

namespace Filter

inductive Leaf
  | property (name : String)
  | count (link : String)
deriving DecidableEq

namespace Target

def links : Target → List Link
  | .property _ => []
  | .count _ => []
  | .dangling link => [link]
  | .via link next => link :: next.links

/-- What the chain ends in, unless it is open. -/
def leaf? : Target → Option Leaf
  | .property name => some (.property name)
  | .count link => some (.count link)
  | .dangling _ => none
  | .via _ next => next.leaf?

variable {chain leaf : Target}

/-! ### The links and the end of a chain -/

theorem links_behind (links : List Link) (t : Target) :
    (t.behind links).links = links ++ t.links := by
  induction links with
  | nil => rfl
  | cons link rest ih => exact congrArg (link :: ·) ih

theorem leaf?_behind (links : List Link) (t : Target) : (t.behind links).leaf? = t.leaf? := by
  induction links with
  | nil => rfl
  | cons link rest ih => exact ih

theorem behind_append (outer inner : List Link) (t : Target) :
    t.behind (outer ++ inner) = (t.behind inner).behind outer := List.foldr_append

/-! ### Extending a chain -/

theorem extend_of_terminal (terminal : chain.isTerminal = true) : chain.extend leaf = chain := by
  induction chain with
  | property => rfl
  | count => rfl
  | dangling => cases terminal
  | via link next ih =>
    have kept : next.extend leaf = next := ih terminal
    rw [extend, kept]

theorem extend_of_open (opened : chain.isTerminal = false) (leaf : Target) :
    chain.extend leaf = leaf.behind chain.links := by
  induction chain with
  | property => cases opened
  | count => cases opened
  | dangling link => rfl
  | via link next ih =>
    have further : next.extend leaf = leaf.behind next.links := ih opened
    rw [extend, further]
    rfl

theorem extend_assoc (c r l : Target) : (c.extend r).extend l = c.extend (r.extend l) := by
  induction c with
  | property => rfl
  | count => rfl
  | dangling => rfl
  | via link next ih => rw [extend, extend, extend, ih]

theorem isTerminal_extend (opened : chain.isTerminal = false) :
    (chain.extend leaf).isTerminal = leaf.isTerminal := by
  rw [extend_of_open opened, isTerminal_behind]

theorem attach_of_open (opened : chain.isTerminal = false) (leaf : Target) :
    chain.attach leaf = .ok (chain.extend leaf) := by
  simp [attach, opened]

theorem attach_refused :
    (∃ fault, chain.attach leaf = .error (.invalidFilterTarget fault)) ↔
      chain.isTerminal = true := by
  unfold attach
  cases chain.isTerminal <;> simp

end Target

end Filter

/-! ### What is resolved -/

namespace Wire.FilterTarget

open VectorClient.Filter

/-- The references from the outside in; a reference into several collections names the one. -/
def links : FilterTarget → List Link
  | .property _ => []
  | .count _ => []
  | .singleTarget on target => ⟨on, none⟩ :: target.links
  | .multiTarget on target collection => ⟨on, some collection⟩ :: target.links

/-- What stands inside of all references. -/
def leaf : FilterTarget → Leaf
  | .property name => .property name
  | .count on => .count on
  | .singleTarget _ target => target.leaf
  | .multiTarget _ target _ => target.leaf

theorem links_ofWire (w : FilterTarget) : (Target.ofWire w).links = w.links := by
  induction w with
  | property => rfl
  | count => rfl
  | singleTarget on target ih => exact congrArg (_ :: ·) ih
  | multiTarget on target collection ih => exact congrArg (_ :: ·) ih

theorem leaf?_ofWire (w : FilterTarget) : (Target.ofWire w).leaf? = some w.leaf := by
  induction w with
  | property => rfl
  | count => rfl
  | singleTarget on target ih => exact ih
  | multiTarget on target collection ih => exact ih

end Wire.FilterTarget

namespace Filter

theorem Target.resolve_accepts {t : Target} : (∃ w, t.resolve = .ok w) ↔ t.Complete := by
  rw [← VectorClient.fault?_eq_none, t.fault?_resolve, Option.map_eq_none_iff, fault?_eq_none]

theorem Target.route_of_resolve {t : Target} {w : Wire.FilterTarget}
    (resolved : t.resolve = .ok w) : w.links = t.links ∧ t.leaf? = some w.leaf := by
  obtain rfl := Target.ofWire_of_resolve resolved
  exact ⟨w.links_ofWire.symm, w.leaf?_ofWire⟩

namespace Traversal

variable {t : Traversal} {links : List Link}

/-- A terminal chain would drop an end that is put behind it. -/
theorem Follows.opened (follows : t.Follows links) : t.chain.isTerminal = false := by
  by_contra closed
  rw [Bool.not_eq_false] at closed
  have dropped : t.finish (.dangling ⟨"", none⟩) = t.chain := Target.extend_of_terminal closed
  rw [← dropped, follows, Target.isTerminal_behind] at closed
  cases closed

theorem Follows.links_eq (follows : t.Follows links) : t.chain.links = links := by
  have finished : (Target.property "").behind t.chain.links = (Target.property "").behind links :=
    (Target.extend_of_open follows.opened _).symm.trans (follows _)
  have same := congrArg Target.links finished
  rwa [Target.links_behind, Target.links_behind, List.append_cancel_right_eq] at same

end Traversal

/-- After each call the chain is open, and what is put behind it comes behind all links so far. The
finished target is terminal, and resolved iff no name is blank: to one reference for each call, in
the order of the calls, around the end. -/
theorem traversal_resolved (first : Link) (rest : List Link) (ending : Ending) :
    let path := Path.through first rest ending
    (∀ before, before <+: rest →
      let t := before.foldl Traversal.follow (Traversal.start first)
      t.chain.isTerminal = false ∧ t.chain.links = first :: before ∧
        ∀ leaf, t.chain.extend leaf = leaf.behind (first :: before)) ∧
    path.target.isTerminal = true ∧
    ((∃ w, path.target.resolve = .ok w) ↔ ∀ name ∈ path.names, Text.isBlank name = false) ∧
    ∀ w, path.target.resolve = .ok w →
      w.links = first :: rest ∧ ending.target.leaf? = some w.leaf := by
  intro path
  have target : path.target = ending.target.behind (first :: rest) :=
    Path.target_through first rest ending
  refine ⟨?_, ?_, ?_, ?_⟩
  · intro before _ t
    have follows : t.Follows (first :: before) := (Traversal.follows_start first).foldl before
    exact ⟨follows.opened, follows.links_eq, follows⟩
  · rw [target, Target.isTerminal_behind]
    cases ending <;> rfl
  · have noLength : ¬ ∃ name, path = .length name := by simp [path]
    rw [Target.resolve_accepts, path.complete_iff, or_iff_left noLength]
  · intro w resolved
    obtain ⟨links_eq, leaf_eq⟩ := Target.route_of_resolve resolved
    rw [target, Target.leaf?_behind] at leaf_eq
    have noLinks : ending.target.links = [] := by cases ending <;> rfl
    rw [links_eq, target, Target.links_behind, noLinks, List.append_nil]
    exact ⟨rfl, leaf_eq⟩

/-- A link, and another one into one of several collections, lead to a count. -/
theorem traversal_resolved_mixed :
    let first : Link := ⟨"writtenBy", none⟩
    let second : Link := ⟨"livesIn", some "City"⟩
    let path : Path := .through first [second] (.count "districts")
    (Traversal.start first).chain.isTerminal = false ∧ ∃ w, path.target.resolve = .ok w ∧
      w.links = [first, second] ∧ w.leaf = .count "districts" := by
  intro first second path
  obtain ⟨each, _, accepted, resolved⟩ := traversal_resolved first [second] (.count "districts")
  obtain ⟨w, done⟩ := accepted.mpr (by decide)
  obtain ⟨links_eq, leaf_eq⟩ := resolved w done
  exact ⟨(each [] (List.nil_prefix)).1, w, done, links_eq, (Option.some.inj leaf_eq).symm⟩

/-! ### Pieces in groups -/

/-- A way to put pieces together: what is built in front has what is built behind attached to it. -/
inductive Assembly
  | piece (t : Target)
  | join (front back : Assembly)

namespace Assembly

def pieces : Assembly → List Target
  | .piece t => [t]
  | .join front back => front.pieces ++ back.pieces

def build : Assembly → Except Error Target
  | .piece t => .ok t
  | .join front back => do
    let chain ← front.build
    let leaf ← back.build
    chain.attach leaf

theorem pieces_split (a : Assembly) : ∃ before last, a.pieces = before ++ [last] := by
  induction a with
  | piece t => exact ⟨[], t, rfl⟩
  | join front back _ ih =>
    obtain ⟨before, last, split⟩ := ih
    refine ⟨front.pieces ++ before, last, ?_⟩
    rw [pieces, split, List.append_assoc]

theorem build_of_pieces {a : Assembly} {before : List Target} {last : Target}
    (opened : ∀ p ∈ before, p.isTerminal = false) (split : a.pieces = before ++ [last]) :
    a.build = .ok (last.behind (before.flatMap Target.links)) := by
  induction a generalizing before last with
  | piece t =>
    have alone : [] ++ [t] = before ++ [last] := split
    obtain ⟨rfl, same⟩ := List.append_inj' alone rfl
    obtain rfl := List.head_eq_of_cons_eq same
    rfl
  | join front back front_built back_built =>
    obtain ⟨inFront, hinge, front_split⟩ := front.pieces_split
    obtain ⟨inBack, last', back_split⟩ := back.pieces_split
    rw [pieces, back_split, ← List.append_assoc] at split
    obtain ⟨rfl, same⟩ := List.append_inj' split rfl
    obtain rfl := List.head_eq_of_cons_eq same
    rw [front_split, List.forall_mem_append, List.forall_mem_append,
      List.forall_mem_singleton] at opened
    obtain ⟨⟨front_open, hinge_open⟩, back_open⟩ := opened
    -- The front is open because its last piece is, which is not the last of all.
    have joined : (hinge.behind (inFront.flatMap Target.links)).isTerminal = false :=
      Target.isTerminal_behind.trans hinge_open
    have front_links : (hinge.behind (inFront.flatMap Target.links)).links =
        front.pieces.flatMap Target.links := by
      rw [Target.links_behind, front_split, List.flatMap_append, List.flatMap_singleton]
    rw [build, front_built front_open front_split, back_built back_open back_split]
    change Target.attach _ _ = _
    rw [Target.attach_of_open joined, Target.extend_of_open joined, front_links,
      List.flatMap_append, Target.behind_append]

end Assembly

/-- Attaching is refused by terminal chains alone, and otherwise appends the links of one chain to
those of the other, which is open then, and takes over its end. So the order of open pieces and of
what is put behind them decides on the chain, and not how they are grouped. -/
theorem attach_appends :
    (∀ c l : Target,
      ((∃ fault, c.attach l = .error (.invalidFilterTarget fault)) ↔ c.isTerminal = true) ∧
      (c.isTerminal = false → ∃ t, c.attach l = .ok t ∧ t.links = c.links ++ l.links ∧
        t.leaf? = l.leaf? ∧ t.isTerminal = l.isTerminal)) ∧
    (∀ c r l : Target, c.isTerminal = false → r.isTerminal = false →
      (do (← c.attach r).attach l) = (do c.attach (← r.attach l))) ∧
    ∀ (before : List Target) (last : Target) (a b : Assembly),
      (∀ p ∈ before, p.isTerminal = false) → a.pieces = before ++ [last] → b.pieces = a.pieces →
      ∃ t, a.build = .ok t ∧ b.build = .ok t ∧
        (do (← a.build).resolve) = (do (← b.build).resolve) ∧
        t.links = before.flatMap Target.links ++ last.links ∧ t.leaf? = last.leaf? := by
  refine ⟨fun c l => ⟨Target.attach_refused, fun opened => ?_⟩, ?_, ?_⟩
  · have appended : c.extend l = l.behind c.links := Target.extend_of_open opened l
    refine ⟨_, Target.attach_of_open opened l, ?_, ?_, Target.isTerminal_extend opened⟩
    · rw [appended, Target.links_behind]
    · rw [appended, Target.leaf?_behind]
  · intro c r l c_open r_open
    have joined : (c.extend r).isTerminal = false := by
      rw [Target.isTerminal_extend c_open, r_open]
    rw [Target.attach_of_open c_open, Target.attach_of_open r_open]
    change (c.extend r).attach l = c.attach (r.extend l)
    rw [Target.attach_of_open joined, Target.attach_of_open c_open, Target.extend_assoc]
  · intro before last a b opened a_pieces same
    have a_built := Assembly.build_of_pieces opened a_pieces
    have b_built := Assembly.build_of_pieces opened (same.trans a_pieces)
    exact ⟨_, a_built, b_built, by rw [a_built, b_built], Target.links_behind _ last,
      Target.leaf?_behind _ last⟩

/-- Two open pieces and a property, in both groupings. -/
theorem attach_appends_grouped :
    let first : Target := .dangling ⟨"writtenBy", none⟩
    let second : Target := .via ⟨"livesIn", some "City"⟩ (.dangling ⟨"partOf", none⟩)
    let last : Target := .property "name"
    let forward : Assembly := .join (.join (.piece first) (.piece second)) (.piece last)
    let backward : Assembly := .join (.piece first) (.join (.piece second) (.piece last))
    (∃ fault, last.attach first = .error (.invalidFilterTarget fault)) ∧
      ∃ t, forward.build = .ok t ∧ backward.build = .ok t ∧
        t.links = [⟨"writtenBy", none⟩, ⟨"livesIn", some "City"⟩, ⟨"partOf", none⟩] ∧
        t.leaf? = some (.property "name") := by
  intro first second last forward backward
  obtain ⟨attached, _, grouped⟩ := attach_appends
  have opened : ∀ p ∈ [first, second], p.isTerminal = false := by decide
  obtain ⟨t, forward_built, backward_built, _, links_eq, leaf_eq⟩ :=
    grouped [first, second] last forward backward opened rfl rfl
  exact ⟨(attached last first).1.mpr rfl, t, forward_built, backward_built, links_eq, leaf_eq⟩

end Filter

end VectorClient
