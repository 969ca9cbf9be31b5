import Mathlib.Logic.Relation
import VectorClient.Proofs.KeyMap
import VectorClient.Proofs.Reply.Metadata

/-!
# Objects of a reply

A reply is read iff each of its objects can be, and each object that they refer to at any depth. No
object is lost, doubled or moved: those under a name are what all links of that name list, in order.
-/

namespace VectorClient

open Wire

/-! ### Objects and those that they refer to -/

namespace Wire

/-- The object of a result, whose metadata stands beside its properties. -/
def SearchResult.root (r : SearchResult) : PropertiesResult :=
  { r.properties.getD {} with metadata := r.metadata }

namespace PropertiesResult

def Refers (p q : PropertiesResult) : Prop := ∃ link ∈ p.refProps, q ∈ link.properties

structure Readable (p : PropertiesResult) : Prop where
  metadata : ∃ m, p.metadata = some m ∧ m.Readable
  properties : ∀ fields, p.nonRefProps = some fields → ∀ f ∈ fields, f.2.Readable

theorem sizeOf_refers {p q : PropertiesResult} (refers : p.Refers q) : sizeOf q < sizeOf p := by
  obtain ⟨link, listed, member⟩ := refers
  have inside_link := List.sizeOf_lt_of_mem member
  have inside_links := List.sizeOf_lt_of_mem listed
  cases p
  cases link
  simp only [mk.sizeOf_spec, RefPropertiesResult.mk.sizeOf_spec] at inside_link inside_links ⊢
  omega

theorem inductionOnRefers {P : PropertiesResult → Prop}
    (step : ∀ p : PropertiesResult, (∀ q, p.Refers q → P q) → P p) (p : PropertiesResult) :
    P p := by
  refine step p fun q refers => ?_
  have smaller := sizeOf_refers refers
  exact inductionOnRefers step q
termination_by sizeOf p

end PropertiesResult

/-- The objects that links list under a name, in the order of the reply. -/
def linked (name : String) (links : List RefPropertiesResult) : List PropertiesResult :=
  (links.filter (·.propName = name)).flatMap (·.properties)

end Wire

/-- The object stands for a message: the names of its references are those of the links, and under
each are objects that stand for those that the links list under it. -/
inductive Reads : Option String → PropertiesResult → Object → Prop
  | intro {searched : Option String} {p : PropertiesResult} {o : Object}
      (identity : Identity.ofWire p.metadata = .ok ⟨o.uuid, o.vectors, o.metadata⟩)
      (collection : o.collection = namedCollection searched p.targetCollection)
      (properties : readProperties p.nonRefProps = .ok o.properties)
      (absent : o.references = none ↔ p.refProps = [] ∧ p.refPropsRequested = false)
      (ordered : ∀ found, o.references = some found → KeyMap.Ordered found)
      (names : ∀ found, o.references = some found → ∀ name,
        name ∈ KeyMap.keys found ↔ ∃ link ∈ p.refProps, link.propName = name)
      (objects : ∀ found, o.references = some found → ∀ name objects,
        KeyMap.find? name found = some objects →
          List.Forall₂ (Reads none) (linked name p.refProps) objects) :
      Reads searched p o

/-- An object from a message that holds its metadata. -/
def Object.ofProperties (searched : Option String) (p : PropertiesResult) :
    Except Error Object := do
  let identity ← Identity.ofWire p.metadata
  objectOfWire identity searched p

theorem Object.ofWire_eq_root (collection : String) (r : SearchResult) :
    Object.ofWire collection r = Object.ofProperties (some collection) r.root := by
  rw [Object.ofWire, Object.ofProperties, SearchResult.root]
  cases r.properties.getD {}
  simp only [objectOfWire]

theorem referencedObjects_eq_mapM (ps : List PropertiesResult) :
    referencedObjects ps = ps.mapM (Object.ofProperties none) := by
  induction ps with
  | nil => rfl
  | cons p rest ih =>
    rw [referencedObjects, ih, List.mapM_cons, Object.ofProperties]
    cases Identity.ofWire p.metadata <;> rfl

/-! ### Collecting links -/

structure Collected (R : PropertiesResult → Object → Prop) (links : List RefPropertiesResult)
    (found : KeyMap (List Object)) : Prop where
  ordered : found.Ordered
  names : ∀ name, name ∈ found.keys ↔ ∃ link ∈ links, link.propName = name
  objects : ∀ name objects, found.find? name = some objects →
    List.Forall₂ R (linked name links) objects

section Links

variable {R : PropertiesResult → Object → Prop} {links : List RefPropertiesResult}
  {found : KeyMap (List Object)}

theorem linked_append (name : String) (links more : List RefPropertiesResult) :
    linked name (links ++ more) = linked name links ++ linked name more := by
  rw [linked, List.filter_append, List.flatMap_append]
  rfl

theorem linked_singleton (name : String) (link : RefPropertiesResult) :
    linked name [link] = if name = link.propName then link.properties else [] := by
  by_cases here : name = link.propName
  · simp [linked, here]
  · simp [linked, here, Ne.symm here]

theorem linked_eq_nil {name : String} (unnamed : ¬ ∃ link ∈ links, link.propName = name) :
    linked name links = [] := by
  have none : links.filter (·.propName = name) = [] := by
    refine List.filter_eq_nil_iff.mpr fun link member same => ?_
    exact unnamed ⟨link, member, of_decide_eq_true same⟩
  rw [linked, none, List.flatMap_nil]

theorem Collected.nil : Collected R [] [] where
  ordered := List.Pairwise.nil
  names := by simp [KeyMap.keys]
  objects := nofun

/-- Names that no link has have no objects. -/
theorem Collected.under (collected : Collected R links found) (name : String) :
    List.Forall₂ R (linked name links)
      ((found.find? name).getD []) := by
  cases at_name : found.find? name with
  | some objects => exact collected.objects name objects at_name
  | none =>
    have unlisted : name ∉ found.keys := by
      rw [← KeyMap.contains_iff, KeyMap.contains, at_name]
      exact Bool.false_ne_true
    rw [linked_eq_nil fun named => unlisted ((collected.names name).mpr named)]
    exact .nil

theorem Collected.add {link : RefPropertiesResult} {objects : List Object}
    (collected : Collected R links found)
    (read : List.Forall₂ R link.properties objects) :
    Collected R (links ++ [link]) (addReference link.propName objects found) where
  ordered := collected.ordered.insert
  names := by
    intro name
    rw [addReference, KeyMap.mem_keys_insert, collected.names]
    constructor
    · rintro (rfl | ⟨earlier, member, same⟩)
      · exact ⟨link, List.mem_concat_self, rfl⟩
      · exact ⟨earlier, List.mem_append_left _ member, same⟩
    · rintro ⟨other, member, same⟩
      obtain earlier | last := List.mem_append.mp member
      · exact .inr ⟨other, earlier, same⟩
      · obtain rfl := List.mem_singleton.mp last
        exact .inl same.symm
  objects := by
    intro name all at_name
    rw [addReference, KeyMap.find?_insert] at at_name
    rw [linked_append, linked_singleton]
    split at at_name
    · rename_i here
      subst here
      obtain rfl := Option.some.inj at_name
      -- A name that is new starts from no objects, as `under` has it.
      rw [if_pos rfl]
      exact List.rel_append (collected.under _) read
    · rename_i elsewhere
      rw [if_neg elsewhere, List.append_nil]
      exact collected.objects name all at_name

theorem Collected.mono {S : PropertiesResult → Object → Prop} (collected : Collected R links found)
    (weaker : ∀ link ∈ links, ∀ q ∈ link.properties, ∀ o, R q o → S q o) :
    Collected S links found where
  ordered := collected.ordered
  names := collected.names
  objects := by
    intro name objects at_name
    obtain ⟨lengths, each⟩ := List.forall₂_iff_zip.mp (collected.objects name objects at_name)
    refine List.forall₂_iff_zip.mpr ⟨lengths, fun {q o} paired => ?_⟩
    obtain ⟨link, kept, member⟩ := List.mem_flatMap.mp (List.of_mem_zip paired).1
    exact weaker link (List.mem_of_mem_filter kept) q member o (each paired)

theorem referencesOfWire_collected {more : List RefPropertiesResult} {final : KeyMap (List Object)}
    (collected : Collected (fun q o => Object.ofProperties none q = .ok o) links found)
    (read : referencesOfWire found more = .ok final) :
    Collected (fun q o => Object.ofProperties none q = .ok o) (links ++ more) final := by
  induction more generalizing links found with
  | nil =>
    obtain rfl := Except.ok.inj read
    rwa [List.append_nil]
  | cons link rest ih =>
    obtain ⟨properties, name⟩ := link
    obtain ⟨objects, listed, later⟩ := bind_ok.mp read
    rw [referencedObjects_eq_mapM, mapM_ok_iff] at listed
    -- The links that are done grow from behind, so that the invariant moves past this one.
    rw [List.append_cons]
    exact ih (collected.add listed) later

theorem presentReferences_eq_none {requested : Bool} :
    presentReferences requested links found = none ↔ links = [] ∧ requested = false := by
  cases links <;> cases requested <;> simp [presentReferences, whenPresent]

theorem Collected.present {requested : Bool} {shown : KeyMap (List Object)}
    (collected : Collected R links found)
    (present : presentReferences requested links found = some shown) :
    Collected R links shown := by
  cases links with
  | nil =>
    cases requested with
    | false => cases present
    | true =>
      obtain rfl := Option.some.inj present
      exact .nil
  | cons link rest =>
    obtain rfl := Option.some.inj present
    exact collected

theorem referencesOfWire_accepts :
    (∃ final, referencesOfWire found links = .ok final) ↔
      ∀ link ∈ links, ∀ q ∈ link.properties, ∃ o, Object.ofProperties none q = .ok o := by
  induction links generalizing found with
  | nil => exact ⟨fun _ => nofun, fun _ => ⟨found, rfl⟩⟩
  | cons link rest ih =>
    obtain ⟨properties, name⟩ := link
    simp only [referencesOfWire, bind_accepts, ih, exists_and_right, referencedObjects_eq_mapM,
      mapM_accepts, List.forall_mem_cons]

end Links

/-! ### Reading objects -/

theorem readProperties_accepts {given : Option Wire.Properties} :
    (∃ properties, readProperties given = .ok properties) ↔
      ∀ fields, given = some fields → ∀ f ∈ fields, f.2.Readable := by
  cases given with
  | none => exact ⟨fun _ => nofun, fun _ => ⟨[], rfl⟩⟩
  | some fields =>
    simp only [readProperties, propertiesOfWire_accepts, Property.ofWire_accepts, Option.some.injEq,
      forall_eq']

namespace Object

variable {searched : Option String} {p : PropertiesResult}

theorem ofProperties_ok {o : Object} (read : Object.ofProperties searched p = .ok o) :
    ∃ identity found properties, Identity.ofWire p.metadata = .ok identity ∧
      referencesOfWire [] p.refProps = .ok found ∧
      readProperties p.nonRefProps = .ok properties ∧ o = {
        uuid := identity.uuid
        collection := namedCollection searched p.targetCollection
        properties
        references := presentReferences p.refPropsRequested p.refProps found
        metadata := identity.metadata
        vectors := identity.vectors } := by
  obtain ⟨identity, known, read⟩ := bind_ok.mp read
  cases p
  obtain ⟨found, collected, read⟩ := bind_ok.mp read
  obtain ⟨properties, held, read⟩ := bind_ok.mp read
  exact ⟨identity, found, properties, known, collected, held, (pure_ok read).symm⟩

theorem ofProperties_accepts_of_refers :
    (∃ o, Object.ofProperties searched p = .ok o) ↔
      p.Readable ∧ ∀ q, p.Refers q → ∃ o, Object.ofProperties none q = .ok o := by
  obtain ⟨links, target, metadata, given, requested⟩ := p
  simp only [Object.ofProperties, objectOfWire, bind_accepts, pure_accepts, and_true,
    exists_and_right, Identity.ofWire_accepts, referencesOfWire_accepts, readProperties_accepts]
  constructor
  · rintro ⟨known, inside, properties⟩
    exact ⟨⟨known, properties⟩, fun q ⟨link, listed, member⟩ => inside link listed q member⟩
  · rintro ⟨⟨known, properties⟩, inside⟩
    exact ⟨known, fun link listed q member => inside q ⟨link, listed, member⟩, properties⟩

/-- An object is read iff it and all objects that it refers to, at any depth, can be. -/
theorem ofProperties_accepts (searched : Option String) (p : PropertiesResult) :
    (∃ o, Object.ofProperties searched p = .ok o) ↔
      ∀ q, Relation.ReflTransGen PropertiesResult.Refers p q → q.Readable := by
  induction p using PropertiesResult.inductionOnRefers generalizing searched with
  | step p ih =>
    rw [ofProperties_accepts_of_refers]
    constructor
    · rintro ⟨readable, inside⟩ q reachable
      obtain rfl | ⟨next, refers, further⟩ := reachable.cases_head
      · exact readable
      · exact (ih next refers none).mp (inside next refers) q further
    · intro all
      refine ⟨all p .refl, fun q refers => (ih q refers none).mpr fun r further => ?_⟩
      exact all r (.head refers further)

theorem reads_of_ofProperties {o : Object} (read : Object.ofProperties searched p = .ok o) :
    Reads searched p o := by
  induction p using PropertiesResult.inductionOnRefers generalizing searched o with
  | step p ih =>
    obtain ⟨identity, found, properties, known, collected, held, rfl⟩ := ofProperties_ok read
    have all := (referencesOfWire_collected .nil collected).mono
      fun link listed q member o read => ih q ⟨link, listed, member⟩ read
    exact .intro known rfl held presentReferences_eq_none
      (fun shown present => (all.present present).ordered)
      (fun shown present => (all.present present).names)
      (fun shown present => (all.present present).objects)

end Object

/-- A reply is read iff all objects in it can be, and then one by one, with what they refer to. -/
theorem Wire.SearchReply.objects_exact (collection : String) (reply : SearchReply) :
    ((∃ objects, reply.objects collection = .ok objects) ↔
      ∀ r ∈ reply.results, ∀ q,
        Relation.ReflTransGen PropertiesResult.Refers r.root q → q.Readable) ∧
      ∀ objects, reply.objects collection = .ok objects →
        List.Forall₂ (fun r o => Reads (some collection) r.root o) reply.results objects := by
  have each : ∀ r, Object.ofWire collection r = Object.ofProperties (some collection) r.root :=
    Object.ofWire_eq_root collection
  constructor
  · simp only [SearchReply.objects, mapM_accepts, each, Object.ofProperties_accepts]
  · intro objects read
    refine (mapM_ok_iff.mp read).imp fun r o single => ?_
    rw [each] at single
    exact Object.reads_of_ofProperties single

/-- Two links of one name around another are one reference, and an object without an id fails the
reply from within a link. -/
theorem Wire.SearchReply.objects_exact_links_of_one_name :
    let metadata (n : Nat) : Option MetadataResult :=
      some { idAsBytes := (Uuid.ofNat n).octets }
    let node (n : Nat) (links : List RefPropertiesResult) : PropertiesResult :=
      { refProps := links, metadata := metadata n }
    let root := node 1
      [⟨[node 2 []], "cites"⟩, ⟨[node 3 []], "author"⟩, ⟨[node 4 []], "cites"⟩]
    let reply : SearchReply := { results := [⟨some root, metadata 1⟩] }
    let unnamed : SearchReply :=
      { results := [⟨some (node 1 [⟨[{}], "cites"⟩]), metadata 1⟩] }
    (∃ o, reply.objects "Article" = .ok [o] ∧ Reads (some "Article") root o ∧
      o.references.map (List.map fun entry => (entry.1, entry.2.map Object.uuid)) =
        some [("author", [.ofNat 3]), ("cites", [.ofNat 2, .ofNat 4])]) ∧
      ¬ ∃ objects, unnamed.objects "Article" = .ok objects := by
  intro metadata node root reply unnamed
  constructor
  · obtain ⟨o, read⟩ : ∃ o, reply.objects "Article" = .ok [o] := ⟨_, rfl⟩
    have each := (reply.objects_exact "Article").2 [o] read
    obtain ⟨whole, _⟩ := List.forall₂_cons.mp each
    refine ⟨o, read, whole, ?_⟩
    obtain rfl := List.head_eq_of_cons_eq (Except.ok.inj read)
    rfl
  · intro accepted
    have refers : (node 1 [⟨[{}], "cites"⟩]).Refers {} :=
      ⟨⟨[{}], "cites"⟩, List.mem_singleton_self _, List.mem_singleton_self _⟩
    have readable := (unnamed.objects_exact "Article").1.mp accepted _
      (List.mem_singleton_self _) {} (.single refers)
    obtain ⟨m, missing, _⟩ := readable.metadata
    cases missing

end VectorClient
