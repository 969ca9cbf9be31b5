import VectorClient.Proofs.Search.Request

/-!
# Kinds of search

A request is the part that all kinds of search share and the one field of its kind. So a request
whose search field is cleared says nothing any more about the kind that it was built for.
-/

namespace VectorClient

namespace Search

/-! ### Search fields -/

inductive SearchField
  | hybrid
  | keywords
  | nearVector
  | nearObject
  | nearText
  | media (m : Media)
deriving DecidableEq, Repr

namespace SearchField

def all : List SearchField :=
  [.hybrid, .keywords, .nearVector, .nearObject, .nearText, .media .image, .media .audio,
    .media .video, .media .depth, .media .thermal, .media .imu]

def isSet (r : Wire.SearchRequest) : SearchField → Bool
  | .hybrid => r.hybridSearch.isSome
  | .keywords => r.bm25Search.isSome
  | .nearVector => r.nearVector.isSome
  | .nearObject => r.nearObject.isSome
  | .nearText => r.nearText.isSome
  | .media .image => r.nearImage.isSome
  | .media .audio => r.nearAudio.isSome
  | .media .video => r.nearVideo.isSome
  | .media .depth => r.nearDepth.isSome
  | .media .thermal => r.nearThermal.isSome
  | .media .imu => r.nearImu.isSome

def clear (r : Wire.SearchRequest) : SearchField → Wire.SearchRequest
  | .hybrid => { r with hybridSearch := none }
  | .keywords => { r with bm25Search := none }
  | .nearVector => { r with nearVector := none }
  | .nearObject => { r with nearObject := none }
  | .nearText => { r with nearText := none }
  | .media .image => { r with nearImage := none }
  | .media .audio => { r with nearAudio := none }
  | .media .video => { r with nearVideo := none }
  | .media .depth => { r with nearDepth := none }
  | .media .thermal => { r with nearThermal := none }
  | .media .imu => { r with nearImu := none }

theorem mem_all (f : SearchField) : f ∈ all := by
  cases f with
  | media m => cases m <;> decide
  | _ => decide

end SearchField

def fieldsSet (r : Wire.SearchRequest) : List SearchField := SearchField.all.filter (·.isSet r)

theorem mem_fieldsSet {r : Wire.SearchRequest} {f : SearchField} :
    f ∈ fieldsSet r ↔ f.isSet r = true := by
  simp [fieldsSet, SearchField.mem_all]

theorem isSearch_iff {r : Wire.SearchRequest} : isSearch r = true ↔ ∃ f, f ∈ fieldsSet r := by
  have any : isSearch r = SearchField.all.any (·.isSet r) := by
    simp [isSearch, SearchField.all, SearchField.isSet, Bool.or_assoc]
  simp [any, mem_fieldsSet, SearchField.mem_all]

/-- A request without the field of its kind, or without cursor and order if it has none. -/
def cleared (r : Wire.SearchRequest) : Option SearchField → Wire.SearchRequest
  | some f => f.clear r
  | none => { r with after := "", sortBy := [] }

def common : Search → CommonOptions
  | .fetch options => options.common
  | .keywords _ options => options.common
  | .hybrid _ options => options.common
  | .nearObject _ options => options.common
  | .nearVector _ options => options.common
  | .nearText _ options => options.near.common
  | .nearMedia _ _ options => options.common

/-- The field of the kind; a fetch has none. -/
def field? : Search → Option SearchField
  | .fetch _ => none
  | .keywords _ _ => some .keywords
  | .hybrid _ _ => some .hybrid
  | .nearObject _ _ => some .nearObject
  | .nearVector _ _ => some .nearVector
  | .nearText _ _ => some .nearText
  | .nearMedia media _ _ => some (.media media)

namespace RequestBuilder

variable {b : RequestBuilder}

/-- One kind of search: its field is set and no other, and the rest is the shared part. -/
theorem request_ok {files : String → Option (List UInt8)} {s : Search} {r : Wire.SearchRequest}
    (built : b.request files s = .ok r) :
    ∃ filters, Filter.serialize? s.common.filter = .ok filters ∧
      fieldsSet r = s.field?.toList ∧ cleared r s.field? = b.shared s.common filters := by
  cases s with
  | fetch options =>
    obtain ⟨filters, serialized, rfl⟩ := fetch_ok built
    exact ⟨filters, serialized, rfl, rfl⟩
  | keywords query options =>
    obtain ⟨filters, operator, serialized, _, rfl⟩ := keywords_ok built
    exact ⟨filters, serialized, rfl, rfl⟩
  | hybrid query options =>
    obtain ⟨filters, t, operator, message, serialized, _, _, _, rfl⟩ := hybrid_ok built
    exact ⟨filters, serialized, rfl, rfl⟩
  | nearObject id options =>
    obtain ⟨filters, t, serialized, _, _, rfl⟩ := nearObject_ok built
    exact ⟨filters, serialized, rfl, rfl⟩
  | nearVector input options =>
    obtain ⟨filters, message, serialized, _, rfl⟩ := nearVector_ok built
    exact ⟨filters, serialized, rfl, rfl⟩
  | nearText query options =>
    obtain ⟨filters, t, towards, away, serialized, _, _, _, _, _, rfl⟩ := nearText_ok built
    exact ⟨filters, serialized, rfl, rfl⟩
  | nearMedia media source options =>
    obtain ⟨content, _, built⟩ := bind_ok.mp built
    obtain ⟨filters, t, serialized, _, _, rfl⟩ := nearMedia_ok built
    refine ⟨filters, serialized, ?_, ?_⟩
    · cases media <;> rfl
    · cases media <;> rfl

theorem isSome_of_serialize? {filter : Option Filter} {filters : Option Wire.Filters}
    (serialized : Filter.serialize? filter = .ok filters) : filters.isSome = filter.isSome := by
  cases filter with
  | none =>
    obtain rfl := Except.ok.inj serialized
    rfl
  | some f =>
    obtain ⟨w, _, rfl⟩ := map_ok.mp serialized
    rfl

/-- The searches with the same common options fail together on filters that cannot be sent.
Otherwise those that give a request set the field of their kind alone, and without it they all give
one request. -/
theorem request_frame (b : RequestBuilder) (o : CommonOptions) :
    (∀ e, Filter.serialize? o.filter = .error e →
      ∀ files s, s.common = o → ∃ e, b.request files s = .error e) ∧
    ∀ filters, Filter.serialize? o.filter = .ok filters → ∃ plain : Wire.SearchRequest,
      plain.collection = b.context.name ∧ plain.tenant = b.context.tenant.getD "" ∧
      plain.consistencyLevel = b.context.consistencyLevel.map ConsistencyLevel.number ∧
      plain.filters = filters ∧ plain.filters.isSome = o.filter.isSome ∧ fieldsSet plain = [] ∧
      ∀ files s r, s.common = o → b.request files s = .ok r →
        fieldsSet r = s.field?.toList ∧ cleared r s.field? = plain := by
  refine ⟨?_, ?_⟩
  · rintro e unserialized files s rfl
    cases built : b.request files s with
    | error e => exact ⟨e, rfl⟩
    | ok r =>
      obtain ⟨filters, serialized, _⟩ := request_ok built
      cases unserialized.symm.trans serialized
  · intro filters serialized
    refine ⟨b.shared o filters, rfl, rfl, rfl, rfl, isSome_of_serialize? serialized, rfl, ?_⟩
    rintro files s r rfl built
    obtain ⟨found, found_serialized, set, rest⟩ := request_ok built
    obtain rfl := Except.ok.inj (serialized.symm.trans found_serialized)
    exact ⟨set, rest⟩

/-- A fetch in an order of its own and a search near audio, both filtered for one tenant. -/
theorem request_frame_fetch_and_audio :
    let b : RequestBuilder :=
      ⟨{ name := "Article", tenant := some "a", consistencyLevel := some .quorum }, .latest⟩
    let titled : Filter := .compare .equal (.property "title") (.text "shoes")
    let o : CommonOptions := { filter := some titled, limit := some 3 }
    let fetch : Search := .fetch { sort := [⟨"title", true⟩], common := o }
    let near : Search := .nearMedia .audio (.file "shoes.mp3") { common := o }
    let files (path : String) : Option (List UInt8) :=
      if path = "shoes.mp3" then some [1, 2] else none
    ∃ fetched heard, b.request files fetch = .ok fetched ∧ b.request files near = .ok heard ∧
      fieldsSet fetched = [] ∧ fieldsSet heard = [.media .audio] ∧
      cleared fetched none = cleared heard (some (.media .audio)) := by
  intro b titled o fetch near files
  have built : ∃ filters fetched heard, Filter.serialize? o.filter = .ok filters ∧
      b.request files fetch = .ok fetched ∧ b.request files near = .ok heard :=
    ⟨_, _, _, rfl, rfl, rfl⟩
  obtain ⟨filters, fetched, heard, serialized, fetched_ok, heard_ok⟩ := built
  obtain ⟨plain, _, _, _, _, _, _, each⟩ := (b.request_frame o).2 filters serialized
  obtain ⟨none_set, fetched_rest⟩ := each files fetch fetched rfl fetched_ok
  obtain ⟨audio_set, heard_rest⟩ := each files near heard rfl heard_ok
  exact ⟨fetched, heard, fetched_ok, heard_ok, none_set, audio_set,
    fetched_rest.trans heard_rest.symm⟩

end RequestBuilder

end Search

end VectorClient
