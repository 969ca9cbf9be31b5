import VectorClient.Search.Request

/-!
# Grouping and generation

Both are added to a request that is already built and leave its other parts alone.
-/

namespace VectorClient.Search

/-- Whether one of the eleven search fields is set. -/
def isSearch (r : Wire.SearchRequest) : Bool :=
  r.hybridSearch.isSome || r.bm25Search.isSome || r.nearVector.isSome || r.nearObject.isSome ||
    r.nearText.isSome || r.nearImage.isSome || r.nearAudio.isSome || r.nearVideo.isSome ||
    r.nearDepth.isSome || r.nearThermal.isSome || r.nearImu.isSome

/-- The product, or the greatest number of 32 bits if it is greater. -/
def saturatingMul (a b : UInt32) : UInt32 := UInt32.ofNat (min (a.toNat * b.toNat) (UInt32.size - 1))

def groupCount (name : String) (n : UInt32) : Except Error Int32 :=
  match toInt32? n with
  | some n => .ok n
  | none => invalid (.countTooLarge name)

/-- Without a limit the request gets room for all groups, and with one it must have it. -/
def groupLimit (limit : UInt32) (g : GroupByOptions) : Except Error UInt32 :=
  if limit = 0 then .ok (saturatingMul g.numberOfGroups g.objectsPerGroup)
  else if limit < g.numberOfGroups then invalid (.limitBelowGroups limit g.numberOfGroups)
  else .ok limit

def withGroupBy (r : Wire.SearchRequest) (g : GroupByOptions) :
    Except Error Wire.SearchRequest := do
  refuse (!isSearch r) .groupedFetch
  refuse r.groupBy.isSome .alreadyGrouped
  refuse (Text.isBlank g.property) .blankGroupProperty
  refuse (g.numberOfGroups = 0 || g.objectsPerGroup = 0) .emptyGroups
  let groups ← groupCount "number_of_groups" g.numberOfGroups
  let objects ← groupCount "objects_per_group" g.objectsPerGroup
  let limit ← groupLimit r.limit g
  return { r with limit, groupBy := some ⟨[g.property], groups, objects⟩ }

/-- A prompt that is not blank. -/
def usablePrompt (prompt : Option String) : Option String := prompt.filter fun p => !Text.isBlank p

def withGenerative (r : Wire.SearchRequest) (g : GenerativeOptions) :
    Except Error Wire.SearchRequest := do
  let single := usablePrompt g.singlePrompt
  let grouped := usablePrompt g.groupedTask
  refuse (single.isNone && grouped.isNone) .noPrompt
  refuse (grouped.isNone && !g.groupedProperties.isEmpty) .noGroupedTask
  return { r with
    generative := some ⟨single.getD "", grouped.getD "", g.groupedProperties⟩ }

end VectorClient.Search
