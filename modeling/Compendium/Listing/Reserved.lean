/-!
# Compendium — reserved parameters

The parameters that every list takes besides its filters. A filter that takes several values has a
companion parameter, its own key followed by `_logic`; so no filter's key may be reserved or end
like a companion's.
-/

namespace Compendium

def reservedParams : List String := ["page", "limit", "sort", "order", "mclist", "mcfilter"]

def companionSuffix : String := "_logic"

/-- The key whose companion a parameter is: what stands before `_logic`. -/
def companionOf? (key : String) : Option String :=
  let cs := key.toList
  let n := cs.length - companionSuffix.length
  if cs.drop n = companionSuffix.toList then some (String.ofList (cs.take n)) else none

def isReserved (key : String) : Bool :=
  reservedParams.contains key || (companionOf? key).isSome

/-- The companion of a key is recognised as its own. -/
theorem companionOf?_append (key : String) : companionOf? (key ++ companionSuffix) = some key := by
  have hlen : companionSuffix.toList.length = companionSuffix.length := rfl
  simp [companionOf?, String.toList_append, ← hlen]

/-- A companion's key is its owner's key and the suffix, in one way. -/
theorem companionOf?_eq_some_iff {key owner : String} :
    companionOf? key = some owner ↔ key = owner ++ companionSuffix := by
  constructor
  · intro h
    unfold companionOf? at h
    simp only at h
    split at h
    · rename_i hdrop
      cases h
      apply String.toList_injective
      rw [String.toList_append, String.toList_ofList, ← hdrop, List.take_append_drop]
    · cases h
  · rintro rfl
    exact companionOf?_append owner

end Compendium
