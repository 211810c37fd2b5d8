import Compendium.Listing.Declaration

/-!
# Compendium — classes, races and racial traits
-/

namespace Compendium

open Declaration

namespace Classes

def entity : Entity := ⟨⟨"classes", "c"⟩, none, "class_id", "class_name"⟩

/-- The books that a class is in. -/
def sources : Filter :=
  { Filter.onJunction ⟨⟨"class_source_map", "csm"⟩, "class_id", "book_id", []⟩ with
    takesMany := true
    takesLogic := true
    lookup := some "sources" }

def declaration : Declaration :=
  { Declaration.ofEntity "classes" entity with
    filters :=
      [ columnFilter "class_name" .string,
        columnFilter "class_abbr" .string,
        manyFilter "edition_id",
        columnFilter "is_prestige_class" .boolean,
        columnFilter "display" .boolean,
        columnFilter "caster" .boolean,
        manyFilter "hit_die",
        ("source", sources) ]
    sortKeys :=
      ["class_name", "class_abbr", "edition_id", "is_prestige_class", "display", "caster",
        "hit_die"].map columnSort }

end Classes

namespace Races

def entity : Entity := ⟨⟨"races", "r"⟩, none, "race_id", "race_name"⟩

def editions : Filter :=
  { (manyFilter "edition_id").2 with aggregate := some ⟨none, "edition_ids"⟩ }

def favoredClass : Filter :=
  { Filter.onColumn (.onBase "favored_class_id") with lookup := some "classes" }

def declaration : Declaration :=
  { Declaration.ofEntity "races" entity with
    filters :=
      [ substringFilter "race_name",
        ("edition_id", editions),
        columnFilter "display" .boolean,
        columnFilter "size_id" .int,
        columnFilter "race_speed" .int,
        ("favored_class_id", favoredClass) ]
    sortKeys := ["race_name", "edition_id", "race_speed"].map columnSort }

end Races

namespace RaceTraits

def entity : Entity := ⟨⟨"race_traits", "rt"⟩, none, "trait_slug", "trait_slug"⟩

def declaration : Declaration :=
  { Declaration.ofEntity "race_traits" entity with
    filters := ["trait_name", "trait_slug", "trait_description"].map substringFilter
    sortKeys := ["trait_slug", "trait_name"].map columnSort }

end RaceTraits

end Compendium
