import Compendium.Listing.Declaration

/-!
# Compendium — spells

Spells have the one alternate table. A spell has a level for every class that can cast it, so a
list of a class's spells is driven by the level map, in which a spell has one row per class.
-/

namespace Compendium.Spells

def displayed : FixedCondition := ⟨"display", 1⟩

def edition3E : Int64 := 4
def edition35E : Int64 := 5

/-- Asking for 3E finds 3.5E as well, which revises it. -/
def editionRule : FilterRule := fun column value =>
  match value.toList with
  | [single] =>
    if single = .int edition3E then [.isIn column [.int edition3E, .int edition35E]]
    else [.eq column single]
  | _ => []

def entity : Entity where
  table := ⟨"spells", "sp"⟩
  alternate := some ⟨⟨"spell_level_map", "slm"⟩, "spell_id", [displayed]⟩
  groupColumn := "spell_id"
  defaultSort := "spell_name"

/-- The tags of a junction table, of which a spell may have several. -/
def tag (table : Table) (column lookup : String) (aggregate : Aggregate) : Filter :=
  { Filter.onJunction ⟨table, "spell_id", column, []⟩ with
    takesMany := true
    takesLogic := true
    lookup := some lookup
    aggregate := some aggregate }

def classes : Filter :=
  { Filter.onColumn (.onAlternate "class_id") with
    takesMany := true
    takesLogic := true
    switchesBase := true
    lookup := some "classes"
    aggregate := some ⟨some "spell_level", "class_info"⟩ }.fix [displayed]

def sources : Filter :=
  (tag ⟨"spell_source_map", "ssm_src"⟩ "book_id" "sources"
    ⟨some "page_number", "source_info"⟩).fix [displayed]

def edition : Filter :=
  { Filter.byRule (.onBase "edition_id") editionRule with lookup := some "editions" }

/-- The level in the alternate table is one class's; a spell of several of the classes asked for
goes by its lowest. -/
def levelSort : SortKey :=
  { SortKey.ofColumn "spell_level" (.onBase "spell_level") with
    alternate := some ⟨.onAlternate "spell_level", some .min, some "spell_level"⟩ }

def declaration : Declaration :=
  { Declaration.ofEntity "spells" entity with
    filters :=
      [ ("name", .onSubstring (.onBase "spell_name")),
        ("classId", classes),
        ("spell_level", .onColumn (.onAlternate "spell_level")),
        ("school", tag ⟨"spell_school_map", "ssm"⟩ "school_id" "schools" ⟨none, "school_ids"⟩),
        ("subschool",
          tag ⟨"spell_subschool_map", "ssubm"⟩ "sub_id" "subschools" ⟨none, "subschool_ids"⟩),
        ("descriptors",
          tag ⟨"spell_descriptor_map", "sdm"⟩ "desc_id" "descriptors" ⟨none, "desc_ids"⟩),
        ("components",
          tag ⟨"spell_component_map", "scm"⟩ "comp_id" "components" ⟨none, "component_ids"⟩),
        ("source", sources),
        ("edition_id", edition) ]
    sortKeys :=
      [ .ofColumn "spell_name" (.onBase "spell_name"),
        levelSort,
        .ofColumn "classId" (.onAlternate "class_id") ] }

end Compendium.Spells
