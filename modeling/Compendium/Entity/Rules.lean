import Compendium.Listing.Declaration

/-!
# Compendium — skills, feats and reference tables

Skills, feats and the benefits of feats are tables of their own, listed column by column. A
reference table is a grid of text. It is listed with the size of the grid: its rows are counted, and
its columns, numbered from 0, are as many as the number after the last one's.
-/

namespace Compendium

open Declaration

namespace Skills

def entity : Entity := ⟨⟨"skills", "sk"⟩, none, "skill_id", "skill_name"⟩

def textColumns : List String :=
  ["skill_description", "skill_check", "skill_action", "skill_try_again_desc", "skill_special",
    "skill_synergy_desc", "untrained_desc"]

def flagColumns : List String :=
  ["trained_only", "skill_armor_check_penalty", "skill_try_again"]

def declaration : Declaration :=
  { Declaration.ofEntity "skills" entity with
    filters :=
      [substringFilter "skill_name", columnFilter "ability_id" .int]
        ++ textColumns.map (columnFilter · .string) ++ flagColumns.map (columnFilter · .boolean)
    sortKeys := ["skill_name", "ability_id", "trained_only"].map columnSort }

end Skills

namespace Feats

def entity : Entity := ⟨⟨"feats", "f"⟩, none, "feat_id", "feat_name"⟩

def textColumns : List String :=
  ["feat_name", "feat_description", "feat_benefit", "feat_normal", "feat_special", "feat_prereq"]

def declaration : Declaration :=
  { Declaration.ofEntity "feats" entity with
    filters :=
      textColumns.map substringFilter
        ++ [columnFilter "feat_type" .string, columnFilter "feat_multi_times" .boolean]
    sortKeys := ["feat_name", "feat_type"].map columnSort }

end Feats

namespace FeatBenefits

def entity : Entity := ⟨⟨"feat_benefit_map", "fbm"⟩, none, "benefit_id", "benefit_id"⟩

def declaration : Declaration :=
  { Declaration.ofEntity "feat_benefits" entity with
    filters :=
      [ columnFilter "feat_id" .int,
        columnFilter "benefit_type" .string,
        columnFilter "benefit_type_id" .int,
        columnFilter "benefit_amount" .int ]
    sortKeys := ["benefit_id", "feat_id"].map columnSort }

end FeatBenefits

namespace ReferenceTables

def entity : Entity := ⟨⟨"reference_tables", "rt"⟩, none, "id", "name"⟩

def rowCount : Summary :=
  ⟨⟨"reference_table_rows", "rtr"⟩, "table_id", "id", .count, "row_count"⟩

def columnCount : Summary :=
  ⟨⟨"reference_table_columns", "rtc"⟩, "table_id", "column_index", .nextIndex, "column_count"⟩

def declaration : Declaration :=
  { Declaration.ofEntity "reference_tables" entity with
    filters := ["name", "slug"].map substringFilter
    sortKeys := ["name", "slug"].map columnSort
    summaries := [rowCount, columnCount]
    defaultLimit := 25 }

end ReferenceTables

end Compendium
