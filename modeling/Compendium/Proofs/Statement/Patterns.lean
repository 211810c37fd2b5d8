import Mathlib.Data.List.Infix
import Compendium.Proofs.Listing.Accepted
import Compendium.Proofs.Relational.Quantifiers
import Compendium.Proofs.Statement.Blocks

/-!
# Compendium — searching by pattern

A search puts the text it is given between two signs that stand for anything, so that the database
finds the texts that contain it. The text shares its alphabet with the signs: a `%` or a `_` in it
is a sign as well, and stands for any text or for any character.

* `like` is how a database reads a pattern.
* `like_containsPattern_iff` says what the pattern of a text finds, signs included.
* `findsText_containsPattern_iff` tells the texts that are searched for as they stand.
* `searches_find_texts_without_signs` follows a request down to the pattern.
* `an_underscore_is_found_where_none_is` is a search for a sign.
-/

namespace Compendium

/-! ## Patterns -/

/-- Whether a text is like a pattern. A `%` stands for any text, a `_` for any character, and every
other character for itself, as far as the folding tells characters apart. Nothing turns a sign into
the character that it is. -/
def like (fold : Char → Char) : List Char → List Char → Bool
  | [], text => text.isEmpty
  | sign :: pattern, text =>
    if sign = '%' then text.tails.any (like fold pattern)
    else match text with
      | [] => false
      | c :: rest => (sign = '_' || fold sign = fold c) && like fold pattern rest

/-- None of the characters is a sign of a pattern. -/
def IsPlain (text : List Char) : Prop := '%' ∉ text ∧ '_' ∉ text

/-- The pattern finds the texts in which the text occurs. -/
def FindsText (fold : Char → Char) (pattern text : String) : Prop :=
  ∀ s, like fold pattern.toList s ↔ text.toList.map fold <:+: s.map fold

variable {fold : Char → Char}

@[simp] theorem like_nil_iff {s : List Char} : like fold [] s ↔ s = [] := by
  simp [like]

/-- A `%` takes as much as it likes and leaves the rest. -/
theorem like_percent_iff {pattern s : List Char} :
    like fold ('%' :: pattern) s ↔ ∃ a b, s = a ++ b ∧ like fold pattern b := by
  rw [like.eq_def]
  simp only [if_true, List.any_eq_true]
  constructor
  · rintro ⟨b, hb, hlike⟩
    obtain ⟨a, rfl⟩ := (List.mem_tails b s).1 hb
    exact ⟨a, b, rfl, hlike⟩
  · rintro ⟨a, b, rfl, hlike⟩
    exact ⟨b, (List.mem_tails b _).2 (List.suffix_append a b), hlike⟩

/-- Any other sign takes one character. -/
theorem like_cons_iff {sign : Char} (hsign : sign ≠ '%') {pattern s : List Char} :
    like fold (sign :: pattern) s ↔
      ∃ c rest, s = c :: rest ∧ (sign = '_' ∨ fold sign = fold c) ∧ like fold pattern rest := by
  rw [like.eq_def]
  rcases s with _ | ⟨c, rest⟩ <;> simp [hsign]

/-- A text is like two patterns in a row if it comes in two parts that are. -/
theorem like_append_iff {pattern pattern' s : List Char} :
    like fold (pattern ++ pattern') s ↔
      ∃ a b, s = a ++ b ∧ like fold pattern a ∧ like fold pattern' b := by
  -- a `%` in front gives up a part, any other sign one character; the parts are put together anew
  induction pattern generalizing s with
  | nil => simp
  | cons sign pattern ih =>
    rw [List.cons_append]
    by_cases hsign : sign = '%'
    · subst hsign
      simp only [like_percent_iff, ih]
      constructor
      · rintro ⟨a, -, rfl, b, c, rfl, hb, hc⟩
        exact ⟨a ++ b, c, (List.append_assoc a b c).symm, ⟨a, b, rfl, hb⟩, hc⟩
      · rintro ⟨-, c, rfl, ⟨a, b, rfl, hb⟩, hc⟩
        exact ⟨a, b ++ c, List.append_assoc a b c, b, c, rfl, hb, hc⟩
    · simp only [like_cons_iff hsign, ih]
      constructor
      · rintro ⟨c, -, rfl, hc, a, b, rfl, ha, hb⟩
        exact ⟨c :: a, b, rfl, ⟨c, a, rfl, hc, ha⟩, hb⟩
      · rintro ⟨-, b, rfl, ⟨c, a, rfl, hc, ha⟩, hb⟩
        exact ⟨c, a ++ b, rfl, hc, a, b, rfl, ha, hb⟩

/-- A pattern without signs is like itself only, up to folding. -/
theorem like_iff_of_isPlain {text s : List Char} (hplain : IsPlain text) :
    like fold text s ↔ text.map fold = s.map fold := by
  induction text generalizing s with
  | nil => rw [like_nil_iff, List.map_nil, List.nil_eq, List.map_eq_nil_iff]
  | cons c text ih =>
    obtain ⟨hpercent, hunderscore⟩ := hplain
    rw [List.mem_cons, not_or] at hpercent hunderscore
    rw [like_cons_iff (Ne.symm hpercent.1), List.map_cons]
    simp only [ih ⟨hpercent.2, hunderscore.2⟩, Ne.symm hunderscore.1, false_or]
    constructor
    · rintro ⟨d, rest, rfl, hfold, hrest⟩
      rw [List.map_cons, hfold, hrest]
    · intro h
      obtain ⟨d, rest, rfl, hfold, hrest⟩ := List.map_eq_cons_iff.1 h.symm
      exact ⟨d, rest, rfl, hfold.symm, hrest.symm⟩

/-! ## The pattern of a text -/

/-- The text goes into the pattern as it is. -/
theorem toList_containsPattern (text : String) :
    (containsPattern text).toList = '%' :: (text.toList ++ ['%']) := by
  simp [containsPattern]

/-- A `%` alone is like every text. -/
theorem like_percent {s : List Char} : like fold ['%'] s :=
  like_percent_iff.2 ⟨s, [], (List.append_nil s).symm, like_nil_iff.2 rfl⟩

/-- What is found is a part of a text that is like the text searched for, which is a pattern. -/
theorem like_containsPattern_iff {text : String} {s : List Char} :
    like fold (containsPattern text).toList s
      ↔ ∃ part, part <:+: s ∧ like fold text.toList part := by
  rw [toList_containsPattern, like_percent_iff]
  simp only [like_append_iff, like_percent, and_true]
  constructor
  · rintro ⟨a, -, rfl, part, b, rfl, hpart⟩
    exact ⟨part, ⟨a, b, List.append_assoc a part b⟩, hpart⟩
  · rintro ⟨part, ⟨a, b, rfl⟩, hpart⟩
    exact ⟨a, part ++ b, List.append_assoc a part b, part, b, rfl, hpart⟩

/-- A text that the pattern is like: without the signs for any text, and with one and the same
character for every sign of one. -/
def filled (c : Char) (text : List Char) : List Char :=
  (text.filter (· ≠ '%')).map fun d => if d = '_' then c else d

theorem like_filled (c : Char) (text : List Char) : like fold text (filled c text) := by
  induction text with
  | nil => exact like_nil_iff.2 rfl
  | cons d text ih =>
    by_cases hpercent : d = '%'
    · subst hpercent
      exact like_percent_iff.2 ⟨[], _, rfl, ih⟩
    · refine (like_cons_iff hpercent).2 ⟨if d = '_' then c else d, filled c text, ?_, ?_, ih⟩
      · simp [filled, hpercent]
      · by_cases hunderscore : d = '_' <;> simp [hunderscore]

/-- A text with a sign does not occur in what it is like: there is too little of it, or the wrong
character in place of a sign. -/
theorem isPlain_of_infix_filled {c : Char} (hc : fold c ≠ fold '_') {text : List Char}
    (h : text.map fold <:+: (filled c text).map fold) : IsPlain text := by
  -- with a `%` left out, the filled text would be too short for the text to occur in it
  have hle : text.length ≤ (text.filter (· ≠ '%')).length := by
    simpa [filled] using h.length_le
  have hfilter : text.filter (· ≠ '%') = text :=
    List.filter_sublist.eq_of_length_le hle
  have hpercent : '%' ∉ text := fun hmem => by
    simpa using List.filter_eq_self.1 hfilter '%' hmem
  refine ⟨hpercent, fun hunderscore => ?_⟩
  rw [filled, hfilter] at h
  -- as long as the text, it is the text, and so shows the filling character for `_`
  have heq := h.eq_of_length (by simp)
  rw [List.map_map, List.map_inj_left] at heq
  exact hc (by simpa using (heq '_' hunderscore).symm)

/-- A search finds the texts that contain what it is given if there is no sign in it, and only then.
The one condition is that `_` is not folded together with every character there is. -/
theorem findsText_containsPattern_iff (hfold : ∃ c, fold c ≠ fold '_') {text : String} :
    FindsText fold (containsPattern text) text ↔ IsPlain text.toList := by
  constructor
  · intro h
    obtain ⟨c, hc⟩ := hfold
    refine isPlain_of_infix_filled hc ((h (filled c text.toList)).1 ?_)
    exact like_containsPattern_iff.2 ⟨_, List.infix_refl _, like_filled c text.toList⟩
  · intro hplain s
    rw [like_containsPattern_iff, List.infix_map_iff]
    simp only [like_iff_of_isPlain hplain]

/-! ## Requests -/

/-- What a search does with a text: it finds what has a part that is like the text, and so the texts
that contain it if no sign is in it, but not otherwise. -/
structure SearchesFor (fold : Char → Char) (pattern text : String) : Prop where
  parts : ∀ s, like fold pattern.toList s ↔ ∃ part, part <:+: s ∧ like fold text.toList part
  findsText_iff : FindsText fold pattern text ↔ IsPlain text.toList

/-- The pattern of a text does what a search is to do, with both its sides. -/
theorem searchesFor_containsPattern (hfold : ∃ c, fold c ≠ fold '_') (text : String) :
    SearchesFor fold (containsPattern text) text :=
  ⟨fun _ => like_containsPattern_iff, findsText_containsPattern_iff hfold⟩

namespace Listing

variable {listing : Listing} {lookups : LookupSet} {params : QueryParams} {request : ListRequest}

/-- A filter for substrings compiles to one condition, with the pattern of its text. -/
theorem substring_mem_conditions (haccepted : listing.Accepted)
    (hread : listing.readRequest lookups params = .ok request) {key : String} {filter : Filter}
    (hfilter : listing.filters.get? key = some filter) {column : EntityColumn}
    (htarget : filter.target = .substring column) {text : String}
    (htext : params.head? key = some text) (hblank : Text.isBlankText text = false) :
    .anyOf [.like (listing.entity.qualify column) (.text (containsPattern text))]
      ∈ (request.selection.clauses listing).conditions := by
  obtain ⟨param, hparam, rfl⟩ := Option.map_eq_some_iff.1 htext
  -- a filter for substrings is never declared to take several values
  have hmany : filter.takesMany = false := by
    rw [← Bool.not_eq_true]
    intro hmany
    have hcan := (haccepted.allowed hfilter).canTakeMany (.inl hmany)
    rw [Filter.canTakeMany, htarget] at hcan
    cases hcan
  have hinterpret : filter.interpret lookups key param
      = .ok (.value (.single (.text (containsPattern param.head)))) := by
    simp [Filter.interpret, Filter.interpretOne, Filter.isSubstring, hmany, hblank, htarget]
  have hvalue := (get?_values_iff hread).2
    ⟨haccepted.notMem_reservedParams hfilter, param, filter, hparam, hfilter, hinterpret⟩
  obtain ⟨-, -, hclauses⟩ := clausesAt_of_readRequest hread hfilter hvalue
  refine Selection.mem_conditions_of_clausesAt hvalue ?_
  rw [hclauses, filterClauses, htarget]
  exact List.mem_singleton_self _

/-- A text to be searched for in columns that can be searched is searched for in these. -/
theorem search_of_mcfilter (hread : listing.readRequest lookups params = .ok request)
    {list : ParamValue} (hlist : params.get? "mclist" = some list) (hne : list.items ≠ [])
    (hsearchable : ∀ key ∈ list.items, listing.isSearchable key) {text : String}
    (htext : params.head? "mcfilter" = some text) (hblank : Text.isBlankText text = false) :
    request.selection.search = some ⟨list.items.eraseDups, containsPattern text⟩ := by
  obtain ⟨-, rfl⟩ := readRequest_eq_ok_iff.1 hread
  have hunknown : list.items.filter (!listing.isSearchable ·) = [] := by
    rw [List.filter_eq_nil_iff]
    intro key hkey
    simp [hsearchable key hkey]
  -- there are columns, all of them can be searched, and the text is not blank
  have hsearch : listing.searchOf params
      = .ok (some ⟨list.items.eraseDups, containsPattern text⟩) := by
    simp [searchOf, readSearch, hlist, hunknown, htext, hblank, hne]
  simp only [gather, hsearch]

end Listing

/-- Both ways to search bind the pattern of the text they are given, for each of the columns. It
finds the texts that contain what was given as long as that has no sign of a pattern in it. -/
theorem searches_find_texts_without_signs {listing : Listing} (haccepted : listing.Accepted)
    {lookups : LookupSet} {params : QueryParams} {request : ListRequest}
    (hread : listing.readRequest lookups params = .ok request)
    {fold : Char → Char} (hfold : ∃ c, fold c ≠ fold '_') :
    (∀ key filter column text, listing.filters.get? key = some filter →
      filter.target = .substring column → params.head? key = some text →
      Text.isBlankText text = false →
        ∃ pattern, SearchesFor fold pattern text
          ∧ .anyOf [.like (listing.entity.qualify column) (.text pattern)]
            ∈ (request.selection.clauses listing).conditions)
    ∧ ∀ list text, params.get? "mclist" = some list → list.items ≠ [] →
      (∀ key ∈ list.items, listing.isSearchable key) → params.head? "mcfilter" = some text →
      Text.isBlankText text = false →
        ∃ pattern columns, SearchesFor fold pattern text
          ∧ List.Forall₂ listing.HasSearchColumn list.items.eraseDups columns
          ∧ .anyOf (columns.map (.like · (.text pattern)))
            ∈ (request.selection.clauses listing).conditions := by
  constructor
  · intro key filter column text hfilter htarget htext hblank
    exact ⟨containsPattern text, searchesFor_containsPattern hfold text,
      Listing.substring_mem_conditions haccepted hread hfilter htarget htext hblank⟩
  · intro list text hlist hne hsearchable htext hblank
    have hsearch := Listing.search_of_mcfilter hread hlist hne hsearchable htext hblank
    have hcompiled := listing.isSearch_searchClauses hread
    rw [hsearch] at hcompiled
    obtain ⟨-, -, columns, hcolumns, hconditions⟩ := hcompiled
    refine ⟨containsPattern text, columns, searchesFor_containsPattern hfold text, hcolumns, ?_⟩
    rw [Selection.conditions_clauses, hconditions]
    exact List.mem_append_right _ (List.mem_singleton_self _)

/-- A search for a name, apostrophe, capital and blanks included, and one in two other columns. -/
def RaceTraits.searched : List (String × String) :=
  [ ("trait_name", " Drow's "), ("mcfilter", "Light-Blind"),
    ("mclist", "trait_slug, trait_description,trait_slug") ]

/-- Capitals make no difference, blanks and apostrophes stand for themselves, and a column that is
named twice is searched once. -/
theorem searches_find_texts_without_signs_traits :
    ∃ (listing : Listing) (request : ListRequest) (pattern pattern' : String)
      (columns : List Column), RaceTraits.declaration.build = .ok listing
      ∧ listing.readRequest ⟨[]⟩ (.ofPairs RaceTraits.searched) = .ok request
      ∧ Char.toLower 'a' ≠ Char.toLower '_'
      ∧ FindsText Char.toLower pattern " Drow's " ∧ FindsText Char.toLower pattern' "Light-Blind"
      ∧ columns.length = 2
      ∧ .anyOf [.like ⟨"rt", "trait_name"⟩ (.text pattern)]
        ∈ (request.selection.clauses listing).conditions
      ∧ .anyOf (columns.map (.like · (.text pattern')))
        ∈ (request.selection.clauses listing).conditions := by
  have hreading : (RaceTraits.declaration.build.toOption.bind fun listing =>
      (listing.readRequest ⟨[]⟩ (.ofPairs RaceTraits.searched)).toOption.map fun _ =>
        (listing.entity.label .base,
          ["trait_slug", "trait_description", "trait_slug"].all listing.isSearchable))
        = some ("rt", true) := by
    decide +kernel
  obtain ⟨listing, request, hbuild, hread, hparts⟩ := exists_of_bind_map_toOption hreading
  obtain ⟨hlabel, hsearchable⟩ := Prod.mk.inj hparts
  have hfilter : listing.filters.get? "trait_name"
      = some (.onSubstring (.onBase "trait_name")) := by
    rw [OrderedMap.get?_eq_some_iff, (Declaration.builtInto_of_build hbuild).filters]
    exact List.mem_cons_self
  have hfold : Char.toLower 'a' ≠ Char.toLower '_' := by decide
  obtain ⟨hone, hseveral⟩ :=
    searches_find_texts_without_signs ⟨_, hbuild⟩ hread ⟨'a', hfold⟩
  obtain ⟨pattern, hpattern, hcondition⟩ := hone "trait_name" _ (.onBase "trait_name") " Drow's "
    hfilter rfl (by decide +kernel) (by decide +kernel)
  obtain ⟨pattern', columns, hpattern', hcolumns, hcondition'⟩ :=
    hseveral (.once "trait_slug, trait_description,trait_slug") "Light-Blind" (by decide +kernel)
      (by decide +kernel) (List.all_eq_true.1 hsearchable) (by decide +kernel) (by decide +kernel)
  have hlength : columns.length = 2 := by
    rw [← hcolumns.length_eq]
    decide +kernel
  have hplain : IsPlain " Drow's ".toList := by
    unfold IsPlain
    decide +kernel
  have hplain' : IsPlain "Light-Blind".toList := by
    unfold IsPlain
    decide +kernel
  have hcolumn : listing.entity.qualify (.onBase "trait_name") = ⟨"rt", "trait_name"⟩ :=
    congrArg (Column.mk · "trait_name") hlabel
  rw [hcolumn] at hcondition
  exact ⟨listing, request, pattern, pattern', columns, hbuild, hread, hfold,
    hpattern.findsText_iff.2 hplain, hpattern'.findsText_iff.2 hplain', hlength, hcondition,
    hcondition'⟩

/-- The race `elf` is found in a search for an underscore, which is not in it. -/
theorem an_underscore_is_found_where_none_is :
    ∃ listing request pattern, Races.declaration.build = .ok listing
      ∧ listing.readRequest ⟨[]⟩ (.ofPairs [("race_name", "_")]) = .ok request
      ∧ .anyOf [.like ⟨"r", "race_name"⟩ (.text pattern)]
        ∈ (request.selection.clauses listing).conditions
      ∧ like Char.toLower pattern.toList "elf".toList
      ∧ ¬"_".toList.map Char.toLower <:+: "elf".toList.map Char.toLower := by
  have hreading : (Races.declaration.build.toOption.bind fun listing =>
      (listing.readRequest ⟨[]⟩ (.ofPairs [("race_name", "_")])).toOption.map fun _ =>
        listing.entity.label .base) = some "r" := by
    decide +kernel
  obtain ⟨listing, request, hbuild, hread, hlabel⟩ := exists_of_bind_map_toOption hreading
  have hfilter : listing.filters.get? "race_name" = some (.onSubstring (.onBase "race_name")) := by
    rw [OrderedMap.get?_eq_some_iff, (Declaration.builtInto_of_build hbuild).filters]
    exact List.mem_cons_self
  have hcondition := Listing.substring_mem_conditions ⟨_, hbuild⟩ hread hfilter rfl
    (by decide +kernel : QueryParams.head? _ "race_name" = some "_") (by decide +kernel)
  have hcolumn : listing.entity.qualify (.onBase "race_name") = ⟨"r", "race_name"⟩ :=
    congrArg (Column.mk · "race_name") hlabel
  rw [hcolumn] at hcondition
  exact ⟨listing, request, containsPattern "_", hbuild, hread, hcondition, by decide +kernel,
    by decide +kernel⟩

end Compendium
