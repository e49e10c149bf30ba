import FacetedSearch.Proofs.CatalogRules

/-!
# The table of catalog names

What the rules for catalogs do to names can be looked up in a table, which speaks of spellings and
not of patterns. No name is in two rows, so the order of the rules does not show; a name that is in
no row stays as it is.

## Main definitions

* `CatalogRow` — a word with which names begin, and what becomes of what stands behind it.
* `CatalogRow.Maps` — the names of a row with their fields.
* `FieldMapper.catalogTable` — the rows for catalogs.
-/

namespace FacetedSearch

structure CatalogRow where
  word : String
  /-- What can stand behind the word. -/
  accepts : String → Prop
  /-- The field, given what stands behind the word. -/
  field : String → String

namespace CatalogRow

/-- The row for a word that is a whole name. -/
def ofWord (word field : String) : CatalogRow := ⟨word, (· = ""), fun _ => field⟩

/-- The row for prices. The letters of a code are lower-cased as they are typed. -/
def price : CatalogRow where
  word := "price."
  accepts code := ∃ letters, IsCurrencyCode letters ∧ Text.Spells letters.toList code.toList
  field code := "price_" ++ Text.lowercase code

/-- The row for properties. What stands behind the word is kept as it is, if it is one line. -/
def properties : CatalogRow where
  word := "properties."
  accepts rest := rest ≠ "" ∧ '\n' ∉ rest.toList
  field rest := rest

def Maps (row : CatalogRow) (name field : String) : Prop :=
  ∃ w rest, name = w ++ rest ∧ Text.Spells row.word.toList w.toList ∧ row.accepts rest ∧
    field = row.field rest

end CatalogRow

namespace FieldMapper

def catalogTable : List CatalogRow :=
  [.price,
    .ofWord "catalog.id" "catalog",
    .ofWord "category.path" "__path",
    .ofWord "category.subtree" "__outline",
    .ofWord "categories.subtree" "__outline",
    .ofWord "sku" "code",
    .properties]

end FieldMapper

variable {name field field' s word : String} {row row' : CatalogRow}

/-! ## Spellings -/

/-- The letters of a code have no variants but letters of codes. -/
theorem isCodeLetter_of_foldCase_eq {c d : Char} (hfold : Unicode.foldCase d = Unicode.foldCase c)
    (hd : isCodeLetter d = true) : isCodeLetter c = true := by
  rw [← Pattern.contains_codeLetters, Pattern.codeLetters, CharSet.contains_anyCase] at hd ⊢
  obtain ⟨e, he, hcontains⟩ := hd
  exact ⟨e, he.trans hfold, hcontains⟩

theorem isCurrencyCode_iff_exists_letters {code : String} :
    (∃ letters, IsCurrencyCode letters ∧ Text.Spells letters.toList code.toList) ↔
      IsCurrencyCode code := by
  refine ⟨?_, fun hcode => ⟨code, hcode, rfl⟩⟩
  rintro ⟨letters, ⟨hlength, hletters⟩, hspells⟩
  refine ⟨hspells.length_eq.trans hlength, List.all_eq_true.2 fun c hc => ?_⟩
  have hmem : Unicode.foldCase c ∈ letters.toList.map Unicode.foldCase :=
    hspells ▸ List.mem_map_of_mem hc
  obtain ⟨d, hd, hfold⟩ := List.mem_map.1 hmem
  exact isCodeLetter_of_foldCase_eq hfold (List.all_eq_true.1 hletters d hd)

/-! ## Rows -/

namespace CatalogRow

theorem maps_ofWord_iff :
    (ofWord word field).Maps name s ↔ Text.Spells word.toList name.toList ∧ s = field := by
  constructor
  · rintro ⟨w, rest, rfl, hw, hrest, rfl⟩
    obtain rfl : rest = "" := hrest
    rw [String.append_empty]
    exact ⟨hw, rfl⟩
  · rintro ⟨hname, rfl⟩
    exact ⟨name, "", (String.append_empty).symm, hname, rfl, rfl⟩

theorem maps_price_iff : price.Maps name s ↔ MappingRule.price.replaced? name = some s := by
  rw [MappingRule.replaced?_price_eq_some_iff]
  constructor
  · rintro ⟨w, code, rfl, hw, hcode, rfl⟩
    obtain ⟨p, hp, hword⟩ := MappingRule.spells_price_iff.1 hw
    obtain rfl := String.toList_inj.1 hword
    exact ⟨p, code, hp, isCurrencyCode_iff_exists_letters.1 hcode, rfl, rfl⟩
  · rintro ⟨p, code, hp, hcode, rfl, rfl⟩
    exact ⟨p ++ ".", code, rfl, MappingRule.spells_price_iff.2 ⟨p, hp, rfl⟩,
      isCurrencyCode_iff_exists_letters.2 hcode, rfl⟩

theorem maps_properties_iff :
    properties.Maps name s ↔ MappingRule.properties.replaced? name = some s := by
  rw [MappingRule.replaced?_properties_eq_some_iff]
  constructor
  · rintro ⟨w, rest, rfl, hw, hrest, rfl⟩
    exact ⟨w, rfl, hw, hrest⟩
  · rintro ⟨w, rfl, hw, hrest⟩
    exact ⟨w, s, rfl, hw, hrest, rfl⟩

theorem Maps.begins (h : row.Maps name field) :
    row.word.toList.map Unicode.foldCase <+: name.toList.map Unicode.foldCase := by
  obtain ⟨w, rest, rfl, hw, -⟩ := h
  rw [String.toList_append, List.map_append, hw]
  exact List.prefix_append _ _

/-- A row has one field for a name. -/
theorem Maps.field_eq (h : row.Maps name field) (h' : row.Maps name field') : field = field' := by
  obtain ⟨w, rest, rfl, hw, -, rfl⟩ := h
  obtain ⟨w', rest', hname, hw', -, rfl⟩ := h'
  have hparts : w.toList ++ rest.toList = w'.toList ++ rest'.toList := by
    simpa using congrArg String.toList hname
  obtain ⟨-, hrest⟩ := List.append_inj hparts (hw.length_eq.trans hw'.length_eq.symm)
  rw [String.toList_inj.1 hrest]

end CatalogRow

namespace FieldMapper

/-- No word of the table begins another one. -/
theorem word_eq_of_begins (hrow : row ∈ catalogTable) (hrow' : row' ∈ catalogTable)
    (h : row.word.toList.map Unicode.foldCase <+: row'.word.toList.map Unicode.foldCase) :
    row.word = row'.word := by
  have hascii : ∀ word ∈ catalogTable.map (·.word), word.toList.all (·.toNat < 128) = true := by
    decide
  have hapart : ∀ word ∈ catalogTable.map (·.word), ∀ word' ∈ catalogTable.map (·.word),
      Text.fold word <+: Text.fold word' → word = word' := by
    decide
  have hword := List.mem_map_of_mem (f := CatalogRow.word) hrow
  have hword' := List.mem_map_of_mem (f := CatalogRow.word) hrow'
  rw [Text.begins_iff_of_ascii (hascii _ hword) (hascii _ hword')] at h
  exact hapart _ hword _ hword' h

/-- A name is in one row, with one field. -/
theorem maps_unique (hrow : row ∈ catalogTable) (hrow' : row' ∈ catalogTable)
    (h : row.Maps name field) (h' : row'.Maps name field') : field = field' := by
  have hword : row.word = row'.word := by
    rcases List.prefix_or_prefix_of_prefix h.begins h'.begins with hbegins | hbegins
    · exact word_eq_of_begins hrow hrow' hbegins
    · exact (word_eq_of_begins hrow' hrow hbegins).symm
  obtain rfl : row = row' :=
    List.inj_on_of_nodup_map (f := CatalogRow.word) (by decide) hrow hrow' hword
  exact h.field_eq h'

/-- The rules replace what the table lists. -/
theorem exists_rule_iff_exists_row : (∃ rule ∈ catalog.rules, rule.replaced? name = some s) ↔
    ∃ row ∈ catalogTable, row.Maps name s := by
  have hword : ∀ {source word field : String},
      (Pattern.ofWord source word).root.isRegular = true →
      Pattern.Template.read field = field.toList.map Pattern.Piece.char →
      ((MappingRule.ofWord source word field).replaced? name = some s ↔
        (CatalogRow.ofWord word field).Maps name s) := fun hregular hread => by
    rw [MappingRule.replaced?_ofWord_eq_some_iff hregular hread, CatalogRow.maps_ofWord_iff]
  have hsubtree : MappingRule.subtree.replaced? name = some s ↔
      (CatalogRow.ofWord "category.subtree" "__outline").Maps name s ∨
        (CatalogRow.ofWord "categories.subtree" "__outline").Maps name s := by
    rw [MappingRule.replaced?_subtree_eq_some_iff, CatalogRow.maps_ofWord_iff,
      CatalogRow.maps_ofWord_iff, or_and_right]
  simp only [rules_catalog, catalogTable, List.mem_cons, List.not_mem_nil, or_false,
    exists_eq_or_imp, exists_eq_left]
  rw [← CatalogRow.maps_price_iff, hword (by decide) (by decide +kernel),
    hword (by decide) (by decide +kernel), hsubtree, hword (by decide) (by decide +kernel),
    ← CatalogRow.maps_properties_iff, or_assoc]

/-- The rules for catalogs map every name as the table says: to the field of the row in which it is,
and to itself if it is in no row. -/
theorem mapName_catalog_eq_iff (name field : String) : catalog.mapName name = field ↔
    (∃ row ∈ catalogTable, row.Maps name field) ∨
      (∀ row ∈ catalogTable, ∀ other, ¬ row.Maps name other) ∧ field = name := by
  cases h : catalog.rules.findSome? (·.replaced? name) with
  | none =>
    have hnone : ∀ row ∈ catalogTable, ∀ other, ¬ row.Maps name other := by
      intro row hrow other hmaps
      obtain ⟨rule, hrule, hother⟩ := exists_rule_iff_exists_row.2 ⟨row, hrow, hmaps⟩
      rw [List.findSome?_eq_none_iff.1 h rule hrule] at hother
      cases hother
    rw [mapName, h, Option.getD_none]
    constructor
    · exact fun hname => .inr ⟨hnone, hname.symm⟩
    · rintro (⟨row, hrow, hmaps⟩ | ⟨-, hname⟩)
      · exact absurd hmaps (hnone row hrow field)
      · exact hname.symm
  | some s =>
    obtain ⟨row, hrow, hmaps⟩ :=
      exists_rule_iff_exists_row.1 (List.exists_of_findSome?_eq_some h)
    rw [mapName, h, Option.getD_some]
    constructor
    · rintro rfl
      exact .inl ⟨row, hrow, hmaps⟩
    · rintro (⟨row', hrow', hmaps'⟩ | ⟨hnone, -⟩)
      · exact maps_unique hrow hrow' hmaps hmaps'
      · exact absurd hmaps (hnone row hrow s)

/-- The line break is behind the word for properties: it does not count, and the name is kept. -/
example : catalog.mapName "properties.a\nb" = "properties.a\nb" := by
  decide +kernel

end FieldMapper

end FacetedSearch
