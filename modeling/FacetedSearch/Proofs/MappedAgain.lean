import FacetedSearch.Proofs.CatalogRules
import FacetedSearch.Proofs.DraftSteps

/-!
# Names that come back

The id of a facet holds the name of its field as the rules have left it, and it can be typed as
a term, whose name the rules see again. The rules for catalogs leave alone what they make
themselves, except that the rule for properties can uncover a name for another rule.

## Main definitions

* `FieldMapper.Settled` — a name that no rule replaces and that a token can carry.
-/

namespace FacetedSearch

namespace FieldMapper

/-- No rule finds its word at the beginning of the name, and no character of it is taken for
something else in a token. -/
structure Settled (s : String) : Prop where
  apart : ∀ word ∈ fixedWords ++ ["properties."],
    ¬ word.toList.map Unicode.foldCase <+: s.toList.map Unicode.foldCase
  plain : ∀ c ∈ s.toList, Text.isBlank c = false ∧ c ≠ ':'

variable {name rest s : String} {rule : MappingRule}

/-- A text that begins apart from the words of some rules. -/
theorem not_begins_of_ascii {words : List String} (start : String) {cs : List Char}
    (hwords : words ⊆ fixedWords ++ ["properties."])
    (hascii : start.toList.all (·.toNat < 128) = true)
    (hapart : ∀ word ∈ words, ¬ Text.fold word <+: Text.fold start ∧
      ¬ Text.fold start <+: Text.fold word)
    (hstart : start.toList.map Unicode.foldCase <+: cs.map Unicode.foldCase) :
    ∀ word ∈ words, ¬ word.toList.map Unicode.foldCase <+: cs.map Unicode.foldCase := by
  intro word hword hbegins
  have hword' := ascii_of_mem_words (hwords hword)
  obtain ⟨hlonger, hshorter⟩ := hapart word hword
  rw [← Text.begins_iff_of_ascii hword' hascii] at hlonger
  rw [← Text.begins_iff_of_ascii hascii hword'] at hshorter
  exact (List.prefix_or_prefix_of_prefix hbegins hstart).elim hlonger hshorter

theorem plain_of_all {cs : List Char}
    (h : cs.all (fun c => !Text.isBlank c && c != ':') = true) :
    ∀ c ∈ cs, Text.isBlank c = false ∧ c ≠ ':' := by
  simpa using h

/-! ## What the rules make -/

theorem Settled.mapName (h : Settled s) : catalog.mapName s = s :=
  mapName_eq_self (replaced?_catalog_eq_none h.apart)

theorem mapName_of_ascii (hascii : s.toList.all (·.toNat < 128) = true)
    (hapart : ∀ word ∈ fixedWords ++ ["properties."], ¬ Text.fold word <+: Text.fold s) :
    catalog.mapName s = s :=
  mapName_eq_self (replaced?_catalog_eq_none (apart_of_ascii hascii hapart))

theorem isCodeLetter_lowercase {code : String} (hcode : IsCurrencyCode code) :
    ∀ c ∈ (Text.lowercase code).toList, isCodeLetter c = true := by
  have hascii : ∀ n < 128, (Char.ofNat n).isAlpha = true →
      (Text.lowerBetween [] (Char.ofNat n) []).all isCodeLetter = true := by
    decide +kernel
  have hlower : ∀ c, isCodeLetter c = true →
      (Text.lowerBetween [] c []).all isCodeLetter = true := by
    intro c hc
    simp only [isCodeLetter, Bool.or_eq_true, beq_iff_eq] at hc
    rcases hc with (hc | rfl) | rfl
    · have hlt : c.toNat < 128 := by
        rw [Text.isAlpha_iff] at hc
        omega
      have hall := hascii c.toNat hlt
      rw [Char.ofNat_toNat] at hall
      exact hall hc
    · decide +kernel
    · decide +kernel
  have hletters := List.all_eq_true.1 hcode.2
  have hsigma : 'Σ' ∉ code.toList := fun h => absurd (hletters _ h) (by decide)
  intro c hc
  rw [Text.lowercase, String.toList_ofList, Text.lowerFrom_eq_flatMap hsigma,
    List.mem_flatMap] at hc
  obtain ⟨d, hd, hc⟩ := hc
  exact List.all_eq_true.1 (hlower d (hletters d hd)) c hc

theorem settled_price {code : String} (hcode : IsCurrencyCode code) :
    Settled ("price_" ++ Text.lowercase code) := by
  constructor
  case apart =>
    refine not_begins_of_ascii "price_" (List.Subset.refl _) (by decide) (by decide) ?_
    rw [String.toList_append, List.map_append]
    exact List.prefix_append _ _
  case plain =>
    intro c hc
    rw [String.toList_append, List.mem_append] at hc
    rcases hc with hc | hc
    · exact plain_of_all (by decide : "price_".toList.all _ = true) c hc
    · have hletter := isCodeLetter_lowercase hcode c hc
      refine ⟨isBlank_of_isCodeLetter hletter, ?_⟩
      rintro rfl
      exact absurd hletter (by decide)

theorem settled_or_isProperty (hrule : rule ∈ catalog.rules) (h : rule.replaced? name = some s) :
    Settled s ∨ IsProperty name s := by
  rw [rules_catalog] at hrule
  simp only [List.mem_cons, List.not_mem_nil, or_false] at hrule
  rcases hrule with rfl | rfl | rfl | rfl | rfl | rfl
  · obtain ⟨p, code, -, hcode, -, rfl⟩ := MappingRule.replaced?_price_eq_some_iff.1 h
    exact .inl (settled_price hcode)
  · obtain ⟨-, rfl⟩ := (MappingRule.replaced?_ofWord_eq_some_iff (by decide) (by decide +kernel)).1 h
    exact .inl ⟨apart_of_ascii (by decide) (by decide), plain_of_all (by decide)⟩
  · obtain ⟨-, rfl⟩ := (MappingRule.replaced?_ofWord_eq_some_iff (by decide) (by decide +kernel)).1 h
    exact .inl ⟨apart_of_ascii (by decide) (by decide), plain_of_all (by decide)⟩
  · obtain ⟨-, rfl⟩ := MappingRule.replaced?_subtree_eq_some_iff.1 h
    exact .inl ⟨apart_of_ascii (by decide) (by decide), plain_of_all (by decide)⟩
  · obtain ⟨-, rfl⟩ := (MappingRule.replaced?_ofWord_eq_some_iff (by decide) (by decide +kernel)).1 h
    exact .inl ⟨apart_of_ascii (by decide) (by decide), plain_of_all (by decide)⟩
  · exact .inr (MappingRule.replaced?_properties_eq_some_iff.1 h)

/-- What becomes of a name: it stays, or it becomes a settled one, or it is that of a property. -/
theorem mapName_cases (name : String) : catalog.mapName name = name ∨
    Settled (catalog.mapName name) ∨ IsProperty name (catalog.mapName name) := by
  cases h : catalog.rules.findSome? (·.replaced? name) with
  | none =>
    left
    rw [mapName, h, Option.getD_none]
  | some s =>
    right
    obtain ⟨rule, hrule, hs⟩ := List.exists_of_findSome?_eq_some h
    rw [mapName, h, Option.getD_some]
    exact settled_or_isProperty hrule hs

/-- The rules before the one for properties leave the name of a property alone. -/
theorem mapName_of_isProperty (h : IsProperty name rest) : catalog.mapName name = rest := by
  have hproperties := MappingRule.replaced?_properties_eq_some_iff.2 h
  have hstart : "properties.".toList.map Unicode.foldCase <+:
      name.toList.map Unicode.foldCase := by
    obtain ⟨w, rfl, hw, -⟩ := h
    rw [String.toList_append, List.map_append, hw]
    exact List.prefix_append _ _
  have hfixed : fixedRules.findSome? (·.replaced? name) = none := by
    rw [List.findSome?_eq_none_iff]
    apply replaced?_fixedRules_eq_none
    exact not_begins_of_ascii "properties." (List.subset_append_left _ _) (by decide) (by decide) hstart
  rw [mapName, rules_eq_append, List.findSome?_append, hfixed, Option.none_or,
    List.findSome?_singleton, hproperties, Option.getD_some]

theorem mapName_properties (rest : String) (hne : rest ≠ "") (hline : '\n' ∉ rest.toList) :
    catalog.mapName ("properties." ++ rest) = rest :=
  mapName_of_isProperty ⟨"properties.", rfl, rfl, hne, hline⟩

theorem mapName_mapName_eq_iff (name : String) :
    catalog.mapName (catalog.mapName name) = catalog.mapName name ↔
      ∀ rest, IsProperty name rest → catalog.mapName rest = rest := by
  constructor
  · intro h rest hrest
    rwa [mapName_of_isProperty hrest] at h
  · intro h
    rcases mapName_cases name with hname | hsettled | hproperty
    · rw [hname, hname]
    · exact hsettled.mapName
    · exact h _ hproperty

theorem mapFilter_term (mapper : FieldMapper) (name : String) (values : List String) :
    mapper.mapFilter (.term name values) = .term (mapper.mapName name) values := rfl

theorem mapFilter_mapFilter_eq_iff {mapper : FieldMapper} {f : Filter} :
    mapper.mapFilter (mapper.mapFilter f) = mapper.mapFilter f ↔
      ∀ name ∈ f.fieldName?, mapper.mapName (mapper.mapName name) = mapper.mapName name := by
  cases f <;> simp [mapFilter, Filter.fieldName?, Filter.withField]

/-! ## Ids of facets as terms -/

theorem colon_not_mem_mapName (h : ':' ∉ name.toList) : ':' ∉ (catalog.mapName name).toList := by
  rcases mapName_cases name with hname | hsettled | ⟨w, hname, -⟩
  · rwa [hname]
  · exact fun hcolon => (hsettled.plain _ hcolon).2 rfl
  · intro hcolon
    apply h
    rw [hname, String.toList_append]
    exact List.mem_append_right _ hcolon

/-- What the rules make of a trimmed name is that name only if there was nothing to trim. -/
theorem trim_eq_self_of_mapName_trim (h : catalog.mapName (Text.trim s) = s) :
    Text.trim s = s := by
  rcases mapName_cases (Text.trim s) with hname | hsettled | ⟨w, hname, hw, -⟩
  · exact hname.symm.trans h
  · rw [h] at hsettled
    exact Text.trim_eq_self fun c hc => (hsettled.plain c hc).1
  · -- The name of a property is longer than the property, and trimming makes nothing longer.
    have hlonger : (Text.trim s).toList.length = 11 + s.toList.length := by
      rw [hname, h, String.toList_append, List.length_append, hw.length_eq]
      rfl
    have hshorter : (Text.trim s).toList.length ≤ s.toList.length := by
      rw [Text.trim, String.toList_ofList]
      exact (Text.strip_sublist _).length_le
    omega

end FieldMapper

namespace Draft

variable {d : Draft} {token field : String}

theorem restrict_inj {fs gs : List Filter} : d.restrict fs = d.restrict gs ↔ fs = gs := by
  refine ⟨fun h => ?_, fun h => h ▸ rfl⟩
  have hconjuncts := congrArg (·.filter.conjuncts) h
  exact List.append_cancel_left hconjuncts

/-- A token restricts a field when it is a term whose mapped name is that field. -/
theorem exists_addTerms_iff : (∃ f, d.addTerms [token] false = d.restrict [f] ∧
      f.fieldName? = some field) ↔
    ∃ name rest, token.toList = name ++ ':' :: rest ∧ ':' ∉ name ∧ Text.strip name ≠ [] ∧
      Filter.tokenValues rest ≠ [] ∧ d.mapper.mapName (String.ofList (Text.strip name)) = field := by
  simp only [addTerms_false, restrict_inj]
  constructor
  · rintro ⟨f, hf, hfield⟩
    cases htoken : Filter.ofToken? token with
    | none =>
      rw [termsOf_cons_of_eq_none htoken] at hf
      cases hf
    | some g =>
      rw [termsOf_cons_of_eq_some htoken] at hf
      obtain rfl := (List.cons.inj hf).1
      obtain ⟨name, rest, hchars, hname, hstrip, hrest, rfl⟩ := Filter.ofToken?_eq_some_iff.1 htoken
      exact ⟨name, rest, hchars, hname, hstrip, hrest, Option.some.inj hfield⟩
  · rintro ⟨name, rest, hchars, hname, hstrip, hrest, rfl⟩
    have htoken := Filter.ofToken?_eq_some_iff.2 ⟨name, rest, hchars, hname, hstrip, hrest, rfl⟩
    exact ⟨_, termsOf_cons_of_eq_some htoken [], rfl⟩

theorem filterFacet?_term (d : Draft) (name : String) (values : List String) :
    d.filterFacet? (.term name values) = some (.ofTerm (d.mapper.mapName name) values) := rfl

/-- When the id of the facet for a term restricts the field of the facet. -/
theorem exists_addTerms_canonical_iff (hmapper : d.mapper = .catalog) (field : String)
    (values : List String) :
    (∃ f, d.addTerms [(Filter.term field values).canonical] false = d.restrict [f] ∧
      f.fieldName? = some field) ↔
    d.mapper.mapName field = field ∧ ':' ∉ field.toList ∧ Text.trim field = field ∧ field ≠ "" ∧
      ∃ v ∈ values, Text.blank v = false := by
  rw [exists_addTerms_iff, hmapper]
  constructor
  · rintro ⟨name, rest, hsplit, hname, hstrip, hrest, hfield⟩
    have hcolon : ':' ∉ field.toList := by
      rw [← hfield]
      apply FieldMapper.colon_not_mem_mapName
      rw [String.toList_ofList]
      exact fun h => hname ((Text.strip_sublist name).mem h)
    -- The first colon of the id is the one behind the field.
    obtain ⟨rfl, rfl⟩ : field.toList = name ∧ Filter.writtenValues values = rest := by
      have hcut := Filter.cut_canonical_term hcolon values
      rw [hsplit, Text.cut_append_cons hname] at hcut
      exact (Prod.mk.inj (Option.some.inj hcut)).imp Eq.symm Eq.symm
    have htrim : Text.trim field = field := FieldMapper.trim_eq_self_of_mapName_trim hfield
    rw [← Text.trim, htrim] at hfield
    refine ⟨hfield, hcolon, htrim, ?_, Filter.tokenValues_written_ne_nil_iff.1 hrest⟩
    · rintro rfl
      exact hstrip rfl
  · rintro ⟨hfield, hcolon, htrim, hne, hvalues⟩
    have hstrip : Text.strip field.toList ≠ [] := by
      intro hstrip
      apply hne
      rw [← htrim, Text.trim, hstrip]
    refine ⟨field.toList, Filter.writtenValues values,
      Filter.toList_canonical_term field values, hcolon, hstrip,
      Filter.tokenValues_written_ne_nil_iff.2 hvalues, ?_⟩
    rw [← Text.trim, htrim]
    exact hfield

end Draft

namespace FieldMapper

/-- With the rules for catalogs a name is mapped again to itself, unless it is the name of a
property that a rule replaces in its turn; and so is the name of a filter. The id of the facet for
a term restricts the field of the facet when it is added as a term, provided that this field is
mapped to itself, is no blank or padded name, has no colon, and has a value that is not blank. -/
theorem catalog_maps_again_iff (d e : Draft) (hd : d.mapper = .catalog) (he : e.mapper = .catalog) :
    (∀ name, catalog.mapName (catalog.mapName name) = catalog.mapName name ↔
      ∀ rest, IsProperty name rest → catalog.mapName rest = rest) ∧
    (∀ f, catalog.mapFilter (catalog.mapFilter f) = catalog.mapFilter f ↔
      ∀ name ∈ f.fieldName?, ∀ rest, IsProperty name rest → catalog.mapName rest = rest) ∧
    ∀ name values, ∃ a, d.filterFacet? (.term name values) = some a ∧
      a.field = catalog.mapName name ∧
      a.id = (catalog.mapFilter (.term name values)).canonical ∧
      ((∃ f, e.addTerms [a.id] false = e.restrict [f] ∧ f.fieldName? = some a.field) ↔
        catalog.mapName a.field = a.field ∧ ':' ∉ a.field.toList ∧ Text.trim a.field = a.field ∧
          a.field ≠ "" ∧ ∃ v ∈ values, Text.blank v = false) := by
  refine ⟨mapName_mapName_eq_iff, fun f => ?_, fun name values => ?_⟩
  · simp only [mapFilter_mapFilter_eq_iff, mapName_mapName_eq_iff]
  · rw [← hd]
    refine ⟨_, Draft.filterFacet?_term d name values, rfl, rfl, ?_⟩
    have hback := Draft.exists_addTerms_canonical_iff he (d.mapper.mapName name) values
    rw [he, ← hd] at hback
    exact hback

/-- A property that is called like the word of a rule is mapped on. Ids do not always come back as
terms of their field either: not with a colon in it, not with blank ends, and not without a value
that can be typed. -/
theorem catalog_not_idempotent :
    catalog.mapName (catalog.mapName "properties.sku") ≠ catalog.mapName "properties.sku" ∧
    catalog.mapFilter (catalog.mapFilter (.term "properties.sku" ["A1"])) ≠
      catalog.mapFilter (.term "properties.sku" ["A1"]) ∧
    ∀ facet ∈ [("properties.a:b", ["x"]), (" brand", ["x"]), ("brand", [" "])],
      catalog.mapName (catalog.mapName facet.1) = catalog.mapName facet.1 ∧
      (Draft.termsOf catalog [(catalog.mapFilter (.term facet.1 facet.2)).canonical]).map
        Filter.fieldName? ≠ [some (catalog.mapName facet.1)] := by
  have hsku : catalog.mapName "properties.sku" = "sku" :=
    mapName_properties "sku" (by decide) (by decide)
  have hcode : catalog.mapName "sku" = "code" := by decide +kernel
  refine ⟨?_, ?_, ?_⟩
  · rw [hsku, hcode]
    decide
  · rw [mapFilter_term, mapFilter_term, hsku, hcode]
    decide
  · have hcolon : catalog.mapName "properties.a:b" = "a:b" :=
      mapName_properties "a:b" (by decide) (by decide)
    have hkept : ∀ name ∈ ["a", "a:b", "brand", " brand"], catalog.mapName name = name := by
      simp only [List.forall_mem_cons]
      refine ⟨?_, ?_, ?_, ?_, nofun⟩ <;> exact mapName_of_ascii (by decide) (by decide)
    simp only [List.forall_mem_cons, mapFilter_term] at hkept ⊢
    obtain ⟨ha, hab, hbrand, hpadded, -⟩ := hkept
    simp only [hcolon, hab, hpadded, hbrand, true_and]
    refine ⟨?_, ?_, ?_, nofun⟩
    · have htoken : Filter.ofToken? (Filter.term "a:b" ["x"]).canonical =
          some (.term "a" ["b:x"]) := by
        decide +kernel
      rw [Draft.termsOf_cons_of_eq_some htoken, mapFilter_term, ha]
      decide
    · have htoken : Filter.ofToken? (Filter.term " brand" ["x"]).canonical =
          some (.term "brand" ["x"]) := by
        decide +kernel
      rw [Draft.termsOf_cons_of_eq_some htoken, mapFilter_term, hbrand]
      decide
    · have htoken : Filter.ofToken? (Filter.term "brand" [" "]).canonical = none := by
        decide +kernel
      rw [Draft.termsOf_cons_of_eq_none htoken]
      decide

/-- The facet for two colors, one with a comma in its name, comes back as a term on its field. -/
theorem catalog_maps_again_iff_color :
    let d : Draft := .ofMapper .catalog
    catalog.mapName (catalog.mapName "properties.Color") = catalog.mapName "properties.Color" ∧
      ∃ a, d.filterFacet? (.term "properties.Color" ["red", "black,white"]) = some a ∧
        a.id = "Color:red,black%x2Cwhite" ∧
        ∃ f, d.addTerms [a.id] false = d.restrict [f] ∧ f.fieldName? = some "Color" := by
  intro d
  obtain ⟨hnames, -, hfacets⟩ := catalog_maps_again_iff d d rfl rfl
  have hcolor : catalog.mapName "properties.Color" = "Color" :=
    mapName_properties "Color" (by decide) (by decide)
  have hkept : catalog.mapName "Color" = "Color" := mapName_of_ascii (by decide) (by decide)
  obtain ⟨a, ha, hfield, hid, hback⟩ := hfacets "properties.Color" ["red", "black,white"]
  rw [hcolor] at hfield
  rw [hfield] at hback
  refine ⟨(hnames _).2 fun rest hrest => ?_, a, ha, ?_, hback.2 ?_⟩
  · obtain rfl : "Color" = rest := hcolor.symm.trans (mapName_of_isProperty hrest)
    exact hkept
  · rw [hid, mapFilter_term, hcolor]
    decide
  · exact ⟨hkept, by decide, by decide, by decide, "red", by simp, by decide⟩

end FieldMapper

end FacetedSearch
