import FacetedSearch.Catalog
import FacetedSearch.Proofs.DraftSteps
import FacetedSearch.Proofs.FacetIsolation

/-!
# What a compiled request restricts

The root of a compiled request gathers the ids and terms of the query, the filters of its filter
expression and the default terms that give way to none of these. No other conjuncts get into it,
and the aggregations are isolated from all of it.

## Main definitions

* `Offer` — a filter that is offered as a conjunct, and whether it is taken.
* `Conjunction.Decides` — which offers are taken.
* `Query.conjuncts` — what a query adds to the root by itself.
* `Catalog.requestOf` — the request of a query whose expressions are parsed.
-/

namespace FacetedSearch

/-- Both filters are named, by names that agree up to ASCII case. -/
def Filter.SharesField (f g : Filter) : Prop :=
  ∃ name ∈ f.fieldName?, ∃ name' ∈ g.fieldName?, Text.fold name = Text.fold name'

theorem Filter.sharesField_iff {f g : Filter} : f.SharesField g ↔
    (f.fieldName?.any fun name => g.fieldName?.any (Text.same name)) = true := by
  simp [SharesField, Text.same_iff, Option.any_eq_true]

instance : DecidableRel Filter.SharesField := fun _ _ => decidable_of_iff' _ Filter.sharesField_iff

/-- A filter that is offered as a conjunct, and whether it is taken. -/
structure Offer where
  filter : Filter
  taken : Bool
deriving DecidableEq, Repr

/-- The filters that are taken. -/
def Offer.takenOf (offers : List Offer) : List Filter :=
  (offers.filter (·.taken)).map (·.filter)

/-- What a query adds to the root by itself: its ids, its terms, and the filters of its filter
expression. -/
def Query.conjuncts (mapper : FieldMapper) (parsed : Parsed) (query : Query) : List Filter :=
  Draft.idsOf query.objectIds ++ Draft.termsOf mapper query.terms ++
    parsed.filters.map (Filter.compile mapper (query.currency.bind Draft.nonBlank))

/-! ## Filters on new fields -/

namespace Conjunction

variable {root : Conjunction} {f : Filter}

theorem any_constrains_iff :
    f.fieldName?.any root.constrains = true ↔ ∃ g ∈ root.conjuncts, g.SharesField f := by
  cases h : f.fieldName? with
  | none => simp [Filter.SharesField, h]
  | some name =>
    simp only [Option.any_some, constrains, List.any_eq_true, List.mem_filterMap,
      Filter.SharesField, h, Option.mem_def, Text.same_iff, Option.some.injEq]
    constructor
    · rintro ⟨name', ⟨g, hg, hname⟩, hfold⟩
      exact ⟨g, hg, name', hname, name, rfl, hfold⟩
    · rintro ⟨g, hg, name', hname, _, rfl, hfold⟩
      exact ⟨name', ⟨g, hg, hname⟩, hfold⟩

/-- An offer is taken when no conjunct before it, which may be one of those taken before, is on
its field. -/
def Decides (root : Conjunction) (offers : List Offer) : Prop :=
  ∀ before offer after, offers = before ++ offer :: after →
    (offer.taken = true ↔
      ∀ g ∈ root.conjuncts ++ Offer.takenOf before, ¬ g.SharesField offer.filter)

theorem decides_nil (root : Conjunction) : root.Decides [] := by
  intro before offer after h
  simp at h

/-- What is taken first counts for the offers behind it. -/
theorem decides_cons {offer : Offer} {offers : List Offer}
    (hfirst : offer.taken = true ↔ ∀ g ∈ root.conjuncts, ¬ g.SharesField offer.filter)
    (hrest : Decides ⟨root.conjuncts ++ Offer.takenOf [offer]⟩ offers) :
    root.Decides (offer :: offers) := by
  intro before offer' after h
  cases before with
  | nil =>
    obtain ⟨rfl, -⟩ := List.cons.inj h
    simpa [Offer.takenOf] using hfirst
  | cons first before =>
    obtain ⟨rfl, hsplit⟩ := List.cons.inj h
    -- The first offer moves into the root, so that `hrest` speaks of the same conjuncts.
    have htaken : Offer.takenOf (offer :: before) =
        Offer.takenOf [offer] ++ Offer.takenOf before := by
      simp only [Offer.takenOf, ← List.map_append, ← List.filter_append, List.singleton_append]
    rw [htaken, ← List.append_assoc]
    exact hrest before offer' after hsplit

/-- What is new to a root can be told offer by offer. -/
theorem exists_offers (root : Conjunction) (fs : List Filter) :
    ∃ offers : List Offer, offers.map (·.filter) = fs ∧
      Offer.takenOf offers = root.newTo fs ∧ root.Decides offers := by
  induction fs generalizing root with
  | nil => exact ⟨[], rfl, rfl, decides_nil root⟩
  | cons f fs ih =>
    by_cases h : f.fieldName?.any root.constrains = true
    · obtain ⟨offers, hfilters, htaken, hdecides⟩ := ih root
      refine ⟨⟨f, false⟩ :: offers, by simp [hfilters], ?_, decides_cons ?_ ?_⟩
      · rw [newTo, if_pos h, ← htaken]
        rfl
      · have hshared := any_constrains_iff.1 h
        simpa using hshared
      · simpa [Offer.takenOf] using hdecides
    · obtain ⟨offers, hfilters, htaken, hdecides⟩ := ih (root.push f)
      refine ⟨⟨f, true⟩ :: offers, by simp [hfilters], ?_, decides_cons ?_ hdecides⟩
      · rw [newTo, if_neg h, ← htaken]
        rfl
      · have hnew := mt any_constrains_iff.2 h
        simpa using hnew

end Conjunction

/-! ## What is isolated -/

namespace Aggregation

variable {a : Aggregation}

theorem facetField_of_filter_eq_none (h : a.filter = none) : a.facetField = a.field := by
  by_cases hfield : a.field = ""
  · rw [facetField, if_neg (not_not.2 hfield), h, hfield]
  · exact facetField_of_ne_empty hfield

/-- An aggregation without a filter gets the conjuncts on other fields. -/
theorem filter_isolate_of_eq_none (root : Conjunction) (h : a.filter = none) :
    (a.isolate root).filter = some (.all (root.others a.field)) := by
  have hfilter := (isolatedFrom_isolate root a).filter
  rw [h] at hfilter
  rw [hfilter, facetField_of_filter_eq_none h]

end Aggregation

theorem Config.filter_of_mem_predefined {config : Config} {a : Aggregation}
    (h : a ∈ config.predefined) : a.filter = none := by
  obtain ⟨_, -, rfl⟩ := List.mem_map.1 h
  rfl

namespace Draft

variable {d : Draft} {parsed : Parsed} {a : Aggregation}

theorem filter_of_filterFacet? {f : Filter} (h : d.filterFacet? f = some a) : a.filter = none := by
  unfold filterFacet? at h
  split at h
  · obtain rfl := Option.some.inj h
    rfl
  · obtain rfl := Option.some.inj h
    rfl
  · cases h

theorem filter_of_mem_facetsOf (h : a ∈ d.facetsOf parsed) : a.filter = none := by
  rcases List.mem_append.1 h with h | h
  · obtain ⟨f, -, hf⟩ := List.mem_filterMap.1 h
    exact filter_of_filterFacet? hf
  · obtain ⟨keyword, -, rfl⟩ := List.mem_map.1 h
    rfl

theorem filter_of_mem_acceptFacets {predefined : List Aggregation}
    (hpredefined : ∀ a ∈ predefined, a.filter = none)
    (h : a ∈ (d.acceptFacets predefined parsed).aggregations) : a.filter = none := by
  rcases List.mem_append.1 (Aggregation.mem_of_mem_unique h) with h | h
  · exact hpredefined a h
  · exact filter_of_mem_facetsOf h

@[simp] theorem filter_sortBy (d : Draft) (expression : String) :
    (d.sortBy expression).filter = d.filter := by
  unfold sortBy
  split <;> rfl

@[simp] theorem aggregations_sortBy (d : Draft) (expression : String) :
    (d.sortBy expression).aggregations = d.aggregations := by
  unfold sortBy
  split <;> rfl

end Draft

/-! ## From the query to the request -/

namespace Catalog

variable {config : Config} {compiler : PatternCompiler} {parser : ExpressionParser}
  {provider : Provider} {catalog : Catalog} {query : Query} {request : Request}

/-- The request of a query, from what is found in its filter expression and in its facet
expression. -/
def requestOf (catalog : Catalog) (query : Query) (filters facets : Parsed) : Request :=
  let draft := ((catalog.prepare query).acceptFilters filters).addTerms
    catalog.config.search.defaultTerms true
  ((draft.acceptFacets catalog.config.predefined facets).sortBy
    (query.sort.getD "")).isolateFacets.toRequest

theorem ofConfig_eq_ok_iff :
    ofConfig config compiler parser provider = .ok catalog ↔ config.validate compiler = .ok () ∧
      ∃ mapper, config.mapper compiler = .ok mapper ∧
        catalog = ⟨config, mapper, parser, provider⟩ := by
  unfold ofConfig
  cases config.validate compiler <;> cases config.mapper compiler <;>
    simp [bind, Except.bind, pure, Except.pure, eq_comm]

/-- The settings of a query, over those of the configuration. -/
theorem settings_eq (catalog : Catalog) (query : Query) :
    let content := catalog.config.search.contentField
    let culture := (query.culture.bind Draft.nonBlank).map Text.lowercase
    catalog.settings query = { Draft.ofConfig catalog.config catalog.mapper with
      skip := query.skip.getD 0
      take := query.take.getD catalog.config.search.defaultTake
      keywords := query.keyword.bind Draft.nonBlank
      searchFields := content :: (culture.map (content ++ "_" ++ ·)).toList
      includeFields := query.includeFields
      fuzzy := query.fuzzy
      fuzziness := query.fuzzyLevel
      currency := query.currency.bind Draft.nonBlank
      culture
      parser := some catalog.parser } := by
  unfold settings
  cases query.culture <;> cases query.currency <;> cases query.keyword <;> rfl

theorem prepare_eq (catalog : Catalog) (query : Query) :
    catalog.prepare query = { (catalog.settings query).restrict
        (Draft.idsOf query.objectIds ++ Draft.termsOf catalog.mapper query.terms) with
      take := if query.objectIds = [] then query.take.getD catalog.config.search.defaultTake
        else Int64.ofNat query.objectIds.length } := by
  rw [prepare, Draft.addIds_eq, Draft.addTerms_false, settings_eq]
  rfl

@[simp] theorem mapper_prepare (catalog : Catalog) (query : Query) :
    (catalog.prepare query).mapper = catalog.mapper := by
  rw [prepare_eq, settings_eq]
  rfl

@[simp] theorem currency_prepare (catalog : Catalog) (query : Query) :
    (catalog.prepare query).currency = query.currency.bind Draft.nonBlank := by
  rw [prepare_eq, settings_eq]
  rfl

@[simp] theorem parser_prepare (catalog : Catalog) (query : Query) :
    (catalog.prepare query).parser = some catalog.parser := by
  rw [prepare_eq, settings_eq]
  rfl

/-- Compiling asks for the facet expression only when the filter expression is understood, sends
nothing, and fails only where the parser does. -/
theorem compile_eq (catalog : Catalog) (query : Query) :
    catalog.compile query =
      match catalog.parser.found (query.filter.getD "") with
      | .error e => ⟨Consulted.calls (query.filter.getD ""), [], .error e⟩
      | .ok filters =>
        ⟨Consulted.calls (query.filter.getD "") ++ Consulted.calls (query.facet.getD ""), [],
          (catalog.parser.found (query.facet.getD "")).map (catalog.requestOf query filters)⟩ := by
  have hfacets : ∀ filters,
      let draft := ((catalog.prepare query).acceptFilters filters).addTerms
        catalog.config.search.defaultTerms true
      (draft.addFacets (query.facet.getD "") catalog.config.predefined >>= fun draft =>
          pure ((draft.sortBy (query.sort.getD "")).isolateFacets).toRequest) =
        ⟨Consulted.calls (query.facet.getD ""), [],
          (catalog.parser.found (query.facet.getD "")).map (catalog.requestOf query filters)⟩ := by
    intro filters draft
    have hparser : draft.parser = some catalog.parser := by
      simp only [draft, Draft.addTerms_true]
      exact parser_prepare catalog query
    rw [Draft.addFacets_eq hparser, Consulted.bind_pure_comp]
    cases catalog.parser.found (query.facet.getD "") <;> rfl
  unfold compile
  rw [Draft.addFilters_eq (parser_prepare catalog query)]
  cases catalog.parser.found (query.filter.getD "") with
  | error e => rfl
  | ok filters =>
    refine (Consulted.bind_of_ok rfl _).trans ?_
    rw [hfacets]
    rfl

/-- A query compiles when something is found in both expressions, and to nothing else than its
request. -/
theorem result_compile_eq_ok_iff :
    (catalog.compile query).result = .ok request ↔
      ∃ filters facets, catalog.parser.found (query.filter.getD "") = .ok filters ∧
        catalog.parser.found (query.facet.getD "") = .ok facets ∧
        request = catalog.requestOf query filters facets := by
  rw [compile_eq]
  cases catalog.parser.found (query.filter.getD "") with
  | error e => simp
  | ok filters => simp [Draft.map_eq_ok_iff]

theorem filter_acceptFilters_prepare (catalog : Catalog) (query : Query) (filters : Parsed) :
    ((catalog.prepare query).acceptFilters filters).filter =
      ⟨query.conjuncts catalog.mapper filters⟩ := by
  rw [prepare_eq, settings_eq]
  rfl

theorem mapper_acceptFilters_prepare (catalog : Catalog) (query : Query) (filters : Parsed) :
    ((catalog.prepare query).acceptFilters filters).mapper = catalog.mapper :=
  mapper_prepare catalog query

/-- The root is what the query adds by itself, and the defaults that are new to it. -/
theorem conjuncts_requestOf (catalog : Catalog) (query : Query) (filters facets : Parsed) :
    let own := query.conjuncts catalog.mapper filters
    (catalog.requestOf query filters facets).filter.conjuncts = own ++
      Conjunction.newTo ⟨own⟩
        (Draft.termsOf catalog.mapper catalog.config.search.defaultTerms) := by
  intro own
  simp only [requestOf, Draft.isolateFacets, Draft.filter_sortBy, Draft.acceptFacets,
    Draft.addTerms_true, Draft.filter_restrict, filter_acceptFilters_prepare,
    mapper_acceptFilters_prepare, own]

/-- The aggregations are the first ones of their ids, isolated from the root. -/
theorem aggregations_requestOf (catalog : Catalog) (query : Query) (filters facets : Parsed) :
    (catalog.requestOf query filters facets).aggregations =
      Aggregation.isolateEach (catalog.requestOf query filters facets).filter
        (Aggregation.unique
          (catalog.config.predefined ++ (catalog.prepare query).facetsOf facets)) := by
  simp only [requestOf, Draft.isolateFacets, Draft.filter_sortBy, Draft.aggregations_sortBy,
    Draft.acceptFacets, Draft.addTerms_true]
  rfl

theorem nodup_ids_requestOf (catalog : Catalog) (query : Query) (filters facets : Parsed) :
    ((catalog.requestOf query filters facets).aggregations.map (·.id)).Nodup := by
  have hids : ∀ (root : Conjunction) (as : List Aggregation),
      (Aggregation.isolateEach root as).map (·.id) = as.map (·.id) := by
    intro root as
    simp [Aggregation.isolateEach]
  rw [aggregations_requestOf, hids]
  exact Aggregation.nodup_unique _

/-- Every aggregation counts what passes the conjuncts of the whole root on other fields. -/
theorem filter_of_mem_requestOf {filters facets : Parsed} {a : Aggregation}
    (h : a ∈ (catalog.requestOf query filters facets).aggregations) :
    a.filter = some (.all ((catalog.requestOf query filters facets).filter.others a.field)) := by
  obtain ⟨b, hb, rfl⟩ := List.mem_map.1 h
  rw [Draft.aggregations_sortBy] at hb
  have hnone : b.filter = none :=
    Draft.filter_of_mem_acceptFacets (fun _ => Config.filter_of_mem_predefined) hb
  exact Aggregation.filter_isolate_of_eq_none _ hnone

/-- The root of a compiled request is put together from the ids, the terms and the filter
expression of the query, in this order, and of the default terms each one for whose field there
is no named conjunct before. The aggregations are isolated from the root as a whole. -/
theorem compile_root_exact (hcatalog : ofConfig config compiler parser provider = .ok catalog)
    (hrequest : (catalog.compile query).result = .ok request) :
    ∃ mapper parsed offers, config.mapper compiler = .ok mapper ∧
      parser.found (query.filter.getD "") = .ok parsed ∧
      offers.map Offer.filter = Draft.termsOf mapper config.search.defaultTerms ∧
      request.filter.conjuncts = query.conjuncts mapper parsed ++ Offer.takenOf offers ∧
      Conjunction.Decides ⟨query.conjuncts mapper parsed⟩ offers ∧
      ∀ a ∈ request.aggregations, a.filter = some (.all (request.filter.others a.field)) := by
  obtain ⟨-, mapper, hmapper, rfl⟩ := ofConfig_eq_ok_iff.1 hcatalog
  obtain ⟨filters, facets, hfilters, -, rfl⟩ := result_compile_eq_ok_iff.1 hrequest
  obtain ⟨offers, hoffers, htaken, hdecides⟩ :=
    Conjunction.exists_offers ⟨query.conjuncts mapper filters⟩
      (Draft.termsOf mapper config.search.defaultTerms)
  refine ⟨mapper, filters, offers, hmapper, hfilters, hoffers, ?_, hdecides, ?_⟩
  · rw [htaken]
    exact conjuncts_requestOf _ query filters facets
  · intro a ha
    exact filter_of_mem_requestOf ha

/-- The typed color keeps the default one out, and the default status gets in. -/
theorem compile_root_exact_defaults :
    let config : Config := { search := { defaultTerms := ["color:red", "status:visible"] } }
    let parser : ExpressionParser := fun _ => .ok { filters := [.wildcard "size" "L*"] }
    let provider : Provider := fun _ => .error (.provider "closed")
    let catalog : Catalog := ⟨config, .catalog, parser, provider⟩
    let query : Query := { objectIds := ["p1"], terms := ["Color:blue"], filter := some "large" }
    let request := catalog.requestOf query { filters := [.wildcard "size" "L*"] } {}
    ofConfig config Pattern.compile parser provider = .ok catalog ∧
      (catalog.compile query).result = .ok request ∧
      request.filter.conjuncts = [.ids ["p1"], .term "Color" ["blue"], .wildcard "size" "L*",
        .term "status" ["visible"]] := by
  intro config parser provider catalog query request
  have hcatalog : ofConfig config Pattern.compile parser provider = .ok catalog :=
    ofConfig_eq_ok_iff.2 ⟨by decide, _, rfl, rfl⟩
  have hrequest : (catalog.compile query).result = .ok request :=
    result_compile_eq_ok_iff.2 ⟨_, _, by decide, by decide, rfl⟩
  obtain ⟨mapper, parsed, offers, hmapper, hparsed, hoffers, hroot, hdecides, -⟩ :=
    compile_root_exact hcatalog hrequest
  obtain rfl : FieldMapper.catalog = mapper := Except.ok.inj hmapper
  have hfound : parser.found "large" = .ok { filters := [.wildcard "size" "L*"] } := by decide
  obtain rfl := Except.ok.inj (hfound.symm.trans hparsed)
  have hown : query.conjuncts .catalog { filters := [.wildcard "size" "L*"] } =
      [.ids ["p1"], .term "Color" ["blue"], .wildcard "size" "L*"] := by decide +kernel
  have hterms : Draft.termsOf .catalog config.search.defaultTerms =
      [.term "color" ["red"], .term "status" ["visible"]] := by decide +kernel
  rw [hown] at hroot hdecides
  rw [hterms] at hoffers
  obtain ⟨⟨_, color⟩, _, rfl, rfl, hrest⟩ := List.map_eq_cons_iff.1 hoffers
  obtain ⟨⟨_, status⟩, _, rfl, rfl, hnil⟩ := List.map_eq_cons_iff.1 hrest
  obtain rfl := List.map_eq_nil_iff.1 hnil
  have hcolor : color = false := by
    rw [← Bool.not_eq_true, hdecides [] _ _ rfl]
    dsimp only
    decide +kernel
  subst hcolor
  have hstatus : status = true := by
    rw [hdecides [_] _ _ rfl]
    dsimp only
    decide +kernel
  subst hstatus
  refine ⟨hcatalog, hrequest, ?_⟩
  rw [hroot]
  rfl

end Catalog

end FacetedSearch
